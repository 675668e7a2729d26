import Loom.JsonText
import Mathlib.Data.List.TakeDrop
import Mathlib.Data.List.TakeWhile
import Mathlib.Tactic.IntervalCases

/-!
# What is written is read back

`json.loads` of what `json.dumps` writes is the value, and the text is one line of printable ASCII.
-/

namespace Loom

namespace JsonText

/-- What follows a value in a text that `json.dumps` writes. -/
def Stops (rest : List Char) : Prop :=
  ∀ next ∈ rest.head?, next = ',' ∨ next = ']' ∨ next = '}'

theorem stops_nil : Stops [] := fun _ isHead => nomatch isHead

theorem stops_cons {next : Char} {rest : List Char}
    (stops : next = ',' ∨ next = ']' ∨ next = '}') : Stops (next :: rest) := by
  intro other isHead
  obtain rfl := Option.some.inj isHead
  exact stops

/-! ### Integers -/

theorem digits_append {front rest : List Char} (areDigits : ∀ char ∈ front, char.isDigit = true)
    (stops : ∀ next ∈ rest.head?, next.isDigit = false) :
    digits (front ++ rest) = (front, rest) := by
  unfold digits
  rw [List.span_eq_takeWhile_dropWhile, List.takeWhile_append_of_pos areDigits,
    List.dropWhile_append_of_pos areDigits]
  cases rest with
  | nil => simp
  | cons next rest =>
      have notDigit := stops next rfl
      rw [List.takeWhile_cons_of_neg (by rw [notDigit]; exact Bool.false_ne_true),
        List.dropWhile_cons_of_neg (by rw [notDigit]; exact Bool.false_ne_true), List.append_nil]

theorem Stops.notDigit {rest : List Char} (stops : Stops rest) :
    ∀ next ∈ rest.head?, next.isDigit = false := by
  intro next isHead
  rcases stops next isHead with rfl | rfl | rfl
  · rfl
  · rfl
  · rfl

theorem Stops.fraction {rest : List Char} (stops : Stops rest) :
    JsonText.fraction rest = ([], rest) := by
  cases rest with
  | nil => rfl
  | cons next rest =>
      rcases stops next rfl with rfl | rfl | rfl
      · rfl
      · rfl
      · rfl

theorem Stops.exponent {rest : List Char} (stops : Stops rest) :
    JsonText.exponent rest = ([], rest) := by
  cases rest with
  | nil => rfl
  | cons next rest =>
      rcases stops next rfl with rfl | rfl | rfl
      · rfl
      · rfl
      · rfl

/-- A numeral begins with no zero, unless it is one. -/
theorem numeral_head (number : Nat) :
    numeral number = ['0'] ∨
      ∃ first rest, numeral number = first :: rest ∧ first.isDigit = true ∧ first ≠ '0' := by
  induction number using Nat.strongRecOn with
  | ind number ih =>
      unfold numeral at ih ⊢
      by_cases small : number < 10
      · rw [Nat.toDigits_of_lt_base small]
        by_cases isZero : number = 0
        · subst isZero
          exact Or.inl rfl
        · refine Or.inr ⟨_, [], rfl, ?_⟩
          interval_cases number
          all_goals first
            | exact absurd rfl isZero
            | exact ⟨by decide, by decide⟩
      · have big : 10 ≤ number := Nat.le_of_not_lt small
        rw [Nat.toDigits_of_base_le (by decide) big]
        rcases ih (number / 10) (by omega) with isZero | ⟨first, rest, isFirst, isDigit, notZero⟩
        · have value := congrArg (fun chars => Nat.ofDigitChars 10 chars 0) isZero
          rw [Nat.ofDigitChars_ten_toDigits] at value
          have none : number / 10 = 0 := value
          omega
        · exact Or.inr ⟨first, rest ++ [Nat.digitChar (number % 10)], by rw [isFirst]; rfl, isDigit,
            notZero⟩

theorem numeral_digits (number : Nat) : ∀ char ∈ numeral number, char.isDigit = true :=
  fun _ isMem => Nat.isDigit_of_mem_toDigits (by decide) (by decide) isMem

theorem whole_numeral {number : Nat} {rest : List Char} (stops : Stops rest) :
    whole (numeral number ++ rest) = some (numeral number, rest) := by
  rcases numeral_head number with isZero | ⟨first, others, isFirst, isDigit, notZero⟩
  · rw [isZero]
    rfl
  · have split := digits_append (numeral_digits number) stops.notDigit
    rw [isFirst] at split ⊢
    unfold whole
    rw [List.cons_append] at split ⊢
    split
    · rename_i same
      cases same
      exact (notZero rfl).elim
    · rename_i same
      rw [split]

theorem minus_numeral {number : Nat} {rest : List Char} :
    minus (numeral number ++ rest) = ([], numeral number ++ rest) := by
  rcases numeral_head number with isZero | ⟨first, others, isFirst, isDigit, _⟩
  · rw [isZero]
    rfl
  · rw [isFirst, List.cons_append]
    unfold minus
    split
    · rename_i same
      cases same
      cases isDigit
    · rfl

/-- The token of an integer. -/
def intToken (number : Int) : Token where
  negative := decide (number < 0)
  whole := numeral number.natAbs
  others := []

theorem number_intText {number : Int} {rest : List Char} (stops : Stops rest) :
    JsonText.number (intText number ++ rest) = some (intToken number, rest) := by
  unfold intText intToken JsonText.number
  by_cases isNegative : number < 0
  · rw [if_pos isNegative]
    simp only [List.cons_append, minus, whole_numeral stops, Option.map_some, stops.fraction,
      stops.exponent, isNegative, decide_true, List.append_nil, List.isEmpty_cons, Bool.not_false]
  · rw [if_neg isNegative]
    simp only [minus_numeral, whole_numeral stops, Option.map_some, stops.fraction, stops.exponent,
      isNegative, decide_false, List.append_nil, List.isEmpty_nil, Bool.not_true]

theorem intOf_intToken (number : Int) : intOf (intToken number) = number := by
  unfold intOf intToken numeral
  dsimp only
  rw [Nat.ofDigitChars_ten_toDigits]
  by_cases isNegative : number < 0
  · rw [if_pos (decide_eq_true isNegative)]
    omega
  · rw [if_neg (by simpa using isNegative)]
    omega

/-! ### Strings -/

theorem hexValue_hexChar {digit : Nat} (small : digit < 16) : hexValue (hexChar digit) =
    some digit := by
  interval_cases digit
  all_goals decide

theorem hexNumber_unicode {code : Nat} (small : code < 0x10000) :
    hexNumber (hexChar (code / 4096 % 16)) (hexChar (code / 256 % 16)) (hexChar (code / 16 % 16))
      (hexChar (code % 16)) = some code := by
  unfold hexNumber
  rw [hexValue_hexChar (Nat.mod_lt _ (by decide)), hexValue_hexChar (Nat.mod_lt _ (by decide)),
    hexValue_hexChar (Nat.mod_lt _ (by decide)), hexValue_hexChar (Nat.mod_lt _ (by decide))]
  change some _ = some code
  refine congrArg some ?_
  omega

/-- One character more. -/
def prepend (char : Char) (read : Except Failure (List Char × List Char)) :
    Except Failure (List Char × List Char) :=
  read.map fun (text, rest) => (char :: text, rest)

theorem string_unicode {code : Nat} (small : code < 0x10000) (plain : code < 0xD800 ∨ 0xDFFF < code)
    (rest : List Char) : string (unicode code ++ rest) =
      prepend (Char.ofNat code) (string rest) := by
  unfold unicode
  simp only [List.cons_append, List.nil_append]
  rw [string, hexNumber_unicode small]
  dsimp only
  rw [if_pos plain]
  rfl

theorem string_surrogates {high low : Nat} (isHigh : 0xD800 ≤ high ∧ high ≤ 0xDBFF)
    (isLow : 0xDC00 ≤ low ∧ low ≤ 0xDFFF) (rest : List Char) :
    string (unicode high ++ unicode low ++ rest) =
      prepend (Char.ofNat (0x10000 + (high - 0xD800) * 1024 + (low - 0xDC00))) (string rest) := by
  unfold unicode
  simp only [List.cons_append, List.nil_append]
  rw [string, hexNumber_unicode (by omega)]
  dsimp only
  rw [if_neg (by omega)]
  split
  · rename_i same
    simp only [List.cons.injEq, true_and] at same
    obtain ⟨rfl, rfl, rfl, rfl, rfl⟩ := same
    rw [hexNumber_unicode (by omega)]
    dsimp only
    rw [if_pos (by omega)]
    rfl
  · rename_i other
    exact (other _ _ _ _ _ rfl).elim

/-- A character of its own. -/
theorem string_plain {char : Char} (notQuote : char ≠ '"') (notSlash : char ≠ '\\')
    (isPlain : ' ' ≤ char) (rest : List Char) :
    string (char :: rest) = prepend char (string rest) := by
  rw [string.eq_def]
  split
  · rename_i same
    cases same
  · rename_i same
    cases same
    exact (notQuote rfl).elim
  · rename_i same
    cases same
    exact (notSlash rfl).elim
  · rename_i same
    cases same
    exact (notSlash rfl).elim
  · rename_i same
    cases same
    exact (notSlash rfl).elim
  · rename_i same
    cases same
    exact (notSlash rfl).elim
  · rename_i same
    cases same
    have notControl : ¬char < ' ' := Char.not_lt.2 isPlain
    rw [if_neg notControl]
    rfl

theorem string_escape (char : Char) (rest : List Char) :
    string (escape char ++ rest) = prepend char (string rest) := by
  unfold escape
  split
  · rename_i isQuote
    subst isQuote
    rfl
  split
  · rename_i isSlash
    subst isSlash
    rfl
  split
  · rename_i same
    subst same
    rfl
  split
  · rename_i same
    subst same
    rfl
  split
  · rename_i same
    subst same
    rfl
  split
  · rename_i same
    subst same
    rfl
  split
  · rename_i same
    subst same
    rfl
  rename_i notQuote notSlash _ _ _ _ _
  split
  · rename_i isPlain
    exact string_plain notQuote notSlash isPlain.1 rest
  split
  · rename_i small
    have valid : char.toNat < 0xD800 ∨ 0xDFFF < char.toNat := by
      rcases char.valid with low | high
      · exact Or.inl low
      · exact Or.inr high.1
    rw [string_unicode small valid, Char.ofNat_toNat]
  · rename_i big
    have bounded : char.toNat < 0x110000 := by
      rcases char.valid with low | high
      · exact low.trans (by decide)
      · exact high.2
    rw [string_surrogates (by omega) (by omega)]
    have same : 0x10000 + (0xD800 + (char.toNat - 0x10000) / 1024 - 0xD800) * 1024 +
        (0xDC00 + (char.toNat - 0x10000) % 1024 - 0xDC00) = char.toNat := by
      omega
    rw [same, Char.ofNat_toNat]

theorem string_stringText (text : List Char) (rest : List Char) :
    string (text.flatMap escape ++ '"' :: rest) = .ok (text, rest) := by
  induction text with
  | nil => rfl
  | cons char text ih =>
      rw [List.flatMap_cons, List.append_assoc, string_escape, ih]
      rfl

/-! ### Heads -/

/-- A character that begins a value. -/
def Begins (char : Char) : Prop := isBlank char = false ∧ char ≠ ']' ∧ char ≠ '}'

theorem begins_digit {char : Char} (isDigit : char.isDigit = true) : Begins char := by
  refine ⟨?_, ?_, ?_⟩
  · unfold isBlank
    simp only [Bool.or_eq_false_iff, decide_eq_false_iff_not]
    refine ⟨⟨⟨?_, ?_⟩, ?_⟩, ?_⟩
    all_goals
      rintro rfl
      cases isDigit
  · rintro rfl
    cases isDigit
  · rintro rfl
    cases isDigit

/-- The text of a number begins with `-` or a digit, and with a digit after `-`. -/
theorem number_head {chars rest : List Char} {token : Token}
    (reads : number chars = some (token, rest)) :
    ∃ first others, chars = first :: others ∧
      (first.isDigit = true ∨ first = '-' ∧ ∃ second more, others = second :: more ∧
        second.isDigit = true) := by
  have wholeHead : ∀ {chars : List Char} {found : List Char × List Char},
      whole chars = some found → ∃ first others, chars = first :: others ∧
        first.isDigit = true := by
    intro chars found isWhole
    unfold whole at isWhole
    split at isWhole
    · exact ⟨_, _, rfl, rfl⟩
    · split at isWhole
      · cases isWhole
      · rename_i notEmpty
        cases chars with
        | nil => exact (notEmpty [] rfl).elim
        | cons first others =>
            refine ⟨first, others, rfl, ?_⟩
            by_contra notDigit
            refine notEmpty (first :: others) ?_
            unfold digits
            rw [List.span_eq_takeWhile_dropWhile, List.takeWhile_cons_of_neg notDigit,
              List.dropWhile_cons_of_neg notDigit]
  unfold number at reads
  obtain ⟨found, isWhole, _⟩ := Option.map_eq_some_iff.1 reads
  obtain ⟨first, others, isFirst, isDigit⟩ := wholeHead isWhole
  split at isFirst
  · refine ⟨_, _, rfl, Or.inr ⟨rfl, first, others, isFirst, isDigit⟩⟩
  · exact ⟨first, others, isFirst, Or.inl isDigit⟩

theorem number_begins {chars rest : List Char} {token : Token}
    (reads : number chars = some (token, rest)) :
    ∃ first others, chars = first :: others ∧ Begins first := by
  obtain ⟨first, others, isFirst, isDigit | ⟨rfl, _⟩⟩ := number_head reads
  · exact ⟨first, others, isFirst, begins_digit isDigit⟩
  · exact ⟨'-', others, isFirst, rfl, by decide, by decide⟩

section Values

variable {floats : Floats}

theorem dumps_begins : ∀ {depth : Nat} {json : Json}, Writable floats depth json →
    ∃ first others, dumps floats json = first :: others ∧ Begins first := by
  intro depth json writable
  cases json with
  | null => exact ⟨_, _, rfl, rfl, by decide, by decide⟩
  | bool flag =>
      cases flag with
      | true => exact ⟨_, _, rfl, rfl, by decide, by decide⟩
      | false => exact ⟨_, _, rfl, rfl, by decide, by decide⟩
  | int number =>
      have reads := @number_intText number [] stops_nil
      rw [List.append_nil] at reads
      exact number_begins reads
  | float number =>
      have reads := (floats.shape number writable).2 [] stops_nil
      rw [List.append_nil] at reads
      exact number_begins reads
  | str text => exact ⟨_, _, rfl, rfl, by decide, by decide⟩
  | arr items =>
      cases items with
      | nil => exact ⟨_, _, rfl, rfl, by decide, by decide⟩
      | cons item items => exact ⟨_, _, rfl, rfl, by decide, by decide⟩
  | obj entries =>
      cases entries with
      | nil => exact ⟨_, _, rfl, rfl, by decide, by decide⟩
      | cons entry entries => exact ⟨_, _, rfl, rfl, by decide, by decide⟩

theorem skip_cons {first : Char} {rest : List Char} (notBlank : isBlank first = false) :
    skip (first :: rest) = first :: rest := by
  unfold skip
  rw [List.dropWhile_cons_of_neg (by rw [notBlank]; exact Bool.false_ne_true)]

theorem skip_dumps {depth : Nat} {json : Json} (writable : Writable floats depth json)
    (rest : List Char) : skip (dumps floats json ++ rest) = dumps floats json ++ rest := by
  obtain ⟨first, others, isFirst, notBlank, _⟩ := dumps_begins writable
  rw [isFirst, List.cons_append, skip_cons notBlank]

/-- A space is skipped. -/
theorem skip_space (rest : List Char) : skip (' ' :: rest) = skip rest := rfl

theorem Stops.skip {rest : List Char} (stops : Stops rest) : JsonText.skip rest = rest := by
  cases rest with
  | nil => rfl
  | cons next rest =>
      rcases stops next rfl with rfl | rfl | rfl
      · rfl
      · rfl
      · rfl

/-! ### Numbers among values -/

theorem valueWith_number {nested : Option (List Char → Except Failure (Json × List Char))}
    {chars rest : List Char} {token : Token} (reads : number chars = some (token, rest)) :
    valueWith floats nested chars = numberValue floats chars := by
  obtain ⟨first, others, rfl, isDigit | ⟨rfl, second, more, rfl, isDigit⟩⟩ := number_head reads
  · unfold valueWith
    split
    all_goals first
      | rfl
      | (rename_i same
         cases same
         cases isDigit)
  · unfold valueWith
    split
    all_goals first
      | rfl
      | (rename_i same
         cases same
         cases isDigit)
      | (rename_i same
         cases same)

theorem valueWith_int {nested : Option (List Char → Except Failure (Json × List Char))}
    {number : Int} {rest : List Char} (few : (numeral number.natAbs).length ≤ 4300)
    (stops : Stops rest) :
    valueWith floats nested (intText number ++ rest) = .ok (.int number, rest) := by
  have reads := @number_intText number rest stops
  rw [valueWith_number reads]
  unfold numberValue
  rw [reads]
  have noOthers : (intToken number).others = [] := rfl
  have short : ¬4300 < (intToken number).whole.length := not_lt.2 few
  dsimp only
  rw [if_pos noOthers, if_neg short, intOf_intToken]

theorem valueWith_float {nested : Option (List Char → Except Failure (Json × List Char))}
    {number : ℚ} {rest : List Char} (isDouble : floats.isDouble number) (stops : Stops rest) :
    valueWith floats nested ((floats.repr number).chars ++ rest) = .ok (.float number, rest) := by
  obtain ⟨notInt, shape⟩ := floats.shape number isDouble
  have reads := shape rest stops
  rw [valueWith_number reads]
  unfold numberValue
  rw [reads]
  dsimp only
  rw [if_neg notInt, floats.read_repr number isDouble]

/-! ### Every value -/

theorem stops_moreItems (items : List Json) (rest : List Char) :
    Stops (moreItems floats items ++ rest) := by
  cases items with
  | nil => exact stops_cons (Or.inr (Or.inl rfl))
  | cons item items => exact stops_cons (Or.inl rfl)

theorem stops_moreEntries (entries : Dict) (rest : List Char) :
    Stops (moreEntries floats entries ++ rest) := by
  cases entries with
  | nil => exact stops_cons (Or.inr (Or.inr rfl))
  | cons entry entries => exact stops_cons (Or.inl rfl)

theorem length_moreItems (items : List Json) : items.length ≤ (moreItems floats items).length := by
  induction items with
  | nil => exact Nat.zero_le _
  | cons item items ih =>
      rw [moreItems, List.length_append, List.length_cons, List.length_cons, List.length_cons]
      omega

theorem length_moreEntries (entries : Dict) :
    entries.length ≤ (moreEntries floats entries).length := by
  induction entries with
  | nil => exact Nat.zero_le _
  | cons entry entries ih =>
      rw [moreEntries, List.length_append, List.length_append, List.length_append, List.length_cons,
        List.length_cons]
      simp only [List.length_cons, List.length_nil]
      omega

theorem assign_new {entries : Dict} {key : String} {item : Json}
    (isNew : key ∉ entries.map Prod.fst) : assign entries key item = entries ++ [(key, item)] := by
  have lacks : Dict.has entries key = false := by
    unfold Dict.has
    rw [Option.isSome_eq_false_iff, Option.isNone_iff_eq_none, List.lookup_eq_none_iff]
    intro entry isMem
    have differs : key ≠ entry.1 := fun same => isNew (by
      rw [same]
      exact List.mem_map_of_mem isMem)
    simpa using differs
  unfold assign
  rw [lacks]
  rfl

/-- A member of an object, from its opening quotation mark on. -/
def memberText (floats : Floats) (key : String) (item : Json) (rest : List Char) : List Char :=
  '"' :: (key.toList.flatMap escape ++ '"' :: ':' :: ' ' :: (dumps floats item ++ rest))

theorem skip_member (key : String) (item : Json) (rest : List Char) :
    skip (memberText floats key item rest) = memberText floats key item rest :=
  skip_cons rfl

theorem string_key (key : String) (rest : List Char) :
    string (key.toList.flatMap escape ++ '"' :: rest) = .ok (key.toList, rest) :=
  string_stringText key.toList rest

/-! ### One item, one member -/

section Steps

variable {read : List Char → Except Failure (Json × List Char)} {fuel : Nat} {item : Json}
  {chars rest after final : List Char}

theorem items_last (reads : read chars = .ok (item, rest)) (closes : skip rest = ']' :: after) :
    items read (fuel + 1) chars = .ok ([item], after) := by
  rw [items]
  simp only [reads, bind, Except.bind, closes]
  rfl

theorem items_more {more : List Json} (reads : read chars = .ok (item, rest))
    (goesOn : skip rest = ',' :: after) (others : items read fuel (skip after) =
      .ok (more, final)) :
    items read (fuel + 1) chars = .ok (item :: more, final) := by
  rw [items]
  simp only [reads, bind, Except.bind, goesOn, others]
  rfl

variable {entries : Dict} {key : String} {colon : List Char}

theorem members_last (named : string chars = .ok (key.toList, colon))
    (separated : skip colon = ':' :: rest) (reads : read (skip rest) = .ok (item, after))
    (closes : skip after = '}' :: final) :
    members read (fuel + 1) entries ('"' :: chars) = .ok (assign entries key item, final) := by
  rw [members]
  simp only [named, bind, Except.bind, separated, reads, closes, String.ofList_toList]
  rfl

theorem members_more {next : List Char} {result : Except Failure (Dict × List Char)}
    (named : string chars = .ok (key.toList, colon)) (separated : skip colon = ':' :: rest)
    (reads : read (skip rest) = .ok (item, after)) (goesOn : skip after = ',' :: next)
    (others : members read fuel (assign entries key item) (skip next) = result) :
    members read (fuel + 1) entries ('"' :: chars) = result := by
  rw [members]
  simp only [named, bind, Except.bind, separated, reads, goesOn, String.ofList_toList, others]

theorem array_items {first : Char} {found : List Json} (begins : skip chars = first :: rest)
    (notClosing : first ≠ ']')
    (reads : items read ((first :: rest).length + 1) (first :: rest) = .ok (found, final)) :
    array read chars = .ok (.arr found, final) := by
  unfold array
  rw [begins]
  split
  · rename_i same
    cases same
    exact (notClosing rfl).elim
  · rw [reads]
    rfl

theorem object_members {first : Char} {found : Dict} (begins : skip chars = first :: rest)
    (notClosing : first ≠ '}')
    (reads : members read ((first :: rest).length + 1) [] (first :: rest) = .ok (found, final)) :
    object read chars = .ok (.obj found, final) := by
  unfold object
  rw [begins]
  split
  · rename_i same
    cases same
    exact (notClosing rfl).elim
  · rw [reads]
    rfl

end Steps

mutual

/-- A value is read from its text. -/
theorem value_dumps : ∀ (json : Json) {depth : Nat} {rest : List Char},
    Writable floats depth json → Stops rest →
    value floats depth (dumps floats json ++ rest) = .ok (json, rest)
  | .null, 0, rest, _, _ => rfl
  | .null, depth + 1, rest, _, _ => rfl
  | .bool true, 0, rest, _, _ => rfl
  | .bool true, depth + 1, rest, _, _ => rfl
  | .bool false, 0, rest, _, _ => rfl
  | .bool false, depth + 1, rest, _, _ => rfl
  | .int number, 0, rest, writable, stops => valueWith_int writable stops
  | .int number, depth + 1, rest, writable, stops => valueWith_int writable stops
  | .float number, 0, rest, writable, stops => valueWith_float writable stops
  | .float number, depth + 1, rest, writable, stops => valueWith_float writable stops
  | .str text, depth, rest, _, _ => by
      have reads : ∀ nested, valueWith floats nested (stringText text ++ rest) =
          .ok (.str text, rest) := by
        intro nested
        unfold stringText
        simp only [List.cons_append, List.append_assoc, List.nil_append]
        change (string (text.toList.flatMap escape ++ '"' :: rest)).map _ = _
        rw [string_key]
        change Except.ok (Json.str (String.ofList text.toList), rest) = _
        rw [String.ofList_toList]
      cases depth with
      | zero => exact reads none
      | succ depth => exact reads (some (value floats depth))
  | .arr [], depth + 1, rest, _, _ => rfl
  | .arr (item :: more), depth + 1, rest, writable, _ => by
      obtain ⟨writableItem, writableItems⟩ := writable
      have few := @length_moreItems floats more
      have read : items (value floats depth)
          ((dumps floats item ++ (moreItems floats more ++ rest)).length + 1)
          (dumps floats item ++ (moreItems floats more ++ rest)) = .ok (item :: more, rest) := by
        refine items_dumps more (fun stops => value_dumps item writableItem stops) writableItems ?_
        simp only [List.length_append]
        omega
      have opens : value floats (depth + 1) (dumps floats (.arr (item :: more)) ++ rest) =
          array (value floats depth) ((dumps floats item ++ moreItems floats more) ++ rest) := rfl
      rw [opens, List.append_assoc]
      have skipped := skip_dumps writableItem (moreItems floats more ++ rest)
      obtain ⟨first, others, isFirst, notBlank, notClosing, _⟩ := dumps_begins writableItem
      rw [isFirst, List.cons_append] at read skipped ⊢
      exact array_items skipped notClosing read
  | .obj [], depth + 1, rest, _, _ => rfl
  | .obj ((key, item) :: entries), depth + 1, rest, writable, _ => by
      obtain ⟨distinct, writableItem, writableEntries⟩ := writable
      have few := @length_moreEntries floats entries
      have read : members (value floats depth)
          ((memberText floats key item (moreEntries floats entries ++ rest)).length + 1) []
          (memberText floats key item (moreEntries floats entries ++ rest)) =
          .ok ([] ++ (key, item) :: entries, rest) := by
        refine members_dumps entries (fun stops => value_dumps item writableItem stops) writableItem
          writableEntries (by simpa using distinct) ?_
        unfold memberText
        simp only [List.length_append, List.length_cons]
        omega
      have same : dumps floats (.obj ((key, item) :: entries)) ++ rest =
          '{' :: memberText floats key item (moreEntries floats entries ++ rest) := by
        rw [dumps]
        unfold memberText stringText
        simp only [List.cons_append, List.append_assoc, List.nil_append]
      have opens : value floats (depth + 1)
          ('{' :: memberText floats key item (moreEntries floats entries ++ rest)) =
          object (value floats depth)
            (memberText floats key item (moreEntries floats entries ++ rest)) := rfl
      rw [same, opens]
      exact object_members (skip_member key item _) (by decide) read

/-- The items of an array are read from their texts. -/
theorem items_dumps : ∀ (more : List Json) {depth fuel : Nat} {item : Json} {rest : List Char},
    (∀ {after : List Char}, Stops after →
      value floats depth (dumps floats item ++ after) = .ok (item, after)) →
    WritableItems floats depth more → more.length < fuel →
    items (value floats depth) fuel (dumps floats item ++ (moreItems floats more ++ rest)) =
      .ok (item :: more, rest)
  | _, _, 0, _, _, _, _, enough => absurd enough (Nat.not_lt_zero _)
  | [], depth, fuel + 1, item, rest, reads, _, _ =>
      items_last (reads (stops_moreItems [] rest)) rfl
  | next :: more, depth, fuel + 1, item, rest, reads, writable, enough => by
      obtain ⟨writableNext, writableMore⟩ := writable
      have read : items (value floats depth) fuel
          (dumps floats next ++ (moreItems floats more ++ rest)) = .ok (next :: more, rest) :=
        items_dumps more (fun stops => value_dumps next writableNext stops) writableMore
          (Nat.lt_of_succ_lt_succ enough)
      have same : moreItems floats (next :: more) ++ rest =
          ',' :: ' ' :: (dumps floats next ++ (moreItems floats more ++ rest)) := by
        rw [moreItems]
        simp only [List.cons_append, List.append_assoc]
      have goesOn : skip (moreItems floats (next :: more) ++ rest) =
          ',' :: ' ' :: (dumps floats next ++ (moreItems floats more ++ rest)) := by
        rw [same, skip_cons rfl]
      refine items_more (reads (stops_moreItems (next :: more) rest)) goesOn ?_
      rw [skip_space, skip_dumps writableNext, read]

/-- The members of an object are read from their texts. -/
theorem members_dumps : ∀ (entries : Dict) {depth fuel : Nat} {before : Dict} {key : String}
    {item : Json} {rest : List Char},
    (∀ {after : List Char}, Stops after →
      value floats depth (dumps floats item ++ after) = .ok (item, after)) →
    Writable floats depth item → WritableEntries floats depth entries →
    (before.map Prod.fst ++ key :: entries.map Prod.fst).Nodup → entries.length < fuel →
    members (value floats depth) fuel before
      (memberText floats key item (moreEntries floats entries ++ rest)) =
      .ok (before ++ (key, item) :: entries, rest)
  | _, _, 0, _, _, _, _, _, _, _, _, enough => absurd enough (Nat.not_lt_zero _)
  | entries, depth, fuel + 1, before, key, item, rest, reads, writable, writableEntries, distinct,
      enough => by
      have stops := @stops_moreEntries floats entries rest
      have isNew : key ∉ before.map Prod.fst := by
        intro isMem
        exact (List.nodup_append.1 distinct).2.2 key isMem key List.mem_cons_self rfl
      have named := string_key key (':' :: ' ' :: (dumps floats item ++
        (moreEntries floats entries ++ rest)))
      have readItem : value floats depth (skip (' ' :: (dumps floats item ++
          (moreEntries floats entries ++ rest)))) =
          .ok (item, moreEntries floats entries ++ rest) := by
        rw [skip_space, skip_dumps writable, reads stops]
      cases entries with
      | nil =>
          rw [← assign_new isNew]
          exact members_last named (skip_cons rfl) readItem rfl
      | cons entry entries =>
          obtain ⟨nextKey, next⟩ := entry
          obtain ⟨writableNext, writableMore⟩ := writableEntries
          have distinctMore : ((before ++ [(key, item)]).map Prod.fst ++
              nextKey :: entries.map Prod.fst).Nodup := by
            simpa only [List.map_append, List.map_cons, List.map_nil, List.append_assoc,
              List.cons_append, List.nil_append] using distinct
          have read : members (value floats depth) fuel (before ++ [(key, item)])
              (memberText floats nextKey next (moreEntries floats entries ++ rest)) =
              .ok ((before ++ [(key, item)]) ++ (nextKey, next) :: entries, rest) :=
            members_dumps entries (fun stops => value_dumps next writableNext stops) writableNext
              writableMore distinctMore (Nat.lt_of_succ_lt_succ enough)
          have shown : moreEntries floats ((nextKey, next) :: entries) ++ rest =
              ',' :: ' ' :: memberText floats nextKey next
                (moreEntries floats entries ++ rest) := by
            rw [moreEntries]
            unfold memberText stringText
            simp only [List.cons_append, List.append_assoc, List.nil_append]
          rw [List.append_assoc] at read
          have goesOn : skip (moreEntries floats ((nextKey, next) :: entries) ++ rest) =
              ',' :: ' ' :: memberText floats nextKey next
                (moreEntries floats entries ++ rest) := by
            rw [shown, skip_cons rfl]
          refine members_more named (skip_cons rfl) readItem goesOn ?_
          rw [assign_new isNew, skip_space, skip_member, read]
          rfl

end

/-- `json.loads` of what `json.dumps` writes. -/
theorem loadsText_dumps {depth : Nat} {json : Json} (writable : Writable floats depth json) :
    loadsText floats depth (dumps floats json) = .ok json := by
  have read := value_dumps json writable stops_nil
  have skipped := skip_dumps writable []
  rw [List.append_nil] at read skipped
  unfold loadsText
  rw [skipped, read]
  rfl

end Values

/-! ### Bytes -/

/-- A printable character of ASCII. -/
def Printable (char : Char) : Prop := ' ' ≤ char ∧ char ≤ '~'

theorem printable_of_all {chars : List Char}
    (all : (chars.all fun char => decide (' ' ≤ char ∧ char ≤ '~')) = true) :
    ∀ char ∈ chars, Printable char := by
  intro char isMem
  have isPlain : ' ' ≤ char ∧ char ≤ '~' := of_decide_eq_true (List.all_eq_true.1 all char isMem)
  exact isPlain

theorem printable_digit {char : Char} (isDigit : char.isDigit = true) : Printable char := by
  unfold Char.isDigit at isDigit
  rw [Bool.and_eq_true_iff, decide_eq_true_iff, decide_eq_true_iff] at isDigit
  have least : ' '.val ≤ '0'.val := by decide
  have most : '9'.val ≤ '~'.val := by decide
  exact ⟨UInt32.le_trans least isDigit.1, UInt32.le_trans isDigit.2 most⟩

theorem printable_hexChar {digit : Nat} (small : digit < 16) : Printable (hexChar digit) := by
  unfold Printable
  interval_cases digit
  all_goals decide

theorem printable_unicode (code : Nat) : ∀ char ∈ unicode code, Printable char := by
  intro char isMem
  unfold unicode at isMem
  simp only [List.mem_cons, List.not_mem_nil, or_false] at isMem
  rcases isMem with rfl | rfl | rfl | rfl | rfl | rfl
  · exact ⟨by decide, by decide⟩
  · exact ⟨by decide, by decide⟩
  all_goals exact printable_hexChar (Nat.mod_lt _ (by decide))

theorem printable_escape (char : Char) : ∀ other ∈ escape char, Printable other := by
  unfold escape
  iterate 7
    split
    · exact printable_of_all rfl
  split
  · rename_i isPlain
    intro other isMem
    rw [List.mem_singleton.1 isMem]
    exact isPlain
  split
  · exact printable_unicode _
  · intro other isMem
    rcases List.mem_append.1 isMem with isMem | isMem
    · exact printable_unicode _ other isMem
    · exact printable_unicode _ other isMem

theorem printable_stringText (text : String) : ∀ char ∈ stringText text, Printable char := by
  intro char isMem
  unfold stringText at isMem
  rcases List.mem_cons.1 isMem with rfl | isMem
  · exact ⟨by decide, by decide⟩
  rcases List.mem_append.1 isMem with isMem | isMem
  · obtain ⟨source, _, isEscaped⟩ := List.mem_flatMap.1 isMem
    exact printable_escape source char isEscaped
  · rw [List.mem_singleton.1 isMem]
    exact ⟨by decide, by decide⟩

theorem printable_named (key : String) : ∀ char ∈ stringText key ++ [':', ' '], Printable char := by
  intro char isMem
  rcases List.mem_append.1 isMem with isMem | isMem
  · exact printable_stringText key char isMem
  · exact printable_of_all rfl char isMem

theorem printable_intText (number : Int) : ∀ char ∈ intText number, Printable char := by
  intro char isMem
  unfold intText at isMem
  split at isMem
  · rcases List.mem_cons.1 isMem with rfl | isMem
    · exact ⟨by decide, by decide⟩
    · exact printable_digit (numeral_digits _ char isMem)
  · exact printable_digit (numeral_digits _ char isMem)

section Printables

variable {floats : Floats}

mutual

/-- The text of a value is printable. -/
theorem printable_dumps : ∀ (json : Json) {depth : Nat}, Writable floats depth json →
    ∀ char ∈ dumps floats json, Printable char
  | .null, _, _, char, isMem => by
      exact printable_of_all rfl char isMem
  | .bool true, _, _, char, isMem => by
      exact printable_of_all rfl char isMem
  | .bool false, _, _, char, isMem => by
      exact printable_of_all rfl char isMem
  | .int number, _, _, char, isMem => printable_intText number char isMem
  | .float number, _, writable, char, isMem => floats.plain number writable char isMem
  | .str text, _, _, char, isMem => printable_stringText text char isMem
  | .arr [], _, _, char, isMem => by
      exact printable_of_all rfl char isMem
  | .arr (item :: more), depth + 1, writable, char, isMem => by
      rcases List.mem_append.1 isMem with isMem | isMem
      · rcases List.mem_cons.1 isMem with rfl | isMem
        · exact ⟨by decide, by decide⟩
        · exact printable_dumps item writable.1 char isMem
      · exact printable_moreItems more writable.2 char isMem
  | .obj [], _, _, char, isMem => by
      exact printable_of_all rfl char isMem
  | .obj ((key, item) :: entries), depth + 1, writable, char, isMem => by
      rcases List.mem_append.1 isMem with isMem | isMem
      · rcases List.mem_append.1 isMem with isMem | isMem
        · rcases List.mem_cons.1 isMem with rfl | isMem
          · exact ⟨by decide, by decide⟩
          · exact printable_named key char isMem
        · exact printable_dumps item writable.2.1 char isMem
      · exact printable_moreEntries entries writable.2.2 char isMem

theorem printable_moreItems : ∀ (items : List Json) {depth : Nat},
    WritableItems floats depth items → ∀ char ∈ moreItems floats items, Printable char
  | [], _, _, char, isMem => by
      rw [List.mem_singleton.1 isMem]
      exact ⟨by decide, by decide⟩
  | item :: items, depth, writable, char, isMem => by
      rcases List.mem_append.1 isMem with isMem | isMem
      · rcases List.mem_cons.1 isMem with rfl | isMem
        · exact ⟨by decide, by decide⟩
        rcases List.mem_cons.1 isMem with rfl | isMem
        · exact ⟨by decide, by decide⟩
        · exact printable_dumps item writable.1 char isMem
      · exact printable_moreItems items writable.2 char isMem

theorem printable_moreEntries : ∀ (entries : Dict) {depth : Nat},
    WritableEntries floats depth entries → ∀ char ∈ moreEntries floats entries, Printable char
  | [], _, _, char, isMem => by
      rw [List.mem_singleton.1 isMem]
      exact ⟨by decide, by decide⟩
  | (key, item) :: entries, depth, writable, char, isMem => by
      rcases List.mem_append.1 isMem with isMem | isMem
      · rcases List.mem_append.1 isMem with isMem | isMem
        · rcases List.mem_cons.1 isMem with rfl | isMem
          · exact ⟨by decide, by decide⟩
          rcases List.mem_cons.1 isMem with rfl | isMem
          · exact ⟨by decide, by decide⟩
          · exact printable_named key char isMem
        · exact printable_dumps item writable.1 char isMem
      · exact printable_moreEntries entries writable.2 char isMem

end

end Printables

theorem Printable.bounds {char : Char} (printable : Printable char) :
    32 ≤ char.toNat ∧ char.toNat ≤ 126 := by
  obtain ⟨least, most⟩ := printable
  exact ⟨least, most⟩

/-- A byte of printable text. -/
theorem encode_bounds {chars : List Char} (printable : ∀ char ∈ chars, Printable char) :
    ∀ byte ∈ encode chars, 32 ≤ byte.toNat ∧ byte.toNat ≤ 126 := by
  intro byte isMem
  obtain ⟨char, isChar, rfl⟩ := List.mem_map.1 isMem
  obtain ⟨least, most⟩ := (printable char isChar).bounds
  rw [UInt8.toNat_ofNat', Nat.mod_eq_of_lt (by omega)]
  exact ⟨least, most⟩

theorem decode_encode {chars : List Char} (printable : ∀ char ∈ chars, Printable char) :
    decode (encode chars) = .ok chars := by
  induction chars with
  | nil => rfl
  | cons char rest ih =>
      obtain ⟨least, most⟩ := (printable char List.mem_cons_self).bounds
      have same : (UInt8.ofNat char.toNat).toNat = char.toNat := by
        rw [UInt8.toNat_ofNat', Nat.mod_eq_of_lt (by omega)]
      have small : UInt8.ofNat char.toNat < 0x80 := by
        rw [UInt8.lt_iff_toNat_lt, same]
        exact Nat.lt_of_le_of_lt most (by decide)
      change decode (UInt8.ofNat char.toNat :: encode rest) = _
      unfold decode
      rw [if_pos small, ih fun other isMem => printable other (List.mem_cons_of_mem _ isMem), same,
        Char.ofNat_toNat]
      rfl

theorem isEncodedOtherwise_encode {chars : List Char}
    (printable : ∀ char ∈ chars, Printable char) : isEncodedOtherwise (encode chars) = false := by
  have bounds := encode_bounds printable
  generalize encode chars = bytes at bounds
  have notZero : ∀ byte ∈ bytes, byte ≠ 0 := by
    rintro byte isMem rfl
    have least := (bounds 0 isMem).1
    exact absurd least (by decide)
  cases bytes with
  | nil => rfl
  | cons first rest =>
      have notMark : ∀ mark : UInt8, 126 < mark.toNat → first ≠ mark := by
        rintro mark big rfl
        exact absurd (bounds _ List.mem_cons_self).2 (Nat.not_le.2 big)
      delta isEncodedOtherwise isEncodedOtherwise.match_1
      change dite (first = 0xFE) _ _ = false
      rw [dif_neg (notMark 0xFE (by decide))]
      change dite (first = 0xFF) _ _ = false
      rw [dif_neg (notMark 0xFF (by decide))]
      change dite (first = 0xEF) _ _ = false
      rw [dif_neg (notMark 0xEF (by decide))]
      have isFirst := notZero first List.mem_cons_self
      cases rest with
      | nil => rfl
      | cons second rest =>
          have isSecond := notZero second (by simp)
          have plain : (decide (first = 0) || decide (second = 0)) = false := by
            simp [isFirst, isSecond]
          cases rest with
          | nil => exact plain
          | cons third rest =>
              cases rest with
              | nil => rfl
              | cons fourth rest => exact plain

/-- `json.loads(json.dumps(value).encode()) == value`. -/
theorem loads_dumps {python : Python} {json : Json}
    (writable : Writable python.floats python.depth json) :
    loads python (encode (dumps python.floats json)) = .ok json := by
  have printable := printable_dumps json writable
  unfold loads
  rw [isEncodedOtherwise_encode printable, if_neg Bool.false_ne_true, decode_encode printable]
  dsimp only [bind, Except.bind]
  rw [loadsText_dumps writable]

/-! ### The fuel is never spent -/

theorem length_skip_le (chars : List Char) : (skip chars).length ≤ chars.length :=
  (List.dropWhile_suffix isBlank).length_le

theorem digits_length (chars : List Char) :
    (digits chars).1.length + (digits chars).2.length = chars.length := by
  unfold digits
  rw [List.span_eq_takeWhile_dropWhile, ← List.length_append, List.takeWhile_append_dropWhile]

theorem minus_length_le (chars : List Char) : (minus chars).2.length ≤ chars.length := by
  unfold minus
  split
  · exact Nat.le_succ _
  · exact le_refl _

theorem fraction_length_le (chars : List Char) : (fraction chars).2.length ≤ chars.length := by
  unfold fraction
  split
  · rename_i rest
    have lengths := digits_length rest
    obtain ⟨found, after, isSplit⟩ : ∃ found after, digits rest = (found, after) := ⟨_, _, rfl⟩
    rw [isSplit] at lengths ⊢
    cases found with
    | nil => exact le_refl _
    | cons first others =>
        dsimp only at lengths ⊢
        rw [List.length_cons]
        omega
  · exact le_refl _

theorem sign_length_le (chars : List Char) : (sign chars).2.length ≤ chars.length := by
  unfold sign
  split
  · exact Nat.le_succ _
  · exact minus_length_le _

theorem exponent_length_le (chars : List Char) : (exponent chars).2.length ≤ chars.length := by
  unfold exponent
  split
  · exact le_refl _
  · rename_i first rest
    have lengths := digits_length (sign rest).2
    have signed := sign_length_le rest
    split
    · obtain ⟨found, after, isSplit⟩ : ∃ found after, digits (sign rest).2 = (found, after) :=
        ⟨_, _, rfl⟩
      rw [isSplit] at lengths ⊢
      cases found with
      | nil => exact le_refl _
      | cons digit others =>
          dsimp only at lengths ⊢
          rw [List.length_cons]
          omega
    · exact le_refl _

theorem whole_shrinks {chars : List Char} {found : List Char × List Char}
    (isWhole : whole chars = some found) : found.2.length < chars.length := by
  unfold whole at isWhole
  split at isWhole
  · cases isWhole
    exact Nat.lt_succ_self _
  · have lengths := digits_length chars
    obtain ⟨front, after, isSplit⟩ : ∃ front after, digits chars = (front, after) := ⟨_, _, rfl⟩
    rw [isSplit] at lengths isWhole
    cases front with
    | nil => cases isWhole
    | cons digit others =>
        cases isWhole
        rw [List.length_cons] at lengths
        dsimp only at lengths ⊢
        omega

theorem number_shrinks {chars rest : List Char} {token : Token}
    (reads : number chars = some (token, rest)) : rest.length < chars.length := by
  have parts : number chars = (whole (minus chars).2).map fun found =>
      (⟨!(minus chars).1.isEmpty, found.1,
        (fraction found.2).1 ++ (exponent (fraction found.2).2).1⟩,
        (exponent (fraction found.2).2).2) := rfl
  rw [parts] at reads
  obtain ⟨found, isWhole, built⟩ := Option.map_eq_some_iff.1 reads
  obtain ⟨_, rfl⟩ := Prod.mk.inj built
  have shrinks := whole_shrinks isWhole
  have fractions := fraction_length_le found.2
  have exponents := exponent_length_le (fraction found.2).2
  have signs := minus_length_le chars
  omega

section Reads

variable {α β : Type}

theorem ok_of_mapped {read : Except Failure (α × List Char)} {f : α → β} {value : β}
    {rest : List Char} (reads : (read.map fun found => (f found.1, found.2)) = .ok (value, rest)) :
    ∃ found, read = .ok (found, rest) ∧ f found = value := by
  cases read with
  | error failure => cases reads
  | ok found =>
      obtain ⟨found, after⟩ := found
      cases reads
      exact ⟨found, rfl, rfl⟩

theorem ok_of_read {read : Except Failure (α × List Char)} {next : α × List Char → Except Failure β}
    {value : β} (reads : (read >>= next) = .ok value) :
    ∃ found rest, read = .ok (found, rest) ∧ next (found, rest) = .ok value := by
  cases read with
  | error failure => cases reads
  | ok found => exact ⟨found.1, found.2, rfl, reads⟩

end Reads

theorem string_shrinks : ∀ (bound : Nat) {chars text rest : List Char}, chars.length ≤ bound →
    string chars = .ok (text, rest) → rest.length < chars.length := by
  intro bound
  induction bound with
  | zero =>
      intro chars text rest le reads
      rw [List.length_eq_zero_iff.1 (Nat.le_zero.1 le), string] at reads
      cases reads
  | succ bound ih =>
      intro chars text rest le reads
      have shorter : ∀ {after found : List Char} {f : List Char → List Char},
          after.length < chars.length →
          ((string after).map fun read => (f read.1, read.2)) = .ok (found, rest) →
          rest.length < chars.length := by
        intro after found f less mapped
        obtain ⟨others, read, _⟩ := ok_of_mapped mapped
        exact (ih (by omega) read).trans less
      rw [string.eq_def] at reads
      split at reads
      · cases reads
      · cases reads
        exact Nat.lt_succ_self _
      · rename_i first second third fourth after
        have less : after.length < ('\\' :: 'u' :: first :: second :: third :: fourth ::
            after).length := by
          simp only [List.length_cons]
          omega
        split at reads
        · cases reads
        · split at reads
          · exact shorter less reads
          · split at reads
            · split at reads
              · split at reads
                · refine shorter ?_ reads
                  simp only [List.length_cons]
                  omega
                · cases reads
              · cases reads
            · cases reads
      · cases reads
      · split at reads
        · refine shorter ?_ reads
          simp only [List.length_cons]
          omega
        · cases reads
      · cases reads
      · split at reads
        · cases reads
        · exact shorter (Nat.lt_succ_self _) reads

section Fuel

variable {read : List Char → Except Failure (Json × List Char)}

/-- Nothing that is read is empty. -/
def Shrinks (read : List Char → Except Failure (Json × List Char)) : Prop :=
  ∀ {chars : List Char} {json : Json} {rest : List Char}, read chars = .ok (json, rest) →
    rest.length < chars.length

theorem items_shrinks (shrinks : Shrinks read) : ∀ (fuel : Nat) {chars : List Char}
    {found : List Json} {rest : List Char}, items read fuel chars = .ok (found, rest) →
    rest.length < chars.length := by
  intro fuel
  induction fuel with
  | zero =>
      intro chars found rest reads
      cases reads
  | succ fuel ih =>
      intro chars found rest reads
      rw [items] at reads
      obtain ⟨item, after, isRead, reads⟩ := ok_of_read reads
      have less := shrinks isRead
      have le := length_skip_le after
      dsimp only at reads
      split at reads
      · rename_i last closes
        cases reads
        rw [closes, List.length_cons] at le
        omega
      · rename_i next goesOn
        rw [goesOn, List.length_cons] at le
        obtain ⟨more, final, isMore, reads⟩ := ok_of_read reads
        cases reads
        have lessMore := ih isMore
        have leMore := length_skip_le next
        dsimp only
        omega
      · cases reads

theorem items_fuel (shrinks : Shrinks read) : ∀ (fuel : Nat) {chars : List Char},
    chars.length < fuel → items read fuel chars = items read (fuel + 1) chars := by
  intro fuel
  induction fuel with
  | zero =>
      intro chars less
      exact absurd less (Nat.not_lt_zero _)
  | succ fuel ih =>
      intro chars less
      rw [items, items]
      cases isRead : read chars with
      | error failure => rfl
      | ok found =>
          obtain ⟨item, after⟩ := found
          have lessAfter := shrinks isRead
          have le := length_skip_le after
          dsimp only [bind, Except.bind]
          split
          · rfl
          · rename_i next goesOn
            rw [goesOn, List.length_cons] at le
            have leNext := length_skip_le next
            rw [ih (by omega)]
          · rfl

theorem members_shrinks (shrinks : Shrinks read) : ∀ (fuel : Nat) {entries found : Dict}
    {chars rest : List Char}, members read fuel entries chars = .ok (found, rest) →
    rest.length < chars.length := by
  intro fuel
  induction fuel with
  | zero =>
      intro entries found chars rest reads
      rw [members] at reads
      cases reads
  | succ fuel ih =>
      intro entries found chars rest reads
      rw [members.eq_def] at reads
      split at reads
      · cases reads
      · rename_i fuel' entries' chars' same
        cases same
        obtain ⟨key, colon, isNamed, reads⟩ := ok_of_read reads
        have lessNamed := string_shrinks _ (le_refl _) isNamed
        have leColon := length_skip_le colon
        dsimp only at reads
        split at reads
        · rename_i after separated
          rw [separated, List.length_cons] at leColon
          obtain ⟨item, last, isRead, reads⟩ := ok_of_read reads
          have lessItem := shrinks isRead
          have leAfter := length_skip_le after
          have leLast := length_skip_le last
          dsimp only at reads
          split at reads
          · rename_i final closes
            cases reads
            rw [closes, List.length_cons] at leLast
            rw [List.length_cons]
            omega
          · rename_i next goesOn
            rw [goesOn, List.length_cons] at leLast
            have lessMore := ih reads
            have leNext := length_skip_le next
            rw [List.length_cons]
            omega
          · cases reads
        · cases reads
      · cases reads

theorem members_fuel (shrinks : Shrinks read) : ∀ (fuel : Nat) {entries : Dict}
    {chars : List Char}, chars.length < fuel →
    members read fuel entries chars = members read (fuel + 1) entries chars := by
  intro fuel
  induction fuel with
  | zero =>
      intro entries chars less
      exact absurd less (Nat.not_lt_zero _)
  | succ fuel ih =>
      intro entries chars less
      rw [members.eq_def, members.eq_def]
      split
      · rename_i same
        cases same
      · rename_i fuel' entries' chars' same
        cases same
        rw [List.length_cons] at less
        dsimp only
        cases isNamed : string chars' with
        | error failure => rfl
        | ok named =>
            obtain ⟨key, colon⟩ := named
            have lessNamed := string_shrinks _ (le_refl _) isNamed
            have leColon := length_skip_le colon
            dsimp only [bind, Except.bind]
            split
            · rename_i after separated
              rw [separated, List.length_cons] at leColon
              cases isRead : read (skip after) with
              | error failure => rfl
              | ok found =>
                  obtain ⟨item, last⟩ := found
                  have lessItem := shrinks isRead
                  have leAfter := length_skip_le after
                  have leLast := length_skip_le last
                  dsimp only
                  split
                  · rfl
                  · rename_i next goesOn
                    rw [goesOn, List.length_cons] at leLast
                    have leNext := length_skip_le next
                    exact ih (by omega)
                  · rfl
            · rfl
      · rename_i notZero notQuoted
        split
        · rfl
        · exact (notQuoted fuel _ rfl rfl).elim
        · rfl

end Fuel

theorem shrinks_valueWith {floats : Floats}
    {nested : Option (List Char → Except Failure (Json × List Char))}
    (shrinks : ∀ read ∈ nested, Shrinks read) : Shrinks (valueWith floats nested) := by
  intro chars json rest reads
  unfold valueWith at reads
  split at reads
  · obtain ⟨text, isRead, _⟩ :=
      @ok_of_mapped _ _ _ (fun text => Json.str (String.ofList text)) _ _ reads
    exact (string_shrinks _ (le_refl _) isRead).trans (Nat.lt_succ_self _)
  · rename_i after
    split at reads
    · rename_i read
      have le := length_skip_le after
      unfold object at reads
      split at reads
      · rename_i closes
        cases reads
        rw [closes, List.length_cons] at le
        rw [List.length_cons]
        omega
      · obtain ⟨found, isRead, _⟩ := @ok_of_mapped _ _ _ Json.obj _ _ reads
        have less := members_shrinks (shrinks read rfl) _ isRead
        rw [List.length_cons]
        omega
    · cases reads
  · rename_i after
    split at reads
    · rename_i read
      have le := length_skip_le after
      unfold array at reads
      split at reads
      · rename_i closes
        cases reads
        rw [closes, List.length_cons] at le
        rw [List.length_cons]
        omega
      · obtain ⟨found, isRead, _⟩ := @ok_of_mapped _ _ _ Json.arr _ _ reads
        have less := items_shrinks (shrinks read rfl) _ isRead
        rw [List.length_cons]
        omega
    · cases reads
  · cases reads
    simp only [List.length_cons]
    omega
  · cases reads
    simp only [List.length_cons]
    omega
  · cases reads
    simp only [List.length_cons]
    omega
  · cases reads
  · cases reads
  · cases reads
  · unfold numberValue at reads
    split at reads
    · cases reads
    · rename_i token after isNumber
      have less := number_shrinks isNumber
      split at reads
      · split at reads
        · cases reads
        · cases reads
          exact less
      · split at reads
        · cases reads
          exact less
        · cases reads

/-- A value is never empty. -/
theorem shrinks_value (floats : Floats) : ∀ depth, Shrinks (value floats depth)
  | 0 => shrinks_valueWith fun _ isMem => by cases isMem
  | depth + 1 => shrinks_valueWith fun _ isMem => by
      obtain rfl := Option.some.inj isMem
      exact shrinks_value floats depth

/-- The items of an array are read the same with any more fuel. -/
theorem items_enough (floats : Floats) (depth : Nat) {chars : List Char} {fuel : Nat}
    (enough : chars.length < fuel) :
    items (value floats depth) fuel chars =
      items (value floats depth) (chars.length + 1) chars := by
  induction fuel, enough using Nat.le_induction with
  | base => rfl
  | succ fuel le ih => exact (items_fuel (shrinks_value floats depth) fuel le).symm.trans ih

/-- The members of an object are read the same with any more fuel. -/
theorem members_enough (floats : Floats) (depth : Nat) {entries : Dict} {chars : List Char}
    {fuel : Nat} (enough : chars.length < fuel) :
    members (value floats depth) fuel entries chars =
      members (value floats depth) (chars.length + 1) entries chars := by
  induction fuel, enough using Nat.le_induction with
  | base => rfl
  | succ fuel le ih => exact (members_fuel (shrinks_value floats depth) fuel le).symm.trans ih

end JsonText

end Loom
