import Mathlib.Computability.Language
import Mathlib.Data.List.Basic

/-!
# Regular expressions that are searched for

Patterns of Python's `re` without groups that are read back: characters of a class, sequences,
repetitions, options, and the assertions `^`, `$` and `(?!...)`.  An assertion looks at the text on
both sides, so a match is a span of a text.  `$` also holds in front of a line feed that ends the
text.

Without assertions the spans of a pattern are the words of a language.
-/

/-- A pattern. -/
inductive Regex where
  /-- A character of the class. -/
  | char (isIn : Char → Bool)
  | empty
  | seq (first second : Regex)
  | star (body : Regex)
  | opt (body : Regex)
  /-- `^`. -/
  | start
  /-- `$`. -/
  | stop
  /-- `(?!...)`. -/
  | notAhead (body : Regex)

namespace Regex

/-! ### Patterns -/

/-- The text itself. -/
def literal : List Char → Regex
  | [] => empty
  | first :: rest => seq (char (· = first)) (literal rest)

/-- `body+`. -/
def plus (body : Regex) : Regex := seq body (star body)

/-- `body{count}`. -/
def times (body : Regex) : Nat → Regex
  | 0 => empty
  | count + 1 => seq body (times body count)

/-- The patterns one after the other. -/
def concat : List Regex → Regex
  | [] => empty
  | [last] => last
  | first :: rest => seq first (concat rest)

/-! ### Matches -/

section Repetitions

variable (Body : (before span after : List Char) → Prop)

/-- Spans of a body one after the other. -/
inductive Repeats : (before span after : List Char) → Prop where
  | none (before after : List Char) : Repeats before [] after
  | more {before one others after : List Char} (first : Body before one (others ++ after))
      (rest : Repeats (before ++ one) others after) : Repeats before (one ++ others) after

end Repetitions

/-- The pattern matches the span of a text. -/
def Matches : Regex → (before span after : List Char) → Prop
  | char isIn, _, span, _ => ∃ one, isIn one = true ∧ span = [one]
  | empty, _, span, _ => span = []
  | seq first second, before, span, after => ∃ one two, span = one ++ two ∧
      first.Matches before one (two ++ after) ∧ second.Matches (before ++ one) two after
  | star body, before, span, after => Repeats body.Matches before span after
  | opt body, before, span, after => span = [] ∨ body.Matches before span after
  | start, before, span, _ => before = [] ∧ span = []
  | stop, _, span, after => span = [] ∧ (after = [] ∨ after = ['\n'])
  | notAhead body, before, span, after =>
      span = [] ∧ ¬∃ ahead rest, after = ahead ++ rest ∧ body.Matches before ahead rest

/-- `re.search` finds the pattern. -/
def Finds (pattern : Regex) (text : List Char) : Prop :=
  ∃ before span after, text = before ++ span ++ after ∧ pattern.Matches before span after

/-- `re.fullmatch`. -/
def MatchesAll (pattern : Regex) (text : List Char) : Prop := pattern.Matches [] text []

/-! ### Matching -/

/-- The ways to cut spans of a body from the front of a text, one after the other. -/
def repetitions (body : (before after : List Char) → List (List Char × List Char)) :
    (fuel : Nat) → (before after : List Char) → List (List Char × List Char)
  | 0, _, after => [([], after)]
  | fuel + 1, before, after =>
      ([], after) :: (body before after).flatMap fun (one, rest) =>
        if one = [] then []
        else (repetitions body fuel (before ++ one) rest).map fun (others, rest) =>
          (one ++ others, rest)

/-- The ways to cut a span of the pattern from the front of a text: the span and the rest. -/
def cuts : Regex → (before after : List Char) → List (List Char × List Char)
  | char _, _, [] => []
  | char isIn, _, one :: rest => if isIn one then [([one], rest)] else []
  | empty, _, after => [([], after)]
  | seq first second, before, after =>
      (cuts first before after).flatMap fun (one, rest) =>
        (cuts second (before ++ one) rest).map fun (two, rest) => (one ++ two, rest)
  | star body, before, after => repetitions (cuts body) after.length before after
  | opt body, before, after => ([], after) :: cuts body before after
  | start, before, after => if before = [] then [([], after)] else []
  | stop, _, after => if after = [] ∨ after = ['\n'] then [([], after)] else []
  | notAhead body, before, after => if cuts body before after = [] then [([], after)] else []

/-- `re.search`, from the place after the text before. -/
def searchFrom (pattern : Regex) (before : List Char) : (after : List Char) → Bool
  | [] => !(cuts pattern before []).isEmpty
  | next :: rest =>
      !(cuts pattern before (next :: rest)).isEmpty || searchFrom pattern (before ++ [next]) rest

/-- `re.search`. -/
def search (pattern : Regex) (text : String) : Bool := searchFrom pattern [] text.toList

/-- `re.fullmatch`. -/
def fullmatch (pattern : Regex) (text : String) : Bool :=
  (cuts pattern [] text.toList).any fun (_, rest) => rest.isEmpty

/-! ### Matching is exact -/

section Exact

variable {Body : (before span after : List Char) → Prop}
    {body : (before after : List Char) → List (List Char × List Char)}
    (isExact : ∀ before after span rest,
      (span, rest) ∈ body before after ↔ after = span ++ rest ∧ Body before span rest)

include isExact

theorem repetitions_sound : ∀ (fuel : Nat) {before after span rest : List Char},
    (span, rest) ∈ repetitions body fuel before after →
    after = span ++ rest ∧ Repeats Body before span rest
  | 0, before, after, span, rest, isMem => by
      rw [repetitions, List.mem_singleton] at isMem
      cases isMem
      exact ⟨rfl, Repeats.none _ _⟩
  | fuel + 1, before, after, span, rest, isMem => by
      rw [repetitions, List.mem_cons] at isMem
      rcases isMem with isNone | isMem
      · cases isNone
        exact ⟨rfl, Repeats.none _ _⟩
      · obtain ⟨⟨one, between⟩, isOne, isMem⟩ := List.mem_flatMap.1 isMem
        dsimp only at isMem
        split at isMem
        · cases isMem
        · obtain ⟨⟨others, rest'⟩, isOthers, same⟩ := List.mem_map.1 isMem
          cases same
          obtain ⟨rfl, begins⟩ := (isExact _ _ _ _).1 isOne
          obtain ⟨rfl, repeats⟩ := repetitions_sound fuel isOthers
          exact ⟨(List.append_assoc _ _ _).symm, Repeats.more begins repeats⟩

theorem repetitions_complete {before span rest : List Char}
    (repeats : Repeats Body before span rest) :
    ∀ fuel, (span ++ rest).length ≤ fuel →
      (span, rest) ∈ repetitions body fuel before (span ++ rest) := by
  induction repeats with
  | none before rest =>
      intro fuel _
      cases fuel with
      | zero => simp [repetitions]
      | succ fuel => simp [repetitions]
  | @more before one others rest begins _ ih =>
      intro fuel enough
      by_cases isEmpty : one = []
      · subst isEmpty
        simpa using ih fuel (by simpa using enough)
      · have positive : 0 < one.length := List.length_pos_of_ne_nil isEmpty
        simp only [List.length_append] at enough
        obtain ⟨fuel, rfl⟩ : ∃ less, fuel = less + 1 := ⟨fuel - 1, by omega⟩
        rw [repetitions, List.mem_cons]
        refine Or.inr (List.mem_flatMap.2 ⟨(one, others ++ rest), ?_, ?_⟩)
        · exact (isExact _ _ _ _).2 ⟨List.append_assoc _ _ _, begins⟩
        · dsimp only
          rw [if_neg isEmpty]
          refine List.mem_map.2 ⟨(others, rest), ih fuel ?_, rfl⟩
          rw [List.length_append]
          omega

end Exact

/-- The cuts are the matches. -/
theorem mem_cuts : ∀ (pattern : Regex) (before after span rest : List Char),
    (span, rest) ∈ cuts pattern before after ↔
      after = span ++ rest ∧ pattern.Matches before span rest
  | char isIn, before, after, span, rest => by
      cases after with
      | nil =>
          simp only [cuts, Matches, List.not_mem_nil, false_iff, not_and, not_exists]
          rintro none one isOne rfl
          cases none
      | cons one more =>
          rw [cuts, Matches]
          by_cases inClass : isIn one = true
          · rw [if_pos inClass, List.mem_singleton]
            constructor
            · rintro same
              cases same
              exact ⟨rfl, one, inClass, rfl⟩
            · rintro ⟨same, other, _, rfl⟩
              cases same
              rfl
          · rw [if_neg inClass]
            constructor
            · intro none
              cases none
            · rintro ⟨same, other, isOther, rfl⟩
              cases same
              exact absurd isOther inClass
  | empty, before, after, span, rest => by
      rw [cuts, Matches, List.mem_singleton, Prod.mk.injEq]
      constructor
      · rintro ⟨rfl, rfl⟩
        exact ⟨rfl, rfl⟩
      · rintro ⟨rfl, rfl⟩
        exact ⟨rfl, rfl⟩
  | seq first second, before, after, span, rest => by
      rw [cuts, Matches]
      simp only [List.mem_flatMap, Prod.exists, List.mem_map, Prod.mk.injEq]
      constructor
      · rintro ⟨one, between, isOne, two, rest', isTwo, rfl, rfl⟩
        obtain ⟨rfl, begins⟩ := (mem_cuts first _ _ _ _).1 isOne
        obtain ⟨rfl, ends⟩ := (mem_cuts second _ _ _ _).1 isTwo
        exact ⟨(List.append_assoc _ _ _).symm, one, two, rfl, begins, ends⟩
      · rintro ⟨rfl, one, two, rfl, begins, ends⟩
        refine ⟨one, two ++ rest, (mem_cuts first _ _ _ _).2 ⟨List.append_assoc _ _ _, begins⟩, two,
          rest, (mem_cuts second _ _ _ _).2 ⟨rfl, ends⟩, rfl, rfl⟩
  | star body, before, after, span, rest => by
      rw [cuts, Matches]
      constructor
      · exact repetitions_sound (mem_cuts body) _
      · rintro ⟨rfl, repeats⟩
        exact repetitions_complete (mem_cuts body) repeats _ (Nat.le_refl _)
  | opt body, before, after, span, rest => by
      rw [cuts, Matches, List.mem_cons, Prod.mk.injEq, mem_cuts body]
      constructor
      · rintro (⟨rfl, rfl⟩ | ⟨rfl, isBody⟩)
        · exact ⟨rfl, Or.inl rfl⟩
        · exact ⟨rfl, Or.inr isBody⟩
      · rintro ⟨rfl, rfl | isBody⟩
        · exact Or.inl ⟨rfl, rfl⟩
        · exact Or.inr ⟨rfl, isBody⟩
  | start, before, after, span, rest => by
      rw [cuts, Matches]
      by_cases atStart : before = []
      · rw [if_pos atStart, List.mem_singleton, Prod.mk.injEq]
        constructor
        · rintro ⟨rfl, rfl⟩
          exact ⟨rfl, atStart, rfl⟩
        · rintro ⟨rfl, -, rfl⟩
          exact ⟨rfl, rfl⟩
      · rw [if_neg atStart]
        simp [atStart]
  | stop, before, after, span, rest => by
      rw [cuts, Matches]
      by_cases atStop : after = [] ∨ after = ['\n']
      · rw [if_pos atStop, List.mem_singleton, Prod.mk.injEq]
        constructor
        · rintro ⟨rfl, rfl⟩
          exact ⟨rfl, rfl, atStop⟩
        · rintro ⟨rfl, rfl, -⟩
          exact ⟨rfl, rfl⟩
      · rw [if_neg atStop]
        constructor
        · intro none
          cases none
        · rintro ⟨rfl, rfl, isStop⟩
          exact absurd isStop atStop
  | notAhead body, before, after, span, rest => by
      rw [cuts, Matches]
      have none : cuts body before after = [] ↔
          ¬∃ ahead rest, after = ahead ++ rest ∧ body.Matches before ahead rest := by
        rw [List.eq_nil_iff_forall_not_mem]
        constructor
        · rintro noCut ⟨ahead, rest, found⟩
          exact noCut (ahead, rest) ((mem_cuts body _ _ _ _).2 found)
        · rintro noMatch ⟨ahead, rest⟩ isCut
          exact noMatch ⟨ahead, rest, (mem_cuts body _ _ _ _).1 isCut⟩
      by_cases isNone : cuts body before after = []
      · rw [if_pos isNone, List.mem_singleton, Prod.mk.injEq]
        constructor
        · rintro ⟨rfl, rfl⟩
          exact ⟨rfl, rfl, none.1 isNone⟩
        · rintro ⟨rfl, rfl, -⟩
          exact ⟨rfl, rfl⟩
      · rw [if_neg isNone]
        constructor
        · intro impossible
          cases impossible
        · rintro ⟨rfl, rfl, noMatch⟩
          exact absurd (none.2 noMatch) isNone

theorem cuts_nonempty {pattern : Regex} {before after : List Char} :
    (!(cuts pattern before after).isEmpty) = true ↔
      ∃ span rest, after = span ++ rest ∧ pattern.Matches before span rest := by
  rw [Bool.not_eq_true', List.isEmpty_eq_false_iff_exists_mem]
  constructor
  · rintro ⟨⟨span, rest⟩, isMem⟩
    exact ⟨span, rest, (mem_cuts _ _ _ _ _).1 isMem⟩
  · rintro ⟨span, rest, found⟩
    exact ⟨(span, rest), (mem_cuts _ _ _ _ _).2 found⟩

theorem searchFrom_iff {pattern : Regex} {after : List Char} : ∀ {before : List Char},
    searchFrom pattern before after = true ↔
      ∃ skipped span rest, after = skipped ++ span ++ rest ∧
        pattern.Matches (before ++ skipped) span rest := by
  induction after with
  | nil =>
      intro before
      rw [searchFrom, cuts_nonempty]
      constructor
      · rintro ⟨span, rest, same, found⟩
        exact ⟨[], span, rest, same, by simpa using found⟩
      · rintro ⟨skipped, span, rest, same, found⟩
        obtain ⟨rfl, rfl, rfl⟩ : skipped = [] ∧ span = [] ∧ rest = [] := by
          simpa using same.symm
        exact ⟨[], [], rfl, by simpa using found⟩
  | cons next after ih =>
      intro before
      rw [searchFrom, Bool.or_eq_true, cuts_nonempty, ih]
      constructor
      · rintro (⟨span, rest, same, found⟩ | ⟨skipped, span, rest, same, found⟩)
        · exact ⟨[], span, rest, same, by simpa using found⟩
        · exact ⟨next :: skipped, span, rest, by rw [same]; rfl, by simpa using found⟩
      · rintro ⟨skipped, span, rest, same, found⟩
        cases skipped with
        | nil => exact Or.inl ⟨span, rest, same, by simpa using found⟩
        | cons first skipped =>
            cases same
            exact Or.inr ⟨skipped, span, rest, rfl, by simpa using found⟩

/-- `re.search` finds the pattern where it matches a span. -/
theorem search_iff {pattern : Regex} {text : String} :
    pattern.search text = true ↔ pattern.Finds text.toList := by
  unfold search Finds
  rw [searchFrom_iff]
  rfl

theorem fullmatch_iff {pattern : Regex} {text : String} :
    pattern.fullmatch text = true ↔ pattern.MatchesAll text.toList := by
  unfold fullmatch MatchesAll
  rw [List.any_eq_true]
  constructor
  · rintro ⟨⟨span, rest⟩, isMem, isAll⟩
    obtain ⟨same, found⟩ := (mem_cuts _ _ _ _ _).1 isMem
    obtain rfl := List.isEmpty_iff.1 isAll
    rw [List.append_nil] at same
    rw [same]
    exact found
  · intro found
    exact ⟨(text.toList, []), (mem_cuts _ _ _ _ _).2 ⟨(List.append_nil _).symm, found⟩, rfl⟩

/-! ### Languages -/

/-- The pattern matches the words of a language, wherever they stand. -/
def Spells (pattern : Regex) (words : Language Char) : Prop :=
  ∀ before span after, pattern.Matches before span after ↔ span ∈ words

/-- The words of one character of a class. -/
def letters (isIn : Char → Bool) : Language Char :=
  { word : List Char | ∃ one, isIn one = true ∧ word = [one] }

theorem spells_char (isIn : Char → Bool) : Spells (char isIn) (letters isIn) :=
  fun _ _ _ => Iff.rfl

theorem spells_empty : Spells empty 1 := by
  intro before span after
  rw [Matches, Language.mem_one]

theorem Spells.seq {first second : Regex} {words others : Language Char}
    (isFirst : first.Spells words) (isSecond : second.Spells others) :
    (first.seq second).Spells (words * others) := by
  intro before span after
  rw [Matches, Language.mem_mul]
  constructor
  · rintro ⟨one, two, rfl, begins, ends⟩
    exact ⟨one, (isFirst _ _ _).1 begins, two, (isSecond _ _ _).1 ends, rfl⟩
  · rintro ⟨one, begins, two, ends, rfl⟩
    exact ⟨one, two, rfl, (isFirst _ _ _).2 begins, (isSecond _ _ _).2 ends⟩

theorem Spells.star {body : Regex} {words : Language Char} (isBody : body.Spells words) :
    body.star.Spells (KStar.kstar words) := by
  intro before span after
  rw [Matches, Language.mem_kstar]
  constructor
  · intro repeats
    induction repeats with
    | none before after => exact ⟨[], rfl, by simp⟩
    | more begins _ ih =>
        obtain ⟨parts, rfl, areWords⟩ := ih
        exact ⟨_ :: parts, rfl, List.forall_mem_cons.2 ⟨(isBody _ _ _).1 begins, areWords⟩⟩
  · rintro ⟨parts, rfl, areWords⟩
    induction parts generalizing before with
    | nil => exact Repeats.none before after
    | cons part parts ih =>
        obtain ⟨isWord, areWords⟩ := List.forall_mem_cons.1 areWords
        exact Repeats.more ((isBody _ _ _).2 isWord) (ih _ areWords)

theorem Spells.opt {body : Regex} {words : Language Char} (isBody : body.Spells words) :
    body.opt.Spells (1 + words) := by
  intro before span after
  rw [Matches, Language.mem_add, Language.mem_one, isBody]

theorem spells_literal (text : List Char) : (literal text).Spells {text} := by
  induction text with
  | nil => exact spells_empty
  | cons first rest ih =>
      intro before span after
      rw [literal, (spells_char _).seq ih, Language.mem_mul]
      constructor
      · rintro ⟨_, ⟨one, isOne, rfl⟩, _, rfl, rfl⟩
        rw [of_decide_eq_true isOne]
        rfl
      · rintro rfl
        exact ⟨[first], ⟨first, decide_eq_true rfl, rfl⟩, rest, rfl, rfl⟩

theorem Spells.times {body : Regex} {words : Language Char} (isBody : body.Spells words)
    (count : Nat) : (body.times count).Spells (words ^ count) := by
  induction count with
  | zero =>
      rw [pow_zero]
      exact spells_empty
  | succ count ih =>
      rw [pow_succ']
      exact isBody.seq ih

theorem mem_letters_star {isIn : Char → Bool} {word : List Char} :
    word ∈ KStar.kstar (letters isIn) ↔ ∀ one ∈ word, isIn one = true := by
  rw [Language.mem_kstar]
  constructor
  · rintro ⟨parts, rfl, areLetters⟩ one isMem
    obtain ⟨part, isPart, inPart⟩ := List.mem_flatten.1 isMem
    obtain ⟨other, isOther, rfl⟩ := areLetters part isPart
    rw [List.mem_singleton.1 inPart]
    exact isOther
  · intro areIn
    refine ⟨word.map fun one => [one], ?_, ?_⟩
    · rw [← List.flatMap_def]
      exact (List.flatMap_singleton' word).symm
    · intro part isPart
      obtain ⟨one, isMem, rfl⟩ := List.mem_map.1 isPart
      exact ⟨one, areIn one isMem, rfl⟩

theorem mem_letters_pow {isIn : Char → Bool} {count : Nat} : ∀ {word : List Char},
    word ∈ letters isIn ^ count ↔ word.length = count ∧ ∀ one ∈ word, isIn one = true := by
  induction count with
  | zero =>
      intro word
      rw [pow_zero, Language.mem_one, List.length_eq_zero_iff]
      constructor
      · rintro rfl
        simp
      · exact And.left
  | succ count ih =>
      intro word
      rw [pow_succ', Language.mem_mul]
      constructor
      · rintro ⟨_, ⟨one, isOne, rfl⟩, rest, isRest, rfl⟩
        obtain ⟨length, areIn⟩ := ih.1 isRest
        exact ⟨by simp [length], List.forall_mem_cons.2 ⟨isOne, areIn⟩⟩
      · rintro ⟨length, areIn⟩
        cases word with
        | nil => cases length
        | cons one rest =>
            obtain ⟨isOne, areIn⟩ := List.forall_mem_cons.1 areIn
            exact ⟨[one], ⟨one, isOne, rfl⟩, rest, ih.2 ⟨Nat.succ.inj length, areIn⟩, rfl⟩

/-- A pattern between `^` and `$` is found in its words, also where a line feed ends the text. -/
theorem finds_anchored {pattern : Regex} {text : List Char} :
    (seq start (seq pattern stop)).Finds text ↔
      pattern.Matches [] text [] ∨ ∃ word, text = word ++ ['\n'] ∧
        pattern.Matches [] word ['\n'] := by
  constructor
  · rintro ⟨before, _, after, rfl, _, _, rfl, ⟨rfl, rfl⟩, word, _, rfl, found, rfl, isEnd⟩
    rcases isEnd with rfl | rfl
    · exact Or.inl (by simpa using found)
    · exact Or.inr ⟨word, by simp, by simpa using found⟩
  · rintro (found | ⟨word, rfl, found⟩)
    · refine ⟨[], text, [], by simp, [], text, rfl, ⟨rfl, rfl⟩, text, [], by simp, ?_, rfl,
        Or.inl rfl⟩
      simpa using found
    · refine ⟨[], word, ['\n'], by simp, [], word, rfl, ⟨rfl, rfl⟩, word, [], by simp, ?_, rfl,
        Or.inr rfl⟩
      simpa using found

theorem matchesAll_anchored {pattern : Regex} {text : List Char} :
    (seq start (seq pattern stop)).MatchesAll text ↔ pattern.Matches [] text [] := by
  constructor
  · rintro ⟨_, _, rfl, ⟨-, rfl⟩, word, _, rfl, found, rfl, -⟩
    simpa using found
  · intro found
    refine ⟨[], text, rfl, ⟨rfl, rfl⟩, text, [], by simp, ?_, rfl, Or.inl rfl⟩
    simpa using found

end Regex
