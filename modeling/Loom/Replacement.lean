import Mathlib.Algebra.BigOperators.Group.List.Basic
import Mathlib.Algebra.GroupWithZero.Nat
import Mathlib.Data.List.Infix

/-!
# Replacing a word in a text

`str.replace` of Python: the occurrences of a word that do not overlap are replaced from the left.
A text without the word stays as it is; otherwise the text is cut at the first occurrence, and what
comes after it is treated in the same way.

A word is apart from a mark when no occurrence of the word can overlap one of the mark.  Replacing
by a mark removes the words that are apart from it for good.
-/

namespace Replacement

variable {α : Type} [DecidableEq α]

/-! ### Replacing -/

/-- The text with the mark in place of the word, where the first `skipped` items belong to an
occurrence that is replaced already. -/
def scan (word mark : List α) : (skipped : Nat) → List α → List α
  | _, [] => []
  | skipped + 1, _ :: rest => scan word mark skipped rest
  | 0, first :: rest =>
      if word.isPrefixOf (first :: rest) then mark ++ scan word mark (word.length - 1) rest
      else first :: scan word mark 0 rest

/-- `text.replace(word, mark)`. -/
def replace (word mark text : List α) : List α :=
  if word = [] then mark ++ text.flatMap fun item => item :: mark else scan word mark 0 text

/-- The replacements one after the other, by the same mark. -/
def replaceAll (words : List (List α)) (mark text : List α) : List α :=
  words.foldl (fun text word => replace word mark text) text

/-- No occurrence of the word begins in front of one that follows `before`. -/
def First (word before : List α) : Prop := ¬ word <:+: before ++ word.dropLast

instance (word before : List α) : Decidable (First word before) := inferInstanceAs (Decidable (¬ _))

section Cuts

variable {word mark : List α}

theorem scan_skipped (front rest : List α) :
    scan word mark front.length (front ++ rest) = scan word mark 0 rest := by
  induction front with
  | nil => rfl
  | cons first front ih => exact ih

omit [DecidableEq α] in
theorem First.not_infix {before : List α} (isFirst : First word before) : ¬ word <:+: before :=
  fun found => isFirst (found.trans (List.prefix_append before word.dropLast).isInfix)

omit [DecidableEq α] in
theorem First.tail {first : α} {before : List α} (isFirst : First word (first :: before)) :
    First word before :=
  fun found => isFirst (found.trans (List.suffix_cons first _).isInfix)

omit [DecidableEq α] in
/-- In front of the first occurrence there is none. -/
theorem First.not_prefix {first : α} {before after : List α}
    (isFirst : First word (first :: before)) : ¬ word <+: first :: before ++ word ++ after := by
  intro found
  apply isFirst
  have short : word.length ≤ (first :: before ++ word.dropLast).length := by
    rw [List.length_append, List.length_dropLast, List.length_cons]
    omega
  have isPrefix : first :: before ++ word.dropLast <+: first :: before ++ word ++ after := by
    rw [List.append_assoc]
    exact (List.prefix_append_right_inj _).mpr
      ((List.dropLast_prefix word).trans (List.prefix_append word after))
  exact (List.prefix_of_prefix_length_le found isPrefix short).isInfix

theorem scan_absent {text : List α} (absent : ¬ word <:+: text) : scan word mark 0 text = text := by
  induction text with
  | nil => rfl
  | cons first rest ih =>
      have noPrefix : word.isPrefixOf (first :: rest) = false := by
        rw [Bool.eq_false_iff]
        intro found
        exact absent (List.isPrefixOf_iff_prefix.mp found).isInfix
      rw [scan, noPrefix, if_neg Bool.false_ne_true,
        ih fun found => absent (found.trans (List.suffix_cons first rest).isInfix)]

theorem scan_first (nonempty : word ≠ []) {before : List α} (after : List α)
    (isFirst : First word before) :
    scan word mark 0 (before ++ word ++ after) = before ++ mark ++ scan word mark 0 after := by
  induction before with
  | nil =>
      cases word with
      | nil => exact absurd rfl nonempty
      | cons first word =>
          have isPrefix : (first :: word).isPrefixOf (first :: word ++ after) = true :=
            List.isPrefixOf_iff_prefix.mpr (List.prefix_append _ _)
          rw [List.nil_append, List.cons_append, scan, ← List.cons_append, isPrefix, if_pos rfl,
            List.length_cons, Nat.add_sub_cancel, scan_skipped, List.nil_append]
  | cons first before ih =>
      have noPrefix : word.isPrefixOf (first :: (before ++ word ++ after)) = false := by
        rw [Bool.eq_false_iff]
        intro found
        exact isFirst.not_prefix (List.isPrefixOf_iff_prefix.mp found)
      rw [List.cons_append, List.cons_append, scan, noPrefix, if_neg Bool.false_ne_true,
        ih isFirst.tail, List.cons_append, List.cons_append]

/-- A text without the word stays as it is. -/
theorem replace_absent (nonempty : word ≠ []) {text : List α} (absent : ¬ word <:+: text) :
    replace word mark text = text := by
  rw [replace, if_neg nonempty, scan_absent absent]

/-- The first occurrence is replaced, and the text after it is treated in the same way. -/
theorem replace_first (nonempty : word ≠ []) {before : List α} (after : List α)
    (isFirst : First word before) :
    replace word mark (before ++ word ++ after) = before ++ mark ++ replace word mark after := by
  rw [replace, replace, if_neg nonempty, if_neg nonempty, scan_first nonempty after isFirst]

/-- A word of one item is replaced item by item. -/
theorem replace_singleton (item : α) (text : List α) :
    replace [item] mark text = text.flatMap fun other => if other = item then mark
      else [other] := by
  rw [replace, if_neg (List.cons_ne_nil item [])]
  induction text with
  | nil => rfl
  | cons first rest ih =>
      rw [scan, List.flatMap_cons, List.length_singleton, Nat.sub_self, ih]
      by_cases same : first = item
      · subst same
        rw [if_pos rfl, if_pos (by simp)]
      · rw [if_neg same, if_neg (by simpa using fun isItem : item = first => same isItem.symm)]
        rfl

/-- A text that has the word can be cut at the first occurrence. -/
theorem exists_first (nonempty : word ≠ []) {text : List α} (found : word <:+: text) :
    ∃ before after, text = before ++ word ++ after ∧ First word before := by
  induction text with
  | nil => exact absurd (List.eq_nil_of_infix_nil found) nonempty
  | cons first rest ih =>
      by_cases isPrefix : word <+: first :: rest
      · rcases isPrefix with ⟨after, eq⟩
        refine ⟨[], after, eq.symm, fun inside => ?_⟩
        have short := inside.length_le
        rw [List.nil_append, List.length_dropLast] at short
        have positive := List.length_pos_iff.mpr nonempty
        omega
      · rcases List.infix_cons_iff.mp found with here | later
        · exact absurd here isPrefix
        · rcases ih later with ⟨before, after, rfl, isFirst⟩
          refine ⟨first :: before, after, rfl, fun inside => ?_⟩
          rcases List.infix_cons_iff.mp inside with here | later
          · apply isPrefix
            refine here.trans ((List.prefix_cons_inj first).mpr ?_)
            rw [List.append_assoc]
            exact (List.prefix_append_right_inj _).mpr
              ((List.dropLast_prefix word).trans (List.prefix_append word after))
          · exact isFirst later

/-- Induction on the occurrences that are replaced. -/
theorem cut_induction (nonempty : word ≠ []) {holds : List α → Prop}
    (absent : ∀ text, ¬ word <:+: text → holds text)
    (cut : ∀ before after, First word before → holds after → holds (before ++ word ++ after))
    (text : List α) : holds text := by
  induction size : text.length using Nat.strong_induction_on generalizing text with
  | h size ih =>
      by_cases found : word <:+: text
      · rcases exists_first nonempty found with ⟨before, after, rfl, isFirst⟩
        refine cut before after isFirst (ih after.length ?_ after rfl)
        have positive := List.length_pos_iff.mpr nonempty
        rw [List.length_append, List.length_append] at size
        omega
      · exact absent text found

/-! ### What replacing keeps -/

/-- Replacing a word by a mark of the same weight keeps the weight of the text. -/
theorem weight_replace {weight : α → Nat} (nonempty : word ≠ [])
    (same : (word.map weight).sum = (mark.map weight).sum) (text : List α) :
    ((replace word mark text).map weight).sum = (text.map weight).sum := by
  induction text using cut_induction nonempty with
  | absent text absent => rw [replace_absent nonempty absent]
  | cut before after isFirst ih =>
      rw [replace_first nonempty after isFirst]
      simp only [List.map_append, List.sum_append]
      rw [ih, same]

theorem weight_replaceAll {weight : α → Nat} {words : List (List α)}
    (same : ∀ word ∈ words, word ≠ [] ∧ (word.map weight).sum = (mark.map weight).sum)
    (text : List α) :
    ((replaceAll words mark text).map weight).sum = (text.map weight).sum := by
  induction words generalizing text with
  | nil => rfl
  | cons word words ih =>
      rcases same word List.mem_cons_self with ⟨nonempty, isSame⟩
      rw [replaceAll, List.foldl_cons, ← replaceAll,
        ih fun other mem => same other (List.mem_cons_of_mem word mem),
        weight_replace nonempty isSame]

end Cuts

/-! ### Words that are apart from the mark -/

/-- No occurrence of the word can overlap one of the mark. -/
structure Apart (word mark : List α) : Prop where
  notInside : ¬ word <:+: mark
  notAround : ¬ mark <:+: word
  notBefore : ∀ back ∈ word.tails, back ≠ [] → ¬ back <+: mark
  notAfter : ∀ front ∈ word.inits, front ≠ [] → ¬ front <:+ mark

namespace Apart

variable {word mark : List α}

instance decide (word mark : List α) : Decidable (Apart word mark) :=
  decidable_of_iff
    ((¬ word <:+: mark) ∧ (¬ mark <:+: word) ∧
      (∀ back ∈ word.tails, back ≠ [] → ¬ back <+: mark) ∧
      ∀ front ∈ word.inits, front ≠ [] → ¬ front <:+ mark)
    ⟨fun ⟨inside, around, before, after⟩ => ⟨inside, around, before, after⟩,
      fun ⟨inside, around, before, after⟩ => ⟨inside, around, before, after⟩⟩

omit [DecidableEq α] in
theorem nonempty (apart : Apart word mark) : word ≠ [] := by
  rintro rfl
  exact apart.notInside (List.nil_infix)

omit [DecidableEq α] in
/-- A word next to marks lies on one side of the mark. -/
theorem infix_append (apart : Apart word mark) {before after : List α}
    (found : word <:+: before ++ mark ++ after) : word <:+: before ∨ word <:+: after := by
  rcases found with ⟨front, back, eq⟩
  rw [List.append_assoc, List.append_assoc] at eq
  rcases List.append_eq_append_iff.mp eq with ⟨between, rfl, eq'⟩ | ⟨between, rfl, eq'⟩
  · -- the word begins in front of the mark
    rcases List.append_eq_append_iff.mp eq' with ⟨rest, rfl, -⟩ | ⟨rest, rfl, eq''⟩
    · exact Or.inl ⟨front, rest, by rw [List.append_assoc]⟩
    · by_cases isNil : rest = []
      · subst isNil
        refine Or.inl ⟨front, [], ?_⟩
        rw [List.append_nil, List.append_nil]
      · exfalso
        rcases List.append_eq_append_iff.mp eq'' with ⟨more, rfl, -⟩ | ⟨more, rfl, -⟩
        · exact apart.notAround ⟨between, more, by rw [List.append_assoc]⟩
        · exact apart.notBefore rest ((List.mem_tails _ _).mpr (List.suffix_append _ _)) isNil
            (List.prefix_append _ _)
  · -- the word begins in the mark or after it
    rcases List.append_eq_append_iff.mp eq' with ⟨rest, -, rfl⟩ | ⟨rest, rfl, eq''⟩
    · exact Or.inr ⟨rest, back, by rw [List.append_assoc]⟩
    · rcases List.append_eq_append_iff.mp eq'' with ⟨more, rfl, -⟩ | ⟨more, rfl, rfl⟩
      · exact absurd ⟨between, more, by rw [List.append_assoc]⟩ apart.notInside
      · by_cases isNil : rest = []
        · subst isNil
          exact Or.inr ⟨[], back, rfl⟩
        · exact absurd (List.suffix_append between rest)
            (apart.notAfter rest ((List.mem_inits _ _).mpr (List.prefix_append _ _)) isNil)

/-- Replacing a word that is apart from the mark leaves no occurrence of it. -/
theorem not_infix_replace (apart : Apart word mark) (text : List α) :
    ¬ word <:+: replace word mark text := by
  induction text using cut_induction apart.nonempty with
  | absent text absent =>
      rw [replace_absent apart.nonempty absent]
      exact absent
  | cut before after isFirst ih =>
      rw [replace_first apart.nonempty after isFirst]
      intro found
      rcases apart.infix_append found with here | later
      · exact isFirst.not_infix here
      · exact ih later

/-- Replacing another word brings in no word that is apart from the mark. -/
theorem infix_of_replace (apart : Apart word mark) {other : List α} (nonempty : other ≠ [])
    {text : List α} (found : word <:+: replace other mark text) : word <:+: text := by
  induction text using cut_induction nonempty with
  | absent text absent => rwa [replace_absent nonempty absent] at found
  | cut before after isFirst ih =>
      rw [replace_first nonempty after isFirst] at found
      rcases apart.infix_append found with here | later
      · exact (here.trans (List.prefix_append before other).isInfix).trans
          (List.prefix_append _ after).isInfix
      · exact (ih later).trans (List.suffix_append _ after).isInfix

theorem infix_of_replaceAll (apart : Apart word mark) {words : List (List α)}
    (nonempty : ∀ other ∈ words, other ≠ []) {text : List α}
    (found : word <:+: replaceAll words mark text) : word <:+: text := by
  induction words generalizing text with
  | nil => exact found
  | cons other words ih =>
      exact apart.infix_of_replace (nonempty other List.mem_cons_self)
        (ih (fun another mem => nonempty another (List.mem_cons_of_mem other mem)) found)

/-- After the replacements no word is left that is among them and apart from the mark. -/
theorem not_infix_replaceAll (apart : Apart word mark) {words : List (List α)} (mem : word ∈ words)
    (nonempty : ∀ other ∈ words, other ≠ []) (text : List α) :
    ¬ word <:+: replaceAll words mark text := by
  induction words generalizing text with
  | nil => cases mem
  | cons other words ih =>
      have others : ∀ another ∈ words, another ≠ [] :=
        fun another mem => nonempty another (List.mem_cons_of_mem other mem)
      rcases List.mem_cons.mp mem with rfl | later
      · intro found
        exact apart.not_infix_replace text (apart.infix_of_replaceAll others found)
      · exact ih later others _

end Apart

/-! ### Marked texts -/

/-- A part of a text: fixed, or a place for a value. -/
inductive Piece (α κ : Type) where
  | fixed (text : List α)
  | slot (name : κ)
  deriving Repr, DecidableEq

variable {κ : Type}

/-- The text with the values in their places. -/
def fill (value : κ → List α) (pieces : List (Piece α κ)) : List α :=
  pieces.flatMap fun piece =>
    match piece with
    | .fixed text => text
    | .slot name => value name

/-- The values after a replacement of the ones that are the word. -/
def marked (word mark : List α) (value : κ → List α) (name : κ) : List α :=
  if value name = word then mark else value name

/-- The word occurs in the text at the places that hold it, and nowhere else; `before` is what is in
front of the pieces since the last of these places. -/
def OnlyAt (word : List α) (value : κ → List α) : (before : List α) → List (Piece α κ) → Prop
  | before, [] => ¬ word <:+: before
  | before, .fixed text :: pieces => OnlyAt word value (before ++ text) pieces
  | before, .slot name :: pieces =>
      if value name = word then First word before ∧ OnlyAt word value [] pieces
      else OnlyAt word value (before ++ value name) pieces

instance OnlyAt.decide (word : List α) (value : κ → List α) :
    (before : List α) → (pieces : List (Piece α κ)) → Decidable (OnlyAt word value before pieces)
  | before, [] => inferInstanceAs (Decidable (¬ word <:+: before))
  | before, .fixed text :: pieces => OnlyAt.decide word value (before ++ text) pieces
  | before, .slot name :: pieces =>
      have := OnlyAt.decide word value [] pieces
      have := OnlyAt.decide word value (before ++ value name) pieces
      inferInstanceAs (Decidable (if value name = word then
        First word before ∧ OnlyAt word value [] pieces
        else OnlyAt word value (before ++ value name) pieces))

/-- A word that occurs at its places only is replaced there, and nothing else is. -/
theorem OnlyAt.replace {word mark : List α} (nonempty : word ≠ []) {value : κ → List α}
    {before : List α} {pieces : List (Piece α κ)} (onlyAt : OnlyAt word value before pieces) :
    replace word mark (before ++ fill value pieces) =
      before ++ fill (marked word mark value) pieces := by
  induction pieces generalizing before with
  | nil =>
      change Replacement.replace word mark (before ++ []) = before ++ []
      rw [List.append_nil]
      exact replace_absent nonempty onlyAt
  | cons piece pieces ih =>
      cases piece with
      | fixed text =>
          have later : Replacement.replace word mark (before ++ text ++ fill value pieces) =
              before ++ text ++ fill (marked word mark value) pieces := ih onlyAt
          rwa [List.append_assoc, List.append_assoc] at later
      | slot name =>
          rw [OnlyAt] at onlyAt
          by_cases isWord : value name = word
          · rw [if_pos isWord] at onlyAt
            have later := ih onlyAt.2
            change Replacement.replace word mark (before ++ (value name ++ fill value pieces)) =
              before ++ (marked word mark value name ++ fill (marked word mark value) pieces)
            rw [isWord, ← List.append_assoc, replace_first nonempty _ onlyAt.1, marked,
              if_pos isWord, List.append_assoc]
            exact congrArg (fun rest => before ++ (mark ++ rest)) later
          · rw [if_neg isWord] at onlyAt
            have later : Replacement.replace word mark (before ++ value name ++ fill value pieces) =
                before ++ value name ++ fill (marked word mark value) pieces := ih onlyAt
            change Replacement.replace word mark (before ++ (value name ++ fill value pieces)) =
              before ++ (marked word mark value name ++ fill (marked word mark value) pieces)
            rw [marked, if_neg isWord]
            rwa [List.append_assoc, List.append_assoc] at later

/-- Each word occurs at its places only when its turn comes. -/
def OnlyEach (mark : List α) : List (List α) → (κ → List α) → List (Piece α κ) → Prop
  | [], _, _ => True
  | word :: words, value, pieces =>
      word ≠ [] ∧ OnlyAt word value [] pieces ∧ OnlyEach mark words (marked word mark value) pieces

instance OnlyEach.decide (mark : List α) : (words : List (List α)) → (value : κ → List α) →
    (pieces : List (Piece α κ)) → Decidable (OnlyEach mark words value pieces)
  | [], _, _ => isTrue trivial
  | word :: words, value, pieces =>
      have := OnlyEach.decide mark words (marked word mark value) pieces
      inferInstanceAs (Decidable (word ≠ [] ∧ OnlyAt word value [] pieces ∧ _))

/-- Replacing words that occur at their places only gives the text with the mark in the places that
held one of them. -/
theorem OnlyEach.replaceAll {mark : List α} {words : List (List α)} {value : κ → List α}
    {pieces : List (Piece α κ)} (onlyEach : OnlyEach mark words value pieces)
    (covers : ∀ name, .slot name ∈ pieces → value name ∈ words ∨ value name = mark) :
    replaceAll words mark (fill value pieces) = fill (fun _ => mark) pieces := by
  induction words generalizing value with
  | nil =>
      change fill value pieces = _
      unfold fill
      refine List.flatMap_congr fun piece mem => ?_
      cases piece with
      | fixed text => rfl
      | slot name => exact (covers name mem).resolve_left List.not_mem_nil
  | cons word words ih =>
      rcases onlyEach with ⟨nonempty, onlyAt, others⟩
      have here : Replacement.replace word mark (fill value pieces) =
          fill (marked word mark value) pieces := onlyAt.replace nonempty
      change Replacement.replaceAll words mark (Replacement.replace word mark _) = _
      rw [here]
      refine ih others fun name mem => ?_
      rw [marked]
      split
      · exact Or.inr rfl
      · rename_i isOther
        rcases covers name mem with isWord | isMark
        · rcases List.mem_cons.mp isWord with rfl | later
          · exact absurd rfl isOther
          · exact Or.inl later
        · exact Or.inr isMark

end Replacement
