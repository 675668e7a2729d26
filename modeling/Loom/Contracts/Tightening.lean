import Loom.Contracts.Refs
import Loom.Keyed
import Mathlib.Data.List.Perm.Subperm

/-!
# The order of constraints

`is_monotonic_tightening` compares two constraints.  Python's `==` and `<=` on JSON values are laws
of an order where no dictionary has a key twice, and from them the constraints inherit theirs: a
tighter constraint is satisfied by fewer values.
-/

namespace Loom

namespace Json

mutual

/-- No dictionary of the value has a key twice. -/
def Distinct : Json → Prop
  | .arr items => DistinctItems items
  | .obj entries => (entries.map Prod.fst).Nodup ∧ DistinctEntries entries
  | _ => True

def DistinctItems : List Json → Prop
  | [] => True
  | item :: rest => item.Distinct ∧ DistinctItems rest

def DistinctEntries : Dict → Prop
  | [] => True
  | entry :: rest => entry.2.Distinct ∧ DistinctEntries rest

end

/-- The values are equal in both orders. -/
def Alike (left right : Json) : Prop := left.pyEq right = true ∧ right.pyEq left = true

/-! ### Equality -/

theorem pyEq_number {left right : Json} {number : ℚ} (isLeft : left.number? = some number)
    (isRight : right.number? = some number) : left.pyEq right = true := by
  cases left <;> cases right <;> simp_all [pyEq, number?]

/-- How two values are equal. -/
theorem pyEq_cases {left right : Json} (same : left.pyEq right = true) :
    (∃ number, left.number? = some number ∧ right.number? = some number) ∨
      left = .null ∧ right = .null ∨
      (∃ text, left = .str text ∧ right = .str text) ∨
      (∃ lefts rights, left = .arr lefts ∧ right = .arr rights ∧
        pyEqItems lefts rights = true) ∨
      ∃ lefts rights, left = .obj lefts ∧ right = .obj rights ∧ lefts.length = rights.length ∧
        pyEqEntries lefts rights = true := by
  cases left <;> cases right <;> simp_all [pyEq, number?]

theorem pyEq_arr {lefts rights : List Json} :
    (arr lefts).pyEq (arr rights) = pyEqItems lefts rights := by
  rw [pyEq]

theorem pyEq_obj {lefts rights : Dict} : (obj lefts).pyEq (obj rights) = true ↔
    lefts.length = rights.length ∧ pyEqEntries lefts rights = true := by
  rw [pyEq, Bool.and_eq_true, decide_eq_true_eq]

theorem pyEqItems_cons {left right : Json} {lefts rights : List Json} :
    pyEqItems (left :: lefts) (right :: rights) = true ↔
      left.pyEq right = true ∧ pyEqItems lefts rights = true := by
  rw [pyEqItems, Bool.and_eq_true]

theorem pyEqEntries_cons {key : String} {left : Json} {lefts rights : Dict} :
    pyEqEntries ((key, left) :: lefts) rights = true ↔
      (∃ right, rights.lookup key = some right ∧ left.pyEq right = true) ∧
        pyEqEntries lefts rights = true := by
  rw [pyEqEntries, Bool.and_eq_true]
  cases rights.lookup key with
  | none => simp
  | some right => simp

theorem pyEqEntries_lookup {lefts rights : Dict} {key : String} {left : Json}
    (same : pyEqEntries lefts rights = true) (found : lefts.lookup key = some left) :
    ∃ right, rights.lookup key = some right ∧ left.pyEq right = true := by
  induction lefts with
  | nil => cases found
  | cons entry rest ih =>
      obtain ⟨other, value⟩ := entry
      obtain ⟨first, others⟩ := pyEqEntries_cons.1 same
      rw [List.lookup_cons] at found
      by_cases isKey : key = other
      · rw [isKey, beq_self_eq_true] at found
        cases found
        exact isKey ▸ first
      · rw [beq_eq_false_iff_ne.2 isKey] at found
        exact ih others found

mutual

theorem pyEq_trans : ∀ (left : Json) {middle right : Json}, left.pyEq middle = true →
    middle.pyEq right = true → left.pyEq right = true
  | left, middle, right, one, two => by
      rcases pyEq_cases one with ⟨number, isLeft, isMiddle⟩ | ⟨rfl, rfl⟩ | ⟨text, rfl, rfl⟩ |
        ⟨lefts, middles, rfl, rfl, items⟩ | ⟨lefts, middles, rfl, rfl, length, entries⟩
      · rcases pyEq_cases two with ⟨other, isMiddle', isRight⟩ | ⟨rfl, rfl⟩ | ⟨text, rfl, rfl⟩ |
          ⟨_, _, rfl, _⟩ | ⟨_, _, rfl, _⟩
        · cases isMiddle.symm.trans isMiddle'
          exact pyEq_number isLeft isRight
        · cases isMiddle
        · cases isMiddle
        · cases isMiddle
        · cases isMiddle
      · exact two
      · exact two
      · rcases pyEq_cases two with ⟨_, isMiddle, _⟩ | ⟨isMiddle, _⟩ | ⟨_, isMiddle, _⟩ |
          ⟨middles', rights, isMiddle, rfl, items'⟩ | ⟨_, _, isMiddle, _⟩
        · cases isMiddle
        · cases isMiddle
        · cases isMiddle
        · cases isMiddle
          rw [pyEq_arr]
          exact pyEqItems_trans lefts items items'
        · cases isMiddle
      · rcases pyEq_cases two with ⟨_, isMiddle, _⟩ | ⟨isMiddle, _⟩ | ⟨_, isMiddle, _⟩ |
          ⟨_, _, isMiddle, _⟩ | ⟨middles', rights, isMiddle, rfl, length', entries'⟩
        · cases isMiddle
        · cases isMiddle
        · cases isMiddle
        · cases isMiddle
        · cases isMiddle
          exact pyEq_obj.2 ⟨length.trans length', pyEqEntries_trans lefts entries entries'⟩

theorem pyEqItems_trans : ∀ (lefts : List Json) {middles rights : List Json},
    pyEqItems lefts middles = true → pyEqItems middles rights = true →
      pyEqItems lefts rights = true
  | [], [], _, _, two => two
  | [], _ :: _, _, one, _ => by simp [pyEqItems] at one
  | _ :: _, [], _, one, _ => by simp [pyEqItems] at one
  | _ :: _, _ :: _, [], _, two => by simp [pyEqItems] at two
  | left :: lefts, _ :: _, _ :: _, one, two =>
      have parts := pyEqItems_cons.1 one
      have parts' := pyEqItems_cons.1 two
      pyEqItems_cons.2 ⟨pyEq_trans left parts.1 parts'.1, pyEqItems_trans lefts parts.2 parts'.2⟩

theorem pyEqEntries_trans : ∀ (lefts : Dict) {middles rights : Dict},
    pyEqEntries lefts middles = true → pyEqEntries middles rights = true →
      pyEqEntries lefts rights = true
  | [], _, _, _, _ => by rw [pyEqEntries]
  | (key, left) :: lefts, _, _, one, two => by
      obtain ⟨⟨middle, isMiddle, same⟩, others⟩ := pyEqEntries_cons.1 one
      obtain ⟨right, isRight, same'⟩ := pyEqEntries_lookup two isMiddle
      exact pyEqEntries_cons.2
        ⟨⟨right, isRight, pyEq_trans left same same'⟩, pyEqEntries_trans lefts others two⟩

end

theorem distinct_of_lookup {entries : Dict} {key : String} {value : Json}
    (distinct : DistinctEntries entries) (found : entries.lookup key = some value) :
    value.Distinct := by
  induction entries with
  | nil => cases found
  | cons entry rest ih =>
      rw [List.lookup_cons] at found
      split at found
      · cases found
        exact distinct.1
      · exact ih distinct.2 found

theorem Distinct.get {entries : Dict} (distinct : (obj entries).Distinct) (key : String) :
    (Dict.get entries key).Distinct := by
  unfold Dict.get
  cases found : entries.lookup key with
  | none => trivial
  | some value => exact distinct_of_lookup distinct.2 found

mutual

theorem pyEq_refl : ∀ (value : Json), value.Distinct → value.pyEq value = true
  | .null, _ => by simp [pyEq, number?]
  | .bool _, _ => pyEq_number rfl rfl
  | .int _, _ => pyEq_number rfl rfl
  | .float _, _ => pyEq_number rfl rfl
  | .str _, _ => by simp [pyEq, number?]
  | .arr items, distinct => by
      rw [pyEq_arr]
      exact pyEqItems_refl items distinct
  | .obj entries, distinct => by
      exact pyEq_obj.2 ⟨rfl, pyEqEntries_refl entries entries distinct.2 fun entry member =>
        Keyed.lookup_of_mem distinct.1 member⟩

theorem pyEqItems_refl : ∀ (items : List Json), DistinctItems items →
    pyEqItems items items = true
  | [], _ => by rw [pyEqItems]
  | item :: rest, distinct =>
      pyEqItems_cons.2 ⟨pyEq_refl item distinct.1, pyEqItems_refl rest distinct.2⟩

theorem pyEqEntries_refl : ∀ (lefts entries : Dict), DistinctEntries lefts →
    (∀ entry ∈ lefts, entries.lookup entry.1 = some entry.2) → pyEqEntries lefts entries = true
  | [], _, _, _ => by rw [pyEqEntries]
  | (key, left) :: rest, entries, distinct, found =>
      pyEqEntries_cons.2
        ⟨⟨left, found (key, left) List.mem_cons_self, pyEq_refl left distinct.1⟩,
          pyEqEntries_refl rest entries distinct.2 fun entry member =>
            found entry (List.mem_cons_of_mem _ member)⟩

end

theorem pyEqEntries_iff {lefts rights : Dict} : pyEqEntries lefts rights = true ↔
    ∀ entry ∈ lefts, ∃ right, rights.lookup entry.1 = some right ∧
      entry.2.pyEq right = true := by
  induction lefts with
  | nil => simp [pyEqEntries]
  | cons entry rest ih =>
      rw [pyEqEntries_cons, ih, List.forall_mem_cons]

theorem keys_of_pyEqEntries {lefts rights : Dict} (same : pyEqEntries lefts rights = true) :
    lefts.map Prod.fst ⊆ rights.map Prod.fst := by
  intro key member
  obtain ⟨entry, isEntry, rfl⟩ := List.mem_map.1 member
  obtain ⟨right, isRight, -⟩ := pyEqEntries_iff.1 same entry isEntry
  exact List.mem_map.2 ⟨_, Keyed.mem_of_lookup isRight, rfl⟩

mutual

theorem pyEq_symm : ∀ (left : Json) {right : Json}, left.Distinct → right.Distinct →
    left.pyEq right = true → right.pyEq left = true
  | left, right, distinctLeft, distinctRight, same => by
      rcases pyEq_cases same with ⟨number, isLeft, isRight⟩ | ⟨rfl, rfl⟩ | ⟨text, rfl, rfl⟩ |
        ⟨lefts, rights, rfl, rfl, items⟩ | ⟨lefts, rights, rfl, rfl, length, entries⟩
      · exact pyEq_number isRight isLeft
      · exact same
      · exact same
      · rw [pyEq_arr]
        exact pyEqItems_symm lefts distinctLeft distinctRight items
      · refine pyEq_obj.2 ⟨length.symm, pyEqEntries_iff.2 fun entry member => ?_⟩
        -- The keys of both are the same, as none is there twice.
        have within : (lefts.map Prod.fst).Subperm (rights.map Prod.fst) :=
          List.subperm_of_subset distinctLeft.1 (keys_of_pyEqEntries entries)
        have perm := List.Subperm.perm_of_length_le within (by simp [length])
        obtain ⟨other, isOther, sameKey⟩ :=
          List.mem_map.1 (perm.mem_iff.2 (List.mem_map_of_mem member))
        have isLeft := Keyed.lookup_of_mem distinctLeft.1 isOther
        have isRight := Keyed.lookup_of_mem distinctRight.1 member
        rw [sameKey] at isLeft
        refine ⟨other.2, isLeft, ?_⟩
        rw [← sameKey] at isRight
        exact pyEqEntries_symm lefts distinctLeft.2 distinctRight.2 entries other isOther isRight

theorem pyEqItems_symm : ∀ (lefts : List Json) {rights : List Json}, DistinctItems lefts →
    DistinctItems rights → pyEqItems lefts rights = true → pyEqItems rights lefts = true
  | [], [], _, _, same => same
  | [], _ :: _, _, _, same => by simp [pyEqItems] at same
  | _ :: _, [], _, _, same => by simp [pyEqItems] at same
  | left :: lefts, _ :: _, distinctLeft, distinctRight, same =>
      have parts := pyEqItems_cons.1 same
      pyEqItems_cons.2 ⟨pyEq_symm left distinctLeft.1 distinctRight.1 parts.1,
        pyEqItems_symm lefts distinctLeft.2 distinctRight.2 parts.2⟩

theorem pyEqEntries_symm : ∀ (lefts : Dict) {rights : Dict}, DistinctEntries lefts →
    DistinctEntries rights → pyEqEntries lefts rights = true → ∀ entry ∈ lefts, ∀ {right : Json},
      rights.lookup entry.1 = some right → right.pyEq entry.2 = true
  | [], _, _, _, _, _, member, _, _ => (List.not_mem_nil member).elim
  | (key, left) :: lefts, _, distinctLeft, distinctRight, same, entry, member, right, isRight => by
      obtain ⟨⟨other, isOther, first⟩, others⟩ := pyEqEntries_cons.1 same
      rcases List.mem_cons.1 member with rfl | member
      · cases isRight.symm.trans isOther
        exact pyEq_symm left distinctLeft.1 (distinct_of_lookup distinctRight isRight) first
      · exact pyEqEntries_symm lefts distinctLeft.2 distinctRight others entry member isRight

end

namespace Alike

variable {left middle right : Json}

theorem refl (distinct : left.Distinct) : left.Alike left :=
  ⟨pyEq_refl left distinct, pyEq_refl left distinct⟩

theorem symm (alike : left.Alike right) : right.Alike left := ⟨alike.2, alike.1⟩

theorem trans (one : left.Alike middle) (two : middle.Alike right) : left.Alike right :=
  ⟨pyEq_trans left one.1 two.1, pyEq_trans right two.2 one.2⟩

theorem of_pyEq (distinctLeft : left.Distinct) (distinctRight : right.Distinct)
    (same : left.pyEq right = true) : left.Alike right :=
  ⟨same, pyEq_symm left distinctLeft distinctRight same⟩

/-- Alike dictionaries have alike entries. -/
theorem get {lefts rights : Dict} (alike : (obj lefts).Alike (obj rights)) (key : String) :
    (Dict.get lefts key).Alike (Dict.get rights key) := by
  obtain ⟨-, forth⟩ := pyEq_obj.1 alike.1
  obtain ⟨-, back⟩ := pyEq_obj.1 alike.2
  unfold Dict.get
  cases isLeft : lefts.lookup key with
  | some value =>
      obtain ⟨other, isRight, same⟩ := pyEqEntries_lookup forth isLeft
      obtain ⟨value', isLeft', same'⟩ := pyEqEntries_lookup back isRight
      cases isLeft.symm.trans isLeft'
      rw [isRight]
      exact ⟨same, same'⟩
  | none =>
      cases isRight : rights.lookup key with
      | none => exact refl trivial
      | some other =>
          obtain ⟨value, isLeft', -⟩ := pyEqEntries_lookup back isRight
          cases isLeft.symm.trans isLeft'

theorem str_iff {text : String} (alike : left.Alike right) :
    left = .str text ↔ right = .str text := by
  constructor
  · rintro rfl
    rcases pyEq_cases alike.1 with ⟨_, isLeft, _⟩ | ⟨isLeft, _⟩ | ⟨_, isLeft, isRight⟩ |
      ⟨_, _, isLeft, _⟩ | ⟨_, _, isLeft, _⟩
    · cases isLeft
    · cases isLeft
    · cases isLeft
      exact isRight
    · cases isLeft
    · cases isLeft
  · rintro rfl
    rcases pyEq_cases alike.2 with ⟨_, isRight, _⟩ | ⟨isRight, _⟩ | ⟨_, isRight, isLeft⟩ |
      ⟨_, _, isRight, _⟩ | ⟨_, _, isRight, _⟩
    · cases isRight
    · cases isRight
    · cases isRight
      exact isLeft
    · cases isRight
    · cases isRight

end Alike

/-! ### Comparison -/

theorem le?_number {left right : Json} {lower upper : ℚ} (isLeft : left.number? = some lower)
    (isRight : right.number? = some upper) : left.le? right = some (decide (lower ≤ upper)) := by
  unfold le?
  rw [isLeft, isRight]

theorem le?_str {lower upper : String} :
    (str lower).le? (str upper) = some (decide (lower ≤ upper)) := rfl

theorem le?_arr {lowers uppers : List Json} :
    (arr lowers).le? (arr uppers) = le?.itemsLe? lowers uppers := rfl

/-- How two values are compared. -/
theorem le?_cases {left right : Json} {answer : Bool} (compared : left.le? right = some answer) :
    (∃ lower upper, left.number? = some lower ∧ right.number? = some upper ∧
        answer = decide (lower ≤ upper)) ∨
      (∃ lower upper, left = .str lower ∧ right = .str upper ∧ answer = decide (lower ≤ upper)) ∨
      ∃ lowers uppers, left = .arr lowers ∧ right = .arr uppers ∧
        le?.itemsLe? lowers uppers = some answer := by
  unfold le? at compared
  split at compared
  · rename_i lower upper isLeft isRight
    exact Or.inl ⟨lower, upper, isLeft, isRight, (Option.some.inj compared).symm⟩
  · split at compared
    · rename_i lower upper _
      exact Or.inr (Or.inl ⟨lower, upper, rfl, rfl, (Option.some.inj compared).symm⟩)
    · rename_i lowers uppers _
      exact Or.inr (Or.inr ⟨lowers, uppers, rfl, rfl, compared⟩)
    · cases compared

theorem itemsLe?_cons {left right : Json} {lefts rights : List Json} :
    le?.itemsLe? (left :: lefts) (right :: rights) =
      if left.pyEq right then le?.itemsLe? lefts rights else left.le? right := by
  conv_lhs => unfold le?.itemsLe?
  rfl

theorem pyEq_congr {left left' right : Json} (alike : left.Alike left') :
    left.pyEq right = left'.pyEq right ∧ right.pyEq left = right.pyEq left' := by
  constructor
  · exact Bool.eq_iff_iff.2 ⟨pyEq_trans left' alike.2, pyEq_trans left alike.1⟩
  · exact Bool.eq_iff_iff.2
      ⟨fun same => pyEq_trans right same alike.1, fun same => pyEq_trans right same alike.2⟩

theorem Alike.number {left right : Json} {number : ℚ} (alike : left.Alike right)
    (isLeft : left.number? = some number) : right.number? = some number := by
  rcases pyEq_cases alike.1 with ⟨other, isLeft', isRight⟩ | ⟨rfl, rfl⟩ | ⟨text, rfl, rfl⟩ |
    ⟨_, _, rfl, _⟩ | ⟨_, _, rfl, _⟩
  · cases isLeft.symm.trans isLeft'
    exact isRight
  · exact isLeft
  · exact isLeft
  · cases isLeft
  · cases isLeft

theorem Alike.arr {lefts : List Json} {right : Json} (alike : (Json.arr lefts).Alike right) :
    ∃ rights, right = .arr rights ∧ pyEqItems lefts rights = true ∧
      pyEqItems rights lefts = true := by
  rcases pyEq_cases alike.1 with ⟨_, isLeft, _⟩ | ⟨isLeft, _⟩ | ⟨_, isLeft, _⟩ |
    ⟨_, rights, isLeft, rfl, items⟩ | ⟨_, _, isLeft, _⟩
  · cases isLeft
  · cases isLeft
  · cases isLeft
  · cases isLeft
    have back := alike.2
    rw [pyEq_arr] at back
    exact ⟨rights, rfl, items, back⟩
  · cases isLeft

mutual

/-- What is alike to a lower value is lower too. -/
theorem le?_congr_left : ∀ (left : Json) {left' right : Json} {answer : Bool}, left.Alike left' →
    left.le? right = some answer → left'.le? right = some answer
  | left, left', right, answer, alike, compared => by
      rcases le?_cases compared with ⟨lower, upper, isLeft, isRight, rfl⟩ |
        ⟨lower, upper, rfl, rfl, rfl⟩ | ⟨lowers, uppers, rfl, rfl, items⟩
      · exact le?_number (alike.number isLeft) isRight
      · rw [(alike.str_iff).1 rfl]
        exact le?_str
      · obtain ⟨lowers', rfl, forth, back⟩ := alike.arr
        exact itemsLe?_congr_left lowers forth back items

theorem itemsLe?_congr_left : ∀ (lefts : List Json) {lefts' rights : List Json} {answer : Bool},
    pyEqItems lefts lefts' = true → pyEqItems lefts' lefts = true →
      le?.itemsLe? lefts rights = some answer → le?.itemsLe? lefts' rights = some answer
  | [], [], _, _, _, _, compared => compared
  | [], _ :: _, _, _, forth, _, _ => by simp [pyEqItems] at forth
  | _ :: _, [], _, _, forth, _, _ => by simp [pyEqItems] at forth
  | _ :: _, _ :: _, [], _, _, _, compared => by
      rw [le?.itemsLe?] at compared ⊢
      exact compared
  | left :: lefts, left' :: lefts', right :: rights, answer, forth, back, compared => by
      obtain ⟨first, others⟩ := pyEqItems_cons.1 forth
      obtain ⟨first', others'⟩ := pyEqItems_cons.1 back
      have alike : left.Alike left' := ⟨first, first'⟩
      rw [itemsLe?_cons] at compared ⊢
      rw [← (pyEq_congr alike).1]
      split at compared
      · rename_i same
        rw [if_pos same]
        exact itemsLe?_congr_left lefts others others' compared
      · rename_i other
        rw [if_neg other]
        exact le?_congr_left left alike compared

end

mutual

theorem le?_congr_right : ∀ (left : Json) {right right' : Json} {answer : Bool},
    right.Alike right' → left.le? right = some answer → left.le? right' = some answer
  | left, right, right', answer, alike, compared => by
      rcases le?_cases compared with ⟨lower, upper, isLeft, isRight, rfl⟩ |
        ⟨lower, upper, rfl, rfl, rfl⟩ | ⟨lowers, uppers, rfl, rfl, items⟩
      · exact le?_number isLeft (alike.number isRight)
      · rw [(alike.str_iff).1 rfl]
        exact le?_str
      · obtain ⟨uppers', rfl, forth, back⟩ := alike.arr
        exact itemsLe?_congr_right lowers forth back items

theorem itemsLe?_congr_right : ∀ (lefts : List Json) {rights rights' : List Json} {answer : Bool},
    pyEqItems rights rights' = true → pyEqItems rights' rights = true →
      le?.itemsLe? lefts rights = some answer → le?.itemsLe? lefts rights' = some answer
  | [], _, _, _, _, _, compared => by
      rw [le?.itemsLe?] at compared ⊢
      exact compared
  | _ :: _, [], [], _, _, _, compared => compared
  | _ :: _, [], _ :: _, _, forth, _, _ => by simp [pyEqItems] at forth
  | _ :: _, _ :: _, [], _, forth, _, _ => by simp [pyEqItems] at forth
  | left :: lefts, right :: rights, right' :: rights', answer, forth, back, compared => by
      obtain ⟨first, others⟩ := pyEqItems_cons.1 forth
      obtain ⟨first', others'⟩ := pyEqItems_cons.1 back
      have alike : right.Alike right' := ⟨first, first'⟩
      rw [itemsLe?_cons] at compared ⊢
      rw [← (pyEq_congr alike).2]
      split at compared
      · rename_i same
        rw [if_pos same]
        exact itemsLe?_congr_right lefts others others' compared
      · rename_i other
        rw [if_neg other]
        exact le?_congr_right left alike compared

end

mutual

theorem le?_antisymm : ∀ (left : Json) {right : Json}, left.Distinct → right.Distinct →
    left.le? right = some true → right.le? left = some true → left.pyEq right = true
  | left, right, distinctLeft, distinctRight, below, above => by
      rcases le?_cases below with ⟨lower, upper, isLeft, isRight, isLe⟩ |
        ⟨lower, upper, rfl, rfl, isLe⟩ | ⟨lowers, uppers, rfl, rfl, items⟩
      · rw [le?_number isRight isLeft] at above
        have isLe' := of_decide_eq_true (Option.some.inj above)
        have same := Rat.le_antisymm (of_decide_eq_true isLe.symm) isLe'
        exact pyEq_number isLeft (same ▸ isRight)
      · rw [le?_str] at above
        have isLe' := of_decide_eq_true (Option.some.inj above)
        rw [String.le_antisymm (of_decide_eq_true isLe.symm) isLe']
        exact pyEq_refl _ trivial
      · rw [le?_arr] at above
        rw [pyEq_arr]
        exact itemsLe?_antisymm lowers distinctLeft distinctRight items above

theorem itemsLe?_antisymm : ∀ (lefts : List Json) {rights : List Json}, DistinctItems lefts →
    DistinctItems rights → le?.itemsLe? lefts rights = some true →
      le?.itemsLe? rights lefts = some true → pyEqItems lefts rights = true
  | [], [], _, _, _, _ => by rw [pyEqItems]
  | [], _ :: _, _, _, _, above => by simp [le?.itemsLe?] at above
  | _ :: _, [], _, _, below, _ => by simp [le?.itemsLe?] at below
  | left :: lefts, right :: rights, distinctLeft, distinctRight, below, above => by
      rw [itemsLe?_cons] at below above
      split at below
      · rename_i same
        rw [if_pos (pyEq_symm left distinctLeft.1 distinctRight.1 same)] at above
        exact pyEqItems_cons.2
          ⟨same, itemsLe?_antisymm lefts distinctLeft.2 distinctRight.2 below above⟩
      · rename_i other
        rw [if_neg fun same => other (pyEq_symm right distinctRight.1 distinctLeft.1 same)] at above
        exact absurd (le?_antisymm left distinctLeft.1 distinctRight.1 below above) other

end

mutual

theorem le?_trans : ∀ (left : Json) {middle right : Json}, left.Distinct → middle.Distinct →
    right.Distinct → left.le? middle = some true → middle.le? right = some true →
      left.le? right = some true
  | left, middle, right, distinctLeft, distinctMiddle, distinctRight, one, two => by
      rcases le?_cases one with ⟨lower, upper, isLeft, isMiddle, isLe⟩ |
        ⟨lower, upper, rfl, rfl, isLe⟩ | ⟨lowers, middles, rfl, rfl, items⟩
      · rcases le?_cases two with ⟨lower', upper', isMiddle', isRight, isLe'⟩ |
          ⟨_, _, rfl, _, _⟩ | ⟨_, _, rfl, _, _⟩
        · cases isMiddle.symm.trans isMiddle'
          rw [le?_number isLeft isRight]
          have both := Rat.le_trans (of_decide_eq_true isLe.symm) (of_decide_eq_true isLe'.symm)
          rw [decide_eq_true both]
        · cases isMiddle
        · cases isMiddle
      · rcases le?_cases two with ⟨_, _, isMiddle, _, _⟩ | ⟨lower', upper', isMiddle, rfl, isLe'⟩ |
          ⟨_, _, isMiddle, _, _⟩
        · cases isMiddle
        · cases isMiddle
          have both := String.le_trans (of_decide_eq_true isLe.symm) (of_decide_eq_true isLe'.symm)
          rw [le?_str, decide_eq_true both]
        · cases isMiddle
      · rcases le?_cases two with ⟨_, _, isMiddle, _, _⟩ | ⟨_, _, isMiddle, _, _⟩ |
          ⟨middles', uppers, isMiddle, rfl, items'⟩
        · cases isMiddle
        · cases isMiddle
        · cases isMiddle
          exact itemsLe?_trans lowers distinctLeft distinctMiddle distinctRight items items'

theorem itemsLe?_trans : ∀ (lefts : List Json) {middles rights : List Json},
    DistinctItems lefts → DistinctItems middles → DistinctItems rights →
      le?.itemsLe? lefts middles = some true → le?.itemsLe? middles rights = some true →
        le?.itemsLe? lefts rights = some true
  | [], _, _, _, _, _, _, _ => by rw [le?.itemsLe?]
  | _ :: _, [], _, _, _, _, one, _ => by simp [le?.itemsLe?] at one
  | _ :: _, _ :: _, [], _, _, _, _, two => by simp [le?.itemsLe?] at two
  | left :: lefts, middle :: middles, right :: rights, distinctLeft, distinctMiddle, distinctRight,
      one, two => by
      rw [itemsLe?_cons] at one two ⊢
      by_cases sameOne : left.pyEq middle = true
      · have alike := Alike.of_pyEq distinctLeft.1 distinctMiddle.1 sameOne
        rw [if_pos sameOne] at one
        rw [(pyEq_congr alike).1]
        split at two
        · rename_i sameTwo
          rw [if_pos sameTwo]
          exact itemsLe?_trans lefts distinctLeft.2 distinctMiddle.2 distinctRight.2 one two
        · rename_i other
          rw [if_neg other]
          exact le?_congr_left middle alike.symm two
      · rw [if_neg sameOne] at one
        by_cases sameTwo : middle.pyEq right = true
        · have alike := Alike.of_pyEq distinctMiddle.1 distinctRight.1 sameTwo
          rw [if_neg fun same => sameOne ((pyEq_congr alike).2.trans same)]
          exact le?_congr_right left alike one
        · rw [if_neg sameTwo] at two
          have other : ¬left.pyEq right = true := by
            intro same
            have alike := Alike.of_pyEq distinctLeft.1 distinctRight.1 same
            have above := le?_congr_right middle alike.symm two
            exact sameOne (le?_antisymm left distinctLeft.1 distinctMiddle.1 one above)
          rw [if_neg other]
          exact le?_trans left distinctLeft.1 distinctMiddle.1 distinctRight.1 one two

end

/-- Values that are compared with themselves are not above themselves. -/
theorem le?_refl {value : Json} {answer : Bool} (distinct : value.Distinct)
    (compared : value.le? value = some answer) : answer = true := by
  have items : ∀ values : List Json, DistinctItems values →
      le?.itemsLe? values values = some true := by
    intro values distinct
    induction values with
    | nil => rw [le?.itemsLe?]
    | cons value values ih =>
        rw [itemsLe?_cons, if_pos (pyEq_refl value distinct.1)]
        exact ih distinct.2
  rcases le?_cases compared with ⟨lower, upper, isLeft, isRight, rfl⟩ |
    ⟨lower, upper, rfl, same, rfl⟩ | ⟨lowers, uppers, rfl, same, compared⟩
  · cases isLeft.symm.trans isRight
    exact decide_eq_true Rat.le_refl
  · cases same
    exact decide_eq_true (String.le_refl lower)
  · cases same
    exact Option.some.inj (compared.symm.trans (items lowers distinct))

end Json

/-! ### Constraints -/

/-- The check of two constraints passes. -/
def Tightens (parent child : Json) : Prop := isMonotonicTightening parent child = .ok true

instance (parent child : Json) : Decidable (Tightens parent child) :=
  inferInstanceAs (Decidable (isMonotonicTightening parent child = .ok true))

/-- How a constraint tightens another: by a bound, by the allowed values, or not at all. -/
inductive Tightening (parent child : Dict) : Prop where
  | le (parentOp : Dict.get parent "op" = .str "le") (childOp : Dict.get child "op" = .str "le")
      (below : (Dict.get child "value").le? (Dict.get parent "value") = some true)
  | ge (parentOp : Dict.get parent "op" = .str "ge") (childOp : Dict.get child "op" = .str "ge")
      (above : (Dict.get parent "value").le? (Dict.get child "value") = some true)
  | allow (parentItems childItems : List Json) (parentOp : Dict.get parent "op" = .str "allow")
      (childOp : Dict.get child "op" = .str "allow")
      (isParent : (Dict.valueOrEmpty parent).elements? = some parentItems)
      (isChild : (Dict.valueOrEmpty child).elements? = some childItems)
      (within : ∀ item ∈ childItems, ∃ other ∈ parentItems, item.pyEq other = true)
  | same (other : ∀ op, Dict.get parent "op" = .str op → Dict.get child "op" = .str op →
        op ≠ "le" ∧ op ≠ "ge" ∧ op ≠ "allow")
      (equal : (Json.obj parent).pyEq (.obj child) = true)

theorem tightens_obj {parent child : Json} (tightens : Tightens parent child) :
    ∃ parentEntries childEntries, parent = .obj parentEntries ∧ child = .obj childEntries := by
  unfold Tightens isMonotonicTightening at tightens
  split at tightens
  · exact ⟨_, _, rfl, rfl⟩
  · cases tightens

theorem tightens_iff {parent child : Dict} : Tightens (.obj parent) (.obj child) ↔
    (Dict.get parent "field").pyEq (Dict.get child "field") = true ∧ Tightening parent child := by
  unfold Tightens isMonotonicTightening
  dsimp only
  by_cases sameField : (Dict.get parent "field").pyEq (Dict.get child "field") = true
  · rw [if_neg (by simp [sameField])]
    constructor
    · intro passes
      refine ⟨sameField, ?_⟩
      split at passes
      · rename_i isLe
        split at passes
        · rename_i answer compared
          cases passes
          exact .le isLe.1 (isLe.2 ▸ isLe.1) compared
        · cases passes
      · rename_i notLe
        split at passes
        · rename_i isGe
          split at passes
          · rename_i answer compared
            cases passes
            exact .ge isGe.1 (isGe.2 ▸ isGe.1) compared
          · cases passes
        · rename_i notGe
          split at passes
          · rename_i isAllow
            split at passes
            · rename_i childItems parentItems isChild isParent
              have within := Except.ok.inj passes
              simp only [List.all_eq_true, List.any_eq_true] at within
              exact .allow parentItems childItems isAllow.1 (isAllow.2 ▸ isAllow.1) isParent isChild
                within
            · cases passes
          · rename_i notAllow
            refine .same (fun op parentOp childOp => ?_) (Except.ok.inj passes)
            refine ⟨?_, ?_, ?_⟩
            · rintro rfl
              exact notLe ⟨parentOp, parentOp.trans childOp.symm⟩
            · rintro rfl
              exact notGe ⟨parentOp, parentOp.trans childOp.symm⟩
            · rintro rfl
              exact notAllow ⟨parentOp, parentOp.trans childOp.symm⟩
    · rintro ⟨-, tightening⟩
      cases tightening with
      | le parentOp childOp below =>
          rw [if_pos ⟨parentOp, parentOp.trans childOp.symm⟩, below]
      | ge parentOp childOp above =>
          rw [if_neg (by simp [parentOp]), if_pos ⟨parentOp, parentOp.trans childOp.symm⟩, above]
      | allow parentItems childItems parentOp childOp isParent isChild within =>
          rw [if_neg (by simp [parentOp]), if_neg (by simp [parentOp]),
            if_pos ⟨parentOp, parentOp.trans childOp.symm⟩, isParent, isChild]
          dsimp only
          congr 1
          simp only [List.all_eq_true, List.any_eq_true]
          exact within
      | same other equal =>
          have differs : ∀ op, op = "le" ∨ op = "ge" ∨ op = "allow" →
              ¬(Dict.get parent "op" = .str op ∧ Dict.get parent "op" = Dict.get child "op") := by
            rintro op isOp ⟨parentOp, sameOp⟩
            have none := other op parentOp (sameOp ▸ parentOp)
            rcases isOp with isOp | isOp | isOp
            · exact none.1 isOp
            · exact none.2.1 isOp
            · exact none.2.2 isOp
          rw [if_neg (differs _ (Or.inl rfl)), if_neg (differs _ (Or.inr (Or.inl rfl))),
            if_neg (differs _ (Or.inr (Or.inr rfl))), equal]
  · rw [if_pos (by simpa using sameField)]
    constructor
    · intro passes
      cases passes
    · exact fun passes => absurd passes.1 sameField

namespace Json

theorem hashable_of_pyEq {left right : Json} (same : left.pyEq right = true)
    (hashable : left.hashable = true) : right.hashable = true := by
  rcases pyEq_cases same with ⟨_, _, isRight⟩ | ⟨_, rfl⟩ | ⟨_, _, rfl⟩ | ⟨_, _, rfl, _⟩ |
    ⟨_, _, rfl, _⟩
  · cases right <;> first | rfl | cases isRight
  · rfl
  · rfl
  · cases hashable
  · cases hashable

theorem pyEqItems_mem : ∀ {lefts rights : List Json}, pyEqItems lefts rights = true →
    ∀ left ∈ lefts, ∃ right ∈ rights, left.pyEq right = true
  | [], _, _, _, member => (List.not_mem_nil member).elim
  | _ :: _, [], same, _, _ => by simp [pyEqItems] at same
  | first :: lefts, other :: rights, same, left, member => by
      obtain ⟨head, others⟩ := pyEqItems_cons.1 same
      rcases List.mem_cons.1 member with rfl | member
      · exact ⟨other, List.mem_cons_self, head⟩
      · obtain ⟨right, isRight, equal⟩ := pyEqItems_mem others left member
        exact ⟨right, List.mem_cons_of_mem _ isRight, equal⟩

/-- Alike values have the same elements. -/
theorem Alike.elements {left right : Json} {lefts : List Json} (alike : left.Alike right)
    (isLeft : left.elements? = some lefts) :
    ∃ rights, right.elements? = some rights ∧
      ∀ item ∈ lefts, ∃ other ∈ rights, item.pyEq other = true := by
  cases left with
  | arr items =>
      obtain ⟨others, rfl, forth, back⟩ := alike.arr
      change (if items.all hashable then some items else none) = _ at isLeft
      change ∃ rights, (if others.all hashable then some others else none) = _ ∧ _
      split at isLeft
      · rename_i hashable
        cases isLeft
        refine ⟨others, ?_, pyEqItems_mem forth⟩
        rw [if_pos]
        refine List.all_eq_true.2 fun other member => ?_
        obtain ⟨item, isItem, same⟩ := pyEqItems_mem back other member
        have sameBack : item.pyEq other = true := by
          have hashableItem := List.all_eq_true.1 hashable item isItem
          have distinct : ∀ value : Json, value.hashable = true → value.Distinct := by
            intro value isHashable
            cases value with
            | arr items => cases isHashable
            | obj entries => cases isHashable
            | _ => trivial
          rcases pyEq_cases same with ⟨_, isOther, isItem⟩ | ⟨rfl, rfl⟩ | ⟨_, rfl, rfl⟩ |
            ⟨_, _, _, rfl, _⟩ | ⟨_, _, _, rfl, _⟩
          · exact pyEq_number isItem isOther
          · exact same
          · exact same
          · cases hashableItem
          · cases hashableItem
        exact hashable_of_pyEq sameBack (List.all_eq_true.1 hashable item isItem)
      · cases isLeft
  | str text =>
      rw [(alike.str_iff).1 rfl]
      refine ⟨lefts, isLeft, fun item member => ⟨item, member, ?_⟩⟩
      cases isLeft
      obtain ⟨char, -, rfl⟩ := List.mem_map.1 member
      exact pyEq_refl _ trivial
  | obj entries =>
      cases isLeft
      rcases pyEq_cases alike.1 with ⟨_, same, _⟩ | ⟨same, _⟩ | ⟨_, same, _⟩ | ⟨_, _, same, _⟩ |
        ⟨_, others, same, rfl, _, forth⟩
      · cases same
      · cases same
      · cases same
      · cases same
      · cases same
        refine ⟨_, rfl, fun item member => ?_⟩
        obtain ⟨entry, isEntry, rfl⟩ := List.mem_map.1 member
        obtain ⟨other, isOther, sameKey⟩ :=
          List.mem_map.1 (keys_of_pyEqEntries forth (List.mem_map_of_mem isEntry))
        refine ⟨.str other.1, List.mem_map_of_mem isOther, ?_⟩
        rw [sameKey]
        exact pyEq_refl _ trivial
  | null => cases isLeft
  | bool flag => cases isLeft
  | int number => cases isLeft
  | float number => cases isLeft

theorem Alike.valueOrEmpty {lefts rights : Dict} (alike : (obj lefts).Alike (obj rights)) :
    (Dict.valueOrEmpty lefts).Alike (Dict.valueOrEmpty rights) := by
  have sameKeys : Dict.has lefts "value" = Dict.has rights "value" := by
    unfold Dict.has
    obtain ⟨-, forth⟩ := pyEq_obj.1 alike.1
    obtain ⟨-, back⟩ := pyEq_obj.1 alike.2
    cases isLeft : lefts.lookup "value" with
    | some value =>
        obtain ⟨other, isRight, -⟩ := pyEqEntries_lookup forth isLeft
        rw [isRight]
        rfl
    | none =>
        cases isRight : rights.lookup "value" with
        | none => rfl
        | some other =>
            obtain ⟨value, isLeft', -⟩ := pyEqEntries_lookup back isRight
            cases isLeft.symm.trans isLeft'
  unfold Dict.valueOrEmpty
  rw [sameKeys]
  split
  · exact alike.get "value"
  · exact .refl trivial

theorem Alike.obj {lefts : Dict} {right : Json} (alike : (Json.obj lefts).Alike right) :
    ∃ rights, right = .obj rights := by
  rcases pyEq_cases alike.1 with ⟨_, same, _⟩ | ⟨same, _⟩ | ⟨_, same, _⟩ | ⟨_, _, same, _⟩ |
    ⟨_, rights, _, rfl, _⟩
  · cases same
  · cases same
  · cases same
  · cases same
  · exact ⟨rights, rfl⟩

end Json

/-- A constraint that is alike to the parent is tightened too. -/
theorem Tightens.congr {parent parent' child : Json} (tightens : Tightens parent child)
    (alike : parent.Alike parent') : Tightens parent' child := by
  obtain ⟨entries, childEntries, rfl, rfl⟩ := tightens_obj tightens
  obtain ⟨entries', rfl⟩ := alike.obj
  obtain ⟨sameField, tightening⟩ := tightens_iff.1 tightens
  have ops : ∀ {op}, Dict.get entries "op" = .str op → Dict.get entries' "op" = .str op :=
    fun isOp => ((alike.get "op").str_iff).1 isOp
  refine tightens_iff.2 ⟨Json.pyEq_trans _ (alike.get "field").2 sameField, ?_⟩
  cases tightening with
  | le parentOp childOp below =>
      exact .le (ops parentOp) childOp (Json.le?_congr_right _ (alike.get "value") below)
  | ge parentOp childOp above =>
      exact .ge (ops parentOp) childOp (Json.le?_congr_left _ (alike.get "value") above)
  | allow parentItems childItems parentOp childOp isParent isChild within =>
      obtain ⟨parentItems', isParent', covers⟩ := alike.valueOrEmpty.elements isParent
      refine .allow parentItems' childItems (ops parentOp) childOp isParent' isChild
        fun item member => ?_
      obtain ⟨other, isOther, same⟩ := within item member
      obtain ⟨other', isOther', same'⟩ := covers other isOther
      exact ⟨other', isOther', Json.pyEq_trans item same same'⟩
  | same other equal =>
      refine .same (fun op parentOp childOp => ?_) (Json.pyEq_trans _ alike.2 equal)
      exact other op (((alike.get "op").str_iff).2 parentOp) childOp

/-- Constraints that can be compared with themselves tighten themselves. -/
theorem tightens_refl {constraint : Json} {answer : Bool} (distinct : constraint.Distinct)
    (accepts : isMonotonicTightening constraint constraint = .ok answer) :
    Tightens constraint constraint := by
  have isTrue : answer = true := by
    cases constraint with
    | obj entries =>
        unfold isMonotonicTightening at accepts
        dsimp only at accepts
        rw [if_neg (by simp [Json.pyEq_refl _ (distinct.get "field")])] at accepts
        split at accepts
        · split at accepts
          · rename_i answer' compared
            cases accepts
            exact Json.le?_refl (distinct.get "value") compared
          · cases accepts
        · split at accepts
          · split at accepts
            · rename_i answer' compared
              cases accepts
              exact Json.le?_refl (distinct.get "value") compared
            · cases accepts
          · split at accepts
            · split at accepts
              · rename_i items items' isItems isItems'
                cases isItems.symm.trans isItems'
                have alike : (Json.obj entries).Alike (.obj entries) := .refl distinct
                obtain ⟨_, isItems', covers⟩ := alike.valueOrEmpty.elements isItems
                cases isItems.symm.trans isItems'
                rw [← Except.ok.inj accepts]
                simp only [List.all_eq_true, List.any_eq_true]
                exact covers
              · cases accepts
            · rw [← Except.ok.inj accepts]
              exact Json.pyEq_refl _ distinct
    | _ => cases accepts
  exact accepts.trans (by rw [isTrue])

/-- What tightens a tighter constraint tightens the first one. -/
theorem tightens_trans {first second third : Json} (distinctFirst : first.Distinct)
    (distinctSecond : second.Distinct) (distinctThird : third.Distinct)
    (one : Tightens first second) (two : Tightens second third) : Tightens first third := by
  obtain ⟨entries, middle, rfl, rfl⟩ := tightens_obj one
  obtain ⟨_, last, same, rfl⟩ := tightens_obj two
  cases same
  obtain ⟨sameField, tightening⟩ := tightens_iff.1 one
  obtain ⟨sameField', tightening'⟩ := tightens_iff.1 two
  have field := Json.pyEq_trans _ sameField sameField'
  cases tightening with
  | le parentOp childOp below =>
      refine tightens_iff.2 ⟨field, ?_⟩
      cases tightening' with
      | le parentOp' childOp' below' =>
          exact .le parentOp childOp' (Json.le?_trans _ (distinctThird.get _)
            (distinctSecond.get _) (distinctFirst.get _) below' below)
      | ge parentOp' _ _ => exact absurd (Json.str.inj (childOp.symm.trans parentOp')) (by decide)
      | allow _ _ parentOp' _ _ _ _ =>
          exact absurd (Json.str.inj (childOp.symm.trans parentOp')) (by decide)
      | same other equal =>
          have alike := Json.Alike.of_pyEq distinctSecond distinctThird equal
          exact absurd rfl (other "le" childOp (((alike.get "op").str_iff).1 childOp)).1
  | ge parentOp childOp above =>
      refine tightens_iff.2 ⟨field, ?_⟩
      cases tightening' with
      | le parentOp' _ _ => exact absurd (Json.str.inj (childOp.symm.trans parentOp')) (by decide)
      | ge parentOp' childOp' above' =>
          exact .ge parentOp childOp' (Json.le?_trans _ (distinctFirst.get _)
            (distinctSecond.get _) (distinctThird.get _) above above')
      | allow _ _ parentOp' _ _ _ _ =>
          exact absurd (Json.str.inj (childOp.symm.trans parentOp')) (by decide)
      | same other equal =>
          have alike := Json.Alike.of_pyEq distinctSecond distinctThird equal
          exact absurd rfl (other "ge" childOp (((alike.get "op").str_iff).1 childOp)).2.1
  | allow parentItems childItems parentOp childOp isParent isChild within =>
      refine tightens_iff.2 ⟨field, ?_⟩
      cases tightening' with
      | le parentOp' _ _ => exact absurd (Json.str.inj (childOp.symm.trans parentOp')) (by decide)
      | ge parentOp' _ _ => exact absurd (Json.str.inj (childOp.symm.trans parentOp')) (by decide)
      | allow parentItems' childItems' parentOp' childOp' isParent' isChild' within' =>
          cases isChild.symm.trans isParent'
          refine .allow parentItems childItems' parentOp childOp' isParent isChild'
            fun item member => ?_
          obtain ⟨other, isOther, same⟩ := within' item member
          obtain ⟨other', isOther', same'⟩ := within other isOther
          exact ⟨other', isOther', Json.pyEq_trans item same same'⟩
      | same other equal =>
          have alike := Json.Alike.of_pyEq distinctSecond distinctThird equal
          exact absurd rfl (other "allow" childOp (((alike.get "op").str_iff).1 childOp)).2.2
  | same other equal =>
      have alike := Json.Alike.of_pyEq distinctFirst distinctSecond equal
      exact two.congr alike.symm

/-! ### What constraints mean -/

/-- A value of the field satisfies a constraint.  Constraints with another operator than the three
of `is_monotonic_tightening` have a meaning of their own. -/
def Satisfies (meaning : Json → Json → Prop) (constraint value : Json) : Prop :=
  match Dict.get constraint.entries "op" with
  | .str "le" => value.le? (Dict.get constraint.entries "value") = some true
  | .str "ge" => (Dict.get constraint.entries "value").le? value = some true
  | .str "allow" => ∃ items, (Dict.valueOrEmpty constraint.entries).elements? = some items ∧
      ∃ item ∈ items, value.pyEq item = true
  | _ => meaning constraint value

section Satisfies

variable {meaning : Json → Json → Prop} {entries : Dict} {value : Json}

theorem satisfies_le (isOp : Dict.get entries "op" = .str "le") :
    Satisfies meaning (.obj entries) value ↔
      value.le? (Dict.get entries "value") = some true := by
  unfold Satisfies
  dsimp only [Json.entries]
  rw [isOp]
  exact Iff.rfl

theorem satisfies_ge (isOp : Dict.get entries "op" = .str "ge") :
    Satisfies meaning (.obj entries) value ↔
      (Dict.get entries "value").le? value = some true := by
  unfold Satisfies
  dsimp only [Json.entries]
  rw [isOp]
  exact Iff.rfl

theorem satisfies_allow (isOp : Dict.get entries "op" = .str "allow") :
    Satisfies meaning (.obj entries) value ↔
      ∃ items, (Dict.valueOrEmpty entries).elements? = some items ∧
        ∃ item ∈ items, value.pyEq item = true := by
  unfold Satisfies
  dsimp only [Json.entries]
  rw [isOp]
  exact Iff.rfl

theorem satisfies_other (isOther : ∀ op, Dict.get entries "op" = .str op →
      op ≠ "le" ∧ op ≠ "ge" ∧ op ≠ "allow") :
    Satisfies meaning (.obj entries) value ↔ meaning (.obj entries) value := by
  unfold Satisfies
  dsimp only [Json.entries]
  split
  · rename_i isOp
    exact absurd rfl (isOther _ isOp).1
  · rename_i isOp
    exact absurd rfl (isOther _ isOp).2.1
  · rename_i isOp
    exact absurd rfl (isOther _ isOp).2.2
  · exact Iff.rfl

end Satisfies

/-- Every value that satisfies a tighter constraint satisfies its parent. -/
theorem Tightens.satisfies {meaning : Json → Json → Prop}
    (respects : ∀ first second value, first.Alike second → meaning second value →
      meaning first value)
    {parent child value : Json} (distinctParent : parent.Distinct) (distinctChild : child.Distinct)
    (distinctValue : value.Distinct) (tightens : Tightens parent child)
    (satisfied : Satisfies meaning child value) : Satisfies meaning parent value := by
  obtain ⟨entries, childEntries, rfl, rfl⟩ := tightens_obj tightens
  obtain ⟨-, tightening⟩ := tightens_iff.1 tightens
  cases tightening with
  | le parentOp childOp below =>
      have isBelow := (satisfies_le childOp).1 satisfied
      exact (satisfies_le parentOp).2 (Json.le?_trans _ distinctValue (distinctChild.get _)
        (distinctParent.get _) isBelow below)
  | ge parentOp childOp above =>
      have isAbove := (satisfies_ge childOp).1 satisfied
      exact (satisfies_ge parentOp).2 (Json.le?_trans _ (distinctParent.get _)
        (distinctChild.get _) distinctValue above isAbove)
  | allow parentItems childItems parentOp childOp isParent isChild within =>
      obtain ⟨items, isItems, item, isItem, same⟩ := (satisfies_allow childOp).1 satisfied
      cases isChild.symm.trans isItems
      obtain ⟨other, isOther, same'⟩ := within item isItem
      exact (satisfies_allow parentOp).2
        ⟨parentItems, isParent, other, isOther, Json.pyEq_trans value same same'⟩
  | same other equal =>
      have alike := Json.Alike.of_pyEq distinctParent distinctChild equal
      have sameOp : ∀ op, Dict.get entries "op" = .str op ↔ Dict.get childEntries "op" = .str op :=
        fun op => (alike.get "op").str_iff
      have isParent := fun op isOp => other op isOp ((sameOp op).1 isOp)
      have isChild := fun op isOp => other op ((sameOp op).2 isOp) isOp
      exact (satisfies_other isParent).2
        (respects _ _ value alike ((satisfies_other isChild).1 satisfied))

end Loom
