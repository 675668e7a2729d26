import Mathlib.Data.List.Basic
import Mathlib.Data.List.Nodup

/-!
# Tables of keyed items

A dictionary, or a table with a primary key, as the list of its items in the order of
insertion.  The key of an item is computed from it.
-/

namespace Keyed

variable {κ α : Type} [DecidableEq κ] (key : α → κ)

/-- `table.get(wanted)`. -/
def find? (table : List α) (wanted : κ) : Option α :=
  table.find? fun item => key item = wanted

/-- `table[key(item)] = item`: an item of the same key is replaced in its place. -/
def put (table : List α) (item : α) : List α :=
  if (find? key table (key item)).isSome then
    table.map fun other => if key other = key item then item else other
  else
    table ++ [item]

/-- Put items one after the other. -/
def putAll (table items : List α) : List α :=
  items.foldl (put key) table

/-- No two items have the same key. -/
def Distinct (table : List α) : Prop := (table.map key).Nodup

variable {key}

theorem key_of_find? {table : List α} {wanted : κ} {item : α}
    (found : find? key table wanted = some item) : key item = wanted := by
  simpa using List.find?_some found

theorem mem_of_find? {table : List α} {wanted : κ} {item : α}
    (found : find? key table wanted = some item) : item ∈ table :=
  List.mem_of_find?_eq_some found

theorem find?_eq_none {table : List α} {wanted : κ} :
    find? key table wanted = none ↔ ∀ item ∈ table, key item ≠ wanted := by
  simp [find?, List.find?_eq_none]

/-- In a table without duplicate keys every item is found. -/
theorem find?_of_mem {table : List α} (distinct : Distinct key table) {item : α}
    (member : item ∈ table) : find? key table (key item) = some item := by
  induction table with
  | nil => cases member
  | cons first rest ih =>
      obtain ⟨isNew, distinctRest⟩ := List.nodup_cons.1 distinct
      unfold find?
      rcases List.mem_cons.1 member with rfl | member
      · rw [List.find?_cons_of_pos (by simp)]
      · have other : key first ≠ key item := by
          intro same
          exact isNew (same ▸ List.mem_map_of_mem member)
        rw [List.find?_cons_of_neg (by simpa using other)]
        exact ih distinctRest member

/-- Some items of a table without duplicate keys, in any order. -/
theorem find?_of_perm_filter {table found : List α} {wanted : α → Bool}
    (distinct : Distinct key table) (isFound : found.Perm (table.filter wanted)) :
    Distinct key found ∧ ∀ k, find? key found k = (find? key table k).filter wanted := by
  have sub : ((table.filter wanted).map key).Sublist (table.map key) :=
    List.filter_sublist.map key
  have distinctFound : Distinct key found :=
    (isFound.map key).nodup_iff.2 (distinct.sublist sub)
  have mem_found : ∀ {item}, item ∈ found ↔ item ∈ table ∧ wanted item = true := by
    intro item
    rw [isFound.mem_iff, List.mem_filter]
  refine ⟨distinctFound, fun k => ?_⟩
  cases inFound : find? key found k with
  | some item =>
      obtain ⟨isIn, isWanted⟩ := mem_found.1 (mem_of_find? inFound)
      rw [← key_of_find? inFound, find?_of_mem distinct isIn, Option.filter_some, if_pos isWanted]
  | none =>
      cases inTable : find? key table k with
      | none => rfl
      | some item =>
          have unwanted : ¬wanted item = true := fun isWanted =>
            find?_eq_none.1 inFound item (mem_found.2 ⟨mem_of_find? inTable, isWanted⟩)
              (key_of_find? inTable)
          rw [Option.filter_some, if_neg unwanted]

/-- A change that keeps the keys. -/
theorem find?_map {change : α → α} (keeps : ∀ item, key (change item) = key item)
    (table : List α) (wanted : κ) :
    find? key (table.map change) wanted = (find? key table wanted).map change := by
  unfold find?
  rw [List.find?_map]
  congr 2
  funext item
  simp [keeps item]

omit [DecidableEq κ] in
theorem Distinct.map {change : α → α} (keeps : ∀ item, key (change item) = key item)
    {table : List α} (distinct : Distinct key table) : Distinct key (table.map change) := by
  unfold Distinct
  rw [List.map_map, show key ∘ change = key from funext keeps]
  exact distinct

section Put

variable (table : List α) (item : α)

theorem find?_put (wanted : κ) :
    find? key (put key table item) wanted =
      if wanted = key item then some item else find? key table wanted := by
  unfold put
  split
  · rename_i isIn
    have keeps : ∀ other, key (if key other = key item then item else other) = key other := by
      intro other
      split
      · rename_i same
        exact same.symm
      · rfl
    rw [find?_map keeps]
    split
    · rename_i same
      subst same
      obtain ⟨old, found⟩ := Option.isSome_iff_exists.1 isIn
      rw [found, Option.map_some, if_pos (key_of_find? found)]
    · rename_i other
      cases found : find? key table wanted with
      | none => rfl
      | some old =>
          rw [Option.map_some, key_of_find? found, if_neg other]
  · rename_i isNew
    unfold find? at isNew ⊢
    rw [List.find?_append]
    split
    · rename_i same
      subst same
      rw [Option.not_isSome_iff_eq_none.1 isNew]
      simp
    · rename_i other
      have absent : List.find? (fun item => decide (key item = wanted)) [item] = none := by
        simpa using fun same : key item = wanted => other same.symm
      rw [absent, Option.or_none]

@[simp]
theorem find?_put_self : find? key (put key table item) (key item) = some item := by
  rw [find?_put, if_pos rfl]

variable {table item}

theorem find?_put_other {wanted : κ} (other : wanted ≠ key item) :
    find? key (put key table item) wanted = find? key table wanted := by
  rw [find?_put, if_neg other]

theorem Distinct.put (distinct : Distinct key table) : Distinct key (Keyed.put key table item) := by
  unfold Keyed.put
  split
  · refine distinct.map fun other => ?_
    split
    · rename_i same
      exact same.symm
    · rfl
  · rename_i isNew
    have absent := find?_eq_none.1 (Option.not_isSome_iff_eq_none.1 isNew)
    unfold Distinct
    rw [List.map_append, List.map_singleton, List.nodup_append]
    refine ⟨distinct, List.nodup_singleton _, ?_⟩
    intro other isOther last isLast same
    obtain ⟨present, isIn, rfl⟩ := List.mem_map.1 isOther
    exact absent present isIn (same.trans (List.mem_singleton.1 isLast))

end Put

theorem Distinct.putAll {table : List α} (distinct : Distinct key table) (items : List α) :
    Distinct key (Keyed.putAll key table items) := by
  induction items generalizing table with
  | nil => exact distinct
  | cons item items ih => exact ih (Distinct.put distinct)

/-- Putting the items of a table without duplicate keys. -/
theorem find?_putAll {items : List α} (distinct : Distinct key items) (table : List α)
    (wanted : κ) :
    find? key (putAll key table items) wanted =
      (find? key items wanted).or (find? key table wanted) := by
  induction items generalizing table with
  | nil => rfl
  | cons item items ih =>
      obtain ⟨isNew, distinctRest⟩ := List.nodup_cons.1 distinct
      have unfolded : putAll key table (item :: items) =
        putAll key (put key table item) items := rfl
      rw [unfolded, ih distinctRest, find?_put]
      split
      · rename_i same
        subst same
        have absent : find? key items (key item) = none := by
          rw [find?_eq_none]
          intro other isOther same
          exact isNew (same ▸ List.mem_map_of_mem isOther)
        rw [absent, Option.none_or]
        unfold find?
        rw [List.find?_cons_of_pos (by simp), Option.some_or]
      · rename_i other
        unfold find?
        rw [List.find?_cons_of_neg (by simpa using fun same : key item = wanted => other same.symm)]

/-! ### Dictionaries as lists of entries -/

section Entries

variable {β : Type}

theorem lookup_of_mem {entries : List (κ × β)} (distinct : (entries.map Prod.fst).Nodup)
    {wanted : κ} {value : β} (member : (wanted, value) ∈ entries) :
    entries.lookup wanted = some value := by
  induction entries with
  | nil => cases member
  | cons entry entries ih =>
      obtain ⟨isNew, distinctRest⟩ := List.nodup_cons.1 distinct
      rcases List.mem_cons.1 member with rfl | member
      · rw [List.lookup_cons, beq_self_eq_true]
      · have other : wanted ≠ entry.1 := fun same => isNew (same ▸ List.mem_map_of_mem member)
        rw [List.lookup_cons, beq_eq_false_iff_ne.2 other]
        exact ih distinctRest member

theorem mem_of_lookup {entries : List (κ × β)} {wanted : κ} {value : β}
    (found : entries.lookup wanted = some value) : (wanted, value) ∈ entries := by
  obtain ⟨first, rest, rfl, -⟩ := List.lookup_eq_some_iff.1 found
  exact List.mem_append_right _ List.mem_cons_self

end Entries

end Keyed
