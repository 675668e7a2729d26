import Mathlib.Data.List.Sort
import Mathlib.Order.Basic

/-!
# Stable sorting by a key

`sortBy key items` is the stable sort of a list by a key.  Permutations of a list have the same
sequence of keys, and they have the same sorted list, as far as a view of the items tells, exactly
where items with equal keys look alike.
-/

namespace SortedBy

variable {α β κ : Type} [LinearOrder κ] (key : α → κ)

/-- The stable sort by a key. -/
def sortBy (items : List α) : List α := items.insertionSort fun left right => key left ≤ key right

instance totalKeys : Std.Total fun left right : α => key left ≤ key right :=
  ⟨fun left right => le_total (key left) (key right)⟩

instance transKeys : IsTrans α fun left right : α => key left ≤ key right :=
  ⟨fun _ _ _ one two => le_trans one two⟩

theorem sortBy_perm (items : List α) : (sortBy key items).Perm items :=
  List.perm_insertionSort _ items

@[simp]
theorem mem_sortBy {items : List α} {item : α} : item ∈ sortBy key items ↔ item ∈ items :=
  (sortBy_perm key items).mem_iff

theorem keys_sortBy (items : List α) :
    (sortBy key items).map key = (items.map key).insertionSort (· ≤ ·) :=
  List.map_insertionSort _ _ key items fun _ _ _ _ => Iff.rfl

theorem sortBy_map {γ : Type} (change : γ → α) (items : List γ) :
    sortBy key (items.map change) =
      (sortBy (fun item => key (change item)) items).map change :=
  (List.map_insertionSort _ _ change items fun _ _ _ _ => Iff.rfl).symm

/-- Keys that agree on the items of a list sort it the same way. -/
theorem sortBy_congr {key' : α → κ} {items : List α}
    (same : ∀ item ∈ items, key item = key' item) : sortBy key items = sortBy key' items := by
  have sorted := List.map_insertionSort (fun left right => key left ≤ key right)
    (fun left right => key' left ≤ key' right) id items fun left isLeft right isRight => by
      rw [same left isLeft, same right isRight]
      exact Iff.rfl
  rw [List.map_id, List.map_id] at sorted
  exact sorted

/-- The view of a sorted list depends only on the keys and the views of its items. -/
theorem sortBy_view_congr {γ : Type} {view : α → β} {key' : γ → κ} {view' : γ → β}
    {items : List α} {others : List γ}
    (same : (items.map fun item => (key item, view item)) =
      others.map fun other => (key' other, view' other)) :
    (sortBy key items).map view = (sortBy key' others).map view' := by
  have pairs : ∀ {δ : Type} (key : δ → κ) (view : δ → β) (items : List δ),
      (sortBy key items).map view =
        (sortBy Prod.fst (items.map fun item => (key item, view item))).map Prod.snd := by
    intro δ key view items
    rw [sortBy_map, List.map_map]
    rfl
  rw [pairs key, pairs key', same]

/-- Permutations are sorted to the same sequence of keys. -/
theorem keys_sortBy_of_perm {items others : List α} (perm : items.Perm others) :
    (sortBy key items).map key = (sortBy key others).map key := by
  rw [keys_sortBy, keys_sortBy]
  refine List.Perm.eq_of_pairwise' (List.pairwise_insertionSort (· ≤ ·) _)
    (List.pairwise_insertionSort (· ≤ ·) _) ?_
  have before := List.perm_insertionSort (· ≤ ·) (items.map key)
  have after := List.perm_insertionSort (· ≤ ·) (others.map key)
  exact before.trans ((perm.map key).trans after.symm)

/-- Items with one key keep their order. -/
theorem filter_sortBy (items : List α) (wanted : κ) :
    (sortBy key items).filter (fun item => key item = wanted) =
      items.filter fun item => key item = wanted := by
  have part : (items.filter fun item => key item = wanted).Sublist (sortBy key items) := by
    refine List.sublist_insertionSort ?_ List.filter_sublist
    refine List.Pairwise.imp_of_mem ?_ (List.pairwise_of_forall fun _ _ => trivial)
    intro left right isLeft isRight _
    simp only [List.mem_filter, decide_eq_true_eq] at isLeft isRight
    rw [isLeft.2, isRight.2]
  have inside := part.filter fun item => key item = wanted
  rw [List.filter_filter] at inside
  simp only [Bool.and_self] at inside
  refine (inside.eq_of_length ?_).symm
  exact ((sortBy_perm key items).filter _).length_eq.symm

/-- Lists with the same keys and the same view agree in the view of their first item with a key. -/
theorem find?_view_congr {view : α → β} {items others : List α}
    (keys : items.map key = others.map key) (views : items.map view = others.map view)
    (wanted : κ) :
    (items.find? fun item => key item = wanted).map view =
      (others.find? fun item => key item = wanted).map view := by
  induction items generalizing others with
  | nil =>
      cases others with
      | nil => rfl
      | cons other others => cases keys
  | cons item items ih =>
      cases others with
      | nil => cases keys
      | cons other others =>
          simp only [List.map_cons, List.cons.injEq] at keys views
          rw [List.find?_cons, List.find?_cons, keys.1]
          by_cases here : key other = wanted
          · simp [here, views.1]
          · simpa [here] using ih keys.2 views.2

/-- The items of a list with equal keys have the same view. -/
def Separates (view : α → β) (items : List α) : Prop :=
  ∀ left ∈ items, ∀ right ∈ items, key left = key right → view left = view right

omit [LinearOrder κ] in
/-- Lists with the same keys look alike where items with equal keys do. -/
theorem map_view_of_keys {view : α → β} {items others : List α}
    (keys : items.map key = others.map key)
    (separates : ∀ left ∈ items, ∀ right ∈ others, key left = key right → view left = view right) :
    items.map view = others.map view := by
  induction items generalizing others with
  | nil =>
      cases others with
      | nil => rfl
      | cons other others => cases keys
  | cons item items ih =>
      cases others with
      | nil => cases keys
      | cons other others =>
          simp only [List.map_cons, List.cons.injEq] at keys ⊢
          refine ⟨separates item (by simp) other (by simp) keys.1, ih keys.2 ?_⟩
          intro left isLeft right isRight
          exact separates left (List.mem_cons_of_mem _ isLeft) right
            (List.mem_cons_of_mem _ isRight)

omit [LinearOrder κ] in
theorem eq_of_keys {items others : List α} (keys : items.map key = others.map key)
    (separates : ∀ left ∈ items, ∀ right ∈ others, key left = key right → left = right) :
    items = others := by
  have same : items.map id = others.map id := map_view_of_keys key keys separates
  rwa [List.map_id, List.map_id] at same

/-- Lists with the same keys are equal where they list the items of each key alike. -/
theorem eq_of_classes {items others : List α} (keys : items.map key = others.map key)
    (classes : ∀ wanted, (items.filter fun item => key item = wanted) =
      others.filter fun other => key other = wanted) : items = others := by
  induction items generalizing others with
  | nil =>
      cases others with
      | nil => rfl
      | cons other others => cases keys
  | cons item items ih =>
      cases others with
      | nil => cases keys
      | cons other others =>
          simp only [List.map_cons, List.cons.injEq] at keys
          have first := classes (key other)
          rw [List.filter_cons_of_pos (by simp [keys.1]), List.filter_cons_of_pos (by simp)]
            at first
          obtain ⟨rfl, -⟩ := List.cons.inj first
          rw [ih keys.2 fun wanted => ?_]
          have inClass := classes wanted
          rw [List.filter_cons, List.filter_cons] at inClass
          split at inClass
          · exact (List.cons.inj inClass).2
          · exact inClass

/-- The sorted list, as a view tells it, is the same for all permutations exactly where items with
equal keys look alike. -/
theorem sortBy_invariant_iff {view : α → β} {items : List α} :
    (∀ others, items.Perm others →
      (sortBy key others).map view = (sortBy key items).map view) ↔
      Separates key view items := by
  constructor
  · intro invariant left isLeft right isRight same
    have first : ∀ item ∈ items, key item = key left → ∀ rest, items.Perm (item :: rest) →
        ((sortBy key items).find? fun other => key other = key left).map view =
          some (view item) := by
      intro item _ isKey rest perm
      rw [← find?_view_congr key (keys_sortBy_of_perm key perm.symm) (invariant _ perm),
        ← List.head?_filter, filter_sortBy]
      simp [isKey]
    have one := first left isLeft rfl
    have two := first right isRight same.symm
    obtain ⟨before, after, rfl⟩ := List.append_of_mem isLeft
    have one := one (before ++ after) List.perm_middle
    obtain ⟨before', after', split⟩ := List.append_of_mem isRight
    have two := two (before' ++ after') (by rw [split]; exact List.perm_middle)
    rw [one] at two
    exact Option.some.inj two
  · intro separates others perm
    refine map_view_of_keys key (keys_sortBy_of_perm key perm.symm) ?_
    intro left isLeft right isRight same
    rw [mem_sortBy] at isLeft isRight
    exact separates left (perm.mem_iff.2 isLeft) right isRight same

end SortedBy
