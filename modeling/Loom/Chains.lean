import Mathlib.Data.List.Chain

/-!
# Lists of chains

A list is a lineage where it is the concatenation of chains: neighbours in a chain are linked, and
a chain goes from an item that starts one to an item that ends one.  A lineage grows at its end,
by a new chain or by a link to its last item.
-/

namespace Chains

variable {α : Type} {links : α → α → Prop} {starts ends : α → Prop}

/-- A chain from an item that starts one to an item that ends one. -/
structure Chain (links : α → α → Prop) (starts ends : α → Prop) (items : List α) : Prop where
  inhabited : items ≠ []
  linked : items.IsChain links
  first : ∀ item, items.head? = some item → starts item
  last : ∀ item, items.getLast? = some item → ends item

/-- A concatenation of chains. -/
def Lineage (links : α → α → Prop) (starts ends : α → Prop) (items : List α) : Prop :=
  ∃ chains : List (List α), items = chains.flatten ∧ ∀ chain ∈ chains, Chain links starts ends chain

namespace Chain

theorem single {item : α} (start : starts item) (stop : ends item) :
    Chain links starts ends [item] := by
  refine ⟨by simp, List.isChain_singleton item, fun other isFirst => ?_, fun other isLast => ?_⟩
  · cases isFirst
    exact start
  · cases isLast
    exact stop

theorem map {items : List α} (chain : Chain links starts ends items) {change : α → α}
    (linked : ∀ item other, links item other → links (change item) (change other))
    (started : ∀ item, starts item → starts (change item))
    (ended : ∀ item, ends item → ends (change item)) :
    Chain links starts ends (items.map change) := by
  refine ⟨?_, ?_, fun item isFirst => ?_, fun item isLast => ?_⟩
  · intro empty
    exact chain.inhabited (List.map_eq_nil_iff.1 empty)
  · exact List.isChain_map_of_isChain change linked chain.linked
  · rw [List.head?_map] at isFirst
    obtain ⟨other, isOther, rfl⟩ := Option.map_eq_some_iff.1 isFirst
    exact started other (chain.first other isOther)
  · rw [List.getLast?_map] at isLast
    obtain ⟨other, isOther, rfl⟩ := Option.map_eq_some_iff.1 isLast
    exact ended other (chain.last other isOther)

/-- The last item of a chain is linked to a new last item. -/
theorem extend {items : List α} {item item' next : α}
    (chain : Chain links starts ends (items ++ [item]))
    (linked : ∀ other, links other item → links other item') (started : starts item → starts item')
    (link : links item' next) (stop : ends next) :
    Chain links starts ends (items ++ [item', next]) := by
  obtain ⟨before, -, joint⟩ := List.isChain_append.1 chain.linked
  refine ⟨by simp, ?_, fun other isFirst => ?_, fun other isLast => ?_⟩
  · refine List.isChain_append.2 ⟨before, ?_, fun other isOther later isLater => ?_⟩
    · exact List.isChain_cons_cons.2 ⟨link, List.isChain_singleton next⟩
    · cases isLater
      exact linked other (joint other isOther item rfl)
  · cases items with
    | nil =>
        cases isFirst
        exact started (chain.first item rfl)
    | cons head rest =>
        cases isFirst
        exact chain.first _ rfl
  · have same : next = other := by simpa using isLast
    subst same
    exact stop

end Chain

namespace Lineage

theorem nil : Lineage links starts ends [] := ⟨[], rfl, by simp⟩

/-- A new chain at the end. -/
theorem append {items : List α} (lineage : Lineage links starts ends items) {item : α}
    (start : starts item) (stop : ends item) : Lineage links starts ends (items ++ [item]) := by
  obtain ⟨chains, rfl, each⟩ := lineage
  refine ⟨chains ++ [[item]], by simp, fun chain member => ?_⟩
  rcases List.mem_append.1 member with member | member
  · exact each chain member
  · rw [List.mem_singleton.1 member]
    exact .single start stop

theorem map {items : List α} (lineage : Lineage links starts ends items) {change : α → α}
    (linked : ∀ item other, links item other → links (change item) (change other))
    (started : ∀ item, starts item → starts (change item))
    (ended : ∀ item, ends item → ends (change item)) :
    Lineage links starts ends (items.map change) := by
  obtain ⟨chains, rfl, each⟩ := lineage
  refine ⟨chains.map (List.map change), by rw [List.map_flatten], fun chain member => ?_⟩
  obtain ⟨other, isOther, rfl⟩ := List.mem_map.1 member
  exact (each other isOther).map linked started ended

/-- The last item of the last chain is linked to a new last item. -/
theorem extend {items : List α} {item item' next : α}
    (lineage : Lineage links starts ends (items ++ [item]))
    (linked : ∀ other, links other item → links other item') (started : starts item → starts item')
    (link : links item' next) (stop : ends next) :
    Lineage links starts ends (items ++ [item', next]) := by
  obtain ⟨chains, same, each⟩ := lineage
  rcases List.eq_nil_or_concat chains with rfl | ⟨earlier, last, rfl⟩
  · simp at same
  · have chain := each last (by simp)
    rcases List.eq_nil_or_concat last with rfl | ⟨front, final, rfl⟩
    · exact absurd rfl chain.inhabited
    · simp only [List.concat_eq_append, List.flatten_append, List.flatten_cons, List.flatten_nil,
        List.append_nil, ← List.append_assoc] at same chain each ⊢
      obtain ⟨rfl, isFinal⟩ := List.append_inj' same rfl
      cases isFinal
      refine ⟨earlier ++ [front ++ [item', next]], by simp, fun chain' member => ?_⟩
      rcases List.mem_append.1 member with member | member
      · exact each chain' (List.mem_append_left _ member)
      · rw [List.mem_singleton.1 member]
        exact chain.extend linked started link stop

/-- An item of a lineage ends a chain, or the next item is the one it is linked to. -/
theorem next {items : List α} (lineage : Lineage links starts ends items) {item : α}
    (member : item ∈ items) : ends item ∨ ∃ other ∈ items, links item other := by
  obtain ⟨chains, rfl, each⟩ := lineage
  obtain ⟨chain, isChain, inChain⟩ := List.mem_flatten.1 member
  obtain ⟨front, back, rfl⟩ := List.append_of_mem inChain
  have whole := each _ isChain
  cases back with
  | nil => exact .inl (whole.last item (by simp))
  | cons other rest =>
      obtain ⟨-, after, -⟩ := List.isChain_append.1 whole.linked
      refine .inr ⟨other, List.mem_flatten.2 ⟨_, isChain, by simp⟩, ?_⟩
      exact (List.isChain_cons_cons.1 after).1

end Lineage

end Chains
