import Mathlib.Data.List.Sort

/-!
# Stable sorting by a key

Sorting by a key keeps the order of items with equal keys, so the sorted list
starts with the earliest item of the least key.
-/

namespace WgLink.Library

universe u v

variable {α : Type u} {β : Type v} [LinearOrder β]

/-- Sort by a key, items with equal keys in the order they had. -/
def sortByKey (key : α → β) (items : List α) : List α :=
  items.insertionSort fun left right => key left ≤ key right

theorem mem_sortByKey {key : α → β} {items : List α} {item : α} :
    item ∈ sortByKey key items ↔ item ∈ items :=
  List.mem_insertionSort _

theorem sortByKey_perm (key : α → β) (items : List α) :
    (sortByKey key items).Perm items :=
  List.perm_insertionSort _ items

theorem pairwise_sortByKey (key : α → β) (items : List α) :
    (sortByKey key items).Pairwise fun left right => key left ≤ key right := by
  have total : Std.Total fun left right : α => key left ≤ key right :=
    ⟨fun left right => le_total (key left) (key right)⟩
  have transitive : IsTrans α fun left right => key left ≤ key right :=
    ⟨fun _ _ _ first second => first.trans second⟩
  exact List.pairwise_insertionSort _ items

/-- Lists are sorted into the same list when they have the same items. -/
theorem sortByKey_eq_iff
    {key : α → β} (injective : Function.Injective key)
    {first second : List α} :
    sortByKey key first = sortByKey key second ↔ first.Perm second := by
  constructor
  · intro same
    have sorted := (sortByKey_perm key first).symm
    rw [same] at sorted
    exact sorted.trans (sortByKey_perm key second)
  · intro permuted
    apply List.Perm.eq_of_pairwise _ (pairwise_sortByKey key first)
      (pairwise_sortByKey key second)
    · exact (sortByKey_perm key first).trans
        (permuted.trans (sortByKey_perm key second).symm)
    · intro left right _ _ below above
      exact injective (le_antisymm below above)

/-- The first item of the sorted list is the earliest one with the least
key. -/
theorem head?_sortByKey
    {key : α → β} (least : β) {items : List α}
    (bounded : ∀ item ∈ items, least ≤ key item)
    (attained : ∃ item ∈ items, key item = least) :
    (sortByKey key items).head? =
      items.find? fun item => key item = least := by
  unfold sortByKey
  induction items with
  | nil =>
      obtain ⟨item, member, _⟩ := attained
      cases member
  | cons first rest inductionHypothesis =>
      rw [List.insertionSort_cons, List.find?_cons]
      by_cases isLeast : key first = least
      · have beforeRest :
            ∀ other ∈ rest, key first ≤ key other := by
          intro other member
          rw [isLeast]
          exact bounded other (List.mem_cons_of_mem first member)
        have ordered :=
          List.insertionSort_cons_of_forall_rel
            (r := fun left right => key left ≤ key right) beforeRest
        rw [List.insertionSort_cons] at ordered
        rw [ordered]
        simp only [isLeast, decide_true, List.head?_cons]
      · have attainedLater : ∃ item ∈ rest, key item = least := by
          obtain ⟨item, member, reached⟩ := attained
          rcases List.mem_cons.mp member with rfl | later
          · exact absurd reached isLeast
          · exact ⟨item, later, reached⟩
        have headRest :=
          inductionHypothesis
            (fun item member =>
              bounded item (List.mem_cons_of_mem first member))
            attainedLater
        obtain ⟨found, foundIs⟩ :
            ∃ found, (rest.find? fun item => key item = least) = some found :=
          Option.isSome_iff_exists.mp
            (List.find?_isSome.mpr (by simpa using attainedLater))
        have foundLeast : key found = least := by
          simpa using List.find?_some foundIs
        have greater : least < key first :=
          lt_of_le_of_ne (bounded first List.mem_cons_self)
            (Ne.symm isLeast)
        simp only [isLeast, decide_false]
        rw [foundIs] at headRest ⊢
        cases sorted :
            rest.insertionSort fun left right => key left ≤ key right with
        | nil =>
            rw [sorted] at headRest
            cases headRest
        | cons head tail =>
            rw [sorted] at headRest
            cases headRest
            rw [List.orderedInsert_cons, if_neg]
            · rfl
            · rw [foundLeast, not_le]
              exact greater

end WgLink.Library
