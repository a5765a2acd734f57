import Mathlib.Data.List.MinMax
import Mathlib.Data.Set.Lattice

/-!
# Greatest elements by a key

What a maximum over a collection means without an order of visiting it: an
element of the collection whose key is at least every other key.
-/

namespace WgLink.Library

universe u v w

variable {α : Type u} {β : Type v} {ι : Type w} [LinearOrder β]

/-- An element of `items` whose key no other element exceeds. -/
structure GreatestBy (key : α → β) (items : Set α) (item : α) : Prop where
  mem : item ∈ items
  le : ∀ other ∈ items, key other ≤ key item

namespace GreatestBy

variable {key : α → β} {items : Set α} {first second : α}

theorem key_eq
    (firstGreatest : GreatestBy key items first)
    (secondGreatest : GreatestBy key items second) :
    key first = key second := by
  apply le_antisymm
  · exact secondGreatest.le first firstGreatest.mem
  · exact firstGreatest.le second secondGreatest.mem

/-- Without ties there is at most one greatest element. -/
theorem unique
    (distinctKeys : Set.InjOn key items)
    (firstGreatest : GreatestBy key items first)
    (secondGreatest : GreatestBy key items second) :
    first = second := by
  apply distinctKeys firstGreatest.mem secondGreatest.mem
  exact firstGreatest.key_eq secondGreatest

/-- A maximum over blocks whose keys are bounded by a weight for each block:
where the greatest weight is attained, so is the greatest key of the union. -/
theorem iUnion
    {indices : Set ι} {blocks : ι → Set α} {weight : ι → β}
    {chosen : ι} {item : α}
    (bounded : ∀ index ∈ indices, ∀ other ∈ blocks index,
      key other ≤ weight index)
    (heaviest : GreatestBy weight indices chosen)
    (inBlock : item ∈ blocks chosen)
    (attained : key item = weight chosen) :
    GreatestBy key (⋃ index ∈ indices, blocks index) item := by
  constructor
  · exact Set.mem_biUnion heaviest.mem inBlock
  · intro other otherMember
    obtain ⟨index, indexMember, otherInBlock⟩ :=
      Set.mem_iUnion₂.mp otherMember
    calc
      key other ≤ weight index :=
        bounded index indexMember other otherInBlock
      _ ≤ weight chosen := heaviest.le index indexMember
      _ = key item := attained.symm

end GreatestBy

theorem greatestBy_of_argmax
    {key : α → β} {items : List α} {item : α}
    (largest : items.argmax key = some item) :
    GreatestBy key {other | other ∈ items} item := by
  constructor
  · exact List.argmax_mem largest
  · intro other otherMember
    exact List.le_of_mem_argmax otherMember largest

/-- Dropping other elements does not change which element is the maximum. -/
theorem argmax_filter
    {key : α → β} {keep : α → Bool} {items : List α} {item : α}
    (largest : items.argmax key = some item) (kept : keep item = true) :
    (items.filter keep).argmax key = some item := by
  induction items generalizing item with
  | nil =>
      cases largest
  | cons head tail inductionHypothesis =>
      rw [List.argmax_cons] at largest
      cases found : tail.argmax key with
      | none =>
          have empty : tail = [] := List.argmax_eq_none.mp found
          rw [found] at largest
          cases largest
          rw [empty, List.filter_cons_of_pos kept]
          rfl
      | some best =>
          rw [found] at largest
          simp only at largest
          by_cases smaller : key head < key best
          · rw [if_pos smaller] at largest
            cases largest
            have remaining := inductionHypothesis found kept
            by_cases headKept : keep head = true
            · rw [List.filter_cons_of_pos headKept, List.argmax_cons, remaining]
              exact if_pos smaller
            · rw [List.filter_cons_of_neg headKept]
              exact remaining
          · rw [if_neg smaller] at largest
            cases largest
            rw [List.filter_cons_of_pos kept, List.argmax_cons]
            cases rest : (tail.filter keep).argmax key with
            | none =>
                rfl
            | some other =>
                have member : other ∈ tail :=
                  List.mem_of_mem_filter (List.argmax_mem rest)
                have bounded : key other ≤ key best :=
                  List.le_of_mem_argmax member found
                exact if_neg (not_lt.mpr (bounded.trans (not_lt.mp smaller)))

end WgLink.Library
