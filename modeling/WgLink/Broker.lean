import Mathlib.Data.List.Find
import WgLink.Library.StableSort
import WgLink.Metrics

/-!
# The broker's choice of a path

The path sets of `broker.rs` and the order in which `run_peer` tries the paths
of a peer.  The selected path is swapped to the front, then the targets are
sorted by health, so an unavailable selection may change the order of the
targets it was swapped with.
-/

namespace WgLink

open WgLink.Library

/-- `PathTarget`; the sender stands for the channel to the relay task. -/
structure PathTarget where
  id : String
  label : String
  protocol : String
  sender : Nat
deriving DecidableEq

/-- `PathSet`. -/
structure PathSet where
  targets : List PathTarget
  selected : Option String
deriving DecidableEq

/-- `slice::swap`, for two indices in range. -/
def swap {α : Type} (items : List α) (left right : Nat) : List α :=
  match items[left]?, items[right]? with
  | some first, some second => (items.set left second).set right first
  | _, _ => items

namespace PathSet

/-- `PathSet::ordered_targets`. -/
def orderedTargets (paths : PathSet) : List PathTarget :=
  match paths.selected with
  | none => paths.targets
  | some selected =>
      match paths.targets.findIdx? fun target => target.id = selected with
      | none => paths.targets
      | some index => swap paths.targets 0 index

/-- `PathSet::select`. -/
def select (paths : PathSet) (pathId : Option String) : PathSet × Bool :=
  match pathId with
  | none => ({ paths with selected := none }, true)
  | some pathId =>
      if paths.targets.any fun target => target.id = pathId then
        ({ paths with selected := some pathId }, true)
      else
        (paths, false)

end PathSet

/-- The sort key of `ordered_healthy_targets`. -/
def healthClass
    (selected : Option String) (available : String → Bool)
    (target : PathTarget) : Nat :=
  match decide (selected = some target.id), available target.id with
  | true, true => 0
  | false, true => 1
  | true, false => 2
  | false, false => 3

/-- `ordered_healthy_targets`. -/
def orderedHealthyTargets
    (peerKey : String) (paths : PathSet) (metrics : MetricsRegistry) :
    List PathTarget :=
  sortByKey
    (healthClass paths.selected
      (MetricsRegistry.isAvailable metrics peerKey))
    paths.orderedTargets

/-! ## The first target -/

section FirstTarget

variable {paths : PathSet} {available : String → Bool}

/-- The selected target when it is available, the first available one of a
list otherwise. -/
def preferred
    (selected : Option String) (available : String → Bool)
    (targets : List PathTarget) : Option PathTarget :=
  match
    targets.find? fun target =>
      decide (selected = some target.id) && available target.id with
  | some target => some target
  | none => targets.find? fun target => available target.id

theorem healthClass_eq_zero {selected : Option String} {target : PathTarget} :
    healthClass selected available target = 0 ↔
      selected = some target.id ∧ available target.id = true := by
  unfold healthClass
  by_cases chosen : selected = some target.id <;>
    cases healthy : available target.id <;> simp [chosen]

theorem healthClass_eq_one {selected : Option String} {target : PathTarget} :
    healthClass selected available target = 1 ↔
      selected ≠ some target.id ∧ available target.id = true := by
  unfold healthClass
  by_cases chosen : selected = some target.id <;>
    cases healthy : available target.id <;> simp [chosen]

/-- Sorting by health puts the preferred target first. -/
theorem head?_sortByKey_healthClass
    {selected : Option String} {targets : List PathTarget}
    (someAvailable : ∃ target ∈ targets, available target.id = true) :
    (sortByKey (healthClass selected available) targets).head? =
      preferred selected available targets := by
  have sameTest (target : PathTarget) :
      decide (healthClass selected available target = 0) =
        (decide (selected = some target.id) && available target.id) := by
    rw [Bool.eq_iff_iff, decide_eq_true_iff, healthClass_eq_zero,
      Bool.and_eq_true, decide_eq_true_iff]
  unfold preferred
  split
  · rename_i target found
    have satisfied := List.find?_some found
    rw [Bool.and_eq_true, decide_eq_true_iff] at satisfied
    rw [head?_sortByKey 0, ← found]
    · exact List.find?_congr fun target _ => sameTest target
    · intro item _
      exact Nat.zero_le _
    · exact ⟨target, List.mem_of_find?_eq_some found,
        healthClass_eq_zero.mpr satisfied⟩
  · rename_i absent
    have noneChosen :
        ∀ target ∈ targets, healthClass selected available target ≠ 0 := by
      intro target member chosen
      have untested := List.find?_eq_none.mp absent target member
      rw [← sameTest, decide_eq_true_iff] at untested
      exact untested chosen
    have isOne :
        ∀ target ∈ targets,
          (healthClass selected available target = 1 ↔
            available target.id = true) := by
      intro target member
      rw [healthClass_eq_one]
      constructor
      · exact fun both => both.2
      · intro healthy
        refine ⟨?_, healthy⟩
        intro chosen
        exact noneChosen target member (healthClass_eq_zero.mpr ⟨chosen, healthy⟩)
    rw [head?_sortByKey 1]
    · apply List.find?_congr
      intro target member
      rw [Bool.eq_iff_iff, decide_eq_true_iff]
      exact isOne target member
    · intro target member
      exact Nat.one_le_iff_ne_zero.mpr (noneChosen target member)
    · obtain ⟨target, member, healthy⟩ := someAvailable
      exact ⟨target, member, (isOne target member).mpr healthy⟩

theorem exists_split_of_findIdx?
    {α : Type} {test : α → Bool} {items : List α} {index : Nat}
    (found : items.findIdx? test = some index) :
    ∃ front chosen rest,
      items = front ++ chosen :: rest ∧ front.length = index ∧
        test chosen = true := by
  obtain ⟨inside, tested, _⟩ := List.findIdx?_eq_some_iff_getElem.mp found
  refine ⟨items.take index, items[index], items.drop (index + 1), ?_, ?_,
    tested⟩
  · rw [← List.drop_eq_getElem_cons inside, List.take_append_drop]
  · rw [List.length_take]
    omega

theorem swap_first {α : Type} (first chosen : α) (middle rest : List α) :
    swap (first :: (middle ++ chosen :: rest)) 0 (middle.length + 1) =
      chosen :: (middle ++ first :: rest) := by
  unfold swap
  rw [List.getElem?_cons_zero, List.getElem?_cons_succ,
    List.getElem?_append_right (Nat.le_refl _), Nat.sub_self,
    List.getElem?_cons_zero]
  simp only [List.set_cons_zero, List.set_cons_succ]
  rw [List.set_append_right _ _ (Nat.le_refl _), Nat.sub_self,
    List.set_cons_zero]

/-- The selected target is unavailable, and before it stand the first target
and another one that are both available. -/
def fallbackReordered (paths : PathSet) (available : String → Bool) : Bool :=
  match paths.selected with
  | none => false
  | some selected =>
      match paths.targets.findIdx? fun target => target.id = selected with
      | none => false
      | some index =>
          !available selected &&
            match paths.targets.take index with
            | [] => false
            | first :: others =>
                available first.id &&
                  others.any fun target => available target.id

theorem preferred_of_selected
    {selected : Option String} {targets : List PathTarget}
    {target : PathTarget}
    (member : target ∈ targets) (chosen : selected = some target.id)
    (healthy : available target.id = true) :
    (preferred selected available targets).map PathTarget.id =
      selected := by
  unfold preferred
  split
  · rename_i found foundIs
    have satisfied := List.find?_some foundIs
    rw [Bool.and_eq_true, decide_eq_true_iff] at satisfied
    rw [satisfied.1]
    rfl
  · rename_i absent
    have untested := List.find?_eq_none.mp absent target member
    rw [Bool.and_eq_true, decide_eq_true_iff] at untested
    exact absurd ⟨chosen, healthy⟩ untested

theorem preferred_of_unselected
    {selected : Option String} {targets : List PathTarget}
    (unselected :
      ∀ target ∈ targets,
        selected = some target.id → available target.id = false) :
    preferred selected available targets =
      targets.find? fun target => available target.id := by
  unfold preferred
  rw [List.find?_eq_none.mpr]
  intro target member both
  rw [Bool.and_eq_true, decide_eq_true_iff] at both
  rw [unselected target member both.1] at both
  exact absurd both.2 Bool.false_ne_true

theorem orderedTargets_of_selected
    {selected : String} {first chosen : PathTarget}
    {middle rest : List PathTarget}
    (isSelected : paths.selected = some selected)
    (targets : paths.targets = first :: (middle ++ chosen :: rest))
    (found :
      (paths.targets.findIdx? fun target => target.id = selected) =
        some (middle.length + 1)) :
    paths.orderedTargets = chosen :: (middle ++ first :: rest) := by
  unfold PathSet.orderedTargets
  rw [isSelected]
  simp only [found]
  rw [targets, swap_first]

theorem mem_orderedTargets {target : PathTarget} :
    target ∈ paths.orderedTargets ↔ target ∈ paths.targets := by
  unfold PathSet.orderedTargets
  split
  · rfl
  rename_i selected isSelected
  split
  · rfl
  rename_i index found
  obtain ⟨front, chosen, rest, split, rfl, _⟩ := exists_split_of_findIdx? found
  rw [split]
  cases front with
  | nil =>
      rfl
  | cons first middle =>
      rw [List.cons_append, List.length_cons, swap_first]
      simp only [List.mem_cons, List.mem_append]
      constructor <;> rintro (same | inMiddle | other | inRest) <;> simp [*]

/-- Swapping an unavailable target to the front changes the first available
one when the first target and one behind it are available. -/
theorem find?_swapped_iff
    {first chosen : PathTarget} {middle rest : List PathTarget}
    (distinct :
      ((first :: (middle ++ chosen :: rest)).map PathTarget.id).Nodup)
    (down : available chosen.id = false) :
    ((chosen :: (middle ++ first :: rest)).find?
          fun target => available target.id).map PathTarget.id =
        ((first :: (middle ++ chosen :: rest)).find?
          fun target => available target.id).map PathTarget.id ↔
      (available first.id &&
        middle.any fun target => available target.id) = false := by
  simp only [List.find?_cons, List.find?_append, down]
  cases firstHealthy : available first.id with
  | false =>
      simp only [Bool.false_and]
  | true =>
      cases inMiddle : middle.find? fun target => available target.id with
      | none =>
          have noneHealthy :
              (middle.any fun target => available target.id) = false := by
            rw [List.any_eq_false]
            exact List.find?_eq_none.mp inMiddle
          simp only [noneHealthy, Option.none_or, Bool.and_false]
      | some found =>
          have member := List.mem_of_find?_eq_some inMiddle
          have satisfied := List.find?_some inMiddle
          have someHealthy :
              (middle.any fun target => available target.id) = true :=
            List.any_eq_true.mpr ⟨found, member, satisfied⟩
          have different : first.id ≠ found.id := by
            rw [List.map_cons, List.nodup_cons] at distinct
            intro same
            apply distinct.1
            rw [same]
            exact List.mem_map_of_mem (List.mem_append_left _ member)
          simp only [someHealthy, Option.some_or, Option.map_some,
            Option.some.injEq, Bool.and_self, Bool.true_eq_false, iff_false]
          exact Ne.symm different

/-- The order after the swap only matters when an unavailable selection comes
after the first target and another one that are available. -/
theorem preferred_orderedTargets_iff
    (distinct : (paths.targets.map PathTarget.id).Nodup) :
    (preferred paths.selected available paths.orderedTargets).map
          PathTarget.id =
        (preferred paths.selected available paths.targets).map
          PathTarget.id ↔
      fallbackReordered paths available = false := by
  unfold fallbackReordered
  cases isSelected : paths.selected with
  | none =>
      have unordered : paths.orderedTargets = paths.targets := by
        unfold PathSet.orderedTargets
        rw [isSelected]
      simp only [unordered]
  | some selected =>
      cases found :
          paths.targets.findIdx? fun target => target.id = selected with
      | none =>
          have unordered : paths.orderedTargets = paths.targets := by
            unfold PathSet.orderedTargets
            simp only [isSelected, found]
          simp only [unordered, found]
      | some index =>
          obtain ⟨front, chosen, rest, split, rfl, tested⟩ :=
            exists_split_of_findIdx? found
          have chosenIs : chosen.id = selected := of_decide_eq_true tested
          have member : chosen ∈ paths.targets := by
            rw [split]
            exact List.mem_append_right front List.mem_cons_self
          subst chosenIs
          cases healthy : available chosen.id with
          | true =>
              rw [preferred_of_selected (mem_orderedTargets.mpr member) rfl
                healthy, preferred_of_selected member rfl healthy]
              simp only [found, healthy, Bool.not_true, Bool.false_and]
          | false =>
              have unselected :
                  ∀ target : PathTarget,
                    some chosen.id = some target.id →
                    available target.id = false := by
                intro target same
                rw [← Option.some.inj same, healthy]
              rw [preferred_of_unselected fun target _ => unselected target,
                preferred_of_unselected fun target _ => unselected target]
              have before : paths.targets.take front.length = front := by
                rw [split, List.take_left]
              simp only [found, healthy, before, Bool.not_false, Bool.true_and]
              cases front with
              | nil =>
                  have unordered : paths.orderedTargets = paths.targets := by
                    unfold PathSet.orderedTargets
                    simp only [isSelected, found]
                    rw [split]
                    rfl
                  simp only [unordered]
              | cons first middle =>
                  have ordered :=
                    orderedTargets_of_selected isSelected split found
                  rw [ordered, split]
                  rw [split] at distinct
                  exact find?_swapped_iff distinct healthy

end FirstTarget

end WgLink
