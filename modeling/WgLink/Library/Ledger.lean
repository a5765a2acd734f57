import WgLink.Library.HashMap

/-!
# Ledgers of open and closed entries

Keys are opened once, stay in a table while they are open, and are closed by
leaving it.  `Balanced` ties the history of a table to its content, so that
what was opened is at any time what is still open together with what was
closed.
-/

namespace WgLink.Library

universe u v

variable {κ : Type u} {α : Type v}

/-- The table holds exactly what was opened and not closed, and no key was
opened or closed twice. -/
structure Balanced (opened closed : List κ) (table : HashMap κ α) : Prop where
  openedOnce : opened.Nodup
  closedOnce : closed.Nodup
  mem_opened : ∀ key, key ∈ opened ↔ key ∈ table ∨ key ∈ closed
  closedAbsent : ∀ key ∈ closed, key ∉ table

namespace Balanced

theorem empty : Balanced [] [] (∅ : HashMap κ α) where
  openedOnce := List.nodup_nil
  closedOnce := List.nodup_nil
  mem_opened := by
    intro key
    simp [Finmap.notMem_empty]
  closedAbsent := by
    intro key member
    cases member

variable {opened closed : List κ} {table : HashMap κ α} {key : κ}

/-- Open and close a key at once. -/
theorem passes
    (balanced : Balanced opened closed table) (fresh : key ∉ opened) :
    Balanced (opened ++ [key]) (closed ++ [key]) table where
  openedOnce := by
    rw [← List.concat_eq_append]
    exact balanced.openedOnce.concat fresh
  closedOnce := by
    rw [← List.concat_eq_append]
    apply balanced.closedOnce.concat
    intro member
    exact fresh ((balanced.mem_opened key).mpr (Or.inr member))
  mem_opened := by
    intro query
    rw [List.mem_append, List.mem_append, List.mem_singleton,
      balanced.mem_opened, or_assoc]
  closedAbsent := by
    intro query member present
    rcases List.mem_append.mp member with earlier | here
    · exact balanced.closedAbsent query earlier present
    · rw [List.mem_singleton.mp here] at present
      exact fresh ((balanced.mem_opened key).mpr (Or.inl present))

variable [DecidableEq κ]

/-- Open a key that was never opened. -/
theorem opens
    (balanced : Balanced opened closed table) (fresh : key ∉ opened)
    (value : α) :
    Balanced (opened ++ [key]) closed (table.insert key value) where
  openedOnce := by
    rw [← List.concat_eq_append]
    exact balanced.openedOnce.concat fresh
  closedOnce := balanced.closedOnce
  mem_opened := by
    intro query
    rw [List.mem_append, List.mem_singleton, balanced.mem_opened,
      Finmap.mem_insert]
    exact or_comm.trans or_assoc.symm
  closedAbsent := by
    intro query member present
    have wasOpened : query ∈ opened :=
      (balanced.mem_opened query).mpr (Or.inr member)
    rcases Finmap.mem_insert.mp present with rfl | before
    · exact fresh wasOpened
    · exact balanced.closedAbsent query member before

/-- Close a key that is open. -/
theorem closes
    (balanced : Balanced opened closed table) (present : key ∈ table) :
    Balanced opened (closed ++ [key]) (table.erase key) where
  openedOnce := balanced.openedOnce
  closedOnce := by
    rw [← List.concat_eq_append]
    apply balanced.closedOnce.concat
    intro member
    exact balanced.closedAbsent key member present
  mem_opened := by
    intro query
    rw [balanced.mem_opened, List.mem_append, List.mem_singleton,
      Finmap.mem_erase]
    by_cases same : query = key
    · subst same
      simp [present]
    · simp [same]
  closedAbsent := by
    intro query member
    rw [Finmap.mem_erase]
    rintro ⟨different, before⟩
    rcases List.mem_append.mp member with earlier | here
    · exact balanced.closedAbsent query earlier before
    · exact different (List.mem_singleton.mp here)

/-- What was opened is what is still open and what was closed. -/
theorem length_opened (balanced : Balanced opened closed table) :
    opened.length = table.keys.card + closed.length := by
  have asSets : opened.toFinset = table.keys ∪ closed.toFinset := by
    ext query
    rw [List.mem_toFinset, Finset.mem_union, Finmap.mem_keys,
      List.mem_toFinset]
    exact balanced.mem_opened query
  have apart : Disjoint table.keys closed.toFinset := by
    rw [Finset.disjoint_right]
    intro query member present
    rw [List.mem_toFinset] at member
    exact balanced.closedAbsent query member (Finmap.mem_keys.mp present)
  rw [← List.toFinset_card_of_nodup balanced.openedOnce, asSets,
    Finset.card_union_of_disjoint apart,
    List.toFinset_card_of_nodup balanced.closedOnce]

end Balanced

end WgLink.Library
