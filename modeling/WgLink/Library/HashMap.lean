import Mathlib.Data.Finmap
import Mathlib.Data.Finset.Dedup

/-!
# Unordered finite maps

A hash map is read as a finite map without an order of its own.  Iterating
over one visits its keys in some order that the map does not determine, so a
loop over a map takes the order as an argument and is only given orders that
`Iterates` admits.
-/

namespace WgLink.Library

universe u v

/-- A finite map from keys to values. -/
abbrev HashMap (κ : Type u) (α : Type v) := Finmap fun _ : κ => α

namespace HashMap

variable {κ : Type u} {α : Type v} [DecidableEq κ]

theorem lookup_insert_eq_ite
    (table : HashMap κ α) (key query : κ) (value : α) :
    (table.insert key value).lookup query =
      if query = key then some value else table.lookup query := by
  by_cases same : query = key
  · subst same
    rw [Finmap.lookup_insert, if_pos rfl]
  · rw [Finmap.lookup_insert_of_ne table same, if_neg same]

theorem lookup_erase_eq_ite
    (table : HashMap κ α) (key query : κ) :
    (table.erase key).lookup query =
      if query = key then none else table.lookup query := by
  by_cases same : query = key
  · subst same
    rw [Finmap.lookup_erase, if_pos rfl]
  · rw [Finmap.lookup_erase_ne same, if_neg same]

theorem mem_iff_lookup_isSome
    (table : HashMap κ α) (key : κ) :
    key ∈ table ↔ (table.lookup key).isSome := by
  rw [Finmap.mem_iff, Option.isSome_iff_exists]

/-- Writing back the value a key already has changes nothing. -/
theorem insert_eq_self
    {table : HashMap κ α} {key : κ} {value : α}
    (present : table.lookup key = some value) :
    table.insert key value = table := by
  apply Finmap.ext_lookup
  intro query
  rw [lookup_insert_eq_ite]
  split
  · rename_i same
    rw [same, present]
  · rfl

theorem erase_eq_self
    {table : HashMap κ α} {key : κ}
    (absent : table.lookup key = none) :
    table.erase key = table := by
  apply Finmap.ext_lookup
  intro query
  rw [lookup_erase_eq_ite]
  split
  · rename_i same
    rw [same, absent]
  · rfl

theorem insert_insert
    (table : HashMap κ α) (key : κ) (first second : α) :
    (table.insert key first).insert key second =
      table.insert key second := by
  apply Finmap.ext_lookup
  intro query
  simp only [lookup_insert_eq_ite]
  split <;> rfl

/-- Removing a key that was only just added restores the table. -/
theorem erase_insert
    {table : HashMap κ α} {key : κ} (value : α)
    (absent : table.lookup key = none) :
    (table.insert key value).erase key = table := by
  apply Finmap.ext_lookup
  intro query
  rw [lookup_erase_eq_ite, lookup_insert_eq_ite]
  split
  · rename_i same
    rw [same, absent]
  · rfl

theorem keys_insert
    (table : HashMap κ α) (key : κ) (value : α) :
    (table.insert key value).keys = insert key table.keys := by
  ext query
  rw [Finmap.mem_keys, Finmap.mem_insert, Finset.mem_insert, Finmap.mem_keys]

/-- Remove every key of a list, one after another. -/
def eraseAll (table : HashMap κ α) (keys : List κ) : HashMap κ α :=
  keys.foldl (fun current key => current.erase key) table

theorem lookup_eraseAll
    (table : HashMap κ α) (keys : List κ) (query : κ) :
    (HashMap.eraseAll table keys).lookup query =
      if query ∈ keys then none else table.lookup query := by
  induction keys generalizing table with
  | nil =>
      simp [eraseAll]
  | cons key rest inductionHypothesis =>
      have unfolded :
          (HashMap.eraseAll table (key :: rest)).lookup query =
            (HashMap.eraseAll (table.erase key) rest).lookup query := rfl
      rw [unfolded, inductionHypothesis, lookup_erase_eq_ite]
      by_cases later : query ∈ rest
      · simp [later]
      · by_cases here : query = key
        · simp [here]
        · simp [later, here]

theorem lookup_eraseAll_eq_none_iff
    (table : HashMap κ α) (keys : List κ) (query : κ) :
    (HashMap.eraseAll table keys).lookup query = none ↔
      table.lookup query = none ∨ query ∈ keys := by
  rw [lookup_eraseAll]
  by_cases member : query ∈ keys <;> simp [member]

/-- `collect` into a hash map: a later entry replaces an earlier one. -/
def collect (entries : List (κ × α)) : HashMap κ α :=
  entries.foldl (fun table entry => table.insert entry.1 entry.2) ∅

theorem lookup_foldl_insert
    {table : HashMap κ α} {entries : List (κ × α)} {key : κ} {value : α}
    (agree : ∀ entry ∈ entries, entry.1 = key → entry.2 = value)
    (present : table.lookup key = some value ∨ (key, value) ∈ entries) :
    (entries.foldl (fun table entry => table.insert entry.1 entry.2)
      table).lookup key = some value := by
  induction entries generalizing table with
  | nil =>
      rcases present with found | impossible
      · exact found
      · cases impossible
  | cons entry rest inductionHypothesis =>
      rw [List.foldl_cons]
      apply inductionHypothesis
      · intro later member
        exact agree later (List.mem_cons_of_mem entry member)
      · rw [lookup_insert_eq_ite]
        by_cases same : key = entry.1
        · left
          rw [if_pos same, agree entry List.mem_cons_self same.symm]
        · rw [if_neg same]
          rcases present with found | member
          · exact Or.inl found
          · rcases List.mem_cons.mp member with isEntry | later
            · exact absurd (congrArg Prod.fst isEntry) same
            · exact Or.inr later

/-- An entry is found when no entry of the same key says otherwise. -/
theorem lookup_collect
    {entries : List (κ × α)} {key : κ} {value : α}
    (agree : ∀ entry ∈ entries, entry.1 = key → entry.2 = value)
    (member : (key, value) ∈ entries) :
    (collect entries).lookup key = some value :=
  lookup_foldl_insert agree (Or.inr member)

theorem mem_of_lookup_foldl_insert
    {table : HashMap κ α} {entries : List (κ × α)} {key : κ} {value : α}
    (present :
      (entries.foldl (fun table entry => table.insert entry.1 entry.2)
        table).lookup key = some value) :
    table.lookup key = some value ∨ (key, value) ∈ entries := by
  induction entries generalizing table with
  | nil =>
      exact Or.inl present
  | cons entry rest inductionHypothesis =>
      rw [List.foldl_cons] at present
      rcases inductionHypothesis present with found | member
      · rw [lookup_insert_eq_ite] at found
        by_cases same : key = entry.1
        · rw [if_pos same] at found
          right
          rw [same, ← Option.some.inj found]
          exact List.mem_cons_self
        · rw [if_neg same] at found
          exact Or.inl found
      · exact Or.inr (List.mem_cons_of_mem entry member)

/-- What is found is one of the entries. -/
theorem mem_of_lookup_collect
    {entries : List (κ × α)} {key : κ} {value : α}
    (present : (collect entries).lookup key = some value) :
    (key, value) ∈ entries := by
  rcases mem_of_lookup_foldl_insert present with impossible | member
  · rw [Finmap.lookup_empty] at impossible
    cases impossible
  · exact member

/-- A table with a row for each of a list of items with distinct keys. -/
theorem lookup_collect_map
    {β : Type*} {items : List β} {key : β → κ} {value : β → α}
    (distinct : (items.map key).Nodup) (query : κ) :
    (collect (items.map fun item => (key item, value item))).lookup query =
      (items.find? fun item => decide (key item = query)).map value := by
  cases found : items.find? fun item => decide (key item = query) with
  | none =>
      have absent := List.find?_eq_none.mp found
      apply Option.eq_none_iff_forall_ne_some.mpr
      intro stored present
      have member := mem_of_lookup_collect present
      obtain ⟨item, itemMember, same⟩ := List.mem_map.mp member
      have sameKey : key item = query := congrArg Prod.fst same
      exact absent item itemMember (decide_eq_true sameKey)
  | some item =>
      have itemMember := List.mem_of_find?_eq_some found
      have accepted := List.find?_some found
      have sameKey : key item = query := of_decide_eq_true accepted
      apply lookup_collect
      · intro entry entryMember keyed
        obtain ⟨other, otherMember, same⟩ := List.mem_map.mp entryMember
        subst same
        have sameItem : other = item :=
          List.inj_on_of_nodup_map distinct otherMember itemMember
            (keyed.trans sameKey.symm)
        rw [sameItem]
      · rw [← sameKey]
        exact List.mem_map_of_mem itemMember

/-- `HashMap::retain`: the entries that `keep` accepts. -/
def retain (table : HashMap κ α) (keep : κ → α → Bool) : HashMap κ α where
  entries := table.entries.filter fun entry => keep entry.1 entry.2
  nodupKeys := by
    rcases table with ⟨entries, distinct⟩
    induction entries using Quotient.inductionOn with
    | h entries =>
        exact List.NodupKeys.sublist List.filter_sublist distinct

theorem lookup_retain_eq_some
    {table : HashMap κ α} {keep : κ → α → Bool} {key : κ} {value : α} :
    (retain table keep).lookup key = some value ↔
      table.lookup key = some value ∧ keep key value = true := by
  have kept :
      (retain table keep).lookup key = some value ↔
        Sigma.mk key value ∈ table.entries ∧ keep key value = true :=
    Finmap.mem_lookup_iff.trans Multiset.mem_filter
  rw [kept]
  exact and_congr_left fun _ => Finmap.mem_lookup_iff.symm

/-- `order` visits every key of `table` exactly once. -/
def Iterates (order : List κ) (table : HashMap κ α) : Prop :=
  order.Nodup ∧ order.toFinset = table.keys

instance (order : List κ) (table : HashMap κ α) :
    Decidable (Iterates order table) :=
  inferInstanceAs (Decidable (_ ∧ _))

theorem Iterates.mem_iff
    {order : List κ} {table : HashMap κ α}
    (iterates : Iterates order table) (key : κ) :
    key ∈ order ↔ key ∈ table := by
  rw [← List.mem_toFinset, iterates.2, Finmap.mem_keys]

end HashMap

end WgLink.Library
