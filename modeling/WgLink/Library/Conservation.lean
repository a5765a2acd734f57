import Mathlib.Algebra.BigOperators.Group.Finset.Basic
import Mathlib.Algebra.Order.Group.Multiset
import WgLink.Library.HashMap
import WgLink.Library.Machine

/-!
# Conservation of what a machine holds

A machine that passes items on holds each of them in one of its places.  A
step lets items enter, makes copies of items that are held, and lets items
leave.  When every step keeps this account, a whole run keeps it, and nothing
is held or leaves that has not entered.
-/

namespace WgLink.Library

universe u v w x

/-- What a step does with the items of a machine. -/
structure Movement (α : Type x) where
  entered : Multiset α
  copied : Multiset α
  departed : Multiset α

section Tables

variable {κ : Type u} {α : Type v} {μ : Type w}
variable [DecidableEq κ] [AddCommMonoid μ]

/-- What the entries of a table add up to. -/
def HashMap.total (weight : κ → α → μ) (table : HashMap κ α) : μ :=
  ∑ key ∈ table.keys, ((table.lookup key).map (weight key)).getD 0

theorem HashMap.total_eq_zero
    {weight : κ → α → μ} {table : HashMap κ α}
    (weightless :
      ∀ key value, table.lookup key = some value → weight key value = 0) :
    HashMap.total weight table = 0 := by
  apply Finset.sum_eq_zero
  intro key _
  cases present : table.lookup key with
  | none =>
      rfl
  | some value =>
      exact weightless key value present

/-- An entry and the rest of the table. -/
theorem HashMap.total_eq_add_erase
    (weight : κ → α → μ) {table : HashMap κ α} {key : κ} {value : α}
    (present : table.lookup key = some value) :
    HashMap.total weight table =
      weight key value + HashMap.total weight (table.erase key) := by
  have member : key ∈ table.keys := by
    rw [Finmap.mem_keys, HashMap.mem_iff_lookup_isSome, present]
    rfl
  unfold HashMap.total
  rw [← Finset.add_sum_erase _ _ member, present]
  have sameKeys : table.keys.erase key = (table.erase key).keys := by
    ext other
    rw [Finset.mem_erase, Finmap.mem_keys, Finmap.mem_keys, Finmap.mem_erase]
  rw [sameKeys]
  congr 1
  apply Finset.sum_congr rfl
  intro other otherMember
  rw [Finmap.mem_keys, Finmap.mem_erase] at otherMember
  rw [Finmap.lookup_erase_ne otherMember.1]

theorem HashMap.total_insert
    (weight : κ → α → μ) (table : HashMap κ α) (key : κ) (value : α) :
    HashMap.total weight (table.insert key value) =
      weight key value + HashMap.total weight (table.erase key) := by
  have present : (table.insert key value).lookup key = some value :=
    Finmap.lookup_insert table
  have erased : (table.insert key value).erase key = table.erase key := by
    apply Finmap.ext_lookup
    intro other
    rw [HashMap.lookup_erase_eq_ite, HashMap.lookup_erase_eq_ite,
      HashMap.lookup_insert_eq_ite]
    split
    · rfl
    · rfl
  rw [HashMap.total_eq_add_erase weight present, erased]

end Tables

namespace Movement

variable {α : Type x}

instance : Zero (Movement α) := ⟨⟨0, 0, 0⟩⟩

instance : Add (Movement α) :=
  ⟨fun left right =>
    ⟨left.entered + right.entered, left.copied + right.copied,
      left.departed + right.departed⟩⟩

variable {σ : Type u} {ι : Type v} {ο : Type w}

/-- What the steps of a log do together. -/
def sum (movement : ο → Movement α) : List (Record σ ι ο) → Movement α
  | [] => 0
  | record :: older => movement record.output + sum movement older

end Movement

variable {σ : Type u} {ι : Type v} {ο : Type w} {α : Type x}

/-- Every step of the machine that meets a condition keeps the account of the
items it holds.  The items that enter are sound, and a step has only to keep
the account as long as all items held are. -/
structure Conserves
    (machine : Machine σ ι ο) (holds : σ → Multiset α)
    (movement : ο → Movement α) (Meets : Record σ ι ο → Prop)
    (Sound : α → Prop) : Prop where
  atStart : ∀ state, machine.start state → holds state = 0
  sound :
    ∀ record, machine.Takes record → Meets record →
      ∀ item ∈ (movement record.output).entered, Sound item
  copied :
    ∀ record, machine.Takes record →
      ∀ item ∈ (movement record.output).copied, item ∈ holds record.before
  balanced :
    ∀ record, machine.Takes record →
      (∀ item ∈ holds record.before, Sound item) →
      holds record.after + (movement record.output).departed =
        holds record.before +
          ((movement record.output).entered +
            (movement record.output).copied)

namespace Conserves

variable
  {machine : Machine σ ι ο} {holds : σ → Multiset α}
  {movement : ο → Movement α} {Meets : Record σ ι ο → Prop}
  {Sound : α → Prop}
  {log : List (Record σ ι ο)} {state : σ} {item : α}

/-- What is held after a step, or leaves with it, was held before it or
enters with it. -/
theorem mem_of_step
    (conserves : Conserves machine holds movement Meets Sound)
    {record : Record σ ι ο} (taken : machine.Takes record)
    (soundBefore : ∀ item ∈ holds record.before, Sound item)
    (member :
      item ∈ holds record.after ∨
        item ∈ (movement record.output).departed) :
    item ∈ holds record.before ∨
      item ∈ (movement record.output).entered := by
  have balance := conserves.balanced record taken soundBefore
  have inSum :
      item ∈ holds record.after + (movement record.output).departed :=
    Multiset.mem_add.mpr member
  rw [balance, Multiset.mem_add, Multiset.mem_add] at inSum
  rcases inSum with before | entered | copied
  · exact Or.inl before
  · exact Or.inr entered
  · exact Or.inl (conserves.copied record taken item copied)

/-- All items held are sound. -/
theorem sound_of_execution
    (conserves : Conserves machine holds movement Meets Sound)
    (execution : machine.Execution log state)
    (meets : ∀ record ∈ log, Meets record) :
    ∀ item ∈ holds state, Sound item := by
  induction execution with
  | start started =>
      intro item member
      rw [conserves.atStart _ started] at member
      exact absurd member (Multiset.notMem_zero item)
  | @step log record earlier taken inductionHypothesis =>
      have soundBefore : ∀ item ∈ holds record.before, Sound item :=
        inductionHypothesis fun older member =>
          meets older (List.mem_cons_of_mem record member)
      intro item member
      rcases conserves.mem_of_step taken soundBefore (Or.inl member) with
        before | entered
      · exact soundBefore item before
      · exact
          conserves.sound record taken (meets record List.mem_cons_self)
            item entered

/-- What is held and what has left is what entered and what was copied. -/
theorem balance
    (conserves : Conserves machine holds movement Meets Sound)
    (execution : machine.Execution log state)
    (meets : ∀ record ∈ log, Meets record) :
    holds state + (Movement.sum movement log).departed =
      (Movement.sum movement log).entered +
        (Movement.sum movement log).copied := by
  induction execution with
  | start started =>
      rw [conserves.atStart _ started]
      rfl
  | @step log record earlier taken inductionHypothesis =>
      have meetsBefore : ∀ older ∈ log, Meets older :=
        fun older member => meets older (List.mem_cons_of_mem record member)
      have soundBefore := conserves.sound_of_execution earlier meetsBefore
      have stepped := conserves.balanced record taken soundBefore
      calc
        holds record.after +
              ((movement record.output).departed +
                (Movement.sum movement log).departed) =
            (holds record.after + (movement record.output).departed) +
              (Movement.sum movement log).departed := by
          rw [add_assoc]
        _ = (holds record.before + (Movement.sum movement log).departed) +
              ((movement record.output).entered +
                (movement record.output).copied) := by
          rw [stepped, add_right_comm]
        _ = ((Movement.sum movement log).entered +
                (Movement.sum movement log).copied) +
              ((movement record.output).entered +
                (movement record.output).copied) := by
          rw [inductionHypothesis meetsBefore]
        _ = ((movement record.output).entered +
                (Movement.sum movement log).entered) +
              ((movement record.output).copied +
                (Movement.sum movement log).copied) := by
          rw [add_comm, add_add_add_comm]

/-- Whatever is held has entered in some step. -/
theorem entered_of_held
    (conserves : Conserves machine holds movement Meets Sound)
    (execution : machine.Execution log state)
    (meets : ∀ record ∈ log, Meets record)
    (member : item ∈ holds state) :
    ∃ record ∈ log, item ∈ (movement record.output).entered := by
  induction execution with
  | start started =>
      rw [conserves.atStart _ started] at member
      exact absurd member (Multiset.notMem_zero item)
  | @step log record earlier taken inductionHypothesis =>
      have meetsBefore : ∀ older ∈ log, Meets older :=
        fun older member => meets older (List.mem_cons_of_mem record member)
      have soundBefore := conserves.sound_of_execution earlier meetsBefore
      rcases conserves.mem_of_step taken soundBefore (Or.inl member) with
        before | entered
      · obtain ⟨origin, inLog, enteredThere⟩ :=
          inductionHypothesis meetsBefore before
        exact ⟨origin, List.mem_cons_of_mem record inLog, enteredThere⟩
      · exact ⟨record, List.mem_cons_self, entered⟩

end Conserves

end WgLink.Library
