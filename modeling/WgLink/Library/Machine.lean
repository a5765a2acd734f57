import Mathlib.Data.List.Basic

/-!
# Labelled machines and their executions

A machine takes one labelled step at a time.  Everything a step leaves open,
an input, an outcome of the environment or a scheduling choice, is part of its
label, so a step is a partial function and a label the machine cannot take has
no result.  An execution keeps the record of each step it took, the newest
first.
-/

namespace WgLink.Library

universe u v w

/-- A machine over states `σ`, labels `ι` and outputs `ο`. -/
structure Machine (σ : Type u) (ι : Type v) (ο : Type w) where
  start : σ → Prop
  step : σ → ι → Option (σ × ο)

/-- One step as it was taken. -/
structure Record (σ : Type u) (ι : Type v) (ο : Type w) where
  before : σ
  input : ι
  output : ο
  after : σ

namespace Machine

variable {σ : Type u} {ι : Type v} {ο : Type w} (machine : Machine σ ι ο)

/-- `record` is a step that the machine can take. -/
def Takes (record : Record σ ι ο) : Prop :=
  machine.step record.before record.input =
    some (record.after, record.output)

/-- The executions of a machine, by their log and the state they reach. -/
inductive Execution : List (Record σ ι ο) → σ → Prop
  | start {state : σ} :
      machine.start state → Execution [] state
  | step {log : List (Record σ ι ο)} {record : Record σ ι ο} :
      Execution log record.before →
      machine.Takes record →
      Execution (record :: log) record.after

variable {machine}

namespace Execution

/-- One more step. -/
theorem extend
    {log : List (Record σ ι ο)} {state next : σ} {input : ι} {output : ο}
    (execution : machine.Execution log state)
    (taken : machine.step state input = some (next, output)) :
    machine.Execution (⟨state, input, output, next⟩ :: log) next :=
  @Execution.step σ ι ο machine log ⟨state, input, output, next⟩
    execution taken

/-- What holds at the start, and is kept by every step that meets a condition,
holds after every execution whose steps all meet the condition.  The invariant
may speak about the steps taken so far. -/
theorem invariant
    {Invariant : List (Record σ ι ο) → σ → Prop}
    {Meets : Record σ ι ο → Prop}
    (atStart : ∀ state, machine.start state → Invariant [] state)
    (atStep :
      ∀ log record,
        Invariant log record.before →
        Meets record →
        machine.Takes record →
        Invariant (record :: log) record.after)
    {log : List (Record σ ι ο)} {state : σ}
    (execution : machine.Execution log state)
    (meets : ∀ record ∈ log, Meets record) :
    Invariant log state := by
  induction execution with
  | start started =>
      exact atStart _ started
  | @step log record earlier taken inductionHypothesis =>
      have held : Invariant log record.before :=
        inductionHypothesis fun older member =>
          meets older (List.mem_cons_of_mem record member)
      exact atStep log record held (meets record List.mem_cons_self) taken

/-- The rule for an invariant that every step keeps and that does not look at
the log. -/
theorem state_invariant
    {Invariant : σ → Prop}
    (atStart : ∀ state, machine.start state → Invariant state)
    (atStep :
      ∀ record,
        Invariant record.before →
        machine.Takes record →
        Invariant record.after)
    {log : List (Record σ ι ο)} {state : σ}
    (execution : machine.Execution log state) :
    Invariant state :=
  @invariant σ ι ο machine
    (fun _ current => Invariant current) (fun _ => True)
    atStart (fun _ record held _ taken => atStep record held taken)
    log state execution (fun _ _ => trivial)

/-- A step in the log splits the execution into the part before it and the
part after it. -/
theorem split
    {newer older : List (Record σ ι ο)} {record : Record σ ι ο} {state : σ}
    (execution : machine.Execution (newer ++ record :: older) state) :
    machine.Execution older record.before ∧ machine.Takes record := by
  induction newer generalizing state with
  | nil =>
      cases execution with
      | step earlier taken =>
          exact ⟨earlier, taken⟩
  | cons head rest inductionHypothesis =>
      cases execution with
      | step earlier _ =>
          exact inductionHypothesis earlier

/-- The execution up to and including a step of its log. -/
theorem split_after
    {newer older : List (Record σ ι ο)} {record : Record σ ι ο} {state : σ}
    (execution : machine.Execution (newer ++ record :: older) state) :
    machine.Execution (record :: older) record.after := by
  have parts := split execution
  exact Execution.step parts.1 parts.2

/-- A step in the log was taken from a state that an earlier part of the
execution reached. -/
theorem earlier_of_mem
    {log : List (Record σ ι ο)} {record : Record σ ι ο} {state : σ}
    (execution : machine.Execution log state) (member : record ∈ log) :
    ∃ older,
      older ⊆ log ∧
      machine.Execution older record.before ∧
      machine.Takes record := by
  obtain ⟨newer, older, rfl⟩ := List.append_of_mem member
  refine ⟨older, ?_, split execution⟩
  intro past pastMember
  exact List.mem_append_right newer (List.mem_cons_of_mem record pastMember)

end Execution

variable (machine)

/-- Run a list of labels, the first one first. -/
def run : σ → List ι → Option (List (Record σ ι ο) × σ)
  | state, [] => some ([], state)
  | state, input :: rest =>
      match machine.step state input with
      | none => none
      | some (next, output) =>
          (run next rest).map fun (log, final) =>
            (log ++ [⟨state, input, output, next⟩], final)

variable {machine}

/-- A run that goes through extends an execution. -/
theorem execution_append_of_run
    {state final : σ} {inputs : List ι}
    {earlier log : List (Record σ ι ο)}
    (execution : machine.Execution earlier state)
    (ran : machine.run state inputs = some (log, final)) :
    machine.Execution (log ++ earlier) final := by
  induction inputs generalizing state earlier log with
  | nil =>
      simp only [run, Option.some.injEq, Prod.mk.injEq] at ran
      obtain ⟨rfl, rfl⟩ := ran
      exact execution
  | cons input rest inductionHypothesis =>
      simp only [run] at ran
      cases stepped : machine.step state input with
      | none =>
          rw [stepped] at ran
          cases ran
      | some result =>
          obtain ⟨next, output⟩ := result
          rw [stepped] at ran
          simp only [Option.map_eq_some_iff, Prod.exists,
            Prod.mk.injEq] at ran
          obtain ⟨laterLog, reached, ranRest, rfl, rfl⟩ := ran
          simpa [List.append_assoc] using
            inductionHypothesis (execution.extend stepped) ranRest

/-- A run that goes through is an execution. -/
theorem execution_of_run
    {state final : σ} {inputs : List ι} {log : List (Record σ ι ο)}
    (started : machine.start state)
    (ran : machine.run state inputs = some (log, final)) :
    machine.Execution log final := by
  simpa using execution_append_of_run (Execution.start started) ran

/-- A run takes its labels in order. -/
theorem inputs_of_run
    {state final : σ} {inputs : List ι} {log : List (Record σ ι ο)}
    (ran : machine.run state inputs = some (log, final)) :
    log.map Record.input = inputs.reverse := by
  induction inputs generalizing state final log with
  | nil =>
      simp only [run, Option.some.injEq, Prod.mk.injEq] at ran
      rw [← ran.1]
      rfl
  | cons input rest inductionHypothesis =>
      simp only [run] at ran
      cases stepped : machine.step state input with
      | none =>
          rw [stepped] at ran
          cases ran
      | some result =>
          rw [stepped] at ran
          simp only [Option.map_eq_some_iff, Prod.exists,
            Prod.mk.injEq] at ran
          obtain ⟨laterLog, reached, ranRest, rfl, _⟩ := ran
          rw [List.map_append, inductionHypothesis ranRest,
            List.reverse_cons]
          rfl

/-- What a run of concrete labels computes is found in an execution. -/
theorem exists_execution_of_run
    {α : Type*} {state : σ} {inputs : List ι} {value : α}
    {observe : List (Record σ ι ο) × σ → α}
    (started : machine.start state)
    (ran : (machine.run state inputs).map observe = some value) :
    ∃ log final,
      machine.Execution log final ∧ observe (log, final) = value := by
  obtain ⟨⟨log, final⟩, completed, observed⟩ := Option.map_eq_some_iff.mp ran
  exact ⟨log, final, execution_of_run started completed, observed⟩

end Machine

/-- The labels of a log carry times that never go back. -/
def Chronological
    {σ : Type u} {ι : Type v} {ο : Type w} {τ : Type*} [LE τ]
    (time : ι → τ) (log : List (Record σ ι ο)) : Prop :=
  log.Pairwise fun newer older => time older.input ≤ time newer.input

end WgLink.Library
