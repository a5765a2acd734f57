import Mathlib.Init

/-!
# Fallible computations on a state

A computation that may fail changes its state call by call, and a failure
leaves the state as it is at that point.  Besides its result a computation
keeps the states it went through, one after each individual call, so that a
property can be asked for at every intermediate point.

`Triple between before program returns fails` is the rule format: started
where `before` holds, the computation passes only through states of `between`
and ends in `returns` or, when it fails, in `fails`.
-/

namespace WgLink.Library

variable {σ α β : Type}

theorem except_bind_eq_ok
    {action : Except String α} {next : α → Except String β} {value : β} :
    (action >>= next) = .ok value ↔
      ∃ first, action = .ok first ∧ next first = .ok value := by
  cases action with
  | error error =>
      exact ⟨nofun, nofun⟩
  | ok first =>
      constructor
      · intro done
        exact ⟨first, rfl, done⟩
      · rintro ⟨_, same, done⟩
        cases same
        exact done

/-- What a computation leaves behind. -/
structure Trail (σ α : Type) where
  state : σ
  visited : List σ
  result : Except String α

/-- A computation that may fail. -/
def Fallible (σ α : Type) := σ → Trail σ α

namespace Fallible

/-- Go on with `next` after a result, and stop after an error. -/
def andThen
    (program : Fallible σ α) (next : α → Fallible σ β) : Fallible σ β :=
  fun state =>
    match (program state).result with
    | .error error =>
        ⟨(program state).state, (program state).visited, .error error⟩
    | .ok value =>
        let later := next value (program state).state
        ⟨later.state, (program state).visited ++ later.visited, later.result⟩

instance : Monad (Fallible σ) where
  pure value := fun state => ⟨state, [], .ok value⟩
  bind := andThen

/-- Read the state. -/
def read (observe : σ → α) : Fallible σ α :=
  fun state => ⟨state, [], .ok (observe state)⟩

/-- Change the state without a call. -/
def modify (change : σ → σ) : Fallible σ Unit :=
  fun state => ⟨change state, [], .ok ()⟩

/-- Give up. -/
def fail (error : String) : Fallible σ α :=
  fun state => ⟨state, [], .error error⟩

/-- One individual call; the state it leaves is an intermediate point. -/
def call (run : σ → σ × Except String α) : Fallible σ α :=
  fun state => ⟨(run state).1, [(run state).1], (run state).2⟩

/-- Go on with `handler` when the computation fails. -/
def recover
    (program : Fallible σ α) (handler : String → Fallible σ α) :
    Fallible σ α :=
  fun state =>
    match (program state).result with
    | .ok value =>
        ⟨(program state).state, (program state).visited, .ok value⟩
    | .error error =>
        let later := handler error (program state).state
        ⟨later.state, (program state).visited ++ later.visited, later.result⟩

/-- Go on when a check has passed. -/
def check (passed : Bool) (error : String) : Fallible σ Unit :=
  if passed then pure () else fail error

/-- A loop over a list that stops at the first error. -/
def forEach (items : List α) (body : α → Fallible σ Unit) : Fallible σ Unit :=
  match items with
  | [] => pure ()
  | item :: rest => body item >>= fun _ => forEach rest body

/-- A composition ends where its first part failed, or where the second part
ends. -/
theorem bind_state
    (program : Fallible σ α) (next : α → Fallible σ β) (state : σ) :
    ((program >>= next) state).state = (program state).state ∨
      ∃ value,
        ((program >>= next) state).state =
          (next value (program state).state).state := by
  change (andThen program next state).state = _ ∨
    ∃ value, (andThen program next state).state = _
  unfold andThen
  cases (program state).result with
  | error error =>
      exact .inl rfl
  | ok value =>
      exact .inr ⟨value, rfl⟩

theorem check_state (passed : Bool) (error : String) (state : σ) :
    (check passed error state).state = state := by
  cases passed with
  | true => rfl
  | false => rfl

end Fallible

/-- The end of a computation: `returns` after a result, `fails` after an
error. -/
def Ends
    (returns : α → σ → Prop) (fails : σ → Prop) (trail : Trail σ α) : Prop :=
  match trail.result with
  | .ok value => returns value trail.state
  | .error _ => fails trail.state

theorem Ends.of_ok
    {returns : α → σ → Prop} {fails : σ → Prop} {trail : Trail σ α}
    {value : α}
    (ends : Ends returns fails trail) (succeeded : trail.result = .ok value) :
    returns value trail.state := by
  unfold Ends at ends
  rw [succeeded] at ends
  exact ends

theorem Ends.of_error
    {returns : α → σ → Prop} {fails : σ → Prop} {trail : Trail σ α}
    {error : String}
    (ends : Ends returns fails trail) (failed : trail.result = .error error) :
    fails trail.state := by
  unfold Ends at ends
  rw [failed] at ends
  exact ends

theorem Ends.imp
    {returns weaker : α → σ → Prop} {fails worse : σ → Prop}
    {trail : Trail σ α} (ends : Ends returns fails trail)
    (returned : ∀ value, returns value trail.state → weaker value trail.state)
    (failed : fails trail.state → worse trail.state) :
    Ends weaker worse trail := by
  unfold Ends at ends ⊢
  cases outcome : trail.result with
  | ok value =>
      rw [outcome] at ends
      exact returned value ends
  | error error =>
      rw [outcome] at ends
      exact failed ends

/-- Partial-correctness triples with a property of every intermediate
point. -/
def Triple
    (between before : σ → Prop) (program : Fallible σ α)
    (returns : α → σ → Prop) (fails : σ → Prop) : Prop :=
  ∀ state, before state →
    (∀ point ∈ (program state).visited, between point) ∧
      Ends returns fails (program state)

namespace Triple

variable {between before fails : σ → Prop} {program : Fallible σ α}
  {returns : α → σ → Prop}

theorem read
    {observe : σ → α}
    (entails : ∀ state, before state → returns (observe state) state) :
    Triple between before (Fallible.read observe) returns fails := by
  intro state holds
  exact ⟨nofun, entails state holds⟩

theorem modify
    {change : σ → σ} {returns : Unit → σ → Prop}
    (entails : ∀ state, before state → returns () (change state)) :
    Triple between before (Fallible.modify change) returns fails := by
  intro state holds
  exact ⟨nofun, entails state holds⟩

theorem fail
    {error : String} (entails : ∀ state, before state → fails state) :
    Triple between before (Fallible.fail error) returns fails := by
  intro state holds
  exact ⟨nofun, entails state holds⟩

theorem call
    {run : σ → σ × Except String α}
    (passes : ∀ state, before state → between (run state).1)
    (succeeds :
      ∀ state value,
        before state → (run state).2 = .ok value →
        returns value (run state).1)
    (refuses :
      ∀ state error,
        before state → (run state).2 = .error error →
        fails (run state).1) :
    Triple between before (Fallible.call run) returns fails := by
  intro state holds
  constructor
  · intro point member
    rw [List.mem_singleton.mp member]
    exact passes state holds
  · unfold Ends
    cases outcome : (Fallible.call run state).result with
    | ok value =>
        exact succeeds state value holds outcome
    | error error =>
        exact refuses state error holds outcome

/-- A call that keeps a property whether or not it succeeds. -/
theorem call_keeps
    {run : σ → σ × Except String α} {kept : σ → Prop}
    (passes : ∀ state, kept state → between (run state).1)
    (keeps : ∀ state, kept state → kept (run state).1) :
    Triple between kept (Fallible.call run) (fun _ => kept) kept :=
  Triple.call passes (fun state _ holds _ => keeps state holds)
    (fun state _ holds _ => keeps state holds)

theorem bind
    {next : α → Fallible σ β} {middle : α → σ → Prop}
    {returns : β → σ → Prop}
    (first : Triple between before program middle fails)
    (second :
      ∀ value, Triple between (middle value) (next value) returns fails) :
    Triple between before (program >>= next) returns fails := by
  change Triple between before (Fallible.andThen program next) returns fails
  intro state holds
  obtain ⟨points, ends⟩ := first state holds
  unfold Fallible.andThen
  cases outcome : (program state).result with
  | error error =>
      exact ⟨points, ends.of_error outcome⟩
  | ok value =>
      obtain ⟨laterPoints, laterEnds⟩ := second value _ (ends.of_ok outcome)
      refine ⟨?_, laterEnds⟩
      intro point member
      rcases List.mem_append.mp member with early | late
      · exact points point early
      · exact laterPoints point late

theorem recover
    {handler : String → Fallible σ α} {middle : σ → Prop}
    (first : Triple between before program returns middle)
    (second :
      ∀ error, Triple between middle (handler error) returns fails) :
    Triple between before (Fallible.recover program handler)
      returns fails := by
  intro state holds
  obtain ⟨points, ends⟩ := first state holds
  unfold Fallible.recover
  cases outcome : (program state).result with
  | ok value =>
      exact ⟨points, ends.of_ok outcome⟩
  | error error =>
      obtain ⟨laterPoints, laterEnds⟩ := second error _ (ends.of_error outcome)
      refine ⟨?_, laterEnds⟩
      intro point member
      rcases List.mem_append.mp member with early | late
      · exact points point early
      · exact laterPoints point late

theorem pure
    {value : α} (entails : ∀ state, before state → returns value state) :
    Triple between before (Pure.pure value) returns fails := by
  intro state holds
  exact ⟨nofun, entails state holds⟩

theorem check
    {passed : Bool} {error : String}
    (refused : ∀ state, before state → fails state) :
    Triple between before (Fallible.check passed error)
      (fun _ state => before state ∧ passed = true) fails := by
  unfold Fallible.check
  cases passed with
  | true =>
      exact Triple.pure fun state holds => ⟨holds, rfl⟩
  | false =>
      exact Triple.fail refused

/-- Ask for less at the start and at the end. -/
theorem weaken
    {stronger : σ → Prop} {weaker : α → σ → Prop}
    (triple : Triple between before program returns fails)
    (starts : ∀ state, stronger state → before state)
    (finishes : ∀ value state, returns value state → weaker value state) :
    Triple between stronger program weaker fails := by
  intro state holds
  obtain ⟨points, ends⟩ := triple state (starts state holds)
  refine ⟨points, ?_⟩
  unfold Ends at ends ⊢
  cases outcome : (program state).result with
  | ok value =>
      rw [outcome] at ends
      exact finishes value _ ends
  | error error =>
      rw [outcome] at ends
      exact ends

/-- A loop keeps an invariant that depends on the items still to come. -/
theorem forEach
    {items : List α} {body : α → Fallible σ Unit}
    {invariant : List α → σ → Prop}
    (keeps :
      ∀ item rest,
        Triple between (invariant (item :: rest)) (body item)
          (fun _ => invariant rest) fails) :
    Triple between (invariant items) (Fallible.forEach items body)
      (fun _ => invariant []) fails := by
  induction items with
  | nil =>
      exact Triple.pure fun _ holds => holds
  | cons item rest inductionHypothesis =>
      exact Triple.bind (keeps item rest) fun _ => inductionHypothesis

end Triple

/-- A property that a program keeps, whether or not it succeeds. -/
def Keeps (kept : σ → Prop) (program : Fallible σ α) : Prop :=
  Triple (fun _ => True) kept program (fun _ => kept) kept

theorem Keeps.state
    {kept : σ → Prop} {program : Fallible σ α} {state : σ}
    (keeps : Keeps kept program) (holds : kept state) :
    kept (program state).state := by
  have ends := (keeps state holds).2
  cases outcome : (program state).result with
  | ok value =>
      exact ends.of_ok outcome
  | error error =>
      exact ends.of_error outcome

/-- A triple that asks only for what holds after a success. -/
def Yields
    (before : σ → Prop) (program : Fallible σ α)
    (returns : α → σ → Prop) : Prop :=
  Triple (fun _ => True) before program returns (fun _ => True)

theorem Yields.of_ok
    {before : σ → Prop} {program : Fallible σ α} {returns : α → σ → Prop}
    {state : σ} {value : α}
    (yields : Yields before program returns) (holds : before state)
    (succeeded : (program state).result = .ok value) :
    returns value (program state).state :=
  (yields state holds).2.of_ok succeeded

/-! ## Scripted resources -/

/-- A resource whose next calls fail as scripted; a failing call leaves the
content alone, and calls beyond the script succeed. -/
structure Scripted (α : Type) where
  content : α
  refusals : List Bool

namespace Scripted

def call (resource : Scripted α) (change : α → α) :
    Scripted α × Except String Unit :=
  match resource.refusals with
  | true :: rest =>
      ({ resource with refusals := rest }, .error "injected failure")
  | refusals =>
      ({ content := change resource.content, refusals := refusals.tail },
        .ok ())

theorem call_ok
    {resource : Scripted α} {change : α → α}
    (succeeded : (resource.call change).2 = .ok ()) :
    (resource.call change).1.content = change resource.content := by
  obtain ⟨content, refusals⟩ := resource
  rcases refusals with _ | ⟨_ | _, rest⟩
  · rfl
  · rfl
  · cases succeeded

theorem call_error
    {resource : Scripted α} {change : α → α} {error : String}
    (failed : (resource.call change).2 = .error error) :
    (resource.call change).1.content = resource.content := by
  obtain ⟨content, refusals⟩ := resource
  rcases refusals with _ | ⟨_ | _, rest⟩
  · cases failed
  · cases failed
  · rfl

theorem call_of_willing
    {resource : Scripted α} {change : α → α}
    (willing : resource.refusals = []) :
    (resource.call change).2 = .ok () := by
  obtain ⟨content, refusals⟩ := resource
  cases willing
  rfl

end Scripted

end WgLink.Library
