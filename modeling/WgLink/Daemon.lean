import WgLink.Library.Machine
import WgLink.Library.StableSort
import WgLink.WireguardShow
import Mathlib.Data.List.Lex
import Mathlib.Data.Multiset.Basic
import Mathlib.Data.Prod.Lex
import Mathlib.Data.String.Basic

/-!
# The daemon and its generations

The loop of `main`, which reads the interface again and again and keeps one
generation running for the configuration it finds.  A generation is the task
`run_generation`, so its end may come at any time; `main` waits for the end of
an old generation before it starts a new one.  The tasks that a generation has
spawned are not part of it: after an error or a panic they may outlive it.
-/

namespace WgLink

open WgLink.Library

/-! ## The key of a generation -/

/-- `GenerationKey`. -/
structure GenerationKey where
  publicKey : String
  listenPort : UInt16
  peers : List (String × List String)
deriving DecidableEq

section Key

variable (display : IpNet → String)

/-- The entry of a peer in the key, with its prefixes sorted. -/
def generationPeer (peer : WireguardPeer) : String × List String :=
  (peer.publicKey, sortByKey id (peer.allowedIps.map display))

/-- The key that `main` computes from a snapshot. -/
def generationKey (snapshot : WireguardSnapshot) : GenerationKey where
  publicKey := snapshot.publicKey
  listenPort := snapshot.listenPort
  peers := sortByKey toLex (snapshot.peers.map (generationPeer display))

/-- What the configuration of a peer is: its key, and which prefixes it has,
in whatever order. -/
def configuredPeer (peer : WireguardPeer) : String × Multiset String :=
  (peer.publicKey, ↑(peer.allowedIps.map display))

/-- Two snapshots show the same configuration. -/
structure SameConfiguration (first second : WireguardSnapshot) : Prop where
  publicKey : first.publicKey = second.publicKey
  listenPort : first.listenPort = second.listenPort
  peers :
    (first.peers.map (configuredPeer display)).Perm
      (second.peers.map (configuredPeer display))

variable {display}

/-- Forget the order of the prefixes of an entry. -/
def unsortedEntry (entry : String × List String) :
    String × Multiset String :=
  (entry.1, entry.2)

theorem unsortedEntry_generationPeer (peer : WireguardPeer) :
    unsortedEntry (generationPeer display peer) =
      configuredPeer display peer := by
  have sorted :
      ((sortByKey id (peer.allowedIps.map display) : List String) :
          Multiset String) =
        ↑(peer.allowedIps.map display) :=
    Multiset.coe_eq_coe.mpr (sortByKey_perm id _)
  exact congrArg (Prod.mk peer.publicKey) sorted

/-- Sort the prefixes of an entry. -/
def sortedEntry (entry : String × Multiset String) : String × List String :=
  (entry.1,
    Quotient.lift (sortByKey id)
      (fun _ _ permuted =>
        (sortByKey_eq_iff Function.injective_id).mpr permuted)
      entry.2)

theorem sortedEntry_configuredPeer (peer : WireguardPeer) :
    sortedEntry (configuredPeer display peer) =
      generationPeer display peer :=
  rfl

/-- The keys are equal exactly when the configurations are. -/
theorem generationKey_eq_iff {first second : WireguardSnapshot} :
    generationKey display first = generationKey display second ↔
      SameConfiguration display first second := by
  have entries :
      (first.peers.map (generationPeer display)).Perm
          (second.peers.map (generationPeer display)) ↔
        (first.peers.map (configuredPeer display)).Perm
          (second.peers.map (configuredPeer display)) := by
    constructor
    · intro permuted
      have mapped := permuted.map unsortedEntry
      rw [List.map_map, List.map_map] at mapped
      have same :
          unsortedEntry ∘ generationPeer display = configuredPeer display :=
        funext unsortedEntry_generationPeer
      rw [same] at mapped
      exact mapped
    · intro permuted
      have mapped := permuted.map sortedEntry
      rw [List.map_map, List.map_map] at mapped
      have same :
          sortedEntry ∘ configuredPeer display = generationPeer display :=
        funext sortedEntry_configuredPeer
      rw [same] at mapped
      exact mapped
  have sorted :=
    @sortByKey_eq_iff _ _ _ toLex toLex.injective
      (first.peers.map (generationPeer display))
      (second.peers.map (generationPeer display))
  constructor
  · intro same
    have keys := GenerationKey.mk.inj same
    exact ⟨keys.1, keys.2.1, entries.mp (sorted.mp keys.2.2)⟩
  · intro same
    unfold generationKey
    rw [same.publicKey, same.listenPort,
      sorted.mpr (entries.mpr same.peers)]

end Key

/-! ## The loop of `main` -/

/-- Where a task of `run_generation` is. -/
inductive TaskPhase where
  /-- In `run_generation_inner`. -/
  | running
  /-- In the pause after it, with the token of its own tasks cancelled. -/
  | pausing
  | finished
deriving DecidableEq

/-- A task comes to its end by itself or by a panic. -/
def TaskPhase.nextPhases : TaskPhase → List TaskPhase
  | .running => [.pausing, .finished]
  | .pausing => [.finished]
  | .finished => []

/-- A task of `run_generation` with its argument and its token. -/
structure GenerationTask where
  snapshot : WireguardSnapshot
  cancelled : Bool
  phase : TaskPhase
deriving DecidableEq

/-- Where the loop of `main` is. -/
inductive MainPhase where
  /-- Before `wireguard::snapshot`. -/
  | reading
  /-- Waiting for an old task, with a new snapshot at hand. -/
  | replacing (old : Nat) (snapshot : WireguardSnapshot)
  /-- Before the check whether the task has finished. -/
  | checking
  | sleeping
  | returned
deriving DecidableEq

/-- The variables of `main`.  A handle is the place of a task among all that
were started. -/
structure Daemon where
  activeKey : Option GenerationKey
  generation : Option Nat
  tasks : List GenerationTask
  phase : MainPhase
deriving DecidableEq

/-- What can happen. -/
inductive DaemonEvent where
  /-- The interface is read; `wg` answers the calls. -/
  | read (wg : WgTool)
  /-- The old task has finished. -/
  | replaced
  /-- The task is checked. -/
  | check
  /-- The pause of the loop is over. -/
  | wake (managementFinished : Bool)
  /-- A task goes on. -/
  | advances (handle : Nat) (phase : TaskPhase)

namespace Daemon

/-- The state at the start of the loop. -/
def new : Daemon where
  activeKey := none
  generation := none
  tasks := []
  phase := .reading

section Steps

variable (interface : String) (parse : List Char → Option IpNet)
  (display : IpNet → String)

/-- Start a generation. -/
def spawn (self : Daemon) (snapshot : WireguardSnapshot) : Daemon where
  activeKey := some (generationKey display snapshot)
  generation := some self.tasks.length
  tasks := self.tasks ++ [⟨snapshot, false, .running⟩]
  phase := .checking

/-- A snapshot was read. -/
def compare (self : Daemon) (snapshot : WireguardSnapshot) : Daemon :=
  if self.activeKey = some (generationKey display snapshot) then
    { self with phase := .checking }
  else
    match self.generation with
    | some old =>
        { self with
          generation := none
          tasks :=
            self.tasks.modify old fun task => { task with cancelled := true }
          phase := .replacing old snapshot }
    | none => self.spawn display snapshot

/-- Whether a task has finished. -/
def isFinished (self : Daemon) (handle : Nat) : Bool :=
  (self.tasks[handle]?).any fun task => task.phase = .finished

/-- The check at the end of a round. -/
def checkTask (self : Daemon) : Daemon :=
  if self.generation.any self.isFinished then
    { self with activeKey := none, generation := none, phase := .sleeping }
  else
    { self with phase := .sleeping }

/-- One event, and the snapshot that it read. -/
def step (self : Daemon) :
    DaemonEvent → Option (Daemon × Option WireguardSnapshot)
  | .read wg =>
      if self.phase = .reading then
        match wireguardSnapshot wg interface parse with
        | .ok snapshot => some (self.compare display snapshot, some snapshot)
        | .error _ => some ({ self with phase := .checking }, none)
      else
        none
  | .replaced =>
      match self.phase with
      | .replacing old snapshot =>
          if self.isFinished old then
            some (self.spawn display snapshot, none)
          else
            none
      | _ => none
  | .check =>
      if self.phase = .checking then
        some (self.checkTask, none)
      else
        none
  | .wake managementFinished =>
      if self.phase = .sleeping then
        some
          ({ self with
              phase := if managementFinished then .returned else .reading },
            none)
      else
        none
  | .advances handle phase =>
      match self.tasks[handle]? with
      | none => none
      | some task =>
          if self.phase ≠ .returned ∧ phase ∈ task.phase.nextPhases then
            some
              ({ self with
                  tasks := self.tasks.set handle { task with phase } },
                none)
          else
            none

end Steps

end Daemon

/-- The daemon on an interface. -/
def daemon (interface : String) (parse : List Char → Option IpNet)
    (display : IpNet → String) :
    Machine Daemon DaemonEvent (Option WireguardSnapshot) where
  start state := state = Daemon.new
  step := Daemon.step interface parse display

abbrev DaemonStep := Record Daemon DaemonEvent (Option WireguardSnapshot)

/-- The snapshot that was read last. -/
def lastRead (log : List DaemonStep) : Option WireguardSnapshot :=
  log.findSome? Record.output

/-! ## What every round keeps -/

namespace Daemon

variable {interface : String} {parse : List Char → Option IpNet}
  {display : IpNet → String} {log : List DaemonStep} {state : Daemon}

/-- The loop is not waiting for an old task. -/
def Settled (self : Daemon) : Prop :=
  ∀ old snapshot, self.phase ≠ .replacing old snapshot

/-- The generation that is waited for was started last, and was told to stop
because of a snapshot with another key. -/
structure Waits (display : IpNet → String) (current : Daemon)
    (old : Nat) (snapshot : WireguardSnapshot) : Prop where
  waiting : current.generation = none
  told :
    ∃ task, current.tasks[old]? = some task ∧
      generationKey display task.snapshot ≠ generationKey display snapshot
  newest : current.tasks.length = old + 1

/-- What is true after any number of steps. -/
structure Supervised (display : IpNet → String) (log : List DaemonStep)
    (current : Daemon) : Prop where
  /-- The generation that the loop holds was started last, for the active
  key. -/
  held :
    ∀ handle, current.generation = some handle →
      current.tasks.length = handle + 1 ∧
        (current.tasks[handle]?).map (fun task =>
          generationKey display task.snapshot) = current.activeKey
  waited :
    ∀ old snapshot, current.phase = .replacing old snapshot →
      Waits display current old snapshot ∧ lastRead log = some snapshot
  unfinished :
    ∀ handle task, current.tasks[handle]? = some task →
      task.phase ≠ .finished →
      current.generation = some handle ∨
        ∃ snapshot, current.phase = .replacing handle snapshot
  active :
    current.Settled → current.activeKey.isSome = true →
      current.generation.isSome = true
  /-- The newest generation was started for the configuration read last. -/
  newest :
    current.Settled → ∀ task, current.tasks.getLast? = some task →
      task.cancelled = false ∧
        (lastRead log).map (generationKey display) =
          some (generationKey display task.snapshot)
  started :
    current.Settled → (lastRead log).isSome = true → current.tasks ≠ []
  changed :
    ∀ handle previous next,
      current.tasks[handle]? = some previous →
      current.tasks[handle + 1]? = some next →
      previous.cancelled = true →
      generationKey display previous.snapshot ≠
        generationKey display next.snapshot

theorem new_supervised : Supervised display [] new where
  held handle held := by
    cases held
  waited old snapshot waiting := by
    cases waiting
  unfinished handle task found := by
    cases found
  active _ active := by
    cases active
  newest _ task last := by
    cases last
  started _ read := by
    cases read
  changed handle previous next found := by
    cases found

/-- A generation may start when all earlier ones have finished, and the one
before it was stopped only for another key. -/
theorem spawn_supervised
    {newLog : List DaemonStep} {snapshot : WireguardSnapshot}
    (supervised : Supervised display log state)
    (finished :
      ∀ (handle : Nat) (task : GenerationTask),
        state.tasks[handle]? = some task → task.phase = .finished)
    (replaces :
      ∀ task, state.tasks.getLast? = some task → task.cancelled = true →
        generationKey display task.snapshot ≠
          generationKey display snapshot)
    (read : lastRead newLog = some snapshot) :
    Supervised display newLog (state.spawn display snapshot) where
  held handle held := by
    cases held
    constructor
    · exact List.length_append
    · simp [spawn]
  waited old other waiting := by
    cases waiting
  unfinished handle task found running := by
    left
    by_cases earlier : handle < state.tasks.length
    · have foundBefore : state.tasks[handle]? = some task := by
        rw [← found]
        exact (List.getElem?_append_left earlier).symm
      exact absurd (finished handle task foundBefore) running
    · have bound : handle < (state.spawn display snapshot).tasks.length :=
        (List.getElem?_eq_some_iff.mp found).1
      have length :
          (state.spawn display snapshot).tasks.length =
            state.tasks.length + 1 :=
        List.length_append
      have last : handle = state.tasks.length := by omega
      rw [last]
      rfl
  active _ _ := rfl
  newest _ task last := by
    have newest : some task = some ⟨snapshot, false, .running⟩ := by
      rw [← last]
      exact List.getLast?_concat
    cases newest
    rw [read]
    exact ⟨rfl, rfl⟩
  started _ _ := List.append_ne_nil_of_right_ne_nil _ (List.cons_ne_nil _ _)
  changed handle previous next found foundNext stopped := by
    by_cases earlier : handle + 1 < state.tasks.length
    · have before : state.tasks[handle]? = some previous := by
        rw [← found]
        exact (List.getElem?_append_left (by omega)).symm
      have nextBefore : state.tasks[handle + 1]? = some next := by
        rw [← foundNext]
        exact (List.getElem?_append_left earlier).symm
      exact
        supervised.changed handle previous next before nextBefore stopped
    · have bound :
          handle + 1 < (state.spawn display snapshot).tasks.length :=
        (List.getElem?_eq_some_iff.mp foundNext).1
      have length :
          (state.spawn display snapshot).tasks.length =
            state.tasks.length + 1 :=
        List.length_append
      have last : state.tasks.length = handle + 1 := by omega
      have before : state.tasks[handle]? = some previous := by
        rw [← found]
        exact (List.getElem?_append_left (by omega)).symm
      have isLast : state.tasks.getLast? = some previous := by
        rw [List.getLast?_eq_getElem?, last]
        exact before
      have newest : next = ⟨snapshot, false, .running⟩ := by
        have appended :
            (state.tasks ++ [⟨snapshot, false, .running⟩])[handle + 1]? =
              some next := foundNext
        rw [← last, List.getElem?_concat_length] at appended
        exact (Option.some.inj appended).symm
      rw [newest]
      exact replaces previous isLast stopped

/-- With no generation at hand and none waited for, all have finished. -/
theorem finished_of_settled
    (supervised : Supervised display log state) (settled : state.Settled)
    (none_ : state.generation = none) {handle : Nat} {task : GenerationTask}
    (found : state.tasks[handle]? = some task) :
    task.phase = .finished := by
  by_contra running
  rcases supervised.unfinished handle task found running with
    held | ⟨snapshot, waiting⟩
  · rw [none_] at held
    cases held
  · exact settled handle snapshot waiting

/-- A step that only moves the loop on. -/
theorem withPhase_supervised
    {newLog : List DaemonStep} {phase : MainPhase}
    (supervised : Supervised display log state) (settled : state.Settled)
    (still : ∀ old snapshot, phase ≠ .replacing old snapshot)
    (sameKey :
      (lastRead newLog).map (generationKey display) =
        (lastRead log).map (generationKey display)) :
    Supervised display newLog { state with phase } where
  held := supervised.held
  waited old snapshot waiting := absurd waiting (still old snapshot)
  unfinished handle task found running := by
    rcases supervised.unfinished handle task found running with
      held | ⟨snapshot, waiting⟩
    · exact Or.inl held
    · exact absurd waiting (settled handle snapshot)
  active _ := supervised.active settled
  newest _ task last := by
    rw [sameKey]
    exact supervised.newest settled task last
  started _ read := by
    apply supervised.started settled
    rw [← Option.isSome_map, ← sameKey, Option.isSome_map]
    exact read
  changed := supervised.changed

/-- The generation is told to stop because of another key. -/
theorem cancel_supervised
    {newLog : List DaemonStep} {old : Nat} {snapshot : WireguardSnapshot}
    (supervised : Supervised display log state)
    (held : state.generation = some old)
    (other : state.activeKey ≠ some (generationKey display snapshot))
    (read : lastRead newLog = some snapshot) :
    Supervised display newLog
      { state with
        generation := none
        tasks :=
          state.tasks.modify old fun task => { task with cancelled := true }
        phase := .replacing old snapshot } where
  held handle impossible := by
    cases impossible
  waited waiting other same := by
    cases same
    obtain ⟨newest, keyed⟩ := supervised.held old held
    refine ⟨⟨rfl, ?_, ?_⟩, read⟩
    · have bound : old < state.tasks.length := by omega
      have found : state.tasks[old]? = some state.tasks[old] :=
        List.getElem?_eq_getElem bound
      refine ⟨{ state.tasks[old] with cancelled := true }, ?_, ?_⟩
      · rw [List.getElem?_modify_eq, found]
        rfl
      · intro sameKey
        rw [found, Option.map_some] at keyed
        apply other
        rw [← keyed]
        exact congrArg some sameKey
    · rw [List.length_modify]
      exact newest
  unfinished handle task found running := by
    right
    rw [List.getElem?_modify] at found
    obtain ⟨before, foundBefore, same⟩ := Option.map_eq_some_iff.mp found
    have runningBefore : before.phase ≠ .finished := by
      intro finished
      apply running
      rw [← same]
      split <;> exact finished
    rcases supervised.unfinished handle before foundBefore runningBefore with
      isHeld | ⟨waiting, isWaiting⟩
    · rw [held] at isHeld
      cases isHeld
      exact ⟨snapshot, rfl⟩
    · have waits := (supervised.waited handle waiting isWaiting).1
      rw [waits.waiting] at held
      cases held
  active settled := absurd rfl (settled old snapshot)
  newest settled := absurd rfl (settled old snapshot)
  started settled := absurd rfl (settled old snapshot)
  changed handle previous next found foundNext stopped := by
    obtain ⟨newest, _⟩ := supervised.held old held
    rw [List.getElem?_modify] at found foundNext
    obtain ⟨before, foundBefore, same⟩ := Option.map_eq_some_iff.mp found
    obtain ⟨nextBefore, foundNextBefore, sameNext⟩ :=
      Option.map_eq_some_iff.mp foundNext
    have bound : handle + 1 < state.tasks.length :=
      (List.getElem?_eq_some_iff.mp foundNextBefore).1
    have earlier : old ≠ handle := by omega
    rw [if_neg earlier] at same
    have sameSnapshot : next.snapshot = nextBefore.snapshot := by
      rw [← sameNext]
      split <;> rfl
    rw [← same] at stopped ⊢
    rw [sameSnapshot]
    exact
      supervised.changed handle before nextBefore foundBefore
        foundNextBefore stopped

/-- The active key is the one of the snapshot read last. -/
theorem activeKey_eq_lastRead
    (supervised : Supervised display log state) (settled : state.Settled)
    (active : state.activeKey.isSome = true) :
    (lastRead log).map (generationKey display) = state.activeKey := by
  obtain ⟨handle, held⟩ :=
    Option.isSome_iff_exists.mp (supervised.active settled active)
  obtain ⟨newest, keyed⟩ := supervised.held handle held
  have bound : handle < state.tasks.length := by omega
  have found : state.tasks[handle]? = some state.tasks[handle] :=
    List.getElem?_eq_getElem bound
  have last : state.tasks.getLast? = some state.tasks[handle] := by
    rw [List.getLast?_eq_getElem?, newest]
    exact found
  rw [(supervised.newest settled _ last).2, ← keyed, found]
  rfl

theorem compare_supervised
    {newLog : List DaemonStep} {snapshot : WireguardSnapshot}
    (supervised : Supervised display log state)
    (reading : state.phase = .reading)
    (read : lastRead newLog = some snapshot) :
    Supervised display newLog (state.compare display snapshot) := by
  have settled : state.Settled := by
    intro old other waiting
    rw [reading] at waiting
    cases waiting
  unfold compare
  by_cases same : state.activeKey = some (generationKey display snapshot)
  · rw [if_pos same]
    apply withPhase_supervised supervised settled
    · intro old other waiting
      cases waiting
    · rw [read, Option.map_some, ← same]
      exact (activeKey_eq_lastRead supervised settled (by rw [same]; rfl)).symm
  · rw [if_neg same]
    cases held : state.generation with
    | none =>
        apply spawn_supervised supervised _ _ read
        · intro handle task found
          exact finished_of_settled supervised settled held found
        · intro task last stopped
          rw [(supervised.newest settled task last).1] at stopped
          cases stopped
    | some old =>
        exact cancel_supervised supervised held same read

theorem isFinished_iff {handle : Nat} :
    state.isFinished handle = true ↔
      ∃ task, state.tasks[handle]? = some task ∧ task.phase = .finished := by
  unfold isFinished
  rw [Option.any_eq_true]
  simp only [decide_eq_true_eq]

/-- The old generation has finished, and a new one starts. -/
theorem replaced_supervised
    {newLog : List DaemonStep} {old : Nat} {snapshot : WireguardSnapshot}
    (supervised : Supervised display log state)
    (waiting : state.phase = .replacing old snapshot)
    (finished : state.isFinished old = true)
    (read : lastRead newLog = lastRead log) :
    Supervised display newLog (state.spawn display snapshot) := by
  obtain ⟨waits, lastSnapshot⟩ := supervised.waited old snapshot waiting
  apply spawn_supervised supervised
  · intro handle task found
    by_contra running
    rcases supervised.unfinished handle task found running with
      held | ⟨other, sameWaiting⟩
    · rw [waits.waiting] at held
      cases held
    · rw [waiting] at sameWaiting
      cases sameWaiting
      obtain ⟨ended, foundEnded, isFinished⟩ := isFinished_iff.mp finished
      rw [found] at foundEnded
      cases foundEnded
      exact running isFinished
  · intro task last _
    obtain ⟨told, found, otherKey⟩ := waits.told
    rw [List.getLast?_eq_getElem?, waits.newest] at last
    have same : told = task := Option.some.inj (found.symm.trans last)
    rw [← same]
    exact otherKey
  · rw [read]
    exact lastSnapshot

/-- A generation that has finished by itself is forgotten. -/
theorem checkTask_supervised
    {newLog : List DaemonStep} (supervised : Supervised display log state)
    (checking : state.phase = .checking)
    (read : lastRead newLog = lastRead log) :
    Supervised display newLog state.checkTask := by
  have settled : state.Settled := by
    intro old other waiting
    rw [checking] at waiting
    cases waiting
  have still : ∀ old snapshot, MainPhase.sleeping ≠ .replacing old snapshot := by
    intro old snapshot waiting
    cases waiting
  unfold checkTask
  by_cases ended : state.generation.any state.isFinished = true
  · rw [if_pos ended]
    obtain ⟨handle, held, finished⟩ :=
      (Option.any_eq_true _ _).mp ended
    obtain ⟨task, found, isFinished⟩ := isFinished_iff.mp finished
    constructor
    case held =>
      intro other impossible
      cases impossible
    case waited =>
      intro old snapshot waiting
      exact absurd waiting (still old snapshot)
    case unfinished =>
      intro other unfinished foundOther running
      rcases supervised.unfinished other unfinished foundOther running with
        sameHeld | ⟨snapshot, waiting⟩
      · rw [held] at sameHeld
        cases sameHeld
        rw [found] at foundOther
        cases foundOther
        exact absurd isFinished running
      · exact absurd waiting (settled other snapshot)
    case active =>
      intro _ impossible
      cases impossible
    case newest =>
      intro _ last isLast
      rw [read]
      exact supervised.newest settled last isLast
    case started =>
      intro _ wasRead
      rw [read] at wasRead
      exact supervised.started settled wasRead
    case changed =>
      exact supervised.changed
  · rw [if_neg ended]
    exact withPhase_supervised supervised settled still (by rw [read])

/-- A task that goes on. -/
theorem advances_supervised
    {newLog : List DaemonStep} {handle : Nat} {task : GenerationTask}
    {phase : TaskPhase} (supervised : Supervised display log state)
    (found : state.tasks[handle]? = some task)
    (unfinished : task.phase ≠ .finished)
    (read : lastRead newLog = lastRead log) :
    Supervised display newLog
      { state with tasks := state.tasks.set handle { task with phase } } := by
  have bound : handle < state.tasks.length :=
    (List.getElem?_eq_some_iff.mp found).1
  -- every task keeps its snapshot and its token
  have kept :
      ∀ (other : Nat) (after : GenerationTask),
        (state.tasks.set handle { task with phase })[other]? = some after →
        ∃ before, state.tasks[other]? = some before ∧
          after.snapshot = before.snapshot ∧
          after.cancelled = before.cancelled ∧
          (after.phase ≠ .finished → before.phase ≠ .finished) := by
    intro other after foundAfter
    by_cases same : handle = other
    · subst same
      rw [List.getElem?_set_self bound] at foundAfter
      cases foundAfter
      exact ⟨task, found, rfl, rfl, fun _ => unfinished⟩
    · rw [List.getElem?_set_ne same] at foundAfter
      exact ⟨after, foundAfter, rfl, rfl, id⟩
  have keys (other : Nat) :
      ((state.tasks.set handle { task with phase })[other]?).map
          (fun task => generationKey display task.snapshot) =
        (state.tasks[other]?).map
          (fun task => generationKey display task.snapshot) := by
    by_cases same : handle = other
    · subst same
      rw [List.getElem?_set_self bound, found]
      rfl
    · rw [List.getElem?_set_ne same]
  have length :
      (state.tasks.set handle { task with phase }).length =
        state.tasks.length :=
    List.length_set
  constructor
  case held =>
    intro other held
    simp only [length, keys]
    exact supervised.held other held
  case waited =>
    intro old snapshot waiting
    obtain ⟨waits, lastSnapshot⟩ := supervised.waited old snapshot waiting
    obtain ⟨told, foundTold, otherKey⟩ := waits.told
    refine ⟨⟨waits.waiting, ?_, ?_⟩, read.trans lastSnapshot⟩
    · have sameKey := keys old
      rw [foundTold, Option.map_some] at sameKey
      obtain ⟨after, foundAfter, same⟩ := Option.map_eq_some_iff.mp sameKey
      refine ⟨after, foundAfter, ?_⟩
      rw [same]
      exact otherKey
    · rw [length]
      exact waits.newest
  case unfinished =>
    intro other after foundAfter running
    obtain ⟨before, foundBefore, _, _, runs⟩ := kept other after foundAfter
    exact supervised.unfinished other before foundBefore (runs running)
  case active =>
    exact supervised.active
  case newest =>
    intro settled last isLast
    rw [List.getLast?_eq_getElem?, length] at isLast
    obtain ⟨before, foundBefore, snapshot, token, _⟩ := kept _ last isLast
    rw [← List.getLast?_eq_getElem?] at foundBefore
    rw [token, snapshot, read]
    exact supervised.newest settled before foundBefore
  case started =>
    intro settled wasRead empty
    rw [read] at wasRead
    apply supervised.started settled wasRead
    rw [← List.length_eq_zero_iff, ← length]
    exact List.length_eq_zero_iff.mpr empty
  case changed =>
    intro other previous next foundPrevious foundNext stopped
    obtain ⟨before, foundBefore, snapshot, token, _⟩ :=
      kept other previous foundPrevious
    obtain ⟨nextBefore, foundNextBefore, nextSnapshot, _, _⟩ :=
      kept (other + 1) next foundNext
    rw [snapshot, nextSnapshot]
    rw [token] at stopped
    exact
      supervised.changed other before nextBefore foundBefore
        foundNextBefore stopped

theorem step_supervised
    {record : DaemonStep}
    (supervised : Supervised display log record.before)
    (taken : (daemon interface parse display).Takes record) :
    Supervised display (record :: log) record.after := by
  obtain ⟨before, input, output, after⟩ := record
  have stepped :
      before.step interface parse display input = some (after, output) :=
    taken
  simp only at supervised
  cases input with
  | read wg =>
      simp only [step] at stepped
      split at stepped
      · rename_i reading
        split at stepped
        · cases stepped
          exact compare_supervised supervised reading rfl
        · cases stepped
          have settled : before.Settled := by
            intro old other waiting
            rw [reading] at waiting
            cases waiting
          refine withPhase_supervised supervised settled ?_ rfl
          intro old other waiting
          cases waiting
      · cases stepped
  | replaced =>
      simp only [step] at stepped
      split at stepped
      · rename_i old snapshot waiting
        split at stepped
        · rename_i finished
          cases stepped
          exact replaced_supervised supervised waiting finished rfl
        · cases stepped
      · cases stepped
  | check =>
      simp only [step] at stepped
      split at stepped
      · rename_i checking
        cases stepped
        exact checkTask_supervised supervised checking rfl
      · cases stepped
  | wake managementFinished =>
      simp only [step] at stepped
      split at stepped
      · rename_i sleeping
        cases stepped
        have settled : before.Settled := by
          intro old other waiting
          rw [sleeping] at waiting
          cases waiting
        refine withPhase_supervised supervised settled ?_ rfl
        intro old other
        split <;> exact MainPhase.noConfusion
      · cases stepped
  | advances handle phase =>
      simp only [step] at stepped
      split at stepped
      · cases stepped
      · rename_i task found
        split at stepped
        · rename_i allowed
          cases stepped
          refine advances_supervised supervised found ?_ rfl
          intro finished
          rw [finished] at allowed
          cases allowed.2
        · cases stepped

theorem supervised_of_execution
    (execution : (daemon interface parse display).Execution log state) :
    Supervised display log state := by
  refine
    @Machine.Execution.invariant _ _ _ (daemon interface parse display)
      (Supervised display) (fun _ => True) ?_ ?_ _ _ execution
      (fun _ _ => trivial)
  · intro start isNew
    rw [isNew]
    exact new_supervised
  · intro log record supervised _ taken
    exact step_supervised supervised taken

/-- A generation has finished before the next one starts. -/
theorem finished_of_next
    (supervised : Supervised display log state) {handle : Nat}
    {previous next : GenerationTask}
    (found : state.tasks[handle]? = some previous)
    (foundNext : state.tasks[handle + 1]? = some next) :
    previous.phase = .finished := by
  have bound : handle + 1 < state.tasks.length :=
    (List.getElem?_eq_some_iff.mp foundNext).1
  by_contra running
  rcases supervised.unfinished handle previous found running with
    held | ⟨snapshot, waiting⟩
  · have newest := (supervised.held handle held).1
    omega
  · have newest := (supervised.waited handle snapshot waiting).1.newest
    omega

/-- Generations run one after another, and one that was told to stop is
followed by one for another configuration. -/
theorem generations_alternate
    (execution : (daemon interface parse display).Execution log state) :
    (∀ (first second : Nat) (earlier later : GenerationTask),
        state.tasks[first]? = some earlier →
        state.tasks[second]? = some later →
        first < second → earlier.phase = .finished) ∧
      ∀ (handle : Nat) (previous next : GenerationTask),
        state.tasks[handle]? = some previous →
        state.tasks[handle + 1]? = some next →
        previous.cancelled = true →
        ¬SameConfiguration display previous.snapshot next.snapshot := by
  have supervised := supervised_of_execution execution
  constructor
  · intro first second earlier later found foundLater before
    have bound : second < state.tasks.length :=
      (List.getElem?_eq_some_iff.mp foundLater).1
    have foundNext :
        state.tasks[first + 1]? = some state.tasks[first + 1] :=
      List.getElem?_eq_getElem (by omega)
    exact finished_of_next supervised found foundNext
  · intro handle previous next found foundNext stopped same
    apply supervised.changed handle previous next found foundNext stopped
    exact generationKey_eq_iff.mpr same

/-- Outside of a replacement, the newest generation is one for the
configuration that was read last.  It has not been told to stop, and the loop
gives it up only after it has finished. -/
theorem newest_generation_follows_interface
    (execution : (daemon interface parse display).Execution log state)
    (settled : state.Settled) {snapshot : WireguardSnapshot}
    (read : lastRead log = some snapshot) :
    ∃ task, state.tasks.getLast? = some task ∧
      task.cancelled = false ∧
      SameConfiguration display task.snapshot snapshot ∧
      (state.generation = none → task.phase = .finished) := by
  have supervised := supervised_of_execution execution
  have nonempty : state.tasks ≠ [] := by
    apply supervised.started settled
    rw [read]
    rfl
  have last := List.getLast?_eq_some_getLast nonempty
  obtain ⟨uncancelled, sameKey⟩ := supervised.newest settled _ last
  refine ⟨_, last, uncancelled, ?_, ?_⟩
  · rw [read, Option.map_some] at sameKey
    exact generationKey_eq_iff.mp (Option.some.inj sameKey).symm
  · intro given
    rw [List.getLast?_eq_getElem?] at last
    exact finished_of_settled supervised settled given last

/-- A second peer is added while a generation runs. -/
def peerAdded : List DaemonEvent :=
  [.read (showTool displayNine fun _ => deviceBefore), .check, .wake false,
    .read (showTool displayNine fun _ => deviceAfter), .advances 0 .pausing,
    .advances 0 .finished, .replaced, .check]

/-- The daemon of the example. -/
def daemonNine : Machine Daemon DaemonEvent (Option WireguardSnapshot) :=
  daemon "wg0" parseNine fun network => String.ofList (displayNine network)

theorem peerAdded_execution :
    ∃ log state,
      daemonNine.Execution log state ∧
        (state.tasks, state.phase, lastRead log) =
          ([⟨deviceBefore, true, .finished⟩, ⟨deviceAfter, false, .running⟩],
            .sleeping, some deviceAfter) := by
  have ran :
      (daemonNine.run new peerAdded).map
          (fun run => (run.2.tasks, run.2.phase, lastRead run.1)) =
        some
          ([⟨deviceBefore, true, .finished⟩, ⟨deviceAfter, false, .running⟩],
            .sleeping, some deviceAfter) := by
    decide +kernel
  exact Machine.exists_execution_of_run rfl ran

/-- The generation for one peer is followed by one for two. -/
theorem generations_alternate_peerAdded :
    (∃ log state,
      daemonNine.Execution log state ∧
        state.tasks =
          [⟨deviceBefore, true, .finished⟩,
            ⟨deviceAfter, false, .running⟩]) ∧
      ¬SameConfiguration (fun network => String.ofList (displayNine network))
        deviceBefore deviceAfter := by
  obtain ⟨log, state, execution, observed⟩ := peerAdded_execution
  have tasks := congrArg Prod.fst observed
  refine ⟨⟨log, state, execution, tasks⟩, ?_⟩
  have parts := (generations_alternate execution).2 0
  simp only at tasks
  rw [tasks] at parts
  exact parts _ _ rfl rfl rfl

/-- After the change the newest generation is for the new configuration. -/
theorem newest_generation_follows_interface_peerAdded :
    ∃ log state task,
      daemonNine.Execution log state ∧
        lastRead log = some deviceAfter ∧
        state.tasks.getLast? = some task ∧
        SameConfiguration (fun network => String.ofList (displayNine network))
          task.snapshot deviceAfter := by
  obtain ⟨log, state, execution, observed⟩ := peerAdded_execution
  have phase := congrArg (fun seen => seen.2.1) observed
  have read := congrArg (fun seen => seen.2.2) observed
  simp only at phase read
  have settled : state.Settled := by
    intro old snapshot waiting
    rw [phase] at waiting
    cases waiting
  obtain ⟨task, last, _, same, _⟩ :=
    newest_generation_follows_interface execution settled read
  exact ⟨log, state, task, execution, read, last, same⟩

end Daemon

end WgLink
