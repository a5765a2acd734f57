import Mathlib.Algebra.Order.BigOperators.Group.List
import WgLink.SystemRuns

/-!
# Deadlock of the controller and the device

The loop handles no event while it is inside a call of the device, and the
device handles no command while it waits for room in the event queue.  What
keeps the two apart is the load of the event queue: the events in it and those
that the device may still have to send in the branch it is in.
-/

namespace WgLink

open WgLink.Library

namespace DeviceAction

/-- The most events that an action can lead to. -/
def load : DeviceAction → Nat
  | .emit _ | .transmit _ _ _ | .initiate _ _ _ | .tend _ => 1
  | .inject _ | .reply _ => 0

end DeviceAction

/-- The most events that the branch of the device can still send. -/
def DeviceTask.load (self : DeviceTask) : Nat :=
  (self.pending.map DeviceAction.load).sum

theorem DeviceTask.load_eq
    {self : DeviceTask} {action : DeviceAction} {rest : List DeviceAction}
    (first : self.pending = action :: rest) :
    self.load = action.load + (rest.map DeviceAction.load).sum := by
  simp [DeviceTask.load, first]

/-- Going on with a branch adds no load. -/
theorem DeviceTask.Turn.load_le
    {self next : DeviceTask} {command : Option DeviceCommand}
    {effect : DeviceTask.DeviceEffect}
    (turn : self.Turn command next effect) (busy : self.pending ≠ []) :
    effect.events.length + next.load ≤ self.load := by
  cases turn with
  | ignored session source datagram idle =>
      exact absurd idle busy
  | unrouted idle =>
      exact absurd idle busy
  | missing destination idle =>
      exact absurd idle busy
  | served session peerKey packets rest serves =>
      rcases serves with ⟨idle, _⟩ | first
      · exact absurd idle busy
      · rw [DeviceTask.load_eq first]
        simp [DeviceTask.load, DeviceAction.load, DeviceEffect.events]
  | failed session rest origin =>
      rcases origin with ⟨⟨idle, _⟩ | first, _⟩ | ⟨peerKey, packets, first⟩
      · exact absurd idle busy
      · rw [DeviceTask.load_eq first]
        simp [DeviceTask.load, DeviceTask.failSession, DeviceAction.load,
          DeviceEffect.events]
      · rw [DeviceTask.load_eq first]
        simp [DeviceTask.load, DeviceTask.failSession, DeviceAction.load,
          DeviceEffect.events]
  | preparing session remotePublicKey packets idle =>
      exact absurd idle busy
  | unprepared session remotePublicKey error idle =>
      exact absurd idle busy
  | received session source datagram results runtime output idle =>
      exact absurd idle busy
  | removed session idle =>
      exact absurd idle busy
  | ticked order idle =>
      exact absurd idle busy
  | emitted event rest first =>
      rw [DeviceTask.load_eq first]
      simp [DeviceTask.load, DeviceAction.load, DeviceEffect.events]
  | dropped action rest first spent =>
      rw [DeviceTask.load_eq first]
      simp [DeviceTask.load, DeviceEffect.events]
  | transmitted session peerKey packet packets rest first =>
      rw [DeviceTask.load_eq first]
      simp [DeviceTask.load, DeviceAction.load, DeviceEffect.events]
  | initiated session runtime packet packets rest first =>
      rw [DeviceTask.load_eq first]
      simp [DeviceTask.load, DeviceAction.load, DeviceEffect.events]
  | inserted session runtime rest first =>
      rw [DeviceTask.load_eq first]
      simp [DeviceTask.load, DeviceAction.load, DeviceEffect.events]
  | refused session runtime packets rest first =>
      rw [DeviceTask.load_eq first]
      simp [DeviceTask.load, DeviceAction.load, DeviceEffect.events]
  | replied result rest first =>
      rw [DeviceTask.load_eq first]
      simp [DeviceTask.load, DeviceAction.load, DeviceEffect.events]

namespace System

variable {P : Type}

/-- The events queued or still to come from the branch of the device. -/
def load (self : System P) : Nat :=
  self.events.items.length + self.device.load

/-- The loop cannot go on before the device does. -/
def ControllerBlocked (self : System P) : Prop :=
  match self.node.phase with
  | .sending (_ :: _) | .preparing _ _ => self.commands.Full
  | .awaiting _ => self.reply = none
  | .sending [] | .selecting | .stopped _ => False

/-- The device waits for room in the event queue. -/
def DeviceBlocked (self : System P) : Prop :=
  match self.device.pending with
  | .emit _ :: _ => self.events.Full
  | _ => False

def Deadlocked (self : System P) : Prop :=
  self.ControllerBlocked ∧ self.DeviceBlocked

/-- The loop is in a call that the device has to serve before the call can
end: a `prepare` without response, or commands that do not all fit. -/
def InCall (self : System P) : Prop :=
  match self.node.phase with
  | .preparing _ _ => True
  | .awaiting _ => self.reply = none
  | .sending commands =>
      queueCapacity < self.commands.items.length + commands.length
  | .selecting | .stopped _ => False

/-- The steps in which the loop takes an arm, or the device something new. -/
def Chooses (input : SystemInput) : Prop :=
  (∃ snapshot now order, input = .select snapshot now order) ∨ TakesUp input

/-- While the loop is in a call, all events of the device's branch fit. -/
def EventsFit (self : System P) : Prop :=
  self.InCall → self.load ≤ queueCapacity

theorem EventsFit.not_deadlocked
    {self : System P} (fit : self.EventsFit) : ¬ self.Deadlocked := by
  intro deadlocked
  obtain ⟨controller, device⟩ := deadlocked
  have called : self.InCall := by
    unfold ControllerBlocked at controller
    unfold InCall
    cases phase : self.node.phase with
    | selecting =>
        simp [phase] at controller
    | sending commands =>
        cases commands with
        | nil =>
            simp [phase] at controller
        | cons command rest =>
            simp only [phase, Channel.Full] at controller
            simp only [List.length_cons]
            omega
    | preparing session command =>
        trivial
    | awaiting session =>
        simpa [phase] using controller
    | stopped error =>
        simp [phase] at controller
  have bound := fit called
  unfold DeviceBlocked at device
  split at device
  · rename_i event rest first
    have loaded := DeviceTask.load_eq first
    unfold Channel.Full at device
    simp only [load, loaded, DeviceAction.load] at bound
    omega
  · exact device

/-- A call that goes on after a step of the device went on before. -/
theorem InCall.of_served
    {self next : System P} {command : Option DeviceCommand}
    {effect : DeviceTask.DeviceEffect}
    (sameNode : next.node = self.node)
    (taken : self.commands.items = command.toList ++ next.commands.items)
    (answer : next.reply = effect.answer self.reply)
    (called : next.InCall) : self.InCall := by
  unfold InCall at called ⊢
  rw [sameNode] at called
  split
  · trivial
  · rename_i session awaiting
    simp only [awaiting] at called
    rw [called] at answer
    cases effect with
    | reply result =>
        cases answer
    | silent =>
        exact answer.symm
    | event event =>
        exact answer.symm
    | packet packet =>
        exact answer.symm
  · rename_i commands sending
    simp only [sending] at called
    rw [taken, List.length_append]
    omega
  · rename_i selecting
    simp [selecting] at called
  · rename_i error stopped
    simp [stopped] at called

variable [PolicyRules P]

/-- A call that goes on after a command was sent went on before. -/
theorem InCall.of_sent
    {self next : System P} {command : DeviceCommand}
    (turn : self.node.Turn .sent next.node (some command))
    (queued : next.commands.items = self.commands.items ++ [command])
    (called : next.InCall) : self.InCall := by
  unfold InCall at called ⊢
  rcases turn.of_sent with
    ⟨first, rest, sending, _, reached⟩ | ⟨session, first, preparing, _⟩
  · rw [reached] at called
    rw [sending]
    cases rest with
    | nil =>
        simp [LoopPhase.ofCommands] at called
    | cons second others =>
        simp only [Node.phase_withManager, LoopPhase.ofCommands, queued,
          List.length_append, List.length_cons, List.length_nil] at called
        simp only [List.length_cons]
        omega
  · rw [preparing]
    trivial

theorem EventsFit.step
    {self next : System P} {input : SystemInput}
    {output : Option RelayPacket}
    (fit : self.EventsFit)
    (chosen : Chooses input → next.EventsFit)
    (turn : self.Turn input next output) :
    next.EventsFit := by
  cases turn with
  | arrived sameNode sameDevice sameCommands sameEvents sameReply =>
      unfold EventsFit InCall load at fit ⊢
      rw [sameNode, sameDevice, sameCommands, sameEvents, sameReply]
      exact fit
  | selected snapshot now order arm popped isSelect =>
      exact chosen (Or.inl ⟨snapshot, now, order, isSelect⟩)
  | sent command nodeTurn sameDevice queued sameEvents sameReply =>
      intro called
      have bound := fit (InCall.of_sent nodeTurn queued called)
      unfold load at bound ⊢
      rw [sameDevice, sameEvents]
      exact bound
  | answered result present nodeTurn sameDevice sameCommands sameEvents =>
      intro called
      have selecting : next.node.phase = .selecting := by
        obtain ⟨session, _, ⟨_, reached⟩ | ⟨_, reached⟩⟩ :=
          nodeTurn.of_replied
        all_goals simp [reached]
      simp [InCall, selecting] at called
  | served command effect origin sameNode deviceTurn taken events answer =>
      rcases origin with takes | busy
      · exact chosen (Or.inr takes)
      · intro called
        have bound := fit (InCall.of_served sameNode taken answer called)
        have lighter := deviceTurn.load_le busy
        unfold load at bound ⊢
        rw [events, List.length_append]
        omega

variable [LawfulPolicyRules P]

theorem eventsFit_of_execution
    {log : List (SystemRecord P)} {system : System P}
    (execution : machine.Execution log system)
    (fits : ∀ record ∈ log, Chooses record.input → record.after.EventsFit) :
    system.EventsFit := by
  refine @Machine.Execution.invariant _ _ _ machine
    (fun _ current => current.EventsFit)
    (fun record => Chooses record.input → record.after.EventsFit)
    ?_ ?_ log system execution fits
  · intro system starts called
    obtain ⟨key, policy, snapshot, _, rfl⟩ := starts
    cases called
  · intro _ record fit chosen taken
    exact fit.step chosen (turn_of_takes taken)

/-- The pair never deadlocks in a run in which, whenever the loop takes an arm
or the device something new and the loop is then in a call of the device, the
events of the branch fit into the event queue. -/
theorem not_deadlocked_of_eventsFit
    {log : List (SystemRecord P)} {system : System P}
    (execution : machine.Execution log system)
    (fits : ∀ record ∈ log, Chooses record.input → record.after.EventsFit) :
    ¬ system.Deadlocked :=
  (eventsFit_of_execution execution fits).not_deadlocked

/-! ## A deadlock -/

/-- The test system with events for packets without a route. -/
def flooded (count : Nat) (bounded : count ≤ queueCapacity) :
    System AtomicRouteManager.MockPolicy :=
  { testSystem with
    events :=
      ⟨List.replicate count (.missingRoute (.v4 0xC6336407#32)), by
        simpa using bounded⟩ }

/-- Packets that reach the device before any route is there fill the event
queue while the loop is busy elsewhere. -/
theorem flooded_reachable (count : Nat) (bounded : count ≤ queueCapacity) :
    ∃ log, machine.Execution log (flooded count bounded) := by
  induction count with
  | zero =>
      exact ⟨[], .start testSystem_starts⟩
  | succ count inductionHypothesis =>
      have space : count < queueCapacity := bounded
      obtain ⟨log, execution⟩ := inductionHypothesis (Nat.le_of_lt space)
      let waiting : System AtomicRouteManager.MockPolicy :=
        { flooded count (Nat.le_of_lt space) with
          device :=
            ⟨∅, [.emit (.missingRoute (.v4 0xC6336407#32))]⟩ }
      have taken :
          machine.step (flooded count (Nat.le_of_lt space))
            (.tunPacket testPacket [] []) = some (waiting, none) := by
        rfl
      have sent :
          machine.step waiting (.act [] true) =
            some (flooded (count + 1) bounded, none) := by
        have room :
            (flooded count (Nat.le_of_lt space)).events.items.length <
              queueCapacity := by
          simpa [flooded] using space
        simp only [machine, step, DeviceTask.act, emit, waiting, Channel.send]
        rw [dif_pos room]
        simp [flooded, List.replicate_succ', testSystem, new, DeviceTask.new]
      exact ⟨_, (execution.extend taken).extend sent⟩

/-- A ticket arrives, and the device reports that it has started the
handshake. -/
def deadlockingInputs : List SystemInput :=
  [.controlArrives ⟨.v4 0x0A000002#32, .ticket (testTicket 1)⟩,
    .select ⟨"recipient", [testPeer]⟩ 1001 [],
    .send,
    .takeCommand [.writeToNetwork [1, 0, 0, 0]],
    .act [] true,
    .act [] true]

theorem deadlock_reachable :
    ∃ log system,
      machine.Execution log
        (system : System AtomicRouteManager.MockPolicy) ∧
      system.Deadlocked := by
  obtain ⟨log, execution⟩ :=
    flooded_reachable queueCapacity (Nat.le_refl queueCapacity)
  have ran :
      (machine.run (flooded queueCapacity (Nat.le_refl queueCapacity))
          deadlockingInputs).map
        (fun result =>
          decide
            (result.2.node.phase = .awaiting (testTicket 1).session ∧
              result.2.reply = none ∧
              result.2.device.pending =
                [.emit (.handshakeStarted (testTicket 1).session),
                  .reply (.ok ())] ∧
              result.2.events.items.length = queueCapacity)) =
        some true := by
    decide +kernel
  obtain ⟨⟨newer, system⟩, completed, blocked⟩ :=
    Option.map_eq_some_iff.mp ran
  obtain ⟨awaiting, unanswered, pending, full⟩ := of_decide_eq_true blocked
  simp only at awaiting unanswered pending full
  refine ⟨_, system,
    Machine.execution_append_of_run execution completed, ?_, ?_⟩
  · simp only [ControllerBlocked, awaiting]
    exact unanswered
  · simp only [DeviceBlocked, pending]
    exact full

/-- The same ticket reaches a device whose event queue is empty. -/
theorem not_deadlocked_of_empty_queue :
    ∃ log system,
      machine.Execution log
        (system : System AtomicRouteManager.MockPolicy) ∧
      system.node.phase = .awaiting (testTicket 1).session ∧
      ¬ system.Deadlocked := by
  have ran :
      (machine.run testSystem deadlockingInputs).map
        (fun result =>
          (result.1.all fun record => record.after.load ≤ queueCapacity,
            result.2.node.phase)) =
        some (true, .awaiting (testTicket 1).session) := by
    decide
  obtain ⟨log, system, execution, observed⟩ :=
    Machine.exists_execution_of_run testSystem_starts ran
  simp only [Prod.mk.injEq, List.all_eq_true, decide_eq_true_eq] at observed
  refine ⟨log, system, execution, observed.2,
    not_deadlocked_of_eventsFit execution ?_⟩
  intro record member _ _
  exact observed.1 record member

end System

end WgLink
