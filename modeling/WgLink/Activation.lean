import WgLink.Tunnels

/-!
# Activation and the tunnel that authenticated

An `AuthenticatedHandshake` event names its session only.  When the session is
retired while the event waits and its ticket is then accepted again, the event
activates a route to a tunnel that has not completed any handshake.
-/

namespace WgLink.System

open WgLink.Library

variable {P : Type}

/-- Events about tracked sessions are about the tunnel that the device holds,
if it holds one. -/
def Fresh (self : System P) : Prop :=
  ∀ session,
    self.Tracks session →
    self.Announced (.authenticatedHandshake session) →
    ¬ self.Preparing session ∧
      ∀ runtime,
        self.device.sessions.lookup session = some runtime →
        runtime.authenticated = true

/-- In this step a datagram completes a handshake of the session. -/
def Authenticates (record : SystemRecord P) (session : SessionKey) : Prop :=
  record.before.device.pending = [] ∧
    .emit (.authenticatedHandshake session) ∈ record.after.device.pending

/-- A session is accepted only when no handshake of an earlier tunnel of that
session is still announced, and no earlier tunnel completes a handshake while
the new one waits to be set up. -/
structure KeepsEventsFresh (record : SystemRecord P) : Prop where
  accepted :
    ∀ ticket,
      record.before.AcceptsTicket record.input ticket →
      ¬ record.before.Announced (.authenticatedHandshake ticket.session)
  authenticated :
    ∀ session,
      Authenticates record session → ¬ record.before.Preparing session

/-- A sufficient condition for `KeepsEventsFresh` that can be evaluated. -/
def keepsEventsFresh (record : SystemRecord P) : Bool :=
  (record.before.control.items.isEmpty ||
    (record.before.events.items.all (fun event =>
        event matches .handshakeStarted _) &&
      record.before.device.pending.isEmpty)) &&
  (record.after.device.pending.all (fun action =>
      !(action matches .emit (.authenticatedHandshake _))) ||
    (record.before.outstanding.all (fun command =>
        !(command matches .prepare _ _)) &&
      record.before.device.pending.isEmpty))

theorem keepsEventsFresh_sound
    {record : SystemRecord P} (checked : keepsEventsFresh record = true) :
    KeepsEventsFresh record := by
  simp only [keepsEventsFresh, Bool.and_eq_true, Bool.or_eq_true,
    List.isEmpty_iff, List.all_eq_true] at checked
  obtain ⟨accepting, authenticating⟩ := checked
  constructor
  · intro ticket accepts announced
    obtain ⟨snapshot, now, order, source, receivedAt, popped, sender, _,
      chosen, _⟩ := accepts
    rcases accepting with empty | ⟨started, idle⟩
    · rw [control_of_ready chosen] at empty
      cases empty
    · rcases announced with queued | pending
      · have impossible := started _ queued
        cases impossible
      · rw [idle] at pending
        cases pending
  · intro session fails preparing
    obtain ⟨_, reported⟩ := fails
    rcases authenticating with silent | ⟨unprepared, idle⟩
    · have impossible := silent _ reported
      cases impossible
    · rcases preparing with ⟨key, member⟩ | ⟨runtime, packets, member⟩
      · have impossible := unprepared _ member
        cases impossible
      · rw [idle] at member
        cases member

/-- An event that is announced after a step of the device was announced before,
or comes from the branch that has just begun. -/
theorem announced_of_served
    {self next : System P} {command : Option DeviceCommand}
    {effect : DeviceTask.DeviceEffect} {session : SessionKey}
    (turn : self.device.Turn command next.device effect)
    (events : next.events.items = self.events.items ++ effect.events)
    (announced : next.Announced (.authenticatedHandshake session)) :
    self.Announced (.authenticatedHandshake session) ∨
      (self.device.pending = [] ∧
        .emit (.authenticatedHandshake session) ∈ next.device.pending) := by
  rcases announced with queued | pending
  · rw [events, List.mem_append] at queued
    rcases queued with earlier | sent
    · exact Or.inl (Or.inl earlier)
    · exact Or.inl (Or.inr (turn.event_pending sent))
  · rcases turn.authenticated_pending pending with earlier | idle
    · exact Or.inl (Or.inr earlier)
    · exact Or.inr ⟨idle, pending⟩

/-- A tunnel that has authenticated stays so until it is replaced. -/
theorem authenticated_of_served
    {self next : System P} {command : Option DeviceCommand}
    {effect : DeviceTask.DeviceEffect} {session : SessionKey}
    (turn : self.device.Turn command next.device effect)
    (settled : ¬ self.Preparing session)
    (held :
      ∀ runtime,
        self.device.sessions.lookup session = some runtime →
        runtime.authenticated = true)
    {runtime : SessionRuntime}
    (present : next.device.sessions.lookup session = some runtime) :
    runtime.authenticated = true := by
  rcases turn.sessions_cases with
    same | ⟨other, erased, _⟩ | ⟨other, fresh, rest, inserted, first⟩ |
      ⟨other, old, output, found, received⟩
  · rw [same] at present
    exact held runtime present
  · rw [erased, HashMap.lookup_erase_eq_ite] at present
    split at present
    · cases present
    · exact held runtime present
  · rw [inserted, HashMap.lookup_insert_eq_ite] at present
    split at present
    · rename_i sameSession
      subst sameSession
      exact absurd (Or.inr ⟨fresh, [], by simp [first]⟩) settled
    · exact held runtime present
  · rw [received] at present
    simp only [DeviceTask.received, HashMap.lookup_insert_eq_ite] at present
    split at present
    · rename_i sameSession
      subst sameSession
      cases present
      simp [held old found]
    · exact held runtime present

variable [PolicyRules P]

/-- The step hands the manager a handshake that activates a route for the
session. -/
def Activates (record : SystemRecord P) (session : SessionKey) : Prop :=
  ∃ snapshot now order popped,
    record.input = .select snapshot now order ∧
    record.before.ready snapshot now order =
      some (.event (.authenticatedHandshake session) now order, popped) ∧
    (record.before.node.manager.authenticatedHandshake session now).2 =
      .ok true

/-- The step activates a route only to a tunnel that has authenticated. -/
def ActivatesOwnTunnel (record : SystemRecord P) : Prop :=
  ∀ session,
    Activates record session →
    ∀ runtime,
      record.before.device.sessions.lookup session = some runtime →
      runtime.authenticated = true

/-- The steps of the loop keep `Fresh`, and so do arrivals. -/
theorem Fresh.of_same_device
    {record : SystemRecord P}
    (fresh : record.before.Fresh) (keeps : KeepsEventsFresh record)
    (turn :
      record.before.Turn record.input record.after record.output)
    (sameDevice : record.after.device = record.before.device)
    (fewer :
      ∀ event ∈ record.after.events.items,
        event ∈ record.before.events.items) :
    record.after.Fresh := by
  intro session tracked announced
  have earlier :
      record.before.Announced (.authenticatedHandshake session) := by
    rcases announced with queued | pending
    · exact Or.inl (fewer _ queued)
    · rw [sameDevice] at pending
      exact Or.inr pending
  have notAccepted :
      ¬ ∃ ticket,
        record.before.AcceptsTicket record.input ticket ∧
          ticket.session = session := by
    intro accepted
    obtain ⟨ticket, accepts, rfl⟩ := accepted
    exact keeps.accepted ticket accepts earlier
  obtain ⟨settled, held⟩ :=
    fresh session ((turn.tracks tracked).resolve_right notAccepted) earlier
  constructor
  · intro waiting
    exact settled ((turn.preparing waiting).resolve_right notAccepted)
  · rw [sameDevice]
    exact held

theorem Fresh.step
    {record : SystemRecord P}
    (fresh : record.before.Fresh) (keeps : KeepsEventsFresh record)
    (turn :
      record.before.Turn record.input record.after record.output) :
    record.after.Fresh := by
  cases turn.cases_device with
  | inl loop =>
      exact fresh.of_same_device keeps turn loop.1 loop.2
  | inr device =>
      obtain ⟨command, effect, sameNode, deviceTurn, taken, events⟩ := device
      intro session tracked announced
      have trackedBefore : record.before.Tracks session := by
        unfold Tracks at tracked ⊢
        rw [sameNode] at tracked
        exact tracked
      rcases announced_of_served deviceTurn events announced with
        earlier | authenticates
      · obtain ⟨settled, held⟩ := fresh session trackedBefore earlier
        constructor
        · intro waiting
          exact settled
            (preparing_of_served sameNode deviceTurn taken waiting)
        · intro runtime present
          exact authenticated_of_served deviceTurn settled held present
      · constructor
        · intro waiting
          exact keeps.authenticated session authenticates
            (preparing_of_served sameNode deviceTurn taken waiting)
        · intro runtime present
          exact deviceTurn.authenticated_runtime authenticates.1
            authenticates.2 present

variable [LawfulPolicyRules P]

theorem fresh_of_execution
    {log : List (SystemRecord P)} {system : System P}
    (execution : machine.Execution log system)
    (keeps : ∀ record ∈ log, KeepsEventsFresh record) :
    system.Fresh := by
  refine @Machine.Execution.invariant _ _ _ machine
    (fun _ current => current.Fresh) KeepsEventsFresh
    ?_ ?_ log system execution keeps
  · intro system starts session tracked
    obtain ⟨key, policy, snapshot, _, rfl⟩ := starts
    exact absurd rfl tracked
  · intro _ record fresh kept taken
    exact fresh.step kept (turn_of_takes taken)

/-- Routes are activated only to tunnels that have authenticated, in every run
whose steps keep the events fresh. -/
theorem activates_own_tunnel
    {log : List (SystemRecord P)} {system : System P}
    (execution : machine.Execution log system)
    (keeps : ∀ record ∈ log, KeepsEventsFresh record) :
    ∀ record ∈ log, ActivatesOwnTunnel record := by
  intro record member session activates runtime present
  obtain ⟨snapshot, now, order, popped, _, chosen, activated⟩ := activates
  obtain ⟨older, within, earlier, _⟩ := execution.earlier_of_mem member
  have fresh : record.before.Fresh :=
    fresh_of_execution earlier fun past pastMember =>
      keeps past (within pastMember)
  have tracked : record.before.Tracks session := by
    intro absent
    rw [ShortcutManager.authenticatedHandshake, absent] at activated
    cases activated
  have announced :
      record.before.Announced (.authenticatedHandshake session) := by
    have events := (ready_cases chosen).2.2.2.1
    exact Or.inl (by simp [events, takenEvents])
  exact (fresh session tracked announced).2 runtime present

/-! ## A stale handshake -/

/-- The first session completes another handshake before it is retired, and its
event is handled after the ticket was accepted again. -/
def staleInputs : List SystemInput :=
  renewalInputs ++ authenticateInputs (testTicket 1).session ++
    replayInputs ++
    [turnInput [(testTicket 1).session, (testTicket 2).session]]

theorem stale_handshake_activates :
    ∃ log system,
      machine.Execution log
        (system : System AtomicRouteManager.MockPolicy) ∧
      ¬ ∀ record ∈ log, ActivatesOwnTunnel record := by
  have ran :
      (machine.run testSystem staleInputs).map
        (fun result =>
          result.1.head?.any fun record =>
            decide
              (record.input =
                  turnInput
                    [(testTicket 1).session, (testTicket 2).session] ∧
                (record.before.ready ⟨"recipient", [testPeer]⟩ 1002
                    [(testTicket 1).session,
                      (testTicket 2).session]).map Prod.fst =
                  some
                    (.event (.authenticatedHandshake (testTicket 1).session)
                      1002
                      [(testTicket 1).session, (testTicket 2).session]) ∧
                (record.before.node.manager.authenticatedHandshake
                    (testTicket 1).session 1002).2 = .ok true ∧
                record.before.device.sessions.lookup
                    (testTicket 1).session =
                  some ⟨"remote", false⟩)) =
        some true := by
    decide +kernel
  obtain ⟨log, system, execution, observed⟩ :=
    Machine.exists_execution_of_run testSystem_starts ran
  refine ⟨log, system, execution, ?_⟩
  intro own
  simp only [Option.any_eq_true, decide_eq_true_eq] at observed
  obtain ⟨record, newest, isSelect, chosen, activated, present⟩ := observed
  obtain ⟨⟨arm, popped⟩, ready, isEvent⟩ := Option.map_eq_some_iff.mp chosen
  subst isEvent
  have authenticated :=
    own record (List.mem_of_mem_head? newest) (testTicket 1).session
      ⟨_, _, _, popped, isSelect, ready, activated⟩ _ present
  cases authenticated

/-- A session is established, authenticates and is activated. -/
def activationInputs : List SystemInput :=
  establishInputs (testTicket 1) ++ [turnInput []] ++
    authenticateInputs (testTicket 1).session ++
    [turnInput [(testTicket 1).session]]

theorem activates_own_tunnel_once :
    ∃ log system,
      machine.Execution log
        (system : System AtomicRouteManager.MockPolicy) ∧
      system.node.manager.activeRoutes.lookup (testTicket 1).selector =
        some (testTicket 1).session ∧
      ∀ record ∈ log, ActivatesOwnTunnel record := by
  have ran :
      (machine.run testSystem activationInputs).map
        (fun result =>
          (result.1.all keepsEventsFresh,
            result.2.node.manager.activeRoutes.lookup
              (testTicket 1).selector)) =
        some (true, some (testTicket 1).session) := by
    decide +kernel
  obtain ⟨log, system, execution, observed⟩ :=
    Machine.exists_execution_of_run testSystem_starts ran
  simp only [Prod.mk.injEq, List.all_eq_true] at observed
  refine ⟨log, system, execution, observed.2,
    activates_own_tunnel execution ?_⟩
  intro record member
  exact keepsEventsFresh_sound (observed.1 record member)

end WgLink.System
