import WgLink.Handshakes
import WgLink.Shortcut.CutOver

/-!
# One endpoint of a shortcut

An endpoint whose sessions are all for one selector, without tickets, expiry or
failures.  A session is dropped only when another one takes its place, and a
handshake that the device has reported is activated in the end.
-/

namespace WgLink

open WgLink.Library

theorem Node.Turn.localPublicKey
    {R : Type} [RouteManager R] {self next : Node R} {arm : NodeInput}
    {output : Option DeviceCommand} (turn : self.Turn arm next output) :
    next.controller.localPublicKey = self.controller.localPublicKey := by
  cases turn <;> rfl

theorem LoopPhase.not_calling_removes (sessions : List SessionKey) :
    ¬ (LoopPhase.ofCommands (sessions.map .remove)).Calling := by
  cases sessions <;> exact id

namespace System

variable {P : Type}

/-- The inputs of an endpoint between two valid tunnels, before the deadline. -/
def honest (self : System P) (deadline : UInt64) : SystemInput → Bool
  | .select _ now _ => now < deadline
  | .send | .timerTick _ => true
  | .takeCommand results =>
      match self.commands.items with
      | .receive _ _ datagram :: _ => answersValid datagram results
      | _ => true
  | .act results accepted => accepted && actsUnasked results
  | .tunPacket _ _ results => actsUnasked results
  | .pollTick | .controlArrives _ | .inboundArrives _ | .takeReply => false

/-- An endpoint that has its tickets and meets neither expiry nor failures. -/
structure Endpoint
    (system : System P) (remote : String) (selector : IpNet)
    (deadline : UInt64) : Prop where
  agrees : system.Agrees
  preparation : system.Preparation
  calm : ¬ system.node.phase.Calling
  sound : ∀ session, ¬ system.Announced (.sessionFailed session)
  control : system.control.items = []
  poll : system.pollReady = false
  keys :
    ∀ session runtime,
      system.device.sessions.lookup session = some runtime →
      runtime.remotePublicKey = remote
  manager : system.node.manager.OneSelector selector deadline

/-- The session has authenticated here, or is gone. -/
def Notified (self : System P) (session : SessionKey) : Prop :=
  ¬ self.Tracks session ∨
    self.node.manager.phase session = some .active ∨
    self.Announced (.authenticatedHandshake session)

/-- A handshake response of the session is on its way to the device. -/
def Receiving (self : System P) (remote : String) (session : SessionKey) :
    Prop :=
  (∃ packet ∈ self.inbound.items,
    packet.sourceKey = remote ∧
    packet.channel = .shortcutWireGuard session ∧
    IsResponse packet.payload) ∨
  ∃ datagram,
    .receive session remote datagram ∈ self.outstanding ∧
    IsResponse datagram

/-- The step hands the manager a handshake of the session. -/
def HandlesHandshake
    (self : System P) (input : SystemInput) (session : SessionKey) : Prop :=
  ∃ snapshot now order popped,
    input = .select snapshot now order ∧
    self.ready snapshot now order =
      some (.event (.authenticatedHandshake session) now order, popped)

/-- Another session has the route that the session would take. -/
def ReplacesRoute (self : System P) (session : SessionKey) : Prop :=
  ∃ managed previous,
    self.node.manager.sessions.lookup session = some managed ∧
    self.node.manager.activeRoutes.lookup managed.ticket.selector =
      some previous ∧
    previous ≠ session

/-- What a step of an endpoint does to handshakes. -/
structure Progress
    (before after : System P) (input : SystemInput)
    (output : Option RelayPacket) (remote : String) : Prop where
  notified :
    ∀ session, before.Notified session → after.Notified session
  reached :
    ∀ session,
      after.Notified session →
      before.Notified session ∨ after.device.Answering session ∨
        before.Receiving remote session
  receiving :
    ∀ session,
      before.Receiving remote session →
      after.Receiving remote session ∨ after.Notified session
  received :
    ∀ session,
      after.Receiving remote session → before.Receiving remote session
  answering :
    ∀ session,
      before.device.Answering session →
      after.device.Answering session ∨
        ∃ packet, output = some packet ∧ packet.Responds session
  answered :
    ∀ session,
      after.device.Answering session →
      before.device.Answering session ∨ after.Notified session
  sent :
    ∀ session packet,
      output = some packet →
      packet.Responds session →
      before.device.Answering session
  tracks : ∀ session, after.Tracks session → before.Tracks session
  dropped :
    ∀ session,
      before.Tracks session →
      ¬ after.Tracks session →
      ∃ other,
        other ≠ session ∧
        before.HandlesHandshake input other ∧
        before.ReplacesRoute other ∧
        after.Tracks other

/-- The loop leaves the device alone. -/
theorem Progress.of_loop
    {self next : System P} {input : SystemInput} {remote : String}
    (sameDevice : next.device = self.device)
    (notified :
      ∀ session, next.Notified session ↔ self.Notified session)
    (receiving :
      ∀ session,
        next.Receiving remote session ↔ self.Receiving remote session)
    (tracks : ∀ session, next.Tracks session → self.Tracks session)
    (dropped :
      ∀ session,
        self.Tracks session →
        ¬ next.Tracks session →
        ∃ other,
          other ≠ session ∧
          self.HandlesHandshake input other ∧
          self.ReplacesRoute other ∧
          next.Tracks other) :
    Progress self next input none remote where
  notified session earlier := (notified session).mpr earlier
  reached session later := Or.inl ((notified session).mp later)
  receiving session earlier := Or.inl ((receiving session).mpr earlier)
  received session later := (receiving session).mp later
  answering session earlier := Or.inl (sameDevice ▸ earlier)
  answered session later := Or.inl (sameDevice ▸ later)
  sent _ _ isOutput := by cases isOutput
  tracks := tracks
  dropped := dropped

namespace Endpoint

variable {self next : System P} {remote : String} {selector : IpNet}
  {deadline : UInt64}

/-- A session that the manager has is held by the device. -/
theorem held
    (endpoint : self.Endpoint remote selector deadline)
    {session : SessionKey} (tracked : self.Tracks session) :
    ∃ runtime, self.device.sessions.lookup session = some runtime := by
  obtain ⟨unprepared, free, _⟩ := endpoint.preparation.of_calm endpoint.calm
  have learnt : ¬ self.FailurePending session := by
    rw [failurePending_iff_of_calm endpoint.calm]
    exact endpoint.sound session
  have settled := (endpoint.agrees session).mpr ⟨tracked, learnt⟩
  by_contra absent
  have released : self.device.Holds session ↔ False := by
    refine iff_of_false ?_ id
    intro holds
    rcases holds with present | ⟨runtime, packets, member⟩
    · exact absent (Option.ne_none_iff_exists'.mp present)
    · exact (free _ member).1 session runtime packets rfl
  rw [settles_congr released] at settled
  exact not_settles_false (unprepared session) settled

/-- What a step of the device leaves alone. -/
structure Served
    (before after : System P) (command : Option DeviceCommand)
    (effect : DeviceTask.DeviceEffect) (output : Option RelayPacket) :
    Prop where
  node : after.node = before.node
  turn : before.device.Turn command after.device effect
  progress : before.device.Progress after.device command effect
  taken : before.commands.items = command.toList ++ after.commands.items
  events : after.events.items = before.events.items ++ effect.events
  output : output = effect.packet?
  inbound : after.inbound = before.inbound
  control : after.control = before.control
  poll : after.pollReady = before.pollReady

/-- A step of the device keeps an endpoint. -/
theorem of_served
    (endpoint : self.Endpoint remote selector deadline)
    {command : Option DeviceCommand} {effect : DeviceTask.DeviceEffect}
    {output : Option RelayPacket}
    (served : Served self next command effect output)
    (agrees : next.Agrees) (preparation : next.Preparation) :
    next.Endpoint remote selector deadline := by
  obtain ⟨_, free, _⟩ := endpoint.preparation.of_calm endpoint.calm
  refine ⟨agrees, preparation, served.node ▸ endpoint.calm, ?_,
    served.control ▸ endpoint.control, served.poll.trans endpoint.poll, ?_,
    served.node ▸ endpoint.manager⟩
  · intro session announced
    rcases announced with queued | pending
    · rw [served.events, List.mem_append] at queued
      rcases queued with earlier | sent
      · exact endpoint.sound session (Or.inl earlier)
      · exact endpoint.sound session (Or.inr (served.turn.event_pending sent))
    · exact endpoint.sound session
        (Or.inr (served.progress.sound session pending))
  · intro session runtime present
    rcases served.turn.sessions_cases with
      same | ⟨other, erased, _⟩ | ⟨other, fresh, rest, _, first⟩ |
        ⟨other, old, output, found, received⟩
    · rw [same] at present
      exact endpoint.keys session runtime present
    · rw [erased, HashMap.lookup_erase_eq_ite] at present
      split at present
      · cases present
      · exact endpoint.keys session runtime present
    · exact absurd rfl
        ((free _ (first ▸ List.mem_cons_self)).1 other fresh [])
    · rw [received] at present
      simp only [DeviceTask.received, HashMap.lookup_insert_eq_ite] at present
      split at present
      · cases present
        exact endpoint.keys other old found
      · exact endpoint.keys session runtime present

theorem Served.tracks
    {command : Option DeviceCommand} {effect : DeviceTask.DeviceEffect}
    {output : Option RelayPacket}
    (served : Served self next command effect output)
    (session : SessionKey) :
    next.Tracks session ↔ self.Tracks session := by
  simp [Tracks, served.node]

theorem Served.outstanding
    {command : Option DeviceCommand} {effect : DeviceTask.DeviceEffect}
    {output : Option RelayPacket}
    (served : Served self next command effect output) :
    self.outstanding = command.toList ++ next.outstanding := by
  simp [System.outstanding, served.taken, served.node]

/-- A step of the device does not lose a notification. -/
theorem Served.notified
    {command : Option DeviceCommand} {effect : DeviceTask.DeviceEffect}
    {output : Option RelayPacket}
    (served : Served self next command effect output)
    {session : SessionKey} (notified : self.Notified session) :
    next.Notified session := by
  rcases notified with gone | active | queued | pending
  · exact Or.inl fun tracked => gone ((served.tracks session).mp tracked)
  · exact Or.inr (Or.inl (by rw [served.node, active]))
  · exact Or.inr (Or.inr (Or.inl (by simp [served.events, queued])))
  · rcases served.turn.emit_kept pending with sent | still
    · exact Or.inr (Or.inr (Or.inl (by simp [served.events, sent])))
    · exact Or.inr (Or.inr (Or.inr still))

/-- Where a notification comes from. -/
theorem reached_of_served
    (endpoint : self.Endpoint remote selector deadline)
    {command : Option DeviceCommand} {effect : DeviceTask.DeviceEffect}
    {output : Option RelayPacket}
    (served : Served self next command effect output)
    {session : SessionKey} (notified : next.Notified session) :
    self.Notified session ∨ next.device.Answering session ∨
      self.Receiving remote session := by
  rcases notified with gone | active | queued | pending
  · exact Or.inl
      (Or.inl fun tracked => gone ((served.tracks session).mpr tracked))
  · rw [served.node] at active
    exact Or.inl (Or.inr (Or.inl active))
  · rw [served.events, List.mem_append] at queued
    rcases queued with earlier | sent
    · exact Or.inl (Or.inr (Or.inr (Or.inl earlier)))
    · exact Or.inl
        (Or.inr (Or.inr (Or.inr (served.turn.event_pending sent))))
  · rcases served.progress.reported session pending with
      earlier | answering | ⟨runtime, datagram, isReceive, present, response⟩
    · exact Or.inl (Or.inr (Or.inr (Or.inr earlier)))
    · exact Or.inr (Or.inl answering)
    · refine Or.inr (Or.inr (Or.inr ⟨datagram, ?_, response⟩))
      rw [endpoint.keys session runtime present] at isReceive
      simp [served.outstanding, isReceive]

/-- A response on its way into the device stays there or is noticed. -/
theorem receiving_of_served
    (endpoint : self.Endpoint remote selector deadline)
    {command : Option DeviceCommand} {effect : DeviceTask.DeviceEffect}
    {output : Option RelayPacket}
    (served : Served self next command effect output)
    {session : SessionKey} (receiving : self.Receiving remote session) :
    next.Receiving remote session ∨ next.Notified session := by
  rcases receiving with arriving | ⟨datagram, member, response⟩
  · rw [← served.inbound] at arriving
    exact Or.inl (Or.inl arriving)
  · rw [served.outstanding, List.mem_append] at member
    rcases member with isTaken | later
    · apply Or.inr
      by_cases tracked : self.Tracks session
      · obtain ⟨runtime, present⟩ := endpoint.held tracked
        have key := endpoint.keys session runtime present
        have isReceive :
            command =
              some (.receive session runtime.remotePublicKey datagram) := by
          rw [key]
          simpa using isTaken
        exact Or.inr (Or.inr (Or.inr
          (served.progress.accepted session runtime datagram isReceive
            present response)))
      · exact Or.inl fun still => tracked ((served.tracks session).mp still)
    · exact Or.inl (Or.inr ⟨datagram, later, response⟩)

/-- A step of the device passes handshakes on. -/
theorem progress_of_served
    (endpoint : self.Endpoint remote selector deadline)
    {command : Option DeviceCommand} {effect : DeviceTask.DeviceEffect}
    {input : SystemInput} {output : Option RelayPacket}
    (served : Served self next command effect output) :
    Progress self next input output remote := by
  constructor
  · intro session notified
    exact served.notified notified
  · intro session notified
    exact reached_of_served endpoint served notified
  · intro session receiving
    exact receiving_of_served endpoint served receiving
  · intro session receiving
    rcases receiving with arriving | ⟨datagram, member, response⟩
    · rw [served.inbound] at arriving
      exact Or.inl arriving
    · exact Or.inr ⟨datagram, by simp [served.outstanding, member], response⟩
  · intro session answering
    rcases served.progress.answering session answering with
      still | ⟨packet, isPacket, responds⟩
    · exact Or.inl still
    · refine Or.inr ⟨packet, ?_, responds⟩
      rw [served.output, isPacket]
      rfl
  · intro session answering
    rcases served.progress.answered session answering with earlier | reported
    · exact Or.inl earlier
    · exact Or.inr (Or.inr (Or.inr (Or.inr reported)))
  · intro session packet isOutput responds
    rw [served.output] at isOutput
    cases effect with
    | packet handed =>
        cases isOutput
        exact served.progress.sent session packet rfl responds
    | _ =>
        cases isOutput
  · intro session tracked
    exact (served.tracks session).mp tracked
  · intro session tracked gone
    exact absurd ((served.tracks session).mpr tracked) gone

/-- The loop takes a packet in, and passes it on if it is for a tunnel. -/
theorem of_inbound
    (endpoint : self.Endpoint remote selector deadline)
    (selecting : self.node.phase = .selecting)
    {packet : InboundRelayPacket}
    {inbound : Channel queueCapacity InboundRelayPacket}
    (arrived : self.inbound.items = packet :: inbound.items)
    (reached :
      next = { self with inbound, node := self.node.inboundArrived packet })
    (agrees : next.Agrees) (preparation : next.Preparation)
    {input : SystemInput} :
    next.Endpoint remote selector deadline ∧
      Progress self next input none remote := by
  have sameManager :
      (self.node.inboundArrived packet).manager = self.node.manager := by
    unfold Node.inboundArrived
    split <;> rfl
  subst reached
  refine ⟨⟨agrees, preparation, ?_, endpoint.sound, endpoint.control,
    endpoint.poll, endpoint.keys, ?_⟩, ?_⟩
  · change ¬ (self.node.inboundArrived packet).phase.Calling
    unfold Node.inboundArrived
    split
    · exact id
    · exact endpoint.calm
    · exact endpoint.calm
  · change (self.node.inboundArrived packet).manager.OneSelector _ _
    rw [sameManager]
    exact endpoint.manager
  · have notified :
        ∀ session,
          System.Notified
              { self with
                inbound
                node := self.node.inboundArrived packet } session ↔
            self.Notified session := by
      intro session
      simp only [System.Notified, Tracks, Announced, sameManager]
    have tracks :
        ∀ session,
          System.Tracks
              { self with
                inbound
                node := self.node.inboundArrived packet } session ↔
            self.Tracks session := by
      intro session
      simp only [Tracks, sameManager]
    refine .of_loop rfl notified ?_ (fun session => (tracks session).mp) ?_
    · intro session
      unfold Receiving outstanding
      rw [arrived, selecting, LoopPhase.unsent_selecting, List.append_nil]
      unfold Node.inboundArrived
      cases channel : packet.channel with
      | shortcutWireGuard relayed =>
          simp only [LoopPhase.unsent_sending, List.mem_append,
            List.mem_singleton, DeviceCommand.receive.injEq,
            List.exists_mem_cons_iff, channel,
            RelayChannel.shortcutWireGuard.injEq]
          constructor
          · intro receiving
            rcases receiving with
              waiting | ⟨datagram, queued | ⟨rfl, rfl, rfl⟩, response⟩
            · exact Or.inl (Or.inr waiting)
            · exact Or.inr ⟨datagram, queued, response⟩
            · exact Or.inl (Or.inl ⟨rfl, rfl, response⟩)
          · intro receiving
            rcases receiving with
              (⟨rfl, rfl, response⟩ | waiting) | ⟨datagram, queued, response⟩
            · exact Or.inr ⟨packet.payload, Or.inr ⟨rfl, rfl, rfl⟩, response⟩
            · exact Or.inl waiting
            · exact Or.inr ⟨datagram, Or.inl queued, response⟩
      | baseWireGuard =>
          simp [selecting, channel]
      | pathProbe nonce sentMicros reply =>
          simp [selecting, channel]
    · intro session tracked gone
      exact absurd ((tracks session).mpr tracked) gone

/-- The loop handles an event that leaves the endpoint what it was. -/
theorem of_handled
    (endpoint : self.Endpoint remote selector deadline)
    (selecting : self.node.phase = .selecting)
    {event : DeviceEvent} {events : Channel queueCapacity DeviceEvent}
    {node : Node (AtomicRouteManager DeviceRoutes P)}
    (queue : self.events.items = event :: events.items)
    (reached : next = { self with events, node })
    (agrees : next.Agrees) (preparation : next.Preparation)
    (calm : ¬ node.phase.Calling)
    (removes :
      ∀ command ∈ node.phase.unsent, ∃ session, command = .remove session)
    (manager : node.manager.OneSelector selector deadline)
    (notified :
      ∀ session, next.Notified session ↔ self.Notified session)
    (tracks : ∀ session, next.Tracks session → self.Tracks session)
    {input : SystemInput}
    (dropped :
      ∀ session,
        self.Tracks session →
        ¬ next.Tracks session →
        ∃ other,
          other ≠ session ∧
          self.HandlesHandshake input other ∧
          self.ReplacesRoute other ∧
          next.Tracks other) :
    next.Endpoint remote selector deadline ∧
      Progress self next input none remote := by
  subst reached
  refine ⟨⟨agrees, preparation, calm, ?_, endpoint.control, endpoint.poll,
    endpoint.keys, manager⟩, .of_loop rfl notified ?_ tracks dropped⟩
  · intro session announced
    rcases announced with queued | pending
    · refine endpoint.sound session (Or.inl ?_)
      rw [queue]
      exact List.mem_cons_of_mem _ queued
    · exact endpoint.sound session (Or.inr pending)
  · intro session
    unfold Receiving outstanding
    rw [selecting, LoopPhase.unsent_selecting, List.append_nil]
    refine or_congr_right (exists_congr fun datagram => ?_)
    apply and_congr_left'
    rw [List.mem_append]
    apply or_iff_left
    intro member
    obtain ⟨removed, same⟩ := removes _ member
    cases same

/-- The loop handles an event without a change of the manager. -/
theorem of_unmanaged
    (endpoint : self.Endpoint remote selector deadline)
    (selecting : self.node.phase = .selecting)
    {event : DeviceEvent} {events : Channel queueCapacity DeviceEvent}
    {node : Node (AtomicRouteManager DeviceRoutes P)} {phase : LoopPhase}
    (queue : self.events.items = event :: events.items)
    (reached : next = { self with events, node })
    (agrees : next.Agrees) (preparation : next.Preparation)
    (same : node = self.node.withManager self.node.manager phase)
    (calm : ¬ phase.Calling)
    (removes :
      ∀ command ∈ phase.unsent, ∃ session, command = .remove session)
    (known :
      ∀ session,
        .authenticatedHandshake session = event →
        ¬ self.Tracks session ∨
          self.node.manager.phase session = some .active)
    {input : SystemInput} :
    next.Endpoint remote selector deadline ∧
      Progress self next input none remote := by
  have manager : next.node.manager = self.node.manager := by
    rw [reached, same, Node.manager_withManager]
  have tracks : ∀ session, next.Tracks session ↔ self.Tracks session := by
    intro session
    simp [Tracks, manager]
  have notified :
      ∀ session, next.Notified session ↔ self.Notified session := by
    intro session
    have announced :
        self.Announced (.authenticatedHandshake session) ↔
          .authenticatedHandshake session = event ∨
            next.Announced (.authenticatedHandshake session) := by
      simp only [Announced, reached, queue, List.mem_cons, or_assoc]
    unfold Notified
    rw [tracks, manager, announced]
    constructor
    · rintro (untracked | active | later)
      · exact Or.inl untracked
      · exact Or.inr (Or.inl active)
      · exact Or.inr (Or.inr (Or.inr later))
    · rintro (untracked | active | here | later)
      · exact Or.inl untracked
      · exact Or.inr (Or.inl active)
      · rcases known session here with untracked | active
        · exact Or.inl untracked
        · exact Or.inr (Or.inl active)
      · exact Or.inr (Or.inr later)
  subst same
  exact endpoint.of_handled selecting queue reached agrees preparation calm
    removes (by simpa using endpoint.manager) notified
    (fun session => (tracks session).mp)
    fun session tracked gone => absurd ((tracks session).mpr tracked) gone

/-- The loop cuts over to the session whose handshake it handles. -/
theorem of_cutOver
    (endpoint : self.Endpoint remote selector deadline)
    (selecting : self.node.phase = .selecting)
    {session : SessionKey} {events : Channel queueCapacity DeviceEvent}
    {node : Node (AtomicRouteManager DeviceRoutes P)}
    (queue :
      self.events.items = .authenticatedHandshake session :: events.items)
    (reached : next = { self with events, node })
    (agrees : next.Agrees) (preparation : next.Preparation)
    (calm : ¬ node.phase.Calling)
    (removes :
      ∀ command ∈ node.phase.unsent, ∃ session, command = .remove session)
    (cuts : self.node.manager.CutsOver node.manager selector session)
    (keeps : ShortcutManager.KeepsTickets self.node.manager node.manager)
    (present : self.node.manager.sessions.lookup session ≠ none)
    {input : SystemInput}
    (handles : self.HandlesHandshake input session) :
    next.Endpoint remote selector deadline ∧
      Progress self next input none remote := by
  have owner := endpoint.manager.owner
  have reachedCuts :
      self.node.manager.CutsOver next.node.manager selector session := by
    rw [reached]
    exact cuts
  have phases := reachedCuts.2
  have tracked_iff :
      ∀ {system : System P} {query : SessionKey},
        system.Tracks query ↔ system.node.manager.phase query ≠ none := by
    intro system query
    simp [Tracks, ShortcutManager.phase]
  have announced :
      ∀ query,
        self.Announced (.authenticatedHandshake query) ↔
          query = session ∨
            next.Announced (.authenticatedHandshake query) := by
    intro query
    simp only [Announced, reached, queue, List.mem_cons, or_assoc,
      DeviceEvent.authenticatedHandshake.injEq]
  refine endpoint.of_handled selecting queue reached agrees preparation calm
    removes (endpoint.manager.cutsOver cuts keeps) ?_ ?_ ?_
  · intro query
    unfold Notified
    rw [tracked_iff, tracked_iff, phases, announced]
    by_cases same : query = session
    · simp [same]
    · by_cases previous :
          self.node.manager.activeRoutes.lookup selector = some query
      · simp [same, previous, (owner query).mp previous]
      · simp [same, previous]
  · intro query tracked
    rw [tracked_iff, phases] at tracked
    by_cases same : query = session
    · exact same ▸ present
    · rw [if_neg same] at tracked
      split at tracked
      · exact absurd rfl tracked
      · exact tracked_iff.mpr tracked
  · intro query tracked gone
    rw [tracked_iff, phases] at gone
    by_cases same : query = session
    · simp [same] at gone
    · rw [if_neg same] at gone
      split at gone
      · rename_i previous
        obtain ⟨managed, found⟩ := Option.ne_none_iff_exists'.mp present
        refine ⟨session, fun equal => same equal.symm, handles,
          ⟨managed, query, found, ?_, same⟩, ?_⟩
        · rw [(endpoint.manager.tickets session managed found).1]
          exact previous
        · rw [tracked_iff, phases, if_pos rfl]
          simp
      · exact absurd (tracked_iff.mp tracked) gone

variable [PolicyRules P]

theorem act_served
    (endpoint : self.Endpoint remote selector deadline)
    {results : List TunnResult} {accepted : Bool}
    {output : Option RelayPacket}
    (valid : self.honest deadline (.act results accepted) = true)
    (taken : self.step (.act results accepted) = some (next, output)) :
    ∃ effect, Served self next none effect output := by
  simp only [honest, Bool.and_eq_true] at valid
  obtain ⟨rfl, unasked⟩ := valid
  obtain ⟨_, free, _⟩ := endpoint.preparation.of_calm endpoint.calm
  simp only [step] at taken
  split at taken
  · cases taken
  · rename_i device effect acted
    have turn := DeviceTask.act_turn acted
    have progress := DeviceTask.act_progress free unasked acted
    refine ⟨effect, ?_⟩
    cases effect with
    | silent =>
        cases taken
        exact ⟨rfl, turn, progress, rfl, (List.append_nil _).symm, rfl, rfl,
          rfl, rfl⟩
    | event event =>
        obtain ⟨events, sent, same⟩ := Option.map_eq_some_iff.mp taken
        cases same
        exact ⟨rfl, turn, progress, rfl, Channel.items_of_send sent, rfl,
          rfl, rfl, rfl⟩
    | packet packet =>
        cases taken
        exact ⟨rfl, turn, progress, rfl, (List.append_nil _).symm, rfl, rfl,
          rfl, rfl⟩
    | reply result =>
        cases taken
        exact ⟨rfl, turn, progress, rfl, (List.append_nil _).symm, rfl, rfl,
          rfl, rfl⟩

/-- The device takes something up. -/
theorem takesUp_served
    (endpoint : self.Endpoint remote selector deadline)
    {input : SystemInput} {output : Option RelayPacket}
    (valid : self.honest deadline input = true) (takes : TakesUp input)
    (taken : self.step input = some (next, output)) :
    ∃ command effect, Served self next command effect output := by
  cases input with
  | tunPacket packet order results =>
      obtain ⟨device, idle, served, rfl, rfl⟩ := tunPacket_step taken
      exact ⟨none, .silent, rfl, DeviceTask.tunPacket_turn idle served,
        DeviceTask.tunPacket_progress idle valid served, rfl,
        (List.append_nil _).symm, rfl, rfl, rfl, rfl⟩
  | takeCommand results =>
      obtain ⟨command, commands, device, idle, queue, served, rfl, rfl⟩ :=
        takeCommand_step taken
      obtain ⟨unprepared, _, _⟩ := endpoint.preparation.of_calm endpoint.calm
      refine ⟨some command, .silent, rfl,
        DeviceTask.takeCommand_turn idle served,
        DeviceTask.takeCommand_progress idle ?_ ?_ served, queue,
        (List.append_nil _).symm, rfl, rfl, rfl, rfl⟩
      · intro session key same
        subst same
        exact unprepared session key (by simp [outstanding, queue])
      · intro session source datagram same
        subst same
        simpa [honest, queue] using valid
  | timerTick order =>
      obtain ⟨device, idle, served, rfl, rfl⟩ := timerTick_step taken
      exact ⟨none, .silent, rfl, DeviceTask.timerTick_turn idle served,
        DeviceTask.timerTick_progress idle served, rfl,
        (List.append_nil _).symm, rfl, rfl, rfl, rfl⟩
  | _ =>
      cases takes

/-- The arms that an endpoint takes. -/
theorem select_cases
    (endpoint : self.Endpoint remote selector deadline)
    {snapshot : Snapshot} {now : UInt64} {order : List SessionKey}
    {output : Option RelayPacket}
    (taken : self.step (.select snapshot now order) = some (next, output)) :
    self.node.phase = .selecting ∧ output = none ∧
    ((∃ packet inbound,
        self.inbound.items = packet :: inbound.items ∧
        next =
          { self with inbound, node := self.node.inboundArrived packet }) ∨
      ∃ event events node,
        self.ready snapshot now order =
          some (.event event now order, { self with events }) ∧
        self.events.items = event :: events.items ∧
        self.node.Turn (.event event now order) node none ∧
        next = { self with events, node }) := by
  have noControl : self.control.receive = none := by
    cases received : self.control.receive with
    | none =>
        rfl
    | some result =>
        have items := Channel.items_of_receive received
        rw [endpoint.control] at items
        cases items
  simp only [step] at taken
  split at taken
  · cases taken
  · rename_i arm popped chosen
    have ready := chosen
    unfold System.ready at chosen
    rw [if_neg (by simp [endpoint.poll]), noControl] at chosen
    dsimp only at chosen
    obtain ⟨⟨node, command⟩, stepped, same⟩ :=
      Option.map_eq_some_iff.mp taken
    obtain ⟨_, _, _, _, _, notSent, notReplied⟩ := ready_cases ready
    cases same
    split at chosen
    · rename_i packet inbound received
      cases chosen
      have selecting : self.node.phase = .selecting :=
        (Node.turn_of_step stepped).selecting notSent notReplied
      refine ⟨selecting, rfl, Or.inl ⟨packet, inbound,
        Channel.items_of_receive received, ?_⟩⟩
      unfold Node.step at stepped
      rw [selecting] at stepped
      cases stepped
      rfl
    · split at chosen
      · rename_i event events received
        cases chosen
        have turn := Node.turn_of_step stepped
        rw [output_of_arm turn notSent] at turn
        exact ⟨turn.selecting notSent notReplied, rfl, Or.inr ⟨event, events,
          node, ready, Channel.items_of_receive received, turn, rfl⟩⟩
      · cases chosen

/-- The loop handles an event. -/
theorem of_event
    (endpoint : self.Endpoint remote selector deadline)
    {snapshot : Snapshot} {now : UInt64} {order : List SessionKey}
    (early : now < deadline) (selecting : self.node.phase = .selecting)
    {event : DeviceEvent} {events : Channel queueCapacity DeviceEvent}
    {node : Node (AtomicRouteManager DeviceRoutes P)}
    (ready :
      self.ready snapshot now order =
        some (.event event now order, { self with events }))
    (queue : self.events.items = event :: events.items)
    (turn : self.node.Turn (.event event now order) node none)
    (reached : next = { self with events, node })
    (agrees : next.Agrees) (preparation : next.Preparation)
    (willing :
      ∀ session managed,
        self.HandlesHandshake (.select snapshot now order) session →
        self.node.manager.sessions.lookup session = some managed →
        (RouteManager.activate self.node.manager.routes
          managed.ticket.selector ⟨session⟩).2 = .ok ()) :
    next.Endpoint remote selector deadline ∧
      Progress self next (.select snapshot now order) none remote := by
  have unchanged :
      self.node = self.node.withManager self.node.manager .selecting :=
    (Node.withManager_self selecting).symm
  cases turn with
  | ignored _ _ passive =>
      refine endpoint.of_unmanaged selecting queue reached agrees preparation
        unchanged id (by simp) ?_
      intro session same
      subst same
      cases passive
  | failed session _ _ _ =>
      refine absurd (Or.inl ?_) (endpoint.sound session)
      simp [queue]
  | confirmed session _ _ _ active =>
      refine endpoint.of_unmanaged selecting queue reached agrees preparation
        unchanged id (by simp) ?_
      intro other same
      cases same
      exact Or.inr active
  | activated session _ _ _ outcome iterates =>
      obtain ⟨present, cuts⟩ := endpoint.manager.activated iterates outcome
      have keeps :=
        ShortcutManager.handshake_retire_keepsTickets self.node.manager
          session now order
      refine endpoint.of_cutOver selecting queue reached agrees preparation
        ?_ ?_ cuts keeps present ⟨snapshot, now, order, _, rfl, ready⟩
      · exact LoopPhase.not_calling_removes _
      · intro command member
        simp only [Node.phase_withManager, LoopPhase.unsent_ofCommands,
          List.mem_map] at member
        obtain ⟨removed, _, rfl⟩ := member
        exact ⟨removed, rfl⟩
  | rejected session _ _ error _ outcome =>
      have handles :
          self.HandlesHandshake (.select snapshot now order) session :=
        ⟨snapshot, now, order, _, rfl, ready⟩
      obtain ⟨absent, same⟩ :=
        endpoint.manager.rejected early
          (fun managed => willing session managed handles) outcome
      have kept :
          self.node.withManager
              ((self.node.manager.authenticatedHandshake session
                now).1.fail session).1 (.sending [.remove session]) =
            self.node.withManager self.node.manager
              (.sending [.remove session]) := by
        rw [same]
      refine endpoint.of_unmanaged selecting queue reached agrees preparation
        kept id ?_ ?_
      · intro command member
        exact ⟨session, List.mem_singleton.mp member⟩
      · intro other handled
        cases handled
        exact Or.inl fun tracked => tracked absent

/-- A command of the loop goes into the queue. -/
theorem of_send
    (endpoint : self.Endpoint remote selector deadline)
    {output : Option RelayPacket}
    (taken : self.step .send = some (next, output))
    (agrees : next.Agrees) (preparation : next.Preparation)
    {input : SystemInput} :
    next.Endpoint remote selector deadline ∧
      Progress self next input output remote := by
  simp only [step] at taken
  split at taken
  · rename_i node command stepped
    obtain ⟨commands, accepted, same⟩ := Option.map_eq_some_iff.mp taken
    cases same
    have turn := Node.turn_of_step stepped
    have sameOutstanding :
        System.outstanding { self with node, commands } =
          self.outstanding :=
      outstanding_of_sent turn (Channel.items_of_send accepted)
    rcases turn.of_sent with
      ⟨first, rest, sending, _, rfl⟩ | ⟨session, first, preparing, _, _⟩
    · refine ⟨⟨agrees, preparation, ?_, endpoint.sound, endpoint.control,
        endpoint.poll, endpoint.keys, endpoint.manager⟩,
        .of_loop rfl (fun _ => Iff.rfl) ?_ (fun _ => id) ?_⟩
      · cases rest <;> exact id
      · intro session
        unfold Receiving
        rw [sameOutstanding]
      · intro session tracked gone
        exact absurd tracked gone
    · exact absurd (preparing ▸ trivial) endpoint.calm
  · cases taken

/-- Without new failures the sessions of manager and device go on agreeing. -/
theorem kept
    (endpoint : self.Endpoint remote selector deadline)
    {input : SystemInput} {output : Option RelayPacket}
    (taken : self.step input = some (next, output))
    (sound :
      ∀ session,
        .emit (.sessionFailed session) ∈ next.device.pending →
        .emit (.sessionFailed session) ∈ self.device.pending) :
    next.Agrees ∧ next.Preparation := by
  have turn := turn_of_step taken
  have keeps : KeepsFailuresFresh ⟨self, input, output, next⟩ := by
    constructor
    · intro ticket accepts
      obtain ⟨snapshot, now, order, source, receivedAt, popped, sender, _,
        chosen, _⟩ := accepts
      have waiting := control_of_ready chosen
      rw [endpoint.control] at waiting
      cases waiting
    · intro session fails
      obtain ⟨quiet, reported⟩ := fails
      exact absurd (sound session reported) quiet
  refine ⟨Agrees.step endpoint.agrees endpoint.preparation keeps turn,
    endpoint.preparation.step ?_ turn⟩
  exact fun session settled => ((endpoint.agrees session).mp settled).1

/-- Every honest step keeps an endpoint, and passes handshakes on. -/
theorem step
    (endpoint : self.Endpoint remote selector deadline)
    {input : SystemInput} {output : Option RelayPacket}
    (valid : self.honest deadline input = true)
    (willing :
      ∀ session managed,
        self.HandlesHandshake input session →
        self.node.manager.sessions.lookup session = some managed →
        (RouteManager.activate self.node.manager.routes
          managed.ticket.selector ⟨session⟩).2 = .ok ())
    (taken : self.step input = some (next, output)) :
    next.Endpoint remote selector deadline ∧
      Progress self next input output remote := by
  have served :
      ∀ {command effect},
        Served self next command effect output →
        next.Endpoint remote selector deadline ∧
          Progress self next input output remote := by
    intro command effect served
    obtain ⟨agrees, preparation⟩ := endpoint.kept taken served.progress.sound
    exact ⟨endpoint.of_served served agrees preparation,
      endpoint.progress_of_served served⟩
  cases input with
  | select snapshot now order =>
      obtain ⟨selecting, rfl, outcome⟩ := endpoint.select_cases taken
      have sameDevice : next.device = self.device := by
        rcases outcome with ⟨_, _, _, reached⟩ | ⟨_, _, _, _, _, _, reached⟩
        · rw [reached]
        · rw [reached]
      obtain ⟨agrees, preparation⟩ :=
        endpoint.kept taken fun session reported => sameDevice ▸ reported
      rcases outcome with
        ⟨packet, inbound, arrived, reached⟩ |
          ⟨event, events, node, ready, queue, turn, reached⟩
      · exact endpoint.of_inbound selecting arrived reached agrees preparation
      · exact endpoint.of_event (of_decide_eq_true valid) selecting ready
          queue turn reached agrees preparation willing
  | send =>
      have sameDevice : next.device = self.device := by
        have sent := taken
        simp only [System.step] at sent
        split at sent
        · obtain ⟨commands, _, same⟩ := Option.map_eq_some_iff.mp sent
          cases same
          rfl
        · cases sent
      obtain ⟨agrees, preparation⟩ :=
        endpoint.kept taken fun session reported => sameDevice ▸ reported
      exact endpoint.of_send taken agrees preparation
  | act results accepted =>
      obtain ⟨effect, acted⟩ := endpoint.act_served valid taken
      exact served acted
  | tunPacket packet order results =>
      obtain ⟨command, effect, up⟩ :=
        endpoint.takesUp_served valid trivial taken
      exact served up
  | takeCommand results =>
      obtain ⟨command, effect, up⟩ :=
        endpoint.takesUp_served valid trivial taken
      exact served up
  | timerTick order =>
      obtain ⟨command, effect, up⟩ :=
        endpoint.takesUp_served valid trivial taken
      exact served up
  | _ =>
      cases valid

end Endpoint

/-- A packet for the loop leaves an endpoint what it is. -/
theorem Endpoint.of_arrival
    {self : System P} {remote : String} {selector : IpNet}
    {deadline : UInt64}
    (endpoint : self.Endpoint remote selector deadline)
    (inbound : Channel queueCapacity InboundRelayPacket) :
    Endpoint { self with inbound } remote selector deadline :=
  ⟨endpoint.agrees, endpoint.preparation.congr rfl rfl rfl rfl,
    endpoint.calm, endpoint.sound, endpoint.control, endpoint.poll,
    endpoint.keys, endpoint.manager⟩

variable [PolicyRules P]

theorem localPublicKey_of_step
    {self next : System P} {input : SystemInput}
    {output : Option RelayPacket}
    (taken : self.step input = some (next, output)) :
    next.node.controller.localPublicKey =
      self.node.controller.localPublicKey := by
  cases turn_of_step taken with
  | arrived sameNode =>
      rw [sameNode]
  | selected snapshot now order arm popped isSelect chosen nodeTurn =>
      exact nodeTurn.localPublicKey
  | sent command nodeTurn =>
      exact nodeTurn.localPublicKey
  | answered result replied nodeTurn =>
      exact nodeTurn.localPublicKey
  | served command effect origin sameNode =>
      rw [sameNode]

end System

end WgLink
