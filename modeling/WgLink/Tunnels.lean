import WgLink.SystemRuns

/-!
# Sessions on both sides of the queues

Manager and device know a session by its key only.  Commands that are still on
their way to the device and events that are still on their way to the manager
may therefore be about an earlier tunnel of the same session.
-/

namespace WgLink

open WgLink.Library

/-- The commands that the loop is about to send. -/
def LoopPhase.unsent : LoopPhase → List DeviceCommand
  | .sending commands => commands
  | .preparing _ command => [command]
  | .selecting | .awaiting _ | .stopped _ => []

@[simp]
theorem LoopPhase.unsent_sending (commands : List DeviceCommand) :
    (LoopPhase.sending commands).unsent = commands := rfl

@[simp]
theorem LoopPhase.unsent_preparing
    (session : SessionKey) (command : DeviceCommand) :
    (LoopPhase.preparing session command).unsent = [command] := rfl

@[simp]
theorem LoopPhase.unsent_awaiting (session : SessionKey) :
    (LoopPhase.awaiting session).unsent = [] := rfl

@[simp]
theorem LoopPhase.unsent_selecting : LoopPhase.selecting.unsent = [] := rfl

@[simp]
theorem LoopPhase.unsent_ofCommands (commands : List DeviceCommand) :
    (LoopPhase.ofCommands commands).unsent = commands := by
  cases commands <;> rfl

namespace DeviceTask

theorem mem_deliverInner
    {session : SessionKey} {packets : List Bytes} {action : DeviceAction}
    (member : action ∈ deliverInner session packets) :
    (∃ source destination,
      action = .emit (.innerPacket session source destination)) ∨
    ∃ packet, action = .inject packet := by
  unfold deliverInner at member
  obtain ⟨packet, _, listed⟩ := List.mem_flatMap.mp member
  cases addresses : packetAddresses packet with
  | none =>
      rw [addresses] at listed
      exact Or.inr ⟨packet, List.mem_singleton.mp listed⟩
  | some pair =>
      rw [addresses] at listed
      obtain ⟨source, destination⟩ := pair
      rcases List.mem_cons.mp listed with first | second
      · exact Or.inl ⟨source, destination, first⟩
      · exact Or.inr ⟨packet, List.mem_singleton.mp second⟩

/-- What a datagram that the tunnel has accepted leaves to do. -/
theorem mem_received
    {self : DeviceTask} {session : SessionKey} {runtime : SessionRuntime}
    {output : TunnelOutput} {action : DeviceAction}
    (member : action ∈ (self.received session runtime output).pending) :
    (action = .emit (.authenticatedHandshake session) ∧
      output.authenticatedHandshake = true) ∨
    (∃ source destination,
      action = .emit (.innerPacket session source destination)) ∨
    (∃ packet, action = .inject packet) ∨
    action =
      .transmit session runtime.remotePublicKey output.networkPackets := by
  simp only [received, List.mem_append, List.mem_singleton] at member
  rcases member with (report | inner) | last
  · by_cases authenticated : output.authenticatedHandshake = true
    · rw [if_pos authenticated, List.mem_singleton] at report
      exact Or.inl ⟨report, authenticated⟩
    · rw [if_neg authenticated] at report
      cases report
  · rcases mem_deliverInner inner with told | injected
    · exact Or.inr (Or.inl told)
    · exact Or.inr (Or.inr (Or.inl injected))
  · exact Or.inr (Or.inr (Or.inr last))

/-- Serving a session takes nothing away but the round of the session. -/
theorem Serves.mem_iff
    {self : DeviceTask} {session : SessionKey} {rest : List DeviceAction}
    (serves : self.Serves session rest)
    {action : DeviceAction} (notTend : action ≠ .tend session) :
    action ∈ self.pending ↔ action ∈ rest := by
  rcases serves with ⟨idle, rfl⟩ | pending
  · rw [idle]
  · rw [pending, List.mem_cons]
    exact or_iff_right notTend

/-- A session that fails is being served, or its packets are being sent. -/
theorem mem_iff_of_failed
    {self : DeviceTask} {session : SessionKey} {rest : List DeviceAction}
    (origin :
      (self.Serves session rest ∧ self.sessions.lookup session ≠ none) ∨
        ∃ peerKey packets,
          self.pending = .transmit session peerKey packets :: rest)
    {action : DeviceAction} (notTend : action ≠ .tend session)
    (notTransmit :
      ∀ peerKey packets, action ≠ .transmit session peerKey packets) :
    action ∈ self.pending ↔ action ∈ rest := by
  rcases origin with ⟨serves, _⟩ | ⟨peerKey, packets, pending⟩
  · exact serves.mem_iff notTend
  · rw [pending, List.mem_cons]
    exact or_iff_right (notTransmit peerKey packets)

theorem mem_of_failed
    {self : DeviceTask} {session : SessionKey} {rest : List DeviceAction}
    (origin :
      (self.Serves session rest ∧ self.sessions.lookup session ≠ none) ∨
        ∃ peerKey packets,
          self.pending = .transmit session peerKey packets :: rest) :
    ∀ action ∈ rest, action ∈ self.pending := by
  intro action later
  rcases origin with ⟨⟨_, rfl⟩ | pending, _⟩ | ⟨peerKey, packets, pending⟩
  · cases later
  · rw [pending]
    exact List.mem_cons_of_mem _ later
  · rw [pending]
    exact List.mem_cons_of_mem _ later

/-- What a step can add to what is left to do, with what it was added for. -/
inductive Adds (self : DeviceTask) :
    Option DeviceCommand → DeviceTask → DeviceAction → Prop
  | missing (destination : IpAddr) {next : DeviceTask} :
      Adds self none next (.emit (.missingRoute destination))
  | failure (session : SessionKey) (rest : List DeviceAction) :
      (∀ action ∈ rest, action ∈ self.pending) →
      Adds self none (self.failSession session rest)
        (.emit (.sessionFailed session))
  | handshake (session : SessionKey) (command : DeviceCommand)
      (runtime : SessionRuntime) (output : TunnelOutput) :
      self.pending = [] →
      output.authenticatedHandshake = true →
      Adds self (some command) (self.received session runtime output)
        (.emit (.authenticatedHandshake session))
  | inner (session : SessionKey) (source destination : IpAddr)
      {command : Option DeviceCommand} {next : DeviceTask} :
      Adds self command next (.emit (.innerPacket session source destination))
  | started (session : SessionKey) {next : DeviceTask} :
      Adds self none next (.emit (.handshakeStarted session))
  | transmission (session : SessionKey) (peerKey : String)
      (packets : List Bytes) {command : Option DeviceCommand}
      {next : DeviceTask} :
      Adds self command next (.transmit session peerKey packets)
  | preparation (session : SessionKey) (key : String) (packets : List Bytes)
      {next : DeviceTask} :
      Adds self (some (.prepare session key)) next
        (.initiate session ⟨key, false⟩ packets)
  | initiation (session : SessionKey) (runtime : SessionRuntime)
      (packet : Bytes) (packets : List Bytes) {next : DeviceTask} :
      .initiate session runtime (packet :: packets) ∈ self.pending →
      Adds self none next (.initiate session runtime packets)
  | injection (packet : Bytes) {command : Option DeviceCommand}
      {next : DeviceTask} :
      Adds self command next (.inject packet)
  | tending (session : SessionKey) {next : DeviceTask} :
      Adds self none next (.tend session)
  | refusal (session : SessionKey) (key error : String) {next : DeviceTask} :
      Adds self (some (.prepare session key)) next (.reply (.error error))
  | answer (session : SessionKey) (runtime : SessionRuntime)
      (packets : List Bytes) (result : Except String Unit)
      {next : DeviceTask} :
      .initiate session runtime packets ∈ self.pending →
      Adds self none next (.reply result)

/-- What is left to do after a step was left to do before it, or is added by
the step. -/
theorem Turn.mem_pending
    {self next : DeviceTask} {command : Option DeviceCommand}
    {effect : DeviceEffect} {action : DeviceAction}
    (turn : self.Turn command next effect)
    (member : action ∈ next.pending) :
    action ∈ self.pending ∨ self.Adds command next action := by
  -- Whatever stands behind the action that the step is about stays.
  have kept :
      ∀ {first : DeviceAction} {rest : List DeviceAction},
        self.pending = first :: rest →
        ∀ other ∈ rest, other ∈ self.pending := by
    intro first rest pending other later
    rw [pending]
    exact List.mem_cons_of_mem _ later
  have head :
      ∀ {first : DeviceAction} {rest : List DeviceAction},
        self.pending = first :: rest → first ∈ self.pending := by
    intro first rest pending
    rw [pending]
    exact List.mem_cons_self
  cases turn with
  | ignored session source datagram idle =>
      exact Or.inl member
  | unrouted idle =>
      exact Or.inl member
  | removed session idle =>
      exact Or.inl member
  | missing destination idle =>
      obtain rfl := List.mem_singleton.mp member
      exact Or.inr (.missing destination)
  | served session peerKey packets rest serves =>
      rcases List.mem_cons.mp member with rfl | later
      · exact Or.inr (.transmission session peerKey packets)
      · rcases serves with ⟨_, rfl⟩ | pending
        · cases later
        · exact Or.inl (kept pending action later)
  | failed session rest origin =>
      have before := mem_of_failed origin
      rcases List.mem_cons.mp member with rfl | later
      · exact Or.inr (.failure session rest before)
      · exact Or.inl (before action later)
  | preparing session remotePublicKey packets idle =>
      obtain rfl := List.mem_singleton.mp member
      exact Or.inr (.preparation session remotePublicKey packets)
  | unprepared session remotePublicKey error idle =>
      obtain rfl := List.mem_singleton.mp member
      exact Or.inr (.refusal session remotePublicKey error)
  | received session source datagram results runtime output idle present =>
      rcases mem_received member with
        ⟨rfl, authenticated⟩ | ⟨source, destination, rfl⟩ | ⟨packet, rfl⟩ |
          rfl
      · exact Or.inr
          (.handshake session _ runtime output idle authenticated)
      · exact Or.inr (.inner session source destination)
      · exact Or.inr (.injection packet)
      · exact Or.inr
          (.transmission session runtime.remotePublicKey
            output.networkPackets)
  | ticked order idle iterates =>
      obtain ⟨session, _, rfl⟩ := List.mem_map.mp member
      exact Or.inr (.tending session)
  | emitted event rest pending =>
      exact Or.inl (kept pending action member)
  | dropped spent rest pending =>
      exact Or.inl (kept pending action member)
  | transmitted session peerKey packet packets rest pending =>
      rcases List.mem_cons.mp member with rfl | later
      · exact Or.inr (.transmission session peerKey packets)
      · exact Or.inl (kept pending action later)
  | initiated session runtime packet packets rest pending =>
      rcases List.mem_cons.mp member with rfl | later
      · exact Or.inr
          (.initiation session runtime packet packets (head pending))
      · exact Or.inl (kept pending action later)
  | inserted session runtime rest pending =>
      rcases List.mem_cons.mp member with rfl | behind
      · exact Or.inr (.started session)
      · rcases List.mem_cons.mp behind with rfl | later
        · exact Or.inr (.answer session runtime [] _ (head pending))
        · exact Or.inl (kept pending action later)
  | refused session runtime packets rest pending =>
      rcases List.mem_cons.mp member with rfl | later
      · exact Or.inr (.answer session runtime packets _ (head pending))
      · exact Or.inl (kept pending action later)
  | replied result rest pending =>
      exact Or.inl (kept pending action member)

/-- Only a branch that the task has just begun can report a handshake that it
was not about to report before. -/
theorem Turn.authenticated_pending
    {self next : DeviceTask} {command : Option DeviceCommand}
    {effect : DeviceEffect} {session : SessionKey}
    (turn : self.Turn command next effect)
    (member : .emit (.authenticatedHandshake session) ∈ next.pending) :
    .emit (.authenticatedHandshake session) ∈ self.pending ∨
      self.pending = [] := by
  rcases turn.mem_pending member with before | added
  · exact Or.inl before
  · cases added with
    | handshake _ command runtime output idle authenticated =>
        exact Or.inr idle

/-- A session is about to be reported as failed only once it has been
removed. -/
theorem Turn.failed_pending
    {self next : DeviceTask} {command : Option DeviceCommand}
    {effect : DeviceEffect} {session : SessionKey}
    (turn : self.Turn command next effect)
    (member : .emit (.sessionFailed session) ∈ next.pending) :
    .emit (.sessionFailed session) ∈ self.pending ∨
      ∃ rest,
        command = none ∧
        next = self.failSession session rest ∧
        ∀ action ∈ rest, action ∈ self.pending := by
  rcases turn.mem_pending member with before | added
  · exact Or.inl before
  · cases added with
    | failure _ rest kept =>
        exact Or.inr ⟨rest, rfl, rfl, kept⟩

/-- A tunnel is about to be set up only on a `prepare` command. -/
theorem Turn.initiate_pending
    {self next : DeviceTask} {command : Option DeviceCommand}
    {effect : DeviceEffect} {session : SessionKey}
    {runtime : SessionRuntime} {packets : List Bytes}
    (turn : self.Turn command next effect)
    (member : .initiate session runtime packets ∈ next.pending) :
    (∃ earlier, .initiate session runtime earlier ∈ self.pending) ∨
      ∃ key, command = some (.prepare session key) := by
  rcases turn.mem_pending member with before | added
  · exact Or.inl ⟨packets, before⟩
  · cases added with
    | preparation _ key _ =>
        exact Or.inr ⟨key, rfl⟩
    | initiation _ _ packet _ before =>
        exact Or.inl ⟨packet :: packets, before⟩

/-- What a step does to the tunnels. -/
theorem Turn.sessions_cases
    {self next : DeviceTask} {command : Option DeviceCommand}
    {effect : DeviceEffect}
    (turn : self.Turn command next effect) :
    next.sessions = self.sessions ∨
    (∃ session,
      next.sessions = self.sessions.erase session ∧
      (command = some (.remove session) ∨
        ∃ rest, next = self.failSession session rest)) ∨
    (∃ session runtime rest,
      next.sessions = self.sessions.insert session runtime ∧
      self.pending = .initiate session runtime [] :: rest) ∨
    (∃ session runtime output,
      self.sessions.lookup session = some runtime ∧
      next = self.received session runtime output) := by
  cases turn with
  | failed session rest origin =>
      exact Or.inr <| Or.inl ⟨session, rfl, Or.inr ⟨rest, rfl⟩⟩
  | removed session idle =>
      exact Or.inr <| Or.inl ⟨session, rfl, Or.inl rfl⟩
  | inserted session runtime rest first =>
      exact Or.inr <| Or.inr <| Or.inl ⟨session, runtime, rest, rfl, first⟩
  | received session source datagram results runtime output idle present =>
      exact Or.inr <| Or.inr <| Or.inr
        ⟨session, runtime, output, present, rfl⟩
  | _ =>
      exact Or.inl rfl

/-- An event that is sent was about to be sent. -/
theorem Turn.event_pending
    {self next : DeviceTask} {command : Option DeviceCommand}
    {effect : DeviceEffect} {event : DeviceEvent}
    (turn : self.Turn command next effect)
    (sent : event ∈ effect.events) : .emit event ∈ self.pending := by
  cases turn with
  | emitted other rest first =>
      rw [DeviceEffect.events, List.mem_singleton] at sent
      simp [first, sent]
  | _ =>
      cases sent

/-- The branch that reports a handshake has recorded it with the tunnel. -/
theorem Turn.authenticated_runtime
    {self next : DeviceTask} {command : Option DeviceCommand}
    {effect : DeviceEffect} {session : SessionKey}
    (turn : self.Turn command next effect)
    (idle : self.pending = [])
    (reported : .emit (.authenticatedHandshake session) ∈ next.pending)
    {runtime : SessionRuntime}
    (present : next.sessions.lookup session = some runtime) :
    runtime.authenticated = true := by
  rcases turn.mem_pending reported with before | added
  · rw [idle] at before
    cases before
  · cases added with
    | handshake _ command held output nothing authenticated =>
        simp only [DeviceTask.received, Finmap.lookup_insert,
          Option.some.injEq] at present
        simp [← present, authenticated]

end DeviceTask

/-- The loop asks for a tunnel only when it accepts a ticket. -/
theorem Node.Turn.prepare_unsent
    {R : Type} [RouteManager R] {self next : Node R} {input : NodeInput}
    {output : Option DeviceCommand} {session : SessionKey} {key : String}
    (turn : self.Turn input next output)
    (member : .prepare session key ∈ next.phase.unsent) :
    .prepare session key ∈ self.phase.unsent ∨
    ∃ source ticket now sender,
      input = .control ⟨source, .ticket ticket⟩ now ∧
      self.Accepts source ticket now sender ∧
      ticket.session = session := by
  cases turn with
  | expired snapshot now order expired selecting iterates outcome =>
      simp at member
  | stopped snapshot now order error selecting iterates outcome =>
      cases member
  | ignored input selecting passive =>
      exact Or.inl member
  | accepted source ticket now sender accepts =>
      simp only [Node.phase_withManager, LoopPhase.unsent_preparing,
        List.mem_singleton, DeviceCommand.prepare.injEq] at member
      exact Or.inr ⟨source, ticket, now, sender, rfl, accepts,
        member.1.symm⟩
  | relayed packet session selecting channel =>
      simp at member
  | failed session now order selecting =>
      cases member
  | confirmed session now order selecting active =>
      exact Or.inl member
  | activated session now order selecting outcome iterates =>
      simp at member
  | rejected session now order error selecting outcome =>
      simp at member
  | sent command rest sending =>
      simp only [Node.phase_withManager, LoopPhase.unsent_ofCommands]
        at member
      rw [sending]
      exact Or.inl (List.mem_cons_of_mem _ member)
  | sentPrepare session command preparing =>
      cases member
  | prepared session awaiting =>
      cases member
  | prepareFailed session error awaiting =>
      cases member

namespace System

variable {P : Type}

/-- The commands that the device has not taken yet, in their order. -/
def outstanding (self : System P) : List DeviceCommand :=
  self.commands.items ++ self.node.phase.unsent

/-- The manager has the session. -/
def Tracks (self : System P) (session : SessionKey) : Prop :=
  self.node.manager.sessions.lookup session ≠ none

/-- The event is queued, or the device is about to send it. -/
def Announced (self : System P) (event : DeviceEvent) : Prop :=
  event ∈ self.events.items ∨ .emit event ∈ self.device.pending

/-- A tunnel for the session has been asked for and is not set up yet. -/
def Preparing (self : System P) (session : SessionKey) : Prop :=
  (∃ key, .prepare session key ∈ self.outstanding) ∨
    ∃ runtime packets,
      .initiate session runtime packets ∈ self.device.pending

/-- The step accepts the ticket for a new session. -/
def AcceptsTicket
    (self : System P) (input : SystemInput) (ticket : ShortcutTicket) :
    Prop :=
  ∃ snapshot now order source receivedAt popped sender,
    input = .select snapshot now order ∧
    self.ready snapshot now order =
      some (.control ⟨source, .ticket ticket⟩ receivedAt, popped) ∧
    self.node.Accepts source ticket receivedAt sender

/-- The device adds no tunnel to those that are being prepared. -/
theorem preparing_of_served
    {self next : System P} {command : Option DeviceCommand}
    {effect : DeviceTask.DeviceEffect} {session : SessionKey}
    (sameNode : next.node = self.node)
    (turn : self.device.Turn command next.device effect)
    (taken : self.commands.items = command.toList ++ next.commands.items)
    (waiting : next.Preparing session) : self.Preparing session := by
  unfold Preparing outstanding at waiting ⊢
  rw [taken]
  rcases waiting with ⟨key, member⟩ | ⟨runtime, packets, member⟩
  · rw [sameNode, List.mem_append] at member
    refine Or.inl ⟨key, ?_⟩
    rcases member with queued | unsent
    · simp [queued]
    · simp [unsent]
  · rcases turn.initiate_pending member with
      ⟨earlier, initiating⟩ | ⟨key, rfl⟩
    · exact Or.inr ⟨runtime, earlier, initiating⟩
    · exact Or.inl ⟨key, by simp⟩

variable [PolicyRules P]

/-- Sending a command leaves it outstanding. -/
theorem outstanding_of_sent
    {self next : System P} {command : DeviceCommand}
    (turn : self.node.Turn .sent next.node (some command))
    (queued : next.commands.items = self.commands.items ++ [command]) :
    next.outstanding = self.outstanding := by
  unfold outstanding
  rcases turn.of_sent with
    ⟨first, rest, sending, same, reached⟩ |
      ⟨session, first, preparing, same, reached⟩
  · cases same
    simp [queued, reached, sending]
  · cases same
    simp [queued, reached, preparing]

/-- A session is there after a step only if it was there before, or has just
been accepted. -/
theorem Turn.tracks
    {self next : System P} {input : SystemInput}
    {output : Option RelayPacket} {session : SessionKey}
    (turn : self.Turn input next output) (tracked : next.Tracks session) :
    self.Tracks session ∨
      ∃ ticket,
        self.AcceptsTicket input ticket ∧ ticket.session = session := by
  obtain ⟨managed, present⟩ := Option.ne_none_iff_exists'.mp tracked
  have kept :
      ∀ {earlier : ManagedSession},
        self.node.manager.sessions.lookup session = some earlier →
        self.Tracks session := by
    intro earlier found
    simp [Tracks, found]
  cases turn with
  | arrived sameNode =>
      rw [sameNode] at present
      exact Or.inl (kept present)
  | selected snapshot now order arm popped isSelect chosen nodeTurn =>
      rcases nodeTurn.tickets present with
        ⟨earlier, found, _⟩ |
          ⟨keyed, source, receivedAt, sender, isTicket, accepts⟩
      · exact Or.inl (kept found)
      · subst isTicket
        exact Or.inr ⟨managed.ticket,
          ⟨snapshot, now, order, source, receivedAt, popped, sender,
            isSelect, chosen, accepts⟩, keyed⟩
  | sent command nodeTurn =>
      rcases nodeTurn.tickets present with
        ⟨earlier, found, _⟩ | ⟨_, _, _, _, isTicket, _⟩
      · exact Or.inl (kept found)
      · cases isTicket
  | answered result replied nodeTurn =>
      rcases nodeTurn.tickets present with
        ⟨earlier, found, _⟩ | ⟨_, _, _, _, isTicket, _⟩
      · exact Or.inl (kept found)
      · cases isTicket
  | served command effect origin sameNode =>
      rw [sameNode] at present
      exact Or.inl (kept present)

/-- A turn of the loop asks for a new tunnel only for a ticket it accepts. -/
theorem preparing_of_node
    {self next : System P} {arm : NodeInput}
    {command : Option DeviceCommand} {session : SessionKey}
    (nodeTurn : self.node.Turn arm next.node command)
    (sameDevice : next.device = self.device)
    (sameCommands : next.commands = self.commands)
    (waiting : next.Preparing session) :
    self.Preparing session ∨
      ∃ source ticket now sender,
        arm = .control ⟨source, .ticket ticket⟩ now ∧
          self.node.Accepts source ticket now sender ∧
          ticket.session = session := by
  unfold Preparing outstanding at waiting
  rw [sameDevice, sameCommands] at waiting
  rcases waiting with ⟨key, member⟩ | initiating
  · rcases List.mem_append.mp member with queued | unsent
    · exact Or.inl (Or.inl ⟨key, List.mem_append_left _ queued⟩)
    · rcases nodeTurn.prepare_unsent unsent with earlier | accepted
      · exact Or.inl (Or.inl ⟨key, List.mem_append_right _ earlier⟩)
      · exact Or.inr accepted
  · exact Or.inl (Or.inr initiating)

/-- A tunnel is being prepared after a step only if it was before, or its ticket
has just been accepted. -/
theorem Turn.preparing
    {self next : System P} {input : SystemInput}
    {output : Option RelayPacket} {session : SessionKey}
    (turn : self.Turn input next output)
    (waiting : next.Preparing session) :
    self.Preparing session ∨
      ∃ ticket,
        self.AcceptsTicket input ticket ∧ ticket.session = session := by
  cases turn with
  | arrived sameNode sameDevice sameCommands =>
      unfold Preparing outstanding at waiting
      rw [sameNode, sameDevice, sameCommands] at waiting
      exact Or.inl waiting
  | selected snapshot now order arm popped isSelect chosen nodeTurn
      sameDevice sameCommands =>
      rcases preparing_of_node nodeTurn sameDevice sameCommands waiting with
        earlier | ⟨source, ticket, receivedAt, sender, isTicket, accepts,
          keyed⟩
      · exact Or.inl earlier
      · subst isTicket
        exact Or.inr ⟨ticket,
          ⟨snapshot, now, order, source, receivedAt, popped, sender,
            isSelect, chosen, accepts⟩, keyed⟩
  | sent command nodeTurn sameDevice queued =>
      unfold Preparing at waiting
      rw [outstanding_of_sent nodeTurn queued, sameDevice] at waiting
      exact Or.inl waiting
  | answered result replied nodeTurn sameDevice sameCommands =>
      rcases preparing_of_node nodeTurn sameDevice sameCommands waiting with
        earlier | ⟨_, _, _, _, isTicket, _⟩
      · exact Or.inl earlier
      · cases isTicket
  | served command effect origin sameNode deviceTurn taken =>
      exact Or.inl (preparing_of_served sameNode deviceTurn taken waiting)

/-! ## Pieces of runs -/

/-- The loop takes its next arm at 1002. -/
def turnInput (order : List SessionKey) : SystemInput :=
  .select ⟨"recipient", [testPeer]⟩ 1002 order

/-- A ticket arrives and its tunnel is set up. -/
def establishInputs (ticket : ShortcutTicket) : List SystemInput :=
  [.controlArrives ⟨.v4 0x0A000002#32, .ticket ticket⟩,
    turnInput [],
    .send,
    .takeCommand [.writeToNetwork [1, 0, 0, 0]],
    .act [] true,
    .act [] true,
    .act [] true,
    .act [] true,
    .takeReply]

/-- A handshake response arrives and the device reports the handshake. -/
def authenticateInputs (session : SessionKey) : List SystemInput :=
  [.inboundArrives ⟨"remote", .shortcutWireGuard session, [2, 0, 0, 0]⟩,
    turnInput [],
    .send,
    .takeCommand [.writeToNetwork [4, 0, 0, 0], .done],
    .act [] true,
    .act [] true,
    .act [] true]

/-- The first session is active, and the handshake of its renewal waits in the
event queue. -/
def renewalInputs : List SystemInput :=
  establishInputs (testTicket 1) ++ [turnInput []] ++
    authenticateInputs (testTicket 1).session ++
    [turnInput [(testTicket 1).session]] ++
    establishInputs (testTicket 2) ++ [turnInput []] ++
    authenticateInputs (testTicket 2).session

/-- The renewal cuts over, and the ticket of the retired session arrives once
more. -/
def replayInputs : List SystemInput :=
  [turnInput [(testTicket 1).session, (testTicket 2).session],
    .send,
    .takeCommand []] ++
    establishInputs (testTicket 1)

end System

end WgLink
