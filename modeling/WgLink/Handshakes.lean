import WgLink.SessionAgreement

/-!
# Handshakes through the device

What the device makes of handshake messages when every message is valid: an
initiation is answered with a response, a response with data, and both complete
a handshake.  A device that answers has reported the handshake before the answer
leaves, and a response that reaches a tunnel is reported too.
-/

namespace WgLink

open WgLink.Library

/-! ## Valid messages -/

/-- The payload is a handshake response. -/
def IsResponse (payload : Bytes) : Prop :=
  wireguardMessageType payload = some handshakeResponse

instance (payload : Bytes) : Decidable (IsResponse payload) :=
  inferInstanceAs (Decidable (_ = _))

/-- What `boringtun` answers to a valid datagram. -/
def answersValid (datagram : Bytes) : List TunnResult → Bool
  | [.writeToNetwork packet, .done] =>
      (wireguardMessageType datagram == some handshakeInitiation &&
        wireguardMessageType packet == some handshakeResponse) ||
      (wireguardMessageType datagram == some handshakeResponse &&
        wireguardMessageType packet == some transportData)
  | [.done] | [.writeToTunnel _, .done] =>
      wireguardMessageType datagram == some transportData
  | _ => false

/-- What `boringtun` gives for a packet of its own or from a timer: nothing, or
a packet that is not a response. -/
def actsUnasked : List TunnResult → Bool
  | [.done] => true
  | [.writeToNetwork packet] =>
      wireguardMessageType packet != some handshakeResponse
  | _ => false

theorem encapsulate_of_unasked
    {results : List TunnResult} (unasked : actsUnasked results = true) :
    ∃ output,
      ShortcutTunnel.encapsulate results = some (.ok output) ∧
      ∀ packet ∈ output.networkPackets, ¬ IsResponse packet := by
  unfold actsUnasked at unasked
  split at unasked
  · exact ⟨.default, rfl, by simp [TunnelOutput.default]⟩
  · rename_i packet
    refine ⟨⟨[packet], [], false⟩, rfl, ?_⟩
    intro other member
    rw [List.mem_singleton] at member
    simpa [IsResponse, member] using unasked
  · cases unasked

theorem authenticates_nil (datagram : Bytes) :
    ShortcutTunnel.authenticates datagram [] = false := by
  unfold ShortcutTunnel.authenticates
  cases wireguardMessageType datagram <;> simp

/-- A valid initiation is answered, a valid response is accepted, and nothing
else completes a handshake. -/
theorem receive_of_valid
    {datagram : Bytes} {results : List TunnResult}
    (valid : answersValid datagram results = true) :
    ∃ output,
      ShortcutTunnel.receive datagram results = some (.ok output) ∧
      (output.authenticatedHandshake = true →
        IsResponse datagram ∨
          ∃ packet ∈ output.networkPackets, IsResponse packet) ∧
      ((∃ packet ∈ output.networkPackets, IsResponse packet) →
        output.authenticatedHandshake = true) ∧
      (IsResponse datagram → output.authenticatedHandshake = true) := by
  unfold answersValid at valid
  split at valid
  · rename_i packet
    refine ⟨⟨[packet], [], true⟩, ?_, ?_, fun _ => rfl, fun _ => rfl⟩
    · simp only [Bool.or_eq_true, Bool.and_eq_true, beq_iff_eq] at valid
      rcases valid with ⟨initiation, response⟩ | ⟨response, data⟩
      · simp [ShortcutTunnel.receive, ShortcutTunnel.receiveLoop,
          collectResult, TunnelOutput.default, Except.map,
          ShortcutTunnel.authenticates, initiation, response]
      · simp [ShortcutTunnel.receive, ShortcutTunnel.receiveLoop,
          collectResult, TunnelOutput.default, Except.map,
          ShortcutTunnel.authenticates, response, data,
          handshakeResponse, handshakeInitiation]
    · intro _
      simp only [Bool.or_eq_true, Bool.and_eq_true, beq_iff_eq] at valid
      rcases valid with ⟨_, response⟩ | ⟨response, _⟩
      · exact Or.inr ⟨packet, List.mem_singleton_self packet, response⟩
      · exact Or.inl response
  · have notResponse : ¬ IsResponse datagram := by
      rw [beq_iff_eq] at valid
      simp [IsResponse, valid, transportData, handshakeResponse]
    refine ⟨⟨[], [], false⟩, ?_, by simp, ?_, fun response =>
      absurd response notResponse⟩
    · simp [ShortcutTunnel.receive, ShortcutTunnel.receiveLoop,
        collectResult, TunnelOutput.default, Except.map,
        authenticates_nil]
    · intro found
      obtain ⟨packet, member, _⟩ := found
      cases member
  · rename_i packet
    have notResponse : ¬ IsResponse datagram := by
      rw [beq_iff_eq] at valid
      simp [IsResponse, valid, transportData, handshakeResponse]
    refine ⟨⟨[], [packet], false⟩, ?_, by simp, ?_, fun response =>
      absurd response notResponse⟩
    · simp [ShortcutTunnel.receive, ShortcutTunnel.receiveLoop,
        collectResult, TunnelOutput.default, Except.map,
        authenticates_nil]
    · intro found
      obtain ⟨packet, member, _⟩ := found
      cases member
  · cases valid

/-! ## Answers on their way out -/

/-- The packet carries a handshake response of the session. -/
def RelayPacket.Responds (packet : RelayPacket) (session : SessionKey) :
    Prop :=
  packet.channel = .shortcutWireGuard session ∧ IsResponse packet.payload

/-- The action will send a handshake response of the session. -/
def DeviceAction.Answers (session : SessionKey) : DeviceAction → Prop
  | .transmit other _ packets =>
      other = session ∧ ∃ packet ∈ packets, IsResponse packet
  | .emit _ | .initiate _ _ _ | .inject _ | .tend _ | .reply _ => False

namespace DeviceTask

/-- A handshake response of the session waits to be sent. -/
def Answering (self : DeviceTask) (session : SessionKey) : Prop :=
  ∃ action ∈ self.pending, action.Answers session

/-- What a step of the device does to handshakes when all messages are
valid. -/
structure Progress
    (before after : DeviceTask) (command : Option DeviceCommand)
    (effect : DeviceEffect) : Prop where
  answering :
    ∀ session,
      before.Answering session →
      after.Answering session ∨
        ∃ packet, effect = .packet packet ∧ packet.Responds session
  answered :
    ∀ session,
      after.Answering session →
      before.Answering session ∨
        .emit (.authenticatedHandshake session) ∈ after.pending
  sent :
    ∀ session packet,
      effect = .packet packet →
      packet.Responds session →
      before.Answering session
  reported :
    ∀ session,
      .emit (.authenticatedHandshake session) ∈ after.pending →
      .emit (.authenticatedHandshake session) ∈ before.pending ∨
        after.Answering session ∨
        ∃ runtime datagram,
          command =
            some (.receive session runtime.remotePublicKey datagram) ∧
          before.sessions.lookup session = some runtime ∧
          IsResponse datagram
  accepted :
    ∀ session runtime datagram,
      command = some (.receive session runtime.remotePublicKey datagram) →
      before.sessions.lookup session = some runtime →
      IsResponse datagram →
      .emit (.authenticatedHandshake session) ∈ after.pending
  sound :
    ∀ session,
      .emit (.sessionFailed session) ∈ after.pending →
      .emit (.sessionFailed session) ∈ before.pending

/-- The first pending action is replaced by others that neither answer nor
report anything. -/
theorem Progress.of_replaced
    {self next : DeviceTask} {first : DeviceAction}
    {others rest : List DeviceAction} {effect : DeviceEffect}
    (pending : self.pending = first :: rest)
    (reached : next.pending = others ++ rest)
    (plain : ∀ session, ¬ first.Answers session)
    (silent :
      ∀ action ∈ others,
        (∀ session, ¬ action.Answers session) ∧
          ∀ event, action ≠ .emit event)
    (noPacket : ∀ packet, effect ≠ .packet packet) :
    Progress self next none effect := by
  have kept :
      ∀ event, .emit event ∈ next.pending → .emit event ∈ self.pending := by
    intro event member
    rw [reached, List.mem_append] at member
    rcases member with new | old
    · exact absurd rfl ((silent _ new).2 event)
    · exact pending ▸ List.mem_cons_of_mem _ old
  constructor
  · intro session answering
    obtain ⟨action, member, answers⟩ := answering
    rw [pending, List.mem_cons] at member
    rcases member with rfl | later
    · exact absurd answers (plain session)
    · exact Or.inl ⟨action, by simp [reached, later], answers⟩
  · intro session answering
    obtain ⟨action, member, answers⟩ := answering
    rw [reached, List.mem_append] at member
    rcases member with new | old
    · exact absurd answers ((silent action new).1 session)
    · exact Or.inl ⟨action, by simp [pending, old], answers⟩
  · intro session packet same
    exact absurd same (noPacket packet)
  · intro session member
    exact Or.inl (kept _ member)
  · simp
  · intro session member
    exact kept _ member

/-- A branch is begun that neither answers nor reports anything. -/
theorem Progress.of_begun
    {self next : DeviceTask} {command : Option DeviceCommand}
    (idle : self.pending = [])
    (plain :
      ∀ action ∈ next.pending,
        (∀ session, ¬ action.Answers session) ∧
        (∀ session, action ≠ .emit (.authenticatedHandshake session)) ∧
        ∀ session, action ≠ .emit (.sessionFailed session))
    (ignored :
      ∀ session runtime datagram,
        command = some (.receive session runtime.remotePublicKey datagram) →
        self.sessions.lookup session = some runtime →
        ¬ IsResponse datagram) :
    Progress self next command .silent := by
  constructor
  · intro session answering
    obtain ⟨action, member, _⟩ := answering
    rw [idle] at member
    cases member
  · intro session answering
    obtain ⟨action, member, answers⟩ := answering
    exact absurd answers ((plain action member).1 session)
  · simp
  · intro session member
    exact absurd rfl ((plain _ member).2.1 session)
  · intro session runtime datagram isReceive present response
    exact absurd response (ignored session runtime datagram isReceive present)
  · intro session member
    exact absurd rfl ((plain _ member).2.2 session)

/-- One packet of several is handed to the outer transport. -/
theorem transmit_progress
    {self : DeviceTask} {session : SessionKey} {peerKey : String}
    {packet : Bytes} {packets : List Bytes} {rest : List DeviceAction}
    (pending :
      self.pending = .transmit session peerKey (packet :: packets) :: rest) :
    Progress self
      { self with pending := .transmit session peerKey packets :: rest }
      none (.packet ⟨peerKey, .shortcutWireGuard session, packet⟩) := by
  constructor
  · intro other answering
    obtain ⟨action, member, answers⟩ := answering
    rw [pending, List.mem_cons] at member
    rcases member with rfl | later
    · obtain ⟨rfl, response, listed, isResponse⟩ := answers
      rcases List.mem_cons.mp listed with rfl | remaining
      · exact Or.inr ⟨_, rfl, rfl, isResponse⟩
      · exact Or.inl ⟨.transmit session peerKey packets,
          List.mem_cons_self, rfl, response, remaining, isResponse⟩
    · exact Or.inl ⟨action, List.mem_cons_of_mem _ later, answers⟩
  · intro other answering
    obtain ⟨action, member, answers⟩ := answering
    apply Or.inl
    rcases List.mem_cons.mp member with rfl | later
    · obtain ⟨rfl, response, listed, isResponse⟩ := answers
      exact ⟨.transmit session peerKey (packet :: packets),
        pending ▸ List.mem_cons_self, rfl, response,
        List.mem_cons_of_mem _ listed, isResponse⟩
    · exact ⟨action, pending ▸ List.mem_cons_of_mem _ later, answers⟩
  · intro other sent same responds
    obtain ⟨channel, isResponse⟩ := responds
    cases same
    cases channel
    exact ⟨.transmit session peerKey (packet :: packets),
      pending ▸ List.mem_cons_self, rfl, packet, List.mem_cons_self,
      isResponse⟩
  · intro other member
    exact Or.inl (by simpa [pending] using member)
  · simp
  · intro other member
    simpa [pending] using member

/-- The device goes on in a branch. -/
theorem act_progress
    {self next : DeviceTask} {results : List TunnResult}
    {effect : DeviceEffect} (free : self.Free)
    (unasked : actsUnasked results = true)
    (acted : self.act results true = some (next, effect)) :
    Progress self next none effect := by
  unfold act at acted
  split at acted
  · cases acted
  · rename_i event rest pending
    cases acted
    exact .of_replaced pending (List.nil_append _).symm (fun _ => id)
      (by simp) (by simp)
  · rename_i session peerKey rest pending
    cases acted
    refine .of_replaced pending (List.nil_append _).symm ?_ (by simp) (by simp)
    intro other answers
    obtain ⟨_, packet, member, _⟩ := answers
    cases member
  · rename_i session peerKey packet packets rest pending
    cases acted
    exact transmit_progress pending
  · rename_i session runtime rest pending
    exact absurd rfl
      ((free _ (pending ▸ List.mem_cons_self)).1 session runtime _)
  · rename_i session runtime packet packets rest pending
    exact absurd rfl
      ((free _ (pending ▸ List.mem_cons_self)).1 session runtime _)
  · rename_i packet rest pending
    cases acted
    exact .of_replaced pending (List.nil_append _).symm (fun _ => id)
      (by simp) (by simp)
  · rename_i session rest pending
    split at acted
    · cases acted
      exact .of_replaced pending (List.nil_append _).symm (fun _ => id)
        (by simp) (by simp)
    · rename_i runtime present
      obtain ⟨output, encapsulated, plain⟩ := encapsulate_of_unasked unasked
      rw [encapsulated] at acted
      cases acted
      refine .of_replaced pending List.singleton_append.symm
        (fun _ => id) ?_ (by simp)
      intro action member
      rw [List.mem_singleton] at member
      subst member
      refine ⟨?_, by simp⟩
      intro other answers
      obtain ⟨_, packet, listed, response⟩ := answers
      exact plain packet listed response
  · rename_i result rest pending
    exact absurd rfl ((free _ (pending ▸ List.mem_cons_self)).2 result)

/-- A packet from the TUN device is taken up. -/
theorem tunPacket_progress
    {self next : DeviceTask} (idle : self.pending = [])
    {routes : DeviceRoutes} {order : List IpNet} {inner : Bytes}
    {results : List TunnResult} (unasked : actsUnasked results = true)
    (taken : self.tunPacket routes order inner results = some next) :
    Progress self next none .silent := by
  have unchanged : Progress self self none .silent :=
    .of_begun idle (by simp [idle]) (by simp)
  obtain ⟨output, encapsulated, plain⟩ := encapsulate_of_unasked unasked
  unfold tunPacket at taken
  split at taken
  · cases taken
    exact unchanged
  · rename_i source destination _
    split at taken
    · cases taken
      refine .of_begun idle ?_ (by simp)
      intro action member
      rw [List.mem_singleton] at member
      subst member
      exact ⟨fun _ => id, by simp, by simp⟩
    · rename_i target _
      split at taken
      · cases taken
        exact unchanged
      · rename_i runtime present
        rw [encapsulated] at taken
        cases taken
        refine .of_begun idle ?_ (by simp)
        intro action member
        have sends := List.mem_singleton.mp member
        subst sends
        refine ⟨?_, by simp, by simp⟩
        intro session answers
        obtain ⟨_, packet, listed, response⟩ := answers
        exact plain packet listed response

/-- A timer tick is taken up. -/
theorem timerTick_progress
    {self next : DeviceTask} (idle : self.pending = [])
    {order : List SessionKey} (taken : self.timerTick order = some next) :
    Progress self next none .silent := by
  unfold timerTick at taken
  split at taken
  · cases taken
    refine .of_begun idle ?_ (by simp)
    intro action member
    obtain ⟨session, _, rfl⟩ := List.mem_map.mp member
    exact ⟨fun _ => id, by simp, by simp⟩
  · cases taken

/-- A datagram that the tunnel has accepted is reported as it completes a
handshake or not. -/
theorem received_progress
    {self : DeviceTask} (idle : self.pending = [])
    {session : SessionKey} {runtime : SessionRuntime} {datagram : Bytes}
    {output : TunnelOutput}
    (present : self.sessions.lookup session = some runtime)
    (reason :
      output.authenticatedHandshake = true →
      IsResponse datagram ∨
        ∃ packet ∈ output.networkPackets, IsResponse packet)
    (answered :
      (∃ packet ∈ output.networkPackets, IsResponse packet) →
      output.authenticatedHandshake = true)
    (response :
      IsResponse datagram → output.authenticatedHandshake = true) :
    Progress self (self.received session runtime output)
      (some (.receive session runtime.remotePublicKey datagram))
      .silent := by
  have report :
      ∀ other,
        .emit (.authenticatedHandshake other) ∈
            (self.received session runtime output).pending ↔
          other = session ∧ output.authenticatedHandshake = true := by
    intro other
    constructor
    · intro member
      have listed := mem_received member
      simpa using listed
    · intro authenticated
      simp [received, authenticated]
  have answers :
      ∀ other,
        (self.received session runtime output).Answering other ↔
          other = session ∧
            ∃ packet ∈ output.networkPackets, IsResponse packet := by
    intro other
    constructor
    · intro answering
      obtain ⟨action, member, answers⟩ := answering
      rcases mem_received member with
        ⟨rfl, _⟩ | ⟨_, _, rfl⟩ | ⟨_, rfl⟩ | rfl
      · cases answers
      · cases answers
      · cases answers
      · exact ⟨answers.1.symm, answers.2⟩
    · intro response
      obtain ⟨rfl, packet⟩ := response
      exact ⟨.transmit other runtime.remotePublicKey output.networkPackets,
        by simp [received], rfl, packet⟩
  constructor
  · intro other answering
    obtain ⟨action, member, _⟩ := answering
    rw [idle] at member
    cases member
  · intro other answering
    obtain ⟨same, packet⟩ := (answers other).mp answering
    exact Or.inr ((report other).mpr ⟨same, answered packet⟩)
  · simp
  · intro other member
    obtain ⟨rfl, authenticated⟩ := (report other).mp member
    rcases reason authenticated with isResponse | packet
    · exact Or.inr (Or.inr ⟨runtime, datagram, rfl, present, isResponse⟩)
    · exact Or.inr (Or.inl ((answers other).mpr ⟨rfl, packet⟩))
  · intro other held otherDatagram same found isResponse
    simp only [Option.some.injEq, DeviceCommand.receive.injEq] at same
    obtain ⟨rfl, _, rfl⟩ := same
    exact (report session).mpr ⟨rfl, response isResponse⟩
  · intro other member
    have listed := mem_received member
    simp at listed

/-- A command is carried out. -/
theorem takeCommand_progress
    {self next : DeviceTask} (idle : self.pending = [])
    {command : DeviceCommand} {results : List TunnResult}
    (unprepared : ∀ session key, command ≠ .prepare session key)
    (valid :
      ∀ session source datagram,
        command = .receive session source datagram →
        answersValid datagram results = true)
    (taken : self.takeCommand command results = some next) :
    Progress self next (some command) .silent := by
  cases command with
  | prepare session key =>
      exact absurd rfl (unprepared session key)
  | remove session =>
      cases taken
      exact .of_begun idle (by simp [idle]) (by simp)
  | receive session source datagram =>
      obtain ⟨output, received, reason, answered, response⟩ :=
        receive_of_valid (valid session source datagram rfl)
      simp only [takeCommand, received] at taken
      split at taken
      · rename_i absent
        cases taken
        refine .of_begun idle (by simp [idle]) ?_
        intro other runtime otherDatagram same present
        cases same
        rw [absent] at present
        cases present
      · rename_i runtime present
        split at taken
        · rename_i foreign
          cases taken
          refine .of_begun idle (by simp [idle]) ?_
          intro other held otherDatagram same found
          cases same
          rw [present] at found
          cases found
          exact absurd rfl foreign
        · rename_i own
          cases taken
          rw [ne_eq, not_not] at own
          subst own
          exact received_progress idle present reason answered response

end DeviceTask

end WgLink
