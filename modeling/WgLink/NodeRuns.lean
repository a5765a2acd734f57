import Mathlib.Logic.Relation
import WgLink.Node
import WgLink.Shortcut.ManagerRuns

/-!
# Turns of the message loop

`Turn` lists everything one step of the loop can do; later proofs go by its
cases and do not unfold the loop again.  Seen from the manager a turn is a
sequence of manager operations, so a run of the node is a run of the manager.
-/

namespace WgLink

open WgLink.Library

namespace Node

variable {R : Type}

/-- The node with another manager, in another phase. -/
def withManager
    (self : Node R) (manager : ShortcutManager R) (phase : LoopPhase) :
    Node R :=
  { self with controller := { self.controller with manager }, phase }

@[simp]
theorem manager_withManager
    (self : Node R) (manager : ShortcutManager R) (phase : LoopPhase) :
    (self.withManager manager phase).manager = manager := rfl

@[simp]
theorem phase_withManager
    (self : Node R) (manager : ShortcutManager R) (phase : LoopPhase) :
    (self.withManager manager phase).phase = phase := rfl

theorem withManager_self
    {self : Node R} (selecting : self.phase = .selecting) :
    self.withManager self.manager (.ofCommands []) = self := by
  unfold withManager LoopPhase.ofCommands
  rw [← selecting]
  rfl

/-- The loop accepts a ticket from `source` for a new session. -/
structure Accepts
    (node : Node R) (source : IpAddr) (ticket : ShortcutTicket)
    (now : UInt64) (sender : Peer) : Prop where
  selecting : node.phase = .selecting
  routed : node.currentSnapshot.routePeer source none = some sender
  fresh : freshHandshake sender.latestHandshake now = true
  absent : node.manager.sessions.lookup ticket.session = none
  valid : ticket.validate now = .ok ()
  issuer : ticket.issuerPublicKey = sender.publicKey
  recipient : ticket.recipientPublicKey = node.controller.localPublicKey

/-- The manager after a ticket has been accepted. -/
def accepting (self : Node R) (ticket : ShortcutTicket) : ShortcutManager R :=
  { self.manager with
    sessions :=
      self.manager.sessions.insert ticket.session ⟨ticket, .prepared⟩ }

/-- Inputs that neither name a session that has authenticated or failed, nor
end a call of the device. -/
def Passive : NodeInput → Prop
  | .poll _ _ _ | .sent | .replied _ => False
  | .control _ _ | .inbound _ => True
  | .event (.authenticatedHandshake _) _ _
  | .event (.sessionFailed _) _ _ => False
  | .event _ _ _ => True

section Turns

variable [RouteManager R]

/-- What one step of the loop can do. -/
inductive Turn (self : Node R) :
    NodeInput → Node R → Option DeviceCommand → Prop
  | expired (snapshot : Snapshot) (now : UInt64)
      (order expired : List SessionKey) :
      self.phase = .selecting →
      HashMap.Iterates order self.manager.sessions →
      (self.manager.expire now order).2 = .ok expired →
      Turn self (.poll snapshot now order)
        { self.withManager (self.manager.expire now order).1
            (.ofCommands (expired.map .remove)) with
          currentSnapshot := snapshot }
        none
  | stopped (snapshot : Snapshot) (now : UInt64) (order : List SessionKey)
      (error : String) :
      self.phase = .selecting →
      HashMap.Iterates order self.manager.sessions →
      (self.manager.expire now order).2 = .error error →
      Turn self (.poll snapshot now order)
        { self.withManager (self.manager.expire now order).1
            (.stopped error) with
          currentSnapshot := snapshot }
        none
  | ignored (input : NodeInput) :
      self.phase = .selecting →
      Passive input →
      Turn self input self none
  | accepted (source : IpAddr) (ticket : ShortcutTicket) (now : UInt64)
      (sender : Peer) :
      self.Accepts source ticket now sender →
      Turn self (.control ⟨source, .ticket ticket⟩ now)
        (self.withManager (self.accepting ticket)
          (.preparing ticket.session
            (.prepare ticket.session ticket.remotePublicKey)))
        none
  | relayed (packet : InboundRelayPacket) (session : SessionKey) :
      self.phase = .selecting →
      packet.channel = .shortcutWireGuard session →
      Turn self (.inbound packet)
        (self.withManager self.manager
          (.sending [.receive session packet.sourceKey packet.payload]))
        none
  | failed (session : SessionKey) (now : UInt64) (order : List SessionKey) :
      self.phase = .selecting →
      Turn self (.event (.sessionFailed session) now order)
        (self.withManager (self.manager.fail session).1 .selecting)
        none
  | confirmed (session : SessionKey) (now : UInt64)
      (order : List SessionKey) :
      self.phase = .selecting →
      self.manager.phase session = some .active →
      Turn self (.event (.authenticatedHandshake session) now order) self none
  | activated (session : SessionKey) (now : UInt64)
      (order : List SessionKey) :
      self.phase = .selecting →
      (self.manager.authenticatedHandshake session now).2 = .ok true →
      HashMap.Iterates order
        (self.manager.authenticatedHandshake session now).1.sessions →
      Turn self (.event (.authenticatedHandshake session) now order)
        (self.withManager
          ((self.manager.authenticatedHandshake session now).1.retireDraining
            order).1
          (.ofCommands
            (((self.manager.authenticatedHandshake session
              now).1.drainingSessions order).map .remove)))
        none
  | rejected (session : SessionKey) (now : UInt64) (order : List SessionKey)
      (error : String) :
      self.phase = .selecting →
      (self.manager.authenticatedHandshake session now).2 = .error error →
      Turn self (.event (.authenticatedHandshake session) now order)
        (self.withManager
          ((self.manager.authenticatedHandshake session now).1.fail session).1
          (.sending [.remove session]))
        none
  | sent (command : DeviceCommand) (rest : List DeviceCommand) :
      self.phase = .sending (command :: rest) →
      Turn self .sent
        (self.withManager self.manager (.ofCommands rest))
        (some command)
  | sentPrepare (session : SessionKey) (command : DeviceCommand) :
      self.phase = .preparing session command →
      Turn self .sent
        (self.withManager self.manager (.awaiting session))
        (some command)
  | prepared (session : SessionKey) :
      self.phase = .awaiting session →
      Turn self (.replied (.ok ()))
        (self.withManager (self.manager.markHandshaking session).1 .selecting)
        none
  | prepareFailed (session : SessionKey) (error : String) :
      self.phase = .awaiting session →
      Turn self (.replied (.error error))
        (self.withManager (self.manager.fail session).1 .selecting)
        none

/-- What sending a command does. -/
theorem Turn.of_sent
    {self next : Node R} {output : Option DeviceCommand}
    (turn : self.Turn .sent next output) :
    (∃ command rest,
      self.phase = .sending (command :: rest) ∧
      output = some command ∧
      next = self.withManager self.manager (.ofCommands rest)) ∨
    (∃ session command,
      self.phase = .preparing session command ∧
      output = some command ∧
      next = self.withManager self.manager (.awaiting session)) := by
  cases turn with
  | ignored _ _ passive =>
      cases passive
  | sent command rest sending =>
      exact Or.inl ⟨command, rest, sending, rfl, rfl⟩
  | sentPrepare session command preparing =>
      exact Or.inr ⟨session, command, preparing, rfl, rfl⟩

/-- What the response of `prepare` does. -/
theorem Turn.of_replied
    {self next : Node R} {result : Except String Unit}
    {output : Option DeviceCommand}
    (turn : self.Turn (.replied result) next output) :
    ∃ session,
      self.phase = .awaiting session ∧
      ((result = .ok () ∧
          next =
            self.withManager (self.manager.markHandshaking session).1
              .selecting) ∨
        ((∃ error, result = .error error) ∧
          next =
            self.withManager (self.manager.fail session).1 .selecting)) := by
  cases turn with
  | ignored _ _ passive =>
      cases passive
  | prepared session awaiting =>
      exact ⟨session, awaiting, Or.inl ⟨rfl, rfl⟩⟩
  | prepareFailed session error awaiting =>
      exact ⟨session, awaiting, Or.inr ⟨⟨error, rfl⟩, rfl⟩⟩

end Turns

theorem ticketArrived_cases
    (self : Node R) (source : IpAddr) (ticket : ShortcutTicket)
    (now : UInt64) (selecting : self.phase = .selecting) :
    self.ticketArrived source ticket now = self ∨
    ∃ sender,
      self.Accepts source ticket now sender ∧
      self.ticketArrived source ticket now =
        self.withManager (self.accepting ticket)
          (.preparing ticket.session
            (.prepare ticket.session ticket.remotePublicKey)) := by
  unfold ticketArrived
  cases routed : self.currentSnapshot.routePeer source none with
  | none =>
      exact Or.inl rfl
  | some sender =>
      by_cases fresh : freshHandshake sender.latestHandshake now = true
      · simp only [fresh, if_true, ShortcutController.beginTicket]
        rcases ShortcutManager.receiveTicket_cases self.manager ticket
            sender.publicKey self.controller.localPublicKey now with
          ⟨error, outcome⟩ | ⟨existing, _, _, outcome⟩ |
            ⟨absent, valid, issuer, recipient, outcome⟩
        · unfold manager at outcome
          rw [outcome]
          exact Or.inl rfl
        · unfold manager at outcome
          rw [outcome]
          exact Or.inl rfl
        · refine Or.inr ⟨sender,
            ⟨selecting, routed, fresh, absent, valid, issuer, recipient⟩, ?_⟩
          unfold manager at outcome
          rw [outcome]
          rfl
      · rw [Bool.not_eq_true] at fresh
        simp [fresh]

theorem Accepts.receives
    {self : Node R} {source : IpAddr} {ticket : ShortcutTicket}
    {now : UInt64} {sender : Peer}
    (accepts : self.Accepts source ticket now sender) :
    (self.manager.receiveTicket ticket sender.publicKey
      self.controller.localPublicKey now).1 = self.accepting ticket := by
  unfold ShortcutManager.receiveTicket
  rw [accepts.valid, accepts.issuer, accepts.recipient, accepts.absent]
  simp [accepting]

variable [RouteManager R]

theorem controlArrived_turn
    {self : Node R} (selecting : self.phase = .selecting)
    (received : ReceivedControl) (now : UInt64) :
    self.Turn (.control received now) (self.controlArrived received now)
      none := by
  obtain ⟨source, message⟩ := received
  cases message with
  | ticket ticket =>
      rcases ticketArrived_cases self source ticket now selecting with
        unchanged | ⟨sender, accepts, outcome⟩
      · have same :
            self.controlArrived ⟨source, .ticket ticket⟩ now = self :=
          unchanged
        rw [same]
        exact .ignored _ selecting trivial
      · have next :
            self.controlArrived ⟨source, .ticket ticket⟩ now =
              self.withManager (self.accepting ticket)
                (.preparing ticket.session
                  (.prepare ticket.session ticket.remotePublicKey)) :=
          outcome
        rw [next]
        exact .accepted source ticket now sender accepts
  | keepalive replyRequested =>
      exact .ignored _ selecting trivial
  | revoke shortcutId epoch =>
      exact .ignored _ selecting trivial
  | status shortcutId epoch status =>
      exact .ignored _ selecting trivial

theorem inboundArrived_turn
    {self : Node R} (selecting : self.phase = .selecting)
    (packet : InboundRelayPacket) :
    self.Turn (.inbound packet) (self.inboundArrived packet) none := by
  unfold inboundArrived
  cases channel : packet.channel with
  | shortcutWireGuard session =>
      exact .relayed packet session selecting channel
  | baseWireGuard =>
      exact .ignored _ selecting trivial
  | pathProbe nonce sentMicros reply =>
      exact .ignored _ selecting trivial

theorem pollTicked_turn
    {self next : Node R} (selecting : self.phase = .selecting)
    {snapshot : Snapshot} {now : UInt64} {order : List SessionKey}
    (ticked : self.pollTicked snapshot now order = some next) :
    self.Turn (.poll snapshot now order) next none := by
  unfold pollTicked at ticked
  split at ticked
  · rename_i iterates
    simp only [ShortcutController.expire] at ticked
    cases outcome : (self.manager.expire now order).2 with
    | error error =>
        unfold manager at outcome
        rw [outcome] at ticked
        cases ticked
        exact .stopped snapshot now order error selecting iterates outcome
    | ok expired =>
        unfold manager at outcome
        rw [outcome] at ticked
        cases ticked
        exact .expired snapshot now order expired selecting iterates outcome
  · cases ticked

/-- A handshake that changes nothing finds its session active. -/
theorem handshake_confirmed
    {self : ShortcutManager R} {session : SessionKey} {now : UInt64}
    (confirmed : (self.authenticatedHandshake session now).2 = .ok false) :
    (self.authenticatedHandshake session now).1 = self ∧
      self.phase session = some .active := by
  rcases ShortcutManager.authenticatedHandshake_cases self session now with
    ⟨⟨error, outcome⟩, _⟩ | ⟨outcome, active⟩ |
      ⟨_, _, _, _, ⟨error, _, outcome⟩ | ⟨_, outcome⟩⟩
  · rw [outcome] at confirmed
    cases confirmed
  · rw [outcome]
    exact ⟨rfl, active⟩
  · rw [outcome] at confirmed
    cases confirmed
  · rw [outcome] at confirmed
    cases confirmed

theorem authenticated_turn
    {self next : Node R} (selecting : self.phase = .selecting)
    {session : SessionKey} {now : UInt64} {order : List SessionKey}
    (arrived :
      self.eventArrived (.authenticatedHandshake session) now order =
        some next) :
    self.Turn (.event (.authenticatedHandshake session) now order) next
      none := by
  simp only [eventArrived] at arrived
  cases reported :
      (self.manager.authenticatedHandshake session now).2 with
  | error error =>
      rw [ShortcutController.handleDeviceEvent_of_error reported] at arrived
      cases arrived
      exact .rejected session now order error selecting reported
  | ok changed =>
      cases changed with
      | false =>
          rw [ShortcutController.handleDeviceEvent_of_confirmed reported]
            at arrived
          obtain ⟨unchanged, active⟩ := handshake_confirmed reported
          cases arrived
          change self.Turn _
            (self.withManager
              (self.manager.authenticatedHandshake session now).1
              (.ofCommands []))
            none
          rw [unchanged, withManager_self selecting]
          exact .confirmed session now order selecting active
      | true =>
          rw [ShortcutController.handleDeviceEvent_of_activated reported]
            at arrived
          split at arrived
          · rename_i iterates
            cases arrived
            exact .activated session now order selecting reported iterates
          · cases arrived

theorem eventArrived_turn
    {self next : Node R} (selecting : self.phase = .selecting)
    {event : DeviceEvent} {now : UInt64} {order : List SessionKey}
    (arrived : self.eventArrived event now order = some next) :
    self.Turn (.event event now order) next none := by
  have ignored :
      ∀ input,
        Passive input →
        self.Turn input
          (self.withManager self.manager (.ofCommands [])) none := by
    intro input passive
    rw [withManager_self selecting]
    exact .ignored input selecting passive
  cases event with
  | authenticatedHandshake session =>
      exact authenticated_turn selecting arrived
  | sessionFailed session =>
      cases arrived
      have turn : self.Turn _ _ _ := .failed session now order selecting
      unfold withManager at turn
      rw [← selecting] at turn
      exact turn
  | handshakeStarted session =>
      cases arrived
      exact ignored _ trivial
  | innerPacket session source destination =>
      cases arrived
      exact ignored _ trivial
  | missingRoute destination =>
      cases arrived
      exact ignored _ trivial

theorem replied_turn
    {self : Node R} {session : SessionKey}
    (awaiting : self.phase = .awaiting session)
    (result : Except String Unit) :
    self.Turn (.replied result)
      { self with
        controller := (self.controller.finishTicket session result).1
        phase := .selecting }
      none := by
  cases result with
  | ok =>
      have marked :
          (self.controller.finishTicket session (.ok ())).1 =
            { self.controller with
              manager := (self.manager.markHandshaking session).1 } := by
        unfold ShortcutController.finishTicket manager
        cases outcome : self.controller.manager.markHandshaking session with
        | mk manager result =>
            cases result <;> rfl
      rw [marked]
      exact .prepared session awaiting
  | error error =>
      have discarded :
          (self.controller.finishTicket session (.error error)).1 =
            { self.controller with
              manager := (self.manager.fail session).1 } := by
        unfold ShortcutController.finishTicket manager
        cases outcome : self.controller.manager.fail session with
        | mk manager result =>
            cases result <;> rfl
      rw [discarded]
      exact .prepareFailed session error awaiting

theorem turn_of_step
    {self next : Node R} {input : NodeInput} {output : Option DeviceCommand}
    (taken : self.step input = some (next, output)) :
    self.Turn input next output := by
  unfold step at taken
  split at taken
  · rename_i snapshot now order selecting
    obtain ⟨_, ticked, result⟩ := Option.map_eq_some_iff.mp taken
    cases result
    exact pollTicked_turn selecting ticked
  · rename_i received now selecting
    cases taken
    exact controlArrived_turn selecting received now
  · rename_i packet selecting
    cases taken
    exact inboundArrived_turn selecting packet
  · rename_i event now order selecting
    obtain ⟨_, arrived, result⟩ := Option.map_eq_some_iff.mp taken
    cases result
    exact eventArrived_turn selecting arrived
  · rename_i command rest sending
    cases taken
    exact .sent command rest sending
  · rename_i session command preparing
    cases taken
    exact .sentPrepare session command preparing
  · rename_i session result awaiting
    cases taken
    exact replied_turn awaiting result
  · cases taken

/-! ## Seen from the manager -/

/-- One operation of the manager. -/
def Operates (before after : ShortcutManager R) : Prop :=
  ∃ operation output, before.step operation = some (after, output)

theorem operates_expire
    {self : ShortcutManager R} {order : List SessionKey}
    (iterates : HashMap.Iterates order self.sessions) (now : UInt64) :
    Operates self (self.expire now order).1 :=
  ⟨.expire now order, _, if_pos iterates⟩

theorem operates_fail (self : ShortcutManager R) (session : SessionKey) :
    Operates self (self.fail session).1 :=
  ⟨.fail session, _, rfl⟩

theorem operates_handshake
    (self : ShortcutManager R) (session : SessionKey) (now : UInt64) :
    Operates self (self.authenticatedHandshake session now).1 :=
  ⟨.authenticatedHandshake session now, _, rfl⟩

/-- A turn of the loop is a sequence of manager operations. -/
theorem Turn.operates
    {self next : Node R} {input : NodeInput} {output : Option DeviceCommand}
    (turn : self.Turn input next output) :
    Relation.ReflTransGen Operates self.manager next.manager := by
  cases turn with
  | expired snapshot now order expired selecting iterates outcome =>
      exact .single (operates_expire iterates now)
  | stopped snapshot now order error selecting iterates outcome =>
      exact .single (operates_expire iterates now)
  | ignored input selecting passive =>
      exact .refl
  | accepted source ticket now sender accepts =>
      rw [manager_withManager, ← accepts.receives]
      exact .single ⟨.receiveTicket ticket sender.publicKey
        self.controller.localPublicKey now, _, rfl⟩
  | relayed packet session selecting channel =>
      exact .refl
  | failed session now order selecting =>
      exact .single (operates_fail _ session)
  | confirmed session now order selecting active =>
      exact .refl
  | activated session now order selecting outcome iterates =>
      refine .tail (.single (operates_handshake _ session now)) ?_
      exact ⟨.retireDraining order, _, if_pos iterates⟩
  | rejected session now order error selecting outcome =>
      exact .tail (.single (operates_handshake _ session now))
        (operates_fail _ session)
  | sent command rest sending =>
      exact .refl
  | sentPrepare session command preparing =>
      exact .refl
  | prepared session awaiting =>
      exact .single ⟨.markHandshaking session, _, rfl⟩
  | prepareFailed session error awaiting =>
      exact .single (operates_fail _ session)

/-- The steps of node runs. -/
abbrev NodeRecord (R : Type) :=
  Record (Node R) NodeInput (Option DeviceCommand)

/-- The machine of the message loop, over routes that `admits` allows. -/
def machine (admits : R → Prop) :
    Machine (Node R) NodeInput (Option DeviceCommand) where
  start node :=
    ∃ localPublicKey routes snapshot,
      admits routes ∧ node = new localPublicKey routes snapshot
  step := step

theorem turn_of_takes
    {admits : R → Prop} {record : NodeRecord R}
    (taken : (machine admits).Takes record) :
    record.before.Turn record.input record.after record.output :=
  turn_of_step taken

theorem execution_of_operates
    {admits : R → Prop} {before after : ShortcutManager R}
    (operated : Relation.ReflTransGen Operates before after)
    (reached :
      ∃ calls, (ShortcutManager.machine admits).Execution calls before) :
    ∃ calls, (ShortcutManager.machine admits).Execution calls after := by
  induction operated with
  | refl =>
      exact reached
  | tail _ operation inductionHypothesis =>
      obtain ⟨calls, execution⟩ := inductionHypothesis
      obtain ⟨input, output, taken⟩ := operation
      exact ⟨_, execution.extend taken⟩

/-- The manager of a node is one that a run of the manager reaches. -/
theorem manager_execution
    {admits : R → Prop} {log : List (NodeRecord R)} {node : Node R}
    (execution : (machine admits).Execution log node) :
    ∃ calls,
      (ShortcutManager.machine admits).Execution calls node.manager := by
  refine @Machine.Execution.state_invariant _ _ _ (machine admits)
    (fun current =>
      ∃ calls,
        (ShortcutManager.machine admits).Execution calls current.manager)
    ?_ ?_ log node execution
  · intro node starts
    obtain ⟨key, routes, snapshot, admitted, rfl⟩ := starts
    exact ⟨[], .start ⟨routes, admitted, rfl⟩⟩
  · intro record reached taken
    exact execution_of_operates (turn_of_takes taken).operates reached

/-! ## Tickets -/

/-- Every session after a turn has the ticket it had before, or is the one that
the turn accepted. -/
theorem Turn.tickets
    {self next : Node R} {input : NodeInput} {output : Option DeviceCommand}
    (turn : self.Turn input next output)
    {session : SessionKey} {managed : ManagedSession}
    (present : next.manager.sessions.lookup session = some managed) :
    (∃ earlier,
      self.manager.sessions.lookup session = some earlier ∧
      managed.ticket = earlier.ticket) ∨
    (managed.ticket.session = session ∧
      ∃ source now sender,
        input = .control ⟨source, .ticket managed.ticket⟩ now ∧
        self.Accepts source managed.ticket now sender) := by
  cases turn with
  | expired snapshot now order expired selecting iterates outcome =>
      exact Or.inl (ShortcutManager.expire_keepsTickets _ now order _ _ present)
  | stopped snapshot now order error selecting iterates outcome =>
      exact Or.inl (ShortcutManager.expire_keepsTickets _ now order _ _ present)
  | ignored input selecting passive =>
      exact Or.inl ⟨managed, present, rfl⟩
  | accepted source ticket now sender accepts =>
      simp only [manager_withManager, accepting,
        HashMap.lookup_insert_eq_ite] at present
      split at present
      · rename_i same
        cases present
        exact Or.inr ⟨same.symm, source, now, sender, rfl, accepts⟩
      · exact Or.inl ⟨managed, present, rfl⟩
  | relayed packet session selecting channel =>
      exact Or.inl ⟨managed, present, rfl⟩
  | failed session now order selecting =>
      exact Or.inl (ShortcutManager.fail_keepsTickets _ _ _ _ present)
  | confirmed session now order selecting active =>
      exact Or.inl ⟨managed, present, rfl⟩
  | activated session now order selecting outcome iterates =>
      obtain ⟨middle, found, same⟩ :=
        ShortcutManager.KeepsTickets.of_erased rfl _ _ present
      obtain ⟨earlier, earlierFound, earlierSame⟩ :=
        ShortcutManager.authenticatedHandshake_keepsTickets _ _ _ _ _ found
      exact Or.inl ⟨earlier, earlierFound, same.trans earlierSame⟩
  | rejected session now order error selecting outcome =>
      obtain ⟨middle, found, same⟩ :=
        ShortcutManager.fail_keepsTickets _ _ _ _ present
      obtain ⟨earlier, earlierFound, earlierSame⟩ :=
        ShortcutManager.authenticatedHandshake_keepsTickets _ _ _ _ _ found
      exact Or.inl ⟨earlier, earlierFound, same.trans earlierSame⟩
  | sent command rest sending =>
      exact Or.inl ⟨managed, present, rfl⟩
  | sentPrepare session command preparing =>
      exact Or.inl ⟨managed, present, rfl⟩
  | prepared session awaiting =>
      exact Or.inl
        (ShortcutManager.markHandshaking_keepsTickets _ _ _ _ present)
  | prepareFailed session error awaiting =>
      exact Or.inl (ShortcutManager.fail_keepsTickets _ _ _ _ present)

end Node

end WgLink
