import WgLink.NodeRuns
import WgLink.Shortcut.RouteOwnership

/-!
# Route authority

A ticket is accepted from whoever the AllowedIPs table names as the sender of
its datagram.  The selector that the ticket asks for is not compared with that
table, so the authority of a route is exactly as good as the tickets that were
accepted.
-/

namespace WgLink.Node

open WgLink.Library

variable {R : Type} [RouteManager R]

/-- The step hands the manager a handshake that activates a route for the
session. -/
def Activates
    (record : NodeRecord R) (session : SessionKey) (managed : ManagedSession) :
    Prop :=
  record.before.manager.sessions.lookup session = some managed ∧
  ∃ now order,
    record.input = .event (.authenticatedHandshake session) now order ∧
    (record.before.manager.authenticatedHandshake session now).2 = .ok true

/-- The step accepts the ticket for a new session, from this sender. -/
def AcceptedFrom
    (record : NodeRecord R) (ticket : ShortcutTicket) (sender : Peer) : Prop :=
  ∃ source now,
    record.input = .control ⟨source, .ticket ticket⟩ now ∧
    record.before.Accepts source ticket now sender

/-- The sender already routes every address of the ticket's selector. -/
def Routes (sender : Peer) (ticket : ShortcutTicket) : Prop :=
  ∃ network ∈ sender.allowedIps, network.Covers ticket.selector

/-- The newest acceptance of a session in a log, with the ticket and the peer it
came from. -/
def LastAccepted
    (log : List (NodeRecord R)) (session : SessionKey)
    (ticket : ShortcutTicket) (sender : Peer) : Prop :=
  ticket.session = session ∧
  ∃ between record older,
    log = between ++ record :: older ∧
    AcceptedFrom record ticket sender ∧
    ∀ later ∈ between, ∀ other peer,
      AcceptedFrom later other peer → other.session ≠ session

/-- Every route that a run activates is for a selector that the sender of the
ticket routed when the ticket was accepted. -/
def RouteAuthority (log : List (NodeRecord R)) : Prop :=
  ∀ newer record older,
    log = newer ++ record :: older →
    ∀ session managed,
      Activates record session managed →
      ∃ sender,
        LastAccepted older session managed.ticket sender ∧
        Routes sender managed.ticket

/-- Every session was accepted once, and not again since. -/
theorem lastAccepted_of_execution
    {admits : R → Prop} {log : List (NodeRecord R)} {node : Node R}
    (execution : (machine admits).Execution log node)
    {session : SessionKey} {managed : ManagedSession}
    (present : node.manager.sessions.lookup session = some managed) :
    ∃ sender, LastAccepted log session managed.ticket sender := by
  induction execution generalizing session managed with
  | start started =>
      obtain ⟨key, routes, snapshot, _, rfl⟩ := started
      cases present
  | @step log record earlier taken inductionHypothesis =>
      rcases (turn_of_takes taken).tickets present with
        ⟨held, heldPresent, same⟩ | ⟨keyed, source, now, sender, isTicket,
          accepts⟩
      · obtain ⟨sender, keyed, between, past, older, parts, accepted, none⟩ :=
          inductionHypothesis heldPresent
        refine ⟨sender, same ▸ keyed, record :: between, past, older, ?_,
          same ▸ accepted, ?_⟩
        · rw [parts]
          rfl
        · intro later member other peer again
          rcases List.mem_cons.mp member with rfl | older
          · obtain ⟨_, _, _, accepts⟩ := again
            intro sameSession
            have absent := accepts.absent
            rw [sameSession, heldPresent] at absent
            cases absent
          · exact none later older other peer again
      · refine ⟨sender, keyed, [], record, log, rfl,
          ⟨source, now, isTicket, accepts⟩, ?_⟩
        intro later member
        cases member

/-- Routes are authorised in every run in which each accepted ticket is for a
selector that its sender routes. -/
theorem routeAuthority
    {admits : R → Prop} {log : List (NodeRecord R)} {node : Node R}
    (execution : (machine admits).Execution log node)
    (routed :
      ∀ record ∈ log, ∀ ticket sender,
        AcceptedFrom record ticket sender → Routes sender ticket) :
    RouteAuthority log := by
  intro newer record older parts session managed activates
  subst parts
  obtain ⟨present, _⟩ := activates
  obtain ⟨sender, accepted⟩ :=
    lastAccepted_of_execution execution.split.1 present
  refine ⟨sender, accepted, ?_⟩
  obtain ⟨_, between, past, oldest, parts, acceptance, _⟩ := accepted
  refine routed past ?_ _ _ acceptance
  rw [parts]
  simp

/-! ## A selector that the issuer does not route -/

def testNode (peer : Peer) : Node ShortcutManager.MockRoutes :=
  new "recipient" ⟨∅, []⟩ ⟨"recipient", [peer]⟩

/-- The peer sends a ticket, and the handshake of its shortcut completes. -/
def ticketInputs : List NodeInput :=
  [.control ⟨.v4 0x0A000002#32, .ticket (testTicket 1)⟩ 1001,
    .sent,
    .replied (.ok ()),
    .event (.authenticatedHandshake (testTicket 1).session) 1002
      [(testTicket 1).session]]

theorem testPeer_routes_nothing_else : ¬ Routes testPeer (testTicket 1) := by
  intro authorised
  obtain ⟨network, member, covers⟩ := authorised
  rw [List.mem_singleton.mp member] at covers
  exact absurd (covers (.v4 0xC6336407#32) (by decide)) (by decide)

/-- The step activates a route for the session of the first test ticket. -/
def activatesTestSession
    (record : NodeRecord ShortcutManager.MockRoutes) : Bool :=
  record.input =
      .event (.authenticatedHandshake (testTicket 1).session) 1002
        [(testTicket 1).session] ∧
    record.before.manager.sessions.lookup (testTicket 1).session =
      some ⟨testTicket 1, .handshaking⟩ ∧
    (record.before.manager.authenticatedHandshake (testTicket 1).session
      1002).2 = .ok true

/-- The run of `ticketInputs` on a node with one peer. -/
theorem ticketInputs_run
    {peer : Peer}
    (ran :
      ((machine fun _ : ShortcutManager.MockRoutes => True).run
          (testNode peer) ticketInputs).map
        (fun result =>
          (result.1.all fun record =>
              record.before.currentSnapshot.peers = [peer] ∧
                record.input ∈ ticketInputs,
            result.1.head?.any activatesTestSession)) =
        some (true, true)) :
    ∃ log node,
      (machine fun _ : ShortcutManager.MockRoutes => True).Execution
        log node ∧
      (∀ record ∈ log,
        record.before.currentSnapshot.peers = [peer] ∧
          record.input ∈ ticketInputs) ∧
      ∃ record older,
        log = record :: older ∧
        Activates record (testTicket 1).session
          ⟨testTicket 1, .handshaking⟩ := by
  have started :
      (machine fun _ : ShortcutManager.MockRoutes => True).start
        (testNode peer) :=
    ⟨_, _, _, trivial, rfl⟩
  obtain ⟨log, node, execution, steps⟩ :=
    Machine.exists_execution_of_run started ran
  simp only [Prod.mk.injEq, List.all_eq_true, decide_eq_true_eq,
    Option.any_eq_true] at steps
  obtain ⟨listed, record, newest, activates⟩ := steps
  obtain ⟨older, rfl⟩ := List.head?_eq_some_iff.mp newest
  obtain ⟨isEvent, present, activated⟩ := of_decide_eq_true activates
  exact ⟨_, node, execution, listed, record, older, rfl, present, 1002,
    [(testTicket 1).session], isEvent, activated⟩

theorem unauthorised_route_activated :
    ∃ log node,
      (machine fun _ : ShortcutManager.MockRoutes => True).Execution
        log node ∧
      ¬ RouteAuthority log := by
  obtain ⟨log, node, execution, steps, record, older, rfl, activates⟩ :=
    @ticketInputs_run testPeer (by decide)
  refine ⟨_, node, execution, ?_⟩
  intro authority
  obtain ⟨sender, ⟨_, between, past, oldest, parts, accepted, _⟩, routes⟩ :=
    authority [] record older rfl _ _ activates
  obtain ⟨source, now, _, accepts⟩ := accepted
  have member : past ∈ record :: older := by
    rw [parts]
    simp
  have listed := Snapshot.mem_of_routePeer accepts.routed
  rw [(steps past member).1, List.mem_singleton] at listed
  subst listed
  exact testPeer_routes_nothing_else routes

/-- The same run by a peer that routes the selector. -/
theorem routeAuthority_of_routed_ticket :
    ∃ log node,
      (machine fun _ : ShortcutManager.MockRoutes => True).Execution
        log node ∧
      (∃ record ∈ log,
        Activates record (testTicket 1).session
          ⟨testTicket 1, .handshaking⟩) ∧
      RouteAuthority log := by
  obtain ⟨log, node, execution, steps, record, older, rfl, activates⟩ :=
    @ticketInputs_run
      { testPeer with
        allowedIps :=
          [.v4 0x0A000002#32 (Fin.last 32), (testTicket 1).selector] }
      (by decide)
  refine ⟨_, node, execution, ⟨record, List.mem_cons_self, activates⟩,
    routeAuthority execution ?_⟩
  intro past member ticket sender accepted
  obtain ⟨source, now, isTicket, accepts⟩ := accepted
  have listed := Snapshot.mem_of_routePeer accepts.routed
  rw [(steps past member).1, List.mem_singleton] at listed
  subst listed
  have sameTicket : ticket = testTicket 1 := by
    have delivered := (steps past member).2
    rw [isTicket] at delivered
    simp only [ticketInputs, List.mem_cons, NodeInput.control.injEq,
      ReceivedControl.mk.injEq, ControlMessage.ticket.injEq, reduceCtorEq,
      List.not_mem_nil, or_false] at delivered
    exact delivered.1.2
  subst sameTicket
  exact ⟨(testTicket 1).selector, by simp, fun _ contained => contained⟩

end WgLink.Node
