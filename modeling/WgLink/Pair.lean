import WgLink.Endpoint

/-!
# Both endpoints of a shortcut

Two nodes that have received the tickets of two sessions, and the packets
between them.  Each node cuts over to the session whose handshake it handles
last and forgets the other one at once.  When the handshakes of the sessions
cross, the nodes end up with different sessions, and neither can decrypt what
the other one sends.
-/

namespace WgLink

open WgLink.Library

/-- The two endpoints. -/
inductive Side where
  | left
  | right
deriving DecidableEq

namespace Side

def other : Side → Side
  | left => right
  | right => left

@[simp]
theorem other_other (side : Side) : side.other.other = side := by
  cases side <;> rfl

theorem other_ne (side : Side) : side.other ≠ side := by
  cases side <;> simp [other]

theorem eq_or_other (side query : Side) :
    side = query ∨ side.other = query := by
  cases side <;> cases query <;> simp [other]

end Side

/-- Two nodes, the packets between them with their senders, and a time before
which no ticket expires. -/
structure Pair (P : Type) where
  left : System P
  right : System P
  network : List (Side × RelayPacket)
  deadline : UInt64

/-- A packet is delivered, or one of the nodes goes on. -/
inductive PairInput where
  | deliver (index : Nat)
  | run (side : Side) (input : SystemInput)
deriving DecidableEq

namespace Pair

variable {P : Type}

def endpoint (self : Pair P) : Side → System P
  | .left => self.left
  | .right => self.right

/-- The pair with another state of one node and of the network. -/
def update
    (self : Pair P) (side : Side) (system : System P)
    (network : List (Side × RelayPacket)) : Pair P :=
  match side with
  | .left => { self with left := system, network }
  | .right => { self with right := system, network }

@[simp]
theorem endpoint_update
    (self : Pair P) (side : Side) (system : System P)
    (network : List (Side × RelayPacket)) :
    (self.update side system network).endpoint side = system := by
  cases side <;> rfl

@[simp]
theorem endpoint_update_other
    (self : Pair P) (side : Side) (system : System P)
    (network : List (Side × RelayPacket)) :
    (self.update side system network).endpoint side.other =
      self.endpoint side.other := by
  cases side <;> rfl

@[simp]
theorem network_update
    (self : Pair P) (side : Side) (system : System P)
    (network : List (Side × RelayPacket)) :
    (self.update side system network).network = network := by
  cases side <;> rfl

@[simp]
theorem deadline_update
    (self : Pair P) (side : Side) (system : System P)
    (network : List (Side × RelayPacket)) :
    (self.update side system network).deadline = self.deadline := by
  cases side <;> rfl

/-- The public key of a node. -/
def key (self : Pair P) (side : Side) : String :=
  (self.endpoint side).node.controller.localPublicKey

section Step

variable [PolicyRules P]

/-- One step.  Packets arrive in any order, each once. -/
def step (self : Pair P) : PairInput → Option (Pair P × Unit)
  | .deliver index =>
      match self.network[index]? with
      | none => none
      | some (sender, packet) =>
          if packet.peerKey = self.key sender.other then
            ((self.endpoint sender.other).step
                (.inboundArrives
                  ⟨self.key sender, packet.channel, packet.payload⟩)).map
              fun (system, _) =>
                (self.update sender.other system
                  (self.network.eraseIdx index), ())
          else
            none
  | .run side input =>
      if (self.endpoint side).honest self.deadline input then
        ((self.endpoint side).step input).map fun (system, output) =>
          (self.update side system
            (self.network ++ output.toList.map fun packet => (side, packet)),
            ())
      else
        none

end Step

/-- A handshake response of the session is on its way to a node. -/
def OnWay (self : Pair P) (side : Side) (session : SessionKey) : Prop :=
  (self.endpoint side.other).device.Answering session ∨
    (∃ packet,
      (side.other, packet) ∈ self.network ∧ packet.Responds session) ∨
    (self.endpoint side).Receiving (self.key side.other) session

theorem onWay_update
    (self : Pair P) (side : Side) (system : System P)
    (network : List (Side × RelayPacket)) (session : SessionKey) :
    (self.update side system network).OnWay side session ↔
      (self.endpoint side.other).device.Answering session ∨
        (∃ packet,
          (side.other, packet) ∈ network ∧ packet.Responds session) ∨
        system.Receiving (self.key side.other) session := by
  simp [OnWay, key]

theorem onWay_update_other
    (self : Pair P) {side : Side} {system : System P}
    (sameKey : system.node.controller.localPublicKey = self.key side)
    (network : List (Side × RelayPacket)) (session : SessionKey) :
    (self.update side system network).OnWay side.other session ↔
      system.device.Answering session ∨
        (∃ packet, (side, packet) ∈ network ∧ packet.Responds session) ∨
        (self.endpoint side.other).Receiving (self.key side) session := by
  have same : (self.update side system network).key side = self.key side := by
    simpa [key] using sameKey
  simp [OnWay, same]

/-- A packet that is delivered stays on its way. -/
theorem onWay_of_delivered
    {self : Pair P} {side : Side} {packet : RelayPacket} {index : Nat}
    {system : System P} {inbound : Channel queueCapacity InboundRelayPacket}
    (sent : self.network[index]? = some (side.other, packet))
    (reached : system = { self.endpoint side with inbound })
    (arrived :
      inbound.items =
        (self.endpoint side).inbound.items ++
          [⟨self.key side.other, packet.channel, packet.payload⟩])
    (query : Side) (session : SessionKey) :
    (self.update side system (self.network.eraseIdx index)).OnWay query
        session ↔
      self.OnWay query session := by
  have kept :
      ∀ entry,
        entry ∈ self.network ↔
          entry = (side.other, packet) ∨
            entry ∈ self.network.eraseIdx index := by
    intro entry
    constructor
    · intro member
      obtain ⟨position, found⟩ := List.mem_iff_getElem?.mp member
      by_cases same : position = index
      · subst same
        exact Or.inl (Option.some.inj (found.symm.trans sent))
      · exact Or.inr (List.mem_eraseIdx_iff_getElem?.mpr
          ⟨position, same, found⟩)
    · intro listed
      rcases listed with rfl | member
      · exact List.mem_of_getElem? sent
      · exact List.mem_of_mem_eraseIdx member
  rcases side.eq_or_other query with rfl | rfl
  · rw [onWay_update]
    have receiving :
        system.Receiving (self.key side.other) session ↔
          packet.Responds session ∨
            (self.endpoint side).Receiving (self.key side.other)
              session := by
      simp only [System.Receiving, reached, arrived, List.mem_append,
        List.mem_singleton, or_and_right, exists_or, exists_eq_left,
        true_and, RelayPacket.Responds]
      rw [or_comm (a := ∃ packet, _), or_assoc]
      rfl
    simp only [OnWay, receiving, kept]
    simp only [Prod.mk.injEq, true_and, or_and_right, exists_or,
      exists_eq_left]
    rw [or_assoc]
    exact or_congr_right or_left_comm
  · have sameKey :
        system.node.controller.localPublicKey = self.key side := by
      rw [reached]
      rfl
    have sameDevice : system.device = (self.endpoint side).device := by
      rw [reached]
    have apart := side.other_ne
    rw [onWay_update_other self sameKey]
    simp [OnWay, kept, sameDevice, apart.symm]

/-- What holds throughout: a node has authenticated only what the other one has
authenticated too or will authenticate by a response on its way, and the nodes
never let go of different sessions. -/
structure Invariant
    (pair : Pair P) (selectors : Side → IpNet) (first second : SessionKey) :
    Prop where
  endpoints :
    ∀ side,
      (pair.endpoint side).Endpoint (pair.key side.other) (selectors side)
        pair.deadline
  sessions :
    ∀ side session,
      (pair.endpoint side).Tracks session →
      session = first ∨ session = second
  together :
    ∀ side,
      (pair.endpoint side).Tracks first ∨
        (pair.endpoint side.other).Tracks second
  spread :
    ∀ side session,
      (pair.endpoint side).Notified session →
      (pair.endpoint side.other).Notified session ∨
        pair.OnWay side.other session
  answered :
    ∀ side session,
      pair.OnWay side session →
      (pair.endpoint side.other).Notified session

/-- Nothing is in flight. -/
structure AtRest (pair : Pair P) : Prop where
  network : pair.network = []
  quiescent : ∀ side, (pair.endpoint side).Quiescent
  inbound : ∀ side, (pair.endpoint side).inbound.items = []

instance (pair : Pair P) : Decidable pair.AtRest :=
  decidable_of_iff
    (pair.network = [] ∧
      (pair.left.Quiescent ∧ pair.right.Quiescent) ∧
      pair.left.inbound.items = [] ∧ pair.right.inbound.items = [])
    ⟨fun ⟨network, ⟨left, right⟩, leftInbound, rightInbound⟩ =>
        ⟨network, fun side => by cases side <;> assumption,
          fun side => by cases side <;> assumption⟩,
      fun rest =>
        ⟨rest.network, ⟨rest.quiescent .left, rest.quiescent .right⟩,
          rest.inbound .left, rest.inbound .right⟩⟩

/-- The session has a route. -/
def Active (system : System P) (session : SessionKey) : Prop :=
  ∃ selector,
    system.node.manager.activeRoutes.lookup selector = some session

/-- If both nodes have an active route, each one's active session is held by the
device of the other. -/
def RoutesAgree (self : Pair P) : Prop :=
  (∀ side, ∃ session, Active (self.endpoint side) session) →
  ∀ side session,
    Active (self.endpoint side) session →
    (self.endpoint side.other).device.sessions.lookup session ≠ none

/-- The active session of an endpoint is the one that is in the active phase. -/
theorem phase_of_active
    {system : System P} {remote : String} {selector : IpNet}
    {deadline : UInt64}
    (endpoint : system.Endpoint remote selector deadline)
    {session : SessionKey} (active : Active system session) :
    system.node.manager.phase session = some .active := by
  obtain ⟨other, owner⟩ := active
  by_cases same : other = selector
  · exact (endpoint.manager.owner session).mp (same ▸ owner)
  · rw [endpoint.manager.alone other same] at owner
    cases owner

/-- At rest a node has authenticated a session only by having it active or by
having let it go. -/
theorem AtRest.notified
    {pair : Pair P} (rest : pair.AtRest) {side : Side}
    {session : SessionKey}
    (notified : (pair.endpoint side).Notified session) :
    ¬ (pair.endpoint side).Tracks session ∨
      (pair.endpoint side).node.manager.phase session = some .active := by
  rcases notified with gone | active | queued | pending
  · exact Or.inl gone
  · exact Or.inr active
  · rw [(rest.quiescent side).events] at queued
    cases queued
  · rw [(rest.quiescent side).idle] at pending
    cases pending

theorem AtRest.not_onWay
    {pair : Pair P} (rest : pair.AtRest) (side : Side)
    (session : SessionKey) : ¬ pair.OnWay side session := by
  intro onWay
  rcases onWay with
    ⟨action, member, _⟩ | ⟨packet, member, _⟩ | ⟨packet, member, _⟩ |
      ⟨datagram, member, _⟩
  · rw [(rest.quiescent side.other).idle] at member
    cases member
  · rw [rest.network] at member
    cases member
  · rw [rest.inbound side] at member
    cases member
  · simp [System.outstanding, (rest.quiescent side).commands,
      (rest.quiescent side).selecting] at member

/-- At rest the active session of a node is one that the other node has. -/
theorem Invariant.tracks_of_active
    {pair : Pair P} {selectors : Side → IpNet} {first second : SessionKey}
    (invariant : pair.Invariant selectors first second)
    (rest : pair.AtRest) {side : Side} {session current : SessionKey}
    (active : Active (pair.endpoint side) session)
    (otherActive : Active (pair.endpoint side.other) current) :
    (pair.endpoint side.other).Tracks session := by
  have here := phase_of_active (invariant.endpoints side) active
  have there := phase_of_active (invariant.endpoints side.other) otherActive
  have tracks :
      ∀ {system : System P} {query : SessionKey},
        system.node.manager.phase query = some .active →
        system.Tracks query := by
    intro system query phase absent
    simp [ShortcutManager.phase, absent] at phase
  by_cases same : session = current
  · exact same ▸ tracks there
  · by_contra lost
    have notified : (pair.endpoint side).Notified current := by
      have spread :=
        invariant.spread side.other current (Or.inr (Or.inl there))
      rw [Side.other_other] at spread
      exact spread.resolve_right (rest.not_onWay side current)
    have gone : ¬ (pair.endpoint side).Tracks current := by
      rcases rest.notified notified with gone | alsoActive
      · exact gone
      · have owner := (invariant.endpoints side).manager.owner
        have sameOwner := ((owner session).mpr here).symm.trans
          ((owner current).mpr alsoActive)
        exact absurd (Option.some.inj sameOwner) same
    have together := invariant.together side
    have alsoTogether := invariant.together side.other
    rw [Side.other_other] at alsoTogether
    rcases invariant.sessions side session (tracks here) with rfl | rfl
    · rcases invariant.sessions side.other current (tracks there) with
        rfl | rfl
      · exact same rfl
      · exact alsoTogether.elim lost gone
    · rcases invariant.sessions side.other current (tracks there) with
        rfl | rfl
      · exact together.elim gone lost
      · exact same rfl

/-- At rest the routes of both nodes agree. -/
theorem Invariant.routesAgree
    {pair : Pair P} {selectors : Side → IpNet} {first second : SessionKey}
    (invariant : pair.Invariant selectors first second)
    (rest : pair.AtRest) : pair.RoutesAgree := by
  intro routed side session active
  obtain ⟨current, otherActive⟩ := routed side.other
  have tracked := invariant.tracks_of_active rest active otherActive
  obtain ⟨runtime, present⟩ := (invariant.endpoints side.other).held tracked
  simp [present]

/-- A packet moves from the network into the queue of its receiver. -/
theorem Invariant.deliver
    {pair : Pair P} {selectors : Side → IpNet} {first second : SessionKey}
    (invariant : pair.Invariant selectors first second)
    {side : Side} {packet : RelayPacket} {index : Nat}
    {system : System P} {inbound : Channel queueCapacity InboundRelayPacket}
    (sent : pair.network[index]? = some (side.other, packet))
    (reached : system = { pair.endpoint side with inbound })
    (arrived :
      inbound.items =
        (pair.endpoint side).inbound.items ++
          [⟨pair.key side.other, packet.channel, packet.payload⟩]) :
    (pair.update side system (pair.network.eraseIdx index)).Invariant
      selectors first second := by
  have onWay := onWay_of_delivered sent reached arrived
  have tracks :
      ∀ query session,
        ((pair.update side system
            (pair.network.eraseIdx index)).endpoint query).Tracks session ↔
          (pair.endpoint query).Tracks session := by
    intro query session
    rcases side.eq_or_other query with rfl | rfl
    · rw [endpoint_update, reached]
      rfl
    · rw [endpoint_update_other]
  have notified :
      ∀ query session,
        ((pair.update side system
            (pair.network.eraseIdx index)).endpoint query).Notified session ↔
          (pair.endpoint query).Notified session := by
    intro query session
    rcases side.eq_or_other query with rfl | rfl
    · rw [endpoint_update, reached]
      rfl
    · rw [endpoint_update_other]
  constructor
  · intro query
    rcases side.eq_or_other query with rfl | rfl
    · have endpoint := (invariant.endpoints side).of_arrival inbound
      simpa [key, ← reached] using endpoint
    · have other := invariant.endpoints side.other
      rw [Side.other_other] at other ⊢
      simpa [key, reached] using other
  · intro query session
    rw [tracks]
    exact invariant.sessions query session
  · intro query
    rw [tracks, tracks]
    exact invariant.together query
  · intro query session
    rw [notified, notified, onWay]
    exact invariant.spread query session
  · intro query session
    rw [notified, onWay]
    exact invariant.answered query session

/-- The pair after a step of one node. -/
abbrev ran
    (pair : Pair P) (side : Side) (system : System P)
    (output : Option RelayPacket) : Pair P :=
  pair.update side system
    (pair.network ++ output.toList.map fun packet => (side, packet))

section Run

variable {pair : Pair P} {side : Side} {input : SystemInput}
  {system : System P} {output : Option RelayPacket} {session : SessionKey}

/-- What a node sends is not on its way to that node. -/
theorem onWay_ran :
    (pair.ran side system output).OnWay side session ↔
      (pair.endpoint side.other).device.Answering session ∨
        (∃ packet,
          (side.other, packet) ∈ pair.network ∧ packet.Responds session) ∨
        system.Receiving (pair.key side.other) session := by
  have apart := side.other_ne.symm
  rw [onWay_update]
  simp [apart]

theorem onWay_ran_other
    (sameKey : system.node.controller.localPublicKey = pair.key side) :
    (pair.ran side system output).OnWay side.other session ↔
      system.device.Answering session ∨
        ((∃ packet,
            (side, packet) ∈ pair.network ∧ packet.Responds session) ∨
          ∃ packet, output = some packet ∧ packet.Responds session) ∨
        (pair.endpoint side.other).Receiving (pair.key side) session := by
  rw [onWay_update_other pair sameKey]
  simp [or_and_right, exists_or]

/-- A response to the node that goes on stays on its way until it has been
handled. -/
theorem onWay_kept
    (progress :
      System.Progress (pair.endpoint side) system input output
        (pair.key side.other))
    (onWay : pair.OnWay side session) :
    (pair.ran side system output).OnWay side session ∨
      system.Notified session := by
  rw [onWay_ran]
  rcases onWay with answering | sent | receiving
  · exact Or.inl (Or.inl answering)
  · exact Or.inl (Or.inr (Or.inl sent))
  · rcases progress.receiving session receiving with still | reached
    · exact Or.inl (Or.inr (Or.inr still))
    · exact Or.inr reached

theorem onWay_before
    (progress :
      System.Progress (pair.endpoint side) system input output
        (pair.key side.other))
    (onWay : (pair.ran side system output).OnWay side session) :
    pair.OnWay side session := by
  rw [onWay_ran] at onWay
  rcases onWay with answering | sent | receiving
  · exact Or.inl answering
  · exact Or.inr (Or.inl sent)
  · exact Or.inr (Or.inr (progress.received session receiving))

/-- A response from the node that goes on stays on its way. -/
theorem onWay_other_kept
    (progress :
      System.Progress (pair.endpoint side) system input output
        (pair.key side.other))
    (sameKey : system.node.controller.localPublicKey = pair.key side)
    (onWay : pair.OnWay side.other session) :
    (pair.ran side system output).OnWay side.other session := by
  rw [OnWay, Side.other_other] at onWay
  rw [onWay_ran_other sameKey]
  rcases onWay with answering | sent | receiving
  · rcases progress.answering session answering with still | responded
    · exact Or.inl still
    · exact Or.inr (Or.inl (Or.inr responded))
  · exact Or.inr (Or.inl (Or.inl sent))
  · exact Or.inr (Or.inr receiving)

/-- A node begins to answer only a handshake that it has authenticated. -/
theorem onWay_other_before
    (progress :
      System.Progress (pair.endpoint side) system input output
        (pair.key side.other))
    (sameKey : system.node.controller.localPublicKey = pair.key side)
    (onWay : (pair.ran side system output).OnWay side.other session) :
    pair.OnWay side.other session ∨ system.Notified session := by
  rw [OnWay, Side.other_other]
  rw [onWay_ran_other sameKey] at onWay
  rcases onWay with answering | (sent | ⟨packet, isOutput, responds⟩) |
    receiving
  · rcases progress.answered session answering with earlier | reached
    · exact Or.inl (Or.inl earlier)
    · exact Or.inr reached
  · exact Or.inl (Or.inr (Or.inl sent))
  · exact Or.inl
      (Or.inl (progress.sent session packet isOutput responds))
  · exact Or.inl (Or.inr (Or.inr receiving))

variable {selectors : Side → IpNet} {first second : SessionKey}

/-- A node lets go of a session only for the other one, which the other node
still has. -/
theorem Invariant.together_kept
    (invariant : pair.Invariant selectors first second)
    (progress :
      System.Progress (pair.endpoint side) system input output
        (pair.key side.other))
    (tracked :
      ∀ session,
        (pair.endpoint side).HandlesHandshake input session →
        (pair.endpoint side).ReplacesRoute session →
        (pair.endpoint side.other).Tracks session)
    {lost kept : SessionKey}
    (pairing : lost = first ∧ kept = second ∨ lost = second ∧ kept = first)
    (together :
      (pair.endpoint side).Tracks lost ∨
        (pair.endpoint side.other).Tracks kept) :
    system.Tracks lost ∨ (pair.endpoint side.other).Tracks kept := by
  rcases together with here | there
  · by_cases still : system.Tracks lost
    · exact Or.inl still
    · obtain ⟨chosen, different, handles, replaces, present⟩ :=
        progress.dropped lost here still
      have isKept : chosen = kept := by
        have known :=
          invariant.sessions side chosen (progress.tracks chosen present)
        rcases pairing with ⟨rfl, rfl⟩ | ⟨rfl, rfl⟩
        · exact known.resolve_left different
        · exact known.resolve_right different
      exact Or.inr (isKept ▸ tracked chosen handles replaces)
  · exact Or.inr there

end Run

/-- Both nodes have received the tickets of the two sessions, each for its own
selector, and have set up the tunnels; no handshake has been completed. -/
structure Equipped
    (pair : Pair P) (selectors : Side → IpNet) (first second : SessionKey) :
    Prop where
  quiescent : ∀ side, (pair.endpoint side).Quiescent
  unanswered : ∀ side, (pair.endpoint side).reply = none
  nothingArrived :
    ∀ side,
      (pair.endpoint side).control.items = [] ∧
        (pair.endpoint side).inbound.items = [] ∧
        (pair.endpoint side).pollReady = false
  tracked :
    ∀ side session,
      (pair.endpoint side).Tracks session ↔
        session = first ∨ session = second
  held : ∀ side, (pair.endpoint side).SessionsAgree
  keys :
    ∀ side session runtime,
      (pair.endpoint side).device.sessions.lookup session = some runtime →
      runtime.remotePublicKey = pair.key side.other
  tickets :
    ∀ side session managed,
      (pair.endpoint side).node.manager.sessions.lookup session =
        some managed →
      managed.phase = .handshaking ∧
        managed.ticket.selector = selectors side ∧
        pair.deadline ≤ managed.ticket.expiresAt
  inactive :
    ∀ side, (pair.endpoint side).node.manager.activeRoutes = ∅
  network :
    ∀ sender packet,
      (sender, packet) ∈ pair.network → ¬ IsResponse packet.payload

/-- A node at rest that holds what it tracks is in agreement. -/
theorem agrees_of_quiescent
    {system : System P} (quiescent : system.Quiescent)
    (agree : system.SessionsAgree) : system.Agrees := by
  intro session
  have nothing : system.outstanding = [] := by
    simp [System.outstanding, quiescent.selecting, quiescent.commands]
  have learnt : ¬ system.FailurePending session := by
    simp [System.FailurePending, System.Announced, quiescent.selecting,
      quiescent.events, quiescent.idle]
  simpa [nothing, learnt, DeviceTask.Holds, quiescent.idle]
    using agree session

/-- An equipped node is an endpoint. -/
theorem Equipped.endpoint
    {pair : Pair P} {selectors : Side → IpNet} {first second : SessionKey}
    (equipped : pair.Equipped selectors first second) (side : Side) :
    (pair.endpoint side).Endpoint (pair.key side.other) (selectors side)
      pair.deadline := by
  have quiescent := equipped.quiescent side
  have calm : ¬ (pair.endpoint side).node.phase.Calling := by
    simp [quiescent.selecting, LoopPhase.Calling]
  have inactive := equipped.inactive side
  have handshaking :
      ∀ session phase,
        (pair.endpoint side).node.manager.phase session = some phase →
        phase = .handshaking := by
    intro session phase found
    obtain ⟨managed, present, rfl⟩ := Option.map_eq_some_iff.mp found
    exact (equipped.tickets side session managed present).1
  refine
    { agrees := agrees_of_quiescent quiescent (equipped.held side)
      preparation := .none calm ?_ ?_ (equipped.unanswered side)
      calm
      sound := ?_
      control := (equipped.nothingArrived side).1
      poll := (equipped.nothingArrived side).2.2
      keys := equipped.keys side
      manager :=
        { tickets := fun session managed present =>
            (equipped.tickets side session managed present).2
          undrained := ?_
          owner := ?_
          alone := ?_ } }
  · simp [System.Unprepared, System.outstanding, quiescent.selecting,
      quiescent.commands]
  · simp [DeviceTask.Free, quiescent.idle]
  · simp [System.Announced, quiescent.events, quiescent.idle]
  · intro session drains
    cases handshaking session _ drains
  · intro session
    refine iff_of_false ?_ fun active => ?_
    · simp [inactive]
    · cases handshaking session _ active
  · simp [inactive]

theorem Equipped.invariant
    {pair : Pair P} {selectors : Side → IpNet} {first second : SessionKey}
    (equipped : pair.Equipped selectors first second) :
    pair.Invariant selectors first second := by
  have untouched :
      ∀ side session,
        (pair.endpoint side).Notified session →
        ¬ (pair.endpoint side).Tracks session := by
    intro side session notified
    rcases notified with gone | active | queued | pending
    · exact gone
    · obtain ⟨managed, present, phase⟩ := Option.map_eq_some_iff.mp active
      rw [(equipped.tickets side session managed present).1] at phase
      cases phase
    · rw [(equipped.quiescent side).events] at queued
      cases queued
    · rw [(equipped.quiescent side).idle] at pending
      cases pending
  constructor
  · exact equipped.endpoint
  · intro side session
    exact (equipped.tracked side session).mp
  · intro side
    exact Or.inl ((equipped.tracked side first).mpr (Or.inl rfl))
  · intro side session notified
    have gone := untouched side session notified
    rw [equipped.tracked] at gone
    exact Or.inl (Or.inl (by rwa [equipped.tracked]))
  · intro side session onWay
    rcases onWay with
      ⟨action, member, _⟩ | ⟨packet, member, responds⟩ | ⟨packet, member, _⟩ |
        ⟨datagram, member, _⟩
    · rw [(equipped.quiescent side.other).idle] at member
      cases member
    · exact absurd responds.2 (equipped.network _ packet member)
    · rw [(equipped.nothingArrived side).2.1] at member
      cases member
    · simp [System.outstanding, (equipped.quiescent side).commands,
        (equipped.quiescent side).selecting] at member

variable [PolicyRules P]

/-- The steps of pair runs. -/
abbrev PairRecord (P : Type) := Record (Pair P) PairInput Unit

/-- A handshake that a node handles is for a session whose route is not refused,
and if it replaces another session then the other node still has the session
that it turns to. -/
structure Cooperates (record : PairRecord P) : Prop where
  willing :
    ∀ side input session managed,
      record.input = .run side input →
      (record.before.endpoint side).HandlesHandshake input session →
      (record.before.endpoint side).node.manager.sessions.lookup session =
        some managed →
      (RouteManager.activate
        (record.before.endpoint side).node.manager.routes
        managed.ticket.selector ⟨session⟩).2 = .ok ()
  tracked :
    ∀ side input session,
      record.input = .run side input →
      (record.before.endpoint side).HandlesHandshake input session →
      (record.before.endpoint side).ReplacesRoute session →
      (record.before.endpoint side.other).Tracks session

/-- A step of one node. -/
theorem Invariant.run
    {pair : Pair P} {selectors : Side → IpNet} {first second : SessionKey}
    (invariant : pair.Invariant selectors first second)
    {side : Side} {input : SystemInput} {system : System P}
    {output : Option RelayPacket}
    (valid : (pair.endpoint side).honest pair.deadline input = true)
    (taken : (pair.endpoint side).step input = some (system, output))
    (willing :
      ∀ session managed,
        (pair.endpoint side).HandlesHandshake input session →
        (pair.endpoint side).node.manager.sessions.lookup session =
          some managed →
        (RouteManager.activate (pair.endpoint side).node.manager.routes
          managed.ticket.selector ⟨session⟩).2 = .ok ())
    (tracked :
      ∀ session,
        (pair.endpoint side).HandlesHandshake input session →
        (pair.endpoint side).ReplacesRoute session →
        (pair.endpoint side.other).Tracks session) :
    (pair.ran side system output).Invariant selectors first second := by
  obtain ⟨endpoint, progress⟩ :=
    (invariant.endpoints side).step valid willing taken
  have sameKey := System.localPublicKey_of_step taken
  have together :
      ∀ {lost kept : SessionKey},
        (lost = first ∧ kept = second ∨ lost = second ∧ kept = first) →
        (pair.endpoint side).Tracks lost ∨
          (pair.endpoint side.other).Tracks kept →
        system.Tracks lost ∨ (pair.endpoint side.other).Tracks kept :=
    invariant.together_kept progress tracked
  constructor
  · intro query
    rcases side.eq_or_other query with rfl | rfl
    · simpa [key] using endpoint
    · have other := invariant.endpoints side.other
      rw [Side.other_other] at other ⊢
      simpa [key, sameKey] using other
  · intro query session present
    rcases side.eq_or_other query with rfl | rfl
    · rw [endpoint_update] at present
      exact invariant.sessions side session (progress.tracks session present)
    · rw [endpoint_update_other] at present
      exact invariant.sessions side.other session present
  · intro query
    rcases side.eq_or_other query with rfl | rfl
    · rw [endpoint_update, endpoint_update_other]
      exact together (Or.inl ⟨rfl, rfl⟩) (invariant.together side)
    · have before := invariant.together side.other
      rw [Side.other_other] at before ⊢
      rw [endpoint_update, endpoint_update_other]
      exact (together (Or.inr ⟨rfl, rfl⟩) before.symm).symm
  · intro query session notified
    rcases side.eq_or_other query with rfl | rfl
    · rw [endpoint_update] at notified
      rw [endpoint_update_other]
      rcases progress.reached session notified with
        earlier | answering | receiving
      · rcases invariant.spread side session earlier with there | onWay
        · exact Or.inl there
        · exact Or.inr (onWay_other_kept progress sameKey onWay)
      · exact Or.inr ((onWay_ran_other sameKey).mpr (Or.inl answering))
      · exact Or.inl
          (invariant.answered side session (Or.inr (Or.inr receiving)))
    · rw [endpoint_update_other] at notified
      rw [Side.other_other, endpoint_update]
      have spread := invariant.spread side.other session notified
      rw [Side.other_other] at spread
      rcases spread with here | onWay
      · exact Or.inl (progress.notified session here)
      · exact (onWay_kept progress onWay).symm
  · intro query session onWay
    rcases side.eq_or_other query with rfl | rfl
    · rw [endpoint_update_other]
      exact invariant.answered side session (onWay_before progress onWay)
    · rw [Side.other_other, endpoint_update]
      rcases onWay_other_before progress sameKey onWay with earlier | reached
      · have notified := invariant.answered side.other session earlier
        rw [Side.other_other] at notified
        exact progress.notified session notified
      · exact reached

/-- Every step of the machine keeps the invariant. -/
theorem Invariant.step
    {pair next : Pair P} {selectors : Side → IpNet}
    {first second : SessionKey}
    (invariant : pair.Invariant selectors first second)
    {input : PairInput} (taken : pair.step input = some (next, ()))
    (cooperates : Cooperates ⟨pair, input, (), next⟩) :
    next.Invariant selectors first second := by
  cases input with
  | deliver index =>
      simp only [Pair.step] at taken
      split at taken
      · cases taken
      · rename_i sender packet sent
        obtain ⟨side, rfl⟩ : ∃ side : Side, side.other = sender :=
          ⟨sender.other, sender.other_other⟩
        rw [Side.other_other] at taken
        split at taken
        · obtain ⟨⟨system, output⟩, stepped, same⟩ :=
            Option.map_eq_some_iff.mp taken
          obtain ⟨inbound, accepted, reached⟩ :=
            Option.map_eq_some_iff.mp stepped
          cases reached
          cases same
          exact invariant.deliver sent rfl (Channel.items_of_send accepted)
        · cases taken
  | run side input =>
      simp only [Pair.step] at taken
      split at taken
      · rename_i valid
        obtain ⟨⟨system, output⟩, stepped, same⟩ :=
          Option.map_eq_some_iff.mp taken
        cases same
        exact invariant.run valid stepped
          (fun session managed =>
            cooperates.willing side input session managed rfl)
          (fun session => cooperates.tracked side input session rfl)
      · cases taken

variable [LawfulPolicyRules P]

/-- The machine of two nodes, each of which has run by itself until it was
equipped. -/
def machine : Machine (Pair P) PairInput Unit where
  start pair :=
    (∀ side, ∃ log, System.machine.Execution log (pair.endpoint side)) ∧
    ∃ selectors first second,
      first ≠ second ∧ pair.Equipped selectors first second
  step := step

theorem invariant_of_execution
    {log : List (PairRecord P)} {pair : Pair P}
    (execution : machine.Execution log pair)
    (cooperates : ∀ record ∈ log, Cooperates record) :
    ∃ selectors first second, pair.Invariant selectors first second := by
  refine @Machine.Execution.invariant _ _ _ machine
    (fun _ current =>
      ∃ selectors first second,
        Pair.Invariant current selectors first second)
    Cooperates ?_ ?_ log pair execution cooperates
  · intro pair starts
    obtain ⟨_, selectors, first, second, _, equipped⟩ := starts
    exact ⟨selectors, first, second, equipped.invariant⟩
  · intro _ record held kept taken
    obtain ⟨selectors, first, second, invariant⟩ := held
    exact ⟨selectors, first, second, invariant.step taken kept⟩

/-- At rest each node's active session is held by the other node, in every run
in which no node turns to a session that the other one has let go. -/
theorem routesAgree_at_rest
    {log : List (PairRecord P)} {pair : Pair P}
    (execution : machine.Execution log pair)
    (cooperates : ∀ record ∈ log, Cooperates record)
    (rest : pair.AtRest) : pair.RoutesAgree := by
  obtain ⟨selectors, first, second, invariant⟩ :=
    invariant_of_execution execution cooperates
  exact invariant.routesAgree rest

/-! ## Crossing handshakes -/

/-- The other ticket of a pair, for the remote node. -/
def remoteTicket (epoch : UInt64) : ShortcutTicket :=
  { testTicket epoch with
    role := .right
    selector := .v4 0xC6336401#32 (Fin.last 32)
    recipientPublicKey := "remote"
    remotePublicKey := "recipient" }

/-- The remote node. -/
def remoteSystem : System AtomicRouteManager.MockPolicy :=
  .new "remote" ⟨∅, []⟩ ⟨"remote", [testPeer]⟩

/-- Two tickets arrive one after the other, and their tunnels are set up. -/
def equipInputs (ticket : UInt64 → ShortcutTicket) : List SystemInput :=
  System.establishInputs (ticket 1) ++ [System.turnInput []] ++
    System.establishInputs (ticket 2) ++ [System.turnInput []]

/-- The state that some inputs lead to. -/
def reach
    (system : System AtomicRouteManager.MockPolicy)
    (inputs : List SystemInput) : System AtomicRouteManager.MockPolicy :=
  ((System.machine.run system inputs).map Prod.snd).getD system

theorem exists_execution_reach
    {system : System AtomicRouteManager.MockPolicy}
    {inputs : List SystemInput} (started : System.machine.start system)
    (ran : (System.machine.run system inputs).isSome = true) :
    ∃ log, System.machine.Execution log (reach system inputs) := by
  obtain ⟨⟨log, final⟩, completed⟩ := Option.isSome_iff_exists.mp ran
  refine ⟨log, ?_⟩
  have reached : reach system inputs = final := by
    simp [reach, completed]
  rw [reached]
  exact Machine.execution_of_run started completed

/-- A node that has set up the tunnels of the epochs 1 and 2 and nothing
else. -/
def Carries
    (system : System AtomicRouteManager.MockPolicy)
    (ticket : UInt64 → ShortcutTicket) : Prop :=
  system.Quiescent ∧
    system.reply = none ∧
    (system.control.items = [] ∧ system.inbound.items = [] ∧
      system.pollReady = false) ∧
    system.node.manager.sessions =
      ((∅ : HashMap SessionKey ManagedSession).insert (ticket 1).session
        ⟨ticket 1, .handshaking⟩).insert (ticket 2).session
          ⟨ticket 2, .handshaking⟩ ∧
    system.device.sessions =
      ((∅ : HashMap SessionKey SessionRuntime).insert (ticket 1).session
        ⟨(ticket 1).remotePublicKey, false⟩).insert (ticket 2).session
          ⟨(ticket 2).remotePublicKey, false⟩ ∧
    system.node.manager.activeRoutes = ∅

instance
    (system : System AtomicRouteManager.MockPolicy)
    (ticket : UInt64 → ShortcutTicket) : Decidable (Carries system ticket) :=
  inferInstanceAs (Decidable (_ ∧ _))

/-- Both nodes with the tunnels of two epochs of one shortcut. -/
def testPair : Pair AtomicRouteManager.MockPolicy :=
  { left := reach System.testSystem (equipInputs testTicket)
    right := reach remoteSystem (equipInputs remoteTicket)
    network := []
    deadline := 1180 }

/-- On a timer tick one session sends an initiation. -/
def initiateInputs (side : Side) (session : SessionKey) : List PairInput :=
  [.run side
      (.timerTick [(testTicket 1).session, (testTicket 2).session])] ++
    [(testTicket 1).session, (testTicket 2).session].flatMap fun other =>
      if other = session then
        [.run side (.act [.writeToNetwork [1, 0, 0, 0]] true),
          .run side (.act [.done] true),
          .run side (.act [.done] true)]
      else
        [.run side (.act [.done] true), .run side (.act [.done] true)]

/-- The first packet in flight reaches the device of a node, which answers and
reports a handshake. -/
def handshakeInputs (side : Side) (answer : Bytes) : List PairInput :=
  [.deliver 0,
    .run side (System.turnInput []),
    .run side .send,
    .run side (.takeCommand [.writeToNetwork answer, .done]),
    .run side (.act [.done] true),
    .run side (.act [.done] true),
    .run side (.act [.done] true)]

/-- The loop handles a handshake. -/
def handleInputs (side : Side) : List PairInput :=
  [.run side
    (System.turnInput [(testTicket 1).session, (testTicket 2).session])]

/-- The loop handles a handshake and removes the session that it replaces. -/
def replaceInputs (side : Side) : List PairInput :=
  handleInputs side ++ [.run side .send, .run side (.takeCommand [])]

/-- A data packet in flight is taken in. -/
def settleInputs (side : Side) : List PairInput :=
  [.deliver 0,
    .run side (System.turnInput []),
    .run side .send,
    .run side (.takeCommand [.done])]

/-- Each node initiates one of the sessions.  Both answer before either has the
response to its own initiation. -/
def crossingInputs : List PairInput :=
  initiateInputs .left (testTicket 1).session ++
    initiateInputs .right (testTicket 2).session ++
    handshakeInputs .right [2, 0, 0, 0] ++
    handshakeInputs .left [2, 0, 0, 0] ++
    handleInputs .left ++ handleInputs .right ++
    handshakeInputs .left [4, 0, 0, 0] ++ replaceInputs .left ++
    handshakeInputs .right [4, 0, 0, 0] ++ replaceInputs .right ++
    settleInputs .right ++ settleInputs .left

theorem left_carries : Carries testPair.left testTicket := by
  decide +kernel

theorem right_carries : Carries testPair.right remoteTicket := by
  decide +kernel

/-- The tickets of each node. -/
def testTickets : Side → UInt64 → ShortcutTicket
  | .left => testTicket
  | .right => remoteTicket

theorem carries (side : Side) :
    Carries (testPair.endpoint side) (testTickets side) := by
  cases side with
  | left =>
      exact left_carries
  | right =>
      exact right_carries

theorem session_testTickets (side : Side) (epoch : UInt64) :
    (testTickets side epoch).session = (testTicket epoch).session := by
  cases side <;> rfl

/-- A session of a node that carries two epochs is one of the two. -/
theorem lookup_sessions
    (side : Side) (session : SessionKey) :
    (testPair.endpoint side).node.manager.sessions.lookup session =
      if session = (testTicket 2).session then
        some ⟨testTickets side 2, .handshaking⟩
      else if session = (testTicket 1).session then
        some ⟨testTickets side 1, .handshaking⟩
      else
        none := by
  obtain ⟨_, _, _, sessions, _, _⟩ := carries side
  rw [sessions]
  simp only [HashMap.lookup_insert_eq_ite, Finmap.lookup_empty,
    session_testTickets]

theorem lookup_tunnels
    (side : Side) (session : SessionKey) :
    (testPair.endpoint side).device.sessions.lookup session =
      if session = (testTicket 2).session then
        some ⟨(testTickets side 2).remotePublicKey, false⟩
      else if session = (testTicket 1).session then
        some ⟨(testTickets side 1).remotePublicKey, false⟩
      else
        none := by
  obtain ⟨_, _, _, _, tunnels, _⟩ := carries side
  rw [tunnels]
  simp only [HashMap.lookup_insert_eq_ite, Finmap.lookup_empty,
    session_testTickets]

theorem key_testPair (side : Side) (epoch : UInt64) :
    (testTickets side epoch).remotePublicKey = testPair.key side.other := by
  cases side with
  | left =>
      have right : testPair.key .right = "remote" := by decide +kernel
      exact right.symm
  | right =>
      have left : testPair.key .left = "recipient" := by decide +kernel
      exact left.symm

theorem testPair_equipped :
    testPair.Equipped (fun side => (testTickets side 1).selector)
      (testTicket 1).session (testTicket 2).session := by
  have tracked :
      ∀ side session,
        (testPair.endpoint side).Tracks session ↔
          session = (testTicket 1).session ∨
            session = (testTicket 2).session := by
    intro side session
    rw [System.Tracks, lookup_sessions]
    by_cases second : session = (testTicket 2).session
    · simp [second]
    · by_cases first : session = (testTicket 1).session
      · rw [if_neg second, if_pos first]
        simp [first]
      · simp [first, second]
  refine
    { quiescent := fun side => (carries side).1
      unanswered := fun side => (carries side).2.1
      nothingArrived := fun side => (carries side).2.2.1
      tracked
      held := ?_
      keys := ?_
      tickets := ?_
      inactive := fun side => (carries side).2.2.2.2.2
      network := fun _ _ member => absurd member List.not_mem_nil }
  · intro side session
    rw [tracked, lookup_tunnels]
    by_cases second : session = (testTicket 2).session
    · simp [second]
    · by_cases first : session = (testTicket 1).session
      · rw [if_neg second, if_pos first]
        simp [first]
      · simp [first, second]
  · intro side session runtime present
    rw [lookup_tunnels] at present
    split at present
    · cases present
      exact key_testPair side 2
    · split at present
      · cases present
        exact key_testPair side 1
      · cases present
  · intro side session managed present
    have ticket :
        ∀ epoch,
          (testTickets side epoch).selector = (testTickets side 1).selector ∧
            testPair.deadline ≤ (testTickets side epoch).expiresAt := by
      intro epoch
      cases side <;> exact ⟨rfl, UInt64.le_refl _⟩
    rw [lookup_sessions] at present
    split at present
    · cases present
      exact ⟨rfl, ticket 2⟩
    · split at present
      · cases present
        exact ⟨rfl, ticket 1⟩
      · cases present

theorem testPair_starts : machine.start testPair := by
  refine ⟨?_, _, _, _, ?_, testPair_equipped⟩
  · intro side
    cases side with
    | left =>
        have ran :
            (System.machine.run System.testSystem
              (equipInputs testTicket)).isSome = true := by
          decide +kernel
        exact exists_execution_reach System.testSystem_starts ran
    | right =>
        have ran :
            (System.machine.run remoteSystem
              (equipInputs remoteTicket)).isSome = true := by
          decide +kernel
        exact exists_execution_reach ⟨_, _, _, rfl, rfl⟩ ran
  · decide

/-- The handshakes of two epochs cross: one node ends with the older epoch, the
other one with the newer epoch, and each has let the other's epoch go. -/
theorem crossing_handshakes_disagree :
    ∃ log pair,
      machine.Execution log
        (pair : Pair AtomicRouteManager.MockPolicy) ∧
      pair.AtRest ∧
      ¬ pair.RoutesAgree := by
  have ran :
      (machine.run testPair crossingInputs).map
        (fun result =>
          decide
            (result.2.AtRest ∧
              result.2.left.node.manager.activeRoutes.lookup
                  (testTicket 1).selector = some (testTicket 1).session ∧
              result.2.right.node.manager.activeRoutes.lookup
                  (remoteTicket 1).selector = some (testTicket 2).session ∧
              result.2.right.device.sessions.lookup (testTicket 1).session =
                none)) =
        some true := by
    decide +kernel
  obtain ⟨log, pair, execution, observed⟩ :=
    Machine.exists_execution_of_run testPair_starts ran
  obtain ⟨rest, leftActive, rightActive, lost⟩ := of_decide_eq_true observed
  refine ⟨log, pair, execution, rest, ?_⟩
  intro agree
  have routed : ∀ side, ∃ session, Active (pair.endpoint side) session := by
    intro side
    cases side with
    | left =>
        exact ⟨_, _, leftActive⟩
    | right =>
        exact ⟨_, _, rightActive⟩
  exact agree routed .left _ ⟨_, leftActive⟩ lost

/-- The second session follows the first one at both nodes. -/
def renewingInputs : List PairInput :=
  initiateInputs .left (testTicket 1).session ++
    handshakeInputs .right [2, 0, 0, 0] ++ handleInputs .right ++
    handshakeInputs .left [4, 0, 0, 0] ++ handleInputs .left ++
    settleInputs .right ++ [.run .right (.act [.done] true)] ++
    initiateInputs .right (testTicket 2).session ++
    handshakeInputs .left [2, 0, 0, 0] ++ replaceInputs .left ++
    handshakeInputs .right [4, 0, 0, 0] ++ replaceInputs .right ++
    settleInputs .left ++ [.run .left (.act [.done] true)]

/-- `Cooperates`, as far as it can be evaluated. -/
def cooperates (record : PairRecord AtomicRouteManager.MockPolicy) : Bool :=
  match record.input with
  | .run side (.select snapshot now order) =>
      match (record.before.endpoint side).ready snapshot now order with
      | some (.event (.authenticatedHandshake session) _ _, _) =>
          match
            (record.before.endpoint side).node.manager.sessions.lookup
              session with
          | none => true
          | some managed =>
              decide
                ((RouteManager.activate
                    (record.before.endpoint side).node.manager.routes
                    managed.ticket.selector ⟨session⟩).2 = .ok ()) &&
                ((record.before.endpoint
                  side.other).node.manager.sessions.lookup session).isSome
      | _ => true
  | _ => true

theorem cooperates_sound
    {record : PairRecord AtomicRouteManager.MockPolicy}
    (checked : cooperates record = true) : Cooperates record := by
  have handled :
      ∀ {side input session managed},
        record.input = .run side input →
        (record.before.endpoint side).HandlesHandshake input session →
        (record.before.endpoint side).node.manager.sessions.lookup session =
          some managed →
        (RouteManager.activate
            (record.before.endpoint side).node.manager.routes
            managed.ticket.selector ⟨session⟩).2 = .ok () ∧
          (record.before.endpoint side.other).Tracks session := by
    intro side input session managed isRun handles present
    obtain ⟨snapshot, now, order, popped, rfl, ready⟩ := handles
    simpa [cooperates, isRun, ready, present, System.Tracks,
      Option.isSome_iff_ne_none] using checked
  constructor
  · intro side input session managed isRun handles present
    exact (handled isRun handles present).1
  · intro side input session isRun handles replaces
    obtain ⟨managed, _, present, _, _⟩ := replaces
    exact (handled isRun handles present).2

theorem renewal_agrees :
    ∃ log pair,
      machine.Execution log
        (pair : Pair AtomicRouteManager.MockPolicy) ∧
      Active pair.left (testTicket 2).session ∧
      Active pair.right (testTicket 2).session ∧
      pair.AtRest ∧
      pair.RoutesAgree := by
  have ran :
      (machine.run testPair renewingInputs).map
        (fun result =>
          (result.1.all cooperates,
            decide
              (result.2.AtRest ∧
                result.2.left.node.manager.activeRoutes.lookup
                    (testTicket 1).selector = some (testTicket 2).session ∧
                result.2.right.node.manager.activeRoutes.lookup
                    (remoteTicket 1).selector =
                  some (testTicket 2).session))) =
        some (true, true) := by
    decide +kernel
  obtain ⟨log, pair, execution, observed⟩ :=
    Machine.exists_execution_of_run testPair_starts ran
  simp only [Prod.mk.injEq, List.all_eq_true, decide_eq_true_eq] at observed
  obtain ⟨checked, rest, leftActive, rightActive⟩ := observed
  refine ⟨log, pair, execution, ⟨_, leftActive⟩, ⟨_, rightActive⟩, rest,
    routesAgree_at_rest execution ?_ rest⟩
  intro record member
  exact cooperates_sound (checked record member)

end Pair

end WgLink
