import WgLink.Library.Utf8
import WgLink.Shortcut.ManagerRuns

/-!
# The cascade planner

`shortcut/cascade.rs`: one plan makes the two tickets of a new shortcut.  The
random shortcut id and master secret are arguments, and so is the hash behind
an issuer's fingerprint.
-/

namespace WgLink

open WgLink.Library

/-- `CascadePeer`. -/
structure CascadePeer where
  publicKey : String
  peerId : String
  endpointCandidates : List SocketAddr
deriving DecidableEq

/-- `CascadeRequest`. -/
structure CascadeRequest where
  issuerPublicKey : String
  upstream : CascadePeer
  downstream : CascadePeer
  upstreamSelector : IpNet
  downstreamSelector : IpNet
  parent : Option ActiveLease
  expiresAtLimit : Option UInt64
  renewAfterSeconds : Option UInt64
  now : UInt64
deriving DecidableEq

/-- `ShortcutTicketPair`. -/
structure ShortcutTicketPair where
  upstream : ShortcutTicket
  downstream : ShortcutTicket
deriving DecidableEq

/-- `blake3::hash`. -/
abbrev Hash := List UInt8 → ByteVector 32

/-- `peer_fingerprint`. -/
def peerFingerprint (hash : Hash) (publicKey : String) : ByteVector 16 :=
  (hash (asBytes publicKey)).take 16

/-- What a child takes over from its parent: root, depth, remaining budget and
visited issuers. -/
def inheritedLineage (parent : ActiveLease) :
    Except String (ShortcutId × UInt8 × UInt8 × List (ByteVector 16)) :=
  match parent.delegation with
  | some lineage =>
      if lineage.remainingDelegations = 0 then
        .error "shortcut delegation budget is exhausted"
      else
        .ok
          (lineage.rootShortcutId,
            if lineage.depth = 255 then 255 else lineage.depth + 1,
            lineage.remainingDelegations - 1,
            lineage.visitedIssuers)
  | none =>
      .ok (parent.session.shortcutId, 1, maxDelegationDepth - 1, [])

/-- `delegation`. -/
def delegation
    (hash : Hash) (issuerPublicKey : String) (parent : Option ActiveLease) :
    Except String (Option ShortcutDelegation) :=
  match parent with
  | none => .ok none
  | some parent =>
      match inheritedLineage parent with
      | .error error => .error error
      | .ok (rootShortcutId, depth, remainingDelegations, visitedIssuers) =>
          if depth > maxDelegationDepth ∨
              peerFingerprint hash issuerPublicKey ∈ visitedIssuers then
            .error "shortcut delegation would create a loop"
          else
            .ok <| some
              { rootShortcutId
                parentShortcutId := parent.session.shortcutId
                depth
                remainingDelegations
                visitedIssuers :=
                  visitedIssuers ++ [peerFingerprint hash issuerPublicKey] }

namespace CascadeRequest

/-- The end of the lease that `plan` gives. -/
def expiresAt (request : CascadeRequest) : UInt64 :=
  min
    (min (saturatingAdd request.now defaultExpiresAfterSeconds)
      ((request.parent.map ActiveLease.expiresAt).getD maxWord))
    (request.expiresAtLimit.getD maxWord)

/-- The renewal time that `plan` gives. -/
def renewAt (request : CascadeRequest) : UInt64 :=
  min
    (saturatingAdd request.now
      (request.renewAfterSeconds.getD defaultRenewAfterSeconds))
    (request.expiresAt - 1)

/-- The closure `common` of `plan`. -/
def common
    (request : CascadeRequest) (shortcutId : ShortcutId)
    (masterSecret : ByteVector 32) (delegation : Option ShortcutDelegation)
    (role : ShortcutRole) (selector : IpNet)
    (recipient remote : CascadePeer) : ShortcutTicket where
  version := controlVersion
  shortcutId
  epoch := 1
  role
  issuedAt := request.now
  renewAt := request.renewAt
  expiresAt := request.expiresAt
  selector
  issuerPublicKey := request.issuerPublicKey
  recipientPublicKey := recipient.publicKey
  remotePublicKey := remote.publicKey
  remotePeerId := remote.peerId
  endpointCandidates := remote.endpointCandidates
  delegation
  masterSecret

end CascadeRequest

/-- `plan`. -/
def plan
    (hash : Hash) (request : CascadeRequest) (shortcutId : ShortcutId)
    (masterSecret : ByteVector 32) : Except String ShortcutTicketPair :=
  if request.issuerPublicKey = "" then
    .error "cascade issuer public key is empty"
  else if request.upstream.publicKey = request.downstream.publicKey then
    .error "cascade cannot connect a peer to itself"
  else if request.upstream.peerId = "" ∨ request.downstream.peerId = "" then
    .error "cascade peer id is empty"
  else
    match delegation hash request.issuerPublicKey request.parent with
    | .error error => .error error
    | .ok delegation =>
        if request.expiresAt ≤ saturatingAdd request.now 1 then
          .error "parent shortcut lease is too close to expiry for delegation"
        else
          .ok
            { upstream :=
                request.common shortcutId masterSecret delegation .left
                  request.upstreamSelector request.upstream
                  request.downstream
              downstream :=
                request.common shortcutId masterSecret delegation .right
                  request.downstreamSelector request.downstream
                  request.upstream }

/-! ## What a plan is -/

section

variable {hash : Hash} {request : CascadeRequest} {shortcutId : ShortcutId}
  {masterSecret : ByteVector 32} {pair : ShortcutTicketPair}

theorem plan_ok
    (planned : plan hash request shortcutId masterSecret = .ok pair) :
    request.issuerPublicKey ≠ "" ∧
    request.upstream.publicKey ≠ request.downstream.publicKey ∧
    request.upstream.peerId ≠ "" ∧ request.downstream.peerId ≠ "" ∧
    saturatingAdd request.now 1 < request.expiresAt ∧
    ∃ lineage,
      delegation hash request.issuerPublicKey request.parent = .ok lineage ∧
      pair =
        { upstream :=
            request.common shortcutId masterSecret lineage .left
              request.upstreamSelector request.upstream request.downstream
          downstream :=
            request.common shortcutId masterSecret lineage .right
              request.downstreamSelector request.downstream
              request.upstream } := by
  unfold plan at planned
  cases delegated :
      delegation hash request.issuerPublicKey request.parent with
  | error error =>
      rw [delegated] at planned
      split_ifs at planned
  | ok lineage =>
      rw [delegated] at planned
      split_ifs at planned with issuer apart peerIds short
      cases planned
      rw [not_or] at peerIds
      exact ⟨issuer, apart, peerIds.1, peerIds.2, UInt64.not_le.mp short,
        lineage, rfl, rfl⟩

namespace CascadeRequest

theorem toNat_expiresAt (request : CascadeRequest) :
    request.expiresAt.toNat =
      min
        (min (min (request.now.toNat + 180) 18446744073709551615)
          ((request.parent.map ActiveLease.expiresAt).getD maxWord).toNat)
        (request.expiresAtLimit.getD maxWord).toNat := by
  unfold expiresAt
  rw [toNat_min, toNat_min, toNat_saturatingAdd]
  rfl

/-- A lease that `plan` gives is long enough for a renewal and no longer than
its default, its parent and its limit. -/
theorem lease_bounds
    (longEnough : saturatingAdd request.now 1 < request.expiresAt) :
    request.now.toNat + 1 < request.expiresAt.toNat ∧
    request.expiresAt.toNat ≤ request.now.toNat + 180 ∧
    (∀ lease, request.parent = some lease →
      request.expiresAt.toNat ≤ lease.expiresAt.toNat) ∧
    (∀ limit, request.expiresAtLimit = some limit →
      request.expiresAt.toNat ≤ limit.toNat) := by
  have one : (1 : UInt64).toNat = 1 := rfl
  have bound := toNat_lt request.expiresAt
  have value := request.toNat_expiresAt
  rw [UInt64.lt_iff_toNat_lt, toNat_saturatingAdd, one] at longEnough
  refine ⟨by omega, by omega, ?_, ?_⟩
  · intro lease parent
    rw [parent, Option.map_some, Option.getD_some] at value
    omega
  · intro limit limited
    rw [limited, Option.getD_some] at value
    omega

/-- With the default renewal time a ticket is renewed within its lease. -/
theorem renewAt_bounds
    (longEnough : saturatingAdd request.now 1 < request.expiresAt)
    (defaultRenewal : request.renewAfterSeconds = none) :
    request.renewAt.toNat =
        min (request.now.toNat + 120) (request.expiresAt.toNat - 1) ∧
      request.now.toNat < request.renewAt.toNat ∧
      request.renewAt.toNat < request.expiresAt.toNat := by
  obtain ⟨after, _, _, _⟩ := lease_bounds longEnough
  have bound := toNat_lt request.expiresAt
  have one : (1 : UInt64).toNat = 1 := rfl
  have positive : (1 : UInt64) ≤ request.expiresAt := by
    rw [UInt64.le_iff_toNat_le]
    omega
  have window : defaultRenewAfterSeconds.toNat = 120 := rfl
  have value :
      request.renewAt.toNat =
        min (request.now.toNat + 120) (request.expiresAt.toNat - 1) := by
    unfold renewAt
    rw [defaultRenewal, toNat_min, toNat_saturatingAdd,
      UInt64.toNat_sub_of_le _ _ positive, Option.getD_none, window, one]
    omega
  exact ⟨value, by omega, by omega⟩

end CascadeRequest

theorem toNat_increment {depth : UInt8} (full : ¬ depth = 255) :
    (depth + 1).toNat = depth.toNat + 1 := by
  have bound := depth.toNat_lt
  have one : (1 : UInt8).toNat = 1 := rfl
  have notLast : depth.toNat ≠ 255 := by
    intro last
    exact full (UInt8.toNat_inj.mp last)
  rw [UInt8.toNat_add, one]
  omega

theorem toNat_decrement {budget : UInt8} (exhausted : ¬ budget = 0) :
    (budget - 1).toNat + 1 = budget.toNat := by
  have one : (1 : UInt8).toNat = 1 := rfl
  have positive : budget.toNat ≠ 0 := by
    intro zero
    exact exhausted (UInt8.toNat_inj.mp zero)
  have enough : (1 : UInt8) ≤ budget := by
    rw [UInt8.le_iff_toNat_le]
    omega
  rw [UInt8.toNat_sub_of_le _ _ enough, one]
  omega

/-- The lineage that a plan writes into its tickets. -/
theorem delegation_ok
    {issuer : String} {parent : Option ActiveLease}
    {lineage : Option ShortcutDelegation}
    (delegated : delegation hash issuer parent = .ok lineage) :
    (parent = none ∧ lineage = none) ∨
    ∃ lease next,
      parent = some lease ∧
      lineage = some next ∧
      next.parentShortcutId = lease.session.shortcutId ∧
      next.depth.toNat ≤ 8 ∧
      ((lease.delegation = none ∧
          next.rootShortcutId = lease.session.shortcutId ∧
          next.depth.toNat = 1 ∧
          next.remainingDelegations.toNat = 7 ∧
          next.visitedIssuers = [peerFingerprint hash issuer]) ∨
        ∃ previous,
          lease.delegation = some previous ∧
          next.rootShortcutId = previous.rootShortcutId ∧
          next.depth.toNat = previous.depth.toNat + 1 ∧
          next.remainingDelegations.toNat + 1 =
            previous.remainingDelegations.toNat ∧
          peerFingerprint hash issuer ∉ previous.visitedIssuers ∧
          next.visitedIssuers =
            previous.visitedIssuers ++ [peerFingerprint hash issuer]) := by
  cases parent with
  | none =>
      left
      cases delegated
      exact ⟨rfl, rfl⟩
  | some lease =>
      right
      unfold delegation inheritedLineage at delegated
      cases previous : lease.delegation with
      | none =>
          simp only [previous] at delegated
          split_ifs at delegated
          cases delegated
          refine ⟨lease, _, rfl, rfl, rfl, ?_,
            .inl ⟨previous, rfl, rfl, rfl, rfl⟩⟩
          exact (by decide : (1 : UInt8).toNat ≤ 8)
      | some lineage =>
          simp only [previous] at delegated
          split_ifs at delegated with exhausted full
          all_goals
            simp only at delegated
            split_ifs at delegated with loops
          · cases delegated
            exact absurd (.inl (by decide)) loops
          · cases delegated
            rw [not_or, gt_iff_lt, UInt8.not_lt, UInt8.le_iff_toNat_le]
              at loops
            refine ⟨lease, _, rfl, rfl, rfl, loops.1,
              .inr ⟨lineage, previous, rfl, toNat_increment full,
                toNat_decrement exhausted, loops.2, rfl⟩⟩

/-! ## Both endpoints accept what is planned -/

/-- A lineage that may still be extended by one more issuer. -/
def Extensible (lease : ActiveLease) : Prop :=
  ∀ lineage, lease.delegation = some lineage →
    lineage.validate = .ok () ∧ lineage.visitedIssuers.length < 8

/-- The lineage of a child of an extensible parent passes. -/
theorem delegation_validates
    {issuer : String} {parent : Option ActiveLease}
    {lineage : Option ShortcutDelegation}
    (delegated : delegation hash issuer parent = .ok lineage)
    (extensible : ∀ lease, parent = some lease → Extensible lease) :
    ∀ next, lineage = some next → next.validate = .ok () := by
  intro next written
  rw [ShortcutDelegation.validate_iff]
  rcases delegation_ok delegated with
    ⟨_, nothing⟩ | ⟨lease, other, parented, same, _, deep,
      ⟨_, _, depth, budget, visited⟩ |
        ⟨previous, inherited, _, depth, budget, _, visited⟩⟩
  · rw [nothing] at written
    cases written
  · rw [written] at same
    cases same
    rw [visited, List.length_singleton]
    omega
  · rw [written] at same
    cases same
    obtain ⟨valid, room⟩ := extensible lease parented previous inherited
    rw [ShortcutDelegation.validate_iff] at valid
    rw [visited, List.length_append, List.length_singleton]
    omega

/-- A planned ticket passes at every endpoint whose clock is not too far
behind, until it expires. -/
theorem common_validates
    (longEnough : saturatingAdd request.now 1 < request.expiresAt)
    (defaultRenewal : request.renewAfterSeconds = none)
    (issuer : request.issuerPublicKey ≠ "")
    {lineage : Option ShortcutDelegation}
    (lineages : ∀ next, lineage = some next → next.validate = .ok ())
    (shortcutId : ShortcutId) (masterSecret : ByteVector 32)
    (role : ShortcutRole) (selector : IpNet)
    {recipient remote : CascadePeer}
    (recipientKey : recipient.publicKey ≠ "")
    (remoteKey : remote.publicKey ≠ "") (remotePeer : remote.peerId ≠ "")
    {received : UInt64}
    (skew : request.now.toNat ≤ received.toNat + 30)
    (inTime : received < request.expiresAt) :
    (request.common shortcutId masterSecret lineage role selector recipient
      remote).validate received = .ok () := by
  obtain ⟨_, short, _, _⟩ := CascadeRequest.lease_bounds longEnough
  obtain ⟨_, renewed, renewable⟩ :=
    CascadeRequest.renewAt_bounds longEnough defaultRenewal
  rw [UInt64.lt_iff_toNat_lt] at inTime
  have bounded : request.expiresAt.toNat ≤ request.now.toNat + 300 := by
    omega
  exact ShortcutTicket.validate_of rfl (by decide : (1 : UInt64) ≠ 0) issuer
    recipientKey remoteKey remotePeer skew renewed renewable bounded inTime
    lineages

theorem plan_validates
    (planned : plan hash request shortcutId masterSecret = .ok pair)
    (upstreamKey : request.upstream.publicKey ≠ "")
    (downstreamKey : request.downstream.publicKey ≠ "")
    (defaultRenewal : request.renewAfterSeconds = none)
    (lineages :
      ∀ next, pair.upstream.delegation = some next → next.validate = .ok ())
    {received : UInt64}
    (skew : request.now.toNat ≤ received.toNat + 30)
    (inTime : received < request.expiresAt) :
    pair.upstream.validate received = .ok () ∧
      pair.downstream.validate received = .ok () := by
  obtain ⟨issuer, _, upstreamPeer, downstreamPeer, longEnough, lineage,
    _, rfl⟩ := plan_ok planned
  constructor
  · exact common_validates longEnough defaultRenewal issuer lineages
      shortcutId masterSecret .left request.upstreamSelector upstreamKey
      downstreamKey downstreamPeer skew inTime
  · exact common_validates longEnough defaultRenewal issuer lineages
      shortcutId masterSecret .right request.downstreamSelector downstreamKey
      upstreamKey upstreamPeer skew inTime

/-- A valid ticket for a shortcut that the manager does not have is accepted. -/
theorem ShortcutManager.receiveTicket_accepts
    {R : Type} {manager : ShortcutManager R} {ticket : ShortcutTicket}
    {received : UInt64}
    (valid : ticket.validate received = .ok ())
    (fresh : ∀ epoch,
      manager.sessions.lookup ⟨ticket.shortcutId, epoch⟩ = none) :
    (manager.receiveTicket ticket ticket.issuerPublicKey
      ticket.recipientPublicKey received).2 =
        .ok ⟨ticket.session, ticket, false⟩ := by
  have absent : manager.sessions.lookup ticket.session = none :=
    fresh ticket.epoch
  simp [receiveTicket, valid, absent]

/-- The two tickets of a plan are accepted by their recipients under one
session key, with mirrored keys: each side has the public key of its own
private key, and the other side has it as the remote one. -/
theorem plan_accepted_by_both
    (planned : plan hash request shortcutId masterSecret = .ok pair)
    (upstreamKey : request.upstream.publicKey ≠ "")
    (downstreamKey : request.downstream.publicKey ≠ "")
    (defaultRenewal : request.renewAfterSeconds = none)
    (extensible : ∀ lease, request.parent = some lease → Extensible lease)
    {R S : Type} {upstream : ShortcutManager R}
    {downstream : ShortcutManager S}
    (upstreamFresh : ∀ epoch,
      upstream.sessions.lookup ⟨shortcutId, epoch⟩ = none)
    (downstreamFresh : ∀ epoch,
      downstream.sessions.lookup ⟨shortcutId, epoch⟩ = none)
    {upstreamTime downstreamTime : UInt64}
    (upstreamSkew : request.now.toNat ≤ upstreamTime.toNat + 30)
    (downstreamSkew : request.now.toNat ≤ downstreamTime.toNat + 30)
    (upstreamInTime : upstreamTime < pair.upstream.expiresAt)
    (downstreamInTime : downstreamTime < pair.downstream.expiresAt) :
    ∃ left right,
      (upstream.receiveTicket pair.upstream request.issuerPublicKey
        request.upstream.publicKey upstreamTime).2 = .ok left ∧
      (downstream.receiveTicket pair.downstream request.issuerPublicKey
        request.downstream.publicKey downstreamTime).2 = .ok right ∧
      left.alreadyPresent = false ∧ right.alreadyPresent = false ∧
      left.session = right.session ∧
      (∀ primitives,
        (left.keys primitives).localPublic =
            primitives.publicKey (left.keys primitives).localPrivate ∧
          (right.keys primitives).localPublic =
            primitives.publicKey (right.keys primitives).localPrivate ∧
          (left.keys primitives).localPublic =
            (right.keys primitives).remotePublic ∧
          (right.keys primitives).localPublic =
            (left.keys primitives).remotePublic ∧
          (left.keys primitives).presharedKey =
            (right.keys primitives).presharedKey) ∧
      left.ticket = pair.upstream ∧ right.ticket = pair.downstream ∧
      pair.upstream.remotePublicKey = request.downstream.publicKey ∧
      pair.upstream.remotePeerId = request.downstream.peerId ∧
      pair.downstream.remotePublicKey = request.upstream.publicKey ∧
      pair.downstream.remotePeerId = request.upstream.peerId ∧
      pair.upstream.selector = request.upstreamSelector ∧
      pair.downstream.selector = request.downstreamSelector := by
  obtain ⟨_, _, _, _, _, lineage, delegated, rfl⟩ := plan_ok planned
  have lineages := delegation_validates delegated extensible
  have upstreamValid :=
    (plan_validates planned upstreamKey downstreamKey defaultRenewal lineages
      upstreamSkew upstreamInTime).1
  have downstreamValid :=
    (plan_validates planned upstreamKey downstreamKey defaultRenewal lineages
      downstreamSkew downstreamInTime).2
  refine ⟨_, _,
    ShortcutManager.receiveTicket_accepts upstreamValid upstreamFresh,
    ShortcutManager.receiveTicket_accepts downstreamValid downstreamFresh,
    rfl, rfl, rfl, ?_, rfl, rfl, rfl, rfl, rfl, rfl, rfl, rfl⟩
  intro primitives
  exact ⟨rfl, rfl, rfl, rfl, rfl⟩

end

/-- `blake3::hash` on the two issuers of the tests and on the key of the tests
in `management.rs`. -/
def fingerprintHash : Hash :=
  tableHash
    [(asBytes "hub",
        [0xE9, 0xC2, 0x51, 0x84, 0x2E, 0xBA, 0xBB, 0xB1,
          0xC8, 0x9C, 0x8C, 0x8B, 0xB2, 0x7F, 0xDC, 0x10,
          0x93, 0xBD, 0xFF, 0xE9, 0x5A, 0xC1, 0xBB, 0x36,
          0x61, 0xBD, 0xAA, 0x96, 0xE2, 0xA5, 0x1D, 0x0E]),
      (asBytes "middle",
        [0x46, 0xCC, 0x7C, 0x71, 0xEC, 0x1F, 0x7F, 0xA2,
          0xF2, 0x6B, 0x53, 0x26, 0xD9, 0x67, 0xCF, 0xDC,
          0xD3, 0x2E, 0x80, 0x12, 0x6A, 0xB8, 0xAC, 0xCA,
          0x79, 0x35, 0x75, 0x93, 0x41, 0x5F, 0x06, 0x1F]),
      (asBytes "peer-key",
        [0xD9, 0x16, 0xEE, 0x5D, 0xEF, 0xF7, 0xCB, 0xC9,
          0x8F, 0x3E, 0xB5, 0x0E, 0x41, 0xDB, 0xDD, 0xF4,
          0x7A, 0xD1, 0x3F, 0x04, 0xE5, 0x84, 0x8A, 0x17,
          0x95, 0x02, 0x8E, 0xC7, 0xFB, 0xBF, 0xFF, 0x50])]

/-- The request of the unit tests, with a parent that is a child itself. -/
def testRequest : CascadeRequest where
  issuerPublicKey := "middle"
  upstream := ⟨"left", "left-peer", []⟩
  downstream := ⟨"right", "right-peer", []⟩
  upstreamSelector := .v4 0xC6336407#32 (Fin.last 32)
  downstreamSelector := .v4 0xCB007101#32 (Fin.last 32)
  parent := some
    { session := ⟨⟨List.Vector.replicate 16 1⟩, 4⟩
      expiresAt := 1150
      delegation := some
        { rootShortcutId := ⟨List.Vector.replicate 16 9⟩
          parentShortcutId := ⟨List.Vector.replicate 16 8⟩
          depth := 1
          remainingDelegations := 7
          visitedIssuers := [peerFingerprint fingerprintHash "hub"] } }
  expiresAtLimit := none
  renewAfterSeconds := none
  now := 1000

/-- The tickets planned for it. -/
def testPair : ShortcutTicketPair :=
  let lineage : ShortcutDelegation :=
    { rootShortcutId := ⟨List.Vector.replicate 16 9⟩
      parentShortcutId := ⟨List.Vector.replicate 16 1⟩
      depth := 2
      remainingDelegations := 6
      visitedIssuers :=
        [peerFingerprint fingerprintHash "hub",
          peerFingerprint fingerprintHash "middle"] }
  { upstream :=
      testRequest.common ⟨List.Vector.replicate 16 3⟩
        (List.Vector.replicate 32 7) (some lineage) .left
        testRequest.upstreamSelector testRequest.upstream
        testRequest.downstream
    downstream :=
      testRequest.common ⟨List.Vector.replicate 16 3⟩
        (List.Vector.replicate 32 7) (some lineage) .right
        testRequest.downstreamSelector testRequest.downstream
        testRequest.upstream }

theorem plan_accepted_by_both_testRequest :
    plan fingerprintHash testRequest ⟨List.Vector.replicate 16 3⟩
        (List.Vector.replicate 32 7) = .ok testPair ∧
      testPair.upstream.expiresAt = 1150 ∧
      ∃ left right,
        ((ShortcutManager.new ()).receiveTicket testPair.upstream "middle"
          "left" 970).2 = .ok left ∧
        ((ShortcutManager.new ()).receiveTicket testPair.downstream "middle"
          "right" 1149).2 = .ok right ∧
        left.session = right.session := by
  have planned :
      plan fingerprintHash testRequest ⟨List.Vector.replicate 16 3⟩
        (List.Vector.replicate 32 7) = .ok testPair := by
    decide
  have extensible :
      ∀ lease, testRequest.parent = some lease → Extensible lease := by
    intro lease parent lineage inherited
    cases parent
    cases inherited
    decide
  have fresh :
      ∀ epoch, (ShortcutManager.new ()).sessions.lookup
        ⟨⟨List.Vector.replicate 16 3⟩, epoch⟩ = none :=
    fun _ => rfl
  have upstreamInTime : (970 : UInt64) < testPair.upstream.expiresAt := by
    decide
  have downstreamInTime :
      (1149 : UInt64) < testPair.downstream.expiresAt := by
    decide
  obtain ⟨left, right, upstream, downstream, _, _, same, _⟩ :=
    plan_accepted_by_both planned (by decide) (by decide) rfl extensible
      fresh fresh (by decide) (by decide) upstreamInTime downstreamInTime
  exact ⟨planned, by decide, left, right, upstream, downstream, same⟩

end WgLink
