import WgLink.Shortcut.Cascade

/-!
# The length of a lineage

`plan` and `validate` check a lineage by conditions of their own.  A parent
whose ticket has passed leaves room for one more level and one less delegation
but not always for one more issuer, which `plan` does not check.
-/

namespace WgLink

open WgLink.Library

/-- The lease that a manager gives out for a session whose ticket has passed
its checks. -/
def ActiveLease.Validated (R : Type) (lease : ActiveLease) : Prop :=
  ∃ (manager : ShortcutManager R) (session : SessionKey)
    (managed : ManagedSession) (accepted : UInt64),
    manager.sessions.lookup session = some managed ∧
    managed.ticket.validate accepted = .ok () ∧
    manager.activeLease session = some lease

theorem ActiveLease.Validated.lineage
    {R : Type} {lease : ActiveLease} {lineage : ShortcutDelegation}
    (validated : lease.Validated R)
    (inherited : lease.delegation = some lineage) :
    lineage.validate = .ok () := by
  obtain ⟨manager, session, managed, accepted, present, valid, leased⟩ :=
    validated
  unfold ShortcutManager.activeLease at leased
  rw [present] at leased
  simp only at leased
  split_ifs at leased
  cases leased
  exact ShortcutTicket.validate_lineage valid inherited

/-- Both tickets that `plan` returns pass at the time of issue. -/
def EmitsValid
    (hash : Hash) (request : CascadeRequest) (shortcutId : ShortcutId)
    (masterSecret : ByteVector 32) : Prop :=
  ∀ pair, plan hash request shortcutId masterSecret = .ok pair →
    pair.upstream.validate request.now = .ok () ∧
      pair.downstream.validate request.now = .ok ()

/-- The lineage of the parent is full, and nothing that `plan` checks stands
against a child: budget, loop, keys, peer ids and time. -/
structure Overextends
    (hash : Hash) (request : CascadeRequest) (lease : ActiveLease)
    (lineage : ShortcutDelegation) : Prop where
  inherited : lease.delegation = some lineage
  full : lineage.visitedIssuers.length = 8
  budget : lineage.remainingDelegations ≠ 0
  unvisited :
    peerFingerprint hash request.issuerPublicKey ∉ lineage.visitedIssuers
  issuer : request.issuerPublicKey ≠ ""
  apart : request.upstream.publicKey ≠ request.downstream.publicKey
  upstreamPeer : request.upstream.peerId ≠ ""
  downstreamPeer : request.downstream.peerId ≠ ""
  leaseLeft : request.now.toNat + 1 < lease.expiresAt.toNat
  limitLeft :
    ∀ limit, request.expiresAtLimit = some limit →
      request.now.toNat + 1 < limit.toNat

section

variable {hash : Hash} {request : CascadeRequest} {lease : ActiveLease}
  {lineage : ShortcutDelegation}

/-- `plan` has time for a child exactly when lease and limit leave it. -/
theorem longEnough_iff (parent : request.parent = some lease) :
    saturatingAdd request.now 1 < request.expiresAt ↔
      request.now.toNat + 1 < lease.expiresAt.toNat ∧
      ∀ limit, request.expiresAtLimit = some limit →
        request.now.toNat + 1 < limit.toNat := by
  have one : (1 : UInt64).toNat = 1 := rfl
  have last : maxWord.toNat = 18446744073709551615 := rfl
  have leaseBound := toNat_lt lease.expiresAt
  have value := request.toNat_expiresAt
  rw [parent, Option.map_some, Option.getD_some] at value
  rw [UInt64.lt_iff_toNat_lt, toNat_saturatingAdd, one, value]
  clear value
  cases limited : request.expiresAtLimit with
  | none =>
      rw [Option.getD_none, last]
      constructor
      · intro longEnough
        refine ⟨by omega, ?_⟩
        intro limit impossible
        cases impossible
      · intro left
        have leaseLeft := left.1
        omega
  | some limit =>
      have limitBound := toNat_lt limit
      rw [Option.getD_some]
      constructor
      · intro longEnough
        refine ⟨by omega, ?_⟩
        intro other same
        cases same
        omega
      · intro left
        have leaseLeft := left.1
        have limitLeft := left.2 limit rfl
        omega

theorem plan_of_checks
    (shortcutId : ShortcutId) (masterSecret : ByteVector 32)
    {next : Option ShortcutDelegation}
    (issuer : request.issuerPublicKey ≠ "")
    (apart : request.upstream.publicKey ≠ request.downstream.publicKey)
    (upstreamPeer : request.upstream.peerId ≠ "")
    (downstreamPeer : request.downstream.peerId ≠ "")
    (delegated :
      delegation hash request.issuerPublicKey request.parent = .ok next)
    (longEnough : saturatingAdd request.now 1 < request.expiresAt) :
    ∃ pair,
      plan hash request shortcutId masterSecret = .ok pair ∧
        pair.upstream.delegation = next := by
  have peerIds :
      ¬ (request.upstream.peerId = "" ∨ request.downstream.peerId = "") :=
    not_or.mpr ⟨upstreamPeer, downstreamPeer⟩
  have inTime : ¬ request.expiresAt ≤ saturatingAdd request.now 1 :=
    UInt64.not_le.mpr longEnough
  unfold plan
  rw [if_neg issuer, if_neg apart, if_neg peerIds, delegated]
  simp only
  rw [if_neg inTime]
  exact ⟨_, rfl, rfl⟩

/-- A parent with budget left and an issuer that is new to it have a child
with one more visited issuer. -/
theorem delegation_of_lineage
    {issuer : String}
    (inherited : lease.delegation = some lineage)
    (valid : lineage.validate = .ok ())
    (budget : lineage.remainingDelegations ≠ 0)
    (unvisited : peerFingerprint hash issuer ∉ lineage.visitedIssuers) :
    ∃ next,
      delegation hash issuer (some lease) = .ok (some next) ∧
        next.visitedIssuers.length = lineage.visitedIssuers.length + 1 := by
  rw [ShortcutDelegation.validate_iff] at valid
  have remaining : lineage.remainingDelegations.toNat ≠ 0 := by
    intro zero
    exact budget (UInt8.toNat_inj.mp zero)
  have notLast : ¬ lineage.depth = 255 := by
    intro last
    have value : lineage.depth.toNat = 255 := congrArg UInt8.toNat last
    omega
  have deepest : maxDelegationDepth.toNat = 8 := rfl
  have shallow : ¬ lineage.depth + 1 > maxDelegationDepth := by
    rw [gt_iff_lt, UInt8.lt_iff_toNat_lt, toNat_increment notLast, deepest]
    omega
  have room :
      ¬ (lineage.depth + 1 > maxDelegationDepth ∨
        peerFingerprint hash issuer ∈ lineage.visitedIssuers) :=
    not_or.mpr ⟨shallow, unvisited⟩
  unfold delegation inheritedLineage
  simp only [inherited]
  rw [if_neg budget, if_neg notLast]
  simp only
  rw [if_neg room]
  refine ⟨_, rfl, ?_⟩
  rw [List.length_append, List.length_singleton]

/-- A child of a full lineage is planned and does not pass. -/
theorem not_emitsValid_of_overextends
    {R : Type} {shortcutId : ShortcutId} {masterSecret : ByteVector 32}
    (validated : lease.Validated R) (parent : request.parent = some lease)
    (overextends : Overextends hash request lease lineage) :
    ¬ EmitsValid hash request shortcutId masterSecret := by
  obtain ⟨next, delegated, visited⟩ :=
    delegation_of_lineage overextends.inherited
      (validated.lineage overextends.inherited) overextends.budget
      overextends.unvisited
  rw [← parent] at delegated
  have longEnough :=
    (longEnough_iff parent).mpr ⟨overextends.leaseLeft, overextends.limitLeft⟩
  obtain ⟨pair, planned, written⟩ :=
    plan_of_checks shortcutId masterSecret overextends.issuer
      overextends.apart overextends.upstreamPeer overextends.downstreamPeer
      delegated longEnough
  intro emitsValid
  have valid :=
    ShortcutTicket.validate_lineage (emitsValid pair planned).1 written
  rw [ShortcutDelegation.validate_iff] at valid
  have full := overextends.full
  omega

/-- A planned lineage is too long only below a full one. -/
theorem extensible_of_planned
    {R : Type} {shortcutId : ShortcutId} {masterSecret : ByteVector 32}
    {pair : ShortcutTicketPair}
    (validated : lease.Validated R) (parent : request.parent = some lease)
    (planned : plan hash request shortcutId masterSecret = .ok pair)
    (within : ¬ ∃ lineage, Overextends hash request lease lineage) :
    Extensible lease := by
  intro lineage inherited
  have valid := validated.lineage inherited
  refine ⟨valid, ?_⟩
  obtain ⟨issuer, apart, upstreamPeer, downstreamPeer, longEnough, written,
    delegated, _⟩ := plan_ok planned
  rw [parent] at delegated
  rcases delegation_ok delegated with
    ⟨impossible, _⟩ | ⟨other, next, sameParent, _, _, _,
      ⟨noLineage, _⟩ | ⟨previous, same, _, _, budget, unvisited, _⟩⟩
  · cases impossible
  · cases sameParent
    rw [inherited] at noLineage
    cases noLineage
  · cases sameParent
    rw [inherited] at same
    cases same
    by_contra long
    have bound := ((ShortcutDelegation.validate_iff lineage).mp valid).2.2.2
    have left := (longEnough_iff parent).mp longEnough
    have remaining : lineage.remainingDelegations ≠ 0 := by
      intro zero
      have value : lineage.remainingDelegations.toNat = 0 :=
        congrArg UInt8.toNat zero
      omega
    apply within
    exact ⟨lineage, inherited, by omega, remaining, unvisited, issuer, apart,
      upstreamPeer, downstreamPeer, left.1, left.2⟩

/-- What is planned below a validated parent passes unless the parent already
lists eight issuers and nothing else makes `plan` refuse. -/
theorem plan_emitsValid_iff
    {R : Type} (validated : lease.Validated R)
    (parent : request.parent = some lease)
    (upstreamKey : request.upstream.publicKey ≠ "")
    (downstreamKey : request.downstream.publicKey ≠ "")
    (defaultRenewal : request.renewAfterSeconds = none)
    (shortcutId : ShortcutId) (masterSecret : ByteVector 32) :
    EmitsValid hash request shortcutId masterSecret ↔
      ¬ ∃ lineage, Overextends hash request lease lineage := by
  constructor
  · intro emitsValid overfull
    obtain ⟨lineage, overextends⟩ := overfull
    exact not_emitsValid_of_overextends validated parent overextends
      emitsValid
  · intro within pair planned
    have extensible :
        ∀ other, request.parent = some other → Extensible other := by
      intro other same
      rw [parent] at same
      cases same
      exact extensible_of_planned validated parent planned within
    obtain ⟨_, _, _, _, longEnough, written, delegated, same⟩ :=
      plan_ok planned
    have lineages :
        ∀ next, pair.upstream.delegation = some next →
          next.validate = .ok () := by
      rw [same]
      exact delegation_validates delegated extensible
    have later := (CascadeRequest.lease_bounds longEnough).1
    have inTime : request.now < request.expiresAt := by
      rw [UInt64.lt_iff_toNat_lt]
      omega
    exact plan_validates planned upstreamKey downstreamKey defaultRenewal
      lineages (by omega) inTime

end

/-- A manager with one active session. -/
def managerOf (ticket : ShortcutTicket) : ShortcutManager Unit where
  routes := ()
  sessions := (∅ : HashMap _ _).insert ticket.session ⟨ticket, .active⟩
  activeRoutes := ∅

/-- The ticket behind the parent of `testRequest`. -/
def parentTicket (visitedIssuers : List (ByteVector 16)) : ShortcutTicket :=
  { testTicket 4 with
    shortcutId := ⟨List.Vector.replicate 16 1⟩
    expiresAt := 1150
    delegation := some
      { rootShortcutId := ⟨List.Vector.replicate 16 9⟩
        parentShortcutId := ⟨List.Vector.replicate 16 8⟩
        depth := 1
        remainingDelegations := 7
        visitedIssuers } }

theorem plan_emitsValid_testRequest :
    EmitsValid fingerprintHash testRequest ⟨List.Vector.replicate 16 3⟩
      (List.Vector.replicate 32 7) := by
  have validated :
      ActiveLease.Validated Unit
        { session := ⟨⟨List.Vector.replicate 16 1⟩, 4⟩
          expiresAt := 1150
          delegation :=
            (parentTicket [peerFingerprint fingerprintHash "hub"]).delegation } :=
    ⟨managerOf (parentTicket [peerFingerprint fingerprintHash "hub"]),
      (parentTicket []).session,
      ⟨parentTicket [peerFingerprint fingerprintHash "hub"], .active⟩, 1001,
      by decide, by decide, by decide⟩
  apply (plan_emitsValid_iff validated rfl (by decide) (by decide) rfl
    _ _).mpr
  intro overfull
  obtain ⟨lineage, overextends⟩ := overfull
  cases overextends.inherited
  exact absurd overextends.full (by decide)

/-- Eight issuers above the parent, as another node may list them. -/
def foreignIssuers : List (ByteVector 16) :=
  [11, 12, 13, 14, 15, 16, 17, 18].map (List.Vector.replicate 16)

/-- The parent of this request has passed, `plan` extends it, and the ticket
that it emits is rejected. -/
theorem overlong_lineage_planned :
    ∃ lease : ActiveLease,
      lease.Validated Unit ∧
      ¬ EmitsValid fingerprintHash { testRequest with parent := some lease }
        ⟨List.Vector.replicate 16 3⟩ (List.Vector.replicate 32 7) := by
  have validated :
      ActiveLease.Validated Unit
        { session := ⟨⟨List.Vector.replicate 16 1⟩, 4⟩
          expiresAt := 1150
          delegation := (parentTicket foreignIssuers).delegation } :=
    ⟨managerOf (parentTicket foreignIssuers),
      (parentTicket []).session,
      ⟨parentTicket foreignIssuers, .active⟩, 1001,
      by decide, by decide, by decide⟩
  refine ⟨_, validated, ?_⟩
  apply not_emitsValid_of_overextends validated rfl
  exact
    { inherited := rfl
      full := by decide
      budget := by decide
      unvisited := by decide
      issuer := by decide
      apart := by decide
      upstreamPeer := by decide
      downstreamPeer := by decide
      leaseLeft := by decide
      limitLeft := by intro limit impossible; cases impossible }

end WgLink
