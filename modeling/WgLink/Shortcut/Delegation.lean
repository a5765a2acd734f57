import WgLink.Shortcut.Cascade
import WgLink.Shortcut.RouteOwnership

/-!
# Delegation chains

A node that is an endpoint of an active shortcut may plan a child of it.  The
lineage in a ticket is all that the planner knows about the chain above it;
here it is compared with the chain itself.
-/

namespace WgLink

open WgLink.Library

variable {R : Type} {hash : Hash}

/-- A call of `plan` that succeeded. -/
structure Planned (hash : Hash) where
  request : CascadeRequest
  shortcutId : ShortcutId
  masterSecret : ByteVector 32
  pair : ShortcutTicketPair
  succeeded : plan hash request shortcutId masterSecret = .ok pair

namespace Planned

/-- The key of the node that planned. -/
def issuer (planned : Planned hash) : String :=
  planned.request.issuerPublicKey

/-- The lease that a manager gives out for one of the two tickets. -/
def Leases (R : Type) (planned : Planned hash) (lease : ActiveLease) : Prop :=
  ∃ (manager : ShortcutManager R) (managed : ManagedSession),
    (managed.ticket = planned.pair.upstream ∨
      managed.ticket = planned.pair.downstream) ∧
    manager.sessions.lookup managed.ticket.session = some managed ∧
    manager.activeLease managed.ticket.session = some lease

/-- Both tickets of a plan say the same about shortcut, lease and lineage. -/
theorem pair_fields (planned : Planned hash) :
    ∃ lineage,
      delegation hash planned.issuer planned.request.parent = .ok lineage ∧
      planned.pair.upstream.delegation = lineage ∧
      planned.pair.downstream.delegation = lineage ∧
      planned.pair.upstream.expiresAt = planned.request.expiresAt ∧
      planned.pair.downstream.expiresAt = planned.request.expiresAt ∧
      planned.pair.upstream.shortcutId = planned.shortcutId ∧
      planned.pair.downstream.shortcutId = planned.shortcutId := by
  obtain ⟨_, _, _, _, _, lineage, delegated, pair⟩ := plan_ok planned.succeeded
  refine ⟨lineage, delegated, ?_⟩
  rw [pair]
  exact ⟨rfl, rfl, rfl, rfl, rfl, rfl⟩

/-- A lease carries the shortcut, the end and the lineage of the plan. -/
theorem Leases.fields
    {planned : Planned hash} {lease : ActiveLease}
    (leases : planned.Leases R lease) :
    lease.session.shortcutId = planned.shortcutId ∧
      lease.expiresAt = planned.request.expiresAt ∧
      lease.delegation = planned.pair.upstream.delegation := by
  obtain ⟨lineage, _, upstreamLineage, downstreamLineage, upstreamEnd,
    downstreamEnd, upstreamId, downstreamId⟩ := planned.pair_fields
  obtain ⟨manager, managed, ticket, present, leased⟩ := leases
  unfold ShortcutManager.activeLease at leased
  rw [present] at leased
  simp only at leased
  split_ifs at leased
  cases leased
  rcases ticket with upstream | downstream
  · rw [upstream]
    exact ⟨upstreamId, upstreamEnd, rfl⟩
  · rw [downstream]
    exact ⟨downstreamId, downstreamEnd,
      downstreamLineage.trans upstreamLineage.symm⟩

end Planned

/-- Chains of plans, the newest first: the first plan has no parent, and the
parent of every other one is a lease of the plan before it. -/
inductive DelegationChain (R : Type) {hash : Hash} :
    List (Planned hash) → Prop
  | root {first : Planned hash} :
      first.request.parent = none → DelegationChain R [first]
  | delegate {next previous : Planned hash} {older : List (Planned hash)}
      {lease : ActiveLease} :
      DelegationChain R (previous :: older) →
      previous.Leases R lease →
      next.request.parent = some lease →
      DelegationChain R (next :: previous :: older)

/-- The fingerprints of all issuers of a chain but the first, in order. -/
def delegatedIssuers (plans : List (Planned hash)) : List (ByteVector 16) :=
  plans.dropLast.reverse.map fun planned =>
    peerFingerprint hash planned.issuer

/-- The lineage of `next` tells the chain `older` above it. -/
structure Traces
    (next : Planned hash) (older : List (Planned hash))
    (lineage : ShortcutDelegation) : Prop where
  depth : lineage.depth.toNat = older.length
  budget : lineage.remainingDelegations.toNat + older.length = 8
  root :
    older.getLast?.map Planned.shortcutId = some lineage.rootShortcutId
  parent :
    older.head?.map Planned.shortcutId = some lineage.parentShortcutId
  visited : lineage.visitedIssuers = delegatedIssuers (next :: older)
  distinct : lineage.visitedIssuers.Nodup

theorem delegatedIssuers_cons
    (next previous : Planned hash) (older : List (Planned hash)) :
    delegatedIssuers (next :: previous :: older) =
      delegatedIssuers (previous :: older) ++
        [peerFingerprint hash next.issuer] := by
  simp [delegatedIssuers]

/-- What a plan at the end of a chain writes into its tickets. -/
theorem DelegationChain.traces
    {next : Planned hash} {older : List (Planned hash)}
    (chain : DelegationChain R (next :: older)) :
    (older = [] ∧ next.pair.upstream.delegation = none) ∨
    ∃ lineage,
      next.pair.upstream.delegation = some lineage ∧
      Traces next older lineage := by
  generalize plans : next :: older = list at chain
  induction chain generalizing next older with
  | @root first orphan =>
      cases plans
      left
      obtain ⟨lineage, delegated, written, _⟩ := first.pair_fields
      rw [orphan] at delegated
      cases delegated
      exact ⟨rfl, written⟩
  | @delegate child previous rest lease chain leases parented
      inductionHypothesis =>
      cases plans
      right
      obtain ⟨lineage, delegated, written, _⟩ := child.pair_fields
      obtain ⟨sameId, _, sameLineage⟩ := leases.fields
      rw [parented] at delegated
      rcases delegation_ok delegated with
        ⟨orphan, _⟩ | ⟨parent, delegation, parentSame, same, parentId, _,
          ⟨unlined, root, depth, budget, visited⟩ |
            ⟨above, lined, root, depth, budget, unseen, visited⟩⟩
      · cases orphan
      · cases parentSame
        refine ⟨delegation, written.trans same, ?_⟩
        rcases inductionHypothesis rfl with
          ⟨first, _⟩ | ⟨aboveLineage, aboveWritten, _⟩
        · subst first
          constructor
          · exact depth
          · rw [budget]
            rfl
          · rw [root, sameId]
            rfl
          · rw [parentId, sameId]
            rfl
          · rw [visited]
            rfl
          · rw [visited]
            exact List.nodup_singleton _
        · rw [sameLineage, aboveWritten] at unlined
          cases unlined
      · cases parentSame
        refine ⟨delegation, written.trans same, ?_⟩
        rcases inductionHypothesis rfl with
          ⟨_, aboveWritten⟩ | ⟨aboveLineage, aboveWritten, traces⟩
        · rw [sameLineage, aboveWritten] at lined
          cases lined
        · rw [sameLineage, aboveWritten] at lined
          cases lined
          constructor
          · rw [depth, traces.depth, List.length_cons]
          · have earlier := traces.budget
            rw [List.length_cons]
            omega
          · rw [root, ← traces.root]
            cases rest with
            | nil =>
                have impossible := traces.root
                cases impossible
            | cons first others =>
                rfl
          · rw [parentId, sameId]
            rfl
          · rw [visited, traces.visited, ← delegatedIssuers_cons]
          · rw [visited, ← List.concat_eq_append]
            exact traces.distinct.concat unseen

/-! ## Chains as a whole -/

/-- Every older part of a chain is a chain. -/
theorem DelegationChain.older_part
    {newer older : List (Planned hash)} {planned : Planned hash}
    (chain : DelegationChain R (newer ++ planned :: older)) :
    DelegationChain R (planned :: older) := by
  induction newer with
  | nil =>
      exact chain
  | cons last rest inductionHypothesis =>
      apply inductionHypothesis
      obtain ⟨head, tail, shape⟩ :=
        List.exists_cons_of_ne_nil
          (List.append_ne_nil_of_right_ne_nil rest
            (List.cons_ne_nil planned older))
      rw [List.cons_append, shape] at chain
      rw [shape]
      cases chain with
      | delegate earlier _ _ =>
          exact earlier

/-- Nine plans at most: eight delegations. -/
theorem DelegationChain.length_le
    {plans : List (Planned hash)} (chain : DelegationChain R plans) :
    plans.length ≤ 9 := by
  cases plans with
  | nil =>
      exact Nat.zero_le 9
  | cons next older =>
      rcases chain.traces with ⟨first, _⟩ | ⟨lineage, _, traces⟩
      · subst first
        exact Nat.le_add_left 1 8
      · have budget := traces.budget
        rw [List.length_cons]
        omega

theorem Traces.validates
    {next : Planned hash} {older : List (Planned hash)}
    {lineage : ShortcutDelegation} (traces : Traces next older lineage)
    (delegated : older ≠ []) :
    lineage.validate = .ok () := by
  have depth := traces.depth
  have budget := traces.budget
  have positive := List.length_pos_iff.mpr delegated
  have visited : lineage.visitedIssuers.length = older.length := by
    rw [traces.visited]
    simp [delegatedIssuers]
  rw [ShortcutDelegation.validate_iff]
  omega

/-- A planned ticket of a chain passes at its issue time. -/
theorem DelegationChain.validates
    {next : Planned hash} {older : List (Planned hash)}
    (chain : DelegationChain R (next :: older))
    (upstreamKey : next.request.upstream.publicKey ≠ "")
    (downstreamKey : next.request.downstream.publicKey ≠ "")
    (defaultRenewal : next.request.renewAfterSeconds = none) :
    next.pair.upstream.validate next.request.now = .ok () ∧
      next.pair.downstream.validate next.request.now = .ok () := by
  obtain ⟨_, _, _, _, longEnough, _⟩ := plan_ok next.succeeded
  obtain ⟨after, _⟩ := CascadeRequest.lease_bounds longEnough
  have inTime : next.request.now < next.request.expiresAt := by
    rw [UInt64.lt_iff_toNat_lt]
    omega
  refine plan_validates next.succeeded upstreamKey downstreamKey
    defaultRenewal ?_ (Nat.le_add_right _ 30) inTime
  intro lineage written
  rcases chain.traces with ⟨_, unlined⟩ | ⟨traced, tracedWritten, traces⟩
  · rw [unlined] at written
    cases written
  · rw [tracedWritten] at written
    cases written
    apply traces.validates
    intro first
    subst first
    have impossible := traces.root
    cases impossible

/-- What holds of a chain of plans `t0, …, tn`, the newest first.  The plan
with `older` below it is `ti` for `i = older.length`. -/
structure WellFormedChain
    (R : Type) (plans : List (Planned hash)) : Prop where
  bounded : plans.length ≤ 9
  lineage :
    ∀ newer next older,
      plans = newer ++ next :: older →
      older ≠ [] →
      ∃ lineage,
        next.pair.upstream.delegation = some lineage ∧
        next.pair.downstream.delegation = some lineage ∧
        Traces next older lineage
  shrinking :
    ∀ newer next previous older,
      plans = newer ++ next :: previous :: older →
      ∀ child ∈ [next.pair.upstream, next.pair.downstream],
        ∀ parent ∈ [previous.pair.upstream, previous.pair.downstream],
          child.expiresAt ≤ parent.expiresAt
  short :
    ∀ planned ∈ plans,
      ∀ ticket ∈ [planned.pair.upstream, planned.pair.downstream],
        ticket.expiresAt.toNat ≤ planned.request.now.toNat + 180
  valid :
    ∀ planned ∈ plans,
      planned.request.upstream.publicKey ≠ "" →
      planned.request.downstream.publicKey ≠ "" →
      planned.request.renewAfterSeconds = none →
      ∀ ticket ∈ [planned.pair.upstream, planned.pair.downstream],
        ticket.validate planned.request.now = .ok ()
  exhausted :
    ∀ last older,
      plans = last :: older →
      plans.length = 9 →
      ∀ lease, last.Leases R lease →
        ∀ request shortcutId masterSecret,
          request.parent = some lease →
          ∃ error, plan hash request shortcutId masterSecret = .error error

theorem Planned.expiresAt_bounds (planned : Planned hash) :
    planned.request.expiresAt.toNat ≤ planned.request.now.toNat + 180 ∧
    ∀ lease, planned.request.parent = some lease →
      planned.request.expiresAt ≤ lease.expiresAt := by
  obtain ⟨_, _, _, _, longEnough, _⟩ := plan_ok planned.succeeded
  obtain ⟨_, short, inherited, _⟩ := CascadeRequest.lease_bounds longEnough
  refine ⟨short, ?_⟩
  intro lease parented
  rw [UInt64.le_iff_toNat_le]
  exact inherited lease parented

theorem Planned.ticket_expiresAt
    (planned : Planned hash) {ticket : ShortcutTicket}
    (member : ticket ∈ [planned.pair.upstream, planned.pair.downstream]) :
    ticket.expiresAt = planned.request.expiresAt := by
  obtain ⟨_, _, _, _, upstreamEnd, downstreamEnd, _⟩ := planned.pair_fields
  rcases List.mem_pair.mp member with same | same
  · rw [same]
    exact upstreamEnd
  · rw [same]
    exact downstreamEnd

/-- Delegation chains are bounded and every lineage tells its chain. -/
theorem delegationChain_wellFormed
    {plans : List (Planned hash)} (chain : DelegationChain R plans) :
    WellFormedChain R plans := by
  constructor
  · exact chain.length_le
  · intro newer next older split delegated
    subst split
    obtain ⟨_, _, upstream, downstream, _⟩ := next.pair_fields
    rcases chain.older_part.traces with
      ⟨first, _⟩ | ⟨lineage, written, traces⟩
    · exact absurd first delegated
    · exact ⟨lineage, written,
        (downstream.trans upstream.symm).trans written, traces⟩
  · intro newer next previous older split child childMember parent
      parentMember
    subst split
    rw [next.ticket_expiresAt childMember,
      previous.ticket_expiresAt parentMember]
    cases chain.older_part with
    | delegate earlier leases parented =>
        rw [← leases.fields.2.1]
        exact next.expiresAt_bounds.2 _ parented
  · intro planned member ticket ticketMember
    rw [planned.ticket_expiresAt ticketMember]
    exact planned.expiresAt_bounds.1
  · intro planned member upstreamKey downstreamKey defaultRenewal ticket
      ticketMember
    obtain ⟨newer, older, split⟩ := List.append_of_mem member
    subst split
    have valid :=
      chain.older_part.validates upstreamKey downstreamKey defaultRenewal
    rcases List.mem_pair.mp ticketMember with same | same
    · rw [same]
      exact valid.1
    · rw [same]
      exact valid.2
  · intro last older split full lease leases request shortcutId masterSecret
      parented
    subst split
    cases outcome : plan hash request shortcutId masterSecret with
    | error error =>
        exact ⟨error, rfl⟩
    | ok pair =>
        let next : Planned hash :=
          ⟨request, shortcutId, masterSecret, pair, outcome⟩
        have longer : DelegationChain R (next :: last :: older) :=
          .delegate chain leases parented
        have bound := longer.length_le
        rw [List.length_cons] at bound
        omega

/-! ## Which issuers a chain remembers -/

/-- Issuers of a chain repeat exactly when a later one is the first. -/
theorem issuers_distinct_iff
    {later : List (Planned hash)} {first : Planned hash}
    (chain : DelegationChain R (later ++ [first])) :
    ((later ++ [first]).map Planned.issuer).Nodup ↔
      ∀ planned ∈ later, planned.issuer ≠ first.issuer := by
  have remembered : (later.map Planned.issuer).Nodup := by
    cases later with
    | nil =>
        exact List.nodup_nil
    | cons next others =>
        rw [List.cons_append] at chain
        rcases chain.traces with ⟨alone, _⟩ | ⟨lineage, _, traces⟩
        · simp at alone
        · have distinct := traces.distinct
          rw [traces.visited] at distinct
          have laterOnes :
              (next :: (others ++ [first])).dropLast = next :: others := by
            rw [← List.cons_append, List.dropLast_concat]
          unfold delegatedIssuers at distinct
          rw [laterOnes, List.map_reverse, List.nodup_reverse] at distinct
          apply List.Nodup.of_map (peerFingerprint hash)
          rw [List.map_map]
          exact distinct
  rw [List.map_append, List.map_singleton, List.nodup_append]
  constructor
  · intro distinct planned member
    exact distinct.2.2 planned.issuer (List.mem_map_of_mem member)
      first.issuer (List.mem_singleton_self _)
  · intro fresh
    refine ⟨remembered, List.nodup_singleton _, ?_⟩
    intro issuer issuerMember root rootMember
    obtain ⟨planned, member, rfl⟩ := List.mem_map.mp issuerMember
    rw [List.mem_singleton.mp rootMember]
    exact fresh planned member

/-! ## A chain that comes back to its first issuer -/

/-- A request of `issuer` for a shortcut from the left endpoint to
`downstream`. -/
def chainRequest
    (issuer downstream : String) (parent : Option ActiveLease) :
    CascadeRequest where
  issuerPublicKey := issuer
  upstream := ⟨"left", "left-peer", []⟩
  downstream := ⟨downstream, "downstream-peer", []⟩
  upstreamSelector := .v4 0xC6336407#32 (Fin.last 32)
  downstreamSelector := .v4 0xCB007101#32 (Fin.last 32)
  parent
  expiresAtLimit := none
  renewAfterSeconds := none
  now := 1000

/-- The pair planned for it, under an id made of `byte`. -/
def chainPair
    (issuer downstream : String) (parent : Option ActiveLease)
    (byte : UInt8) (lineage : Option ShortcutDelegation) :
    ShortcutTicketPair :=
  let request := chainRequest issuer downstream parent
  { upstream :=
      request.common ⟨List.Vector.replicate 16 byte⟩
        (List.Vector.replicate 32 byte) lineage .left
        request.upstreamSelector request.upstream request.downstream
    downstream :=
      request.common ⟨List.Vector.replicate 16 byte⟩
        (List.Vector.replicate 32 byte) lineage .right
        request.downstreamSelector request.downstream request.upstream }

/-- The manager of the recipient of a ticket, after its handshake. -/
def recipientManager (ticket : ShortcutTicket) :
    ShortcutManager ShortcutManager.MockRoutes :=
  let accepted :=
    ((ShortcutManager.mockManager []).receiveTicket ticket
      ticket.issuerPublicKey ticket.recipientPublicKey 1000).1
  (accepted.authenticatedHandshake ticket.session 1001).1

/-- The hub connects the left endpoint with the middle. -/
def hubPlan : Planned fingerprintHash where
  request := chainRequest "hub" "middle" none
  shortcutId := ⟨List.Vector.replicate 16 1⟩
  masterSecret := List.Vector.replicate 32 1
  pair := chainPair "hub" "middle" none 1 none
  succeeded := by decide

def hubLease : ActiveLease :=
  ⟨hubPlan.pair.downstream.session, 1180, none⟩

def middleLineage : ShortcutDelegation where
  rootShortcutId := ⟨List.Vector.replicate 16 1⟩
  parentShortcutId := ⟨List.Vector.replicate 16 1⟩
  depth := 1
  remainingDelegations := 7
  visitedIssuers := [peerFingerprint fingerprintHash "middle"]

/-- The middle connects the left endpoint with the hub. -/
def middlePlan : Planned fingerprintHash where
  request := chainRequest "middle" "hub" (some hubLease)
  shortcutId := ⟨List.Vector.replicate 16 2⟩
  masterSecret := List.Vector.replicate 32 2
  pair := chainPair "middle" "hub" (some hubLease) 2 (some middleLineage)
  succeeded := by decide

def middleLease : ActiveLease :=
  ⟨middlePlan.pair.downstream.session, 1180, some middleLineage⟩

def returnLineage : ShortcutDelegation where
  rootShortcutId := ⟨List.Vector.replicate 16 1⟩
  parentShortcutId := ⟨List.Vector.replicate 16 2⟩
  depth := 2
  remainingDelegations := 6
  visitedIssuers :=
    [peerFingerprint fingerprintHash "middle",
      peerFingerprint fingerprintHash "hub"]

/-- The hub plans again, below its own shortcut. -/
def returnPlan : Planned fingerprintHash where
  request := chainRequest "hub" "right" (some middleLease)
  shortcutId := ⟨List.Vector.replicate 16 3⟩
  masterSecret := List.Vector.replicate 32 3
  pair := chainPair "hub" "right" (some middleLease) 3 (some returnLineage)
  succeeded := by decide

theorem hubPlan_leases :
    hubPlan.Leases ShortcutManager.MockRoutes hubLease :=
  ⟨recipientManager hubPlan.pair.downstream,
    ⟨hubPlan.pair.downstream, .active⟩, .inr rfl, by decide, by decide⟩

theorem middlePlan_leases :
    middlePlan.Leases ShortcutManager.MockRoutes middleLease :=
  ⟨recipientManager middlePlan.pair.downstream,
    ⟨middlePlan.pair.downstream, .active⟩, .inr rfl, by decide, by decide⟩

theorem shortChain :
    DelegationChain ShortcutManager.MockRoutes [middlePlan, hubPlan] :=
  .delegate (.root rfl) hubPlan_leases rfl

theorem delegationChain_wellFormed_shortChain :
    DelegationChain ShortcutManager.MockRoutes [middlePlan, hubPlan] ∧
      WellFormedChain ShortcutManager.MockRoutes [middlePlan, hubPlan] :=
  ⟨shortChain, delegationChain_wellFormed shortChain⟩

theorem issuers_distinct_shortChain :
    DelegationChain ShortcutManager.MockRoutes ([middlePlan] ++ [hubPlan]) ∧
      (([middlePlan] ++ [hubPlan]).map Planned.issuer).Nodup := by
  refine ⟨shortChain, (issuers_distinct_iff shortChain).mpr ?_⟩
  intro planned member
  rw [List.mem_singleton.mp member]
  decide

/-- The hub is not among the visited issuers of its own shortcut, so it may
delegate a second time. -/
theorem first_issuer_repeats :
    DelegationChain ShortcutManager.MockRoutes
        [returnPlan, middlePlan, hubPlan] ∧
      peerFingerprint fingerprintHash "hub" ≠
          peerFingerprint fingerprintHash "middle" ∧
      ¬ ([returnPlan, middlePlan, hubPlan].map Planned.issuer).Nodup :=
  ⟨.delegate shortChain middlePlan_leases rfl, by decide, by decide⟩

end WgLink
