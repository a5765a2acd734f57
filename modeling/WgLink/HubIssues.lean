import WgLink.Identity
import WgLink.Node
import Mathlib.Data.String.Basic

/-!
# The hub's issuing schedule

`issue_hub_shortcuts` of `main.rs` with the functions it calls.  The sends and
the random values of a pair are part of the tick's input.  A tick returns the
issues table it leaves and a record of every pair of tickets it planned.
-/

namespace WgLink

open WgLink.Library

def hubShortcutRenewalLeadSeconds : UInt64 := 30

/-- `HubIssueKey`. -/
structure HubIssueKey where
  leftPublicKey : String
  rightPublicKey : String
deriving DecidableEq

/-- `ordered_hub_issue_key`. -/
def orderedHubIssueKey (left right : String) : HubIssueKey :=
  if left ≤ right then ⟨left, right⟩ else ⟨right, left⟩

/-- `renewable_handshake`. -/
def renewableHandshake (latestHandshake now : UInt64) : Bool :=
  freshHandshake latestHandshake now &&
    saturatingAdd now (defaultRenewAfterSeconds + 1) ≤
      saturatingAdd latestHandshake baseHandshakeLifetimeSeconds

/-- `IpAddr::is_ipv4`. -/
def IpAddr.isIpv4 : IpAddr → Bool
  | .v4 _ => true
  | .v6 _ => false

/-- `host_allowed_address`. -/
def hostAllowedAddress (peer : Peer) : Option IpAddr :=
  peer.allowedIps.findSome? fun network =>
    match network with
    | .v4 addr length => if length.val = 32 then some (.v4 addr) else none
    | .v6 addr length => if length.val = 128 then some (.v6 addr) else none

/-- `host_selector`. -/
def hostSelector : IpAddr → IpNet
  | .v4 bits => .v4 bits (Fin.last 32)
  | .v6 bits => .v6 bits (Fin.last 128)

/-- What a pair meets outside: the outcomes of its sends and its random
values. -/
structure PairEffects where
  sendLeft : Except String Unit
  sendRight : Except String Unit
  shortcutId : ShortcutId
  masterSecret : ByteVector 32

/-- Two sends, the second only after the first. -/
def PairEffects.sendBoth (effects : PairEffects) : Except String Unit :=
  match effects.sendLeft with
  | .error error => .error error
  | .ok () => effects.sendRight

section

variable (hash : Hash)

/-- The request that `plan_peer_pair` makes. -/
def hubRequest
    (issuerPublicKey : String) (left : Peer) (leftAddress : IpAddr)
    (right : Peer) (rightAddress : IpAddr) (now : UInt64) :
    CascadeRequest where
  issuerPublicKey
  upstream :=
    ⟨left.publicKey,
      rotatingNodeName hash left.publicKey (peerIdPeriod now), []⟩
  downstream :=
    ⟨right.publicKey,
      rotatingNodeName hash right.publicKey (peerIdPeriod now), []⟩
  upstreamSelector := hostSelector rightAddress
  downstreamSelector := hostSelector leftAddress
  parent := none
  expiresAtLimit := some <|
    min (saturatingAdd left.latestHandshake baseHandshakeLifetimeSeconds)
      (saturatingAdd right.latestHandshake baseHandshakeLifetimeSeconds)
  renewAfterSeconds := none
  now

/-- `plan_peer_pair`. -/
def planPeerPair
    (issuerPublicKey : String) (left : Peer) (leftAddress : IpAddr)
    (right : Peer) (rightAddress : IpAddr) (now : UInt64)
    (effects : PairEffects) : Except String (ShortcutTicketPair × UInt64) :=
  let request :=
    hubRequest hash issuerPublicKey left leftAddress right rightAddress now
  match plan hash request effects.shortcutId effects.masterSecret with
  | .error error => .error error
  | .ok pair =>
      .ok
        (pair,
          max (saturatingSub pair.upstream.renewAt
            hubShortcutRenewalLeadSeconds) (now + 1))

/-- A pair of tickets that the hub planned. -/
structure HubIssue where
  time : UInt64
  left : Peer
  right : Peer
  pair : ShortcutTicketPair
  nextIssue : UInt64
  delivered : Bool

/-- The issues table and what has been planned so far, the newest first. -/
structure HubIssues where
  issues : HashMap HubIssueKey UInt64
  planned : List HubIssue

namespace HubIssues

/-- `issues.insert`. -/
def schedule (self : HubIssues) (key : HubIssueKey) (next : UInt64) :
    HubIssues :=
  { self with issues := self.issues.insert key next }

/-- The branch of `issue_hub_shortcuts` that refreshes the base handshakes. -/
def refresh
    (self : HubIssues) (key : HubIssueKey) (now : UInt64)
    (effects : PairEffects) : HubIssues :=
  match effects.sendBoth with
  | .ok () => self.schedule key (saturatingAdd now 1)
  | .error _ => self.schedule key (saturatingAdd now 5)

/-- `issue_peer_pair` and the branch that calls it. -/
def issue
    (self : HubIssues) (issuerPublicKey : String) (key : HubIssueKey)
    (left : Peer) (leftAddress : IpAddr)
    (right : Peer) (rightAddress : IpAddr) (now : UInt64)
    (effects : PairEffects) : HubIssues :=
  match
    planPeerPair hash issuerPublicKey left leftAddress right rightAddress now
      effects with
  | .error _ => self.schedule key (saturatingAdd now 5)
  | .ok (pair, nextIssue) =>
      match effects.sendBoth with
      | .ok () =>
          { issues := self.issues.insert key nextIssue
            planned := ⟨now, left, right, pair, nextIssue, true⟩ ::
              self.planned }
      | .error _ =>
          { issues := self.issues.insert key (saturatingAdd now 5)
            planned := ⟨now, left, right, pair, nextIssue, false⟩ ::
              self.planned }

/-- One round of the inner loop of `issue_hub_shortcuts`. -/
def visit
    (self : HubIssues) (issuerPublicKey : String)
    (interfaceAddresses : List IpAddr) (left right : Peer) (now : UInt64)
    (effects : PairEffects) : HubIssues :=
  match hostAllowedAddress left, hostAllowedAddress right with
  | some leftAddress, some rightAddress =>
      if leftAddress.isIpv4 ≠ rightAddress.isIpv4 then
        self
      else
        match
          interfaceAddresses.find? fun address =>
            address.isIpv4 == leftAddress.isIpv4 with
        | none => self
        | some _ =>
            let key := orderedHubIssueKey left.publicKey right.publicKey
            if now < (self.issues.lookup key).getD 0 then
              self
            else if !renewableHandshake left.latestHandshake now ||
                !renewableHandshake right.latestHandshake now then
              self.refresh key now effects
            else
              self.issue hash issuerPublicKey key left leftAddress right
                rightAddress now effects
  | _, _ => self

end HubIssues

/-- What a tick of the hub reads. -/
structure HubTick where
  issuerPublicKey : String
  interfaceAddresses : List IpAddr
  snapshot : Snapshot
  now : UInt64
  effects : Nat → Nat → PairEffects

/-- The inner loop of `issue_hub_shortcuts`. -/
def HubTick.visitRow
    (tick : HubTick) (leftIndex : Nat) (self : HubIssues) : HubIssues :=
  let peers := tick.snapshot.peers
  (List.range' (leftIndex + 1) (peers.length - (leftIndex + 1))).foldl
    (fun state rightIndex =>
      match peers[leftIndex]?, peers[rightIndex]? with
      | some left, some right =>
          state.visit hash tick.issuerPublicKey tick.interfaceAddresses left
            right tick.now (tick.effects leftIndex rightIndex)
      | _, _ => state)
    self

/-- `issue_hub_shortcuts`. -/
def issueHubShortcuts (tick : HubTick) (self : HubIssues) : HubIssues :=
  let peers := tick.snapshot.peers
  if peers.length < 2 then
    self
  else
    (List.range peers.length).foldl
      (fun state leftIndex => tick.visitRow hash leftIndex state) self

end

/-! ## What one pair does -/

theorem orderedHubIssueKey_comm (left right : String) :
    orderedHubIssueKey left right = orderedHubIssueKey right left := by
  unfold orderedHubIssueKey
  rcases lt_trichotomy left right with before | same | after
  · rw [if_pos before.le, if_neg (not_le.mpr before)]
  · rw [same]
  · rw [if_neg (not_le.mpr after), if_pos after.le]

theorem renewableHandshake_bounds
    {latestHandshake now : UInt64} (early : now.toNat + 180 < 2 ^ 64)
    (renewable : renewableHandshake latestHandshake now = true) :
    now.toNat + 121 ≤
      (saturatingAdd latestHandshake baseHandshakeLifetimeSeconds).toNat := by
  have window : (defaultRenewAfterSeconds + 1).toNat = 121 := rfl
  unfold renewableHandshake at renewable
  rw [Bool.and_eq_true, decide_eq_true_eq] at renewable
  have ordered := UInt64.le_iff_toNat_le.mp renewable.2
  rw [toNat_saturatingAdd, window] at ordered
  omega

/-- The key under which an issue is scheduled. -/
def HubIssue.key (issue : HubIssue) : HubIssueKey :=
  orderedHubIssueKey issue.left.publicKey issue.right.publicKey

/-- Both issues are for one unordered pair of peers. -/
def HubIssue.SamePair (first second : HubIssue) : Prop :=
  (first.left.publicKey = second.left.publicKey ∧
      first.right.publicKey = second.right.publicKey) ∨
    (first.left.publicKey = second.right.publicKey ∧
      first.right.publicKey = second.left.publicKey)

theorem HubIssue.SamePair.key_eq
    {first second : HubIssue} (same : first.SamePair second) :
    first.key = second.key := by
  unfold key
  rcases same with ⟨left, right⟩ | ⟨left, right⟩
  · rw [left, right]
  · rw [left, right, orderedHubIssueKey_comm]

/-- The times of an issue fit together, and the two unguarded operations of
the source, `now + 1` and `expires_at - 1`, do not wrap around. -/
structure HubIssue.OnSchedule (issue : HubIssue) : Prop where
  renewAt :
    ∀ ticket ∈ [issue.pair.upstream, issue.pair.downstream],
      ticket.renewAt.toNat = issue.time.toNat + 120
  expiresAt :
    ∀ ticket ∈ [issue.pair.upstream, issue.pair.downstream],
      issue.time.toNat + 121 ≤ ticket.expiresAt.toNat ∧
      ticket.expiresAt.toNat ≤ issue.time.toNat + 180 ∧
      ticket.expiresAt.toNat ≤ issue.left.latestHandshake.toNat + 180 ∧
      ticket.expiresAt.toNat ≤ issue.right.latestHandshake.toNat + 180
  due :
    ∀ ticket ∈ [issue.pair.upstream, issue.pair.downstream],
      issue.time.toNat < issue.nextIssue.toNat ∧
      issue.nextIssue.toNat + 31 ≤ ticket.expiresAt.toNat
  spacing : issue.nextIssue.toNat = issue.time.toNat + 90
  exact :
    (issue.time + 1).toNat = issue.time.toNat + 1 ∧
    ∀ ticket ∈ [issue.pair.upstream, issue.pair.downstream],
      (ticket.expiresAt - 1).toNat + 1 = ticket.expiresAt.toNat

/-- The end of the leases that the hub gives. -/
theorem hubRequest_expiresAt
    {hash : Hash} {issuerPublicKey : String} {left right : Peer}
    {leftAddress rightAddress : IpAddr} {now : UInt64}
    (early : now.toNat + 180 < 2 ^ 64) :
    (hubRequest hash issuerPublicKey left leftAddress right rightAddress
      now).expiresAt.toNat =
        min (now.toNat + 180)
          (min
            (saturatingAdd left.latestHandshake
              baseHandshakeLifetimeSeconds).toNat
            (saturatingAdd right.latestHandshake
              baseHandshakeLifetimeSeconds).toNat) := by
  have largest : maxWord.toNat = 18446744073709551615 := rfl
  rw [CascadeRequest.toNat_expiresAt]
  simp only [hubRequest, Option.map_none, Option.getD_none, Option.getD_some,
    toNat_min, largest]
  omega

/-- A successful plan: the times of both tickets are those of the request. -/
theorem planPeerPair_ok
    {hash : Hash} {issuerPublicKey : String} {left right : Peer}
    {leftAddress rightAddress : IpAddr} {now nextIssue : UInt64}
    {effects : PairEffects} {pair : ShortcutTicketPair}
    {request : CascadeRequest}
    (isRequest :
      hubRequest hash issuerPublicKey left leftAddress right rightAddress
        now = request)
    (planned :
      planPeerPair hash issuerPublicKey left leftAddress right rightAddress
        now effects = .ok (pair, nextIssue)) :
    saturatingAdd request.now 1 < request.expiresAt ∧
      (∀ ticket ∈ [pair.upstream, pair.downstream],
        ticket.renewAt = request.renewAt ∧
          ticket.expiresAt = request.expiresAt) ∧
      nextIssue =
        max (saturatingSub pair.upstream.renewAt
          hubShortcutRenewalLeadSeconds) (now + 1) := by
  unfold planPeerPair at planned
  simp only [isRequest] at planned
  split at planned
  · cases planned
  · rename_i tickets succeeded
    obtain ⟨_, _, _, _, longEnough, lineage, _, shape⟩ := plan_ok succeeded
    cases planned
    refine ⟨longEnough, ?_, rfl⟩
    intro ticket member
    rw [shape] at member
    rcases List.mem_pair.mp member with same | same
    all_goals
      rw [same]
      exact ⟨rfl, rfl⟩

theorem planPeerPair_onSchedule
    {hash : Hash} {issuerPublicKey : String} {left right : Peer}
    {leftAddress rightAddress : IpAddr} {now nextIssue : UInt64}
    {effects : PairEffects} {pair : ShortcutTicketPair}
    (early : now.toNat + 180 < 2 ^ 64)
    (leftRenewable : renewableHandshake left.latestHandshake now = true)
    (rightRenewable : renewableHandshake right.latestHandshake now = true)
    (planned :
      planPeerPair hash issuerPublicKey left leftAddress right rightAddress
        now effects = .ok (pair, nextIssue))
    (delivered : Bool) :
    HubIssue.OnSchedule ⟨now, left, right, pair, nextIssue, delivered⟩ := by
  have lifetime : baseHandshakeLifetimeSeconds.toNat = 180 := rfl
  have lead : hubShortcutRenewalLeadSeconds.toNat = 30 := rfl
  have one : (1 : UInt64).toNat = 1 := rfl
  have leftBound := renewableHandshake_bounds early leftRenewable
  have rightBound := renewableHandshake_bounds early rightRenewable
  have ends :=
    @hubRequest_expiresAt hash issuerPublicKey left right leftAddress
      rightAddress now early
  obtain ⟨longEnough, times, next⟩ := planPeerPair_ok rfl planned
  have renewal := (CascadeRequest.renewAt_bounds longEnough rfl).1
  have issued :
      (hubRequest hash issuerPublicKey left leftAddress right rightAddress
        now).now = now := rfl
  rw [issued] at renewal
  rw [toNat_saturatingAdd, lifetime] at leftBound rightBound ends
  rw [toNat_saturatingAdd, lifetime] at ends
  have renewAt :
      ∀ ticket ∈ [pair.upstream, pair.downstream],
        ticket.renewAt.toNat = now.toNat + 120 := by
    intro ticket member
    rw [(times ticket member).1]
    omega
  have increment : (now + 1).toNat = now.toNat + 1 := by
    rw [UInt64.toNat_add, one]
    omega
  have spacing : nextIssue.toNat = now.toNat + 90 := by
    have upstream := renewAt pair.upstream List.mem_cons_self
    rw [next, toNat_max, toNat_saturatingSub, lead, increment, upstream]
    omega
  constructor
  · exact renewAt
  · intro ticket member
    have value := congrArg UInt64.toNat (times ticket member).2
    simp only
    omega
  · intro ticket member
    have value := congrArg UInt64.toNat (times ticket member).2
    simp only
    omega
  · exact spacing
  · refine ⟨increment, ?_⟩
    intro ticket member
    have value := congrArg UInt64.toNat (times ticket member).2
    have positive : (1 : UInt64) ≤ ticket.expiresAt := by
      rw [UInt64.le_iff_toNat_le]
      omega
    rw [UInt64.toNat_sub_of_le _ _ positive, one]
    omega

/-! ## What a run keeps -/

/-- Delivered issues of one pair are 90 seconds apart, and the table holds back
the next one for as long. -/
structure HubIssues.Spaced (state : HubIssues) : Prop where
  entries :
    ∀ issue ∈ state.planned, issue.delivered = true →
      ∃ next,
        state.issues.lookup issue.key = some next ∧
        issue.time.toNat + 90 ≤ next.toNat
  apart :
    state.planned.Pairwise fun later earlier =>
      later.delivered = true → earlier.delivered = true →
      later.SamePair earlier →
      earlier.time.toNat + 90 ≤ later.time.toNat
  onSchedule : ∀ issue ∈ state.planned, issue.OnSchedule

namespace HubIssues

variable {self : HubIssues} {key : HubIssueKey} {now next : UInt64}

/-- The table lets the pair pass at this time. -/
def Passes (self : HubIssues) (key : HubIssueKey) (now : UInt64) : Prop :=
  ¬ now < (self.issues.lookup key).getD 0

/-- An entry that is replaced once its time has come only grows. -/
theorem Passes.entry_grows
    (passes : self.Passes key now) (later : now < next)
    {query : HubIssueKey} {bound : Nat}
    (held :
      ∃ entry, self.issues.lookup query = some entry ∧ bound ≤ entry.toNat) :
    ∃ entry,
      (self.issues.insert key next).lookup query = some entry ∧
      bound ≤ entry.toNat := by
  obtain ⟨entry, found, above⟩ := held
  rw [HashMap.lookup_insert_eq_ite]
  by_cases same : query = key
  · subst same
    rw [if_pos rfl]
    refine ⟨next, rfl, ?_⟩
    unfold Passes at passes
    rw [found, Option.getD_some, UInt64.lt_iff_toNat_lt] at passes
    rw [UInt64.lt_iff_toNat_lt] at later
    omega
  · rw [if_neg same]
    exact ⟨entry, found, above⟩

theorem Spaced.schedule
    (spaced : self.Spaced) (passes : self.Passes key now)
    (later : now < next) :
    (self.schedule key next).Spaced := by
  refine ⟨?_, spaced.apart, spaced.onSchedule⟩
  intro issue member delivered
  exact passes.entry_grows later (spaced.entries issue member delivered)

theorem Spaced.plan
    (spaced : self.Spaced) (passes : self.Passes key now)
    (later : now < next) {issue : HubIssue}
    (sameKey : issue.key = key) (sameTime : issue.time = now)
    (onSchedule : issue.OnSchedule)
    (scheduled : issue.delivered = true → next = issue.nextIssue) :
    Spaced ⟨self.issues.insert key next, issue :: self.planned⟩ := by
  refine ⟨?_, ?_, ?_⟩
  · intro other member delivered
    rcases List.mem_cons.mp member with same | older
    · subst same
      refine ⟨next, ?_, ?_⟩
      · rw [sameKey]
        exact Finmap.lookup_insert _
      · rw [scheduled delivered, onSchedule.spacing]
    · exact passes.entry_grows later (spaced.entries other older delivered)
  · refine List.pairwise_cons.mpr ⟨?_, spaced.apart⟩
    intro earlier member _ earlierDelivered samePair
    obtain ⟨entry, found, above⟩ :=
      spaced.entries earlier member earlierDelivered
    unfold Passes at passes
    rw [← sameKey, samePair.key_eq, found, Option.getD_some,
      UInt64.lt_iff_toNat_lt] at passes
    rw [sameTime]
    omega
  · intro other member
    rcases List.mem_cons.mp member with same | older
    · rw [same]
      exact onSchedule
    · exact spaced.onSchedule other older

theorem lt_saturatingAdd
    (early : now.toNat + 180 < 2 ^ 64) {delay : UInt64}
    (positive : 0 < delay.toNat) :
    now < saturatingAdd now delay := by
  rw [UInt64.lt_iff_toNat_lt, toNat_saturatingAdd]
  omega

theorem Spaced.refresh
    (spaced : self.Spaced) (passes : self.Passes key now)
    (early : now.toNat + 180 < 2 ^ 64) (effects : PairEffects) :
    (self.refresh key now effects).Spaced := by
  unfold HubIssues.refresh
  split
  · exact spaced.schedule passes (lt_saturatingAdd early Nat.one_pos)
  · exact spaced.schedule passes (lt_saturatingAdd early (by decide))

theorem Spaced.issue
    {hash : Hash} {issuerPublicKey : String} {left right : Peer}
    {leftAddress rightAddress : IpAddr} {effects : PairEffects}
    (spaced : self.Spaced)
    (passes :
      self.Passes (orderedHubIssueKey left.publicKey right.publicKey) now)
    (early : now.toNat + 180 < 2 ^ 64)
    (leftRenewable : renewableHandshake left.latestHandshake now = true)
    (rightRenewable : renewableHandshake right.latestHandshake now = true) :
    (self.issue hash issuerPublicKey
      (orderedHubIssueKey left.publicKey right.publicKey) left leftAddress
      right rightAddress now effects).Spaced := by
  have retry : now < saturatingAdd now 5 :=
    lt_saturatingAdd early (by decide)
  unfold HubIssues.issue
  split
  · exact spaced.schedule passes retry
  · rename_i pair nextIssue planned
    have onSchedule :=
      planPeerPair_onSchedule early leftRenewable rightRenewable planned
    split
    · refine spaced.plan passes ?_ rfl rfl (onSchedule true) fun _ => rfl
      rw [UInt64.lt_iff_toNat_lt, (onSchedule true).spacing]
      exact Nat.lt_add_of_pos_right (by decide)
    · refine spaced.plan passes retry rfl rfl (onSchedule false) ?_
      intro delivered
      cases delivered

theorem Spaced.visit
    {hash : Hash} {issuerPublicKey : String}
    {interfaceAddresses : List IpAddr} {left right : Peer}
    {effects : PairEffects}
    (spaced : self.Spaced) (early : now.toNat + 180 < 2 ^ 64) :
    (self.visit hash issuerPublicKey interfaceAddresses left right now
      effects).Spaced := by
  unfold HubIssues.visit
  split
  · split
    · exact spaced
    · split
      · exact spaced
      · simp only
        split
        · exact spaced
        · rename_i passes
          split
          · exact spaced.refresh passes early effects
          · rename_i renewable
            simp only [Bool.or_eq_true, Bool.not_eq_true', not_or,
              Bool.not_eq_false] at renewable
            exact spaced.issue passes early renewable.1 renewable.2
  · exact spaced

end HubIssues

section

variable {hash : Hash} {tick : HubTick} {state : HubIssues}

/-- A loop whose rounds keep the spacing keeps it. -/
theorem HubIssues.Spaced.foldl
    {round : HubIssues → Nat → HubIssues}
    (keeps : ∀ current index, current.Spaced → (round current index).Spaced)
    (spaced : state.Spaced) (indices : List Nat) :
    (indices.foldl round state).Spaced := by
  induction indices generalizing state with
  | nil =>
      exact spaced
  | cons index rest inductionHypothesis =>
      exact inductionHypothesis (keeps state index spaced)

theorem HubIssues.Spaced.visitRow
    (spaced : state.Spaced) (early : tick.now.toNat + 180 < 2 ^ 64)
    (leftIndex : Nat) :
    (tick.visitRow hash leftIndex state).Spaced := by
  apply spaced.foldl
  intro current rightIndex held
  split
  · exact held.visit early
  · exact held

theorem HubIssues.Spaced.issueHubShortcuts
    (spaced : state.Spaced) (early : tick.now.toNat + 180 < 2 ^ 64) :
    (WgLink.issueHubShortcuts hash tick state).Spaced := by
  unfold WgLink.issueHubShortcuts
  simp only
  split
  · exact spaced
  · apply spaced.foldl
    intro current leftIndex held
    exact held.visitRow early leftIndex

/-- Ticks of the hub on an empty table, as long as the clock leaves room for a
lease. -/
def hubRuns (hash : Hash) : Machine HubIssues HubTick Unit where
  start state := state = ⟨∅, []⟩
  step state tick :=
    if tick.now.toNat + 180 < 2 ^ 64 then
      some (issueHubShortcuts hash tick state, ())
    else
      none

/-- The hub's schedule: issues of one pair that went out are at least 90
seconds apart, and the times of every issue fit together. -/
theorem hub_issues_on_schedule
    {log : List (Record HubIssues HubTick Unit)}
    (execution : (hubRuns hash).Execution log state) :
    (state.planned.Pairwise fun later earlier =>
      later.delivered = true → earlier.delivered = true →
      later.SamePair earlier →
      earlier.time.toNat + 90 ≤ later.time.toNat) ∧
    ∀ issue ∈ state.planned, issue.OnSchedule := by
  have spaced : state.Spaced := by
    refine execution.state_invariant ?_ ?_
    · intro initial started
      subst started
      refine ⟨?_, List.Pairwise.nil, ?_⟩
      · intro issue member
        cases member
      · intro issue member
        cases member
    · intro record held taken
      unfold Machine.Takes hubRuns at taken
      simp only at taken
      split at taken
      · rename_i early
        rw [Option.some.injEq, Prod.mk.injEq] at taken
        rw [← taken.1]
        exact held.issueHubShortcuts early
      · cases taken
  exact ⟨spaced.apart, spaced.onSchedule⟩

end

/-- A peer with one address and a handshake at the given time. -/
def hubPeer (publicKey : String) (address : BitVec 32) (latest : UInt64) :
    Peer :=
  ⟨publicKey, [.v4 address (Fin.last 32)], latest⟩

/-- A tick over the given peers whose sends all succeed. -/
def hubTick (peers : List Peer) (now : UInt64) : HubTick where
  issuerPublicKey := "hub"
  interfaceAddresses := [.v4 0xC0A82601#32]
  snapshot := ⟨"hub", peers⟩
  now
  effects _ _ :=
    ⟨.ok (), .ok (), ⟨List.Vector.replicate 16 1⟩, List.Vector.replicate 32 1⟩

/-- Two issues of one pair whose peers are listed the other way round at the
second tick. -/
theorem hub_issues_of_reordered_peers :
    ∃ log state,
      (hubRuns stationHash).Execution log state ∧
      state.planned.map (fun issue => (issue.time, issue.delivered)) =
        [(7290, true), (7200, true)] ∧
      (state.planned.Pairwise fun later earlier =>
        later.delivered = true → earlier.delivered = true →
        later.SamePair earlier →
        earlier.time.toNat + 90 ≤ later.time.toNat) ∧
      ∀ issue ∈ state.planned, issue.OnSchedule := by
  have ran :
      ((hubRuns stationHash).run ⟨∅, []⟩
          [hubTick [hubPeer "left" 0xC0A82602#32 7200,
              hubPeer "right" 0xC0A82603#32 7200] 7200,
            hubTick [hubPeer "left" 0xC0A82602#32 7200,
              hubPeer "right" 0xC0A82603#32 7200] 7230,
            hubTick [hubPeer "right" 0xC0A82603#32 7285,
              hubPeer "left" 0xC0A82602#32 7280] 7290]).map
        (fun result =>
          result.2.planned.map fun issue => (issue.time, issue.delivered)) =
        some [(7290, true), (7200, true)] := by
    decide
  obtain ⟨log, state, execution, observed⟩ :=
    Machine.exists_execution_of_run rfl ran
  exact ⟨log, state, execution, observed, hub_issues_on_schedule execution⟩

end WgLink
