import WgLink.PeerLookup
import WgLink.Shortcut.State

/-!
# The transit detector

`shortcut/transit.rs`: a packet that a node forwards from one peer to another
is an opportunity for a shortcut between the two.  The downstream peer is
looked up without the upstream one, while the node itself forwards by the
whole table.
-/

namespace WgLink

open WgLink.Library

/-- `AUTHENTICATED_PATH_SECONDS`. -/
def authenticatedPathSeconds : UInt64 := 180

/-- `SUPPRESSION_SECONDS`. -/
def suppressionSeconds : UInt64 := 10

/-- `IngressPath`. -/
inductive IngressPath where
  | base (publicKey : String)
  | shortcut (publicKey : String) (session : SessionKey)
deriving DecidableEq

namespace IngressPath

/-- `IngressPath::public_key`. -/
def publicKey : IngressPath → String
  | .base publicKey => publicKey
  | .shortcut publicKey _ => publicKey

/-- `IngressPath::parent_session`. -/
def parentSession : IngressPath → Option SessionKey
  | .base _ => none
  | .shortcut _ session => some session

end IngressPath

/-- `TransitOpportunity`. -/
structure TransitOpportunity where
  upstreamPublicKey : String
  downstreamPublicKey : String
  upstreamSelector : IpNet
  downstreamSelector : IpNet
  parentSession : Option SessionKey
deriving DecidableEq

/-- `FlowKey`. -/
structure FlowKey where
  upstreamPublicKey : String
  downstreamPublicKey : String
  source : IpAddr
  destination : IpAddr
deriving DecidableEq

/-- `TransitDetector`. -/
structure TransitDetector where
  observed : HashMap FlowKey UInt64

/-- `handshake_is_fresh`. -/
def handshakeIsFresh (latestHandshake now : UInt64) : Bool :=
  latestHandshake != 0 &&
    saturatingSub now latestHandshake ≤ authenticatedPathSeconds

/-- The check on the upstream peer of a packet from the base interface; a
shortcut has authenticated its packets already. -/
def IngressPath.authenticated
    (ingress : IngressPath) (snapshot : Snapshot) (now : UInt64) : Bool :=
  match ingress with
  | .shortcut _ _ => true
  | .base publicKey =>
      match snapshot.peer publicKey with
      | none => false
      | some upstream => handshakeIsFresh upstream.latestHandshake now

namespace TransitDetector

/-- `host_selector` of the detector. -/
def hostSelector : IpAddr → IpNet
  | .v4 bits => .v4 bits (Fin.last 32)
  | .v6 bits => .v6 bits (Fin.last 128)

/-- The flow was reported less than `suppressionSeconds` ago. -/
def suppressed
    (self : TransitDetector) (flow : FlowKey) (now : UInt64) : Bool :=
  match self.observed.lookup flow with
  | none => false
  | some last => saturatingSub now last < suppressionSeconds

/-- `TransitDetector::observe`. -/
def observe
    (self : TransitDetector) (snapshot : Snapshot) (ingress : IngressPath)
    (source destination : IpAddr) (now : UInt64) :
    TransitDetector × Option TransitOpportunity :=
  if ingress.authenticated snapshot now then
    match snapshot.routePeer destination (some ingress.publicKey) with
    | none => (self, none)
    | some downstream =>
        if downstream.publicKey = ingress.publicKey ∨
            handshakeIsFresh downstream.latestHandshake now = false then
          (self, none)
        else
          let flow : FlowKey :=
            { upstreamPublicKey := ingress.publicKey
              downstreamPublicKey := downstream.publicKey
              source
              destination }
          if self.suppressed flow now then
            (self, none)
          else
            ({ observed :=
                HashMap.retain (self.observed.insert flow now)
                  fun _ last => saturatingSub now last < suppressionSeconds },
              some
                { upstreamPublicKey := ingress.publicKey
                  downstreamPublicKey := downstream.publicKey
                  upstreamSelector := hostSelector destination
                  downstreamSelector := hostSelector source
                  parentSession := ingress.parentSession })
  else
    (self, none)

end TransitDetector

/-! ## Lookups with and without the upstream peer -/

section

variable {peers : List Peer} {destination : IpAddr} {excluded : String}

theorem matchingPrefixes_all :
    matchingPrefixes peers destination none =
      peers.filterMap (matchingPrefix destination) := by
  unfold matchingPrefixes
  rw [List.filter_eq_self.mpr (fun _ _ => decide_eq_true (by simp))]

theorem matchingPrefixes_excluding :
    matchingPrefixes peers destination (some excluded) =
      (matchingPrefixes peers destination none).filter
        fun entry => entry.2.publicKey ≠ excluded := by
  rw [matchingPrefixes_all]
  unfold matchingPrefixes
  induction peers with
  | nil =>
      rfl
  | cons peer rest inductionHypothesis =>
      cases matching : matchingPrefix destination peer with
      | none =>
          rw [List.filterMap_cons_none matching, ← inductionHypothesis]
          by_cases same : peer.publicKey = excluded
          · rw [List.filter_cons_of_neg (by simp [same])]
          · rw [List.filter_cons_of_pos (by simp [same]),
              List.filterMap_cons_none matching]
      | some entry =>
          have owner : entry.2 = peer := (matchingPrefix_greatest matching).1
          rw [List.filterMap_cons_some matching]
          by_cases same : peer.publicKey = excluded
          · rw [List.filter_cons_of_neg (by simp [same]),
              List.filter_cons_of_neg (by simp [owner, same]),
              inductionHypothesis]
          · rw [List.filter_cons_of_pos (by simp [same]),
              List.filterMap_cons_some matching,
              List.filter_cons_of_pos (by simp [owner, same]),
              inductionHypothesis]

/-- Leaving out a peer that was not selected changes nothing. -/
theorem longestMatchingPrefix_excluding
    {peer : Peer}
    (found : longestMatchingPrefix peers destination none = some peer)
    (other : peer.publicKey ≠ excluded) :
    longestMatchingPrefix peers destination (some excluded) = some peer := by
  obtain ⟨entry, largest, same⟩ := Option.map_eq_some_iff.mp found
  subst same
  have remaining :
      maxByKey Prod.fst (matchingPrefixes peers destination (some excluded)) =
        some entry := by
    rw [matchingPrefixes_excluding]
    unfold maxByKey
    rw [← List.filter_reverse]
    apply argmax_filter largest
    exact decide_eq_true other
  exact Option.map_eq_some_iff.mpr ⟨entry, remaining, rfl⟩

theorem longestMatchingPrefix_none_excluding
    (missing : longestMatchingPrefix peers destination none = none) :
    longestMatchingPrefix peers destination (some excluded) = none := by
  have nothing : matchingPrefixes peers destination none = [] :=
    maxByKey_eq_none.mp (Option.map_eq_none_iff.mp missing)
  have remaining :
      matchingPrefixes peers destination (some excluded) = [] := by
    rw [matchingPrefixes_excluding, nothing]
    rfl
  exact Option.map_eq_none_iff.mpr (maxByKey_eq_none.mpr remaining)

theorem publicKey_ne_of_longestMatchingPrefix
    {peer : Peer}
    (found :
      longestMatchingPrefix peers destination (some excluded) = some peer) :
    peer.publicKey ≠ excluded := by
  obtain ⟨network, greatest⟩ := longestMatchingPrefix_greatest found
  have included : some peer.publicKey ≠ some excluded := greatest.mem.2.1
  intro same
  exact included (congrArg some same)

end

/-! ## Opportunities and the forwarding table -/

namespace TransitDetector

section

variable
  {detector : TransitDetector} {snapshot : Snapshot} {ingress : IngressPath}
  {source destination : IpAddr} {now : UInt64}

/-- The checks of `observe` are passed with this downstream peer. -/
structure Admits
    (detector : TransitDetector) (snapshot : Snapshot) (ingress : IngressPath)
    (source destination : IpAddr) (now : UInt64) (downstream : Peer) :
    Prop where
  authenticated : ingress.authenticated snapshot now = true
  routed :
    snapshot.routePeer destination (some ingress.publicKey) = some downstream
  fresh : handshakeIsFresh downstream.latestHandshake now = true
  unreported :
    detector.suppressed
      ⟨ingress.publicKey, downstream.publicKey, source, destination⟩ now =
        false

theorem observe_of_admits
    {downstream : Peer}
    (admitted :
      Admits detector snapshot ingress source destination now downstream) :
    (detector.observe snapshot ingress source destination now).2 =
      some
        { upstreamPublicKey := ingress.publicKey
          downstreamPublicKey := downstream.publicKey
          upstreamSelector := hostSelector destination
          downstreamSelector := hostSelector source
          parentSession := ingress.parentSession } := by
  have apart : downstream.publicKey ≠ ingress.publicKey :=
    publicKey_ne_of_longestMatchingPrefix admitted.routed
  have passes :
      ¬ (downstream.publicKey = ingress.publicKey ∨
        handshakeIsFresh downstream.latestHandshake now = false) := by
    rw [not_or, admitted.fresh]
    exact ⟨apart, Bool.true_eq_false_eq_False⟩
  unfold observe
  rw [if_pos admitted.authenticated, admitted.routed]
  simp only
  rw [if_neg passes, admitted.unreported]
  rfl

theorem admits_of_observe
    {opportunity : TransitOpportunity}
    (reported :
      (detector.observe snapshot ingress source destination now).2 =
        some opportunity) :
    ∃ downstream,
      Admits detector snapshot ingress source destination now downstream ∧
        opportunity.upstreamPublicKey = ingress.publicKey ∧
          opportunity.downstreamPublicKey = downstream.publicKey := by
  unfold observe at reported
  by_cases authenticated : ingress.authenticated snapshot now = true
  · rw [if_pos authenticated] at reported
    cases routed :
        snapshot.routePeer destination (some ingress.publicKey) with
    | none =>
        rw [routed] at reported
        cases reported
    | some downstream =>
        rw [routed] at reported
        simp only at reported
        split_ifs at reported with stale known
        rw [not_or, Bool.not_eq_false] at stale
        rw [Bool.not_eq_true] at known
        cases reported
        exact ⟨downstream, ⟨authenticated, routed, stale.2, known⟩, rfl, rfl⟩
  · rw [if_neg authenticated] at reported
    cases reported

/-- The AllowedIPs table sends the destination back to the upstream peer. -/
def RoutedBack
    (snapshot : Snapshot) (ingress : IngressPath) (destination : IpAddr) :
    Prop :=
  ∃ selected,
    snapshot.routePeer destination none = some selected ∧
      selected.publicKey = ingress.publicKey

/-- An opportunity names the peer to which the packet is forwarded, and a
packet that goes back to where it came from is none. -/
def FollowsRouting
    (detector : TransitDetector) (snapshot : Snapshot) (ingress : IngressPath)
    (source destination : IpAddr) (now : UInt64) : Prop :=
  (∀ opportunity,
    (detector.observe snapshot ingress source destination now).2 =
        some opportunity →
      opportunity.upstreamPublicKey = ingress.publicKey ∧
      opportunity.downstreamPublicKey ≠ opportunity.upstreamPublicKey ∧
      ∃ selected,
        snapshot.routePeer destination none = some selected ∧
          opportunity.downstreamPublicKey = selected.publicKey) ∧
  (RoutedBack snapshot ingress destination →
    (detector.observe snapshot ingress source destination now).2 = none)

/-- `observe` follows the table unless the packet goes back to its upstream
peer while another peer, behind a shorter prefix, passes all its checks. -/
theorem observe_followsRouting_iff
    (detector : TransitDetector) (snapshot : Snapshot) (ingress : IngressPath)
    (source destination : IpAddr) (now : UInt64) :
    FollowsRouting detector snapshot ingress source destination now ↔
      ¬ (RoutedBack snapshot ingress destination ∧
        ∃ downstream,
          Admits detector snapshot ingress source destination now
            downstream) := by
  constructor
  · intro follows diverted
    obtain ⟨back, downstream, admitted⟩ := diverted
    have nothing := follows.2 back
    rw [observe_of_admits admitted] at nothing
    cases nothing
  · intro straight
    constructor
    · intro opportunity reported
      obtain ⟨downstream, admitted, upstreamKey, downstreamKey⟩ :=
        admits_of_observe reported
      have apart : downstream.publicKey ≠ ingress.publicKey :=
        publicKey_ne_of_longestMatchingPrefix admitted.routed
      rw [upstreamKey, downstreamKey]
      refine ⟨rfl, apart, ?_⟩
      cases selected : snapshot.routePeer destination none with
      | none =>
          have missing := admitted.routed
          unfold Snapshot.routePeer at missing selected
          rw [longestMatchingPrefix_none_excluding selected] at missing
          cases missing
      | some peer =>
          by_cases back : peer.publicKey = ingress.publicKey
          · exact absurd ⟨⟨peer, selected, back⟩, downstream, admitted⟩
              straight
          · have kept := longestMatchingPrefix_excluding selected back
            have same : some peer = some downstream :=
              kept.symm.trans admitted.routed
            cases same
            exact ⟨downstream, rfl, rfl⟩
    · intro back
      cases reported :
          (detector.observe snapshot ingress source destination now).2 with
      | none =>
          rfl
      | some opportunity =>
          obtain ⟨downstream, admitted, _⟩ := admits_of_observe reported
          exact absurd ⟨back, downstream, admitted⟩ straight

end

/-- The snapshot of the unit tests with a host route of the upstream peer
inside the network of the downstream one. -/
def nestedSnapshot : Snapshot where
  publicKey := "middle"
  peers :=
    [ { publicKey := "upstream"
        allowedIps :=
          [.v4 0xCB007100#32 ((Fin.last 24).castAdd 8),
            .v4 0xC6336407#32 (Fin.last 32)]
        latestHandshake := 950 },
      { publicKey := "downstream"
        allowedIps := [.v4 0xC6336400#32 ((Fin.last 24).castAdd 8)]
        latestHandshake := 990 } ]

/-- A packet that the node returns to its upstream peer is reported as transit
to another one. -/
theorem returned_packet_reported :
    ¬ FollowsRouting ⟨∅⟩ nestedSnapshot (.base "upstream")
      (.v4 0xCB007109#32) (.v4 0xC6336407#32) 1000 := by
  intro follows
  have reported :
      ((TransitDetector.mk ∅).observe nestedSnapshot (.base "upstream")
        (.v4 0xCB007109#32) (.v4 0xC6336407#32) 1000).2 =
        some
          { upstreamPublicKey := "upstream"
            downstreamPublicKey := "downstream"
            upstreamSelector := .v4 0xC6336407#32 (Fin.last 32)
            downstreamSelector := .v4 0xCB007109#32 (Fin.last 32)
            parentSession := none } := by
    decide
  have back :
      RoutedBack nestedSnapshot (.base "upstream") (.v4 0xC6336407#32) :=
    ⟨nestedSnapshot.peers.head (by decide), by decide, by decide⟩
  have nothing := follows.2 back
  rw [reported] at nothing
  cases nothing

end TransitDetector

end WgLink
