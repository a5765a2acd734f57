import WgLink.Library.Greatest
import WgLink.Net

/-!
# WireGuard snapshots

The parts of `wg show` that the node reads, and the peer that the AllowedIPs
table selects for an address.
-/

namespace WgLink

open WgLink.Library

/-- `wireguard::Peer`. -/
structure Peer where
  publicKey : String
  allowedIps : List IpNet
  latestHandshake : UInt64
deriving DecidableEq, Repr

/-- `wireguard::Snapshot`. -/
structure Snapshot where
  publicKey : String
  peers : List Peer
deriving DecidableEq, Repr

/-- `Iterator::max_by_key`: of several largest elements the last one. -/
def maxByKey {α : Type} (key : α → Nat) (items : List α) : Option α :=
  items.reverse.argmax key

/-- The longest AllowedIPs prefix of one peer that contains the address, with
the peer. -/
def matchingPrefix (destination : IpAddr) (peer : Peer) : Option (Nat × Peer) :=
  (maxByKey IpNet.prefixLen
    (peer.allowedIps.filter fun network => network.contains destination)).map
      fun network => (network.prefixLen, peer)

/-- `longest_matching_prefix`. -/
def longestMatchingPrefix
    (peers : List Peer) (destination : IpAddr)
    (excludePublicKey : Option String) : Option Peer :=
  (maxByKey Prod.fst
    ((peers.filter fun peer => some peer.publicKey ≠ excludePublicKey).filterMap
      (matchingPrefix destination))).map Prod.snd

/-- `Snapshot::peer`. -/
def Snapshot.peer (snapshot : Snapshot) (publicKey : String) : Option Peer :=
  snapshot.peers.find? fun peer => peer.publicKey = publicKey

/-- `Snapshot::route_peer`. -/
def Snapshot.routePeer
    (snapshot : Snapshot) (destination : IpAddr)
    (excludePublicKey : Option String) : Option Peer :=
  longestMatchingPrefix snapshot.peers destination excludePublicKey

theorem mem_of_maxByKey
    {α : Type} {key : α → Nat} {items : List α} {item : α}
    (largest : maxByKey key items = some item) : item ∈ items :=
  List.mem_reverse.mp (List.argmax_mem largest)

theorem maxByKey_eq_none
    {α : Type} {key : α → Nat} {items : List α} :
    maxByKey key items = none ↔ items = [] := by
  unfold maxByKey
  rw [List.argmax_eq_none, List.reverse_eq_nil_iff]

theorem greatestBy_of_maxByKey
    {α : Type} {key : α → Nat} {items : List α} {item : α}
    (largest : maxByKey key items = some item) :
    GreatestBy key {other | other ∈ items} item := by
  have reversed := greatestBy_of_argmax largest
  simpa only [List.mem_reverse] using reversed

/-- The selected peer is one of the snapshot. -/
theorem Snapshot.mem_of_routePeer
    {snapshot : Snapshot} {destination : IpAddr}
    {excluded : Option String} {peer : Peer}
    (routed : snapshot.routePeer destination excluded = some peer) :
    peer ∈ snapshot.peers := by
  unfold routePeer longestMatchingPrefix at routed
  obtain ⟨⟨length, selected⟩, largest, rfl⟩ :=
    Option.map_eq_some_iff.mp routed
  obtain ⟨candidate, candidateMember, matching⟩ :=
    List.mem_filterMap.mp (mem_of_maxByKey largest)
  unfold matchingPrefix at matching
  obtain ⟨_, _, same⟩ := Option.map_eq_some_iff.mp matching
  cases same
  exact (List.mem_filter.mp candidateMember).1

/-- A peer that may use a single address. -/
def testPeer : Peer :=
  { publicKey := "issuer"
    allowedIps := [.v4 0x0A000002#32 (Fin.last 32)]
    latestHandshake := 990 }

end WgLink
