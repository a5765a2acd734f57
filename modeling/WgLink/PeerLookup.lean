import WgLink.Wireguard
import Mathlib.Data.Option.Basic

/-!
# Peer lookup

`longest_matching_prefix` is a maximum of maxima.  It is read here as one
greatest element of the set of all containing prefixes, each paired with the
peer that owns it, and that set does not depend on any order.
-/

namespace WgLink

open WgLink.Library

/-- The containing prefixes of the peers that are not excluded. -/
def containingPrefixes
    (peers : List Peer) (destination : IpAddr)
    (excludePublicKey : Option String) : Set (Peer × IpNet) :=
  {entry |
    entry.1 ∈ peers ∧ some entry.1.publicKey ≠ excludePublicKey ∧
      entry.2 ∈ entry.1.allowedIps ∧ entry.2.contains destination = true}

/-- The containing prefixes of one peer. -/
def containingPrefixesOf
    (destination : IpAddr) (peer : Peer) : Set (Peer × IpNet) :=
  {entry |
    entry.1 = peer ∧
      entry.2 ∈ peer.allowedIps ∧ entry.2.contains destination = true}

section

variable
  {peers : List Peer} {destination : IpAddr}
  {excludePublicKey : Option String}

theorem matchingPrefix_isSome
    {peer : Peer} {network : IpNet}
    (owned : network ∈ peer.allowedIps)
    (containing : network.contains destination = true) :
    ∃ entry, matchingPrefix destination peer = some entry := by
  cases inspected : matchingPrefix destination peer with
  | some entry =>
      exact ⟨entry, rfl⟩
  | none =>
      unfold matchingPrefix at inspected
      rw [Option.map_eq_none_iff, maxByKey_eq_none] at inspected
      have member :
          network ∈ peer.allowedIps.filter
            fun network => network.contains destination :=
        List.mem_filter.mpr ⟨owned, containing⟩
      rw [inspected] at member
      cases member

/-- The length found for a peer bounds its containing prefixes and is the
length of one of them. -/
theorem matchingPrefix_greatest
    {peer : Peer} {entry : Nat × Peer}
    (matching : matchingPrefix destination peer = some entry) :
    entry.2 = peer ∧
      (∃ network ∈ peer.allowedIps,
        network.contains destination = true ∧
          network.prefixLen = entry.1) ∧
      ∀ network ∈ peer.allowedIps,
        network.contains destination = true → network.prefixLen ≤ entry.1 := by
  unfold matchingPrefix at matching
  obtain ⟨network, largest, same⟩ := Option.map_eq_some_iff.mp matching
  subst same
  have greatest := greatestBy_of_maxByKey largest
  obtain ⟨owned, containing⟩ := List.mem_filter.mp greatest.mem
  refine ⟨rfl, ⟨network, owned, containing, rfl⟩, ?_⟩
  intro other otherOwned otherContaining
  apply greatest.le other
  exact List.mem_filter.mpr ⟨otherOwned, otherContaining⟩

/-- The entries among which the outer maximum is taken. -/
def matchingPrefixes
    (peers : List Peer) (destination : IpAddr)
    (excludePublicKey : Option String) : List (Nat × Peer) :=
  (peers.filter fun peer => some peer.publicKey ≠ excludePublicKey).filterMap
    (matchingPrefix destination)

theorem mem_matchingPrefixes {entry : Nat × Peer} :
    entry ∈ matchingPrefixes peers destination excludePublicKey ↔
      entry.2 ∈ peers ∧ some entry.2.publicKey ≠ excludePublicKey ∧
        matchingPrefix destination entry.2 = some entry := by
  unfold matchingPrefixes
  rw [List.mem_filterMap]
  constructor
  · intro found
    obtain ⟨peer, peerMember, matching⟩ := found
    obtain ⟨member, included⟩ := List.mem_filter.mp peerMember
    have same := (matchingPrefix_greatest matching).1
    subst same
    exact ⟨member, of_decide_eq_true included, matching⟩
  · intro found
    obtain ⟨member, included, matching⟩ := found
    refine ⟨entry.2, ?_, matching⟩
    exact List.mem_filter.mpr ⟨member, decide_eq_true included⟩

theorem containingPrefixes_eq_iUnion :
    containingPrefixes peers destination excludePublicKey =
      ⋃ entry ∈ {entry |
        entry ∈ matchingPrefixes peers destination excludePublicKey},
          containingPrefixesOf destination entry.2 := by
  ext ⟨peer, network⟩
  simp only [Set.mem_iUnion₂]
  constructor
  · intro containingEntry
    obtain ⟨member, included, owned, containing⟩ := containingEntry
    obtain ⟨entry, matching⟩ := matchingPrefix_isSome owned containing
    have same : entry.2 = peer := (matchingPrefix_greatest matching).1
    subst same
    exact ⟨entry, mem_matchingPrefixes.mpr ⟨member, included, matching⟩,
      rfl, owned, containing⟩
  · intro containingEntry
    obtain ⟨entry, entryMember, same, owned, containing⟩ := containingEntry
    obtain ⟨member, included, _⟩ := mem_matchingPrefixes.mp entryMember
    have samePeer : peer = entry.2 := same
    subst samePeer
    exact ⟨member, included, owned, containing⟩

/-- The peer found owns a greatest containing prefix. -/
theorem longestMatchingPrefix_greatest
    {peer : Peer}
    (found :
      longestMatchingPrefix peers destination excludePublicKey = some peer) :
    ∃ network,
      GreatestBy (fun entry => entry.2.prefixLen)
        (containingPrefixes peers destination excludePublicKey)
        (peer, network) := by
  obtain ⟨chosen, largest, same⟩ := Option.map_eq_some_iff.mp found
  subst same
  have heaviest := greatestBy_of_maxByKey largest
  have chosenMatches := (mem_matchingPrefixes.mp heaviest.mem).2.2
  obtain ⟨_, ⟨network, owned, containing, attained⟩, _⟩ :=
    matchingPrefix_greatest chosenMatches
  refine ⟨network, ?_⟩
  rw [containingPrefixes_eq_iUnion]
  refine GreatestBy.iUnion ?_ heaviest ⟨rfl, owned, containing⟩ attained
  intro entry entryMember other otherMember
  have entryMatches := (mem_matchingPrefixes.mp entryMember).2.2
  obtain ⟨_, otherOwned, otherContaining⟩ := otherMember
  exact (matchingPrefix_greatest entryMatches).2.2
    other.2 otherOwned otherContaining

theorem longestMatchingPrefix_eq_none :
    longestMatchingPrefix peers destination excludePublicKey = none ↔
      containingPrefixes peers destination excludePublicKey = ∅ := by
  constructor
  · intro missing
    have nothing :
        matchingPrefixes peers destination excludePublicKey = [] :=
      maxByKey_eq_none.mp (Option.map_eq_none_iff.mp missing)
    rw [containingPrefixes_eq_iUnion, nothing]
    simp
  · intro nothing
    cases found :
        longestMatchingPrefix peers destination excludePublicKey with
    | none =>
        rfl
    | some peer =>
        obtain ⟨network, greatest⟩ := longestMatchingPrefix_greatest found
        have member := greatest.mem
        rw [nothing] at member
        cases member

end

/-! ## Order independence -/

/-- Two readings of one peer whose AllowedIPs are listed in some other
order. -/
def SamePeer (first second : Peer) : Prop :=
  first.publicKey = second.publicKey ∧
    first.latestHandshake = second.latestHandshake ∧
      first.allowedIps.Perm second.allowedIps

/-- Two readings of one peer list: the peers are permuted, and the AllowedIPs
of each peer. -/
def SamePeers (first second : List Peer) : Prop :=
  ∃ permuted, first.Perm permuted ∧ List.Forall₂ SamePeer permuted second

theorem SamePeer.symm {first second : Peer} (same : SamePeer first second) :
    SamePeer second first :=
  ⟨same.1.symm, same.2.1.symm, same.2.2.symm⟩

/-- No network belongs to two peers, host bits aside. -/
def OwnedOnce (peers : List Peer) : Prop :=
  ∀ first ∈ peers, ∀ second ∈ peers,
    ∀ firstNetwork ∈ first.allowedIps, ∀ secondNetwork ∈ second.allowedIps,
      firstNetwork.trunc = secondNetwork.trunc → first = second

section

variable
  {first second : List Peer} {destination : IpAddr}
  {excludePublicKey : Option String}

theorem exists_right_of_forall₂
    {α β : Type} {relation : α → β → Prop}
    {left : List α} {right : List β}
    (pairwise : List.Forall₂ relation left right)
    {item : α} (member : item ∈ left) :
    ∃ other ∈ right, relation item other := by
  induction pairwise with
  | nil =>
      cases member
  | cons related _ inductionHypothesis =>
      rcases List.mem_cons.mp member with same | inTail
      · subst same
        exact ⟨_, List.mem_cons_self, related⟩
      · obtain ⟨other, otherMember, otherRelated⟩ :=
          inductionHypothesis inTail
        exact ⟨other, List.mem_cons_of_mem _ otherMember, otherRelated⟩

theorem SamePeers.forward
    (same : SamePeers first second) {peer : Peer} (member : peer ∈ first) :
    ∃ other ∈ second, SamePeer peer other := by
  obtain ⟨permuted, permutation, pairwise⟩ := same
  exact exists_right_of_forall₂ pairwise (permutation.mem_iff.mp member)

theorem SamePeers.backward
    (same : SamePeers first second) {peer : Peer} (member : peer ∈ second) :
    ∃ other ∈ first, SamePeer other peer := by
  obtain ⟨permuted, permutation, pairwise⟩ := same
  obtain ⟨other, otherMember, related⟩ :=
    exists_right_of_forall₂ pairwise.flip member
  exact ⟨other, permutation.mem_iff.mpr otherMember, related⟩

/-- A peer read in another order has the same containing prefixes. -/
theorem containingPrefixes_of_samePeer
    {peer other : Peer} {network : IpNet}
    (entry : (peer, network) ∈
      containingPrefixes first destination excludePublicKey)
    (same : SamePeer peer other) (member : other ∈ second) :
    (other, network) ∈
      containingPrefixes second destination excludePublicKey := by
  obtain ⟨_, included, owned, containing⟩ := entry
  obtain ⟨sameKey, _, permutation⟩ := same
  rw [sameKey] at included
  exact ⟨member, included, permutation.mem_iff.mp owned, containing⟩

theorem containingPrefixes_empty_iff
    (same : SamePeers first second) :
    containingPrefixes first destination excludePublicKey = ∅ ↔
      containingPrefixes second destination excludePublicKey = ∅ := by
  rw [Set.eq_empty_iff_forall_notMem, Set.eq_empty_iff_forall_notMem]
  constructor
  · intro nothing entry entryMember
    obtain ⟨other, otherMember, related⟩ := same.backward entryMember.1
    have otherEntry :=
      containingPrefixes_of_samePeer entryMember related.symm otherMember
    exact nothing _ otherEntry
  · intro nothing entry entryMember
    obtain ⟨other, otherMember, related⟩ := same.forward entryMember.1
    have otherEntry :=
      containingPrefixes_of_samePeer entryMember related otherMember
    exact nothing _ otherEntry

/-- The owners of the greatest prefixes of two readings are one peer. -/
theorem samePeer_of_greatest
    (ownedOnce : OwnedOnce first) (same : SamePeers first second)
    {firstPeer secondPeer : Peer} {firstNetwork secondNetwork : IpNet}
    (firstGreatest : GreatestBy (fun entry => entry.2.prefixLen)
      (containingPrefixes first destination excludePublicKey)
      (firstPeer, firstNetwork))
    (secondGreatest : GreatestBy (fun entry => entry.2.prefixLen)
      (containingPrefixes second destination excludePublicKey)
      (secondPeer, secondNetwork)) :
    SamePeer firstPeer secondPeer := by
  obtain ⟨firstRead, firstReadMember, firstRelated⟩ :=
    same.forward firstGreatest.mem.1
  obtain ⟨secondRead, secondReadMember, secondRelated⟩ :=
    same.backward secondGreatest.mem.1
  have firstEntry :=
    containingPrefixes_of_samePeer firstGreatest.mem firstRelated
      firstReadMember
  have secondEntry :=
    containingPrefixes_of_samePeer secondGreatest.mem secondRelated.symm
      secondReadMember
  have sameLength : firstNetwork.prefixLen = secondNetwork.prefixLen := by
    apply le_antisymm
    · exact secondGreatest.le _ firstEntry
    · exact firstGreatest.le _ secondEntry
  obtain ⟨firstMember, _, firstOwned, firstContains⟩ := firstGreatest.mem
  obtain ⟨_, _, secondOwned, secondContains⟩ := secondEntry
  have sameNetwork :=
    IpNet.trunc_eq_of_contains firstContains secondContains sameLength
  have samePeer : firstPeer = secondRead :=
    ownedOnce firstPeer firstMember secondRead secondReadMember
      firstNetwork firstOwned secondNetwork secondOwned sameNetwork
  subst samePeer
  exact secondRelated

theorem longestMatchingPrefix_samePeers
    (ownedOnce : OwnedOnce first) (same : SamePeers first second) :
    Option.Rel SamePeer
      (longestMatchingPrefix first destination excludePublicKey)
      (longestMatchingPrefix second destination excludePublicKey) := by
  have sameAbsence :
      longestMatchingPrefix first destination excludePublicKey = none ↔
        longestMatchingPrefix second destination excludePublicKey = none := by
    rw [longestMatchingPrefix_eq_none, longestMatchingPrefix_eq_none]
    exact containingPrefixes_empty_iff same
  cases firstFound :
      longestMatchingPrefix first destination excludePublicKey with
  | none =>
      rw [sameAbsence.mp firstFound]
      exact .none
  | some firstPeer =>
      cases secondFound :
          longestMatchingPrefix second destination excludePublicKey with
      | none =>
          rw [sameAbsence.mpr secondFound] at firstFound
          cases firstFound
      | some secondPeer =>
          obtain ⟨_, firstGreatest⟩ := longestMatchingPrefix_greatest firstFound
          obtain ⟨_, secondGreatest⟩ :=
            longestMatchingPrefix_greatest secondFound
          exact .some
            (samePeer_of_greatest ownedOnce same firstGreatest secondGreatest)

end

/-- Peer lookup is longest-prefix match over the peers that are not excluded,
and where no network belongs to two peers its result does not depend on the
order of the peers or of their AllowedIPs. -/
theorem longestMatchingPrefix_longest_and_orderIndependent
    (peers : List Peer) (destination : IpAddr)
    (excludePublicKey : Option String) :
    (∀ peer,
      longestMatchingPrefix peers destination excludePublicKey = some peer →
        peer ∈ peers ∧ some peer.publicKey ≠ excludePublicKey ∧
          ∃ network ∈ peer.allowedIps,
            network.contains destination = true ∧
              ∀ other ∈ peers, some other.publicKey ≠ excludePublicKey →
                ∀ otherNetwork ∈ other.allowedIps,
                  otherNetwork.contains destination = true →
                    otherNetwork.prefixLen ≤ network.prefixLen) ∧
    (longestMatchingPrefix peers destination excludePublicKey = none ↔
      ∀ other ∈ peers, some other.publicKey ≠ excludePublicKey →
        ∀ network ∈ other.allowedIps, network.contains destination = false) ∧
    (OwnedOnce peers → ∀ reordered, SamePeers peers reordered →
      Option.Rel SamePeer
        (longestMatchingPrefix peers destination excludePublicKey)
        (longestMatchingPrefix reordered destination excludePublicKey)) := by
  refine ⟨?_, ?_, ?_⟩
  · intro peer found
    obtain ⟨network, greatest⟩ := longestMatchingPrefix_greatest found
    obtain ⟨member, included, owned, containing⟩ := greatest.mem
    refine ⟨member, included, network, owned, containing, ?_⟩
    intro other otherMember otherIncluded otherNetwork otherOwned
      otherContaining
    exact greatest.le (other, otherNetwork)
      ⟨otherMember, otherIncluded, otherOwned, otherContaining⟩
  · rw [longestMatchingPrefix_eq_none, Set.eq_empty_iff_forall_notMem]
    constructor
    · intro nothing other otherMember otherIncluded network owned
      by_contra containing
      exact nothing (other, network)
        ⟨otherMember, otherIncluded, owned,
          Bool.eq_true_of_not_eq_false containing⟩
    · intro nothing entry entryMember
      obtain ⟨member, included, owned, containing⟩ := entryMember
      rw [nothing entry.1 member included entry.2 owned] at containing
      cases containing
  · intro ownedOnce reordered same
    exact longestMatchingPrefix_samePeers ownedOnce same

/-- A peer with a broad network in both families, and one with single
addresses. -/
def testPeers : List Peer :=
  [ { publicKey := "broad"
      allowedIps := [.v4 0xC6336400#32 24, .v6 (0x20010DB8#128 <<< 96) 32]
      latestHandshake := 0 },
    { publicKey := "specific"
      allowedIps := [.v4 0xC6336407#32 (Fin.last 32),
        .v6 (0x20010DB8#128 <<< 96) (Fin.last 128)]
      latestHandshake := 0 } ]

/-- The test peers, with both orders reversed. -/
def reorderedTestPeers : List Peer :=
  testPeers.reverse.map fun peer =>
    { peer with allowedIps := peer.allowedIps.reverse }

theorem samePeers_reorderedTestPeers :
    SamePeers testPeers reorderedTestPeers := by
  refine ⟨testPeers.reverse, (List.reverse_perm testPeers).symm, ?_⟩
  unfold reorderedTestPeers
  rw [List.forall₂_map_right_iff, List.forall₂_same]
  intro peer _
  exact ⟨rfl, rfl, (List.reverse_perm peer.allowedIps).symm⟩

theorem longestMatchingPrefix_testPeers :
    OwnedOnce testPeers ∧ SamePeers testPeers reorderedTestPeers ∧
      ((longestMatchingPrefix testPeers (.v4 0xC6336407#32) none).map
        Peer.publicKey = some "specific") ∧
      Option.Rel SamePeer
        (longestMatchingPrefix testPeers (.v4 0xC6336407#32) none)
        (longestMatchingPrefix reorderedTestPeers (.v4 0xC6336407#32)
          none) := by
  have ownedOnce : OwnedOnce testPeers := by
    unfold OwnedOnce
    decide
  have independent :=
    (longestMatchingPrefix_longest_and_orderIndependent
      testPeers (.v4 0xC6336407#32) none).2.2
  exact ⟨ownedOnce, samePeers_reorderedTestPeers, by decide,
    independent ownedOnce _ samePeers_reorderedTestPeers⟩

end WgLink
