import WgLink.Identity
import WgLink.Wireguard
import Mathlib.Order.Interval.Finset.Nat

/-!
# Broker ports

`run_generation_inner` gives every peer a broker of its own on a loopback port
derived from the keys.  The port is a short hash above a base and is cut off at
the largest port, so that it tells peers apart only while their hashes do.
-/

namespace WgLink

open WgLink.Library

/-- The span of broker ports. -/
def peerPortSpan : UInt16 := 7000

/-- The offset of a peer's broker port above the base. -/
def peerPortOffset (hash : Hash) (snapshot : Snapshot) (peer : Peer) :
    UInt16 :=
  portOffset hash peerPortSpan "peer-broker"
    [snapshot.publicKey, peer.publicKey]

/-- The port of a peer's broker. -/
def peerPort
    (hash : Hash) (snapshot : Snapshot) (base : UInt16) (peer : Peer) :
    UInt16 :=
  derivePort hash base peerPortSpan "peer-broker"
    [snapshot.publicKey, peer.publicKey]

/-- The loop of `run_generation_inner` over the peers: the endpoint of each is
set to a port, and a broker is started there.  `setEndpoint` is the call of
`wg`. -/
def startBrokers
    (hash : Hash) (snapshot : Snapshot) (base : UInt16)
    (setEndpoint : String → UInt16 → Except String Unit) :
    List Peer → List (String × UInt16) × Except String Unit
  | [] => ([], .ok ())
  | peer :: rest =>
      let port := peerPort hash snapshot base peer
      match setEndpoint peer.publicKey port with
      | .error error => ([], .error error)
      | .ok () =>
          let (brokers, result) :=
            startBrokers hash snapshot base setEndpoint rest
          ((peer.publicKey, port) :: brokers, result)

section

variable
  (hash : Hash) (snapshot : Snapshot) (base : UInt16)

/-- A loop that ends well has started a broker for every peer. -/
theorem startBrokers_ok
    {setEndpoint : String → UInt16 → Except String Unit} {peers : List Peer}
    (finished :
      (startBrokers hash snapshot base setEndpoint peers).2 = .ok ()) :
    (startBrokers hash snapshot base setEndpoint peers).1 =
      peers.map fun peer => (peer.publicKey, peerPort hash snapshot base peer)
    := by
  induction peers with
  | nil =>
      rfl
  | cons peer rest inductionHypothesis =>
      unfold startBrokers at finished ⊢
      cases answer :
          setEndpoint peer.publicKey (peerPort hash snapshot base peer) with
      | error error =>
          simp only [answer] at finished
          cases finished
      | ok =>
          simp only [answer] at finished ⊢
          rw [inductionHypothesis finished, List.map_cons]

theorem startBrokers_accepted (peers : List Peer) :
    (startBrokers hash snapshot base (fun _ _ => .ok ()) peers).2 =
      .ok () := by
  induction peers with
  | nil =>
      rfl
  | cons peer rest inductionHypothesis =>
      unfold startBrokers
      exact inductionHypothesis

/-- Whenever the loop over the peers ends well, no two of the brokers that it
started share a port. -/
def PortsSeparate : Prop :=
  ∀ setEndpoint,
    (startBrokers hash snapshot base setEndpoint snapshot.peers).2 =
        .ok () →
      (startBrokers hash snapshot base setEndpoint snapshot.peers).1.Pairwise
        fun first second => first.2 ≠ second.2

theorem toNat_peerPort (peer : Peer) :
    (peerPort hash snapshot base peer).toNat =
      min (base.toNat + (peerPortOffset hash snapshot peer).toNat) 65535 :=
  toNat_saturatingAdd16 _ _

theorem portsSeparate_iff_ports :
    PortsSeparate hash snapshot base ↔
      snapshot.peers.Pairwise fun first second =>
        peerPort hash snapshot base first ≠
          peerPort hash snapshot base second := by
  constructor
  · intro separate
    have finished :=
      startBrokers_accepted hash snapshot base snapshot.peers
    have apart := separate _ finished
    rw [startBrokers_ok hash snapshot base finished, List.pairwise_map]
      at apart
    exact apart
  · intro apart setEndpoint finished
    rw [startBrokers_ok hash snapshot base finished, List.pairwise_map]
    exact apart

theorem peerPort_ne_iff (first second : Peer) :
    peerPort hash snapshot base first ≠ peerPort hash snapshot base second ↔
      peerPortOffset hash snapshot first ≠
          peerPortOffset hash snapshot second ∧
        (base.toNat + (peerPortOffset hash snapshot first).toNat < 65535 ∨
          base.toNat + (peerPortOffset hash snapshot second).toNat <
            65535) := by
  have firstPort := toNat_peerPort hash snapshot base first
  have secondPort := toNat_peerPort hash snapshot base second
  rw [ne_eq, ne_eq, ← UInt16.toNat_inj, ← UInt16.toNat_inj, firstPort,
    secondPort]
  omega

/-- The ports of distinct peers are distinct exactly when their offsets are
and at most one of them reaches the largest port. -/
theorem brokerPorts_separate_iff
    (distinctPeers : (snapshot.peers.map Peer.publicKey).Nodup) :
    PortsSeparate hash snapshot base ↔
      (∀ first ∈ snapshot.peers, ∀ second ∈ snapshot.peers,
        first.publicKey ≠ second.publicKey →
          peerPortOffset hash snapshot first ≠
              peerPortOffset hash snapshot second ∧
            (base.toNat + (peerPortOffset hash snapshot first).toNat < 65535 ∨
              base.toNat + (peerPortOffset hash snapshot second).toNat <
                65535)) := by
  have keysApart :
      snapshot.peers.Pairwise fun first second =>
        first.publicKey ≠ second.publicKey :=
    List.pairwise_map.mp distinctPeers
  rw [portsSeparate_iff_ports]
  constructor
  · intro portsApart first firstMember second secondMember different
    rw [← peerPort_ne_iff]
    have symmetric : Std.Symm fun first second =>
        peerPort hash snapshot base first ≠
          peerPort hash snapshot base second := ⟨fun _ _ => Ne.symm⟩
    apply portsApart.forall firstMember secondMember
    intro same
    exact different (congrArg Peer.publicKey same)
  · intro offsetsApart
    refine List.Pairwise.imp_of_mem ?_ keysApart
    intro first second firstMember secondMember different
    rw [peerPort_ne_iff]
    exact offsetsApart first firstMember second secondMember different

theorem peerPort_bounds (peer : Peer) :
    base.toNat ≤ (peerPort hash snapshot base peer).toNat ∧
      (peerPort hash snapshot base peer).toNat < base.toNat + 7000 ∧
      (peerPort hash snapshot base peer).toNat < 65536 := by
  have port := toNat_peerPort hash snapshot base peer
  have baseBound := base.toNat_lt
  have span : peerPortSpan.toNat = 7000 := rfl
  have offset : (peerPortOffset hash snapshot peer).toNat < 7000 := by
    unfold peerPortOffset portOffset
    rw [UInt16.toNat_mod, span]
    exact Nat.mod_lt _ (by omega)
  omega

/-- More peers than ports above the base cannot be told apart. -/
theorem length_le_of_portsSeparate
    (separate : PortsSeparate hash snapshot base) :
    snapshot.peers.length ≤ 7000 ∧
      snapshot.peers.length ≤ 65536 - base.toNat := by
  rw [portsSeparate_iff_ports] at separate
  let ports :=
    snapshot.peers.map fun peer => (peerPort hash snapshot base peer).toNat
  have distinct : ports.Nodup := by
    apply List.pairwise_map.mpr
    refine separate.imp ?_
    intro first second different same
    exact different (UInt16.toNat_inj.mp same)
  have within :
      ports.toFinset ⊆
        Finset.Ico base.toNat (min (base.toNat + 7000) 65536) := by
    intro port member
    obtain ⟨peer, _, same⟩ := List.mem_map.mp (List.mem_toFinset.mp member)
    have bounds := peerPort_bounds hash snapshot base peer
    rw [Finset.mem_Ico, ← same]
    omega
  have count := Finset.card_le_card within
  rw [List.toFinset_card_of_nodup distinct, List.length_map, Nat.card_Ico]
    at count
  omega

end

def localKey : String := "AQEBAQEBAQEBAQEBAQEBAQEBAQEBAQEBAQEBAQEBAQE="
def firstKey : String := "GBgYGBgYGBgYGBgYGBgYGBgYGBgYGBgYGBgYGBgYGBg="
def secondKey : String := "XFxcXFxcXFxcXFxcXFxcXFxcXFxcXFxcXFxcXFxcXFw="
def thirdKey : String := "NDQ0NDQ0NDQ0NDQ0NDQ0NDQ0NDQ0NDQ0NDQ0NDQ0NDQ="

/-- What is hashed for the broker port of a peer of `localKey`. -/
def portInput (publicKey : String) : List UInt8 :=
  digestInput
    [asBytes "wg-link/port/v1", asBytes "peer-broker", asBytes localKey,
      asBytes publicKey]

/-- `blake3::hash` on the keys of three peers. -/
def portHash : Hash :=
  tableHash
    [(portInput firstKey,
        [0xCD, 0xAC, 0xF1, 0x4E, 0xF5, 0x4C, 0xD4, 0x94,
          0xCB, 0x3D, 0x4B, 0xF9, 0xE9, 0xD9, 0x68, 0x6C,
          0x1E, 0x85, 0xD8, 0x87, 0x56, 0x40, 0x70, 0xD1,
          0xE2, 0xF3, 0x2D, 0xA4, 0xD4, 0x1D, 0x0D, 0xCF]),
      (portInput secondKey,
        [0xE9, 0x04, 0xE9, 0xBC, 0x44, 0xB8, 0x6C, 0x6F,
          0x71, 0xFA, 0xDC, 0x63, 0x0A, 0x28, 0x10, 0xE8,
          0xE9, 0x9C, 0x48, 0x0C, 0x14, 0xC4, 0x18, 0xF2,
          0xF5, 0xF0, 0x34, 0x18, 0x5F, 0xEF, 0xB0, 0x0D]),
      (portInput thirdKey,
        [0x74, 0xA5, 0xDA, 0xA6, 0x85, 0xFD, 0x5C, 0x36,
          0xED, 0xA1, 0x4B, 0x23, 0x27, 0x64, 0xE3, 0x4D,
          0x87, 0xC0, 0x68, 0x3A, 0xBA, 0x57, 0xE6, 0xF7,
          0xF5, 0xD5, 0x79, 0x5F, 0xB2, 0x39, 0x12, 0xA5])]

/-- A node with the given peers. -/
def portSnapshot (publicKeys : List String) : Snapshot where
  publicKey := localKey
  peers := publicKeys.map fun publicKey => ⟨publicKey, [], 0⟩

theorem brokerPorts_separate_of_two :
    PortsSeparate portHash (portSnapshot [firstKey, thirdKey]) 30000 := by
  rw [brokerPorts_separate_iff portHash _ 30000 (by decide)]
  decide +kernel

/-- Two peers of one node have their brokers on one port. -/
theorem brokerPorts_collide :
    ((portSnapshot [firstKey, secondKey]).peers.map Peer.publicKey).Nodup ∧
      ¬ PortsSeparate portHash (portSnapshot [firstKey, secondKey])
        30000 := by
  refine ⟨by decide, ?_⟩
  intro separate
  rw [portsSeparate_iff_ports] at separate
  exact absurd separate (by decide +kernel)

end WgLink
