import WgLink.Net
import Mathlib.Data.Finset.Insert
import Mathlib.Data.List.Nodup

/-!
# Candidates from discovery

The filters that `discover_candidates` of `easytier.rs` applies to what the
trackers and the DHT return, with `discovery/mod.rs` and the predicates of the
standard library that it uses.  `nonPublicNetworks` says in terms of prefixes
which addresses are not to be dialled.
-/

namespace WgLink

open WgLink.Library

/-! ## Addresses by their octets and segments -/

/-- `Ipv4Addr` as its 32 bits. -/
abbrev Ipv4Addr := BitVec 32

/-- `Ipv6Addr` as its 128 bits. -/
abbrev Ipv6Addr := BitVec 128

namespace Ipv4Addr

/-- `octets()[index]`. -/
def octet (self : Ipv4Addr) (index : Nat) : BitVec 8 :=
  (self >>> (8 * (3 - index))).setWidth 8

/-- `Ipv4Addr::is_unspecified`. -/
def isUnspecified (self : Ipv4Addr) : Bool := self == 0#32

/-- `Ipv4Addr::is_loopback`. -/
def isLoopback (self : Ipv4Addr) : Bool := octet self 0 == 127#8

/-- `Ipv4Addr::is_private`. -/
def isPrivate (self : Ipv4Addr) : Bool :=
  octet self 0 == 10#8 ||
    (octet self 0 == 172#8 &&
      (decide (16#8 ≤ octet self 1) && decide (octet self 1 ≤ 31#8))) ||
    (octet self 0 == 192#8 && octet self 1 == 168#8)

/-- `Ipv4Addr::is_link_local`. -/
def isLinkLocal (self : Ipv4Addr) : Bool :=
  octet self 0 == 169#8 && octet self 1 == 254#8

/-- `Ipv4Addr::is_multicast`. -/
def isMulticast (self : Ipv4Addr) : Bool :=
  decide (224#8 ≤ octet self 0) && decide (octet self 0 ≤ 239#8)

/-- `Ipv4Addr::BROADCAST`. -/
def broadcast : Ipv4Addr := 0xFFFFFFFF#32

/-- `Ipv4Addr::is_documentation`. -/
def isDocumentation (self : Ipv4Addr) : Bool :=
  (octet self 0 == 192#8 && octet self 1 == 0#8 && octet self 2 == 2#8) ||
    (octet self 0 == 198#8 && octet self 1 == 51#8 &&
      octet self 2 == 100#8) ||
    (octet self 0 == 203#8 && octet self 1 == 0#8 && octet self 2 == 113#8)

/-- The last condition of `is_public_ipv4`. -/
def isShared (self : Ipv4Addr) : Bool :=
  octet self 0 == 100#8 &&
    (decide (64#8 ≤ octet self 1) && decide (octet self 1 ≤ 127#8))

end Ipv4Addr

namespace Ipv6Addr

/-- `segments()[index]`. -/
def segment (self : Ipv6Addr) (index : Nat) : BitVec 16 :=
  (self >>> (16 * (7 - index))).setWidth 16

/-- `Ipv6Addr::is_unspecified`. -/
def isUnspecified (self : Ipv6Addr) : Bool := self == 0#128

/-- `Ipv6Addr::is_loopback`. -/
def isLoopback (self : Ipv6Addr) : Bool := self == 1#128

/-- `Ipv6Addr::is_multicast`. -/
def isMulticast (self : Ipv6Addr) : Bool :=
  segment self 0 &&& 0xFF00#16 == 0xFF00#16

/-- `Ipv6Addr::is_unicast_link_local`. -/
def isUnicastLinkLocal (self : Ipv6Addr) : Bool :=
  segment self 0 &&& 0xFFC0#16 == 0xFE80#16

end Ipv6Addr

/-! ## The filters -/

open Ipv4Addr in
/-- `is_public_ipv4`. -/
def isPublicIpv4 (address : Ipv4Addr) : Bool :=
  !isUnspecified address &&
    !isLoopback address &&
    !isPrivate address &&
    !isLinkLocal address &&
    !isMulticast address &&
    address != broadcast &&
    !isDocumentation address &&
    !isShared address

open Ipv6Addr in
/-- `is_public_ipv6`. -/
def isPublicIpv6 (address : Ipv6Addr) : Bool :=
  !isUnspecified address &&
    !isLoopback address &&
    !isMulticast address &&
    !isUnicastLinkLocal address &&
    !(segment address 0 &&& 0xFE00#16 == 0xFC00#16) &&
    !(segment address 0 == 0x2001#16 && segment address 1 == 0x0DB8#16)

/-- `is_public_candidate`. -/
def isPublicCandidate (candidate : SocketAddr) : Bool :=
  match candidate.ip with
  | .v4 address => isPublicIpv4 address
  | .v6 address => isPublicIpv6 address

/-- `retain_public_candidates`. -/
def retainPublicCandidates (candidates : List SocketAddr) :
    List SocketAddr :=
  candidates.filter isPublicCandidate

/-- `is_local_candidate`. -/
def isLocalCandidate
    (candidate : SocketAddr) (localPublicIps : Finset IpAddr)
    (listenerPort : UInt16) : Bool :=
  candidate.port == listenerPort && decide (candidate.ip ∈ localPublicIps)

/-- `retain(|item| seen.insert(*item))`. -/
def retainUnique {α : Type} [DecidableEq α] :
    Finset α → List α → List α
  | _, [] => []
  | seen, item :: rest =>
      if item ∈ seen then
        retainUnique seen rest
      else
        item :: retainUnique (insert item seen) rest

/-- The end of `discover_candidates`, on what the trackers and the DHT have
returned. -/
def discoverCandidates
    (localPublicIps : Finset IpAddr) (listenerPort : UInt16)
    (candidates : List SocketAddr) : List SocketAddr :=
  let remote :=
    candidates.filter fun candidate =>
      !isLocalCandidate candidate localPublicIps listenerPort
  retainUnique ∅ (retainPublicCandidates remote)

/-- `chunks_exact`. -/
def chunksExact (size : Nat) (bytes : List UInt8) : List (List UInt8) :=
  (List.range (bytes.length / size)).map fun index =>
    (bytes.drop (index * size)).take size

/-- `compact_peers_v6` of `tracker.rs`. -/
def compactPeersV6 (bytes : List UInt8) : List SocketAddr :=
  (chunksExact 18 bytes).map fun chunk =>
    ⟨ipv6Addr (chunk.take 16), UInt16.ofNat (beValue (chunk.drop 16))⟩

/-! ## What must not be dialled -/

/-- A prefix, by its address and length. -/
def ipv4Net (addr : Ipv4Addr) (length : Nat) : IpNet :=
  .v4 addr ⟨min length 32, Nat.lt_succ_of_le (Nat.min_le_right length 32)⟩

def ipv6Net (addr : Ipv6Addr) (length : Nat) : IpNet :=
  .v6 addr ⟨min length 128, Nat.lt_succ_of_le (Nat.min_le_right length 128)⟩

/-- The networks of special use: unspecified, loopback, private, link-local,
multicast, broadcast, documentation and shared for IPv4; unspecified, loopback,
multicast, link-local, unique-local and documentation for IPv6. -/
def nonPublicNetworks : List IpNet :=
  [ipv4Net 0x00000000#32 32,
    ipv4Net 0x7F000000#32 8,
    ipv4Net 0x0A000000#32 8,
    ipv4Net 0xAC100000#32 12,
    ipv4Net 0xC0A80000#32 16,
    ipv4Net 0xA9FE0000#32 16,
    ipv4Net 0xE0000000#32 4,
    ipv4Net 0xFFFFFFFF#32 32,
    ipv4Net 0xC0000200#32 24,
    ipv4Net 0xC6336400#32 24,
    ipv4Net 0xCB007100#32 24,
    ipv4Net 0x64400000#32 10,
    ipv6Net 0x00000000000000000000000000000000#128 128,
    ipv6Net 0x00000000000000000000000000000001#128 128,
    ipv6Net 0xFF000000000000000000000000000000#128 8,
    ipv6Net 0xFE800000000000000000000000000000#128 10,
    ipv6Net 0xFC000000000000000000000000000000#128 7,
    ipv6Net 0x20010DB8000000000000000000000000#128 32]

/-- The IPv4-mapped form `::ffff:a.b.c.d`. -/
def ipv4Mapped (address : Ipv4Addr) : Ipv6Addr := 0xFFFF#96 ++ address

/-- An address denotes itself, and a mapped one its IPv4 address as well. -/
def IpAddr.Denotes (ip address : IpAddr) : Prop :=
  ip = address ∨
    ∃ bits, ip = .v6 (ipv4Mapped bits) ∧ address = .v4 bits

/-- The address is in none of the networks of special use. -/
def IpAddr.Public (address : IpAddr) : Prop :=
  ∀ network ∈ nonPublicNetworks, network.contains address = false

/-! ## The predicates as prefixes -/

section

variable {address : Ipv4Addr}

theorem contains_ipv4Net
    {base : Ipv4Addr} {length : Nat} (bound : length ≤ 32) :
    (ipv4Net base length).contains (.v4 address) = true ↔
      address.toNat / 2 ^ (32 - length) = base.toNat / 2 ^ (32 - length) := by
  change
    (address >>> (32 - min length 32) ==
      base >>> (32 - min length 32)) = true ↔ _
  rw [Nat.min_eq_left bound, beq_iff_eq, ← BitVec.toNat_inj, BitVec.toNat_ushiftRight,
    BitVec.toNat_ushiftRight, Nat.shiftRight_eq_div_pow,
    Nat.shiftRight_eq_div_pow]

theorem contains_ipv6Net_v4 (base : Ipv6Addr) (length : Nat) :
    (ipv6Net base length).contains (.v4 address) = false :=
  rfl

namespace Ipv4Addr

theorem toNat_octet (address : Ipv4Addr) (index : Nat) :
    (octet address index).toNat =
      address.toNat / 2 ^ (8 * (3 - index)) % 256 := by
  unfold octet
  rw [BitVec.toNat_setWidth, BitVec.toNat_ushiftRight,
    Nat.shiftRight_eq_div_pow]

theorem octet_beq_iff {index : Nat} {value : BitVec 8} :
    (octet address index == value) = true ↔
      address.toNat / 2 ^ (8 * (3 - index)) % 256 = value.toNat := by
  rw [beq_iff_eq, ← BitVec.toNat_inj, toNat_octet]

theorem isUnspecified_iff :
    isUnspecified address = true ↔
      (ipv4Net 0x00000000#32 32).contains (.v4 address) = true := by
  rw [contains_ipv4Net (by omega)]
  unfold isUnspecified
  rw [beq_iff_eq, ← BitVec.toNat_inj, Nat.sub_self, pow_zero, Nat.div_one,
    Nat.div_one]

theorem isBroadcast_iff :
    address = broadcast ↔
      (ipv4Net 0xFFFFFFFF#32 32).contains (.v4 address) = true := by
  rw [contains_ipv4Net (by omega)]
  unfold broadcast
  rw [← BitVec.toNat_inj, Nat.sub_self, pow_zero, Nat.div_one, Nat.div_one]

theorem isLoopback_iff :
    isLoopback address = true ↔
      (ipv4Net 0x7F000000#32 8).contains (.v4 address) = true := by
  have bound := address.isLt
  rw [contains_ipv4Net (by omega)]
  unfold isLoopback
  simp only [octet_beq_iff, BitVec.toNat_ofNat]
  omega

theorem isPrivate_iff :
    isPrivate address = true ↔
      (ipv4Net 0x0A000000#32 8).contains (.v4 address) = true ∨
        (ipv4Net 0xAC100000#32 12).contains (.v4 address) = true ∨
        (ipv4Net 0xC0A80000#32 16).contains (.v4 address) = true := by
  have bound := address.isLt
  rw [contains_ipv4Net (by omega), contains_ipv4Net (by omega),
    contains_ipv4Net (by omega)]
  unfold isPrivate
  simp only [Bool.or_eq_true, Bool.and_eq_true, octet_beq_iff,
    decide_eq_true_eq, BitVec.le_def, toNat_octet, BitVec.toNat_ofNat]
  omega

theorem isLinkLocal_iff :
    isLinkLocal address = true ↔
      (ipv4Net 0xA9FE0000#32 16).contains (.v4 address) = true := by
  have bound := address.isLt
  rw [contains_ipv4Net (by omega)]
  unfold isLinkLocal
  simp only [Bool.and_eq_true, octet_beq_iff, BitVec.toNat_ofNat]
  omega

theorem isMulticast_iff :
    isMulticast address = true ↔
      (ipv4Net 0xE0000000#32 4).contains (.v4 address) = true := by
  have bound := address.isLt
  rw [contains_ipv4Net (by omega)]
  unfold isMulticast
  simp only [Bool.and_eq_true, decide_eq_true_eq, BitVec.le_def, toNat_octet,
    BitVec.toNat_ofNat]
  omega

theorem isDocumentation_iff :
    isDocumentation address = true ↔
      (ipv4Net 0xC0000200#32 24).contains (.v4 address) = true ∨
        (ipv4Net 0xC6336400#32 24).contains (.v4 address) = true ∨
        (ipv4Net 0xCB007100#32 24).contains (.v4 address) = true := by
  have bound := address.isLt
  rw [contains_ipv4Net (by omega), contains_ipv4Net (by omega),
    contains_ipv4Net (by omega)]
  unfold isDocumentation
  simp only [Bool.or_eq_true, Bool.and_eq_true, octet_beq_iff,
    BitVec.toNat_ofNat]
  omega

theorem isShared_iff :
    isShared address = true ↔
      (ipv4Net 0x64400000#32 10).contains (.v4 address) = true := by
  have bound := address.isLt
  rw [contains_ipv4Net (by omega)]
  unfold isShared
  simp only [Bool.and_eq_true, octet_beq_iff, decide_eq_true_eq,
    BitVec.le_def, toNat_octet, BitVec.toNat_ofNat]
  omega

end Ipv4Addr

/-- The checks on an IPv4 address are complete. -/
theorem isPublicIpv4_iff :
    isPublicIpv4 address = true ↔ (IpAddr.v4 address).Public := by
  unfold isPublicIpv4 IpAddr.Public nonPublicNetworks
  simp only [Bool.and_eq_true, Bool.not_eq_true', bne_iff_ne,
    List.forall_mem_cons, ← Bool.not_eq_true, Ipv4Addr.isUnspecified_iff,
    Ipv4Addr.isLoopback_iff, Ipv4Addr.isPrivate_iff,
    Ipv4Addr.isLinkLocal_iff, Ipv4Addr.isMulticast_iff, ne_eq,
    Ipv4Addr.isBroadcast_iff, Ipv4Addr.isDocumentation_iff,
    Ipv4Addr.isShared_iff, not_or, and_assoc, contains_ipv6Net_v4,
    Bool.false_eq_true, not_false_eq_true, List.not_mem_nil, false_implies,
    implies_true, and_true]

end

section

variable {address : Ipv6Addr}

theorem contains_ipv6Net
    {base : Ipv6Addr} {length : Nat} (bound : length ≤ 128) :
    (ipv6Net base length).contains (.v6 address) = true ↔
      address.toNat / 2 ^ (128 - length) =
        base.toNat / 2 ^ (128 - length) := by
  change
    (address >>> (128 - min length 128) ==
      base >>> (128 - min length 128)) = true ↔ _
  rw [Nat.min_eq_left bound, beq_iff_eq, ← BitVec.toNat_inj, BitVec.toNat_ushiftRight,
    BitVec.toNat_ushiftRight, Nat.shiftRight_eq_div_pow,
    Nat.shiftRight_eq_div_pow]

theorem contains_ipv4Net_v6 (base : Ipv4Addr) (length : Nat) :
    (ipv4Net base length).contains (.v6 address) = false :=
  rfl

/-- A mask of leading bits clears the other ones. -/
theorem toNat_and_leading (word : BitVec 16) (clear : Nat) :
    (word &&& BitVec.allOnes 16 <<< clear).toNat =
      word.toNat / 2 ^ clear * 2 ^ clear := by
  have shifted :
      word &&& BitVec.allOnes 16 <<< clear = word >>> clear <<< clear := by
    ext index inside
    rw [BitVec.getElem_and, BitVec.getElem_shiftLeft,
      BitVec.getElem_shiftLeft]
    by_cases low : index < clear
    · simp only [low, decide_true, Bool.not_true, Bool.false_and,
        Bool.and_false]
    · have position : clear + (index - clear) = index := by omega
      simp only [low, decide_false, Bool.not_false, Bool.true_and,
        BitVec.getElem_allOnes, Bool.and_true, BitVec.getElem_ushiftRight,
        position, BitVec.getLsbD_eq_getElem inside]
  have small : word.toNat / 2 ^ clear * 2 ^ clear < 2 ^ 16 :=
    lt_of_le_of_lt (Nat.div_mul_le_self _ _) word.isLt
  rw [shifted, BitVec.toNat_shiftLeft, BitVec.toNat_ushiftRight,
    Nat.shiftRight_eq_div_pow, Nat.shiftLeft_eq, Nat.mod_eq_of_lt small]

namespace Ipv6Addr

theorem toNat_segment (address : Ipv6Addr) (index : Nat) :
    (segment address index).toNat =
      address.toNat / 2 ^ (16 * (7 - index)) % 65536 := by
  unfold segment
  rw [BitVec.toNat_setWidth, BitVec.toNat_ushiftRight,
    Nat.shiftRight_eq_div_pow]

theorem isUnspecified_iff :
    isUnspecified address = true ↔
      (ipv6Net 0#128 128).contains (.v6 address) = true := by
  rw [contains_ipv6Net (by omega)]
  unfold isUnspecified
  rw [beq_iff_eq, ← BitVec.toNat_inj, Nat.sub_self, pow_zero, Nat.div_one,
    Nat.div_one]

theorem isLoopback_iff :
    isLoopback address = true ↔
      (ipv6Net 1#128 128).contains (.v6 address) = true := by
  rw [contains_ipv6Net (by omega)]
  unfold isLoopback
  rw [beq_iff_eq, ← BitVec.toNat_inj, Nat.sub_self, pow_zero, Nat.div_one,
    Nat.div_one]

/-- A comparison of the leading bits of the first segment. -/
theorem segment_and_leading_iff {mask value : BitVec 16} {clear : Nat}
    (leading : mask = BitVec.allOnes 16 <<< clear) :
    (segment address 0 &&& mask == value) = true ↔
      address.toNat / 2 ^ 112 / 2 ^ clear * 2 ^ clear = value.toNat := by
  have small : address.toNat / 2 ^ 112 < 65536 := by
    have bound := address.isLt
    omega
  rw [beq_iff_eq, ← BitVec.toNat_inj, leading, toNat_and_leading,
    toNat_segment, Nat.mod_eq_of_lt small]

theorem isMulticast_iff :
    isMulticast address = true ↔
      (ipv6Net 0xFF000000000000000000000000000000#128 8).contains
        (.v6 address) = true := by
  have bound := address.isLt
  rw [contains_ipv6Net (by omega)]
  unfold isMulticast
  rw [@segment_and_leading_iff _ _ _ 8 (by decide)]
  simp only [BitVec.toNat_ofNat]
  omega

theorem isUnicastLinkLocal_iff :
    isUnicastLinkLocal address = true ↔
      (ipv6Net 0xFE800000000000000000000000000000#128 10).contains
        (.v6 address) = true := by
  have bound := address.isLt
  rw [contains_ipv6Net (by omega)]
  unfold isUnicastLinkLocal
  rw [@segment_and_leading_iff _ _ _ 6 (by decide)]
  simp only [BitVec.toNat_ofNat]
  omega

theorem isUniqueLocal_iff :
    (segment address 0 &&& 0xFE00#16 == 0xFC00#16) = true ↔
      (ipv6Net 0xFC000000000000000000000000000000#128 7).contains
        (.v6 address) = true := by
  have bound := address.isLt
  rw [contains_ipv6Net (by omega),
    @segment_and_leading_iff _ _ _ 9 (by decide)]
  simp only [BitVec.toNat_ofNat]
  omega

theorem isDocumentation_iff :
    (segment address 0 == 0x2001#16) = true ∧
        (segment address 1 == 0x0DB8#16) = true ↔
      (ipv6Net 0x20010DB8000000000000000000000000#128 32).contains
        (.v6 address) = true := by
  have bound := address.isLt
  rw [contains_ipv6Net (by omega), beq_iff_eq, beq_iff_eq,
    ← BitVec.toNat_inj, ← BitVec.toNat_inj, toNat_segment, toNat_segment]
  simp only [BitVec.toNat_ofNat]
  omega

end Ipv6Addr

/-- The checks on an IPv6 address are complete. -/
theorem isPublicIpv6_iff :
    isPublicIpv6 address = true ↔ (IpAddr.v6 address).Public := by
  unfold isPublicIpv6 IpAddr.Public nonPublicNetworks
  simp only [Bool.and_eq_true, Bool.not_eq_true', List.forall_mem_cons,
    ← Bool.not_eq_true, Ipv6Addr.isUnspecified_iff, Ipv6Addr.isLoopback_iff,
    Ipv6Addr.isMulticast_iff, Ipv6Addr.isUnicastLinkLocal_iff,
    Ipv6Addr.isUniqueLocal_iff, Ipv6Addr.isDocumentation_iff, and_assoc,
    contains_ipv4Net_v6, Bool.false_eq_true, not_false_eq_true, true_and,
    List.not_mem_nil, false_implies, implies_true, and_true]

end

theorem isPublicCandidate_iff {candidate : SocketAddr} :
    isPublicCandidate candidate = true ↔ candidate.ip.Public := by
  unfold isPublicCandidate
  cases candidate.ip with
  | v4 address =>
      exact isPublicIpv4_iff
  | v6 address =>
      exact isPublicIpv6_iff

/-! ## What remains -/

section

variable {α : Type} [DecidableEq α] {seen : Finset α} {items : List α}

theorem mem_retainUnique {query : α} :
    query ∈ retainUnique seen items ↔ query ∈ items ∧ query ∉ seen := by
  induction items generalizing seen with
  | nil =>
      simp [retainUnique]
  | cons item rest inductionHypothesis =>
      unfold retainUnique
      by_cases known : item ∈ seen
      · rw [if_pos known, inductionHypothesis, List.mem_cons]
        constructor
        · rintro ⟨member, new⟩
          exact ⟨Or.inr member, new⟩
        · rintro ⟨same | member, new⟩
          · rw [same] at new
            exact absurd known new
          · exact ⟨member, new⟩
      · rw [if_neg known, List.mem_cons, inductionHypothesis, List.mem_cons,
          Finset.mem_insert, not_or]
        by_cases same : query = item
        · rw [same]
          simp [known]
        · simp [same]

theorem nodup_retainUnique : (retainUnique seen items).Nodup := by
  induction items generalizing seen with
  | nil =>
      exact List.nodup_nil
  | cons item rest inductionHypothesis =>
      unfold retainUnique
      by_cases known : item ∈ seen
      · rw [if_pos known]
        exact inductionHypothesis
      · rw [if_neg known, List.nodup_cons, mem_retainUnique]
        refine ⟨?_, inductionHypothesis⟩
        rintro ⟨_, new⟩
        exact new (Finset.mem_insert_self item seen)

theorem retainUnique_sublist : (retainUnique seen items).Sublist items := by
  induction items generalizing seen with
  | nil =>
      exact List.Sublist.slnil
  | cons item rest inductionHypothesis =>
      unfold retainUnique
      by_cases known : item ∈ seen
      · rw [if_pos known]
        exact inductionHypothesis.cons item
      · rw [if_neg known]
        exact inductionHypothesis.cons_cons item

end

theorem toNat_ipv4Mapped (address : Ipv4Addr) :
    (ipv4Mapped address).toNat = 0xFFFF * 2 ^ 32 + address.toNat := by
  unfold ipv4Mapped
  rw [BitVec.toNat_append, ← Nat.shiftLeft_add_eq_or_of_lt address.isLt,
    Nat.shiftLeft_eq]
  rfl

/-- A mapped address is in none of the IPv6 networks. -/
theorem public_ipv4Mapped (address : Ipv4Addr) :
    (IpAddr.v6 (ipv4Mapped address)).Public := by
  have bound := address.isLt
  unfold IpAddr.Public nonPublicNetworks
  simp only [List.forall_mem_cons, contains_ipv4Net_v6, true_and,
    ← Bool.not_eq_true, Bool.false_eq_true, not_false_eq_true,
    List.not_mem_nil, false_implies, implies_true, and_true]
  rw [contains_ipv6Net (by omega), contains_ipv6Net (by omega),
    contains_ipv6Net (by omega), contains_ipv6Net (by omega),
    contains_ipv6Net (by omega), contains_ipv6Net (by omega),
    toNat_ipv4Mapped]
  simp only [BitVec.toNat_ofNat]
  omega

section

variable
  {localPublicIps : Finset IpAddr} {listenerPort : UInt16}
  {candidates : List SocketAddr}

theorem mem_discoverCandidates {candidate : SocketAddr} :
    candidate ∈ discoverCandidates localPublicIps listenerPort candidates ↔
      candidate ∈ candidates ∧
        isLocalCandidate candidate localPublicIps listenerPort = false ∧
        candidate.ip.Public := by
  unfold discoverCandidates retainPublicCandidates
  rw [mem_retainUnique, List.mem_filter, List.mem_filter,
    isPublicCandidate_iff, Bool.not_eq_true',
    and_iff_left (Finset.notMem_empty candidate), and_assoc]

/-- What is left of the candidates is public, also behind a mapped address,
without repetition and in order, and no public candidate is lost. -/
structure YieldsPublic
    (localPublicIps : Finset IpAddr) (listenerPort : UInt16)
    (candidates : List SocketAddr) : Prop where
  allPublic :
    ∀ candidate ∈
        discoverCandidates localPublicIps listenerPort candidates,
      ∀ address, candidate.ip.Denotes address → address.Public
  distinct :
    (discoverCandidates localPublicIps listenerPort candidates).Nodup
  ordered :
    (discoverCandidates localPublicIps listenerPort candidates).Sublist
      candidates
  kept :
    ∀ candidate ∈ candidates,
      isLocalCandidate candidate localPublicIps listenerPort = false →
      (∀ address, candidate.ip.Denotes address → address.Public) →
      candidate ∈ discoverCandidates localPublicIps listenerPort candidates

/-- The filters yield public candidates exactly when no candidate of another
node is the mapped form of an IPv4 address that is not public. -/
theorem yieldsPublic_iff
    (localPublicIps : Finset IpAddr) (listenerPort : UInt16)
    (candidates : List SocketAddr) :
    YieldsPublic localPublicIps listenerPort candidates ↔
      ∀ candidate ∈ candidates,
        isLocalCandidate candidate localPublicIps listenerPort = false →
        ∀ bits,
          candidate.ip = .v6 (ipv4Mapped bits) → (IpAddr.v4 bits).Public := by
  constructor
  · intro yields candidate member remote bits mapped
    have isPublic : candidate.ip.Public := by
      rw [mapped]
      exact public_ipv4Mapped bits
    exact yields.allPublic candidate
      (mem_discoverCandidates.mpr ⟨member, remote, isPublic⟩)
      (.v4 bits) (Or.inr ⟨bits, mapped, rfl⟩)
  · intro plain
    constructor
    case allPublic =>
      intro candidate remaining address denotes
      obtain ⟨member, remote, isPublic⟩ :=
        mem_discoverCandidates.mp remaining
      rcases denotes with same | ⟨bits, mapped, isV4⟩
      · rw [← same]
        exact isPublic
      · rw [isV4]
        exact plain candidate member remote bits mapped
    case distinct =>
      exact nodup_retainUnique
    case ordered =>
      have shortened :=
        @retainUnique_sublist SocketAddr _ ∅ (retainPublicCandidates
          (candidates.filter fun candidate =>
            !isLocalCandidate candidate localPublicIps listenerPort))
      exact (shortened.trans List.filter_sublist).trans List.filter_sublist
    case kept =>
      intro candidate member remote denoted
      exact mem_discoverCandidates.mpr
        ⟨member, remote, denoted candidate.ip (Or.inl rfl)⟩

end

/-- A tracker's answer with one peer, `[::ffff:127.0.0.1]:443`. -/
def mappedLoopback : List UInt8 :=
  [0, 0, 0, 0, 0, 0, 0, 0, 0, 0, 0xFF, 0xFF, 127, 0, 0, 1, 0x01, 0xBB]

theorem mappedLoopback_not_yieldsPublic :
    ¬ YieldsPublic ∅ 11010 (compactPeersV6 mappedLoopback) := by
  intro yields
  have received :
      compactPeersV6 mappedLoopback =
        [⟨.v6 (ipv4Mapped 0x7F000001#32), 443⟩] := by
    decide
  have remaining :
      (SocketAddr.mk (.v6 (ipv4Mapped 0x7F000001#32)) 443) ∈
        discoverCandidates ∅ 11010 (compactPeersV6 mappedLoopback) := by
    rw [received]
    decide
  have isPublic :=
    yields.allPublic _ remaining (.v4 0x7F000001#32) (Or.inr ⟨_, rfl, rfl⟩)
  have listed : ipv4Net 0x7F000000#32 8 ∈ nonPublicNetworks := by
    unfold nonPublicNetworks
    simp
  have outside := isPublic _ listed
  revert outside
  decide

end WgLink
