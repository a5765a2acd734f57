import WgLink.Library.BigEndian
import Mathlib.Data.BitVec

/-!
# Addresses and prefixes

The address types of the standard library and the prefixes of `ipnet`.  Two
prefixes are equal when address and length are, host bits included, while
containment only looks at the leading `prefixLen` bits.
-/

namespace WgLink

open WgLink.Library

/-- `std::net::IpAddr`. -/
inductive IpAddr where
  | v4 (bits : BitVec 32)
  | v6 (bits : BitVec 128)
deriving DecidableEq, Repr

/-- `Ipv4Addr::from` for four octets. -/
def ipv4Addr (octets : List UInt8) : IpAddr :=
  .v4 (BitVec.ofNat 32 (beValue octets))

/-- `Ipv6Addr::from` for sixteen octets. -/
def ipv6Addr (octets : List UInt8) : IpAddr :=
  .v6 (BitVec.ofNat 128 (beValue octets))

/-- `std::net::SocketAddr`, by address and port. -/
structure SocketAddr where
  ip : IpAddr
  port : UInt16
deriving DecidableEq, Repr

/-- `ipnet::IpNet`. -/
inductive IpNet where
  | v4 (addr : BitVec 32) (prefixLen : Fin 33)
  | v6 (addr : BitVec 128) (prefixLen : Fin 129)
deriving DecidableEq, Repr

namespace IpNet

/-- `IpNet::prefix_len`. -/
def prefixLen : IpNet → Nat
  | .v4 _ length => length
  | .v6 _ length => length

/-- `IpNet::contains` for an address: the same family and the same leading
bits. -/
def contains : IpNet → IpAddr → Bool
  | .v4 addr length, .v4 bits =>
      bits >>> (32 - length.val) == addr >>> (32 - length.val)
  | .v6 addr length, .v6 bits =>
      bits >>> (128 - length.val) == addr >>> (128 - length.val)
  | _, _ => false

/-- Every address of `inner` is one of `outer`. -/
def Covers (outer inner : IpNet) : Prop :=
  ∀ address, inner.contains address = true → outer.contains address = true

/-- `IpNet::trunc`: the same network with its host bits cleared. -/
def trunc : IpNet → IpNet
  | .v4 addr length =>
      .v4 (addr >>> (32 - length.val) <<< (32 - length.val)) length
  | .v6 addr length =>
      .v6 (addr >>> (128 - length.val) <<< (128 - length.val)) length

theorem shiftRight_shiftLeft_shiftRight
    {width : Nat} (bits : BitVec width) (distance : Nat) :
    bits >>> distance <<< distance >>> distance = bits >>> distance := by
  ext index bound
  simp only [BitVec.getElem_ushiftRight, BitVec.getLsbD_shiftLeft,
    BitVec.getLsbD_ushiftRight]
  by_cases inside : distance + index < width
  · simp [inside]
  · have outside : bits.getLsbD (distance + index) = false :=
      BitVec.getLsbD_of_ge _ _ (by omega)
    simp [inside, outside]

/-- Two networks of one length that share an address are the same network up
to host bits. -/
theorem trunc_eq_of_contains
    {first second : IpNet} {address : IpAddr}
    (firstContains : first.contains address = true)
    (secondContains : second.contains address = true)
    (sameLength : first.prefixLen = second.prefixLen) :
    first.trunc = second.trunc := by
  cases first <;> cases second <;> cases address <;>
    simp only [contains, Bool.false_eq_true, beq_iff_eq]
      at firstContains secondContains
  all_goals
    have lengths := Fin.ext sameLength
    subst lengths
    simp only [trunc]
    rw [← firstContains, ← secondContains]

theorem prefixLen_trunc (network : IpNet) :
    network.trunc.prefixLen = network.prefixLen := by
  cases network <;> rfl

/-- Containment ignores host bits. -/
theorem contains_trunc (network : IpNet) (address : IpAddr) :
    network.trunc.contains address = network.contains address := by
  cases network <;> cases address <;>
    simp [trunc, contains, shiftRight_shiftLeft_shiftRight]

/-- No network is empty: it has its own address. -/
theorem exists_contains (network : IpNet) :
    ∃ address, network.contains address = true := by
  cases network with
  | v4 addr length =>
      exact ⟨.v4 addr, by simp [contains]⟩
  | v6 addr length =>
      exact ⟨.v6 addr, by simp [contains]⟩

end IpNet

end WgLink
