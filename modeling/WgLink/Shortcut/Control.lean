import WgLink.Net
import WgLink.Library.Saturating
import Mathlib.Data.Vector.Basic

/-!
# Shortcut tickets

The control messages of `shortcut/control.rs`, the checks a ticket has to pass
and the keys derived from it.  BLAKE3 and X25519 are taken as functions.
-/

namespace WgLink

open WgLink.Library

def controlVersion : UInt8 := 1
def defaultRenewAfterSeconds : UInt64 := 120
def defaultExpiresAfterSeconds : UInt64 := 180
def maxDelegationDepth : UInt8 := 8
def maxClockSkewSeconds : UInt64 := 30
def maxLeaseSeconds : UInt64 := 300

/-- A fixed-size byte array `[u8; n]`. -/
abbrev ByteVector (n : Nat) := List.Vector UInt8 n

/-- The hash with the digests of a table, and zeros for all other inputs. -/
def tableHash {n : Nat} (table : List (List UInt8 × List UInt8))
    (input : List UInt8) : ByteVector n :=
  let digest := (table.lookup input).getD []
  .ofFn fun index => digest.getD index 0

/-- `ShortcutId`. -/
structure ShortcutId where
  bytes : ByteVector 16
deriving DecidableEq

inductive ShortcutRole where
  | left
  | right
deriving DecidableEq, Repr

/-- `ShortcutDelegation`. -/
structure ShortcutDelegation where
  rootShortcutId : ShortcutId
  parentShortcutId : ShortcutId
  depth : UInt8
  remainingDelegations : UInt8
  visitedIssuers : List (ByteVector 16)
deriving DecidableEq

inductive ShortcutStatus where
  | authenticated
  | expired
  | rejected
deriving DecidableEq, Repr

/-- `ShortcutTicket`. -/
structure ShortcutTicket where
  version : UInt8
  shortcutId : ShortcutId
  epoch : UInt64
  role : ShortcutRole
  issuedAt : UInt64
  renewAt : UInt64
  expiresAt : UInt64
  selector : IpNet
  issuerPublicKey : String
  recipientPublicKey : String
  remotePublicKey : String
  remotePeerId : String
  endpointCandidates : List SocketAddr
  delegation : Option ShortcutDelegation
  masterSecret : ByteVector 32
deriving DecidableEq

/-- `ControlMessage`. -/
inductive ControlMessage where
  | keepalive (replyRequested : Bool)
  | ticket (ticket : ShortcutTicket)
  | revoke (shortcutId : ShortcutId) (epoch : UInt64)
  | status (shortcutId : ShortcutId) (epoch : UInt64) (status : ShortcutStatus)
deriving DecidableEq

namespace ShortcutRole

def localLabel : ShortcutRole → String
  | .left => "left-static"
  | .right => "right-static"

def remoteLabel : ShortcutRole → String
  | .left => "right-static"
  | .right => "left-static"

end ShortcutRole

/-- The checks on a delegation inside `ShortcutTicket::validate`. -/
def ShortcutDelegation.validate
    (delegation : ShortcutDelegation) : Except String Unit :=
  if delegation.depth = 0 ∨ delegation.depth > maxDelegationDepth then
    .error "shortcut delegation depth is invalid"
  else if
      delegation.remainingDelegations.toNat >
        maxDelegationDepth.toNat - delegation.depth.toNat then
    .error "shortcut delegation budget is invalid"
  else if
      delegation.visitedIssuers.length > maxDelegationDepth.toNat then
    .error "shortcut delegation lineage is too long"
  else
    .ok ()

namespace ShortcutTicket

/-- `ShortcutTicket::validate`. -/
def validate (ticket : ShortcutTicket) (now : UInt64) : Except String Unit :=
  if ticket.version ≠ controlVersion then
    .error ("unsupported shortcut ticket version " ++ toString ticket.version)
  else if ticket.epoch = 0 then
    .error "shortcut epoch must be non-zero"
  else if
      ticket.issuerPublicKey = "" ∨ ticket.recipientPublicKey = "" ∨
        ticket.remotePublicKey = "" then
    .error "shortcut ticket is missing a stable public key"
  else if ticket.remotePeerId = "" then
    .error "shortcut ticket is missing the remote EasyTier peer id"
  else if ticket.issuedAt > saturatingAdd now maxClockSkewSeconds then
    .error "shortcut ticket was issued too far in the future"
  else if
      ticket.renewAt ≤ ticket.issuedAt ∨
        ticket.expiresAt ≤ ticket.renewAt then
    .error "shortcut ticket has an invalid renewal window"
  else if
      saturatingSub ticket.expiresAt ticket.issuedAt > maxLeaseSeconds then
    .error "shortcut ticket lease is too long"
  else if now ≥ ticket.expiresAt then
    .error "shortcut ticket has expired"
  else
    match ticket.delegation with
    | some delegation => delegation.validate
    | none => .ok ()

end ShortcutTicket

/-- The cryptographic functions that key derivation calls. -/
structure Primitives where
  keyedHash : ByteVector 32 → List UInt8 → ByteVector 32
  publicKey : ByteVector 32 → ByteVector 32

/-- `u64::to_le_bytes`. -/
def leBytes (word : UInt64) : List UInt8 :=
  (List.range 8).map fun index =>
    (word >>> UInt64.ofNat (8 * index)).toUInt8

/-- `DerivedKeys`. -/
structure DerivedKeys where
  localPrivate : ByteVector 32
  localPublic : ByteVector 32
  remotePublic : ByteVector 32
  presharedKey : ByteVector 32
deriving DecidableEq

section KeyDerivation

variable (primitives : Primitives)

/-- The input of the keyed hash in `derive_bytes`. -/
def deriveInput
    (shortcutId : ShortcutId) (epoch : UInt64) (label : String) :
    List UInt8 :=
  "wg-link shortcut v1\x00".toUTF8.toList ++
    shortcutId.bytes.toList ++ leBytes epoch ++ label.toUTF8.toList

/-- `derive_bytes`. -/
def deriveBytes
    (masterSecret : ByteVector 32) (shortcutId : ShortcutId)
    (epoch : UInt64) (label : String) : ByteVector 32 :=
  primitives.keyedHash masterSecret (deriveInput shortcutId epoch label)

/-- `derive_private`. -/
def derivePrivate
    (masterSecret : ByteVector 32) (shortcutId : ShortcutId)
    (epoch : UInt64) (label : String) : ByteVector 32 :=
  let derived := deriveBytes primitives masterSecret shortcutId epoch label
  let lowered := derived.set 0 (derived.get 0 &&& 248)
  lowered.set 31 ((lowered.get 31 &&& 127) ||| 64)

/-- `ShortcutTicket::derive_keys`. -/
def ShortcutTicket.deriveKeys (ticket : ShortcutTicket) : DerivedKeys :=
  let localPrivate :=
    derivePrivate primitives ticket.masterSecret ticket.shortcutId
      ticket.epoch ticket.role.localLabel
  let remotePrivate :=
    derivePrivate primitives ticket.masterSecret ticket.shortcutId
      ticket.epoch ticket.role.remoteLabel
  { localPrivate
    localPublic := primitives.publicKey localPrivate
    remotePublic := primitives.publicKey remotePrivate
    presharedKey :=
      deriveBytes primitives ticket.masterSecret ticket.shortcutId
        ticket.epoch "preshared-key" }

end KeyDerivation

/-- The ticket of the unit tests. -/
def testTicket (epoch : UInt64) : ShortcutTicket where
  version := controlVersion
  shortcutId := ⟨List.Vector.replicate 16 5⟩
  epoch := epoch
  role := .left
  issuedAt := 1000
  renewAt := 1120
  expiresAt := 1180
  selector := .v4 0xC6336407#32 (Fin.last 32)
  issuerPublicKey := "issuer"
  recipientPublicKey := "recipient"
  remotePublicKey := "remote"
  remotePeerId := "peer-id"
  endpointCandidates := []
  delegation := none
  masterSecret := List.Vector.replicate 32 epoch.toUInt8

/-- A ticket that passes has not expired and ends within the longest lease
after the largest clock skew. -/
theorem ShortcutTicket.validate_lease
    {ticket : ShortcutTicket} {now : UInt64}
    (valid : ticket.validate now = .ok ()) :
    now.toNat < ticket.expiresAt.toNat ∧
      ticket.expiresAt.toNat ≤ now.toNat + 330 := by
  have skew : maxClockSkewSeconds.toNat = 30 := rfl
  have lease : maxLeaseSeconds.toNat = 300 := rfl
  unfold validate at valid
  split_ifs at valid with version epoch keys peer issued window short current
  simp only [gt_iff_lt, ge_iff_le, UInt64.lt_iff_toNat_lt,
    UInt64.le_iff_toNat_le, toNat_saturatingAdd, toNat_saturatingSub,
    skew, lease, not_or] at issued window short current
  omega

theorem ShortcutDelegation.validate_iff (lineage : ShortcutDelegation) :
    lineage.validate = .ok () ↔
      0 < lineage.depth.toNat ∧ lineage.depth.toNat ≤ 8 ∧
      lineage.remainingDelegations.toNat ≤ 8 - lineage.depth.toNat ∧
      lineage.visitedIssuers.length ≤ 8 := by
  have deepest : maxDelegationDepth.toNat = 8 := rfl
  have zero : (0 : UInt8).toNat = 0 := rfl
  have depthZero : lineage.depth = 0 ↔ lineage.depth.toNat = 0 := by
    rw [← UInt8.toNat_inj, zero]
  have depthLarge :
      lineage.depth > maxDelegationDepth ↔ 8 < lineage.depth.toNat := by
    rw [gt_iff_lt, UInt8.lt_iff_toNat_lt, deepest]
  unfold validate
  simp only [depthZero, depthLarge, deepest]
  split_ifs with depth budget lineageLong
  · refine iff_of_false (fun impossible => by cases impossible) ?_
    omega
  · refine iff_of_false (fun impossible => by cases impossible) ?_
    omega
  · refine iff_of_false (fun impossible => by cases impossible) ?_
    omega
  · refine iff_of_true rfl ?_
    omega

/-- The lineage of a ticket that passes has passed too. -/
theorem ShortcutTicket.validate_lineage
    {ticket : ShortcutTicket} {now : UInt64} {lineage : ShortcutDelegation}
    (valid : ticket.validate now = .ok ())
    (inherited : ticket.delegation = some lineage) :
    lineage.validate = .ok () := by
  unfold validate at valid
  rw [inherited] at valid
  split_ifs at valid
  exact valid

/-- A ticket with all its parts in order passes. -/
theorem ShortcutTicket.validate_of
    {ticket : ShortcutTicket} {now : UInt64}
    (version : ticket.version = controlVersion) (epoch : ticket.epoch ≠ 0)
    (issuer : ticket.issuerPublicKey ≠ "")
    (recipient : ticket.recipientPublicKey ≠ "")
    (remote : ticket.remotePublicKey ≠ "") (peer : ticket.remotePeerId ≠ "")
    (issued : ticket.issuedAt.toNat ≤ now.toNat + 30)
    (renewed : ticket.issuedAt.toNat < ticket.renewAt.toNat)
    (renewable : ticket.renewAt.toNat < ticket.expiresAt.toNat)
    (short : ticket.expiresAt.toNat ≤ ticket.issuedAt.toNat + 300)
    (current : now.toNat < ticket.expiresAt.toNat)
    (lineages :
      ∀ lineage, ticket.delegation = some lineage →
        lineage.validate = .ok ()) :
    ticket.validate now = .ok () := by
  have skew : maxClockSkewSeconds.toNat = 30 := rfl
  have lease : maxLeaseSeconds.toNat = 300 := rfl
  have issuedBound := toNat_lt ticket.issuedAt
  have early :
      ¬ ticket.issuedAt > saturatingAdd now maxClockSkewSeconds := by
    rw [gt_iff_lt, UInt64.lt_iff_toNat_lt, toNat_saturatingAdd, skew]
    omega
  have window :
      ¬ (ticket.renewAt ≤ ticket.issuedAt ∨
        ticket.expiresAt ≤ ticket.renewAt) := by
    rw [UInt64.le_iff_toNat_le, UInt64.le_iff_toNat_le]
    omega
  have bounded :
      ¬ saturatingSub ticket.expiresAt ticket.issuedAt > maxLeaseSeconds := by
    rw [gt_iff_lt, UInt64.lt_iff_toNat_lt, toNat_saturatingSub, lease]
    omega
  have alive : ¬ now ≥ ticket.expiresAt := by
    rw [ge_iff_le, UInt64.le_iff_toNat_le]
    omega
  unfold validate
  rw [if_neg (not_not.mpr version), if_neg epoch,
    if_neg (by simp [issuer, recipient, remote]), if_neg peer, if_neg early,
    if_neg window, if_neg bounded, if_neg alive]
  cases inherited : ticket.delegation with
  | none =>
      rfl
  | some lineage =>
      exact lineages lineage inherited

end WgLink
