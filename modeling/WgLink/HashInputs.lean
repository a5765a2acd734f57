import WgLink.Identity

/-!
# What is hashed

Identities, ports and keys are told apart by the inputs of their hashes.  The
inputs are read back here: each of them is made from the hash of its input, and
two different uses of a hash never hash the same bytes.
-/

namespace WgLink

open WgLink.Library

/-- Every part has a length that fits into a word. -/
def Fits (parts : List (List UInt8)) : Prop :=
  ∀ part ∈ parts, part.length < 2 ^ 64

/-- The input of `digest` determines its parts. -/
theorem digestInput_inj
    {first second : List (List UInt8)}
    (firstFits : Fits first) (secondFits : Fits second)
    (same : digestInput first = digestInput second) :
    first = second :=
  @flatMap_framed_inj 8 (by omega) first second firstFits secondFits same

/-! ## Identities -/

/-- The uses of `digest` in `identity.rs`. -/
inductive IdentityUse where
  | nodeId (publicKey : String) (period : UInt64)
  | instanceId (publicKey : String) (period : UInt64)
  | network
  | port (label : String) (parts : List String)

namespace IdentityUse

/-- The parts that a use gives to `digest`. -/
def parts : IdentityUse → List (List UInt8)
  | .nodeId publicKey period =>
      [asBytes "wg-link/hourly-node/v2", asBytes publicKey,
        beBytes 8 period.toNat]
  | .instanceId publicKey period =>
      [asBytes "wg-link/hourly-instance/v1", asBytes publicKey,
        beBytes 8 period.toNat]
  | .network => [asBytes "wg-link/easytier-network/v2"]
  | .port label parts =>
      [asBytes "wg-link/port/v1", asBytes label] ++ parts.map asBytes

/-- The bytes that a use hashes. -/
def input (use : IdentityUse) : List UInt8 :=
  digestInput use.parts

/-- The name of a use, which is the first of its parts. -/
def tag : IdentityUse → String
  | .nodeId _ _ => "wg-link/hourly-node/v2"
  | .instanceId _ _ => "wg-link/hourly-instance/v1"
  | .network => "wg-link/easytier-network/v2"
  | .port _ _ => "wg-link/port/v1"

theorem head_parts (use : IdentityUse) :
    use.parts.head? = some (asBytes use.tag) := by
  cases use <;> rfl

theorem tag_eq
    {first second : IdentityUse} (same : first.parts = second.parts) :
    first.tag = second.tag := by
  have heads := congrArg List.head? same
  rw [head_parts, head_parts] at heads
  exact asBytes_inj (Option.some.inj heads)

theorem period_eq
    {first second : UInt64}
    (same : beBytes 8 first.toNat = beBytes 8 second.toNat) :
    first = second :=
  UInt64.toNat_inj.mp (beBytes_inj first.toNat_lt second.toNat_lt same)

/-- Different uses have different parts. -/
theorem parts_inj
    {first second : IdentityUse} (same : first.parts = second.parts) :
    first = second := by
  have tags := tag_eq same
  cases first with
  | nodeId key period =>
      cases second with
      | nodeId otherKey otherPeriod =>
          simp only [parts, List.cons.injEq, true_and, and_true] at same
          rw [asBytes_inj same.1, period_eq same.2]
      | _ =>
          simp [tag] at tags
  | instanceId key period =>
      cases second with
      | instanceId otherKey otherPeriod =>
          simp only [parts, List.cons.injEq, true_and, and_true] at same
          rw [asBytes_inj same.1, period_eq same.2]
      | _ =>
          simp [tag] at tags
  | network =>
      cases second with
      | network =>
          rfl
      | _ =>
          simp [tag] at tags
  | port label texts =>
      cases second with
      | port otherLabel otherTexts =>
          have injective : Function.Injective asBytes :=
            fun _ _ equal => asBytes_inj equal
          simp only [parts, List.cons_append, List.nil_append,
            List.cons.injEq, true_and] at same
          rw [asBytes_inj same.1, List.map_injective_iff.mpr injective same.2]
      | _ =>
          simp [tag] at tags

/-- Different uses hash different bytes. -/
theorem input_inj
    {first second : IdentityUse}
    (firstFits : Fits first.parts) (secondFits : Fits second.parts)
    (same : first.input = second.input) :
    first = second :=
  parts_inj (digestInput_inj firstFits secondFits same)

end IdentityUse

/-! ## Trackers and shortcuts -/

/-- The input of `info_hash` determines key and provider. -/
theorem infoHashInput_inj
    {firstKey secondKey firstProvider secondProvider : String}
    (firstFits : Fits [asBytes firstKey, asBytes firstProvider])
    (secondFits : Fits [asBytes secondKey, asBytes secondProvider])
    (same :
      infoHashInput firstKey firstProvider =
        infoHashInput secondKey secondProvider) :
    firstKey = secondKey ∧ firstProvider = secondProvider := by
  have framedParts :
      ∀ key provider,
        infoHashInput key provider =
          asBytes "wg-link/discovery/v1" ++
            digestInput [asBytes key, asBytes provider] := by
    intro key provider
    simp [infoHashInput, digestInput]
  rw [framedParts, framedParts] at same
  have parts :=
    digestInput_inj firstFits secondFits (List.append_cancel_left same)
  simp only [List.cons.injEq, and_true] at parts
  exact ⟨asBytes_inj parts.1, asBytes_inj parts.2⟩

theorem length_leBytes (word : UInt64) : (leBytes word).length = 8 := by
  unfold leBytes
  rw [List.length_map, List.length_range]

theorem toNat_leByte (word : UInt64) {index : Nat} (inside : index < 8) :
    ((word >>> UInt64.ofNat (8 * index)).toUInt8).toNat =
      word.toNat / 256 ^ index % 256 := by
  have shift : (8 * index) % 2 ^ 64 % 64 = 8 * index := by omega
  have power : 2 ^ (8 * index) = 256 ^ index := pow_mul 2 8 index
  rw [UInt64.toNat_toUInt8, UInt64.toNat_shiftRight, UInt64.toNat_ofNat',
    shift, Nat.shiftRight_eq_div_pow, power]

theorem leBytes_inj
    {first second : UInt64} (same : leBytes first = leBytes second) :
    first = second := by
  have digits :
      ∀ index < 8,
        first.toNat / 256 ^ index % 256 =
          second.toNat / 256 ^ index % 256 := by
    intro index inside
    have bytes := List.map_inj_left.mp same index (List.mem_range.mpr inside)
    rw [← toNat_leByte first inside, bytes, toNat_leByte second inside]
  apply UInt64.toNat_inj.mp
  exact eq_of_digits digits first.toNat_lt second.toNat_lt

/-- The input of `derive_bytes` determines what it is derived for. -/
theorem deriveInput_inj
    {firstId secondId : ShortcutId} {firstEpoch secondEpoch : UInt64}
    {firstLabel secondLabel : String}
    (same :
      deriveInput firstId firstEpoch firstLabel =
        deriveInput secondId secondEpoch secondLabel) :
    firstId = secondId ∧ firstEpoch = secondEpoch ∧
      firstLabel = secondLabel := by
  unfold deriveInput at same
  simp only [toList_toUTF8] at same
  simp only [List.append_assoc] at same
  have remaining := List.append_cancel_left same
  obtain ⟨ids, afterIds⟩ :=
    List.append_inj remaining
      (by rw [List.Vector.toList_length, List.Vector.toList_length])
  obtain ⟨epochs, labels⟩ :=
    List.append_inj afterIds (by rw [length_leBytes, length_leBytes])
  have sameId : firstId.bytes = secondId.bytes := Subtype.ext ids
  refine ⟨?_, leBytes_inj epochs, asBytes_inj labels⟩
  cases firstId
  cases secondId
  exact congrArg ShortcutId.mk sameId

/-! ## All inputs -/

/-- What the functions of `identity.rs` make of the hashes of their inputs. -/
structure IdentitiesHashed (hash : Hash) : Prop where
  digested : ∀ parts, digest hash parts = hash (digestInput parts)
  nodeId :
    ∀ publicKey period,
      rotatingNodeId hash publicKey period =
        String.ofList
          ((toHex
            (hash (IdentityUse.nodeId publicKey period).input).toList).take 16)
  instanceId :
    ∀ publicKey period hex,
      hex =
        toHex (hash (IdentityUse.instanceId publicKey period).input).toList →
      rotatingInstanceId hash publicKey period =
        String.ofList
          (hex.take 8 ++ '-' :: (hex.drop 8).take 4 ++
            '-' :: (hex.drop 12).take 4 ++ '-' :: (hex.drop 16).take 4 ++
            '-' :: (hex.drop 20).take 12)
  network :
    transportNetwork hash =
      "wglr-" ++
        String.ofList
          ((toHex (hash IdentityUse.network.input).toList).take 20)
  port :
    ∀ base span label parts,
      derivePort hash base span label parts =
        saturatingAdd16 base
          (UInt16.ofNat
            (beValue
              ((hash (IdentityUse.port label parts).input).toList.take 2)) %
            span)

theorem identitiesHashed (hash : Hash) : IdentitiesHashed hash where
  digested _ := rfl
  nodeId _ _ := rfl
  instanceId publicKey period hex read := by
    rw [read]
    rfl
  network := rfl
  port _ _ _ _ := rfl

/-- What a node registers under with a tracker is the hash of its input. -/
structure RegistrationsHashed (sha1 : List UInt8 → ByteVector 20) : Prop where
  infoHash :
    ∀ publicKey provider,
      WgLink.infoHash sha1 publicKey provider =
        sha1 (infoHashInput publicKey provider)
  peerId :
    ∀ publicKey provider,
      trackerPeerId sha1 publicKey provider =
        sha1 (infoHashInput publicKey ("peer-id|" ++ provider))

theorem registrationsHashed (sha1 : List UInt8 → ByteVector 20) :
    RegistrationsHashed sha1 where
  infoHash _ _ := rfl
  peerId _ _ := rfl

/-- What is hashed determines what it was made from: no two lists of parts, no
two identities, no two registrations and no two derived keys hash the same
bytes, and each of them is made from the hash of its own bytes. -/
structure InputsDetermined : Prop where
  digest :
    ∀ first second,
      Fits first → Fits second →
      digestInput first = digestInput second →
      first = second
  identitiesHashed : ∀ hash, IdentitiesHashed hash
  identities :
    ∀ first second : IdentityUse,
      Fits first.parts → Fits second.parts →
      first.input = second.input →
      first = second
  registrationsHashed : ∀ sha1, RegistrationsHashed sha1
  registrations :
    ∀ firstKey secondKey firstProvider secondProvider,
      Fits [asBytes firstKey, asBytes firstProvider] →
      Fits [asBytes secondKey, asBytes secondProvider] →
      infoHashInput firstKey firstProvider =
        infoHashInput secondKey secondProvider →
      firstKey = secondKey ∧ firstProvider = secondProvider
  derivationsHashed :
    ∀ (primitives : Primitives) masterSecret shortcutId epoch label,
      deriveBytes primitives masterSecret shortcutId epoch label =
        primitives.keyedHash masterSecret (deriveInput shortcutId epoch label)
  derivations :
    ∀ firstId secondId firstEpoch secondEpoch firstLabel secondLabel,
      deriveInput firstId firstEpoch firstLabel =
        deriveInput secondId secondEpoch secondLabel →
      firstId = secondId ∧ firstEpoch = secondEpoch ∧
        firstLabel = secondLabel

/-- The input of every hash determines what it was made from. -/
theorem hashInputs_determined : InputsDetermined where
  digest _ _ firstFits secondFits same :=
    digestInput_inj firstFits secondFits same
  identitiesHashed := identitiesHashed
  identities _ _ firstFits secondFits same :=
    IdentityUse.input_inj firstFits secondFits same
  registrationsHashed := registrationsHashed
  registrations _ _ _ _ firstFits secondFits same :=
    infoHashInput_inj firstFits secondFits same
  derivationsHashed _ _ _ _ _ := rfl
  derivations _ _ _ _ _ _ same := deriveInput_inj same

end WgLink
