import WgLink.Library.BigEndian
import WgLink.Library.Utf8
import WgLink.Shortcut.Cascade

/-!
# Derived identities

The names of `identity.rs` under which a node is known to the relay, a digest
of its public key and the hour, and the ports that are derived from keys.
-/

namespace WgLink

open WgLink.Library

/-- `PEER_ID_PERIOD_SECONDS`. -/
def peerIdPeriodSeconds : UInt64 := 3600

/-- `peer_id_period`. -/
def peerIdPeriod (unixSeconds : UInt64) : UInt64 :=
  unixSeconds / peerIdPeriodSeconds

/-- `active_peer_id_periods`. -/
def activePeerIdPeriods (unixSeconds : UInt64) : List UInt64 :=
  let current := peerIdPeriod unixSeconds
  [current, saturatingSub current 1]

/-- What `digest` feeds to the hasher: every part after its length. -/
def digestInput (parts : List (List UInt8)) : List UInt8 :=
  parts.flatMap fun part => beBytes 8 part.length ++ part

/-- `digest`. -/
def digest (hash : Hash) (parts : List (List UInt8)) : ByteVector 32 :=
  hash (digestInput parts)

/-- `blake3::Hash::to_hex`. -/
def toHex (bytes : List UInt8) : List Char :=
  bytes.flatMap fun byte =>
    [Nat.digitChar (byte.toNat / 16), Nat.digitChar (byte.toNat % 16)]

/-- `rotating_node_id`. -/
def rotatingNodeId (hash : Hash) (publicKey : String) (period : UInt64) :
    String :=
  let hashed :=
    digest hash
      [asBytes "wg-link/hourly-node/v2", asBytes publicKey,
        beBytes 8 period.toNat]
  String.ofList ((toHex hashed.toList).take 16)

/-- `rotating_node_name`. -/
def rotatingNodeName (hash : Hash) (publicKey : String) (period : UInt64) :
    String :=
  "wgl-" ++ rotatingNodeId hash publicKey period

/-- `rotating_instance_id`. -/
def rotatingInstanceId
    (hash : Hash) (publicKey : String) (period : UInt64) : String :=
  let hashed :=
    digest hash
      [asBytes "wg-link/hourly-instance/v1", asBytes publicKey,
        beBytes 8 period.toNat]
  let hex := toHex hashed.toList
  String.ofList
    (hex.take 8 ++ '-' :: (hex.drop 8).take 4 ++ '-' :: (hex.drop 12).take 4 ++
      '-' :: (hex.drop 16).take 4 ++ '-' :: (hex.drop 20).take 12)

/-- `transport_network`. -/
def transportNetwork (hash : Hash) : String :=
  let hashed := digest hash [asBytes "wg-link/easytier-network/v2"]
  "wglr-" ++ String.ofList ((toHex hashed.toList).take 20)

/-- The offset of `derive_port`: the first two bytes of a digest, modulo the
span. -/
def portOffset
    (hash : Hash) (span : UInt16) (label : String) (parts : List String) :
    UInt16 :=
  let bytes :=
    digest hash
      ([asBytes "wg-link/port/v1", asBytes label] ++ parts.map asBytes)
  UInt16.ofNat (beValue (bytes.toList.take 2)) % span

/-- `derive_port`. -/
def derivePort
    (hash : Hash) (base span : UInt16) (label : String)
    (parts : List String) : UInt16 :=
  saturatingAdd16 base (portOffset hash span label parts)

/-- What `info_hash` feeds to SHA-1. -/
def infoHashInput (publicKey provider : String) : List UInt8 :=
  asBytes "wg-link/discovery/v1" ++
    (beBytes 8 (asBytes publicKey).length ++
      (asBytes publicKey ++
        (beBytes 8 (asBytes provider).length ++ asBytes provider)))

/-- `info_hash`. -/
def infoHash
    (sha1 : List UInt8 → ByteVector 20) (publicKey provider : String) :
    ByteVector 20 :=
  sha1 (infoHashInput publicKey provider)

/-- `peer_id` of `identity.rs`. -/
def trackerPeerId
    (sha1 : List UInt8 → ByteVector 20) (publicKey provider : String) :
    ByteVector 20 :=
  infoHash sha1 publicKey ("peer-id|" ++ provider)

/-- What is hashed for the name of a node in hour 2. -/
def nodeInput (publicKey : String) : List UInt8 :=
  digestInput
    [asBytes "wg-link/hourly-node/v2", asBytes publicKey, beBytes 8 2]

/-- `blake3::hash` on the names of three nodes in hour 2 and on that of the
network. -/
def stationHash : Hash :=
  tableHash
    [(nodeInput "left",
        [0x44, 0x24, 0x30, 0xA8, 0xC4, 0x91, 0x28, 0x70,
          0xC3, 0x3F, 0xCE, 0xBB, 0xF1, 0x3C, 0xEC, 0x8A,
          0x71, 0xBE, 0xE5, 0xD4, 0x54, 0x81, 0x26, 0x4F,
          0x4E, 0x7F, 0x43, 0x6C, 0x47, 0x66, 0x2C, 0x65]),
      (nodeInput "right",
        [0xE5, 0xC4, 0x13, 0xD3, 0x42, 0x7F, 0x9E, 0xA7,
          0xCA, 0x86, 0x7A, 0x07, 0x68, 0x51, 0x73, 0xDB,
          0xD3, 0x60, 0x34, 0xEA, 0x61, 0x78, 0x19, 0x13,
          0x00, 0x24, 0xD7, 0x41, 0x02, 0x1A, 0xEF, 0x3A]),
      (nodeInput "peer",
        [0xA7, 0x82, 0xA8, 0x84, 0x72, 0xC5, 0x8E, 0xA1,
          0x1F, 0x0F, 0xFC, 0x10, 0xF8, 0x30, 0x92, 0x11,
          0x98, 0x52, 0x47, 0xE3, 0x58, 0x91, 0xD1, 0x4E,
          0x65, 0xAC, 0xB3, 0xBA, 0xB3, 0xB8, 0x9B, 0x25]),
      (digestInput [asBytes "wg-link/easytier-network/v2"],
        [0x70, 0x5F, 0xAC, 0x87, 0x7A, 0x20, 0x04, 0xBD,
          0x43, 0x72, 0x8D, 0x25, 0xD9, 0x3E, 0x43, 0x18,
          0x6D, 0xC8, 0x12, 0x73, 0x83, 0xEF, 0x04, 0x23,
          0x43, 0xAB, 0x52, 0x79, 0xF8, 0x7A, 0xBB, 0xCA])]

end WgLink
