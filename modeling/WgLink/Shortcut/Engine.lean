import WgLink.Shortcut.Control

/-!
# The shortcut tunnel

`ShortcutTunnel` of `shortcut/engine.rs`.  The Noise state machine behind it
is `boringtun`'s: what it answers to each call is an argument here, and the
functions below are what the engine makes of the answers.
-/

namespace WgLink

/-- The bytes of a packet. -/
abbrev Bytes := List UInt8

/-- `boringtun::noise::TunnResult`; the two tunnel variants differ only in the
address that the engine ignores. -/
inductive TunnResult where
  | done
  | err (error : String)
  | writeToNetwork (packet : Bytes)
  | writeToTunnel (packet : Bytes)
deriving DecidableEq, Repr

/-- `TunnelOutput`. -/
structure TunnelOutput where
  networkPackets : List Bytes
  tunnelPackets : List Bytes
  authenticatedHandshake : Bool
deriving DecidableEq, Repr

/-- `TunnelOutput::default`. -/
def TunnelOutput.default : TunnelOutput := ⟨[], [], false⟩

def handshakeInitiation : Nat := 1
def handshakeResponse : Nat := 2
def transportData : Nat := 4

/-- `wireguard_message_type`. -/
def wireguardMessageType : Bytes → Option Nat
  | first :: second :: third :: fourth :: _ =>
      some (first.toNat + 256 * second.toNat + 65536 * third.toNat +
        16777216 * fourth.toNat)
  | _ => none

/-- `collect_result`. -/
def collectResult (result : TunnResult) (output : TunnelOutput) :
    Except String TunnelOutput :=
  match result with
  | .done => .ok output
  | .err error => .error ("shortcut WireGuard packet failed: " ++ error)
  | .writeToNetwork packet =>
      .ok { output with networkPackets := output.networkPackets ++ [packet] }
  | .writeToTunnel packet =>
      .ok { output with tunnelPackets := output.tunnelPackets ++ [packet] }

namespace ShortcutTunnel

/-- `ShortcutTunnel::encapsulate` and `ShortcutTunnel::update_timers`, which
make one call each. -/
def encapsulate : List TunnResult → Option (Except String TunnelOutput)
  | [result] => some (collectResult result .default)
  | _ => none

/-- The loop of `ShortcutTunnel::receive`: it goes on until `boringtun` is done
or fails, and answers beyond that point are none it asked for. -/
def receiveLoop :
    List TunnResult → TunnelOutput → Option (Except String TunnelOutput)
  | [], _ => none
  | result :: rest, output =>
      match collectResult result output with
      | .error error => if rest = [] then some (.error error) else none
      | .ok collected =>
          if result = .done then
            if rest = [] then some (.ok collected) else none
          else
            receiveLoop rest collected

/-- The classification at the end of `ShortcutTunnel::receive`. -/
def authenticates (datagram : Bytes) (networkPackets : List Bytes) : Bool :=
  match wireguardMessageType datagram with
  | none => false
  | some messageType =>
      if messageType = handshakeInitiation then
        networkPackets.any fun packet =>
          wireguardMessageType packet == some handshakeResponse
      else if messageType = handshakeResponse then
        networkPackets.any fun packet =>
          wireguardMessageType packet == some transportData
      else
        false

/-- `ShortcutTunnel::receive`. -/
def receive (datagram : Bytes) (results : List TunnResult) :
    Option (Except String TunnelOutput) :=
  (receiveLoop results .default).map fun collected =>
    collected.map fun output =>
      { output with
        authenticatedHandshake :=
          authenticates datagram output.networkPackets }

end ShortcutTunnel

end WgLink
