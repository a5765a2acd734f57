import WgLink.Shortcut.Engine
import WgLink.Shortcut.Policy
import WgLink.Wireguard

/-!
# The shortcut device

`shortcut/device.rs`: the userspace route table, and the task that owns the
tunnels.  One branch of the task's `select!` runs at a time.  What a branch
does at once is a function of the task; what it does after an `await` is left
in `pending`, one action for each suspension point, and `SessionRuntime` keeps
whether its tunnel has completed a handshake.
-/

namespace WgLink

open WgLink.Library

/-! ## Userspace routes -/

/-- `DeviceRoutes`; the lock is poisoned when a writer has panicked. -/
structure DeviceRoutes where
  routes : HashMap IpNet RouteTarget
  poisoned : Bool

namespace DeviceRoutes

/-- `DeviceRoutes::default`. -/
def default : DeviceRoutes := ⟨∅, false⟩

/-- `DeviceRoutes::lookup`, visiting the table in `order`. -/
def lookup
    (self : DeviceRoutes) (destination : IpAddr) (order : List IpNet) :
    Option RouteTarget :=
  if self.poisoned then
    none
  else
    (maxByKey IpNet.prefixLen
      (order.filter fun network => network.contains destination)).bind
        self.routes.lookup

/-- Both writers of the table take the lock first. -/
def write
    (self : DeviceRoutes)
    (change : HashMap IpNet RouteTarget → HashMap IpNet RouteTarget) :
    DeviceRoutes × Except String Unit :=
  if self.poisoned then
    (self, .error "shortcut userspace route lock is poisoned")
  else
    ({ self with routes := change self.routes }, .ok ())

instance : UserspaceRoutes DeviceRoutes where
  replace self selector target :=
    self.write fun routes => routes.insert selector target
  remove self selector := self.write fun routes => routes.erase selector

theorem write_ok
    {self : DeviceRoutes}
    {change : HashMap IpNet RouteTarget → HashMap IpNet RouteTarget}
    (succeeded : (self.write change).2 = .ok ()) :
    (self.write change).1.routes = change self.routes := by
  unfold write at succeeded ⊢
  split at succeeded
  · cases succeeded
  · rename_i sound
    rw [if_neg sound]

theorem write_error
    {self : DeviceRoutes}
    {change : HashMap IpNet RouteTarget → HashMap IpNet RouteTarget}
    {error : String}
    (failed : (self.write change).2 = .error error) :
    (self.write change).1.routes = self.routes := by
  unfold write at failed ⊢
  split at failed
  · rename_i poisoned
    rw [if_pos poisoned]
  · cases failed

instance : LawfulUserspaceRoutes DeviceRoutes where
  entries := DeviceRoutes.routes
  replace_ok _ _ _ succeeded := write_ok succeeded
  replace_error _ _ _ _ failed := write_error failed
  remove_ok _ _ succeeded := write_ok succeeded
  remove_error _ _ _ failed := write_error failed

end DeviceRoutes

/-! ## Events and commands -/

/-- `DeviceEvent`. -/
inductive DeviceEvent where
  | handshakeStarted (session : SessionKey)
  | authenticatedHandshake (session : SessionKey)
  | innerPacket (session : SessionKey) (source destination : IpAddr)
  | missingRoute (destination : IpAddr)
  | sessionFailed (session : SessionKey)
deriving DecidableEq

/-- `DeviceCommand`.  The reply channel of `prepare` belongs to the caller that
waits on it. -/
inductive DeviceCommand where
  | prepare (session : SessionKey) (remotePublicKey : String)
  | receive (session : SessionKey) (sourcePublicKey : String)
      (datagram : Bytes)
  | remove (session : SessionKey)
deriving DecidableEq

/-- `broker::RelayChannel`. -/
inductive RelayChannel where
  | baseWireGuard
  | shortcutWireGuard (session : SessionKey)
  | pathProbe (nonce sentMicros : UInt64) (reply : Bool)
deriving DecidableEq

/-- `broker::RelayPacket`. -/
structure RelayPacket where
  peerKey : String
  channel : RelayChannel
  payload : Bytes
deriving DecidableEq

/-- `broker::InboundRelayPacket`. -/
structure InboundRelayPacket where
  sourceKey : String
  channel : RelayChannel
  payload : Bytes
deriving DecidableEq

/-! ## Packets -/

/-- The bits of consecutive bytes, most significant first. -/
def bitsOfBytes (width : Nat) (bytes : Bytes) : BitVec width :=
  BitVec.ofNat width
    (bytes.foldl (fun value byte => 256 * value + byte.toNat) 0)

/-- `packet_addresses`. -/
def packetAddresses (packet : Bytes) : Option (IpAddr × IpAddr) :=
  match packet with
  | [] => none
  | first :: _ =>
      if first.toNat / 16 = 4 ∧ 20 ≤ packet.length then
        some
          (.v4 (bitsOfBytes 32 ((packet.drop 12).take 4)),
            .v4 (bitsOfBytes 32 ((packet.drop 16).take 4)))
      else if first.toNat / 16 = 6 ∧ 40 ≤ packet.length then
        some
          (.v6 (bitsOfBytes 128 ((packet.drop 8).take 16)),
            .v6 (bitsOfBytes 128 ((packet.drop 24).take 16)))
      else
        none

/-- The IPv4 packet of the unit tests. -/
def testPacket : Bytes :=
  [0x45, 0, 0, 20, 0, 0, 0, 0, 64, 1, 0, 0, 198, 51, 100, 1, 198, 51, 100, 7]

example :
    packetAddresses testPacket =
      some (.v4 0xC6336401#32, .v4 0xC6336407#32) := by
  decide

/-! ## The device task -/

/-- `SessionRuntime`, with the record of whether this very tunnel has completed
an authenticated handshake. -/
structure SessionRuntime where
  remotePublicKey : String
  authenticated : Bool
deriving DecidableEq

/-- What the task still has to do in the branch it is in, up to one `await`
each. -/
inductive DeviceAction where
  /-- `events.send`. -/
  | emit (event : DeviceEvent)
  /-- `send_packets` for a running session, which fails the session if the
  outer transport has stopped. -/
  | transmit (session : SessionKey) (peerKey : String) (packets : List Bytes)
  /-- The rest of `prepare_session` after `encapsulate`. -/
  | initiate (session : SessionKey) (runtime : SessionRuntime)
      (packets : List Bytes)
  /-- `tun.send_all`. -/
  | inject (packet : Bytes)
  /-- One round of the loop on a timer tick. -/
  | tend (session : SessionKey)
  /-- `reply.send`. -/
  | reply (result : Except String Unit)
deriving DecidableEq

/-- The state of `device::run`. -/
structure DeviceTask where
  sessions : HashMap SessionKey SessionRuntime
  pending : List DeviceAction

namespace DeviceTask

def new : DeviceTask := ⟨∅, []⟩

/-- `fail_session`, before the event is sent. -/
def failSession
    (self : DeviceTask) (session : SessionKey) (rest : List DeviceAction) :
    DeviceTask :=
  { sessions := self.sessions.erase session
    pending := .emit (.sessionFailed session) :: rest }

/-- What follows a call of the tunnel in the `tun.recv` and timer branches. -/
def afterTunnel
    (self : DeviceTask) (session : SessionKey) (runtime : SessionRuntime)
    (result : Except String TunnelOutput) (rest : List DeviceAction) :
    DeviceTask :=
  match result with
  | .ok output =>
      { self with
        pending :=
          .transmit session runtime.remotePublicKey output.networkPackets ::
            rest }
  | .error _ => self.failSession session rest

/-- The branch `tun.recv`. -/
def tunPacket
    (self : DeviceTask) (routes : DeviceRoutes) (order : List IpNet)
    (inner : Bytes) (results : List TunnResult) : Option DeviceTask :=
  match packetAddresses inner with
  | none => some self
  | some (_, destination) =>
      match routes.lookup destination order with
      | none =>
          some { self with pending := [.emit (.missingRoute destination)] }
      | some target =>
          match self.sessions.lookup target.session with
          | none => some self
          | some runtime =>
              (ShortcutTunnel.encapsulate results).map fun result =>
                self.afterTunnel target.session runtime result []

/-- The actions for the inner packets of a received datagram. -/
def deliverInner (session : SessionKey) (packets : List Bytes) :
    List DeviceAction :=
  packets.flatMap fun packet =>
    match packetAddresses packet with
    | some (source, destination) =>
        [.emit (.innerPacket session source destination), .inject packet]
    | none => [.inject packet]

/-- The branch of a `Receive` command for a datagram that the tunnel has
accepted. -/
def received
    (self : DeviceTask) (session : SessionKey) (runtime : SessionRuntime)
    (output : TunnelOutput) : DeviceTask :=
  { sessions :=
      self.sessions.insert session
        { runtime with
          authenticated :=
            runtime.authenticated || output.authenticatedHandshake }
    pending :=
      (if output.authenticatedHandshake then
          [.emit (.authenticatedHandshake session)]
        else
          []) ++
        deliverInner session output.tunnelPackets ++
        [.transmit session runtime.remotePublicKey output.networkPackets] }

/-- The branch `commands.recv`. -/
def takeCommand
    (self : DeviceTask) (command : DeviceCommand)
    (results : List TunnResult) : Option DeviceTask :=
  match command with
  | .prepare session remotePublicKey =>
      (ShortcutTunnel.encapsulate results).map fun result =>
        match result with
        | .ok output =>
            { self with
              pending :=
                [.initiate session ⟨remotePublicKey, false⟩
                  output.networkPackets] }
        | .error error => { self with pending := [.reply (.error error)] }
  | .receive session sourcePublicKey datagram =>
      match self.sessions.lookup session with
      | none => some self
      | some runtime =>
          if runtime.remotePublicKey ≠ sourcePublicKey then
            some self
          else
            (ShortcutTunnel.receive datagram results).map fun result =>
              match result with
              | .ok output => self.received session runtime output
              | .error _ => self
  | .remove session =>
      some { self with sessions := self.sessions.erase session }

/-- The branch `timer.tick`, visiting the sessions in `order`. -/
def timerTick (self : DeviceTask) (order : List SessionKey) :
    Option DeviceTask :=
  if HashMap.Iterates order self.sessions then
    some { self with pending := order.map .tend }
  else
    none

/-- What leaves the task when it goes on past an `await`. -/
inductive DeviceEffect where
  | silent
  | event (event : DeviceEvent)
  | packet (packet : RelayPacket)
  | reply (result : Except String Unit)

/-- The error of `send_packets`. -/
def transportStopped : String := "shortcut outer transport stopped"

/-- Go on with the first pending action.  `accepted` says whether the outer
transport takes the packet that the action hands it. -/
def act
    (self : DeviceTask) (results : List TunnResult) (accepted : Bool) :
    Option (DeviceTask × DeviceEffect) :=
  match self.pending with
  | [] => none
  | .emit event :: rest => some ({ self with pending := rest }, .event event)
  | .transmit _ _ [] :: rest => some ({ self with pending := rest }, .silent)
  | .transmit session peerKey (packet :: packets) :: rest =>
      if accepted then
        some
          ({ self with pending := .transmit session peerKey packets :: rest },
            .packet ⟨peerKey, .shortcutWireGuard session, packet⟩)
      else
        some (self.failSession session rest, .silent)
  | .initiate session runtime [] :: rest =>
      some
        ({ sessions := self.sessions.insert session runtime
           pending :=
             .emit (.handshakeStarted session) :: .reply (.ok ()) :: rest },
          .silent)
  | .initiate session runtime (packet :: packets) :: rest =>
      if accepted then
        some
          ({ self with pending := .initiate session runtime packets :: rest },
            .packet
              ⟨runtime.remotePublicKey, .shortcutWireGuard session, packet⟩)
      else
        some
          ({ self with pending := .reply (.error transportStopped) :: rest },
            .silent)
  | .inject _ :: rest => some ({ self with pending := rest }, .silent)
  | .tend session :: rest =>
      match self.sessions.lookup session with
      | none => some ({ self with pending := rest }, .silent)
      | some runtime =>
          (ShortcutTunnel.encapsulate results).map fun result =>
            (self.afterTunnel session runtime result rest, .silent)
  | .reply result :: rest => some ({ self with pending := rest }, .reply result)

end DeviceTask

end WgLink
