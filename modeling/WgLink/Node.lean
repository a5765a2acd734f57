import WgLink.Library.Machine
import WgLink.Shortcut.Controller

/-!
# The node's message loop

The loop of `run_generation_inner` in `main.rs`, as far as it serves
shortcuts.  A turn of the loop takes one arm of the `select!`; the calls of the
device that the arm awaits are kept in `phase`, one at a time.
-/

namespace WgLink

open WgLink.Library

def baseHandshakeLifetimeSeconds : UInt64 := 180

/-- `fresh_handshake`. -/
def freshHandshake (latestHandshake now : UInt64) : Bool :=
  latestHandshake != 0 &&
    saturatingSub now latestHandshake ≤ baseHandshakeLifetimeSeconds

/-- `base_control::ReceivedControl`. -/
structure ReceivedControl where
  source : IpAddr
  message : ControlMessage
deriving DecidableEq

/-- Where the loop is. -/
inductive LoopPhase where
  /-- At the `select!`. -/
  | selecting
  /-- In `DeviceHandle::receive` or `DeviceHandle::remove`, with these commands
  still to send. -/
  | sending (commands : List DeviceCommand)
  /-- In `DeviceHandle::prepare`, before its command is sent. -/
  | preparing (session : SessionKey) (command : DeviceCommand)
  /-- In `DeviceHandle::prepare`, waiting for the response. -/
  | awaiting (session : SessionKey)
  /-- An error has ended the loop. -/
  | stopped (error : String)
deriving DecidableEq

/-- The phase that sends some commands. -/
def LoopPhase.ofCommands : List DeviceCommand → LoopPhase
  | [] => .selecting
  | commands => .sending commands

/-- The state of the message loop. -/
structure Node (R : Type) where
  controller : ShortcutController R
  currentSnapshot : Snapshot
  phase : LoopPhase

/-- What the loop is given: an arm of the `select!` with the time it reads and
the orders in which it visits sessions, or the end of a call of the device. -/
inductive NodeInput where
  | poll (snapshot : Snapshot) (now : UInt64) (order : List SessionKey)
  | control (received : ReceivedControl) (now : UInt64)
  | inbound (packet : InboundRelayPacket)
  | event (event : DeviceEvent) (now : UInt64) (order : List SessionKey)
  | sent
  | replied (result : Except String Unit)
deriving DecidableEq

namespace Node

variable {R : Type}

/-- The state at the start of a generation. -/
def new (localPublicKey : String) (routes : R) (snapshot : Snapshot) :
    Node R :=
  { controller := ⟨localPublicKey, .new routes⟩
    currentSnapshot := snapshot
    phase := .selecting }

/-- The manager of the node. -/
def manager (self : Node R) : ShortcutManager R := self.controller.manager

/-- The arm `control_receiver.recv` on a ticket. -/
def ticketArrived
    (self : Node R) (source : IpAddr) (ticket : ShortcutTicket)
    (now : UInt64) : Node R :=
  match self.currentSnapshot.routePeer source none with
  | none => self
  | some sender =>
      if freshHandshake sender.latestHandshake now then
        match self.controller.beginTicket ticket sender.publicKey now with
        | (controller, .error _) => { self with controller }
        | (controller, .ok (_, none)) => { self with controller }
        | (controller, .ok (session, some command)) =>
            { self with controller, phase := .preparing session command }
      else
        self

/-- The arm `control_receiver.recv`; a keepalive is answered on the control
socket. -/
def controlArrived
    (self : Node R) (received : ReceivedControl) (now : UInt64) : Node R :=
  match received.message with
  | .ticket ticket => self.ticketArrived received.source ticket now
  | .keepalive _ | .revoke _ _ | .status _ _ _ => self

/-- The arm `shortcut_inbound_receiver.recv`. -/
def inboundArrived (self : Node R) (packet : InboundRelayPacket) : Node R :=
  match packet.channel with
  | .shortcutWireGuard session =>
      { self with
        phase := .sending [.receive session packet.sourceKey packet.payload] }
  | .baseWireGuard | .pathProbe _ _ _ => self

variable [RouteManager R]

/-- The arm `poll.tick`. -/
def pollTicked
    (self : Node R) (snapshot : Snapshot) (now : UInt64)
    (order : List SessionKey) : Option (Node R) :=
  if HashMap.Iterates order self.manager.sessions then
    match self.controller.expire now order with
    | (controller, .error error) =>
        some { controller, currentSnapshot := snapshot, phase := .stopped error }
    | (controller, .ok expired) =>
        some
          { controller
            currentSnapshot := snapshot
            phase := .ofCommands (expired.map .remove) }
  else
    none

/-- The branch of the arm `events.recv` for a rejected event. -/
def eventRejected (self : Node R) (event : DeviceEvent) : Node R :=
  match event with
  | .authenticatedHandshake session =>
      { self with
        controller := (self.controller.fail session).1
        phase := .sending [.remove session] }
  | _ => self

/-- The arm `events.recv`. -/
def eventArrived
    (self : Node R) (event : DeviceEvent) (now : UInt64)
    (order : List SessionKey) : Option (Node R) :=
  match event with
  | .sessionFailed session =>
      some { self with controller := (self.controller.fail session).1 }
  | event =>
      (self.controller.handleDeviceEvent event now order).map fun handled =>
        match handled with
        | (controller, .ok outcome) =>
            { self with
              controller
              phase := .ofCommands (outcome.retired.map .remove) }
        | (controller, .error _) =>
            { self with controller }.eventRejected event

/-- One step of the loop, with the command that it sends. -/
def step (self : Node R) (input : NodeInput) :
    Option (Node R × Option DeviceCommand) :=
  match self.phase, input with
  | .selecting, .poll snapshot now order =>
      (self.pollTicked snapshot now order).map fun next => (next, none)
  | .selecting, .control received now =>
      some (self.controlArrived received now, none)
  | .selecting, .inbound packet => some (self.inboundArrived packet, none)
  | .selecting, .event event now order =>
      (self.eventArrived event now order).map fun next => (next, none)
  | .sending (command :: rest), .sent =>
      some ({ self with phase := .ofCommands rest }, some command)
  | .preparing session command, .sent =>
      some ({ self with phase := .awaiting session }, some command)
  | .awaiting session, .replied result =>
      some
        ({ self with
            controller := (self.controller.finishTicket session result).1
            phase := .selecting },
          none)
  | _, _ => none

end Node

end WgLink
