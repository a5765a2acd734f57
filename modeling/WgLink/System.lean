import WgLink.Library.Channel
import WgLink.NodeRuns
import WgLink.Shortcut.RuleTargets

/-!
# The controller and the device

The message loop and the device task, joined by the command queue and the event
queue of `device::start`.  The userspace table is shared: the device looks
routes up in the table that the route manager writes.  Arrivals wait in queues
of their own, and the loop takes the first ready arm of its biased `select!`.
-/

namespace WgLink

open WgLink.Library

/-- The capacity of every queue. -/
def queueCapacity : Nat := 256

/-- One node, with a policy `P`. -/
structure System (P : Type) where
  node : Node (AtomicRouteManager DeviceRoutes P)
  device : DeviceTask
  commands : Channel queueCapacity DeviceCommand
  events : Channel queueCapacity DeviceEvent
  reply : Option (Except String Unit)
  pollReady : Bool
  control : Channel queueCapacity ReceivedControl
  inbound : Channel queueCapacity InboundRelayPacket

/-- What happens next: an arrival, a step of the loop or a step of the device,
with everything that the step leaves open. -/
inductive SystemInput where
  | pollTick
  | controlArrives (received : ReceivedControl)
  | inboundArrives (packet : InboundRelayPacket)
  | select (snapshot : Snapshot) (now : UInt64) (order : List SessionKey)
  | send
  | takeReply
  | tunPacket (packet : Bytes) (order : List IpNet)
      (results : List TunnResult)
  | takeCommand (results : List TunnResult)
  | timerTick (order : List SessionKey)
  | act (results : List TunnResult) (accepted : Bool)
deriving DecidableEq

namespace System

variable {P : Type}

/-- The state at the start of a generation. -/
def new
    (localPublicKey : String) (policy : P) (snapshot : Snapshot) :
    System P :=
  { node := .new localPublicKey (.new .default policy) snapshot
    device := .new
    commands := .empty _ _
    events := .empty _ _
    reply := none
    pollReady := false
    control := .empty _ _
    inbound := .empty _ _ }

/-- The userspace table that both sides see. -/
def routes (self : System P) : DeviceRoutes :=
  self.node.manager.routes.userspace

/-- The first ready arm of the loop's `select!`, and the queues without what it
takes. -/
def ready
    (self : System P) (snapshot : Snapshot) (now : UInt64)
    (order : List SessionKey) : Option (NodeInput × System P) :=
  if self.pollReady then
    some (.poll snapshot now order, { self with pollReady := false })
  else
    match self.control.receive with
    | some (received, control) =>
        some (.control received now, { self with control })
    | none =>
        match self.inbound.receive with
        | some (packet, inbound) =>
            some (.inbound packet, { self with inbound })
        | none =>
            match self.events.receive with
            | some (event, events) =>
                some (.event event now order, { self with events })
            | none => none

/-- The device takes an effect out of its task. -/
def emit
    (self : System P) (device : DeviceTask)
    (effect : DeviceTask.DeviceEffect) :
    Option (System P × Option RelayPacket) :=
  match effect with
  | .silent => some ({ self with device }, none)
  | .event event =>
      (self.events.send event).map fun events =>
        ({ self with device, events }, none)
  | .packet packet => some ({ self with device }, some packet)
  | .reply result => some ({ self with device, reply := some result }, none)

variable [PolicyRules P]

/-- One step, with the packet that it hands to the outer transport. -/
def step (self : System P) :
    SystemInput → Option (System P × Option RelayPacket)
  | .pollTick => some ({ self with pollReady := true }, none)
  | .controlArrives received =>
      (self.control.send received).map fun control =>
        ({ self with control }, none)
  | .inboundArrives packet =>
      (self.inbound.send packet).map fun inbound =>
        ({ self with inbound }, none)
  | .select snapshot now order =>
      match self.ready snapshot now order with
      | none => none
      | some (input, popped) =>
          (popped.node.step input).map fun (node, _) =>
            ({ popped with node }, none)
  | .send =>
      match self.node.step .sent with
      | some (node, some command) =>
          (self.commands.send command).map fun commands =>
            ({ self with node, commands }, none)
      | _ => none
  | .takeReply =>
      match self.reply with
      | none => none
      | some result =>
          (self.node.step (.replied result)).map fun (node, _) =>
            ({ self with node, reply := none }, none)
  | .tunPacket packet order results =>
      if self.device.pending.isEmpty ∧
          HashMap.Iterates order self.routes.routes then
        (self.device.tunPacket self.routes order packet results).map
          fun device => ({ self with device }, none)
      else
        none
  | .takeCommand results =>
      if self.device.pending.isEmpty then
        match self.commands.receive with
        | none => none
        | some (command, commands) =>
            (self.device.takeCommand command results).map fun device =>
              ({ self with device, commands }, none)
      else
        none
  | .timerTick order =>
      if self.device.pending.isEmpty then
        (self.device.timerTick order).map fun device =>
          ({ self with device }, none)
      else
        none
  | .act results accepted =>
      match self.device.act results accepted with
      | none => none
      | some (device, effect) => self.emit device effect

end System

end WgLink
