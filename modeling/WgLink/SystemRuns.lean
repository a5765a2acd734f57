import WgLink.System

/-!
# Turns of the system

`DeviceTask.Turn` lists what one step of the device can do, and `System.Turn`
what one step of the whole system can do.  The queues appear in it by what they
hold before and after the step.
-/

namespace WgLink

open WgLink.Library

namespace DeviceTask

/-- Actions that end without any effect. -/
def Spent (self : DeviceTask) : DeviceAction → Prop
  | .transmit _ _ packets => packets = []
  | .inject _ => True
  | .tend session => self.sessions.lookup session = none
  | .emit _ | .initiate _ _ _ | .reply _ => False

/-- The places from which a session is served: a packet from the TUN device, or
a timer tick. -/
def Serves
    (self : DeviceTask) (session : SessionKey) (rest : List DeviceAction) :
    Prop :=
  (self.pending = [] ∧ rest = []) ∨ self.pending = .tend session :: rest

/-- What one step of the device can do, with the command it takes. -/
inductive Turn (self : DeviceTask) :
    Option DeviceCommand → DeviceTask → DeviceEffect → Prop
  | ignored (session : SessionKey) (source : String) (datagram : Bytes) :
      self.pending = [] →
      Turn self (some (.receive session source datagram)) self .silent
  | unrouted :
      self.pending = [] →
      Turn self none self .silent
  | missing (destination : IpAddr) :
      self.pending = [] →
      Turn self none
        { self with pending := [.emit (.missingRoute destination)] } .silent
  | served (session : SessionKey) (peerKey : String) (packets : List Bytes)
      (rest : List DeviceAction) :
      self.Serves session rest →
      Turn self none
        { self with pending := .transmit session peerKey packets :: rest }
        .silent
  | failed (session : SessionKey) (rest : List DeviceAction) :
      (self.Serves session rest ∧ self.sessions.lookup session ≠ none) ∨
        (∃ peerKey packets,
          self.pending = .transmit session peerKey packets :: rest) →
      Turn self none (self.failSession session rest) .silent
  | preparing (session : SessionKey) (remotePublicKey : String)
      (packets : List Bytes) :
      self.pending = [] →
      Turn self (some (.prepare session remotePublicKey))
        { self with
          pending := [.initiate session ⟨remotePublicKey, false⟩ packets] }
        .silent
  | unprepared (session : SessionKey) (remotePublicKey error : String) :
      self.pending = [] →
      Turn self (some (.prepare session remotePublicKey))
        { self with pending := [.reply (.error error)] } .silent
  | received (session : SessionKey) (source : String) (datagram : Bytes)
      (results : List TunnResult) (runtime : SessionRuntime)
      (output : TunnelOutput) :
      self.pending = [] →
      self.sessions.lookup session = some runtime →
      ShortcutTunnel.receive datagram results = some (.ok output) →
      Turn self (some (.receive session source datagram))
        (self.received session runtime output) .silent
  | removed (session : SessionKey) :
      self.pending = [] →
      Turn self (some (.remove session))
        { self with sessions := self.sessions.erase session } .silent
  | ticked (order : List SessionKey) :
      self.pending = [] →
      HashMap.Iterates order self.sessions →
      Turn self none { self with pending := order.map .tend } .silent
  | emitted (event : DeviceEvent) (rest : List DeviceAction) :
      self.pending = .emit event :: rest →
      Turn self none { self with pending := rest } (.event event)
  | dropped (action : DeviceAction) (rest : List DeviceAction) :
      self.pending = action :: rest →
      self.Spent action →
      Turn self none { self with pending := rest } .silent
  | transmitted (session : SessionKey) (peerKey : String) (packet : Bytes)
      (packets : List Bytes) (rest : List DeviceAction) :
      self.pending = .transmit session peerKey (packet :: packets) :: rest →
      Turn self none
        { self with pending := .transmit session peerKey packets :: rest }
        (.packet ⟨peerKey, .shortcutWireGuard session, packet⟩)
  | initiated (session : SessionKey) (runtime : SessionRuntime)
      (packet : Bytes) (packets : List Bytes) (rest : List DeviceAction) :
      self.pending = .initiate session runtime (packet :: packets) :: rest →
      Turn self none
        { self with pending := .initiate session runtime packets :: rest }
        (.packet
          ⟨runtime.remotePublicKey, .shortcutWireGuard session, packet⟩)
  | inserted (session : SessionKey) (runtime : SessionRuntime)
      (rest : List DeviceAction) :
      self.pending = .initiate session runtime [] :: rest →
      Turn self none
        { sessions := self.sessions.insert session runtime
          pending :=
            .emit (.handshakeStarted session) :: .reply (.ok ()) :: rest }
        .silent
  | refused (session : SessionKey) (runtime : SessionRuntime)
      (packets : List Bytes) (rest : List DeviceAction) :
      self.pending = .initiate session runtime packets :: rest →
      Turn self none
        { self with pending := .reply (.error transportStopped) :: rest }
        .silent
  | replied (result : Except String Unit) (rest : List DeviceAction) :
      self.pending = .reply result :: rest →
      Turn self none { self with pending := rest } (.reply result)

theorem afterTunnel_turn
    {self : DeviceTask} {session : SessionKey} {runtime : SessionRuntime}
    (present : self.sessions.lookup session = some runtime)
    {rest : List DeviceAction} (serves : self.Serves session rest)
    (result : Except String TunnelOutput) :
    self.Turn none (self.afterTunnel session runtime result rest)
      .silent := by
  cases result with
  | ok output =>
      exact .served session runtime.remotePublicKey output.networkPackets
        rest serves
  | error error =>
      have held : self.sessions.lookup session ≠ none := by
        simp [present]
      exact .failed session rest (Or.inl ⟨serves, held⟩)

theorem tunPacket_turn
    {self next : DeviceTask} (idle : self.pending = [])
    {routes : DeviceRoutes} {order : List IpNet} {inner : Bytes}
    {results : List TunnResult}
    (taken : self.tunPacket routes order inner results = some next) :
    self.Turn none next .silent := by
  unfold tunPacket at taken
  split at taken
  · cases taken
    exact .unrouted idle
  · rename_i source destination _
    split at taken
    · cases taken
      exact .missing destination idle
    · rename_i target _
      split at taken
      · cases taken
        exact .unrouted idle
      · rename_i runtime present
        obtain ⟨result, _, rfl⟩ := Option.map_eq_some_iff.mp taken
        exact afterTunnel_turn present (Or.inl ⟨idle, rfl⟩) result

theorem takeCommand_turn
    {self next : DeviceTask} (idle : self.pending = [])
    {command : DeviceCommand} {results : List TunnResult}
    (taken : self.takeCommand command results = some next) :
    self.Turn (some command) next .silent := by
  cases command with
  | prepare session remotePublicKey =>
      obtain ⟨result, _, rfl⟩ := Option.map_eq_some_iff.mp taken
      cases result with
      | ok output =>
          exact .preparing session remotePublicKey output.networkPackets idle
      | error error =>
          exact .unprepared session remotePublicKey error idle
  | receive session source datagram =>
      simp only [takeCommand] at taken
      split at taken
      · cases taken
        exact .ignored session source datagram idle
      · rename_i runtime present
        split at taken
        · cases taken
          exact .ignored session source datagram idle
        · obtain ⟨result, answered, rfl⟩ := Option.map_eq_some_iff.mp taken
          cases result with
          | ok output =>
              exact .received session source datagram results runtime output
                idle present answered
          | error error =>
              exact .ignored session source datagram idle
  | remove session =>
      cases taken
      exact .removed session idle

theorem timerTick_turn
    {self next : DeviceTask} (idle : self.pending = [])
    {order : List SessionKey} (taken : self.timerTick order = some next) :
    self.Turn none next .silent := by
  unfold timerTick at taken
  split at taken
  · rename_i iterates
    cases taken
    exact .ticked order idle iterates
  · cases taken

theorem act_turn
    {self next : DeviceTask} {results : List TunnResult} {accepted : Bool}
    {effect : DeviceEffect}
    (taken : self.act results accepted = some (next, effect)) :
    self.Turn none next effect := by
  unfold act at taken
  split at taken
  · cases taken
  · rename_i event rest first
    cases taken
    exact .emitted event rest first
  · rename_i session peerKey rest first
    cases taken
    exact .dropped _ rest first rfl
  · rename_i session peerKey packet packets rest first
    split at taken
    · cases taken
      exact .transmitted session peerKey packet packets rest first
    · cases taken
      exact .failed session rest (Or.inr ⟨peerKey, _, first⟩)
  · rename_i session runtime rest first
    cases taken
    exact .inserted session runtime rest first
  · rename_i session runtime packet packets rest first
    split at taken
    · cases taken
      exact .initiated session runtime packet packets rest first
    · cases taken
      exact .refused session runtime _ rest first
  · rename_i packet rest first
    cases taken
    exact .dropped _ rest first trivial
  · rename_i session rest first
    split at taken
    · rename_i absent
      cases taken
      exact .dropped _ rest first absent
    · rename_i runtime present
      obtain ⟨result, _, same⟩ := Option.map_eq_some_iff.mp taken
      cases same
      exact afterTunnel_turn present (Or.inr first) result
  · rename_i result rest first
    cases taken
    exact .replied result rest first

/-- The events that an effect sends. -/
def DeviceEffect.events : DeviceEffect → List DeviceEvent
  | .event sent => [sent]
  | .silent | .packet _ | .reply _ => []

/-- The packet that an effect hands to the outer transport. -/
def DeviceEffect.packet? : DeviceEffect → Option RelayPacket
  | .packet handed => some handed
  | .silent | .event _ | .reply _ => none

/-- The reply slot after an effect. -/
def DeviceEffect.answer
    (effect : DeviceEffect) (earlier : Option (Except String Unit)) :
    Option (Except String Unit) :=
  match effect with
  | .reply result => some result
  | .silent | .event _ | .packet _ => earlier

end DeviceTask

/-! ## The whole system -/

namespace System

variable {P : Type}

/-- The events that an input takes out of the event queue. -/
def takenEvents : NodeInput → List DeviceEvent
  | .event event _ _ => [event]
  | .poll _ _ _ | .control _ _ | .inbound _ | .sent | .replied _ => []

/-- The inputs in which the device takes up something new. -/
def TakesUp : SystemInput → Prop
  | .tunPacket _ _ _ | .takeCommand _ | .timerTick _ => True
  | .pollTick | .controlArrives _ | .inboundArrives _ | .select _ _ _ | .send
  | .takeReply | .act _ _ => False

/-- The arms of the loop leave the device and its queues alone. -/
theorem ready_cases
    {self popped : System P} {arm : NodeInput}
    {snapshot : Snapshot} {now : UInt64} {order : List SessionKey}
    (chosen : self.ready snapshot now order = some (arm, popped)) :
    popped.node = self.node ∧
      popped.device = self.device ∧
      popped.commands = self.commands ∧
      self.events.items = takenEvents arm ++ popped.events.items ∧
      popped.reply = self.reply ∧
      arm ≠ .sent ∧
      ∀ result, arm ≠ .replied result := by
  unfold ready at chosen
  split at chosen
  · cases chosen
    simp [takenEvents]
  · split at chosen
    · cases chosen
      simp [takenEvents]
    · split at chosen
      · cases chosen
        simp [takenEvents]
      · split at chosen
        · rename_i event events taken
          cases chosen
          have items := Channel.items_of_receive taken
          simp [takenEvents, items]
        · cases chosen

/-- A control message that the loop takes was waiting for it. -/
theorem control_of_ready
    {self popped : System P} {received : ReceivedControl}
    {snapshot : Snapshot} {now receivedAt : UInt64} {order : List SessionKey}
    (chosen :
      self.ready snapshot now order =
        some (.control received receivedAt, popped)) :
    self.control.items = received :: popped.control.items := by
  unfold ready at chosen
  split at chosen
  · cases chosen
  · split at chosen
    · rename_i taken
      cases chosen
      exact Channel.items_of_receive taken
    · split at chosen
      · cases chosen
      · split at chosen
        · cases chosen
        · cases chosen

variable [PolicyRules P]

/-- What one step of the system can do. -/
inductive Turn (self : System P) (input : SystemInput) (next : System P) :
    Option RelayPacket → Prop
  /-- Something arrives for the loop. -/
  | arrived :
      next.node = self.node →
      next.device = self.device →
      next.commands = self.commands →
      next.events = self.events →
      next.reply = self.reply →
      Turn self input next none
  /-- The loop takes an arm. -/
  | selected (snapshot : Snapshot) (now : UInt64) (order : List SessionKey)
      (arm : NodeInput) (popped : System P) :
      input = .select snapshot now order →
      self.ready snapshot now order = some (arm, popped) →
      self.node.Turn arm next.node none →
      next.device = self.device →
      next.commands = self.commands →
      self.events.items = takenEvents arm ++ next.events.items →
      next.reply = self.reply →
      Turn self input next none
  /-- A command of the loop goes into the queue. -/
  | sent (command : DeviceCommand) :
      self.node.Turn .sent next.node (some command) →
      next.device = self.device →
      next.commands.items = self.commands.items ++ [command] →
      next.events = self.events →
      next.reply = self.reply →
      Turn self input next none
  /-- The response of `prepare` arrives. -/
  | answered (result : Except String Unit) :
      self.reply = some result →
      self.node.Turn (.replied result) next.node none →
      next.device = self.device →
      next.commands = self.commands →
      next.events = self.events →
      next.reply = none →
      Turn self input next none
  /-- The device goes on. -/
  | served (command : Option DeviceCommand)
      (effect : DeviceTask.DeviceEffect) :
      TakesUp input ∨ self.device.pending ≠ [] →
      next.node = self.node →
      self.device.Turn command next.device effect →
      self.commands.items = command.toList ++ next.commands.items →
      next.events.items = self.events.items ++ effect.events →
      next.reply = effect.answer self.reply →
      Turn self input next effect.packet?

/-- A turn of the loop that sends nothing has no command for the queue. -/
theorem output_of_arm
    {self next : Node (AtomicRouteManager DeviceRoutes P)} {arm : NodeInput}
    {output : Option DeviceCommand}
    (turn : self.Turn arm next output) (notSent : arm ≠ .sent) :
    output = none := by
  cases turn with
  | sent => exact absurd rfl notSent
  | sentPrepare => exact absurd rfl notSent
  | _ => rfl

theorem select_turn
    {self next : System P} {output : Option RelayPacket}
    {snapshot : Snapshot} {now : UInt64} {order : List SessionKey}
    (taken : self.step (.select snapshot now order) = some (next, output)) :
    self.Turn (.select snapshot now order) next output := by
  simp only [step] at taken
  split at taken
  · cases taken
  · rename_i arm popped chosen
    obtain ⟨⟨node, command⟩, stepped, same⟩ :=
      Option.map_eq_some_iff.mp taken
    cases same
    obtain ⟨sameNode, sameDevice, sameCommands, events, sameReply, notSent,
      _⟩ := ready_cases chosen
    rw [sameNode] at stepped
    have turn := Node.turn_of_step stepped
    rw [output_of_arm turn notSent] at turn
    exact .selected snapshot now order arm popped rfl chosen turn sameDevice
      sameCommands events sameReply

theorem send_turn
    {self next : System P} {output : Option RelayPacket}
    (taken : self.step .send = some (next, output)) :
    self.Turn .send next output := by
  simp only [step] at taken
  split at taken
  · rename_i node command stepped
    obtain ⟨commands, accepted, same⟩ := Option.map_eq_some_iff.mp taken
    cases same
    exact .sent command (Node.turn_of_step stepped) rfl
      (Channel.items_of_send accepted) rfl rfl
  · cases taken

theorem takeReply_turn
    {self next : System P} {output : Option RelayPacket}
    (taken : self.step .takeReply = some (next, output)) :
    self.Turn .takeReply next output := by
  simp only [step] at taken
  split at taken
  · cases taken
  · rename_i result present
    obtain ⟨⟨node, command⟩, stepped, same⟩ :=
      Option.map_eq_some_iff.mp taken
    cases same
    have turn := Node.turn_of_step stepped
    rw [output_of_arm turn (by simp)] at turn
    exact .answered result present turn rfl rfl rfl rfl

theorem act_turn
    {self next : System P} {output : Option RelayPacket}
    {results : List TunnResult} {accepted : Bool}
    (taken : self.step (.act results accepted) = some (next, output)) :
    self.Turn (.act results accepted) next output := by
  simp only [step] at taken
  split at taken
  · cases taken
  · rename_i device effect acted
    have turn := DeviceTask.act_turn acted
    have busy : self.device.pending ≠ [] := by
      intro idle
      simp [DeviceTask.act, idle] at acted
    cases effect with
    | silent =>
        cases taken
        exact .served none .silent (Or.inr busy) rfl turn rfl
          (List.append_nil _).symm rfl
    | event event =>
        obtain ⟨events, sent, same⟩ := Option.map_eq_some_iff.mp taken
        cases same
        exact .served none (.event event) (Or.inr busy) rfl turn rfl
          (Channel.items_of_send sent) rfl
    | packet packet =>
        cases taken
        exact .served none (.packet packet) (Or.inr busy) rfl turn rfl
          (List.append_nil _).symm rfl
    | reply result =>
        cases taken
        exact .served none (.reply result) (Or.inr busy) rfl turn rfl
          (List.append_nil _).symm rfl

theorem tunPacket_step
    {self next : System P} {output : Option RelayPacket}
    {packet : Bytes} {order : List IpNet} {results : List TunnResult}
    (taken :
      self.step (.tunPacket packet order results) = some (next, output)) :
    ∃ device,
      self.device.pending = [] ∧
        self.device.tunPacket self.routes order packet results =
          some device ∧
        next = { self with device } ∧
        output = none := by
  simp only [step] at taken
  split at taken
  · rename_i free
    obtain ⟨device, served, same⟩ := Option.map_eq_some_iff.mp taken
    cases same
    exact ⟨device, List.isEmpty_iff.mp free.1, served, rfl, rfl⟩
  · cases taken

theorem takeCommand_step
    {self next : System P} {output : Option RelayPacket}
    {results : List TunnResult}
    (taken : self.step (.takeCommand results) = some (next, output)) :
    ∃ command commands device,
      self.device.pending = [] ∧
        self.commands.items = command :: commands.items ∧
        self.device.takeCommand command results = some device ∧
        next = { self with device, commands } ∧
        output = none := by
  simp only [step] at taken
  split at taken
  · rename_i free
    split at taken
    · cases taken
    · rename_i command commands received
      obtain ⟨device, served, same⟩ := Option.map_eq_some_iff.mp taken
      cases same
      exact ⟨command, commands, device, List.isEmpty_iff.mp free,
        Channel.items_of_receive received, served, rfl, rfl⟩
  · cases taken

theorem timerTick_step
    {self next : System P} {output : Option RelayPacket}
    {order : List SessionKey}
    (taken : self.step (.timerTick order) = some (next, output)) :
    ∃ device,
      self.device.pending = [] ∧
        self.device.timerTick order = some device ∧
        next = { self with device } ∧
        output = none := by
  simp only [step] at taken
  split at taken
  · rename_i free
    obtain ⟨device, served, same⟩ := Option.map_eq_some_iff.mp taken
    cases same
    exact ⟨device, List.isEmpty_iff.mp free, served, rfl, rfl⟩
  · cases taken

theorem turn_of_step
    {self next : System P} {input : SystemInput}
    {output : Option RelayPacket}
    (taken : self.step input = some (next, output)) :
    self.Turn input next output := by
  cases input with
  | pollTick =>
      cases taken
      exact .arrived rfl rfl rfl rfl rfl
  | controlArrives received =>
      obtain ⟨control, _, same⟩ := Option.map_eq_some_iff.mp taken
      cases same
      exact .arrived rfl rfl rfl rfl rfl
  | inboundArrives packet =>
      obtain ⟨inbound, _, same⟩ := Option.map_eq_some_iff.mp taken
      cases same
      exact .arrived rfl rfl rfl rfl rfl
  | select snapshot now order =>
      exact select_turn taken
  | send =>
      exact send_turn taken
  | takeReply =>
      exact takeReply_turn taken
  | tunPacket packet order results =>
      obtain ⟨device, idle, served, rfl, rfl⟩ := tunPacket_step taken
      have turn := DeviceTask.tunPacket_turn idle served
      exact .served none .silent (Or.inl trivial) rfl turn rfl
        (List.append_nil _).symm rfl
  | takeCommand results =>
      obtain ⟨command, commands, device, idle, queue, served, rfl, rfl⟩ :=
        takeCommand_step taken
      have turn := DeviceTask.takeCommand_turn idle served
      exact .served (some command) .silent (Or.inl trivial) rfl turn queue
        (List.append_nil _).symm rfl
  | timerTick order =>
      obtain ⟨device, idle, served, rfl, rfl⟩ := timerTick_step taken
      have turn := DeviceTask.timerTick_turn idle served
      exact .served none .silent (Or.inl trivial) rfl turn rfl
        (List.append_nil _).symm rfl
  | act results accepted =>
      exact act_turn taken

/-- A step is one of the device, or it leaves the device alone and adds no
event. -/
theorem Turn.cases_device
    {self next : System P} {input : SystemInput}
    {output : Option RelayPacket}
    (turn : self.Turn input next output) :
    (next.device = self.device ∧
      ∀ event ∈ next.events.items, event ∈ self.events.items) ∨
    ∃ command effect,
      next.node = self.node ∧
      self.device.Turn command next.device effect ∧
      self.commands.items = command.toList ++ next.commands.items ∧
      next.events.items = self.events.items ++ effect.events := by
  cases turn with
  | arrived sameNode sameDevice sameCommands sameEvents =>
      refine Or.inl ⟨sameDevice, ?_⟩
      rw [sameEvents]
      exact fun _ member => member
  | selected snapshot now order arm popped isSelect chosen nodeTurn
      sameDevice sameCommands events =>
      refine Or.inl ⟨sameDevice, ?_⟩
      rw [events]
      exact fun _ member => List.mem_append_right _ member
  | sent command nodeTurn sameDevice queued sameEvents =>
      refine Or.inl ⟨sameDevice, ?_⟩
      rw [sameEvents]
      exact fun _ member => member
  | answered result replied nodeTurn sameDevice sameCommands sameEvents =>
      refine Or.inl ⟨sameDevice, ?_⟩
      rw [sameEvents]
      exact fun _ member => member
  | served command effect origin sameNode deviceTurn taken events =>
      exact Or.inr ⟨command, effect, sameNode, deviceTurn, taken, events⟩

/-- The steps of system runs. -/
abbrev SystemRecord (P : Type) :=
  Record (System P) SystemInput (Option RelayPacket)

variable [LawfulPolicyRules P]

/-- The machine of the system, started without policy rules. -/
def machine : Machine (System P) SystemInput (Option RelayPacket) where
  start system :=
    ∃ localPublicKey policy snapshot,
      LawfulPolicyRules.rules policy = ∅ ∧
      system = new localPublicKey policy snapshot
  step := step

theorem turn_of_takes
    {record : SystemRecord P} (taken : machine.Takes record) :
    record.before.Turn record.input record.after record.output :=
  turn_of_step taken

/-- A node with one peer and a policy that never fails. -/
def testSystem : System AtomicRouteManager.MockPolicy :=
  new "recipient" ⟨∅, []⟩ ⟨"recipient", [testPeer]⟩

theorem testSystem_starts : machine.start testSystem :=
  ⟨_, _, _, rfl, rfl⟩

end System

end WgLink
