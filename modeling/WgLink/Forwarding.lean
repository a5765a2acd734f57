import WgLink.Broker
import WgLink.Library.Channel
import WgLink.Relay

/-!
# The forwarding tasks of a station

A station runs, for one generation, a broker for each peer (`run_peer`), the
dispatcher of the shortcut device (`run_dispatcher`), and for each configured
relay a task (`run_relay`) with the packet filter it registers with EasyTier.
The tasks are joined by bounded queues.  A sender that finds a queue full
waits, except in the filter, which drops the packet.  Each event below is one
turn of one task, up to its next wait.
-/

namespace WgLink

open WgLink.Library

/-- `PacketType::Data as u8`. -/
def dataPacketType : UInt8 := 1

/-- `ZCPacket`: the packet type of its header, if it has one, and its
payload. -/
structure ZCPacket where
  packetType : Option UInt8
  payload : Bytes
deriving DecidableEq

/-- A packet that was handed to EasyTier for a peer id. -/
structure Transmission where
  dstPeerId : UInt32
  packet : ZCPacket
deriving DecidableEq

/-- `ZCPacket::new_with_payload` with a filled header. -/
def transmission (dstPeerId : UInt32) (frame : Bytes) : Transmission :=
  ⟨dstPeerId, ⟨some dataPacketType, frame⟩⟩

/-- A packet that a task is sending, the target it waits for, and the targets
it has not tried yet. -/
structure Sending where
  packet : RelayPacket
  target : PathTarget
  rest : List PathTarget

/-- The loop of `run_peer`. -/
structure PeerBroker where
  inbound : Channel 256 Bytes
  sending : Option Sending

/-- The loop of `run_dispatcher`. -/
structure Dispatcher where
  inbound : Channel 256 RelayPacket
  sending : Option Sending

/-- The task of `run_relay`, with the queues it receives from. -/
structure RelayTask where
  outbound : Channel 256 RelayPacket
  probeInbound : Channel 256 InboundRelayPacket
  relay : Relay

/-- What is fixed for a generation: the peers of the snapshot and a target for
each configured relay. -/
structure StationSpec where
  peers : List String
  targets : List PathTarget

/-- The tasks of a generation.  A task that has ended is absent, and so is the
queue it received from. -/
structure Station where
  spec : StationSpec
  paths : HashMap String PathSet
  metrics : MetricsRegistry
  brokers : HashMap String PeerBroker
  dispatcher : Option Dispatcher
  relays : List (Option RelayTask)
  shortcutInbound : Channel 256 InboundRelayPacket

/-- What becomes of a packet, by the frame that carries it. -/
inductive Fate where
  | accepted (parcel : DecodedFrame)
  | injected (parcel : DecodedFrame)
  | duplicated (parcel : DecodedFrame)
  | delivered (parcel : DecodedFrame)
  | dropped (parcel : DecodedFrame)
  | passedOn (parcel : DecodedFrame)
  | probe (event : ProbeEvent)
deriving DecidableEq

/-- The result of a turn. -/
structure Turn where
  station : Station
  sent : List Transmission
  fates : List Fate

/-- The turns of the tasks of a station. -/
inductive StationEvent where
  /-- The broker of a peer reads a datagram from its socket. -/
  | datagram (peer : String) (fromWireguard : Bool) (payload : Bytes)
  /-- The broker of a peer tries the next target. -/
  | forward (peer : String)
  /-- The broker of a peer takes a packet that came in. -/
  | toWireguard (peer : String) (failed : Bool)
  | brokerStops (peer : String)
  /-- The shortcut device sends a packet. -/
  | submit (peerKey : String) (session : SessionKey) (payload : Bytes)
  | dispatch
  | forwardDispatched
  | dispatcherStops
  | refresh (index : Nat) (routes : List Route) (now : Instant)
      (order : List UInt64) (clocks : List PeerClock)
  | sent (index send : Nat) (outcome : Except String (Option String))
      (now : Instant)
  | probe (index : Nat) (now : Instant) (unixNow : UInt64)
  | outbound (index : Nat) (unixNow : UInt64) (error : Option String)
  | relayStops (index : Nat)
  /-- The loop of the generation takes a shortcut packet to the device. -/
  | toDevice
  | select (peer : String) (pathId : Option String)
  /-- Another task writes to the metrics. -/
  | metricsWritten (metrics : MetricsRegistry)

/-! ## The set-up of a generation -/

/-- `path_id` of a relay. -/
def pathId (hash : Hash) (relay : String) : String :=
  "et-" ++ String.ofList ((toHex (hash (asBytes relay)).toList).take 12)

/-- The targets of the configured relays; `scheme` is the protocol of a relay
URL. -/
def pathTargets
    (hash : Hash) (scheme : String → String) (relays : List String) :
    List PathTarget :=
  relays.zipIdx.map fun (relay, index) =>
    { id := pathId hash relay
      label := "relay-" ++ toString (index + 1)
      protocol := scheme relay
      sender := index }

namespace StationSpec

/-- The `RelaySpec` of a relay. -/
def relay (spec : StationSpec) (localKey : String) (target : PathTarget) :
    RelaySpec :=
  ⟨localKey, target.id, spec.peers⟩

end StationSpec

namespace Station

/-- The tasks as `run_generation_inner` starts them. -/
def setUp (spec : StationSpec) (metrics : MetricsRegistry) : Station where
  spec
  paths :=
    HashMap.collect (spec.peers.map fun peer => (peer, ⟨spec.targets, none⟩))
  metrics :=
    (spec.targets.flatMap fun target =>
        spec.peers.map fun peer => (peer, target.id)).foldl
      (fun metrics entry =>
        MetricsRegistry.registerPath metrics entry.1 entry.2)
      metrics
  brokers :=
    HashMap.collect
      (spec.peers.map fun peer => (peer, ⟨Channel.empty 256 Bytes, none⟩))
  dispatcher := some ⟨Channel.empty 256 RelayPacket, none⟩
  relays :=
    spec.targets.map fun _ =>
      some
        ⟨Channel.empty 256 RelayPacket, Channel.empty 256 InboundRelayPacket,
          ⟨∅, ∅, [], 1, metrics⟩⟩
  shortcutInbound := Channel.empty 256 InboundRelayPacket

end Station

/-! ## Frames and the packets they carry -/

/-- The packet of a frame, if it can be decoded. -/
def readable (frame : Bytes) : List DecodedFrame :=
  match decodeFrame frame with
  | .accept decoded => [decoded]
  | _ => []

/-- The packet of a transmission: only data packets are looked at. -/
def Transmission.parcels (transmission : Transmission) : List DecodedFrame :=
  if transmission.packet.packetType = some dataPacketType then
    readable transmission.packet.payload
  else
    []

/-- A packet for a peer, under the key of the station that sends it. -/
def outParcel (localKey : String) (packet : RelayPacket) : DecodedFrame :=
  ⟨localKey, packet.peerKey, packet.channel, packet.payload⟩

/-- A packet from a peer, under the key of the station that received it. -/
def inParcel (localKey : String) (packet : InboundRelayPacket) :
    DecodedFrame :=
  ⟨packet.sourceKey, localKey, packet.channel, packet.payload⟩

/-- A datagram that waits for the broker of a peer. -/
def brokerParcel (localKey peer : String) (payload : Bytes) : DecodedFrame :=
  ⟨peer, localKey, .baseWireGuard, payload⟩

/-- The packets that a broker holds. -/
def PeerBroker.parcels
    (localKey peer : String) (broker : PeerBroker) : List DecodedFrame :=
  broker.inbound.items.map (brokerParcel localKey peer) ++
    broker.sending.toList.map fun sending => outParcel localKey sending.packet

/-- The packets that the dispatcher holds. -/
def Dispatcher.parcels
    (localKey : String) (dispatcher : Dispatcher) : List DecodedFrame :=
  dispatcher.inbound.items.map (outParcel localKey) ++
    dispatcher.sending.toList.map fun sending =>
      outParcel localKey sending.packet

/-- The packets in the queues of a relay task. -/
def RelayTask.parcels
    (localKey : String) (task : RelayTask) : List DecodedFrame :=
  task.outbound.items.map (outParcel localKey) ++
    task.probeInbound.items.map (inParcel localKey)

/-! ## The turns -/

/-- How an attempt to send to a target ends. -/
inductive Attempt where
  | sent (relays : List (Option RelayTask))
  | stopped (next : Option Sending)

/-- One round of the loop over the targets.  It waits while the queue of the
relay is full. -/
def attempt
    (relays : List (Option RelayTask)) (sending : Sending) :
    Option Attempt :=
  match relays[sending.target.sender]? with
  | some (some task) =>
      (task.outbound.send sending.packet).map fun outbound =>
        .sent
          (relays.set sending.target.sender (some { task with outbound }))
  | _ =>
      match sending.rest with
      | [] => some (.stopped none)
      | target :: rest => some (.stopped (some ⟨sending.packet, target, rest⟩))

/-- Start sending to the targets in order; `none` when there are none. -/
def startSending (packet : RelayPacket) : List PathTarget → Option Sending
  | [] => none
  | target :: rest => some ⟨packet, target, rest⟩

namespace Station

variable (hash : Hash) (localKey : String)

def setBroker (station : Station) (peer : String) (broker : PeerBroker) :
    Station :=
  { station with brokers := station.brokers.insert peer broker }

def setRelay (station : Station) (index : Nat) (task : Option RelayTask) :
    Station :=
  { station with relays := station.relays.set index task }

/-- The broker reads a datagram. -/
def datagramRead
    (peer : String) (fromWireguard : Bool) (payload : Bytes)
    (station : Station) : Option Turn :=
  match station.brokers.lookup peer, station.paths.lookup peer with
  | some ⟨inbound, none⟩, some paths =>
      if fromWireguard then
        let packet : RelayPacket := ⟨peer, .baseWireGuard, payload⟩
        let parcel := outParcel localKey packet
        match
          startSending packet
            (orderedHealthyTargets peer paths station.metrics) with
        | none => some ⟨station, [], [.accepted parcel, .dropped parcel]⟩
        | some sending =>
            some
              ⟨station.setBroker peer ⟨inbound, some sending⟩, [],
                [.accepted parcel]⟩
      else
        some ⟨station, [], []⟩
  | _, _ => none

/-- The broker of a peer ends, and what it holds is lost. -/
def endBroker (peer : String) (broker : PeerBroker) (station : Station) :
    Turn :=
  ⟨{ station with brokers := station.brokers.erase peer }, [],
    (broker.parcels localKey peer).map .dropped⟩

/-- The broker tries its next target; it ends when all have stopped. -/
def forward (peer : String) (station : Station) : Option Turn :=
  match station.brokers.lookup peer with
  | some ⟨inbound, some sending⟩ =>
      (attempt station.relays sending).map fun
        | .sent relays =>
            ⟨{ station with relays }.setBroker peer ⟨inbound, none⟩, [], []⟩
        | .stopped (some next) =>
            ⟨station.setBroker peer ⟨inbound, some next⟩, [], []⟩
        | .stopped none =>
            station.endBroker localKey peer ⟨inbound, some sending⟩
  | _ => none

/-- The broker sends a packet to WireGuard; it ends when that fails. -/
def toWireguard (peer : String) (failed : Bool) (station : Station) :
    Option Turn :=
  match station.brokers.lookup peer with
  | some ⟨inbound, none⟩ =>
      inbound.receive.map fun (payload, rest) =>
        if failed then
          station.endBroker localKey peer ⟨inbound, none⟩
        else
          ⟨station.setBroker peer ⟨rest, none⟩, [],
            [.delivered (brokerParcel localKey peer payload)]⟩
  | _ => none

/-- The shortcut device hands a packet to the dispatcher. -/
def submit
    (peerKey : String) (session : SessionKey) (payload : Bytes)
    (station : Station) : Option Turn :=
  station.dispatcher.bind fun dispatcher =>
    let packet : RelayPacket := ⟨peerKey, .shortcutWireGuard session, payload⟩
    (dispatcher.inbound.send packet).map fun inbound =>
      ⟨{ station with dispatcher := some { dispatcher with inbound } }, [],
        [.accepted (outParcel localKey packet)]⟩

/-- The targets of a dispatched packet: those of a configured peer, or the
shared ones. -/
def dispatchTargets (peerKey : String) (station : Station) :
    List PathTarget :=
  match station.paths.lookup peerKey with
  | some paths => orderedHealthyTargets peerKey paths station.metrics
  | none => station.spec.targets

/-- The dispatcher takes a packet. -/
def dispatch (station : Station) : Option Turn :=
  match station.dispatcher with
  | some ⟨inbound, none⟩ =>
      inbound.receive.map fun (packet, rest) =>
        match
          startSending packet
            (station.dispatchTargets packet.peerKey) with
        | none =>
            ⟨{ station with dispatcher := some ⟨rest, none⟩ }, [],
              [.dropped (outParcel localKey packet)]⟩
        | some sending =>
            ⟨{ station with dispatcher := some ⟨rest, some sending⟩ }, [], []⟩
  | _ => none

/-- The dispatcher ends, and what it holds is lost. -/
def endDispatcher (dispatcher : Dispatcher) (station : Station) : Turn :=
  ⟨{ station with dispatcher := none }, [],
    (dispatcher.parcels localKey).map .dropped⟩

/-- The dispatcher tries its next target. -/
def forwardDispatched (station : Station) : Option Turn :=
  match station.dispatcher with
  | some ⟨inbound, some sending⟩ =>
      (attempt station.relays sending).map fun
        | .sent relays =>
            ⟨{ station with relays, dispatcher := some ⟨inbound, none⟩ }, [],
              []⟩
        | .stopped (some next) =>
            ⟨{ station with dispatcher := some ⟨inbound, some next⟩ }, [], []⟩
        | .stopped none =>
            station.endDispatcher localKey ⟨inbound, some sending⟩
  | _ => none

/-- The task and target of a relay that is running. -/
def runningRelay (index : Nat) (station : Station) :
    Option (RelayTask × PathTarget) :=
  match station.relays[index]?, station.spec.targets[index]? with
  | some (some task), some target => some (task, target)
  | _, _ => none

/-- What the send tasks started in a turn transmit.  A task hands its frame to
EasyTier at a time of its own, so the frame counts as sent from the moment the
task is started. -/
def startedSends (before after : Relay) : List Transmission :=
  (after.probeSends.drop before.probeSends.length).map fun send =>
    transmission send.dstPeerId send.frame

/-- One turn of the loop of a relay task; its writes to the metrics go to the
registry that the tasks share. -/
def relayTurn
    (index : Nat) (target : PathTarget) (task : RelayTask)
    (event : RelayEvent) (station : Station) : Option Turn :=
  (Relay.step hash (station.spec.relay localKey target)
      { task.relay with metrics := station.metrics } event).map
    fun (relay, probes) =>
      let sent := startedSends task.relay relay
      ⟨{ station with metrics := relay.metrics }.setRelay index
          (some { task with relay }),
        sent,
        (sent.flatMap Transmission.parcels).map .accepted ++
          probes.map .probe⟩

/-- A turn of the loop that takes nothing from a queue. -/
def relayOnly (index : Nat) (event : RelayEvent) (station : Station) :
    Option Turn :=
  (station.runningRelay index).bind fun (task, target) =>
    station.relayTurn hash localKey index target task event

/-- The relay task takes a probe. -/
def probeTaken
    (index : Nat) (now : Instant) (unixNow : UInt64) (station : Station) :
    Option Turn :=
  (station.runningRelay index).bind fun (task, target) =>
    task.probeInbound.receive.bind fun (packet, probeInbound) =>
      (station.relayTurn hash localKey index target { task with probeInbound }
          (.probe packet now unixNow)).map fun turn =>
        { turn with
          fates :=
            .delivered (inParcel localKey packet) :: turn.fates }

/-- What the outbound arm sends: nothing for an unresolved peer or when the
send fails. -/
def outboundSent
    (relay : Relay) (packet : RelayPacket) (unixNow : UInt64)
    (error : Option String) : List Transmission :=
  match
    resolvePeerId hash relay.peerIdsByHostname packet.peerKey unixNow,
    error with
  | some (_, _, dstPeerId), none =>
      [transmission dstPeerId
        (encodeFrame localKey packet.peerKey packet.channel
          packet.payload)]
  | _, _ => []

/-- The relay task takes a packet to be sent.  An empty payload makes a frame
that no receiver decodes. -/
def outboundTaken
    (index : Nat) (unixNow : UInt64) (error : Option String)
    (station : Station) : Option Turn :=
  (station.runningRelay index).bind fun (task, target) =>
    task.outbound.receive.bind fun (packet, outbound) =>
      (station.relayTurn hash localKey index target { task with outbound }
          (.outbound packet unixNow error)).map fun turn =>
        let sent := outboundSent hash localKey task.relay packet unixNow error
        { turn with
          sent
          fates :=
            if sent.flatMap Transmission.parcels = [] then
              [.dropped (outParcel localKey packet)]
            else
              [] }

/-- A relay task ends, and what is in its queues is lost. -/
def relayStopped (index : Nat) (station : Station) : Option Turn :=
  (station.runningRelay index).map fun (task, _) =>
    ⟨station.setRelay index none, [],
      (task.parcels localKey).map .dropped⟩

/-- The queue of the broker of a peer gets a datagram, unless the broker is
busy or gone. -/
def trySendBroker (frame : DecodedFrame) (station : Station) :
    Station × List Fate :=
  match station.brokers.lookup frame.source with
  | none => (station, [.dropped frame])
  | some broker =>
      match broker.inbound.send frame.payload with
      | none => (station, [.dropped frame])
      | some inbound =>
          (station.setBroker frame.source { broker with inbound }, [])

/-- `WgPacketFilter::try_process_packet_from_peer`: the packet is given back
unless it is for this station. -/
def tryProcessPacketFromPeer
    (index : Nat) (target : PathTarget) (task : RelayTask)
    (packet : ZCPacket) (station : Station) :
    Station × Option ZCPacket × List Fate :=
  if packet.packetType ≠ some dataPacketType then
    (station, some packet, [])
  else
    match decodeFrame packet.payload with
    | .accept frame =>
        if frame.target ≠ localKey then
          (station, some packet, [])
        else
          let inbound : InboundRelayPacket :=
            ⟨frame.source, frame.channel, frame.payload⟩
          match frame.channel with
          | .baseWireGuard =>
              if frame.source ∈ station.spec.peers then
                let (station, fates) :=
                  { station with
                    metrics :=
                      MetricsRegistry.recordRx station.metrics frame.source
                        target.id frame.payload.length
                  }.trySendBroker frame
                (station, none, fates)
              else
                (station, some packet, [])
          | .shortcutWireGuard _ =>
              match station.shortcutInbound.send inbound with
              | none => (station, none, [.dropped frame])
              | some shortcutInbound =>
                  ({ station with shortcutInbound }, none, [])
          | .pathProbe _ _ _ =>
              match task.probeInbound.send inbound with
              | none => (station, none, [.dropped frame])
              | some probeInbound =>
                  (station.setRelay index (some { task with probeInbound }),
                    none, [])
    | _ => (station, some packet, [])

/-- EasyTier goes on with a packet that the filter gives back. -/
def received (index : Nat) (packet : ZCPacket) (station : Station) :
    Option Turn :=
  (station.runningRelay index).map fun (task, target) =>
    match
      station.tryProcessPacketFromPeer localKey index target task packet with
    | (station, none, fates) => ⟨station, [], fates⟩
    | (station, some packet, _) =>
        ⟨station, [], (Transmission.parcels ⟨0, packet⟩).map .passedOn⟩

/-- The loop of the generation takes a shortcut packet. -/
def toDevice (station : Station) : Option Turn :=
  station.shortcutInbound.receive.map fun (packet, shortcutInbound) =>
    ⟨{ station with shortcutInbound }, [],
      [.delivered (inParcel localKey packet)]⟩

/-- The console selects a path of a peer. -/
def selectPath (peer : String) (pathId : Option String) (station : Station) :
    Option Turn :=
  (station.paths.lookup peer).map fun paths =>
    ⟨{ station with
        paths := station.paths.insert peer (paths.select pathId).1 }, [], []⟩

/-- One turn of one task. -/
def step (station : Station) : StationEvent → Option Turn
  | .datagram peer fromWireguard payload =>
      station.datagramRead localKey peer fromWireguard payload
  | .forward peer => station.forward localKey peer
  | .toWireguard peer failed => station.toWireguard localKey peer failed
  | .brokerStops peer =>
      (station.brokers.lookup peer).map fun broker =>
        station.endBroker localKey peer broker
  | .submit peerKey session payload =>
      station.submit localKey peerKey session payload
  | .dispatch => station.dispatch localKey
  | .forwardDispatched => station.forwardDispatched localKey
  | .dispatcherStops =>
      station.dispatcher.map fun dispatcher =>
        station.endDispatcher localKey dispatcher
  | .refresh index routes now order clocks =>
      station.relayOnly hash localKey index (.refresh routes now order clocks)
  | .sent index send outcome now =>
      station.relayOnly hash localKey index (.sent send outcome now)
  | .probe index now unixNow => station.probeTaken hash localKey index now unixNow
  | .outbound index unixNow error =>
      station.outboundTaken hash localKey index unixNow error
  | .relayStops index => station.relayStopped localKey index
  | .toDevice => station.toDevice localKey
  | .select peer pathId => station.selectPath peer pathId
  | .metricsWritten metrics => some ⟨{ station with metrics }, [], []⟩

end Station

end WgLink
