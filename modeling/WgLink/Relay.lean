import WgLink.Identity
import WgLink.Library.Emit
import WgLink.Library.Machine
import WgLink.Metrics
import WgLink.RelayFrame

/-!
# The event loop of a relay path

`run_relay` of `easytier.rs` as a machine: one step for each turn of its
`select!`.  The routes, the completions of sends and a reading of the
monotonic clock are part of the labels.  The registry of metrics is shared with
other tasks, whose writes are steps of their own.  The output of a step is what
became of the probes it touched.
-/

namespace WgLink

open WgLink.Library

/-- `MAX_IN_FLIGHT_PROBE_SENDS`. -/
def maxInFlightProbeSends : Nat := 8

/-- The parts of `RelaySpec` that the loop reads; a peer is its public key. -/
structure RelaySpec where
  localPublicKey : String
  pathId : String
  peers : List String

/-- A row of the routing table of EasyTier. -/
structure Route where
  hostname : String
  peerId : UInt32
  pathLatency : Int

/-- A task of the set `probe_sends`: the frame, its destination, and the nonce
and peer of the probe unless it is a response. -/
structure ProbeSend where
  frame : Bytes
  dstPeerId : UInt32
  request : Option (UInt64 × String)

/-- The local variables of `run_relay`. -/
structure Relay where
  peerIdsByHostname : HashMap String UInt32
  pendingProbes : HashMap UInt64 (String × Instant)
  probeSends : List ProbeSend
  nextProbeNonce : UInt64
  metrics : MetricsRegistry

/-- What became of a probe: it was queued, it was refused and recorded as
lost, or its outcome was recorded after it had been pending. -/
inductive ProbeEvent where
  | accepted (nonce : UInt64) (peerKey : String)
  | refused (nonce : UInt64) (peerKey : String)
  | recorded (nonce : UInt64) (peerKey : String) (rtt : Option Duration)
deriving DecidableEq

/-- The readings of `unix_now` and `unix_micros` for one peer. -/
structure PeerClock where
  unixNow : UInt64
  unixMicros : UInt64

/-- The turns of the loop, and the writes of other tasks to the metrics. -/
inductive RelayEvent where
  | refresh (routes : List Route) (now : Instant) (order : List UInt64)
      (clocks : List PeerClock)
  | sent (index : Nat) (outcome : Except String (Option String))
      (now : Instant)
  | probe (packet : InboundRelayPacket) (now : Instant) (unixNow : UInt64)
  | outbound (packet : RelayPacket) (unixNow : UInt64)
      (error : Option String)
  | elsewhere (metrics : MetricsRegistry)

/-- `resolve_peer_id`. -/
def resolvePeerId
    (hash : Hash) (peerIdsByHostname : HashMap String UInt32)
    (peerKey : String) (unixSeconds : UInt64) :
    Option (UInt64 × String × UInt32) :=
  (activePeerIdPeriods unixSeconds).findSome? fun period =>
    let hostname := rotatingNodeName hash peerKey period
    (peerIdsByHostname.lookup hostname).map fun peerId =>
      (period, hostname, peerId)

/-- `queue_probe_send`. -/
def queueProbeSend
    (sends : List ProbeSend) (frame : Bytes) (dstPeerId : UInt32)
    (request : Option (UInt64 × String)) : List ProbeSend × Bool :=
  if sends.length ≥ maxInFlightProbeSends then
    (sends, false)
  else
    (sends ++ [⟨frame, dstPeerId, request⟩], true)

namespace Relay

variable (hash : Hash) (spec : RelaySpec)

/-- A pending probe is removed and its outcome goes to `record_probe`. -/
def settle
    (relay : Relay) (nonce : UInt64) (peerKey : String)
    (rtt : Option Duration) (now : Instant) : Relay × List ProbeEvent :=
  ({ relay with
      pendingProbes := relay.pendingProbes.erase nonce
      metrics :=
        MetricsRegistry.recordProbe relay.metrics peerKey spec.pathId rtt
          now },
    [.recorded nonce peerKey rtt])

/-- A probe that has been pending for more than three seconds. -/
def overdue (relay : Relay) (now : Instant) (nonce : UInt64) : Bool :=
  (relay.pendingProbes.lookup nonce).any fun probe =>
    now - probe.2 > fromSecs 3

/-- One round of the loop over the expired nonces. -/
def expireProbe (now : Instant) (relay : Relay) (nonce : UInt64) :
    Relay × List ProbeEvent :=
  match relay.pendingProbes.lookup nonce with
  | none => (relay, [])
  | some probe => relay.settle spec nonce probe.1 none now

/-- One round of the loop over the peers. -/
def probePeer
    (latencies : HashMap String Int) (now : Instant) (relay : Relay)
    (entry : String × PeerClock) : Relay × List ProbeEvent :=
  let peer := entry.1
  let resolved :=
    resolvePeerId hash relay.peerIdsByHostname peer entry.2.unixNow
  let metrics :=
    MetricsRegistry.setAvailable relay.metrics peer spec.pathId
      resolved.isSome
  match resolved with
  | none =>
      ({ relay with
          metrics :=
            MetricsRegistry.setRouteLatency metrics peer spec.pathId none },
        [])
  | some (_, hostname, dstPeerId) =>
      let metrics :=
        MetricsRegistry.setRouteLatency metrics peer spec.pathId
          (latencies.lookup hostname)
      let nonce := relay.nextProbeNonce
      let frame :=
        encodeFrame spec.localPublicKey peer
          (.pathProbe nonce entry.2.unixMicros false) (asBytes "p")
      let (probeSends, queued) :=
        queueProbeSend relay.probeSends frame dstPeerId (some (nonce, peer))
      let relay :=
        { relay with
          probeSends
          metrics
          nextProbeNonce := max (nonce + 1) 1 }
      if queued then
        ({ relay with
            pendingProbes := relay.pendingProbes.insert nonce (peer, now) },
          [.accepted nonce peer])
      else
        ({ relay with
            metrics :=
              MetricsRegistry.recordProbe relay.metrics peer spec.pathId
                none now },
          [.refused nonce peer])

/-- `peer_ids_by_hostname`, made anew from the routes. -/
def discover (routes : List Route) (relay : Relay) : Relay :=
  { relay with
    peerIdsByHostname :=
      routes.foldl
        (fun table route => Finmap.insert route.hostname route.peerId table)
        ∅ }

/-- `discovered_latencies`. -/
def discoveredLatencies (routes : List Route) : HashMap String Int :=
  routes.foldl
    (fun table route => Finmap.insert route.hostname route.pathLatency table)
    ∅

/-- The loop over the expired nonces, in the order of the pending probes. -/
def expireProbes (now : Instant) (order : List UInt64) (relay : Relay) :
    Relay × List ProbeEvent :=
  emitAll (expireProbe spec now) relay (order.filter (relay.overdue now))

/-- The loop over the peers, each with its own reading of the clock. -/
def probePeers
    (routes : List Route) (now : Instant) (clocks : List PeerClock)
    (relay : Relay) : Relay × List ProbeEvent :=
  emitAll (probePeer hash spec (discoveredLatencies routes) now) relay
    (spec.peers.zip clocks)

/-- The refresh tick; `order` is the order in which the pending probes are
visited. -/
def refresh
    (routes : List Route) (now : Instant) (order : List UInt64)
    (clocks : List PeerClock) (relay : Relay) :
    Option (Relay × List ProbeEvent) :=
  if HashMap.Iterates order relay.pendingProbes ∧
      clocks.length = spec.peers.length then
    let (relay, lost) := (relay.discover routes).expireProbes spec now order
    let (relay, probed) := relay.probePeers hash spec routes now clocks
    some (relay, lost ++ probed)
  else
    none

/-- The task of `probe_sends` at `index` has finished: with the error of the
send, if there was one, or with the error of the task itself. -/
def sendCompleted
    (index : Nat) (outcome : Except String (Option String)) (now : Instant)
    (relay : Relay) : Option (Relay × List ProbeEvent) :=
  match relay.probeSends[index]? with
  | none => none
  | some send =>
      let relay := { relay with probeSends := relay.probeSends.eraseIdx index }
      match outcome, send.request with
      | .ok (some _), some (nonce, peerKey) =>
          if nonce ∈ relay.pendingProbes then
            some (relay.settle spec nonce peerKey none now)
          else
            some (relay, [])
      | _, _ => some (relay, [])

/-- A probe has been received. -/
def probeReceived
    (packet : InboundRelayPacket) (now : Instant) (unixNow : UInt64)
    (relay : Relay) : Relay × List ProbeEvent :=
  match packet.channel with
  | .pathProbe nonce sentMicros reply =>
      if reply then
        match relay.pendingProbes.lookup nonce with
        | none => (relay, [])
        | some (peerKey, sent) =>
            if peerKey = packet.sourceKey then
              relay.settle spec nonce peerKey (some (now - sent)) now
            else
              ({ relay with
                  pendingProbes := relay.pendingProbes.erase nonce },
                [])
      else
        match
          resolvePeerId hash relay.peerIdsByHostname packet.sourceKey
            unixNow with
        | none => (relay, [])
        | some (_, _, dstPeerId) =>
            let frame :=
              encodeFrame spec.localPublicKey packet.sourceKey
                (.pathProbe nonce sentMicros true) (asBytes "p")
            let (probeSends, _) :=
              queueProbeSend relay.probeSends frame dstPeerId none
            ({ relay with probeSends }, [])
  | _ => (relay, [])

/-- A packet is to be sent; `error` is the outcome of the send. -/
def sendOutbound
    (packet : RelayPacket) (unixNow : UInt64) (error : Option String)
    (relay : Relay) : Relay :=
  match
    resolvePeerId hash relay.peerIdsByHostname packet.peerKey unixNow with
  | none => relay
  | some _ =>
      match error with
      | some _ =>
          { relay with
            metrics :=
              MetricsRegistry.setAvailable relay.metrics packet.peerKey
                spec.pathId false }
      | none =>
          { relay with
            metrics :=
              MetricsRegistry.recordTx relay.metrics packet.peerKey
                spec.pathId packet.payload.length }

/-- One turn. -/
def step (relay : Relay) : RelayEvent → Option (Relay × List ProbeEvent)
  | .refresh routes now order clocks =>
      relay.refresh hash spec routes now order clocks
  | .sent index outcome now => relay.sendCompleted spec index outcome now
  | .probe packet now unixNow =>
      some (relay.probeReceived hash spec packet now unixNow)
  | .outbound packet unixNow error =>
      some (relay.sendOutbound hash spec packet unixNow error, [])
  | .elsewhere metrics => some ({ relay with metrics }, [])

/-- The loop before its first turn, with the metrics as they are. -/
def Starts (relay : Relay) : Prop :=
  relay.peerIdsByHostname = ∅ ∧ relay.pendingProbes = ∅ ∧
    relay.probeSends = [] ∧ relay.nextProbeNonce = 1

end Relay

/-- The event loop of `run_relay`. -/
def relayLoop (hash : Hash) (spec : RelaySpec) :
    Machine Relay RelayEvent (List ProbeEvent) where
  start := Relay.Starts
  step := Relay.step hash spec

end WgLink
