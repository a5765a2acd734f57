import WgLink.ForwardingAccounts
import WgLink.ProbeOrigins

/-!
# What the turns of a station report

One relation says for every turn which packets it accepts and which probes it
answers or records.
-/

namespace WgLink

open WgLink.Library

/-- No success is among the recorded outcomes. -/
def NoSuccess (probes : List ProbeEvent) : Prop :=
  ∀ nonce peerKey rtt, ProbeEvent.recorded nonce peerKey (some rtt) ∉ probes

/-- The payload of a probe. -/
def probePayload : Bytes := asBytes "p"

/-- What a turn of a station reports about packets: which ones it accepts, and
which probes it answers or records. -/
inductive Reports (key : String) (station : Station) :
    StationEvent → List Fate → Prop
  | lost {event : StationEvent} (parcels : List DecodedFrame) :
      Reports key station event (parcels.map .dropped)
  | delivered {event : StationEvent} (parcel : DecodedFrame) :
      Reports key station event [.delivered parcel]
  | read {peer : String} {payload : Bytes} (parcels : List DecodedFrame) :
      Reports key station (.datagram peer true payload)
        (.accepted ⟨key, peer, .baseWireGuard, payload⟩ ::
          parcels.map .dropped)
  | submitted {peer : String} {session : SessionKey} {payload : Bytes} :
      Reports key station (.submit peer session payload)
        [.accepted ⟨key, peer, .shortcutWireGuard session, payload⟩]
  | probing {index : Nat} {routes : List Route} {now : Instant}
      {order : List UInt64} {clocks : List PeerClock}
      {parcels : List DecodedFrame} {probes : List ProbeEvent} :
      (∀ parcel ∈ parcels,
        ∃ peer ∈ station.spec.peers, ∃ nonce sentMicros,
          parcel ∈
            readable
              (encodeFrame key peer (.pathProbe nonce sentMicros false)
                probePayload)) →
      NoSuccess probes →
      Reports key station (.refresh index routes now order clocks)
        (parcels.map .accepted ++ probes.map .probe)
  | completed {index send : Nat} {outcome : Except String (Option String)}
      {now : Instant} {probes : List ProbeEvent} :
      NoSuccess probes →
      Reports key station (.sent index send outcome now) (probes.map .probe)
  | answering {index : Nat} {now : Instant} {unixNow : UInt64}
      {packet : InboundRelayPacket} {parcels : List DecodedFrame}
      {probes : List ProbeEvent} :
      inParcel key packet ∈ station.parcels key →
      (∀ parcel ∈ parcels,
        ∃ nonce sentMicros,
          packet.channel = .pathProbe nonce sentMicros false ∧
            parcel ∈
              readable
                (encodeFrame key packet.sourceKey
                  (.pathProbe nonce sentMicros true) probePayload)) →
      (∀ nonce peerKey rtt,
        ProbeEvent.recorded nonce peerKey (some rtt) ∈ probes →
          peerKey = packet.sourceKey ∧
            ∃ sentMicros,
              packet.channel = .pathProbe nonce sentMicros true) →
      Reports key station (.probe index now unixNow)
        (.delivered (inParcel key packet) ::
          (parcels.map .accepted ++ probes.map .probe))

theorem Reports.copied
    {key : String} {station : Station} {event : StationEvent}
    {fates : List Fate} (reports : Reports key station event fates) :
    (Fate.movement fates).copied = 0 := by
  unfold Fate.movement
  cases reports <;>
    simp [List.flatMap_cons, List.flatMap_append, List.flatMap_map,
      Fate.copied]

theorem Reports.not_injected
    {key : String} {station : Station} {event : StationEvent}
    {fates : List Fate} {parcel : DecodedFrame}
    (reports : Reports key station event fates) :
    .injected parcel ∉ fates := by
  cases reports <;> simp

/-- The turn reports about its packets and leaves the specification as it
is. -/
def Turn.Reported (key : String) (station : Station) (event : StationEvent)
    (turn : Turn) : Prop :=
  Reports key station event turn.fates ∧ turn.station.spec = station.spec

section Reported

variable {hash : Hash} {key : String} {station : Station} {turn : Turn}

theorem startedSends_of_startsSends
    {Kind : ProbeSend → Prop} {before after : Relay}
    (starts : Relay.StartsSends Kind before after) :
    ∀ parcel ∈ (Station.startedSends before after).flatMap
        Transmission.parcels,
      ∃ send, Kind send ∧ parcel ∈ readable send.frame := by
  obtain ⟨started, extended, kind⟩ := starts
  intro parcel member
  unfold Station.startedSends at member
  rw [extended, List.drop_left] at member
  obtain ⟨sent, sentMember, carried⟩ := List.mem_flatMap.mp member
  obtain ⟨send, sendMember, rfl⟩ := List.mem_map.mp sentMember
  exact ⟨send, kind send sendMember, carried⟩

theorem refresh_reports
    {index : Nat} {routes : List Route} {now : Instant}
    {order : List UInt64} {clocks : List PeerClock}
    (taken :
      station.relayOnly hash key index (.refresh routes now order clocks) =
        some turn) :
    turn.Reported key station (.refresh index routes now order clocks) := by
  unfold Station.relayOnly at taken
  obtain ⟨⟨task, target⟩, running, turned⟩ := Option.bind_eq_some_iff.mp taken
  unfold Station.relayTurn at turned
  obtain ⟨⟨relay, probes⟩, stepped, same⟩ := Option.map_eq_some_iff.mp turned
  cases same
  refine ⟨?_, rfl⟩
  apply Reports.probing
  · intro parcel member
    obtain ⟨send, ⟨peer, listed, nonce, sentMicros, framed⟩, carried⟩ :=
      startedSends_of_startsSends (Relay.refresh_sends stepped) parcel member
    rw [framed] at carried
    exact ⟨peer, listed, nonce, sentMicros, carried⟩
  · exact Relay.refresh_not_successful stepped

theorem sent_reports
    {index send : Nat} {outcome : Except String (Option String)}
    {now : Instant}
    (taken :
      station.relayOnly hash key index (.sent send outcome now) =
        some turn) :
    turn.Reported key station (.sent index send outcome now) := by
  unfold Station.relayOnly at taken
  obtain ⟨⟨task, target⟩, running, turned⟩ := Option.bind_eq_some_iff.mp taken
  unfold Station.relayTurn at turned
  obtain ⟨⟨relay, probes⟩, stepped, same⟩ := Option.map_eq_some_iff.mp turned
  cases same
  obtain ⟨shorter, noSuccess⟩ := Relay.sendCompleted_ends stepped
  have nothingStarted : Station.startedSends task.relay relay = [] := by
    unfold Station.startedSends
    rw [List.drop_eq_nil_of_le shorter]
    rfl
  simp only [nothingStarted, List.flatMap_nil, List.map_nil, List.nil_append]
  exact ⟨Reports.completed noSuccess, rfl⟩

theorem probe_reports
    {index : Nat} {now : Instant} {unixNow : UInt64}
    (taken : station.probeTaken hash key index now unixNow = some turn) :
    turn.Reported key station (.probe index now unixNow) := by
  unfold Station.probeTaken at taken
  obtain ⟨⟨task, target⟩, running, received⟩ :=
    Option.bind_eq_some_iff.mp taken
  obtain ⟨⟨packet, probeInbound⟩, popped, turned⟩ :=
    Option.bind_eq_some_iff.mp received
  obtain ⟨inner, innerTurn, same⟩ := Option.map_eq_some_iff.mp turned
  cases same
  unfold Station.relayTurn at innerTurn
  obtain ⟨⟨relay, probes⟩, stepped, innerIs⟩ :=
    Option.map_eq_some_iff.mp innerTurn
  cases innerIs
  have processed :
      Relay.probeReceived hash (station.spec.relay key target) packet now
          unixNow { task.relay with metrics := station.metrics } =
        (relay, probes) :=
    Option.some.inj stepped
  refine ⟨?_, rfl⟩
  apply Reports.answering
  · obtain ⟨others, held, _⟩ :=
      parcels_split key (runningRelay_eq_some running).1
    rw [held, coe_slotParcels_some, Channel.items_of_receive popped,
      coe_map_cons]
    simp
  · intro parcel member
    have starts :=
      @Relay.probeReceived_sends hash (station.spec.relay key target)
        { task.relay with metrics := station.metrics } packet now unixNow
    rw [processed] at starts
    obtain ⟨send, ⟨nonce, sentMicros, channel, framed⟩, carried⟩ :=
      startedSends_of_startsSends starts parcel member
    rw [framed] at carried
    exact ⟨nonce, sentMicros, channel, carried⟩
  · intro nonce peerKey rtt recorded
    apply
      @Relay.probeReceived_successful hash (station.spec.relay key target)
        { task.relay with metrics := station.metrics } packet now unixNow
    rw [processed]
    exact recorded

theorem datagramRead_reports
    {peer : String} {fromWireguard : Bool} {payload : Bytes}
    (taken :
      station.datagramRead key peer fromWireguard payload = some turn) :
    turn.Reported key station (.datagram peer fromWireguard payload) := by
  unfold Station.datagramRead at taken
  split at taken
  case h_2 => cases taken
  cases fromWireguard with
  | false =>
      cases taken
      exact ⟨Reports.lost [], rfl⟩
  | true =>
      simp only [if_true] at taken
      split at taken
      · cases taken
        exact ⟨Reports.read [_], rfl⟩
      · cases taken
        exact ⟨Reports.read [], rfl⟩

/-- A sender that waits for a relay, or gives up, accepts nothing. -/
theorem forward_reports
    {peer : String} {event : StationEvent}
    (taken : station.forward key peer = some turn) :
    turn.Reported key station event := by
  unfold Station.forward at taken
  split at taken
  case h_2 => cases taken
  obtain ⟨tried, attempted, same⟩ := Option.map_eq_some_iff.mp taken
  match tried with
  | .sent relays =>
      cases same
      exact ⟨Reports.lost [], rfl⟩
  | .stopped (some next) =>
      cases same
      exact ⟨Reports.lost [], rfl⟩
  | .stopped none =>
      cases same
      exact ⟨Reports.lost _, rfl⟩

theorem forwardDispatched_reports
    {event : StationEvent}
    (taken : station.forwardDispatched key = some turn) :
    turn.Reported key station event := by
  unfold Station.forwardDispatched at taken
  split at taken
  case h_2 => cases taken
  obtain ⟨tried, attempted, same⟩ := Option.map_eq_some_iff.mp taken
  match tried with
  | .sent relays =>
      cases same
      exact ⟨Reports.lost [], rfl⟩
  | .stopped (some next) =>
      cases same
      exact ⟨Reports.lost [], rfl⟩
  | .stopped none =>
      cases same
      exact ⟨Reports.lost _, rfl⟩

theorem toWireguard_reports
    {peer : String} {failed : Bool} {event : StationEvent}
    (taken : station.toWireguard key peer failed = some turn) :
    turn.Reported key station event := by
  unfold Station.toWireguard at taken
  split at taken
  case h_2 => cases taken
  obtain ⟨⟨payload, rest⟩, received, same⟩ :=
    Option.map_eq_some_iff.mp taken
  cases failed with
  | true =>
      cases same
      exact ⟨Reports.lost _, rfl⟩
  | false =>
      cases same
      exact ⟨Reports.delivered _, rfl⟩

theorem dispatch_reports
    {event : StationEvent} (taken : station.dispatch key = some turn) :
    turn.Reported key station event := by
  unfold Station.dispatch at taken
  split at taken
  case h_2 => cases taken
  obtain ⟨⟨packet, rest⟩, received, same⟩ := Option.map_eq_some_iff.mp taken
  simp only at same
  split at same
  · cases same
    exact ⟨Reports.lost [_], rfl⟩
  · cases same
    exact ⟨Reports.lost [], rfl⟩

theorem outboundTaken_reports
    {index : Nat} {unixNow : UInt64} {error : Option String}
    {event : StationEvent}
    (taken :
      station.outboundTaken hash key index unixNow error = some turn) :
    turn.Reported key station event := by
  unfold Station.outboundTaken at taken
  obtain ⟨⟨task, target⟩, running, received⟩ :=
    Option.bind_eq_some_iff.mp taken
  obtain ⟨⟨packet, outbound⟩, popped, turned⟩ :=
    Option.bind_eq_some_iff.mp received
  obtain ⟨inner, stepped, same⟩ := Option.map_eq_some_iff.mp turned
  cases same
  have sameSpec : inner.station.spec = station.spec := by
    unfold Station.relayTurn at stepped
    obtain ⟨_, _, innerIs⟩ := Option.map_eq_some_iff.mp stepped
    rw [← innerIs]
    rfl
  simp only
  split
  · exact ⟨Reports.lost [_], sameSpec⟩
  · exact ⟨Reports.lost [], sameSpec⟩

/-- Every turn reports in one of these ways. -/
theorem step_reports
    {event : StationEvent}
    (taken : station.step hash key event = some turn) :
    turn.Reported key station event := by
  cases event with
  | datagram peer fromWireguard payload =>
      exact datagramRead_reports taken
  | forward peer =>
      exact forward_reports taken
  | toWireguard peer failed =>
      exact toWireguard_reports taken
  | brokerStops peer =>
      obtain ⟨broker, present, same⟩ := Option.map_eq_some_iff.mp taken
      cases same
      exact ⟨Reports.lost _, rfl⟩
  | submit peerKey session payload =>
      obtain ⟨dispatcher, present, queued⟩ := Option.bind_eq_some_iff.mp taken
      obtain ⟨inbound, sent, same⟩ := Option.map_eq_some_iff.mp queued
      cases same
      exact ⟨Reports.submitted, rfl⟩
  | dispatch =>
      exact dispatch_reports taken
  | forwardDispatched =>
      exact forwardDispatched_reports taken
  | dispatcherStops =>
      obtain ⟨dispatcher, present, same⟩ := Option.map_eq_some_iff.mp taken
      cases same
      exact ⟨Reports.lost _, rfl⟩
  | refresh index routes now order clocks =>
      exact refresh_reports taken
  | sent index send outcome now =>
      exact sent_reports taken
  | probe index now unixNow =>
      exact probe_reports taken
  | outbound index unixNow error =>
      exact outboundTaken_reports taken
  | relayStops index =>
      obtain ⟨⟨task, target⟩, running, same⟩ :=
        Option.map_eq_some_iff.mp taken
      cases same
      exact ⟨Reports.lost _, rfl⟩
  | toDevice =>
      obtain ⟨⟨packet, shortcutInbound⟩, popped, same⟩ :=
        Option.map_eq_some_iff.mp taken
      cases same
      exact ⟨Reports.delivered _, rfl⟩
  | select peer pathId =>
      obtain ⟨paths, _, same⟩ := Option.map_eq_some_iff.mp taken
      cases same
      exact ⟨Reports.lost [], rfl⟩
  | metricsWritten metrics =>
      cases taken
      exact ⟨Reports.lost [], rfl⟩

end Reported

end WgLink
