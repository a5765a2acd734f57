import WgLink.RelayNetwork

/-!
# Runs of the relay network

Where the packets that a station delivers come from, over every run of the
network.
-/

namespace WgLink

open WgLink.Library

section Runs

variable {hash : Hash} {log : List NetworkStep} {network : Network}

/-- The keys of a station and its peers fit into frames. -/
def Network.KeysFit (network : Network) : Prop :=
  ∀ key station, network.stations.lookup key = some station →
    KeyFits key ∧ ∀ peer ∈ station.spec.peers, KeyFits peer

/-- Writing back a station with the same specification. -/
theorem Network.KeysFit.insert
    {stations : HashMap String Station}
    {flight otherFlight : List Transmission}
    (fits : (Network.mk stations flight).KeysFit) {key : String}
    {station next : Station}
    (present : stations.lookup key = some station)
    (same : next.spec = station.spec) :
    (Network.mk (stations.insert key next) otherFlight).KeysFit := by
  intro other found foundIs
  rw [HashMap.lookup_insert_eq_ite] at foundIs
  split at foundIs
  · rename_i isKey
    cases foundIs
    rw [isKey, same]
    exact fits key station present
  · exact fits other found foundIs

theorem step_keysFit
    {before after : Network} {event : NetworkEvent} {fates : List Fate}
    (taken : before.step hash event = some (after, fates))
    (eventFits : event.KeysFit) (fits : before.KeysFit) :
    after.KeysFit := by
  cases event with
  | turn key event =>
      obtain ⟨station, present, stepped⟩ := Option.bind_eq_some_iff.mp taken
      obtain ⟨turn, turnTaken, same⟩ := Option.map_eq_some_iff.mp stepped
      cases same
      exact fits.insert present (step_reports turnTaken).2
  | deliver position key index =>
      obtain ⟨sent, carried, atStation⟩ := Option.bind_eq_some_iff.mp taken
      obtain ⟨station, present, stepped⟩ :=
        Option.bind_eq_some_iff.mp atStation
      obtain ⟨turn, turnTaken, same⟩ := Option.map_eq_some_iff.mp stepped
      cases same
      exact fits.insert present (received_balanced turnTaken).2.2.2.2
  | lose position =>
      obtain ⟨sent, carried, same⟩ := Option.map_eq_some_iff.mp taken
      cases same
      exact fits
  | duplicate position =>
      obtain ⟨sent, carried, same⟩ := Option.map_eq_some_iff.mp taken
      cases same
      exact fits
  | inject sent =>
      cases taken
      exact fits
  | joins key spec metrics =>
      simp only [Network.step] at taken
      split at taken
      · cases taken
      cases taken
      intro other found foundIs
      rw [HashMap.lookup_insert_eq_ite] at foundIs
      split at foundIs
      · rename_i isKey
        cases foundIs
        rw [isKey]
        exact eventFits
      · exact fits other found foundIs
  | leaves key =>
      obtain ⟨station, present, stepped⟩ := Option.bind_eq_some_iff.mp taken
      split at stepped
      · cases stepped
        intro other found foundIs
        rw [HashMap.lookup_erase_eq_ite] at foundIs
        split at foundIs
        · cases foundIs
        · exact fits other found foundIs
      · cases stepped

theorem keysFit_of_execution
    (execution : (relayNetwork hash).Execution log network)
    (eventsFit : ∀ record ∈ log, record.input.KeysFit) :
    network.KeysFit := by
  apply
    @Machine.Execution.invariant _ _ _ (relayNetwork hash)
      (fun _ reached => reached.KeysFit)
      (fun record => record.input.KeysFit) ?_ ?_ log network execution
      eventsFit
  · intro start started key station present
    rw [started] at present
    cases present
  · rintro earlier ⟨before, event, fates, after⟩ fits eventFits taken
    exact step_keysFit taken eventFits fits

/-- The turn of its source at which a packet comes into the network: the
source's WireGuard sent it, its shortcut device sent it, it is a probe for a
peer of the source, or it answers a probe that the source has just taken. -/
inductive OfferedAt (record : NetworkStep) : DecodedFrame → Prop
  | datagram {source target : String} {payload : Bytes} :
      record.input = .turn source (.datagram target true payload) →
      OfferedAt record ⟨source, target, .baseWireGuard, payload⟩
  | submit {source target : String} {session : SessionKey}
      {payload : Bytes} :
      record.input = .turn source (.submit target session payload) →
      OfferedAt record ⟨source, target, .shortcutWireGuard session, payload⟩
  | request {source target : String} {nonce sentMicros : UInt64}
      {station : Station} {index : Nat} {routes : List Route}
      {now : Instant} {order : List UInt64} {clocks : List PeerClock} :
      record.input =
        .turn source (.refresh index routes now order clocks) →
      record.before.stations.lookup source = some station →
      target ∈ station.spec.peers →
      OfferedAt record
        ⟨source, target, .pathProbe nonce sentMicros false, probePayload⟩
  | response {source target : String} {nonce sentMicros : UInt64}
      {index : Nat} {now : Instant} {unixNow : UInt64} {payload : Bytes} :
      record.input = .turn source (.probe index now unixNow) →
      .delivered
          ⟨target, source, .pathProbe nonce sentMicros false, payload⟩ ∈
        record.output →
      OfferedAt record
        ⟨source, target, .pathProbe nonce sentMicros true, probePayload⟩

/-- A step offers a packet: it is a turn of the packet's source, and the
network accepts this packet in it. -/
structure Offers (record : NetworkStep) (parcel : DecodedFrame) : Prop where
  turn : OfferedAt record parcel
  accepted : .accepted parcel ∈ record.output

/-- A probe is offered by a refresh of its source. -/
theorem Offers.refreshed
    {record : NetworkStep} {source target : String}
    {nonce sentMicros : UInt64} {payload : Bytes}
    (offered :
      Offers record
        ⟨source, target, .pathProbe nonce sentMicros false, payload⟩) :
    ∃ index routes now order clocks,
      record.input =
        .turn source (.refresh index routes now order clocks) := by
  cases offered.turn with
  | request isTurn _ _ =>
      exact ⟨_, _, _, _, _, isTurn⟩

/-- What is read from a frame of keys that fit is what was written. -/
theorem eq_of_mem_readable
    {source target : String} {channel : RelayChannel} {payload : Bytes}
    {parcel : DecodedFrame}
    (sourceFits : KeyFits source) (targetFits : KeyFits target)
    (carried :
      parcel ∈ readable (encodeFrame source target channel payload)) :
    parcel = ⟨source, target, channel, payload⟩ := by
  have fits : DecodedFrame.KeysFit ⟨source, target, channel, payload⟩ :=
    ⟨sourceFits, targetFits⟩
  rcases readable_encode fits with whole | nothing
  · unfold DecodedFrame.encode at whole
    rw [whole] at carried
    exact List.mem_singleton.mp carried
  · unfold DecodedFrame.encode at nothing
    rw [nothing] at carried
    cases carried

theorem fates_of_inject
    {before after : Network} {sent : Transmission} {fates : List Fate}
    (taken : before.step hash (.inject sent) = some (after, fates)) :
    fates = sent.parcels.map .injected :=
  (congrArg Prod.snd (Option.some.inj taken)).symm

/-- Only turns of stations accept packets. -/
theorem turn_of_accepted
    {record : NetworkStep} {parcel : DecodedFrame}
    (taken : (relayNetwork hash).Takes record)
    (accepted : .accepted parcel ∈ record.output) :
    ∃ key event station,
      record.input = .turn key event ∧
        record.before.stations.lookup key = some station ∧
        Reports key station event record.output := by
  obtain ⟨before, event, fates, after⟩ := record
  rcases turn_or_overlay event with ⟨key, turn, rfl⟩ | notTurn
  · obtain ⟨station, present, reports⟩ := reports_of_turn taken
    exact ⟨key, turn, station, rfl, present, reports⟩
  · have entered : parcel ∈ (Fate.movement fates).entered :=
      mem_entered.mpr (Or.inl accepted)
    obtain ⟨sent, rfl, _⟩ :=
      (overlay_accounts taken notTurn).2.2 parcel entered
    have injected := @fates_of_inject hash _ _ _ _ taken
    rw [injected] at accepted
    simp at accepted

/-- A packet that a step accepts is offered by it. -/
theorem offers_of_accepted
    {record : NetworkStep} {parcel : DecodedFrame}
    (taken : (relayNetwork hash).Takes record)
    (fits : record.before.KeysFit)
    (sound : ∀ held ∈ record.before.parcels, held.KeysFit)
    (accepted : .accepted parcel ∈ record.output) :
    Offers record parcel := by
  refine ⟨?_, accepted⟩
  obtain ⟨key, event, station, isTurn, present, reports⟩ :=
    turn_of_accepted taken accepted
  obtain ⟨before, input, fates, after⟩ := record
  simp only at isTurn present reports accepted
  obtain ⟨keyFits, peersFit⟩ := fits key station present
  cases reports with
  | lost parcels =>
      simp at accepted
  | delivered other =>
      simp at accepted
  | read parcels =>
      simp only [List.mem_cons, Fate.accepted.injEq, List.mem_map,
        reduceCtorEq, and_false, exists_false, or_false] at accepted
      rw [accepted]
      exact OfferedAt.datagram isTurn
  | submitted =>
      simp only [List.mem_singleton, Fate.accepted.injEq] at accepted
      rw [accepted]
      exact OfferedAt.submit isTurn
  | probing requests _ =>
      simp only [List.mem_append, List.mem_map, Fate.accepted.injEq,
        exists_eq_right, reduceCtorEq, and_false, exists_false,
        or_false] at accepted
      obtain ⟨peer, listed, nonce, sentMicros, carried⟩ :=
        requests parcel accepted
      rw [eq_of_mem_readable keyFits (peersFit peer listed) carried]
      exact OfferedAt.request isTurn present listed
  | completed _ =>
      simp at accepted
  | @answering _ _ _ packet parcels probes held responses _ =>
      simp only [List.mem_cons, List.mem_append, List.mem_map,
        Fate.accepted.injEq, exists_eq_right, reduceCtorEq, and_false,
        exists_false, or_false, false_or] at accepted
      obtain ⟨nonce, sentMicros, channel, carried⟩ :=
        responses parcel accepted
      have packetFits : (inParcel key packet).KeysFit := by
        apply sound
        obtain ⟨others, held', _⟩ := parcels_station present
        rw [held' before.flight]
        exact Multiset.mem_add.mpr
          (Or.inl (Multiset.mem_add.mpr (Or.inl held)))
      rw [eq_of_mem_readable keyFits packetFits.1 carried]
      have request :
          inParcel key packet =
            ⟨packet.sourceKey, key, .pathProbe nonce sentMicros false,
              packet.payload⟩ := by
        unfold inParcel
        rw [channel]
      have taken :
          .delivered
              ⟨packet.sourceKey, key, .pathProbe nonce sentMicros false,
                packet.payload⟩ ∈
            Fate.delivered (inParcel key packet) ::
              (parcels.map .accepted ++ probes.map .probe) := by
        rw [request]
        exact List.mem_cons_self
      exact OfferedAt.response isTurn taken

/-- What a step delivers was held before it. -/
theorem held_of_delivered
    {record : NetworkStep} {parcel : DecodedFrame}
    (taken : (relayNetwork hash).Takes record)
    (sound : ∀ held ∈ record.before.parcels, held.KeysFit)
    (delivered : .delivered parcel ∈ record.output) :
    parcel ∈ record.before.parcels := by
  have departed : parcel ∈ (Fate.movement record.output).departed := by
    unfold Fate.movement
    exact Multiset.mem_coe.mpr
      (List.mem_flatMap.mpr
        ⟨_, delivered, List.mem_singleton_self parcel⟩)
  rcases
      relayNetwork_conserves.mem_of_step taken sound (Or.inr departed) with
    held | entered
  · exact held
  -- The one kind of turn that both delivers and accepts takes its packet
  -- from a queue.
  rcases mem_entered.mp entered with accepted | injected
  · obtain ⟨key, event, station, _, present, reports⟩ :=
      turn_of_accepted taken accepted
    obtain ⟨before, input, fates, after⟩ := record
    simp only at present reports accepted delivered
    cases reports with
    | lost parcels =>
        simp at delivered
    | delivered other =>
        simp at accepted
    | read parcels =>
        simp at delivered
    | submitted =>
        simp at delivered
    | probing _ _ =>
        simp at delivered
    | completed _ =>
        simp at delivered
    | @answering _ _ _ packet parcels probes held _ _ =>
        simp only [List.mem_cons, List.mem_append, List.mem_map,
          Fate.delivered.injEq, reduceCtorEq, and_false, exists_false,
          or_false] at delivered
        obtain ⟨others, whole, _⟩ := parcels_station present
        rw [whole before.flight, delivered]
        exact Multiset.mem_add.mpr
          (Or.inl (Multiset.mem_add.mpr (Or.inl held)))
  · obtain ⟨before, input, fates, after⟩ := record
    rcases turn_or_overlay input with ⟨key, turn, rfl⟩ | notTurn
    · obtain ⟨station, _, reports⟩ := reports_of_turn taken
      exact absurd injected reports.not_injected
    · obtain ⟨sent, rfl, _⟩ :=
        (overlay_accounts taken notTurn).2.2 parcel entered
      have allInjected := @fates_of_inject hash _ _ _ _ taken
      rw [allInjected] at delivered
      simp at delivered

/-- Nobody outside of the stations sends packets in the name of a station. -/
def Unforged (source : String) (log : List NetworkStep) : Prop :=
  ∀ record ∈ log, ∀ sent, record.input = .inject sent →
    ∀ parcel ∈ sent.parcels, parcel.source ≠ source

/-- The events before a step of a log. -/
theorem keysFit_older
    {newer older : List NetworkStep} {record : NetworkStep}
    (eventsFit : ∀ past ∈ newer ++ record :: older, past.input.KeysFit) :
    ∀ past ∈ older, past.input.KeysFit := by
  intro past member
  apply eventsFit
  exact List.mem_append_right newer (List.mem_cons_of_mem record member)

/-- What is held was offered, as long as nobody forges packets. -/
theorem offered_of_held
    {parcel : DecodedFrame}
    (execution : (relayNetwork hash).Execution log network)
    (eventsFit : ∀ record ∈ log, record.input.KeysFit)
    (unforged : Unforged parcel.source log)
    (held : parcel ∈ network.parcels) :
    ∃ origin ∈ log, Offers origin parcel := by
  obtain ⟨origin, inLog, entered⟩ :=
    relayNetwork_conserves.entered_of_held execution eventsFit held
  obtain ⟨newer, older, rfl⟩ := List.append_of_mem inLog
  have parts := Machine.Execution.split execution
  have olderFit := keysFit_older eventsFit
  refine ⟨origin, inLog, ?_⟩
  rcases mem_entered.mp entered with accepted | injected
  · exact
      offers_of_accepted parts.2 (keysFit_of_execution parts.1 olderFit)
        (relayNetwork_conserves.sound_of_execution parts.1 olderFit) accepted
  · obtain ⟨before, input, fates, after⟩ := origin
    rcases turn_or_overlay input with ⟨key, turn, rfl⟩ | notTurn
    · obtain ⟨station, _, reports⟩ := reports_of_turn parts.2
      exact absurd injected reports.not_injected
    · obtain ⟨sent, isInjected, carried⟩ :=
        (overlay_accounts parts.2 notTurn).2.2 parcel entered
      exact absurd rfl (unforged _ inLog sent isInjected parcel carried)

/-- What a step delivers was offered before. -/
theorem offered_of_delivered
    {older : List NetworkStep} {record : NetworkStep} {parcel : DecodedFrame}
    (execution : (relayNetwork hash).Execution older record.before)
    (eventsFit : ∀ past ∈ older, past.input.KeysFit)
    (taken : (relayNetwork hash).Takes record)
    (unforged : Unforged parcel.source older)
    (delivered : .delivered parcel ∈ record.output) :
    ∃ origin ∈ older, Offers origin parcel := by
  have held :=
    held_of_delivered taken
      (relayNetwork_conserves.sound_of_execution execution eventsFit)
      delivered
  exact offered_of_held execution eventsFit unforged held

/-- Every packet that is delivered was accepted from its source in an earlier
step, with the same target, channel and payload. -/
theorem delivered_packet_was_offered
    {newer older : List NetworkStep} {record : NetworkStep}
    {parcel : DecodedFrame}
    (execution :
      (relayNetwork hash).Execution (newer ++ record :: older) network)
    (eventsFit : ∀ past ∈ newer ++ record :: older, past.input.KeysFit)
    (unforged : Unforged parcel.source older)
    (delivered : .delivered parcel ∈ record.output) :
    ∃ origin ∈ older, Offers origin parcel := by
  have parts := Machine.Execution.split execution
  exact
    offered_of_delivered parts.1 (keysFit_older eventsFit) parts.2 unforged
      delivered

def testTarget : PathTarget := ⟨"et-f1d2", "relay-1", "udp", 0⟩

/-- The routes by which two stations find each other. -/
def testRoutes : List Route :=
  [⟨"wgl-442430a8c4912870", 7, 12⟩, ⟨"wgl-e5c413d3427f9ea7", 8, 12⟩]

/-- Two stations with one relay, the first of which knows the second. -/
def joined : List NetworkEvent :=
  [.joins "left" ⟨["right"], [testTarget]⟩ ∅,
    .joins "right" ⟨["left"], [testTarget]⟩ ∅,
    .turn "left" (.refresh 0 testRoutes 0 [] [⟨7200, 5⟩])]

/-- A datagram goes from one WireGuard to the other. -/
def relayedDatagram : List NetworkEvent :=
  joined ++
    [.turn "left" (.datagram "right" true [1, 2, 3]),
      .turn "left" (.forward "right"),
      .turn "left" (.outbound 0 7200 none),
      .deliver 1 "right" 0,
      .turn "right" (.toWireguard "left" false)]

/-- A probe goes to the other station and its reply comes back. -/
def answeredProbe : List NetworkEvent :=
  joined ++
    [.turn "right" (.refresh 0 testRoutes 0 [] [⟨7200, 6⟩]),
      .deliver 0 "right" 0,
      .turn "right" (.probe 0 1000 7200),
      .deliver 1 "left" 0,
      .turn "left" (.probe 0 2000 7200)]

instance (key : String) : Decidable (KeyFits key) :=
  inferInstanceAs (Decidable (_ ∧ _))

/-- The events name keys that fit, and none of them is forged. -/
def NetworkEvent.plain : NetworkEvent → Bool
  | .turn key (.datagram peer _ _) => decide (KeyFits key ∧ KeyFits peer)
  | .turn _ (.submit _ _ _) => false
  | .joins key spec _ =>
      decide (KeyFits key ∧ ∀ peer ∈ spec.peers, KeyFits peer)
  | .inject _ => false
  | _ => true

theorem keysFit_of_plain {event : NetworkEvent} (plain : event.plain = true) :
    event.KeysFit ∧ ∀ sent, event ≠ .inject sent := by
  unfold NetworkEvent.plain at plain
  unfold NetworkEvent.KeysFit
  split at plain
  · exact ⟨of_decide_eq_true plain, fun sent => nofun⟩
  · cases plain
  · exact ⟨of_decide_eq_true plain, fun sent => nofun⟩
  · cases plain
  · rename_i notDatagram notSubmit notJoins notInject
    refine ⟨?_, fun sent same => notInject sent same⟩
    split
    · rename_i key peer fromWireguard payload
      exact absurd rfl (notDatagram key peer fromWireguard payload)
    · rename_i key peer session payload
      exact absurd rfl (notSubmit key peer session payload)
    · rename_i key spec metrics
      exact absurd rfl (notJoins key spec metrics)
    · trivial

/-- The hypotheses of the theorems above, for a run of plain events. -/
theorem plain_run
    {events : List NetworkEvent} {state final : Network}
    {log : List NetworkStep}
    (plain : events.all NetworkEvent.plain = true)
    (ran : (relayNetwork stationHash).run state events = some (log, final)) :
    (∀ record ∈ log, record.input.KeysFit) ∧
      ∀ source, Unforged source log := by
  have inputs := Machine.inputs_of_run ran
  have allPlain : ∀ record ∈ log, record.input.plain = true := by
    intro record member
    have listed : record.input ∈ events.reverse := by
      rw [← inputs]
      exact List.mem_map_of_mem member
    exact List.all_eq_true.mp plain _ (List.mem_reverse.mp listed)
  refine ⟨fun record member =>
    (keysFit_of_plain (allPlain record member)).1, ?_⟩
  intro source record member sent isInject
  exact absurd isInject ((keysFit_of_plain (allPlain record member)).2 sent)

/-- A datagram that one WireGuard sent reaches the other. -/
theorem delivered_packet_was_offered_datagram :
    ∃ record older network,
      (relayNetwork stationHash).Execution (record :: older) network ∧
        .delivered ⟨"left", "right", .baseWireGuard, [1, 2, 3]⟩ ∈
          record.output ∧
        ∃ origin ∈ older,
          Offers origin ⟨"left", "right", .baseWireGuard, [1, 2, 3]⟩ := by
  have ran :
      ((relayNetwork stationHash).run ⟨∅, []⟩ relayedDatagram).map
          (fun run => run.1.head?.map Record.output) =
        some
          (some
            [.delivered ⟨"left", "right", .baseWireGuard, [1, 2, 3]⟩]) := by
    decide +kernel
  obtain ⟨⟨log, network⟩, completed, observed⟩ :=
    Option.map_eq_some_iff.mp ran
  have execution := Machine.execution_of_run rfl completed
  obtain ⟨fits, unforged⟩ := plain_run (by decide +kernel) completed
  cases log with
  | nil =>
      cases observed
  | cons record older =>
      have delivered :
          .delivered ⟨"left", "right", .baseWireGuard, [1, 2, 3]⟩ ∈
            record.output := by
        rw [Option.some.inj observed]
        exact List.mem_singleton_self _
      refine ⟨record, older, network, execution, delivered, ?_⟩
      refine
        @delivered_packet_was_offered stationHash network [] older record _
          execution fits ?_ delivered
      intro past member
      exact unforged _ past (List.mem_cons_of_mem record member)

/-- A success that is recorded was delivered as the reply of its peer. -/
theorem reply_of_recorded
    {record : NetworkStep} {key peer : String} {event : StationEvent}
    {nonce : UInt64} {rtt : Duration}
    (taken : (relayNetwork hash).Takes record)
    (isTurn : record.input = .turn key event)
    (recorded : .probe (.recorded nonce peer (some rtt)) ∈ record.output) :
    ∃ sentMicros payload,
      .delivered ⟨peer, key, .pathProbe nonce sentMicros true, payload⟩ ∈
        record.output := by
  obtain ⟨before, input, fates, after⟩ := record
  simp only at isTurn recorded
  subst isTurn
  obtain ⟨station, _, reports⟩ := reports_of_turn taken
  simp only at reports
  cases reports with
  | lost parcels =>
      simp at recorded
  | delivered other =>
      simp at recorded
  | read parcels =>
      simp at recorded
  | submitted =>
      simp at recorded
  | probing _ noSuccess =>
      simp only [List.mem_append, List.mem_map, reduceCtorEq, and_false,
        exists_false, Fate.probe.injEq, exists_eq_right,
        false_or] at recorded
      exact absurd recorded (noSuccess nonce peer rtt)
  | completed noSuccess =>
      simp only [List.mem_map, Fate.probe.injEq, exists_eq_right] at recorded
      exact absurd recorded (noSuccess nonce peer rtt)
  | @answering _ _ _ packet parcels probes _ _ successful =>
      simp only [List.mem_cons, List.mem_append, List.mem_map, reduceCtorEq,
        and_false, exists_false, Fate.probe.injEq, exists_eq_right,
        false_or] at recorded
      obtain ⟨rfl, sentMicros, channel⟩ := successful nonce peer rtt recorded
      have reply :
          inParcel key packet =
            ⟨packet.sourceKey, key, .pathProbe nonce sentMicros true,
              packet.payload⟩ := by
        unfold inParcel
        rw [channel]
      refine ⟨sentMicros, packet.payload, ?_⟩
      rw [← reply]
      exact List.mem_cons_self

/-- A probe is recorded as successful only after its peer has taken a probe of
this station with the same nonce, which this station had sent in a refresh. -/
theorem successful_probe_was_answered
    {newer older : List NetworkStep} {record : NetworkStep}
    {key peer : String} {event : StationEvent} {nonce : UInt64}
    {rtt : Duration}
    (execution :
      (relayNetwork hash).Execution (newer ++ record :: older) network)
    (eventsFit : ∀ past ∈ newer ++ record :: older, past.input.KeysFit)
    (stationUnforged : Unforged key older)
    (peerUnforged : Unforged peer older)
    (isTurn : record.input = .turn key event)
    (recorded : .probe (.recorded nonce peer (some rtt)) ∈ record.output) :
    ∃ sentMicros payload later answer earlier,
      older = later ++ answer :: earlier ∧
        (∃ index now unixNow,
          answer.input = .turn peer (.probe index now unixNow)) ∧
        .delivered ⟨key, peer, .pathProbe nonce sentMicros false, payload⟩ ∈
          answer.output ∧
        ∃ request ∈ earlier,
          (∃ index routes now order clocks,
            request.input =
              .turn key (.refresh index routes now order clocks)) ∧
            .accepted
                ⟨key, peer, .pathProbe nonce sentMicros false, payload⟩ ∈
              request.output := by
  have parts := Machine.Execution.split execution
  obtain ⟨sentMicros, replyPayload, replied⟩ :=
    reply_of_recorded parts.2 isTurn recorded
  have olderFit := keysFit_older eventsFit
  obtain ⟨answer, answered, offered⟩ :=
    offered_of_delivered parts.1 olderFit parts.2 peerUnforged replied
  obtain ⟨later, earlier, rfl⟩ := List.append_of_mem answered
  cases offered.turn with
  | @response _ _ _ _ index now unixNow payload answerTurn taken =>
      have earlierUnforged : Unforged key earlier := by
        intro past member
        apply stationUnforged past
        exact List.mem_append_right later
          (List.mem_cons_of_mem answer member)
      have earlierParts := Machine.Execution.split parts.1
      obtain ⟨request, requested, requestOffered⟩ :=
        offered_of_delivered earlierParts.1 (keysFit_older olderFit)
          earlierParts.2 earlierUnforged taken
      exact
        ⟨sentMicros, payload, later, answer, earlier, rfl,
          ⟨index, now, unixNow, answerTurn⟩, taken, request, requested,
          requestOffered.refreshed, requestOffered.accepted⟩

/-- A probe and its reply. -/
theorem successful_probe_was_answered_once :
    ∃ record older network,
      (relayNetwork stationHash).Execution (record :: older) network ∧
        .probe (.recorded 1 "right" (some 2000)) ∈ record.output ∧
        ∃ answer ∈ older,
          (∃ index now unixNow,
            answer.input = .turn "right" (.probe index now unixNow)) ∧
            ∃ request ∈ older, ∃ sentMicros payload,
              .accepted
                  ⟨"left", "right", .pathProbe 1 sentMicros false, payload⟩ ∈
                request.output := by
  have ran :
      ((relayNetwork stationHash).run ⟨∅, []⟩ answeredProbe).map
          (fun run => run.1.head?.map Record.output) =
        some
          (some
            [.delivered ⟨"right", "left", .pathProbe 1 5 true, probePayload⟩,
              .probe (.recorded 1 "right" (some 2000))]) := by
    decide +kernel
  obtain ⟨⟨log, network⟩, completed, observed⟩ :=
    Option.map_eq_some_iff.mp ran
  have execution := Machine.execution_of_run rfl completed
  have inputs := Machine.inputs_of_run completed
  obtain ⟨fits, unforged⟩ := plain_run (by decide +kernel) completed
  cases log with
  | nil =>
      cases observed
  | cons record older =>
      have recorded :
          .probe (.recorded 1 "right" (some 2000)) ∈ record.output := by
        rw [Option.some.inj observed]
        exact List.mem_cons_of_mem _ (List.mem_singleton_self _)
      have isTurn : record.input = .turn "left" (.probe 0 2000 7200) := by
        rw [List.map_cons] at inputs
        exact (List.cons.inj inputs).1
      have olderUnforged (source : String) : Unforged source older := by
        intro past member
        exact unforged source past (List.mem_cons_of_mem record member)
      obtain ⟨sentMicros, payload, later, answer, earlier, parts, answerTurn,
          _, request, requested, _, accepted⟩ :=
        @successful_probe_was_answered stationHash network [] older record
          "left" "right" _ 1 2000 execution fits (olderUnforged "left")
          (olderUnforged "right") isTurn recorded
      refine ⟨record, older, network, execution, recorded, answer, ?_,
        answerTurn, request, ?_, sentMicros, payload, accepted⟩
      · rw [parts]
        exact List.mem_append_right later List.mem_cons_self
      · rw [parts]
        exact
          List.mem_append_right later (List.mem_cons_of_mem answer requested)

/-- How often a run reports a fate. -/
def times (fate : Fate) (log : List NetworkStep) : Nat :=
  (log.flatMap Record.output).count fate

theorem count_movement (parcel : DecodedFrame) (fates : List Fate) :
    (Fate.movement fates).entered.count parcel =
        fates.count (.accepted parcel) + fates.count (.injected parcel) ∧
      (Fate.movement fates).copied.count parcel =
        fates.count (.duplicated parcel) ∧
      (Fate.movement fates).departed.count parcel =
        fates.count (.delivered parcel) + fates.count (.dropped parcel) +
          fates.count (.passedOn parcel) := by
  unfold Fate.movement
  simp only [Multiset.coe_count]
  induction fates with
  | nil =>
      exact ⟨rfl, rfl, rfl⟩
  | cons fate rest inductionHypothesis =>
      obtain ⟨entered, copied, departed⟩ := inductionHypothesis
      simp only [List.flatMap_cons, List.count_append, List.count_cons]
      rw [entered, copied, departed]
      cases fate with
      | probe event =>
          simp [Fate.entered, Fate.copied, Fate.departed]
      | accepted other | injected other | duplicated other
      | delivered other | dropped other | passedOn other =>
          by_cases same : other = parcel
          · simp [Fate.entered, Fate.copied, Fate.departed, same,
              Nat.add_assoc, Nat.add_comm, Nat.add_left_comm]
          · simp [Fate.entered, Fate.copied, Fate.departed, same]

theorem count_sum (parcel : DecodedFrame) (log : List NetworkStep) :
    (Movement.sum Fate.movement log).entered.count parcel =
        times (.accepted parcel) log + times (.injected parcel) log ∧
      (Movement.sum Fate.movement log).copied.count parcel =
        times (.duplicated parcel) log ∧
      (Movement.sum Fate.movement log).departed.count parcel =
        times (.delivered parcel) log + times (.dropped parcel) log +
          times (.passedOn parcel) log := by
  unfold times
  induction log with
  | nil =>
      exact ⟨rfl, rfl, rfl⟩
  | cons record older inductionHypothesis =>
      obtain ⟨entered, copied, departed⟩ := inductionHypothesis
      obtain ⟨enteredHere, copiedHere, departedHere⟩ :=
        count_movement parcel record.output
      simp only [List.flatMap_cons, List.count_append]
      refine ⟨?_, ?_, ?_⟩
      · have split :=
          Multiset.count_add parcel (Fate.movement record.output).entered
            (Movement.sum Fate.movement older).entered
        have whole :
            (Movement.sum Fate.movement (record :: older)).entered =
              (Fate.movement record.output).entered +
                (Movement.sum Fate.movement older).entered := rfl
        rw [whole, split, enteredHere, entered]
        omega
      · have split :=
          Multiset.count_add parcel (Fate.movement record.output).copied
            (Movement.sum Fate.movement older).copied
        have whole :
            (Movement.sum Fate.movement (record :: older)).copied =
              (Fate.movement record.output).copied +
                (Movement.sum Fate.movement older).copied := rfl
        rw [whole, split, copiedHere, copied]
      · have split :=
          Multiset.count_add parcel (Fate.movement record.output).departed
            (Movement.sum Fate.movement older).departed
        have whole :
            (Movement.sum Fate.movement (record :: older)).departed =
              (Fate.movement record.output).departed +
                (Movement.sum Fate.movement older).departed := rfl
        rw [whole, split, departedHere, departed]
        omega

/-- At any time every packet that came into the network, and every duplicate
that the overlay made of it, is in exactly one queue or on its way, or it was
delivered, dropped or passed on once. -/
theorem packets_accounted
    (execution : (relayNetwork hash).Execution log network)
    (eventsFit : ∀ record ∈ log, record.input.KeysFit)
    (parcel : DecodedFrame) :
    network.parcels.count parcel + times (.delivered parcel) log +
        times (.dropped parcel) log + times (.passedOn parcel) log =
      times (.accepted parcel) log + times (.injected parcel) log +
        times (.duplicated parcel) log := by
  have balance := relayNetwork_conserves.balance execution eventsFit
  obtain ⟨entered, copied, departed⟩ := count_sum parcel log
  have counted := congrArg (Multiset.count parcel) balance
  rw [Multiset.count_add, Multiset.count_add, entered, copied,
    departed] at counted
  omega

/-- Every packet of a short run is accounted for. -/
theorem packets_accounted_datagram :
    ∃ log network,
      (relayNetwork stationHash).Execution log network ∧
        times (.delivered ⟨"left", "right", .baseWireGuard, [1, 2, 3]⟩) log =
          1 ∧
        ∀ parcel,
          network.parcels.count parcel + times (.delivered parcel) log +
              times (.dropped parcel) log + times (.passedOn parcel) log =
            times (.accepted parcel) log + times (.injected parcel) log +
              times (.duplicated parcel) log := by
  have ran :
      ((relayNetwork stationHash).run ⟨∅, []⟩ relayedDatagram).map
          (fun run =>
            times (.delivered ⟨"left", "right", .baseWireGuard, [1, 2, 3]⟩)
              run.1) =
        some 1 := by
    decide +kernel
  obtain ⟨⟨log, network⟩, completed, observed⟩ :=
    Option.map_eq_some_iff.mp ran
  have execution := Machine.execution_of_run rfl completed
  obtain ⟨fits, _⟩ := plain_run (by decide +kernel) completed
  exact ⟨log, network, execution, observed,
    packets_accounted execution fits⟩

end Runs

end WgLink
