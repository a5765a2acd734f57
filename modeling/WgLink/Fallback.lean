import WgLink.RelayNetworkRuns

/-!
# The order in which the paths of a peer are tried

The broker of a peer takes the targets in the order of their health when it
reads a datagram, and goes on to the next one only when a relay has stopped.
A relay that has stopped stays so for the rest of the generation.
-/

namespace WgLink

open WgLink.Library

/-- The relay of a target has stopped. -/
def Gone (relays : List (Option RelayTask)) (target : PathTarget) : Prop :=
  ∀ task, relays[target.sender]? ≠ some (some task)

/-- No relay starts again. -/
def StaysGone (before after : List (Option RelayTask)) : Prop :=
  ∀ target, Gone before target → Gone after target

theorem StaysGone.refl (relays : List (Option RelayTask)) :
    StaysGone relays relays :=
  fun _ gone => gone

/-- Writing to the slot of a relay that is running. -/
theorem StaysGone.set
    {relays : List (Option RelayTask)} {index : Nat} {task : RelayTask}
    (running : relays[index]? = some (some task))
    (next : Option RelayTask) : StaysGone relays (relays.set index next) := by
  intro target gone other
  by_cases same : index = target.sender
  · rw [same] at running
    exact absurd running (gone task)
  · rw [List.getElem?_set_ne same]
    exact gone other

/-- How an attempt to send ends: in the queue of a running relay, or with the
targets that are left. -/
theorem attempt_cases
    {relays : List (Option RelayTask)} {sending : Sending}
    {outcome : Attempt} (attempted : attempt relays sending = some outcome) :
    (∃ task outbound,
      relays[sending.target.sender]? = some (some task) ∧
        task.outbound.send sending.packet = some outbound ∧
        outcome =
          .sent
            (relays.set sending.target.sender
              (some { task with outbound }))) ∨
      (Gone relays sending.target ∧
        outcome = .stopped (startSending sending.packet sending.rest)) := by
  unfold attempt at attempted
  split at attempted
  · rename_i task running
    obtain ⟨outbound, sent, same⟩ := Option.map_eq_some_iff.mp attempted
    exact Or.inl ⟨task, outbound, running, sent, same.symm⟩
  · rename_i notRunning
    right
    refine ⟨fun task running => notRunning task running, ?_⟩
    split at attempted
    · rename_i nothingLeft
      cases attempted
      rw [nothingLeft]
      rfl
    · rename_i target rest targetsLeft
      cases attempted
      rw [targetsLeft]
      rfl

/-- The packet is the one that was read, and of the targets listed then all
before the present one have stopped. -/
def Pursues (relays : List (Option RelayTask)) (targets : List PathTarget)
    (packet : RelayPacket) (sending : Sending) : Prop :=
  sending.packet = packet ∧
    ∃ tried,
      targets = tried ++ sending.target :: sending.rest ∧
        ∀ target ∈ tried, Gone relays target

theorem Pursues.start
    {relays : List (Option RelayTask)} {targets : List PathTarget}
    {packet : RelayPacket} {sending : Sending}
    (started : startSending packet targets = some sending) :
    Pursues relays targets packet sending := by
  cases targets with
  | nil =>
      cases started
  | cons target rest =>
      cases started
      refine ⟨rfl, [], rfl, ?_⟩
      intro tried member
      cases member

theorem Pursues.advance
    {relays : List (Option RelayTask)} {targets : List PathTarget}
    {packet : RelayPacket} {sending next : Sending}
    (pursues : Pursues relays targets packet sending)
    (gone : Gone relays sending.target)
    (left : startSending sending.packet sending.rest = some next) :
    Pursues relays targets packet next := by
  obtain ⟨samePacket, tried, listed, allGone⟩ := pursues
  cases rest : sending.rest with
  | nil =>
      rw [rest] at left
      cases left
  | cons target others =>
      rw [rest] at left listed
      cases left
      refine ⟨samePacket, tried ++ [sending.target], ?_, ?_⟩
      · rw [listed, List.append_assoc]
        rfl
      · intro other member
        rcases List.mem_append.mp member with earlier | last
        · exact allGone other earlier
        · rw [List.mem_singleton.mp last]
          exact gone

theorem Pursues.mono
    {before after : List (Option RelayTask)} {targets : List PathTarget}
    {packet : RelayPacket} {sending : Sending}
    (stays : StaysGone before after)
    (pursues : Pursues before targets packet sending) :
    Pursues after targets packet sending := by
  obtain ⟨samePacket, tried, listed, allGone⟩ := pursues
  exact ⟨samePacket, tried, listed, fun target member =>
    stays target (allGone target member)⟩

/-! ## What the turns do to a sending broker -/

/-- Where the packet that a broker is sending comes from: it was sending it
before, it has just read it, or it has gone on to the next target. -/
inductive Sends (station : Station) (peer : String) (next : Sending) :
    StationEvent → Prop
  | before {event : StationEvent} {inbound : Channel 256 Bytes} :
      station.brokers.lookup peer = some ⟨inbound, some next⟩ →
      Sends station peer next event
  | read {payload : Bytes} {paths : PathSet} :
      station.paths.lookup peer = some paths →
      startSending ⟨peer, .baseWireGuard, payload⟩
          (orderedHealthyTargets peer paths station.metrics) =
        some next →
      Sends station peer next (.datagram peer true payload)
  | advanced {inbound : Channel 256 Bytes} {sending : Sending} :
      station.brokers.lookup peer = some ⟨inbound, some sending⟩ →
      Gone station.relays sending.target →
      startSending sending.packet sending.rest = some next →
      Sends station peer next (.forward peer)

/-- A turn starts no relay again, and what its brokers are sending is
accounted for. -/
def Turn.Continues (station : Station) (event : StationEvent)
    (turn : Turn) : Prop :=
  StaysGone station.relays turn.station.relays ∧
    ∀ peer inbound next,
      turn.station.brokers.lookup peer = some ⟨inbound, some next⟩ →
      Sends station peer next event

section Continuing

variable {hash : Hash} {key : String} {station : Station} {turn : Turn}
  {event : StationEvent}

theorem continues_of_same_brokers
    (stays : StaysGone station.relays turn.station.relays)
    (same : turn.station.brokers = station.brokers) :
    turn.Continues station event := by
  refine ⟨stays, ?_⟩
  intro peer inbound next found
  rw [same] at found
  exact Sends.before found

/-- A broker that is written back is sending something allowed, and the
others are as before. -/
theorem continues_of_insert
    {peer : String} {broker : PeerBroker} {next : Station}
    {sent : List Transmission} {fates : List Fate}
    (stays : StaysGone station.relays next.relays)
    (written : next.brokers = station.brokers.insert peer broker)
    (allowed :
      ∀ sending, broker.sending = some sending →
        Sends station peer sending event) :
    Turn.Continues station event ⟨next, sent, fates⟩ := by
  refine ⟨stays, ?_⟩
  intro other inbound sending found
  simp only [written] at found
  rw [HashMap.lookup_insert_eq_ite] at found
  split at found
  · rename_i same
    rw [same]
    apply allowed
    rw [Option.some.inj found]
  · exact Sends.before found

theorem endBroker_continues {peer : String} {broker : PeerBroker} :
    (station.endBroker key peer broker).Continues station event := by
  refine ⟨StaysGone.refl _, ?_⟩
  intro other inbound next found
  simp only [Station.endBroker] at found
  rw [HashMap.lookup_erase_eq_ite] at found
  split at found
  · cases found
  · exact Sends.before found

theorem datagramRead_continues
    {peer : String} {fromWireguard : Bool} {payload : Bytes}
    (taken :
      station.datagramRead key peer fromWireguard payload = some turn) :
    turn.Continues station (.datagram peer fromWireguard payload) := by
  unfold Station.datagramRead at taken
  split at taken
  case h_2 => cases taken
  rename_i inbound paths present pathsPresent
  cases fromWireguard with
  | false =>
      cases taken
      exact continues_of_same_brokers (StaysGone.refl _) rfl
  | true =>
      simp only [if_true] at taken
      split at taken
      · cases taken
        exact continues_of_same_brokers (StaysGone.refl _) rfl
      · rename_i sending started
        cases taken
        refine continues_of_insert (StaysGone.refl station.relays) rfl ?_
        intro other same
        cases same
        exact Sends.read pathsPresent started

theorem forward_continues
    {peer : String} (taken : station.forward key peer = some turn) :
    turn.Continues station (.forward peer) := by
  unfold Station.forward at taken
  split at taken
  case h_2 => cases taken
  rename_i inbound sending present
  obtain ⟨tried, attempted, same⟩ := Option.map_eq_some_iff.mp taken
  rcases attempt_cases attempted with
    ⟨task, outbound, running, _, rfl⟩ | ⟨gone, rfl⟩
  · cases same
    refine continues_of_insert (StaysGone.set running _) rfl ?_
    intro other impossible
    cases impossible
  · cases left : startSending sending.packet sending.rest with
    | none =>
        rw [left] at same
        cases same
        exact endBroker_continues
    | some next =>
        rw [left] at same
        cases same
        refine continues_of_insert (StaysGone.refl station.relays) rfl ?_
        intro other isNext
        cases isNext
        exact Sends.advanced present gone left

theorem toWireguard_continues
    {peer : String} {failed : Bool}
    (taken : station.toWireguard key peer failed = some turn) :
    turn.Continues station event := by
  unfold Station.toWireguard at taken
  split at taken
  case h_2 => cases taken
  obtain ⟨⟨payload, rest⟩, received, same⟩ := Option.map_eq_some_iff.mp taken
  cases failed with
  | true =>
      cases same
      exact endBroker_continues
  | false =>
      cases same
      refine continues_of_insert (StaysGone.refl station.relays) rfl ?_
      intro other impossible
      cases impossible

theorem forwardDispatched_continues
    (taken : station.forwardDispatched key = some turn) :
    turn.Continues station event := by
  unfold Station.forwardDispatched at taken
  split at taken
  case h_2 => cases taken
  rename_i inbound sending present
  obtain ⟨tried, attempted, same⟩ := Option.map_eq_some_iff.mp taken
  rcases attempt_cases attempted with
    ⟨task, outbound, running, _, rfl⟩ | ⟨gone, rfl⟩
  · cases same
    exact continues_of_same_brokers (StaysGone.set running _) rfl
  · cases left : startSending sending.packet sending.rest with
    | none =>
        rw [left] at same
        cases same
        exact continues_of_same_brokers (StaysGone.refl _) rfl
    | some next =>
        rw [left] at same
        cases same
        exact continues_of_same_brokers (StaysGone.refl _) rfl

theorem dispatch_continues
    (taken : station.dispatch key = some turn) :
    turn.Continues station event := by
  unfold Station.dispatch at taken
  split at taken
  case h_2 => cases taken
  obtain ⟨⟨packet, rest⟩, received, same⟩ := Option.map_eq_some_iff.mp taken
  simp only at same
  split at same
  · cases same
    exact continues_of_same_brokers (StaysGone.refl _) rfl
  · cases same
    exact continues_of_same_brokers (StaysGone.refl _) rfl

theorem relayTurn_continues
    {index : Nat} {target : PathTarget} {task running : RelayTask}
    {relayEvent : RelayEvent}
    (present : station.relays[index]? = some (some running))
    (taken :
      station.relayTurn hash key index target task relayEvent =
        some turn) :
    turn.Continues station event := by
  unfold Station.relayTurn at taken
  obtain ⟨⟨relay, probes⟩, stepped, same⟩ := Option.map_eq_some_iff.mp taken
  cases same
  exact continues_of_same_brokers (StaysGone.set present _) rfl

theorem step_continues
    (taken : station.step hash key event = some turn) :
    turn.Continues station event := by
  cases event with
  | datagram peer fromWireguard payload =>
      exact datagramRead_continues taken
  | forward peer =>
      exact forward_continues taken
  | toWireguard peer failed =>
      exact toWireguard_continues taken
  | brokerStops peer =>
      obtain ⟨broker, present, same⟩ := Option.map_eq_some_iff.mp taken
      rw [← same]
      exact endBroker_continues
  | submit peerKey session payload =>
      obtain ⟨dispatcher, present, queued⟩ := Option.bind_eq_some_iff.mp taken
      obtain ⟨inbound, sent, same⟩ := Option.map_eq_some_iff.mp queued
      cases same
      exact continues_of_same_brokers (StaysGone.refl _) rfl
  | dispatch =>
      exact dispatch_continues taken
  | forwardDispatched =>
      exact forwardDispatched_continues taken
  | dispatcherStops =>
      obtain ⟨dispatcher, present, same⟩ := Option.map_eq_some_iff.mp taken
      cases same
      exact continues_of_same_brokers (StaysGone.refl _) rfl
  | refresh index routes now order clocks =>
      obtain ⟨⟨task, target⟩, running, turned⟩ :=
        Option.bind_eq_some_iff.mp taken
      exact relayTurn_continues (runningRelay_eq_some running).1 turned
  | sent index send outcome now =>
      obtain ⟨⟨task, target⟩, running, turned⟩ :=
        Option.bind_eq_some_iff.mp taken
      exact relayTurn_continues (runningRelay_eq_some running).1 turned
  | probe index now unixNow =>
      obtain ⟨⟨task, target⟩, running, received⟩ :=
        Option.bind_eq_some_iff.mp taken
      obtain ⟨⟨packet, probeInbound⟩, popped, turned⟩ :=
        Option.bind_eq_some_iff.mp received
      obtain ⟨inner, stepped, same⟩ := Option.map_eq_some_iff.mp turned
      cases same
      have continued : inner.Continues station (.probe index now unixNow) :=
        relayTurn_continues (runningRelay_eq_some running).1 stepped
      exact continued
  | outbound index unixNow error =>
      obtain ⟨⟨task, target⟩, running, received⟩ :=
        Option.bind_eq_some_iff.mp taken
      obtain ⟨⟨packet, outbound⟩, popped, turned⟩ :=
        Option.bind_eq_some_iff.mp received
      obtain ⟨inner, stepped, same⟩ := Option.map_eq_some_iff.mp turned
      cases same
      have continued :
          inner.Continues station (.outbound index unixNow error) :=
        relayTurn_continues (runningRelay_eq_some running).1 stepped
      exact continued
  | relayStops index =>
      obtain ⟨⟨task, target⟩, running, same⟩ :=
        Option.map_eq_some_iff.mp taken
      cases same
      exact continues_of_same_brokers
        (StaysGone.set (runningRelay_eq_some running).1 none) rfl
  | toDevice =>
      obtain ⟨⟨packet, shortcutInbound⟩, popped, same⟩ :=
        Option.map_eq_some_iff.mp taken
      cases same
      exact continues_of_same_brokers (StaysGone.refl _) rfl
  | select peer pathId =>
      obtain ⟨paths, _, same⟩ := Option.map_eq_some_iff.mp taken
      cases same
      exact continues_of_same_brokers (StaysGone.refl _) rfl
  | metricsWritten metrics =>
      cases taken
      exact continues_of_same_brokers (StaysGone.refl _) rfl

/-- The brokers are sending what they were sending before. -/
def SameSendings (station next : Station) : Prop :=
  StaysGone station.relays next.relays ∧
    ∀ peer inbound sending,
      next.brokers.lookup peer = some ⟨inbound, some sending⟩ →
      ∃ earlier,
        station.brokers.lookup peer = some ⟨earlier, some sending⟩

theorem SameSendings.of_brokers
    {next : Station} (stays : StaysGone station.relays next.relays)
    (same : next.brokers = station.brokers) : SameSendings station next := by
  refine ⟨stays, ?_⟩
  intro peer inbound sending found
  rw [same] at found
  exact ⟨inbound, found⟩

theorem trySendBroker_sameSendings (frame : DecodedFrame) :
    SameSendings station (station.trySendBroker frame).1 := by
  unfold Station.trySendBroker
  split
  · exact SameSendings.of_brokers (StaysGone.refl _) rfl
  rename_i broker present
  split
  · exact SameSendings.of_brokers (StaysGone.refl _) rfl
  refine ⟨StaysGone.refl _, ?_⟩
  intro peer inbound sending found
  simp only [Station.setBroker] at found
  rw [HashMap.lookup_insert_eq_ite] at found
  split at found
  · rename_i same
    obtain ⟨queue, busy⟩ := broker
    cases found
    rw [same]
    exact ⟨queue, present⟩
  · exact ⟨inbound, found⟩

theorem tryProcessPacketFromPeer_sameSendings
    (index : Nat) (target : PathTarget) {task : RelayTask}
    (packet : ZCPacket)
    (present : station.relays[index]? = some (some task)) :
    SameSendings station
      (station.tryProcessPacketFromPeer key index target task packet).1 := by
  have unchanged : SameSendings station station :=
    SameSendings.of_brokers (StaysGone.refl _) rfl
  unfold Station.tryProcessPacketFromPeer
  split
  · exact unchanged
  split
  · rename_i frame decoded
    split
    · exact unchanged
    simp only
    split
    · split
      · exact
          @trySendBroker_sameSendings
            { station with
              metrics :=
                MetricsRegistry.recordRx station.metrics frame.source
                  target.id frame.payload.length }
            frame
      · exact unchanged
    · split
      · exact unchanged
      · exact SameSendings.of_brokers (StaysGone.refl _) rfl
    · split
      · exact unchanged
      · exact SameSendings.of_brokers (StaysGone.set present _) rfl
  · exact unchanged

/-- A packet from the overlay leaves what the brokers are sending as it
is. -/
theorem received_sameSendings
    {index : Nat} {packet : ZCPacket}
    (taken : station.received key index packet = some turn) :
    SameSendings station turn.station := by
  unfold Station.received at taken
  obtain ⟨⟨task, target⟩, running, same⟩ := Option.map_eq_some_iff.mp taken
  have kept :=
    @tryProcessPacketFromPeer_sameSendings key station index target task
      packet (runningRelay_eq_some running).1
  simp only at same
  split at same
  · rename_i processed
    rw [processed] at kept
    cases same
    exact kept
  · rename_i processed
    rw [processed] at kept
    cases same
    exact kept

end Continuing

/-! ## Runs -/

section Runs

variable {hash : Hash} {log : List NetworkStep} {network : Network}

/-- The step at which the broker of a peer read a datagram, and the targets it
found. -/
def ReadAt (record : NetworkStep) (key peer : String) (payload : Bytes)
    (targets : List PathTarget) : Prop :=
  record.input = .turn key (.datagram peer true payload) ∧
    ∃ station paths,
      record.before.stations.lookup key = some station ∧
        station.paths.lookup peer = some paths ∧
        targets = orderedHealthyTargets peer paths station.metrics

/-- Every packet that a broker is sending was read, and the targets before the
present one have stopped. -/
def SendingsTraced (log : List NetworkStep) (network : Network) : Prop :=
  ∀ key station peer inbound sending,
    network.stations.lookup key = some station →
    station.brokers.lookup peer = some ⟨inbound, some sending⟩ →
    ∃ read ∈ log, ∃ payload targets,
      ReadAt read key peer payload targets ∧
        Pursues station.relays targets ⟨peer, .baseWireGuard, payload⟩
          sending

theorem SendingsTraced.cons
    (traced : SendingsTraced log network) (record : NetworkStep) :
    SendingsTraced (record :: log) network := by
  intro key station peer inbound sending present sends
  obtain ⟨read, member, rest⟩ :=
    traced key station peer inbound sending present sends
  exact ⟨read, List.mem_cons_of_mem record member, rest⟩

/-- A station is written back whose brokers are sending what they were. -/
theorem SendingsTraced.insert
    {flight : List Transmission} {key : String} {next : Station}
    (traced : SendingsTraced log network)
    (continues :
      ∀ peer inbound sending,
        next.brokers.lookup peer = some ⟨inbound, some sending⟩ →
        ∃ read ∈ log, ∃ payload targets,
          ReadAt read key peer payload targets ∧
            Pursues next.relays targets ⟨peer, .baseWireGuard, payload⟩
              sending) :
    SendingsTraced log ⟨network.stations.insert key next, flight⟩ := by
  intro other found peer inbound sending foundIs sends
  simp only at foundIs
  rw [HashMap.lookup_insert_eq_ite] at foundIs
  split at foundIs
  · rename_i same
    cases foundIs
    rw [same]
    exact continues peer inbound sending sends
  · exact traced other found peer inbound sending foundIs sends

theorem turn_traced
    {key : String} {event : StationEvent} {after : Network}
    {fates : List Fate} (traced : SendingsTraced log network)
    (taken : network.step hash (.turn key event) = some (after, fates)) :
    SendingsTraced (⟨network, .turn key event, fates, after⟩ :: log)
      after := by
  obtain ⟨station, present, stepped⟩ := Option.bind_eq_some_iff.mp taken
  obtain ⟨turn, turnTaken, same⟩ := Option.map_eq_some_iff.mp stepped
  cases same
  obtain ⟨stays, continues⟩ := step_continues turnTaken
  apply SendingsTraced.insert (traced.cons _)
  intro peer inbound sending sends
  cases continues peer inbound sending sends with
  | before earlier =>
      obtain ⟨read, member, payload, targets, readAt, pursues⟩ :=
        traced key station peer _ sending present earlier
      exact ⟨read, List.mem_cons_of_mem _ member, payload, targets, readAt,
        pursues.mono stays⟩
  | @read payload paths pathsPresent started =>
      refine
        ⟨_, List.mem_cons_self, payload, _,
          ⟨rfl, station, paths, present, pathsPresent, rfl⟩, ?_⟩
      exact Pursues.start started
  | @advanced _ earlier wasSending gone left =>
      obtain ⟨read, member, payload, targets, readAt, pursues⟩ :=
        traced key station peer _ earlier present wasSending
      exact ⟨read, List.mem_cons_of_mem _ member, payload, targets, readAt,
        (pursues.advance gone left).mono stays⟩

theorem deliver_traced
    {position : Nat} {key : String} {index : Nat} {after : Network}
    {fates : List Fate} (traced : SendingsTraced log network)
    (taken :
      network.step hash (.deliver position key index) =
        some (after, fates)) :
    SendingsTraced log after := by
  obtain ⟨sent, carried, atStation⟩ := Option.bind_eq_some_iff.mp taken
  obtain ⟨station, present, stepped⟩ := Option.bind_eq_some_iff.mp atStation
  obtain ⟨turn, turnTaken, same⟩ := Option.map_eq_some_iff.mp stepped
  cases same
  obtain ⟨stays, sameSendings⟩ := received_sameSendings turnTaken
  apply SendingsTraced.insert traced
  intro peer inbound sending sends
  obtain ⟨earlier, wasSending⟩ := sameSendings peer inbound sending sends
  obtain ⟨read, member, payload, targets, readAt, pursues⟩ :=
    traced key station peer _ sending present wasSending
  exact ⟨read, member, payload, targets, readAt, pursues.mono stays⟩

/-- The brokers of a station that starts are not sending. -/
theorem setUp_not_sending
    {spec : StationSpec} {metrics : MetricsRegistry} {peer : String}
    {inbound : Channel 256 Bytes} {sending : Sending} :
    (Station.setUp spec metrics).brokers.lookup peer ≠
      some ⟨inbound, some sending⟩ := by
  intro found
  have listed := HashMap.mem_of_lookup_collect found
  obtain ⟨_, _, impossible⟩ := List.mem_map.mp listed
  cases impossible

theorem step_traced
    {record : NetworkStep} (traced : SendingsTraced log record.before)
    (taken : (relayNetwork hash).Takes record) :
    SendingsTraced (record :: log) record.after := by
  obtain ⟨network, event, fates, after⟩ := record
  have stepped : network.step hash event = some (after, fates) := taken
  simp only at traced ⊢
  cases event with
  | turn key event =>
      exact turn_traced traced stepped
  | deliver position key index =>
      exact (deliver_traced traced stepped).cons _
  | lose position =>
      obtain ⟨sent, carried, same⟩ := Option.map_eq_some_iff.mp stepped
      cases same
      exact traced.cons _
  | duplicate position =>
      obtain ⟨sent, carried, same⟩ := Option.map_eq_some_iff.mp stepped
      cases same
      exact traced.cons _
  | inject sent =>
      cases stepped
      exact traced.cons _
  | joins key spec metrics =>
      simp only [Network.step] at stepped
      split at stepped
      · cases stepped
      cases stepped
      apply SendingsTraced.insert (traced.cons _)
      intro peer inbound sending sends
      exact absurd sends setUp_not_sending
  | leaves key =>
      obtain ⟨station, present, ended⟩ := Option.bind_eq_some_iff.mp stepped
      split at ended
      · cases ended
        intro other found peer inbound sending foundIs sends
        simp only at foundIs
        rw [HashMap.lookup_erase_eq_ite] at foundIs
        split at foundIs
        · cases foundIs
        · exact
            traced.cons _ other found peer inbound sending foundIs sends
      · cases ended

theorem sendings_traced
    (execution : (relayNetwork hash).Execution log network) :
    SendingsTraced log network := by
  induction execution with
  | start started =>
      intro key station peer inbound sending present
      rw [started] at present
      cases present
  | step earlier taken inductionHypothesis =>
      exact step_traced inductionHypothesis taken

/-- What an attempt of a broker does with the packet that it is sending.  The
first target whose relay runs gets it, and the broker is free again.  A target
whose relay has stopped is skipped, and the broker keeps the packet for the
targets after it.  Only after the last one the broker drops the packet and
ends. -/
inductive ForwardOutcome (key peer : String) (before after : Station)
    (fates : List Fate) (packet : RelayPacket)
    (targets : List PathTarget) : Prop
  | queued (tried : List PathTarget) (target : PathTarget)
      (rest : List PathTarget) (inbound : Channel 256 Bytes)
      (task : RelayTask) (outbound : Channel 256 RelayPacket) :
      targets = tried ++ target :: rest →
      (∀ other ∈ tried, Gone before.relays other) →
      before.brokers.lookup peer =
        some ⟨inbound, some ⟨packet, target, rest⟩⟩ →
      before.relays[target.sender]? = some (some task) →
      task.outbound.send packet = some outbound →
      after.relays =
        before.relays.set target.sender (some { task with outbound }) →
      after.brokers.lookup peer = some ⟨inbound, none⟩ →
      fates = [] →
      ForwardOutcome key peer before after fates packet targets
  | skipped (tried : List PathTarget) (target next : PathTarget)
      (rest : List PathTarget) (inbound : Channel 256 Bytes) :
      targets = tried ++ target :: next :: rest →
      (∀ other ∈ tried ++ [target], Gone before.relays other) →
      before.brokers.lookup peer =
        some ⟨inbound, some ⟨packet, target, next :: rest⟩⟩ →
      after.relays = before.relays →
      after.brokers.lookup peer =
        some ⟨inbound, some ⟨packet, next, rest⟩⟩ →
      fates = [] →
      ForwardOutcome key peer before after fates packet targets
  | abandoned (tried : List PathTarget) (target : PathTarget)
      (inbound : Channel 256 Bytes) :
      targets = tried ++ [target] →
      (∀ other ∈ targets, Gone before.relays other) →
      before.brokers.lookup peer =
        some ⟨inbound, some ⟨packet, target, []⟩⟩ →
      after.brokers.lookup peer = none →
      .dropped (outParcel key packet) ∈ fates →
      ForwardOutcome key peer before after fates packet targets

theorem forward_outcome
    {key peer : String} {station : Station} {turn : Turn}
    {inbound : Channel 256 Bytes} {sending : Sending}
    {targets : List PathTarget} {packet : RelayPacket}
    (taken : station.forward key peer = some turn)
    (sends : station.brokers.lookup peer = some ⟨inbound, some sending⟩)
    (pursues : Pursues station.relays targets packet sending) :
    ForwardOutcome key peer station turn.station turn.fates packet
      targets := by
  unfold Station.forward at taken
  rw [sends] at taken
  obtain ⟨outcome, attempted, same⟩ := Option.map_eq_some_iff.mp taken
  obtain ⟨sent, target, rest⟩ := sending
  obtain ⟨rfl, tried, listed, allGone⟩ := pursues
  simp only at sends listed attempted same
  rcases attempt_cases attempted with
    ⟨task, outbound, running, queued, rfl⟩ | ⟨gone, rfl⟩
  · cases same
    exact
      .queued tried target rest inbound task outbound listed allGone sends
        running queued rfl (Finmap.lookup_insert _) rfl
  · have throughTarget :
        ∀ other ∈ tried ++ [target], Gone station.relays other := by
      intro other member
      rcases List.mem_append.mp member with earlier | last
      · exact allGone other earlier
      · rw [List.mem_singleton.mp last]
        exact gone
    cases rest with
    | nil =>
        cases same
        rw [← listed] at throughTarget
        refine .abandoned tried target inbound listed throughTarget sends ?_ ?_
        · exact Finmap.lookup_erase peer station.brokers
        · exact
            List.mem_map_of_mem
              (List.mem_append_right _ List.mem_cons_self)
    | cons next others =>
        cases same
        exact
          .skipped tried target next others inbound listed throughTarget sends
            rfl (Finmap.lookup_insert _) rfl

/-- A broker hands every datagram it has read to the first relay that runs, in
the order of their health at the time of reading, and gives up only when all
relays of the peer have stopped. -/
theorem broker_takes_first_running_relay
    {newer older : List NetworkStep} {record : NetworkStep}
    {key peer : String}
    (execution :
      (relayNetwork hash).Execution (newer ++ record :: older) network)
    (isForward : record.input = .turn key (.forward peer)) :
    ∃ read ∈ older, ∃ payload targets before after,
      ReadAt read key peer payload targets ∧
        record.before.stations.lookup key = some before ∧
        record.after.stations.lookup key = some after ∧
        ForwardOutcome key peer before after record.output
          ⟨peer, .baseWireGuard, payload⟩ targets := by
  obtain ⟨earlier, taken⟩ := Machine.Execution.split execution
  obtain ⟨reached, event, fates, next⟩ := record
  simp only at isForward earlier ⊢
  subst isForward
  obtain ⟨station, present, stepped⟩ := Option.bind_eq_some_iff.mp taken
  obtain ⟨turn, turnTaken, same⟩ := Option.map_eq_some_iff.mp stepped
  have forwarded : station.forward key peer = some turn := turnTaken
  cases sends : station.brokers.lookup peer with
  | none =>
      unfold Station.forward at forwarded
      rw [sends] at forwarded
      cases forwarded
  | some broker =>
      obtain ⟨inbound, busy⟩ := broker
      cases busy with
      | none =>
          unfold Station.forward at forwarded
          rw [sends] at forwarded
          cases forwarded
      | some sending =>
          obtain ⟨read, member, payload, targets, readAt, pursues⟩ :=
            sendings_traced earlier key station peer inbound sending present
              sends
          have afterIs : (reached.turned key turn).1 = next :=
            congrArg Prod.fst same
          have fatesAre : turn.fates = fates := congrArg Prod.snd same
          rw [← afterIs, ← fatesAre]
          exact
            ⟨read, member, payload, targets, station, turn.station, readAt,
              present, Finmap.lookup_insert _,
              forward_outcome forwarded sends pursues⟩

/-- The first of two relays stops while a datagram waits for it. -/
def stoppedRelay : List NetworkEvent :=
  [.joins "left"
      ⟨["right"], [testTarget, { testTarget with sender := 1 }]⟩ ∅,
    .turn "left" (.datagram "right" true [1, 2, 3]),
    .turn "left" (.relayStops 0),
    .turn "left" (.forward "right"),
    .turn "left" (.forward "right")]

/-- The datagram is read, and at the end it waits in the second relay. -/
theorem broker_takes_first_running_relay_of_two :
    ∃ record older network,
      (relayNetwork stationHash).Execution (record :: older) network ∧
        record.input = .turn "left" (.forward "right") ∧
        ∃ read ∈ older, ∃ payload targets before after,
          ReadAt read "left" "right" payload targets ∧
            ForwardOutcome "left" "right" before after record.output
              ⟨"right", .baseWireGuard, payload⟩ targets := by
  have ran :
      ((relayNetwork stationHash).run ⟨∅, []⟩ stoppedRelay).map
          (fun run => run.1.length) =
        some 5 := by
    decide +kernel
  obtain ⟨⟨log, network⟩, completed, observed⟩ :=
    Option.map_eq_some_iff.mp ran
  have execution := Machine.execution_of_run rfl completed
  have inputs := Machine.inputs_of_run completed
  cases log with
  | nil =>
      cases observed
  | cons record older =>
      have isForward : record.input = .turn "left" (.forward "right") := by
        rw [List.map_cons] at inputs
        exact (List.cons.inj inputs).1
      obtain ⟨read, member, payload, targets, before, after, readAt, _, _,
        outcome⟩ :=
        @broker_takes_first_running_relay stationHash network [] older record
          "left" "right" execution isForward
      exact ⟨record, older, network, execution, isForward, read, member,
        payload, targets, before, after, readAt, outcome⟩

end Runs

end WgLink
