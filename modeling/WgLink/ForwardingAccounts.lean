import Mathlib.Tactic.Abel
import WgLink.Forwarding
import WgLink.Library.Conservation

/-!
# The packets that a station holds

Every turn of a station accounts for the packets in its queues: what it held
before the turn and what it accepts is what it holds afterwards, what it
sends, and what leaves.
-/

namespace WgLink

open WgLink.Library

namespace Fate

def entered : Fate → List DecodedFrame
  | accepted parcel => [parcel]
  | injected parcel => [parcel]
  | _ => []

def copied : Fate → List DecodedFrame
  | duplicated parcel => [parcel]
  | _ => []

def departed : Fate → List DecodedFrame
  | delivered parcel => [parcel]
  | dropped parcel => [parcel]
  | passedOn parcel => [parcel]
  | _ => []

/-- What the fates of a step say about the packets. -/
def movement (fates : List Fate) : Movement DecodedFrame where
  entered := ↑(fates.flatMap entered)
  copied := ↑(fates.flatMap copied)
  departed := ↑(fates.flatMap departed)

end Fate

/-- The parcels that can be written into a frame and read from it. -/
def DecodedFrame.KeysFit (parcel : DecodedFrame) : Prop :=
  KeyFits parcel.source ∧ KeyFits parcel.target

/-! ## Frames on their way -/

theorem encodeKeys_inj
    {source target otherSource otherTarget : String}
    {payload otherPayload : Bytes}
    (sourceFits : KeyFits source) (targetFits : KeyFits target)
    (otherSourceFits : KeyFits otherSource)
    (otherTargetFits : KeyFits otherTarget)
    (same :
      encodeKeys source target payload =
        encodeKeys otherSource otherTarget otherPayload) :
    source = otherSource ∧ target = otherTarget ∧
      payload = otherPayload := by
  unfold encodeKeys at same
  obtain ⟨sourceLengths, sameRest⟩ :=
    List.append_inj same (by rw [length_beBytes, length_beBytes])
  obtain ⟨targetLengths, sameBody⟩ :=
    List.append_inj sameRest (by rw [length_beBytes, length_beBytes])
  have sourceLength :
      (asBytes source).length = (asBytes otherSource).length := by
    rw [← sourceFits.beValue_length, ← otherSourceFits.beValue_length,
      sourceLengths]
  have targetLength :
      (asBytes target).length = (asBytes otherTarget).length := by
    rw [← targetFits.beValue_length, ← otherTargetFits.beValue_length,
      targetLengths]
  obtain ⟨sameSource, sameTail⟩ := List.append_inj sameBody sourceLength
  obtain ⟨sameTarget, samePayload⟩ := List.append_inj sameTail targetLength
  exact ⟨asBytes_inj sameSource, asBytes_inj sameTarget, samePayload⟩

theorem mem_readable {frame : Bytes} {parcel : DecodedFrame} :
    parcel ∈ readable frame ↔ decodeFrame frame = .accept parcel := by
  unfold readable
  cases decodeFrame frame <;> simp [eq_comm]

/-- A frame that can be decoded has keys that fit. -/
theorem keysFit_of_mem_readable
    {frame : Bytes} {parcel : DecodedFrame}
    (member : parcel ∈ readable frame) : parcel.KeysFit := by
  rw [mem_readable, decodeFrame_eq_accept] at member
  exact ⟨member.1.1, member.1.2.1⟩

theorem keysFit_of_mem_parcels
    {sent : Transmission} {parcel : DecodedFrame}
    (member : parcel ∈ sent.parcels) : parcel.KeysFit := by
  unfold Transmission.parcels at member
  split at member
  · exact keysFit_of_mem_readable member
  · cases member

/-- A frame is decoded as it was encoded, or not at all. -/
theorem readable_encode {parcel : DecodedFrame} (fits : parcel.KeysFit) :
    readable parcel.encode = [parcel] ∨ readable parcel.encode = [] := by
  unfold readable
  cases decoded : decodeFrame parcel.encode with
  | abort =>
      exact Or.inr rfl
  | reject =>
      exact Or.inr rfl
  | accept other =>
      left
      have parts := decoded
      unfold DecodedFrame.encode at parts
      rw [encodeFrame_eq, decodeFrame_encodeHeader,
        Parsed.bind_eq_accept] at parts
      obtain ⟨⟨source, target, payload⟩, keys, same⟩ := parts
      cases same
      rw [decodeKeysAndPayload_eq_accept (headerLength_le parcel.channel),
        List.drop_left] at keys
      obtain ⟨sameSource, sameTarget, samePayload⟩ :=
        encodeKeys_inj fits.1 fits.2 keys.2.1 keys.2.2.1 keys.1
      cases parcel
      simp only at sameSource sameTarget samePayload
      simp only [sameSource, sameTarget, samePayload]

/-! ## What a station holds -/

/-- The packets in the queues of a relay task, if it is running. -/
def slotParcels (localKey : String) (slot : Option RelayTask) :
    List DecodedFrame :=
  slot.elim [] (RelayTask.parcels localKey)

namespace Station

variable (localKey : String)

def brokersHold (brokers : HashMap String PeerBroker) :
    Multiset DecodedFrame :=
  HashMap.total (fun peer broker => ↑(broker.parcels localKey peer)) brokers

def dispatcherHolds (dispatcher : Option Dispatcher) :
    Multiset DecodedFrame :=
  ↑(dispatcher.elim [] (Dispatcher.parcels localKey))

def relaysHold (relays : List (Option RelayTask)) : Multiset DecodedFrame :=
  ↑(relays.flatMap (slotParcels localKey))

def deviceHolds (shortcutInbound : Channel 256 InboundRelayPacket) :
    Multiset DecodedFrame :=
  ↑(shortcutInbound.items.map (inParcel localKey))

/-- All packets that are in the queues and hands of the tasks. -/
def parcels (station : Station) : Multiset DecodedFrame :=
  brokersHold localKey station.brokers +
    dispatcherHolds localKey station.dispatcher +
    relaysHold localKey station.relays +
    deviceHolds localKey station.shortcutInbound

end Station

/-- The packets of a list of transmissions. -/
def sentParcels (sent : List Transmission) : Multiset DecodedFrame :=
  ↑(sent.flatMap Transmission.parcels)

/-- The turn accounts for the packets of the station. -/
def Turn.Balanced (localKey : String) (station : Station) (turn : Turn) :
    Prop :=
  turn.station.parcels localKey + sentParcels turn.sent +
      (Fate.movement turn.fates).departed =
    station.parcels localKey + (Fate.movement turn.fates).entered

/-! ## One place at a time -/

section Places

variable (localKey : String)

/-- The broker of a peer and the other brokers. -/
theorem brokersHold_split
    {brokers : HashMap String PeerBroker} {peer : String}
    {broker : PeerBroker} (present : brokers.lookup peer = some broker) :
    ∃ others,
      Station.brokersHold localKey brokers =
          ↑(broker.parcels localKey peer) + others ∧
        (∀ next,
          Station.brokersHold localKey (brokers.insert peer next) =
            ↑(next.parcels localKey peer) + others) ∧
        Station.brokersHold localKey (brokers.erase peer) = others := by
  refine ⟨_, HashMap.total_eq_add_erase _ present, ?_, rfl⟩
  intro next
  exact HashMap.total_insert _ brokers peer next

/-- The slot of a relay and the other slots. -/
theorem relaysHold_split
    {relays : List (Option RelayTask)} {index : Nat}
    {slot : Option RelayTask} (present : relays[index]? = some slot) :
    ∃ others,
      Station.relaysHold localKey relays =
          ↑(slotParcels localKey slot) + others ∧
        ∀ next,
          Station.relaysHold localKey (relays.set index next) =
            ↑(slotParcels localKey next) + others := by
  unfold Station.relaysHold
  induction relays generalizing index with
  | nil =>
      cases present
  | cons first rest inductionHypothesis =>
      cases index with
      | zero =>
          cases present
          refine ⟨↑(rest.flatMap (slotParcels localKey)), ?_, ?_⟩
          · rw [List.flatMap_cons, Multiset.coe_add]
          · intro next
            rw [List.set_cons_zero, List.flatMap_cons, Multiset.coe_add]
      | succ index =>
          obtain ⟨others, before, after⟩ := inductionHypothesis present
          refine ⟨↑(slotParcels localKey first) + others, ?_, ?_⟩
          · rw [List.flatMap_cons, ← Multiset.coe_add, before,
              add_left_comm]
          · intro next
            rw [List.set_cons_succ, List.flatMap_cons, ← Multiset.coe_add,
              after, add_left_comm]

end Places

/-! ## The turns -/

section Turns

variable {hash : Hash} {localKey peer : String} {station : Station}
  {turn : Turn}

/-- The packet that a task is sending. -/
def sendingParcels (localKey : String) (sending : Option Sending) :
    Multiset DecodedFrame :=
  ↑(sending.toList.map fun sending => outParcel localKey sending.packet)

@[simp]
theorem sendingParcels_none : sendingParcels localKey none = 0 :=
  rfl

@[simp]
theorem sentParcels_nil : sentParcels [] = 0 :=
  rfl

@[simp]
theorem entered_nil : (Fate.movement []).entered = 0 :=
  rfl

@[simp]
theorem departed_nil : (Fate.movement []).departed = 0 :=
  rfl

@[simp]
theorem entered_accepted (parcel : DecodedFrame) :
    (Fate.movement [.accepted parcel]).entered = {parcel} :=
  rfl

@[simp]
theorem departed_accepted (parcel : DecodedFrame) :
    (Fate.movement [.accepted parcel]).departed = 0 :=
  rfl

@[simp]
theorem entered_delivered (parcel : DecodedFrame) :
    (Fate.movement [.delivered parcel]).entered = 0 :=
  rfl

@[simp]
theorem departed_delivered (parcel : DecodedFrame) :
    (Fate.movement [.delivered parcel]).departed = {parcel} :=
  rfl

@[simp]
theorem entered_dropped (parcel : DecodedFrame) :
    (Fate.movement [.dropped parcel]).entered = 0 :=
  rfl

@[simp]
theorem departed_dropped (parcel : DecodedFrame) :
    (Fate.movement [.dropped parcel]).departed = {parcel} :=
  rfl

theorem coe_brokerParcels (broker : PeerBroker) :
    (↑(broker.parcels localKey peer) : Multiset DecodedFrame) =
      ↑(broker.inbound.items.map (brokerParcel localKey peer)) +
        sendingParcels localKey broker.sending := by
  unfold PeerBroker.parcels sendingParcels
  rw [← Multiset.coe_add]

theorem dispatcherHolds_some (dispatcher : Dispatcher) :
    Station.dispatcherHolds localKey (some dispatcher) =
      ↑(dispatcher.inbound.items.map (outParcel localKey)) +
        sendingParcels localKey dispatcher.sending := by
  unfold Station.dispatcherHolds sendingParcels
  rw [Option.elim_some, Dispatcher.parcels, ← Multiset.coe_add]

theorem coe_slotParcels_some (task : RelayTask) :
    (↑(slotParcels localKey (some task)) : Multiset DecodedFrame) =
      ↑(task.outbound.items.map (outParcel localKey)) +
        ↑(task.probeInbound.items.map (inParcel localKey)) := by
  unfold slotParcels
  rw [Option.elim_some, RelayTask.parcels, ← Multiset.coe_add]

theorem coe_map_append_singleton
    {α : Type} (parcel : α → DecodedFrame) (items : List α) (item : α) :
    (↑((items ++ [item]).map parcel) : Multiset DecodedFrame) =
      ↑(items.map parcel) + {parcel item} := by
  rw [List.map_append, List.map_singleton, ← Multiset.coe_add,
    Multiset.coe_singleton]

theorem coe_map_cons
    {α : Type} (parcel : α → DecodedFrame) (item : α) (items : List α) :
    (↑((item :: items).map parcel) : Multiset DecodedFrame) =
      {parcel item} + ↑(items.map parcel) := by
  rw [List.map_cons, ← Multiset.cons_coe, Multiset.singleton_add]

theorem sendingParcels_startSending
    {packet : RelayPacket} {targets : List PathTarget} {sending : Sending}
    (started : startSending packet targets = some sending) :
    sendingParcels localKey (some sending) = {outParcel localKey packet} := by
  cases targets with
  | nil =>
      cases started
  | cons target rest =>
      cases started
      rfl

theorem movement_dropped (parcels : List DecodedFrame) :
    (Fate.movement (parcels.map .dropped)).entered = 0 ∧
      (Fate.movement (parcels.map .dropped)).departed = ↑parcels := by
  unfold Fate.movement
  constructor
  · simp [List.flatMap_map, Fate.entered]
  · simp [List.flatMap_map, Fate.departed]

theorem movement_accepted (parcels : List DecodedFrame) :
    (Fate.movement (parcels.map .accepted)).entered = ↑parcels ∧
      (Fate.movement (parcels.map .accepted)).departed = 0 := by
  unfold Fate.movement
  constructor
  · simp [List.flatMap_map, Fate.entered]
  · simp [List.flatMap_map, Fate.departed]

/-- A turn that changes neither a queue nor what a task is sending. -/
theorem balanced_of_unmoved
    {next : Station} {fates : List Fate}
    (same : next.parcels localKey = station.parcels localKey)
    (settled :
      (Fate.movement fates).departed = (Fate.movement fates).entered) :
    Turn.Balanced localKey station ⟨next, [], fates⟩ := by
  unfold Turn.Balanced
  simp only
  rw [same, settled]
  rw [sentParcels_nil, add_zero]

theorem datagramRead_balanced
    {fromWireguard : Bool} {payload : Bytes}
    (taken :
      station.datagramRead localKey peer fromWireguard payload =
        some turn) :
    turn.Balanced localKey station := by
  unfold Station.datagramRead at taken
  split at taken
  case h_2 => cases taken
  rename_i inbound paths present _
  cases fromWireguard with
  | false =>
      cases taken
      exact balanced_of_unmoved rfl rfl
  | true =>
      simp only [if_true] at taken
      split at taken
      · cases taken
        exact balanced_of_unmoved rfl rfl
      · rename_i sending started
        cases taken
        obtain ⟨others, before, after, _⟩ :=
          brokersHold_split localKey present
        simp only [Turn.Balanced, Station.parcels, Station.setBroker]
        rw [before, after, coe_brokerParcels, coe_brokerParcels,
          sendingParcels_startSending started, sendingParcels_none,
          sentParcels_nil, entered_accepted, departed_accepted]
        abel

theorem endBroker_balanced
    {broker : PeerBroker} (present : station.brokers.lookup peer = some broker) :
    (station.endBroker localKey peer broker).Balanced localKey station := by
  obtain ⟨others, before, _, erased⟩ := brokersHold_split localKey present
  obtain ⟨entered, departed⟩ :=
    movement_dropped (broker.parcels localKey peer)
  simp only [Turn.Balanced, Station.parcels, Station.endBroker]
  rw [before, erased, entered, departed, sentParcels_nil]
  abel

/-- A packet that is sent goes to the queue of the relay. -/
theorem relaysHold_attempt
    {relays next : List (Option RelayTask)} {sending : Sending}
    (sent : attempt relays sending = some (.sent next)) :
    Station.relaysHold localKey next =
      Station.relaysHold localKey relays +
        sendingParcels localKey (some sending) := by
  unfold attempt at sent
  split at sent
  · rename_i task present
    obtain ⟨outbound, sentTo, same⟩ := Option.map_eq_some_iff.mp sent
    cases same
    obtain ⟨others, before, after⟩ := relaysHold_split localKey present
    have single :
        sendingParcels localKey (some sending) =
          {outParcel localKey sending.packet} := rfl
    rw [before, after, coe_slotParcels_some, coe_slotParcels_some,
      Channel.items_of_send sentTo, coe_map_append_singleton, single]
    abel
  · split at sent <;> cases sent

theorem sendingParcels_next
    {relays : List (Option RelayTask)} {sending next : Sending}
    (stopped : attempt relays sending = some (.stopped (some next))) :
    sendingParcels localKey (some next) =
      sendingParcels localKey (some sending) := by
  unfold attempt at stopped
  split at stopped
  · obtain ⟨_, _, impossible⟩ := Option.map_eq_some_iff.mp stopped
    cases impossible
  · split at stopped
    · cases stopped
    · cases stopped
      rfl

theorem forward_balanced
    (taken : station.forward localKey peer = some turn) :
    turn.Balanced localKey station := by
  unfold Station.forward at taken
  split at taken
  case h_2 => cases taken
  rename_i inbound sending present
  obtain ⟨others, before, after, _⟩ := brokersHold_split localKey present
  obtain ⟨tried, attempted, same⟩ := Option.map_eq_some_iff.mp taken
  match tried, attempted with
  | .sent relays, attempted =>
      cases same
      simp only [Turn.Balanced, Station.parcels, Station.setBroker]
      rw [before, after, coe_brokerParcels, coe_brokerParcels,
        relaysHold_attempt attempted, sentParcels_nil, sendingParcels_none,
        departed_nil, entered_nil]
      abel
  | .stopped (some next), attempted =>
      cases same
      simp only [Turn.Balanced, Station.parcels, Station.setBroker]
      rw [before, after, coe_brokerParcels, coe_brokerParcels,
        sendingParcels_next attempted, sentParcels_nil, departed_nil,
        entered_nil]
      abel
  | .stopped none, _ =>
      cases same
      exact endBroker_balanced present

theorem toWireguard_balanced
    {failed : Bool}
    (taken : station.toWireguard localKey peer failed = some turn) :
    turn.Balanced localKey station := by
  unfold Station.toWireguard at taken
  split at taken
  case h_2 => cases taken
  rename_i inbound present
  obtain ⟨⟨payload, rest⟩, received, same⟩ :=
    Option.map_eq_some_iff.mp taken
  cases failed with
  | true =>
      cases same
      exact endBroker_balanced present
  | false =>
      cases same
      obtain ⟨others, before, after, _⟩ := brokersHold_split localKey present
      simp only [Turn.Balanced, Station.parcels, Station.setBroker,
        Bool.false_eq_true, if_false]
      rw [before, after, coe_brokerParcels, coe_brokerParcels,
        Channel.items_of_receive received, coe_map_cons, sentParcels_nil,
        entered_delivered, departed_delivered]
      abel

theorem submit_balanced
    {session : SessionKey} {payload : Bytes}
    (taken : station.submit localKey peer session payload = some turn) :
    turn.Balanced localKey station := by
  unfold Station.submit at taken
  obtain ⟨dispatcher, present, queued⟩ := Option.bind_eq_some_iff.mp taken
  obtain ⟨inbound, sent, same⟩ := Option.map_eq_some_iff.mp queued
  cases same
  simp only [Turn.Balanced, Station.parcels]
  rw [present, dispatcherHolds_some, dispatcherHolds_some,
    Channel.items_of_send sent, coe_map_append_singleton, sentParcels_nil,
    entered_accepted, departed_accepted]
  abel

theorem dispatch_balanced
    (taken : station.dispatch localKey = some turn) :
    turn.Balanced localKey station := by
  unfold Station.dispatch at taken
  split at taken
  case h_2 => cases taken
  rename_i inbound present
  obtain ⟨⟨packet, rest⟩, received, same⟩ := Option.map_eq_some_iff.mp taken
  simp only at same
  split at same
  · cases same
    simp only [Turn.Balanced, Station.parcels]
    rw [present, dispatcherHolds_some, dispatcherHolds_some,
      Channel.items_of_receive received, coe_map_cons, sentParcels_nil,
      entered_dropped, departed_dropped]
    abel
  · rename_i sending started
    cases same
    simp only [Turn.Balanced, Station.parcels]
    rw [present, dispatcherHolds_some, dispatcherHolds_some,
      Channel.items_of_receive received, coe_map_cons, sentParcels_nil,
      sendingParcels_startSending started, sendingParcels_none, entered_nil,
      departed_nil]
    abel

theorem endDispatcher_balanced
    {dispatcher : Dispatcher}
    (present : station.dispatcher = some dispatcher) :
    (station.endDispatcher localKey dispatcher).Balanced localKey
      station := by
  obtain ⟨entered, departed⟩ :=
    movement_dropped (dispatcher.parcels localKey)
  have held :
      Station.dispatcherHolds localKey (some dispatcher) =
        ↑(dispatcher.parcels localKey) := rfl
  have emptied : Station.dispatcherHolds localKey none = 0 := rfl
  simp only [Turn.Balanced, Station.parcels, Station.endDispatcher]
  rw [present, held, emptied, entered, departed, sentParcels_nil]
  abel

theorem forwardDispatched_balanced
    (taken : station.forwardDispatched localKey = some turn) :
    turn.Balanced localKey station := by
  unfold Station.forwardDispatched at taken
  split at taken
  case h_2 => cases taken
  rename_i inbound sending present
  obtain ⟨tried, attempted, same⟩ := Option.map_eq_some_iff.mp taken
  match tried, attempted with
  | .sent relays, attempted =>
      cases same
      simp only [Turn.Balanced, Station.parcels]
      rw [present, dispatcherHolds_some, dispatcherHolds_some,
        relaysHold_attempt attempted, sentParcels_nil, sendingParcels_none,
        departed_nil, entered_nil]
      abel
  | .stopped (some next), attempted =>
      cases same
      simp only [Turn.Balanced, Station.parcels]
      rw [present, dispatcherHolds_some, dispatcherHolds_some,
        sendingParcels_next attempted, sentParcels_nil, departed_nil,
        entered_nil]
      abel
  | .stopped none, _ =>
      cases same
      exact endDispatcher_balanced present

theorem runningRelay_eq_some
    {index : Nat} {task : RelayTask} {target : PathTarget}
    (running : station.runningRelay index = some (task, target)) :
    station.relays[index]? = some (some task) ∧
      station.spec.targets[index]? = some target := by
  unfold Station.runningRelay at running
  split at running
  · rename_i presentTask presentTarget
    cases running
    exact ⟨presentTask, presentTarget⟩
  · cases running

theorem movement_append (first second : List Fate) :
    (Fate.movement (first ++ second)).entered =
        (Fate.movement first).entered + (Fate.movement second).entered ∧
      (Fate.movement (first ++ second)).departed =
        (Fate.movement first).departed +
          (Fate.movement second).departed := by
  unfold Fate.movement
  simp only [List.flatMap_append, Multiset.coe_add, and_self]

theorem movement_probes (events : List ProbeEvent) :
    (Fate.movement (events.map .probe)).entered = 0 ∧
      (Fate.movement (events.map .probe)).departed = 0 := by
  unfold Fate.movement
  constructor
  · simp [List.flatMap_map, Fate.entered]
  · simp [List.flatMap_map, Fate.departed]

/-- What a station holds outside of the slot of one relay. -/
theorem parcels_split
    (localKey : String) {index : Nat} {slot : Option RelayTask}
    (present : station.relays[index]? = some slot) :
    ∃ others,
      station.parcels localKey = ↑(slotParcels localKey slot) + others ∧
        ∀ metrics next,
          ({ station with metrics }.setRelay index next).parcels localKey =
            ↑(slotParcels localKey next) + others := by
  obtain ⟨others, before, after⟩ := relaysHold_split localKey present
  refine
    ⟨Station.brokersHold localKey station.brokers +
        Station.dispatcherHolds localKey station.dispatcher + others +
        Station.deviceHolds localKey station.shortcutInbound, ?_, ?_⟩
  · unfold Station.parcels
    rw [before]
    abel
  · intro metrics next
    simp only [Station.parcels, Station.setRelay]
    rw [after]
    abel

/-- What a turn of the loop of a relay task does to the packets: the queues
are those the task is given, and what it sends it has accepted. -/
theorem relayTurn_moves
    {index : Nat} {target : PathTarget} {task : RelayTask}
    {event : RelayEvent} {slot : Option RelayTask}
    (present : station.relays[index]? = some slot)
    (taken :
      station.relayTurn hash localKey index target task event =
        some turn) :
    (∃ others,
      station.parcels localKey = ↑(slotParcels localKey slot) + others ∧
        turn.station.parcels localKey =
          ↑(slotParcels localKey (some task)) + others) ∧
      (Fate.movement turn.fates).entered = sentParcels turn.sent ∧
      (Fate.movement turn.fates).departed = 0 := by
  unfold Station.relayTurn at taken
  obtain ⟨⟨relay, probes⟩, stepped, same⟩ := Option.map_eq_some_iff.mp taken
  cases same
  obtain ⟨others, before, after⟩ := parcels_split localKey present
  refine ⟨⟨others, before, ?_⟩, ?_, ?_⟩
  · rw [after, coe_slotParcels_some, coe_slotParcels_some]
  · rw [(movement_append _ _).1, (movement_accepted _).1,
      (movement_probes _).1, add_zero]
    rfl
  · rw [(movement_append _ _).2, (movement_accepted _).2,
      (movement_probes _).2, add_zero]

theorem relayOnly_balanced
    {index : Nat} {event : RelayEvent}
    (taken : station.relayOnly hash localKey index event = some turn) :
    turn.Balanced localKey station := by
  unfold Station.relayOnly at taken
  obtain ⟨⟨task, target⟩, running, turned⟩ := Option.bind_eq_some_iff.mp taken
  obtain ⟨⟨others, before, after⟩, entered, departed⟩ :=
    relayTurn_moves (runningRelay_eq_some running).1 turned
  unfold Turn.Balanced
  rw [before, after, entered, departed, add_zero]

theorem probeTaken_balanced
    {index : Nat} {now : Instant} {unixNow : UInt64}
    (taken :
      station.probeTaken hash localKey index now unixNow = some turn) :
    turn.Balanced localKey station := by
  unfold Station.probeTaken at taken
  obtain ⟨⟨task, target⟩, running, received⟩ :=
    Option.bind_eq_some_iff.mp taken
  obtain ⟨⟨packet, probeInbound⟩, popped, turned⟩ :=
    Option.bind_eq_some_iff.mp received
  obtain ⟨inner, stepped, same⟩ := Option.map_eq_some_iff.mp turned
  cases same
  obtain ⟨⟨others, before, after⟩, entered, departed⟩ :=
    relayTurn_moves (runningRelay_eq_some running).1 stepped
  have parts :=
    movement_append [.delivered (inParcel localKey packet)] inner.fates
  unfold Turn.Balanced
  simp only [List.singleton_append] at parts ⊢
  rw [before, after, parts.1, parts.2, entered, departed, entered_delivered,
    departed_delivered, coe_slotParcels_some, coe_slotParcels_some,
    Channel.items_of_receive popped, coe_map_cons]
  abel

/-- The outbound arm sends the packet as it is, or nothing that could be
decoded. -/
theorem sentParcels_outboundSent
    (hash : Hash) (relay : Relay) {packet : RelayPacket} (unixNow : UInt64)
    (error : Option String) (fits : (outParcel localKey packet).KeysFit) :
    let sent :=
      Station.outboundSent hash localKey relay packet unixNow error
    sent.flatMap Transmission.parcels = [outParcel localKey packet] ∨
      sent.flatMap Transmission.parcels = [] := by
  unfold Station.outboundSent
  split
  · have whole := readable_encode fits
    simp only [List.flatMap_cons, List.flatMap_nil, List.append_nil,
      Transmission.parcels, transmission, if_true]
    exact whole
  · exact Or.inr rfl

theorem outboundTaken_balanced
    {index : Nat} {unixNow : UInt64} {error : Option String}
    (sound : ∀ parcel ∈ station.parcels localKey, parcel.KeysFit)
    (taken :
      station.outboundTaken hash localKey index unixNow error =
        some turn) :
    turn.Balanced localKey station := by
  unfold Station.outboundTaken at taken
  obtain ⟨⟨task, target⟩, running, received⟩ :=
    Option.bind_eq_some_iff.mp taken
  obtain ⟨⟨packet, outbound⟩, popped, turned⟩ :=
    Option.bind_eq_some_iff.mp received
  obtain ⟨inner, stepped, same⟩ := Option.map_eq_some_iff.mp turned
  cases same
  obtain ⟨⟨others, before, after⟩, _, _⟩ :=
    relayTurn_moves (runningRelay_eq_some running).1 stepped
  rw [coe_slotParcels_some, Channel.items_of_receive popped,
    coe_map_cons] at before
  have fits : (outParcel localKey packet).KeysFit := by
    apply sound
    rw [before]
    simp
  unfold Turn.Balanced sentParcels
  rw [before, after, coe_slotParcels_some]
  rcases sentParcels_outboundSent hash task.relay unixNow error fits with
    whole | nothing
  · simp only [whole, List.cons_ne_nil, if_false]
    rw [Multiset.coe_singleton, entered_nil, departed_nil]
    abel
  · simp only [nothing, if_true]
    rw [Multiset.coe_nil, entered_dropped, departed_dropped]
    abel

theorem relayStopped_balanced
    {index : Nat} (taken : station.relayStopped localKey index = some turn) :
    turn.Balanced localKey station := by
  unfold Station.relayStopped at taken
  obtain ⟨⟨task, target⟩, running, same⟩ := Option.map_eq_some_iff.mp taken
  cases same
  obtain ⟨others, before, after⟩ :=
    parcels_split localKey (runningRelay_eq_some running).1
  obtain ⟨entered, departed⟩ := movement_dropped (task.parcels localKey)
  have stopped := after station.metrics none
  have held : slotParcels localKey (some task) = task.parcels localKey := rfl
  have emptied : slotParcels localKey none = [] := rfl
  unfold Turn.Balanced
  simp only
  rw [before, stopped, entered, departed, held, emptied, sentParcels_nil,
    Multiset.coe_nil]
  abel

theorem toDevice_balanced
    (taken : station.toDevice localKey = some turn) :
    turn.Balanced localKey station := by
  unfold Station.toDevice at taken
  obtain ⟨⟨packet, shortcutInbound⟩, popped, same⟩ :=
    Option.map_eq_some_iff.mp taken
  cases same
  simp only [Turn.Balanced, Station.parcels, Station.deviceHolds]
  rw [Channel.items_of_receive popped, coe_map_cons, sentParcels_nil,
    entered_delivered, departed_delivered]
  abel

/-- Every turn of a station accounts for its packets. -/
theorem step_balanced
    {event : StationEvent}
    (sound : ∀ parcel ∈ station.parcels localKey, parcel.KeysFit)
    (taken : station.step hash localKey event = some turn) :
    turn.Balanced localKey station := by
  cases event with
  | datagram peer fromWireguard payload =>
      exact datagramRead_balanced taken
  | forward peer =>
      exact forward_balanced taken
  | toWireguard peer failed =>
      exact toWireguard_balanced taken
  | brokerStops peer =>
      obtain ⟨broker, present, same⟩ := Option.map_eq_some_iff.mp taken
      rw [← same]
      exact endBroker_balanced present
  | submit peerKey session payload =>
      exact submit_balanced taken
  | dispatch =>
      exact dispatch_balanced taken
  | forwardDispatched =>
      exact forwardDispatched_balanced taken
  | dispatcherStops =>
      obtain ⟨dispatcher, present, same⟩ := Option.map_eq_some_iff.mp taken
      rw [← same]
      exact endDispatcher_balanced present
  | refresh index routes now order clocks =>
      exact relayOnly_balanced taken
  | sent index send outcome now =>
      exact relayOnly_balanced taken
  | probe index now unixNow =>
      exact probeTaken_balanced taken
  | outbound index unixNow error =>
      exact outboundTaken_balanced sound taken
  | relayStops index =>
      exact relayStopped_balanced taken
  | toDevice =>
      exact toDevice_balanced taken
  | select peer pathId =>
      obtain ⟨paths, _, same⟩ := Option.map_eq_some_iff.mp taken
      cases same
      exact balanced_of_unmoved rfl rfl
  | metricsWritten metrics =>
      cases taken
      exact balanced_of_unmoved rfl rfl

/-- The filter keeps a packet in a queue or drops it. -/
def Kept (localKey : String) (station next : Station) (frame : DecodedFrame)
    (fates : List Fate) : Prop :=
  next.parcels localKey + (Fate.movement fates).departed =
      station.parcels localKey + {frame} ∧
    (Fate.movement fates).entered = 0 ∧ (Fate.movement fates).copied = 0 ∧
    next.spec = station.spec

theorem kept_of_dropped (frame : DecodedFrame) :
    Kept localKey station station frame [.dropped frame] := by
  refine ⟨?_, rfl, rfl, rfl⟩
  rw [departed_dropped]

theorem trySendBroker_kept
    {frame : DecodedFrame} (forHere : frame.target = localKey)
    (base : frame.channel = .baseWireGuard) :
    Kept localKey station (station.trySendBroker frame).1 frame
      (station.trySendBroker frame).2 := by
  unfold Station.trySendBroker
  split
  · exact kept_of_dropped frame
  rename_i broker present
  split
  · exact kept_of_dropped frame
  rename_i inbound sent
  refine ⟨?_, rfl, rfl, rfl⟩
  obtain ⟨others, before, after, _⟩ := brokersHold_split localKey present
  have whole : brokerParcel localKey frame.source frame.payload = frame := by
    cases frame
    cases forHere
    cases base
    rfl
  simp only [Station.parcels, Station.setBroker]
  rw [before, after, coe_brokerParcels, coe_brokerParcels,
    Channel.items_of_send sent, coe_map_append_singleton, whole,
    departed_nil]
  abel

/-- What the filter does with a packet: it is given back and nothing changes,
or it carries a packet for this station that is kept or dropped. -/
theorem tryProcessPacketFromPeer_cases
    (index : Nat) (target : PathTarget) (task : RelayTask)
    (packet : ZCPacket) (present : station.relays[index]? = some (some task)) :
    station.tryProcessPacketFromPeer localKey index target task packet =
        (station, some packet, []) ∨
      ∃ next frame fates,
        station.tryProcessPacketFromPeer localKey index target task packet =
            (next, none, fates) ∧
          Transmission.parcels ⟨0, packet⟩ = [frame] ∧
          frame.target = localKey ∧
          Kept localKey station next frame fates := by
  unfold Station.tryProcessPacketFromPeer
  by_cases other : packet.packetType ≠ some dataPacketType
  · rw [if_pos other]
    exact Or.inl rfl
  rw [if_neg other]
  rw [not_not] at other
  cases decoded : decodeFrame packet.payload with
  | abort =>
      exact Or.inl rfl
  | reject =>
      exact Or.inl rfl
  | accept frame =>
      have carried : Transmission.parcels ⟨0, packet⟩ = [frame] := by
        unfold Transmission.parcels readable
        rw [if_pos other, decoded]
      by_cases elsewhere : frame.target ≠ localKey
      · left
        exact if_pos elsewhere
      simp only [if_neg elsewhere]
      rw [not_not] at elsewhere
      have whole :
          inParcel localKey ⟨frame.source, frame.channel, frame.payload⟩ =
            frame := by
        rw [← elsewhere]
        rfl
      cases channel : frame.channel with
      | baseWireGuard =>
          by_cases known : frame.source ∈ station.spec.peers
          · simp only [known, if_true]
            right
            refine ⟨_, frame, _, rfl, carried, elsewhere, ?_⟩
            exact trySendBroker_kept elsewhere channel
          · left
            exact if_neg known
      | shortcutWireGuard session =>
          right
          simp only
          split
          · exact ⟨_, frame, _, rfl, carried, elsewhere,
              kept_of_dropped frame⟩
          · rename_i shortcutInbound sent
            refine ⟨_, frame, _, rfl, carried, elsewhere, ?_, rfl, rfl, rfl⟩
            rw [← channel] at sent
            simp only [Station.parcels, Station.deviceHolds]
            rw [Channel.items_of_send sent, coe_map_append_singleton, whole,
              departed_nil]
            abel
      | pathProbe nonce sentMicros reply =>
          right
          simp only
          split
          · exact ⟨_, frame, _, rfl, carried, elsewhere,
              kept_of_dropped frame⟩
          · rename_i probeInbound sent
            refine ⟨_, frame, _, rfl, carried, elsewhere, ?_, rfl, rfl, rfl⟩
            rw [← channel] at sent
            obtain ⟨others, before, after⟩ := parcels_split localKey present
            have queued :=
              after station.metrics (some { task with probeInbound })
            rw [coe_slotParcels_some, Channel.items_of_send sent,
              coe_map_append_singleton, whole] at queued
            rw [before, queued, coe_slotParcels_some, departed_nil]
            abel

/-- A packet that EasyTier hands over is in a queue afterwards, or it leaves
the station. -/
theorem received_balanced
    {index : Nat} {packet : ZCPacket}
    (taken : station.received localKey index packet = some turn) :
    turn.station.parcels localKey + (Fate.movement turn.fates).departed =
        station.parcels localKey + ↑(Transmission.parcels ⟨0, packet⟩) ∧
      turn.sent = [] ∧ (Fate.movement turn.fates).entered = 0 ∧
      (Fate.movement turn.fates).copied = 0 ∧
      turn.station.spec = station.spec := by
  unfold Station.received at taken
  obtain ⟨⟨task, target⟩, running, same⟩ := Option.map_eq_some_iff.mp taken
  simp only at same
  rcases
      tryProcessPacketFromPeer_cases index target task packet
        (runningRelay_eq_some running).1 with
    givenBack | ⟨next, frame, fates, processed, carried, _, kept⟩
  · rw [givenBack] at same
    cases same
    refine ⟨?_, rfl, ?_, ?_, rfl⟩
    · simp [Fate.movement, List.flatMap_map, Fate.departed]
    · simp [Fate.movement, List.flatMap_map, Fate.entered]
    · simp [Fate.movement, List.flatMap_map, Fate.copied]
  · rw [processed] at same
    cases same
    rw [carried, Multiset.coe_singleton]
    exact ⟨kept.1, rfl, kept.2⟩

end Turns

end WgLink
