import WgLink.ForwardingReports

/-!
# Stations joined by the relay overlay

The stations exchange packets through EasyTier.  Nothing is assumed of the
overlay: it may lose, duplicate and reorder packets, hand them to the wrong
station, and carry packets that no station sent.  Whatever the order of the
steps, the packets are accounted for, and what a station delivers under the
key of another one was sent by that station.
-/

namespace WgLink

open WgLink.Library

/-- The stations by their public keys, and what the overlay carries. -/
structure Network where
  stations : HashMap String Station
  flight : List Transmission

/-- One step of a station, or of the overlay. -/
inductive NetworkEvent where
  | turn (key : String) (event : StationEvent)
  /-- The overlay hands a packet to the filter of a relay. -/
  | deliver (position : Nat) (key : String) (index : Nat)
  | lose (position : Nat)
  | duplicate (position : Nat)
  /-- A packet that none of the stations sent. -/
  | inject (sent : Transmission)
  /-- A station starts a generation. -/
  | joins (key : String) (spec : StationSpec) (metrics : MetricsRegistry)
  /-- A generation ends after all its tasks have. -/
  | leaves (key : String)

namespace Network

variable (hash : Hash)

/-- A turn of a station, with what it sends on its way. -/
def turned (network : Network) (key : String) (turn : Turn) :
    Network × List Fate :=
  (⟨network.stations.insert key turn.station, network.flight ++ turn.sent⟩,
    turn.fates)

/-- All tasks of the station have ended. -/
def quiet (station : Station) : Bool :=
  decide (station.brokers.keys = ∅) && station.dispatcher.isNone &&
    station.relays.all Option.isNone

def step (network : Network) :
    NetworkEvent → Option (Network × List Fate)
  | .turn key event =>
      (network.stations.lookup key).bind fun station =>
        (station.step hash key event).map (network.turned key)
  | .deliver position key index =>
      (network.flight[position]?).bind fun sent =>
        (network.stations.lookup key).bind fun station =>
          (station.received key index sent.packet).map
            (turned ⟨network.stations, network.flight.eraseIdx position⟩ key)
  | .lose position =>
      (network.flight[position]?).map fun sent =>
        ({ network with flight := network.flight.eraseIdx position },
          sent.parcels.map .dropped)
  | .duplicate position =>
      (network.flight[position]?).map fun sent =>
        ({ network with flight := network.flight ++ [sent] },
          sent.parcels.map .duplicated)
  | .inject sent =>
      some
        ({ network with flight := network.flight ++ [sent] },
          sent.parcels.map .injected)
  | .joins key spec metrics =>
      if key ∈ network.stations then
        none
      else
        some
          ({ network with
              stations :=
                network.stations.insert key (Station.setUp spec metrics) },
            [])
  | .leaves key =>
      (network.stations.lookup key).bind fun station =>
        if quiet station then
          some
            ({ network with stations := network.stations.erase key },
              (station.shortcutInbound.items.map (inParcel key)).map
                .dropped)
        else
          none

end Network

/-- Any number of stations over one overlay. -/
def relayNetwork (hash : Hash) : Machine Network NetworkEvent (List Fate) where
  start network := network = ⟨∅, []⟩
  step := Network.step hash

/-- One step of the network as it was taken. -/
abbrev NetworkStep := Record Network NetworkEvent (List Fate)

/-- The keys that an event names fit into a frame, as public keys do. -/
def NetworkEvent.KeysFit : NetworkEvent → Prop
  | .turn key (.datagram peer _ _) => KeyFits key ∧ KeyFits peer
  | .turn key (.submit peer _ _) => KeyFits key ∧ KeyFits peer
  | .joins key spec _ => KeyFits key ∧ ∀ peer ∈ spec.peers, KeyFits peer
  | _ => True

/-- All packets of the network. -/
def Network.parcels (network : Network) : Multiset DecodedFrame :=
  HashMap.total (fun key station => station.parcels key) network.stations +
    sentParcels network.flight

/-! ## The account of a step -/

section Account

variable {hash : Hash}

/-- A packet of the overlay and the others. -/
theorem sentParcels_split
    {flight : List Transmission} {position : Nat} {sent : Transmission}
    (present : flight[position]? = some sent) :
    sentParcels flight =
      ↑sent.parcels + sentParcels (flight.eraseIdx position) := by
  unfold sentParcels
  induction flight generalizing position with
  | nil =>
      cases present
  | cons first rest inductionHypothesis =>
      cases position with
      | zero =>
          cases present
          rw [List.eraseIdx_cons_zero, List.flatMap_cons, Multiset.coe_add]
      | succ position =>
          rw [List.eraseIdx_cons_succ, List.flatMap_cons, List.flatMap_cons,
            ← Multiset.coe_add, ← Multiset.coe_add,
            inductionHypothesis present, add_left_comm]

theorem sentParcels_append (first second : List Transmission) :
    sentParcels (first ++ second) =
      sentParcels first + sentParcels second := by
  unfold sentParcels
  rw [List.flatMap_append, Multiset.coe_add]

theorem sentParcels_singleton (sent : Transmission) :
    sentParcels [sent] = ↑sent.parcels := by
  unfold sentParcels
  rw [List.flatMap_singleton]

/-- The station of a key and the others. -/
theorem parcels_station
    {network : Network} {key : String} {station : Station}
    (present : network.stations.lookup key = some station) :
    ∃ others,
      (∀ flight,
        (Network.mk network.stations flight).parcels =
          station.parcels key + others + sentParcels flight) ∧
        (∀ next flight,
          (Network.mk (network.stations.insert key next) flight).parcels =
            next.parcels key + others + sentParcels flight) ∧
        ∀ flight,
          (Network.mk (network.stations.erase key) flight).parcels =
            others + sentParcels flight := by
  refine
    ⟨HashMap.total (fun key station => Station.parcels key station)
        (network.stations.erase key), ?_, ?_, ?_⟩
  · intro flight
    unfold Network.parcels
    rw [HashMap.total_eq_add_erase _ present]
  · intro next flight
    unfold Network.parcels
    rw [HashMap.total_insert]
  · intro flight
    rfl

/-- A station that starts holds nothing. -/
theorem parcels_setUp
    (key : String) (spec : StationSpec) (metrics : MetricsRegistry) :
    (Station.setUp spec metrics).parcels key = 0 := by
  have brokers :
      Station.brokersHold key (Station.setUp spec metrics).brokers = 0 := by
    apply HashMap.total_eq_zero
    intro peer broker present
    have listed := HashMap.mem_of_lookup_collect present
    obtain ⟨_, _, same⟩ := List.mem_map.mp listed
    cases same
    rfl
  have relays :
      Station.relaysHold key (Station.setUp spec metrics).relays = 0 := by
    unfold Station.relaysHold Station.setUp
    simp [slotParcels, RelayTask.parcels, Channel.empty]
  unfold Station.parcels
  rw [brokers, relays]
  rfl

theorem turn_balanced
    {network next : Network} {key : String} {event : StationEvent}
    {fates : List Fate}
    (sound : ∀ parcel ∈ network.parcels, parcel.KeysFit)
    (taken : network.step hash (.turn key event) = some (next, fates)) :
    next.parcels + (Fate.movement fates).departed =
        network.parcels + (Fate.movement fates).entered ∧
      (Fate.movement fates).copied = 0 := by
  obtain ⟨station, present, stepped⟩ := Option.bind_eq_some_iff.mp taken
  obtain ⟨turn, turnTaken, same⟩ := Option.map_eq_some_iff.mp stepped
  cases same
  obtain ⟨others, before, after, _⟩ := parcels_station present
  have soundStation : ∀ parcel ∈ station.parcels key, parcel.KeysFit := by
    intro parcel member
    apply sound
    rw [before network.flight, Multiset.mem_add, Multiset.mem_add]
    exact Or.inl (Or.inl member)
  have balanced := step_balanced soundStation turnTaken
  unfold Turn.Balanced at balanced
  refine ⟨?_, (step_reports turnTaken).1.copied⟩
  rw [before network.flight, after, sentParcels_append]
  calc
    _ = (turn.station.parcels key + sentParcels turn.sent +
          (Fate.movement turn.fates).departed) +
          (others + sentParcels network.flight) := by
      abel
    _ = _ := by
      rw [balanced]
      abel

theorem deliver_balanced
    {network next : Network} {position : Nat} {key : String} {index : Nat}
    {fates : List Fate}
    (taken :
      network.step hash (.deliver position key index) =
        some (next, fates)) :
    next.parcels + (Fate.movement fates).departed = network.parcels ∧
      (Fate.movement fates).entered = 0 ∧
      (Fate.movement fates).copied = 0 := by
  obtain ⟨sent, carried, atStation⟩ := Option.bind_eq_some_iff.mp taken
  obtain ⟨station, present, stepped⟩ := Option.bind_eq_some_iff.mp atStation
  obtain ⟨turn, turnTaken, same⟩ := Option.map_eq_some_iff.mp stepped
  cases same
  obtain ⟨others, before, after, _⟩ := parcels_station present
  obtain ⟨balanced, nothingSent, nothingEntered, nothingCopied, _⟩ :=
    received_balanced turnTaken
  refine ⟨?_, nothingEntered, nothingCopied⟩
  rw [before network.flight, after, nothingSent, List.append_nil,
    sentParcels_split carried]
  have sameParcels :
      Transmission.parcels ⟨0, sent.packet⟩ = sent.parcels := rfl
  rw [sameParcels] at balanced
  calc
    _ = (turn.station.parcels key +
          (Fate.movement turn.fates).departed) +
          (others + sentParcels (network.flight.eraseIdx position)) := by
      abel
    _ = _ := by
      rw [balanced]
      abel

theorem parcels_of_quiet
    {station : Station} {key : String} (quiet : Network.quiet station = true) :
    station.parcels key =
      ↑(station.shortcutInbound.items.map (inParcel key)) := by
  unfold Network.quiet at quiet
  rw [Bool.and_eq_true, Bool.and_eq_true, decide_eq_true_iff,
    Option.isNone_iff_eq_none] at quiet
  obtain ⟨⟨noBrokers, noDispatcher⟩, noRelays⟩ := quiet
  have brokers : Station.brokersHold key station.brokers = 0 := by
    unfold Station.brokersHold HashMap.total
    rw [noBrokers, Finset.sum_empty]
  have relays : Station.relaysHold key station.relays = 0 := by
    unfold Station.relaysHold
    rw [Multiset.coe_eq_zero, List.flatMap_eq_nil_iff]
    intro slot member
    have empty := List.all_eq_true.mp noRelays slot member
    rw [Option.isNone_iff_eq_none] at empty
    rw [empty]
    rfl
  unfold Station.parcels
  rw [brokers, relays, noDispatcher]
  exact zero_add _

theorem movement_duplicated (parcels : List DecodedFrame) :
    (Fate.movement (parcels.map .duplicated)).entered = 0 ∧
      (Fate.movement (parcels.map .duplicated)).copied = ↑parcels ∧
      (Fate.movement (parcels.map .duplicated)).departed = 0 := by
  unfold Fate.movement
  refine ⟨?_, ?_, ?_⟩
  · simp [List.flatMap_map, Fate.entered]
  · simp [List.flatMap_map, Fate.copied]
  · simp [List.flatMap_map, Fate.departed]

theorem movement_injected (parcels : List DecodedFrame) :
    (Fate.movement (parcels.map .injected)).entered = ↑parcels ∧
      (Fate.movement (parcels.map .injected)).copied = 0 ∧
      (Fate.movement (parcels.map .injected)).departed = 0 := by
  unfold Fate.movement
  refine ⟨?_, ?_, ?_⟩
  · simp [List.flatMap_map, Fate.entered]
  · simp [List.flatMap_map, Fate.copied]
  · simp [List.flatMap_map, Fate.departed]

theorem copied_dropped (parcels : List DecodedFrame) :
    (Fate.movement (parcels.map .dropped)).copied = 0 := by
  unfold Fate.movement
  simp [List.flatMap_map, Fate.copied]

/-- What a turn accepts has keys that fit, when the keys it is given do. -/
theorem keysFit_of_reports
    {key : String} {station : Station} {event : StationEvent}
    {fates : List Fate} {parcel : DecodedFrame}
    (reports : Reports key station event fates)
    (fits : (NetworkEvent.turn key event).KeysFit)
    (member : .accepted parcel ∈ fates) : parcel.KeysFit := by
  cases reports with
  | lost parcels =>
      simp at member
  | delivered other =>
      simp at member
  | read parcels =>
      simp only [List.mem_cons, Fate.accepted.injEq, List.mem_map,
        reduceCtorEq, and_false, exists_false, or_false] at member
      rw [member]
      exact fits
  | submitted =>
      simp only [List.mem_singleton, Fate.accepted.injEq] at member
      rw [member]
      exact fits
  | probing requests _ =>
      simp only [List.mem_append, List.mem_map, Fate.accepted.injEq,
        exists_eq_right, reduceCtorEq, and_false, exists_false,
        or_false] at member
      obtain ⟨_, _, _, _, carried⟩ := requests parcel member
      exact keysFit_of_mem_readable carried
  | completed _ =>
      simp at member
  | answering _ responses _ =>
      simp only [List.mem_cons, List.mem_append, List.mem_map,
        Fate.accepted.injEq, exists_eq_right, reduceCtorEq, and_false,
        exists_false, or_false, false_or] at member
      obtain ⟨_, _, _, carried⟩ := responses parcel member
      exact keysFit_of_mem_readable carried

theorem mem_entered {fates : List Fate} {parcel : DecodedFrame} :
    parcel ∈ (Fate.movement fates).entered ↔
      .accepted parcel ∈ fates ∨ .injected parcel ∈ fates := by
  unfold Fate.movement
  rw [Multiset.mem_coe, List.mem_flatMap]
  constructor
  · rintro ⟨fate, member, named⟩
    cases fate <;> simp only [Fate.entered, List.mem_singleton,
      List.not_mem_nil] at named
    · rw [named]
      exact Or.inl member
    · rw [named]
      exact Or.inr member
  · rintro (accepted | injected)
    · exact ⟨_, accepted, List.mem_singleton_self parcel⟩
    · exact ⟨_, injected, List.mem_singleton_self parcel⟩

/-- The fates of a step that is no turn of a station. -/
theorem overlay_accounts
    {network next : Network} {event : NetworkEvent} {fates : List Fate}
    (taken : network.step hash event = some (next, fates))
    (notTurn : ∀ key turn, event ≠ .turn key turn) :
    next.parcels + (Fate.movement fates).departed =
        network.parcels +
          ((Fate.movement fates).entered + (Fate.movement fates).copied) ∧
      (∀ parcel ∈ (Fate.movement fates).copied, parcel ∈ network.parcels) ∧
      ∀ parcel ∈ (Fate.movement fates).entered,
        ∃ sent, event = .inject sent ∧ parcel ∈ sent.parcels := by
  cases event with
  | turn key event =>
      exact absurd rfl (notTurn key event)
  | deliver position key index =>
      obtain ⟨balanced, entered, copied⟩ := deliver_balanced taken
      rw [entered, copied]
      refine ⟨?_, ?_, ?_⟩
      · rw [balanced, add_zero, add_zero]
      · intro parcel member
        exact absurd member (Multiset.notMem_zero parcel)
      · intro parcel member
        exact absurd member (Multiset.notMem_zero parcel)
  | lose position =>
      obtain ⟨sent, carried, same⟩ := Option.map_eq_some_iff.mp taken
      cases same
      obtain ⟨entered, departed⟩ := movement_dropped sent.parcels
      rw [entered, copied_dropped, departed]
      refine ⟨?_, ?_, ?_⟩
      · unfold Network.parcels
        rw [sentParcels_split carried]
        abel
      · intro parcel member
        exact absurd member (Multiset.notMem_zero parcel)
      · intro parcel member
        exact absurd member (Multiset.notMem_zero parcel)
  | duplicate position =>
      obtain ⟨sent, carried, same⟩ := Option.map_eq_some_iff.mp taken
      cases same
      obtain ⟨entered, copied, departed⟩ := movement_duplicated sent.parcels
      rw [entered, copied, departed]
      refine ⟨?_, ?_, ?_⟩
      · unfold Network.parcels
        rw [sentParcels_append, sentParcels_singleton]
        abel
      · intro parcel member
        unfold Network.parcels
        rw [sentParcels_split carried]
        exact Multiset.mem_add.mpr
          (Or.inr (Multiset.mem_add.mpr (Or.inl member)))
      · intro parcel member
        exact absurd member (Multiset.notMem_zero parcel)
  | inject sent =>
      cases taken
      obtain ⟨entered, copied, departed⟩ := movement_injected sent.parcels
      rw [entered, copied, departed]
      refine ⟨?_, ?_, ?_⟩
      · unfold Network.parcels
        rw [sentParcels_append, sentParcels_singleton]
        abel
      · intro parcel member
        exact absurd member (Multiset.notMem_zero parcel)
      · intro parcel member
        exact ⟨sent, rfl, member⟩
  | joins key spec metrics =>
      simp only [Network.step] at taken
      split at taken
      · cases taken
      rename_i absent
      cases taken
      have unchanged : network.stations.erase key = network.stations :=
        HashMap.erase_eq_self (Finmap.lookup_eq_none.mpr absent)
      refine ⟨?_, ?_, ?_⟩
      · unfold Network.parcels
        rw [HashMap.total_insert, unchanged, parcels_setUp, zero_add]
        rfl
      · intro parcel member
        exact absurd member (Multiset.notMem_zero parcel)
      · intro parcel member
        exact absurd member (Multiset.notMem_zero parcel)
  | leaves key =>
      obtain ⟨station, present, stepped⟩ := Option.bind_eq_some_iff.mp taken
      split at stepped
      · rename_i isQuiet
        cases stepped
        obtain ⟨others, before, _, erased⟩ := parcels_station present
        obtain ⟨entered, departed⟩ :=
          movement_dropped (station.shortcutInbound.items.map (inParcel key))
        rw [entered, copied_dropped, departed]
        refine ⟨?_, ?_, ?_⟩
        · rw [erased, before network.flight, parcels_of_quiet isQuiet]
          abel
        · intro parcel member
          exact absurd member (Multiset.notMem_zero parcel)
        · intro parcel member
          exact absurd member (Multiset.notMem_zero parcel)
      · cases stepped

theorem turn_or_overlay (event : NetworkEvent) :
    (∃ key turn, event = .turn key turn) ∨
      ∀ key turn, event ≠ .turn key turn := by
  by_cases isTurn : ∃ key turn, event = .turn key turn
  · exact Or.inl isTurn
  · right
    intro key turn same
    exact isTurn ⟨key, turn, same⟩

/-- A turn is reported from the station it was taken at. -/
theorem reports_of_turn
    {network next : Network} {key : String} {event : StationEvent}
    {fates : List Fate}
    (taken : network.step hash (.turn key event) = some (next, fates)) :
    ∃ station,
      network.stations.lookup key = some station ∧
        Reports key station event fates := by
  obtain ⟨station, present, stepped⟩ := Option.bind_eq_some_iff.mp taken
  obtain ⟨turn, turnTaken, same⟩ := Option.map_eq_some_iff.mp stepped
  cases same
  exact ⟨station, present, (step_reports turnTaken).1⟩

/-- The network accounts for all packets: those it holds and those that left
are those that were accepted or injected and those that were duplicated. -/
theorem relayNetwork_conserves :
    Conserves (relayNetwork hash) Network.parcels Fate.movement
      (fun record => record.input.KeysFit) DecodedFrame.KeysFit where
  atStart := by
    intro network started
    rw [started]
    rfl
  sound := by
    rintro ⟨network, event, fates, next⟩ taken keysFit parcel member
    rcases turn_or_overlay event with ⟨key, turn, rfl⟩ | notTurn
    · obtain ⟨station, _, reports⟩ := reports_of_turn taken
      rcases mem_entered.mp member with accepted | injected
      · exact keysFit_of_reports reports keysFit accepted
      · exact absurd injected reports.not_injected
    · obtain ⟨sent, _, carried⟩ :=
        (overlay_accounts taken notTurn).2.2 parcel member
      exact keysFit_of_mem_parcels carried
  copied := by
    rintro ⟨network, event, fates, next⟩ taken parcel member
    rcases turn_or_overlay event with ⟨key, turn, rfl⟩ | notTurn
    · obtain ⟨station, _, reports⟩ := reports_of_turn taken
      rw [reports.copied] at member
      exact absurd member (Multiset.notMem_zero parcel)
    · exact (overlay_accounts taken notTurn).2.1 parcel member
  balanced := by
    rintro ⟨network, event, fates, next⟩ taken sound
    rcases turn_or_overlay event with ⟨key, turn, rfl⟩ | notTurn
    · obtain ⟨balanced, notCopied⟩ := turn_balanced sound taken
      simp only
      rw [notCopied, add_zero]
      exact balanced
    · exact (overlay_accounts taken notTurn).1

end Account

end WgLink
