import WgLink.HashInputs
import WgLink.Library.Machine
import WgLink.Tracker

/-!
# Meeting at trackers

Nodes announce themselves in swarms that are named after their own keys, the
hour and the tracker, and look into the swarms of their peers with the event
of a peer that leaves.  The trackers are shared by all nodes and by strangers,
requests and answers may be lost, and a tracker may forget its peers and list
those that it likes.
-/

namespace WgLink

open WgLink.Library

/-- `discovery_scope`. -/
def discoveryScope (period : UInt64) : String :=
  "wg-link/hourly-discovery/v2/" ++
    String.ofList (Nat.toDigits 10 period.toNat)

/-- The provider of the swarms of an hour at a tracker. -/
def trackerProvider (period : UInt64) (tracker : String) : String :=
  discoveryScope period ++ "|tracker|" ++ tracker

/-- `DiscoveryContext`, with the UDP trackers of the configuration. -/
structure DiscoveryNode where
  localPublicKey : String
  listenerPort : UInt16
  peerPublicKeys : List String
  udpTrackers : List String

/-- Why a tracker is asked. -/
inductive Purpose where
  | announce (firstAnnounce : Bool)
  | lookUp (peerKey : String)
deriving DecidableEq

section Queries

variable (sha1 : List UInt8 → ByteVector 20)

/-- Whose swarm a query is about. -/
def DiscoveryNode.subject (node : DiscoveryNode) : Purpose → String
  | .announce _ => node.localPublicKey
  | .lookUp peerKey => peerKey

/-- One query of `discover_candidates`. -/
def DiscoveryNode.query (node : DiscoveryNode) (tracker : String)
    (period : UInt64) (purpose : Purpose) : TrackerQuery :=
  let provider := trackerProvider period tracker
  { infoHash := infoHash sha1 (node.subject purpose) provider
    peerId := trackerPeerId sha1 node.localPublicKey provider
    port := node.listenerPort
    event :=
      match purpose with
      | .announce true => .started
      | .announce false => .update
      | .lookUp _ => .stopped }

/-- The purposes for which each tracker is asked in each hour. -/
def DiscoveryNode.purposes (node : DiscoveryNode) (firstAnnounce : Bool) :
    List Purpose :=
  .announce firstAnnounce :: node.peerPublicKeys.map .lookUp

/-- The loops of `discover_candidates` over the UDP trackers: which trackers
are asked, for which hour and why. -/
def DiscoveryNode.trackerQueries (node : DiscoveryNode) (unixNow : UInt64)
    (firstAnnounce : Bool) : List (String × UInt64 × Purpose) :=
  node.udpTrackers.flatMap fun tracker =>
    (activePeerIdPeriods unixNow).flatMap fun period =>
      (node.purposes firstAnnounce).map fun purpose =>
        (tracker, period, purpose)

end Queries

/-! ## All nodes and trackers -/

/-- A query of a node, with what the network and the tracker make of it. -/
structure QueryEvent (T : Type) [Tracker T] where
  node : DiscoveryNode
  tracker : String
  unixNow : UInt64
  firstAnnounce : Bool
  period : UInt64
  purpose : Purpose
  nonces : QueryNonces
  family : Family
  source : IpAddr
  fates : List (ExchangeFate (Tracker.Choice T))

/-- What happens: a node asks, or somebody else sends a datagram to a
tracker. -/
inductive RendezvousEvent (T : Type) [Tracker T] where
  | query (event : QueryEvent T)
  | stranger (tracker : String) (choice : Tracker.Choice T) (family : Family)
      (source : IpAddr) (datagram : List UInt8)

/-- The trackers by their addresses. -/
abbrev TrackerNetwork (T : Type) := String → T

section Network

variable {T : Type} [Tracker T] (sha1 : List UInt8 → ByteVector 20)

/-- The query is one of those that `discover_candidates` makes. -/
def QueryEvent.Made (event : QueryEvent T) : Prop :=
  (event.tracker, event.period, event.purpose) ∈
    event.node.trackerQueries event.unixNow event.firstAnnounce

instance (event : QueryEvent T) : Decidable event.Made :=
  inferInstanceAs (Decidable (_ ∈ _))

/-- The link over which a query goes. -/
def QueryEvent.link (event : QueryEvent T) (network : TrackerNetwork T) :
    TrackerLink T :=
  ⟨network event.tracker, event.family, event.source, event.fates⟩

def QueryEvent.trackerQuery (event : QueryEvent T) : TrackerQuery :=
  event.node.query sha1 event.tracker event.period event.purpose

/-- Nodes, trackers and strangers. -/
def rendezvous [LawfulTracker T] :
    Machine (TrackerNetwork T) (RendezvousEvent T)
      (Except String (List SocketAddr)) where
  start network :=
    ∀ tracker infoHash, LawfulTracker.swarm (network tracker) infoHash = ∅
  step network
    | .query event =>
        if event.Made then
          let trail :=
            queryUdp event.family event.nonces (event.trackerQuery sha1)
              (event.link network)
          some
            (Function.update network event.tracker trail.state.tracker,
              trail.result)
        else
          none
    | .stranger tracker choice family source datagram =>
        some
          (Function.update network tracker
            (Tracker.receive (network tracker) choice family source
              datagram).1,
            .ok [])

end Network

abbrev RendezvousStep (T : Type) [Tracker T] :=
  Record (TrackerNetwork T) (RendezvousEvent T)
    (Except String (List SocketAddr))

/-! ## What a swarm holds -/

section Swarms

variable {T : Type} [Tracker T] (sha1 : List UInt8 → ByteVector 20)
  (tracker : String) (period : UInt64) (key : String)

/-- The swarm of a key at a tracker in an hour. -/
def swarmHash : ByteVector 20 :=
  infoHash sha1 key (trackerProvider period tracker)

/-- The step is a query with which the node of a key announces an address for
an hour at a tracker. -/
def AnnouncedBy (step : RendezvousStep T) (address : SocketAddr) : Prop :=
  ∃ event firstAnnounce,
    step.input = .query event ∧
      event.purpose = .announce firstAnnounce ∧
      event.tracker = tracker ∧ event.period = period ∧
      event.node.localPublicKey = key ∧
      address = ⟨event.source, event.node.listenerPort⟩

/-- Nobody else announces anything in the swarm. -/
def SwarmUnforged (log : List (RendezvousStep T)) : Prop :=
  ∀ step ∈ log, ∀ choice family source datagram address,
    step.input = .stranger tracker choice family source datagram →
      ¬Announces datagram source (swarmHash sha1 tracker period key).toList
        address

/-- What is hashed for the swarms of the queries of a run, and for the swarm of
a key. -/
inductive Hashed (log : List (RendezvousStep T)) : List UInt8 → Prop
  | swarm :
      Hashed log (infoHashInput key (trackerProvider period tracker))
  | query {step : RendezvousStep T} {event : QueryEvent T} :
      step ∈ log → step.input = .query event →
      Hashed log
        (infoHashInput (event.node.subject event.purpose)
          (trackerProvider event.period event.tracker))

/-- The texts of a run fit into a word. -/
structure TextsFit (log : List (RendezvousStep T)) : Prop where
  swarm :
    Fits [asBytes key, asBytes (trackerProvider period tracker)]
  query :
    ∀ step ∈ log, ∀ event, step.input = .query event →
      Fits
        [asBytes (event.node.subject event.purpose),
          asBytes (trackerProvider event.period event.tracker)]

/-- The swarm holds what its owner has announced, and nothing else. -/
def HoldsOwner [LawfulTracker T] (log : List (RendezvousStep T))
    (network : TrackerNetwork T) : Prop :=
  ∀ address,
    address ∈
        LawfulTracker.swarm (network tracker)
          (swarmHash sha1 tracker period key).toList →
      ∃ step ∈ log, AnnouncedBy tracker period key step address

end Swarms

theorem trackerProvider_inj
    {first second : UInt64} {tracker : String}
    (same : trackerProvider first tracker = trackerProvider second tracker) :
    first = second := by
  unfold trackerProvider discoveryScope at same
  have texts := congrArg String.toList same
  simp only [String.toList_append, List.append_assoc,
    List.append_cancel_left_eq] at texts
  have digits := List.append_cancel_right texts
  rw [String.toList_ofList, String.toList_ofList] at digits
  exact UInt64.toNat_inj.mp (toDigits_inj digits)

section Runs

variable {T : Type} [Tracker T] {sha1 : List UInt8 → ByteVector 20}
  {tracker key : String} {period : UInt64} {log : List (RendezvousStep T)}
  {step : RendezvousStep T} {event : QueryEvent T}
  {network : TrackerNetwork T}

theorem Hashed.cons
    (step : RendezvousStep T) {input : List UInt8}
    (hashed : Hashed tracker period key log input) :
    Hashed tracker period key (step :: log) input := by
  cases hashed with
  | swarm => exact .swarm
  | query member isQuery =>
      exact .query (List.mem_cons_of_mem step member) isQuery

/-- A query about the swarm of a key is about that key and hour. -/
theorem subject_of_infoHash
    (apart :
      Set.InjOn sha1 {input | Hashed tracker period key log input})
    (fits : TextsFit tracker period key log)
    (member : step ∈ log) (isQuery : step.input = .query event)
    (sameTracker : event.tracker = tracker)
    (sameHash :
      (event.trackerQuery sha1).infoHash =
        swarmHash sha1 tracker period key) :
    event.node.subject event.purpose = key ∧ event.period = period := by
  have sameInput :=
    apart (Hashed.query member isQuery) Hashed.swarm sameHash
  obtain ⟨sameKey, sameProvider⟩ :=
    infoHashInput_inj (fits.query step member event isQuery) fits.swarm
      sameInput
  rw [sameTracker] at sameProvider
  exact ⟨sameKey, trackerProvider_inj sameProvider⟩

/-- What a query enters in the swarm of a key, the owner of the key
announces. -/
theorem announcedBy_of_enters
    {address : SocketAddr}
    (apart :
      Set.InjOn sha1 {input | Hashed tracker period key log input})
    (fits : TextsFit tracker period key log)
    (member : step ∈ log) (isQuery : step.input = .query event)
    (sameTracker : event.tracker = tracker)
    (enters :
      (event.trackerQuery sha1).Enters event.source
        (swarmHash sha1 tracker period key).toList address) :
    AnnouncedBy tracker period key step address := by
  have sameHash :
      (event.trackerQuery sha1).infoHash =
        swarmHash sha1 tracker period key :=
    Subtype.ext enters.infoHash.symm
  obtain ⟨subject, samePeriod⟩ :=
    subject_of_infoHash apart fits member isQuery sameTracker sameHash
  cases isPurpose : event.purpose with
  | announce firstAnnounce =>
      rw [isPurpose] at subject
      exact
        ⟨event, firstAnnounce, isQuery, isPurpose, sameTracker, samePeriod,
          subject, enters.address⟩
  | lookUp peerKey =>
      have stopped : (event.trackerQuery sha1).event = .stopped := by
        unfold QueryEvent.trackerQuery DiscoveryNode.query
        rw [isPurpose]
      exact absurd stopped enters.event

variable [LawfulTracker T]

/-- What a query leaves at its tracker, and what it returns. -/
theorem query_of_takes
    {record : RendezvousStep T}
    (taken : (rendezvous sha1).Takes record)
    (isQuery : record.input = .query event) :
    (∃ after,
      record.after = Function.update record.before event.tracker after ∧
        ∀ infoHash address,
          address ∈ LawfulTracker.swarm after infoHash →
          address ∈
              LawfulTracker.swarm (record.before event.tracker) infoHash ∨
            (event.trackerQuery sha1).Enters event.source infoHash address) ∧
      ∀ found, record.output = .ok found →
        Returns event.family event.source event.nonces
          (event.trackerQuery sha1) found (record.after event.tracker) := by
  obtain ⟨before, input, output, reached⟩ := record
  simp only at isQuery
  subst isQuery
  unfold Machine.Takes rendezvous at taken
  simp only at taken
  split at taken
  next made =>
    cases taken
    have whole :
        Within (event.trackerQuery sha1) (event.link before)
          (event.link before) :=
      ⟨rfl, rfl, fun _ _ member => Or.inl member⟩
    have ends :=
      (@queryUdp_triple T _ _ (event.trackerQuery sha1) (event.link before)
        event.nonces (event.link before) whole).2
    have within :
        Within (event.trackerQuery sha1) (event.link before)
          (queryUdp event.family event.nonces (event.trackerQuery sha1)
            (event.link before)).state := by
      cases outcome :
          (queryUdp event.family event.nonces (event.trackerQuery sha1)
            (event.link before)).result with
      | ok found =>
          exact (ends.of_ok outcome).1
      | error error =>
          exact ends.of_error outcome
    refine ⟨⟨_, rfl, within.swarms⟩, ?_⟩
    intro found answered
    simp only [Function.update_self]
    exact (ends.of_ok answered).2
  next => cases taken

theorem HoldsOwner.cons
    (holds : HoldsOwner sha1 tracker period key log network)
    (step : RendezvousStep T) :
    HoldsOwner sha1 tracker period key (step :: log) network := by
  intro address member
  obtain ⟨announcement, earlier, announced⟩ := holds address member
  exact ⟨announcement, List.mem_cons_of_mem step earlier, announced⟩

/-- A tracker is written back whose swarm holds what it held or what was
announced. -/
theorem HoldsOwner.update
    (holds : HoldsOwner sha1 tracker period key log network)
    {place : String} {after : T}
    (continues :
      place = tracker →
        ∀ address,
          address ∈
              LawfulTracker.swarm after
                (swarmHash sha1 tracker period key).toList →
            address ∈
                LawfulTracker.swarm (network place)
                  (swarmHash sha1 tracker period key).toList ∨
              ∃ step ∈ log, AnnouncedBy tracker period key step address) :
    HoldsOwner sha1 tracker period key log
      (Function.update network place after) := by
  intro address member
  by_cases here : tracker = place
  · subst here
    rw [Function.update_self] at member
    rcases continues rfl address member with before | announced
    · exact holds address before
    · exact announced
  · rw [Function.update_of_ne here] at member
    exact holds address member

/-- One step adds to the swarm of a key at most what its owner announces. -/
theorem step_holdsOwner
    {record : RendezvousStep T}
    (holds : HoldsOwner sha1 tracker period key log record.before)
    (apart :
      Set.InjOn sha1
        {input | Hashed tracker period key (record :: log) input})
    (fits : TextsFit tracker period key (record :: log))
    (unforged : SwarmUnforged sha1 tracker period key (record :: log))
    (taken : (rendezvous sha1).Takes record) :
    HoldsOwner sha1 tracker period key (record :: log) record.after := by
  cases isInput : record.input with
  | query event =>
      obtain ⟨⟨after, reached, swarms⟩, _⟩ := query_of_takes taken isInput
      rw [reached]
      apply (holds.cons record).update
      intro sameTracker address member
      rcases swarms _ address member with before | enters
      · exact Or.inl before
      · exact Or.inr
          ⟨record, List.mem_cons_self,
            announcedBy_of_enters apart fits List.mem_cons_self isInput
              sameTracker enters⟩
  | stranger place choice family source datagram =>
      unfold Machine.Takes rendezvous at taken
      rw [isInput] at taken
      have reached :
          record.after =
            Function.update record.before place
              (Tracker.receive (record.before place) choice family source
                datagram).1 :=
        (congrArg Prod.fst (Option.some.inj taken)).symm
      rw [reached]
      apply (holds.cons record).update
      rintro rfl address member
      rcases LawfulTracker.announced_of_entered _ _ _ _ _ _ _ member with
        before | announces
      · exact Or.inl before
      · exact absurd announces
          (unforged record List.mem_cons_self choice family source datagram
            address isInput)

/-- After every run the swarm of a key holds at most what its owner has
announced. -/
theorem holdsOwner_of_execution
    (execution : (rendezvous sha1).Execution log network)
    (apart :
      Set.InjOn sha1 {input | Hashed tracker period key log input})
    (fits : TextsFit tracker period key log)
    (unforged : SwarmUnforged sha1 tracker period key log) :
    HoldsOwner sha1 tracker period key log network := by
  induction execution with
  | start started =>
      intro address member
      rw [started] at member
      cases member
  | @step older record earlier taken inductionHypothesis =>
      have held :=
        inductionHypothesis
          (apart.mono fun _ hashed => Hashed.cons record hashed)
          ⟨fits.swarm, fun step member =>
            fits.query step (List.mem_cons_of_mem record member)⟩
          (fun step member =>
            unforged step (List.mem_cons_of_mem record member))
      exact step_holdsOwner held apart fits unforged taken

/-- What a query finds: the peers that the answer of the tracker lists, as many
as fit, and each of them is an address that the node it asks for has announced
for this hour at this tracker.  Nodes that look into the swarm are not found
there. -/
theorem tracker_finds_announcements
    {newer older : List (RendezvousStep T)} {record : RendezvousStep T}
    {found : List SocketAddr}
    (execution :
      (rendezvous sha1).Execution (newer ++ record :: older) network)
    (isQuery : record.input = .query event)
    (answered : record.output = .ok found)
    (apart :
      Set.InjOn sha1
        {input |
          Hashed event.tracker event.period
            (event.node.subject event.purpose) (record :: older) input})
    (fits :
      TextsFit event.tracker event.period (event.node.subject event.purpose)
        (record :: older))
    (unforged :
      SwarmUnforged sha1 event.tracker event.period
        (event.node.subject event.purpose) (record :: older)) :
    Returns event.family event.source event.nonces
        (event.trackerQuery sha1) found (record.after event.tracker) ∧
      ∀ address ∈ found,
        ∃ step ∈ record :: older,
          AnnouncedBy event.tracker event.period
            (event.node.subject event.purpose) step address := by
  have taken := (Machine.Execution.split execution).2
  have holds :=
    holdsOwner_of_execution (Machine.Execution.split_after execution) apart
      fits unforged
  have returned := (query_of_takes taken isQuery).2 found answered
  refine ⟨returned, ?_⟩
  obtain ⟨_, _, peers, _, _, members, listed⟩ := returned
  intro address member
  rw [listed] at member
  exact holds address (members address (List.mem_of_mem_take member))

end Runs

/-! ## Two nodes at a tracker -/

/-- A tracker with a list of its connections and of the addresses in its
swarms. -/
structure ListTracker where
  connections : List Nat
  entries : List (List UInt8 × SocketAddr)

/-- The connection id that it gives, and the peers that it lists if they are in
the swarm. -/
structure ListChoice where
  connectionId : UInt64
  listed : List SocketAddr

namespace ListTracker

/-- The entries after an announcement. -/
def announce (tracker : ListTracker) (source : IpAddr)
    (datagram : List UInt8) : List (List UInt8 × SocketAddr) :=
  let entry : List UInt8 × SocketAddr :=
    (field datagram 16 20,
      ⟨source, UInt16.ofNat (beValue (field datagram 96 2))⟩)
  let others := tracker.entries.filter fun other => decide (other ≠ entry)
  if beValue (field datagram 80 4) = 3 then others else entry :: others

/-- The peers that are listed in an answer. -/
def peers (entries : List (List UInt8 × SocketAddr)) (choice : ListChoice)
    (family : Family) (datagram : List UInt8) : List SocketAddr :=
  choice.listed.filter fun peer =>
    decide ((field datagram 16 20, peer) ∈ entries) &&
      (compactEntry family peer).isSome

def receive (tracker : ListTracker) (choice : ListChoice) (family : Family)
    (source : IpAddr) (datagram : List UInt8) :
    ListTracker × Option (List UInt8) :=
  if datagram.length = 16 ∧
      beValue (field datagram 0 8) = trackerProtocolId.toNat ∧
      beValue (field datagram 8 4) = 0 then
    ({ tracker with
        connections := choice.connectionId.toNat :: tracker.connections },
      some
        (beBytes 4 0 ++
          (field datagram 12 4 ++ beBytes 8 choice.connectionId.toNat)))
  else if datagram.length = 98 ∧
      beValue (field datagram 0 8) ∈ tracker.connections ∧
      beValue (field datagram 8 4) = 1 then
    let entries := tracker.announce source datagram
    let listed := peers entries choice family datagram
    ({ tracker with entries },
      some
        ((beBytes 4 1 ++
            (field datagram 12 4 ++
              (beBytes 4 1800 ++ (beBytes 4 0 ++ beBytes 4 1)))) ++
          (listed.filterMap (compactEntry family)).flatten))
  else
    (tracker, none)

instance : Tracker ListTracker where
  Choice := ListChoice
  receive := receive

variable {tracker : ListTracker} {choice : ListChoice} {family : Family}
  {source : IpAddr} {datagram infoHash answer : List UInt8}
  {address : SocketAddr}

theorem announces_of_mem
    (length : datagram.length = 98)
    (action : beValue (field datagram 8 4) = 1)
    (member : (infoHash, address) ∈ tracker.announce source datagram) :
    (infoHash, address) ∈ tracker.entries ∨
      Announces datagram source infoHash address := by
  unfold announce at member
  simp only at member
  split at member
  · exact Or.inl (List.mem_filter.mp member).1
  · rename_i notStopped
    rcases List.mem_cons.mp member with same | other
    · obtain ⟨rfl, rfl⟩ := Prod.mk.inj same
      have short : beValue (field datagram 96 2) < 65536 := by
        have bound := beValue_lt (field datagram 96 2)
        have two : (field datagram 96 2).length = 2 := by
          unfold field
          rw [List.length_take, List.length_drop, length]
          rfl
        rw [two] at bound
        exact bound
      refine Or.inr ⟨length.ge, action, rfl, notStopped, fun _ => rfl, ?_⟩
      exact (UInt16.toNat_ofNat_of_lt' short).symm
    · exact Or.inl (List.mem_filter.mp other).1

theorem received_entries
    (member :
      (infoHash, address) ∈
        (tracker.receive choice family source datagram).1.entries) :
    (infoHash, address) ∈ tracker.entries ∨
      Announces datagram source infoHash address := by
  unfold receive at member
  split at member
  · exact Or.inl member
  · split at member
    · rename_i announcement
      exact announces_of_mem announcement.1 announcement.2.2 member
    · exact Or.inl member

theorem received_lists
    (action : beValue (field datagram 8 4) = 1)
    (answered :
      (tracker.receive choice family source datagram).2 = some answer) :
    ∃ peers,
      Lists family answer peers ∧
        ∀ peer ∈ peers,
          (field datagram 16 20, peer) ∈
            (tracker.receive choice family source datagram).1.entries := by
  have notConnect :
      ¬(datagram.length = 16 ∧
        beValue (field datagram 0 8) = trackerProtocolId.toNat ∧
        beValue (field datagram 8 4) = 0) := by
    rintro ⟨_, _, zero⟩
    rw [action] at zero
    cases zero
  unfold receive at answered ⊢
  rw [if_neg notConnect] at answered ⊢
  split at answered
  · rename_i announcement
    rw [if_pos announcement]
    cases answered
    refine ⟨_, ⟨List.drop_left' ?_, ?_⟩, ?_⟩
    · have transaction : (field datagram 12 4).length = 4 := by
        unfold field
        rw [List.length_take, List.length_drop, announcement.1]
        rfl
      simp only [List.length_append, length_beBytes, transaction]
    · intro peer member
      exact (Bool.and_eq_true_iff.mp (List.mem_filter.mp member).2).2
    · intro peer member
      exact
        of_decide_eq_true
          (Bool.and_eq_true_iff.mp (List.mem_filter.mp member).2).1
  · cases answered

instance : LawfulTracker ListTracker where
  swarm tracker infoHash := {address | (infoHash, address) ∈ tracker.entries}
  announced_of_entered _ _ _ _ _ _ _ member := received_entries member
  lists_swarm _ _ _ _ _ _ action answered _ := received_lists action answered

end ListTracker

/-- The tracker of two nodes. -/
def meetingTracker : String := "udp://tracker.example:6969"

def leftFinder : DiscoveryNode where
  localPublicKey := "left"
  listenerPort := 42007
  peerPublicKeys := ["right"]
  udpTrackers := [meetingTracker]

def rightFinder : DiscoveryNode where
  localPublicKey := "right"
  listenerPort := 42008
  peerPublicKeys := ["left"]
  udpTrackers := [meetingTracker]

/-- SHA-1 on what is hashed when the second node looks for the first one. -/
def meetingSha1 : List UInt8 → ByteVector 20 :=
  let provider := trackerProvider 2 meetingTracker
  tableHash
    [(infoHashInput "left" provider,
        [0x2B, 0x14, 0x04, 0xB7, 0xA9, 0xDC, 0x81, 0x3E, 0xF1, 0xA0,
          0xC0, 0x70, 0xB7, 0x30, 0x4B, 0x6F, 0x9F, 0xDA, 0x9A, 0x76]),
      (infoHashInput "left" ("peer-id|" ++ provider),
        [0x3A, 0x12, 0xEE, 0xBA, 0x80, 0x5D, 0x6D, 0x22, 0x29, 0xD2,
          0xFF, 0xCD, 0xDF, 0x27, 0xDD, 0x30, 0x24, 0xB3, 0xAB, 0x6C]),
      (infoHashInput "right" ("peer-id|" ++ provider),
        [0x7D, 0x4A, 0x56, 0x29, 0x97, 0x83, 0xD7, 0xC1, 0xFF, 0x71,
          0xBD, 0xDE, 0x85, 0xCD, 0x43, 0x67, 0x6C, 0x07, 0x2C, 0x10])]

/-- Where the first node listens. -/
def leftAddress : SocketAddr := ⟨.v4 0xC0000207#32, 42007⟩

/-- The first node announces itself. -/
def announcing : QueryEvent ListTracker where
  node := leftFinder
  tracker := meetingTracker
  unixNow := 7200
  firstAnnounce := true
  period := 2
  purpose := .announce true
  nonces := ⟨1, 2, 3⟩
  family := .v4
  source := .v4 0xC0000207#32
  fates := [.delivered (ListChoice.mk 5 []), .delivered (ListChoice.mk 5 [])]

/-- The second node looks for it. -/
def looking : QueryEvent ListTracker where
  node := rightFinder
  tracker := meetingTracker
  unixNow := 7300
  firstAnnounce := false
  period := 2
  purpose := .lookUp "left"
  nonces := ⟨4, 5, 6⟩
  family := .v4
  source := .v4 0xC0000208#32
  fates :=
    [.delivered (ListChoice.mk 8 []),
      .delivered (ListChoice.mk 8 [leftAddress])]

/-- The second node finds where the first one listens. -/
theorem tracker_finds_announcements_looking :
    ∃ record older network,
      (rendezvous meetingSha1).Execution (record :: older) network ∧
        record.input = .query looking ∧
        record.output = .ok [leftAddress] ∧
        ∃ step ∈ record :: older,
          AnnouncedBy meetingTracker 2 "left" step leftAddress := by
  have ran :
      ((rendezvous meetingSha1).run (fun _ => ListTracker.mk [] [])
          [.query announcing, .query looking]).map
          (fun run => run.1.head?.map fun record => record.output.toOption) =
        some (some (some [leftAddress])) := by
    decide +kernel
  obtain ⟨⟨log, network⟩, completed, observed⟩ :=
    Option.map_eq_some_iff.mp ran
  have execution : (rendezvous meetingSha1).Execution log network := by
    refine Machine.execution_of_run ?_ completed
    exact fun _ _ => Set.eq_empty_of_forall_notMem fun _ => List.not_mem_nil
  have inputs := Machine.inputs_of_run completed
  cases log with
  | nil =>
      cases observed
  | cons record older =>
      have isQuery := (List.cons.inj inputs).1
      have isInput :
          ∀ step ∈ record :: older,
            step.input = .query looking ∨ step.input = .query announcing := by
        intro step member
        have listed := List.mem_map_of_mem (f := Record.input) member
        rw [inputs] at listed
        simpa using listed
      have answered : record.output = .ok [leftAddress] := by
        have seen : record.output.toOption = some [leftAddress] :=
          Option.some.inj observed
        cases outcome : record.output with
        | error error =>
            rw [outcome] at seen
            cases seen
        | ok found =>
            rw [outcome] at seen
            exact congrArg Except.ok (Option.some.inj seen)
      have hashed :
          ∀ input, Hashed meetingTracker 2 "left" (record :: older) input →
            input =
              infoHashInput "left" (trackerProvider 2 meetingTracker) := by
        intro input isHashed
        cases isHashed with
        | swarm => rfl
        | @query step event member isEvent =>
            rcases isInput step member with isLooking | isAnnouncing
            · cases isEvent.symm.trans isLooking
              rfl
            · cases isEvent.symm.trans isAnnouncing
              rfl
      have apart :
          Set.InjOn meetingSha1
            {input | Hashed meetingTracker 2 "left" (record :: older) input} :=
        fun first isFirst second isSecond _ =>
          (hashed first isFirst).trans (hashed second isSecond).symm
      have fits : TextsFit meetingTracker 2 "left" (record :: older) := by
        constructor
        · unfold Fits
          decide +kernel
        · intro step member event isEvent
          rcases isInput step member with isLooking | isAnnouncing
          · cases isEvent.symm.trans isLooking
            unfold Fits
            decide +kernel
          · cases isEvent.symm.trans isAnnouncing
            unfold Fits
            decide +kernel
      have unforged :
          SwarmUnforged meetingSha1 meetingTracker 2 "left"
            (record :: older) := by
        intro step member choice family source datagram address isStranger
        rcases isInput step member with isLooking | isAnnouncing
        · cases isStranger.symm.trans isLooking
        · cases isStranger.symm.trans isAnnouncing
      have found :=
        (@tracker_finds_announcements ListTracker _ meetingSha1 looking network
          _ [] older record _ execution isQuery answered apart fits
          unforged).2 leftAddress List.mem_cons_self
      exact ⟨record, older, network, execution, isQuery, answered, found⟩

end WgLink
