import WgLink.Library.Machine
import WgLink.Library.Window
import WgLink.Shortcut.Transit

/-!
# Runs of the transit detector

The detector over any sequence of packets.  Its table is purged whenever any
flow is reported; the decisions are nevertheless those of the full history of
reports.
-/

namespace WgLink

open WgLink.Library

/-- The arguments of `observe`. -/
structure Observation where
  snapshot : Snapshot
  ingress : IngressPath
  source : IpAddr
  destination : IpAddr
  now : UInt64

namespace Observation

/-- The packet passes the checks on its peers, with this downstream peer. -/
structure Passes (observation : Observation) (downstream : Peer) : Prop where
  authenticated :
    observation.ingress.authenticated observation.snapshot observation.now =
      true
  routed :
    observation.snapshot.routePeer observation.destination
      (some observation.ingress.publicKey) = some downstream
  fresh : handshakeIsFresh downstream.latestHandshake observation.now = true

/-- The flow to a downstream peer. -/
def flow (observation : Observation) (downstream : Peer) : FlowKey where
  upstreamPublicKey := observation.ingress.publicKey
  downstreamPublicKey := downstream.publicKey
  source := observation.source
  destination := observation.destination

end Observation

/-- The detector, from its default state. -/
def transitRuns :
    Machine TransitDetector Observation (Option TransitOpportunity) where
  start := fun detector => detector = ⟨∅⟩
  step := fun detector observation =>
    some
      (detector.observe observation.snapshot observation.ingress
        observation.source observation.destination observation.now)

abbrev TransitRecord :=
  Record TransitDetector Observation (Option TransitOpportunity)

/-- The flow that a call returned an opportunity for, with its time. -/
def TransitRecord.emission (record : TransitRecord) :
    Option (FlowKey × UInt64) :=
  record.output.map fun opportunity =>
    (⟨opportunity.upstreamPublicKey, opportunity.downstreamPublicKey,
      record.input.source, record.input.destination⟩, record.input.now)

/-- All emissions of a log, the newest first. -/
def emissions (log : List TransitRecord) : List (FlowKey × UInt64) :=
  log.filterMap TransitRecord.emission

namespace TransitDetector

variable
  {detector : TransitDetector} {record : TransitRecord}
  {log newer older : List TransitRecord}

theorem suppressed_eq_blocked (flow : FlowKey) (now : UInt64) :
    detector.suppressed flow now =
      Window.blocked suppressionSeconds detector.observed flow now :=
  rfl

/-- A call either returns nothing and changes nothing, or reports the flow of
a packet that passes the checks. -/
theorem takes_cases (taken : transitRuns.Takes record) :
    (record.output = none ∧ record.after = record.before) ∨
      ∃ downstream,
        record.input.Passes downstream ∧
          record.before.suppressed (record.input.flow downstream)
            record.input.now = false ∧
          record.emission =
            some (record.input.flow downstream, record.input.now) ∧
          record.after.observed =
            Window.report suppressionSeconds record.before.observed
              (record.input.flow downstream) record.input.now := by
  obtain ⟨before, observation, output, after⟩ := record
  change
    some (before.observe observation.snapshot observation.ingress
        observation.source observation.destination observation.now) =
      some (after, output) at taken
  have result := Option.some.inj taken
  unfold observe at result
  by_cases authenticated :
      observation.ingress.authenticated observation.snapshot
        observation.now = true
  · rw [if_pos authenticated] at result
    cases routed :
        observation.snapshot.routePeer observation.destination
          (some observation.ingress.publicKey) with
    | none =>
        rw [routed] at result
        cases result
        exact Or.inl ⟨rfl, rfl⟩
    | some downstream =>
        rw [routed] at result
        simp only at result
        split_ifs at result with stale known
        · cases result
          exact Or.inl ⟨rfl, rfl⟩
        · cases result
          exact Or.inl ⟨rfl, rfl⟩
        · rw [not_or, Bool.not_eq_false] at stale
          rw [Bool.not_eq_true] at known
          cases result
          exact Or.inr
            ⟨downstream, ⟨authenticated, routed, stale.2⟩, known, rfl, rfl⟩
  · rw [if_neg authenticated] at result
    cases result
    exact Or.inl ⟨rfl, rfl⟩

theorem passes_unique
    {observation : Observation} {first second : Peer}
    (passesFirst : observation.Passes first)
    (passesSecond : observation.Passes second) :
    first = second :=
  Option.some.inj (passesFirst.routed.symm.trans passesSecond.routed)

/-- A packet that passes the checks is reported unless its flow is
suppressed. -/
theorem output_of_passes
    {downstream : Peer}
    (taken : transitRuns.Takes record)
    (passes : record.input.Passes downstream) :
    record.output.isSome = true ↔
      record.before.suppressed (record.input.flow downstream)
        record.input.now = false := by
  constructor
  · intro reported
    rcases takes_cases taken with ⟨nothing, _⟩ | ⟨peer, passesPeer, free, _⟩
    · rw [nothing] at reported
      cases reported
    · rw [passes_unique passes passesPeer]
      exact free
  · intro free
    have output :
        record.output =
          (record.before.observe record.input.snapshot record.input.ingress
            record.input.source record.input.destination
            record.input.now).2 :=
      congrArg Prod.snd (Option.some.inj taken).symm
    rw [output,
      observe_of_admits
        ⟨passes.authenticated, passes.routed, passes.fresh, free⟩]
    rfl

theorem emissions_cons_none
    (nothing : record.output = none) :
    emissions (record :: log) = emissions log := by
  unfold emissions
  apply List.filterMap_cons_none
  unfold TransitRecord.emission
  rw [nothing]
  rfl

theorem emissions_cons_some
    {entry : FlowKey × UInt64} (emitted : record.emission = some entry) :
    emissions (record :: log) = entry :: emissions log :=
  List.filterMap_cons_some emitted

/-- Every emission carries the time of a call. -/
theorem time_of_mem_emissions
    {entry : FlowKey × UInt64} (member : entry ∈ emissions log) :
    ∃ record ∈ log, entry.2 = record.input.now := by
  obtain ⟨record, logged, emitted⟩ := List.mem_filterMap.mp member
  obtain ⟨opportunity, _, same⟩ := Option.map_eq_some_iff.mp emitted
  exact ⟨record, logged, congrArg Prod.snd same.symm⟩

theorem emissions_passed
    (ordered : Chronological Observation.now (record :: log)) :
    ∀ entry ∈ emissions log, entry.2 ≤ record.input.now := by
  intro entry member
  obtain ⟨earlier, logged, time⟩ := time_of_mem_emissions member
  rw [time]
  exact (List.pairwise_cons.mp ordered).1 earlier logged

/-- The table keeps track of all emissions, whichever flow purges it. -/
theorem tracks_of_execution
    (execution : transitRuns.Execution log detector)
    (ordered : Chronological Observation.now log) :
    Window.Tracks suppressionSeconds (emissions log) detector.observed := by
  induction execution with
  | start started =>
      rw [started]
      exact Window.Tracks.empty
  | @step log record earlier taken inductionHypothesis =>
      have tracks := inductionHypothesis (List.pairwise_cons.mp ordered).2
      rcases takes_cases taken with
        ⟨nothing, same⟩ | ⟨downstream, _, _, emitted, reported⟩
      · rw [emissions_cons_none nothing, same]
        exact tracks
      · rw [emissions_cons_some emitted, reported]
        have positive : 0 < suppressionSeconds.toNat := by decide
        exact tracks.report positive (emissions_passed ordered)

/-- The step at one place of a run, with the run before it. -/
theorem suppressed_iff_emitted
    {downstream : Peer}
    (earlier : transitRuns.Execution older record.before)
    (ordered : Chronological Observation.now (record :: older)) :
    record.before.suppressed (record.input.flow downstream)
        record.input.now = true ↔
      ∃ entry ∈ emissions older,
        entry.1 = record.input.flow downstream ∧
          record.input.now.toNat - entry.2.toNat < 10 := by
  rw [suppressed_eq_blocked]
  have tracks :=
    tracks_of_execution earlier (List.pairwise_cons.mp ordered).2
  exact tracks.blocked_iff_history (emissions_passed ordered)

/-- The decisions of a run are those of its history of emissions, and after an
emission the table holds recent emissions only. -/
structure FollowsHistory (log : List TransitRecord) : Prop where
  emits :
    ∀ newer record older downstream,
      log = newer ++ record :: older →
      record.input.Passes downstream →
      (record.output.isSome = true ↔
        ¬ ∃ entry ∈ emissions older,
          entry.1 = record.input.flow downstream ∧
            record.input.now.toNat - entry.2.toNat < 10)
  recent :
    ∀ newer record older flow last,
      log = newer ++ record :: older →
      record.output.isSome = true →
      record.after.observed.lookup flow = some last →
      (flow, last) ∈ emissions (record :: older) ∧
        record.input.now.toNat - last.toNat < 10

/-- Suppression with a purged table is suppression by the full history. -/
theorem followsHistory_of_execution
    (execution : transitRuns.Execution log detector)
    (ordered : Chronological Observation.now log) :
    FollowsHistory log := by
  constructor
  · intro newer record older downstream parts passes
    rw [parts] at execution ordered
    have upTo : Chronological Observation.now (record :: older) :=
      (List.pairwise_append.mp ordered).2.1
    rw [output_of_passes execution.split.2 passes,
      ← suppressed_iff_emitted execution.split.1 upTo, Bool.not_eq_true]
  · intro newer record older flow last parts emitted found
    rw [parts] at execution ordered
    have upTo : Chronological Observation.now (record :: older) :=
      (List.pairwise_append.mp ordered).2.1
    constructor
    · have tracks := tracks_of_execution execution.split_after upTo
      exact tracks.reported flow last found
    · rcases takes_cases execution.split.2 with
        ⟨nothing, _⟩ | ⟨downstream, _, _, _, reported⟩
      · rw [nothing] at emitted
        cases emitted
      · rw [reported] at found
        exact Window.recent_of_report found

/-- The snapshot of the unit tests. -/
def testSnapshot : Snapshot where
  publicKey := "middle"
  peers :=
    [ { publicKey := "upstream"
        allowedIps := [.v4 0xCB007100#32 ((Fin.last 24).castAdd 8)]
        latestHandshake := 950 },
      { publicKey := "downstream"
        allowedIps := [.v4 0xC6336400#32 ((Fin.last 24).castAdd 8)]
        latestHandshake := 990 } ]

def testObservation (source : BitVec 32) (now : UInt64) : Observation :=
  ⟨testSnapshot, .base "upstream", .v4 source, .v4 0xC6336407#32, now⟩

/-- The third packet belongs to another flow, and its report purges the
table. -/
theorem followsHistory_of_two_flows :
    ∃ log detector,
      transitRuns.Execution log detector ∧
        log.map (fun record => record.output.isSome) =
          [true, true, false, true] ∧
        FollowsHistory log := by
  have ran :
      (transitRuns.run ⟨∅⟩
          [testObservation 0xCB007109#32 1000,
            testObservation 0xCB007109#32 1005,
            testObservation 0xCB00710A#32 1010,
            testObservation 0xCB007109#32 1011]).map
        (fun result =>
          (result.1.map fun record => record.input.now,
            result.1.map fun record => record.output.isSome)) =
        some ([1011, 1010, 1005, 1000], [true, true, false, true]) := by
    decide
  obtain ⟨log, detector, execution, observed⟩ :=
    Machine.exists_execution_of_run rfl ran
  rw [Prod.mk.injEq] at observed
  have ordered : Chronological Observation.now log := by
    have times :
        (log.map fun record => record.input.now).Pairwise
          fun newer older => older ≤ newer := by
      rw [observed.1]
      decide
    exact List.pairwise_map.mp times
  exact ⟨log, detector, execution, observed.2,
    followsHistory_of_execution execution ordered⟩

end TransitDetector

end WgLink
