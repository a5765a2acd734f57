import WgLink.Library.Machine
import WgLink.Library.SlidingWindow
import WgLink.Metrics

/-!
# What the metrics remember

All tasks write into one registry.  It keeps only a short queue of probes for
each path, which every write and every reading trims.  `pathReport` is what a
reading shows in terms of all calls since the peer was last removed.
-/

namespace WgLink

open WgLink.Library

/-- A call about one path; a size of the source is a 64-bit word. -/
inductive PathCall where
  | register
  | setAvailable (available : Bool)
  | setRouteLatency (latencyMs : Option Int)
  | recordProbe (rtt : Option Duration)
  | recordTx (bytes : UInt64)
  | recordRx (bytes : UInt64)
  | snapshot
deriving DecidableEq

/-- A call of the registry. -/
inductive MetricsCall where
  | onPath (peerKey pathId : String) (call : PathCall)
  | removePeersExcept (peerKeys : List String)
deriving DecidableEq

/-- A call and the clock at that time. -/
structure MetricsInput where
  now : Instant
  call : MetricsCall
deriving DecidableEq

/-- What a call does to the registry, and what it returns. -/
def MetricsRegistry.call (registry : MetricsRegistry) (now : Instant) :
    MetricsCall → MetricsRegistry × Option PathMetricsSnapshot
  | .removePeersExcept peerKeys => (registry.removePeersExcept peerKeys, none)
  | .onPath peerKey pathId .register =>
      (registry.registerPath peerKey pathId, none)
  | .onPath peerKey pathId (.setAvailable available) =>
      (registry.setAvailable peerKey pathId available, none)
  | .onPath peerKey pathId (.setRouteLatency latencyMs) =>
      (registry.setRouteLatency peerKey pathId latencyMs, none)
  | .onPath peerKey pathId (.recordProbe rtt) =>
      (registry.recordProbe peerKey pathId rtt now, none)
  | .onPath peerKey pathId (.recordTx bytes) =>
      (registry.recordTx peerKey pathId bytes.toNat, none)
  | .onPath peerKey pathId (.recordRx bytes) =>
      (registry.recordRx peerKey pathId bytes.toNat, none)
  | .onPath peerKey pathId .snapshot =>
      let (next, report) := registry.snapshot peerKey pathId now
      (next, some report)

/-- The registry from an empty one on. -/
def metricsRuns :
    Machine MetricsRegistry MetricsInput (Option PathMetricsSnapshot) where
  start registry := registry = ∅
  step registry input := some (registry.call input.now input.call)

abbrev MetricsStep :=
  Record MetricsRegistry MetricsInput (Option PathMetricsSnapshot)

/-! ## The history of a path -/

/-- The calls about a path since its peer was last removed, newest first. -/
def callsOf (path : String × String) :
    List MetricsStep → List (Instant × PathCall)
  | [] => []
  | step :: older =>
      match step.input.call with
      | .onPath peerKey pathId call =>
          if (peerKey, pathId) = path then
            (step.input.now, call) :: callsOf path older
          else
            callsOf path older
      | .removePeersExcept peerKeys =>
          if path.1 ∈ peerKeys then callsOf path older else []

namespace PathCall

/-- What a call tells about the availability. -/
def availability : PathCall → Option Bool
  | .setAvailable available => some available
  | .recordProbe (some _) => some true
  | _ => none

def roundTrip : PathCall → Option Duration
  | .recordProbe rtt => rtt
  | _ => none

def latency : PathCall → Option (Option Int)
  | .setRouteLatency latencyMs => some latencyMs
  | _ => none

/-- The sample that a call adds. -/
def sample (now : Instant) : PathCall → Option ProbeSample
  | .recordProbe rtt => some ⟨now, rtt.isSome⟩
  | _ => none

def sent : PathCall → Nat
  | .recordTx bytes => bytes.toNat
  | _ => 0

def received : PathCall → Nat
  | .recordRx bytes => bytes.toNat
  | _ => 0

end PathCall

/-- A total of the counters, which stop at the largest word. -/
def counted (amount : PathCall → Nat) (calls : List (Instant × PathCall)) :
    Nat :=
  min (calls.map fun call => amount call.2).sum maxWord.toNat

/-- All samples, newest first. -/
def samplesOf (calls : List (Instant × PathCall)) : List ProbeSample :=
  calls.filterMap fun call => call.2.sample call.1

/-- The newest hundred samples of the last minute. -/
def recentSamples (now : Instant) (calls : List (Instant × PathCall)) :
    List ProbeSample :=
  ((samplesOf calls).filter fun sample =>
    !decide (now - sample.recordedAt > fromSecs 60)).take 100

/-- The report of a path in terms of its history. -/
def pathReport (now : Instant) (calls : List (Instant × PathCall)) :
    PathMetricsSnapshot :=
  let samples := recentSamples now calls
  { available :=
      (calls.findSome? fun call => call.2.availability).getD false
    rtt := calls.findSome? fun call => call.2.roundTrip
    routeLatencyMs :=
      (calls.findSome? fun call => call.2.latency).getD none
    lossPercent :=
      if samples.length > 0 then
        some
          ((samples.countP fun sample => !sample.success : Nat) * 100 /
            samples.length)
      else
        none
    probeSamples := samples.length
    txBytes := UInt64.ofNat (counted PathCall.sent calls)
    rxBytes := UInt64.ofNat (counted PathCall.received calls) }

/-! ## One call -/

namespace PathCall

/-- What a call does to the metrics of its path. -/
def update (now : Instant) (metrics : PathMetrics) : PathCall → PathMetrics
  | .register => metrics
  | .setAvailable available => { metrics with available }
  | .setRouteLatency latencyMs =>
      { metrics with routeLatencyMs := latencyMs }
  | .recordProbe rtt =>
      { metrics with
        rtt := rtt <|> metrics.rtt
        available := rtt.isSome || metrics.available
        probes := trimProbes now (metrics.probes ++ [⟨now, rtt.isSome⟩]) }
  | .recordTx bytes =>
      { metrics with txBytes := saturatingAdd metrics.txBytes bytes }
  | .recordRx bytes =>
      { metrics with rxBytes := saturatingAdd metrics.rxBytes bytes }
  | .snapshot => { metrics with probes := trimProbes now metrics.probes }

end PathCall

/-- The metrics of a path; they have their defaults before the first call. -/
def MetricsRegistry.metrics (registry : MetricsRegistry)
    (path : String × String) : PathMetrics :=
  (registry.lookup path).getD {}

/-- Every call about a path updates the metrics of that path. -/
theorem MetricsRegistry.call_onPath
    (registry : MetricsRegistry) (now : Instant) (peerKey pathId : String)
    (call : PathCall) :
    (registry.call now (.onPath peerKey pathId call)).1 =
      registry.withPath peerKey pathId
        (fun metrics => call.update now metrics) := by
  cases call with
  | recordTx bytes =>
      change registry.recordTx peerKey pathId bytes.toNat = _
      unfold MetricsRegistry.recordTx
      rw [UInt64.ofNat_toNat]
      rfl
  | recordRx bytes =>
      change registry.recordRx peerKey pathId bytes.toNat = _
      unfold MetricsRegistry.recordRx
      rw [UInt64.ofNat_toNat]
      rfl
  | register => rfl
  | setAvailable available => rfl
  | setRouteLatency latencyMs => rfl
  | recordProbe rtt => rfl
  | snapshot => rfl

theorem MetricsRegistry.metrics_withPath
    (registry : MetricsRegistry) (peerKey pathId : String)
    (update : PathMetrics → PathMetrics) (path : String × String) :
    (registry.withPath peerKey pathId update).metrics path =
      if (peerKey, pathId) = path then
        update (registry.metrics path)
      else
        registry.metrics path := by
  unfold MetricsRegistry.metrics MetricsRegistry.withPath
  rw [HashMap.lookup_insert_eq_ite]
  by_cases same : (peerKey, pathId) = path
  · rw [if_pos same.symm, if_pos same, same]
    rfl
  · rw [if_neg (Ne.symm same), if_neg same]

theorem MetricsRegistry.metrics_removePeersExcept
    (registry : MetricsRegistry) (peerKeys : List String)
    (path : String × String) :
    (registry.removePeersExcept peerKeys).metrics path =
      if path.1 ∈ peerKeys then registry.metrics path else {} := by
  have found (metrics : PathMetrics) :
      (registry.removePeersExcept peerKeys).lookup path = some metrics ↔
        registry.lookup path = some metrics ∧ path.1 ∈ peerKeys := by
    unfold MetricsRegistry.removePeersExcept
    rw [HashMap.lookup_retain_eq_some, decide_eq_true_eq]
  unfold MetricsRegistry.metrics
  by_cases kept : path.1 ∈ peerKeys
  · rw [if_pos kept]
    congr 1
    ext metrics
    rw [found]
    exact and_iff_left kept
  · have gone : (registry.removePeersExcept peerKeys).lookup path = none := by
      apply Option.eq_none_iff_forall_ne_some.mpr
      intro metrics present
      exact kept ((found metrics).mp present).2
    rw [if_neg kept, gone]
    rfl

/-! ## The queue of probes -/

/-- The sample is older than a minute. -/
def outdated (now : Instant) (sample : ProbeSample) : Bool :=
  decide (now - sample.recordedAt > fromSecs 60)

theorem trimProbes_eq_trim (now : Instant) (probes : List ProbeSample) :
    trimProbes now probes =
      SlidingWindow.trim 100 (outdated now) probes := by
  induction probes with
  | nil =>
      rfl
  | cons sample rest inductionHypothesis =>
      rw [trimProbes, SlidingWindow.trim, inductionHypothesis]
      simp only [outdated, decide_eq_true_eq]

/-- Trimming before makes no difference to trimming now. -/
theorem trimProbes_trimProbes_append
    {earlier now : Instant} (passed : earlier ≤ now)
    (probes more : List ProbeSample) :
    trimProbes now (trimProbes earlier probes ++ more) =
      trimProbes now (probes ++ more) := by
  rw [trimProbes_eq_trim, trimProbes_eq_trim, trimProbes_eq_trim]
  apply SlidingWindow.trim_trim_append
  intro sample wasOutdated
  unfold outdated at wasOutdated ⊢
  rw [decide_eq_true_eq] at wasOutdated ⊢
  exact Nat.lt_of_lt_of_le wasOutdated (Nat.sub_le_sub_right passed _)

/-- What the queue shows of samples that were recorded in order. -/
theorem reverse_trimProbes
    {now : Instant} {samples : List ProbeSample}
    (ordered :
      samples.Pairwise fun newer older =>
        older.recordedAt ≤ newer.recordedAt) :
    (trimProbes now samples.reverse).reverse =
      (samples.filter fun sample => !outdated now sample).take 100 := by
  have aged :
      samples.reverse.Pairwise fun front behind =>
        outdated now behind = true → outdated now front = true := by
    rw [List.pairwise_reverse]
    refine ordered.imp ?_
    intro newer older isOlder wasOutdated
    unfold outdated at wasOutdated ⊢
    rw [decide_eq_true_eq] at wasOutdated ⊢
    exact Nat.lt_of_lt_of_le wasOutdated (Nat.sub_le_sub_left isOlder _)
  rw [trimProbes_eq_trim, SlidingWindow.reverse_trim aged,
    List.reverse_reverse]

/-! ## The history and the registry -/

/-- The metrics of a path agree with its calls.  Its queue was trimmed last at
a moment that has passed whenever the log has. -/
structure Tracks (path : String × String) (log : List MetricsStep)
    (metrics : PathMetrics) : Prop where
  available :
    metrics.available =
      ((callsOf path log).findSome? fun call =>
        call.2.availability).getD false
  rtt :
    metrics.rtt = (callsOf path log).findSome? fun call => call.2.roundTrip
  latency :
    metrics.routeLatencyMs =
      ((callsOf path log).findSome? fun call => call.2.latency).getD none
  probes :
    ∃ moment,
      (∀ now, (∀ past ∈ log, past.input.now ≤ now) → moment ≤ now) ∧
        metrics.probes =
          trimProbes moment (samplesOf (callsOf path log)).reverse
  sent :
    metrics.txBytes.toNat = counted PathCall.sent (callsOf path log)
  received :
    metrics.rxBytes.toNat = counted PathCall.received (callsOf path log)

namespace Tracks

variable {path : String × String} {log : List MetricsStep}
  {metrics : PathMetrics} {step : MetricsStep}

theorem callsOf_onPath
    {peerKey pathId : String} {call : PathCall}
    (isCall : step.input.call = .onPath peerKey pathId call) :
    callsOf path (step :: log) =
      if (peerKey, pathId) = path then
        (step.input.now, call) :: callsOf path log
      else
        callsOf path log := by
  rw [callsOf, isCall]

theorem callsOf_removePeersExcept
    {peerKeys : List String}
    (isRemoval : step.input.call = .removePeersExcept peerKeys) :
    callsOf path (step :: log) =
      if path.1 ∈ peerKeys then callsOf path log else [] := by
  rw [callsOf, isRemoval]

/-- A path that was never mentioned has the default metrics. -/
theorem of_no_calls (none : callsOf path log = []) :
    Tracks path log {} := by
  constructor
  · rw [none]
    rfl
  · rw [none]
    rfl
  · rw [none]
    rfl
  · refine ⟨0, fun now _ => Nat.zero_le now, ?_⟩
    rw [none]
    rfl
  · rw [none]
    rfl
  · rw [none]
    rfl

/-- A step that does not concern the path. -/
theorem unconcerned
    (tracks : Tracks path log metrics)
    (same : callsOf path (step :: log) = callsOf path log) :
    Tracks path (step :: log) metrics := by
  obtain ⟨moment, passed, probes⟩ := tracks.probes
  refine ⟨?_, ?_, ?_, ⟨moment, ?_, ?_⟩, ?_, ?_⟩
  · rw [same]
    exact tracks.available
  · rw [same]
    exact tracks.rtt
  · rw [same]
    exact tracks.latency
  · intro now allPassed
    exact passed now fun past member =>
      allPassed past (List.mem_cons_of_mem step member)
  · rw [same]
    exact probes
  · rw [same]
    exact tracks.sent
  · rw [same]
    exact tracks.received

/-- A counter after one more call. -/
theorem counted_cons
    {amount : PathCall → Nat} {now : Instant} {call : PathCall}
    {calls : List (Instant × PathCall)} :
    counted amount ((now, call) :: calls) =
      min (counted amount calls + amount call) maxWord.toNat := by
  unfold counted
  rw [List.map_cons, List.sum_cons]
  change min (amount call + _) _ = _
  omega

theorem saturating_counter
    {counter bytes : UInt64} {total : Nat}
    (tracked : counter.toNat = total) :
    (saturatingAdd counter bytes).toNat =
      min (total + bytes.toNat) maxWord.toNat := by
  rw [toNat_saturatingAdd, tracked]
  rfl

theorem resting_counter
    {counter : UInt64} {total : Nat} (tracked : counter.toNat = total) :
    counter.toNat = min (total + 0) maxWord.toNat := by
  have bound := toNat_lt counter
  have largest : maxWord.toNat = 18446744073709551615 := rfl
  omega

/-- The newest call that tells something decides. -/
theorem findSome_getD_cons
    {α : Type} {tells : PathCall → Option α} {otherwise : α}
    {now : Instant} {call : PathCall} {calls : List (Instant × PathCall)} :
    (((now, call) :: calls).findSome? fun call => tells call.2).getD
        otherwise =
      (tells call).getD
        ((calls.findSome? fun call => tells call.2).getD otherwise) := by
  rw [List.findSome?_cons]
  cases tells call <;> rfl

/-- A call trims the queue after its own sample, or leaves it alone. -/
theorem probes_update
    (call : PathCall) (now : Instant) (metrics : PathMetrics) :
    (call.update now metrics).probes =
        trimProbes now (metrics.probes ++ (call.sample now).toList) ∨
      (call.update now metrics).probes = metrics.probes ∧
        call.sample now = none := by
  cases call with
  | recordProbe rtt =>
      exact Or.inl rfl
  | snapshot =>
      left
      exact congrArg (trimProbes now) (List.append_nil _).symm
  | _ =>
      exact Or.inr ⟨rfl, rfl⟩

/-- A call about the path. -/
theorem concerned
    {call : PathCall} (tracks : Tracks path log metrics)
    (passed : ∀ past ∈ log, past.input.now ≤ step.input.now)
    (extended :
      callsOf path (step :: log) =
        (step.input.now, call) :: callsOf path log) :
    Tracks path (step :: log) (call.update step.input.now metrics) := by
  obtain ⟨moment, momentPassed, probes⟩ := tracks.probes
  have samples :
      (samplesOf (callsOf path (step :: log))).reverse =
        (samplesOf (callsOf path log)).reverse ++
          (call.sample step.input.now).toList := by
    rw [extended, samplesOf, List.filterMap_cons]
    cases call.sample step.input.now with
    | none =>
        exact (List.append_nil _).symm
    | some sample =>
        exact List.reverse_cons
  constructor
  · rw [extended, findSome_getD_cons, ← tracks.available]
    cases call with
    | recordProbe rtt => cases rtt <;> rfl
    | _ => rfl
  · rw [extended, List.findSome?_cons, ← tracks.rtt]
    cases call with
    | recordProbe rtt => cases rtt <;> rfl
    | _ => rfl
  · rw [extended, findSome_getD_cons, ← tracks.latency]
    cases call <;> rfl
  · rcases probes_update call step.input.now metrics with
      trimmed | ⟨untouched, noSample⟩
    · refine ⟨step.input.now, ?_, ?_⟩
      · intro now allPassed
        exact allPassed step List.mem_cons_self
      · rw [trimmed, samples, probes, trimProbes_trimProbes_append]
        exact momentPassed step.input.now passed
    · refine ⟨moment, ?_, ?_⟩
      · intro now allPassed
        exact momentPassed now fun past member =>
          allPassed past (List.mem_cons_of_mem step member)
      · rw [untouched, samples, probes, noSample]
        exact congrArg (trimProbes moment) (List.append_nil _).symm
  · rw [extended, counted_cons]
    cases call with
    | recordTx bytes => exact saturating_counter tracks.sent
    | _ => exact resting_counter tracks.sent
  · rw [extended, counted_cons]
    cases call with
    | recordRx bytes => exact saturating_counter tracks.received
    | _ => exact resting_counter tracks.received

/-- In a run whose clock does not go back the metrics of every path agree with
its calls. -/
theorem of_execution
    {registry : MetricsRegistry}
    (execution : metricsRuns.Execution log registry)
    (chronological : Chronological MetricsInput.now log)
    (path : String × String) : Tracks path log (registry.metrics path) := by
  induction execution with
  | start starts =>
      subst starts
      exact of_no_calls rfl
  | @step log record earlier taken inductionHypothesis =>
      obtain ⟨passed, restChronological⟩ :=
        List.pairwise_cons.mp chronological
      have tracks := inductionHypothesis restChronological
      have next :
          record.after =
            (record.before.call record.input.now record.input.call).1 :=
        (congrArg Prod.fst (Option.some.inj taken)).symm
      rw [next]
      cases isCall : record.input.call with
      | onPath peerKey pathId call =>
          have extended : callsOf path (record :: log) = _ :=
            callsOf_onPath isCall
          rw [MetricsRegistry.call_onPath, MetricsRegistry.metrics_withPath]
          by_cases ours : (peerKey, pathId) = path
          · rw [if_pos ours] at extended ⊢
            exact tracks.concerned passed extended
          · rw [if_neg ours] at extended ⊢
            exact tracks.unconcerned extended
      | removePeersExcept peerKeys =>
          have extended : callsOf path (record :: log) = _ :=
            callsOf_removePeersExcept isCall
          change
            Tracks path _
              ((record.before.removePeersExcept peerKeys).metrics path)
          rw [MetricsRegistry.metrics_removePeersExcept]
          by_cases kept : path.1 ∈ peerKeys
          · rw [if_pos kept] at extended ⊢
            exact tracks.unconcerned extended
          · rw [if_neg kept] at extended ⊢
            exact of_no_calls extended

end Tracks

/-! ## Reading a path -/

theorem time_of_mem_callsOf
    {path : String × String} {log : List MetricsStep}
    {call : Instant × PathCall} (member : call ∈ callsOf path log) :
    ∃ past ∈ log, past.input.now = call.1 := by
  induction log with
  | nil =>
      cases member
  | cons step older inductionHypothesis =>
      have inOlder (listed : call ∈ callsOf path older) :
          ∃ past ∈ step :: older, past.input.now = call.1 := by
        obtain ⟨past, known, same⟩ := inductionHypothesis listed
        exact ⟨past, List.mem_cons_of_mem step known, same⟩
      cases isCall : step.input.call with
      | onPath peerKey pathId newest =>
          rw [Tracks.callsOf_onPath isCall] at member
          by_cases ours : (peerKey, pathId) = path
          · rw [if_pos ours] at member
            rcases List.mem_cons.mp member with rfl | listed
            · exact ⟨step, List.mem_cons_self, rfl⟩
            · exact inOlder listed
          · rw [if_neg ours] at member
            exact inOlder member
      | removePeersExcept peerKeys =>
          rw [Tracks.callsOf_removePeersExcept isCall] at member
          by_cases kept : path.1 ∈ peerKeys
          · rw [if_pos kept] at member
            exact inOlder member
          · rw [if_neg kept] at member
            cases member

theorem callsOf_ordered
    {log : List MetricsStep} (path : String × String)
    (chronological : Chronological MetricsInput.now log) :
    (callsOf path log).Pairwise fun newer older => older.1 ≤ newer.1 := by
  induction log with
  | nil =>
      exact List.Pairwise.nil
  | cons step older inductionHypothesis =>
      obtain ⟨passed, restChronological⟩ :=
        List.pairwise_cons.mp chronological
      have rest := inductionHypothesis restChronological
      cases isCall : step.input.call with
      | onPath peerKey pathId newest =>
          rw [Tracks.callsOf_onPath isCall]
          by_cases ours : (peerKey, pathId) = path
          · rw [if_pos ours]
            refine List.Pairwise.cons ?_ rest
            intro call member
            obtain ⟨past, known, same⟩ := time_of_mem_callsOf member
            rw [← same]
            exact passed past known
          · rw [if_neg ours]
            exact rest
      | removePeersExcept peerKeys =>
          rw [Tracks.callsOf_removePeersExcept isCall]
          by_cases kept : path.1 ∈ peerKeys
          · rw [if_pos kept]
            exact rest
          · rw [if_neg kept]
            exact List.Pairwise.nil

theorem samplesOf_ordered
    {calls : List (Instant × PathCall)}
    (ordered : calls.Pairwise fun newer older => older.1 ≤ newer.1) :
    (samplesOf calls).Pairwise fun newer older =>
      older.recordedAt ≤ newer.recordedAt := by
  have recorded {call : Instant × PathCall} {sample : ProbeSample}
      (adds : call.2.sample call.1 = some sample) :
      sample.recordedAt = call.1 := by
    obtain ⟨now, call⟩ := call
    cases call with
    | recordProbe rtt =>
        cases adds
        rfl
    | _ =>
        cases adds
  unfold samplesOf
  rw [List.pairwise_filterMap]
  refine ordered.imp ?_
  intro newer older isOlder newest added oldest addedBefore
  rw [recorded added, recorded addedBefore]
  exact isOlder

/-- What the queue of a path shows at a time that has not been passed. -/
theorem Tracks.recentSamples
    {path : String × String} {log : List MetricsStep}
    {metrics : PathMetrics} {now : Instant}
    (tracks : Tracks path log metrics)
    (chronological : Chronological MetricsInput.now log)
    (passed : ∀ past ∈ log, past.input.now ≤ now) :
    (trimProbes now metrics.probes).reverse =
      WgLink.recentSamples now (callsOf path log) := by
  obtain ⟨moment, momentPassed, probes⟩ := tracks.probes
  have ordered := samplesOf_ordered (callsOf_ordered path chronological)
  have once :=
    trimProbes_trimProbes_append (momentPassed now passed)
      (samplesOf (callsOf path log)).reverse []
  rw [List.append_nil, List.append_nil] at once
  rw [probes, once, reverse_trimProbes ordered]
  rfl

/-- A reading, once its samples are known. -/
theorem Tracks.snapshot_eq
    {peerKey pathId : String} {log : List MetricsStep}
    {registry : MetricsRegistry} {now : Instant}
    (tracks :
      Tracks (peerKey, pathId) log (registry.metrics (peerKey, pathId)))
    (recent :
      (trimProbes now (registry.metrics (peerKey, pathId)).probes).reverse =
        WgLink.recentSamples now (callsOf (peerKey, pathId) log)) :
    (registry.snapshot peerKey pathId now).2 =
      pathReport now (callsOf (peerKey, pathId) log) := by
  have lost :
      (trimProbes now (registry.metrics (peerKey, pathId)).probes).countP
          (fun sample => !sample.success) =
        (WgLink.recentSamples now (callsOf (peerKey, pathId) log)).countP
          (fun sample => !sample.success) := by
    rw [← recent, List.countP_reverse]
  have length :
      (trimProbes now (registry.metrics (peerKey, pathId)).probes).length =
        (WgLink.recentSamples now
          (callsOf (peerKey, pathId) log)).length := by
    rw [← recent, List.length_reverse]
  unfold pathReport
  simp only
  rw [← tracks.available, ← tracks.rtt, ← tracks.latency, ← tracks.sent,
    ← tracks.received, UInt64.ofNat_toNat, UInt64.ofNat_toNat, ← length,
    ← lost]
  rfl

/-- A reading of a path shows the newest hundred probes of the last minute, the
last word on availability, round trip time and latency, and the traffic since
the peer was last removed, however the calls of the tasks were mixed. -/
theorem snapshot_reports_history
    {newer older : List MetricsStep} {record : MetricsStep}
    {registry : MetricsRegistry} {now : Instant} {peerKey pathId : String}
    (execution : metricsRuns.Execution (newer ++ record :: older) registry)
    (chronological : Chronological MetricsInput.now (record :: older))
    (isSnapshot : record.input = ⟨now, .onPath peerKey pathId .snapshot⟩) :
    record.output = some (pathReport now (callsOf (peerKey, pathId) older)) := by
  obtain ⟨earlier, taken⟩ := Machine.Execution.split execution
  obtain ⟨passed, olderChronological⟩ := List.pairwise_cons.mp chronological
  rw [isSnapshot] at passed
  have tracks :=
    Tracks.of_execution earlier olderChronological (peerKey, pathId)
  have recent := tracks.recentSamples olderChronological passed
  obtain ⟨before, input, output, after⟩ := record
  simp only at isSnapshot earlier taken tracks recent ⊢
  subst isSnapshot
  have shown :
      output = some (before.snapshot peerKey pathId now).2 :=
    (congrArg Prod.snd (Option.some.inj taken)).symm
  rw [shown, tracks.snapshot_eq recent]

/-- Probes of a path: one that is soon outdated, one that is lost, and one that
is answered. -/
def probedPath : List MetricsInput :=
  [⟨fromSecs 1, .onPath "peer" "relay" (.recordProbe (some 30))⟩,
    ⟨fromSecs 50, .onPath "peer" "relay" (.recordProbe none)⟩,
    ⟨fromSecs 70, .onPath "peer" "relay" (.recordProbe (some 20))⟩,
    ⟨fromSecs 80, .onPath "peer" "relay" (.recordTx 1500)⟩,
    ⟨fromSecs 100, .onPath "peer" "relay" .snapshot⟩]

/-- Half of the recent probes were lost. -/
theorem snapshot_reports_history_probedPath :
    ∃ record older registry,
      metricsRuns.Execution (record :: older) registry ∧
        record.output =
          some (pathReport (fromSecs 100) (callsOf ("peer", "relay") older)) ∧
        record.output = some ⟨true, some 20, none, some 50, 2, 1500, 0⟩ := by
  have ran :
      (metricsRuns.run ∅ probedPath).map
          (fun run => run.1.head?.map Record.output) =
        some (some (some ⟨true, some 20, none, some 50, 2, 1500, 0⟩)) := by
    decide +kernel
  obtain ⟨⟨log, registry⟩, completed, observed⟩ :=
    Option.map_eq_some_iff.mp ran
  have execution := Machine.execution_of_run rfl completed
  have inputs := Machine.inputs_of_run completed
  have chronological : Chronological MetricsInput.now log := by
    have ordered :
        probedPath.reverse.Pairwise fun newer older =>
          older.now ≤ newer.now := by
      decide
    rw [← inputs, List.pairwise_map] at ordered
    exact ordered
  cases log with
  | nil =>
      cases observed
  | cons record older =>
      obtain ⟨isSnapshot, _⟩ := List.cons.inj inputs
      exact ⟨record, older, registry, execution,
        @snapshot_reports_history [] older record registry (fromSecs 100)
          "peer" "relay" execution chronological isSnapshot,
        Option.some.inj observed⟩

end WgLink
