import WgLink.Library.HashMap
import WgLink.Library.Saturating

/-!
# Path metrics

The registry of `metrics.rs`: for each peer and path its availability, its
probe samples and its traffic.  The traffic rates are exponential averages and
are left out; a round trip time is kept as the duration it is computed from.
-/

namespace WgLink

open WgLink.Library

/-- A length of time in nanoseconds. -/
abbrev Duration := Nat

/-- A reading of the monotonic clock, in nanoseconds. -/
abbrev Instant := Nat

/-- `Duration::from_secs`. -/
def fromSecs (seconds : Nat) : Duration := seconds * 1000000000

/-- `ProbeSample`. -/
structure ProbeSample where
  recordedAt : Instant
  success : Bool
deriving DecidableEq

/-- `PathMetrics`, with its default values. -/
structure PathMetrics where
  available : Bool := false
  rtt : Option Duration := none
  routeLatencyMs : Option Int := none
  probes : List ProbeSample := []
  txBytes : UInt64 := 0
  rxBytes : UInt64 := 0
deriving DecidableEq

/-- `PathMetricsSnapshot`; the loss is an exact percentage. -/
structure PathMetricsSnapshot where
  available : Bool
  rtt : Option Duration
  routeLatencyMs : Option Int
  lossPercent : Option Rat
  probeSamples : Nat
  txBytes : UInt64
  rxBytes : UInt64
deriving DecidableEq

/-- `trim_probes`: the oldest samples go while there are more than a hundred
or the first one is older than a minute. -/
def trimProbes (now : Instant) : List ProbeSample → List ProbeSample
  | [] => []
  | sample :: rest =>
      if (sample :: rest).length > 100 ∨
          now - sample.recordedAt > fromSecs 60 then
        trimProbes now rest
      else
        sample :: rest

/-- `MetricsRegistry`: metrics by peer key and path id. -/
abbrev MetricsRegistry := HashMap (String × String) PathMetrics

namespace MetricsRegistry

/-- `MetricsRegistry::with_path`. -/
def withPath
    (registry : MetricsRegistry) (peerKey pathId : String)
    (update : PathMetrics → PathMetrics) : MetricsRegistry :=
  registry.insert (peerKey, pathId)
    (update ((registry.lookup (peerKey, pathId)).getD {}))

/-- `MetricsRegistry::set_available`. -/
def setAvailable
    (registry : MetricsRegistry) (peerKey pathId : String)
    (available : Bool) : MetricsRegistry :=
  withPath registry peerKey pathId fun metrics => { metrics with available }

/-- `MetricsRegistry::is_available`. -/
def isAvailable
    (registry : MetricsRegistry) (peerKey pathId : String) : Bool :=
  (registry.lookup (peerKey, pathId)).any fun metrics => metrics.available

/-- `MetricsRegistry::set_route_latency`. -/
def setRouteLatency
    (registry : MetricsRegistry) (peerKey pathId : String)
    (latencyMs : Option Int) : MetricsRegistry :=
  withPath registry peerKey pathId fun metrics =>
    { metrics with routeLatencyMs := latencyMs }

/-- `MetricsRegistry::record_probe`. -/
def recordProbe
    (registry : MetricsRegistry) (peerKey pathId : String)
    (rtt : Option Duration) (now : Instant) : MetricsRegistry :=
  withPath registry peerKey pathId fun metrics =>
    let probes := metrics.probes ++ [⟨now, rtt.isSome⟩]
    { metrics with
      rtt := rtt <|> metrics.rtt
      available := rtt.isSome || metrics.available
      probes := trimProbes now probes }

/-- `MetricsRegistry::record_tx`. -/
def recordTx
    (registry : MetricsRegistry) (peerKey pathId : String) (bytes : Nat) :
    MetricsRegistry :=
  withPath registry peerKey pathId fun metrics =>
    { metrics with
      txBytes := saturatingAdd metrics.txBytes (UInt64.ofNat bytes) }

/-- `MetricsRegistry::record_rx`. -/
def recordRx
    (registry : MetricsRegistry) (peerKey pathId : String) (bytes : Nat) :
    MetricsRegistry :=
  withPath registry peerKey pathId fun metrics =>
    { metrics with
      rxBytes := saturatingAdd metrics.rxBytes (UInt64.ofNat bytes) }

/-- `MetricsRegistry::register_path`. -/
def registerPath
    (registry : MetricsRegistry) (peerKey pathId : String) :
    MetricsRegistry :=
  withPath registry peerKey pathId id

/-- `MetricsRegistry::remove_peers_except`. -/
def removePeersExcept
    (registry : MetricsRegistry) (peerKeys : List String) :
    MetricsRegistry :=
  registry.retain fun key _ => decide (key.1 ∈ peerKeys)

/-- `MetricsRegistry::snapshot`, which registers a path that is not there. -/
def snapshot
    (registry : MetricsRegistry) (peerKey pathId : String) (now : Instant) :
    MetricsRegistry × PathMetricsSnapshot :=
  let stored := (registry.lookup (peerKey, pathId)).getD {}
  let metrics := { stored with probes := trimProbes now stored.probes }
  let lost := metrics.probes.countP fun sample => !sample.success
  (registry.insert (peerKey, pathId) metrics,
    { available := metrics.available
      rtt := metrics.rtt
      routeLatencyMs := metrics.routeLatencyMs
      lossPercent :=
        if metrics.probes.length > 0 then
          some (lost * 100 / metrics.probes.length)
        else
          none
      probeSamples := metrics.probes.length
      txBytes := metrics.txBytes
      rxBytes := metrics.rxBytes })

theorem snapshot_available
    (registry : MetricsRegistry) (peerKey pathId : String) (now : Instant) :
    (snapshot registry peerKey pathId now).2.available =
      isAvailable registry peerKey pathId := by
  unfold snapshot isAvailable
  cases registry.lookup (peerKey, pathId) <;> rfl

/-- Taking a snapshot changes no availability. -/
theorem isAvailable_snapshot
    (registry : MetricsRegistry) (peerKey pathId : String) (now : Instant)
    (otherKey otherPath : String) :
    isAvailable (snapshot registry peerKey pathId now).1 otherKey otherPath =
      isAvailable registry otherKey otherPath := by
  unfold snapshot isAvailable
  rw [HashMap.lookup_insert_eq_ite]
  split
  · rename_i same
    rw [same]
    cases registry.lookup (peerKey, pathId) <;> rfl
  · rfl

end MetricsRegistry

end WgLink
