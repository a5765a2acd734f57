import Mathlib.Data.String.Basic
import WgLink.Broker
import WgLink.Library.Emit

/-!
# The management console

`ManagementState::snapshot` of `management.rs`, which reports for every peer
the path in use, and how the report compares with the broker's choice.
-/

namespace WgLink

open WgLink.Library

/-- `ManagedPeer`, with the content of its shared path set. -/
structure ManagedPeer where
  peerKey : String
  keyHint : String
  paths : PathSet
deriving DecidableEq

/-- `ManagementState`. -/
structure ManagementState where
  interface : String
  peers : HashMap String ManagedPeer
  metrics : MetricsRegistry

/-- `PathResponse`. -/
structure PathResponse where
  id : String
  label : String
  protocol : String
  selected : Bool
  active : Bool
  metrics : PathMetricsSnapshot
deriving DecidableEq

/-- `PeerResponse`. -/
structure PeerResponse where
  id : String
  keyHint : String
  selectedPath : Option String
  activePath : Option String
  paths : List PathResponse
deriving DecidableEq

/-- `StateResponse`. -/
structure StateResponse where
  interface : String
  peers : List PeerResponse
deriving DecidableEq

/-- The snapshots of a peer's targets, in their configured order. -/
def targetSnapshots
    (metrics : MetricsRegistry) (peerKey : String) (now : Instant)
    (targets : List PathTarget) :
    MetricsRegistry × List (PathTarget × PathMetricsSnapshot) :=
  emitAll
    (fun metrics target =>
      let (metrics, snapshot) :=
        MetricsRegistry.snapshot metrics peerKey target.id now
      (metrics, [(target, snapshot)]))
    metrics targets

/-- The path that the console reports as active. -/
def activePath
    (selected : Option String)
    (snapshots : List (PathTarget × PathMetricsSnapshot)) : Option String :=
  (selected.filter fun selected =>
      snapshots.any fun entry =>
        decide (entry.1.id = selected) && entry.2.available) <|>
    (snapshots.find? fun entry => entry.2.available).map
      fun entry => entry.1.id

/-- The response for one peer. -/
def peerResponse
    (metrics : MetricsRegistry) (now : Instant) (id : String)
    (peer : ManagedPeer) : MetricsRegistry × PeerResponse :=
  let (metrics, snapshots) :=
    targetSnapshots metrics peer.peerKey now peer.paths.targets
  let active := activePath peer.paths.selected snapshots
  (metrics,
    { id
      keyHint := peer.keyHint
      selectedPath := peer.paths.selected
      activePath := active
      paths :=
        snapshots.map fun entry =>
          { id := entry.1.id
            label := entry.1.label
            protocol := entry.1.protocol
            selected := decide (peer.paths.selected = some entry.1.id)
            active := decide (active = some entry.1.id)
            metrics := entry.2 } })

namespace ManagementState

/-- One round of the loop over the managed peers. -/
def respond
    (state : ManagementState) (now : Instant) (metrics : MetricsRegistry)
    (id : String) : MetricsRegistry × List PeerResponse :=
  match state.peers.lookup id with
  | none => (metrics, [])
  | some peer =>
      let (metrics, response) := peerResponse metrics now id peer
      (metrics, [response])

/-- `ManagementState::snapshot`, visiting the peers in the given order. -/
def snapshot
    (state : ManagementState) (now : Instant) (order : List String) :
    ManagementState × StateResponse :=
  let (metrics, responses) := emitAll (state.respond now) state.metrics order
  ({ state with metrics },
    { interface := state.interface
      peers := sortByKey PeerResponse.keyHint responses })

end ManagementState

/-! ## What the console reports -/

/-- Two registries that agree on what is available. -/
def SameAvailability (left right : MetricsRegistry) : Prop :=
  ∀ peerKey pathId,
    MetricsRegistry.isAvailable left peerKey pathId =
      MetricsRegistry.isAvailable right peerKey pathId

/-- The snapshots carry the targets in order with their availability, and
taking them changes no availability. -/
theorem targetSnapshots_spec
    {metrics original : MetricsRegistry} (peerKey : String) (now : Instant)
    (targets : List PathTarget) (same : SameAvailability metrics original) :
    SameAvailability (targetSnapshots metrics peerKey now targets).1
        original ∧
      (targetSnapshots metrics peerKey now targets).2.map
          (fun entry => (entry.1, entry.2.available)) =
        targets.map fun target =>
          (target, MetricsRegistry.isAvailable original peerKey target.id) := by
  unfold targetSnapshots
  induction targets generalizing metrics with
  | nil =>
      exact ⟨same, rfl⟩
  | cons target rest inductionHypothesis =>
      have sameNext :
          SameAvailability
            (MetricsRegistry.snapshot metrics peerKey target.id now).1
            original := by
        intro otherKey otherPath
        rw [MetricsRegistry.isAvailable_snapshot, same]
      obtain ⟨kept, rows⟩ := inductionHypothesis sameNext
      refine ⟨kept, ?_⟩
      rw [emitAll, List.map_append, rows, List.map_singleton,
        MetricsRegistry.snapshot_available, same, List.map_cons]
      rfl

theorem activePath_eq_preferred
    {selected : Option String} {available : String → Bool}
    {targets : List PathTarget}
    {snapshots : List (PathTarget × PathMetricsSnapshot)}
    (rows :
      snapshots.map (fun entry => (entry.1, entry.2.available)) =
        targets.map fun target => (target, available target.id)) :
    activePath selected snapshots =
      (preferred selected available targets).map PathTarget.id := by
  have sameAny (query : String) :
      (snapshots.any fun entry =>
          decide (entry.1.id = query) && entry.2.available) =
        targets.any fun target =>
          decide (target.id = query) && available target.id := by
    have mapped :=
      congrArg
        (fun rows : List (PathTarget × Bool) =>
          rows.any fun row => decide (row.1.id = query) && row.2)
        rows
    simp only [List.any_map] at mapped
    exact mapped
  have sameFirst :
      ((snapshots.find? fun entry => entry.2.available).map
          fun entry => entry.1.id) =
        (targets.find? fun target => available target.id).map
          PathTarget.id := by
    have mapped :=
      congrArg
        (fun rows : List (PathTarget × Bool) =>
          (rows.find? fun row => row.2).map fun row => row.1.id)
        rows
    simp only [List.find?_map, Option.map_map] at mapped
    exact mapped
  unfold activePath
  rw [sameFirst]
  cases selected with
  | none =>
      rw [preferred_of_unselected]
      · rfl
      · intro target _ impossible
        cases impossible
  | some selected =>
      rw [Option.filter_some, sameAny]
      cases chosen :
          targets.any fun target =>
            decide (target.id = selected) && available target.id with
      | true =>
          obtain ⟨target, member, both⟩ := List.any_eq_true.mp chosen
          rw [Bool.and_eq_true, decide_eq_true_iff] at both
          rw [preferred_of_selected member (congrArg some both.1.symm) both.2]
          rfl
      | false =>
          rw [preferred_of_unselected]
          · rfl
          · intro target member isSelected
            have untested := List.any_eq_false.mp chosen target member
            rw [Bool.and_eq_true, decide_eq_true_iff, not_and] at untested
            apply Bool.eq_false_iff.mpr
            exact untested (Option.some.inj isSelected).symm

theorem peerResponse_spec
    {metrics original : MetricsRegistry} (now : Instant) (id : String)
    (peer : ManagedPeer) (same : SameAvailability metrics original) :
    SameAvailability (peerResponse metrics now id peer).1 original ∧
      (peerResponse metrics now id peer).2.id = id ∧
      (peerResponse metrics now id peer).2.activePath =
        (preferred peer.paths.selected
          (MetricsRegistry.isAvailable original peer.peerKey)
          peer.paths.targets).map PathTarget.id := by
  obtain ⟨kept, rows⟩ :=
    targetSnapshots_spec peer.peerKey now peer.paths.targets same
  exact ⟨kept, rfl, activePath_eq_preferred rows⟩

namespace ManagementState

variable {state : ManagementState} (now : Instant) {order : List String}
  {id : String} {peer : ManagedPeer}

theorem respond_keeps
    (metrics : MetricsRegistry) (id : String)
    (same : SameAvailability metrics state.metrics) :
    SameAvailability (state.respond now metrics id).1 state.metrics := by
  unfold respond
  split
  · exact same
  · exact (peerResponse_spec now id _ same).1

/-- A managed peer is reported with the path that the configured order
prefers. -/
theorem snapshot_activePath
    (visited : id ∈ order) (managed : state.peers.lookup id = some peer) :
    (∃ response ∈ (state.snapshot now order).2.peers, response.id = id) ∧
      ∀ response ∈ (state.snapshot now order).2.peers,
        response.id = id →
        response.activePath =
          (preferred peer.paths.selected
            (MetricsRegistry.isAvailable state.metrics peer.peerKey)
            peer.paths.targets).map PathTarget.id := by
  unfold snapshot
  simp only [mem_sortByKey]
  constructor
  · have hasRound :
        ∃ metrics,
          SameAvailability metrics state.metrics ∧
            (state.respond now metrics id).2 ⊆
              (emitAll (state.respond now) state.metrics order).2 :=
      emitAll_of_mem (respond_keeps now) (fun _ _ => rfl) visited
    obtain ⟨metrics, same, emitted⟩ := hasRound
    have here :
        (peerResponse metrics now id peer).2 ∈
          (state.respond now metrics id).2 := by
      unfold respond
      rw [managed]
      exact List.mem_singleton.mpr rfl
    exact ⟨_, emitted here, (peerResponse_spec now id peer same).2.1⟩
  · intro response member named
    obtain ⟨metrics, other, same, _, emitted⟩ :=
      emitAll_emitted (respond_keeps now) (fun _ _ => rfl) response member
    unfold respond at emitted
    split at emitted
    · cases emitted
    · rename_i found isFound
      obtain ⟨_, sameId, reported⟩ := peerResponse_spec now other found same
      rw [List.mem_singleton.mp emitted] at named ⊢
      rw [sameId] at named
      rw [named, managed] at isFound
      cases isFound
      exact reported

/-- The console reports the path that the broker tries first, exactly when an
unavailable selection has not reordered the available targets. -/
theorem activePath_eq_first_iff
    (iterates : HashMap.Iterates order state.peers)
    (managed : state.peers.lookup id = some peer)
    (distinct : (peer.paths.targets.map PathTarget.id).Nodup)
    (someAvailable :
      ∃ target ∈ peer.paths.targets,
        MetricsRegistry.isAvailable state.metrics peer.peerKey target.id =
          true) :
    (∃ response ∈ (state.snapshot now order).2.peers, response.id = id) ∧
      ∀ response ∈ (state.snapshot now order).2.peers,
        response.id = id →
        (response.activePath =
            (orderedHealthyTargets peer.peerKey peer.paths
              state.metrics).head?.map PathTarget.id ↔
          fallbackReordered peer.paths
            (MetricsRegistry.isAvailable state.metrics peer.peerKey) =
            false) := by
  have visited : id ∈ order := by
    rw [iterates.mem_iff, HashMap.mem_iff_lookup_isSome, managed]
    rfl
  obtain ⟨isReported, reported⟩ := snapshot_activePath now visited managed
  refine ⟨isReported, ?_⟩
  intro response member named
  have someOrdered :
      ∃ target ∈ peer.paths.orderedTargets,
        MetricsRegistry.isAvailable state.metrics peer.peerKey target.id =
          true := by
    obtain ⟨target, targetMember, healthy⟩ := someAvailable
    exact ⟨target, mem_orderedTargets.mpr targetMember, healthy⟩
  unfold orderedHealthyTargets
  rw [reported response member named, head?_sortByKey_healthClass someOrdered,
    ← preferred_orderedTargets_iff distinct]
  exact eq_comm

/-- A peer with three paths. -/
def managedPeer (selected : String) : ManagedPeer where
  peerKey := "peer-key"
  keyHint := "peer-key"
  paths :=
    { targets :=
        [⟨"a", "relay-1", "udp", 0⟩, ⟨"b", "relay-2", "udp", 1⟩,
          ⟨"c", "relay-3", "udp", 2⟩]
      selected := some selected }

/-- The selected path of the peer is down, the other two are available. -/
def managedConsole (selected : String) : ManagementState where
  interface := "wg0"
  peers := Finmap.insert "id" (managedPeer selected) ∅
  metrics :=
    ["a", "b", "c"].foldl
      (fun metrics pathId =>
        MetricsRegistry.setAvailable metrics "peer-key" pathId
          (pathId != selected))
      ∅

/-- When the second path is selected and down, console and broker fall back to
the first one. -/
theorem activePath_eq_first_of_second :
    (∃ response ∈ ((managedConsole "b").snapshot 0 ["id"]).2.peers,
        response.id = "id") ∧
      ∀ response ∈ ((managedConsole "b").snapshot 0 ["id"]).2.peers,
        response.id = "id" →
        response.activePath =
          (orderedHealthyTargets "peer-key" (managedPeer "b").paths
            (managedConsole "b").metrics).head?.map PathTarget.id := by
  have managed :
      (managedConsole "b").peers.lookup "id" = some (managedPeer "b") := by
    decide
  have kept :
      fallbackReordered (managedPeer "b").paths
          (MetricsRegistry.isAvailable (managedConsole "b").metrics
            (managedPeer "b").peerKey) =
        false := by
    decide
  obtain ⟨isReported, agrees⟩ :=
    activePath_eq_first_iff 0 (by decide : HashMap.Iterates ["id"] _) managed
      (by decide) (by decide)
  exact ⟨isReported, fun response member named =>
    (agrees response member named).mpr kept⟩

/-- When the third path is selected and down, the console reports the first
one and the broker tries the second one. -/
theorem activePath_ne_first_of_third :
    HashMap.Iterates ["id"] (managedConsole "c").peers ∧
      (managedConsole "c").peers.lookup "id" = some (managedPeer "c") ∧
      ((managedPeer "c").paths.targets.map PathTarget.id).Nodup ∧
      (∃ target ∈ (managedPeer "c").paths.targets,
        MetricsRegistry.isAvailable (managedConsole "c").metrics "peer-key"
            target.id =
          true) ∧
      (∃ response ∈ ((managedConsole "c").snapshot 0 ["id"]).2.peers,
        response.id = "id" ∧ response.activePath = some "a") ∧
      (orderedHealthyTargets "peer-key" (managedPeer "c").paths
        (managedConsole "c").metrics).head?.map PathTarget.id = some "b" := by
  decide

end ManagementState

end WgLink
