import WgLink.GenerationChange

/-!
# The last confirmed selection

A selection that `select_path` has confirmed is followed through the change of
generations: from the old path set to the selections that are read, and from
there to the new path set.  It is lost when it is confirmed in between.
-/

namespace WgLink

open WgLink.Library

namespace Console

section

variable
  {hash : Hash} {interface : String} {generation : List (String × Nat)}
  {self : Console} {old : HashMap String SharedPeer}

/-- Where the last selection of a peer is found: in its old path set, then
among the selections that were read, and in the new path set from its restore
on. -/
structure Settled (hash : Hash) (generation : List (String × Nat))
    (console : Console) (peerKey pathId : String) : Prop where
  waiting :
    console.replace = .waiting →
    ∃ peer,
      console.peers.lookup (peerId hash peerKey) = some peer ∧
        peer.peerKey = peerKey ∧
        (console.sets peer.paths).selected = some pathId
  restoring :
    ∀ previousSelections managed remaining,
      console.replace = .restoring previousSelections managed remaining →
      ∀ handle,
        (peerKey, handle) ∈ generation →
        (console.sets handle).Has pathId →
        previousSelections.lookup peerKey = some pathId ∧
          ((peerKey, handle) ∉ remaining →
            (console.sets handle).selected = some pathId)
  finished :
    console.replace = .finished →
    ∀ handle,
      (peerKey, handle) ∈ generation →
      (console.sets handle).Has pathId →
      (console.sets handle).selected = some pathId

/-- The path set is a new one of the peer, or its old one before the
selections are read. -/
def Concerns (hash : Hash) (generation : List (String × Nat))
    (console : Console) (peerKey : String) (handle : Nat) : Prop :=
  (peerKey, handle) ∈ generation ∨
    (console.replace = .waiting ∧
      ∃ peer,
        console.peers.lookup (peerId hash peerKey) = some peer ∧
          peer.peerKey = peerKey ∧
          peer.paths = handle)

variable {peerKey pathId : String}

/-- Only the path sets of the peer count. -/
theorem Settled.congr
    {after : Console}
    (settled : Settled hash generation self peerKey pathId)
    (samePeers : after.peers = self.peers)
    (sameReplace : after.replace = self.replace)
    (sameSets :
      ∀ handle,
        Concerns hash generation self peerKey handle →
        after.sets handle = self.sets handle) :
    Settled hash generation after peerKey pathId := by
  constructor
  case waiting =>
    intro isWaiting
    rw [sameReplace] at isWaiting
    obtain ⟨peer, found, owner, selected⟩ := settled.waiting isWaiting
    refine ⟨peer, ?_, owner, ?_⟩
    · rw [samePeers]
      exact found
    · rw [sameSets _ (Or.inr ⟨isWaiting, peer, found, owner, rfl⟩)]
      exact selected
  case restoring =>
    intro previousSelections managed remaining replacing handle member has
    rw [sameReplace] at replacing
    rw [sameSets handle (Or.inl member)] at has ⊢
    exact settled.restoring _ _ _ replacing handle member has
  case finished =>
    intro isFinished handle member has
    rw [sameReplace] at isFinished
    rw [sameSets handle (Or.inl member)] at has ⊢
    exact settled.finished isFinished handle member has

/-- A call that holds another peer holds another path set. -/
theorem Concerns.ne_of_holds
    {peer : SharedPeer} {handle : Nat}
    (concerns : Concerns hash generation self peerKey handle)
    (prepared : Prepared hash generation old)
    (ownership : Ownership generation old self)
    (holds : self.Holds peer) (other : peer.peerKey ≠ peerKey) :
    handle ≠ peer.paths := by
  intro same
  rcases concerns with member | ⟨isWaiting, own, found, owner, paths⟩
  · rw [same] at member
    rcases ownership.held peer holds with ⟨id, isOld⟩ | ⟨_, isNew⟩
    · exact prepared.newPaths id peer peerKey isOld member
    · exact other (prepared.key_eq isNew member)
  · have unfinished := ne_finished_of_waiting isWaiting
    rw [ownership.unpublished unfinished] at found
    obtain ⟨id, isOld⟩ := ownership.held_unfinished unfinished holds
    have sameId :=
      prepared.ownPaths _ _ own peer found isOld (paths.trans same)
    rw [← sameId, found] at isOld
    cases isOld
    exact other owner

theorem sets_writeSet (handle other : Nat) (paths : PathSet) :
    (self.writeSet handle paths).sets other =
      if other = handle then paths else self.sets other :=
  rfl

/-- A confirmation for another peer, or a failed one. -/
theorem Settled.confirmed
    {call : Nat} {peer : SharedPeer} {chosen : Option String}
    (settled : Settled hash generation self peerKey pathId)
    (prepared : Prepared hash generation old)
    (ownership : Ownership generation old self)
    (found : self.calls.lookup call = some (.checked peer chosen))
    (unaffected :
      peer.peerKey = peerKey →
      ((self.sets peer.paths).select chosen).2 ≠ true) :
    Settled hash generation
      ((self.writeSet peer.paths
        ((self.sets peer.paths).select chosen).1).continueCall call .done)
      peerKey pathId := by
  refine settled.congr rfl rfl ?_
  intro handle concerns
  change (self.writeSet peer.paths _).sets handle = _
  rw [sets_writeSet]
  by_cases same : handle = peer.paths
  · rw [if_pos same]
    by_cases owner : peer.peerKey = peerKey
    · rw [PathSet.select_eq_self (unaffected owner), same]
    · exact absurd same
        (concerns.ne_of_holds prepared ownership ⟨call, _, found, rfl⟩
          owner)
  · rw [if_neg same]

/-- What the replacement reads for a peer. -/
theorem lookup_selections
    {order : List String} {peer : SharedPeer}
    (ownId :
      ∀ id peer,
        self.peers.lookup id = some peer → id = peerId hash peer.peerKey)
    (iterates : HashMap.Iterates order self.peers)
    (found : self.peers.lookup (peerId hash peerKey) = some peer)
    (owner : peer.peerKey = peerKey)
    (selected : (self.sets peer.paths).selected = some pathId) :
    (HashMap.collect (self.selections order)).lookup peerKey =
      some pathId := by
  apply HashMap.lookup_collect
  · intro entry member sameKey
    obtain ⟨id, _, read⟩ := List.mem_filterMap.mp member
    obtain ⟨other, otherFound, otherRead⟩ := Option.bind_eq_some_iff.mp read
    obtain ⟨otherSelected, chosen, isEntry⟩ :=
      Option.map_eq_some_iff.mp otherRead
    rw [← isEntry] at sameKey ⊢
    have sameId : id = peerId hash peerKey :=
      (ownId id other otherFound).trans (congrArg (peerId hash) sameKey)
    rw [sameId, found] at otherFound
    cases otherFound
    rw [selected] at chosen
    exact (Option.some.inj chosen).symm
  · apply List.mem_filterMap.mpr
    refine ⟨peerId hash peerKey, ?_, ?_⟩
    · rw [iterates.mem_iff, HashMap.mem_iff_lookup_isSome, found]
      rfl
    · rw [found, Option.bind_some, selected, owner]
      rfl

theorem Settled.read
    {order : List String}
    (settled : Settled hash generation self peerKey pathId)
    (prepared : Prepared hash generation old)
    (ownership : Ownership generation old self)
    (isWaiting : self.replace = .waiting)
    (iterates : HashMap.Iterates order self.peers) :
    Settled hash generation
      { self with
        replace :=
          .restoring (HashMap.collect (self.selections order)) ∅
            generation }
      peerKey pathId := by
  have unfinished := ne_finished_of_waiting isWaiting
  have ownId := prepared.ownId
  rw [← ownership.unpublished unfinished] at ownId
  obtain ⟨peer, found, owner, selected⟩ := settled.waiting isWaiting
  constructor
  case waiting =>
    intro impossible
    cases impossible
  case restoring =>
    intro previousSelections managed remaining replacing handle member _
    cases replacing
    refine ⟨lookup_selections ownId iterates found owner selected, ?_⟩
    intro restored
    exact absurd member restored
  case finished =>
    intro impossible
    cases impossible

theorem has_congr
    {first second : PathSet} (same : first.targets = second.targets) :
    first.Has pathId ↔ second.Has pathId := by
  unfold PathSet.Has
  rw [same]

theorem Settled.restored
    {previousSelections : HashMap String String}
    {managed next : HashMap String SharedPeer} {restoredKey : String}
    {paths : Nat} {remaining : List (String × Nat)} {restored : PathSet}
    (settled : Settled hash generation self peerKey pathId)
    (prepared : Prepared hash generation old)
    (ownership : Ownership generation old self)
    (replacing :
      self.replace =
        .restoring previousSelections managed
          ((restoredKey, paths) :: remaining))
    (sameTargets : restored.targets = (self.sets paths).targets)
    (selects :
      ∀ selected,
        previousSelections.lookup restoredKey = some selected →
        restored = ((self.sets paths).select (some selected)).1) :
    Settled hash generation
      { self.writeSet paths restored with
        replace := .restoring previousSelections next remaining }
      peerKey pathId := by
  have isNew : (restoredKey, paths) ∈ generation :=
    (ownership.restoring _ _ _ replacing).1 _ List.mem_cons_self
  constructor
  case waiting =>
    intro impossible
    cases impossible
  case restoring =>
    intro _ _ _ same handle member has
    cases same
    change ((self.writeSet paths restored).sets handle).Has pathId at has
    change _ ∧ (_ → ((self.writeSet paths restored).sets handle).selected = _)
    rw [sets_writeSet] at has ⊢
    by_cases isRestored : handle = paths
    · rw [if_pos isRestored] at has ⊢
      rw [has_congr sameTargets] at has
      rw [isRestored] at member
      have sameKey : peerKey = restoredKey := prepared.key_eq member isNew
      have read := (settled.restoring _ _ _ replacing paths member has).1
      refine ⟨read, fun _ => ?_⟩
      rw [sameKey] at read
      rw [selects pathId read, PathSet.select_of_has has]
    · rw [if_neg isRestored] at has ⊢
      obtain ⟨read, done⟩ :=
        settled.restoring _ _ _ replacing handle member has
      refine ⟨read, fun notRemaining => done ?_⟩
      intro isRemaining
      rcases List.mem_cons.mp isRemaining with isHead | isLater
      · exact isRestored (congrArg Prod.snd isHead)
      · exact notRemaining isLater
  case finished =>
    intro impossible
    cases impossible

/-- Every step but a confirmation for the same peer keeps the selection. -/
theorem Settled.moves
    {label : ConsoleStep} {after : Console} {result : Option SelectResult}
    (settled : Settled hash generation self peerKey pathId)
    (prepared : Prepared hash generation old)
    (ownership : Ownership generation old self)
    (moves : Moves hash interface generation self label after result)
    (unconfirmed :
      ∀ call peer chosen,
        label = .confirm call →
        self.calls.lookup call = some (.checked peer chosen) →
        peer.peerKey = peerKey →
        result ≠ some (.ok ())) :
    Settled hash generation after peerKey pathId := by
  cases moves with
  | called _ _ =>
      exact settled.congr rfl rfl (fun _ _ => rfl)
  | confirmed found succeeds =>
      apply settled.confirmed prepared ownership found
      intro owner succeeded
      exact unconfirmed _ _ _ rfl found owner (succeeds.mpr succeeded)
  | read isWaiting iterates =>
      exact settled.read prepared ownership isWaiting iterates
  | restored replacing sameTargets selects =>
      exact settled.restored prepared ownership replacing sameTargets selects
  | published replacing =>
      constructor
      case waiting =>
        intro impossible
        cases impossible
      case restoring =>
        intro _ _ _ impossible
        cases impossible
      case finished =>
        intro _ handle member has
        exact (settled.restoring _ _ _ replacing handle member has).2
          List.not_mem_nil

/-- The call writes an old path set although the selections have been read,
and the new path set of its peer has the path too. -/
def Overtaken (generation : List (String × Nat)) (console : Console)
    (peer : SharedPeer) (pathId : String) : Prop :=
  console.replace ≠ .waiting ∧
    (peer.peerKey, peer.paths) ∉ generation ∧
    ∃ handle,
      (peer.peerKey, handle) ∈ generation ∧
        (console.sets handle).Has pathId

/-- A confirmation in time writes the only path set of its peer in which the
path could be found later. -/
theorem eq_written_of_has
    {peer : SharedPeer} {written : PathSet} {handle : Nat}
    (prepared : Prepared hash generation old)
    (inTime : ¬ Overtaken generation self peer pathId)
    (started : self.replace ≠ .waiting)
    (member : (peer.peerKey, handle) ∈ generation)
    (has : ((self.writeSet peer.paths written).sets handle).Has pathId) :
    handle = peer.paths := by
  by_contra other
  rw [sets_writeSet, if_neg other] at has
  refine inTime ⟨started, ?_, handle, member, has⟩
  intro isNew
  exact other (prepared.paths_eq member isNew)

/-- A confirmation in time settles the selection. -/
theorem settled_of_confirm
    {call : Nat} {peer : SharedPeer}
    (prepared : Prepared hash generation old)
    (ownership : Ownership generation old self)
    (found : self.calls.lookup call = some (.checked peer (some pathId)))
    (succeeded :
      ((self.sets peer.paths).select (some pathId)).2 = true)
    (inTime : ¬ Overtaken generation self peer pathId) :
    Settled hash generation
      ((self.writeSet peer.paths
        ((self.sets peer.paths).select (some pathId)).1).continueCall
          call .done)
      peer.peerKey pathId := by
  have holds : self.Holds peer := ⟨call, _, found, rfl⟩
  have written :
      ((self.writeSet peer.paths
          ((self.sets peer.paths).select (some pathId)).1).sets
        peer.paths).selected = some pathId := by
    rw [sets_writeSet, if_pos rfl]
    exact PathSet.selected_of_select succeeded
  constructor
  case waiting =>
    intro isWaiting
    change self.replace = .waiting at isWaiting
    have unfinished := ne_finished_of_waiting isWaiting
    obtain ⟨id, isOld⟩ := ownership.held_unfinished unfinished holds
    have isId := prepared.ownId id peer isOld
    refine ⟨peer, ?_, rfl, written⟩
    change self.peers.lookup (peerId hash peer.peerKey) = some peer
    rw [ownership.unpublished unfinished, ← isId]
    exact isOld
  case restoring =>
    intro previousSelections managed remaining replacing handle member has
    change self.replace = _ at replacing
    have started : self.replace ≠ .waiting := by
      rw [replacing]
      exact ReplacePhase.noConfusion
    have unfinished := ne_finished_of_restoring replacing
    obtain ⟨id, isOld⟩ := ownership.held_unfinished unfinished holds
    have same := eq_written_of_has prepared inTime started member has
    rw [same] at member
    exact absurd member (prepared.newPaths id peer _ isOld)
  case finished =>
    intro isFinished handle member has
    change self.replace = .finished at isFinished
    have started : self.replace ≠ .waiting := by
      rw [isFinished]
      exact ReplacePhase.noConfusion
    have same := eq_written_of_has prepared inTime started member has
    rw [same]
    exact written

end

/-! ## Runs -/

abbrev ConsoleRecord := Record Console ConsoleStep (Option SelectResult)

/-- `select_path` returned `Ok` for the peer. -/
def Confirms
    (record : ConsoleRecord) (peerKey : String) (chosen : Option String) :
    Prop :=
  ∃ call peer,
    record.input = .confirm call ∧
      record.before.calls.lookup call = some (.checked peer chosen) ∧
      peer.peerKey = peerKey ∧
      record.output = some (.ok ())

/-- All calls have finished. -/
def Finished (console : Console) : Prop :=
  console.replace = .finished ∧
    ∀ call phase, console.calls.lookup call = some phase → phase = .done

/-- The last confirmed selection of a peer is in force when all calls have
finished, if the peer is there and has the path. -/
def KeepsSelections
    (hash : Hash) (log : List ConsoleRecord) (console : Console) : Prop :=
  ∀ newer record older peerKey pathId peer,
    log = newer ++ record :: older →
    Confirms record peerKey (some pathId) →
    (∀ later ∈ newer, ∀ chosen, ¬ Confirms later peerKey chosen) →
    console.Finished →
    console.peers.lookup (peerId hash peerKey) = some peer →
    peer.peerKey = peerKey →
    (console.sets peer.paths).Has pathId →
    (console.sets peer.paths).selected = some pathId

/-- A confirmation is not overtaken by the replacement. -/
def InTime
    (generation : List (String × Nat)) (record : ConsoleRecord) : Prop :=
  ∀ call peer pathId,
    record.input = .confirm call →
    record.before.calls.lookup call = some (.checked peer (some pathId)) →
    ¬ Overtaken generation record.before peer pathId

section

variable
  {hash : Hash} {interface : String} {generation : List (String × Nat)}
  {log : List ConsoleRecord} {console : Console}

/-- The last confirmed selection of every peer is settled. -/
def SettledAll (hash : Hash) (generation : List (String × Nat))
    (log : List ConsoleRecord) (console : Console) : Prop :=
  ∀ newer record older peerKey pathId,
    log = newer ++ record :: older →
    Confirms record peerKey (some pathId) →
    (∀ later ∈ newer, ∀ chosen, ¬ Confirms later peerKey chosen) →
    Settled hash generation console peerKey pathId

theorem SettledAll.step
    {old : HashMap String SharedPeer} {record : ConsoleRecord}
    (settled : SettledAll hash generation log record.before)
    (prepared : Prepared hash generation old)
    (ownership : Ownership generation old record.before)
    (moves :
      Moves hash interface generation record.before record.input record.after
        record.output)
    (inTime : InTime generation record) :
    SettledAll hash generation (record :: log) record.after := by
  intro newer confirming older peerKey pathId parts confirms last
  cases newer with
  | nil =>
      cases parts
      obtain ⟨call, peer, input, found, owner, output⟩ := confirms
      rw [← owner]
      rw [input, output] at moves
      generalize record.after = after at moves
      cases moves with
      | called unconfirmed _ =>
          exact absurd rfl unconfirmed
      | @confirmed _ other chosen _ alsoFound succeeds =>
          rw [found] at alsoFound
          cases alsoFound
          exact settled_of_confirm prepared ownership found
            (succeeds.mp rfl) (inTime call peer pathId input found)
  | cons head rest =>
      cases parts
      have before :=
        settled rest confirming older peerKey pathId rfl confirms
          (fun later member =>
            last later (List.mem_cons_of_mem record member))
      apply before.moves prepared ownership moves
      intro call peer chosen input found owner output
      exact last record List.mem_cons_self chosen
        ⟨call, peer, input, found, owner, output⟩

/-- What holds along a run: the peers at its start are known, and every
selection is settled. -/
def Tracked (hash : Hash) (generation : List (String × Nat))
    (log : List ConsoleRecord) (console : Console) : Prop :=
  ∃ old,
    Prepared hash generation old ∧
      Ownership generation old console ∧
      SettledAll hash generation log console

theorem tracked_of_start
    (started : (machine hash interface generation).start console) :
    Tracked hash generation [] console := by
  obtain ⟨isWaiting, noCalls, prepared⟩ := started
  refine ⟨console.peers, prepared, ?_, ?_⟩
  · constructor
    case unpublished =>
      intro _
      rfl
    case published =>
      intro impossible
      rw [isWaiting] at impossible
      cases impossible
    case held =>
      rintro peer ⟨call, phase, found, _⟩
      rw [noCalls] at found
      cases found
    case restoring =>
      intro _ _ _ impossible
      rw [isWaiting] at impossible
      cases impossible
  · intro newer record older peerKey pathId parts
    cases newer <;> cases parts

theorem Tracked.step
    {record : ConsoleRecord}
    (tracked : Tracked hash generation log record.before)
    (inTime : InTime generation record)
    (taken : (machine hash interface generation).Takes record) :
    Tracked hash generation (record :: log) record.after := by
  obtain ⟨old, prepared, ownership, settled⟩ := tracked
  have moves :
      Moves hash interface generation record.before record.input
        record.after record.output :=
    moves_of_step taken
  exact ⟨old, prepared, ownership.moves moves,
    settled.step prepared ownership moves inTime⟩

/-- In a run in which no confirmation is overtaken no selection is lost. -/
theorem keepsSelections_of_execution
    (execution :
      (machine hash interface generation).Execution log console)
    (inTime : ∀ record ∈ log, InTime generation record) :
    KeepsSelections hash log console := by
  have tracked : Tracked hash generation log console :=
    execution.invariant (fun _ => tracked_of_start)
      (fun _ _ tracked timely taken => tracked.step timely taken) inTime
  obtain ⟨old, _, ownership, settled⟩ := tracked
  intro newer record older peerKey pathId peer parts confirms last finished
    found owner has
  have isNew := ownership.published finished.1 _ peer found
  rw [owner] at isNew
  have chosen :=
    settled newer record older peerKey pathId parts confirms last
  exact chosen.finished finished.1 peer.paths isNew has

end

/-! ## Two runs -/

/-- The old path set has the handle 0, the new one the handle 1. -/
def testConsole : Console where
  interface := "wg0"
  peers :=
    Finmap.insert "d916ee5deff7cbc9" ⟨"peer-key", "peer-key", 0⟩ ∅
  sets := fun _ => ⟨[⟨"path", "relay-1", "udp", 0⟩], none⟩
  replace := .waiting
  calls := ∅

def testGeneration : List (String × Nat) := [("peer-key", 1)]

theorem testConsole_starts :
    (machine fingerprintHash "wg0" testGeneration).start testConsole := by
  have found :
      ∀ id peer,
        testConsole.peers.lookup id = some peer →
        id = "d916ee5deff7cbc9" ∧ peer = ⟨"peer-key", "peer-key", 0⟩ := by
    intro id peer present
    unfold testConsole at present
    rw [HashMap.lookup_insert_eq_ite] at present
    split_ifs at present with same
    · exact ⟨same, (Option.some.inj present).symm⟩
    · cases present
  refine ⟨rfl, rfl, ?_⟩
  constructor
  case ownId =>
    intro id peer present
    rw [(found id peer present).1, (found id peer present).2]
    decide
  case ownPaths =>
    intro first second firstPeer secondPeer isFirst isSecond _
    rw [(found first firstPeer isFirst).1,
      (found second secondPeer isSecond).1]
  case newPaths =>
    intro id peer peerKey present
    rw [(found id peer present).2]
    simp [testGeneration]
  case distinctKeys =>
    decide
  case distinctPaths =>
    decide

/-- What a record shows of the first call. -/
structure CallView where
  label : ConsoleStep
  phase : Option SelectPhase
  confirmed : Bool
deriving DecidableEq

def observeCall (record : ConsoleRecord) : CallView where
  label := record.input
  phase := record.before.calls.lookup 0
  confirmed :=
    match record.output with
    | some (.ok ()) => true
    | _ => false

theorem confirms_of_observeCall
    {record : ConsoleRecord} {peer : SharedPeer} {chosen : Option String}
    (observed :
      observeCall record =
        ⟨.confirm 0, some (.checked peer chosen), true⟩) :
    Confirms record peer.peerKey chosen := by
  unfold observeCall at observed
  rw [CallView.mk.injEq] at observed
  refine ⟨0, peer, observed.1, observed.2.1, rfl, ?_⟩
  have succeeded := observed.2.2
  split at succeeded
  · assumption
  · cases succeeded

theorem input_of_observeCall
    {records : List ConsoleRecord} {record : ConsoleRecord}
    {observed : List CallView}
    (map : records.map observeCall = observed) (member : record ∈ records) :
    record.input ∈ observed.map CallView.label := by
  rw [← map, List.map_map]
  exact List.mem_map_of_mem member

/-- What remains after a run. -/
structure EndView where
  finished : Bool
  calls : HashMap Nat SelectPhase
  peer : Option SharedPeer
  paths : PathSet
deriving DecidableEq

def observeEnd (console : Console) : EndView where
  finished :=
    match console.replace with
    | .finished => true
    | _ => false
  calls := console.calls
  peer := console.peers.lookup "d916ee5deff7cbc9"
  paths := console.sets 1

theorem finished_of_observeEnd
    {console : Console} {peer : Option SharedPeer} {paths : PathSet}
    (observed :
      observeEnd console = ⟨true, Finmap.insert 0 .done ∅, peer, paths⟩) :
    console.Finished := by
  unfold observeEnd at observed
  rw [EndView.mk.injEq] at observed
  constructor
  · have isFinished := observed.1
    split at isFinished
    · assumption
    · cases isFinished
  · intro call phase found
    rw [observed.2.1, HashMap.lookup_insert_eq_ite] at found
    split_ifs at found
    · exact (Option.some.inj found).symm
    · cases found

/-- The selections are read between the check and the confirmation. -/
def overtakenSteps : List ConsoleStep :=
  [.fetch 0 "d916ee5deff7cbc9" (some "path"),
    .check 0 true,
    .read ["d916ee5deff7cbc9"],
    .confirm 0,
    .restore,
    .publish]

theorem overtaken_selection_lost :
    ∃ log console,
      (machine fingerprintHash "wg0" testGeneration).Execution log console ∧
        ¬ KeepsSelections fingerprintHash log console := by
  have ran :
      ((machine fingerprintHash "wg0" testGeneration).run testConsole
          overtakenSteps).map
        (fun result =>
          (result.1.map observeCall, observeEnd result.2)) =
        some
          ([⟨.publish, some .done, false⟩, ⟨.restore, some .done, false⟩] ++
            ⟨.confirm 0,
              some (.checked ⟨"peer-key", "peer-key", 0⟩ (some "path")),
              true⟩ ::
            [⟨.read ["d916ee5deff7cbc9"],
                some (.checked ⟨"peer-key", "peer-key", 0⟩ (some "path")),
                false⟩,
              ⟨.check 0 true,
                some (.fetched ⟨"peer-key", "peer-key", 0⟩ "path"), false⟩,
              ⟨.fetch 0 "d916ee5deff7cbc9" (some "path"), none, false⟩],
          ⟨true, Finmap.insert 0 .done ∅,
            some ⟨"peer-key", "peer-key", 1⟩,
            ⟨[⟨"path", "relay-1", "udp", 0⟩], none⟩⟩) := by
    decide
  obtain ⟨log, console, execution, observed⟩ :=
    Machine.exists_execution_of_run testConsole_starts ran
  rw [Prod.mk.injEq] at observed
  obtain ⟨steps, ending⟩ := observed
  obtain ⟨newer, rest, parts, isNewer, isRest⟩ :=
    List.map_eq_append_iff.mp steps
  obtain ⟨record, older, restParts, isRecord, _⟩ :=
    List.map_eq_cons_iff.mp isRest
  refine ⟨log, console, execution, ?_⟩
  intro keeps
  have finished := finished_of_observeEnd ending
  unfold observeEnd at ending
  rw [EndView.mk.injEq] at ending
  have selected :
      (console.sets 1).selected = some "path" := by
    apply keeps newer record older "peer-key" "path"
      ⟨"peer-key", "peer-key", 1⟩ (parts.trans (by rw [restParts]))
      (confirms_of_observeCall isRecord)
    · rintro later member chosen ⟨call, _, input, _⟩
      have listed := input_of_observeCall isNewer member
      rw [input] at listed
      simp at listed
    · exact finished
    · exact ending.2.2.1
    · rfl
    · rw [ending.2.2.2]
      decide
  rw [ending.2.2.2] at selected
  cases selected

/-- The confirmation comes before the selections are read. -/
def timelySteps : List ConsoleStep :=
  [.fetch 0 "d916ee5deff7cbc9" (some "path"),
    .check 0 true,
    .confirm 0,
    .read ["d916ee5deff7cbc9"],
    .restore,
    .publish]

/-- A confirmation while the replacement waits. -/
def confirmsWaiting (record : ConsoleRecord) : Bool :=
  match record.input, record.before.replace with
  | .confirm _, .waiting => true
  | .confirm _, _ => false
  | _, _ => true

theorem inTime_of_confirmsWaiting
    {record : ConsoleRecord} {generation : List (String × Nat)}
    (waiting : confirmsWaiting record = true) :
    InTime generation record := by
  rintro call peer pathId input _ ⟨started, _⟩
  unfold confirmsWaiting at waiting
  rw [input] at waiting
  apply started
  cases phase : record.before.replace with
  | waiting =>
      rfl
  | restoring previousSelections managed remaining =>
      rw [phase] at waiting
      cases waiting
  | finished =>
      rw [phase] at waiting
      cases waiting

theorem timely_selection_kept :
    ∃ log console,
      (machine fingerprintHash "wg0" testGeneration).Execution log console ∧
        (∀ record ∈ log, InTime testGeneration record) ∧
        console.Finished ∧
        (console.sets 1).selected = some "path" ∧
        KeepsSelections fingerprintHash log console := by
  have ran :
      ((machine fingerprintHash "wg0" testGeneration).run testConsole
          timelySteps).map
        (fun result =>
          (result.1.all confirmsWaiting, observeEnd result.2)) =
        some
          (true,
            ⟨true, Finmap.insert 0 .done ∅,
              some ⟨"peer-key", "peer-key", 1⟩,
              ⟨[⟨"path", "relay-1", "udp", 0⟩], some "path"⟩⟩) := by
    decide
  obtain ⟨log, console, execution, observed⟩ :=
    Machine.exists_execution_of_run testConsole_starts ran
  rw [Prod.mk.injEq] at observed
  obtain ⟨waits, ending⟩ := observed
  have inTime : ∀ record ∈ log, InTime testGeneration record := by
    intro record member
    exact inTime_of_confirmsWaiting (List.all_eq_true.mp waits record member)
  have finished := finished_of_observeEnd ending
  unfold observeEnd at ending
  rw [EndView.mk.injEq] at ending
  refine ⟨log, console, execution, inTime, finished, ?_,
    keepsSelections_of_execution execution inTime⟩
  rw [ending.2.2.2]

end Console

end WgLink
