import WgLink.Broker
import WgLink.Identity
import WgLink.Library.Machine

/-!
# Selections and the change of generations

`ManagementState::select_path` and `replace_generation` of `management.rs`,
with each section under a lock as one step.  The path sets are shared: a call
of `select_path` keeps its handle while the peers are replaced.  Whether a path
is available is part of the step that asks for it, since the relays set it at
any time.
-/

namespace WgLink

open WgLink.Library

/-- `SelectError`. -/
inductive SelectError where
  | peerNotFound
  | pathNotFound
  | pathUnavailable
deriving DecidableEq

/-- `ManagedPeer`, with the handle of its shared path set. -/
structure SharedPeer where
  peerKey : String
  keyHint : String
  paths : Nat
deriving DecidableEq

/-- `peer_id`. -/
def peerId (hash : Hash) (peerKey : String) : String :=
  String.ofList ((toHex (hash (asBytes peerKey)).toList).take 16)

/-- Where a call of `select_path` is. -/
inductive SelectPhase where
  | fetched (peer : SharedPeer) (pathId : String)
  | checked (peer : SharedPeer) (pathId : Option String)
  | done
deriving DecidableEq

/-- The peer that a call has found. -/
def SelectPhase.peer : SelectPhase → Option SharedPeer
  | .fetched peer _ => some peer
  | .checked peer _ => some peer
  | .done => none

/-- Where the call of `replace_generation` is. -/
inductive ReplacePhase where
  | waiting
  | restoring (previousSelections : HashMap String String)
      (managed : HashMap String SharedPeer) (remaining : List (String × Nat))
  | finished

/-- `ManagementInner`, the shared path sets and the calls under way. -/
structure Console where
  interface : String
  peers : HashMap String SharedPeer
  sets : Nat → PathSet
  replace : ReplacePhase
  calls : HashMap Nat SelectPhase

/-- The steps of the calls. -/
inductive ConsoleStep where
  | fetch (call : Nat) (peerId : String) (pathId : Option String)
  | check (call : Nat) (available : Bool)
  | confirm (call : Nat)
  | read (order : List String)
  | restore
  | publish
deriving DecidableEq

/-- The result of a call that returns. -/
abbrev SelectResult := Except SelectError Unit

namespace Console

/-- The call goes on in the given phase. -/
def continueCall (self : Console) (call : Nat) (phase : SelectPhase) :
    Console :=
  { self with calls := self.calls.insert call phase }

/-- Write one path set. -/
def writeSet (self : Console) (handle : Nat) (paths : PathSet) : Console :=
  { self with
    sets := fun other => if other = handle then paths else self.sets other }

/-- `select_path`: the peer is looked up.  Without a path there is nothing to
check. -/
def fetch
    (self : Console) (call : Nat) (peerId : String)
    (pathId : Option String) : Option (Console × Option SelectResult) :=
  if (self.calls.lookup call).isSome then
    none
  else
    match self.peers.lookup peerId, pathId with
    | none, _ =>
        some (self.continueCall call .done, some (.error .peerNotFound))
    | some peer, none =>
        some (self.continueCall call (.checked peer none), none)
    | some peer, some pathId =>
        some (self.continueCall call (.fetched peer pathId), none)

/-- `select_path`: the path must be known and available. -/
def check (self : Console) (call : Nat) (available : Bool) :
    Option (Console × Option SelectResult) :=
  match self.calls.lookup call with
  | some (.fetched peer pathId) =>
      if (self.sets peer.paths).targets.any fun target =>
          target.id = pathId then
        if available then
          some (self.continueCall call (.checked peer (some pathId)), none)
        else
          some
            (self.continueCall call .done, some (.error .pathUnavailable))
      else
        some (self.continueCall call .done, some (.error .pathNotFound))
  | _ => none

/-- `select_path`: the path set is written. -/
def confirm (self : Console) (call : Nat) :
    Option (Console × Option SelectResult) :=
  match self.calls.lookup call with
  | some (.checked peer pathId) =>
      let (paths, selected) := (self.sets peer.paths).select pathId
      some
        ((self.writeSet peer.paths paths).continueCall call .done,
          some (if selected then .ok () else .error .pathNotFound))
  | _ => none

/-- The selections of the managed peers, visited in the given order. -/
def selections (self : Console) (order : List String) :
    List (String × String) :=
  order.filterMap fun id =>
    (self.peers.lookup id).bind fun peer =>
      (self.sets peer.paths).selected.map fun selected =>
        (peer.peerKey, selected)

section

variable (hash : Hash) (interface : String) (generation : List (String × Nat))

/-- `replace_generation`: the selections are read.  No other section is under
way, so every `try_read` succeeds. -/
def read (self : Console) (order : List String) :
    Option (Console × Option SelectResult) :=
  match self.replace with
  | .waiting =>
      if HashMap.Iterates order self.peers then
        some
          ({ self with
              replace :=
                .restoring (HashMap.collect (self.selections order)) ∅
                  generation },
            none)
      else
        none
  | _ => none

/-- `replace_generation`: one round of the loop over the new peers. -/
def restore (self : Console) : Option (Console × Option SelectResult) :=
  match self.replace with
  | .restoring previousSelections managed ((peerKey, paths) :: remaining) =>
      let restored :=
        match previousSelections.lookup peerKey with
        | none => self
        | some selected =>
            self.writeSet paths
              ((self.sets paths).select (some selected)).1
      let keyHint := String.ofList (peerKey.toList.take 12)
      some
        ({ restored with
            replace :=
              .restoring previousSelections
                (managed.insert (peerId hash peerKey)
                  ⟨peerKey, keyHint, paths⟩)
                remaining },
          none)
  | _ => none

/-- `replace_generation`: the new peers are published. -/
def publish (self : Console) : Option (Console × Option SelectResult) :=
  match self.replace with
  | .restoring _ managed [] =>
      some ({ self with interface, peers := managed, replace := .finished },
        none)
  | _ => none

def step (self : Console) :
    ConsoleStep → Option (Console × Option SelectResult)
  | .fetch call peerId pathId => self.fetch call peerId pathId
  | .check call available => self.check call available
  | .confirm call => self.confirm call
  | .read order => self.read generation order
  | .restore => self.restore hash
  | .publish => self.publish interface

/-- What the callers of `replace_generation` provide: peers under their own
identifiers with path sets of their own, and new path sets for the new
peers. -/
structure Prepared (peers : HashMap String SharedPeer) : Prop where
  ownId :
    ∀ id peer, peers.lookup id = some peer → id = peerId hash peer.peerKey
  ownPaths :
    ∀ first second firstPeer secondPeer,
      peers.lookup first = some firstPeer →
      peers.lookup second = some secondPeer →
      firstPeer.paths = secondPeer.paths →
      first = second
  newPaths :
    ∀ id peer peerKey,
      peers.lookup id = some peer → (peerKey, peer.paths) ∉ generation
  distinctKeys : (generation.map Prod.fst).Nodup
  distinctPaths : (generation.map Prod.snd).Nodup

/-- One `replace_generation` among any number of `select_path` calls. -/
def machine : Machine Console ConsoleStep (Option SelectResult) where
  start := fun console =>
    console.replace = .waiting ∧
      console.calls = ∅ ∧
      Prepared hash generation console.peers
  step := step hash interface generation

end

end Console

namespace PathSet

variable {paths : PathSet} {pathId : String}

/-- The path set has a path of this name. -/
def Has (paths : PathSet) (pathId : String) : Prop :=
  (paths.targets.any fun target => target.id = pathId) = true

instance : Decidable (paths.Has pathId) :=
  inferInstanceAs (Decidable (_ = true))

theorem select_of_has (known : paths.Has pathId) :
    paths.select (some pathId) =
      ({ paths with selected := some pathId }, true) :=
  if_pos known

theorem select_of_not_has (unknown : ¬ paths.Has pathId) :
    paths.select (some pathId) = (paths, false) :=
  if_neg unknown

theorem select_targets (paths : PathSet) (pathId : Option String) :
    (paths.select pathId).1.targets = paths.targets := by
  cases pathId with
  | none =>
      rfl
  | some pathId =>
      by_cases known : paths.Has pathId
      · rw [select_of_has known]
      · rw [select_of_not_has known]

theorem selected_of_select
    {chosen : Option String} (succeeded : (paths.select chosen).2 = true) :
    (paths.select chosen).1.selected = chosen := by
  cases chosen with
  | none =>
      rfl
  | some pathId =>
      by_cases known : paths.Has pathId
      · rw [select_of_has known]
      · rw [select_of_not_has known] at succeeded
        cases succeeded

theorem select_eq_self
    {chosen : Option String} (failed : (paths.select chosen).2 ≠ true) :
    (paths.select chosen).1 = paths := by
  cases chosen with
  | none =>
      exact absurd rfl failed
  | some pathId =>
      by_cases known : paths.Has pathId
      · rw [select_of_has known] at failed
        exact absurd rfl failed
      · rw [select_of_not_has known]

end PathSet

namespace Console

/-! ## What a step does -/

/-- A call under way holds the peer. -/
def Holds (self : Console) (peer : SharedPeer) : Prop :=
  ∃ call phase,
    self.calls.lookup call = some phase ∧ phase.peer = some peer

section

variable
  {hash : Hash} {interface : String} {generation : List (String × Nat)}
  {self : Console}

/-- The steps by what they change. -/
inductive Moves (hash : Hash) (interface : String)
    (generation : List (String × Nat)) (self : Console) :
    ConsoleStep → Console → Option SelectResult → Prop
  | called {label : ConsoleStep} {call : Nat} {phase : SelectPhase}
      {result : Option SelectResult} :
      result ≠ some (.ok ()) →
      (∀ peer,
        phase.peer = some peer →
        self.Holds peer ∨ ∃ id, self.peers.lookup id = some peer) →
      Moves hash interface generation self label
        (self.continueCall call phase) result
  | confirmed {call : Nat} {peer : SharedPeer} {pathId : Option String}
      {result : Option SelectResult} :
      self.calls.lookup call = some (.checked peer pathId) →
      (result = some (.ok ()) ↔
        ((self.sets peer.paths).select pathId).2 = true) →
      Moves hash interface generation self (.confirm call)
        ((self.writeSet peer.paths
          ((self.sets peer.paths).select pathId).1).continueCall call .done)
        result
  | read {order : List String} :
      self.replace = .waiting →
      HashMap.Iterates order self.peers →
      Moves hash interface generation self (.read order)
        { self with
          replace :=
            .restoring (HashMap.collect (self.selections order)) ∅
              generation }
        none
  | restored {previousSelections : HashMap String String}
      {managed : HashMap String SharedPeer} {peerKey keyHint : String}
      {paths : Nat} {remaining : List (String × Nat)} {restored : PathSet} :
      self.replace =
        .restoring previousSelections managed
          ((peerKey, paths) :: remaining) →
      restored.targets = (self.sets paths).targets →
      (∀ selected,
        previousSelections.lookup peerKey = some selected →
        restored = ((self.sets paths).select (some selected)).1) →
      Moves hash interface generation self .restore
        { self.writeSet paths restored with
          replace :=
            .restoring previousSelections
              (managed.insert (peerId hash peerKey)
                ⟨peerKey, keyHint, paths⟩)
              remaining }
        none
  | published {previousSelections : HashMap String String}
      {managed : HashMap String SharedPeer} :
      self.replace = .restoring previousSelections managed [] →
      Moves hash interface generation self .publish
        { self with interface, peers := managed, replace := .finished } none

theorem holds_continueCall
    {call : Nat} {phase : SelectPhase} {peer : SharedPeer}
    (holds : (self.continueCall call phase).Holds peer) :
    self.Holds peer ∨ phase.peer = some peer := by
  obtain ⟨other, held, found, owner⟩ := holds
  unfold continueCall at found
  rw [HashMap.lookup_insert_eq_ite] at found
  by_cases same : other = call
  · rw [if_pos same] at found
    cases found
    exact Or.inr owner
  · rw [if_neg same] at found
    exact Or.inl ⟨other, held, found, owner⟩

theorem moves_fetch
    {call : Nat} {id : String} {pathId : Option String} {after : Console}
    {result : Option SelectResult}
    (taken : self.fetch call id pathId = some (after, result)) :
    Moves hash interface generation self (.fetch call id pathId) after
      result := by
  unfold fetch at taken
  split_ifs at taken
  cases found : self.peers.lookup id with
  | none =>
      simp only [found] at taken
      cases taken
      exact .called (by simp) (by simp [SelectPhase.peer])
  | some peer =>
      have known :
          ∀ other,
            some peer = some other →
            self.Holds other ∨ ∃ id, self.peers.lookup id = some other := by
        intro other same
        cases same
        exact Or.inr ⟨id, found⟩
      cases pathId with
      | none =>
          simp only [found] at taken
          cases taken
          exact .called (by simp) known
      | some pathId =>
          simp only [found] at taken
          cases taken
          exact .called (by simp) known

theorem moves_check
    {call : Nat} {available : Bool} {after : Console}
    {result : Option SelectResult}
    (taken : self.check call available = some (after, result)) :
    Moves hash interface generation self (.check call available) after
      result := by
  unfold check at taken
  split at taken
  · rename_i peer pathId found
    split_ifs at taken with known
    · cases taken
      refine .called (by simp) ?_
      intro other same
      cases same
      exact Or.inl ⟨call, _, found, rfl⟩
    · cases taken
      exact .called (by simp) (by simp [SelectPhase.peer])
    · cases taken
      exact .called (by simp) (by simp [SelectPhase.peer])
  · cases taken

theorem moves_confirm
    {call : Nat} {after : Console} {result : Option SelectResult}
    (taken : self.confirm call = some (after, result)) :
    Moves hash interface generation self (.confirm call) after result := by
  unfold confirm at taken
  split at taken
  · rename_i peer pathId found
    simp only [Option.some.injEq, Prod.mk.injEq] at taken
    rw [← taken.1, ← taken.2]
    refine .confirmed found ?_
    cases ((self.sets peer.paths).select pathId).2 with
    | true =>
        simp
    | false =>
        simp
  · cases taken

theorem moves_read
    {order : List String} {after : Console} {result : Option SelectResult}
    (taken : self.read generation order = some (after, result)) :
    Moves hash interface generation self (.read order) after result := by
  unfold read at taken
  split at taken
  · rename_i waiting
    split_ifs at taken with iterates
    cases taken
    exact .read waiting iterates
  · cases taken

theorem writeSet_self (self : Console) (handle : Nat) :
    self.writeSet handle (self.sets handle) = self := by
  have same :
      (fun other => if other = handle then self.sets handle
        else self.sets other) = self.sets := by
    funext other
    by_cases isHandle : other = handle
    · rw [if_pos isHandle, isHandle]
    · rw [if_neg isHandle]
  unfold writeSet
  rw [same]

theorem moves_restore
    {after : Console} {result : Option SelectResult}
    (taken : self.restore hash = some (after, result)) :
    Moves hash interface generation self .restore after result := by
  unfold restore at taken
  split at taken
  · rename_i previousSelections managed peerKey paths remaining replacing
    simp only [Option.some.injEq, Prod.mk.injEq] at taken
    rw [← taken.1, ← taken.2]
    cases found : previousSelections.lookup peerKey with
    | none =>
        have kept :=
          @Moves.restored hash interface generation self _ _ _
            (String.ofList (peerKey.toList.take 12)) _ _ (self.sets paths)
            replacing rfl (by simp [found])
        rw [writeSet_self] at kept
        exact kept
    | some selected =>
        refine .restored replacing (PathSet.select_targets _ _) ?_
        intro other same
        rw [found] at same
        cases same
        rfl
  · cases taken

theorem moves_publish
    {after : Console} {result : Option SelectResult}
    (taken : self.publish interface = some (after, result)) :
    Moves hash interface generation self .publish after result := by
  unfold publish at taken
  split at taken
  · rename_i replacing
    cases taken
    exact .published replacing
  · cases taken

theorem moves_of_step
    {label : ConsoleStep} {after : Console} {result : Option SelectResult}
    (taken :
      self.step hash interface generation label = some (after, result)) :
    Moves hash interface generation self label after result := by
  cases label with
  | fetch call id pathId =>
      exact moves_fetch taken
  | check call available =>
      exact moves_check taken
  | confirm call =>
      exact moves_confirm taken
  | read order =>
      exact moves_read taken
  | restore =>
      exact moves_restore taken
  | publish =>
      exact moves_publish taken

/-! ## Whose path set a call holds -/

/-- The managed peers are the old ones until the new ones are published, and
a call holds an old peer or a published one. -/
structure Ownership (generation : List (String × Nat))
    (old : HashMap String SharedPeer) (console : Console) : Prop where
  unpublished : console.replace ≠ .finished → console.peers = old
  published :
    console.replace = .finished →
    ∀ id peer,
      console.peers.lookup id = some peer →
      (peer.peerKey, peer.paths) ∈ generation
  held :
    ∀ peer,
      console.Holds peer →
      (∃ id, old.lookup id = some peer) ∨
        (console.replace = .finished ∧ (peer.peerKey, peer.paths) ∈ generation)
  restoring :
    ∀ previousSelections managed remaining,
      console.replace = .restoring previousSelections managed remaining →
      (∀ entry ∈ remaining, entry ∈ generation) ∧
        ∀ id peer,
          managed.lookup id = some peer →
          (peer.peerKey, peer.paths) ∈ generation

variable {old : HashMap String SharedPeer}

/-- A call that goes on with a known peer keeps the ownership. -/
theorem Ownership.continueCall
    (ownership : Ownership generation old self) (call : Nat)
    {phase : SelectPhase}
    (known :
      ∀ peer,
        phase.peer = some peer →
        self.Holds peer ∨ ∃ id, self.peers.lookup id = some peer) :
    Ownership generation old (self.continueCall call phase) := by
  constructor
  case unpublished =>
    exact ownership.unpublished
  case published =>
    exact ownership.published
  case held =>
    intro peer holds
    have before :
        self.Holds peer ∨ ∃ id, self.peers.lookup id = some peer := by
      rcases holds_continueCall holds with earlier | isPhase
      · exact Or.inl earlier
      · exact known peer isPhase
    rcases before with earlier | ⟨id, found⟩
    · exact ownership.held peer earlier
    · by_cases finished : self.replace = .finished
      · exact Or.inr
          ⟨finished, ownership.published finished id peer found⟩
      · rw [ownership.unpublished finished] at found
        exact Or.inl ⟨id, found⟩
  case restoring =>
    exact ownership.restoring

/-- Ownership does not depend on the path sets. -/
theorem Ownership.writeSet
    (ownership : Ownership generation old self) (handle : Nat)
    (paths : PathSet) :
    Ownership generation old (self.writeSet handle paths) :=
  ⟨ownership.unpublished, ownership.published, ownership.held,
    ownership.restoring⟩

/-- Before the new peers are published a call can only hold an old one. -/
theorem Ownership.held_unfinished
    (ownership : Ownership generation old self)
    (unfinished : self.replace ≠ .finished) {peer : SharedPeer}
    (holds : self.Holds peer) :
    ∃ id, old.lookup id = some peer := by
  rcases ownership.held peer holds with found | ⟨finished, _⟩
  · exact found
  · exact absurd finished unfinished

theorem ne_finished_of_waiting (isWaiting : self.replace = .waiting) :
    self.replace ≠ .finished := by
  rw [isWaiting]
  exact ReplacePhase.noConfusion

theorem ne_finished_of_restoring
    {previousSelections : HashMap String String}
    {managed : HashMap String SharedPeer} {remaining : List (String × Nat)}
    (replacing :
      self.replace = .restoring previousSelections managed remaining) :
    self.replace ≠ .finished := by
  rw [replacing]
  exact ReplacePhase.noConfusion

/-- A step of the replacement that publishes nothing. -/
theorem Ownership.replacing
    {previousSelections : HashMap String String}
    {managed : HashMap String SharedPeer} {remaining : List (String × Nat)}
    (ownership : Ownership generation old self)
    (unfinished : self.replace ≠ .finished)
    (pending : ∀ entry ∈ remaining, entry ∈ generation)
    (collected :
      ∀ id peer,
        managed.lookup id = some peer →
        (peer.peerKey, peer.paths) ∈ generation) :
    Ownership generation old
      { self with
        replace := .restoring previousSelections managed remaining } := by
  constructor
  case unpublished =>
    intro _
    exact ownership.unpublished unfinished
  case published =>
    intro finished
    cases finished
  case held =>
    intro peer holds
    exact Or.inl (ownership.held_unfinished unfinished holds)
  case restoring =>
    intro _ _ _ same
    cases same
    exact ⟨pending, collected⟩

theorem Ownership.moves
    {label : ConsoleStep} {after : Console} {result : Option SelectResult}
    (ownership : Ownership generation old self)
    (moves : Moves hash interface generation self label after result) :
    Ownership generation old after := by
  cases moves with
  | called _ known =>
      exact ownership.continueCall _ known
  | confirmed _ _ =>
      apply (ownership.writeSet _ _).continueCall
      intro peer impossible
      cases impossible
  | read waiting _ =>
      have unfinished := ne_finished_of_waiting waiting
      apply ownership.replacing unfinished
      · intro entry member
        exact member
      · intro id peer found
        cases found
  | @restored previousSelections managed peerKey keyHint paths remaining
      restored replacing _ _ =>
      have unfinished := ne_finished_of_restoring replacing
      obtain ⟨pending, collected⟩ := ownership.restoring _ _ _ replacing
      refine (ownership.writeSet paths restored).replacing unfinished ?_ ?_
      · intro entry member
        exact pending entry (List.mem_cons_of_mem _ member)
      · intro id peer found
        rw [HashMap.lookup_insert_eq_ite] at found
        by_cases same : id = peerId hash peerKey
        · rw [if_pos same] at found
          cases found
          exact pending _ List.mem_cons_self
        · rw [if_neg same] at found
          exact collected id peer found
  | published replacing =>
      have unfinished := ne_finished_of_restoring replacing
      constructor
      case unpublished =>
        intro impossible
        exact absurd rfl impossible
      case published =>
        intro _
        exact (ownership.restoring _ _ _ replacing).2
      case held =>
        intro peer holds
        exact Or.inl (ownership.held_unfinished unfinished holds)
      case restoring =>
        intro _ _ _ impossible
        cases impossible

theorem Prepared.paths_eq
    (prepared : Prepared hash generation old) {peerKey : String}
    {first second : Nat} (isFirst : (peerKey, first) ∈ generation)
    (isSecond : (peerKey, second) ∈ generation) :
    first = second :=
  congrArg Prod.snd
    (List.inj_on_of_nodup_map prepared.distinctKeys isFirst isSecond rfl)

theorem Prepared.key_eq
    (prepared : Prepared hash generation old) {paths : Nat}
    {first second : String} (isFirst : (first, paths) ∈ generation)
    (isSecond : (second, paths) ∈ generation) :
    first = second :=
  congrArg Prod.fst
    (List.inj_on_of_nodup_map prepared.distinctPaths isFirst isSecond rfl)

end

end Console

end WgLink
