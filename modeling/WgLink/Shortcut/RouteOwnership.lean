import WgLink.Library.Fallible
import WgLink.Shortcut.ManagerRuns

/-!
# Who owns a route

Two relations between what the manager stores and what is installed.  `Synced`
says that the recorded owners are those of the route table, and every operation
keeps it, failing calls included.  `Owned` says that an owner is a session that
is still there, and is kept by every operation but one: a `fail` whose
deactivation fails has already forgotten the session.
-/

namespace WgLink.ShortcutManager

open WgLink.Library

variable {R : Type}

/-- Every recorded owner is an active session for that selector. -/
def Owned (self : ShortcutManager R) : Prop :=
  ∀ selector session,
    self.activeRoutes.lookup selector = some session →
    ∃ managed,
      self.sessions.lookup session = some managed ∧
      managed.ticket.selector = selector ∧
      managed.phase = .active

theorem mem_expiredSessions
    {self : ShortcutManager R} {now : UInt64} {order : List SessionKey}
    (iterates : HashMap.Iterates order self.sessions) (session : SessionKey) :
    session ∈ self.expiredSessions now order ↔
      ∃ managed,
        self.sessions.lookup session = some managed ∧
        managed.ticket.expiresAt ≤ now := by
  unfold expiredSessions
  rw [List.mem_filter, iterates.mem_iff, HashMap.mem_iff_lookup_isSome]
  cases present : self.sessions.lookup session with
  | none =>
      simp
  | some managed =>
      simp

theorem mem_drainingSessions
    {self : ShortcutManager R} {order : List SessionKey}
    (iterates : HashMap.Iterates order self.sessions) (session : SessionKey) :
    session ∈ self.drainingSessions order ↔
      ∃ managed,
        self.sessions.lookup session = some managed ∧
        managed.phase = .draining := by
  unfold drainingSessions phase
  rw [List.mem_filter, iterates.mem_iff, HashMap.mem_iff_lookup_isSome]
  cases present : self.sessions.lookup session with
  | none =>
      simp
  | some managed =>
      simp

/-! ## Recorded owners are sessions -/

theorem Owned.of_new (routes : R) : Owned (new routes) := by
  intro selector session found
  cases found

/-- A step that only forgets sessions that own nothing keeps `Owned`. -/
theorem Owned.of_forgotten
    {before after : ShortcutManager R}
    (owned : Owned before)
    (shrinks :
      ∀ selector owner,
        after.activeRoutes.lookup selector = some owner →
        before.activeRoutes.lookup selector = some owner)
    (kept :
      ∀ selector owner,
        after.activeRoutes.lookup selector = some owner →
        after.sessions.lookup owner = before.sessions.lookup owner) :
    Owned after := by
  intro selector session found
  obtain ⟨managed, present, matching, active⟩ :=
    owned selector session (shrinks selector session found)
  exact ⟨managed, (kept selector session found).trans present,
    matching, active⟩

theorem Owned.receiveTicket
    {self : ShortcutManager R} (owned : Owned self)
    (ticket : ShortcutTicket) (sender localKey : String) (now : UInt64) :
    Owned (self.receiveTicket ticket sender localKey now).1 := by
  rcases receiveTicket_cases self ticket sender localKey now with
    ⟨error, outcome⟩ | ⟨existing, _, _, outcome⟩ | ⟨absent, _, _, _, outcome⟩
  · rw [outcome]
    exact owned
  · rw [outcome]
    exact owned
  · rw [outcome]
    refine Owned.of_forgotten owned (fun _ _ found => found) ?_
    intro selector owner found
    obtain ⟨managed, present, _⟩ := owned selector owner found
    have apart : owner ≠ ticket.session := by
      intro same
      rw [same, absent] at present
      cases present
    exact Finmap.lookup_insert_of_ne _ apart

theorem Owned.markHandshaking
    {self : ShortcutManager R} (owned : Owned self) (session : SessionKey) :
    Owned (self.markHandshaking session).1 := by
  rcases markHandshaking_cases self session with
    outcome | ⟨managed, present, fresh, outcome⟩
  · rw [outcome]
    exact owned
  · rw [outcome]
    refine Owned.of_forgotten owned (fun _ _ found => found) ?_
    intro selector owner found
    obtain ⟨other, ownerPresent, _, active⟩ := owned selector owner found
    have apart : owner ≠ session := by
      intro same
      rw [same, present] at ownerPresent
      cases ownerPresent
      rw [fresh] at active
      cases active
    exact Finmap.lookup_insert_of_ne _ apart

theorem Owned.retireDraining
    {self : ShortcutManager R} (owned : Owned self)
    {order : List SessionKey}
    (iterates : HashMap.Iterates order self.sessions) :
    Owned (self.retireDraining order).1 := by
  refine Owned.of_forgotten owned (fun _ _ found => found) ?_
  intro selector owner found
  obtain ⟨managed, present, _, active⟩ := owned selector owner found
  have stays : owner ∉ self.drainingSessions order := by
    intro retired
    obtain ⟨other, otherPresent, draining⟩ :=
      (mem_drainingSessions iterates owner).mp retired
    rw [present] at otherPresent
    cases otherPresent
    rw [active] at draining
    cases draining
  simp only [ShortcutManager.retireDraining, HashMap.lookup_eraseAll]
  rw [if_neg stays]

variable [RouteManager R]

/-- The first loop of `expire` makes no one an owner. -/
theorem removeExpiredRoutes_shrinks
    (self : ShortcutManager R) (keys : List SessionKey)
    {selector : IpNet} {owner : SessionKey}
    (found :
      (self.removeExpiredRoutes keys).1.activeRoutes.lookup selector =
        some owner) :
    self.activeRoutes.lookup selector = some owner := by
  induction keys generalizing self with
  | nil =>
      exact found
  | cons session rest inductionHypothesis =>
      rcases removeExpiredRoutes_cases self session rest with
        ⟨_, skipped⟩ | ⟨managed, _, _, ⟨error, _, outcome⟩ | ⟨_, outcome⟩⟩
      · rw [skipped] at found
        exact inductionHypothesis self found
      · rw [outcome] at found
        exact found
      · rw [outcome] at found
        have earlier := inductionHypothesis _ found
        simp only [HashMap.lookup_erase_eq_ite] at earlier
        split at earlier
        · cases earlier
        · exact earlier

/-- It takes routes only from the sessions that it is given. -/
theorem removeExpiredRoutes_keeps
    (self : ShortcutManager R) (keys : List SessionKey)
    {selector : IpNet} {owner : SessionKey}
    (found : self.activeRoutes.lookup selector = some owner)
    (outside : owner ∉ keys) :
    (self.removeExpiredRoutes keys).1.activeRoutes.lookup selector =
      some owner := by
  induction keys generalizing self with
  | nil =>
      exact found
  | cons session rest inductionHypothesis =>
      have apart : owner ≠ session :=
        fun same => outside (same ▸ List.mem_cons_self)
      have later : owner ∉ rest :=
        fun member => outside (List.mem_cons_of_mem session member)
      rcases removeExpiredRoutes_cases self session rest with
        ⟨_, skipped⟩ | ⟨managed, _, owns, ⟨error, _, outcome⟩ | ⟨_, outcome⟩⟩
      · rw [skipped]
        exact inductionHypothesis self found later
      · rw [outcome]
        exact found
      · rw [outcome]
        apply inductionHypothesis _ _ later
        simp only [HashMap.lookup_erase_eq_ite]
        split
        · rename_i sameSelector
          rw [sameSelector, owns] at found
          exact absurd (Option.some.inj found).symm apart
        · exact found

/-- If it succeeds, none of the sessions that it is given owns a route. -/
theorem removeExpiredRoutes_clears
    (self : ShortcutManager R) {keys : List SessionKey}
    (succeeded : (self.removeExpiredRoutes keys).2 = .ok ())
    {key : SessionKey} (member : key ∈ keys) {held : ManagedSession}
    (present : self.sessions.lookup key = some held) :
    (self.removeExpiredRoutes keys).1.activeRoutes.lookup
      held.ticket.selector ≠ some key := by
  induction keys generalizing self with
  | nil =>
      cases member
  | cons session rest inductionHypothesis =>
      rcases removeExpiredRoutes_cases self session rest with
        ⟨foreign, skipped⟩ | ⟨managed, found, _, ⟨error, _, outcome⟩ |
          ⟨_, outcome⟩⟩
      · rw [skipped] at succeeded ⊢
        rcases List.mem_cons.mp member with rfl | later
        · intro owns
          exact foreign held present (removeExpiredRoutes_shrinks _ _ owns)
        · exact inductionHypothesis self succeeded later present
      · rw [outcome] at succeeded
        cases succeeded
      · rw [outcome] at succeeded ⊢
        rcases List.mem_cons.mp member with rfl | later
        · intro owns
          have earlier := removeExpiredRoutes_shrinks _ _ owns
          rw [found] at present
          cases present
          simp at earlier
        · exact inductionHypothesis _ succeeded later present

theorem Owned.authenticatedHandshake
    {self : ShortcutManager R} (owned : Owned self)
    (session : SessionKey) (now : UInt64) :
    Owned (self.authenticatedHandshake session now).1 := by
  rcases authenticatedHandshake_cases self session now with
    ⟨⟨error, outcome⟩, _⟩ | ⟨outcome, _⟩ |
      ⟨managed, present, _, inactive, ⟨error, _, outcome⟩ | ⟨_, outcome⟩⟩
  · rw [outcome]
    exact owned
  · rw [outcome]
    exact owned
  · rw [outcome]
    exact owned
  · rw [outcome]
    intro selector owner found
    simp only [HashMap.lookup_insert_eq_ite] at found
    split at found
    · rename_i same
      cases found
      exact ⟨{ managed with phase := .active },
        Finmap.lookup_insert _, same.symm, rfl⟩
    · rename_i otherSelector
      obtain ⟨other, ownerPresent, matching, active⟩ :=
        owned selector owner found
      have notSession : owner ≠ session := by
        intro same
        rw [same, present] at ownerPresent
        cases ownerPresent
        exact inactive active
      have notPrevious :
          self.activeRoutes.lookup managed.ticket.selector ≠ some owner := by
        intro previous
        obtain ⟨again, againPresent, againMatching, _⟩ :=
          owned _ owner previous
        rw [ownerPresent] at againPresent
        cases againPresent
        exact otherSelector (matching.symm.trans againMatching)
      refine ⟨other, ?_, matching, active⟩
      simp only [HashMap.lookup_insert_eq_ite, lookup_drainPrevious]
      rw [if_neg notSession, if_neg fun both => notPrevious both.1]
      exact ownerPresent

theorem Owned.expire
    {self : ShortcutManager R} (owned : Owned self)
    (now : UInt64) (order : List SessionKey) :
    Owned (self.expire now order).1 := by
  have shrinks :
      ∀ selector owner,
        (self.removeExpiredRoutes
            (self.expiredSessions now order)).1.activeRoutes.lookup
              selector = some owner →
        self.activeRoutes.lookup selector = some owner :=
    fun _ _ => removeExpiredRoutes_shrinks self _
  rcases expire_cases self now order with
    ⟨error, _, outcome⟩ | ⟨succeeded, outcome⟩
  · rw [outcome]
    apply Owned.of_forgotten owned shrinks
    intro selector owner found
    rw [(removeExpiredRoutes_effect self _).2]
  · rw [outcome]
    refine Owned.of_forgotten owned shrinks ?_
    intro selector owner found
    obtain ⟨managed, present, matching, _⟩ :=
      owned selector owner (shrinks selector owner found)
    have unexpired : owner ∉ self.expiredSessions now order := by
      intro expired
      exact removeExpiredRoutes_clears self succeeded expired present
        (matching ▸ found)
    simp only [HashMap.lookup_eraseAll]
    rw [if_neg unexpired]

/-- The deactivation that `fail` would make, if it makes one, succeeds. -/
def FailRemovesRoute
    (self : ShortcutManager R) (session : SessionKey) : Prop :=
  ∀ managed,
    self.sessions.lookup session = some managed →
    self.activeRoutes.lookup managed.ticket.selector = some session →
    (RouteManager.deactivate self.routes managed.ticket.selector).2 = .ok ()

theorem fail_succeeds
    {self : ShortcutManager R} {session : SessionKey}
    (removes : FailRemovesRoute self session) (error : String) :
    (self.fail session).2.map Outcome.removed ≠ .error error := by
  intro failed
  rcases fail_cases self session with
    ⟨_, outcome⟩ | ⟨managed, present, ⟨_, outcome⟩ |
      ⟨owns, ⟨_, deactivation, _⟩ | ⟨_, outcome⟩⟩⟩
  · rw [outcome] at failed
    cases failed
  · rw [outcome] at failed
    cases failed
  · rw [removes managed present owns] at deactivation
    cases deactivation
  · rw [outcome] at failed
    cases failed

/-- A `fail` whose deactivation fails leaves a route that no session
tracks. -/
theorem fail_strands
    {self : ShortcutManager R} {session : SessionKey}
    (strands : ¬ FailRemovesRoute self session) :
    (∃ error, (self.fail session).2 = .error error) ∧
      (self.fail session).1.sessions.lookup session = none := by
  unfold FailRemovesRoute at strands
  push Not at strands
  obtain ⟨managed, present, owns, failing⟩ := strands
  rcases fail_cases self session with
    ⟨absent, _⟩ | ⟨other, otherPresent, ⟨foreign, _⟩ |
      ⟨_, ⟨error, _, outcome⟩ | ⟨succeeded, _⟩⟩⟩
  · rw [present] at absent
    cases absent
  · rw [present] at otherPresent
    cases otherPresent
    exact absurd owns foreign
  · rw [outcome]
    exact ⟨⟨error, rfl⟩, Finmap.lookup_erase _ _⟩
  · rw [present] at otherPresent
    cases otherPresent
    exact absurd succeeded failing

theorem Owned.fail
    {self : ShortcutManager R} (owned : Owned self)
    {session : SessionKey}
    (removes : FailRemovesRoute self session) :
    Owned (self.fail session).1 := by
  have ownsOnlyItsSelector :
      ∀ selector managed,
        self.sessions.lookup session = some managed →
        self.activeRoutes.lookup selector = some session →
        selector = managed.ticket.selector := by
    intro selector managed present found
    obtain ⟨other, otherPresent, matching, _⟩ := owned _ _ found
    rw [present] at otherPresent
    cases otherPresent
    exact matching.symm
  rcases fail_cases self session with
    ⟨_, outcome⟩ | ⟨managed, present, ⟨foreign, outcome⟩ |
      ⟨owns, ⟨error, failed, outcome⟩ | ⟨_, outcome⟩⟩⟩
  · rw [outcome]
    exact owned
  · rw [outcome]
    refine Owned.of_forgotten owned (fun _ _ found => found) ?_
    intro selector owner found
    have apart : owner ≠ session := by
      intro same
      rw [same] at found
      exact foreign (ownsOnlyItsSelector _ _ present found ▸ found)
    exact Finmap.lookup_erase_ne apart
  · rw [removes managed present owns] at failed
    cases failed
  · rw [outcome]
    refine Owned.of_forgotten owned ?_ ?_
    · intro selector owner found
      rw [HashMap.lookup_erase_eq_ite] at found
      split at found
      · cases found
      · exact found
    · intro selector owner found
      rw [HashMap.lookup_erase_eq_ite] at found
      split at found
      · cases found
      · rename_i otherSelector
        have apart : owner ≠ session := by
          intro same
          rw [same] at found
          exact otherSelector (ownsOnlyItsSelector _ _ present found)
        exact Finmap.lookup_erase_ne apart

/-- Every step keeps `Owned`, unless it is a `fail` whose deactivation
fails. -/
theorem Owned.step
    {self next : ShortcutManager R} {operation : Operation}
    {output : Except String Outcome}
    (owned : Owned self)
    (removes :
      ∀ session, operation = .fail session → FailRemovesRoute self session)
    (taken : self.step operation = some (next, output)) :
    Owned next := by
  have result := leaves_of_step taken
  cases operation with
  | receiveTicket ticket sender localKey now =>
      rw [result.1]
      exact owned.receiveTicket ticket sender localKey now
  | markHandshaking session =>
      rw [show next = _ from result]
      exact owned.markHandshaking session
  | authenticatedHandshake session now =>
      rw [result.1]
      exact owned.authenticatedHandshake session now
  | expire now order =>
      rw [result.2.1]
      exact owned.expire now order
  | retireDraining order =>
      rw [result.2]
      exact owned.retireDraining result.1
  | fail session =>
      rw [result.1]
      exact owned.fail (removes session rfl)

/-! ## Recorded owners are the installed routes -/

section Lawful

variable [LawfulRouteManager R]

/-- The installed routes. -/
def table (self : ShortcutManager R) : HashMap IpNet RouteTarget :=
  LawfulRouteManager.table self.routes

/-- The recorded owners are those of the installed routes. -/
def Synced (self : ShortcutManager R) : Prop :=
  ∀ selector,
    self.activeRoutes.lookup selector =
      (self.table.lookup selector).map RouteTarget.session

theorem Synced.of_new
    {routes : R} (clear : LawfulRouteManager.table routes = ∅) :
    Synced (new routes) := by
  intro selector
  change (∅ : HashMap IpNet SessionKey).lookup selector =
    ((LawfulRouteManager.table routes).lookup selector).map
      RouteTarget.session
  rw [clear, Finmap.lookup_empty, Finmap.lookup_empty]
  rfl

theorem RouteEffect.synced
    {Named : IpNet → Prop} {before after : ShortcutManager R}
    (effect : RouteEffect Named before after) (synced : Synced before) :
    Synced after := by
  induction effect with
  | idle sameRoutes sameOwners =>
      intro selector
      unfold table
      rw [sameOwners, sameRoutes]
      exact synced selector
  | activated selector session _ succeeded routes owners =>
      intro query
      unfold table
      rw [owners, routes, LawfulRouteManager.activate_ok _ _ _ succeeded,
        HashMap.lookup_insert_eq_ite, HashMap.lookup_insert_eq_ite]
      split
      · rfl
      · exact synced query
  | activationFailed selector session error _ failed routes owners =>
      intro query
      unfold table
      rw [owners, routes, LawfulRouteManager.activate_error _ _ _ _ failed]
      exact synced query
  | removed selector _ succeeded routes owners =>
      intro query
      unfold table
      rw [owners, routes, LawfulRouteManager.deactivate_ok _ _ succeeded,
        HashMap.lookup_erase_eq_ite, HashMap.lookup_erase_eq_ite]
      split
      · rfl
      · exact synced query
  | removalFailed selector error _ failed routes owners =>
      intro query
      unfold table
      rw [owners, routes, LawfulRouteManager.deactivate_error _ _ _ failed]
      exact synced query
  | trans _ _ first second =>
      exact second (first synced)

theorem Synced.owner
    {self : ShortcutManager R} (synced : Synced self)
    {selector : IpNet} {target : RouteTarget}
    (installed : self.table.lookup selector = some target) :
    self.activeRoutes.lookup selector = some target.session := by
  rw [synced selector, installed]
  rfl

/-- The machine of all operations over routes that are empty at the start. -/
abbrev runs :
    Machine (ShortcutManager R) Operation (Except String Outcome) :=
  machine fun routes : R => LawfulRouteManager.table routes = ∅

theorem synced_of_execution
    {log : List (Call R)} {final : ShortcutManager R}
    (execution : runs.Execution log final) :
    Synced final := by
  refine execution.state_invariant ?_ ?_
  · intro manager starts
    obtain ⟨routes, clear, rfl⟩ := starts
    exact Synced.of_new clear
  · intro record synced taken
    exact (step_effect (step_of_takes taken)).synced synced

/-! ## No route outlives its bookkeeping -/

/-- Every installed route belongs to a session that is still kept for its
selector, so that a later `fail` or `expire` tries the removal again. -/
def Tracked (self : ShortcutManager R) : Prop :=
  ∀ selector target,
    self.table.lookup selector = some target →
    self.activeRoutes.lookup selector = some target.session ∧
    ∃ managed,
      self.sessions.lookup target.session = some managed ∧
      managed.ticket.selector = selector

theorem Tracked.of_owned
    {self : ShortcutManager R}
    (synced : Synced self) (owned : Owned self) : Tracked self := by
  intro selector target installed
  have owner := synced.owner installed
  obtain ⟨managed, present, matching, _⟩ := owned _ _ owner
  exact ⟨owner, managed, present, matching⟩

/-- What a run owes the routes it installed: they stay tracked, a `fail` that
fails keeps its session and the owner entry, and an `expire` at the end of time
that succeeds leaves nothing behind. -/
structure NoStrandedRoute
    (log : List (Call R)) (final : ShortcutManager R) : Prop where
  tracked : Tracked final
  trackedBefore : ∀ record ∈ log, Tracked record.before
  failKeeps :
    ∀ record ∈ log, ∀ session error,
      record.input = .fail session →
      record.output = .error error →
      ∃ managed,
        record.after.sessions.lookup session = some managed ∧
        record.after.activeRoutes.lookup managed.ticket.selector =
          some session
  expireClears :
    ∀ record ∈ log, ∀ order outcome,
      record.input = .expire maxWord order →
      record.output = .ok outcome →
      record.after.table = ∅ ∧ record.after.activeRoutes = ∅

theorem expire_maxWord_clears
    {self : ShortcutManager R} {order expired : List SessionKey}
    (synced : Synced self) (owned : Owned self)
    (iterates : HashMap.Iterates order self.sessions)
    (succeeded : (self.expire maxWord order).2 = .ok expired) :
    (self.expire maxWord order).1.table = ∅ ∧
      (self.expire maxWord order).1.activeRoutes = ∅ := by
  have ownersGone :
      ∀ selector,
        (self.expire maxWord order).1.activeRoutes.lookup selector =
          none := by
    rcases expire_cases self maxWord order with
      ⟨error, _, outcome⟩ | ⟨removed, outcome⟩
    · rw [outcome] at succeeded
      cases succeeded
    · rw [outcome]
      intro selector
      by_contra remains
      obtain ⟨owner, found⟩ := Option.ne_none_iff_exists'.mp remains
      obtain ⟨managed, present, matching, _⟩ :=
        owned selector owner (removeExpiredRoutes_shrinks self _ found)
      have expires : owner ∈ self.expiredSessions maxWord order :=
        (mem_expiredSessions iterates owner).mpr
          ⟨managed, present, le_maxWord _⟩
      exact removeExpiredRoutes_clears self removed expires present
        (matching ▸ found)
  have syncedAfter := (expire_effect self maxWord order).synced synced
  constructor
  · apply Finmap.ext_lookup
    intro selector
    have unowned := ownersGone selector
    rw [syncedAfter selector, Option.map_eq_none_iff] at unowned
    rw [unowned, Finmap.lookup_empty]
  · apply Finmap.ext_lookup
    intro selector
    rw [ownersGone selector, Finmap.lookup_empty]

theorem owned_of_execution
    {log : List (Call R)} {final : ShortcutManager R}
    (execution : runs.Execution log final)
    (removes :
      ∀ record ∈ log, ∀ session,
        record.input = .fail session →
        FailRemovesRoute record.before session) :
    Owned final := by
  refine execution.invariant
    (fun manager started => ?_)
    (fun _ record owned meets taken =>
      Owned.step owned meets (step_of_takes taken))
    removes
  obtain ⟨routes, _, rfl⟩ := started
  exact Owned.of_new routes

/-- Routes never outlive their bookkeeping in a run exactly when no `fail` of
the run is called for the owner of a route whose deactivation then fails. -/
theorem noStrandedRoute_iff
    {log : List (Call R)} {final : ShortcutManager R}
    (execution : runs.Execution log final) :
    NoStrandedRoute log final ↔
      ∀ record ∈ log, ∀ session,
        record.input = .fail session →
        FailRemovesRoute record.before session := by
  constructor
  · intro kept record member session isFail
    by_contra strands
    obtain ⟨_, _, _, taken⟩ := execution.earlier_of_mem member
    have result := leaves_of_step (step_of_takes taken)
    rw [isFail] at result
    obtain ⟨⟨error, failed⟩, forgotten⟩ := fail_strands strands
    have output : record.output = .error error := by
      rw [result.2, failed]
      rfl
    obtain ⟨managed, present, _⟩ :=
      kept.failKeeps record member session error isFail output
    rw [result.1, forgotten] at present
    cases present
  · intro removes
    have earlier :
        ∀ record ∈ log,
          Synced record.before ∧ Owned record.before ∧
            record.before.step record.input =
              some (record.after, record.output) := by
      intro record member
      obtain ⟨older, within, before, taken⟩ :=
        execution.earlier_of_mem member
      exact ⟨synced_of_execution before,
        owned_of_execution before fun past pastMember =>
          removes past (within pastMember),
        taken⟩
    refine ⟨?_, ?_, ?_, ?_⟩
    · exact Tracked.of_owned (synced_of_execution execution)
        (owned_of_execution execution removes)
    · intro record member
      exact Tracked.of_owned (earlier record member).1
        (earlier record member).2.1
    · intro record member session error isFail failed
      obtain ⟨_, _, taken⟩ := earlier record member
      have result := leaves_of_step taken
      rw [isFail] at result
      rw [result.2] at failed
      exact absurd failed
        (fail_succeeds (removes record member session isFail) error)
    · intro record member order outcome isExpire succeeded
      obtain ⟨synced, owned, taken⟩ := earlier record member
      have result := leaves_of_step taken
      rw [isExpire] at result
      obtain ⟨iterates, after, output⟩ := result
      rw [output] at succeeded
      cases expired : (record.before.expire maxWord order).2 with
      | error error =>
          rw [expired] at succeeded
          cases succeeded
      | ok keys =>
          rw [after]
          exact expire_maxWord_clears synced owned iterates expired

end Lawful

/-! ## A fail that strands a route -/

/-- A route table whose next deactivations fail as scripted. -/
abbrev MockRoutes := Scripted (HashMap IpNet RouteTarget)

instance : RouteManager MockRoutes where
  activate routes selector target :=
    ({ routes with content := routes.content.insert selector target },
      .ok ())
  deactivate routes selector :=
    routes.call fun installed => installed.erase selector

instance : LawfulRouteManager MockRoutes where
  table := Scripted.content
  activate_ok _ _ _ _ := rfl
  activate_error _ _ _ _ failed := by cases failed
  deactivate_ok _ _ succeeded := Scripted.call_ok succeeded
  deactivate_error _ _ _ failed := Scripted.call_error failed

/-- A fresh manager over scripted routes. -/
def mockManager (refusals : List Bool) : ShortcutManager MockRoutes :=
  new ⟨∅, refusals⟩

theorem mockManager_starts (refusals : List Bool) :
    runs.start (mockManager refusals) :=
  ⟨⟨∅, refusals⟩, rfl, rfl⟩

/-- A session is activated and fails while its route cannot be removed; the
final `expire` succeeds. -/
def strandingCalls : List Operation :=
  [.receiveTicket (testTicket 1) "issuer" "recipient" 1001,
    .authenticatedHandshake (testTicket 1).session 1002,
    .fail (testTicket 1).session,
    .expire maxWord []]

theorem stranded_route_remains :
    ∃ log final,
      runs.Execution log (final : ShortcutManager MockRoutes) ∧
      ¬ NoStrandedRoute log final := by
  have ran :
      (runs.run (mockManager [true]) strandingCalls).map
        (fun result =>
          (result.2.table.lookup (testTicket 1).selector,
            result.2.sessions.lookup (testTicket 1).session)) =
        some (some ⟨(testTicket 1).session⟩, none) := by
    decide
  obtain ⟨log, final, execution, state⟩ :=
    Machine.exists_execution_of_run (mockManager_starts [true]) ran
  simp only [Prod.mk.injEq] at state
  refine ⟨log, final, execution, ?_⟩
  intro kept
  obtain ⟨_, managed, present, _⟩ := kept.tracked _ _ state.1
  rw [state.2] at present
  cases present

/-- The same calls with a deactivation that succeeds. -/
theorem noStrandedRoute_of_removed :
    ∃ log final,
      runs.Execution log (final : ShortcutManager MockRoutes) ∧
      log.length = 4 ∧ NoStrandedRoute log final := by
  have ran :
      (runs.run (mockManager []) strandingCalls).map
        (fun result =>
          result.1.map fun record => record.before.routes.refusals) =
        some [[], [], [], []] := by
    decide
  obtain ⟨log, final, execution, scripts⟩ :=
    Machine.exists_execution_of_run (mockManager_starts []) ran
  simp only at scripts
  have length : log.length = 4 := by
    simpa using congrArg List.length scripts
  refine ⟨log, final, execution, length,
    (noStrandedRoute_iff execution).mpr ?_⟩
  intro record member session _ managed _ _
  have scripted : record.before.routes.refusals ∈ [[], [], [], []] :=
    scripts ▸ List.mem_map_of_mem member
  have willing : record.before.routes.refusals = [] := by
    simpa using scripted
  exact Scripted.call_of_willing willing

end WgLink.ShortcutManager
