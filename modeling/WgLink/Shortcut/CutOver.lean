import WgLink.Shortcut.RouteOwnership

/-!
# Cutting over from one session to another

A manager whose sessions are all for one selector.  Activating a session and
retiring what it replaces leaves that session as the owner, drops the session
that owned the selector before, and touches no other.
-/

namespace WgLink

open WgLink.Library

namespace ShortcutManager

variable {R : Type}

/-- All sessions are for one selector, are good until the deadline, and the
active one owns the selector. -/
structure OneSelector
    (manager : ShortcutManager R) (selector : IpNet) (deadline : UInt64) :
    Prop where
  tickets :
    ∀ session managed,
      manager.sessions.lookup session = some managed →
      managed.ticket.selector = selector ∧
        deadline ≤ managed.ticket.expiresAt
  undrained : ∀ session, manager.phase session ≠ some .draining
  owner :
    ∀ session,
      manager.activeRoutes.lookup selector = some session ↔
        manager.phase session = some .active
  alone :
    ∀ other, other ≠ selector → manager.activeRoutes.lookup other = none

/-- What is left of the sessions when a new one has taken the selector over. -/
def CutsOver
    (before after : ShortcutManager R) (selector : IpNet)
    (session : SessionKey) : Prop :=
  after.activeRoutes = before.activeRoutes.insert selector session ∧
    ∀ query,
      after.phase query =
        if query = session then
          some .active
        else if before.activeRoutes.lookup selector = some query then
          none
        else
          before.phase query

theorem OneSelector.cutsOver
    {self next : ShortcutManager R} {selector : IpNet} {deadline : UInt64}
    (one : self.OneSelector selector deadline) {session : SessionKey}
    (cuts : self.CutsOver next selector session)
    (keeps : KeepsTickets self next) :
    next.OneSelector selector deadline := by
  obtain ⟨routes, phases⟩ := cuts
  constructor
  · intro query managed present
    obtain ⟨earlier, found, sameTicket⟩ := keeps query managed present
    rw [sameTicket]
    exact one.tickets query earlier found
  · intro query
    rw [phases]
    split
    · simp
    · split
      · simp
      · exact one.undrained query
  · intro query
    rw [routes, Finmap.lookup_insert, phases]
    by_cases same : query = session
    · simp [same]
    · have notOwner : some session ≠ some query :=
        fun equal => same (Option.some.inj equal).symm
      rw [if_neg same]
      apply iff_of_false notOwner
      split
      · simp
      · rename_i previous
        rwa [← one.owner]
  · intro other apart
    rw [routes, Finmap.lookup_insert_of_ne _ apart]
    exact one.alone other apart

/-- Retiring drops the sessions that drain. -/
theorem phase_retireDraining
    {self : ShortcutManager R} {order : List SessionKey}
    (iterates : HashMap.Iterates order self.sessions) (query : SessionKey) :
    (self.retireDraining order).1.phase query =
      if self.phase query = some .draining then
        none
      else
        self.phase query := by
  have retired :
      query ∈ self.drainingSessions order ↔
        self.phase query = some .draining := by
    rw [mem_drainingSessions iterates, phase, Option.map_eq_some_iff]
  have lookup :=
    HashMap.lookup_eraseAll self.sessions (self.drainingSessions order) query
  change Option.map ManagedSession.phase
    ((HashMap.eraseAll self.sessions
      (self.drainingSessions order)).lookup query) = _
  rw [lookup]
  by_cases draining : query ∈ self.drainingSessions order
  · rw [if_pos draining, if_pos (retired.mp draining)]
    rfl
  · rw [if_neg draining, if_neg fun drains => draining (retired.mpr drains)]
    rfl

variable [RouteManager R]

/-- The handshake of an endpoint that activates its session cuts over to it. -/
theorem OneSelector.activated
    {self : ShortcutManager R} {selector : IpNet} {deadline : UInt64}
    (one : self.OneSelector selector deadline)
    {session : SessionKey} {now : UInt64} {order : List SessionKey}
    (iterates :
      HashMap.Iterates order
        (self.authenticatedHandshake session now).1.sessions)
    (activated : (self.authenticatedHandshake session now).2 = .ok true) :
    self.sessions.lookup session ≠ none ∧
      self.CutsOver
        ((self.authenticatedHandshake session now).1.retireDraining order).1
        selector session := by
  rcases authenticatedHandshake_cases self session now with
    ⟨⟨error, outcome⟩, _⟩ | ⟨outcome, _⟩ |
      ⟨managed, present, _, _, ⟨error, _, outcome⟩ | ⟨_, outcome⟩⟩
  · rw [outcome] at activated
    cases activated
  · rw [outcome] at activated
    cases activated
  · rw [outcome] at activated
    cases activated
  · obtain ⟨rfl, _⟩ := one.tickets session managed present
    refine ⟨by simp [present], ?_, ?_⟩
    · rw [outcome]
      rfl
    · intro query
      rw [phase_retireDraining iterates, outcome]
      simp only [phase, HashMap.lookup_insert_eq_ite, lookup_drainPrevious]
      by_cases same : query = session
      · simp [same]
      · simp only [same, if_false, ne_eq, not_false_eq_true, and_true]
        by_cases owner :
            self.activeRoutes.lookup managed.ticket.selector = some query
        · simp only [owner, if_true]
          cases self.sessions.lookup query <;> simp
        · simp only [owner, if_false]
          exact if_neg (one.undrained query)

theorem handshake_retire_keepsTickets
    (self : ShortcutManager R) (session : SessionKey) (now : UInt64)
    (order : List SessionKey) :
    KeepsTickets self
      ((self.authenticatedHandshake session now).1.retireDraining
        order).1 := by
  intro query managed present
  obtain ⟨kept, found, sameTicket⟩ :=
    @KeepsTickets.of_erased R (self.authenticatedHandshake session now).1 _ _
      rfl query managed present
  obtain ⟨earlier, earlierFound, earlierTicket⟩ :=
    authenticatedHandshake_keepsTickets self session now query kept found
  exact ⟨earlier, earlierFound, sameTicket.trans earlierTicket⟩

/-- A handshake of an endpoint is rejected only when its session is gone. -/
theorem OneSelector.rejected
    {self : ShortcutManager R} {selector : IpNet} {deadline : UInt64}
    (one : self.OneSelector selector deadline)
    {session : SessionKey} {now : UInt64} (early : now < deadline)
    (willing :
      ∀ managed,
        self.sessions.lookup session = some managed →
        (RouteManager.activate self.routes managed.ticket.selector
          ⟨session⟩).2 = .ok ())
    {error : String}
    (rejected :
      (self.authenticatedHandshake session now).2 = .error error) :
    self.sessions.lookup session = none ∧
      ((self.authenticatedHandshake session now).1.fail session).1 =
        self := by
  rcases authenticatedHandshake_cases self session now with
    ⟨⟨_, outcome⟩, late⟩ | ⟨outcome, _⟩ |
      ⟨managed, present, _, _, ⟨_, refused, _⟩ | ⟨_, outcome⟩⟩
  · have absent : self.sessions.lookup session = none := by
      cases present : self.sessions.lookup session with
      | none =>
          rfl
      | some managed =>
          have bound := (one.tickets session managed present).2
          have passed := late managed present
          exact absurd (UInt64.lt_of_lt_of_le early bound)
            (UInt64.not_lt.mpr passed)
    refine ⟨absent, ?_⟩
    rw [outcome]
    rcases fail_cases self session with
      ⟨_, unchanged⟩ | ⟨managed, present, _⟩
    · rw [unchanged]
    · rw [absent] at present
      cases present
  · rw [outcome] at rejected
    cases rejected
  · rw [willing managed present] at refused
    cases refused
  · rw [outcome] at rejected
    cases rejected

end ShortcutManager

end WgLink
