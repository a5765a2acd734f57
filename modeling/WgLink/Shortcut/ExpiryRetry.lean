import WgLink.Shortcut.RouteOwnership

/-!
# Retrying an expiry

`expire` removes the routes of the expired sessions one by one before it drops
any session.  When a removal fails, the routes removed so far are gone and the
sessions are all there, and a later call finishes the work as if the first one
had not been made.
-/

namespace WgLink

open WgLink.Library

namespace ShortcutManager

variable {R S : Type}

/-- The owner of the selector is one of the sessions and has it in its
ticket. -/
def RemovesRoute
    (self : ShortcutManager R) (keys : List SessionKey) (selector : IpNet) :
    Prop :=
  ∃ session ∈ keys, ∃ managed,
    self.sessions.lookup session = some managed ∧
    managed.ticket.selector = selector ∧
    self.activeRoutes.lookup selector = some session

/-- The owner of the selector is a session for it whose lease has ended. -/
def OwnerExpired
    (self : ShortcutManager R) (now : UInt64) (selector : IpNet) : Prop :=
  ∃ session managed,
    self.activeRoutes.lookup selector = some session ∧
    self.sessions.lookup session = some managed ∧
    managed.ticket.selector = selector ∧
    managed.ticket.expiresAt ≤ now

theorem removesRoute_expiredSessions
    {self : ShortcutManager R} {now : UInt64} {order : List SessionKey}
    (iterates : HashMap.Iterates order self.sessions) (selector : IpNet) :
    self.RemovesRoute (self.expiredSessions now order) selector ↔
      self.OwnerExpired now selector := by
  constructor
  · intro removes
    obtain ⟨session, member, managed, present, matching, owner⟩ := removes
    obtain ⟨other, found, late⟩ := (mem_expiredSessions iterates _).mp member
    rw [present] at found
    cases found
    exact ⟨session, managed, owner, present, matching, late⟩
  · intro expired
    obtain ⟨session, managed, owner, present, matching, late⟩ := expired
    have member : session ∈ self.expiredSessions now order :=
      (mem_expiredSessions iterates _).mpr ⟨managed, present, late⟩
    exact ⟨session, member, managed, present, matching, owner⟩

section Loop

variable {self : ShortcutManager R} {session : SessionKey}
  {rest : List SessionKey} {selector : IpNet}

/-- A session that owns no route adds nothing to what the loop removes. -/
theorem removesRoute_cons_of_idle
    (idle :
      ∀ managed, self.sessions.lookup session = some managed →
        self.activeRoutes.lookup managed.ticket.selector ≠ some session) :
    self.RemovesRoute (session :: rest) selector ↔
      self.RemovesRoute rest selector := by
  constructor
  · intro removes
    obtain ⟨key, member, managed, present, matching, owner⟩ := removes
    rcases List.mem_cons.mp member with same | later
    · subst same
      subst matching
      exact absurd owner (idle managed present)
    · exact ⟨key, later, managed, present, matching, owner⟩
  · intro removes
    obtain ⟨key, member, found⟩ := removes
    exact ⟨key, List.mem_cons_of_mem _ member, found⟩

/-- With the route of the first session gone, the rest of the loop removes
what it would have removed otherwise. -/
theorem removesRoute_cons_of_owner
    {managed : ManagedSession} {routes : R}
    (present : self.sessions.lookup session = some managed)
    (owner :
      self.activeRoutes.lookup managed.ticket.selector = some session) :
    self.RemovesRoute (session :: rest) selector ↔
      selector = managed.ticket.selector ∨
        RemovesRoute
          { self with
            routes
            activeRoutes :=
              self.activeRoutes.erase managed.ticket.selector }
          rest selector := by
  constructor
  · intro removes
    obtain ⟨key, member, other, found, matching, owned⟩ := removes
    by_cases same : selector = managed.ticket.selector
    · exact Or.inl same
    · right
      have later : key ∈ rest := by
        rcases List.mem_cons.mp member with first | later
        · subst first
          rw [present] at found
          cases found
          exact absurd matching.symm same
        · exact later
      refine ⟨key, later, other, found, matching, ?_⟩
      simp only [HashMap.lookup_erase_eq_ite]
      rw [if_neg same]
      exact owned
  · intro removes
    rcases removes with same | removes
    · subst same
      exact ⟨session, List.mem_cons_self, managed, present, rfl, owner⟩
    · obtain ⟨key, member, other, found, matching, owned⟩ := removes
      simp only [HashMap.lookup_erase_eq_ite] at owned
      split at owned
      · cases owned
      · exact ⟨key, List.mem_cons_of_mem _ member, other, found, matching,
          owned⟩

end Loop

/-- Two managers that track the same sessions, where the first may have lost
owners that expire anyway. -/
structure PartlyExpired
    (partly : ShortcutManager R) (whole : ShortcutManager S) (now : UInt64) :
    Prop where
  sessions : partly.sessions = whole.sessions
  activeRoutes :
    ∀ selector,
      partly.activeRoutes.lookup selector =
          whole.activeRoutes.lookup selector ∨
        whole.OwnerExpired now selector ∧
          partly.activeRoutes.lookup selector = none

theorem OwnerExpired.later
    {self : ShortcutManager R} {now later : UInt64} {selector : IpNet}
    (expired : self.OwnerExpired now selector) (notEarlier : now ≤ later) :
    self.OwnerExpired later selector := by
  obtain ⟨session, managed, owner, present, matching, late⟩ := expired
  exact ⟨session, managed, owner, present, matching,
    UInt64.le_trans late notEarlier⟩

/-- The same sessions and owners over other routes. -/
def withRoutes (self : ShortcutManager R) (routes : S) : ShortcutManager S where
  routes
  sessions := self.sessions
  activeRoutes := self.activeRoutes

variable [RouteManager R]

/-- The loop forgets owners of routes that it removes and no others. -/
theorem removeExpiredRoutes_keeps_or_removes
    (self : ShortcutManager R) (keys : List SessionKey) (selector : IpNet) :
    (self.removeExpiredRoutes keys).1.activeRoutes.lookup selector =
        self.activeRoutes.lookup selector ∨
      self.RemovesRoute keys selector ∧
        (self.removeExpiredRoutes keys).1.activeRoutes.lookup selector =
          none := by
  induction keys generalizing self with
  | nil =>
      exact Or.inl rfl
  | cons session rest inductionHypothesis =>
      rcases removeExpiredRoutes_cases self session rest with
        ⟨idle, skipped⟩ | ⟨managed, present, owner, ⟨error, _, outcome⟩ |
          ⟨_, outcome⟩⟩
      · rw [skipped, removesRoute_cons_of_idle idle]
        exact inductionHypothesis self
      · rw [outcome]
        exact Or.inl rfl
      · rw [outcome, removesRoute_cons_of_owner present owner]
        rcases inductionHypothesis _ with kept | ⟨removes, gone⟩
        · rw [kept]
          simp only [HashMap.lookup_erase_eq_ite]
          by_cases same : selector = managed.ticket.selector
          · right
            exact ⟨Or.inl same, if_pos same⟩
          · left
            exact if_neg same
        · exact Or.inr ⟨Or.inr removes, gone⟩

/-- A loop that ends well has forgotten all of them. -/
theorem removeExpiredRoutes_removes
    {self : ShortcutManager R} {keys : List SessionKey} {selector : IpNet}
    (finished : (self.removeExpiredRoutes keys).2 = .ok ())
    (removes : self.RemovesRoute keys selector) :
    (self.removeExpiredRoutes keys).1.activeRoutes.lookup selector =
      none := by
  induction keys generalizing self with
  | nil =>
      obtain ⟨_, member, _⟩ := removes
      cases member
  | cons session rest inductionHypothesis =>
      rcases removeExpiredRoutes_cases self session rest with
        ⟨idle, skipped⟩ | ⟨managed, present, owner, ⟨error, _, outcome⟩ |
          ⟨_, outcome⟩⟩
      · rw [skipped] at finished ⊢
        exact inductionHypothesis finished
          ((removesRoute_cons_of_idle idle).mp removes)
      · rw [outcome] at finished
        cases finished
      · rw [outcome] at finished ⊢
        rcases (removesRoute_cons_of_owner present owner).mp removes with
          same | later
        · subst same
          rcases removeExpiredRoutes_keeps_or_removes
              { self with
                routes :=
                  (RouteManager.deactivate self.routes
                    managed.ticket.selector).1
                activeRoutes :=
                  self.activeRoutes.erase managed.ticket.selector }
              rest managed.ticket.selector with
            kept | ⟨_, gone⟩
          · rw [kept]
            exact Finmap.lookup_erase _ _
          · exact gone
        · exact inductionHypothesis finished later

/-! ## What a call leaves -/

/-- What a call that ends well leaves of the owners. -/
theorem lookup_activeRoutes_of_expired
    {self : ShortcutManager R} {now : UInt64}
    {order expired : List SessionKey}
    (iterates : HashMap.Iterates order self.sessions)
    (succeeded : (self.expire now order).2 = .ok expired)
    (selector : IpNet) :
    (self.OwnerExpired now selector →
      (self.expire now order).1.activeRoutes.lookup selector = none) ∧
    (¬ self.OwnerExpired now selector →
      (self.expire now order).1.activeRoutes.lookup selector =
        self.activeRoutes.lookup selector) := by
  rcases expire_cases self now order with
    ⟨error, _, outcome⟩ | ⟨finished, outcome⟩
  · rw [outcome] at succeeded
    cases succeeded
  · rw [outcome, ← removesRoute_expiredSessions iterates]
    constructor
    · intro removes
      exact removeExpiredRoutes_removes finished removes
    · intro keeps
      rcases removeExpiredRoutes_keeps_or_removes self
          (self.expiredSessions now order) selector with
        kept | ⟨removes, _⟩
      · exact kept
      · exact absurd removes keeps

/-- What a call that ends well leaves of the sessions, and what it returns. -/
theorem lookup_sessions_of_expired
    {self : ShortcutManager R} {now : UInt64}
    {order expired : List SessionKey}
    (succeeded : (self.expire now order).2 = .ok expired) :
    expired = self.expiredSessions now order ∧
      (self.expire now order).1.sessions =
        HashMap.eraseAll self.sessions expired := by
  rcases expire_cases self now order with
    ⟨error, _, outcome⟩ | ⟨_, outcome⟩
  · rw [outcome] at succeeded
    cases succeeded
  · rw [outcome] at succeeded ⊢
    cases succeeded
    exact ⟨rfl, rfl⟩

/-- A call that fails keeps every session. -/
theorem sessions_of_failed
    {self : ShortcutManager R} {now : UInt64} {order : List SessionKey}
    {error : String}
    (failed : (self.expire now order).2 = .error error) :
    (self.expire now order).1.sessions = self.sessions := by
  rcases expire_cases self now order with
    ⟨other, _, outcome⟩ | ⟨_, outcome⟩
  · rw [outcome]
    exact (removeExpiredRoutes_effect self _).2
  · rw [outcome] at failed
    cases failed

/-- A call that fails has only removed routes of expired owners. -/
theorem activeRoutes_of_failed
    {self : ShortcutManager R} {now : UInt64} {order : List SessionKey}
    {error : String}
    (iterates : HashMap.Iterates order self.sessions)
    (failed : (self.expire now order).2 = .error error) (selector : IpNet) :
    (self.expire now order).1.activeRoutes.lookup selector =
        self.activeRoutes.lookup selector ∨
      self.OwnerExpired now selector ∧
        (self.expire now order).1.activeRoutes.lookup selector = none := by
  rcases expire_cases self now order with
    ⟨other, _, outcome⟩ | ⟨_, outcome⟩
  · rw [outcome, ← removesRoute_expiredSessions iterates]
    exact removeExpiredRoutes_keeps_or_removes self _ selector
  · rw [outcome] at failed
    cases failed

/-! ## The retry -/

/-- Managers that differ by expired owners only expire to the same sessions
and owners, in whatever order they visit the sessions. -/
theorem PartlyExpired.expire_eq
    [RouteManager S]
    {partly : ShortcutManager R} {whole : ShortcutManager S} {now : UInt64}
    {partlyOrder wholeOrder partlyExpired wholeExpired : List SessionKey}
    (related : PartlyExpired partly whole now)
    (partlyIterates : HashMap.Iterates partlyOrder partly.sessions)
    (wholeIterates : HashMap.Iterates wholeOrder whole.sessions)
    (partlySucceeded :
      (partly.expire now partlyOrder).2 = .ok partlyExpired)
    (wholeSucceeded : (whole.expire now wholeOrder).2 = .ok wholeExpired) :
    (partly.expire now partlyOrder).1.sessions =
        (whole.expire now wholeOrder).1.sessions ∧
      (partly.expire now partlyOrder).1.activeRoutes =
        (whole.expire now wholeOrder).1.activeRoutes ∧
      ∀ session, session ∈ partlyExpired ↔ session ∈ wholeExpired := by
  obtain ⟨partlyKeys, partlySessions⟩ :=
    lookup_sessions_of_expired partlySucceeded
  obtain ⟨wholeKeys, wholeSessions⟩ :=
    lookup_sessions_of_expired wholeSucceeded
  have sameKeys :
      ∀ session, session ∈ partlyExpired ↔ session ∈ wholeExpired := by
    intro session
    rw [partlyKeys, wholeKeys, mem_expiredSessions partlyIterates,
      mem_expiredSessions wholeIterates, related.sessions]
  refine ⟨?_, ?_, sameKeys⟩
  · apply Finmap.ext_lookup
    intro session
    rw [partlySessions, wholeSessions, HashMap.lookup_eraseAll,
      HashMap.lookup_eraseAll, related.sessions]
    simp only [sameKeys]
  · apply Finmap.ext_lookup
    intro selector
    obtain ⟨wholeGone, wholeKept⟩ :=
      lookup_activeRoutes_of_expired wholeIterates wholeSucceeded selector
    obtain ⟨partlyGone, partlyKept⟩ :=
      lookup_activeRoutes_of_expired partlyIterates partlySucceeded selector
    rcases related.activeRoutes selector with same | ⟨expired, missing⟩
    · have sameOwner :
          partly.OwnerExpired now selector ↔
            whole.OwnerExpired now selector := by
        unfold OwnerExpired
        rw [same, related.sessions]
      by_cases expired : whole.OwnerExpired now selector
      · rw [wholeGone expired, partlyGone (sameOwner.mpr expired)]
      · have current : ¬ partly.OwnerExpired now selector :=
          fun other => expired (sameOwner.mp other)
        rw [wholeKept expired, partlyKept current, same]
    · have current : ¬ partly.OwnerExpired now selector := by
        intro other
        obtain ⟨session, _, owner, _⟩ := other
        rw [missing] at owner
        cases owner
      rw [wholeGone expired, partlyKept current, missing]

theorem partlyExpired_of_failed
    {self : ShortcutManager R} {now later : UInt64} {order : List SessionKey}
    {error : String}
    (iterates : HashMap.Iterates order self.sessions)
    (failed : (self.expire now order).2 = .error error)
    (notEarlier : now ≤ later) (routes : S) :
    PartlyExpired (self.expire now order).1 (self.withRoutes routes)
      later := by
  constructor
  · exact sessions_of_failed failed
  · intro selector
    rcases activeRoutes_of_failed iterates failed selector with
      same | ⟨expired, missing⟩
    · exact Or.inl same
    · exact Or.inr ⟨expired.later notEarlier, missing⟩

/-- An `expire` that fails keeps the sessions, and a later one whose
deactivations succeed returns, and leaves and returns what a single call on the
original sessions and owners, over any routes and with deactivations that
succeed, leaves and returns. -/
theorem expire_retried
    [RouteManager S] (self : ShortcutManager R) {now later : UInt64}
    {order : List SessionKey} {error : String}
    (iterates : HashMap.Iterates order self.sessions)
    (failed : (self.expire now order).2 = .error error)
    (notEarlier : now ≤ later) :
    (self.expire now order).1.sessions = self.sessions ∧
    ∀ (retryOrder : List SessionKey) (routes : S)
      (wholeOrder : List SessionKey),
      HashMap.Iterates retryOrder (self.expire now order).1.sessions →
      (self.expire now order).1.ExpireRemovesRoutes later retryOrder →
      HashMap.Iterates wholeOrder self.sessions →
      (self.withRoutes routes).ExpireRemovesRoutes later wholeOrder →
      ∃ retried expired,
        ((self.expire now order).1.expire later retryOrder).2 =
            .ok retried ∧
          ((self.withRoutes routes).expire later wholeOrder).2 =
            .ok expired ∧
          ((self.expire now order).1.expire later retryOrder).1.sessions =
            ((self.withRoutes routes).expire later wholeOrder).1.sessions ∧
          ((self.expire now order).1.expire later
              retryOrder).1.activeRoutes =
            ((self.withRoutes routes).expire later
              wholeOrder).1.activeRoutes ∧
          ∀ session, session ∈ retried ↔ session ∈ expired := by
  refine ⟨sessions_of_failed failed, ?_⟩
  intro retryOrder routes wholeOrder retryIterates retryRemoves
    wholeIterates wholeRemoves
  have retrySucceeded := (expire_ok_iff _ later retryOrder).mpr retryRemoves
  have wholeSucceeded := (expire_ok_iff _ later wholeOrder).mpr wholeRemoves
  refine ⟨_, _, retrySucceeded, wholeSucceeded, ?_⟩
  exact (partlyExpired_of_failed iterates failed notEarlier routes).expire_eq
    retryIterates wholeIterates retrySucceeded wholeSucceeded

/-- Two active sessions; the next deactivations fail as scripted. -/
def twoActive (refusals : List Bool) : ShortcutManager MockRoutes where
  routes := ⟨∅, refusals⟩
  sessions :=
    ((∅ : HashMap _ _).insert (testTicket 1).session
      ⟨testTicket 1, .active⟩).insert (testTicket 2).session
        ⟨{ testTicket 2 with selector := .v4 0xC6336408#32 (Fin.last 32) },
          .active⟩
  activeRoutes :=
    ((∅ : HashMap _ _).insert (testTicket 1).selector
      (testTicket 1).session).insert (.v4 0xC6336408#32 (Fin.last 32))
        (testTicket 2).session

/-- The second of two removals fails, and the call is made again in the other
order. -/
theorem expire_retried_twoActive :
    ((twoActive [false, true]).expire 1180
        [(testTicket 1).session, (testTicket 2).session]).2.isOk = false ∧
      (((twoActive [false, true]).expire 1180
          [(testTicket 1).session, (testTicket 2).session]).1.expire 1181
        [(testTicket 2).session, (testTicket 1).session]).1.activeRoutes =
      ((twoActive []).expire 1181
        [(testTicket 1).session, (testTicket 2).session]).1.activeRoutes := by
  have iterates :
      HashMap.Iterates [(testTicket 1).session, (testTicket 2).session]
        (twoActive [false, true]).sessions := by
    decide
  have failed :
      ((twoActive [false, true]).expire 1180
        [(testTicket 1).session, (testTicket 2).session]).2 =
          .error "injected failure" := by
    decide
  have notEarlier : (1180 : UInt64) ≤ 1181 := by
    decide
  obtain ⟨_, retried⟩ :=
    @expire_retried MockRoutes MockRoutes _ _ (twoActive [false, true]) _ _
      _ _ iterates failed notEarlier
  obtain ⟨_, _, _, _, _, sameOwners, _⟩ :=
    retried [(testTicket 2).session, (testTicket 1).session] ⟨∅, []⟩
      [(testTicket 1).session, (testTicket 2).session] (by decide)
      ((expire_ok_iff _ _ _).mp (by decide)) iterates
      ((expire_ok_iff _ _ _).mp (by decide))
  exact ⟨by decide, sameOwners⟩

end ShortcutManager

end WgLink
