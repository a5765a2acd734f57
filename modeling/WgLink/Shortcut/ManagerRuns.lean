import WgLink.Library.Machine
import WgLink.Shortcut.State

/-!
# Runs of the shortcut manager

The six operations as one machine, and what each of them can do to the
sessions, to the owners recorded in `activeRoutes` and to the route table.
Every later invariant is derived from the case lemmas here and does not unfold
an operation again.
-/

namespace WgLink

open WgLink.Library

/-- A call of the manager.  The loops of `expire` and `retireDraining` carry
the order in which they visit the sessions. -/
inductive Operation where
  | receiveTicket (ticket : ShortcutTicket)
      (authenticatedSender localPublicKey : String) (now : UInt64)
  | markHandshaking (session : SessionKey)
  | authenticatedHandshake (session : SessionKey) (now : UInt64)
  | expire (now : UInt64) (order : List SessionKey)
  | retireDraining (order : List SessionKey)
  | fail (session : SessionKey)
deriving DecidableEq

/-- What a call returns when it succeeds. -/
inductive Outcome where
  | prepared (shortcut : PreparedShortcut)
  | done
  | activated (changed : Bool)
  | sessions (keys : List SessionKey)
  | removed (present : Bool)
deriving DecidableEq

/-- The steps of manager runs. -/
abbrev Call (R : Type) :=
  Record (ShortcutManager R) Operation (Except String Outcome)

namespace ShortcutManager

variable {R : Type}

/-! ## What each operation can do -/

theorem receiveTicket_cases
    (self : ShortcutManager R) (ticket : ShortcutTicket)
    (sender localKey : String) (now : UInt64) :
    (∃ error,
      self.receiveTicket ticket sender localKey now = (self, .error error)) ∨
    (∃ existing,
      self.sessions.lookup ticket.session = some existing ∧
      ticket.validate now = .ok () ∧
      self.receiveTicket ticket sender localKey now =
        (self, .ok ⟨ticket.session, existing.ticket, true⟩)) ∨
    (self.sessions.lookup ticket.session = none ∧
      ticket.validate now = .ok () ∧
      ticket.issuerPublicKey = sender ∧
      ticket.recipientPublicKey = localKey ∧
      self.receiveTicket ticket sender localKey now =
        ({ self with
            sessions :=
              self.sessions.insert ticket.session ⟨ticket, .prepared⟩ },
          .ok ⟨ticket.session, ticket, false⟩)) := by
  unfold receiveTicket
  cases valid : ticket.validate now with
  | error error =>
      exact Or.inl ⟨error, rfl⟩
  | ok =>
      by_cases issuer : ticket.issuerPublicKey = sender
      · by_cases recipient : ticket.recipientPublicKey = localKey
        · cases present : self.sessions.lookup ticket.session with
          | none =>
              exact Or.inr <| Or.inr
                ⟨rfl, rfl, issuer, recipient, by simp [issuer, recipient]⟩
          | some existing =>
              by_cases conflict :
                  existing.ticket.selector ≠ ticket.selector ∨
                    existing.ticket.remotePublicKey ≠ ticket.remotePublicKey
              · exact Or.inl ⟨_, by
                  simp only [issuer, recipient, ne_eq, not_true_eq_false,
                    if_false]
                  rw [if_pos conflict]⟩
              · exact Or.inr <| Or.inl
                  ⟨existing, rfl, rfl, by
                    simp only [issuer, recipient, ne_eq, not_true_eq_false,
                      if_false]
                    rw [if_neg conflict]⟩
        · exact Or.inl ⟨_, by
            simp only [issuer, ne_eq, not_true_eq_false, if_false]
            rw [if_pos recipient]⟩
      · exact Or.inl ⟨_, by simp only [ne_eq]; rw [if_pos issuer]⟩

theorem markHandshaking_cases
    (self : ShortcutManager R) (session : SessionKey) :
    (self.markHandshaking session).1 = self ∨
    (∃ managed,
      self.sessions.lookup session = some managed ∧
      managed.phase = .prepared ∧
      (self.markHandshaking session).1 =
        { self with
          sessions :=
            self.sessions.insert session
              { managed with phase := .handshaking } }) := by
  unfold markHandshaking
  cases present : self.sessions.lookup session with
  | none =>
      exact Or.inl rfl
  | some managed =>
      by_cases fresh : managed.phase = .prepared
      · exact Or.inr ⟨managed, rfl, fresh, by simp [fresh]⟩
      · exact Or.inl (by simp [fresh])

/-! ## Sessions keep their tickets -/

/-- Letting go of the previous owner changes its phase and nothing else. -/
theorem lookup_drainPrevious
    (sessions : HashMap SessionKey ManagedSession)
    (previous : Option SessionKey) (session query : SessionKey) :
    (drainPrevious sessions previous session).lookup query =
      if previous = some query ∧ query ≠ session then
        (sessions.lookup query).map fun old =>
          { old with phase := .draining }
      else
        sessions.lookup query := by
  unfold drainPrevious
  cases previous with
  | none =>
      simp
  | some owner =>
      by_cases same : owner = session
      · subst same
        by_cases here : owner = query
        · simp [here]
        · simp [here]
      · simp only [same, if_false, Option.some.injEq]
        by_cases here : owner = query
        · subst here
          cases found : sessions.lookup owner with
          | none =>
              simp [same, found]
          | some old =>
              simp [same, Finmap.lookup_insert]
        · have apart : query ≠ owner := fun equality => here equality.symm
          cases found : sessions.lookup owner with
          | none =>
              simp [here]
          | some old =>
              simp [here, apart]

/-- A session that is there after a step was there before it with the same
ticket, or the step accepted it. -/
def KeepsTickets (before after : ShortcutManager R) : Prop :=
  ∀ session managed,
    after.sessions.lookup session = some managed →
    ∃ earlier,
      before.sessions.lookup session = some earlier ∧
      managed.ticket = earlier.ticket

theorem KeepsTickets.of_sessions_eq
    {before after : ShortcutManager R}
    (same : after.sessions = before.sessions) :
    KeepsTickets before after := by
  intro session managed found
  rw [same] at found
  exact ⟨managed, found, rfl⟩

theorem KeepsTickets.of_erased
    {before after : ShortcutManager R} {keys : List SessionKey}
    (erased :
      after.sessions = HashMap.eraseAll before.sessions keys) :
    KeepsTickets before after := by
  intro session managed found
  rw [erased, HashMap.lookup_eraseAll] at found
  split at found
  · cases found
  · exact ⟨managed, found, rfl⟩

theorem KeepsTickets.of_updated
    {before after : ShortcutManager R}
    {key : SessionKey} {managed : ManagedSession} {phase : SessionPhase}
    (present : before.sessions.lookup key = some managed)
    (updated :
      after.sessions =
        before.sessions.insert key { managed with phase := phase }) :
    KeepsTickets before after := by
  intro session other found
  rw [updated, HashMap.lookup_insert_eq_ite] at found
  split at found
  · rename_i same
    cases found
    exact ⟨managed, same ▸ present, rfl⟩
  · exact ⟨other, found, rfl⟩

theorem markHandshaking_keepsTickets
    (self : ShortcutManager R) (session : SessionKey) :
    KeepsTickets self (self.markHandshaking session).1 := by
  rcases markHandshaking_cases self session with
    outcome | ⟨managed, present, _, outcome⟩
  · exact KeepsTickets.of_sessions_eq (by rw [outcome])
  · exact KeepsTickets.of_updated present (by rw [outcome])

/-- Receiving a ticket drops no session. -/
theorem receiveTicket_lookup_ne_none
    (self : ShortcutManager R) (ticket : ShortcutTicket)
    (sender localKey : String) (now : UInt64) {session : SessionKey}
    (held : self.sessions.lookup session ≠ none) :
    (self.receiveTicket ticket sender localKey now).1.sessions.lookup
        session ≠
      none := by
  rcases receiveTicket_cases self ticket sender localKey now with
    ⟨error, outcome⟩ | ⟨existing, _, _, outcome⟩ | ⟨_, _, _, _, outcome⟩
  · rw [outcome]
    exact held
  · rw [outcome]
    exact held
  · rw [outcome]
    simp only [HashMap.lookup_insert_eq_ite]
    split
    · exact Option.some_ne_none _
    · exact held

theorem markHandshaking_lookup_eq_none
    (self : ShortcutManager R) (session query : SessionKey) :
    (self.markHandshaking session).1.sessions.lookup query = none ↔
      self.sessions.lookup query = none := by
  rcases markHandshaking_cases self session with
    outcome | ⟨managed, present, _, outcome⟩
  · rw [outcome]
  · rw [outcome]
    simp only [HashMap.lookup_insert_eq_ite]
    split
    · rename_i same
      rw [same, present]
      simp
    · rfl

variable [RouteManager R]

theorem authenticatedHandshake_cases
    (self : ShortcutManager R) (session : SessionKey) (now : UInt64) :
    ((∃ error,
        self.authenticatedHandshake session now = (self, .error error)) ∧
      ∀ managed, self.sessions.lookup session = some managed →
        managed.ticket.expiresAt ≤ now) ∨
    (self.authenticatedHandshake session now = (self, .ok false) ∧
      self.phase session = some .active) ∨
    (∃ managed,
      self.sessions.lookup session = some managed ∧
      now < managed.ticket.expiresAt ∧
      managed.phase ≠ .active ∧
      ((∃ error,
          (RouteManager.activate self.routes managed.ticket.selector
            ⟨session⟩).2 = .error error ∧
          self.authenticatedHandshake session now =
            ({ self with
                routes :=
                  (RouteManager.activate self.routes
                    managed.ticket.selector ⟨session⟩).1 },
              .error error)) ∨
        ((RouteManager.activate self.routes managed.ticket.selector
            ⟨session⟩).2 = .ok () ∧
          self.authenticatedHandshake session now =
            ({ routes :=
                 (RouteManager.activate self.routes
                   managed.ticket.selector ⟨session⟩).1
               sessions :=
                 (drainPrevious self.sessions
                   (self.activeRoutes.lookup managed.ticket.selector)
                   session).insert
                   session { managed with phase := .active }
               activeRoutes :=
                 self.activeRoutes.insert managed.ticket.selector session },
              .ok true)))) := by
  unfold authenticatedHandshake
  cases present : self.sessions.lookup session with
  | none =>
      exact Or.inl ⟨⟨_, rfl⟩, by intro managed found; cases found⟩
  | some managed =>
      by_cases late : now ≥ managed.ticket.expiresAt
      · refine Or.inl ⟨⟨_, if_pos late⟩, ?_⟩
        intro other found
        cases found
        exact late
      · by_cases active : managed.phase = .active
        · refine Or.inr <| Or.inl ⟨by simp [late, active], ?_⟩
          simp [phase, present, active]
        · refine Or.inr <| Or.inr
            ⟨managed, rfl, UInt64.not_le.mp late, active, ?_⟩
          cases outcome :
              RouteManager.activate self.routes managed.ticket.selector
                ⟨session⟩ with
          | mk routes result =>
              cases result with
              | error error =>
                  exact Or.inl ⟨error, rfl, by simp [late, active, outcome]⟩
              | ok =>
                  exact Or.inr ⟨rfl, by simp [late, active, outcome]⟩

theorem authenticatedHandshake_lookup_eq_none
    (self : ShortcutManager R) (session : SessionKey) (now : UInt64)
    (query : SessionKey) :
    (self.authenticatedHandshake session now).1.sessions.lookup query =
        none ↔
      self.sessions.lookup query = none := by
  rcases authenticatedHandshake_cases self session now with
    ⟨⟨error, outcome⟩, _⟩ | ⟨outcome, _⟩ |
      ⟨managed, present, _, _, ⟨error, _, outcome⟩ | ⟨_, outcome⟩⟩
  · rw [outcome]
  · rw [outcome]
  · rw [outcome]
  · rw [outcome]
    simp only [HashMap.lookup_insert_eq_ite, lookup_drainPrevious]
    split
    · rename_i same
      rw [same, present]
      simp
    · split
      · simp
      · rfl

theorem removeRoute_cases
    (self : ShortcutManager R) (selector : IpNet) :
    (∃ error,
      (RouteManager.deactivate self.routes selector).2 = .error error ∧
      self.removeRoute selector =
        ({ self with
            routes := (RouteManager.deactivate self.routes selector).1 },
          .error error)) ∨
    ((RouteManager.deactivate self.routes selector).2 = .ok () ∧
      self.removeRoute selector =
        ({ self with
            routes := (RouteManager.deactivate self.routes selector).1
            activeRoutes := self.activeRoutes.erase selector },
          .ok ())) := by
  unfold removeRoute
  cases outcome : RouteManager.deactivate self.routes selector with
  | mk routes result =>
      cases result with
      | error error =>
          exact Or.inl ⟨error, rfl, rfl⟩
      | ok =>
          exact Or.inr ⟨rfl, rfl⟩

theorem fail_cases
    (self : ShortcutManager R) (session : SessionKey) :
    (self.sessions.lookup session = none ∧
      self.fail session = (self, .ok false)) ∨
    (∃ managed,
      self.sessions.lookup session = some managed ∧
      ((self.activeRoutes.lookup managed.ticket.selector ≠ some session ∧
          self.fail session =
            ({ self with sessions := self.sessions.erase session },
              .ok true)) ∨
        (self.activeRoutes.lookup managed.ticket.selector = some session ∧
          ((∃ error,
              (RouteManager.deactivate self.routes
                managed.ticket.selector).2 = .error error ∧
              self.fail session =
                ({ self with
                    routes :=
                      (RouteManager.deactivate self.routes
                        managed.ticket.selector).1
                    sessions := self.sessions.erase session },
                  .error error)) ∨
            ((RouteManager.deactivate self.routes
                managed.ticket.selector).2 = .ok () ∧
              self.fail session =
                ({ routes :=
                     (RouteManager.deactivate self.routes
                       managed.ticket.selector).1
                   sessions := self.sessions.erase session
                   activeRoutes :=
                     self.activeRoutes.erase managed.ticket.selector },
                  .ok true)))))) := by
  unfold fail
  cases present : self.sessions.lookup session with
  | none =>
      exact Or.inl ⟨rfl, rfl⟩
  | some managed =>
      refine Or.inr ⟨managed, rfl, ?_⟩
      by_cases owner :
          self.activeRoutes.lookup managed.ticket.selector = some session
      · refine Or.inr ⟨owner, ?_⟩
        rcases removeRoute_cases
            { self with sessions := self.sessions.erase session }
            managed.ticket.selector with
          ⟨error, failed, outcome⟩ | ⟨succeeded, outcome⟩
        · exact Or.inl ⟨error, failed, by simp [owner, outcome]⟩
        · exact Or.inr ⟨succeeded, by simp [owner, outcome]⟩
      · exact Or.inl ⟨owner, by simp [owner]⟩

/-! ## What an operation does to routes and owners -/

/-- The selectors of the sessions. -/
def Names (self : ShortcutManager R) (selector : IpNet) : Prop :=
  ∃ session managed,
    self.sessions.lookup session = some managed ∧
      managed.ticket.selector = selector

/-- The changes that operations make to the routes of the named selectors and
to their recorded owners, the sessions left aside. -/
inductive RouteEffect (Named : IpNet → Prop) :
    ShortcutManager R → ShortcutManager R → Prop
  | idle {before after : ShortcutManager R} :
      after.routes = before.routes →
      after.activeRoutes = before.activeRoutes →
      RouteEffect Named before after
  | activated {before after : ShortcutManager R}
      (selector : IpNet) (session : SessionKey) :
      Named selector →
      (RouteManager.activate before.routes selector ⟨session⟩).2 = .ok () →
      after.routes =
        (RouteManager.activate before.routes selector ⟨session⟩).1 →
      after.activeRoutes = before.activeRoutes.insert selector session →
      RouteEffect Named before after
  | activationFailed {before after : ShortcutManager R}
      (selector : IpNet) (session : SessionKey) (error : String) :
      Named selector →
      (RouteManager.activate before.routes selector ⟨session⟩).2 =
        .error error →
      after.routes =
        (RouteManager.activate before.routes selector ⟨session⟩).1 →
      after.activeRoutes = before.activeRoutes →
      RouteEffect Named before after
  | removed {before after : ShortcutManager R} (selector : IpNet) :
      Named selector →
      (RouteManager.deactivate before.routes selector).2 = .ok () →
      after.routes = (RouteManager.deactivate before.routes selector).1 →
      after.activeRoutes = before.activeRoutes.erase selector →
      RouteEffect Named before after
  | removalFailed {before after : ShortcutManager R}
      (selector : IpNet) (error : String) :
      Named selector →
      (RouteManager.deactivate before.routes selector).2 = .error error →
      after.routes = (RouteManager.deactivate before.routes selector).1 →
      after.activeRoutes = before.activeRoutes →
      RouteEffect Named before after
  | trans {before middle after : ShortcutManager R} :
      RouteEffect Named before middle →
      RouteEffect Named middle after →
      RouteEffect Named before after

/-- One round of the first loop of `expire`: the session owns no route, or its
route is removed, which can fail. -/
theorem removeExpiredRoutes_cases
    (self : ShortcutManager R) (session : SessionKey)
    (rest : List SessionKey) :
    ((∀ managed,
        self.sessions.lookup session = some managed →
        self.activeRoutes.lookup managed.ticket.selector ≠ some session) ∧
      self.removeExpiredRoutes (session :: rest) =
        self.removeExpiredRoutes rest) ∨
    ∃ managed,
      self.sessions.lookup session = some managed ∧
      self.activeRoutes.lookup managed.ticket.selector = some session ∧
      ((∃ error,
          (RouteManager.deactivate self.routes managed.ticket.selector).2 =
            .error error ∧
          self.removeExpiredRoutes (session :: rest) =
            ({ self with
                routes :=
                  (RouteManager.deactivate self.routes
                    managed.ticket.selector).1 },
              .error error)) ∨
        ((RouteManager.deactivate self.routes managed.ticket.selector).2 =
            .ok () ∧
          self.removeExpiredRoutes (session :: rest) =
            removeExpiredRoutes
              { self with
                routes :=
                  (RouteManager.deactivate self.routes
                    managed.ticket.selector).1
                activeRoutes :=
                  self.activeRoutes.erase managed.ticket.selector }
              rest)) := by
  cases present : self.sessions.lookup session with
  | none =>
      left
      simp [removeExpiredRoutes, present]
  | some managed =>
      by_cases owns :
          self.activeRoutes.lookup managed.ticket.selector = some session
      · refine Or.inr ⟨managed, rfl, owns, ?_⟩
        rcases removeRoute_cases self managed.ticket.selector with
          ⟨error, failed, outcome⟩ | ⟨succeeded, outcome⟩
        · left
          refine ⟨error, failed, ?_⟩
          simp [removeExpiredRoutes, present, owns, outcome]
        · right
          refine ⟨succeeded, ?_⟩
          simp [removeExpiredRoutes, present, owns, outcome]
      · left
        simp [removeExpiredRoutes, present, owns]

/-- The calls of `deactivate` that the first loop of `expire` makes. -/
inductive Deactivates :
    ShortcutManager R → List SessionKey → R → IpNet → Prop
  | here {self : ShortcutManager R} {session : SessionKey}
      {rest : List SessionKey} {managed : ManagedSession} :
      self.sessions.lookup session = some managed →
      self.activeRoutes.lookup managed.ticket.selector = some session →
      Deactivates self (session :: rest) self.routes managed.ticket.selector
  | later {self : ShortcutManager R} {session : SessionKey}
      {rest : List SessionKey} {managed : ManagedSession} {routes : R}
      {selector : IpNet} :
      self.sessions.lookup session = some managed →
      self.activeRoutes.lookup managed.ticket.selector = some session →
      (RouteManager.deactivate self.routes managed.ticket.selector).2 =
        .ok () →
      Deactivates
        { self with
          routes :=
            (RouteManager.deactivate self.routes managed.ticket.selector).1
          activeRoutes := self.activeRoutes.erase managed.ticket.selector }
        rest routes selector →
      Deactivates self (session :: rest) routes selector
  | skipped {self : ShortcutManager R} {session : SessionKey}
      {rest : List SessionKey} {routes : R} {selector : IpNet} :
      (∀ managed,
        self.sessions.lookup session = some managed →
        self.activeRoutes.lookup managed.ticket.selector ≠ some session) →
      Deactivates self rest routes selector →
      Deactivates self (session :: rest) routes selector

/-- The first loop of `expire` succeeds exactly when all deactivations that it
makes do. -/
theorem removeExpiredRoutes_ok_iff
    (self : ShortcutManager R) (keys : List SessionKey) :
    (self.removeExpiredRoutes keys).2 = .ok () ↔
      ∀ routes selector,
        Deactivates self keys routes selector →
        (RouteManager.deactivate routes selector).2 = .ok () := by
  induction keys generalizing self with
  | nil =>
      refine ⟨fun _ routes selector made => ?_, fun _ => rfl⟩
      cases made
  | cons session rest inductionHypothesis =>
      rcases removeExpiredRoutes_cases self session rest with
        ⟨owns, skipped⟩ | ⟨managed, present, owner, removal⟩
      · rw [skipped, inductionHypothesis]
        constructor
        · intro succeed routes selector made
          cases made with
          | here present owner => exact absurd owner (owns _ present)
          | later present owner _ _ => exact absurd owner (owns _ present)
          | skipped _ rest => exact succeed routes selector rest
        · intro succeed routes selector made
          exact succeed routes selector (.skipped owns made)
      · rcases removal with ⟨error, failed, outcome⟩ | ⟨succeeded, outcome⟩
        · rw [outcome]
          refine ⟨nofun, fun succeed => ?_⟩
          rw [succeed _ _ (.here present owner)] at failed
          cases failed
        · rw [outcome, inductionHypothesis]
          constructor
          · intro succeed routes selector made
            cases made with
            | here found _ =>
                cases present.symm.trans found
                exact succeeded
            | later found _ _ rest =>
                cases present.symm.trans found
                exact succeed routes selector rest
            | skipped owns _ => exact absurd owner (owns _ present)
          · intro succeed routes selector made
            exact
              succeed routes selector (.later present owner succeeded made)

theorem removeExpiredRoutes_effect
    (self : ShortcutManager R) (keys : List SessionKey) :
    RouteEffect self.Names self (self.removeExpiredRoutes keys).1 ∧
      (self.removeExpiredRoutes keys).1.sessions = self.sessions := by
  induction keys generalizing self with
  | nil =>
      exact ⟨RouteEffect.idle rfl rfl, rfl⟩
  | cons session rest inductionHypothesis =>
      rcases removeExpiredRoutes_cases self session rest with
        ⟨_, skipped⟩ | ⟨managed, present, _, removal⟩
      · rw [skipped]
        exact inductionHypothesis self
      have named : self.Names managed.ticket.selector :=
        ⟨session, managed, present, rfl⟩
      rcases removal with ⟨error, failed, outcome⟩ | ⟨succeeded, outcome⟩
      · rw [outcome]
        exact ⟨RouteEffect.removalFailed _ error named failed rfl rfl, rfl⟩
      · rw [outcome]
        obtain ⟨effect, kept⟩ := inductionHypothesis _
        exact ⟨.trans (.removed _ named succeeded rfl rfl) effect, kept⟩

theorem expire_cases
    (self : ShortcutManager R) (now : UInt64) (order : List SessionKey) :
    (∃ error,
      (self.removeExpiredRoutes (self.expiredSessions now order)).2 =
        .error error ∧
      self.expire now order =
        ((self.removeExpiredRoutes (self.expiredSessions now order)).1,
          .error error)) ∨
    ((self.removeExpiredRoutes (self.expiredSessions now order)).2 = .ok () ∧
      self.expire now order =
        ({ (self.removeExpiredRoutes (self.expiredSessions now order)).1 with
            sessions :=
              HashMap.eraseAll self.sessions
                (self.expiredSessions now order) },
          .ok (self.expiredSessions now order))) := by
  have kept :=
    (removeExpiredRoutes_effect self (self.expiredSessions now order)).2
  unfold expire
  cases outcome :
      self.removeExpiredRoutes (self.expiredSessions now order) with
  | mk next result =>
      rw [outcome] at kept
      cases result with
      | error error =>
          exact Or.inl ⟨error, rfl, by simp only [outcome]⟩
      | ok =>
          have same : next.sessions = self.sessions := kept
          exact Or.inr ⟨rfl, by simp only [outcome, same]⟩

/-- Every deactivation that `expire` makes succeeds. -/
def ExpireRemovesRoutes
    (self : ShortcutManager R) (now : UInt64) (order : List SessionKey) :
    Prop :=
  ∀ routes selector,
    Deactivates self (self.expiredSessions now order) routes selector →
    (RouteManager.deactivate routes selector).2 = .ok ()

/-- `expire` returns the expired sessions exactly when its deactivations
succeed. -/
theorem expire_ok_iff
    (self : ShortcutManager R) (now : UInt64) (order : List SessionKey) :
    (self.expire now order).2 = .ok (self.expiredSessions now order) ↔
      self.ExpireRemovesRoutes now order := by
  unfold ExpireRemovesRoutes
  rw [← removeExpiredRoutes_ok_iff]
  rcases expire_cases self now order with
    ⟨error, failed, outcome⟩ | ⟨succeeded, outcome⟩
  · rw [outcome, failed]
    exact ⟨nofun, nofun⟩
  · rw [outcome, succeeded]
    exact ⟨fun _ => rfl, fun _ => rfl⟩

/-- `expire` returns nothing but the expired sessions. -/
theorem expired_eq
    {self : ShortcutManager R} {now : UInt64}
    {order expired : List SessionKey}
    (succeeded : (self.expire now order).2 = .ok expired) :
    expired = self.expiredSessions now order := by
  rcases expire_cases self now order with
    ⟨error, _, outcome⟩ | ⟨_, outcome⟩
  · rw [outcome] at succeeded
    cases succeeded
  · rw [outcome] at succeeded
    exact (Except.ok.inj succeeded).symm

theorem expire_effect
    (self : ShortcutManager R) (now : UInt64) (order : List SessionKey) :
    RouteEffect self.Names self (self.expire now order).1 := by
  have effect :=
    (removeExpiredRoutes_effect self (self.expiredSessions now order)).1
  rcases expire_cases self now order with
    ⟨error, _, outcome⟩ | ⟨_, outcome⟩
  · rw [outcome]
    exact effect
  · rw [outcome]
    exact effect.trans (RouteEffect.idle rfl rfl)

theorem authenticatedHandshake_effect
    (self : ShortcutManager R) (session : SessionKey) (now : UInt64) :
    RouteEffect self.Names self
      (self.authenticatedHandshake session now).1 := by
  rcases authenticatedHandshake_cases self session now with
    ⟨⟨error, outcome⟩, _⟩ | ⟨outcome, _⟩ |
      ⟨managed, present, _, _,
        ⟨error, failed, outcome⟩ | ⟨succeeded, outcome⟩⟩
  · rw [outcome]
    exact RouteEffect.idle rfl rfl
  · rw [outcome]
    exact RouteEffect.idle rfl rfl
  · rw [outcome]
    exact
      RouteEffect.activationFailed _ _ error ⟨session, managed, present, rfl⟩
        failed rfl rfl
  · rw [outcome]
    exact
      RouteEffect.activated _ _ ⟨session, managed, present, rfl⟩ succeeded rfl
        rfl

theorem markHandshaking_effect
    (self : ShortcutManager R) (session : SessionKey) :
    RouteEffect self.Names self (self.markHandshaking session).1 := by
  rcases markHandshaking_cases self session with
    outcome | ⟨managed, _, _, outcome⟩
  · rw [outcome]
    exact RouteEffect.idle rfl rfl
  · rw [outcome]
    exact RouteEffect.idle rfl rfl

theorem fail_effect
    (self : ShortcutManager R) (session : SessionKey) :
    RouteEffect self.Names self (self.fail session).1 := by
  rcases fail_cases self session with
    ⟨_, outcome⟩ | ⟨managed, present, ⟨_, outcome⟩ |
      ⟨_, ⟨error, failed, outcome⟩ | ⟨succeeded, outcome⟩⟩⟩
  · rw [outcome]
    exact RouteEffect.idle rfl rfl
  · rw [outcome]
    exact RouteEffect.idle rfl rfl
  · rw [outcome]
    exact
      RouteEffect.removalFailed _ error ⟨session, managed, present, rfl⟩ failed
        rfl rfl
  · rw [outcome]
    exact
      RouteEffect.removed _ ⟨session, managed, present, rfl⟩ succeeded rfl rfl

theorem authenticatedHandshake_keepsTickets
    (self : ShortcutManager R) (session : SessionKey) (now : UInt64) :
    KeepsTickets self (self.authenticatedHandshake session now).1 := by
  rcases authenticatedHandshake_cases self session now with
    ⟨⟨error, outcome⟩, _⟩ | ⟨outcome, _⟩ |
      ⟨managed, present, _, _, ⟨error, _, outcome⟩ | ⟨_, outcome⟩⟩
  · exact KeepsTickets.of_sessions_eq (by rw [outcome])
  · exact KeepsTickets.of_sessions_eq (by rw [outcome])
  · exact KeepsTickets.of_sessions_eq (by rw [outcome])
  · intro query other found
    rw [outcome] at found
    simp only [HashMap.lookup_insert_eq_ite, lookup_drainPrevious] at found
    split at found
    · rename_i same
      cases found
      exact ⟨managed, same ▸ present, rfl⟩
    · split at found
      · simp only [Option.map_eq_some_iff] at found
        obtain ⟨old, oldFound, rfl⟩ := found
        exact ⟨old, oldFound, rfl⟩
      · exact ⟨other, found, rfl⟩

theorem fail_sessions
    (self : ShortcutManager R) (session : SessionKey) :
    (self.fail session).1.sessions = self.sessions.erase session := by
  rcases fail_cases self session with
    ⟨absent, outcome⟩ | ⟨managed, _, ⟨_, outcome⟩ |
      ⟨_, ⟨error, _, outcome⟩ | ⟨_, outcome⟩⟩⟩
  · rw [outcome]
    exact (HashMap.erase_eq_self absent).symm
  · rw [outcome]
  · rw [outcome]
  · rw [outcome]

theorem fail_keepsTickets
    (self : ShortcutManager R) (session : SessionKey) :
    KeepsTickets self (self.fail session).1 := by
  intro query managed found
  rw [fail_sessions, HashMap.lookup_erase_eq_ite] at found
  split at found
  · cases found
  · exact ⟨managed, found, rfl⟩

theorem expire_keepsTickets
    (self : ShortcutManager R) (now : UInt64) (order : List SessionKey) :
    KeepsTickets self (self.expire now order).1 := by
  rcases expire_cases self now order with
    ⟨error, _, outcome⟩ | ⟨_, outcome⟩
  · apply KeepsTickets.of_sessions_eq
    rw [outcome]
    exact (removeExpiredRoutes_effect self _).2
  · exact KeepsTickets.of_erased (by rw [outcome])

/-! ## The machine of all operations -/

/-- One call.  An order that does not fit the sessions is no call at all. -/
def step (self : ShortcutManager R) :
    Operation → Option (ShortcutManager R × Except String Outcome)
  | .receiveTicket ticket sender localKey now =>
      let (next, result) := self.receiveTicket ticket sender localKey now
      some (next, result.map .prepared)
  | .markHandshaking session =>
      let (next, result) := self.markHandshaking session
      some (next, result.map fun _ => .done)
  | .authenticatedHandshake session now =>
      let (next, result) := self.authenticatedHandshake session now
      some (next, result.map .activated)
  | .expire now order =>
      if HashMap.Iterates order self.sessions then
        let (next, result) := self.expire now order
        some (next, result.map .sessions)
      else
        none
  | .retireDraining order =>
      if HashMap.Iterates order self.sessions then
        let (next, result) := self.retireDraining order
        some (next, .ok (.sessions result))
      else
        none
  | .fail session =>
      let (next, result) := self.fail session
      some (next, result.map .removed)

/-- The machine of all calls, started on a fresh manager over routes that
`admits` allows. -/
def machine (admits : R → Prop) :
    Machine (ShortcutManager R) Operation (Except String Outcome) where
  start manager := ∃ routes, admits routes ∧ manager = new routes
  step := step

theorem step_of_takes
    {admits : R → Prop} {call : Call R}
    (taken : (machine admits).Takes call) :
    call.before.step call.input = some (call.after, call.output) :=
  taken

/-- The manager and the output that an operation leaves. -/
def Leaves
    (self next : ShortcutManager R) (output : Except String Outcome) :
    Operation → Prop
  | .receiveTicket ticket sender localKey now =>
      next = (self.receiveTicket ticket sender localKey now).1 ∧
        output = (self.receiveTicket ticket sender localKey now).2.map .prepared
  | .markHandshaking session =>
      next = (self.markHandshaking session).1
  | .authenticatedHandshake session now =>
      next = (self.authenticatedHandshake session now).1 ∧
        output = (self.authenticatedHandshake session now).2.map .activated
  | .expire now order =>
      HashMap.Iterates order self.sessions ∧
        next = (self.expire now order).1 ∧
        output = (self.expire now order).2.map .sessions
  | .retireDraining order =>
      HashMap.Iterates order self.sessions ∧
        next = (self.retireDraining order).1
  | .fail session =>
      next = (self.fail session).1 ∧
        output = (self.fail session).2.map .removed

theorem leaves_of_step
    {self next : ShortcutManager R} {operation : Operation}
    {output : Except String Outcome}
    (taken : self.step operation = some (next, output)) :
    self.Leaves next output operation := by
  cases operation with
  | receiveTicket ticket sender localKey now =>
      simp only [step, Option.some.injEq, Prod.mk.injEq] at taken
      exact ⟨taken.1.symm, taken.2.symm⟩
  | markHandshaking session =>
      simp only [step, Option.some.injEq, Prod.mk.injEq] at taken
      exact taken.1.symm
  | authenticatedHandshake session now =>
      simp only [step, Option.some.injEq, Prod.mk.injEq] at taken
      exact ⟨taken.1.symm, taken.2.symm⟩
  | expire now order =>
      simp only [step] at taken
      split at taken
      · rename_i iterates
        simp only [Option.some.injEq, Prod.mk.injEq] at taken
        exact ⟨iterates, taken.1.symm, taken.2.symm⟩
      · cases taken
  | retireDraining order =>
      simp only [step] at taken
      split at taken
      · rename_i iterates
        simp only [Option.some.injEq, Prod.mk.injEq] at taken
        exact ⟨iterates, taken.1.symm⟩
      · cases taken
  | fail session =>
      simp only [step, Option.some.injEq, Prod.mk.injEq] at taken
      exact ⟨taken.1.symm, taken.2.symm⟩

theorem step_effect
    {self next : ShortcutManager R} {operation : Operation}
    {output : Except String Outcome}
    (taken : self.step operation = some (next, output)) :
    RouteEffect self.Names self next := by
  have result := leaves_of_step taken
  cases operation with
  | receiveTicket ticket sender localKey now =>
      rw [result.1]
      rcases receiveTicket_cases self ticket sender localKey now with
        ⟨error, outcome⟩ | ⟨existing, _, _, outcome⟩ | ⟨_, _, _, _, outcome⟩
      all_goals
        rw [outcome]
        exact RouteEffect.idle rfl rfl
  | markHandshaking session =>
      rw [show next = _ from result]
      exact markHandshaking_effect self session
  | authenticatedHandshake session now =>
      rw [result.1]
      exact authenticatedHandshake_effect self session now
  | expire now order =>
      rw [result.2.1]
      exact expire_effect self now order
  | retireDraining order =>
      rw [result.2]
      exact RouteEffect.idle rfl rfl
  | fail session =>
      rw [result.1]
      exact fail_effect self session

/-- A predicate of the route manager that activating and deactivating named
selectors keeps is kept by every operation. -/
theorem RouteEffect.routes_invariant
    {Named : IpNet → Prop} {Invariant : R → Prop}
    (activate :
      ∀ routes selector target,
        Named selector →
        Invariant routes →
        Invariant (RouteManager.activate routes selector target).1)
    (deactivate :
      ∀ routes selector,
        Named selector →
        Invariant routes →
        Invariant (RouteManager.deactivate routes selector).1)
    {before after : ShortcutManager R}
    (effect : RouteEffect Named before after)
    (held : Invariant before.routes) :
    Invariant after.routes := by
  induction effect with
  | idle sameRoutes _ =>
      rw [sameRoutes]
      exact held
  | activated selector session named _ routes _ =>
      rw [routes]
      exact activate _ _ _ named held
  | activationFailed selector session error named _ routes _ =>
      rw [routes]
      exact activate _ _ _ named held
  | removed selector named _ routes _ =>
      rw [routes]
      exact deactivate _ _ named held
  | removalFailed selector error named _ routes _ =>
      rw [routes]
      exact deactivate _ _ named held
  | trans _ _ first second =>
      exact second (first held)

/-- The session that a step accepts as a new one. -/
def Accepts
    (self : ShortcutManager R) (operation : Operation)
    (session : SessionKey) (ticket : ShortcutTicket) : Prop :=
  ∃ sender localKey now,
    operation = .receiveTicket ticket sender localKey now ∧
    session = ticket.session ∧
    self.sessions.lookup session = none ∧
    ticket.validate now = .ok () ∧
    ticket.issuerPublicKey = sender ∧
    ticket.recipientPublicKey = localKey

/-- Every session after a step has the ticket it had before, or is the one that
the step accepted. -/
theorem step_tickets
    {self next : ShortcutManager R} {operation : Operation}
    {output : Except String Outcome}
    (taken : self.step operation = some (next, output)) :
    ∀ session managed,
      next.sessions.lookup session = some managed →
      (∃ earlier,
        self.sessions.lookup session = some earlier ∧
        managed.ticket = earlier.ticket) ∨
      Accepts self operation session managed.ticket := by
  have result := leaves_of_step taken
  cases operation with
  | receiveTicket ticket sender localKey now =>
      rw [result.1]
      rcases receiveTicket_cases self ticket sender localKey now with
        ⟨error, outcome⟩ | ⟨existing, _, _, outcome⟩ |
          ⟨absent, valid, issuer, recipient, outcome⟩
      · rw [outcome]
        intro session managed found
        exact Or.inl ⟨managed, found, rfl⟩
      · rw [outcome]
        intro session managed found
        exact Or.inl ⟨managed, found, rfl⟩
      · rw [outcome]
        intro session managed found
        simp only [HashMap.lookup_insert_eq_ite] at found
        split at found
        · rename_i same
          cases found
          exact Or.inr ⟨sender, localKey, now, rfl, same,
            same ▸ absent, valid, issuer, recipient⟩
        · exact Or.inl ⟨managed, found, rfl⟩
  | markHandshaking session =>
      rw [show next = _ from result]
      intro query managed found
      apply Or.inl
      exact markHandshaking_keepsTickets self session query _ found
  | authenticatedHandshake session now =>
      rw [result.1]
      intro query managed found
      apply Or.inl
      exact authenticatedHandshake_keepsTickets self session now query _ found
  | expire now order =>
      rw [result.2.1]
      intro query managed found
      apply Or.inl
      exact expire_keepsTickets self now order query _ found
  | retireDraining order =>
      rw [result.2]
      intro query managed found
      apply Or.inl
      exact KeepsTickets.of_erased rfl query _ found
  | fail session =>
      rw [result.1]
      intro query managed found
      apply Or.inl
      exact fail_keepsTickets self session query _ found

end ShortcutManager

end WgLink
