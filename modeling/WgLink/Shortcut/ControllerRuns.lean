import WgLink.Shortcut.ControllerEffects
import WgLink.Shortcut.CutOver
import WgLink.Shortcut.RouteLookup

/-!
# Runs of the shortcut controller

The public calls of `ShortcutController` as one machine, the effect of each
call, and what renewal keeps stable over a run.
-/

namespace WgLink

open WgLink.Library

namespace ShortcutController

variable {R : Type} [RouteManager R]

/-- `ShortcutController::receive_ticket`, given what the device answers. -/
def receiveTicket
    (self : ShortcutController R) (ticket : ShortcutTicket)
    (authenticatedSender : String) (now : UInt64)
    (prepared : Except String Unit) :
    ShortcutController R × Except String SessionKey :=
  match self.beginTicket ticket authenticatedSender now with
  | (next, .error error) => (next, .error error)
  | (next, .ok (session, none)) => (next, .ok session)
  | (next, .ok (session, some _)) => next.finishTicket session prepared

/-- One call.  An order that does not fit the sessions is no call at all. -/
def step (self : ShortcutController R) :
    ControllerCall →
      Option (ShortcutController R × Except String ControllerOutcome)
  | .receiveTicket ticket sender now prepared =>
      let (next, result) := self.receiveTicket ticket sender now prepared
      some (next, result.map .session)
  | .handleDeviceEvent event now order =>
      (self.handleDeviceEvent event now order).map fun (next, result) =>
        (next, result.map .event)
  | .expire now order =>
      if HashMap.Iterates order self.manager.sessions then
        let (next, result) := self.expire now order
        some (next, result.map .expired)
      else
        none
  | .fail session =>
      let (next, result) := self.fail session
      some (next, result.map .removed)

theorem receiveTicket_cases
    {self : ShortcutController R} (settled : Settled self)
    (ticket : ShortcutTicket) (sender : String) (now : UInt64)
    (prepared : Except String Unit) :
    ((self.receiveTicket ticket sender now prepared).1 = self) ∨
    (ticket.validate now = .ok () ∧
      ticket.issuerPublicKey = sender ∧
      ticket.recipientPublicKey = self.localPublicKey ∧
      prepared = .ok () ∧
      (self.receiveTicket ticket sender now prepared).2 =
        .ok ticket.session ∧
      Accepted self (self.receiveTicket ticket sender now prepared).1
        ticket) := by
  rcases ShortcutManager.receiveTicket_cases self.manager ticket sender
      self.localPublicKey now with
    ⟨error, outcome⟩ | ⟨existing, _, _, outcome⟩ |
      ⟨absent, valid, issuer, recipient, outcome⟩
  · left
    simp [receiveTicket, beginTicket, outcome]
  · left
    simp [receiveTicket, beginTicket, outcome]
  · cases prepared with
    | error error =>
        left
        have foreign :
            self.manager.activeRoutes.lookup ticket.selector ≠
              some ticket.session := by
          intro owns
          obtain ⟨managed, present, _⟩ := settled.owned _ _ owns
          rw [absent] at present
          cases present
        have erased :=
          HashMap.erase_insert (⟨ticket, .prepared⟩ : ManagedSession) absent
        simp [receiveTicket, beginTicket, outcome, finishTicket,
          ShortcutManager.fail, Finmap.lookup_insert, foreign, erased]
    | ok =>
        right
        refine ⟨valid, issuer, recipient, rfl, ?_, absent, ?_, ?_⟩
        · simp [receiveTicket, beginTicket, outcome, finishTicket,
            ShortcutManager.markHandshaking, Finmap.lookup_insert]
        · intro session
          simp [receiveTicket, beginTicket, outcome, finishTicket,
            ShortcutManager.markHandshaking, Finmap.lookup_insert, managed,
            HashMap.lookup_insert_eq_ite]
        · intro selector
          simp [receiveTicket, beginTicket, outcome, finishTicket,
            ShortcutManager.markHandshaking, Finmap.lookup_insert, owner]

/-- Activating a session and retiring what drains then. -/
theorem handedOver_of_activated
    {self : ShortcutController R} (settled : Settled self)
    {session : SessionKey} {now : UInt64} {order : List SessionKey}
    {entry : ManagedSession}
    (present : self.managed session = some entry)
    (inactive : entry.phase ≠ .active)
    (sessions :
      (self.manager.authenticatedHandshake session now).1.sessions =
        (ShortcutManager.drainPrevious self.manager.sessions
          (self.owner entry.ticket.selector) session).insert
            session { entry with phase := .active })
    (owners :
      (self.manager.authenticatedHandshake session now).1.activeRoutes =
        self.manager.activeRoutes.insert entry.ticket.selector session)
    (iterates :
      HashMap.Iterates order
        (self.manager.authenticatedHandshake session now).1.sessions) :
    HandedOver self
      { self with
        manager :=
          ((self.manager.authenticatedHandshake session
            now).1.retireDraining order).1 }
      session entry := by
  refine ⟨present, inactive, ?_, ?_⟩
  · intro query
    have retired :=
      ShortcutManager.mem_drainingSessions iterates query
    rw [sessions] at retired
    simp only [managed, ShortcutManager.retireDraining,
      HashMap.lookup_eraseAll, sessions, HashMap.lookup_insert_eq_ite,
      ShortcutManager.lookup_drainPrevious] at retired ⊢
    have undrained :
        ∀ other, self.manager.sessions.lookup query = some other →
          other.phase ≠ .draining := by
      intro other found draining
      apply settled.undrained query
      simp [ShortcutManager.phase, found, draining]
    by_cases same : query = session
    · simp [same] at retired ⊢
      exact retired
    · by_cases previous : self.owner entry.ticket.selector = some query
      · simp only [same, previous, if_false, true_and, ne_eq,
          not_false_eq_true, if_true] at retired ⊢
        split
        · rfl
        · rename_i kept
          cases found : self.manager.sessions.lookup query with
          | none =>
              rfl
          | some old =>
              apply absurd _ kept
              rw [retired, found]
              exact ⟨_, rfl, rfl⟩
      · simp only [same, previous, if_false, false_and] at retired ⊢
        rw [if_neg]
        intro drains
        obtain ⟨other, found, draining⟩ := retired.mp drains
        exact undrained other found draining
  · intro selector
    simp only [owner, ShortcutManager.retireDraining, owners,
      HashMap.lookup_insert_eq_ite]

theorem handleDeviceEvent_cases
    {self next : ShortcutController R} (settled : Settled self)
    {event : DeviceEvent} {now : UInt64} {order : List SessionKey}
    {result : Except String DeviceEventOutcome}
    (handled : self.handleDeviceEvent event now order = some (next, result)) :
    Same self next ∨
    (∃ session entry outcome,
      event = .authenticatedHandshake session ∧
      now < entry.ticket.expiresAt ∧
      result = .ok outcome ∧
      HandedOver self next session entry) := by
  cases event with
  | authenticatedHandshake session =>
      rcases ShortcutManager.authenticatedHandshake_cases self.manager
          session now with
        ⟨⟨error, outcome⟩, _⟩ | ⟨outcome, _⟩ |
          ⟨entry, present, inTime, inactive, ⟨error, _, outcome⟩ |
            ⟨_, outcome⟩⟩
      · left
        rw [handleDeviceEvent_of_error (by rw [outcome]), outcome] at handled
        cases handled
        exact ⟨fun _ => rfl, fun _ => rfl⟩
      · left
        rw [handleDeviceEvent_of_confirmed (by rw [outcome]), outcome]
          at handled
        cases handled
        exact ⟨fun _ => rfl, fun _ => rfl⟩
      · left
        rw [handleDeviceEvent_of_error (by rw [outcome]), outcome] at handled
        cases handled
        exact ⟨fun _ => rfl, fun _ => rfl⟩
      · right
        rw [handleDeviceEvent_of_activated (by rw [outcome])] at handled
        split at handled
        · rename_i iterates
          cases handled
          refine ⟨session, entry, _, rfl, inTime, rfl, ?_⟩
          apply handedOver_of_activated settled present inactive _ _ iterates
          · rw [outcome]
            rfl
          · rw [outcome]
        · cases handled
  | handshakeStarted session =>
      left
      cases handled
      exact ⟨fun _ => rfl, fun _ => rfl⟩
  | innerPacket session source destination =>
      left
      cases handled
      exact ⟨fun _ => rfl, fun _ => rfl⟩
  | missingRoute destination =>
      left
      cases handled
      exact ⟨fun _ => rfl, fun _ => rfl⟩
  | sessionFailed session =>
      left
      cases handled
      exact ⟨fun _ => rfl, fun _ => rfl⟩

theorem expire_ended
    {self : ShortcutController R} (settled : Settled self)
    {now : UInt64} {order expired : List SessionKey}
    (succeeded : (self.expire now order).2 = .ok expired) :
    expired = self.manager.expiredSessions now order ∧
      Ended self (self.expire now order).1 (· ∈ expired) := by
  rcases ShortcutManager.expire_cases self.manager now order with
    ⟨error, _, outcome⟩ | ⟨cleared, outcome⟩
  · simp only [expire, outcome] at succeeded
    cases succeeded
  · simp only [expire, outcome, Except.ok.injEq] at succeeded ⊢
    subst succeeded
    refine ⟨rfl, ?_, ?_, ?_, ?_⟩
    · intro session ended
      simp only [managed, HashMap.lookup_eraseAll]
      rw [if_pos ended]
    · intro session kept
      simp only [managed, HashMap.lookup_eraseAll]
      rw [if_neg kept]
    · intro selector session owns ended
      obtain ⟨entry, present, matching, _⟩ :=
        settled.owned selector session owns
      have foreign :=
        ShortcutManager.removeExpiredRoutes_clears self.manager cleared ended
          present
      rw [matching] at foreign
      cases left :
          (self.manager.removeExpiredRoutes
            (self.manager.expiredSessions now order)).1.activeRoutes.lookup
              selector with
      | none =>
          exact left
      | some other =>
          have earlier :=
            ShortcutManager.removeExpiredRoutes_shrinks self.manager _ left
          have same : some other = some session := earlier.symm.trans owns
          rw [left, same] at foreign
          exact absurd rfl foreign
    · intro selector kept
      cases owns : self.owner selector with
      | some session =>
          exact ShortcutManager.removeExpiredRoutes_keeps self.manager _ owns
            (kept session owns)
      | none =>
          cases left :
              (self.manager.removeExpiredRoutes
                (self.manager.expiredSessions now
                  order)).1.activeRoutes.lookup selector with
          | none =>
              exact left
          | some other =>
              have earlier :=
                ShortcutManager.removeExpiredRoutes_shrinks self.manager _
                  left
              exact absurd (earlier.symm.trans owns) (Option.some_ne_none _)

theorem fail_ended
    {self : ShortcutController R} (settled : Settled self)
    {session : SessionKey} {removed : Bool}
    (succeeded : (self.fail session).2 = .ok removed) :
    Ended self (self.fail session).1 (· = session) := by
  have sessions := ShortcutManager.fail_sessions self.manager session
  refine ⟨?_, ?_, ?_, ?_⟩
  · intro query same
    simp only [managed, fail, sessions, HashMap.lookup_erase_eq_ite]
    rw [if_pos same]
  · intro query apart
    simp only [managed, fail, sessions, HashMap.lookup_erase_eq_ite]
    rw [if_neg apart]
  · intro selector holder owns same
    subst same
    obtain ⟨entry, present, matching, _⟩ :=
      settled.owned selector holder owns
    rcases ShortcutManager.fail_cases self.manager holder with
      ⟨absent, _⟩ | ⟨other, found, ⟨foreign, _⟩ |
        ⟨_, ⟨error, _, outcome⟩ | ⟨_, outcome⟩⟩⟩
    · rw [present] at absent
      cases absent
    · rw [present] at found
      cases found
      rw [matching] at foreign
      exact absurd owns foreign
    · simp only [fail, outcome] at succeeded
      cases succeeded
    · rw [present] at found
      cases found
      simp only [owner, fail, outcome, matching, Finmap.lookup_erase]
  · intro selector kept
    rcases ShortcutManager.fail_cases self.manager session with
      ⟨_, outcome⟩ | ⟨entry, _, ⟨_, outcome⟩ |
        ⟨owns, ⟨error, _, outcome⟩ | ⟨_, outcome⟩⟩⟩
    · simp only [owner, fail, outcome]
    · simp only [owner, fail, outcome]
    · simp only [fail, outcome] at succeeded
      cases succeeded
    · have apart : selector ≠ entry.ticket.selector := by
        intro same
        subst same
        exact kept session owns rfl
      simp only [owner, fail, outcome]
      exact Finmap.lookup_erase_ne apart

/-- The removals that a call asks for succeed: `expire` and `fail` report no
error. -/
def RemovalsSucceed (record : ControllerStep R) : Prop :=
  record.input.removesRoutes = true → record.output.isOk = true

theorem effect_of_step
    {record : ControllerStep R}
    (taken :
      record.before.step record.input = some (record.after, record.output))
    (settled : Settled record.before)
    (removals : RemovalsSucceed record) :
    Effect record := by
  obtain ⟨before, input, output, after⟩ := record
  cases input with
  | receiveTicket ticket sender now prepared =>
      simp only [step, Option.some.injEq, Prod.mk.injEq] at taken
      obtain ⟨rfl, rfl⟩ := taken
      rcases receiveTicket_cases settled ticket sender now prepared with
        unchanged | ⟨valid, issuer, recipient, rfl, output, accepted⟩
      · apply Effect.same
        simp only [unchanged]
        exact ⟨fun _ => rfl, fun _ => rfl⟩
      · refine Effect.accepted ticket sender now rfl valid issuer recipient
          ?_ accepted
        simp only [output]
        rfl
  | handleDeviceEvent event now order =>
      simp only [step, Option.map_eq_some_iff, Prod.exists, Prod.mk.injEq]
        at taken
      obtain ⟨next, result, handled, rfl, rfl⟩ := taken
      rcases handleDeviceEvent_cases settled handled with
        same | ⟨session, entry, outcome, rfl, inTime, rfl, handed⟩
      · exact Effect.same same
      · exact Effect.handedOver session now order entry outcome rfl inTime
          rfl handed
  | expire now order =>
      simp only [step] at taken
      split at taken
      · rename_i iterates
        simp only [Option.some.injEq, Prod.mk.injEq] at taken
        obtain ⟨rfl, rfl⟩ := taken
        cases outcome : (before.expire now order).2 with
        | error error =>
            have reported := removals rfl
            simp only [outcome] at reported
            cases reported
        | ok expired =>
            obtain ⟨same, ends⟩ := expire_ended settled outcome
            refine Effect.expired now order expired rfl rfl ?_ ends
            intro session
            rw [same]
            exact ShortcutManager.mem_expiredSessions iterates session
      · cases taken
  | fail session =>
      simp only [step, Option.some.injEq, Prod.mk.injEq] at taken
      obtain ⟨rfl, rfl⟩ := taken
      cases outcome : (before.fail session).2 with
      | error error =>
          have reported := removals rfl
          simp only [outcome] at reported
          cases reported
      | ok removed =>
          exact Effect.failed session rfl (fail_ended settled outcome)

theorem finishTicket_routeEffect
    (self : ShortcutController R) (session : SessionKey)
    (prepared : Except String Unit) :
    ShortcutManager.RouteEffect self.manager.Names self.manager
      (self.finishTicket session prepared).1.manager := by
  cases prepared with
  | error error =>
      have effect := ShortcutManager.fail_effect self.manager session
      unfold finishTicket
      cases outcome : self.manager.fail session with
      | mk manager result =>
          rw [outcome] at effect
          cases result with
          | error failure =>
              exact effect
          | ok removed =>
              exact effect
  | ok =>
      have effect :=
        ShortcutManager.markHandshaking_effect self.manager session
      unfold finishTicket
      cases outcome : self.manager.markHandshaking session with
      | mk manager result =>
          rw [outcome] at effect
          cases result with
          | error error =>
              exact effect
          | ok =>
              exact effect

theorem handleDeviceEvent_routeEffect
    {self next : ShortcutController R}
    {event : DeviceEvent} {now : UInt64} {order : List SessionKey}
    {result : Except String DeviceEventOutcome}
    (handled : self.handleDeviceEvent event now order = some (next, result)) :
    ShortcutManager.RouteEffect self.manager.Names self.manager
      next.manager := by
  cases event with
  | authenticatedHandshake session =>
      have effect :=
        ShortcutManager.authenticatedHandshake_effect self.manager session now
      cases outcome : (self.manager.authenticatedHandshake session now).2 with
      | error error =>
          rw [handleDeviceEvent_of_error outcome] at handled
          cases handled
          exact effect
      | ok activated =>
          cases activated with
          | false =>
              rw [handleDeviceEvent_of_confirmed outcome] at handled
              cases handled
              exact effect
          | true =>
              rw [handleDeviceEvent_of_activated outcome] at handled
              split at handled
              · cases handled
                exact effect.trans (.idle rfl rfl)
              · cases handled
  | handshakeStarted session =>
      cases handled
      exact .idle rfl rfl
  | innerPacket session source destination =>
      cases handled
      exact .idle rfl rfl
  | missingRoute destination =>
      cases handled
      exact .idle rfl rfl
  | sessionFailed session =>
      cases handled
      exact .idle rfl rfl

/-- Every call changes routes and owners together, those of the sessions it
finds or of the one it accepts. -/
theorem step_routeEffect
    {record : ControllerStep R}
    (taken :
      record.before.step record.input =
        some (record.after, record.output)) :
    ∃ Named,
      ShortcutManager.RouteEffect Named record.before.manager
        record.after.manager := by
  obtain ⟨before, input, output, after⟩ := record
  cases input with
  | receiveTicket ticket sender now prepared =>
      simp only [step, Option.some.injEq, Prod.mk.injEq] at taken
      obtain ⟨rfl, _⟩ := taken
      rcases ShortcutManager.receiveTicket_cases before.manager ticket sender
          before.localPublicKey now with
        ⟨error, outcome⟩ | ⟨existing, _, _, outcome⟩ |
          ⟨_, _, _, _, outcome⟩
      · simp only [receiveTicket, beginTicket, outcome]
        exact ⟨before.manager.Names, .idle rfl rfl⟩
      · simp only [receiveTicket, beginTicket, outcome, if_true]
        exact ⟨before.manager.Names, .idle rfl rfl⟩
      · simp only [receiveTicket, beginTicket, outcome, Bool.false_eq_true,
          if_false]
        refine ⟨_, .trans ?_ (finishTicket_routeEffect _ _ prepared)⟩
        exact .idle rfl rfl
  | handleDeviceEvent event now order =>
      simp only [step, Option.map_eq_some_iff, Prod.exists, Prod.mk.injEq]
        at taken
      obtain ⟨next, result, handled, rfl, _⟩ := taken
      exact ⟨_, handleDeviceEvent_routeEffect handled⟩
  | expire now order =>
      simp only [step] at taken
      split at taken
      · simp only [Option.some.injEq, Prod.mk.injEq] at taken
        obtain ⟨rfl, _⟩ := taken
        exact ⟨_, ShortcutManager.expire_effect before.manager now order⟩
      · cases taken
  | fail session =>
      simp only [step, Option.some.injEq, Prod.mk.injEq] at taken
      obtain ⟨rfl, _⟩ := taken
      exact ⟨_, ShortcutManager.fail_effect before.manager session⟩

/-! ## Runs -/

section Runs

variable [LawfulRouteManager R]

/-- The calls on a fresh controller whose route manager has no routes yet. -/
def controllerRuns :
    Machine (ShortcutController R) ControllerCall
      (Except String ControllerOutcome) where
  start controller :=
    ∃ localPublicKey routes,
      LawfulRouteManager.table routes = ∅ ∧
      controller = ⟨localPublicKey, .new routes⟩
  step := step

theorem settled_of_execution
    {log : List (ControllerStep R)} {state : ShortcutController R}
    (execution : controllerRuns.Execution log state)
    (removals : ∀ record ∈ log, RemovalsSucceed record) :
    Settled state := by
  apply @Machine.Execution.invariant _ _ _ _
    (fun _ controller => Settled controller) RemovalsSucceed _ _ _ _
    execution removals
  · intro controller started
    obtain ⟨localKey, routes, _, rfl⟩ := started
    refine ⟨ShortcutManager.Owned.of_new routes, ?_, ?_⟩
    · intro session managed present
      cases present
    · intro session draining
      cases draining
  · intro _ record settled meets taken
    exact (effect_of_step taken settled meets).settled settled

theorem controller_synced_of_execution
    {log : List (ControllerStep R)} {state : ShortcutController R}
    (execution : controllerRuns.Execution log state) :
    state.manager.Synced := by
  apply @Machine.Execution.state_invariant _ _ _ _
    (fun controller : ShortcutController R => controller.manager.Synced)
    _ _ _ _ execution
  · intro controller started
    obtain ⟨localKey, routes, clear, rfl⟩ := started
    exact ShortcutManager.Synced.of_new clear
  · intro record synced taken
    obtain ⟨_, effect⟩ := step_routeEffect taken
    exact effect.synced synced

/-- A session that is absent at some point owns nothing later, unless a ticket
for it is accepted in between. -/
theorem accepted_of_reappeared
    {newer older : List (ControllerStep R)} {state : ShortcutController R}
    {record : ControllerStep R}
    (execution :
      controllerRuns.Execution (newer ++ record :: older) state)
    (removals :
      ∀ step ∈ newer ++ record :: older, RemovalsSucceed step)
    {session : SessionKey}
    (absent : record.after.managed session = none)
    (present : state.managed session ≠ none) :
    ∃ accepting ∈ newer, Accepts accepting session := by
  induction newer generalizing state with
  | nil =>
      cases execution with
      | step earlier taken =>
          exact absurd absent present
  | cons last rest inductionHypothesis =>
      cases execution with
      | step earlier taken =>
          have earlierRemovals :
              ∀ step ∈ rest ++ record :: older, RemovalsSucceed step :=
            fun step member => removals step (List.mem_cons_of_mem _ member)
          have effect :=
            effect_of_step taken
              (settled_of_execution earlier earlierRemovals)
              (removals last List.mem_cons_self)
          by_cases before : last.before.managed session = none
          · exact ⟨last, List.mem_cons_self, effect.appears before present⟩
          · obtain ⟨accepting, member, accepts⟩ :=
              inductionHypothesis earlier earlierRemovals before
            exact ⟨accepting, List.mem_cons_of_mem _ member, accepts⟩

/-- What renewal keeps stable over a run. -/
structure RoutesStable
    (log : List (ControllerStep R)) (state : ShortcutController R) :
    Prop where
  owners :
    ∀ record ∈ log, ∀ selector,
      record.before.owner selector ≠ record.after.owner selector →
      TakesOver record selector ∨ GivesUp record selector
  undrained : ∀ session, state.manager.phase session ≠ some .draining
  undrainedBefore :
    ∀ record ∈ log, ∀ session,
      record.before.manager.phase session ≠ some .draining
  replaced :
    ∀ newer record older,
      log = newer ++ record :: older →
      ∀ selector session other,
        record.before.owner selector = some session →
        record.after.owner selector = some other →
        session ≠ other →
        record.after.managed session = none ∧
          ∀ regained, state.owner regained = some session →
            ∃ accepting ∈ newer, Accepts accepting session
  undisturbed :
    ∀ record ∈ log, ∀ selector holder replacement,
      record.before.owner selector = some holder →
      replacement ≠ holder →
      Withdraws record replacement holder →
      record.after.owner selector = some holder ∧
        record.after.managed holder = record.before.managed holder ∧
        record.before.manager.table.lookup selector = some ⟨holder⟩ ∧
        record.after.manager.table.lookup selector = some ⟨holder⟩

theorem installed_of_owner
    {self : ShortcutController R} (synced : self.manager.Synced)
    {selector : IpNet} {holder : SessionKey}
    (owns : self.owner selector = some holder) :
    self.manager.table.lookup selector = some ⟨holder⟩ := by
  have installed := (synced selector).symm.trans owns
  obtain ⟨target, found, rfl⟩ := Option.map_eq_some_iff.mp installed
  exact found

/-- Renewal never disturbs a route: owners change by a handshake of their
successor or by their own end. -/
theorem routes_stable_under_renewal
    {log : List (ControllerStep R)} {state : ShortcutController R}
    (execution : controllerRuns.Execution log state)
    (removals : ∀ record ∈ log, RemovalsSucceed record) :
    RoutesStable log state := by
  have effects :
      ∀ record ∈ log,
        Settled record.before ∧ Effect record ∧
          record.before.manager.Synced ∧ record.after.manager.Synced := by
    intro record member
    obtain ⟨older, subset, earlier, taken⟩ :=
      execution.earlier_of_mem member
    have settled :=
      settled_of_execution earlier
        fun step stepMember => removals step (subset stepMember)
    exact ⟨settled, effect_of_step taken settled (removals record member),
      controller_synced_of_execution earlier,
      controller_synced_of_execution (.step earlier taken)⟩
  have final := settled_of_execution execution removals
  constructor
  · intro record member selector changed
    obtain ⟨settled, effect, _⟩ := effects record member
    exact effect.owner_changes settled changed
  · exact final.undrained
  · intro record member
    exact (effects record member).1.undrained
  · intro newer record older split selector session other owned taken apart
    subst split
    have member : record ∈ newer ++ record :: older :=
      List.mem_append_right _ List.mem_cons_self
    have forgotten :=
      (effects record member).2.1.replaced_forgotten owned taken apart
    refine ⟨forgotten, ?_⟩
    intro regained owns
    apply accepted_of_reappeared execution removals forgotten
    obtain ⟨entry, present, _⟩ := final.owned regained session owns
    rw [show state.managed session = some entry from present]
    exact Option.some_ne_none entry
  · intro record member selector holder replacement owns apart withdraws
    obtain ⟨_, effect, syncedBefore, syncedAfter⟩ := effects record member
    obtain ⟨keeps, unchanged⟩ := effect.undisturbed owns apart withdraws
    exact ⟨keeps, unchanged, installed_of_owner syncedBefore owns,
      installed_of_owner syncedAfter keeps⟩

end Runs

/-- A renewal: the ticket of epoch 2 follows that of epoch 1, its first
handshake comes while a rule cannot be installed, its second one takes over,
and then the old session is failed. -/
def renewalCalls : List ControllerCall :=
  [.receiveTicket (testTicket 1) "issuer" 1001 (.ok ()),
    .handleDeviceEvent (.authenticatedHandshake (testTicket 1).session) 1002
      [(testTicket 1).session],
    .receiveTicket (testTicket 2) "issuer" 1003 (.ok ()),
    .handleDeviceEvent (.authenticatedHandshake (testTicket 2).session) 1004
      [],
    .handleDeviceEvent (.authenticatedHandshake (testTicket 2).session) 1005
      [(testTicket 1).session, (testTicket 2).session],
    .fail (testTicket 1).session]

theorem routes_stable_over_renewalCalls :
    ∃ log final,
      controllerRuns.Execution log
        (final :
          ShortcutController
            (SoundRoutes ShortcutManager.ScriptedInstalls)) ∧
      (∀ record ∈ log, RemovalsSucceed record) ∧
      final.owner (testTicket 2).selector = some (testTicket 2).session ∧
      RoutesStable log final := by
  have started :
      controllerRuns.start
        (⟨"recipient", .new (.new ⟨⟨∅, [false, true]⟩⟩)⟩ :
          ShortcutController (SoundRoutes ShortcutManager.ScriptedInstalls)) :=
    ⟨_, _, rfl, rfl⟩
  have ran :
      (controllerRuns.run
          (⟨"recipient", .new (.new ⟨⟨∅, [false, true]⟩⟩)⟩ :
            ShortcutController (SoundRoutes ShortcutManager.ScriptedInstalls))
          renewalCalls).map
        (fun result =>
          (result.1.all fun record =>
              !record.input.removesRoutes || record.output.isOk,
            result.2.owner (testTicket 2).selector)) =
        some (true, some (testTicket 2).session) := by
    decide
  obtain ⟨log, final, execution, observed⟩ :=
    Machine.exists_execution_of_run started ran
  simp only [Prod.mk.injEq, List.all_eq_true] at observed
  obtain ⟨reported, owns⟩ := observed
  have removals : ∀ record ∈ log, RemovalsSucceed record := by
    intro record member removes
    have succeeded := reported record member
    rw [removes] at succeeded
    exact succeeded
  exact ⟨log, final, execution, removals, owns,
    routes_stable_under_renewal execution removals⟩

end ShortcutController

end WgLink
