import WgLink.Shortcut.Device
import WgLink.Shortcut.RouteOwnership
import WgLink.Shortcut.RuleTargets

/-!
# Three levels of routes agree

The manager's sessions, its owners, the records of the atomic route manager,
the userspace table and the policy rules all describe one map from selectors to
sessions.  The proof goes level by level: active sessions are owners, owners
are records, records are entries and rules.
-/

namespace WgLink

open WgLink.Library

namespace ShortcutManager

variable {R : Type}

/-! ## Active sessions are owners -/

/-- Every active session owns its selector. -/
def ActiveOwns (self : ShortcutManager R) : Prop :=
  ∀ session managed,
    self.sessions.lookup session = some managed →
    managed.phase = .active →
    self.activeRoutes.lookup managed.ticket.selector = some session

/-- A step that keeps the owners and adds no active session keeps
`ActiveOwns`. -/
theorem ActiveOwns.of_sessions
    {before after : ShortcutManager R}
    (owns : ActiveOwns before)
    (sameOwners : after.activeRoutes = before.activeRoutes)
    (kept :
      ∀ session managed,
        after.sessions.lookup session = some managed →
        managed.phase = .active →
        before.sessions.lookup session = some managed) :
    ActiveOwns after := by
  intro session managed present active
  rw [sameOwners]
  exact owns session managed (kept session managed present active) active

theorem ActiveOwns.receiveTicket
    {self : ShortcutManager R} (owns : ActiveOwns self)
    (ticket : ShortcutTicket) (sender localKey : String) (now : UInt64) :
    ActiveOwns (self.receiveTicket ticket sender localKey now).1 := by
  rcases receiveTicket_cases self ticket sender localKey now with
    ⟨error, outcome⟩ | ⟨existing, _, _, outcome⟩ | ⟨_, _, _, _, outcome⟩
  · rw [outcome]
    exact owns
  · rw [outcome]
    exact owns
  · rw [outcome]
    refine owns.of_sessions rfl ?_
    intro session managed present active
    simp only [HashMap.lookup_insert_eq_ite] at present
    split at present
    · cases present
      cases active
    · exact present

theorem ActiveOwns.markHandshaking
    {self : ShortcutManager R} (owns : ActiveOwns self)
    (session : SessionKey) :
    ActiveOwns (self.markHandshaking session).1 := by
  rcases markHandshaking_cases self session with
    outcome | ⟨managed, _, _, outcome⟩
  · rw [outcome]
    exact owns
  · rw [outcome]
    refine owns.of_sessions rfl ?_
    intro query other present active
    simp only [HashMap.lookup_insert_eq_ite] at present
    split at present
    · cases present
      cases active
    · exact present

theorem ActiveOwns.retireDraining
    {self : ShortcutManager R} (owns : ActiveOwns self)
    (order : List SessionKey) :
    ActiveOwns (self.retireDraining order).1 := by
  refine owns.of_sessions rfl ?_
  intro session managed present _
  simp only [ShortcutManager.retireDraining, HashMap.lookup_eraseAll]
    at present
  split at present
  · cases present
  · exact present

variable [RouteManager R]

theorem ActiveOwns.authenticatedHandshake
    {self : ShortcutManager R} (owns : ActiveOwns self)
    (session : SessionKey) (now : UInt64) :
    ActiveOwns (self.authenticatedHandshake session now).1 := by
  rcases authenticatedHandshake_cases self session now with
    ⟨⟨error, outcome⟩, _⟩ | ⟨outcome, _⟩ |
      ⟨managed, _, _, _, ⟨error, _, outcome⟩ | ⟨_, outcome⟩⟩
  · rw [outcome]
    exact owns
  · rw [outcome]
    exact owns
  · rw [outcome]
    exact owns.of_sessions rfl fun _ _ present _ => present
  · rw [outcome]
    intro query other present active
    simp only [HashMap.lookup_insert_eq_ite, lookup_drainPrevious]
      at present ⊢
    split at present
    · rename_i same
      cases present
      rw [if_pos rfl, same]
    · rename_i otherSession
      split at present
      · simp only [Option.map_eq_some_iff] at present
        obtain ⟨old, _, rfl⟩ := present
        cases active
      · rename_i notPrevious
        have owner := owns query other present active
        rw [if_neg, owner]
        intro sameSelector
        rw [sameSelector] at owner
        exact notPrevious ⟨owner, otherSession⟩

theorem ActiveOwns.expire
    {self : ShortcutManager R} (owns : ActiveOwns self)
    {now : UInt64} {order expired : List SessionKey}
    (succeeded : (self.expire now order).2 = .ok expired) :
    ActiveOwns (self.expire now order).1 := by
  rcases expire_cases self now order with
    ⟨error, _, outcome⟩ | ⟨_, outcome⟩
  · rw [outcome] at succeeded
    cases succeeded
  · rw [outcome]
    intro session managed present active
    simp only [HashMap.lookup_eraseAll] at present
    split at present
    · cases present
    · rename_i unexpired
      have owner := owns session managed present active
      exact removeExpiredRoutes_keeps self _ owner unexpired

theorem ActiveOwns.fail
    {self : ShortcutManager R} (owns : ActiveOwns self)
    (session : SessionKey) :
    ActiveOwns (self.fail session).1 := by
  have others :
      ∀ query managed,
        (self.fail session).1.sessions.lookup query = some managed →
        query ≠ session ∧ self.sessions.lookup query = some managed := by
    intro query managed present
    rw [fail_sessions, HashMap.lookup_erase_eq_ite] at present
    split at present
    · cases present
    · rename_i apart
      exact ⟨apart, present⟩
  intro query managed present active
  obtain ⟨apart, earlier⟩ := others query managed present
  have owner := owns query managed earlier active
  rcases fail_cases self session with
    ⟨_, outcome⟩ | ⟨failed, _, ⟨_, outcome⟩ |
      ⟨owned, ⟨error, _, outcome⟩ | ⟨_, outcome⟩⟩⟩
  · rw [outcome]
    exact owner
  · rw [outcome]
    exact owner
  · rw [outcome]
    exact owner
  · rw [outcome]
    simp only [HashMap.lookup_erase_eq_ite]
    rw [if_neg, owner]
    intro sameSelector
    rw [sameSelector, owned] at owner
    exact apart (Option.some.inj owner).symm

theorem ActiveOwns.step
    {self next : ShortcutManager R} {operation : Operation}
    {output : Except String Outcome}
    (owns : ActiveOwns self)
    (expires :
      ∀ now order error,
        operation = .expire now order → output ≠ .error error)
    (taken : self.step operation = some (next, output)) :
    ActiveOwns next := by
  have result := leaves_of_step taken
  cases operation with
  | receiveTicket ticket sender localKey now =>
      rw [result.1]
      exact owns.receiveTicket ticket sender localKey now
  | markHandshaking session =>
      rw [show next = _ from result]
      exact owns.markHandshaking session
  | authenticatedHandshake session now =>
      rw [result.1]
      exact owns.authenticatedHandshake session now
  | expire now order =>
      obtain ⟨_, reached, reported⟩ := result
      rw [reached]
      cases outcome : (self.expire now order).2 with
      | error error =>
          rw [outcome] at reported
          exact absurd reported (expires now order error rfl)
      | ok expired =>
          exact owns.expire outcome
  | retireDraining order =>
      rw [result.2]
      exact owns.retireDraining order
  | fail session =>
      rw [result.1]
      exact owns.fail session

/-! ## Routes that are always removed -/

section Willing

variable {Willing : R → Prop}

/-- Deactivating succeeds, and keeps succeeding, where `Willing` holds. -/
def AlwaysRemoves (Willing : R → Prop) : Prop :=
  ∀ routes selector,
    Willing routes →
    (RouteManager.deactivate routes selector).2 = .ok () ∧
      Willing (RouteManager.deactivate routes selector).1

/-- What the loop of `expire` calls is willing. -/
theorem Deactivates.willing
    (removes : AlwaysRemoves Willing)
    {self : ShortcutManager R} {keys : List SessionKey} {routes : R}
    {selector : IpNet} (made : Deactivates self keys routes selector)
    (willing : Willing self.routes) : Willing routes := by
  induction made with
  | here _ _ =>
      exact willing
  | later _ _ _ _ inductionHypothesis =>
      exact inductionHypothesis (removes _ _ willing).2
  | skipped _ _ inductionHypothesis =>
      exact inductionHypothesis willing

theorem expire_succeeds
    (removes : AlwaysRemoves Willing)
    {self : ShortcutManager R} (willing : Willing self.routes)
    (now : UInt64) (order : List SessionKey) :
    (self.expire now order).2 =
      .ok (self.expiredSessions now order) := by
  apply (expire_ok_iff self now order).mpr
  intro routes selector made
  exact (removes routes selector (made.willing removes willing)).1

theorem failRemovesRoute_of_willing
    (removes : AlwaysRemoves Willing)
    {self : ShortcutManager R} (willing : Willing self.routes)
    (session : SessionKey) : FailRemovesRoute self session :=
  fun managed _ _ => (removes self.routes managed.ticket.selector willing).1

end Willing

end ShortcutManager

/-! ## Records are entries and rules -/

namespace AtomicRouteManager

/-- A write of a table whose lock is sound succeeds. -/
theorem write_triple
    {P : Type}
    {before after fails : AtomicRouteManager DeviceRoutes P → Prop}
    {change : HashMap IpNet RouteTarget → HashMap IpNet RouteTarget}
    (sound : ∀ self, before self → self.userspace.poisoned = false)
    (changes :
      ∀ self : AtomicRouteManager DeviceRoutes P,
        before self →
        after
          { self with
            userspace := ⟨change self.userspace.routes, false⟩ }) :
    Triple (fun _ => True) before
      (Fallible.call fun self =>
        ({ self with userspace := (self.userspace.write change).1 },
          (self.userspace.write change).2))
      (fun _ => after) fails := by
  have written :
      ∀ self : AtomicRouteManager DeviceRoutes P,
        before self →
        self.userspace.write change =
          (⟨change self.userspace.routes, false⟩, .ok ()) := by
    intro self holds
    unfold DeviceRoutes.write
    rw [if_neg (by rw [sound self holds]; exact Bool.false_ne_true),
      sound self holds]
  refine Triple.call (fun _ _ => trivial) ?_ ?_
  · intro self _ holds _
    rw [written self holds]
    exact changes self holds
  · intro self error holds failed
    rw [written self holds] at failed
    cases failed

variable {P : Type} [PolicyRules P] [LawfulPolicyRules P]

/-- The three tables of the route manager say the same. -/
structure Agrees (manager : AtomicRouteManager DeviceRoutes P) : Prop where
  sound : manager.userspace.poisoned = false
  entries : manager.entries = manager.active
  rules : manager.rules = manager.active.keys

/-- `activate` is under way: the entry for `selector` is already new. -/
structure Replaced
    (selector : IpNet) (target : RouteTarget) (previous : Option RouteTarget)
    (manager : AtomicRouteManager DeviceRoutes P) : Prop where
  sound : manager.userspace.poisoned = false
  entries : manager.entries = manager.active.insert selector target
  rules : manager.rules = manager.active.keys
  record : manager.active.lookup selector = previous

/-- Only the record for `selector` is missing. -/
structure Unrecorded
    (selector : IpNet) (target : RouteTarget)
    (manager : AtomicRouteManager DeviceRoutes P) : Prop where
  sound : manager.userspace.poisoned = false
  entries : manager.entries = manager.active.insert selector target
  rules : manager.rules = insert selector manager.active.keys

theorem replace_agrees
    (selector : IpNet) (target : RouteTarget)
    (previous : Option RouteTarget) :
    Triple (fun _ => True)
      (fun self : AtomicRouteManager DeviceRoutes P =>
        self.Agrees ∧ self.active.lookup selector = previous)
      (userspaceReplace selector target)
      (fun _ => Replaced selector target previous)
      Agrees := by
  refine write_triple (fun _ before => before.1.sound) ?_
  intro self before
  obtain ⟨agrees, record⟩ := before
  refine ⟨rfl, ?_, agrees.rules, record⟩
  change self.entries.insert selector target =
    self.active.insert selector target
  rw [agrees.entries]

theorem rollback_agrees
    (selector : IpNet) (target : RouteTarget)
    (previous : Option RouteTarget) :
    Triple (fun _ => True)
      (Replaced (P := P) selector target previous)
      (rollback selector previous) (fun _ => Agrees) Agrees := by
  cases previous with
  | none =>
      refine write_triple (fun _ replaced => replaced.sound) ?_
      intro self replaced
      refine ⟨rfl, ?_, replaced.rules⟩
      change self.entries.erase selector = self.active
      rw [replaced.entries]
      exact HashMap.erase_insert target replaced.record
  | some previous =>
      refine write_triple (fun _ replaced => replaced.sound) ?_
      intro self replaced
      refine ⟨rfl, ?_, replaced.rules⟩
      change self.entries.insert selector previous = self.active
      rw [replaced.entries, HashMap.insert_insert]
      exact HashMap.insert_eq_self replaced.record

theorem policyInstall_agrees
    (selector : IpNet) (target : RouteTarget)
    (previous : Option RouteTarget) :
    Triple (fun _ => True)
      (Replaced (P := P) selector target previous)
      (policyInstall selector)
      (fun _ => Unrecorded selector target)
      (Replaced selector target previous) := by
  refine Triple.call (fun _ _ => trivial) ?_ ?_
  · intro self _ replaced succeeded
    refine ⟨replaced.sound, replaced.entries, ?_⟩
    rw [rules, LawfulPolicyRules.install_ok _ _ succeeded, ← replaced.rules]
    rfl
  · intro self _ replaced failed
    refine ⟨replaced.sound, replaced.entries, ?_, replaced.record⟩
    rw [rules, LawfulPolicyRules.install_error _ _ _ failed]
    exact replaced.rules

theorem activate_agrees (selector : IpNet) (target : RouteTarget) :
    Triple (fun _ => True) (Agrees (P := P))
      (activate selector target) (fun _ => Agrees) Agrees := by
  have observed :
      Triple (fun _ => True) (Agrees (P := P))
        (Fallible.read fun self => self.active.lookup selector)
        (fun previous self =>
          self.Agrees ∧ self.active.lookup selector = previous) Agrees :=
    Triple.read fun _ agrees => ⟨agrees, rfl⟩
  refine Triple.bind observed fun previous => ?_
  refine Triple.bind (replace_agrees selector target previous) fun _ => ?_
  refine Triple.bind
    (Triple.recover (policyInstall_agrees selector target previous)
      fun error => ?_) fun _ => ?_
  · exact Triple.bind (rollback_agrees selector target previous)
      fun _ => Triple.fail fun _ agrees => agrees
  · refine Triple.modify fun self unrecorded =>
      ⟨unrecorded.sound, unrecorded.entries, ?_⟩
    exact unrecorded.rules.trans (HashMap.keys_insert _ _ _).symm

/-- Removing a policy rule never fails. -/
def RemovesRules (P : Type) [PolicyRules P] : Prop :=
  ∀ (policy : P) (selector : IpNet),
    (PolicyRules.remove policy selector).2 = .ok ()

theorem deactivate_agrees
    (removes : RemovesRules P) (selector : IpNet) :
    Triple (fun _ => True) (Agrees (P := P))
      (deactivate selector) (fun _ => Agrees) (fun _ => False) := by
  have withoutRule :
      Triple (fun _ => True) (Agrees (P := P)) (policyRemove selector)
        (fun _ self =>
          self.userspace.poisoned = false ∧
          self.entries = self.active ∧
          self.rules = self.active.keys.erase selector)
        (fun _ => False) := by
    refine Triple.call (fun _ _ => trivial) ?_ ?_
    · intro self _ agrees succeeded
      refine ⟨agrees.sound, agrees.entries, ?_⟩
      rw [rules, LawfulPolicyRules.remove_ok _ _ succeeded, ← agrees.rules]
      rfl
    · intro self error _ failed
      rw [removes self.policy selector] at failed
      cases failed
  have withoutEntry :
      Triple (fun _ => True)
        (fun self : AtomicRouteManager DeviceRoutes P =>
          self.userspace.poisoned = false ∧
          self.entries = self.active ∧
          self.rules = self.active.keys.erase selector)
        (userspaceRemove selector)
        (fun _ self =>
          self.userspace.poisoned = false ∧
          self.entries = self.active.erase selector ∧
          self.rules = self.active.keys.erase selector)
        (fun _ => False) := by
    refine write_triple (fun _ before => before.1) ?_
    intro self before
    obtain ⟨_, entriesAgree, rulesAgree⟩ := before
    refine ⟨rfl, ?_, rulesAgree⟩
    change self.entries.erase selector = self.active.erase selector
    rw [entriesAgree]
  refine Triple.bind withoutRule fun _ => Triple.bind withoutEntry fun _ => ?_
  refine Triple.modify fun self before => ⟨before.1, before.2.1, ?_⟩
  exact before.2.2.trans (Finmap.keys_erase selector self.active).symm

theorem Agrees.activate
    {routes : AtomicRouteManager DeviceRoutes P} (agrees : routes.Agrees)
    (selector : IpNet) (target : RouteTarget) :
    Agrees (RouteManager.activate routes selector target).1 := by
  have ends := (activate_agrees selector target routes agrees).2
  cases outcome :
      (AtomicRouteManager.activate selector target routes).result with
  | ok =>
      exact ends.of_ok outcome
  | error error =>
      exact ends.of_error outcome

theorem alwaysRemoves (removes : RemovesRules P) :
    ShortcutManager.AlwaysRemoves (Agrees (P := P)) := by
  intro routes selector agrees
  have ends := (deactivate_agrees removes selector routes agrees).2
  cases outcome : (deactivate selector routes).result with
  | ok =>
      exact ⟨outcome, ends.of_ok outcome⟩
  | error error =>
      exact (ends.of_error outcome).elim

end AtomicRouteManager

/-! ## All levels together -/

namespace ShortcutManager

variable {P : Type} [PolicyRules P] [LawfulPolicyRules P]

/-- The operations over the route manager of a node: a default userspace table
and a policy without rules. -/
def nodeRuns :
    Machine (ShortcutManager (AtomicRouteManager DeviceRoutes P)) Operation
      (Except String Outcome) :=
  machine fun routes =>
    ∃ policy,
      LawfulPolicyRules.rules policy = ∅ ∧
      routes = AtomicRouteManager.new .default policy

/-- Sessions, owners, records, entries and rules are one map. -/
structure LevelsAgree
    (manager : ShortcutManager (AtomicRouteManager DeviceRoutes P)) :
    Prop where
  owners :
    ∀ selector session,
      manager.activeRoutes.lookup selector = some session ↔
        ∃ managed,
          manager.sessions.lookup session = some managed ∧
          managed.phase = .active ∧
          managed.ticket.selector = selector
  oneActive :
    ∀ first second firstManaged secondManaged,
      manager.sessions.lookup first = some firstManaged →
      manager.sessions.lookup second = some secondManaged →
      firstManaged.phase = .active →
      secondManaged.phase = .active →
      firstManaged.ticket.selector = secondManaged.ticket.selector →
      first = second
  records :
    ∀ selector,
      manager.routes.active.lookup selector =
        (manager.activeRoutes.lookup selector).map RouteTarget.mk
  entries :
    ∀ selector,
      manager.routes.userspace.routes.lookup selector =
        (manager.activeRoutes.lookup selector).map RouteTarget.mk
  rules : manager.routes.rules = manager.activeRoutes.keys

/-- A handshake that is refused changes no level. -/
def RefusalChangesNothing
    (log : List (Call (AtomicRouteManager DeviceRoutes P))) : Prop :=
  ∀ call ∈ log, ∀ session now error,
    call.input = .authenticatedHandshake session now →
    call.output = .error error →
    call.after.sessions = call.before.sessions ∧
      call.after.activeRoutes = call.before.activeRoutes ∧
      call.after.routes.active = call.before.routes.active ∧
      call.after.routes.userspace.routes =
        call.before.routes.userspace.routes ∧
      call.after.routes.rules = call.before.routes.rules

/-- The invariant behind `LevelsAgree`, one field for each pair of neighbouring
levels. -/
structure Linked
    (manager : ShortcutManager (AtomicRouteManager DeviceRoutes P)) :
    Prop where
  owned : Owned manager
  activeOwns : ActiveOwns manager
  synced : Synced manager
  agrees : manager.routes.Agrees

theorem Linked.agree
    {manager : ShortcutManager (AtomicRouteManager DeviceRoutes P)}
    (linked : Linked manager) : LevelsAgree manager := by
  have records :
      ∀ selector,
        manager.routes.active.lookup selector =
          (manager.activeRoutes.lookup selector).map RouteTarget.mk := by
    intro selector
    rw [linked.synced selector, Option.map_map]
    exact Option.map_id'.symm
  refine ⟨?_, ?_, records, ?_, ?_⟩
  · intro selector session
    constructor
    · intro owner
      obtain ⟨managed, present, matching, active⟩ :=
        linked.owned selector session owner
      exact ⟨managed, present, active, matching⟩
    · intro owner
      obtain ⟨managed, present, active, rfl⟩ := owner
      exact linked.activeOwns session managed present active
  · intro first second firstManaged secondManaged firstPresent
      secondPresent firstActive secondActive same
    have firstOwns := linked.activeOwns _ _ firstPresent firstActive
    have secondOwns := linked.activeOwns _ _ secondPresent secondActive
    rw [same, secondOwns] at firstOwns
    exact (Option.some.inj firstOwns).symm
  · intro selector
    have same : manager.routes.userspace.routes = manager.routes.active :=
      linked.agrees.entries
    rw [same]
    exact records selector
  · rw [linked.agrees.rules]
    ext selector
    rw [Finmap.mem_keys, Finmap.mem_keys, HashMap.mem_iff_lookup_isSome,
      HashMap.mem_iff_lookup_isSome, records selector, Option.isSome_map]

theorem Linked.step
    (removes : AtomicRouteManager.RemovesRules P)
    {self next : ShortcutManager (AtomicRouteManager DeviceRoutes P)}
    {operation : Operation} {output : Except String Outcome}
    (linked : Linked self)
    (taken : self.step operation = some (next, output)) :
    Linked next := by
  have willing := AtomicRouteManager.alwaysRemoves removes
  have effect := step_effect taken
  refine ⟨?_, ?_, effect.synced linked.synced, ?_⟩
  · refine linked.owned.step ?_ taken
    intro session _
    exact failRemovesRoute_of_willing willing linked.agrees session
  · refine linked.activeOwns.step ?_ taken
    intro now order error isExpire failed
    subst isExpire
    obtain ⟨_, _, reported⟩ := leaves_of_step taken
    rw [expire_succeeds willing linked.agrees, failed] at reported
    cases reported
  · exact effect.routes_invariant
      (fun _ selector target _ agrees => agrees.activate selector target)
      (fun routes selector _ agrees => (willing routes selector agrees).2)
      linked.agrees

theorem linked_of_execution
    (removes : AtomicRouteManager.RemovesRules P)
    {log : List (Call (AtomicRouteManager DeviceRoutes P))}
    {final : ShortcutManager (AtomicRouteManager DeviceRoutes P)}
    (execution : nodeRuns.Execution log final) : Linked final := by
  refine execution.state_invariant ?_ ?_
  · intro manager starts
    obtain ⟨routes, ⟨policy, clear, rfl⟩, rfl⟩ := starts
    refine ⟨Owned.of_new _, ?_, Synced.of_new rfl, rfl, rfl, ?_⟩
    · intro session managed present
      cases present
    · exact clear.trans Finmap.keys_empty.symm
  · intro record linked taken
    exact linked.step removes (step_of_takes taken)

theorem refused_unchanged
    {self : ShortcutManager (AtomicRouteManager DeviceRoutes P)}
    (agrees : self.routes.Agrees)
    {session : SessionKey} {now : UInt64} {error : String}
    (refused :
      (self.authenticatedHandshake session now).2 = .error error) :
    let after := (self.authenticatedHandshake session now).1
    after.sessions = self.sessions ∧
      after.activeRoutes = self.activeRoutes ∧
      after.routes.active = self.routes.active ∧
      after.routes.userspace.routes = self.routes.userspace.routes ∧
      after.routes.rules = self.routes.rules := by
  rcases authenticatedHandshake_cases self session now with
    ⟨⟨_, outcome⟩, _⟩ | ⟨outcome, _⟩ |
      ⟨managed, _, _, _, ⟨_, failed, outcome⟩ | ⟨_, outcome⟩⟩
  · rw [outcome]
    exact ⟨rfl, rfl, rfl, rfl, rfl⟩
  · rw [outcome] at refused
    cases refused
  · rw [outcome]
    have agreesAfter := agrees.activate managed.ticket.selector ⟨session⟩
    have sameRecords :
        (RouteManager.activate self.routes managed.ticket.selector
          ⟨session⟩).1.active = self.routes.active :=
      LawfulRouteManager.activate_error _ _ _ _ failed
    refine ⟨rfl, rfl, sameRecords, ?_, ?_⟩
    · have entriesAfter := agreesAfter.entries
      rw [sameRecords, ← agrees.entries] at entriesAfter
      exact entriesAfter
    · have rulesAfter := agreesAfter.rules
      rw [sameRecords, ← agrees.rules] at rulesAfter
      exact rulesAfter
  · rw [outcome] at refused
    cases refused

/-- After every operation the levels agree, and a refused handshake has left
all of them alone, whichever installs fail. -/
theorem levelsAgree
    (removes : AtomicRouteManager.RemovesRules P)
    {log : List (Call (AtomicRouteManager DeviceRoutes P))}
    {final : ShortcutManager (AtomicRouteManager DeviceRoutes P)}
    (execution : nodeRuns.Execution log final) :
    LevelsAgree final ∧ RefusalChangesNothing log := by
  refine ⟨(linked_of_execution removes execution).agree, ?_⟩
  intro call member session now error isHandshake failed
  obtain ⟨_, _, earlier, taken⟩ := execution.earlier_of_mem member
  have agrees := (linked_of_execution removes earlier).agrees
  have result := leaves_of_step (step_of_takes taken)
  rw [isHandshake] at result
  rw [failed] at result
  rw [result.1]
  cases outcome : (call.before.authenticatedHandshake session now).2 with
  | ok changed =>
      have reported := result.2
      rw [outcome] at reported
      cases reported
  | error reason =>
      exact refused_unchanged agrees outcome

/-! ## A refused install -/

/-- Policy rules whose next installs fail as scripted, and which are always
removed. -/
structure ScriptedInstalls where
  rules : Scripted (Finset IpNet)

instance : PolicyRules ScriptedInstalls where
  install policy selector :=
    let (rules, result) := policy.rules.call fun rules => insert selector rules
    (⟨rules⟩, result)
  remove policy selector :=
    (⟨{ policy.rules with content := policy.rules.content.erase selector }⟩,
      .ok ())

instance : LawfulPolicyRules ScriptedInstalls where
  rules policy := policy.rules.content
  install_ok _ _ succeeded := Scripted.call_ok succeeded
  install_error _ _ _ failed := Scripted.call_error failed
  remove_ok _ _ _ := rfl
  remove_error _ _ _ failed := by cases failed

/-- A renewal whose install fails: the renewed session stays where it is and the
old one keeps its route. -/
theorem levelsAgree_of_refused_install :
    ∃ log final,
      nodeRuns.Execution log
        (final :
          ShortcutManager
            (AtomicRouteManager DeviceRoutes ScriptedInstalls)) ∧
      final.activeRoutes.lookup (testTicket 1).selector =
        some (testTicket 1).session ∧
      LevelsAgree final ∧ RefusalChangesNothing log := by
  have started :
      nodeRuns.start
        (new (AtomicRouteManager.new .default ⟨⟨∅, [false, true]⟩⟩) :
          ShortcutManager
            (AtomicRouteManager DeviceRoutes ScriptedInstalls)) :=
    ⟨_, ⟨_, rfl, rfl⟩, rfl⟩
  have ran :
      (nodeRuns.run
          (new (AtomicRouteManager.new .default ⟨⟨∅, [false, true]⟩⟩) :
            ShortcutManager
              (AtomicRouteManager DeviceRoutes ScriptedInstalls))
          [.receiveTicket (testTicket 1) "issuer" "recipient" 1001,
            .authenticatedHandshake (testTicket 1).session 1002,
            .receiveTicket (testTicket 2) "issuer" "recipient" 1003,
            .authenticatedHandshake (testTicket 2).session 1004]).map
        (fun result =>
          result.2.activeRoutes.lookup (testTicket 1).selector) =
        some (some (testTicket 1).session) := by
    decide
  obtain ⟨log, final, execution, owner⟩ :=
    Machine.exists_execution_of_run started ran
  exact ⟨log, final, execution, owner,
    levelsAgree (fun _ _ => rfl) execution⟩

end ShortcutManager

end WgLink
