import WgLink.Shortcut.Device
import WgLink.Shortcut.RouteAgreement

/-!
# Userspace route lookup

What `DeviceRoutes::lookup` finds, and for which tables the visiting order of
the map does not show.  The table is keyed by selectors with their host bits,
while containment ignores them, so two selectors can be one network.
-/

namespace WgLink

open WgLink.Library

namespace DeviceRoutes

/-- `lookup` is longest-prefix match and depends on nothing but the table. -/
structure WellDefined (device : DeviceRoutes) : Prop where
  longest :
    ∀ destination order target,
      HashMap.Iterates order device.routes →
      device.lookup destination order = some target →
      ∃ selector,
        device.routes.lookup selector = some target ∧
        selector.contains destination = true ∧
        ∀ other ∈ device.routes.keys,
          other.contains destination = true →
          other.prefixLen ≤ selector.prefixLen
  missing :
    ∀ destination order,
      HashMap.Iterates order device.routes →
      (device.lookup destination order = none ↔
        ∀ selector ∈ device.routes.keys,
          selector.contains destination = false)
  independent :
    ∀ destination first second,
      HashMap.Iterates first device.routes →
      HashMap.Iterates second device.routes →
      device.lookup destination first = device.lookup destination second
  unambiguous :
    ∀ destination,
      ∀ first ∈ device.routes.keys, ∀ second ∈ device.routes.keys,
        first.contains destination = true →
        second.contains destination = true →
        first.prefixLen = second.prefixLen →
        first = second

/-- No two selectors of the table are one network. -/
def Separate (self : DeviceRoutes) : Prop :=
  ∀ first ∈ self.routes.keys, ∀ second ∈ self.routes.keys,
    first.trunc = second.trunc → first = second

instance (self : DeviceRoutes) : Decidable (Separate self) :=
  inferInstanceAs
    (Decidable (∀ first ∈ self.routes.keys, ∀ second ∈ self.routes.keys,
      first.trunc = second.trunc → first = second))

section

variable {self : DeviceRoutes} {destination : IpAddr} {order : List IpNet}

theorem lookup_of_sound (sound : self.poisoned = false) :
    self.lookup destination order =
      (maxByKey IpNet.prefixLen
        (order.filter fun network => network.contains destination)).bind
          self.routes.lookup := by
  unfold lookup
  rw [sound, if_neg Bool.false_ne_true]

/-- What is found is the target of a greatest selector among those that
contain the destination. -/
theorem lookup_greatest
    (sound : self.poisoned = false)
    (iterates : HashMap.Iterates order self.routes)
    {target : RouteTarget}
    (found : self.lookup destination order = some target) :
    ∃ selector,
      self.routes.lookup selector = some target ∧
      GreatestBy IpNet.prefixLen
        {network | network ∈ self.routes.keys ∧
          network.contains destination = true}
        selector := by
  rw [lookup_of_sound sound] at found
  obtain ⟨selector, largest, entry⟩ := Option.bind_eq_some_iff.mp found
  have greatest := greatestBy_of_maxByKey largest
  simp only [List.mem_filter, iterates.mem_iff] at greatest
  exact ⟨selector, entry, greatest⟩

theorem lookup_eq_none
    (sound : self.poisoned = false)
    (iterates : HashMap.Iterates order self.routes) :
    self.lookup destination order = none ↔
      ∀ selector ∈ self.routes.keys,
        selector.contains destination = false := by
  rw [lookup_of_sound sound]
  cases largest :
      maxByKey IpNet.prefixLen
        (order.filter fun network => network.contains destination) with
  | none =>
      have nothing := maxByKey_eq_none.mp largest
      rw [List.filter_eq_nil_iff] at nothing
      refine iff_of_true rfl ?_
      intro selector member
      have visited := (iterates.mem_iff selector).mpr member
      exact Bool.eq_false_iff.mpr (nothing selector visited)
  | some selector =>
      obtain ⟨visited, containing⟩ :=
        List.mem_filter.mp (mem_of_maxByKey largest)
      have member := (iterates.mem_iff selector).mp visited
      obtain ⟨target, entry⟩ := Finmap.mem_iff.mp member
      refine iff_of_false ?_ ?_
      · rw [Option.bind_some, entry]
        exact Option.some_ne_none target
      · intro nothing
        rw [nothing selector member] at containing
        cases containing

theorem Separate.injOn (separate : Separate self) :
    Set.InjOn IpNet.prefixLen
      {network | network ∈ self.routes.keys ∧
        network.contains destination = true} := by
  intro first firstMember second secondMember sameLength
  apply separate first firstMember.1 second secondMember.1
  exact IpNet.trunc_eq_of_contains firstMember.2 secondMember.2 sameLength

theorem Separate.lookup_eq
    (separate : Separate self) (sound : self.poisoned = false)
    {first second : List IpNet}
    (firstIterates : HashMap.Iterates first self.routes)
    (secondIterates : HashMap.Iterates second self.routes) :
    self.lookup destination first = self.lookup destination second := by
  cases firstFound : self.lookup destination first with
  | none =>
      have nothing := (lookup_eq_none sound firstIterates).mp firstFound
      exact ((lookup_eq_none sound secondIterates).mpr nothing).symm
  | some firstTarget =>
      cases secondFound : self.lookup destination second with
      | none =>
          have nothing := (lookup_eq_none sound secondIterates).mp secondFound
          rw [(lookup_eq_none sound firstIterates).mpr nothing] at firstFound
          cases firstFound
      | some secondTarget =>
          obtain ⟨firstSelector, firstEntry, firstGreatest⟩ :=
            lookup_greatest sound firstIterates firstFound
          obtain ⟨secondSelector, secondEntry, secondGreatest⟩ :=
            lookup_greatest sound secondIterates secondFound
          have same : firstSelector = secondSelector :=
            firstGreatest.unique separate.injOn secondGreatest
          rw [← firstEntry, ← secondEntry, same]

/-- The lookup in a table is well defined exactly when no network stands in it
twice. -/
theorem wellDefined_iff (sound : self.poisoned = false) :
    WellDefined self ↔ Separate self := by
  constructor
  · intro wellDefined first firstMember second secondMember sameNetwork
    obtain ⟨destination, containing⟩ := first.exists_contains
    refine wellDefined.unambiguous destination first firstMember
      second secondMember containing ?_ ?_
    · rw [← IpNet.contains_trunc, ← sameNetwork, IpNet.contains_trunc]
      exact containing
    · rw [← IpNet.prefixLen_trunc, sameNetwork, IpNet.prefixLen_trunc]
  · intro separate
    constructor
    · intro destination order target iterates found
      obtain ⟨selector, entry, greatest⟩ :=
        lookup_greatest sound iterates found
      refine ⟨selector, entry, greatest.mem.2, ?_⟩
      intro other member containing
      exact greatest.le other ⟨member, containing⟩
    · intro destination order iterates
      exact lookup_eq_none sound iterates
    · intro destination first second firstIterates secondIterates
      exact separate.lookup_eq sound firstIterates secondIterates
    · intro destination first firstMember second secondMember
        firstContains secondContains sameLength
      exact separate.injOn ⟨firstMember, firstContains⟩
        ⟨secondMember, secondContains⟩ sameLength

end

end DeviceRoutes

/-! ## The table along a run -/

namespace AtomicRouteManager

variable {P : Type} [PolicyRules P]

/-- The records of the route manager are the entries of a table whose lock is
sound. -/
structure Mirrors (manager : AtomicRouteManager DeviceRoutes P) : Prop where
  sound : manager.userspace.poisoned = false
  entries : manager.userspace.routes = manager.active

theorem activate_cases
    {self : AtomicRouteManager DeviceRoutes P} (mirrors : Mirrors self)
    (selector : IpNet) (target : RouteTarget) :
    ((PolicyRules.install self.policy selector).2 = .ok () ∧
      RouteManager.activate self selector target =
        ({ userspace :=
             ⟨self.userspace.routes.insert selector target, false⟩
           policy := (PolicyRules.install self.policy selector).1
           active := self.active.insert selector target },
          .ok ())) ∨
    (∃ error,
      (PolicyRules.install self.policy selector).2 = .error error ∧
      RouteManager.activate self selector target =
        ({ self with policy := (PolicyRules.install self.policy selector).1 },
          .error error)) := by
  obtain ⟨⟨routes, poisoned⟩, policy, active⟩ := self
  obtain ⟨sound, entries⟩ := mirrors
  simp only at sound entries
  subst sound entries
  cases installed : PolicyRules.install policy selector with
  | mk next result =>
      cases result with
      | ok =>
          left
          simp [RouteManager.activate, activate, Fallible.read,
            Fallible.recover, Fallible.modify, Fallible.call, bind,
            Fallible.andThen, userspaceReplace, policyInstall,
            UserspaceRoutes.replace, DeviceRoutes.write, installed]
      | error error =>
          right
          refine ⟨error, rfl, ?_⟩
          cases recorded : routes.lookup selector with
          | none =>
              simp [RouteManager.activate, activate, Fallible.read,
                Fallible.recover, Fallible.fail, Fallible.call, bind,
                Fallible.andThen, userspaceReplace, userspaceRemove,
                policyInstall, rollback, UserspaceRoutes.replace,
                UserspaceRoutes.remove, DeviceRoutes.write, installed,
                recorded, HashMap.erase_insert target recorded]
          | some previous =>
              simp [RouteManager.activate, activate, Fallible.read,
                Fallible.recover, Fallible.fail, Fallible.call, bind,
                Fallible.andThen, userspaceReplace, policyInstall, rollback,
                UserspaceRoutes.replace, DeviceRoutes.write, installed,
                recorded, HashMap.insert_eq_self recorded]

theorem deactivate_cases
    {self : AtomicRouteManager DeviceRoutes P} (mirrors : Mirrors self)
    (selector : IpNet) :
    ((PolicyRules.remove self.policy selector).2 = .ok () ∧
      RouteManager.deactivate self selector =
        ({ userspace := ⟨self.userspace.routes.erase selector, false⟩
           policy := (PolicyRules.remove self.policy selector).1
           active := self.active.erase selector },
          .ok ())) ∨
    (∃ error,
      (PolicyRules.remove self.policy selector).2 = .error error ∧
      RouteManager.deactivate self selector =
        ({ self with policy := (PolicyRules.remove self.policy selector).1 },
          .error error)) := by
  obtain ⟨⟨routes, poisoned⟩, policy, active⟩ := self
  obtain ⟨sound, entries⟩ := mirrors
  simp only at sound entries
  subst sound entries
  cases removed : PolicyRules.remove policy selector with
  | mk next result =>
      cases result with
      | ok =>
          left
          simp [RouteManager.deactivate, deactivate, Fallible.modify,
            Fallible.call, bind, Fallible.andThen, userspaceRemove,
            policyRemove, UserspaceRoutes.remove, DeviceRoutes.write, removed]
      | error error =>
          right
          simp [RouteManager.deactivate, deactivate, Fallible.call, bind,
            Fallible.andThen, policyRemove, removed]

theorem Mirrors.activate
    {self : AtomicRouteManager DeviceRoutes P} (mirrors : Mirrors self)
    (selector : IpNet) (target : RouteTarget) :
    Mirrors (RouteManager.activate self selector target).1 := by
  rcases activate_cases mirrors selector target with
    ⟨_, outcome⟩ | ⟨error, _, outcome⟩
  · rw [outcome]
    exact ⟨rfl, by rw [mirrors.entries]⟩
  · rw [outcome]
    exact ⟨mirrors.sound, mirrors.entries⟩

theorem Mirrors.deactivate
    {self : AtomicRouteManager DeviceRoutes P} (mirrors : Mirrors self)
    (selector : IpNet) :
    Mirrors (RouteManager.deactivate self selector).1 := by
  rcases deactivate_cases mirrors selector with
    ⟨_, outcome⟩ | ⟨error, _, outcome⟩
  · rw [outcome]
    exact ⟨rfl, by rw [mirrors.entries]⟩
  · rw [outcome]
    exact ⟨mirrors.sound, mirrors.entries⟩

/-- Removing a route cannot make a table ambiguous. -/
theorem separate_deactivate
    {self : AtomicRouteManager DeviceRoutes P} (mirrors : Mirrors self)
    (separate : self.userspace.Separate) (selector : IpNet) :
    (RouteManager.deactivate self selector).1.userspace.Separate := by
  rcases deactivate_cases mirrors selector with
    ⟨_, outcome⟩ | ⟨error, _, outcome⟩
  · rw [outcome]
    intro first firstMember second secondMember
    simp only [Finmap.keys_erase, Finset.mem_erase]
      at firstMember secondMember
    exact separate first firstMember.2 second secondMember.2
  · rw [outcome]
    exact separate

/-- Activating a selector keeps the table unambiguous exactly when no other
selector of the table is the same network. -/
theorem separate_activate_iff
    {self : AtomicRouteManager DeviceRoutes P} (mirrors : Mirrors self)
    (separate : self.userspace.Separate)
    (selector : IpNet) (target : RouteTarget) :
    (RouteManager.activate self selector target).1.userspace.Separate ↔
      ((PolicyRules.install self.policy selector).2 = .ok () →
        ∀ other ∈ self.userspace.routes.keys,
          other.trunc = selector.trunc → other = selector) := by
  rcases activate_cases mirrors selector target with
    ⟨installed, outcome⟩ | ⟨error, refused, outcome⟩
  · rw [outcome]
    simp only [DeviceRoutes.Separate, HashMap.keys_insert,
      Finset.mem_insert]
    constructor
    · intro separateAfter _ other member sameNetwork
      exact separateAfter other (.inr member) selector (.inl rfl) sameNetwork
    · intro alone first firstMember second secondMember sameNetwork
      rcases firstMember with rfl | firstMember
      · rcases secondMember with rfl | secondMember
        · rfl
        · exact (alone installed second secondMember sameNetwork.symm).symm
      · rcases secondMember with rfl | secondMember
        · exact alone installed first firstMember sameNetwork
        · exact separate first firstMember second secondMember sameNetwork
  · rw [outcome]
    refine iff_of_true separate ?_
    intro installed
    rw [refused] at installed
    cases installed

end AtomicRouteManager

/-- The route managers of a node, whose records mirror a table with a sound
lock. -/
def SoundRoutes (P : Type) [PolicyRules P] : Type :=
  { manager : AtomicRouteManager DeviceRoutes P // manager.Mirrors }

namespace SoundRoutes

variable {P : Type} [PolicyRules P]

/-- A route manager over a default table. -/
def new (policy : P) : SoundRoutes P :=
  ⟨AtomicRouteManager.new .default policy, rfl, rfl⟩

instance : RouteManager (SoundRoutes P) where
  activate routes selector target :=
    (⟨(RouteManager.activate routes.1 selector target).1,
        routes.2.activate selector target⟩,
      (RouteManager.activate routes.1 selector target).2)
  deactivate routes selector :=
    (⟨(RouteManager.deactivate routes.1 selector).1,
        routes.2.deactivate selector⟩,
      (RouteManager.deactivate routes.1 selector).2)

theorem activate_table
    (routes : SoundRoutes P) (selector : IpNet) (target : RouteTarget) :
    ((RouteManager.activate routes selector target).2 = .ok () →
      (RouteManager.activate routes selector target).1.1.userspace.routes =
        routes.1.userspace.routes.insert selector target) ∧
    ∀ error,
      (RouteManager.activate routes selector target).2 = .error error →
      (RouteManager.activate routes selector target).1.1.userspace.routes =
        routes.1.userspace.routes := by
  rcases AtomicRouteManager.activate_cases routes.2 selector target with
    ⟨_, outcome⟩ | ⟨error, _, outcome⟩
  all_goals
    simp only [RouteManager.activate] at outcome ⊢
    rw [Prod.mk.injEq] at outcome
    simp [outcome]

theorem deactivate_table
    (routes : SoundRoutes P) (selector : IpNet) :
    ((RouteManager.deactivate routes selector).2 = .ok () →
      (RouteManager.deactivate routes selector).1.1.userspace.routes =
        routes.1.userspace.routes.erase selector) ∧
    ∀ error,
      (RouteManager.deactivate routes selector).2 = .error error →
      (RouteManager.deactivate routes selector).1.1.userspace.routes =
        routes.1.userspace.routes := by
  rcases AtomicRouteManager.deactivate_cases routes.2 selector with
    ⟨_, outcome⟩ | ⟨error, _, outcome⟩
  all_goals
    simp only [RouteManager.deactivate] at outcome ⊢
    rw [Prod.mk.injEq] at outcome
    simp [outcome]

instance : LawfulRouteManager (SoundRoutes P) where
  table routes := routes.1.userspace.routes
  activate_ok routes selector target :=
    (activate_table routes selector target).1
  activate_error routes selector target :=
    (activate_table routes selector target).2
  deactivate_ok routes selector := (deactivate_table routes selector).1
  deactivate_error routes selector := (deactivate_table routes selector).2

end SoundRoutes

namespace ShortcutManager

section

variable {R : Type} [RouteManager R] {Invariant : R → Prop}

theorem removeExpiredRoutes_routes
    (deactivate :
      ∀ routes selector,
        Invariant routes →
        Invariant (RouteManager.deactivate routes selector).1)
    {self : ShortcutManager R} (held : Invariant self.routes)
    (keys : List SessionKey) :
    Invariant (self.removeExpiredRoutes keys).1.routes := by
  induction keys generalizing self with
  | nil =>
      exact held
  | cons session rest inductionHypothesis =>
      rcases removeExpiredRoutes_cases self session rest with
        ⟨_, skipped⟩ | ⟨managed, _, _, ⟨error, _, outcome⟩ | ⟨_, outcome⟩⟩
      · rw [skipped]
        exact inductionHypothesis held
      · rw [outcome]
        exact deactivate _ _ held
      · rw [outcome]
        exact inductionHypothesis (deactivate _ _ held)

/-- The handshakes that reach `activate`: those of a session that is known,
not expired and not active. -/
def Activates
    (self : ShortcutManager R) (operation : Operation)
    (session : SessionKey) (selector : IpNet) : Prop :=
  ∃ now managed,
    operation = .authenticatedHandshake session now ∧
    self.sessions.lookup session = some managed ∧
    now < managed.ticket.expiresAt ∧
    managed.phase ≠ .active ∧
    selector = managed.ticket.selector

/-- A handshake activates, or leaves the routes alone. -/
theorem handshake_routes
    (self : ShortcutManager R) (session : SessionKey) (now : UInt64) :
    (∃ selector,
      Activates self (.authenticatedHandshake session now) session selector ∧
      (self.authenticatedHandshake session now).1.routes =
        (RouteManager.activate self.routes selector ⟨session⟩).1) ∨
    ((∀ other selector,
        ¬ Activates self (.authenticatedHandshake session now) other
          selector) ∧
      (self.authenticatedHandshake session now).1.routes = self.routes) := by
  rcases authenticatedHandshake_cases self session now with
    ⟨⟨error, outcome⟩, late⟩ | ⟨outcome, active⟩ |
      ⟨managed, present, inTime, inactive, reached⟩
  · right
    rw [outcome]
    refine ⟨?_, rfl⟩
    intro other selector activates
    obtain ⟨_, managed, same, present, inTime, _⟩ := activates
    cases same
    exact UInt64.not_lt.mpr (late managed present) inTime
  · right
    rw [outcome]
    refine ⟨?_, rfl⟩
    intro other selector activates
    obtain ⟨_, managed, same, present, _, inactive, _⟩ := activates
    cases same
    simp only [phase, present, Option.map_some, Option.some.injEq]
      at active
    exact inactive active
  · left
    refine ⟨managed.ticket.selector,
      ⟨now, managed, rfl, present, inTime, inactive, rfl⟩, ?_⟩
    rcases reached with ⟨error, _, outcome⟩ | ⟨_, outcome⟩
    · rw [outcome]
    · rw [outcome]

/-- A step that is not a handshake only deactivates. -/
theorem otherStep_routes
    (deactivate :
      ∀ routes selector,
        Invariant routes →
        Invariant (RouteManager.deactivate routes selector).1)
    {self next : ShortcutManager R} {operation : Operation}
    {output : Except String Outcome}
    (taken : self.step operation = some (next, output))
    (otherwise :
      ∀ session now, operation ≠ .authenticatedHandshake session now)
    (held : Invariant self.routes) :
    Invariant next.routes := by
  have result := leaves_of_step taken
  cases operation with
  | authenticatedHandshake session now =>
      exact absurd rfl (otherwise session now)
  | receiveTicket ticket sender localKey now =>
      rw [result.1]
      rcases receiveTicket_cases self ticket sender localKey now with
        ⟨error, outcome⟩ | ⟨existing, _, _, outcome⟩ | ⟨_, _, _, _, outcome⟩
      all_goals
        rw [outcome]
        exact held
  | markHandshaking session =>
      rw [show next = _ from result]
      rcases markHandshaking_cases self session with
        outcome | ⟨managed, _, _, outcome⟩
      all_goals
        rw [outcome]
        exact held
  | expire now order =>
      rw [result.2.1]
      have removed :=
        removeExpiredRoutes_routes deactivate held
          (self.expiredSessions now order)
      rcases expire_cases self now order with
        ⟨error, _, outcome⟩ | ⟨_, outcome⟩
      all_goals
        rw [outcome]
        exact removed
  | retireDraining order =>
      rw [result.2]
      exact held
  | fail session =>
      rw [result.1]
      rcases fail_cases self session with
        ⟨_, outcome⟩ | ⟨managed, _, ⟨_, outcome⟩ |
          ⟨_, ⟨error, _, outcome⟩ | ⟨_, outcome⟩⟩⟩
      · rw [outcome]
        exact held
      · rw [outcome]
        exact held
      · rw [outcome]
        exact deactivate _ _ held
      · rw [outcome]
        exact deactivate _ _ held

/-- Apart from the activation of a handshake, a step only deactivates. -/
theorem step_routes
    (deactivate :
      ∀ routes selector,
        Invariant routes →
        Invariant (RouteManager.deactivate routes selector).1)
    {self next : ShortcutManager R} {operation : Operation}
    {output : Except String Outcome}
    (taken : self.step operation = some (next, output))
    (held : Invariant self.routes) :
    (∃ session selector,
      Activates self operation session selector ∧
      next.routes =
        (RouteManager.activate self.routes selector ⟨session⟩).1) ∨
    ((∀ session selector, ¬ Activates self operation session selector) ∧
      Invariant next.routes) := by
  by_cases handshake :
      ∃ session now, operation = .authenticatedHandshake session now
  · obtain ⟨session, now, rfl⟩ := handshake
    rw [(leaves_of_step taken).1]
    rcases handshake_routes self session now with
      ⟨selector, activates, routes⟩ | ⟨never, routes⟩
    · exact Or.inl ⟨session, selector, activates, routes⟩
    · rw [routes]
      exact Or.inr ⟨never, held⟩
  · have otherwise :
        ∀ session now, operation ≠ .authenticatedHandshake session now := by
      intro session now same
      exact handshake ⟨session, now, same⟩
    right
    refine ⟨?_, otherStep_routes deactivate taken otherwise held⟩
    intro session selector activates
    obtain ⟨now, _, same, _⟩ := activates
    exact otherwise session now same

end

variable {P : Type} [PolicyRules P]

/-- The operations over a route manager that starts with a default userspace
table. -/
def deviceRuns :
    Machine (ShortcutManager (AtomicRouteManager DeviceRoutes P)) Operation
      (Except String Outcome) :=
  machine fun routes => ∃ policy, routes = AtomicRouteManager.new .default policy

/-- A call does not add a selector that is the same network as another selector
of the table before it. -/
def AddsSeparate (call : Call (AtomicRouteManager DeviceRoutes P)) : Prop :=
  ∀ session selector,
    Activates call.before call.input session selector →
    (PolicyRules.install call.before.routes.policy selector).2 = .ok () →
    ∀ other ∈ call.before.routes.userspace.routes.keys,
      other.trunc = selector.trunc → other = selector

theorem mirrors_of_execution
    {log : List (Call (AtomicRouteManager DeviceRoutes P))}
    {state : ShortcutManager (AtomicRouteManager DeviceRoutes P)}
    (execution : deviceRuns.Execution log state) :
    state.routes.Mirrors := by
  apply @Machine.Execution.state_invariant _ _ _ _
    (fun manager => manager.routes.Mirrors) _ _ _ _ execution
  · intro initial started
    obtain ⟨_, ⟨policy, rfl⟩, rfl⟩ := started
    exact ⟨rfl, rfl⟩
  · intro call mirrors taken
    refine (step_effect (step_of_takes taken)).routes_invariant ?_ ?_ mirrors
    · intro routes selector target _ held
      exact held.activate selector target
    · intro routes selector _ held
      exact held.deactivate selector

/-- From an unambiguous table, a step leads to an unambiguous one exactly when
it does not add a network twice. -/
theorem separate_step_iff
    {call : Call (AtomicRouteManager DeviceRoutes P)}
    (taken : call.before.step call.input = some (call.after, call.output))
    (mirrors : call.before.routes.Mirrors)
    (separate : call.before.routes.userspace.Separate) :
    call.after.routes.userspace.Separate ↔ AddsSeparate call := by
  have deactivate :
      ∀ (routes : AtomicRouteManager DeviceRoutes P) selector,
        routes.Mirrors ∧ routes.userspace.Separate →
        (RouteManager.deactivate routes selector).1.Mirrors ∧
          (RouteManager.deactivate routes selector).1.userspace.Separate := by
    intro routes selector held
    exact ⟨held.1.deactivate selector,
      AtomicRouteManager.separate_deactivate held.1 held.2 selector⟩
  rcases step_routes deactivate taken ⟨mirrors, separate⟩ with
    ⟨session, selector, activates, outcome⟩ | ⟨idle, _, kept⟩
  · rw [outcome, AtomicRouteManager.separate_activate_iff mirrors separate]
    constructor
    · intro alone other otherSelector otherActivates
      have same : otherSelector = selector := by
        obtain ⟨_, managed, input, present, _, _, rfl⟩ := activates
        obtain ⟨_, otherManaged, otherInput, otherPresent, _, _, rfl⟩ :=
          otherActivates
        rw [input] at otherInput
        cases otherInput
        rw [present] at otherPresent
        cases otherPresent
        rfl
      rw [same]
      exact alone
    · intro adds
      exact adds session selector activates
  · refine iff_of_true kept ?_
    intro session selector activates
    exact (idle session selector activates).elim

/-- Along a run every table has a well-defined lookup exactly when no call adds
a selector that is the same network as another one of the table. -/
theorem routeLookup_wellDefined_iff
    {log : List (Call (AtomicRouteManager DeviceRoutes P))}
    {state : ShortcutManager (AtomicRouteManager DeviceRoutes P)}
    (execution : deviceRuns.Execution log state) :
    (state.routes.userspace.WellDefined ∧
      ∀ call ∈ log, call.before.routes.userspace.WellDefined) ↔
      ∀ call ∈ log, AddsSeparate call := by
  induction execution with
  | @start state started =>
      have mirrors := mirrors_of_execution (.start started)
      obtain ⟨_, ⟨policy, rfl⟩, rfl⟩ := started
      have separate :
          (AtomicRouteManager.new .default policy :
            AtomicRouteManager DeviceRoutes P).userspace.Separate := by
        intro first member
        cases member
      have wellDefined :=
        (DeviceRoutes.wellDefined_iff mirrors.sound).mpr separate
      refine iff_of_true ⟨wellDefined, ?_⟩ ?_
      · intro call member
        cases member
      · intro call member
        cases member
  | @step log call earlier taken inductionHypothesis =>
      have mirrors := mirrors_of_execution earlier
      have mirrorsAfter := mirrors_of_execution (.step earlier taken)
      have wellBefore := DeviceRoutes.wellDefined_iff mirrors.sound
      have wellAfter := DeviceRoutes.wellDefined_iff mirrorsAfter.sound
      simp only [List.forall_mem_cons]
      constructor
      · intro wellDefined
        obtain ⟨after, before, older⟩ := wellDefined
        refine ⟨?_, inductionHypothesis.mp ⟨before, older⟩⟩
        rw [← separate_step_iff taken mirrors (wellBefore.mp before)]
        exact wellAfter.mp after
      · intro adds
        obtain ⟨before, older⟩ := inductionHypothesis.mpr adds.2
        refine ⟨wellAfter.mpr ?_, before, older⟩
        rw [separate_step_iff taken mirrors (wellBefore.mp before)]
        exact adds.1

/-- A manager with an empty table whose rules are always installed. -/
def deviceManager :
    ShortcutManager (AtomicRouteManager DeviceRoutes ScriptedInstalls) :=
  new (AtomicRouteManager.new .default ⟨⟨∅, []⟩⟩)

theorem deviceManager_starts : deviceRuns.start deviceManager :=
  ⟨_, ⟨_, rfl⟩, rfl⟩

/-- Two tickets are accepted and their sessions authenticate. -/
def twoRoutes (first second : IpNet) : List Operation :=
  [.receiveTicket { testTicket 1 with selector := first }
      "issuer" "recipient" 1001,
    .authenticatedHandshake (testTicket 1).session 1002,
    .receiveTicket { testTicket 2 with selector := second }
      "issuer" "recipient" 1003,
    .authenticatedHandshake (testTicket 2).session 1004]

/-- 10.0.0.1/24 and 10.0.0.2/24 are one network but two keys of the table, and
the visiting order decides which of the two sessions gets a packet for
10.0.0.3. -/
theorem routeLookup_dependsOnOrder :
    ∃ log final,
      deviceRuns.Execution log
        (final :
          ShortcutManager
            (AtomicRouteManager DeviceRoutes ScriptedInstalls)) ∧
      final.routes.userspace.lookup (.v4 0x0A000003#32)
          [.v4 0x0A000001#32 24, .v4 0x0A000002#32 24] =
        some ⟨(testTicket 2).session⟩ ∧
      final.routes.userspace.lookup (.v4 0x0A000003#32)
          [.v4 0x0A000002#32 24, .v4 0x0A000001#32 24] =
        some ⟨(testTicket 1).session⟩ ∧
      ¬ final.routes.userspace.WellDefined := by
  have ran :
      (deviceRuns.run deviceManager
          (twoRoutes (.v4 0x0A000001#32 24) (.v4 0x0A000002#32 24))).map
        (fun result =>
          (result.2.routes.userspace.routes.keys,
            result.2.routes.userspace.lookup (.v4 0x0A000003#32)
              [.v4 0x0A000001#32 24, .v4 0x0A000002#32 24],
            result.2.routes.userspace.lookup (.v4 0x0A000003#32)
              [.v4 0x0A000002#32 24, .v4 0x0A000001#32 24])) =
        some ({.v4 0x0A000001#32 24, .v4 0x0A000002#32 24},
          some ⟨(testTicket 2).session⟩, some ⟨(testTicket 1).session⟩) := by
    decide
  obtain ⟨log, final, execution, observed⟩ :=
    Machine.exists_execution_of_run deviceManager_starts ran
  simp only [Prod.mk.injEq] at observed
  obtain ⟨keys, forwards, backwards⟩ := observed
  refine ⟨log, final, execution, forwards, backwards, ?_⟩
  intro wellDefined
  have same :=
    wellDefined.independent (.v4 0x0A000003#32)
      [.v4 0x0A000001#32 24, .v4 0x0A000002#32 24]
      [.v4 0x0A000002#32 24, .v4 0x0A000001#32 24]
      ⟨by decide, by rw [keys]; decide⟩ ⟨by decide, by rw [keys]; decide⟩
  rw [forwards, backwards] at same
  revert same
  decide

/-- A host route inside a network: every table of the run is unambiguous and
the longer selector is found. -/
theorem routeLookup_of_nestedSelectors :
    ∃ log final,
      deviceRuns.Execution log
        (final :
          ShortcutManager
            (AtomicRouteManager DeviceRoutes ScriptedInstalls)) ∧
      final.routes.userspace.lookup (.v4 0x0A000001#32)
          [.v4 0x0A000001#32 (Fin.last 32), .v4 0x0A000000#32 24] =
        some ⟨(testTicket 2).session⟩ ∧
      final.routes.userspace.WellDefined ∧
      ∀ call ∈ log, AddsSeparate call := by
  have ran :
      (deviceRuns.run deviceManager
          (twoRoutes (.v4 0x0A000000#32 24)
            (.v4 0x0A000001#32 (Fin.last 32)))).map
        (fun result =>
          (result.2.routes.userspace.lookup (.v4 0x0A000001#32)
              [.v4 0x0A000001#32 (Fin.last 32), .v4 0x0A000000#32 24],
            decide result.2.routes.userspace.Separate,
            result.1.all fun call =>
              decide call.before.routes.userspace.Separate)) =
        some (some ⟨(testTicket 2).session⟩, true, true) := by
    decide
  obtain ⟨log, final, execution, observed⟩ :=
    Machine.exists_execution_of_run deviceManager_starts ran
  simp only [Prod.mk.injEq, decide_eq_true_eq, List.all_eq_true]
    at observed
  obtain ⟨found, separate, separateBefore⟩ := observed
  have wellDefined :
      final.routes.userspace.WellDefined :=
    (DeviceRoutes.wellDefined_iff (mirrors_of_execution execution).sound).mpr
      separate
  refine ⟨log, final, execution, found, wellDefined, ?_⟩
  refine (routeLookup_wellDefined_iff execution).mp ⟨wellDefined, ?_⟩
  intro call member
  obtain ⟨older, _, earlier, _⟩ := execution.earlier_of_mem member
  exact (DeviceRoutes.wellDefined_iff (mirrors_of_execution earlier).sound).mpr
    (separateBefore call member)

end ShortcutManager

end WgLink
