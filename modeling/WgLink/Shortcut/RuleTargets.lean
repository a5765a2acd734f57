import WgLink.Library.Machine
import WgLink.Shortcut.Policy

/-!
# Every rule has a userspace target

Between two backend calls a rule may lack its record in `active`, but never its
entry in the userspace table.  The states between calls are covered by the
`between` part of each triple, the states after a call by its two ends.
-/

namespace WgLink.AtomicRouteManager

open WgLink.Library

variable {U P : Type}

/-! ## The records of the manager -/

private theorem backend_keeps_active
    {records : HashMap IpNet RouteTarget}
    {run :
      AtomicRouteManager U P → AtomicRouteManager U P × Except String Unit}
    (unchanged : ∀ self, (run self).1.active = self.active) :
    Triple (fun _ => True)
      (fun self => self.active = records) (Fallible.call run)
      (fun _ self => self.active = records)
      (fun self => self.active = records) :=
  Triple.call_keeps (fun _ _ => trivial)
    fun self before => (unchanged self).trans before

variable [UserspaceRoutes U] [PolicyRules P]

theorem activate_active
    (selector : IpNet) (target : RouteTarget)
    (records : HashMap IpNet RouteTarget) :
    Triple (fun _ => True)
      (fun self : AtomicRouteManager U P => self.active = records)
      (activate selector target)
      (fun _ self => self.active = records.insert selector target)
      (fun self => self.active = records) := by
  have observed :
      Triple (fun _ => True)
        (fun self : AtomicRouteManager U P => self.active = records)
        (Fallible.read fun self => self.active.lookup selector)
        (fun _ self => self.active = records)
        (fun self => self.active = records) :=
    Triple.read fun _ before => before
  refine Triple.bind observed fun previous => ?_
  refine Triple.bind (backend_keeps_active fun _ => rfl) fun _ => ?_
  refine Triple.bind
    (Triple.recover (backend_keeps_active fun _ => rfl) fun error => ?_)
    fun _ => ?_
  · refine Triple.bind ?_ fun _ => Triple.fail fun _ before => before
    cases previous with
    | none =>
        exact backend_keeps_active fun _ => rfl
    | some previous =>
        exact backend_keeps_active fun _ => rfl
  · refine Triple.modify fun self before => ?_
    rw [before]

theorem deactivate_active
    (selector : IpNet) (records : HashMap IpNet RouteTarget) :
    Triple (fun _ => True)
      (fun self : AtomicRouteManager U P => self.active = records)
      (deactivate selector)
      (fun _ self => self.active = records.erase selector)
      (fun self => self.active = records) := by
  refine Triple.bind (backend_keeps_active fun _ => rfl) fun _ => ?_
  refine Triple.bind (backend_keeps_active fun _ => rfl) fun _ => ?_
  refine Triple.modify fun self before => ?_
  rw [before]

/-- The records are the route table that the shortcut manager sees. -/
instance : LawfulRouteManager (AtomicRouteManager U P) where
  table := AtomicRouteManager.active
  activate_ok routes selector target succeeded :=
    (activate_active selector target routes.active routes rfl).2.of_ok
      succeeded
  activate_error routes selector target _ failed :=
    (activate_active selector target routes.active routes rfl).2.of_error
      failed
  deactivate_ok routes selector succeeded :=
    (deactivate_active selector routes.active routes rfl).2.of_ok succeeded
  deactivate_error routes selector _ failed :=
    (deactivate_active selector routes.active routes rfl).2.of_error failed

/-! ## What a backend call can do -/

section Backends

theorem mem_entries_replace
    [LawfulUserspaceRoutes U] (userspace : U)
    (selector : IpNet) (target : RouteTarget) {query : IpNet}
    (present : query ∈ LawfulUserspaceRoutes.entries userspace) :
    query ∈ LawfulUserspaceRoutes.entries
      (UserspaceRoutes.replace userspace selector target).1 := by
  cases outcome :
      (UserspaceRoutes.replace userspace selector target).2 with
  | ok =>
      rw [LawfulUserspaceRoutes.replace_ok _ _ _ outcome, Finmap.mem_insert]
      exact Or.inr present
  | error error =>
      rw [LawfulUserspaceRoutes.replace_error _ _ _ _ outcome]
      exact present

theorem mem_entries_remove
    [LawfulUserspaceRoutes U] (userspace : U)
    {selector query : IpNet} (apart : query ≠ selector)
    (present : query ∈ LawfulUserspaceRoutes.entries userspace) :
    query ∈ LawfulUserspaceRoutes.entries
      (UserspaceRoutes.remove userspace selector).1 := by
  cases outcome : (UserspaceRoutes.remove userspace selector).2 with
  | ok =>
      rw [LawfulUserspaceRoutes.remove_ok _ _ outcome, Finmap.mem_erase]
      exact ⟨apart, present⟩
  | error error =>
      rw [LawfulUserspaceRoutes.remove_error _ _ _ outcome]
      exact present

theorem mem_rules_install
    [LawfulPolicyRules P] (policy : P) (selector : IpNet) {query : IpNet}
    (installed :
      query ∈ LawfulPolicyRules.rules
        (PolicyRules.install policy selector).1) :
    query = selector ∨ query ∈ LawfulPolicyRules.rules policy := by
  cases outcome : (PolicyRules.install policy selector).2 with
  | ok =>
      rw [LawfulPolicyRules.install_ok _ _ outcome] at installed
      exact Finset.mem_insert.mp installed
  | error error =>
      rw [LawfulPolicyRules.install_error _ _ _ outcome] at installed
      exact Or.inr installed

theorem mem_rules_remove
    [LawfulPolicyRules P] (policy : P) (selector : IpNet) {query : IpNet}
    (installed :
      query ∈ LawfulPolicyRules.rules
        (PolicyRules.remove policy selector).1) :
    query ∈ LawfulPolicyRules.rules policy := by
  cases outcome : (PolicyRules.remove policy selector).2 with
  | ok =>
      rw [LawfulPolicyRules.remove_ok _ _ outcome] at installed
      exact Finset.mem_of_mem_erase installed
  | error error =>
      rw [LawfulPolicyRules.remove_error _ _ _ outcome] at installed
      exact installed

end Backends

/-! ## Rules and entries -/

section Lawful

variable [LawfulUserspaceRoutes U] [LawfulPolicyRules P]

/-- The installed policy rules. -/
def rules (self : AtomicRouteManager U P) : Finset IpNet :=
  LawfulPolicyRules.rules self.policy

/-- The userspace route table. -/
def entries (self : AtomicRouteManager U P) : HashMap IpNet RouteTarget :=
  LawfulUserspaceRoutes.entries self.userspace

/-- Every selector with an installed rule has an entry. -/
def RulesTargeted (self : AtomicRouteManager U P) : Prop :=
  ∀ selector ∈ self.rules, selector ∈ self.entries

/-- What holds before and after every call of the manager: every selector with
an installed rule has an entry and a record. -/
structure Covered (manager : AtomicRouteManager U P) : Prop where
  targeted : manager.RulesTargeted
  recorded : ∀ selector ∈ manager.rules, selector ∈ manager.active

/-- `activate` is under way for a selector that had the record `previous`. -/
def Staged
    (selector : IpNet) (previous : Option RouteTarget)
    (self : AtomicRouteManager U P) : Prop :=
  self.Covered ∧ self.active.lookup selector = previous

/-- The rule for `selector` may already stand without a record. -/
structure Installed
    (selector : IpNet) (manager : AtomicRouteManager U P) : Prop where
  targeted : manager.RulesTargeted
  recorded :
    ∀ other ∈ manager.rules, other ≠ selector → other ∈ manager.active

theorem Covered.replace
    {self : AtomicRouteManager U P} (covered : self.Covered)
    (selector : IpNet) (target : RouteTarget) :
    Covered
      { self with
        userspace :=
          (UserspaceRoutes.replace self.userspace selector target).1 } := by
  refine ⟨?_, covered.recorded⟩
  intro query installed
  exact mem_entries_replace _ _ _ (covered.targeted query installed)

theorem Covered.remove
    {self : AtomicRouteManager U P} (covered : self.Covered)
    {selector : IpNet} (unruled : selector ∉ self.rules) :
    Covered
      { self with
        userspace :=
          (UserspaceRoutes.remove self.userspace selector).1 } := by
  refine ⟨?_, covered.recorded⟩
  intro query installed
  have apart : query ≠ selector := by
    intro same
    exact unruled (same ▸ installed)
  exact mem_entries_remove _ apart (covered.targeted query installed)

theorem Staged.unruled
    {selector : IpNet} {self : AtomicRouteManager U P}
    (staged : Staged selector none self) : selector ∉ self.rules := by
  intro installed
  have recorded := staged.1.recorded selector installed
  rw [HashMap.mem_iff_lookup_isSome, staged.2] at recorded
  cases recorded

/-- The rollback takes the entry away only when no rule can stand. -/
theorem rollback_covered
    (selector : IpNet) (previous : Option RouteTarget) :
    Triple RulesTargeted (Staged (U := U) (P := P) selector previous)
      (rollback selector previous) (fun _ => Covered) Covered := by
  cases previous with
  | none =>
      have removed :
          ∀ self : AtomicRouteManager U P,
            Staged selector none self →
            Covered
              { self with
                userspace :=
                  (UserspaceRoutes.remove self.userspace selector).1 } :=
        fun _ staged => staged.1.remove staged.unruled
      exact Triple.call
        (fun self staged => (removed self staged).targeted)
        (fun self _ staged _ => removed self staged)
        (fun self _ staged _ => removed self staged)
  | some previous =>
      exact Triple.call
        (fun self staged => (staged.1.replace selector previous).targeted)
        (fun self _ staged _ => staged.1.replace selector previous)
        (fun self _ staged _ => staged.1.replace selector previous)

theorem policyInstall_covered
    (selector : IpNet) (previous : Option RouteTarget) :
    Triple RulesTargeted
      (fun self : AtomicRouteManager U P =>
        Staged selector previous self ∧ selector ∈ self.entries)
      (policyInstall selector)
      (fun _ => Installed selector) (Staged selector previous) := by
  have targeted :
      ∀ self : AtomicRouteManager U P,
        Staged selector previous self ∧ selector ∈ self.entries →
        RulesTargeted
          { self with
            policy := (PolicyRules.install self.policy selector).1 } := by
    intro self prepared query installed
    obtain ⟨staged, present⟩ := prepared
    rcases mem_rules_install _ _ installed with rfl | earlier
    · exact present
    · exact staged.1.targeted query earlier
  refine Triple.call targeted ?_ ?_
  · intro self _ before _
    refine ⟨targeted self before, ?_⟩
    intro other installed apart
    rcases mem_rules_install _ _ installed with same | earlier
    · exact absurd same apart
    · exact before.1.1.recorded other earlier
  · intro self error before failed
    refine ⟨⟨targeted self before, ?_⟩, before.1.2⟩
    intro query installed
    rw [rules, LawfulPolicyRules.install_error _ _ _ failed] at installed
    exact before.1.1.recorded query installed

theorem userspaceReplace_covered
    (selector : IpNet) (target : RouteTarget)
    (previous : Option RouteTarget) :
    Triple RulesTargeted (Staged (U := U) (P := P) selector previous)
      (userspaceReplace selector target)
      (fun _ self =>
        Staged selector previous self ∧ selector ∈ self.entries)
      Covered := by
  refine Triple.call
    (fun self staged => (staged.1.replace selector target).targeted) ?_
    (fun self _ staged _ => staged.1.replace selector target)
  intro self _ staged succeeded
  refine ⟨⟨staged.1.replace selector target, staged.2⟩, ?_⟩
  rw [entries, LawfulUserspaceRoutes.replace_ok _ _ _ succeeded]
  exact Finmap.mem_insert.mpr (Or.inl rfl)

theorem activate_covered (selector : IpNet) (target : RouteTarget) :
    Triple RulesTargeted (Covered (U := U) (P := P))
      (activate selector target) (fun _ => Covered) Covered := by
  have observed :
      Triple RulesTargeted (Covered (U := U) (P := P))
        (Fallible.read fun self => self.active.lookup selector)
        (Staged selector) Covered :=
    Triple.read fun _ covered => ⟨covered, rfl⟩
  refine Triple.bind observed fun previous => ?_
  refine Triple.bind (userspaceReplace_covered selector target previous)
    fun _ => ?_
  refine Triple.bind
    (Triple.recover (policyInstall_covered selector previous)
      fun error => ?_) fun _ => ?_
  · exact Triple.bind (rollback_covered selector previous)
      fun _ => Triple.fail fun _ covered => covered
  · refine Triple.modify fun self installed => ⟨installed.targeted, ?_⟩
    intro query ruled
    rw [Finmap.mem_insert]
    by_cases same : query = selector
    · exact Or.inl same
    · exact Or.inr (installed.recorded query ruled same)

theorem policyRemove_covered (selector : IpNet) :
    Triple RulesTargeted (Covered (U := U) (P := P))
      (policyRemove selector)
      (fun _ self => self.Covered ∧ selector ∉ self.rules) Covered := by
  have removed :
      ∀ self : AtomicRouteManager U P,
        self.Covered →
        Covered
          { self with
            policy := (PolicyRules.remove self.policy selector).1 } := by
    intro self covered
    constructor
    · intro query installed
      exact covered.targeted query (mem_rules_remove _ _ installed)
    · intro query installed
      exact covered.recorded query (mem_rules_remove _ _ installed)
  refine Triple.call (fun self covered => (removed self covered).targeted)
    ?_ (fun self _ covered _ => removed self covered)
  intro self _ covered succeeded
  refine ⟨removed self covered, ?_⟩
  rw [rules, LawfulPolicyRules.remove_ok _ _ succeeded]
  exact Finset.notMem_erase selector _

theorem userspaceRemove_covered (selector : IpNet) :
    Triple RulesTargeted
      (fun self : AtomicRouteManager U P =>
        self.Covered ∧ selector ∉ self.rules)
      (userspaceRemove selector)
      (fun _ self => self.Covered ∧ selector ∉ self.rules) Covered :=
  Triple.call
    (fun _ before => (before.1.remove before.2).targeted)
    (fun _ _ before _ => ⟨before.1.remove before.2, before.2⟩)
    (fun _ _ before _ => before.1.remove before.2)

theorem deactivate_covered (selector : IpNet) :
    Triple RulesTargeted (Covered (U := U) (P := P))
      (deactivate selector) (fun _ => Covered) Covered := by
  refine Triple.bind (policyRemove_covered selector) fun _ => ?_
  refine Triple.bind (userspaceRemove_covered selector) fun _ => ?_
  refine Triple.modify fun self before => ⟨before.1.targeted, ?_⟩
  intro query ruled
  have apart : query ≠ selector := by
    intro same
    exact before.2 (same ▸ ruled)
  exact Finmap.mem_erase.mpr ⟨apart, before.1.recorded query ruled⟩

/-! ## Histories of calls -/

/-- A call of the route manager. -/
inductive RouteCall where
  | activate (selector : IpNet) (target : RouteTarget)
  | deactivate (selector : IpNet)

/-- The program that a call runs. -/
def program : RouteCall → Fallible (AtomicRouteManager U P) Unit
  | .activate selector target => activate selector target
  | .deactivate selector => deactivate selector

/-- The calls of a route manager over a policy without rules, each with the
states it passes through. -/
def calls :
    Machine (AtomicRouteManager U P) RouteCall
      (List (AtomicRouteManager U P) × Except String Unit) where
  start manager :=
    ∃ userspace policy,
      LawfulPolicyRules.rules policy = ∅ ∧ manager = new userspace policy
  step self call :=
    let trail := program call self
    some (trail.state, trail.visited, trail.result)

theorem program_covered (call : RouteCall) :
    Triple RulesTargeted (Covered (U := U) (P := P))
      (program call) (fun _ => Covered) Covered := by
  cases call with
  | activate selector target =>
      exact activate_covered selector target
  | deactivate selector =>
      exact deactivate_covered selector

theorem Covered.step
    {record :
      Record (AtomicRouteManager U P) RouteCall
        (List (AtomicRouteManager U P) × Except String Unit)}
    (covered : record.before.Covered) (taken : calls.Takes record) :
    (∀ point ∈ record.output.1, RulesTargeted point) ∧
      record.after.Covered := by
  obtain ⟨points, ends⟩ := program_covered record.input _ covered
  have reached :
      ((program record.input record.before).state,
        (program record.input record.before).visited,
        (program record.input record.before).result) =
        (record.after, record.output) :=
    Option.some.inj taken
  have state := congrArg Prod.fst reached
  have visited := congrArg (fun result => result.2.1) reached
  simp only at state visited
  rw [← state, ← visited]
  refine ⟨points, ?_⟩
  cases outcome : (program record.input record.before).result with
  | ok =>
      exact ends.of_ok outcome
  | error error =>
      exact ends.of_error outcome

theorem covered_of_execution
    {log :
      List (Record (AtomicRouteManager U P) RouteCall
        (List (AtomicRouteManager U P) × Except String Unit))}
    {final : AtomicRouteManager U P}
    (execution : calls.Execution log final) : final.Covered := by
  refine execution.state_invariant ?_ fun _ covered taken =>
    (covered.step taken).2
  intro manager starts
  obtain ⟨userspace, policy, clear, rfl⟩ := starts
  have unruled : ∀ selector, selector ∉ (new userspace policy).rules := by
    intro selector ruled
    rw [rules, new, clear] at ruled
    exact Finset.notMem_empty selector ruled
  exact ⟨fun selector ruled => absurd ruled (unruled selector),
    fun selector ruled => absurd ruled (unruled selector)⟩

/-- No history of calls, whichever backend calls fail in it, reaches a rule
without an entry, after a call or inside one. -/
theorem rulesTargeted_at_every_point
    {log :
      List (Record (AtomicRouteManager U P) RouteCall
        (List (AtomicRouteManager U P) × Except String Unit))}
    {final : AtomicRouteManager U P}
    (execution : calls.Execution log final) :
    final.RulesTargeted ∧
      ∀ record ∈ log,
        record.before.RulesTargeted ∧
        ∀ point ∈ record.output.1, point.RulesTargeted := by
  refine ⟨(covered_of_execution execution).targeted, ?_⟩
  intro record member
  obtain ⟨_, _, earlier, taken⟩ := execution.earlier_of_mem member
  have covered := covered_of_execution earlier
  exact ⟨covered.targeted, (covered.step taken).1⟩

end Lawful

/-! ## Scripted backends -/

abbrev MockUserspace := Scripted (HashMap IpNet RouteTarget)

instance : UserspaceRoutes MockUserspace where
  replace userspace selector target :=
    userspace.call fun entries => entries.insert selector target
  remove userspace selector :=
    userspace.call fun entries => entries.erase selector

instance : LawfulUserspaceRoutes MockUserspace where
  entries := Scripted.content
  replace_ok _ _ _ succeeded := Scripted.call_ok succeeded
  replace_error _ _ _ _ failed := Scripted.call_error failed
  remove_ok _ _ succeeded := Scripted.call_ok succeeded
  remove_error _ _ _ failed := Scripted.call_error failed

abbrev MockPolicy := Scripted (Finset IpNet)

instance : PolicyRules MockPolicy where
  install policy selector := policy.call fun rules => insert selector rules
  remove policy selector := policy.call fun rules => rules.erase selector

instance : LawfulPolicyRules MockPolicy where
  rules := Scripted.content
  install_ok _ _ succeeded := Scripted.call_ok succeeded
  install_error _ _ _ failed := Scripted.call_error failed
  remove_ok _ _ succeeded := Scripted.call_ok succeeded
  remove_error _ _ _ failed := Scripted.call_error failed

/-- A replacement whose install fails and whose rollback fails too leaves the
rule with the new target. -/
theorem rulesTargeted_of_failed_rollback :
    ∃ log final,
      calls.Execution log
        (final : AtomicRouteManager MockUserspace MockPolicy) ∧
      (final.rules = {(testTicket 1).selector} ∧
        final.entries.lookup (testTicket 1).selector =
          some ⟨(testTicket 2).session⟩ ∧
        final.active.lookup (testTicket 1).selector =
          some ⟨(testTicket 1).session⟩) ∧
      final.RulesTargeted := by
  have started :
      calls.start
        (new ⟨∅, [false, false, true]⟩ ⟨∅, [false, true]⟩ :
          AtomicRouteManager MockUserspace MockPolicy) :=
    ⟨_, _, rfl, rfl⟩
  have ran :
      (calls.run
          (new ⟨∅, [false, false, true]⟩ ⟨∅, [false, true]⟩ :
            AtomicRouteManager MockUserspace MockPolicy)
          [.activate (testTicket 1).selector ⟨(testTicket 1).session⟩,
            .activate (testTicket 1).selector ⟨(testTicket 2).session⟩]).map
        (fun result =>
          (result.2.rules,
            result.2.entries.lookup (testTicket 1).selector,
            result.2.active.lookup (testTicket 1).selector)) =
        some ({(testTicket 1).selector}, some ⟨(testTicket 2).session⟩,
          some ⟨(testTicket 1).session⟩) := by
    decide
  obtain ⟨log, final, execution, state⟩ :=
    Machine.exists_execution_of_run started ran
  simp only [Prod.mk.injEq] at state
  exact ⟨log, final, execution, state,
    (rulesTargeted_at_every_point execution).1⟩

end WgLink.AtomicRouteManager
