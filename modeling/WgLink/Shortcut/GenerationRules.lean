import WgLink.Shortcut.RuleKernel

/-!
# The rules of a generation

A generation starts by cleaning the rule tables, whatever an earlier one has
left in them, and then changes them only through its route manager.
-/

namespace WgLink

open WgLink.Library
open LawfulIpTool (rules)

/-- A ticket that is received is for a prefix that is longer than 0. -/
def Operation.GivesDestination : Operation → Prop
  | .receiveTicket ticket _ _ _ => 0 < ticket.selector.prefixLen
  | _ => True

instance (operation : Operation) : Decidable operation.GivesDestination :=
  match operation with
  | .receiveTicket ticket _ _ _ =>
      inferInstanceAs (Decidable (0 < ticket.selector.prefixLen))
  | .markHandshaking _ | .authenticatedHandshake _ _ | .expire _ _
  | .retireDraining _ | .fail _ => isTrue trivial

namespace ShortcutManager

variable {K : Type} [IpTool K] [LawfulIpTool K] {display : Display}
  [ExactIpTool K display] {hash : Hash} {policy : SystemPolicy} {kernel : K}

/-- The operations of a generation that has started up on a kernel. -/
def generationRuns (display : Display) [ExactIpTool K display] (hash : Hash)
    (policy : SystemPolicy) (kernel : K)
    (started : (policy.startUp kernel).result = .ok ()) :
    Machine
      (ShortcutManager
        (AtomicRouteManager DeviceRoutes (KernelPolicy K display hash)))
      Operation (Except String Outcome) :=
  machine fun routes =>
    routes = AtomicRouteManager.new .default (.start policy kernel started)

variable {started : (policy.startUp kernel).result = .ok ()}
  {log :
    List
      (Call
        (AtomicRouteManager DeviceRoutes (KernelPolicy K display hash)))}
  {final :
    ShortcutManager
      (AtomicRouteManager DeviceRoutes (KernelPolicy K display hash))}

/-- Records, entries and rules agree, the manager knows them, the policy is the
one of the start, and no session has a selector of length 0. -/
structure Kept (policy : SystemPolicy) (foreign : Family → List KernelRule)
    (manager :
      ShortcutManager
        (AtomicRouteManager DeviceRoutes (KernelPolicy K display hash))) :
    Prop where
  synced : Synced manager
  agrees : manager.routes.Agrees
  based : manager.routes.policy.Based policy foreign
  long : ∀ selector, manager.Names selector → 0 < selector.prefixLen

theorem Kept.step
    {foreign : Family → List KernelRule}
    {self next :
      ShortcutManager
        (AtomicRouteManager DeviceRoutes (KernelPolicy K display hash))}
    {operation : Operation} {output : Except String Outcome}
    (kept : Kept policy foreign self)
    (destination : operation.GivesDestination)
    (taken : self.step operation = some (next, output)) :
    Kept policy foreign next := by
  have effect := step_effect taken
  refine ⟨effect.synced kept.synced, ?_, ?_, ?_⟩
  · exact effect.routes_invariant
      (fun _ selector target _ agrees => agrees.activate selector target)
      (fun _ selector _ agrees => agrees.deactivate selector) kept.agrees
  · exact effect.routes_invariant
      (fun routes selector target named based =>
        AtomicRouteManager.activate_keeps
          (fun _ holds => holds.install (kept.long selector named)) routes
          target based)
      (fun routes selector named based =>
        AtomicRouteManager.deactivate_keeps
          (fun _ holds => holds.remove (kept.long selector named)) routes
          based)
      kept.based
  · rintro selector ⟨session, managed, present, rfl⟩
    rcases step_tickets taken session managed present with
      ⟨earlier, before, same⟩ | ⟨sender, localKey, now, received, _⟩
    · rw [same]
      exact kept.long _ ⟨session, earlier, before, rfl⟩
    · rw [received] at destination
      exact destination

theorem kept_of_generation
    (execution :
      (generationRuns display hash policy kernel started).Execution log
        final)
    (destinations : ∀ past ∈ log, past.input.GivesDestination) :
    Kept policy (rules (policy.startUp kernel).state) final := by
  induction execution with
  | start starts =>
      obtain ⟨routes, rfl, rfl⟩ := starts
      refine ⟨Synced.of_new rfl, ⟨rfl, rfl, ?_⟩, ⟨rfl, rfl, rfl⟩, ?_⟩
      · exact Finmap.keys_empty.symm
      · rintro selector ⟨session, managed, present, _⟩
        cases present
  | @step older record earlier taken inductionHypothesis =>
      have kept :=
        inductionHypothesis fun past member =>
          destinations past (List.mem_cons_of_mem record member)
      exact
        kept.step (destinations record List.mem_cons_self)
          (step_of_takes taken)

/-- A generation is a run of the manager of a node. -/
theorem linked_of_generation
    (removes :
      AtomicRouteManager.RemovesRules (KernelPolicy K display hash))
    (execution :
      (generationRuns display hash policy kernel started).Execution log
        final) :
    Linked final := by
  refine execution.state_invariant ?_ ?_
  · intro manager starts
    obtain ⟨routes, rfl, rfl⟩ := starts
    refine ⟨Owned.of_new _, ?_, Synced.of_new rfl, rfl, rfl, ?_⟩
    · intro session managed present
      cases present
    · exact Finmap.keys_empty.symm
  · intro record linked taken
    exact linked.step removes (step_of_takes taken)

theorem Kept.selectors
    {foreign : Family → List KernelRule} (kept : Kept policy foreign final) :
    final.routes.policy.selectors = final.activeRoutes.keys := by
  have sameRules : final.routes.policy.selectors = final.routes.active.keys :=
    kept.agrees.rules
  rw [sameRules]
  ext selector
  have known :
      final.activeRoutes.lookup selector =
        (final.routes.active.lookup selector).map RouteTarget.session :=
    kept.synced selector
  rw [Finmap.mem_keys, Finmap.mem_keys, HashMap.mem_iff_lookup_isSome,
    HashMap.mem_iff_lookup_isSome, known, Option.isSome_map]

/-- The rules of a kernel are those of the selectors that have a route, and
the rules of others. -/
theorem rules_of_generation
    (execution :
      (generationRuns display hash policy kernel started).Execution log
        final)
    (destinations : ∀ past ∈ log, past.input.GivesDestination) :
    HoldsRules (policy.ruleOf K display hash)
      (rules (policy.startUp kernel).state) final.activeRoutes.keys
      (rules final.routes.policy.kernel) := by
  have kept := kept_of_generation execution destinations
  have holds := final.routes.policy.holds kept.based.exact
  unfold SystemPolicy.Holds at holds
  rw [kept.based.policy, kept.based.foreign, kept.selectors] at holds
  exact holds

theorem mem_routes_of_generation
    (removes :
      AtomicRouteManager.RemovesRules (KernelPolicy K display hash))
    (execution :
      (generationRuns display hash policy kernel started).Execution log
        final)
    (selector : IpNet) :
    selector ∈ final.activeRoutes.keys ↔
      ∃ session managed,
        final.sessions.lookup session = some managed ∧
          managed.phase = .active ∧
          managed.ticket.selector = selector := by
  have agree := (linked_of_generation removes execution).agree
  rw [Finmap.mem_keys, HashMap.mem_iff_lookup_isSome,
    Option.isSome_iff_exists]
  constructor
  · rintro ⟨session, owner⟩
    exact ⟨session, (agree.owners selector session).mp owner⟩
  · rintro ⟨session, managed⟩
    exact ⟨session, (agree.owners selector session).mpr managed⟩

/-- After every operation of a generation the managed rules of the kernel are
those of the selectors that have a route, one for each, and all other rules are
as the start left them, as long as no ticket has a selector of length 0.  If
rules can be removed these are the selectors of the active sessions. -/
theorem kernel_rules_follow_sessions
    (execution :
      (generationRuns display hash policy kernel started).Execution log
        final)
    (destinations : ∀ past ∈ log, past.input.GivesDestination)
    (family : Family) :
    (rules final.routes.policy.kernel family).filter
        (fun rule => !rule.managed) =
      rules (policy.startUp kernel).state family ∧
    (((rules final.routes.policy.kernel family).filter
          KernelRule.managed : List KernelRule) : Multiset KernelRule) =
      (final.activeRoutes.keys.filter fun selector =>
        selector.family = family).val.map
        (policy.ruleOf K display hash) ∧
    (AtomicRouteManager.RemovesRules (KernelPolicy K display hash) →
      ∀ selector,
        selector ∈ final.activeRoutes.keys ↔
          ∃ session managed,
            final.sessions.lookup session = some managed ∧
              managed.phase = .active ∧
              managed.ticket.selector = selector) := by
  have holds := rules_of_generation execution destinations
  exact ⟨holds.foreign family, holds.managed family,
    fun removes => mem_routes_of_generation removes execution⟩

/-- Every session has expired at the end of time. -/
theorem expire_maxWord_sessions
    {P : Type} [PolicyRules P] [LawfulPolicyRules P]
    {self next : ShortcutManager (AtomicRouteManager DeviceRoutes P)}
    {order : List SessionKey} {output : Except String Outcome}
    (removes : AtomicRouteManager.RemovesRules P)
    (agrees : self.routes.Agrees)
    (taken : self.step (.expire maxWord order) = some (next, output))
    (session : SessionKey) : next.sessions.lookup session = none := by
  obtain ⟨iterates, same, _⟩ := leaves_of_step taken
  have willing := AtomicRouteManager.alwaysRemoves removes
  have succeeded := expire_succeeds willing agrees maxWord order
  rw [same]
  rcases expire_cases self maxWord order with
    ⟨error, _, outcome⟩ | ⟨_, outcome⟩
  · rw [outcome] at succeeded
    cases succeeded
  · rw [outcome]
    apply (HashMap.lookup_eraseAll_eq_none_iff _ _ _).mpr
    cases present : self.sessions.lookup session with
    | none =>
        exact Or.inl rfl
    | some managed =>
        have listed : session ∈ order :=
          (iterates.mem_iff session).mpr
            ((HashMap.mem_iff_lookup_isSome _ _).mpr (by rw [present]; rfl))
        have late : maxWord ≥ managed.ticket.expiresAt := by
          have bound := managed.ticket.expiresAt.toNat_lt
          have largest : maxWord.toNat = 18446744073709551615 := rfl
          rw [ge_iff_le, UInt64.le_iff_toNat_le, largest]
          omega
        right
        refine List.mem_filter.mpr ⟨listed, ?_⟩
        rw [present]
        exact decide_eq_true late

/-- A generation that is stopped leaves the rules as its start found them after
the clean-up, whatever it has done in between for tickets of selectors that are
longer than 0. -/
theorem stopped_generation_restores_rules
    {record :
      Call (AtomicRouteManager DeviceRoutes (KernelPolicy K display hash))}
    {order : List SessionKey}
    (removes :
      AtomicRouteManager.RemovesRules (KernelPolicy K display hash))
    (execution :
      (generationRuns display hash policy kernel started).Execution
        (record :: log) final)
    (destinations :
      ∀ past ∈ record :: log, past.input.GivesDestination)
    (isStop : record.input = .expire maxWord order) (family : Family) :
    rules final.routes.policy.kernel family =
      rules (policy.startUp kernel).state family := by
  have holds := rules_of_generation execution destinations
  have noSession : ∀ session, final.sessions.lookup session = none := by
    cases execution with
    | step earlier taken =>
        have agrees :=
          (kept_of_generation earlier fun past member =>
            destinations past (List.mem_cons_of_mem record member)).agrees
        have stepped := step_of_takes taken
        rw [isStop] at stepped
        exact expire_maxWord_sessions removes agrees stepped
  have noRoute : final.activeRoutes.keys = ∅ := by
    apply Finset.eq_empty_of_forall_notMem
    intro selector member
    obtain ⟨session, managed, present, _⟩ :=
      (mem_routes_of_generation removes execution selector).mp member
    rw [noSession session] at present
    cases present
  have managed := holds.managed family
  rw [noRoute] at managed
  have unmanaged :
      (rules final.routes.policy.kernel family).filter KernelRule.managed =
        [] :=
    (Multiset.coe_eq_zero _).mp managed
  rw [← holds.foreign family]
  symm
  apply List.filter_eq_self.mpr
  intro rule member
  have notManaged := List.filter_eq_nil_iff.mp unmanaged rule member
  rw [Bool.not_eq_true']
  exact Bool.eq_false_iff.mpr notManaged

/-! ## A session on a kernel that another process has used -/

open RuleKernel (ruleDisplay)

theorem removesRules :
    AtomicRouteManager.RemovesRules
      (KernelPolicy RuleKernel ruleDisplay selectorHash) := by
  intro self selector
  have deletes (kernel : RuleKernel) :=
    (@RuleKernel.ip_del kernel _ _ _
      (self.policy.ruleArguments ruleDisplay selectorHash "del" selector)
      rfl).2
  have called :
      Triple (fun _ => True) (fun _ : RuleKernel => True)
        (ipOutput
          (self.policy.ruleArguments ruleDisplay selectorHash "del" selector))
        (fun output _ =>
          if output.success || containsText output.stderr "No such file" ||
              containsText output.stderr "No such process" then
            True
          else
            False)
        (fun _ => False) := by
    refine Triple.call (fun _ _ => trivial) ?_ ?_
    · intro kernel output _ succeeded
      rw [deletes] at succeeded
      unfold TestKernel.delete at succeeded
      split at succeeded
      · cases succeeded
        rw [Bool.true_or, Bool.true_or, if_pos rfl]
        trivial
      · cases succeeded
        have gone :
            containsText
              (TestKernel.refusal "No such file or directory").stderr
              "No such file" = true := by
          decide +kernel
        rw [gone, Bool.or_true, Bool.true_or, if_pos rfl]
        trivial
    · intro kernel error _ failed
      rw [deletes] at failed
      exact RuleKernel.delete_starts _ _ _ _ failed
  have removed :
      Triple (fun _ => True) (fun _ : RuleKernel => True)
        (self.policy.remove ruleDisplay selectorHash selector)
        (fun _ _ => True) (fun _ => False) :=
    Triple.bind called fun _ => check_triple
  have ends := (removed self.kernel trivial).2
  change (self.remove selector).2 = .ok ()
  unfold KernelPolicy.remove
  simp only
  split
  · rfl
  · rename_i failed
    exact (ends.of_error failed).elim

theorem testKernel_started :
    ((SystemPolicy.new "wg0").startUp (⟨testKernel⟩ : RuleKernel)).result =
      .ok () := by
  decide +kernel

/-- The runs of a node whose kernel is `testKernel`. -/
def kernelGeneration :=
  generationRuns (K := RuleKernel) ruleDisplay selectorHash
    (SystemPolicy.new "wg0") ⟨testKernel⟩ testKernel_started

/-- The start takes the rule out that another process left. -/
theorem testKernel_cleaned :
    rules
        ((SystemPolicy.new "wg0").startUp
          (⟨testKernel⟩ : RuleKernel)).state .v4 =
      [⟨0, fromAll, 255⟩, bypassRule, ⟨32766, fromAll, mainTable⟩] := by
  decide +kernel

/-- The manager with which they start. -/
def testManager :
    ShortcutManager
      (AtomicRouteManager DeviceRoutes
        (KernelPolicy RuleKernel ruleDisplay selectorHash)) :=
  new
    (.new .default
      (.start (SystemPolicy.new "wg0") ⟨testKernel⟩ testKernel_started))

theorem testManager_starts : kernelGeneration.start testManager :=
  ⟨_, rfl, rfl⟩

theorem givesDestination_of_inputs
    {calls :
      List
        (Call
          (AtomicRouteManager DeviceRoutes
            (KernelPolicy RuleKernel ruleDisplay selectorHash)))}
    {operations : List Operation}
    (inputs : calls.map Record.input = operations)
    (destinations : ∀ operation ∈ operations, operation.GivesDestination) :
    ∀ call ∈ calls, call.input.GivesDestination := by
  intro call member
  apply destinations
  rw [← inputs]
  exact List.mem_map_of_mem member

/-- The rule that another process left is gone, the rule of the active session
is there, and the control bypass has stayed. -/
theorem kernel_rules_follow_sessions_activated :
    ∃ log final,
      kernelGeneration.Execution log final ∧
      rules final.routes.policy.kernel .v4 =
        [⟨0, fromAll, 255⟩, bypassRule,
          RuleKernel.destinationRule 12525 (testTicket 1).selector 51820,
          ⟨32766, fromAll, mainTable⟩] ∧
      (rules final.routes.policy.kernel .v4).filter
          (fun rule => !rule.managed) =
        [⟨0, fromAll, 255⟩, bypassRule, ⟨32766, fromAll, mainTable⟩] ∧
      ∃ session managed,
        final.sessions.lookup session = some managed ∧
          managed.phase = .active ∧
          managed.ticket.selector = (testTicket 1).selector := by
  have ran :
      (kernelGeneration.run testManager
          [.receiveTicket (testTicket 1) "issuer" "recipient" 1001,
            .authenticatedHandshake (testTicket 1).session 1002]).map
        (fun result =>
          (result.2.activeRoutes.keys,
            rules result.2.routes.policy.kernel .v4)) =
        some
          ({(testTicket 1).selector},
            [⟨0, fromAll, 255⟩, bypassRule,
              RuleKernel.destinationRule 12525 (testTicket 1).selector 51820,
              ⟨32766, fromAll, mainTable⟩]) := by
    decide +kernel
  obtain ⟨⟨log, final⟩, completed, observed⟩ :=
    Option.map_eq_some_iff.mp ran
  have execution := Machine.execution_of_run testManager_starts completed
  have destinations :=
    givesDestination_of_inputs (Machine.inputs_of_run completed) (by decide)
  obtain ⟨keys, tables⟩ := Prod.mk.inj observed
  obtain ⟨foreign, _, sessions⟩ :=
    kernel_rules_follow_sessions execution destinations .v4
  refine
    ⟨log, final, execution, tables, foreign.trans testKernel_cleaned, ?_⟩
  apply (sessions removesRules _).mp
  rw [keys]
  exact Finset.mem_singleton_self _

/-- The session is active, and then its rule is gone again. -/
theorem stopped_generation_restores_rules_activated :
    ∃ record log final,
      kernelGeneration.Execution (record :: log) final ∧
        record.before.activeRoutes.keys = {(testTicket 1).selector} ∧
        rules final.routes.policy.kernel .v4 =
          [⟨0, fromAll, 255⟩, bypassRule, ⟨32766, fromAll, mainTable⟩] := by
  have ran :
      (kernelGeneration.run testManager
          [.receiveTicket (testTicket 1) "issuer" "recipient" 1001,
            .authenticatedHandshake (testTicket 1).session 1002,
            .expire maxWord [(testTicket 1).session]]).map
        (fun result =>
          result.1.head?.map fun record =>
            record.before.activeRoutes.keys) =
        some (some {(testTicket 1).selector}) := by
    decide +kernel
  obtain ⟨⟨log, final⟩, completed, observed⟩ :=
    Option.map_eq_some_iff.mp ran
  have execution := Machine.execution_of_run testManager_starts completed
  have inputs := Machine.inputs_of_run completed
  have destinations := givesDestination_of_inputs inputs (by decide)
  cases log with
  | nil =>
      cases observed
  | cons record log =>
      obtain ⟨isStop, _⟩ := List.cons.inj inputs
      have restored :=
        stopped_generation_restores_rules removesRules execution destinations
          isStop .v4
      exact ⟨record, log, final, execution, Option.some.inj observed,
        restored.trans testKernel_cleaned⟩

end ShortcutManager

end WgLink
