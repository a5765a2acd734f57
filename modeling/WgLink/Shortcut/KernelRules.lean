import WgLink.Shortcut.PolicyCleanup
import WgLink.Shortcut.RouteAgreement
import Mathlib.Data.Finset.Dedup
import Mathlib.Data.Multiset.Filter

/-!
# The rules of the kernel as a set of selectors

`SystemPolicy` is the policy behind the route manager of a node.  Over a
kernel it is a refinement of a plain set of selectors: each selector of the
set has one rule in the table of its family, there are no other managed rules,
and the rules of others stay as they were.

The kernel compares the destinations of two rules only when a length is given,
so a command for a prefix of length 0 can meet the rule of another destination.
The results are about calls for longer prefixes.
-/

namespace WgLink

open WgLink.Library
open LawfulIpTool (rules)

/-- `SystemPolicy::ensure_control_bypass`. -/
def SystemPolicy.ensureControlBypass {K : Type} [IpTool K] :
    Fallible K Unit :=
  .forEach [Family.v4, Family.v6] fun family => do
    let output ←
      ipOutput
        [family.flag, "rule", "add", "priority",
          decimal controlRulePriority, "fwmark", SystemPolicy.controlMark,
          "lookup", "main"]
    .check (output.success || containsText output.stderr "File exists")
      ("ip " ++ family.flag ++ " control bypass rule add failed: " ++
        trimText output.stderr)

/-- What a generation does to the rules before it uses them. -/
def SystemPolicy.startUp {K : Type} [IpTool K] (self : SystemPolicy) :
    Fallible K Unit := do
  self.cleanupStale
  ensureControlBypass

/-- What is relied on of `ip` beyond the clean-up: which rule a destination
gets, that a rule is there once, and that additions and deletions look for a
rule with the priority, table and destination they name.  `Concerns` is the
comparison with the destination, which a prefix of length 0 passes always. -/
class ExactIpTool (K : Type) (display : Display) [IpTool K]
    [LawfulIpTool K] where
  ruleFor : UInt32 → IpNet → UInt32 → KernelRule
  Concerns : KernelRule → IpNet → Prop
  ruleFor_priority :
    ∀ priority selector table,
      (ruleFor priority selector table).priority = priority
  ruleFor_table :
    ∀ priority selector table,
      (ruleFor priority selector table).table = table
  concerns_ruleFor :
    ∀ priority selector table,
      Concerns (ruleFor priority selector table) selector
  eq_of_concerns :
    ∀ priority first second table,
      0 < second.prefixLen → first.family = second.family →
      Concerns (ruleFor priority first table) second → first = second
  add_fails :
    ∀ (kernel : K) (priority : UInt32) (selector : IpNet) (table : UInt32)
      (arguments : List String) (error : String),
      arguments =
        selector.family.option ++
          ["rule", "add", "priority", decimal priority, "to",
            display.network selector, "lookup", decimal table] →
      (IpTool.ip kernel arguments).2 = .error error →
      rules (IpTool.ip kernel arguments).1 = rules kernel
  add_exact :
    ∀ (kernel : K) (priority : UInt32) (selector : IpNet) (table : UInt32)
      (arguments : List String) (output : IpOutput),
      arguments =
        selector.family.option ++
          ["rule", "add", "priority", decimal priority, "to",
            display.network selector, "lookup", decimal table] →
      (IpTool.ip kernel arguments).2 = .ok output →
      if output.success then
        ruleFor priority selector table ∉ rules kernel selector.family ∧
          ChangesFamily selector.family
            (fun before after =>
              RemovesOne
                (fun rule => rule = ruleFor priority selector table)
                after before)
            (rules kernel) (rules (IpTool.ip kernel arguments).1)
      else
        rules (IpTool.ip kernel arguments).1 = rules kernel ∧
          (containsText output.stderr "File exists" = true →
            ∃ rule ∈ rules kernel selector.family,
              rule.priority = priority ∧ rule.table = table ∧
                Concerns rule selector)
  del_fails :
    ∀ (kernel : K) (priority : UInt32) (selector : IpNet) (table : UInt32)
      (arguments : List String) (error : String),
      arguments =
        selector.family.option ++
          ["rule", "del", "priority", decimal priority, "to",
            display.network selector, "lookup", decimal table] →
      (IpTool.ip kernel arguments).2 = .error error →
      rules (IpTool.ip kernel arguments).1 = rules kernel
  del_exact :
    ∀ (kernel : K) (priority : UInt32) (selector : IpNet) (table : UInt32)
      (arguments : List String) (output : IpOutput),
      arguments =
        selector.family.option ++
          ["rule", "del", "priority", decimal priority, "to",
            display.network selector, "lookup", decimal table] →
      (IpTool.ip kernel arguments).2 = .ok output →
      if output.success then
        ChangesFamily selector.family
          (RemovesOne fun rule =>
            rule.priority = priority ∧ rule.table = table ∧
              Concerns rule selector)
          (rules kernel) (rules (IpTool.ip kernel arguments).1)
      else
        rules (IpTool.ip kernel arguments).1 = rules kernel ∧
          (containsText output.stderr "No such file" = true ∨
              containsText output.stderr "No such process" = true →
            ∀ rule ∈ rules kernel selector.family,
              ¬(rule.priority = priority ∧ rule.table = table ∧
                Concerns rule selector))
  bypass_adds :
    ∀ (kernel : K) (family : Family) (arguments : List String),
      arguments =
        [family.flag, "rule", "add", "priority",
          decimal controlRulePriority, "fwmark", SystemPolicy.controlMark,
          "lookup", "main"] →
      ChangesFamily family
        (fun before after =>
          after = before ∨
            RemovesOne KernelRule.IsControlBypass after before)
        (rules kernel) (rules (IpTool.ip kernel arguments).1)

/-! ## Tables and sets of selectors -/

/-- The tables hold the rules of a set of selectors and those of others. -/
structure HoldsRules (ruleOf : IpNet → KernelRule)
    (foreign : Family → List KernelRule) (selectors : Finset IpNet)
    (tables : Family → List KernelRule) : Prop where
  foreign :
    ∀ family,
      (tables family).filter (fun rule => !rule.managed) = foreign family
  managed :
    ∀ family,
      (((tables family).filter KernelRule.managed : List KernelRule) :
          Multiset KernelRule) =
        (selectors.filter fun selector =>
          selector.family = family).val.map ruleOf

theorem KernelRule.not_managed_of_bypass
    {rule : KernelRule} (bypass : rule.IsControlBypass) :
    rule.managed = false := by
  rw [Bool.eq_false_iff, Ne, rule.managed_iff, bypass.1]
  rintro ⟨_, range, _⟩
  revert range
  decide

section Tables

variable {ruleOf : IpNet → KernelRule} {foreign : Family → List KernelRule}
  {selectors : Finset IpNet} {tables after : Family → List KernelRule}
  {selector : IpNet}

/-- All rules are managed, and no other selector of its family has the rule of
a selector that is not of length 0. -/
structure RuleScheme (ruleOf : IpNet → KernelRule) : Prop where
  managed : ∀ selector, (ruleOf selector).managed = true
  inj :
    ∀ first second,
      0 < second.prefixLen → first.family = second.family →
      ruleOf first = ruleOf second → first = second

/-- The rule of a selector is there exactly when the selector is. -/
theorem HoldsRules.mem_iff
    (scheme : RuleScheme ruleOf) (long : 0 < selector.prefixLen)
    (holds : HoldsRules ruleOf foreign selectors tables) :
    ruleOf selector ∈ tables selector.family ↔ selector ∈ selectors := by
  have filtered :
      ruleOf selector ∈ tables selector.family ↔
        ruleOf selector ∈
          (((tables selector.family).filter KernelRule.managed :
              List KernelRule) : Multiset KernelRule) := by
    rw [Multiset.mem_coe, List.mem_filter]
    exact ⟨fun member => ⟨member, scheme.managed selector⟩, And.left⟩
  rw [filtered, holds.managed, Multiset.mem_map]
  constructor
  · rintro ⟨other, member, same⟩
    obtain ⟨listed, family⟩ := Finset.mem_filter.mp (Finset.mem_val.mp member)
    rw [← scheme.inj other selector long family same]
    exact listed
  · intro member
    exact ⟨selector, Finset.mem_val.mpr (Finset.mem_filter.mpr ⟨member, rfl⟩),
      rfl⟩

/-- The managed rules of a table with one rule more. -/
theorem coe_filter_of_removesOne
    {rule : KernelRule} {more less : List KernelRule}
    (recognised : rule.managed = true)
    (removed : RemovesOne (fun other => other = rule) more less) :
    ((more.filter KernelRule.managed : List KernelRule) :
        Multiset KernelRule) =
      rule ::ₘ ((less.filter KernelRule.managed : List KernelRule) :
        Multiset KernelRule) := by
  have permuted :=
    @RemovesOne.map_filter_perm _ _ _ _ _ KernelRule.managed id rule removed
      (fun other same => by rw [same]; exact recognised)
      (fun other same => same)
  rw [List.map_id, List.map_id] at permuted
  rw [Multiset.cons_coe]
  exact Multiset.coe_eq_coe.mpr permuted

theorem filter_foreign_of_removesOne
    {rule : KernelRule} {more less : List KernelRule}
    (recognised : rule.managed = true)
    (removed : RemovesOne (fun other => other = rule) more less) :
    less.filter (fun other => !other.managed) =
      more.filter (fun other => !other.managed) := by
  apply removed.filter_eq
  intro other same
  rw [same, recognised]
  rfl

/-- A rule is added. -/
theorem HoldsRules.insert
    (scheme : RuleScheme ruleOf) (long : 0 < selector.prefixLen)
    (holds : HoldsRules ruleOf foreign selectors tables)
    (absent : ruleOf selector ∉ tables selector.family)
    (changes :
      ChangesFamily selector.family
        (fun before after =>
          RemovesOne (fun rule => rule = ruleOf selector) after before)
        tables after) :
    HoldsRules ruleOf foreign (Insert.insert selector selectors) after := by
  obtain ⟨added, others⟩ := changes
  have new : selector ∉ selectors := fun member =>
    absent ((holds.mem_iff scheme long).mpr member)
  constructor
  · intro family
    by_cases ours : family = selector.family
    · subst ours
      rw [← filter_foreign_of_removesOne (scheme.managed selector) added]
      exact holds.foreign _
    · rw [others family ours]
      exact holds.foreign family
  · intro family
    by_cases ours : family = selector.family
    · subst ours
      have notListed :
          selector ∉ selectors.filter fun other =>
            other.family = selector.family :=
        fun listed => new (Finset.mem_filter.mp listed).1
      rw [coe_filter_of_removesOne (scheme.managed selector) added,
        holds.managed, Finset.filter_insert, if_pos rfl,
        Finset.insert_val_of_notMem notListed, Multiset.map_cons]
    · rw [others family ours, holds.managed, Finset.filter_insert,
        if_neg (Ne.symm ours)]

/-- A rule is deleted. -/
theorem HoldsRules.erase
    (scheme : RuleScheme ruleOf) (long : 0 < selector.prefixLen)
    (holds : HoldsRules ruleOf foreign selectors tables)
    (changes :
      ChangesFamily selector.family
        (RemovesOne fun rule => rule = ruleOf selector) tables after) :
    HoldsRules ruleOf foreign (selectors.erase selector) after := by
  obtain ⟨removed, others⟩ := changes
  have present : selector ∈ selectors := by
    apply (holds.mem_iff scheme long).mp
    obtain ⟨front, rule, back, split, same, _⟩ := removed
    rw [split, ← same]
    exact List.mem_append_right front List.mem_cons_self
  constructor
  · intro family
    by_cases ours : family = selector.family
    · subst ours
      rw [filter_foreign_of_removesOne (scheme.managed selector) removed]
      exact holds.foreign _
    · rw [others family ours]
      exact holds.foreign family
  · intro family
    by_cases ours : family = selector.family
    · subst ours
      have notListed :
          selector ∉ (selectors.erase selector).filter fun other =>
            other.family = selector.family :=
        fun listed =>
          Finset.notMem_erase selector selectors
            (Finset.mem_filter.mp listed).1
      have whole := holds.managed selector.family
      rw [coe_filter_of_removesOne (scheme.managed selector) removed,
        ← Finset.insert_erase present, Finset.filter_insert, if_pos rfl,
        Finset.insert_val_of_notMem notListed, Multiset.map_cons] at whole
      exact (Multiset.cons_inj_right _).mp whole
    · have same :
          (selectors.erase selector).filter (fun other =>
              other.family = family) =
            selectors.filter fun other => other.family = family := by
        rw [Finset.filter_erase]
        apply Finset.erase_eq_of_notMem
        intro listed
        exact ours (Finset.mem_filter.mp listed).2.symm
      rw [others family ours, holds.managed, same]

end Tables

/-! ## The calls of the policy -/

section Calls

variable {K : Type} [IpTool K] [LawfulIpTool K] {display : Display}
  [ExactIpTool K display] {hash : Hash}

/-- The rule of a selector. -/
def SystemPolicy.ruleOf (K : Type) [IpTool K] [LawfulIpTool K]
    (display : Display) [ExactIpTool K display] (hash : Hash)
    (self : SystemPolicy) (selector : IpNet) : KernelRule :=
  ExactIpTool.ruleFor K display (self.priority display hash selector) selector
    self.table

theorem SystemPolicy.ruleScheme (self : SystemPolicy) :
    RuleScheme (self.ruleOf K display hash) := by
  constructor
  · intro selector
    unfold SystemPolicy.ruleOf
    rw [KernelRule.managed_iff, ExactIpTool.ruleFor_table,
      ExactIpTool.ruleFor_priority]
    exact ⟨self.tableDefault, self.priority_range display hash selector⟩
  · intro first second long family same
    have concerned :
        ExactIpTool.Concerns K display (self.ruleOf K display hash first)
          second := by
      rw [same]
      exact ExactIpTool.concerns_ruleFor _ _ _
    exact ExactIpTool.eq_of_concerns _ _ _ _ long family concerned

/-- A check after which the state depends on the outcome. -/
theorem check_triple
    {σ : Type} {passed : Bool} {error : String} {good bad : σ → Prop} :
    Triple (fun _ => True)
      (fun state => if passed then good state else bad state)
      (Fallible.check passed error) (fun _ => good) bad := by
  cases passed with
  | true =>
      exact Triple.pure fun _ holds => holds
  | false =>
      exact Triple.fail fun _ holds => holds

variable (self : SystemPolicy) {foreign : Family → List KernelRule}
  {selectors : Finset IpNet} (selector : IpNet)

/-- The kernel holds the rules of a set of selectors. -/
def SystemPolicy.Holds (display : Display) [ExactIpTool K display]
    (hash : Hash) (policy : SystemPolicy)
    (foreign : Family → List KernelRule) (selectors : Finset IpNet)
    (kernel : K) : Prop :=
  HoldsRules (policy.ruleOf K display hash) foreign selectors (rules kernel)

theorem SystemPolicy.prepare_triple :
    Triple (fun _ => True)
      (self.Holds (K := K) display hash foreign selectors)
      (self.prepare display selector)
      (fun _ => self.Holds display hash foreign selectors)
      (self.Holds display hash foreign selectors) := by
  intro kernel holds
  have kept := self.prepare_keeps display selector kernel
  have after :
      self.Holds display hash foreign selectors
        (self.prepare display selector kernel).state := by
    unfold SystemPolicy.Holds
    rw [kept]
    exact holds
  refine ⟨fun _ _ => trivial, ?_⟩
  unfold Ends
  cases (self.prepare display selector kernel).result with
  | ok _ => exact after
  | error _ => exact after

/-- A rule with the priority and the table of a selector that concerns it is
the rule of this selector. -/
theorem SystemPolicy.eq_ruleOf
    {kernel : K} (long : 0 < selector.prefixLen)
    (holds : self.Holds display hash foreign selectors kernel)
    {rule : KernelRule} (present : rule ∈ rules kernel selector.family)
    (priority : rule.priority = self.priority display hash selector)
    (table : rule.table = self.table)
    (concerns : ExactIpTool.Concerns K display rule selector) :
    rule = self.ruleOf K display hash selector := by
  have recognised : rule.managed = true := by
    rw [rule.managed_iff, priority, table]
    exact ⟨self.tableDefault, self.priority_range display hash selector⟩
  have listed :
      rule ∈
        (((rules kernel selector.family).filter KernelRule.managed :
            List KernelRule) : Multiset KernelRule) := by
    rw [Multiset.mem_coe, List.mem_filter]
    exact ⟨present, recognised⟩
  rw [holds.managed] at listed
  obtain ⟨other, member, same⟩ := Multiset.mem_map.mp listed
  have family := (Finset.mem_filter.mp (Finset.mem_val.mp member)).2
  rw [← same] at concerns ⊢
  rw [ExactIpTool.eq_of_concerns _ _ _ _ long family concerns]

/-- `install` puts the selector into the set, or fails and changes nothing. -/
theorem SystemPolicy.install_triple (long : 0 < selector.prefixLen) :
    Triple (fun _ => True)
      (self.Holds (K := K) display hash foreign selectors)
      (self.install display hash selector)
      (fun _ =>
        self.Holds display hash foreign (insert selector selectors))
      (self.Holds display hash foreign selectors) := by
  have scheme := @SystemPolicy.ruleScheme K _ _ display _ hash self
  refine Triple.bind (self.prepare_triple selector) fun _ => ?_
  have called :
      Triple (fun _ => True)
        (self.Holds (K := K) display hash foreign selectors)
        (ipOutput (self.ruleArguments display hash "add" selector))
        (fun output kernel =>
          if output.success || containsText output.stderr "File exists" then
            self.Holds display hash foreign (insert selector selectors) kernel
          else
            self.Holds display hash foreign selectors kernel)
        (self.Holds display hash foreign selectors) := by
    refine Triple.call (fun _ _ => trivial) ?_ ?_
    · intro kernel output holds succeeded
      have exact_ :=
        ExactIpTool.add_exact kernel (self.priority display hash selector)
          selector self.table _ output rfl succeeded
      split at exact_
      · rename_i passed
        obtain ⟨absent, changes⟩ := exact_
        rw [passed, Bool.true_or, if_pos rfl]
        exact HoldsRules.insert scheme long holds absent changes
      · rename_i refused
        obtain ⟨kept, conflict⟩ := exact_
        have unsuccessful : output.success = false :=
          Bool.eq_false_iff.mpr refused
        rw [unsuccessful, Bool.false_or]
        unfold SystemPolicy.Holds
        by_cases exists_ : containsText output.stderr "File exists" = true
        · obtain ⟨rule, present, priority, table, concerns⟩ :=
            conflict exists_
          have same :=
            self.eq_ruleOf selector long holds present priority table concerns
          rw [same] at present
          have member : selector ∈ selectors :=
            (HoldsRules.mem_iff scheme long holds).mp present
          rw [if_pos exists_, Finset.insert_eq_self.mpr member]
          exact kept ▸ holds
        · rw [if_neg exists_]
          exact kept ▸ holds
    · intro kernel error holds failed
      have kept :=
        ExactIpTool.add_fails kernel (self.priority display hash selector)
          selector self.table _ error rfl failed
      unfold SystemPolicy.Holds
      exact kept ▸ holds
  exact Triple.bind called fun output => check_triple

/-- A rule that a deletion takes out is the one of the selector. -/
theorem SystemPolicy.removes_ruleOf
    {kernel : K} {after : List KernelRule} (long : 0 < selector.prefixLen)
    (holds : self.Holds display hash foreign selectors kernel)
    (removed :
      RemovesOne
        (fun rule =>
          rule.priority = self.priority display hash selector ∧
            rule.table = self.table ∧
            ExactIpTool.Concerns K display rule selector)
        (rules kernel selector.family) after) :
    RemovesOne (fun rule => rule = self.ruleOf K display hash selector)
      (rules kernel selector.family) after := by
  obtain ⟨front, rule, back, split, ⟨priority, table, concerns⟩, rest⟩ :=
    removed
  have present : rule ∈ rules kernel selector.family := by
    rw [split]
    exact List.mem_append_right front List.mem_cons_self
  exact
    ⟨front, rule, back, split,
      self.eq_ruleOf selector long holds present priority table concerns, rest⟩

/-- `remove` takes the selector out of the set, or fails and changes
nothing. -/
theorem SystemPolicy.remove_triple (long : 0 < selector.prefixLen) :
    Triple (fun _ => True)
      (self.Holds (K := K) display hash foreign selectors)
      (self.remove display hash selector)
      (fun _ =>
        self.Holds display hash foreign (selectors.erase selector))
      (self.Holds display hash foreign selectors) := by
  have scheme := @SystemPolicy.ruleScheme K _ _ display _ hash self
  have called :
      Triple (fun _ => True)
        (self.Holds (K := K) display hash foreign selectors)
        (ipOutput (self.ruleArguments display hash "del" selector))
        (fun output kernel =>
          if output.success || containsText output.stderr "No such file" ||
              containsText output.stderr "No such process" then
            self.Holds display hash foreign (selectors.erase selector) kernel
          else
            self.Holds display hash foreign selectors kernel)
        (self.Holds display hash foreign selectors) := by
    refine Triple.call (fun _ _ => trivial) ?_ ?_
    · intro kernel output holds succeeded
      have exact_ :=
        ExactIpTool.del_exact kernel (self.priority display hash selector)
          selector self.table _ output rfl succeeded
      split at exact_
      · rename_i passed
        rw [passed, Bool.true_or, Bool.true_or, if_pos rfl]
        exact HoldsRules.erase scheme long holds
          ⟨self.removes_ruleOf selector long holds exact_.1, exact_.2⟩
      · rename_i refused
        obtain ⟨kept, absent⟩ := exact_
        have unsuccessful : output.success = false :=
          Bool.eq_false_iff.mpr refused
        rw [unsuccessful, Bool.false_or]
        unfold SystemPolicy.Holds
        by_cases gone :
            (containsText output.stderr "No such file" ||
              containsText output.stderr "No such process") = true
        · have missing : selector ∉ selectors := by
            intro member
            apply absent (Bool.or_eq_true_iff.mp gone)
              (self.ruleOf K display hash selector)
              ((HoldsRules.mem_iff scheme long holds).mpr member)
            exact ⟨ExactIpTool.ruleFor_priority _ _ _,
              ExactIpTool.ruleFor_table _ _ _,
              ExactIpTool.concerns_ruleFor _ _ _⟩
          rw [if_pos gone, Finset.erase_eq_of_notMem missing]
          exact kept ▸ holds
        · rw [if_neg gone]
          exact kept ▸ holds
    · intro kernel error holds failed
      have kept :=
        ExactIpTool.del_fails kernel (self.priority display hash selector)
          selector self.table _ error rfl failed
      unfold SystemPolicy.Holds
      exact kept ▸ holds
  exact Triple.bind called fun output => check_triple

/-! ## The start of a generation -/

/-- After a successful start the kernel has no managed rules. -/
theorem SystemPolicy.startUp_yields
    (display : Display) [ExactIpTool K display] :
    Yields (fun _ : K => True) self.startUp
      (fun _ kernel =>
        ∀ family, (rules kernel family).filter KernelRule.managed = []) := by
  have cleaned :
      Yields (fun _ : K => True) self.cleanupStale
        (fun _ kernel =>
          ∀ family, (rules kernel family).filter KernelRule.managed = []) := by
    intro kernel _
    have yields := self.cleanupStale_yields (rules kernel) kernel rfl
    refine ⟨fun _ _ => trivial, ?_⟩
    unfold Ends
    cases outcome : (self.cleanupStale kernel).result with
    | error _ => trivial
    | ok _ =>
        intro family
        obtain ⟨remaining, _, removed⟩ := yields.2.of_ok outcome family
        rw [removed, List.filter_filter]
        apply List.filter_eq_nil_iff.mpr
        intro rule _
        cases rule.managed <;> exact Bool.false_ne_true
  refine Triple.bind cleaned fun _ => ?_
  refine @Triple.forEach _ _ _ _ _ _
    (fun _ kernel =>
      ∀ family, (rules kernel family).filter KernelRule.managed = []) ?_
  intro family rest
  apply ipOutput_check_yields
  intro kernel output clear _ _ other
  obtain ⟨added, others⟩ :=
    ExactIpTool.bypass_adds display kernel family _ rfl
  by_cases ours : other = family
  · subst ours
    rcases added with same | removed
    · rw [same]
      exact clear other
    · rw [← removed.filter_eq fun rule => KernelRule.not_managed_of_bypass]
      exact clear other
  · rw [others other ours]
    exact clear other

end Calls

/-! ## The policy of a node -/

/-- `SystemPolicy` together with the kernel it works on.  The selectors say
which rules it has installed; they are exact as long as no call was for a
prefix of length 0. -/
structure KernelPolicy (K : Type) [IpTool K] [LawfulIpTool K]
    (display : Display) [ExactIpTool K display] (hash : Hash) where
  policy : SystemPolicy
  kernel : K
  foreign : Family → List KernelRule
  selectors : Finset IpNet
  exact : Bool
  holds : exact = true → policy.Holds display hash foreign selectors kernel

namespace KernelPolicy

variable {K : Type} [IpTool K] [LawfulIpTool K] {display : Display}
  [ExactIpTool K display] {hash : Hash}

/-- The policy of a generation that has started up. -/
def start (policy : SystemPolicy) (kernel : K)
    (started : (policy.startUp kernel).result = .ok ()) :
    KernelPolicy K display hash where
  policy
  kernel := (policy.startUp kernel).state
  foreign := rules (policy.startUp kernel).state
  selectors := ∅
  exact := true
  holds _ := by
    have clear :=
      (SystemPolicy.startUp_yields policy display).of_ok trivial started
    constructor
    · intro family
      apply List.filter_eq_self.mpr
      intro rule member
      have unmanaged := List.filter_eq_nil_iff.mp (clear family) rule member
      rw [Bool.not_eq_true']
      exact Bool.eq_false_iff.mpr unmanaged
    · intro family
      rw [clear family]
      rfl

/-- Whether the selectors stay exact in a call. -/
def exactAfter (self : KernelPolicy K display hash) (selector : IpNet) :
    Bool :=
  self.exact && decide (0 < selector.prefixLen)

theorem exactAfter_iff
    (self : KernelPolicy K display hash) (selector : IpNet) :
    self.exactAfter selector = true ↔
      self.exact = true ∧ 0 < selector.prefixLen := by
  unfold exactAfter
  rw [Bool.and_eq_true, decide_eq_true_eq]

/-- What an `install` leaves in the kernel. -/
theorem install_ends
    (self : KernelPolicy K display hash) (selector : IpNet)
    (exact_ : self.exactAfter selector = true) :
    Ends
      (fun _ =>
        self.policy.Holds display hash self.foreign
          (insert selector self.selectors))
      (self.policy.Holds display hash self.foreign self.selectors)
      (self.policy.install display hash selector self.kernel) := by
  obtain ⟨before, long⟩ := (self.exactAfter_iff selector).mp exact_
  exact
    (self.policy.install_triple selector long self.kernel
      (self.holds before)).2

/-- What a `remove` leaves in the kernel. -/
theorem remove_ends
    (self : KernelPolicy K display hash) (selector : IpNet)
    (exact_ : self.exactAfter selector = true) :
    Ends
      (fun _ =>
        self.policy.Holds display hash self.foreign
          (self.selectors.erase selector))
      (self.policy.Holds display hash self.foreign self.selectors)
      (self.policy.remove display hash selector self.kernel) := by
  obtain ⟨before, long⟩ := (self.exactAfter_iff selector).mp exact_
  exact
    (self.policy.remove_triple selector long self.kernel
      (self.holds before)).2

/-- `install` of `SystemPolicy` on its kernel. -/
def install (self : KernelPolicy K display hash) (selector : IpNet) :
    KernelPolicy K display hash × Except String Unit :=
  let trail := self.policy.install display hash selector self.kernel
  match outcome : trail.result with
  | .ok () =>
      ({ self with
          kernel := trail.state
          selectors := insert selector self.selectors
          exact := self.exactAfter selector
          holds := fun exact_ =>
            (self.install_ends selector exact_).of_ok outcome },
        .ok ())
  | .error error =>
      ({ self with
          kernel := trail.state
          exact := self.exactAfter selector
          holds := fun exact_ =>
            (self.install_ends selector exact_).of_error outcome },
        .error error)

/-- `remove` of `SystemPolicy` on its kernel. -/
def remove (self : KernelPolicy K display hash) (selector : IpNet) :
    KernelPolicy K display hash × Except String Unit :=
  let trail := self.policy.remove display hash selector self.kernel
  match outcome : trail.result with
  | .ok () =>
      ({ self with
          kernel := trail.state
          selectors := self.selectors.erase selector
          exact := self.exactAfter selector
          holds := fun exact_ =>
            (self.remove_ends selector exact_).of_ok outcome },
        .ok ())
  | .error error =>
      ({ self with
          kernel := trail.state
          exact := self.exactAfter selector
          holds := fun exact_ =>
            (self.remove_ends selector exact_).of_error outcome },
        .error error)

instance : PolicyRules (KernelPolicy K display hash) where
  install := install
  remove := remove

theorem install_cases
    (self : KernelPolicy K display hash) (selector : IpNet) :
    ((self.install selector).2 = .ok () ∧
        (self.install selector).1.selectors =
          insert selector self.selectors) ∨
      ∃ error, (self.install selector).2 = .error error ∧
        (self.install selector).1.selectors = self.selectors := by
  unfold install
  simp only
  split
  · exact Or.inl ⟨rfl, rfl⟩
  · exact Or.inr ⟨_, rfl, rfl⟩

theorem remove_cases
    (self : KernelPolicy K display hash) (selector : IpNet) :
    ((self.remove selector).2 = .ok () ∧
        (self.remove selector).1.selectors =
          self.selectors.erase selector) ∨
      ∃ error, (self.remove selector).2 = .error error ∧
        (self.remove selector).1.selectors = self.selectors := by
  unfold remove
  simp only
  split
  · exact Or.inl ⟨rfl, rfl⟩
  · exact Or.inr ⟨_, rfl, rfl⟩

instance : LawfulPolicyRules (KernelPolicy K display hash) where
  rules := selectors
  install_ok self selector succeeded := by
    rcases install_cases self selector with ⟨_, same⟩ | ⟨_, failed, _⟩
    · exact same
    · cases succeeded.symm.trans failed
  install_error self selector error refused := by
    rcases install_cases self selector with ⟨succeeded, _⟩ | ⟨_, _, same⟩
    · cases succeeded.symm.trans refused
    · exact same
  remove_ok self selector succeeded := by
    rcases remove_cases self selector with ⟨_, same⟩ | ⟨_, failed, _⟩
    · exact same
    · cases succeeded.symm.trans failed
  remove_error self selector error refused := by
    rcases remove_cases self selector with ⟨succeeded, _⟩ | ⟨_, _, same⟩
    · cases succeeded.symm.trans refused
    · exact same

/-- Calls for prefixes of other lengths than 0 do not change what a policy is
based on. -/
structure Based (policy : SystemPolicy) (foreign : Family → List KernelRule)
    (reached : KernelPolicy K display hash) : Prop where
  policy : reached.policy = policy
  foreign : reached.foreign = foreign
  exact : reached.exact = true

variable {policy : SystemPolicy} {foreign : Family → List KernelRule}

theorem Based.install
    {self : KernelPolicy K display hash} (based : Based policy foreign self)
    {selector : IpNet} (long : 0 < selector.prefixLen) :
    Based policy foreign (self.install selector).1 := by
  have exact_ := (self.exactAfter_iff selector).mpr ⟨based.exact, long⟩
  unfold KernelPolicy.install
  simp only
  split
  · exact ⟨based.policy, based.foreign, exact_⟩
  · exact ⟨based.policy, based.foreign, exact_⟩

theorem Based.remove
    {self : KernelPolicy K display hash} (based : Based policy foreign self)
    {selector : IpNet} (long : 0 < selector.prefixLen) :
    Based policy foreign (self.remove selector).1 := by
  have exact_ := (self.exactAfter_iff selector).mpr ⟨based.exact, long⟩
  unfold KernelPolicy.remove
  simp only
  split
  · exact ⟨based.policy, based.foreign, exact_⟩
  · exact ⟨based.policy, based.foreign, exact_⟩

end KernelPolicy

namespace AtomicRouteManager

variable {U P : Type} [UserspaceRoutes U] [PolicyRules P] {Kept : P → Prop}

/-- A property of the policy, for the whole route manager. -/
def OfPolicy (Kept : P → Prop) (self : AtomicRouteManager U P) : Prop :=
  Kept self.policy

/-- What an install keeps of the policy, `activate` keeps. -/
theorem activate_keeps
    {selector : IpNet}
    (install :
      ∀ policy, Kept policy → Kept (PolicyRules.install policy selector).1)
    (routes : AtomicRouteManager U P) (target : RouteTarget)
    (kept : Kept routes.policy) :
    Kept (RouteManager.activate routes selector target).1.policy := by
  have userspace (selector : IpNet) (target : RouteTarget) :
      Keeps (OfPolicy (U := U) Kept) (userspaceReplace selector target) :=
    Triple.call_keeps (fun _ _ => trivial) fun _ holds => holds
  have removal :
      Keeps (OfPolicy (U := U) Kept) (userspaceRemove selector) :=
    Triple.call_keeps (fun _ _ => trivial) fun _ holds => holds
  have installs :
      Keeps (OfPolicy (U := U) Kept) (policyInstall selector) :=
    Triple.call_keeps (fun _ _ => trivial)
      fun self holds => install self.policy holds
  have observed :
      Keeps (OfPolicy (U := U) Kept)
        (Fallible.read fun self => self.active.lookup selector) :=
    Triple.read fun _ holds => holds
  have keeps :
      Keeps (OfPolicy (U := U) Kept) (activate selector target) := by
    refine Triple.bind observed fun previous => ?_
    refine Triple.bind (userspace selector target) fun _ => ?_
    refine Triple.bind (Triple.recover installs fun error => ?_) fun _ => ?_
    · refine Triple.bind ?_ fun _ => Triple.fail fun _ holds => holds
      cases previous with
      | none => exact removal
      | some earlier => exact userspace selector earlier
    · exact Triple.modify fun _ holds => holds
  exact keeps.state kept

theorem deactivate_keeps
    {selector : IpNet}
    (remove :
      ∀ policy, Kept policy → Kept (PolicyRules.remove policy selector).1)
    (routes : AtomicRouteManager U P) (kept : Kept routes.policy) :
    Kept (RouteManager.deactivate routes selector).1.policy := by
  have removes : Keeps (OfPolicy (U := U) Kept) (policyRemove selector) :=
    Triple.call_keeps (fun _ _ => trivial)
      fun self holds => remove self.policy holds
  have userspace :
      Keeps (OfPolicy (U := U) Kept) (userspaceRemove selector) :=
    Triple.call_keeps (fun _ _ => trivial) fun _ holds => holds
  have keeps : Keeps (OfPolicy (U := U) Kept) (deactivate selector) := by
    refine Triple.bind removes fun _ => Triple.bind userspace fun _ => ?_
    exact Triple.modify fun _ holds => holds
  exact keeps.state kept

section Agreement

variable {P : Type} [PolicyRules P] [LawfulPolicyRules P]

/-- `deactivate` keeps the agreement of records, entries and rules also when
the rule cannot be removed. -/
theorem Agrees.deactivate
    {routes : AtomicRouteManager DeviceRoutes P} (agrees : routes.Agrees)
    (selector : IpNet) :
    Agrees (RouteManager.deactivate routes selector).1 := by
  have withoutRule :
      Triple (fun _ => True) (Agrees (P := P)) (policyRemove selector)
        (fun _ self =>
          self.userspace.poisoned = false ∧
          self.entries = self.active ∧
          self.rules = self.active.keys.erase selector)
        Agrees := by
    refine Triple.call (fun _ _ => trivial) ?_ ?_
    · intro self _ before succeeded
      refine ⟨before.sound, before.entries, ?_⟩
      rw [AtomicRouteManager.rules,
        LawfulPolicyRules.remove_ok _ _ succeeded, ← before.rules]
      rfl
    · intro self error before failed
      refine ⟨before.sound, before.entries, ?_⟩
      rw [AtomicRouteManager.rules,
        LawfulPolicyRules.remove_error _ _ _ failed]
      exact before.rules
  have withoutEntry :
      Triple (fun _ => True)
        (fun self : AtomicRouteManager DeviceRoutes P =>
          self.userspace.poisoned = false ∧
          self.entries = self.active ∧
          self.rules = self.active.keys.erase selector)
        (userspaceRemove selector)
        (fun _ self =>
          self.userspace.poisoned = false ∧
          self.entries = self.active.erase selector ∧
          self.rules = self.active.keys.erase selector)
        Agrees := by
    refine write_triple (fun _ before => before.1) ?_
    intro self before
    obtain ⟨_, sameEntries, fewerRules⟩ := before
    refine ⟨rfl, ?_, fewerRules⟩
    change self.entries.erase selector = self.active.erase selector
    rw [sameEntries]
  have whole :
      Keeps (Agrees (P := P)) (AtomicRouteManager.deactivate selector) := by
    refine Triple.bind withoutRule fun _ =>
      Triple.bind withoutEntry fun _ => ?_
    refine Triple.modify fun self before => ⟨before.1, before.2.1, ?_⟩
    exact before.2.2.trans (Finmap.keys_erase selector self.active).symm
  exact whole.state agrees

end Agreement

end AtomicRouteManager

end WgLink
