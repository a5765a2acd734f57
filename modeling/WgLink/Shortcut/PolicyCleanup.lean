import WgLink.Library.Machine
import WgLink.Shortcut.SystemPolicy
import Mathlib.Data.Multiset.AddSub

/-!
# The clean-up of stale rules

After a crash `SystemPolicy::cleanup_stale` reads the rules that an earlier
process left and deletes them one by one.  Rules of equal priority look alike
to the deletion, so what is carried through the loop is the number of managed
rules of each priority.
-/

namespace WgLink

open WgLink.Library

/-! ## Taking rules out -/

namespace RemovesOne

variable {α : Type} {condition : α → Prop} {before after : List α}

/-- What is kept apart from the removed element stays as it is. -/
theorem filter_eq
    {keep : α → Bool} (removed : RemovesOne condition before after)
    (dropped : ∀ item, condition item → keep item = false) :
    after.filter keep = before.filter keep := by
  obtain ⟨front, item, back, split, holds, rest⟩ := removed
  have gone : ¬ keep item = true := by
    rw [dropped item holds]
    exact Bool.false_ne_true
  rw [split, rest, List.filter_append, List.filter_append,
    List.filter_cons_of_neg gone]

/-- Of the elements that are kept, the removed one is missing. -/
theorem map_filter_perm
    {β : Type} {keep : α → Bool} {measure : α → β} {value : β}
    (removed : RemovesOne condition before after)
    (kept : ∀ item, condition item → keep item = true)
    (measured : ∀ item, condition item → measure item = value) :
    ((before.filter keep).map measure).Perm
      (value :: (after.filter keep).map measure) := by
  obtain ⟨front, item, back, split, holds, rest⟩ := removed
  rw [split, rest, List.filter_append, List.filter_append,
    List.filter_cons_of_pos (kept item holds), List.map_append,
    List.map_append, List.map_cons, measured item holds]
  exact List.perm_middle

/-- The element that is taken out is determined. -/
theorem condition_of_removes
    {item : α} (removed : RemovesOne condition before after)
    (single : RemovesOne (fun other => other = item) before after) :
    condition item := by
  obtain ⟨front, first, back, split, holds, rest⟩ := removed
  obtain ⟨otherFront, second, otherBack, otherSplit, same, otherRest⟩ :=
    single
  have firstPerm : before.Perm (first :: after) := by
    rw [split, rest]
    exact List.perm_middle
  have secondPerm : before.Perm (item :: after) := by
    rw [otherSplit, otherRest, same]
    exact List.perm_middle
  have equal : first = item :=
    (Multiset.cons_inj_left (after : Multiset α)).mp
      (Quot.sound (firstPerm.symm.trans secondPerm))
  rw [← equal]
  exact holds

end RemovesOne

/-! ## The clean-up -/

/-- What the removal of the control bypass leaves. -/
def BypassRemoved (before after : List KernelRule) : Prop :=
  after = before ∨ RemovesOne KernelRule.IsControlBypass before after

/-- The rules of a family without the managed ones. -/
def ManagedRemoved (before after : List KernelRule) : Prop :=
  after = before.filter fun rule => !rule.managed

section Calls

variable {K : Type} [IpTool K]

theorem ipOutput_yields
    {arguments : List String} {before : K → Prop}
    {returns : IpOutput → K → Prop}
    (entails :
      ∀ kernel output,
        before kernel → (IpTool.ip kernel arguments).2 = .ok output →
        returns output (IpTool.ip kernel arguments).1) :
    Yields before (ipOutput arguments) returns :=
  Triple.call (fun _ _ => trivial) entails (fun _ _ _ _ => trivial)

/-- A command whose output is only checked. -/
theorem ipOutput_check_yields
    {arguments : List String} {passed : IpOutput → Bool}
    {message : IpOutput → String} {before after : K → Prop}
    (entails :
      ∀ kernel output,
        before kernel → (IpTool.ip kernel arguments).2 = .ok output →
        passed output = true → after (IpTool.ip kernel arguments).1) :
    Yields before
      (ipOutput arguments >>= fun output =>
        Fallible.check (passed output) (message output))
      (fun _ => after) := by
  have called :
      Yields before (ipOutput arguments)
        (fun output kernel => passed output = true → after kernel) :=
    ipOutput_yields entails
  apply Triple.bind called
  intro output
  apply Triple.weaken (Triple.check fun _ _ => trivial) fun _ holds => holds
  intro _ kernel ⟨holds, checked⟩
  exact holds checked

theorem ipOutput_check_state
    (arguments : List String) (passed : IpOutput → Bool)
    (message : IpOutput → String) (kernel : K) :
    ((ipOutput arguments >>= fun output =>
          Fallible.check (passed output) (message output))
        kernel).state =
      (IpTool.ip kernel arguments).1 := by
  rcases Fallible.bind_state (ipOutput arguments)
      (fun output => Fallible.check (passed output) (message output))
      kernel with stopped | ⟨output, continued⟩
  · exact stopped
  · rw [continued, Fallible.check_state]
    rfl

theorem runIp_state (arguments : List String) (kernel : K) :
    (runIp arguments kernel).state = (IpTool.ip kernel arguments).1 :=
  ipOutput_check_state arguments _ _ kernel

end Calls

section Clean

open LawfulIpTool (rules)

variable {K : Type} [IpTool K] [LawfulIpTool K]

/-- What holds of a family while the rules with the pending priorities are
deleted. -/
structure Deleting
    (start : Family → List KernelRule) (family : Family)
    (pending : List Nat) (kernel : K) : Prop where
  others : ∀ other, other ≠ family → rules kernel other = start other
  foreign :
    (rules kernel family).filter (fun rule => !rule.managed) =
      (start family).filter (fun rule => !rule.managed)
  managed :
    (((rules kernel family).filter KernelRule.managed).map
      fun rule => rule.priority.toNat).Perm pending

theorem Deleting.cleared
    {start : Family → List KernelRule} {family : Family} {kernel : K}
    (deleting : Deleting start family [] kernel) :
    ChangesFamily family ManagedRemoved start (rules kernel) := by
  have none : (rules kernel family).filter KernelRule.managed = [] :=
    List.map_eq_nil_iff.mp (List.perm_nil.mp deleting.managed)
  have all :
      (rules kernel family).filter (fun rule => !rule.managed) =
        rules kernel family := by
    rw [List.filter_eq_self]
    intro rule member
    rw [Bool.not_eq_true', Bool.eq_false_iff]
    exact List.filter_eq_nil_iff.mp none rule member
  exact ⟨all.symm.trans deleting.foreign, deleting.others⟩

/-- A pending priority is that of a managed rule. -/
theorem Deleting.exists_managed
    {start : Family → List KernelRule} {family : Family} {kernel : K}
    {priority : Nat} {pending : List Nat}
    (deleting : Deleting start family (priority :: pending) kernel) :
    ∃ rule : KernelRule,
      rule.managed = true ∧ rule.priority.toNat = priority := by
  have member : priority ∈ priority :: pending := List.mem_cons_self
  rw [← deleting.managed.mem_iff] at member
  obtain ⟨rule, listed, same⟩ := List.mem_map.mp member
  exact ⟨rule, (List.mem_filter.mp listed).2, same⟩

/-- A deletion takes one pending priority off. -/
theorem Deleting.delete
    {start : Family → List KernelRule} {family : Family} {kernel next : K}
    {rule : KernelRule} {pending : List Nat}
    (deleting :
      Deleting start family (rule.priority.toNat :: pending) kernel)
    (recognised : rule.managed = true)
    (changes :
      ChangesFamily family
        (RemovesOne fun other =>
          other.priority = rule.priority ∧ other.table = defaultTable)
        (rules kernel) (rules next)) :
    Deleting start family pending next := by
  obtain ⟨removed, others⟩ := changes
  have inRange := (rule.managed_iff.mp recognised).2
  have alsoManaged :
      ∀ other : KernelRule,
        other.priority = rule.priority ∧ other.table = defaultTable →
        other.managed = true := by
    intro other ⟨samePriority, sameTable⟩
    rw [other.managed_iff, samePriority]
    exact ⟨sameTable, inRange⟩
  constructor
  · intro other different
    rw [others other different]
    exact deleting.others other different
  · rw [← deleting.foreign]
    apply removed.filter_eq
    intro other alike
    rw [alsoManaged other alike]
    rfl
  · have taken :=
      removed.map_filter_perm alsoManaged
        (fun other alike => congrArg UInt32.toNat alike.1)
    exact (taken.symm.trans deleting.managed).cons_inv

/-- A loop over the families whose body changes the rules of its family as
said changes those of every family so. -/
theorem forEachFamily_yields
    {body : Family → Fallible K Unit}
    {change : List KernelRule → List KernelRule → Prop}
    (changes :
      ∀ start family,
        Yields (fun kernel : K => rules kernel = start) (body family)
          (fun _ kernel =>
            ChangesFamily family change start (rules kernel)))
    (start : Family → List KernelRule) :
    Yields (fun kernel : K => rules kernel = start)
      (Fallible.forEach [Family.v4, Family.v6] body)
      (fun _ kernel =>
        ∀ family, change (start family) (rules kernel family)) := by
  let invariant (pending : List Family) (kernel : K) : Prop :=
    pending.Nodup ∧
      ∀ family,
        (family ∈ pending → rules kernel family = start family) ∧
          (family ∉ pending → change (start family) (rules kernel family))
  have loop :
      Yields (invariant [Family.v4, Family.v6])
        (Fallible.forEach [Family.v4, Family.v6] body)
        (fun _ => invariant []) := by
    apply Triple.forEach
    intro family rest kernel ⟨distinct, holds⟩
    have step := changes (rules kernel) family
    refine Triple.weaken step (fun _ same => same) ?_ kernel rfl
    intro _ next ⟨changed, others⟩
    rw [List.nodup_cons] at distinct
    refine ⟨distinct.2, fun other => ?_⟩
    by_cases same : other = family
    · rw [same]
      refine ⟨fun member => absurd member distinct.1, fun _ => ?_⟩
      rw [← (holds family).1 List.mem_cons_self]
      exact changed
    · rw [others other same]
      refine ⟨fun member => (holds other).1 (List.mem_cons_of_mem _ member),
        fun absent => (holds other).2 ?_⟩
      intro member
      rcases List.mem_cons.mp member with equal | later
      · exact same equal
      · exact absent later
  apply Triple.weaken loop
  · intro kernel same
    refine ⟨by decide, fun family => ⟨fun _ => by rw [same], ?_⟩⟩
    intro absent
    cases family with
    | v4 =>
        exact absurd absent (by decide)
    | v6 =>
        exact absurd absent (by decide)
  · intro _ kernel ⟨_, holds⟩ family
    exact (holds family).2 List.not_mem_nil

namespace SystemPolicy

theorem removeControlBypass_yields (start : Family → List KernelRule) :
    Yields (fun kernel : K => rules kernel = start) removeControlBypass
      (fun _ kernel =>
        ∀ family, BypassRemoved (start family) (rules kernel family)) := by
  apply forEachFamily_yields
  intro start family
  apply ipOutput_check_yields
  intro kernel output same _ _
  rw [← same]
  exact LawfulIpTool.bypass_removes kernel family _ rfl

/-- One deletion of the clean-up. -/
theorem delete_yields
    (start : Family → List KernelRule) (family : Family)
    (priority : Nat) (pending : List Nat) :
    Yields
      (fun kernel : K => Deleting start family (priority :: pending) kernel)
      (runIp
        [family.flag, "rule", "del", "priority", priority.repr, "lookup",
          decimal defaultTable])
      (fun _ => Deleting start family pending) := by
  apply ipOutput_check_yields
  intro kernel output deleting succeeded passed
  obtain ⟨rule, recognised, same⟩ := deleting.exists_managed
  have printed : priority.repr = decimal rule.priority := by
    rw [← same]
    rfl
  rw [← same] at deleting
  apply deleting.delete recognised
  rw [printed] at succeeded ⊢
  exact LawfulIpTool.del_removes kernel family rule.priority defaultTable _
    output rfl succeeded passed

/-- The deletions of the clean-up, after the rules have been read. -/
theorem deletions_yields
    (start : Family → List KernelRule) (family : Family) :
    Yields (fun kernel : K => rules kernel = start)
      (Fallible.forEach
        (((start family).filter KernelRule.managed).map
          fun rule => rule.priority.toNat)
        fun priority =>
          runIp
            [family.flag, "rule", "del", "priority", priority.repr, "lookup",
              decimal defaultTable])
      (fun _ => Deleting start family []) := by
  apply Triple.weaken (Triple.forEach (delete_yields start family))
  · intro kernel same
    rw [← same]
    exact ⟨fun _ _ => rfl, rfl, List.Perm.refl _⟩
  · intro _ _ deleting
    exact deleting

theorem cleanupFamily_yields
    (self : SystemPolicy) (start : Family → List KernelRule)
    (family : Family) :
    Yields (fun kernel : K => rules kernel = start)
      (self.cleanupFamily family)
      (fun _ kernel =>
        ChangesFamily family ManagedRemoved start (rules kernel)) := by
  have shown :
      Yields (fun kernel : K => rules kernel = start)
        (ipOutput [family.flag, "rule", "show"])
        (fun output kernel =>
          rules kernel = start ∧
            (output.success = true →
              output.stdout.toList =
                unlines ((start family).map KernelRule.line))) := by
    apply ipOutput_yields
    intro kernel output same succeeded
    rw [LawfulIpTool.show_keeps, ← same]
    exact ⟨rfl, LawfulIpTool.show_prints kernel family output succeeded⟩
  apply Triple.bind shown
  intro output
  apply Triple.bind (Triple.check fun _ _ => trivial)
  intro _ kernel ⟨⟨same, prints⟩, passed⟩
  rw [prints passed, self.tableDefault, managed_priorities]
  refine Triple.bind (deletions_yields start family) ?_ kernel same
  intro _
  apply ipOutput_check_yields
  intro kernel _ deleting _ _
  rw [LawfulIpTool.flush_keeps]
  exact deleting.cleared

theorem cleanupStale_yields
    (self : SystemPolicy) (start : Family → List KernelRule) :
    Yields (fun kernel : K => rules kernel = start) self.cleanupStale
      (fun _ kernel =>
        ∀ family, ∃ remaining,
          BypassRemoved (start family) remaining ∧
            ManagedRemoved remaining (rules kernel family)) := by
  apply Triple.bind (removeControlBypass_yields start)
  intro _ kernel removed
  have cleaned :=
    forEachFamily_yields (self.cleanupFamily_yields (K := K)) (rules kernel)
  refine Triple.weaken cleaned (fun _ same => same) ?_ kernel rfl
  intro _ next changed family
  exact ⟨rules kernel family, removed family, changed family⟩

end SystemPolicy

/-! ## What installing adds -/

namespace SystemPolicy

variable (display : Display) (hash : Hash)

/-- Every selector gets a priority of the managed range. -/
theorem priority_range (self : SystemPolicy) (selector : IpNet) :
    11000 ≤ (self.priority display hash selector).toNat ∧
      (self.priority display hash selector).toNat < 21000 := by
  have value :
      ∀ offset : Nat,
        (defaultRulePriorityBase + UInt32.ofNat (offset % 10000)).toNat =
          11000 + offset % 10000 := by
    intro offset
    have base : defaultRulePriorityBase.toNat = 11000 := rfl
    rw [UInt32.toNat_add, base, UInt32.toNat_ofNat']
    omega
  unfold priority
  rw [self.baseDefault]
  simp only [value]
  omega

/-- What `install` does to the rules of the family of the selector. -/
def Added
    (self : SystemPolicy) (selector : IpNet)
    (before after : List KernelRule) : Prop :=
  after = before ∨
    RemovesOne
      (fun rule =>
        rule.priority = self.priority display hash selector ∧
          rule.table = self.table)
      after before

theorem prepare_keeps
    (self : SystemPolicy) (selector : IpNet) (kernel : K) :
    rules (self.prepare display selector kernel).state = rules kernel := by
  unfold prepare
  rw [runIp_state, List.append_assoc]
  exact LawfulIpTool.replace_keeps kernel selector.family _

theorem install_adds
    (self : SystemPolicy) (selector : IpNet) (kernel : K) :
    ChangesFamily selector.family (self.Added display hash selector)
      (rules kernel)
      (rules (self.install display hash selector kernel).state) := by
  unfold install
  rw [← self.prepare_keeps display selector kernel]
  rcases Fallible.bind_state (self.prepare display selector) _ kernel with
    stopped | ⟨_, continued⟩
  · rw [stopped]
    exact ⟨.inl rfl, fun _ _ => rfl⟩
  · rw [continued, ipOutput_check_state]
    exact LawfulIpTool.add_adds _ selector.family _ _ _ _ rfl

/-- Every rule that `install` adds is managed. -/
theorem managed_of_added
    {self : SystemPolicy} {selector : IpNet} {family : Family}
    {kernel : K} {rule : KernelRule}
    (adds :
      RemovesOne (fun other => other = rule)
        (rules (self.install display hash selector kernel).state family)
        (rules kernel family)) :
    rule.managed = true := by
  obtain ⟨added, others⟩ := self.install_adds display hash selector kernel
  have longer :
      rules (self.install display hash selector kernel).state family ≠
        rules kernel family := by
    intro same
    obtain ⟨front, item, back, split, _, rest⟩ := adds
    rw [same, rest] at split
    have lengths := congrArg List.length split
    rw [List.length_append, List.length_append, List.length_cons] at lengths
    omega
  by_cases ours : family = selector.family
  · rw [ours] at adds longer
    rcases added with same | one
    · exact absurd same longer
    · obtain ⟨samePriority, sameTable⟩ := one.condition_of_removes adds
      rw [rule.managed_iff, samePriority, sameTable]
      exact ⟨self.tableDefault, self.priority_range display hash selector⟩
  · exact absurd (others family ours) longer

end SystemPolicy

/-! ## The clean-up after any history -/

/-- What may change the rules: calls of `SystemPolicy`, and anything else. -/
inductive PolicyCall (K : Type) where
  | install (policy : SystemPolicy) (selector : IpNet)
  | remove (policy : SystemPolicy) (selector : IpNet)
  | foreign (next : K)

/-- The histories of a kernel. -/
def policyHistory (display : Display) (hash : Hash) :
    Machine K (PolicyCall K) Unit where
  start _ := True
  step kernel
    | .install policy selector =>
        some ((policy.install display hash selector kernel).state, ())
    | .remove policy selector =>
        some ((policy.remove display hash selector kernel).state, ())
    | .foreign next => some (next, ())

/-- A call of `install` that added the rule. -/
structure InstallAdds
    (record : Record K (PolicyCall K) Unit) (family : Family)
    (rule : KernelRule) : Prop where
  installs :
    ∃ policy selector, record.input = .install policy selector
  adds :
    RemovesOne (fun other => other = rule) (rules record.after family)
      (rules record.before family)

theorem InstallAdds.managed
    {display : Display} {hash : Hash}
    {record : Record K (PolicyCall K) Unit} {family : Family}
    {rule : KernelRule}
    (taken : (policyHistory display hash).Takes record)
    (added : InstallAdds record family rule) :
    rule.managed = true := by
  obtain ⟨policy, selector, input⟩ := added.installs
  have adds := added.adds
  unfold Machine.Takes policyHistory at taken
  rw [input] at taken
  have after :
      record.after =
        (policy.install display hash selector record.before).state :=
    (Prod.mk.inj (Option.some.inj taken)).1.symm
  rw [after] at adds
  exact SystemPolicy.managed_of_added display hash adds

/-- After any history, the clean-up takes out the rules that were installed
and every managed rule; apart from the control bypass it takes out nothing
else. -/
theorem SystemPolicy.cleanupStale_exact
    (display : Display) (hash : Hash) (self : SystemPolicy)
    {log : List (Record K (PolicyCall K) Unit)} {kernel : K}
    (execution : (policyHistory display hash).Execution log kernel)
    (succeeded : (self.cleanupStale kernel).result = .ok ())
    (family : Family) :
    (∀ record ∈ log, ∀ rule,
        InstallAdds record family rule →
        rule ∉ rules (self.cleanupStale kernel).state family) ∧
      (∀ rule ∈ rules (self.cleanupStale kernel).state family,
        ¬ (11000 ≤ rule.priority.toNat ∧ rule.priority.toNat < 21000 ∧
          rule.table = 51820)) ∧
      ∃ remaining,
        BypassRemoved (rules kernel family) remaining ∧
          ManagedRemoved remaining
            (rules (self.cleanupStale kernel).state family) := by
  obtain ⟨remaining, bypass, cleaned⟩ :=
    (self.cleanupStale_yields (rules kernel)).of_ok rfl succeeded family
  have unmanaged :
      ∀ rule ∈ rules (self.cleanupStale kernel).state family,
        ¬ rule.managed = true := by
    intro rule member
    rw [cleaned] at member
    have kept := (List.mem_filter.mp member).2
    rw [Bool.not_eq_true'] at kept
    rw [kept]
    exact Bool.false_ne_true
  refine ⟨?_, ?_, remaining, bypass, cleaned⟩
  · intro record member rule added present
    obtain ⟨_, _, _, taken⟩ := execution.earlier_of_mem member
    exact unmanaged rule present (added.managed taken)
  · intro rule member ⟨least, below, table⟩
    exact unmanaged rule member (rule.managed_iff.mpr ⟨table, least, below⟩)

end Clean

/-! ## A kernel that runs -/

/-- A kernel that keeps its rules in the order of their priorities. -/
structure TestKernel where
  rules : Family → List KernelRule

namespace TestKernel

def change
    (kernel : TestKernel) (family : Family) (table : List KernelRule) :
    TestKernel where
  rules other := if other = family then table else kernel.rules other

def refusal (message : String) : IpOutput :=
  ⟨false, "", "RTNETLINK answers: " ++ message⟩

/-- The first rule that is wanted is deleted. -/
def delete
    (kernel : TestKernel) (family : Family) (wanted : KernelRule → Bool) :
    TestKernel × Except String IpOutput :=
  if (kernel.rules family).any wanted then
    (kernel.change family ((kernel.rules family).eraseP wanted),
      .ok ⟨true, "", ""⟩)
  else
    (kernel, .ok (refusal "No such file or directory"))

/-- A rule goes behind those whose priority is not greater. -/
def add (kernel : TestKernel) (family : Family) (rule : KernelRule) :
    TestKernel × Except String IpOutput :=
  if (kernel.rules family).any (fun other => other.line == rule.line) then
    (kernel, .ok (refusal "File exists"))
  else
    let earlier (other : KernelRule) : Bool := other.priority ≤ rule.priority
    (kernel.change family
        ((kernel.rules family).takeWhile earlier ++
          rule :: (kernel.rules family).dropWhile earlier),
      .ok ⟨true, "", ""⟩)

/-- The match part of a rule for a destination. -/
def destination (network : String) : Option (List MatchWord) :=
  if valid :
      IsWord network.toList ∧ network.toList ≠ "lookup".toList then
    some
      [⟨"from".toList, by decide, by decide⟩,
        ⟨"all".toList, by decide, by decide⟩,
        ⟨"to".toList, by decide, by decide⟩,
        ⟨network.toList, valid.1, valid.2⟩]
  else
    none

/-- Does the match part of a rule have these two words side by side? -/
def matchesWords (rule : KernelRule) (key value : String) : Bool :=
  decide
    ([key.toList, value.toList] <:+: rule.matching.map MatchWord.text)

def ruleCommand (kernel : TestKernel) (family : Family) :
    List String → TestKernel × Except String IpOutput
  | ["show"] =>
      (kernel,
        .ok
          ⟨true,
            String.ofList
              (unlines ((kernel.rules family).map KernelRule.line)),
            ""⟩)
  | ["del", "priority", priority, "lookup", table] =>
      kernel.delete family fun rule =>
        decimal rule.priority == priority && decimal rule.table == table
  | ["del", "priority", priority, "fwmark", mark, "lookup", "main"] =>
      kernel.delete family fun rule =>
        decimal rule.priority == priority && rule.table == mainTable &&
          matchesWords rule "fwmark" mark
  | ["del", "priority", priority, "to", network, "lookup", table] =>
      kernel.delete family fun rule =>
        decimal rule.priority == priority && decimal rule.table == table &&
          matchesWords rule "to" network
  | ["add", "priority", priority, "to", network, "lookup", table] =>
      match parseUnsigned (2 ^ 32) priority.toList,
        parseUnsigned (2 ^ 32) table.toList, destination network with
      | some priority, some table, some matching =>
          kernel.add family
            ⟨UInt32.ofNat priority, matching, UInt32.ofNat table⟩
      | _, _, _ => (kernel, .ok (refusal "Invalid argument"))
  | _ => (kernel, .ok (refusal "Invalid argument"))

/-- The commands on rules; routes are not kept. -/
def ip (kernel : TestKernel) :
    List String → TestKernel × Except String IpOutput
  | "-4" :: "rule" :: command => kernel.ruleCommand .v4 command
  | "-6" :: "rule" :: command => kernel.ruleCommand .v6 command
  | "rule" :: command => kernel.ruleCommand .v4 command
  | _ => (kernel, .ok ⟨true, "", ""⟩)

instance : IpTool TestKernel where
  ip := ip

theorem changesFamily_refl
    (kernel : TestKernel) (family : Family)
    {change : List KernelRule → List KernelRule → Prop}
    (reflexive : ∀ table, change table table) :
    ChangesFamily family change kernel.rules kernel.rules :=
  ⟨reflexive _, fun _ _ => rfl⟩

theorem changesFamily_change
    {kernel : TestKernel} {family : Family} {table : List KernelRule}
    {change : List KernelRule → List KernelRule → Prop}
    (changed : change (kernel.rules family) table) :
    ChangesFamily family change kernel.rules
      (kernel.change family table).rules := by
  have table_of_family : (kernel.change family table).rules family = table :=
    if_pos rfl
  constructor
  · rw [table_of_family]
    exact changed
  · intro other different
    exact if_neg different

theorem delete_removes
    {kernel : TestKernel} {family : Family} {wanted : KernelRule → Bool}
    {condition : KernelRule → Prop}
    (entails : ∀ rule, wanted rule = true → condition rule) :
    ChangesFamily family (RemovesOne condition) kernel.rules
        (kernel.delete family wanted).1.rules ∨
      (kernel.delete family wanted).1 = kernel ∧
        (kernel.delete family wanted).2 =
          .ok (refusal "No such file or directory") := by
  unfold delete
  by_cases present : (kernel.rules family).any wanted = true
  · left
    rw [if_pos present]
    apply changesFamily_change
    obtain ⟨rule, member, hit⟩ := List.any_eq_true.mp present
    obtain ⟨found, front, back, _, chosen, split, rest⟩ :=
      List.exists_of_eraseP member hit
    exact ⟨front, found, back, split, entails found chosen, rest⟩
  · right
    rw [if_neg present]
    exact ⟨rfl, rfl⟩

theorem add_adds
    (kernel : TestKernel) (family : Family) (rule : KernelRule) :
    ChangesFamily family
      (fun before after =>
        after = before ∨
          RemovesOne (fun other => other = rule) after before)
      kernel.rules (kernel.add family rule).1.rules := by
  unfold add
  by_cases present :
      (kernel.rules family).any (fun other => other.line == rule.line) = true
  · rw [if_pos present]
    exact kernel.changesFamily_refl family fun _ => .inl rfl
  · rw [if_neg present]
    apply changesFamily_change
    refine .inr ⟨_, rule, _, rfl, rfl, ?_⟩
    rw [List.takeWhile_append_dropWhile]

theorem ip_rule (kernel : TestKernel) (family : Family)
    (command : List String) :
    kernel.ip (family.flag :: "rule" :: command) =
      kernel.ruleCommand family command := by
  cases family with
  | v4 => rfl
  | v6 => rfl

theorem ip_option_rule (kernel : TestKernel) (family : Family)
    (command : List String) :
    kernel.ip (family.option ++ "rule" :: command) =
      kernel.ruleCommand family command := by
  cases family with
  | v4 => rfl
  | v6 => rfl

theorem decimal_inj
    {first second : UInt32} (same : decimal first = decimal second) :
    first = second := by
  have digits := congrArg String.toList same
  rw [toList_decimal, toList_decimal] at digits
  exact UInt32.toNat_inj.mp (toDigits_inj digits)

theorem parseUnsigned_decimal (number : UInt32) :
    parseUnsigned (2 ^ 32) (decimal number).toList =
      some number.toNat := by
  rw [toList_decimal]
  exact parseUnsigned_toDigits number.toNat_lt

theorem ruleCommand_add
    (kernel : TestKernel) (family : Family) (priority table : UInt32)
    (network : String) :
    ChangesFamily family
      (fun before after =>
        after = before ∨
          RemovesOne
            (fun rule => rule.priority = priority ∧ rule.table = table)
            after before)
      kernel.rules
      (kernel.ruleCommand family
        ["add", "priority", decimal priority, "to", network, "lookup",
          decimal table]).1.rules := by
  simp only [ruleCommand, parseUnsigned_decimal]
  cases destination network with
  | none =>
      exact kernel.changesFamily_refl family fun _ => .inl rfl
  | some matching =>
      obtain ⟨added, others⟩ :=
        kernel.add_adds family
          ⟨UInt32.ofNat priority.toNat, matching, UInt32.ofNat table.toNat⟩
      refine ⟨?_, others⟩
      rcases added with same | ⟨front, rule, back, split, equal, rest⟩
      · exact .inl same
      · refine .inr ⟨front, rule, back, split, ?_, rest⟩
        rw [equal]
        exact ⟨UInt32.ofNat_toNat, UInt32.ofNat_toNat⟩

theorem ruleCommand_del
    {kernel : TestKernel} {family : Family} {priority table : UInt32}
    {output : IpOutput}
    (succeeded :
      (kernel.ruleCommand family
        ["del", "priority", decimal priority, "lookup",
          decimal table]).2 = .ok output)
    (passed : output.success = true) :
    ChangesFamily family
      (RemovesOne fun rule => rule.priority = priority ∧ rule.table = table)
      kernel.rules
      (kernel.ruleCommand family
        ["del", "priority", decimal priority, "lookup",
          decimal table]).1.rules := by
  simp only [ruleCommand] at succeeded ⊢
  have entails :
      ∀ rule : KernelRule,
        (decimal rule.priority == decimal priority &&
          decimal rule.table == decimal table) = true →
        rule.priority = priority ∧ rule.table = table := by
    intro rule hit
    rw [Bool.and_eq_true, beq_iff_eq, beq_iff_eq] at hit
    exact ⟨decimal_inj hit.1, decimal_inj hit.2⟩
  rcases delete_removes entails with removed | ⟨_, refused⟩
  · exact removed
  · rw [refused] at succeeded
    cases succeeded
    exact absurd passed Bool.false_ne_true

theorem ruleCommand_bypass (kernel : TestKernel) (family : Family) :
    ChangesFamily family BypassRemoved kernel.rules
      (kernel.ruleCommand family
        ["del", "priority", decimal controlRulePriority, "fwmark",
          SystemPolicy.controlMark, "lookup", "main"]).1.rules := by
  simp only [ruleCommand]
  have entails :
      ∀ rule : KernelRule,
        (decimal rule.priority == decimal controlRulePriority &&
            rule.table == mainTable &&
          matchesWords rule "fwmark" SystemPolicy.controlMark) = true →
        rule.IsControlBypass := by
    intro rule hit
    rw [Bool.and_eq_true, Bool.and_eq_true, beq_iff_eq, beq_iff_eq] at hit
    exact ⟨decimal_inj hit.1.1, hit.1.2, of_decide_eq_true hit.2⟩
  rcases delete_removes entails with ⟨removed, others⟩ | ⟨kept, _⟩
  · exact ⟨.inr removed, others⟩
  · rw [kept]
    exact kernel.changesFamily_refl family fun _ => .inl rfl

instance : LawfulIpTool TestKernel where
  rules := TestKernel.rules
  show_prints := by
    intro kernel family output succeeded _
    change (kernel.ip (family.flag :: "rule" :: ["show"])).2 = _ at succeeded
    rw [ip_rule] at succeeded
    cases succeeded
    exact String.toList_ofList
  show_keeps := by
    intro kernel family
    change (kernel.ip (family.flag :: "rule" :: ["show"])).1.rules = _
    rw [ip_rule]
    rfl
  del_removes := by
    intro kernel family priority table arguments output command succeeded
      passed
    rw [command] at succeeded ⊢
    change (kernel.ip (family.flag :: "rule" :: _)).2 = _ at succeeded
    change ChangesFamily _ _ _
      (kernel.ip (family.flag :: "rule" :: _)).1.rules
    rw [ip_rule] at succeeded ⊢
    exact ruleCommand_del succeeded passed
  bypass_removes := by
    intro kernel family arguments command
    rw [command]
    change ChangesFamily _ _ _
      (kernel.ip (family.flag :: "rule" :: _)).1.rules
    rw [ip_rule]
    exact kernel.ruleCommand_bypass family
  flush_keeps := by
    intro kernel family table
    cases family with
    | v4 => rfl
    | v6 => rfl
  replace_keeps := by
    intro kernel family route
    cases family with
    | v4 => rfl
    | v6 => rfl
  add_adds := by
    intro kernel family priority table network arguments command
    rw [command]
    change ChangesFamily _ _ _
      (kernel.ip (family.option ++ "rule" :: _)).1.rules
    rw [ip_option_rule]
    exact kernel.ruleCommand_add family priority table network

end TestKernel

/-- How an IPv4 prefix is printed. -/
def testDisplay : Display where
  address _ := "10.77.0.1"
  network
    | .v4 addr length =>
        ((addr >>> 24).toNat % 256).repr ++ "." ++
          ((addr >>> 16).toNat % 256).repr ++ "." ++
          ((addr >>> 8).toNat % 256).repr ++ "." ++
          (addr.toNat % 256).repr ++ "/" ++ length.val.repr
    | .v6 _ _ => "::/0"

/-- The prefix 198.51.100.0/24. -/
def testSelector : IpNet := .v4 0xC6336400 ((Fin.last 24).castAdd 8)

/-- `blake3::hash` on the texts of `testSelector` and of the selector of the
test tickets. -/
def selectorHash : Hash :=
  tableHash
    [(asBytes "198.51.100.0/24",
        [0x00, 0xD0, 0x6C, 0x93, 0xA4, 0xF1, 0x9E, 0xA8,
          0x13, 0xB6, 0xBD, 0x29, 0x61, 0xC9, 0x44, 0xA8,
          0x7C, 0xED, 0x07, 0xE3, 0x9B, 0x7D, 0xA0, 0xB9,
          0xD9, 0x2F, 0x9F, 0x4A, 0x05, 0x79, 0x2A, 0x28]),
      (asBytes "198.51.100.7/32",
        [0x05, 0x2D, 0x7D, 0x60, 0xCD, 0x9C, 0x97, 0xCE,
          0x55, 0xFD, 0x56, 0x28, 0x66, 0x25, 0x99, 0xD3,
          0x4C, 0x02, 0x0C, 0x70, 0x58, 0x97, 0xC3, 0x5F,
          0x4B, 0x62, 0x80, 0x0C, 0xE8, 0xF7, 0x67, 0x96])]

/-- The words of `from all`. -/
def fromAll : List MatchWord :=
  [⟨"from".toList, by decide, by decide⟩,
    ⟨"all".toList, by decide, by decide⟩]

/-- A kernel with its own rules, the control bypass, and a rule that another
process left. -/
def testKernel : TestKernel where
  rules
    | .v4 =>
        [⟨0, fromAll, 255⟩,
          ⟨controlRulePriority,
            fromAll ++
              [⟨"fwmark".toList, by decide, by decide⟩,
                ⟨SystemPolicy.controlMark.toList, by decide, by decide⟩],
            mainTable⟩,
          ⟨14248, fromAll, 51820⟩,
          ⟨32766, fromAll, mainTable⟩]
    | .v6 => [⟨0, fromAll, 255⟩, ⟨32766, fromAll, mainTable⟩]

/-- The kernel after `testSelector` was installed. -/
def installedKernel : TestKernel :=
  ((SystemPolicy.new "wg0").install testDisplay selectorHash testSelector
    testKernel).state

/-- The rule for `testSelector`. -/
def installedRule : KernelRule where
  priority := 14248
  matching :=
    fromAll ++
      [⟨"to".toList, by decide, by decide⟩,
        ⟨"198.51.100.0/24".toList, by decide, by decide⟩]
  table := 51820

theorem cleanupStale_exact_installed :
    ∃ log record,
      (policyHistory testDisplay selectorHash).Execution log
          installedKernel ∧
        record ∈ log ∧
        InstallAdds record .v4 installedRule ∧
        installedRule ∉
          ((SystemPolicy.new "wg0").cleanupStale
            installedKernel).state.rules .v4 := by
  let record : Record TestKernel (PolicyCall TestKernel) Unit :=
    ⟨testKernel, .install (SystemPolicy.new "wg0") testSelector, (),
      installedKernel⟩
  have execution :
      (policyHistory testDisplay selectorHash).Execution [record]
        installedKernel :=
    Machine.Execution.extend (Machine.Execution.start trivial) rfl
  have added : InstallAdds record .v4 installedRule := by
    refine ⟨⟨_, _, rfl⟩, (testKernel.rules .v4).take 3, installedRule,
      (testKernel.rules .v4).drop 3, ?_, rfl, rfl⟩
    change installedKernel.rules .v4 = _
    decide +kernel
  have succeeded :
      ((SystemPolicy.new "wg0").cleanupStale installedKernel).result =
        .ok () := by
    decide +kernel
  have exact :=
    (SystemPolicy.new "wg0").cleanupStale_exact testDisplay selectorHash
      execution succeeded .v4
  have listed : record ∈ [record] := List.mem_singleton_self record
  exact ⟨[record], record, execution, listed, added,
    exact.1 record listed installedRule added⟩

end WgLink
