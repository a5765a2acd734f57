import WgLink.Shortcut.KernelRules

/-!
# A kernel with all commands

The test kernel together with the command that adds the control bypass, and
the laws of its rules.
-/

namespace WgLink

open WgLink.Library

/-- The arguments that add the control bypass. -/
def bypassArguments (family : Family) : List String :=
  [family.flag, "rule", "add", "priority", decimal controlRulePriority,
    "fwmark", SystemPolicy.controlMark, "lookup", "main"]

/-- A word of a match part. -/
def matchWord (text : String)
    (proper : IsWord text.toList ∧ text.toList ≠ "lookup".toList) :
    MatchWord :=
  proper.elim fun isWord notLookup => ⟨text.toList, isWord, notLookup⟩

/-- The control bypass as a rule. -/
def bypassRule : KernelRule where
  priority := controlRulePriority
  matching :=
    fromAll ++
      [matchWord "fwmark" (by decide),
        matchWord SystemPolicy.controlMark (by decide)]
  table := mainTable

/-- A test kernel that can add the control bypass. -/
structure RuleKernel where
  tables : TestKernel

namespace RuleKernel

def ip (kernel : RuleKernel) (arguments : List String) :
    RuleKernel × Except String IpOutput :=
  let (tables, result) :=
    if arguments = bypassArguments .v4 then
      kernel.tables.add .v4 bypassRule
    else if arguments = bypassArguments .v6 then
      kernel.tables.add .v6 bypassRule
    else
      kernel.tables.ip arguments
  (⟨tables⟩, result)

instance : IpTool RuleKernel where
  ip := ip

theorem ip_of_ne
    {kernel : RuleKernel} {arguments : List String}
    (other : ∀ family, arguments ≠ bypassArguments family) :
    kernel.ip arguments =
      (⟨(kernel.tables.ip arguments).1⟩, (kernel.tables.ip arguments).2) := by
  unfold ip
  rw [if_neg (other .v4), if_neg (other .v6)]

theorem ip_bypass (kernel : RuleKernel) (family : Family) :
    kernel.ip (bypassArguments family) =
      (⟨(kernel.tables.add family bypassRule).1⟩,
        (kernel.tables.add family bypassRule).2) := by
  unfold ip
  cases family with
  | v4 =>
      rw [if_pos rfl]
  | v6 =>
      have different : bypassArguments .v6 ≠ bypassArguments .v4 := by
        decide
      rw [if_neg different, if_pos rfl]

theorem ip_eq
    {kernel : RuleKernel} {arguments : List String}
    (other : ∀ family, arguments ≠ bypassArguments family) :
    (IpTool.ip kernel arguments).1.tables =
        (IpTool.ip kernel.tables arguments).1 ∧
      (IpTool.ip kernel arguments).2 =
        (IpTool.ip kernel.tables arguments).2 := by
  have same := @ip_of_ne kernel arguments other
  exact ⟨congrArg (fun ended => ended.1.tables) same,
    congrArg Prod.snd same⟩

theorem show_ne (family other : Family) :
    [family.flag, "rule", "show"] ≠ bypassArguments other := by
  simp [bypassArguments]

theorem del_ne (family other : Family) (rest : List String) :
    family.flag :: "rule" :: "del" :: rest ≠ bypassArguments other := by
  simp [bypassArguments]

theorem route_ne (family other : Family) (rest : List String) :
    family.flag :: "route" :: rest ≠ bypassArguments other := by
  simp [bypassArguments]

theorem option_route_ne (family other : Family) (rest : List String) :
    family.option ++ "route" :: "replace" :: rest ≠ bypassArguments other := by
  cases family <;> simp [bypassArguments, Family.option]

theorem option_rule_ne
    (family other : Family) (operation priority network table : String) :
    family.option ++
        ["rule", operation, "priority", priority, "to", network, "lookup",
          table] ≠
      bypassArguments other := by
  cases family <;> simp [bypassArguments, Family.option]

instance : LawfulIpTool RuleKernel where
  rules kernel := kernel.tables.rules
  show_prints kernel family output succeeded passed := by
    rw [(ip_eq (show_ne family)).2] at succeeded
    exact LawfulIpTool.show_prints kernel.tables family output succeeded passed
  show_keeps kernel family := by
    rw [(ip_eq (show_ne family)).1]
    exact LawfulIpTool.show_keeps kernel.tables family
  del_removes kernel family priority table arguments output command succeeded
      passed := by
    have other : ∀ family, arguments ≠ bypassArguments family := by
      rw [command]
      exact fun other => del_ne family other _
    rw [(ip_eq other).2] at succeeded
    rw [(ip_eq other).1]
    exact LawfulIpTool.del_removes kernel.tables family priority table
      arguments output command succeeded passed
  bypass_removes kernel family arguments command := by
    have other : ∀ family, arguments ≠ bypassArguments family := by
      rw [command]
      exact fun other => del_ne family other _
    rw [(ip_eq other).1]
    exact LawfulIpTool.bypass_removes kernel.tables family arguments command
  flush_keeps kernel family table := by
    rw [(ip_eq fun other => route_ne family other _).1]
    exact LawfulIpTool.flush_keeps kernel.tables family table
  replace_keeps kernel family route := by
    rw [(ip_eq fun other => option_route_ne family other route).1]
    exact LawfulIpTool.replace_keeps kernel.tables family route
  add_adds kernel family priority table network arguments command := by
    have other : ∀ family, arguments ≠ bypassArguments family := by
      rw [command]
      exact fun other => option_rule_ne family other _ _ _ _
    rw [(ip_eq other).1]
    exact LawfulIpTool.add_adds kernel.tables family priority table network
      arguments command

/-! ## The rule of a destination -/

/-- A number for every prefix. -/
def networkCode : IpNet → Nat
  | .v4 addr length => 2 * (addr.toNat * 33 + length.val)
  | .v6 addr length => 2 * (addr.toNat * 129 + length.val) + 1

theorem networkCode_inj
    {first second : IpNet} (same : networkCode first = networkCode second) :
    first = second := by
  cases first with
  | v4 firstAddr firstLength =>
      cases second with
      | v4 secondAddr secondLength =>
          simp only [networkCode] at same
          have firstBound := firstLength.isLt
          have secondBound := secondLength.isLt
          have lengths : firstLength = secondLength := Fin.ext (by omega)
          have addresses : firstAddr = secondAddr :=
            BitVec.eq_of_toNat_eq (by omega)
          rw [lengths, addresses]
      | v6 secondAddr secondLength =>
          simp only [networkCode] at same
          omega
  | v6 firstAddr firstLength =>
      cases second with
      | v4 secondAddr secondLength =>
          simp only [networkCode] at same
          omega
      | v6 secondAddr secondLength =>
          simp only [networkCode] at same
          have firstBound := firstLength.isLt
          have secondBound := secondLength.isLt
          have lengths : firstLength = secondLength := Fin.ext (by omega)
          have addresses : firstAddr = secondAddr :=
            BitVec.eq_of_toNat_eq (by omega)
          rw [lengths, addresses]

/-- The prefix 198.51.100.7/32 as it is printed, and a text of its own for
every other prefix. -/
def networkText (network : IpNet) : List Char :=
  if network = (testTicket 1).selector then
    "198.51.100.7/32".toList
  else
    'x' :: Nat.toDigits 10 (networkCode network)

def ruleDisplay : Display where
  address _ := "10.77.0.1"
  network network := String.ofList (networkText network)

theorem networkText_inj
    {first second : IpNet} (same : networkText first = networkText second) :
    first = second := by
  unfold networkText at same
  by_cases firstIs : first = (testTicket 1).selector
  · by_cases secondIs : second = (testTicket 1).selector
    · rw [firstIs, secondIs]
    · rw [if_pos firstIs, if_neg secondIs] at same
      have heads := (List.cons.inj same).1
      exact absurd heads (by decide)
  · by_cases secondIs : second = (testTicket 1).selector
    · rw [if_neg firstIs, if_pos secondIs] at same
      have heads := (List.cons.inj same).1
      exact absurd heads (by decide)
    · rw [if_neg firstIs, if_neg secondIs] at same
      exact networkCode_inj (toDigits_inj (List.cons.inj same).2)

theorem networkText_isWord (network : IpNet) :
    IsWord (networkText network) := by
  unfold networkText
  by_cases isTicket : network = (testTicket 1).selector
  · rw [if_pos isTicket]
    decide
  · rw [if_neg isTicket]
    constructor
    · exact List.cons_ne_nil _ _
    · intro character member
      rcases List.mem_cons.mp member with rfl | digit
      · decide
      · exact (isWord_toDigits _).unbroken character digit

theorem networkText_ne_lookup (network : IpNet) :
    networkText network ≠ "lookup".toList := by
  unfold networkText
  by_cases isTicket : network = (testTicket 1).selector
  · rw [if_pos isTicket]
    decide
  · rw [if_neg isTicket]
    intro same
    exact absurd (List.cons.inj same).1 (by decide)

/-- The match part of the rule of a destination. -/
def toWords (network : IpNet) : List MatchWord :=
  fromAll ++
    [matchWord "to" (by decide),
      ⟨networkText network, networkText_isWord network,
        networkText_ne_lookup network⟩]

def destinationRule (priority : UInt32) (network : IpNet) (table : UInt32) :
    KernelRule :=
  ⟨priority, toWords network, table⟩

theorem destination_networkText (network : IpNet) :
    TestKernel.destination (ruleDisplay.network network) =
      some (toWords network) := by
  have text : (ruleDisplay.network network).toList = networkText network :=
    String.toList_ofList
  unfold TestKernel.destination
  rw [dif_pos]
  · simp only [text]
    rfl
  · rw [text]
    exact ⟨networkText_isWord network, networkText_ne_lookup network⟩

/-- The rule is for this destination. -/
def IsFor (rule : KernelRule) (network : IpNet) : Prop :=
  TestKernel.matchesWords rule "to" (ruleDisplay.network network) = true

theorem isFor_iff (rule : KernelRule) (network : IpNet) :
    IsFor rule network ↔
      ["to".toList, networkText network] <:+:
        rule.matching.map MatchWord.text := by
  have text : (ruleDisplay.network network).toList = networkText network :=
    String.toList_ofList
  unfold IsFor TestKernel.matchesWords
  rw [decide_eq_true_eq, text]

theorem isFor_destinationRule
    (priority : UInt32) (network : IpNet) (table : UInt32) :
    IsFor (destinationRule priority network table) network := by
  rw [isFor_iff]
  exact ⟨["from".toList, "all".toList], [], rfl⟩

theorem eq_of_isFor
    {priority table : UInt32} {first second : IpNet}
    (concerns : IsFor (destinationRule priority first table) second) :
    first = second := by
  rw [isFor_iff] at concerns
  have texts :
      (destinationRule priority first table).matching.map MatchWord.text =
        ["from".toList, "all".toList, "to".toList, networkText first] := rfl
  rw [texts] at concerns
  obtain ⟨front, back, split⟩ := concerns
  -- only the third word of the rule is `to`
  rcases front with _ | ⟨_, _ | ⟨_, _ | ⟨_, rest⟩⟩⟩
  · have heads := (List.cons.inj split).1
    exact absurd heads (by decide)
  · have heads := (List.cons.inj (List.cons.inj split).2).1
    exact absurd heads (by decide)
  · have lasts := (List.cons.inj (List.cons.inj (List.cons.inj split).2).2).2
    exact networkText_inj (List.cons.inj lasts).1.symm
  · have lengths := congrArg List.length split
    simp only [List.length_append, List.length_cons, List.length_nil]
      at lengths
    omega

/-! ## The laws -/

theorem text_injective : Function.Injective MatchWord.text := by
  rintro ⟨first, _, _⟩ ⟨second, _, _⟩ same
  cases same
  rfl

/-- Rules that are printed alike are the same. -/
theorem line_inj {first second : KernelRule} (same : first.line = second.line) :
    first = second := by
  have words : first.words = second.words := by
    rw [← first.splitWhitespace_line, ← second.splitWhitespace_line, same]
  obtain ⟨priorities, rest⟩ := List.cons.inj words
  obtain ⟨matchings, tables⟩ := List.append_inj' rest rfl
  have samePriority : first.priority = second.priority :=
    UInt32.toNat_inj.mp (toDigits_inj (List.append_cancel_right priorities))
  have sameMatching : first.matching = second.matching :=
    text_injective.list_map matchings
  have sameTable : first.table = second.table := by
    have digits := (List.cons.inj (List.cons.inj tables).2).1
    exact TestKernel.decimal_inj (String.toList_inj.mp digits)
  cases first
  cases second
  cases samePriority
  cases sameMatching
  cases sameTable
  rfl

/-- What a kernel does when a rule is added. -/
theorem add_exact
    {kernel : TestKernel} {family : Family} {rule : KernelRule}
    {output : IpOutput}
    (succeeded : (kernel.add family rule).2 = .ok output) :
    if output.success then
      rule ∉ kernel.rules family ∧
        ChangesFamily family
          (fun before after =>
            RemovesOne (fun other => other = rule) after before)
          kernel.rules (kernel.add family rule).1.rules
    else
      (kernel.add family rule).1.rules = kernel.rules ∧
        rule ∈ kernel.rules family := by
  unfold TestKernel.add at succeeded ⊢
  by_cases present :
      (kernel.rules family).any (fun other => other.line == rule.line) = true
  · rw [if_pos present] at succeeded ⊢
    cases succeeded
    obtain ⟨other, member, same⟩ := List.any_eq_true.mp present
    have refused : ¬(TestKernel.refusal "File exists").success = true :=
      Bool.false_ne_true
    rw [if_neg refused]
    refine ⟨rfl, ?_⟩
    rw [← line_inj (beq_iff_eq.mp same)]
    exact member
  · rw [if_neg present] at succeeded ⊢
    cases succeeded
    rw [if_pos rfl]
    constructor
    · intro member
      apply present
      exact List.any_eq_true.mpr ⟨rule, member, beq_self_eq_true _⟩
    · apply TestKernel.changesFamily_change
      refine ⟨_, rule, _, rfl, rfl, ?_⟩
      rw [List.takeWhile_append_dropWhile]

theorem ruleCommand_add_eq
    (kernel : TestKernel) (priority : UInt32) (network : IpNet)
    (table : UInt32) :
    kernel.ruleCommand network.family
        ["add", "priority", decimal priority, "to",
          ruleDisplay.network network, "lookup", decimal table] =
      kernel.add network.family (destinationRule priority network table) := by
  simp only [TestKernel.ruleCommand, TestKernel.parseUnsigned_decimal,
    destination_networkText, UInt32.ofNat_toNat]
  rfl

/-- The rules among which a deletion looks. -/
def isWanted (priority : UInt32) (network : IpNet) (table : UInt32)
    (rule : KernelRule) : Bool :=
  decimal rule.priority == decimal priority &&
      decimal rule.table == decimal table &&
    TestKernel.matchesWords rule "to" (ruleDisplay.network network)

theorem isWanted_iff
    {priority table : UInt32} {network : IpNet} (rule : KernelRule) :
    isWanted priority network table rule = true ↔
      rule.priority = priority ∧ rule.table = table ∧ IsFor rule network := by
  unfold isWanted
  rw [Bool.and_eq_true, Bool.and_eq_true, beq_iff_eq, beq_iff_eq, and_assoc]
  constructor
  · rintro ⟨priorities, tables, concerns⟩
    exact ⟨TestKernel.decimal_inj priorities, TestKernel.decimal_inj tables,
      concerns⟩
  · rintro ⟨priorities, tables, concerns⟩
    rw [priorities, tables]
    exact ⟨rfl, rfl, concerns⟩

theorem ruleCommand_del_eq
    (kernel : TestKernel) (priority : UInt32) (network : IpNet)
    (table : UInt32) :
    kernel.ruleCommand network.family
        ["del", "priority", decimal priority, "to",
          ruleDisplay.network network, "lookup", decimal table] =
      kernel.delete network.family (isWanted priority network table) :=
  rfl

/-- What a kernel does when a rule is deleted. -/
theorem delete_exact
    {kernel : TestKernel} {family : Family} {wanted : KernelRule → Bool}
    {condition : KernelRule → Prop} {output : IpOutput}
    (means : ∀ rule, wanted rule = true ↔ condition rule)
    (succeeded : (kernel.delete family wanted).2 = .ok output) :
    if output.success then
      ChangesFamily family (RemovesOne condition) kernel.rules
        (kernel.delete family wanted).1.rules
    else
      (kernel.delete family wanted).1.rules = kernel.rules ∧
        ∀ rule ∈ kernel.rules family, ¬condition rule := by
  unfold TestKernel.delete at succeeded ⊢
  by_cases present : (kernel.rules family).any wanted = true
  · rw [if_pos present] at succeeded ⊢
    cases succeeded
    rw [if_pos rfl]
    apply TestKernel.changesFamily_change
    obtain ⟨rule, member, hit⟩ := List.any_eq_true.mp present
    obtain ⟨found, front, back, _, chosen, split, rest⟩ :=
      List.exists_of_eraseP member hit
    exact ⟨front, found, back, split, (means found).mp chosen, rest⟩
  · rw [if_neg present] at succeeded ⊢
    cases succeeded
    have refused :
        ¬(TestKernel.refusal "No such file or directory").success = true :=
      Bool.false_ne_true
    rw [if_neg refused]
    refine ⟨rfl, ?_⟩
    intro rule member holds
    apply present
    exact List.any_eq_true.mpr ⟨rule, member, (means rule).mpr holds⟩

theorem add_starts
    (kernel : TestKernel) (family : Family) (rule : KernelRule)
    (error : String) : (kernel.add family rule).2 ≠ .error error := by
  unfold TestKernel.add
  split <;> nofun

theorem delete_starts
    (kernel : TestKernel) (family : Family) (wanted : KernelRule → Bool)
    (error : String) : (kernel.delete family wanted).2 ≠ .error error := by
  unfold TestKernel.delete
  split <;> nofun

section Laws

variable {kernel : RuleKernel} {priority table : UInt32} {selector : IpNet}
  {arguments : List String}

/-- The command that adds the rule of a destination. -/
theorem ip_add
    (command :
      arguments =
        selector.family.option ++
          ["rule", "add", "priority", decimal priority, "to",
            ruleDisplay.network selector, "lookup", decimal table]) :
    (IpTool.ip kernel arguments).1.tables =
        (kernel.tables.add selector.family
          (destinationRule priority selector table)).1 ∧
      (IpTool.ip kernel arguments).2 =
        (kernel.tables.add selector.family
          (destinationRule priority selector table)).2 := by
  have other : ∀ family, arguments ≠ bypassArguments family := by
    rw [command]
    exact fun other => option_rule_ne selector.family other _ _ _ _
  have run :
      IpTool.ip kernel.tables arguments =
        kernel.tables.add selector.family
          (destinationRule priority selector table) := by
    rw [command, ← ruleCommand_add_eq]
    exact kernel.tables.ip_option_rule selector.family _
  rw [← run]
  exact ip_eq other

/-- The command that deletes the rule of a destination. -/
theorem ip_del
    (command :
      arguments =
        selector.family.option ++
          ["rule", "del", "priority", decimal priority, "to",
            ruleDisplay.network selector, "lookup", decimal table]) :
    (IpTool.ip kernel arguments).1.tables =
        (kernel.tables.delete selector.family
          (isWanted priority selector table)).1 ∧
      (IpTool.ip kernel arguments).2 =
        (kernel.tables.delete selector.family
          (isWanted priority selector table)).2 := by
  have other : ∀ family, arguments ≠ bypassArguments family := by
    rw [command]
    exact fun other => option_rule_ne selector.family other _ _ _ _
  have run :
      IpTool.ip kernel.tables arguments =
        kernel.tables.delete selector.family
          (isWanted priority selector table) := by
    rw [command, ← ruleCommand_del_eq]
    exact kernel.tables.ip_option_rule selector.family _
  rw [← run]
  exact ip_eq other

/-- The command that adds the control bypass. -/
theorem bypass_adds
    {family : Family} (command : arguments = bypassArguments family) :
    ChangesFamily family
      (fun before after =>
        after = before ∨ RemovesOne KernelRule.IsControlBypass after before)
      kernel.tables.rules (IpTool.ip kernel arguments).1.tables.rules := by
  have run :
      (IpTool.ip kernel arguments).1.tables =
        (kernel.tables.add family bypassRule).1 := by
    rw [command]
    exact congrArg (fun ended => ended.1.tables) (kernel.ip_bypass family)
  have isBypass : bypassRule.IsControlBypass :=
    ⟨rfl, rfl, ["from".toList, "all".toList], [], rfl⟩
  obtain ⟨added, others⟩ := kernel.tables.add_adds family bypassRule
  rw [run]
  refine ⟨?_, others⟩
  rcases added with same | ⟨front, rule, back, split, equal, rest⟩
  · exact Or.inl same
  · refine Or.inr ⟨front, rule, back, split, ?_, rest⟩
    rw [equal]
    exact isBypass

end Laws

instance : ExactIpTool RuleKernel ruleDisplay where
  ruleFor := destinationRule
  Concerns := IsFor
  ruleFor_priority _ _ _ := rfl
  ruleFor_table _ _ _ := rfl
  concerns_ruleFor := isFor_destinationRule
  eq_of_concerns _ _ _ _ _ _ concerns := eq_of_isFor concerns
  add_fails kernel priority selector table arguments error command failed := by
    rw [(ip_add command).2] at failed
    exact absurd failed (add_starts _ _ _ _)
  add_exact kernel priority selector table arguments output command
      succeeded := by
    obtain ⟨tables, result⟩ := @ip_add kernel _ _ _ _ command
    rw [result] at succeeded
    have added := add_exact succeeded
    rw [← tables] at added
    by_cases passed : output.success = true
    · rw [if_pos passed] at added ⊢
      exact added
    · rw [if_neg passed] at added ⊢
      exact
        ⟨added.1, fun _ =>
          ⟨_, added.2, rfl, rfl, isFor_destinationRule _ _ _⟩⟩
  del_fails kernel priority selector table arguments error command failed := by
    rw [(ip_del command).2] at failed
    exact absurd failed (delete_starts _ _ _ _)
  del_exact kernel priority selector table arguments output command
      succeeded := by
    obtain ⟨tables, result⟩ := @ip_del kernel _ _ _ _ command
    rw [result] at succeeded
    have deleted := delete_exact isWanted_iff succeeded
    rw [← tables] at deleted
    by_cases passed : output.success = true
    · rw [if_pos passed] at deleted ⊢
      exact deleted
    · rw [if_neg passed] at deleted ⊢
      exact ⟨deleted.1, fun _ => deleted.2⟩
  bypass_adds kernel family arguments command := bypass_adds command

end RuleKernel

end WgLink
