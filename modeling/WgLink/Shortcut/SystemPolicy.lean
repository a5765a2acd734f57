import WgLink.Library.Fallible
import WgLink.Library.Text
import WgLink.Shortcut.Cascade
import Mathlib.Data.List.Infix

/-!
# Kernel policy rules

`SystemPolicy` of `shortcut/policy.rs` drives the kernel through the program
`ip`.  What `ip` does is a parameter; `LawfulIpTool` says what the clean-up
after a crash relies on.
-/

namespace WgLink

open WgLink.Library

/-- The address families of the rule tables. -/
inductive Family where
  | v4
  | v6
deriving DecidableEq

/-- The option of `ip` for a family. -/
def Family.flag : Family → String
  | .v4 => "-4"
  | .v6 => "-6"

/-- The option of `ip` for a rule or a route of a family; without one `ip`
works on the first family. -/
def Family.option : Family → List String
  | .v4 => []
  | .v6 => ["-6"]

/-- The family of a selector. -/
def IpNet.family : IpNet → Family
  | .v4 _ _ => .v4
  | .v6 _ _ => .v6

/-- What a run of a program returns. -/
structure IpOutput where
  success : Bool
  stdout : String
  stderr : String

/-- The program `ip` over a state of the kernel; it may not even start. -/
class IpTool (K : Type) where
  ip : K → List String → K × Except String IpOutput

/-- How addresses and prefixes are printed. -/
structure Display where
  address : IpAddr → String
  network : IpNet → String

/-- `DEFAULT_TABLE`. -/
def defaultTable : UInt32 := 51820

/-- `DEFAULT_RULE_PRIORITY_BASE`. -/
def defaultRulePriorityBase : UInt32 := 11000

/-- `CONTROL_RULE_PRIORITY`. -/
def controlRulePriority : UInt32 := 10500

/-- `SystemPolicy`.  Its two constructors set the table and the base of the
priorities to their defaults. -/
structure SystemPolicy where
  tunName : String
  table : UInt32
  priorityBase : UInt32
  source : Option IpAddr
  tableDefault : table = defaultTable
  baseDefault : priorityBase = defaultRulePriorityBase

/-- `to_string` of a number. -/
def decimal (number : UInt32) : String :=
  number.toNat.repr

/-- `str::contains`. -/
def containsText (text pattern : String) : Bool :=
  decide (pattern.toList <:+: text.toList)

/-- `str::trim`. -/
def trimText (text : String) : String :=
  String.ofList (trim text.toList)

/-- The search for the word after the first `lookup`. -/
def findLookup : List (List Char) → Option (List Char)
  | first :: second :: rest =>
      if first = "lookup".toList then
        some second
      else
        findLookup (second :: rest)
  | _ => none

/-- `parse_managed_rule` with the range `MANAGED_RULE_PRIORITY_RANGE`. -/
def parseManagedRule (line : List Char) (table : UInt32) : Option Nat :=
  match splitWhitespace line with
  | [] => none
  | first :: fields =>
      match parseUnsigned (2 ^ 32) (trimEndMatches ':' first) with
      | none => none
      | some priority =>
          if 11000 ≤ priority ∧ priority < 21000 then
            match findLookup fields with
            | none => none
            | some lookup =>
                if lookup = (decimal table).toList then
                  some priority
                else
                  none
          else
            none

section Commands

variable {K : Type} [IpTool K]

/-- `ip_output`. -/
def ipOutput (arguments : List String) : Fallible K IpOutput :=
  .call fun kernel => IpTool.ip kernel arguments

/-- `run_ip`. -/
def runIp (arguments : List String) : Fallible K Unit := do
  let output ← ipOutput arguments
  .check output.success ("ip command failed: " ++ trimText output.stderr)

namespace SystemPolicy

/-- `SystemPolicy::new`. -/
def new (tunName : String) : SystemPolicy where
  tunName
  table := defaultTable
  priorityBase := defaultRulePriorityBase
  source := none
  tableDefault := rfl
  baseDefault := rfl

/-- `SystemPolicy::new_with_source`. -/
def newWithSource (tunName : String) (source : IpAddr) : SystemPolicy where
  tunName
  table := defaultTable
  priorityBase := defaultRulePriorityBase
  source := some source
  tableDefault := rfl
  baseDefault := rfl

/-- The mark of control sockets as `ip` takes it. -/
def controlMark : String := "0x5747/0xffff"

/-- `SystemPolicy::remove_control_bypass`. -/
def removeControlBypass : Fallible K Unit :=
  .forEach [Family.v4, Family.v6] fun family => do
    let output ←
      ipOutput
        [family.flag, "rule", "del", "priority", decimal controlRulePriority,
          "fwmark", controlMark, "lookup", "main"]
    .check
      (output.success || containsText output.stderr "No such file" ||
        containsText output.stderr "No such process")
      ("ip " ++ family.flag ++ " control bypass rule removal failed: " ++
        trimText output.stderr)

/-- The rules of one family in `SystemPolicy::cleanup_stale`. -/
def cleanupFamily (self : SystemPolicy) (family : Family) :
    Fallible K Unit := do
  let output ← ipOutput [family.flag, "rule", "show"]
  .check output.success
    ("ip " ++ family.flag ++ " rule show failed: " ++ trimText output.stderr)
  .forEach
    ((lines output.stdout.toList).filterMap fun line =>
      parseManagedRule line self.table)
    fun priority =>
      runIp
        [family.flag, "rule", "del", "priority", priority.repr, "lookup",
          decimal self.table]
  let output ←
    ipOutput [family.flag, "route", "flush", "table", decimal self.table]
  .check
    (output.success ||
      containsText output.stderr "FIB table does not exist")
    ("ip " ++ family.flag ++ " route flush failed: " ++
      trimText output.stderr)

/-- `SystemPolicy::cleanup_stale`. -/
def cleanupStale (self : SystemPolicy) : Fallible K Unit := do
  removeControlBypass
  .forEach [Family.v4, Family.v6] self.cleanupFamily

section Rules

variable (display : Display) (hash : Hash)

/-- `SystemPolicy::prepare`. -/
def prepare (self : SystemPolicy) (selector : IpNet) : Fallible K Unit :=
  runIp
    (selector.family.option ++
      ["route", "replace", "default", "dev", self.tunName, "table",
        decimal self.table] ++
      match self.source with
      | none => []
      | some source => ["src", display.address source])

/-- `SystemPolicy::priority`. -/
def priority (self : SystemPolicy) (selector : IpNet) : UInt32 :=
  let digest := hash (asBytes (display.network selector))
  let offset := digest.head.toNat + 256 * digest.tail.head.toNat
  self.priorityBase + UInt32.ofNat (offset % 10000)

/-- `SystemPolicy::rule_arguments`. -/
def ruleArguments
    (self : SystemPolicy) (operation : String) (selector : IpNet) :
    List String :=
  selector.family.option ++
    ["rule", operation, "priority",
      decimal (self.priority display hash selector), "to",
      display.network selector, "lookup", decimal self.table]

/-- `install` of `SystemPolicy`. -/
def install (self : SystemPolicy) (selector : IpNet) :
    Fallible K Unit := do
  self.prepare display selector
  let output ← ipOutput (self.ruleArguments display hash "add" selector)
  .check (output.success || containsText output.stderr "File exists")
    ("ip rule add failed: " ++ trimText output.stderr)

/-- `remove` of `SystemPolicy`. -/
def remove (self : SystemPolicy) (selector : IpNet) : Fallible K Unit := do
  let output ← ipOutput (self.ruleArguments display hash "del" selector)
  .check
    (output.success || containsText output.stderr "No such file" ||
      containsText output.stderr "No such process")
    ("ip rule del failed: " ++ trimText output.stderr)

end Rules

end SystemPolicy

end Commands

/-! ## The rule tables of the kernel -/

/-- A word of the match part of a printed rule. -/
structure MatchWord where
  text : List Char
  isWord : IsWord text
  notLookup : text ≠ "lookup".toList
deriving DecidableEq

/-- A rule of the kernel, by what `ip rule show` prints of it. -/
structure KernelRule where
  priority : UInt32
  matching : List MatchWord
  table : UInt32
deriving DecidableEq

namespace KernelRule

/-- The words of a printed rule. -/
def words (rule : KernelRule) : List (List Char) :=
  (Nat.toDigits 10 rule.priority.toNat ++ [':']) ::
    (rule.matching.map MatchWord.text ++
      ["lookup".toList, (decimal rule.table).toList])

/-- The line that `ip rule show` prints. -/
def line (rule : KernelRule) : List Char :=
  unwords rule.words

/-- A rule with a priority of the managed range that looks up the table of the
shortcuts. -/
def managed (rule : KernelRule) : Bool :=
  rule.table == defaultTable && 11000 ≤ rule.priority.toNat &&
    rule.priority.toNat < 21000

theorem managed_iff (rule : KernelRule) :
    rule.managed = true ↔
      rule.table = defaultTable ∧ 11000 ≤ rule.priority.toNat ∧
        rule.priority.toNat < 21000 := by
  unfold managed
  rw [Bool.and_eq_true, Bool.and_eq_true, beq_iff_eq, decide_eq_true_eq,
    decide_eq_true_eq, and_assoc]

end KernelRule

/-- One element that satisfies the condition is taken out. -/
def RemovesOne
    {α : Type} (condition : α → Prop) (before after : List α) : Prop :=
  ∃ front item back,
    before = front ++ item :: back ∧ condition item ∧ after = front ++ back

/-- The table `main`. -/
def mainTable : UInt32 := 254

/-- A rule that sends marked packets to the table `main`, at the priority of
the control bypass. -/
def KernelRule.IsControlBypass (rule : KernelRule) : Prop :=
  rule.priority = controlRulePriority ∧ rule.table = mainTable ∧
    ["fwmark".toList, SystemPolicy.controlMark.toList] <:+:
      rule.matching.map MatchWord.text

/-- The rules of one family change as said, and those of the other stay. -/
def ChangesFamily
    (family : Family)
    (change : List KernelRule → List KernelRule → Prop)
    (before after : Family → List KernelRule) : Prop :=
  change (before family) (after family) ∧
    ∀ other, other ≠ family → after other = before other

/-- What is relied on of `ip`: which rules there are, that they are printed
line by line, and what the commands of `SystemPolicy` do to them. -/
class LawfulIpTool (K : Type) [IpTool K] where
  rules : K → Family → List KernelRule
  show_prints :
    ∀ (kernel : K) (family : Family) (output : IpOutput),
      (IpTool.ip kernel [family.flag, "rule", "show"]).2 = .ok output →
      output.success = true →
      output.stdout.toList =
        unlines ((rules kernel family).map KernelRule.line)
  show_keeps :
    ∀ (kernel : K) (family : Family),
      rules (IpTool.ip kernel [family.flag, "rule", "show"]).1 =
        rules kernel
  del_removes :
    ∀ (kernel : K) (family : Family) (priority table : UInt32)
      (arguments : List String) (output : IpOutput),
      arguments =
        [family.flag, "rule", "del", "priority", decimal priority, "lookup",
          decimal table] →
      (IpTool.ip kernel arguments).2 = .ok output →
      output.success = true →
      ChangesFamily family
        (RemovesOne fun rule =>
          rule.priority = priority ∧ rule.table = table)
        (rules kernel) (rules (IpTool.ip kernel arguments).1)
  bypass_removes :
    ∀ (kernel : K) (family : Family) (arguments : List String),
      arguments =
        [family.flag, "rule", "del", "priority",
          decimal controlRulePriority, "fwmark", SystemPolicy.controlMark,
          "lookup", "main"] →
      ChangesFamily family
        (fun before after =>
          after = before ∨
            RemovesOne KernelRule.IsControlBypass before after)
        (rules kernel) (rules (IpTool.ip kernel arguments).1)
  flush_keeps :
    ∀ (kernel : K) (family : Family) (table : UInt32),
      rules
          (IpTool.ip kernel
            [family.flag, "route", "flush", "table", decimal table]).1 =
        rules kernel
  replace_keeps :
    ∀ (kernel : K) (family : Family) (route : List String),
      rules
          (IpTool.ip kernel
            (family.option ++ "route" :: "replace" :: route)).1 =
        rules kernel
  add_adds :
    ∀ (kernel : K) (family : Family) (priority table : UInt32)
      (network : String) (arguments : List String),
      arguments =
        family.option ++
          ["rule", "add", "priority", decimal priority, "to", network,
            "lookup", decimal table] →
      ChangesFamily family
        (fun before after =>
          after = before ∨
            RemovesOne
              (fun rule => rule.priority = priority ∧ rule.table = table)
              after before)
        (rules kernel) (rules (IpTool.ip kernel arguments).1)

/-! ## Printed rules are read back -/

theorem isWord_priority (number : Nat) :
    IsWord (Nat.toDigits 10 number ++ [':']) := by
  constructor
  · simp
  · intro character member
    rcases List.mem_append.mp member with digit | colon
    · exact (isWord_toDigits number).unbroken character digit
    · rw [List.mem_singleton.mp colon]
      decide

theorem toList_decimal (number : UInt32) :
    (decimal number).toList = Nat.toDigits 10 number.toNat :=
  Nat.toList_repr

namespace KernelRule

theorem isWord_words (rule : KernelRule) :
    ∀ word ∈ rule.words, IsWord word := by
  intro word member
  unfold words at member
  rcases List.mem_cons.mp member with first | later
  · rw [first]
    exact isWord_priority _
  · rcases List.mem_append.mp later with matched | last
    · obtain ⟨matchWord, _, same⟩ := List.mem_map.mp matched
      rw [← same]
      exact matchWord.isWord
    · rcases List.mem_cons.mp last with lookup | table
      · rw [lookup]
        decide
      · rw [List.mem_singleton.mp table, toList_decimal]
        exact isWord_toDigits _

theorem splitWhitespace_line (rule : KernelRule) :
    splitWhitespace rule.line = rule.words :=
  splitWhitespace_unwords (List.cons_ne_nil _ _) rule.isWord_words

theorem line_unbroken (rule : KernelRule) :
    '\n' ∉ rule.line ∧ '\r' ∉ rule.line :=
  ⟨not_mem_unwords rule.isWord_words (by decide) (by decide),
    not_mem_unwords rule.isWord_words (by decide) (by decide)⟩

end KernelRule

theorem findLookup_matching (matching : List MatchWord) (table : List Char) :
    findLookup
        (matching.map MatchWord.text ++ ["lookup".toList, table]) =
      some table := by
  induction matching with
  | nil =>
      rfl
  | cons word rest inductionHypothesis =>
      cases rest with
      | nil =>
          exact if_neg word.notLookup
      | cons next others =>
          rw [← inductionHypothesis]
          exact if_neg word.notLookup

theorem trimEndMatches_priority (number : Nat) :
    trimEndMatches ':' (Nat.toDigits 10 number ++ [':']) =
      Nat.toDigits 10 number := by
  apply trimEndMatches_append
  intro last
  have digit : (':' : Char).isDigit = true :=
    Nat.isDigit_of_mem_toDigits (by omega) (by omega)
      (List.mem_of_getLast? last)
  exact absurd digit (by decide)

/-- A printed rule is recognised exactly when it is managed. -/
theorem parseManagedRule_line (rule : KernelRule) :
    parseManagedRule rule.line defaultTable =
      if rule.managed then some rule.priority.toNat else none := by
  have fits : rule.priority.toNat < 2 ^ 32 := rule.priority.toNat_lt
  unfold parseManagedRule
  rw [rule.splitWhitespace_line]
  unfold KernelRule.words
  simp only [trimEndMatches_priority, parseUnsigned_toDigits fits,
    findLookup_matching]
  by_cases inRange :
      11000 ≤ rule.priority.toNat ∧ rule.priority.toNat < 21000
  · rw [if_pos inRange]
    by_cases ours : rule.table = defaultTable
    · have recognised : rule.managed = true :=
        rule.managed_iff.mpr ⟨ours, inRange⟩
      rw [if_pos (by rw [ours]), if_pos recognised]
    · have foreign : ¬ rule.managed = true := by
        intro recognised
        exact ours (rule.managed_iff.mp recognised).1
      have different :
          ¬ (decimal rule.table).toList = (decimal defaultTable).toList := by
        intro same
        rw [toList_decimal, toList_decimal] at same
        exact ours (UInt32.toNat_inj.mp (toDigits_inj same))
      rw [if_neg different, if_neg foreign]
  · have foreign : ¬ rule.managed = true := by
      intro recognised
      exact inRange (rule.managed_iff.mp recognised).2
    rw [if_neg inRange, if_neg foreign]

/-- The priorities that the clean-up reads are those of the managed rules. -/
theorem managed_priorities (table : List KernelRule) :
    (lines (unlines (table.map KernelRule.line))).filterMap
        (fun line => parseManagedRule line defaultTable) =
      (table.filter KernelRule.managed).map
        fun rule => rule.priority.toNat := by
  rw [lines_unlines]
  · induction table with
    | nil =>
        rfl
    | cons rule rest inductionHypothesis =>
        rw [List.map_cons]
        by_cases recognised : rule.managed = true
        · rw [List.filterMap_cons_some
              (by rw [parseManagedRule_line, if_pos recognised]),
            inductionHypothesis, List.filter_cons_of_pos recognised,
            List.map_cons]
        · rw [List.filterMap_cons_none
              (by rw [parseManagedRule_line, if_neg recognised]),
            inductionHypothesis, List.filter_cons_of_neg recognised]
  · intro line member
    obtain ⟨rule, _, same⟩ := List.mem_map.mp member
    rw [← same]
    exact rule.line_unbroken

end WgLink
