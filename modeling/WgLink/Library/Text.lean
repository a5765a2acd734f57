import Mathlib.Data.List.Basic

/-!
# Splitting and reading texts

Texts as lists of characters: words between white space, lines, and unsigned
numbers in decimal.  What is printed word by word or line by line is split into
the same words and lines again.
-/

namespace WgLink.Library

/-- White space as Unicode defines it. -/
def isWhitespace (character : Char) : Bool :=
  let code := character.toNat
  (9 ≤ code && code ≤ 13) || code == 32 || code == 0x85 || code == 0xA0 ||
    code == 0x1680 || (0x2000 ≤ code && code ≤ 0x200A) || code == 0x2028 ||
    code == 0x2029 || code == 0x202F || code == 0x205F || code == 0x3000

/-- The words between white space. -/
def splitWhitespace (text : List Char) : List (List Char) :=
  (text.splitOnP isWhitespace).filter fun word => !word.isEmpty

/-- A line without a carriage return at its end. -/
def stripCarriageReturn (line : List Char) : List Char :=
  if line.getLast? = some '\r' then line.dropLast else line

/-- The lines of a text.  The last line need not be ended, and a carriage
return belongs to the end of a line only in front of a line feed. -/
def lines (text : List Char) : List (List Char) :=
  let parts := text.splitOn '\n'
  parts.dropLast.map stripCarriageReturn ++
    (parts.getLast?.toList.filter fun line => !line.isEmpty)

/-- The text without the given character at its end. -/
def trimEndMatches (character : Char) (text : List Char) : List Char :=
  (text.reverse.dropWhile (· == character)).reverse

/-- The text without white space at its ends. -/
def trim (text : List Char) : List Char :=
  ((text.dropWhile isWhitespace).reverse.dropWhile isWhitespace).reverse

/-- The parts before and after the first occurrence of a character. -/
def splitOnce (character : Char) (text : List Char) :
    Option (List Char × List Char) :=
  if character ∈ text then
    some (text.takeWhile (· != character),
      (text.dropWhile (· != character)).tail)
  else
    none

/-- The same text up to the case of ASCII letters. -/
def eqIgnoreAsciiCase (left right : List Char) : Bool :=
  left.map Char.toLower == right.map Char.toLower

/-- A decimal number below `limit`. -/
def parseDigits (limit : Nat) (digits : List Char) : Option Nat :=
  if digits ≠ [] ∧ digits.all Char.isDigit = true ∧
      Nat.ofDigitChars 10 digits 0 < limit then
    some (Nat.ofDigitChars 10 digits 0)
  else
    none

/-- A decimal number below `limit`, which may have a plus sign. -/
def parseUnsigned (limit : Nat) (text : List Char) : Option Nat :=
  match text with
  | '+' :: digits => parseDigits limit digits
  | digits => parseDigits limit digits

/-! ## Words -/

/-- A word: not empty and without white space. -/
structure IsWord (word : List Char) : Prop where
  nonempty : word ≠ []
  unbroken : ∀ character ∈ word, isWhitespace character = false

theorem isWord_iff (word : List Char) :
    IsWord word ↔
      word ≠ [] ∧
        (word.all fun character => !isWhitespace character) = true := by
  constructor
  · intro isWord
    refine ⟨isWord.nonempty, List.all_eq_true.mpr ?_⟩
    intro character member
    rw [isWord.unbroken character member]
    rfl
  · intro ⟨nonempty, unbroken⟩
    refine ⟨nonempty, ?_⟩
    intro character member
    have kept := List.all_eq_true.mp unbroken character member
    rw [Bool.not_eq_true'] at kept
    exact kept

instance (word : List Char) : Decidable (IsWord word) :=
  decidable_of_iff _ (isWord_iff word).symm

theorem splitWhitespace_word
    {word : List Char} (isWord : IsWord word) :
    splitWhitespace word = [word] := by
  have filled : word.isEmpty = false :=
    List.isEmpty_eq_false_iff.mpr isWord.nonempty
  unfold splitWhitespace
  rw [List.splitOnP_eq_singleton isWord.unbroken, List.filter_cons, filled]
  rfl

theorem splitWhitespace_append
    {word : List Char} (isWord : IsWord word) {space : Char}
    (separates : isWhitespace space = true) (rest : List Char) :
    splitWhitespace (word ++ space :: rest) =
      word :: splitWhitespace rest := by
  have filled : word.isEmpty = false :=
    List.isEmpty_eq_false_iff.mpr isWord.nonempty
  unfold splitWhitespace
  rw [List.splitOnP_append_cons_of_forall_mem isWord.unbroken space separates,
    List.filter_cons, filled]
  rfl

/-- Words separated by single blanks. -/
def unwords (words : List (List Char)) : List Char :=
  [' '].intercalate words

theorem unwords_cons_cons
    (first second : List Char) (rest : List (List Char)) :
    unwords (first :: second :: rest) =
      first ++ ' ' :: unwords (second :: rest) := by
  unfold unwords
  rw [List.intercalate_cons_cons, List.append_assoc]
  rfl

theorem unwords_singleton (word : List Char) : unwords [word] = word :=
  List.intercalate_singleton

theorem splitWhitespace_unwords
    {words : List (List Char)} (nonempty : words ≠ [])
    (areWords : ∀ word ∈ words, IsWord word) :
    splitWhitespace (unwords words) = words := by
  induction words with
  | nil =>
      exact absurd rfl nonempty
  | cons first rest inductionHypothesis =>
      have firstWord := areWords first List.mem_cons_self
      cases rest with
      | nil =>
          rw [unwords_singleton]
          exact splitWhitespace_word firstWord
      | cons second others =>
          have remaining :=
            inductionHypothesis (List.cons_ne_nil second others)
              fun word member => areWords word (List.mem_cons_of_mem _ member)
          rw [unwords_cons_cons,
            splitWhitespace_append firstWord (by decide), remaining]

/-- Printed words hold no white space but the blanks between them. -/
theorem not_mem_unwords
    {words : List (List Char)} (areWords : ∀ word ∈ words, IsWord word)
    {space : Char} (separates : isWhitespace space = true)
    (other : space ≠ ' ') :
    space ∉ unwords words := by
  have outside : ∀ word ∈ words, space ∉ word := by
    intro word wordMember member
    have unbroken := (areWords word wordMember).unbroken space member
    rw [separates] at unbroken
    cases unbroken
  induction words with
  | nil =>
      exact List.not_mem_nil
  | cons first rest inductionHypothesis =>
      have firstOutside := outside first List.mem_cons_self
      cases rest with
      | nil =>
          rw [unwords_singleton]
          exact firstOutside
      | cons second others =>
          have remaining :=
            inductionHypothesis
              (fun word member => areWords word (List.mem_cons_of_mem _ member))
              (fun word member => outside word (List.mem_cons_of_mem _ member))
          rw [unwords_cons_cons, List.mem_append, List.mem_cons]
          intro member
          rcases member with here | here | here
          · exact firstOutside here
          · exact other here
          · exact remaining here

/-! ## Lines -/

theorem lines_append
    {line : List Char} (unbroken : '\n' ∉ line)
    (ending : line.getLast? ≠ some '\r') (rest : List Char) :
    lines (line ++ '\n' :: rest) = line :: lines rest := by
  have noBreak : ∀ character ∈ line, (character == '\n') = false := by
    intro character member
    apply beq_false_of_ne
    intro same
    rw [same] at member
    exact unbroken member
  have parts :
      (line ++ '\n' :: rest).splitOn '\n' = line :: rest.splitOn '\n' :=
    List.splitOnP_append_cons_of_forall_mem noBreak '\n' rfl rest
  have nonempty : rest.splitOn '\n' ≠ [] := List.splitOn_ne_nil '\n' rest
  have stripped : stripCarriageReturn line = line := if_neg ending
  unfold lines
  simp only [parts]
  rw [List.dropLast_cons_of_ne_nil nonempty, List.map_cons, stripped,
    List.getLast?_cons_of_ne_nil nonempty]
  rfl

/-- Lines, each of them ended. -/
def unlines (texts : List (List Char)) : List Char :=
  texts.flatMap fun line => line ++ ['\n']

theorem lines_unlines
    {texts : List (List Char)}
    (unbroken : ∀ line ∈ texts, '\n' ∉ line ∧ '\r' ∉ line) :
    lines (unlines texts) = texts := by
  induction texts with
  | nil =>
      rfl
  | cons line rest inductionHypothesis =>
      obtain ⟨noBreak, noReturn⟩ := unbroken line List.mem_cons_self
      have ending : line.getLast? ≠ some '\r' := by
        intro last
        exact noReturn (List.mem_of_getLast? last)
      have printed :
          unlines (line :: rest) = line ++ '\n' :: unlines rest := by
        unfold unlines
        rw [List.flatMap_cons, List.append_assoc]
        rfl
      rw [printed, lines_append noBreak ending, inductionHypothesis]
      intro other member
      exact unbroken other (List.mem_cons_of_mem _ member)

/-! ## Numbers -/

theorem parseUnsigned_toDigits
    {limit number : Nat} (fits : number < limit) :
    parseUnsigned limit (Nat.toDigits 10 number) = some number := by
  have digits :
      ∀ character ∈ Nat.toDigits 10 number, character.isDigit = true := by
    intro character member
    exact Nat.isDigit_of_mem_toDigits (by omega) (by omega) member
  have value := @Nat.ofDigitChars_ten_toDigits number
  have parsed :
      parseDigits limit (Nat.toDigits 10 number) = some number := by
    unfold parseDigits
    rw [value, if_pos ⟨Nat.toDigits_ne_nil, List.all_eq_true.mpr digits, fits⟩]
  unfold parseUnsigned
  split
  · rename_i rest shape
    have plus := digits '+' (by rw [shape]; exact List.mem_cons_self)
    exact absurd plus (by decide)
  · exact parsed

theorem parseDigits_lt
    {limit number : Nat} {digits : List Char}
    (parsed : parseDigits limit digits = some number) : number < limit := by
  unfold parseDigits at parsed
  by_cases valid :
      digits ≠ [] ∧ digits.all Char.isDigit = true ∧
        Nat.ofDigitChars 10 digits 0 < limit
  · rw [if_pos valid] at parsed
    cases parsed
    exact valid.2.2
  · rw [if_neg valid] at parsed
    cases parsed

theorem parseUnsigned_lt
    {limit number : Nat} {text : List Char}
    (parsed : parseUnsigned limit text = some number) : number < limit := by
  unfold parseUnsigned at parsed
  split at parsed
  · exact parseDigits_lt parsed
  · exact parseDigits_lt parsed

theorem toDigits_inj {first second : Nat}
    (same : Nat.toDigits 10 first = Nat.toDigits 10 second) :
    first = second := by
  rw [← @Nat.ofDigitChars_ten_toDigits first, same,
    Nat.ofDigitChars_ten_toDigits]

theorem isWhitespace_of_isDigit
    {character : Char} (digit : character.isDigit = true) :
    isWhitespace character = false := by
  have range : 48 ≤ character.toNat ∧ character.toNat ≤ 57 := by
    unfold Char.isDigit at digit
    rw [Bool.and_eq_true, decide_eq_true_eq, decide_eq_true_eq] at digit
    exact digit
  unfold isWhitespace
  simp only [Bool.or_eq_false_iff, Bool.and_eq_false_iff, beq_eq_false_iff_ne,
    decide_eq_false_iff_not]
  omega

theorem isWord_toDigits (number : Nat) : IsWord (Nat.toDigits 10 number) := by
  constructor
  · exact Nat.toDigits_ne_nil
  · intro character member
    apply isWhitespace_of_isDigit
    exact Nat.isDigit_of_mem_toDigits (by omega) (by omega) member

theorem trimEndMatches_append
    {character : Char} {text : List Char}
    (ending : text.getLast? ≠ some character) :
    trimEndMatches character (text ++ [character]) = text := by
  unfold trimEndMatches
  have dropped :
      (character :: text.reverse).dropWhile (· == character) =
        text.reverse.dropWhile (· == character) := by
    rw [List.dropWhile_cons, beq_self_eq_true, if_pos rfl]
  rw [List.reverse_concat, dropped]
  cases rest : text.reverse with
  | nil =>
      rw [List.reverse_eq_nil_iff] at rest
      rw [rest]
      rfl
  | cons last others =>
      have different : (last == character) = false := by
        apply beq_false_of_ne
        intro same
        apply ending
        rw [← List.head?_reverse, rest, same]
        rfl
      rw [List.dropWhile_cons, different, if_neg Bool.false_ne_true, ← rest,
        List.reverse_reverse]

end WgLink.Library
