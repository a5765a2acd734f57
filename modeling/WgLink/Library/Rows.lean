import WgLink.Library.Text

/-!
# Tables as programs print them

A program prints one row a line, with its first column in front of a tab.
What a caller gets is often trimmed as a whole, so the rows are recovered from
the trimmed text.
-/

namespace WgLink.Library

/-- A text on one line that has no white space at its ends. -/
structure IsTight (line : List Char) : Prop where
  starts : ∃ first, line.head? = some first ∧ isWhitespace first = false
  ends : ∃ last, line.getLast? = some last ∧ isWhitespace last = false
  unbroken : '\n' ∉ line ∧ '\r' ∉ line

theorem IsTight.nonempty {line : List Char} (tight : IsTight line) :
    line ≠ [] := by
  rintro rfl
  obtain ⟨first, impossible, _⟩ := tight.starts
  cases impossible

theorem IsWord.tight {word : List Char} (isWord : IsWord word) :
    IsTight word := by
  have nonempty := isWord.nonempty
  have outside (space : Char) (separates : isWhitespace space = true) :
      space ∉ word := by
    intro member
    rw [isWord.unbroken space member] at separates
    cases separates
  refine ⟨⟨word.head nonempty, List.head?_eq_some_head nonempty, ?_⟩,
    ⟨word.getLast nonempty, List.getLast?_eq_some_getLast nonempty, ?_⟩,
    outside '\n' (by decide), outside '\r' (by decide)⟩
  · exact isWord.unbroken _ (List.head_mem nonempty)
  · exact isWord.unbroken _ (List.getLast_mem nonempty)

/-- Two tight texts with something between them that breaks no line. -/
theorem IsTight.append
    {front back middle : List Char} (frontTight : IsTight front)
    (backTight : IsTight back)
    (unbroken : '\n' ∉ middle ∧ '\r' ∉ middle) :
    IsTight (front ++ (middle ++ back)) := by
  obtain ⟨first, starts, firstBlack⟩ := frontTight.starts
  obtain ⟨last, ends, lastBlack⟩ := backTight.ends
  refine ⟨⟨first, ?_, firstBlack⟩, ⟨last, ?_, lastBlack⟩, ?_, ?_⟩
  · rw [List.head?_append, starts]
    rfl
  · rw [← List.append_assoc, List.getLast?_append, ends]
    rfl
  · rw [List.mem_append, List.mem_append, not_or, not_or]
    exact ⟨frontTight.unbroken.1, unbroken.1, backTight.unbroken.1⟩
  · rw [List.mem_append, List.mem_append, not_or, not_or]
    exact ⟨frontTight.unbroken.2, unbroken.2, backTight.unbroken.2⟩

theorem dropWhile_isWhitespace
    {text : List Char} {first : Char} (starts : text.head? = some first)
    (black : isWhitespace first = false) :
    text.dropWhile isWhitespace = text := by
  cases text with
  | nil =>
      rfl
  | cons head rest =>
      cases starts
      rw [List.dropWhile_cons, black]
      rfl

/-- White space behind a tight text is trimmed. -/
theorem trim_append
    {text space : List Char} {first last : Char}
    (starts : text.head? = some first)
    (firstBlack : isWhitespace first = false)
    (ends : text.getLast? = some last)
    (lastBlack : isWhitespace last = false)
    (blank : ∀ character ∈ space, isWhitespace character = true) :
    trim (text ++ space) = text := by
  have front : (text ++ space).dropWhile isWhitespace = text ++ space := by
    apply dropWhile_isWhitespace _ firstBlack
    rw [List.head?_append, starts]
    rfl
  have back : text.reverse.dropWhile isWhitespace = text.reverse := by
    apply dropWhile_isWhitespace _ lastBlack
    rw [List.head?_reverse, ends]
  unfold trim
  rw [front, List.reverse_append, List.dropWhile_append_of_pos, back,
    List.reverse_reverse]
  intro character member
  exact blank character (List.mem_reverse.mp member)

theorem IsTight.trim {text : List Char} (tight : IsTight text) :
    trim text = text := by
  obtain ⟨first, starts, firstBlack⟩ := tight.starts
  obtain ⟨last, ends, lastBlack⟩ := tight.ends
  have trimmed :=
    @trim_append text [] first last starts firstBlack ends lastBlack
      (fun character member => absurd member List.not_mem_nil)
  rw [List.append_nil] at trimmed
  exact trimmed

theorem IsTight.trim_line {text : List Char} (tight : IsTight text) :
    Library.trim (text ++ ['\n']) = text := by
  obtain ⟨first, starts, firstBlack⟩ := tight.starts
  obtain ⟨last, ends, lastBlack⟩ := tight.ends
  apply trim_append starts firstBlack ends lastBlack
  intro character member
  rw [List.mem_singleton.mp member]
  decide

theorem unwords_tight
    {words : List (List Char)} (nonempty : words ≠ [])
    (areWords : ∀ word ∈ words, IsWord word) : IsTight (unwords words) := by
  induction words with
  | nil =>
      exact absurd rfl nonempty
  | cons first rest inductionHypothesis =>
      have firstWord := areWords first List.mem_cons_self
      cases rest with
      | nil =>
          rw [unwords_singleton]
          exact firstWord.tight
      | cons second others =>
          have remaining :=
            inductionHypothesis (List.cons_ne_nil second others)
              fun word member => areWords word (List.mem_cons_of_mem _ member)
          rw [unwords_cons_cons]
          exact firstWord.tight.append remaining
            (show '\n' ∉ [' '] ∧ '\r' ∉ [' '] from ⟨by decide, by decide⟩)

/-- Words without separators are found between the blanks. -/
theorem splitOnP_unwords
    {separates : Char → Bool} (blank : separates ' ' = true)
    {words : List (List Char)} (nonempty : words ≠ [])
    (unbroken :
      ∀ word ∈ words, ∀ character ∈ word, separates character = false) :
    (unwords words).splitOnP separates = words := by
  induction words with
  | nil =>
      exact absurd rfl nonempty
  | cons first rest inductionHypothesis =>
      have firstUnbroken := unbroken first List.mem_cons_self
      cases rest with
      | nil =>
          rw [unwords_singleton]
          exact List.splitOnP_eq_singleton firstUnbroken
      | cons second others =>
          have remaining :=
            inductionHypothesis (List.cons_ne_nil second others)
              fun word member => unbroken word (List.mem_cons_of_mem _ member)
          rw [unwords_cons_cons,
            List.splitOnP_append_cons_of_forall_mem firstUnbroken ' ' blank,
            remaining]

/-- The lines of a text whose last line is not ended. -/
def joinLines : List (List Char) → List Char
  | [] => []
  | [line] => line
  | line :: second :: rest => line ++ '\n' :: joinLines (second :: rest)

theorem unlines_eq_joinLines
    {texts : List (List Char)} (nonempty : texts ≠ []) :
    unlines texts = joinLines texts ++ ['\n'] := by
  induction texts with
  | nil =>
      exact absurd rfl nonempty
  | cons line rest inductionHypothesis =>
      have printed :
          unlines (line :: rest) = line ++ '\n' :: unlines rest := by
        unfold unlines
        rw [List.flatMap_cons, List.append_assoc]
        rfl
      cases rest with
      | nil =>
          exact printed
      | cons second others =>
          have remaining :=
            inductionHypothesis (List.cons_ne_nil second others)
          rw [printed, remaining, joinLines, List.append_assoc]
          rfl

theorem lines_line {line : List Char} (tight : IsTight line) :
    lines line = [line] := by
  have noBreak : ∀ character ∈ line, (character == '\n') = false := by
    intro character member
    apply beq_false_of_ne
    rintro rfl
    exact tight.unbroken.1 member
  have whole : line.splitOn '\n' = [line] :=
    List.splitOnP_eq_singleton noBreak
  have filled : line.isEmpty = false :=
    List.isEmpty_eq_false_iff.mpr tight.nonempty
  unfold lines
  simp only [whole, List.dropLast_singleton, List.map_nil, List.nil_append,
    List.getLast?_singleton, Option.toList_some, List.filter_cons, filled]
  rfl

theorem lines_joinLines
    {texts : List (List Char)} (tight : ∀ line ∈ texts, IsTight line) :
    lines (joinLines texts) = texts := by
  induction texts with
  | nil =>
      rfl
  | cons line rest inductionHypothesis =>
      have lineTight := tight line List.mem_cons_self
      have restTight : ∀ other ∈ rest, IsTight other :=
        fun other member => tight other (List.mem_cons_of_mem line member)
      cases rest with
      | nil =>
          exact lines_line lineTight
      | cons second others =>
          have ending : line.getLast? ≠ some '\r' := by
            intro last
            exact lineTight.unbroken.2 (List.mem_of_getLast? last)
          rw [joinLines, lines_append lineTight.unbroken.1 ending,
            inductionHypothesis restTight]

/-- The first character of the first line and the last one of the last. -/
theorem ends_joinLines
    {texts : List (List Char)} (nonempty : texts ≠ [])
    (tight : ∀ line ∈ texts, IsTight line) :
    (∃ first, (joinLines texts).head? = some first ∧
        isWhitespace first = false) ∧
      ∃ last, (joinLines texts).getLast? = some last ∧
        isWhitespace last = false := by
  induction texts with
  | nil =>
      exact absurd rfl nonempty
  | cons line rest inductionHypothesis =>
      have lineTight := tight line List.mem_cons_self
      cases rest with
      | nil =>
          exact ⟨lineTight.starts, lineTight.ends⟩
      | cons second others =>
          obtain ⟨first, starts, firstBlack⟩ := lineTight.starts
          obtain ⟨_, last, ends, lastBlack⟩ :=
            inductionHypothesis (List.cons_ne_nil second others)
              fun other member => tight other (List.mem_cons_of_mem line member)
          rw [joinLines]
          refine ⟨⟨first, ?_, firstBlack⟩, last, ?_, lastBlack⟩
          · rw [List.head?_append, starts]
            rfl
          · rw [List.getLast?_append, List.getLast?_cons, ends]
            rfl

/-- The rows that were printed are found in the trimmed output. -/
theorem lines_trim_unlines
    {texts : List (List Char)} (tight : ∀ line ∈ texts, IsTight line) :
    lines (trim (unlines texts)) = texts := by
  cases texts with
  | nil =>
      rfl
  | cons line rest =>
      have nonempty : line :: rest ≠ [] := List.cons_ne_nil line rest
      obtain ⟨⟨first, starts, firstBlack⟩, last, ends, lastBlack⟩ :=
        ends_joinLines nonempty tight
      have trimmed :
          trim (joinLines (line :: rest) ++ ['\n']) =
            joinLines (line :: rest) := by
        apply trim_append starts firstBlack ends lastBlack
        intro character member
        rw [List.mem_singleton.mp member]
        decide
      rw [unlines_eq_joinLines nonempty, trimmed, lines_joinLines tight]

/-! ## Columns -/

/-- `split_once` at the first white space. -/
def splitOnceWhitespace (text : List Char) :
    Option (List Char × List Char) :=
  if text.any isWhitespace then
    some
      (text.takeWhile fun character => !isWhitespace character,
        (text.dropWhile fun character => !isWhitespace character).tail)
  else
    none

/-- A row of two columns. -/
def row (key value : List Char) : List Char :=
  key ++ '\t' :: value

theorem splitOnceWhitespace_row
    {key : List Char} (isWord : IsWord key) (value : List Char) :
    splitOnceWhitespace (row key value) = some (key, value) := by
  have black : ∀ character ∈ key, (!isWhitespace character) = true := by
    intro character member
    rw [isWord.unbroken character member]
    rfl
  have separated : (row key value).any isWhitespace = true := by
    apply List.any_eq_true.mpr
    refine ⟨'\t', ?_, by decide⟩
    exact List.mem_append_right key List.mem_cons_self
  unfold splitOnceWhitespace
  rw [if_pos separated]
  unfold row
  rw [List.takeWhile_append_of_pos black, List.dropWhile_append_of_pos black]
  simp [isWhitespace]

theorem row_tight
    {key value : List Char} (isWord : IsWord key) (tight : IsTight value) :
    IsTight (row key value) := by
  have joined :=
    @IsTight.append key value ['\t'] isWord.tight tight
      ⟨by decide, by decide⟩
  exact joined

end WgLink.Library
