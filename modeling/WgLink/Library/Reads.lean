import Mathlib.Data.List.Basic

/-!
# Reading a stream in pieces

A stream arrives in reads that each return some bytes, and a buffer collects
them until something is found in it.  What is looked for must be stable: what
has been found stays found when more arrives.  Then the outcome does not depend
on how the stream is cut into reads.
-/

namespace WgLink.Library

variable {α β : Type} {capacity : Nat}

/-- Why a call has no value. -/
inductive Failure where
  | panic
  | error (message : String)
deriving DecidableEq

/-- The bytes of one read into a buffer of the given capacity. -/
abbrev Chunk (α : Type) (capacity : Nat) :=
  { items : List α // items.length ≤ capacity }

/-- What one read returns. -/
abbrev Read (α : Type) (capacity : Nat) := Except String (Chunk α capacity)

/-- The slice from `start` to `stop`; out of range it panics. -/
def sliceRange (data : List α) (start stop : Nat) : Except Failure (List α) :=
  if start ≤ stop ∧ stop ≤ data.length then
    .ok ((data.take stop).drop start)
  else
    .error .panic

/-- The windows of a given size, from left to right. -/
def windows (size : Nat) : List α → List (List α)
  | [] => []
  | item :: rest =>
      if size ≤ rest.length + 1 then
        (item :: rest).take size :: windows size rest
      else
        []

theorem windows_append (size : Nat) (data later : List α) :
    windows size data <+: windows size (data ++ later) := by
  induction data with
  | nil =>
      exact List.nil_prefix
  | cons item rest inductionHypothesis =>
      rw [List.cons_append]
      unfold windows
      by_cases fits : size ≤ rest.length + 1
      · have stillFits : size ≤ (rest ++ later).length + 1 := by
          rw [List.length_append]
          omega
        have sameWindow :
            (item :: (rest ++ later)).take size =
              (item :: rest).take size := by
          rw [← List.cons_append]
          exact List.take_append_of_le_length fits
        rw [if_pos fits, if_pos stillFits, sameWindow,
          List.prefix_cons_inj]
        exact inductionHypothesis
      · rw [if_neg fits]
        exact List.nil_prefix

theorem add_le_of_lt_windows
    {size index : Nat} {data : List α}
    (inRange : index < (windows size data).length) :
    index + size ≤ data.length := by
  induction data generalizing index with
  | nil =>
      exact absurd inRange (Nat.not_lt_zero index)
  | cons item rest inductionHypothesis =>
      unfold windows at inRange
      by_cases fits : size ≤ rest.length + 1
      · rw [if_pos fits, List.length_cons] at inRange
        rw [List.length_cons]
        cases index with
        | zero =>
            omega
        | succ before =>
            have later :=
              inductionHypothesis (Nat.lt_of_succ_lt_succ inRange)
            omega
      · rw [if_neg fits] at inRange
        exact absurd inRange (Nat.not_lt_zero index)

/-! ## Observations -/

/-- What has been found stays found. -/
def Stable (observe : List α → Option β) : Prop :=
  ∀ data later value,
    observe data = some value → observe (data ++ later) = some value

theorem Stable.none_of_append
    {observe : List α → Option β} {data later : List α}
    (stable : Stable observe) (absent : observe (data ++ later) = none) :
    observe data = none := by
  cases found : observe data with
  | none =>
      rfl
  | some value =>
      rw [stable data later value found] at absent
      cases absent

/-- The place of the first window that satisfies a condition is stable. -/
theorem stable_findWindow (size : Nat) (condition : List α → Bool) :
    Stable fun data => (windows size data).findIdx? condition := by
  intro data later index found
  obtain ⟨more, split⟩ := windows_append size data later
  change (windows size data).findIdx? condition = some index at found
  change (windows size (data ++ later)).findIdx? condition = some index
  rw [← split, List.findIdx?_append, found]
  rfl

/-- Whether enough has arrived is stable. -/
theorem stable_length (needed : Nat) :
    Stable fun data : List α =>
      if data.length < needed then none else some () := by
  intro data later value found
  have enough : ¬ data.length < needed := by
    intro short
    cases (if_pos short).symm.trans found
  have stillEnough : ¬ (data ++ later).length < needed := by
    rw [List.length_append]
    omega
  exact if_neg stillEnough

/-! ## The buffer -/

section Buffer

variable (limit : Nat) (ended tooLarge : String)

/-- One read is added to the buffer. -/
def receive (data : List α) (read : Read α capacity) :
    Except Failure (List α) :=
  match read with
  | .error message => .error (.error message)
  | .ok chunk =>
      if 0 < chunk.val.length then
        if (data ++ chunk.val).length ≤ limit then
          .ok (data ++ chunk.val)
        else
          .error (.error tooLarge)
      else
        .error (.error ended)

/-- Read until something is found in the buffer; after the last read the
stream has ended. -/
def gather (observe : List α → Option β) :
    List α → List (Read α capacity) →
      Except Failure (List α × β × List (Read α capacity))
  | data, [] =>
      match observe data with
      | some value => .ok (data, value, [])
      | none => .error (.error ended)
  | data, read :: reads =>
      match observe data with
      | some value => .ok (data, value, read :: reads)
      | none => do
          let next ← receive limit ended tooLarge data read
          gather observe next reads

/-- The contents of some chunks. -/
def contents (chunks : List (Chunk α capacity)) : List α :=
  (chunks.map Subtype.val).flatten

/-- No chunk marks the end of the stream. -/
def Filled (chunks : List (Chunk α capacity)) : Prop :=
  ∀ chunk ∈ chunks, chunk.val ≠ []

@[simp]
theorem contents_nil : contents ([] : List (Chunk α capacity)) = [] :=
  rfl

@[simp]
theorem contents_cons
    (chunk : Chunk α capacity) (chunks : List (Chunk α capacity)) :
    contents (chunk :: chunks) = chunk.val ++ contents chunks :=
  rfl

theorem contents_append (first second : List (Chunk α capacity)) :
    contents (first ++ second) = contents first ++ contents second := by
  unfold contents
  rw [List.map_append, List.flatten_append]

theorem filled_cons
    {chunk : Chunk α capacity} {chunks : List (Chunk α capacity)} :
    Filled (chunk :: chunks) ↔ chunk.val ≠ [] ∧ Filled chunks :=
  List.forall_mem_cons

variable {limit ended tooLarge}

theorem filled_append
    {first second : List (Chunk α capacity)} :
    Filled (first ++ second) ↔ Filled first ∧ Filled second :=
  List.forall_mem_append

theorem receive_chunk
    {data : List α} {chunk : Chunk α capacity}
    (filled : chunk.val ≠ []) (fits : (data ++ chunk.val).length ≤ limit) :
    receive limit ended tooLarge data (.ok chunk) =
      .ok (data ++ chunk.val) := by
  unfold receive
  simp only [if_pos (List.length_pos_iff.mpr filled), if_pos fits]

theorem receive_ok
    {data next : List α} {read : Read α capacity}
    (received : receive limit ended tooLarge data read = .ok next) :
    ∃ chunk : Chunk α capacity,
      read = .ok chunk ∧ chunk.val ≠ [] ∧ next = data ++ chunk.val ∧
        next.length ≤ limit := by
  unfold receive at received
  cases read with
  | error message =>
      cases received
  | ok chunk =>
      by_cases filled : 0 < chunk.val.length
      · by_cases fits : (data ++ chunk.val).length ≤ limit
        · simp only [if_pos filled, if_pos fits] at received
          cases received
          exact ⟨chunk, rfl, List.length_pos_iff.mp filled, rfl, fits⟩
        · simp only [if_pos filled, if_neg fits] at received
          cases received
      · simp only [if_neg filled] at received
        cases received

theorem receive_ne_panic (data : List α) (read : Read α capacity) :
    receive limit ended tooLarge data read ≠ .error .panic := by
  unfold receive
  cases read with
  | error message =>
      intro panics
      cases panics
  | ok chunk =>
      by_cases filled : 0 < chunk.val.length
      · by_cases fits : (data ++ chunk.val).length ≤ limit
        · simp only [if_pos filled, if_pos fits]
          intro panics
          cases panics
        · simp only [if_pos filled, if_neg fits]
          intro panics
          cases panics
      · simp only [if_neg filled]
        intro panics
        cases panics

variable {observe : List α → Option β}

theorem gather_found
    {data : List α} {value : β} (found : observe data = some value)
    (reads : List (Read α capacity)) :
    gather limit ended tooLarge observe data reads =
      .ok (data, value, reads) := by
  cases reads with
  | nil =>
      unfold gather
      simp only [found]
  | cons read rest =>
      unfold gather
      simp only [found]

theorem gather_ended
    {data : List α} (absent : observe data = none) :
    gather limit ended tooLarge observe data
        ([] : List (Read α capacity)) =
      .error (.error ended) := by
  unfold gather
  simp only [absent]

theorem gather_cons
    {data : List α} (absent : observe data = none)
    (read : Read α capacity) (reads : List (Read α capacity)) :
    gather limit ended tooLarge observe data (read :: reads) =
      receive limit ended tooLarge data read >>= fun next =>
        gather limit ended tooLarge observe next reads := by
  conv_lhs => unfold gather
  simp only [absent]

theorem gather_ne_panic (data : List α) (reads : List (Read α capacity)) :
    gather limit ended tooLarge observe data reads ≠ .error .panic := by
  induction reads generalizing data with
  | nil =>
      cases found : observe data with
      | none =>
          rw [gather_ended found]
          intro panics
          cases panics
      | some value =>
          rw [gather_found found]
          intro panics
          cases panics
  | cons read rest inductionHypothesis =>
      cases found : observe data with
      | none =>
          rw [gather_cons found]
          cases received : receive limit ended tooLarge data read with
          | error failure =>
              intro panics
              cases panics
              exact receive_ne_panic data read received
          | ok next =>
              exact inductionHypothesis next
      | some value =>
          rw [gather_found found]
          intro panics
          cases panics

/-- What has been read when the loop ends. -/
theorem gather_ok
    {data final : List α} {value : β} {reads rest : List (Read α capacity)}
    (gathered :
      gather limit ended tooLarge observe data reads =
        .ok (final, value, rest)) :
    observe final = some value ∧
      (data.length ≤ limit → final.length ≤ limit) ∧
      ∃ front,
        reads = front.map .ok ++ rest ∧ Filled front ∧
          final = data ++ contents front := by
  induction reads generalizing data with
  | nil =>
      cases found : observe data with
      | none =>
          rw [gather_ended found] at gathered
          cases gathered
      | some seen =>
          rw [gather_found found] at gathered
          cases gathered
          exact ⟨found, fun fits => fits, [], rfl, nofun,
            (List.append_nil _).symm⟩
  | cons read later inductionHypothesis =>
      cases found : observe data with
      | none =>
          rw [gather_cons found] at gathered
          cases received : receive limit ended tooLarge data read with
          | error failure =>
              rw [received] at gathered
              cases gathered
          | ok next =>
              rw [received] at gathered
              obtain ⟨chunk, isChunk, filled, extended, fits⟩ :=
                receive_ok received
              obtain ⟨seen, bounded, front, split, others, collected⟩ :=
                inductionHypothesis gathered
              refine ⟨seen, fun _ => bounded fits, chunk :: front, ?_,
                filled_cons.mpr ⟨filled, others⟩, ?_⟩
              · rw [isChunk, split]
                rfl
              · rw [collected, extended, contents_cons, List.append_assoc]
      | some seen =>
          rw [gather_found found] at gathered
          cases gathered
          exact ⟨found, fun fits => fits, [], rfl, nofun,
            (List.append_nil _).symm⟩

/-- What can be found in the bytes that arrive is found, as soon as it is
there. -/
theorem gather_of_arrived
    (stable : Stable observe)
    {data : List α} {value : β} {front : List (Chunk α capacity)}
    {rest : List (Read α capacity)}
    (filled : Filled front) (fits : (data ++ contents front).length ≤ limit)
    (found : observe (data ++ contents front) = some value) :
    ∃ taken left,
      front = taken ++ left ∧
        observe (data ++ contents taken) = some value ∧
        gather limit ended tooLarge observe data (front.map .ok ++ rest) =
          .ok (data ++ contents taken, value, left.map .ok ++ rest) := by
  induction front generalizing data with
  | nil =>
      rw [contents_nil, List.append_nil] at found
      refine ⟨[], [], rfl, ?_, ?_⟩
      · rw [contents_nil, List.append_nil]
        exact found
      · rw [contents_nil, List.append_nil]
        exact gather_found found _
  | cons chunk later inductionHypothesis =>
      cases early : observe data with
      | some seen =>
          have same : some seen = some value := by
            rw [← stable data _ seen early]
            exact found
          cases same
          refine ⟨[], chunk :: later, rfl, ?_, ?_⟩
          · rw [contents_nil, List.append_nil]
            exact early
          · rw [contents_nil, List.append_nil]
            exact gather_found early _
      | none =>
          obtain ⟨nonempty, others⟩ := filled_cons.mp filled
          rw [contents_cons, ← List.append_assoc] at fits found
          have chunkFits : (data ++ chunk.val).length ≤ limit := by
            rw [List.length_append] at fits
            omega
          obtain ⟨taken, left, split, seen, gathered⟩ :=
            inductionHypothesis others fits found
          refine ⟨chunk :: taken, left, by rw [split]; rfl, ?_, ?_⟩
          · rw [contents_cons, ← List.append_assoc]
            exact seen
          · rw [List.map_cons, List.cons_append, gather_cons early,
              receive_chunk nonempty chunkFits, contents_cons,
              ← List.append_assoc]
            exact gathered

/-- What never arrives is missing at the end of the stream. -/
theorem gather_of_absent
    (stable : Stable observe)
    {data : List α} {chunks : List (Chunk α capacity)}
    (filled : Filled chunks)
    (fits : (data ++ contents chunks).length ≤ limit)
    (absent : observe (data ++ contents chunks) = none) :
    gather limit ended tooLarge observe data (chunks.map .ok) =
      .error (.error ended) := by
  induction chunks generalizing data with
  | nil =>
      rw [contents_nil, List.append_nil] at absent
      exact gather_ended absent
  | cons chunk later inductionHypothesis =>
      obtain ⟨nonempty, others⟩ := filled_cons.mp filled
      have early : observe data = none := stable.none_of_append absent
      rw [contents_cons, ← List.append_assoc] at fits absent
      have chunkFits : (data ++ chunk.val).length ≤ limit := by
        rw [List.length_append] at fits
        omega
      rw [List.map_cons, gather_cons early,
        receive_chunk nonempty chunkFits]
      exact inductionHypothesis others fits absent

end Buffer

end WgLink.Library
