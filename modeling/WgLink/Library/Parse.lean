import WgLink.Library.BigEndian
import Mathlib.Data.Vector.Basic

/-!
# Parsing untrusted bytes

A parser of received bytes aborts when it reads out of range, turns the bytes
down, or accepts them with a value.  Keeping the first two apart lets one ask
that a parser never aborts, whatever it is given.
-/

namespace WgLink.Library

variable {α β : Type}

/-- How a parser ends. -/
inductive Parsed (α : Type) where
  | abort
  | reject
  | accept (value : α)
deriving DecidableEq

namespace Parsed

/-- Go on with an accepted value. -/
def andThen (parsed : Parsed α) (next : α → Parsed β) : Parsed β :=
  match parsed with
  | .abort => .abort
  | .reject => .reject
  | .accept value => next value

instance : Monad Parsed where
  pure := accept
  bind := andThen

/-- An absent value turns the bytes down. -/
def ofOption : Option α → Parsed α
  | none => .reject
  | some value => .accept value

@[simp]
theorem accept_bind (value : α) (next : α → Parsed β) :
    (accept value >>= next) = next value :=
  rfl

@[simp]
theorem reject_bind (next : α → Parsed β) :
    (reject >>= next) = reject :=
  rfl

@[simp]
theorem ofOption_some (value : α) : ofOption (some value) = accept value :=
  rfl

@[simp]
theorem pure_eq (value : α) : (pure value : Parsed α) = accept value :=
  rfl

theorem reject_ne_abort : (reject : Parsed α) ≠ abort := by
  intro aborted
  cases aborted

theorem accept_ne_abort (value : α) : accept value ≠ abort := by
  intro aborted
  cases aborted

theorem bind_eq_accept
    {parsed : Parsed α} {next : α → Parsed β} {result : β} :
    (parsed >>= next) = accept result ↔
      ∃ value, parsed = accept value ∧ next value = accept result := by
  cases parsed with
  | abort =>
      constructor
      · intro accepted
        cases accepted
      · rintro ⟨value, impossible, _⟩
        cases impossible
  | reject =>
      constructor
      · intro accepted
        cases accepted
      · rintro ⟨value, impossible, _⟩
        cases impossible
  | accept value =>
      constructor
      · intro accepted
        exact ⟨value, rfl, accepted⟩
      · rintro ⟨_, ⟨⟩, accepted⟩
        exact accepted

theorem bind_ne_abort
    {parsed : Parsed α} {next : α → Parsed β}
    (first : parsed ≠ abort)
    (second : ∀ value, parsed = accept value → next value ≠ abort) :
    (parsed >>= next) ≠ abort := by
  cases parsed with
  | abort =>
      exact absurd rfl first
  | reject =>
      exact reject_ne_abort
  | accept value =>
      exact second value rfl

theorem ofOption_eq_accept {option : Option α} {value : α} :
    ofOption option = accept value ↔ option = some value := by
  cases option with
  | none =>
      constructor <;> intro impossible <;> cases impossible
  | some present =>
      constructor <;> intro same <;> cases same <;> rfl

theorem ofOption_ne_abort (option : Option α) : ofOption option ≠ abort := by
  cases option with
  | none =>
      exact reject_ne_abort
  | some value =>
      exact accept_ne_abort value

end Parsed

open Parsed

/-! ## Reads that abort out of range -/

/-- The byte at an index. -/
def byteAt (bytes : List UInt8) (index : Nat) : Parsed UInt8 :=
  match bytes[index]? with
  | none => .abort
  | some byte => .accept byte

/-- The big-endian word of the two bytes from an index on. -/
def wordAt (bytes : List UInt8) (index : Nat) : Parsed UInt16 := do
  let high ← byteAt bytes index
  let low ← byteAt bytes (index + 1)
  .accept (UInt16.ofNat (beValue [high, low]))

/-- The bytes from `start` up to `stop`. -/
def slice (bytes : List UInt8) (start stop : Nat) : Parsed (List UInt8) :=
  if start ≤ stop ∧ stop ≤ bytes.length then
    .accept ((bytes.drop start).take (stop - start))
  else
    .abort

/-- The bytes from `start` on. -/
def sliceFrom (bytes : List UInt8) (start : Nat) : Parsed (List UInt8) :=
  slice bytes start bytes.length

/-- The bytes as an array of the given length. -/
def asArray (length : Nat) (bytes : List UInt8) :
    Option (List.Vector UInt8 length) :=
  if exact : bytes.length = length then some ⟨bytes, exact⟩ else none

/-- Addition of 64-bit sizes that fails on overflow. -/
def checkedAdd (left right : Nat) : Option Nat :=
  if left + right < 2 ^ 64 then some (left + right) else none

theorem byteAt_eq_accept {bytes : List UInt8} {index : Nat} {byte : UInt8} :
    byteAt bytes index = .accept byte ↔ bytes[index]? = some byte := by
  unfold byteAt
  cases found : bytes[index]? with
  | none =>
      constructor <;> intro impossible <;> cases impossible
  | some present =>
      constructor <;> intro same <;> cases same <;> rfl

theorem byteAt_eq_abort {bytes : List UInt8} {index : Nat} :
    byteAt bytes index = .abort ↔ bytes.length ≤ index := by
  unfold byteAt
  rw [← List.getElem?_eq_none_iff]
  cases found : bytes[index]? with
  | none =>
      exact iff_of_true rfl rfl
  | some present =>
      constructor <;> intro impossible <;> cases impossible

theorem byteAt_ne_abort
    {bytes : List UInt8} {index : Nat} (inside : index < bytes.length) :
    byteAt bytes index ≠ .abort := by
  intro aborted
  have outside := byteAt_eq_abort.mp aborted
  omega

theorem exists_byteAt
    {bytes : List UInt8} {index : Nat} (inside : index < bytes.length) :
    ∃ byte, byteAt bytes index = .accept byte := by
  exact ⟨bytes[index],
    byteAt_eq_accept.mpr (List.getElem?_eq_getElem inside)⟩

theorem exists_wordAt
    {bytes : List UInt8} {index : Nat} (inside : index + 1 < bytes.length) :
    ∃ word, wordAt bytes index = .accept word := by
  obtain ⟨high, highRead⟩ := exists_byteAt (Nat.lt_of_succ_lt inside)
  obtain ⟨low, lowRead⟩ := exists_byteAt inside
  unfold wordAt
  rw [highRead, accept_bind, lowRead]
  exact ⟨_, rfl⟩

theorem byteAt_append (front rest : List UInt8) (index : Nat) :
    byteAt (front ++ rest) (front.length + index) = byteAt rest index := by
  unfold byteAt
  rw [List.getElem?_append_right (Nat.le_add_right _ _),
    Nat.add_sub_cancel_left]

theorem wordAt_append (front rest : List UInt8) (index : Nat) :
    wordAt (front ++ rest) (front.length + index) = wordAt rest index := by
  unfold wordAt
  rw [byteAt_append, Nat.add_assoc, byteAt_append]

/-- A word that is written in front is read back. -/
theorem wordAt_beBytes (word : UInt16) (rest : List UInt8) :
    wordAt (beBytes 2 word.toNat ++ rest) 0 = .accept word := by
  have fits : word.toNat < 256 ^ 2 := word.toNat_lt
  have two := length_beBytes 2 word.toNat
  obtain ⟨high, low, bytes⟩ := List.length_eq_two.mp two
  have value := beValue_beBytes fits
  rw [bytes] at value ⊢
  have read :
      wordAt ([high, low] ++ rest) 0 =
        .accept (UInt16.ofNat (beValue [high, low])) :=
    rfl
  rw [read, value, UInt16.ofNat_toNat]

theorem slice_append (front rest : List UInt8) (start stop : Nat) :
    slice (front ++ rest) (front.length + start) (front.length + stop) =
      slice rest start stop := by
  have inside :
      (front.length + start ≤ front.length + stop ∧
          front.length + stop ≤ (front ++ rest).length) ↔
        (start ≤ stop ∧ stop ≤ rest.length) := by
    rw [List.length_append]
    omega
  unfold slice
  simp only [inside, List.drop_append, List.drop_eq_nil_of_le,
    Nat.le_add_right, Nat.add_sub_cancel_left, List.nil_append,
    Nat.add_sub_add_left]

theorem sliceFrom_append (front rest : List UInt8) (start : Nat) :
    sliceFrom (front ++ rest) (front.length + start) =
      sliceFrom rest start := by
  unfold sliceFrom
  rw [List.length_append, slice_append]

theorem slice_of_le
    {bytes : List UInt8} {start stop : Nat}
    (ordered : start ≤ stop) (inside : stop ≤ bytes.length) :
    slice bytes start stop =
      .accept ((bytes.drop start).take (stop - start)) := by
  unfold slice
  rw [if_pos ⟨ordered, inside⟩]

theorem sliceFrom_of_le
    {bytes : List UInt8} {start : Nat} (inside : start ≤ bytes.length) :
    sliceFrom bytes start = .accept (bytes.drop start) := by
  unfold sliceFrom
  rw [slice_of_le inside (Nat.le_refl _), List.take_of_length_le]
  rw [List.length_drop]

theorem sliceFrom_ne_abort
    {bytes : List UInt8} {start : Nat} (inside : start ≤ bytes.length) :
    sliceFrom bytes start ≠ .abort := by
  rw [sliceFrom_of_le inside]
  exact accept_ne_abort _

theorem sliceFrom_eq_accept
    {bytes part : List UInt8} {start : Nat}
    (inside : start ≤ bytes.length) :
    sliceFrom bytes start = .accept part ↔ part = bytes.drop start := by
  rw [sliceFrom_of_le inside]
  constructor
  · intro same
    cases same
    rfl
  · intro same
    rw [same]

theorem slice_ne_abort
    {bytes : List UInt8} {start stop : Nat}
    (ordered : start ≤ stop) (inside : stop ≤ bytes.length) :
    slice bytes start stop ≠ .abort := by
  rw [slice_of_le ordered inside]
  exact accept_ne_abort _

theorem wordAt_ne_abort
    {bytes : List UInt8} {index : Nat} (inside : index + 1 < bytes.length) :
    wordAt bytes index ≠ .abort := by
  obtain ⟨word, read⟩ := exists_wordAt inside
  rw [read]
  exact accept_ne_abort word

theorem checkedAdd_of_lt
    {left right : Nat} (fits : left + right < 2 ^ 64) :
    checkedAdd left right = some (left + right) := by
  unfold checkedAdd
  rw [if_pos fits]

theorem asArray_toList {length : Nat} (array : List.Vector UInt8 length) :
    asArray length array.toList = some array := by
  unfold asArray
  rw [dif_pos array.toList_length]
  rfl

theorem toList_of_asArray
    {length : Nat} {bytes : List UInt8} {array : List.Vector UInt8 length}
    (converted : asArray length bytes = some array) :
    array.toList = bytes := by
  unfold asArray at converted
  split at converted
  · cases converted
    rfl
  · cases converted

/-- Long enough bytes start with an array. -/
theorem exists_array_append
    (length : Nat) {bytes : List UInt8} (long : length ≤ bytes.length) :
    ∃ (array : List.Vector UInt8 length) (rest : List UInt8),
      bytes = array.toList ++ rest := by
  have exact : (bytes.take length).length = length := by
    rw [List.length_take]
    omega
  exact ⟨⟨bytes.take length, exact⟩, bytes.drop length,
    (List.take_append_drop length bytes).symm⟩

/-- An array read behind the bytes before it. -/
theorem slice_array
    {front : List UInt8} {offset length : Nat}
    (array : List.Vector UInt8 length) (rest : List UInt8)
    (frontLength : front.length = offset) :
    slice (front ++ (array.toList ++ rest)) offset (offset + length) =
      .accept array.toList := by
  subst frontLength
  have read := slice_append front (array.toList ++ rest) 0 length
  rw [slice_of_le (Nat.zero_le _), List.drop_zero, Nat.sub_zero,
    List.take_left' array.toList_length] at read
  · exact read
  · rw [List.length_append, List.Vector.toList_length]
    omega

/-! ## Reads and the bytes that remain -/

section

variable {bytes part rest : List UInt8} {start stop : Nat}

theorem drop_of_byteAt
    {byte : UInt8} (read : byteAt bytes start = .accept byte) :
    bytes.drop start = byte :: bytes.drop (start + 1) := by
  obtain ⟨inside, found⟩ :=
    List.getElem?_eq_some_iff.mp (byteAt_eq_accept.mp read)
  rw [List.drop_eq_getElem_cons inside, found]

theorem byteAt_of_drop
    {byte : UInt8} (remaining : bytes.drop start = byte :: rest) :
    byteAt bytes start = .accept byte ∧ bytes.drop (start + 1) = rest := by
  constructor
  · rw [byteAt_eq_accept, ← List.head?_drop, remaining]
    rfl
  · rw [← List.drop_drop, remaining]
    rfl

theorem drop_of_wordAt
    {word : UInt16} (read : wordAt bytes start = .accept word) :
    bytes.drop start = beBytes 2 word.toNat ++ bytes.drop (start + 2) := by
  obtain ⟨high, highRead, read⟩ := bind_eq_accept.mp read
  obtain ⟨low, lowRead, read⟩ := bind_eq_accept.mp read
  cases read
  rw [drop_of_byteAt highRead, drop_of_byteAt lowRead,
    beBytes_toNat_ofNat16 rfl]
  rfl

theorem wordAt_of_drop
    {word : UInt16}
    (remaining : bytes.drop start = beBytes 2 word.toNat ++ rest) :
    wordAt bytes start = .accept word ∧ bytes.drop (start + 2) = rest := by
  have written := wordAt_beBytes word rest
  obtain ⟨high, low, shape⟩ :=
    List.length_eq_two.mp (length_beBytes 2 word.toNat)
  rw [shape] at remaining written
  obtain ⟨highRead, afterHigh⟩ := byteAt_of_drop remaining
  obtain ⟨lowRead, afterLow⟩ := byteAt_of_drop afterHigh
  refine ⟨?_, afterLow⟩
  rw [← written]
  unfold wordAt
  rw [highRead, accept_bind, lowRead]
  rfl

theorem drop_of_slice (read : slice bytes start stop = .accept part) :
    bytes.drop start = part ++ bytes.drop stop ∧
      part.length = stop - start := by
  unfold slice at read
  split at read
  · rename_i inside
    cases read
    constructor
    · have rejoined :=
        List.take_append_drop (stop - start) (bytes.drop start)
      rw [List.drop_drop, Nat.add_sub_cancel' inside.1] at rejoined
      exact rejoined.symm
    · rw [List.length_take, List.length_drop]
      omega
  · cases read

theorem slice_of_drop
    (remaining : bytes.drop start = part ++ rest)
    (inside : start ≤ bytes.length) :
    slice bytes start (start + part.length) = .accept part ∧
      bytes.drop (start + part.length) = rest := by
  have length := congrArg List.length remaining
  rw [List.length_drop, List.length_append] at length
  constructor
  · rw [slice_of_le (by omega) (by omega), remaining,
      Nat.add_sub_cancel_left, List.take_left]
  · rw [← List.drop_drop, remaining, List.drop_left]

end

end WgLink.Library
