import Mathlib.Algebra.Order.Ring.Nat
import Mathlib.Data.List.Induction

/-!
# Big-endian words

A number below `256 ^ width` as `width` bytes, the most significant first, and
the number of a list of bytes.  The two are inverse to each other.
-/

namespace WgLink.Library

/-- The lowest `width` bytes of a number, the most significant first. -/
def beBytes : (width value : Nat) → List UInt8
  | 0, _ => []
  | width + 1, value => beBytes width (value / 256) ++ [UInt8.ofNat value]

/-- The number with the given bytes, the most significant first. -/
def beValue (bytes : List UInt8) : Nat :=
  bytes.foldl (fun value byte => value * 256 + byte.toNat) 0

@[simp]
theorem length_beBytes (width value : Nat) :
    (beBytes width value).length = width := by
  induction width generalizing value with
  | zero =>
      rfl
  | succ width inductionHypothesis =>
      rw [beBytes, List.length_append, inductionHypothesis,
        List.length_singleton]

theorem beValue_append_singleton (bytes : List UInt8) (byte : UInt8) :
    beValue (bytes ++ [byte]) = beValue bytes * 256 + byte.toNat := by
  unfold beValue
  rw [List.foldl_append]
  rfl

theorem beValue_beBytes
    {width value : Nat} (fits : value < 256 ^ width) :
    beValue (beBytes width value) = value := by
  induction width generalizing value with
  | zero =>
      have zero : value = 0 := by simpa using fits
      rw [zero]
      rfl
  | succ width inductionHypothesis =>
      have high : value / 256 < 256 ^ width := by
        rw [pow_succ] at fits
        omega
      rw [beBytes, beValue_append_singleton, inductionHypothesis high,
        UInt8.toNat_ofNat']
      omega

theorem beBytes_inj
    {width first second : Nat}
    (firstFits : first < 256 ^ width) (secondFits : second < 256 ^ width)
    (same : beBytes width first = beBytes width second) :
    first = second := by
  rw [← beValue_beBytes firstFits, same, beValue_beBytes secondFits]

theorem beValue_lt (bytes : List UInt8) :
    beValue bytes < 256 ^ bytes.length := by
  induction bytes using List.reverseRecOn with
  | nil =>
      exact Nat.one_pos
  | append_singleton bytes byte inductionHypothesis =>
      have bound := byte.toNat_lt
      rw [beValue_append_singleton, List.length_append, List.length_singleton,
        pow_succ]
      omega

theorem beBytes_beValue (bytes : List UInt8) :
    beBytes bytes.length (beValue bytes) = bytes := by
  induction bytes using List.reverseRecOn with
  | nil =>
      rfl
  | append_singleton bytes byte inductionHypothesis =>
      have bound := byte.toNat_lt
      have high : (beValue bytes * 256 + byte.toNat) / 256 = beValue bytes := by
        omega
      have low :
          UInt8.ofNat (beValue bytes * 256 + byte.toNat) = byte := by
        apply UInt8.toNat_inj.mp
        rw [UInt8.toNat_ofNat']
        omega
      rw [beValue_append_singleton, List.length_append, List.length_singleton,
        beBytes, high, low, inductionHypothesis]

theorem ofNat_beValue_beBytes (word : UInt64) :
    UInt64.ofNat (beValue (beBytes 8 word.toNat)) = word := by
  have fits : word.toNat < 256 ^ 8 := word.toNat_lt
  rw [beValue_beBytes fits, UInt64.ofNat_toNat]

theorem beBytes_toNat_ofNat
    {bytes : List UInt8} (eight : bytes.length = 8) :
    beBytes 8 (UInt64.ofNat (beValue bytes)).toNat = bytes := by
  have fits : beValue bytes < 2 ^ 64 := by
    have bound := beValue_lt bytes
    rw [eight] at bound
    exact bound
  rw [UInt64.toNat_ofNat', Nat.mod_eq_of_lt fits, ← eight, beBytes_beValue]

theorem beBytes_toNat_ofNat16
    {bytes : List UInt8} (two : bytes.length = 2) :
    beBytes 2 (UInt16.ofNat (beValue bytes)).toNat = bytes := by
  have fits : beValue bytes < 2 ^ 16 := by
    have bound := beValue_lt bytes
    rw [two] at bound
    exact bound
  rw [UInt16.toNat_ofNat', Nat.mod_eq_of_lt fits, ← two, beBytes_beValue]

/-- Bytes that are read as a bit vector of their width are written again. -/
theorem beBytes_toNat_bitVec
    {bytes : List UInt8} {width : Nat} (exact : bytes.length = width) :
    beBytes width (BitVec.ofNat (8 * width) (beValue bytes)).toNat =
      bytes := by
  have fits : beValue bytes < 2 ^ (8 * width) := by
    have bound := beValue_lt bytes
    rw [exact] at bound
    rw [pow_mul]
    exact bound
  rw [BitVec.toNat_ofNat, Nat.mod_eq_of_lt fits, ← exact, beBytes_beValue]

/-- A number is determined by its bytes. -/
theorem eq_of_digits
    {count first second : Nat}
    (same :
      ∀ index < count,
        first / 256 ^ index % 256 = second / 256 ^ index % 256)
    (firstFits : first < 256 ^ count) (secondFits : second < 256 ^ count) :
    first = second := by
  induction count generalizing first second with
  | zero =>
      rw [pow_zero] at firstFits secondFits
      omega
  | succ count inductionHypothesis =>
      have lowest : first % 256 = second % 256 := by
        have digit := same 0 (Nat.succ_pos count)
        rw [pow_zero, Nat.div_one, Nat.div_one] at digit
        exact digit
      rw [pow_succ] at firstFits secondFits
      have rest : first / 256 = second / 256 := by
        apply inductionHypothesis
        · intro index inside
          have digit := same (index + 1) (Nat.succ_lt_succ inside)
          rw [pow_succ', ← Nat.div_div_eq_div_mul,
            ← Nat.div_div_eq_div_mul] at digit
          exact digit
        · exact Nat.div_lt_of_lt_mul (by rw [Nat.mul_comm]; exact firstFits)
        · exact Nat.div_lt_of_lt_mul (by rw [Nat.mul_comm]; exact secondFits)
      omega

/-! ## Parts after their lengths -/

/-- A part after its length. -/
def framed (width : Nat) (part : List UInt8) : List UInt8 :=
  beBytes width part.length ++ part

/-- The first part can be told from what follows it. -/
theorem framed_append_inj
    {width : Nat} {first second firstRest secondRest : List UInt8}
    (firstFits : first.length < 256 ^ width)
    (secondFits : second.length < 256 ^ width)
    (same : framed width first ++ firstRest = framed width second ++ secondRest) :
    first = second ∧ firstRest = secondRest := by
  unfold framed at same
  rw [List.append_assoc, List.append_assoc] at same
  have prefixes :
      (beBytes width first.length).length =
        (beBytes width second.length).length := by
    rw [length_beBytes, length_beBytes]
  obtain ⟨lengths, remaining⟩ := List.append_inj same prefixes
  have sameLength : first.length = second.length :=
    beBytes_inj firstFits secondFits lengths
  exact List.append_inj remaining sameLength

/-- A list of parts is determined by its parts after their lengths. -/
theorem flatMap_framed_inj
    {width : Nat} (positive : 0 < width) {first second : List (List UInt8)}
    (firstFits : ∀ part ∈ first, part.length < 256 ^ width)
    (secondFits : ∀ part ∈ second, part.length < 256 ^ width)
    (same : first.flatMap (framed width) = second.flatMap (framed width)) :
    first = second := by
  have nonempty : ∀ part rest, framed width part ++ rest ≠ [] := by
    intro part rest empty
    have lengths := congrArg List.length empty
    unfold framed at lengths
    rw [List.length_append, List.length_append, length_beBytes,
      List.length_nil] at lengths
    omega
  induction first generalizing second with
  | nil =>
      cases second with
      | nil =>
          rfl
      | cons part rest =>
          exact absurd same.symm (nonempty part _)
  | cons part rest inductionHypothesis =>
      cases second with
      | nil =>
          exact absurd same (nonempty part _)
      | cons other others =>
          rw [List.flatMap_cons, List.flatMap_cons] at same
          obtain ⟨samePart, sameRest⟩ :=
            framed_append_inj (firstFits part List.mem_cons_self)
              (secondFits other List.mem_cons_self) same
          rw [samePart,
            inductionHypothesis
              (fun each member => firstFits each (List.mem_cons_of_mem _ member))
              (fun each member =>
                secondFits each (List.mem_cons_of_mem _ member))
              sameRest]

end WgLink.Library
