import Mathlib.Data.UInt

/-!
# Saturating arithmetic on machine words

Addition stops at the largest word and subtraction at zero.  Every statement
about words is carried over to the natural numbers by `toNat`, where both
operations have a closed form and `omega` applies.
-/

namespace WgLink.Library

/-- The largest 64-bit word. -/
def maxWord : UInt64 := 18446744073709551615

/-- Addition that stops at the largest word. -/
def saturatingAdd (left right : UInt64) : UInt64 :=
  if left.toNat + right.toNat < 2 ^ 64 then left + right else maxWord

/-- Subtraction that stops at zero. -/
def saturatingSub (left right : UInt64) : UInt64 :=
  if right ≤ left then left - right else 0

/-- Addition of 16-bit words that stops at the largest one. -/
def saturatingAdd16 (left right : UInt16) : UInt16 :=
  if left.toNat + right.toNat < 2 ^ 16 then left + right else 65535

theorem toNat_lt (word : UInt64) : word.toNat < 18446744073709551616 :=
  word.toNat_lt_size

theorem le_maxWord (word : UInt64) : word ≤ maxWord := by
  rw [UInt64.le_iff_toNat_le]
  have bound := toNat_lt word
  have value : maxWord.toNat = 18446744073709551615 := rfl
  omega

theorem toNat_saturatingAdd (left right : UInt64) :
    (saturatingAdd left right).toNat =
      min (left.toNat + right.toNat) 18446744073709551615 := by
  unfold saturatingAdd
  split
  · rename_i fits
    rw [UInt64.toNat_add, Nat.mod_eq_of_lt fits]
    omega
  · rename_i overflows
    have value : maxWord.toNat = 18446744073709551615 := rfl
    omega

theorem toNat_saturatingAdd16 (left right : UInt16) :
    (saturatingAdd16 left right).toNat =
      min (left.toNat + right.toNat) 65535 := by
  unfold saturatingAdd16
  split
  · rename_i fits
    rw [UInt16.toNat_add, Nat.mod_eq_of_lt fits]
    omega
  · rename_i overflows
    have value : (65535 : UInt16).toNat = 65535 := rfl
    omega

theorem toNat_saturatingSub (left right : UInt64) :
    (saturatingSub left right).toNat = left.toNat - right.toNat := by
  unfold saturatingSub
  split
  · rename_i ordered
    exact UInt64.toNat_sub_of_le _ _ ordered
  · rename_i unordered
    rw [UInt64.le_iff_toNat_le] at unordered
    have value : (0 : UInt64).toNat = 0 := rfl
    omega

theorem toNat_min (left right : UInt64) :
    (min left right).toNat = min left.toNat right.toNat := by
  change (if left ≤ right then left else right).toNat = _
  split
  · rename_i ordered
    rw [UInt64.le_iff_toNat_le] at ordered
    omega
  · rename_i unordered
    rw [UInt64.le_iff_toNat_le] at unordered
    omega

theorem toNat_max (left right : UInt64) :
    (max left right).toNat = max left.toNat right.toNat := by
  change (if left ≤ right then right else left).toNat = _
  split
  · rename_i ordered
    rw [UInt64.le_iff_toNat_le] at ordered
    omega
  · rename_i unordered
    rw [UInt64.le_iff_toNat_le] at unordered
    omega

end WgLink.Library
