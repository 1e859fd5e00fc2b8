import Mathlib.Data.Nat.Bitwise
import Mathlib.Data.UInt

/-!
# Bit Masks

A mask of 32 flags, read and written one flag `1 << i` at a time.

## Key Results

- `testBit_or_bit`: setting a flag.
- `and_bit_ne_zero`: testing one.
- `or_shiftLeft_eq_add`: putting a word together from its parts.
-/

namespace TeleopBridge.Support

variable {i : ℕ}

theorem toNat_bit (hi : i < 32) : ((1 : UInt32) <<< UInt32.ofNat i).toNat = 2 ^ i := by
  have hshift : (UInt32.ofNat i).toNat % 32 = i := by
    rw [UInt32.toNat_ofNat']
    omega
  have hpow : 2 ^ i < 2 ^ 32 := Nat.pow_lt_pow_right (by decide) hi
  rw [UInt32.toNat_shiftLeft, hshift, UInt32.toNat_one, Nat.one_shiftLeft, Nat.mod_eq_of_lt hpow]

/-- Setting flag `i` changes no other one. -/
theorem testBit_or_bit (hi : i < 32) (mask : UInt32) (j : ℕ) :
    (mask ||| ((1 : UInt32) <<< UInt32.ofNat i)).toNat.testBit j =
      (mask.toNat.testBit j || decide (i = j)) := by
  rw [UInt32.toNat_or, Nat.testBit_or, toNat_bit hi, Nat.testBit_two_pow]

theorem and_bit_ne_zero (hi : i < 32) (mask : UInt32) :
    mask &&& ((1 : UInt32) <<< UInt32.ofNat i) ≠ 0 ↔ mask.toNat.testBit i = true := by
  rw [Ne, ← UInt32.toNat_inj, UInt32.toNat_and, toNat_bit hi, UInt32.toNat_zero,
    Nat.and_two_pow]
  cases mask.toNat.testBit i with
  | false => simp
  | true => simp

/-- Putting a word above `k` lower bits by `|` and `<<` is adding it. -/
theorem or_shiftLeft_eq_add {low k : ℕ} (hlow : low < 2 ^ k) (high : ℕ) :
    low ||| (high <<< k) = low + 2 ^ k * high := by
  rw [Nat.or_comm, Nat.shiftLeft_eq, Nat.mul_comm high, ← Nat.two_pow_add_eq_or_of_lt hlow,
    Nat.add_comm]

end TeleopBridge.Support
