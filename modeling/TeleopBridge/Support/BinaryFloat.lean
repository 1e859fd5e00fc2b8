import Mathlib.Algebra.Order.Field.Power
import Mathlib.Tactic.FieldSimp
import Mathlib.Tactic.Linarith
import Mathlib.Tactic.Positivity
import Mathlib.Tactic.Ring

/-!
# Binary Floating Point

A finite number of a binary format is `significand * 2 ^ exponent`. It is rounded to a number of
significant bits, to the nearest and ties to even, and multiplied by rounding the exact product.
The single format is read from its 32 bits.

## Key Results

- `BinaryFloat.round_nearest`: no number with as many bits is nearer.
- `BinaryFloat.round_error`: the error, relative to the number.
- `BinaryFloat.round_isNearestSingle`: rounding to 24 bits gives a `float`, and the nearest one.
-/

namespace TeleopBridge.Support

/-! ## Rounding a significand -/

/-- A significand without its last `shift` bits, to the nearest and ties to even. -/
def roundEven (significand shift : ℕ) : ℕ :=
  let quotient := significand / 2 ^ shift
  let rest := significand % 2 ^ shift
  if 2 ^ shift < 2 * rest ∨ 2 ^ shift = 2 * rest ∧ quotient % 2 = 1 then quotient + 1
  else quotient

theorem roundEven_zero (shift : ℕ) : roundEven 0 shift = 0 := by
  have hpos : 0 < 2 ^ shift := Nat.two_pow_pos shift
  unfold roundEven
  rw [Nat.zero_div, Nat.zero_mod, if_neg (by omega)]

/-- Without a bit to drop nothing is rounded. -/
theorem roundEven_shift_zero (significand : ℕ) : roundEven significand 0 = significand := by
  unfold roundEven
  rw [pow_zero, Nat.div_one, Nat.mod_one, if_neg (by omega)]

/-- A rounded significand is the quotient or the next number. -/
theorem roundEven_bounds (significand shift : ℕ) :
    significand / 2 ^ shift ≤ roundEven significand shift ∧
      roundEven significand shift ≤ significand / 2 ^ shift + 1 := by
  unfold roundEven
  simp only
  split_ifs <;> omega

/-- Rounding is off by at most half a unit of the last bit that stays. -/
theorem two_mul_abs_roundEven_sub_le (significand shift : ℕ) :
    2 * |(roundEven significand shift * 2 ^ shift : ℤ) - significand| ≤ 2 ^ shift := by
  have hsplit : (2 ^ shift * (significand / 2 ^ shift) + significand % 2 ^ shift : ℤ) =
      significand := by
    exact_mod_cast Nat.div_add_mod significand (2 ^ shift)
  have hrest : (significand % 2 ^ shift : ℤ) < 2 ^ shift := Int.emod_lt_of_pos _ (by positivity)
  have hnonneg : (0 : ℤ) ≤ significand % 2 ^ shift := Int.emod_nonneg _ (by positivity)
  unfold roundEven
  simp only
  split_ifs with hup
  · -- rounded up, which happens from half a unit on
    have hhalf : (2 ^ shift : ℤ) ≤ 2 * (significand % 2 ^ shift) := by
      have hnat : 2 ^ shift ≤ 2 * (significand % 2 ^ shift) := by omega
      exact_mod_cast hnat
    have hdiff : ((significand / 2 ^ shift + 1 : ℕ) * 2 ^ shift : ℤ) - significand =
        2 ^ shift - significand % 2 ^ shift := by
      push_cast
      linarith
    rw [hdiff, abs_of_nonneg (by omega)]
    omega
  · have hhalf : 2 * (significand % 2 ^ shift : ℤ) ≤ 2 ^ shift := by
      have hnat : 2 * (significand % 2 ^ shift) ≤ 2 ^ shift := by omega
      exact_mod_cast hnat
    have hdiff : ((significand / 2 ^ shift : ℕ) * 2 ^ shift : ℤ) - significand =
        -(significand % 2 ^ shift) := by
      push_cast
      linarith
    rw [hdiff, abs_neg, abs_of_nonneg hnonneg]
    exact hhalf

/-! ## Numbers -/

/-- The number `significand * 2 ^ exponent`. -/
structure BinaryFloat where
  significand : ℤ
  exponent : ℤ
deriving DecidableEq, Repr

namespace BinaryFloat

/-- The number as an element of a field. -/
def value (K : Type*) [Field K] (x : BinaryFloat) : K := x.significand * 2 ^ x.exponent

/-- The nearest number with `bits` significant bits, ties to even. -/
def round (bits : ℕ) (x : BinaryFloat) : BinaryFloat :=
  let shift := x.significand.natAbs.log2 + 1 - bits
  ⟨x.significand.sign * roundEven x.significand.natAbs shift, x.exponent + shift⟩

/-- The exact product, rounded. -/
def mul (bits : ℕ) (x y : BinaryFloat) : BinaryFloat :=
  round bits ⟨x.significand * y.significand, x.exponent + y.exponent⟩

/-! ## The nearest number -/

/-- A number of more than one bit is not zero. -/
theorem significand_ne_zero {bits : ℕ} {x : BinaryFloat}
    (hlong : bits < x.significand.natAbs.log2) : x.significand ≠ 0 := by
  intro hzero
  rw [hzero] at hlong
  exact absurd hlong (by simp)

/-- A number that has no more than `bits` bits is kept. -/
theorem round_of_short {bits : ℕ} {x : BinaryFloat}
    (hshort : x.significand.natAbs.log2 < bits) : x.round bits = x := by
  have hshift : x.significand.natAbs.log2 + 1 - bits = 0 := by omega
  unfold round
  simp only
  rw [hshift, roundEven_shift_zero, Int.sign_mul_natAbs, Nat.cast_zero, add_zero]

section

variable {K : Type*} [Field K] [LinearOrder K] [IsStrictOrderedRing K]

/-- No other multiple of a unit is nearer than one that is off by at most half a unit. -/
theorem abs_sub_le_of_multiple {x unit : K} {a : ℤ} (hhalf : 2 * |a * unit - x| ≤ unit) (k : ℤ) :
    |a * unit - x| ≤ |k * unit - x| := by
  have hunit : 0 ≤ unit := le_trans (by positivity) hhalf
  by_cases hsame : k = a
  · rw [hsame]
  · -- the two multiples are at least a unit apart
    have hapart : unit ≤ |k * unit - a * unit| := by
      have hone : (1 : K) ≤ |((k - a : ℤ) : K)| := by
        exact_mod_cast Int.one_le_abs (sub_ne_zero.mpr hsame)
      rw [← sub_mul, abs_mul, abs_of_nonneg hunit]
      push_cast at hone
      exact le_mul_of_one_le_left hunit hone
    have htriangle : |k * unit - a * unit| ≤ |k * unit - x| + |a * unit - x| := by
      rw [abs_sub_comm (a * unit) x]
      exact abs_sub_le _ _ _
    linarith

/-- A multiple of a unit that is off by at most half a unit is the nearest number with as many
bits, if these bits do not suffice for the next smaller unit. -/
theorem abs_sub_le_of_half_unit {bits : ℕ} {x : K} {a e : ℤ} (hlow : 2 ^ bits * 2 ^ e ≤ x)
    (hhalf : 2 * |a * 2 ^ e - x| ≤ 2 ^ e) {z : BinaryFloat}
    (hz : |z.significand| ≤ 2 ^ (bits + 1)) : |a * 2 ^ e - x| ≤ |z.value K - x| := by
  rcases le_or_gt e z.exponent with hcoarse | hfine
  · -- a multiple of the unit
    obtain ⟨d, hd⟩ := Int.le.dest hcoarse
    have hmultiple : z.value K = (z.significand * 2 ^ d : ℤ) * 2 ^ e := by
      unfold value
      rw [← hd, zpow_add₀ two_ne_zero, zpow_natCast]
      push_cast
      ring
    rw [hmultiple]
    exact abs_sub_le_of_multiple hhalf _
  · -- at most the smallest number of `x`'s size, which is a multiple of the unit
    have hbelow : z.value K ≤ 2 ^ bits * 2 ^ e := by
      have hsignificand : (z.significand : K) ≤ 2 ^ (bits + 1) := by
        exact_mod_cast (le_abs_self _).trans hz
      have hexponent : (2 : K) ^ z.exponent ≤ 2 ^ (e - 1) :=
        zpow_le_zpow_right₀ one_le_two (by omega)
      calc z.value K ≤ 2 ^ (bits + 1) * 2 ^ (e - 1) :=
            mul_le_mul hsignificand hexponent (by positivity) (by positivity)
        _ = 2 ^ bits * 2 ^ e := by
            rw [pow_succ, zpow_sub_one₀ two_ne_zero]
            field_simp
    have hbound := abs_sub_le_of_multiple hhalf (2 ^ bits)
    push_cast at hbound
    rw [abs_of_nonpos (sub_nonpos.mpr hlow)] at hbound
    rw [abs_of_nonpos (sub_nonpos.mpr (hbelow.trans hlow))]
    linarith

/-- What rounding does to the size of a number: it is off by at most half a unit of the last bit
that stays, and the number has at least `bits` of these. -/
theorem abs_round_sub_le {bits shift : ℕ} {x : BinaryFloat} (hnonzero : x.significand ≠ 0)
    (hlong : x.significand.natAbs.log2 = bits + shift) :
    (x.round (bits + 1)).exponent = x.exponent + shift ∧
      2 * |(x.round (bits + 1)).value K - x.value K| ≤ 2 ^ (x.exponent + shift) ∧
        2 ^ bits * 2 ^ (x.exponent + shift) ≤ |x.value K| := by
  have hshift : x.significand.natAbs.log2 + 1 - (bits + 1) = shift := by omega
  have hpower : (2 : K) ^ (x.exponent + shift) = 2 ^ shift * 2 ^ x.exponent := by
    rw [zpow_add₀ two_ne_zero, zpow_natCast, mul_comm]
  have hpos : (0 : K) < 2 ^ x.exponent := by positivity
  refine ⟨by simp only [round, hshift], ?_, ?_⟩
  · -- the sign is that of the number, and the rest is rounded
    have hnear := two_mul_abs_roundEven_sub_le x.significand.natAbs shift
    have hsigned : |x.significand.sign * roundEven x.significand.natAbs shift * 2 ^ shift -
        x.significand| ≤ |(roundEven x.significand.natAbs shift * 2 ^ shift : ℤ) -
          x.significand.natAbs| := by
      nth_rewrite 3 [← Int.sign_mul_natAbs x.significand]
      rw [mul_assoc, ← mul_sub, abs_mul]
      exact mul_le_of_le_one_left (abs_nonneg _) (by
        rcases Int.sign_trichotomy x.significand with h | h | h <;> simp [h])
    have hcast : (2 : K) * |((x.significand.sign * roundEven x.significand.natAbs shift *
        2 ^ shift - x.significand : ℤ) : K)| ≤ 2 ^ shift := by
      exact_mod_cast (mul_le_mul_of_nonneg_left hsigned zero_le_two).trans hnear
    have hdiff : (x.round (bits + 1)).value K - x.value K =
        ((x.significand.sign * roundEven x.significand.natAbs shift * 2 ^ shift -
          x.significand : ℤ) : K) * 2 ^ x.exponent := by
      unfold round value
      simp only
      rw [hshift, hpower]
      push_cast
      ring
    rw [hdiff, abs_mul, abs_of_pos hpos, ← mul_assoc, hpower]
    exact mul_le_mul_of_nonneg_right hcast hpos.le
  · have hsize := Nat.log2_self_le (Int.natAbs_ne_zero.mpr hnonzero)
    rw [hlong] at hsize
    have hcast : (2 : K) ^ (bits + shift) ≤ |(x.significand : K)| := by
      rw [← Int.cast_abs, Int.abs_eq_natAbs]
      exact_mod_cast hsize
    unfold value
    rw [abs_mul, abs_of_pos hpos, hpower, ← mul_assoc, ← pow_add]
    exact mul_le_mul_of_nonneg_right hcast hpos.le

/-- No number with as many bits is nearer than the rounded one. -/
theorem round_nearest (bits : ℕ) (x : BinaryFloat) {z : BinaryFloat}
    (hz : |z.significand| ≤ 2 ^ (bits + 1)) :
    |(x.round (bits + 1)).value K - x.value K| ≤ |z.value K - x.value K| := by
  rcases Nat.lt_or_ge x.significand.natAbs.log2 (bits + 1) with hshort | hlong
  · rw [round_of_short hshort, sub_self, abs_zero]
    exact abs_nonneg _
  · have hnonzero := significand_ne_zero (Nat.lt_of_succ_le hlong)
    obtain ⟨shift, hshift⟩ := Nat.exists_eq_add_of_le (Nat.le_of_succ_le hlong)
    obtain ⟨hexponent, hhalf, hlow⟩ := @abs_round_sub_le K _ _ _ bits shift x hnonzero hshift
    have hround : (x.round (bits + 1)).value K =
        (x.round (bits + 1)).significand * 2 ^ (x.exponent + shift) := by
      rw [← hexponent]
      rfl
    rw [hround] at hhalf ⊢
    rcases le_total 0 (x.value K) with hpos | hneg
    · rw [abs_of_nonneg hpos] at hlow
      exact abs_sub_le_of_half_unit hlow hhalf hz
    · -- a negative number is rounded as its opposite is
      rw [abs_of_nonpos hneg] at hlow
      have hopposite := @abs_sub_le_of_half_unit K _ _ _ bits (-x.value K)
        (-(x.round (bits + 1)).significand) (x.exponent + shift) hlow
        (by
          rw [← abs_neg]
          push_cast
          convert hhalf using 3
          ring)
        ⟨-z.significand, z.exponent⟩ (by rwa [abs_neg])
      have hleft : ((-(x.round (bits + 1)).significand : ℤ) : K) * 2 ^ (x.exponent + shift) -
          -x.value K = -((x.round (bits + 1)).significand * 2 ^ (x.exponent + shift) -
            x.value K) := by
        push_cast
        ring
      have hright : (⟨-z.significand, z.exponent⟩ : BinaryFloat).value K - -x.value K =
          -(z.value K - x.value K) := by
        unfold value
        push_cast
        ring
      rw [hleft, hright, abs_neg, abs_neg] at hopposite
      exact hopposite

/-- Rounding is off by at most half a unit of the last bit, relative to the number. -/
theorem round_error (bits : ℕ) (x : BinaryFloat) :
    |(x.round (bits + 1)).value K - x.value K| * 2 ^ (bits + 1) ≤ |x.value K| := by
  rcases Nat.lt_or_ge x.significand.natAbs.log2 (bits + 1) with hshort | hlong
  · rw [round_of_short hshort, sub_self, abs_zero, zero_mul]
    exact abs_nonneg _
  · have hnonzero := significand_ne_zero (Nat.lt_of_succ_le hlong)
    obtain ⟨shift, hshift⟩ := Nat.exists_eq_add_of_le (Nat.le_of_succ_le hlong)
    obtain ⟨-, hhalf, hlow⟩ := @abs_round_sub_le K _ _ _ bits shift x hnonzero hshift
    calc |(x.round (bits + 1)).value K - x.value K| * 2 ^ (bits + 1)
        = 2 ^ bits * (2 * |(x.round (bits + 1)).value K - x.value K|) := by ring
      _ ≤ 2 ^ bits * 2 ^ (x.exponent + shift) :=
          mul_le_mul_of_nonneg_left hhalf (by positivity)
      _ ≤ |x.value K| := hlow

end

end BinaryFloat

/-! ## The single format -/

/-- The number of a `float`, from its sign, exponent and fraction bits; none for an infinity and
for what is not a number. -/
def single? (bits : UInt32) : Option BinaryFloat :=
  let sign : ℤ := if bits.toNat / 2 ^ 31 = 0 then 1 else -1
  let exponent : ℕ := bits.toNat / 2 ^ 23 % 2 ^ 8
  let fraction : ℕ := bits.toNat % 2 ^ 23
  if exponent = 2 ^ 8 - 1 then none
  else if exponent = 0 then some ⟨sign * fraction, -149⟩
  else some ⟨sign * (2 ^ 23 + fraction : ℕ), exponent - 150⟩

/-- A `float` has at most 24 significant bits. -/
theorem single?_significand_le {bits : UInt32} {y : BinaryFloat} (h : single? bits = some y) :
    |y.significand| ≤ 2 ^ 24 := by
  have hfraction : bits.toNat % 2 ^ 23 < 2 ^ 23 := Nat.mod_lt _ (by decide)
  unfold single? at h
  simp only at h
  split_ifs at h <;> cases h <;> simp only [abs_mul, abs_one, abs_neg, one_mul, Nat.abs_cast] <;>
    omega

/-- Every significand of 24 bits is that of a `float`, within the range of the exponent. -/
theorem exists_single (negative : Bool) (fraction exponent : ℕ) (hfraction : fraction < 2 ^ 23)
    (hlow : 0 < exponent) (hhigh : exponent < 255) :
    ∃ bits, single? bits =
      some ⟨(if negative then -1 else 1) * (2 ^ 23 + fraction : ℕ), exponent - 150⟩ := by
  have hsmall : (if negative then 1 else 0) * 2 ^ 31 + exponent * 2 ^ 23 + fraction < 2 ^ 32 := by
    split_ifs <;> omega
  refine ⟨UInt32.ofNat ((if negative then 1 else 0) * 2 ^ 31 + exponent * 2 ^ 23 + fraction), ?_⟩
  unfold single?
  rw [UInt32.toNat_ofNat_of_lt' hsmall]
  have hexponent : ((if negative then 1 else 0) * 2 ^ 31 + exponent * 2 ^ 23 + fraction) / 2 ^ 23 %
      2 ^ 8 = exponent := by
    split_ifs <;> omega
  have hrest : ((if negative then 1 else 0) * 2 ^ 31 + exponent * 2 ^ 23 + fraction) % 2 ^ 23 =
      fraction := by
    split_ifs <;> omega
  simp only
  rw [hexponent, hrest, if_neg (by omega), if_neg (by omega)]
  cases negative with
  | false =>
    rw [if_pos (by simp only [Bool.false_eq_true, if_false]; omega)]
    rfl
  | true =>
    rw [if_neg (by simp only [if_true]; omega)]
    rfl

/-- `y` is a `float`, and no other one is nearer to `x`. -/
structure IsNearestSingle {K : Type*} [Field K] [LinearOrder K] (x : K) (y : BinaryFloat) :
    Prop where
  single : ∃ bits z, single? bits = some z ∧ z.value K = y.value K
  nearest : ∀ bits z, single? bits = some z → |y.value K - x| ≤ |z.value K - x|

namespace BinaryFloat

variable {K : Type*} [Field K] [LinearOrder K] [IsStrictOrderedRing K]

/-- Zero is a `float`. -/
theorem zero_isNearestSingle (exponent : ℤ) :
    IsNearestSingle ((⟨0, exponent⟩ : BinaryFloat).value K) ⟨0, exponent⟩ where
  single := ⟨0, ⟨0, -149⟩, by decide, by simp [value]⟩
  nearest _ _ _ := by
    rw [sub_self, abs_zero]
    exact abs_nonneg _

/-- A number of 24 bits has a `float`, and so has one whose rounding carried into the next bit. -/
theorem exists_single_of_le (negative : Bool) {significand : ℕ} {exponent : ℤ}
    (hbelow : 2 ^ 23 ≤ significand) (habove : significand ≤ 2 ^ 24) (hlow : -149 ≤ exponent)
    (hhigh : exponent ≤ 103) :
    ∃ bits z, single? bits = some z ∧
      z.value K = value K ⟨(if negative then -1 else 1) * significand, exponent⟩ := by
  rcases Nat.lt_or_ge significand (2 ^ 24) with hfits | hcarry
  · obtain ⟨bits, hbits⟩ := exists_single negative (significand - 2 ^ 23) (exponent + 150).toNat
      (by omega) (by omega) (by omega)
    refine ⟨bits, _, hbits, ?_⟩
    rw [Nat.add_sub_cancel' hbelow, Int.toNat_of_nonneg (by omega)]
    simp
  · -- all its bits but the first are zero
    have hcarried : significand = 2 * 2 ^ 23 := by omega
    obtain ⟨bits, hbits⟩ := exists_single negative 0 (exponent + 151).toNat (by omega) (by omega)
      (by omega)
    refine ⟨bits, _, hbits, ?_⟩
    rw [Int.toNat_of_nonneg (by omega), hcarried]
    unfold value
    simp only
    rw [show exponent + 151 - 150 = exponent + 1 by ring, zpow_add_one₀ two_ne_zero]
    push_cast
    ring

/-- The quotient of a rounding has the bits that stay. -/
theorem div_two_pow_bounds {n bits shift : ℕ} (hnonzero : n ≠ 0) (hlog : n.log2 = bits + shift) :
    2 ^ bits ≤ n / 2 ^ shift ∧ n / 2 ^ shift < 2 ^ (bits + 1) := by
  have hpos : 0 < 2 ^ shift := Nat.two_pow_pos shift
  have hfloor := Nat.log2_self_le hnonzero
  have hceil := @Nat.lt_log2_self n
  rw [hlog] at hfloor hceil
  constructor
  · rw [Nat.le_div_iff_mul_le hpos, ← pow_add]
    exact hfloor
  · rw [Nat.div_lt_iff_lt_mul hpos, ← pow_add, Nat.add_right_comm]
    exact hceil

/-- The sign of a number as a `float` has it. -/
theorem sign_eq_ite {n : ℤ} (hnonzero : n ≠ 0) :
    n.sign = if decide (n < 0) then -1 else 1 := by
  rcases lt_or_gt_of_ne hnonzero with hneg | hpos
  · rw [Int.sign_eq_neg_one_of_neg hneg, if_pos (decide_eq_true hneg)]
  · rw [Int.sign_eq_one_of_pos hpos, if_neg (by simpa using hpos.le)]

/-- Rounded to 24 bits, a number within the range of the exponent is the nearest `float`. -/
theorem round_isNearestSingle {x : BinaryFloat} (hlong : 23 ≤ x.significand.natAbs.log2)
    (hlow : -126 ≤ x.exponent + x.significand.natAbs.log2)
    (hhigh : x.exponent + x.significand.natAbs.log2 ≤ 126) :
    IsNearestSingle (x.value K) (x.round 24) := by
  refine ⟨?_, fun bits z hz => round_nearest 23 x (single?_significand_le hz)⟩
  have hnonzero := significand_ne_zero (Nat.lt_of_succ_le hlong)
  obtain ⟨shift, hshift⟩ := Nat.exists_eq_add_of_le hlong
  have hround : x.round 24 =
      ⟨x.significand.sign * roundEven x.significand.natAbs shift, x.exponent + shift⟩ := by
    unfold round
    simp only
    rw [show x.significand.natAbs.log2 + 1 - 24 = shift by omega]
  -- the quotient has 24 bits; rounded up it may have one more
  obtain ⟨hfloor, hceil⟩ := div_two_pow_bounds (Int.natAbs_ne_zero.mpr hnonzero) hshift
  obtain ⟨hbelow, habove⟩ := roundEven_bounds x.significand.natAbs shift
  rw [hround, sign_eq_ite hnonzero]
  exact exists_single_of_le _ (hfloor.trans hbelow) (habove.trans hceil) (by omega) (by omega)

end BinaryFloat

end TeleopBridge.Support
