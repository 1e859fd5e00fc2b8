import TeleopBridge.Support.Loop
import Mathlib.Data.FinEnum
import Mathlib.Dynamics.PeriodicPts.Defs
import Mathlib.NumberTheory.Divisors
import Mathlib.Tactic

/-!
# GF(256) Table Arithmetic

Embeds `src/udp/gf256.cpp`: the exp/log tables built from the generator `0x02`,
the product table filled from them, and `mul`, `inv` and `mulAdd` reading it.

The tables are lists, so an assignment `t[i] = v` is `t.set i v`. The loop that fills
`exp` and `log` keeps its 16-bit accumulator `x`, and the reduction by the primitive
polynomial happens where the source does it.

## Key Result

`mul_eq_shiftMul`: for a non-zero coefficient, the table product is the iterated
shift-and-reduce step, which is linear over XOR. The field axioms of
`Gf256Field.lean` all come from it and from `log` inverting `exp`.
-/

namespace TeleopBridge.Udp.Gf256

open Support

/-! ## Tables -/

/-- Primitive polynomial: x^8 + x^4 + x^3 + x^2 + 1 (0x11D). -/
def kPrimPoly : UInt16 := 0x11D

/-- `struct Tables`, less its `ready` flag: `tables()` runs `init` before the
first read, so no reader sees an unfilled table. -/
structure Tables where
  log : List UInt8
  exp : List UInt8
  mul_lut : UInt8 → UInt8 → UInt8

/-- The accumulator and the two tables while the first loop of `Tables::init` runs. -/
structure ExpLog where
  x : UInt16
  exp : List UInt8
  log : List UInt8

/-- `x <<= 1; if (x & 0x100) x ^= kPrimPoly;` -/
def shiftReduce (x : UInt16) : UInt16 :=
  let x := x <<< 1
  if x &&& 0x100 ≠ 0 then x ^^^ kPrimPoly else x

/-- One iteration of the loop that fills `exp` and `log`. -/
def expLogStep (s : ExpLog) (i : ℕ) : ExpLog where
  exp := s.exp.set i s.x.toUInt8
  log := s.log.set s.x.toUInt8.toNat (UInt8.ofNat i)
  x := shiftReduce s.x

/-- `exp[i] = alpha^i`, `log[alpha^i] = i`, for the first `n` powers. -/
def expLogLoop : ℕ → ExpLog
  | 0 => { x := 1, exp := List.replicate 512 0, log := List.replicate 256 0 }
  | n + 1 => expLogStep (expLogLoop n) n

/-- `for (i = 255; i < 512; ++i) exp[i] = exp[i - 255];`, after `n` iterations. -/
def extendExp (exp : List UInt8) : ℕ → List UInt8
  | 0 => exp
  | n + 1 =>
      let exp := extendExp exp n
      exp.set (255 + n) (exp.getD n 0)

/-- `Tables::init` -/
def Tables.init : Tables :=
  let filled := expLogLoop 255
  let exp := extendExp filled.exp 257
  { log := filled.log
    exp := exp
    mul_lut := fun coef value =>
      if coef = 0 ∨ value = 0 then 0
      else exp.getD ((filled.log.getD coef.toNat 0).toNat +
        (filled.log.getD value.toNat 0).toNat) 0 }

/-- The tables every function of the file reads. -/
def tables : Tables := Tables.init

/-- `t.log[a]` -/
def log (a : UInt8) : UInt8 := tables.log.getD a.toNat 0

/-- `t.exp[i]` -/
def exp (i : ℕ) : UInt8 := tables.exp.getD i 0

/-- `gf256::mul` -/
def mul (a b : UInt8) : UInt8 := tables.mul_lut a b

/-- `gf256::inv`: `a^{-1} = exp(255 - log(a))`, and 0 for input 0. -/
def inv (a : UInt8) : UInt8 :=
  if a = 0 then 0 else exp (255 - (log a).toNat)

/-- `gf256::mulAdd`: `dst[i] ^= coef * src[i]` for `i < bytes`. A read past the end
of `src` is 0; the callers never make one. -/
def mulAdd (coef : UInt8) (src dst : List UInt8) (bytes : ℕ) : List UInt8 :=
  if coef = 0 ∨ bytes = 0 then dst
  else if coef = 1 then
    modifyRange 0 bytes (fun i b => b ^^^ src.getD i 0) dst
  else
    modifyRange 0 bytes (fun i b => b ^^^ tables.mul_lut coef (src.getD i 0)) dst

/-! ## The shift-and-reduce step -/

/-- The step on a byte, i.e. multiplication by the generator. -/
def xtime (b : UInt8) : UInt8 := (shiftReduce b.toUInt16).toUInt8

/-- Multiplication by the `i`-th power of the generator. -/
def shiftMul (i : ℕ) (b : UInt8) : UInt8 := xtime^[i] b

/-- The `i`-th power of the generator. -/
def alphaPow (i : ℕ) : UInt8 := shiftMul i 1

/-- The 16-bit step of the table stays in a byte. -/
theorem shiftReduce_toUInt16 (b : UInt8) : shiftReduce b.toUInt16 = (xtime b).toUInt16 := by
  revert b
  decide +kernel

theorem xtime_zero : xtime 0 = 0 := by decide

/-- On a byte, the reduction is decided by the top bit. -/
theorem xtime_eq (b : UInt8) :
    xtime b = (b <<< 1) ^^^ (if b >>> 7 = 0 then 0 else 0x1D) := by
  revert b
  decide +kernel

/-- The top bit, which decides whether the shift is reduced. -/
theorem shiftRight_seven (b : UInt8) : b >>> 7 = 0 ∨ b >>> 7 = 1 := by
  revert b
  decide +kernel

theorem xor_xor_xor_comm (a b c d : UInt8) : (a ^^^ b) ^^^ (c ^^^ d) = (a ^^^ c) ^^^ (b ^^^ d) := by
  ac_rfl

/-- Multiplying by `x` is linear. -/
theorem xtime_xor (a b : UInt8) : xtime (a ^^^ b) = xtime a ^^^ xtime b := by
  have hleft : (a ^^^ b) <<< 1 = (a <<< 1) ^^^ (b <<< 1) := UInt8.shiftLeft_xor
  have hright : (a ^^^ b) >>> 7 = (a >>> 7) ^^^ (b >>> 7) := UInt8.shiftRight_xor
  -- the reduction term is additive in the top bit
  have hreduce : (if (a ^^^ b) >>> 7 = 0 then 0 else 0x1D : UInt8) =
      (if a >>> 7 = 0 then 0 else 0x1D) ^^^ (if b >>> 7 = 0 then 0 else 0x1D) := by
    rw [hright]
    rcases shiftRight_seven a with ha | ha <;> rcases shiftRight_seven b with hb | hb <;>
      simp [ha, hb]
  rw [xtime_eq, hleft, hreduce, xor_xor_xor_comm, ← xtime_eq, ← xtime_eq]

theorem shiftMul_zero_right (i : ℕ) : shiftMul i 0 = 0 :=
  Function.iterate_fixed xtime_zero i

theorem shiftMul_add (i j : ℕ) (b : UInt8) : shiftMul (i + j) b = shiftMul i (shiftMul j b) :=
  Function.iterate_add_apply xtime i j b

theorem shiftMul_succ (i : ℕ) (b : UInt8) : shiftMul (i + 1) b = xtime (shiftMul i b) :=
  Function.iterate_succ_apply' xtime i b

/-- So is multiplying by a power of `x`. -/
theorem shiftMul_xor (i : ℕ) (a b : UInt8) :
    shiftMul i (a ^^^ b) = shiftMul i a ^^^ shiftMul i b := by
  induction i with
  | zero => rfl
  | succ i ih => rw [shiftMul_succ, ih, xtime_xor, ← shiftMul_succ, ← shiftMul_succ]

/-- Only 0 is taken to 0. -/
theorem xtime_injective : Function.Injective xtime := by
  have hker : ∀ c : UInt8, xtime c = 0 → c = 0 := by decide +kernel
  intro a b h
  have hzero : a ^^^ b = 0 := hker _ (by rw [xtime_xor, h, UInt8.xor_self])
  exact UInt8.xor_eq_zero_iff.mp hzero

theorem shiftMul_injective (i : ℕ) : Function.Injective (shiftMul i) :=
  xtime_injective.iterate i

/-! ## Powers of the generator -/

/-- Powers of the generator add their exponents. -/
theorem alphaPow_add (i j : ℕ) : alphaPow (i + j) = shiftMul i (alphaPow j) :=
  shiftMul_add i j 1

/-- The generator has order 255. -/
theorem alphaPow_order : alphaPow 255 = 1 := by decide +kernel

theorem alphaPow_add_order (i : ℕ) : alphaPow (i + 255) = alphaPow i := by
  rw [alphaPow_add, alphaPow_order]
  rfl

/-- Exponents count modulo 255. -/
theorem alphaPow_mod (i : ℕ) : alphaPow (i % 255) = alphaPow i := by
  induction i using Nat.strong_induction_on with
  -- one round of the cycle at a time
  | _ i ih =>
    by_cases h : i < 255
    · rw [Nat.mod_eq_of_lt h]
    · obtain ⟨j, rfl⟩ : ∃ j, i = j + 255 := ⟨i - 255, by omega⟩
      rw [Nat.add_mod_right, ih j (by omega), alphaPow_add_order]

/-- No proper divisor of 255 is a period of the generator. -/
theorem eq_of_dvd_of_alphaPow {d : ℕ} (hdvd : d ∣ 255) (hone : alphaPow d = 1) : d = 255 := by
  have hdivisors : Nat.divisors 255 = {1, 3, 5, 15, 17, 51, 85, 255} := by decide +kernel
  have hproper : ∀ e ∈ ({1, 3, 5, 15, 17, 51, 85} : Finset ℕ), alphaPow e ≠ 1 := by
    decide +kernel
  have hmem : d ∈ Nat.divisors 255 := Nat.mem_divisors.mpr ⟨hdvd, by decide⟩
  by_contra hne
  refine hproper d ?_ hone
  rw [hdivisors] at hmem
  simp only [Finset.mem_insert, Finset.mem_singleton] at hmem ⊢
  omega

/-- The generator is primitive. -/
theorem minimalPeriod_xtime : Function.minimalPeriod xtime 1 = 255 :=
  eq_of_dvd_of_alphaPow (Function.IsPeriodicPt.minimalPeriod_dvd alphaPow_order)
    (Function.isPeriodicPt_minimalPeriod xtime 1)

/-- Its powers below 255 are different. -/
theorem alphaPow_injOn {i j : ℕ} (hi : i < 255) (hj : j < 255) (h : alphaPow i = alphaPow j) :
    i = j := by
  have hi' : i < Function.minimalPeriod xtime 1 := minimalPeriod_xtime.symm ▸ hi
  have hj' : j < Function.minimalPeriod xtime 1 := minimalPeriod_xtime.symm ▸ hj
  exact (Function.iterate_eq_iterate_iff_of_lt_minimalPeriod hi' hj').mp h

/-- No power is 0. -/
theorem alphaPow_ne_zero (i : ℕ) : alphaPow i ≠ 0 := by
  intro h
  have hone : (1 : UInt8) = 0 := shiftMul_injective i (h.trans (shiftMul_zero_right i).symm)
  exact absurd hone (by decide)

/-- Every non-zero byte is a power of the generator: there are 255 distinct powers. -/
theorem exists_alphaPow {a : UInt8} (ha : a ≠ 0) : ∃ i < 255, alphaPow i = a := by
  have hsub : (Finset.range 255).image alphaPow ⊆ Finset.univ.erase 0 := by
    intro b hb
    obtain ⟨i, -, rfl⟩ := Finset.mem_image.mp hb
    exact Finset.mem_erase.mpr ⟨alphaPow_ne_zero i, Finset.mem_univ _⟩
  have hcard : (Finset.univ.erase (0 : UInt8)).card ≤ ((Finset.range 255).image alphaPow).card := by
    rw [Finset.card_image_of_injOn (fun i hi j hj => alphaPow_injOn
      (Finset.mem_range.mp hi) (Finset.mem_range.mp hj)), Finset.card_range]
    decide +kernel
  have heq := Finset.eq_of_subset_of_card_le hsub hcard
  have hmem : a ∈ (Finset.range 255).image alphaPow :=
    heq ▸ Finset.mem_erase.mpr ⟨ha, Finset.mem_univ a⟩
  obtain ⟨i, hi, rfl⟩ := Finset.mem_image.mp hmem
  exact ⟨i, Finset.mem_range.mp hi, rfl⟩

/-! ## What the table loops leave behind -/

/-- Invariant of the loop that fills `exp` and `log`: the accumulator is the next
power, and both tables are right on the powers already written. -/
structure ExpLogInv (n : ℕ) (s : ExpLog) : Prop where
  x_eq : s.x = (alphaPow n).toUInt16
  exp_length : s.exp.length = 512
  log_length : s.log.length = 256
  exp_eq : ∀ i < n, s.exp.getD i 0 = alphaPow i
  log_eq : ∀ i < n, s.log.getD (alphaPow i).toNat 0 = UInt8.ofNat i

/-- One round of the loop fills one entry of either table. -/
theorem expLogInv_step {n : ℕ} {s : ExpLog} (hn : n < 255) (h : ExpLogInv n s) :
    ExpLogInv (n + 1) (expLogStep s n) := by
  have hx : s.x.toUInt8 = alphaPow n := by rw [h.x_eq]; simp
  have hexp : n < s.exp.length := by rw [h.exp_length]; omega
  have hlog : (alphaPow n).toNat < s.log.length := by
    rw [h.log_length]
    exact (alphaPow n).toNat_lt
  refine ⟨?_, ?_, ?_, ?_, ?_⟩
  · -- the next power
    show shiftReduce s.x = _
    rw [h.x_eq, shiftReduce_toUInt16]
    exact congrArg UInt8.toUInt16 (shiftMul_succ n 1).symm
  · exact (List.length_set ..).trans h.exp_length
  · exact (List.length_set ..).trans h.log_length
  · -- the powers so far, and the new one
    intro i hi
    show (s.exp.set n s.x.toUInt8).getD i 0 = _
    by_cases hin : n = i
    · rw [← hin, getD_set_self hexp, hx]
    · rw [getD_set_of_ne _ hin]
      exact h.exp_eq i (by omega)
  · intro i hi
    show (s.log.set s.x.toUInt8.toNat (UInt8.ofNat n)).getD (alphaPow i).toNat 0 = _
    rw [hx]
    by_cases hin : n = i
    · rw [← hin, getD_set_self hlog]
    · -- no earlier power is at this place of the logarithms
      have hne : (alphaPow n).toNat ≠ (alphaPow i).toNat :=
        fun heq => hin (alphaPow_injOn (by omega) (by omega) (UInt8.toNat_inj.mp heq))
      rw [getD_set_of_ne _ hne]
      exact h.log_eq i (by omega)

/-- Behind `n` rounds the first `n` powers are in both tables. -/
theorem expLogInv_loop (n : ℕ) (hn : n ≤ 255) : ExpLogInv n (expLogLoop n) := by
  induction n with
  | zero =>
    exact ⟨by decide, List.length_replicate, List.length_replicate,
      fun i hi => absurd hi (Nat.not_lt_zero i),
      fun i hi => absurd hi (Nat.not_lt_zero i)⟩
  | succ n ih => exact expLogInv_step (by omega) (ih (by omega))

theorem length_extendExp (exp : List UInt8) (n : ℕ) : (extendExp exp n).length = exp.length := by
  induction n with
  | zero => rfl
  | succ n ih => rw [extendExp, List.length_set, ih]

/-- The second half of the powers repeats the first. -/
theorem extendExp_eq {exp : List UInt8} (hlen : exp.length = 512)
    (hexp : ∀ i < 255, exp.getD i 0 = alphaPow i) (n : ℕ) (hn : n ≤ 257) :
    ∀ i < 255 + n, (extendExp exp n).getD i 0 = alphaPow i := by
  induction n with
  | zero => exact hexp
  | succ n ih =>
    intro i hi
    -- each new entry is a copy of one that was filled before
    have hlt : 255 + n < (extendExp exp n).length := by rw [length_extendExp, hlen]; omega
    rw [extendExp]
    by_cases hin : 255 + n = i
    · rw [← hin, getD_set_self hlt, ih (by omega) n (by omega), Nat.add_comm, alphaPow_add_order]
    · rw [getD_set_of_ne _ hin]
      exact ih (by omega) i (by omega)

theorem tables_exp : tables.exp = extendExp (expLogLoop 255).exp 257 := by
  simp only [tables, Tables.init]

theorem tables_log : tables.log = (expLogLoop 255).log := by
  simp only [tables, Tables.init]

/-- The finished table holds the powers of the generator. -/
theorem exp_eq_alphaPow {i : ℕ} (hi : i < 512) : exp i = alphaPow i := by
  have hfilled := expLogInv_loop 255 le_rfl
  rw [exp, tables_exp]
  exact extendExp_eq hfilled.exp_length hfilled.exp_eq 257 le_rfl i hi

/-- And the other one their exponents. -/
theorem log_alphaPow {i : ℕ} (hi : i < 255) : (log (alphaPow i)).toNat = i := by
  rw [log, tables_log, (expLogInv_loop 255 le_rfl).log_eq i hi, UInt8.toNat_ofNat']
  omega

/-- The product table is filled from `log` and `exp`. -/
theorem mul_eq (a b : UInt8) :
    mul a b = if a = 0 ∨ b = 0 then 0 else exp ((log a).toNat + (log b).toNat) := by
  rw [exp, log, log, tables_exp, tables_log]
  simp only [mul, tables, Tables.init]

/-- Every byte but 0 is a power. -/
theorem log_lt {a : UInt8} (ha : a ≠ 0) : (log a).toNat < 255 := by
  obtain ⟨i, hi, rfl⟩ := exists_alphaPow ha
  rwa [log_alphaPow hi]

theorem alphaPow_log {a : UInt8} (ha : a ≠ 0) : alphaPow (log a).toNat = a := by
  obtain ⟨i, hi, rfl⟩ := exists_alphaPow ha
  rw [log_alphaPow hi]

/-! ## Products and inverses -/

@[simp] theorem zero_mul (b : UInt8) : mul 0 b = 0 := by
  rw [mul_eq, if_pos (Or.inl rfl)]

@[simp] theorem mul_zero (a : UInt8) : mul a 0 = 0 := by
  rw [mul_eq, if_pos (Or.inr rfl)]

/-- A product of bytes that are not 0 adds the logarithms. -/
theorem mul_of_ne_zero {a b : UInt8} (ha : a ≠ 0) (hb : b ≠ 0) :
    mul a b = alphaPow ((log a).toNat + (log b).toNat) := by
  have hla := log_lt ha
  have hlb := log_lt hb
  rw [mul_eq, if_neg (by simp [ha, hb]), exp_eq_alphaPow (by omega)]

/-- A product by a non-zero coefficient is an iterated shift-and-reduce. -/
theorem mul_eq_shiftMul {a : UInt8} (ha : a ≠ 0) (b : UInt8) :
    mul a b = shiftMul (log a).toNat b := by
  by_cases hb : b = 0
  · rw [hb, mul_zero, shiftMul_zero_right]
  · rw [mul_of_ne_zero ha hb, alphaPow_add, alphaPow_log hb]

/-- Multiplying powers adds the exponents. -/
theorem mul_alphaPow (i j : ℕ) : mul (alphaPow i) (alphaPow j) = alphaPow (i + j) := by
  -- the logarithm of a power is its exponent modulo 255
  have hlog : ∀ k, (log (alphaPow k)).toNat = k % 255 := by
    intro k
    rw [← alphaPow_mod k, log_alphaPow (Nat.mod_lt _ (by decide))]
  rw [mul_of_ne_zero (alphaPow_ne_zero i) (alphaPow_ne_zero j), hlog, hlog, ← alphaPow_mod,
    ← Nat.add_mod, alphaPow_mod]

/-- The table product is commutative. -/
theorem mul_comm (a b : UInt8) : mul a b = mul b a := by
  by_cases ha : a = 0
  · rw [ha, zero_mul, mul_zero]
  by_cases hb : b = 0
  · rw [hb, zero_mul, mul_zero]
  rw [mul_of_ne_zero ha hb, mul_of_ne_zero hb ha, Nat.add_comm]

/-- And associative. -/
theorem mul_assoc (a b c : UInt8) : mul (mul a b) c = mul a (mul b c) := by
  by_cases ha : a = 0
  · simp [ha]
  by_cases hb : b = 0
  · simp [hb]
  by_cases hc : c = 0
  · simp [hc]
  -- without a 0 all three are powers
  rw [← alphaPow_log ha, ← alphaPow_log hb, ← alphaPow_log hc]
  simp only [mul_alphaPow, Nat.add_assoc]

/-- 1 is the power with exponent 0. -/
theorem one_mul (b : UInt8) : mul 1 b = b := by
  have hlog : (log 1).toNat = 0 := log_alphaPow (i := 0) (by decide)
  rw [mul_eq_shiftMul (by decide), hlog]
  rfl

/-- A factor acts linearly on the other one. -/
theorem mul_xor (a b c : UInt8) : mul a (b ^^^ c) = mul a b ^^^ mul a c := by
  by_cases ha : a = 0
  · simp [ha]
  · rw [mul_eq_shiftMul ha, mul_eq_shiftMul ha, mul_eq_shiftMul ha, shiftMul_xor]

/-- A byte and its inverse have exponents that add up to 255. -/
theorem mul_inv_cancel {a : UInt8} (ha : a ≠ 0) : mul a (inv a) = 1 := by
  have hla := log_lt ha
  have hinv : inv a = alphaPow (255 - (log a).toNat) := by
    rw [inv, if_neg ha, exp_eq_alphaPow (by omega)]
  calc mul a (inv a)
      = mul (alphaPow (log a).toNat) (alphaPow (255 - (log a).toNat)) := by
        rw [alphaPow_log ha, hinv]
    _ = alphaPow 255 := by
        rw [mul_alphaPow, Nat.add_sub_cancel' (by omega)]
    _ = 1 := alphaPow_order

end TeleopBridge.Udp.Gf256
