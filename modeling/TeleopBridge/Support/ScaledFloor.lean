import Mathlib.Data.Nat.Basic
import Mathlib.Order.Monotone.Basic

/-!
# Rounding Between Two Units

A quantity is counted in one unit, of which `q` make a whole, and converted to a finer one, of
which `p` make a whole, or back. Both conversions round down.

## Key Results

- `scale_strictMono`: a conversion to a finer unit keeps different counts apart.
- `scale_add`: converting in two parts loses at most one unit.
- `scale_sub_scale`: a difference converted there and back loses at most one unit, and gains
  nothing.
-/

namespace TeleopBridge.Support

/-- `n` units, of which `q` make a whole, in units of which `p` make a whole. -/
def scale (p q n : ℕ) : ℕ := n * p / q

variable {p q : ℕ}

theorem scale_mul_le (p q n : ℕ) : scale p q n * q ≤ n * p := Nat.div_mul_le_self _ _

theorem lt_scale_succ_mul (hq : 0 < q) (p n : ℕ) : n * p < (scale p q n + 1) * q :=
  Nat.lt_mul_of_div_lt (Nat.lt_succ_self _) hq

theorem scale_mono (p q : ℕ) : Monotone (scale p q) := fun _ _ hle =>
  Nat.div_le_div_right (Nat.mul_le_mul_right p hle)

/-- A whole is a whole, and the rest is converted on its own. -/
theorem scale_whole (hq : 0 < q) (p wholes rest : ℕ) :
    scale p q (wholes * q + rest) = wholes * p + scale p q rest := by
  unfold scale
  rw [Nat.add_mul, Nat.mul_right_comm, Nat.add_comm, Nat.add_mul_div_right _ _ hq, Nat.add_comm]

theorem scale_strictMono (hq : 0 < q) (hpq : q ≤ p) : StrictMono (scale p q) := by
  refine strictMono_nat_of_lt_succ fun n => ?_
  have hlow := scale_mul_le p q n
  have hnext := lt_scale_succ_mul hq p (n + 1)
  rw [Nat.add_mul, Nat.one_mul] at hnext
  -- one unit more is at least one unit more of the finer kind
  have hless : (scale p q n + 1) * q < (scale p q (n + 1) + 1) * q := by
    rw [Nat.add_mul, Nat.one_mul]
    omega
  have hcount := Nat.lt_of_mul_lt_mul_right hless
  omega

/-- A finer unit counts at least as many. -/
theorem le_scale (hq : 0 < q) (hpq : q ≤ p) (n : ℕ) : n ≤ scale p q n := by
  unfold scale
  rw [Nat.le_div_iff_mul_le hq]
  exact Nat.mul_le_mul_left n hpq

theorem scale_add (hq : 0 < q) (p m n : ℕ) :
    scale p q m + scale p q n ≤ scale p q (m + n) ∧
      scale p q (m + n) ≤ scale p q m + scale p q n + 1 := by
  have hm := lt_scale_succ_mul hq p m
  have hn := lt_scale_succ_mul hq p n
  have hall := scale_mul_le p q (m + n)
  constructor
  · unfold scale
    rw [Nat.add_mul]
    exact Nat.div_add_div_le_add_div
  · have hless : scale p q (m + n) * q < (scale p q m + scale p q n + 2) * q := by
      simp only [Nat.add_mul, Nat.one_mul] at hall hm hn ⊢
      omega
    have hcount := Nat.lt_of_mul_lt_mul_right hless
    omega

/-- There with the finer unit, and back. -/
theorem scale_sub_scale (hq : 0 < q) (hpq : q ≤ p) {m n : ℕ} (hle : m ≤ n) :
    n - m ≤ scale q p (scale p q n - scale p q m) + 1 ∧
      scale q p (scale p q n - scale p q m) ≤ n - m := by
  have hp : 0 < p := hq.trans_le hpq
  have hmono := scale_mono p q hle
  obtain ⟨d, rfl⟩ := Nat.exists_eq_add_of_le hle
  obtain ⟨u, hu⟩ := Nat.exists_eq_add_of_le hmono
  rw [Nat.add_sub_cancel_left, hu, Nat.add_sub_cancel_left]
  have hmlow := scale_mul_le p q m
  have hmhigh := lt_scale_succ_mul hq p m
  have hnlow := scale_mul_le p q (m + d)
  have hnhigh := lt_scale_succ_mul hq p (m + d)
  rw [hu] at hnlow hnhigh
  simp only [Nat.add_mul, Nat.one_mul] at hmhigh hnlow hnhigh
  have hlow := lt_scale_succ_mul hp q u
  have hhigh := scale_mul_le q p u
  constructor
  · have hless : d * p < (scale q p u + 2) * p := by
      rw [Nat.add_mul] at hlow ⊢
      omega
    have hcount := Nat.lt_of_mul_lt_mul_right hless
    omega
  · have hless : scale q p u * p < (d + 1) * p := by
      rw [Nat.add_mul]
      omega
    have hcount := Nat.lt_of_mul_lt_mul_right hless
    omega

end TeleopBridge.Support
