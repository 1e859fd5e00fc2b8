import Mathlib.Algebra.Order.Group.Nat

/-!
# Serial Numbers

Numbers on a circle of `M`, where one lies ahead of another when the way forward is the
shorter one.

## Key Results

- `ahead_least`: the numerically least of a set of numbers that stay behind no one lies
  ahead, as soon as one of the others does.
-/

namespace TeleopBridge.Support

/-- The way forward from `e` to `b` on the circle of `M` numbers. -/
def ahead (M e b : ℕ) : ℕ := (M - e + b) % M

/-- A number that is numerically less than `e` has wrapped, and lies less than `H` ahead. -/
def Unwraps (M H e b : ℕ) : Prop := b < e → ahead M e b < H

variable {M H e b m : ℕ}

theorem ahead_of_le (hle : e ≤ b) (hb : b < M) : ahead M e b = b - e := by
  have hway : M - e + b = b - e + M := by omega
  rw [ahead, hway, Nat.add_mod_right, Nat.mod_eq_of_lt (by omega)]

theorem ahead_of_lt (hlt : b < e) (he : e < M) : ahead M e b = M - e + b := by
  rw [ahead, Nat.mod_eq_of_lt (by omega)]

/-- The way grows by one from the number before. -/
theorem ahead_pred (he : e < M) (hb : b < M) (hnear : ahead M ((e + 1) % M) b + 1 < M) :
    ahead M e b = ahead M ((e + 1) % M) b + 1 := by
  rcases Nat.lt_or_ge (e + 1) M with hlt | hge
  · rw [Nat.mod_eq_of_lt hlt] at hnear ⊢
    rcases Nat.lt_or_ge b (e + 1) with hless | hle
    · rw [ahead_of_lt hless hlt] at hnear ⊢
      rw [ahead_of_lt (by omega) he]
      omega
    · rw [ahead_of_le hle hb, ahead_of_le (by omega) hb]
      omega
  · obtain rfl : M = e + 1 := by omega
    rw [Nat.mod_self] at hnear ⊢
    rw [ahead_of_le (Nat.zero_le b) hb] at hnear ⊢
    rw [ahead_of_lt (by omega) he]
    omega

theorem Unwraps.of_near (h : ahead M e b < H) : Unwraps M H e b := fun _ => h

theorem Unwraps.of_le (h : e ≤ b) : Unwraps M H e b := fun hlt => absurd hlt (not_lt.mpr h)

/-- A step forward leaves nothing behind but the number it leaves. -/
theorem Unwraps.succ (h : Unwraps M H e b) (he : e < M) (hne : b ≠ e) :
    Unwraps M H ((e + 1) % M) b := by
  intro hlt
  rcases Nat.lt_or_ge (e + 1) M with hsucc | hge
  · rw [Nat.mod_eq_of_lt hsucc] at hlt ⊢
    have hless : b < e := by omega
    have hnear := h hless
    rw [ahead_of_lt hless he] at hnear
    rw [ahead_of_lt hlt hsucc]
    omega
  · obtain rfl : M = e + 1 := by omega
    rw [Nat.mod_self] at hlt
    exact absurd hlt (Nat.not_lt_zero b)

/-- What is numerically no greater than a number ahead lies ahead itself. -/
theorem ahead_least (hm : Unwraps M H e m) (hle : m ≤ b) (hb : b < M) (hnear : ahead M e b < H) :
    ahead M e m < H := by
  rcases Nat.lt_or_ge m e with hlt | hge
  · exact hm hlt
  · rw [ahead_of_le (hge.trans hle) hb] at hnear
    rw [ahead_of_le hge (hle.trans_lt hb)]
    omega

end TeleopBridge.Support
