import Mathlib.Algebra.Group.MinimalAxioms
import Mathlib.Algebra.Quaternion
import Mathlib.Tactic.Ring

/-!
# Rigid Motions

A rigid motion of space turns by a unit quaternion `q`, as `v ↦ q v q*`, and then shifts. A
vector is a quaternion without real part. A quaternion and its negative turn alike; they are
kept apart here.

## Key Result

The rigid motions are a group. So a pose relative to another one is `p⁻¹ * j`, composing it
with `p` gives `j` back, and a common motion of both does not change it.
-/

namespace TeleopBridge.Support

open Quaternion

variable {R : Type*} [CommRing R]

/-! ## Turning a vector -/

/-- The vector `v`, turned by `q`. -/
def turn (q v : ℍ[R]) : ℍ[R] := q * v * star q

/-- To turn by a product is to turn twice. -/
theorem turn_mul (p q v : ℍ[R]) : turn (p * q) v = turn p (turn q v) := by
  unfold turn
  rw [star_mul]
  simp only [mul_assoc]

/-- Turning is linear. -/
theorem turn_add (q v w : ℍ[R]) : turn q (v + w) = turn q v + turn q w := by
  unfold turn
  rw [mul_add, add_mul]

theorem turn_neg (q v : ℍ[R]) : turn q (-v) = -turn q v := by
  unfold turn
  rw [mul_neg, neg_mul]

/-- 1 turns nothing. -/
theorem turn_one (v : ℍ[R]) : turn 1 v = v := by
  unfold turn
  rw [one_mul, star_one, mul_one]

/-- A turned vector is a vector. -/
theorem turn_re {q v : ℍ[R]} (hv : v.re = 0) : (turn q v).re = 0 := by
  unfold turn
  simp only [re_mul, imI_mul, imJ_mul, imK_mul, re_star, imI_star, imJ_star, imK_star, hv]
  ring

/-! ## Motions -/

/-- A motion that turns and then shifts. -/
@[ext]
structure RigidMotion (R : Type*) [CommRing R] where
  rotation : ℍ[R]
  translation : ℍ[R]
  unit : normSq rotation = 1
  vector : translation.re = 0

namespace RigidMotion

instance : Mul (RigidMotion R) where
  mul g h :=
    { rotation := g.rotation * h.rotation
      translation := turn g.rotation h.translation + g.translation
      unit := by rw [map_mul, g.unit, h.unit, one_mul]
      vector := by rw [re_add, turn_re h.vector, g.vector, add_zero] }

instance : One (RigidMotion R) where
  one := { rotation := 1, translation := 0, unit := map_one _, vector := rfl }

instance : Inv (RigidMotion R) where
  inv g :=
    { rotation := star g.rotation
      translation := -turn (star g.rotation) g.translation
      unit := by rw [normSq_star, g.unit]
      vector := by rw [re_neg, turn_re g.vector, neg_zero] }

@[simp]
theorem mul_rotation (g h : RigidMotion R) : (g * h).rotation = g.rotation * h.rotation := rfl

/-- The second motion turns the translation of the first. -/
@[simp]
theorem mul_translation (g h : RigidMotion R) :
    (g * h).translation = turn g.rotation h.translation + g.translation := rfl

@[simp]
theorem one_rotation : (1 : RigidMotion R).rotation = 1 := rfl

@[simp]
theorem one_translation : (1 : RigidMotion R).translation = 0 := rfl

@[simp]
theorem inv_rotation (g : RigidMotion R) : g⁻¹.rotation = star g.rotation := rfl

/-- The way back, seen from the turned frame. -/
@[simp]
theorem inv_translation (g : RigidMotion R) :
    g⁻¹.translation = -turn (star g.rotation) g.translation := rfl

instance : Group (RigidMotion R) :=
  Group.ofLeftAxioms
    (fun g h k => by
      ext1
      · simp only [mul_rotation, mul_assoc]
      · simp only [mul_rotation, mul_translation, turn_mul, turn_add, add_assoc])
    (fun g => by
      ext1
      · rw [mul_rotation, one_rotation, one_mul]
      · rw [mul_translation, one_rotation, one_translation, turn_one, add_zero])
    (fun g => by
      ext1
      · rw [mul_rotation, inv_rotation, star_mul_self, g.unit, coe_one, one_rotation]
      · rw [mul_translation, inv_rotation, inv_translation, add_neg_cancel, one_translation])

/-- One pose seen from another: turn the difference back. -/
theorem inv_mul_translation (p j : RigidMotion R) :
    (p⁻¹ * j).translation = turn (star p.rotation) (j.translation - p.translation) := by
  rw [mul_translation, inv_rotation, inv_translation, sub_eq_add_neg, turn_add, turn_neg]

/-- A common motion of both poses leaves the one as it is seen from the other. -/
theorem inv_mul_of_common (g p j : RigidMotion R) : (g * p)⁻¹ * (g * j) = p⁻¹ * j := by
  rw [mul_inv_rev, mul_assoc, inv_mul_cancel_left]

end RigidMotion

end TeleopBridge.Support
