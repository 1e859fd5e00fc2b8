import TeleopBridge.Udp.Gf256
import Mathlib.Algebra.Field.Basic
import Mathlib.Algebra.BigOperators.Group.Finset.Basic
import Mathlib.Algebra.BigOperators.Intervals

/-!
# The Table Arithmetic is a Field

`GaloisByte` is a byte read as an element of GF(256): addition is XOR, product and
inverse are the table lookups of `gf256.cpp`. The `Field` instance is what lets the
parity code be reasoned about with sums, polynomials and matrices.

## Key Result

`mulAdd_byte`: on every byte it covers, `gf256::mulAdd` adds `coef * src[i]` in the field.
-/

namespace TeleopBridge.Udp

open Gf256 Support

/-- A byte as an element of GF(256). -/
@[ext]
structure GaloisByte where
  byte : UInt8
deriving DecidableEq

namespace GaloisByte

instance : Zero GaloisByte := ⟨⟨0⟩⟩
instance : One GaloisByte := ⟨⟨1⟩⟩
instance : Add GaloisByte := ⟨fun a b => ⟨a.byte ^^^ b.byte⟩⟩
instance : Neg GaloisByte := ⟨fun a => a⟩
instance : Mul GaloisByte := ⟨fun a b => ⟨Gf256.mul a.byte b.byte⟩⟩
instance : Inv GaloisByte := ⟨fun a => ⟨Gf256.inv a.byte⟩⟩

@[simp] theorem zero_byte : (0 : GaloisByte).byte = 0 := rfl
@[simp] theorem one_byte : (1 : GaloisByte).byte = 1 := rfl
@[simp] theorem add_byte (a b : GaloisByte) : (a + b).byte = a.byte ^^^ b.byte := rfl
@[simp] theorem neg_byte (a : GaloisByte) : (-a).byte = a.byte := rfl
@[simp] theorem mul_byte (a b : GaloisByte) : (a * b).byte = Gf256.mul a.byte b.byte := rfl
@[simp] theorem inv_byte (a : GaloisByte) : (a⁻¹).byte = Gf256.inv a.byte := rfl

/-- 0 is the only element with the byte 0. -/
theorem byte_ne_zero {a : GaloisByte} (ha : a ≠ 0) : a.byte ≠ 0 :=
  fun h => ha (GaloisByte.ext h)

/-- The product distributes over the exclusive or. -/
theorem mul_add_byte (a b c : GaloisByte) : a * (b + c) = a * b + a * c :=
  GaloisByte.ext (Gf256.mul_xor _ _ _)

/-- It is commutative. -/
theorem mul_comm_byte (a b : GaloisByte) : a * b = b * a :=
  GaloisByte.ext (Gf256.mul_comm _ _)

/-- The table has no inverse of 0, and answers 0. -/
theorem inv_zero_byte : (0 : GaloisByte)⁻¹ = 0 :=
  GaloisByte.ext (by rw [inv_byte, zero_byte, Gf256.inv, if_pos rfl])

instance : CommRing GaloisByte where
  add_assoc a b c := GaloisByte.ext (UInt8.xor_assoc _ _ _)
  zero_add a := GaloisByte.ext UInt8.zero_xor
  add_zero a := GaloisByte.ext UInt8.xor_zero
  add_comm a b := GaloisByte.ext (UInt8.xor_comm _ _)
  neg_add_cancel a := GaloisByte.ext UInt8.xor_self
  mul_assoc a b c := GaloisByte.ext (Gf256.mul_assoc _ _ _)
  one_mul a := GaloisByte.ext (Gf256.one_mul _)
  mul_one a := by rw [mul_comm_byte]; exact GaloisByte.ext (Gf256.one_mul _)
  zero_mul a := GaloisByte.ext (Gf256.zero_mul a.byte)
  mul_zero a := GaloisByte.ext (Gf256.mul_zero a.byte)
  left_distrib := mul_add_byte
  right_distrib a b c := by
    rw [mul_comm_byte, mul_add_byte, mul_comm_byte c a, mul_comm_byte c b]
  mul_comm := mul_comm_byte
  nsmul := nsmulRec
  zsmul := zsmulRec

instance : Field GaloisByte where
  exists_pair_ne := ⟨0, 1, fun h => absurd (congrArg GaloisByte.byte h) (by decide)⟩
  mul_inv_cancel _ ha := GaloisByte.ext (Gf256.mul_inv_cancel (byte_ne_zero ha))
  inv_zero := inv_zero_byte
  nnqsmul := _
  nnqsmul_def := fun _ _ => rfl
  qsmul := _
  qsmul_def := fun _ _ => rfl

/-- Subtraction is XOR as well: the field has characteristic 2. -/
@[simp] theorem sub_byte (a b : GaloisByte) : (a - b).byte = a.byte ^^^ b.byte := by
  rw [sub_eq_add_neg, add_byte, neg_byte]

end GaloisByte

/-! ## `mulAdd` in the field -/

namespace Gf256

/-- The table that the sender looks up is the product. -/
theorem mul_lut_eq (coef value : UInt8) : tables.mul_lut coef value = Gf256.mul coef value := rfl

/-- The three branches of `mulAdd` (zero coefficient, coefficient 1, table lookup)
compute one formula. -/
theorem getElem?_mulAdd (coef : UInt8) (src dst : List UInt8) (bytes i : ℕ) :
    (mulAdd coef src dst bytes)[i]? =
      if i < bytes then dst[i]?.map (· ^^^ Gf256.mul coef (src.getD i 0)) else dst[i]? := by
  rw [mulAdd]
  by_cases hzero : coef = 0 ∨ bytes = 0
  · rw [if_pos hzero]
    rcases hzero with rfl | rfl
    · simp
    · simp
  · rw [if_neg hzero]
    by_cases hone : coef = 1
    · rw [if_pos hone, getElem?_modifyRange, hone]
      simp [Gf256.one_mul]
    · rw [if_neg hone, getElem?_modifyRange]
      simp [mul_lut_eq]

/-- `mulAdd` changes bytes in place. -/
@[simp] theorem length_mulAdd (coef : UInt8) (src dst : List UInt8) (bytes : ℕ) :
    (mulAdd coef src dst bytes).length = dst.length := by
  rw [mulAdd]
  -- a coefficient of 0, of 1, and any other
  split_ifs
  · rfl
  · exact length_modifyRange _ _ _ _
  · exact length_modifyRange _ _ _ _

/-- On a byte it covers, `mulAdd` adds `coef * src[i]` in the field. -/
theorem mulAdd_byte {coef : UInt8} {src dst : List UInt8} {bytes i : ℕ} (hi : i < bytes)
    (hdst : i < dst.length) :
    (⟨(mulAdd coef src dst bytes).getD i 0⟩ : GaloisByte) =
      ⟨dst.getD i 0⟩ + ⟨coef⟩ * ⟨src.getD i 0⟩ := by
  have hget : dst.getD i 0 = dst[i] := by simp [hdst]
  rw [List.getD_eq_getElem?_getD, getElem?_mulAdd, if_pos hi, List.getElem?_eq_getElem hdst,
    Option.map_some, Option.getD_some, hget]
  rfl

/-- Bytes past the count are left alone. -/
theorem mulAdd_byte_of_le {coef : UInt8} {src dst : List UInt8} {bytes i : ℕ} (hi : bytes ≤ i) :
    (mulAdd coef src dst bytes).getD i 0 = dst.getD i 0 := by
  rw [List.getD_eq_getElem?_getD, getElem?_mulAdd, if_neg (by omega),
    ← List.getD_eq_getElem?_getD]

end Gf256

end TeleopBridge.Udp
