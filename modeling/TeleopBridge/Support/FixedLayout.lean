import TeleopBridge.Support.LittleEndian

/-!
# Fixed Layouts

A record with a fixed layout has each field at an offset of its own, which is the width of
what comes before it.

## Key Results

- `leAt_append_right`, `leAt_leBytes_append`: the field behind what is in front of it.
- `leAt_entry`: the fields of an entry of a table.
-/

namespace TeleopBridge.Support

variable {width offset : ℕ} {front rest bytes : List UInt8}

/-- The field of `width` bytes at an offset. -/
def leAt (width : ℕ) (bytes : List UInt8) (offset : ℕ) : ℕ :=
  leValue ((bytes.drop offset).take width)

theorem leValue_append (low high : List UInt8) :
    leValue (low ++ high) = leValue low + 256 ^ low.length * leValue high := by
  unfold leValue
  rw [List.map_append, Nat.ofDigits_append, List.length_map]

theorem leAt_append_right (h : front.length ≤ offset) :
    leAt width (front ++ rest) offset = leAt width rest (offset - front.length) := by
  unfold leAt
  rw [List.drop_append, List.drop_eq_nil_of_le h, List.nil_append]

theorem leAt_append_left (h : offset + width ≤ front.length) :
    leAt width (front ++ rest) offset = leAt width front offset := by
  unfold leAt
  rw [List.drop_append_of_le_length (by omega), List.take_append_of_le_length]
  rw [List.length_drop]
  omega

theorem leAt_leBytes (width value : ℕ) :
    leAt width (leBytes width value) 0 = value % 256 ^ width := by
  unfold leAt
  rw [List.drop_zero, List.take_of_length_le (by rw [length_leBytes]), leValue_leBytes]

theorem leAt_leBytes_append (width value : ℕ) (rest : List UInt8) :
    leAt width (leBytes width value ++ rest) 0 = value % 256 ^ width := by
  rw [leAt_append_left (by rw [length_leBytes, Nat.zero_add]), leAt_leBytes]

/-! ## Tables -/

variable {n size : ℕ} {entry : Fin n → List UInt8}

theorem length_table (hsize : ∀ i, (entry i).length = size) :
    ((List.finRange n).flatMap entry).length = n * size := by
  rw [List.length_flatMap]
  simp [hsize]

theorem drop_table (hsize : ∀ i, (entry i).length = size) (indices : List (Fin n)) (k : ℕ) :
    (indices.flatMap entry).drop (size * k) = (indices.drop k).flatMap entry := by
  induction indices generalizing k with
  | nil => simp
  | cons i indices ih =>
    cases k with
    | zero => simp
    | succ k =>
      rw [List.flatMap_cons, Nat.mul_succ, Nat.add_comm, ← List.drop_drop,
        List.drop_left' (hsize i), ih, List.drop_succ_cons]

/-- The fields of an entry of a table. -/
theorem leAt_entry (hsize : ∀ i, (entry i).length = size) (i : Fin n)
    (h : offset + width ≤ size) :
    leAt width ((List.finRange n).flatMap entry) (size * i + offset) =
      leAt width (entry i) offset := by
  have hdrop : ((List.finRange n).drop i).flatMap entry =
      entry i ++ ((List.finRange n).drop (i + 1)).flatMap entry := by
    rw [List.drop_eq_getElem_cons (by simp), List.flatMap_cons, List.getElem_finRange]
    rfl
  have hfirst : leAt width (((List.finRange n).drop i).flatMap entry) offset =
      leAt width (entry i) offset := by
    rw [hdrop, leAt_append_left (by rw [hsize]; exact h)]
  rw [← hfirst]
  unfold leAt
  rw [← List.drop_drop, drop_table hsize]

end TeleopBridge.Support
