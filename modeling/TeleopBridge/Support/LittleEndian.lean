import Mathlib.Data.Nat.Digits.Lemmas
import Mathlib.Tactic

/-!
# Little-Endian Fields

A packet header is a sequence of unsigned fields, each `width` bytes, least significant
byte first. `leBytes` writes one field and `readLe` reads one from the front of a buffer.

## Key Result

`readLe_leBytes`: reading a field back gives its value modulo `256 ^ width` and leaves
exactly the bytes after it. A whole header is decoded by chaining the readers.
-/

namespace TeleopBridge.Support

/-- The `width` low bytes of `value`, least significant first. -/
def leBytes : ℕ → ℕ → List UInt8
  | 0, _ => []
  | width + 1, value => UInt8.ofNat value :: leBytes width (value / 256)

/-- The number a list of bytes stands for. -/
def leValue (bytes : List UInt8) : ℕ := Nat.ofDigits 256 (bytes.map UInt8.toNat)

/-- The field of `width` bytes at the front of a buffer, and the rest of the buffer. -/
def readLe (width : ℕ) (bytes : List UInt8) : Option (ℕ × List UInt8) :=
  if bytes.length < width then none else some (leValue (bytes.take width), bytes.drop width)

@[simp] theorem length_leBytes (width value : ℕ) : (leBytes width value).length = width := by
  induction width generalizing value with
  | zero => rfl
  | succ width ih => rw [leBytes, List.length_cons, ih]

/-- A wide field is its low part followed by its high part. -/
theorem leBytes_add (m n value : ℕ) :
    leBytes (m + n) value = leBytes m value ++ leBytes n (value / 256 ^ m) := by
  induction m generalizing value with
  | zero => simp [leBytes]
  | succ m ih =>
    rw [Nat.succ_add, leBytes, ih, leBytes, List.cons_append, Nat.div_div_eq_div_mul,
      Nat.pow_succ']

theorem leBytes_mod (n value : ℕ) : leBytes n (value % 256 ^ n) = leBytes n value := by
  induction n generalizing value with
  | zero => rfl
  | succ n ih =>
    have hbyte : UInt8.ofNat (value % 256 ^ (n + 1)) = UInt8.ofNat value := by
      apply UInt8.toNat_inj.mp
      rw [UInt8.toNat_ofNat', UInt8.toNat_ofNat', Nat.pow_succ']
      exact Nat.mod_mul_right_mod value 256 (256 ^ n)
    have hrest : value % 256 ^ (n + 1) / 256 = value / 256 % 256 ^ n := by
      rw [Nat.pow_succ', Nat.mod_mul_right_div_self]
    rw [leBytes, leBytes, hbyte, hrest, ih]

theorem leValue_cons (byte : UInt8) (bytes : List UInt8) :
    leValue (byte :: bytes) = byte.toNat + 256 * leValue bytes := by
  rw [leValue, List.map_cons, Nat.ofDigits_cons]
  rfl

theorem leValue_leBytes (width value : ℕ) :
    leValue (leBytes width value) = value % 256 ^ width := by
  induction width generalizing value with
  | zero => simp [leBytes, leValue, Nat.mod_one]
  | succ width ih =>
    have hbyte : (UInt8.ofNat value).toNat = value % 256 := UInt8.toNat_ofNat'
    rw [leBytes, leValue_cons, ih, hbyte, Nat.pow_succ', Nat.mod_mul]

/-- A field reads back, and the reader stops exactly behind it. -/
theorem readLe_leBytes (width value : ℕ) (rest : List UInt8) :
    readLe width (leBytes width value ++ rest) = some (value % 256 ^ width, rest) := by
  unfold readLe
  rw [if_neg (by simp), List.take_left' (length_leBytes width value),
    List.drop_left' (length_leBytes width value), leValue_leBytes]

/-- A value that fits its field reads back unchanged. -/
theorem readLe_leBytes_of_lt {width value : ℕ} (hvalue : value < 256 ^ width)
    (rest : List UInt8) :
    readLe width (leBytes width value ++ rest) = some (value, rest) := by
  rw [readLe_leBytes, Nat.mod_eq_of_lt hvalue]

end TeleopBridge.Support
