import Mathlib.Algebra.Group.Nat.Defs
import Mathlib.Data.List.Infix
import Mathlib.Data.Nat.Notation

/-!
# NAL Unit Streams

A stream of NAL units as bytes, in its two containers: with start codes in front of the
units (Annex B), or with their lengths as four bytes, the most significant first (AVCC).
Emulation prevention keeps start codes out of the units.

## Key Results

- `nalUnits_annexB`: a scanner that cuts at every start code gives the units back, whatever
  the lengths of the codes.
- `startCode_in_avcc_iff`: exactly which length fields look like a start code.
-/

namespace TeleopBridge.Support

/-! ## Start codes -/

/-- The length of the start code at the front. -/
def startCodeLen (s : List UInt8) : Option ℕ :=
  if s.take 3 = [0, 0, 1] then some 3
  else if s.take 4 = [0, 0, 0, 1] then some 4
  else none

/-- A start code at the front that is longer than three bytes or has something behind it. -/
def codeAhead (s : List UInt8) : Bool := decide (3 < s.length) && (startCodeLen s).isSome

/-- The distance to the first such code, or to the end. -/
def toNextCode : List UInt8 → ℕ
  | [] => 0
  | byte :: s => if codeAhead (byte :: s) then 0 else toNextCode s + 1

/-- A NAL unit after emulation prevention. -/
structure Unescaped (nal : List UInt8) : Prop where
  nonempty : nal ≠ []
  noZeros : ¬[0, 0, 0] <:+: nal
  noCode : ¬[0, 0, 1] <:+: nal
  last : nal.getLast? ≠ some 0

/-- A code of length three or four stands at the front, whole. -/
theorem startCodeLen_eq_some {s : List UInt8} {n : ℕ} (h : startCodeLen s = some n) :
    (n = 3 ∧ s.take 3 = [0, 0, 1] ∨ n = 4 ∧ s.take 4 = [0, 0, 0, 1]) ∧ n ≤ s.length := by
  unfold startCodeLen at h
  split_ifs at h with hthree hfour
  · cases h
    refine ⟨Or.inl ⟨rfl, hthree⟩, ?_⟩
    have hlen := congrArg List.length hthree
    simp only [List.length_take, List.length_cons, List.length_nil] at hlen
    omega
  · cases h
    refine ⟨Or.inr ⟨rfl, hfour⟩, ?_⟩
    have hlen := congrArg List.length hfour
    simp only [List.length_take, List.length_cons, List.length_nil] at hlen
    omega

theorem startCodeLen_pos {s : List UInt8} {n : ℕ} (h : startCodeLen s = some n) : 0 < n := by
  obtain ⟨⟨rfl, -⟩ | ⟨rfl, -⟩, -⟩ := startCodeLen_eq_some h <;> decide

/-- A tail of a unit is free of start codes, too. -/
theorem Unescaped.suffix {nal tail : List UInt8} (h : Unescaped nal) (hsuffix : tail <:+ nal)
    (hne : tail ≠ []) : Unescaped tail where
  nonempty := hne
  noZeros := fun hsub => h.noZeros (hsub.trans hsuffix.isInfix)
  noCode := fun hsub => h.noCode (hsub.trans hsuffix.isInfix)
  last := by
    obtain ⟨front, rfl⟩ := hsuffix
    have hlast := h.last
    rwa [List.getLast?_append_of_ne_nil _ hne] at hlast

/-- No start code begins inside a unit, whatever comes behind it. -/
theorem Unescaped.startCodeLen_append {nal : List UInt8} (h : Unescaped nal)
    (rest : List UInt8) : startCodeLen (nal ++ rest) = none := by
  unfold startCodeLen
  -- three bytes decide; a shorter unit is kept apart by its last byte
  match nal, h with
  | [], h => exact absurd rfl h.nonempty
  | [a], h =>
    have ha : a ≠ 0 := by simpa using h.last
    simp [ha]
  | [a, b], h =>
    have hb : b ≠ 0 := by simpa using h.last
    simp [hb]
  | a :: b :: c :: tail, h =>
    have hzeros : ¬(a = 0 ∧ b = 0 ∧ c = 0) := by
      rintro ⟨rfl, rfl, rfl⟩
      exact h.noZeros ⟨[], tail, rfl⟩
    have hcode : ¬(a = 0 ∧ b = 0 ∧ c = 1) := by
      rintro ⟨rfl, rfl, rfl⟩
      exact h.noCode ⟨[], tail, rfl⟩
    rw [if_neg (by simpa using hcode), if_neg]
    intro hfour
    simp only [List.cons_append, List.take_succ_cons, List.cons.injEq] at hfour
    exact hzeros ⟨hfour.1, hfour.2.1, hfour.2.2.1⟩

@[simp] theorem toNextCode_of_codeAhead {s : List UInt8} (h : codeAhead s = true) :
    toNextCode s = 0 := by
  cases s with
  | nil => rfl
  | cons byte s => rw [toNextCode, if_pos h]

theorem toNextCode_eq_zero_iff (s : List UInt8) :
    toNextCode s = 0 ↔ (codeAhead s || s.isEmpty) = true := by
  cases s with
  | nil => simp [toNextCode]
  | cons byte s =>
    rw [toNextCode]
    split_ifs with hcode <;> simp [hcode]

/-- The distance to the next code stays inside the stream. -/
theorem toNextCode_le_length (s : List UInt8) : toNextCode s ≤ s.length := by
  induction s with
  | nil => exact Nat.le_refl 0
  | cons byte s ih =>
    unfold toNextCode
    split_ifs
    · exact Nat.zero_le _
    · exact Nat.succ_le_succ ih

/-- Three bytes or fewer hold no code that the scan looks at. -/
theorem toNextCode_of_short {s : List UInt8} (h : s.length ≤ 3) : toNextCode s = s.length := by
  induction s with
  | nil => rfl
  | cons byte s ih =>
    rw [List.length_cons] at h
    -- the scan asks for four bytes before it looks at all
    have hnone : codeAhead (byte :: s) = false := by
      rw [codeAhead, decide_eq_false (by rw [List.length_cons]; omega), Bool.false_and]
    rw [toNextCode, hnone, if_neg Bool.false_ne_true, ih (by omega), List.length_cons]

/-- From inside a unit the next code is the one behind it. -/
theorem Unescaped.toNextCode_append {nal : List UInt8} (h : Unescaped nal) {rest : List UInt8}
    (hrest : rest = [] ∨ codeAhead rest = true) : toNextCode (nal ++ rest) = nal.length := by
  induction nal with
  | nil => exact absurd rfl h.nonempty
  | cons byte tail ih =>
    have hnone : codeAhead (byte :: (tail ++ rest)) = false := by
      rw [codeAhead, ← List.cons_append, h.startCodeLen_append]
      exact Bool.and_false _
    rw [List.cons_append, toNextCode, hnone, if_neg Bool.false_ne_true, List.length_cons]
    congr 1
    -- at the last byte of the unit the rest decides, before it the unit alone
    by_cases hempty : tail = []
    · subst hempty
      rcases hrest with rfl | hcode
      · rfl
      · exact toNextCode_of_codeAhead hcode
    · exact ih (h.suffix (List.suffix_cons byte tail) hempty)

/-! ## Splitting at the start codes -/

/-- The units of a stream: what stands between two start codes, or behind the last one. -/
def nalUnits (s : List UInt8) : List (List UInt8) :=
  if _hlong : 3 < s.length then
    match _hcode : startCodeLen s with
    | none => nalUnits s.tail
    | some n =>
        let body := s.drop n
        (if codeAhead body || body.isEmpty then [] else [body.take (toNextCode body)]) ++
          nalUnits body
  else []
termination_by s.length
decreasing_by
  · rw [List.length_tail]
    omega
  · have hpos := startCodeLen_pos _hcode
    rw [List.length_drop]
    omega

theorem nalUnits_of_short {s : List UInt8} (h : s.length ≤ 3) : nalUnits s = [] := by
  rw [nalUnits, dif_neg (Nat.not_lt.mpr h)]

/-- Where no code starts the scan moves on by one byte. -/
theorem nalUnits_of_none {s : List UInt8} (h : startCodeLen s = none) :
    nalUnits s = nalUnits s.tail := by
  by_cases hlong : 3 < s.length
  · rw [nalUnits, dif_pos hlong]
    split
    · rfl
    · rename_i n hcode
      rw [h] at hcode
      cases hcode
  · rw [nalUnits_of_short (Nat.not_lt.mp hlong), nalUnits_of_short]
    rw [List.length_tail]
    omega

/-- Where a code starts the scan reads the unit up to the next code and goes on behind the code. -/
theorem nalUnits_of_some {s : List UInt8} {n : ℕ} (hlong : 3 < s.length)
    (h : startCodeLen s = some n) :
    nalUnits s = (if codeAhead (s.drop n) || (s.drop n).isEmpty then []
      else [(s.drop n).take (toNextCode (s.drop n))]) ++ nalUnits (s.drop n) := by
  rw [nalUnits, dif_pos hlong]
  split
  · rename_i hcode
    rw [h] at hcode
    cases hcode
  · rename_i m hcode
    rw [h] at hcode
    cases hcode
    rfl

/-- The scanner may start at the next code. -/
theorem nalUnits_drop (s : List UInt8) : nalUnits (s.drop (toNextCode s)) = nalUnits s := by
  induction s with
  | nil => rfl
  | cons byte s ih =>
    unfold toNextCode
    -- a step that meets no code is one the unit scan makes as well
    split_ifs with hcode
    · rfl
    · rw [List.drop_succ_cons, ih]
      by_cases hlong : 3 < (byte :: s).length
      · have hnone : startCodeLen (byte :: s) = none := by
          rw [codeAhead, decide_eq_true hlong, Bool.true_and] at hcode
          exact Option.not_isSome_iff_eq_none.mp hcode
        rw [nalUnits_of_none hnone, List.tail_cons]
      · rw [nalUnits_of_short (Nat.not_lt.mp hlong), nalUnits_of_short]
        rw [List.length_cons] at hlong
        omega

/-! ## Annex B -/

/-- A start code of four bytes or of three. -/
def startCode (long : Bool) : List UInt8 := if long then [0, 0, 0, 1] else [0, 0, 1]

/-- The units with a start code in front of each. -/
def annexB : List (Bool × List UInt8) → List UInt8
  | [] => []
  | (long, nal) :: segments => startCode long ++ nal ++ annexB segments

/-- The code that is written is found, with its own length. -/
theorem startCodeLen_startCode (long : Bool) (rest : List UInt8) :
    startCodeLen (startCode long ++ rest) = some (startCode long).length := by
  cases long <;> simp [startCode, startCodeLen]

theorem three_le_length_startCode (long : Bool) : 3 ≤ (startCode long).length := by
  cases long <;> decide

theorem lt_length_of_nonempty (long : Bool) {nal : List UInt8} (rest : List UInt8)
    (h : nal ≠ []) : 3 < (startCode long ++ nal ++ rest).length := by
  have hcode := three_le_length_startCode long
  have hnal := List.length_pos_iff.mpr h
  rw [List.length_append, List.length_append]
  omega

/-- The scan looks at the front of a written unit: the code and one byte are four bytes. -/
theorem codeAhead_annexB {long : Bool} {nal : List UInt8} (h : nal ≠ [])
    (rest : List UInt8) : codeAhead (startCode long ++ nal ++ rest) = true := by
  rw [codeAhead, decide_eq_true (lt_length_of_nonempty long rest h), List.append_assoc,
    startCodeLen_startCode]
  rfl

/-- Behind a unit the stream ends, or the next start code stands there. -/
theorem annexB_eq_nil_or_codeAhead {segments : List (Bool × List UInt8)}
    (h : ∀ segment ∈ segments, Unescaped segment.2) :
    annexB segments = [] ∨ codeAhead (annexB segments) = true := by
  cases segments with
  | nil => exact Or.inl rfl
  | cons segment segments =>
    right
    exact codeAhead_annexB (h segment List.mem_cons_self).nonempty _

/-- Splitting gives the units back. -/
theorem nalUnits_annexB {segments : List (Bool × List UInt8)}
    (h : ∀ segment ∈ segments, Unescaped segment.2) :
    nalUnits (annexB segments) = segments.map Prod.snd := by
  induction segments with
  | nil => exact nalUnits_of_short (Nat.zero_le _)
  | cons segment segments ih =>
    obtain ⟨long, nal⟩ := segment
    have hnal : Unescaped nal := h (long, nal) List.mem_cons_self
    have hrest : ∀ segment ∈ segments, Unescaped segment.2 :=
      fun segment hmem => h segment (List.mem_cons_of_mem _ hmem)
    have hnext := hnal.toNextCode_append (annexB_eq_nil_or_codeAhead hrest)
    have hbody : codeAhead (nal ++ annexB segments) = false := by
      rw [codeAhead, hnal.startCodeLen_append]
      exact Bool.and_false _
    have hempty : (nal ++ annexB segments).isEmpty = false := by
      simp [hnal.nonempty]
    -- the scan goes on at the end of the unit, where the next code stands
    have hskip : nalUnits (nal ++ annexB segments) = nalUnits (annexB segments) := by
      rw [← nalUnits_drop, hnext, List.drop_left]
    rw [annexB, nalUnits_of_some (lt_length_of_nonempty long _ hnal.nonempty)
      (by rw [List.append_assoc, startCodeLen_startCode]), List.append_assoc,
      List.drop_left, hbody, hempty, hnext, hskip, List.take_left, ih hrest]
    rfl

/-! ## AVCC -/

/-- A length as four bytes, the most significant first. -/
def lengthBytes (n : ℕ) : List UInt8 :=
  [UInt8.ofNat (n / 2 ^ 24), UInt8.ofNat (n / 2 ^ 16), UInt8.ofNat (n / 2 ^ 8), UInt8.ofNat n]

/-- The units with their lengths in front. -/
def avcc : List (List UInt8) → List UInt8
  | [] => []
  | nal :: nals => lengthBytes nal.length ++ nal ++ avcc nals

/-- Somewhere in the stream three bytes look like a start code, with something behind. -/
def HasStartCode (s : List UInt8) : Prop :=
  ∃ i, i + 3 < s.length ∧ (s.drop i).take 3 = [0, 0, 1]

/-- The length bytes of a unit, with its first bytes, read as a start code. -/
def LengthIsCode (nal : List UInt8) : Prop :=
  256 ≤ nal.length ∧ nal.length < 512 ∨ nal.length % 2 ^ 24 = 1 ∨
    nal.length % 2 ^ 16 = 0 ∧ nal[0]? = some 1 ∨
      nal.length % 2 ^ 8 = 0 ∧ nal[0]? = some 0 ∧ nal[1]? = some 1

@[simp] theorem length_lengthBytes (n : ℕ) : (lengthBytes n).length = 4 := rfl

theorem byte_eq_zero_iff (n : ℕ) : UInt8.ofNat n = 0 ↔ n % 256 = 0 := by
  rw [← UInt8.toNat_inj, UInt8.toNat_ofNat']
  rfl

theorem byte_eq_one_iff (n : ℕ) : UInt8.ofNat n = 1 ↔ n % 256 = 1 := by
  rw [← UInt8.toNat_inj, UInt8.toNat_ofNat']
  rfl

/-- A code behind a prefix is a code of the whole. -/
theorem hasStartCode_drop {s : List UInt8} {k : ℕ} (h : HasStartCode (s.drop k)) :
    HasStartCode s := by
  obtain ⟨i, hlt, hcode⟩ := h
  rw [List.length_drop] at hlt
  rw [List.drop_drop] at hcode
  exact ⟨k + i, by omega, hcode⟩

/-- A start code inside a unit is one behind it. -/
theorem Unescaped.hasStartCode_append {nal : List UInt8} (h : Unescaped nal)
    (rest : List UInt8) : HasStartCode (nal ++ rest) ↔ HasStartCode rest := by
  constructor
  · rintro ⟨i, hlt, hcode⟩
    rw [List.length_append] at hlt
    rcases Nat.lt_or_ge i nal.length with hin | hbehind
    · -- inside the unit the bytes are escaped, up to its end
      have hne : nal.drop i ≠ [] := by
        simpa using hin
      have hnone := (h.suffix (List.drop_suffix i nal) hne).startCodeLen_append rest
      rw [List.drop_append_of_le_length (Nat.le_of_lt hin)] at hcode
      rw [startCodeLen, if_pos hcode] at hnone
      cases hnone
    · -- behind the unit the same code is one of the rest
      rw [List.drop_append, List.drop_eq_nil_of_le hbehind, List.nil_append] at hcode
      exact ⟨i - nal.length, by omega, hcode⟩
  · intro hrest
    apply hasStartCode_drop (k := nal.length)
    rwa [List.drop_left]

/-! ### A code that begins in a length field -/

/-- The length field starts with a code for the lengths from 256 to 511. -/
theorem code_at_zero {n : ℕ} (hlt : n < 2 ^ 32) (s : List UInt8) :
    (lengthBytes n ++ s).take 3 = [0, 0, 1] ↔ 256 ≤ n ∧ n < 512 := by
  simp only [lengthBytes, List.cons_append, List.take_succ_cons, List.take_zero, List.cons.injEq,
    byte_eq_zero_iff, byte_eq_one_iff, and_true]
  omega

/-- A code at the second byte fills the rest of the length field. -/
theorem code_at_one (n : ℕ) (s : List UInt8) :
    ((lengthBytes n ++ s).drop 1).take 3 = [0, 0, 1] ↔ n % 2 ^ 24 = 1 := by
  simp only [lengthBytes, List.cons_append, List.drop_succ_cons, List.drop_zero,
    List.take_succ_cons, List.take_zero, List.cons.injEq, byte_eq_zero_iff, byte_eq_one_iff,
    and_true]
  omega

/-- A code at the third byte takes the first byte of the unit with it. -/
theorem code_at_two (n : ℕ) (s : List UInt8) :
    ((lengthBytes n ++ s).drop 2).take 3 = [0, 0, 1] ↔ n % 2 ^ 16 = 0 ∧ s[0]? = some 1 := by
  have hfirst : s.take 1 = [1] ↔ s[0]? = some 1 := by
    cases s with
    | nil => simp
    | cons first s => simp
  simp only [lengthBytes, List.cons_append, List.nil_append, List.drop_succ_cons, List.drop_zero,
    List.take_succ_cons, List.cons.injEq, byte_eq_zero_iff, hfirst]
  rw [← and_assoc]
  exact and_congr_left' (by omega)

/-- A code at the last byte of the field takes the first two bytes of the unit with it. -/
theorem code_at_three (n : ℕ) (s : List UInt8) :
    ((lengthBytes n ++ s).drop 3).take 3 = [0, 0, 1] ↔
      n % 2 ^ 8 = 0 ∧ s[0]? = some 0 ∧ s[1]? = some 1 := by
  have htwo : s.take 2 = [0, 1] ↔ s[0]? = some 0 ∧ s[1]? = some 1 := by
    match s with
    | [] => simp
    | [first] => simp
    | first :: second :: s => simp
  simp only [lengthBytes, List.cons_append, List.nil_append, List.drop_succ_cons, List.drop_zero,
    List.take_succ_cons, List.cons.injEq, byte_eq_zero_iff, htwo]
  exact Iff.rfl

/-- What stands behind the unit does not matter: a unit of one byte has no such length. -/
theorem getElem?_append_of_low {nal : List UInt8} (hne : nal ≠ []) (rest : List UInt8) :
    (nal ++ rest)[0]? = nal[0]? ∧
      (nal.length % 2 ^ 8 = 0 → (nal ++ rest)[1]? = nal[1]?) := by
  have hpos := List.length_pos_iff.mpr hne
  exact ⟨List.getElem?_append_left hpos, fun hlow => List.getElem?_append_left (by omega)⟩

/-- A code that starts inside the length field makes the length one that reads as a code. -/
theorem lengthIsCode_of_code {nal : List UInt8} (hne : nal ≠ []) (hlt : nal.length < 2 ^ 32)
    {rest : List UInt8} {i : ℕ} (hi : i < 4)
    (hcode : ((lengthBytes nal.length ++ (nal ++ rest)).drop i).take 3 = [0, 0, 1]) :
    LengthIsCode nal := by
  obtain ⟨hfirst, hsecond⟩ := getElem?_append_of_low hne rest
  -- one case for each byte of the field, from the lemma about that byte
  match i with
  | 0 => exact Or.inl ((code_at_zero hlt _).mp hcode)
  | 1 => exact Or.inr (Or.inl ((code_at_one _ _).mp hcode))
  | 2 => exact Or.inr (Or.inr (Or.inl (hfirst ▸ (code_at_two _ _).mp hcode)))
  | 3 =>
    obtain ⟨hlow, hbytes⟩ := (code_at_three _ _).mp hcode
    rw [hfirst, hsecond hlow] at hbytes
    exact Or.inr (Or.inr (Or.inr ⟨hlow, hbytes⟩))

/-- A length that reads as a code puts one into the written bytes. -/
theorem LengthIsCode.code {nal : List UInt8} (h : LengthIsCode nal) (hne : nal ≠ [])
    (hlt : nal.length < 2 ^ 32) (rest : List UInt8) : ∃ i, i ≤ nal.length ∧
      ((lengthBytes nal.length ++ (nal ++ rest)).drop i).take 3 = [0, 0, 1] := by
  have hpos := List.length_pos_iff.mpr hne
  obtain ⟨hfirst, hsecond⟩ := getElem?_append_of_low hne rest
  rcases h with hmiddle | hlow | hlow | ⟨hlow, hbytes⟩
  · exact ⟨0, Nat.zero_le _, (code_at_zero hlt _).mpr hmiddle⟩
  · exact ⟨1, hpos, (code_at_one _ _).mpr hlow⟩
  · exact ⟨2, by omega, (code_at_two _ _).mpr (hfirst ▸ hlow)⟩
  · refine ⟨3, by omega, (code_at_three _ _).mpr ⟨hlow, ?_⟩⟩
    rw [hfirst, hsecond hlow]
    exact hbytes

/-- In front of a unit, only its length field can make a start code. -/
theorem Unescaped.hasStartCode_length {nal : List UInt8} (h : Unescaped nal)
    (hlt : nal.length < 2 ^ 32) (rest : List UInt8) :
    HasStartCode (lengthBytes nal.length ++ nal ++ rest) ↔
      LengthIsCode nal ∨ HasStartCode rest := by
  rw [← h.hasStartCode_append rest, List.append_assoc]
  constructor
  · rintro ⟨i, hi, hcode⟩
    rw [List.length_append, length_lengthBytes] at hi
    rcases Nat.lt_or_ge i 4 with hfield | hbehind
    · exact Or.inl (lengthIsCode_of_code h.nonempty hlt hfield hcode)
    · -- four bytes on, the code lies in the unit and what follows it
      obtain ⟨i, rfl⟩ := Nat.exists_eq_add_of_le hbehind
      rw [← List.drop_drop, List.drop_left' (length_lengthBytes _)] at hcode
      exact Or.inr ⟨i, by omega, hcode⟩
  · rintro (hbad | hrest)
    · obtain ⟨i, hi, hcode⟩ := hbad.code h.nonempty hlt rest
      refine ⟨i, ?_, hcode⟩
      simp only [List.length_append, length_lengthBytes]
      omega
    · exact hasStartCode_drop (k := 4) hrest

/-- Exactly the length fields can make a start code in the AVCC container. -/
theorem startCode_in_avcc_iff {nals : List (List UInt8)} (h : ∀ nal ∈ nals, Unescaped nal)
    (hlt : ∀ nal ∈ nals, nal.length < 2 ^ 32) :
    HasStartCode (avcc nals) ↔ ∃ nal ∈ nals, LengthIsCode nal := by
  induction nals with
  | nil =>
    simp only [avcc, List.not_mem_nil, false_and, exists_false, iff_false]
    rintro ⟨i, hi, -⟩
    exact absurd hi (Nat.not_lt_zero _)
  | cons nal nals ih =>
    rw [List.forall_mem_cons] at h hlt
    rw [avcc, h.1.hasStartCode_length hlt.1, ih h.2 hlt.2, List.exists_mem_cons_iff]

end TeleopBridge.Support
