import Mathlib.Data.List.Basic
import TeleopBridge.Support.NalStream
import TeleopBridge.Video.Bitstream

/-!
# The Annex B Scanners

Relates the index loops of the two `forEachNal` to the units of the byte stream.

## Key Results

- `VideoModule.forEachNalAnnexB_eq`: the module's loop reports the units of the stream.
- `VideoEncoder.forEachNalAnnexB_padded`: the encoder's loop reports them, too, and nothing
  else exactly when no start code follows another one directly.
-/

namespace TeleopBridge.Video

open Support

/-! ## Start codes by index -/

theorem byteAt_drop (data : List UInt8) (i k : ℕ) :
    byteAt (data.drop i) k = byteAt data (i + k) := by
  simp [byteAt, List.getD_eq_getElem?_getD]

theorem byteAt_take_zero {s : List UInt8} (h : byteAt s 0 = 0) (k : ℕ) :
    byteAt (s.take k) 0 = 0 := by
  cases k with
  | zero => rfl
  | succ k =>
    cases s with
    | nil => rfl
    | cons byte s => exact h

theorem take_three_iff (s : List UInt8) (a b c : UInt8) :
    s.take 3 = [a, b, c] ↔
      3 ≤ s.length ∧ byteAt s 0 = a ∧ byteAt s 1 = b ∧ byteAt s 2 = c := by
  match s with
  | [] => simp
  | [_] => simp
  | [_, _] => simp
  | x :: y :: z :: rest => simp [byteAt]

theorem take_four_iff (s : List UInt8) (a b c d : UInt8) :
    s.take 4 = [a, b, c, d] ↔
      4 ≤ s.length ∧ byteAt s 0 = a ∧ byteAt s 1 = b ∧ byteAt s 2 = c ∧ byteAt s 3 = d := by
  match s with
  | [] => simp
  | [_] => simp
  | [_, _] => simp
  | [_, _, _] => simp
  | x :: y :: z :: w :: rest => simp [byteAt]

theorem is_start_code_eq (data : List UInt8) (i : ℕ) :
    is_start_code data i = startCodeLen (data.drop i) := by
  have hthree : 3 ≤ data.length - i ↔ i + 3 ≤ data.length := by omega
  have hfour : 4 ≤ data.length - i ↔ i + 4 ≤ data.length := by omega
  unfold is_start_code startCodeLen
  simp only [take_three_iff, take_four_iff, byteAt_drop, List.length_drop, Nat.add_zero, hthree,
    hfour]

theorem is_start_code_append (front data : List UInt8) (i : ℕ) :
    is_start_code (front ++ data) (front.length + i) = is_start_code data i := by
  rw [is_start_code_eq, is_start_code_eq, List.drop_length_add_append]

theorem codeAhead_drop (data : List UInt8) (i : ℕ) :
    codeAhead (data.drop i) = (decide (i + 3 < data.length) && (is_start_code data i).isSome) := by
  rw [codeAhead, is_start_code_eq, List.length_drop]
  congr 1
  exact decide_eq_decide.mpr (by omega)

theorem toNextCode_drop {data : List UInt8} {i : ℕ} (h : i < data.length) :
    toNextCode (data.drop i) =
      if codeAhead (data.drop i) then 0 else toNextCode (data.drop (i + 1)) + 1 := by
  rw [List.drop_eq_getElem_cons h, toNextCode]

theorem hasCode_at {data : List UInt8} {i : ℕ} (hlong : i + 3 ≤ data.length)
    (hfirst : byteAt data i = 0) (hsecond : byteAt data (i + 1) = 0)
    (hthird : byteAt data (i + 2) = 1) : (data.drop i).take 3 = [0, 0, 1] := by
  rw [take_three_iff, byteAt_drop, byteAt_drop, byteAt_drop, List.length_drop]
  exact ⟨by omega, hfirst, hsecond, hthird⟩

/-- The test for Annex B looks for a start code with something behind it. -/
theorem hasAnnexBStartCode_iff (data : List UInt8) :
    VideoEncoder.hasAnnexBStartCode data = true ↔ HasStartCode data := by
  unfold VideoEncoder.hasAnnexBStartCode
  by_cases hshort : data.length < 4
  · rw [if_pos hshort]
    refine iff_of_false Bool.false_ne_true ?_
    rintro ⟨i, hi, -⟩
    omega
  · rw [if_neg hshort]
    simp only [List.any_eq_true, List.mem_range, Bool.or_eq_true, decide_eq_true_eq]
    constructor
    · rintro ⟨i, hi, ⟨hfirst, hsecond, hthird⟩ | ⟨hlong, hfirst, hsecond, hthird, hfourth⟩⟩
      · exact ⟨i, by omega, hasCode_at (by omega) hfirst hsecond hthird⟩
      · exact ⟨i + 1, by omega, hasCode_at (by omega) hsecond hthird hfourth⟩
    · rintro ⟨i, hi, hcode⟩
      rw [take_three_iff, byteAt_drop, byteAt_drop, byteAt_drop] at hcode
      exact ⟨i, by omega, Or.inl hcode.2⟩

/-- The search from `start` finds the next code that has something behind it. -/
theorem nextStartCode_eq {data : List UInt8} {start : ℕ} (h : start ≤ data.length) :
    nextStartCode data start = start + toNextCode (data.drop start) := by
  unfold nextStartCode
  generalize hcount : data.length - 3 - start = count
  -- induction on the positions that are left to try
  induction count generalizing start with
  | zero =>
    rw [toNextCode_of_short (by rw [List.length_drop]; omega), List.length_drop]
    show data.length = start + (data.length - start)
    omega
  | succ count ih =>
    have hahead := codeAhead_drop data start
    rw [decide_eq_true (by omega), Bool.true_and] at hahead
    rw [List.range'_succ, List.find?_cons, ← hahead, toNextCode_drop (by omega)]
    -- found here, or one byte further than in the rest
    cases codeAhead (data.drop start) with
    | true => rfl
    | false =>
      rw [if_neg Bool.false_ne_true]
      have hrest := @ih (start + 1) (by omega) (by omega)
      simp only
      rw [hrest]
      omega

/-! ## The module's loop -/

/-- With a round for every byte left, the module's loop reports the units of the stream. -/
theorem VideoModule.forEachNalAnnexB_eq {data : List UInt8} {fuel index : ℕ}
    (hfuel : data.length - index ≤ fuel) :
    VideoModule.forEachNalAnnexB data fuel index = nalUnits (data.drop index) := by
  -- the fuel covers the bytes that are left, and every round uses one
  induction fuel generalizing index with
  | zero =>
    rw [nalUnits_of_short (by rw [List.length_drop]; omega)]
    rfl
  | succ fuel ih =>
    unfold VideoModule.forEachNalAnnexB
    by_cases hlong : index + 3 < data.length
    · rw [if_pos hlong]
      cases hcode : is_start_code data index with
      | none =>
        simp only
        rw [ih (by omega)]
        rw [is_start_code_eq] at hcode
        rw [nalUnits_of_none hcode, List.tail_drop]
      | some n =>
        simp only
        rw [is_start_code_eq] at hcode
        have hfront := startCodeLen_eq_some hcode
        have hpos := startCodeLen_pos hcode
        rw [List.length_drop] at hfront
        have hend := toNextCode_le_length (data.drop (index + n))
        rw [List.length_drop] at hend
        rw [nalUnits_of_some (by rw [List.length_drop]; omega) hcode, List.drop_drop,
          nextStartCode_eq (by omega), Nat.add_sub_cancel_left, ih (by omega),
          ← List.drop_drop (i := toNextCode _), nalUnits_drop]
        -- an empty unit is skipped by the loop and by the stream alike
        by_cases hzero : toNextCode (data.drop (index + n)) = 0
        · rw [if_neg (by omega), if_pos ((toNextCode_eq_zero_iff _).mp hzero), List.nil_append]
        · rw [if_pos (by omega), if_neg (mt (toNextCode_eq_zero_iff _).mpr hzero)]
          rfl
    · rw [if_neg hlong, nalUnits_of_short (by rw [List.length_drop]; omega)]

/-! ## The encoder's loop -/

/-- A start code directly behind a start code, longer than three bytes or with something
behind it. -/
def BackToBack (data : List UInt8) : Prop :=
  ∃ i n m, is_start_code data i = some n ∧ is_start_code data (i + n) = some m ∧
    i + n + 3 < data.length

/-- The same from `index` on. -/
def BackToBackFrom (data : List UInt8) (index : ℕ) : Prop :=
  ∃ i ≥ index, ∃ n, is_start_code data i = some n ∧ codeAhead (data.drop (i + n)) = true

theorem backToBackFrom_zero (data : List UInt8) : BackToBackFrom data 0 ↔ BackToBack data := by
  constructor
  · rintro ⟨i, -, n, hcode, hahead⟩
    rw [codeAhead_drop, Bool.and_eq_true, decide_eq_true_eq, Option.isSome_iff_exists] at hahead
    obtain ⟨hlong, m, hnext⟩ := hahead
    exact ⟨i, n, m, hcode, hnext, hlong⟩
  · rintro ⟨i, n, m, hcode, hnext, hlong⟩
    refine ⟨i, Nat.zero_le i, n, hcode, ?_⟩
    rw [codeAhead_drop, decide_eq_true hlong, hnext]
    rfl

theorem is_start_code_eq_some {data : List UInt8} {i n : ℕ} (h : is_start_code data i = some n) :
    byteAt data i = 0 ∧ byteAt data (i + 1) = 0 ∧
      (n = 3 ∧ byteAt data (i + 2) = 1 ∨
        n = 4 ∧ byteAt data (i + 2) = 0 ∧ byteAt data (i + 3) = 1) := by
  unfold is_start_code at h
  split_ifs at h with hthree hfour
  · cases h
    exact ⟨hthree.2.1, hthree.2.2.1, Or.inl ⟨rfl, hthree.2.2.2⟩⟩
  · cases h
    exact ⟨hfour.2.1, hfour.2.2.1, Or.inr ⟨rfl, hfour.2.2.2⟩⟩

/-- A start code that begins inside another one ends where that one ends. -/
theorem is_start_code_inside {data : List UInt8} {i k n m : ℕ}
    (hcode : is_start_code data i = some n) (hinside : is_start_code data k = some m)
    (hlow : i < k) (hhigh : k < i + n) : k + m = i + n := by
  have hne : (0 : UInt8) ≠ 1 := by decide
  obtain ⟨hk0, hk1, hk⟩ := is_start_code_eq_some hinside
  obtain ⟨-, -, ⟨rfl, hi2⟩ | ⟨rfl, hi2, hi3⟩⟩ := is_start_code_eq_some hcode
  -- the byte 1 that ends the outer code is the byte 1 that ends the inner one
  · rcases (by omega : k = i + 1 ∨ k = i + 2) with rfl | rfl
    · exact absurd (hk1.symm.trans hi2) hne
    · exact absurd (hk0.symm.trans hi2) hne
  · rcases (by omega : k = i + 1 ∨ k = i + 2 ∨ k = i + 3) with rfl | rfl | rfl
    · rcases hk with ⟨rfl, -⟩ | ⟨-, hk2, -⟩
      · omega
      · exact absurd (hk2.symm.trans hi3) hne
    · exact absurd (hk1.symm.trans hi3) hne
    · exact absurd (hk0.symm.trans hi3) hne

theorem not_backToBackFrom_of_short {data : List UInt8} {i : ℕ} (h : data.length ≤ i + 3) :
    ¬BackToBackFrom data i := by
  rintro ⟨k, hk, n, -, hahead⟩
  rw [codeAhead_drop, Bool.and_eq_true, decide_eq_true_eq] at hahead
  omega

/-- Behind a start code the pairs are this one with the next, and the later ones. -/
theorem backToBackFrom_some {data : List UInt8} {i n : ℕ} (hcode : is_start_code data i = some n) :
    BackToBackFrom data i ↔
      codeAhead (data.drop (i + n)) = true ∨ BackToBackFrom data (i + n) := by
  constructor
  · rintro ⟨k, hk, m, hcode', hahead⟩
    by_cases hsame : k = i
    · subst hsame
      rw [hcode] at hcode'
      cases hcode'
      exact Or.inl hahead
    · by_cases hinside : k < i + n
      · rw [is_start_code_inside hcode hcode' (by omega) hinside] at hahead
        exact Or.inl hahead
      · exact Or.inr ⟨k, Nat.not_lt.mp hinside, m, hcode', hahead⟩
  · rintro (hahead | ⟨k, hk, m, hcode', hahead⟩)
    · exact ⟨i, Nat.le_refl i, n, hcode, hahead⟩
    · exact ⟨k, by omega, m, hcode', hahead⟩

theorem backToBackFrom_none {data : List UInt8} {i : ℕ} (hcode : is_start_code data i = none) :
    BackToBackFrom data i ↔ BackToBackFrom data (i + 1) := by
  constructor
  · rintro ⟨k, hk, m, hcode', hahead⟩
    have hne : k ≠ i := by
      rintro rfl
      rw [hcode] at hcode'
      cases hcode'
    exact ⟨k, by omega, m, hcode', hahead⟩
  · rintro ⟨k, hk, m, hcode', hahead⟩
    exact ⟨k, by omega, m, hcode', hahead⟩

/-- A list of units with further ones in between, each with a first byte 0. -/
inductive Padded : List (List UInt8) → List (List UInt8) → Prop where
  | nil : Padded [] []
  | unit {units reported : List (List UInt8)} (nal : List UInt8) :
      Padded units reported → Padded (nal :: units) (nal :: reported)
  | extra {units reported : List (List UInt8)} {nal : List UInt8} :
      byteAt nal 0 = 0 → Padded units reported → Padded units (nal :: reported)

theorem Padded.length_le {units reported : List (List UInt8)} (h : Padded units reported) :
    units.length ≤ reported.length := by
  induction h with
  | nil => exact Nat.le_refl _
  | unit nal _ ih => exact Nat.succ_le_succ ih
  | extra _ _ ih => exact Nat.le_succ_of_le ih

/-- A loop that skips units with a first byte 0 does not see the padding. -/
theorem Padded.foldl_eq {σ : Type*} {units reported : List (List UInt8)}
    (h : Padded units reported) {f : σ → List UInt8 → σ}
    (hskip : ∀ s nal, byteAt nal 0 = 0 → f s nal = s) (s : σ) :
    reported.foldl f s = units.foldl f s := by
  induction h generalizing s with
  | nil => rfl
  | unit nal _ ih => exact ih (f s nal)
  | extra hzero _ ih =>
    rw [List.foldl_cons, hskip s _ hzero]
    exact ih s

/-- The encoder's loop reports the units of the stream, with an extra one for each pair of
start codes. -/
theorem VideoEncoder.forEachNalAnnexB_padded {data : List UInt8} {fuel i : ℕ}
    (hfuel : data.length - i ≤ fuel) :
    Padded (nalUnits (data.drop i)) (VideoEncoder.forEachNalAnnexB data fuel i) ∧
      (VideoEncoder.forEachNalAnnexB data fuel i = nalUnits (data.drop i) ↔
        ¬BackToBackFrom data i) := by
  -- the fuel covers the bytes that are left, and every round uses one
  induction fuel generalizing i with
  | zero =>
    rw [nalUnits_of_short (by rw [List.length_drop]; omega)]
    exact ⟨Padded.nil, iff_of_true rfl (not_backToBackFrom_of_short (by omega))⟩
  | succ fuel ih =>
    unfold VideoEncoder.forEachNalAnnexB
    by_cases hlong : i + 3 < data.length
    · rw [if_pos hlong]
      cases hcode : is_start_code data i with
      | none =>
        simp only
        rw [backToBackFrom_none hcode]
        rw [is_start_code_eq] at hcode
        rw [nalUnits_of_none hcode, List.tail_drop]
        exact ih (by omega)
      | some n =>
        simp only
        rw [backToBackFrom_some hcode]
        rw [is_start_code_eq] at hcode
        have hpos := startCodeLen_pos hcode
        obtain ⟨hpadded, hiff⟩ := ih (i := i + n) (by omega)
        rw [nalUnits_of_some (by rw [List.length_drop]; omega) hcode, List.drop_drop]
        by_cases hend : i + n ≥ data.length
        · -- the code ends the buffer: no unit behind it
          have hnil : data.drop (i + n) = [] := List.drop_eq_nil_of_le hend
          rw [if_pos hend]
          rw [hnil] at hpadded hiff ⊢
          simpa [codeAhead] using ⟨hpadded, hiff⟩
        · rw [if_neg hend]
          have hnil : (data.drop (i + n)).isEmpty = false := by
            simpa using Nat.not_le.mp hend
          cases hahead : codeAhead (data.drop (i + n)) with
          | true =>
            -- the scan from one byte on reports a unit where the stream has none
            rw [Bool.true_or, if_pos rfl, List.nil_append]
            refine ⟨Padded.extra ?_ hpadded, iff_of_false (fun heq => ?_) (by simp)⟩
            · apply byteAt_take_zero
              rw [codeAhead_drop, Bool.and_eq_true, Option.isSome_iff_exists] at hahead
              obtain ⟨-, m, hnext⟩ := hahead
              rw [byteAt_drop]
              exact (is_start_code_eq_some hnext).1
            · have hlen := hpadded.length_le
              have hsame := congrArg List.length heq
              rw [List.length_cons] at hsame
              omega
          | false =>
            -- no code directly behind: both scans find the same end
            have hnext : nextStartCode data (i + n + 1) - (i + n) =
                toNextCode (data.drop (i + n)) := by
              rw [nextStartCode_eq (by omega), toNextCode_drop (i := i + n) (by omega), hahead,
                if_neg Bool.false_ne_true]
              omega
            rw [hnext, hnil, Bool.false_or, if_neg Bool.false_ne_true, List.singleton_append]
            refine ⟨Padded.unit _ hpadded, ?_⟩
            rw [List.cons_inj_right, hiff]
            simp
    · rw [if_neg hlong, nalUnits_of_short (by rw [List.length_drop]; omega)]
      exact ⟨Padded.nil, iff_of_true rfl (not_backToBackFrom_of_short (by omega))⟩

end TeleopBridge.Video
