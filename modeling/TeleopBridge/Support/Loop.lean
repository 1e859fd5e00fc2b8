import Mathlib.Data.List.Basic
import Mathlib.Data.List.Range
import Mathlib.Tactic

/-!
# Counted Loops over Lists and Indices

The loop shapes of an imperative source, as functions with their closed forms:

- `forStride` is `for (i = start; i < bound; i += step)`; `forStride_eq_foldl` says
  which indices it visits.
- `modifyRange` is `for (i = 0; i < n; ++i) xs[i] = g(i, xs[i])`.
- `modifyRowMajor` is the two nested loops that visit `xs[row * cols + col]`.
- `repeatStep` is a `while` loop whose body says itself when to stop; `repeatStep_exit`
  is its termination under a decreasing measure.
-/

namespace TeleopBridge.Support

variable {α σ : Type*}

/-! ## Strided loops -/

/-- The loop body runs while the index is below the bound; `fuel` bounds the
iterations and `forStride` gives enough of it. -/
def forStrideFuel (step bound : ℕ) (body : ℕ → σ → σ) : ℕ → ℕ → σ → σ
  | 0, _, s => s
  | fuel + 1, i, s =>
      if i < bound then forStrideFuel step bound body fuel (i + step) (body i s) else s

/-- `for (i = start; i < bound; i += step) s = body(i, s);` -/
def forStride (start bound step : ℕ) (body : ℕ → σ → σ) (s : σ) : σ :=
  forStrideFuel step bound body (bound - start) start s

/-- The number of indices `start, start + step, ...` below `bound`. -/
def strideCount (start bound step : ℕ) : ℕ := (bound - start + step - 1) / step

theorem strideCount_of_le {start bound step : ℕ} (hstep : 0 < step) (h : bound ≤ start) :
    strideCount start bound step = 0 := by
  rw [strideCount, Nat.sub_eq_zero_of_le h, Nat.zero_add]
  exact Nat.div_eq_of_lt (by omega)

theorem strideCount_of_lt {start bound step : ℕ} (hstep : 0 < step) (h : start < bound) :
    strideCount start bound step = strideCount (start + step) bound step + 1 := by
  simp only [strideCount]
  by_cases hnext : start + step ≤ bound
  · have : bound - start + step - 1 = bound - (start + step) + step - 1 + step := by omega
    rw [this, Nat.add_div_right _ hstep]
  · have hzero : bound - (start + step) = 0 := by omega
    have hone : (bound - start + step - 1) / step = 1 :=
      Nat.div_eq_of_lt_le (by omega) (by omega)
    rw [hone, hzero, Nat.zero_add, Nat.div_eq_of_lt (by omega)]

theorem lt_strideCount_iff {start bound step p : ℕ} (hstep : 0 < step) :
    p < strideCount start bound step ↔ start + p * step < bound := by
  rw [strideCount, Nat.lt_iff_add_one_le, Nat.le_div_iff_mul_le hstep, Nat.add_mul]
  omega

theorem foldl_range_succ (f : σ → ℕ → σ) (n : ℕ) (s : σ) :
    (List.range (n + 1)).foldl f s = (List.range n).foldl (fun s p => f s (p + 1)) (f s 0) := by
  rw [List.range_succ_eq_map, List.foldl_cons, List.foldl_map]

theorem forStrideFuel_eq_foldl {bound step : ℕ} (hstep : 0 < step) (body : ℕ → σ → σ)
    (fuel start : ℕ) (s : σ) (hfuel : bound - start ≤ fuel) :
    forStrideFuel step bound body fuel start s =
      (List.range (strideCount start bound step)).foldl
        (fun s p => body (start + p * step) s) s := by
  induction fuel generalizing start s with
  | zero =>
    rw [strideCount_of_le hstep (by omega)]
    rfl
  | succ fuel ih =>
    by_cases h : start < bound
    · rw [forStrideFuel, if_pos h, ih _ _ (by omega), strideCount_of_lt hstep h, foldl_range_succ]
      simp only [Nat.zero_mul, Nat.add_zero, Nat.add_mul, Nat.one_mul, Nat.add_assoc,
        Nat.add_comm step]
    · rw [forStrideFuel, if_neg h, strideCount_of_le hstep (by omega)]
      rfl

/-- The indices a strided loop visits, in order. -/
theorem forStride_eq_foldl {start bound step : ℕ} (hstep : 0 < step) (body : ℕ → σ → σ) (s : σ) :
    forStride start bound step body s =
      (List.range (strideCount start bound step)).foldl (fun s p => body (start + p * step) s) s :=
  forStrideFuel_eq_foldl hstep body _ start s le_rfl

/-! ## Array cells -/

theorem getD_set_self {xs : List α} {i : ℕ} (hi : i < xs.length) (v d : α) :
    (xs.set i v).getD i d = v := by
  simp [List.getD_eq_getElem?_getD, hi]

theorem getD_set_of_ne (xs : List α) {i j : ℕ} (hij : i ≠ j) (v d : α) :
    (xs.set i v).getD j d = xs.getD j d := by
  simp [List.getD_eq_getElem?_getD, hij]

/-! ## Loops that update a list in place -/

/-- `for (i = 0; i < n; ++i) xs[offset + i] = g(i, xs[offset + i]);` -/
def modifyRange (offset n : ℕ) (g : ℕ → α → α) (xs : List α) : List α :=
  (List.range n).foldl (fun acc i => acc.modify (offset + i) (g i)) xs

/-- `for (row) for (col) xs[row * cols + col] = g(row, col, xs[row * cols + col]);` -/
def modifyRowMajor (rows cols : ℕ) (g : ℕ → ℕ → α → α) (xs : List α) : List α :=
  (List.range rows).foldl (fun acc row => modifyRange (row * cols) cols (g row) acc) xs

@[simp] theorem modifyRange_zero (offset : ℕ) (g : ℕ → α → α) (xs : List α) :
    modifyRange offset 0 g xs = xs := rfl

theorem modifyRange_succ (offset n : ℕ) (g : ℕ → α → α) (xs : List α) :
    modifyRange offset (n + 1) g xs = (modifyRange offset n g xs).modify (offset + n) (g n) := by
  simp [modifyRange, List.range_succ]

@[simp] theorem length_modifyRange (offset n : ℕ) (g : ℕ → α → α) (xs : List α) :
    (modifyRange offset n g xs).length = xs.length := by
  induction n with
  | zero => rfl
  | succ n ih => rw [modifyRange_succ, List.length_modify, ih]

theorem getElem?_modifyRange (offset n : ℕ) (g : ℕ → α → α) (xs : List α) (j : ℕ) :
    (modifyRange offset n g xs)[j]? =
      if offset ≤ j ∧ j < offset + n then xs[j]?.map (g (j - offset)) else xs[j]? := by
  induction n with
  | zero =>
    rw [modifyRange_zero, if_neg (by omega)]
  | succ n ih =>
    rw [modifyRange_succ, List.getElem?_modify, ih]
    -- the last round writes `offset + n`, all others wrote before it
    by_cases hlast : offset + n = j
    · subst hlast
      rw [if_neg (by omega), if_pos (by omega), Nat.add_sub_cancel_left]
      simp only [if_true]
      rfl
    · by_cases hin : offset ≤ j ∧ j < offset + n
      · rw [if_pos hin, if_pos (by omega)]
        simp [hlast]
      · rw [if_neg hin, if_neg (by omega)]
        simp [hlast]

theorem modifyRowMajor_succ (rows cols : ℕ) (g : ℕ → ℕ → α → α) (xs : List α) :
    modifyRowMajor (rows + 1) cols g xs =
      modifyRange (rows * cols) cols (g rows) (modifyRowMajor rows cols g xs) := by
  simp [modifyRowMajor, List.range_succ]

@[simp] theorem length_modifyRowMajor (rows cols : ℕ) (g : ℕ → ℕ → α → α) (xs : List α) :
    (modifyRowMajor rows cols g xs).length = xs.length := by
  induction rows with
  | zero => rfl
  | succ rows ih => rw [modifyRowMajor_succ, length_modifyRange, ih]

theorem getElem?_modifyRowMajor_of_le (rows cols : ℕ) (g : ℕ → ℕ → α → α) (xs : List α) {j : ℕ}
    (hj : rows * cols ≤ j) : (modifyRowMajor rows cols g xs)[j]? = xs[j]? := by
  induction rows with
  | zero => rfl
  | succ rows ih =>
    rw [Nat.add_mul, Nat.one_mul] at hj
    rw [modifyRowMajor_succ, getElem?_modifyRange, if_neg (by omega)]
    exact ih (by omega)

/-- Each cell is updated exactly once, by the iteration that owns it. -/
theorem getElem?_modifyRowMajor {rows cols row col : ℕ} (hrow : row < rows) (hcol : col < cols)
    (g : ℕ → ℕ → α → α) (xs : List α) :
    (modifyRowMajor rows cols g xs)[row * cols + col]? =
      xs[row * cols + col]?.map (g row col) := by
  induction rows with
  | zero => exact absurd hrow (Nat.not_lt_zero row)
  | succ rows ih =>
    rw [modifyRowMajor_succ, getElem?_modifyRange]
    -- an earlier row is not touched by the last one
    rcases Nat.lt_or_ge row rows with hlt | hge
    · have hbelow : row * cols + cols ≤ rows * cols := by
        rw [← Nat.succ_mul]
        exact Nat.mul_le_mul_right cols hlt
      rw [if_neg (by omega)]
      exact ih hlt
    · have hlast : row = rows := by omega
      subst hlast
      rw [if_pos (by omega), Nat.add_sub_cancel_left,
        getElem?_modifyRowMajor_of_le row cols g xs (Nat.le_add_right _ _)]

/-! ## Nested counting loops -/

/-- Two nested counting loops visit the quotients and remainders of one counter. -/
theorem flatMap_range_map {β : Type*} (rows cols : ℕ) (f : ℕ → ℕ → β) :
    ((List.range rows).flatMap fun row => (List.range cols).map (f row)) =
      (List.range (rows * cols)).map fun k => f (k / cols) (k % cols) := by
  induction rows with
  | zero => simp
  | succ rows ih =>
    have hsplit : List.range ((rows + 1) * cols) =
        List.range (rows * cols) ++ (List.range cols).map (rows * cols + ·) := by
      rw [Nat.succ_mul, List.range_add]
    rw [List.range_succ, List.flatMap_append, ih, hsplit, List.map_append, List.map_map]
    simp only [List.flatMap_cons, List.flatMap_nil, List.append_nil]
    congr 1
    refine List.map_congr_left fun col hcol => ?_
    have hlt : col < cols := List.mem_range.mp hcol
    have hpos : 0 < cols := by omega
    show f rows col = f ((rows * cols + col) / cols) ((rows * cols + col) % cols)
    rw [Nat.mul_add_mod_self_right, Nat.mod_eq_of_lt hlt, Nat.mul_comm rows cols,
      Nat.mul_add_div hpos, Nat.div_eq_of_lt hlt, Nat.add_zero]

/-! ## Loops that stop by themselves -/

/-- `while (step applies) s = step(s);`, where `fuel` bounds the iterations. -/
def repeatStep (step : σ → Option σ) : ℕ → σ → σ
  | 0, s => s
  | fuel + 1, s =>
      match step s with
      | none => s
      | some s' => repeatStep step fuel s'

/-- What every iteration preserves, the loop preserves. -/
theorem repeatStep_invariant {step : σ → Option σ} {P : σ → Prop}
    (hstep : ∀ s s', P s → step s = some s' → P s') (fuel : ℕ) {s : σ} (hs : P s) :
    P (repeatStep step fuel s) := by
  induction fuel generalizing s with
  | zero => exact hs
  | succ fuel ih =>
    unfold repeatStep
    cases hnext : step s with
    | none => exact hs
    | some s' => exact ih (hstep s s' hs hnext)

/-- A loop relates its input and output by any preorder that its iterations respect. -/
theorem repeatStep_rel {step : σ → Option σ} {R : σ → σ → Prop} (hrefl : ∀ s, R s s)
    (htrans : ∀ s t u, R s t → R t u → R s u) (hstep : ∀ s s', step s = some s' → R s s')
    (fuel : ℕ) (s : σ) : R s (repeatStep step fuel s) := by
  refine repeatStep_invariant (P := R s) ?_ fuel (hrefl s)
  intro t u ht htu
  exact htrans s t u ht (hstep t u htu)

/-- With a measure that every iteration decreases and enough fuel, the loop has run to
its exit: the step no longer applies. -/
theorem repeatStep_exit {step : σ → Option σ} (μ : σ → ℕ)
    (hdec : ∀ s s', step s = some s' → μ s' < μ s) (fuel : ℕ) (s : σ) (hfuel : μ s ≤ fuel) :
    step (repeatStep step fuel s) = none := by
  induction fuel generalizing s with
  -- no fuel is left when the measure is zero, and then no step is
  | zero =>
    show step s = none
    cases hnext : step s with
    | none => rfl
    | some s' =>
      have := hdec s s' hnext
      omega
  | succ fuel ih =>
    unfold repeatStep
    cases hnext : step s with
    | none => exact hnext
    | some s' =>
      have := hdec s s' hnext
      exact ih s' (by omega)

end TeleopBridge.Support
