import Mathlib.Data.List.Basic
import Mathlib.Logic.Equiv.Defs

/-!
# Loops Whose Last Write Counts

A loop whose round `k` writes the cell `slot k`, or no cell. A cell holds what the last round
that names it wrote, and its old value if no round does.

## Key Results

- `getElem?_scatter_of_isLast`, `getElem?_scatter_of_forall_ne`: the cells after the loop.
- `scatter_perm`: rounds that name different cells can be run in any order.
-/

namespace TeleopBridge.Support

variable {α : Type*} {slot : ℕ → Option ℕ} {value : ℕ → α} {n j k : ℕ} {xs : List α}

/-! ## The last index -/

/-- `k` is the last index below `n` with `P`. -/
structure IsLast (P : ℕ → Prop) (n k : ℕ) : Prop where
  lt : k < n
  holds : P k
  last : ∀ j, k < j → j < n → ¬P j

variable {P : ℕ → Prop}

theorem IsLast.unique {k' : ℕ} (h : IsLast P n k) (h' : IsLast P n k') : k = k' := by
  rcases Nat.lt_trichotomy k k' with hlt | heq | hgt
  · exact absurd h'.holds (h.last k' hlt h'.lt)
  · exact heq
  · exact absurd h.holds (h'.last k hgt h.lt)

theorem IsLast.congr {Q : ℕ → Prop} (h : IsLast P n k) (hPQ : ∀ j < n, (P j ↔ Q j)) :
    IsLast Q n k :=
  ⟨h.lt, (hPQ k h.lt).mp h.holds, fun j hlt hj hQ => h.last j hlt hj ((hPQ j hj).mpr hQ)⟩

/-- Some index is the last one, or there is none. -/
theorem exists_isLast_or (P : ℕ → Prop) (n : ℕ) :
    (∃ k, IsLast P n k) ∨ ∀ k < n, ¬P k := by
  induction n with
  | zero => exact Or.inr fun k hk => absurd hk (Nat.not_lt_zero k)
  | succ n ih =>
    by_cases hn : P n
    · exact Or.inl ⟨n, Nat.lt_succ_self n, hn, fun j hlt hle => by omega⟩
    · -- the new index has no `P`, so nothing changes
      have hnew : ∀ j, n ≤ j → j < n + 1 → ¬P j := by
        intro j hge hlt
        rw [show j = n by omega]
        exact hn
      rcases ih with ⟨k, hk⟩ | hnone
      · refine Or.inl ⟨k, Nat.lt_succ_of_lt hk.lt, hk.holds, fun j hlt hle => ?_⟩
        by_cases hj : j < n
        · exact hk.last j hlt hj
        · exact hnew j (by omega) hle
      · refine Or.inr fun k hk => ?_
        by_cases hlt : k < n
        · exact hnone k hlt
        · exact hnew k (by omega) hk

/-- The only index with `P` is the last one. -/
theorem isLast_of_unique (hk : k < n) (hP : P k) (hunique : ∀ j < n, P j → j = k) :
    IsLast P n k :=
  ⟨hk, hP, fun j hlt hj hPj => by
    have := hunique j hj hPj
    omega⟩

/-! ## The loop -/

/-- One round: it writes its value to the cell that it names. -/
def scatterRound (slot : ℕ → Option ℕ) (value : ℕ → α) (xs : List α) (k : ℕ) : List α :=
  match slot k with
  | some j => xs.set j (value k)
  | none => xs

/-- `for (k = 0; k < n; ++k) if (slot(k)) xs[*slot(k)] = value(k);` -/
def scatter (slot : ℕ → Option ℕ) (value : ℕ → α) (n : ℕ) (xs : List α) : List α :=
  (List.range n).foldl (scatterRound slot value) xs

theorem scatter_succ (slot : ℕ → Option ℕ) (value : ℕ → α) (n : ℕ) (xs : List α) :
    scatter slot value (n + 1) xs = scatterRound slot value (scatter slot value n xs) n := by
  unfold scatter
  rw [List.range_succ, List.foldl_append, List.foldl_cons, List.foldl_nil]

@[simp] theorem length_scatterRound (slot : ℕ → Option ℕ) (value : ℕ → α) (xs : List α)
    (k : ℕ) : (scatterRound slot value xs k).length = xs.length := by
  unfold scatterRound
  cases slot k with
  | none => rfl
  | some j => exact List.length_set

@[simp] theorem length_scatter (slot : ℕ → Option ℕ) (value : ℕ → α) (n : ℕ) (xs : List α) :
    (scatter slot value n xs).length = xs.length := by
  induction n with
  | zero => rfl
  | succ n ih => rw [scatter_succ, length_scatterRound, ih]

theorem getElem?_scatterRound_of_eq (hslot : slot k = some j) (hj : j < xs.length) :
    (scatterRound slot value xs k)[j]? = some (value k) := by
  simp only [scatterRound, hslot]
  exact List.getElem?_set_self hj

theorem getElem?_scatterRound_of_ne (hslot : slot k ≠ some j) :
    (scatterRound slot value xs k)[j]? = xs[j]? := by
  unfold scatterRound
  cases hk : slot k with
  | none => rfl
  | some i =>
    have hij : i ≠ j := fun heq => hslot (heq ▸ hk)
    exact List.getElem?_set_ne hij

/-- A cell that no round names keeps its value. -/
theorem getElem?_scatter_of_forall_ne (hslot : ∀ k < n, slot k ≠ some j) :
    (scatter slot value n xs)[j]? = xs[j]? := by
  induction n with
  | zero => rfl
  | succ n ih =>
    rw [scatter_succ, getElem?_scatterRound_of_ne (hslot n (Nat.lt_succ_self n))]
    exact ih fun k hk => hslot k (Nat.lt_succ_of_lt hk)

/-- A cell holds what the last round that names it wrote. -/
theorem getElem?_scatter_of_isLast (hlast : IsLast (fun k => slot k = some j) n k)
    (hj : j < xs.length) : (scatter slot value n xs)[j]? = some (value k) := by
  obtain ⟨hk, hslot, hlater⟩ := hlast
  induction n with
  | zero => exact absurd hk (Nat.not_lt_zero k)
  | succ n ih =>
    rw [scatter_succ]
    by_cases hround : k = n
    · subst hround
      exact getElem?_scatterRound_of_eq hslot (by rw [length_scatter]; exact hj)
    · -- a round behind `k` names another cell
      have hn : slot n ≠ some j := hlater n (by omega) (Nat.lt_succ_self n)
      rw [getElem?_scatterRound_of_ne hn]
      exact ih (by omega) fun i hlt hi => hlater i hlt (Nat.lt_succ_of_lt hi)

/-! ## The order of the rounds -/

/-- Rounds that name different cells write the same in any order. -/
theorem scatter_perm (σ : Equiv.Perm ℕ) (hσ : ∀ k, σ k < n ↔ k < n)
    (hslot : ∀ i < n, ∀ k < n, ∀ j, slot i = some j → slot k = some j → i = k) :
    scatter (fun k => slot (σ k)) (fun k => value (σ k)) n xs = scatter slot value n xs := by
  apply List.ext_getElem?
  intro j
  by_cases hj : j < xs.length
  · rcases exists_isLast_or (fun k => slot k = some j) n with ⟨k, hk⟩ | hnone
    · -- the only round that names the cell is `k`, and `σ` runs it as round `σ.symm k`
      have hback : IsLast (fun i => slot (σ i) = some j) n (σ.symm k) := by
        apply isLast_of_unique
        · rw [← hσ, Equiv.apply_symm_apply]
          exact hk.lt
        · show slot (σ (σ.symm k)) = some j
          rw [Equiv.apply_symm_apply]
          exact hk.holds
        · intro i hi hslot_i
          have heq : σ i = k := hslot (σ i) ((hσ i).mpr hi) k hk.lt j hslot_i hk.holds
          rw [← heq, Equiv.symm_apply_apply]
      rw [getElem?_scatter_of_isLast hk hj, getElem?_scatter_of_isLast hback hj,
        Equiv.apply_symm_apply]
    · rw [getElem?_scatter_of_forall_ne hnone,
        getElem?_scatter_of_forall_ne fun k hk => hnone (σ k) ((hσ k).mpr hk)]
  · rw [List.getElem?_eq_none (by simpa using hj), List.getElem?_eq_none (by simpa using hj)]

end TeleopBridge.Support
