import Mathlib.LinearAlgebra.Lagrange
import Mathlib.LinearAlgebra.Matrix.ToLinearEquiv
import Mathlib.LinearAlgebra.Matrix.Nondegenerate

/-!
# Cauchy Systems

A Cauchy system has the coefficients `1 / (x i - y k)`, with the `x i` pairwise
distinct, the `y k` pairwise distinct, and no `x i` equal to a `y k`.

## Key Result

`cauchy_kernel_trivial`: a Cauchy system with at least as many equations as unknowns
has only the zero solution. Clearing denominators turns a solution into a polynomial
that has more roots than its degree allows.
-/

namespace TeleopBridge.Support

open Polynomial

variable {K ι κ : Type*} [Field K] [DecidableEq ι]

/-- `∑ c i / (X - x i)` with its denominators cleared. -/
noncomputable def cauchyNumerator (cols : Finset ι) (x c : ι → K) : K[X] :=
  ∑ i ∈ cols, c i • Lagrange.nodal (cols.erase i) x

theorem degree_cauchyNumerator_lt (cols : Finset ι) (x c : ι → K) :
    (cauchyNumerator cols x c).degree < cols.card := by
  refine lt_of_le_of_lt (degree_sum_le _ _) ((Finset.sup_lt_iff ?_).mpr ?_)
  · exact WithBot.bot_lt_coe _
  · intro i hi
    calc (c i • Lagrange.nodal (cols.erase i) x).degree
        ≤ (Lagrange.nodal (cols.erase i) x).degree := degree_smul_le _ _
      _ = (cols.erase i).card := Lagrange.degree_nodal
      _ < cols.card := by exact_mod_cast Finset.card_erase_lt_of_mem hi

/-- Away from the nodes, the numerator is the denominator times the sum. -/
theorem eval_cauchyNumerator {cols : Finset ι} {x c : ι → K} {y : K}
    (hy : ∀ i ∈ cols, x i ≠ y) :
    eval y (cauchyNumerator cols x c) =
      -(∏ i ∈ cols, (y - x i)) * ∑ i ∈ cols, c i * (x i - y)⁻¹ := by
  rw [cauchyNumerator, eval_finsetSum, Finset.mul_sum]
  refine Finset.sum_congr rfl fun i hi => ?_
  have hsub : x i - y ≠ 0 := sub_ne_zero.mpr (hy i hi)
  rw [eval_smul, smul_eq_mul, Lagrange.eval_nodal, ← Finset.mul_prod_erase cols _ hi]
  field_simp
  ring

/-- At a node only one summand survives. -/
theorem eval_cauchyNumerator_node {cols : Finset ι} {x c : ι → K} {i : ι} (hi : i ∈ cols) :
    eval (x i) (cauchyNumerator cols x c) = c i * ∏ j ∈ cols.erase i, (x i - x j) := by
  rw [cauchyNumerator, eval_finsetSum, Finset.sum_eq_single i]
  · rw [eval_smul, smul_eq_mul, Lagrange.eval_nodal]
  · intro j _ hji
    have hmem : i ∈ cols.erase j := Finset.mem_erase.mpr ⟨hji.symm, hi⟩
    rw [eval_smul, Lagrange.eval_nodal_at_node hmem, smul_zero]
  · exact fun h => absurd hi h

/-- A Cauchy system with at least as many equations as unknowns has only the zero solution. -/
theorem cauchy_kernel_trivial (cols : Finset ι) (rows : Finset κ) {x c : ι → K} {y : κ → K}
    (hx : Set.InjOn x cols) (hy : Set.InjOn y rows) (hxy : ∀ i ∈ cols, ∀ k ∈ rows, x i ≠ y k)
    (hcard : cols.card ≤ rows.card)
    (hzero : ∀ k ∈ rows, ∑ i ∈ cols, c i * (x i - y k)⁻¹ = 0) :
    ∀ i ∈ cols, c i = 0 := by
  intro i hi
  -- the numerator vanishes at every `y k`, and there are at least `cols.card` of them
  have hpoly : cauchyNumerator cols x c = 0 := by
    refine eq_zero_of_degree_lt_of_eval_index_eq_zero rows hy ?_ ?_
    · exact lt_of_lt_of_le (degree_cauchyNumerator_lt cols x c) (by exact_mod_cast hcard)
    · intro k hk
      rw [eval_cauchyNumerator fun j hj => hxy j hj k hk, hzero k hk, mul_zero]
  have hnode := eval_cauchyNumerator_node (x := x) (c := c) hi
  rw [hpoly, eval_zero] at hnode
  have hprod : ∏ j ∈ cols.erase i, (x i - x j) ≠ 0 := by
    refine Finset.prod_ne_zero_iff.mpr fun j hj => sub_ne_zero.mpr fun heq => ?_
    obtain ⟨hne, hjmem⟩ := Finset.mem_erase.mp hj
    exact hne (hx hi hjmem heq).symm
  exact (mul_eq_zero.mp hnode.symm).resolve_right hprod

/-- Every square Cauchy matrix is nonsingular. -/
theorem det_cauchy_ne_zero {n : ℕ} {x y : Fin n → K} (hx : Function.Injective x)
    (hy : Function.Injective y) (hxy : ∀ i k, x i ≠ y k) :
    (Matrix.of fun k i => (x i - y k)⁻¹).det ≠ 0 := by
  intro hdet
  obtain ⟨c, hc, hmul⟩ := Matrix.exists_mulVec_eq_zero_iff.mpr hdet
  refine hc (funext fun i => ?_)
  refine cauchy_kernel_trivial Finset.univ Finset.univ hx.injOn hy.injOn
    (fun i _ k _ => hxy i k) le_rfl ?_ i (Finset.mem_univ i)
  intro k _
  have hrow := congrFun hmul k
  simpa [Matrix.mulVec, dotProduct, mul_comm] using hrow

end TeleopBridge.Support
