import Mathlib.Algebra.Order.Group.Nat
import TeleopBridge.Support.Transition

/-!
# Endless Runs and Fairness

What must happen in the end, in a system that may rest at any moment but is not allowed to
keep an action waiting forever.

## Key Results

- `leadsTo_of_fair`: what a fair action leads to.
- `leadsTo_of_rank`: a rank that keeps falling leads to the end.
- `ofRun_fair`: a run that rests in its last state is fair to what does not wait there.
-/

namespace TeleopBridge.Support

variable {σ α : Type*} {step : σ → α → Option σ}

/-- A run without end; without an action the system rests. -/
structure Execution (step : σ → α → Option σ) where
  state : ℕ → σ
  action : ℕ → Option α
  next (i : ℕ) : match action i with
    | none => state (i + 1) = state i
    | some a => step (state i) a = some (state (i + 1))

namespace Execution

variable (e : Execution step) {P Q waiting : σ → Prop} {kind : α → Prop}

/-- Whenever `P` holds, `Q` holds then or later. -/
def LeadsTo (P Q : σ → Prop) : Prop := ∀ i, P (e.state i) → ∃ j, i ≤ j ∧ Q (e.state j)

/-- An action of this kind is not kept waiting forever. -/
def Fair (waiting : σ → Prop) (kind : α → Prop) : Prop :=
  ∀ i, (∀ j, i ≤ j → waiting (e.state j)) → ∃ j a, i ≤ j ∧ e.action j = some a ∧ kind a

variable {e}

/-- A moment of an execution: it rests, or takes a step. -/
theorem next_cases (i : ℕ) :
    e.action i = none ∧ e.state (i + 1) = e.state i ∨
      ∃ a, e.action i = some a ∧ step (e.state i) a = some (e.state (i + 1)) := by
  have hnext := e.next i
  cases haction : e.action i with
  | none =>
    rw [haction] at hnext
    exact .inl ⟨rfl, hnext⟩
  | some a =>
    rw [haction] at hnext
    exact .inr ⟨a, rfl, hnext⟩

/-- What every step preserves holds from then on. -/
theorem stable (hstep : ∀ s a s', P s → step s a = some s' → P s') {i j : ℕ} (hij : i ≤ j)
    (hi : P (e.state i)) : P (e.state j) := by
  induction j, hij using Nat.le_induction with
  | base => exact hi
  | succ j _ ih =>
    rcases e.next_cases j with ⟨-, hrest⟩ | ⟨a, -, ha⟩
    · rwa [hrest]
    · exact hstep _ a _ ih ha

/-- While `P` holds an action of the kind waits, and a step reaches `Q` or keeps `P` and is
of another kind. -/
theorem leadsTo_of_fair (hfair : e.Fair waiting kind) (hwaiting : ∀ s, P s → waiting s)
    (hstep : ∀ s a s', P s → step s a = some s' → Q s' ∨ P s' ∧ ¬ kind a) : e.LeadsTo P Q := by
  intro i hi
  by_contra hnever
  have hnot (j : ℕ) (hij : i ≤ j) : ¬ Q (e.state j) := fun hj => hnever ⟨j, hij, hj⟩
  -- until `Q` holds, every step keeps `P`
  have hkeeps (j : ℕ) (hij : i ≤ j) : P (e.state j) := by
    induction j, hij using Nat.le_induction with
    | base => exact hi
    | succ j hij ih =>
      rcases e.next_cases j with ⟨-, hrest⟩ | ⟨a, -, ha⟩
      · rwa [hrest]
      · have hlater := hnot (j + 1) (hij.trans j.le_succ)
        exact ((hstep _ a _ ih ha).resolve_left hlater).1
  -- so the actor waits forever, and fairness lets it act
  obtain ⟨j, a, hij, haction, hkind⟩ := hfair i fun j hij => hwaiting _ (hkeeps j hij)
  rcases e.next_cases j with ⟨hnone, -⟩ | ⟨b, hb, hj⟩
  · cases hnone.symm.trans haction
  · obtain rfl : b = a := Option.some.inj (hb.symm.trans haction)
    have hlater := hnot (j + 1) (hij.trans j.le_succ)
    exact ((hstep _ b _ (hkeeps j hij) hj).resolve_left hlater).2 hkind

/-- A rank that falls until `Q` holds. -/
theorem leadsTo_of_rank (rank : σ → ℕ)
    (hfalls : ∀ r, e.LeadsTo (fun s => P s ∧ rank s = r) fun s => Q s ∨ P s ∧ rank s < r) :
    e.LeadsTo P Q := by
  have hall (r : ℕ) : e.LeadsTo (fun s => P s ∧ rank s = r) Q := by
    induction r using Nat.strong_induction_on with
    | _ r ih =>
      intro i hi
      obtain ⟨j, hij, hj | ⟨hj, hlt⟩⟩ := hfalls r i hi
      · exact ⟨j, hij, hj⟩
      · obtain ⟨k, hjk, hk⟩ := ih _ hlt j ⟨hj, rfl⟩
        exact ⟨k, hij.trans hjk, hk⟩
  exact fun i hi => hall _ i ⟨hi, rfl⟩

/-! ## Finite runs -/

variable {s t : σ} {as : List α}

/-- A run that rests in its last state. -/
def ofRun (hrun : runSteps step s as = some t) : Execution step where
  state i := (runSteps step s (as.take i)).getD t
  action i := as[i]?
  next i := by
    cases haction : as[i]? with
    -- behind the run the execution stands still
    | none =>
      have hend : as.length ≤ i := List.getElem?_eq_none_iff.mp haction
      simp only
      rw [List.take_of_length_le hend, List.take_of_length_le (hend.trans i.le_succ)]
    | some a =>
      have hsplit : as.take (i + 1) = as.take i ++ [a] := by
        rw [List.take_add_one, haction]
        rfl
      have hall : runSteps step s (as.take (i + 1) ++ as.drop (i + 1)) = some t := by
        rwa [List.take_append_drop]
      obtain ⟨v, hv, -⟩ := runSteps_append.mp hall
      have hu := hv
      rw [hsplit] at hu
      obtain ⟨u, hprior, hlast⟩ := runSteps_append.mp hu
      obtain ⟨w, hw, hend⟩ := runSteps_cons_eq_some.mp hlast
      cases hend
      simp only
      rw [hprior, hv]
      exact hw

@[simp] theorem state_ofRun_of_le (hrun : runSteps step s as = some t) {i : ℕ}
    (hend : as.length ≤ i) : (ofRun hrun).state i = t := by
  unfold ofRun
  simp only
  rw [List.take_of_length_le hend, hrun, Option.getD_some]

/-- Such a run is fair to what does not wait in its last state. -/
theorem ofRun_fair (hrun : runSteps step s as = some t) (hrest : ¬ waiting t) :
    (ofRun hrun).Fair waiting kind := by
  intro i hwaits
  have hlast := hwaits (max i as.length) (le_max_left _ _)
  rw [state_ofRun_of_le hrun (le_max_right _ _)] at hlast
  exact absurd hlast hrest

end Execution

end TeleopBridge.Support
