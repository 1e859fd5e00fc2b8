import TeleopBridge.Support.Transition

/-!
# Noninterference

A system takes inputs of its own and inputs from outside. The inputs from outside do not
interfere when every run looks the same as the run that is left when they are purged.

## Key Results

- `unwinding_iff`: inputs whose effect no run can tell are exactly those that do not
  interfere.
-/

namespace TeleopBridge.Support

variable {σ α β ω : Type*}

/-- One input of either kind. -/
def stepBoth (step : σ → α → Option σ) (outside : σ → β → Option σ) (s : σ) : α ⊕ β → Option σ
  | .inl a => step s a
  | .inr b => outside s b

/-- A condition on the inputs from outside. -/
def OnOutside (cond : σ → β → Prop) (s : σ) : α ⊕ β → Prop
  | .inl _ => True
  | .inr b => cond s b

/-- The inputs of the system's own. -/
def purge : List (α ⊕ β) → List α
  | [] => []
  | .inl a :: xs => a :: purge xs
  | .inr _ :: xs => purge xs

/-- A relation between states that no run of the system's own tells apart. -/
structure Unwinding (step : σ → α → Option σ) (observe : σ → ω) (R : σ → σ → Prop) : Prop where
  refl : ∀ s, R s s
  trans : ∀ s t u, R s t → R t u → R s u
  step : ∀ s t a s', R s t → step s a = some s' → ∃ t', step t a = some t' ∧ R s' t'
  observe : ∀ s t, R s t → observe s = observe t

variable {step : σ → α → Option σ} {outside : σ → β → Option σ} {observe : σ → ω}
  {R : σ → σ → Prop} {cond : σ → β → Prop} {Base : σ → Prop}

/-- Every prefix of the run looks the same as the purged one. -/
def Noninterfering (step : σ → α → Option σ) (outside : σ → β → Option σ) (observe : σ → ω)
    (s t : σ) (xs : List (α ⊕ β)) : Prop :=
  ∀ prior u, prior <+: xs → runSteps (stepBoth step outside) s prior = some u →
    ∃ v, runSteps step t (purge prior) = some v ∧ observe v = observe u

theorem Noninterfering.cons_own {s s' t t' : σ} {a : α} {xs : List (α ⊕ β)}
    (hs : step s a = some s') (ht : step t a = some t') (hsame : observe t = observe s) :
    Noninterfering step outside observe s t (.inl a :: xs) ↔
      Noninterfering step outside observe s' t' xs := by
  constructor
  · intro hall prior u hprior hu
    obtain ⟨v, hv, hlook⟩ := hall (.inl a :: prior) u (List.cons_prefix_cons.mpr ⟨rfl, hprior⟩)
      (runSteps_cons_eq_some.mpr ⟨s', hs, hu⟩)
    obtain ⟨t'', ht'', hv⟩ := runSteps_cons_eq_some.mp hv
    rw [ht] at ht''
    cases ht''
    exact ⟨v, hv, hlook⟩
  · intro hall prior u hprior hu
    rcases List.prefix_cons_iff.mp hprior with rfl | ⟨rest, rfl, hprior'⟩
    · cases hu
      exact ⟨t, rfl, hsame⟩
    · obtain ⟨s'', hs'', hu⟩ := runSteps_cons_eq_some.mp hu
      rw [show stepBoth step outside s (.inl a) = some s' from hs] at hs''
      cases hs''
      obtain ⟨v, hv, hlook⟩ := hall rest u hprior' hu
      exact ⟨v, runSteps_cons_eq_some.mpr ⟨t', ht, hv⟩, hlook⟩

theorem Noninterfering.cons_outside {s s' t : σ} {b : β} {xs : List (α ⊕ β)}
    (hs : outside s b = some s') (hsame : observe t = observe s) :
    Noninterfering step outside observe s t (.inr b :: xs) ↔
      Noninterfering step outside observe s' t xs := by
  constructor
  · intro hall prior u hprior hu
    exact hall (.inr b :: prior) u (List.cons_prefix_cons.mpr ⟨rfl, hprior⟩)
      (runSteps_cons_eq_some.mpr ⟨s', hs, hu⟩)
  · intro hall prior u hprior hu
    rcases List.prefix_cons_iff.mp hprior with rfl | ⟨rest, rfl, hprior'⟩
    · cases hu
      exact ⟨t, rfl, hsame⟩
    · obtain ⟨s'', hs'', hu⟩ := runSteps_cons_eq_some.mp hu
      rw [show stepBoth step outside s (.inr b) = some s' from hs] at hs''
      cases hs''
      exact hall rest u hprior' hu

/-- A condition that holds exactly of the inputs that change nothing one can see, and under
which they change nothing a run can tell, decides of every run whether it interferes. -/
theorem unwinding_iff (hunwind : Unwinding step observe R)
    (hbase : ∀ s x s', Base s → stepBoth step outside s x = some s' → Base s')
    (hharmless : ∀ s b s', Base s → outside s b = some s' → cond s b → R s' s)
    (hharm : ∀ s b s', Base s → outside s b = some s' → observe s' = observe s → cond s b)
    {s t u : σ} {xs : List (α ⊕ β)} (hs : Base s) (hst : R s t)
    (hrun : runSteps (stepBoth step outside) s xs = some u) :
    StepsMeet (stepBoth step outside) (OnOutside cond) s xs ↔
      Noninterfering step outside observe s t xs := by
  -- induction on the run; the two states stay related as long as the condition holds
  induction xs generalizing s t with
  | nil =>
    refine ⟨fun _ prior v hprior hv => ?_, fun _ => trivial⟩
    rw [List.prefix_nil.mp hprior] at hv
    cases hv
    rw [List.prefix_nil.mp hprior]
    exact ⟨t, rfl, (hunwind.observe s t hst).symm⟩
  | cons x xs ih =>
    obtain ⟨s', hx, hrest⟩ := runSteps_cons_eq_some.mp hrun
    have hs' := hbase s x s' hs hx
    have hsame := (hunwind.observe s t hst).symm
    cases x with
    -- both runs take the own step
    | inl a =>
      have hown : step s a = some s' := hx
      obtain ⟨t', ht, hst'⟩ := hunwind.step s t a s' hst hown
      rw [Noninterfering.cons_own hown ht hsame, ← ih hs' hst' hrest]
      exact ⟨fun hmeet => hmeet.2 s' hx, fun hmeet => StepsMeet.cons hx trivial hmeet⟩
    -- only the first run takes the outside step
    | inr b =>
      have hheard : outside s b = some s' := hx
      rw [Noninterfering.cons_outside hheard hsame]
      constructor
      · intro hmeet
        have hback := hharmless s b s' hs hheard hmeet.1
        exact (ih hs' (hunwind.trans s' s t hback hst) hrest).mp (hmeet.2 s' hx)
      · intro hall
        obtain ⟨v, hv, hlook⟩ := hall [] s' List.nil_prefix rfl
        cases hv
        have hcond := hharm s b s' hs hheard (hlook.symm.trans hsame)
        have hback := hharmless s b s' hs hheard hcond
        refine StepsMeet.cons hx hcond ?_
        exact (ih hs' (hunwind.trans s' s t hback hst) hrest).mpr hall

end TeleopBridge.Support
