import Mathlib.Data.List.Basic

/-!
# Runs of a Transition System

A system is a partial step function `step : σ → α → Option σ` on states and labels;
`none` means that the label is not enabled. A run is a list of labels.

## Key Results

- `runSteps_invariant`: what every step preserves, every run preserves.
- `guarded_invariant`: the same for the runs whose steps all meet a condition.
- `stepsMeet_iff`: a condition that decides each step decides the run.
- `stepsMeet_congr`: conditions that agree on an invariant hold of the same runs.
- `runSteps_projects`: a system whose steps are steps of another one, or leave it alone,
  runs it.
-/

namespace TeleopBridge.Support

variable {σ α : Type*}

/-- The state after a run, if every label was enabled in turn. -/
def runSteps (step : σ → α → Option σ) : σ → List α → Option σ
  | s, [] => some s
  | s, a :: as => (step s a).bind fun s' => runSteps step s' as

/-- Every step of the run is taken in a state that meets `cond`. -/
def StepsMeet (step : σ → α → Option σ) (cond : σ → α → Prop) : σ → List α → Prop
  | _, [] => True
  | s, a :: as => cond s a ∧ ∀ s', step s a = some s' → StepsMeet step cond s' as

variable {step : σ → α → Option σ}

@[simp] theorem runSteps_nil (s : σ) : runSteps step s [] = some s := rfl

theorem runSteps_cons_eq_some {s t : σ} {a : α} {as : List α} :
    runSteps step s (a :: as) = some t ↔
      ∃ s', step s a = some s' ∧ runSteps step s' as = some t :=
  Option.bind_eq_some_iff

theorem StepsMeet.cons {cond : σ → α → Prop} {s s' : σ} {a : α} {as : List α}
    (hstep : step s a = some s') (hcond : cond s a) (hrest : StepsMeet step cond s' as) :
    StepsMeet step cond s (a :: as) := by
  refine ⟨hcond, fun other hother => ?_⟩
  rw [hstep] at hother
  cases hother
  exact hrest

theorem runSteps_append {s t : σ} {as bs : List α} :
    runSteps step s (as ++ bs) = some t ↔
      ∃ s', runSteps step s as = some s' ∧ runSteps step s' bs = some t := by
  induction as generalizing s with
  | nil => simp
  | cons a as ih =>
    rw [List.cons_append, runSteps_cons_eq_some]
    constructor
    · rintro ⟨u, hstep, hrest⟩
      obtain ⟨v, hv, ht⟩ := ih.mp hrest
      exact ⟨v, runSteps_cons_eq_some.mpr ⟨u, hstep, hv⟩, ht⟩
    · rintro ⟨v, hv, ht⟩
      obtain ⟨u, hstep, hrest⟩ := runSteps_cons_eq_some.mp hv
      exact ⟨u, hstep, ih.mpr ⟨v, hrest, ht⟩⟩

/-- What every step preserves, every run preserves. -/
theorem runSteps_invariant {Inv : σ → Prop}
    (hstep : ∀ s a s', Inv s → step s a = some s' → Inv s') {s t : σ} {as : List α}
    (hs : Inv s) (hrun : runSteps step s as = some t) : Inv t := by
  induction as generalizing s with
  | nil =>
    cases hrun
    exact hs
  | cons a as ih =>
    obtain ⟨s', ha, hrest⟩ := runSteps_cons_eq_some.mp hrun
    exact ih (hstep s a s' hs ha) hrest

/-- What every step preserves under a condition, every run whose steps meet it preserves. -/
theorem guarded_invariant {cond : σ → α → Prop} {Inv : σ → Prop}
    (hstep : ∀ s a s', Inv s → cond s a → step s a = some s' → Inv s') {s t : σ} {as : List α}
    (hs : Inv s) (hmeet : StepsMeet step cond s as) (hrun : runSteps step s as = some t) :
    Inv t := by
  induction as generalizing s with
  | nil =>
    cases hrun
    exact hs
  | cons a as ih =>
    obtain ⟨s', ha, hrest⟩ := runSteps_cons_eq_some.mp hrun
    exact ih (hstep s a s' hs hmeet.1 ha) (hmeet.2 s' ha) hrest

/-- A condition that decides, at every step, whether `Inv` survives, decides of every run
whether `Inv` holds in all its states. -/
theorem stepsMeet_iff {cond : σ → α → Prop} {Base Inv : σ → Prop}
    (hbase : ∀ s a s', Base s → step s a = some s' → Base s')
    (hstep : ∀ s a s', Base s → Inv s → step s a = some s' → (cond s a ↔ Inv s')) {s t : σ}
    {as : List α} (hb : Base s) (hs : Inv s) (hrun : runSteps step s as = some t) :
    StepsMeet step cond s as ↔ ∀ bs u, bs <+: as → runSteps step s bs = some u → Inv u := by
  induction as generalizing s with
  | nil =>
    refine ⟨fun _ bs u hbs hu => ?_, fun _ => trivial⟩
    rw [List.prefix_nil.mp hbs] at hu
    cases hu
    exact hs
  | cons a as ih =>
    obtain ⟨s', ha, hrest⟩ := runSteps_cons_eq_some.mp hrun
    have hb' := hbase s a s' hb ha
    constructor
    · -- a prefix is empty or goes through the first step
      rintro ⟨hcond, hmeet⟩ bs u hbs hu
      have hs' := (hstep s a s' hb hs ha).mp hcond
      rcases List.prefix_cons_iff.mp hbs with rfl | ⟨cs, rfl, hcs⟩
      · cases hu
        exact hs
      · obtain ⟨v, hv, hu⟩ := runSteps_cons_eq_some.mp hu
        rw [ha] at hv
        cases hv
        exact (ih hb' hs' hrest).mp (hmeet s' ha) cs u hcs hu
    · intro hall
      -- the prefix of one step decides the first condition
      have hs' : Inv s' :=
        hall [a] s' ⟨as, rfl⟩ (runSteps_cons_eq_some.mpr ⟨s', ha, rfl⟩)
      refine StepsMeet.cons ha ((hstep s a s' hb hs ha).mpr hs') ?_
      refine (ih hb' hs' hrest).mpr fun cs u hcs hu => ?_
      exact hall (a :: cs) u (List.cons_prefix_cons.mpr ⟨rfl, hcs⟩)
        (runSteps_cons_eq_some.mpr ⟨s', ha, hu⟩)

/-- Two conditions that agree in every state of an invariant hold of the same runs. -/
theorem stepsMeet_congr {guard cond cond' : σ → α → Prop} {Inv : σ → Prop}
    (hstep : ∀ s a s', Inv s → guard s a → step s a = some s' → Inv s')
    (hcond : ∀ s a, Inv s → (cond s a ↔ cond' s a)) {s : σ} {as : List α} (hs : Inv s)
    (hguard : StepsMeet step guard s as) :
    StepsMeet step cond s as ↔ StepsMeet step cond' s as := by
  induction as generalizing s with
  | nil => exact Iff.rfl
  | cons a as ih =>
    refine and_congr (hcond s a hs) (forall₂_congr fun s' ha => ?_)
    exact ih (hstep s a s' hs hguard.1 ha) (hguard.2 s' ha)

/-- If every step is a step of the projected system or leaves it alone, every run projects
to a run. -/
theorem runSteps_projects {τ β : Type*} {step' : τ → β → Option τ} {project : σ → τ}
    (hstep : ∀ s a s', step s a = some s' →
      project s' = project s ∨ ∃ b, step' (project s) b = some (project s'))
    {s t : σ} {as : List α} (hrun : runSteps step s as = some t) :
    ∃ bs, runSteps step' (project s) bs = some (project t) := by
  induction as generalizing s with
  | nil =>
    cases hrun
    exact ⟨[], rfl⟩
  | cons a as ih =>
    obtain ⟨s', ha, hrest⟩ := runSteps_cons_eq_some.mp hrun
    obtain ⟨bs, hbs⟩ := ih hrest
    rcases hstep s a s' ha with hsame | ⟨b, hb⟩
    · rw [hsame] at hbs
      exact ⟨bs, hbs⟩
    · exact ⟨b :: bs, runSteps_cons_eq_some.mpr ⟨_, hb, hbs⟩⟩

end TeleopBridge.Support
