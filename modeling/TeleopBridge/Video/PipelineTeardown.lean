import TeleopBridge.Video.PipelineOwnership

/-!
# The Teardown of the Video Pipeline

However the threads of the pipeline, its restarts and the calls of `start` and `stop` are
interleaved, every thread is joined by exactly one other, and the objects of a pipeline are
taken away only when no worker is left that could use them.

## Key Results

- `workersInv_step`: the invariant of all runs.
- `teardown_exclusive`: what holds in every state of every run.
-/

namespace TeleopBridge.Video

open Support

namespace PipelineRun

variable {s s' : PipelineRun} {self : Option ℕ} {answer recorder : Bool} {op : PipelineOp}
  {rest program later : List PipelineOp} {id t : ℕ} {role : WorkerRole}

/-! ## The invariant -/

/-- What the supervisor still has to do. -/
inductive SupervisorAt (s : PipelineRun) : List PipelineOp → Prop
  | ended : SupervisorAt s []
  | waiting : SupervisorAt s [.supervise]
  | trying (quiet : s.Quiet) : SupervisorAt s [.startPipeline .supervisor]
  | stopping {p} (at_stop : StopAt s [.superviseRestart] p) : SupervisorAt s p
  | starting {p} (at_start : StartAt s [.supervise] p) : SupervisorAt s p

/-- There is one supervisor. -/
structure Supervised (s : PipelineRun) (t : ℕ) : Prop where
  unjoined : s.Unjoined t
  role : s.roleOf t = some .restart_supervisor
  unique : ∀ u, s.Unjoined u → s.roleOf u = some .restart_supervisor → u = t
  program : ∃ p, s.programOf t = some p ∧ SupervisorAt s p

/-- What the controller still has to do, and who runs the pipeline. -/
inductive Control (s : PipelineRun) : Prop
  | down (controller : s.controller = []) (running : s.running_ = false) (quiet : s.Quiet)
      (objects : ∀ object ∈ s.objects, object = .capturer) (alone : s.NoThread .restart_supervisor)
  | trying (controller : s.controller = [.startPipeline .start]) (running : s.running_ = true)
      (quiet : s.Quiet) (alone : s.NoThread .restart_supervisor)
  | failing (controller : s.controller = .lowerRunning :: stopPipeline) (quiet : s.Quiet)
      (alone : s.NoThread .restart_supervisor)
  | starting (at_start : StartAt s [.spawn .restart_supervisor false] s.controller)
      (running : s.running_ = true) (alone : s.NoThread .restart_supervisor)
  | assigning {t : ℕ}
      (controller : s.controller = [.assignWorkerThread .restart_supervisor t false])
      (running : s.running_ = true) (slot : s.slots .restart_supervisor = none)
      (supervised : s.Supervised t)
  | up {t : ℕ} (controller : s.controller = []) (running : s.running_ = true)
      (slot : s.slots .restart_supervisor = some t) (supervised : s.Supervised t)
  | clearing {t : ℕ} (controller : s.controller =
        .clearRequest :: .joinWorkerThread .restart_supervisor :: stopPipeline)
      (running : s.running_ = false) (slot : s.slots .restart_supervisor = some t)
      (supervised : s.Supervised t)
  | joining {t : ℕ} (controller : s.controller =
        .joinWorkerThread .restart_supervisor :: stopPipeline)
      (running : s.running_ = false) (slot : s.slots .restart_supervisor = some t)
      (supervised : s.Supervised t)
  | awaiting {t : ℕ} (controller : s.controller = .joinThread t :: stopPipeline)
      (running : s.running_ = false) (supervised : s.Supervised t)
  | stopping (at_stop : StopAt s [] s.controller) (busy : s.controller ≠ [])
      (running : s.running_ = false) (alone : s.NoThread .restart_supervisor)

/-- The invariant of all runs. -/
structure WorkersInv (s : PipelineRun) : Prop extends HandlesInv s where
  attached : s.detached = false
  control : Control s

/-! ## The same workers -/

/-- Two states have the same workers with the same tasks. -/
structure SameWorkers (s s' : PipelineRun) : Prop where
  pipeline : s'.pipeline_running_ = s.pipeline_running_
  eye : s'.eye_image_enabled_ = s.eye_image_enabled_
  objects : s'.objects = s.objects
  slots : ∀ r, r ≠ .restart_supervisor → s'.slots r = s.slots r
  unjoined : ∀ t, s'.Unjoined t ↔ s.Unjoined t
  roles : ∀ t, s'.roleOf t = s.roleOf t

/-- Going on with one's program does not concern the workers. -/
theorem SameWorkers.setProgram : SameWorkers s (s.setProgram id program) :=
  ⟨rfl, rfl, rfl, fun _ _ => rfl, fun _ => unjoined_setProgram, fun _ => roleOf_setProgram⟩

theorem SameWorkers.of_fields {running request : Bool} {controller : List PipelineOp} :
    SameWorkers s { s with
      running_ := running, restart_requested_ := request, controller := controller } :=
  ⟨rfl, rfl, rfl, fun _ _ => rfl, fun _ => Iff.rfl, fun _ => rfl⟩

theorem SameWorkers.of_slot {content : Option ℕ} {controller : List PipelineOp} :
    SameWorkers s { s with
      slots := Function.update s.slots .restart_supervisor content, controller := controller } :=
  ⟨rfl, rfl, rfl, fun _ hr => Function.update_of_ne hr _ _, fun _ => Iff.rfl, fun _ => rfl⟩

section SameWorkers

variable (hsame : SameWorkers s s')

include hsame

/-- Without a change to the workers there is still no thread of the role. -/
theorem NoThread.same (h : s.NoThread role) : s'.NoThread role := fun t hun => by
  rw [hsame.roles]
  exact h t ((hsame.unjoined t).mp hun)

/-- A quiet pipeline stays quiet. -/
theorem Quiet.same (h : s.Quiet) : s'.Quiet where
  low := hsame.pipeline.trans h.low
  workers role hne := (h.workers role hne).same hsame

/-- What a teardown has cleared stays cleared. -/
theorem Cleared.same {awaited : Option ℕ} (h : s.Cleared awaited rest) :
    s'.Cleared awaited rest where
  workers t role hun hr hne :=
    h.workers t role ((hsame.unjoined t).mp hun) ((hsame.roles t).symm.trans hr) hne
  objects object hobject := h.objects object (by rwa [← hsame.objects])

/-- A teardown stands where it stood. -/
theorem StopAt.same (h : StopAt s later program) : StopAt s' later program := by
  cases h with
  | lowering => exact .lowering
  | stopping suffix low cleared =>
    exact .stopping suffix (hsame.pipeline.trans low) (cleared.same hsame)
  | awaiting suffix low role_eq cleared =>
    exact .awaiting suffix (hsame.pipeline.trans low) ((hsame.roles _).trans role_eq)
      (cleared.same hsame)

/-- The roles that are still to be started stay free. -/
theorem Free.same (h : s.Free rest) (hsub : rest ⊆ startWorkers s.eye_image_enabled_) :
    s'.Free rest := by
  intro role hrole
  obtain ⟨hnone, hslot⟩ := h role hrole
  exact ⟨hnone.same hsame, (hsame.slots role (spawn_role (hsub hrole)).2.1).trans hslot⟩

/-- A start stands where it stood. -/
theorem StartAt.same (h : StartAt s later program) : StartAt s' later program := by
  cases h with
  | raising quiet free =>
    have hfree := free.same hsame (List.Subset.refl _)
    rw [← hsame.eye] at hfree ⊢
    exact .raising (quiet.same hsame) hfree
  | spawning suffix high free =>
    exact .spawning (by rwa [hsame.eye]) (hsame.pipeline.trans high)
      (free.same hsame (List.Subset.trans suffix.subset (List.tail_subset _)))
  | assigning suffix high role_eq slot free =>
    -- the roles ahead are among those that the start was to make
    have hsub := List.Subset.trans suffix.subset (List.tail_subset _)
    have hrole := spawn_role (hsub List.mem_cons_self)
    exact .assigning (by rwa [hsame.eye]) (hsame.pipeline.trans high)
      ((hsame.roles _).trans role_eq) ((hsame.slots _ hrole.2.1).trans slot)
      (free.same hsame fun _ hop => hsub (List.mem_cons_of_mem _ hop))

/-- So does the supervisor. -/
theorem SupervisorAt.same (h : SupervisorAt s program) : SupervisorAt s' program := by
  cases h with
  | ended => exact .ended
  | waiting => exact .waiting
  | trying quiet => exact .trying (quiet.same hsame)
  | stopping at_stop => exact .stopping (at_stop.same hsame)
  | starting at_start => exact .starting (at_start.same hsame)

/-- And the thread that runs it. -/
theorem Supervised.same (h : s.Supervised t) (hprogram : s'.programOf t = s.programOf t) :
    s'.Supervised t where
  unjoined := (hsame.unjoined t).mpr h.unjoined
  role := (hsame.roles t).trans h.role
  unique u hun hr := h.unique u ((hsame.unjoined u).mp hun) ((hsame.roles u).symm.trans hr)
  program := by
    obtain ⟨p, hp, hat⟩ := h.program
    exact ⟨p, hprogram.trans hp, hat.same hsame⟩

end SameWorkers

/-! ## A step of a worker -/

/-- The encode thread makes workers, but no supervisor. -/
theorem not_fromEncode_supervisor : ¬FromEncode .restart_supervisor := by
  rintro (h | h) <;> cases h

/-- What a worker did does not depend on what it will do. -/
theorem WorkerMoved.setProgram (h : WorkerMoved s s' role) :
    WorkerMoved s (s'.setProgram id program) role where
  running := h.running
  pipeline := h.pipeline
  eye := h.eye
  controller := h.controller
  detached := h.detached
  slots := h.slots
  slot_role := h.slot_role
  roles t r hr := by
    rw [roleOf_setProgram]
    exact h.roles t r hr
  unjoined t hun := by
    rw [unjoined_setProgram] at hun
    simpa only [roleOf_setProgram] using h.unjoined t hun
  joined t hun hr := unjoined_setProgram.mpr (h.joined t hun hr)

section WorkerStep

variable (hmoved : WorkerMoved s s' role) (hun : s.Unjoined id) (hrole : s.roleOf id = some role)
  (hne : role ≠ .restart_supervisor)

include hmoved hun hrole hne

/-- A step of a worker leaves the supervisor where it was. -/
theorem SupervisorAt.worker (h : SupervisorAt s program) : SupervisorAt s' program := by
  cases h with
  | ended => exact .ended
  | waiting => exact .waiting
  -- while it tries to start there is no worker to take a step
  | trying quiet => exact absurd hun (quiet.not_worker hrole hne)
  | stopping at_stop => exact .stopping (at_stop.worker hmoved hun hrole hne)
  | starting at_start => exact .starting (at_start.worker hmoved hun hrole hne)

variable (hprogram : ∀ t p, s.roleOf t = some .restart_supervisor → s.programOf t = some p →
  s'.programOf t = some p)

include hprogram

theorem Supervised.worker (h : s.Supervised t) : s'.Supervised t where
  unjoined := hmoved.joined t h.unjoined h.role
  role := hmoved.roles t _ h.role
  unique u hu hr := by
    rcases hmoved.unjoined_role hu hr with ⟨hold, hold_role⟩ | ⟨-, hfrom⟩
    · exact h.unique u hold hold_role
    · -- a new thread comes from the encode thread, and is no supervisor
      exact absurd hfrom not_fromEncode_supervisor
  program := by
    obtain ⟨p, hp, hat⟩ := h.program
    exact ⟨p, hprogram t p h.role hp, hat.worker hmoved hun hrole hne⟩

/-- A worker leaves the controller where it is. -/
theorem Control.worker (h : Control s) : Control s' := by
  have hsup := hmoved.slots _ not_fromEncode_supervisor
  have halone : s.NoThread .restart_supervisor → s'.NoThread .restart_supervisor := fun h =>
    h.worker hmoved not_fromEncode_supervisor
  cases h with
  -- in a quiet state no worker can take a step
  | down _ _ quiet | trying _ _ quiet | failing _ quiet =>
    exact absurd hun (quiet.not_worker hrole hne)
  | starting at_start running alone =>
    exact .starting (hmoved.controller ▸ at_start.worker hmoved hun hrole hne)
      (hmoved.running.trans running) (halone alone)
  | assigning controller running slot supervised =>
    exact .assigning (hmoved.controller.trans controller) (hmoved.running.trans running)
      (hsup.trans slot) (supervised.worker hmoved hun hrole hne hprogram)
  | up controller running slot supervised =>
    exact .up (hmoved.controller.trans controller) (hmoved.running.trans running)
      (hsup.trans slot) (supervised.worker hmoved hun hrole hne hprogram)
  | clearing controller running slot supervised =>
    exact .clearing (hmoved.controller.trans controller) (hmoved.running.trans running)
      (hsup.trans slot) (supervised.worker hmoved hun hrole hne hprogram)
  | joining controller running slot supervised =>
    exact .joining (hmoved.controller.trans controller) (hmoved.running.trans running)
      (hsup.trans slot) (supervised.worker hmoved hun hrole hne hprogram)
  | awaiting controller running supervised =>
    exact .awaiting (hmoved.controller.trans controller) (hmoved.running.trans running)
      (supervised.worker hmoved hun hrole hne hprogram)
  | stopping at_stop busy running alone =>
    exact .stopping (hmoved.controller ▸ at_stop.worker hmoved hun hrole hne)
      (hmoved.controller ▸ busy) (hmoved.running.trans running) (halone alone)

end WorkerStep

/-! ## A step of the supervisor -/

/-- A manager that is about to do something without handles finds the workers in their slots. -/
theorem HandlesInv.slotsComplete_of_supervisor (hinv : HandlesInv s)
    (hcontroller : ∀ u ∈ programHandles s.controller, s.roleOf u = some .restart_supervisor)
    (hunique : ∀ u, s.Unjoined u → s.roleOf u = some .restart_supervisor → u = t)
    (hprogram : s.programOf t = some (op :: rest)) (hop : op.handles = []) :
    s.SlotsComplete := by
  refine hinv.slotsComplete hcontroller fun k p hrole hp => ?_
  by_cases hun : s.Unjoined k
  · rw [hunique k hun hrole, hprogram] at hp
    cases hp
    rw [programHandles_cons, hop, (hinv.tidy t _ hprogram).2 hop]
    rfl
  · rw [hinv.joined k p hp hun]
    rfl

/-- A pipeline of which nothing is left can be made again. -/
theorem HandlesInv.startAt (hinv : HandlesInv s) (quiet : s.Quiet)
    (hsame : s'.pipeline_running_ = s.pipeline_running_ ∧
      s'.eye_image_enabled_ = s.eye_image_enabled_ ∧ s'.slots = s.slots ∧
      s'.threads = s.threads) :
    StartAt s' later (startWorkers s.eye_image_enabled_ ++ later) := by
  obtain ⟨hpipeline, heye, hslots, hthreads⟩ := hsame
  -- no worker is left, so every role may be filled
  have hnone : ∀ r, r ≠ .restart_supervisor → s'.NoThread r := fun r hr u hun => by
    unfold roleOf
    rw [hthreads]
    exact quiet.workers r hr u ((unjoined_of_threads_eq hthreads).mp hun)
  rw [← heye]
  refine .raising ⟨hpipeline.trans quiet.low, hnone⟩ fun r hr => ?_
  have hne := (spawn_role hr).2.1
  refine ⟨hnone r hne, ?_⟩
  rw [hslots]
  exact hinv.slot_eq_none (quiet.workers r hne)

/-- What `startPipeline` finds when nothing is left of a pipeline. -/
theorem HandlesInv.tryStart_cases (hinv : HandlesInv s) (quiet : s.Quiet) (caller : StartCaller)
    (answer recorder : Bool) :
    s.tryStart caller answer recorder = (s, caller.failed) ∨
      ∃ s', s.tryStart caller answer recorder =
          (s', startWorkers s.eye_image_enabled_ ++ caller.started) ∧
        s.running_ = true ∧ s'.running_ = s.running_ ∧ s'.controller = s.controller ∧
        s'.detached = s.detached ∧ s'.slots = s.slots ∧ s'.threads = s.threads ∧
        ∀ later, StartAt s' later (startWorkers s.eye_image_enabled_ ++ later) := by
  unfold tryStart
  split
  · exact Or.inl rfl
  rename_i hrunning
  rw [if_neg (by rw [quiet.low]; decide)]
  split
  · exact Or.inl rfl
  right
  -- the checks are passed: the start is to run and the pipeline is low
  have hrun : s.running_ = true := by simpa using hrunning
  refine ⟨_, rfl, hrun, ?_⟩
  cases recorder <;>
    exact ⟨rfl, rfl, rfl, rfl, rfl, fun _ => hinv.startAt quiet ⟨rfl, rfl, rfl, rfl⟩⟩

/-- The outer loop of the supervisor. -/
theorem supervise_exec (hexec : s.exec self answer recorder [] .supervise = some (s', program)) :
    ManagerMoved s s' ∧ SupervisorAt s' program := by
  simp only [exec] at hexec
  split_ifs at hexec
  · cases hexec
    exact ⟨.of_threads_eq rfl rfl rfl rfl rfl, .ended⟩
  · cases hexec
    exact ⟨.of_threads_eq rfl rfl rfl rfl rfl, .stopping .lowering⟩

/-- One step of the supervisor. -/
theorem SupervisorAt.exec (h : SupervisorAt s (op :: rest)) (hinv : HandlesInv s)
    (hplaces : op.handles = [] → s.SlotsComplete)
    (hself : ∀ t, self = some t → s.roleOf t = some .restart_supervisor)
    (hexec : s.exec self answer recorder rest op = some (s', program)) :
    ManagerMoved s s' ∧ SupervisorAt s' program := by
  cases h with
  | waiting => exact supervise_exec hexec
  | trying quiet =>
    simp only [PipelineRun.exec] at hexec
    rcases hinv.tryStart_cases quiet .supervisor answer recorder with
      htry | ⟨s₁, htry, -, hrunning, hcontroller, hdetached, hslots, hthreads, hat⟩
    · rw [htry] at hexec
      cases hexec
      exact ⟨.of_threads_eq rfl rfl rfl rfl rfl, .stopping .lowering⟩
    · rw [htry] at hexec
      cases hexec
      refine ⟨.of_threads_eq hrunning hcontroller hdetached hslots hthreads, .starting ?_⟩
      rw [List.append_nil]
      exact hat _
  | stopping at_stop =>
    rcases at_stop.exec rfl hinv.slot_role hplaces hself hexec with
      ⟨heq, idle⟩ | ⟨hmoved, hat⟩
    · -- the teardown is through, and the supervisor goes on behind it
      cases heq
      simp only [PipelineRun.exec] at hexec
      split at hexec <;> cases hexec
      · exact ⟨.of_threads_eq rfl rfl rfl rfl rfl, .waiting⟩
      · exact ⟨.of_threads_eq rfl rfl rfl rfl rfl, .trying idle.quiet⟩
    · exact ⟨hmoved, .stopping hat⟩
  | starting at_start =>
    -- likewise behind a start
    rcases at_start.exec rfl hexec with heq | ⟨hmoved, hat⟩
    · cases heq
      exact supervise_exec hexec
    · exact ⟨hmoved, .starting hat⟩

/-- The supervisor after one of its steps. -/
theorem Supervised.own_step (h : s.Supervised id) (hinv : HandlesInv s)
    (hcontroller : ∀ u ∈ programHandles s.controller, s.roleOf u = some .restart_supervisor)
    (hprogram : s.programOf id = some (op :: rest))
    (hexec : s.exec (some id) answer recorder rest op = some (s', program)) :
    ManagerMoved s s' ∧ (s'.setProgram id program).Supervised id := by
  have heffect := exec_effect hexec
  obtain ⟨p, hp, hat⟩ := h.program
  rw [hprogram] at hp
  cases hp
  obtain ⟨hmoved, hat'⟩ := hat.exec hinv
    (hinv.slotsComplete_of_supervisor hcontroller h.unique hprogram)
    (by rintro t ⟨⟩; exact h.role) hexec
  refine ⟨hmoved, ?_⟩
  have hkeep := heffect.programOf_keep hprogram
  refine ⟨unjoined_setProgram.mpr (hmoved.joined id h.unjoined h.role), ?_, fun u hun hr => ?_,
    program, programOf_setProgram_self (by rw [hkeep]; rfl), hat'.same .setProgram⟩
  · rw [roleOf_setProgram]
    exact heffect.roleOf h.role
  · -- the step made no second supervisor
    rw [unjoined_setProgram] at hun
    rw [roleOf_setProgram] at hr
    have hold := hmoved.supervisors u hun hr
    obtain ⟨r, hr'⟩ := hold.roleOf_isSome
    have hsame := heffect.roleOf hr'
    rw [hr] at hsame
    cases hsame
    exact h.unique u hold hr'

/-- The supervisor leaves the controller where it is. -/
theorem Control.supervisor (h : Control s) (hinv : HandlesInv s)
    (hrole : s.roleOf id = some .restart_supervisor)
    (hprogram : s.programOf id = some (op :: rest))
    (hexec : s.exec (some id) answer recorder rest op = some (s', program)) :
    s'.detached = s.detached ∧ Control (s'.setProgram id program) := by
  have hun := hinv.unjoined_of_program hprogram
  have hself : ∀ {t}, s.Supervised t → id = t := fun hsup => hsup.unique id hun hrole
  cases h with
  -- there is no supervisor in these places; in the others it takes its own step
  | down _ _ _ _ alone | trying _ _ _ alone | failing _ _ alone | starting _ _ alone
  | stopping _ _ _ alone => exact absurd hrole (alone id hun)
  | assigning controller running slot supervised =>
    cases hself supervised
    obtain ⟨hmoved, hsup⟩ := supervised.own_step hinv (by
      rw [controller]
      intro u hu
      rw [List.mem_singleton.mp hu]
      exact hrole) hprogram hexec
    exact ⟨hmoved.detached, .assigning (hmoved.controller.trans controller)
      (hmoved.running.trans running) (hmoved.slot.trans slot) hsup⟩
  | up controller running slot supervised =>
    cases hself supervised
    obtain ⟨hmoved, hsup⟩ := supervised.own_step hinv (by rw [controller]; nofun) hprogram hexec
    exact ⟨hmoved.detached, .up (hmoved.controller.trans controller)
      (hmoved.running.trans running) (hmoved.slot.trans slot) hsup⟩
  | clearing controller running slot supervised =>
    cases hself supervised
    obtain ⟨hmoved, hsup⟩ := supervised.own_step hinv (by rw [controller]; nofun) hprogram hexec
    exact ⟨hmoved.detached, .clearing (hmoved.controller.trans controller)
      (hmoved.running.trans running) (hmoved.slot.trans slot) hsup⟩
  | joining controller running slot supervised =>
    cases hself supervised
    obtain ⟨hmoved, hsup⟩ := supervised.own_step hinv (by rw [controller]; nofun) hprogram hexec
    exact ⟨hmoved.detached, .joining (hmoved.controller.trans controller)
      (hmoved.running.trans running) (hmoved.slot.trans slot) hsup⟩
  | awaiting controller running supervised =>
    cases hself supervised
    obtain ⟨hmoved, hsup⟩ := supervised.own_step hinv (by
      rw [controller, programHandles_cons, stopPipeline_noHandles]
      intro u hu
      rw [List.mem_singleton.mp hu]
      exact hrole) hprogram hexec
    exact ⟨hmoved.detached, .awaiting (hmoved.controller.trans controller)
      (hmoved.running.trans running) hsup⟩

/-! ## A step of the controller -/

/-- Behind `stopPipeline` nothing is left of a pipeline. -/
theorem StopAt.idle (h : StopAt s later program) (hprogram : program = []) : s.Idle := by
  cases h with
  | lowering => cases hprogram
  | stopping suffix low cleared =>
    obtain ⟨rfl, -⟩ := List.append_eq_nil_iff.mp hprogram
    exact cleared.idle low
  | awaiting => cases hprogram

/-- No supervisor comes into being. -/
theorem ManagerMoved.alone (hmoved : ManagerMoved s s')
    (hroles : ∀ {t r}, s.roleOf t = some r → s'.roleOf t = some r)
    (h : s.NoThread .restart_supervisor) : s'.NoThread .restart_supervisor := by
  intro t hun hr
  have hold := hmoved.supervisors t hun hr
  obtain ⟨r, hr'⟩ := hold.roleOf_isSome
  have hsame := hroles hr'
  rw [hr] at hsame
  cases hsame
  exact h t hold hr'

/-- The controller makes the supervisor. -/
theorem Supervised.of_spawn (alone : s.NoThread .restart_supervisor) :
    Supervised { s with
        threads := s.threads ++ [⟨.restart_supervisor, WorkerRole.restart_supervisor.main, false⟩] }
      s.threads.length where
  unjoined := (unjoined_concat rfl rfl).mpr (Or.inr rfl)
  role := by simp [roleOf]
  unique u hun hr := by
    rcases (unjoined_concat rfl rfl).mp hun with hold | heq
    · obtain ⟨r, hr'⟩ := hold.roleOf_isSome
      cases hr.symm.trans (roleOf_concat hr')
      exact absurd hr' (alone u hold)
    · exact heq
  program := ⟨[.supervise], by simp [programOf, WorkerRole.main], .waiting⟩

/-- The controller goes on. -/
theorem Control.controller (h : Control s) (hinv : HandlesInv s)
    (hcontroller : s.controller = op :: rest)
    (hexec : s.exec none answer recorder rest op = some (s', program)) :
    s'.detached = s.detached ∧ Control { s' with controller := program } := by
  have heffect := exec_effect hexec
  cases h with
  | down controller | up controller =>
    rw [hcontroller] at controller
    cases controller
  | trying controller running quiet alone =>
    cases hcontroller.symm.trans controller
    -- `start` fails, and tears down what there is, or queues the workers
    simp only [exec] at hexec
    rcases hinv.tryStart_cases quiet .start answer recorder with
      htry | ⟨s₁, htry, hrun, hrunning, -, hdetached, -, hthreads, hat⟩
    · rw [htry] at hexec
      cases hexec
      exact ⟨rfl, .failing rfl (quiet.same .of_fields) (alone.same .of_fields)⟩
    · rw [htry] at hexec
      cases hexec
      refine ⟨hdetached, .starting ?_ (hrunning.trans hrun) fun u hun => ?_⟩
      · rw [List.append_nil]
        exact (hat _).same .of_fields
      · unfold roleOf
        rw [hthreads]
        exact alone u ((unjoined_of_threads_eq hthreads).mp hun)
  | failing controller _ alone =>
    cases hcontroller.symm.trans controller
    cases hexec
    exact ⟨rfl, .stopping .lowering (List.cons_ne_nil _ _) rfl (alone.same .of_fields)⟩
  -- a start that is through makes the supervisor
  | starting at_start running alone =>
    rcases at_start.exec hcontroller hexec with heq | ⟨hmoved, hat⟩
    · cases heq
      cases hexec
      have hslot := hinv.slot_eq_none alone
      exact ⟨rfl, .assigning rfl running hslot
        ((Supervised.of_spawn alone).same .of_fields rfl)⟩
    · exact ⟨hmoved.detached, .starting (hat.same .of_fields) (hmoved.running.trans running)
        ((hmoved.alone heffect.roleOf alone).same .of_fields)⟩
  | assigning controller running slot supervised =>
    cases hcontroller.symm.trans controller
    simp only [exec, assign, slot, Bool.not_false, Bool.true_or, if_true] at hexec
    cases hexec
    exact ⟨rfl, .up rfl running (by simp) (supervised.same .of_slot rfl)⟩
  | clearing controller running slot supervised =>
    cases hcontroller.symm.trans controller
    cases hexec
    exact ⟨rfl, .joining rfl running slot (Supervised.same (s := s) .of_fields supervised rfl)⟩
  | joining controller running slot supervised =>
    cases hcontroller.symm.trans controller
    simp only [exec, slot] at hexec
    cases hexec
    exact ⟨rfl, .awaiting rfl running (supervised.same .of_slot rfl)⟩
  | @awaiting t controller running supervised =>
    cases hcontroller.symm.trans controller
    simp only [exec] at hexec
    -- the join waits for the supervisor to end
    rw [if_neg (by rintro ⟨⟩)] at hexec
    split at hexec
    · cases hexec
      refine ⟨rfl, .stopping .lowering (List.cons_ne_nil _ _) running fun u hun hr => ?_⟩
      obtain ⟨hold, hne⟩ := unjoined_markJoined.mp hun
      exact hne (supervised.unique u hold (roleOf_markJoined.symm.trans hr))
    · cases hexec
  | stopping at_stop busy running alone =>
    -- a teardown of the controller joins what the slots hold
    have hplaces : op.handles = [] → s.SlotsComplete := fun hop => by
      refine hinv.slotsComplete ?_ fun k p hrole hp => ?_
      · have htidy := hinv.controller_tidy
        rw [hcontroller] at htidy ⊢
        rw [programHandles_cons, hop, htidy.2 hop]
        rintro u ⟨⟩
      · rw [hinv.joined k p hp fun hun => alone k hun hrole]
        rfl
    rcases at_stop.exec hcontroller hinv.slot_role hplaces (by rintro _ ⟨⟩) hexec with
      ⟨heq, -⟩ | ⟨hmoved, hat⟩
    · cases heq
    · have hrun := hmoved.running.trans running
      have halone := hmoved.alone heffect.roleOf alone
      refine ⟨hmoved.detached, ?_⟩
      -- behind the last operation everything is down
      by_cases hdone : program = []
      · subst hdone
        obtain ⟨quiet, hobjects⟩ := hat.idle rfl
        refine .down rfl hrun (quiet.same .of_fields) (fun object hobject => ?_)
          (halone.same .of_fields)
        have hmem : object ∈ s'.objects := hobject
        rw [hobjects] at hmem
        cases hmem
      · exact .stopping (hat.same .of_fields) hdone hrun (halone.same .of_fields)

/-! ## Runs -/

/-- Before the first call there are no threads. -/
theorem noThread_initial : NoThread {} role := by
  rintro t ⟨thread, hthread, -⟩
  cases hthread

/-- A manager that has not started anything. -/
theorem workersInv_initial : WorkersInv {} where
  handles t := by
    rw [alive_eq_zero (by rintro ⟨thread, hthread, -⟩; cases hthread)]
    rfl
  slot_role := nofun
  workers _ _ _ h := nomatch h
  tidy _ _ h := nomatch h
  controller_tidy := trivial
  joined _ _ h := nomatch h
  attached := rfl
  control := .down rfl rfl ⟨rfl, fun _ _ => noThread_initial⟩ nofun noThread_initial

/-- What comes next in `stopPipeline`. -/
theorem StopAt.next (h : StopAt s later program) (hprogram : program = op :: rest) :
    op :: rest = later ∨ op ∈ stopPipeline ∨ ∃ t role, op = .joinThread t ∧
      s.roleOf t = some role ∧ role ≠ .restart_supervisor ∧ s.pipeline_running_ = false := by
  cases h with
  | lowering =>
    cases hprogram
    exact Or.inr (Or.inl List.mem_cons_self)
  -- an operation of the teardown, one behind it, or the join of what a slot gave
  | @stopping todo suffix low cleared =>
    cases todo with
    | nil => exact Or.inl hprogram.symm
    | cons first todo =>
      cases hprogram
      exact Or.inr (Or.inl (List.mem_of_mem_tail (suffix.subset List.mem_cons_self)))
  | @awaiting role t todo suffix low role_eq cleared =>
    cases hprogram
    exact Or.inr (Or.inr ⟨t, role, rfl, role_eq, join_ne_supervisor suffix List.mem_cons_self,
      low⟩)

/-- What comes next in `startPipeline`. -/
theorem StartAt.next (h : StartAt s later program) (hprogram : program = op :: rest) :
    op :: rest = later ∨ op ∈ startWorkers s.eye_image_enabled_ ∨
      ∃ t role, op = .assignWorkerThread role t true ∧ s.roleOf t = some role := by
  cases h with
  | raising =>
    cases hprogram
    exact Or.inr (Or.inl List.mem_cons_self)
  | @spawning todo suffix high free =>
    cases todo with
    | nil => exact Or.inl hprogram.symm
    | cons first todo =>
      cases hprogram
      exact Or.inr (Or.inl (List.mem_of_mem_tail (suffix.subset List.mem_cons_self)))
  | @assigning role t todo suffix high role_eq slot free =>
    cases hprogram
    exact Or.inr (Or.inr ⟨t, role, rfl, role_eq⟩)

/-- Handles are assigned only where they were made. -/
theorem assign_notMem {require : Bool} :
    .assignWorkerThread role t require ∉ stopPipeline ∧
      ∀ eye, .assignWorkerThread role t require ∉ startWorkers eye := by
  refine ⟨by simp [stopPipeline], fun eye => ?_⟩
  cases eye <;> simp [startWorkers]

/-- A teardown assigns no handle. -/
theorem StopAt.typed {require : Bool}
    (h : StopAt s later (.assignWorkerThread role t require :: rest))
    (hlater : .assignWorkerThread role t require :: rest ≠ later) : False := by
  rcases h.next rfl with heq | hmem | ⟨_, _, heq, -⟩
  · exact hlater heq
  · exact assign_notMem.1 hmem
  · cases heq

/-- A start assigns a handle to the slot of its own role. -/
theorem StartAt.typed {require : Bool}
    (h : StartAt s later (.assignWorkerThread role t require :: rest))
    (hlater : .assignWorkerThread role t require :: rest ≠ later) : s.roleOf t = some role := by
  rcases h.next rfl with heq | hmem | ⟨_, _, heq, hrole⟩
  · exact absurd heq hlater
  · exact absurd hmem (assign_notMem.2 _)
  · cases heq
    exact hrole

/-- What the controller has to do names a thread only with its role. -/
theorem Control.typed (h : Control s) {require : Bool}
    (hcontroller : s.controller = .assignWorkerThread role t require :: rest) :
    s.roleOf t = some role := by
  cases h with
  | starting at_start =>
    rw [hcontroller] at at_start
    exact at_start.typed (by simp)
  | assigning controller _ _ supervised =>
    cases hcontroller.symm.trans controller
    exact supervised.role
  | stopping at_stop =>
    rw [hcontroller] at at_stop
    exact (at_stop.typed (by simp)).elim
  | down controller | trying controller | failing controller | up controller
  | clearing controller | joining controller | awaiting controller =>
    cases hcontroller.symm.trans controller

/-- So does the supervisor. -/
theorem SupervisorAt.typed {require : Bool}
    (h : SupervisorAt s (.assignWorkerThread role t require :: rest)) :
    s.roleOf t = some role := by
  cases h with
  | stopping at_stop => exact (at_stop.typed (by simp)).elim
  | starting at_start => exact at_start.typed (by simp)

/-- Joins of single threads stand in no script; they come out of the slots. -/
theorem joinThread_notMem :
    .joinThread t ∉ stopPipeline ∧ ∀ eye, .joinThread t ∉ startWorkers eye := by
  refine ⟨by simp [stopPipeline], fun eye => ?_⟩
  cases eye <;> simp [startWorkers]

/-- Whom `stopPipeline` waits for. -/
theorem StopAt.join (h : StopAt s later (.joinThread t :: rest))
    (hlater : .joinThread t :: rest ≠ later) : ∃ role, s.roleOf t = some role ∧
      role ≠ .restart_supervisor ∧ s.pipeline_running_ = false := by
  rcases h.next rfl with heq | hmem | ⟨_, role, heq, hrole⟩
  · exact absurd heq hlater
  · exact absurd hmem joinThread_notMem.1
  · cases heq
    exact ⟨role, hrole⟩

/-- A start joins nobody. -/
theorem StartAt.no_join (h : StartAt s later (.joinThread t :: rest)) :
    .joinThread t :: rest = later := by
  rcases h.next rfl with heq | hmem | ⟨_, _, heq, -⟩
  · exact heq
  · exact absurd hmem (joinThread_notMem.2 _)
  · cases heq

/-- Whom the supervisor waits for. -/
theorem SupervisorAt.join (h : SupervisorAt s (.joinThread t :: rest)) :
    ∃ role, s.roleOf t = some role ∧ role ≠ .restart_supervisor ∧
      s.pipeline_running_ = false := by
  cases h with
  | stopping at_stop => exact at_stop.join (by simp)
  | starting at_start => cases at_start.no_join

/-- A start is not through before what follows it. -/
theorem StartAt.ne_nil (h : StartAt s later program) (hlater : later ≠ []) : program ≠ [] := by
  cases h with
  | raising | assigning => nofun
  | spawning => exact fun heq => hlater (List.append_eq_nil_iff.mp heq).2

/-- Wherever the controller is, a supervisor that still has something to do is the one. -/
theorem Control.supervisorAt (h : Control s) (hun : s.Unjoined id)
    (hrole : s.roleOf id = some .restart_supervisor) : s.Supervised id := by
  cases h with
  | down _ _ _ _ alone | trying _ _ _ alone | failing _ _ alone | starting _ _ alone
  | stopping _ _ _ alone => exact absurd hrole (alone id hun)
  | assigning _ _ _ supervised | up _ _ _ supervised | clearing _ _ _ supervised
  | joining _ _ _ supervised | awaiting _ _ supervised =>
    rw [supervised.unique id hun hrole]
    exact supervised

/-- A step of a thread keeps the invariant. -/
theorem WorkersInv.thread_step (h : WorkersInv s) (hprogram : s.programOf id = some (op :: rest))
    (hexec : s.exec (some id) answer recorder rest op = some (s', program)) :
    WorkersInv (s'.setProgram id program) := by
  have hinv := h.toHandlesInv
  have heffect := exec_effect hexec
  have hun := hinv.unjoined_of_program hprogram
  obtain ⟨role, hrole⟩ := hun.roleOf_isSome
  by_cases hsup : role = .restart_supervisor
  · subst hsup
    obtain ⟨p, hp, hat⟩ := (h.control.supervisorAt hun hrole).program
    cases hprogram.symm.trans hp
    obtain ⟨hdetached, hcontrol⟩ := h.control.supervisor hinv hrole hprogram hexec
    refine ⟨hinv.thread_step hprogram hexec ?_ ?_ ?_, hdetached.trans h.attached, hcontrol⟩
    · -- the supervisor joins workers only
      rintro rfl
      obtain ⟨role, hother, hne, -⟩ := hat.join
      cases hrole.symm.trans hother
      exact hne rfl
    · rintro r t require rfl
      exact hat.typed
    · intro r hr hne
      cases hrole.symm.trans hr
      exact absurd rfl hne
  -- a worker, or the encode thread that makes one
  · have hops := hinv.workers id role _ hrole hsup hprogram
    obtain ⟨hmoved, hops'⟩ := worker_exec hinv.slot_role hops hrole hexec
    refine ⟨hinv.thread_step hprogram hexec ?_ ?_ ?_, hmoved.detached.trans h.attached,
      h.control.worker hmoved.setProgram hun hrole hsup fun t p ht hp => ?_⟩
    · rintro rfl
      rcases hops _ List.mem_cons_self with hplain | ⟨rfl, other, hfrom, hother⟩
      · exact hplain
      · cases hrole.symm.trans hother
        rcases hfrom with h | h <;> cases h
    · rintro r t require rfl
      rcases hops _ List.mem_cons_self with hplain | ⟨-, hencode⟩
      · exact hplain.elim
      · exact hencode.2.1
    · intro r hr _
      cases hrole.symm.trans hr
      exact hops'
    · have hne : t ≠ id := by
        rintro rfl
        cases hrole.symm.trans ht
        exact hsup rfl
      rw [programOf_setProgram_of_ne hne]
      exact heffect.programOf_keep hp

/-- A step of the controller keeps the invariant. -/
theorem WorkersInv.controller_step (h : WorkersInv s) (hcontroller : s.controller = op :: rest)
    (hexec : s.exec none answer recorder rest op = some (s', program)) :
    WorkersInv { s' with controller := program } := by
  have hinv := h.toHandlesInv
  obtain ⟨hdetached, hcontrol⟩ := h.control.controller hinv hcontroller hexec
  refine ⟨hinv.controller_step hcontroller hexec ?_, hdetached.trans h.attached, hcontrol⟩
  rintro r t require rfl
  exact h.control.typed hcontroller

/-- A call of `start` or `stop` keeps the invariant. -/
theorem WorkersInv.call (h : WorkersInv s) (hidle : s.controller = [])
    (hslots : s'.slots = s.slots) (hthreads : s'.threads = s.threads)
    (hdetached : s'.detached = s.detached) (hp : programHandles s'.controller = [])
    (hcontrol : Control s') : WorkersInv s' where
  -- a call moves no handle: it only queues a script without any
  handles t := by
    have hcount := h.handles t
    rw [handleCount, hidle] at hcount
    rw [handleCount, hslots, hp, threadHandles, hthreads,
      alive_congr (unjoined_of_threads_eq hthreads)]
    exact hcount
  slot_role r t hslot := by
    rw [hslots] at hslot
    exact (roleOf_of_threads_eq hthreads t).trans (h.slot_role r t hslot)
  workers t role p hrole hne hp op hop := by
    rw [roleOf_of_threads_eq hthreads] at hrole
    rw [programOf, hthreads] at hp
    exact (h.workers t role p hrole hne hp op hop).mono fun u r hu =>
      (roleOf_of_threads_eq hthreads u).trans hu
  tidy t p hp := by
    rw [programOf, hthreads] at hp
    exact h.tidy t p hp
  controller_tidy := tidy_of_noHandles hp
  joined t p hp hun := by
    rw [programOf, hthreads] at hp
    rw [unjoined_of_threads_eq hthreads] at hun
    exact h.joined t p hp hun
  attached := hdetached.trans h.attached
  control := hcontrol

/-- Only the threads matter. -/
theorem NoThread.of_threads_eq (hthreads : s'.threads = s.threads) (h : s.NoThread role) :
    s'.NoThread role := fun t hun => by
  rw [roleOf_of_threads_eq hthreads]
  exact h t ((unjoined_of_threads_eq hthreads).mp hun)

/-- And the flag of the pipeline. -/
theorem Quiet.of_threads_eq (hthreads : s'.threads = s.threads)
    (hpipeline : s'.pipeline_running_ = s.pipeline_running_) (h : s.Quiet) : s'.Quiet where
  low := hpipeline.trans h.low
  workers role hne := (h.workers role hne).of_threads_eq hthreads

/-- While nothing runs, the controller has nothing to do only if nothing is there. -/
theorem Control.down_cases (h : Control s) (hidle : s.controller = [])
    (hrunning : s.running_ = false) : s.Quiet ∧ (∀ object ∈ s.objects, object = .capturer) ∧
      s.NoThread .restart_supervisor := by
  cases h with
  | down _ _ quiet objects alone => exact ⟨quiet, objects, alone⟩
  | up _ running => exact absurd (hrunning.symm.trans running) nofun
  | trying controller | failing controller | assigning controller | clearing controller
  | joining controller | awaiting controller => cases hidle.symm.trans controller
  | starting at_start => exact (at_start.ne_nil nofun hidle).elim
  | stopping _ busy => exact absurd hidle busy

/-- A call of `start` either ends at once or queues its script. -/
theorem WorkersInv.start (h : WorkersInv s) (hidle : s.controller = []) (call : StartCall) :
    WorkersInv (s.start call) := by
  unfold PipelineRun.start
  by_cases hrunning : s.running_ = true
  · rwa [if_pos hrunning]
  rw [if_neg hrunning, Bool.not_eq_true] at *
  obtain ⟨quiet, objects, alone⟩ := h.control.down_cases hidle hrunning
  -- a call that ends at once may leave a capturer
  have hends : ∀ s' : PipelineRun, s'.slots = s.slots → s'.threads = s.threads →
      s'.detached = s.detached → s'.controller = s.controller → s'.running_ = s.running_ →
      s'.pipeline_running_ = s.pipeline_running_ →
      (∀ object ∈ s'.objects, object ∈ s.objects ∨ object = .capturer) → WorkersInv s' := by
    intro s' hslots hthreads hdetached hcontroller hrun hpipeline hobjects
    have hnil := hcontroller.trans hidle
    refine h.call hidle hslots hthreads hdetached (by rw [hnil]; rfl) ?_
    exact .down hnil (hrun.trans hrunning) (quiet.of_threads_eq hthreads hpipeline)
      (fun object ho => (hobjects object ho).elim (objects object) id)
      (alone.of_threads_eq hthreads)
  have hcreate : ∀ object ∈ (s.create .capturer).objects,
      object ∈ s.objects ∨ object = .capturer := fun object ho =>
    (List.mem_cons.mp ho).symm
  -- a failed probe, a failed capturer, a failed check, and the way on
  split
  · exact hends _ rfl rfl rfl rfl rfl rfl fun object ho => Or.inl (List.mem_filter.mp ho).1
  dsimp only
  split
  · exact hends _ rfl rfl rfl rfl rfl rfl fun object ho => hcreate object (List.mem_filter.mp ho).1
  split
  · exact hends _ rfl rfl rfl rfl rfl rfl hcreate
  · refine h.call hidle rfl rfl rfl rfl (.trying rfl rfl ?_ ?_)
    · exact Quiet.of_threads_eq (s := s) rfl rfl quiet
    · exact NoThread.of_threads_eq (s := s) rfl alone

/-- Every move keeps the invariant. -/
theorem workersInv_step {a : PipelineMove} (h : WorkersInv s) (hstep : s.step a = some s') :
    WorkersInv s' := by
  cases a with
  | start call =>
    simp only [step] at hstep
    split at hstep <;> cases hstep
    rename_i hidle
    exact h.start (List.isEmpty_iff.mp hidle) call
  | stop =>
    simp only [step, stop] at hstep
    split_ifs at hstep with hidle hrunning <;> cases hstep
    · have hnil := List.isEmpty_iff.mp hidle
      -- `stop` begins only when no call is under way
      refine h.call hnil rfl rfl rfl rfl ?_
      cases h.control with
      | down _ running => exact absurd (running.symm.trans hrunning) nofun
      | up _ running slot supervised =>
        exact .clearing rfl rfl slot (Supervised.same (s := s) .of_fields supervised rfl)
      | trying controller | failing controller | assigning controller | clearing controller
      | joining controller | awaiting controller => cases hnil.symm.trans controller
      | starting at_start => exact (at_start.ne_nil nofun hnil).elim
      | stopping _ busy => exact absurd hnil busy
    · exact h
  | controller answer recorder =>
    simp only [step] at hstep
    split at hstep
    · cases hstep
    · rename_i op rest hcontroller
      obtain ⟨⟨s₁, program⟩, hexec, rfl⟩ := Option.map_eq_some_iff.mp hstep
      exact h.controller_step hcontroller hexec
  | thread id answer recorder =>
    simp only [step] at hstep
    split at hstep
    · rename_i role op rest joined hthread
      obtain ⟨⟨s₁, program⟩, hexec, rfl⟩ := Option.map_eq_some_iff.mp hstep
      exact h.thread_step (by rw [programOf, hthread]; rfl) hexec
    · cases hstep

/-- So it holds in every state of every run. -/
theorem workersInv_run {moves : List PipelineMove} (hrun : runSteps step {} moves = some s) :
    WorkersInv s :=
  runSteps_invariant (fun _ _ _ => workersInv_step) workersInv_initial hrun

/-! ## Teardown -/

/-- What an actor still has to do: the controller, or a thread. -/
def programAt (s : PipelineRun) : Option ℕ → Option (List PipelineOp)
  | none => some s.controller
  | some id => s.programOf id

/-- Operations that must not meet a worker. -/
def Exclusive : PipelineOp → Prop
  | .raisePipeline | .release _ => True
  | _ => False

/-- In the script of the teardown every join is in front of every release. -/
theorem join_notMem_of_release {object : PipelineObject}
    (h : .release object :: rest <:+ stopPipeline.tail) : .joinWorkerThread role ∉ rest := by
  have hall : ∀ todo ∈ stopPipeline.tail.tails,
      ∀ object ∈ [PipelineObject.capturer, .recorder, .postprocess, .encoder, .decoder,
        .eye_image_publisher], todo.head? = some (.release object) →
          ∀ role ∈ allRoles, PipelineOp.joinWorkerThread role ∉ todo.tail := by decide
  exact hall _ ((List.mem_tails _ _).mpr h) object (by cases object <;> decide) rfl role
    (mem_allRoles role)

/-- When a teardown releases an object, all workers have been joined. -/
theorem StopAt.quiet (h : StopAt s later program) (hprogram : program = op :: rest)
    (hop : Exclusive op) (hlater : op :: rest ≠ later) : s.Quiet := by
  cases h with
  | lowering =>
    cases hprogram
    exact hop.elim
  | @stopping todo suffix low cleared =>
    cases todo with
    | nil => exact absurd hprogram.symm hlater
    | cons first todo =>
      cases hprogram
      rcases stop_op_cases suffix with ⟨role, rfl⟩ | ⟨object, rfl⟩
      · exact hop.elim
      · refine ⟨low, fun role hne t hun hrole => ?_⟩
        -- a worker that is left has its join ahead, where there is none any more
        rcases cleared.workers t role hun hrole hne with hmem | hnone
        · exact join_notMem_of_release suffix ((List.mem_cons.mp hmem).resolve_left nofun)
        · cases hnone
  | awaiting =>
    cases hprogram
    exact hop.elim

/-- The pipeline is raised before the first worker is made. -/
theorem StartAt.quiet (h : StartAt s later program) (hprogram : program = op :: rest)
    (hop : Exclusive op) (hlater : op :: rest ≠ later) : s.Quiet := by
  cases h with
  | raising quiet => exact quiet
  | @spawning todo suffix high free =>
    cases todo with
    | nil => exact absurd hprogram.symm hlater
    | cons first todo =>
      cases hprogram
      obtain ⟨role, rfl⟩ := spawn_of_suffix suffix
      exact hop.elim
  | assigning =>
    cases hprogram
    exact hop.elim

/-- An exclusive operation of the supervisor is one of its teardown or its start. -/
theorem SupervisorAt.quiet (h : SupervisorAt s (op :: rest)) (hop : Exclusive op) : s.Quiet := by
  cases h with
  | waiting | trying => exact hop.elim
  | stopping at_stop =>
    refine at_stop.quiet rfl hop ?_
    rintro ⟨⟩
    exact hop.elim
  | starting at_start =>
    refine at_start.quiet rfl hop ?_
    rintro ⟨⟩
    exact hop.elim

/-- And one of the controller is one of its teardown or its start. -/
theorem Control.quiet (h : Control s) (hcontroller : s.controller = op :: rest)
    (hop : Exclusive op) : s.Quiet := by
  cases h with
  | down controller | up controller =>
    cases hcontroller.symm.trans controller
  | trying controller | failing controller | assigning controller | clearing controller
  | joining controller | awaiting controller =>
    cases hcontroller.symm.trans controller
    exact hop.elim
  | starting at_start =>
    refine at_start.quiet hcontroller hop ?_
    rintro ⟨⟩
    exact hop.elim
  | stopping at_stop => exact at_stop.quiet hcontroller hop nofun

/-- A pipeline is raised or taken apart only when no worker of it is left. -/
theorem WorkersInv.exclusive (h : WorkersInv s) {actor : Option ℕ}
    (hprogram : s.programAt actor = some (op :: rest)) (hop : Exclusive op) : s.Quiet := by
  cases actor with
  | none => exact h.control.quiet (Option.some.inj hprogram) hop
  | some id =>
    have hun := h.unjoined_of_program hprogram
    obtain ⟨role, hrole⟩ := hun.roleOf_isSome
    by_cases hsup : role = .restart_supervisor
    · subst hsup
      obtain ⟨p, hp, hat⟩ := (h.control.supervisorAt hun hrole).program
      cases hprogram.symm.trans hp
      exact hat.quiet hop
    · -- a worker has no such operation, whether plain or the encode thread
      rcases h.workers id role _ hrole hsup hprogram op List.mem_cons_self with
        hplain | ⟨-, hencode⟩
      · cases op <;> first | exact hplain.elim | exact hop.elim
      · cases op <;> first | exact hencode.elim | exact hop.elim

/-- While nothing runs and no call is under way, no thread is left. -/
theorem WorkersInv.down (h : WorkersInv s) (hidle : s.controller = [])
    (hrunning : s.running_ = false) : (∀ t, ¬s.Unjoined t) ∧
      (∀ t p, s.programOf t = some p → p = []) ∧ ∀ role, s.slots role = none := by
  obtain ⟨quiet, -, alone⟩ := h.control.down_cases hidle hrunning
  have hnone : ∀ role, s.NoThread role := fun role => by
    by_cases hrole : role = .restart_supervisor
    · rwa [hrole]
    · exact quiet.workers role hrole
  have hjoined : ∀ t, ¬s.Unjoined t := fun t hun => by
    obtain ⟨role, hrole⟩ := hun.roleOf_isSome
    exact hnone role t hun hrole
  exact ⟨hjoined, fun t p hp => h.joined t p hp (hjoined t),
    fun role => h.slot_eq_none (hnone role)⟩

/-- However the threads are interleaved: no thread joins itself; a thread that is still to be
joined has one handle, a joined one none; a pipeline is raised, and its objects are taken away,
only when no worker is left; and when `stop` is through, all threads are joined and at most a
capturer is left. -/
theorem teardown_exclusive {moves : List PipelineMove}
    (hrun : runSteps step {} moves = some s) :
    s.detached = false ∧
    (∀ t, s.handleCount t = if s.Unjoined t then 1 else 0) ∧
    (∀ actor op rest, s.programAt actor = some (op :: rest) → Exclusive op →
      s.pipeline_running_ = false ∧
        ∀ t, s.Unjoined t → s.roleOf t = some .restart_supervisor) ∧
    (s.controller = [] → s.running_ = false →
      (∀ t, ¬s.Unjoined t) ∧ (∀ t p, s.programOf t = some p → p = []) ∧
        (∀ role, s.slots role = none) ∧ s.pipeline_running_ = false ∧
        ∀ object ∈ s.objects, object = .capturer) := by
  have hinv := workersInv_run hrun
  refine ⟨hinv.attached, hinv.handles, fun actor op rest hprogram hop => ?_,
    fun hidle hrunning => ?_⟩
  -- only the supervisor may be left when the operation is made
  · have quiet := hinv.exclusive hprogram hop
    refine ⟨quiet.low, fun t hun => ?_⟩
    obtain ⟨role, hrole⟩ := hun.roleOf_isSome
    by_contra hne
    exact quiet.workers role (by rintro rfl; exact hne hrole) t hun hrole
  · obtain ⟨quiet, objects, -⟩ := hinv.control.down_cases hidle hrunning
    obtain ⟨hjoined, hended, hslots⟩ := hinv.down hidle hrunning
    exact ⟨hjoined, hended, hslots, quiet.low, objects⟩

/-- A call of `start`, and a call of `stop` that meets the encode thread while it holds the
handle of a capture thread that is in no slot. -/
def stopDuringSpawn : List PipelineMove :=
  let controller := PipelineMove.controller true true
  let thread := fun id => PipelineMove.thread id true true
  .start ⟨false, false, true, true, true⟩ :: List.replicate 6 controller ++
    List.replicate 8 (thread 0) ++
    [.stop, controller, controller, thread 1, controller, controller, controller, controller,
      thread 0, thread 2, thread 0, thread 0, thread 0, thread 3, thread 0, thread 0] ++
    List.replicate 10 controller

/-- A run in which the encode thread makes workers while `stop` tears down. -/
theorem teardown_exclusive_spawn : ∃ s, runSteps step {} stopDuringSpawn = some s ∧
    s.threads.length = 4 ∧ s.controller = [] ∧ s.running_ = false ∧ s.objects = [] ∧
      ∀ t, ¬s.Unjoined t := by
  refine ⟨_, rfl, rfl, rfl, rfl, rfl, ?_⟩
  exact ((@teardown_exclusive _ stopDuringSpawn rfl).2.2.2 rfl rfl).1

end PipelineRun

end TeleopBridge.Video
