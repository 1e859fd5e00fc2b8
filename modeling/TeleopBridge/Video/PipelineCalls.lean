import Mathlib.Algebra.GroupWithZero.Nat
import TeleopBridge.Support.Fairness
import TeleopBridge.Video.PipelineTeardown

/-!
# Calls of Start and Stop Return

A thread that joins another one waits for it, and the threads of the pipeline join each other.
None of them waits in a circle: the controller may wait for the supervisor, that for a worker,
and the encode thread for a thread that it made, which waits for nobody.

## Key Results

- `exec_work`: once nothing is to run, a step spins in place or leaves less to do.
- `WorkersInv.advances`: while a call is under way, somebody can go on.
- `calls_return`: in every fair run, every call returns.
-/

namespace TeleopBridge.Video

open Support

/-! ## What is left to do -/

/-- A bound on what a thread of the role does when nothing is to run. -/
def WorkerRole.work : WorkerRole → ℕ
  | .encode => 40
  | _ => 10

namespace PipelineOp

/-- A bound on the steps that an operation entails when nothing is to run. -/
def work : PipelineOp → ℕ
  | .spawn role _ => role.work + 4
  | .assignWorkerThread .. => 3
  | .joinWorkerThread _ | .superviseRestart | .requestPipelineRestart => 2
  | .startPipeline _ => 80
  | .spawnWorkers => 30
  | .initializePostprocess | .initializeEncoder | .startCapturer _ | .captureLoop => 3
  | _ => 1

/-- A loop that goes round while the pipeline runs. -/
def Spins : PipelineOp → Prop
  | .workerLoop | .captureLoop => True
  | _ => False

end PipelineOp

def programWork (program : List PipelineOp) : ℕ := (program.map PipelineOp.work).sum

@[simp] theorem programWork_nil : programWork [] = 0 := rfl

@[simp] theorem programWork_cons (op : PipelineOp) (program : List PipelineOp) :
    programWork (op :: program) = op.work + programWork program := by
  simp [programWork]

@[simp] theorem programWork_append (program later : List PipelineOp) :
    programWork (program ++ later) = programWork program + programWork later := by
  simp [programWork]

/-- A thread has less to do than its making was counted for. -/
theorem WorkerRole.main_work (role : WorkerRole) : programWork role.main ≤ role.work := by
  cases role <;> decide

/-- A failed attempt leads to a teardown at most. -/
theorem StartCaller.failed_work (caller : StartCaller) : programWork caller.failed < 80 := by
  cases caller <;> decide

namespace PipelineRun

variable {s s' : PipelineRun} {self actor : Option ℕ} {answer recorder : Bool} {op : PipelineOp}
  {rest program : List PipelineOp} {id t : ℕ}

/-- The encode thread makes a few workers. -/
theorem spawnWorkers_work (s : PipelineRun) : programWork s.spawnWorkers < 30 := by
  unfold PipelineRun.spawnWorkers
  cases s.yuyv_direct_enabled_ <;> split <;> decide

/-- Storing a handle may lead to joins. -/
theorem assign_work (s : PipelineRun) (role : WorkerRole) (thread : ℕ) (require : Bool) :
    programWork (s.assign role thread require).2 < 3 := by
  unfold assign
  split <;> cases s.slots role <;> simp [PipelineOp.work]

/-- It makes no thread. -/
theorem assign_threads (s : PipelineRun) (role : WorkerRole) (thread : ℕ) (require : Bool) :
    (s.assign role thread require).1.threads = s.threads := by
  unfold assign
  split <;> rfl

/-- What the threads still have to do. -/
def threadsWork (s : PipelineRun) : ℕ := (s.threads.map fun th => programWork th.program).sum

/-- What all still have to do. -/
def work (s : PipelineRun) : ℕ := programWork s.controller + s.threadsWork

/-- A join changes nobody's program. -/
theorem threadsWork_markJoined : (s.markJoined t).threadsWork = s.threadsWork := by
  have hmap : ∀ (threads : List WorkerThread) (k : ℕ),
      (threads.modify k fun th => { th with joined := true }).map
        (fun th => programWork th.program) = threads.map fun th => programWork th.program := by
    intro threads
    induction threads with
    | nil => intro k; cases k <;> rfl
    | cons th threads ih =>
      intro k
      cases k with
      | zero => simp
      | succ k => simp [ih]
  unfold threadsWork markJoined
  rw [hmap]

/-- The work of the threads changes by what their one thread has left. -/
theorem threadsWork_setProgram (program : List PipelineOp) {q : List PipelineOp}
    (h : s.programOf id = some q) :
    (s.setProgram id program).threadsWork + programWork q =
      s.threadsWork + programWork program := by
  -- the list is changed at one place
  have hmodify : ∀ (threads : List WorkerThread) (k : ℕ),
      threads[k]?.map WorkerThread.program = some q →
      ((threads.modify k fun th => { th with program := program }).map
        fun th => programWork th.program).sum + programWork q =
      (threads.map fun th => programWork th.program).sum + programWork program := by
    intro threads
    induction threads with
    | nil => intro k hk; cases hk
    | cons th threads ih =>
      intro k hk
      cases k with
      | zero =>
        cases hk
        simp only [List.modify_zero_cons, List.map_cons, List.sum_cons]
        omega
      | succ k =>
        have hrest := ih k hk
        simp only [List.modify_succ_cons, List.map_cons, List.sum_cons]
        omega
  exact hmodify s.threads id h

/-- Once nothing is to run, a step spins in a loop or leaves less to do. -/
theorem exec_work (hrunning : s.running_ = false)
    (h : s.exec self answer recorder rest op = some (s', program)) :
    op.Spins ∧ s.pipeline_running_ = true ∧ s' = s ∧
        program = op :: rest ∨
      s'.threadsWork + programWork program < s.threadsWork + programWork (op :: rest) := by
  -- most operations leave the threads alone, and what they queue is worth less than they are
  have hkeep : s'.threads = s.threads → programWork program < programWork (op :: rest) →
      s'.threadsWork + programWork program < s.threadsWork + programWork (op :: rest) := by
    intro hthreads hless
    unfold threadsWork
    rw [hthreads]
    omega
  cases op with
  | spawn role require =>
    cases h
    right
    -- a new thread brings the work of its role
    have hmain := role.main_work
    simp only [threadsWork, List.map_append, List.map_singleton, List.sum_append,
      List.sum_singleton, programWork_cons, PipelineOp.work]
    omega
  | assignWorkerThread role thread require =>
    right
    have hassign := s.assign_work role thread require
    have hthreads := s.assign_threads role thread require
    simp only [exec] at h
    generalize s.assign role thread require = assigned at h hassign hthreads
    obtain ⟨s₁, ops⟩ := assigned
    cases h
    refine hkeep hthreads ?_
    simp only [programWork_append, programWork_cons, PipelineOp.work] at hassign ⊢
    omega
  | joinWorkerThread role =>
    right
    simp only [exec] at h
    split at h <;> cases h <;> refine hkeep rfl ?_ <;> simp [PipelineOp.work]
  | joinThread thread =>
    right
    simp only [exec] at h
    split_ifs at h <;> cases h
    · exact hkeep rfl (by simp [PipelineOp.work])
    · -- the thread that was joined has nothing left
      rw [threadsWork_markJoined]
      simp [PipelineOp.work]
  | startPipeline caller =>
    right
    simp only [exec, tryStart, hrunning, Bool.not_false, if_true] at h
    cases h
    have hfailed := caller.failed_work
    refine hkeep rfl ?_
    simp only [programWork_append, programWork_cons, PipelineOp.work]
    omega
  | supervise | superviseRestart =>
    right
    simp only [exec, hrunning, Bool.not_false, if_true] at h
    cases h
    exact hkeep rfl (by simp [PipelineOp.work])
  | spawnWorkers =>
    right
    cases h
    have hspawn := s.spawnWorkers_work
    refine hkeep rfl ?_
    simp only [programWork_append, programWork_cons, PipelineOp.work]
    omega
  | initializePostprocess | initializeEncoder | initializeEyeImage =>
    right
    simp only [exec, initializeComponent] at h
    split at h <;> cases h <;> refine hkeep rfl ?_ <;> simp [PipelineOp.work] <;> omega
  | initializeDecoder =>
    right
    cases h
    refine hkeep ?_ (by simp [PipelineOp.work])
    split_ifs <;> rfl
  | workerLoop =>
    cases h
    -- a loop goes on exactly while the pipeline runs
    by_cases hpipeline : s.pipeline_running_ = true
    · exact Or.inl ⟨trivial, hpipeline, rfl, by rw [if_pos hpipeline]⟩
    · right
      refine hkeep rfl ?_
      rw [if_neg hpipeline]
      simp [PipelineOp.work]
  | captureLoop =>
    cases h
    by_cases hspin : s.pipeline_running_ = true ∧ answer = true
    · exact Or.inl ⟨trivial, hspin.1, rfl, by simp [hspin]⟩
    · right
      refine hkeep rfl ?_
      split_ifs with hpipeline hanswer
      · simp [PipelineOp.work]
      · exact absurd ⟨by simpa using hpipeline, hanswer⟩ hspin
      · simp [PipelineOp.work]
  | checkPipeline | startCapturer _ | requestPipelineRestart =>
    right
    cases h
    refine hkeep rfl ?_
    split_ifs <;> simp [PipelineOp.work] <;> omega
  | lowerRunning | clearRequest | lowerPipeline | raisePipeline | release _ | setRequest =>
    right
    cases h
    exact hkeep rfl (by simp [PipelineOp.work])

/-! ## Who can go on -/

/-- The move of an actor: the controller, or a thread. -/
def moveOf : Option ℕ → Bool → Bool → PipelineMove
  | none => .controller
  | some id => .thread id

/-- A move tells who makes it. -/
theorem moveOf_actor {other : Option ℕ} {answer' recorder' : Bool}
    (h : moveOf actor answer recorder = moveOf other answer' recorder') : actor = other := by
  cases actor <;> cases other <;> cases h <;> rfl

/-- What an actor still has to do is replaced. -/
def setProgramAt (s : PipelineRun) : Option ℕ → List PipelineOp → PipelineRun
  | none, program => { s with controller := program }
  | some id, program => s.setProgram id program

/-- A move of an actor makes its next operation. -/
theorem step_moveOf (hprogram : s.programAt actor = some (op :: rest)) :
    s.step (moveOf actor answer recorder) =
      (s.exec actor answer recorder rest op).map fun next => next.1.setProgramAt actor next.2 := by
  cases actor with
  | none =>
    have hcontroller : s.controller = op :: rest := Option.some.inj hprogram
    simp only [moveOf, step, hcontroller]
    rfl
  | some id =>
    obtain ⟨⟨role, program, joined⟩, hthread, hp⟩ := Option.map_eq_some_iff.mp hprogram
    cases hp
    simp only [moveOf, step, hthread]
    rfl

/-- Writing back the program that is there changes nothing. -/
theorem setProgramAt_self (hprogram : s.programAt actor = some program) :
    s.setProgramAt actor program = s := by
  cases actor with
  | none =>
    have hp : s.controller = program := Option.some.inj hprogram
    rw [setProgramAt, ← hp]
  | some id =>
    obtain ⟨thread, hthread, rfl⟩ := Option.map_eq_some_iff.mp hprogram
    -- the list of threads is the same at every place
    have hsame : s.threads.modify id (fun t => { t with program := thread.program }) =
        s.threads := by
      refine List.ext_getElem? fun k => ?_
      rw [List.getElem?_modify]
      by_cases hk : id = k
      · subst hk
        simp [hthread]
      · simp [hk]
    rw [setProgramAt, setProgram, hsame]

/-- Only an actor with an operation left can move. -/
theorem programAt_of_step (h : s.step (moveOf actor answer recorder) = some s') :
    ∃ op rest, s.programAt actor = some (op :: rest) := by
  cases actor with
  | none =>
    simp only [moveOf, step] at h
    split at h
    · cases h
    · rename_i op rest hcontroller
      exact ⟨op, rest, congrArg some hcontroller⟩
  | some id =>
    simp only [moveOf, step] at h
    split at h
    · rename_i role op rest joined hthread
      exact ⟨op, rest, by rw [programAt, programOf, hthread]; rfl⟩
    · cases h

/-- What an actor that takes a step leaves to do. -/
theorem work_setProgramAt (hprogram : s.programAt actor = some (op :: rest))
    (hexec : s.exec actor answer recorder rest op = some (s', program)) :
    (s'.setProgramAt actor program).work + s.threadsWork + programWork (op :: rest) =
      s.work + s'.threadsWork + programWork program := by
  have hcontroller := exec_controller hexec
  cases actor with
  | none =>
    have hp : s.controller = op :: rest := Option.some.inj hprogram
    show programWork program + s'.threadsWork + _ + _ = _
    rw [work, hp]
    omega
  -- the work of the thread is part of the work of all threads
  | some id =>
    have hkeep := (exec_effect hexec).programOf_keep hprogram
    have hset := threadsWork_setProgram program hkeep
    have hsame : (s'.setProgram id program).controller = s.controller := hcontroller
    show (s'.setProgram id program).work + _ + _ = _
    unfold work
    rw [hsame]
    omega

/-- The actor can take a step, whatever it meets. -/
def Enabled (s : PipelineRun) (actor : Option ℕ) : Prop :=
  ∀ answer recorder, (s.step (moveOf actor answer recorder)).isSome

/-- The actor can take a step, and does not only spin. -/
structure Advances (s : PipelineRun) (actor : Option ℕ) : Prop where
  enabled : s.Enabled actor
  no_spin : ∀ op rest, s.programAt actor = some (op :: rest) → op.Spins →
    s.pipeline_running_ = false

/-- Once nothing is to run, a step spins in place or leaves less to do; an actor that advances
does not spin. -/
theorem step_work (hrunning : s.running_ = false)
    (hstep : s.step (moveOf actor answer recorder) = some s') :
    s' = s ∧ ¬s.Advances actor ∨ s'.work < s.work := by
  obtain ⟨op, rest, hprogram⟩ := programAt_of_step hstep
  rw [step_moveOf hprogram] at hstep
  obtain ⟨⟨s₁, program⟩, hexec, rfl⟩ := Option.map_eq_some_iff.mp hstep
  have hwork := work_setProgramAt hprogram hexec
  -- either it spins, and nothing has changed, or it leaves less to do
  rcases exec_work hrunning hexec with ⟨hloop, hpipeline, rfl, rfl⟩ | hless
  · refine Or.inl ⟨setProgramAt_self hprogram, fun hadvances => ?_⟩
    have hlow := hadvances.no_spin op rest hprogram hloop
    exact absurd (hpipeline.symm.trans hlow) nofun
  · right
    dsimp only
    omega

/-- Only a thread that has to wait cannot go on. -/
theorem exec_isSome (hjoin : ∀ t, op = .joinThread t → s.ended t = true)
    (hsupervise : op = .supervise → s.running_ = false) :
    (s.exec self answer recorder rest op).isSome := by
  cases op with
  -- two operations can block, and neither does here
  | joinThread t =>
    simp only [exec, hjoin t rfl, if_true]
    split_ifs <;> rfl
  | supervise =>
    simp only [exec, hsupervise rfl]
    rfl
  | joinWorkerThread role =>
    simp only [exec]
    split <;> rfl
  | superviseRestart | initializeEyeImage =>
    simp only [exec]
    split <;> rfl
  | _ => rfl

/-- An operation that neither blocks nor spins takes its actor further. -/
theorem advances_of_next (hprogram : s.programAt actor = some (op :: rest))
    (hjoin : ∀ t, op = .joinThread t → s.ended t = true)
    (hsupervise : op = .supervise → s.running_ = false)
    (hspins : op.Spins → s.pipeline_running_ = false) : s.Advances actor where
  enabled answer recorder := by
    rw [step_moveOf hprogram, Option.isSome_map]
    exact exec_isSome hjoin hsupervise
  no_spin op' rest' hprogram' := by
    cases hprogram.symm.trans hprogram'
    exact hspins

/-- A thread that has not ended still has something to do. -/
theorem programOf_of_not_ended {role : WorkerRole} (hrole : s.roleOf t = some role)
    (hended : ¬s.ended t = true) : ∃ op rest, s.programOf t = some (op :: rest) := by
  obtain ⟨thread, hthread, -⟩ := Option.map_eq_some_iff.mp hrole
  have hp : s.programOf t = some thread.program := by rw [programOf, hthread]; rfl
  cases hprogram : thread.program with
  | nil =>
    rw [hprogram] at hp
    exact absurd (ended_iff.mpr hp) hended
  | cons op rest => exact ⟨op, rest, hprogram ▸ hp⟩

/-- When the pipeline is low, a worker advances, or the thread that it waits for. -/
theorem HandlesInv.worker_advances (hinv : HandlesInv s) (hlow : s.pipeline_running_ = false)
    {role : WorkerRole} (hrole : s.roleOf t = some role) (hne : role ≠ .restart_supervisor)
    (hended : ¬s.ended t = true) : ∃ actor, s.Advances actor := by
  obtain ⟨op, rest, hp⟩ := programOf_of_not_ended hrole hended
  have hop := hinv.workers t role _ hrole hne hp op List.mem_cons_self
  have hsupervise : op = .supervise → s.running_ = false := by
    rintro rfl
    rcases hop with hplain | ⟨-, hencode⟩
    · exact hplain.elim
    · exact hencode.elim
  -- the worker itself goes on, unless it waits in a join
  by_cases hjoin : ∀ u, op = .joinThread u → s.ended u = true
  · exact ⟨some t, advances_of_next hp hjoin hsupervise fun _ => hlow⟩
  -- only the encode thread joins, and those it joins do not
  push Not at hjoin
  obtain ⟨u, rfl, hu⟩ := hjoin
  rcases hop with hplain | ⟨-, other, hfrom, hother⟩
  · exact hplain.elim
  obtain ⟨op', rest', hp'⟩ := programOf_of_not_ended hother hu
  have hnot : other ≠ .encode ∧ other ≠ .restart_supervisor := by
    rcases hfrom with rfl | rfl <;> exact ⟨nofun, nofun⟩
  have hplain := (hinv.workers u other _ hother hnot.2 hp' op' List.mem_cons_self).resolve_right
    fun h => hnot.1 h.1
  refine ⟨some u, advances_of_next hp' ?_ ?_ fun _ => hlow⟩
  · rintro v rfl
    exact hplain.elim
  · rintro rfl
    exact hplain.elim

/-- A manager advances, or a worker that it waits for. -/
theorem HandlesInv.manager_advances (hinv : HandlesInv s) (hrunning : s.running_ = false)
    (hprogram : s.programAt actor = some (op :: rest)) (hspins : ¬op.Spins)
    (hjoin : ∀ t, op = .joinThread t → ∃ role, s.roleOf t = some role ∧
      role ≠ .restart_supervisor ∧ s.pipeline_running_ = false) : ∃ actor, s.Advances actor := by
  by_cases hwaits : ∀ t, op = .joinThread t → s.ended t = true
  · exact ⟨actor, advances_of_next hprogram hwaits (fun _ => hrunning)
      fun h => absurd h hspins⟩
  push Not at hwaits
  obtain ⟨t, rfl, hended⟩ := hwaits
  obtain ⟨role, hrole, hne, hlow⟩ := hjoin t rfl
  exact hinv.worker_advances hlow hrole hne hended

/-- No operation of a teardown is a loop. -/
theorem StopAt.not_spins {later : List PipelineOp} (h : StopAt s later program)
    (hprogram : program = op :: rest) (hlater : op :: rest = later → ¬op.Spins) : ¬op.Spins := by
  rcases h.next hprogram with heq | hmem | ⟨_, _, rfl, -⟩
  · exact hlater heq
  · have hall : ∀ op ∈ stopPipeline, ¬op.Spins := by simp [stopPipeline, PipelineOp.Spins]
    exact hall op hmem
  · exact id

/-- Nor is one of a start. -/
theorem StartAt.not_spins {later : List PipelineOp} (h : StartAt s later program)
    (hprogram : program = op :: rest) (hlater : op :: rest = later → ¬op.Spins) : ¬op.Spins := by
  rcases h.next hprogram with heq | hmem | ⟨_, _, rfl, -⟩
  · exact hlater heq
  · have hall : ∀ eye, ∀ op ∈ startWorkers eye, ¬op.Spins := by
      rintro (_ | _) <;> simp [startWorkers, PipelineOp.Spins]
    exact hall _ op hmem
  · exact id

/-- The supervisor spins nowhere. -/
theorem SupervisorAt.not_spins (h : SupervisorAt s (op :: rest)) : ¬op.Spins := by
  cases h with
  | waiting | trying => exact id
  | stopping at_stop => exact at_stop.not_spins rfl (by rintro ⟨⟩; exact id)
  | starting at_start => exact at_start.not_spins rfl (by rintro ⟨⟩; exact id)

/-- Nor does the controller. -/
theorem Control.not_spins (h : Control s) (hcontroller : s.controller = op :: rest) :
    ¬op.Spins := by
  cases h with
  | down controller | up controller => cases hcontroller.symm.trans controller
  | trying controller | failing controller | assigning controller | clearing controller
  | joining controller | awaiting controller =>
    cases hcontroller.symm.trans controller
    exact id
  | starting at_start => exact at_start.not_spins hcontroller (by rintro ⟨⟩; exact id)
  | stopping at_stop => exact at_stop.not_spins hcontroller nofun

/-- Once nothing is to run, somebody advances until the call returns. -/
theorem WorkersInv.advances (h : WorkersInv s) (hrunning : s.running_ = false)
    (hbusy : s.controller ≠ []) : ∃ actor, s.Advances actor := by
  have hinv := h.toHandlesInv
  obtain ⟨op, rest, hcontroller⟩ := List.exists_cons_of_ne_nil hbusy
  have hprogram : s.programAt none = some (op :: rest) := congrArg some hcontroller
  have hspins := h.control.not_spins hcontroller
  cases h.control with
  | down controller | up controller => exact absurd controller hbusy
  | trying controller | failing controller | assigning controller | clearing controller
  | joining controller =>
    refine hinv.manager_advances hrunning hprogram hspins fun t hop => ?_
    subst hop
    cases hcontroller.symm.trans controller
  | starting at_start =>
    refine hinv.manager_advances hrunning hprogram hspins fun t hop => ?_
    subst hop
    rw [hcontroller] at at_start
    cases at_start.no_join
  -- a teardown may wait for a worker, which goes on then
  | stopping at_stop =>
    refine hinv.manager_advances hrunning hprogram hspins fun t hop => ?_
    subst hop
    rw [hcontroller] at at_stop
    exact at_stop.join nofun
  | @awaiting t controller _ supervised =>
    by_cases hended : s.ended t = true
    · refine ⟨none, advances_of_next hprogram (fun u hop => ?_) (fun _ => hrunning)
        fun h => absurd h hspins⟩
      subst hop
      cases hcontroller.symm.trans controller
      exact hended
    -- the supervisor has not ended
    obtain ⟨op', rest', hp⟩ := programOf_of_not_ended supervised.role hended
    have hprogram' : s.programAt (some t) = some (op' :: rest') := hp
    obtain ⟨p, hp', hat⟩ := supervised.program
    cases hp.symm.trans hp'
    refine hinv.manager_advances hrunning hprogram' hat.not_spins fun u hop => ?_
    subst hop
    exact hat.join

/-! ## Every call returns -/

/-- Nobody raises `running_` but `start`. -/
theorem exec_running (hrunning : s.running_ = false)
    (h : s.exec self answer recorder rest op = some (s', program)) : s'.running_ = false := by
  cases op with
  | startPipeline caller =>
    simp only [exec, tryStart, hrunning, Bool.not_false, if_true] at h
    cases h
    exact hrunning
  | assignWorkerThread role thread require =>
    simp only [exec, assign] at h
    split at h <;> cases h <;> exact hrunning
  | joinWorkerThread role =>
    simp only [exec] at h
    split at h <;> cases h <;> exact hrunning
  | joinThread thread =>
    simp only [exec] at h
    split_ifs at h <;> cases h <;> exact hrunning
  | supervise | superviseRestart =>
    simp only [exec, hrunning, Bool.not_false, if_true] at h
    cases h
    exact hrunning
  | initializePostprocess | initializeEncoder | initializeEyeImage =>
    simp only [exec, initializeComponent] at h
    split at h <;> cases h <;> exact hrunning
  | initializeDecoder =>
    cases h
    split_ifs <;> exact hrunning
  | lowerRunning =>
    cases h
    rfl
  | spawn _ _ | clearRequest | lowerPipeline | raisePipeline | release _ | checkPipeline
  | spawnWorkers | startCapturer _ | workerLoop | captureLoop | requestPipelineRestart
  | setRequest =>
    cases h
    exact hrunning

/-- Programs do not touch the flag. -/
theorem setProgramAt_running : (s.setProgramAt actor program).running_ = s.running_ := by
  cases actor <;> rfl

/-- While a call is under way, every step is one of the controller or of a thread. -/
theorem moveOf_of_step {a : PipelineMove} (hbusy : s.controller ≠ [])
    (hstep : s.step a = some s') : ∃ actor answer recorder, a = moveOf actor answer recorder := by
  cases a with
  -- no second call begins before the first one has returned
  | start call =>
    simp only [step] at hstep
    split at hstep
    · exact absurd (List.isEmpty_iff.mp ‹_›) hbusy
    · cases hstep
  | stop =>
    simp only [step] at hstep
    split at hstep
    · exact absurd (List.isEmpty_iff.mp ‹_›) hbusy
    · cases hstep
  | controller answer recorder => exact ⟨none, answer, recorder, rfl⟩
  | thread id answer recorder => exact ⟨some id, answer, recorder, rfl⟩

/-- A call is under way that is to leave nothing running. -/
structure Leaving (s : PipelineRun) : Prop where
  inv : WorkersInv s
  running : s.running_ = false
  busy : s.controller ≠ []

/-- A call of `start` is under way. -/
structure Entering (s : PipelineRun) : Prop where
  inv : WorkersInv s
  running : s.running_ = true
  busy : s.controller ≠ []

/-- The actor takes a step. -/
def By (actor : Option ℕ) (a : PipelineMove) : Prop :=
  ∃ answer recorder, a = moveOf actor answer recorder

/-- Once the flag is low it stays so until the call returns. -/
theorem Leaving.step {a : PipelineMove} (h : s.Leaving) (hstep : s.step a = some s') :
    s'.controller = [] ∨ s'.Leaving := by
  obtain ⟨actor, answer, recorder, rfl⟩ := moveOf_of_step h.busy hstep
  have hinv := workersInv_step h.inv hstep
  obtain ⟨op, rest, hprogram⟩ := programAt_of_step hstep
  rw [step_moveOf hprogram] at hstep
  obtain ⟨⟨s₁, program⟩, hexec, rfl⟩ := Option.map_eq_some_iff.mp hstep
  by_cases hdone : (s₁.setProgramAt actor program).controller = []
  · exact Or.inl hdone
  · exact Or.inr ⟨hinv, setProgramAt_running.trans (exec_running h.running hexec), hdone⟩

variable {e : Execution step}

/-- A call that is to leave nothing running returns. -/
theorem leaving_returns (hfair : ∀ actor, e.Fair (fun s => s.Enabled actor) (By actor)) :
    e.LeadsTo Leaving (fun s => s.controller = []) := by
  refine Execution.leadsTo_of_rank work fun r i hi => ?_
  -- the rank is the work; somebody can always lower it, and fairness has him move
  obtain ⟨actor, hactor⟩ := hi.1.inv.advances hi.1.running hi.1.busy
  refine Execution.leadsTo_of_fair (P := fun s => (s.Leaving ∧ s.work = r) ∧ s.Advances actor)
    (Q := fun s => s.controller = [] ∨ s.Leaving ∧ s.work < r)
    (hfair actor) (fun s hs => hs.2.enabled) ?_ i ⟨hi, hactor⟩
  rintro s a s' ⟨⟨hleaving, hwork⟩, hadvances⟩ hstep
  obtain ⟨other, answer, recorder, rfl⟩ := moveOf_of_step hleaving.busy hstep
  rcases step_work hleaving.running hstep with ⟨rfl, hspins⟩ | hless
  · right
    refine ⟨⟨⟨hleaving, hwork⟩, hadvances⟩, ?_⟩
    -- an actor that advances does not spin
    rintro ⟨answer', recorder', heq⟩
    rw [moveOf_actor heq] at hspins
    exact hspins hadvances
  · left
    rcases hleaving.step hstep with hdone | hleaving'
    · exact Or.inl hdone
    · exact Or.inr ⟨hleaving', hwork ▸ hless⟩

/-- What the controller does in `start`. -/
def Starts : PipelineOp → Prop
  | .spawn .. | .assignWorkerThread .. | .raisePipeline | .lowerRunning | .startPipeline _ => True
  | _ => False

/-- An attempt to start queues a bounded script. -/
theorem tryStart_work (s : PipelineRun) (caller : StartCaller) (answer recorder : Bool) :
    programWork (s.tryStart caller answer recorder).2 < 80 := by
  have hfailed := caller.failed_work
  have hstarted : programWork caller.started < 80 := by cases caller <;> decide
  have hall : ∀ eye, programWork (startWorkers eye ++ caller.started) < 80 := by
    rintro (_ | _) <;> cases caller <;> decide
  unfold tryStart
  split_ifs <;> first | exact hfailed | exact hstarted | exact hall _

/-- These never wait. -/
theorem exec_of_starts (hop : Starts op) (s : PipelineRun) (self : Option ℕ)
    (answer recorder : Bool) (rest : List PipelineOp) :
    ∃ s' program, s.exec self answer recorder rest op = some (s', program) ∧
      programWork program < programWork (op :: rest) := by
  cases op with
  -- each operation is worth more than all that it may queue
  | spawn role require =>
    refine ⟨_, _, rfl, ?_⟩
    simp [PipelineOp.work]
  | assignWorkerThread role thread require =>
    refine ⟨_, (s.assign role thread require).2 ++ rest, rfl, ?_⟩
    have hassign := s.assign_work role thread require
    simp only [programWork_append, programWork_cons, PipelineOp.work]
    omega
  | raisePipeline | lowerRunning =>
    refine ⟨_, _, rfl, ?_⟩
    simp [PipelineOp.work]
  | startPipeline caller =>
    refine ⟨_, (s.tryStart caller answer recorder).2 ++ rest, rfl, ?_⟩
    have htry := s.tryStart_work caller answer recorder
    simp only [programWork_append, programWork_cons, PipelineOp.work]
    omega
  | _ => exact hop.elim

/-- A call that is still to run makes operations of a start. -/
theorem Entering.starts (h : s.Entering) (hcontroller : s.controller = op :: rest) :
    Starts op := by
  have hnot : s.running_ ≠ false := by rw [h.running]; nofun
  cases h.inv.control with
  | down controller | up controller => cases hcontroller.symm.trans controller
  | clearing _ running | joining _ running | awaiting _ running | stopping _ _ running =>
    exact absurd running hnot
  | trying controller | failing controller | assigning controller =>
    cases hcontroller.symm.trans controller
    trivial
  -- its own script, what follows it, or a handle that it stores
  | starting at_start =>
    rcases at_start.next hcontroller with heq | hmem | ⟨_, _, rfl, -⟩
    · cases heq
      trivial
    · have hall : ∀ eye, ∀ op ∈ startWorkers eye, Starts op := by
        rintro (_ | _) <;> simp [startWorkers, Starts]
      exact hall _ op hmem
    · trivial

/-- `start` never waits, and a step of the controller leaves it less to do. -/
theorem Entering.exec (h : s.Entering) (answer recorder : Bool) :
    ∃ s', s.step (moveOf none answer recorder) = some s' ∧
      programWork s'.controller < programWork s.controller := by
  obtain ⟨op, rest, hcontroller⟩ := List.exists_cons_of_ne_nil h.busy
  obtain ⟨s', program, hexec, hless⟩ :=
    exec_of_starts (h.starts hcontroller) s none answer recorder rest
  refine ⟨s'.setProgramAt none program, ?_, hcontroller ▸ hless⟩
  have hprogram : s.programAt none = some (op :: rest) := congrArg some hcontroller
  rw [step_moveOf hprogram, hexec]
  rfl

/-- A call of `start` returns, or turns to leave nothing running. -/
theorem entering_returns (hfair : ∀ actor, e.Fair (fun s => s.Enabled actor) (By actor)) :
    e.LeadsTo Entering (fun s => s.controller = [] ∨ s.Leaving) := by
  refine Execution.leadsTo_of_rank (fun s => programWork s.controller) fun r => ?_
  -- the rank is the script of the controller, which never blocks here
  refine Execution.leadsTo_of_fair (hfair none) (fun s hs answer recorder => ?_) ?_
  · obtain ⟨s', hstep, -⟩ := hs.1.exec answer recorder
    rw [hstep]
    rfl
  rintro s a s' ⟨hentering, hwork⟩ hstep
  have hinv := workersInv_step hentering.inv hstep
  obtain ⟨actor, answer, recorder, rfl⟩ := moveOf_of_step hentering.busy hstep
  by_cases hdone : s'.controller = []
  · exact Or.inl (Or.inl (Or.inl hdone))
  by_cases hrunning : s'.running_ = true
  · have hentering' : s'.Entering := ⟨hinv, hrunning, hdone⟩
    -- only the controller changes its script; the others wait beside it
    cases actor with
    | none =>
      obtain ⟨t, ht, hless⟩ := hentering.exec answer recorder
      cases hstep.symm.trans ht
      exact Or.inl (Or.inr ⟨hentering', hwork ▸ hless⟩)
    | some id =>
      refine Or.inr ⟨⟨hentering', ?_⟩, ?_⟩
      · obtain ⟨op, rest, hprogram⟩ := programAt_of_step hstep
        rw [step_moveOf hprogram] at hstep
        obtain ⟨⟨s₁, program⟩, hexec, rfl⟩ := Option.map_eq_some_iff.mp hstep
        have hsame : s₁.controller = s.controller := exec_controller hexec
        exact (congrArg programWork hsame).trans hwork
      · rintro ⟨answer', recorder', heq⟩
        cases moveOf_actor heq
  · exact Or.inl (Or.inl (Or.inr ⟨hinv, by simpa using hrunning, hdone⟩))

/-- However the steps are interleaved, every call of `start` and `stop` returns, if nobody who
can go on is held up forever. -/
theorem calls_return (e : Execution step) (hstart : e.state 0 = {})
    (hfair : ∀ actor, e.Fair (fun s => s.Enabled actor) (By actor)) :
    e.LeadsTo (fun s => s.controller ≠ []) (fun s => s.controller = []) := by
  intro i hbusy
  have hinv : ∀ j, WorkersInv (e.state j) := fun j =>
    Execution.stable (fun _ _ _ => workersInv_step) (Nat.zero_le j) (hstart ▸ workersInv_initial)
  by_cases hrunning : (e.state i).running_ = true
  · obtain ⟨j, hij, hdone | hleaving⟩ := entering_returns hfair i ⟨hinv i, hrunning, hbusy⟩
    · exact ⟨j, hij, hdone⟩
    · obtain ⟨k, hjk, hdone⟩ := leaving_returns hfair j hleaving
      exact ⟨k, hij.trans hjk, hdone⟩
  · exact leaving_returns hfair i ⟨hinv i, by simpa using hrunning, hbusy⟩

/-- The run in which `stop` meets the encode thread, and rests when all threads have ended. -/
theorem calls_return_spawn : ∃ (t : PipelineRun) (hrun : runSteps step {} stopDuringSpawn = some t),
    ∃ j, 16 ≤ j ∧ ((Execution.ofRun hrun).state j).controller = [] := by
  obtain ⟨t, hrun, hidle, hrunning⟩ : ∃ t, runSteps step {} stopDuringSpawn = some t ∧
      t.controller = [] ∧ t.running_ = false := ⟨_, rfl, rfl, rfl⟩
  have hinv := workersInv_run hrun
  refine ⟨t, hrun, calls_return (Execution.ofRun hrun) rfl (fun actor => ?_) 16 nofun⟩
  refine Execution.ofRun_fair hrun fun henabled => ?_
  obtain ⟨s', hstep⟩ := Option.isSome_iff_exists.mp (henabled true true)
  obtain ⟨op, rest, hprogram⟩ := programAt_of_step hstep
  cases actor with
  | none => cases hidle.symm.trans (Option.some.inj hprogram)
  | some id => cases (hinv.down hidle hrunning).2.1 id _ hprogram

end PipelineRun

end TeleopBridge.Video
