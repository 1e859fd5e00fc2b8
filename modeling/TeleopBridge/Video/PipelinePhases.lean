import Mathlib.Data.List.Infix
import TeleopBridge.Video.PipelineHandles

/-!
# Workers and Their Manager

A worker makes threads of the encode thread's own kinds at most. The one that runs
`stopPipeline` or `startPipeline` is their manager, be it the controller or the supervisor.
What holds at each place of the two programs is kept by the steps of the workers, and the
manager's next step leads to the next place.

## Key Results

- `worker_exec`: what a step of a worker leaves alone.
- `StopAt.exec`, `StartAt.exec`: a step of the manager.
-/

namespace TeleopBridge.Video

open Support

namespace PipelineRun

variable {s s' : PipelineRun} {self : Option ℕ} {answer recorder : Bool} {op : PipelineOp}
  {rest program : List PipelineOp}

/-! ## What a worker may do -/

/-- The roles whose threads the encode thread makes. -/
def FromEncode (role : WorkerRole) : Prop := role = .capture ∨ role = .encoder_dq

/-- Operations that touch neither threads nor the fields of the manager. -/
def PlainOp : PipelineOp → Prop
  | .checkPipeline | .initializePostprocess | .initializeEncoder | .initializeDecoder
  | .startCapturer _ | .initializeEyeImage | .workerLoop | .captureLoop
  | .requestPipelineRestart | .setRequest => True
  | _ => False

/-- What else the encode thread may do. -/
def EncodeOp (s : PipelineRun) : PipelineOp → Prop
  | .spawnWorkers => True
  | .spawn role require => FromEncode role ∧ require = true
  | .assignWorkerThread role t require => FromEncode role ∧ s.roleOf t = some role ∧ require = true
  | .joinThread t => ∃ role, FromEncode role ∧ s.roleOf t = some role
  | _ => False

/-- What a worker may do. -/
def WorkerOp (s : PipelineRun) (role : WorkerRole) (op : PipelineOp) : Prop :=
  PlainOp op ∨ role = .encode ∧ EncodeOp s op

/-- What a worker may do it may still do when no thread changes its role. -/
theorem WorkerOp.mono {role : WorkerRole} (h : s.WorkerOp role op)
    (hrole : ∀ t role, s.roleOf t = some role → s'.roleOf t = some role) :
    s'.WorkerOp role op := by
  rcases h with hplain | ⟨hencode, hop⟩
  · exact Or.inl hplain
  · refine Or.inr ⟨hencode, ?_⟩
    cases op with
    | assignWorkerThread r t require => exact ⟨hop.1, hrole t r hop.2.1, hop.2.2⟩
    | joinThread t =>
      obtain ⟨r, hr, ht⟩ := hop
      exact ⟨r, hr, hrole t r ht⟩
    | _ => exact hop

/-- The main functions of the workers do nothing that belongs to the manager alone. -/
theorem main_workerOp {role : WorkerRole} (hrole : role ≠ .restart_supervisor) :
    ∀ op ∈ role.main, s.WorkerOp role op := by
  cases role with
  | restart_supervisor => exact absurd rfl hrole
  | encode =>
    intro op hop
    simp only [WorkerRole.main, List.mem_cons, List.not_mem_nil, or_false] at hop
    rcases hop with rfl | rfl | rfl | rfl | rfl | rfl | rfl
    iterate 6 exact Or.inl trivial
    exact Or.inr ⟨rfl, trivial⟩
  | capture | encoder_dq | eye_image =>
    intro op hop
    simp only [WorkerRole.main, List.mem_cons, List.not_mem_nil, or_false] at hop
    rcases hop with rfl | rfl | rfl <;> exact Or.inl trivial

/-- What a step of a worker leaves alone, and which threads it can make. -/
structure WorkerMoved (s s' : PipelineRun) (role : WorkerRole) : Prop where
  running : s'.running_ = s.running_
  pipeline : s'.pipeline_running_ = s.pipeline_running_
  eye : s'.eye_image_enabled_ = s.eye_image_enabled_
  controller : s'.controller = s.controller
  detached : s'.detached = s.detached
  slots : ∀ r, ¬FromEncode r → s'.slots r = s.slots r
  slot_role : ∀ r t, s'.slots r = some t → s.slots r = some t ∨ s.roleOf t = some r
  roles : ∀ t r, s.roleOf t = some r → s'.roleOf t = some r
  unjoined : ∀ t, s'.Unjoined t → s.Unjoined t ∨
    role = .encode ∧ ∃ r, FromEncode r ∧ s'.roleOf t = some r
  joined : ∀ t, s.Unjoined t → s.roleOf t = some .restart_supervisor → s'.Unjoined t

/-- A step that changes no more than the request and the objects. -/
theorem WorkerMoved.of_plain {role : WorkerRole} (hrunning : s'.running_ = s.running_)
    (hpipeline : s'.pipeline_running_ = s.pipeline_running_)
    (heye : s'.eye_image_enabled_ = s.eye_image_enabled_)
    (hcontroller : s'.controller = s.controller)
    (hdetached : s'.detached = s.detached) (hslots : s'.slots = s.slots)
    (hthreads : s'.threads = s.threads) : WorkerMoved s s' role where
  running := hrunning
  pipeline := hpipeline
  eye := heye
  controller := hcontroller
  detached := hdetached
  slots r _ := by rw [hslots]
  slot_role r t h := Or.inl (by rwa [hslots] at h)
  roles t r h := by
    unfold roleOf at *
    rwa [hthreads]
  unjoined t h := Or.inl ((unjoined_of_threads_eq hthreads).mp h)
  joined t h _ := (unjoined_of_threads_eq hthreads).mpr h

/-- A step that changes what is in the slot of a thread of the encode thread. -/
theorem WorkerMoved.of_assign {role owner : WorkerRole} {content : Option ℕ}
    (hrole : FromEncode role) (hcontent : ∀ t, content = some t → s.roleOf t = some role) :
    WorkerMoved s { s with slots := Function.update s.slots role content } owner where
  running := rfl
  pipeline := rfl
  eye := rfl
  controller := rfl
  detached := rfl
  slots r hr := Function.update_of_ne (by rintro rfl; exact hr hrole) _ _
  slot_role r t h := by
    -- only the one slot changes, to a thread of its role
    by_cases hr : r = role
    · subst hr
      simp only [Function.update_self] at h
      exact Or.inr (hcontent t h)
    · simp only [Function.update_of_ne hr] at h
      exact Or.inl h
  roles _ _ h := h
  unjoined _ h := Or.inl h
  joined _ h _ := h

/-- The encode thread spawns and assigns only what is its own. -/
theorem spawnWorkers_workerOp : ∀ op ∈ s.spawnWorkers, s'.WorkerOp .encode op := by
  unfold PipelineRun.spawnWorkers
  intro op hop
  split at hop
  · -- with direct YUYV there is no capture thread of its own
    cases hyuyv : s.yuyv_direct_enabled_ with
    | true =>
      simp only [hyuyv, if_true, List.nil_append, List.cons_append, List.mem_cons,
        List.not_mem_nil, or_false] at hop
      rcases hop with rfl | rfl | rfl
      · exact Or.inr ⟨rfl, Or.inr rfl, rfl⟩
      · exact Or.inl trivial
      · exact Or.inl trivial
    | false =>
      simp only [hyuyv, Bool.false_eq_true, if_false, List.cons_append, List.nil_append,
        List.mem_cons, List.not_mem_nil, or_false] at hop
      rcases hop with rfl | rfl | rfl
      · exact Or.inr ⟨rfl, Or.inl rfl, rfl⟩
      · exact Or.inr ⟨rfl, Or.inr rfl, rfl⟩
      · exact Or.inl trivial
  · rw [List.mem_singleton] at hop
    rw [hop]
    exact Or.inl trivial

/-- An operation of the encode thread that is not a plain one. -/
theorem encode_exec {id : ℕ} (hslot : ∀ r t, s.slots r = some t → s.roleOf t = some r)
    (hop : s.EncodeOp op)
    (hrest : ∀ op ∈ rest, s.WorkerOp .encode op) (hself : s.roleOf id = some .encode)
    (h : s.exec (some id) answer recorder rest op = some (s', program)) :
    WorkerMoved s s' .encode ∧ ∀ op ∈ program, s'.WorkerOp .encode op := by
  have heffect := exec_effect h
  have hkeep : ∀ op ∈ rest, s'.WorkerOp .encode op := fun op hmem =>
    (hrest op hmem).mono fun t role => heffect.roleOf
  have hjoin : ∀ t role, FromEncode role → s'.roleOf t = some role →
      s'.WorkerOp .encode (.joinThread t) :=
    fun t role hrole ht => Or.inr ⟨rfl, role, hrole, ht⟩
  cases op with
  | spawnWorkers =>
    cases h
    refine ⟨.of_plain rfl rfl rfl rfl rfl rfl rfl, fun op hmem => ?_⟩
    rcases List.mem_append.mp hmem with hspawn | hrest'
    · exact spawnWorkers_workerOp op hspawn
    · exact hkeep op hrest'
  | spawn role require =>
    obtain ⟨hrole, rfl⟩ := hop
    cases h
    have hnew : PipelineRun.roleOf { s with threads := s.threads ++ [⟨role, role.main, false⟩] }
        s.threads.length = some role := by simp [PipelineRun.roleOf]
    constructor
    · refine ⟨rfl, rfl, rfl, rfl, rfl, fun _ _ => rfl, fun _ _ => Or.inl,
        fun t r => heffect.roleOf, fun t hun => ?_,
        fun t hun _ => (unjoined_concat rfl rfl).mpr (Or.inl hun)⟩
      rcases heffect.unjoined hun with hold | ⟨r, require, hop', -, ht⟩
      · exact Or.inl hold
      · cases hop'
        exact Or.inr ⟨rfl, role, hrole, ht⟩
    · intro op hmem
      rcases List.mem_cons.mp hmem with rfl | hrest'
      · exact Or.inr ⟨rfl, hrole, hnew, rfl⟩
      · exact hkeep op hrest'
  | assignWorkerThread role thread require =>
    obtain ⟨hrole, hthread, rfl⟩ := hop
    have hjoins : ∀ joins : List ℕ, (∀ t ∈ joins, s.roleOf t = some role) →
        ∀ op ∈ joins.map .joinThread ++ rest, s'.WorkerOp .encode op := by
      intro joins hroles op hmem
      rcases List.mem_append.mp hmem with hjoined | hrest'
      · obtain ⟨t, ht, rfl⟩ := List.mem_map.mp hjoined
        exact hjoin t role hrole (heffect.roleOf (hroles t ht))
      · exact hkeep op hrest'
    have hprevious : ∀ t ∈ (s.slots role).toList, s.roleOf t = some role :=
      fun t ht => hslot role t (Option.mem_toList.mp ht)
    simp only [exec, assign] at h
    split at h
    · cases h
      refine ⟨.of_assign hrole fun t ht => ?_, hjoins _ hprevious⟩
      cases ht
      exact hthread
    · cases h
      refine ⟨.of_assign hrole (by rintro t ⟨⟩), ?_⟩
      rw [← List.map_singleton (f := PipelineOp.joinThread), ← List.map_append]
      refine hjoins _ fun t ht => ?_
      rcases List.mem_append.mp ht with ht | ht
      · exact hprevious t ht
      · rw [List.mem_singleton.mp ht]
        exact hthread
  | joinThread thread =>
    obtain ⟨role, hrole, hthread⟩ := hop
    -- the encode thread is none of those it joins
    have hne : id ≠ thread := by
      rintro rfl
      rw [hself] at hthread
      cases hthread
      rcases hrole with h | h <;> cases h
    simp only [exec, Option.some_inj, if_neg hne] at h
    split at h
    · cases h
      refine ⟨⟨rfl, rfl, rfl, rfl, rfl, fun _ _ => rfl, fun _ _ => Or.inl,
        fun t r => heffect.roleOf, fun t hun => Or.inl (unjoined_markJoined.mp hun).1,
        fun t hun ht => unjoined_markJoined.mpr ⟨hun, ?_⟩⟩, hkeep⟩
      rintro rfl
      rw [hthread] at ht
      cases ht
      rcases hrole with h | h <;> cases h
    · cases h
  | _ => exact hop.elim

/-- A step of a worker. -/
theorem worker_exec {id : ℕ} {role : WorkerRole}
    (hslot : ∀ r t, s.slots r = some t → s.roleOf t = some r)
    (hops : ∀ op' ∈ op :: rest, s.WorkerOp role op') (hself : s.roleOf id = some role)
    (h : s.exec (some id) answer recorder rest op = some (s', program)) :
    WorkerMoved s s' role ∧ ∀ op' ∈ program, s'.WorkerOp role op' := by
  have heffect := exec_effect h
  have hrest : ∀ op' ∈ rest, s.WorkerOp role op' := fun op' hop' =>
    hops op' (List.mem_cons_of_mem _ hop')
  have hkeep : ∀ op' ∈ rest, s'.WorkerOp role op' := fun op' hmem =>
    (hrest op' hmem).mono fun t role => heffect.roleOf
  -- what a plain operation puts in front is plain
  have hcons : ∀ op', PlainOp op' → ∀ op'' ∈ op' :: rest, s'.WorkerOp role op'' := by
    intro op' hplain op'' hmem
    rcases List.mem_cons.mp hmem with rfl | hmem
    · exact Or.inl hplain
    · exact hkeep op'' hmem
  have hrestart : ∀ op' ∈ [PipelineOp.requestPipelineRestart], s'.WorkerOp role op' := by
    intro op' hmem
    rw [List.mem_singleton.mp hmem]
    exact Or.inl trivial
  rcases hops op List.mem_cons_self with hplain | ⟨rfl, hencode⟩
  · cases op with
    | checkPipeline =>
      cases h
      refine ⟨.of_plain rfl rfl rfl rfl rfl rfl rfl, ?_⟩
      split
      · exact hkeep
      · nofun
    | initializePostprocess | initializeEncoder =>
      simp only [exec, initializeComponent] at h
      split at h <;> cases h
      · exact ⟨.of_plain rfl rfl rfl rfl rfl rfl rfl, hkeep⟩
      · exact ⟨.of_plain rfl rfl rfl rfl rfl rfl rfl, hrestart⟩
    | initializeDecoder =>
      cases h
      refine ⟨?_, hkeep⟩
      split_ifs <;> exact .of_plain rfl rfl rfl rfl rfl rfl rfl
    | startCapturer request =>
      cases h
      refine ⟨.of_plain rfl rfl rfl rfl rfl rfl rfl, ?_⟩
      split_ifs
      · exact hkeep
      · exact hrestart
      · nofun
    | initializeEyeImage =>
      simp only [exec] at h
      split at h <;> cases h
      · exact ⟨.of_plain rfl rfl rfl rfl rfl rfl rfl, hkeep⟩
      · exact ⟨.of_plain rfl rfl rfl rfl rfl rfl rfl, nofun⟩
    | workerLoop =>
      cases h
      refine ⟨.of_plain rfl rfl rfl rfl rfl rfl rfl, ?_⟩
      split
      · exact hcons _ trivial
      · exact hkeep
    | captureLoop =>
      cases h
      refine ⟨.of_plain rfl rfl rfl rfl rfl rfl rfl, ?_⟩
      split_ifs
      · exact hkeep
      · exact hcons _ trivial
      · exact hcons _ trivial
    | requestPipelineRestart =>
      cases h
      refine ⟨.of_plain rfl rfl rfl rfl rfl rfl rfl, ?_⟩
      split
      · exact hcons _ trivial
      · exact hkeep
    | setRequest =>
      cases h
      exact ⟨.of_plain rfl rfl rfl rfl rfl rfl rfl, hkeep⟩
    | _ => exact hplain.elim
  · exact encode_exec hslot hencode hrest hself h

/-! ## Stopping and starting -/

/-- No thread of the role is still to be joined. -/
def NoThread (s : PipelineRun) (role : WorkerRole) : Prop :=
  ∀ t, s.Unjoined t → s.roleOf t ≠ some role

/-- No worker is left, and none is wanted. -/
structure Quiet (s : PipelineRun) : Prop where
  low : s.pipeline_running_ = false
  workers : ∀ role, role ≠ .restart_supervisor → s.NoThread role

/-- Behind what is left of `stopPipeline`: each worker that is not joined will be, and each
object will be taken away. -/
structure Cleared (s : PipelineRun) (awaited : Option ℕ) (todo : List PipelineOp) : Prop where
  workers : ∀ t role, s.Unjoined t → s.roleOf t = some role → role ≠ .restart_supervisor →
    .joinWorkerThread role ∈ todo ∨ awaited = some t
  objects : ∀ object ∈ s.objects, .release object ∈ todo

/-- Where a thread is in `stopPipeline`, behind which it goes on with `later`. -/
inductive StopAt (s : PipelineRun) (later : List PipelineOp) : List PipelineOp → Prop
  | lowering : StopAt s later (stopPipeline ++ later)
  | stopping {todo} (suffix : todo <:+ stopPipeline.tail) (low : s.pipeline_running_ = false)
      (cleared : s.Cleared none todo) : StopAt s later (todo ++ later)
  | awaiting {role t todo} (suffix : .joinWorkerThread role :: todo <:+ stopPipeline.tail)
      (low : s.pipeline_running_ = false) (role_eq : s.roleOf t = some role)
      (cleared : s.Cleared (some t) todo) : StopAt s later (.joinThread t :: (todo ++ later))

/-- The roles that are still to be spawned have no thread. -/
def Free (s : PipelineRun) (todo : List PipelineOp) : Prop :=
  ∀ role, .spawn role true ∈ todo → s.NoThread role ∧ s.slots role = none

/-- Where a thread is in the part of `startPipeline` that makes the workers. -/
inductive StartAt (s : PipelineRun) (later : List PipelineOp) : List PipelineOp → Prop
  | raising (quiet : s.Quiet) (free : s.Free (startWorkers s.eye_image_enabled_)) :
      StartAt s later (startWorkers s.eye_image_enabled_ ++ later)
  | spawning {todo} (suffix : todo <:+ (startWorkers s.eye_image_enabled_).tail)
      (high : s.pipeline_running_ = true) (free : s.Free todo) : StartAt s later (todo ++ later)
  | assigning {role t todo} (suffix : .spawn role true :: todo <:+
        (startWorkers s.eye_image_enabled_).tail)
      (high : s.pipeline_running_ = true) (role_eq : s.roleOf t = some role)
      (slot : s.slots role = none) (free : s.Free todo) :
      StartAt s later (.assignWorkerThread role t true :: (todo ++ later))

/-! ### What is left of the two programs -/

section Suffixes

variable {todo : List PipelineOp} {role : WorkerRole}

/-- The encode thread is joined before the threads that it makes. -/
theorem join_of_join_encode (h : todo <:+ stopPipeline.tail)
    (hencode : .joinWorkerThread .encode ∈ todo) (hrole : FromEncode role) :
    .joinWorkerThread role ∈ todo := by
  have hall : ∀ todo ∈ stopPipeline.tail.tails, .joinWorkerThread .encode ∈ todo →
      PipelineOp.joinWorkerThread .capture ∈ todo ∧
        PipelineOp.joinWorkerThread .encoder_dq ∈ todo := by decide
  obtain ⟨hcapture, hdq⟩ := hall todo ((List.mem_tails _ _).mpr h) hencode
  rcases hrole with rfl | rfl
  · exact hcapture
  · exact hdq

/-- A worker is joined before any object is taken away. -/
theorem release_of_join (h : todo <:+ stopPipeline.tail)
    (hjoin : .joinWorkerThread role ∈ todo) (object : PipelineObject) :
    .release object ∈ todo := by
  have hall : ∀ todo ∈ stopPipeline.tail.tails, ∀ role ∈ allRoles,
      PipelineOp.joinWorkerThread role ∈ todo →
        ∀ object ∈ [PipelineObject.capturer, .recorder, .postprocess, .encoder, .decoder,
          .eye_image_publisher], PipelineOp.release object ∈ todo := by decide
  exact hall todo ((List.mem_tails _ _).mpr h) role (mem_allRoles role) hjoin object
    (by cases object <;> decide)

/-- Behind the join of the last worker come only objects. -/
theorem release_of_suffix (h : .joinWorkerThread role :: todo <:+ stopPipeline.tail)
    (object : PipelineObject) : .release object ∈ todo := by
  have hmem := release_of_join h List.mem_cons_self object
  rcases List.mem_cons.mp hmem with heq | hmem
  · cases heq
  · exact hmem

/-- A stop never joins the supervisor. -/
theorem join_ne_supervisor (h : todo <:+ stopPipeline.tail)
    (hjoin : .joinWorkerThread role ∈ todo) : role ≠ .restart_supervisor := by
  rintro rfl
  have hall : ∀ todo ∈ stopPipeline.tail.tails,
      PipelineOp.joinWorkerThread .restart_supervisor ∉ todo := by decide
  exact hall todo ((List.mem_tails _ _).mpr h) hjoin

/-- Behind the store of the flag a stop joins and releases, and does nothing else. -/
theorem stop_op_cases {op : PipelineOp} (h : op :: todo <:+ stopPipeline.tail) :
    (∃ role, op = .joinWorkerThread role) ∨ ∃ object, op = .release object := by
  have hmem : op ∈ stopPipeline.tail := h.subset List.mem_cons_self
  simp only [stopPipeline, List.tail_cons, List.mem_cons, List.not_mem_nil, or_false] at hmem
  rcases hmem with rfl | rfl | rfl | rfl | rfl | rfl | rfl | rfl | rfl | rfl | rfl
  iterate 5 exact Or.inl ⟨_, rfl⟩
  all_goals exact Or.inr ⟨_, rfl⟩

/-- The workers that the manager makes itself. -/
theorem spawn_role {eye : Bool} {require : Bool}
    (h : .spawn role require ∈ startWorkers eye) :
    ¬FromEncode role ∧ role ≠ .restart_supervisor ∧ require = true := by
  have hroles : (role = .encode ∨ role = .eye_image) ∧ require = true := by
    cases eye <;>
      simp [startWorkers] at h <;> tauto
  refine ⟨?_, ?_, hroles.2⟩
  · rintro (rfl | rfl) <;> simp at hroles
  · rintro rfl
    simp at hroles

end Suffixes

/-! ### Steps of workers -/

section WorkerSteps

variable {role : WorkerRole} {id : ℕ} {later : List PipelineOp}

/-- A quiet pipeline has no worker left to join. -/
theorem Quiet.not_worker (hquiet : s.Quiet) (hrole : s.roleOf id = some role)
    (hworker : role ≠ .restart_supervisor) : ¬s.Unjoined id :=
  fun hun => hquiet.workers role hworker id hun hrole

/-- A worker's step starts no thread of a role that is not the encode thread's own. -/
theorem NoThread.worker {other : WorkerRole} (h : s.NoThread other)
    (hmoved : WorkerMoved s s' role) (hother : ¬FromEncode other) : s'.NoThread other := by
  intro t hun hrole
  rcases hmoved.unjoined t hun with hold | ⟨-, r, hr, ht⟩
  · obtain ⟨r, hr⟩ := hold.roleOf_isSome
    have := hmoved.roles t r hr
    rw [hrole] at this
    cases this
    exact h t hold hr
  · rw [hrole] at ht
    cases ht
    exact hother hr

/-- A thread that is still to be joined after a step of a worker. -/
theorem WorkerMoved.unjoined_role (hmoved : WorkerMoved s s' role) {t : ℕ} {r : WorkerRole}
    (hun : s'.Unjoined t) (hr : s'.roleOf t = some r) :
    s.Unjoined t ∧ s.roleOf t = some r ∨ role = .encode ∧ FromEncode r := by
  -- a thread to join was there before, or the encode thread has just spawned it
  rcases hmoved.unjoined t hun with hold | ⟨hencode, r', hr', ht⟩
  · obtain ⟨r', hr'⟩ := hold.roleOf_isSome
    have := hmoved.roles t r' hr'
    rw [hr] at this
    cases this
    exact Or.inl ⟨hold, hr'⟩
  · rw [hr] at ht
    cases ht
    exact Or.inr ⟨hencode, hr'⟩

theorem StopAt.worker (h : StopAt s later program) (hmoved : WorkerMoved s s' role)
    (hun : s.Unjoined id) (hrole : s.roleOf id = some role)
    (hworker : role ≠ .restart_supervisor) : StopAt s' later program := by
  cases h with
  | lowering => exact .lowering
  | @stopping todo suffix low cleared =>
    -- the worker itself is still to be joined
    have hjoin := (cleared.workers id role hun hrole hworker).resolve_right nofun
    refine .stopping suffix (hmoved.pipeline.trans low) ⟨fun t r ht hr hne => Or.inl ?_,
      fun object _ => release_of_join suffix hjoin object⟩
    rcases hmoved.unjoined_role ht hr with ⟨hold, hr'⟩ | ⟨rfl, hfrom⟩
    · exact (cleared.workers t r hold hr' hne).resolve_right nofun
    · exact join_of_join_encode suffix hjoin hfrom
  | @awaiting awaitedRole awaited todo suffix low role_eq cleared =>
    have hsuffix : todo <:+ stopPipeline.tail := (List.suffix_cons _ _).trans suffix
    refine .awaiting suffix (hmoved.pipeline.trans low) (hmoved.roles _ _ role_eq)
      ⟨fun t r ht hr hne => ?_, fun object _ => release_of_suffix suffix object⟩
    rcases hmoved.unjoined_role ht hr with ⟨hold, hr'⟩ | ⟨rfl, hfrom⟩
    · exact cleared.workers t r hold hr' hne
    · -- the encode thread is the awaited one, or is joined later
      left
      rcases cleared.workers id .encode hun hrole hworker with hjoin | hawaited
      · exact join_of_join_encode hsuffix hjoin hfrom
      · cases hawaited
        rw [hrole] at role_eq
        cases role_eq
        have hmem := join_of_join_encode suffix List.mem_cons_self hfrom
        rcases List.mem_cons.mp hmem with heq | hmem
        · cases heq
          rcases hfrom with h | h <;> cases h
        · exact hmem

/-- A slot that is still to be filled stays free. -/
theorem Free.worker {todo : List PipelineOp} (h : s.Free todo) (hmoved : WorkerMoved s s' role)
    (hsub : ∀ role, .spawn role true ∈ todo → ¬FromEncode role) : s'.Free todo := by
  intro r hr
  obtain ⟨hnone, hslot⟩ := h r hr
  exact ⟨hnone.worker hmoved (hsub r hr), (hmoved.slots r (hsub r hr)).trans hslot⟩

/-- A worker's step leaves a start where it is. -/
theorem StartAt.worker (h : StartAt s later program) (hmoved : WorkerMoved s s' role)
    (hun : s.Unjoined id) (hrole : s.roleOf id = some role)
    (hworker : role ≠ .restart_supervisor) : StartAt s' later program := by
  cases h with
  -- before the first spawn there is no worker to step
  | raising quiet => exact absurd hun (quiet.not_worker hrole hworker)
  | @spawning todo suffix high free =>
    refine .spawning (by rwa [hmoved.eye]) (hmoved.pipeline.trans high)
      (free.worker hmoved fun r hr => ?_)
    exact (spawn_role (List.tail_subset _ (suffix.subset hr))).1
  | @assigning newRole t todo suffix high role_eq slot free =>
    have hnew := spawn_role (List.tail_subset _ (suffix.subset List.mem_cons_self))
    refine .assigning (by rwa [hmoved.eye]) (hmoved.pipeline.trans high)
      (hmoved.roles _ _ role_eq) ((hmoved.slots _ hnew.1).trans slot)
      (free.worker hmoved fun r hr => ?_)
    exact (spawn_role (List.tail_subset _ (suffix.subset (List.mem_cons_of_mem _ hr)))).1

end WorkerSteps

/-! ### Steps of the manager -/

/-- Nothing is left of a pipeline. -/
structure Idle (s : PipelineRun) : Prop where
  quiet : s.Quiet
  objects : s.objects = []

/-- What a step in `stopPipeline` or `startPipeline` leaves alone. -/
structure ManagerMoved (s s' : PipelineRun) : Prop where
  running : s'.running_ = s.running_
  controller : s'.controller = s.controller
  detached : s'.detached = s.detached
  slot : s'.slots .restart_supervisor = s.slots .restart_supervisor
  slot_role : ∀ r t, s'.slots r = some t → s.slots r = some t ∨ s.roleOf t = some r
  supervisors : ∀ t, s'.Unjoined t → s'.roleOf t = some .restart_supervisor → s.Unjoined t
  joined : ∀ t, s.Unjoined t → s.roleOf t = some .restart_supervisor → s'.Unjoined t

/-- Where the handle of a worker is that the manager is about to join. -/
def SlotsComplete (s : PipelineRun) : Prop :=
  ∀ t role, s.Unjoined t → s.roleOf t = some role → role ≠ .restart_supervisor →
    (FromEncode role → s.NoThread .encode) → s.slots role = some t

/-- A stop that has nothing left to do leaves the pipeline idle. -/
theorem Cleared.idle (hlow : s.pipeline_running_ = false) (h : s.Cleared none []) : s.Idle where
  quiet := ⟨hlow, fun role hrole t hun hr => by
    rcases h.workers t role hun hr hrole with hmem | hnone
    · cases hmem
    · cases hnone⟩
  objects := List.eq_nil_iff_forall_not_mem.mpr fun object hobject => by
    have := h.objects object hobject
    cases this

/-- A step that leaves the threads alone is one of the manager's. -/
theorem ManagerMoved.of_threads_eq (hrunning : s'.running_ = s.running_)
    (hcontroller : s'.controller = s.controller) (hdetached : s'.detached = s.detached)
    (hslots : s'.slots = s.slots) (hthreads : s'.threads = s.threads) : ManagerMoved s s' where
  running := hrunning
  controller := hcontroller
  detached := hdetached
  slot := by rw [hslots]
  slot_role r t h := Or.inl (by rwa [hslots] at h)
  supervisors t h _ := (unjoined_of_threads_eq hthreads).mp h
  joined t h _ := (unjoined_of_threads_eq hthreads).mpr h

/-- The slot of a worker is changed. -/
theorem ManagerMoved.of_slot {role : WorkerRole} {content : Option ℕ}
    (hrole : role ≠ .restart_supervisor)
    (hcontent : ∀ t, content = some t → s.roleOf t = some role) :
    ManagerMoved s { s with slots := Function.update s.slots role content } where
  running := rfl
  controller := rfl
  detached := rfl
  slot := Function.update_of_ne (Ne.symm hrole) _ _
  slot_role r t h := by
    by_cases hr : r = role
    · subst hr
      simp only [Function.update_self] at h
      exact Or.inr (hcontent t h)
    · simp only [Function.update_of_ne hr] at h
      exact Or.inl h
  supervisors _ h _ := h
  joined _ h _ := h

/-- A join does not change the role of a thread. -/
@[simp] theorem roleOf_markJoined {thread t : ℕ} :
    (s.markJoined thread).roleOf t = s.roleOf t := by
  unfold roleOf markJoined
  simp only [List.getElem?_modify]
  cases s.threads[t]? with
  | none => rfl
  | some th => by_cases heq : thread = t <;> simp [heq]

/-- A worker is joined. -/
theorem ManagerMoved.of_join {thread : ℕ} {role : WorkerRole} (hrole : s.roleOf thread = some role)
    (hne : role ≠ .restart_supervisor) : ManagerMoved s (s.markJoined thread) where
  running := rfl
  controller := rfl
  detached := rfl
  slot := rfl
  slot_role _ _ h := Or.inl h
  supervisors t h _ := (unjoined_markJoined.mp h).1
  joined t h hr := unjoined_markJoined.mpr ⟨h, by
    rintro rfl
    rw [hrole] at hr
    cases hr
    exact hne rfl⟩

/-- One step of `stopPipeline`. -/
theorem StopAt.exec {later program₀ : List PipelineOp} (h : StopAt s later program₀)
    (hprogram : program₀ = op :: rest)
    (hslotRole : ∀ r t, s.slots r = some t → s.roleOf t = some r)
    (hplaces : op.handles = [] → s.SlotsComplete)
    (hself : ∀ t, self = some t → s.roleOf t = some .restart_supervisor)
    (hexec : s.exec self answer recorder rest op = some (s', program)) :
    op :: rest = later ∧ s.Idle ∨ ManagerMoved s s' ∧ StopAt s' later program := by
  cases h with
  | lowering =>
    cases hprogram
    cases hexec
    refine Or.inr ⟨.of_threads_eq rfl rfl rfl rfl rfl, .stopping (List.suffix_refl _) rfl
      ⟨fun t role _ _ hne => ?_, fun object _ => ?_⟩⟩
    · cases role <;> first | exact absurd rfl hne | exact Or.inl (by decide)
    · cases object <;> decide
  | @stopping todo suffix low cleared =>
    cases todo with
    | nil => exact Or.inl ⟨hprogram.symm, cleared.idle low⟩
    | cons first todo =>
      cases hprogram
      right
      have hsuffix : todo <:+ stopPipeline.tail := (List.suffix_cons _ _).trans suffix
      rcases stop_op_cases suffix with ⟨role, rfl⟩ | ⟨object, rfl⟩
      · have hne := join_ne_supervisor suffix List.mem_cons_self
        -- a thread of this role that no later join takes is in the slot
        have hslot : ∀ t, s.Unjoined t → s.roleOf t = some role →
            .joinWorkerThread role ∉ todo → s.slots role = some t := by
          intro t hun hrole hlast
          refine hplaces rfl t role hun hrole hne fun hfrom u hu hu_role => ?_
          have hjoin :=
            (cleared.workers u .encode hu hu_role (by decide)).resolve_right (by rintro ⟨⟩)
          rcases List.mem_cons.mp hjoin with heq | hmem
          · cases heq
            rcases hfrom with h | h <;> cases h
          · exact hlast (join_of_join_encode hsuffix hmem hfrom)
        have hobjects : ∀ object ∈ s.objects, .release object ∈ todo := fun object _ =>
          release_of_suffix suffix object
        simp only [exec] at hexec
        split at hexec
        · rename_i hnone
          cases hexec
          refine ⟨.of_threads_eq rfl rfl rfl rfl rfl, .stopping hsuffix low
            ⟨fun t r hun hr hr_ne => Or.inl ?_, hobjects⟩⟩
          by_contra hlast
          have hjoin := (cleared.workers t r hun hr hr_ne).resolve_right (by rintro ⟨⟩)
          rcases List.mem_cons.mp hjoin with heq | hmem
          · cases heq
            rw [hslot t hun hr hlast] at hnone
            cases hnone
          · exact hlast hmem
        · rename_i t hsome
          cases hexec
          refine ⟨.of_slot hne (by rintro t ⟨⟩), .awaiting suffix low (hslotRole role t hsome)
            ⟨fun u r hun hr hr_ne => ?_, hobjects⟩⟩
          rcases (cleared.workers u r hun hr hr_ne).resolve_right (by rintro ⟨⟩) with _ | ⟨_, hmem⟩
          · by_cases hlast : PipelineOp.joinWorkerThread role ∈ todo
            · exact Or.inl hlast
            · rw [hslot u hun hr hlast] at hsome
              exact Or.inr hsome.symm
          · exact Or.inl hmem
      · cases hexec
        refine ⟨.of_threads_eq rfl rfl rfl rfl rfl, .stopping hsuffix low
          ⟨fun t r hun hr hr_ne => Or.inl ?_, fun other hother => ?_⟩⟩
        · have hjoin := (cleared.workers t r hun hr hr_ne).resolve_right (by rintro ⟨⟩)
          rcases List.mem_cons.mp hjoin with heq | hmem
          · cases heq
          · exact hmem
        · obtain ⟨hmem, hne⟩ := List.mem_filter.mp hother
          rcases List.mem_cons.mp (cleared.objects other hmem) with heq | hrest
          · cases heq
            simp at hne
          · exact hrest
  | @awaiting role t todo suffix low role_eq cleared =>
    cases hprogram
    right
    have hne := join_ne_supervisor suffix List.mem_cons_self
    have hother : ¬self = some t := by
      intro heq
      rw [hself t heq] at role_eq
      cases role_eq
      exact hne rfl
    simp only [exec, if_neg hother] at hexec
    split at hexec
    · cases hexec
      refine ⟨.of_join role_eq hne, .stopping ((List.suffix_cons _ _).trans suffix) low
        ⟨fun u r hun hr hr_ne => Or.inl ?_, cleared.objects⟩⟩
      obtain ⟨hold, hu⟩ := unjoined_markJoined.mp hun
      rw [roleOf_markJoined] at hr
      exact (cleared.workers u r hold hr hr_ne).resolve_right fun heq =>
        hu (Option.some.inj heq).symm
    · cases hexec

/-- A worker is made. -/
theorem ManagerMoved.of_spawn {role : WorkerRole} {p : List PipelineOp}
    (hne : role ≠ .restart_supervisor) :
    ManagerMoved s { s with threads := s.threads ++ [⟨role, p, false⟩] } where
  running := rfl
  controller := rfl
  detached := rfl
  slot := rfl
  slot_role _ _ h := Or.inl h
  supervisors t h hr := by
    -- the new thread is no supervisor
    rcases (unjoined_concat rfl rfl).mp h with hold | rfl
    · exact hold
    · simp only [roleOf, List.getElem?_concat_length, Option.map_some, Option.some_inj] at hr
      exact absurd hr hne
  joined t h _ := (unjoined_concat rfl rfl).mpr (Or.inl h)

/-- Each worker is spawned once. -/
theorem spawn_once {eye : Bool} {role : WorkerRole} {todo : List PipelineOp}
    (h : .spawn role true :: todo <:+ (startWorkers eye).tail) : .spawn role true ∉ todo := by
  have hnodup : (startWorkers eye).tail.Nodup := by cases eye <;> decide
  exact (List.nodup_cons.mp (hnodup.sublist h.sublist)).1

/-- Behind the flag a start does nothing but spawn. -/
theorem spawn_of_suffix {eye : Bool} {op : PipelineOp} {todo : List PipelineOp}
    (h : op :: todo <:+ (startWorkers eye).tail) : ∃ role, op = .spawn role true := by
  have hmem : op ∈ (startWorkers eye).tail := h.subset List.mem_cons_self
  cases eye
  · simp [startWorkers] at hmem
    exact ⟨_, hmem⟩
  · simp [startWorkers] at hmem
    rcases hmem with rfl | rfl <;> exact ⟨_, rfl⟩

/-- One step of the part of `startPipeline` that makes the workers. -/
theorem StartAt.exec {later program₀ : List PipelineOp} (h : StartAt s later program₀)
    (hprogram : program₀ = op :: rest)
    (hexec : s.exec self answer recorder rest op = some (s', program)) :
    op :: rest = later ∨ ManagerMoved s s' ∧ StartAt s' later program := by
  cases h with
  | raising quiet free =>
    cases hprogram
    cases hexec
    refine Or.inr ⟨.of_threads_eq rfl rfl rfl rfl rfl, .spawning (List.suffix_refl _) rfl ?_⟩
    exact fun role hrole => free role (List.mem_of_mem_tail hrole)
  | @spawning todo suffix high free =>
    cases todo with
    | nil => exact Or.inl hprogram.symm
    | cons first todo =>
      cases hprogram
      right
      obtain ⟨role, rfl⟩ := spawn_of_suffix suffix
      have hrole := spawn_role (List.tail_subset _ (suffix.subset List.mem_cons_self))
      obtain ⟨-, hslot⟩ := free role List.mem_cons_self
      cases hexec
      refine ⟨.of_spawn hrole.2.1, .assigning suffix high (by simp [roleOf]) hslot
        fun other hother => ?_⟩
      obtain ⟨hnone, hslot'⟩ := free other (List.mem_cons_of_mem _ hother)
      refine ⟨fun t hun ht => ?_, hslot'⟩
      -- the new thread takes none of the roles still to be filled
      rcases (unjoined_concat rfl rfl).mp hun with hold | rfl
      · obtain ⟨r, hr⟩ := hold.roleOf_isSome
        cases ht.symm.trans (roleOf_concat hr)
        exact hnone t hold hr
      · simp only [roleOf, List.getElem?_concat_length, Option.map_some, Option.some_inj] at ht
        subst ht
        exact spawn_once suffix hother
  | @assigning role t todo suffix high role_eq slot free =>
    cases hprogram
    right
    have hrole := spawn_role (List.tail_subset _ (suffix.subset List.mem_cons_self))
    -- the flag is up and the slot free, so the thread is stored
    have hassign : s.assign role t true =
        ({ s with slots := Function.update s.slots role (some t) }, []) := by
      simp [assign, high, slot]
    simp only [PipelineRun.exec, hassign, List.nil_append] at hexec
    cases hexec
    refine ⟨.of_slot hrole.2.1 fun u hu => ?_, .spawning ((List.suffix_cons _ _).trans suffix)
      high fun other hother => ?_⟩
    · cases hu
      exact role_eq
    · obtain ⟨hnone, hslot⟩ := free other hother
      refine ⟨hnone, ?_⟩
      have hne : other ≠ role := by
        rintro rfl
        exact spawn_once suffix hother
      exact (Function.update_of_ne hne _ _).trans hslot

end PipelineRun

end TeleopBridge.Video
