import Mathlib.Data.List.Count
import TeleopBridge.Support.Holders
import TeleopBridge.Video.PipelineWorkers

/-!
# Handles of Worker Threads

A thread handle is in a slot of the manager or in the arguments of an operation that some
thread still has to do. Each operation hands handles on.

## Key Results

- `exec_effect`: all that an operation can do to threads and handles.
- `Effect.balance`: no handle is lost or doubled.
-/

namespace TeleopBridge.Video

open Support

/-! ## Handles -/

namespace PipelineOp

/-- The thread handles that an operation has in its arguments. -/
def handles : PipelineOp → List ℕ
  | .assignWorkerThread _ thread _ => [thread]
  | .joinThread thread => [thread]
  | _ => []

end PipelineOp

/-- The thread handles of a program. -/
def programHandles (program : List PipelineOp) : List ℕ := program.flatMap PipelineOp.handles

@[simp] theorem programHandles_cons (op : PipelineOp) (program : List PipelineOp) :
    programHandles (op :: program) = op.handles ++ programHandles program := rfl

@[simp] theorem programHandles_append (program later : List PipelineOp) :
    programHandles (program ++ later) = programHandles program ++ programHandles later :=
  List.flatMap_append

theorem mem_programHandles {program : List PipelineOp} {t : ℕ} :
    t ∈ programHandles program ↔ ∃ op ∈ program, t ∈ op.handles := List.mem_flatMap

@[simp] theorem programHandles_joinThread (threads : List ℕ) :
    programHandles (threads.map .joinThread) = threads := by
  induction threads with
  | nil => rfl
  | cons t threads ih =>
    rw [List.map_cons, programHandles_cons, ih]
    rfl

/-- Handles stand at the head of a program only. -/
def Tidy : List PipelineOp → Prop
  | [] => True
  | op :: rest => Tidy rest ∧ (op.handles = [] → programHandles rest = [])

/-- A program without handles needs no order. -/
theorem tidy_of_noHandles {program : List PipelineOp} (h : programHandles program = []) :
    Tidy program := by
  induction program with
  | nil => trivial
  | cons op rest ih =>
    rw [programHandles_cons, List.append_eq_nil_iff] at h
    exact ⟨ih h.2, fun _ => h.2⟩

/-- Joins may stand in front of what is tidy. -/
theorem tidy_joinThread_append {threads : List ℕ} {rest : List PipelineOp} (h : Tidy rest) :
    Tidy (threads.map .joinThread ++ rest) := by
  induction threads with
  | nil => exact h
  | cons t threads ih => exact ⟨ih, nofun⟩

/-- A thread starts with no handle of another. -/
theorem WorkerRole.main_noHandles (role : WorkerRole) : programHandles role.main = [] := by
  cases role <;> rfl

theorem stopPipeline_noHandles : programHandles stopPipeline = [] := rfl

theorem startWorkers_noHandles (eye : Bool) : programHandles (startWorkers eye) = [] := by
  cases eye <;> rfl

theorem StartCaller.noHandles (caller : StartCaller) :
    programHandles caller.started = [] ∧ programHandles caller.failed = [] := by
  cases caller <;> exact ⟨rfl, rfl⟩

/-- An attempt to start the pipeline queues no handle. -/
theorem tryStart_noHandles (s : PipelineRun) (caller : StartCaller) (answer recorder : Bool) :
    programHandles (s.tryStart caller answer recorder).2 = [] := by
  obtain ⟨hstarted, hfailed⟩ := caller.noHandles
  unfold PipelineRun.tryStart
  split
  · exact hfailed
  split
  · exact hstarted
  split
  · exact hfailed
  · rw [programHandles_append, startWorkers_noHandles, hstarted]
    rfl

/-- The handles come up only when a thread is made. -/
theorem spawnWorkers_noHandles (s : PipelineRun) : programHandles s.spawnWorkers = [] := by
  unfold PipelineRun.spawnWorkers
  cases s.yuyv_direct_enabled_ <;> split <;> rfl

namespace PipelineRun

/-- The role of a thread. -/
def roleOf (s : PipelineRun) (t : ℕ) : Option WorkerRole := s.threads[t]?.map WorkerThread.role

/-- The thread has been made and not been joined. -/
def Unjoined (s : PipelineRun) (t : ℕ) : Prop :=
  ∃ thread, s.threads[t]? = some thread ∧ thread.joined = false

instance (s : PipelineRun) (t : ℕ) : Decidable (s.Unjoined t) :=
  decidable_of_iff (s.threads[t]?.any fun thread => !thread.joined) (by
    unfold Unjoined
    cases s.threads[t]? <;> simp)

/-- The slots of the manager. -/
def allRoles : List WorkerRole :=
  [.encode, .capture, .encoder_dq, .eye_image, .restart_supervisor]

/-- The handles that the threads have. -/
def threadHandles (s : PipelineRun) : List ℕ :=
  s.threads.flatMap fun thread => programHandles thread.program

/-- In how many places a handle of the thread is. -/
def handleCount (s : PipelineRun) (t : ℕ) : ℕ :=
  heldBy s.slots allRoles t + (programHandles s.controller).count t +
    s.threadHandles.count t

/-- There are no other slots. -/
theorem mem_allRoles (role : WorkerRole) : role ∈ allRoles := by cases role <;> decide

/-! ## What an operation does -/

/-- What an operation does to the threads and their handles. -/
inductive Effect (s : PipelineRun) (self : Option ℕ) (rest : List PipelineOp) :
    PipelineOp → PipelineRun → List PipelineOp → Prop
  /-- Neither threads nor handles are touched. -/
  | neutral {op s' program} (slots : s'.slots = s.slots) (threads : s'.threads = s.threads)
      (detached : s'.detached = s.detached) (op_none : op.handles = [])
      (program_none : programHandles rest = [] → programHandles program = []) :
      Effect s self rest op s' program
  /-- A thread is made. -/
  | spawned {role require} :
      Effect s self rest (.spawn role require)
        { s with threads := s.threads ++ [⟨role, role.main, false⟩] }
        (.assignWorkerThread role s.threads.length require :: rest)
  /-- A handle goes into its slot or is left over, as is the one that was there. -/
  | assigned {role thread require} {content : Option ℕ} {joins : List ℕ}
      (moved : ∀ t, tokens content t + joins.count t =
        tokens (s.slots role) t + [thread].count t) :
      Effect s self rest (.assignWorkerThread role thread require)
        { s with slots := Function.update s.slots role content }
        (joins.map .joinThread ++ rest)
  /-- A handle is taken out of its slot. -/
  | taken {role thread} (slot : s.slots role = some thread) :
      Effect s self rest (.joinWorkerThread role)
        { s with slots := Function.update s.slots role none } (.joinThread thread :: rest)
  /-- A thread that has ended is joined. -/
  | joined {thread} (other : self ≠ some thread) (ended : s.ended thread = true) :
      Effect s self rest (.joinThread thread) (s.markJoined thread) rest
  /-- A thread would join itself. -/
  | detached {thread} (own : self = some thread) :
      Effect s self rest (.joinThread thread) { s with detached := true } rest

variable {s s' : PipelineRun} {self : Option ℕ} {answer recorder : Bool} {op : PipelineOp}
  {rest program : List PipelineOp}

/-- An attempt to start leaves threads and slots alone. -/
theorem tryStart_threads (s : PipelineRun) (caller : StartCaller) (answer recorder : Bool) :
    (s.tryStart caller answer recorder).1.slots = s.slots ∧
      (s.tryStart caller answer recorder).1.threads = s.threads ∧
      (s.tryStart caller answer recorder).1.detached = s.detached := by
  unfold tryStart
  split_ifs <;> exact ⟨rfl, rfl, rfl⟩

/-- A neutral operation that only changes the manager's own fields. -/
theorem Effect.of_same (hprogram : programHandles rest = [] → programHandles program = [])
    (hop : op.handles = []) (hslots : s'.slots = s.slots) (hthreads : s'.threads = s.threads)
    (hdetached : s'.detached = s.detached) : Effect s self rest op s' program :=
  .neutral hslots hthreads hdetached hop hprogram

/-- Every operation has one of the effects: at most one handle moves. -/
theorem exec_effect (h : s.exec self answer recorder rest op = some (s', program)) :
    Effect s self rest op s' program := by
  cases op with
  | spawn role require =>
    cases h
    exact .spawned
  -- a slot that is taken already hands its old thread to a join
  | assignWorkerThread role thread require =>
    simp only [exec, assign] at h
    split at h
    · cases h
      refine .assigned fun t => ?_
      cases s.slots role with
      | none => simp [tokens, List.count_singleton]
      | some previous =>
        simp only [tokens, Option.toList_some, List.count_singleton, Option.some_inj]
        split_ifs <;> simp_all
    · cases h
      rw [← List.map_singleton (f := PipelineOp.joinThread), ← List.map_append]
      refine .assigned fun t => ?_
      cases s.slots role with
      | none => simp [tokens]
      | some previous =>
        simp only [tokens, Option.toList_some, List.count_append, List.count_singleton,
          Option.some_inj]
        split_ifs <;> simp_all
  | joinWorkerThread role =>
    simp only [exec] at h
    split at h
    · cases h
      exact .of_same id rfl rfl rfl rfl
    · rename_i thread hslot
      cases h
      exact .taken hslot
  -- of the thread itself, of one that has ended, or not yet possible
  | joinThread thread =>
    simp only [exec] at h
    split at h
    · rename_i hself
      cases h
      exact .detached hself
    split at h
    · rename_i hself hended
      cases h
      exact .joined hself hended
    · cases h
  -- the others queue programs that hold nothing
  | startPipeline caller =>
    obtain ⟨hslots, hthreads, hdetached⟩ := tryStart_threads s caller answer recorder
    have hnone := tryStart_noHandles s caller answer recorder
    simp only [exec] at h
    generalize s.tryStart caller answer recorder = tried at h hslots hthreads hdetached hnone
    obtain ⟨s₁, ops⟩ := tried
    cases h
    refine .of_same (fun hrest => ?_) rfl hslots hthreads hdetached
    rw [programHandles_append, hnone, hrest]
    rfl
  | supervise =>
    simp only [exec] at h
    split at h
    · cases h
      exact .of_same id rfl rfl rfl rfl
    split at h
    · cases h
      refine .of_same (fun hrest => ?_) rfl rfl rfl rfl
      rw [programHandles_append, programHandles_cons, stopPipeline_noHandles, hrest]
      rfl
    · cases h
  | superviseRestart =>
    simp only [exec] at h
    split at h <;> cases h <;> exact .of_same id rfl rfl rfl rfl
  | spawnWorkers =>
    cases h
    refine .of_same (fun hrest => ?_) rfl rfl rfl rfl
    rw [programHandles_append, spawnWorkers_noHandles, hrest]
    rfl
  | initializeDecoder =>
    cases h
    refine .of_same id rfl ?_ ?_ ?_ <;> split_ifs <;> rfl
  | checkPipeline | startCapturer _ | workerLoop | captureLoop | requestPipelineRestart =>
    cases h
    refine .of_same (fun hrest => ?_) rfl rfl rfl rfl
    split_ifs <;> first | exact hrest | rfl
  | initializePostprocess | initializeEncoder | initializeEyeImage =>
    simp only [exec, initializeComponent] at h
    split at h <;> cases h
    · exact .of_same id rfl rfl rfl rfl
    · exact .of_same (fun _ => rfl) rfl rfl rfl rfl
  | lowerRunning | clearRequest | lowerPipeline | raisePipeline | release _ | setRequest =>
    cases h
    exact .of_same id rfl rfl rfl rfl

/-! ## Handles are handed on -/

/-- 1 for a thread that is still to be joined. -/
def alive (s : PipelineRun) (t : ℕ) : ℕ := if s.Unjoined t then 1 else 0

theorem alive_eq_one {t : ℕ} (h : s.Unjoined t) : s.alive t = 1 := if_pos h

theorem alive_eq_zero {t : ℕ} (h : ¬s.Unjoined t) : s.alive t = 0 := if_neg h

/-- A thread counts only while it is to be joined. -/
theorem unjoined_of_alive {t : ℕ} (h : 0 < s.alive t) : s.Unjoined t := by
  unfold alive at h
  split at h
  · assumption
  · exact absurd h (Nat.lt_irrefl 0)

/-- The count follows the threads. -/
theorem alive_congr {t : ℕ} (h : s'.Unjoined t ↔ s.Unjoined t) : s'.alive t = s.alive t := by
  unfold alive
  split_ifs <;> tauto

/-- A new thread is the only one that comes to be joined. -/
theorem unjoined_concat {new : WorkerThread} (hnew : new.joined = false) {t : ℕ}
    (hthreads : s'.threads = s.threads ++ [new]) :
    s'.Unjoined t ↔ s.Unjoined t ∨ t = s.threads.length := by
  unfold Unjoined
  rw [hthreads]
  -- an old thread, the new one, and none
  rcases Nat.lt_trichotomy t s.threads.length with hlt | heq | hgt
  · rw [List.getElem?_append_left hlt]
    constructor
    · exact Or.inl
    · rintro (hun | heq)
      · exact hun
      · omega
  · subst heq
    simp [hnew]
  · rw [List.getElem?_eq_none (by simp; omega), List.getElem?_eq_none (by omega)]
    simp
    omega

/-- A join takes one thread out. -/
theorem unjoined_markJoined {thread t : ℕ} :
    (s.markJoined thread).Unjoined t ↔ s.Unjoined t ∧ t ≠ thread := by
  unfold Unjoined markJoined
  simp only [List.getElem?_modify]
  by_cases heq : thread = t
  · subst heq
    simp
  · simp [heq, Ne.symm heq]

/-- Nothing else makes or joins threads. -/
theorem unjoined_of_threads_eq {t : ℕ} (h : s'.threads = s.threads) :
    s'.Unjoined t ↔ s.Unjoined t := by
  unfold Unjoined
  rw [h]

/-- A new thread takes no role from another. -/
theorem roleOf_concat {new : WorkerThread} {t : ℕ} {role : WorkerRole}
    (h : s.roleOf t = some role) :
    PipelineRun.roleOf { s with threads := s.threads ++ [new] } t = some role := by
  unfold roleOf at *
  obtain ⟨thread, hthread, -⟩ := Option.map_eq_some_iff.mp h
  have hlt := (List.getElem?_eq_some_iff.mp hthread).1
  simpa only [List.getElem?_append_left hlt] using h

theorem roleOf_of_threads_eq (h : s'.threads = s.threads) (t : ℕ) : s'.roleOf t = s.roleOf t := by
  unfold roleOf
  rw [h]

/-- A list whose elements are changed without their images. -/
theorem flatMap_modify_congr {α β : Type*} {f : α → List β} {g : α → α}
    (h : ∀ a, f (g a) = f a) (xs : List α) (k : ℕ) : (xs.modify k g).flatMap f = xs.flatMap f := by
  induction xs generalizing k with
  | nil => cases k <;> rfl
  | cons x xs ih =>
    cases k with
    | zero => simp [h]
    | succ k => simp [ih]

/-- A list of which one element changes. -/
theorem count_flatMap_modify {α β : Type*} [DecidableEq β] {f : α → List β} {g : α → α}
    {xs : List α} {k : ℕ} {x : α} (hx : xs[k]? = some x) (b : β) :
    ((xs.modify k g).flatMap f).count b + (f x).count b =
      (xs.flatMap f).count b + (f (g x)).count b := by
  induction xs generalizing k with
  | nil => cases hx
  | cons head xs ih =>
    cases k with
    -- the induction is on the list: the element that is changed is in front or further on
    | zero =>
      cases hx
      simp only [List.modify_zero_cons, List.flatMap_cons, List.count_append]
      omega
    | succ k =>
      have hrest := ih (k := k) hx
      simp only [List.modify_succ_cons, List.flatMap_cons, List.count_append]
      omega

/-- No step changes what the other threads hold. -/
theorem Effect.threadHandles (h : Effect s self rest op s' program) :
    s'.threadHandles = s.threadHandles := by
  unfold PipelineRun.threadHandles
  cases h with
  | neutral hslots hthreads => rw [hthreads]
  | @spawned role require => simp [WorkerRole.main_noHandles]
  | assigned | taken | detached => rfl
  | joined =>
    exact flatMap_modify_congr (f := fun thread : WorkerThread => programHandles thread.program)
      (g := fun thread => { thread with joined := true }) (fun _ => rfl) _ _

/-- What a slot and the program give up is what they take, up to threads that are made or
joined. -/
theorem Effect.balance (h : Effect s self rest op s' program) (htidy : Tidy (op :: rest))
    (hunjoined : ∀ t ∈ op.handles, s.Unjoined t)
    (hself : ∀ t, op = .joinThread t → self ≠ some t) (t : ℕ) :
    heldBy s'.slots allRoles t + (programHandles program).count t + s.alive t =
      heldBy s.slots allRoles t + (programHandles (op :: rest)).count t + s'.alive t := by
  -- a slot that is written trades its token
  have hslot : ∀ role content, heldBy (Function.update s.slots role content) allRoles t +
      tokens (s.slots role) t = heldBy s.slots allRoles t + tokens content t :=
    fun role content => heldBy_update (mem_allRoles role) (by decide) s.slots content t
  cases h with
  | neutral hslots hthreads _ hop hprogram =>
    rw [hslots, alive_congr (unjoined_of_threads_eq hthreads), programHandles_cons, hop,
      hprogram (htidy.2 hop), htidy.2 hop]
    rfl
  | @spawned role require =>
    have hnew : PipelineRun.Unjoined { s with
        threads := s.threads ++ [⟨role, role.main, false⟩] } t ↔
          s.Unjoined t ∨ t = s.threads.length := unjoined_concat rfl rfl
    simp only [programHandles_cons, PipelineOp.handles, List.count_append, List.nil_append]
    -- the new thread is alive and in the hands of its maker
    by_cases ht : t = s.threads.length
    · have hold : ¬s.Unjoined t := by
        rintro ⟨thread, hthread, -⟩
        rw [ht, List.getElem?_eq_none (Nat.le_refl _)] at hthread
        cases hthread
      rw [alive_eq_one (hnew.mpr (Or.inr ht)), alive_eq_zero hold, ht, List.count_singleton_self]
      omega
    · have hnone : [s.threads.length].count t = 0 :=
        List.count_eq_zero_of_not_mem (by simpa using ht)
      rw [alive_congr (hnew.trans (or_iff_left ht)), hnone]
      omega
  | @assigned role thread require content joins moved =>
    have hmove := moved t
    have hupdate := hslot role content
    have halive : alive { s with slots := Function.update s.slots role content } t = s.alive t :=
      rfl
    rw [halive]
    simp only [programHandles_append, programHandles_joinThread, programHandles_cons,
      PipelineOp.handles, List.count_append]
    omega
  | @taken role thread slot =>
    have hupdate := hslot role none
    have halive : alive { s with slots := Function.update s.slots role none } t = s.alive t :=
      rfl
    have htaken : tokens (s.slots role) t = [thread].count t := by
      rw [slot, tokens, List.count_singleton]
      simp
    rw [halive]
    simp only [programHandles_cons, PipelineOp.handles, List.count_append, List.nil_append,
      tokens_none] at hupdate ⊢
    omega
  | @joined thread other ended =>
    have hold : s.Unjoined thread := hunjoined thread List.mem_cons_self
    have hslots : (s.markJoined thread).slots = s.slots := rfl
    rw [hslots]
    simp only [programHandles_cons, PipelineOp.handles, List.count_append]
    -- the joined thread is not alive any more, and nobody has it
    by_cases ht : t = thread
    · subst ht
      have hnew : ¬(s.markJoined t).Unjoined t := fun h => (unjoined_markJoined.mp h).2 rfl
      rw [alive_eq_one hold, alive_eq_zero hnew, List.count_singleton_self]
      omega
    · have hnone : [thread].count t = 0 := List.count_eq_zero_of_not_mem (by simpa using ht)
      rw [alive_congr (unjoined_markJoined.trans (and_iff_left ht)), hnone]
      omega
  | @detached thread own => exact absurd own (hself thread rfl)

/-- The rest of a program stays tidy, and so does what is put in front of it. -/
theorem Effect.tidy (h : Effect s self rest op s' program) (htidy : Tidy (op :: rest)) :
    Tidy program := by
  cases h with
  | neutral _ _ _ hop hprogram => exact tidy_of_noHandles (hprogram (htidy.2 hop))
  | spawned => exact ⟨htidy.1, nofun⟩
  | assigned => exact tidy_joinThread_append htidy.1
  | taken => exact ⟨htidy.1, nofun⟩
  | joined | detached => exact htidy.1

/-! ## What happens to the threads -/

/-- What a thread still has to do. -/
def programOf (s : PipelineRun) (t : ℕ) : Option (List PipelineOp) :=
  s.threads[t]?.map WorkerThread.program

section Threads

variable {id t : ℕ} {role : WorkerRole} {p : List PipelineOp}

/-- Threads keep their roles. -/
@[simp] theorem roleOf_setProgram : (s.setProgram id p).roleOf t = s.roleOf t := by
  unfold roleOf setProgram
  simp only [List.getElem?_modify]
  cases s.threads[t]? with
  | none => rfl
  | some thread => by_cases hid : id = t <;> simp [hid]

/-- A thread that goes on is not joined by it. -/
@[simp] theorem unjoined_setProgram : (s.setProgram id p).Unjoined t ↔ s.Unjoined t := by
  unfold Unjoined setProgram
  simp only [List.getElem?_modify]
  cases s.threads[t]? with
  | none => simp
  | some thread => by_cases hid : id = t <;> simp [hid]

/-- Nobody else's program changes. -/
theorem programOf_setProgram_of_ne (hne : t ≠ id) :
    (s.setProgram id p).programOf t = s.programOf t := by
  unfold programOf setProgram
  simp only [List.getElem?_modify]
  cases s.threads[t]? <;> simp [Ne.symm hne]

/-- The handles of a program are replaced by those of another. -/
theorem count_threadHandles_setProgram {q : List PipelineOp} (h : s.programOf id = some q)
    (t : ℕ) : (s.setProgram id p).threadHandles.count t + (programHandles q).count t =
      s.threadHandles.count t + (programHandles p).count t := by
  obtain ⟨thread, hthread, rfl⟩ := Option.map_eq_some_iff.mp h
  exact count_flatMap_modify (f := fun thread : WorkerThread => programHandles thread.program)
    (g := fun thread => { thread with program := p }) hthread t

/-- The thread's own program is what was left for it. -/
theorem programOf_setProgram_self (h : (s.programOf id).isSome) :
    (s.setProgram id p).programOf id = some p := by
  unfold programOf setProgram at *
  simp only [List.getElem?_modify]
  cases hthread : s.threads[id]? with
  | none => simp [hthread] at h
  | some thread => simp

/-- A thread has ended when its program is empty. -/
theorem ended_iff : s.ended t = true ↔ s.programOf t = some [] := by
  unfold ended programOf
  cases s.threads[t]? <;> simp

/-- No step changes the role of a thread that exists. -/
theorem Effect.roleOf (h : Effect s self rest op s' program) (hrole : s.roleOf t = some role) :
    s'.roleOf t = some role := by
  unfold PipelineRun.roleOf at *
  obtain ⟨thread, hthread, rfl⟩ := Option.map_eq_some_iff.mp hrole
  cases h with
  | neutral _ hthreads => rw [hthreads, hthread]; rfl
  | spawned =>
    have hlt := (List.getElem?_eq_some_iff.mp hthread).1
    simp [List.getElem?_append_left hlt, hthread]
  | assigned | taken | detached => simp [hthread]
  | joined =>
    simp only [markJoined, List.getElem?_modify, hthread]
    split_ifs <;> rfl

/-- A thread that was there keeps its program; a new one begins with its main function. -/
theorem Effect.programOf (h : Effect s self rest op s' program) (hp : s'.programOf t = some p) :
    s.programOf t = some p ∨ ∃ role, p = role.main ∧ s'.roleOf t = some role ∧ s'.Unjoined t := by
  unfold PipelineRun.programOf at *
  cases h with
  | neutral _ hthreads =>
    rw [hthreads] at hp
    exact Or.inl hp
  | @spawned role require =>
    by_cases hlt : t < s.threads.length
    · left
      rwa [List.getElem?_append_left hlt] at hp
    -- a program that was not there before is that of the new thread
    · right
      obtain ⟨thread, hthread, rfl⟩ := Option.map_eq_some_iff.mp hp
      have hle := (List.getElem?_eq_some_iff.mp hthread).1
      rw [List.length_append, List.length_singleton] at hle
      have ht : t = s.threads.length := by omega
      subst ht
      rw [List.getElem?_concat_length] at hthread
      cases hthread
      exact ⟨role, rfl, by simp [PipelineRun.roleOf],
        (unjoined_concat rfl rfl).mpr (Or.inr rfl)⟩
  | assigned | taken | detached => exact Or.inl hp
  | joined =>
    left
    rw [← hp]
    simp only [markJoined, List.getElem?_modify]
    cases s.threads[t]? with
    | none => rfl
    | some thread =>
      simp only [Option.map_some]
      split_ifs <;> rfl

/-- No step changes the program of a thread that exists. -/
theorem Effect.programOf_keep (h : Effect s self rest op s' program)
    (hp : s.programOf t = some p) : s'.programOf t = some p := by
  unfold PipelineRun.programOf at *
  obtain ⟨thread, hthread, rfl⟩ := Option.map_eq_some_iff.mp hp
  cases h with
  | neutral _ hthreads => rw [hthreads, hthread]; rfl
  | spawned =>
    have hlt := (List.getElem?_eq_some_iff.mp hthread).1
    simp [List.getElem?_append_left hlt, hthread]
  | assigned | taken | detached => simp [hthread]
  | joined =>
    simp only [markJoined, List.getElem?_modify, hthread]
    split_ifs <;> rfl

/-- A thread that is still to be joined was so before, or has just been made. -/
theorem Effect.unjoined (h : Effect s self rest op s' program) (hun : s'.Unjoined t) :
    s.Unjoined t ∨ ∃ role require, op = .spawn role require ∧ t = s.threads.length ∧
      s'.roleOf t = some role := by
  cases h with
  | neutral _ hthreads => exact Or.inl ((unjoined_of_threads_eq hthreads).mp hun)
  | @spawned role require =>
    rcases (unjoined_concat rfl rfl).mp hun with hold | ht
    · exact Or.inl hold
    · subst ht
      exact Or.inr ⟨role, require, rfl, rfl, by simp [PipelineRun.roleOf]⟩
  | assigned | taken | detached => exact Or.inl hun
  | joined => exact Or.inl (unjoined_markJoined.mp hun).1

/-- Only a thread that has ended is joined. -/
theorem Effect.unjoined_keep (h : Effect s self rest op s' program) (hun : s.Unjoined t) :
    s'.Unjoined t ∨ op = .joinThread t ∧ s.programOf t = some [] := by
  cases h with
  | neutral _ hthreads => exact Or.inl ((unjoined_of_threads_eq hthreads).mpr hun)
  | spawned => exact Or.inl ((unjoined_concat rfl rfl).mpr (Or.inl hun))
  | assigned | taken | detached => exact Or.inl hun
  | @joined thread _ ended =>
    by_cases ht : t = thread
    · subst ht
      exact Or.inr ⟨rfl, ended_iff.mp ended⟩
    · exact Or.inl (unjoined_markJoined.mpr ⟨hun, ht⟩)

/-- A thread has a role with its program. -/
theorem roleOf_isSome_of_programOf (h : s.programOf t = some p) :
    ∃ role, s.roleOf t = some role := by
  obtain ⟨thread, hthread, -⟩ := Option.map_eq_some_iff.mp h
  exact ⟨thread.role, by unfold PipelineRun.roleOf; rw [hthread]; rfl⟩

theorem Unjoined.roleOf_isSome (h : s.Unjoined t) : ∃ role, s.roleOf t = some role := by
  obtain ⟨thread, hthread, -⟩ := h
  exact ⟨thread.role, by unfold PipelineRun.roleOf; rw [hthread]; rfl⟩

end Threads

end PipelineRun

end TeleopBridge.Video
