import Mathlib.Logic.Function.Basic
import TeleopBridge.Node.Events
import TeleopBridge.Support.Fairness

/-!
# The Session Work Queue

Any number of threads post work to the executor. The enqueue and the timer are two critical
sections, and the drain cancels the same timer; this file lets them interleave as they like.
The work itself is opaque: while it runs it may post further work.

## Key Results

- `session_work_runs`: no interleaving strands an item, and each is run once, in the order of
  the enqueues.
- `post_alone`, `drain_alone`: the steps of one thread make the functions of the node.
-/

namespace TeleopBridge.Node

open TeleopBridge.Support

/-- Where a thread is in `postSessionWork`. -/
inductive PostPc (Work : Type*)
  | idle
  /-- The tests are passed; the enqueue is next. -/
  | enqueue (work : Work)
  /-- Between the two critical sections. -/
  | schedule
  deriving Repr

instance {Work : Type*} (pc : PostPc Work) : Decidable (pc = .idle) :=
  match pc with
  | .idle => .isTrue rfl
  | .enqueue _ => .isFalse nofun
  | .schedule => .isFalse nofun

/-- Where the timer's thread is in `drainSessionWork`. -/
inductive DrainPc (Work : Type*)
  | idle
  /-- The head of the loop. -/
  | test
  /-- The critical section is next. -/
  | pop
  /-- `work` was popped and is called next. -/
  | call (work : Work)
  /-- The work has not returned. -/
  | running
  deriving Repr

namespace DrainPc

variable {Work : Type*}

def isIdle : DrainPc Work → Bool
  | .idle => true
  | _ => false

def isRunning : DrainPc Work → Bool
  | .running => true
  | _ => false

/-- The work that was popped and not yet called. -/
def inHand : DrainPc Work → List Work
  | .call work => [work]
  | _ => []

theorem isIdle_iff {pc : DrainPc Work} : pc.isIdle = true ↔ pc = .idle := by
  cases pc <;> simp [isIdle]

theorem isRunning_iff {pc : DrainPc Work} : pc.isRunning = true ↔ pc = .running := by
  cases pc <;> simp [isRunning]

end DrainPc

/-- The queue and the threads that use it: `none` is the timer's thread, which posts from
within the work it runs. -/
structure WorkQueue (Poster Work : Type*) where
  session_work_queue : List Work := []
  /-- Whether the timer is armed, once it was created. -/
  session_work_timer : Option Bool := none
  shutting_down : Bool := false
  posts : Option Poster → PostPc Work := fun _ => .idle
  drain : DrainPc Work := .idle
  /-- Auxiliary: the work in the order of the enqueues. -/
  enqueued : List Work := []
  /-- Auxiliary: the work in the order of the calls. -/
  ran : List Work := []

inductive WorkAction (Poster Work : Type*)
  /-- A thread calls `postSessionWork`; without work the function is empty. -/
  | post (caller : Option Poster) (work : Option Work)
  | enqueue (caller : Option Poster)
  | schedule (caller : Option Poster)
  /-- The executor runs the armed timer. Its callback group is mutually exclusive. -/
  | fire
  /-- The next step of `drainSessionWork`. -/
  | drain
  /-- The work returns. -/
  | finish
  | shutdown
  /-- `shutdown` drops the timer and the queue. -/
  | clear
  deriving DecidableEq, Repr

namespace WorkQueue

variable {Poster Work : Type*}

/-- The timer was created and is not cancelled. -/
def Armed (s : WorkQueue Poster Work) : Prop := s.session_work_timer = some true

instance (s : WorkQueue Poster Work) : Decidable s.Armed :=
  inferInstanceAs (Decidable (s.session_work_timer = some true))

variable [DecidableEq Poster] (s : WorkQueue Poster Work)

/-- The thread goes on to another phase of `postSessionWork`. -/
def setPost (caller : Option Poster) (pc : PostPc Work) : WorkQueue Poster Work :=
  { s with posts := Function.update s.posts caller pc }

/-- The timer's thread only posts while it runs work. -/
def canPost (caller : Option Poster) : Bool := caller.isSome || s.drain.isRunning

/-- The tests of `postSessionWork`. -/
def postSessionWork (caller : Option Poster) (work : Option Work) : WorkQueue Poster Work :=
  match work with
  | none => s
  | some work => if s.shutting_down then s else s.setPost caller (.enqueue work)

/-- The first critical section of `postSessionWork`. -/
def enqueueWork (caller : Option Poster) (work : Work) : WorkQueue Poster Work :=
  { s.setPost caller .schedule with
    session_work_queue := s.session_work_queue ++ [work]
    enqueued := s.enqueued ++ [work] }

/-- The second critical section: the timer is created or reset. -/
def scheduleDrain (caller : Option Poster) : WorkQueue Poster Work :=
  { s.setPost caller .idle with session_work_timer := some true }

/-- The critical section of `drainSessionWork`. -/
def popWork : WorkQueue Poster Work :=
  match s.session_work_queue with
  | [] => { s with drain := .idle, session_work_timer := s.session_work_timer.map fun _ => false }
  | work :: rest => { s with drain := .call work, session_work_queue := rest }

/-- A step of `drainSessionWork`. -/
def drainStep : Option (WorkQueue Poster Work) :=
  match s.drain with
  | .idle => none
  | .test => some { s with drain := if s.shutting_down then .idle else .pop }
  | .pop => some s.popWork
  | .call work => some { s with drain := .running, ran := s.ran ++ [work] }
  | .running => none

def step : WorkAction Poster Work → Option (WorkQueue Poster Work)
  | .post caller work =>
    if s.posts caller = .idle ∧ s.canPost caller = true then some (s.postSessionWork caller work)
    else none
  | .enqueue caller =>
    match s.posts caller with
    | .enqueue work => some (s.enqueueWork caller work)
    | _ => none
  | .schedule caller =>
    match s.posts caller with
    | .schedule => some (s.scheduleDrain caller)
    | _ => none
  | .fire => if s.Armed ∧ s.drain.isIdle = true then some { s with drain := .test } else none
  | .drain => s.drainStep
  | .finish =>
    if s.drain.isRunning = true ∧ s.posts none = .idle then some { s with drain := .test }
    else none
  | .shutdown => some { s with shutting_down := true }
  | .clear =>
    if s.shutting_down then some { s with session_work_timer := none, session_work_queue := [] }
    else none

/-! ## No item is stranded -/

variable {s} {t : WorkQueue Poster Work} {a : WorkAction Poster Work}

/-- What holds as long as the node is not shut down. -/
structure Kept (s : WorkQueue Poster Work) : Prop where
  /-- The calls follow the order of the enqueues and leave none out. -/
  order : s.ran ++ s.drain.inHand ++ s.session_work_queue = s.enqueued
  /-- Somebody will look after a queue that is not empty. -/
  wakes : s.session_work_queue ≠ [] →
    s.Armed ∨ s.drain ≠ .idle ∨ ∃ caller, s.posts caller = .schedule

/-- A thread that is between its critical sections stays there when another one moves. -/
theorem schedule_setPost {caller : Option Poster} {pc : PostPc Work}
    (hpost : s.posts caller ≠ .schedule) {other : Option Poster}
    (hother : s.posts other = .schedule) : (s.setPost caller pc).posts other = .schedule := by
  have hne : other ≠ caller := by
    rintro rfl
    exact hpost hother
  unfold setPost
  simp only
  rwa [Function.update_of_ne hne]

/-- A caller that is not about to schedule may move on: whoever wakes the drain is still there. -/
theorem Kept.setPost {caller : Option Poster} {pc : PostPc Work} (h : s.Kept)
    (hpost : s.posts caller ≠ .schedule) : (s.setPost caller pc).Kept := by
  refine ⟨h.order, fun hset => ?_⟩
  rcases h.wakes hset with harmed | hbusy | ⟨other, hother⟩
  · exact .inl harmed
  · exact .inr (.inl hbusy)
  · exact .inr (.inr ⟨other, schedule_setPost hpost hother⟩)

/-- The tests at the front of a post leave the queue alone. -/
theorem Kept.postSessionWork {caller : Option Poster} (work : Option Work) (h : s.Kept)
    (hpost : s.posts caller = .idle) : (s.postSessionWork caller work).Kept := by
  unfold WorkQueue.postSessionWork
  cases work with
  | none => exact h
  | some work =>
    simp only
    split
    · exact h
    · refine h.setPost ?_
      rw [hpost]
      nofun

/-- Work that enters the queue has its caller to wake the drain. -/
theorem Kept.enqueueWork {caller : Option Poster} (work : Work) (h : s.Kept) :
    (s.enqueueWork caller work).Kept := by
  refine ⟨?_, fun _ => .inr (.inr ⟨caller, Function.update_self _ _ _⟩)⟩
  unfold WorkQueue.enqueueWork
  simp only [← h.order, List.append_assoc]
  rfl

/-- A scheduled drain has its timer armed. -/
theorem Kept.scheduleDrain (caller : Option Poster) (h : s.Kept) :
    (s.scheduleDrain caller).Kept :=
  ⟨h.order, fun _ => .inl rfl⟩

omit [DecidableEq Poster] in
/-- The drain takes the oldest work in hand, in the order of the queue. -/
theorem Kept.popWork (h : s.Kept) (hpc : s.drain = .pop) : s.popWork.Kept := by
  have horder := h.order
  rw [hpc] at horder
  unfold WorkQueue.popWork
  split
  · rename_i hempty
    exact ⟨horder, fun hset => absurd hempty hset⟩
  · rename_i work rest hqueue
    refine ⟨?_, fun _ => .inr (.inl (by nofun))⟩
    rw [← horder, hqueue]
    simp [DrainPc.inHand]

omit [DecidableEq Poster] in
/-- A step of the drain keeps order and wake-up. -/
theorem Kept.drainStep (h : s.Kept) (hup : s.shutting_down = false)
    (hstep : s.drainStep = some t) : t.Kept := by
  have horder := h.order
  unfold WorkQueue.drainStep at hstep
  cases hpc : s.drain with
  | idle | running =>
    rw [hpc] at hstep
    cases hstep
  | test =>
    rw [hpc] at hstep horder
    cases hstep
    -- not shutting down, so the drain goes on to the queue
    rw [if_neg (by simp [hup])]
    exact ⟨horder, fun _ => .inr (.inl (by nofun))⟩
  | pop =>
    rw [hpc] at hstep
    cases hstep
    exact h.popWork hpc
  | call work =>
    rw [hpc] at hstep horder
    cases hstep
    refine ⟨?_, fun _ => .inr (.inl (by nofun))⟩
    -- the work in hand becomes the last one that ran
    rw [← horder]
    simp [DrainPc.inHand]

/-- The flag of the shutdown is never taken back. -/
theorem up_of_step (hstep : s.step a = some t) (hup : t.shutting_down = false) :
    s.shutting_down = false := by
  cases a with
  | post caller work =>
    obtain ⟨-, ht⟩ := Option.ite_none_right_eq_some.mp hstep
    cases ht
    unfold postSessionWork at hup
    cases work with
    | none => exact hup
    | some work =>
      simp only at hup
      split at hup
      · exact hup
      · exact hup
  | enqueue caller | schedule caller =>
    unfold step at hstep
    simp only at hstep
    split at hstep
    · cases hstep
      exact hup
    · cases hstep
  | drain =>
    unfold step drainStep popWork at hstep
    simp only at hstep
    repeat' split at hstep
    all_goals cases hstep
    all_goals exact hup
  | fire | finish =>
    obtain ⟨-, ht⟩ := Option.ite_none_right_eq_some.mp hstep
    cases ht
    exact hup
  | shutdown =>
    cases hstep
    cases hup
  | clear =>
    obtain ⟨-, ht⟩ := Option.ite_none_right_eq_some.mp hstep
    cases ht
    exact hup

/-- While the node is up, every step keeps order and wake-up. -/
theorem Kept.step (h : s.Kept) (hup : s.shutting_down = false) (hstep : s.step a = some t) :
    t.Kept := by
  cases a with
  | post caller work =>
    obtain ⟨⟨hidle, -⟩, ht⟩ := Option.ite_none_right_eq_some.mp hstep
    cases ht
    exact h.postSessionWork work hidle
  | enqueue caller =>
    unfold WorkQueue.step at hstep
    simp only at hstep
    split at hstep
    · cases hstep
      exact h.enqueueWork _
    · cases hstep
  | schedule caller =>
    unfold WorkQueue.step at hstep
    simp only at hstep
    split at hstep
    · cases hstep
      exact h.scheduleDrain caller
    · cases hstep
  | fire =>
    obtain ⟨⟨-, hidle⟩, ht⟩ := Option.ite_none_right_eq_some.mp hstep
    cases ht
    have horder := h.order
    rw [DrainPc.isIdle_iff.mp hidle] at horder
    exact ⟨horder, fun _ => .inr (.inl (by nofun))⟩
  | drain => exact h.drainStep hup hstep
  | finish =>
    obtain ⟨⟨hrunning, -⟩, ht⟩ := Option.ite_none_right_eq_some.mp hstep
    cases ht
    have horder := h.order
    rw [DrainPc.isRunning_iff.mp hrunning] at horder
    exact ⟨horder, fun _ => .inr (.inl (by nofun))⟩
  | shutdown =>
    cases hstep
    exact ⟨h.order, h.wakes⟩
  | clear =>
    -- only a shutdown clears the queue
    obtain ⟨hdown, -⟩ := Option.ite_none_right_eq_some.mp hstep
    cases hdown.symm.trans hup

/-- So the invariant holds for as long as the node is up. -/
theorem kept_step (h : s.shutting_down = false → s.Kept) (hstep : s.step a = some t)
    (hup : t.shutting_down = false) : t.Kept :=
  have hbefore := up_of_step hstep hup
  (h hbefore).step hbefore hstep

/-! ## Every item is run -/

/-- Item `c` is the next to be called, and the node is not shut down. -/
structure Waits (c : ℕ) (s : WorkQueue Poster Work) : Prop where
  kept : s.Kept
  up : s.shutting_down = false
  next : s.ran.length = c
  pending : c < s.enqueued.length

/-- Item `c` was called, or the node is shut down. -/
def Served (c : ℕ) (s : WorkQueue Poster Work) : Prop :=
  c < s.ran.length ∨ s.shutting_down = true

/-- How many more steps the next call takes. -/
def distance (s : WorkQueue Poster Work) : ℕ :=
  match s.drain with
  | .call _ => 1
  | .pop => 2
  | .test => 3
  | .running => 4
  | .idle => if s.Armed then 5 else 6

/-- An endless run of the queue. -/
abbrev WorkRun (Poster Work : Type*) [DecidableEq Poster] :=
  Execution (step : WorkQueue Poster Work → WorkAction Poster Work → Option (WorkQueue Poster Work))

/-- What the executor, the threads and the work itself owe the queue: an armed timer fires, the
drain and a thread between its critical sections go on, and work returns. -/
structure Diligent (e : WorkRun Poster Work) : Prop where
  fires : e.Fair (fun s => s.Armed ∧ s.drain = .idle) (· = .fire)
  drains : e.Fair (fun s => s.drain ≠ .idle ∧ s.drain ≠ .running) (· = .drain)
  returns : e.Fair (fun s => s.drain = .running) (· = .finish)
  schedules (caller : Option Poster) :
    e.Fair (fun s => s.posts caller = .schedule) (· = .schedule caller)

/-- Nothing is taken out of the logs. -/
theorem log_step (hstep : s.step a = some t) : s.enqueued <+: t.enqueued ∧ s.ran <+: t.ran := by
  cases a with
  | post caller work =>
    obtain ⟨-, ht⟩ := Option.ite_none_right_eq_some.mp hstep
    cases ht
    unfold postSessionWork
    cases work with
    | none => exact ⟨List.prefix_rfl, List.prefix_rfl⟩
    | some work =>
      simp only
      split
      · exact ⟨List.prefix_rfl, List.prefix_rfl⟩
      · exact ⟨List.prefix_rfl, List.prefix_rfl⟩
  | enqueue caller =>
    unfold step at hstep
    simp only at hstep
    split at hstep
    · cases hstep
      exact ⟨List.prefix_append _ _, List.prefix_rfl⟩
    · cases hstep
  | schedule caller =>
    unfold step at hstep
    simp only at hstep
    split at hstep
    · cases hstep
      exact ⟨List.prefix_rfl, List.prefix_rfl⟩
    · cases hstep
  | drain =>
    unfold step drainStep popWork at hstep
    simp only at hstep
    -- the drain appends to what ran when it calls, and to nothing before
    repeat' split at hstep
    all_goals cases hstep
    all_goals first
      | exact ⟨List.prefix_rfl, List.prefix_rfl⟩
      | exact ⟨List.prefix_rfl, List.prefix_append _ _⟩
  | shutdown =>
    cases hstep
    exact ⟨List.prefix_rfl, List.prefix_rfl⟩
  | fire | finish | clear =>
    obtain ⟨-, ht⟩ := Option.ite_none_right_eq_some.mp hstep
    cases ht
    exact ⟨List.prefix_rfl, List.prefix_rfl⟩

/-- Work that waits is served by a step, or still waits after it. -/
theorem Waits.step {c : ℕ} (h : Waits c s) (hstep : s.step a = some t) :
    Served c t ∨ Waits c t := by
  obtain ⟨henqueued, hran⟩ := log_step hstep
  cases hup : t.shutting_down with
  | true => exact .inl (.inr hup)
  | false =>
    -- the log of what ran grows at its end alone
    by_cases hserved : c < t.ran.length
    · exact .inl (.inl hserved)
    · have hnext : t.ran.length = c := le_antisymm (not_lt.mp hserved) (h.next ▸ hran.length_le)
      exact .inr ⟨h.kept.step h.up hstep, hup, hnext, h.pending.trans_le henqueued.length_le⟩

/-- A step that brings no call nearer is a post, and not the end of one that is waited for. -/
structure Idles (s : WorkQueue Poster Work) (a : WorkAction Poster Work)
    (t : WorkQueue Poster Work) : Prop where
  distance : t.distance = s.distance
  other : a ≠ .fire ∧ a ≠ .drain ∧ a ≠ .finish
  posts (caller : Option Poster) : s.distance = 6 → s.posts caller = .schedule →
    t.posts caller = .schedule ∧ a ≠ .schedule caller

/-- A caller that moves on leaves the drain where it is. -/
theorem idles_setPost {caller : Option Poster} {pc : PostPc Work}
    (hpost : s.posts caller ≠ .schedule) (hother : a ≠ .fire ∧ a ≠ .drain ∧ a ≠ .finish)
    (hschedule : ∀ caller, a ≠ .schedule caller) : Idles s a (s.setPost caller pc) :=
  ⟨rfl, hother, fun _ _ hset => ⟨schedule_setPost hpost hset, hschedule _⟩⟩

omit [DecidableEq Poster] in
/-- With nothing in hand, the next item is still in the queue. -/
theorem Waits.queue {c : ℕ} (h : Waits c s) (hempty : s.drain.inHand = []) :
    s.session_work_queue ≠ [] := by
  intro hqueue
  have horder := h.kept.order
  rw [hempty, hqueue, List.append_nil, List.append_nil] at horder
  have hpending := h.pending
  rw [← horder, h.next] at hpending
  exact lt_irrefl c hpending

omit [DecidableEq Poster] in
/-- A step of the drain brings the call nearer. -/
theorem distance_drainStep {c : ℕ} (h : Waits c s) (hserved : ¬ Served c t)
    (hstep : s.drainStep = some t) : t.distance < s.distance := by
  unfold drainStep at hstep
  cases hpc : s.drain with
  | idle | running =>
    rw [hpc] at hstep
    cases hstep
  | test =>
    have hs : s.distance = 3 := by rw [distance, hpc]
    rw [hpc, if_neg (by simp [h.up])] at hstep
    rw [← Option.some.inj hstep, hs]
    exact Nat.lt_succ_self 2
  | pop =>
    have hs : s.distance = 2 := by rw [distance, hpc]
    rw [hpc] at hstep
    rw [← Option.some.inj hstep, hs, popWork]
    cases hqueue : s.session_work_queue with
    -- work that waits is in the queue, so the drain does not find it empty
    | nil => exact absurd hqueue (h.queue (by rw [hpc]; rfl))
    | cons work rest => exact Nat.lt_succ_self 1
  | call work =>
    rw [hpc] at hstep
    cases hstep
    -- the work called is the one that waits
    refine absurd (.inl ?_) hserved
    rw [List.length_append, h.next]
    exact Nat.lt_succ_self c

/-- Scheduling brings the call nearer if nothing else is on the way. -/
theorem distance_scheduleDrain (caller : Option Poster) :
    (s.scheduleDrain caller).distance < s.distance ∨
      (s.scheduleDrain caller).distance = s.distance ∧ s.distance ≠ 6 := by
  unfold distance scheduleDrain setPost Armed
  cases s.drain with
  | idle =>
    simp only
    by_cases harmed : s.session_work_timer = some true
    · simp [harmed]
    · simp [harmed]
  | _ => simp

theorem Waits.advances {c : ℕ} (h : Waits c s) (hserved : ¬ Served c t)
    (hstep : s.step a = some t) : t.distance < s.distance ∨ Idles s a t := by
  cases a with
  | post caller work =>
    obtain ⟨⟨hidle, -⟩, ht⟩ := Option.ite_none_right_eq_some.mp hstep
    cases ht
    have hstays : Idles s (.post caller work) s :=
      ⟨rfl, ⟨nofun, nofun, nofun⟩, fun _ _ hset => ⟨hset, nofun⟩⟩
    unfold postSessionWork
    cases work with
    | none => exact .inr hstays
    | some work =>
      simp only
      split
      · exact .inr hstays
      -- the caller moves on; the drain has nothing to do yet
      · refine .inr (idles_setPost ?_ ⟨nofun, nofun, nofun⟩ nofun)
        rw [hidle]
        nofun
  | enqueue caller =>
    unfold WorkQueue.step at hstep
    simp only at hstep
    split at hstep
    · rename_i work hpost
      cases hstep
      have hsets : Idles s (.enqueue caller) (s.setPost caller .schedule) :=
        idles_setPost (by rw [hpost]; nofun) ⟨nofun, nofun, nofun⟩ nofun
      exact .inr ⟨hsets.distance, hsets.other, hsets.posts⟩
    · cases hstep
  | schedule caller =>
    unfold WorkQueue.step at hstep
    simp only at hstep
    split at hstep
    · cases hstep
      -- arming the timer brings the drain nearer unless it is armed already
      rcases distance_scheduleDrain (s := s) caller with hless | ⟨hsame, hnot⟩
      · exact .inl hless
      · exact .inr ⟨hsame, ⟨nofun, nofun, nofun⟩, fun _ hfar => absurd hfar hnot⟩
    · cases hstep
  | fire =>
    obtain ⟨⟨harmed, hidle⟩, ht⟩ := Option.ite_none_right_eq_some.mp hstep
    cases ht
    -- an armed timer that fires starts the drain
    have hs : s.distance = 5 := by
      rw [distance, DrainPc.isIdle_iff.mp hidle]
      exact if_pos harmed
    left
    rw [hs]
    exact Nat.lt_of_succ_lt (Nat.lt_succ_self 4)
  | drain => exact .inl (distance_drainStep h hserved hstep)
  | finish =>
    obtain ⟨⟨hrunning, -⟩, ht⟩ := Option.ite_none_right_eq_some.mp hstep
    cases ht
    -- a work that returns lets the drain test again
    have hs : s.distance = 4 := by rw [distance, DrainPc.isRunning_iff.mp hrunning]
    left
    rw [hs]
    exact Nat.lt_succ_self 3
  | shutdown =>
    cases hstep
    exact absurd (.inr rfl) hserved
  | clear =>
    obtain ⟨hdown, -⟩ := Option.ite_none_right_eq_some.mp hstep
    cases hdown.symm.trans h.up

omit [DecidableEq Poster] in
/-- Where the call is, by its distance. -/
theorem distance_cases (s : WorkQueue Poster Work) :
    (s.distance ≤ 3 ∧ s.drain ≠ .idle ∧ s.drain ≠ .running) ∨
    (s.distance = 4 ∧ s.drain = .running) ∨
    (s.distance = 5 ∧ s.Armed ∧ s.drain = .idle) ∨
    (s.distance = 6 ∧ ¬ s.Armed ∧ s.drain = .idle) := by
  unfold distance
  cases s.drain with
  | idle =>
    by_cases harmed : s.Armed
    · simp [harmed]
    · simp [harmed]
  | _ => simp

section Executions

variable {e : WorkRun Poster Work} {c r : ℕ}

/-- An action that is waited for, and that brings the call nearer, is taken. -/
theorem nearer_of_fair {P waiting : WorkQueue Poster Work → Prop}
    {kind : WorkAction Poster Work → Prop} (hfair : e.Fair waiting kind)
    (hwaiting : ∀ s, Waits c s → s.distance = r → P s → waiting s)
    (hidles : ∀ s a t, s.distance = r → P s → Idles s a t → P t ∧ ¬ kind a) :
    e.LeadsTo (fun s => (Waits c s ∧ s.distance = r) ∧ P s)
      fun s => Served c s ∨ Waits c s ∧ s.distance < r := by
  refine Execution.leadsTo_of_fair hfair (fun s ⟨⟨h, hr⟩, hp⟩ => hwaiting s h hr hp) ?_
  rintro s a t ⟨⟨h, hr⟩, hp⟩ hstep
  by_cases hserved : Served c t
  · exact .inl (.inl hserved)
  have hwaits : Waits c t := (h.step hstep).resolve_left hserved
  -- every step comes nearer or leaves the drain as it is
  rcases h.advances hserved hstep with hless | hstays
  · exact .inl (.inr ⟨hwaits, hr ▸ hless⟩)
  · obtain ⟨hkeeps, hother⟩ := hidles s a t hr hp hstays
    exact .inr ⟨⟨⟨hwaits, hstays.distance.trans hr⟩, hkeeps⟩, hother⟩

/-- Whatever the next call waits for, it comes nearer. -/
theorem Diligent.nearer (hdiligent : Diligent e) (r : ℕ) :
    e.LeadsTo (fun s => Waits c s ∧ s.distance = r)
      fun s => Served c s ∨ Waits c s ∧ s.distance < r := by
  rintro i ⟨h, hr⟩
  -- whose turn it is: the drain, the running work, the timer, or a caller about to schedule
  rcases distance_cases (e.state i) with hclose | hrunning | harmed | ⟨hfar, hcold, hidle⟩
  · refine nearer_of_fair (P := fun _ => r ≤ 3) hdiligent.drains ?_ ?_ i ⟨⟨h, hr⟩, hr ▸ hclose.1⟩
    · intro s _ hs hle
      rcases distance_cases s with hs' | hs' | hs' | hs'
      · exact hs'.2
      all_goals omega
    · exact fun s a t _ hle hstays => ⟨hle, hstays.other.2.1⟩
  · refine nearer_of_fair (P := fun _ => r = 4) hdiligent.returns ?_ ?_ i
      ⟨⟨h, hr⟩, hr.symm.trans hrunning.1⟩
    · intro s _ hs hle
      rcases distance_cases s with hs' | hs' | hs' | hs'
      · omega
      · exact hs'.2
      all_goals omega
    · exact fun s a t _ hle hstays => ⟨hle, hstays.other.2.2⟩
  · refine nearer_of_fair (P := fun _ => r = 5) hdiligent.fires ?_ ?_ i
      ⟨⟨h, hr⟩, hr.symm.trans harmed.1⟩
    · intro s _ hs hle
      rcases distance_cases s with hs' | hs' | hs' | hs'
      · omega
      · omega
      · exact hs'.2
      · omega
    · exact fun s a t _ hle hstays => ⟨hle, hstays.other.1⟩
  · -- no timer and no drain: then a caller is on its way
    have hqueue := h.queue (by rw [hidle]; rfl)
    obtain ⟨caller, hcaller⟩ :=
      ((h.kept.wakes hqueue).resolve_left hcold).resolve_left (not_not.mpr hidle)
    refine nearer_of_fair (P := fun s => r = 6 ∧ s.posts caller = .schedule)
      (hdiligent.schedules caller) (fun s _ _ hs => hs.2) ?_ i
      ⟨⟨h, hr⟩, hr.symm.trans hfar, hcaller⟩
    intro s a t hs ⟨hle, hset⟩ hstays
    obtain ⟨hkeeps, hother⟩ := hstays.posts caller (hs.trans hle) hset
    exact ⟨⟨hle, hkeeps⟩, hother⟩

/-- In a diligent run the work that is next is served. -/
theorem Diligent.served (hdiligent : Diligent e) : e.LeadsTo (Waits c) (Served c) :=
  Execution.leadsTo_of_rank distance hdiligent.nearer

/-- Item `c` is posted, and nothing is stranded before a shutdown. -/
structure Posted (c : ℕ) (s : WorkQueue Poster Work) : Prop where
  kept : s.shutting_down = false → s.Kept
  posted : c < s.enqueued.length

/-- Work that was posted stays posted. -/
theorem Posted.step (h : Posted c s) (hstep : s.step a = some t) : Posted c t where
  kept := kept_step h.kept hstep
  posted := h.posted.trans_le (log_step hstep).1.length_le

/-- Each item is called, one after the other. -/
theorem Diligent.called (hdiligent : Diligent e) : e.LeadsTo (Posted c) (Served c) := by
  refine Execution.leadsTo_of_rank (fun s => c - s.ran.length) ?_
  rintro r i ⟨h, hr⟩
  by_cases hserved : Served c (e.state i)
  · exact ⟨i, le_rfl, .inl hserved⟩
  have hle : (e.state i).ran.length ≤ c := not_lt.mp fun hlt => hserved (.inl hlt)
  have hup : (e.state i).shutting_down = false :=
    (Bool.not_eq_true _).mp fun hdown => hserved (.inr hdown)
  obtain ⟨j, hij, hj⟩ := hdiligent.served i ⟨h.kept hup, hup, rfl, hle.trans_lt h.posted⟩
  -- the work in front of it ran, so one less is before it
  rcases hj with hcalled | hdown
  · by_cases hend : c < (e.state j).ran.length
    · exact ⟨j, hij, .inl (.inl hend)⟩
    · have hposted : Posted c (e.state j) :=
        Execution.stable (fun _ _ _ h hstep => Posted.step h hstep) hij h
      exact ⟨j, hij, .inr ⟨hposted, by omega⟩⟩
  · exact ⟨j, hij, .inl (.inr hdown)⟩

/-- The log of the enqueues only grows. -/
theorem enqueued_grows {i j : ℕ} (hij : i ≤ j) :
    (e.state i).enqueued <+: (e.state j).enqueued := by
  refine Execution.stable (e := e)
    (P := fun s : WorkQueue Poster Work => (e.state i).enqueued <+: s.enqueued) ?_ hij
    List.prefix_rfl
  exact fun _ _ _ h hstep => h.trans (log_step hstep).1

end Executions

/-- No interleaving of the posters and the drain strands an item: while the node is not shut
down, a queue that is not empty has an armed timer, a drain, or a thread that is about to arm
the timer; the calls follow the order of the enqueues; and in a run in which the timer, the
threads and the work all get on, every item that was enqueued is called, in its place. -/
theorem session_work_runs :
    (∀ actions (s : WorkQueue Poster Work), runSteps step {} actions = some s →
      s.shutting_down = false →
        (s.session_work_queue ≠ [] →
          s.Armed ∨ s.drain ≠ .idle ∨ ∃ caller, s.posts caller = .schedule) ∧
        s.ran ++ s.drain.inHand ++ s.session_work_queue = s.enqueued) ∧
    ∀ e : WorkRun Poster Work, e.state 0 = {} → Diligent e →
      ∀ i c, c < (e.state i).enqueued.length → ∃ j, i ≤ j ∧
        ((e.state j).shutting_down = true ∨
          (e.state j).ran[c]? = (e.state i).enqueued[c]?) := by
  have hstart : Kept ({} : WorkQueue Poster Work) := ⟨rfl, fun hset => absurd rfl hset⟩
  constructor
  · intro actions s hrun hup
    have hkept : s.Kept :=
      runSteps_invariant (fun _ _ _ h hstep => kept_step h hstep) (fun _ => hstart) hrun hup
    exact ⟨hkept.wakes, hkept.order⟩
  · intro e hinit hdiligent i c hposted
    have hkept (j : ℕ) : (e.state j).shutting_down = false → (e.state j).Kept :=
      Execution.stable (fun _ _ _ h hstep => kept_step h hstep) (Nat.zero_le j)
        fun _ => hinit ▸ hstart
    obtain ⟨j, hij, hj⟩ := hdiligent.called i ⟨hkept i, hposted⟩
    cases hup : (e.state j).shutting_down with
    | true => exact ⟨j, hij, .inl hup⟩
    | false =>
      have hcalled : c < (e.state j).ran.length := hj.resolve_right (by simp [hup])
      -- what ran is a prefix of what was posted, and the posts only grow
      have hran : (e.state j).ran <+: (e.state j).enqueued := by
        rw [← (hkept j hup).order, List.append_assoc]
        exact List.prefix_append _ _
      have hitem := List.prefix_iff_getElem?.mp hran c hcalled
      have hitem' := List.prefix_iff_getElem?.mp (enqueued_grows hij) c hposted
      refine ⟨j, hij, .inr ?_⟩
      rw [List.getElem?_eq_getElem hcalled, List.getElem?_eq_getElem hposted, ← hitem, ← hitem']

/-- One item is posted, and posts another one when it runs. -/
def postsTwice : List (WorkAction Unit ℕ) :=
  [.post (some ()) (some 7), .enqueue (some ()), .schedule (some ()), .fire, .drain, .drain, .drain,
    .post none (some 8), .enqueue none, .schedule none, .finish, .drain, .drain, .drain, .finish,
    .drain, .drain]

theorem session_work_runs_twice :
    ∃ t, runSteps step {} postsTwice = some t ∧ t.ran = [7, 8] ∧
      t.ran ++ t.drain.inHand ++ t.session_work_queue = t.enqueued ∧
      ∃ e : WorkRun Unit ℕ, e.state 17 = t ∧ Diligent e ∧
        ∃ j, (e.state j).shutting_down = true ∨ (e.state j).ran[1]? = t.enqueued[1]? := by
  obtain ⟨t, hrun, hran, hup, hidle, harmed, hposts⟩ : ∃ t, runSteps step {} postsTwice = some t ∧
      t.ran = [7, 8] ∧ t.shutting_down = false ∧ t.drain.isIdle = true ∧
      t.session_work_timer = some false ∧ ∀ caller, t.posts caller = .idle :=
    ⟨_, rfl, rfl, rfl, rfl, rfl, fun caller => by rcases caller with _ | _ <;> rfl⟩
  have hpc := DrainPc.isIdle_iff.mp hidle
  have hdiligent : Diligent (Execution.ofRun hrun) := by
    refine ⟨Execution.ofRun_fair hrun ?_, Execution.ofRun_fair hrun ?_,
      Execution.ofRun_fair hrun ?_, fun caller => Execution.ofRun_fair hrun ?_⟩
    · rintro ⟨hset, -⟩
      cases harmed.symm.trans hset
    · exact fun hbusy => hbusy.1 hpc
    · intro hrunning
      cases hpc.symm.trans hrunning
    · intro hset
      cases (hposts caller).symm.trans hset
  obtain ⟨hsafe, hlive⟩ := @session_work_runs Unit ℕ _
  have horder := (hsafe postsTwice t hrun hup).2
  have hlast : (Execution.ofRun hrun).state 17 = t := Execution.state_ofRun_of_le hrun le_rfl
  have hposted : 1 < ((Execution.ofRun hrun).state 17).enqueued.length := by
    rw [hlast, ← horder, hran]
    simp
  obtain ⟨j, -, hj⟩ := hlive (Execution.ofRun hrun) rfl hdiligent 17 1 hposted
  rw [hlast] at hj
  exact ⟨t, hrun, hran, horder, Execution.ofRun hrun, hlast, hdiligent, j, hj⟩

/-! ## One thread alone -/

/-- The queue of a node between two events. -/
def ofNode (n : MainNode) : WorkQueue Poster SessionWork where
  session_work_queue := n.session_work_queue
  session_work_timer := some n.session_work_timer

/-- A post that nothing interrupts is `MainNode.postSessionWork`. -/
theorem post_alone (n : MainNode) (caller : Poster) (work : SessionWork) :
    ∃ t, runSteps step (ofNode n) [.post (some caller) (some work), .enqueue (some caller),
        .schedule (some caller)] = some t ∧
      t.session_work_queue = (n.postSessionWork work).session_work_queue ∧
      t.session_work_timer = some (n.postSessionWork work).session_work_timer ∧
      t.posts (some caller) = .idle := by
  let posted := (ofNode n).setPost (some caller) (.enqueue work)
  let queued := posted.enqueueWork (some caller) work
  have hpost : step (ofNode n) (.post (some caller) (some work)) = some posted := by
    unfold step
    exact if_pos ⟨rfl, rfl⟩
  have hphase : posted.posts (some caller) = .enqueue work := Function.update_self _ _ _
  have henqueue : step posted (.enqueue (some caller)) = some queued := by
    unfold step
    simp only [hphase, queued]
  have hphase' : queued.posts (some caller) = .schedule := Function.update_self _ _ _
  have hschedule : step queued (.schedule (some caller)) =
      some (queued.scheduleDrain (some caller)) := by
    unfold step
    simp only [hphase']
  refine ⟨queued.scheduleDrain (some caller), ?_, rfl, rfl, Function.update_self _ _ _⟩
  rw [runSteps, hpost, Option.bind_some, runSteps, henqueue, Option.bind_some, runSteps, hschedule]
  rfl

/-- A round of the drain that nothing interrupts is `MainNode.drainSessionWork`. -/
theorem drain_alone (n : MainNode) (harmed : n.session_work_timer = true) :
    ∃ t : WorkQueue Poster SessionWork,
      runSteps step (ofNode n) [.fire, .drain, .drain] = some t ∧
      match n.session_work_queue with
      | [] => t.drain = .idle ∧ t.session_work_queue = n.drainSessionWork.session_work_queue ∧
          t.session_work_timer = some n.drainSessionWork.session_work_timer
      | work :: rest => t.drain = .call work ∧ t.session_work_queue = rest ∧
          n.drainSessionWork =
            MainNode.runSessionWork { n with session_work_queue := rest } work := by
  have hfire : step (ofNode n : WorkQueue Poster SessionWork) .fire =
      some { ofNode n with drain := .test } := by
    unfold step
    exact if_pos ⟨congrArg some harmed, rfl⟩
  have hrun : runSteps step (ofNode n : WorkQueue Poster SessionWork) [.fire, .drain, .drain] =
      some (popWork { ofNode n with drain := .pop }) := by
    rw [runSteps, hfire]
    rfl
  refine ⟨_, hrun, ?_⟩
  unfold popWork MainNode.drainSessionWork ofNode
  cases n.session_work_queue with
  | nil => exact ⟨rfl, rfl, rfl⟩
  | cons work rest => exact ⟨rfl, rfl, rfl⟩

end WorkQueue

end TeleopBridge.Node
