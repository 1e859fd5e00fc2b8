import Mathlib.Data.List.Basic
import Mathlib.Data.Nat.Notation
import TeleopBridge.Support.Fairness

/-!
# The Video Recorder

Embeds `src/video/video_recorder.cpp`: the encoder's thread puts frames into a queue, a writer
thread appends them to the file, and the destructor stops the writer. Each step of a thread is
one access to what the threads share; the part of `writeFrame` under the lock is one step.

The destructor stores `running_` without the lock, so the store and its `notify_all` may come
while the writer has found nothing to do and is not on the condition variable yet.

## Key Results

- `recorder_run_holds`: frames leave the queue in the order in which they came, a dropped frame
  had 301 newer ones behind it, and the file is what the writer wrote of the others.
- `recorder_join`: the destructor returns unless the writer misses the notification.
-/

namespace TeleopBridge.Video

open Support

/-- `VideoRecorder::FrameData` -/
structure FrameData where
  index : UInt64
  data : List UInt8
  keyframe : Bool
  deriving DecidableEq, Repr

/-- Where the encoder's thread is in `writeFrame`. -/
inductive WriteFrameStage
  | out
  /-- After the checks, before the lock. -/
  | locking (frame : FrameData)
  /-- After the lock, before `cv_.notify_one`. -/
  | notifying
  deriving DecidableEq, Repr

/-- Where the writer thread is in `writerLoop`. -/
inductive WriterStage
  /-- `writer_thread_` is not joinable. -/
  | unborn
  /-- Before `while (running_)`. -/
  | looping
  /-- Before the lock. -/
  | locking
  /-- Under the lock, before the predicate of `cv_.wait`. -/
  | testing
  /-- Under the lock, after the predicate was false. -/
  | parking
  /-- On the condition variable. -/
  | blocked
  /-- Notified, and before the lock again. -/
  | woken
  /-- Under the lock, after `cv_.wait`. -/
  | popping
  | writing (frame : FrameData)
  | ended
  deriving DecidableEq, Repr

/-- The writer has the lock. -/
def WriterStage.Locked (stage : WriterStage) : Prop :=
  stage = .testing ∨ stage = .parking ∨ stage = .popping

instance (stage : WriterStage) : Decidable stage.Locked := inferInstanceAs (Decidable (_ ∨ _))

/-- A notification reaches only a writer that is on the condition variable. -/
def WriterStage.notify : WriterStage → WriterStage
  | .blocked => .woken
  | stage => stage

/-- Where the destructor is. -/
inductive DestructorStage
  | alive
  /-- `running_` is stored, before `cv_.notify_all`. -/
  | stored
  | joining
  | destroyed
  deriving DecidableEq, Repr

/-- How a frame left the queue. -/
inductive QueueExit
  /-- `writeFrame` dropped it, as the queue was full. -/
  | dropped
  /-- The writer took it. -/
  | taken
  deriving DecidableEq, Repr

/-- The recorder with its threads. -/
structure RecorderRun where
  enabled : Bool := false
  running_ : Bool := false
  queue_ : List FrameData := []
  output_file_open : Bool := false
  /-- What went into the file. -/
  content : List UInt8 := []
  producer : WriteFrameStage := .out
  writer : WriterStage := .unborn
  destructor : DestructorStage := .alive
  /-- The frames that came into the queue, in their order. -/
  accepted : List FrameData := []
  /-- The frames that left it, in their order. -/
  removed : List (FrameData × QueueExit) := []
  /-- The frames that the writer wrote, with the number of bytes that the file took. -/
  written : List (FrameData × ℕ) := []
  deriving DecidableEq, Repr

namespace RecorderRun

/-- `initialize`, with whether the directory and the file could be opened. -/
def initializeRecorder (r : RecorderRun) (enabled opened : Bool) : RecorderRun :=
  let r := { r with enabled := enabled }
  if !enabled then r
  else if !opened then r
  else { r with output_file_open := true, content := [], running_ := true, writer := .looping }

/-- The checks of `writeFrame`. -/
def writeFrame (r : RecorderRun) (frame : FrameData) : RecorderRun :=
  if !r.enabled || !r.running_ then r
  else if frame.data = [] then r
  else { r with producer := .locking frame }

/-- `queue_.pop()` of `writeFrame` -/
def dropFront (r : RecorderRun) : RecorderRun :=
  match r.queue_ with
  | [] => r
  | front :: rest => { r with queue_ := rest, removed := r.removed ++ [(front, .dropped)] }

/-- What `writeFrame` does under the lock. -/
def push (r : RecorderRun) (frame : FrameData) : RecorderRun :=
  let r := if 300 < r.queue_.length then r.dropFront else r
  { r with
    queue_ := r.queue_ ++ [frame]
    accepted := r.accepted ++ [frame]
    producer := .notifying }

/-- What the writer does under the lock, after `cv_.wait`. -/
def popFrame (r : RecorderRun) : RecorderRun :=
  if !r.running_ && r.queue_.isEmpty then { r with writer := .ended }
  else
    match r.queue_ with
    | [] => { r with writer := .looping }
    | frame :: rest =>
        { r with
          queue_ := rest
          removed := r.removed ++ [(frame, .taken)]
          writer := .writing frame }

/-- What the writer does with a frame; the file takes this many bytes. -/
def writeOut (r : RecorderRun) (frame : FrameData) (taken : ℕ) : RecorderRun :=
  if !r.output_file_open then { r with writer := .looping }
  else
    { r with
      content := r.content ++ frame.data.take taken
      written := r.written ++ [(frame, taken)]
      writer := .looping }

/-- The next step of `writerLoop`. -/
def writerStep (r : RecorderRun) (taken : ℕ) : Option RecorderRun :=
  match r.writer with
  | .unborn => none
  | .looping => some { r with writer := if r.running_ then .locking else .ended }
  | .locking => some { r with writer := .testing }
  | .testing =>
      some { r with writer := if !r.queue_.isEmpty || !r.running_ then .popping else .parking }
  | .parking => some { r with writer := .blocked }
  | .blocked => none
  | .woken => some { r with writer := .testing }
  | .popping => some r.popFrame
  | .writing frame => some (r.writeOut frame taken)
  | .ended => none

end RecorderRun

/-- The steps of the three threads. -/
inductive RecorderStep
  | initializeRecorder (enabled opened : Bool)
  | writeFrame (frame : FrameData)
  | push
  | notifyOne
  | writer (taken : ℕ)
  /-- A condition variable may wake without a notification. -/
  | spuriousWake
  | destroy
  | notifyAll
  | join
  deriving DecidableEq, Repr

namespace RecorderRun

/-- The recorder is destroyed when no frame is being handed to it. -/
def step (r : RecorderRun) : RecorderStep → Option RecorderRun
  | .initializeRecorder enabled opened =>
      if r.destructor = .alive ∧ r.producer = .out ∧ r.writer = .unborn then
        some (r.initializeRecorder enabled opened)
      else none
  | .writeFrame frame =>
      if r.destructor = .alive ∧ r.producer = .out then some (r.writeFrame frame) else none
  | .push =>
      match r.producer with
      | .locking frame => if r.writer.Locked then none else some (r.push frame)
      | _ => none
  | .notifyOne =>
      if r.producer = .notifying then some { r with producer := .out, writer := r.writer.notify }
      else none
  | .writer taken => r.writerStep taken
  | .spuriousWake => if r.writer = .blocked then some { r with writer := .woken } else none
  | .destroy =>
      if r.destructor = .alive ∧ r.producer = .out then
        some { r with running_ := false, destructor := .stored }
      else none
  | .notifyAll =>
      if r.destructor = .stored then
        some { r with destructor := .joining, writer := r.writer.notify }
      else none
  | .join =>
      if r.destructor = .joining ∧ (r.writer = .unborn ∨ r.writer = .ended) then
        some { r with destructor := .destroyed, output_file_open := false }
      else none

/-! ## What becomes of a frame -/

/-- The frame that the writer has taken and not written yet. -/
def inHand (r : RecorderRun) : List FrameData :=
  match r.writer with
  | .writing frame => [frame]
  | _ => []

/-- The frames that the writer took, in their order. -/
def takenFrames (r : RecorderRun) : List FrameData :=
  (r.removed.filter fun exit => exit.2 = .taken).map Prod.fst

/-- The invariant of the recorder. -/
structure Recorded (r : RecorderRun) : Prop where
  bounded : r.queue_.length ≤ 301
  fifo : r.accepted = r.removed.map Prod.fst ++ r.queue_
  behind : ∀ p frame, r.removed[p]? = some (frame, .dropped) → p + 301 < r.accepted.length
  taken : r.takenFrames = r.written.map Prod.fst ++ r.inHand
  content : r.content = r.written.flatMap fun entry => entry.1.data.take entry.2
  filled : ∀ frame ∈ r.accepted, frame.data ≠ []
  handed : ∀ frame, r.producer = .locking frame → frame.data ≠ []
  unborn : r.writer = .unborn → r.written = []
  opened : r.writer ≠ .unborn → r.writer ≠ .ended → r.output_file_open = true

variable {r r' : RecorderRun} {frame : FrameData}

theorem recorded_initial : Recorded {} where
  bounded := Nat.zero_le 301
  fifo := rfl
  behind _ _ h := nomatch h
  taken := rfl
  content := rfl
  filled _ h := nomatch h
  handed _ h := nomatch h
  unborn _ := rfl
  opened h := absurd rfl h

/-- Every accepted frame is still queued or was removed. -/
theorem Recorded.count (h : r.Recorded) :
    r.accepted.length = r.removed.length + r.queue_.length := by
  rw [h.fifo, List.length_append, List.length_map]

/-- The queue and the file do not see what the threads do otherwise. -/
theorem Recorded.move (h : r.Recorded) (running : Bool) (producer : WriteFrameStage)
    (writer : WriterStage) (destructor : DestructorStage)
    (hhand : ({ r with writer := writer } : RecorderRun).inHand = r.inHand)
    (hhanded : ∀ frame, producer = .locking frame → frame.data ≠ [])
    (hunborn : writer = .unborn → r.writer = .unborn)
    (hopened : writer ≠ .unborn → writer ≠ .ended → r.writer ≠ .unborn ∧ r.writer ≠ .ended) :
    Recorded { r with
      running_ := running, producer := producer, writer := writer, destructor := destructor } where
  -- neither the queue nor the records change
  bounded := h.bounded
  fifo := h.fifo
  behind := h.behind
  taken := h.taken.trans (congrArg (r.written.map Prod.fst ++ ·) hhand.symm)
  content := h.content
  filled := h.filled
  handed := hhanded
  unborn hwriter := h.unborn (hunborn hwriter)
  opened hborn hlive := h.opened (hopened hborn hlive).1 (hopened hborn hlive).2

/-- No accepted frame is empty, the one handed over included. -/
theorem Recorded.filled_concat (h : r.Recorded) (hproducer : r.producer = .locking frame) :
    ∀ other ∈ r.accepted ++ [frame], other.data ≠ [] := by
  intro other hother
  rcases List.mem_append.mp hother with hother | hother
  · exact h.filled other hother
  · rw [List.mem_singleton.mp hother]
    exact h.handed frame hproducer

/-- A frame that finds room joins the queue at its end. -/
theorem Recorded.pushRoom (h : r.Recorded) (hproducer : r.producer = .locking frame)
    (hroom : ¬300 < r.queue_.length) : (r.push frame).Recorded := by
  have hpush : r.push frame = { r with
      queue_ := r.queue_ ++ [frame]
      accepted := r.accepted ++ [frame]
      producer := .notifying } := by
    unfold RecorderRun.push
    rw [if_neg hroom]
  rw [hpush]
  refine ⟨?_, ?_, fun p other hp => ?_, h.taken, h.content, h.filled_concat hproducer,
    (fun _ hnone => nomatch hnone), h.unborn, h.opened⟩
  -- with room the queue holds 301 frames at most afterwards
  · rw [List.length_append, List.length_singleton]
    omega
  · simp only
    rw [h.fifo, List.append_assoc]
  · rw [List.length_append]
    exact Nat.lt_add_right _ (h.behind p other hp)

/-- A frame that is dropped has the rest of the full queue and the new frame behind it. -/
theorem Recorded.behind_drop (h : r.Recorded) (hfull : 300 < r.queue_.length) {front : FrameData}
    {p : ℕ} (hp : (r.removed ++ [(front, QueueExit.dropped)])[p]? = some (frame, .dropped)) :
    p + 301 < r.accepted.length + 1 := by
  have hcount := h.count
  rcases Nat.lt_or_ge p r.removed.length with hlt | hge
  · rw [List.getElem?_append_left hlt] at hp
    exact Nat.lt_succ_of_lt (h.behind p frame hp)
  · have hlast : p < (r.removed ++ [(front, QueueExit.dropped)]).length :=
      (List.getElem?_eq_some_iff.mp hp).1
    rw [List.length_append, List.length_singleton] at hlast
    omega

theorem Recorded.pushFull (h : r.Recorded) (hproducer : r.producer = .locking frame)
    (hfull : 300 < r.queue_.length) : (r.push frame).Recorded := by
  cases hqueue : r.queue_ with
  | nil =>
    rw [hqueue] at hfull
    cases hfull
  | cons front rest =>
    have hpush : r.push frame = { r with
        queue_ := rest ++ [frame]
        removed := r.removed ++ [(front, .dropped)]
        accepted := r.accepted ++ [frame]
        producer := .notifying } := by
      unfold RecorderRun.push
      rw [if_pos hfull, dropFront, hqueue]
    have hbounded := h.bounded
    rw [hqueue, List.length_cons] at hbounded
    rw [hpush]
    refine ⟨?_, ?_, fun p other hp => ?_, ?_, h.content, h.filled_concat hproducer,
      (fun _ hnone => nomatch hnone), h.unborn, h.opened⟩
    · rw [List.length_append, List.length_singleton]
      exact hbounded
    · simp only
      rw [h.fifo, hqueue]
      simp
    · simp only [List.length_append, List.length_singleton]
      exact h.behind_drop hfull hp
    · -- the writer took nothing
      unfold takenFrames
      simp only [List.filter_append]
      rw [List.filter_cons_of_neg (by simp), List.filter_nil, List.append_nil]
      exact h.taken

/-- A push keeps the invariant, with room or without. -/
theorem Recorded.push (h : r.Recorded) (hproducer : r.producer = .locking frame) :
    (r.push frame).Recorded := by
  by_cases hfull : 300 < r.queue_.length
  · exact h.pushFull hproducer hfull
  · exact h.pushRoom hproducer hfull

theorem Recorded.popFrame (h : r.Recorded) (hpopping : r.writer = .popping) :
    r.popFrame.Recorded := by
  have hborn : r.writer ≠ .unborn ∧ r.writer ≠ .ended := by
    rw [hpopping]
    exact ⟨by decide, by decide⟩
  have hhand : r.inHand = [] := by
    rw [inHand, hpopping]
  unfold RecorderRun.popFrame
  split_ifs
  -- stopped with an empty queue: the writer ends
  · exact h.move r.running_ r.producer .ended r.destructor hhand.symm h.handed
      (fun hnone => nomatch hnone) fun _ hended => absurd rfl hended
  · split
    -- woken for nothing, the writer starts its loop again
    · exact h.move r.running_ r.producer .looping r.destructor hhand.symm h.handed
        (fun hnone => nomatch hnone) fun _ _ => hborn
    · rename_i frame rest hqueue
      have hbounded := h.bounded
      rw [hqueue, List.length_cons] at hbounded
      refine ⟨Nat.le_of_succ_le hbounded, ?_, fun p other hp => ?_, ?_, h.content, h.filled,
        h.handed, (fun hnone => nomatch hnone), fun _ _ => h.opened hborn.1 hborn.2⟩
      · simp only
        rw [h.fifo, hqueue]
        simp
      · refine h.behind p other ?_
        -- the new entry is no dropped frame
        rcases Nat.lt_or_ge p r.removed.length with hlt | hge
        · rwa [List.getElem?_append_left hlt] at hp
        · rw [List.getElem?_append_right hge] at hp
          have hmem := List.mem_of_getElem? hp
          rw [List.mem_singleton] at hmem
          cases hmem
      · have htaken := h.taken
        rw [hhand, List.append_nil] at htaken
        unfold takenFrames at htaken ⊢
        simp only [List.filter_append, List.map_append]
        rw [htaken]
        rfl

/-- A written frame is the one the writer had in hand, appended to the file. -/
theorem Recorded.writeOut (h : r.Recorded) (hwriting : r.writer = .writing frame) (taken : ℕ) :
    (r.writeOut frame taken).Recorded := by
  -- a writer at work has an open file, so the write is not skipped
  have hopen : r.output_file_open = true :=
    h.opened (by rw [hwriting]; exact WriterStage.noConfusion)
      (by rw [hwriting]; exact WriterStage.noConfusion)
  have hhand : r.inHand = [frame] := by
    rw [inHand, hwriting]
  have hwrite : ¬(!r.output_file_open) = true := by
    rw [hopen]
    exact Bool.false_ne_true
  unfold RecorderRun.writeOut
  rw [if_neg hwrite]
  refine ⟨h.bounded, h.fifo, h.behind, ?_, ?_, h.filled, h.handed, (fun hnone => nomatch hnone),
    fun _ _ => hopen⟩
  · have htaken := h.taken
    rw [hhand] at htaken
    simp only [List.map_append]
    exact htaken.trans (List.append_nil _).symm
  · simp only [List.flatMap_append]
    rw [h.content]
    simp

/-- A notification leaves the writer's frame with it. -/
theorem inHand_notify (r : RecorderRun) :
    ({ r with writer := r.writer.notify } : RecorderRun).inHand = r.inHand := by
  unfold inHand
  cases r.writer <;> rfl

/-- A notification wakes a blocked writer and does nothing to any other. -/
theorem notify_cases (stage : WriterStage) :
    stage.notify = stage ∨ stage = .blocked ∧ stage.notify = .woken := by
  cases stage
  case blocked => exact Or.inr ⟨rfl, rfl⟩
  all_goals exact Or.inl rfl

/-- A notification, by either side. -/
theorem Recorded.notify (h : r.Recorded) (producer : WriteFrameStage)
    (destructor : DestructorStage)
    (hhanded : ∀ frame, producer = .locking frame → frame.data ≠ []) :
    Recorded { r with
      producer := producer, writer := r.writer.notify, destructor := destructor } := by
  refine h.move r.running_ producer r.writer.notify destructor (inHand_notify r) hhanded ?_ ?_
  · rcases notify_cases r.writer with hsame | ⟨-, hwoken⟩
    · rw [hsame]
      exact id
    · rw [hwoken]
      exact fun hnone => nomatch hnone
  · rcases notify_cases r.writer with hsame | ⟨hblocked, -⟩
    · rw [hsame]
      exact And.intro
    · rw [hblocked]
      exact fun _ _ => ⟨by decide, by decide⟩

/-- What a step of the writer does: it goes on without a frame, takes one, or writes it. -/
theorem writerStep_cases {taken : ℕ} (hstep : r.writerStep taken = some r') :
    (∃ next, r' = { r with writer := next } ∧ r'.inHand = r.inHand ∧ next ≠ .unborn ∧
        r.writer ≠ .unborn ∧ r.writer ≠ .ended) ∨
      r.writer = .popping ∧ r' = r.popFrame ∨
      ∃ frame, r.writer = .writing frame ∧ r' = r.writeOut frame taken := by
  unfold RecorderRun.writerStep at hstep
  cases hwriter : r.writer with
  | unborn =>
    rw [hwriter] at hstep
    cases hstep
  | looping =>
    rw [hwriter] at hstep
    cases hstep
    -- the test of `running_` only chooses where the writer goes
    refine Or.inl ⟨_, rfl, ?_, ?_, by decide, by decide⟩
    · unfold inHand
      rw [hwriter]
      cases r.running_ <;> rfl
    · cases r.running_ <;> exact WriterStage.noConfusion
  | locking =>
    rw [hwriter] at hstep
    cases hstep
    refine Or.inl ⟨_, rfl, ?_, by decide, by decide, by decide⟩
    unfold inHand
    rw [hwriter]
  | testing =>
    rw [hwriter] at hstep
    cases hstep
    refine Or.inl ⟨_, rfl, ?_, ?_, by decide, by decide⟩
    · unfold inHand
      rw [hwriter]
      split_ifs <;> rfl
    · split_ifs <;> exact WriterStage.noConfusion
  | parking =>
    rw [hwriter] at hstep
    cases hstep
    refine Or.inl ⟨_, rfl, ?_, by decide, by decide, by decide⟩
    unfold inHand
    rw [hwriter]
  | blocked =>
    rw [hwriter] at hstep
    cases hstep
  | woken =>
    rw [hwriter] at hstep
    cases hstep
    refine Or.inl ⟨_, rfl, ?_, by decide, by decide, by decide⟩
    unfold inHand
    rw [hwriter]
  | popping =>
    rw [hwriter] at hstep
    cases hstep
    exact Or.inr (Or.inl ⟨rfl, rfl⟩)
  | writing frame =>
    rw [hwriter] at hstep
    cases hstep
    exact Or.inr (Or.inr ⟨frame, rfl, rfl⟩)
  | ended =>
    rw [hwriter] at hstep
    cases hstep

/-- The writer leaves the other threads alone. -/
theorem writerStep_frame {taken : ℕ} (hstep : r.writerStep taken = some r') :
    r'.destructor = r.destructor ∧ r'.running_ = r.running_ ∧ r'.producer = r.producer := by
  rcases writerStep_cases hstep with ⟨next, rfl, -⟩ | ⟨-, rfl⟩ | ⟨frame, -, rfl⟩
  · exact ⟨rfl, rfl, rfl⟩
  · unfold RecorderRun.popFrame
    split_ifs
    · exact ⟨rfl, rfl, rfl⟩
    · split <;> exact ⟨rfl, rfl, rfl⟩
  · unfold RecorderRun.writeOut
    split_ifs <;> exact ⟨rfl, rfl, rfl⟩

/-- A step of the writer moves, takes the next frame or writes the one it has. -/
theorem Recorded.writerStep {taken : ℕ} (h : r.Recorded)
    (hstep : r.writerStep taken = some r') : r'.Recorded := by
  rcases writerStep_cases hstep with
    ⟨next, rfl, hhand, hunborn, hwriter⟩ | ⟨hpopping, rfl⟩ | ⟨frame, hwriting, rfl⟩
  · exact h.move r.running_ r.producer next r.destructor hhand h.handed
      (fun hnone => absurd hnone hunborn) fun _ _ => hwriter
  · exact h.popFrame hpopping
  · exact h.writeOut hwriting taken

/-- An initialization opens a new file or leaves the recorder closed. -/
theorem Recorded.initializeRecorder {enabled opened : Bool} (h : r.Recorded)
    (hunborn : r.writer = .unborn) :
    (r.initializeRecorder enabled opened).Recorded := by
  unfold RecorderRun.initializeRecorder
  simp only
  split_ifs
  · exact ⟨h.bounded, h.fifo, h.behind, h.taken, h.content, h.filled, h.handed, h.unborn,
      h.opened⟩
  · exact ⟨h.bounded, h.fifo, h.behind, h.taken, h.content, h.filled, h.handed, h.unborn,
      h.opened⟩
  -- a new file is empty, and nothing was written to it yet
  · have hwritten := h.unborn hunborn
    refine ⟨h.bounded, h.fifo, h.behind, ?_, ?_, h.filled, h.handed, (fun hnone => nomatch hnone),
      fun _ _ => rfl⟩
    · have htaken := h.taken
      rw [inHand, hunborn] at htaken
      exact htaken
    · show [] = _
      rw [hwritten]
      rfl

/-- Every step keeps the invariant. -/
theorem Recorded.step {s : RecorderStep} (h : r.Recorded) (hstep : r.step s = some r') :
    r'.Recorded := by
  cases s with
  | initializeRecorder enabled opened =>
    simp only [RecorderRun.step] at hstep
    split_ifs at hstep with hidle
    cases hstep
    exact h.initializeRecorder hidle.2.2
  | writeFrame frame =>
    simp only [RecorderRun.step] at hstep
    split_ifs at hstep
    cases hstep
    unfold RecorderRun.writeFrame
    split_ifs with _ hempty
    · exact h
    · exact h
    · refine h.move r.running_ (.locking frame) r.writer r.destructor rfl ?_ id And.intro
      intro other hother
      cases hother
      exact hempty
  | push =>
    simp only [RecorderRun.step] at hstep
    split at hstep
    · rename_i frame hproducer
      split_ifs at hstep
      cases hstep
      exact h.push hproducer
    · cases hstep
  | notifyOne =>
    simp only [RecorderRun.step] at hstep
    split_ifs at hstep
    cases hstep
    exact h.notify .out r.destructor fun _ hnone => nomatch hnone
  | writer taken => exact h.writerStep hstep
  | spuriousWake =>
    simp only [RecorderRun.step] at hstep
    split_ifs at hstep with hblocked
    cases hstep
    have hwoken : r.writer.notify = .woken := by
      rw [hblocked]
      rfl
    rw [← hwoken]
    exact h.notify r.producer r.destructor h.handed
  | destroy =>
    simp only [RecorderRun.step] at hstep
    split_ifs at hstep
    cases hstep
    exact h.move false r.producer r.writer .stored rfl h.handed id And.intro
  | notifyAll =>
    simp only [RecorderRun.step] at hstep
    split_ifs at hstep
    cases hstep
    exact h.notify r.producer .joining h.handed
  | join =>
    simp only [RecorderRun.step] at hstep
    split_ifs at hstep with hready
    cases hstep
    refine ⟨h.bounded, h.fifo, h.behind, h.taken, h.content, h.filled, h.handed, h.unborn, ?_⟩
    -- the writer is gone, so nobody writes to the closed file
    intro hborn hlive
    exact absurd hready.2 (not_or.mpr ⟨hborn, hlive⟩)

/-- In every state of every run: the queue is bounded; frames left it in the order in which they
came, dropped or taken by the writer, and a dropped one had 301 newer ones behind it; the writer
wrote what it took, in this order, and the file is what it wrote. -/
theorem recorder_run_holds {steps : List RecorderStep}
    (hrun : runSteps RecorderRun.step {} steps = some r) :
    r.queue_.length ≤ 301 ∧ r.accepted = r.removed.map Prod.fst ++ r.queue_ ∧
      (∀ p frame, r.removed[p]? = some (frame, .dropped) → p + 301 < r.accepted.length) ∧
      r.takenFrames = r.written.map Prod.fst ++ r.inHand ∧
      (r.content = r.written.flatMap fun entry => entry.1.data.take entry.2) ∧
      ∀ frame ∈ r.accepted, frame.data ≠ [] := by
  have h : r.Recorded :=
    runSteps_invariant (fun _ _ _ h hstep => h.step hstep) recorded_initial hrun
  exact ⟨h.bounded, h.fifo, h.behind, h.taken, h.content, h.filled⟩

/-- Of two frames the writer has written one when the recorder is destroyed; the other one
stays in the queue. -/
theorem recorder_run_holds_two_frames :
    ∃ r, runSteps RecorderRun.step {}
        [.initializeRecorder true true, .writer 0, .writer 0, .writeFrame ⟨0, [1, 2], true⟩,
          .writer 0, .writer 0, .push, .notifyOne, .writeFrame ⟨1, [3], false⟩, .push, .notifyOne,
          .writer 0, .writer 0, .writer 0, .destroy, .notifyAll, .writer 2, .writer 0, .join] =
        some r ∧
      r.destructor = .destroyed ∧ r.content = [1, 2] ∧ r.queue_ = [⟨1, [3], false⟩] ∧
      r.queue_.length ≤ 301 := by
  refine ⟨_, rfl, rfl, rfl, rfl, ?_⟩
  exact (@recorder_run_holds _
    [.initializeRecorder true true, .writer 0, .writer 0, .writeFrame ⟨0, [1, 2], true⟩,
      .writer 0, .writer 0, .push, .notifyOne, .writeFrame ⟨1, [3], false⟩, .push, .notifyOne,
      .writer 0, .writer 0, .writer 0, .destroy, .notifyAll, .writer 2, .writer 0, .join] rfl).1

/-! ## Whether the destructor returns -/

/-- Once the destructor runs, no thread hands over a frame. -/
def Stopping (r : RecorderRun) : Prop :=
  r.destructor ≠ .alive → r.running_ = false ∧ r.producer = .out

theorem Stopping.step {s : RecorderStep} (h : r.Stopping) (hstep : r.step s = some r') :
    r'.Stopping := by
  cases s with
  | initializeRecorder enabled opened =>
    simp only [RecorderRun.step] at hstep
    split_ifs at hstep with hidle
    cases hstep
    have hsame : (r.initializeRecorder enabled opened).destructor = r.destructor := by
      unfold RecorderRun.initializeRecorder
      simp only
      split_ifs <;> rfl
    intro hlater
    rw [hsame] at hlater
    exact absurd hidle.1 hlater
  | writeFrame frame =>
    simp only [RecorderRun.step] at hstep
    split_ifs at hstep with hidle
    cases hstep
    have hsame : (r.writeFrame frame).destructor = r.destructor := by
      unfold RecorderRun.writeFrame
      split_ifs <;> rfl
    intro hlater
    rw [hsame] at hlater
    exact absurd hidle.1 hlater
  | push =>
    simp only [RecorderRun.step] at hstep
    split at hstep
    · rename_i frame hproducer
      split_ifs at hstep
      cases hstep
      have hsame : (r.push frame).destructor = r.destructor := by
        unfold RecorderRun.push dropFront
        split_ifs
        · cases r.queue_ <;> rfl
        · rfl
      -- the destructor does not run while a frame is handed over
      intro hlater
      rw [hsame] at hlater
      rw [(h hlater).2] at hproducer
      cases hproducer
    · cases hstep
  | notifyOne =>
    simp only [RecorderRun.step] at hstep
    split_ifs at hstep
    cases hstep
    exact fun hlater => ⟨(h hlater).1, rfl⟩
  | writer taken =>
    have hsame : r'.destructor = r.destructor ∧ r'.running_ = r.running_ ∧
        r'.producer = r.producer := writerStep_frame hstep
    intro hlater
    rw [hsame.1] at hlater
    rw [hsame.2.1, hsame.2.2]
    exact h hlater
  | spuriousWake =>
    simp only [RecorderRun.step] at hstep
    split_ifs at hstep
    cases hstep
    exact h
  | destroy =>
    simp only [RecorderRun.step] at hstep
    split_ifs at hstep with hidle
    cases hstep
    exact fun _ => ⟨rfl, hidle.2⟩
  | notifyAll =>
    simp only [RecorderRun.step] at hstep
    split_ifs at hstep with hstored
    cases hstep
    exact fun _ => h (by rw [hstored]; decide)
  | join =>
    simp only [RecorderRun.step] at hstep
    split_ifs at hstep with hready
    cases hstep
    exact fun _ => h (by rw [hready.1]; decide)

/-- While the destructor waits, only the writer and the destructor itself act. -/
theorem step_joining {s : RecorderStep} (hjoining : r.destructor = .joining)
    (hout : r.producer = .out) (hstep : r.step s = some r') :
    (∃ taken, s = .writer taken ∧ r.writerStep taken = some r') ∨
      s = .spuriousWake ∧ r.writer = .blocked ∨
      s = .join ∧ (r.writer = .unborn ∨ r.writer = .ended) ∧ r'.destructor = .destroyed := by
  cases s with
  | writer taken => exact Or.inl ⟨taken, rfl, hstep⟩
  | spuriousWake =>
    simp only [RecorderRun.step] at hstep
    split_ifs at hstep with hblocked
    exact Or.inr (Or.inl ⟨rfl, hblocked⟩)
  | join =>
    simp only [RecorderRun.step] at hstep
    split_ifs at hstep with hready
    cases hstep
    exact Or.inr (Or.inr ⟨rfl, hready.2, rfl⟩)
  -- the steps of the producer need a recorder that is not being destroyed
  | initializeRecorder => simp [RecorderRun.step, hjoining] at hstep
  | writeFrame => simp [RecorderRun.step, hjoining] at hstep
  | push => simp [RecorderRun.step, hout] at hstep
  | notifyOne => simp [RecorderRun.step, hout] at hstep
  | destroy => simp [RecorderRun.step, hjoining] at hstep
  | notifyAll => simp [RecorderRun.step, hjoining] at hstep

/-- The destructor waits, and the writer will still look at `running_`. -/
structure Leaving (r : RecorderRun) : Prop where
  joining : r.destructor = .joining
  stopped : r.running_ = false
  out : r.producer = .out
  looks : r.writer ≠ .parking ∧ r.writer ≠ .blocked

/-- How many steps the writer has to its end, when `running_` is false. -/
def stepsLeft (r : RecorderRun) : ℕ :=
  match r.writer with
  | .unborn => 0
  | .ended => 0
  | .looping => 1
  | .writing _ => 2
  | .popping => 3
  | .testing => 4
  | .locking => 5
  | .woken => 5
  | .parking => 0
  | .blocked => 0

theorem Leaving.writerStep {taken : ℕ} (h : r.Leaving) (hstep : r.writerStep taken = some r') :
    r'.Leaving ∧ r'.stepsLeft < r.stepsLeft := by
  have hframe := writerStep_frame hstep
  suffices hwriter : (r'.writer ≠ .parking ∧ r'.writer ≠ .blocked) ∧
      r'.stepsLeft < r.stepsLeft from
    ⟨⟨hframe.1.trans h.joining, hframe.2.1.trans h.stopped, hframe.2.2.trans h.out,
      hwriter.1⟩, hwriter.2⟩
  unfold RecorderRun.writerStep at hstep
  cases hwriter : r.writer with
  | unborn =>
    rw [hwriter] at hstep
    cases hstep
  | looping =>
    rw [hwriter] at hstep
    cases hstep
    simp [stepsLeft, hwriter, h.stopped]
  | locking =>
    rw [hwriter] at hstep
    cases hstep
    simp [stepsLeft, hwriter]
  | testing =>
    -- the predicate is true, as `running_` is false
    rw [hwriter] at hstep
    cases hstep
    simp [stepsLeft, hwriter, h.stopped]
  | parking => exact absurd hwriter h.looks.1
  | blocked => exact absurd hwriter h.looks.2
  | woken =>
    rw [hwriter] at hstep
    cases hstep
    simp [stepsLeft, hwriter]
  | popping =>
    rw [hwriter] at hstep
    cases hstep
    unfold RecorderRun.popFrame
    cases hqueue : r.queue_ with
    | nil => simp [stepsLeft, hwriter, h.stopped]
    | cons frame rest => simp [stepsLeft, hwriter, h.stopped]
  | writing frame =>
    rw [hwriter] at hstep
    cases hstep
    unfold RecorderRun.writeOut
    split_ifs <;> simp [stepsLeft, hwriter]
  | ended =>
    rw [hwriter] at hstep
    cases hstep

/-- The writer is on its way to the condition variable, or on it, and all notifications are
over. -/
structure Missed (r : RecorderRun) : Prop where
  joining : r.destructor = .joining
  out : r.producer = .out
  parked : r.writer = .parking ∨ r.writer = .blocked

/-- A missed wake-up stays missed: only a spurious one ends it. -/
theorem Missed.step {s : RecorderStep} (h : r.Missed) (hstep : r.step s = some r')
    (hquiet : s ≠ .spuriousWake) : r'.Missed := by
  rcases step_joining h.joining h.out hstep with ⟨taken, -, hwriter⟩ | ⟨hwake, -⟩ | ⟨-, hready, -⟩
  · have hframe := writerStep_frame hwriter
    refine ⟨hframe.1.trans h.joining, hframe.2.2.trans h.out, Or.inr ?_⟩
    unfold RecorderRun.writerStep at hwriter
    -- the writer goes from parking to blocked, and stays there
    rcases h.parked with hparking | hblocked
    · rw [hparking] at hwriter
      cases hwriter
      rfl
    · rw [hblocked] at hwriter
      cases hwriter
  · exact absurd hwake hquiet
  · rcases h.parked with hparked | hparked <;> rw [hparked] at hready <;>
      exact absurd hready (by decide)

section Executions

variable {e : Execution RecorderRun.step}

/-- The writer and the destructor are not kept waiting forever where they can go on. -/
structure Diligent (e : Execution RecorderRun.step) : Prop where
  writes : e.Fair (fun r => r.writer ≠ .unborn ∧ r.writer ≠ .ended ∧ r.writer ≠ .blocked)
    fun a => ∃ taken, a = .writer taken
  joins : e.Fair (fun r => r.destructor = .joining ∧ (r.writer = .unborn ∨ r.writer = .ended))
    (· = .join)

theorem Diligent.nearer (h : Diligent e) (k : ℕ) :
    e.LeadsTo (fun r => r.Leaving ∧ r.stepsLeft = k)
      fun r => r.destructor = .destroyed ∨ r.Leaving ∧ r.stepsLeft < k := by
  have hprogress : ∀ r s r', (RecorderRun.Leaving r ∧ r.stepsLeft = k) → r.step s = some r' →
      r'.destructor = .destroyed ∨ r'.Leaving ∧ r'.stepsLeft < k := by
    rintro r s r' ⟨hleaving, rfl⟩ hstep
    rcases step_joining hleaving.joining hleaving.out hstep with
      ⟨taken, -, hwriter⟩ | ⟨-, hblocked⟩ | ⟨-, -, hdone⟩
    · exact Or.inr (hleaving.writerStep hwriter)
    · exact absurd hblocked hleaving.looks.2
    · exact Or.inl hdone
  cases k with
  | zero =>
    -- the writer has ended, so the destructor goes on
    refine Execution.leadsTo_of_fair h.joins ?_ fun r s r' hr hstep =>
      Or.inl (hprogress r s r' hr hstep)
    rintro r ⟨hleaving, hzero⟩
    refine ⟨hleaving.joining, ?_⟩
    obtain ⟨hparking, hblocked⟩ := hleaving.looks
    unfold stepsLeft at hzero
    cases hwriter : r.writer
    case unborn => exact Or.inl rfl
    case ended => exact Or.inr rfl
    case parking => exact absurd hwriter hparking
    case blocked => exact absurd hwriter hblocked
    all_goals
      rw [hwriter] at hzero
      cases hzero
  | succ k =>
    refine Execution.leadsTo_of_fair h.writes ?_ fun r s r' hr hstep =>
      Or.inl (hprogress r s r' hr hstep)
    rintro r ⟨hleaving, hmore⟩
    refine ⟨fun hunborn => ?_, fun hended => ?_, hleaving.looks.2⟩
    · rw [stepsLeft, hunborn] at hmore
      cases hmore
    · rw [stepsLeft, hended] at hmore
      cases hmore

/-- The destructor returns if the writer was not between its predicate and the condition
variable when it was notified. If it was, and does not wake by itself, the destructor waits
forever. -/
theorem recorder_join (hstart : e.state 0 = {}) (hdiligent : Diligent e) {i : ℕ}
    (hnotify : e.action i = some .notifyAll) :
    ((e.state i).writer ≠ .parking → ∃ j, i ≤ j ∧ (e.state j).destructor = .destroyed) ∧
      ((e.state i).writer = .parking → (∀ j, i ≤ j → e.action j ≠ some .spuriousWake) →
        ∀ j, i ≤ j → (e.state j).destructor ≠ .destroyed) := by
  have hstopping : (e.state i).Stopping := by
    refine Execution.stable (fun _ _ _ h hstep => h.step hstep) (Nat.zero_le i) ?_
    rw [hstart]
    exact fun hlater => absurd rfl hlater
  -- what the notification does
  obtain ⟨hstored, hafter⟩ : (e.state i).destructor = .stored ∧
      e.state (i + 1) =
        { e.state i with destructor := .joining, writer := (e.state i).writer.notify } := by
    rcases Execution.next_cases (e := e) i with ⟨hnone, -⟩ | ⟨a, ha, hstep⟩
    · cases hnone.symm.trans hnotify
    · cases ha.symm.trans hnotify
      simp only [RecorderRun.step] at hstep
      split_ifs at hstep with hstored
      exact ⟨hstored, (Option.some.inj hstep).symm⟩
  obtain ⟨hstopped, hout⟩ := hstopping (by rw [hstored]; decide)
  constructor
  · intro hparking
    have hleaving : (e.state (i + 1)).Leaving := by
      rw [hafter]
      refine ⟨rfl, hstopped, hout, ?_, ?_⟩
      · rcases notify_cases (e.state i).writer with hsame | ⟨-, hwoken⟩
        · exact hsame.symm ▸ hparking
        · exact hwoken.symm ▸ WriterStage.noConfusion
      · show (e.state i).writer.notify ≠ .blocked
        cases (e.state i).writer <;> exact WriterStage.noConfusion
    obtain ⟨j, hij, hj⟩ :=
      Execution.leadsTo_of_rank stepsLeft hdiligent.nearer (i + 1) hleaving
    exact ⟨j, Nat.le_of_succ_le hij, hj⟩
  · intro hparking hquiet j hij
    have hmissed (k : ℕ) (hk : i + 1 ≤ k) : (e.state k).Missed := by
      induction k, hk using Nat.le_induction with
      | base =>
        rw [hafter]
        refine ⟨rfl, hout, Or.inl ?_⟩
        show (e.state i).writer.notify = .parking
        rw [hparking]
        rfl
      | succ k hk ih =>
        rcases Execution.next_cases (e := e) k with ⟨-, hrest⟩ | ⟨a, ha, hstep⟩
        · rwa [hrest]
        · refine ih.step hstep fun hwake => ?_
          rw [hwake] at ha
          exact hquiet k (Nat.le_of_succ_le hk) ha
    rcases Nat.eq_or_lt_of_le hij with rfl | hlt
    · rw [hstored]
      decide
    · rw [(hmissed j hlt).joining]
      decide

end Executions

/-- The writer finds the queue empty, the destructor stores and notifies, and only then does the
writer block: nothing moves any more. -/
theorem recorder_join_missed :
    ∃ t, ∃ hrun : runSteps RecorderRun.step {}
        [.initializeRecorder true true, .writer 0, .writer 0, .writer 0, .destroy, .notifyAll,
          .writer 0] = some t,
      t.writer = .blocked ∧
      ∀ j, 5 ≤ j → ((Execution.ofRun hrun).state j).destructor ≠ .destroyed := by
  refine ⟨_, rfl, rfl, ?_⟩
  have hrun : runSteps RecorderRun.step {}
      [.initializeRecorder true true, .writer 0, .writer 0, .writer 0, .destroy, .notifyAll,
        .writer 0] = some _ := rfl
  have hdiligent : Diligent (Execution.ofRun hrun) :=
    ⟨Execution.ofRun_fair hrun (by decide), Execution.ofRun_fair hrun (by decide)⟩
  refine (recorder_join (e := Execution.ofRun hrun) rfl hdiligent (i := 5) rfl).2 rfl ?_
  -- no later action is a wake-up
  intro j hj hwake
  have hmem := List.mem_of_getElem? hwake
  revert hmem
  decide

end RecorderRun

end TeleopBridge.Video
