import Mathlib.Data.List.Nodup
import TeleopBridge.Support.Transition
import TeleopBridge.Video.VideoEncoder

/-!
# Warm-Up Filter

Embeds the warm-up filter of `src/video/video_stream_manager.cpp`: the timing entries that
`onConverterOutput` makes and `onEncoderPacket` looks up and erases, the deadline and the
one-shot flag. The encoder in between is a queue of frames, each of which comes out as one
or more access units, in order.

## Key Results

- `leakFree_iff`: nothing submitted before the deadline is passed on if and only if every
  late unit of such a frame still finds an entry below the deadline. Only frames submitted
  before the deadline are ever dropped.
- `leakFree_iff_distinct`: with distinct timestamps that fails exactly for the later slices.
- `slice_leaks`: the second slice of a frame from before the deadline gets through.
-/

namespace TeleopBridge.Video

open Support

/-! ## The filter -/

/-- The members of `VideoStreamManager` that decide whether a packet is passed on.
`enc_start_steady_us_by_ts_` is a map from timestamps to the clock. -/
structure WarmupFilter where
  enc_start_steady_us_by_ts_ : UInt64 → Option ℕ := fun _ => none
  warmup_deadline_us_ : ℕ
  warmup_active_ : Bool

namespace WarmupFilter

/-- The warm-up part of `startPipeline`, at `now_us`. -/
def startPipeline (warmup_duration_ms now_us : ℕ) : WarmupFilter where
  warmup_deadline_us_ := now_us + warmup_duration_ms * 1000
  warmup_active_ := decide (warmup_duration_ms > 0)

/-- `onConverterOutput`: the entry it makes before it submits. -/
def timeSubmit (f : WarmupFilter) (timestamp_us : UInt64) (enc_t0_us : ℕ) : WarmupFilter :=
  { f with
    enc_start_steady_us_by_ts_ :=
      Function.update f.enc_start_steady_us_by_ts_ timestamp_us (some enc_t0_us) }

/-- The entry is erased, as a failed submit and the first packet of a frame do. -/
def eraseEntry (f : WarmupFilter) (timestamp_us : UInt64) : WarmupFilter :=
  { f with
    enc_start_steady_us_by_ts_ :=
      Function.update f.enc_start_steady_us_by_ts_ timestamp_us none }

/-- `onEncoderPacket` at `now_us`: whether the packet reaches the recorder and the encoded
frame callback. -/
def onEncoderPacket (f : WarmupFilter) (timestamp_us : UInt64) (now_us : ℕ) :
    Bool × WarmupFilter :=
  let enc_submit_steady_us : ℤ :=
    match f.enc_start_steady_us_by_ts_ timestamp_us with
    | some start => start
    | none => -1
  let erased := f.eraseEntry timestamp_us
  if f.warmup_active_ then
    let packet_submitted_during_warmup :=
      decide (enc_submit_steady_us ≥ 0) && decide (enc_submit_steady_us < f.warmup_deadline_us_)
    if decide (now_us < f.warmup_deadline_us_) || packet_submitted_during_warmup then
      (false, erased)
    else
      -- past the deadline: the flag goes off once and for all
      (true, { erased with warmup_active_ := false })
  else (true, erased)

end WarmupFilter

/-! ## Runs -/

/-- A frame: its timestamp, and the clock when `onConverterOutput` submitted it. -/
structure TimedFrame where
  timestamp_us : UInt64
  submitted_us : ℕ
deriving DecidableEq, Repr

/-- An event. `onConverterOutput` is cut at its clock read, its entry and the result of
`submit`; a delivery is one `onEncoderPacket`, of the first or a later unit of a frame. -/
inductive WarmupEvent where
  | readClock (timestamp_us : UInt64) (now_us : ℕ)
  | timeSubmit
  | submit (accepted : Bool)
  | deliverFirst (now_us : ℕ)
  | deliverLater (now_us : ℕ)
deriving DecidableEq, Repr

/-- The filter and the encoder. `clocked` and `submitting` are the frame that the encode
thread works on, `inFlight` the accepted frames without output, `current` the frame output
last and `produced` the number of its units so far. -/
structure WarmupRun where
  filter : WarmupFilter
  slices : ℕ
  now_us : ℕ
  clocked : Option TimedFrame := none
  submitting : Option TimedFrame := none
  inFlight : List TimedFrame := []
  current : Option TimedFrame := none
  produced : ℕ := 0
  passed : List TimedFrame := []
  dropped : List TimedFrame := []

namespace WarmupRun

/-- Whether `onEncoderPacket` passes a unit of `frame` on. -/
def passes (r : WarmupRun) (frame : TimedFrame) (now_us : ℕ) : Bool :=
  (r.filter.onEncoderPacket frame.timestamp_us now_us).1

/-- A unit of `frame` is handed to `onEncoderPacket`. -/
def deliver (r : WarmupRun) (frame : TimedFrame) (now_us : ℕ) : WarmupRun :=
  { r with
    filter := (r.filter.onEncoderPacket frame.timestamp_us now_us).2
    now_us := now_us
    passed := if r.passes frame now_us then r.passed ++ [frame] else r.passed
    dropped := if r.passes frame now_us then r.dropped else r.dropped ++ [frame] }

/-- One event; the clock never goes back. -/
def step (r : WarmupRun) : WarmupEvent → Option WarmupRun
  | .readClock timestamp_us now_us =>
      -- the encode thread has one frame at a time, and the clock never goes back
      if r.clocked = none ∧ r.submitting = none ∧ r.now_us ≤ now_us then
        some { r with clocked := some ⟨timestamp_us, now_us⟩, now_us := now_us }
      else none
  | .timeSubmit =>
      r.clocked.elim none fun frame =>
        some { r with
          filter := r.filter.timeSubmit frame.timestamp_us frame.submitted_us
          clocked := none
          submitting := some frame }
  | .submit accepted =>
      r.submitting.elim none fun frame =>
        if accepted then
          some { r with submitting := none, inFlight := r.inFlight ++ [frame] }
        else
          -- `submit` refused: the entry is erased, the clock is not
          some { r with filter := r.filter.eraseEntry frame.timestamp_us, submitting := none }
  | .deliverFirst now_us =>
      match r.inFlight with
      | [] => none
      | frame :: inFlight =>
          if r.now_us ≤ now_us then
            some { r.deliver frame now_us with
              inFlight := inFlight
              current := some frame
              produced := 1 }
          else none
  | .deliverLater now_us =>
      r.current.elim none fun frame =>
        -- a frame has at most `slices` units
        if r.produced < r.slices ∧ r.now_us ≤ now_us then
          some { r.deliver frame now_us with produced := r.produced + 1 }
        else none

/-- The pipeline has been started: the filter is set and nothing is under way. -/
def started (warmup_duration_ms slices now_us : ℕ) : WarmupRun where
  filter := WarmupFilter.startPipeline warmup_duration_ms now_us
  slices := slices
  now_us := now_us

/-- `warmup_deadline_us_`, which no event changes. -/
def deadline (r : WarmupRun) : ℕ := r.filter.warmup_deadline_us_

/-- The frames with output still to come or under way, the oldest first. -/
def timed (r : WarmupRun) : List TimedFrame :=
  r.current.toList ++ r.inFlight ++ r.submitting.toList

/-- Those and the frame whose entry is not made yet. -/
def live (r : WarmupRun) : List TimedFrame := r.timed ++ r.clocked.toList

/-- Nothing from before the deadline was passed on. -/
def LeakFree (r : WarmupRun) : Prop := ∀ frame ∈ r.passed, r.deadline ≤ frame.submitted_us

/-- Delivered after the deadline, a frame from before it still has an entry that says so. -/
def StillTimed (r : WarmupRun) (frame : TimedFrame) (now_us : ℕ) : Prop :=
  frame.submitted_us < r.deadline → r.deadline ≤ now_us →
    ∃ start, r.filter.enc_start_steady_us_by_ts_ frame.timestamp_us = some start ∧
      start < r.deadline

/-- The condition on one event. -/
def Recognised (r : WarmupRun) : WarmupEvent → Prop
  | .deliverFirst now_us => ∀ frame ∈ r.inFlight.head?, r.StillTimed frame now_us
  | .deliverLater now_us => ∀ frame ∈ r.current, r.StillTimed frame now_us
  | _ => True

/-! ## Moves -/

/-- What one event does, with the frame it is about. -/
inductive WarmupMove (r : WarmupRun) : WarmupEvent → WarmupRun → Prop
  | readClock (timestamp_us : UInt64) (now_us : ℕ) (hclocked : r.clocked = none)
      (hsubmitting : r.submitting = none) (hnow : r.now_us ≤ now_us) :
    WarmupMove r (.readClock timestamp_us now_us)
      { r with clocked := some ⟨timestamp_us, now_us⟩, now_us := now_us }
  | timeSubmit (frame : TimedFrame) (hclocked : r.clocked = some frame) :
    WarmupMove r .timeSubmit
      { r with
        filter := r.filter.timeSubmit frame.timestamp_us frame.submitted_us
        clocked := none
        submitting := some frame }
  | accept (frame : TimedFrame) (hsubmitting : r.submitting = some frame) :
    WarmupMove r (.submit true)
      { r with submitting := none, inFlight := r.inFlight ++ [frame] }
  | refuse (frame : TimedFrame) (hsubmitting : r.submitting = some frame) :
    WarmupMove r (.submit false)
      { r with filter := r.filter.eraseEntry frame.timestamp_us, submitting := none }
  | deliverFirst (frame : TimedFrame) (inFlight : List TimedFrame) (now_us : ℕ)
      (hflight : r.inFlight = frame :: inFlight) (hnow : r.now_us ≤ now_us) :
    WarmupMove r (.deliverFirst now_us)
      { r.deliver frame now_us with
        inFlight := inFlight
        current := some frame
        produced := 1 }
  | deliverLater (frame : TimedFrame) (now_us : ℕ) (hcurrent : r.current = some frame)
      (hnow : r.now_us ≤ now_us) :
    WarmupMove r (.deliverLater now_us)
      { r.deliver frame now_us with produced := r.produced + 1 }

theorem step_moves {r r' : WarmupRun} {event : WarmupEvent} (hstep : r.step event = some r') :
    WarmupMove r event r' := by
  cases event with
  | readClock timestamp_us now_us =>
    simp only [WarmupRun.step] at hstep
    split_ifs at hstep with hguard
    cases hstep
    exact .readClock timestamp_us now_us hguard.1 hguard.2.1 hguard.2.2
  -- the other events need the frame that the event before left, and are not enabled without
  | timeSubmit =>
    cases hclocked : r.clocked with
    | none => simp [WarmupRun.step, hclocked] at hstep
    | some frame =>
      simp only [WarmupRun.step, hclocked, Option.elim_some, Option.some.injEq] at hstep
      cases hstep
      exact .timeSubmit frame hclocked
  | submit accepted =>
    cases hsubmitting : r.submitting with
    | none => simp [WarmupRun.step, hsubmitting] at hstep
    | some frame =>
      simp only [WarmupRun.step, hsubmitting, Option.elim_some] at hstep
      cases accepted with
      | true =>
        cases hstep
        exact .accept frame hsubmitting
      | false =>
        cases hstep
        exact .refuse frame hsubmitting
  | deliverFirst now_us =>
    cases hflight : r.inFlight with
    | nil => simp [WarmupRun.step, hflight] at hstep
    | cons frame inFlight =>
      simp only [WarmupRun.step, hflight] at hstep
      split_ifs at hstep with hnow
      cases hstep
      exact .deliverFirst frame inFlight now_us hflight hnow
  | deliverLater now_us =>
    cases hcurrent : r.current with
    | none => simp [WarmupRun.step, hcurrent] at hstep
    | some frame =>
      simp only [WarmupRun.step, hcurrent, Option.elim_some] at hstep
      split_ifs at hstep with hguard
      cases hstep
      exact .deliverLater frame now_us hcurrent hguard.2

/-! ## What the filter decides -/

variable {r r' : WarmupRun} {frame : TimedFrame} {now_us : ℕ}

@[simp] theorem deadline_timeSubmit (f : WarmupFilter) (timestamp_us : UInt64) (start : ℕ) :
    (f.timeSubmit timestamp_us start).warmup_deadline_us_ = f.warmup_deadline_us_ := rfl

@[simp] theorem deadline_eraseEntry (f : WarmupFilter) (timestamp_us : UInt64) :
    (f.eraseEntry timestamp_us).warmup_deadline_us_ = f.warmup_deadline_us_ := rfl

/-- A packet is dropped while warm-up lasts, before the deadline or for its entry. -/
theorem onEncoderPacket_fst (f : WarmupFilter) (timestamp_us : UInt64) (now_us : ℕ) :
    (f.onEncoderPacket timestamp_us now_us).1 = false ↔
      f.warmup_active_ = true ∧ (now_us < f.warmup_deadline_us_ ∨
        ∃ start, f.enc_start_steady_us_by_ts_ timestamp_us = some start ∧
          start < f.warmup_deadline_us_) := by
  unfold WarmupFilter.onEncoderPacket
  cases f.warmup_active_ with
  | false => simp
  -- without an entry only the clock decides
  | true =>
    cases f.enc_start_steady_us_by_ts_ timestamp_us with
    | none => by_cases hnow : now_us < f.warmup_deadline_us_ <;> simp [hnow]
    | some start =>
      by_cases hnow : now_us < f.warmup_deadline_us_ ∨ start < f.warmup_deadline_us_ <;>
        simp [hnow]

/-- A packet erases its entry; one that is passed on ends the warm-up. -/
theorem onEncoderPacket_snd (f : WarmupFilter) (timestamp_us : UInt64) (now_us : ℕ) :
    (f.onEncoderPacket timestamp_us now_us).2 =
      { f.eraseEntry timestamp_us with
        warmup_active_ :=
          f.warmup_active_ && !(f.onEncoderPacket timestamp_us now_us).1 } := by
  unfold WarmupFilter.onEncoderPacket WarmupFilter.eraseEntry
  cases f.warmup_active_ with
  | false => simp
  | true =>
    simp only [if_true]
    split_ifs <;> simp

@[simp] theorem deadline_deliver (r : WarmupRun) (frame : TimedFrame) (now_us : ℕ) :
    (r.deliver frame now_us).deadline = r.deadline := by
  show (r.filter.onEncoderPacket frame.timestamp_us now_us).2.warmup_deadline_us_ = _
  rw [onEncoderPacket_snd]
  rfl

theorem entries_deliver (r : WarmupRun) (frame : TimedFrame) (now_us : ℕ) :
    (r.deliver frame now_us).filter.enc_start_steady_us_by_ts_ =
      Function.update r.filter.enc_start_steady_us_by_ts_ frame.timestamp_us none := by
  show (r.filter.onEncoderPacket frame.timestamp_us now_us).2.enc_start_steady_us_by_ts_ = _
  rw [onEncoderPacket_snd]
  rfl

theorem active_deliver (r : WarmupRun) (frame : TimedFrame) (now_us : ℕ) :
    (r.deliver frame now_us).filter.warmup_active_ =
      (r.filter.warmup_active_ && !r.passes frame now_us) := by
  show (r.filter.onEncoderPacket frame.timestamp_us now_us).2.warmup_active_ = _
  rw [onEncoderPacket_snd]
  rfl

theorem passed_deliver (r : WarmupRun) (frame : TimedFrame) (now_us : ℕ) :
    (r.deliver frame now_us).passed =
      if r.passes frame now_us then r.passed ++ [frame] else r.passed := rfl

theorem dropped_deliver (r : WarmupRun) (frame : TimedFrame) (now_us : ℕ) :
    (r.deliver frame now_us).dropped =
      if r.passes frame now_us then r.dropped else r.dropped ++ [frame] := rfl

theorem leakFree_deliver : (r.deliver frame now_us).LeakFree ↔
    r.LeakFree ∧ (r.passes frame now_us = true → r.deadline ≤ frame.submitted_us) := by
  unfold LeakFree
  rw [deadline_deliver, passed_deliver]
  cases r.passes frame now_us with
  | false => simp
  | true => simp [or_imp, forall_and]

/-! ## The invariant -/

/-- What holds in every state: the encode thread has one frame, the frames are in order and
from the past, a frame submitted after the deadline has no earlier entry, and only earlier
frames were dropped. As long as nothing leaked, the end of warm-up means that no frame from
before the deadline is left. -/
structure WarmupInv (r : WarmupRun) : Prop where
  single : r.clocked = none ∨ r.submitting = none
  sorted : r.live.Pairwise fun older newer => older.submitted_us ≤ newer.submitted_us
  past : ∀ frame ∈ r.live, frame.submitted_us ≤ r.now_us
  entries : ∀ frame ∈ r.timed, r.deadline ≤ frame.submitted_us → ∀ start,
    r.filter.enc_start_steady_us_by_ts_ frame.timestamp_us = some start → r.deadline ≤ start
  dropped : ∀ frame ∈ r.dropped, frame.submitted_us < r.deadline
  ended : r.LeakFree → r.filter.warmup_active_ = false →
    r.deadline ≤ r.now_us ∧ ∀ frame ∈ r.live, r.deadline ≤ frame.submitted_us

/-- A unit that is dropped belongs to a frame from before the deadline. -/
theorem WarmupInv.drop_early (h : WarmupInv r) (hnow : r.now_us ≤ now_us) (hmem : frame ∈ r.timed)
    (hdrop : r.passes frame now_us = false) : frame.submitted_us < r.deadline := by
  have hpast := h.past frame (List.mem_append_left _ hmem)
  -- before the deadline by the clock, or by its own entry
  obtain ⟨-, hearly | ⟨start, hentry, hstart⟩⟩ := (onEncoderPacket_fst _ _ _).mp hdrop
  · show frame.submitted_us < r.filter.warmup_deadline_us_
    omega
  · by_contra hlate
    have hle := h.entries frame hmem (Nat.not_lt.mp hlate) start hentry
    exact absurd hstart (Nat.not_lt.mpr hle)

/-- A delivery keeps the invariant: the frame is in `timed`, and what is behind it stays. -/
theorem WarmupInv.deliver (h : WarmupInv r) {produced : ℕ} {inFlight : List TimedFrame}
    (hnow : r.now_us ≤ now_us) (hmem : frame ∈ r.timed)
    (hsub : (frame :: inFlight ++ r.submitting.toList).Sublist r.timed) :
    WarmupInv { r.deliver frame now_us with
      inFlight := inFlight
      current := some frame
      produced := produced } := by
  have hlive : (frame :: inFlight ++ r.submitting.toList ++ r.clocked.toList).Sublist r.live :=
    hsub.append (List.Sublist.refl _)
  have hsorted := h.sorted.sublist hlive
  exact {
    single := h.single
    sorted := hsorted
    past := fun other hother => Nat.le_trans (h.past other (hlive.subset hother)) hnow
    entries := by
      intro other hother hlate start hentry
      replace hlate : (r.deliver frame now_us).deadline ≤ other.submitted_us := hlate
      show (r.deliver frame now_us).deadline ≤ start
      rw [deadline_deliver] at hlate ⊢
      apply h.entries other (hsub.subset hother) hlate start
      -- the packet's own entry is gone, so the entry is an old one
      have hgone := congrFun (entries_deliver r frame now_us) other.timestamp_us
      rw [show _ = _ from hgone] at hentry
      by_cases hsame : other.timestamp_us = frame.timestamp_us
      · simp [hsame] at hentry
      · simpa [hsame] using hentry
    dropped := by
      intro other hother
      replace hother : other ∈ (r.deliver frame now_us).dropped := hother
      show other.submitted_us < (r.deliver frame now_us).deadline
      rw [deadline_deliver]
      rw [dropped_deliver] at hother
      split_ifs at hother with hpass
      · -- passed on: nothing new is dropped
        exact h.dropped other hother
      · rcases List.mem_append.mp hother with hold | hnew
        · exact h.dropped other hold
        · rw [List.mem_singleton.mp hnew]
          exact h.drop_early hnow hmem (Bool.not_eq_true _ ▸ hpass)
    ended := by
      intro hleak hactive
      replace hleak : (r.deliver frame now_us).LeakFree := hleak
      replace hactive : (r.deliver frame now_us).filter.warmup_active_ = false := hactive
      show (r.deliver frame now_us).deadline ≤ now_us ∧
        ∀ other ∈ frame :: inFlight ++ r.submitting.toList ++ r.clocked.toList,
          (r.deliver frame now_us).deadline ≤ other.submitted_us
      rw [deadline_deliver]
      obtain ⟨hleak, hself⟩ := leakFree_deliver.mp hleak
      rw [active_deliver, Bool.and_eq_false_iff] at hactive
      rcases hactive with hended | hpass
      · -- warm-up had ended before, for all frames that are left
        obtain ⟨hpassed, hall⟩ := h.ended hleak hended
        exact ⟨Nat.le_trans hpassed hnow, fun other hother => hall other (hlive.subset hother)⟩
      · -- the packet ends the warm-up: it is the oldest frame, and from after the deadline
        have hlate := hself (by simpa using hpass)
        have hpast := h.past frame (List.mem_append_left _ hmem)
        refine ⟨by omega, fun other hother => ?_⟩
        rcases List.mem_cons.mp hother with rfl | hrest
        · exact hlate
        · exact Nat.le_trans hlate (List.rel_of_pairwise_cons hsorted hrest) }

/-- The clock read adds the newest frame. -/
theorem WarmupInv.readClock (h : WarmupInv r) {timestamp_us : UInt64}
    (hidle : r.clocked = none) (hfree : r.submitting = none) (hnow : r.now_us ≤ now_us) :
    WarmupInv { r with clocked := some ⟨timestamp_us, now_us⟩, now_us := now_us } := by
  have hlive : r.live = r.timed := by simp [live, hidle]
  have hpast := h.past
  have hsorted := h.sorted
  rw [hlive] at hpast hsorted
  exact {
    single := Or.inr hfree
    -- the new frame is the youngest, as the clock never goes back
    sorted := by
      show (r.timed ++ [(⟨timestamp_us, now_us⟩ : TimedFrame)]).Pairwise _
      refine List.pairwise_append.mpr ⟨hsorted, List.pairwise_singleton _ _, ?_⟩
      intro older holder newer hnewer
      rw [List.mem_singleton.mp hnewer]
      exact Nat.le_trans (hpast older holder) hnow
    past := by
      intro other hother
      rcases List.mem_append.mp hother with hold | hnew
      · exact Nat.le_trans (hpast other hold) hnow
      · cases List.mem_singleton.mp hnew
        exact Nat.le_refl _
    entries := h.entries
    dropped := h.dropped
    ended := by
      intro hleak hactive
      obtain ⟨hpassed, hall⟩ := h.ended hleak hactive
      refine ⟨Nat.le_trans hpassed hnow, fun other hother => ?_⟩
      rcases List.mem_append.mp hother with hold | hnew
      · exact hall other (List.mem_append_left _ hold)
      · -- once warm-up has ended the clock is past the deadline
        rw [List.mem_singleton.mp hnew]
        exact Nat.le_trans hpassed hnow }

/-- The entry of the newest frame: no frame from after the deadline gets an earlier one. -/
theorem WarmupInv.timeSubmit (h : WarmupInv r) (hclocked : r.clocked = some frame)
    (hidle : r.submitting = none) :
    WarmupInv { r with
      filter := r.filter.timeSubmit frame.timestamp_us frame.submitted_us
      clocked := none
      submitting := some frame } := by
  have hlive : r.live = r.current.toList ++ r.inFlight ++ [frame] := by
    simp [live, timed, hclocked, hidle]
  have hkept : r.current.toList ++ r.inFlight ++ (some frame).toList ++
      (none : Option TimedFrame).toList = r.live := by
    simp [hlive]
  have hsorted := h.sorted
  rw [hlive] at hsorted
  exact {
    single := Or.inl rfl
    sorted := by
      show (r.current.toList ++ r.inFlight ++ (some frame).toList ++
        (none : Option TimedFrame).toList).Pairwise _
      rw [hkept]
      exact h.sorted
    past := fun other hother => h.past other (hkept ▸ hother)
    entries := by
      intro other hother hlate start hentry
      -- the new entry may stand for an older frame with the same timestamp
      by_cases hsame : other.timestamp_us = frame.timestamp_us
      · simp only [WarmupFilter.timeSubmit, hsame, Function.update_self] at hentry
        cases hentry
        -- that frame is no older than the deadline, so neither is the new one
        rcases List.mem_append.mp hother with hold | hnew
        · exact Nat.le_trans hlate
            ((List.pairwise_append.mp hsorted).2.2 other hold frame (List.mem_singleton_self _))
        · rw [Option.toList_some, List.mem_singleton] at hnew
          exact hnew ▸ hlate
      · simp only [WarmupFilter.timeSubmit, Function.update_of_ne hsame] at hentry
        rcases List.mem_append.mp hother with hold | hnew
        · exact h.entries other (List.mem_append_left _ hold) hlate start hentry
        · rw [Option.toList_some, List.mem_singleton] at hnew
          exact absurd (congrArg TimedFrame.timestamp_us hnew) hsame
    dropped := h.dropped
    ended := fun hleak hactive => by
      obtain ⟨hpassed, hall⟩ := h.ended hleak hactive
      exact ⟨hpassed, fun other hother => hall other (hkept ▸ hother)⟩ }

/-- An accepted frame waits for output; `live` stays as it is. -/
theorem WarmupInv.accept (h : WarmupInv r) (hsubmitting : r.submitting = some frame) :
    WarmupInv { r with submitting := none, inFlight := r.inFlight ++ [frame] } := by
  have htimed : ({ r with submitting := none, inFlight := r.inFlight ++ [frame] } :
      WarmupRun).timed = r.timed := by
    simp [timed, hsubmitting]
  have hlive : ({ r with submitting := none, inFlight := r.inFlight ++ [frame] } :
      WarmupRun).live = r.live := by
    rw [live, htimed, live]
  exact {
    single := Or.inr rfl
    sorted := hlive ▸ h.sorted
    past := fun other hother => h.past other (hlive ▸ hother)
    entries := fun other hother => h.entries other (htimed ▸ hother)
    dropped := h.dropped
    ended := fun hleak hactive => by
      rw [hlive]
      exact h.ended hleak hactive }

/-- A refused frame is gone, with its entry. -/
theorem WarmupInv.refuse (h : WarmupInv r) :
    WarmupInv { r with
      filter := r.filter.eraseEntry frame.timestamp_us
      submitting := none } := by
  have htimed : (r.current.toList ++ r.inFlight ++ (none : Option TimedFrame).toList).Sublist
      r.timed :=
    List.Sublist.append (List.Sublist.refl _) (List.nil_sublist _)
  have hlive := htimed.append (List.Sublist.refl r.clocked.toList)
  exact {
    single := Or.inr rfl
    sorted := h.sorted.sublist hlive
    past := fun other hother => h.past other (hlive.subset hother)
    entries := by
      intro other hother hlate start hentry
      apply h.entries other (htimed.subset hother) hlate start
      -- the erased entry was nobody's early one
      by_cases hsame : other.timestamp_us = frame.timestamp_us
      · simp [WarmupFilter.eraseEntry, hsame] at hentry
      · simpa [WarmupFilter.eraseEntry, hsame] using hentry
    dropped := h.dropped
    ended := fun hleak hactive => by
      obtain ⟨hpassed, hall⟩ := h.ended hleak hactive
      exact ⟨hpassed, fun other hother => hall other (hlive.subset hother)⟩ }

/-! ## Steps -/

/-- One event keeps the invariant. -/
theorem WarmupInv.step {event : WarmupEvent} (h : WarmupInv r) (hstep : r.step event = some r') :
    WarmupInv r' := by
  cases step_moves hstep with
  | readClock timestamp_us now_us hclocked hsubmitting hnow =>
    exact h.readClock hclocked hsubmitting hnow
  | timeSubmit frame hclocked =>
    exact h.timeSubmit hclocked (h.single.resolve_left (by simp [hclocked]))
  | accept frame hsubmitting => exact h.accept hsubmitting
  | refuse frame hsubmitting => exact h.refuse
  | deliverFirst frame inFlight now_us hflight hnow =>
    apply h.deliver hnow
    · simp [timed, hflight]
    · rw [timed, hflight, List.append_assoc]
      exact List.sublist_append_right _ _
  | deliverLater frame now_us hcurrent hnow =>
    have hmem : frame ∈ r.timed := by simp [timed, hcurrent]
    have hsub : (frame :: r.inFlight ++ r.submitting.toList).Sublist r.timed := by
      rw [timed, hcurrent]
      exact List.Sublist.refl _
    have hdeliver := @WarmupInv.deliver r frame now_us h (r.produced + 1) r.inFlight hnow hmem hsub
    rw [← hcurrent] at hdeliver
    exact hdeliver

/-- As long as nothing leaked, a delivery leaks nothing if and only if its frame is still
timed. -/
theorem WarmupInv.stillTimed_iff (h : WarmupInv r) (hleak : r.LeakFree) (hmem : frame ∈ r.live) :
    r.StillTimed frame now_us ↔ (r.deliver frame now_us).LeakFree := by
  rw [leakFree_deliver, and_iff_right hleak]
  have hfst := onEncoderPacket_fst r.filter frame.timestamp_us now_us
  constructor
  · intro htimed hpass
    by_contra hlate
    have hearly : frame.submitted_us < r.deadline := Nat.not_le.mp hlate
    -- warm-up has not ended, for that would leave no early frame
    have hactive : r.filter.warmup_active_ = true := by
      by_contra hended
      have hall := (h.ended hleak (Bool.not_eq_true _ ▸ hended)).2 frame hmem
      exact absurd hearly (Nat.not_lt.mpr hall)
    have hdrop : r.passes frame now_us = false := by
      refine hfst.mpr ⟨hactive, ?_⟩
      rcases Nat.lt_or_ge now_us r.filter.warmup_deadline_us_ with hnow | hnow
      · exact Or.inl hnow
      · exact Or.inr (htimed hearly hnow)
    rw [hpass] at hdrop
    cases hdrop
  · intro hpass hearly hnow
    have hdrop : r.passes frame now_us = false := by
      by_contra hthrough
      have hlate := hpass (Bool.not_eq_false _ ▸ hthrough)
      omega
    -- dropped after the deadline, it was dropped for its entry
    obtain ⟨-, hbefore | hentry⟩ := hfst.mp hdrop
    · exact absurd hbefore (Nat.not_lt.mpr hnow)
    · exact hentry

/-- An event delivers nothing and leaks nothing, or it is the delivery of one unit. -/
theorem step_delivers {event : WarmupEvent} (hstep : r.step event = some r') :
    r'.deadline = r.deadline ∧
      (r.Recognised event ∧ (r'.LeakFree ↔ r.LeakFree) ∨
        ∃ frame ∈ r.live, ∃ now_us, (r.Recognised event ↔ r.StillTimed frame now_us) ∧
          (r'.LeakFree ↔ (r.deliver frame now_us).LeakFree)) := by
  cases step_moves hstep with
  | readClock | timeSubmit | accept | refuse => exact ⟨rfl, Or.inl ⟨trivial, Iff.rfl⟩⟩
  | deliverFirst frame inFlight now_us hflight hnow =>
    refine ⟨deadline_deliver r frame now_us, Or.inr ⟨frame, ?_, now_us, ?_, Iff.rfl⟩⟩
    · simp [live, timed, hflight]
    · simp [Recognised, hflight]
  | deliverLater frame now_us hcurrent hnow =>
    refine ⟨deadline_deliver r frame now_us, Or.inr ⟨frame, ?_, now_us, ?_, Iff.rfl⟩⟩
    · simp [live, timed, hcurrent]
    · simp [Recognised, hcurrent]

/-- The condition decides whether a step leaks. -/
theorem WarmupInv.recognised_iff {event : WarmupEvent} (h : WarmupInv r) (hleak : r.LeakFree)
    (hstep : r.step event = some r') : r.Recognised event ↔ r'.LeakFree := by
  obtain ⟨-, ⟨htrivial, hsame⟩ | ⟨frame, hmem, now_us, hcond, hsame⟩⟩ := step_delivers hstep
  · exact iff_of_true htrivial (hsame.mpr hleak)
  · rw [hcond, hsame]
    exact h.stillTimed_iff hleak hmem

/-- What leaked stays leaked. -/
theorem leakFree_of_step {event : WarmupEvent} (hstep : r.step event = some r')
    (hleak : r'.LeakFree) : r.LeakFree := by
  obtain ⟨-, ⟨-, hsame⟩ | ⟨frame, -, now_us, -, hsame⟩⟩ := step_delivers hstep
  · exact hsame.mp hleak
  · exact (leakFree_deliver.mp (hsame.mp hleak)).1

theorem leakFree_of_run {events : List WarmupEvent}
    (hrun : runSteps WarmupRun.step r events = some r') (hleak : r'.LeakFree) : r.LeakFree := by
  by_contra hno
  have hkept : ∀ (s : WarmupRun) (event : WarmupEvent) (s' : WarmupRun), ¬s.LeakFree →
      s.step event = some s' → ¬s'.LeakFree :=
    fun _ _ _ h hstep hfree => h (leakFree_of_step hstep hfree)
  exact runSteps_invariant hkept hno hrun hleak

theorem deadline_run {events : List WarmupEvent}
    (hrun : runSteps WarmupRun.step r events = some r') : r'.deadline = r.deadline := by
  have hkept : ∀ (s : WarmupRun) (event : WarmupEvent) (s' : WarmupRun),
      s.deadline = r.deadline → s.step event = some s' → s'.deadline = r.deadline :=
    fun _ _ _ h hstep => (step_delivers hstep).1.trans h
  exact runSteps_invariant hkept rfl hrun

/-! ## Main results -/

theorem started_inv (warmup_duration_ms slices now_us : ℕ) :
    WarmupInv (started warmup_duration_ms slices now_us) where
  single := Or.inl rfl
  sorted := List.Pairwise.nil
  past := by simp [live, timed, started]
  entries := by simp [timed, started]
  dropped := by simp [started]
  ended := by
    intro _ hactive
    have hzero : warmup_duration_ms = 0 := by
      simpa [started, WarmupFilter.startPipeline] using hactive
    refine ⟨?_, by simp [live, timed, started]⟩
    show now_us + warmup_duration_ms * 1000 ≤ now_us
    omega

/-- For every warm-up duration, number of slices and run: nothing from before the deadline
is passed on if and only if every event of the run meets the condition, and nothing from
after the deadline is ever dropped. -/
theorem leakFree_iff {warmup_duration_ms slices now_us : ℕ} {events : List WarmupEvent}
    {r : WarmupRun}
    (hrun : runSteps WarmupRun.step (started warmup_duration_ms slices now_us) events = some r) :
    (StepsMeet WarmupRun.step Recognised (started warmup_duration_ms slices now_us) events ↔
        ∀ frame ∈ r.passed, now_us + warmup_duration_ms * 1000 ≤ frame.submitted_us) ∧
      ∀ frame ∈ r.dropped, frame.submitted_us < now_us + warmup_duration_ms * 1000 := by
  have hstart := started_inv warmup_duration_ms slices now_us
  have hdeadline : r.deadline = now_us + warmup_duration_ms * 1000 := deadline_run hrun
  have hinv : WarmupInv r := runSteps_invariant (fun _ _ _ h hstep => h.step hstep) hstart hrun
  rw [← hdeadline]
  refine ⟨?_, hinv.dropped⟩
  have hclean : (started warmup_duration_ms slices now_us).LeakFree := by
    simp [LeakFree, started]
  have hmeet := stepsMeet_iff (fun _ _ _ h hstep => WarmupInv.step h hstep)
    (fun _ _ _ h hleak hstep => h.recognised_iff hleak hstep) hstart hclean hrun
  -- from the whole run down to its prefixes, as what leaked stays leaked
  refine hmeet.trans ⟨fun hall => hall events r (List.prefix_refl _) hrun, ?_⟩
  rintro hleak bs u ⟨rest, rfl⟩ hu
  obtain ⟨v, hv, hrest⟩ := runSteps_append.mp hrun
  rw [hu] at hv
  cases hv
  exact leakFree_of_run hrest hleak

/-- A frame submitted 100 µs before the deadline: its first slice comes out on the deadline
and takes the entry with it, so the second slice passes and ends the warm-up. -/
theorem slice_leaks :
    ¬∀ (warmup_duration_ms slices now_us : ℕ) (events : List WarmupEvent) (r : WarmupRun),
      runSteps WarmupRun.step (started warmup_duration_ms slices now_us) events = some r →
        ∀ frame ∈ r.passed, now_us + warmup_duration_ms * 1000 ≤ frame.submitted_us := by
  intro hall
  have hleak := hall 1 2 0 [.readClock 7 900, .timeSubmit, .submit true, .deliverFirst 1000,
    .deliverLater 1001] _ rfl ⟨7, 900⟩ (by decide)
  revert hleak
  decide

/-- The same frame as one slice; the next frame, of two slices, is submitted at 1500. -/
theorem leakFree_iff_next_frame :
    ∃ r, runSteps WarmupRun.step (started 1 2 0)
        [.readClock 7 900, .timeSubmit, .submit true, .deliverFirst 1000, .readClock 8 1500,
          .timeSubmit, .submit true, .deliverFirst 1600, .deliverLater 1601] = some r ∧
      r.dropped = [⟨7, 900⟩] ∧ r.passed = [⟨8, 1500⟩, ⟨8, 1500⟩] ∧
      StepsMeet WarmupRun.step Recognised (started 1 2 0)
        [.readClock 7 900, .timeSubmit, .submit true, .deliverFirst 1000, .readClock 8 1500,
          .timeSubmit, .submit true, .deliverFirst 1600, .deliverLater 1601] := by
  refine ⟨_, rfl, by decide, by decide, ?_⟩
  exact (@leakFree_iff 1 2 0 [.readClock 7 900, .timeSubmit, .submit true, .deliverFirst 1000,
    .readClock 8 1500, .timeSubmit, .submit true, .deliverFirst 1600, .deliverLater 1601] _
    rfl).1.mpr (by decide)

/-! ## Distinct timestamps -/

/-- A frame is submitted with a timestamp that no frame under way has. -/
def FreshTimestamp (r : WarmupRun) : WarmupEvent → Prop
  | .readClock timestamp_us _ => ∀ frame ∈ r.live, frame.timestamp_us ≠ timestamp_us
  | _ => True

/-- No later slice of a frame from before the deadline is delivered after it. -/
def NoLateSlice (r : WarmupRun) : WarmupEvent → Prop
  | .deliverLater now_us => ∀ frame ∈ r.current, frame.submitted_us < r.deadline →
      now_us < r.deadline
  | _ => True

/-- Every frame without output has its own entry, a frame with output has none. -/
structure Entries (r : WarmupRun) : Prop where
  single : r.clocked = none ∨ r.submitting = none
  distinct : (r.live.map TimedFrame.timestamp_us).Nodup
  waiting : ∀ frame ∈ r.inFlight ++ r.submitting.toList,
    r.filter.enc_start_steady_us_by_ts_ frame.timestamp_us = some frame.submitted_us
  output : ∀ frame ∈ r.current, r.filter.enc_start_steady_us_by_ts_ frame.timestamp_us = none

/-- With an entry for each frame only a later slice can miss the condition. -/
theorem Entries.recognised_iff (h : Entries r) (event : WarmupEvent) :
    r.Recognised event ↔ r.NoLateSlice event := by
  cases event with
  | readClock timestamp_us now_us => exact Iff.rfl
  | timeSubmit => exact Iff.rfl
  | submit accepted => exact Iff.rfl
  | deliverFirst now_us =>
    refine iff_of_true (fun frame hframe hearly _ => ⟨frame.submitted_us, ?_, hearly⟩) trivial
    exact h.waiting frame (List.mem_append_left _ (List.mem_of_mem_head? hframe))
  | deliverLater now_us =>
    refine forall₂_congr fun frame hframe => forall_congr' fun hearly => ?_
    rw [h.output frame hframe]
    constructor
    · intro hcond
      by_contra hlate
      obtain ⟨start, hnone, -⟩ := hcond (Nat.not_lt.mp hlate)
      cases hnone
    · intro hnow hlate
      exact absurd hnow (Nat.not_lt.mpr hlate)

/-- The other frames of `live` have other timestamps. -/
theorem Entries.other (h : Entries r) {front back : List TimedFrame}
    (hlive : r.live = front ++ frame :: back) {other : TimedFrame}
    (hother : other ∈ front ++ back) : other.timestamp_us ≠ frame.timestamp_us := by
  have hdistinct := h.distinct
  rw [hlive, List.map_append, List.map_cons, List.nodup_middle, ← List.map_append] at hdistinct
  intro hsame
  exact (List.nodup_cons.mp hdistinct).1 (hsame ▸ List.mem_map_of_mem hother)

/-- The entry of `frame` is written or erased: those of the others stay. -/
theorem Entries.update (h : Entries r) {front back : List TimedFrame} {entry : Option ℕ}
    (hlive : r.live = front ++ frame :: back) {other : TimedFrame}
    (hother : other ∈ front ++ back) :
    Function.update r.filter.enc_start_steady_us_by_ts_ frame.timestamp_us entry
        other.timestamp_us =
      r.filter.enc_start_steady_us_by_ts_ other.timestamp_us :=
  Function.update_of_ne (h.other hlive hother) _ _

/-- A delivery erases the entry of its frame, which then has output. -/
theorem Entries.deliver (h : Entries r) {produced : ℕ} {front inFlight : List TimedFrame}
    (hlive : r.live = front ++ frame :: (inFlight ++ r.submitting.toList ++ r.clocked.toList))
    (hwaiting : ∀ other ∈ inFlight, other ∈ r.inFlight) :
    Entries { r.deliver frame now_us with
      inFlight := inFlight
      current := some frame
      produced := produced } where
  single := h.single
  distinct := by
    have hdistinct := h.distinct
    rw [hlive, List.map_append] at hdistinct
    exact (List.nodup_append.mp hdistinct).2.1
  -- the erased entry is that of the delivered frame, and timestamps differ
  waiting := by
    intro other hother
    show (r.deliver frame now_us).filter.enc_start_steady_us_by_ts_ _ = _
    rw [entries_deliver, h.update hlive]
    · apply h.waiting
      rcases List.mem_append.mp hother with hflight | hsubmitting
      · exact List.mem_append_left _ (hwaiting other hflight)
      · exact List.mem_append_right _ hsubmitting
    · exact List.mem_append_right _ (List.mem_append_left _ hother)
  output := by
    intro other hother
    cases hother
    show (r.deliver frame now_us).filter.enc_start_steady_us_by_ts_ _ = _
    rw [entries_deliver, Function.update_self]

/-- The entry of a frame is made: it is the last of `live`. -/
theorem Entries.timeSubmit (h : Entries r) (hclocked : r.clocked = some frame) :
    Entries { r with
      filter := r.filter.timeSubmit frame.timestamp_us frame.submitted_us
      clocked := none
      submitting := some frame } := by
  have hidle : r.submitting = none := h.single.resolve_left (by simp [hclocked])
  have hlive : r.live = (r.current.toList ++ r.inFlight) ++ frame :: [] := by
    simp [live, timed, hclocked, hidle]
  exact {
    single := Or.inl rfl
    distinct := by
      have hdistinct := h.distinct
      rw [hlive] at hdistinct
      simpa [live, timed] using hdistinct
    waiting := by
      intro other hother
      show Function.update r.filter.enc_start_steady_us_by_ts_ _ _ _ = _
      rcases List.mem_append.mp hother with hflight | hself
      · -- the frames ahead have other timestamps
        rw [h.update hlive (by simp [hflight])]
        exact h.waiting other (List.mem_append_left _ hflight)
      · rw [Option.toList_some, List.mem_singleton] at hself
        rw [hself, Function.update_self]
    output := by
      intro other hother
      have hcurrent : r.current = some other := hother
      show Function.update r.filter.enc_start_steady_us_by_ts_ _ _ _ = _
      rw [h.update hlive (by simp [hcurrent])]
      exact h.output other hother }

/-- A refused frame loses its entry and leaves. -/
theorem Entries.refuse (h : Entries r) (hsubmitting : r.submitting = some frame) :
    Entries { r with
      filter := r.filter.eraseEntry frame.timestamp_us
      submitting := none } := by
  have hlive : r.live = (r.current.toList ++ r.inFlight) ++ frame :: r.clocked.toList := by
    simp [live, timed, hsubmitting]
  exact {
    single := Or.inr rfl
    distinct := by
      have hdistinct := h.distinct
      rw [hlive, List.map_append, List.map_cons, List.nodup_middle, ← List.map_append]
        at hdistinct
      simpa [live, timed] using (List.nodup_cons.mp hdistinct).2
    waiting := by
      intro other hother
      have hflight : other ∈ r.inFlight := by simpa using hother
      show Function.update r.filter.enc_start_steady_us_by_ts_ _ _ _ = _
      rw [h.update hlive (by simp [hflight])]
      exact h.waiting other (List.mem_append_left _ hflight)
    output := by
      intro other hother
      have hcurrent : r.current = some other := hother
      show Function.update r.filter.enc_start_steady_us_by_ts_ _ _ _ = _
      rw [h.update hlive (by simp [hcurrent])]
      exact h.output other hother }

/-- One event with a fresh timestamp keeps an entry for each frame. -/
theorem Entries.step {event : WarmupEvent} (h : Entries r) (hfresh : r.FreshTimestamp event)
    (hstep : r.step event = some r') : Entries r' := by
  cases step_moves hstep with
  | readClock timestamp_us now_us hclocked hsubmitting hnow =>
    have hlive : r.live = r.timed := by simp [live, hclocked]
    have hdistinct := h.distinct
    rw [hlive] at hdistinct
    refine ⟨Or.inr hsubmitting, ?_, h.waiting, h.output⟩
    show ((r.timed ++ [(⟨timestamp_us, now_us⟩ : TimedFrame)]).map _).Nodup
    rw [List.map_append, List.map_singleton, ← List.concat_eq_append]
    refine List.Nodup.concat ?_ hdistinct
    -- a fresh timestamp is that of no frame under way
    intro hold
    obtain ⟨frame, hframe, hsame⟩ := List.mem_map.mp hold
    exact hfresh frame (hlive ▸ hframe) hsame
  | timeSubmit frame hclocked => exact h.timeSubmit hclocked
  | accept frame hsubmitting =>
    refine ⟨Or.inr rfl, ?_, ?_, h.output⟩
    · simpa [live, timed, hsubmitting] using h.distinct
    · simpa [hsubmitting] using h.waiting
  | refuse frame hsubmitting => exact h.refuse hsubmitting
  | deliverFirst frame inFlight now_us hflight hnow =>
    refine h.deliver (?_ : r.live = r.current.toList ++ frame :: _) ?_
    · simp [live, timed, hflight]
    · rw [hflight]
      exact fun other hother => List.mem_cons_of_mem _ hother
  | deliverLater frame now_us hcurrent hnow =>
    have hlive : r.live =
        [] ++ frame :: (r.inFlight ++ r.submitting.toList ++ r.clocked.toList) := by
      simp [live, timed, hcurrent]
    have hdeliver := @Entries.deliver r frame now_us h (r.produced + 1) [] r.inFlight hlive
      (fun _ hother => hother)
    rw [← hcurrent] at hdeliver
    exact hdeliver

/-- With distinct timestamps the filter leaks exactly the later slices of frames from before
the deadline that are delivered after it. -/
theorem leakFree_iff_distinct {warmup_duration_ms slices now_us : ℕ} {events : List WarmupEvent}
    {r : WarmupRun}
    (hrun : runSteps WarmupRun.step (started warmup_duration_ms slices now_us) events = some r)
    (hfresh : StepsMeet WarmupRun.step FreshTimestamp
      (started warmup_duration_ms slices now_us) events) :
    StepsMeet WarmupRun.step NoLateSlice (started warmup_duration_ms slices now_us) events ↔
      ∀ frame ∈ r.passed, now_us + warmup_duration_ms * 1000 ≤ frame.submitted_us := by
  have hstart : Entries (started warmup_duration_ms slices now_us) :=
    ⟨Or.inl rfl, by simp [live, timed, started], by simp [started], by simp [started]⟩
  rw [← (leakFree_iff hrun).1]
  exact (stepsMeet_congr (fun _ _ _ h hfresh hstep => h.step hfresh hstep)
    (fun _ event h => h.recognised_iff event) hstart hfresh).symm

end WarmupRun

end TeleopBridge.Video
