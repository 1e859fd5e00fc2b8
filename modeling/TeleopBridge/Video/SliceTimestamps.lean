import Mathlib.Data.List.Chain
import TeleopBridge.Support.Transition
import TeleopBridge.Video.VideoEncoder

/-!
# Slice Timestamps

Runs `submit` and `dequeueOne` with a driver that outputs the accepted frames in order, each
as one or more access units, at most as many as the configured slices. The first unit of a
frame carries the submitted timestamp; a later one carries it or zero.

## Key Result

`slices_stamped`: every packet has the timestamp of its frame, and between calls the
timestamp queue is the list of the accepted frames without output.
-/

namespace TeleopBridge.Video

open Support

/-! ## The driver -/

/-- An event: one half of a `submit`, or a `dequeueOne` with what the driver has for it. -/
inductive SliceEvent where
  | submitQueue (checks : SubmitChecks) (dmabuf_fd : ℤ) (timestamp_us : UInt64)
  | submitFinish (qBuffer : Bool)
  | dequeueNothing
  | dequeueFirst
  | dequeueLater (zeroed : Bool)
deriving DecidableEq, Repr

/-- A packet that `dequeueOne` returned, and the timestamp submitted for its frame. -/
structure StampedPacket where
  timestamp_us : UInt64
  submitted_us : UInt64
deriving DecidableEq, Repr

/-- The encoder and the driver. `pending` is a submit between its halves, `waiting` the
timestamps of the accepted frames without output, `current` that of the frame output last
and `produced` the number of its access units so far. -/
structure SliceRun where
  encoder : VideoEncoder
  pending : Option (ℕ × UInt64) := none
  waiting : List UInt64 := []
  current : Option UInt64 := none
  produced : ℕ := 0
  packets : List StampedPacket := []

namespace SliceRun

/-- `max(1, effective_slices_per_frame_)`, the most access units a frame may produce. -/
def slices (r : SliceRun) : UInt32 := max 1 r.encoder.effective_slices_per_frame_

/-- The accepted frames from the one output last, by their timestamps. -/
def accepted (r : SliceRun) : List UInt64 := r.current.toList ++ r.waiting

/-- `dequeueOne` returns a packet of the frame `submitted`. -/
def packet (r : SliceRun) (driver_ts submitted : UInt64) : SliceRun :=
  let result := r.encoder.dequeueOne (some driver_ts)
  { r with
    encoder := result.2
    packets := r.packets ++ result.1.toList.map fun timestamp_us => ⟨timestamp_us, submitted⟩ }

/-- One event. The driver accepts a frame only with a positive timestamp that differs from
the one of the frame accepted before it. -/
def step (r : SliceRun) : SliceEvent → Option SliceRun
  | .submitQueue checks dmabuf_fd timestamp_us =>
      if r.pending.isSome then none
      else
        match r.encoder.submitQueue checks dmabuf_fd timestamp_us with
        | (some index, e) => some { r with encoder := e, pending := some (index, timestamp_us) }
        | (none, e) => some { r with encoder := e }
  | .submitFinish qBuffer =>
      match r.pending with
      | none => none
      | some (index, timestamp_us) =>
          let e := (r.encoder.submitFinish index qBuffer).2
          if qBuffer then
            -- accepted timestamps are positive and differ from the one before
            if timestamp_us > 0 && r.accepted.getLast? ≠ some timestamp_us then
              some { r with encoder := e, pending := none, waiting := r.waiting ++ [timestamp_us] }
            else none
          else some { r with encoder := e, pending := none }
  | .dequeueNothing => some { r with encoder := (r.encoder.dequeueOne none).2 }
  | .dequeueFirst =>
      match r.waiting with
      | [] => none
      | submitted :: waiting =>
          -- the driver copies the timestamp to the first unit of a frame
          some { r.packet submitted submitted with
            waiting := waiting
            current := some submitted
            produced := 1 }
  | .dequeueLater zeroed =>
      match r.current with
      | none => none
      | some submitted =>
          if r.produced < r.slices.toNat then
            -- on later units it may be zeroed
            some { r.packet (if zeroed then 0 else submitted) submitted with
              produced := r.produced + 1 }
          else none

/-! ## The invariant -/

/-- The bookkeeping is in step with the driver. -/
structure InStep (r : SliceRun) : Prop where
  queue : r.encoder.timestamp_queue_ = r.waiting ++ r.pending.toList.map Prod.snd
  positive : ∀ timestamp_us ∈ r.accepted, timestamp_us > 0
  distinct : r.accepted.IsChain (· ≠ ·)
  idle : r.current = none → r.encoder.last_capture_ts_ = 0 ∧ r.encoder.remaining_slice_aus_ = 0
  busy : ∀ submitted, r.current = some submitted → r.encoder.last_capture_ts_ = submitted ∧
    0 < r.produced ∧ r.encoder.remaining_slice_aus_.toNat + r.produced = r.slices.toNat
  stamped : ∀ packet ∈ r.packets, packet.timestamp_us = packet.submitted_us

theorem toNat_laterSlices {n : UInt32} (h : 1 ≤ n) :
    (VideoEncoder.laterSlices n).toNat + 1 = n.toNat := by
  have hone : 1 ≤ n.toNat := h
  unfold VideoEncoder.laterSlices
  split_ifs with hmany
  · rw [UInt32.toNat_sub_of_le _ _ h]
    show n.toNat - 1 + 1 = n.toNat
    omega
  · have hle : n.toNat ≤ 1 := UInt32.le_iff_toNat_le.mp (UInt32.not_lt.mp hmany)
    show 0 + 1 = n.toNat
    omega

theorem one_le_slices (n : UInt32) : 1 ≤ max 1 n := by
  show 1 ≤ if (1 : UInt32) ≤ n then n else 1
  split_ifs with h
  · exact h
  · exact UInt32.le_refl 1

/-- The first unit of a frame: the driver reports a new timestamp, or nothing was output
before. -/
theorem stampPacket_first {e : VideoEncoder} {ts : UInt64} {queue : List UInt64}
    (hqueue : e.timestamp_queue_ = ts :: queue) (hpositive : ts > 0)
    (hlast : e.last_capture_ts_ = 0 ∧ e.remaining_slice_aus_ = 0 ∨
      e.last_capture_ts_ > 0 ∧ ts ≠ e.last_capture_ts_) :
    e.stampPacket ts = (ts, { e with
      timestamp_queue_ := queue
      last_capture_ts_ := ts
      remaining_slice_aus_ :=
        VideoEncoder.laterSlices (max 1 e.effective_slices_per_frame_) }) := by
  unfold VideoEncoder.stampPacket
  simp only
  rcases hlast with ⟨hzero, hnone⟩ | ⟨hset, hnew⟩
  · rw [if_neg (by simp [hzero]), if_neg (by simp [hnone]), hqueue]
  · rw [if_pos (by simp [hpositive, hset, hnew]), hqueue]

/-- A later unit: the driver repeats the timestamp or zeroes it, and a slice is due. -/
theorem stampPacket_later {e : VideoEncoder} {driver_ts : UInt64}
    (hdriver : driver_ts = 0 ∨ driver_ts = e.last_capture_ts_)
    (hmany : max 1 e.effective_slices_per_frame_ > 1) (hdue : e.remaining_slice_aus_ > 0) :
    e.stampPacket driver_ts = (e.last_capture_ts_,
      { e with remaining_slice_aus_ := e.remaining_slice_aus_ - 1 }) := by
  have hold : ¬(decide (driver_ts > 0) && decide (e.last_capture_ts_ > 0) &&
      decide (driver_ts ≠ e.last_capture_ts_)) = true := by
    rcases hdriver with rfl | rfl <;> simp
  unfold VideoEncoder.stampPacket
  simp only
  rw [if_neg hold, if_pos (by simp [hmany, hdue])]

/-! ## Steps -/

/-- `InStep` reads five members of the encoder only. -/
theorem InStep.of_encoder {r : SliceRun} (h : InStep r) {e : VideoEncoder}
    {pending : Option (ℕ × UInt64)}
    (hslices : e.effective_slices_per_frame_ = r.encoder.effective_slices_per_frame_)
    (hlast : e.last_capture_ts_ = r.encoder.last_capture_ts_)
    (hremaining : e.remaining_slice_aus_ = r.encoder.remaining_slice_aus_)
    (hqueue : e.timestamp_queue_ = r.waiting ++ pending.toList.map Prod.snd) :
    InStep { r with encoder := e, pending := pending } where
  queue := hqueue
  positive := h.positive
  distinct := h.distinct
  idle := fun hnone => by
    rw [hlast, hremaining]
    exact h.idle hnone
  busy := fun submitted hsome => by
    have hbusy := h.busy submitted hsome
    unfold slices at hbusy ⊢
    rw [hlast, hremaining, hslices]
    exact hbusy
  stamped := h.stamped

/-- The first half of a submit appends its timestamp, or leaves the bookkeeping alone. -/
theorem InStep.submitQueue {r r' : SliceRun} (h : InStep r) {checks : SubmitChecks}
    {dmabuf_fd : ℤ} {timestamp_us : UInt64}
    (hstep : r.step (.submitQueue checks dmabuf_fd timestamp_us) = some r') : InStep r' := by
  simp only [step] at hstep
  split_ifs at hstep with hpending
  have hnone : r.pending = none := Option.not_isSome_iff_eq_none.mp hpending
  have hqueue := h.queue
  rw [hnone, Option.toList_none, List.map_nil, List.append_nil] at hqueue
  have hidle : r.encoder.timestamp_queue_ =
      r.waiting ++ (none : Option (ℕ × UInt64)).toList.map Prod.snd := by
    simpa using hqueue
  unfold VideoEncoder.submitQueue at hstep
  -- the queue grows on the last branch only
  cases hready : checks.ready with
  | false =>
    simp only [hready, Bool.not_false, if_true] at hstep
    cases hstep
    exact h
  | true =>
    simp only [hready, Bool.not_true, Bool.false_eq_true, if_false] at hstep
    cases hfree : r.encoder.free_output_indices_ with
    | nil =>
      rw [hfree] at hstep
      cases hstep
      exact h
    | cons index rest =>
      rw [hfree] at hstep
      simp only at hstep
      split_ifs at hstep with hbad
      · cases hstep
        have hkept := @InStep.of_encoder r h
          { r.encoder with free_output_indices_ := rest ++ [index] } none rfl rfl rfl hidle
        rw [← hnone] at hkept
        exact hkept
      · cases hstep
        refine h.of_encoder rfl rfl rfl ?_
        show r.encoder.timestamp_queue_ ++ [timestamp_us] = _
        rw [hqueue]
        rfl

/-- The second half: an accepted frame waits for output, a refused one takes its timestamp
back from the end of the queue. -/
theorem InStep.submitFinish {r r' : SliceRun} (h : InStep r) {qBuffer : Bool}
    (hstep : r.step (.submitFinish qBuffer) = some r') : InStep r' := by
  unfold step at hstep
  cases hpending : r.pending with
  | none =>
    rw [hpending] at hstep
    cases hstep
  | some pending =>
    obtain ⟨index, timestamp_us⟩ := pending
    have hqueue := h.queue
    rw [hpending] at hstep hqueue
    simp only [Option.toList_some, List.map_cons, List.map_nil] at hstep hqueue
    cases qBuffer with
    | true =>
      simp only [if_true] at hstep
      split_ifs at hstep with hguard
      cases hstep
      simp only [Bool.and_eq_true, decide_eq_true_eq] at hguard
      have haccepted : ({ r with
          encoder := (r.encoder.submitFinish index true).2
          pending := none
          waiting := r.waiting ++ [timestamp_us] } : SliceRun).accepted =
            r.accepted ++ [timestamp_us] := by
        simp [accepted]
      exact {
        queue := by
          show r.encoder.timestamp_queue_ = _
          rw [hqueue]
          simp
        -- the new frame is the last accepted one, and meets the guard
        positive := by
          intro other hother
          rw [haccepted] at hother
          rcases List.mem_append.mp hother with hold | hnew
          · exact h.positive other hold
          · rw [List.mem_singleton.mp hnew]
            exact hguard.1
        distinct := by
          rw [haccepted]
          apply List.IsChain.append h.distinct (List.isChain_singleton _)
          intro last hlast other hother
          have hother' : other = timestamp_us := by simpa using hother.symm
          rintro rfl
          rw [Option.mem_def] at hlast
          rw [← hother'] at hguard
          exact hguard.2 hlast
        idle := h.idle
        busy := h.busy
        stamped := h.stamped }
    | false =>
      simp only [Bool.false_eq_true, if_false] at hstep
      cases hstep
      -- `pop_back` takes away what this submit appended
      refine h.of_encoder rfl rfl rfl ?_
      show r.encoder.timestamp_queue_.dropLast = _
      rw [hqueue]
      simp

/-- The first access unit of the next frame takes the front of the queue. -/
theorem InStep.dequeueFirst {r r' : SliceRun} (h : InStep r)
    (hstep : r.step .dequeueFirst = some r') : InStep r' := by
  unfold step at hstep
  cases hwaiting : r.waiting with
  | nil =>
    rw [hwaiting] at hstep
    cases hstep
  | cons submitted waiting =>
    rw [hwaiting] at hstep
    cases hstep
    have hqueue := h.queue
    rw [hwaiting, List.cons_append] at hqueue
    have haccepted : r.accepted = r.current.toList ++ submitted :: waiting := by
      rw [accepted, hwaiting]
    have hpositive : submitted > 0 := h.positive submitted (by simp [haccepted])
    -- the capture timestamp is not the one of the frame before
    have hlast : r.encoder.last_capture_ts_ = 0 ∧ r.encoder.remaining_slice_aus_ = 0 ∨
        r.encoder.last_capture_ts_ > 0 ∧ submitted ≠ r.encoder.last_capture_ts_ := by
      cases hcurrent : r.current with
      | none => exact Or.inl (h.idle hcurrent)
      | some previous =>
        right
        have hdistinct := h.distinct
        rw [haccepted, hcurrent] at hdistinct
        rw [(h.busy previous hcurrent).1]
        refine ⟨h.positive previous (by simp [haccepted, hcurrent]), fun hsame => ?_⟩
        exact (List.isChain_cons_cons.mp hdistinct).1 hsame.symm
    have hstamp := stampPacket_first hqueue hpositive hlast
    have hslices := one_le_slices r.encoder.effective_slices_per_frame_
    unfold packet VideoEncoder.dequeueOne
    simp only [hstamp]
    exact {
      queue := rfl
      positive := by
        intro other hother
        apply h.positive other
        rw [haccepted]
        exact List.mem_append_right _ hother
      -- the frame moves from `waiting` to `current`, so the order of the rest stays
      distinct := by
        have hdistinct := h.distinct
        rw [haccepted] at hdistinct
        exact (List.isChain_append.mp hdistinct).2.1
      idle := fun hnone => by cases hnone
      busy := by
        intro other hother
        cases hother
        exact ⟨rfl, Nat.one_pos, toNat_laterSlices hslices⟩
      stamped := by
        intro p hp
        rcases List.mem_append.mp hp with hold | hnew
        · exact h.stamped p hold
        · simp only [Option.toList_some, List.map_cons, List.map_nil, List.mem_singleton] at hnew
          rw [hnew] }

/-- A later access unit finds a slice due, and repeats the last timestamp. -/
theorem InStep.dequeueLater {r r' : SliceRun} (h : InStep r) {zeroed : Bool}
    (hstep : r.step (.dequeueLater zeroed) = some r') : InStep r' := by
  unfold step at hstep
  cases hcurrent : r.current with
  | none =>
    rw [hcurrent] at hstep
    cases hstep
  | some submitted =>
    rw [hcurrent] at hstep
    simp only at hstep
    obtain ⟨hlast, hproduced, hdue⟩ := h.busy submitted hcurrent
    -- zeroed or copied, the driver reports no new frame
    have hdriver : (if zeroed then 0 else submitted) = 0 ∨
        (if zeroed then 0 else submitted) = r.encoder.last_capture_ts_ := by
      cases zeroed with
      | true => exact Or.inl rfl
      | false => exact Or.inr hlast.symm
    generalize (if zeroed then 0 else submitted) = driver_ts at hstep hdriver
    split_ifs at hstep with hleft
    cases hstep
    -- a frame with units left has slices due
    have hremaining : r.encoder.remaining_slice_aus_ > 0 := by
      apply UInt32.lt_iff_toNat_lt.mpr
      show 0 < r.encoder.remaining_slice_aus_.toNat
      omega
    have hmany : max 1 r.encoder.effective_slices_per_frame_ > 1 := by
      apply UInt32.lt_iff_toNat_lt.mpr
      show 1 < r.slices.toNat
      omega
    have hstamp := stampPacket_later hdriver hmany hremaining
    have hone : 1 ≤ r.encoder.remaining_slice_aus_ := by
      apply UInt32.le_iff_toNat_le.mpr
      show 1 ≤ r.encoder.remaining_slice_aus_.toNat
      omega
    unfold packet VideoEncoder.dequeueOne
    simp only [hstamp]
    exact {
      queue := h.queue
      positive := h.positive
      distinct := h.distinct
      idle := fun hnone => by
        rw [hcurrent] at hnone
        cases hnone
      busy := by
        intro other hother
        rw [hcurrent] at hother
        cases hother
        refine ⟨hlast, Nat.succ_pos _, ?_⟩
        show (r.encoder.remaining_slice_aus_ - 1).toNat + (r.produced + 1) = r.slices.toNat
        rw [UInt32.toNat_sub_of_le _ _ hone]
        show r.encoder.remaining_slice_aus_.toNat - 1 + (r.produced + 1) = _
        omega
      stamped := by
        intro p hp
        rcases List.mem_append.mp hp with hold | hnew
        · exact h.stamped p hold
        · simp only [Option.toList_some, List.map_cons, List.map_nil, List.mem_singleton] at hnew
          rw [hnew]
          exact hlast }

/-- One event keeps the bookkeeping in step. -/
theorem InStep.step {r r' : SliceRun} {event : SliceEvent} (h : InStep r)
    (hstep : r.step event = some r') : InStep r' := by
  cases event with
  | submitQueue checks dmabuf_fd timestamp_us => exact h.submitQueue hstep
  | submitFinish qBuffer => exact h.submitFinish hstep
  | dequeueNothing =>
    cases hstep
    exact h
  | dequeueFirst => exact h.dequeueFirst hstep
  | dequeueLater zeroed => exact h.dequeueLater hstep

/-- An encoder that has been started: nothing submitted, nothing output. -/
def started (slices : UInt32) (free_output_indices : List ℕ) : SliceRun where
  encoder :=
    { effective_slices_per_frame_ := slices, free_output_indices_ := free_output_indices }

theorem started_inStep (slices : UInt32) (free_output_indices : List ℕ) :
    InStep (started slices free_output_indices) where
  queue := rfl
  positive := by simp [accepted, started]
  distinct := by simp [accepted, started]
  idle := fun _ => ⟨rfl, rfl⟩
  busy := fun _ hsome => by cases hsome
  stamped := by simp [started]

/-! ## Main result -/

/-- For every number of slices, every pool of input indices and every run: each packet has
the timestamp submitted for its frame, and while no submit is under way the queue holds
the timestamps of the accepted frames without output, in order. -/
theorem slices_stamped {slices : UInt32} {free_output_indices : List ℕ}
    {events : List SliceEvent} {r : SliceRun}
    (hrun : runSteps SliceRun.step (started slices free_output_indices) events = some r) :
    (∀ packet ∈ r.packets, packet.timestamp_us = packet.submitted_us) ∧
      (r.pending = none → r.encoder.timestamp_queue_ = r.waiting) := by
  have h : InStep r :=
    runSteps_invariant (fun _ _ _ h hstep => h.step hstep) (started_inStep slices _) hrun
  refine ⟨h.stamped, fun hnone => ?_⟩
  have hqueue := h.queue
  rw [hnone] at hqueue
  simpa using hqueue

/-- Four slices: a frame of two units, a failed submit, then a frame of one unit. -/
theorem slices_stamped_short_frames :
    ∃ r, runSteps SliceRun.step (started 4 [0, 1])
        [.submitQueue {} 7 100, .submitFinish true, .dequeueFirst, .submitQueue {} 8 150,
          .dequeueLater true, .submitFinish false, .submitQueue {} 8 200, .submitFinish true,
          .dequeueFirst] = some r ∧
      r.packets.map StampedPacket.timestamp_us = [100, 100, 200] ∧
      ∀ packet ∈ r.packets, packet.timestamp_us = packet.submitted_us := by
  refine ⟨_, rfl, by decide, ?_⟩
  exact (@slices_stamped 4 [0, 1] [.submitQueue {} 7 100, .submitFinish true, .dequeueFirst,
    .submitQueue {} 8 150, .dequeueLater true, .submitFinish false, .submitQueue {} 8 200,
    .submitFinish true, .dequeueFirst] _ rfl).1

end SliceRun

end TeleopBridge.Video
