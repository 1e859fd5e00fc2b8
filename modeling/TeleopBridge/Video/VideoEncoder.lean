import Mathlib.Data.Int.Notation
import Mathlib.Data.Nat.Notation
import Mathlib.Logic.Function.Basic

/-!
# Video Encoder

Embeds the buffer and timestamp bookkeeping of `src/video/video_encoder.cpp`: `submit`,
`drainInputDone` and `dequeueOne`. What the driver answers is an argument. `submit` is cut
where another thread can come in between, behind the `push_back` of its timestamp. What is
only logged or counted is left out, and so are the bytes of a packet, which the
bookkeeping does not read.
-/

namespace TeleopBridge.Video

/-- The members of `class VideoEncoder` that the three functions use; `index_to_fd_` is a
map from indices. -/
structure VideoEncoder where
  effective_slices_per_frame_ : UInt32 := 1
  free_output_indices_ : List ℕ := []
  index_to_fd_ : ℕ → Option ℤ := fun _ => none
  timestamp_queue_ : List UInt64 := []
  last_capture_ts_ : UInt64 := 0
  remaining_slice_aus_ : UInt32 := 0

/-- The answers that `submit` tests before it queues anything: `encoder_` set and not
shutting down, `getNthBuffer`, `NvBufSurfaceFromFd` and the plane counts. -/
structure SubmitChecks where
  ready : Bool := true
  buffer : Bool := true
  surface : Bool := true
  planes : Bool := true
deriving DecidableEq, Repr

namespace VideoEncoder

/-- `submit` up to the `push_back` of its timestamp: the index it queues, or `none` when it
returns `false` before. -/
def submitQueue (e : VideoEncoder) (checks : SubmitChecks) (dmabuf_fd : ℤ) (timestamp_us : UInt64) :
    Option ℕ × VideoEncoder :=
  if !checks.ready then (none, e)
  else
    match e.free_output_indices_ with
    | [] => (none, e)
    | index :: rest =>
        if !checks.buffer || !checks.surface || !checks.planes then
          (none, { e with free_output_indices_ := rest ++ [index] })
        else
          (some index, { e with
            free_output_indices_ := rest
            index_to_fd_ := Function.update e.index_to_fd_ index (some dmabuf_fd)
            timestamp_queue_ := e.timestamp_queue_ ++ [timestamp_us] })

/-- The rest of `submit`, with the result of `qBuffer`. -/
def submitFinish (e : VideoEncoder) (index : ℕ) (qBuffer : Bool) : Bool × VideoEncoder :=
  if qBuffer then (true, e)
  else
    (false, { e with
      index_to_fd_ := Function.update e.index_to_fd_ index none
      timestamp_queue_ := e.timestamp_queue_.dropLast
      free_output_indices_ := e.free_output_indices_ ++ [index] })

/-- `submit` -/
def submit (e : VideoEncoder) (checks : SubmitChecks) (qBuffer : Bool) (dmabuf_fd : ℤ)
    (timestamp_us : UInt64) : Bool × VideoEncoder :=
  match e.submitQueue checks dmabuf_fd timestamp_us with
  | (some index, e) => e.submitFinish index qBuffer
  | (none, e) => (false, e)

/-- One round of `drainInputDone`, for a dequeued index: the fd it hands to the callback. -/
def drainInputDone (e : VideoEncoder) (index : ℕ) : Option ℤ × VideoEncoder :=
  let fd := e.index_to_fd_ index
  (if (fd.getD (-1)) ≥ 0 then fd else none, { e with
    index_to_fd_ := Function.update e.index_to_fd_ index none
    free_output_indices_ := e.free_output_indices_ ++ [index] })

/-- `slices_per_frame > 1 ? slices_per_frame - 1 : 0` -/
def laterSlices (slices_per_frame : UInt32) : UInt32 :=
  if slices_per_frame > 1 then slices_per_frame - 1 else 0

/-- The timestamp that `dequeueOne` gives a packet whose capture buffer has `driver_ts`. -/
def stampPacket (e : VideoEncoder) (driver_ts : UInt64) : UInt64 × VideoEncoder :=
  let slices_per_frame := max 1 e.effective_slices_per_frame_
  let expecting_more_slices := decide (slices_per_frame > 1) && decide (e.remaining_slice_aus_ > 0)
  let driver_reports_new_frame :=
    decide (driver_ts > 0) && decide (e.last_capture_ts_ > 0) &&
      decide (driver_ts ≠ e.last_capture_ts_)
  let startFrame := fun (ts : UInt64) (queue : List UInt64) =>
    (ts, { e with
      timestamp_queue_ := queue
      last_capture_ts_ := ts
      remaining_slice_aus_ := laterSlices slices_per_frame })
  if driver_reports_new_frame then
    match e.timestamp_queue_ with
    | ts :: queue => startFrame ts queue
    | [] => startFrame driver_ts []
  else if expecting_more_slices then
    (e.last_capture_ts_, { e with remaining_slice_aus_ := e.remaining_slice_aus_ - 1 })
  else
    match e.timestamp_queue_ with
    | ts :: queue => startFrame ts queue
    | [] =>
        if driver_ts > 0 then startFrame driver_ts []
        else
          (e.last_capture_ts_, { e with
            remaining_slice_aus_ :=
              if e.remaining_slice_aus_ > 0 then e.remaining_slice_aus_ - 1
              else e.remaining_slice_aus_ })

/-- `dequeueOne`: the `timestamp_us` of the packet it returns. `capture` is the timestamp of
a dequeued buffer that is not empty, `none` when there is no such buffer. -/
def dequeueOne (e : VideoEncoder) (capture : Option UInt64) : Option UInt64 × VideoEncoder :=
  match capture with
  | none => (none, e)
  | some driver_ts =>
      let stamped := e.stampPacket driver_ts
      (some stamped.1, stamped.2)

end VideoEncoder

end TeleopBridge.Video
