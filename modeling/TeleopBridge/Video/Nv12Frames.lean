import Mathlib.Data.List.Nodup
import TeleopBridge.Support.SharedHeap
import TeleopBridge.Video.VideoEncoder

/-!
# NV12 Frames

Embeds the life of an NV12 buffer: the output pools of `src/video/video_converter.cpp` and
`src/video/video_undistorter.cpp`, and in `src/video/video_stream_manager.cpp` the shared
frame that `onConverterOutput` makes of a processed buffer, its entry in
`encoder_pending_frames_by_fd_`, the hand-over to the eye image thread and the deleter.

The encode thread is cut wherever the eye image thread can come in between. What the
hardware answers is an argument, and so is what only gates a frame (the publisher, its
subscribers, the rate limit).
-/

namespace TeleopBridge.Video

open Support

/-! ## The output pool -/

/-- The output pool of a converter or an undistorter. The descriptors are those of the
surfaces it created, and differ from each other. -/
structure Nv12Pool where
  dmabuf_fds_ : List ℤ
  free_indices_ : List ℕ
  distinct : dmabuf_fds_.Nodup
  nonneg : ∀ fd ∈ dmabuf_fds_, 0 ≤ fd

/-- The answers that decide whether a buffer is filled: the backend, the surface of the
source, that of the destination, and the conversion. -/
structure ConversionChecks where
  backend : Bool := true
  source : Bool := true
  destination : Bool := true
  converted : Bool := true
deriving DecidableEq, Repr

namespace Nv12Pool

/-- `fd_to_index_`, where `emplace` keeps the first index of a descriptor. -/
def fd_to_index_ (pool : Nv12Pool) (fd : ℤ) : Option ℕ := pool.dmabuf_fds_.idxOf? fd

/-- What creating the surfaces leaves: every index is free. -/
def createOutputPool (pool : Nv12Pool) : Nv12Pool :=
  { pool with free_indices_ := List.range pool.dmabuf_fds_.length }

/-- `free_indices_.push(index)` -/
def push (pool : Nv12Pool) (index : ℕ) : Nv12Pool :=
  { pool with free_indices_ := pool.free_indices_ ++ [index] }

/-- The index taken from the free queue, if there is one. -/
def acquireOutput (pool : Nv12Pool) : Option ℕ × Nv12Pool :=
  match pool.free_indices_ with
  | [] => (none, pool)
  | index :: rest => (some index, { pool with free_indices_ := rest })

/-- `releaseFd` -/
def releaseFd (pool : Nv12Pool) (dmabuf_fd : ℤ) : Nv12Pool :=
  match pool.fd_to_index_ dmabuf_fd with
  | some index => pool.push index
  | none => pool

/-- `VideoConverter::transformSync` behind the pop: the descriptor it puts out. -/
def transformSync (pool : Nv12Pool) (out_idx : ℕ) (checks : ConversionChecks) :
    Option ℤ × Nv12Pool :=
  if !checks.source then (none, pool.push out_idx)
  else if !checks.destination then (none, pool.push out_idx)
  else if !checks.converted then (none, pool.push out_idx)
  else (some (pool.dmabuf_fds_.getD out_idx (-1)), pool)

/-- `processCuda` of the undistorter. -/
def processCuda (checks : ConversionChecks) : Bool :=
  if !checks.backend then false
  else if !checks.source then false
  else if !checks.destination then false
  else checks.converted

/-- `VideoUndistorter::processYuv422` behind `acquireOutput`. -/
def processYuv422 (pool : Nv12Pool) (out_idx : ℕ) (checks : ConversionChecks) :
    Option ℤ × Nv12Pool :=
  if !processCuda checks then (none, pool.push out_idx)
  else (some (pool.dmabuf_fds_.getD out_idx (-1)), pool)

end Nv12Pool

/-! ## Shared frames -/

/-- `SharedNv12Frame` -/
structure SharedNv12Frame where
  fd : ℤ
  timestamp_us : UInt64
deriving DecidableEq, Repr

/-- Where the encode thread is between two frames, with the owner on its stack. -/
inductive EncodeStage where
  | idle
  | processing (out_idx : ℕ)
  | forwarded (dmabuf_fd : ℤ)
  | made (shared_frame : ℕ)
  | pending (shared_frame : ℕ)
  | submitting (shared_frame index : ℕ)
  | refused (shared_frame : ℕ)
  | accepted (shared_frame : ℕ)
  | handing (shared_frame : ℕ)
  | leaving (shared_frame : ℕ)
deriving DecidableEq, Repr

/-- `shared_frame` in `onConverterOutput`, or `released` in `onEncoderInputDone`. -/
def EncodeStage.stack : EncodeStage → Option ℕ
  | .made frame => some frame
  | .pending frame => some frame
  | .submitting frame _ => some frame
  | .refused frame => some frame
  | .accepted frame => some frame
  | .handing frame => some frame
  | .leaving frame => some frame
  | _ => none

/-- What `maybeEnqueueEyeImageFrame` asks before it takes the in-flight flag. -/
structure EyeImageChecks where
  enabled : Bool := true
  publisher_ready : Bool := true
  has_subscribers : Bool := true
  interval_over : Bool := true
deriving DecidableEq, Repr

/-- The manager. `undistorted` says that `undistorter_` is set, else `converter_` is, and
`pool` is the pool of that one. `inputs` are the encoder's buffers that the driver holds,
`frames` the heap of shared frames, and `eye` the frame of the eye image thread, with
whether it has cleared the in-flight flag. -/
structure Nv12Run where
  undistorted : Bool
  pool : Nv12Pool
  encoder : VideoEncoder
  inputs : List ℕ := []
  frames : SharedHeap SharedNv12Frame := {}
  encoder_pending_frames_by_fd_ : ℤ → Option ℕ := fun _ => none
  nv12_queue_ : List ℕ := []
  eye_image_inflight_ : Bool := false
  encode : EncodeStage := .idle
  eye : Option (ℕ × Bool) := none

/-- An event of the encode thread or of the eye image thread. -/
inductive Nv12Event where
  | acquire (ready : Bool)
  | convert (checks : ConversionChecks)
  | makeFrame (timestamp_us : UInt64)
  | noEncoder
  | insertPending
  | submitQueue (checks : SubmitChecks)
  | submitFinish (qBuffer : Bool)
  | erasePending
  | gateEyeImage (checks : EyeImageChecks)
  | pushEyeImage
  | leave
  | drainInputDone (index : ℕ)
  | eyePop
  | eyeClear
  | eyeLeave
  | eyeStop
deriving DecidableEq, Repr

namespace Nv12Run

/-- The deleter of a shared frame, by the component that `makeSharedNv12Frame` captured. -/
def deleteFrame (r : Nv12Run) (frame : SharedNv12Frame) : Nv12Run :=
  if frame.fd ≥ 0 then { r with pool := r.pool.releaseFd frame.fd } else r

/-- An owner of a shared frame goes away. -/
def dropFrame (r : Nv12Run) (id : ℕ) : Nv12Run :=
  let dropped := r.frames.reset id
  let r := { r with frames := dropped.2 }
  dropped.1.elim r r.deleteFrame

/-- The descriptor of a shared frame. -/
def fdOf (r : Nv12Run) (id : ℕ) : ℤ := ((r.frames.object id).map SharedNv12Frame.fd).getD (-1)

/-- `onEncoderInputDone`: the entry moves to `released` on the stack, or a descriptor that is
not known goes back directly. -/
def onEncoderInputDone (r : Nv12Run) (dmabuf_fd : ℤ) : Nv12Run :=
  match r.encoder_pending_frames_by_fd_ dmabuf_fd with
  | some released =>
      { r with
        encoder_pending_frames_by_fd_ :=
          Function.update r.encoder_pending_frames_by_fd_ dmabuf_fd none
        encode := .leaving released }
  | none => { r with pool := r.pool.releaseFd dmabuf_fd }

/-- `encoder_pending_frames_by_fd_[dmabuf_fd] = shared_frame`, which drops the frame that was
there. -/
def insertPending (r : Nv12Run) (id : ℕ) : Nv12Run :=
  let fd := r.fdOf id
  let previous := r.encoder_pending_frames_by_fd_ fd
  let r := { r with
    frames := r.frames.copy id
    encoder_pending_frames_by_fd_ :=
      Function.update r.encoder_pending_frames_by_fd_ fd (some id) }
  match previous with
  | some old => r.dropFrame old
  | none => r

/-- `encoder_pending_frames_by_fd_.erase(dmabuf_fd)` -/
def erasePending (r : Nv12Run) (id : ℕ) : Nv12Run :=
  let fd := r.fdOf id
  match r.encoder_pending_frames_by_fd_ fd with
  | some old =>
      let pending := Function.update r.encoder_pending_frames_by_fd_ fd none
      { r with encoder_pending_frames_by_fd_ := pending }.dropFrame old
  | none => r

/-- `while (!nv12_queue_.empty()) nv12_queue_.pop();` -/
def clearQueue (r : Nv12Run) : Nv12Run :=
  r.nv12_queue_.foldl dropFrame { r with nv12_queue_ := [] }

/-- `maybeEnqueueEyeImageFrame` behind the flag: the queue is emptied and takes the frame. -/
def pushEyeImage (r : Nv12Run) (id : ℕ) : Nv12Run :=
  let r := r.clearQueue
  { r with frames := r.frames.copy id, nv12_queue_ := r.nv12_queue_ ++ [id] }

/-- One event. -/
def step (r : Nv12Run) : Nv12Event → Option Nv12Run
  | .acquire ready =>
      match r.encode with
      | .idle =>
          if ready then
            let acquired := r.pool.acquireOutput
            some { r with
              pool := acquired.2
              encode := acquired.1.elim .idle .processing }
          else some r
      | _ => none
  | .convert checks =>
      match r.encode with
      | .processing out_idx =>
          let done :=
            if r.undistorted then r.pool.processYuv422 out_idx checks
            else r.pool.transformSync out_idx checks
          some { r with pool := done.2, encode := done.1.elim .idle .forwarded }
      | _ => none
  | .makeFrame timestamp_us =>
      match r.encode with
      | .forwarded dmabuf_fd =>
          some { r with
            frames := r.frames.make ⟨dmabuf_fd, timestamp_us⟩
            encode := .made r.frames.next }
      | _ => none
  | .noEncoder =>
      match r.encode with
      | .made frame => some { r with encode := .leaving frame }
      | _ => none
  | .insertPending =>
      match r.encode with
      | .made frame => some { r.insertPending frame with encode := .pending frame }
      | _ => none
  | .submitQueue checks =>
      match r.encode with
      | .pending frame =>
          let timestamp_us :=
            ((r.frames.object frame).map SharedNv12Frame.timestamp_us).getD 0
          let queued := r.encoder.submitQueue checks (r.fdOf frame) timestamp_us
          some { r with
            encoder := queued.2
            encode := queued.1.elim (.refused frame) (.submitting frame) }
      | _ => none
  | .submitFinish qBuffer =>
      match r.encode with
      | .submitting frame index =>
          let finished := r.encoder.submitFinish index qBuffer
          some { r with
            encoder := finished.2
            inputs := if finished.1 then r.inputs ++ [index] else r.inputs
            encode := if finished.1 then .accepted frame else .refused frame }
      | _ => none
  | .erasePending =>
      match r.encode with
      | .refused frame => some { r.erasePending frame with encode := .leaving frame }
      | _ => none
  | .gateEyeImage checks =>
      match r.encode with
      | .accepted frame =>
          if checks.enabled && checks.publisher_ready && checks.has_subscribers &&
              checks.interval_over && !r.eye_image_inflight_ then
            some { r with eye_image_inflight_ := true, encode := .handing frame }
          else some { r with encode := .leaving frame }
      | _ => none
  | .pushEyeImage =>
      match r.encode with
      | .handing frame => some { r.pushEyeImage frame with encode := .leaving frame }
      | _ => none
  | .leave =>
      match r.encode with
      | .leaving frame => some ({ r with encode := .idle }.dropFrame frame)
      | _ => none
  | .drainInputDone index =>
      -- the driver returns an input that it holds, and each of them once
      if r.encode = .idle ∧ index ∈ r.inputs then
        let done := r.encoder.drainInputDone index
        let r := { r with encoder := done.2, inputs := r.inputs.erase index }
        some (done.1.elim r r.onEncoderInputDone)
      else none
  | .eyePop =>
      -- skip to the latest frame, and take it out of the queue
      match r.eye, r.nv12_queue_.getLast? with
      | none, some frame =>
          some (r.nv12_queue_.dropLast.foldl dropFrame
            { r with nv12_queue_ := [], eye := some (frame, false) })
      | _, _ => none
  | .eyeClear =>
      match r.eye with
      | some (frame, false) =>
          some { r with eye_image_inflight_ := false, eye := some (frame, true) }
      | _ => none
  | .eyeLeave =>
      match r.eye with
      | some (frame, true) => some ({ r with eye := none }.dropFrame frame)
      | _ => none
  | .eyeStop =>
      if r.eye = none then some { r.clearQueue with eye_image_inflight_ := false } else none

/-- The pipeline after its start: the pool is full, and the encoder has its input buffers. -/
def started (undistorted : Bool) (pool : Nv12Pool) (inputs : ℕ) : Nv12Run where
  undistorted := undistorted
  pool := pool.createOutputPool
  encoder := { free_output_indices_ := List.range inputs }

end Nv12Run

end TeleopBridge.Video
