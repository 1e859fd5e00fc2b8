import TeleopBridge.Support.Transition
import Mathlib.Data.UInt

/-!
# The Decoder and Its Surface Pool

Embeds `acquireDecodeBuffer`, `releaseDecodeBuffer`, `submitDetailed`, `dequeueSync`,
`requeueCapture`, `clearQueue` and `shutdown` of `src/video/video_decoder.cpp`. A thread inside
`submitDetailed` is at a `SubmitStage` and a consumer's frame is a `FrameObject`, so that any
number of calls are under way and take turns. A step is at most what the source does under one
lock or with one atomic; only `clearQueue`, which keeps the queue locked, is a step for each
frame.

`decodeToFd` is outside the repository: a `DecodeAnswer` is what one call of it returns. What
the answers and the destroyed descriptors were is kept beside the decoder, and a frame has the
number of its decode, so that two uses of one descriptor number can be told apart.
-/

namespace TeleopBridge.Video

open Support

/-! ## The decoder -/

/-- `VideoDecoder::DecodedFrame`, without `_nvbuf`, which is always null, and with the number
of the decode that made it. -/
structure DecodedFrame where
  yuv_dmabuf_fd : ℤ := -1
  frame_id : UInt64 := 0
  capture_timestamp_us : UInt64 := 0
  capture_steady_us : UInt64 := 0
  decode_us : UInt64 := 0
  _cap_buf_index : UInt32 := 0
  _decode_pool_fd : ℤ := -1
  decode_no : ℕ := 0
deriving DecidableEq, Repr

/-- `VideoDecoder::SubmitStatus` -/
inductive SubmitStatus
  | kQueued
  | kStopped
  | kInvalidInput
  | kFrameTooLarge
  | kDecodedQueueFull
  | kNoDecodeBuffer
  | kDecodeFailed
  | kInvalidDecodedOutput
deriving DecidableEq, Repr

/-- `class VideoDecoder`, as far as the pool and the queue go; `jpeg_decoder_` says whether
the pointer is set. -/
structure VideoDecoder where
  capture_plane_buffers : UInt32 := 12
  max_mjpeg_size_bytes : UInt32 := 4194304
  jpeg_decoder_ : Bool := true
  decode_dmabuf_fds_ : List ℤ := []
  free_decode_indices_ : List ℕ := []
  decoded_queue_ : List DecodedFrame := []
  stop_ : Bool := false
  shutting_down_ : Bool := false
deriving DecidableEq, Repr

namespace VideoDecoder

/-- `allocateDecodeBuffers`, when the surfaces come with these descriptors. -/
def allocateDecodeBuffers (capture_plane_buffers max_mjpeg_size_bytes : UInt32)
    (fds : List ℤ) : VideoDecoder where
  capture_plane_buffers := capture_plane_buffers
  max_mjpeg_size_bytes := max_mjpeg_size_bytes
  decode_dmabuf_fds_ := fds
  free_decode_indices_ := List.range fds.length

/-- `std::max<uint32_t>(1u, config_.capture_plane_buffers)`: the size of the pool, and of the
queue. -/
def max_queue (d : VideoDecoder) : ℕ := max 1 d.capture_plane_buffers.toNat

/-- `acquireDecodeBuffer`: the index with its descriptor, if it returns true. -/
def acquireDecodeBuffer (d : VideoDecoder) : Option (ℕ × ℤ) × VideoDecoder :=
  match d.free_decode_indices_ with
  | [] => (none, d)
  | index :: rest =>
      let fd := d.decode_dmabuf_fds_.getD index (-1)
      -- an index without a descriptor is taken out and not put back
      (if 0 ≤ fd then some (index, fd) else none, { d with free_decode_indices_ := rest })

/-- `releaseDecodeBuffer` -/
def releaseDecodeBuffer (d : VideoDecoder) (index : ℕ) : VideoDecoder :=
  -- an index that is not the pool's is ignored
  if index < d.decode_dmabuf_fds_.length then
    { d with free_decode_indices_ := d.free_decode_indices_ ++ [index] }
  else d

end VideoDecoder

/-! ## Calls under way -/

/-- The arguments of `submitDetailed`; `data` says whether the pointer is set. -/
structure SubmitArgs where
  data : Bool := true
  size : ℕ := 1
  frame_id : UInt64 := 0
  capture_timestamp_us : UInt64 := 0
  capture_steady_us : UInt64 := 0
deriving DecidableEq, Repr

/-- What `decodeToFd` returns and leaves in `fd`, and the time it took. -/
structure DecodeAnswer where
  result : ℤ := 0
  fd : ℤ
  decode_us : UInt64 := 0
deriving DecidableEq, Repr

/-- What a thread in `submitDetailed` does next. -/
inductive SubmitStage
  /-- the first condition -/
  | entered (args : SubmitArgs)
  /-- it held: `stop_` is read again for the status -/
  | refusing (args : SubmitArgs)
  /-- the size -/
  | sizing (args : SubmitArgs)
  /-- the first look at the queue -/
  | checking (args : SubmitArgs)
  | acquiring (args : SubmitArgs)
  | decoding (args : SubmitArgs) (decode_index : ℕ) (decode_fd : ℤ)
  /-- the decode failed: the index goes back -/
  | releasing (decode_index : ℕ) (status : SubmitStatus)
  /-- the second look at the queue -/
  | pushing (frame : DecodedFrame)
  /-- no room, or stopped: a foreign descriptor is destroyed, then the index goes back, then
  `stop_` is read for the status -/
  | rejecting (frame : DecodedFrame)
  | givingBack (decode_index : ℕ)
  | answering
  | returned (status : SubmitStatus)
deriving DecidableEq, Repr

/-- What `requeueCapture` does next with a frame; `idle` is before it and after it. -/
inductive RequeueStage
  | idle
  | destroyed
  | released
deriving DecidableEq, Repr

/-- A `DecodedFrame` of the consumer. -/
structure FrameObject where
  frame : DecodedFrame := {}
  stage : RequeueStage := .idle
deriving DecidableEq, Repr

/-- The decoder with the calls under way and the consumer's frames. `foreign` has the decodes
that gave a descriptor other than the pool's, `destroyed` those whose descriptor went to
`NvDestroy`. -/
structure DecoderRun where
  decoder : VideoDecoder
  submits : List SubmitStage := []
  frames : List FrameObject := []
  decodes : ℕ := 0
  foreign : List (ℕ × ℤ) := []
  destroyed : List (ℕ × ℤ) := []
deriving DecidableEq, Repr

namespace DecoderRun

/-- `destroyDecodedFd` of the descriptor of a frame. -/
def destroyDecodedFd (r : DecoderRun) (frame : DecodedFrame) : DecoderRun :=
  -- descriptor 0 is not destroyed
  if 0 < frame.yuv_dmabuf_fd then
    { r with destroyed := r.destroyed ++ [(frame.decode_no, frame.yuv_dmabuf_fd)] }
  else r

/-- `releaseDecodeBuffer` -/
def release (r : DecoderRun) (index : ℕ) : DecoderRun :=
  { r with decoder := r.decoder.releaseDecodeBuffer index }

/-- The first statement of `requeueCapture` and of the loop of `clearQueue`. -/
def destroyForeign (r : DecoderRun) (frame : DecodedFrame) : DecoderRun :=
  if !r.decoder.shutting_down_ && decide (0 ≤ frame.yuv_dmabuf_fd) &&
      frame.yuv_dmabuf_fd != frame._decode_pool_fd then
    r.destroyDecodedFd frame
  else r

/-- The second statement of both. -/
def releasePooled (r : DecoderRun) (frame : DecodedFrame) : DecoderRun :=
  if 0 ≤ frame._decode_pool_fd then r.release frame._cap_buf_index.toNat else r

/-- The frame that `submitDetailed` makes of an answer. -/
def decodedFrame (args : SubmitArgs) (decode_index : ℕ) (decode_fd : ℤ) (answer : DecodeAnswer)
    (decode_no : ℕ) : DecodedFrame where
  yuv_dmabuf_fd := answer.fd
  frame_id := args.frame_id
  capture_timestamp_us := args.capture_timestamp_us
  capture_steady_us := args.capture_steady_us
  decode_us := answer.decode_us
  _cap_buf_index := UInt32.ofNat decode_index
  _decode_pool_fd := decode_fd
  decode_no := decode_no

/-- `decodeToFd` with the two checks of what it returned. -/
def decodeToFd (r : DecoderRun) (args : SubmitArgs) (decode_index : ℕ) (decode_fd : ℤ)
    (answer : DecodeAnswer) : DecoderRun × SubmitStage :=
  let r' := { r with decodes := r.decodes + 1 }
  if answer.result < 0 then (r', .releasing decode_index .kDecodeFailed)
  else if answer.fd < 0 then (r', .releasing decode_index .kInvalidDecodedOutput)
  else
    ({ r' with
      -- a descriptor that is not the pool's has to be destroyed by somebody
      foreign :=
        if answer.fd = decode_fd then r.foreign else r.foreign ++ [(r.decodes, answer.fd)] },
      .pushing (decodedFrame args decode_index decode_fd answer r.decodes))

/-- The next step of a thread in `submitDetailed`; a decode takes the answer. -/
def submitStep (r : DecoderRun) (answer : DecodeAnswer) :
    SubmitStage → DecoderRun × SubmitStage
  | .entered args =>
      if !r.decoder.jpeg_decoder_ || !args.data || args.size == 0 || r.decoder.stop_ then
        (r, .refusing args)
      else (r, .sizing args)
  -- `stop_` may have been set since the first condition
  | .refusing _ =>
      if r.decoder.stop_ || !r.decoder.jpeg_decoder_ then (r, .returned .kStopped)
      else (r, .returned .kInvalidInput)
  | .sizing args =>
      if r.decoder.max_mjpeg_size_bytes.toNat < args.size then (r, .returned .kFrameTooLarge)
      else (r, .checking args)
  | .checking args =>
      -- the queue may fill again before the push
      if r.decoder.max_queue ≤ r.decoder.decoded_queue_.length then
        (r, .returned .kDecodedQueueFull)
      else (r, .acquiring args)
  | .acquiring args =>
      let acquired := r.decoder.acquireDecodeBuffer
      let r := { r with decoder := acquired.2 }
      match acquired.1 with
      | some (decode_index, decode_fd) => (r, .decoding args decode_index decode_fd)
      | none => (r, .returned .kNoDecodeBuffer)
  | .decoding args decode_index decode_fd => r.decodeToFd args decode_index decode_fd answer
  | .releasing decode_index status => (r.release decode_index, .returned status)
  | .pushing frame =>
      if r.decoder.max_queue ≤ r.decoder.decoded_queue_.length || r.decoder.stop_ then
        (r, .rejecting frame)
      else
        ({ r with
          decoder := { r.decoder with
            decoded_queue_ := r.decoder.decoded_queue_ ++ [frame] } }, .returned .kQueued)
  -- the decoded frame is thrown away
  | .rejecting frame =>
      (if frame.yuv_dmabuf_fd ≠ frame._decode_pool_fd then r.destroyDecodedFd frame else r,
        .givingBack frame._cap_buf_index.toNat)
  | .givingBack decode_index => (r.release decode_index, .answering)
  | .answering =>
      (r, .returned (if r.decoder.stop_ then .kStopped else .kDecodedQueueFull))
  | .returned status => (r, .returned status)

/-- The next step of `requeueCapture` on a frame; from `idle` it begins. -/
def requeueStep (r : DecoderRun) (object : FrameObject) : DecoderRun × FrameObject :=
  match object.stage with
  | .idle => (r.destroyForeign object.frame, { object with stage := .destroyed })
  | .destroyed => (r.releasePooled object.frame, { object with stage := .released })
  -- the frame is cleared last, so a second requeue finds nothing to give back
  | .released =>
      (r, {
        frame := { object.frame with yuv_dmabuf_fd := -1, _decode_pool_fd := -1 }
        stage := .idle })

end DecoderRun

/-! ## Events -/

/-- What happens next. The consumer declares its frames; the two stores are those of
`shutdown`; `clearFront` is a round of the loop of `clearQueue`. -/
inductive DecoderEvent
  | submitDetailed (args : SubmitArgs)
  | submitStep (thread : ℕ) (answer : DecodeAnswer)
  | declareFrame
  | dequeueSync (object : ℕ)
  | requeueCapture (object : ℕ)
  | clearFront
  | storeShuttingDown
  | storeStop
deriving DecidableEq, Repr

namespace DecoderRun

/-- `dequeueSync` into a frame, once the queue is not empty; an empty queue changes nothing.
The encode thread declares the frame anew for each call, so it holds no buffer. -/
def dequeueSync (r : DecoderRun) (object : ℕ) : Option DecoderRun := do
  let out ← r.frames[object]?
  if out.stage = .idle ∧ out.frame._decode_pool_fd < 0 then
    match r.decoder.decoded_queue_ with
    | [] => some r
    | frame :: rest =>
        some { r with
          decoder := { r.decoder with decoded_queue_ := rest }
          frames := r.frames.set object { frame := frame } }
  else none

/-- A round of the loop of `clearQueue`, which ends at an empty queue. -/
def clearFront (r : DecoderRun) : Option DecoderRun :=
  match r.decoder.decoded_queue_ with
  | [] => none
  | frame :: rest =>
      let r := { r with decoder := { r.decoder with decoded_queue_ := rest } }
      some ((r.destroyForeign frame).releasePooled frame)

/-- The events of the decoder. -/
def step (r : DecoderRun) : DecoderEvent → Option DecoderRun
  | .submitDetailed args => some { r with submits := r.submits ++ [.entered args] }
  | .submitStep thread answer => do
      let stage ← r.submits[thread]?
      let (r', stage') := r.submitStep answer stage
      some { r' with submits := r.submits.set thread stage' }
  | .declareFrame => some { r with frames := r.frames ++ [{}] }
  | .dequeueSync object => r.dequeueSync object
  | .requeueCapture object => do
      let out ← r.frames[object]?
      let (r', out') := r.requeueStep out
      some { r' with frames := r.frames.set object out' }
  | .clearFront => r.clearFront
  | .storeShuttingDown => some { r with decoder := { r.decoder with shutting_down_ := true } }
  | .storeStop => some { r with decoder := { r.decoder with stop_ := true } }

/-- After `initialize`. -/
def start (capture_plane_buffers max_mjpeg_size_bytes : UInt32) (fds : List ℤ) : DecoderRun where
  decoder := VideoDecoder.allocateDecodeBuffers capture_plane_buffers max_mjpeg_size_bytes fds

end DecoderRun

end TeleopBridge.Video
