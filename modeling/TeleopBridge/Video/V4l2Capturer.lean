import Mathlib.Data.Int.Notation
import Mathlib.Data.Nat.Notation

/-!
# The V4L2 Capturer

Embeds `src/video/video_v4l2_capturer.cpp`: the capture thread starts the device, dequeues
frames and queues their buffers again, while another thread may interrupt it; when the capture
thread is done, `stop` closes the device.

The kernel is a ledger of what it gave: descriptors, mappings, surfaces and the buffers that are
queued. What it answers is an argument of each step. The driver keeps to V4L2 in one thing: it
only dequeues a buffer that is queued, while the stream is on. A call on something that is not
there marks the ledger as misused. The format that `configureDevice` asks for and the number of
buffers that are asked for are left out, as the driver may answer with others.
-/

namespace TeleopBridge.Video

/-- `VideoV4L2Capturer::MemoryMode` -/
inductive MemoryMode
  | kMmap
  | kDmaBuf
  deriving DecidableEq, Repr

/-- `VideoV4L2Capturer::CamBuffer`; `start` and `surface` name what the pointers point to. -/
structure CamBuffer where
  start : Option ℕ := none
  length : ℕ := 0
  surface : Option ℕ := none
  dmabuf_fd : ℤ := -1
  deriving DecidableEq, Repr

/-- `VideoV4L2Capturer::Frame`; of `v4l2_buf` what is read. -/
structure CamFrame where
  index : ℕ
  bytesused : ℕ
  data : Option ℕ
  size : ℕ
  dmabuf_fd : ℤ
  deriving DecidableEq, Repr

/-! ## The kernel -/

/-- What the kernel has given and not got back. -/
structure CaptureKernel where
  open_fds : List ℕ := []
  mappings : List ℕ := []
  surfaces : List ℕ := []
  /-- The buffers that are queued in the driver. -/
  queue : List ℕ := []
  streaming : Bool := false
  misused : Bool := false
  deriving DecidableEq, Repr

namespace CaptureKernel

/-- `poll` or `ioctl` on a descriptor. -/
def use (k : CaptureKernel) (fd : ℕ) : CaptureKernel :=
  if fd ∈ k.open_fds then k else { k with misused := true }

def munmap (k : CaptureKernel) (start : ℕ) : CaptureKernel :=
  if start ∈ k.mappings then { k with mappings := k.mappings.erase start }
  -- unmapped twice, or never mapped
  else { k with misused := true }

def nvBufSurfaceDestroy (k : CaptureKernel) (surface : ℕ) : CaptureKernel :=
  if surface ∈ k.surfaces then { k with surfaces := k.surfaces.erase surface }
  else { k with misused := true }

def close (k : CaptureKernel) (fd : ℕ) : CaptureKernel :=
  if fd ∈ k.open_fds then
    -- the driver gives up its queue with the descriptor
    { k with open_fds := k.open_fds.erase fd, queue := [], streaming := false }
  else { k with misused := true }

/-- What `closeDevice` does with one buffer. -/
def release (k : CaptureKernel) (b : CamBuffer) : CaptureKernel :=
  let k := match b.start with
    | some start => k.munmap start
    | none => k
  -- a buffer may have both, one or neither
  match b.surface with
  | some surface => k.nvBufSurfaceDestroy surface
  | none => k

end CaptureKernel

/-! ## Answers -/

/-- The answers to the requests for one buffer. -/
structure BufferAnswer where
  /-- The length that `VIDIOC_QUERYBUF` gives. -/
  querybuf : Option ℕ := none
  mmap : Option ℕ := none
  /-- What `NvBufSurfaceCreate` gives, with its `bufferDesc` and `dataSize`. -/
  surface : Option (ℕ × ℤ × ℕ) := none
  qbuf : Bool := false
  deriving DecidableEq, Repr

/-- The answers to `start`. `VIDIOC_REQBUFS` grants one buffer for each entry. -/
structure CaptureStartAnswers where
  reqbufs : Option (List BufferAnswer) := none
  streamon : Bool := false
  deriving DecidableEq, Repr

/-- The answers to `initialize`: the descriptor, and whether the format is YUYV when the device
could be configured. -/
structure OpenAnswers where
  fd : Option ℕ := none
  configured : Option Bool := none
  deriving DecidableEq, Repr

/-! ## The capturer with its threads -/

/-- Where the capture thread is. -/
inductive CaptureStage
  /-- In no call, without a frame. -/
  | out
  /-- In `dequeue`, before `poll`. -/
  | polling (fd : ℕ)
  /-- Before `VIDIOC_DQBUF`. -/
  | dequeuing (fd : ℕ)
  /-- `dequeue` returned this frame, and it was not queued again. -/
  | holding (frame : CamFrame)
  deriving DecidableEq, Repr

/-- A buffer that came back from the driver and that nobody will queue again. -/
inductive BufferLoss
  /-- `dequeue` made nothing of it. -/
  | dequeued (index bytesused : ℕ)
  /-- `requeue` returned `false`. The answer is that to `VIDIOC_QBUF`, `none` where `requeue`
  returned before. -/
  | requeued (index : ℕ) (answer : Option Bool)
  deriving DecidableEq, Repr

def BufferLoss.index : BufferLoss → ℕ
  | .dequeued index _ => index
  | .requeued index _ => index

/-- The capturer, the kernel and the two threads. -/
structure CapturerRun where
  memory_mode : MemoryMode := .kMmap
  /-- `actual_pixel_format_ == V4L2_PIX_FMT_YUYV` -/
  yuyv : Bool := false
  cam_fd_ : Option ℕ := none
  buffers_ : List CamBuffer := []
  running_ : Bool := false
  kernel : CaptureKernel := {}
  stage : CaptureStage := .out
  /-- Another thread is in `interrupt`, between its store and `VIDIOC_STREAMOFF`. -/
  interrupting : Bool := false
  /-- The buffers that `start` queued since the device was opened. -/
  entered : List ℕ := []
  lost : List BufferLoss := []
  /-- The buffers that `VIDIOC_STREAMOFF` took out of the queue. -/
  dropped : List ℕ := []
  deriving DecidableEq, Repr

namespace CapturerRun

def use (r : CapturerRun) (fd : ℕ) : CapturerRun := { r with kernel := r.kernel.use fd }

/-- `VIDIOC_QBUF` took the buffer, from `start`. -/
def enter (r : CapturerRun) (index : ℕ) : CapturerRun :=
  { r with
    kernel := { r.kernel with queue := r.kernel.queue ++ [index] }
    entered := r.entered ++ [index] }

/-- `mmap` of a buffer. -/
def mapBuffer (r : CapturerRun) (index length start : ℕ) : CapturerRun :=
  { r with
    buffers_ := r.buffers_.set index { start := some start, length := length }
    kernel := { r.kernel with mappings := start :: r.kernel.mappings } }

/-- `NvBufSurfaceCreate` for a buffer. -/
def createSurface (r : CapturerRun) (index surface : ℕ) (dmabuf_fd : ℤ) (length : ℕ) :
    CapturerRun :=
  { r with
    buffers_ := r.buffers_.set index
      { surface := some surface, dmabuf_fd := dmabuf_fd, length := length }
    kernel := { r.kernel with surfaces := surface :: r.kernel.surfaces } }

/-- The loop of `requestMmapBuffers` from an index on. -/
def requestMmapBuffers (fd : ℕ) : List BufferAnswer → ℕ → CapturerRun → Bool × CapturerRun
  | [], _, r => (true, r)
  | answer :: answers, index, r =>
      let r := r.use fd
      match answer.querybuf, answer.mmap with
      | none, _ => (false, r)
      -- a failed `mmap` leaves the buffer with its length alone
      | some length, none =>
          (false, { r with buffers_ := r.buffers_.set index { length := length } })
      | some length, some start =>
          let r := (r.mapBuffer index length start).use fd
          if answer.qbuf then requestMmapBuffers fd answers (index + 1) (r.enter index)
          else (false, r)

/-- The loop of `requestDmaBufBuffers` from an index on. -/
def requestDmaBufBuffers (fd : ℕ) : List BufferAnswer → ℕ → CapturerRun → Bool × CapturerRun
  | [], _, r => (true, r)
  | answer :: answers, index, r =>
      match answer.surface with
      | none => (false, r)
      | some (surface, dmabuf_fd, length) =>
          let r := (r.createSurface index surface dmabuf_fd length).use fd
          if answer.qbuf then requestDmaBufBuffers fd answers (index + 1) (r.enter index)
          else (false, r)

/-- `requestBuffers`: buffers that are there are not asked for again. -/
def requestBuffers (r : CapturerRun) (fd : ℕ) (reqbufs : Option (List BufferAnswer)) :
    Bool × CapturerRun :=
  if r.buffers_ ≠ [] then (true, r)
  -- DMA buffers are only for YUYV
  else if r.memory_mode = .kDmaBuf ∧ ¬r.yuyv then (false, r)
  else
    let r := r.use fd
    match reqbufs with
    | none => (false, r)
    -- no buffer granted
    | some [] => (false, r)
    | some answers =>
        let r := { r with buffers_ := List.replicate answers.length {} }
        match r.memory_mode with
        | .kMmap => r.requestMmapBuffers fd answers 0
        | .kDmaBuf => r.requestDmaBufBuffers fd answers 0

/-- `start` -/
def start (r : CapturerRun) (answers : CaptureStartAnswers) : Bool × CapturerRun :=
  if r.running_ then (true, r)
  else
    match r.cam_fd_ with
    | none => (false, r)
    | some fd =>
        -- buffers that were queued stay so when `VIDIOC_STREAMON` fails
        let requested := r.requestBuffers fd answers.reqbufs
        if !requested.1 then (false, requested.2)
        else
          let r := requested.2.use fd
          if !answers.streamon then (false, r)
          else (true, { r with running_ := true, kernel := { r.kernel with streaming := true } })

/-- `closeDevice` -/
def closeDevice (r : CapturerRun) : CapturerRun :=
  -- `VIDIOC_REQBUFS` with 0 buffers is a use of the device
  let kernel := match r.cam_fd_ with
    | some fd => if r.buffers_ = [] then r.kernel else r.kernel.use fd
    | none => r.kernel
  let kernel := r.buffers_.foldl CaptureKernel.release kernel
  let kernel := match r.cam_fd_ with
    | some fd => kernel.close fd
    | none => kernel
  { r with
    kernel := kernel
    buffers_ := []
    cam_fd_ := none
    entered := []
    lost := []
    dropped := [] }

/-- `initialize` of a capturer that has no device. -/
def initializeDevice (r : CapturerRun) (memory_mode : MemoryMode) (answers : OpenAnswers) :
    Bool × CapturerRun :=
  let r := { r with memory_mode := memory_mode, yuyv := false }
  match answers.fd with
  | none => (false, r)
  | some fd =>
      let r := { r with
        cam_fd_ := some fd
        kernel := { r.kernel with open_fds := fd :: r.kernel.open_fds } }
      let r := r.use fd
      match answers.configured with
      -- a device that cannot be configured is closed again
      | none => (false, r.closeDevice)
      | some yuyv => (true, { r with yuyv := yuyv })

/-- `VIDIOC_STREAMOFF`, when the driver does it: all buffers leave the queue. -/
def streamOff (r : CapturerRun) (answer : Bool) : CapturerRun :=
  match r.cam_fd_ with
  | none => r
  | some fd =>
      let r := r.use fd
      if answer then
        { r with
          kernel := { r.kernel with queue := [], streaming := false }
          -- the driver gives its buffers back without a frame
          dropped := r.dropped ++ r.kernel.queue }
      else r

/-- What `dequeue` writes to the frame. -/
def fillFrame (r : CapturerRun) (buffer : CamBuffer) (index bytesused : ℕ) : CamFrame where
  index := index
  bytesused := bytesused
  data := if r.memory_mode = .kMmap then buffer.start else none
  -- an empty answer counts as the whole surface
  size := if r.memory_mode = .kDmaBuf ∧ bytesused = 0 then buffer.length else bytesused
  dmabuf_fd := if r.memory_mode = .kDmaBuf then buffer.dmabuf_fd else -1

/-- What `dequeue` makes of the buffer that `VIDIOC_DQBUF` gave, `none` when it returns
`false`. -/
def frameOf (r : CapturerRun) (index bytesused : ℕ) : Option CamFrame :=
  match r.buffers_[index]? with
  -- an index that the driver made up
  | none => none
  | some buffer =>
      if r.memory_mode = .kMmap ∧ buffer.start = none ∨
          r.memory_mode = .kDmaBuf ∧ buffer.dmabuf_fd < 0 then none
      else
        let frame := r.fillFrame buffer index bytesused
        if (frame.data ≠ none ∨ 0 ≤ frame.dmabuf_fd) ∧ frame.size ≠ 0 then some frame else none

/-- `dequeue` after `VIDIOC_DQBUF` gave a buffer. -/
def dequeued (r : CapturerRun) (index bytesused : ℕ) : CapturerRun :=
  let r := { r with kernel := { r.kernel with queue := r.kernel.queue.erase index } }
  match r.frameOf index bytesused with
  | some frame => { r with stage := .holding frame }
  -- `dequeue` returns `false` and nobody queues the buffer again
  | none => { r with stage := .out, lost := r.lost ++ [.dequeued index bytesused] }

/-- `requeue`, with the answer to `VIDIOC_QBUF`. -/
def requeue (r : CapturerRun) (frame : CamFrame) (qbuf : Bool) : Bool × CapturerRun :=
  let failed (answer : Option Bool) : CapturerRun :=
    { r with stage := .out, lost := r.lost ++ [.requeued frame.index answer] }
  match r.cam_fd_ with
  -- the device was closed in between
  | none => (false, failed none)
  | some fd =>
      let fits : Bool := match r.buffers_[frame.index]? with
        | none => false
        | some buffer => decide (0 ≤ buffer.dmabuf_fd)
      -- without a descriptor there is nothing to queue
      if r.memory_mode = .kDmaBuf ∧ fits = false then (false, failed none)
      else if qbuf then
        let r := r.use fd
        (true, { r with
          stage := .out
          kernel := { r.kernel with queue := r.kernel.queue ++ [frame.index] } })
      else (false, (failed (some qbuf)).use fd)

end CapturerRun

/-! ## Steps -/

/-- The steps of the capture thread and of the thread that stops it. -/
inductive CapturerStep
  | initializeDevice (memory_mode : MemoryMode) (answers : OpenAnswers)
  | start (answers : CaptureStartAnswers)
  | dequeue
  /-- `poll` returns; `ready` is its events. -/
  | poll (ready : Bool)
  /-- `VIDIOC_DQBUF` gives a buffer, or fails. -/
  | dqbuf (answer : Option (ℕ × ℕ))
  | requeue (qbuf : Bool)
  | interrupt
  | streamOff (answer : Bool)
  | stop (answer : Bool)
  deriving DecidableEq, Repr

namespace CapturerRun

/-- No thread is in a call, and no frame is held. -/
def Quiet (r : CapturerRun) : Prop := r.stage = .out ∧ r.interrupting = false

instance (r : CapturerRun) : Decidable r.Quiet := inferInstanceAs (Decidable (_ ∧ _))

/-- `stop` comes when the capture thread has ended. -/
def step (r : CapturerRun) : CapturerStep → Option CapturerRun
  | .initializeDevice memory_mode answers =>
      if r.Quiet ∧ r.cam_fd_ = none then some (r.initializeDevice memory_mode answers).2 else none
  | .start answers => if r.stage = .out then some (r.start answers).2 else none
  | .dequeue =>
      if r.stage = .out then
        match r.running_, r.cam_fd_ with
        | true, some fd => some { r with stage := .polling fd }
        | _, _ => some r
      else none
  | .poll ready =>
      match r.stage with
      | .polling fd =>
          let r := r.use fd
          some { r with stage := if ready && r.running_ then .dequeuing fd else .out }
      | _ => none
  | .dqbuf answer =>
      match r.stage with
      | .dequeuing fd =>
          match answer with
          | none => some { r.use fd with stage := .out }
          | some (index, bytesused) =>
              if r.kernel.streaming ∧ index ∈ r.kernel.queue then
                some ((r.use fd).dequeued index bytesused)
              else none
      | _ => none
  | .requeue qbuf =>
      match r.stage with
      | .holding frame => some (r.requeue frame qbuf).2
      | _ => none
  | .interrupt =>
      if r.running_ then
        if r.interrupting then none
        else some { r with running_ := false, interrupting := true }
      else some r
  | .streamOff answer =>
      if r.interrupting then some { r.streamOff answer with interrupting := false } else none
  | .stop answer =>
      if r.Quiet then
        if r.running_ then some ({ r with running_ := false }.streamOff answer).closeDevice
        else some r.closeDevice
      else none

end CapturerRun

end TeleopBridge.Video
