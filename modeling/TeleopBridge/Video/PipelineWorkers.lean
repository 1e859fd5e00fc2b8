import Mathlib.Logic.Function.Basic
import TeleopBridge.Support.Transition

/-!
# The Worker Threads of the Video Pipeline

Embeds how `src/video/video_stream_manager.cpp` starts, restarts and stops its pipeline:
`start`, `stop`, `startPipeline`, `stopPipeline`, `requestPipelineRestart`,
`restartSupervisorThreadMain`, `assignWorkerThread`, `joinWorkerThread`, and the main functions
of the workers as far as they create threads and objects or end.

A thread is the list of operations it still has to do, each of which is one step. The calls of
`start` and `stop` come from one thread, the controller, one after the other. What a device or
the clock decides is an argument of the step.
-/

namespace TeleopBridge.Video

open Support

/-! ## Threads and operations -/

/-- The thread slots of the manager. -/
inductive WorkerRole where
  | encode
  | capture
  | encoder_dq
  | eye_image
  | restart_supervisor
deriving DecidableEq, Repr

/-- The objects that a pipeline owns. -/
inductive PipelineObject where
  | capturer
  | recorder
  | postprocess
  | encoder
  | decoder
  | eye_image_publisher
deriving DecidableEq, Repr

/-- Who runs `startPipeline`, which decides what comes after it. -/
inductive StartCaller where
  | start
  | supervisor
deriving DecidableEq, Repr

inductive PipelineOp where
  /-- `std::thread(main)`, the argument of `assignWorkerThread`. -/
  | spawn (role : WorkerRole) (require_pipeline_running : Bool)
  | assignWorkerThread (role : WorkerRole) (thread : ℕ) (require_pipeline_running : Bool)
  | joinWorkerThread (role : WorkerRole)
  | joinThread (thread : ℕ)
  | lowerRunning
  | clearRequest
  | lowerPipeline
  | raisePipeline
  | release (object : PipelineObject)
  | startPipeline (caller : StartCaller)
  /-- The outer loop of the supervisor, at its condition. -/
  | supervise
  /-- The loop that starts the pipeline again, at its condition. -/
  | superviseRestart
  /-- `if (!pipeline_running_) return;` -/
  | checkPipeline
  | initializePostprocess
  | initializeEncoder
  | initializeDecoder
  | spawnWorkers
  /-- `capturer_->start()`; only the direct path asks for a restart when it fails. -/
  | startCapturer (request : Bool)
  | initializeEyeImage
  /-- One round of the loop of a worker. -/
  | workerLoop
  /-- One round of the loop of the capture thread, which bad frames end. -/
  | captureLoop
  | requestPipelineRestart
  /-- `requestPipelineRestart` behind its first check. -/
  | setRequest
deriving DecidableEq, Repr

structure WorkerThread where
  role : WorkerRole
  program : List PipelineOp
  joined : Bool := false
deriving DecidableEq, Repr

structure PipelineRun where
  yuyv_direct_enabled_ : Bool := false
  eye_image_enabled_ : Bool := false
  running_ : Bool := false
  pipeline_running_ : Bool := false
  restart_requested_ : Bool := false
  /-- The joinable handles of the manager. -/
  slots : WorkerRole → Option ℕ := fun _ => none
  /-- All threads that were ever made; a thread is named by its place. -/
  threads : List WorkerThread := []
  /-- What the thread that calls `start` and `stop` still has to do. -/
  controller : List PipelineOp := []
  objects : List PipelineObject := []
  /-- `joinThread` refused to join the current thread and detached it. -/
  detached : Bool := false

/-! ## Programs -/

/-- `stopPipeline` -/
def stopPipeline : List PipelineOp :=
  [.lowerPipeline, .joinWorkerThread .capture, .joinWorkerThread .encode,
    .joinWorkerThread .capture, .joinWorkerThread .encoder_dq, .joinWorkerThread .eye_image,
    .release .encoder, .release .capturer, .release .decoder, .release .postprocess,
    .release .eye_image_publisher, .release .recorder]

/-- `startPipeline` behind its checks. -/
def startWorkers (eye_image_enabled_ : Bool) : List PipelineOp :=
  [.raisePipeline, .spawn .encode true] ++
    (if eye_image_enabled_ then [.spawn .eye_image true] else [])

/-- What follows a pipeline that has started. -/
def StartCaller.started : StartCaller → List PipelineOp
  | .start => [.spawn .restart_supervisor false]
  | .supervisor => [.supervise]

/-- What follows a pipeline that has not started. -/
def StartCaller.failed : StartCaller → List PipelineOp
  | .start => .lowerRunning :: stopPipeline
  | .supervisor => stopPipeline ++ [.superviseRestart]

/-- The main function of a worker. -/
def WorkerRole.main : WorkerRole → List PipelineOp
  | .encode =>
      [.initializePostprocess, .checkPipeline, .initializeEncoder, .checkPipeline,
        .initializeDecoder, .checkPipeline, .spawnWorkers]
  | .capture => [.checkPipeline, .startCapturer false, .captureLoop]
  | .encoder_dq => [.workerLoop]
  | .eye_image => [.checkPipeline, .initializeEyeImage, .workerLoop]
  | .restart_supervisor => [.supervise]

/-! ## Steps -/

namespace PipelineRun

/-- An object is created. -/
def create (s : PipelineRun) (object : PipelineObject) : PipelineRun :=
  { s with objects := object :: s.objects }

/-- `shared_ptr::reset` or a move out of it. -/
def drop (s : PipelineRun) (object : PipelineObject) : PipelineRun :=
  { s with objects := s.objects.filter (· ≠ object) }

/-- `assignWorkerThread`: the slot takes the thread or loses its own, and what is left over is
joined. -/
def assign (s : PipelineRun) (role : WorkerRole) (thread : ℕ) (require_pipeline_running : Bool) :
    PipelineRun × List PipelineOp :=
  let previous := (s.slots role).toList
  if !require_pipeline_running || s.pipeline_running_ then
    ({ s with slots := Function.update s.slots role (some thread) },
      previous.map .joinThread)
  else
    -- the pipeline went down in between: the new thread is joined at once
    ({ s with slots := Function.update s.slots role none },
      previous.map .joinThread ++ [.joinThread thread])

/-- The thread has ended. -/
def ended (s : PipelineRun) (thread : ℕ) : Bool :=
  match s.threads[thread]? with
  | some t => t.program.isEmpty
  | none => false

/-- The thread is joined. -/
def markJoined (s : PipelineRun) (thread : ℕ) : PipelineRun :=
  { s with threads := s.threads.modify thread fun t => { t with joined := true } }

/-- `startPipeline`; `answer` says whether the capturer could be initialized, and `recorder`
whether the recorder could. -/
def tryStart (s : PipelineRun) (caller : StartCaller) (answer recorder : Bool) :
    PipelineRun × List PipelineOp :=
  if !s.running_ then (s, caller.failed)
  -- a pipeline that runs is not started twice
  else if s.pipeline_running_ then (s, caller.started)
  -- a capturer that is left over is used again
  else if !(s.objects.contains .capturer) && !answer then (s, caller.failed)
  else
    let s := s.create .capturer
    (if recorder then s.create .recorder else s,
      startWorkers s.eye_image_enabled_ ++ caller.started)

/-- The encode thread with all components spawns the others and goes into its loop. -/
def spawnWorkers (s : PipelineRun) : List PipelineOp :=
  if (s.yuyv_direct_enabled_ || s.objects.contains .decoder) &&
      s.objects.contains .postprocess && s.objects.contains .encoder then
    -- with direct YUYV the encode thread captures by itself
    (if s.yuyv_direct_enabled_ then [] else [.spawn .capture true]) ++
      [.spawn .encoder_dq true] ++
      (if s.yuyv_direct_enabled_ then [.startCapturer true, .workerLoop] else [.workerLoop])
  else [.requestPipelineRestart]

/-- A component that could not be made ends the encode thread. -/
def initializeComponent (s : PipelineRun) (object : PipelineObject) (answer : Bool)
    (rest : List PipelineOp) : PipelineRun × List PipelineOp :=
  if answer then (s.create object, rest) else (s, [.requestPipelineRestart])

/-- One operation of a thread, `self`, with what it still has to do behind it. It is disabled
while the thread has to wait. -/
def exec (s : PipelineRun) (self : Option ℕ) (answer recorder : Bool) (rest : List PipelineOp) :
    PipelineOp → Option (PipelineRun × List PipelineOp)
  | .spawn role require =>
      some ({ s with threads := s.threads ++ [⟨role, role.main, false⟩] },
        .assignWorkerThread role s.threads.length require :: rest)
  | .assignWorkerThread role thread require =>
      let (s, ops) := s.assign role thread require
      some (s, ops ++ rest)
  -- the handle is moved out of its slot before the join
  | .joinWorkerThread role =>
      match s.slots role with
      | none => some (s, rest)
      | some thread =>
          some ({ s with slots := Function.update s.slots role none }, .joinThread thread :: rest)
  | .joinThread thread =>
      -- a thread cannot join itself
      if self = some thread then some ({ s with detached := true }, rest)
      else if s.ended thread then some (s.markJoined thread, rest)
      else none
  | .lowerRunning => some ({ s with running_ := false }, rest)
  | .clearRequest => some ({ s with restart_requested_ := false }, rest)
  | .lowerPipeline => some ({ s with pipeline_running_ := false }, rest)
  | .raisePipeline => some ({ s with pipeline_running_ := true }, rest)
  | .release object => some (s.drop object, rest)
  | .startPipeline caller =>
      let (s, ops) := s.tryStart caller answer recorder
      some (s, ops ++ rest)
  | .supervise =>
      if !s.running_ then some (s, rest)
      -- the wait of the supervisor ends with a request, or with `running_`
      else if s.restart_requested_ then
        some ({ s with restart_requested_ := false }, stopPipeline ++ .superviseRestart :: rest)
      else none
  | .superviseRestart =>
      if !s.running_ then some (s, .supervise :: rest)
      else some (s, .startPipeline .supervisor :: rest)
  -- a worker returns where its pipeline is down
  | .checkPipeline => some (s, if s.pipeline_running_ then rest else [])
  | .initializePostprocess => some (s.initializeComponent .postprocess answer rest)
  | .initializeEncoder => some (s.initializeComponent .encoder answer rest)
  | .initializeDecoder =>
      some (if s.yuyv_direct_enabled_ then s
        else if answer then s.create .decoder else s.drop .decoder, rest)
  | .spawnWorkers => some (s, s.spawnWorkers ++ rest)
  | .startCapturer request =>
      some (s, if answer then rest else if request then [.requestPipelineRestart] else [])
  | .initializeEyeImage =>
      if answer then some (s.create .eye_image_publisher, rest)
      else some (s.drop .eye_image_publisher, [])
  | .workerLoop => some (s, if s.pipeline_running_ then .workerLoop :: rest else rest)
  | .captureLoop =>
      some (s,
        if !s.pipeline_running_ then rest
        else if answer then .captureLoop :: rest else .requestPipelineRestart :: rest)
  -- the two flags are read here and the request is stored by a step of its own
  | .requestPipelineRestart =>
      some (s, if s.running_ && s.pipeline_running_ then .setRequest :: rest else rest)
  | .setRequest => some ({ s with restart_requested_ := true }, rest)

end PipelineRun

/-- What a call of `start` reads and finds. -/
structure StartCall where
  /-- `video.pixel_format` asks for YUYV. -/
  yuyv : Bool
  /-- `video.eye_image.enabled` -/
  eye_image : Bool
  /-- The capturer could be initialized. -/
  opened : Bool
  /-- The device agrees to YUYV. -/
  negotiated : Bool
  /-- `checkNvjpegRuntime` -/
  nvjpeg : Bool
deriving DecidableEq, Repr

inductive PipelineMove where
  | start (call : StartCall)
  | stop
  /-- The controller goes on. -/
  | controller (answer recorder : Bool)
  /-- A thread goes on. -/
  | thread (id : ℕ) (answer recorder : Bool)
deriving DecidableEq, Repr

namespace PipelineRun

/-- What the thread still has to do is replaced. -/
def setProgram (s : PipelineRun) (id : ℕ) (program : List PipelineOp) : PipelineRun :=
  { s with threads := s.threads.modify id fun t => { t with program := program } }

/-- `start`, up to the call of `startPipeline`. A missing runtime leaves the capturer behind. -/
def start (s : PipelineRun) (call : StartCall) : PipelineRun :=
  if s.running_ then s
  else if !call.opened then s.drop .capturer
  else
    let s := { s.create .capturer with yuyv_direct_enabled_ := call.yuyv && call.negotiated }
    if call.yuyv && !call.negotiated then s.drop .capturer
    else
      let s := { s with eye_image_enabled_ := call.eye_image }
      if !call.yuyv && !call.nvjpeg then s
      else
        { s with
          restart_requested_ := false, running_ := true, controller := [.startPipeline .start] }

/-- `stop`, up to the lock of `restart_mutex_`. -/
def stop (s : PipelineRun) : PipelineRun :=
  if s.running_ then
    { s with
      running_ := false
      controller := .clearRequest :: .joinWorkerThread .restart_supervisor :: stopPipeline }
  else s

def step (s : PipelineRun) : PipelineMove → Option PipelineRun
  | .start call => if s.controller.isEmpty then some (s.start call) else none
  | .stop => if s.controller.isEmpty then some s.stop else none
  | .controller answer recorder =>
      match s.controller with
      | [] => none
      | op :: rest =>
          (s.exec none answer recorder rest op).map fun (s, program) =>
            { s with controller := program }
  | .thread id answer recorder =>
      match s.threads[id]? with
      | some ⟨_, op :: rest, _⟩ =>
          (s.exec (some id) answer recorder rest op).map fun (s, program) =>
            s.setProgram id program
      | _ => none

end PipelineRun

end TeleopBridge.Video
