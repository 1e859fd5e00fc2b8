import TeleopBridge.Support.ThreadGrid

/-!
# The CUDA Converter

Embeds `src/video/cuda_yuv422_converter.cu`: the four kernels, the checks of a pair of
surfaces, and the life of what the converter holds of the driver (the EGL maps and registered
resources of its outputs, the stream and the event), with the buffers of
`src/video/video_converter.cpp` around it.

The driver is a ledger of what is held. What it answers is an argument of each operation, as
is the order in which it lets the threads of a kernel access the memory. A call on something
that is not held marks the ledger as misused.
-/

namespace TeleopBridge.Video

open Support

/-! ## Surfaces -/

inductive NvBufColorFormat where
  | yuv422
  | yuyv
  | nv12
  | other (code : UInt32)
deriving DecidableEq, Repr

inductive NvBufLayout where
  | pitch
  | blockLinear
deriving DecidableEq, Repr

/-- `NvBufSurfacePlaneParams`; `width`, `height` and `pitch` are the arrays of its planes. -/
structure PlaneParams where
  num_planes : UInt32
  width : ℕ → UInt32
  height : ℕ → UInt32
  pitch : ℕ → UInt32

/-- A surface with one buffer. `surface` names the allocation that a pointer points to. -/
structure NvBufSurface where
  surface : ℕ
  numFilled : UInt32
  bufferDesc : ℤ
  colorFormat : NvBufColorFormat
  layout : NvBufLayout
  planeParams : PlaneParams

inductive EglFrameType where
  | pitch
  | array
deriving DecidableEq, Repr

/-- `CUeglFrame`. A plane is a device address, and 0 is the null pointer. -/
structure EglFrame where
  frameType : EglFrameType
  planeCount : UInt32
  pPitch : ℕ → ℤ

/-- What `setFailure` writes. -/
structure ConversionFailure where
  error_stage : String
  error_code : ℤ
deriving DecidableEq, Repr

inductive SourceFormat where
  | planarYuv422
  | packedYuyv
deriving DecidableEq, Repr

/-- `validateSurfacePair` -/
def validateSurfacePair (src dst : NvBufSurface) : Except ConversionFailure SourceFormat :=
  if src.numFilled = 0 ∨ dst.numFilled = 0 then .error ⟨"validate-surface", -1⟩
  else
    let src_pp := src.planeParams
    let dst_pp := dst.planeParams
    -- the planar source needs its three planes
    let planar_yuv422 := src.colorFormat = .yuv422 ∧ 3 ≤ src_pp.num_planes
    let packed_yuyv := src.colorFormat = .yuyv ∧ 1 ≤ src_pp.num_planes
    if src.layout ≠ .pitch ∨ dst.layout ≠ .pitch ∨
        (¬planar_yuv422 ∧ ¬packed_yuyv) ∨
        dst.colorFormat ≠ .nv12 ∨
        dst_pp.num_planes < 2 ∨
        -- same size, both even, and two rows at least
        src_pp.width 0 ≠ dst_pp.width 0 ∨
        src_pp.height 0 ≠ dst_pp.height 0 ∨
        src_pp.width 0 &&& 1 ≠ 0 ∨
        src_pp.height 0 < 2 ∨ src_pp.height 0 &&& 1 ≠ 0 then
      .error ⟨"validate-format", -2⟩
    else .ok (if packed_yuyv then .packedYuyv else .planarYuv422)

/-- `validateOutputSurface` -/
def validateOutputSurface (dst : NvBufSurface) : Option ConversionFailure :=
  if dst.numFilled = 0 then some ⟨"validate-output", -1⟩
  else if dst.layout ≠ .pitch ∨ dst.colorFormat ≠ .nv12 ∨ dst.planeParams.num_planes < 2 then
    some ⟨"validate-output", -2⟩
  else none

/-! ## Kernels -/

abbrev KernelThread := ThreadProgram ℤ UInt8

/-- `static_cast<int>(blockIdx * blockDim + threadIdx)` -/
def globalIndex (blockIdx blockDim threadIdx : ℕ) : Int32 :=
  (UInt32.ofNat blockIdx * UInt32.ofNat blockDim + UInt32.ofNat threadIdx).toInt32

/-- `static_cast<uint8_t>((a + b + 1u) >> 1)` -/
def averageUp (a b : UInt8) : UInt8 := ((a.toUInt32 + b.toUInt32 + 1) >>> 1).toUInt8

/-- `copyYKernel` -/
def copyYKernel (src_y dst_y : ℤ) (width height src_pitch dst_pitch x y : Int32) :
    KernelThread :=
  -- the grid reaches over the edge of the plane
  if x ≥ width ∨ y ≥ height then .done
  else
    .load (src_y + (y * src_pitch + x).toInt) fun value =>
      .store (dst_y + (y * dst_pitch + x).toInt) value .done

/-- `yuv422PlanarToNv12UvKernel` -/
def yuv422PlanarToNv12UvKernel (src_u src_v dst_uv : ℤ)
    (chroma_width chroma_height src_u_pitch src_v_pitch dst_uv_pitch x y : Int32) :
    KernelThread :=
  if x ≥ chroma_width ∨ y ≥ chroma_height then .done
  else
    let src_y0 := y * 2
    let src_y1 := src_y0 + 1
    let uv := dst_uv + (y * dst_uv_pitch).toInt + (x * 2).toInt
    -- two rows of chroma make one
    .load (src_u + (src_y0 * src_u_pitch + x).toInt) fun u0 =>
    .load (src_u + (src_y1 * src_u_pitch + x).toInt) fun u1 =>
    .load (src_v + (src_y0 * src_v_pitch + x).toInt) fun v0 =>
    .load (src_v + (src_y1 * src_v_pitch + x).toInt) fun v1 =>
    .store uv (averageUp u0 u1) (.store (uv + 1) (averageUp v0 v1) .done)

/-- `yuyvToNv12YKernel` -/
def yuyvToNv12YKernel (src_yuyv dst_y : ℤ) (width height src_pitch dst_pitch x y : Int32) :
    KernelThread :=
  if x ≥ width ∨ y ≥ height then .done
  else
    let pair := src_yuyv + (y * src_pitch).toInt + ((x >>> 1) * 4).toInt
    -- four bytes hold two pixels, Y U Y V
    .load (if x &&& 1 ≠ 0 then pair + 2 else pair) fun value =>
      .store (dst_y + (y * dst_pitch + x).toInt) value .done

/-- `yuyvToNv12UvKernel` -/
def yuyvToNv12UvKernel (src_yuyv dst_uv : ℤ)
    (chroma_width chroma_height src_pitch dst_uv_pitch x y : Int32) : KernelThread :=
  if x ≥ chroma_width ∨ y ≥ chroma_height then .done
  else
    let src_y0 := y * 2
    let src_y1 := src_y0 + 1
    let pair0 := src_yuyv + (src_y0 * src_pitch).toInt + (x * 4).toInt
    let pair1 := src_yuyv + (src_y1 * src_pitch).toInt + (x * 4).toInt
    let uv := dst_uv + (y * dst_uv_pitch).toInt + (x * 2).toInt
    .load (pair0 + 1) fun u0 =>
    .load (pair1 + 1) fun u1 =>
    .store uv (averageUp u0 u1)
      -- the first store comes before the loads of the second value
      (.load (pair0 + 3) fun v0 =>
      .load (pair1 + 3) fun v1 =>
      .store (uv + 1) (averageUp v0 v1) .done)

/-- `dim3((width + block.x - 1) / block.x, (height + block.y - 1) / block.y)` for blocks of
32 times 8 threads. -/
def kernelShape (width height : Int32) : GridShape :=
  ⟨((width.toUInt32 + 32 - 1) / 32).toNat, ((height.toUInt32 + 8 - 1) / 8).toNat, 32, 8⟩

/-- The threads of a launch of a kernel. -/
def kernelThreads (shape : GridShape) (kernel : Int32 → Int32 → KernelThread) (t : GridThread) :
    KernelThread :=
  if shape.Has t then
    kernel (globalIndex t.block_x shape.block_x t.thread_x)
      (globalIndex t.block_y shape.block_y t.thread_y)
  else .done

/-! ## The driver -/

/-- What is held of the driver, and the device memory. -/
structure CudaDriver where
  /-- How often a surface is mapped. -/
  egl_maps : ℕ → ℕ
  registered : List ℕ
  streams : List ℕ
  events : List ℕ
  /-- The surfaces that `NvBufSurfaceCreate` made. -/
  surfaces : List ℕ
  /-- The next handle. -/
  next : ℕ
  misused : Bool
  memory : ℤ → UInt8

namespace CudaDriver

def nvBufSurfaceMapEglImage (d : CudaDriver) (surface : ℕ) : CudaDriver :=
  { d with egl_maps := Function.update d.egl_maps surface (d.egl_maps surface + 1) }

def nvBufSurfaceUnMapEglImage (d : CudaDriver) (surface : ℕ) : CudaDriver :=
  if d.egl_maps surface = 0 then { d with misused := true }
  else { d with egl_maps := Function.update d.egl_maps surface (d.egl_maps surface - 1) }

def cuGraphicsEGLRegisterImage (d : CudaDriver) : ℕ × CudaDriver :=
  (d.next, { d with registered := d.next :: d.registered, next := d.next + 1 })

def cuGraphicsUnregisterResource (d : CudaDriver) (resource : ℕ) : CudaDriver :=
  if resource ∈ d.registered then { d with registered := d.registered.erase resource }
  else { d with misused := true }

def cudaStreamCreate (d : CudaDriver) : ℕ × CudaDriver :=
  (d.next, { d with streams := d.next :: d.streams, next := d.next + 1 })

def cudaStreamDestroy (d : CudaDriver) (stream : ℕ) : CudaDriver :=
  if stream ∈ d.streams then { d with streams := d.streams.erase stream }
  else { d with misused := true }

def cudaEventCreate (d : CudaDriver) : ℕ × CudaDriver :=
  (d.next, { d with events := d.next :: d.events, next := d.next + 1 })

def cudaEventDestroy (d : CudaDriver) (event : ℕ) : CudaDriver :=
  if event ∈ d.events then { d with events := d.events.erase event }
  else { d with misused := true }

def nvBufSurfaceCreate (d : CudaDriver) (surface : ℕ) : CudaDriver :=
  { d with surfaces := surface :: d.surfaces }

/-- A surface must not be destroyed while it is mapped. -/
def nvBufSurfaceDestroy (d : CudaDriver) (surface : ℕ) : CudaDriver :=
  if surface ∈ d.surfaces ∧ d.egl_maps surface = 0 then
    { d with surfaces := d.surfaces.erase surface }
  else { d with misused := true }

end CudaDriver

/-! ## Mapped frames -/

structure MappedEglFrame where
  surface : Option ℕ := none
  fd : ℤ := -1
  resource : Option ℕ := none
  frame : EglFrame := ⟨.array, 0, fun _ => 0⟩
  valid : Bool := false

/-- The answers to the calls of `mapEglFrame`; 0 is success. -/
structure MapAnswers where
  map_ret : ℤ
  egl_image : Bool
  register_ret : ℤ
  frame_ret : ℤ
  frame : EglFrame

/-- `resetMappedFrame`; the mapped frame itself becomes the empty one. -/
def resetMappedFrame (mapped : MappedEglFrame) (d : CudaDriver) : CudaDriver :=
  -- the registration first, then the mapping under it
  let d := mapped.resource.elim d d.cuGraphicsUnregisterResource
  mapped.surface.elim d d.nvBufSurfaceUnMapEglImage

/-- `mapEglFrame` -/
def mapEglFrame (surface : NvBufSurface) (mapped : MappedEglFrame) (stage : String)
    (answers : MapAnswers) (d : CudaDriver) :
    Option ConversionFailure × MappedEglFrame × CudaDriver :=
  if surface.numFilled = 0 then (some ⟨stage, -1⟩, mapped, d)
  -- a frame that is mapped already is used again
  else if mapped.valid ∧ mapped.surface = some surface.surface ∧ mapped.fd = surface.bufferDesc then
    (none, mapped, d)
  else
    let d := resetMappedFrame mapped d
    if answers.map_ret ≠ 0 then (some ⟨stage, -2⟩, {}, d)
    else
      let d := d.nvBufSurfaceMapEglImage surface.surface
      if !answers.egl_image then
        -- what was done so far is undone, step by step back
        (some ⟨stage, -3⟩, {}, d.nvBufSurfaceUnMapEglImage surface.surface)
      else if answers.register_ret ≠ 0 then
        (some ⟨stage, answers.register_ret⟩, {}, d.nvBufSurfaceUnMapEglImage surface.surface)
      else
        let (resource, d) := d.cuGraphicsEGLRegisterImage
        if answers.frame_ret ≠ 0 then
          (some ⟨stage, answers.frame_ret⟩, {},
            (d.cuGraphicsUnregisterResource resource).nvBufSurfaceUnMapEglImage surface.surface)
        else
          (none, ⟨some surface.surface, surface.bufferDesc, some resource, answers.frame, true⟩, d)

/-- `validateMappedFrames` -/
def validateMappedFrames (src dst : EglFrame) (source_format : SourceFormat) :
    Option ConversionFailure :=
  -- a packed source has one plane
  let expected_src_planes : UInt32 := if source_format = .packedYuyv then 1 else 3
  if src.frameType ≠ .pitch ∨ dst.frameType ≠ .pitch ∨
      src.planeCount < expected_src_planes ∨ dst.planeCount < 2 ∨
      src.pPitch 0 = 0 ∨
      (source_format = .planarYuv422 ∧ (src.pPitch 1 = 0 ∨ src.pPitch 2 = 0)) ∨
      dst.pPitch 0 = 0 ∨ dst.pPitch 1 = 0 then
    some ⟨"validate-egl-frame", -4⟩
  else none

/-- How the device went about the two launches, and what the calls around them answered. -/
structure DeviceAnswers where
  y_schedule : List GridThread
  uv_schedule : List GridThread
  last_error : ℤ
  record_ret : ℤ
  sync_ret : ℤ

/-- The kernel of the luma plane with its arguments. -/
def yKernel (src dst : PlaneParams) (src_frame dst_frame : EglFrame)
    (source_format : SourceFormat) : Int32 → Int32 → KernelThread :=
  let width := (src.width 0).toInt32
  let height := (src.height 0).toInt32
  match source_format with
  | .packedYuyv =>
      yuyvToNv12YKernel (src_frame.pPitch 0) (dst_frame.pPitch 0) width height
        (src.pitch 0).toInt32 (dst.pitch 0).toInt32
  | .planarYuv422 =>
      copyYKernel (src_frame.pPitch 0) (dst_frame.pPitch 0) width height
        (src.pitch 0).toInt32 (dst.pitch 0).toInt32

def chromaWidth (src : PlaneParams) : SourceFormat → Int32
  | .packedYuyv => (src.width 0).toInt32 / 2
  | .planarYuv422 => (src.width 1).toInt32

def chromaHeight (src : PlaneParams) : Int32 := (src.height 0).toInt32 / 2

/-- The kernel of the chroma plane with its arguments. -/
def uvKernel (src dst : PlaneParams) (src_frame dst_frame : EglFrame)
    (source_format : SourceFormat) : Int32 → Int32 → KernelThread :=
  let chroma_width := chromaWidth src source_format
  let chroma_height := chromaHeight src
  match source_format with
  | .packedYuyv =>
      yuyvToNv12UvKernel (src_frame.pPitch 0) (dst_frame.pPitch 1) chroma_width chroma_height
        (src.pitch 0).toInt32 (dst.pitch 1).toInt32
  | .planarYuv422 =>
      yuv422PlanarToNv12UvKernel (src_frame.pPitch 1) (src_frame.pPitch 2) (dst_frame.pPitch 1)
        chroma_width chroma_height (src.pitch 1).toInt32 (src.pitch 2).toInt32
        (dst.pitch 1).toInt32

/-- The launch of the luma kernel. -/
def yLaunch (src dst : PlaneParams) (src_frame dst_frame : EglFrame)
    (source_format : SourceFormat) (memory : ℤ → UInt8) : Launched GridThread ℤ UInt8 :=
  ⟨memory,
    kernelThreads (kernelShape (src.width 0).toInt32 (src.height 0).toInt32)
      (yKernel src dst src_frame dst_frame source_format)⟩

/-- The launch of the chroma kernel, which the stream runs behind the other one. -/
def uvLaunch (src dst : PlaneParams) (src_frame dst_frame : EglFrame)
    (source_format : SourceFormat) (memory : ℤ → UInt8) : Launched GridThread ℤ UInt8 :=
  ⟨memory,
    kernelThreads (kernelShape (chromaWidth src source_format) (chromaHeight src))
      (uvKernel src dst src_frame dst_frame source_format)⟩

/-- `launchConversion` -/
def launchConversion (src dst : PlaneParams) (src_frame dst_frame : EglFrame)
    (source_format : SourceFormat) (answers : DeviceAnswers) (d : CudaDriver) :
    Option ConversionFailure × CudaDriver :=
  let y_end := (yLaunch src dst src_frame dst_frame source_format d.memory).run answers.y_schedule
  let uv_end :=
    (uvLaunch src dst src_frame dst_frame source_format y_end.memory).run answers.uv_schedule
  let d := { d with memory := uv_end.memory }
  if answers.last_error ≠ 0 then (some ⟨"launch-kernel", answers.last_error⟩, d)
  else
    let cuda_ret := if answers.record_ret = 0 then answers.sync_ret else answers.record_ret
    if cuda_ret ≠ 0 then (some ⟨"sync-kernel", cuda_ret⟩, d) else (none, d)

/-! ## The converter -/

structure CudaYuv422Converter where
  cuda_initialized_ : Bool := false
  stream_ : Option ℕ := none
  done_event_ : Option ℕ := none
  outputs_ : List MappedEglFrame := []

/-- The answers to the calls of `prepareOutput`. -/
structure PrepareAnswers where
  init_ret : ℤ
  stream_ret : ℤ
  event_ret : ℤ
  map_dst : MapAnswers

/-- The answers to the calls of `convert`. -/
structure ConvertAnswers where
  prepare : PrepareAnswers
  map_src : MapAnswers
  device : DeviceAnswers

namespace CudaYuv422Converter

/-- `ensureCudaContext` -/
def ensureCudaContext (c : CudaYuv422Converter) (init_ret : ℤ) :
    Option ConversionFailure × CudaYuv422Converter :=
  if c.cuda_initialized_ then (none, c)
  else if init_ret ≠ 0 then (some ⟨"init-cuda", init_ret⟩, c)
  else (none, { c with cuda_initialized_ := true })

/-- `ensureStream` -/
def ensureStream (c : CudaYuv422Converter) (stream_ret event_ret : ℤ) (d : CudaDriver) :
    Option ConversionFailure × CudaYuv422Converter × CudaDriver :=
  if c.stream_.isSome ∧ c.done_event_.isSome then (none, c, d)
  else if stream_ret ≠ 0 then
    (some ⟨"create-stream", stream_ret⟩, { c with stream_ := none }, d)
  else
    let (stream, d) := d.cudaStreamCreate
    if event_ret ≠ 0 then
      (some ⟨"create-event", event_ret⟩, { c with stream_ := none, done_event_ := none },
        d.cudaStreamDestroy stream)
    else
      let (event, d) := d.cudaEventCreate
      (none, { c with stream_ := some stream, done_event_ := some event }, d)

/-- `findOutput` -/
def findOutput (c : CudaYuv422Converter) (surface : NvBufSurface) : Option MappedEglFrame :=
  if surface.numFilled = 0 then none
  else
    c.outputs_.find? fun mapped =>
      mapped.valid && mapped.surface == some surface.surface && mapped.fd == surface.bufferDesc

/-- The frame of an output has the two planes of NV12. -/
def outputFrameOk (frame : EglFrame) : Bool :=
  frame.frameType = .pitch ∧ 2 ≤ frame.planeCount ∧ frame.pPitch 0 ≠ 0 ∧ frame.pPitch 1 ≠ 0

/-- `prepareOutput` behind the context and the stream: a new entry of `outputs_`, which is
taken off again when the surface cannot be mapped or its frame is of no use. -/
def mapOutput (c : CudaYuv422Converter) (dst : NvBufSurface) (answers : MapAnswers)
    (d : CudaDriver) : Option ConversionFailure × CudaYuv422Converter × CudaDriver :=
  match mapEglFrame dst {} "map-dst-egl" answers d with
  | (some failure, _, d) => (some failure, c, d)
  | (none, mapped, d) =>
      if outputFrameOk mapped.frame then (none, { c with outputs_ := c.outputs_ ++ [mapped] }, d)
      else (some ⟨"validate-dst-egl-frame", -4⟩, c, resetMappedFrame mapped d)

/-- `prepareOutput` -/
def prepareOutput (c : CudaYuv422Converter) (dst : NvBufSurface) (answers : PrepareAnswers)
    (d : CudaDriver) : Option ConversionFailure × CudaYuv422Converter × CudaDriver :=
  match validateOutputSurface dst with
  | some failure => (some failure, c, d)
  | none =>
      match c.ensureCudaContext answers.init_ret with
      | (some failure, c) => (some failure, c, d)
      | (none, c) =>
          match c.ensureStream answers.stream_ret answers.event_ret d with
          | (some failure, c, d) => (some failure, c, d)
          | (none, c, d) =>
              if (c.findOutput dst).isSome then (none, c, d)
              else c.mapOutput dst answers.map_dst d

/-- `convert`, which succeeds when it reports no failure. -/
def convert (c : CudaYuv422Converter) (src dst : NvBufSurface) (answers : ConvertAnswers)
    (d : CudaDriver) : Option ConversionFailure × CudaYuv422Converter × CudaDriver :=
  match validateSurfacePair src dst with
  | .error failure => (some failure, c, d)
  | .ok source_format =>
      match c.prepareOutput dst answers.prepare d with
      | (some failure, c, d) => (some failure, c, d)
      | (none, c, d) =>
          match c.findOutput dst with
          | none => (some ⟨"find-dst-egl", -5⟩, c, d)
          | some dst_frame =>
              match mapEglFrame src {} "map-src-egl" answers.map_src d with
              | (some failure, _, d) => (some failure, c, d)
              | (none, src_frame, d) =>
                  match validateMappedFrames src_frame.frame dst_frame.frame source_format with
                  | some failure => (some failure, c, resetMappedFrame src_frame d)
                  | none =>
                      let (ok, d) :=
                        launchConversion src.planeParams dst.planeParams src_frame.frame
                          dst_frame.frame source_format answers.device d
                      (ok, c, resetMappedFrame src_frame d)

/-- `reset`; the converter itself becomes the empty one. -/
def reset (c : CudaYuv422Converter) (d : CudaDriver) : CudaDriver :=
  let d := c.outputs_.foldl (fun d mapped => resetMappedFrame mapped d) d
  let d := c.done_event_.elim d d.cudaEventDestroy
  c.stream_.elim d d.cudaStreamDestroy

end CudaYuv422Converter

/-! ## The buffers around it -/

/-- What a `VideoConverter` owns: the surfaces of its output pool and the CUDA converter. -/
structure VideoConverter where
  surfaces_ : List NvBufSurface := []
  cuda_converter_ : Option CudaYuv422Converter := none

/-- A converter and the driver that it uses. -/
structure ConverterState where
  converter : VideoConverter := {}
  driver : CudaDriver

inductive ConverterMove where
  /-- `initialize`, with the surfaces that the driver created, up to a refusal, and its answers
  to the preparation of each. -/
  | initializePool (buffer_pool_size : ℕ) (created : List NvBufSurface)
      (prepares : List PrepareAnswers)
  /-- `transformSync` with the surface of the decoded frame and the index of the output. -/
  | transformSync (src_surf : NvBufSurface) (out_idx : ℕ) (answers : ConvertAnswers)
  | destroyBuffers

namespace VideoConverter

/-- `destroyBuffers`; the converter itself becomes the empty one. -/
def destroyBuffers (v : VideoConverter) (d : CudaDriver) : CudaDriver :=
  let d := v.cuda_converter_.elim d fun c => c.reset d
  v.surfaces_.foldl (fun d surface => d.nvBufSurfaceDestroy surface.surface) d

/-- The loop of `initialize` that prepares the outputs; it stops at the first failure. -/
def prepareOutputs (c : CudaYuv422Converter) (d : CudaDriver) :
    List NvBufSurface → List PrepareAnswers → Bool × CudaYuv422Converter × CudaDriver
  | [], _ => (true, c, d)
  | _ :: _, [] => (false, c, d)
  | dst :: surfaces, answers :: prepares =>
      match c.prepareOutput dst answers d with
      | (some _, c, d) => (false, c, d)
      | (none, c, d) => prepareOutputs c d surfaces prepares

/-- `initialize`, where `numFilled` is set on each new surface. -/
def initializePool (buffer_pool_size : ℕ) (created : List NvBufSurface)
    (prepares : List PrepareAnswers) (d : CudaDriver) : VideoConverter × CudaDriver :=
  let surfaces_ := (created.take buffer_pool_size).map fun surface =>
    { surface with numFilled := 1 }
  let d := surfaces_.foldl (fun d surface => d.nvBufSurfaceCreate surface.surface) d
  if surfaces_.length < buffer_pool_size then
    ({}, destroyBuffers { surfaces_ := surfaces_ } d)
  else
    match prepareOutputs {} d surfaces_ prepares with
    | (true, c, d) => ({ surfaces_ := surfaces_, cuda_converter_ := some c }, d)
    | (false, c, d) =>
        ({}, destroyBuffers { surfaces_ := surfaces_, cuda_converter_ := some c } d)

/-- `transformSync` behind the pool: the failure of the conversion, if it came so far. -/
def transformSync (v : VideoConverter) (src_surf : NvBufSurface) (out_idx : ℕ)
    (answers : ConvertAnswers) (d : CudaDriver) :
    Option (Option ConversionFailure) × VideoConverter × CudaDriver :=
  match v.cuda_converter_, v.surfaces_[out_idx]? with
  | some c, some dst =>
      let (failure, c, d) := c.convert { src_surf with numFilled := 1 } dst answers d
      (some failure, { v with cuda_converter_ := some c }, d)
  | _, _ => (none, v, d)

end VideoConverter

/-- The driver makes new surfaces, and its answers to the preparations are as many. -/
def CanCreate (created : List NvBufSurface) (prepares : List PrepareAnswers) (d : CudaDriver) :
    Prop :=
  (created.map NvBufSurface.surface).Nodup ∧ (∀ surface ∈ created, surface.surface ∉ d.surfaces) ∧
    created.length ≤ prepares.length

instance (created : List NvBufSurface) (prepares : List PrepareAnswers) (d : CudaDriver) :
    Decidable (CanCreate created prepares d) :=
  inferInstanceAs (Decidable (_ ∧ _ ∧ _))

/-- A converter is initialized once, when it has just been made. -/
def ConverterState.step (s : ConverterState) : ConverterMove → Option ConverterState
  | .initializePool buffer_pool_size created prepares =>
      if s.converter.cuda_converter_.isSome ∨ ¬CanCreate created prepares s.driver then none
      else
        let (converter, driver) :=
          VideoConverter.initializePool buffer_pool_size created prepares s.driver
        some ⟨converter, driver⟩
  | .transformSync src_surf out_idx answers =>
      let (_, converter, driver) :=
        s.converter.transformSync src_surf out_idx answers s.driver
      some ⟨converter, driver⟩
  | .destroyBuffers => some ⟨{}, s.converter.destroyBuffers s.driver⟩

end TeleopBridge.Video
