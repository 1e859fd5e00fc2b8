import Mathlib.Data.List.Forall2
import Mathlib.Data.List.Nodup
import Mathlib.Data.List.Count
import TeleopBridge.Support.Transition
import TeleopBridge.Video.CudaConverter

/-!
# What a Converter Holds of the Driver

Whatever the driver answers, the converter gives back what it takes: the mapping of a source
lasts for one conversion, each output stays mapped and registered once until the converter is
destroyed, and then nothing is left.

## Key Results

- `mapEglFrame_held`, `prepareOutput_owned`, `convert_owned`: the ledger behind each operation.
- `converter_run_holds`: the ledger in every state of every run.
-/

namespace TeleopBridge.Video

open Support

/-! ## The ledger -/

/-- The frames, streams, events and surfaces that account for all that is held. -/
structure Held (frames : List MappedEglFrame) (streams events surfaces : List ℕ)
    (d : CudaDriver) : Prop where
  maps : ∀ s, d.egl_maps s = frames.countP fun mapped => mapped.surface == some s
  registered : d.registered.Perm (frames.filterMap MappedEglFrame.resource)
  streams : d.streams = streams
  events : d.events = events
  surfaces : d.surfaces.Perm surfaces
  used_well : d.misused = false

namespace Held

variable {frames : List MappedEglFrame} {streams events surfaces : List ℕ} {d : CudaDriver}
  {mapped : MappedEglFrame} {n : ℕ} {resource : Option ℕ}

/-- The order of the frames does not matter. -/
theorem perm {frames' : List MappedEglFrame} (h : Held frames streams events surfaces d)
    (hperm : frames.Perm frames') : Held frames' streams events surfaces d :=
  { h with
    maps := fun s => (h.maps s).trans (hperm.countP_eq _)
    registered := h.registered.trans (hperm.filterMap _) }

/-- A mapping is one more frame of its surface. -/
theorem map (h : Held frames streams events surfaces d) :
    Held ({ surface := some n } :: frames) streams events surfaces
      (d.nvBufSurfaceMapEglImage n) := by
  refine { h with maps := fun s => ?_ }
  rw [List.countP_cons, ← h.maps s]
  show Function.update d.egl_maps n (d.egl_maps n + 1) s = _
  by_cases hs : s = n
  · subst hs
    simp
  · simp [Function.update_of_ne hs, Ne.symm hs]

/-- An unmapping is allowed for a frame that is held, and ends it. -/
theorem unmap (h : Held (mapped :: frames) streams events surfaces d)
    (hsurface : mapped.surface = some n) (hresource : mapped.resource = none) :
    Held frames streams events surfaces (d.nvBufSurfaceUnMapEglImage n) := by
  have hcount : ∀ s, d.egl_maps s =
      frames.countP (fun m => m.surface == some s) + if n = s then 1 else 0 := by
    intro s
    rw [h.maps s, List.countP_cons, hsurface]
    simp
  -- the frame itself counts, so that the surface is mapped
  have hpos : d.egl_maps n ≠ 0 := by
    rw [hcount n, if_pos rfl]
    omega
  rw [CudaDriver.nvBufSurfaceUnMapEglImage, if_neg hpos]
  refine { h with maps := fun s => ?_, registered := ?_ }
  · show Function.update d.egl_maps n (d.egl_maps n - 1) s = _
    by_cases hs : s = n
    · subst hs
      rw [Function.update_self, hcount s, if_pos rfl]
      omega
    · rw [Function.update_of_ne hs, hcount s, if_neg (Ne.symm hs), Nat.add_zero]
  · have hreg := h.registered
    rwa [List.filterMap_cons_none hresource] at hreg

/-- A registration belongs to the frame that was just mapped. -/
theorem register (h : Held (mapped :: frames) streams events surfaces d)
    (hresource : mapped.resource = none) :
    Held ({ mapped with resource := some d.next } :: frames) streams events surfaces
      d.cuGraphicsEGLRegisterImage.2 := by
  refine { h with maps := fun s => ?_, registered := ?_ }
  · exact h.maps s
  · have hreg := h.registered
    rw [List.filterMap_cons_none hresource] at hreg
    exact hreg.cons d.next

/-- Unregistering leaves the frame mapped. -/
theorem unregister (h : Held (mapped :: frames) streams events surfaces d)
    (hresource : mapped.resource = some n) :
    Held ({ mapped with resource := none } :: frames) streams events surfaces
      (d.cuGraphicsUnregisterResource n) := by
  have hreg := h.registered
  rw [List.filterMap_cons_some hresource] at hreg
  have hmem : n ∈ d.registered := hreg.mem_iff.mpr List.mem_cons_self
  rw [CudaDriver.cuGraphicsUnregisterResource, if_pos hmem]
  refine { h with maps := fun s => h.maps s, registered := ?_ }
  have herase := hreg.erase n
  rw [List.erase_cons_head] at herase
  exact herase

/-- A frame that is reset gives back what it stands for. -/
theorem resetMappedFrame (h : Held (mapped :: frames) streams events surfaces d) :
    Held frames streams events surfaces (resetMappedFrame mapped d) := by
  unfold Video.resetMappedFrame
  have hresource : ∃ m : MappedEglFrame, m.surface = mapped.surface ∧ m.resource = none ∧
      Held (m :: frames) streams events surfaces
        (mapped.resource.elim d d.cuGraphicsUnregisterResource) := by
    cases hr : mapped.resource with
    | none => exact ⟨mapped, rfl, hr, h⟩
    | some r => exact ⟨{ mapped with resource := none }, rfl, rfl, h.unregister hr⟩
  obtain ⟨m, hsurface, hnone, hm⟩ := hresource
  cases hs : mapped.surface with
  | none =>
    -- a frame of nothing stands for nothing
    rw [hs] at hsurface
    refine { hm with maps := fun s => ?_, registered := ?_ }
    · have hmaps := hm.maps s
      rwa [List.countP_cons_of_neg (by simp [hsurface])] at hmaps
    · have hreg := hm.registered
      rwa [List.filterMap_cons_none hnone] at hreg
  | some s => exact hm.unmap (hsurface.trans hs) hnone

/-- All frames in front may be given back, one after the other. -/
theorem reset_all {rest : List MappedEglFrame}
    (h : Held (frames ++ rest) streams events surfaces d) :
    Held rest streams events surfaces
      (frames.foldl (fun d mapped => Video.resetMappedFrame mapped d) d) := by
  induction frames generalizing d with
  | nil => exact h
  | cons mapped frames ih => exact ih h.resetMappedFrame

/-- A stream that is held may be destroyed. -/
theorem streamDestroy (h : Held frames (n :: streams) events surfaces d) :
    Held frames streams events surfaces (d.cudaStreamDestroy n) := by
  have hstreams := h.streams
  rw [CudaDriver.cudaStreamDestroy, if_pos (by rw [hstreams]; exact List.mem_cons_self)]
  refine { h with streams := ?_ }
  show d.streams.erase n = streams
  rw [hstreams, List.erase_cons_head]

/-- So may an event. -/
theorem eventDestroy (h : Held frames streams (n :: events) surfaces d) :
    Held frames streams events surfaces (d.cudaEventDestroy n) := by
  have hevents := h.events
  rw [CudaDriver.cudaEventDestroy, if_pos (by rw [hevents]; exact List.mem_cons_self)]
  refine { h with events := ?_ }
  show d.events.erase n = events
  rw [hevents, List.erase_cons_head]

theorem streamCreate (h : Held frames streams events surfaces d) :
    Held frames (d.next :: streams) events surfaces d.cudaStreamCreate.2 :=
  { h with streams := congrArg (d.next :: ·) h.streams }

theorem eventCreate (h : Held frames streams events surfaces d) :
    Held frames streams (d.next :: events) surfaces d.cudaEventCreate.2 :=
  { h with events := congrArg (d.next :: ·) h.events }

/-- A surface is held from its creation on. -/
theorem surfaceCreate (h : Held frames streams events surfaces d) :
    Held frames streams events (n :: surfaces) (d.nvBufSurfaceCreate n) :=
  { h with surfaces := h.surfaces.cons n }

/-- A surface that no frame maps can be destroyed. -/
theorem surfaceDestroy (h : Held frames streams events (n :: surfaces) d)
    (hframes : ∀ mapped ∈ frames, mapped.surface ≠ some n) :
    Held frames streams events surfaces (d.nvBufSurfaceDestroy n) := by
  have hmem : n ∈ d.surfaces := h.surfaces.mem_iff.mpr List.mem_cons_self
  have hunmapped : d.egl_maps n = 0 := by
    rw [h.maps n, List.countP_eq_zero]
    intro mapped hmapped
    simpa using hframes mapped hmapped
  rw [CudaDriver.nvBufSurfaceDestroy, if_pos ⟨hmem, hunmapped⟩]
  refine { h with surfaces := ?_ }
  have herase := h.surfaces.erase n
  rw [List.erase_cons_head] at herase
  exact herase

theorem withMemory (h : Held frames streams events surfaces d) (memory : ℤ → UInt8) :
    Held frames streams events surfaces { d with memory := memory } := { h with }

end Held

/-! ## The device memory -/

namespace CudaDriver

variable {d : CudaDriver} {n : ℕ}

/-- Managing the surfaces does not write their bytes. -/
@[simp] theorem memory_unmap : (d.nvBufSurfaceUnMapEglImage n).memory = d.memory := by
  unfold nvBufSurfaceUnMapEglImage
  split <;> rfl

@[simp] theorem memory_unregister : (d.cuGraphicsUnregisterResource n).memory = d.memory := by
  unfold cuGraphicsUnregisterResource
  split <;> rfl

@[simp] theorem memory_streamDestroy : (d.cudaStreamDestroy n).memory = d.memory := by
  unfold cudaStreamDestroy
  split <;> rfl

end CudaDriver

/-- Nor does giving a frame back. -/
@[simp] theorem memory_resetMappedFrame (mapped : MappedEglFrame) (d : CudaDriver) :
    (resetMappedFrame mapped d).memory = d.memory := by
  unfold resetMappedFrame
  cases mapped.resource <;> cases mapped.surface <;> simp

/-- Nor does mapping one. -/
theorem mapEglFrame_memory (surface : NvBufSurface) (mapped : MappedEglFrame) (stage : String)
    (answers : MapAnswers) (d : CudaDriver) :
    (mapEglFrame surface mapped stage answers d).2.2.memory = d.memory := by
  unfold mapEglFrame
  split_ifs <;> simp [CudaDriver.cuGraphicsEGLRegisterImage, CudaDriver.nvBufSurfaceMapEglImage]

/-! ## Operations -/

/-- The frame stands for a mapping of the surface. -/
structure IsMapOf (mapped : MappedEglFrame) (surface : NvBufSurface) (frame : EglFrame) :
    Prop where
  valid : mapped.valid = true
  fd : mapped.fd = surface.bufferDesc
  frame : mapped.frame = frame
  resource : mapped.resource.isSome
  surface : mapped.surface = some surface.surface

section Operations

variable {frames : List MappedEglFrame} {streams events surfaces : List ℕ} {d d' : CudaDriver}
  {mapped : MappedEglFrame} {surface : NvBufSurface} {stage : String} {answers : MapAnswers}
  {failure : Option ConversionFailure}

@[simp] theorem resetMappedFrame_empty (d : CudaDriver) : resetMappedFrame {} d = d := rfl

/-- A surface is mapped as a whole or not at all. -/
theorem mapEglFrame_held (h : Held frames streams events surfaces d)
    (hmap : mapEglFrame surface {} stage answers d = (failure, mapped, d')) :
    d'.memory = d.memory ∧
      ((failure ≠ none ∧ Held frames streams events surfaces d') ∨
        (failure = none ∧ Held (mapped :: frames) streams events surfaces d' ∧
          IsMapOf mapped surface answers.frame)) := by
  have hmemory : d'.memory = d.memory := by
    rw [← mapEglFrame_memory surface {} stage answers d, hmap]
  refine ⟨hmemory, ?_⟩
  -- what is held behind the mapping and behind the registration
  have hmapped := h.map (n := surface.surface)
  have hregistered := hmapped.register rfl
  unfold mapEglFrame at hmap
  simp only [resetMappedFrame_empty, Bool.false_eq_true, false_and, if_false] at hmap
  by_cases hfilled : surface.numFilled = 0
  · rw [if_pos hfilled] at hmap
    cases hmap
    exact Or.inl ⟨nofun, h⟩
  rw [if_neg hfilled] at hmap
  by_cases hret : answers.map_ret ≠ 0
  · rw [if_pos hret] at hmap
    cases hmap
    exact Or.inl ⟨nofun, h⟩
  rw [if_neg hret] at hmap
  -- from here on a failure takes back what has been done so far
  by_cases himage : (!answers.egl_image) = true
  · rw [if_pos himage] at hmap
    cases hmap
    exact Or.inl ⟨nofun, hmapped.unmap rfl rfl⟩
  rw [if_neg himage] at hmap
  by_cases hregister : answers.register_ret ≠ 0
  · rw [if_pos hregister] at hmap
    cases hmap
    exact Or.inl ⟨nofun, hmapped.unmap rfl rfl⟩
  rw [if_neg hregister] at hmap
  by_cases hframe : answers.frame_ret ≠ 0
  · rw [if_pos hframe] at hmap
    cases hmap
    exact Or.inl ⟨nofun, (hregistered.unregister rfl).unmap rfl rfl⟩
  · rw [if_neg hframe] at hmap
    cases hmap
    exact Or.inr ⟨rfl, { hregistered with }, rfl, rfl, rfl, rfl, rfl⟩

end Operations

/-- The converter accounts for all that is held. Its stream and its event come together. -/
structure Owned (c : CudaYuv422Converter) (surfaces : List ℕ) (d : CudaDriver) : Prop where
  held : Held c.outputs_ c.stream_.toList c.done_event_.toList surfaces d
  together : c.stream_ = none ↔ c.done_event_ = none

namespace CudaYuv422Converter

variable {c c' : CudaYuv422Converter} {surfaces : List ℕ} {d d' : CudaDriver}
  {src dst : NvBufSurface} {failure : Option ConversionFailure}

/-- The context is not among the resources. -/
theorem ensureCudaContext_outputs {init_ret : ℤ}
    (h : c.ensureCudaContext init_ret = (failure, c')) :
    c'.outputs_ = c.outputs_ ∧ c'.stream_ = c.stream_ ∧ c'.done_event_ = c.done_event_ := by
  unfold ensureCudaContext at h
  split_ifs at h <;> cases h <;> exact ⟨rfl, rfl, rfl⟩

/-- The stream and the event are made together. -/
theorem ensureStream_owned {stream_ret event_ret : ℤ} (howned : Owned c surfaces d)
    (h : c.ensureStream stream_ret event_ret d = (failure, c', d')) :
    Owned c' surfaces d' ∧ c'.outputs_ = c.outputs_ ∧ d'.memory = d.memory ∧
      (failure = none → c'.stream_.isSome) := by
  unfold ensureStream at h
  by_cases hboth : c.stream_.isSome ∧ c.done_event_.isSome
  · rw [if_pos hboth] at h
    cases h
    exact ⟨howned, rfl, rfl, fun _ => hboth.1⟩
  rw [if_neg hboth] at h
  -- neither is there yet
  have hnone : c.stream_ = none ∧ c.done_event_ = none := by
    have htogether := howned.together
    cases hs : c.stream_ <;> cases he : c.done_event_ <;> simp_all
  have hheld := howned.held
  rw [hnone.1, hnone.2] at hheld
  by_cases hstream : stream_ret ≠ 0
  · rw [if_pos hstream] at h
    cases h
    refine ⟨⟨?_, by simp [hnone.2]⟩, rfl, rfl, nofun⟩
    simpa [hnone.2] using hheld
  rw [if_neg hstream] at h
  have hcreated := hheld.streamCreate
  -- without its event the stream is destroyed again
  by_cases hevent : event_ret ≠ 0
  · simp only [if_pos hevent] at h
    cases h
    refine ⟨⟨hcreated.streamDestroy, by simp⟩, rfl, ?_, nofun⟩
    rw [CudaDriver.memory_streamDestroy]
    rfl
  · simp only [if_neg hevent] at h
    cases h
    exact ⟨⟨hcreated.eventCreate, by simp⟩, rfl, rfl, fun _ => rfl⟩

/-- A surface that no output stands for is mapped and becomes one. -/
theorem mapOutput_owned {answers : MapAnswers} (howned : Owned c surfaces d)
    (h : c.mapOutput dst answers d = (failure, c', d')) :
    Owned c' surfaces d' ∧ d'.memory = d.memory ∧
      ((failure ≠ none ∧ c' = c) ∨
        (failure = none ∧ ∃ mapped, IsMapOf mapped dst answers.frame ∧
          c' = { c with outputs_ := c.outputs_ ++ [mapped] })) := by
  unfold mapOutput at h
  generalize hmap : mapEglFrame dst {} "map-dst-egl" answers d = result at h
  obtain ⟨mapFailure, mapped, d₁⟩ := result
  obtain ⟨hmemory, hcases⟩ := mapEglFrame_held howned.held hmap
  rcases hcases with ⟨hfailed, hheld⟩ | ⟨rfl, hheld, hmapOf⟩
  · obtain ⟨f, rfl⟩ := Option.ne_none_iff_exists'.mp hfailed
    cases h
    exact ⟨⟨hheld, howned.together⟩, hmemory, Or.inl ⟨nofun, rfl⟩⟩
  · -- a frame of another layout is given back at once
    by_cases hok : outputFrameOk mapped.frame = true
    · simp only [if_pos hok] at h
      cases h
      refine ⟨⟨hheld.perm ?_, howned.together⟩, hmemory, Or.inr ⟨rfl, mapped, hmapOf, rfl⟩⟩
      exact (List.perm_append_singleton mapped c.outputs_).symm
    · simp only [if_neg hok] at h
      cases h
      refine ⟨⟨hheld.resetMappedFrame, howned.together⟩, ?_, Or.inl ⟨nofun, rfl⟩⟩
      rw [memory_resetMappedFrame, hmemory]

/-- What `prepareOutput` can do to the outputs. -/
theorem prepareOutput_owned {answers : PrepareAnswers} (howned : Owned c surfaces d)
    (h : c.prepareOutput dst answers d = (failure, c', d')) :
    Owned c' surfaces d' ∧ d'.memory = d.memory ∧
      (c'.outputs_ = c.outputs_ ∧ (failure = none → (c.findOutput dst).isSome) ∨
        failure = none ∧ c.findOutput dst = none ∧
          ∃ mapped, IsMapOf mapped dst answers.map_dst.frame ∧
            c'.outputs_ = c.outputs_ ++ [mapped]) := by
  unfold prepareOutput at h
  cases hvalid : validateOutputSurface dst with
  | some f =>
    rw [hvalid] at h
    cases h
    exact ⟨howned, rfl, Or.inl ⟨rfl, nofun⟩⟩
  | none =>
    rw [hvalid] at h
    generalize hcontext : c.ensureCudaContext answers.init_ret = context at h
    obtain ⟨contextFailure, c₁⟩ := context
    obtain ⟨hout₁, hstream₁, hevent₁⟩ := ensureCudaContext_outputs hcontext
    -- the context has changed nothing of what is owned
    have howned₁ : Owned c₁ surfaces d := by
      refine ⟨?_, ?_⟩
      · rw [hout₁, hstream₁, hevent₁]
        exact howned.held
      · rw [hstream₁, hevent₁]
        exact howned.together
    cases contextFailure with
    | some f =>
      cases h
      exact ⟨howned₁, rfl, Or.inl ⟨hout₁, nofun⟩⟩
    | none =>
      simp only at h
      generalize hstream : c₁.ensureStream answers.stream_ret answers.event_ret d = streamed at h
      obtain ⟨streamFailure, c₂, d₂⟩ := streamed
      obtain ⟨howned₂, hout₂, hmemory₂, -⟩ := ensureStream_owned howned₁ hstream
      have hout : c₂.outputs_ = c.outputs_ := hout₂.trans hout₁
      have hfind : c₂.findOutput dst = c.findOutput dst := by
        unfold findOutput
        rw [hout]
      cases streamFailure with
      | some f =>
        cases h
        exact ⟨howned₂, hmemory₂, Or.inl ⟨hout, nofun⟩⟩
      | none =>
        simp only at h
        -- an output that is mapped already is not mapped again
        by_cases hfound : (c₂.findOutput dst).isSome = true
        · rw [if_pos hfound] at h
          cases h
          exact ⟨howned₂, hmemory₂, Or.inl ⟨hout, fun _ => hfind ▸ hfound⟩⟩
        · rw [if_neg hfound] at h
          obtain ⟨howned', hmemory', hcases⟩ := mapOutput_owned howned₂ h
          refine ⟨howned', hmemory'.trans hmemory₂, ?_⟩
          rcases hcases with ⟨hfailed, rfl⟩ | ⟨rfl, mapped, hmapOf, rfl⟩
          · exact Or.inl ⟨hout, fun hnone => absurd hnone hfailed⟩
          · refine Or.inr ⟨rfl, ?_, mapped, hmapOf, by rw [hout]⟩
            rw [← hfind]
            exact Option.not_isSome_iff_eq_none.mp hfound

/-- The kernels write memory and hold nothing. -/
theorem launchConversion_held {frames : List MappedEglFrame} {streams events : List ℕ}
    {src_pp dst_pp : PlaneParams} {src_frame dst_frame : EglFrame} {format : SourceFormat}
    {answers : DeviceAnswers} (h : Held frames streams events surfaces d) :
    Held frames streams events surfaces
      (launchConversion src_pp dst_pp src_frame dst_frame format answers d).2 := by
  have hheld := h.withMemory
    ((uvLaunch src_pp dst_pp src_frame dst_frame format
      ((yLaunch src_pp dst_pp src_frame dst_frame format d.memory).run
        answers.y_schedule).memory).run answers.uv_schedule).memory
  simp only [launchConversion]
  split_ifs <;> exact hheld

/-- The mapping of a source lasts for one conversion. -/
theorem convert_owned {answers : ConvertAnswers} (howned : Owned c surfaces d)
    (h : c.convert src dst answers d = (failure, c', d')) :
    Owned c' surfaces d' ∧
      (c' = c ∨ ∃ f d₁, c.prepareOutput dst answers.prepare d = (f, c', d₁)) := by
  unfold convert at h
  cases hvalid : validateSurfacePair src dst with
  | error f =>
    rw [hvalid] at h
    cases h
    exact ⟨howned, Or.inl rfl⟩
  | ok format =>
    rw [hvalid] at h
    generalize hprepare : c.prepareOutput dst answers.prepare d = prepared at h
    obtain ⟨f, c₁, d₁⟩ := prepared
    obtain ⟨howned₁, -, -⟩ := prepareOutput_owned howned hprepare
    cases f with
    | some f =>
      cases h
      exact ⟨howned₁, Or.inr ⟨some f, _, rfl⟩⟩
    | none =>
      simp only at h
      cases hfind : c₁.findOutput dst with
      | none =>
        rw [hfind] at h
        cases h
        exact ⟨howned₁, Or.inr ⟨none, _, rfl⟩⟩
      | some dst_frame =>
        rw [hfind] at h
        generalize hmap : mapEglFrame src {} "map-src-egl" answers.map_src d₁ = mapped at h
        obtain ⟨mapFailure, src_frame, d₂⟩ := mapped
        -- the source is mapped on top, and given back in every way out
        obtain ⟨-, hcases⟩ := mapEglFrame_held howned₁.held hmap
        rcases hcases with ⟨hfailed, hheld⟩ | ⟨rfl, hheld, -⟩
        · obtain ⟨f, rfl⟩ := Option.ne_none_iff_exists'.mp hfailed
          cases h
          exact ⟨⟨hheld, howned₁.together⟩, Or.inr ⟨none, _, rfl⟩⟩
        · simp only at h
          cases hframes : validateMappedFrames src_frame.frame dst_frame.frame format with
          | some f =>
            rw [hframes] at h
            cases h
            exact ⟨⟨hheld.resetMappedFrame, howned₁.together⟩, Or.inr ⟨none, _, rfl⟩⟩
          | none =>
            rw [hframes] at h
            cases h
            exact ⟨⟨(launchConversion_held hheld).resetMappedFrame, howned₁.together⟩,
              Or.inr ⟨none, _, rfl⟩⟩

/-- How a conversion succeeds. -/
theorem convert_eq_none {answers : ConvertAnswers} (howned : Owned c surfaces d)
    (h : c.convert src dst answers d = (none, c', d')) :
    ∃ format dst_frame, validateSurfacePair src dst = .ok format ∧
      c'.findOutput dst = some dst_frame ∧
      ∃ d₂ : CudaDriver, d₂.memory = d.memory ∧
        ∃ after : CudaDriver,
          launchConversion src.planeParams dst.planeParams answers.map_src.frame dst_frame.frame
            format answers.device d₂ = (none, after) ∧ d'.memory = after.memory := by
  unfold convert at h
  cases hvalid : validateSurfacePair src dst with
  | error f =>
    rw [hvalid] at h
    cases h
  | ok format =>
    rw [hvalid] at h
    generalize hprepare : c.prepareOutput dst answers.prepare d = prepared at h
    obtain ⟨f, c₁, d₁⟩ := prepared
    obtain ⟨howned₁, hmemory₁, -⟩ := prepareOutput_owned howned hprepare
    cases f with
    | some f => cases h
    | none =>
      simp only at h
      cases hfind : c₁.findOutput dst with
      | none =>
        rw [hfind] at h
        cases h
      | some dst_frame =>
        rw [hfind] at h
        generalize hmap : mapEglFrame src {} "map-src-egl" answers.map_src d₁ = mapped at h
        obtain ⟨mapFailure, src_frame, d₂⟩ := mapped
        obtain ⟨hmemory₂, hcases⟩ := mapEglFrame_held howned₁.held hmap
        rcases hcases with ⟨hfailed, -⟩ | ⟨rfl, -, hmapOf⟩
        · obtain ⟨f, rfl⟩ := Option.ne_none_iff_exists'.mp hfailed
          cases h
        · simp only at h
          cases hframes : validateMappedFrames src_frame.frame dst_frame.frame format with
          | some f =>
            rw [hframes] at h
            cases h
          | none =>
            rw [hframes] at h
            -- every failure before the launch is returned as it is
            generalize hlaunch : launchConversion src.planeParams dst.planeParams src_frame.frame
              dst_frame.frame format answers.device d₂ = launched at h
            obtain ⟨ok, after⟩ := launched
            cases h
            refine ⟨format, dst_frame, rfl, hfind, d₂, hmemory₂.trans hmemory₁, after, ?_, ?_⟩
            · rw [← hmapOf.frame, hlaunch]
            · rw [memory_resetMappedFrame]

/-- Resetting the converter leaves nothing. -/
theorem reset_held (howned : Owned c surfaces d) : Held [] [] [] surfaces (c.reset d) := by
  have hheld := howned.held
  unfold reset
  rw [← List.append_nil c.outputs_] at hheld
  have hframes := hheld.reset_all
  -- the stream and its event come and go together
  have htogether := howned.together
  cases hs : c.stream_ with
  | none =>
    rw [hs, htogether.mp hs] at hframes
    rw [htogether.mp hs]
    exact hframes
  | some stream =>
    cases he : c.done_event_ with
    | none => exact absurd (htogether.mpr he) (by rw [hs]; nofun)
    | some event =>
      rw [hs, he] at hframes
      exact hframes.eventDestroy.streamDestroy

end CudaYuv422Converter

/-! ## Outputs and surfaces -/

/-- The outputs stand for the surfaces, one for each. -/
def OutputsOf (outputs : List MappedEglFrame) (surfaces : List NvBufSurface) : Prop :=
  List.Forall₂ (fun mapped surface => ∃ frame, IsMapOf mapped surface frame) outputs surfaces

section Outputs

variable {c c' : CudaYuv422Converter} {d d' : CudaDriver} {surfaces rest : List NvBufSurface}
  {dst : NvBufSurface}

/-- The outputs are in the order of the surfaces. -/
theorem OutputsOf.surfaces_eq {outputs : List MappedEglFrame} (h : OutputsOf outputs surfaces) :
    outputs.map MappedEglFrame.surface = surfaces.map fun surface => some surface.surface := by
  induction h with
  | nil => rfl
  | cons hhead _ ih =>
    obtain ⟨frame, hmap⟩ := hhead
    rw [List.map_cons, List.map_cons, hmap.surface, ih]

/-- A surface of the pool is found. -/
theorem OutputsOf.findOutput_isSome (h : OutputsOf c.outputs_ surfaces) (hdst : dst ∈ surfaces)
    (hfilled : dst.numFilled = 1) : (c.findOutput dst).isSome := by
  -- the induction is on the two lists in step
  have hexists : ∃ mapped ∈ c.outputs_, ∃ frame, IsMapOf mapped dst frame := by
    unfold OutputsOf at h
    generalize c.outputs_ = outputs at h ⊢
    induction h with
    | nil => exact absurd hdst List.not_mem_nil
    | @cons mapped surface outputs surfaces hhead _ ih =>
      rcases List.mem_cons.mp hdst with rfl | hrest
      · exact ⟨mapped, List.mem_cons_self, hhead⟩
      · obtain ⟨m, hm, hmap⟩ := ih hrest
        exact ⟨m, List.mem_cons_of_mem _ hm, hmap⟩
  obtain ⟨mapped, hmem, frame, hmap⟩ := hexists
  have hne : ¬dst.numFilled = 0 := by
    rw [hfilled]
    decide
  rw [CudaYuv422Converter.findOutput, if_neg hne, List.find?_isSome]
  exact ⟨mapped, hmem, by simp [hmap.valid, hmap.surface, hmap.fd]⟩

/-- A surface that no output stands for is not found. -/
theorem OutputsOf.findOutput_eq_none (h : OutputsOf c.outputs_ surfaces)
    (hdst : dst.surface ∉ surfaces.map NvBufSurface.surface) : c.findOutput dst = none := by
  unfold CudaYuv422Converter.findOutput
  split
  · rfl
  rw [List.find?_eq_none]
  intro mapped hmapped hfound
  simp only [Bool.and_eq_true, beq_iff_eq] at hfound
  have hmem : some dst.surface ∈ c.outputs_.map MappedEglFrame.surface :=
    hfound.1.2 ▸ List.mem_map_of_mem hmapped
  rw [h.surfaces_eq] at hmem
  obtain ⟨surface, hsurface, heq⟩ := List.mem_map.mp hmem
  exact hdst (Option.some.inj heq ▸ List.mem_map_of_mem hsurface)

/-- Preparing the outputs maps one surface after the other. -/
theorem prepareOutputs_owned {ids : List ℕ} {ok : Bool} {prepares : List PrepareAnswers}
    (howned : Owned c ids d) (houtputs : OutputsOf c.outputs_ surfaces)
    (hnodup : ((surfaces ++ rest).map NvBufSurface.surface).Nodup)
    (h : VideoConverter.prepareOutputs c d rest prepares = (ok, c', d')) :
    Owned c' ids d' ∧ (ok = true → OutputsOf c'.outputs_ (surfaces ++ rest)) := by
  induction rest generalizing c d surfaces prepares with
  | nil =>
    cases h
    rw [List.append_nil]
    exact ⟨howned, fun _ => houtputs⟩
  -- one surface of the pool after the other; a failure ends the loop
  | cons dst rest ih =>
    cases prepares with
    | nil =>
      cases h
      exact ⟨howned, nofun⟩
    | cons answers prepares =>
      simp only [VideoConverter.prepareOutputs] at h
      generalize hprepare : c.prepareOutput dst answers d = prepared at h
      obtain ⟨failure, c₁, d₁⟩ := prepared
      obtain ⟨howned₁, -, hcases⟩ := CudaYuv422Converter.prepareOutput_owned howned hprepare
      cases failure with
      | some f =>
        cases h
        exact ⟨howned₁, nofun⟩
      | none =>
        -- the surface is a new one, so it has been mapped
        have hnew : dst.surface ∉ surfaces.map NvBufSurface.surface := by
          rw [List.map_append, List.map_cons] at hnodup
          exact fun hmem => (List.nodup_append.mp hnodup).2.2 _ hmem _ List.mem_cons_self rfl
        have hnone := houtputs.findOutput_eq_none hnew
        rcases hcases with ⟨-, hfound⟩ | ⟨-, -, mapped, hmapOf, hout⟩
        · rw [hnone] at hfound
          exact absurd (hfound rfl) nofun
        · have houtputs₁ : OutputsOf c₁.outputs_ (surfaces ++ [dst]) := by
            rw [hout]
            exact List.rel_append houtputs (List.Forall₂.cons ⟨_, hmapOf⟩ List.Forall₂.nil)
          have hsplit : surfaces ++ dst :: rest = surfaces ++ [dst] ++ rest := by simp
          rw [hsplit] at hnodup ⊢
          exact ih howned₁ houtputs₁ hnodup h

/-- A pool whose surfaces are no longer mapped is destroyed as a whole. -/
theorem destroySurfaces_held {streams events : List ℕ}
    (h : Held [] streams events (surfaces.map NvBufSurface.surface) d) :
    Held [] streams events []
      (surfaces.foldl (fun d surface => d.nvBufSurfaceDestroy surface.surface) d) := by
  induction surfaces generalizing d with
  | nil => exact h
  | cons surface surfaces ih => exact ih (h.surfaceDestroy (by simp))

/-- Every surface that was made is held. -/
theorem createSurfaces_held (surfaces : List NvBufSurface) {ids : List ℕ}
    (h : Held [] [] [] ids d) : Held [] [] [] ((surfaces.map NvBufSurface.surface).reverse ++ ids)
      (surfaces.foldl (fun d surface => d.nvBufSurfaceCreate surface.surface) d) := by
  induction surfaces generalizing d ids with
  | nil => exact h
  | cons surface surfaces ih =>
    have hcreated : Held [] [] [] (surface.surface :: ids)
        (d.nvBufSurfaceCreate surface.surface) := h.surfaceCreate
    simpa using ih hcreated

end Outputs

/-! ## Runs -/

/-- What a converter that is up holds, and that one that is down holds nothing. -/
structure ConverterHeld (s : ConverterState) : Prop where
  up : ∀ c, s.converter.cuda_converter_ = some c →
    Owned c (s.converter.surfaces_.map NvBufSurface.surface) s.driver ∧
      OutputsOf c.outputs_ s.converter.surfaces_
  down : s.converter.cuda_converter_ = none →
    s.converter.surfaces_ = [] ∧ Held [] [] [] [] s.driver
  filled : ∀ surface ∈ s.converter.surfaces_, surface.numFilled = 1
  distinct : (s.converter.surfaces_.map NvBufSurface.surface).Nodup

/-- With nothing held the converter is down. -/
theorem converterHeld_down {d : CudaDriver} (h : Held [] [] [] [] d) :
    ConverterHeld ⟨{}, d⟩ where
  up := nofun
  down _ := ⟨rfl, h⟩
  filled := nofun
  distinct := List.nodup_nil

/-- Destroying the buffers gives back the outputs first, and the surfaces then. -/
theorem Owned.destroyBuffers {v : VideoConverter} {c : CudaYuv422Converter} {d : CudaDriver}
    (hup : v.cuda_converter_ = some c)
    (howned : Owned c (v.surfaces_.map NvBufSurface.surface) d) :
    Held [] [] [] [] (v.destroyBuffers d) := by
  unfold VideoConverter.destroyBuffers
  rw [hup]
  exact destroySurfaces_held (CudaYuv422Converter.reset_held howned)

/-- `initialize` leaves the whole pool mapped, or nothing. -/
theorem initializePool_held {buffer_pool_size : ℕ} {created : List NvBufSurface}
    {prepares : List PrepareAnswers} {d : CudaDriver} (h : Held [] [] [] [] d)
    (hcan : CanCreate created prepares d) :
    ConverterHeld ⟨(VideoConverter.initializePool buffer_pool_size created prepares d).1,
      (VideoConverter.initializePool buffer_pool_size created prepares d).2⟩ := by
  unfold VideoConverter.initializePool
  generalize hsurfaces : (created.take buffer_pool_size).map
    (fun surface => { surface with numFilled := 1 }) = surfaces
  have hids : surfaces.map NvBufSurface.surface =
      (created.take buffer_pool_size).map NvBufSurface.surface := by
    rw [← hsurfaces, List.map_map]
    rfl
  -- the driver makes surfaces that are not in use
  have hnodup : (surfaces.map NvBufSurface.surface).Nodup := by
    rw [hids]
    exact hcan.1.sublist ((List.take_sublist _ _).map _)
  have hcreated := createSurfaces_held surfaces h
  rw [List.append_nil] at hcreated
  have hheld := { hcreated with
    surfaces := hcreated.surfaces.trans (List.reverse_perm _) }
  simp only
  split
  · exact converterHeld_down (destroySurfaces_held hheld)
  · -- an output that cannot be prepared takes the whole pool down
    generalize hprepare : VideoConverter.prepareOutputs {} _ surfaces prepares = prepared
    obtain ⟨ok, c, d'⟩ := prepared
    have hunused : Owned {} (surfaces.map NvBufSurface.surface) _ := ⟨hheld, by simp⟩
    have hempty : OutputsOf ({} : CudaYuv422Converter).outputs_ [] := List.Forall₂.nil
    obtain ⟨howned, houtputs⟩ := prepareOutputs_owned hunused hempty hnodup hprepare
    cases ok with
    | true =>
      refine ⟨fun c' hc' => ?_, nofun, fun surface hmem => ?_, hnodup⟩
      · cases hc'
        exact ⟨howned, houtputs rfl⟩
      · have hmem' : surface ∈ surfaces := hmem
        rw [← hsurfaces] at hmem'
        obtain ⟨_, -, rfl⟩ := List.mem_map.mp hmem'
        rfl
    | false =>
      exact converterHeld_down
        (Owned.destroyBuffers (v := { surfaces_ := surfaces, cuda_converter_ := some c }) rfl
          howned)

/-- Every call keeps the invariant. -/
theorem converterHeld_step {s s' : ConverterState} {move : ConverterMove}
    (h : ConverterHeld s) (hstep : s.step move = some s') : ConverterHeld s' := by
  cases move with
  | initializePool buffer_pool_size created prepares =>
    simp only [ConverterState.step] at hstep
    split at hstep
    · cases hstep
    · rename_i hguard
      cases hstep
      rw [not_or, not_not, Option.not_isSome_iff_eq_none] at hguard
      exact initializePool_held (h.down hguard.1).2 hguard.2
  | transformSync src_surf out_idx answers =>
    simp only [ConverterState.step, VideoConverter.transformSync] at hstep
    split at hstep
    · rename_i c dst hup hdst
      cases hstep
      obtain ⟨howned, houtputs⟩ := h.up c hup
      generalize hconvert : c.convert { src_surf with numFilled := 1 } dst answers s.driver =
        converted
      obtain ⟨failure, c', d'⟩ := converted
      obtain ⟨howned', hcases⟩ := CudaYuv422Converter.convert_owned howned hconvert
      have hmem : dst ∈ s.converter.surfaces_ := List.mem_of_getElem? hdst
      have hfound := houtputs.findOutput_isSome hmem (h.filled dst hmem)
      -- the output has been prepared before, so no other one is mapped
      have hout : c'.outputs_ = c.outputs_ := by
        rcases hcases with rfl | ⟨f, d₁, hprepare⟩
        · rfl
        · obtain ⟨-, -, hkept⟩ := CudaYuv422Converter.prepareOutput_owned howned hprepare
          rcases hkept with ⟨hsame, -⟩ | ⟨-, hnone, -⟩
          · exact hsame
          · rw [hnone] at hfound
            exact absurd hfound nofun
      refine ⟨fun c₂ hc₂ => ?_, nofun, h.filled, h.distinct⟩
      cases hc₂
      exact ⟨howned', by rw [hout]; exact houtputs⟩
    · cases hstep
      exact h
  -- destroying twice does nothing the second time
  | destroyBuffers =>
    cases hstep
    cases hup : s.converter.cuda_converter_ with
    | some c => exact converterHeld_down (Owned.destroyBuffers hup (h.up c hup).1)
    | none =>
      obtain ⟨hsurfaces, hheld⟩ := h.down hup
      refine converterHeld_down ?_
      unfold VideoConverter.destroyBuffers
      rw [hup, hsurfaces]
      exact hheld

/-- A driver of which nothing is held. -/
def CudaDriver.unused (memory : ℤ → UInt8) : CudaDriver where
  egl_maps _ := 0
  registered := []
  streams := []
  events := []
  surfaces := []
  next := 1
  misused := false
  memory := memory

/-- An unused driver holds nothing. -/
theorem held_unused (memory : ℤ → UInt8) : Held [] [] [] [] (CudaDriver.unused memory) :=
  ⟨fun _ => rfl, List.Perm.nil, rfl, rfl, List.Perm.nil, rfl⟩

/-- Each surface of the pool is mapped once. -/
theorem OutputsOf.countP {outputs : List MappedEglFrame} {surfaces : List NvBufSurface}
    (h : OutputsOf outputs surfaces) (n : ℕ) :
    outputs.countP (fun mapped => mapped.surface == some n) =
      (surfaces.map NvBufSurface.surface).count n := by
  unfold OutputsOf at h
  induction h with
  | nil => rfl
  | cons hhead _ ih =>
    obtain ⟨frame, hmap⟩ := hhead
    rw [List.countP_cons, List.map_cons, List.count_cons, ih, hmap.surface]
    simp

/-- And registered once. -/
theorem OutputsOf.length_resources {outputs : List MappedEglFrame}
    {surfaces : List NvBufSurface} (h : OutputsOf outputs surfaces) :
    (outputs.filterMap MappedEglFrame.resource).length = surfaces.length := by
  unfold OutputsOf at h
  induction h with
  | nil => rfl
  | cons hhead _ ih =>
    obtain ⟨frame, hmap⟩ := hhead
    obtain ⟨resource, hresource⟩ := Option.isSome_iff_exists.mp hmap.resource
    rw [List.filterMap_cons_some hresource, List.length_cons, ih, List.length_cons]

/-- In every state of every run, whatever the driver answered, no call went to something that
was not held. The surfaces of the pool are mapped and registered once, no other surface is
mapped, and nothing is held when the converter is down. -/
theorem converter_run_holds {memory : ℤ → UInt8} {s : ConverterState}
    {moves : List ConverterMove}
    (hrun : runSteps ConverterState.step ⟨{}, CudaDriver.unused memory⟩ moves = some s) :
    s.driver.misused = false ∧
      (∀ n, s.driver.egl_maps n =
        if n ∈ s.converter.surfaces_.map NvBufSurface.surface then 1 else 0) ∧
      s.driver.surfaces.Perm (s.converter.surfaces_.map NvBufSurface.surface) ∧
      s.driver.registered.length = s.converter.surfaces_.length ∧
      s.driver.streams.length ≤ 1 ∧ s.driver.events.length = s.driver.streams.length ∧
      (s.converter.cuda_converter_ = none →
        s.converter.surfaces_ = [] ∧ s.driver.streams = []) := by
  have hheld : ConverterHeld s :=
    runSteps_invariant (fun _ _ _ h hstep => converterHeld_step h hstep)
      (converterHeld_down (held_unused memory)) hrun
  cases hup : s.converter.cuda_converter_ with
  | none =>
    obtain ⟨hsurfaces, hdown⟩ := hheld.down hup
    have hreg : s.driver.registered = [] := List.perm_nil.mp hdown.registered
    rw [hsurfaces]
    refine ⟨hdown.used_well, fun n => ?_, hdown.surfaces, ?_, ?_, ?_, fun _ => ⟨rfl, ?_⟩⟩
    · rw [hdown.maps n]
      rfl
    · rw [hreg]
      rfl
    · rw [hdown.streams]
      exact Nat.zero_le 1
    · rw [hdown.streams, hdown.events]
    · exact hdown.streams
  | some c =>
    obtain ⟨howned, houtputs⟩ := hheld.up c hup
    refine ⟨howned.held.used_well, fun n => ?_, howned.held.surfaces, ?_, ?_, ?_, nofun⟩
    · rw [howned.held.maps n, houtputs.countP n]
      split
      · rename_i hmem
        exact List.count_eq_one_of_mem hheld.distinct hmem
      · rename_i hmem
        exact List.count_eq_zero_of_not_mem hmem
    · rw [howned.held.registered.length_eq, houtputs.length_resources]
    · rw [howned.held.streams]
      cases c.stream_ <;> simp
    · rw [howned.held.streams, howned.held.events]
      have htogether := howned.together
      cases hs : c.stream_ with
      | none => rw [htogether.mp hs]
      | some stream =>
        cases he : c.done_event_ with
        | none => exact absurd (htogether.mpr he) (by rw [hs]; nofun)
        | some event => rfl

/-- A surface of two by two pixels. -/
def smallSurface (surface : ℕ) (format : NvBufColorFormat) (num_planes : UInt32) :
    NvBufSurface where
  surface := surface
  numFilled := 1
  bufferDesc := surface
  colorFormat := format
  layout := .pitch
  planeParams := ⟨num_planes, fun _ => 2, fun _ => 2, fun _ => 256⟩

/-- A driver that maps a surface at an address and refuses nothing. -/
def acceptingMap (base : ℤ) : MapAnswers :=
  ⟨0, true, 0, 0, ⟨.pitch, 2, fun plane => base + 1000 * plane⟩⟩

def acceptingPrepare (base : ℤ) : PrepareAnswers := ⟨0, 0, 0, acceptingMap base⟩

/-- A pool of one surface, a conversion whose launch is refused, and the end. -/
theorem converter_run_holds_small :
    ∃ s, runSteps ConverterState.step ⟨{}, CudaDriver.unused fun _ => 0⟩
        [.initializePool 1 [smallSurface 7 .nv12 2] [acceptingPrepare 3000],
          .transformSync (smallSurface 8 .yuyv 1) 0
            ⟨acceptingPrepare 0, acceptingMap 1000, ⟨[], [], 9, 0, 0⟩⟩] = some s ∧
      s.driver.misused = false ∧ s.driver.egl_maps 7 = 1 ∧ s.driver.egl_maps 8 = 0 := by
  refine ⟨_, rfl, ?_⟩
  obtain ⟨hused, hmaps, -⟩ := @converter_run_holds (fun _ => 0) _
    [.initializePool 1 [smallSurface 7 .nv12 2] [acceptingPrepare 3000],
      .transformSync (smallSurface 8 .yuyv 1) 0
        ⟨acceptingPrepare 0, acceptingMap 1000, ⟨[], [], 9, 0, 0⟩⟩] rfl
  exact ⟨hused, hmaps 7, hmaps 8⟩

end TeleopBridge.Video
