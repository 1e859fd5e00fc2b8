import Mathlib.Data.List.Perm.Basic
import TeleopBridge.Support.Holders
import TeleopBridge.Support.Transition
import TeleopBridge.Video.V4l2Capturer

/-!
# Where the Capture Buffers Are

Every buffer that `start` queued is in one place: in the driver, with the frame of the capture
thread, lost, or dropped by `VIDIOC_STREAMOFF`. What the capturer took of the kernel it gives
back when it is stopped, and a frame stays mapped while the capture thread has it, even if the
capturer is interrupted in between.

## Key Result

`capturer_run_holds`: this, in every state of every run.
-/

namespace TeleopBridge.Video

open Support

/-! ## Lists of buffers -/

/-- An entry that gave nothing is overwritten. -/
theorem filterMap_set_perm {α β : Type*} {f : α → Option β} {l : List α} {n : ℕ} {old : α}
    (hold : l[n]? = some old) (hnone : f old = none) (new : α) :
    ((l.set n new).filterMap f).Perm ((f new).toList ++ l.filterMap f) := by
  obtain ⟨hn, rfl⟩ := List.getElem?_eq_some_iff.mp hold
  -- without the old entry, which gave nothing, the values are the same
  have hrest : ((l.eraseIdx n).filterMap f).Perm (l.filterMap f) := by
    have hsplit := (List.getElem_cons_eraseIdx_perm hn).filterMap f
    rwa [List.filterMap_cons_none hnone] at hsplit
  refine ((List.set_perm_cons_eraseIdx hn new).filterMap f).trans ?_
  cases hnew : f new with
  | none => rwa [List.filterMap_cons_none hnew]
  | some b =>
    rw [List.filterMap_cons_some hnew]
    exact hrest.cons b

namespace CaptureKernel

variable {k : CaptureKernel} {starts surfaces : List ℕ} {b : CamBuffer}

/-- A buffer gives back what it has. -/
theorem release_perm (hstarts : k.mappings.Perm (b.start.toList ++ starts))
    (hsurfaces : k.surfaces.Perm (b.surface.toList ++ surfaces)) :
    (k.release b).mappings.Perm starts ∧ (k.release b).surfaces.Perm surfaces ∧
      (k.release b).misused = k.misused ∧ (k.release b).open_fds = k.open_fds := by
  have hmap : ∀ start, b.start = some start → start ∈ k.mappings ∧
      (k.mappings.erase start).Perm starts := by
    intro start hstart
    rw [hstart] at hstarts
    refine ⟨hstarts.mem_iff.mpr List.mem_cons_self, ?_⟩
    simpa using hstarts.erase start
  have hsurface : ∀ surface, b.surface = some surface → surface ∈ k.surfaces ∧
      (k.surfaces.erase surface).Perm surfaces := by
    intro surface heq
    rw [heq] at hsurfaces
    refine ⟨hsurfaces.mem_iff.mpr List.mem_cons_self, ?_⟩
    simpa using hsurfaces.erase surface
  unfold release
  -- a mapping and a surface, each there or not
  cases hs : b.start with
  | none =>
    rw [hs] at hstarts
    cases hf : b.surface with
    | none =>
      rw [hf] at hsurfaces
      exact ⟨hstarts, hsurfaces, rfl, rfl⟩
    | some surface =>
      obtain ⟨hmem, hperm⟩ := hsurface surface hf
      simp only [nvBufSurfaceDestroy, if_pos hmem]
      exact ⟨hstarts, hperm, trivial, trivial⟩
  | some start =>
    obtain ⟨hmem, hperm⟩ := hmap start hs
    simp only [munmap, if_pos hmem]
    cases hf : b.surface with
    | none =>
      rw [hf] at hsurfaces
      exact ⟨hperm, hsurfaces, rfl, rfl⟩
    | some surface =>
      obtain ⟨hmem', hperm'⟩ := hsurface surface hf
      simp only [nvBufSurfaceDestroy, if_pos hmem']
      exact ⟨hperm, hperm', trivial, trivial⟩

/-- The release of all buffers gives back every mapping and every surface, each once. -/
theorem foldl_release {buffers : List CamBuffer}
    (hstarts : k.mappings.Perm (buffers.filterMap CamBuffer.start))
    (hsurfaces : k.surfaces.Perm (buffers.filterMap CamBuffer.surface)) :
    (buffers.foldl release k).mappings = [] ∧ (buffers.foldl release k).surfaces = [] ∧
      (buffers.foldl release k).misused = k.misused ∧
      (buffers.foldl release k).open_fds = k.open_fds := by
  induction buffers generalizing k with
  | nil => exact ⟨hstarts.eq_nil, hsurfaces.eq_nil, rfl, rfl⟩
  | cons b buffers ih =>
    have hsplit {f : CamBuffer → Option ℕ} :
        (b :: buffers).filterMap f = (f b).toList ++ buffers.filterMap f := by
      cases hf : f b with
      | none => rw [List.filterMap_cons_none hf, Option.toList_none, List.nil_append]
      | some x => rw [List.filterMap_cons_some hf, Option.toList_some, List.singleton_append]
    rw [hsplit] at hstarts hsurfaces
    obtain ⟨hstarts, hsurfaces, hmisused, hfds⟩ := release_perm hstarts hsurfaces
    obtain ⟨hmappings, hnone, hsame, hopen⟩ := ih hstarts hsurfaces
    exact ⟨hmappings, hnone, hsame.trans hmisused, hopen.trans hfds⟩

end CaptureKernel

/-! ## The invariant -/

/-- The buffer that the capture thread has. -/
def CaptureStage.index : CaptureStage → Option ℕ
  | .holding frame => some frame.index
  | .out => none
  | .polling _ => none
  | .dequeuing _ => none

namespace CapturerRun

variable {r r' : CapturerRun} {fd index : ℕ}

/-- In how many places a buffer is. -/
def places (r : CapturerRun) (i : ℕ) : ℕ :=
  heldBy some r.kernel.queue i + tokens r.stage.index i +
    heldBy (fun loss => some loss.index) r.lost i + heldBy some r.dropped i

/-- A buffer that was queued has the memory of its mode. -/
def Backed (r : CapturerRun) (i : ℕ) : Prop :=
  ∃ b, r.buffers_[i]? = some b ∧ (r.memory_mode = .kMmap → b.start ≠ none) ∧
    (r.memory_mode = .kDmaBuf → b.surface ≠ none)

/-- What the capture thread relies on. -/
def Relies (r : CapturerRun) : CaptureStage → Prop
  | .out => True
  | .polling fd => r.cam_fd_ = some fd
  | .dequeuing fd => r.cam_fd_ = some fd
  | .holding frame => r.frameOf frame.index frame.bytesused = some frame

/-- The buffer came back without data; a surface counts with its size. -/
def WithoutData (r : CapturerRun) (i bytesused : ℕ) : Prop :=
  bytesused = 0 ∧ (r.memory_mode = .kDmaBuf → ∃ b, r.buffers_[i]? = some b ∧ b.length = 0)

/-- `NvBufSurfaceCreate` gave the buffer a negative `bufferDesc`, with which the driver queued it;
`dequeue` takes it for uninitialized, whatever data it has. -/
def WithoutDescriptor (r : CapturerRun) (i : ℕ) : Prop :=
  r.memory_mode = .kDmaBuf ∧ ∃ b, r.buffers_[i]? = some b ∧ b.dmabuf_fd < 0

/-- Why a buffer is lost: there was nothing to take, or `VIDIOC_QBUF` was made and refused. -/
def Explained (r : CapturerRun) : BufferLoss → Prop
  | .dequeued i bytesused => r.WithoutData i bytesused ∨ r.WithoutDescriptor i
  | .requeued _ answer => answer = some false

/-- What the capturer has of the kernel. -/
structure Owned (r : CapturerRun) : Prop where
  used_well : r.kernel.misused = false
  fds : r.kernel.open_fds = r.cam_fd_.toList
  mappings : r.kernel.mappings.Perm (r.buffers_.filterMap CamBuffer.start)
  surfaces : r.kernel.surfaces.Perm (r.buffers_.filterMap CamBuffer.surface)
  closed : r.cam_fd_ = none → r.buffers_ = []

/-- The invariant of the capturer. -/
structure Kept (r : CapturerRun) : Prop where
  owned : r.Owned
  relies : r.Relies r.stage
  places : ∀ i, r.places i = heldBy some r.entered i
  entered_nodup : r.entered.Nodup
  backed : ∀ i ∈ r.entered, r.Backed i
  explained : ∀ loss ∈ r.lost, r.Explained loss

/-- A new capturer has nothing. -/
theorem kept_initial : Kept {} where
  owned := ⟨rfl, rfl, List.Perm.nil, List.Perm.nil, fun _ => rfl⟩
  relies := trivial
  places _ := rfl
  entered_nodup := List.nodup_nil
  backed _ h := absurd h List.not_mem_nil
  explained _ h := absurd h List.not_mem_nil

theorem relies_of_out (r : CapturerRun) {stage : CaptureStage} (hout : stage = .out) :
    r.Relies stage := by
  rw [hout]
  trivial

/-- A call on the open device is a proper use of it. -/
theorem use_eq (h : r.Owned) (hfd : r.cam_fd_ = some fd) : r.use fd = r := by
  have hmem : fd ∈ r.kernel.open_fds := by
    rw [h.fds, hfd]
    exact List.mem_cons_self
  simp only [use, CaptureKernel.use, if_pos hmem]

/-- A buffer that is somewhere was queued. -/
theorem Kept.entered_of_place (h : r.Kept) {i : ℕ} (hi : 0 < r.places i) : i ∈ r.entered := by
  rw [h.places i] at hi
  obtain ⟨j, hj, heq⟩ := exists_holder hi
  cases heq
  exact hj

/-- A buffer is in one place at most. -/
theorem Kept.places_le_one (h : r.Kept) (i : ℕ) : r.places i ≤ 1 := by
  rw [h.places i]
  exact heldBy_some_le_one h.entered_nodup i

/-- A capturer that queued nothing. -/
theorem Kept.of_entered_nil (howned : r.Owned) (hrelies : r.Relies r.stage)
    (hplaces : ∀ i, r.places i = 0) (hentered : r.entered = []) (hlost : r.lost = []) :
    r.Kept where
  owned := howned
  relies := hrelies
  places i := by rw [hplaces i, hentered, heldBy_nil]
  entered_nodup := hentered.symm ▸ List.nodup_nil
  backed i hi := by
    rw [hentered] at hi
    cases hi
  explained loss hloss := by
    rw [hlost] at hloss
    cases hloss

/-- Without a buffer nothing was queued, and nothing is anywhere. -/
theorem Kept.nothing (h : r.Kept) (hnone : r.buffers_ = []) :
    r.entered = [] ∧ r.lost = [] ∧ ∀ i, r.places i = 0 := by
  have hentered : r.entered = [] := by
    refine List.eq_nil_iff_forall_not_mem.mpr fun i hi => ?_
    obtain ⟨b, hb, -⟩ := h.backed i hi
    rw [hnone] at hb
    cases hb
  have hplaces : ∀ i, r.places i = 0 := by
    intro i
    rw [h.places i, hentered, heldBy_nil]
  refine ⟨hentered, List.eq_nil_iff_forall_not_mem.mpr fun loss hloss => ?_, hplaces⟩
  -- a lost buffer would have a place
  have hpos : 0 < heldBy (fun loss => some loss.index) r.lost loss.index :=
    heldBy_pos hloss rfl
  have hzero := hplaces loss.index
  simp only [CapturerRun.places] at hzero
  omega

/-! ## Opening and closing -/

/-- What closing leaves in the kernel: the buffers released, the descriptor gone, the queue dropped.
-/
theorem kernel_closeDevice (h : r.Owned) (hfd : r.cam_fd_ = some fd) :
    r.closeDevice.kernel = { r.buffers_.foldl CaptureKernel.release r.kernel with
      open_fds := [], queue := [], streaming := false } := by
  have hused := congrArg CapturerRun.kernel (use_eq h hfd)
  simp only [use] at hused
  have hfds : r.kernel.open_fds = [fd] := by
    rw [h.fds, hfd]
    rfl
  obtain ⟨-, -, -, hopen⟩ := CaptureKernel.foldl_release h.mappings h.surfaces
  simp only [CapturerRun.closeDevice, hfd]
  rw [hused, ite_self, CaptureKernel.close, hopen, hfds, if_pos List.mem_cons_self,
    List.erase_cons_head]

/-- `closeDevice` gives everything back, with no call on what is not there. -/
theorem Owned.closeDevice (h : r.Owned) :
    r.closeDevice.Owned ∧ (r.cam_fd_ ≠ none → r.closeDevice.kernel.queue = []) ∧
      (r.cam_fd_ = none → r.closeDevice.kernel = r.kernel) := by
  cases hfd : r.cam_fd_ with
  | none =>
    -- a capturer without a device has nothing to give back
    have hkernel : r.closeDevice.kernel = r.kernel := by
      simp only [CapturerRun.closeDevice, hfd, h.closed hfd, List.foldl_nil]
    have hmappings := h.mappings
    have hsurfaces := h.surfaces
    rw [h.closed hfd] at hmappings hsurfaces
    refine ⟨⟨?_, ?_, ?_, ?_, fun _ => rfl⟩, fun hopen => absurd rfl hopen, fun _ => hkernel⟩
    · rw [hkernel, h.used_well]
    · rw [hkernel, h.fds, hfd]
      rfl
    · rw [hkernel]
      exact hmappings
    · rw [hkernel]
      exact hsurfaces
  | some fd =>
    have hkernel := kernel_closeDevice h hfd
    obtain ⟨hmappings, hsurfaces, hmisused, -⟩ :=
      CaptureKernel.foldl_release h.mappings h.surfaces
    refine ⟨⟨?_, ?_, ?_, ?_, fun _ => rfl⟩, fun _ => ?_, fun hnone => nomatch hnone⟩
    · rw [hkernel]
      exact hmisused.trans h.used_well
    · rw [hkernel]
      rfl
    · rw [hkernel]
      exact List.Perm.of_eq hmappings
    · rw [hkernel]
      exact List.Perm.of_eq hsurfaces
    · rw [hkernel]

theorem Kept.closeDevice (h : r.Kept) (hstage : r.stage = .out) : r.closeDevice.Kept := by
  obtain ⟨howned, hopen, hclosed⟩ := h.owned.closeDevice
  refine Kept.of_entered_nil howned ?_ (fun i => ?_) rfl rfl
  · exact relies_of_out _ hstage
  · -- the queue is the only place that closing does not empty by itself
    have hqueue : heldBy some r.closeDevice.kernel.queue i = 0 := by
      cases hfd : r.cam_fd_ with
      | none =>
        have hzero := (h.nothing (h.owned.closed hfd)).2.2 i
        rw [hclosed hfd]
        simp only [CapturerRun.places] at hzero
        omega
      | some fd =>
        rw [hopen (by rw [hfd]; exact Option.some_ne_none fd), heldBy_nil]
    have hindex : r.closeDevice.stage.index = none := by
      show r.stage.index = none
      rw [hstage]
      rfl
    simp only [CapturerRun.places, hqueue, hindex]
    rfl

theorem Kept.initializeDevice {memory_mode : MemoryMode} {answers : OpenAnswers} (h : r.Kept)
    (hstage : r.stage = .out) (hnone : r.cam_fd_ = none) :
    (r.initializeDevice memory_mode answers).2.Kept := by
  have hbuffers := h.owned.closed hnone
  obtain ⟨hentered, hlost, hplaces⟩ := h.nothing hbuffers
  unfold CapturerRun.initializeDevice
  cases hfd : answers.fd with
  | none =>
    refine Kept.of_entered_nil ⟨h.owned.used_well, h.owned.fds, h.owned.mappings,
      h.owned.surfaces, h.owned.closed⟩ ?_ hplaces hentered hlost
    exact relies_of_out _ hstage
  | some fd =>
    -- the device is open, and nothing else is there
    have hopen : Kept { r with
        memory_mode := memory_mode
        yuyv := false
        cam_fd_ := some fd
        kernel := { r.kernel with open_fds := fd :: r.kernel.open_fds } } := by
      refine Kept.of_entered_nil ⟨h.owned.used_well, ?_, h.owned.mappings, h.owned.surfaces,
        fun hclosed => nomatch hclosed⟩ ?_ hplaces hentered hlost
      · show fd :: r.kernel.open_fds = [fd]
        rw [h.owned.fds, hnone]
        rfl
      · exact relies_of_out _ hstage
    simp only
    rw [use_eq hopen.owned rfl]
    cases answers.configured with
    | none => exact hopen.closeDevice hstage
    | some yuyv =>
      refine Kept.of_entered_nil ⟨hopen.owned.used_well, hopen.owned.fds, hopen.owned.mappings,
        hopen.owned.surfaces, hopen.owned.closed⟩ ?_ hplaces hentered hlost
      exact relies_of_out _ hstage

/-! ## Requesting buffers -/

/-- A buffer with what the kernel gave for it. -/
def withBuffer (r : CapturerRun) (index : ℕ) (b : CamBuffer) : CapturerRun :=
  { r with
    buffers_ := r.buffers_.set index b
    kernel := { r.kernel with
      mappings := b.start.toList ++ r.kernel.mappings
      surfaces := b.surface.toList ++ r.kernel.surfaces } }

/-- `start` asks for buffers and is at one of them; the next ones are still empty. -/
structure Requesting (r : CapturerRun) (fd index count : ℕ) : Prop where
  kept : r.Kept
  device : r.cam_fd_ = some fd
  out : r.stage = .out
  nothing_lost : r.lost = []
  entered_lt : ∀ i ∈ r.entered, i < index
  fresh : ∀ i, index ≤ i → i < index + count → r.buffers_[i]? = some {}

variable {count : ℕ} {b : CamBuffer}

theorem Requesting.withBuffer (h : Requesting r fd index (count + 1)) (b : CamBuffer) :
    (r.withBuffer index b).Kept := by
  have hfresh := h.fresh index (Nat.le_refl index) (by omega)
  have howned := h.kept.owned
  have hbacked : ∀ i ∈ r.entered, (r.withBuffer index b).Backed i := by
    intro i hi
    obtain ⟨other, hother, hmmap, hdmabuf⟩ := h.kept.backed i hi
    refine ⟨other, ?_, hmmap, hdmabuf⟩
    -- what was queued is before the index
    have hne : index ≠ i := Nat.ne_of_gt (h.entered_lt i hi)
    exact (List.getElem?_set_ne hne).trans hother
  exact {
    owned := {
      used_well := howned.used_well
      fds := howned.fds
      mappings := (howned.mappings.append_left b.start.toList).trans
        (filterMap_set_perm hfresh rfl b).symm
      surfaces := (howned.surfaces.append_left b.surface.toList).trans
        (filterMap_set_perm hfresh rfl b).symm
      closed := fun hnone => by
        have hdevice : r.cam_fd_ = none := hnone
        rw [h.device] at hdevice
        cases hdevice }
    relies := relies_of_out _ h.out
    places := h.kept.places
    entered_nodup := h.kept.entered_nodup
    backed := hbacked
    explained := fun loss hloss => by
      have hlost : loss ∈ r.lost := hloss
      rw [h.nothing_lost] at hlost
      cases hlost }

/-- The buffer is queued, and the loop goes on. -/
theorem Requesting.enter (h : Requesting r fd index (count + 1))
    (hmmap : r.memory_mode = .kMmap → b.start ≠ none)
    (hdmabuf : r.memory_mode = .kDmaBuf → b.surface ≠ none) :
    Requesting ((r.withBuffer index b).enter index) fd (index + 1) count := by
  have hkept := h.withBuffer b
  have hlt : index < r.buffers_.length :=
    (List.getElem?_eq_some_iff.mp (h.fresh index (Nat.le_refl index) (by omega))).1
  have hnew : index ∉ r.entered := fun hmem => Nat.lt_irrefl index (h.entered_lt index hmem)
  refine ⟨⟨⟨hkept.owned.used_well, hkept.owned.fds, hkept.owned.mappings, hkept.owned.surfaces,
    hkept.owned.closed⟩, ?_, fun i => ?_, ?_, fun i hi => ?_, hkept.explained⟩,
    h.device, h.out, h.nothing_lost, fun i hi => ?_, fun i hle hlt => ?_⟩
  · exact relies_of_out _ h.out
  · -- it is in the queue now
    have hplaces := h.kept.places i
    simp only [CapturerRun.places] at hplaces
    simp only [CapturerRun.places, CapturerRun.enter, CapturerRun.withBuffer, heldBy_concat]
    omega
  · show (r.entered ++ [index]).Nodup
    exact List.nodup_append.mpr ⟨h.kept.entered_nodup, List.nodup_singleton index,
      fun i hi j hj heq => hnew (List.mem_singleton.mp hj ▸ heq ▸ hi)⟩
  · rcases List.mem_append.mp hi with hi | hi
    · exact hkept.backed i hi
    · rw [List.mem_singleton.mp hi]
      exact ⟨b, List.getElem?_set_self hlt, hmmap, hdmabuf⟩
  · rcases List.mem_append.mp hi with hi | hi
    · exact Nat.lt_succ_of_lt (h.entered_lt i hi)
    · rw [List.mem_singleton.mp hi]
      exact Nat.lt_succ_self index
  · have hne : index ≠ i := by omega
    exact (List.getElem?_set_ne hne).trans (h.fresh i (by omega) (by omega))

/-- A request for buffers leaves the device open, and the capture thread in no call. -/
structure Requested (r : CapturerRun) (fd : ℕ) : Prop where
  kept : r.Kept
  device : r.cam_fd_ = some fd
  out : r.stage = .out

variable {answers : List BufferAnswer}

/-- The loop over the mapped buffers maps and queues one after the other, and stops at the first
failure. -/
theorem Requesting.requestMmapBuffers (h : Requesting r fd index answers.length)
    (hmode : r.memory_mode = .kMmap) :
    Requested (r.requestMmapBuffers fd answers index).2 fd := by
  induction answers generalizing r index with
  | nil => exact ⟨h.kept, h.device, h.out⟩
  | cons answer answers ih =>
    unfold CapturerRun.requestMmapBuffers
    simp only
    rw [use_eq h.kept.owned h.device]
    cases hlength : answer.querybuf with
    | none => exact ⟨h.kept, h.device, h.out⟩
    | some length =>
      cases hstart : answer.mmap with
      | none => exact ⟨h.withBuffer { length := length }, h.device, h.out⟩
      | some start =>
        have hmapped := h.withBuffer { start := some start, length := length }
        have hmap : r.mapBuffer index length start =
            r.withBuffer index { start := some start, length := length } := rfl
        simp only
        rw [hmap, use_eq hmapped.owned h.device]
        cases answer.qbuf with
        | false => exact ⟨hmapped, h.device, h.out⟩
        | true =>
          -- mapped and queued: the loop goes on with the next index
          refine ih (h.enter (fun _ => Option.some_ne_none start) fun hdmabuf => ?_) hmode
          rw [hmode] at hdmabuf
          cases hdmabuf

/-- The loop over the DMA buffers creates and queues one after the other, likewise. -/
theorem Requesting.requestDmaBufBuffers (h : Requesting r fd index answers.length)
    (hmode : r.memory_mode = .kDmaBuf) :
    Requested (r.requestDmaBufBuffers fd answers index).2 fd := by
  induction answers generalizing r index with
  | nil => exact ⟨h.kept, h.device, h.out⟩
  | cons answer answers ih =>
    unfold CapturerRun.requestDmaBufBuffers
    simp only
    cases hsurface : answer.surface with
    | none => exact ⟨h.kept, h.device, h.out⟩
    | some given =>
      obtain ⟨surface, dmabuf_fd, length⟩ := given
      have hcreated := h.withBuffer
        { surface := some surface, dmabuf_fd := dmabuf_fd, length := length }
      have hcreate : r.createSurface index surface dmabuf_fd length = r.withBuffer index
          { surface := some surface, dmabuf_fd := dmabuf_fd, length := length } := rfl
      simp only
      rw [hcreate, use_eq hcreated.owned h.device]
      cases answer.qbuf with
      | false => exact ⟨hcreated, h.device, h.out⟩
      | true =>
        -- created and queued
        refine ih (h.enter (fun hmmap => ?_) fun _ => Option.some_ne_none surface) hmode
        rw [hmode] at hmmap
        cases hmmap

theorem Kept.requestBuffers (h : r.Kept) (hdevice : r.cam_fd_ = some fd)
    (hout : r.stage = .out) (reqbufs : Option (List BufferAnswer)) :
    Requested (r.requestBuffers fd reqbufs).2 fd := by
  unfold CapturerRun.requestBuffers
  split_ifs with hbuffers hformat
  · exact ⟨h, hdevice, hout⟩
  · exact ⟨h, hdevice, hout⟩
  · simp only
    rw [use_eq h.owned hdevice]
    have hnone : r.buffers_ = [] := not_not.mp hbuffers
    obtain ⟨hentered, hlost, hplaces⟩ := h.nothing hnone
    split
    · exact ⟨h, hdevice, hout⟩
    · exact ⟨h, hdevice, hout⟩
    · rename_i answers _
      -- the buffers are there, and still empty
      have hreplicate {f : CamBuffer → Option ℕ} (hempty : f {} = none) :
          (List.replicate answers.length ({} : CamBuffer)).filterMap f = [] :=
        List.filterMap_replicate_of_none hempty
      have hmappings := h.owned.mappings
      have hsurfaces := h.owned.surfaces
      rw [hnone] at hmappings hsurfaces
      have hrequesting : Requesting
          { r with buffers_ := List.replicate answers.length {} } fd 0 answers.length := by
        refine ⟨Kept.of_entered_nil ⟨h.owned.used_well, h.owned.fds, ?_, ?_, fun hclosed => ?_⟩
          ?_ hplaces hentered hlost, hdevice, hout, hlost, fun i hi => ?_, fun i _ hlt => ?_⟩
        · rw [hreplicate rfl]
          exact hmappings
        · rw [hreplicate rfl]
          exact hsurfaces
        · have hopen : r.cam_fd_ = none := hclosed
          rw [hdevice] at hopen
          cases hopen
        · exact relies_of_out _ hout
        · have hmem : i ∈ r.entered := hi
          rw [hentered] at hmem
          cases hmem
        · exact List.getElem?_replicate_of_lt (by omega)
      split
      · rename_i hmode
        exact hrequesting.requestMmapBuffers hmode
      · rename_i hmode
        exact hrequesting.requestDmaBufBuffers hmode

theorem Kept.start {answers : CaptureStartAnswers} (h : r.Kept) (hout : r.stage = .out) :
    (r.start answers).2.Kept := by
  unfold CapturerRun.start
  by_cases hrunning : r.running_
  · rw [if_pos hrunning]
    exact h
  · rw [if_neg hrunning]
    cases hdevice : r.cam_fd_ with
    | none => exact h
    | some fd =>
      have hrequested := h.requestBuffers hdevice hout answers.reqbufs
      simp only
      rw [use_eq hrequested.kept.owned hrequested.device]
      split_ifs
      · exact hrequested.kept
      · exact hrequested.kept
      · -- the stream is on, which the buffers do not see
        obtain ⟨⟨howned, hrelies, hplaces, hnodup, hbacked, hexplained⟩, -, hstage⟩ := hrequested
        refine ⟨⟨howned.used_well, howned.fds, howned.mappings, howned.surfaces, howned.closed⟩,
          ?_, hplaces, hnodup, hbacked, hexplained⟩
        exact relies_of_out _ hstage

/-! ## Frames -/

/-- The end of the stream gives the queued buffers back to the program. -/
theorem Kept.streamOff {answer : Bool} (h : r.Kept) : (r.streamOff answer).Kept := by
  unfold CapturerRun.streamOff
  cases hdevice : r.cam_fd_ with
  | none => exact h
  | some fd =>
    simp only
    rw [use_eq h.owned hdevice]
    cases answer with
    | false => exact h
    | true =>
      refine ⟨⟨h.owned.used_well, h.owned.fds, h.owned.mappings, h.owned.surfaces,
        h.owned.closed⟩, h.relies, fun i => ?_, h.entered_nodup, h.backed, h.explained⟩
      -- the queued buffers are dropped
      have hplaces := h.places i
      simp only [CapturerRun.places] at hplaces
      simp only [CapturerRun.places, if_true, heldBy_append, heldBy_nil]
      omega

/-- The frame has the memory of its buffer, and is not empty. -/
theorem frameOf_eq_some {bytesused : ℕ} {frame : CamFrame}
    (h : r.frameOf index bytesused = some frame) :
    frame.index = index ∧ frame.bytesused = bytesused ∧ frame.size ≠ 0 ∧
      ∃ b, r.buffers_[index]? = some b ∧
        (r.memory_mode = .kMmap → frame.data = b.start ∧ b.start ≠ none) ∧
        (r.memory_mode = .kDmaBuf → frame.dmabuf_fd = b.dmabuf_fd ∧ 0 ≤ b.dmabuf_fd) := by
  unfold frameOf at h
  cases hbuffer : r.buffers_[index]? with
  | none =>
    rw [hbuffer] at h
    cases h
  | some b =>
    rw [hbuffer] at h
    simp only at h
    -- a frame is handed out with a start or a descriptor, and never empty
    split_ifs at h with hunset hgood
    cases h
    refine ⟨rfl, rfl, hgood.2, b, rfl, fun hmode => ⟨if_pos hmode, fun hnone => ?_⟩,
      fun hmode => ⟨if_pos hmode, ?_⟩⟩
    · exact hunset (Or.inl ⟨hmode, hnone⟩)
    · exact Int.not_lt.mp fun hneg => hunset (Or.inr ⟨hmode, hneg⟩)

/-- `dequeue` makes nothing only of a buffer without data or without a descriptor. -/
theorem Kept.explained_of_frameOf {bytesused : ℕ} (h : r.Kept) (hentered : index ∈ r.entered)
    (hnone : r.frameOf index bytesused = none) : r.Explained (.dequeued index bytesused) := by
  obtain ⟨b, hbuffer, hmmap, -⟩ := h.backed index hentered
  unfold frameOf at hnone
  rw [hbuffer] at hnone
  simp only at hnone
  -- a queued buffer is mapped, so only an empty frame is refused
  cases hmode : r.memory_mode with
  | kMmap =>
    refine .inl ⟨?_, fun hdmabuf => by rw [hmode] at hdmabuf; cases hdmabuf⟩
    by_contra hused
    have hdata : (r.fillFrame b index bytesused).data ≠ none := by
      rw [fillFrame, if_pos hmode]
      exact hmmap hmode
    have hsize : (r.fillFrame b index bytesused).size ≠ 0 := by
      simpa only [fillFrame, hmode, reduceCtorEq, false_and, if_false] using hused
    split_ifs at hnone with hunset hgood
    · rcases hunset with ⟨-, hstart⟩ | ⟨hdmabuf, -⟩
      · exact hmmap hmode hstart
      · rw [hmode] at hdmabuf
        cases hdmabuf
    · exact hgood ⟨Or.inl hdata, hsize⟩
  | kDmaBuf =>
    -- of a surface the descriptor may be negative as well, which is named
    by_cases hfd : b.dmabuf_fd < 0
    · exact .inr ⟨hmode, b, hbuffer, hfd⟩
    suffices hused : bytesused = 0 ∧ b.length = 0 from
      .inl ⟨hused.1, fun _ => ⟨b, hbuffer, hused.2⟩⟩
    by_contra hused
    have hdescriptor : 0 ≤ (r.fillFrame b index bytesused).dmabuf_fd := by
      rw [fillFrame, if_pos hmode]
      exact Int.not_lt.mp hfd
    have hsize : (r.fillFrame b index bytesused).size ≠ 0 := by
      by_cases hzero : bytesused = 0
      · have hlength : (r.fillFrame b index bytesused).size = b.length := if_pos ⟨hmode, hzero⟩
        exact fun hempty => hused ⟨hzero, hlength ▸ hempty⟩
      · have hbytes : (r.fillFrame b index bytesused).size = bytesused :=
          if_neg fun h => hzero h.2
        rwa [hbytes]
    split_ifs at hnone with hunset hgood
    · rcases hunset with ⟨hmmap', -⟩ | ⟨-, hneg⟩
      · rw [hmode] at hmmap'
        cases hmmap'
      · exact hfd hneg
    · exact hgood ⟨Or.inr hdescriptor, hsize⟩

/-- Buffers move between the driver, the capture thread and the lost ones. -/
def moved (r : CapturerRun) (queue : List ℕ) (stage : CaptureStage) (lost : List BufferLoss) :
    CapturerRun :=
  { r with kernel := { r.kernel with queue := queue }, stage := stage, lost := lost }

/-- A buffer that changes its place keeps the invariant, where the places add up as before. -/
theorem Kept.moved (h : r.Kept) (queue : List ℕ) (stage : CaptureStage)
    {lost : List BufferLoss} (hrelies : r.Relies stage)
    (hplaces : ∀ i, heldBy some queue i + tokens stage.index i +
      heldBy (fun loss => some loss.index) lost i =
        heldBy some r.kernel.queue i + tokens r.stage.index i +
          heldBy (fun loss => some loss.index) r.lost i)
    (hexplained : ∀ loss ∈ lost, r.Explained loss) : (r.moved queue stage lost).Kept where
  owned := ⟨h.owned.used_well, h.owned.fds, h.owned.mappings, h.owned.surfaces, h.owned.closed⟩
  relies := hrelies
  places i := by
    have hbefore := h.places i
    simp only [CapturerRun.places] at hbefore
    simp only [CapturerRun.places, CapturerRun.moved]
    rw [hplaces i, hbefore]
  entered_nodup := h.entered_nodup
  backed := h.backed
  explained := hexplained

/-- One more explained loss leaves every loss explained. -/
theorem explained_concat {loss : BufferLoss} (h : r.Kept) (hloss : r.Explained loss) :
    ∀ other ∈ r.lost ++ [loss], r.Explained other := by
  intro other hother
  rcases List.mem_append.mp hother with hother | hother
  · exact h.explained other hother
  · rw [List.mem_singleton.mp hother]
    exact hloss

theorem Kept.dequeued {bytesused : ℕ} (h : r.Kept) (hstage : r.stage = .dequeuing fd)
    (hqueued : index ∈ r.kernel.queue) : (r.dequeued index bytesused).Kept := by
  have hpos : 0 < heldBy some r.kernel.queue index := heldBy_pos hqueued rfl
  have hentered : index ∈ r.entered := by
    refine h.entered_of_place ?_
    simp only [CapturerRun.places]
    omega
  have herase : ∀ i, heldBy some r.kernel.queue i =
      tokens (some index) i + heldBy some (r.kernel.queue.erase index) i := by
    intro i
    rw [heldBy_perm (List.perm_cons_erase hqueued), heldBy_cons]
  unfold CapturerRun.dequeued
  simp only
  split
  · -- the capture thread has it
    rename_i frame hframe
    have hindex : frame.index = index := (frameOf_eq_some hframe).1
    have hbytes : frame.bytesused = bytesused := (frameOf_eq_some hframe).2.1
    refine h.moved (r.kernel.queue.erase index) (.holding frame) ?_ (fun i => ?_) h.explained
    · show r.frameOf frame.index frame.bytesused = some frame
      rw [hindex, hbytes]
      exact hframe
    · rw [herase i, hstage, CaptureStage.index, CaptureStage.index, hindex, tokens_none]
      omega
  · rename_i hnone
    have hexplained : r.Explained (.dequeued index bytesused) :=
      h.explained_of_frameOf hentered hnone
    refine h.moved (r.kernel.queue.erase index) .out trivial (fun i => ?_)
      (explained_concat h hexplained)
    rw [herase i, hstage, CaptureStage.index, CaptureStage.index, heldBy_concat,
      BufferLoss.index, tokens_none]
    omega

/-- The buffers do not change while a frame is held. -/
theorem Kept.frameOf_held {frame : CamFrame} (h : r.Kept) (hstage : r.stage = .holding frame) :
    r.frameOf frame.index frame.bytesused = some frame := by
  have hrelies := h.relies
  rwa [hstage] at hrelies

/-- While a frame is held its buffer is there, and in its mode has a descriptor. -/
theorem Kept.held_buffer {frame : CamFrame} (h : r.Kept) (hstage : r.stage = .holding frame) :
    ∃ b, r.buffers_[frame.index]? = some b ∧ (r.memory_mode = .kDmaBuf → 0 ≤ b.dmabuf_fd) := by
  obtain ⟨-, -, -, b, hbuffer, -, hdmabuf⟩ := frameOf_eq_some (h.frameOf_held hstage)
  exact ⟨b, hbuffer, fun hmode => (hdmabuf hmode).2⟩

/-- A frame that is held is never kept from `VIDIOC_QBUF`. -/
theorem Kept.requeue {frame : CamFrame} {qbuf : Bool} (h : r.Kept)
    (hstage : r.stage = .holding frame) : (r.requeue frame qbuf).2.Kept := by
  have hrefused : (r.moved r.kernel.queue .out
      (r.lost ++ [.requeued frame.index (some false)])).Kept := by
    refine h.moved _ _ trivial (fun i => ?_) (explained_concat h rfl)
    rw [hstage, CaptureStage.index, CaptureStage.index, heldBy_concat, BufferLoss.index,
      tokens_none]
    omega
  obtain ⟨b, hbuffer, hdescriptor⟩ := h.held_buffer hstage
  unfold CapturerRun.requeue
  simp only
  split
  · -- a closed capturer has no buffers
    rename_i hclosed
    rw [h.owned.closed hclosed] at hbuffer
    cases hbuffer
  · rename_i fd hdevice
    rw [hbuffer]
    split_ifs with hfits hqbuf
    · simp [hdescriptor hfits.1] at hfits
    · rw [use_eq h.owned hdevice]
      refine h.moved (r.kernel.queue ++ [frame.index]) .out trivial (fun i => ?_) h.explained
      rw [hstage, CaptureStage.index, CaptureStage.index, heldBy_concat, tokens_none]
      omega
    · rw [(Bool.not_eq_true _).mp hqbuf]
      exact (use_eq hrefused.owned hdevice).symm ▸ hrefused

/-! ## Runs -/

/-- The two flags are no part of the invariant. -/
theorem Kept.flags (h : r.Kept) (running interrupting : Bool) :
    Kept { r with running_ := running, interrupting := interrupting } :=
  ⟨⟨h.owned.used_well, h.owned.fds, h.owned.mappings, h.owned.surfaces, h.owned.closed⟩,
    h.relies, h.places, h.entered_nodup, h.backed, h.explained⟩

/-- The end of the stream does not move the capture thread. -/
theorem stage_streamOff (r : CapturerRun) (answer : Bool) :
    (r.streamOff answer).stage = r.stage := by
  unfold CapturerRun.streamOff
  split
  · rfl
  · cases answer <;> rfl

/-- The capture thread moves on without a frame. -/
theorem Kept.wait {stage : CaptureStage} (h : r.Kept) (hrelies : r.Relies stage)
    (hbefore : r.stage.index = none) (hafter : stage.index = none) :
    Kept { r with stage := stage } := by
  refine h.moved r.kernel.queue stage hrelies (fun i => ?_) h.explained
  rw [hbefore, hafter]

/-- Every step keeps the invariant. -/
theorem Kept.step {s : CapturerStep} (h : r.Kept) (hstep : r.step s = some r') : r'.Kept := by
  cases s with
  | initializeDevice memory_mode answers =>
    simp only [CapturerRun.step] at hstep
    split_ifs at hstep with hidle
    cases hstep
    exact h.initializeDevice hidle.1.1 hidle.2
  | start answers =>
    simp only [CapturerRun.step] at hstep
    split_ifs at hstep with hout
    cases hstep
    exact h.start hout
  | dequeue =>
    simp only [CapturerRun.step] at hstep
    split_ifs at hstep with hout
    split at hstep
    · rename_i fd _ hdevice
      cases hstep
      exact h.wait hdevice (by rw [hout]; rfl) rfl
    · cases hstep
      exact h
  | poll ready =>
    simp only [CapturerRun.step] at hstep
    split at hstep
    · rename_i fd hpolling
      have hindex : r.stage.index = none := by
        rw [hpolling]
        rfl
      have hdevice : r.cam_fd_ = some fd := by
        have hrelies := h.relies
        rwa [hpolling] at hrelies
      rw [use_eq h.owned hdevice] at hstep
      cases hstep
      -- a timeout, or a capturer that stops, returns without a frame
      by_cases hready : (ready && r.running_) = true
      · rw [if_pos hready]
        exact h.wait hdevice hindex rfl
      · rw [if_neg hready]
        exact h.wait trivial hindex rfl
    · cases hstep
  | dqbuf answer =>
    simp only [CapturerRun.step] at hstep
    split at hstep
    · rename_i fd hdequeuing
      have hindex : r.stage.index = none := by
        rw [hdequeuing]
        rfl
      have hdevice : r.cam_fd_ = some fd := by
        have hrelies := h.relies
        rwa [hdequeuing] at hrelies
      rw [use_eq h.owned hdevice] at hstep
      cases answer with
      | none =>
        cases hstep
        exact h.wait trivial hindex rfl
      | some given =>
        obtain ⟨index, bytesused⟩ := given
        simp only at hstep
        -- the driver hands out a queued buffer
        split_ifs at hstep with hqueued
        cases hstep
        exact h.dequeued hdequeuing hqueued.2
    · cases hstep
  | requeue qbuf =>
    simp only [CapturerRun.step] at hstep
    split at hstep
    · rename_i frame hholding
      cases hstep
      exact h.requeue hholding
    · cases hstep
  | interrupt =>
    simp only [CapturerRun.step] at hstep
    split_ifs at hstep
    · cases hstep
      exact h.flags false true
    · cases hstep
      exact h
  | streamOff answer =>
    simp only [CapturerRun.step] at hstep
    split_ifs at hstep
    cases hstep
    exact h.streamOff.flags _ false
  | stop answer =>
    simp only [CapturerRun.step] at hstep
    split_ifs at hstep with hquiet hrunning
    · cases hstep
      refine (h.flags false r.interrupting).streamOff.closeDevice ?_
      rw [stage_streamOff]
      exact hquiet.1
    · cases hstep
      exact h.closeDevice hquiet.1

/-- The frame has data, in memory that the capturer still has and the driver does not fill. -/
def Readable (r : CapturerRun) (frame : CamFrame) : Prop :=
  frame.size ≠ 0 ∧ frame.index ∉ r.kernel.queue ∧
    ∃ b, r.buffers_[frame.index]? = some b ∧
      (r.memory_mode = .kMmap → frame.data = b.start ∧ ∃ start ∈ r.kernel.mappings,
        b.start = some start) ∧
      (r.memory_mode = .kDmaBuf → frame.dmabuf_fd = b.dmabuf_fd ∧ 0 ≤ b.dmabuf_fd ∧
        ∃ surface ∈ r.kernel.surfaces, b.surface = some surface)

theorem Kept.readable {frame : CamFrame} (h : r.Kept) (hholding : r.stage = .holding frame) :
    r.Readable frame := by
  obtain ⟨-, -, hsize, b, hbuffer, hmmap, hdmabuf⟩ := frameOf_eq_some (h.frameOf_held hholding)
  have hone := h.places_le_one frame.index
  simp only [CapturerRun.places, hholding, CaptureStage.index, tokens_some_self] at hone
  have hentered : frame.index ∈ r.entered := by
    refine h.entered_of_place ?_
    simp only [CapturerRun.places, hholding, CaptureStage.index, tokens_some_self]
    omega
  obtain ⟨other, hother, -, hsurface⟩ := h.backed frame.index hentered
  cases hbuffer.symm.trans hother
  refine ⟨hsize, fun hqueued => ?_, b, hbuffer, fun hmode => ?_, fun hmode => ?_⟩
  · -- it would be in two places
    have hpos : 0 < heldBy some r.kernel.queue frame.index := heldBy_pos hqueued rfl
    omega
  · obtain ⟨hdata, hstart⟩ := hmmap hmode
    obtain ⟨start, hstart⟩ := Option.ne_none_iff_exists'.mp hstart
    refine ⟨hdata, start, ?_, hstart⟩
    rw [h.owned.mappings.mem_iff]
    exact List.mem_filterMap.mpr ⟨b, List.mem_of_getElem? hbuffer, hstart⟩
  · obtain ⟨hfd, hnonneg⟩ := hdmabuf hmode
    obtain ⟨surface, hsurface⟩ := Option.ne_none_iff_exists'.mp (hsurface hmode)
    refine ⟨hfd, hnonneg, surface, ?_, hsurface⟩
    rw [h.owned.surfaces.mem_iff]
    exact List.mem_filterMap.mpr ⟨b, List.mem_of_getElem? hbuffer, hsurface⟩

/-- A closed capturer has nothing of the kernel. -/
theorem Kept.closed (h : r.Kept) (hnone : r.cam_fd_ = none) :
    r.kernel.open_fds = [] ∧ r.kernel.mappings = [] ∧ r.kernel.surfaces = [] ∧
      r.kernel.queue = [] := by
  have hbuffers := h.owned.closed hnone
  have hmappings := h.owned.mappings
  have hsurfaces := h.owned.surfaces
  rw [hbuffers] at hmappings hsurfaces
  refine ⟨?_, hmappings.eq_nil, hsurfaces.eq_nil, ?_⟩
  · rw [h.owned.fds, hnone]
    rfl
  · -- a queued index would have a buffer behind it
    refine List.eq_nil_iff_forall_not_mem.mpr fun i hi => ?_
    have hpos : 0 < heldBy some r.kernel.queue i := heldBy_pos hi rfl
    have hzero := (h.nothing hbuffers).2.2 i
    simp only [CapturerRun.places] at hzero
    omega

/-- In every state of every run: no call went to what was not there; the kernel's descriptors,
mappings and surfaces are those that the capturer knows, and none when it is closed; a frame of
the capture thread is readable; each buffer that `start` queued is in one place; and a buffer is
lost only if it came back without data, if its surface has no descriptor, or if `VIDIOC_QBUF` was
made for it and refused. -/
theorem capturer_run_holds {steps : List CapturerStep}
    (hrun : runSteps CapturerRun.step {} steps = some r) :
    r.kernel.misused = false ∧
      (r.kernel.open_fds = r.cam_fd_.toList ∧
        r.kernel.mappings.Perm (r.buffers_.filterMap CamBuffer.start) ∧
        r.kernel.surfaces.Perm (r.buffers_.filterMap CamBuffer.surface)) ∧
      (r.cam_fd_ = none → r.kernel.open_fds = [] ∧ r.kernel.mappings = [] ∧
        r.kernel.surfaces = [] ∧ r.kernel.queue = []) ∧
      (∀ frame, r.stage = .holding frame → r.Readable frame) ∧
      (∀ i, r.places i = if i ∈ r.entered then 1 else 0) ∧
      ∀ loss ∈ r.lost, r.Explained loss := by
  have h : r.Kept := runSteps_invariant (fun _ _ _ h hstep => h.step hstep) kept_initial hrun
  refine ⟨h.owned.used_well, ⟨h.owned.fds, h.owned.mappings, h.owned.surfaces⟩, h.closed,
    fun frame hholding => h.readable hholding, fun i => ?_, h.explained⟩
  by_cases hi : i ∈ r.entered
  · have hpos : 0 < heldBy some r.entered i := heldBy_pos hi rfl
    have hone := h.places_le_one i
    rw [if_pos hi]
    rw [h.places i] at hone ⊢
    omega
  · rw [if_neg hi]
    exact Nat.eq_zero_of_not_pos fun hpos => hi (h.entered_of_place hpos)

/-- Two mapped buffers: the second comes back empty and is lost, the first is held while the
capturer is interrupted. -/
theorem capturer_run_holds_interrupted :
    ∃ r, runSteps CapturerRun.step {}
        [.initializeDevice .kMmap ⟨some 3, some true⟩,
          .start ⟨some [⟨some 64, some 100, none, true⟩, ⟨some 64, some 200, none, true⟩], true⟩,
          .dequeue, .poll true, .dqbuf (some (1, 0)), .dequeue, .poll true, .dqbuf (some (0, 64)),
          .interrupt, .streamOff true] = some r ∧
      r.lost = [.dequeued 1 0] ∧ r.Readable ⟨0, 64, some 100, 64, -1⟩ := by
  refine ⟨_, rfl, rfl, ?_⟩
  exact (@capturer_run_holds _
    [.initializeDevice .kMmap ⟨some 3, some true⟩,
      .start ⟨some [⟨some 64, some 100, none, true⟩, ⟨some 64, some 200, none, true⟩], true⟩,
      .dequeue, .poll true, .dqbuf (some (1, 0)), .dequeue, .poll true, .dqbuf (some (0, 64)),
      .interrupt, .streamOff true] rfl).2.2.2.1 _ rfl

end CapturerRun

end TeleopBridge.Video
