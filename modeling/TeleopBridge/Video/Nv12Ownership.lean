import TeleopBridge.Support.Transition
import TeleopBridge.Video.Nv12Balance

/-!
# NV12 Buffer Ownership

Every index of an output pool has exactly one holder: the free queue, the encode thread
while it fills the buffer, or a shared frame that someone still owns.

## Key Result

`nv12_owned_once`: this in every state of every run, the reference counts being the numbers
of owners; so no buffer is free that the encoder or the eye image thread can still read.
-/

namespace TeleopBridge.Video

open Support

namespace Nv12Run

variable {r r' : Nv12Run} {id : ℕ} {inHand : List ℕ} {stage : EncodeStage}

/-! ## What the encoder holds -/

/-- The frame is kept under its descriptor, and the driver holds no input with it. -/
def Unqueued (r : Nv12Run) (id : ℕ) : Prop :=
  r.encoder_pending_frames_by_fd_ (r.fdOf id) = some id ∧
    ∀ index ∈ r.inputs, r.encoder.index_to_fd_ index ≠ some (r.fdOf id)

/-- What the encode thread relies on at its stage. -/
def AtStage (r : Nv12Run) : EncodeStage → Prop
  | .forwarded dmabuf_fd => (r.pool.fd_to_index_ dmabuf_fd).isSome
  | .made frame => r.encoder_pending_frames_by_fd_ (r.fdOf frame) = none
  | .pending frame => r.Unqueued frame
  | .submitting frame index =>
      r.Unqueued frame ∧ r.encoder.index_to_fd_ index = some (r.fdOf frame)
  | .refused frame => r.Unqueued frame
  | _ => True

/-- Entries are under the descriptors of their frames, the inputs of the driver have
different descriptors with an entry each, and no input of the encoder is twice anywhere. -/
structure EncoderHolds (r : Nv12Run) : Prop where
  keyed : ∀ fd id, r.encoder_pending_frames_by_fd_ fd = some id → r.fdOf id = fd
  queued : ∀ index ∈ r.inputs, ∃ fd, r.encoder.index_to_fd_ index = some fd ∧
    (r.encoder_pending_frames_by_fd_ fd).isSome
  apart : ∀ index ∈ r.inputs, ∀ other ∈ r.inputs,
    r.encoder.index_to_fd_ index = r.encoder.index_to_fd_ other → index = other
  indices : (r.encoder.free_output_indices_ ++ r.encode.taken ++ r.inputs).Nodup
  stage : r.AtStage r.encode

theorem Dropped.atStage_iff (h : Dropped r r') (stage : EncodeStage) :
    r'.AtStage stage ↔ r.AtStage stage := by
  have hindex : r'.pool.fd_to_index_ = r.pool.fd_to_index_ := by
    funext fd
    unfold Nv12Pool.fd_to_index_
    rw [h.fds]
  cases stage <;>
    simp only [AtStage, Unqueued, hindex, h.pending, h.fdOf_eq, h.inputs, h.encoder]

/-- Only the descriptors of the frames, their entries, the encoder and the stage matter. -/
theorem EncoderHolds.of_same (h : r.EncoderHolds) (hobject : r'.frames.object = r.frames.object)
    (hpending : r'.encoder_pending_frames_by_fd_ = r.encoder_pending_frames_by_fd_)
    (hencoder : r'.encoder = r.encoder) (hinputs : r'.inputs = r.inputs)
    (htaken : r'.encode.taken = r.encode.taken) (hstage : r'.AtStage r'.encode) :
    r'.EncoderHolds where
  keyed := by
    intro fd id hentry
    rw [hpending] at hentry
    unfold fdOf
    rw [hobject]
    exact h.keyed fd id hentry
  queued := by
    rw [hinputs, hencoder, hpending]
    exact h.queued
  apart := by
    rw [hinputs, hencoder]
    exact h.apart
  indices := by
    rw [hinputs, hencoder, htaken]
    exact h.indices
  stage := hstage

theorem Dropped.encoderHolds (h : Dropped r r') (hholds : r.EncoderHolds) : r'.EncoderHolds := by
  refine hholds.of_same h.object h.pending h.encoder h.inputs ?_ ?_
  · rw [h.encode]
  · rw [h.encode, h.atStage_iff]
    exact hholds.stage

theorem Dropped.held_eq (h : Dropped r r') : r'.encode.held r'.pool = r.encode.held r.pool := by
  rw [h.encode]
  unfold EncodeStage.held Nv12Pool.fd_to_index_
  rw [h.fds]

/-! ## The invariant -/

/-- Every index has one holder, every count is right with the owners in `inHand`, and the
encoder's entries are in order. -/
structure OwnedWith (r : Nv12Run) (inHand : List ℕ) : Prop where
  balanced : Balanced r.pool r.frames (r.encode.held r.pool)
  counted : r.CountedWith inHand
  holds : r.EncoderHolds

/-- Between two events no owner is in hand. -/
abbrev Owned (r : Nv12Run) : Prop := r.OwnedWith []

theorem OwnedWith.dropFrame (h : r.OwnedWith (id :: inHand)) :
    (r.dropFrame id).OwnedWith inHand where
  balanced := by
    rw [(dropped_dropFrame r id).held_eq]
    exact balanced_dropFrame h.balanced
  counted := h.counted.dropFrame
  holds := (dropped_dropFrame r id).encoderHolds h.holds

/-- Dropping the owners one after the other. -/
theorem OwnedWith.foldl (h : r.OwnedWith inHand) :
    (inHand.foldl Nv12Run.dropFrame r).Owned := by
  induction inHand generalizing r with
  | nil => exact h
  | cons id inHand ih => exact ih h.dropFrame

theorem OwnedWith.use_count_pos (h : r.OwnedWith inHand) (howned : 0 < r.owners id) :
    0 < r.frames.use_count id := by
  have hcount := h.counted id
  omega

/-- A frame with an owner is a live object, of an index of the pool. -/
theorem OwnedWith.frame (h : r.OwnedWith inHand) (howned : 0 < r.owners id) :
    ∃ frame index, r.frames.object id = some frame ∧ r.fdOf id = frame.fd ∧
      r.pool.fd_to_index_ frame.fd = some index ∧
        index ∈ frameIndices r.pool r.frames.objects := by
  have hpos := h.use_count_pos howned
  obtain ⟨frame, hframe⟩ := h.balanced.wellFormed.exists_object hpos
  obtain ⟨index, hindex⟩ := Option.isSome_iff_exists.mp (h.balanced.known id frame hframe)
  refine ⟨frame, index, hframe, by rw [fdOf, hframe]; rfl, hindex, ?_⟩
  exact List.mem_filterMap.mpr
    ⟨frame, SharedHeap.mem_objects h.balanced.wellFormed hframe hpos, hindex⟩

theorem owners_pos_of_pending {fd : ℤ} (h : r.EncoderHolds)
    (hentry : r.encoder_pending_frames_by_fd_ fd = some id) : 0 < r.owners id := by
  have hkey := h.keyed fd id hentry
  rw [owners, hkey, hentry, owns_self]
  omega

theorem owners_pos_of_stack (h : r.encode.stack = some id) : 0 < r.owners id := by
  rw [owners, h, owns_self]
  omega

/-! ## Events of the encode thread -/

theorem OwnedWith.acquire (h : r.Owned) (hidle : r.encode = .idle) :
    ({ r with
      pool := r.pool.acquireOutput.2
      encode := r.pool.acquireOutput.1.elim .idle .processing } : Nv12Run).Owned := by
  have hbalanced := h.balanced
  rw [hidle] at hbalanced
  -- an empty free queue leaves the thread idle
  rcases Nv12Pool.acquireOutput_cases r.pool with hnone | ⟨index, rest, hfree, hsome⟩
  · rw [hnone, Option.elim_none]
    exact {
      balanced := hbalanced
      counted := h.counted.of_same rfl rfl rfl rfl (by rw [hidle])
      holds := h.holds.of_same rfl rfl rfl rfl (by rw [hidle]) trivial }
  · rw [hsome, Option.elim_some]
    exact {
      balanced := Balanced.acquire hbalanced hfree
      counted := h.counted.of_same rfl rfl rfl rfl (by rw [hidle]; rfl)
      holds := h.holds.of_same rfl rfl rfl rfl (by rw [hidle]; rfl) trivial }

/-- The conversion, of either component, gives the index back or forwards its descriptor. -/
theorem OwnedWith.convert {out_idx : ℕ} {done : Option ℤ × Nv12Pool} (h : r.Owned)
    (hprocessing : r.encode = .processing out_idx)
    (hdone : done = (none, r.pool.push out_idx) ∨
      done = (some (r.pool.dmabuf_fds_.getD out_idx (-1)), r.pool)) :
    ({ r with pool := done.2, encode := done.1.elim .idle .forwarded } : Nv12Run).Owned := by
  have hbalanced := h.balanced
  rw [hprocessing] at hbalanced
  rcases hdone with rfl | rfl
  · exact {
      balanced := Balanced.giveBack hbalanced
      counted := h.counted.of_same rfl rfl rfl rfl (by rw [hprocessing]; rfl)
      holds := h.holds.of_same rfl rfl rfl rfl (by rw [hprocessing]; rfl) trivial }
  · -- the index is read back from the descriptor that was put out
    have hindex := Nv12Pool.fd_to_index_getD hbalanced.index_lt
    have hheld : (EncodeStage.forwarded (r.pool.dmabuf_fds_.getD out_idx (-1))).held r.pool =
        [out_idx] := by
      rw [EncodeStage.held, hindex]
      rfl
    exact {
      balanced := by
        show Balanced r.pool r.frames (EncodeStage.held r.pool (.forwarded _))
        rw [hheld]
        exact hbalanced
      counted := h.counted.of_same rfl rfl rfl rfl (by rw [hprocessing]; rfl)
      holds := by
        refine h.holds.of_same rfl rfl rfl rfl (by rw [hprocessing]; rfl) ?_
        show (r.pool.fd_to_index_ _).isSome
        rw [hindex]
        rfl }

/-- A forwarded descriptor has no entry: its index is not that of a shared frame. -/
theorem OwnedWith.pending_forwarded {fd : ℤ} (h : r.Owned) (hforwarded : r.encode = .forwarded fd) :
    r.encoder_pending_frames_by_fd_ fd = none := by
  by_contra hsome
  obtain ⟨id, hentry⟩ := Option.ne_none_iff_exists'.mp hsome
  obtain ⟨frame, index, -, hfd, hindex, hmem⟩ :=
    h.frame (owners_pos_of_pending h.holds hentry)
  rw [← hfd, h.holds.keyed fd id hentry] at hindex
  -- the index would be with the thread and with a live frame
  have hnodup := h.balanced.nodup
  rw [hforwarded, EncodeStage.held, hindex] at hnodup
  have hdisjoint := List.disjoint_of_nodup_append hnodup
  exact hdisjoint (List.mem_append_right _ (by simp)) hmem

/-- The frames with owners are older than the next one. -/
theorem OwnedWith.lt_next (h : r.OwnedWith inHand)
    (howned : 0 < r.owners id) : id < r.frames.next := by
  exact h.balanced.wellFormed.lt_next (h.use_count_pos howned)

/-- The new frame takes over the index that the thread holds, and the stack owns it. -/
theorem OwnedWith.makeFrame {fd : ℤ} (h : r.Owned) (hforwarded : r.encode = .forwarded fd)
    (timestamp_us : UInt64) :
    ({ r with
      frames := r.frames.make ⟨fd, timestamp_us⟩
      encode := .made r.frames.next } : Nv12Run).Owned := by
  have hbalanced := h.balanced
  have hstage := h.holds.stage
  rw [hforwarded] at hbalanced hstage
  have hunowned : r.owners r.frames.next = 0 := by
    by_contra hpos
    exact absurd (h.lt_next (Nat.pos_of_ne_zero hpos)) (Nat.lt_irrefl _)
  have hnone := h.pending_forwarded hforwarded
  exact {
    balanced := Balanced.make hbalanced hstage timestamp_us
    counted := (h.counted.make hunowned hnone).toStack (by rw [hforwarded]; rfl) rfl
    holds := {
      keyed := by
        intro other id hentry
        -- entries are of frames with owners, which the new one is not yet
        have hlt := h.lt_next (owners_pos_of_pending h.holds hentry)
        exact (fdOf_make_of_ne (Nat.ne_of_lt hlt) _).trans (h.holds.keyed other id hentry)
      queued := h.holds.queued
      apart := h.holds.apart
      indices := by
        have hindices := h.holds.indices
        rw [hforwarded] at hindices
        exact hindices
      stage := by
        show r.encoder_pending_frames_by_fd_ (Nv12Run.fdOf _ r.frames.next) = none
        have hfd := fdOf_make_next r ⟨fd, timestamp_us⟩
        exact (congrArg r.encoder_pending_frames_by_fd_ hfd).trans hnone } }

/-- The stage moves on and the stack keeps its frame. -/
theorem OwnedWith.of_stage (h : r.Owned)
    (hheld : stage.held r.pool = r.encode.held r.pool) (hstack : stage.stack = r.encode.stack)
    (htaken : stage.taken = r.encode.taken) (hstage : r.AtStage stage) :
    ({ r with encode := stage } : Nv12Run).Owned where
  balanced := by
    show Balanced r.pool r.frames (stage.held r.pool)
    rw [hheld]
    exact h.balanced
  counted := h.counted.of_same rfl rfl rfl rfl hstack
  holds := by
    refine h.holds.of_same rfl rfl rfl rfl htaken ?_
    show AtStage _ stage
    cases stage <;> exact hstage

theorem insertPending_eq (hnone : r.encoder_pending_frames_by_fd_ (r.fdOf id) = none) :
    r.insertPending id = { r with
      frames := r.frames.copy id
      encoder_pending_frames_by_fd_ :=
        Function.update r.encoder_pending_frames_by_fd_ (r.fdOf id) (some id) } := by
  unfold insertPending
  simp only [hnone]

/-- The entry is a second owner; no other frame has the descriptor. -/
theorem OwnedWith.insertPending (h : r.Owned) (hmade : r.encode = .made id) :
    ({ r.insertPending id with encode := .pending id } : Nv12Run).Owned := by
  have hbalanced := h.balanced
  have hnone := h.holds.stage
  rw [hmade] at hbalanced hnone
  have howned := h.use_count_pos (owners_pos_of_stack (by rw [hmade]; rfl))
  rw [insertPending_eq hnone]
  exact {
    balanced := Balanced.copy hbalanced howned
    counted := by
      refine ((h.counted.copy id).toEntry hnone).of_same rfl rfl rfl rfl ?_
      show _ = r.encode.stack
      rw [hmade]
      rfl
    holds := {
      keyed := by
        intro fd other hentry
        replace hentry : Function.update r.encoder_pending_frames_by_fd_ (r.fdOf id) (some id) fd =
          some other := hentry
        by_cases hfd : fd = r.fdOf id
        · rw [hfd, Function.update_self] at hentry
          cases hentry
          exact hfd.symm
        · rw [Function.update_of_ne hfd] at hentry
          exact h.holds.keyed fd other hentry
      queued := by
        intro index hindex
        obtain ⟨fd, hmap, hentry⟩ := h.holds.queued index hindex
        refine ⟨fd, hmap, ?_⟩
        show (Function.update r.encoder_pending_frames_by_fd_ (r.fdOf id) (some id) fd).isSome
        by_cases hfd : fd = r.fdOf id
        · rw [hfd, Function.update_self]
          rfl
        · rw [Function.update_of_ne hfd]
          exact hentry
      apart := h.holds.apart
      indices := by
        have hindices := h.holds.indices
        rw [hmade] at hindices
        exact hindices
      stage := by
        refine ⟨Function.update_self _ _ _, fun index hindex hmap => ?_⟩
        -- the driver's inputs have entries, this descriptor had none
        obtain ⟨fd, hfd, hentry⟩ := h.holds.queued index hindex
        rw [Option.some_inj.mp (hfd.symm.trans hmap)] at hentry
        have hempty : r.encoder_pending_frames_by_fd_ (r.fdOf id) = none := hnone
        change (r.encoder_pending_frames_by_fd_ (r.fdOf id)).isSome at hentry
        rw [hempty] at hentry
        cases hentry } }

/-- The encoder's side does not see the queue, the flag and the eye image thread. -/
theorem EncoderHolds.of_eye (h : r.EncoderHolds) (queue : List ℕ) (inflight : Bool)
    (eye : Option (ℕ × Bool)) :
    ({ r with
      nv12_queue_ := queue
      eye_image_inflight_ := inflight
      eye := eye } : Nv12Run).EncoderHolds := by
  refine h.of_same rfl rfl rfl rfl rfl ?_
  have hstage := h.stage
  revert hstage
  show r.AtStage r.encode → AtStage _ r.encode
  cases r.encode <;> exact fun hstage => hstage

/-- The in-flight flag owns nothing. -/
theorem OwnedWith.of_flag (h : r.OwnedWith inHand) (inflight : Bool) :
    ({ r with eye_image_inflight_ := inflight } : Nv12Run).OwnedWith inHand where
  balanced := h.balanced
  counted := h.counted
  holds := h.holds.of_eye r.nv12_queue_ inflight r.eye

/-! ### `submit` -/

/-- The encoder's side, when the inputs of the driver keep their descriptors. -/
theorem EncoderHolds.of_encoder {e : VideoEncoder} {stage : EncodeStage} (h : r.EncoderHolds)
    (hmap : ∀ index ∈ r.inputs, e.index_to_fd_ index = r.encoder.index_to_fd_ index)
    (hindices : (e.free_output_indices_ ++ stage.taken ++ r.inputs).Nodup)
    (hstage : AtStage { r with encoder := e, encode := stage } stage) :
    ({ r with encoder := e, encode := stage } : Nv12Run).EncoderHolds where
  keyed := h.keyed
  queued := by
    intro index hindex
    obtain ⟨fd, hfd, hentry⟩ := h.queued index hindex
    exact ⟨fd, (hmap index hindex).trans hfd, hentry⟩
  apart := by
    intro index hindex other hother hsame
    change e.index_to_fd_ index = e.index_to_fd_ other at hsame
    rw [hmap index hindex, hmap other hother] at hsame
    exact h.apart index hindex other hother hsame
  indices := hindices
  stage := hstage

theorem Unqueued.of_encoder {e : VideoEncoder} {stage : EncodeStage} (h : r.Unqueued id)
    (hmap : ∀ index ∈ r.inputs, e.index_to_fd_ index = r.encoder.index_to_fd_ index) :
    ({ r with encoder := e, encode := stage } : Nv12Run).Unqueued id := by
  refine ⟨h.1, fun index hindex => ?_⟩
  show e.index_to_fd_ index ≠ some (r.fdOf id)
  rw [hmap index hindex]
  exact h.2 index hindex

/-- What the first half of `submit` does: an index is taken for the descriptor, or the maps
stay and the free indices keep. -/
theorem submitQueue_cases (e : VideoEncoder) (checks : SubmitChecks) (fd : ℤ)
    (timestamp_us : UInt64) :
    (∃ e', e.submitQueue checks fd timestamp_us = (none, e') ∧
      e'.index_to_fd_ = e.index_to_fd_ ∧
        e'.free_output_indices_.Perm e.free_output_indices_) ∨
    ∃ index rest e', e.free_output_indices_ = index :: rest ∧
      e.submitQueue checks fd timestamp_us = (some index, e') ∧
        e'.free_output_indices_ = rest ∧
          e'.index_to_fd_ = Function.update e.index_to_fd_ index (some fd) := by
  unfold VideoEncoder.submitQueue
  cases hready : checks.ready with
  | false => exact Or.inl ⟨e, rfl, rfl, List.Perm.refl _⟩
  | true =>
    rw [if_neg (by decide)]
    cases hfree : e.free_output_indices_ with
    | nil => exact Or.inl ⟨e, rfl, rfl, by rw [hfree]⟩
    | cons index rest =>
      simp only
      split_ifs with hbad
      · exact Or.inl ⟨_, rfl, rfl, List.perm_append_singleton index rest⟩
      · exact Or.inr ⟨index, rest, _, rfl, rfl, rfl, rfl⟩

theorem OwnedWith.submitQueue {checks : SubmitChecks} {timestamp_us : UInt64} (h : r.Owned)
    (hpending : r.encode = .pending id) :
    ({ r with
      encoder := (r.encoder.submitQueue checks (r.fdOf id) timestamp_us).2
      encode := (r.encoder.submitQueue checks (r.fdOf id) timestamp_us).1.elim
        (.refused id) (.submitting id) } : Nv12Run).Owned := by
  have hbalanced := h.balanced
  have hunqueued := h.holds.stage
  have hindices := h.holds.indices
  rw [hpending] at hbalanced hunqueued hindices
  rcases submitQueue_cases r.encoder checks (r.fdOf id) timestamp_us with
    ⟨e, hsubmit, hmap, hperm⟩ | ⟨index, rest, e, hfree, hsubmit, hrest, hmap⟩
  · -- refused before anything is queued
    rw [hsubmit, Option.elim_none]
    have hkept : ∀ other ∈ r.inputs, e.index_to_fd_ other = r.encoder.index_to_fd_ other :=
      fun other _ => by rw [hmap]
    exact {
      balanced := hbalanced
      counted := h.counted.of_same rfl rfl rfl rfl (by rw [hpending]; rfl)
      holds := by
        refine h.holds.of_encoder hkept ?_ (Unqueued.of_encoder hunqueued hkept)
        exact ((hperm.append_right _).append_right _).nodup_iff.mpr hindices }
  · rw [hsubmit, Option.elim_some]
    rw [hfree] at hindices
    -- the driver holds other inputs than the one taken
    have hkept : ∀ other ∈ r.inputs, e.index_to_fd_ other = r.encoder.index_to_fd_ other := by
      intro other hother
      have hne : other ≠ index := by
        rintro rfl
        exact (List.nodup_cons.mp hindices).1 (by simp [hother])
      rw [hmap, Function.update_of_ne hne]
    exact {
      balanced := hbalanced
      counted := h.counted.of_same rfl rfl rfl rfl (by rw [hpending]; rfl)
      holds := by
        refine h.holds.of_encoder hkept ?_ ⟨Unqueued.of_encoder hunqueued hkept, ?_⟩
        · rw [hrest]
          refine List.Perm.nodup_iff ?_ |>.mpr hindices
          show (rest ++ [index] ++ r.inputs).Perm (index :: rest ++ [] ++ r.inputs)
          rw [List.append_nil]
          exact (List.perm_append_singleton index rest).append_right _
        · show e.index_to_fd_ index = some (r.fdOf id)
          rw [hmap, Function.update_self] }

/-- An accepted input is the driver's, a refused one is free again. -/
theorem OwnedWith.submitFinish {index : ℕ} (h : r.Owned)
    (hsubmitting : r.encode = .submitting id index) (qBuffer : Bool) :
    ({ r with
      encoder := (r.encoder.submitFinish index qBuffer).2
      inputs := if (r.encoder.submitFinish index qBuffer).1 then r.inputs ++ [index] else r.inputs
      encode := if (r.encoder.submitFinish index qBuffer).1 then .accepted id
        else .refused id } : Nv12Run).Owned := by
  have hbalanced := h.balanced
  have hstage := h.holds.stage
  have hindices := h.holds.indices
  rw [hsubmitting] at hbalanced hstage hindices
  obtain ⟨hunqueued, hmap⟩ := hstage
  have hsplit := List.nodup_append.mp hindices
  have hfresh : index ∉ r.inputs := fun hmem =>
    hsplit.2.2 index (List.mem_append_right _ (List.mem_singleton_self index)) index hmem rfl
  cases qBuffer with
  | true =>
    exact {
      balanced := hbalanced
      counted := h.counted.of_same rfl rfl rfl rfl (by rw [hsubmitting]; rfl)
      holds := {
        keyed := h.holds.keyed
        -- the new input is under the descriptor that `submitQueue` noted for it
        queued := by
          intro other hother
          rcases List.mem_append.mp hother with hold | hnew
          · exact h.holds.queued other hold
          · rw [List.mem_singleton.mp hnew]
            exact ⟨r.fdOf id, hmap, Option.isSome_iff_exists.mpr ⟨id, hunqueued.1⟩⟩
        -- no input of the driver had that descriptor before
        apart := by
          intro first hfirst second hsecond hsame
          rcases List.mem_append.mp hfirst with hold | hnew
          · rcases List.mem_append.mp hsecond with hold' | hnew'
            · exact h.holds.apart first hold second hold' hsame
            · rw [List.mem_singleton.mp hnew'] at hsame
              exact absurd (hsame.trans hmap) (hunqueued.2 first hold)
          · rw [List.mem_singleton.mp hnew] at hsame ⊢
            rcases List.mem_append.mp hsecond with hold' | hnew'
            · exact absurd (hsame.symm.trans hmap) (hunqueued.2 second hold')
            · exact (List.mem_singleton.mp hnew').symm
        indices := by
          refine List.Perm.nodup_iff ?_ |>.mpr hindices
          show (r.encoder.free_output_indices_ ++ [] ++ (r.inputs ++ [index])).Perm
            (r.encoder.free_output_indices_ ++ [index] ++ r.inputs)
          rw [List.append_nil, List.append_assoc]
          exact List.perm_append_comm.append_left _
        stage := trivial } }
  | false =>
    -- the other inputs are not touched when the note is taken back
    have hkept : ∀ other ∈ r.inputs,
        Function.update r.encoder.index_to_fd_ index none other =
          r.encoder.index_to_fd_ other := by
      intro other hother
      apply Function.update_of_ne
      rintro rfl
      exact hfresh hother
    exact {
      balanced := hbalanced
      counted := h.counted.of_same rfl rfl rfl rfl (by rw [hsubmitting]; rfl)
      holds := by
        refine @EncoderHolds.of_encoder r _ (.refused id) h.holds hkept ?_ ?_
        · show (r.encoder.free_output_indices_ ++ [index] ++ [] ++ r.inputs).Nodup
          rw [List.append_nil]
          exact hindices
        · exact Unqueued.of_encoder hunqueued hkept }

/-! ### The entries -/

/-- An entry that no input of the driver is under can go. -/
theorem EncoderHolds.erase {fd : ℤ} {stage : EncodeStage} (h : r.EncoderHolds)
    (hunqueued : ∀ index ∈ r.inputs, r.encoder.index_to_fd_ index ≠ some fd)
    (htaken : stage.taken = r.encode.taken)
    (hstage : ∀ r' : Nv12Run, r'.AtStage stage) :
    ({ r with
      encoder_pending_frames_by_fd_ := Function.update r.encoder_pending_frames_by_fd_ fd none
      encode := stage } : Nv12Run).EncoderHolds where
  keyed := by
    intro other id hentry
    replace hentry : Function.update r.encoder_pending_frames_by_fd_ fd none other = some id :=
      hentry
    by_cases hsame : other = fd
    · rw [hsame, Function.update_self] at hentry
      cases hentry
    · rw [Function.update_of_ne hsame] at hentry
      exact h.keyed other id hentry
  queued := by
    intro index hindex
    obtain ⟨other, hmap, hentry⟩ := h.queued index hindex
    refine ⟨other, hmap, ?_⟩
    -- the entries of the driver's inputs stay
    have hne : other ≠ fd := by
      rintro rfl
      exact hunqueued index hindex hmap
    show (Function.update r.encoder_pending_frames_by_fd_ fd none other).isSome
    rw [Function.update_of_ne hne]
    exact hentry
  apart := h.apart
  indices := by
    show (r.encoder.free_output_indices_ ++ stage.taken ++ r.inputs).Nodup
    rw [htaken]
    exact h.indices
  stage := hstage _

/-- A refused submit drops the entry; the frame goes on leaving. -/
theorem OwnedWith.erasePending (h : r.Owned) (hrefused : r.encode = .refused id) :
    ({ r.erasePending id with encode := .leaving id } : Nv12Run).Owned := by
  have hbalanced := h.balanced
  have hunqueued := h.holds.stage
  rw [hrefused] at hbalanced hunqueued
  -- the stage is written after the drop, which does not read it
  have herase : ({ r.erasePending id with encode := .leaving id } : Nv12Run) =
      ({ r with
        encoder_pending_frames_by_fd_ :=
          Function.update r.encoder_pending_frames_by_fd_ (r.fdOf id) none
        encode := .leaving id } : Nv12Run).dropFrame id := by
    unfold Nv12Run.erasePending
    simp only [hunqueued.1, dropFrame_eq]
  rw [herase]
  apply OwnedWith.dropFrame
  exact {
    balanced := hbalanced
    counted := by
      refine (h.counted.fromEntry hunqueued.1 rfl).of_same rfl rfl rfl rfl ?_
      show _ = r.encode.stack
      rw [hrefused]
      rfl
    holds := h.holds.erase hunqueued.2 (by rw [hrefused]; rfl) fun _ => trivial }

/-- The frame on the stack is dropped. -/
theorem OwnedWith.leave (h : r.Owned) (hleaving : r.encode = .leaving id) :
    (({ r with encode := .idle } : Nv12Run).dropFrame id).Owned := by
  apply OwnedWith.dropFrame
  have hbalanced := h.balanced
  rw [hleaving] at hbalanced
  exact {
    balanced := hbalanced
    counted := h.counted.fromStack (by rw [hleaving]; rfl) rfl
    holds := h.holds.of_same rfl rfl rfl rfl (by rw [hleaving]; rfl) trivial }

/-! ### The inputs that the driver returns -/

/-- The other inputs of the driver keep their descriptors. -/
theorem EncoderHolds.drain {index : ℕ} {e : VideoEncoder} (h : r.EncoderHolds)
    (hidle : r.encode = .idle) (hindex : index ∈ r.inputs)
    (hmap : e.index_to_fd_ = Function.update r.encoder.index_to_fd_ index none)
    (hfree : e.free_output_indices_ = r.encoder.free_output_indices_ ++ [index]) :
    ({ r with encoder := e, inputs := r.inputs.erase index } : Nv12Run).EncoderHolds := by
  have hindices := h.indices
  rw [hidle] at hindices
  have hnodup : r.inputs.Nodup := hindices.of_append_right
  have hkept : ∀ other ∈ r.inputs.erase index, other ∈ r.inputs ∧
      e.index_to_fd_ other = r.encoder.index_to_fd_ other := by
    intro other hother
    obtain ⟨hne, hmem⟩ := hnodup.mem_erase_iff.mp hother
    rw [hmap, Function.update_of_ne hne]
    exact ⟨hmem, rfl⟩
  exact {
    keyed := h.keyed
    queued := by
      intro other hother
      obtain ⟨hmem, hsame⟩ := hkept other hother
      obtain ⟨fd, hfd, hentry⟩ := h.queued other hmem
      exact ⟨fd, hsame.trans hfd, hentry⟩
    apart := by
      intro first hfirst second hsecond hsame
      obtain ⟨hmem, hfst⟩ := hkept first hfirst
      obtain ⟨hmem', hsnd⟩ := hkept second hsecond
      exact h.apart first hmem second hmem' (hfst.symm.trans (hsame.trans hsnd))
    indices := by
      refine List.Perm.nodup_iff ?_ |>.mpr hindices
      show (e.free_output_indices_ ++ r.encode.taken ++ r.inputs.erase index).Perm
        (r.encoder.free_output_indices_ ++ [] ++ r.inputs)
      rw [hfree, hidle, List.append_assoc, List.append_assoc, List.append_assoc]
      exact (List.perm_cons_erase hindex).symm.append_left _
    stage := by
      show AtStage _ r.encode
      rw [hidle]
      trivial }

/-- A returned input has an entry: its frame moves to the stack, and nothing is released
directly. -/
theorem OwnedWith.drainInputDone {index : ℕ} (h : r.Owned) (hidle : r.encode = .idle)
    (hindex : index ∈ r.inputs) :
    ((r.encoder.drainInputDone index).1.elim
      { r with
        encoder := (r.encoder.drainInputDone index).2
        inputs := r.inputs.erase index }
      ({ r with
        encoder := (r.encoder.drainInputDone index).2
        inputs := r.inputs.erase index } : Nv12Run).onEncoderInputDone).Owned := by
  obtain ⟨fd, hmap, hsome⟩ := h.holds.queued index hindex
  obtain ⟨id, hentry⟩ := Option.isSome_iff_exists.mp hsome
  have hkey := h.holds.keyed fd id hentry
  obtain ⟨frame, place, -, hframe, hplace, -⟩ := h.frame (owners_pos_of_pending h.holds hentry)
  -- the descriptor is one of the pool, so the callback is called
  have hfd : fd ≥ 0 := by
    rw [← hkey, hframe]
    exact Nv12Pool.fd_nonneg (by rw [hplace]; rfl)
  have hdone : (r.encoder.drainInputDone index).1 = some fd := by
    unfold VideoEncoder.drainInputDone
    simp only [hmap, Option.getD_some]
    rw [if_pos hfd]
  rw [hdone, Option.elim_some]
  unfold onEncoderInputDone
  simp only [hentry]
  have hbalanced := h.balanced
  rw [hidle] at hbalanced
  have hnodup : r.inputs.Nodup := h.holds.indices.of_append_right
  have hdrained : ({ r with
      encoder := (r.encoder.drainInputDone index).2
      inputs := r.inputs.erase index } : Nv12Run).EncoderHolds :=
    h.holds.drain hidle hindex rfl rfl
  exact {
    balanced := hbalanced
    counted := by
      have hfree : r.encode.stack = none := by
        rw [hidle]
        rfl
      refine CountedWith.of_same ?_ rfl rfl rfl rfl rfl
      exact CountedWith.toStack (h.counted.fromEntry hentry hkey) hfree rfl
    holds := by
      refine hdrained.erase ?_ (by show _ = r.encode.taken; rw [hidle]; rfl) fun _ => trivial
      -- another input with this descriptor would be the returned one
      intro other hother hsame
      obtain ⟨hne, hmem⟩ := hnodup.mem_erase_iff.mp hother
      replace hsame : Function.update r.encoder.index_to_fd_ index none other = some fd := hsame
      rw [Function.update_of_ne hne] at hsame
      exact hne (h.holds.apart other hmem index hindex (hsame.trans hmap.symm)) }

/-! ## Events of the eye image thread -/

theorem OwnedWith.clearQueue (h : r.Owned) : r.clearQueue.Owned := by
  unfold Nv12Run.clearQueue
  apply OwnedWith.foldl
  exact {
    balanced := h.balanced
    counted := h.counted.fromQueue
    holds := h.holds.of_eye [] r.eye_image_inflight_ r.eye }

theorem encode_clearQueue (r : Nv12Run) : r.clearQueue.encode = r.encode :=
  (dropped_foldl { r with nv12_queue_ := [] } r.nv12_queue_).encode

/-- The queue takes the frame, another owner, and has dropped those it held. -/
theorem OwnedWith.pushEyeImage (h : r.Owned) (hhanding : r.encode = .handing id) :
    ({ r.pushEyeImage id with encode := .leaving id } : Nv12Run).Owned := by
  have hcleared := h.clearQueue
  have hstage := (encode_clearQueue r).trans hhanding
  unfold Nv12Run.pushEyeImage
  -- from here on only the cleared state matters
  generalize r.clearQueue = r' at hcleared hstage
  have hbalanced := hcleared.balanced
  rw [hstage] at hbalanced
  have howned := hcleared.use_count_pos (owners_pos_of_stack (by rw [hstage]; rfl))
  exact {
    balanced := Balanced.copy hbalanced howned
    counted := by
      refine (hcleared.counted.copy id).toQueue.of_same rfl rfl rfl rfl ?_
      show _ = r'.encode.stack
      rw [hstage]
      rfl
    holds := hcleared.holds.of_same rfl rfl rfl rfl (by rw [hstage]; rfl) trivial }

/-- The last frame of the queue moves to the eye image thread, the others are dropped. -/
theorem OwnedWith.eyePop (h : r.Owned) (hfree : r.eye = none)
    (hlast : r.nv12_queue_.getLast? = some id) :
    (r.nv12_queue_.dropLast.foldl Nv12Run.dropFrame
      { r with nv12_queue_ := [], eye := some (id, false) }).Owned := by
  have hqueue : r.nv12_queue_ = r.nv12_queue_.dropLast ++ [id] :=
    (List.dropLast_append_getLast? id hlast).symm
  -- the popped frame is in hand first, then the skipped ones
  have hperm : r.nv12_queue_.Perm (id :: r.nv12_queue_.dropLast) := by
    rw [hqueue, List.dropLast_concat]
    exact List.perm_append_singleton id _
  apply OwnedWith.foldl
  exact {
    balanced := h.balanced
    counted := (h.counted.fromQueue.perm hperm).toEye hfree
    holds := h.holds.of_eye [] r.eye_image_inflight_ (some (id, false)) }

theorem OwnedWith.eyeClear (h : r.Owned) (heye : r.eye = some (id, false)) :
    ({ r with eye_image_inflight_ := false, eye := some (id, true) } : Nv12Run).Owned where
  balanced := h.balanced
  counted := by
    intro other
    have hcount := h.counted other
    unfold owners at hcount ⊢
    rw [heye] at hcount
    exact hcount
  holds := h.holds.of_eye r.nv12_queue_ false (some (id, true))

/-- `frame_data` is dropped. -/
theorem OwnedWith.eyeLeave {cleared : Bool} (h : r.Owned) (heye : r.eye = some (id, cleared)) :
    (({ r with eye := none } : Nv12Run).dropFrame id).Owned := by
  apply OwnedWith.dropFrame
  exact {
    balanced := h.balanced
    counted := h.counted.fromEye heye
    holds := h.holds.of_eye r.nv12_queue_ r.eye_image_inflight_ none }

/-! ## Runs -/

/-- One event keeps every buffer owned once: it moves an owner, adds one or drops one. -/
theorem OwnedWith.step {event : Nv12Event} (h : r.Owned) (hstep : r.step event = some r') :
    r'.Owned := by
  cases event <;> simp only [Nv12Run.step] at hstep
  case acquire ready =>
    split at hstep
    case h_1 hidle =>
      split_ifs at hstep <;> cases hstep
      · exact h.acquire hidle
      · exact h
    case h_2 => cases hstep
  case convert checks =>
    split at hstep <;> cases hstep
    case h_1 out_idx hprocessing =>
      apply h.convert hprocessing
      split_ifs
      · exact Nv12Pool.processYuv422_cases r.pool out_idx checks
      · exact Nv12Pool.transformSync_cases r.pool out_idx checks
  case makeFrame timestamp_us =>
    split at hstep <;> cases hstep
    case h_1 dmabuf_fd hforwarded => exact h.makeFrame hforwarded timestamp_us
  case noEncoder =>
    split at hstep <;> cases hstep
    case h_1 frame hmade =>
      exact h.of_stage (by rw [hmade]; rfl) (by rw [hmade]; rfl) (by rw [hmade]; rfl) trivial
  case insertPending =>
    split at hstep <;> cases hstep
    case h_1 frame hmade => exact h.insertPending hmade
  case submitQueue checks =>
    split at hstep <;> cases hstep
    case h_1 frame hpending => exact h.submitQueue hpending
  case submitFinish qBuffer =>
    split at hstep <;> cases hstep
    case h_1 frame index hsubmitting => exact h.submitFinish hsubmitting qBuffer
  case erasePending =>
    split at hstep <;> cases hstep
    case h_1 frame hrefused => exact h.erasePending hrefused
  case gateEyeImage checks =>
    split at hstep
    case h_1 frame haccepted =>
      have hmoved : ∀ stage : EncodeStage, stage = .handing frame ∨ stage = .leaving frame →
          ({ r with encode := stage } : Nv12Run).Owned := by
        rintro stage (rfl | rfl) <;>
          exact h.of_stage (by rw [haccepted]; rfl) (by rw [haccepted]; rfl)
            (by rw [haccepted]; rfl) trivial
      split_ifs at hstep <;> cases hstep
      · exact (hmoved _ (Or.inl rfl)).of_flag true
      · exact hmoved _ (Or.inr rfl)
    case h_2 => cases hstep
  case pushEyeImage =>
    split at hstep <;> cases hstep
    case h_1 frame hhanding => exact h.pushEyeImage hhanding
  case leave =>
    split at hstep <;> cases hstep
    case h_1 frame hleaving => exact h.leave hleaving
  case drainInputDone index =>
    split_ifs at hstep with hreturn
    cases hstep
    exact h.drainInputDone hreturn.1 hreturn.2
  case eyePop =>
    split at hstep <;> cases hstep
    case h_1 frame hfree hlast => exact h.eyePop hfree hlast
  case eyeClear =>
    split at hstep <;> cases hstep
    case h_1 frame heye => exact h.eyeClear heye
  case eyeLeave =>
    split at hstep <;> cases hstep
    case h_1 frame heye => exact h.eyeLeave heye
  case eyeStop =>
    split_ifs at hstep
    cases hstep
    exact h.clearQueue.of_flag false

theorem dmabuf_fds_clearQueue (r : Nv12Run) :
    r.clearQueue.pool.dmabuf_fds_ = r.pool.dmabuf_fds_ :=
  (dropped_foldl { r with nv12_queue_ := [] } r.nv12_queue_).fds

/-- The descriptors of the pool never change. -/
theorem dmabuf_fds_step {event : Nv12Event} (hstep : r.step event = some r') :
    r'.pool.dmabuf_fds_ = r.pool.dmabuf_fds_ := by
  cases event <;> simp only [Nv12Run.step] at hstep
  case acquire ready =>
    split at hstep
    case h_1 hidle =>
      split_ifs at hstep <;> cases hstep
      · rcases Nv12Pool.acquireOutput_cases r.pool with hnone | ⟨index, rest, -, hsome⟩
        · rw [hnone]
        · rw [hsome]
      · rfl
    case h_2 => cases hstep
  -- of both components only the free queue changes
  case convert checks =>
    split at hstep <;> cases hstep
    case h_1 out_idx hprocessing =>
      show (if r.undistorted then _ else _ : Option ℤ × Nv12Pool).2.dmabuf_fds_ = _
      split_ifs
      · rcases Nv12Pool.processYuv422_cases r.pool out_idx checks with hdone | hdone
        · exact congrArg (fun done => done.2.dmabuf_fds_) hdone
        · exact congrArg (fun done => done.2.dmabuf_fds_) hdone
      · rcases Nv12Pool.transformSync_cases r.pool out_idx checks with hdone | hdone
        · exact congrArg (fun done => done.2.dmabuf_fds_) hdone
        · exact congrArg (fun done => done.2.dmabuf_fds_) hdone
  case insertPending =>
    split at hstep <;> cases hstep
    case h_1 frame hmade =>
      show (r.insertPending frame).pool.dmabuf_fds_ = _
      unfold Nv12Run.insertPending
      simp only
      split
      · exact (dropped_dropFrame _ _).fds
      · rfl
  case erasePending =>
    split at hstep <;> cases hstep
    case h_1 frame hrefused =>
      show (r.erasePending frame).pool.dmabuf_fds_ = _
      unfold Nv12Run.erasePending
      simp only
      split
      · exact (dropped_dropFrame _ _).fds
      · rfl
  case gateEyeImage checks =>
    split at hstep
    case h_1 frame haccepted => split_ifs at hstep <;> cases hstep <;> rfl
    case h_2 => cases hstep
  case pushEyeImage =>
    split at hstep <;> cases hstep
    case h_1 frame hhanding => exact dmabuf_fds_clearQueue r
  case leave =>
    split at hstep <;> cases hstep
    case h_1 frame hleaving => exact (dropped_dropFrame _ _).fds
  case drainInputDone index =>
    split_ifs at hstep with hreturn
    cases hstep
    -- the driver names a descriptor or none
    cases (r.encoder.drainInputDone index).1 with
    | none => rfl
    | some fd =>
      rw [Option.elim_some]
      unfold onEncoderInputDone
      split
      · rfl
      · exact Nv12Pool.dmabuf_fds_releaseFd _ _
  case eyePop =>
    split at hstep <;> cases hstep
    case h_1 frame hfree hlast => exact (dropped_foldl _ _).fds
  case eyeLeave =>
    split at hstep <;> cases hstep
    case h_1 frame heye => exact (dropped_dropFrame _ _).fds
  case eyeStop =>
    split_ifs at hstep
    cases hstep
    exact dmabuf_fds_clearQueue r
  all_goals
    split at hstep <;> cases hstep
    rfl

theorem started_owned (undistorted : Bool) (pool : Nv12Pool) (inputs : ℕ) :
    (started undistorted pool inputs).Owned where
  balanced := {
    wellFormed := {
      named := fun id => by simp [started]
      unowned := fun _ _ => rfl }
    once := by
      show (List.range pool.dmabuf_fds_.length ++ [] ++ []).Perm _
      rw [List.append_nil, List.append_nil]
      exact List.Perm.refl _
    known := fun _ _ hframe => by cases hframe }
  counted := fun _ => rfl
  holds := {
    keyed := fun _ _ hentry => by cases hentry
    queued := fun _ hindex => by cases hindex
    apart := fun _ hindex => by cases hindex
    indices := by
      show (List.range inputs ++ [] ++ []).Nodup
      rw [List.append_nil, List.append_nil]
      exact List.nodup_range
    stage := trivial }

/-- The index of a frame that someone owns is not free. -/
theorem OwnedWith.not_free (h : r.Owned) (howned : 0 < r.owners id) :
    ∃ frame index, r.frames.object id = some frame ∧
      r.pool.fd_to_index_ frame.fd = some index ∧ index ∉ r.pool.free_indices_ := by
  obtain ⟨frame, index, hframe, -, hindex, hmem⟩ := h.frame howned
  refine ⟨frame, index, hframe, hindex, fun hfree => ?_⟩
  have hdisjoint := List.disjoint_of_nodup_append h.balanced.nodup
  exact hdisjoint (List.mem_append_left _ hfree) hmem

/-! ## Main result -/

/-- In every state of every run, whichever pool it is and however large, every index is held
once: in the free queue, by the encode thread while it fills the buffer, or by one shared
frame with an owner. The reference counts are the numbers of owners, and neither a frame
that someone owns nor an input that the driver has not returned uses a free index. -/
theorem nv12_owned_once {undistorted : Bool} {pool : Nv12Pool} {inputs : ℕ}
    {events : List Nv12Event} {r : Nv12Run}
    (hrun : runSteps Nv12Run.step (started undistorted pool inputs) events = some r) :
    (r.pool.free_indices_ ++ r.encode.held r.pool ++
        frameIndices r.pool r.frames.objects).Perm (List.range pool.dmabuf_fds_.length) ∧
      (∀ id, r.frames.use_count id = r.owners id) ∧
      (∀ id, 0 < r.owners id → ∃ frame index, r.frames.object id = some frame ∧
        r.pool.fd_to_index_ frame.fd = some index ∧ index ∉ r.pool.free_indices_) ∧
      ∀ input ∈ r.inputs, ∃ fd index, r.encoder.index_to_fd_ input = some fd ∧
        r.pool.fd_to_index_ fd = some index ∧ index ∉ r.pool.free_indices_ := by
  have h : r.Owned :=
    runSteps_invariant (fun _ _ _ h hstep => h.step hstep)
      (started_owned undistorted pool inputs) hrun
  have hfds : r.pool.dmabuf_fds_ = pool.dmabuf_fds_ := by
    refine @runSteps_invariant _ _ Nv12Run.step
      (fun state => state.pool.dmabuf_fds_ = pool.dmabuf_fds_) ?_ _ _ _ rfl hrun
    intro state event state' hsame hstep
    exact (dmabuf_fds_step hstep).trans hsame
  -- the four parts, read off the invariant
  refine ⟨?_, ?_, ?_, ?_⟩
  · rw [← hfds]
    exact h.balanced.once
  · exact h.counted
  · intro id howned
    exact h.not_free howned
  · intro input hinput
    -- the entry of an input is an owner of the frame with its descriptor
    obtain ⟨fd, hmap, hentry⟩ := h.holds.queued input hinput
    obtain ⟨id, hid⟩ := Option.isSome_iff_exists.mp hentry
    obtain ⟨frame, index, hframe, hindex, hfree⟩ :=
      h.not_free (owners_pos_of_pending h.holds hid)
    have hfd : fd = frame.fd := by
      rw [← h.holds.keyed fd id hid, fdOf, hframe]
      rfl
    exact ⟨fd, index, hmap, hfd ▸ hindex, hfree⟩

/-- Two buffers and one input: the first frame goes to the driver and to the eye image thread,
the second finds no input, and the driver returns the first while the thread still reads it. -/
theorem nv12_owned_once_two_buffers :
    ∃ r, runSteps Nv12Run.step (started true ⟨[7, 9], [], by decide, by decide⟩ 1)
        [.acquire true, .convert {}, .makeFrame 10, .insertPending, .submitQueue {},
          .submitFinish true, .gateEyeImage {}, .pushEyeImage, .leave, .acquire true, .convert {},
          .makeFrame 20, .insertPending, .submitQueue {}, .erasePending, .leave, .eyePop,
          .drainInputDone 0, .leave] = some r ∧
      r.pool.free_indices_ = [1] ∧ r.owners 0 = 1 ∧ r.owners 1 = 0 ∧
      (r.pool.free_indices_ ++ r.encode.held r.pool ++
        frameIndices r.pool r.frames.objects).Perm (List.range 2) := by
  refine ⟨_, rfl, by decide, by decide, by decide, ?_⟩
  exact (@nv12_owned_once true ⟨[7, 9], [], by decide, by decide⟩ 1
    [.acquire true, .convert {}, .makeFrame 10, .insertPending, .submitQueue {},
      .submitFinish true, .gateEyeImage {}, .pushEyeImage, .leave, .acquire true, .convert {},
      .makeFrame 20, .insertPending, .submitQueue {}, .erasePending, .leave, .eyePop,
      .drainInputDone 0, .leave] _ rfl).1

end Nv12Run

end TeleopBridge.Video
