import Mathlib.Data.List.GetD
import Mathlib.Data.List.Perm.Lattice
import TeleopBridge.Video.Nv12Frames

/-!
# NV12 Balance

The two books of an NV12 pool: which index has which holder, and which shared frame has how
many owners. Both are kept by the operations on the pool and on the heap of shared frames.

## Key Results

- `Balanced.acquire`, `giveBack`, `make`, `copy`, `release`: every index has one holder.
- `CountedWith.dropFrame` and the moves behind it: every count is the number of owners, when
  an owner changes its place.
-/

namespace TeleopBridge.Video

open Support

/-! ## The pool -/

namespace Nv12Pool

variable {pool : Nv12Pool}

/-- The pool looks an index up by its descriptor. -/
theorem fd_to_index_eq_some {fd : ℤ} {index : ℕ} (h : pool.fd_to_index_ fd = some index) :
    pool.dmabuf_fds_[index]? = some fd := by
  obtain ⟨hlt, hget, -⟩ := List.idxOf?_eq_some_iff.mp h
  rw [List.getElem?_eq_getElem hlt]
  exact congrArg some hget

/-- A descriptor of the pool is not negative. -/
theorem fd_nonneg {fd : ℤ} (h : (pool.fd_to_index_ fd).isSome) : 0 ≤ fd := by
  obtain ⟨index, hindex⟩ := Option.isSome_iff_exists.mp h
  exact pool.nonneg fd (List.mem_of_getElem? (fd_to_index_eq_some hindex))

/-- The descriptors differ, so each has its own index. -/
theorem fd_to_index_getD {index : ℕ} (h : index < pool.dmabuf_fds_.length) :
    pool.fd_to_index_ (pool.dmabuf_fds_.getD index (-1)) = some index := by
  rw [List.getD_eq_getElem _ _ h]
  -- an earlier index with the same descriptor would be a second one
  refine List.idxOf?_eq_some_iff.mpr ⟨h, rfl, fun other hother hsame => ?_⟩
  exact absurd (pool.distinct.getElem_inj_iff.mp hsame) (Nat.ne_of_lt hother)

/-- Releasing gives an index back, and no descriptor away. -/
theorem dmabuf_fds_releaseFd (pool : Nv12Pool) (fd : ℤ) :
    (pool.releaseFd fd).dmabuf_fds_ = pool.dmabuf_fds_ := by
  unfold releaseFd
  split <;> rfl

/-- What `acquireOutput` does: nothing, or the first free index is taken. -/
theorem acquireOutput_cases (pool : Nv12Pool) :
    pool.acquireOutput = (none, pool) ∨
      ∃ index rest, pool.free_indices_ = index :: rest ∧
        pool.acquireOutput = (some index, { pool with free_indices_ := rest }) := by
  unfold acquireOutput
  cases hfree : pool.free_indices_ with
  | nil => exact Or.inl rfl
  | cons index rest => exact Or.inr ⟨index, rest, rfl, rfl⟩

/-- Both conversions give the index back, or put out its descriptor. -/
theorem transformSync_cases (pool : Nv12Pool) (out_idx : ℕ) (checks : ConversionChecks) :
    pool.transformSync out_idx checks = (none, pool.push out_idx) ∨
      pool.transformSync out_idx checks = (some (pool.dmabuf_fds_.getD out_idx (-1)), pool) := by
  unfold transformSync
  split_ifs
  · exact Or.inl rfl
  · exact Or.inl rfl
  · exact Or.inl rfl
  · exact Or.inr rfl

/-- A conversion that fails gives its index back at once. -/
theorem processYuv422_cases (pool : Nv12Pool) (out_idx : ℕ) (checks : ConversionChecks) :
    pool.processYuv422 out_idx checks = (none, pool.push out_idx) ∨
      pool.processYuv422 out_idx checks = (some (pool.dmabuf_fds_.getD out_idx (-1)), pool) := by
  unfold processYuv422
  split_ifs
  · exact Or.inl rfl
  · exact Or.inr rfl

end Nv12Pool

/-! ## Every index has one holder -/

/-- The indices of shared frames. -/
def frameIndices (pool : Nv12Pool) (frames : List SharedNv12Frame) : List ℕ :=
  frames.filterMap fun frame => pool.fd_to_index_ frame.fd

/-- The index that the encode thread holds without a shared frame. -/
def EncodeStage.held (pool : Nv12Pool) : EncodeStage → List ℕ
  | .processing out_idx => [out_idx]
  | .forwarded dmabuf_fd => (pool.fd_to_index_ dmabuf_fd).toList
  | _ => []

/-- The input that `submit` has taken and not queued yet. -/
def EncodeStage.taken : EncodeStage → List ℕ
  | .submitting _ index => [index]
  | _ => []

/-- The free indices, `held` and the live shared frames have every index once between them;
all frames are of the pool. -/
structure Balanced (pool : Nv12Pool) (frames : SharedHeap SharedNv12Frame) (held : List ℕ) :
    Prop where
  wellFormed : frames.WellFormed
  once : (pool.free_indices_ ++ held ++ frameIndices pool frames.objects).Perm
    (List.range pool.dmabuf_fds_.length)
  known : ∀ id frame, frames.object id = some frame → (pool.fd_to_index_ frame.fd).isSome

section

variable {pool : Nv12Pool} {frames : SharedHeap SharedNv12Frame} {held : List ℕ} {index : ℕ}

/-- No index is in two places. -/
theorem Balanced.nodup (h : Balanced pool frames held) :
    (pool.free_indices_ ++ held ++ frameIndices pool frames.objects).Nodup :=
  h.once.nodup_iff.mpr List.nodup_range

/-- An index moves from the free queue to the encode thread. -/
theorem Balanced.acquire {rest : List ℕ} (h : Balanced pool frames [])
    (hfree : pool.free_indices_ = index :: rest) :
    Balanced { pool with free_indices_ := rest } frames [index] where
  wellFormed := h.wellFormed
  once := by
    have hperm := h.once
    rw [hfree, List.append_nil] at hperm
    refine List.Perm.trans ?_ hperm
    show (rest ++ [index] ++ _).Perm (index :: rest ++ _)
    exact (List.perm_append_singleton index rest).append_right _
  known := h.known

/-- It moves back. -/
theorem Balanced.giveBack (h : Balanced pool frames [index]) :
    Balanced (pool.push index) frames [] where
  wellFormed := h.wellFormed
  once := by
    show (pool.free_indices_ ++ [index] ++ [] ++ frameIndices pool frames.objects).Perm _
    rw [List.append_nil]
    exact h.once
  known := h.known

/-- The index that a thread holds is one of the pool. -/
theorem Balanced.index_lt (h : Balanced pool frames [index]) :
    index < pool.dmabuf_fds_.length := by
  have hmem := h.once.mem_iff (a := index)
  simpa using hmem

/-- The frame that is made of a forwarded buffer takes its index over. -/
theorem Balanced.make {fd : ℤ} (h : Balanced pool frames (pool.fd_to_index_ fd).toList)
    (hknown : (pool.fd_to_index_ fd).isSome) (timestamp_us : UInt64) :
    Balanced pool (frames.make ⟨fd, timestamp_us⟩) [] where
  wellFormed := h.wellFormed.make _
  once := by
    -- the new frame has the index that the thread held
    have hframe : frameIndices pool [⟨fd, timestamp_us⟩] = (pool.fd_to_index_ fd).toList := by
      obtain ⟨index, hindex⟩ := Option.isSome_iff_exists.mp hknown
      simp [frameIndices, hindex]
    rw [SharedHeap.objects_make, frameIndices, List.filterMap_append]
    change (pool.free_indices_ ++ [] ++
      (frameIndices pool frames.objects ++ frameIndices pool [⟨fd, timestamp_us⟩])).Perm _
    rw [hframe, List.append_nil]
    refine List.Perm.trans ?_ h.once
    rw [List.append_assoc]
    exact List.perm_append_comm.append_left _
  known := by
    -- the descriptor of every live frame is known to the pool
    intro id frame hframe
    by_cases hsame : id = frames.next
    · subst hsame
      rw [SharedHeap.object_make_next] at hframe
      cases hframe
      exact hknown
    · rw [SharedHeap.object_make_of_ne hsame] at hframe
      exact h.known id frame hframe

/-- A second owner changes no index. -/
theorem Balanced.copy {id : ℕ} (h : Balanced pool frames held)
    (howned : 0 < frames.use_count id) : Balanced pool (frames.copy id) held where
  wellFormed := h.wellFormed.copy howned
  once := by
    rw [SharedHeap.objects_copy howned]
    exact h.once
  known := h.known

/-- The last owner's frame gives its index back. -/
theorem Balanced.release {id : ℕ} {frame : SharedNv12Frame} (h : Balanced pool frames held)
    (hframe : frames.object id = some frame) (hlast : frames.use_count id = 1) :
    Balanced (pool.releaseFd frame.fd) (frames.reset id).2 held := by
  obtain ⟨index, hindex⟩ := Option.isSome_iff_exists.mp (h.known id frame hframe)
  have hrelease : pool.releaseFd frame.fd = pool.push index := by
    rw [Nv12Pool.releaseFd, hindex]
  -- the frame leaves the live objects, so its index leaves the right end of the list
  have hobjects := SharedHeap.objects_reset_last h.wellFormed hframe hlast
  have hcons : frameIndices pool (frame :: (frames.reset id).2.objects) =
      index :: frameIndices pool (frames.reset id).2.objects :=
    List.filterMap_cons_some hindex
  have hindices : (frameIndices pool frames.objects).Perm
      (index :: frameIndices pool (frames.reset id).2.objects) :=
    hcons ▸ hobjects.filterMap _
  rw [hrelease]
  exact {
    wellFormed := h.wellFormed.reset id
    once := by
      refine List.Perm.trans ?_ h.once
      show (pool.free_indices_ ++ [index] ++ held ++
        frameIndices pool (frames.reset id).2.objects).Perm _
      -- from the end of the list into the free indices
      refine List.Perm.trans ?_ (hindices.symm.append_left _)
      rw [List.append_assoc, List.append_assoc, List.append_assoc]
      refine List.Perm.append_left _ ?_
      rw [List.singleton_append]
      exact (List.perm_middle (a := index)).symm
    known := h.known }

end

namespace Nv12Run

variable {r r' : Nv12Run} {held : List ℕ} {id : ℕ}

/-! ## Dropping owners -/

/-- Nothing but reference counts and free indices is different. -/
structure Dropped (r r' : Nv12Run) : Prop where
  undistorted : r'.undistorted = r.undistorted
  fds : r'.pool.dmabuf_fds_ = r.pool.dmabuf_fds_
  encoder : r'.encoder = r.encoder
  inputs : r'.inputs = r.inputs
  object : r'.frames.object = r.frames.object
  pending : r'.encoder_pending_frames_by_fd_ = r.encoder_pending_frames_by_fd_
  queue : r'.nv12_queue_ = r.nv12_queue_
  encode : r'.encode = r.encode
  eye : r'.eye = r.eye

theorem Dropped.refl (r : Nv12Run) : Dropped r r := ⟨rfl, rfl, rfl, rfl, rfl, rfl, rfl, rfl, rfl⟩

/-- Frames may be dropped one after the other. -/
theorem Dropped.trans {r'' : Nv12Run} (h : Dropped r r') (h' : Dropped r' r'') :
    Dropped r r'' where
  undistorted := h'.undistorted.trans h.undistorted
  fds := h'.fds.trans h.fds
  encoder := h'.encoder.trans h.encoder
  inputs := h'.inputs.trans h.inputs
  object := h'.object.trans h.object
  pending := h'.pending.trans h.pending
  queue := h'.queue.trans h.queue
  encode := h'.encode.trans h.encode
  eye := h'.eye.trans h.eye

/-- A drop reaches the pool when it destroys the frame. -/
theorem dropFrame_eq (r : Nv12Run) (id : ℕ) :
    r.dropFrame id = { r with
      frames := (r.frames.reset id).2
      pool := (r.frames.reset id).1.elim r.pool fun frame =>
        if frame.fd ≥ 0 then r.pool.releaseFd frame.fd else r.pool } := by
  unfold dropFrame deleteFrame
  simp only
  cases (r.frames.reset id).1 with
  | none => rfl
  | some frame =>
    simp only [Option.elim_some]
    split_ifs <;> rfl

/-- A drop leaves the other places alone. -/
theorem dropped_dropFrame (r : Nv12Run) (id : ℕ) : Dropped r (r.dropFrame id) := by
  rw [dropFrame_eq]
  refine ⟨rfl, ?_, rfl, rfl, rfl, rfl, rfl, rfl, rfl⟩
  cases (r.frames.reset id).1 with
  | none => rfl
  | some frame =>
    show (if frame.fd ≥ 0 then _ else _ : Nv12Pool).dmabuf_fds_ = _
    split_ifs
    · exact Nv12Pool.dmabuf_fds_releaseFd _ _
    · rfl

/-- So does dropping a whole queue. -/
theorem dropped_foldl (r : Nv12Run) (ids : List ℕ) : Dropped r (ids.foldl dropFrame r) := by
  induction ids generalizing r with
  | nil => exact Dropped.refl r
  | cons id ids ih => exact (dropped_dropFrame r id).trans (ih (r.dropFrame id))

/-- A dropped owner keeps the balance: the index of a frame without owners is pushed. -/
theorem balanced_dropFrame (h : Balanced r.pool r.frames held) :
    Balanced (r.dropFrame id).pool (r.dropFrame id).frames held := by
  rw [dropFrame_eq]
  -- only the last owner calls the deleter
  by_cases hlast : r.frames.use_count id = 1
  · obtain ⟨frame, hframe⟩ := @SharedHeap.WellFormed.exists_object _ _ id h.wellFormed (by omega)
    have hdropped : (r.frames.reset id).1 = some frame := by
      rw [SharedHeap.reset, if_pos hlast, hframe]
    -- the deleter releases a descriptor that is not negative
    have hfd : frame.fd ≥ 0 := Nv12Pool.fd_nonneg (h.known id frame hframe)
    rw [hdropped, Option.elim_some, if_pos hfd]
    exact h.release hframe hlast
  · have hdropped : (r.frames.reset id).1 = none := by
      rw [SharedHeap.reset, if_neg hlast]
    rw [hdropped, Option.elim_none]
    exact {
      wellFormed := h.wellFormed.reset id
      once := by
        rw [SharedHeap.objects_reset_shared hlast]
        exact h.once
      known := h.known }

/-! ## Counting owners -/

/-- How often a place holds a frame. -/
def owns (place : Option ℕ) (id : ℕ) : ℕ := if place = some id then 1 else 0

@[simp] theorem owns_none (id : ℕ) : owns none id = 0 := rfl

/-- A place owns the frame that it holds. -/
@[simp] theorem owns_self (id : ℕ) : owns (some id) id = 1 := if_pos rfl

theorem owns_of_ne {other : ℕ} (h : other ≠ id) : owns (some id) other = 0 :=
  if_neg fun heq => h (Option.some_inj.mp heq).symm

/-- A frame in hand is counted like one in a place. -/
theorem count_cons (id other : ℕ) (ids : List ℕ) :
    List.count other (id :: ids) = owns (some id) other + List.count other ids := by
  by_cases hsame : other = id
  · subst hsame
    rw [List.count_cons_self, owns_self, Nat.add_comm]
  · rw [List.count_cons_of_ne (Ne.symm hsame), owns_of_ne hsame, Nat.zero_add]

/-- The owners of a frame: `shared_frame` or `released` on the stack of the encode thread,
the entry under its descriptor, its places in the queue, and `frame_data` of the eye image
thread. -/
def owners (r : Nv12Run) (id : ℕ) : ℕ :=
  owns r.encode.stack id + owns (r.encoder_pending_frames_by_fd_ (r.fdOf id)) id +
    r.nv12_queue_.count id + owns (r.eye.map Prod.fst) id

/-- The reference counts are the numbers of owners, those in `inHand` included, which are
between two places. -/
def CountedWith (r : Nv12Run) (inHand : List ℕ) : Prop :=
  ∀ id, r.frames.use_count id = r.owners id + inHand.count id

variable {inHand : List ℕ} {stage : EncodeStage}

/-- The order of the frames in hand does not matter. -/
theorem CountedWith.perm {inHand' : List ℕ} (h : r.CountedWith inHand)
    (hperm : inHand.Perm inHand') : r.CountedWith inHand' := by
  intro id
  rw [← hperm.count_eq]
  exact h id

/-- While the places keep their frames, the counts stay right. -/
theorem CountedWith.of_same (h : r.CountedWith inHand) (hframes : r'.frames = r.frames)
    (hpending : r'.encoder_pending_frames_by_fd_ = r.encoder_pending_frames_by_fd_)
    (hqueue : r'.nv12_queue_ = r.nv12_queue_) (heye : r'.eye = r.eye)
    (hstack : r'.encode.stack = r.encode.stack) : r'.CountedWith inHand := by
  intro id
  have hcount := h id
  unfold owners fdOf at hcount ⊢
  rw [hframes, hpending, hqueue, heye, hstack]
  exact hcount

/-- Drops do not rename frames. -/
theorem Dropped.fdOf_eq (h : Dropped r r') (id : ℕ) : r'.fdOf id = r.fdOf id := by
  unfold fdOf
  rw [h.object]

/-- The owners behind a drop are those before it. -/
theorem Dropped.owners_eq (h : Dropped r r') (id : ℕ) : r'.owners id = r.owners id := by
  unfold owners
  rw [h.encode, h.pending, h.fdOf_eq, h.queue, h.eye]

/-- An owner in hand is dropped. -/
theorem CountedWith.dropFrame (h : r.CountedWith (id :: inHand)) :
    (r.dropFrame id).CountedWith inHand := by
  intro other
  rw [(dropped_dropFrame r id).owners_eq, dropFrame_eq]
  show (r.frames.reset id).2.use_count other = _
  have hcount := h other
  rw [count_cons] at hcount
  -- the count of the frame goes down by the one in hand
  by_cases hsame : other = id
  · subst hsame
    rw [owns_self] at hcount
    rw [SharedHeap.use_count_reset_self]
    omega
  · rw [owns_of_ne hsame] at hcount
    rw [SharedHeap.use_count_reset_of_ne hsame]
    omega

/-! ## Moving owners

A copy, or a new frame, is in hand first. From the hand an owner goes to the stack, to the
entry under its descriptor, to the queue or to the eye image thread, and back. -/

/-- A copy is one more owner in hand. -/
theorem CountedWith.copy (h : r.CountedWith inHand) (id : ℕ) :
    ({ r with frames := r.frames.copy id } : Nv12Run).CountedWith (id :: inHand) := by
  intro other
  have hcount := h other
  rw [count_cons]
  show (r.frames.copy id).use_count other =
    r.owners other + (owns (some id) other + List.count other inHand)
  by_cases hsame : other = id
  · subst hsame
    rw [SharedHeap.use_count_copy_self, owns_self]
    omega
  · rw [SharedHeap.use_count_copy_of_ne hsame, owns_of_ne hsame]
    omega

/-- A new frame has its own descriptor. -/
@[simp] theorem fdOf_make_next (r : Nv12Run) (frame : SharedNv12Frame) :
    ({ r with frames := r.frames.make frame } : Nv12Run).fdOf r.frames.next = frame.fd := by
  rw [fdOf, SharedHeap.object_make_next]
  rfl

/-- The others keep theirs. -/
theorem fdOf_make_of_ne (hne : id ≠ r.frames.next) (frame : SharedNv12Frame) :
    ({ r with frames := r.frames.make frame } : Nv12Run).fdOf id = r.fdOf id := by
  rw [fdOf, SharedHeap.object_make_of_ne hne]
  rfl

/-- A new frame is in hand, if nothing is kept under its name or its descriptor. -/
theorem CountedWith.make {frame : SharedNv12Frame} (h : r.CountedWith [])
    (hnew : r.owners r.frames.next = 0)
    (hfree : r.encoder_pending_frames_by_fd_ frame.fd = none) :
    ({ r with frames := r.frames.make frame } : Nv12Run).CountedWith [r.frames.next] := by
  intro other
  rw [count_cons, List.count_nil]
  show (r.frames.make frame).use_count other = owns r.encode.stack other +
    owns (r.encoder_pending_frames_by_fd_
      (({ r with frames := r.frames.make frame } : Nv12Run).fdOf other)) other +
        r.nv12_queue_.count other + owns (r.eye.map Prod.fst) other +
          (owns (some r.frames.next) other + 0)
  -- nobody owned the new frame before
  by_cases hsame : other = r.frames.next
  · subst hsame
    unfold owners at hnew
    rw [SharedHeap.use_count_make_next, fdOf_make_next, hfree, owns_none, owns_self]
    omega
  · have hcount := h other
    unfold owners at hcount
    rw [List.count_nil] at hcount
    rw [SharedHeap.use_count_make_of_ne hsame, fdOf_make_of_ne hsame, owns_of_ne hsame]
    omega

/-- The frame in hand goes onto the empty stack of the encode thread. -/
theorem CountedWith.toStack (h : r.CountedWith (id :: inHand)) (hfree : r.encode.stack = none)
    (hstack : stage.stack = some id) :
    ({ r with encode := stage } : Nv12Run).CountedWith inHand := by
  intro other
  have hcount := h other
  unfold owners at hcount
  rw [hfree, owns_none, count_cons] at hcount
  show r.frames.use_count other = owns stage.stack other +
    owns (r.encoder_pending_frames_by_fd_ (r.fdOf other)) other + r.nv12_queue_.count other +
      owns (r.eye.map Prod.fst) other + List.count other inHand
  rw [hstack]
  omega

/-- And from there back into the hand. -/
theorem CountedWith.fromStack (h : r.CountedWith inHand) (hstack : r.encode.stack = some id)
    (hfree : stage.stack = none) :
    ({ r with encode := stage } : Nv12Run).CountedWith (id :: inHand) := by
  intro other
  have hcount := h other
  unfold owners at hcount
  rw [hstack] at hcount
  rw [count_cons]
  show r.frames.use_count other = owns stage.stack other +
    owns (r.encoder_pending_frames_by_fd_ (r.fdOf other)) other + r.nv12_queue_.count other +
      owns (r.eye.map Prod.fst) other + (owns (some id) other + List.count other inHand)
  rw [hfree, owns_none]
  omega

/-- The entry under `fd` changes for the frames with that descriptor only. -/
theorem owns_update (pending : ℤ → Option ℕ) {fd : ℤ} {place : Option ℕ} (other : ℕ)
    (hpending : owns (pending fd) other + owns (some id) other = owns place other)
    (hkey : r.fdOf id = fd) :
    owns (pending (r.fdOf other)) other + owns (some id) other =
      owns (Function.update pending fd place (r.fdOf other)) other := by
  -- a frame with another descriptor has its entry elsewhere
  by_cases hfd : r.fdOf other = fd
  · rw [hfd, Function.update_self, hpending]
  · have hsame : other ≠ id := by
      rintro rfl
      exact hfd hkey
    rw [Function.update_of_ne hfd, owns_of_ne hsame, Nat.add_zero]

/-- The frame goes into the empty entry of its descriptor. -/
theorem CountedWith.toEntry (h : r.CountedWith (id :: inHand))
    (hfree : r.encoder_pending_frames_by_fd_ (r.fdOf id) = none) :
    ({ r with
      encoder_pending_frames_by_fd_ := Function.update r.encoder_pending_frames_by_fd_
        (r.fdOf id) (some id) } : Nv12Run).CountedWith inHand := by
  intro other
  have hcount := h other
  unfold owners at hcount
  -- only the entry of its own descriptor can hold a frame
  have hentry := @owns_update r id r.encoder_pending_frames_by_fd_ _ (some id) other
    (by rw [hfree, owns_none, Nat.zero_add]) rfl
  rw [count_cons] at hcount
  show r.frames.use_count other = owns r.encode.stack other +
    owns (Function.update r.encoder_pending_frames_by_fd_ (r.fdOf id) (some id)
      (r.fdOf other)) other + r.nv12_queue_.count other + owns (r.eye.map Prod.fst) other +
        List.count other inHand
  omega

/-- The frame leaves the entry of its descriptor. -/
theorem CountedWith.fromEntry {fd : ℤ} (h : r.CountedWith inHand)
    (hentry : r.encoder_pending_frames_by_fd_ fd = some id) (hkey : r.fdOf id = fd) :
    ({ r with
      encoder_pending_frames_by_fd_ := Function.update r.encoder_pending_frames_by_fd_ fd
        none } : Nv12Run).CountedWith (id :: inHand) := by
  intro other
  have hcount := h other
  unfold owners at hcount
  have hupdate := @owns_update r id (Function.update r.encoder_pending_frames_by_fd_ fd none) fd
    (some id) other (by rw [Function.update_self, owns_none, Nat.zero_add]) hkey
  -- putting it back would give the map as it was
  rw [Function.update_idem, ← hentry, Function.update_eq_self, hentry] at hupdate
  rw [count_cons]
  show r.frames.use_count other = owns r.encode.stack other +
    owns (Function.update r.encoder_pending_frames_by_fd_ fd none (r.fdOf other)) other +
      r.nv12_queue_.count other + owns (r.eye.map Prod.fst) other +
        (owns (some id) other + List.count other inHand)
  omega

/-- The frame goes to the end of the queue. -/
theorem CountedWith.toQueue (h : r.CountedWith (id :: inHand)) :
    ({ r with nv12_queue_ := r.nv12_queue_ ++ [id] } : Nv12Run).CountedWith inHand := by
  intro other
  have hcount := h other
  unfold owners at hcount
  rw [count_cons] at hcount
  show r.frames.use_count other = owns r.encode.stack other +
    owns (r.encoder_pending_frames_by_fd_ (r.fdOf other)) other +
      List.count other (r.nv12_queue_ ++ [id]) + owns (r.eye.map Prod.fst) other +
        List.count other inHand
  rw [List.count_append, count_cons, List.count_nil]
  omega

/-- All frames of the queue at once. -/
theorem CountedWith.fromQueue (h : r.CountedWith []) :
    ({ r with nv12_queue_ := [] } : Nv12Run).CountedWith r.nv12_queue_ := by
  intro other
  have hcount := h other
  unfold owners at hcount
  rw [List.count_nil] at hcount
  show r.frames.use_count other = owns r.encode.stack other +
    owns (r.encoder_pending_frames_by_fd_ (r.fdOf other)) other + 0 +
      owns (r.eye.map Prod.fst) other + List.count other r.nv12_queue_
  omega

/-- The frame goes to the publisher of the eye images, which held none. -/
theorem CountedWith.toEye {cleared : Bool} (h : r.CountedWith (id :: inHand))
    (hfree : r.eye = none) :
    ({ r with eye := some (id, cleared) } : Nv12Run).CountedWith inHand := by
  intro other
  have hcount := h other
  unfold owners at hcount
  rw [hfree, Option.map_none, owns_none, count_cons] at hcount
  show r.frames.use_count other = owns r.encode.stack other +
    owns (r.encoder_pending_frames_by_fd_ (r.fdOf other)) other + r.nv12_queue_.count other +
      owns (some id) other + List.count other inHand
  omega

/-- And comes back from it. -/
theorem CountedWith.fromEye {cleared : Bool} (h : r.CountedWith inHand)
    (heye : r.eye = some (id, cleared)) :
    ({ r with eye := none } : Nv12Run).CountedWith (id :: inHand) := by
  intro other
  have hcount := h other
  unfold owners at hcount
  rw [heye] at hcount
  change _ = _ + _ + _ + owns (some id) other + _ at hcount
  rw [count_cons]
  show r.frames.use_count other = owns r.encode.stack other +
    owns (r.encoder_pending_frames_by_fd_ (r.fdOf other)) other + r.nv12_queue_.count other +
      0 + (owns (some id) other + List.count other inHand)
  omega

end Nv12Run

end TeleopBridge.Video
