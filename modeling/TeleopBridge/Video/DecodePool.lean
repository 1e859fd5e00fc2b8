import Mathlib.Data.List.GetD
import TeleopBridge.Support.Holders
import TeleopBridge.Video.VideoDecoder

/-!
# Conservation of the Decode Pool

Every index of the decode pool has exactly one holder: the free queue, a decoded frame in the
queue, a thread in `submitDetailed` or a frame of the consumer. In the same way, the number of
a decode has at most one holder that may still destroy its descriptor.

## Key Result

`decode_pool_conserved`: both in every state of every run, with the bound on the queue.
-/

namespace TeleopBridge.Video

open Support

/-! ## Who holds what -/

/-- The index that a frame stands for. -/
def DecodedFrame.index (frame : DecodedFrame) : Option ℕ := some frame._cap_buf_index.toNat

/-- The decode whose descriptor a frame in the queue has. -/
def DecodedFrame.decode (frame : DecodedFrame) : Option ℕ := some frame.decode_no

/-- The index that a thread in `submitDetailed` has acquired and not given back or pushed. -/
def SubmitStage.index : SubmitStage → Option ℕ
  | .decoding _ decode_index _ => some decode_index
  | .releasing decode_index _ => some decode_index
  | .pushing frame => frame.index
  | .rejecting frame => frame.index
  | .givingBack decode_index => some decode_index
  | _ => none

/-- The decode whose descriptor a thread in `submitDetailed` may still push or destroy. -/
def SubmitStage.decode : SubmitStage → Option ℕ
  | .pushing frame => frame.decode
  | .rejecting frame => frame.decode
  | _ => none

/-- The index that a frame of the consumer holds: the sentinel is not set, and the release is
not past. -/
def FrameObject.index (object : FrameObject) : Option ℕ :=
  if object.stage ≠ .released ∧ 0 ≤ object.frame._decode_pool_fd then object.frame.index
  else none

/-- The decode whose descriptor `requeueCapture` may still destroy. -/
def FrameObject.decode (object : FrameObject) : Option ℕ :=
  if object.stage = .idle ∧ 0 ≤ object.frame.yuv_dmabuf_fd then object.frame.decode else none

namespace DecoderRun

/-- How often an index is in the two queues of the decoder. -/
def queuedIndices (r : DecoderRun) (i : ℕ) : ℕ :=
  heldBy some r.decoder.free_decode_indices_ i +
    heldBy DecodedFrame.index r.decoder.decoded_queue_ i

/-- In how many places an index is. -/
def indexPlaces (r : DecoderRun) (i : ℕ) : ℕ :=
  r.queuedIndices i + heldBy SubmitStage.index r.submits i + heldBy FrameObject.index r.frames i

/-- How often the descriptor of a decode was destroyed or is in the queue. -/
def queuedDecodes (r : DecoderRun) (n : ℕ) : ℕ :=
  heldBy (fun entry => some entry.1) r.destroyed n +
    heldBy DecodedFrame.decode r.decoder.decoded_queue_ n

/-- How often the descriptor of a decode was destroyed or may still be. -/
def decodePlaces (r : DecoderRun) (n : ℕ) : ℕ :=
  r.queuedDecodes n + heldBy SubmitStage.decode r.submits n + heldBy FrameObject.decode r.frames n

end DecoderRun

/-! ## What holds of the frames -/

/-- A descriptor that is not the pool's is one that the decode with its number gave. -/
def DecodedFrame.Known (frame : DecodedFrame) (foreign : List (ℕ × ℤ)) : Prop :=
  frame.yuv_dmabuf_fd ≠ frame._decode_pool_fd → (frame.decode_no, frame.yuv_dmabuf_fd) ∈ foreign

/-- The frame can give its index back. -/
structure DecodedFrame.Pooled (frame : DecodedFrame) (foreign : List (ℕ × ℤ)) : Prop where
  nonneg : 0 ≤ frame._decode_pool_fd
  known : frame.Known foreign

/-- What a thread in `submitDetailed` relies on at its stage. -/
def SubmitStage.Relies (foreign : List (ℕ × ℤ)) : SubmitStage → Prop
  | .decoding _ _ decode_fd => 0 ≤ decode_fd
  | .pushing frame => frame.Pooled foreign
  | .rejecting frame => frame.Pooled foreign
  | _ => True

/-- What `requeueCapture` relies on for a frame of the consumer. -/
def FrameObject.Relies (foreign : List (ℕ × ℤ)) (object : FrameObject) : Prop :=
  object.stage = .idle → 0 ≤ object.frame.yuv_dmabuf_fd → object.frame.Known foreign

variable {foreign foreign' : List (ℕ × ℤ)}

/-- A frame stays as it is when the decoder gives out more descriptors. -/
theorem DecodedFrame.Pooled.of_subset {frame : DecodedFrame} (h : frame.Pooled foreign)
    (hsubset : foreign ⊆ foreign') : frame.Pooled foreign' :=
  ⟨h.nonneg, fun hforeign => hsubset (h.known hforeign)⟩

theorem SubmitStage.Relies.of_subset {stage : SubmitStage} (h : stage.Relies foreign)
    (hsubset : foreign ⊆ foreign') : stage.Relies foreign' := by
  cases stage with
  | pushing frame => exact DecodedFrame.Pooled.of_subset h hsubset
  | rejecting frame => exact DecodedFrame.Pooled.of_subset h hsubset
  | _ => exact h

theorem FrameObject.Relies.of_subset {object : FrameObject} (h : object.Relies foreign)
    (hsubset : foreign ⊆ foreign') : object.Relies foreign' :=
  fun hidle hfd hforeign => hsubset (h hidle hfd hforeign)

namespace DecoderRun

variable {r r' s : DecoderRun} {i n : ℕ} {frame : DecodedFrame}

/-- The decoder by itself: its pool has usable descriptors, its queue has frames of the pool
and is not too long, and only descriptors that a decode gave were destroyed. -/
structure Sound (r : DecoderRun) : Prop where
  size : r.decoder.decode_dmabuf_fds_.length = r.decoder.max_queue
  nonneg : ∀ fd ∈ r.decoder.decode_dmabuf_fds_, 0 ≤ fd
  queued : ∀ frame ∈ r.decoder.decoded_queue_, frame.Pooled r.foreign
  given : ∀ entry ∈ r.destroyed, entry ∈ r.foreign
  capacity : r.decoder.decoded_queue_.length ≤ r.decoder.max_queue

/-- The invariant of a decoder with these descriptors and this many buffers: every index has
one holder, and every decode at most one. -/
structure Conserved (fds : List ℤ) (buffers : UInt32) (r : DecoderRun) : Prop where
  fds_eq : r.decoder.decode_dmabuf_fds_ = fds
  buffers_eq : r.decoder.capture_plane_buffers = buffers
  sound : r.Sound
  indices : ∀ i, r.indexPlaces i = if i < r.decoder.decode_dmabuf_fds_.length then 1 else 0
  decodes : ∀ n, r.decodePlaces n ≤ if n < r.decodes then 1 else 0
  submitting : ∀ stage ∈ r.submits, stage.Relies r.foreign
  kept : ∀ object ∈ r.frames, object.Relies r.foreign

/-! ## Handing over -/

/-- A part of a call that comes with the index `idx` and the decode `no` and leaves with
`idx'` and `no'`. Indices are kept, decodes are not multiplied. -/
structure Handed (r r' : DecoderRun) (idx idx' no no' : Option ℕ) : Prop where
  fds : r'.decoder.decode_dmabuf_fds_ = r.decoder.decode_dmabuf_fds_
  buffers : r'.decoder.capture_plane_buffers = r.decoder.capture_plane_buffers
  submits : r'.submits = r.submits
  frames : r'.frames = r.frames
  foreign : r.foreign ⊆ r'.foreign
  later : r.decodes ≤ r'.decodes
  indices : ∀ i, r'.queuedIndices i + tokens idx' i = r.queuedIndices i + tokens idx i
  decodes : ∀ n, r'.queuedDecodes n + tokens no' n ≤
    r.queuedDecodes n + tokens no n + if r.decodes ≤ n ∧ n < r'.decodes then 1 else 0
  sound : r'.Sound

variable {idx idx' idx'' no no' no'' : Option ℕ} {fds : List ℤ} {buffers : UInt32}

/-- A call that does nothing can only lose its decode. -/
theorem Sound.handed (h : r.Sound) (hno : ∀ n, tokens no' n ≤ tokens no n) :
    Handed r r idx idx no no' where
  fds := rfl
  buffers := rfl
  submits := rfl
  frames := rfl
  foreign := List.Subset.refl _
  later := le_rfl
  indices := fun _ => rfl
  decodes := by
    intro n
    have := hno n
    omega
  sound := h

/-- Two hand-overs after each other are one from the first holder to the last. -/
theorem Handed.trans (h : Handed r s idx idx' no no') (h' : Handed s r' idx' idx'' no' no'') :
    Handed r r' idx idx'' no no'' where
  fds := h'.fds.trans h.fds
  buffers := h'.buffers.trans h.buffers
  submits := h'.submits.trans h.submits
  frames := h'.frames.trans h.frames
  foreign := List.Subset.trans h.foreign h'.foreign
  later := h.later.trans h'.later
  indices := fun i => (h'.indices i).trans (h.indices i)
  decodes := by
    intro n
    have hfirst := h.decodes n
    have hsecond := h'.decodes n
    have hlater := h.later
    have hlater' := h'.later
    -- a decode is new in the first part or in the second, not in both
    split_ifs at hfirst hsecond ⊢ <;> omega
  sound := h'.sound

/-! ## The parts of the calls -/

/-- An index of the pool goes back to the free queue. -/
theorem Sound.release (h : r.Sound) (hi : i < r.decoder.decode_dmabuf_fds_.length) :
    Handed r (r.release i) (some i) none no no := by
  have hpush : r.decoder.releaseDecodeBuffer i =
      { r.decoder with free_decode_indices_ := r.decoder.free_decode_indices_ ++ [i] } := if_pos hi
  unfold DecoderRun.release
  rw [hpush]
  exact {
    fds := rfl
    buffers := rfl
    submits := rfl
    frames := rfl
    foreign := List.Subset.refl _
    later := le_rfl
    -- the index goes from its holder to the end of the free queue
    indices := by
      intro j
      simp only [queuedIndices, heldBy_concat, tokens_none]
      omega
    decodes := fun n => Nat.le_add_right _ _
    sound := ⟨h.size, h.nonneg, h.queued, h.given, h.capacity⟩ }

/-- A descriptor that a decode gave is destroyed, if it is positive. -/
theorem Sound.destroyDecodedFd (h : r.Sound)
    (hgiven : (frame.decode_no, frame.yuv_dmabuf_fd) ∈ r.foreign) :
    Handed r (r.destroyDecodedFd frame) idx idx frame.decode none := by
  unfold DecoderRun.destroyDecodedFd
  split_ifs with hpositive
  · exact {
      fds := rfl
      buffers := rfl
      submits := rfl
      frames := rfl
      foreign := List.Subset.refl _
      later := le_rfl
      indices := fun _ => rfl
      -- the decode goes from the frame to the destroyed ones
      decodes := by
        intro n
        simp only [queuedDecodes, heldBy_concat, tokens_none, DecodedFrame.decode]
        omega
      sound := {
        size := h.size
        nonneg := h.nonneg
        queued := h.queued
        given := by
          intro entry hentry
          rcases List.mem_append.mp hentry with hold | hnew
          · exact h.given entry hold
          · rw [List.mem_singleton.mp hnew]
            exact hgiven
        capacity := h.capacity } }
  -- descriptor 0 is not destroyed, and its decode is given up
  · refine h.handed fun n => ?_
    rw [tokens_none]
    omega

/-- The first statement of `requeueCapture`: whoever may destroy the descriptor no longer
may. -/
theorem Sound.destroyForeign (h : r.Sound)
    (hknown : 0 ≤ frame.yuv_dmabuf_fd → frame.Known r.foreign)
    (hno : 0 ≤ frame.yuv_dmabuf_fd → no = frame.decode) :
    Handed r (r.destroyForeign frame) idx idx no none := by
  unfold DecoderRun.destroyForeign
  split_ifs with hcond
  · simp only [Bool.and_eq_true, decide_eq_true_eq, bne_iff_ne] at hcond
    -- only a descriptor that is not the pool's is destroyed
    obtain ⟨⟨-, hfd⟩, hforeign⟩ := hcond
    rw [hno hfd]
    exact h.destroyDecodedFd (hknown hfd hforeign)
  · refine h.handed fun n => ?_
    rw [tokens_none]
    omega

/-- The second statement: the index goes back unless the sentinel is set. -/
theorem Sound.releasePooled (h : r.Sound) (no : Option ℕ)
    (hi : 0 ≤ frame._decode_pool_fd →
      frame._cap_buf_index.toNat < r.decoder.decode_dmabuf_fds_.length) :
    Handed r (r.releasePooled frame) (if 0 ≤ frame._decode_pool_fd then frame.index else none)
      none no no := by
  unfold DecoderRun.releasePooled
  split_ifs with hpool
  · exact h.release (hi hpool)
  · exact h.handed fun _ => le_rfl

/-- An index is taken from the free queue, if there is one. -/
theorem Sound.acquire (h : r.Sound) (no : Option ℕ)
    (hfree : ∀ i ∈ r.decoder.free_decode_indices_, i < r.decoder.decode_dmabuf_fds_.length) :
    Handed r { r with decoder := r.decoder.acquireDecodeBuffer.2 } none
        (r.decoder.acquireDecodeBuffer.1.map Prod.fst) no no ∧
      ∀ index fd, r.decoder.acquireDecodeBuffer.1 = some (index, fd) → 0 ≤ fd := by
  unfold VideoDecoder.acquireDecodeBuffer
  cases hqueue : r.decoder.free_decode_indices_ with
  | nil => exact ⟨h.handed fun _ => le_rfl, fun index fd hnone => by cases hnone⟩
  | cons index rest =>
    have hindex : index < r.decoder.decode_dmabuf_fds_.length :=
      hfree index (hqueue ▸ List.mem_cons_self)
    have hfd : 0 ≤ r.decoder.decode_dmabuf_fds_.getD index (-1) := by
      rw [List.getD_eq_getElem _ _ hindex]
      exact h.nonneg _ (List.getElem_mem hindex)
    simp only [hfd, if_true]
    refine ⟨{
      fds := rfl
      buffers := rfl
      submits := rfl
      frames := rfl
      foreign := List.Subset.refl _
      later := le_rfl
      indices := by
        intro j
        simp only [queuedIndices, hqueue, heldBy_cons, tokens_none, Option.map_some]
        omega
      decodes := fun n => Nat.le_add_right _ _
      sound := ⟨h.size, h.nonneg, h.queued, h.given, h.capacity⟩ }, ?_⟩
    -- every free index has a descriptor of the pool
    intro index' fd' heq
    cases heq
    exact hfd

/-- A frame goes into the queue, which has room. -/
theorem Sound.push (h : r.Sound) (hpooled : frame.Pooled r.foreign)
    (hroom : r.decoder.decoded_queue_.length < r.decoder.max_queue) :
    Handed r { r with decoder := { r.decoder with
      decoded_queue_ := r.decoder.decoded_queue_ ++ [frame] } }
      frame.index none frame.decode none where
  fds := rfl
  buffers := rfl
  submits := rfl
  frames := rfl
  foreign := List.Subset.refl _
  later := le_rfl
  indices := by
    intro i
    simp only [queuedIndices, heldBy_concat, tokens_none]
    omega
  decodes := by
    intro n
    simp only [queuedDecodes, heldBy_concat, tokens_none]
    omega
  sound := {
    size := h.size
    nonneg := h.nonneg
    queued := by
      intro other hother
      rcases List.mem_append.mp hother with hold | hnew
      · exact h.queued other hold
      · rw [List.mem_singleton.mp hnew]
        exact hpooled
    given := h.given
    -- there was room for one more
    capacity := by
      show (r.decoder.decoded_queue_ ++ [frame]).length ≤ _
      rw [List.length_append]
      exact hroom }

/-- The front frame leaves the queue. -/
theorem Sound.pop {rest : List DecodedFrame} (h : r.Sound)
    (hqueue : r.decoder.decoded_queue_ = frame :: rest) :
    Handed r { r with decoder := { r.decoder with decoded_queue_ := rest } } none frame.index
      none frame.decode where
  fds := rfl
  buffers := rfl
  submits := rfl
  frames := rfl
  foreign := List.Subset.refl _
  later := le_rfl
  -- the frame takes its index and its decode with it
  indices := by
    intro i
    simp only [queuedIndices, hqueue, heldBy_cons, tokens_none]
    omega
  decodes := by
    intro n
    simp only [queuedDecodes, hqueue, heldBy_cons, tokens_none]
    omega
  sound := {
    size := h.size
    nonneg := h.nonneg
    queued := fun other hother => h.queued other (hqueue ▸ List.mem_cons_of_mem frame hother)
    given := h.given
    capacity := by
      have hlength := h.capacity
      rw [hqueue, List.length_cons] at hlength
      show rest.length ≤ _
      exact (Nat.le_succ _).trans hlength }

/-- A decode gets a number of its own; only its descriptor is new. -/
theorem Sound.decode (h : r.Sound) {given : List (ℕ × ℤ)} (hsubset : r.foreign ⊆ given)
    (hno : ∀ n, tokens no n ≤ tokens (some r.decodes) n) :
    Handed r { r with decodes := r.decodes + 1, foreign := given } idx idx none no where
  fds := rfl
  buffers := rfl
  submits := rfl
  frames := rfl
  foreign := hsubset
  later := Nat.le_succ _
  indices := fun _ => rfl
  decodes := by
    intro n
    have hle := hno n
    show r.queuedDecodes n + _ ≤ r.queuedDecodes n + _ +
      if r.decodes ≤ n ∧ n < r.decodes + 1 then 1 else 0
    -- this decode is the only new one
    by_cases hn : r.decodes = n
    · subst hn
      rw [if_pos ⟨le_rfl, Nat.lt_succ_self _⟩]
      rw [tokens_some_self] at hle
      omega
    · rw [if_neg (by omega)]
      rw [tokens_some_of_ne hn] at hle
      omega
  sound := {
    size := h.size
    nonneg := h.nonneg
    queued := fun other hother => (h.queued other hother).of_subset hsubset
    given := fun entry hentry => hsubset (h.given entry hentry)
    capacity := h.capacity }

/-- The pool is not larger than its indices can say. -/
theorem Sound.length_lt (h : r.Sound) : r.decoder.decode_dmabuf_fds_.length < 2 ^ 32 := by
  rw [h.size, VideoDecoder.max_queue]
  exact max_lt (by decide) r.decoder.capture_plane_buffers.toNat_lt

/-! ## The calls -/

theorem Sound.decodeToFd (h : r.Sound) {args : SubmitArgs} {decode_fd : ℤ}
    (hi : i < r.decoder.decode_dmabuf_fds_.length) (hfd : 0 ≤ decode_fd)
    (answer : DecodeAnswer) :
    Handed r (r.decodeToFd args i decode_fd answer).1 (some i)
        (r.decodeToFd args i decode_fd answer).2.index none
        (r.decodeToFd args i decode_fd answer).2.decode ∧
      (r.decodeToFd args i decode_fd answer).2.Relies
        (r.decodeToFd args i decode_fd answer).1.foreign := by
  have hfailed : Handed r { r with decodes := r.decodes + 1 } (some i) (some i) none none :=
    h.decode (List.Subset.refl _) fun n => by rw [tokens_none]; exact Nat.zero_le _
  unfold DecoderRun.decodeToFd
  split_ifs with hresult hanswer hown
  · -- a failed decode leaves the index with the thread
    exact ⟨hfailed, trivial⟩
  · exact ⟨hfailed, trivial⟩
  all_goals
    have hindex : (decodedFrame args i decode_fd answer r.decodes).index = some i := by
      have hlt := h.length_lt
      show some (UInt32.ofNat i).toNat = some i
      rw [UInt32.toNat_ofNat', Nat.mod_eq_of_lt (by omega)]
    simp only [SubmitStage.index, SubmitStage.decode, hindex]
  · -- the descriptor is the pool's
    refine ⟨h.decode (List.Subset.refl _) fun n => le_rfl, hfd, fun hforeign => ?_⟩
    exact absurd hown hforeign
  · refine ⟨h.decode (List.subset_append_left _ _) fun n => le_rfl, hfd, fun _ => ?_⟩
    exact List.mem_append_right _ List.mem_cons_self

/-- A step of `submitDetailed` hands over exactly what its stage says. -/
theorem Sound.submitStep (h : r.Sound)
    (hfree : ∀ i ∈ r.decoder.free_decode_indices_, i < r.decoder.decode_dmabuf_fds_.length)
    {stage : SubmitStage} (hstage : stage.Relies r.foreign)
    (hindex : ∀ i, stage.index = some i → i < r.decoder.decode_dmabuf_fds_.length)
    (answer : DecodeAnswer) :
    Handed r (r.submitStep answer stage).1 stage.index (r.submitStep answer stage).2.index
        stage.decode (r.submitStep answer stage).2.decode ∧
      (r.submitStep answer stage).2.Relies (r.submitStep answer stage).1.foreign := by
  have hsame : Handed r r none none none none := h.handed fun _ => le_rfl
  cases stage with
  | entered args =>
    simp only [DecoderRun.submitStep]
    split_ifs <;> exact ⟨hsame, trivial⟩
  | refusing args =>
    simp only [DecoderRun.submitStep]
    split_ifs <;> exact ⟨hsame, trivial⟩
  | sizing args =>
    simp only [DecoderRun.submitStep]
    split_ifs <;> exact ⟨hsame, trivial⟩
  | checking args =>
    simp only [DecoderRun.submitStep]
    split_ifs <;> exact ⟨hsame, trivial⟩
  | acquiring args =>
    obtain ⟨hacquire, hnonneg⟩ := h.acquire none hfree
    simp only [DecoderRun.submitStep]
    cases hacquired : r.decoder.acquireDecodeBuffer.1 with
    | none =>
      rw [hacquired] at hacquire
      exact ⟨hacquire, trivial⟩
    | some acquired =>
      rw [hacquired] at hacquire
      exact ⟨hacquire, hnonneg acquired.1 acquired.2 hacquired⟩
  | decoding args decode_index decode_fd =>
    exact h.decodeToFd (hindex decode_index rfl) hstage answer
  -- both exits after a failed decode give the index back
  | releasing decode_index status =>
    exact ⟨h.release (hindex decode_index rfl), trivial⟩
  | pushing frame =>
    simp only [DecoderRun.submitStep]
    split_ifs with hfull
    -- a rejected frame stays with the thread, which destroys and releases it itself
    · exact ⟨h.handed fun _ => le_rfl, hstage⟩
    · rw [Bool.or_eq_true, not_or, decide_eq_true_eq, Nat.not_le] at hfull
      exact ⟨h.push hstage hfull.1, trivial⟩
  | rejecting frame =>
    simp only [DecoderRun.submitStep]
    split_ifs with hforeign
    · exact ⟨h.destroyDecodedFd (hstage.known hforeign), trivial⟩
    · refine ⟨h.handed fun n => ?_, trivial⟩
      show tokens none n ≤ _
      rw [tokens_none]
      exact Nat.zero_le _
  | givingBack decode_index =>
    exact ⟨h.release (hindex decode_index rfl), trivial⟩
  | answering => exact ⟨hsame, trivial⟩
  | returned status => exact ⟨hsame, trivial⟩

/-- A step of `requeueCapture`, the first or a repeated one. -/
theorem Sound.requeueStep (h : r.Sound) {object : FrameObject}
    (hobject : object.Relies r.foreign)
    (hindex : ∀ i, object.index = some i → i < r.decoder.decode_dmabuf_fds_.length) :
    Handed r (r.requeueStep object).1 object.index (r.requeueStep object).2.index object.decode
        (r.requeueStep object).2.decode ∧
      (r.requeueStep object).2.Relies (r.requeueStep object).1.foreign := by
  obtain ⟨frame, stage⟩ := object
  cases stage with
  | idle =>
    have hheld : (FrameObject.mk frame .destroyed).index = (FrameObject.mk frame .idle).index := by
      simp [FrameObject.index]
    have hdecode : 0 ≤ frame.yuv_dmabuf_fd → (FrameObject.mk frame .idle).decode = frame.decode :=
      fun hfd => if_pos ⟨rfl, hfd⟩
    refine ⟨?_, fun hidle => ?_⟩
    · show Handed r (r.destroyForeign frame) _ (FrameObject.mk frame .destroyed).index _ none
      rw [hheld]
      exact h.destroyForeign (hobject rfl) hdecode
    · cases hidle
  | destroyed =>
    have hheld : (FrameObject.mk frame .destroyed).index =
        if 0 ≤ frame._decode_pool_fd then frame.index else none := by
      simp [FrameObject.index]
    rw [hheld] at hindex ⊢
    refine ⟨h.releasePooled none fun hpool => hindex _ (if_pos hpool), fun hidle => ?_⟩
    cases hidle
  | released =>
    -- the sentinel is set: nothing is left to hold
    refine ⟨h.handed fun _ => le_rfl, fun _ hfd => ?_⟩
    exact absurd (show (0 : ℤ) ≤ -1 from hfd) (by decide)

/-! ## Steps -/

/-- What is in some place is an index of the pool. -/
theorem Conserved.lt_of_pos (h : r.Conserved fds buffers) (hpos : 0 < r.indexPlaces i) :
    i < r.decoder.decode_dmabuf_fds_.length := by
  have hplaces := h.indices i
  split_ifs at hplaces with hlt
  · exact hlt
  · omega

/-- Every free index is one of the pool. -/
theorem Conserved.lt_of_free (h : r.Conserved fds buffers) :
    ∀ i ∈ r.decoder.free_decode_indices_, i < r.decoder.decode_dmabuf_fds_.length := by
  intro i hi
  apply h.lt_of_pos
  have hpos : 0 < heldBy some r.decoder.free_decode_indices_ i := heldBy_pos hi rfl
  unfold indexPlaces queuedIndices
  omega

/-- So is the index of every queued frame. -/
theorem Conserved.lt_of_queued (h : r.Conserved fds buffers)
    (hframe : frame ∈ r.decoder.decoded_queue_) :
    frame._cap_buf_index.toNat < r.decoder.decode_dmabuf_fds_.length := by
  apply h.lt_of_pos
  have hpos := heldBy_pos (f := DecodedFrame.index) hframe rfl
  unfold indexPlaces queuedIndices
  omega

/-- So is the index that a thread in a submit has. -/
theorem Conserved.lt_of_submit (h : r.Conserved fds buffers) {stage : SubmitStage}
    (hstage : stage ∈ r.submits) (hindex : stage.index = some i) :
    i < r.decoder.decode_dmabuf_fds_.length := by
  apply h.lt_of_pos
  have hpos := heldBy_pos hstage hindex
  unfold indexPlaces
  omega

/-- So is the index of every frame that a caller has. -/
theorem Conserved.lt_of_frame (h : r.Conserved fds buffers) {object : FrameObject}
    (hobject : object ∈ r.frames) (hindex : object.index = some i) :
    i < r.decoder.decode_dmabuf_fds_.length := by
  apply h.lt_of_pos
  have hpos := heldBy_pos hobject hindex
  unfold indexPlaces
  omega

/-- A part of a call whose cells gave up what it came with and took what it leaves with. -/
theorem Conserved.of_handed (h : r.Conserved fds buffers) (hhanded : Handed r r' idx idx' no no')
    (submits' : List SubmitStage) (frames' : List FrameObject)
    (hindices : ∀ i, heldBy SubmitStage.index submits' i + heldBy FrameObject.index frames' i +
        tokens idx i =
      heldBy SubmitStage.index r.submits i + heldBy FrameObject.index r.frames i + tokens idx' i)
    (hdecodes : ∀ n, heldBy SubmitStage.decode submits' n + heldBy FrameObject.decode frames' n +
        tokens no n ≤
      heldBy SubmitStage.decode r.submits n + heldBy FrameObject.decode r.frames n + tokens no' n)
    (hsubmits : ∀ stage ∈ submits', stage ∈ r.submits ∨ stage.Relies r'.foreign)
    (hframes : ∀ object ∈ frames', object ∈ r.frames ∨ object.Relies r'.foreign) :
    Conserved fds buffers { r' with submits := submits', frames := frames' } where
  fds_eq := hhanded.fds.trans h.fds_eq
  buffers_eq := hhanded.buffers.trans h.buffers_eq
  sound := ⟨hhanded.sound.size, hhanded.sound.nonneg, hhanded.sound.queued, hhanded.sound.given,
    hhanded.sound.capacity⟩
  indices := by
    intro i
    show r'.queuedIndices i + heldBy SubmitStage.index submits' i +
      heldBy FrameObject.index frames' i =
        if i < r'.decoder.decode_dmabuf_fds_.length then 1 else 0
    -- what the cells took is what the queues gave up, so the sum is as before
    have hplaces := h.indices i
    have hqueued := hhanded.indices i
    have hcells := hindices i
    unfold indexPlaces at hplaces
    rw [hhanded.fds, ← hplaces]
    omega
  decodes := by
    intro n
    show r'.queuedDecodes n + heldBy SubmitStage.decode submits' n +
      heldBy FrameObject.decode frames' n ≤ if n < r'.decodes then 1 else 0
    have hplaces := h.decodes n
    have hqueued := hhanded.decodes n
    have hcells := hdecodes n
    have hlater := hhanded.later
    -- the numbers from `r.decodes` on were not held before, and are held at most once now
    unfold decodePlaces at hplaces
    split_ifs at hplaces hqueued ⊢ <;> omega
  submitting := by
    intro stage hstage
    rcases hsubmits stage hstage with hold | hnew
    · exact (h.submitting stage hold).of_subset hhanded.foreign
    · exact hnew
  kept := by
    intro object hobject
    rcases hframes object hobject with hold | hnew
    · exact (h.kept object hold).of_subset hhanded.foreign
    · exact hnew

/-- A thread moves on by a step. -/
theorem Conserved.of_submit (h : r.Conserved fds buffers) {thread : ℕ} {stage stage' : SubmitStage}
    (hstage : r.submits[thread]? = some stage)
    (hhanded : Handed r r' stage.index stage'.index stage.decode stage'.decode)
    (hrelies : stage'.Relies r'.foreign) :
    Conserved fds buffers { r' with submits := r.submits.set thread stage' } := by
  refine h.of_handed hhanded _ _ ?_ ?_ ?_ ?_
  · intro i
    have hset := heldBy_set SubmitStage.index hstage stage' i
    rw [hhanded.frames]
    omega
  · intro n
    have hset := heldBy_set SubmitStage.decode hstage stage' n
    rw [hhanded.frames]
    omega
  · intro other hother
    -- the other threads are where they were
    rcases List.mem_or_eq_of_mem_set hother with hold | hnew
    · exact Or.inl hold
    · exact Or.inr (hnew ▸ hrelies)
  · intro object hobject
    rw [hhanded.frames] at hobject
    exact Or.inl hobject

/-- A frame of the consumer changes by a step. -/
theorem Conserved.of_frame (h : r.Conserved fds buffers) {k : ℕ} {object object' : FrameObject}
    (hobject : r.frames[k]? = some object)
    (hhanded : Handed r r' object.index object'.index no no')
    (hdecode : ∀ n, tokens object'.decode n + tokens no n ≤ tokens object.decode n + tokens no' n)
    (hrelies : object'.Relies r'.foreign) :
    Conserved fds buffers { r' with frames := r.frames.set k object' } := by
  refine h.of_handed hhanded _ _ ?_ ?_ ?_ ?_
  · intro i
    have hset := heldBy_set FrameObject.index hobject object' i
    rw [hhanded.submits]
    omega
  · intro n
    have hset := heldBy_set FrameObject.decode hobject object' n
    have hle := hdecode n
    rw [hhanded.submits]
    omega
  · intro stage hstage
    rw [hhanded.submits] at hstage
    exact Or.inl hstage
  · intro other hother
    -- the other frames are what they were
    rcases List.mem_or_eq_of_mem_set hother with hold | hnew
    · exact Or.inl hold
    · exact Or.inr (hnew ▸ hrelies)

/-- A call that comes with nothing and leaves with nothing. -/
theorem Conserved.of_none (h : r.Conserved fds buffers)
    (hhanded : Handed r r' none none none none) : r'.Conserved fds buffers := by
  refine h.of_handed hhanded r'.submits r'.frames ?_ ?_ ?_ ?_
  · intro i
    rw [hhanded.submits, hhanded.frames]
  · intro n
    rw [hhanded.submits, hhanded.frames]
  · intro stage hstage
    rw [hhanded.submits] at hstage
    exact Or.inl hstage
  · intro object hobject
    rw [hhanded.frames] at hobject
    exact Or.inl hobject

/-- A thread enters `submitDetailed`. -/
theorem Conserved.submitDetailed (h : r.Conserved fds buffers) (args : SubmitArgs) :
    Conserved fds buffers { r with submits := r.submits ++ [.entered args] } := by
  have hhanded : Handed r r none none none none := h.sound.handed fun _ => le_rfl
  refine h.of_handed hhanded _ _ ?_ ?_ ?_ ?_
  · intro i
    rw [heldBy_concat]
    rfl
  · intro n
    rw [heldBy_concat]
    exact le_rfl
  · intro stage hstage
    rcases List.mem_append.mp hstage with hold | hnew
    · exact Or.inl hold
    · rw [List.mem_singleton.mp hnew]
      exact Or.inr trivial
  · exact fun object hobject => Or.inl hobject

/-- The consumer declares a frame, which holds nothing. -/
theorem Conserved.declareFrame (h : r.Conserved fds buffers) :
    Conserved fds buffers { r with frames := r.frames ++ [{}] } := by
  have hhanded : Handed r r none none none none := h.sound.handed fun _ => le_rfl
  refine h.of_handed hhanded _ _ ?_ ?_ ?_ ?_
  · intro i
    rw [heldBy_concat]
    rfl
  · intro n
    rw [heldBy_concat]
    exact le_rfl
  · exact fun stage hstage => Or.inl hstage
  · intro object hobject
    rcases List.mem_append.mp hobject with hold | hnew
    · exact Or.inl hold
    · rw [List.mem_singleton.mp hnew]
      exact Or.inr fun _ hfd => absurd (show (0 : ℤ) ≤ -1 from hfd) (by decide)

/-- A step of a submit keeps the pool. -/
theorem Conserved.submitStep (h : r.Conserved fds buffers) {thread : ℕ} {stage : SubmitStage}
    (hstage : r.submits[thread]? = some stage) (answer : DecodeAnswer) :
    Conserved fds buffers { (r.submitStep answer stage).1 with
      submits := r.submits.set thread (r.submitStep answer stage).2 } := by
  have hmem := List.mem_of_getElem? hstage
  obtain ⟨hhanded, hrelies⟩ := h.sound.submitStep h.lt_of_free (h.submitting stage hmem)
    (fun i => h.lt_of_submit hmem) answer
  exact h.of_submit hstage hhanded hrelies

/-- A step of a requeue keeps the pool. -/
theorem Conserved.requeueStep (h : r.Conserved fds buffers) {k : ℕ} {object : FrameObject}
    (hobject : r.frames[k]? = some object) :
    Conserved fds buffers { (r.requeueStep object).1 with
      frames := r.frames.set k (r.requeueStep object).2 } := by
  have hmem := List.mem_of_getElem? hobject
  obtain ⟨hhanded, hrelies⟩ := h.sound.requeueStep (h.kept object hmem)
    (fun i => h.lt_of_frame hmem)
  exact h.of_frame hobject hhanded (fun n => (Nat.add_comm _ _).le) hrelies

/-- The front frame of the queue goes to the consumer. -/
theorem Conserved.dequeueSync (h : r.Conserved fds buffers) {k : ℕ}
    (hnext : r.dequeueSync k = some r') : r'.Conserved fds buffers := by
  unfold DecoderRun.dequeueSync at hnext
  obtain ⟨out, hout, hnext⟩ := Option.bind_eq_some_iff.mp hnext
  split_ifs at hnext with hempty
  cases hqueue : r.decoder.decoded_queue_ with
  | nil =>
    rw [hqueue] at hnext
    cases hnext
    exact h
  | cons frame rest =>
    rw [hqueue] at hnext
    cases hnext
    have hpooled := h.sound.queued frame (hqueue ▸ List.mem_cons_self)
    -- the frame that is overwritten holds no index, so none is lost
    have hold : out.index = none := if_neg fun hholds => absurd hholds.2 (not_le.mpr hempty.2)
    have hnew : (FrameObject.mk frame .idle).index = frame.index :=
      if_pos ⟨RequeueStage.noConfusion, hpooled.nonneg⟩
    have hpop : Handed r { r with decoder := { r.decoder with decoded_queue_ := rest } }
        out.index (FrameObject.mk frame .idle).index none frame.decode := by
      rw [hold, hnew]
      exact h.sound.pop hqueue
    refine h.of_frame hout hpop (fun n => ?_) fun _ _ => hpooled.known
    have hle : tokens (FrameObject.mk frame .idle).decode n ≤ tokens frame.decode n := by
      unfold FrameObject.decode
      split_ifs
      · exact le_rfl
      · exact Nat.zero_le _
    rw [tokens_none]
    omega

/-- A round of `clearQueue` gives the index of the front frame back. -/
theorem Conserved.clearFront (h : r.Conserved fds buffers) (hnext : r.clearFront = some r') :
    r'.Conserved fds buffers := by
  unfold DecoderRun.clearFront at hnext
  cases hqueue : r.decoder.decoded_queue_ with
  | nil =>
    rw [hqueue] at hnext
    cases hnext
  | cons frame rest =>
    rw [hqueue] at hnext
    cases hnext
    have hmem : frame ∈ r.decoder.decoded_queue_ := hqueue ▸ List.mem_cons_self
    have hpooled := h.sound.queued frame hmem
    have hpop := h.sound.pop hqueue
    -- off the queue, its own descriptor destroyed, its index back to the pool
    have hdestroy := hpop.trans (hpop.sound.destroyForeign (fun _ => hpooled.known) fun _ => rfl)
    have hrelease := hdestroy.sound.releasePooled none (fun _ => by
      rw [hdestroy.fds]
      exact h.lt_of_queued hmem)
    rw [if_pos hpooled.nonneg] at hrelease
    exact h.of_none (hdestroy.trans hrelease)

/-- The flags of `shutdown` concern no holder. -/
theorem Conserved.setFlags (h : r.Conserved fds buffers) (stop shutting_down : Bool) :
    Conserved fds buffers { r with
      decoder := { r.decoder with stop_ := stop, shutting_down_ := shutting_down } } :=
  ⟨h.fds_eq, h.buffers_eq,
    ⟨h.sound.size, h.sound.nonneg, h.sound.queued, h.sound.given, h.sound.capacity⟩,
    h.indices, h.decodes, h.submitting, h.kept⟩

/-- Every event keeps the invariant. -/
theorem conserved_step {event : DecoderEvent} (h : r.Conserved fds buffers)
    (hstep : r.step event = some r') : r'.Conserved fds buffers := by
  cases event with
  | submitDetailed args =>
    cases hstep
    exact h.submitDetailed args
  | submitStep thread answer =>
    obtain ⟨stage, hstage, hnext⟩ := Option.bind_eq_some_iff.mp hstep
    cases hnext
    exact h.submitStep hstage answer
  | declareFrame =>
    cases hstep
    exact h.declareFrame
  | dequeueSync object => exact h.dequeueSync hstep
  | requeueCapture object =>
    obtain ⟨out, hout, hnext⟩ := Option.bind_eq_some_iff.mp hstep
    cases hnext
    exact h.requeueStep hout
  | clearFront => exact h.clearFront hstep
  | storeShuttingDown =>
    cases hstep
    exact h.setFlags r.decoder.stop_ true
  | storeStop =>
    cases hstep
    exact h.setFlags true r.decoder.shutting_down_

/-- A new decoder has every index in its free queue, once. -/
theorem conserved_start (hlength : fds.length = max 1 buffers.toNat)
    (hfds : ∀ fd ∈ fds, 0 ≤ fd) (max_mjpeg_size_bytes : UInt32) :
    (start buffers max_mjpeg_size_bytes fds).Conserved fds buffers where
  fds_eq := rfl
  buffers_eq := rfl
  sound := {
    size := hlength
    nonneg := hfds
    queued := fun _ hframe => nomatch hframe
    given := fun _ hentry => nomatch hentry
    capacity := Nat.zero_le _ }
  indices := fun i => heldBy_range fds.length i
  decodes := fun _ => Nat.zero_le _
  submitting := fun _ hstage => nomatch hstage
  kept := fun _ hobject => nomatch hobject

/-- A thread that has an index is the only one who has it. -/
theorem Conserved.decoding_alone (h : r.Conserved fds buffers) {thread : ℕ} {args : SubmitArgs}
    {fd : ℤ} (hthread : r.submits[thread]? = some (.decoding args i fd)) :
    i ∉ r.decoder.free_decode_indices_ ∧
      (∀ frame ∈ r.decoder.decoded_queue_, frame._cap_buf_index.toNat ≠ i) ∧
      (∀ object ∈ r.frames, object.index ≠ some i) ∧
      ∀ (other : ℕ) (stage : SubmitStage), r.submits[other]? = some stage →
        stage.index = some i → other = thread := by
  have hplaces := h.indices i
  have hsubmit : 0 < heldBy SubmitStage.index r.submits i :=
    heldBy_pos (List.mem_of_getElem? hthread) rfl
  unfold indexPlaces queuedIndices at hplaces
  -- the thread is one holder, and there is no second one
  have hone : heldBy some r.decoder.free_decode_indices_ i = 0 ∧
      heldBy DecodedFrame.index r.decoder.decoded_queue_ i = 0 ∧
      heldBy FrameObject.index r.frames i = 0 ∧ heldBy SubmitStage.index r.submits i ≤ 1 := by
    split_ifs at hplaces <;> omega
  obtain ⟨hfree, hqueue, hframes, hsubmits⟩ := hone
  refine ⟨fun hmem => ?_, fun frame hmem heq => ?_, fun object hmem hindex => ?_, ?_⟩
  · have hpos : 0 < heldBy some r.decoder.free_decode_indices_ i := heldBy_pos hmem rfl
    omega
  · have hpos : 0 < heldBy DecodedFrame.index r.decoder.decoded_queue_ i :=
      heldBy_pos hmem (congrArg some heq)
    omega
  · have hpos := heldBy_pos hmem hindex
    omega
  · intro other stage hother hindex
    exact index_eq_of_heldBy_le_one hsubmits hother hthread hindex rfl

end DecoderRun

/-! ## Main result -/

/-- In every state of every run an index of the pool is in one place, so that a thread that
decodes into it is the only one who has it; the descriptor of a decode is destroyed at most
once, and only if the decode gave one of its own; and the queue is within its bound. -/
theorem decode_pool_conserved (capture_plane_buffers max_mjpeg_size_bytes : UInt32)
    (fds : List ℤ) (hlength : fds.length = max 1 capture_plane_buffers.toNat)
    (hfds : ∀ fd ∈ fds, 0 ≤ fd) (events : List DecoderEvent) (r : DecoderRun)
    (hrun : runSteps DecoderRun.step
      (DecoderRun.start capture_plane_buffers max_mjpeg_size_bytes fds) events = some r) :
    (∀ i, heldBy some r.decoder.free_decode_indices_ i +
        heldBy DecodedFrame.index r.decoder.decoded_queue_ i +
        heldBy SubmitStage.index r.submits i + heldBy FrameObject.index r.frames i =
      if i < fds.length then 1 else 0) ∧
    (∀ (thread : ℕ) args i fd, r.submits[thread]? = some (SubmitStage.decoding args i fd) →
      i ∉ r.decoder.free_decode_indices_ ∧
      (∀ frame ∈ r.decoder.decoded_queue_, frame._cap_buf_index.toNat ≠ i) ∧
      (∀ object ∈ r.frames, object.index ≠ some i) ∧
      ∀ (other : ℕ) (stage : SubmitStage), r.submits[other]? = some stage →
        stage.index = some i → other = thread) ∧
    (r.destroyed.map Prod.fst).Nodup ∧
    (∀ entry ∈ r.destroyed, entry ∈ r.foreign) ∧
    r.decoder.decoded_queue_.length ≤ max 1 capture_plane_buffers.toNat := by
  have h : r.Conserved fds capture_plane_buffers :=
    runSteps_invariant (fun s event s' hs hstep => DecoderRun.conserved_step hs hstep)
      (DecoderRun.conserved_start hlength hfds max_mjpeg_size_bytes) hrun
  have hindices : ∀ i, r.indexPlaces i = if i < fds.length then 1 else 0 := by
    intro i
    rw [h.indices, h.fds_eq]
  refine ⟨hindices, ?_, ?_, h.sound.given, ?_⟩
  -- the places of an index include those of the other threads and of the consumer
  · intro thread args i fd hthread
    exact h.decoding_alone hthread
  -- of the places of a decode only the destroyed ones matter here
  · refine nodup_of_heldBy_le_one fun n => ?_
    have hn := h.decodes n
    unfold DecoderRun.decodePlaces DecoderRun.queuedDecodes at hn
    split_ifs at hn <;> omega
  · have hcapacity := h.sound.capacity
    rw [VideoDecoder.max_queue, h.buffers_eq] at hcapacity
    exact hcapacity

/-- A decode gives a descriptor of its own, and the frame is requeued twice: the descriptor is
destroyed once and the index is free once. -/
theorem decode_pool_conserved_requeued_twice :
    let decode : DecodeAnswer := { fd := 9 }
    let events : List DecoderEvent := [.submitDetailed {}, .submitStep 0 decode,
      .submitStep 0 decode, .submitStep 0 decode, .submitStep 0 decode, .submitStep 0 decode,
      .submitStep 0 decode, .declareFrame, .dequeueSync 0, .requeueCapture 0, .requeueCapture 0,
      .requeueCapture 0, .requeueCapture 0, .requeueCapture 0, .requeueCapture 0]
    ∃ r, runSteps DecoderRun.step (DecoderRun.start 1 1000 [5]) events = some r ∧
      r.submits = [.returned .kQueued] ∧ r.destroyed = [(0, 9)] ∧
      r.decoder.free_decode_indices_ = [0] ∧
      r.decoder.decoded_queue_.length ≤ max 1 (1 : UInt32).toNat := by
  intro decode events
  refine ⟨_, rfl, rfl, rfl, rfl, ?_⟩
  exact (decode_pool_conserved 1 1000 [5] rfl (by decide) events _ rfl).2.2.2.2

end TeleopBridge.Video
