import Mathlib.Data.List.Nodup
import Mathlib.Logic.Function.Basic
import TeleopBridge.Support.Transition
import TeleopBridge.Video.Bitstream

/-!
# Emission of the Parameter Sets

Embeds how `src/video/video_module.cpp` collects the parameter sets and hands them on: the
capture callback of the encoder, `updateParameterSets` on encoded frames, `clearSpsPps`,
`setSpsPpsCallback` and `emitCachedParameterSetsIfReady`. They run in different threads and meet
in `sps_pps_mutex_`; `updateParameterSets` gives the mutex back between two units.

`emitCachedParameterSetsIfReady` exchanges `sps_pps_emitted_` and copies inside of the mutex, and
calls the callback behind it. `setSpsPpsCallback` stores the callback without the mutex: the store
is one step here, which may come between the test of the callback and its copy.

## Key Result

`parameterSets_emitted`: between two calls of `clearSpsPps` parameter sets are emitted at most
once, only complete ones, and never left out; what is emitted is delivered once.
-/

namespace TeleopBridge.Video

open Support

/-! ## The encoder -/

namespace VideoEncoder

/-- The encoder after `parseSpsPps_` has seen these packets. -/
def afterPackets (codec : Codec) (packets : List (List UInt8)) : SpsPps :=
  packets.foldl (fun s data => (parseSpsPps_ codec s data).2) {}

end VideoEncoder

/-! ## Threads of the module -/

namespace VideoModule

/-- Parameter sets for which `sps_pps_emitted_` was exchanged, with the number of calls of
`clearSpsPps` before. -/
structure Emission where
  clears : ℕ
  sets : ParameterSets
  deriving DecidableEq, Repr

/-- The copies of `emitCachedParameterSetsIfReady`. An empty callback throws when it is called. -/
structure Delivery where
  callback : Option ℕ
  emission : Emission
  deriving DecidableEq, Repr

/-- Where a thread is in the functions of the module. -/
inductive ParameterSetTask
  | idle
  /-- In the callback of the encoder, before the mutex. -/
  | capturing (sets : ParameterSets)
  /-- In `updateParameterSets`, before its first look at the cache. -/
  | updating (data : List UInt8)
  /-- Between two units, with those to come. -/
  | caching (nals : List (List UInt8)) (became_ready : Bool)
  | clearing
  | setting (callback : Option ℕ)
  /-- Before the mutex in `emitCachedParameterSetsIfReady`. -/
  | emitting
  /-- Inside of the mutex, behind the exchange of `sps_pps_emitted_`. -/
  | copying
  /-- Behind the mutex, with the copies. -/
  | delivering (delivery : Delivery)
  deriving DecidableEq, Repr

/-- The module with its threads. -/
structure ParameterSetRun where
  codec : Codec
  tasks : ℕ → ParameterSetTask := fun _ => .idle
  /-- The thread that stopped inside of `sps_pps_mutex_`. -/
  mutex : Option ℕ := none
  cached : ParameterSets := {}
  sps_pps_callback_ : Option ℕ := none
  sps_pps_emitted_ : Bool := false
  clears : ℕ := 0
  emitted : List Emission := []
  delivered : List Delivery := []
  /-- An empty callback was stored. -/
  removed : Bool := false

/-- What a thread begins, and its steps. -/
inductive ParameterSetStep
  /-- An encoder that has seen these packets reports its parameter sets. -/
  | capture (t : ℕ) (packets : List (List UInt8))
  | encodedFrame (t : ℕ) (data : List UInt8)
  | clear (t : ℕ)
  | setCallback (t : ℕ) (callback : Option ℕ)
  /-- `start` emits what is cached. -/
  | start (t : ℕ)
  | go (t : ℕ)
  deriving DecidableEq, Repr

namespace ParameterSetRun

def set (r : ParameterSetRun) (t : ℕ) (task : ParameterSetTask) : ParameterSetRun :=
  { r with tasks := Function.update r.tasks t task }

def ready (r : ParameterSetRun) : Bool := parameterSetsReadyLocked r.codec r.cached

/-- What is emitted now. -/
def emission (r : ParameterSetRun) : Emission := ⟨r.clears, r.cached⟩

/-- The exchange of `sps_pps_emitted_`, where it was false; the thread stays inside of the
mutex. -/
def exchangeEmitted (r : ParameterSetRun) (t : ℕ) : ParameterSetRun :=
  { r.set t .copying with
    mutex := some t
    sps_pps_emitted_ := true
    emitted := r.emitted ++ [r.emission] }

/-- The copies of the callback and the parameter sets, and the end of the mutex. -/
def copyParameterSets (r : ParameterSetRun) (t : ℕ) : ParameterSetRun :=
  { r.set t (.delivering ⟨r.sps_pps_callback_, r.emission⟩) with mutex := none }

/-- `callback(sps, pps, vps)` -/
def callCallback (r : ParameterSetRun) (t : ℕ) (delivery : Delivery) : ParameterSetRun :=
  { r.set t .idle with delivered := r.delivered ++ [delivery] }

/-- `emitCachedParameterSetsIfReady` up to the exchange. -/
def emitCachedParameterSetsIfReady (r : ParameterSetRun) (t : ℕ) : ParameterSetRun :=
  if !r.ready ∨ r.sps_pps_callback_ = none then r.set t .idle
  else if r.sps_pps_emitted_ then r.set t .idle
  else r.exchangeEmitted t

/-- What is done inside of the mutex, once no other thread is there. -/
def inside (r m : ParameterSetRun) : Option ParameterSetRun :=
  if r.mutex = none then some m else none

/-- A thread begins a call. -/
def begin (r : ParameterSetRun) (t : ℕ) (task : ParameterSetTask) : Option ParameterSetRun :=
  if r.tasks t = .idle then some (r.set t task) else none

/-- The next step of a thread. -/
def go (r : ParameterSetRun) (t : ℕ) : Option ParameterSetRun :=
  match r.tasks t with
  | .idle => none
  | .capturing sets => r.inside { r.set t .emitting with cached := sets }
  | .updating data => r.inside <|
      if data.length = 0 ∨ r.ready ∨ detectStreamFormat data = .Unknown then r.set t .idle
      else r.set t (.caching (forEachNal data (detectStreamFormat data)) false)
  | .caching (nal :: nals) became_ready =>
      let state := cacheNal r.codec (became_ready, r.cached) nal
      r.inside { r.set t (.caching nals state.1) with cached := state.2 }
  | .caching [] became_ready => some (r.set t (if became_ready then .emitting else .idle))
  | .clearing => r.inside { r.set t .idle with
      cached := {}
      sps_pps_emitted_ := false
      clears := r.clears + 1 }
  | .setting callback => some { r.set t .emitting with
      sps_pps_callback_ := callback
      removed := r.removed || callback.isNone }
  | .emitting => r.inside (r.emitCachedParameterSetsIfReady t)
  | .copying => some (r.copyParameterSets t)
  | .delivering delivery => some (r.callCallback t delivery)

def step (r : ParameterSetRun) : ParameterSetStep → Option ParameterSetRun
  | .capture t packets =>
      let sets := (VideoEncoder.afterPackets r.codec packets).toParameterSets
      if parameterSetsReadyLocked r.codec sets then r.begin t (.capturing sets) else none
  | .encodedFrame t data => r.begin t (.updating data)
  | .clear t => r.begin t .clearing
  | .setCallback t callback => r.begin t (.setting callback)
  | .start t => r.begin t .emitting
  | .go t => r.go t

end ParameterSetRun

end VideoModule

/-! ## The units -/

/-- What is cached has the NAL unit type of its place. -/
def UnitTypes : Codec → ParameterSets → Prop
  | .kH265, s => (s.cached_vps_ = [] ∨ h265NalType s.cached_vps_ = 32) ∧
      (s.cached_sps_ = [] ∨ h265NalType s.cached_sps_ = 33) ∧
      (s.cached_pps_ = [] ∨ h265NalType s.cached_pps_ = 34)
  | .kH264, s => s.cached_vps_ = [] ∧ (s.cached_sps_ = [] ∨ h264NalType s.cached_sps_ = 7) ∧
      (s.cached_pps_ = [] ∨ h264NalType s.cached_pps_ = 8)

/-- An empty cache has no unit of a wrong type. -/
theorem unitTypes_empty (codec : Codec) : UnitTypes codec {} := by
  cases codec with
  | kH264 => exact ⟨rfl, .inl rfl, .inl rfl⟩
  | kH265 => exact ⟨.inl rfl, .inl rfl, .inl rfl⟩

/-- The encoder caches a unit under the type it has. -/
theorem VideoEncoder.cacheNal_unitTypes {codec : Codec} {s : ParameterSets}
    (h : UnitTypes codec s) (nal : List UInt8) :
    UnitTypes codec (VideoEncoder.cacheNal codec s nal) := by
  cases codec with
  | kH264 =>
    obtain ⟨hvps, hsps, hpps⟩ := h
    simp only [VideoEncoder.cacheNal]
    -- the tests of the type are the source's, in its order
    split_ifs with hshort hseq hpic
    · exact ⟨hvps, hsps, hpps⟩
    · exact ⟨hvps, .inr hseq.1, hpps⟩
    · exact ⟨hvps, hsps, .inr hpic.1⟩
    · exact ⟨hvps, hsps, hpps⟩
  | kH265 =>
    obtain ⟨hvps, hsps, hpps⟩ := h
    simp only [VideoEncoder.cacheNal]
    split_ifs with hshort hvid hseq hpic
    · exact ⟨hvps, hsps, hpps⟩
    · exact ⟨.inr hvid.1, hsps, hpps⟩
    · exact ⟨hvps, .inr hseq.1, hpps⟩
    · exact ⟨hvps, hsps, .inr hpic.1⟩
    · exact ⟨hvps, hsps, hpps⟩

/-- So does a whole packet, whichever way it is split into units. -/
theorem VideoEncoder.parseSpsPps_unitTypes {codec : Codec} {s : SpsPps}
    (h : UnitTypes codec s.toParameterSets) (data : List UInt8) :
    UnitTypes codec (VideoEncoder.parseSpsPps_ codec s data).2.toParameterSets := by
  have hunits (nals : List (List UInt8)) (sets : ParameterSets) (hsets : UnitTypes codec sets) :
      UnitTypes codec (nals.foldl (VideoEncoder.cacheNal codec) sets) := by
    induction nals generalizing sets with
    | nil => exact hsets
    | cons nal nals ih => exact ih _ (VideoEncoder.cacheNal_unitTypes hsets nal)
  simp only [VideoEncoder.parseSpsPps_]
  -- not parsed at all, as Annex-B, or by length fields
  split_ifs
  · exact h
  · exact hunits _ _ h
  · exact hunits _ _ h

/-- So do all packets of a capture. -/
theorem VideoEncoder.afterPackets_unitTypes (codec : Codec) (packets : List (List UInt8)) :
    UnitTypes codec (VideoEncoder.afterPackets codec packets).toParameterSets := by
  have hpackets (s : SpsPps) (hs : UnitTypes codec s.toParameterSets) :
      UnitTypes codec (packets.foldl (fun s data =>
        (VideoEncoder.parseSpsPps_ codec s data).2) s).toParameterSets := by
    induction packets generalizing s with
    | nil => exact hs
    | cons data packets ih => exact ih _ (VideoEncoder.parseSpsPps_unitTypes hs data)
  exact hpackets {} (unitTypes_empty codec)

namespace VideoModule

/-- The module caches a unit under the type it has. -/
theorem cacheNal_unitTypes {codec : Codec} {state : Bool × ParameterSets}
    (h : UnitTypes codec state.2) (nal : List UInt8) :
    UnitTypes codec (cacheNal codec state nal).2 := by
  cases codec with
  | kH264 =>
    obtain ⟨hvps, hsps, hpps⟩ := h
    simp only [cacheNal]
    split_ifs with hshort hseq hpic
    · exact ⟨hvps, hsps, hpps⟩
    · exact ⟨hvps, .inr hseq.1, hpps⟩
    · exact ⟨hvps, hsps, .inr hpic.1⟩
    · exact ⟨hvps, hsps, hpps⟩
  | kH265 =>
    obtain ⟨hvps, hsps, hpps⟩ := h
    simp only [cacheNal]
    split_ifs with hempty hshort hvid hseq hpic
    · exact ⟨hvps, hsps, hpps⟩
    · exact ⟨hvps, hsps, hpps⟩
    · exact ⟨.inr hvid.1, hsps, hpps⟩
    · exact ⟨hvps, .inr hseq.1, hpps⟩
    · exact ⟨hvps, hsps, .inr hpic.1⟩
    · exact ⟨hvps, hsps, hpps⟩

/-- A unit that is not skipped leaves `became_ready` as the cache is. -/
theorem cacheNal_became_ready (codec : Codec) (state : Bool × ParameterSets) (nal : List UInt8) :
    cacheNal codec state nal = state ∨ (cacheNal codec state nal).1 =
      parameterSetsReadyLocked codec (cacheNal codec state nal).2 := by
  by_cases hempty : nal.length < 1
  · exact .inl (if_pos hempty)
  · cases codec with
    | kH264 =>
      simp only [cacheNal, if_neg hempty]
      exact .inr trivial
    | kH265 =>
      by_cases hshort : nal.length < 2
      · exact .inl (by simp only [cacheNal, if_neg hempty, if_pos hshort])
      · simp only [cacheNal, if_neg hempty, if_neg hshort]
        exact .inr trivial

/-! ## The invariant -/

/-- The thread will come to `emitCachedParameterSetsIfReady`, or has only units before it that
leave the cache incomplete. -/
def ParameterSetTask.Emits : ParameterSetTask → Prop
  | .emitting => True
  | .caching _ became_ready => became_ready = true
  | _ => False

/-- The thread has nothing to deliver. -/
def ParameterSetTask.Plain : ParameterSetTask → Prop
  | .copying | .delivering _ => False
  | _ => True

theorem ParameterSetTask.Plain.ne_copying {task : ParameterSetTask} (h : task.Plain) :
    task ≠ .copying := by
  rintro rfl
  exact h

theorem ParameterSetTask.Plain.ne_delivering {task : ParameterSetTask} (h : task.Plain)
    (delivery : Delivery) : task ≠ .delivering delivery := by
  rintro rfl
  exact h

namespace ParameterSetRun

variable {r r' : ParameterSetRun} {t : ℕ} {task : ParameterSetTask}

/-- What is ready and was not emitted is on the way. -/
def Promised (r : ParameterSetRun) : Prop :=
  r.ready = true → r.sps_pps_callback_.isSome = true → r.sps_pps_emitted_ = false →
    ∃ t, (r.tasks t).Emits

/-- The invariant of the module. -/
structure EmissionInv (r : ParameterSetRun) : Prop where
  cached : UnitTypes r.codec r.cached
  capturing : ∀ t sets, r.tasks t = .capturing sets → UnitTypes r.codec sets
  emitted : ∀ e ∈ r.emitted, parameterSetsReadyLocked r.codec e.sets = true ∧
    UnitTypes r.codec e.sets
  increasing : (r.emitted.map Emission.clears).Pairwise (· < ·)
  latest : ∀ e ∈ r.emitted, e.clears ≤ r.clears ∧
    (e.clears = r.clears → r.sps_pps_emitted_ = true)
  flag : r.sps_pps_emitted_ = true → ∃ e ∈ r.emitted, e.clears = r.clears
  promised : r.Promised

/-- The module starts with an empty cache and no emission. -/
theorem emissionInv_initial (codec : Codec) : EmissionInv { codec := codec } where
  cached := unitTypes_empty codec
  capturing _ _ h := by cases h
  emitted _ h := absurd h List.not_mem_nil
  increasing := List.Pairwise.nil
  latest _ h := absurd h List.not_mem_nil
  flag h := by cases h
  promised _ h := by cases h

/-- A thread has the task that was set. -/
@[simp] theorem set_tasks_self (r : ParameterSetRun) (t : ℕ) (task : ParameterSetTask) :
    (r.set t task).tasks t = task := by
  simp only [set, Function.update_self]

/-- No other thread is touched by it. -/
theorem set_tasks_of_ne {u : ℕ} (hut : u ≠ t) : (r.set t task).tasks u = r.tasks u := by
  simp only [set, Function.update_of_ne hut]

/-- Only a call that is given parameter sets captures any. -/
theorem EmissionInv.capturing_set (h : r.EmissionInv)
    (htask : ∀ sets, task = .capturing sets → UnitTypes r.codec sets) :
    ∀ u sets, (r.set t task).tasks u = .capturing sets → UnitTypes r.codec sets := by
  intro u sets hu
  by_cases hut : u = t
  · rw [hut, set_tasks_self] at hu
    exact htask sets hu
  · rw [set_tasks_of_ne hut] at hu
    exact h.capturing u sets hu

/-- A thread that was not going to emit leaves it to the others. -/
theorem Promised.set (h : r.Promised) (hnot : ¬(r.tasks t).Emits) : (r.set t task).Promised := by
  intro hready hcallback hnew
  obtain ⟨u, hu⟩ := h hready hcallback hnew
  have hut : u ≠ t := by
    rintro rfl
    exact hnot hu
  exact ⟨u, by rwa [set_tasks_of_ne hut]⟩

/-- After one unit: if the cache is complete, this thread emits or an earlier one does. -/
theorem Promised.cacheNal (h : r.Promised) {nal : List UInt8} {nals : List (List UInt8)}
    {became_ready : Bool} (hthread : r.tasks t = .caching (nal :: nals) became_ready) :
    let state := VideoModule.cacheNal r.codec (became_ready, r.cached) nal
    Promised { r.set t (.caching nals state.1) with cached := state.2 } := by
  intro state hready hcallback hnew
  rcases cacheNal_became_ready r.codec (became_ready, r.cached) nal with hskip | hflag
  · -- the unit is skipped, and the thread's promise stays what it was
    simp only [state, hskip] at hready ⊢
    obtain ⟨u, hu⟩ := h hready hcallback hnew
    refine ⟨u, ?_⟩
    by_cases hut : u = t
    · rw [hut, hthread] at hu
      rw [hut, set_tasks_self]
      exact hu
    · rwa [set_tasks_of_ne hut]
  · exact ⟨t, by rw [set_tasks_self]; exact hflag.trans hready⟩

/-- A step that changes only its thread. -/
theorem EmissionInv.set (h : r.EmissionInv)
    (htask : ∀ sets, task = .capturing sets → UnitTypes r.codec sets)
    (hpromised : (r.set t task).Promised) : (r.set t task).EmissionInv where
  cached := h.cached
  capturing := h.capturing_set htask
  emitted := h.emitted
  increasing := h.increasing
  latest := h.latest
  flag := h.flag
  promised := hpromised

/-- A step that changes the cache beside its thread. -/
theorem EmissionInv.cache (h : r.EmissionInv) {sets : ParameterSets}
    (hsets : UnitTypes r.codec sets) (htask : ∀ sets, task ≠ .capturing sets)
    (hpromised : Promised { r.set t task with cached := sets }) :
    EmissionInv { r.set t task with cached := sets } where
  cached := hsets
  capturing := h.capturing_set fun sets heq => absurd heq (htask sets)
  emitted := h.emitted
  increasing := h.increasing
  latest := h.latest
  flag := h.flag
  promised := hpromised

/-- The copies and the call leave the cache and the flag alone. -/
theorem EmissionInv.leave (h : r.EmissionInv) (hnot : ¬(r.tasks t).Emits)
    (htask : ∀ sets, task ≠ .capturing sets) (mutex : Option ℕ) (delivered : List Delivery) :
    EmissionInv { r.set t task with mutex, delivered } where
  cached := h.cached
  capturing := h.capturing_set fun sets heq => absurd heq (htask sets)
  emitted := h.emitted
  increasing := h.increasing
  latest := h.latest
  flag := h.flag
  promised := h.promised.set hnot

/-- A call begins in a thread that was not going to emit. -/
theorem EmissionInv.begin (h : r.EmissionInv)
    (htask : ∀ sets, task = .capturing sets → UnitTypes r.codec sets)
    (hstep : r.begin t task = some r') : r'.EmissionInv := by
  unfold ParameterSetRun.begin at hstep
  split at hstep
  · rename_i hidle
    cases hstep
    exact h.set htask (h.promised.set (by rw [hidle]; exact id))
  · cases hstep

/-- `clearSpsPps` starts a round without emission. -/
theorem EmissionInv.clear (h : r.EmissionInv) :
    EmissionInv { r.set t .idle with
      cached := {}
      sps_pps_emitted_ := false
      clears := r.clears + 1 } where
  cached := unitTypes_empty r.codec
  capturing := h.capturing_set fun sets heq => by cases heq
  emitted := h.emitted
  increasing := h.increasing
  -- the count of clears grows, so no emission is of the new one
  latest e he := by
    have hle := (h.latest e he).1
    exact ⟨Nat.le_succ_of_le hle, fun heq => absurd heq (by dsimp only; omega)⟩
  flag hflag := by cases hflag
  promised hready := by
    cases hcodec : r.codec <;>
      simp [ready, parameterSetsReadyLocked, hcodec, ParameterSetRun.set] at hready

/-- What is emitted comes behind all earlier emissions. -/
theorem EmissionInv.earlier (h : r.EmissionInv) (hflag : r.sps_pps_emitted_ = false) :
    ∀ e ∈ r.emitted, e.clears < r.clears := by
  intro e he
  obtain ⟨hle, hlast⟩ := h.latest e he
  refine Nat.lt_of_le_of_ne hle fun heq => ?_
  rw [hlast heq] at hflag
  cases hflag

/-- The first emission since the last `clearSpsPps`. -/
theorem EmissionInv.exchange (h : r.EmissionInv) (hready : r.ready = true)
    (hflag : r.sps_pps_emitted_ = false) :
    (r.exchangeEmitted t).EmissionInv where
  cached := h.cached
  capturing := h.capturing_set fun sets heq => by cases heq
  emitted e he := by
    rcases List.mem_append.mp he with he | he
    · exact h.emitted e he
    · rw [List.mem_singleton.mp he]
      exact ⟨hready, h.cached⟩
  -- the flag was down: every emission so far is of an earlier clear
  increasing := by
    unfold exchangeEmitted
    rw [List.map_append, List.pairwise_append]
    refine ⟨h.increasing, List.pairwise_singleton _ _, fun n hn m hm => ?_⟩
    obtain ⟨e, he, rfl⟩ := List.mem_map.mp hn
    rw [List.mem_singleton.mp hm]
    exact h.earlier hflag e he
  latest e he := by
    rcases List.mem_append.mp he with he | he
    · exact ⟨Nat.le_of_lt (h.earlier hflag e he), fun _ => rfl⟩
    · rw [List.mem_singleton.mp he]
      exact ⟨Nat.le_refl _, fun _ => rfl⟩
  flag _ := ⟨_, List.mem_append_right _ (List.mem_singleton_self _), rfl⟩
  -- the flag is up now, so nothing is promised
  promised _ _ hnew := by cases hnew

/-- A thread leaves without the exchange only if there is nothing to emit, nobody to emit it to, or
the round has emitted. -/
theorem EmissionInv.emit (h : r.EmissionInv) :
    (r.emitCachedParameterSetsIfReady t).EmissionInv := by
  have hidle : ∀ sets, ParameterSetTask.idle = .capturing sets → UnitTypes r.codec sets :=
    fun sets heq => by cases heq
  unfold emitCachedParameterSetsIfReady
  split
  · -- nothing to emit, or nobody to emit it to
    rename_i hnothing
    refine h.set hidle fun hready hcallback => ?_
    rcases hnothing with hunready | hnone
    · cases (Bool.not_eq_true' _).mp hunready |>.symm.trans hready
    · cases (Option.isSome_iff_ne_none.mp hcallback) hnone
  · rename_i hsomething
    obtain ⟨hready, -⟩ := not_or.mp hsomething
    split
    · rename_i hflag
      exact h.set hidle fun _ _ hnew => by cases hflag.symm.trans hnew
    · rename_i hflag
      exact h.exchange (by simpa using hready) ((Bool.not_eq_true _).mp hflag)

/-- A thread is inside of the mutex only while nobody else is. -/
theorem inside_eq_some {m : ParameterSetRun} (hstep : r.inside m = some r') :
    r.mutex = none ∧ m = r' := by
  obtain ⟨hfree, hm⟩ := Option.ite_none_right_eq_some.mp hstep
  exact ⟨hfree, Option.some.inj hm⟩

/-- Every step of a thread, by where it is. -/
theorem EmissionInv.go (h : r.EmissionInv) (hstep : r.go t = some r') : r'.EmissionInv := by
  unfold ParameterSetRun.go at hstep
  split at hstep
  · cases hstep
  · -- the callback of the encoder
    rename_i sets hthread
    obtain ⟨-, rfl⟩ := inside_eq_some hstep
    refine h.cache (h.capturing t sets hthread) (fun sets heq => by cases heq) fun _ _ _ => ?_
    exact ⟨t, by rw [set_tasks_self]; exact trivial⟩
  · -- `updateParameterSets` goes on only if the cache was not complete
    rename_i data hthread
    have hnot : ¬(r.tasks t).Emits := by
      rw [hthread]
      exact id
    obtain ⟨-, rfl⟩ := inside_eq_some hstep
    split
    · exact h.set (fun sets heq => by cases heq) (h.promised.set hnot)
    · exact h.set (fun sets heq => by cases heq) (h.promised.set hnot)
  · rename_i nal nals became_ready hthread
    obtain ⟨-, rfl⟩ := inside_eq_some hstep
    exact h.cache (cacheNal_unitTypes h.cached nal) (fun sets heq => by cases heq)
      (h.promised.cacheNal hthread)
  · rename_i became_ready hthread
    cases hstep
    cases became_ready with
    | true =>
      refine h.set (fun sets heq => by cases heq) fun _ _ _ => ?_
      exact ⟨t, by rw [set_tasks_self]; exact trivial⟩
    | false =>
      refine h.set (fun sets heq => by cases heq) (h.promised.set ?_)
      rw [hthread]
      exact Bool.false_ne_true
  · obtain ⟨-, rfl⟩ := inside_eq_some hstep
    exact h.clear
  · -- whoever sets the callback emits next
    rename_i callback hthread
    cases hstep
    exact ⟨h.cached, h.capturing_set fun sets heq => (by cases heq), h.emitted,
      h.increasing, h.latest, h.flag, fun _ _ _ => ⟨t, by rw [set_tasks_self]; exact trivial⟩⟩
  · obtain ⟨-, rfl⟩ := inside_eq_some hstep
    exact h.emit
  · rename_i hthread
    cases hstep
    exact h.leave (by rw [hthread]; exact id) (fun sets heq => by cases heq) _ _
  · rename_i delivery hthread
    cases hstep
    exact h.leave (by rw [hthread]; exact id) (fun sets heq => by cases heq) _ _

/-- Every step of a thread keeps the record of the emissions. -/
theorem EmissionInv.step {a : ParameterSetStep} (h : r.EmissionInv) (hstep : r.step a = some r') :
    r'.EmissionInv := by
  cases a with
  | capture t packets =>
    simp only [ParameterSetRun.step] at hstep
    split at hstep
    · refine h.begin (fun sets heq => ?_) hstep
      cases heq
      exact VideoEncoder.afterPackets_unitTypes r.codec packets
    · cases hstep
  | encodedFrame t data => exact h.begin (fun sets heq => by cases heq) hstep
  | clear t => exact h.begin (fun sets heq => by cases heq) hstep
  | setCallback t callback => exact h.begin (fun sets heq => by cases heq) hstep
  | start t => exact h.begin (fun sets heq => by cases heq) hstep
  | go t => exact h.go hstep

/-! ## Deliveries -/

/-- The emission that the thread has still to deliver. -/
def debt (r : ParameterSetRun) (t : ℕ) : Option Emission :=
  match r.tasks t with
  | .copying => some r.emission
  | .delivering delivery => some delivery.emission
  | _ => none

/-- Every emission is delivered or in the hands of one thread. -/
structure DeliveryInv (r : ParameterSetRun) : Prop where
  holder : ∀ t, r.tasks t = .copying ↔ r.mutex = some t
  owed : ∀ t e, r.debt t = some e → e ∈ r.emitted ∧ e ∉ r.delivered.map Delivery.emission
  single : ∀ t u e, r.debt t = some e → r.debt u = some e → t = u
  settled : ∀ e ∈ r.emitted, e ∈ r.delivered.map Delivery.emission ∨ ∃ t, r.debt t = some e
  once : (r.delivered.map Delivery.emission).Nodup
  genuine : ∀ d ∈ r.delivered, d.emission ∈ r.emitted
  /-- Between the test of the callback and its copy only an empty one can take its place. -/
  copied : r.removed = false → r.mutex.isSome = true → r.sps_pps_callback_.isSome = true
  called : r.removed = false → ∀ d, (∃ t, r.tasks t = .delivering d) ∨ d ∈ r.delivered →
    d.callback.isSome = true

/-- At the start nothing is owed and nothing delivered. -/
theorem deliveryInv_initial (codec : Codec) : DeliveryInv { codec := codec } where
  holder _ := iff_of_false nofun nofun
  owed _ _ h := by cases h
  single _ _ _ h := by cases h
  settled _ h := absurd h List.not_mem_nil
  once := List.nodup_nil
  genuine _ h := absurd h List.not_mem_nil
  copied _ h := by cases h
  called _ _ h := by
    rcases h with ⟨t, ht⟩ | h
    · cases ht
    · cases h

/-- A thread with a plain task owes no delivery. -/
theorem debt_eq_none (hplain : (r.tasks t).Plain) : r.debt t = none := by
  unfold debt
  split
  · rename_i h
    rw [h] at hplain
    exact hplain.elim
  · rename_i d h
    rw [h] at hplain
    exact hplain.elim
  · rfl

/-- What another thread owes does not change with the cache, as that thread is not inside of the
mutex. -/
theorem DeliveryInv.debt_of_ne (h : r.DeliveryInv) {m : ParameterSetRun} {u : ℕ} (hut : u ≠ t)
    (htasks : m.tasks = (r.set t task).tasks)
    (hcache : r.mutex = none ∨ r.mutex = some t ∨ m.emission = r.emission) :
    m.debt u = r.debt u := by
  unfold debt
  rw [htasks, set_tasks_of_ne hut]
  split
  · rename_i hcopying
    -- a copying thread holds the mutex, so no other one changed the cache
    rcases hcache with hfree | hmine | hsame
    · cases hfree.symm.trans ((h.holder u).mp hcopying)
    · cases hut (Option.some.inj (((h.holder u).mp hcopying).symm.trans hmine))
    · rw [hsame]
  · rfl
  · rfl

/-- A step of a thread that neither emits nor delivers. -/
theorem DeliveryInv.quiet (h : r.DeliveryInv) {m : ParameterSetRun}
    (htasks : m.tasks = (r.set t task).tasks) (hbefore : (r.tasks t).Plain) (hafter : task.Plain)
    (hmutex : m.mutex = r.mutex)
    (hcache : r.mutex = none ∨ m.emission = r.emission) (hemitted : m.emitted = r.emitted)
    (hdelivered : m.delivered = r.delivered)
    (hcallback : m.removed = false → r.removed = false ∧
      (r.sps_pps_callback_.isSome = true → m.sps_pps_callback_.isSome = true)) :
    m.DeliveryInv := by
  have hself : m.tasks t = task := by rw [htasks, set_tasks_self]
  -- a plain task before and after: no thread owes more or less
  have hdebt : ∀ u, m.debt u = r.debt u := by
    intro u
    by_cases hut : u = t
    · rw [hut, debt_eq_none hbefore, debt_eq_none (hself ▸ hafter)]
    · exact h.debt_of_ne hut htasks (hcache.imp_right .inr)
  refine ⟨fun u => ?_, ?_, ?_, ?_, hdelivered ▸ h.once, ?_, ?_, ?_⟩
  · rw [hmutex, ← h.holder]
    by_cases hut : u = t
    · rw [hut, hself]
      exact iff_of_false hafter.ne_copying hbefore.ne_copying
    · rw [htasks, set_tasks_of_ne hut]
  · rw [hemitted, hdelivered]
    exact fun u e hu => h.owed u e (hdebt u ▸ hu)
  · exact fun u v e hu hv => h.single u v e (hdebt u ▸ hu) (hdebt v ▸ hv)
  · rw [hemitted, hdelivered]
    intro e he
    exact (h.settled e he).imp_right fun ⟨u, hu⟩ => ⟨u, (hdebt u).trans hu⟩
  · rw [hemitted, hdelivered]
    exact h.genuine
  · rw [hmutex]
    exact fun hkept hheld => (hcallback hkept).2 (h.copied (hcallback hkept).1 hheld)
  · rw [hdelivered]
    -- the callback is the one it was, or was set anew
    rintro hkept d (⟨u, hu⟩ | hd)
    · by_cases hut : u = t
      · rw [hut, hself] at hu
        exact absurd hu (hafter.ne_delivering d)
      · rw [htasks, set_tasks_of_ne hut] at hu
        exact h.called (hcallback hkept).1 d (.inl ⟨u, hu⟩)
    · exact h.called (hcallback hkept).1 d (.inr hd)

/-- The exchange: the emission is new, and its delivery is up to the thread. -/
theorem DeliveryInv.exchange (h : r.DeliveryInv) (hnew : r.emission ∉ r.emitted)
    (hfree : r.mutex = none) (hcallback : r.sps_pps_callback_.isSome = true)
    (hbefore : r.debt t = none) : (r.exchangeEmitted t).DeliveryInv := by
  have hself : (r.exchangeEmitted t).debt t = some r.emission := by
    unfold debt exchangeEmitted
    simp only [set_tasks_self]
    rfl
  have hother : ∀ u, u ≠ t → (r.exchangeEmitted t).debt u = r.debt u :=
    fun u hut => h.debt_of_ne hut rfl (.inl hfree)
  have hunknown : r.emission ∉ r.delivered.map Delivery.emission := by
    intro hdelivered
    obtain ⟨d, hd, heq⟩ := List.mem_map.mp hdelivered
    exact hnew (heq ▸ h.genuine d hd)
  have howed : ∀ u e, (r.exchangeEmitted t).debt u = some e →
      u = t ∧ e = r.emission ∨ u ≠ t ∧ r.debt u = some e := by
    intro u e hu
    by_cases hut : u = t
    · rw [hut, hself] at hu
      exact .inl ⟨hut, (Option.some.inj hu).symm⟩
    · exact .inr ⟨hut, (hother u hut).symm.trans hu⟩
  have htasks : ∀ u, u ≠ t → (r.exchangeEmitted t).tasks u = r.tasks u :=
    fun u hut => set_tasks_of_ne hut
  have htask : (r.exchangeEmitted t).tasks t = .copying := r.set_tasks_self t .copying
  refine ⟨fun u => ?_, fun u e hu => ?_, fun u v e hu hv => ?_, fun e he => ?_, h.once, ?_, ?_, ?_⟩
  · by_cases hut : u = t
    · rw [hut]
      exact iff_of_true htask rfl
    · rw [htasks u hut, h.holder, hfree]
      exact iff_of_false nofun fun heq => hut (Option.some.inj heq).symm
  · rcases howed u e hu with ⟨-, rfl⟩ | ⟨-, hu⟩
    · exact ⟨List.mem_append_right _ (List.mem_singleton_self _), hunknown⟩
    · exact ⟨List.mem_append_left _ (h.owed u e hu).1, (h.owed u e hu).2⟩
  · -- what was emitted before is another emission
    rcases howed u e hu with ⟨rfl, rfl⟩ | ⟨-, hu'⟩ <;>
      rcases howed v _ hv with ⟨rfl, hve⟩ | ⟨-, hv'⟩
    · rfl
    · exact absurd (h.owed v _ hv').1 hnew
    · exact absurd (hve ▸ (h.owed u e hu').1) hnew
    · exact h.single u v e hu' hv'
  · rcases List.mem_append.mp he with he | he
    · refine (h.settled e he).imp_right fun ⟨u, hu⟩ => ⟨u, ?_⟩
      have hut : u ≠ t := by
        rintro rfl
        cases hbefore.symm.trans hu
      exact (hother u hut).trans hu
    · rw [List.mem_singleton.mp he]
      exact .inr ⟨t, hself⟩
  · exact fun d hd => List.mem_append_left _ (h.genuine d hd)
  · exact fun _ _ => hcallback
  · rintro hkept d (⟨u, hu⟩ | hd)
    · by_cases hut : u = t
      · rw [hut, htask] at hu
        cases hu
      · exact h.called hkept d (.inl ⟨u, (htasks u hut).symm.trans hu⟩)
    · exact h.called hkept d (.inr hd)

/-- The copies are of what was emitted. -/
theorem DeliveryInv.copy (h : r.DeliveryInv) (hthread : r.tasks t = .copying) :
    (r.copyParameterSets t).DeliveryInv := by
  have hmutex := (h.holder t).mp hthread
  have htasks : ∀ u, u ≠ t → (r.copyParameterSets t).tasks u = r.tasks u :=
    fun u hut => set_tasks_of_ne hut
  have htask : (r.copyParameterSets t).tasks t = .delivering ⟨r.sps_pps_callback_, r.emission⟩ :=
    r.set_tasks_self t _
  have hdebt : ∀ u, (r.copyParameterSets t).debt u = r.debt u := by
    intro u
    by_cases hut : u = t
    · rw [hut, debt, debt, htask, hthread]
    · exact h.debt_of_ne hut rfl (.inr (.inl hmutex))
  refine ⟨fun u => ?_, fun u e hu => h.owed u e (hdebt u ▸ hu),
    fun u v e hu hv => h.single u v e (hdebt u ▸ hu) (hdebt v ▸ hv), fun e he => ?_, h.once,
    h.genuine, nofun, ?_⟩
  · -- nobody is inside of the mutex any more
    refine iff_of_false ?_ nofun
    by_cases hut : u = t
    · rw [hut, htask]
      exact nofun
    · rw [htasks u hut, h.holder, hmutex]
      exact fun heq => hut (Option.some.inj heq).symm
  · exact (h.settled e he).imp_right fun ⟨u, hu⟩ => ⟨u, (hdebt u).trans hu⟩
  · rintro hkept d (⟨u, hu⟩ | hd)
    · by_cases hut : u = t
      · rw [hut, htask] at hu
        cases hu
        exact h.copied hkept (by rw [hmutex]; rfl)
      · exact h.called hkept d (.inl ⟨u, (htasks u hut).symm.trans hu⟩)
    · exact h.called hkept d (.inr hd)

/-- The call settles the emission. -/
theorem DeliveryInv.call (h : r.DeliveryInv) {delivery : Delivery}
    (hthread : r.tasks t = .delivering delivery) :
    (r.callCallback t delivery).DeliveryInv := by
  have htasks : ∀ u, u ≠ t → (r.callCallback t delivery).tasks u = r.tasks u :=
    fun u hut => set_tasks_of_ne hut
  have htask : (r.callCallback t delivery).tasks t = .idle := r.set_tasks_self t .idle
  have hself : r.debt t = some delivery.emission := by rw [debt, hthread]
  -- what others owe they owed before the call
  have howed : ∀ u e, (r.callCallback t delivery).debt u = some e → u ≠ t ∧ r.debt u = some e := by
    intro u e hu
    by_cases hut : u = t
    · rw [hut, debt, htask] at hu
      cases hu
    · exact ⟨hut, (h.debt_of_ne hut rfl (.inr (.inr rfl))).symm.trans hu⟩
  have hmap : (r.callCallback t delivery).delivered.map Delivery.emission =
      r.delivered.map Delivery.emission ++ [delivery.emission] := List.map_append
  refine ⟨fun u => ?_, fun u e hu => ?_, fun u v e hu hv => ?_, fun e he => ?_, ?_, ?_, h.copied,
    ?_⟩
  · by_cases hut : u = t
    · rw [hut, htask]
      -- the delivering thread has released the mutex long ago
      refine iff_of_false nofun fun held => ?_
      cases hthread.symm.trans ((h.holder t).mpr held)
    · rw [htasks u hut]
      exact h.holder u
  · obtain ⟨hut, hu⟩ := howed u e hu
    refine ⟨(h.owed u e hu).1, ?_⟩
    rw [hmap, List.mem_append, List.mem_singleton, not_or]
    refine ⟨(h.owed u e hu).2, ?_⟩
    rintro rfl
    exact hut (h.single u t _ hu hself)
  · exact h.single u v e (howed u e hu).2 (howed v e hv).2
  · rw [hmap, List.mem_append, List.mem_singleton]
    -- the emission is delivered now, any other is as before
    rcases h.settled e he with hdone | ⟨u, hu⟩
    · exact .inl (.inl hdone)
    · by_cases hut : u = t
      · rw [hut, hself] at hu
        exact .inl (.inr (Option.some.inj hu).symm)
      · exact .inr ⟨u, (h.debt_of_ne hut rfl (.inr (.inr rfl))).trans hu⟩
  -- a delivery that was owed was not made before
  · rw [hmap, ← List.concat_eq_append]
    exact List.Nodup.concat (h.owed t _ hself).2 h.once
  · intro d hd
    rcases List.mem_append.mp hd with hd | hd
    · exact h.genuine d hd
    · rw [List.mem_singleton.mp hd]
      exact (h.owed t _ hself).1
  · rintro hkept d (⟨u, hu⟩ | hd)
    · by_cases hut : u = t
      · rw [hut, htask] at hu
        cases hu
      · exact h.called hkept d (.inl ⟨u, (htasks u hut).symm.trans hu⟩)
    · rcases List.mem_append.mp hd with hd | hd
      · exact h.called hkept d (.inr hd)
      · rw [List.mem_singleton.mp hd]
        exact h.called hkept delivery (.inl ⟨t, hthread⟩)

/-- A thread that begins a call owes nothing yet. -/
theorem DeliveryInv.begin (h : r.DeliveryInv) (hstep : r.begin t task = some r')
    (hafter : task.Plain) : r'.DeliveryInv := by
  obtain ⟨hidle, hr⟩ := Option.ite_none_right_eq_some.mp hstep
  cases hr
  have hbefore : (r.tasks t).Plain := by
    rw [hidle]
    trivial
  exact h.quiet rfl hbefore hafter rfl (.inr rfl) rfl rfl fun hkept => ⟨hkept, id⟩

/-- A step inside of the mutex that does not emit. -/
theorem DeliveryInv.inside (h : r.DeliveryInv) {m : ParameterSetRun} (hfree : r.mutex = none)
    (htasks : m.tasks = (r.set t task).tasks) (hbefore : (r.tasks t).Plain) (hafter : task.Plain)
    (hmutex : m.mutex = r.mutex)
    (hemitted : m.emitted = r.emitted) (hdelivered : m.delivered = r.delivered)
    (hcallback : m.sps_pps_callback_ = r.sps_pps_callback_) (hremoved : m.removed = r.removed) :
    m.DeliveryInv :=
  h.quiet htasks hbefore hafter hmutex (.inl hfree) hemitted hdelivered fun hkept =>
    ⟨hremoved ▸ hkept, fun hsome => hcallback ▸ hsome⟩

/-- `emitCachedParameterSetsIfReady` up to the exchange. -/
theorem DeliveryInv.emit (he : r.EmissionInv) (h : r.DeliveryInv) (hfree : r.mutex = none)
    (hthread : r.tasks t = .emitting) : (r.emitCachedParameterSetsIfReady t).DeliveryInv := by
  have hbefore : (r.tasks t).Plain := by
    rw [hthread]
    trivial
  have hleaves : (r.set t .idle).DeliveryInv :=
    h.inside hfree rfl hbefore trivial rfl rfl rfl rfl rfl
  unfold emitCachedParameterSetsIfReady
  split
  · exact hleaves
  · rename_i hsomething
    split
    · exact hleaves
    · rename_i hflag
      -- no earlier emission is of this round
      have hnew : r.emission ∉ r.emitted := fun hmem =>
        Nat.lt_irrefl r.clears (he.earlier ((Bool.not_eq_true _).mp hflag) _ hmem)
      exact h.exchange hnew hfree (Option.isSome_iff_ne_none.mpr (not_or.mp hsomething).2)
        (debt_eq_none hbefore)

/-- Only the exchange, the copies and the call touch what is owed. -/
theorem DeliveryInv.go (he : r.EmissionInv) (h : r.DeliveryInv) (hstep : r.go t = some r') :
    r'.DeliveryInv := by
  unfold ParameterSetRun.go at hstep
  split at hstep
  · cases hstep
  · rename_i sets hthread
    obtain ⟨hfree, rfl⟩ := inside_eq_some hstep
    exact h.inside hfree rfl (by rw [hthread]; trivial) trivial rfl rfl rfl rfl rfl
  · rename_i data hthread
    obtain ⟨hfree, rfl⟩ := inside_eq_some hstep
    split
    · exact h.inside hfree rfl (by rw [hthread]; trivial) trivial rfl rfl rfl rfl rfl
    · exact h.inside hfree rfl (by rw [hthread]; trivial) trivial rfl rfl rfl rfl rfl
  · rename_i nal nals became_ready hthread
    obtain ⟨hfree, rfl⟩ := inside_eq_some hstep
    exact h.inside hfree rfl (by rw [hthread]; trivial) trivial rfl rfl rfl rfl rfl
  · rename_i became_ready hthread
    cases hstep
    refine h.quiet rfl (by rw [hthread]; trivial) ?_ rfl (.inr rfl) rfl rfl
      fun hkept => ⟨hkept, id⟩
    cases became_ready <;> trivial
  · rename_i hthread
    obtain ⟨hfree, rfl⟩ := inside_eq_some hstep
    exact h.inside hfree rfl (by rw [hthread]; trivial) trivial rfl rfl rfl rfl rfl
  · -- the store of a callback, which may hit a thread that is inside of the mutex
    rename_i callback hthread
    cases hstep
    refine h.quiet rfl (by rw [hthread]; trivial) trivial rfl (.inr rfl) rfl rfl fun hkept => ?_
    obtain ⟨hearlier, hsome⟩ := Bool.or_eq_false_iff.mp hkept
    refine ⟨hearlier, fun _ => ?_⟩
    cases callback with
    | none => cases hsome
    | some callback => rfl
  · rename_i hthread
    obtain ⟨hfree, rfl⟩ := inside_eq_some hstep
    exact .emit he h hfree hthread
  · rename_i hthread
    cases hstep
    exact h.copy hthread
  · rename_i delivery hthread
    cases hstep
    exact h.call hthread

/-- Every step of a thread keeps the record of the deliveries. -/
theorem DeliveryInv.step {a : ParameterSetStep} (he : r.EmissionInv) (h : r.DeliveryInv)
    (hstep : r.step a = some r') : r'.DeliveryInv := by
  cases a with
  | capture t packets =>
    obtain ⟨-, hbegin⟩ := Option.ite_none_right_eq_some.mp hstep
    exact h.begin hbegin trivial
  | encodedFrame t data => exact h.begin hstep trivial
  | clear t => exact h.begin hstep trivial
  | setCallback t callback => exact h.begin hstep trivial
  | start t => exact h.begin hstep trivial
  | go t => exact .go he h hstep

end ParameterSetRun

/-! ## Every run -/

/-- However captures, encoded frames, `clearSpsPps`, `setSpsPpsCallback` and `start` are
interleaved: what is emitted is complete and of the right types; each round between two calls of
`clearSpsPps` emits at most once, and emits what it leaves cached; every emission is delivered once,
by the one thread that made it, in whatever order; and no callback that is called is empty, unless
an empty one was stored. -/
theorem parameterSets_emitted {codec : Codec} {steps : List ParameterSetStep}
    {r : ParameterSetRun}
    (hrun : runSteps ParameterSetRun.step { codec := codec } steps = some r) :
    (∀ e ∈ r.emitted, parameterSetsReadyLocked r.codec e.sets = true ∧
      UnitTypes r.codec e.sets) ∧
    (r.emitted.map Emission.clears).Pairwise (· < ·) ∧
    ((∀ t, r.tasks t = .idle) → r.ready = true → r.sps_pps_callback_.isSome = true →
      ∃ e ∈ r.emitted, e.clears = r.clears) ∧
    (r.delivered.map Delivery.emission).Nodup ∧
    (∀ d ∈ r.delivered, d.emission ∈ r.emitted) ∧
    (∀ e ∈ r.emitted, e ∈ r.delivered.map Delivery.emission ∨ ∃! t, r.debt t = some e) ∧
    (r.removed = false → ∀ d ∈ r.delivered, d.callback.isSome = true) := by
  have hstep (s : ParameterSetRun) (a : ParameterSetStep) (s' : ParameterSetRun)
      (hs : s.EmissionInv ∧ s.DeliveryInv) (ha : s.step a = some s') :
      s'.EmissionInv ∧ s'.DeliveryInv :=
    ⟨hs.1.step ha, .step hs.1 hs.2 ha⟩
  obtain ⟨he, hd⟩ := runSteps_invariant hstep
    ⟨ParameterSetRun.emissionInv_initial codec, ParameterSetRun.deliveryInv_initial codec⟩ hrun
  refine ⟨he.emitted, he.increasing, fun hidle hready hcallback => ?_, hd.once, hd.genuine,
    fun e hemitted => ?_, fun hkept d hdelivered => hd.called hkept d (.inr hdelivered)⟩
  -- a ready cache with the flag down is promised by a thread, but all are idle
  · by_contra hnone
    have hnew : r.sps_pps_emitted_ = false :=
      Bool.eq_false_iff.mpr fun hflag => hnone (he.flag hflag)
    obtain ⟨t, ht⟩ := he.promised hready hcallback hnew
    rw [hidle t] at ht
    exact ht
  · refine (hd.settled e hemitted).imp_right fun ⟨t, ht⟩ => ⟨t, ht, fun u hu => ?_⟩
    exact hd.single u t e hu ht

/-- An SPS and a PPS with start codes. -/
def parameterSetFrame : List UInt8 := [0, 0, 1, 0x67, 1, 2, 3, 0, 0, 1, 0x68, 4, 5, 6]

/-- The session is reset between the exchange and the call; an encoder then reports its parameter
sets, and the second emission is delivered first. -/
def clearBeforeCall : List ParameterSetStep :=
  [.setCallback 0 (some 7), .go 0, .go 0, .encodedFrame 1 parameterSetFrame, .go 1, .go 1, .go 1,
    .go 1, .go 1, .go 1, .clear 2, .go 2, .capture 3 [parameterSetFrame], .go 3, .go 3, .go 3,
    .go 3, .go 1]

theorem parameterSets_emitted_clear :
    ∃ r, runSteps ParameterSetRun.step { codec := .kH264 } clearBeforeCall = some r ∧
      r.delivered.map (fun d => (d.callback, d.emission.clears)) = [(some 7, 1), (some 7, 0)] ∧
      (r.delivered.map Delivery.emission).Nodup ∧
      (r.emitted.map Emission.clears).Pairwise (· < ·) := by
  refine ⟨_, rfl, by decide +kernel, ?_⟩
  obtain ⟨-, hemitted, -, hdelivered, -⟩ := @parameterSets_emitted .kH264 clearBeforeCall _ rfl
  exact ⟨hdelivered, hemitted⟩

end VideoModule

end TeleopBridge.Video
