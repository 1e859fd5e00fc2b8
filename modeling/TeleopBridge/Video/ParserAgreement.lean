import TeleopBridge.Video.NalScan

/-!
# The Two Parsers Compared

The encoder and the video module each parse every access unit. They classify it alike and
cache the same parameter sets, but the encoder reports an extra unit where a start code
directly follows another one.

## Key Results

- `parsers_agree_iff`: when the lists of units are the same, and that the caches always are.
- `adjacent_codes_differ`: seven bytes on which the lists differ.
-/

namespace TeleopBridge.Video

open Support

/-! ## One access unit -/

theorem eq_zero_of_lt_one {n : UInt32} (h : n < 1) : n = 0 := by
  have hnat : n.toNat < 1 := UInt32.lt_iff_toNat_lt.mp h
  apply UInt32.toNat_inj.mp
  show n.toNat = 0
  omega

theorem looksLikeAvccLoop_agree (data : List UInt8) (fuel off nal_count : ℕ) :
    VideoEncoder.looksLikeAvccLoop data fuel off nal_count =
      VideoModule.looksLikeAvccLoop data fuel off nal_count := by
  induction fuel generalizing off nal_count with
  | zero => rfl
  | succ fuel ih =>
    unfold VideoEncoder.looksLikeAvccLoop VideoModule.looksLikeAvccLoop
    by_cases hroom : off + 4 ≤ data.length
    · simp only [if_pos hroom, ih]
      by_cases hbad : lengthField data off = 0 ∨
          off + 4 + (lengthField data off).toNat > data.length
      · rw [if_pos hbad, if_pos hbad]
      · -- the second test of the encoder repeats the first half of the first
        have hone : ¬lengthField data off < 1 := fun hlt =>
          hbad (Or.inl (eq_zero_of_lt_one hlt))
        rw [if_neg hbad, if_neg hbad, if_neg hone]
    · rw [if_neg hroom, if_neg hroom]

/-- Both parsers classify every access unit alike. -/
theorem detect_agree (data : List UInt8) :
    VideoEncoder.detectH264Format data = VideoModule.detectStreamFormat data := by
  have hlike : VideoEncoder.looksLikeAvcc data = VideoModule.looksLikeAvcc data := by
    unfold VideoEncoder.looksLikeAvcc VideoModule.looksLikeAvcc
    rw [looksLikeAvccLoop_agree]
  unfold VideoEncoder.detectH264Format VideoModule.detectStreamFormat
  rw [hlike]
  rfl

theorem forEachNalAvcc_agree (data : List UInt8) (fuel off : ℕ) :
    VideoEncoder.forEachNalAvcc data fuel off = VideoModule.forEachNalAvcc data fuel off := by
  induction fuel generalizing off with
  | zero => rfl
  | succ fuel ih =>
    unfold VideoEncoder.forEachNalAvcc VideoModule.forEachNalAvcc
    simp only [ih]

/-- The module reports the units of the stream. -/
theorem VideoModule.forEachNal_annexB (data : List UInt8) :
    VideoModule.forEachNal data .AnnexB = nalUnits data := by
  unfold VideoModule.forEachNal
  by_cases hempty : data.length < 1
  · rw [if_pos hempty, nalUnits_of_short (by omega)]
  · rw [if_neg hempty]
    exact forEachNalAnnexB_eq (Nat.sub_le _ _)

theorem VideoEncoder.forEachNal_annexB (data : List UInt8) :
    Padded (nalUnits data) (VideoEncoder.forEachNal data .AnnexB) ∧
      (VideoEncoder.forEachNal data .AnnexB = nalUnits data ↔ ¬BackToBack data) := by
  have hpadded := @VideoEncoder.forEachNalAnnexB_padded data data.length 0 (Nat.sub_le _ _)
  rw [backToBackFrom_zero, List.drop_zero] at hpadded
  unfold VideoEncoder.forEachNal
  by_cases hempty : data.length < 1
  · have hnil : data = [] := List.length_eq_zero_iff.mp (by omega)
    subst hnil
    exact hpadded
  · rw [if_neg hempty]
    exact hpadded

/-- In the other containers the two loops are the same. -/
theorem forEachNal_agree (data : List UInt8) {format : StreamFormat} (h : format ≠ .AnnexB) :
    VideoEncoder.forEachNal data format = VideoModule.forEachNal data format := by
  unfold VideoEncoder.forEachNal VideoModule.forEachNal
  cases format with
  | Unknown => rfl
  | AnnexB => exact absurd rfl h
  | Avcc => simp only [forEachNalAvcc_agree]

/-- A pair of start codes is one start code with something behind it. -/
theorem BackToBack.detect {data : List UInt8} (h : BackToBack data) :
    VideoEncoder.detectH264Format data = .AnnexB := by
  obtain ⟨i, n, m, hcode, -, hlong⟩ := h
  have hfound : VideoEncoder.hasAnnexBStartCode data = true := by
    apply (hasAnnexBStartCode_iff data).mpr
    obtain ⟨hfirst, hsecond, ⟨rfl, hthird⟩ | ⟨rfl, hthird, hfourth⟩⟩ := is_start_code_eq_some hcode
    · exact ⟨i, by omega, hasCode_at (by omega) hfirst hsecond hthird⟩
    · exact ⟨i + 1, by omega, hasCode_at (by omega) hsecond hthird hfourth⟩
  unfold VideoEncoder.detectH264Format
  rw [if_pos hfound]

theorem forEachNal_agree_iff (data : List UInt8) :
    VideoEncoder.forEachNal data (VideoEncoder.detectH264Format data) =
        VideoModule.forEachNal data (VideoModule.detectStreamFormat data) ↔
      ¬BackToBack data := by
  rw [← detect_agree]
  by_cases hannexB : VideoEncoder.detectH264Format data = .AnnexB
  · rw [hannexB, VideoModule.forEachNal_annexB]
    exact (VideoEncoder.forEachNal_annexB data).2
  · exact iff_of_true (forEachNal_agree data hannexB) (mt BackToBack.detect hannexB)

/-! ## Sequences of access units -/

/-- The parser is called on the access units in turn: what each call answers, and the state
left behind. -/
def feed {σ : Type} (call : σ → List UInt8 → Bool × σ) : σ → List (List UInt8) → List Bool × σ
  | s, [] => ([], s)
  | s, data :: units =>
      let rest := feed call (call s data).2 units
      ((call s data).1 :: rest.1, rest.2)

/-- A unit with a first byte 0 is no parameter set. -/
theorem VideoEncoder.cacheNal_zero (codec : Codec) (s : ParameterSets) (nal : List UInt8)
    (h : byteAt nal 0 = 0) : VideoEncoder.cacheNal codec s nal = s := by
  have hh264 : h264NalType nal = 0 := by
    rw [h264NalType, h]
    rfl
  have hh265 : h265NalType nal = 0 := by
    rw [h265NalType, h]
    rfl
  cases codec with
  | kH264 => simp [VideoEncoder.cacheNal, hh264]
  | kH265 => simp [VideoEncoder.cacheNal, hh265]

/-- The extra units of the encoder leave the caches alone. -/
theorem VideoEncoder.foldl_cacheNal (codec : Codec) (s : ParameterSets) (data : List UInt8) :
    (VideoEncoder.forEachNal data (VideoEncoder.detectH264Format data)).foldl
        (VideoEncoder.cacheNal codec) s =
      (VideoModule.forEachNal data (VideoModule.detectStreamFormat data)).foldl
        (VideoEncoder.cacheNal codec) s := by
  rw [← detect_agree]
  by_cases hannexB : VideoEncoder.detectH264Format data = .AnnexB
  · rw [hannexB, VideoModule.forEachNal_annexB]
    exact (VideoEncoder.forEachNal_annexB data).1.foldl_eq (VideoEncoder.cacheNal_zero codec) s
  · rw [forEachNal_agree data hannexB]

/-- The module's lambda caches the same, and keeps `became_ready` up to date. -/
theorem VideoModule.cacheNal_eq (codec : Codec) {ready : Bool} {s : ParameterSets}
    (hready : ready = VideoModule.parameterSetsReadyLocked codec s) (nal : List UInt8) :
    VideoModule.cacheNal codec (ready, s) nal =
      (VideoModule.parameterSetsReadyLocked codec (VideoEncoder.cacheNal codec s nal),
        VideoEncoder.cacheNal codec s nal) := by
  unfold VideoModule.cacheNal VideoEncoder.cacheNal
  subst hready
  cases codec with
  | kH264 =>
    by_cases hempty : nal.length < 1
    · simp only [if_pos hempty]
    · simp only [if_neg hempty]
  | kH265 =>
    by_cases hempty : nal.length < 1
    · -- the module asks for one byte first, the encoder for two at once
      have hshort : nal.length < 2 := Nat.lt_succ_of_lt hempty
      simp only [if_pos hempty, if_pos hshort]
    · by_cases hshort : nal.length < 2
      · simp only [if_neg hempty, if_pos hshort]
      · simp only [if_neg hempty, if_neg hshort]

theorem VideoModule.foldl_cacheNal (codec : Codec) {ready : Bool} {s : ParameterSets}
    (hready : ready = VideoModule.parameterSetsReadyLocked codec s) (nals : List (List UInt8)) :
    nals.foldl (VideoModule.cacheNal codec) (ready, s) =
      (VideoModule.parameterSetsReadyLocked codec (nals.foldl (VideoEncoder.cacheNal codec) s),
        nals.foldl (VideoEncoder.cacheNal codec) s) := by
  induction nals generalizing ready s with
  | nil => rw [List.foldl_nil, hready, List.foldl_nil]
  | cons nal nals ih =>
    rw [List.foldl_cons, VideoModule.cacheNal_eq codec hready, ih rfl, List.foldl_cons]

/-- The encoder's state and the module's: the same caches, sent exactly when ready. -/
structure SameSets (codec : Codec) (e : VideoEncoder.SpsPps) (m : ParameterSets) : Prop where
  sets : e.toParameterSets = m
  sent : e.sps_pps_sent_ = VideoModule.parameterSetsReadyLocked codec m

/-- The caches after one access unit. -/
def cacheUnit (codec : Codec) (s : ParameterSets) (data : List UInt8) : ParameterSets :=
  (VideoModule.forEachNal data (VideoModule.detectStreamFormat data)).foldl
    (VideoEncoder.cacheNal codec) s

/-- The encoder's two tests are the module's. -/
theorem ready_eq (codec : Codec) (s : ParameterSets) :
    ((decide (codec = .kH265) && decide (s.cached_vps_ ≠ []) && decide (s.cached_sps_ ≠ []) &&
        decide (s.cached_pps_ ≠ [])) ||
      (!decide (codec = .kH265) && decide (s.cached_sps_ ≠ []) &&
        decide (s.cached_pps_ ≠ []))) =
      VideoModule.parameterSetsReadyLocked codec s := by
  cases codec with
  | kH264 => simp [VideoModule.parameterSetsReadyLocked]
  | kH265 => simp [VideoModule.parameterSetsReadyLocked]

theorem VideoEncoder.parseSpsPps_eq {codec : Codec} {e : VideoEncoder.SpsPps}
    (hsent : e.sps_pps_sent_ = false) (data : List UInt8) :
    VideoEncoder.parseSpsPps_ codec e data =
      (VideoModule.parameterSetsReadyLocked codec (cacheUnit codec e.toParameterSets data),
        { toParameterSets := cacheUnit codec e.toParameterSets data
          sps_pps_sent_ := VideoModule.parameterSetsReadyLocked codec
            (cacheUnit codec e.toParameterSets data) }) := by
  obtain ⟨s, sent⟩ := e
  cases hsent
  unfold VideoEncoder.parseSpsPps_ cacheUnit
  rw [if_neg Bool.false_ne_true, VideoEncoder.foldl_cacheNal]
  generalize List.foldl _ _ _ = sets
  simp only [ready_eq]
  cases VideoModule.parameterSetsReadyLocked codec sets with
  | true => rfl
  | false => rfl

theorem VideoModule.updateParameterSets_eq {codec : Codec} {s : ParameterSets}
    (hready : VideoModule.parameterSetsReadyLocked codec s = false) (data : List UInt8) :
    VideoModule.updateParameterSets codec s data =
      (VideoModule.parameterSetsReadyLocked codec (cacheUnit codec s data),
        cacheUnit codec s data) := by
  unfold VideoModule.updateParameterSets cacheUnit
  by_cases hempty : data.length = 0
  · -- an empty access unit has no units either way
    have hnone : VideoModule.forEachNal data (VideoModule.detectStreamFormat data) = [] := by
      unfold VideoModule.forEachNal
      rw [if_pos (by omega)]
    rw [if_pos hempty, hnone, List.foldl_nil, hready]
  · rw [if_neg hempty, if_neg (by simp [hready])]
    by_cases hunknown : VideoModule.detectStreamFormat data = .Unknown
    · -- the early return on `Unknown` skips what reports nothing
      have hnone : VideoModule.forEachNal data .Unknown = [] := by
        unfold VideoModule.forEachNal
        split_ifs <;> rfl
      rw [if_pos hunknown, hunknown, hnone, List.foldl_nil, hready]
    · rw [if_neg hunknown]
      exact VideoModule.foldl_cacheNal codec hready.symm _

/-- One access unit: the answers are the same, and the states stay in step. -/
theorem SameSets.step {codec : Codec} {e : VideoEncoder.SpsPps} {m : ParameterSets}
    (h : SameSets codec e m) (data : List UInt8) :
    (VideoEncoder.parseSpsPps_ codec e data).1 = (VideoModule.updateParameterSets codec m data).1 ∧
      SameSets codec (VideoEncoder.parseSpsPps_ codec e data).2
        (VideoModule.updateParameterSets codec m data).2 := by
  obtain ⟨rfl, hsent⟩ := h
  cases hready : VideoModule.parameterSetsReadyLocked codec e.toParameterSets with
  | true =>
    rw [hready] at hsent
    -- complete sets: both return before they look at the data
    have hencoder : VideoEncoder.parseSpsPps_ codec e data = (false, e) := by
      unfold VideoEncoder.parseSpsPps_
      rw [if_pos hsent]
    have hmodule : VideoModule.updateParameterSets codec e.toParameterSets data =
        (false, e.toParameterSets) := by
      unfold VideoModule.updateParameterSets
      rw [if_pos hready, ite_self]
    rw [hencoder, hmodule]
    exact ⟨rfl, rfl, hsent.trans hready.symm⟩
  | false =>
    rw [hready] at hsent
    rw [VideoEncoder.parseSpsPps_eq hsent, VideoModule.updateParameterSets_eq hready]
    exact ⟨rfl, rfl, rfl⟩

/-- Any sequence of access units. -/
theorem SameSets.feed {codec : Codec} {e : VideoEncoder.SpsPps} {m : ParameterSets}
    (h : SameSets codec e m) (units : List (List UInt8)) :
    (Video.feed (VideoEncoder.parseSpsPps_ codec) e units).1 =
        (Video.feed (VideoModule.updateParameterSets codec) m units).1 ∧
      SameSets codec (Video.feed (VideoEncoder.parseSpsPps_ codec) e units).2
        (Video.feed (VideoModule.updateParameterSets codec) m units).2 := by
  induction units generalizing e m with
  | nil => exact ⟨rfl, h⟩
  | cons data units ih =>
    obtain ⟨hanswer, hstep⟩ := h.step data
    obtain ⟨hrest, hlast⟩ := ih hstep
    refine ⟨?_, hlast⟩
    exact congrArg₂ List.cons hanswer hrest

/-! ## Main results -/

/-- The parsers classify every access unit alike, and report the same units if and only if
no start code follows another one directly. For every codec and sequence of access units
the caches end up the same, and become ready at the same one. -/
theorem parsers_agree_iff (data : List UInt8) (codec : Codec) (units : List (List UInt8)) :
    VideoEncoder.detectH264Format data = VideoModule.detectStreamFormat data ∧
      (VideoEncoder.forEachNal data (VideoEncoder.detectH264Format data) =
          VideoModule.forEachNal data (VideoModule.detectStreamFormat data) ↔
        ¬BackToBack data) ∧
      (feed (VideoEncoder.parseSpsPps_ codec) {} units).1 =
        (feed (VideoModule.updateParameterSets codec) {} units).1 ∧
      (feed (VideoEncoder.parseSpsPps_ codec) {} units).2.toParameterSets =
        (feed (VideoModule.updateParameterSets codec) {} units).2 := by
  have hstart : SameSets codec {} {} := by
    refine ⟨rfl, ?_⟩
    cases codec <;> rfl
  obtain ⟨hanswers, hsame⟩ := hstart.feed units
  exact ⟨detect_agree data, forEachNal_agree_iff data, hanswers, hsame.sets⟩

/-- Two start codes and a byte: the encoder reports a unit of four bytes in front of it. -/
theorem adjacent_codes_differ :
    ¬∀ data : List UInt8,
      VideoEncoder.forEachNal data (VideoEncoder.detectH264Format data) =
        VideoModule.forEachNal data (VideoModule.detectStreamFormat data) := by
  intro hall
  have hsame := hall [0, 0, 1, 0, 0, 1, 0x65]
  revert hsame
  decide

end TeleopBridge.Video
