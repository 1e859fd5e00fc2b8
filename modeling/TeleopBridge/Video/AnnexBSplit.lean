import TeleopBridge.Video.ParserAgreement

/-!
# Splitting Annex B Access Units

An access unit of units after emulation prevention, with a start code of three or four bytes
in front of each, is taken apart exactly.

## Key Result

`annexB_split`: both parsers report the units, cache the first parameter set of each kind
that is missing, and the encoder finds a keyframe exactly when there is one.
-/

namespace TeleopBridge.Video

open Support

/-! ## What the units say -/

/-- An H.264 IDR slice. -/
def isH264Idr (nal : List UInt8) : Bool := decide (h264NalType nal = 5)

/-- An H.265 IDR or CRA slice, with its header of two bytes. -/
def isH265Idr (nal : List UInt8) : Bool :=
  decide (2 ≤ nal.length) &&
    decide (h265NalType nal = 19 ∨ h265NalType nal = 20 ∨ h265NalType nal = 21)

/-- A parameter set of the type that the codec gives it, `none` when it has no such set. -/
def isParameterSet (codec : Codec) (h264Type : Option UInt8) (h265Type : UInt8)
    (nal : List UInt8) : Bool :=
  match codec with
  | .kH264 => decide (h264Type = some (h264NalType nal))
  | .kH265 => decide (2 ≤ nal.length) && decide (h265NalType nal = h265Type)

def isVps (codec : Codec) : List UInt8 → Bool := isParameterSet codec none 32

def isSps (codec : Codec) : List UInt8 → Bool := isParameterSet codec (some 7) 33

def isPps (codec : Codec) : List UInt8 → Bool := isParameterSet codec (some 8) 34

/-- What is cached stays; else the first unit of the kind, if there is one. -/
def firstOf (cached : List UInt8) (kind : List UInt8 → Bool) (nals : List (List UInt8)) :
    List UInt8 :=
  if cached = [] then (nals.find? kind).getD [] else cached

/-- The caches with the first parameter set of each missing kind. -/
def firstSets (codec : Codec) (s : ParameterSets) (nals : List (List UInt8)) : ParameterSets where
  cached_vps_ := firstOf s.cached_vps_ (isVps codec) nals
  cached_sps_ := firstOf s.cached_sps_ (isSps codec) nals
  cached_pps_ := firstOf s.cached_pps_ (isPps codec) nals

/-! ## Loops over the units -/

/-- A loop that raises a flag for some units. -/
theorem foldl_found (skip : List UInt8 → Prop) (hit : List UInt8 → Prop)
    [DecidablePred skip] [DecidablePred hit] (nals : List (List UInt8)) (found : Bool) :
    nals.foldl (fun found nal => if skip nal then found else if hit nal then true else found)
        found =
      (found || nals.any fun nal => !decide (skip nal) && decide (hit nal)) := by
  induction nals generalizing found with
  | nil => simp
  | cons nal nals ih =>
    rw [List.foldl_cons, ih, List.any_cons]
    by_cases hskip : skip nal
    · simp [hskip]
    · by_cases hhit : hit nal
      · simp [hskip, hhit]
      · simp [hskip, hhit]

theorem containsH264IdrNal_eq (data : List UInt8) :
    VideoEncoder.containsH264IdrNal data =
      (VideoEncoder.forEachNal data (VideoEncoder.detectH264Format data)).any isH264Idr := by
  unfold VideoEncoder.containsH264IdrNal
  rw [foldl_found, Bool.false_or]
  refine List.any_congr rfl fun nal => ?_
  cases nal with
  | nil => rfl
  | cons byte rest => simp [isH264Idr]

theorem containsH265IdrNal_eq (data : List UInt8) :
    VideoEncoder.containsH265IdrNal data =
      (VideoEncoder.forEachNal data (VideoEncoder.detectH264Format data)).any isH265Idr := by
  unfold VideoEncoder.containsH265IdrNal
  rw [foldl_found, Bool.false_or]
  refine List.any_congr rfl fun nal => ?_
  have hlength : (!decide (nal.length < 2)) = decide (2 ≤ nal.length) := by
    rw [← decide_not]
    exact decide_eq_decide.mpr Nat.not_lt
  rw [hlength, isH265Idr]

/-- One unit, by the kinds of parameter sets. -/
theorem cacheNal_eq (codec : Codec) (s : ParameterSets) {nal : List UInt8} (h : nal ≠ []) :
    VideoEncoder.cacheNal codec s nal =
      { cached_vps_ := if s.cached_vps_ = [] ∧ isVps codec nal = true then nal else s.cached_vps_
        cached_sps_ := if s.cached_sps_ = [] ∧ isSps codec nal = true then nal else s.cached_sps_
        cached_pps_ := if s.cached_pps_ = [] ∧ isPps codec nal = true then nal else s.cached_pps_
        } := by
  obtain ⟨vps, sps, pps⟩ := s
  have hlen : ¬nal.length < 1 := by
    simpa using h
  cases codec with
  | kH264 =>
    unfold VideoEncoder.cacheNal isVps isSps isPps isParameterSet
    generalize h264NalType nal = type
    simp only [if_neg hlen]
    -- a set is cached by its type, if there is none yet
    by_cases hsps : type = 7
    · subst hsps
      by_cases hcached : sps = [] <;> simp [hcached]
    · by_cases hpps : type = 8
      · subst hpps
        by_cases hcached : pps = [] <;> simp [hcached]
      · simp [hsps, hpps, Ne.symm hsps, Ne.symm hpps]
  | kH265 =>
    unfold VideoEncoder.cacheNal isVps isSps isPps isParameterSet
    generalize h265NalType nal = type
    -- an H.265 unit of one byte has no type
    by_cases hshort : nal.length < 2
    · simp [hshort, Nat.not_le.mpr hshort]
    · have hlong : 2 ≤ nal.length := Nat.not_lt.mp hshort
      simp only [if_neg hshort, decide_eq_true hlong, Bool.true_and, decide_eq_true_eq]
      by_cases hvps : type = 32
      · subst hvps
        by_cases hcached : vps = [] <;> simp [hcached]
      · by_cases hsps : type = 33
        · subst hsps
          by_cases hcached : sps = [] <;> simp [hcached]
        · by_cases hpps : type = 34
          · subst hpps
            by_cases hcached : pps = [] <;> simp [hcached]
          · simp [hvps, hsps, hpps]

theorem firstOf_cons {cached nal : List UInt8} (kind : List UInt8 → Bool)
    (nals : List (List UInt8)) (h : nal ≠ []) :
    firstOf (if cached = [] ∧ kind nal = true then nal else cached) kind nals =
      firstOf cached kind (nal :: nals) := by
  unfold firstOf
  by_cases hcached : cached = []
  · cases hkind : kind nal with
    | true => simp [hcached, hkind, h]
    | false => simp [hcached, hkind]
  · simp [hcached]

/-- The loop over the units caches the first of each missing kind. -/
theorem foldl_cacheNal (codec : Codec) (s : ParameterSets) {nals : List (List UInt8)}
    (h : ∀ nal ∈ nals, nal ≠ []) :
    nals.foldl (VideoEncoder.cacheNal codec) s = firstSets codec s nals := by
  induction nals generalizing s with
  | nil =>
    obtain ⟨vps, sps, pps⟩ := s
    simp [firstSets, firstOf]
  | cons nal nals ih =>
    rw [List.forall_mem_cons] at h
    rw [List.foldl_cons, ih _ h.2, cacheNal_eq codec s h.1]
    unfold firstSets
    simp only [firstOf_cons _ _ h.1]

/-! ## The containers' start codes -/

section

variable {segments : List (Bool × List UInt8)}

/-- The first start code is found. -/
theorem detect_annexB (hne : segments ≠ []) (h : ∀ segment ∈ segments, Unescaped segment.2) :
    VideoEncoder.detectH264Format (annexB segments) = .AnnexB := by
  have hfound : VideoEncoder.hasAnnexBStartCode (annexB segments) = true := by
    apply (hasAnnexBStartCode_iff _).mpr
    obtain ⟨⟨long, nal⟩, rest, rfl⟩ := List.exists_cons_of_ne_nil hne
    have hnal : 0 < nal.length :=
      List.length_pos_iff.mpr (h (long, nal) List.mem_cons_self).nonempty
    cases long with
    | false =>
      refine ⟨0, ?_, rfl⟩
      simp only [annexB, startCode, Bool.false_eq_true, if_false, List.length_append,
        List.length_cons, List.length_nil]
      omega
    -- the long code contains the short one, one byte on
    | true =>
      refine ⟨1, ?_, rfl⟩
      simp only [annexB, startCode, if_true, List.length_append, List.length_cons,
        List.length_nil]
      omega
  unfold VideoEncoder.detectH264Format
  rw [if_pos hfound]

/-- Between two start codes there is a unit. -/
theorem annexB_not_backToBack (h : ∀ segment ∈ segments, Unescaped segment.2) :
    ¬BackToBack (annexB segments) := by
  rw [← backToBackFrom_zero]
  -- by the first code, then by the codes behind its unit
  induction segments with
  | nil => exact not_backToBackFrom_of_short (by simp [annexB])
  | cons segment segments ih =>
    obtain ⟨long, nal⟩ := segment
    rw [List.forall_mem_cons] at h
    have hnal : Unescaped nal := h.1
    have hcode : is_start_code (annexB ((long, nal) :: segments)) 0 =
        some (startCode long).length := by
      rw [is_start_code_eq, List.drop_zero, annexB, List.append_assoc, startCodeLen_startCode]
    rw [backToBackFrom_some hcode, Nat.zero_add, annexB, List.append_assoc, List.drop_left,
      codeAhead, hnal.startCodeLen_append, Option.isSome_none, Bool.and_false]
    rintro (hahead | ⟨k, hk, m, hlater, hahead⟩)
    · exact absurd hahead Bool.false_ne_true
    · obtain ⟨k, rfl⟩ := Nat.exists_eq_add_of_le hk
      rw [is_start_code_append] at hlater
      rw [Nat.add_assoc, List.drop_length_add_append] at hahead
      rcases Nat.lt_or_ge k nal.length with hin | hbehind
      · -- no code begins inside the unit
        have hne : nal.drop k ≠ [] := by simpa using hin
        rw [is_start_code_eq, List.drop_append_of_le_length (Nat.le_of_lt hin),
          (hnal.suffix (List.drop_suffix k nal) hne).startCodeLen_append] at hlater
        cases hlater
      · -- behind the unit it is one of the remaining stream
        obtain ⟨k, rfl⟩ := Nat.exists_eq_add_of_le hbehind
        rw [is_start_code_append] at hlater
        rw [Nat.add_assoc, List.drop_length_add_append] at hahead
        exact ih h.2 ⟨k, Nat.zero_le k, m, hlater, hahead⟩

theorem forEachNal_encoder_annexB (h : ∀ segment ∈ segments, Unescaped segment.2) :
    VideoEncoder.forEachNal (annexB segments) .AnnexB = segments.map Prod.snd := by
  rw [(VideoEncoder.forEachNal_annexB _).2.mpr (annexB_not_backToBack h), nalUnits_annexB h]

theorem forEachNal_module_annexB (h : ∀ segment ∈ segments, Unescaped segment.2) :
    VideoModule.forEachNal (annexB segments) .AnnexB = segments.map Prod.snd := by
  rw [VideoModule.forEachNal_annexB, nalUnits_annexB h]

/-! ## Main result -/

/-- For every non-empty list of units after emulation prevention and every choice of start
codes: the access unit is taken for Annex B, both parsers report exactly the units, the
caches get the first parameter set of each kind that is missing, and a keyframe is found
exactly when there is an IDR unit. -/
theorem annexB_split (hne : segments ≠ []) (h : ∀ segment ∈ segments, Unescaped segment.2) :
    (VideoEncoder.detectH264Format (annexB segments) = .AnnexB ∧
      VideoModule.detectStreamFormat (annexB segments) = .AnnexB) ∧
    (VideoEncoder.forEachNal (annexB segments) .AnnexB = segments.map Prod.snd ∧
      VideoModule.forEachNal (annexB segments) .AnnexB = segments.map Prod.snd) ∧
    (∀ (codec : Codec) (e : VideoEncoder.SpsPps), e.sps_pps_sent_ = false →
      (VideoEncoder.parseSpsPps_ codec e (annexB segments)).2.toParameterSets =
        firstSets codec e.toParameterSets (segments.map Prod.snd)) ∧
    (∀ (codec : Codec) (s : ParameterSets),
      VideoModule.parameterSetsReadyLocked codec s = false →
      (VideoModule.updateParameterSets codec s (annexB segments)).2 =
        firstSets codec s (segments.map Prod.snd)) ∧
    VideoEncoder.containsH264IdrNal (annexB segments) = (segments.map Prod.snd).any isH264Idr ∧
    VideoEncoder.containsH265IdrNal (annexB segments) =
      (segments.map Prod.snd).any isH265Idr := by
  have hdetect := detect_annexB hne h
  have hmodule := (detect_agree (annexB segments)).symm.trans hdetect
  have hencoder := forEachNal_encoder_annexB h
  have hnonempty : ∀ nal ∈ segments.map Prod.snd, nal ≠ [] := by
    intro nal hnal
    obtain ⟨segment, hsegment, rfl⟩ := List.mem_map.mp hnal
    exact (h segment hsegment).nonempty
  -- both caches are folds over the same units
  have hcached : ∀ (codec : Codec) (s : ParameterSets),
      cacheUnit codec s (annexB segments) = firstSets codec s (segments.map Prod.snd) := by
    intro codec s
    rw [cacheUnit, hmodule, forEachNal_module_annexB h, foldl_cacheNal codec s hnonempty]
  refine ⟨⟨hdetect, hmodule⟩, ⟨hencoder, forEachNal_module_annexB h⟩, ?_, ?_, ?_, ?_⟩
  · intro codec e hsent
    rw [VideoEncoder.parseSpsPps_eq hsent, hcached]
  · intro codec s hready
    rw [VideoModule.updateParameterSets_eq hready, hcached]
  · rw [containsH264IdrNal_eq, hdetect, hencoder]
  · rw [containsH265IdrNal_eq, hdetect, hencoder]

/-- A parameter set of one byte behind a long code, and an IDR slice behind a short one. -/
theorem annexB_split_two :
    VideoEncoder.forEachNal (annexB [(true, [0x67]), (false, [0x65, 0x88])]) .AnnexB =
        [[0x67], [0x65, 0x88]] ∧
      VideoEncoder.containsH264IdrNal (annexB [(true, [0x67]), (false, [0x65, 0x88])]) = true := by
  have hsplit := @annexB_split [(true, [0x67]), (false, [0x65, 0x88])] (by decide) (by
      intro segment hsegment
      simp only [List.mem_cons, List.not_mem_nil, or_false] at hsegment
      rcases hsegment with rfl | rfl
      · exact ⟨by decide, by decide, by decide, by decide⟩
      · exact ⟨by decide, by decide, by decide, by decide⟩)
  exact ⟨hsplit.2.1.1, hsplit.2.2.2.2.1.trans (by decide)⟩

end

end TeleopBridge.Video
