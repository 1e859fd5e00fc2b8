import TeleopBridge.Video.AnnexBSplit

/-!
# Keyframes in the Two Containers

The encoder's test for a keyframe takes an access unit with start codes or with length
fields. The length field of some units looks like a start code, and an access unit of less
than eight bytes is not taken for AVCC at all.

## Key Results

- `keyframe_in_both_iff`: for which access units the test does not depend on the container.
- `keyframe_missed`: an IDR slice that is not found behind its length field.
-/

namespace TeleopBridge.Video

open Support

/-! ## Length fields -/

theorem toNat_byteShift (value : ℕ) {k : ℕ} (hk : k ≤ 24) :
    ((UInt8.ofNat value).toUInt32 <<< UInt32.ofNat k).toNat = 2 ^ k * (value % 256) := by
  have hshift : (UInt32.ofNat k).toNat % 32 = k := by
    rw [UInt32.toNat_ofNat']
    omega
  have hlt : value % 256 * 2 ^ k < 2 ^ 32 := by
    calc value % 256 * 2 ^ k ≤ value % 256 * 2 ^ 24 :=
          Nat.mul_le_mul_left _ (Nat.pow_le_pow_right (by decide) hk)
      _ < 2 ^ 32 := by omega
  rw [UInt32.toNat_shiftLeft, hshift, UInt8.toNat_toUInt32, UInt8.toNat_ofNat', Nat.shiftLeft_eq,
    Nat.mod_eq_of_lt hlt, Nat.mul_comm]

/-- The length field reads back. -/
theorem lengthField_eq {data rest : List UInt8} {off n : ℕ} (hn : n < 2 ^ 32)
    (h : data.drop off = lengthBytes n ++ rest) : (lengthField data off).toNat = n := by
  have hbytes : lengthField data off =
      ((UInt8.ofNat (n / 2 ^ 24)).toUInt32 <<< UInt32.ofNat 24) |||
        ((UInt8.ofNat (n / 2 ^ 16)).toUInt32 <<< UInt32.ofNat 16) |||
          ((UInt8.ofNat (n / 2 ^ 8)).toUInt32 <<< UInt32.ofNat 8) |||
            (UInt8.ofNat n).toUInt32 := by
    -- the four bytes of the field are those of the length
    have hat : ∀ k, byteAt data (off + k) = byteAt (lengthBytes n ++ rest) k := by
      intro k
      rw [← byteAt_drop, h]
    have hfirst : byteAt data off = byteAt (lengthBytes n ++ rest) 0 := hat 0
    rw [lengthField, hfirst, hat 1, hat 2, hat 3]
    rfl
  rw [hbytes, UInt32.toNat_or, UInt32.toNat_or, UInt32.toNat_or, toNat_byteShift _ (by decide),
    toNat_byteShift _ (by decide), toNat_byteShift _ (by decide), UInt8.toNat_toUInt32,
    UInt8.toNat_ofNat']
  -- each byte stands below the ones before it, so `|` is addition
  rw [← Nat.two_pow_add_eq_or_of_lt (by omega)]
  rw [show 2 ^ 24 * (n / 2 ^ 24 % 256) + 2 ^ 16 * (n / 2 ^ 16 % 256) =
      2 ^ 16 * (2 ^ 8 * (n / 2 ^ 24 % 256) + n / 2 ^ 16 % 256) by omega,
    ← Nat.two_pow_add_eq_or_of_lt (by omega)]
  rw [show 2 ^ 16 * (2 ^ 8 * (n / 2 ^ 24 % 256) + n / 2 ^ 16 % 256) + 2 ^ 8 * (n / 2 ^ 8 % 256) =
      2 ^ 8 * (2 ^ 8 * (2 ^ 8 * (n / 2 ^ 24 % 256) + n / 2 ^ 16 % 256) + n / 2 ^ 8 % 256) by omega,
    ← Nat.two_pow_add_eq_or_of_lt (Nat.mod_lt _ (by decide))]
  omega

/-- The access unit from `off` on is the AVCC rendering of `nals`. -/
structure AvccFrom (data : List UInt8) (off : ℕ) (nals : List (List UInt8)) : Prop where
  rest : data.drop off = avcc nals
  within : off ≤ data.length
  nonempty : ∀ nal ∈ nals, nal ≠ []
  short : ∀ nal ∈ nals, nal.length < 2 ^ 32

theorem AvccFrom.nil {data : List UInt8} {off : ℕ} (h : AvccFrom data off []) :
    ¬off + 4 ≤ data.length := by
  have hlen := congrArg List.length h.rest
  have hwithin := h.within
  rw [List.length_drop] at hlen
  simp only [avcc, List.length_nil] at hlen
  omega

/-- One round of an AVCC loop: the length field is that of the next unit. -/
theorem AvccFrom.cons {data nal : List UInt8} {off : ℕ} {nals : List (List UInt8)}
    (h : AvccFrom data off (nal :: nals)) :
    off + 4 ≤ data.length ∧ (lengthField data off).toNat = nal.length ∧
      ¬(lengthField data off = 0 ∨ off + 4 + nal.length > data.length) ∧
      (data.drop (off + 4)).take nal.length = nal ∧
      AvccFrom data (off + 4 + nal.length) nals := by
  have hall := h.rest
  rw [avcc, List.append_assoc] at hall
  have hlength := lengthField_eq (h.short nal List.mem_cons_self) hall
  have hpos := List.length_pos_iff.mpr (h.nonempty nal List.mem_cons_self)
  have hsize := congrArg List.length hall
  rw [List.length_drop, List.length_append, List.length_append, length_lengthBytes] at hsize
  -- behind the field stands the unit itself
  have hbody : data.drop (off + 4) = nal ++ avcc nals := by
    rw [← List.drop_drop, hall, List.drop_left' (length_lengthBytes _)]
  refine ⟨by omega, hlength, ?_, ?_, ?_⟩
  · rintro (hzero | hlong)
    · rw [hzero] at hlength
      have hzero' : 0 = nal.length := hlength
      omega
    · omega
  · rw [hbody, List.take_left]
  · exact {
      rest := by rw [← List.drop_drop, hbody, List.drop_left]
      within := by omega
      nonempty := fun other hother => h.nonempty other (List.mem_cons_of_mem _ hother)
      short := fun other hother => h.short other (List.mem_cons_of_mem _ hother) }

theorem AvccFrom.forEachNal {data : List UInt8} {fuel off : ℕ} {nals : List (List UInt8)}
    (h : AvccFrom data off nals) (hfuel : data.length - off ≤ fuel) :
    VideoEncoder.forEachNalAvcc data fuel off = nals := by
  induction fuel generalizing off nals with
  | zero =>
    cases nals with
    | nil => rfl
    | cons nal nals =>
      have hroom := h.cons.1
      omega
  | succ fuel ih =>
    unfold VideoEncoder.forEachNalAvcc
    cases nals with
    | nil => rw [if_neg h.nil]
    | cons nal nals =>
      obtain ⟨hroom, hlength, hgood, htake, hrest⟩ := h.cons
      simp only [if_pos hroom, hlength, if_neg hgood, htake]
      rw [ih hrest (by omega)]

theorem AvccFrom.looksLikeAvcc {data : List UInt8} {off : ℕ} {nals : List (List UInt8)}
    (h : AvccFrom data off nals) (fuel nal_count : ℕ) :
    VideoEncoder.looksLikeAvccLoop data fuel off nal_count =
      decide (nal_count > 0 ∨ fuel > 0 ∧ nals ≠ []) := by
  induction fuel generalizing off nals nal_count with
  | zero => simp [VideoEncoder.looksLikeAvccLoop]
  | succ fuel ih =>
    unfold VideoEncoder.looksLikeAvccLoop
    cases nals with
    | nil => simp [if_neg h.nil]
    | cons nal nals =>
      obtain ⟨hroom, hlength, hgood, -, hrest⟩ := h.cons
      have hone : ¬lengthField data off < 1 := by
        intro hlt
        exact hgood (Or.inl (eq_zero_of_lt_one hlt))
      simp only [if_pos hroom, hlength, if_neg hgood, if_neg hone]
      rw [ih hrest]
      simp

/-! ## The AVCC container -/

section

variable {nals : List (List UInt8)}

theorem avccFrom_zero (h : ∀ nal ∈ nals, Unescaped nal) (hlt : ∀ nal ∈ nals, nal.length < 2 ^ 32) :
    AvccFrom (avcc nals) 0 nals where
  rest := rfl
  within := Nat.zero_le _
  nonempty := fun nal hnal => (h nal hnal).nonempty
  short := hlt

/-- Eight bytes: two units, or one of four bytes at least. -/
theorem length_avcc_lt_iff (h : ∀ nal ∈ nals, Unescaped nal) :
    (avcc nals).length < 8 ↔ nals = [] ∨ ∃ nal, nals = [nal] ∧ nal.length < 4 := by
  match nals, h with
  | [], _ => simp [avcc]
  | [nal], _ =>
    have hlen : (avcc [nal]).length = 4 + nal.length := by
      simp [avcc, length_lengthBytes]
    rw [hlen]
    simp
    omega
  | first :: second :: rest, h =>
    have hfirst := List.length_pos_iff.mpr (h first List.mem_cons_self).nonempty
    simp only [avcc, List.length_append, length_lengthBytes]
    simp
    omega

/-- The access unit is taken for AVCC when it has eight bytes and no length field looks like
a start code. -/
theorem detect_avcc_iff (h : ∀ nal ∈ nals, Unescaped nal)
    (hlt : ∀ nal ∈ nals, nal.length < 2 ^ 32) :
    VideoEncoder.detectH264Format (avcc nals) = .Avcc ↔
      8 ≤ (avcc nals).length ∧ ∀ nal ∈ nals, ¬LengthIsCode nal := by
  have hcode := (hasAnnexBStartCode_iff (avcc nals)).trans (startCode_in_avcc_iff h hlt)
  have hloop := (avccFrom_zero h hlt).looksLikeAvcc 3 0
  unfold VideoEncoder.detectH264Format VideoEncoder.looksLikeAvcc
  by_cases hfound : VideoEncoder.hasAnnexBStartCode (avcc nals) = true
  · -- a length field that looks like a start code wins
    obtain ⟨nal, hnal, hbad⟩ := hcode.mp hfound
    rw [if_pos hfound]
    exact iff_of_false (by decide) (fun hall => hall.2 nal hnal hbad)
  · have hnone : ∀ nal ∈ nals, ¬LengthIsCode nal := fun nal hnal hbad =>
      hfound (hcode.mpr ⟨nal, hnal, hbad⟩)
    rw [if_neg hfound, hloop]
    by_cases hshort : (avcc nals).length < 8
    · rw [if_pos hshort, if_neg Bool.false_ne_true]
      exact iff_of_false (by decide) (fun hall => Nat.not_lt.mpr hall.1 hshort)
    · -- eight bytes hold a unit, and one complete unit is enough for the loop
      have hne : nals ≠ [] := by
        rintro rfl
        exact hshort (by decide)
      rw [if_neg hshort, if_pos (by simp [hne])]
      exact iff_of_true rfl ⟨Nat.not_lt.mp hshort, hnone⟩

theorem containsH264IdrNal_avcc (h : ∀ nal ∈ nals, Unescaped nal)
    (hlt : ∀ nal ∈ nals, nal.length < 2 ^ 32)
    (hdetect : VideoEncoder.detectH264Format (avcc nals) = .Avcc) :
    VideoEncoder.containsH264IdrNal (avcc nals) = nals.any isH264Idr := by
  have hunits : VideoEncoder.forEachNal (avcc nals) .Avcc = nals := by
    have hloop := (avccFrom_zero h hlt).forEachNal (Nat.sub_le _ _)
    unfold VideoEncoder.forEachNal
    split_ifs with hempty
    · have hnil : avcc nals = [] := List.length_eq_zero_iff.mp (by omega)
      rw [← hloop, hnil]
      rfl
    · exact hloop
  rw [containsH264IdrNal_eq, hdetect, hunits]

end

/-! ## Main result -/

/-- The keyframe test sees both containers of an access unit for what they are, and finds an
IDR unit in each exactly when there is one. -/
structure KeyframeInBoth (segments : List (Bool × List UInt8)) : Prop where
  annexB : VideoEncoder.detectH264Format (annexB segments) = .AnnexB
  avcc : VideoEncoder.detectH264Format (avcc (segments.map Prod.snd)) = .Avcc
  inAnnexB : VideoEncoder.containsH264IdrNal (Support.annexB segments) =
    (segments.map Prod.snd).any isH264Idr
  inAvcc : VideoEncoder.containsH264IdrNal (Support.avcc (segments.map Prod.snd)) =
    (segments.map Prod.snd).any isH264Idr

/-- For every list of units after emulation prevention that fit their length fields, and
every choice of start codes: the keyframe test does not depend on the container if and only
if there is a unit, a single unit has four bytes, and no length field looks like a start
code. -/
theorem keyframe_in_both_iff {segments : List (Bool × List UInt8)}
    (h : ∀ segment ∈ segments, Unescaped segment.2)
    (hlt : ∀ segment ∈ segments, segment.2.length < 2 ^ 32) :
    KeyframeInBoth segments ↔
      segments ≠ [] ∧ (∀ segment, segments = [segment] → 4 ≤ segment.2.length) ∧
        ∀ segment ∈ segments, ¬LengthIsCode segment.2 := by
  have hnals : ∀ nal ∈ segments.map Prod.snd, Unescaped nal := List.forall_mem_map.mpr h
  have hshort : ∀ nal ∈ segments.map Prod.snd, nal.length < 2 ^ 32 :=
    List.forall_mem_map.mpr hlt
  have hcodes : (∀ nal ∈ segments.map Prod.snd, ¬LengthIsCode nal) ↔
      ∀ segment ∈ segments, ¬LengthIsCode segment.2 := List.forall_mem_map
  -- less than eight bytes: no unit, or one of fewer than four bytes
  have hsize : 8 ≤ (avcc (segments.map Prod.snd)).length ↔
      segments ≠ [] ∧ ∀ segment, segments = [segment] → 4 ≤ segment.2.length := by
    rw [← Nat.not_lt, length_avcc_lt_iff hnals, not_or, List.map_eq_nil_iff]
    refine and_congr_right fun _ => ?_
    constructor
    · rintro hlong segment rfl
      exact Nat.not_lt.mp fun hlt => hlong ⟨segment.2, rfl, hlt⟩
    · rintro hlong ⟨nal, hsingle, hlt⟩
      obtain ⟨segment, rfl, rfl⟩ := List.map_eq_singleton_iff.mp hsingle
      exact Nat.not_lt.mpr (hlong segment rfl) hlt
  have hdetect := detect_avcc_iff hnals hshort
  rw [hsize, hcodes, and_assoc] at hdetect
  constructor
  · intro hboth
    exact hdetect.mp hboth.avcc
  · intro hcond
    have havcc := hdetect.mpr hcond
    have hannexB := detect_annexB hcond.1 h
    exact {
      annexB := hannexB
      avcc := havcc
      inAnnexB := by rw [containsH264IdrNal_eq, hannexB, forEachNal_encoder_annexB h]
      inAvcc := containsH264IdrNal_avcc hnals hshort havcc }

/-- An IDR slice of four bytes and a unit of one byte, whose length field 00 00 00 01 is
taken for the start code of an Annex B stream: the IDR slice in front of it is not seen. -/
theorem keyframe_missed :
    ¬∀ segments : List (Bool × List UInt8), (∀ segment ∈ segments, Unescaped segment.2) →
      (∀ segment ∈ segments, segment.2.length < 2 ^ 32) → KeyframeInBoth segments := by
  intro hall
  have hboth := hall [(true, [0x65, 0x88, 0x84, 0x21]), (false, [0x0B])] (by
    intro segment hsegment
    simp only [List.mem_cons, List.not_mem_nil, or_false] at hsegment
    rcases hsegment with rfl | rfl
    · exact ⟨by decide, by decide, by decide, by decide⟩
    · exact ⟨by decide, by decide, by decide, by decide⟩) (by decide)
  have hmissed := hboth.inAvcc
  revert hmissed
  decide

/-- The same IDR slice with a unit of two bytes is found in both containers. -/
theorem keyframe_in_both_two_bytes :
    KeyframeInBoth [(true, [0x65, 0x88, 0x84, 0x21]), (false, [0x0B, 0x80])] ∧
      VideoEncoder.containsH264IdrNal (avcc [[0x65, 0x88, 0x84, 0x21], [0x0B, 0x80]]) = true := by
  refine ⟨(keyframe_in_both_iff ?_ (by decide)).mpr ⟨by decide, ?_, ?_⟩, by decide⟩
  · intro segment hsegment
    simp only [List.mem_cons, List.not_mem_nil, or_false] at hsegment
    rcases hsegment with rfl | rfl
    · exact ⟨by decide, by decide, by decide, by decide⟩
    · exact ⟨by decide, by decide, by decide, by decide⟩
  · intro segment hsingle
    cases hsingle
  · intro segment hsegment
    simp only [List.mem_cons, List.not_mem_nil, or_false] at hsegment
    rcases hsegment with rfl | rfl <;> simp [LengthIsCode]

end TeleopBridge.Video
