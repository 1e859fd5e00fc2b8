import Mathlib.Data.Nat.Notation

/-!
# Bitstream Parsers

Embeds the two parsers of H.264 and H.265 access units, with the parameter set caches that
they fill: the one of `src/video/video_encoder.cpp` and the one of
`src/video/video_module.cpp`. A null pointer is an empty list, and the function argument of
`forEachNal` is replaced by the list of the units it is called on.
-/

namespace TeleopBridge.Video

/-- `H264StreamFormat` of the encoder, `StreamFormat` of the module. -/
inductive StreamFormat where
  | Unknown
  | AnnexB
  | Avcc
deriving DecidableEq, Repr

/-- The codec of the configuration. -/
inductive Codec where
  | kH264
  | kH265
deriving DecidableEq, Repr

/-- `data[i]` -/
def byteAt (data : List UInt8) (i : ℕ) : UInt8 := data.getD i 0

/-- The lambda `is_start_code`, the same in both files: the length it stores. -/
def is_start_code (data : List UInt8) (i : ℕ) : Option ℕ :=
  if i + 3 ≤ data.length ∧ byteAt data i = 0x00 ∧ byteAt data (i + 1) = 0x00 ∧
      byteAt data (i + 2) = 0x01 then some 3
  else if i + 4 ≤ data.length ∧ byteAt data i = 0x00 ∧ byteAt data (i + 1) = 0x00 ∧
      byteAt data (i + 2) = 0x00 ∧ byteAt data (i + 3) = 0x01 then some 4
  else none

/-- The big-endian length field at `off`. -/
def lengthField (data : List UInt8) (off : ℕ) : UInt32 :=
  ((byteAt data off).toUInt32 <<< 24) ||| ((byteAt data (off + 1)).toUInt32 <<< 16) |||
    ((byteAt data (off + 2)).toUInt32 <<< 8) ||| (byteAt data (off + 3)).toUInt32

/-- `nal[0] & 0x1F` -/
def h264NalType (nal : List UInt8) : UInt8 := byteAt nal 0 &&& 0x1F

/-- `(nal[0] >> 1) & 0x3F` -/
def h265NalType (nal : List UInt8) : UInt8 := (byteAt nal 0 >>> 1) &&& 0x3F

/-- `for (j = start; j + 3 < size; ++j)` until `is_start_code(j)`, else `size`. -/
def nextStartCode (data : List UInt8) (start : ℕ) : ℕ :=
  ((List.range' start (data.length - 3 - start)).find? fun j =>
    (is_start_code data j).isSome).getD data.length

/-- The cached parameter sets. -/
structure ParameterSets where
  cached_vps_ : List UInt8 := []
  cached_sps_ : List UInt8 := []
  cached_pps_ : List UInt8 := []
deriving DecidableEq, Repr

/-! ## The encoder -/

namespace VideoEncoder

/-- `hasAnnexBStartCode` -/
def hasAnnexBStartCode (data : List UInt8) : Bool :=
  if data.length < 4 then false
  else
    (List.range (data.length - 3)).any fun i =>
      decide (byteAt data i = 0x00 ∧ byteAt data (i + 1) = 0x00 ∧ byteAt data (i + 2) = 0x01) ||
        decide (i + 4 < data.length ∧ byteAt data i = 0x00 ∧ byteAt data (i + 1) = 0x00 ∧
          byteAt data (i + 2) = 0x00 ∧ byteAt data (i + 3) = 0x01)

/-- The loop of `looksLikeAvcc`; `fuel` counts down as `nal_count` counts up to 3. -/
def looksLikeAvccLoop (data : List UInt8) : ℕ → ℕ → ℕ → Bool
  | 0, _, nal_count => decide (nal_count > 0)
  | fuel + 1, off, nal_count =>
      if off + 4 ≤ data.length then
        let n := lengthField data off
        if n = 0 ∨ off + 4 + n.toNat > data.length then false
        else if n < 1 then false
        else looksLikeAvccLoop data fuel (off + 4 + n.toNat) (nal_count + 1)
      else decide (nal_count > 0)

/-- `looksLikeAvcc` -/
def looksLikeAvcc (data : List UInt8) : Bool :=
  if data.length < 8 then false else looksLikeAvccLoop data 3 0 0

/-- `detectH264Format` -/
def detectH264Format (data : List UInt8) : StreamFormat :=
  if hasAnnexBStartCode data then .AnnexB
  else if looksLikeAvcc data then .Avcc
  else .Unknown

/-- The Annex B loop of `forEachNal`. The next start code is looked for from the byte behind
`nal_hdr`, and the loop goes on at `nal_hdr`. -/
def forEachNalAnnexB (data : List UInt8) : ℕ → ℕ → List (List UInt8)
  | 0, _ => []
  | fuel + 1, i =>
      if i + 3 < data.length then
        match is_start_code data i with
        | none => forEachNalAnnexB data fuel (i + 1)
        | some sc_len =>
            let nal_hdr := i + sc_len
            if nal_hdr ≥ data.length then forEachNalAnnexB data fuel nal_hdr
            else
              let nal_end := nextStartCode data (nal_hdr + 1)
              (data.drop nal_hdr).take (nal_end - nal_hdr) :: forEachNalAnnexB data fuel nal_hdr
      else []

/-- The AVCC loop of `forEachNal`. -/
def forEachNalAvcc (data : List UInt8) : ℕ → ℕ → List (List UInt8)
  | 0, _ => []
  | fuel + 1, off =>
      if off + 4 ≤ data.length then
        let n := lengthField data off
        if n = 0 ∨ off + 4 + n.toNat > data.length then []
        else
          (data.drop (off + 4)).take n.toNat :: forEachNalAvcc data fuel (off + 4 + n.toNat)
      else []

/-- `forEachNal`: the units that `fn` is called on. Every round moves on by a byte at
least, so `size` rounds are enough. -/
def forEachNal (data : List UInt8) (fmt : StreamFormat) : List (List UInt8) :=
  if data.length < 1 then []
  else
    match fmt with
    | .AnnexB => forEachNalAnnexB data data.length 0
    | .Avcc => forEachNalAvcc data data.length 0
    | .Unknown => []

/-- `containsH264IdrNal` -/
def containsH264IdrNal (data : List UInt8) : Bool :=
  (forEachNal data (detectH264Format data)).foldl
    (fun found nal =>
      if nal.length < 1 then found else if h264NalType nal = 5 then true else found)
    false

/-- `containsH265IdrNal` -/
def containsH265IdrNal (data : List UInt8) : Bool :=
  (forEachNal data (detectH264Format data)).foldl
    (fun found nal =>
      if nal.length < 2 then found
      else if h265NalType nal = 19 ∨ h265NalType nal = 20 ∨ h265NalType nal = 21 then true
      else found)
    false

/-- The members of `VideoEncoder` that `parseSpsPps_` uses. -/
structure SpsPps extends ParameterSets where
  sps_pps_sent_ : Bool := false

/-- What `parseSpsPps_` does with one unit. -/
def cacheNal (codec : Codec) (s : ParameterSets) (nal : List UInt8) : ParameterSets :=
  match codec with
  | .kH265 =>
      if nal.length < 2 then s
      else if h265NalType nal = 32 ∧ s.cached_vps_ = [] then { s with cached_vps_ := nal }
      else if h265NalType nal = 33 ∧ s.cached_sps_ = [] then { s with cached_sps_ := nal }
      else if h265NalType nal = 34 ∧ s.cached_pps_ = [] then { s with cached_pps_ := nal }
      else s
  | .kH264 =>
      if nal.length < 1 then s
      else if h264NalType nal = 7 ∧ s.cached_sps_ = [] then { s with cached_sps_ := nal }
      else if h264NalType nal = 8 ∧ s.cached_pps_ = [] then { s with cached_pps_ := nal }
      else s

/-- `parseSpsPps_`: whether this call sends the parameter sets. -/
def parseSpsPps_ (codec : Codec) (s : SpsPps) (data : List UInt8) : Bool × SpsPps :=
  if s.sps_pps_sent_ then (false, s)
  else
    let sets := (forEachNal data (detectH264Format data)).foldl (cacheNal codec) s.toParameterSets
    let h265_ready := decide (codec = .kH265) && decide (sets.cached_vps_ ≠ []) &&
      decide (sets.cached_sps_ ≠ []) && decide (sets.cached_pps_ ≠ [])
    let h264_ready := !decide (codec = .kH265) && decide (sets.cached_sps_ ≠ []) &&
      decide (sets.cached_pps_ ≠ [])
    if h265_ready || h264_ready then (true, { toParameterSets := sets, sps_pps_sent_ := true })
    else (false, { s with toParameterSets := sets })

end VideoEncoder

/-! ## The module -/

namespace VideoModule

/-- `hasAnnexBStartCode` -/
def hasAnnexBStartCode (data : List UInt8) : Bool :=
  if data.length < 4 then false
  else
    (List.range (data.length - 3)).any fun index =>
      decide (byteAt data index = 0x00 ∧ byteAt data (index + 1) = 0x00 ∧
          byteAt data (index + 2) = 0x01) ||
        decide (index + 4 < data.length ∧ byteAt data index = 0x00 ∧
          byteAt data (index + 1) = 0x00 ∧ byteAt data (index + 2) = 0x00 ∧
          byteAt data (index + 3) = 0x01)

/-- The loop of `looksLikeAvcc`; `fuel` counts down as `nal_count` counts up to 3. -/
def looksLikeAvccLoop (data : List UInt8) : ℕ → ℕ → ℕ → Bool
  | 0, _, nal_count => decide (nal_count > 0)
  | fuel + 1, offset, nal_count =>
      if offset + 4 ≤ data.length then
        let nal_size := lengthField data offset
        if nal_size = 0 ∨ offset + 4 + nal_size.toNat > data.length then false
        else looksLikeAvccLoop data fuel (offset + 4 + nal_size.toNat) (nal_count + 1)
      else decide (nal_count > 0)

/-- `looksLikeAvcc` -/
def looksLikeAvcc (data : List UInt8) : Bool :=
  if data.length < 8 then false else looksLikeAvccLoop data 3 0 0

/-- `detectStreamFormat` -/
def detectStreamFormat (data : List UInt8) : StreamFormat :=
  if hasAnnexBStartCode data then .AnnexB
  else if looksLikeAvcc data then .Avcc
  else .Unknown

/-- The Annex B loop of `forEachNal`. The next start code is looked for from `nal_start`,
nothing is reported when it stands there, and the loop goes on at `nal_end`. -/
def forEachNalAnnexB (data : List UInt8) : ℕ → ℕ → List (List UInt8)
  | 0, _ => []
  | fuel + 1, index =>
      if index + 3 < data.length then
        match is_start_code data index with
        | none => forEachNalAnnexB data fuel (index + 1)
        | some start_code_len =>
            let nal_start := index + start_code_len
            let nal_end := nextStartCode data nal_start
            if nal_end > nal_start then
              (data.drop nal_start).take (nal_end - nal_start) ::
                forEachNalAnnexB data fuel nal_end
            else forEachNalAnnexB data fuel nal_end
      else []

/-- The AVCC loop of `forEachNal`. -/
def forEachNalAvcc (data : List UInt8) : ℕ → ℕ → List (List UInt8)
  | 0, _ => []
  | fuel + 1, offset =>
      if offset + 4 ≤ data.length then
        let nal_size := lengthField data offset
        if nal_size = 0 ∨ offset + 4 + nal_size.toNat > data.length then []
        else
          (data.drop (offset + 4)).take nal_size.toNat ::
            forEachNalAvcc data fuel (offset + 4 + nal_size.toNat)
      else []

/-- `forEachNal`: the units that `fn` is called on. -/
def forEachNal (data : List UInt8) (format : StreamFormat) : List (List UInt8) :=
  if data.length < 1 then []
  else
    match format with
    | .AnnexB => forEachNalAnnexB data data.length 0
    | .Avcc => forEachNalAvcc data data.length 0
    | .Unknown => []

/-- `parameterSetsReadyLocked` -/
def parameterSetsReadyLocked (codec : Codec) (s : ParameterSets) : Bool :=
  match codec with
  | .kH265 => decide (s.cached_vps_ ≠ []) && decide (s.cached_sps_ ≠ []) &&
      decide (s.cached_pps_ ≠ [])
  | .kH264 => decide (s.cached_sps_ ≠ []) && decide (s.cached_pps_ ≠ [])

/-- What `updateParameterSets` does with one unit, with `became_ready`. -/
def cacheNal (codec : Codec) (state : Bool × ParameterSets) (nal : List UInt8) :
    Bool × ParameterSets :=
  let s := state.2
  if nal.length < 1 then state
  else
    match codec with
    | .kH265 =>
        -- the length is asked before the type, on H.265 only
        if nal.length < 2 then state
        else
          let s :=
            if h265NalType nal = 32 ∧ s.cached_vps_ = [] then { s with cached_vps_ := nal }
            else if h265NalType nal = 33 ∧ s.cached_sps_ = [] then { s with cached_sps_ := nal }
            else if h265NalType nal = 34 ∧ s.cached_pps_ = [] then { s with cached_pps_ := nal }
            else s
          (parameterSetsReadyLocked codec s, s)
    | .kH264 =>
        let s :=
          if h264NalType nal = 7 ∧ s.cached_sps_ = [] then { s with cached_sps_ := nal }
          else if h264NalType nal = 8 ∧ s.cached_pps_ = [] then { s with cached_pps_ := nal }
          else s
        (parameterSetsReadyLocked codec s, s)

/-- `updateParameterSets`: whether this call made the parameter sets ready. -/
def updateParameterSets (codec : Codec) (s : ParameterSets) (data : List UInt8) :
    Bool × ParameterSets :=
  if data.length = 0 then (false, s)
  else if parameterSetsReadyLocked codec s then (false, s)
  else if detectStreamFormat data = .Unknown then (false, s)
  else (forEachNal data (detectStreamFormat data)).foldl (cacheNal codec) (false, s)

end VideoModule

end TeleopBridge.Video
