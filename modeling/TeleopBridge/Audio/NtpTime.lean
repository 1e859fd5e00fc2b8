import Mathlib.Data.List.Forall2
import Mathlib.Data.Nat.Bitwise
import TeleopBridge.Support.ScaledFloor

/-!
# NTP Timestamps of the Audio

The 64-bit NTP timestamps of `src/audio/audio_manager.cpp`: 32 bits of seconds above 32 bits
of fraction. The captured audio is stamped with them and the remote audio is played by them.
A `long double` is computed with exactly, and its conversion to an integer rounds down.

## Key Results

- `toNat_addNsToNtp`, `toNat_ntpDiffToNs`: both functions round down once.
- `ntp_arithmetic`: timestamps keep the order of the offsets, and give them back to 1 ns.
- `played_as_captured`: the capture clock and the playback timeline agree to 1 ns.
-/

namespace TeleopBridge.Audio

open TeleopBridge.Support

/-! ## Arithmetic -/

/-- The units of an NTP fraction in a second. -/
def ntpUnits : ℕ := 4294967296

def nsPerSecond : ℕ := 1000000000

/-- `addNsToNtp` -/
def addNsToNtp (base_ntp delta_ns : UInt64) : UInt64 :=
  let ntp_seconds := base_ntp >>> 32
  let ntp_fraction := base_ntp &&& 0xFFFFFFFF
  let add_seconds := delta_ns / 1000000000
  let rem_ns := delta_ns % 1000000000
  let add_fraction := UInt64.ofNat (rem_ns.toNat * ntpUnits / nsPerSecond)
  let fraction := ntp_fraction + add_fraction
  let seconds := ntp_seconds + add_seconds
  if fraction ≥ (1 : UInt64) <<< 32 then
    ((seconds + 1) <<< 32) ||| (fraction - (1 : UInt64) <<< 32)
  else (seconds <<< 32) ||| fraction

/-- `ntpDiffToNs` -/
def ntpDiffToNs (earlier_ntp later_ntp : UInt64) : UInt64 :=
  if later_ntp ≤ earlier_ntp then 0
  else
    let earlier_seconds := earlier_ntp >>> 32
    let earlier_fraction := earlier_ntp &&& 0xFFFFFFFF
    let later_seconds := later_ntp >>> 32
    let later_fraction := later_ntp &&& 0xFFFFFFFF
    let seconds_diff := later_seconds - earlier_seconds
    let fraction_diff : ℤ := (later_fraction.toNat : ℤ) - earlier_fraction.toNat
    let borrowed := if fraction_diff < 0 then (seconds_diff - 1, fraction_diff + 4294967296)
      else (seconds_diff, fraction_diff)
    let ns_from_seconds := borrowed.1 * 1000000000
    let ns_from_fraction := UInt64.ofNat (borrowed.2.toNat * nsPerSecond / ntpUnits)
    ns_from_seconds + ns_from_fraction

/-- `b` plus `d` nanoseconds is inside the era of `2 ^ 32` seconds. -/
def InEra (b : UInt64) (d : ℕ) : Prop := b.toNat * nsPerSecond + d * ntpUnits < 2 ^ 64 * nsPerSecond

instance (b : UInt64) (d : ℕ) : Decidable (InEra b d) := inferInstanceAs (Decidable (_ < _))

theorem toNat_seconds (b : UInt64) : (b >>> 32).toNat = b.toNat / 4294967296 := by
  rw [UInt64.toNat_shiftRight]
  exact Nat.shiftRight_eq_div_pow _ _

theorem toNat_fraction (b : UInt64) : (b &&& 0xFFFFFFFF).toNat = b.toNat % 4294967296 := by
  rw [UInt64.toNat_and]
  exact Nat.and_two_pow_sub_one_eq_mod b.toNat 32

/-- The seconds and the fraction of a timestamp side by side. -/
theorem toNat_shiftLeft_or {seconds fraction : UInt64} (hseconds : seconds.toNat < 4294967296)
    (hfraction : fraction.toNat < 4294967296) :
    ((seconds <<< 32) ||| fraction).toNat = seconds.toNat * 4294967296 + fraction.toNat := by
  -- the fraction fills the low bits that the shift cleared
  have hjoin : seconds.toNat <<< 32 + fraction.toNat = seconds.toNat <<< 32 ||| fraction.toNat :=
    Nat.shiftLeft_add_eq_or_of_lt hfraction _
  have hshift : seconds.toNat <<< 32 = seconds.toNat * 4294967296 := Nat.shiftLeft_eq _ _
  have hsmall : (seconds <<< 32).toNat = seconds.toNat <<< 32 := by
    rw [UInt64.toNat_shiftLeft]
    change seconds.toNat <<< 32 % 18446744073709551616 = _
    omega
  rw [UInt64.toNat_or, hsmall, ← hjoin, hshift]

theorem inEra_iff {b : UInt64} {d : ℕ} :
    InEra b d ↔ b.toNat + scale ntpUnits nsPerSecond d < 18446744073709551616 := by
  have hlow := scale_mul_le ntpUnits nsPerSecond d
  have hhigh := lt_scale_succ_mul (by decide) ntpUnits d (q := nsPerSecond)
  unfold InEra nsPerSecond at *
  constructor <;> intro h <;> omega

/-- The fraction of a second that is added is less than a second. -/
theorem toNat_addFraction (rem_ns : UInt64) (h : rem_ns.toNat < nsPerSecond) :
    (UInt64.ofNat (rem_ns.toNat * ntpUnits / nsPerSecond)).toNat =
        scale ntpUnits nsPerSecond rem_ns.toNat ∧
      scale ntpUnits nsPerSecond rem_ns.toNat < ntpUnits := by
  have hless : scale ntpUnits nsPerSecond rem_ns.toNat < ntpUnits := by
    unfold scale
    rw [Nat.div_lt_iff_lt_mul (by decide), Nat.mul_comm]
    exact Nat.mul_lt_mul_of_pos_left h (by decide)
  refine ⟨?_, hless⟩
  rw [UInt64.toNat_ofNat']
  exact Nat.mod_eq_of_lt (hless.trans (by decide))

/-- A fraction of a second or more carries into the seconds. -/
theorem toNat_carry {seconds fraction : UInt64}
    (h : seconds.toNat * 4294967296 + fraction.toNat < 18446744073709551616)
    (hfraction : fraction.toNat < 2 * 4294967296) :
    (if fraction ≥ (1 : UInt64) <<< 32 then
      ((seconds + 1) <<< 32) ||| (fraction - (1 : UInt64) <<< 32)
      else (seconds <<< 32) ||| fraction).toNat =
      seconds.toNat * 4294967296 + fraction.toNat := by
  have hunit : ((1 : UInt64) <<< 32).toNat = 4294967296 := rfl
  by_cases hcarry : fraction ≥ (1 : UInt64) <<< 32
  · have hle : 4294967296 ≤ fraction.toNat := UInt64.le_iff_toNat_le.mp hcarry
    have hrest : (fraction - (1 : UInt64) <<< 32).toNat = fraction.toNat - 4294967296 := by
      rw [UInt64.toNat_sub_of_le _ _ hcarry, hunit]
    -- the seconds do not wrap inside the era
    have hnext : (seconds + 1).toNat = seconds.toNat + 1 := by
      rw [UInt64.toNat_add]
      exact Nat.mod_eq_of_lt (by change seconds.toNat + 1 < _; omega)
    rw [if_pos hcarry, toNat_shiftLeft_or (by omega) (by omega), hrest, hnext]
    omega
  · have hlt : fraction.toNat < 4294967296 :=
      Nat.not_le.mp fun hle => hcarry (UInt64.le_iff_toNat_le.mpr hle)
    rw [if_neg hcarry, toNat_shiftLeft_or (by omega) hlt]

/-- Inside the era, `addNsToNtp` adds the nanoseconds in fraction units, rounded down. -/
theorem toNat_addNsToNtp {b d : UInt64} (h : InEra b d.toNat) :
    (addNsToNtp b d).toNat = b.toNat + scale ntpUnits nsPerSecond d.toNat := by
  rw [inEra_iff] at h
  have hseconds := toNat_seconds b
  have hfraction := toNat_fraction b
  have hadd : (d / 1000000000).toNat = d.toNat / 1000000000 := UInt64.toNat_div _ _
  have hrem : (d % 1000000000).toNat = d.toNat % 1000000000 := UInt64.toNat_mod _ _
  have hbound : (d % 1000000000).toNat < nsPerSecond :=
    hrem.trans_lt (Nat.mod_lt d.toNat (by decide))
  obtain ⟨hnew, hless⟩ := toNat_addFraction (d % 1000000000) hbound
  -- the whole seconds and the rest are converted apart
  have hwhole : scale ntpUnits nsPerSecond d.toNat = d.toNat / 1000000000 * 4294967296 +
      scale ntpUnits nsPerSecond (d % 1000000000).toNat := by
    rw [hrem]
    conv_lhs => rw [← Nat.div_add_mod' d.toNat 1000000000]
    exact scale_whole (by decide) ntpUnits _ _
  have hsmall : scale ntpUnits nsPerSecond (d % 1000000000).toNat < 4294967296 := hless
  unfold addNsToNtp
  simp only
  generalize UInt64.ofNat ((d % 1000000000).toNat * ntpUnits / nsPerSecond) = new at hnew ⊢
  generalize scale ntpUnits nsPerSecond (d % 1000000000).toNat = rest at *
  generalize scale ntpUnits nsPerSecond d.toNat = whole at *
  have hb := UInt64.toNat_lt b
  have hd := UInt64.toNat_lt d
  have hsum : ((b &&& 0xFFFFFFFF) + new).toNat = b.toNat % 4294967296 + rest := by
    rw [UInt64.toNat_add, hfraction, hnew]
    exact Nat.mod_eq_of_lt (by omega)
  have htotal : (b >>> 32 + d / 1000000000).toNat =
      b.toNat / 4294967296 + d.toNat / 1000000000 := by
    rw [UInt64.toNat_add, hseconds, hadd]
    exact Nat.mod_eq_of_lt (by omega)
  rw [toNat_carry (by rw [hsum, htotal]; omega) (by rw [hsum]; omega), hsum, htotal]
  omega

/-- Whole seconds and a rest of less than a second, in nanoseconds. -/
theorem toNat_secondsToNs {seconds : UInt64} {rest units : ℕ} (hrest : rest < 4294967296)
    (hunits : seconds.toNat * 4294967296 + rest = units) (hfit : units < 18446744073709551616) :
    (seconds * 1000000000 + UInt64.ofNat (rest * nsPerSecond / ntpUnits)).toNat =
      scale nsPerSecond ntpUnits units := by
  have hns : rest * nsPerSecond / ntpUnits < 1000000000 := by
    rw [Nat.div_lt_iff_lt_mul (by decide), Nat.mul_comm 1000000000]
    exact Nat.mul_lt_mul_of_pos_right hrest (by decide)
  have hwhole : scale nsPerSecond ntpUnits (seconds.toNat * 4294967296 + rest) =
      seconds.toNat * 1000000000 + rest * nsPerSecond / ntpUnits :=
    scale_whole (by decide) nsPerSecond seconds.toNat rest
  rw [← hunits, hwhole, UInt64.toNat_add, UInt64.toNat_mul, UInt64.toNat_ofNat']
  change (seconds.toNat * 1000000000 % 2 ^ 64 + _ % 2 ^ 64) % 2 ^ 64 = _
  -- the sum stays below the era's nanoseconds, so no step of it wraps
  generalize rest * nsPerSecond / ntpUnits = ns at *
  omega

/-- `ntpDiffToNs` converts the difference to nanoseconds, rounded down. -/
theorem toNat_ntpDiffToNs (e l : UInt64) :
    (ntpDiffToNs e l).toNat = scale nsPerSecond ntpUnits (l.toNat - e.toNat) := by
  unfold ntpDiffToNs
  by_cases hle : l ≤ e
  · rw [if_pos hle, Nat.sub_eq_zero_of_le (UInt64.le_iff_toNat_le.mp hle)]
    rfl
  · rw [if_neg hle]
    have hlt : e.toNat < l.toNat := Nat.not_le.mp fun h => hle (UInt64.le_iff_toNat_le.mpr h)
    have hl := UInt64.toNat_lt l
    simp only [toNat_fraction]
    have hseconds : (l >>> 32 - e >>> 32).toNat = l.toNat / 4294967296 - e.toNat / 4294967296 := by
      have hdiv : e.toNat / 4294967296 ≤ l.toNat / 4294967296 := Nat.div_le_div_right hlt.le
      rw [UInt64.toNat_sub_of_le _ _ (UInt64.le_iff_toNat_le.mpr ?_), toNat_seconds, toNat_seconds]
      rw [toNat_seconds, toNat_seconds]
      exact hdiv
    -- a fraction that runs backwards borrows one second
    split
    · rename_i hborrow
      have hone : (l >>> 32 - e >>> 32 - 1).toNat =
          l.toNat / 4294967296 - e.toNat / 4294967296 - 1 := by
        rw [UInt64.toNat_sub_of_le _ _ (UInt64.le_iff_toNat_le.mpr ?_), hseconds]
        · rfl
        · rw [hseconds]
          change 1 ≤ _
          omega
      refine toNat_secondsToNs (by omega) ?_ (by omega)
      rw [hone]
      omega
    · rename_i hborrow
      refine toNat_secondsToNs (by omega) ?_ (by omega)
      rw [hseconds]
      omega

/-! ## Offsets -/

variable {b d d' : UInt64}

theorem InEra.mono {m n : ℕ} (h : InEra b n) (hle : m ≤ n) : InEra b m := by
  have hunits := Nat.mul_le_mul_right ntpUnits hle
  unfold InEra at *
  omega

theorem addNsToNtp_lt (h : InEra b d'.toNat) (hlt : d < d') : addNsToNtp b d < addNsToNtp b d' := by
  have hless := UInt64.lt_iff_toNat_lt.mp hlt
  rw [UInt64.lt_iff_toNat_lt, toNat_addNsToNtp (h.mono hless.le), toNat_addNsToNtp h]
  exact Nat.add_lt_add_left (scale_strictMono (by decide) (by decide) hless) _

/-- A captured offset comes back with an error of at most 1 ns. -/
theorem ntpDiffToNs_addNsToNtp (h : InEra b d'.toNat) (hle : d ≤ d') :
    d'.toNat - d.toNat ≤ (ntpDiffToNs (addNsToNtp b d) (addNsToNtp b d')).toNat + 1 ∧
      (ntpDiffToNs (addNsToNtp b d) (addNsToNtp b d')).toNat ≤ d'.toNat - d.toNat := by
  have hless := UInt64.le_iff_toNat_le.mp hle
  rw [toNat_ntpDiffToNs, toNat_addNsToNtp (h.mono hless), toNat_addNsToNtp h,
    Nat.add_sub_add_left]
  exact scale_sub_scale (by decide) (by decide) hless

theorem offset_within (h : InEra b d'.toNat) (hle : d ≤ d') :
    (d'.toNat : ℤ) - d.toNat - 1 ≤ (ntpDiffToNs (addNsToNtp b d) (addNsToNtp b d')).toNat ∧
      ((ntpDiffToNs (addNsToNtp b d) (addNsToNtp b d')).toNat : ℤ) ≤ d'.toNat - d.toNat := by
  obtain ⟨hlow, hhigh⟩ := ntpDiffToNs_addNsToNtp h hle
  have hnat := UInt64.le_iff_toNat_le.mp hle
  omega

/-- Adding in two steps rounds down twice. -/
theorem addNsToNtp_addNsToNtp (h : InEra b (d.toNat + d'.toNat)) :
    addNsToNtp (addNsToNtp b d) d' = addNsToNtp b (d + d') ∨
      addNsToNtp (addNsToNtp b d) d' + 1 = addNsToNtp b (d + d') := by
  have hfirst := toNat_addNsToNtp (h.mono (Nat.le_add_right _ _))
  obtain ⟨hlow, hhigh⟩ := scale_add (by decide : 0 < nsPerSecond) ntpUnits d.toNat d'.toNat
  have hera := inEra_iff.mp h
  have hsum : (d + d').toNat = d.toNat + d'.toNat := by
    -- a nanosecond is more than one fraction unit
    have hunits : d.toNat + d'.toNat ≤ scale ntpUnits nsPerSecond (d.toNat + d'.toNat) :=
      le_scale (by decide) (by decide) _
    rw [UInt64.toNat_add]
    exact Nat.mod_eq_of_lt (by omega)
  have hsecond : InEra (addNsToNtp b d) d'.toNat := by
    rw [inEra_iff, hfirst]
    omega
  have htwo := toNat_addNsToNtp hsecond
  have hone : (addNsToNtp b (d + d')).toNat =
      b.toNat + scale ntpUnits nsPerSecond (d.toNat + d'.toNat) := by
    have hall : InEra b (d + d').toNat := hsum.symm ▸ h
    rw [toNat_addNsToNtp hall, hsum]
  rw [hfirst] at htwo
  rcases Nat.lt_or_ge (addNsToNtp (addNsToNtp b d) d').toNat (addNsToNtp b (d + d')).toNat
    with hless | hge
  · right
    apply UInt64.toNat_inj.mp
    rw [UInt64.toNat_add]
    change (_ + 1) % 2 ^ 64 = _
    omega
  · left
    apply UInt64.toNat_inj.mp
    omega

/-! ## Capture -/

/-- The capture clock of `AudioManager::Impl`. -/
structure CaptureClock where
  capture_pts_initialized : Bool := false
  capture_base_ntp : UInt64 := 0
  capture_first_pts_ns : UInt64 := 0
  capture_packet_index : UInt64 := 0

/-- The timestamp that `handleNewSample` gives a buffer, read off the system clock for the
first one; `none` is a buffer without a valid PTS. -/
def CaptureClock.handleNewSample (frame_duration_ms : UInt32) (currentNtpTimestamp : UInt64)
    (pts_ns : Option UInt64) (c : CaptureClock) : UInt64 × CaptureClock :=
  let frame_duration_ns := frame_duration_ms.toUInt64 * 1000000
  let c := if !c.capture_pts_initialized then
      { capture_pts_initialized := true
        capture_base_ntp := currentNtpTimestamp
        capture_first_pts_ns := pts_ns.getD 0
        capture_packet_index := 0 }
    else c
  let relative_ns := match pts_ns with
    | none => c.capture_packet_index * frame_duration_ns
    | some pts_ns =>
      if pts_ns ≥ c.capture_first_pts_ns then pts_ns - c.capture_first_pts_ns else 0
  (addNsToNtp c.capture_base_ntp relative_ns,
    { c with capture_packet_index := c.capture_packet_index + 1 })

/-- The timestamps of the buffers that are captured with these PTS. -/
def CaptureClock.stamps (frame_duration_ms : UInt32) (currentNtpTimestamp : UInt64) :
    CaptureClock → List UInt64 → List UInt64
  | _, [] => []
  | c, pts_ns :: rest =>
    let sample := c.handleNewSample frame_duration_ms currentNtpTimestamp (some pts_ns)
    sample.1 :: CaptureClock.stamps frame_duration_ms currentNtpTimestamp sample.2 rest

theorem CaptureClock.stamps_set (frame_duration_ms : UInt32) (currentNtpTimestamp : UInt64)
    {c : CaptureClock} (hset : c.capture_pts_initialized = true) {pts : List UInt64}
    (hle : ∀ pts_ns ∈ pts, c.capture_first_pts_ns ≤ pts_ns) :
    c.stamps frame_duration_ms currentNtpTimestamp pts =
      pts.map fun pts_ns => addNsToNtp c.capture_base_ntp (pts_ns - c.capture_first_pts_ns) := by
  induction pts generalizing c with
  | nil => rfl
  | cons pts_ns rest ih =>
    -- once initialized, a sample is stamped by its distance from the first
    have hsample : c.handleNewSample frame_duration_ms currentNtpTimestamp (some pts_ns) =
        (addNsToNtp c.capture_base_ntp (pts_ns - c.capture_first_pts_ns),
          { c with capture_packet_index := c.capture_packet_index + 1 }) := by
      unfold handleNewSample
      simp only
      rw [if_neg (by rw [hset]; decide), if_pos (hle pts_ns List.mem_cons_self)]
    rw [stamps, List.map_cons, hsample]
    exact congrArg _ (ih hset fun next hnext => hle next (List.mem_cons_of_mem _ hnext))

/-- A capture that starts with `first` stamps every buffer with its offset to the first. -/
theorem CaptureClock.stamps_eq (frame_duration_ms : UInt32) (currentNtpTimestamp : UInt64)
    {first : UInt64} {rest : List UInt64} (hle : ∀ pts_ns ∈ rest, first ≤ pts_ns) :
    CaptureClock.stamps frame_duration_ms currentNtpTimestamp {} (first :: rest) =
      (first :: rest).map fun pts_ns => addNsToNtp currentNtpTimestamp (pts_ns - first) := by
  have hsample :
      CaptureClock.handleNewSample frame_duration_ms currentNtpTimestamp (some first) {} =
        (addNsToNtp currentNtpTimestamp (first - first),
          ⟨true, currentNtpTimestamp, first, 1⟩) := by
    unfold handleNewSample
    simp only
    rw [if_pos (by decide)]
    simp
  rw [stamps, List.map_cons, hsample]
  exact congrArg _ (stamps_set frame_duration_ms currentNtpTimestamp rfl hle)

/-! ## Playback -/

/-- The playback timeline of `AudioManager::Impl`. -/
structure PlaybackTimeline where
  playback_pts_initialized : Bool := false
  playback_base_ntp : UInt64 := 0
  playback_last_pts_ns : UInt64 := 0

/-- The PTS that `pushRemotePacket` gives a packet. -/
def PlaybackTimeline.pushRemotePacket (duration_ns timestamp_ntp : UInt64)
    (t : PlaybackTimeline) : UInt64 × PlaybackTimeline :=
  let t := if !t.playback_pts_initialized then ⟨true, timestamp_ntp, 0⟩ else t
  let pts_ns := ntpDiffToNs t.playback_base_ntp timestamp_ntp
  let pts_ns := if pts_ns < t.playback_last_pts_ns then t.playback_last_pts_ns + duration_ns
    else pts_ns
  (pts_ns, { t with playback_last_pts_ns := pts_ns })

/-- The PTS of the packets that are pushed with these timestamps. -/
def PlaybackTimeline.ptsOf (duration_ns : UInt64) : PlaybackTimeline → List UInt64 → List UInt64
  | _, [] => []
  | t, timestamp_ntp :: rest =>
    let pushed := t.pushRemotePacket duration_ns timestamp_ntp
    pushed.1 :: PlaybackTimeline.ptsOf duration_ns pushed.2 rest

theorem PlaybackTimeline.pushRemotePacket_set {t : PlaybackTimeline}
    (hset : t.playback_pts_initialized = true) {duration_ns timestamp_ntp : UInt64}
    (hlast : t.playback_last_pts_ns ≤ ntpDiffToNs t.playback_base_ntp timestamp_ntp) :
    t.pushRemotePacket duration_ns timestamp_ntp =
      (ntpDiffToNs t.playback_base_ntp timestamp_ntp,
        { t with playback_last_pts_ns := ntpDiffToNs t.playback_base_ntp timestamp_ntp }) := by
  -- the base of the timeline is set already
  have hstart :
      (if (!t.playback_pts_initialized) = true then ⟨true, timestamp_ntp, 0⟩ else t) = t :=
    if_neg (by rw [hset]; decide)
  unfold pushRemotePacket
  simp only [hstart, if_neg (UInt64.not_lt.mpr hlast)]

theorem ntpDiffToNs_mono {base earlier later : UInt64} (hle : earlier ≤ later) :
    ntpDiffToNs base earlier ≤ ntpDiffToNs base later := by
  have hnat := UInt64.le_iff_toNat_le.mp hle
  rw [UInt64.le_iff_toNat_le, toNat_ntpDiffToNs, toNat_ntpDiffToNs]
  exact scale_mono _ _ (Nat.sub_le_sub_right hnat _)

theorem addNsToNtp_mono (h : InEra b d'.toNat) (hle : d ≤ d') :
    addNsToNtp b d ≤ addNsToNtp b d' := by
  have hnat := UInt64.le_iff_toNat_le.mp hle
  rw [UInt64.le_iff_toNat_le, toNat_addNsToNtp (h.mono hnat), toNat_addNsToNtp h]
  exact Nat.add_le_add_left (scale_mono _ _ hnat) _

/-- While the offsets do not go back, a packet is played at its converted offset. -/
theorem PlaybackTimeline.ptsOf_set (duration_ns : UInt64) {t : PlaybackTimeline}
    {offsets : List UInt64} (hset : t.playback_pts_initialized = true)
    (hlast : ∀ d ∈ offsets,
      t.playback_last_pts_ns ≤ ntpDiffToNs t.playback_base_ntp (addNsToNtp b d))
    (hera : ∀ d ∈ offsets, InEra b d.toNat) (horder : offsets.Pairwise (· ≤ ·)) :
    t.ptsOf duration_ns (offsets.map (addNsToNtp b)) =
      offsets.map fun d => ntpDiffToNs t.playback_base_ntp (addNsToNtp b d) := by
  induction offsets generalizing t with
  | nil => rfl
  | cons d rest ih =>
    obtain ⟨hnext, hrest⟩ := List.pairwise_cons.mp horder
    have hpushed := @pushRemotePacket_set t hset duration_ns _ (hlast d List.mem_cons_self)
    -- later offsets have later timestamps
    have hlater : ∀ d' ∈ rest, ntpDiffToNs t.playback_base_ntp (addNsToNtp b d) ≤
        ntpDiffToNs t.playback_base_ntp (addNsToNtp b d') := fun d' hd' =>
      ntpDiffToNs_mono (addNsToNtp_mono (hera d' (List.mem_cons_of_mem _ hd')) (hnext d' hd'))
    have hnow := @ih { t with
      playback_last_pts_ns := ntpDiffToNs t.playback_base_ntp (addNsToNtp b d) } hset hlater
        (fun d' hd' => hera d' (List.mem_cons_of_mem _ hd')) hrest
    rw [List.map_cons, List.map_cons, ptsOf, hpushed, hnow]

theorem PlaybackTimeline.ptsOf_eq (duration_ns : UInt64) {first : UInt64} {offsets : List UInt64}
    (hera : ∀ d ∈ first :: offsets, InEra b d.toNat)
    (horder : (first :: offsets).Pairwise (· ≤ ·)) :
    PlaybackTimeline.ptsOf duration_ns {} ((first :: offsets).map (addNsToNtp b)) =
      (first :: offsets).map fun d => ntpDiffToNs (addNsToNtp b first) (addNsToNtp b d) := by
  -- the first packet starts the timeline, and is then played like any other
  have hbegun := @ptsOf_set b duration_ns ⟨true, addNsToNtp b first, 0⟩ (first :: offsets)
    rfl (fun _ _ => UInt64.zero_le) hera horder
  rw [← hbegun]
  rfl

/-- Packets stamped with offsets that do not go back are played at these offsets less the first,
or 1 ns before. -/
theorem PlaybackTimeline.ptsOf_within (duration_ns : UInt64) {first : UInt64}
    {offsets : List UInt64} (hera : ∀ d ∈ first :: offsets, InEra b d.toNat)
    (horder : (first :: offsets).Pairwise (· ≤ ·)) :
    List.Forall₂ (fun d pts_ns => (d.toNat : ℤ) - first.toNat - 1 ≤ pts_ns.toNat ∧
        (pts_ns.toNat : ℤ) ≤ d.toNat - first.toNat) (first :: offsets)
      (PlaybackTimeline.ptsOf duration_ns {} ((first :: offsets).map (addNsToNtp b))) := by
  rw [ptsOf_eq duration_ns hera horder, List.forall₂_map_right_iff, List.forall₂_same]
  intro d hd
  refine offset_within (hera d hd) ?_
  rcases List.mem_cons.mp hd with rfl | hrest
  · exact UInt64.le_refl _
  · exact (List.pairwise_cons.mp horder).1 d hrest

/-- A stream is played as it was captured: the packet of a buffer is due as long after the first
packet as the buffer came after the first buffer, or 1 ns earlier. -/
theorem played_as_captured (frame_duration_ms : UInt32) (currentNtpTimestamp duration_ns : UInt64)
    {first : UInt64} {rest : List UInt64} (horder : (first :: rest).Pairwise (· ≤ ·))
    (hera : ∀ pts_ns ∈ first :: rest, InEra currentNtpTimestamp (pts_ns - first).toNat) :
    List.Forall₂ (fun captured played => (captured - first).toNat ≤ played.toNat + 1 ∧
        played.toNat ≤ (captured - first).toNat) (first :: rest)
      (PlaybackTimeline.ptsOf duration_ns {}
        (CaptureClock.stamps frame_duration_ms currentNtpTimestamp {} (first :: rest))) := by
  have hfirst : ∀ pts_ns ∈ first :: rest, first ≤ pts_ns :=
    List.forall_mem_cons.mpr ⟨UInt64.le_refl _, (List.pairwise_cons.mp horder).1⟩
  -- the offsets to the first buffer start at 0 and do not go back
  have hsorted : ((first :: rest).map (· - first)).Pairwise (· ≤ ·) := by
    refine List.pairwise_map.mpr (horder.imp_of_mem ?_)
    intro earlier later hearlier hlater hle
    have hnat := UInt64.le_iff_toNat_le.mp hle
    rw [UInt64.le_iff_toNat_le, UInt64.toNat_sub_of_le _ _ (hfirst _ hearlier),
      UInt64.toNat_sub_of_le _ _ (hfirst _ hlater)]
    exact Nat.sub_le_sub_right hnat _
  have hinside : ∀ d ∈ (first :: rest).map (· - first), InEra currentNtpTimestamp d.toNat :=
    List.forall_mem_map.mpr hera
  have hstamps : CaptureClock.stamps frame_duration_ms currentNtpTimestamp {} (first :: rest) =
      ((first :: rest).map (· - first)).map (addNsToNtp currentNtpTimestamp) := by
    rw [CaptureClock.stamps_eq _ _ (List.forall_mem_cons.mp hfirst).2, List.map_map]
    rfl
  have hplayed := PlaybackTimeline.ptsOf_within duration_ns hinside hsorted
  change List.Forall₂ _ ((first :: rest).map (· - first)) _ at hplayed
  rw [List.forall₂_map_left_iff] at hplayed
  rw [hstamps]
  refine hplayed.imp fun captured played hwithin => ?_
  simp only [UInt64.sub_self, UInt64.toNat_zero] at hwithin
  omega

/-- For every base `b`: inside the era a later offset has a later timestamp; an offset that
is converted to a timestamp and back is at most 1 ns short and never too long; and adding in
two steps gives the timestamp of the sum, or the one a fraction unit below it. So a packet is
played at the offset to the first one at which it was captured, or 1 ns before, in a stream
of any length. -/
theorem ntp_arithmetic (b : UInt64) :
    (∀ d d', InEra b d'.toNat → d < d' → addNsToNtp b d < addNsToNtp b d') ∧
    (∀ d₀ d, InEra b d.toNat → d₀ ≤ d →
      (d.toNat : ℤ) - d₀.toNat - 1 ≤ (ntpDiffToNs (addNsToNtp b d₀) (addNsToNtp b d)).toNat ∧
        ((ntpDiffToNs (addNsToNtp b d₀) (addNsToNtp b d)).toNat : ℤ) ≤ d.toNat - d₀.toNat) ∧
    (∀ d₁ d₂, InEra b (d₁.toNat + d₂.toNat) →
      addNsToNtp (addNsToNtp b d₁) d₂ = addNsToNtp b (d₁ + d₂) ∨
        addNsToNtp (addNsToNtp b d₁) d₂ + 1 = addNsToNtp b (d₁ + d₂)) ∧
    ∀ (duration_ns d₀ : UInt64) (offsets : List UInt64), (∀ d ∈ d₀ :: offsets, InEra b d.toNat) →
      (d₀ :: offsets).Pairwise (· ≤ ·) →
      List.Forall₂ (fun d pts_ns => (d.toNat : ℤ) - d₀.toNat - 1 ≤ pts_ns.toNat ∧
          (pts_ns.toNat : ℤ) ≤ d.toNat - d₀.toNat) (d₀ :: offsets)
        (PlaybackTimeline.ptsOf duration_ns {} ((d₀ :: offsets).map (addNsToNtp b))) := by
  refine ⟨fun d d' => addNsToNtp_lt, fun d₀ d => offset_within,
    fun d₁ d₂ => addNsToNtp_addNsToNtp, ?_⟩
  intro duration_ns d₀ offsets hera horder
  exact PlaybackTimeline.ptsOf_within duration_ns hera horder

/-- Two packets 20 ms apart, just before the carry into the next second. -/
theorem ntp_arithmetic_two_packets :
    PlaybackTimeline.ptsOf 20000000 {} ([0, 20000000].map (addNsToNtp 0xE0000000FFFFFFFF)) =
      [0, 19999999] ∧
    List.Forall₂ (fun d pts_ns : UInt64 => (d.toNat : ℤ) - (0 : UInt64).toNat - 1 ≤ pts_ns.toNat ∧
        (pts_ns.toNat : ℤ) ≤ d.toNat - (0 : UInt64).toNat) [0, 20000000]
      (PlaybackTimeline.ptsOf 20000000 {} ([0, 20000000].map (addNsToNtp 0xE0000000FFFFFFFF))) :=
  ⟨by decide, (ntp_arithmetic 0xE0000000FFFFFFFF).2.2.2 20000000 0 [20000000]
    (List.forall_mem_cons.mpr ⟨by decide, List.forall_mem_singleton.mpr (by decide)⟩)
    (List.pairwise_pair.mpr (by decide))⟩

end TeleopBridge.Audio
