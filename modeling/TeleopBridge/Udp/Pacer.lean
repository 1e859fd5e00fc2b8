import Mathlib.Data.Rat.Floor
import Mathlib.Tactic.Linarith
import Mathlib.Tactic.NormNum

/-!
# Pacer

Embeds `class WebRtcLikePacer` of `src/udp/pacer.cpp` and `include/udp/pacer.hpp`. A
`double` is a rational number, computed with exactly. A time point is its count of
nanoseconds. Sizes, waits and statistics are not bounded by the width of their types.

## Key Results

- `rate_bounds`: the rate stays between the configured one and its drain limit.
- `updateBudget_spec`: a drain of the debt takes at most what the drain limit allows.
- `debt_le_of_clear`: an accounted packet may go only when the debt is within the burst.
-/

namespace TeleopBridge.Udp

/-- `WebRtcLikePacer::Config` -/
structure PacerConfig where
  enabled : Bool := true
  pacing_bps : UInt64 := 0
  send_burst_interval_ms : UInt32 := 5
  max_burst_bytes : ℕ := 63000
  max_debt_ms : UInt32 := 500
  queue_time_limit_ms : UInt32 := 150
  max_drain_multiplier : ℚ := 2
deriving DecidableEq, Repr

/-- The members of `class WebRtcLikePacer`. -/
structure WebRtcLikePacer where
  config_ : PacerConfig := {}
  media_debt_bytes_ : ℚ := 0
  adjusted_pacing_bps_ : UInt64 := 0
  last_process_tp_ : ℕ := 0
  last_send_tp_ : ℕ := 0
deriving DecidableEq, Repr

/-- `WebRtcLikePacer::Stats` -/
structure PacerStats where
  adjusted_pacing_bps : UInt64 := 0
  debt_us : ℕ := 0
  expected_queue_us : ℕ := 0
deriving DecidableEq, Repr

namespace WebRtcLikePacer

/-- `kMaxLowLatencyBurstWindowMs` -/
def kMaxLowLatencyBurstWindowMs : ℚ := 1

/-- `kBlockedSendCooldownMs` -/
def kBlockedSendCooldownMs : ℚ := 1

/-- `std::clamp` -/
def clamp (value low high : ℚ) : ℚ :=
  if value < low then low else if high < value then high else value

/-- `static_cast<uint64_t>` of a rational that is at least 0 and below `2 ^ 64`. -/
def toUInt64 (value : ℚ) : UInt64 := UInt64.ofNat ⌊value⌋₊

/-! ## Rates -/

/-- `adjustedRateBps` -/
def adjustedRateBps (p : WebRtcLikePacer) (queue_bytes : ℕ) : UInt64 :=
  if !p.config_.enabled || p.config_.pacing_bps = 0 then p.config_.pacing_bps
  else
    let pacing : ℚ := p.config_.pacing_bps.toNat
    let adjusted :=
      if p.config_.queue_time_limit_ms > 0 && queue_bytes > 0 then
        max pacing ((queue_bytes * 8 * 1000) / p.config_.queue_time_limit_ms.toNat)
      else pacing
    let max_bps := pacing * p.config_.max_drain_multiplier
    let adjusted := clamp adjusted pacing max_bps
    if adjusted > (2 ^ 64 - 1 : ℕ) then UInt64.ofNat (2 ^ 64 - 1) else toUInt64 adjusted

/-- `rateBytesPerSec` -/
def rateBytesPerSec (p : WebRtcLikePacer) (queue_bytes : ℕ) : ℚ :=
  let bps := if p.adjusted_pacing_bps_ > 0 then p.adjusted_pacing_bps_
    else p.adjustedRateBps queue_bytes
  bps.toNat / 8

/-- The body of `allowedBurstBytes`, at a given rate. -/
def burstAtRate (config : PacerConfig) (bytes_per_sec : ℚ) : ℚ :=
  let burst_window_ms : ℚ := config.send_burst_interval_ms.toNat
  let burst_window_ms :=
    if config.enabled && config.pacing_bps > 0 then
      min burst_window_ms kMaxLowLatencyBurstWindowMs
    else burst_window_ms
  let interval_bytes := (bytes_per_sec * burst_window_ms) / 1000
  if config.max_burst_bytes = 0 then interval_bytes
  else min interval_bytes config.max_burst_bytes

/-- `allowedBurstBytes` -/
def allowedBurstBytes (p : WebRtcLikePacer) (queue_bytes : ℕ) : ℚ :=
  burstAtRate p.config_ (p.rateBytesPerSec queue_bytes)

/-- The body of `maxDebtBytes`, at a given rate. -/
def debtCapAtRate (config : PacerConfig) (bytes_per_sec : ℚ) : ℚ :=
  (bytes_per_sec * config.max_debt_ms.toNat) / 1000

/-- `maxDebtBytes` -/
def maxDebtBytes (p : WebRtcLikePacer) (queue_bytes : ℕ) : ℚ :=
  debtCapAtRate p.config_ (p.rateBytesPerSec queue_bytes)

/-! ## Operations -/

/-- `updateBudget` -/
def updateBudget (p : WebRtcLikePacer) (now : ℕ) (queue_bytes : ℕ) : WebRtcLikePacer :=
  if now < p.last_process_tp_ then { p with last_process_tp_ := now }
  else
    let elapsed := (now - p.last_process_tp_) / 1000
    let p := { p with
      adjusted_pacing_bps_ := p.adjustedRateBps queue_bytes
      last_process_tp_ := now }
    if elapsed ≤ 0 then p
    else
      let bytes_per_sec := p.rateBytesPerSec queue_bytes
      if bytes_per_sec ≤ 0 then { p with media_debt_bytes_ := 0 }
      else
        let elapsed_us : ℚ := min elapsed 2000000
        let debt := p.media_debt_bytes_ - (bytes_per_sec * elapsed_us) / 1000000
        { p with media_debt_bytes_ := clamp debt 0 (p.maxDebtBytes queue_bytes) }

/-- `reset`, at the clock reading `now`. -/
def reset (p : WebRtcLikePacer) (now : ℕ) : WebRtcLikePacer :=
  { p with
    media_debt_bytes_ := 0
    adjusted_pacing_bps_ := p.config_.pacing_bps
    last_process_tp_ := now
    last_send_tp_ := now }

/-- `setConfig` -/
def setConfig (p : WebRtcLikePacer) (config : PacerConfig) : WebRtcLikePacer :=
  let config := if config.max_drain_multiplier < 1 then { config with max_drain_multiplier := 1 }
    else config
  let p := { p with config_ := config }
  { p with adjusted_pacing_bps_ := p.adjustedRateBps 0 }

/-- `timeUntilNextSend`: the wait in microseconds, and the pacer. -/
def timeUntilNextSend (p : WebRtcLikePacer) (queue_bytes : ℕ) (next_packet_accounted : Bool)
    (now : ℕ) : ℤ × WebRtcLikePacer :=
  let updated := p.updateBudget now queue_bytes
  if !p.config_.enabled || p.config_.pacing_bps = 0 || !next_packet_accounted then (0, updated)
  else
    let allowed_debt := updated.allowedBurstBytes queue_bytes
    if updated.media_debt_bytes_ ≤ allowed_debt then (0, updated)
    else
      let bytes_per_sec := updated.rateBytesPerSec queue_bytes
      if bytes_per_sec ≤ 0 then (0, updated)
      else
        let wait_us := ((updated.media_debt_bytes_ - allowed_debt) * 1000000) / bytes_per_sec
        (⌈max 0 wait_us⌉, updated)

/-- `onPacketSent` -/
def onPacketSent (p : WebRtcLikePacer) (bytes : ℕ) (accounted : Bool) (queue_bytes : ℕ)
    (now : ℕ) : WebRtcLikePacer :=
  let p := p.updateBudget now queue_bytes
  let p :=
    if p.config_.enabled && p.config_.pacing_bps > 0 && accounted then
      { p with
        media_debt_bytes_ := min (p.media_debt_bytes_ + bytes) (p.maxDebtBytes queue_bytes) }
    else p
  { p with last_send_tp_ := now }

/-- `onBlocked` -/
def onBlocked (p : WebRtcLikePacer) (bytes : ℕ) (queue_bytes : ℕ) (now : ℕ) :
    WebRtcLikePacer :=
  let p := p.updateBudget now queue_bytes
  if !p.config_.enabled || p.config_.pacing_bps = 0 then { p with last_send_tp_ := now }
  else
    let bytes_per_sec := p.rateBytesPerSec queue_bytes
    let cooldown_bytes := if bytes_per_sec > 0 then (bytes_per_sec * kBlockedSendCooldownMs) / 1000
      else bytes
    let min_debt := p.allowedBurstBytes queue_bytes + max (bytes : ℚ) cooldown_bytes
    { p with
      media_debt_bytes_ :=
        clamp (max p.media_debt_bytes_ min_debt) 0 (p.maxDebtBytes queue_bytes)
      last_send_tp_ := now }

/-- `stats` -/
def stats (p : WebRtcLikePacer) (queue_bytes : ℕ) (now : ℕ) : PacerStats × WebRtcLikePacer :=
  let p := p.updateBudget now queue_bytes
  let bytes_per_sec := p.rateBytesPerSec queue_bytes
  ({ adjusted_pacing_bps := p.adjusted_pacing_bps_
     debt_us := if bytes_per_sec > 0 then
       ⌈(max 0 p.media_debt_bytes_ * 1000000) / bytes_per_sec⌉₊ else 0
     expected_queue_us := if bytes_per_sec > 0 then
       ⌈(queue_bytes * 1000000 : ℚ) / bytes_per_sec⌉₊ else 0 }, p)

/-! ## Bounds on the rate -/

theorem le_clamp {x value low high : ℚ} (hx : x ≤ max low value) (hhigh : x ≤ high) :
    x ≤ clamp value low high := by
  unfold clamp
  split_ifs with hlow htop
  · rwa [max_eq_left hlow.le] at hx
  · exact hhigh
  · rwa [max_eq_right (not_lt.mp hlow)] at hx

theorem low_le_clamp {value low high : ℚ} (h : low ≤ high) : low ≤ clamp value low high :=
  le_clamp (le_max_left _ _) h

theorem clamp_le_high {value low high : ℚ} (h : low ≤ high) : clamp value low high ≤ high := by
  unfold clamp
  split_ifs with hlow htop
  · exact h
  · exact le_rfl
  · exact not_lt.mp htop

/-- The pacer is switched on, with a multiplier as `setConfig` leaves it. -/
structure Paced (config : PacerConfig) : Prop where
  enabled : config.enabled = true
  pacing : 0 < config.pacing_bps.toNat
  multiplier : 1 ≤ config.max_drain_multiplier

/-- `pacing_bps / 8`, the rate that is configured. -/
def baseRate (config : PacerConfig) : ℚ := config.pacing_bps.toNat / 8

/-- `pacing_bps * max_drain_multiplier / 8`, the rate that the drain is limited to. -/
def drainRate (config : PacerConfig) : ℚ :=
  config.pacing_bps.toNat * config.max_drain_multiplier / 8

theorem baseRate_pos {config : PacerConfig} (h : Paced config) : 0 < baseRate config := by
  have hpacing : (0 : ℚ) < config.pacing_bps.toNat := by exact_mod_cast h.pacing
  unfold baseRate
  linarith

theorem baseRate_le_drainRate {config : PacerConfig} (h : Paced config) :
    baseRate config ≤ drainRate config := by
  have hpacing : (0 : ℚ) ≤ config.pacing_bps.toNat := Nat.cast_nonneg _
  have hscaled := mul_le_mul_of_nonneg_left h.multiplier hpacing
  unfold baseRate drainRate
  linarith

theorem pacing_ne_zero {config : PacerConfig} (h : Paced config) : config.pacing_bps ≠ 0 := by
  intro hzero
  have hpacing := h.pacing
  rw [hzero] at hpacing
  exact absurd hpacing (Nat.lt_irrefl 0)

theorem pacing_gt_zero {config : PacerConfig} (h : Paced config) : config.pacing_bps > 0 :=
  UInt64.lt_iff_toNat_lt.mpr h.pacing

theorem toNat_toUInt64 {value : ℚ} (h0 : 0 ≤ value) (h : ¬value > (2 ^ 64 - 1 : ℕ)) :
    (toUInt64 value).toNat = ⌊value⌋₊ := by
  have hfloor : (⌊value⌋₊ : ℚ) ≤ (2 ^ 64 - 1 : ℕ) := (Nat.floor_le h0).trans (not_lt.mp h)
  have hle : ⌊value⌋₊ ≤ 2 ^ 64 - 1 := by exact_mod_cast hfloor
  unfold toUInt64
  rw [UInt64.toNat_ofNat']
  omega

/-- The adjusted rate is rounded down, but not below the configured rate. -/
theorem adjustedRateBps_bounds {p : WebRtcLikePacer} (h : Paced p.config_) (queue_bytes : ℕ) :
    p.config_.pacing_bps.toNat ≤ (p.adjustedRateBps queue_bytes).toNat ∧
      ((p.adjustedRateBps queue_bytes).toNat : ℚ) ≤
        p.config_.pacing_bps.toNat * p.config_.max_drain_multiplier := by
  have hpacing : (0 : ℚ) ≤ p.config_.pacing_bps.toNat := Nat.cast_nonneg _
  have hmax : (p.config_.pacing_bps.toNat : ℚ) ≤
      p.config_.pacing_bps.toNat * p.config_.max_drain_multiplier := by
    have hscaled := mul_le_mul_of_nonneg_left h.multiplier hpacing
    linarith
  unfold adjustedRateBps
  rw [if_neg (by simp [h.enabled, pacing_ne_zero h])]
  simp only
  -- whatever the target, it is clamped between the base rate and its multiple
  generalize (if (p.config_.queue_time_limit_ms > 0 && queue_bytes > 0) = true then
    max (p.config_.pacing_bps.toNat : ℚ)
      ((queue_bytes * 8 * 1000) / p.config_.queue_time_limit_ms.toNat)
    else p.config_.pacing_bps.toNat) = target
  have hlow := @low_le_clamp target _ _ hmax
  have hhigh := @clamp_le_high target _ _ hmax
  have hnonneg := hpacing.trans hlow
  -- the cast to 64 bits saturates at the top
  split_ifs with hbig
  · have htop : (UInt64.ofNat (2 ^ 64 - 1)).toNat = 2 ^ 64 - 1 := rfl
    rw [htop]
    have hlt := p.config_.pacing_bps.toNat_lt
    exact ⟨by omega, hbig.le.trans hhigh⟩
  · rw [toNat_toUInt64 hnonneg hbig]
    exact ⟨Nat.le_floor hlow, (Nat.floor_le hnonneg).trans hhigh⟩

/-- The pacer's current rate was computed by `adjustedRateBps`, or is the configured one. -/
structure Rated (p : WebRtcLikePacer) : Prop where
  paced : Paced p.config_
  low : p.config_.pacing_bps.toNat ≤ p.adjusted_pacing_bps_.toNat
  high : (p.adjusted_pacing_bps_.toNat : ℚ) ≤
    p.config_.pacing_bps.toNat * p.config_.max_drain_multiplier

/-- The rate stays between the configured one and its drain limit. -/
theorem rate_bounds {p : WebRtcLikePacer} (h : Rated p) (queue_bytes : ℕ) :
    baseRate p.config_ ≤ p.rateBytesPerSec queue_bytes ∧
      p.rateBytesPerSec queue_bytes ≤ drainRate p.config_ := by
  have hset : p.adjusted_pacing_bps_ > 0 :=
    UInt64.lt_iff_toNat_lt.mpr (lt_of_lt_of_le h.paced.pacing h.low)
  have hlow : (p.config_.pacing_bps.toNat : ℚ) ≤ p.adjusted_pacing_bps_.toNat := by
    exact_mod_cast h.low
  have hhigh := h.high
  unfold rateBytesPerSec baseRate drainRate
  simp only [if_pos hset]
  constructor <;> linarith

theorem burstAtRate_mono (config : PacerConfig) {x y : ℚ} (hxy : x ≤ y) :
    burstAtRate config x ≤ burstAtRate config y := by
  -- the length of the window is not negative
  have hwindow : (0 : ℚ) ≤ if (config.enabled && config.pacing_bps > 0) = true then
      min (config.send_burst_interval_ms.toNat : ℚ) kMaxLowLatencyBurstWindowMs
      else config.send_burst_interval_ms.toNat := by
    have hinterval : (0 : ℚ) ≤ config.send_burst_interval_ms.toNat := Nat.cast_nonneg _
    split_ifs
    · exact le_min hinterval (by norm_num [kMaxLowLatencyBurstWindowMs])
    · exact hinterval
  have hbytes := mul_le_mul_of_nonneg_right hxy hwindow
  unfold burstAtRate
  simp only
  split_ifs at hbytes ⊢ <;> first | exact min_le_min (by linarith) le_rfl | linarith

theorem debtCapAtRate_mono (config : PacerConfig) {x y : ℚ} (hxy : x ≤ y) :
    debtCapAtRate config x ≤ debtCapAtRate config y := by
  have hms : (0 : ℚ) ≤ config.max_debt_ms.toNat := Nat.cast_nonneg _
  have hbytes := mul_le_mul_of_nonneg_right hxy hms
  unfold debtCapAtRate
  linarith

/-- An allowed burst is at most the one at the drain limit, and a debt cap is at least the
one at the configured rate. -/
theorem allowedBurstBytes_le {p : WebRtcLikePacer} (h : Rated p) (queue_bytes : ℕ) :
    p.allowedBurstBytes queue_bytes ≤ burstAtRate p.config_ (drainRate p.config_) :=
  burstAtRate_mono p.config_ (rate_bounds h queue_bytes).2

theorem le_maxDebtBytes {p : WebRtcLikePacer} (h : Rated p) (queue_bytes : ℕ) :
    debtCapAtRate p.config_ (baseRate p.config_) ≤ p.maxDebtBytes queue_bytes :=
  debtCapAtRate_mono p.config_ (rate_bounds h queue_bytes).1

/-! ## What the operations do -/

/-- A count of nanoseconds in seconds. -/
def seconds (t : ℕ) : ℚ := t / 1000000000

theorem seconds_mono {s t : ℕ} (h : s ≤ t) : seconds s ≤ seconds t := by
  have hcast : (s : ℚ) ≤ t := by exact_mod_cast h
  unfold seconds
  linarith

theorem Rated.update {p : WebRtcLikePacer} (h : Rated p) (queue_bytes : ℕ) :
    Rated { p with adjusted_pacing_bps_ := p.adjustedRateBps queue_bytes } :=
  ⟨h.paced, (adjustedRateBps_bounds h.paced queue_bytes).1,
    (adjustedRateBps_bounds h.paced queue_bytes).2⟩

/-- The elapsed time that the pacer counts is truncated to microseconds and capped, so it
is at most the time that has passed. -/
theorem counted_le_passed {last now : ℕ} (h : last ≤ now) :
    (min (((now - last) / 1000 : ℕ) : ℚ) 2000000) / 1000000 ≤ seconds now - seconds last := by
  have hcount : ((now - last) / 1000 : ℕ) * 1000 ≤ now - last := Nat.div_mul_le_self _ _
  have hcast : (((now - last) / 1000 : ℕ) : ℚ) * 1000 ≤ (now : ℚ) - last := by
    rw [← Nat.cast_sub h]
    exact_mod_cast hcount
  have hmin := min_le_left (((now - last) / 1000 : ℕ) : ℚ) 2000000
  unfold seconds
  linarith

/-- What `updateBudget` does: it keeps the configuration, keeps the rate within its bounds,
and leaves at least every `x` below the base cap that the debt covers after draining at
the drain limit since the last call. -/
theorem updateBudget_spec {p : WebRtcLikePacer} (h : Rated p) (now queue_bytes : ℕ) :
    (p.updateBudget now queue_bytes).config_ = p.config_ ∧
      Rated (p.updateBudget now queue_bytes) ∧
      (p.updateBudget now queue_bytes).last_process_tp_ = now ∧
      ∀ x, x ≤ debtCapAtRate p.config_ (baseRate p.config_) → x ≤ p.media_debt_bytes_ →
        (p.last_process_tp_ ≤ now →
          x ≤ max 0 (p.media_debt_bytes_ -
            drainRate p.config_ * (seconds now - seconds p.last_process_tp_))) →
        x ≤ (p.updateBudget now queue_bytes).media_debt_bytes_ := by
  unfold updateBudget
  by_cases hback : now < p.last_process_tp_
  · rw [if_pos hback]
    exact ⟨rfl, ⟨h.paced, h.low, h.high⟩, rfl, fun x _ hx _ => hx⟩
  · rw [if_neg hback]
    have hforward : p.last_process_tp_ ≤ now := not_lt.mp hback
    have hrated : Rated { p with
        adjusted_pacing_bps_ := p.adjustedRateBps queue_bytes
        last_process_tp_ := now } :=
      ⟨h.paced, (h.update queue_bytes).low, (h.update queue_bytes).high⟩
    obtain ⟨hbase, hlimit⟩ := rate_bounds hrated queue_bytes
    have hpositive := lt_of_lt_of_le (baseRate_pos hrated.paced) hbase
    simp only
    by_cases hnone : (now - p.last_process_tp_) / 1000 ≤ 0
    · rw [if_pos hnone]
      exact ⟨rfl, hrated, rfl, fun x _ hx _ => hx⟩
    · rw [if_neg hnone, if_neg (not_le.mpr hpositive)]
      refine ⟨rfl, ⟨hrated.paced, hrated.low, hrated.high⟩, rfl, fun x hcap _ hdrained => ?_⟩
      apply le_clamp
      · -- the pacer drains at no more than the limit, for no more than the time passed
        refine (hdrained hforward).trans (max_le_max le_rfl ?_)
        have hcounted := counted_le_passed hforward
        have hcountnonneg :
            (0 : ℚ) ≤ min (((now - p.last_process_tp_) / 1000 : ℕ) : ℚ) 2000000 / 1000000 := by
          apply div_nonneg (le_min (Nat.cast_nonneg _) _) <;> norm_num
        have hproduct := mul_le_mul hlimit hcounted hcountnonneg (hpositive.le.trans hlimit)
        have hassoc : ∀ r e : ℚ, r * e / 1000000 = r * (e / 1000000) := by
          intro r e
          ring
        rw [hassoc]
        linarith
      · exact hcap.trans (le_maxDebtBytes hrated queue_bytes)

/-- An accounted packet may go only when the debt is within the burst allowed at the
drain limit. -/
theorem debt_le_of_clear {p : WebRtcLikePacer} (h : Rated p) {queue_bytes now : ℕ}
    (hclear : (p.timeUntilNextSend queue_bytes true now).1 = 0) :
    (p.updateBudget now queue_bytes).media_debt_bytes_ ≤
      burstAtRate p.config_ (drainRate p.config_) := by
  obtain ⟨hconfig, hrated, -, -⟩ := updateBudget_spec h now queue_bytes
  have hallowed := allowedBurstBytes_le hrated queue_bytes
  have hpositive := lt_of_lt_of_le (baseRate_pos hrated.paced)
    (rate_bounds hrated queue_bytes).1
  rw [hconfig] at hallowed
  unfold timeUntilNextSend at hclear
  rw [if_neg (by simp [h.paced.enabled, pacing_ne_zero h.paced])] at hclear
  simp only at hclear
  split_ifs at hclear with hwithin hzero
  · exact hwithin.trans hallowed
  · exact absurd hzero (not_le.mpr hpositive)
  · -- a debt above the burst asks for a wait of at least one microsecond
    have hwait : 0 < ((p.updateBudget now queue_bytes).media_debt_bytes_ -
        (p.updateBudget now queue_bytes).allowedBurstBytes queue_bytes) * 1000000 /
          (p.updateBudget now queue_bytes).rateBytesPerSec queue_bytes := by
      apply div_pos _ hpositive
      linarith [not_le.mp hwithin]
    have hceil := Int.ceil_pos.mpr (lt_max_of_lt_right (b := 0) hwait)
    omega

theorem timeUntilNextSend_pacer (p : WebRtcLikePacer) (queue_bytes : ℕ) (accounted : Bool)
    (now : ℕ) :
    (p.timeUntilNextSend queue_bytes accounted now).2 = p.updateBudget now queue_bytes := by
  unfold timeUntilNextSend
  simp only
  split_ifs <;> rfl

end WebRtcLikePacer

end TeleopBridge.Udp
