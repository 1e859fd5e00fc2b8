import TeleopBridge.Udp.PacerRate
import TeleopBridge.Udp.SendQueue

/-!
# The Waits of the Pacer

What `timeUntilNextSend` asks for once the pacer is switched on, and what the sender makes of
it: whether the wait is long enough, and whether a blocked socket is waited for at all.

The clock is steady: a call is no earlier than the pacer's last one.

## Key Results

- `gate_pos_iff`: the gate is closed to an accounted packet exactly above the allowed burst.
- `wait_sufficient_iff`: the wait suffices unless it is longer than what an update can drain.
- `blocked_backs_off_iff`: when a datagram that would block is held back.
-/

namespace TeleopBridge.Udp

open Support WebRtcLikePacer

/-! ## Parameters -/

/-- The parameters `udp.pacing.*`, as the node holds them. -/
structure PacingParams where
  enabled : Bool := true
  bps : Int32 := 0
  send_burst_interval_ms : Int32 := 5
  max_burst_bytes : Int32 := 63000
  max_debt_ms : Int32 := 500
  queue_time_limit_ms : Int32 := 150
  max_drain_multiplier : ℚ := 2

/-- The pacing part of `Config::configFromRosParam`, handed on by
`makeWebRtcLikePacerConfig`. -/
def configFromRosParam (params : PacingParams) : PacerConfig where
  enabled := params.enabled
  pacing_bps := UInt64.ofNat (max 0 params.bps.toInt).toNat
  send_burst_interval_ms := UInt32.ofNat (max 0 params.send_burst_interval_ms.toInt).toNat
  max_burst_bytes := (max 0 params.max_burst_bytes.toInt).toNat
  max_debt_ms := UInt32.ofNat (max 1 params.max_debt_ms.toInt).toNat
  queue_time_limit_ms := UInt32.ofNat (max 1 params.queue_time_limit_ms.toInt).toNat
  max_drain_multiplier := max 1 params.max_drain_multiplier

/-- What the parameters leave of the values that the gate reads. -/
theorem configFromRosParam_values (params : PacingParams) :
    (configFromRosParam params).max_debt_ms.toNat = max 1 params.max_debt_ms.toInt ∧
      (configFromRosParam params).send_burst_interval_ms.toNat =
        max 0 params.send_burst_interval_ms.toInt ∧
      (configFromRosParam params).max_burst_bytes = max 0 params.max_burst_bytes.toInt := by
  have hdebt := Int32.toInt_lt params.max_debt_ms
  have hinterval := Int32.toInt_lt params.send_burst_interval_ms
  unfold configFromRosParam
  simp only [UInt32.toNat_ofNat']
  refine ⟨?_, ?_, ?_⟩ <;> omega

theorem paced_configFromRosParam {params : PacingParams} (henabled : params.enabled = true)
    (hbps : 0 < params.bps.toInt) : Paced (configFromRosParam params) where
  enabled := henabled
  pacing := by
    have hlt := Int32.toInt_lt params.bps
    unfold configFromRosParam
    simp only [UInt64.toNat_ofNat']
    omega
  multiplier := le_max_left _ _

namespace WebRtcLikePacer

variable {p : WebRtcLikePacer} {queue_bytes now : ℕ}

/-! ## One update -/

/-- The adjusted rate in bytes per second. -/
def adjustedRate (p : WebRtcLikePacer) (queue_bytes : ℕ) : ℚ :=
  (p.adjustedRateBps queue_bytes).toNat / 8

theorem adjustedRateBps_congr {q : WebRtcLikePacer} (h : q.config_ = p.config_)
    (queue_bytes : ℕ) : q.adjustedRateBps queue_bytes = p.adjustedRateBps queue_bytes := by
  unfold adjustedRateBps
  rw [h]

theorem adjustedRate_pos (h : Paced p.config_) (queue_bytes : ℕ) :
    0 < p.adjustedRate queue_bytes := by
  have hlow := (adjustedRateBps_bounds h queue_bytes).1
  have hpos : (0 : ℚ) < (p.adjustedRateBps queue_bytes).toNat := by
    exact_mod_cast h.pacing.trans_le hlow
  unfold adjustedRate
  linarith

/-- The pacer has been brought up to the time `now`, with this many bytes queued. -/
structure Current (p : WebRtcLikePacer) (queue_bytes now : ℕ) : Prop where
  paced : Paced p.config_
  rate : p.adjusted_pacing_bps_ = p.adjustedRateBps queue_bytes
  time : p.last_process_tp_ = now

theorem Current.rateBytesPerSec (h : Current p queue_bytes now) :
    p.rateBytesPerSec queue_bytes = p.adjustedRate queue_bytes := by
  unfold WebRtcLikePacer.rateBytesPerSec adjustedRate
  rw [h.rate]
  simp only
  split <;> rfl

/-- What an update does from the pacer's last call on. -/
theorem updateBudget_current (h : Paced p.config_) (htime : p.last_process_tp_ ≤ now) :
    Current (p.updateBudget now queue_bytes) queue_bytes now ∧
      (p.updateBudget now queue_bytes).config_ = p.config_ ∧
      (p.updateBudget now queue_bytes).media_debt_bytes_ =
        if (now - p.last_process_tp_) / 1000 = 0 then p.media_debt_bytes_
        else clamp (p.media_debt_bytes_ - p.adjustedRate queue_bytes *
          (min (((now - p.last_process_tp_) / 1000 : ℕ) : ℚ) 2000000 / 1000000)) 0
            (debtCapAtRate p.config_ (p.adjustedRate queue_bytes)) := by
  have hcurrent : Current { p with
      adjusted_pacing_bps_ := p.adjustedRateBps queue_bytes, last_process_tp_ := now }
      queue_bytes now := ⟨h, rfl, rfl⟩
  have hrate := hcurrent.rateBytesPerSec
  have hpos := adjustedRate_pos h queue_bytes
  have hsame : adjustedRate { p with
      adjusted_pacing_bps_ := p.adjustedRateBps queue_bytes, last_process_tp_ := now }
      queue_bytes = p.adjustedRate queue_bytes := rfl
  rw [hsame] at hrate
  unfold updateBudget
  rw [if_neg (not_lt.mpr htime)]
  simp only
  -- less than a microsecond drains nothing
  by_cases helapsed : (now - p.last_process_tp_) / 1000 = 0
  · rw [if_pos (le_of_eq helapsed), if_pos helapsed]
    exact ⟨hcurrent, rfl, rfl⟩
  · rw [if_neg (by omega), if_neg helapsed, hrate, if_neg (not_le.mpr hpos)]
    refine ⟨⟨h, rfl, rfl⟩, rfl, ?_⟩
    simp only
    unfold maxDebtBytes
    rw [hrate, mul_div_assoc]

/-- An update at the time of the last one changes nothing. -/
theorem Current.updateBudget (h : Current p queue_bytes now) :
    p.updateBudget now queue_bytes = p := by
  unfold WebRtcLikePacer.updateBudget
  rw [h.time, if_neg (lt_irrefl now), Nat.sub_self]
  simp only
  rw [if_pos (by decide)]
  -- the rate and the time it stores are those it has
  obtain ⟨config, debt, rate, process, send⟩ := p
  have hrate := h.rate
  have htime := h.time
  simp only at hrate htime
  rw [htime]
  congr 1
  exact hrate.symm

/-! ## The gate -/

/-- The allowed burst at the adjusted rate. -/
def burst (p : WebRtcLikePacer) (queue_bytes : ℕ) : ℚ :=
  burstAtRate p.config_ (p.adjustedRate queue_bytes)

/-- The cap of the debt at the adjusted rate. -/
def debtCap (p : WebRtcLikePacer) (queue_bytes : ℕ) : ℚ :=
  debtCapAtRate p.config_ (p.adjustedRate queue_bytes)

theorem burst_nonneg (h : Paced p.config_) (queue_bytes : ℕ) : 0 ≤ p.burst queue_bytes :=
  burstAtRate_nonneg _ (adjustedRate_pos h queue_bytes).le

/-- The wait for an accounted packet, from a pacer that is up to date. -/
theorem Current.gate (h : Current p queue_bytes now) :
    p.timeUntilNextSend queue_bytes true now =
      (if p.media_debt_bytes_ ≤ p.burst queue_bytes then 0
        else ⌈(p.media_debt_bytes_ - p.burst queue_bytes) * 1000000 /
          p.adjustedRate queue_bytes⌉, p) := by
  have hpos := adjustedRate_pos h.paced queue_bytes
  unfold timeUntilNextSend
  rw [if_neg (by simp [h.paced.enabled, pacing_ne_zero h.paced]), h.updateBudget]
  simp only
  unfold allowedBurstBytes
  rw [h.rateBytesPerSec]
  -- within the burst there is no wait; above it the wait is what the excess takes to drain
  by_cases hwithin : p.media_debt_bytes_ ≤ p.burst queue_bytes
  · rw [if_pos hwithin]
    exact if_pos hwithin
  · have hexcess : 0 ≤ (p.media_debt_bytes_ - p.burst queue_bytes) * 1000000 /
        p.adjustedRate queue_bytes := by
      apply div_nonneg _ hpos.le
      linarith [not_le.mp hwithin]
    rw [if_neg hwithin]
    unfold burst at hwithin hexcess ⊢
    rw [if_neg hwithin, if_neg (not_le.mpr hpos), max_eq_right hexcess]

theorem Current.gate_pos_iff (h : Current p queue_bytes now) :
    0 < (p.timeUntilNextSend queue_bytes true now).1 ↔
      p.burst queue_bytes < p.media_debt_bytes_ := by
  rw [h.gate]
  simp only
  split_ifs with hwithin
  · exact iff_of_false (lt_irrefl 0) (not_lt.mpr hwithin)
  · refine iff_of_true (Int.ceil_pos.mpr (div_pos ?_ (adjustedRate_pos h.paced queue_bytes)))
      (not_le.mp hwithin)
    linarith [not_le.mp hwithin]

/-- The gate at a time no earlier than the last call. -/
theorem timeUntilNextSend_update (h : Paced p.config_) (htime : p.last_process_tp_ ≤ now)
    (accounted : Bool) :
    p.timeUntilNextSend queue_bytes accounted now =
      (p.updateBudget now queue_bytes).timeUntilNextSend queue_bytes accounted now := by
  obtain ⟨hcurrent, hconfig, -⟩ := @updateBudget_current p queue_bytes now h htime
  have htwice := hcurrent.updateBudget
  conv_rhs => unfold timeUntilNextSend
  unfold timeUntilNextSend
  simp only
  rw [htwice, hconfig]

theorem burst_update (h : Paced p.config_) (htime : p.last_process_tp_ ≤ now) :
    (p.updateBudget now queue_bytes).adjustedRate queue_bytes = p.adjustedRate queue_bytes ∧
      (p.updateBudget now queue_bytes).burst queue_bytes = p.burst queue_bytes ∧
      (p.updateBudget now queue_bytes).debtCap queue_bytes = p.debtCap queue_bytes := by
  obtain ⟨-, hconfig, -⟩ := @updateBudget_current p queue_bytes now h htime
  -- the rate depends on the configuration and the queue, not on the debt
  have hrate : (p.updateBudget now queue_bytes).adjustedRate queue_bytes =
      p.adjustedRate queue_bytes := by
    unfold adjustedRate
    rw [adjustedRateBps_congr hconfig]
  unfold burst debtCap
  rw [hrate, hconfig]
  exact ⟨rfl, rfl, rfl⟩

theorem Current.gate_zero_iff (h : Current p queue_bytes now) :
    (p.timeUntilNextSend queue_bytes true now).1 = 0 ↔
      p.media_debt_bytes_ ≤ p.burst queue_bytes := by
  rw [h.gate]
  simp only
  split_ifs with hwithin
  · exact iff_of_true rfl hwithin
  · -- an excess takes some time to drain
    have hwait : 0 < (p.media_debt_bytes_ - p.burst queue_bytes) * 1000000 /
        p.adjustedRate queue_bytes := by
      apply div_pos _ (adjustedRate_pos h.paced queue_bytes)
      linarith [not_le.mp hwithin]
    exact iff_of_false (Int.ceil_pos.mpr hwait).ne' hwithin

theorem clamp_le_iff {value high bound : ℚ} (hbound : 0 ≤ bound) :
    clamp value 0 high ≤ bound ↔ value ≤ bound ∨ high ≤ bound := by
  unfold clamp
  split_ifs with hlow hhigh
  · exact iff_of_true hbound (.inl (hlow.le.trans hbound))
  · exact ⟨.inr, fun h => h.elim hhigh.le.trans id⟩
  · exact ⟨.inl, fun h => h.elim id (not_lt.mp hhigh).trans⟩

/-- A wait of `wait` microseconds is long enough, unless it is longer than the 2 seconds that
an update counts at most and the debt can stay above the burst. -/
theorem wait_suffices_iff (h : Paced p.config_) (htime : p.last_process_tp_ ≤ now) {wait : ℕ}
    (hwait : (p.timeUntilNextSend queue_bytes true now).1 = wait) (hpos : 0 < wait) :
    ((p.timeUntilNextSend queue_bytes true now).2.timeUntilNextSend queue_bytes true
        (now + 1000 * wait)).1 = 0 ↔
      wait ≤ 2000000 ∨ p.debtCap queue_bytes ≤ p.burst queue_bytes := by
  obtain ⟨hcurrent, hconfig, -⟩ := @updateBudget_current p queue_bytes now h htime
  obtain ⟨hrate, hburst, hcap⟩ := @burst_update p queue_bytes now h htime
  rw [timeUntilNextSend_pacer]
  rw [timeUntilNextSend_update h htime, hcurrent.gate] at hwait
  generalize p.updateBudget now queue_bytes = first at *
  have hfirst : Paced first.config_ := hcurrent.paced
  have hlater : first.last_process_tp_ ≤ now + 1000 * wait := by
    rw [hcurrent.time]
    exact Nat.le_add_right _ _
  obtain ⟨hsecond, -, hdebt⟩ := @updateBudget_current first queue_bytes _ hfirst hlater
  obtain ⟨-, hburst', -⟩ := @burst_update first queue_bytes _ hfirst hlater
  have helapsed : (now + 1000 * wait - first.last_process_tp_) / 1000 = wait := by
    rw [hcurrent.time]
    omega
  rw [helapsed, if_neg hpos.ne', hrate] at hdebt
  have hcap' : debtCapAtRate first.config_ (p.adjustedRate queue_bytes) =
      p.debtCap queue_bytes := by
    rw [← hrate]
    exact hcap
  rw [timeUntilNextSend_update hfirst hlater, hsecond.gate_zero_iff, hdebt, hburst', hburst, hcap',
    clamp_le_iff (burst_nonneg h queue_bytes)]
  refine or_congr_left ?_
  have hR := adjustedRate_pos h queue_bytes
  -- the wait is the excess at the adjusted rate, rounded up
  rw [hburst, hrate] at hwait
  have hexcess : first.media_debt_bytes_ ≤ p.burst queue_bytes + p.adjustedRate queue_bytes *
      (((wait : ℕ) : ℚ) / 1000000) := by
    split_ifs at hwait with hwithin
    · exact absurd hwait (by omega)
    · have hceil := Int.le_ceil ((first.media_debt_bytes_ - p.burst queue_bytes) * 1000000 /
        p.adjustedRate queue_bytes)
      simp only at hwait
      rw [hwait, div_le_iff₀ hR] at hceil
      push_cast at hceil
      linarith
  rcases Nat.lt_or_ge 2000000 wait with hlong | hle
  · have hcast : (2000000 : ℚ) ≤ wait := by exact_mod_cast hlong.le
    refine iff_of_false ?_ (not_le.mpr hlong)
    rw [min_eq_right hcast, not_le]
    split_ifs at hwait with hwithin
    · exact absurd hwait (by omega)
    · have hceil : ((2000000 : ℤ) : ℚ) < (first.media_debt_bytes_ - p.burst queue_bytes) *
          1000000 / p.adjustedRate queue_bytes := by
        rw [← Int.lt_ceil]
        simp only at hwait
        rw [hwait]
        exact_mod_cast hlong
      rw [lt_div_iff₀ hR] at hceil
      push_cast at hceil
      linarith
  · have hcast : (wait : ℚ) ≤ 2000000 := by exact_mod_cast hle
    refine iff_of_true ?_ hle
    rw [min_eq_left hcast]
    linarith

/-! ## A blocked socket -/

/-- The bytes of the burst window, which the low-latency clamp holds to 1 ms of the rate. -/
def windowBytes (config : PacerConfig) (rate : ℚ) : ℚ :=
  if config.send_burst_interval_ms.toNat = 0 then 0 else rate / 1000

theorem burstAtRate_eq {config : PacerConfig} (h : Paced config) (rate : ℚ) :
    burstAtRate config rate =
      if config.max_burst_bytes = 0 then windowBytes config rate
      else min (windowBytes config rate) config.max_burst_bytes := by
  have hon : (config.enabled && config.pacing_bps > 0) = true := by
    rw [h.enabled, Bool.true_and, decide_eq_true_eq]
    exact pacing_gt_zero h
  -- the window is cut to a millisecond, unless it is zero
  have hwindow : rate * min (config.send_burst_interval_ms.toNat : ℚ)
      kMaxLowLatencyBurstWindowMs / 1000 = windowBytes config rate := by
    unfold kMaxLowLatencyBurstWindowMs windowBytes
    by_cases hzero : config.send_burst_interval_ms.toNat = 0
    · rw [if_pos hzero, hzero, Nat.cast_zero, min_eq_left zero_le_one, mul_zero, zero_div]
    · have hone : (1 : ℚ) ≤ config.send_burst_interval_ms.toNat := by
        exact_mod_cast Nat.one_le_iff_ne_zero.mpr hzero
      rw [if_neg hzero, min_eq_right hone, mul_one]
  unfold burstAtRate
  simp only
  rw [if_pos hon, hwindow]

theorem windowBytes_lt {config : PacerConfig} {rate : ℚ} (hrate : 0 < rate) :
    windowBytes config rate ≤ rate / 1000 ∧
      (windowBytes config rate < rate / 1000 ↔ config.send_burst_interval_ms.toNat = 0) := by
  have hpos : 0 < rate / 1000 := by linarith
  unfold windowBytes
  by_cases hzero : config.send_burst_interval_ms.toNat = 0
  · rw [if_pos hzero]
    exact ⟨hpos.le, iff_of_true hpos hzero⟩
  · rw [if_neg hzero]
    exact ⟨le_rfl, iff_of_false (lt_irrefl _) hzero⟩

/-- The burst stays below the cap of the debt. -/
theorem burst_lt_debtCap_iff {config : PacerConfig} (h : Paced config) {rate : ℚ}
    (hrate : 0 < rate) (hdebt : 1 ≤ config.max_debt_ms.toNat) :
    burstAtRate config rate < debtCapAtRate config rate ↔
      2 ≤ config.max_debt_ms.toNat ∨ config.send_burst_interval_ms.toNat = 0 ∨
        0 < config.max_burst_bytes ∧ (config.max_burst_bytes : ℚ) < rate / 1000 := by
  obtain ⟨hle, hlt⟩ := @windowBytes_lt config rate hrate
  have hburst : burstAtRate config rate ≤ rate / 1000 := by
    rw [burstAtRate_eq h]
    split
    · exact hle
    · exact (min_le_left _ _).trans hle
  unfold debtCapAtRate
  rcases Nat.lt_or_ge 1 config.max_debt_ms.toNat with htwo | hone
  · -- the cap is that of 2 ms or more, the burst that of 1 ms
    have hcast : (2 : ℚ) ≤ config.max_debt_ms.toNat := by exact_mod_cast htwo
    have hscaled := mul_le_mul_of_nonneg_left hcast hrate.le
    refine iff_of_true (hburst.trans_lt ?_) (.inl htwo)
    linarith
  · have hms : config.max_debt_ms.toNat = 1 := le_antisymm hone hdebt
    rw [hms, Nat.cast_one, mul_one, burstAtRate_eq h]
    by_cases hlimit : config.max_burst_bytes = 0
    · rw [if_pos hlimit, hlt]
      constructor
      · exact fun hzero => .inr (.inl hzero)
      · rintro (htwo | hzero | ⟨hpos, -⟩)
        · omega
        · exact hzero
        · omega
    · rw [if_neg hlimit, min_lt_iff, hlt]
      constructor
      · rintro (hzero | hless)
        · exact .inr (.inl hzero)
        · exact .inr (.inr ⟨Nat.pos_of_ne_zero hlimit, hless⟩)
      · rintro (htwo | hzero | ⟨-, hless⟩)
        · omega
        · exact .inl hzero
        · exact .inr hless

/-- What `onBlocked` leaves: a debt above the burst, unless the cap is not. -/
theorem onBlocked_spec (h : Paced p.config_) (htime : p.last_process_tp_ ≤ now) (bytes : ℕ) :
    Current (p.onBlocked bytes queue_bytes now) queue_bytes now ∧
      (p.onBlocked bytes queue_bytes now).config_ = p.config_ ∧
      (p.burst queue_bytes < (p.onBlocked bytes queue_bytes now).media_debt_bytes_ ↔
        p.burst queue_bytes < p.debtCap queue_bytes) := by
  obtain ⟨hcurrent, hconfig, -⟩ := @updateBudget_current p queue_bytes now h htime
  obtain ⟨hrate, hburst, hcap⟩ := @burst_update p queue_bytes now h htime
  unfold onBlocked
  simp only
  generalize p.updateBudget now queue_bytes = first at *
  have hR := adjustedRate_pos hcurrent.paced queue_bytes
  rw [if_neg (by simp [hcurrent.paced.enabled, pacing_ne_zero hcurrent.paced])]
  refine ⟨⟨hcurrent.paced, hcurrent.rate, hcurrent.time⟩, hconfig, ?_⟩
  unfold allowedBurstBytes maxDebtBytes
  rw [hcurrent.rateBytesPerSec, if_pos hR]
  change p.burst queue_bytes < clamp (max first.media_debt_bytes_
    (first.burst queue_bytes + max (bytes : ℚ) _)) 0 (first.debtCap queue_bytes) ↔ _
  rw [hburst, hcap, ← not_le, clamp_le_iff (burst_nonneg h queue_bytes), not_or, not_le, not_le]
  refine and_iff_right (lt_max_of_lt_right ?_)
  -- the cooldown alone raises the debt above the burst
  have hcooldown : 0 < first.adjustedRate queue_bytes * kBlockedSendCooldownMs / 1000 := by
    unfold kBlockedSendCooldownMs
    linarith
  have hraise := lt_max_of_lt_right hcooldown (b := (bytes : ℚ))
  linarith

end WebRtcLikePacer

/-- What the send thread does with an item whose send would block, and its next gate for that
item. `config_.pacing_enabled` is the pacer's own `enabled`. -/
def gateAfterBlocked (q : SendQueue) (p : WebRtcLikePacer) (item : QueueItem) (now : ℕ) : ℤ :=
  let q := q.requeueFront item
  let queue_bytes := q.status.bytes
  let p := p.onBlocked item.wire_bytes queue_bytes now
  let p := (p.stats queue_bytes now).2
  (p.timeUntilNextSend queue_bytes (item.pacing_accounted && p.config_.enabled) now).1

section

variable {params : PacingParams} {p : WebRtcLikePacer} {now : ℕ}

/-- The send thread waits for a datagram that would block exactly if the datagram is accounted
and the cap of the debt leaves room above the burst. -/
theorem blocked_backs_off_iff (henabled : params.enabled = true) (hbps : 0 < params.bps.toInt)
    (hconfig : p.config_ = configFromRosParam params) (htime : p.last_process_tp_ ≤ now)
    (q : SendQueue) (item : QueueItem) :
    0 < gateAfterBlocked q p item now ↔
      item.pacing_accounted = true ∧
        (2 ≤ params.max_debt_ms.toInt ∨ params.send_burst_interval_ms.toInt ≤ 0 ∨
          0 < params.max_burst_bytes.toInt ∧ params.max_burst_bytes.toInt * 8000 <
            (p.adjustedRateBps (q.requeueFront item).status.bytes).toNat) := by
  have hpaced : Paced p.config_ := hconfig ▸ paced_configFromRosParam henabled hbps
  obtain ⟨hmax, hinterval, hlimit⟩ := configFromRosParam_values params
  unfold gateAfterBlocked
  simp only
  generalize (q.requeueFront item).status.bytes = queue_bytes
  obtain ⟨hcurrent, hsame, hraised⟩ :=
    @onBlocked_spec p queue_bytes now hpaced htime item.wire_bytes
  -- at one and the same time the statistics leave the pacer as it is
  have hstats : ((p.onBlocked item.wire_bytes queue_bytes now).stats queue_bytes now).2 =
      p.onBlocked item.wire_bytes queue_bytes now := hcurrent.updateBudget
  have hburst : (p.onBlocked item.wire_bytes queue_bytes now).burst queue_bytes =
      p.burst queue_bytes := by
    unfold burst adjustedRate
    rw [adjustedRateBps_congr hsame, hsame]
  rw [hstats, hsame, hpaced.enabled, Bool.and_true]
  cases haccounted : item.pacing_accounted with
  | false =>
    have hgate : ((p.onBlocked item.wire_bytes queue_bytes now).timeUntilNextSend queue_bytes
        false now).1 = 0 := by
      unfold timeUntilNextSend
      rw [if_pos (by simp)]
    rw [hgate]
    simp
  | true =>
    have hrate := adjustedRate_pos hpaced queue_bytes
    rw [hcurrent.gate_pos_iff, hburst, hraised, and_iff_right rfl]
    unfold burst debtCap
    rw [burst_lt_debtCap_iff hpaced hrate (by rw [hconfig]; omega), hconfig]
    refine or_congr (by omega) (or_congr (by omega) ?_)
    -- `max_burst_bytes` against 1 ms of the rate
    generalize (configFromRosParam params).max_burst_bytes = limit at hlimit
    have hscaled : (limit : ℚ) < p.adjustedRate queue_bytes / 1000 ↔
        (limit : ℤ) * 8000 < (p.adjustedRateBps queue_bytes).toNat := by
      unfold adjustedRate
      rw [lt_div_iff₀ (by norm_num), lt_div_iff₀ (by norm_num), mul_assoc]
      norm_num
      exact_mod_cast Iff.rfl
    rw [hscaled]
    omega

/-- A datagram of 1200 bytes at 1 Mbit/s, with the defaults otherwise. -/
theorem blocked_backs_off_iff_default :
    0 < gateAfterBlocked {} { config_ := configFromRosParam { bps := 1000000 } }
      { wire_bytes := 1200 } 0 :=
  (blocked_backs_off_iff rfl (by decide) rfl le_rfl _ _).mpr ⟨rfl, .inl (by decide)⟩

/-- The gate stays open for an unaccounted datagram with the defaults, and for an accounted one
where `max_debt_ms` is 1. -/
theorem blocked_spun_on :
    gateAfterBlocked {} { config_ := configFromRosParam { bps := 1000000 } }
        { stream := .Audio, pacing_accounted := false, wire_bytes := 200 } 0 = 0 ∧
      gateAfterBlocked {} { config_ := configFromRosParam { bps := 1000000, max_debt_ms := 1 } }
        { wire_bytes := 1200 } 0 = 0 := by
  decide +kernel

/-- A wait is long enough exactly if it is at most the 2 seconds that one update counts, or the
debt cannot exceed the burst at all. -/
theorem wait_sufficient_iff (henabled : params.enabled = true) (hbps : 0 < params.bps.toInt)
    (hconfig : p.config_ = configFromRosParam params) (htime : p.last_process_tp_ ≤ now)
    (queue_bytes : ℕ) {wait : ℕ}
    (hwait : (p.timeUntilNextSend queue_bytes true now).1 = wait) (hpos : 0 < wait) :
    ((p.timeUntilNextSend queue_bytes true now).2.timeUntilNextSend queue_bytes true
        (now + 1000 * wait)).1 = 0 ↔
      wait ≤ 2000000 ∨ p.debtCap queue_bytes ≤ p.burst queue_bytes :=
  wait_suffices_iff (hconfig ▸ paced_configFromRosParam henabled hbps) htime hwait hpos

/-- A pacer that is configured at time 0. -/
def configured (params : PacingParams) : WebRtcLikePacer :=
  (({} : WebRtcLikePacer).setConfig (configFromRosParam params)).reset 0

/-- It has sent one datagram of 1200 bytes. -/
def sentOnce (params : PacingParams) : WebRtcLikePacer :=
  ((configured params).timeUntilNextSend 0 true 0).2.onPacketSent 1200 true 0 0

/-- At 1 Mbit/s the wait after one datagram is 8.6 ms. -/
theorem wait_sufficient_iff_default :
    (((sentOnce { bps := 1000000 }).timeUntilNextSend 0 true 0).2.timeUntilNextSend 0 true
      (0 + 1000 * 8600)).1 = 0 := by
  have hconfig : (sentOnce { bps := 1000000 }).config_ = configFromRosParam { bps := 1000000 } := by
    decide +kernel
  have htime : (sentOnce { bps := 1000000 }).last_process_tp_ ≤ 0 := by decide +kernel
  have hwait : ((sentOnce { bps := 1000000 }).timeUntilNextSend 0 true 0).1 = (8600 : ℕ) := by
    decide +kernel
  exact (wait_sufficient_iff rfl (by decide) hconfig htime 0 hwait (by decide)).mpr
    (.inl (by decide))

/-- At 8 bit/s with 10 s of debt the wait is 10 s less 1 ms, of which 2 s count. -/
theorem wait_too_short :
    Built (sentOnce { bps := 8, max_debt_ms := 10000 }) ∧
      ((sentOnce { bps := 8, max_debt_ms := 10000 }).timeUntilNextSend 0 true 0).1 = 9999000 ∧
      0 < (((sentOnce { bps := 8, max_debt_ms := 10000 }).timeUntilNextSend 0 true 0).2
        |>.timeUntilNextSend 0 true (1000 * 9999000)).1 := by
  refine ⟨?_, by decide +kernel, by decide +kernel⟩
  have hstart : Built (configured { bps := 8, max_debt_ms := 10000 }) :=
    .reset 0 (.setConfig _ (.fresh 0))
  have hclear : Built ((configured { bps := 8, max_debt_ms := 10000 }).timeUntilNextSend 0
      true 0).2 :=
    @Built.call { pacer := configured { bps := 8, max_debt_ms := 10000 } }
      { pacer := _, cleared := true } 1200 ⟨0, .timeUntilNextSend 0 true⟩ hstart
      (by decide +kernel)
  exact @Built.call { pacer := _, cleared := true } { pacer := _ } 1200
    ⟨0, .onPacketSent 1200 true 0⟩ hclear (by decide +kernel)

end

end TeleopBridge.Udp
