import TeleopBridge.Support.LeakyBucket
import TeleopBridge.Support.Transition
import TeleopBridge.Udp.Pacer

/-!
# The Rate Bound of the Pacer

A bucket that drains at the drain limit shadows the debt of the pacer: it is filled by
accounted packets only, so whatever else raises the debt, and however the debt is clamped,
the bucket stays below it.

## Key Result

`pacer_rate_bound`: the accounted bytes of every time window are at most what the drain
limit allows in the window, one burst and one packet.
-/

namespace TeleopBridge.Udp

open Support WebRtcLikePacer

/-! ## Runs -/

/-- A call of a public function of the pacer. -/
inductive PacerOp where
  | timeUntilNextSend (queue_bytes : ℕ) (next_packet_accounted : Bool)
  | onPacketSent (bytes : ℕ) (accounted : Bool) (queue_bytes : ℕ)
  | onBlocked (bytes queue_bytes : ℕ)
  | stats (queue_bytes : ℕ)
deriving DecidableEq, Repr

/-- A call and the time it is given. -/
structure PacerCall where
  now : ℕ
  op : PacerOp
deriving DecidableEq, Repr

/-- The pacer, whether a `timeUntilNextSend` for an accounted packet has returned 0 since
the last accounted packet, and the time of the last call. -/
structure PacerRun where
  pacer : WebRtcLikePacer
  cleared : Bool := false
  now : ℕ := 0
deriving DecidableEq, Repr

namespace PacerRun

/-- One call, no earlier than the one before. An accounted packet is of at most `maxPacket`
bytes and waits for its clearance. -/
def step (maxPacket : ℕ) (r : PacerRun) (call : PacerCall) : Option PacerRun :=
  if call.now < r.now then none
  else
    match call.op with
    | .timeUntilNextSend queue_bytes accounted =>
        let result := r.pacer.timeUntilNextSend queue_bytes accounted call.now
        some { pacer := result.2
               cleared := r.cleared || (accounted && result.1 = 0)
               now := call.now }
    | .onPacketSent bytes accounted queue_bytes =>
        if accounted && (!r.cleared || decide (maxPacket < bytes)) then none
        else some { pacer := r.pacer.onPacketSent bytes accounted queue_bytes call.now
                    cleared := r.cleared && !accounted
                    now := call.now }
    | .onBlocked bytes queue_bytes =>
        some { r with pacer := r.pacer.onBlocked bytes queue_bytes call.now, now := call.now }
    | .stats queue_bytes =>
        some { r with pacer := (r.pacer.stats queue_bytes call.now).2, now := call.now }

end PacerRun

/-- The accounted bytes that a call sends. -/
def PacerCall.accountedBytes (call : PacerCall) : ℕ :=
  match call.op with
  | .onPacketSent bytes true _ => bytes
  | _ => 0

/-- The accounted bytes sent between the times `a` and `c`, in seconds. -/
def sentBetween (a c : ℚ) (calls : List PacerCall) : ℕ :=
  ((calls.filter fun call => decide (a ≤ seconds call.now) && decide (seconds call.now ≤ c)).map
    PacerCall.accountedBytes).sum

/-- What a call pours into the bucket. -/
def PacerCall.arrival (call : PacerCall) : Arrival ℚ where
  time := seconds call.now
  amount := call.accountedBytes

theorem arrived_eq_sentBetween (a c : ℚ) (calls : List PacerCall) :
    Bucket.arrived a c (calls.map PacerCall.arrival) = sentBetween a c calls := by
  unfold sentBetween
  induction calls with
  | nil => simp [Bucket.arrived]
  | cons call calls ih =>
    rw [List.map_cons, List.filter_cons]
    -- a call inside the window counts its bytes in both sums
    by_cases hin : a ≤ seconds call.now ∧ seconds call.now ≤ c
    · rw [Bucket.arrived_cons_in _ hin.1 hin.2, ih, if_pos (by simp [hin]), List.map_cons,
        List.sum_cons, Nat.cast_add]
      rfl
    · rw [Bucket.arrived_cons_out _ hin, ih, if_neg (by simpa using hin)]

/-! ## The shadow -/

/-- What the pacer and the bucket have in common between calls: `burst` is the largest
allowed burst and `maxPacket` the largest accounted packet. -/
structure Shadowed (config : PacerConfig) (maxPacket : ℕ) (r : PacerRun) (b : Bucket ℚ) : Prop where
  config_eq : r.pacer.config_ = config
  rated : Rated r.pacer
  level_nonneg : 0 ≤ b.level
  level_le_debt : b.level ≤ r.pacer.media_debt_bytes_
  level_le : b.level ≤ burstAtRate config (drainRate config) + maxPacket
  cleared : r.cleared = true → b.level ≤ burstAtRate config (drainRate config)
  behind : b.time ≤ seconds r.pacer.last_process_tp_
  time_le : b.time ≤ seconds r.now

variable {config : PacerConfig} {maxPacket : ℕ} {r : PacerRun} {b : Bucket ℚ}

/-- The debt cap at the configured rate has room for a burst and a packet. -/
def RoomForBurst (config : PacerConfig) (maxPacket : ℕ) : Prop :=
  burstAtRate config (drainRate config) + maxPacket ≤ debtCapAtRate config (baseRate config)

/-- The bucket at a later time, with nothing new in it. -/
def drained (config : PacerConfig) (b : Bucket ℚ) (now : ℕ) : Bucket ℚ :=
  Bucket.fill (drainRate config) b ⟨seconds now, 0⟩

theorem drained_level_le (h : Shadowed config maxPacket r b) {now : ℕ} (hnow : r.now ≤ now) :
    0 ≤ (drained config b now).level ∧ (drained config b now).level ≤ b.level ∧
      (drained config b now).level =
        max 0 (b.level - drainRate config * (seconds now - b.time)) := by
  have hpaced : Paced config := h.config_eq ▸ h.rated.paced
  have hrate : 0 ≤ drainRate config :=
    (baseRate_pos hpaced).le.trans (baseRate_le_drainRate hpaced)
  -- time has not gone back, so the bucket can only have leaked
  have hpassed : 0 ≤ seconds now - b.time :=
    sub_nonneg.mpr (h.time_le.trans (seconds_mono hnow))
  have hleak := mul_nonneg hrate hpassed
  have heq : (drained config b now).level =
      max 0 (b.level - drainRate config * (seconds now - b.time)) := add_zero _
  refine ⟨?_, ?_, heq⟩
  · rw [heq]
    exact le_max_left _ _
  · rw [heq]
    exact max_le h.level_nonneg (by linarith)

/-- After the budget update that every call begins with, the drained bucket is still below
the debt. -/
theorem Shadowed.update (h : Shadowed config maxPacket r b) (hroom : RoomForBurst config maxPacket)
    {now : ℕ} (hnow : r.now ≤ now) (queue_bytes : ℕ) :
    Shadowed config maxPacket { r with pacer := r.pacer.updateBudget now queue_bytes, now := now }
      (drained config b now) := by
  obtain ⟨hconfig, hrated, hlast, hdebt⟩ := updateBudget_spec h.rated now queue_bytes
  obtain ⟨hnonneg, hle, heq⟩ := drained_level_le h hnow
  have hpaced : Paced config := h.config_eq ▸ h.rated.paced
  have hrate : 0 ≤ drainRate config :=
    (baseRate_pos hpaced).le.trans (baseRate_le_drainRate hpaced)
  rw [h.config_eq] at hdebt
  exact {
    config_eq := hconfig.trans h.config_eq
    rated := hrated
    level_nonneg := hnonneg
    level_le_debt := by
      apply hdebt
      · exact (hle.trans h.level_le).trans hroom
      · exact hle.trans h.level_le_debt
      · intro _
        rw [heq]
        apply max_le_max le_rfl
        -- the pacer drains for no longer than the bucket leaks
        have hshorter : drainRate config * (seconds now - seconds r.pacer.last_process_tp_) ≤
            drainRate config * (seconds now - b.time) :=
          mul_le_mul_of_nonneg_left (by linarith [h.behind]) hrate
        linarith [h.level_le_debt]
    level_le := hle.trans h.level_le
    cleared := fun hclear => hle.trans (h.cleared hclear)
    behind := by
      rw [hlast]
      exact le_rfl
    time_le := le_rfl }

/-- A call that leaves at least the bucket's level of debt keeps the bucket below it. -/
theorem Shadowed.raise (h : Shadowed config maxPacket r b) {p : WebRtcLikePacer}
    (hconfig : p.config_ = r.pacer.config_)
    (hrate : p.adjusted_pacing_bps_ = r.pacer.adjusted_pacing_bps_)
    (hlast : p.last_process_tp_ = r.pacer.last_process_tp_)
    (hdebt : b.level ≤ p.media_debt_bytes_) :
    Shadowed config maxPacket { r with pacer := p } b where
  config_eq := hconfig.trans h.config_eq
  -- a send or a block changes the debt alone
  rated := by
    refine ⟨hconfig ▸ h.rated.paced, ?_, ?_⟩
    · rw [hconfig, hrate]
      exact h.rated.low
    · rw [hconfig, hrate]
      exact h.rated.high
  level_nonneg := h.level_nonneg
  level_le_debt := hdebt
  level_le := h.level_le
  cleared := h.cleared
  behind := by
    rw [hlast]
    exact h.behind
  time_le := h.time_le

theorem fill_arrival (config : PacerConfig) (b : Bucket ℚ) (call : PacerCall) :
    Bucket.fill (drainRate config) b call.arrival =
      { drained config b call.now with
        level := (drained config b call.now).level + call.accountedBytes } := by
  unfold drained Bucket.fill PacerCall.arrival
  simp

/-- A call that sends nothing accounted only drains the bucket. -/
theorem fill_arrival_of_zero {call : PacerCall} (h : call.accountedBytes = 0) :
    Bucket.fill (drainRate config) b call.arrival = drained config b call.now := by
  rw [fill_arrival, h]
  simp

/-- One call keeps the bucket below the debt. -/
theorem Shadowed.step (h : Shadowed config maxPacket r b) (hroom : RoomForBurst config maxPacket)
    {call : PacerCall} {r' : PacerRun} (hstep : r.step maxPacket call = some r') :
    Shadowed config maxPacket r' (Bucket.fill (drainRate config) b call.arrival) := by
  obtain ⟨now, op⟩ := call
  unfold PacerRun.step at hstep
  simp only at hstep
  split_ifs at hstep with hearly
  have hnow : r.now ≤ now := not_lt.mp hearly
  have hpaced := h.rated.paced
  have hon : (r.pacer.config_.enabled && r.pacer.config_.pacing_bps > 0) = true := by
    simp [hpaced.enabled, pacing_gt_zero hpaced]
  cases op with
  | timeUntilNextSend queue_bytes accounted =>
    cases hstep
    rw [fill_arrival_of_zero rfl, timeUntilNextSend_pacer]
    have hupdate := h.update hroom hnow queue_bytes
    refine { hupdate with cleared := fun hclear => ?_ }
    rcases Bool.or_eq_true _ _ ▸ hclear with hold | hnew
    · exact hupdate.cleared hold
    · -- this call gave the clearance: the debt itself is within the burst
      simp only [Bool.and_eq_true, decide_eq_true_eq] at hnew
      have hwait := hnew.2
      rw [hnew.1] at hwait
      have hdebt := debt_le_of_clear h.rated hwait
      rw [h.config_eq] at hdebt
      exact hupdate.level_le_debt.trans hdebt
  | onPacketSent bytes accounted queue_bytes =>
    simp only at hstep
    split_ifs at hstep with hguard
    cases hstep
    have hupdate := h.update hroom hnow queue_bytes
    have hconfig : (r.pacer.updateBudget now queue_bytes).config_ = r.pacer.config_ :=
      hupdate.config_eq.trans h.config_eq.symm
    cases accounted with
    | false =>
      have hsent : r.pacer.onPacketSent bytes false queue_bytes now =
          { r.pacer.updateBudget now queue_bytes with last_send_tp_ := now } := by
        simp [onPacketSent]
      rw [fill_arrival_of_zero rfl, hsent]
      have hraise := @Shadowed.raise config maxPacket _ _ hupdate
        { r.pacer.updateBudget now queue_bytes with last_send_tp_ := now } rfl rfl rfl
        hupdate.level_le_debt
      refine { hraise with cleared := fun hclear => ?_ }
      exact hraise.cleared (by simpa using hclear)
    | true =>
      simp only [Bool.true_and, Bool.or_eq_true, Bool.not_eq_true', decide_eq_true_eq, not_or,
        Bool.not_eq_false, not_lt] at hguard
      have hwithin := hupdate.cleared hguard.1
      have hbytes : (bytes : ℚ) ≤ maxPacket := by exact_mod_cast hguard.2
      have hbytesnonneg : (0 : ℚ) ≤ bytes := Nat.cast_nonneg _
      have hcap := le_maxDebtBytes hupdate.rated queue_bytes
      have hsent : r.pacer.onPacketSent bytes true queue_bytes now =
          { r.pacer.updateBudget now queue_bytes with
            media_debt_bytes_ := min ((r.pacer.updateBudget now queue_bytes).media_debt_bytes_ +
              bytes) ((r.pacer.updateBudget now queue_bytes).maxDebtBytes queue_bytes)
            last_send_tp_ := now } := by
        unfold onPacketSent
        simp only [hconfig, hon, Bool.and_true, if_true]
      rw [fill_arrival, hsent]
      refine {
        config_eq := hupdate.config_eq
        rated := ⟨hupdate.rated.paced, hupdate.rated.low, hupdate.rated.high⟩
        level_nonneg := add_nonneg hupdate.level_nonneg hbytesnonneg
        level_le_debt := le_min (add_le_add hupdate.level_le_debt le_rfl) ?_
        level_le := add_le_add hwithin hbytes
        cleared := fun hclear => by simp at hclear
        behind := hupdate.behind
        time_le := hupdate.time_le }
      rw [hupdate.config_eq] at hcap
      exact ((add_le_add hwithin hbytes).trans hroom).trans hcap
  | onBlocked bytes queue_bytes =>
    cases hstep
    rw [fill_arrival_of_zero rfl]
    have hupdate := h.update hroom hnow queue_bytes
    have hconfig : (r.pacer.updateBudget now queue_bytes).config_ = r.pacer.config_ :=
      hupdate.config_eq.trans h.config_eq.symm
    have hoff : ¬(!r.pacer.config_.enabled || r.pacer.config_.pacing_bps = 0) = true := by
      simp [hpaced.enabled, pacing_ne_zero hpaced]
    have hcap := le_maxDebtBytes hupdate.rated queue_bytes
    rw [hupdate.config_eq] at hcap
    obtain ⟨min_debt, hblocked⟩ : ∃ min_debt, r.pacer.onBlocked bytes queue_bytes now =
        { r.pacer.updateBudget now queue_bytes with
          media_debt_bytes_ := clamp (max (r.pacer.updateBudget now queue_bytes).media_debt_bytes_
            min_debt) 0 ((r.pacer.updateBudget now queue_bytes).maxDebtBytes queue_bytes)
          last_send_tp_ := now } := by
      unfold onBlocked
      simp only [hconfig, if_neg hoff]
      exact ⟨_, rfl⟩
    rw [hblocked]
    refine hupdate.raise rfl rfl rfl ?_
    -- raising the debt and clamping it at the cap cannot go below the bucket
    apply le_clamp
    · exact le_max_of_le_right (le_max_of_le_left hupdate.level_le_debt)
    · exact (hupdate.level_le.trans hroom).trans hcap
  | stats queue_bytes =>
    cases hstep
    rw [fill_arrival_of_zero rfl]
    exact h.update hroom hnow queue_bytes

/-- The bucket along a run: its arrivals are in order and it never holds more than a burst
and a packet. -/
theorem Shadowed.run (h : Shadowed config maxPacket r b) (hroom : RoomForBurst config maxPacket)
    {calls : List PacerCall} {r' : PacerRun}
    (hrun : runSteps (PacerRun.step maxPacket) r calls = some r') :
    b.Ordered (calls.map PacerCall.arrival) ∧
      Bucket.Bounded (drainRate config) (burstAtRate config (drainRate config) + maxPacket) b
        (calls.map PacerCall.arrival) := by
  induction calls generalizing r b with
  | nil => exact ⟨trivial, h.level_le⟩
  | cons call calls ih =>
    obtain ⟨s, hstep, hrest⟩ := runSteps_cons_eq_some.mp hrun
    obtain ⟨hordered, hbounded⟩ := ih (h.step hroom hstep) hrest
    -- the steps of the run do not go back in time
    have hnow : r.now ≤ call.now := by
      by_contra hearly
      unfold PacerRun.step at hstep
      rw [if_pos (not_le.mp hearly)] at hstep
      cases hstep
    exact ⟨⟨h.time_le.trans (seconds_mono hnow), hordered.of_time rfl⟩, h.level_le, hbounded⟩

/-! ## Pacers in use -/

/-- A pacer as its constructor and its public functions make it. -/
inductive Built : WebRtcLikePacer → Prop
  | fresh (now : ℕ) : Built { last_process_tp_ := now, last_send_tp_ := now }
  | setConfig {p : WebRtcLikePacer} (config : PacerConfig) : Built p → Built (p.setConfig config)
  | reset {p : WebRtcLikePacer} (now : ℕ) : Built p → Built (p.reset now)
  | call {r r' : PacerRun} {maxPacket : ℕ} {call : PacerCall} :
      Built r.pacer → r.step maxPacket call = some r' → Built r'.pacer

theorem maxDebtBytes_nonneg (p : WebRtcLikePacer) (queue_bytes : ℕ) :
    0 ≤ p.maxDebtBytes queue_bytes := by
  unfold maxDebtBytes debtCapAtRate rateBytesPerSec
  positivity

theorem updateBudget_debt_nonneg {p : WebRtcLikePacer} (h : 0 ≤ p.media_debt_bytes_)
    (now queue_bytes : ℕ) : 0 ≤ (p.updateBudget now queue_bytes).media_debt_bytes_ := by
  unfold updateBudget
  simp only
  split_ifs
  · exact h
  · exact h
  · exact le_rfl
  · exact low_le_clamp (maxDebtBytes_nonneg _ _)

/-- The debt of a pacer in use is never negative. -/
theorem Built.debt_nonneg {p : WebRtcLikePacer} (h : Built p) : 0 ≤ p.media_debt_bytes_ := by
  induction h with
  | fresh now => exact le_rfl
  | setConfig config _ ih => exact ih
  | reset now _ _ => exact le_rfl
  | @call r r' maxPacket call _ hstep ih =>
    have hupdate := updateBudget_debt_nonneg ih call.now
    unfold PacerRun.step at hstep
    split_ifs at hstep
    -- every operation drains first, and ends on a debt that is not negative
    cases hop : call.op with
    | timeUntilNextSend queue_bytes accounted =>
      simp only [hop] at hstep
      cases hstep
      show 0 ≤ (r.pacer.timeUntilNextSend queue_bytes accounted call.now).2.media_debt_bytes_
      rw [timeUntilNextSend_pacer]
      exact hupdate queue_bytes
    | onPacketSent bytes accounted queue_bytes =>
      simp only [hop] at hstep
      split_ifs at hstep
      cases hstep
      unfold onPacketSent
      simp only
      split_ifs
      · exact le_min (add_nonneg (hupdate queue_bytes) (Nat.cast_nonneg _))
          (maxDebtBytes_nonneg _ _)
      · exact hupdate queue_bytes
    | onBlocked bytes queue_bytes =>
      simp only [hop] at hstep
      cases hstep
      unfold onBlocked
      simp only
      split
      · exact hupdate queue_bytes
      · exact low_le_clamp (maxDebtBytes_nonneg _ _)
    | stats queue_bytes =>
      simp only [hop] at hstep
      cases hstep
      exact hupdate queue_bytes

/-! ## Main result -/

theorem burstAtRate_nonneg (config : PacerConfig) {rate : ℚ} (hrate : 0 ≤ rate) :
    0 ≤ burstAtRate config rate := by
  have hzero : burstAtRate config 0 = 0 := by
    unfold burstAtRate
    simp
  rw [← hzero]
  exact burstAtRate_mono config hrate

theorem setConfig_paced (p : WebRtcLikePacer) {config : PacerConfig}
    (henabled : config.enabled = true) (hpacing : config.pacing_bps > 0) :
    Paced (p.setConfig config).config_ := by
  have hpos := UInt64.lt_iff_toNat_lt.mp hpacing
  unfold setConfig
  simp only
  split_ifs with hlow
  · exact ⟨henabled, hpos, le_rfl⟩
  · exact ⟨henabled, hpos, not_lt.mp hlow⟩

/-- A configured pacer starts with the bucket empty. -/
theorem setConfig_shadowed {p : WebRtcLikePacer} (hbuilt : Built p) {config : PacerConfig}
    (hpaced : Paced (p.setConfig config).config_) (maxPacket start : ℕ) :
    Shadowed (p.setConfig config).config_ maxPacket
      { pacer := p.setConfig config, now := start } ⟨0, 0⟩ := by
  have hseconds : ∀ t : ℕ, (0 : ℚ) ≤ seconds t := fun t => by
    unfold seconds
    positivity
  have hburst := burstAtRate_nonneg (p.setConfig config).config_
    ((baseRate_pos hpaced).le.trans (baseRate_le_drainRate hpaced))
  obtain ⟨hlow, hhigh⟩ := adjustedRateBps_bounds hpaced 0
  exact {
    config_eq := rfl
    rated := ⟨hpaced, hlow, hhigh⟩
    level_nonneg := le_rfl
    -- the bucket starts empty, below any debt that is left over
    level_le_debt := hbuilt.debt_nonneg
    level_le := add_nonneg hburst (Nat.cast_nonneg _)
    cleared := fun hclear => Bool.noConfusion hclear
    behind := hseconds _
    time_le := hseconds _ }

/-- The rate bound, for every configuration that paces, every bound on the packets and every
run of calls in order of time in which accounted packets are sent after their clearance:
with `R` the drain limit and `B` the burst it allows, if the debt cap at the configured
rate has room for `B` and a packet, then a window of `T` seconds sees at most
`R * T + B + maxPacket` accounted bytes. -/
theorem pacer_rate_bound {p : WebRtcLikePacer} (hbuilt : Built p) {config : PacerConfig}
    (henabled : config.enabled = true) (hpacing : config.pacing_bps > 0) {maxPacket start : ℕ}
    (hroom : RoomForBurst (p.setConfig config).config_ maxPacket) {calls : List PacerCall}
    {r : PacerRun}
    (hrun : runSteps (PacerRun.step maxPacket) { pacer := p.setConfig config, now := start } calls =
      some r) {a T : ℚ} (hT : 0 ≤ T) :
    let R := drainRate (p.setConfig config).config_
    let B := burstAtRate (p.setConfig config).config_ R
    (sentBetween a (a + T) calls : ℚ) ≤ R * T + B + maxPacket := by
  intro R B
  have hpaced := setConfig_paced p henabled hpacing
  have hR : 0 ≤ R := (baseRate_pos hpaced).le.trans (baseRate_le_drainRate hpaced)
  have hcap : 0 ≤ B + maxPacket :=
    add_nonneg (burstAtRate_nonneg _ hR) (Nat.cast_nonneg _)
  obtain ⟨hordered, hbounded⟩ :=
    (setConfig_shadowed hbuilt hpaced maxPacket start).run hroom hrun
  -- the bucket bounds what arrives in any window
  have hwindow := Bucket.window_le hR hcap (le_add_of_nonneg_right (a := a) hT) hordered
    hbounded
  rw [arrived_eq_sentBetween, add_sub_cancel_left] at hwindow
  linarith

/-- Eight megabits per second, doubled at most: in a millisecond 2000 bytes may go, with a
burst of 2000 bytes and a packet of 1200. -/
theorem pacer_rate_bound_millisecond :
    (sentBetween 0 (0 + 1 / 1000)
      [⟨5, .timeUntilNextSend 9000 true⟩, ⟨5, .onPacketSent 1200 true 9000⟩,
        ⟨6, .onBlocked 1200 7800⟩] : ℚ) ≤ 2000 + 2000 + 1200 := by
  have hrun : (runSteps (PacerRun.step 1200)
      { pacer := ({ last_process_tp_ := 3, last_send_tp_ := 3 } : WebRtcLikePacer).setConfig
          { pacing_bps := 8000000 }
        now := 4 }
      [⟨5, .timeUntilNextSend 9000 true⟩, ⟨5, .onPacketSent 1200 true 9000⟩,
        ⟨6, .onBlocked 1200 7800⟩]).isSome = true := by
    decide +kernel
  have hroom : RoomForBurst (({ last_process_tp_ := 3, last_send_tp_ := 3 } :
      WebRtcLikePacer).setConfig { pacing_bps := 8000000 }).config_ 1200 := by
    unfold RoomForBurst
    decide +kernel
  obtain ⟨r, hr⟩ := Option.isSome_iff_exists.mp hrun
  have hbound := pacer_rate_bound (Built.fresh 3) rfl (by decide) hroom hr (a := 0)
    (T := 1 / 1000) (by norm_num)
  refine hbound.trans ?_
  decide +kernel

end TeleopBridge.Udp
