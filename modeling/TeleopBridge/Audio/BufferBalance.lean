import TeleopBridge.Audio.PlaybackOrder

/-!
# Bounds and Balance of the Jitter Buffer

Every packet that `pushPacket` counts is delivered, rejected, buffered, or was discarded with a
buffer that was cleared; and a call leaves room in the buffer.

The model's loops count their rounds. `DrainLoop` and `SkipLoop` are the loops of the source
without a count: a derivation is a run of the loop that ends.

## Key Results

- `skipLoop_maybeSkipLossLocked`: the loop over the losses ends, in the model's state.
- `buffer_bounded_and_balanced`: the bounds and the balance after every call.
-/

namespace TeleopBridge.Audio

open TeleopBridge.Support

namespace AudioReceiver

variable {r d : AudioReceiver}

/-! ## The loops end -/

/-- `while (true)` of `drainReadyLocked`, from the first state to the last. -/
inductive DrainLoop : AudioReceiver → List AudioRxPacket →
    AudioReceiver × List AudioRxPacket → Prop
  | done (r : AudioReceiver) (ready_packets : List AudioRxPacket)
      (hgone : r.buffer.find? r.expected_seq = none) : DrainLoop r ready_packets (r, ready_packets)
  | round {r : AudioReceiver} {ready_packets : List AudioRxPacket} {packet : AudioRxPacket}
      {last : AudioReceiver × List AudioRxPacket}
      (hfind : r.buffer.find? r.expected_seq = some packet)
      (hrest : DrainLoop (r.deliver packet) (ready_packets ++ [packet]) last) :
      DrainLoop r ready_packets last

/-- `while (buffer_.size() >= max_buffer_packets_ && !buffer_.empty())` of
`maybeSkipLossLocked`, from the first state to the last. -/
inductive SkipLoop : AudioReceiver → List AudioRxPacket →
    AudioReceiver × List AudioRxPacket → Prop
  | done (r : AudioReceiver) (ready_packets : List AudioRxPacket)
      (hroom : r.buffer.size < r.max_buffer_packets.toNat ∨ r.buffer.begin? = none) :
      SkipLoop r ready_packets (r, ready_packets)
  | round {r : AudioReceiver} {ready_packets : List AudioRxPacket} {next : UInt16 × AudioRxPacket}
      {drained last : AudioReceiver × List AudioRxPacket}
      (hfull : r.max_buffer_packets.toNat ≤ r.buffer.size) (hbegin : r.buffer.begin? = some next)
      (hdrain : DrainLoop (r.skipTo next.1) ready_packets drained)
      (hrest : SkipLoop drained.1 drained.2 last) : SkipLoop r ready_packets last

/-- As many rounds as there are packets are enough. -/
theorem drainLoop_drainRounds (rounds : ℕ) (ready_packets : List AudioRxPacket)
    (hsize : r.buffer.size ≤ rounds) :
    DrainLoop r ready_packets (drainRounds rounds r ready_packets) := by
  induction rounds generalizing r ready_packets with
  | zero =>
    refine .done r ready_packets (SortedMap.find?_eq_none.mpr fun hmem => ?_)
    obtain ⟨packet, hentry⟩ := hmem
    exact absurd (List.length_pos_of_mem hentry) (Nat.not_lt.mpr hsize)
  | succ rounds ih =>
    unfold drainRounds
    cases hfind : r.buffer.find? r.expected_seq with
    | none => exact .done r ready_packets hfind
    | some packet =>
      have hless := size_deliver hfind
      exact .round hfind (ih (ready_packets ++ [packet]) (by omega))

theorem drainLoop_drainReadyLocked (r : AudioReceiver) (ready_packets : List AudioRxPacket) :
    DrainLoop r ready_packets (r.drainReadyLocked ready_packets) :=
  drainLoop_drainRounds r.buffer.size ready_packets le_rfl

/-! ## What delivering and skipping settle -/

/-- Packets only go from the buffer to the player. -/
structure Settles (r d : AudioReceiver) : Prop where
  kept : Kept r d
  received : d.stats.received_packets = r.stats.received_packets
  duplicate : d.stats.duplicate_packets = r.stats.duplicate_packets
  late : d.stats.late_packets = r.stats.late_packets
  exchange : d.stats.delivered_packets + d.buffer.size =
    r.stats.delivered_packets + r.buffer.size

theorem Settles.refl (r : AudioReceiver) : Settles r r :=
  ⟨⟨rfl, rfl, rfl, rfl, rfl⟩, rfl, rfl, rfl, rfl⟩

theorem Settles.trans {t : AudioReceiver} (h : Settles r d) (h' : Settles d t) : Settles r t :=
  ⟨h.kept.trans h'.kept, h'.received.trans h.received, h'.duplicate.trans h.duplicate,
    h'.late.trans h.late, h'.exchange.trans h.exchange⟩

/-- A delivery moves one packet from the buffer to the delivered ones. -/
theorem settles_deliver {packet : AudioRxPacket}
    (hfind : r.buffer.find? r.expected_seq = some packet) : Settles r (r.deliver packet) := by
  have hsize := size_deliver hfind
  have hcount : (r.deliver packet).stats.delivered_packets = r.stats.delivered_packets + 1 := rfl
  exact ⟨⟨rfl, rfl, rfl, rfl, rfl⟩, rfl, rfl, rfl, by omega⟩

@[simp] theorem buffer_skipTo (r : AudioReceiver) (seq : UInt16) :
    (r.skipTo seq).buffer = r.buffer := by
  unfold skipTo moveTo
  simp only
  split <;> rfl

@[simp] theorem expected_seq_skipTo (r : AudioReceiver) (seq : UInt16) :
    (r.skipTo seq).expected_seq = seq := by
  unfold skipTo moveTo
  simp only
  split <;> rfl

/-- A skip moves no packet. -/
theorem settles_skipTo (r : AudioReceiver) (seq : UInt16) : Settles r (r.skipTo seq) := by
  unfold skipTo moveTo
  simp only
  split <;> exact ⟨⟨rfl, rfl, rfl, rfl, rfl⟩, rfl, rfl, rfl, rfl⟩

/-- The drain loop stops where the expected packet is missing. -/
theorem DrainLoop.settles {ready_packets : List AudioRxPacket}
    {last : AudioReceiver × List AudioRxPacket} (h : DrainLoop r ready_packets last) :
    Settles r last.1 ∧ last.1.expected_seq ∉ last.1.buffer := by
  induction h with
  | done r ready_packets hgone => exact ⟨.refl r, SortedMap.find?_eq_none.mp hgone⟩
  | round hfind hrest ih => exact ⟨(settles_deliver hfind).trans ih.1, ih.2⟩

/-- A drain never fills the buffer. -/
theorem DrainLoop.size_le {ready_packets : List AudioRxPacket}
    {last : AudioReceiver × List AudioRxPacket} (h : DrainLoop r ready_packets last) :
    last.1.buffer.size ≤ r.buffer.size := by
  induction h with
  | done => exact le_rfl
  | round hfind hrest ih =>
    have hless := size_deliver hfind
    omega

/-- Wherever the expected number jumps to, the packet it jumps to is delivered. -/
theorem size_skip {next : UInt16 × AudioRxPacket} {ready_packets : List AudioRxPacket}
    {drained : AudioReceiver × List AudioRxPacket} (hbegin : r.buffer.begin? = some next)
    (hdrain : DrainLoop (r.skipTo next.1) ready_packets drained) :
    drained.1.buffer.size < r.buffer.size := by
  -- the skip goes to a packet of the buffer, which the drain then takes out
  have hmem : (r.skipTo next.1).expected_seq ∈ (r.skipTo next.1).buffer := by
    rw [buffer_skipTo, expected_seq_skipTo]
    exact ⟨next.2, SortedMap.begin_mem hbegin⟩
  cases hdrain with
  | done _ _ hgone => exact absurd hmem (SortedMap.find?_eq_none.mp hgone)
  | round hfind hrest =>
    have hless := size_deliver hfind
    have hle := hrest.size_le
    rw [buffer_skipTo] at hless
    omega

/-- As many rounds as the buffer has packets are enough for the loop to leave on its own. -/
theorem skipLoop_skipRounds (rounds : ℕ) (ready_packets : List AudioRxPacket)
    (hsize : r.buffer.size ≤ rounds) :
    SkipLoop r ready_packets (skipRounds rounds r ready_packets) := by
  induction rounds generalizing r ready_packets with
  | zero =>
    refine .done r ready_packets (.inr (SortedMap.begin_eq_none.mpr ?_))
    exact Nat.le_zero.mp hsize
  | succ rounds ih =>
    unfold skipRounds
    -- a round takes out at least one packet
    rcases Nat.lt_or_ge r.buffer.size r.max_buffer_packets.toNat with hroom | hfull
    · rw [if_pos hroom]
      exact .done r ready_packets (.inl hroom)
    · rw [if_neg (Nat.not_lt.mpr hfull)]
      cases hbegin : r.buffer.begin? with
      | none => exact .done r ready_packets (.inr hbegin)
      | some next =>
        have hdrain := drainLoop_drainReadyLocked (r.skipTo next.1) ready_packets
        have hless := size_skip hbegin hdrain
        exact .round hfull hbegin hdrain (ih _ (by omega))

/-- The loop over the losses ends, and ends in the state that the model computes. -/
theorem skipLoop_maybeSkipLossLocked (r : AudioReceiver) (ready_packets : List AudioRxPacket) :
    SkipLoop r ready_packets (r.maybeSkipLossLocked ready_packets) :=
  skipLoop_skipRounds r.buffer.size ready_packets le_rfl

/-- The loop over the losses ends with room in the buffer. -/
theorem SkipLoop.settles {ready_packets : List AudioRxPacket}
    {last : AudioReceiver × List AudioRxPacket} (h : SkipLoop r ready_packets last)
    (hpos : 0 < r.max_buffer_packets.toNat) (hgone : r.expected_seq ∉ r.buffer) :
    Settles r last.1 ∧ last.1.expected_seq ∉ last.1.buffer ∧
      last.1.buffer.size < last.1.max_buffer_packets.toNat := by
  induction h with
  | done r ready_packets hroom =>
    refine ⟨.refl r, hgone, hroom.elim id fun hempty => ?_⟩
    rw [SortedMap.begin_eq_none.mp hempty]
    exact hpos
  | @round r ready_packets next drained last hfull hbegin hdrain hrest ih =>
    obtain ⟨hdrained, hnext⟩ := hdrain.settles
    -- one round: the skip and the drain behind it
    have hall := (settles_skipTo r next.1).trans hdrained
    obtain ⟨hlast, hend⟩ := ih (by rw [hall.kept.max]; exact hpos) hnext
    exact ⟨hall.trans hlast, hend⟩

/-! ## The bounds -/

/-- Room in the buffer between two calls. -/
structure Bounded (r : AudioReceiver) : Prop where
  waiting : r.primed = false → r.buffer.size < r.initial_buffer_packets.toNat
  playing : r.primed = true → r.buffer.size < r.max_buffer_packets.toNat ∧
    r.expected_seq ∉ r.buffer

/-- The bounds, and what a receiver without a packet looks like. -/
structure Stocked (r : AudioReceiver) : Prop where
  bounded : Bounded r
  initial_pos : 0 < r.initial_buffer_packets.toNat
  max_pos : 0 < r.max_buffer_packets.toNat
  unset : r.initialized = false → r.buffer.size = 0 ∧ r.primed = false

/-- What a primed receiver releases leaves room. -/
theorem release_settles (hpos : 0 < r.max_buffer_packets.toNat) :
    Settles r r.release.1 ∧
      (r.primed = true → r.release.1.buffer.size < r.max_buffer_packets.toNat ∧
        r.release.1.expected_seq ∉ r.release.1.buffer) ∧
      (r.primed = false → r.release.1.buffer = r.buffer) := by
  unfold AudioReceiver.release
  -- before playback starts nothing is released
  cases hprimed : r.primed with
  | false =>
    rw [if_neg (by decide)]
    exact ⟨⟨⟨rfl, rfl, rfl, rfl, rfl⟩, rfl, rfl, rfl, rfl⟩, nofun, fun _ => rfl⟩
  | true =>
    rw [if_pos rfl]
    obtain ⟨hdrained, hgone⟩ := (drainLoop_drainReadyLocked r []).settles
    obtain ⟨hskipped, hend, hroom⟩ :=
      (skipLoop_maybeSkipLossLocked (r.drainReadyLocked []).1 (r.drainReadyLocked []).2).settles
        (by rw [hdrained.kept.max]; exact hpos) hgone
    have hall := hdrained.trans hskipped
    rw [hall.kept.max] at hroom
    exact ⟨⟨⟨hall.kept.config, hall.kept.initial, hall.kept.max, hall.kept.initialized,
      hall.kept.primed⟩, hall.received, hall.duplicate, hall.late, hall.exchange⟩,
      fun _ => ⟨hroom, hend⟩, nofun⟩

/-! ## One push -/

/-- How a push of a packet with a payload ends: the receiver and what it hands on. -/
inductive PushEnds (r : AudioReceiver) (packet : AudioRxPacket) :
    AudioReceiver → List AudioRxPacket → Prop
  | late (hlate : seqDelta packet.seq (r.receive packet.seq).expected_seq < 0) :
      PushEnds r packet (r.receive packet.seq).countLate []
  | duplicate (hlate : ¬ seqDelta packet.seq (r.receive packet.seq).expected_seq < 0)
      (hmem : packet.seq ∈ ((r.receive packet.seq).checkGap packet.seq).buffer) :
      PushEnds r packet ((r.receive packet.seq).checkGap packet.seq).countDuplicate []
  | buffered (hlate : ¬ seqDelta packet.seq (r.receive packet.seq).expected_seq < 0)
      (habsent : packet.seq ∉ ((r.receive packet.seq).checkGap packet.seq).buffer) :
      PushEnds r packet
        (((r.receive packet.seq).checkGap packet.seq).insert packet).release.1
        (((r.receive packet.seq).checkGap packet.seq).insert packet).release.2

/-- Every push of a packet with data ends late, as a duplicate or buffered. -/
theorem pushPacket_ends (r : AudioReceiver) (callback : PlaybackCallback) (seq : UInt16)
    (data : Option (List UInt8)) (timestamp_ntp : UInt64) (hdata : data.getD [] ≠ []) :
    PushEnds r { seq, timestamp_ntp, payload := data.getD [] }
      (r.pushPacket callback seq data timestamp_ntp).1
      (r.pushPacket callback seq data timestamp_ntp).2.1 := by
  unfold pushPacket
  simp only
  rw [if_neg hdata]
  -- in the source's order: late first, then the jump, then the duplicate
  by_cases hlate : seqDelta seq (r.receive seq).expected_seq < 0
  · rw [if_pos hlate]
    exact .late hlate
  · rw [if_neg hlate]
    cases hfind : ((r.receive seq).checkGap seq).buffer.find? seq with
    | some packet =>
      rw [Option.isSome_some, if_pos rfl]
      exact .duplicate hlate ⟨packet, SortedMap.find?_eq_some hfind⟩
    | none =>
      rw [Option.isSome_none, if_neg (by decide)]
      exact .buffered hlate (SortedMap.find?_eq_none.mp hfind)

/-! ## The balance -/

/-- The packets that a call throws away with a buffer that it clears. -/
def cleared (r : AudioReceiver) : AudioAction → ℕ
  | .pushPacket _ seq data _ =>
    if data.getD [] = [] ∨ seqDelta seq (r.receive seq).expected_seq < 0 then 0
    else if (r.receive seq).jumps seq then (r.receive seq).buffer.size
    else 0
  | .reset => r.buffer.size

/-- Where the packets are that were received. -/
def Balanced (r : AudioReceiver) (discarded : ℕ) : Prop :=
  r.stats.received_packets = r.stats.delivered_packets + r.stats.duplicate_packets +
    r.stats.late_packets + r.buffer.size + discarded

/-- A settled receiver balances exactly where it did before. -/
theorem Settles.balanced {discarded : ℕ} (h : Settles r d) :
    Balanced d discarded ↔ Balanced r discarded := by
  have hreceived := h.received
  have hduplicate := h.duplicate
  have hlate := h.late
  have hexchange := h.exchange
  unfold Balanced
  omega

/-- The first packet starts the epoch on an empty buffer, a later one leaves the buffer alone. -/
theorem Stocked.receive (h : Stocked r) (seq : UInt16) :
    Stocked (r.receive seq) ∧ (r.receive seq).buffer = r.buffer ∧
      (r.receive seq).initialized = true := by
  unfold AudioReceiver.receive
  cases hset : r.initialized with
  | true =>
    rw [if_neg (by decide)]
    exact ⟨⟨⟨h.bounded.waiting, h.bounded.playing⟩, h.initial_pos, h.max_pos, h.unset⟩, rfl, hset⟩
  | false =>
    obtain ⟨hempty, -⟩ := h.unset hset
    refine ⟨⟨⟨fun _ => ?_, nofun⟩, h.initial_pos, h.max_pos, nofun⟩, rfl, rfl⟩
    exact hempty.trans_lt h.initial_pos

/-- The check for a gap leaves a buffer within the bounds, and accounts for what it clears. -/
theorem Stocked.checkGap (h : Stocked r) (hset : r.initialized = true) (seq : UInt16)
    {discarded : ℕ} (hbalanced : r.stats.received_packets =
      r.stats.delivered_packets + r.stats.duplicate_packets + r.stats.late_packets +
        r.buffer.size + 1 + discarded) :
    Stocked (r.checkGap seq) ∧ (r.checkGap seq).initialized = true ∧
      (r.checkGap seq).stats.received_packets = (r.checkGap seq).stats.delivered_packets +
        (r.checkGap seq).stats.duplicate_packets + (r.checkGap seq).stats.late_packets +
          (r.checkGap seq).buffer.size + 1 +
            (discarded + if r.jumps seq then r.buffer.size else 0) := by
  unfold AudioReceiver.checkGap
  cases hjump : r.jumps seq with
  | false => exact ⟨h, hset, hbalanced⟩
  | true =>
    rw [if_pos rfl, if_pos rfl]
    refine ⟨⟨⟨fun _ => h.initial_pos, nofun⟩, h.initial_pos, h.max_pos, fun hunset => ?_⟩,
      hset, ?_⟩
    · exact absurd (hset.symm.trans hunset) (by decide)
    · -- the jump throws away the whole buffer, which is counted apart
      have hsize : (r.jumpTo seq).buffer.size = 0 := rfl
      rw [hsize]
      simp only [jumpTo]
      omega

/-- A packet that enters the buffer. -/
theorem Stocked.insert_release {packet : AudioRxPacket} {discarded : ℕ} (h : Stocked r)
    (hset : r.initialized = true) (habsent : packet.seq ∉ r.buffer)
    (hbalanced : r.stats.received_packets =
      r.stats.delivered_packets + r.stats.duplicate_packets + r.stats.late_packets +
        r.buffer.size + 1 + discarded) :
    Stocked (r.insert packet).release.1 ∧
      Balanced (r.insert packet).release.1 discarded := by
  have hsize : (r.insert packet).buffer.size = r.buffer.size + 1 :=
    SortedMap.size_emplace habsent
  obtain ⟨hsettles, hplaying, hwaiting⟩ := @release_settles (r.insert packet) h.max_pos
  refine ⟨⟨⟨fun hprimed => ?_, fun hprimed => ?_⟩, ?_, ?_, fun hunset => ?_⟩, ?_⟩
  · -- not primed with this packet: the buffer is still below the first threshold
    rw [hsettles.kept.primed] at hprimed
    rw [hwaiting hprimed, hsettles.kept.initial]
    have hbelow : (r.primed || r.initial_buffer_packets.toNat ≤ (r.insert packet).buffer.size) =
        false := hprimed
    rw [Bool.or_eq_false_iff, decide_eq_false_iff_not] at hbelow
    exact not_le.mp hbelow.2
  · rw [hsettles.kept.primed] at hprimed
    rw [hsettles.kept.max]
    exact hplaying hprimed
  · rw [hsettles.kept.initial]
    exact h.initial_pos
  · rw [hsettles.kept.max]
    exact h.max_pos
  · rw [hsettles.kept.initialized] at hunset
    exact absurd (hset.symm.trans hunset) (by decide)
  · rw [hsettles.balanced]
    -- the new packet left the packets on their way for the buffer
    have hreceived : (r.insert packet).stats.received_packets = r.stats.received_packets := rfl
    have hdelivered : (r.insert packet).stats.delivered_packets =
      r.stats.delivered_packets := rfl
    have hduplicate : (r.insert packet).stats.duplicate_packets =
      r.stats.duplicate_packets := rfl
    have hlate : (r.insert packet).stats.late_packets = r.stats.late_packets := rfl
    unfold Balanced
    omega

/-- Every packet with data is counted as received. -/
theorem stats_receive (r : AudioReceiver) (seq : UInt16) :
    (r.receive seq).stats =
      { r.stats with received_packets := r.stats.received_packets + 1 } := by
  unfold AudioReceiver.receive
  split <;> rfl

/-- A push keeps the thresholds and the balance, with what a jump throws away. -/
theorem Stocked.push (h : Stocked r) {discarded : ℕ} (hbalanced : Balanced r discarded)
    (callback : PlaybackCallback) (seq : UInt16) (data : Option (List UInt8))
    (timestamp_ntp : UInt64) :
    Stocked (r.pushPacket callback seq data timestamp_ntp).1 ∧
      Balanced (r.pushPacket callback seq data timestamp_ntp).1
        (discarded + r.cleared (.pushPacket callback seq data timestamp_ntp)) := by
  by_cases hdata : data.getD [] = []
  · have hsame : (r.pushPacket callback seq data timestamp_ntp).1 = r := by
      unfold pushPacket
      simp only
      rw [if_pos hdata]
    rw [hsame, cleared, if_pos (.inl hdata)]
    exact ⟨h, hbalanced⟩
  obtain ⟨hreceived, hbuffer, hset⟩ := h.receive seq
  -- the packet is counted, but is not anywhere yet
  have hcounted : (r.receive seq).stats.received_packets =
      (r.receive seq).stats.delivered_packets + (r.receive seq).stats.duplicate_packets +
        (r.receive seq).stats.late_packets + (r.receive seq).buffer.size + 1 + discarded := by
    rw [stats_receive, hbuffer]
    unfold Balanced at hbalanced
    simp only
    omega
  have hends := pushPacket_ends r callback seq data timestamp_ntp hdata
  generalize (r.pushPacket callback seq data timestamp_ntp).1 = last at hends ⊢
  generalize (r.pushPacket callback seq data timestamp_ntp).2.1 = ready_packets at hends
  cases hends with
  | late hlate =>
    rw [cleared, if_pos (.inr hlate)]
    refine ⟨⟨⟨hreceived.bounded.waiting, hreceived.bounded.playing⟩, hreceived.initial_pos,
      hreceived.max_pos, hreceived.unset⟩, ?_⟩
    unfold Balanced countLate
    simp only
    omega
  | duplicate hlate hmem =>
    obtain ⟨hstocked, hset, hcounted⟩ := hreceived.checkGap hset seq hcounted
    rw [cleared, if_neg (by simp only [hdata, false_or]; exact hlate)]
    refine ⟨⟨⟨hstocked.bounded.waiting, hstocked.bounded.playing⟩, hstocked.initial_pos,
      hstocked.max_pos, hstocked.unset⟩, ?_⟩
    unfold Balanced countDuplicate
    simp only
    omega
  | buffered hlate habsent =>
    obtain ⟨hstocked, hset, hcounted⟩ := hreceived.checkGap hset seq hcounted
    rw [cleared, if_neg (by simp only [hdata, false_or]; exact hlate)]
    exact hstocked.insert_release hset habsent hcounted

theorem le_max_toNat_right (a b : UInt32) : b.toNat ≤ (max a b).toNat := by
  change b.toNat ≤ (if a ≤ b then b else a).toNat
  split
  · exact le_rfl
  · rename_i hle
    exact (UInt32.lt_iff_toNat_lt.mp (UInt32.not_le.mp hle)).le

/-- A new receiver is stocked: its thresholds are at least one packet. -/
theorem Stocked.construct (config : Config) : Stocked (construct config) where
  bounded := ⟨fun _ => le_max_toNat 1 _, nofun⟩
  initial_pos := le_max_toNat 1 _
  max_pos := by
    -- `initial + 1` may wrap to 0, but a packet count is at least 1
    have hcount : 1 ≤ (packetCountFromMs config.max_buffer_ms config.frame_duration_ms).toNat :=
      le_max_toNat 1 _
    exact hcount.trans (le_max_toNat_right _ _)
  unset := fun _ => ⟨rfl, rfl⟩

/-- A reset throws away the whole buffer and keeps the rest in balance. -/
theorem Stocked.reset (h : Stocked r) {discarded : ℕ} (hbalanced : Balanced r discarded) :
    Stocked r.reset ∧ Balanced r.reset (discarded + r.cleared .reset) := by
  refine ⟨⟨⟨fun _ => h.initial_pos, nofun⟩, h.initial_pos, h.max_pos, fun _ => ⟨rfl, rfl⟩⟩, ?_⟩
  have hsize : r.reset.buffer.size = 0 := rfl
  unfold Balanced at hbalanced ⊢
  rw [hsize]
  simp only [AudioReceiver.reset, cleared]
  omega

/-! ## Runs -/

/-- A receiver and the number of packets that were discarded with a cleared buffer. -/
structure Ledger where
  receiver : AudioReceiver
  discarded : ℕ := 0

/-- A call, with what it discards. -/
def Ledger.step (s : Ledger) (a : AudioAction) : Option Ledger :=
  (s.receiver.step a).map fun receiver =>
    { receiver, discarded := s.discarded + s.receiver.cleared a }

/-- The bounds and the balance of a ledger. -/
def Ledger.Sound (s : Ledger) : Prop := Stocked s.receiver ∧ Balanced s.receiver s.discarded

/-- No call fails, and every call keeps the ledger. -/
theorem Ledger.Sound.step {s : Ledger} (h : s.Sound) (a : AudioAction) :
    ∃ t, s.step a = some t ∧ t.Sound := by
  cases a with
  | pushPacket callback seq data timestamp_ntp =>
    exact ⟨_, rfl, h.1.push h.2 callback seq data timestamp_ntp⟩
  | reset => exact ⟨_, rfl, h.1.reset h.2⟩

/-- So does every run of calls. -/
theorem Ledger.Sound.run {s : Ledger} (h : s.Sound) (actions : List AudioAction) :
    ∃ t, runSteps Ledger.step s actions = some t ∧ t.Sound := by
  induction actions generalizing s with
  | nil => exact ⟨s, rfl, h⟩
  | cons a actions ih =>
    obtain ⟨next, hstep, hnext⟩ := h.step a
    obtain ⟨t, hrun, ht⟩ := ih hnext
    exact ⟨t, runSteps_cons_eq_some.mpr ⟨next, hstep, hrun⟩, ht⟩

/-- The loop over the losses ends in every call. After every call fewer than the initial number
of packets are buffered while the receiver waits, fewer than the maximal number while it plays,
and then the expected packet is not among them. What was received was delivered, was a
duplicate, came late, is buffered or was discarded with a buffer that was cleared. -/
theorem buffer_bounded_and_balanced (config : Config) (actions : List AudioAction) :
    (∀ r ready_packets, SkipLoop r ready_packets (r.maybeSkipLossLocked ready_packets)) ∧
    ∃ s, runSteps Ledger.step { receiver := construct config } actions = some s ∧
      (s.receiver.primed = false →
        s.receiver.buffer.size < s.receiver.initial_buffer_packets.toNat) ∧
      (s.receiver.primed = true →
        s.receiver.buffer.size < s.receiver.max_buffer_packets.toNat ∧
          s.receiver.expected_seq ∉ s.receiver.buffer) ∧
      s.receiver.stats.received_packets =
        s.receiver.stats.delivered_packets + s.receiver.stats.duplicate_packets +
          s.receiver.stats.late_packets + s.receiver.buffer.size + s.discarded := by
  refine ⟨skipLoop_maybeSkipLossLocked, ?_⟩
  have hstart : Ledger.Sound { receiver := construct config } := ⟨.construct config, rfl⟩
  obtain ⟨s, hrun, hstocked, hbalanced⟩ := hstart.run actions
  exact ⟨s, hrun, hstocked.bounded.waiting, hstocked.bounded.playing, hbalanced⟩

end AudioReceiver

end TeleopBridge.Audio
