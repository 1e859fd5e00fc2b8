import TeleopBridge.Audio.BufferRounds
import TeleopBridge.Support.Transition

/-!
# Playback Order

From the rounds of the buffer to a push, and from a push to any sequence of calls.

## Key Results

- `playback_in_order`: the expected number only moves forward and every number it passes is
  delivered or counted as lost; the deliveries are in serial order exactly when no loss skip
  goes 32767 numbers ahead.
- `playback_in_order_of_gap`: gaps as they are configured by default keep the order.
- `pushPacket_handsOn`: the numbers that are logged are those of the packets handed on.
-/

namespace TeleopBridge.Audio

open TeleopBridge.Support

namespace AudioReceiver

variable {r d : AudioReceiver}

/-! ## One push -/

/-- The limits of the buffer; the second one could only fail for a buffer that never fills. -/
structure Limits (r : AudioReceiver) : Prop where
  pos : 0 < r.initial_buffer_packets.toNat
  room : r.initial_buffer_packets.toNat ≤ 65536 →
    r.initial_buffer_packets.toNat < r.max_buffer_packets.toNat

/-- What holds between two calls. -/
structure Sound (r : AudioReceiver) : Prop where
  flows : Flows r
  limits : Limits r
  unset : r.initialized = false → r.buffer.size = 0 ∧ r.primed = false
  waiting : r.initialized = true → r.primed = false → r.delivered = [] ∧
    r.buffer.size < r.initial_buffer_packets.toNat ∧ r.expected_seq ∈ r.buffer
  playing : r.primed = true → r.buffer.size < r.max_buffer_packets.toNat ∧
    r.expected_seq ∉ r.buffer ∧ r.delivered ≠ []

/-- What holds when a push is about to buffer its packet. -/
structure Opens (r : AudioReceiver) (seq : UInt16) : Prop where
  flows : Flows r
  limits : Limits r
  initialized : r.initialized = true
  waiting : r.primed = false → r.delivered = [] ∧
    r.buffer.size < r.initial_buffer_packets.toNat ∧
      (r.expected_seq ∈ r.buffer ∨ r.expected_seq = seq)
  playing : r.primed = true → r.buffer.size < r.max_buffer_packets.toNat ∧
    r.expected_seq ∉ r.buffer ∧ r.delivered ≠ []
  near : (seq - r.expected_seq).toNat < r.reach
  absent : seq ∉ r.buffer

/-- A map over the sequence numbers holds at most one packet for each of them. -/
theorem size_le_65536 {buffer : SortedMap UInt16 AudioRxPacket} : buffer.size ≤ 65536 := by
  rw [← SortedMap.card_keys, ← Finset.card_range 65536]
  refine Finset.card_le_card_of_injOn UInt16.toNat ?_ fun a _ b _ hab => UInt16.toNat_inj.mp hab
  intro k _
  exact Finset.mem_coe.mpr (Finset.mem_range.mpr (UInt16.toNat_lt k))

theorem reach_le : r.reach ≤ 32768 := min_le_left _ _

/-- A new packet ahead of the expected one, inside the reach, keeps the flow. -/
theorem Flows.insert {packet : AudioRxPacket} (h : Flows r) (habsent : packet.seq ∉ r.buffer)
    (hnear : (packet.seq - r.expected_seq).toNat < r.reach) : Flows (r.insert packet) where
  keyed := by
    intro entry hentry
    rcases (SortedMap.mem_entries_emplace habsent).mp hentry with rfl | hold
    · rfl
    · exact h.keyed entry hold
  window := by
    -- the packet itself stands in the window because it is near
    intro k hk
    rcases (SortedMap.mem_emplace habsent).mp hk with rfl | hold
    · rw [toNat_sub_eq] at hnear
      exact .of_near hnear
    · exact h.window k hold
  forward := h.forward
  counted := h.counted
  last := h.last

theorem Flows.countBuffered (h : Flows r) : Flows r.countBuffered :=
  ⟨h.keyed, h.window, h.forward, h.counted, h.last⟩

/-- The packet completes the drain, or leaves it where it was: nothing is skipped. -/
theorem release_drained (hprimed : r.primed = true) (hlimits : Limits r)
    (hinitialized : r.initialized = true) (hdrains : Drains r (r.drainReadyLocked []).1)
    (hgone : (r.drainReadyLocked []).1.expected_seq ∉ (r.drainReadyLocked []).1.buffer)
    (hdelivered : (r.drainReadyLocked []).1.delivered ≠ [])
    (hroom : (r.drainReadyLocked []).1.buffer.size < r.max_buffer_packets.toNat) :
    Sound r.release.1 ∧ (r.release.1.Ordered ↔ r.Ordered) := by
  have hkept := hdrains.kept
  have hidle : (r.drainReadyLocked []).1.maybeSkipLossLocked (r.drainReadyLocked []).2 =
      ((r.drainReadyLocked []).1, (r.drainReadyLocked []).2) :=
    skipRounds_idle _ _ (hkept.max ▸ hroom)
  have hrelease : r.release.1 = (r.drainReadyLocked []).1.countBuffered := by
    unfold release
    rw [if_pos hprimed]
    simp only
    rw [hidle]
  rw [hrelease]
  refine ⟨⟨hdrains.flows.countBuffered, ⟨?_, ?_⟩, ?_, ?_, ?_⟩, hdrains.ordered⟩
  -- the limits are those before, which the drain leaves alone
  · exact hkept.initial ▸ hlimits.pos
  · intro hle
    have hroom' := hlimits.room (hkept.initial ▸ hle)
    rwa [← hkept.initial, ← hkept.max] at hroom'
  · intro hunset
    cases (hkept.initialized.trans hinitialized).symm.trans hunset
  · intro _ hunprimed
    cases (hkept.primed.trans hprimed).symm.trans hunprimed
  -- playback goes on: there is room and the expected packet is missing
  · exact fun _ => ⟨hkept.max ▸ hroom, hgone, hdelivered⟩

/-- A receiver that is primed after the packet had room for it. -/
theorem Opens.room {packet : AudioRxPacket} (h : Opens r packet.seq)
    (hprimed : (r.insert packet).primed = true) :
    r.buffer.size < r.max_buffer_packets.toNat := by
  cases hwaits : r.primed with
  | true => exact (h.playing hwaits).1
  | false =>
    -- the packet that starts playback is the one that reaches the initial count
    obtain ⟨-, hfew, -⟩ := h.waiting hwaits
    have hmany : r.initial_buffer_packets.toNat ≤ (r.insert packet).buffer.size := by
      unfold AudioReceiver.insert at hprimed ⊢
      simpa [hwaits] using hprimed
    exact hfew.trans (h.limits.room (hmany.trans size_le_65536))

/-- The expected packet came: it is delivered with what follows it. -/
theorem Opens.release_expected {packet : AudioRxPacket} (h : Opens r packet.seq)
    (hprimed : (r.insert packet).primed = true)
    (hexpected : r.expected_seq ∈ (r.insert packet).buffer) :
    Sound (r.insert packet).release.1 ∧ ((r.insert packet).release.1.Ordered ↔ r.Ordered) := by
  have hflows : Flows (r.insert packet) := h.flows.insert h.absent h.near
  have hsize : (r.insert packet).buffer.size = r.buffer.size + 1 :=
    SortedMap.size_emplace h.absent
  have hroom := h.room hprimed
  obtain ⟨first, hfind⟩ : ∃ first,
      (r.insert packet).buffer.find? (r.insert packet).expected_seq = some first :=
    Option.ne_none_iff_exists'.mp fun hnone => SortedMap.find?_eq_none.mp hnone hexpected
  obtain ⟨hdrains, hgone⟩ := drains_drainReadyLocked (r := r.insert packet) [] hflows
  have hfirst := size_deliver hfind
  -- the first step of the drain hands out the expected packet, so something is delivered
  obtain ⟨hrest, -⟩ := drains_drainReadyLocked ([] ++ [first]) (drains_deliver hflows hfind).flows
  rw [← drainReadyLocked_found [] hfind] at hrest
  refine release_drained hprimed ⟨h.limits.pos, h.limits.room⟩ h.initialized hdrains hgone
    (hrest.delivered nofun) ?_
  have hle := hrest.size
  have hmax : (r.insert packet).max_buffer_packets = r.max_buffer_packets := rfl
  rw [hmax]
  omega

/-- The expected packet is missing, and there is room to wait for it. -/
theorem Opens.release_waits {packet : AudioRxPacket} (h : Opens r packet.seq)
    (hplays : r.primed = true) (hmissing : r.expected_seq ∉ (r.insert packet).buffer)
    (hroom : r.buffer.size + 1 < r.max_buffer_packets.toNat) :
    Sound (r.insert packet).release.1 ∧ ((r.insert packet).release.1.Ordered ↔ r.Ordered) := by
  have hflows : Flows (r.insert packet) := h.flows.insert h.absent h.near
  have hsize : (r.insert packet).buffer.size = r.buffer.size + 1 :=
    SortedMap.size_emplace h.absent
  have hprimed : (r.insert packet).primed = true := by
    unfold AudioReceiver.insert
    simp [hplays]
  -- the drain finds nothing, and below the limit the skip does nothing either
  have hdrain : (r.insert packet).drainReadyLocked [] = (r.insert packet, []) :=
    drainReadyLocked_missing [] hmissing
  have hdone := release_drained hprimed ⟨h.limits.pos, h.limits.room⟩ h.initialized
  rw [hdrain] at hdone
  exact hdone (.refl hflows) hmissing (h.playing hplays).2.2 (hsize ▸ hroom)

/-- The first packet of the buffer lies ahead, as near as a packet is let in. -/
theorem Opens.near_first {packet : AudioRxPacket} (h : Opens r packet.seq) :
    (r.buffer.firstWith packet.seq - r.expected_seq).toNat < r.reach := by
  have hflows : Flows (r.insert packet) := h.flows.insert h.absent h.near
  obtain ⟨next, hbegin, hkey⟩ := SortedMap.begin_emplace (v := packet) h.absent
  have hmem : next.1 ∈ (r.insert packet).buffer := ⟨next.2, SortedMap.begin_mem hbegin⟩
  have hself : packet.seq ∈ (r.insert packet).buffer :=
    (SortedMap.mem_emplace h.absent).mpr (.inl rfl)
  -- the first entry is at or below the new one, so it is no further ahead
  have hle : next.1.toNat ≤ packet.seq.toNat := SortedMap.begin_le hbegin hself
  have hpacket := h.near
  rw [← hkey, toNat_sub_eq]
  rw [toNat_sub_eq] at hpacket
  exact ahead_least (hflows.window _ hmem) hle (UInt16.toNat_lt _) hpacket

/-- The expected packet is missing, and the buffer is full. -/
theorem Opens.release_skips {packet : AudioRxPacket} (h : Opens r packet.seq)
    (hplays : r.primed = true) (hmissing : r.expected_seq ∉ (r.insert packet).buffer)
    (hfull : r.max_buffer_packets.toNat ≤ r.buffer.size + 1) :
    Sound (r.insert packet).release.1 ∧ ((r.insert packet).release.1.Ordered ↔
      r.Ordered ∧ (r.buffer.firstWith packet.seq - r.expected_seq).toNat ≠ 32767) := by
  have hflows : Flows (r.insert packet) := h.flows.insert h.absent h.near
  have hsize : (r.insert packet).buffer.size = r.buffer.size + 1 :=
    SortedMap.size_emplace h.absent
  obtain ⟨hroom, -, hdelivered⟩ := h.playing hplays
  have hprimed : (r.insert packet).primed = true := by
    unfold AudioReceiver.insert
    simp [hplays]
  have hdrain : (r.insert packet).drainReadyLocked [] = (r.insert packet, []) :=
    drainReadyLocked_missing [] hmissing
  obtain ⟨next, hbegin, hkey⟩ := SortedMap.begin_emplace (v := packet) h.absent
  have hnear : (next.1 - r.expected_seq).toNat < 32768 := by
    rw [hkey]
    exact h.near_first.trans_le reach_le
  have hmax : (r.insert packet).max_buffer_packets = r.max_buffer_packets := rfl
  -- before the packet there was room, with it the buffer is exactly full
  have hexact : (r.insert packet).buffer.size = (r.insert packet).max_buffer_packets.toNat := by
    rw [hmax]
    omega
  obtain ⟨first, hdrains, hkept, hset, hordered, hleft, hgone⟩ :=
    skip_full [] hflows hbegin hmissing hnear hexact
  -- the skip to the first entry and the drain behind it change no limit
  have hall := hkept.trans hdrains.kept
  have hrelease : (r.insert packet).release.1 =
      ((r.insert packet).maybeSkipLossLocked []).1.countBuffered := by
    unfold AudioReceiver.release
    rw [if_pos hprimed]
    simp only
    rw [hdrain]
  rw [hrelease]
  refine ⟨⟨hdrains.flows.countBuffered, ⟨?_, ?_⟩, ?_, ?_, ?_⟩, ?_⟩
  · exact hall.initial ▸ h.limits.pos
  · intro hle
    have hroom' := h.limits.room (hall.initial ▸ hle)
    rw [← hmax, ← hall.max] at hroom'
    exact hall.initial ▸ hroom'
  · intro hunset
    cases (hall.initialized.trans h.initialized).symm.trans hunset
  · intro _ hunprimed
    cases (hall.primed.trans hprimed).symm.trans hunprimed
  · exact fun _ => ⟨hall.max ▸ hleft, hgone, hdrains.delivered hset⟩
  -- the delivery is in order unless the skip went 32767 ahead, where the distance turns negative
  · rw [← hkey]
    refine (hdrains.ordered.trans hordered).trans ?_
    exact and_congr_right fun _ => forall_prop_of_true hdelivered

theorem Opens.release {packet : AudioRxPacket} (h : Opens r packet.seq) :
    Sound (r.insert packet).release.1 ∧ ((r.insert packet).release.1.Ordered ↔
      r.Ordered ∧ (r.primed = true → packet.seq ≠ r.expected_seq →
        r.max_buffer_packets.toNat ≤ r.buffer.size + 1 →
          (r.buffer.firstWith packet.seq - r.expected_seq).toNat ≠ 32767)) := by
  have hflows : Flows (r.insert packet) := h.flows.insert h.absent h.near
  have hsize : (r.insert packet).buffer.size = r.buffer.size + 1 :=
    SortedMap.size_emplace h.absent
  have hmem (k : UInt16) : k ∈ (r.insert packet).buffer ↔ k = packet.seq ∨ k ∈ r.buffer :=
    SortedMap.mem_emplace h.absent
  have hlimits : Limits (r.insert packet) := ⟨h.limits.pos, h.limits.room⟩
  cases hprimed : (r.insert packet).primed with
  -- playback has not started, and the packet does not start it
  | false =>
    obtain ⟨hwaits, hfew⟩ : r.primed = false ∧
        (r.insert packet).buffer.size < r.initial_buffer_packets.toNat := by
      unfold AudioReceiver.insert at hprimed ⊢
      simpa using hprimed
    obtain ⟨hdelivered, -, hexpected⟩ := h.waiting hwaits
    have hrelease : (r.insert packet).release.1 = (r.insert packet).countBuffered := by
      unfold AudioReceiver.release
      rw [if_neg (by simp [hprimed])]
    rw [hrelease]
    refine ⟨⟨hflows.countBuffered, hlimits, ?_, ?_, ?_⟩, ?_⟩
    · intro hunset
      cases h.initialized.symm.trans hunset
    · refine fun _ _ => ⟨hdelivered, hfew, (hmem _).mpr ?_⟩
      exact hexpected.symm
    · intro hset
      cases hprimed.symm.trans hset
    · refine (and_iff_left fun hset => ?_).symm
      cases hwaits.symm.trans hset
  | true =>
    by_cases hexpected : r.expected_seq ∈ (r.insert packet).buffer
    · obtain ⟨hsound, hordered⟩ := h.release_expected hprimed hexpected
      refine ⟨hsound, hordered.trans (and_iff_left fun hplays hother => ?_).symm⟩
      rcases (hmem _).mp hexpected with heq | hold
      · exact absurd heq.symm hother
      · exact absurd hold (h.playing hplays).2.1
    -- the expected packet is still missing: a full buffer skips it, another waits
    · obtain ⟨hother, hold⟩ : r.expected_seq ≠ packet.seq ∧ r.expected_seq ∉ r.buffer := by
        rwa [hmem, not_or] at hexpected
      have hplays : r.primed = true := by
        by_contra hwaits
        obtain ⟨-, -, hmem | heq⟩ := h.waiting ((Bool.not_eq_true _).mp hwaits)
        · exact hold hmem
        · exact hother heq
      by_cases hfull : r.max_buffer_packets.toNat ≤ r.buffer.size + 1
      · obtain ⟨hsound, hordered⟩ := h.release_skips hplays hexpected hfull
        refine ⟨hsound, hordered.trans (and_congr_right fun _ => ?_)⟩
        exact ⟨fun hfar _ _ _ => hfar, fun hfar => hfar hplays hother.symm hfull⟩
      · obtain ⟨hsound, hordered⟩ := h.release_waits hplays hexpected (Nat.not_le.mp hfull)
        exact ⟨hsound, hordered.trans (and_iff_left fun _ _ hset => absurd hset hfull).symm⟩

/-- An epoch starts in order, with nothing in the buffer. -/
theorem Flows.start (hempty : r.buffer.size = 0) (hmoves : r.moves = [])
    (hdelivered : r.delivered = [])
    (hsettled : r.settled = r.stats.delivered_packets + r.stats.lost_packets) : Flows r := by
  have hentries : r.buffer.entries = [] := List.length_eq_zero_iff.mp hempty
  refine ⟨?_, ?_, ?_, ?_, ?_⟩
  · intro entry hentry
    rw [hentries] at hentry
    cases hentry
  -- an empty buffer has no packet outside the window
  · rintro k ⟨packet, hentry⟩
    rw [hentries] at hentry
    cases hentry
  · intro move hmove
    rw [hmoves] at hmove
    cases hmove
  · rw [advance, hmoves, hsettled]
    exact Nat.zero_add _
  · intro k hk
    rw [hdelivered] at hk
    cases hk

theorem ordered_start (hdelivered : r.delivered = []) : r.Ordered := by
  unfold Ordered
  rw [hdelivered]
  exact .nil

/-- The packet that starts an epoch. -/
theorem Opens.start {seq : UInt16} (hflows : Flows r) (hlimits : Limits r)
    (hinitialized : r.initialized = true) (hprimed : r.primed = false)
    (hempty : r.buffer.size = 0) (hdelivered : r.delivered = [])
    (hexpected : r.expected_seq = seq) : Opens r seq := by
  refine ⟨hflows, hlimits, hinitialized, fun _ => ?_, fun hset => ?_, ?_, ?_⟩
  · exact ⟨hdelivered, hempty ▸ hlimits.pos, .inr hexpected⟩
  · cases hprimed.symm.trans hset
  · rw [hexpected, UInt16.sub_self]
    exact lt_min (by decide) (Nat.succ_pos _)
  -- nothing is buffered yet, so the packet is new
  · rintro ⟨packet, hentry⟩
    rw [List.length_eq_zero_iff.mp hempty] at hentry
    cases hentry

/-- A push whose packet starts an epoch leaves the playback in order. -/
theorem Opens.release_start {packet : AudioRxPacket} (h : Opens r packet.seq)
    (hprimed : r.primed = false) (hdelivered : r.delivered = []) :
    Sound (r.insert packet).release.1 ∧ (r.insert packet).release.1.Ordered := by
  obtain ⟨hsound, hordered⟩ := h.release
  refine ⟨hsound, hordered.mpr ⟨ordered_start hdelivered, fun hset => ?_⟩⟩
  cases hprimed.symm.trans hset

/-- What the counters of a call that delivers nothing leave alone. -/
theorem Sound.count (h : Sound r) {stats : Stats}
    (hdelivered : stats.delivered_packets = r.stats.delivered_packets)
    (hlost : stats.lost_packets = r.stats.lost_packets) : Sound { r with stats } := by
  refine ⟨⟨h.flows.keyed, h.flows.window, h.flows.forward, ?_, h.flows.last⟩,
    ⟨h.limits.pos, h.limits.room⟩, h.unset, h.waiting, h.playing⟩
  simp only [hdelivered, hlost]
  exact h.flows.counted

/-- A loss skip does not go so far that the next delivery is serially before the last one. -/
def NoFarSkip (r : AudioReceiver) : AudioAction → Prop
  | .pushPacket _ seq data _ =>
    data.getD [] ≠ [] → r.primed = true → 0 < seqDelta seq r.expected_seq →
      r.jumps seq = false → seq ∉ r.buffer →
        r.max_buffer_packets.toNat ≤ r.buffer.size + 1 →
          (r.buffer.firstWith seq - r.expected_seq).toNat ≠ 32767
  | .reset => True

variable {callback : PlaybackCallback} {seq : UInt16} {data : Option (List UInt8)}
  {timestamp_ntp : UInt64}

theorem seqDelta_self (seq : UInt16) : seqDelta seq seq = 0 := by
  unfold seqDelta
  rw [UInt16.sub_self]
  rfl

theorem ne_of_seqDelta_pos {a b : UInt16} (h : 0 < seqDelta a b) : a ≠ b := by
  rintro rfl
  rw [seqDelta_self] at h
  exact absurd h (by decide)

/-- A packet that is neither late nor the expected one is ahead of it. -/
theorem seqDelta_pos_of_ne {a b : UInt16} (h : ¬ seqDelta a b < 0) (hne : a ≠ b) :
    0 < seqDelta a b := by
  rw [seqDelta_neg] at h
  refine seqDelta_pos.mpr ⟨Nat.pos_of_ne_zero fun hzero => ?_, by omega⟩
  have hsub : a - b = 0 := UInt16.toNat_inj.mp hzero
  have hsame : a = b := by rw [← UInt16.sub_add_cancel a b, hsub, UInt16.zero_add]
  exact hne hsame

/-- A packet that is let in within an epoch. -/
theorem Sound.opens (h : Sound r) (hset : r.initialized = true)
    (hlate : ¬ seqDelta seq r.expected_seq < 0) (hnojump : r.jumps seq = false)
    (habsent : seq ∉ r.buffer) : Opens r seq := by
  refine ⟨h.flows, h.limits, hset, fun hwaits => ?_, h.playing, ?_, habsent⟩
  · obtain ⟨hdelivered, hfew, hmem⟩ := h.waiting hset hwaits
    exact ⟨hdelivered, hfew, .inl hmem⟩
  · have hgap : ¬ r.config.max_sequence_gap < (seqDelta seq r.expected_seq).toInt32.toUInt32 := by
      simpa [jumps] using hnojump
    -- a distance of zero or more reads the same as an unsigned number
    have hle := UInt32.le_iff_toNat_le.mp (UInt32.not_lt.mp hgap)
    rw [toUInt32_seqDelta hlate] at hle
    rw [seqDelta_neg] at hlate
    exact lt_min (by omega) (Nat.lt_succ_of_le hle)

/-- The first packet of an epoch that a reset or the constructor began. -/
theorem push_first (h : Sound r) (hfirst : r.initialized = false) (hdata : data.getD [] ≠ []) :
    Sound (r.pushPacket callback seq data timestamp_ntp).1 ∧
      (r.pushPacket callback seq data timestamp_ntp).1.Ordered := by
  obtain ⟨hempty, -⟩ := h.unset hfirst
  let started : AudioReceiver := { r.countReceived.startEpoch seq with initialized := true }
  have hreceive : r.receive seq = started := by
    unfold receive
    rw [hfirst]
    rfl
  have hflows : Flows started := .start hempty rfl rfl rfl
  have hopens : Opens started seq :=
    .start hflows ⟨h.limits.pos, h.limits.room⟩ rfl rfl hempty rfl rfl
  -- the epoch starts at this very packet
  have hdelta : seqDelta seq started.expected_seq = 0 := seqDelta_self seq
  have hlate : ¬ seqDelta seq started.expected_seq < 0 := by
    rw [hdelta]
    decide
  have hnojump : ¬ started.jumps seq = true := by
    unfold jumps
    rw [hdelta, decide_eq_true_eq]
    exact UInt32.not_lt.mpr UInt32.zero_le
  have hnew : ¬ (started.buffer.find? seq).isSome = true := by
    rw [SortedMap.find?_eq_none.mpr hopens.absent]
    nofun
  unfold pushPacket
  simp only
  rw [if_neg hdata, hreceive, if_neg hlate, checkGap, if_neg hnojump, if_neg hnew]
  exact Opens.release_start hopens rfl rfl

/-- A packet in an epoch under way. -/
theorem push_known (h : Sound r) (hset : r.initialized = true) (hdata : data.getD [] ≠ []) :
    Sound (r.pushPacket callback seq data timestamp_ntp).1 ∧
      (r.Ordered → (r.NoFarSkip (.pushPacket callback seq data timestamp_ntp) ↔
        (r.pushPacket callback seq data timestamp_ntp).1.Ordered)) := by
  have hreceive : r.receive seq = r.countReceived := by
    unfold receive
    rw [hset]
    rfl
  have hreceived : Sound r.countReceived := h.count rfl rfl
  unfold pushPacket
  simp only
  rw [if_neg hdata, hreceive]
  -- a late packet is counted and dropped
  by_cases hlate : seqDelta seq r.countReceived.expected_seq < 0
  · rw [if_pos hlate]
    refine ⟨hreceived.count rfl rfl, fun hordered => ⟨fun _ => hordered, fun _ _ _ hahead => ?_⟩⟩
    exact absurd hlate (Int16.not_lt.mpr (Int16.le_of_lt hahead))
  rw [if_neg hlate]
  cases hjumps : r.countReceived.jumps seq with
  -- a far jump starts over, with an empty buffer
  | true =>
    let started := r.countReceived.jumpTo seq
    let packet : AudioRxPacket := { seq, timestamp_ntp, payload := data.getD [] }
    have hflows : Flows started := .start rfl rfl rfl rfl
    have hopens : Opens started packet.seq :=
      .start hflows ⟨h.limits.pos, h.limits.room⟩ hset rfl rfl rfl rfl
    have hnew : ¬ (started.buffer.find? seq).isSome = true := nofun
    rw [checkGap, if_pos hjumps, if_neg hnew]
    obtain ⟨hsound, hstarted⟩ := hopens.release_start rfl rfl
    refine ⟨hsound, fun _ => ⟨fun _ => hstarted, fun _ _ _ _ hnojump => ?_⟩⟩
    cases hjumps.symm.trans hnojump
  | false =>
    have hgap : r.countReceived.checkGap seq = r.countReceived := if_neg (by simp [hjumps])
    rw [hgap]
    -- a duplicate is counted and dropped, anything else is buffered
    by_cases hmem : seq ∈ r.countReceived.buffer
    · have hfound : (r.countReceived.buffer.find? seq).isSome = true := by
        refine Option.isSome_iff_ne_none.mpr fun hnone => ?_
        exact SortedMap.find?_eq_none.mp hnone hmem
      rw [if_pos hfound]
      exact ⟨hreceived.count rfl rfl, fun hordered =>
        ⟨fun _ => hordered, fun _ _ _ _ _ habsent => absurd hmem habsent⟩⟩
    · have hnew : ¬ (r.countReceived.buffer.find? seq).isSome = true := by
        rw [SortedMap.find?_eq_none.mpr hmem]
        nofun
      rw [if_neg hnew]
      let packet : AudioRxPacket := { seq, timestamp_ntp, payload := data.getD [] }
      have hopens : Opens r.countReceived packet.seq := hreceived.opens hset hlate hjumps hmem
      obtain ⟨hsound, hiff⟩ := hopens.release
      refine ⟨hsound, fun hordered => ⟨fun hnear => hiff.mpr ⟨hordered, ?_⟩, fun hnext => ?_⟩⟩
      · intro hplays hother hfull
        exact hnear hdata hplays (seqDelta_pos_of_ne hlate hother) hjumps hmem hfull
      · intro _ hplays hahead _ _ hfull
        exact (hiff.mp hnext).2 hplays (ne_of_seqDelta_pos hahead) hfull

/-- A push keeps the receiver sound, and the order holds afterwards exactly where it skipped no
packet 32767 ahead. -/
theorem Sound.push (h : Sound r) :
    Sound (r.pushPacket callback seq data timestamp_ntp).1 ∧
      (r.Ordered → (r.NoFarSkip (.pushPacket callback seq data timestamp_ntp) ↔
        (r.pushPacket callback seq data timestamp_ntp).1.Ordered)) := by
  by_cases hdata : data.getD [] = []
  · unfold pushPacket
    simp only
    rw [if_pos hdata]
    exact ⟨h, fun hordered => ⟨fun _ => hordered, fun _ hset => absurd hdata hset⟩⟩
  -- before the first packet there is no expected number yet
  cases hset : r.initialized with
  | true => exact push_known h hset hdata
  | false =>
    obtain ⟨hsound, hstarted⟩ := push_first h hset hdata
    refine ⟨hsound, fun _ => ⟨fun _ => hstarted, fun _ _ hplays => ?_⟩⟩
    cases (h.unset hset).2.symm.trans hplays

/-! ## What is handed on -/

/-- The packets `next` were handed on, after those of `ready_packets`. -/
structure HandsOn (r : AudioReceiver) (ready_packets : List AudioRxPacket)
    (next : AudioReceiver × List AudioRxPacket) (handed : List AudioRxPacket) : Prop where
  ready : next.2 = ready_packets ++ handed
  delivered : next.1.delivered = (handed.map AudioRxPacket.seq).reverse ++ r.delivered

/-- The drain appends what it takes out to the ready packets and to the deliveries alike. -/
theorem handsOn_drainRounds (rounds : ℕ) (r : AudioReceiver)
    (ready_packets : List AudioRxPacket) :
    ∃ handed, HandsOn r ready_packets (drainRounds rounds r ready_packets) handed := by
  induction rounds generalizing r ready_packets with
  | zero => exact ⟨[], (List.append_nil _).symm, rfl⟩
  | succ rounds ih =>
    unfold drainRounds
    split
    · exact ⟨[], (List.append_nil _).symm, rfl⟩
    · rename_i packet _
      obtain ⟨handed, hready, hdelivered⟩ := ih (r.deliver packet) (ready_packets ++ [packet])
      refine ⟨packet :: handed, ?_, ?_⟩
      · rw [hready, List.append_assoc, List.singleton_append]
      · rw [hdelivered, List.map_cons, List.reverse_cons, List.append_assoc]
        rfl

/-- Two hand-overs after each other are one hand-over of both. -/
theorem HandsOn.trans {d next : AudioReceiver × List AudioRxPacket}
    {ready first rest : List AudioRxPacket} (h : HandsOn r ready d first)
    (h' : HandsOn d.1 d.2 next rest) : HandsOn r ready next (first ++ rest) := by
  constructor
  · rw [h'.ready, h.ready, List.append_assoc]
  · rw [h'.delivered, h.delivered, List.map_append, List.reverse_append, List.append_assoc]

/-- The skips deliver what they take out, and nothing on their own. -/
theorem handsOn_skipRounds (rounds : ℕ) (r : AudioReceiver) (ready_packets : List AudioRxPacket) :
    ∃ handed, HandsOn r ready_packets (skipRounds rounds r ready_packets) handed := by
  induction rounds generalizing r ready_packets with
  | zero => exact ⟨[], (List.append_nil _).symm, rfl⟩
  | succ rounds ih =>
    unfold skipRounds
    split
    · exact ⟨[], (List.append_nil _).symm, rfl⟩
    split
    · exact ⟨[], (List.append_nil _).symm, rfl⟩
    · rename_i next _
      -- a skip counts losses, it delivers nothing
      have hkept : (r.skipTo next.1).delivered = r.delivered := by
        unfold skipTo
        simp only
        split <;> rfl
      obtain ⟨first, hfirst⟩ := handsOn_drainRounds (r.skipTo next.1).buffer.size
        (r.skipTo next.1) ready_packets
      obtain ⟨rest, hrest⟩ := ih ((r.skipTo next.1).drainReadyLocked ready_packets).1
        ((r.skipTo next.1).drainReadyLocked ready_packets).2
      have hall := hfirst.trans hrest
      exact ⟨first ++ rest, hall.ready, hkept ▸ hall.delivered⟩

/-- The numbers `pushPacket` logs as delivered are those of the packets it hands to the
callback, in their order. -/
theorem pushPacket_handsOn (r : AudioReceiver) (callback : PlaybackCallback) (seq : UInt16)
    (data : Option (List UInt8)) (timestamp_ntp : UInt64) :
    ∃ earlier, (earlier = r.delivered ∨ earlier = []) ∧
      (r.pushPacket callback seq data timestamp_ntp).1.delivered =
        ((r.pushPacket callback seq data timestamp_ntp).2.1.map AudioRxPacket.seq).reverse ++
          earlier := by
  have hreceive : (r.receive seq).delivered = r.delivered ∨ (r.receive seq).delivered = [] := by
    unfold receive
    split
    · exact .inr rfl
    · exact .inl rfl
  have hgap : ((r.receive seq).checkGap seq).delivered = r.delivered ∨
      ((r.receive seq).checkGap seq).delivered = [] := by
    unfold checkGap
    split
    · exact .inr rfl
    · exact hreceive
  -- what is released is first drained, then drained after skips
  have hrelease (d : AudioReceiver) : d.release.1.delivered =
      (d.release.2.map AudioRxPacket.seq).reverse ++ d.delivered := by
    unfold release
    split
    · obtain ⟨first, hfirst⟩ := handsOn_drainRounds d.buffer.size d []
      obtain ⟨rest, hrest⟩ := handsOn_skipRounds (d.drainReadyLocked []).1.buffer.size
        (d.drainReadyLocked []).1 (d.drainReadyLocked []).2
      have hall := hfirst.trans hrest
      exact hall.delivered.trans (by rw [← List.nil_append (first ++ rest), ← hall.ready]; rfl)
    · rfl
  unfold pushPacket
  simp only
  split
  · exact ⟨_, .inl rfl, rfl⟩
  split
  · exact ⟨_, hreceive, rfl⟩
  split
  · exact ⟨_, hgap, rfl⟩
  · exact ⟨_, hgap, hrelease _⟩

/-! ## Runs -/

/-- The order of the playback, as far as the sequence numbers of an epoch tell. -/
structure InOrder (r : AudioReceiver) : Prop where
  /-- The expected number only moves forward. -/
  forward : ∀ move ∈ r.moves, 0 < seqDelta move.2 move.1
  ordered : r.Ordered
  /-- Every number it passed was delivered, or counted as lost. -/
  counted : r.advance + r.settled = r.stats.delivered_packets + r.stats.lost_packets

theorem le_max_toNat (a b : UInt32) : a.toNat ≤ (max a b).toNat := by
  change a.toNat ≤ (if a ≤ b then b else a).toNat
  split
  · rename_i hle
    exact UInt32.le_iff_toNat_le.mp hle
  · exact le_rfl

/-- A new receiver is sound: its buffer is larger than the count that starts playback. -/
theorem sound_construct (config : Config) : Sound (construct config) where
  flows := .start rfl rfl rfl rfl
  limits := by
    have hpos := le_max_toNat 1
      (packetCountFromMs config.initial_buffer_ms config.frame_duration_ms)
    refine ⟨hpos, fun hle => ?_⟩
    have hroom := le_max_toNat ((construct config).initial_buffer_packets + 1)
      (packetCountFromMs config.max_buffer_ms config.frame_duration_ms)
    -- the one added cannot wrap below the largest initial count
    rw [UInt32.toNat_add] at hroom
    have hone : (1 : UInt32).toNat = 1 := rfl
    rw [hone, Nat.mod_eq_of_lt (by omega)] at hroom
    exact hroom
  unset _ := ⟨rfl, rfl⟩
  waiting hset := by cases hset
  playing hset := by cases hset

/-- A reset leaves an empty receiver, in order. -/
theorem sound_reset (h : Sound r) : Sound r.reset ∧ r.reset.Ordered := by
  refine ⟨⟨.start rfl rfl rfl rfl, ⟨h.limits.pos, h.limits.room⟩, fun _ => ⟨rfl, rfl⟩, ?_, ?_⟩,
    ordered_start rfl⟩
  · intro hset
    cases hset
  · intro hset
    cases hset

/-- Every call keeps the receiver sound. -/
theorem Sound.step (h : Sound r) {a : AudioAction} {t : AudioReceiver}
    (hstep : r.step a = some t) : Sound t := by
  cases a with
  | pushPacket callback seq data timestamp_ntp =>
    cases hstep
    exact h.push.1
  | reset =>
    cases hstep
    exact (sound_reset h).1

/-- A call keeps the playback in order exactly when it makes no far skip. -/
theorem inOrder_step (h : Sound r) (horder : r.InOrder) {a : AudioAction} {t : AudioReceiver}
    (hstep : r.step a = some t) : r.NoFarSkip a ↔ t.InOrder := by
  have hflows : Flows t := (h.step hstep).flows
  have hordered : r.NoFarSkip a ↔ t.Ordered := by
    -- a reset skips nothing and starts an empty delivery
    cases a with
    | pushPacket callback seq data timestamp_ntp =>
      cases hstep
      exact h.push.2 horder.ordered
    | reset =>
      cases hstep
      exact ⟨fun _ => (sound_reset h).2, fun _ => trivial⟩
  exact hordered.trans ⟨fun hnext => ⟨hflows.forward, hnext, hflows.counted⟩, fun h => h.ordered⟩

/-- In every run the expected number only moves forward, over numbers that are delivered or
counted as lost; and the numbers of an epoch are delivered in serial order throughout the run
exactly when no loss skip goes to a packet 32767 numbers ahead. -/
theorem playback_in_order (config : Config) (actions : List AudioAction) (r : AudioReceiver)
    (hrun : runSteps step (construct config) actions = some r) :
    ((∀ move ∈ r.moves, 0 < seqDelta move.2 move.1) ∧
      r.advance + r.settled = r.stats.delivered_packets + r.stats.lost_packets) ∧
    (StepsMeet step NoFarSkip (construct config) actions ↔
      ∀ prior u, prior <+: actions →
        runSteps step (construct config) prior = some u → u.InOrder) := by
  have hstart := sound_construct config
  have hsound : Sound r :=
    runSteps_invariant (fun _ _ _ h hstep => Sound.step h hstep) hstart hrun
  refine ⟨⟨hsound.flows.forward, hsound.flows.counted⟩, ?_⟩
  refine stepsMeet_iff (fun _ _ _ h hstep => Sound.step h hstep)
    (fun _ _ _ h horder hstep => inOrder_step h horder hstep) hstart ?_ hrun
  exact ⟨hstart.flows.forward, ordered_start rfl, hstart.flows.counted⟩

/-- Two packets are enough to fill the buffer. -/
def shortBuffer (max_sequence_gap : UInt32) : Config :=
  { initial_buffer_ms := 20, max_buffer_ms := 40, max_sequence_gap }

def push (seq : UInt16) : AudioAction := .pushPacket none seq (some [1]) 0

/-- The number 0 is lost, right after the wrap. -/
theorem playback_in_order_wrap :
    ∃ r, runSteps step (construct (shortBuffer 1000)) [push 65535, push 1, push 2] = some r ∧
      r.delivered = [2, 1, 65535] ∧ r.stats.lost_packets = 1 ∧ r.InOrder := by
  obtain ⟨r, hrun, hdelivered, hlost⟩ : ∃ r,
      runSteps step (construct (shortBuffer 1000)) [push 65535, push 1, push 2] = some r ∧
      r.delivered = [2, 1, 65535] ∧ r.stats.lost_packets = 1 := ⟨_, rfl, rfl, rfl⟩
  obtain ⟨-, hiff⟩ := playback_in_order (shortBuffer 1000) [push 65535, push 1, push 2] r hrun
  refine ⟨r, hrun, hdelivered, hlost, hiff.mp ?_ _ _ List.prefix_rfl hrun⟩
  refine StepsMeet.cons rfl (fun _ hplays => by cases hplays) ?_
  refine StepsMeet.cons rfl (fun _ _ _ _ _ hfull => absurd hfull (by decide)) ?_
  exact StepsMeet.cons rfl (fun _ _ _ _ _ _ => by decide) trivial

/-- A skip across the wrap goes 32768 numbers past the last delivery. -/
theorem playback_out_of_order :
    ¬ ∀ config actions r, runSteps step (construct config) actions = some r → r.InOrder := by
  intro hall
  have horder := hall (shortBuffer 40000) [push 39999, push 50000, push 7231] _ rfl
  have hchain : List.IsChain (fun later earlier => 0 < seqDelta later earlier) [7231, 39999] :=
    horder.ordered
  exact absurd (List.isChain_cons_cons.mp hchain).1 (by decide)

/-! ## Gaps that keep the order -/

theorem config_drainRounds (rounds : ℕ) (r : AudioReceiver) (ready_packets : List AudioRxPacket) :
    (drainRounds rounds r ready_packets).1.config = r.config := by
  induction rounds generalizing r ready_packets with
  | zero => rfl
  | succ rounds ih =>
    unfold drainRounds
    split
    · rfl
    · exact ih _ _

theorem config_skipRounds (rounds : ℕ) (r : AudioReceiver) (ready_packets : List AudioRxPacket) :
    (skipRounds rounds r ready_packets).1.config = r.config := by
  induction rounds generalizing r ready_packets with
  | zero => rfl
  | succ rounds ih =>
    unfold skipRounds
    split
    · rfl
    split
    · rfl
    · simp only
      rw [ih]
      unfold drainReadyLocked
      rw [config_drainRounds]
      unfold skipTo
      simp only
      split <;> rfl

theorem config_release : r.release.1.config = r.config := by
  unfold release maybeSkipLossLocked drainReadyLocked
  split
  · exact (config_skipRounds _ _ _).trans (config_drainRounds _ _ _)
  · rfl

theorem config_step {a : AudioAction} {t : AudioReceiver} (hstep : r.step a = some t) :
    t.config = r.config := by
  cases a with
  | reset =>
    cases hstep
    rfl
  | pushPacket callback seq data timestamp_ntp =>
    cases hstep
    have hreceive : (r.receive seq).config = r.config := by
      unfold receive
      split <;> rfl
    have hgap : ((r.receive seq).checkGap seq).config = r.config := by
      rw [← hreceive]
      unfold checkGap
      split <;> rfl
    unfold pushPacket
    simp only
    split
    · rfl
    split
    · exact hreceive
    split
    · exact hgap
    · exact config_release.trans hgap

/-- A packet that is let in less than 32767 numbers ahead makes no far skip. -/
theorem noFarSkip_of_gap (h : Sound r) (hgap : r.config.max_sequence_gap.toNat < 32767)
    (a : AudioAction) : r.NoFarSkip a := by
  cases a with
  | reset => trivial
  | pushPacket callback seq data timestamp_ntp =>
    intro _ hplays hahead hnojump habsent _ hfar
    have hset : r.initialized = true := by
      by_contra hunset
      cases (h.unset ((Bool.not_eq_true _).mp hunset)).2.symm.trans hplays
    have hlate : ¬ seqDelta seq r.expected_seq < 0 := Int16.not_lt.mpr (Int16.le_of_lt hahead)
    let packet : AudioRxPacket := { seq, timestamp_ntp, payload := data.getD [] }
    have hopens : Opens r packet.seq := h.opens hset hlate hnojump habsent
    have hnear := hopens.near_first
    rw [hfar] at hnear
    have hreach : r.reach ≤ r.config.max_sequence_gap.toNat + 1 := min_le_right _ _
    omega

/-- A receiver of such a configuration, between two calls. -/
structure Plays (config : Config) (r : AudioReceiver) : Prop where
  sound : Sound r
  config : r.config = config
  order : r.InOrder

theorem Plays.step {config : Config} (h : Plays config r)
    (hgap : config.max_sequence_gap.toNat < 32767) {a : AudioAction} {t : AudioReceiver}
    (hstep : r.step a = some t) : Plays config t where
  sound := h.sound.step hstep
  config := (config_step hstep).trans h.config
  order := (inOrder_step h.sound h.order hstep).mp
    (noFarSkip_of_gap h.sound (h.config.symm ▸ hgap) a)

/-- With gaps as they are configured by default, the playback is in order in every run. -/
theorem playback_in_order_of_gap (config : Config) (hgap : config.max_sequence_gap.toNat < 32767)
    (actions : List AudioAction) (r : AudioReceiver)
    (hrun : runSteps step (construct config) actions = some r) : r.InOrder := by
  have hsound := sound_construct config
  have hstart : Plays config (construct config) :=
    ⟨hsound, rfl, hsound.flows.forward, ordered_start rfl, hsound.flows.counted⟩
  have hplays : Plays config r :=
    runSteps_invariant (fun _ _ _ h hstep => Plays.step h hgap hstep) hstart hrun
  exact hplays.order

end AudioReceiver

end TeleopBridge.Audio
