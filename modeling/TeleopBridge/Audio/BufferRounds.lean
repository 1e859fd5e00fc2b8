import Mathlib.Algebra.GroupWithZero.Nat
import Mathlib.Data.List.Chain
import TeleopBridge.Audio.AudioReceiver

/-!
# The Rounds of the Jitter Buffer

The buffer is read in numeric order while the sequence numbers go round. This file shows what
a delivery and a loss skip preserve nevertheless: no buffered number is numerically behind the
expected one unless it has wrapped and lies ahead.

## Key Results

- `drains_drainReadyLocked`: a drain delivers in order until the expected packet is missing.
- `skip_full`: a full buffer makes room by one skip, which goes forward.
-/

namespace TeleopBridge.Audio

open TeleopBridge.Support

/-! ## Sequence numbers -/

theorem toNat_sub_eq (a b : UInt16) : (a - b).toNat = ahead 65536 b.toNat a.toNat :=
  UInt16.toNat_sub a b

theorem toNat_succ (a : UInt16) : (a + 1).toNat = (a.toNat + 1) % 65536 := UInt16.toNat_add a 1

theorem toInt_seqDelta (lhs rhs : UInt16) : (seqDelta lhs rhs).toInt =
    if (lhs - rhs).toNat < 32768 then ((lhs - rhs).toNat : Int)
    else (lhs - rhs).toNat - 65536 := by
  have hbits : (seqDelta lhs rhs).toInt = (lhs - rhs).toBitVec.toInt := rfl
  have hnat : (lhs - rhs).toBitVec.toNat = (lhs - rhs).toNat := rfl
  rw [hbits, BitVec.toInt_eq_toNat_cond, hnat]
  split <;> split <;> omega

theorem seqDelta_neg {lhs rhs : UInt16} : seqDelta lhs rhs < 0 ↔ 32768 ≤ (lhs - rhs).toNat := by
  have hlt := UInt16.toNat_lt (lhs - rhs)
  rw [Int16.lt_iff_toInt_lt, toInt_seqDelta, Int16.toInt_zero]
  split <;> omega

theorem seqDelta_pos {lhs rhs : UInt16} :
    0 < seqDelta lhs rhs ↔ 0 < (lhs - rhs).toNat ∧ (lhs - rhs).toNat < 32768 := by
  have hlt := UInt16.toNat_lt (lhs - rhs)
  rw [Int16.lt_iff_toInt_lt, toInt_seqDelta, Int16.toInt_zero]
  split <;> omega

/-- `static_cast<uint32_t>` of a difference that is not negative. -/
theorem toUInt32_seqDelta {lhs rhs : UInt16} (h : ¬ seqDelta lhs rhs < 0) :
    (seqDelta lhs rhs).toInt32.toUInt32.toNat = (lhs - rhs).toNat := by
  have hwide : (seqDelta lhs rhs).toInt32.toBitVec.toInt = (seqDelta lhs rhs).toInt :=
    Int16.toInt_toInt32 _
  have hbits : (seqDelta lhs rhs).toInt32.toUInt32.toNat =
      (seqDelta lhs rhs).toInt32.toBitVec.toNat := rfl
  have hlt := (seqDelta lhs rhs).toInt32.toBitVec.isLt
  rw [BitVec.toInt_eq_toNat_cond, toInt_seqDelta] at hwide
  rw [seqDelta_neg] at h
  rw [hbits]
  split at hwide <;> split at hwide <;> omega

@[simp] theorem toUInt16_seqDelta (lhs rhs : UInt16) : (seqDelta lhs rhs).toUInt16 = lhs - rhs :=
  rfl

theorem succ_sub (k : UInt16) : k + 1 - k = 1 := by
  rw [UInt16.add_comm, UInt16.add_sub_cancel]

/-- The number after another one is serially after it. -/
theorem seqDelta_succ {k e : UInt16} (h : k + 1 = e) : 0 < seqDelta e k := by
  rw [← h, seqDelta_pos, succ_sub]
  decide

/-- Seen from the number before, the way is longer by one. -/
theorem toNat_sub_pred {k e n : UInt16} (h : k + 1 = e) (hnear : (n - e).toNat < 32768) :
    (n - k).toNat = (n - e).toNat + 1 := by
  have hsucc : e.toNat = (k.toNat + 1) % 65536 := by rw [← h, toNat_succ]
  rw [toNat_sub_eq, hsucc] at hnear
  rw [toNat_sub_eq, toNat_sub_eq, hsucc]
  exact ahead_pred (UInt16.toNat_lt k) (UInt16.toNat_lt n) (by omega)

namespace AudioReceiver

variable {r d : AudioReceiver}

/-! ## What every part of a push preserves -/

/-- How far ahead of the expected number a packet is let in. -/
def reach (r : AudioReceiver) : ℕ := min 32768 (r.config.max_sequence_gap.toNat + 1)

/-- How far the expected number moved in this epoch. -/
def advance (r : AudioReceiver) : ℕ := (r.moves.map fun move => (move.2 - move.1).toNat).sum

/-- Each delivered number is serially after the one before. -/
def Ordered (r : AudioReceiver) : Prop :=
  r.delivered.IsChain fun later earlier => 0 < seqDelta later earlier

structure Flows (r : AudioReceiver) : Prop where
  keyed : ∀ entry ∈ r.buffer.entries, entry.2.seq = entry.1
  /-- No buffered number is numerically behind the expected one. -/
  window : ∀ k ∈ r.buffer, Unwraps 65536 r.reach r.expected_seq.toNat k.toNat
  forward : ∀ move ∈ r.moves, 0 < seqDelta move.2 move.1
  counted : r.advance + r.settled = r.stats.delivered_packets + r.stats.lost_packets
  last : ∀ k ∈ r.delivered.head?, k + 1 = r.expected_seq

/-- What delivering leaves alone. -/
structure Kept (r d : AudioReceiver) : Prop where
  config : d.config = r.config
  initial : d.initial_buffer_packets = r.initial_buffer_packets
  max : d.max_buffer_packets = r.max_buffer_packets
  initialized : d.initialized = r.initialized
  primed : d.primed = r.primed

theorem Kept.trans {t : AudioReceiver} (h : Kept r d) (h' : Kept d t) : Kept r t :=
  ⟨h'.config.trans h.config, h'.initial.trans h.initial, h'.max.trans h.max,
    h'.initialized.trans h.initialized, h'.primed.trans h.primed⟩

/-- The expected packet is delivered. -/
theorem Flows.deliver {packet : AudioRxPacket} (h : Flows r)
    (hfind : r.buffer.find? r.expected_seq = some packet) :
    Flows (r.deliver packet) ∧ ((r.deliver packet).Ordered ↔ r.Ordered) := by
  have hmem := SortedMap.find?_eq_some hfind
  have hseq : packet.seq = r.expected_seq := h.keyed _ hmem
  have hone : (r.expected_seq + 1 - r.expected_seq).toNat = 1 := by
    rw [succ_sub]
    rfl
  refine ⟨⟨?_, ?_, ?_, ?_, ?_⟩, ?_⟩
  · intro entry hentry
    exact h.keyed entry (SortedMap.mem_entries_erase.mp hentry).1
  · intro k hk
    obtain ⟨hk, hne⟩ := SortedMap.mem_erase.mp hk
    have hnext : (r.deliver packet).expected_seq.toNat = (r.expected_seq.toNat + 1) % 65536 :=
      toNat_succ _
    rw [hnext]
    exact (h.window k hk).succ (UInt16.toNat_lt _) fun heq => hne (UInt16.toNat_inj.mp heq)
  · intro move hmove
    rcases List.mem_cons.mp hmove with rfl | hmove
    · exact seqDelta_succ rfl
    · exact h.forward move hmove
  · have hcounted := h.counted
    have hadvance : (r.deliver packet).advance = 1 + r.advance := by
      unfold advance AudioReceiver.deliver moveTo
      simp only [List.map_cons, List.sum_cons, hone]
    have hdelivered : (r.deliver packet).stats.delivered_packets =
        r.stats.delivered_packets + 1 := rfl
    have hlost : (r.deliver packet).stats.lost_packets = r.stats.lost_packets := rfl
    have hsettled : (r.deliver packet).settled = r.settled := rfl
    omega
  · intro k hk
    cases hk
    rw [hseq]
    rfl
  · unfold Ordered AudioReceiver.deliver
    simp only
    rw [List.isChain_cons]
    refine and_iff_right fun k hk => ?_
    rw [hseq]
    exact seqDelta_succ (h.last k hk)

/-- The rounds of `drainReadyLocked` keep this. -/
structure Drains (r d : AudioReceiver) : Prop where
  flows : Flows d
  ordered : d.Ordered ↔ r.Ordered
  kept : Kept r d
  size : d.buffer.size ≤ r.buffer.size
  delivered : r.delivered ≠ [] → d.delivered ≠ []

theorem Drains.refl (h : Flows r) : Drains r r :=
  ⟨h, Iff.rfl, ⟨rfl, rfl, rfl, rfl, rfl⟩, le_rfl, id⟩

theorem Drains.trans {t : AudioReceiver} (h : Drains r d) (h' : Drains d t) : Drains r t :=
  ⟨h'.flows, h'.ordered.trans h.ordered, h.kept.trans h'.kept, h'.size.trans h.size,
    fun hset => h'.delivered (h.delivered hset)⟩

theorem size_deliver {packet : AudioRxPacket}
    (hfind : r.buffer.find? r.expected_seq = some packet) :
    (r.deliver packet).buffer.size + 1 = r.buffer.size :=
  SortedMap.size_erase ⟨packet, SortedMap.find?_eq_some hfind⟩

theorem drains_deliver {packet : AudioRxPacket} (h : Flows r)
    (hfind : r.buffer.find? r.expected_seq = some packet) : Drains r (r.deliver packet) := by
  obtain ⟨hflows, hordered⟩ := h.deliver hfind
  have hsize := size_deliver hfind
  exact ⟨hflows, hordered, ⟨rfl, rfl, rfl, rfl, rfl⟩, by omega, fun _ => nofun⟩

/-- After enough rounds the expected packet is not in the buffer. -/
theorem drains_rounds (rounds : ℕ) (ready_packets : List AudioRxPacket) (h : Flows r) :
    Drains r (drainRounds rounds r ready_packets).1 ∧
      (r.buffer.size ≤ rounds → (drainRounds rounds r ready_packets).1.expected_seq ∉
        (drainRounds rounds r ready_packets).1.buffer) := by
  induction rounds generalizing r ready_packets with
  | zero =>
    refine ⟨.refl h, fun hsize hmem => ?_⟩
    obtain ⟨packet, hentry⟩ := hmem
    have hpos := List.length_pos_of_mem hentry
    exact absurd hpos (Nat.not_lt.mpr hsize)
  | succ rounds ih =>
    unfold drainRounds
    cases hfind : r.buffer.find? r.expected_seq with
    | none => exact ⟨.refl h, fun _ => SortedMap.find?_eq_none.mp hfind⟩
    | some packet =>
      have hdeliver := drains_deliver h hfind
      have hsize := size_deliver hfind
      obtain ⟨hrest, hgone⟩ := ih (ready_packets ++ [packet]) hdeliver.flows
      exact ⟨hdeliver.trans hrest, fun hrounds => hgone (by omega)⟩

theorem drains_drainReadyLocked (ready_packets : List AudioRxPacket) (h : Flows r) :
    Drains r (r.drainReadyLocked ready_packets).1 ∧
      (r.drainReadyLocked ready_packets).1.expected_seq ∉
        (r.drainReadyLocked ready_packets).1.buffer := by
  obtain ⟨hdrains, hgone⟩ := drains_rounds r.buffer.size ready_packets h
  exact ⟨hdrains, hgone le_rfl⟩

/-- The first round of a drain that finds its packet. -/
theorem drainReadyLocked_found {packet : AudioRxPacket} (ready_packets : List AudioRxPacket)
    (hfind : r.buffer.find? r.expected_seq = some packet) :
    r.drainReadyLocked ready_packets =
      (r.deliver packet).drainReadyLocked (ready_packets ++ [packet]) := by
  unfold drainReadyLocked
  rw [← size_deliver hfind, drainRounds, hfind]

theorem drainReadyLocked_missing (ready_packets : List AudioRxPacket)
    (hgone : r.expected_seq ∉ r.buffer) :
    r.drainReadyLocked ready_packets = (r, ready_packets) := by
  unfold drainReadyLocked
  cases r.buffer.size with
  | zero => rfl
  | succ rounds => rw [drainRounds, SortedMap.find?_eq_none.mpr hgone]

/-! ## The loss skip -/

theorem skipTo_eq {seq : UInt16} (hpos : 0 < seqDelta seq r.expected_seq) :
    r.skipTo seq =
      { r.moveTo seq with
        stats := { r.stats with
          lost_packets := r.stats.lost_packets + (seq - r.expected_seq).toNat } } := by
  unfold skipTo
  simp only
  rw [if_neg (Int16.not_le.mpr hpos), toUInt16_seqDelta]

/-- A skip goes forward, if the first packet of the buffer lies ahead, and delivers it. -/
theorem Flows.skip {next : UInt16 × AudioRxPacket} (h : Flows r)
    (hbegin : r.buffer.begin? = some next) (hgone : r.expected_seq ∉ r.buffer)
    (hnear : (next.1 - r.expected_seq).toNat < 32768) :
    ∃ packet, (r.skipTo next.1).buffer.find? (r.skipTo next.1).expected_seq = some packet ∧
      Flows ((r.skipTo next.1).deliver packet) ∧
      (((r.skipTo next.1).deliver packet).Ordered ↔
        r.Ordered ∧ (r.delivered ≠ [] → (next.1 - r.expected_seq).toNat ≠ 32767)) := by
  have hmem : next.1 ∈ r.buffer := ⟨next.2, SortedMap.begin_mem hbegin⟩
  have hpos : 0 < seqDelta next.1 r.expected_seq := by
    refine seqDelta_pos.mpr ⟨?_, hnear⟩
    by_contra hzero
    have heq : next.1 - r.expected_seq = 0 := UInt16.toNat_inj.mp (by simpa using hzero)
    have hsame : next.1 = r.expected_seq := by
      rw [← UInt16.sub_add_cancel next.1 r.expected_seq, heq, UInt16.zero_add]
    exact hgone (hsame ▸ hmem)
  obtain ⟨packet, hfind⟩ : ∃ packet, r.buffer.find? next.1 = some packet :=
    Option.ne_none_iff_exists'.mp fun hnone => SortedMap.find?_eq_none.mp hnone hmem
  have hseq : packet.seq = next.1 := h.keyed _ (SortedMap.find?_eq_some hfind)
  rw [skipTo_eq hpos]
  refine ⟨packet, hfind, ⟨?_, ?_, ?_, ?_, ?_⟩, ?_⟩
  · intro entry hentry
    exact h.keyed entry (SortedMap.mem_entries_erase.mp hentry).1
  · intro k hk
    obtain ⟨hk, hne⟩ := SortedMap.mem_erase.mp hk
    have hle : next.1.toNat ≤ k.toNat := SortedMap.begin_le hbegin hk
    have hafter := (Unwraps.of_le (M := 65536) (H := r.reach) hle).succ (UInt16.toNat_lt next.1)
      fun heq => hne (UInt16.toNat_inj.mp heq)
    rw [← toNat_succ] at hafter
    exact hafter
  · intro move hmove
    rcases List.mem_cons.mp hmove with rfl | hmove
    · exact seqDelta_succ rfl
    rcases List.mem_cons.mp hmove with rfl | hmove
    · exact hpos
    · exact h.forward move hmove
  · have hone : (next.1 + 1 - next.1).toNat = 1 := by
      rw [succ_sub]
      rfl
    have hcounted := h.counted
    unfold advance at hcounted
    unfold advance AudioReceiver.deliver moveTo
    simp only [List.map_cons, List.sum_cons, hone]
    omega
  · intro k hk
    cases hk
    rw [hseq]
    rfl
  · unfold Ordered AudioReceiver.deliver moveTo
    simp only
    rw [List.isChain_cons, hseq, and_comm]
    refine and_congr_right fun _ => ?_
    -- the latest delivery was the number before the expected one
    have hlast := h.last
    cases hdelivered : r.delivered with
    | nil => simp
    | cons latest earlier =>
      rw [hdelivered] at hlast
      have hway := toNat_sub_pred (hlast latest rfl) hnear
      simp only [List.head?_cons, Option.mem_def, Option.some.injEq, forall_eq', ne_eq,
        reduceCtorEq, not_false_eq_true, forall_const]
      rw [seqDelta_pos, hway]
      omega

theorem skipRounds_idle (rounds : ℕ) (ready_packets : List AudioRxPacket)
    (hroom : r.buffer.size < r.max_buffer_packets.toNat) :
    skipRounds rounds r ready_packets = (r, ready_packets) := by
  cases rounds with
  | zero => rfl
  | succ rounds => exact if_pos hroom

/-- A full buffer makes room by one skip, to its first packet. -/
theorem skip_full {next : UInt16 × AudioRxPacket} (ready_packets : List AudioRxPacket)
    (h : Flows r) (hbegin : r.buffer.begin? = some next) (hgone : r.expected_seq ∉ r.buffer)
    (hnear : (next.1 - r.expected_seq).toNat < 32768)
    (hfull : r.buffer.size = r.max_buffer_packets.toNat) :
    ∃ packet, Drains ((r.skipTo next.1).deliver packet)
        (r.maybeSkipLossLocked ready_packets).1 ∧
      Kept r ((r.skipTo next.1).deliver packet) ∧
      ((r.skipTo next.1).deliver packet).delivered ≠ [] ∧
      (((r.skipTo next.1).deliver packet).Ordered ↔
        r.Ordered ∧ (r.delivered ≠ [] → (next.1 - r.expected_seq).toNat ≠ 32767)) ∧
      (r.maybeSkipLossLocked ready_packets).1.buffer.size < r.max_buffer_packets.toNat ∧
      (r.maybeSkipLossLocked ready_packets).1.expected_seq ∉
        (r.maybeSkipLossLocked ready_packets).1.buffer := by
  obtain ⟨packet, hfind, hflows, hordered⟩ := h.skip hbegin hgone hnear
  have hkept : Kept r ((r.skipTo next.1).deliver packet) := by
    unfold skipTo AudioReceiver.deliver moveTo
    simp only
    split <;> exact ⟨rfl, rfl, rfl, rfl, rfl⟩
  have hbuffer : (r.skipTo next.1).buffer = r.buffer := by
    unfold skipTo moveTo
    simp only
    split <;> rfl
  have hsize := size_deliver hfind
  rw [hbuffer] at hsize
  obtain ⟨hdrains, hdone⟩ := drains_drainReadyLocked (ready_packets ++ [packet]) hflows
  have hroom : (((r.skipTo next.1).deliver packet).drainReadyLocked
      (ready_packets ++ [packet])).1.buffer.size < r.max_buffer_packets.toNat := by
    have hle := hdrains.size
    omega
  have hmax := (hkept.trans hdrains.kept).max
  -- the second round finds room
  have hloop : r.maybeSkipLossLocked ready_packets =
      ((r.skipTo next.1).deliver packet).drainReadyLocked (ready_packets ++ [packet]) := by
    unfold maybeSkipLossLocked
    rw [← hsize, skipRounds, if_neg (by omega), hbegin]
    simp only
    rw [drainReadyLocked_found ready_packets hfind, skipRounds_idle]
    rwa [hmax]
  rw [hloop]
  exact ⟨packet, hdrains, hkept, nofun, hordered, hroom, hdone⟩

end AudioReceiver

end TeleopBridge.Audio
