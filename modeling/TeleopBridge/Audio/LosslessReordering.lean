import TeleopBridge.Audio.BufferBalance

/-!
# Lossless Reordering

Packets of one contiguous run of sequence numbers arrive in any order, some of them more than
once. A packet is known by its place in the run, which is not taken modulo 65536.

## Key Results

- `Tracks.arrive`: what a receiver in such a run holds, from one arrival to the next.
- `reordering_lossless`: as long as no buffer overflows, nothing but repetitions is dropped.
-/

namespace TeleopBridge.Audio

open TeleopBridge.Support

/-! ## Places in a run -/

/-- The sequence number at a place of the run that begins with `first`. -/
def place (first : UInt16) (i : ℕ) : UInt16 := first + UInt16.ofNat i

/-- The distance of two places, ahead, is that of their indices modulo the range of the numbers. -/
theorem toNat_place_sub (first : UInt16) {i j : ℕ} (h : j ≤ i) :
    (place first i - place first j).toNat = (i - j) % 65536 := by
  have hfirst := UInt16.toNat_lt first
  unfold place
  rw [UInt16.toNat_sub, UInt16.toNat_add, UInt16.toNat_add, UInt16.toNat_ofNat',
    UInt16.toNat_ofNat']
  omega

/-- The distance of two places, behind, reads as one from the top of the range. -/
theorem toNat_place_sub_behind (first : UInt16) {i j : ℕ} (h : i < j) (hnear : j ≤ i + 32768) :
    (place first i - place first j).toNat = 65536 - (j - i) := by
  have hfirst := UInt16.toNat_lt first
  unfold place
  rw [UInt16.toNat_sub, UInt16.toNat_add, UInt16.toNat_add, UInt16.toNat_ofNat',
    UInt16.toNat_ofNat']
  omega

@[simp] theorem place_zero (first : UInt16) : place first 0 = first := UInt16.add_zero first

theorem place_succ (first : UInt16) (i : ℕ) : place first i + 1 = place first (i + 1) := by
  apply UInt16.toNat_inj.mp
  unfold place
  rw [UInt16.toNat_add, UInt16.toNat_add, UInt16.toNat_add, UInt16.toNat_ofNat',
    UInt16.toNat_ofNat']
  have hone : (1 : UInt16).toNat = 1 := rfl
  omega

/-- Places of one window have different numbers. -/
theorem place_inj {first : UInt16} {i j m : ℕ} (hi : m ≤ i ∧ i ≤ m + 32767)
    (hj : m ≤ j ∧ j ≤ m + 32767) (h : place first i = place first j) : i = j := by
  rcases Nat.le_total j i with hle | hle
  · have hsub := toNat_place_sub first hle
    rw [h, UInt16.sub_self, UInt16.toNat_zero] at hsub
    omega
  · have hsub := toNat_place_sub first hle
    rw [h, UInt16.sub_self, UInt16.toNat_zero] at hsub
    omega

/-- The packet at a place of the run, as it comes in. -/
structure Arrival where
  index : ℕ
  payload : List UInt8
  timestamp_ntp : UInt64
  nonempty : payload ≠ []

namespace Arrival

def packet (first : UInt16) (a : Arrival) : AudioRxPacket :=
  { seq := place first a.index, timestamp_ntp := a.timestamp_ntp, payload := a.payload }

/-- The places that have come in. -/
def places (seen : List Arrival) : Finset ℕ := (seen.map index).toFinset

/-- The packet that came in first for a place. -/
def firstAt (first : UInt16) (seen : List Arrival) (i : ℕ) : Option AudioRxPacket :=
  (seen.find? fun a => a.index = i).map (packet first)

variable {first : UInt16} {seen : List Arrival} {a : Arrival} {i : ℕ}

theorem mem_places : i ∈ places seen ↔ ∃ a ∈ seen, a.index = i := by
  simp [places]

/-- One more arrival adds its place. -/
theorem places_append (seen : List Arrival) (a : Arrival) :
    places (seen ++ [a]) = insert a.index (places seen) := by
  ext i
  simp only [mem_places, Finset.mem_insert, List.mem_append, List.mem_singleton]
  constructor
  · rintro ⟨b, hb | rfl, rfl⟩
    · exact .inr ⟨b, hb, rfl⟩
    · exact .inl rfl
  · rintro (rfl | ⟨b, hb, rfl⟩)
    · exact ⟨a, .inr rfl, rfl⟩
    · exact ⟨b, .inl hb, rfl⟩

theorem firstAt_eq_none : firstAt first seen i = none ↔ i ∉ places seen := by
  rw [firstAt, Option.map_eq_none_iff, List.find?_eq_none, mem_places]
  simp

/-- A place keeps the packet that came in first. -/
theorem firstAt_append_of_mem (h : i ∈ places seen) :
    firstAt first (seen ++ [a]) i = firstAt first seen i := by
  unfold firstAt
  rw [List.find?_append]
  cases hfind : seen.find? fun b => b.index = i with
  | some b => rfl
  | none =>
    refine absurd h ((@firstAt_eq_none first seen i).mp ?_)
    rw [firstAt, hfind]
    rfl

theorem firstAt_append_of_ne (h : a.index ≠ i) :
    firstAt first (seen ++ [a]) i = firstAt first seen i := by
  unfold firstAt
  rw [List.find?_append, List.find?_singleton, if_neg (by simpa using h), Option.or_none]

/-- The first arrival at a new place is the one that is remembered. -/
theorem firstAt_append_new (h : a.index ∉ places seen) :
    firstAt first (seen ++ [a]) a.index = some (a.packet first) := by
  have hnone : seen.find? (fun b => b.index = a.index) = none := by
    rw [List.find?_eq_none]
    intro b hb
    rw [decide_eq_true_eq]
    exact fun heq => h (mem_places.mpr ⟨b, hb, heq⟩)
  unfold firstAt
  rw [List.find?_append, hnone, List.find?_singleton, if_pos (by simp)]
  rfl

end Arrival

open Arrival

namespace AudioReceiver

variable {first : UInt16} {seen : List Arrival} {a : Arrival} {m : ℕ} {r : AudioReceiver}

/-! ## The buffer -/

/-- The expected number is that of place `m`, and the buffer holds the packets from there on. -/
structure Lined (first : UInt16) (seen : List Arrival) (m : ℕ) (r : AudioReceiver) : Prop where
  expected : r.expected_seq = place first m
  advance : r.advance = m
  window : ∀ i ∈ places seen, i ≤ m + 32767
  entries : ∀ entry, entry ∈ r.buffer.entries ↔
    ∃ i, m ≤ i ∧ firstAt first seen i = some entry.2 ∧ entry.1 = place first i

theorem mem_places_of_firstAt {i : ℕ} {packet : AudioRxPacket}
    (h : firstAt first seen i = some packet) : i ∈ places seen := by
  by_contra hnot
  rw [firstAt_eq_none.mpr hnot] at h
  cases h

/-- Within the reach of the numbers, a place is buffered exactly when an arrival at it was seen. -/
theorem Lined.mem_buffer (h : Lined first seen m r) {i : ℕ} (hi : m ≤ i) (hnear : i ≤ m + 32767) :
    place first i ∈ r.buffer ↔ i ∈ places seen := by
  rw [SortedMap.mem_def]
  constructor
  · rintro ⟨packet, hentry⟩
    obtain ⟨j, hj, hfirst, hkey⟩ := (h.entries _).mp hentry
    have hmem := mem_places_of_firstAt hfirst
    -- inside half the range a number names one place
    rwa [place_inj ⟨hi, hnear⟩ ⟨hj, h.window j hmem⟩ hkey]
  · intro hmem
    obtain ⟨packet, hfirst⟩ := Option.ne_none_iff_exists'.mp fun hnone =>
      (@firstAt_eq_none first seen i).mp hnone hmem
    exact ⟨packet, (h.entries _).mpr ⟨i, hi, hfirst, rfl⟩⟩

/-- A delivery moves the expected number on by one. -/
theorem advance_deliver (r : AudioReceiver) (packet : AudioRxPacket) :
    (r.deliver packet).advance = 1 + r.advance := by
  have hone : (r.expected_seq + 1 - r.expected_seq).toNat = 1 := by
    rw [succ_sub]
    rfl
  unfold advance AudioReceiver.deliver moveTo
  simp only [List.map_cons, List.sum_cons, hone]

/-- Delivering the packet of place `m` moves on to the next place. -/
theorem Lined.deliver (h : Lined first seen m r) {packet : AudioRxPacket}
    (hfind : r.buffer.find? r.expected_seq = some packet) :
    Lined first seen (m + 1) (r.deliver packet) ∧ firstAt first seen m = some packet := by
  obtain ⟨i, hi, hfirst, hkey⟩ := (h.entries _).mp (SortedMap.find?_eq_some hfind)
  have hwindow := h.window i (mem_places_of_firstAt hfirst)
  rw [h.expected] at hkey
  obtain rfl : m = i := place_inj ⟨le_rfl, by omega⟩ ⟨hi, hwindow⟩ hkey
  -- the expected place, the advance, the window and the entries
  refine ⟨⟨?_, ?_, fun j hj => ?_, fun entry => ?_⟩, hfirst⟩
  · rw [← place_succ, ← h.expected]
    rfl
  · rw [advance_deliver, h.advance, Nat.add_comm]
  · exact (h.window j hj).trans (by omega)
  · have herase : entry ∈ (r.deliver packet).buffer.entries ↔
        entry ∈ r.buffer.entries ∧ entry.1 ≠ r.expected_seq := SortedMap.mem_entries_erase
    rw [herase, h.entries, h.expected]
    constructor
    -- an entry that stays is not the one taken out, so its place is behind it
    · rintro ⟨⟨j, hj, hfirst, hkey⟩, hne⟩
      refine ⟨j, Nat.lt_of_le_of_ne hj fun heq => ?_, hfirst, hkey⟩
      rw [← heq] at hkey
      exact hne hkey
    · rintro ⟨j, hj, hfirst, hkey⟩
      have hnear := h.window j (mem_places_of_firstAt hfirst)
      refine ⟨⟨j, by omega, hfirst, hkey⟩, fun heq => ?_⟩
      have hsame := place_inj ⟨by omega, hnear⟩ ⟨le_rfl, by omega⟩ (hkey.symm.trans heq)
      omega

/-- A drain delivers place after place, up to the first one that has not come in. -/
theorem Lined.drain (h : Lined first seen m r) {ready_packets played : List AudioRxPacket}
    {last : AudioReceiver × List AudioRxPacket} (hloop : DrainLoop r ready_packets last)
    (hplayed : played ++ ready_packets = (List.range m).filterMap (firstAt first seen)) :
    ∃ n, Lined first seen n last.1 ∧ (∀ i, m ≤ i → i < n → i ∈ places seen) ∧
      n ∉ places seen ∧ played ++ last.2 = (List.range n).filterMap (firstAt first seen) ∧
      last.1.stats.lost_packets = r.stats.lost_packets ∧
      last.1.stats.reset_count = r.stats.reset_count := by
  induction hloop generalizing m with
  | done r ready_packets hgone =>
    refine ⟨m, h, fun i hi hlt => absurd hlt (Nat.not_lt.mpr hi), ?_, hplayed, rfl, rfl⟩
    rw [SortedMap.find?_eq_none, h.expected, h.mem_buffer le_rfl (by omega)] at hgone
    exact hgone
  | @round r ready_packets packet last hfind hrest ih =>
    -- one round plays the packet at the expected place
    obtain ⟨hnext, hfirst⟩ := h.deliver hfind
    have hplayed' : played ++ (ready_packets ++ [packet]) =
        (List.range (m + 1)).filterMap (firstAt first seen) := by
      rw [← List.append_assoc, hplayed, List.range_succ, List.filterMap_append]
      simp [hfirst]
    obtain ⟨n, hlined, hmem, hmissing, hall, hlost, hresets⟩ := ih hnext hplayed'
    refine ⟨n, hlined, fun i hi hlt => ?_, hmissing, hall, hlost, hresets⟩
    rcases Nat.eq_or_lt_of_le hi with rfl | hless
    · exact mem_places_of_firstAt hfirst
    · exact hmem i hless hlt

/-- A place that is not repeated enters the buffer. -/
theorem Lined.insert (h : Lined first seen m r) (hnew : a.index ∉ places seen)
    (hi : m ≤ a.index) (hnear : a.index ≤ m + 32767) :
    Lined first (seen ++ [a]) m (r.insert (a.packet first)) where
  expected := h.expected
  advance := h.advance
  window := by
    intro i hmem
    rw [places_append, Finset.mem_insert] at hmem
    rcases hmem with rfl | hmem
    · exact hnear
    · exact h.window i hmem
  entries := by
    rintro ⟨key, packet⟩
    have habsent : (a.packet first).seq ∉ r.buffer := (h.mem_buffer hi hnear).not.mpr hnew
    have hemplace : (key, packet) ∈ (r.insert (a.packet first)).buffer.entries ↔
        (key, packet) = ((a.packet first).seq, a.packet first) ∨
          (key, packet) ∈ r.buffer.entries :=
      SortedMap.mem_entries_emplace habsent
    rw [hemplace, h.entries]
    constructor
    · rintro (heq | ⟨i, hle, hfirst, hkey⟩)
      · cases heq
        exact ⟨a.index, hi, firstAt_append_new hnew, rfl⟩
      · exact ⟨i, hle, by rw [firstAt_append_of_mem (mem_places_of_firstAt hfirst), hfirst], hkey⟩
    · rintro ⟨i, hle, hfirst, hkey⟩
      -- only the new place gets a first arrival by this
      by_cases hsame : a.index = i
      · subst hsame
        rw [firstAt_append_new hnew] at hfirst
        cases hfirst
        exact .inl (Prod.ext_iff.mpr ⟨hkey, rfl⟩)
      · rw [firstAt_append_of_ne hsame] at hfirst
        exact .inr ⟨i, hle, hfirst, hkey⟩

/-- A repeated place changes nothing. -/
theorem Lined.repeated (h : Lined first seen m r) (hmem : a.index ∈ places seen) :
    Lined first (seen ++ [a]) m r where
  expected := h.expected
  advance := h.advance
  window := by
    rw [places_append, Finset.insert_eq_of_mem hmem]
    exact h.window
  entries := by
    intro entry
    rw [h.entries]
    refine exists_congr fun i => and_congr_right fun _ => and_congr_left fun _ => ?_
    -- the place has its first arrival already
    by_cases hsame : a.index = i
    · rw [firstAt_append_of_mem (hsame ▸ hmem)]
    · rw [firstAt_append_of_ne hsame]

/-! ## One arrival -/

/-- What a receiver holds that has begun the run, and what it has handed on: the places before
`m`. -/
structure Tracks (first : UInt16) (seen : List Arrival) (m : ℕ) (r : AudioReceiver)
    (played : List AudioRxPacket) : Prop where
  lined : Lined first seen m r
  initialized : r.initialized = true
  before : ∀ i < m, i ∈ places seen
  played : played = (List.range m).filterMap (firstAt first seen)
  waiting : r.primed = false → m = 0
  playing : r.primed = true → m ∉ places seen
  lost : r.stats.lost_packets = 0
  resets : r.stats.reset_count = 0
  repeated : r.stats.duplicate_packets + r.stats.late_packets + (places seen).card = seen.length

/-- An arrival at most 32768 behind the expected number, and at most the permitted gap and
32767 ahead of it. `advance` is how far the expected number has gone since the run began. -/
def InReach (r : AudioReceiver) (i : ℕ) : Prop :=
  r.advance ≤ i + 32768 ∧ i ≤ r.advance + min r.config.max_sequence_gap.toNat 32767

instance (r : AudioReceiver) (i : ℕ) : Decidable (r.InReach i) :=
  inferInstanceAs (Decidable (_ ∧ _))

/-- If the call drains, fewer than the maximal number of packets remain. -/
def DrainLeavesRoom (r : AudioReceiver) (packet : AudioRxPacket) : Prop :=
  let checked := (r.receive packet.seq).checkGap packet.seq
  ¬ seqDelta packet.seq (r.receive packet.seq).expected_seq < 0 → packet.seq ∉ checked.buffer →
    (checked.insert packet).primed = true →
      ((checked.insert packet).drainReadyLocked []).1.buffer.size <
        checked.max_buffer_packets.toNat

/-- An epoch that runs goes on with the next packet. -/
theorem receive_of_initialized (hset : r.initialized = true) (seq : UInt16) :
    r.receive seq = r.countReceived := by
  unfold AudioReceiver.receive
  rw [hset]
  rfl

/-- A packet within half the range reads as late exactly when its place is behind the expected one.
-/
theorem Lined.behind_iff (h : Lined first seen m r) {i : ℕ} (hback : m ≤ i + 32768)
    (hahead : i ≤ m + 32767) : seqDelta (place first i) r.expected_seq < 0 ↔ i < m := by
  rw [seqDelta_neg, h.expected]
  rcases Nat.lt_or_ge i m with hlt | hge
  · rw [toNat_place_sub_behind first hlt hback]
    omega
  · rw [toNat_place_sub first hge]
    omega

/-- A packet within the largest gap starts no new epoch. -/
theorem Lined.checkGap (h : Lined first seen m r) {i : ℕ} (hi : m ≤ i)
    (hahead : i ≤ m + min r.config.max_sequence_gap.toNat 32767) :
    r.checkGap (place first i) = r := by
  have hnear : ¬ seqDelta (place first i) r.expected_seq < 0 :=
    (h.behind_iff (by omega) (by omega)).not.mpr (by omega)
  -- ahead, the signed distance and the distance of the places agree
  have hjump : ¬ r.jumps (place first i) = true := by
    unfold jumps
    rw [decide_eq_true_eq, UInt32.lt_iff_toNat_lt, toUInt32_seqDelta hnear, h.expected,
      toNat_place_sub first hi]
    omega
  unfold AudioReceiver.checkGap
  rw [if_neg hjump]

/-- The places that were handed on came in before the arrival. -/
theorem played_append {played : List AudioRxPacket} (hbefore : ∀ i < m, i ∈ places seen)
    (hplayed : played = (List.range m).filterMap (firstAt first seen)) :
    played = (List.range m).filterMap (firstAt first (seen ++ [a])) := by
  rw [hplayed]
  refine List.filterMap_congr fun i hi => ?_
  rw [firstAt_append_of_mem (hbefore i (List.mem_range.mp hi))]

/-- A repetition is counted, once. -/
theorem Tracks.repeat {played : List AudioRxPacket} (h : Tracks first seen m r played)
    (hmem : a.index ∈ places seen) {stats : Stats}
    (hlost : stats.lost_packets = r.stats.lost_packets)
    (hresets : stats.reset_count = r.stats.reset_count)
    (hcount : stats.duplicate_packets + stats.late_packets =
      r.stats.duplicate_packets + r.stats.late_packets + 1) :
    Tracks first (seen ++ [a]) m { r with stats } played := by
  -- no new place, one more repeated packet
  have hplaces : places (seen ++ [a]) = places seen := by
    rw [places_append, Finset.insert_eq_of_mem hmem]
  have hlined := h.lined.repeated hmem
  refine ⟨⟨hlined.expected, hlined.advance, hlined.window, hlined.entries⟩, h.initialized, ?_,
    played_append h.before h.played, h.waiting, ?_, hlost.trans h.lost, hresets.trans h.resets, ?_⟩
  · rw [hplaces]
    exact h.before
  · rw [hplaces]
    exact h.playing
  · rw [hplaces, List.length_append, List.length_singleton, ← h.repeated]
    simp only
    omega

/-- A place that is new enters the buffer, and a primed receiver hands on what is contiguous. -/
theorem Tracks.buffer {played : List AudioRxPacket} (h : Tracks first seen m r played)
    (hnew : a.index ∉ places seen) (hi : m ≤ a.index) (hahead : a.index ≤ m + 32767)
    (hroom : (r.insert (a.packet first)).primed = true →
      ((r.insert (a.packet first)).drainReadyLocked []).1.buffer.size <
        r.max_buffer_packets.toNat) :
    ∃ n, Tracks first (seen ++ [a]) n (r.insert (a.packet first)).release.1
      (played ++ (r.insert (a.packet first)).release.2) := by
  have hinsert := h.lined.insert hnew hi hahead
  have hplaces := places_append seen a
  have hbefore : ∀ i < m, i ∈ places (seen ++ [a]) := fun i hlt => by
    rw [hplaces]
    exact Finset.mem_insert_of_mem (h.before i hlt)
  have hplayed := @played_append _ _ a _ _ h.before h.played
  have hcard : (places (seen ++ [a])).card = (places seen).card + 1 := by
    rw [hplaces, Finset.card_insert_of_notMem hnew]
  have hlength : (seen ++ [a]).length = seen.length + 1 := List.length_append
  have hcounts := h.repeated
  cases hprimed : (r.insert (a.packet first)).primed with
  | false =>
    have hrelease : (r.insert (a.packet first)).release =
        ((r.insert (a.packet first)).countBuffered, []) := by
      unfold AudioReceiver.release
      rw [hprimed]
      rfl
    -- playback has not started: the packet waits with the others
    have hwaits : r.primed = false := by
      have hor : (r.primed || _) = false := hprimed
      exact (Bool.or_eq_false_iff.mp hor).1
    rw [hrelease]
    refine ⟨m, ⟨hinsert.expected, hinsert.advance, hinsert.window, hinsert.entries⟩,
      h.initialized, hbefore, ?_, fun _ => h.waiting hwaits, fun hset => ?_, h.lost, h.resets, ?_⟩
    · rw [List.append_nil]
      exact hplayed
    · exact absurd (hprimed.symm.trans hset) (by decide)
    · rw [hcard, hlength]
      exact congrArg (· + 1) hcounts
  | true =>
    have hloop := drainLoop_drainReadyLocked (r.insert (a.packet first)) []
    obtain ⟨hsettles, -⟩ := hloop.settles
    obtain ⟨n, hlined, hmem, hmissing, hall, hlost, hresets⟩ :=
      hinsert.drain hloop ((List.append_nil played).trans hplayed)
    -- no packet is given up: the drain left room
    have hrelease : (r.insert (a.packet first)).release =
        (((r.insert (a.packet first)).drainReadyLocked []).1.countBuffered,
          ((r.insert (a.packet first)).drainReadyLocked []).2) := by
      unfold AudioReceiver.release
      rw [hprimed, if_pos rfl]
      simp only
      unfold maybeSkipLossLocked
      rw [skipRounds_idle _ _ (by rw [hsettles.kept.max]; exact hroom hprimed)]
    rw [hrelease]
    refine ⟨n, ⟨hlined.expected, hlined.advance, hlined.window, hlined.entries⟩, ?_, ?_, hall, ?_,
      fun _ => hmissing, hlost.trans h.lost, hresets.trans h.resets, ?_⟩
    · exact hsettles.kept.initialized.trans h.initialized
    · intro i hlt
      rcases Nat.lt_or_ge i m with hless | hge
      · exact hbefore i hless
      · exact hmem i hge hlt
    · intro hunset
      exact absurd (hprimed.symm.trans (hsettles.kept.primed.symm.trans hunset)) (by decide)
    · have hduplicate := hsettles.duplicate
      have hlate := hsettles.late
      rw [hcard, hlength]
      change ((r.insert (a.packet first)).drainReadyLocked []).1.stats.duplicate_packets +
        ((r.insert (a.packet first)).drainReadyLocked []).1.stats.late_packets + _ = _
      rw [hduplicate, hlate]
      exact congrArg (· + 1) hcounts

/-! ## Runs -/

/-- A receiver and what it has handed on. -/
structure Playback where
  receiver : AudioReceiver
  played : List AudioRxPacket := []

/-- The packet of a place of the run comes in. -/
def arrive (first : UInt16) (callback : PlaybackCallback) (s : Playback) (a : Arrival) :
    Option Playback :=
  let pushed := s.receiver.pushPacket callback (place first a.index) (some a.payload)
    a.timestamp_ntp
  some { receiver := pushed.1, played := s.played ++ pushed.2.1 }

/-- The arrival is within reach of the expected number and does not overflow the buffer. -/
def Tame (first : UInt16) (s : Playback) (a : Arrival) : Prop :=
  s.receiver.InReach a.index ∧ s.receiver.DrainLeavesRoom (a.packet first)

theorem Tracks.arrive {s t : Playback} {callback : PlaybackCallback}
    (h : Tracks first seen m s.receiver s.played) (htame : Tame first s a)
    (hstep : arrive first callback s a = some t) :
    ∃ n, Tracks first (seen ++ [a]) n t.receiver t.played := by
  obtain ⟨⟨hback, hahead⟩, hroom⟩ := htame
  rw [h.lined.advance] at hback hahead
  unfold DrainLeavesRoom at hroom
  rw [receive_of_initialized h.initialized] at hroom
  have hcounted : Lined first seen m s.receiver.countReceived :=
    ⟨h.lined.expected, h.lined.advance, h.lined.window, h.lined.entries⟩
  have hbehind := hcounted.behind_iff hback (by omega)
  -- no jump: what is not behind is within reach
  have hcheck : m ≤ a.index → s.receiver.countReceived.checkGap (a.packet first).seq =
      s.receiver.countReceived := fun hle => hcounted.checkGap hle hahead
  have hends := pushPacket_ends s.receiver callback (place first a.index) (some a.payload)
    a.timestamp_ntp a.nonempty
  cases hstep
  generalize (s.receiver.pushPacket callback (place first a.index) (some a.payload)
    a.timestamp_ntp).1 = receiver at hends ⊢
  generalize (s.receiver.pushPacket callback (place first a.index) (some a.payload)
    a.timestamp_ntp).2.1 = ready_packets at hends ⊢
  change PushEnds s.receiver (a.packet first) receiver ready_packets at hends
  cases hends with
  -- behind the expected number all places were seen before
  | late hlate =>
    rw [receive_of_initialized h.initialized] at hlate ⊢
    have hmem := h.before a.index (hbehind.mp hlate)
    rw [List.append_nil]
    exact ⟨m, h.repeat hmem rfl rfl (by simp only [countReceived]; omega)⟩
  | duplicate hlate hmem =>
    rw [receive_of_initialized h.initialized] at hlate hmem ⊢
    have hle : m ≤ a.index := Nat.not_lt.mp (hbehind.not.mp hlate)
    -- a duplicate stands in the buffer, so its place was seen
    rw [hcheck hle] at hmem ⊢
    have hplace := (hcounted.mem_buffer hle (by omega)).mp hmem
    rw [List.append_nil]
    exact ⟨m, h.repeat hplace rfl rfl (by simp only [countReceived]; omega)⟩
  | buffered hlate habsent =>
    rw [receive_of_initialized h.initialized] at hlate habsent ⊢
    have hle : m ≤ a.index := Nat.not_lt.mp (hbehind.not.mp hlate)
    rw [hcheck hle] at habsent hroom ⊢
    -- what is neither behind nor buffered is new
    have hnew := (hcounted.mem_buffer hle (by omega)).not.mp habsent
    have htracks : Tracks first seen m s.receiver.countReceived s.played :=
      ⟨hcounted, h.initialized, h.before, h.played, h.waiting, h.playing, h.lost, h.resets,
        h.repeated⟩
    exact htracks.buffer hnew hle (by omega) (hroom hlate habsent)

/-- The receiver once it has begun with the number `first`. -/
def begun (config : Config) (first : UInt16) : AudioReceiver :=
  { construct config with initialized := true, expected_seq := first }

/-- A receiver that has begun tracks the run before its first arrival. -/
theorem tracks_begun (config : Config) (first : UInt16) :
    Tracks first [] 0 (begun config first) [] where
  lined := by
    refine ⟨(place_zero first).symm, rfl, fun i hi => absurd hi (by simp [places]), fun entry => ?_⟩
    refine ⟨fun hentry => absurd hentry List.not_mem_nil, ?_⟩
    rintro ⟨i, -, hfirst, -⟩
    cases hfirst
  initialized := rfl
  before := nofun
  played := rfl
  waiting := fun _ => rfl
  playing := nofun
  lost := rfl
  resets := rfl
  repeated := rfl

/-- The first packet of the run finds the receiver as if it had begun. -/
theorem arrive_first (config : Config) {callback : PlaybackCallback} (hfirst : a.index = 0) :
    arrive first callback { receiver := construct config } a =
      arrive first callback { receiver := begun config first } a := by
  -- the first packet sets the number that `begun` has from the start
  have hreceive : (construct config).receive (place first a.index) =
      (begun config first).receive (place first a.index) := by
    rw [hfirst, place_zero]
    rfl
  have hpayload : ¬ (some a.payload).getD [] = [] := a.nonempty
  unfold arrive pushPacket
  simp only
  rw [if_neg hpayload, if_neg hpayload, hreceive]

/-- So the first arrival is tame for the one exactly when it is for the other. -/
theorem tame_first (config : Config) (hfirst : a.index = 0)
    (h : Tame first { receiver := construct config } a) :
    Tame first { receiver := begun config first } a := by
  have hreceive : (construct config).receive (a.packet first).seq =
      (begun config first).receive (a.packet first).seq := by
    unfold Arrival.packet
    rw [hfirst, place_zero]
    rfl
  refine ⟨h.1, ?_⟩
  have hroom := h.2
  unfold DrainLeavesRoom at hroom ⊢
  rwa [hreceive] at hroom

/-- Tame arrivals keep the receiver on the run. -/
theorem Tracks.run {s : Playback} {callback : PlaybackCallback} {arrivals : List Arrival}
    (h : Tracks first seen m s.receiver s.played)
    (htame : StepsMeet (AudioReceiver.arrive first callback) (Tame first) s arrivals) :
    ∃ t n, runSteps (AudioReceiver.arrive first callback) s arrivals = some t ∧
      Tracks first (seen ++ arrivals) n t.receiver t.played := by
  induction arrivals generalizing s seen m with
  | nil => exact ⟨s, m, rfl, by rwa [List.append_nil]⟩
  | cons a arrivals ih =>
    obtain ⟨next, hstep⟩ : ∃ next, AudioReceiver.arrive first callback s a = some next := ⟨_, rfl⟩
    obtain ⟨n, hnext⟩ := h.arrive htame.1 hstep
    obtain ⟨t, last, hrun, ht⟩ := ih hnext (htame.2 next hstep)
    refine ⟨t, last, runSteps_cons_eq_some.mpr ⟨next, hstep, hrun⟩, ?_⟩
    rwa [List.append_assoc] at ht

/-- Nothing is lost but repetitions, and what is contiguous is handed on. -/
structure Lossless (first : UInt16) (seen : List Arrival) (s : Playback) : Prop where
  lost : s.receiver.stats.lost_packets = 0
  resets : s.receiver.stats.reset_count = 0
  /-- Each repetition is counted once, as a duplicate or as late. -/
  repeated : s.receiver.stats.duplicate_packets + s.receiver.stats.late_packets +
    (places seen).card = seen.length
  kept : ∀ i packet, firstAt first seen i = some packet →
    packet ∈ s.played ∨ (place first i, packet) ∈ s.receiver.buffer.entries
  waiting : s.receiver.primed = false → s.played = []
  /-- What was handed on are the places before the first one that is missing. -/
  playing : s.receiver.primed = true → ∃ m, (∀ i < m, i ∈ places seen) ∧ m ∉ places seen ∧
    s.played = (List.range m).filterMap (firstAt first seen)

/-- A receiver that tracks the run has lost nothing of it. -/
theorem Tracks.lossless {s : Playback} (h : Tracks first seen m s.receiver s.played) :
    Lossless first seen s where
  lost := h.lost
  resets := h.resets
  repeated := h.repeated
  kept := by
    intro i packet hfirst
    -- a place before the expected one is played, any other is still buffered
    rcases Nat.lt_or_ge i m with hlt | hge
    · refine .inl ?_
      rw [h.played]
      exact List.mem_filterMap.mpr ⟨i, List.mem_range.mpr hlt, hfirst⟩
    · exact .inr ((h.lined.entries _).mpr ⟨i, hge, hfirst, rfl⟩)
  waiting := by
    intro hwaits
    rw [h.played, h.waiting hwaits]
    rfl
  playing := fun hprimed => ⟨m, h.before, h.playing hprimed, h.played⟩

/-- Every arrival order of a contiguous run, with any repetitions, whose first arrival is the
first of the run: as long as every arrival is within reach and no drain leaves a full buffer,
nothing is lost, nothing but a repetition is dropped, and from the call at which the receiver
is primed the packets handed on are the maximal contiguous prefix of what has come in. -/
theorem reordering_lossless (config : Config) (first : UInt16) (callback : PlaybackCallback)
    (arrivals : List Arrival) (hfirst : ∀ a ∈ arrivals.head?, a.index = 0)
    (htame : StepsMeet (arrive first callback) (Tame first)
      { receiver := construct config } arrivals) :
    ∃ s, runSteps (arrive first callback) { receiver := construct config } arrivals = some s ∧
      Lossless first arrivals s := by
  cases arrivals with
  | nil =>
    refine ⟨_, rfl, rfl, rfl, rfl, ?_, fun _ => rfl, nofun⟩
    intro i packet hnone
    cases hnone
  | cons a arrivals =>
    have hindex : a.index = 0 := hfirst a rfl
    have hbegin := @arrive_first first a config callback hindex
    -- from the first packet on, the run is that of a receiver that had begun
    have hbegun : StepsMeet (arrive first callback) (Tame first)
        { receiver := begun config first } (a :: arrivals) :=
      ⟨tame_first config hindex htame.1, fun next hstep => htame.2 next (hbegin.trans hstep)⟩
    obtain ⟨t, n, hrun, ht⟩ := (tracks_begun config first).run hbegun
    obtain ⟨next, hstep, hrest⟩ := runSteps_cons_eq_some.mp hrun
    exact ⟨t, runSteps_cons_eq_some.mpr ⟨next, hbegin.trans hstep, hrest⟩, ht.lossless⟩

/-- Four packets across the wrap, the third before the second, and the second twice. -/
theorem reordering_lossless_wrap :
    ∃ s, runSteps (arrive 65535 none) { receiver := construct (shortBuffer 1000) }
        [⟨0, [7], 0, by decide⟩, ⟨2, [9], 0, by decide⟩, ⟨1, [8], 0, by decide⟩,
          ⟨1, [5], 0, by decide⟩] = some s ∧
      s.played.map AudioRxPacket.seq = [65535, 0, 1] ∧
      s.played.map AudioRxPacket.payload = [[7], [8], [9]] ∧
      Lossless 65535 [⟨0, [7], 0, by decide⟩, ⟨2, [9], 0, by decide⟩, ⟨1, [8], 0, by decide⟩,
        ⟨1, [5], 0, by decide⟩] s := by
  have htame : StepsMeet (arrive 65535 none) (Tame 65535)
      { receiver := construct (shortBuffer 1000) }
      [⟨0, [7], 0, by decide⟩, ⟨2, [9], 0, by decide⟩, ⟨1, [8], 0, by decide⟩,
        ⟨1, [5], 0, by decide⟩] := by
    refine StepsMeet.cons rfl ⟨by decide, fun _ _ _ => by decide⟩ ?_
    refine StepsMeet.cons rfl ⟨by decide, fun _ _ _ => by decide⟩ ?_
    refine StepsMeet.cons rfl ⟨by decide, fun _ _ _ => by decide⟩ ?_
    exact StepsMeet.cons rfl ⟨by decide, fun _ _ _ => by decide⟩ trivial
  obtain ⟨s, hrun, hlossless⟩ := reordering_lossless (shortBuffer 1000) 65535 none _ (by simp) htame
  have hplayed := hrun
  cases hplayed
  exact ⟨_, hrun, rfl, rfl, hlossless⟩

end AudioReceiver

end TeleopBridge.Audio
