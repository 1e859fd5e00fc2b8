import TeleopBridge.Support.SerialNumber
import TeleopBridge.Support.SortedMap

/-!
# Audio Receiver

The jitter buffer of `src/audio/audio_receiver.cpp`: packets wait until enough of them are
buffered, are handed on in the order of their 16-bit sequence numbers, and a number that stays
away is given up when the buffer is full.

The throttled log, with its clock and its copy of the counters, is left out. The `uint64_t`
counters of `Stats` are natural numbers, since none can wrap: they count calls or received packets,
but for `lost_packets`, and a loss of fewer than `2 ^ 16` numbers is skipped only in front of a
packet that was received, so that a wrap would take `2 ^ 48` packets.
-/

namespace TeleopBridge.Audio

open TeleopBridge.Support

/-- The order of `std::map<uint16_t, …>`. -/
instance seqOrder : LinearOrder UInt16 where
  le_refl := UInt16.le_refl
  le_trans _ _ _ := UInt16.le_trans
  le_antisymm _ _ := UInt16.le_antisymm
  le_total := UInt16.le_total
  toDecidableLE := inferInstance
  lt_iff_le_not_ge _ _ := by grind

structure AudioRxPacket where
  seq : UInt16
  timestamp_ntp : UInt64
  payload : List UInt8
  deriving DecidableEq, Repr

/-- `AudioReceiver::Config`. -/
structure Config where
  frame_duration_ms : UInt32 := 20
  initial_buffer_ms : UInt32 := 60
  max_buffer_ms : UInt32 := 200
  max_sequence_gap : UInt32 := 1000
  deriving DecidableEq, Repr

/-- `AudioReceiver::Stats`. -/
structure Stats where
  received_packets : ℕ := 0
  delivered_packets : ℕ := 0
  duplicate_packets : ℕ := 0
  late_packets : ℕ := 0
  lost_packets : ℕ := 0
  reset_count : ℕ := 0
  buffered_packets : ℕ := 0
  deriving DecidableEq, Repr

structure AudioReceiver where
  config : Config
  initial_buffer_packets : UInt32
  max_buffer_packets : UInt32
  buffer : SortedMap UInt16 AudioRxPacket := {}
  initialized : Bool := false
  primed : Bool := false
  expected_seq : UInt16 := 0
  stats : Stats := {}
  /-- Auxiliary: where `expected_seq_` went in this epoch, from and to, the latest first. -/
  moves : List (UInt16 × UInt16) := []
  /-- Auxiliary: the sequence numbers delivered in this epoch, the latest first. -/
  delivered : List UInt16 := []
  /-- Auxiliary: the packets delivered or counted as lost before this epoch. -/
  settled : ℕ := 0

/-- `PlaybackCallback`; `none` when it is not set. -/
abbrev PlaybackCallback := Option (List UInt8 → UInt64 → Bool)

/-! ## Sequence numbers -/

/-- `seqDelta` -/
def seqDelta (lhs rhs : UInt16) : Int16 := (lhs - rhs).toInt16

/-- `packetCountFromMs` -/
def packetCountFromMs (ms frame_duration_ms : UInt32) : UInt32 :=
  let frame_ms := max 1 frame_duration_ms
  max 1 ((ms + frame_ms - 1) / frame_ms)

namespace AudioReceiver

/-- The constructor. -/
def construct (config : Config) : AudioReceiver :=
  let initial := max 1 (packetCountFromMs config.initial_buffer_ms config.frame_duration_ms)
  { config
    initial_buffer_packets := initial
    -- above the count that starts the playback, unless that count is the largest
    max_buffer_packets :=
      max (initial + 1) (packetCountFromMs config.max_buffer_ms config.frame_duration_ms) }

variable (r : AudioReceiver)

/-- A new epoch, which starts to count at this number. -/
def startEpoch (seq : UInt16) : AudioReceiver :=
  { r with
    primed := false
    expected_seq := seq
    moves := []
    delivered := []
    -- what the epochs before delivered or lost
    settled := r.stats.delivered_packets + r.stats.lost_packets }

/-- `expected_seq_ = seq`, within an epoch. -/
def moveTo (seq : UInt16) : AudioReceiver :=
  { r with expected_seq := seq, moves := (r.expected_seq, seq) :: r.moves }

/-- One round of `drainReadyLocked`: the expected packet leaves the buffer. -/
def deliver (packet : AudioRxPacket) : AudioReceiver :=
  let delivered := r.moveTo (r.expected_seq + 1)
  { delivered with
    buffer := r.buffer.erase r.expected_seq
    stats := { r.stats with delivered_packets := r.stats.delivered_packets + 1 }
    delivered := packet.seq :: r.delivered }

/-- The loop of `drainReadyLocked`. -/
def drainRounds : ℕ → AudioReceiver → List AudioRxPacket → AudioReceiver × List AudioRxPacket
  | 0, r, ready_packets => (r, ready_packets)
  | rounds + 1, r, ready_packets =>
    match r.buffer.find? r.expected_seq with
    -- the expected packet is not there
    | none => (r, ready_packets)
    | some packet => drainRounds rounds (r.deliver packet) (ready_packets ++ [packet])

/-- `drainReadyLocked`: every round takes a packet out of the buffer. -/
def drainReadyLocked (ready_packets : List AudioRxPacket) : AudioReceiver × List AudioRxPacket :=
  drainRounds r.buffer.size r ready_packets

/-- The jump of `maybeSkipLossLocked` to the first packet of the buffer. -/
def skipTo (seq : UInt16) : AudioReceiver :=
  let delta := seqDelta seq r.expected_seq
  -- a distance that reads as behind counts no loss
  if delta ≤ 0 then r.moveTo seq
  else
    { r.moveTo seq with
      stats := { r.stats with
        lost_packets := r.stats.lost_packets + delta.toUInt16.toNat } }

/-- The loop of `maybeSkipLossLocked`. -/
def skipRounds : ℕ → AudioReceiver → List AudioRxPacket → AudioReceiver × List AudioRxPacket
  | 0, r, ready_packets => (r, ready_packets)
  | rounds + 1, r, ready_packets =>
    -- only a full buffer gives a packet up
    if r.buffer.size < r.max_buffer_packets.toNat then (r, ready_packets)
    else
      match r.buffer.begin? with
      | none => (r, ready_packets)
      | some next =>
        let drained := (r.skipTo next.1).drainReadyLocked ready_packets
        skipRounds rounds drained.1 drained.2

/-- `maybeSkipLossLocked`: every round takes a packet out of the buffer. -/
def maybeSkipLossLocked (ready_packets : List AudioRxPacket) :
    AudioReceiver × List AudioRxPacket :=
  skipRounds r.buffer.size r ready_packets

/-- `++stats_.received_packets` -/
def countReceived : AudioReceiver :=
  { r with stats := { r.stats with received_packets := r.stats.received_packets + 1 } }

/-- The start of `pushPacket`: the first packet sets the expected number. -/
def receive (seq : UInt16) : AudioReceiver :=
  if !r.initialized then { r.countReceived.startEpoch seq with initialized := true }
  else r.countReceived

/-- The packet is too far ahead. -/
def jumps (seq : UInt16) : Bool :=
  r.config.max_sequence_gap < (seqDelta seq r.expected_seq).toInt32.toUInt32

/-- A detected gap: the buffer starts over at the packet. -/
def jumpTo (seq : UInt16) : AudioReceiver :=
  let started := r.startEpoch seq
  { started with
    buffer := {}
    stats := { r.stats with reset_count := r.stats.reset_count + 1 } }

/-- The check for a gap. -/
def checkGap (seq : UInt16) : AudioReceiver := if r.jumps seq then r.jumpTo seq else r

/-- `++stats_.late_packets` -/
def countLate : AudioReceiver :=
  { r with stats := { r.stats with late_packets := r.stats.late_packets + 1 } }

/-- `++stats_.duplicate_packets` -/
def countDuplicate : AudioReceiver :=
  { r with stats := { r.stats with duplicate_packets := r.stats.duplicate_packets + 1 } }

/-- `stats_.buffered_packets = buffer_.size()` -/
def countBuffered : AudioReceiver :=
  { r with stats := { r.stats with buffered_packets := r.buffer.size } }

/-- The packet is buffered, which may be enough to begin the playback. -/
def insert (packet : AudioRxPacket) : AudioReceiver :=
  let buffered := countBuffered { r with buffer := r.buffer.emplace packet.seq packet }
  { buffered with
    primed := r.primed || r.initial_buffer_packets.toNat ≤ buffered.buffer.size }

/-- What a primed receiver hands on. -/
def release : AudioReceiver × List AudioRxPacket :=
  if r.primed then
    let drained := r.drainReadyLocked []
    let skipped := drained.1.maybeSkipLossLocked drained.2
    (skipped.1.countBuffered, skipped.2)
  else (r.countBuffered, [])

/-- Whether the callback took a packet. -/
def plays (callback : PlaybackCallback) (packet : AudioRxPacket) : Bool :=
  match callback with
  | none => false
  | some callback => callback packet.payload packet.timestamp_ntp

/-- `pushPacket`: the receiver, the packets it handed on, and the result. -/
def pushPacket (callback : PlaybackCallback) (seq : UInt16) (data : Option (List UInt8))
    (timestamp_ntp : UInt64) : AudioReceiver × List AudioRxPacket × Bool :=
  let payload := data.getD []
  if payload = [] then (r, [], false)
  else
    let r := r.receive seq
    if seqDelta seq r.expected_seq < 0 then (r.countLate, [], false)
    else
      let r := r.checkGap seq
      if (r.buffer.find? seq).isSome then (r.countDuplicate, [], false)
      else
        let released := (r.insert { seq, timestamp_ntp, payload }).release
        (released.1, released.2, released.2.all (plays callback) && !released.2.isEmpty)

/-- `reset` -/
def reset : AudioReceiver :=
  let started := r.startEpoch 0
  { started with
    buffer := {}
    initialized := false
    stats := { r.stats with reset_count := r.stats.reset_count + 1, buffered_packets := 0 } }

end AudioReceiver

/-! ## Runs -/

inductive AudioAction
  | pushPacket (callback : PlaybackCallback) (seq : UInt16) (data : Option (List UInt8))
    (timestamp_ntp : UInt64)
  | reset

/-- A call of the receiver. -/
def AudioReceiver.step (r : AudioReceiver) : AudioAction → Option AudioReceiver
  | .pushPacket callback seq data timestamp_ntp =>
    some (r.pushPacket callback seq data timestamp_ntp).1
  | .reset => some r.reset

end TeleopBridge.Audio
