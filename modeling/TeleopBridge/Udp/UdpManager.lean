import TeleopBridge.Udp.ProcessFrame
import TeleopBridge.Udp.SendThread

/-!
# UDP Manager

Embeds the threads of `src/udp/udp_manager.cpp` that touch the media path: the callers of
`sendH264Frame`, `sendAudioPacket` and the telemetry sends, the FEC thread with
`processFrame`, the sender thread and a thread that executes `resetSession`. One step is
one access to something shared: an atomic, the input queue under its lock, one call of the
send queue or of the socket. The manager is running throughout.

The control plane is present through `handshake_ready_` only, which it may set either way
at any time. The codec's audio and telemetry packets enter as the bytes they build from
the fetched sequence number. Clock readings come with the step that takes them.
-/

namespace TeleopBridge.Udp

open Support SendQueue FecV2

/-! ## Inputs -/

/-- `UdpManager::Config`, as far as the media path reads it, with the loaded encoder. -/
structure UdpConfig where
  control_enabled : Bool := true
  max_payload_bytes : ℕ := 1200
  pacing_account_audio : Bool := false
  queue_max_bytes : ℕ := 300000
  queue_max_packets : ℕ := 0
  fec_encoder_ : Option V2FecTable := none
  fec_table_id : UInt8 := 1
  fec_input_queue_max_frames : ℕ := 2

/-- What `processFrame` reads. -/
def UdpConfig.video (config : UdpConfig) : VideoConfig :=
  { max_payload := config.max_payload_bytes
    fec_encoder_ := config.fec_encoder_
    fec_table_id := config.fec_table_id }

/-- `kAudioStreamKey` -/
def kAudioStreamKey : UInt32 := 1

/-- `kTelemetryStreamKey` -/
def kTelemetryStreamKey : UInt32 := 3

/-- `kAudioPriority` -/
def kAudioPriority : UInt8 := 0

/-- `kTelemetryPriority` -/
def kTelemetryPriority : UInt8 := 3

/-- `kAudioHeaderBytes` -/
def kAudioHeaderBytes : ℕ := 11

/-- The two telemetry sends differ in the packet only. -/
inductive MediaKind where
  | audio
  | telemetry
deriving DecidableEq, Repr

/-- The arguments of an audio or telemetry send: `size` is the audio payload's, and `build`
gives the packet that the codec builds for a fetched sequence number. -/
structure MediaPacket where
  kind : MediaKind
  size : ℕ := 0
  enqueue_steady_us : UInt64 := 0
  build : UInt16 → List UInt8

/-- Whether the call passes the checks before its first fetch. -/
def MediaPacket.accepted (config : UdpConfig) (packet : MediaPacket) : Bool :=
  match packet.kind with
  -- a whole audio packet has to fit into one datagram
  | .audio =>
      packet.size ≠ 0 && config.max_payload_bytes > kAudioHeaderBytes &&
        packet.size ≤ config.max_payload_bytes - kAudioHeaderBytes
  -- telemetry is only measured once it is built
  | .telemetry => true

/-- Whether a telemetry packet is too large to be pushed. -/
def MediaPacket.oversized (config : UdpConfig) (packet : MediaPacket) (bytes : List UInt8) : Bool :=
  packet.kind = .telemetry && config.max_payload_bytes > 0 &&
    bytes.length > config.max_payload_bytes

/-- The queue item of an audio or telemetry send. -/
def MediaPacket.item (config : UdpConfig) (packet : MediaPacket) (seq : UInt16)
    (group_id : UInt32) : QueueItem :=
  let bytes := packet.build seq
  match packet.kind with
  | .audio =>
      { kind := .Datagram
        stream := .Audio
        group_id := group_id
        packet_seq := seq
        stream_key := kAudioStreamKey
        priority := kAudioPriority
        pacing_accounted := config.pacing_account_audio
        enqueue_steady_us := packet.enqueue_steady_us
        bytes := bytes
        wire_bytes := bytes.length }
  | .telemetry =>
      { kind := .Datagram
        -- telemetry shares its stream with whatever is neither video nor audio
        stream := .Other
        group_id := group_id
        packet_seq := seq
        stream_key := kTelemetryStreamKey
        priority := kTelemetryPriority
        pacing_accounted := true
        enqueue_steady_us := packet.enqueue_steady_us
        bytes := bytes
        wire_bytes := bytes.length }

/-! ## Threads -/

/-- A frame in the input queue or in the FEC thread's hands, with the number of resets that
had begun when its `sendH264Frame` was called. -/
structure QueuedFrame where
  frame : InputFrame
  origin : ℕ
deriving DecidableEq, Repr

/-- How far an audio or telemetry send has come: neither counter fetched yet, the sequence
number fetched, both fetched. -/
inductive CallStage where
  | started
  | numbered (seq : UInt16)
  | grouped (seq : UInt16) (group_id : UInt32)
deriving DecidableEq, Repr

/-- A send call that has passed its checks. -/
inductive ProducerCall where
  | frame (frame : InputFrame)
  | media (packet : MediaPacket) (stage : CallStage)

/-- A send call with the number of resets that had begun when it was made. -/
structure InFlight where
  origin : ℕ
  call : ProducerCall

/-- Where the FEC thread stands: waiting, with a frame taken from the input queue, or
inside `processFrame` with the datagrams still to be built and those built. -/
inductive FecThread where
  | idle
  | holding (input : QueuedFrame)
  | building (job : FrameJob) (origin : ℕ) (plan : List (UInt16 → QueueItem))
      (packet_batch : List QueueItem)

/-- The next statement of `resetSession`. -/
inductive ResetThread where
  | idle
  | clearInput
  | clearSend
  | resetHandshake
  | storePacketSeq
  | storeFrameId
  | storeAudioGroup
  | storeAudioSeq
  | storeTelemetryGroup
  | storeTelemetrySeq
  | returning
deriving DecidableEq, Repr

/-- The shared members and the threads. The fields from `resets_begun` on are auxiliary:
how many resets have begun, cleared the send queue and returned, the socket sends with the
number of resets that had returned, the frame ids and sequence numbers in fetch order, how
many of them were fetched since the counter was last stored, and the pushed batches. -/
structure UdpManager where
  handshake_ready_ : Bool := false
  frame_id_ : UInt32 := 0
  packet_seq_num_ : UInt16 := 0
  audio_group_id_ : UInt32 := 0
  audio_seq_num_ : UInt16 := 0
  telemetry_group_id_ : UInt32 := 0
  telemetry_seq_num_ : UInt16 := 0
  input_queue_ : List QueuedFrame := []
  send : SendPath := {}
  calls : List InFlight := []
  fec : FecThread := .idle
  reset : ResetThread := .idle
  resets_begun : ℕ := 0
  send_clears : ℕ := 0
  resets_returned : ℕ := 0
  socketLog : List (QueueItem × ℕ) := []
  generated : List (UInt32 × UInt16) := []
  fetchedSinceStore : ℕ := 0
  batches : List (List QueueItem) := []

/-- One step of one thread. -/
inductive UdpAction where
  | setHandshake (ready : Bool)
  | sendH264Frame (frame : InputFrame)
  | sendMedia (packet : MediaPacket)
  | continueCall (index : ℕ)
  | takeFrame
  | startFrame (enqueue_steady_us : UInt64)
  | fetchSeq
  | pushFrame
  | sender (senderStep : SenderStep)
  | resetSession
  | continueReset

namespace UdpManager

/-- The state after `start()`. -/
def started (config : UdpConfig) : UdpManager :=
  -- the sender thread runs on a queue with the configured limits
  { send := { queue :=
      ({} : SendQueue).setLimits config.queue_max_packets config.queue_max_bytes } }

/-! ## Producers -/

/-- `config_.control_enabled && !control_.handshakeReady()`, the check that returns. -/
def refuses (config : UdpConfig) (s : UdpManager) : Bool :=
  config.control_enabled && !s.handshake_ready_

/-- One round of the loop that makes room: the first non-keyframe goes, else the first. -/
def dropInput (max_input_queue_frames : ℕ) (queue : List QueuedFrame) :
    Option (List QueuedFrame) :=
  if queue.length ≥ max_input_queue_frames then
    -- a keyframe is only given up when nothing else is queued
    some (if queue.any (fun queued => !queued.frame.keyframe) then
      queue.eraseP fun queued => !queued.frame.keyframe
    else queue.tail)
  else none

/-- The critical section of `sendH264Frame`. -/
def enqueueInput (config : UdpConfig) (queue : List QueuedFrame) (queued : QueuedFrame) :
    List QueuedFrame :=
  -- room is made first, so the new frame always enters
  repeatStep (dropInput (max 1 config.fec_input_queue_max_frames)) queue.length queue ++ [queued]

/-- The sequence number that the next fetch returns. -/
def mediaSeq (s : UdpManager) : MediaKind → UInt16
  | .audio => s.audio_seq_num_
  | .telemetry => s.telemetry_seq_num_

/-- The group id that the next fetch returns. -/
def mediaGroup (s : UdpManager) : MediaKind → UInt32
  | .audio => s.audio_group_id_
  | .telemetry => s.telemetry_group_id_

/-- `audio_seq_num_.fetch_add(1)` or `telemetry_seq_num_.fetch_add(1)` -/
def fetchMediaSeq (s : UdpManager) : MediaKind → UdpManager
  | .audio => { s with audio_seq_num_ := s.audio_seq_num_ + 1 }
  | .telemetry => { s with telemetry_seq_num_ := s.telemetry_seq_num_ + 1 }

/-- `audio_group_id_.fetch_add(1)` or `telemetry_group_id_.fetch_add(1)` -/
def fetchMediaGroup (s : UdpManager) : MediaKind → UdpManager
  | .audio => { s with audio_group_id_ := s.audio_group_id_ + 1 }
  | .telemetry => { s with telemetry_group_id_ := s.telemetry_group_id_ + 1 }

/-- A call that passes its checks is in flight from here on. -/
def beginCall (s : UdpManager) (call : ProducerCall) : UdpManager :=
  { s with calls := s.calls ++ [{ origin := s.resets_begun, call := call }] }

/-- The items of a call or frame carry the number of resets that had begun. -/
def stamp (origin : ℕ) (item : QueueItem) : QueueItem := { item with origin := origin }

/-- `send_queue_.push` at the end of an audio or telemetry send. -/
def pushMedia (config : UdpConfig) (s : UdpManager) (origin : ℕ) (packet : MediaPacket)
    (seq : UInt16) (group_id : UInt32) : UdpManager :=
  let item := stamp origin (packet.item config seq group_id)
  -- both counters are fetched already, and their numbers are lost
  if packet.oversized config item.bytes then s
  else { s with send := s.send.enqueued [item] (s.send.queue.push item) }

/-- The next access of the call at `index`. -/
def advanceCall (config : UdpConfig) (s : UdpManager) (index : ℕ) : InFlight → UdpManager
  | ⟨origin, .frame frame⟩ =>
      { s with
        calls := s.calls.eraseIdx index
        input_queue_ := enqueueInput config s.input_queue_ ⟨frame, origin⟩ }
  -- sequence number, group id and push are three separate accesses
  | ⟨origin, .media packet .started⟩ =>
      { s.fetchMediaSeq packet.kind with
        calls := s.calls.set index ⟨origin, .media packet (.numbered (s.mediaSeq packet.kind))⟩ }
  | ⟨origin, .media packet (.numbered seq)⟩ =>
      { s.fetchMediaGroup packet.kind with
        calls := s.calls.set index
          ⟨origin, .media packet (.grouped seq (s.mediaGroup packet.kind))⟩ }
  | ⟨origin, .media packet (.grouped seq group_id)⟩ =>
      { s with calls := s.calls.eraseIdx index }.pushMedia config origin packet seq group_id

/-! ## FEC thread -/

/-- The start of `processFrame`: nothing when the payload budget is 0, else the fetch of
the frame id. -/
def startFrame (config : UdpConfig) (s : UdpManager) (enqueue_steady_us : UInt64)
    (input : QueuedFrame) : UdpManager :=
  -- such a frame is dropped before it gets an id
  if config.video.max_payload = 0 then { s with fec := .idle }
  else
    let job := startJob config.video input.frame enqueue_steady_us s.frame_id_
    { s with
      frame_id_ := s.frame_id_ + 1
      fec := .building job input.origin (datagramPlan job) [] }

/-- `packet_seq_num_.fetch_add(1)` for the next datagram of the plan. -/
def fetchSeq (s : UdpManager) (job : FrameJob) (origin : ℕ) (build : UInt16 → QueueItem)
    (plan : List (UInt16 → QueueItem)) (packet_batch : List QueueItem) : UdpManager :=
  { s with
    packet_seq_num_ := s.packet_seq_num_ + 1
    fec := .building job origin plan (packet_batch ++ [build s.packet_seq_num_])
    generated := s.generated ++ [(job.current_frame_id, s.packet_seq_num_)]
    fetchedSinceStore := s.fetchedSinceStore + 1 }

/-- The batch of a frame whose datagrams are all built. -/
def frameBatch (job : FrameJob) (origin : ℕ) (packet_batch : List QueueItem) : List QueueItem :=
  (finishBatch job packet_batch).map (stamp origin)

/-- `send_queue_.pushBatch(std::move(packet_batch))` -/
def pushFrame (s : UdpManager) (job : FrameJob) (origin : ℕ) (packet_batch : List QueueItem) :
    UdpManager :=
  -- the whole frame enters the queue under one lock
  let batch := frameBatch job origin packet_batch
  { s with
    fec := .idle
    send := s.send.enqueued batch (s.send.queue.pushBatch batch)
    batches := s.batches ++ [batch] }

/-! ## Reset -/

/-- The next statement of `resetSession`. -/
def advanceReset (s : UdpManager) : ResetThread → Option UdpManager
  | .idle => none
  -- the queues first; a frame that the FEC thread has in hand is in neither
  | .clearInput => some { s with input_queue_ := [], reset := .clearSend }
  | .clearSend =>
      some { s with
        send := s.send.cleared
        send_clears := s.resets_begun
        reset := .resetHandshake }
  | .resetHandshake => some { s with handshake_ready_ := false, reset := .storePacketSeq }
  -- the counters are stored one by one, each in its own access
  | .storePacketSeq =>
      some { s with packet_seq_num_ := 0, fetchedSinceStore := 0, reset := .storeFrameId }
  | .storeFrameId => some { s with frame_id_ := 0, reset := .storeAudioGroup }
  | .storeAudioGroup => some { s with audio_group_id_ := 0, reset := .storeAudioSeq }
  | .storeAudioSeq => some { s with audio_seq_num_ := 0, reset := .storeTelemetryGroup }
  | .storeTelemetryGroup => some { s with telemetry_group_id_ := 0, reset := .storeTelemetrySeq }
  | .storeTelemetrySeq => some { s with telemetry_seq_num_ := 0, reset := .returning }
  | .returning => some { s with resets_returned := s.resets_begun, reset := .idle }

/-! ## Steps -/

/-- The sender's step. A socket call is logged with the resets that have returned. -/
def senderStep (s : UdpManager) (senderStep : SenderStep) : Option UdpManager :=
  (s.send.senderStep senderStep).map fun send =>
    { s with
      send := send
      -- a datagram on the socket is remembered with the resets that were over by then
      socketLog := match senderStep with
        | .socketSend _ => s.socketLog ++ s.send.pc.hand.map fun item => (item, s.resets_returned)
        | _ => s.socketLog }

/-- One step. -/
def step (config : UdpConfig) (s : UdpManager) : UdpAction → Option UdpManager
  | .setHandshake ready => some { s with handshake_ready_ := ready }
  -- both checks come before anything is shared
  | .sendH264Frame frame =>
      some (if s.refuses config || frame.data.isEmpty then s else s.beginCall (.frame frame))
  | .sendMedia packet =>
      some (if s.refuses config || !packet.accepted config then s
        else s.beginCall (.media packet .started))
  | .continueCall index => (s.calls[index]?).map fun call => s.advanceCall config index call
  | .takeFrame =>
      match s.fec, s.input_queue_ with
      | .idle, input :: rest => some { s with fec := .holding input, input_queue_ := rest }
      | _, _ => none
  | .startFrame enqueue_steady_us =>
      match s.fec with
      | .holding input => some (s.startFrame config enqueue_steady_us input)
      | _ => none
  -- one datagram at a time, so a reset can come between two of them
  | .fetchSeq =>
      match s.fec with
      | .building job origin (build :: plan) packet_batch =>
          some (s.fetchSeq job origin build plan packet_batch)
      | _ => none
  | .pushFrame =>
      match s.fec with
      | .building job origin [] packet_batch => some (s.pushFrame job origin packet_batch)
      | _ => none
  | .sender senderStep => s.senderStep senderStep
  -- the resets are called on one thread, one after the other
  | .resetSession =>
      match s.reset with
      | .idle => some { s with reset := .clearInput, resets_begun := s.resets_begun + 1 }
      | _ => none
  | .continueReset => s.advanceReset s.reset

/-! ## Moves -/

/-- What one step does. -/
inductive UdpMove (config : UdpConfig) (s : UdpManager) : UdpAction → UdpManager → Prop
  | setHandshake (ready : Bool) :
    UdpMove config s (.setHandshake ready) { s with handshake_ready_ := ready }
  | ignoreFrame (frame : InputFrame)
      (hignored : (s.refuses config || frame.data.isEmpty) = true) :
    UdpMove config s (.sendH264Frame frame) s
  | beginFrame (frame : InputFrame)
      (htaken : ¬(s.refuses config || frame.data.isEmpty) = true) :
    UdpMove config s (.sendH264Frame frame) (s.beginCall (.frame frame))
  | ignoreMedia (packet : MediaPacket)
      (hignored : (s.refuses config || !packet.accepted config) = true) :
    UdpMove config s (.sendMedia packet) s
  | beginMedia (packet : MediaPacket)
      (htaken : ¬(s.refuses config || !packet.accepted config) = true) :
    UdpMove config s (.sendMedia packet) (s.beginCall (.media packet .started))
  | continueCall (index : ℕ) (call : InFlight) (hcall : s.calls[index]? = some call) :
    UdpMove config s (.continueCall index) (s.advanceCall config index call)
  | takeFrame (input : QueuedFrame) (rest : List QueuedFrame) (hfec : s.fec = .idle)
      (hqueue : s.input_queue_ = input :: rest) :
    UdpMove config s .takeFrame { s with fec := .holding input, input_queue_ := rest }
  | startFrame (enqueue_steady_us : UInt64) (input : QueuedFrame)
      (hfec : s.fec = .holding input) :
    UdpMove config s (.startFrame enqueue_steady_us) (s.startFrame config enqueue_steady_us input)
  | fetchSeq (job : FrameJob) (origin : ℕ) (build : UInt16 → QueueItem)
      (plan : List (UInt16 → QueueItem)) (packet_batch : List QueueItem)
      (hfec : s.fec = .building job origin (build :: plan) packet_batch) :
    UdpMove config s .fetchSeq (s.fetchSeq job origin build plan packet_batch)
  | pushFrame (job : FrameJob) (origin : ℕ) (packet_batch : List QueueItem)
      (hfec : s.fec = .building job origin [] packet_batch) :
    UdpMove config s .pushFrame (s.pushFrame job origin packet_batch)
  | sender (senderStep : SenderStep) (s' : UdpManager)
      (hsender : s.senderStep senderStep = some s') : UdpMove config s (.sender senderStep) s'
  | resetSession (hreset : s.reset = .idle) :
    UdpMove config s .resetSession
      { s with reset := .clearInput, resets_begun := s.resets_begun + 1 }
  | continueReset (s' : UdpManager) (hreset : s.advanceReset s.reset = some s') :
    UdpMove config s .continueReset s'

/-- A step is one of the moves, with the test that it passed. -/
theorem step_moves {config : UdpConfig} {s s' : UdpManager} {a : UdpAction}
    (hstep : s.step config a = some s') : UdpMove config s a s' := by
  cases a with
  | setHandshake ready =>
    cases hstep
    exact .setHandshake ready
  | sendH264Frame frame =>
    cases hstep
    split_ifs with hignored
    · exact .ignoreFrame frame hignored
    · exact .beginFrame frame hignored
  | sendMedia packet =>
    cases hstep
    split_ifs with hignored
    · exact .ignoreMedia packet hignored
    · exact .beginMedia packet hignored
  | continueCall index =>
    obtain ⟨call, hcall, rfl⟩ := Option.map_eq_some_iff.mp hstep
    exact .continueCall index call hcall
  | takeFrame =>
    simp only [step] at hstep
    split at hstep <;> cases hstep
    case h_1 input rest hfec hqueue => exact .takeFrame input rest hfec hqueue
  | startFrame enqueue_steady_us =>
    simp only [step] at hstep
    split at hstep <;> cases hstep
    case h_1 input hfec => exact .startFrame enqueue_steady_us input hfec
  | fetchSeq =>
    simp only [step] at hstep
    split at hstep <;> cases hstep
    case h_1 job origin build plan packet_batch hfec =>
      exact .fetchSeq job origin build plan packet_batch hfec
  | pushFrame =>
    simp only [step] at hstep
    split at hstep <;> cases hstep
    case h_1 job origin packet_batch hfec => exact .pushFrame job origin packet_batch hfec
  | sender senderStep => exact .sender senderStep s' hstep
  | resetSession =>
    simp only [step] at hstep
    split at hstep <;> cases hstep
    case h_1 hreset => exact .resetSession hreset
  | continueReset => exact .continueReset s' hstep

/-! ## The send path of a run -/

theorem send_fetchMediaSeq (s : UdpManager) (kind : MediaKind) :
    (s.fetchMediaSeq kind).send = s.send := by
  cases kind <;> rfl

theorem send_fetchMediaGroup (s : UdpManager) (kind : MediaKind) :
    (s.fetchMediaGroup kind).send = s.send := by
  cases kind <;> rfl

/-- Every step of the manager is a step of its send path or leaves it alone. -/
theorem step_projects {config : UdpConfig} {s s' : UdpManager} {a : UdpAction}
    (hstep : s.step config a = some s') :
    s'.send = s.send ∨ ∃ b, s.send.step b = some s'.send := by
  cases step_moves hstep with
  | setHandshake | ignoreFrame | beginFrame | ignoreMedia | beginMedia | takeFrame | fetchSeq
  | resetSession => exact Or.inl rfl
  | continueCall index call hcall =>
    obtain ⟨origin, call⟩ := call
    cases call with
    | frame frame => exact Or.inl rfl
    | media packet stage =>
      cases stage with
      | started => exact Or.inl (s.send_fetchMediaSeq packet.kind)
      | numbered seq => exact Or.inl (s.send_fetchMediaGroup packet.kind)
      | grouped seq group_id =>
        -- the last access of a call pushes, unless the item is too large
        unfold advanceCall pushMedia
        simp only
        split_ifs
        · exact Or.inl rfl
        · exact Or.inr ⟨.push _, rfl⟩
  | startFrame enqueue_steady_us input hfec =>
    unfold startFrame
    left
    split_ifs <;> rfl
  | pushFrame job origin packet_batch hfec => exact Or.inr ⟨.pushBatch _, rfl⟩
  | sender senderStep s' hsender =>
    obtain ⟨send, hsend, rfl⟩ := Option.map_eq_some_iff.mp hsender
    exact Or.inr ⟨.sender senderStep, hsend⟩
  | continueReset s' hreset =>
    unfold advanceReset at hreset
    split at hreset <;> cases hreset
    case h_3 => exact Or.inr ⟨.clear, rfl⟩
    all_goals exact Or.inl rfl

/-- A run of the manager is a run of its send path. -/
theorem run_projects {config : UdpConfig} {s t : UdpManager} {actions : List UdpAction}
    (hrun : runSteps (step config) s actions = some t) :
    ∃ sends, runSteps SendPath.step s.send sends = some t.send :=
  runSteps_projects (fun _ _ _ => step_projects) hrun

end UdpManager

end TeleopBridge.Udp
