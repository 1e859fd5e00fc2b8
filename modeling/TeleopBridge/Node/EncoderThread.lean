import TeleopBridge.Node.Events

/-!
# The Executor and the Encoder Thread

The callbacks of the default group run one at a time on the executor; the encoder thread
calls `onSpsPpsCaptured` and `tryAdvanceNegotiation` on its own. Here both run step by step
over one node: a step is an RPC, a test of shared data or a store to it. The paired peer is
private to the executor, so its update is one step with the store that follows it.

`Pc` is the place a thread has reached. A callback that has returned is `idle`.
-/

namespace TeleopBridge.Node

/-- Where `tryAdvanceNegotiation` returns to. -/
inductive Caller
  /-- The callback ends with it. -/
  | callback
  /-- `VideoModule::start`, on its way back to `startVideoAndNegotiate`. -/
  | videoStart
  deriving DecidableEq, Repr

/-- What follows a teardown. -/
inductive AfterTeardown
  | done
  /-- `onGrpcStreamEnd` enters the pairing state if the node is still registered. -/
  | streamEnd
  /-- `GrpcModule::onHeartbeat` starts the register retry timer. -/
  | heartbeat
  deriving DecidableEq, Repr

/-- Who stops the video. -/
inductive StopReason
  | teardown (target : State) (after : AfterTeardown)
  /-- `negotiationRetryTimerCallback` restarts a stalled start. -/
  | stalled
  deriving DecidableEq, Repr

inductive Pc
  | idle
  -- tryAdvanceNegotiation
  | tryAdvance (caller : Caller)
  | publishVideo (caller : Caller)
  | videoRpc (caller : Caller)
  /-- `pairing` is the pairing in which the RPC returned; the code does not keep it. -/
  | markVideo (caller : Caller) (pairing : ℕ)
  | publishAudioIfNeeded (caller : Caller)
  | publishAudio (caller : Caller)
  | audioRpc (caller : Caller)
  | markAudio (caller : Caller) (pairing : ℕ)
  | receiveOnlyAudio (caller : Caller)
  | storeRunning (caller : Caller)
  | audioStart (caller : Caller)
  | receivePeerStreams (caller : Caller)
  -- VideoModule
  | emitParameterSets (caller : Caller)
  | spsPpsCaptured (caller : Caller)
  -- startVideoAndNegotiate
  | startVideo
  | videoStart
  | videoStarted
  | advanceIfReady
  -- negotiationRetryTimerCallback
  | retry
  | retryVideo
  | retryReady
  -- teardownActiveSession
  | teardown (target : State) (after : AfterTeardown)
  | storeTarget (target : State) (after : AfterTeardown)
  | clearPeer (target : State) (after : AfterTeardown)
  | videoStop (reason : StopReason)
  | joinEncoder (reason : StopReason)
  | videoStopped (reason : StopReason)
  | resetVideoConfig (reason : StopReason)
  | teardownLink (target : State) (after : AfterTeardown)
  | enterPairing (after : AfterTeardown)
  | endTeardown (after : AfterTeardown)
  | streamEnded
  | startRegisterRetry
  -- handleSignalingEvent
  | acceptRpc (peer : PeerInfo) (registration : ℕ)
  | storePairing (peer : StdString) (registration : ℕ)
  | unpair (peer : StdString)
  deriving DecidableEq, Repr

/-- Returning from `tryAdvanceNegotiation`. -/
def Caller.resume : Caller → Pc
  | .callback => .idle
  | .videoStart => .videoStarted

/-- Returning from `teardownActiveSession`. -/
def AfterTeardown.resume : AfterTeardown → Pc
  | .done => .idle
  | .streamEnd => .streamEnded
  | .heartbeat => .startRegisterRetry

namespace MainNode

variable (n : MainNode)

/-- `teardownActiveSession` takes `session_teardown_in_progress_`. -/
def takeTeardown : MainNode := { n with session_teardown_in_progress := true }

/-- `stopVideo`, once the encoder thread has ended. -/
def markVideoStopped : MainNode := { n with video_started := false }

/-- The encoder caches its parameter sets. -/
def cacheParameterSets : MainNode := n.setVideo { n.video with parameter_sets_ready := true }

/-- `negotiationRetryTimerCallback` asks for a keyframe. -/
def requestStartupKeyframe : MainNode :=
  { n with last_video_keyframe_request_time := n.replies.now }

/-- The video comes up. -/
def videoUp (captured : Bool) : MainNode :=
  n.setVideo { n.video with
    running := true
    parameter_sets_ready := n.video.parameter_sets_ready || captured }

/-- One step of a thread at `pc`: the node after it and where the thread is then. -/
def exec : Pc → MainNode × Pc
  | .idle => (n, .idle)
  | .tryAdvance caller =>
    if n.state ≠ .negotiating then (n, caller.resume) else (n, .publishVideo caller)
  | .publishVideo caller =>
    if n.video_config_sent then (n, .publishAudioIfNeeded caller)
    else if !n.video.parameter_sets_ready then (n.ensureNegotiationRetryTimer, caller.resume)
    else (n, .videoRpc caller)
  | .videoRpc caller =>
    if n.rpc.1 then (n.rpc.2.recordVideoPublished, .markVideo caller n.pairings)
    else (n.rpc.2.ensureNegotiationRetryTimer, caller.resume)
  -- the mark is a store of its own: a reset can come before it
  | .markVideo caller _ => (n.markVideoConfigSent, .publishAudioIfNeeded caller)
  | .publishAudioIfNeeded caller =>
    if n.publishesAudio && !n.audio.config_published then (n, .publishAudio caller)
    else (n, .receiveOnlyAudio caller)
  | .publishAudio caller =>
    if n.audio.config_published then (n, .receiveOnlyAudio caller) else (n, .audioRpc caller)
  | .audioRpc caller =>
    if n.rpc.1 then (n.rpc.2.recordAudioPublished, .markAudio caller n.pairings)
    else (n.rpc.2.ensureNegotiationRetryTimer, caller.resume)
  | .markAudio caller _ => (n.markAudioConfigPublished, .receiveOnlyAudio caller)
  | .receiveOnlyAudio caller => (n.markReceiveOnlyAudio, .storeRunning caller)
  -- the state was tested at `tryAdvance` and is not tested again
  | .storeRunning caller => (n.storeRunning, .audioStart caller)
  | .audioStart caller => (n.audioStart, .receivePeerStreams caller)
  | .receivePeerStreams caller => (n.receivePeerStreams, caller.resume)
  -- `sps_pps_emitted` lets the capture through once
  | .emitParameterSets caller =>
    if !n.video.parameter_sets_ready then (n, caller.resume)
    else if n.video.sps_pps_emitted then (n, caller.resume)
    else (n.setVideo { n.video with sps_pps_emitted := true }, .spsPpsCaptured caller)
  | .spsPpsCaptured caller =>
    if n.state = .negotiating then (n, .tryAdvance caller) else (n, caller.resume)
  | .startVideo =>
    if n.video_started && n.video.running then (n.ensureNegotiationRetryTimer, .advanceIfReady)
    else (n, .videoStart)
  | .videoStart =>
    if n.video.running then (n, .emitParameterSets .videoStart)
    else if !n.reply then (n.replied, .idle)
    else (n.replied.replied.videoUp n.replied.reply, .emitParameterSets .videoStart)
  | .videoStarted => (n.markVideoStarted, .advanceIfReady)
  | .advanceIfReady =>
    if n.state = .negotiating && n.video.parameter_sets_ready then (n, .tryAdvance .callback)
    else (n, .idle)
  | .retry =>
    if n.state ≠ .negotiating then (n.stopNegotiationRetryTimer, .idle) else (n, .retryVideo)
  | .retryVideo =>
    if !n.video_started || !n.video.running then (n, .startVideo) else (n, .retryReady)
  -- the four ends of `negotiationRetryTimerCallback` in the order of its tests
  | .retryReady =>
    if n.video.parameter_sets_ready then (n, .tryAdvance .callback)
    else if n.video_start_time = 0 then (n, .tryAdvance .callback)
    else if kVideoStartupTimeout ≤ n.replies.now - n.video_start_time then
      (n, .videoStop .stalled)
    else if kVideoStartupKeyframeDelay ≤ n.replies.now - n.video_start_time ∧
        (n.last_video_keyframe_request_time = 0 ∨
          kVideoKeyframeRequestInterval ≤
            n.replies.now - n.last_video_keyframe_request_time) then
      (n.requestStartupKeyframe, .tryAdvance .callback)
    else (n, .tryAdvance .callback)
  -- a second teardown returns to its caller at once
  | .teardown target after =>
    if n.session_teardown_in_progress then (n, after.resume)
    else (n.takeTeardown, .storeTarget target after)
  | .storeTarget target after => (n.beginTeardown target, .clearPeer target after)
  | .clearPeer target after => (n.clearPeerSession, .videoStop (.teardown target after))
  | .videoStop reason => (n.videoStop, .joinEncoder reason)
  -- enabled when the encoder thread is idle, see the step below
  | .joinEncoder reason => (n, .videoStopped reason)
  | .videoStopped reason => (n.markVideoStopped, .resetVideoConfig reason)
  | .resetVideoConfig .stalled => (n.resetVideoConfigState, .startVideo)
  | .resetVideoConfig (.teardown target after) =>
    (n.resetVideoConfigState, .teardownLink target after)
  | .teardownLink target after =>
    (n.teardownLink target, if target = .pairing then .enterPairing after else .endTeardown after)
  | .enterPairing after => (n.enterPairingState, .endTeardown after)
  | .endTeardown after => (n.endTeardown, after.resume)
  | .streamEnded => (if n.grpc.registered then n.enterPairingState else n, .idle)
  | .startRegisterRetry => (n.startRegisterRetryTimer, .idle)
  -- a failed `acceptPair` is followed by `rejectPair`
  | .acceptRpc peer registration =>
    if n.rpc.1 then (n.rpc.2, .storePairing peer.session_id registration)
    else (n.rpc.2.rpc.2, .idle)
  | .storePairing peer registration => (n.storePairing peer registration, .startVideo)
  -- the peer is private to the executor, so both stores are one step
  | .unpair peer =>
    if n.session_teardown_in_progress then (n.forgetPeer peer, .idle)
    else ((n.forgetPeer peer).takeTeardown, .storeTarget .pairing .done)

/-- A thread with nothing to do leaves the node alone. -/
@[simp] theorem exec_idle : n.exec .idle = (n, .idle) := by rw [exec]

/-- One entry of the session work queue begins. -/
def dispatchWork : SessionWork → MainNode × Pc
  | .signalingEvent (.pair ⟨.request, some peer⟩) registration =>
    if n.config.pair_auto_accept && n.peerMatches peer then (n, .acceptRpc peer registration)
    else (n.rpc.2, .idle)
  | .signalingEvent (.pair ⟨.accept, some peer⟩) registration =>
    (n, .storePairing peer.session_id registration)
  | .signalingEvent (.pair ⟨.unpair, some peer⟩) _ => (n, .unpair peer.session_id)
  | .signalingEvent msg registration => (n.handleSignalingEvent msg registration, .idle)
  | .streamEnd => (n, .teardown .registered .streamEnd)
  | .udpPeerLost =>
    if !n.state.active then (n.updateRobotTelemetryLifecycle, .idle)
    else (n, .teardown .pairing .done)

/-- A lost registration begins. -/
def dispatchLoss : MainNode × Pc :=
  (n.dropRegistration.beginHeartbeatFail, .teardown .connecting .heartbeat)

/-- The heartbeat timer fires. -/
def dispatchHeartbeat (result : HeartbeatResult) : MainNode × Pc :=
  if !n.grpc.registered then (n, .idle)
  else
    match (if n.grpc.session_id = [] then .sessionInvalid else result) with
    | .ok => (n.setGrpc { n.grpc with consecutive_heartbeat_transport_failures := 0 }, .idle)
    | .transportError =>
      let failures := n.grpc.consecutive_heartbeat_transport_failures + 1
      let n := n.setGrpc { n.grpc with consecutive_heartbeat_transport_failures := failures }
      if failures < kMaxTransientHeartbeatFailuresBeforeReregister then (n, .idle)
      else n.dispatchLoss
    | .sessionInvalid => n.dispatchLoss

/-- A callback of the default group begins. The callbacks that neither publish a config
nor stop the video are one step. -/
def dispatch : Event → Option (MainNode × Pc)
  | .negotiationRetryTimer => if n.negotiation_retry_timer then some (n, .retry) else none
  | .heartbeatTimer result =>
    if n.grpc.heartbeat_timer then some (n.dispatchHeartbeat result) else none
  | .sessionWorkTimer =>
    if n.session_work_timer then
      match n.session_work_queue with
      | [] => some ({ n with session_work_timer := false }, .idle)
      | work :: rest => some (dispatchWork { n with session_work_queue := rest } work)
    else none
  | e => (n.handle e).map fun m => (m, .idle)

end MainNode

/-- Whether an event belongs to the default callback group of the executor. -/
def Event.foreground : Event → Bool
  | .registerRetryTimer _ | .heartbeatTimer _ | .registeredSetupRetryTimer | .handshakeTimer
  | .pairingRetryTimer | .negotiationRetryTimer | .videoStatsTimer _ | .telemetryTimer
  | .jointTelemetryTimer | .sessionWorkTimer => true
  | .peerSubscriptionRetryTimer | .streamMessage _ | .streamFailed | .handshakeAck
  | .udpPeerLost | .parameterSetsCaptured => false

/-- The node with its two threads. -/
structure Threads where
  node : MainNode
  executor : Pc := .idle
  encoder : Pc := .idle
  deriving DecidableEq, Repr

inductive Turn
  /-- The executor begins a callback. -/
  | begin (event : Event)
  | executor
  | encoder
  /-- The encoder thread captures its parameter sets. -/
  | capture
  /-- A callback of another thread or of the other callback group. -/
  | background (event : Event)
  deriving DecidableEq, Repr

namespace Threads

/-- The executor is in `VideoModule::stop`, where it joins the encoder thread. -/
def joins (s : Threads) : Bool :=
  match s.executor with
  | .joinEncoder _ => true
  | _ => false

/-- The executor waits in `VideoModule::stop` until the encoder thread has ended. -/
def waits (s : Threads) : Bool := s.joins && decide (s.encoder ≠ .idle)

/-- One turn, with the replies of the calls it makes. -/
def step (s : Threads) (a : Turn × Replies) : Option Threads :=
  let n := { s.node with replies := a.2 }
  match a.1 with
  | .begin event =>
    if s.executor = .idle ∧ event.foreground then
      (n.dispatch event).map fun c => { s with node := c.1, executor := c.2 }
    else none
  | .executor =>
    if s.executor = .idle ∨ s.waits then none
    else
      some { s with node := (n.exec s.executor).1, executor := (n.exec s.executor).2 }
  | .encoder =>
    if s.encoder = .idle then none
    else some { s with node := (n.exec s.encoder).1, encoder := (n.exec s.encoder).2 }
  -- a stopped encoder thread works on until it is joined
  | .capture =>
    if s.encoder = .idle ∧ (n.video.running || s.joins) then
      some { s with node := n.cacheParameterSets, encoder := .emitParameterSets .callback }
    else none
  | .background event =>
    if event.foreground || event = .parameterSetsCaptured then none
    else (n.handle event).map fun m => { s with node := m }

/-- The constructor runs before the executor spins and before any video was started. -/
def construct (config : Config) (response : Option StdString) (replies : Replies) : Threads :=
  { node := .construct config response replies }

end Threads

end TeleopBridge.Node
