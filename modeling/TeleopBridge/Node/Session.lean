import Mathlib.Algebra.Group.Nat.Defs
import TeleopBridge.Node.State

/-!
# Session Functions of the Main Node

The member functions of `MainNode` that open, negotiate and close a session, with the
module functions that call back into the node. Each returns the node after the call; a
function with a result returns the pair.
-/

namespace TeleopBridge.Node

/-- `kVideoStartupTimeout`, in nanoseconds. -/
def kVideoStartupTimeout : ℕ := 8 * 10 ^ 9

/-- `kVideoStartupKeyframeDelay`, in nanoseconds. -/
def kVideoStartupKeyframeDelay : ℕ := 4 * 10 ^ 9

/-- `kVideoKeyframeRequestInterval`, in nanoseconds. -/
def kVideoKeyframeRequestInterval : ℕ := 10 ^ 9

def kPoseControllerPrefix : ℕ := 0x02
def kAudioPrefix : ℕ := 0x04
def kBody24RawPrefix : ℕ := 0x09

namespace MainNode

variable (n : MainNode)

/-! ## Calls and timers -/

/-- An RPC of `GrpcManager`: without a session id it fails without a call. -/
def rpc : Bool × MainNode :=
  if n.grpc.session_id = [] then (false, n) else (n.reply, n.replied)

def ensureNegotiationRetryTimer : MainNode := { n with negotiation_retry_timer := true }
def stopNegotiationRetryTimer : MainNode := { n with negotiation_retry_timer := false }
def ensurePairingRetryTimer : MainNode := { n with pairing_retry_timer := true }
def stopPairingRetryTimer : MainNode := { n with pairing_retry_timer := false }
def ensureRegisteredSetupRetryTimer : MainNode := { n with registered_setup_retry_timer := true }
def stopRegisteredSetupRetryTimer : MainNode := { n with registered_setup_retry_timer := false }
def ensurePeerSubscriptionRetryTimer : MainNode :=
  { n with peer_subscription_retry_timer := true }
def stopPeerSubscriptionRetryTimer : MainNode :=
  { n with peer_subscription_retry_timer := false }

/-- `MainNode::postSessionWork`. -/
def postSessionWork (work : SessionWork) : MainNode :=
  { n with session_work_queue := n.session_work_queue ++ [work], session_work_timer := true }

/-! ## Robot telemetry -/

/-- `MainNode::startRobotTelemetry`; the snapshots it sends do not come back to the node. -/
def startRobotTelemetry : MainNode :=
  { n with
    telemetry_active := n.telemetry_active || n.config.telemetry_enabled
    joint_telemetry_active := n.joint_telemetry_active || n.config.joint_telemetry_enabled }

/-- `MainNode::stopRobotTelemetry`. -/
def stopRobotTelemetry : MainNode :=
  { n with telemetry_active := false, joint_telemetry_active := false }

/-- `MainNode::isRobotTelemetryOnline`. -/
def isRobotTelemetryOnline : Bool :=
  (n.config.telemetry_enabled || n.config.joint_telemetry_enabled) &&
    n.grpc.registered && n.udp.isRunning &&
    !(n.config.control_enabled && !n.udp.isHandshakeReady n.config.control_enabled)

/-- `MainNode::updateRobotTelemetryLifecycle`. -/
def updateRobotTelemetryLifecycle : MainNode :=
  if n.isRobotTelemetryOnline then n.startRobotTelemetry else n.stopRobotTelemetry

/-! ## Pairing -/

/-- The session id `tryActivePairing` asks for, if it finds one. -/
def requestedPeer : Option StdString :=
  -- a configured session id is taken as it is, unseen
  if n.config.desired_peer_session_id ≠ [] then some n.config.desired_peer_session_id
  else if n.config.desired_peer_device_type_code = [] then none
  -- the list of unpaired devices is an RPC too
  else if n.grpc.session_id = [] then none
  else n.replies.unpaired.head?

/-- `MainNode::tryActivePairing`. -/
def tryActivePairing : Bool × MainNode :=
  if !n.grpc.registered || n.state ≠ .pairing then (false, n)
  else if !n.config.pair_auto_request then (false, n)
  else
    match n.requestedPeer with
    | none => (false, n)
    -- whether the peer accepts comes back as a stream message
    | some _ => n.rpc

/-- `MainNode::enterPairingState`. -/
def enterPairingState : MainNode :=
  let n := n.setState .pairing
  let n := n.setGrpc n.grpc.startEventStream
  -- a passive node waits for a `REQUEST`
  match n.config.pair_mode with
  | .active => n.tryActivePairing.2.ensurePairingRetryTimer
  | .passive => n.stopPairingRetryTimer

/-! ## Negotiation -/

/-- The `VideoConfig` RPC succeeded. -/
def recordVideoPublished : MainNode := { n with video_published := true }

/-- `publishVideoConfig` notes the success. -/
def markVideoConfigSent : MainNode := { n with video_config_sent := true }

/-- `MainNode::publishVideoConfig`. -/
def publishVideoConfig : Bool × MainNode :=
  -- what is sent already counts as success
  if n.video_config_sent then (true, n)
  -- the config carries the SPS and PPS, so it waits for them
  else if !n.video.parameter_sets_ready then (false, n)
  else
    let published := n.rpc
    if published.1 then (true, published.2.recordVideoPublished.markVideoConfigSent)
    else (false, published.2)

/-- The `AudioConfig` RPC succeeded. -/
def recordAudioPublished : MainNode := { n with audio_published := true }

/-- `publishAudioConfig` notes the success. -/
def markAudioConfigPublished : MainNode := n.setAudio n.audio.markConfigPublished

/-- `MainNode::publishAudioConfig`. -/
def publishAudioConfig : Bool × MainNode :=
  if !n.config.audio_enabled then (false, n)
  else if n.audio.config_published then (true, n)
  else
    let published := n.rpc
    if published.1 then (true, published.2.recordAudioPublished.markAudioConfigPublished)
    else (false, published.2)

/-- `AudioModule::start`; the node ignores the result. -/
def audioStart : MainNode :=
  if !n.config.audio_enabled then n
  else if n.audio.started then n
  else if !n.audio.config_published then n
  -- the device may fail to open
  else if n.reply then
    n.replied.setAudio { n.audio with started := true }
  else n.replied

/-- Whether the node sends audio of its own. -/
def publishesAudio : Bool := n.config.audio_enabled && n.config.uplink_enabled

/-- The audio half of the publishing in `tryAdvanceNegotiation`. -/
def publishAudioIfNeeded : Bool × MainNode :=
  if n.publishesAudio && !n.audio.config_published then n.publishAudioConfig else (true, n)

/-- Audio that is only received needs no published config. -/
def markReceiveOnlyAudio : MainNode :=
  if n.config.audio_enabled && !n.publishesAudio then n.markAudioConfigPublished else n

/-- `tryAdvanceNegotiation` stores the running state. -/
def storeRunning : MainNode := n.stopNegotiationRetryTimer.setState .running

/-- `tryAdvanceNegotiation` leaves the peer's streams to the retry timer. -/
def receivePeerStreams : MainNode :=
  if n.config.subscribe_vr_pose_flag || n.wantsRemoteAudio then
    n.ensurePeerSubscriptionRetryTimer
  else { n with peer_streams_subscribed := true }

/-- The end of `tryAdvanceNegotiation`, once both configs are published. -/
def enterRunning : MainNode :=
  n.markReceiveOnlyAudio.storeRunning.audioStart.receivePeerStreams

/-- `MainNode::tryAdvanceNegotiation`. -/
def tryAdvanceNegotiation : MainNode :=
  if n.state ≠ .negotiating then n
  else
    -- video first: audio is not tried while the video config is missing
    let video := n.publishVideoConfig
    if !video.1 then video.2.ensureNegotiationRetryTimer
    else
      let audio := video.2.publishAudioIfNeeded
      if !audio.1 then audio.2.ensureNegotiationRetryTimer else audio.2.enterRunning

/-- `MainNode::onSpsPpsCaptured`. -/
def onSpsPpsCaptured : MainNode :=
  if n.state = .negotiating then n.tryAdvanceNegotiation else n

/-- `VideoModule::emitCachedParameterSetsIfReady`. -/
def emitCachedParameterSetsIfReady : MainNode :=
  if !n.video.parameter_sets_ready then n
  -- `onSpsPpsCaptured` is called once in a run of the encoder
  else if n.video.sps_pps_emitted then n
  else (n.setVideo { n.video with sps_pps_emitted := true }).onSpsPpsCaptured

/-- `VideoModule::start`. The encoder may have cached its parameter sets before
`VideoStreamManager::start` returns. -/
def videoStart : Bool × MainNode :=
  -- a running encoder is not started twice
  if n.video.running then (true, n.emitCachedParameterSetsIfReady)
  else if !n.reply then (false, n.replied)
  else
    let n := n.replied
    let captured := n.reply
    let n := n.replied
    let video := { n.video with
      running := true
      parameter_sets_ready := n.video.parameter_sets_ready || captured }
    (true, (n.setVideo video).emitCachedParameterSetsIfReady)

/-- `startVideoAndNegotiate` notes that the video runs. -/
def markVideoStarted : MainNode :=
  ensureNegotiationRetryTimer { n with
    video_started := true
    video_start_time := n.replies.now
    last_video_keyframe_request_time := 0 }

/-- The last test of `startVideoAndNegotiate`. -/
def advanceIfReady : MainNode :=
  if n.state = .negotiating && n.video.parameter_sets_ready then n.tryAdvanceNegotiation else n

/-- `MainNode::startVideoAndNegotiate`. -/
def startVideoAndNegotiate : MainNode :=
  -- a restart only arms the retry timer again
  if n.video_started && n.video.running then n.ensureNegotiationRetryTimer.advanceIfReady
  else
    let start := n.videoStart
    if !start.1 then start.2 else start.2.markVideoStarted.advanceIfReady

/-- `VideoModule::stop`. It returns when the encoder thread has ended. -/
def videoStop : MainNode := n.setVideo { n.video with running := false }

/-- `MainNode::stopVideo`. -/
def stopVideo : MainNode := { n.videoStop with video_started := false }

/-- `MainNode::resetVideoConfigState`. -/
def resetVideoConfigState : MainNode :=
  { n with
    video_config_sent := false
    video_started := false
    video_start_time := 0
    last_video_keyframe_request_time := 0
    video := n.video.clearSpsPps }

/-- `MainNode::negotiationRetryTimerCallback`. -/
def negotiationRetryTimerCallback : MainNode :=
  if n.state ≠ .negotiating then n.stopNegotiationRetryTimer
  else if !n.video_started || !n.video.running then n.startVideoAndNegotiate
  else if n.video.parameter_sets_ready then n.tryAdvanceNegotiation
  else
    -- the encoder runs but has captured nothing yet
    let now := n.replies.now
    if n.video_start_time = 0 then n.tryAdvanceNegotiation
    else
      let startup_elapsed := now - n.video_start_time
      -- too late for a keyframe request: stop and start over
      if kVideoStartupTimeout ≤ startup_elapsed then
        n.stopVideo.resetVideoConfigState.startVideoAndNegotiate
      else if kVideoStartupKeyframeDelay ≤ startup_elapsed ∧
          (n.last_video_keyframe_request_time = 0 ∨
            kVideoKeyframeRequestInterval ≤ now - n.last_video_keyframe_request_time) then
        tryAdvanceNegotiation { n with last_video_keyframe_request_time := now }
      else n.tryAdvanceNegotiation

/-! ## Ending a session -/

/-- The start of `teardownActiveSession`. -/
def beginTeardown (target : State) : MainNode :=
  ((n.setState target).stopRobotTelemetry.stopNegotiationRetryTimer
    ).stopPeerSubscriptionRetryTimer.stopPairingRetryTimer

/-- The fields `teardownActiveSession` clears under `peer_receive_state_mutex_`. -/
def clearPeerSession : MainNode :=
  { n with
    paired_peer_session_id := []
    peer_streams_subscribed := false
    peer_subscribed_prefixes := []
    audio := n.audio.stop.resetConfigPublished.resetRemoteConfig }

/-- What `teardownActiveSession` does to the registered setup and to the UDP module. -/
def teardownLink (target : State) : MainNode :=
  match target with
  -- the registration is lost, and the UDP session with it
  | .connecting =>
    let n := stopRegisteredSetupRetryTimer { n with publisher_manifest_published := false }
    n.setUdp n.udp.stop
  -- the socket stays, the handshake is done again
  | .pairing | .registered => n.setUdp (n.udp.resetSession n.config.control_enabled)
  | .negotiating | .running => n

/-- The end of `teardownActiveSession`. -/
def endTeardown : MainNode :=
  { n.updateRobotTelemetryLifecycle with session_teardown_in_progress := false }

/-- `MainNode::teardownActiveSession`. -/
def teardownActiveSession (target : State) : MainNode :=
  -- the flag keeps a callback of the teardown from entering it again
  if n.session_teardown_in_progress then n
  else
    let n := { n with session_teardown_in_progress := true }
    -- the state is stored before anything is closed
    let n := (n.beginTeardown target).clearPeerSession.stopVideo.resetVideoConfigState
    let n := n.teardownLink target
    let n := if target = .pairing then n.enterPairingState else n
    n.endTeardown

/-! ## Registration -/

/-- `MainNode::onUdpHandshakeReady`. -/
def onUdpHandshakeReady : MainNode := n.updateRobotTelemetryLifecycle.enterPairingState

/-- `on_ready_` of `UdpModule`, called once until `ready_fired_` is cleared. -/
def fireReady : MainNode :=
  -- `exchange(true)`: only the first caller goes on
  if n.udp.ready_fired then n
  else (n.setUdp { n.udp with ready_fired := true }).onUdpHandshakeReady

/-- `UdpModule::start`. -/
def udpStart (session_id : StdString) : Bool × MainNode :=
  let n := n.setUdp { n.udp with shutting_down := false }
  if n.udp.isRunning then (true, n)
  else if !n.config.udp_remote_configured then (false, n)
  else if !n.reply then (false, n.replied)
  else
    let link : UdpLink := { session_id }
    let n := n.replied.setUdp { n.udp with udp_manager := some link, ready_fired := false }
    -- without a control plane there is no handshake to wait for
    if !n.config.control_enabled then (true, n.fireReady)
    else (true, n.setUdp { n.udp with handshake_timer := true })

/-- `MainNode::publishLocalStreamManifest`. -/
def publishLocalStreamManifest : Bool × MainNode :=
  if !n.grpc.registered then (false, n) else n.rpc

/-- The first half of `completeRegisteredSetup`: whether the manifest is published. -/
def ensureManifestPublished : Bool × MainNode :=
  if n.publisher_manifest_published then (true, n)
  else
    let published := n.publishLocalStreamManifest
    if published.1 then (true, { published.2 with publisher_manifest_published := true })
    else (false, published.2)

/-- The second half of `completeRegisteredSetup`: whether the UDP module runs. -/
def ensureUdpStarted : Bool × MainNode :=
  if n.udp.isRunning then (true, n) else n.udpStart n.grpc.session_id

/-- `MainNode::completeRegisteredSetup`. -/
def completeRegisteredSetup : MainNode :=
  if !n.grpc.registered then n.stopRegisteredSetupRetryTimer
  else
    -- both halves are retried by the same timer
    let manifest := n.ensureManifestPublished
    if !manifest.1 then manifest.2.ensureRegisteredSetupRetryTimer
    else
      let udp := manifest.2.ensureUdpStarted
      if !udp.1 then udp.2.ensureRegisteredSetupRetryTimer
      else udp.2.stopRegisteredSetupRetryTimer.updateRobotTelemetryLifecycle

/-- `onGrpcRegistered` up to its call of `completeRegisteredSetup`. -/
def enterRegistered : MainNode :=
  let n := n.stopNegotiationRetryTimer.stopPairingRetryTimer.stopRegisteredSetupRetryTimer
  -- a new registration publishes its manifest anew
  let n := { n.setState .registered with publisher_manifest_published := false }
  n.resetPeerSubscriptionState

/-- `MainNode::onGrpcRegistered`. -/
def onGrpcRegistered : MainNode := n.enterRegistered.completeRegisteredSetup

/-- `onGrpcHeartbeatFail` up to its call of `teardownActiveSession`. -/
def beginHeartbeatFail : MainNode :=
  let n := { n with publisher_manifest_published := false }
  let n := n.resetPeerSubscriptionState.stopPeerSubscriptionRetryTimer
  n.stopRegisteredSetupRetryTimer

/-- `MainNode::onGrpcHeartbeatFail`. -/
def onGrpcHeartbeatFail : MainNode := n.beginHeartbeatFail.teardownActiveSession .connecting

/-- `GrpcModule::tryRegister`, with the session id of a `Register` that succeeds. -/
def tryRegister (response : Option StdString) : MainNode :=
  if n.grpc.registered then n
  else
    match response with
    -- a failed `Register` leaves the retry timer armed
    | none => n
    | some session_id =>
      let grpc := { n.grpc with
        session_id
        registered := true
        registrations := n.grpc.registrations + 1
        consecutive_heartbeat_transport_failures := 0
        register_retry_timer := false
        heartbeat_timer := true }
      (n.setGrpc grpc).onGrpcRegistered

end MainNode

/-- `GrpcManager::HeartbeatResult`. -/
inductive HeartbeatResult
  | ok
  | transportError
  | sessionInvalid
  deriving DecidableEq, Repr

def kMaxTransientHeartbeatFailuresBeforeReregister : ℕ := 3

namespace MainNode

variable (n : MainNode)

/-- `GrpcModule::startRegisterRetryTimer`. -/
def startRegisterRetryTimer : MainNode := n.setGrpc { n.grpc with register_retry_timer := true }

/-- `GrpcModule::onHeartbeat` gives the registration up. -/
def dropRegistration : MainNode :=
  let grpc := { n.grpc with
    consecutive_heartbeat_transport_failures := 0
    registered := false }
  n.setGrpc { grpc.stopEventStream with heartbeat_timer := false }

/-- The end of `GrpcModule::onHeartbeat`, once the registration is given up. -/
def loseRegistration : MainNode :=
  n.dropRegistration.onGrpcHeartbeatFail.startRegisterRetryTimer

/-- `GrpcModule::onHeartbeat`. Without a session id no ping is sent. -/
def onHeartbeat (result : HeartbeatResult) : MainNode :=
  if !n.grpc.registered then n
  else
    match (if n.grpc.session_id = [] then .sessionInvalid else result) with
    | .ok => n.setGrpc { n.grpc with consecutive_heartbeat_transport_failures := 0 }
    -- only the third failure in a row ends the registration
    | .transportError =>
      let failures := n.grpc.consecutive_heartbeat_transport_failures + 1
      let n := n.setGrpc { n.grpc with consecutive_heartbeat_transport_failures := failures }
      if failures < kMaxTransientHeartbeatFailuresBeforeReregister then n else n.loseRegistration
    -- the server no longer knows the session, so no retry
    | .sessionInvalid => n.loseRegistration

/-- `GrpcModule::start`, called at the end of the node's constructor. -/
def grpcStart (response : Option StdString) : MainNode :=
  if !n.config.grpc_enabled then n
  else
    let n := n.tryRegister response
    if n.grpc.registered then n
    else n.startRegisterRetryTimer

/-! ## Signalling events -/

/-- Whether the peer is one the parameters ask for. -/
def peerMatches (peer : PeerInfo) : Bool :=
  (n.config.desired_peer_session_id = [] || peer.session_id = n.config.desired_peer_session_id) &&
    (n.config.desired_peer_device_type_code = [] ||
      n.config.desired_peer_device_type_code.isPrefixOf peer.device_type_code)

/-- A peer is paired and the negotiation begins. -/
def storePairing (peer : StdString) (registration : ℕ) : MainNode :=
  let n := { n with
    paired_peer_session_id := peer
    peer_streams_subscribed := false
    peer_subscribed_prefixes := []
    audio := n.audio.resetRemoteConfig
    -- auxiliary: the stream the message came from, and the count of pairings
    pair_registration := registration
    pairings := n.pairings + 1
    video_published := false
    audio_published := false }
  n.stopPairingRetryTimer.setState .negotiating

/-- The block a `REQUEST` that is accepted and an `ACCEPT` share. -/
def beginNegotiation (peer : StdString) (registration : ℕ) : MainNode :=
  (n.storePairing peer registration).startVideoAndNegotiate

/-- The block `REJECT` and `UNPAIR` share. -/
def forgetPeer (peer : StdString) : MainNode :=
  if n.paired_peer_session_id = peer then
    { n with
      paired_peer_session_id := []
      peer_streams_subscribed := false
      peer_subscribed_prefixes := [] }
  else n

/-- The case `REQUEST` of `handleSignalingEvent`. -/
def handlePairRequest (peer : PeerInfo) (registration : ℕ) : MainNode :=
  if n.config.pair_auto_accept && n.peerMatches peer then
    -- acceptPair, then rejectPair when it fails
    let accepted := n.rpc
    if accepted.1 then accepted.2.beginNegotiation peer.session_id registration
    -- the result of `rejectPair` is not looked at
    else accepted.2.rpc.2
  else n.rpc.2

/-- The case `REJECT` of `handleSignalingEvent`. -/
def handlePairReject (peer : PeerInfo) : MainNode :=
  -- the state goes to pairing whoever sent the `REJECT`
  let n := (n.forgetPeer peer.session_id).setState .pairing
  match n.config.pair_mode with
  | .active => n.ensurePairingRetryTimer
  | .passive => n

/-- `MainNode::handleSignalingEvent`. -/
def handleSignalingEvent (msg : EventMessage) (registration : ℕ) : MainNode :=
  match msg with
  | .none => n
  | .system action =>
    if action = .requestUdpHello then
      n.setUdp (n.udp.resetSession n.config.control_enabled)
    else n
  | .pair event =>
    match event.peer with
    -- a pair event without a peer is dropped
    | none => n
    | some peer =>
      match event.op with
      | .request => n.handlePairRequest peer registration
      -- an `ACCEPT` is taken without a look at who sent it
      | .accept => n.beginNegotiation peer.session_id registration
      | .reject => n.handlePairReject peer
      -- the teardown runs even when another peer unpairs
      | .unpair => (n.forgetPeer peer.session_id).teardownActiveSession .pairing
      | .unrecognized => n

end MainNode

end TeleopBridge.Node
