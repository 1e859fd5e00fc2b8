import TeleopBridge.Node.PeerStreams
import TeleopBridge.Support.Transition

/-!
# Events of the Main Node

One event is one callback: a timer of the default callback group, one entry of the session
work queue, or a callback of a module's own thread. Every event brings the replies of the
calls its handler makes. A timer fires only while it is armed.
-/

namespace TeleopBridge.Node

inductive Event
  /-- `GrpcModule::onRegisterRetry`, with the session id of a successful `Register`. -/
  | registerRetryTimer (response : Option StdString)
  | heartbeatTimer (result : HeartbeatResult)
  | registeredSetupRetryTimer
  | handshakeTimer
  | pairingRetryTimer
  | negotiationRetryTimer
  | peerSubscriptionRetryTimer
  /-- `udp_loss`: the counters of the period show drops or backpressure. -/
  | videoStatsTimer (udp_loss : Bool)
  | telemetryTimer
  | jointTelemetryTimer
  /-- One round of `drainSessionWork`. -/
  | sessionWorkTimer
  /-- The stream thread reads a message. -/
  | streamMessage (msg : EventMessage)
  /-- The stream thread ends without `StopEventStream`. -/
  | streamFailed
  /-- The UDP receive thread gets an ACK. -/
  | handshakeAck
  /-- The UDP control thread gives the peer up. -/
  | udpPeerLost
  /-- The encoder thread captures its parameter sets. -/
  | parameterSetsCaptured
  deriving DecidableEq, Repr

namespace MainNode

variable (n : MainNode)

/-- `MainNode::registeredSetupRetryTimerCallback`. -/
def registeredSetupRetryTimerCallback : MainNode :=
  if !n.grpc.registered then n.stopRegisteredSetupRetryTimer else n.completeRegisteredSetup

/-- `UdpModule::handshakeTimerCallback`. -/
def handshakeTimerCallback : MainNode :=
  -- each of the three exits cancels the timer; without an ACK it stays armed
  let cancelled := n.setUdp n.udp.cancelHandshakeTimer
  if n.udp.shutting_down then cancelled
  else if !n.udp.isRunning then cancelled
  else if n.udp.isHandshakeReady n.config.control_enabled then cancelled.fireReady
  else n

/-- `MainNode::pairingRetryTimerCallback`. -/
def pairingRetryTimerCallback : MainNode :=
  if n.state ≠ .pairing || n.config.pair_mode ≠ .active then n.stopPairingRetryTimer
  else n.tryActivePairing.2

/-- `MainNode::requestVideoKeyframeRecovery`, as far as the node keeps it. -/
def requestVideoKeyframeRecovery : MainNode :=
  if n.state ≠ .running then n
  -- the first request of a run is never held back
  else if n.last_video_keyframe_request_time ≠ 0 &&
      n.replies.now - n.last_video_keyframe_request_time < kVideoKeyframeRequestInterval then n
  else { n with last_video_keyframe_request_time := n.replies.now }

/-- `MainNode::telemetryTimerCallback` and `jointTelemetryTimerCallback`. -/
def telemetryTimerCallback : MainNode :=
  if !n.isRobotTelemetryOnline then n.stopRobotTelemetry else n

/-- `MainNode::handleUdpPeerLost`. -/
def handleUdpPeerLost : MainNode :=
  -- an unpaired node has no session to tear down
  if !n.state.active then n.updateRobotTelemetryLifecycle else n.teardownActiveSession .pairing

/-- The work posted by `onGrpcStreamEnd`. -/
def handleStreamEnd : MainNode :=
  let n := n.teardownActiveSession .registered
  -- the event stream is opened again only while the registration stands
  if n.grpc.registered then n.enterPairingState else n

/-- One entry of the session work queue. -/
def runSessionWork : SessionWork → MainNode
  | .signalingEvent msg registration => n.handleSignalingEvent msg registration
  | .streamEnd => n.handleStreamEnd
  | .udpPeerLost => n.handleUdpPeerLost

/-- One round of the loop of `MainNode::drainSessionWork`. -/
def drainSessionWork : MainNode :=
  match n.session_work_queue with
  -- the timer is disarmed in the round that finds the queue empty
  | [] => { n with session_work_timer := false }
  | work :: rest => runSessionWork { n with session_work_queue := rest } work

/-- The receive thread marks the handshake done. -/
def onAckReceived (link : UdpLink) : MainNode :=
  n.setUdp { n.udp with udp_manager := some { link with handshake_ready := true } }

/-- The control thread rolls the handshake back and calls `onUdpPeerLost`. -/
def onUdpPeerLost (link : UdpLink) : MainNode :=
  let udp := { n.udp with
    udp_manager := some { link with handshake_ready := false }
    -- the next ACK fires `on_ready_` again
    ready_fired := false }
  (n.setUdp udp).postSessionWork .udpPeerLost

/-- The encoder's callback into `VideoModule`. -/
def onParameterSets : MainNode :=
  (n.setVideo { n.video with parameter_sets_ready := true }).emitCachedParameterSetsIfReady

/-- The node after an event, `none` when the event cannot happen. -/
def handle : Event → Option MainNode
  | .registerRetryTimer response =>
    if n.grpc.register_retry_timer then some (n.tryRegister response) else none
  | .heartbeatTimer result => if n.grpc.heartbeat_timer then some (n.onHeartbeat result) else none
  | .registeredSetupRetryTimer =>
    if n.registered_setup_retry_timer then some n.registeredSetupRetryTimerCallback else none
  | .handshakeTimer => if n.udp.handshake_timer then some n.handshakeTimerCallback else none
  | .pairingRetryTimer => if n.pairing_retry_timer then some n.pairingRetryTimerCallback else none
  | .negotiationRetryTimer =>
    if n.negotiation_retry_timer then some n.negotiationRetryTimerCallback else none
  | .peerSubscriptionRetryTimer =>
    if n.peer_subscription_retry_timer then some n.peerSubscriptionRetryTimerCallback else none
  | .videoStatsTimer udp_loss => some (if udp_loss then n.requestVideoKeyframeRecovery else n)
  | .telemetryTimer => if n.telemetry_active then some n.telemetryTimerCallback else none
  | .jointTelemetryTimer =>
    if n.joint_telemetry_active then some n.telemetryTimerCallback else none
  -- the stream thread and the UDP threads only post; the timer runs what they post
  | .sessionWorkTimer => if n.session_work_timer then some n.drainSessionWork else none
  | .streamMessage msg =>
    if n.grpc.stream_running then
      some (n.postSessionWork (.signalingEvent msg n.grpc.stream_registration))
    else none
  | .streamFailed =>
    if n.grpc.stream_running then
      some ((n.setGrpc n.grpc.stopEventStream).postSessionWork .streamEnd)
    else none
  | .handshakeAck => n.udp.udp_manager.map n.onAckReceived
  -- without the handshake there is no peer to lose; the last ACK may be any time ago
  | .udpPeerLost =>
    match n.udp.udp_manager with
    | none => none
    | some link =>
      if n.config.control_enabled && link.handshake_ready &&
          decide (0 < n.config.peer_lost_timeout_us) then
        some (n.onUdpPeerLost link)
      else none
  | .parameterSetsCaptured => if n.video.running then some n.onParameterSets else none

/-- One event, with the replies its handler meets. -/
def step (a : Event × Replies) : Option MainNode := handle { n with replies := a.2 } a.1

/-- The node as its constructor leaves it. -/
def construct (config : Config) (response : Option StdString) (replies : Replies) : MainNode :=
  grpcStart { config, replies } response

end MainNode

end TeleopBridge.Node
