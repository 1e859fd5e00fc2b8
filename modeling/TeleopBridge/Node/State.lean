import Mathlib.Data.List.Sort

/-!
# State of the Main Node

`MainNode` owns the four modules of the bridge (gRPC signalling, UDP, video, audio) and
drives one teleoperation session through `State`. This file has the data: the parameters
read at start-up, the part of every module the node reads or writes, and the node itself.

The calls that leave the process (RPCs, opening the camera, opening sockets) are answered
from `Replies`, so that one event with its replies determines one state.
-/

namespace TeleopBridge.Node

/-- A `std::string` that is only compared. -/
abbrev StdString := List Char

/-! ## Parameters -/

/-- `pair_mode_`, after the fallback of `loadPairingParams`. -/
inductive PairMode
  | active
  | passive
  deriving DecidableEq, Repr

/-- The fields of an audio `StreamConfig`. -/
structure AudioConfig where
  sample_rate : ℕ := 48000
  channels : ℕ := 1
  frame_duration_ms : ℕ := 20
  samples_per_channel : ℕ := 960
  bitrate_bps : ℕ := 64000
  opus_inband_fec_enabled : Bool := true
  opus_dtx_enabled : Bool := false
  deriving DecidableEq, Repr

/-- The parameters the session logic reads. -/
structure Config where
  pair_mode : PairMode := .passive
  desired_peer_session_id : StdString := []
  desired_peer_device_type_code : StdString := []
  pair_auto_accept : Bool := true
  pair_auto_request : Bool := true
  subscribe_vr_pose_flag : Bool := false
  grpc_enabled : Bool := true
  /-- `AudioModule::isEnabled`: the audio manager was initialised. -/
  audio_enabled : Bool := false
  uplink_enabled : Bool := true
  downlink_enabled : Bool := true
  audio_config : AudioConfig := {}
  /-- `udp.remote_ip` and `udp.remote_port` are set. -/
  udp_remote_configured : Bool := true
  control_enabled : Bool := true
  /-- `peer_lost_timeout_us` of `ControlPlane::threadMain`. By default, and from any value that is
  not positive, no peer is given up. -/
  peer_lost_timeout_us : ℤ := 0
  telemetry_enabled : Bool := false
  joint_telemetry_enabled : Bool := true
  deriving DecidableEq, Repr

/-! ## Signalling messages -/

/-- `signaling::PairEvent::Op`. -/
inductive PairOp
  | request
  | accept
  | reject
  | unpair
  /-- A value outside the enumeration: protobuf keeps it, the `switch` ignores it. -/
  | unrecognized
  deriving DecidableEq, Repr

/-- What the node reads of `signaling::EndpointInfo`. -/
structure PeerInfo where
  session_id : StdString
  device_type_code : StdString
  deriving DecidableEq, Repr

/-- `signaling::PairEvent`. -/
structure PairEvent where
  op : PairOp
  peer : Option PeerInfo
  deriving DecidableEq, Repr

/-- `signaling::SystemCommand::Action`. -/
inductive SystemAction
  | unknown
  | reconnectGrpc
  | requestPing
  | requestUdpHello
  deriving DecidableEq, Repr

/-- The payload of `signaling::EventMessage`. -/
inductive EventMessage
  | pair (event : PairEvent)
  | system (action : SystemAction)
  | none
  deriving DecidableEq, Repr

/-- What `postSessionWork` queues. -/
inductive SessionWork
  /-- `handleSignalingEvent`. `registration` is the registration whose event stream
  delivered the message; the code does not record it. -/
  | signalingEvent (msg : EventMessage) (registration : ℕ)
  /-- The body posted by `onGrpcStreamEnd`. -/
  | streamEnd
  /-- `handleUdpPeerLost`. -/
  | udpPeerLost
  deriving DecidableEq, Repr

/-! ## Replies of the calls that leave the process -/

/-- The replies met while one event is handled. -/
structure Replies where
  /-- The steady clock, in nanoseconds. -/
  now : ℕ := 0
  /-- Success or failure of each fallible call, in the order of the calls. -/
  outcomes : List Bool := []
  /-- `ListUnpaired`: the session ids, in order. -/
  unpaired : List StdString := []
  /-- `GetStreamManifest`: the prefixes of the items. -/
  manifest : List ℕ := []
  /-- `GetStreamConfig` for the audio prefix, and its `config_id`. -/
  remote_audio : AudioConfig := {}
  remote_config_id : StdString := []
  deriving DecidableEq, Repr

/-! ## Modules -/

/-- What the node uses of `VideoModule`. -/
structure VideoModule where
  /-- `manager_->isRunning()`. -/
  running : Bool := false
  /-- `parameterSetsReadyLocked()`: the parameter sets are cached. -/
  parameter_sets_ready : Bool := false
  sps_pps_emitted : Bool := false
  deriving DecidableEq, Repr

/-- `VideoModule::clearSpsPps`. -/
def VideoModule.clearSpsPps (v : VideoModule) : VideoModule :=
  { v with parameter_sets_ready := false, sps_pps_emitted := false }

/-- What the node uses of `AudioModule`; `isEnabled` is `Config.audio_enabled`. -/
structure AudioModule where
  started : Bool := false
  config_published : Bool := false
  remote_config_ready : Bool := false
  remote_config_id : StdString := []
  deriving DecidableEq, Repr

namespace AudioModule

def markConfigPublished (a : AudioModule) : AudioModule := { a with config_published := true }

def resetConfigPublished (a : AudioModule) : AudioModule := { a with config_published := false }

def resetRemoteConfig (a : AudioModule) : AudioModule :=
  { a with remote_config_ready := false, remote_config_id := [] }

def stop (a : AudioModule) : AudioModule := { a with started := false }

end AudioModule

/-- `GrpcModule` with the session data of its `GrpcManager`. -/
structure GrpcModule where
  registered : Bool := false
  consecutive_heartbeat_transport_failures : ℕ := 0
  register_retry_timer : Bool := false
  heartbeat_timer : Bool := false
  session_id : StdString := []
  stream_running : Bool := false
  /-- Auxiliary: how many registrations succeeded. -/
  registrations : ℕ := 0
  /-- Auxiliary: the registration the event stream was opened for. -/
  stream_registration : ℕ := 0
  deriving DecidableEq, Repr

namespace GrpcModule

/-- `GrpcManager::StartEventStream`: a stream that runs is kept. -/
def startEventStream (g : GrpcModule) : GrpcModule :=
  -- without a session there is nothing to open
  if g.session_id = [] then g
  else if g.stream_running then g
  else { g with stream_running := true, stream_registration := g.registrations }

/-- `GrpcManager::StopEventStream`, which joins the stream thread. -/
def stopEventStream (g : GrpcModule) : GrpcModule := { g with stream_running := false }

end GrpcModule

/-- What the node uses of a `UdpManager` that was started. -/
structure UdpLink where
  session_id : StdString
  /-- `control_.handshakeReady()`. -/
  handshake_ready : Bool := false
  deriving DecidableEq, Repr

/-- `UdpModule`. -/
structure UdpModule where
  shutting_down : Bool := false
  udp_manager : Option UdpLink := none
  ready_fired : Bool := false
  handshake_timer : Bool := false
  deriving DecidableEq, Repr

namespace UdpModule

def isRunning (u : UdpModule) : Bool := u.udp_manager.isSome

/-- `UdpModule::isHandshakeReady` over `UdpManager::isHandshakeReady`. -/
def isHandshakeReady (control_enabled : Bool) (u : UdpModule) : Bool :=
  match u.udp_manager with
  | none => false
  | some link => !control_enabled || link.handshake_ready

theorem isHandshakeReady_idle {u : UdpModule} (h : u.isRunning = false)
    (control_enabled : Bool) : u.isHandshakeReady control_enabled = false := by
  unfold isHandshakeReady
  cases hlink : u.udp_manager with
  | none => rfl
  | some link => simp [isRunning, hlink] at h

def cancelHandshakeTimer (u : UdpModule) : UdpModule := { u with handshake_timer := false }

/-- `UdpModule::stop`. -/
def stop (_ : UdpModule) : UdpModule :=
  { shutting_down := true, udp_manager := none, ready_fired := false, handshake_timer := false }

/-- `UdpModule::resetSession`; `UdpManager::resetSession` rolls the handshake back. -/
def resetSession (control_enabled : Bool) (u : UdpModule) : UdpModule :=
  if u.shutting_down then u
  else
    match u.udp_manager with
    | none => u
    | some link =>
      { u with
        udp_manager := some { link with handshake_ready := false }
        ready_fired := false
        -- without control there is no handshake to wait for, and the timer stays as it is
        handshake_timer := if control_enabled then true else u.handshake_timer }

/-- A reset session is still running. -/
@[simp] theorem isRunning_resetSession (control_enabled : Bool) (u : UdpModule) :
    (u.resetSession control_enabled).isRunning = u.isRunning := by
  unfold resetSession
  split
  · rfl
  · cases hlink : u.udp_manager with
    | none => rfl
    | some link => simp [isRunning, hlink]

end UdpModule

/-! ## The node -/

/-- `MainNode::State`. -/
inductive State
  | connecting
  | registered
  | pairing
  | negotiating
  | running
  deriving DecidableEq, Repr

/-- A peer is taken to be paired in these states. -/
def State.active : State → Bool
  | .negotiating | .running => true
  | .connecting | .registered | .pairing => false

/-- `MainNode` outside direct running mode and before its destruction: `shutting_down_` is
false and the ROS context is valid. A retry timer is `true` while it is armed. -/
structure MainNode where
  config : Config
  state : State := .connecting
  paired_peer_session_id : StdString := []
  peer_streams_subscribed : Bool := false
  peer_subscribed_prefixes : List ℕ := []
  publisher_manifest_published : Bool := false
  video_started : Bool := false
  video_config_sent : Bool := false
  /-- Zero stands for the default `time_point`. -/
  video_start_time : ℕ := 0
  last_video_keyframe_request_time : ℕ := 0
  session_teardown_in_progress : Bool := false
  telemetry_active : Bool := false
  joint_telemetry_active : Bool := false
  negotiation_retry_timer : Bool := false
  pairing_retry_timer : Bool := false
  registered_setup_retry_timer : Bool := false
  peer_subscription_retry_timer : Bool := false
  session_work_timer : Bool := false
  session_work_queue : List SessionWork := []
  video : VideoModule := {}
  audio : AudioModule := {}
  grpc : GrpcModule := {}
  udp : UdpModule := {}
  replies : Replies := {}
  /-- Auxiliary: the registration whose stream delivered the accepted `PairEvent`. -/
  pair_registration : ℕ := 0
  /-- Auxiliary: how many `PairEvent`s were accepted. -/
  pairings : ℕ := 0
  /-- Auxiliary: a `VideoConfig` was published since the last of them. -/
  video_published : Bool := false
  /-- Auxiliary: an `AudioConfig` was published since the last of them. -/
  audio_published : Bool := false
  deriving DecidableEq, Repr

namespace MainNode

variable (n : MainNode)

/-- The reply of the next fallible call. -/
def reply : Bool := n.replies.outcomes.headD false

/-- The node after the next fallible call returned. -/
def replied : MainNode :=
  { n with replies := { n.replies with outcomes := n.replies.outcomes.tail } }

def setVideo (video : VideoModule) : MainNode := { n with video }
def setAudio (audio : AudioModule) : MainNode := { n with audio }
def setGrpc (grpc : GrpcModule) : MainNode := { n with grpc }
def setUdp (udp : UdpModule) : MainNode := { n with udp }

@[simp] theorem config_setUdp (udp : UdpModule) : (n.setUdp udp).config = n.config := rfl
@[simp] theorem reply_setUdp (udp : UdpModule) : (n.setUdp udp).reply = n.reply := rfl
@[simp] theorem udp_setUdp (udp : UdpModule) : (n.setUdp udp).udp = udp := rfl
@[simp] theorem config_replied : n.replied.config = n.config := rfl

@[simp] theorem setUdp_setUdp (udp udp' : UdpModule) :
    (n.setUdp udp).setUdp udp' = n.setUdp udp' := rfl

@[simp] theorem replied_setUdp (udp : UdpModule) :
    (n.setUdp udp).replied = n.replied.setUdp udp := rfl

/-- `MainNode::setState`. -/
def setState (next : State) : MainNode := { n with state := next }

/-- `MainNode::wantsRemoteAudio`. -/
def wantsRemoteAudio : Bool := n.config.audio_enabled && n.config.downlink_enabled

/-- `MainNode::resetPeerSubscriptionState`. -/
def resetPeerSubscriptionState : MainNode :=
  { n with peer_streams_subscribed := false, peer_subscribed_prefixes := [] }

end MainNode

end TeleopBridge.Node
