import TeleopBridge.Node.Footprints
import TeleopBridge.Node.Moves

/-!
# What One Event Can Do

`Move n e m` lists what the event `e` can make of the node `n`, up to data that no timer and
no module of the session depends on. An invariant of the node is checked against this list.

## Key Results

- `handle_moves`: every event makes one of the moves.
- `moves_invariant`: what every move keeps, every run keeps.
-/

namespace TeleopBridge.Node

open TeleopBridge.Support

namespace MainNode

/-- What one entry of the session work queue can do. -/
inductive WorkMove (n : MainNode) : SessionWork → MainNode → Prop
  | skip (work : SessionWork) (replies : Replies) : WorkMove n work { n with replies }
  | telemetry (telemetry_active joint_telemetry_active : Bool) (h : n.state.active = false) :
    WorkMove n .udpPeerLost { n with telemetry_active, joint_telemetry_active }
  | udpHello (registration : ℕ) :
    WorkMove n (.signalingEvent (.system .requestUdpHello) registration)
      (n.setUdp (n.udp.resetSession n.config.control_enabled))
  | accept (peer : PeerInfo) (registration : ℕ) :
    WorkMove n (.signalingEvent (.pair ⟨.accept, some peer⟩) registration)
      (n.beginNegotiation peer.session_id registration)
  | acceptRequest (peer : PeerInfo) (registration : ℕ) (h : n.acceptsRequest peer = true) :
    WorkMove n (.signalingEvent (.pair ⟨.request, some peer⟩) registration)
      (n.rpc.2.beginNegotiation peer.session_id registration)
  | reject (peer : PeerInfo) (registration : ℕ) :
    WorkMove n (.signalingEvent (.pair ⟨.reject, some peer⟩) registration)
      (n.handlePairReject peer)
  | unpair (peer : PeerInfo) (registration : ℕ) (telemetry_active joint_telemetry_active : Bool)
      (replies : Replies) :
    WorkMove n (.signalingEvent (.pair ⟨.unpair, some peer⟩) registration)
      { n.tornDown .pairing with telemetry_active, joint_telemetry_active, replies }
  | peerLost (telemetry_active joint_telemetry_active : Bool) (replies : Replies) :
    WorkMove n .udpPeerLost
      { n.tornDown .pairing with telemetry_active, joint_telemetry_active, replies }
  | streamEnd (telemetry_active joint_telemetry_active : Bool) (replies : Replies)
      (h : n.grpc.registered = false) :
    WorkMove n .streamEnd
      { n.tornDown .registered with telemetry_active, joint_telemetry_active, replies }
  | streamEndPairs (telemetry_active joint_telemetry_active : Bool) (replies : Replies)
      (h : n.grpc.registered = true) :
    WorkMove n .streamEnd
      { n.tornDown .pairing with telemetry_active, joint_telemetry_active, replies }

variable {n : MainNode}

/-- A teardown forgets every peer anyway. -/
theorem tornDown_forgetPeer (peer : StdString) (target : State) :
    (n.forgetPeer peer).tornDown target = n.tornDown target := by
  unfold forgetPeer
  split <;> cases target <;> rfl

/-- A pair request is accepted, or rejected by a second RPC, or ignored. -/
theorem handlePairRequest_moves (peer : PeerInfo) (registration : ℕ) :
    n.WorkMove (.signalingEvent (.pair ⟨.request, some peer⟩) registration)
      (n.handlePairRequest peer registration) := by
  obtain ⟨accepted, haccepted⟩ := n.rpc_footprint
  obtain ⟨rejected, hrejected⟩ := n.rpc.2.rpc_footprint
  rw [haccepted] at hrejected
  unfold handlePairRequest
  simp only
  split
  · -- wanted: the answer of the RPC decides
    rename_i hwanted
    split
    · rename_i hok
      exact .acceptRequest peer registration (by rw [acceptsRequest, hwanted, hok, Bool.and_self])
    · rw [haccepted, hrejected]
      exact .skip _ rejected
  · rw [haccepted]
    exact .skip _ accepted

/-- Every signaling event is one of the moves of the session work. -/
theorem handleSignalingEvent_moves (hidle : n.session_teardown_in_progress = false)
    (msg : EventMessage) (registration : ℕ) :
    n.WorkMove (.signalingEvent msg registration) (n.handleSignalingEvent msg registration) := by
  -- a message without a peer does nothing
  rcases msg with ⟨op, _ | peer⟩ | action | _
  · cases op <;> exact .skip _ n.replies
  · cases op with
    | request => exact handlePairRequest_moves peer registration
    | accept => exact .accept peer registration
    | reject => exact .reject peer registration
    | unpair =>
      -- the teardown begins with the peer forgotten already
      have hforget : (n.forgetPeer peer.session_id).session_teardown_in_progress = false := by
        unfold forgetPeer
        split <;> exact hidle
      obtain ⟨telemetry, joint, replies, hteardown⟩ :=
        teardownActiveSession_footprint _ hforget (show State.active .pairing = false from rfl)
      rw [tornDown_forgetPeer] at hteardown
      have hmove := WorkMove.unpair (n := n) peer registration telemetry joint replies
      rw [← hteardown] at hmove
      exact hmove
    | unrecognized => exact .skip _ n.replies
  · cases action with
    | requestUdpHello => exact .udpHello registration
    | _ => exact .skip _ n.replies
  · exact .skip _ n.replies

/-- So is every entry of the queue. -/
theorem runSessionWork_moves (hidle : n.session_teardown_in_progress = false)
    (work : SessionWork) : n.WorkMove work (n.runSessionWork work) := by
  cases work with
  | signalingEvent msg registration => exact handleSignalingEvent_moves hidle msg registration
  | streamEnd =>
    obtain ⟨telemetry, joint, replies, hteardown⟩ :=
      teardownActiveSession_footprint n hidle (show State.active .registered = false from rfl)
    unfold runSessionWork handleStreamEnd
    simp only
    rw [hteardown]
    -- a node that is still registered looks for a peer again
    by_cases hregistered : n.grpc.registered = true
    · obtain ⟨replies', henter⟩ := enterPairingState_footprint
        { n.tornDown .registered with
          telemetry_active := telemetry, joint_telemetry_active := joint, replies }
      have hreg : (n.tornDown .registered).grpc.registered = true := hregistered
      rw [if_pos hreg, henter]
      exact .streamEndPairs telemetry joint replies' hregistered
    · have hreg : ¬ (n.tornDown .registered).grpc.registered = true := hregistered
      rw [if_neg hreg]
      exact .streamEnd telemetry joint replies ((Bool.not_eq_true _).mp hregistered)
  | udpPeerLost =>
    unfold runSessionWork handleUdpPeerLost
    simp only
    split
    · -- no session: only the telemetry is looked at again
      rename_i hunpaired
      obtain ⟨telemetry, joint, hlifecycle⟩ := n.updateRobotTelemetryLifecycle_footprint
      rw [hlifecycle]
      exact .telemetry telemetry joint (by simpa using hunpaired)
    · obtain ⟨telemetry, joint, replies, hteardown⟩ :=
        teardownActiveSession_footprint n hidle (show State.active .pairing = false from rfl)
      rw [hteardown]
      exact .peerLost telemetry joint replies

/-- The node that a `Register` with this answer leaves to the registered setup. -/
def registeredAs (n : MainNode) (session_id : StdString) : MainNode :=
  let grpc := { n.grpc with
    session_id
    registered := true
    registrations := n.grpc.registrations + 1
    consecutive_heartbeat_transport_failures := 0
    register_retry_timer := false
    heartbeat_timer := true }
  (n.setGrpc grpc).enterRegistered

/-- The registration is given up, up to the telemetry. -/
def unregistered (n : MainNode) : MainNode :=
  (n.dropRegistration.beginHeartbeatFail.tornDown .connecting).startRegisterRetryTimer

/-- The event may leave the registration alone. -/
def MayIdle (n : MainNode) : Event → Prop
  | .registerRetryTimer (some _) => n.grpc.registered = true
  | .heartbeatTimer _ => n.grpc.registered = false
  | _ => True

/-- What one event can do. -/
inductive Move (n : MainNode) : Event → MainNode → Prop
  | minor (e : Event) (h : n.MayIdle e) (telemetry_active joint_telemetry_active : Bool)
      (last_video_keyframe_request_time : ℕ) (replies : Replies) :
    Move n e
      { n with
        telemetry_active
        joint_telemetry_active
        last_video_keyframe_request_time
        replies }
  | receive (peer_streams_subscribed : Bool) (peer_subscribed_prefixes : List ℕ)
      (remote_config_ready : Bool) (remote_config_id : StdString)
      (peer_subscription_retry_timer : Bool) (replies : Replies) :
    Move n .peerSubscriptionRetryTimer
      { n with
        peer_streams_subscribed
        peer_subscribed_prefixes
        audio := { n.audio with remote_config_ready, remote_config_id }
        peer_subscription_retry_timer
        replies }
  | register (session_id : StdString) (h : n.grpc.registered = false) {m : MainNode}
      (hm : SetupEnds (n.registeredAs session_id) m) :
    Move n (.registerRetryTimer (some session_id)) m
  | heartbeatOk (h : n.grpc.registered = true) :
    Move n (.heartbeatTimer .ok)
      (n.setGrpc { n.grpc with consecutive_heartbeat_transport_failures := 0 })
  | heartbeatFails (failures : ℕ) (h : n.grpc.registered = true)
      (hcount : failures = n.grpc.consecutive_heartbeat_transport_failures + 1)
      (hfew : failures < kMaxTransientHeartbeatFailuresBeforeReregister) :
    Move n (.heartbeatTimer .transportError)
      (n.setGrpc { n.grpc with consecutive_heartbeat_transport_failures := failures })
  | lose (result : HeartbeatResult) (h : n.grpc.registered = true)
      (hcause : n.grpc.session_id = [] ∨ result = .sessionInvalid ∨
        result = .transportError ∧ kMaxTransientHeartbeatFailuresBeforeReregister ≤
          n.grpc.consecutive_heartbeat_transport_failures + 1)
      (telemetry_active joint_telemetry_active : Bool) (replies : Replies) :
    Move n (.heartbeatTimer result)
      { n.unregistered with telemetry_active, joint_telemetry_active, replies }
  | setup {m : MainNode} (hm : SetupEnds n m) : Move n .registeredSetupRetryTimer m
  | handshakeCancel
      (h : n.udp.shutting_down = true ∨ n.udp.isRunning = false ∨
        n.udp.isHandshakeReady n.config.control_enabled = true ∧ n.udp.ready_fired = true) :
    Move n .handshakeTimer (n.setUdp n.udp.cancelHandshakeTimer)
  | handshakeReady (h : n.udp.isHandshakeReady n.config.control_enabled = true)
      (hfired : n.udp.ready_fired = false) (telemetry_active joint_telemetry_active : Bool)
      (replies : Replies) :
    Move n .handshakeTimer
      { n with
        state := .pairing
        telemetry_active
        joint_telemetry_active
        pairing_retry_timer := n.config.pair_mode = .active
        grpc := n.grpc.startEventStream
        udp := { n.udp with handshake_timer := false, ready_fired := true }
        replies }
  | stopPairing (h : n.state ≠ .pairing ∨ n.config.pair_mode ≠ .active) :
    Move n .pairingRetryTimer n.stopPairingRetryTimer
  | negotiationRetry : Move n .negotiationRetryTimer n.negotiationRetryTimerCallback
  | parameterSets (h : n.video.running = true) : Move n .parameterSetsCaptured n.onParameterSets
  | drained (h : n.session_work_queue = []) :
    Move n .sessionWorkTimer { n with session_work_timer := false }
  | work (work : SessionWork) (rest : List SessionWork)
      (h : n.session_work_queue = work :: rest) {m : MainNode}
      (hm : WorkMove { n with session_work_queue := rest } work m) :
    Move n .sessionWorkTimer m
  | message (msg : EventMessage) (h : n.grpc.stream_running = true) :
    Move n (.streamMessage msg)
      (n.postSessionWork (.signalingEvent msg n.grpc.stream_registration))
  | streamFailed (h : n.grpc.stream_running = true) :
    Move n .streamFailed ((n.setGrpc n.grpc.stopEventStream).postSessionWork .streamEnd)
  | ack (link : UdpLink) (h : n.udp.udp_manager = some link) :
    Move n .handshakeAck (n.onAckReceived link)
  | rollback (link : UdpLink) (h : n.udp.udp_manager = some link)
      (hcontrol : n.config.control_enabled = true) (hready : link.handshake_ready = true)
      (htimeout : 0 < n.config.peer_lost_timeout_us) :
    Move n .udpPeerLost (n.onUdpPeerLost link)

/-- A callback that does nothing. -/
theorem Move.still {n : MainNode} {e : Event} (h : n.MayIdle e) : n.Move e n :=
  .minor e h _ _ _ n.replies

theorem Move.replies {n : MainNode} {e : Event} (h : n.MayIdle e) (replies : Replies) :
    n.Move e { n with replies } :=
  .minor e h _ _ _ replies

theorem Move.telemetry {n : MainNode} {e : Event} (h : n.MayIdle e)
    (telemetry_active joint_telemetry_active : Bool) :
    n.Move e { n with telemetry_active, joint_telemetry_active } :=
  .minor e h _ _ _ n.replies

/-- A lost registration ends the session and leaves nothing of the registration. -/
theorem loseRegistration_footprint (hidle : n.session_teardown_in_progress = false) :
    ∃ telemetry_active joint_telemetry_active replies,
      n.loseRegistration =
        { n.unregistered with telemetry_active, joint_telemetry_active, replies } := by
  obtain ⟨telemetry, joint, replies, hteardown⟩ :=
    teardownActiveSession_footprint n.dropRegistration.beginHeartbeatFail hidle
      (show State.active .connecting = false from rfl)
  refine ⟨telemetry, joint, replies, ?_⟩
  rw [loseRegistration, onGrpcHeartbeatFail, hteardown]
  rfl

/-- A heartbeat resets the count of failures, raises it, or gives the registration up. -/
theorem onHeartbeat_moves (hidle : n.session_teardown_in_progress = false)
    (result : HeartbeatResult) : n.Move (.heartbeatTimer result) (n.onHeartbeat result) := by
  unfold onHeartbeat
  by_cases hregistered : n.grpc.registered = true
  · rw [if_neg (by simp [hregistered])]
    -- without a session id the result is not looked at
    by_cases hid : n.grpc.session_id = []
    · obtain ⟨telemetry, joint, replies, hlose⟩ := loseRegistration_footprint hidle
      rw [if_pos hid]
      simp only
      rw [hlose]
      exact .lose result hregistered (.inl hid) telemetry joint replies
    · rw [if_neg hid]
      cases result with
      | ok => exact .heartbeatOk hregistered
      | transportError =>
        simp only
        split
        · rename_i hfew
          exact .heartbeatFails _ hregistered rfl hfew
        -- the count is stored before the registration is dropped, which clears it
        · rename_i hmany
          obtain ⟨telemetry, joint, replies, hlose⟩ := loseRegistration_footprint
            (n := n.setGrpc { n.grpc with
              consecutive_heartbeat_transport_failures :=
                n.grpc.consecutive_heartbeat_transport_failures + 1 }) hidle
          rw [hlose]
          exact .lose .transportError hregistered (.inr (.inr ⟨rfl, not_lt.mp hmany⟩))
            telemetry joint replies
      | sessionInvalid =>
        obtain ⟨telemetry, joint, replies, hlose⟩ := loseRegistration_footprint hidle
        simp only
        rw [hlose]
        exact .lose .sessionInvalid hregistered (.inr (.inl rfl)) telemetry joint replies
  · rw [if_pos (by simpa using hregistered)]
    exact .still ((Bool.not_eq_true _).mp hregistered)

/-- An answer to the registration is taken once. -/
theorem tryRegister_moves (response : Option StdString) :
    n.Move (.registerRetryTimer response) (n.tryRegister response) := by
  unfold tryRegister
  split
  · rename_i hregistered
    cases response with
    | none => exact .still (by trivial)
    | some session_id => exact .still hregistered
  · rename_i hregistered
    cases response with
    | none => exact .still (by trivial)
    | some session_id =>
      -- what is left to do is the registered setup
      exact .register session_id ((Bool.not_eq_true _).mp hregistered)
        (n.registeredAs session_id).completeRegisteredSetup_ends

/-- The retry of the setup runs it again. -/
theorem registeredSetupRetryTimerCallback_moves :
    n.Move .registeredSetupRetryTimer n.registeredSetupRetryTimerCallback := by
  unfold registeredSetupRetryTimerCallback
  split
  · rename_i hunset
    exact .setup (.unregistered (by simpa using hunset))
  · exact .setup n.completeRegisteredSetup_ends

/-- A tick of the handshake timer reports the handshake or cancels itself. -/
theorem handshakeTimerCallback_moves :
    n.Move .handshakeTimer n.handshakeTimerCallback := by
  unfold handshakeTimerCallback
  simp only
  split
  · rename_i hdown
    exact .handshakeCancel (.inl hdown)
  split
  · rename_i hidle
    exact .handshakeCancel (.inr (.inl (by simpa using hidle)))
  split
  · rename_i hready
    -- `on_ready_` may have run already, when the timer was armed twice
    by_cases hfired : n.udp.ready_fired = true
    · rw [fireReady_fired (n.setUdp n.udp.cancelHandshakeTimer) hfired]
      exact .handshakeCancel (.inr (.inr ⟨hready, hfired⟩))
    · have hunfired : n.udp.ready_fired = false := (Bool.not_eq_true _).mp hfired
      obtain ⟨telemetry, joint, replies, hfire⟩ :=
        fireReady_footprint (n.setUdp n.udp.cancelHandshakeTimer) hunfired
      rw [hfire]
      exact .handshakeReady hready hunfired telemetry joint replies
  · -- the handshake is not there yet
    exact .still (by trivial)

/-- The retry of the pairing asks again while the node is in `Pairing`. -/
theorem pairingRetryTimerCallback_moves :
    n.Move .pairingRetryTimer n.pairingRetryTimerCallback := by
  unfold pairingRetryTimerCallback
  split
  · rename_i hstop
    exact .stopPairing (by simpa using hstop)
  · obtain ⟨replies, hpair⟩ := n.tryActivePairing_footprint
    rw [hpair]
    exact .replies (by trivial) replies

theorem drainSessionWork_nil (h : n.session_work_queue = []) :
    n.drainSessionWork = { n with session_work_timer := false } := by
  simp only [drainSessionWork, h]

/-- A tick of the session work runs the oldest entry. -/
theorem drainSessionWork_cons {work : SessionWork} {rest : List SessionWork}
    (h : n.session_work_queue = work :: rest) :
    n.drainSessionWork = runSessionWork { n with session_work_queue := rest } work := by
  simp only [drainSessionWork, h]

/-- A tick of the session work is a move. -/
theorem drainSessionWork_moves (hidle : n.session_teardown_in_progress = false) :
    n.Move .sessionWorkTimer n.drainSessionWork := by
  cases hqueue : n.session_work_queue with
  | nil =>
    rw [drainSessionWork_nil hqueue]
    exact .drained hqueue
  | cons work rest =>
    rw [drainSessionWork_cons hqueue]
    apply Move.work work rest hqueue
    apply runSessionWork_moves
    exact hidle

/-- Every event makes one of the moves. -/
theorem handle_moves {e : Event} {m : MainNode} (hidle : n.session_teardown_in_progress = false)
    (h : n.handle e = some m) : n.Move e m := by
  cases e with
  | registerRetryTimer response =>
    obtain ⟨-, hm⟩ := Option.ite_none_right_eq_some.mp h
    cases hm
    exact tryRegister_moves response
  | heartbeatTimer result =>
    obtain ⟨-, hm⟩ := Option.ite_none_right_eq_some.mp h
    cases hm
    exact onHeartbeat_moves hidle result
  | registeredSetupRetryTimer =>
    obtain ⟨-, hm⟩ := Option.ite_none_right_eq_some.mp h
    cases hm
    exact registeredSetupRetryTimerCallback_moves
  | handshakeTimer =>
    obtain ⟨-, hm⟩ := Option.ite_none_right_eq_some.mp h
    cases hm
    exact handshakeTimerCallback_moves
  | pairingRetryTimer =>
    obtain ⟨-, hm⟩ := Option.ite_none_right_eq_some.mp h
    cases hm
    exact pairingRetryTimerCallback_moves
  | negotiationRetryTimer =>
    obtain ⟨-, hm⟩ := Option.ite_none_right_eq_some.mp h
    cases hm
    exact .negotiationRetry
  | peerSubscriptionRetryTimer =>
    obtain ⟨-, hm⟩ := Option.ite_none_right_eq_some.mp h
    cases hm
    obtain ⟨_, _, ready, id, _, replies, hretry⟩ :=
      n.peerSubscriptionRetryTimerCallback_footprint
    rw [hretry]
    exact .receive _ _ ready id _ replies
  | videoStatsTimer udp_loss =>
    cases h
    -- only a loss asks for a keyframe
    cases udp_loss with
    | false => exact .still (by trivial)
    | true =>
      obtain ⟨_, hrequest⟩ := n.requestVideoKeyframeRecovery_footprint
      simp only [if_true]
      rw [hrequest]
      exact .minor _ (by trivial) _ _ _ n.replies
  | telemetryTimer =>
    obtain ⟨-, hm⟩ := Option.ite_none_right_eq_some.mp h
    cases hm
    obtain ⟨telemetry, joint, htimer⟩ := n.telemetryTimerCallback_footprint
    rw [htimer]
    exact .telemetry (by trivial) telemetry joint
  | jointTelemetryTimer =>
    obtain ⟨-, hm⟩ := Option.ite_none_right_eq_some.mp h
    cases hm
    obtain ⟨telemetry, joint, htimer⟩ := n.telemetryTimerCallback_footprint
    rw [htimer]
    exact .telemetry (by trivial) telemetry joint
  | sessionWorkTimer =>
    obtain ⟨-, hm⟩ := Option.ite_none_right_eq_some.mp h
    cases hm
    exact drainSessionWork_moves hidle
  | streamMessage msg =>
    obtain ⟨hrunning, hm⟩ := Option.ite_none_right_eq_some.mp h
    cases hm
    exact .message msg hrunning
  | streamFailed =>
    obtain ⟨hrunning, hm⟩ := Option.ite_none_right_eq_some.mp h
    cases hm
    exact .streamFailed hrunning
  | handshakeAck =>
    obtain ⟨link, hlink, rfl⟩ := Option.map_eq_some_iff.mp h
    exact .ack link hlink
  | udpPeerLost =>
    simp only [handle] at h
    split at h
    · cases h
    · rename_i link hlink
      -- the control plane reports a lost peer only after a handshake
      obtain ⟨hguard, hm⟩ := Option.ite_none_right_eq_some.mp h
      obtain ⟨hup, htimeout⟩ := Bool.and_eq_true_iff.mp hguard
      obtain ⟨hcontrol, hready⟩ := Bool.and_eq_true_iff.mp hup
      cases hm
      exact .rollback link hlink hcontrol hready (of_decide_eq_true htimeout)
  | parameterSetsCaptured =>
    obtain ⟨hrunning, hm⟩ := Option.ite_none_right_eq_some.mp h
    cases hm
    exact .parameterSets hrunning

/-! ## The registration under the other moves -/

/-- The registered setup may start the event stream. -/
theorem SetupEnds.grpc (hm : n.SetupEnds m) :
    ∃ stream_running stream_registration,
      m.grpc = { n.grpc with stream_running, stream_registration } := by
  cases hm with
  | ready => exact startEventStream_footprint n.grpc
  | _ => exact ⟨n.grpc.stream_running, n.grpc.stream_registration, rfl⟩

/-- The session work may start the event stream. -/
theorem WorkMove.grpc {work : SessionWork} (hm : n.WorkMove work m) :
    ∃ stream_running stream_registration,
      m.grpc = { n.grpc with stream_running, stream_registration } := by
  cases hm with
  -- a pairing and its negotiation leave the registration alone
  | accept peer registration =>
    refine ⟨n.grpc.stream_running, n.grpc.stream_registration, ?_⟩
    exact congrArg Surroundings.grpc (surroundings_startVideoAndNegotiate
      (n.storePairing peer.session_id registration))
  | acceptRequest peer registration =>
    obtain ⟨replies, hrpc⟩ := n.rpc_footprint
    rw [hrpc]
    refine ⟨n.grpc.stream_running, n.grpc.stream_registration, ?_⟩
    exact congrArg Surroundings.grpc (surroundings_startVideoAndNegotiate
      (storePairing { n with replies } peer.session_id registration))
  | reject peer registration =>
    obtain ⟨subscribed, prefixes, hreject⟩ := n.handlePairReject_footprint peer
    rw [hreject]
    exact ⟨n.grpc.stream_running, n.grpc.stream_registration, rfl⟩
  | unpair | peerLost | streamEndPairs => exact startEventStream_footprint n.grpc
  | _ => exact ⟨n.grpc.stream_running, n.grpc.stream_registration, rfl⟩

/-! ## The configuration under the moves -/

/-- The configuration is read only. -/
theorem SetupEnds.config (hm : n.SetupEnds m) : m.config = n.config := by
  cases hm <;> rfl

theorem config_beginNegotiation (peer : StdString) (registration : ℕ) :
    (n.beginNegotiation peer registration).config = n.config :=
  congrArg Surroundings.config
    (surroundings_startVideoAndNegotiate (n.storePairing peer registration))

/-- No session work writes the configuration. -/
theorem WorkMove.config {work : SessionWork} (hm : n.WorkMove work m) : m.config = n.config := by
  cases hm with
  | accept peer registration => exact config_beginNegotiation peer.session_id registration
  | acceptRequest peer registration =>
    obtain ⟨replies, hrpc⟩ := n.rpc_footprint
    rw [hrpc]
    exact config_beginNegotiation peer.session_id registration
  | reject peer registration =>
    obtain ⟨subscribed, prefixes, hreject⟩ := n.handlePairReject_footprint peer
    rw [hreject]
  | _ => rfl

/-- Nor does any other event. -/
theorem Move.config {e : Event} (hm : n.Move e m) : m.config = n.config := by
  cases hm with
  | register session_id hunset hends => exact hends.config
  | setup hends => exact hends.config
  | negotiationRetry =>
    exact congrArg Surroundings.config n.surroundings_negotiationRetryTimerCallback
  | parameterSets =>
    exact congrArg Surroundings.config (surroundings_emitCachedParameterSetsIfReady _)
  | work work rest hqueue hm => exact hm.config
  | _ => rfl

/-! ## Runs -/

/-- A step of the node is a move, with the answers of that step. -/
theorem step_moves {a : Event × Replies} {m : MainNode}
    (hidle : n.session_teardown_in_progress = false) (h : step n a = some m) :
    Move { n with replies := a.2 } a.1 m :=
  handle_moves hidle h

/-- What every move keeps, every run keeps. -/
theorem moves_invariant {P : MainNode → Prop}
    (hreplies : ∀ n replies, P n → P { n with replies })
    (hmove : ∀ n e m, n.session_teardown_in_progress = false → P n → n.Move e m → P m)
    {m : MainNode} {events : List (Event × Replies)}
    (hidle : n.session_teardown_in_progress = false) (h : P n)
    (hrun : runSteps step n events = some m) :
    m.session_teardown_in_progress = false ∧ P m := by
  -- between two events no teardown is in progress, so that a move is defined
  have hkeep (s : MainNode) (a : Event × Replies) (s' : MainNode)
      (hs : s.session_teardown_in_progress = false ∧ P s) (hstep : step s a = some s') :
      s'.session_teardown_in_progress = false ∧ P s' := by
    refine ⟨idle_step hs.1 hstep, ?_⟩
    exact hmove { s with replies := a.2 } a.1 s' hs.1 (hreplies s a.2 hs.2)
      (step_moves hs.1 hstep)
  exact runSteps_invariant hkeep ⟨hidle, h⟩ hrun

/-- What the moves keep holds after the constructor, up to the timer it starts last. -/
theorem moves_construct {P : MainNode → Prop} {config : Config} {replies : Replies}
    (hinit : P { config, replies })
    (hmove : ∀ n e m, n.session_teardown_in_progress = false → P n → n.Move e m → P m)
    (hstart : ∀ n : MainNode, n.grpc.registered = false → P n → P n.startRegisterRetryTimer)
    (response : Option StdString) : P (construct config response replies) := by
  unfold construct grpcStart
  simp only
  -- without an identity the constructor does not register
  split
  · exact hinit
  · have hregister := hmove { config, replies } _ _ rfl hinit (tryRegister_moves response)
    split
    · exact hregister
    · rename_i hunset
      exact hstart _ ((Bool.not_eq_true _).mp hunset) hregister

end MainNode

end TeleopBridge.Node
