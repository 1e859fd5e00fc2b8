import TeleopBridge.Node.Events

/-!
# Footprints

What a function of the node may write, stated once for all the data it leaves alone. A
function off the negotiation path equals an update of a few fields. On the negotiation path
`surroundings` collects the data that no function there writes.
-/

namespace TeleopBridge.Node

/-- The data the negotiation reads at most. -/
structure Surroundings where
  config : Config
  paired_peer_session_id : StdString
  peer_subscribed_prefixes : List ℕ
  publisher_manifest_published : Bool
  session_teardown_in_progress : Bool
  telemetry_active : Bool
  joint_telemetry_active : Bool
  pairing_retry_timer : Bool
  registered_setup_retry_timer : Bool
  session_work_timer : Bool
  session_work_queue : List SessionWork
  grpc : GrpcModule
  udp : UdpModule
  pair_registration : ℕ
  pairings : ℕ
  deriving DecidableEq, Repr

namespace MainNode

variable (n : MainNode)

/-! ## Off the negotiation path -/

/-- The event stream is started once. -/
theorem startEventStream_footprint (g : GrpcModule) :
    ∃ stream_running stream_registration,
      g.startEventStream = { g with stream_running, stream_registration } := by
  unfold GrpcModule.startEventStream
  split
  · exact ⟨g.stream_running, g.stream_registration, rfl⟩
  · split
    · exact ⟨g.stream_running, g.stream_registration, rfl⟩
    · exact ⟨_, _, rfl⟩

/-- An RPC takes an answer. -/
theorem rpc_footprint : ∃ replies, n.rpc.2 = { n with replies } := by
  unfold rpc
  split
  · exact ⟨n.replies, rfl⟩
  · exact ⟨_, rfl⟩

/-- The lifecycle switches the two telemetry timers. -/
theorem updateRobotTelemetryLifecycle_footprint :
    ∃ telemetry_active joint_telemetry_active,
      n.updateRobotTelemetryLifecycle = { n with telemetry_active, joint_telemetry_active } := by
  unfold updateRobotTelemetryLifecycle
  split <;> exact ⟨_, _, rfl⟩

/-- The telemetry timer may switch itself off. -/
theorem telemetryTimerCallback_footprint :
    ∃ telemetry_active joint_telemetry_active,
      n.telemetryTimerCallback = { n with telemetry_active, joint_telemetry_active } := by
  unfold telemetryTimerCallback
  split <;> exact ⟨_, _, rfl⟩

/-- A request for a keyframe notes its time. -/
theorem requestVideoKeyframeRecovery_footprint :
    ∃ last_video_keyframe_request_time,
      n.requestVideoKeyframeRecovery = { n with last_video_keyframe_request_time } := by
  unfold requestVideoKeyframeRecovery
  split
  · exact ⟨_, rfl⟩
  · split <;> exact ⟨_, rfl⟩

/-- A pairing request takes an answer. -/
theorem tryActivePairing_footprint :
    ∃ replies, n.tryActivePairing.2 = { n with replies } := by
  unfold tryActivePairing
  split
  · exact ⟨n.replies, rfl⟩
  split
  · exact ⟨n.replies, rfl⟩
  · cases n.requestedPeer with
    | none => exact ⟨n.replies, rfl⟩
    | some peer => exact n.rpc_footprint

/-- In active mode the pairing state has its retry timer. -/
theorem enterPairingState_footprint :
    ∃ replies, n.enterPairingState =
      { n with
        state := .pairing
        grpc := n.grpc.startEventStream
        pairing_retry_timer := n.config.pair_mode = .active
        replies } := by
  unfold enterPairingState
  simp only
  -- the mode decides between arming and disarming the timer
  cases hmode : n.config.pair_mode with
  | active =>
    obtain ⟨replies, hpair⟩ :=
      tryActivePairing_footprint ((n.setState .pairing).setGrpc n.grpc.startEventStream)
    refine ⟨replies, ?_⟩
    simp only [setState, setGrpc, hmode] at hpair ⊢
    rw [hpair]
    rfl
  | passive =>
    refine ⟨n.replies, ?_⟩
    simp only [setState, setGrpc, hmode]
    rfl

/-- A commit stores what was subscribed, if the peer is still the one that was asked for. -/
theorem commitSubscriptions_footprint (peer : StdString) (prefixes : List ℕ)
    (complete : Bool) :
    ∃ peer_streams_subscribed peer_subscribed_prefixes,
      (n.commitSubscriptions peer prefixes complete).2 =
        { n with peer_streams_subscribed, peer_subscribed_prefixes } := by
  unfold commitSubscriptions
  split <;> exact ⟨_, _, rfl⟩

theorem ensurePeerSubscriptions_footprint :
    ∃ peer_streams_subscribed peer_subscribed_prefixes replies,
      n.ensurePeerSubscriptions.2 =
        { n with peer_streams_subscribed, peer_subscribed_prefixes, replies } := by
  obtain ⟨manifest, hmanifest⟩ := n.rpc_footprint
  obtain ⟨subscribe, hsubscribe⟩ := n.rpc.2.rpc_footprint
  rw [hmanifest] at hsubscribe
  -- two RPCs at most, and only their replies are used up before the commit
  unfold ensurePeerSubscriptions
  split
  · exact ⟨_, _, _, rfl⟩
  split
  · exact ⟨_, _, _, rfl⟩
  split
  · exact ⟨_, _, _, rfl⟩
  simp only [hmanifest]
  split
  · exact ⟨_, _, _, rfl⟩
  split
  · rw [hsubscribe]
    split
    · exact ⟨_, _, _, rfl⟩
    · obtain ⟨subscribed, prefixes, hcommit⟩ := commitSubscriptions_footprint
        { n with replies := subscribe } n.paired_peer_session_id _ _
      rw [hcommit]
      exact ⟨_, _, _, rfl⟩
  · -- no new prefix: the commit follows without a second RPC
    simp only [Bool.not_true, Bool.false_eq_true, if_false]
    obtain ⟨subscribed, prefixes, hcommit⟩ := commitSubscriptions_footprint
      { n with replies := manifest } n.paired_peer_session_id _ _
    rw [hcommit]
    exact ⟨_, _, _, rfl⟩

/-- Fetching stores the peer's config, if it is valid and the peer is still the one that was asked
for. -/
theorem fetchRemoteAudioConfig_footprint :
    ∃ remote_config_ready remote_config_id replies,
      n.fetchRemoteAudioConfig.2 =
        { n with audio := { n.audio with remote_config_ready, remote_config_id }, replies } := by
  obtain ⟨fetched, hfetched⟩ := n.rpc_footprint
  unfold fetchRemoteAudioConfig
  -- a failed RPC and a config that is refused
  -- no peer, nothing wanted, and fetched before
  split
  · exact ⟨n.audio.remote_config_ready, n.audio.remote_config_id, n.replies, rfl⟩
  split
  · exact ⟨n.audio.remote_config_ready, n.audio.remote_config_id, n.replies, rfl⟩
  split
  · exact ⟨n.audio.remote_config_ready, n.audio.remote_config_id, n.replies, rfl⟩
  simp only [hfetched]
  split
  · exact ⟨n.audio.remote_config_ready, n.audio.remote_config_id, fetched, rfl⟩
  split
  · exact ⟨n.audio.remote_config_ready, n.audio.remote_config_id, fetched, rfl⟩
  · unfold commitRemoteAudio
    split
    · exact ⟨n.audio.remote_config_ready, n.audio.remote_config_id, fetched, rfl⟩
    · exact ⟨_, _, _, rfl⟩

/-- The retry of the subscriptions writes what is received of the peer, and its own timer. -/
theorem peerSubscriptionRetryTimerCallback_footprint :
    ∃ peer_streams_subscribed peer_subscribed_prefixes remote_config_ready remote_config_id
        peer_subscription_retry_timer replies,
      n.peerSubscriptionRetryTimerCallback =
        { n with
          peer_streams_subscribed
          peer_subscribed_prefixes
          audio := { n.audio with remote_config_ready, remote_config_id }
          peer_subscription_retry_timer
          replies } := by
  obtain ⟨subscribed, prefixes, first, hsubscribe⟩ := n.ensurePeerSubscriptions_footprint
  obtain ⟨ready, id, second, hfetch⟩ :=
    n.ensurePeerSubscriptions.2.fetchRemoteAudioConfig_footprint
  rw [hsubscribe] at hfetch
  unfold peerSubscriptionRetryTimerCallback
  split
  · exact ⟨_, _, n.audio.remote_config_ready, n.audio.remote_config_id, _, _, rfl⟩
  · simp only [hsubscribe, hfetch]
    split <;> exact ⟨_, _, ready, id, _, _, rfl⟩

/-! ## Registered setup -/

/-- The first report of the readiness enters `Pairing`. -/
theorem fireReady_footprint (h : n.udp.ready_fired = false) :
    ∃ telemetry_active joint_telemetry_active replies,
      n.fireReady =
        { n with
          state := .pairing
          telemetry_active
          joint_telemetry_active
          pairing_retry_timer := n.config.pair_mode = .active
          grpc := n.grpc.startEventStream
          udp := { n.udp with ready_fired := true }
          replies } := by
  obtain ⟨telemetry, joint, hlifecycle⟩ := updateRobotTelemetryLifecycle_footprint
    (n.setUdp { n.udp with ready_fired := true })
  obtain ⟨replies, hpairing⟩ := enterPairingState_footprint
    (updateRobotTelemetryLifecycle (n.setUdp { n.udp with ready_fired := true }))
  rw [hlifecycle] at hpairing
  refine ⟨telemetry, joint, replies, ?_⟩
  rw [fireReady, h]
  simp only [onUdpHandshakeReady, Bool.false_eq_true, if_false]
  rw [hlifecycle, hpairing]
  rfl

/-- The flag of the manifest is what the call returns. -/
theorem ensureManifestPublished_footprint :
    ∃ replies, n.ensureManifestPublished.2 =
      { n with publisher_manifest_published := n.ensureManifestPublished.1, replies } := by
  obtain ⟨replies, hrpc⟩ := n.rpc_footprint
  unfold ensureManifestPublished publishLocalStreamManifest
  -- the flag ends up as what the call returned, in each of the four branches
  by_cases hpublished : n.publisher_manifest_published = true
  · refine ⟨n.replies, ?_⟩
    simp only [hpublished, if_true]
    rw [← hpublished]
  · have hunset : n.publisher_manifest_published = false := (Bool.not_eq_true _).mp hpublished
    by_cases hregistered : n.grpc.registered = true
    · by_cases hok : n.rpc.1 = true
      · refine ⟨replies, ?_⟩
        simp only [hunset, hregistered, hok, hrpc, Bool.not_true, Bool.false_eq_true, if_false,
          if_true]
      · refine ⟨replies, ?_⟩
        simp only [hunset, hregistered, hok, hrpc, Bool.not_true, Bool.false_eq_true, if_false]
    · refine ⟨n.replies, ?_⟩
      simp only [hunset, hregistered, Bool.not_false, Bool.false_eq_true, if_false, if_true]
      rw [← hunset]

/-- A UDP module that was started with a control plane. -/
def startedUdp : UdpModule :=
  { shutting_down := false
    udp_manager := some { session_id := n.grpc.session_id }
    ready_fired := false
    handshake_timer := true }

/-- What `udpStart` leaves of a module that is not running. -/
theorem udpStart_footprint (hidle : n.udp.isRunning = false) (session_id : StdString) :
    ((n.udpStart session_id).1 = false ∧ ∃ replies,
      (n.udpStart session_id).2 =
        { n with udp := { n.udp with shutting_down := false }, replies }) ∨
    ((n.udpStart session_id).1 = true ∧ n.config.control_enabled = true ∧ ∃ replies,
      (n.udpStart session_id).2 =
        { n with
          udp :=
            { shutting_down := false
              udp_manager := some { session_id }
              ready_fired := false
              handshake_timer := true }
          replies }) ∨
    ((n.udpStart session_id).1 = true ∧ n.config.control_enabled = false ∧
      ∃ telemetry_active joint_telemetry_active replies,
        (n.udpStart session_id).2 =
          { n with
            state := .pairing
            telemetry_active
            joint_telemetry_active
            pairing_retry_timer := n.config.pair_mode = .active
            grpc := n.grpc.startEventStream
            udp :=
              { n.udp with
                shutting_down := false
                udp_manager := some { session_id }
                ready_fired := true }
            replies }) := by
  have hstopped : ({ n.udp with shutting_down := false } : UdpModule).isRunning = false := hidle
  unfold udpStart
  -- a module that is not configured fails like one whose sockets do not open
  by_cases hremote : n.config.udp_remote_configured = true
  · by_cases hreply : n.reply = true
    · by_cases hcontrol : n.config.control_enabled = true
      · refine .inr (.inl ?_)
        simp only [udp_setUdp, config_setUdp, reply_setUdp, config_replied, replied_setUdp,
          setUdp_setUdp, hstopped, hremote, hreply, hcontrol, Bool.not_true, Bool.false_eq_true,
          if_false, true_and]
        exact ⟨n.replied.replies, rfl⟩
      -- without a control plane `fireReady` runs inside the call
      · refine .inr (.inr ?_)
        simp only [udp_setUdp, config_setUdp, reply_setUdp, config_replied, replied_setUdp,
          setUdp_setUdp, hstopped, hremote, hreply, hcontrol, Bool.not_true, Bool.not_false,
          Bool.false_eq_true, if_false, if_true, true_and]
        obtain ⟨telemetry, joint, replies, hready⟩ := fireReady_footprint
          (n.replied.setUdp
            { n.udp with
              shutting_down := false
              udp_manager := some { session_id }
              ready_fired := false }) rfl
        exact ⟨telemetry, joint, replies, hready⟩
    · refine .inl ?_
      -- the sockets do not open
      simp [hstopped, hremote, hreply]
      exact ⟨_, rfl⟩
  · refine .inl ?_
    simp [hstopped, hremote]
    exact ⟨n.replies, rfl⟩

/-- How the registered setup ends. -/
inductive SetupEnds (n : MainNode) : MainNode → Prop
  | unregistered (h : n.grpc.registered = false) :
    SetupEnds n n.stopRegisteredSetupRetryTimer
  | retry (h : n.grpc.registered = true) (published : Bool) (udp : UdpModule) (replies : Replies)
      (hudp : udp = n.udp ∨
        n.udp.isRunning = false ∧ udp = { n.udp with shutting_down := false }) :
    SetupEnds n
      { n with
        publisher_manifest_published := published
        registered_setup_retry_timer := true
        udp
        replies }
  | running (h : n.grpc.registered = true) (hrun : n.udp.isRunning = true)
      (telemetry_active joint_telemetry_active : Bool) (replies : Replies) :
    SetupEnds n
      { n with
        publisher_manifest_published := true
        registered_setup_retry_timer := false
        telemetry_active
        joint_telemetry_active
        replies }
  | started (h : n.grpc.registered = true) (hidle : n.udp.isRunning = false)
      (hcontrol : n.config.control_enabled = true)
      (telemetry_active joint_telemetry_active : Bool) (replies : Replies) :
    SetupEnds n
      { n with
        publisher_manifest_published := true
        registered_setup_retry_timer := false
        telemetry_active
        joint_telemetry_active
        udp := n.startedUdp
        replies }
  | ready (h : n.grpc.registered = true) (hidle : n.udp.isRunning = false)
      (hcontrol : n.config.control_enabled = false)
      (telemetry_active joint_telemetry_active : Bool) (replies : Replies) :
    SetupEnds n
      { n with
        state := .pairing
        publisher_manifest_published := true
        registered_setup_retry_timer := false
        telemetry_active
        joint_telemetry_active
        pairing_retry_timer := n.config.pair_mode = .active
        grpc := n.grpc.startEventStream
        udp :=
          { n.udp with
            shutting_down := false
            udp_manager := some { session_id := n.grpc.session_id }
            ready_fired := true }
        replies }

/-- The UDP half of the registered setup, behind a published manifest. -/
theorem udpHalf_ends (hregistered : n.grpc.registered = true) (manifest : Replies) :
    n.SetupEnds
      (let udp := ensureUdpStarted
        { n with publisher_manifest_published := true, replies := manifest }
      if !udp.1 then udp.2.ensureRegisteredSetupRetryTimer
      else udp.2.stopRegisteredSetupRetryTimer.updateRobotTelemetryLifecycle) := by
  unfold ensureUdpStarted
  by_cases hrun : n.udp.isRunning = true
  · -- the module runs already, so that only the retry is disarmed
    simp only [hrun, if_true, Bool.not_true, Bool.false_eq_true, if_false]
    obtain ⟨telemetry, joint, hlifecycle⟩ := updateRobotTelemetryLifecycle_footprint
      (stopRegisteredSetupRetryTimer
        { n with publisher_manifest_published := true, replies := manifest })
    rw [hlifecycle]
    exact .running hregistered hrun telemetry joint manifest
  · have hidle : n.udp.isRunning = false := (Bool.not_eq_true _).mp hrun
    simp only [hidle, Bool.false_eq_true, if_false]
    obtain ⟨telemetry', joint', hlifecycle⟩ := updateRobotTelemetryLifecycle_footprint
      (udpStart { n with publisher_manifest_published := true, replies := manifest }
        n.grpc.session_id).2.stopRegisteredSetupRetryTimer
    rcases udpStart_footprint
        { n with publisher_manifest_published := true, replies := manifest } hidle
        n.grpc.session_id with
      ⟨hfail, replies, hstart⟩ | ⟨hok, hcontrol, replies, hstart⟩ |
        ⟨hok, hcontrol, telemetry, joint, replies, hstart⟩
    · -- the sockets did not open: the timer tries the setup again
      simp only [hfail, Bool.not_false, if_true]
      rw [hstart]
      exact .retry hregistered true _ replies (.inr ⟨hidle, rfl⟩)
    · simp only [hok, Bool.not_true, Bool.false_eq_true, if_false]
      rw [hlifecycle, hstart]
      exact .started hregistered hidle hcontrol telemetry' joint' replies
    · -- `fireReady` entered the pairing state and set the telemetry before the call returned
      simp only [hok, Bool.not_true, Bool.false_eq_true, if_false]
      rw [hlifecycle, hstart]
      exact .ready hregistered hidle hcontrol telemetry' joint' replies

/-- The registered setup has the ends of `SetupEnds`. -/
theorem completeRegisteredSetup_ends : n.SetupEnds n.completeRegisteredSetup := by
  unfold completeRegisteredSetup
  by_cases hregistered : n.grpc.registered = true
  · obtain ⟨manifest, hmanifest⟩ := n.ensureManifestPublished_footprint
    simp only [hregistered, Bool.not_true, Bool.false_eq_true, if_false]
    -- a manifest that is not published arms the retry
    by_cases hpublished : n.ensureManifestPublished.1 = true
    · rw [hpublished] at hmanifest
      simp only [hpublished, Bool.not_true, Bool.false_eq_true, if_false]
      rw [hmanifest]
      exact n.udpHalf_ends hregistered manifest
    · have hunset : n.ensureManifestPublished.1 = false := (Bool.not_eq_true _).mp hpublished
      rw [hunset] at hmanifest
      simp only [hunset, Bool.not_false, if_true]
      rw [hmanifest]
      exact .retry hregistered false n.udp manifest (.inl rfl)
  · have hunset : n.grpc.registered = false := (Bool.not_eq_true _).mp hregistered
    simp only [hunset, Bool.not_false, if_true]
    exact .unregistered hunset

/-! ## Ending a session -/

/-- What a teardown leaves, up to the timers and the module of its target. -/
def tornDown (target : State) : MainNode :=
  { n with
    state := target
    paired_peer_session_id := []
    peer_streams_subscribed := false
    peer_subscribed_prefixes := []
    publisher_manifest_published :=
      if target = .connecting then false else n.publisher_manifest_published
    video_started := false
    video_config_sent := false
    video_start_time := 0
    last_video_keyframe_request_time := 0
    negotiation_retry_timer := false
    pairing_retry_timer :=
      if target = .pairing then decide (n.config.pair_mode = .active) else false
    registered_setup_retry_timer :=
      if target = .connecting then false else n.registered_setup_retry_timer
    peer_subscription_retry_timer := false
    video := {}
    audio := n.audio.stop.resetConfigPublished.resetRemoteConfig
    grpc := if target = .pairing then n.grpc.startEventStream else n.grpc
    udp := (n.teardownLink target).udp }

/-- The end of a teardown gives the flag back. -/
theorem endTeardown_footprint :
    ∃ telemetry_active joint_telemetry_active,
      n.endTeardown =
        { n with
          session_teardown_in_progress := false
          telemetry_active
          joint_telemetry_active } := by
  obtain ⟨telemetry, joint, hlifecycle⟩ := n.updateRobotTelemetryLifecycle_footprint
  refine ⟨telemetry, joint, ?_⟩
  rw [endTeardown, hlifecycle]

/-- `teardownActiveSession` before it enters the state of its target again. -/
def emptied (target : State) : MainNode :=
  let n := beginTeardown { n with session_teardown_in_progress := true } target
  n.clearPeerSession.stopVideo.resetVideoConfigState.teardownLink target

theorem teardownActiveSession_footprint (hidle : n.session_teardown_in_progress = false)
    {target : State} (htarget : target.active = false) :
    ∃ telemetry_active joint_telemetry_active replies,
      n.teardownActiveSession target =
        { n.tornDown target with telemetry_active, joint_telemetry_active, replies } := by
  rw [teardownActiveSession, hidle]
  simp only [Bool.false_eq_true, if_false]
  cases target with
  -- without `enterPairingState` no reply is used up
  | connecting =>
    obtain ⟨telemetry, joint, hend⟩ := (n.emptied .connecting).endTeardown_footprint
    refine ⟨telemetry, joint, n.replies, hend.trans ?_⟩
    rw [← hidle]
    rfl
  | registered =>
    obtain ⟨telemetry, joint, hend⟩ := (n.emptied .registered).endTeardown_footprint
    refine ⟨telemetry, joint, n.replies, hend.trans ?_⟩
    rw [← hidle]
    rfl
  | pairing =>
    -- the pairing request of `enterPairingState` may take a reply
    obtain ⟨replies, henter⟩ := (n.emptied .pairing).enterPairingState_footprint
    obtain ⟨telemetry, joint, hend⟩ :=
      (n.emptied .pairing).enterPairingState.endTeardown_footprint
    refine ⟨telemetry, joint, replies, hend.trans ?_⟩
    rw [henter, ← hidle]
    rfl
  -- no caller tears down to a paired state
  | negotiating => cases htarget
  | running => cases htarget

/-- Only the peer that is meant is forgotten. -/
theorem forgetPeer_footprint (peer : StdString) :
    ∃ peer_streams_subscribed peer_subscribed_prefixes,
      n.forgetPeer peer =
        { n with
          paired_peer_session_id :=
            if n.paired_peer_session_id = peer then [] else n.paired_peer_session_id
          peer_streams_subscribed
          peer_subscribed_prefixes } := by
  unfold forgetPeer
  split
  · exact ⟨_, _, rfl⟩
  · exact ⟨n.peer_streams_subscribed, n.peer_subscribed_prefixes, rfl⟩

/-- A reject stores `Pairing` in any state. -/
theorem handlePairReject_footprint (peer : PeerInfo) :
    ∃ peer_streams_subscribed peer_subscribed_prefixes,
      n.handlePairReject peer =
        { n with
          state := .pairing
          paired_peer_session_id :=
            if n.paired_peer_session_id = peer.session_id then [] else n.paired_peer_session_id
          peer_streams_subscribed
          peer_subscribed_prefixes
          pairing_retry_timer :=
            n.pairing_retry_timer || decide (n.config.pair_mode = .active) } := by
  obtain ⟨subscribed, prefixes, hforget⟩ := n.forgetPeer_footprint peer.session_id
  refine ⟨subscribed, prefixes, ?_⟩
  unfold handlePairReject
  rw [hforget]
  -- in the active mode the node asks again, by its timer
  cases hmode : n.config.pair_mode with
  | active => simp [setState, hmode, ensurePairingRetryTimer]
  | passive => simp [setState, hmode]

/-! ## On the negotiation path -/

def surroundings : Surroundings where
  config := n.config
  paired_peer_session_id := n.paired_peer_session_id
  peer_subscribed_prefixes := n.peer_subscribed_prefixes
  publisher_manifest_published := n.publisher_manifest_published
  session_teardown_in_progress := n.session_teardown_in_progress
  telemetry_active := n.telemetry_active
  joint_telemetry_active := n.joint_telemetry_active
  pairing_retry_timer := n.pairing_retry_timer
  registered_setup_retry_timer := n.registered_setup_retry_timer
  session_work_timer := n.session_work_timer
  session_work_queue := n.session_work_queue
  grpc := n.grpc
  udp := n.udp
  pair_registration := n.pair_registration
  pairings := n.pairings

/-- An RPC is outside of the surroundings. -/
theorem surroundings_rpc : n.rpc.2.surroundings = n.surroundings := by
  unfold rpc
  split <;> rfl

theorem surroundings_videoPublished :
    n.recordVideoPublished.markVideoConfigSent.surroundings = n.surroundings := rfl

theorem surroundings_audioPublished :
    n.recordAudioPublished.markAudioConfigPublished.surroundings = n.surroundings := rfl

/-- Publishing the video config stays inside the session. -/
theorem surroundings_publishVideoConfig :
    n.publishVideoConfig.2.surroundings = n.surroundings := by
  unfold publishVideoConfig
  simp only
  split
  · rfl
  split
  · rfl
  split
  · rw [surroundings_videoPublished, surroundings_rpc]
  · exact n.surroundings_rpc

/-- So does publishing the audio config. -/
theorem surroundings_publishAudioIfNeeded :
    n.publishAudioIfNeeded.2.surroundings = n.surroundings := by
  unfold publishAudioIfNeeded publishAudioConfig
  simp only
  split
  · split
    · rfl
    split
    · rfl
    split
    · rw [surroundings_audioPublished, surroundings_rpc]
    · exact n.surroundings_rpc
  · rfl

/-- Entering `Running` starts the audio and the peer's streams only. -/
theorem surroundings_enterRunning : n.enterRunning.surroundings = n.surroundings := by
  unfold enterRunning receivePeerStreams audioStart markReceiveOnlyAudio
  repeat' split
  all_goals rfl

theorem surroundings_ensureNegotiationRetryTimer :
    n.ensureNegotiationRetryTimer.surroundings = n.surroundings := rfl

/-- The negotiation does not touch the surroundings. -/
theorem surroundings_tryAdvanceNegotiation :
    n.tryAdvanceNegotiation.surroundings = n.surroundings := by
  unfold tryAdvanceNegotiation
  simp only
  split
  -- not negotiating, no video config, no audio config, and the way to `Running`
  · rfl
  split
  · rw [surroundings_ensureNegotiationRetryTimer, surroundings_publishVideoConfig]
  split
  · rw [surroundings_ensureNegotiationRetryTimer, surroundings_publishAudioIfNeeded,
      surroundings_publishVideoConfig]
  · rw [surroundings_enterRunning, surroundings_publishAudioIfNeeded,
      surroundings_publishVideoConfig]

/-- Nor does handing on the parameter sets. -/
theorem surroundings_emitCachedParameterSetsIfReady :
    n.emitCachedParameterSetsIfReady.surroundings = n.surroundings := by
  unfold emitCachedParameterSetsIfReady onSpsPpsCaptured
  split
  · rfl
  split
  · rfl
  split
  · rw [surroundings_tryAdvanceNegotiation]
    rfl
  · rfl

/-- Nor does starting the video. -/
theorem surroundings_videoStart : n.videoStart.2.surroundings = n.surroundings := by
  unfold videoStart
  simp only
  split
  · exact n.surroundings_emitCachedParameterSetsIfReady
  split
  · rfl
  · rw [surroundings_emitCachedParameterSetsIfReady]
    rfl

theorem surroundings_advanceIfReady : n.advanceIfReady.surroundings = n.surroundings := by
  unfold advanceIfReady
  split
  · exact n.surroundings_tryAdvanceNegotiation
  · rfl

/-- Nor do both in a row. -/
theorem surroundings_startVideoAndNegotiate :
    n.startVideoAndNegotiate.surroundings = n.surroundings := by
  unfold startVideoAndNegotiate
  simp only
  split
  · rw [surroundings_advanceIfReady]
    rfl
  split
  · exact n.surroundings_videoStart
  · rw [surroundings_advanceIfReady]
    exact n.surroundings_videoStart

/-- Nor does the retry of either. -/
theorem surroundings_negotiationRetryTimerCallback :
    n.negotiationRetryTimerCallback.surroundings = n.surroundings := by
  unfold negotiationRetryTimerCallback
  simp only
  split
  -- the branches of the source in their order
  · rfl
  split
  · exact n.surroundings_startVideoAndNegotiate
  split
  · exact n.surroundings_tryAdvanceNegotiation
  split
  · exact n.surroundings_tryAdvanceNegotiation
  split
  · rw [surroundings_startVideoAndNegotiate]
    rfl
  split
  · rw [surroundings_tryAdvanceNegotiation]
    rfl
  · exact n.surroundings_tryAdvanceNegotiation

end MainNode

end TeleopBridge.Node
