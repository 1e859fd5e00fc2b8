import TeleopBridge.Node.Events

/-!
# What the Session Functions Leave Alone

A view of the node in two halves. `session` has the data of one pairing; `link` has what a
pairing rests on: the registration, the UDP link and the parameters. Calls, timers,
telemetry and the peer's streams leave the whole view alone; negotiating leaves `link`
alone; entering the pairing state and ending a session are one equation each.

## Key Results

- `link_startVideoAndNegotiate`, `active_startVideoAndNegotiate`: negotiating neither
  touches the link nor leaves the active states.
- `session_teardownActiveSession`: a teardown ends in an empty session.
- `session_completeRegisteredSetup`: the registered setup moves the node exactly when it
  starts the UDP module without a control plane.
-/

namespace TeleopBridge.Node

/-- The data of one pairing. -/
structure SessionView where
  state : State
  paired_peer_session_id : StdString := []
  video_running : Bool := false
  video_started : Bool := false
  video_config_sent : Bool := false
  config_published : Bool := false
  deriving DecidableEq, Repr

/-- What a pairing rests on. -/
structure LinkView where
  config : Config
  grpc : GrpcModule
  udp : UdpModule
  session_teardown_in_progress : Bool
  pair_registration : ℕ
  deriving DecidableEq, Repr

structure View where
  session : SessionView
  link : LinkView
  deriving DecidableEq, Repr

namespace MainNode

variable (n : MainNode)

def view : View where
  session :=
    { state := n.state
      paired_peer_session_id := n.paired_peer_session_id
      video_running := n.video.running
      video_started := n.video_started
      video_config_sent := n.video_config_sent
      config_published := n.audio.config_published }
  link :=
    { config := n.config
      grpc := n.grpc
      udp := n.udp
      session_teardown_in_progress := n.session_teardown_in_progress
      pair_registration := n.pair_registration }

/-! ## Calls and telemetry -/

/-- Answers are consumed outside of the view. -/
@[simp] theorem view_replied : n.replied.view = n.view := rfl

@[simp] theorem view_rpc : n.rpc.2.view = n.view := by
  unfold rpc
  split <;> rfl

theorem link_rpc : n.rpc.2.view.link = n.view.link := congrArg View.link n.view_rpc

theorem state_rpc : n.rpc.2.state = n.state := congrArg (fun v => v.session.state) n.view_rpc

/-- The telemetry timers are outside of the view. -/
@[simp] theorem view_updateRobotTelemetryLifecycle :
    n.updateRobotTelemetryLifecycle.view = n.view := by
  unfold updateRobotTelemetryLifecycle
  split <;> rfl

@[simp] theorem view_telemetryTimerCallback : n.telemetryTimerCallback.view = n.view := by
  unfold telemetryTimerCallback
  split <;> rfl

/-- A keyframe request sets clocks only. -/
@[simp] theorem view_requestVideoKeyframeRecovery :
    n.requestVideoKeyframeRecovery.view = n.view := by
  unfold requestVideoKeyframeRecovery
  -- the request may be refused by either of the two limits
  repeat' split
  all_goals rfl

/-- The publisher's manifest is outside of the view. -/
@[simp] theorem view_ensureManifestPublished : n.ensureManifestPublished.2.view = n.view := by
  unfold ensureManifestPublished publishLocalStreamManifest
  simp only
  repeat' split
  all_goals first | rfl | exact n.view_rpc

/-! ## The peer's streams -/

/-- What is subscribed is outside of the view, whether the commit is accepted or not. -/
@[simp] theorem view_commitSubscriptions (peer : StdString) (prefixes : List ℕ)
    (complete : Bool) : (n.commitSubscriptions peer prefixes complete).2.view = n.view := by
  unfold commitSubscriptions
  split <;> rfl

/-- Subscribing to a peer does not touch the session. -/
@[simp] theorem view_ensurePeerSubscriptions :
    n.ensurePeerSubscriptions.2.view = n.view := by
  unfold ensurePeerSubscriptions
  simp only
  repeat' split
  -- every way out but the commit returns the node as it is
  all_goals first | rfl | simp

@[simp] theorem view_commitRemoteAudio (peer : StdString) :
    (n.commitRemoteAudio peer).2.view = n.view := by
  unfold commitRemoteAudio
  split <;> rfl

/-- Nor does fetching the peer's audio config. -/
@[simp] theorem view_fetchRemoteAudioConfig : n.fetchRemoteAudioConfig.2.view = n.view := by
  unfold fetchRemoteAudioConfig
  simp only
  repeat' split
  all_goals first | rfl | simp

@[simp] theorem view_peerSubscriptionRetryTimerCallback :
    n.peerSubscriptionRetryTimerCallback.view = n.view := by
  unfold peerSubscriptionRetryTimerCallback
  simp only
  repeat' split
  -- the retry is not due; else it subscribes, and fetches what the peer publishes
  · rfl
  · exact (view_fetchRemoteAudioConfig _).trans n.view_ensurePeerSubscriptions
  · exact (view_fetchRemoteAudioConfig _).trans n.view_ensurePeerSubscriptions

/-! ## Pairing -/

/-- A pairing request changes nothing until its answer comes as an event. -/
@[simp] theorem view_tryActivePairing : n.tryActivePairing.2.view = n.view := by
  unfold tryActivePairing
  repeat' split
  all_goals first | rfl | exact n.view_rpc

@[simp] theorem view_pairingRetryTimerCallback : n.pairingRetryTimerCallback.view = n.view := by
  unfold pairingRetryTimerCallback
  split
  · rfl
  · exact n.view_tryActivePairing

/-- Entering the pairing state keeps everything else of the session. -/
theorem view_enterPairingState :
    n.enterPairingState.view =
      { session := { n.view.session with state := .pairing }
        link := { n.view.link with grpc := n.grpc.startEventStream } } := by
  unfold enterPairingState
  simp only
  split
  · exact view_tryActivePairing _
  · rfl

/-- Handling a completed handshake is entering the pairing state. -/
theorem view_onUdpHandshakeReady :
    n.onUdpHandshakeReady.view =
      { session := { n.view.session with state := .pairing }
        link := { n.view.link with grpc := n.grpc.startEventStream } } := by
  have hlink := congrArg View.link n.view_updateRobotTelemetryLifecycle
  have hgrpc : n.updateRobotTelemetryLifecycle.grpc = n.grpc := congrArg LinkView.grpc hlink
  rw [onUdpHandshakeReady, view_enterPairingState, view_updateRobotTelemetryLifecycle, hgrpc]

/-! ## Negotiation -/

/-- Publishing the video config leaves all but the session alone. -/
@[simp] theorem link_publishVideoConfig :
    n.publishVideoConfig.2.view.link = n.view.link := by
  unfold publishVideoConfig
  simp only
  repeat' split
  all_goals first | rfl | exact n.link_rpc

/-- Publishing marks the config as sent and stays in its state. -/
@[simp] theorem state_publishVideoConfig : n.publishVideoConfig.2.state = n.state := by
  unfold publishVideoConfig
  simp only
  repeat' split
  all_goals first | rfl | exact n.state_rpc

/-- Publishing the audio config leaves all but the session alone. -/
@[simp] theorem link_publishAudioIfNeeded :
    n.publishAudioIfNeeded.2.view.link = n.view.link := by
  unfold publishAudioIfNeeded publishAudioConfig
  simp only
  repeat' split
  all_goals first | rfl | exact n.link_rpc

@[simp] theorem state_publishAudioIfNeeded : n.publishAudioIfNeeded.2.state = n.state := by
  unfold publishAudioIfNeeded publishAudioConfig
  simp only
  repeat' split
  all_goals first | rfl | exact n.state_rpc

/-- The audio module is outside of the view. -/
@[simp] theorem view_audioStart : n.audioStart.view = n.view := by
  unfold audioStart
  repeat' split
  all_goals rfl

theorem link_audioStart : n.audioStart.view.link = n.view.link :=
  congrArg View.link n.view_audioStart

theorem state_audioStart : n.audioStart.state = n.state :=
  congrArg (fun v => v.session.state) n.view_audioStart

theorem link_markReceiveOnlyAudio : n.markReceiveOnlyAudio.view.link = n.view.link := by
  unfold markReceiveOnlyAudio
  split <;> rfl

/-- What is received from the peer is outside of the view. -/
@[simp] theorem view_receivePeerStreams : n.receivePeerStreams.view = n.view := by
  unfold receivePeerStreams
  split <;> rfl

/-- Entering `Running` starts the audio and stores the state. -/
@[simp] theorem link_enterRunning : n.enterRunning.view.link = n.view.link := by
  rw [enterRunning, view_receivePeerStreams, link_audioStart]
  exact n.link_markReceiveOnlyAudio

/-- No step behind the store of `Running` takes it back. -/
theorem state_enterRunning : n.enterRunning.state = .running := by
  have hreceive := congrArg (fun v => v.session.state)
    (view_receivePeerStreams n.markReceiveOnlyAudio.storeRunning.audioStart)
  exact hreceive.trans (state_audioStart _)

/-- Whatever part of the negotiation succeeds, only the session changes. -/
@[simp] theorem link_tryAdvanceNegotiation :
    n.tryAdvanceNegotiation.view.link = n.view.link := by
  unfold tryAdvanceNegotiation
  simp only
  repeat' split
  -- not negotiating, no video config, no audio config, and the way to `Running`
  · rfl
  · exact n.link_publishVideoConfig
  · exact (link_publishAudioIfNeeded _).trans n.link_publishVideoConfig
  · rw [link_enterRunning, link_publishAudioIfNeeded, link_publishVideoConfig]

/-- An attempt at the negotiation does not leave the active states. -/
theorem active_tryAdvanceNegotiation :
    n.tryAdvanceNegotiation.state.active = n.state.active := by
  unfold tryAdvanceNegotiation
  simp only
  split
  · rfl
  · rename_i hstate
    have hneg : n.state = .negotiating := not_not.mp hstate
    -- a failed publication stays in `Negotiating`, which is active as `Running` is
    repeat' split
    · exact congrArg State.active n.state_publishVideoConfig
    · exact congrArg State.active ((state_publishAudioIfNeeded _).trans n.state_publishVideoConfig)
    · rw [state_enterRunning, hneg]
      rfl

@[simp] theorem link_onSpsPpsCaptured : n.onSpsPpsCaptured.view.link = n.view.link := by
  unfold onSpsPpsCaptured
  split
  · exact n.link_tryAdvanceNegotiation
  · rfl

/-- A capture counts only during the negotiation. -/
theorem session_onSpsPpsCaptured (h : n.state ≠ .negotiating) :
    n.onSpsPpsCaptured.view.session = n.view.session := by
  rw [onSpsPpsCaptured, if_neg h]

/-- A capture does not leave the active states. -/
theorem active_onSpsPpsCaptured : n.onSpsPpsCaptured.state.active = n.state.active := by
  unfold onSpsPpsCaptured
  split
  · exact n.active_tryAdvanceNegotiation
  · rfl

/-- Handing on the parameter sets leads to the negotiation at most. -/
@[simp] theorem link_emitCachedParameterSetsIfReady :
    n.emitCachedParameterSetsIfReady.view.link = n.view.link := by
  unfold emitCachedParameterSetsIfReady
  repeat' split
  -- no sets yet, and sets that were handed on before
  · rfl
  · rfl
  · exact link_onSpsPpsCaptured _

theorem active_emitCachedParameterSetsIfReady :
    n.emitCachedParameterSetsIfReady.state.active = n.state.active := by
  unfold emitCachedParameterSetsIfReady
  repeat' split
  · rfl
  · rfl
  · exact active_onSpsPpsCaptured _

/-- Parameter sets that arrive outside the negotiation change no session data. -/
theorem session_emitCachedParameterSetsIfReady (h : n.state ≠ .negotiating) :
    n.emitCachedParameterSetsIfReady.view.session = n.view.session := by
  unfold emitCachedParameterSetsIfReady
  repeat' split
  · rfl
  · rfl
  · exact session_onSpsPpsCaptured _ h

/-- A start of the video leaves all but the session alone. -/
@[simp] theorem link_videoStart : n.videoStart.2.view.link = n.view.link := by
  unfold videoStart
  simp only
  repeat' split
  -- running already, a pipeline that does not start, and one that does
  · exact n.link_emitCachedParameterSetsIfReady
  · rfl
  · exact link_emitCachedParameterSetsIfReady _

/-- A start of the video does not leave the active states. -/
theorem active_videoStart : n.videoStart.2.state.active = n.state.active := by
  unfold videoStart
  simp only
  repeat' split
  · exact n.active_emitCachedParameterSetsIfReady
  · rfl
  · exact active_emitCachedParameterSetsIfReady _

theorem link_advanceIfReady : n.advanceIfReady.view.link = n.view.link := by
  unfold advanceIfReady
  split
  · exact n.link_tryAdvanceNegotiation
  · rfl

theorem active_advanceIfReady : n.advanceIfReady.state.active = n.state.active := by
  unfold advanceIfReady
  split
  · exact n.active_tryAdvanceNegotiation
  · rfl

/-- The start of the video and the negotiation behind it change the session only. -/
theorem link_startVideoAndNegotiate :
    n.startVideoAndNegotiate.view.link = n.view.link := by
  unfold startVideoAndNegotiate
  simp only
  repeat' split
  -- the video runs, the start fails, and the start succeeds
  · exact link_advanceIfReady _
  · exact n.link_videoStart
  · exact (link_advanceIfReady _).trans n.link_videoStart

/-- They do not leave the active states. -/
theorem active_startVideoAndNegotiate :
    n.startVideoAndNegotiate.state.active = n.state.active := by
  unfold startVideoAndNegotiate
  simp only
  repeat' split
  · exact active_advanceIfReady _
  · exact n.active_videoStart
  · exact (active_advanceIfReady _).trans n.active_videoStart

/-- The retry timer restarts the video, asks for a keyframe or tries again: only the session
changes. -/
theorem link_negotiationRetryTimerCallback :
    n.negotiationRetryTimerCallback.view.link = n.view.link := by
  unfold negotiationRetryTimerCallback
  simp only
  repeat' split
  -- the branches in the order of the source, from a state that does not negotiate on
  · rfl
  · exact n.link_startVideoAndNegotiate
  · exact n.link_tryAdvanceNegotiation
  · exact n.link_tryAdvanceNegotiation
  · exact link_startVideoAndNegotiate _
  · exact link_tryAdvanceNegotiation _
  · exact n.link_tryAdvanceNegotiation

/-- The retry timer does not leave the active states. -/
theorem active_negotiationRetryTimerCallback :
    n.negotiationRetryTimerCallback.state.active = n.state.active := by
  unfold negotiationRetryTimerCallback
  simp only
  repeat' split
  · rfl
  · exact n.active_startVideoAndNegotiate
  · exact n.active_tryAdvanceNegotiation
  · exact n.active_tryAdvanceNegotiation
  · exact active_startVideoAndNegotiate _
  · exact active_tryAdvanceNegotiation _
  · exact n.active_tryAdvanceNegotiation

/-- Outside the negotiation the retry only stops its timer. -/
theorem view_negotiationRetryTimerCallback_idle (h : n.state ≠ .negotiating) :
    n.negotiationRetryTimerCallback.view = n.view := by
  rw [negotiationRetryTimerCallback, if_pos h]
  rfl

/-! ## Ending a session -/

/-- A teardown ends in an empty session. It keeps the registration and resets or stops the
UDP link. -/
theorem view_teardownActiveSession (h : n.session_teardown_in_progress = false)
    (target : State) :
    (n.teardownActiveSession target).view =
      { session := { state := target }
        link := { n.view.link with
          grpc := if target = .pairing then n.grpc.startEventStream else n.grpc
          udp := (n.teardownLink target).udp } } := by
  -- the lock is taken and given back
  have hidle (v w : View) (hv : v = w) (b : Bool) :
      (⟨v.session, { v.link with session_teardown_in_progress := b }⟩ : View) =
        ⟨w.session, { w.link with session_teardown_in_progress := b }⟩ := by rw [hv]
  have hflag : n.view.link = { n.view.link with session_teardown_in_progress := false } := by
    rw [← h]
    rfl
  rw [hflag, teardownActiveSession, h]
  simp only [Bool.false_eq_true, if_false]
  -- behind the teardown the node enters `Pairing` or only stops its telemetry
  cases target
  case pairing =>
    exact hidle _ _ ((view_updateRobotTelemetryLifecycle _).trans (view_enterPairingState _)) false
  all_goals exact hidle _ _ (view_updateRobotTelemetryLifecycle _) false

/-- Forgetting the peer concerns the paired peer only. -/
theorem view_forgetPeer (peer : StdString) :
    (n.forgetPeer peer).view =
      { session := { n.view.session with
          paired_peer_session_id :=
            if n.paired_peer_session_id = peer then [] else n.paired_peer_session_id }
        link := n.view.link } := by
  unfold forgetPeer
  split <;> rfl

/-! ## Registered setup -/

/-- The readiness is reported once, and leads to `Pairing`. -/
theorem view_fireReady :
    n.fireReady.view =
      if n.udp.ready_fired then n.view
      else
        { session := { n.view.session with state := .pairing }
          link := { n.view.link with
            grpc := n.grpc.startEventStream
            udp := { n.udp with ready_fired := true } } } := by
  unfold fireReady
  split
  · rfl
  · exact view_onUdpHandshakeReady _

theorem fireReady_fired (h : n.udp.ready_fired = true) : n.fireReady = n := by
  rw [fireReady, if_pos h]

/-- The first report of the readiness enters `Pairing`. -/
theorem session_fireReady (h : n.udp.ready_fired = false) :
    n.fireReady.view.session = { n.view.session with state := .pairing } := by
  rw [view_fireReady, h]
  rfl

/-- How many calls the manifest takes, if it gets published. -/
def manifestCalls : Option ℕ :=
  if n.publisher_manifest_published then some 0
  else if n.grpc.session_id = [] then none
  else if n.reply then some 1
  else none

/-- The registered setup starts the UDP module. -/
def setupStartsUdp : Bool :=
  n.grpc.registered && !n.udp.isRunning && n.config.udp_remote_configured &&
    match n.manifestCalls with
    | none => false
    | some calls => (n.replies.outcomes.drop calls).headD false

/-- Of a registered node it takes as many answers as calls were needed, and succeeds exactly if they
did. -/
theorem ensureManifestPublished_eq (hreg : n.grpc.registered = true) :
    n.ensureManifestPublished.1 = n.manifestCalls.isSome ∧
      ∀ calls, n.manifestCalls = some calls →
        n.ensureManifestPublished.2.replies.outcomes = n.replies.outcomes.drop calls := by
  unfold ensureManifestPublished publishLocalStreamManifest manifestCalls rpc
  rw [hreg]
  cases n.publisher_manifest_published <;> by_cases hid : n.grpc.session_id = [] <;>
    cases n.reply <;> simp [hid, replied]

/-- With the manifest published, the setup reaches the UDP module. -/
theorem session_ensureUdpStarted :
    n.ensureUdpStarted.2.view.session =
      if (!n.udp.isRunning && n.config.udp_remote_configured && n.reply) &&
          !n.config.control_enabled then
        { n.view.session with state := .pairing }
      else n.view.session := by
  unfold ensureUdpStarted
  -- each test of the source in turn; only the last branch starts anything
  by_cases hrun : n.udp.isRunning = true
  · simp [hrun]
  · have hidle : ({ n.udp with shutting_down := false } : UdpModule).isRunning = false :=
      Bool.not_eq_true _ ▸ hrun
    by_cases hremote : n.config.udp_remote_configured = true
    · by_cases hreply : n.reply = true
      · by_cases hcontrol : n.config.control_enabled = true
        · simp [udpStart, hrun, hidle, hremote, hreply, hcontrol]
          rfl
        · simp [udpStart, hrun, hidle, hremote, hreply, hcontrol]
          -- without a control plane the handshake is ready at once
          exact congrArg View.session (view_fireReady _)
      · simp [udpStart, hrun, hidle, hremote, hreply]
        rfl
    · simp [udpStart, hrun, hidle, hremote]
      rfl

/-- Past the manifest, `completeRegisteredSetup` is `ensureUdpStarted` up to timers. -/
theorem view_completeRegisteredSetup (hreg : n.grpc.registered = true) :
    n.completeRegisteredSetup.view =
      if n.manifestCalls.isSome then n.ensureManifestPublished.2.ensureUdpStarted.2.view
      else n.view := by
  obtain ⟨hpublished, -⟩ := n.ensureManifestPublished_eq hreg
  unfold completeRegisteredSetup
  simp only [hreg, hpublished, Bool.not_true, Bool.false_eq_true, if_false]
  -- a manifest that was not published ends the setup
  cases n.manifestCalls with
  | none => exact n.view_ensureManifestPublished
  | some calls =>
    simp only [Option.isSome_some, Bool.not_true, Bool.false_eq_true, if_false, if_true]
    split
    · rfl
    · exact view_updateRobotTelemetryLifecycle _

/-- The registered setup moves the node exactly when it starts the UDP module without a
control plane. -/
theorem session_completeRegisteredSetup :
    n.completeRegisteredSetup.view.session =
      if n.setupStartsUdp && !n.config.control_enabled then
        { n.view.session with state := .pairing }
      else n.view.session := by
  by_cases hreg : n.grpc.registered = true
  · rw [view_completeRegisteredSetup n hreg]
    obtain ⟨-, hcalls⟩ := n.ensureManifestPublished_eq hreg
    have hview := n.view_ensureManifestPublished
    cases hmanifest : n.manifestCalls with
    | none => simp [setupStartsUdp, hmanifest]
    | some calls =>
      -- the manifest call changes neither the UDP module nor the parameters
      have hudp : n.ensureManifestPublished.2.udp = n.udp := congrArg (fun v => v.link.udp) hview
      have hconfig : n.ensureManifestPublished.2.config = n.config :=
        congrArg (fun v => v.link.config) hview
      have hreply : n.ensureManifestPublished.2.reply =
          (n.replies.outcomes.drop calls).headD false := by
        rw [reply, hcalls calls hmanifest]
      simp [session_ensureUdpStarted, setupStartsUdp, hmanifest, hreg, hudp, hconfig, hreply, hview]
  · simp [completeRegisteredSetup, setupStartsUdp, hreg]
    rfl

/-- With the UDP module running the registered setup changes nothing of the view. -/
theorem view_completeRegisteredSetup_running (hrun : n.udp.isRunning = true) :
    n.completeRegisteredSetup.view = n.view := by
  by_cases hreg : n.grpc.registered = true
  · rw [view_completeRegisteredSetup n hreg]
    split
    · -- the UDP module that runs is not started again
      have hview := n.view_ensureManifestPublished
      have hudp : n.ensureManifestPublished.2.udp = n.udp := congrArg (fun v => v.link.udp) hview
      rw [ensureUdpStarted, hudp, if_pos hrun, hview]
    · rfl
  · rw [completeRegisteredSetup, if_pos (by simpa using hreg)]
    rfl

theorem view_enterRegistered :
    n.enterRegistered.view =
      { session := { n.view.session with state := .registered }, link := n.view.link } := rfl

/-! ## Between two events no teardown is in progress -/

/-- The teardown flag is part of the view. -/
theorem idle_of_view {m : MainNode} (h : m.view = n.view)
    (hidle : n.session_teardown_in_progress = false) : m.session_teardown_in_progress = false :=
  (congrArg (fun v => v.link.session_teardown_in_progress) h).trans hidle

theorem idle_enterPairingState (hidle : n.session_teardown_in_progress = false) :
    n.enterPairingState.session_teardown_in_progress = false :=
  (congrArg (fun v => v.link.session_teardown_in_progress) n.view_enterPairingState).trans hidle

/-- Reporting the readiness takes no lock. -/
theorem idle_fireReady (hidle : n.session_teardown_in_progress = false) :
    n.fireReady.session_teardown_in_progress = false := by
  unfold fireReady onUdpHandshakeReady
  split
  · exact hidle
  · exact idle_enterPairingState _ (idle_of_view _ (view_updateRobotTelemetryLifecycle _) hidle)

/-- Starting the UDP module takes no lock. -/
theorem idle_ensureUdpStarted (hidle : n.session_teardown_in_progress = false) :
    n.ensureUdpStarted.2.session_teardown_in_progress = false := by
  unfold ensureUdpStarted udpStart
  simp only
  repeat' split
  all_goals first | exact hidle | exact idle_fireReady _ hidle

/-- The registered setup takes no lock. -/
theorem idle_completeRegisteredSetup (hidle : n.session_teardown_in_progress = false) :
    n.completeRegisteredSetup.session_teardown_in_progress = false := by
  have hmanifest := idle_of_view n n.view_ensureManifestPublished hidle
  unfold completeRegisteredSetup
  simp only
  repeat' split
  -- not registered, no manifest, no UDP module, and all of the setup
  · exact hidle
  · exact hmanifest
  · exact idle_ensureUdpStarted _ hmanifest
  · exact idle_of_view _ (view_updateRobotTelemetryLifecycle _)
      (idle_ensureUdpStarted _ hmanifest)

theorem idle_teardownActiveSession (hidle : n.session_teardown_in_progress = false)
    (target : State) :
    (n.teardownActiveSession target).session_teardown_in_progress = false :=
  (congrArg (fun v => v.link.session_teardown_in_progress)
    (n.view_teardownActiveSession hidle target)).trans hidle

end MainNode

end TeleopBridge.Node
