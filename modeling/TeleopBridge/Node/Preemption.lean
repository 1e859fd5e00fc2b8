import TeleopBridge.Node.EncoderThread
import Mathlib.Logic.Relation

/-!
# Callbacks that Are Not Preempted

`exec` cuts a callback of the executor into steps. When no other thread steps in between,
the steps compose to the handler of the event.

## Key Results

- `dispatch_alone`: a callback that runs alone is its event, handled at once.
-/

namespace TeleopBridge.Node

namespace MainNode

/-- A thread runs on from `c` to `c'` while no other thread takes a step. -/
abbrev Alone : MainNode × Pc → MainNode × Pc → Prop :=
  Relation.ReflTransGen fun c c' => c.1.exec c.2 = c'

/-- A step of the executor before a run of steps. -/
theorem Alone.step {n : MainNode} {pc : Pc} {c c' : MainNode × Pc} (h : n.exec pc = c)
    (hrest : Alone c c') : Alone (n, pc) c' := .head h hrest

variable (n : MainNode)

/-- Run alone, the statements of the video publication are the model's function. -/
theorem alone_publishVideo (caller : Caller) :
    Alone (n, .publishVideo caller)
      (if n.publishVideoConfig.1 then (n.publishVideoConfig.2, .publishAudioIfNeeded caller)
      else (n.publishVideoConfig.2.ensureNegotiationRetryTimer, caller.resume)) := by
  unfold publishVideoConfig
  -- the three tests come in the source's order, each with its own way out
  by_cases hsent : n.video_config_sent = true
  · rw [if_pos hsent]
    exact Alone.step (by rw [exec, if_pos hsent]; rfl) .refl
  · rw [if_neg hsent]
    by_cases hready : (!n.video.parameter_sets_ready) = true
    · rw [if_pos hready]
      exact Alone.step (by rw [exec, if_neg hsent, if_pos hready]; rfl) .refl
    · rw [if_neg hready]
      refine Alone.step (by rw [exec, if_neg hsent, if_neg hready]) ?_
      by_cases hok : n.rpc.1 = true
      · refine Alone.step (by rw [exec, if_pos hok]) ?_
        simp only [hok, if_true]
        exact Alone.step rfl .refl
      · simp only [hok]
        exact Alone.step (by rw [exec, if_neg hok]; rfl) .refl

/-- The same of the audio publication. -/
theorem alone_publishAudio (caller : Caller) :
    Alone (n, .publishAudioIfNeeded caller)
      (if n.publishAudioIfNeeded.1 then (n.publishAudioIfNeeded.2, .receiveOnlyAudio caller)
      else (n.publishAudioIfNeeded.2.ensureNegotiationRetryTimer, caller.resume)) := by
  unfold publishAudioIfNeeded
  by_cases hneeded : (n.publishesAudio && !n.audio.config_published) = true
  · rw [if_pos hneeded]
    obtain ⟨hpublishes, hpublished⟩ := Bool.and_eq_true_iff.mp hneeded
    have henabled : n.config.audio_enabled = true := (Bool.and_eq_true_iff.mp hpublishes).1
    simp only [Bool.not_eq_true'] at hpublished
    -- the caller tests the condition, then the publication tests it once more
    refine Alone.step (by rw [exec, if_pos hneeded]) ?_
    refine Alone.step (by rw [exec, if_neg (by simp [hpublished])]) ?_
    simp only [publishAudioConfig, henabled, hpublished, Bool.not_true, Bool.false_eq_true,
      if_false]
    by_cases hok : n.rpc.1 = true
    · refine Alone.step (by rw [exec, if_pos hok]) ?_
      simp only [hok, if_true]
      exact Alone.step rfl .refl
    · simp only [hok]
      exact Alone.step (by rw [exec, if_neg hok]; rfl) .refl
  · rw [if_neg hneeded]
    exact Alone.step (by rw [exec, if_neg hneeded]; rfl) .refl

/-- The same of the step to the running state. -/
theorem alone_enterRunning (caller : Caller) :
    Alone (n, .receiveOnlyAudio caller) (n.enterRunning, caller.resume) := by
  refine Alone.step rfl ?_
  refine Alone.step rfl ?_
  refine Alone.step rfl ?_
  exact Alone.step rfl .refl

/-- The same of one attempt to advance the negotiation. -/
theorem alone_tryAdvance (caller : Caller) :
    Alone (n, .tryAdvance caller) (n.tryAdvanceNegotiation, caller.resume) := by
  unfold tryAdvanceNegotiation
  by_cases hstate : n.state ≠ .negotiating
  · rw [if_pos hstate]
    exact Alone.step (by rw [exec, if_pos hstate]) .refl
  · rw [if_neg hstate]
    refine Alone.step (by rw [exec, if_neg hstate]) ?_
    -- video first; audio only after it, on the node that the video left
    have hvideo := n.alone_publishVideo caller
    simp only
    by_cases hsent : n.publishVideoConfig.1 = true
    · rw [if_pos hsent] at hvideo
      rw [if_neg (by simp [hsent])]
      refine hvideo.trans ?_
      have haudio := n.publishVideoConfig.2.alone_publishAudio caller
      by_cases hpublished : n.publishVideoConfig.2.publishAudioIfNeeded.1 = true
      · rw [if_pos hpublished] at haudio
        rw [if_neg (by simp [hpublished])]
        exact haudio.trans (alone_enterRunning _ caller)
      · rw [if_neg hpublished] at haudio
        rw [if_pos (by simp [hpublished])]
        exact haudio
    · rw [if_neg hsent] at hvideo
      rw [if_pos (by simp [hsent])]
      exact hvideo

/-- The same of the emission of the cached parameter sets. -/
theorem alone_emitParameterSets (caller : Caller) :
    Alone (n, .emitParameterSets caller) (n.emitCachedParameterSetsIfReady, caller.resume) := by
  unfold emitCachedParameterSetsIfReady
  by_cases hready : (!n.video.parameter_sets_ready) = true
  · rw [if_pos hready]
    exact Alone.step (by rw [exec, if_pos hready]) .refl
  · rw [if_neg hready]
    by_cases hemitted : n.video.sps_pps_emitted = true
    · rw [if_pos hemitted]
      exact Alone.step (by rw [exec, if_neg hready, if_pos hemitted]) .refl
    · rw [if_neg hemitted, onSpsPpsCaptured]
      refine Alone.step (by rw [exec, if_neg hready, if_neg hemitted]) ?_
      -- the callback goes on only while the node negotiates
      split
      · rename_i hneg
        exact Alone.step (by rw [exec, if_pos hneg]) (alone_tryAdvance _ caller)
      · rename_i hneg
        exact Alone.step (by rw [exec, if_neg hneg]) .refl

theorem alone_advanceIfReady : Alone (n, .advanceIfReady) (n.advanceIfReady, .idle) := by
  unfold advanceIfReady
  split
  · rename_i hready
    exact Alone.step (by rw [exec, if_pos hready]) (n.alone_tryAdvance .callback)
  · rename_i hready
    exact Alone.step (by rw [exec, if_neg hready]) .refl

/-- The same of the start of the video module. -/
theorem alone_videoStart :
    Alone (n, .videoStart)
      (n.videoStart.2, if n.videoStart.1 then .videoStarted else .idle) := by
  unfold videoStart
  by_cases hrunning : n.video.running = true
  · rw [if_pos hrunning]
    exact Alone.step (by rw [exec, if_pos hrunning]) (n.alone_emitParameterSets .videoStart)
  · rw [if_neg hrunning]
    by_cases hreply : (!n.reply) = true
    · rw [if_pos hreply]
      exact Alone.step (by rw [exec, if_neg hrunning, if_pos hreply]; rfl) .refl
    · rw [if_neg hreply]
      refine Alone.step (by rw [exec, if_neg hrunning, if_neg hreply]) ?_
      exact alone_emitParameterSets _ .videoStart

/-- The same of a start of video with the negotiation behind it. -/
theorem alone_startVideo : Alone (n, .startVideo) (n.startVideoAndNegotiate, .idle) := by
  unfold startVideoAndNegotiate
  by_cases hstarted : (n.video_started && n.video.running) = true
  · rw [if_pos hstarted]
    exact Alone.step (by rw [exec, if_pos hstarted]) (alone_advanceIfReady _)
  · rw [if_neg hstarted]
    refine Alone.step (by rw [exec, if_neg hstarted]) ?_
    have hstart := n.alone_videoStart
    simp only
    by_cases hok : n.videoStart.1 = true
    · rw [if_pos hok] at hstart
      rw [if_neg (by simp [hok])]
      exact hstart.trans (Alone.step rfl (alone_advanceIfReady _))
    · rw [if_neg hok] at hstart
      rw [if_pos (by simp [hok])]
      exact hstart

/-- The same of a stop, up to the reset of what was published. -/
theorem alone_stopVideo (reason : StopReason) :
    Alone (n, .videoStop reason) (n.stopVideo, .resetVideoConfig reason) := by
  refine Alone.step rfl ?_
  refine Alone.step rfl ?_
  exact Alone.step rfl .refl

/-- The same of the retry timer's callback. -/
theorem alone_retry : Alone (n, .retry) (n.negotiationRetryTimerCallback, .idle) := by
  unfold negotiationRetryTimerCallback
  by_cases hstate : n.state ≠ .negotiating
  · rw [if_pos hstate]
    exact Alone.step (by rw [exec, if_pos hstate]) .refl
  rw [if_neg hstate]
  refine Alone.step (by rw [exec, if_neg hstate]) ?_
  -- first a video that does not run, then parameter sets that are there
  by_cases hvideo : (!n.video_started || !n.video.running) = true
  · rw [if_pos hvideo]
    exact Alone.step (by rw [exec, if_pos hvideo]) n.alone_startVideo
  rw [if_neg hvideo]
  refine Alone.step (by rw [exec, if_neg hvideo]) ?_
  by_cases hready : n.video.parameter_sets_ready = true
  · rw [if_pos hready]
    exact Alone.step (by rw [exec, if_pos hready]) (n.alone_tryAdvance .callback)
  rw [if_neg hready]
  simp only
  -- without them the time since the start decides: a restart, a keyframe request, or neither
  by_cases hunset : n.video_start_time = 0
  · rw [if_pos hunset]
    exact Alone.step (by rw [exec, if_neg hready, if_pos hunset]) (n.alone_tryAdvance .callback)
  rw [if_neg hunset]
  by_cases hstalled : kVideoStartupTimeout ≤ n.replies.now - n.video_start_time
  · rw [if_pos hstalled]
    refine Alone.step (by rw [exec, if_neg hready, if_neg hunset, if_pos hstalled]) ?_
    refine (n.alone_stopVideo .stalled).trans ?_
    exact Alone.step rfl (alone_startVideo _)
  rw [if_neg hstalled]
  split
  · rename_i hkeyframe
    refine Alone.step ?_ (alone_tryAdvance n.requestStartupKeyframe .callback)
    rw [exec, if_neg hready, if_neg hunset, if_neg hstalled, if_pos hkeyframe]
  · rename_i hkeyframe
    refine Alone.step ?_ (n.alone_tryAdvance .callback)
    rw [exec, if_neg hready, if_neg hunset, if_neg hstalled, if_neg hkeyframe]

/-- From the taken flag on, a teardown that is not preempted is `teardownActiveSession`. -/
theorem alone_storeTarget (hidle : n.session_teardown_in_progress = false) (target : State)
    (after : AfterTeardown) :
    Alone (n.takeTeardown, .storeTarget target after)
      (n.teardownActiveSession target, after.resume) := by
  rw [teardownActiveSession, hidle]
  refine Alone.step rfl (Alone.step rfl ?_)
  refine (alone_stopVideo _ _).trans (Alone.step rfl ?_)
  -- only the return to pairing arms the pairing timer again
  by_cases hpairing : target = .pairing
  · subst hpairing
    refine Alone.step rfl (Alone.step rfl ?_)
    exact Alone.step rfl .refl
  · refine Alone.step (by rw [exec, if_neg hpairing]) ?_
    simp only [hpairing, if_false, Bool.false_eq_true]
    exact Alone.step rfl .refl

/-- The same of a whole teardown, which a second caller skips. -/
theorem alone_teardown (target : State) (after : AfterTeardown) :
    Alone (n, .teardown target after) (n.teardownActiveSession target, after.resume) := by
  by_cases hbusy : n.session_teardown_in_progress = true
  · rw [teardownActiveSession, if_pos hbusy]
    exact Alone.step (by rw [exec, if_pos hbusy]) .refl
  · refine Alone.step (by rw [exec, if_neg hbusy]) ?_
    exact n.alone_storeTarget ((Bool.not_eq_true _).mp hbusy) target after

/-- The same of the unpair event. -/
theorem alone_unpair (peer : StdString) :
    Alone (n, .unpair peer) ((n.forgetPeer peer).teardownActiveSession .pairing, .idle) := by
  -- forgetting the peer does not touch the teardown flag
  have hflag : (n.forgetPeer peer).session_teardown_in_progress =
      n.session_teardown_in_progress := by
    unfold forgetPeer
    split <;> rfl
  by_cases hbusy : n.session_teardown_in_progress = true
  · rw [teardownActiveSession, hflag, if_pos hbusy]
    exact Alone.step (by rw [exec, if_pos hbusy]) .refl
  · refine Alone.step (by rw [exec, if_neg hbusy]) ?_
    exact alone_storeTarget _ (hflag.trans ((Bool.not_eq_true _).mp hbusy)) .pairing .done

/-- The same of an accepted pairing. -/
theorem alone_beginNegotiation (peer : StdString) (registration : ℕ) :
    Alone (n, .storePairing peer registration)
      (n.beginNegotiation peer registration, .idle) :=
  Alone.step rfl (alone_startVideo _)

/-- The same of a pairing request. -/
theorem alone_handlePairRequest (peer : PeerInfo) (registration : ℕ) :
    Alone (n.dispatchWork (.signalingEvent (.pair ⟨.request, some peer⟩) registration))
      (n.handlePairRequest peer registration, .idle) := by
  unfold dispatchWork handlePairRequest
  by_cases hwanted : (n.config.pair_auto_accept && n.peerMatches peer) = true
  · simp only [hwanted, if_true]
    by_cases hok : n.rpc.1 = true
    · rw [if_pos hok]
      refine Alone.step (by rw [exec, if_pos hok]) ?_
      exact alone_beginNegotiation _ peer.session_id registration
    · rw [if_neg hok]
      exact Alone.step (by rw [exec, if_neg hok]) .refl
  · simp only [hwanted]
    exact .refl

/-- The same of every signaling event. -/
theorem alone_handleSignalingEvent (msg : EventMessage) (registration : ℕ) :
    Alone (n.dispatchWork (.signalingEvent msg registration))
      (n.handleSignalingEvent msg registration, .idle) := by
  rcases msg with ⟨op, _ | peer⟩ | action | _
  · cases op <;> exact .refl
  · cases op with
    | request => exact n.alone_handlePairRequest peer registration
    | accept => exact n.alone_beginNegotiation peer.session_id registration
    | reject => exact .refl
    | unpair => exact n.alone_unpair peer.session_id
    | unrecognized => exact .refl
  · exact .refl
  · exact .refl

/-- The same of every queued session work. -/
theorem alone_dispatchWork (work : SessionWork) :
    Alone (n.dispatchWork work) (n.runSessionWork work, .idle) := by
  cases work with
  | signalingEvent msg registration => exact n.alone_handleSignalingEvent msg registration
  | streamEnd =>
    refine (n.alone_teardown .registered .streamEnd).trans ?_
    exact Alone.step rfl .refl
  | udpPeerLost =>
    rw [dispatchWork, runSessionWork, handleUdpPeerLost]
    by_cases hunpaired : (!n.state.active) = true
    · rw [if_pos hunpaired, if_pos hunpaired]
    · rw [if_neg hunpaired, if_neg hunpaired]
      exact n.alone_teardown .pairing .done

/-- The same of a lost registration. -/
theorem alone_dispatchLoss : Alone n.dispatchLoss (n.loseRegistration, .idle) := by
  refine (alone_teardown _ .connecting .heartbeat).trans ?_
  exact Alone.step rfl .refl

/-- The same of a heartbeat. -/
theorem alone_dispatchHeartbeat (result : HeartbeatResult) :
    Alone (n.dispatchHeartbeat result) (n.onHeartbeat result, .idle) := by
  unfold dispatchHeartbeat onHeartbeat
  by_cases hregistered : (!n.grpc.registered) = true
  · rw [if_pos hregistered, if_pos hregistered]
  · rw [if_neg hregistered, if_neg hregistered]
    cases (if n.grpc.session_id = [] then .sessionInvalid else result : HeartbeatResult) with
    | ok => exact .refl
    | transportError =>
      simp only
      split
      · exact .refl
      · exact alone_dispatchLoss _
    | sessionInvalid => exact n.alone_dispatchLoss

/-- A callback of the executor that is not preempted is the event handled at once. -/
theorem dispatch_alone {e : Event} {c : MainNode × Pc} (h : n.dispatch e = some c) :
    ∃ m, n.handle e = some m ∧ Alone c (m, .idle) := by
  cases e
  case negotiationRetryTimer =>
    -- these three callbacks run in statements, when their timer is armed
    obtain ⟨harmed, hc⟩ := Option.ite_none_right_eq_some.mp h
    cases hc
    exact ⟨_, if_pos harmed, n.alone_retry⟩
  case heartbeatTimer result =>
    obtain ⟨harmed, hc⟩ := Option.ite_none_right_eq_some.mp h
    cases hc
    exact ⟨_, if_pos harmed, n.alone_dispatchHeartbeat result⟩
  case sessionWorkTimer =>
    obtain ⟨harmed, hwork⟩ := Option.ite_none_right_eq_some.mp h
    refine ⟨_, if_pos harmed, ?_⟩
    unfold drainSessionWork
    cases hqueue : n.session_work_queue with
    | nil =>
      simp only [hqueue] at hwork
      cases hwork
      exact .refl
    | cons work rest =>
      simp only [hqueue] at hwork
      cases hwork
      exact alone_dispatchWork _ _
  -- every other callback is one step of the model itself
  all_goals
    unfold dispatch at h
    obtain ⟨m, hm, rfl⟩ := Option.map_eq_some_iff.mp h
    exact ⟨m, hm, .refl⟩

end MainNode
end TeleopBridge.Node
