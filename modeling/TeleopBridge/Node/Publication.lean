import TeleopBridge.Node.Footprints
import TeleopBridge.Node.Preemption

/-!
# Publishing for a Pairing

What the executor and the encoder thread share while they publish the configs of a pairing:
the state, the peer, the video and the flags that note what was published. `Holds` says what
each thread relies on at its place, and what the flags mean at every place.

## Key Results

- `publication_exec`: most steps leave this data alone.
- `executor_exec`: then the executor's next place asks for no more than it has.
-/

namespace TeleopBridge.Node

/-- What the publishing for a pairing reads and writes. -/
structure Publication where
  state : State
  /-- `paired_peer_session_id_` is not empty. -/
  paired : Bool
  teardown : Bool
  publishes_audio : Bool
  video_running : Bool
  video_config_sent : Bool
  config_published : Bool
  pairings : ℕ
  video_published : Bool
  audio_published : Bool
  deriving DecidableEq, Repr

/-- Nothing changes, or an unpaired state is stored, and the peer may be forgotten. -/
def Publication.Unpairs (p q : Publication) : Prop :=
  q = p ∨ ∃ st : State, st.active = false ∧
    (q = { p with state := st } ∨ q = { p with state := st, paired := false })

/-- The places whose step changes what the publishing reads. -/
def Pc.publishes : Pc → Bool
  | .videoRpc _ | .markVideo _ _ | .audioRpc _ | .markAudio _ _ | .receiveOnlyAudio _
  | .storeRunning _ | .videoStart | .teardown _ _ | .storeTarget _ _ | .clearPeer _ _
  | .videoStop _ | .resetVideoConfig _ | .enterPairing _ | .endTeardown _ | .streamEnded
  | .storePairing _ _ | .unpair _ => true
  | _ => false

/-- A teardown that stores its state, or `kPairing` again, after this place. -/
def Pc.overwrites : Pc → Bool
  | .storeTarget _ _ | .enterPairing _ => true
  | .clearPeer target _ | .videoStop (.teardown target _) | .joinEncoder (.teardown target _)
  | .videoStopped (.teardown target _) | .resetVideoConfig (.teardown target _)
  | .teardownLink target _ => target = .pairing
  | _ => false

namespace Publication

variable (p : Publication)

/-- The audio half of what running needs. -/
def AudioSent : Prop := p.publishes_audio = true → p.config_published = true

/-- A config marked as published was published for the paired peer, and the running state
has its peer, its video and its configs. -/
structure Sound : Prop where
  video : p.paired = true → p.video_config_sent = true → p.video_published = true
  audio : p.paired = true → p.publishes_audio = true → p.config_published = true →
    p.audio_published = true
  active : p.teardown = false → p.state.active = true → p.paired = true
  running : p.teardown = false → p.state = .running →
    p.video_running = true ∧ p.video_config_sent = true ∧ p.AudioSent

/-- No teardown, and the video runs. -/
def Up : Prop := p.teardown = false ∧ p.video_running = true

/-- A teardown that still has to store its state, or has stored it for good. -/
def Leaving (target : State) : Prop :=
  p.teardown = true ∧ target.active = false ∧ (target ≠ .pairing → p.state.active = false)

/-- A restart of a stalled video. -/
def Restarting : Prop :=
  p.teardown = false ∧ p.video_running = false ∧ p.state ≠ .running

/-- What the executor relies on at `pc`. -/
def Executor : Pc → Prop
  | .idle | .startVideo | .videoStart | .retry | .retryVideo | .streamEnded
  | .startRegisterRetry | .acceptRpc _ _ | .storePairing _ _ | .unpair _
  | .videoStop .stalled => p.teardown = false
  | .retryReady | .videoStarted | .advanceIfReady | .emitParameterSets _ | .spsPpsCaptured _
  | .tryAdvance _ | .audioStart _ | .receivePeerStreams _ => p.Up
  -- from the test of the state on, a peer is paired until the callback returns
  | .publishVideo _ | .videoRpc _ => p.Up ∧ p.paired = true
  | .markVideo _ pairing =>
    (p.Up ∧ p.paired = true) ∧ pairing = p.pairings ∧ p.video_published = true
  | .publishAudioIfNeeded _ | .publishAudio _ | .audioRpc _ =>
    (p.Up ∧ p.paired = true) ∧ p.video_config_sent = true
  | .markAudio _ pairing =>
    ((p.Up ∧ p.paired = true) ∧ p.video_config_sent = true) ∧
      pairing = p.pairings ∧ p.audio_published = true
  | .receiveOnlyAudio _ | .storeRunning _ =>
    ((p.Up ∧ p.paired = true) ∧ p.video_config_sent = true) ∧ p.AudioSent
  | .teardown target _ => p.teardown = false ∧ target.active = false
  | .storeTarget target _ => p.teardown = true ∧ target.active = false
  -- once the store is made, only a pairing target lets the state become active again
  | .clearPeer target _ | .videoStop (.teardown target _) => p.Leaving target
  | .joinEncoder (.teardown target _) | .videoStopped (.teardown target _)
  | .resetVideoConfig (.teardown target _) | .teardownLink target _ =>
    p.Leaving target ∧ p.video_running = false
  | .enterPairing _ => p.teardown = true ∧ p.video_running = false
  | .endTeardown _ => p.teardown = true ∧ p.video_running = false ∧ p.state.active = false
  | .joinEncoder .stalled | .videoStopped .stalled | .resetVideoConfig .stalled => p.Restarting

/-- What the encoder thread relies on at `pc`. A teardown may clear the audio flag under it. -/
def Encoder : Pc → Prop
  | .idle | .emitParameterSets .callback | .spsPpsCaptured .callback | .tryAdvance .callback
  | .publishVideo .callback | .videoRpc .callback | .audioStart .callback
  | .receivePeerStreams .callback => True
  -- the pairing may be over; then nothing is claimed of the published config
  | .markVideo .callback pairing =>
    pairing ≤ p.pairings ∧ (pairing = p.pairings → p.video_published = true)
  | .publishAudioIfNeeded .callback | .publishAudio .callback | .audioRpc .callback =>
    p.video_config_sent = true
  | .markAudio .callback pairing =>
    p.video_config_sent = true ∧ pairing ≤ p.pairings ∧
      (pairing = p.pairings → p.audio_published = true)
  | .receiveOnlyAudio .callback | .storeRunning .callback =>
    p.video_config_sent = true ∧ (p.teardown = false → p.AudioSent)
  -- the other places belong to the executor
  | _ => False

/-- The encoder thread runs no longer than its video and the join that ends it. -/
def Joined (executor encoder : Pc) : Prop :=
  encoder ≠ .idle → p.video_running = true ∨ ∃ reason, executor = .joinEncoder reason

/-- The invariant of the two threads. -/
structure Holds (pc encoderPc : Pc) : Prop where
  sound : p.Sound
  executor : p.Executor pc
  encoder : p.Encoder encoderPc
  joined : p.Joined pc encoderPc

variable {p}

theorem Up.resume (h : p.Up) (caller : Caller) : p.Executor caller.resume := by
  cases caller with
  | callback => exact h.1
  | videoStart => exact h

theorem executor_after (h : p.teardown = false) (after : AfterTeardown) :
    p.Executor after.resume := by
  cases after <;> exact h

theorem Sound.of_teardown (h : p.teardown = true)
    (hvideo : p.paired = true → p.video_config_sent = true → p.video_published = true)
    (haudio : p.paired = true → p.publishes_audio = true → p.config_published = true →
      p.audio_published = true) : p.Sound where
  video := hvideo
  audio := haudio
  active hidle := absurd (h.symm.trans hidle) (by simp)
  running hidle := absurd (h.symm.trans hidle) (by simp)

theorem Sound.of_unpaired (h : p.state.active = false)
    (hvideo : p.paired = true → p.video_config_sent = true → p.video_published = true)
    (haudio : p.paired = true → p.publishes_audio = true → p.config_published = true →
      p.audio_published = true) : p.Sound where
  video := hvideo
  audio := haudio
  active _ hactive := absurd (h.symm.trans hactive) (by simp)
  running _ hstate := by
    rw [hstate] at h
    cases h

/-- The encoder thread keeps its place while the flags it has passed stay set. -/
theorem Encoder.of_le {q : Publication} {pc : Pc} (h : p.Encoder pc)
    (hsent : p.video_config_sent = true → q.video_config_sent = true)
    (hpairings : q.pairings = p.pairings)
    (hvideo : p.video_published = true → q.video_published = true)
    (haudio : p.audio_published = true → q.audio_published = true)
    (hflag : (p.teardown = false → p.AudioSent) → q.teardown = false → q.AudioSent) :
    q.Encoder pc := by
  cases pc with
  | markVideo caller pairing =>
    cases caller with
    | callback => exact ⟨hpairings ▸ h.1, fun hnow => hvideo (h.2 (hnow.trans hpairings))⟩
    | videoStart => exact h
  | markAudio caller pairing =>
    cases caller with
    | callback =>
      exact ⟨hsent h.1, hpairings ▸ h.2.1, fun hnow => haudio (h.2.2 (hnow.trans hpairings))⟩
    | videoStart => exact h
  | publishAudioIfNeeded caller | publishAudio caller | audioRpc caller =>
    cases caller with
    | callback => exact hsent h
    | videoStart => exact h
  | receiveOnlyAudio caller | storeRunning caller =>
    cases caller with
    | callback => exact ⟨hsent h.1, hflag h.2⟩
    | videoStart => exact h
  | tryAdvance caller | publishVideo caller | videoRpc caller | audioStart caller
  | receivePeerStreams caller | emitParameterSets caller | spsPpsCaptured caller =>
    cases caller <;> exact h
  | _ => exact h

/-- A new pairing makes what the encoder thread has published a thing of the past. -/
theorem Encoder.next_pairing {q : Publication} {pc : Pc} (h : p.Encoder pc)
    (hsent : q.video_config_sent = p.video_config_sent) (hpairings : p.pairings < q.pairings)
    (hflag : (p.teardown = false → p.AudioSent) → q.teardown = false → q.AudioSent) :
    q.Encoder pc := by
  -- only the two places that remember a pairing are touched: theirs is now an older one
  cases pc with
  | markVideo caller pairing =>
    cases caller with
    | callback => exact ⟨h.1.trans hpairings.le, fun hnow => absurd h.1 (by omega)⟩
    | videoStart => exact h
  | markAudio caller pairing =>
    cases caller with
    | callback =>
      exact ⟨hsent.trans h.1, h.2.1.trans hpairings.le, fun hnow => absurd h.2.1 (by omega)⟩
    | videoStart => exact h
  | publishAudioIfNeeded caller | publishAudio caller | audioRpc caller =>
    cases caller with
    | callback => exact hsent.trans h
    | videoStart => exact h
  | receiveOnlyAudio caller | storeRunning caller =>
    cases caller with
    | callback => exact ⟨hsent.trans h.1, hflag h.2⟩
    | videoStart => exact h
  | tryAdvance caller | publishVideo caller | videoRpc caller | audioStart caller
  | receivePeerStreams caller | emitParameterSets caller | spsPpsCaptured caller =>
    cases caller <;> exact h
  | _ => exact h

/-- The executor keeps its place while the encoder thread sets flags. -/
theorem Executor.of_le {pc : Pc} {video_config_sent config_published video_published
    audio_published : Bool} (h : p.Executor pc)
    (hsent : p.video_config_sent = true → video_config_sent = true)
    (hvideo : p.video_published = true → video_published = true)
    (haudio : p.audio_published = true → audio_published = true)
    (hflag : p.AudioSent → p.publishes_audio = true → config_published = true) :
    Executor { p with video_config_sent, config_published, video_published, audio_published }
      pc := by
  cases pc with
  | markVideo caller pairing => exact ⟨h.1, h.2.1, hvideo h.2.2⟩
  | markAudio caller pairing => exact ⟨⟨h.1.1, hsent h.1.2⟩, h.2.1, haudio h.2.2⟩
  | publishAudioIfNeeded caller | publishAudio caller | audioRpc caller => exact ⟨h.1, hsent h.2⟩
  | receiveOnlyAudio caller | storeRunning caller =>
    exact ⟨⟨h.1.1, hsent h.1.2⟩, hflag h.2⟩
  | joinEncoder reason | videoStopped reason | resetVideoConfig reason =>
    cases reason <;> exact h
  | videoStop reason => cases reason <;> exact h
  | _ => exact h

/-- The executor keeps its place under a `Running` that is stored at the right time. -/
theorem Executor.store_running {pc : Pc} (h : p.Executor pc)
    (hup : p.teardown = false → p.video_running = true)
    (hbusy : p.teardown = true → pc.overwrites = true) :
    Executor { p with state := .running } pc := by
  -- a pairing target promises nothing of the state it stored
  have hleaving {target : State} (hl : p.Leaving target) (htarget : target = .pairing) :
      Leaving { p with state := .running } target :=
    ⟨hl.1, hl.2.1, fun hne => absurd htarget hne⟩
  -- the encoder thread that stores it is running, so its video is not being restarted
  have hrestarting (hr : p.Restarting) : False := by
    have hvideo := hup hr.1
    rw [hr.2.1] at hvideo
    cases hvideo
  cases pc with
  | clearPeer target after =>
    exact hleaving h (of_decide_eq_true (hbusy h.1))
  | videoStop reason =>
    cases reason with
    | stalled => exact h
    | teardown target after => exact hleaving h (of_decide_eq_true (hbusy h.1))
  | joinEncoder reason | videoStopped reason | resetVideoConfig reason =>
    cases reason with
    | stalled => exact (hrestarting h).elim
    | teardown target after => exact ⟨hleaving h.1 (of_decide_eq_true (hbusy h.1.1)), h.2⟩
  | teardownLink target after =>
    exact ⟨hleaving h.1 (of_decide_eq_true (hbusy h.1.1)), h.2⟩
  | endTeardown after => cases hbusy h.1
  | _ => exact h

end Publication

namespace MainNode

variable (n : MainNode)

/-- What the node shows of it. -/
def publication : Publication where
  state := n.state
  paired := !n.paired_peer_session_id.isEmpty
  teardown := n.session_teardown_in_progress
  publishes_audio := n.publishesAudio
  video_running := n.video.running
  video_config_sent := n.video_config_sent
  config_published := n.audio.config_published
  pairings := n.pairings
  video_published := n.video_published
  audio_published := n.audio_published

/-! ## What one step of a thread writes -/

theorem publication_rpc : n.rpc.2.publication = n.publication := by
  obtain ⟨replies, hrpc⟩ := n.rpc_footprint
  rw [hrpc]
  rfl

theorem publication_enterPairingState :
    n.enterPairingState.publication = { n.publication with state := .pairing } := by
  obtain ⟨replies, henter⟩ := n.enterPairingState_footprint
  rw [henter]
  rfl

theorem publication_audioStart : n.audioStart.publication = n.publication := by
  unfold audioStart
  split
  · rfl
  split
  · rfl
  split
  · rfl
  split <;> rfl

theorem publication_receivePeerStreams :
    n.receivePeerStreams.publication = n.publication := by
  unfold receivePeerStreams
  split <;> rfl

theorem publication_teardownLink (target : State) :
    (n.teardownLink target).publication = n.publication := by
  cases target <;> rfl

theorem publication_endTeardown :
    n.endTeardown.publication = { n.publication with teardown := false } := by
  obtain ⟨telemetry, joint, hend⟩ := n.endTeardown_footprint
  rw [hend]
  rfl

/-- Audio that is only received is marked, and then it is not published at all. -/
theorem publication_markReceiveOnlyAudio :
    ∃ config_published,
      n.markReceiveOnlyAudio.publication = { n.publication with config_published } ∧
        (n.publication.publishes_audio = true →
          config_published = n.publication.config_published) := by
  unfold markReceiveOnlyAudio
  split
  · rename_i honly
    -- the flag is set, but a node that publishes audio never gets here
    refine ⟨true, rfl, fun hpublishes => ?_⟩
    have hnot : n.publishesAudio = false := by simpa using (Bool.and_eq_true_iff.mp honly).2
    exact absurd hpublishes (by simp [publication, hnot])
  · exact ⟨_, rfl, fun _ => rfl⟩

/-! ## Callbacks of one step -/

theorem unpairs_fireReady : n.publication.Unpairs n.fireReady.publication := by
  by_cases hfired : n.udp.ready_fired = true
  · rw [fireReady, if_pos hfired]
    exact .inl rfl
  · obtain ⟨telemetry, joint, replies, hfire⟩ :=
      n.fireReady_footprint ((Bool.not_eq_true _).mp hfired)
    rw [hfire]
    exact .inr ⟨.pairing, rfl, .inl rfl⟩

theorem SetupEnds.unpairs {n m : MainNode} (h : n.SetupEnds m) :
    n.publication.Unpairs m.publication := by
  cases h with
  | unregistered => exact .inl rfl
  | retry => exact .inl rfl
  | running => exact .inl rfl
  | started => exact .inl rfl
  | ready => exact .inr ⟨.pairing, rfl, .inl rfl⟩

theorem unpairs_after_state {p q : Publication} {st : State}
    (hst : st.active = false) (h : Publication.Unpairs { p with state := st } q) :
    p.Unpairs q := by
  -- the state that is stored last counts
  rcases h with rfl | ⟨st', hst', rfl | rfl⟩
  · exact .inr ⟨st, hst, .inl rfl⟩
  · exact .inr ⟨st', hst', .inl rfl⟩
  · exact .inr ⟨st', hst', .inr rfl⟩

theorem unpairs_onGrpcRegistered :
    n.publication.Unpairs n.onGrpcRegistered.publication := by
  have hends := n.enterRegistered.completeRegisteredSetup_ends.unpairs
  have henter : n.enterRegistered.publication = { n.publication with state := .registered } := rfl
  rw [henter] at hends
  exact unpairs_after_state rfl hends

theorem unpairs_tryRegister (response : Option StdString) :
    n.publication.Unpairs (n.tryRegister response).publication := by
  unfold tryRegister
  split
  · exact .inl rfl
  cases response with
  | none => exact .inl rfl
  | some session_id => exact unpairs_onGrpcRegistered (n.setGrpc _)

theorem publication_forgetPeer (peer : StdString) :
    (n.forgetPeer peer).publication = n.publication ∨
      (n.forgetPeer peer).publication = { n.publication with paired := false } := by
  unfold forgetPeer
  split
  · exact .inr rfl
  · exact .inl rfl

theorem unpairs_handlePairReject (peer : PeerInfo) :
    n.publication.Unpairs (n.handlePairReject peer).publication := by
  have hstore : (n.handlePairReject peer).publication =
      { (n.forgetPeer peer.session_id).publication with state := .pairing } := by
    unfold handlePairReject
    simp only
    split <;> rfl
  rw [hstore]
  rcases n.publication_forgetPeer peer.session_id with hforget | hforget
  · rw [hforget]
    exact .inr ⟨.pairing, rfl, .inl rfl⟩
  · rw [hforget]
    exact .inr ⟨.pairing, rfl, .inr rfl⟩

/-- A callback that is one step of the executor. -/
theorem unpairs_handle {e : Event} {m : MainNode}
    (he : e.foreground = true ∧ e ≠ .negotiationRetryTimer ∧ (∀ r, e ≠ .heartbeatTimer r) ∧
      e ≠ .sessionWorkTimer)
    (h : n.handle e = some m) : n.publication.Unpairs m.publication := by
  cases e with
  | registerRetryTimer response =>
    obtain ⟨-, hm⟩ := Option.ite_none_right_eq_some.mp h
    cases hm
    exact n.unpairs_tryRegister response
  -- the callbacks with steps of their own are excluded
  | heartbeatTimer result => exact absurd rfl (he.2.2.1 result)
  | registeredSetupRetryTimer =>
    obtain ⟨-, hm⟩ := Option.ite_none_right_eq_some.mp h
    cases hm
    unfold registeredSetupRetryTimerCallback
    split
    · exact .inl rfl
    · exact n.completeRegisteredSetup_ends.unpairs
  | handshakeTimer =>
    obtain ⟨-, hm⟩ := Option.ite_none_right_eq_some.mp h
    cases hm
    unfold handshakeTimerCallback
    simp only
    split
    · exact .inl rfl
    split
    · exact .inl rfl
    split
    · exact unpairs_fireReady (n.setUdp _)
    · exact .inl rfl
  | pairingRetryTimer =>
    obtain ⟨-, hm⟩ := Option.ite_none_right_eq_some.mp h
    cases hm
    unfold pairingRetryTimerCallback
    split
    · exact .inl rfl
    · obtain ⟨replies, hpair⟩ := n.tryActivePairing_footprint
      rw [hpair]
      exact .inl rfl
  | negotiationRetryTimer => exact absurd rfl he.2.1
  | videoStatsTimer udp_loss =>
    cases h
    cases udp_loss with
    | false => exact .inl rfl
    | true =>
      obtain ⟨_, hrequest⟩ := n.requestVideoKeyframeRecovery_footprint
      simp only [if_true]
      rw [hrequest]
      exact .inl rfl
  | telemetryTimer =>
    obtain ⟨-, hm⟩ := Option.ite_none_right_eq_some.mp h
    cases hm
    obtain ⟨_, _, htelemetry⟩ := n.telemetryTimerCallback_footprint
    rw [htelemetry]
    exact .inl rfl
  | jointTelemetryTimer =>
    obtain ⟨-, hm⟩ := Option.ite_none_right_eq_some.mp h
    cases hm
    obtain ⟨_, _, htelemetry⟩ := n.telemetryTimerCallback_footprint
    rw [htelemetry]
    exact .inl rfl
  | sessionWorkTimer => exact absurd rfl he.2.2.2
  | peerSubscriptionRetryTimer | streamMessage | streamFailed | handshakeAck | udpPeerLost |
    parameterSetsCaptured => cases he.1

/-- The callbacks of the other threads leave the publishing alone. -/
theorem publication_background {e : Event} {m : MainNode} (he : e.foreground = false)
    (hsets : e ≠ .parameterSetsCaptured) (h : n.handle e = some m) :
    m.publication = n.publication := by
  cases e with
  | peerSubscriptionRetryTimer =>
    obtain ⟨-, hm⟩ := Option.ite_none_right_eq_some.mp h
    cases hm
    obtain ⟨_, _, _, _, _, _, hretry⟩ := n.peerSubscriptionRetryTimerCallback_footprint
    rw [hretry]
    rfl
  | streamMessage msg =>
    obtain ⟨-, hm⟩ := Option.ite_none_right_eq_some.mp h
    cases hm
    rfl
  | streamFailed =>
    obtain ⟨-, hm⟩ := Option.ite_none_right_eq_some.mp h
    cases hm
    rfl
  | handshakeAck =>
    obtain ⟨link, -, rfl⟩ := Option.map_eq_some_iff.mp h
    rfl
  | udpPeerLost =>
    simp only [handle] at h
    split at h
    · cases h
    · obtain ⟨-, hm⟩ := Option.ite_none_right_eq_some.mp h
      cases hm
      rfl
  | parameterSetsCaptured => exact absurd rfl hsets
  | registerRetryTimer | heartbeatTimer | registeredSetupRetryTimer | handshakeTimer |
    pairingRetryTimer | negotiationRetryTimer | videoStatsTimer | telemetryTimer |
    jointTelemetryTimer | sessionWorkTimer => cases he

/-! ## What a step changes -/

/-- Every other step leaves it alone. -/
theorem publication_exec {pc : Pc} (h : pc.publishes = false) :
    (n.exec pc).1.publication = n.publication := by
  -- the places that publish are gone; what is left tests, waits or stores elsewhere
  cases pc <;> try cases h
  case audioStart => exact n.publication_audioStart
  case receivePeerStreams => exact n.publication_receivePeerStreams
  case teardownLink => exact n.publication_teardownLink _
  case acceptRpc =>
    simp only [exec]
    split
    · exact n.publication_rpc
    · exact (publication_rpc _).trans n.publication_rpc
  case startVideo =>
    simp only [exec]
    split <;> rfl
  case publishVideo =>
    simp only [exec]
    split
    · rfl
    · split <;> rfl
  case emitParameterSets =>
    simp only [exec]
    split
    · rfl
    · split <;> rfl
  case retryReady =>
    simp only [exec]
    split
    · rfl
    split
    · rfl
    split
    · rfl
    split <;> rfl
  all_goals first | rfl | (simp only [exec]; split <;> rfl)

/-- A step that changes nothing keeps to what the executor relies on. -/
theorem executor_exec {pc : Pc} (hs : n.publication.Sound) (h : pc.publishes = false)
    (hx : n.publication.Executor pc) : n.publication.Executor (n.exec pc).2 := by
  -- a test that passes gives the next place what it relies on
  cases pc <;> try cases h
  case idle =>
    rw [exec_idle]
    exact hx
  case tryAdvance caller =>
    simp only [exec]
    split
    · exact hx.resume caller
    · rename_i hstate
      -- a negotiating node is active, so it has its peer
      refine ⟨hx, hs.active hx.1 ?_⟩
      exact (congrArg State.active (not_not.mp hstate)).trans rfl
  case publishVideo caller =>
    simp only [exec]
    split
    · rename_i hsent
      exact ⟨hx, hsent⟩
    · split
      · exact hx.1.resume caller
      · exact hx
  case publishAudioIfNeeded caller =>
    simp only [exec]
    split
    · exact hx
    · rename_i hneeded
      refine ⟨hx, fun hpublishes => ?_⟩
      -- audio that is published would have led to `publishAudio`
      by_contra hpublished
      exact hneeded (by simpa [publication] using And.intro hpublishes hpublished)
  case publishAudio caller =>
    simp only [exec]
    split
    · rename_i hpublished
      exact ⟨hx, fun _ => hpublished⟩
    · exact hx
  case audioStart caller => exact hx
  case receivePeerStreams caller => exact hx.resume caller
  case emitParameterSets caller =>
    simp only [exec]
    split
    · exact hx.resume caller
    · split
      · exact hx.resume caller
      · exact hx
  case spsPpsCaptured caller =>
    simp only [exec]
    split
    · exact hx
    · exact hx.resume caller
  case startVideo =>
    simp only [exec]
    split
    · rename_i hstarted
      exact ⟨hx, (Bool.and_eq_true_iff.mp hstarted).2⟩
    · exact hx
  case videoStarted => exact hx
  case advanceIfReady =>
    simp only [exec]
    split
    · exact hx
    · exact hx.1
  case retry =>
    simp only [exec]
    split <;> exact hx
  case retryVideo =>
    simp only [exec]
    split
    · exact hx
    · rename_i hvideo
      refine ⟨hx, ?_⟩
      simp only [Bool.or_eq_true, Bool.not_eq_true', not_or, Bool.not_eq_false] at hvideo
      exact hvideo.2
  case retryReady =>
    simp only [exec]
    split
    · exact hx
    split
    · exact hx
    split
    · exact hx.1
    split <;> exact hx
  case joinEncoder reason => cases reason <;> exact hx
  case videoStopped reason => cases reason <;> exact hx
  case teardownLink target after =>
    -- only a pairing target enters the pairing state
    obtain ⟨⟨hteardown, -, hstate⟩, hrunning⟩ := hx
    simp only [exec]
    split
    · exact ⟨hteardown, hrunning⟩
    · rename_i htarget
      exact ⟨hteardown, hrunning, hstate htarget⟩
  case startRegisterRetry => exact hx
  case acceptRpc peer registration =>
    simp only [exec]
    split <;> exact hx

end MainNode

end TeleopBridge.Node
