import TeleopBridge.Node.Publication

/-!
# Running Means Published

`tryAdvanceNegotiation` tests the state, waits for its RPCs and then stores `Running`
without a second look. A teardown stores its own state first and joins the encoder thread
later, so the encoder thread can store `Running` over it.

## Key Results

- `running_published`: in a run of timely steps a node in `Running` has a paired peer, a
  running video, and the configs published for this pairing.
- `encoder_stores_running_after_teardown`: without them it can stay in `Running` with no
  peer after the registration was lost.
-/

namespace TeleopBridge.Node

open TeleopBridge.Support

/-! ## What a publishing step does to the invariant -/

namespace Publication

variable {p : Publication}

/-- An answered RPC only adds to what is published. -/
theorem Sound.record_video (h : p.Sound) : Sound { p with video_published := true } :=
  ⟨fun _ _ => rfl, h.audio, h.active, h.running⟩

theorem Sound.record_audio (h : p.Sound) : Sound { p with audio_published := true } :=
  ⟨h.video, fun _ _ _ => rfl, h.active, h.running⟩

/-- The mark may be set once the config is out. -/
theorem Sound.mark_video (h : p.Sound) (hpublished : p.video_published = true) :
    Sound { p with video_config_sent := true } := by
  refine ⟨fun _ _ => hpublished, h.audio, h.active, fun hidle hstate => ?_⟩
  obtain ⟨hvideo, -, haudio⟩ := h.running hidle hstate
  exact ⟨hvideo, rfl, haudio⟩

/-- The same for the audio config. -/
theorem Sound.mark_audio (h : p.Sound) (hpublished : p.audio_published = true) :
    Sound { p with config_published := true } := by
  refine ⟨h.video, fun _ _ _ => hpublished, h.active, fun hidle hstate => ?_⟩
  obtain ⟨hvideo, hsent, -⟩ := h.running hidle hstate
  exact ⟨hvideo, hsent, fun _ => rfl⟩

/-- A flag that a publishing node leaves as it was. -/
theorem AudioSent.of_same {config_published : Bool} (h : p.AudioSent)
    (hsame : p.publishes_audio = true → config_published = p.config_published) :
    AudioSent { p with config_published } :=
  fun hpublishes => (hsame hpublishes).trans (h hpublishes)

/-- The audio flag counts only for a node that publishes audio. -/
theorem Sound.of_same {config_published : Bool} (h : p.Sound)
    (hsame : p.publishes_audio = true → config_published = p.config_published) :
    Sound { p with config_published } := by
  refine ⟨h.video, fun hpaired hpublishes hpublished => ?_, h.active, fun hidle hstate => ?_⟩
  · exact h.audio hpaired hpublishes ((hsame hpublishes).symm.trans hpublished)
  · obtain ⟨hvideo, hsent, haudio⟩ := h.running hidle hstate
    exact ⟨hvideo, hsent, haudio.of_same hsame⟩

/-- The encoder thread is gone once its video has stopped and nobody waits for it. -/
theorem Joined.idle {pc encoder : Pc} (h : p.Joined pc encoder) (hstopped : p.video_running = false)
    (hpc : ∀ reason, pc ≠ .joinEncoder reason) : encoder = .idle := by
  by_contra hrunning
  rcases h hrunning with hvideo | ⟨reason, hjoin⟩
  · rw [hstopped] at hvideo
    cases hvideo
  · exact hpc reason hjoin

end Publication

namespace MainNode

variable {n : MainNode} {encoder : Pc}

/-- Of the RPC the publication sees that it succeeded. -/
theorem publication_recordVideo :
    n.rpc.2.recordVideoPublished.publication =
      { n.publication with video_published := true } := by
  rw [← n.publication_rpc]
  rfl

theorem publication_recordAudio :
    n.rpc.2.recordAudioPublished.publication =
      { n.publication with audio_published := true } := by
  rw [← n.publication_rpc]
  rfl

theorem publication_rpc_fails :
    n.rpc.2.ensureNegotiationRetryTimer.publication = n.publication := n.publication_rpc

/-! ## The executor -/

/-- A place that does not publish changes nothing of the publication, and leads to a place whose
conditions hold. -/
theorem holds_quiet {pc : Pc} (h : n.publication.Holds pc encoder) (hquiet : pc.publishes = false)
    (hwaits : ∀ reason, pc = .joinEncoder reason → encoder = .idle) :
    (n.exec pc).1.publication.Holds (n.exec pc).2 encoder := by
  rw [n.publication_exec hquiet]
  refine ⟨h.sound, n.executor_exec h.sound hquiet h.executor, h.encoder, fun hrunning => ?_⟩
  -- the encoder thread runs on while the video does, or while it is joined
  rcases h.joined hrunning with hvideo | ⟨reason, hpc⟩
  · exact .inl hvideo
  · exact absurd (hwaits reason hpc) hrunning

/-- While the video runs, or while the place is no join, nothing is asked of the join. -/
theorem joined_of_up {p q : Publication} {pc pc' : Pc}
    (h : p.Joined pc encoder) (hpc : ∀ reason, pc ≠ .joinEncoder reason)
    (hvideo : p.video_running = true → q.video_running = true) : q.Joined pc' encoder := by
  intro hrunning
  rcases h hrunning with hup | ⟨reason, hjoin⟩
  · exact .inl (hvideo hup)
  · exact absurd hjoin (hpc reason)

/-- The RPC of the executor records the config, or arms the retry timer. -/
theorem holds_videoRpc {caller : Caller} (h : n.publication.Holds (.videoRpc caller) encoder) :
    (n.exec (.videoRpc caller)).1.publication.Holds (n.exec (.videoRpc caller)).2 encoder := by
  simp only [exec]
  split
  · -- the answer that was granted is on record before it is marked
    simp only [publication_recordVideo]
    refine ⟨h.sound.record_video, ⟨h.executor, rfl, rfl⟩, ?_, ?_⟩
    · exact h.encoder.of_le id rfl (fun _ => rfl) id fun hflag hidle => hflag hidle
    · exact joined_of_up h.joined (by simp) id
  · simp only [publication_rpc_fails]
    exact ⟨h.sound, h.executor.1.resume caller, h.encoder, joined_of_up h.joined (by simp) id⟩

/-- The mark of the executor speaks of the pairing in which the RPC was made. -/
theorem holds_markVideo {caller : Caller} {pairing : ℕ}
    (h : n.publication.Holds (.markVideo caller pairing) encoder) :
    (n.exec (.markVideo caller pairing)).1.publication.Holds
      (n.exec (.markVideo caller pairing)).2 encoder := by
  -- no pairing can come in between on the executor, so the record is of this one
  obtain ⟨hup, -, hpublished⟩ := h.executor
  refine ⟨h.sound.mark_video hpublished, ⟨hup, rfl⟩, ?_, ?_⟩
  · exact h.encoder.of_le (fun _ => rfl) rfl id id fun hflag hidle => hflag hidle
  · exact joined_of_up h.joined (by simp) id

/-- The audio RPC follows only on a video config that was sent. -/
theorem holds_audioRpc {caller : Caller} (h : n.publication.Holds (.audioRpc caller) encoder) :
    (n.exec (.audioRpc caller)).1.publication.Holds (n.exec (.audioRpc caller)).2 encoder := by
  simp only [exec]
  split
  · -- as for the video
    simp only [publication_recordAudio]
    refine ⟨h.sound.record_audio, ⟨h.executor, rfl, rfl⟩, ?_, ?_⟩
    · exact h.encoder.of_le id rfl id (fun _ => rfl) fun hflag hidle => hflag hidle
    · exact joined_of_up h.joined (by simp) id
  · simp only [publication_rpc_fails]
    exact ⟨h.sound, h.executor.1.1.resume caller, h.encoder, joined_of_up h.joined (by simp) id⟩

/-- The audio config is marked in the pairing in which it was published. -/
theorem holds_markAudio {caller : Caller} {pairing : ℕ}
    (h : n.publication.Holds (.markAudio caller pairing) encoder) :
    (n.exec (.markAudio caller pairing)).1.publication.Holds
      (n.exec (.markAudio caller pairing)).2 encoder := by
  obtain ⟨hsent, -, hpublished⟩ := h.executor
  refine ⟨h.sound.mark_audio hpublished, ⟨hsent, fun _ => rfl⟩, ?_, ?_⟩
  · exact h.encoder.of_le id rfl id id fun _ _ _ => rfl
  · exact joined_of_up h.joined (by simp) id

/-- A node that publishes no audio sets the flag without an RPC. -/
theorem holds_receiveOnlyAudio {caller : Caller}
    (h : n.publication.Holds (.receiveOnlyAudio caller) encoder) :
    (n.exec (.receiveOnlyAudio caller)).1.publication.Holds
      (n.exec (.receiveOnlyAudio caller)).2 encoder := by
  obtain ⟨published, hmark, hsame⟩ := n.publication_markReceiveOnlyAudio
  simp only [exec, hmark]
  refine ⟨h.sound.of_same hsame, ⟨h.executor.1, h.executor.2.of_same hsame⟩, ?_, ?_⟩
  · exact h.encoder.of_le id rfl id id fun hflag hidle => (hflag hidle).of_same hsame
  · exact joined_of_up h.joined (by simp) id

/-- The executor has come here with every config published, so `Running` may be stored. -/
theorem holds_storeRunning {caller : Caller}
    (h : n.publication.Holds (.storeRunning caller) encoder) :
    (n.exec (.storeRunning caller)).1.publication.Holds
      (n.exec (.storeRunning caller)).2 encoder := by
  obtain ⟨⟨⟨hup, hpaired⟩, hsent⟩, haudio⟩ := h.executor
  refine ⟨⟨h.sound.video, h.sound.audio, fun _ _ => hpaired, fun _ _ => ⟨hup.2, hsent, haudio⟩⟩,
    hup, ?_, ?_⟩
  · exact h.encoder.of_le id rfl id id fun hflag hidle => hflag hidle
  · exact joined_of_up h.joined (by simp) id

/-- The video is started on the executor, and only there. -/
theorem holds_videoStart (h : n.publication.Holds .videoStart encoder) :
    (n.exec .videoStart).1.publication.Holds (n.exec .videoStart).2 encoder := by
  have hidle : n.publication.teardown = false := h.executor
  simp only [exec]
  -- it runs already, it fails to start, or it comes up with a new encoder thread
  split
  · rename_i hrunning
    exact ⟨h.sound, ⟨hidle, hrunning⟩, h.encoder, joined_of_up h.joined (by simp) id⟩
  split
  · exact ⟨h.sound, hidle, h.encoder, joined_of_up h.joined (by simp) id⟩
  · have hup : (n.replied.replied.videoUp n.replied.reply).publication =
        { n.publication with video_running := true } := rfl
    simp only [hup]
    refine ⟨⟨h.sound.video, h.sound.audio, h.sound.active, fun hidle hstate => ?_⟩,
      ⟨hidle, rfl⟩, ?_, fun _ => .inl rfl⟩
    · -- a node that is running keeps its marks
      obtain ⟨-, hsent, haudio⟩ := h.sound.running hidle hstate
      exact ⟨rfl, hsent, haudio⟩
    · exact h.encoder.of_le id rfl id id fun hflag hidle => hflag hidle

/-- With the teardown flag set, `Sound` asks only that the marks of a paired node are true. -/
theorem holds_takeTeardown {pc : Pc} {target : State} {after : AfterTeardown}
    (hvideo : n.publication.paired = true → n.publication.video_config_sent = true →
      n.publication.video_published = true)
    (haudio : n.publication.paired = true → n.publication.publishes_audio = true →
      n.publication.config_published = true → n.publication.audio_published = true)
    (he : n.publication.Encoder encoder) (hj : n.publication.Joined pc encoder)
    (hpc : ∀ reason, pc ≠ .joinEncoder reason) (htarget : target.active = false) :
    n.takeTeardown.publication.Holds (.storeTarget target after) encoder := by
  refine ⟨.of_teardown rfl hvideo haudio, ⟨rfl, htarget⟩, ?_, joined_of_up hj hpc id⟩
  -- once the flag is set nothing is asked of the audio flag
  exact he.of_le id rfl id id fun _ hidle => by cases hidle

/-- A second teardown returns at once; the first one takes the flag. -/
theorem holds_teardown {target : State} {after : AfterTeardown}
    (h : n.publication.Holds (.teardown target after) encoder) :
    (n.exec (.teardown target after)).1.publication.Holds
      (n.exec (.teardown target after)).2 encoder := by
  obtain ⟨hidle, htarget⟩ := h.executor
  simp only [exec]
  split
  · exact ⟨h.sound, Publication.executor_after hidle after, h.encoder,
      joined_of_up h.joined (by simp) id⟩
  · exact holds_takeTeardown h.sound.video h.sound.audio h.encoder h.joined (by simp) htarget

/-- The target is stored while the flag is set. -/
theorem holds_storeTarget {target : State} {after : AfterTeardown}
    (h : n.publication.Holds (.storeTarget target after) encoder) :
    (n.exec (.storeTarget target after)).1.publication.Holds
      (n.exec (.storeTarget target after)).2 encoder := by
  obtain ⟨hteardown, htarget⟩ := h.executor
  refine ⟨.of_teardown hteardown h.sound.video h.sound.audio,
    ⟨hteardown, htarget, fun _ => htarget⟩, ?_, joined_of_up h.joined (by simp) id⟩
  exact h.encoder.of_le id rfl id id fun hflag hidle => hflag hidle

/-- Without a peer nothing is asked of the marks. -/
theorem holds_clearPeer {target : State} {after : AfterTeardown}
    (h : n.publication.Holds (.clearPeer target after) encoder) :
    (n.exec (.clearPeer target after)).1.publication.Holds
      (n.exec (.clearPeer target after)).2 encoder := by
  have hteardown : n.publication.teardown = true := h.executor.1
  refine ⟨.of_teardown hteardown (fun hpaired => ?_) (fun hpaired => ?_), h.executor, ?_,
    joined_of_up h.joined (by simp) id⟩
  -- the peer is gone: the node is no longer paired
  · cases hpaired
  · cases hpaired
  · exact h.encoder.of_le id rfl id id fun _ hidle =>
      absurd (hteardown.symm.trans hidle) (by simp)

/-- The video is stopped before the encoder thread is joined. -/
theorem holds_videoStop {reason : StopReason} (h : n.publication.Holds (.videoStop reason) encoder)
    (hstalled : reason = .stalled → n.state ≠ .running) :
    (n.exec (.videoStop reason)).1.publication.Holds (n.exec (.videoStop reason)).2 encoder := by
  have hencoder : n.videoStop.publication.Encoder encoder :=
    h.encoder.of_le id rfl id id fun hflag hidle => hflag hidle
  cases reason with
  -- a stalled start is not running, so that no running node loses its video
  | stalled =>
    refine ⟨⟨h.sound.video, h.sound.audio, h.sound.active, fun _ hstate => ?_⟩,
      ⟨h.executor, rfl, hstalled rfl⟩, hencoder, fun _ => .inr ⟨.stalled, rfl⟩⟩
    exact absurd hstate (hstalled rfl)
  | teardown target after =>
    exact ⟨.of_teardown h.executor.1 h.sound.video h.sound.audio, ⟨h.executor, rfl⟩, hencoder,
      fun _ => .inr ⟨.teardown target after, rfl⟩⟩

/-- The marks are reset only when the encoder thread has ended: nobody sets them again. -/
theorem holds_resetVideoConfig {reason : StopReason}
    (h : n.publication.Holds (.resetVideoConfig reason) encoder) :
    (n.exec (.resetVideoConfig reason)).1.publication.Holds
      (n.exec (.resetVideoConfig reason)).2 encoder := by
  have hstopped : n.publication.video_running = false := by
    cases reason with
    | stalled => exact h.executor.2.1
    | teardown target after => exact h.executor.2
  -- the encoder thread has been joined
  obtain rfl : encoder = .idle := h.joined.idle hstopped (by simp)
  -- the marks go, and with the video stopped the state is not running
  have hsound : n.resetVideoConfigState.publication.Sound := by
    refine ⟨fun _ hsent => ?_, h.sound.audio, h.sound.active, fun hidle hstate => ?_⟩
    · cases hsent
    · obtain ⟨hvideo, -, -⟩ := h.sound.running hidle hstate
      rw [hstopped] at hvideo
      cases hvideo
  cases reason with
  | stalled => exact ⟨hsound, h.executor.1, trivial, fun hidle => absurd rfl hidle⟩
  | teardown target after => exact ⟨hsound, h.executor, trivial, fun hidle => absurd rfl hidle⟩

/-- `Pairing` is stored while the flag is still set. -/
theorem holds_enterPairing {after : AfterTeardown}
    (h : n.publication.Holds (.enterPairing after) encoder) :
    (n.exec (.enterPairing after)).1.publication.Holds
      (n.exec (.enterPairing after)).2 encoder := by
  obtain ⟨hteardown, hstopped⟩ := h.executor
  simp only [exec, publication_enterPairingState]
  refine ⟨.of_unpaired rfl h.sound.video h.sound.audio,
    ⟨hteardown, hstopped, rfl⟩, ?_, joined_of_up h.joined (by simp) id⟩
  exact h.encoder.of_le id rfl id id fun hflag hidle => hflag hidle

/-- The flag is given back with the node unpaired and both threads out of the video. -/
theorem holds_endTeardown {after : AfterTeardown}
    (h : n.publication.Holds (.endTeardown after) encoder) :
    (n.exec (.endTeardown after)).1.publication.Holds
      (n.exec (.endTeardown after)).2 encoder := by
  obtain ⟨-, hstopped, hstate⟩ := h.executor
  -- the encoder thread has been joined, so that it has no place to answer for
  obtain rfl : encoder = .idle := h.joined.idle hstopped (by simp)
  simp only [exec, publication_endTeardown]
  exact ⟨.of_unpaired hstate h.sound.video h.sound.audio,
    Publication.executor_after rfl after, trivial, fun hidle => absurd rfl hidle⟩

/-- Behind a stream that ended the node looks for a peer again, if it is still registered. -/
theorem holds_streamEnded (h : n.publication.Holds .streamEnded encoder) :
    (n.exec .streamEnded).1.publication.Holds (n.exec .streamEnded).2 encoder := by
  simp only [exec]
  split
  · rw [publication_enterPairingState]
    refine ⟨.of_unpaired rfl h.sound.video h.sound.audio, h.executor, ?_,
      joined_of_up h.joined (by simp) id⟩
    exact h.encoder.of_le id rfl id id fun hflag hidle => hflag hidle
  · exact ⟨h.sound, h.executor, h.encoder, joined_of_up h.joined (by simp) id⟩

/-- A new pairing starts with no mark set. -/
theorem holds_storePairing {peer : StdString} {registration : ℕ}
    (h : n.publication.Holds (.storePairing peer registration) encoder) (hpeer : peer ≠ [])
    (hsent : n.video_config_sent = false)
    (haudio : n.publishesAudio = true → n.audio.config_published = false) :
    (n.exec (.storePairing peer registration)).1.publication.Holds
      (n.exec (.storePairing peer registration)).2 encoder := by
  have hpaired : (n.storePairing peer registration).publication.paired = true := by
    change (!peer.isEmpty) = true
    simp [hpeer]
  -- no mark of the pairing before may stand: it would speak of another peer
  refine ⟨⟨fun _ hvideo => ?_, fun _ hpublishes hpublished => ?_, fun _ _ => hpaired,
    fun _ hstate => ?_⟩, h.executor, ?_, joined_of_up h.joined (by simp) id⟩
  · exact absurd (hsent.symm.trans hvideo) (by simp)
  · exact absurd ((haudio hpublishes).symm.trans hpublished) (by simp)
  · cases hstate
  · -- the encoder thread may still hold an answer to the pairing before
    refine Publication.Encoder.next_pairing h.encoder ?_ ?_ ?_
    · rfl
    · exact Nat.lt_succ_self _
    · exact fun hflag hidle => hflag hidle

/-- An unpair event forgets the peer and begins a teardown. -/
theorem holds_unpair {peer : StdString} (h : n.publication.Holds (.unpair peer) encoder) :
    (n.exec (.unpair peer)).1.publication.Holds (n.exec (.unpair peer)).2 encoder := by
  have hflag : n.session_teardown_in_progress = false := h.executor
  simp only [exec, hflag, Bool.false_eq_true, if_false]
  -- without a peer the marks promise nothing
  rcases n.publication_forgetPeer peer with hforget | hforget
  -- the peer was forgotten
  · -- another peer was meant, and nothing was forgotten
    apply holds_takeTeardown
    · rw [hforget]
      exact h.sound.video
    · rw [hforget]
      exact h.sound.audio
    · rw [hforget]
      exact h.encoder
    · rw [hforget]
      exact h.joined
    · simp
    · rfl
  · apply holds_takeTeardown
    · intro hpaired
      rw [hforget] at hpaired
      cases hpaired
    · intro hpaired
      rw [hforget] at hpaired
      cases hpaired
    · rw [hforget]
      exact h.encoder.of_le id rfl id id fun hflag hidle => hflag hidle
    · rw [hforget]
      exact h.joined
    · simp
    · rfl

/-- A pairing begins with a peer, and with no config marked as published. -/
def BeginsFresh (n : MainNode) (peer : StdString) : Prop :=
  peer ≠ [] ∧ n.video_config_sent = false ∧
    (n.publishesAudio = true → n.audio.config_published = false)

/-- What the executor may do at its place. -/
def ExecutorTimely (n : MainNode) : Pc → Prop
  | .storePairing peer _ => n.BeginsFresh peer
  | .videoStop .stalled => n.state ≠ .running
  | _ => True

/-- A timely step of the executor keeps the invariant. -/
theorem holds_executor {pc : Pc} (h : n.publication.Holds pc encoder)
    (hwaits : ∀ reason, pc = .joinEncoder reason → encoder = .idle)
    (htimely : n.ExecutorTimely pc) :
    (n.exec pc).1.publication.Holds (n.exec pc).2 encoder := by
  -- only the publishing places need a lemma of their own
  by_cases hquiet : pc.publishes = false
  · exact holds_quiet h hquiet hwaits
  cases pc with
  | videoRpc caller => exact holds_videoRpc h
  | markVideo caller pairing => exact holds_markVideo h
  | audioRpc caller => exact holds_audioRpc h
  | markAudio caller pairing => exact holds_markAudio h
  | receiveOnlyAudio caller => exact holds_receiveOnlyAudio h
  | storeRunning caller => exact holds_storeRunning h
  | videoStart => exact holds_videoStart h
  | teardown target after => exact holds_teardown h
  | storeTarget target after => exact holds_storeTarget h
  | clearPeer target after => exact holds_clearPeer h
  | videoStop reason =>
    refine holds_videoStop h fun hstalled => ?_
    subst hstalled
    exact htimely
  | resetVideoConfig reason => exact holds_resetVideoConfig h
  | enterPairing after => exact holds_enterPairing h
  | endTeardown after => exact holds_endTeardown h
  | streamEnded => exact holds_streamEnded h
  | storePairing peer registration =>
    exact holds_storePairing h htimely.1 htimely.2.1 htimely.2.2
  | unpair peer => exact holds_unpair h
  | _ => exact absurd rfl hquiet

/-! ## A callback begins -/

/-- The executor begins at a place it may be at. -/
theorem holds_unpairs {m : MainNode} (h : n.publication.Holds .idle encoder)
    (hm : n.publication.Unpairs m.publication) : m.publication.Holds .idle encoder := by
  rcases hm with hsame | ⟨st, hst, hstate | hforget⟩
  · rw [hsame]
    exact h
  -- an unpaired state asks for no peer and no config
  · rw [hstate]
    refine ⟨.of_unpaired hst h.sound.video h.sound.audio, h.executor, ?_,
      joined_of_up h.joined (by simp) id⟩
    exact h.encoder.of_le id rfl id id fun hflag hidle => hflag hidle
  · rw [hforget]
    refine ⟨.of_unpaired hst (fun hpaired => ?_) (fun hpaired => ?_), h.executor, ?_,
      joined_of_up h.joined (by simp) id⟩
    · cases hpaired
    · cases hpaired
    · exact h.encoder.of_le id rfl id id fun hflag hidle => hflag hidle

theorem holds_goto {p : Publication} {pc pc' : Pc} (h : p.Holds pc encoder)
    (hpc : ∀ reason, pc ≠ .joinEncoder reason) (hx : p.Executor pc') : p.Holds pc' encoder :=
  ⟨h.sound, hx, h.encoder, joined_of_up h.joined hpc id⟩

theorem holds_dispatchWork (h : n.publication.Holds .idle encoder) (work : SessionWork) :
    (n.dispatchWork work).1.publication.Holds (n.dispatchWork work).2 encoder := by
  have hidle : n.publication.teardown = false := h.executor
  cases work with
  | streamEnd => exact holds_goto h (by simp) ⟨hidle, rfl⟩
  | udpPeerLost =>
    simp only [dispatchWork]
    split
    · obtain ⟨_, _, hlifecycle⟩ := n.updateRobotTelemetryLifecycle_footprint
      rw [hlifecycle]
      exact h
    · exact holds_goto h (by simp) ⟨hidle, rfl⟩
  | signalingEvent msg registration =>
    -- of the messages only the pair events with a peer start anything
    rcases msg with ⟨op, _ | peer⟩ | action | _
    · cases op <;> exact h
    · cases op with
      | request =>
        simp only [dispatchWork]
        split
        · exact holds_goto h (by simp) hidle
        · simp only [n.publication_rpc]
          exact h
      | accept => exact holds_goto h (by simp) hidle
      | reject => exact holds_unpairs h (n.unpairs_handlePairReject peer)
      | unpair => exact holds_goto h (by simp) hidle
      | unrecognized => exact h
    · simp only [dispatchWork, handleSignalingEvent]
      split <;> exact h
    · exact h

/-- A lost registration begins a teardown. -/
theorem holds_dispatchLoss (h : n.publication.Holds .idle encoder) :
    n.dispatchLoss.1.publication.Holds n.dispatchLoss.2 encoder :=
  holds_goto h (by simp) ⟨h.executor, rfl⟩

/-- A heartbeat begins a teardown only when the registration is given up. -/
theorem holds_dispatchHeartbeat (h : n.publication.Holds .idle encoder)
    (result : HeartbeatResult) :
    (n.dispatchHeartbeat result).1.publication.Holds (n.dispatchHeartbeat result).2 encoder := by
  unfold dispatchHeartbeat
  -- not registered; then by the answer, of which some failures are forgiven
  split
  · exact h
  · cases (if n.grpc.session_id = [] then .sessionInvalid else result : HeartbeatResult) with
    | ok => exact h
    | transportError =>
      simp only
      split
      · exact h
      · exact holds_dispatchLoss (n := n.setGrpc _) h
    | sessionInvalid => exact holds_dispatchLoss h

/-- Every callback of the executor begins in a place whose conditions hold. -/
theorem holds_dispatch {e : Event} {c : MainNode × Pc} (h : n.publication.Holds .idle encoder)
    (he : e.foreground = true) (hc : n.dispatch e = some c) :
    c.1.publication.Holds c.2 encoder := by
  cases e
  case negotiationRetryTimer =>
    obtain ⟨-, hc⟩ := Option.ite_none_right_eq_some.mp hc
    cases hc
    exact holds_goto h (by simp) h.executor
  case heartbeatTimer result =>
    obtain ⟨-, hc⟩ := Option.ite_none_right_eq_some.mp hc
    cases hc
    exact holds_dispatchHeartbeat h result
  case sessionWorkTimer =>
    obtain ⟨-, hwork⟩ := Option.ite_none_right_eq_some.mp hc
    cases hqueue : n.session_work_queue with
    | nil =>
      simp only [hqueue] at hwork
      cases hwork
      exact h
    | cons work rest =>
      simp only [hqueue] at hwork
      cases hwork
      have hrest : publication { n with session_work_queue := rest } = n.publication := rfl
      exact holds_dispatchWork (hrest ▸ h) work
  case peerSubscriptionRetryTimer | streamMessage | streamFailed | handshakeAck | udpPeerLost |
      parameterSetsCaptured => cases he
  -- the other callbacks are one step
  all_goals
    unfold dispatch at hc
    obtain ⟨m, hm, rfl⟩ := Option.map_eq_some_iff.mp hc
    exact holds_unpairs h (n.unpairs_handle ⟨he, by simp⟩ hm)

/-! ## The encoder thread -/

variable {pc : Pc}

/-- A step of the encoder thread that changes nothing keeps to what it relies on. -/
theorem encoder_exec (hquiet : encoder.publishes = false) (h : n.publication.Encoder encoder) :
    n.publication.Encoder (n.exec encoder).2 := by
  cases encoder with
  | idle => exact h
  | tryAdvance caller =>
    cases caller with
    | videoStart => cases h
    | callback =>
      simp only [exec]
      split <;> trivial
  | publishVideo caller =>
    cases caller with
    | videoStart => cases h
    | callback =>
      simp only [exec]
      split
      · rename_i hsent
        exact hsent
      · split <;> trivial
  | publishAudioIfNeeded caller =>
    cases caller with
    | videoStart => cases h
    | callback =>
      simp only [exec]
      split
      · exact h
      · rename_i hneeded
        refine ⟨h, fun _ hpublishes => ?_⟩
        -- a node that publishes audio goes on to `publishAudio` unless the flag is set
        by_contra hpublished
        exact hneeded (by simpa [publication] using And.intro hpublishes hpublished)
  | publishAudio caller =>
    cases caller with
    | videoStart => cases h
    | callback =>
      simp only [exec]
      split
      · rename_i hpublished
        exact ⟨h, fun _ _ => hpublished⟩
      · exact h
  | audioStart caller =>
    cases caller with
    | videoStart => cases h
    | callback => trivial
  | receivePeerStreams caller =>
    cases caller with
    | videoStart => cases h
    | callback => trivial
  | emitParameterSets caller =>
    cases caller with
    | videoStart => cases h
    | callback =>
      simp only [exec]
      split
      · trivial
      · split <;> trivial
  | spsPpsCaptured caller =>
    cases caller with
    | videoStart => cases h
    | callback =>
      simp only [exec]
      split <;> trivial
  | _ => first | cases h | cases hquiet

/-- `Running` stands when it is stored: a teardown stores its own state after it, or a peer
is paired and the video runs. -/
def RunningStands (n : MainNode) (executor : Pc) : Prop :=
  if n.session_teardown_in_progress then executor.overwrites = true
  else n.paired_peer_session_id ≠ [] ∧ n.video.running = true

/-- What the encoder thread may do at its place. -/
def EncoderTimely (n : MainNode) (executor : Pc) : Pc → Prop
  | .markVideo _ pairing | .markAudio _ pairing => pairing = n.pairings
  | .storeRunning _ => n.RunningStands executor
  | _ => True

/-- The encoder thread runs on as long as its video. -/
theorem joined_encoder {q : Publication} {next : Pc} (h : n.publication.Holds pc encoder)
    (hrunning : encoder ≠ .idle) (hvideo : q.video_running = n.publication.video_running) :
    q.Joined pc next := by
  intro _
  rw [hvideo]
  exact h.joined hrunning

/-- The encoder thread publishes for the pairing that it read before the RPC. -/
theorem holds_encoder_videoRpc
    (h : n.publication.Holds pc (.videoRpc .callback)) :
    (n.exec (.videoRpc .callback)).1.publication.Holds pc (n.exec (.videoRpc .callback)).2 := by
  simp only [exec]
  split
  · -- that pairing is kept until the mark
    simp only [publication_recordVideo]
    refine ⟨h.sound.record_video, ?_, ⟨le_rfl, fun _ => rfl⟩, joined_encoder h (by simp) rfl⟩
    exact h.executor.of_le id (fun _ => rfl) id id
  · simp only [publication_rpc_fails]
    exact ⟨h.sound, h.executor, trivial, joined_encoder h (by simp) rfl⟩

/-- The encoder thread may mark while its pairing is still the current one. -/
theorem holds_encoder_markVideo
    (h : n.publication.Holds pc (.markVideo .callback n.pairings)) :
    (n.exec (.markVideo .callback n.pairings)).1.publication.Holds pc
      (n.exec (.markVideo .callback n.pairings)).2 := by
  have hpublished : n.publication.video_published = true := h.encoder.2 rfl
  refine ⟨h.sound.mark_video hpublished, ?_, rfl, joined_encoder h (by simp) rfl⟩
  exact h.executor.of_le (fun _ => rfl) id id id

/-- It publishes the audio config only behind the video config. -/
theorem holds_encoder_audioRpc
    (h : n.publication.Holds pc (.audioRpc .callback)) :
    (n.exec (.audioRpc .callback)).1.publication.Holds pc (n.exec (.audioRpc .callback)).2 := by
  have hsent : n.publication.video_config_sent = true := h.encoder
  simp only [exec]
  split
  · -- the record is of the pairing of the RPC
    simp only [publication_recordAudio]
    refine ⟨h.sound.record_audio, ?_, ⟨hsent, le_rfl, fun _ => rfl⟩,
      joined_encoder h (by simp) rfl⟩
    exact h.executor.of_le id id (fun _ => rfl) id
  · simp only [publication_rpc_fails]
    exact ⟨h.sound, h.executor, trivial, joined_encoder h (by simp) rfl⟩

/-- The same for the audio mark. -/
theorem holds_encoder_markAudio
    (h : n.publication.Holds pc (.markAudio .callback n.pairings)) :
    (n.exec (.markAudio .callback n.pairings)).1.publication.Holds pc
      (n.exec (.markAudio .callback n.pairings)).2 := by
  obtain ⟨hsent, -, hmarked⟩ := h.encoder
  have hpublished : n.publication.audio_published = true := hmarked rfl
  refine ⟨h.sound.mark_audio hpublished, ?_, ⟨hsent, fun _ _ => rfl⟩,
    joined_encoder h (by simp) rfl⟩
  exact h.executor.of_le id id id fun _ _ => rfl

/-- It sets the flag of a node that receives only. -/
theorem holds_encoder_receiveOnlyAudio
    (h : n.publication.Holds pc (.receiveOnlyAudio .callback)) :
    (n.exec (.receiveOnlyAudio .callback)).1.publication.Holds pc
      (n.exec (.receiveOnlyAudio .callback)).2 := by
  obtain ⟨hsent, hflag⟩ := h.encoder
  obtain ⟨published, hmark, hsame⟩ := n.publication_markReceiveOnlyAudio
  simp only [exec, hmark]
  refine ⟨h.sound.of_same hsame, ?_, ⟨hsent, fun hidle => (hflag hidle).of_same hsame⟩,
    joined_encoder h (by simp) rfl⟩
  exact h.executor.of_le id id id fun haudio => haudio.of_same hsame

/-- The encoder thread may store `Running` over a node that is still paired and runs its video, or
under a teardown that overwrites it. -/
theorem holds_encoder_storeRunning
    (h : n.publication.Holds pc (.storeRunning .callback)) (hstands : n.RunningStands pc) :
    (n.exec (.storeRunning .callback)).1.publication.Holds pc
      (n.exec (.storeRunning .callback)).2 := by
  obtain ⟨hsent, hflag⟩ := h.encoder
  have hjoined : n.storeRunning.publication.Joined pc (.audioStart .callback) :=
    joined_encoder h (by simp) rfl
  -- under a teardown the state only has to be overwritten later
  by_cases hbusy : n.session_teardown_in_progress = true
  · rw [RunningStands, if_pos hbusy] at hstands
    have hteardown : n.publication.teardown = true := hbusy
    refine ⟨.of_teardown hteardown h.sound.video h.sound.audio, ?_, trivial, hjoined⟩
    exact h.executor.store_running
      (fun hidle => absurd (hteardown.symm.trans hidle) (by simp)) fun _ => hstands
  · rw [RunningStands, if_neg hbusy] at hstands
    obtain ⟨hpeer, hvideo⟩ := hstands
    have hidle : n.publication.teardown = false := (Bool.not_eq_true _).mp hbusy
    have hpaired : n.publication.paired = true := by simp [publication, hpeer]
    refine ⟨⟨h.sound.video, h.sound.audio, fun _ _ => hpaired,
      fun _ _ => ⟨hvideo, hsent, hflag hidle⟩⟩, ?_, trivial, hjoined⟩
    exact h.executor.store_running (fun _ => hvideo)
      fun hteardown => absurd (hteardown.symm.trans hidle) (by simp)

/-- A timely step of the encoder thread keeps the invariant. -/
theorem holds_encoder (h : n.publication.Holds pc encoder) (hrunning : encoder ≠ .idle)
    (htimely : n.EncoderTimely pc encoder) :
    (n.exec encoder).1.publication.Holds pc (n.exec encoder).2 := by
  -- the quiet places need only their own conditions
  by_cases hquiet : encoder.publishes = false
  · rw [n.publication_exec hquiet]
    exact ⟨h.sound, h.executor, encoder_exec hquiet h.encoder, joined_encoder h hrunning rfl⟩
  have hencoder := h.encoder
  cases encoder with
  | idle => exact absurd rfl hrunning
  | videoRpc caller =>
    cases caller with
    | callback => exact holds_encoder_videoRpc h
    | videoStart => cases hencoder
  | markVideo caller pairing =>
    cases caller with
    | callback =>
      -- a config that was published for an older pairing must not be marked
      obtain rfl : pairing = n.pairings := htimely
      exact holds_encoder_markVideo h
    | videoStart => cases hencoder
  -- likewise for the audio, whose mark needs the same pairing
  | audioRpc caller =>
    cases caller with
    | callback => exact holds_encoder_audioRpc h
    | videoStart => cases hencoder
  | markAudio caller pairing =>
    cases caller with
    | callback =>
      obtain rfl : pairing = n.pairings := htimely
      exact holds_encoder_markAudio h
    | videoStart => cases hencoder
  | receiveOnlyAudio caller =>
    cases caller with
    | callback => exact holds_encoder_receiveOnlyAudio h
    | videoStart => cases hencoder
  | storeRunning caller =>
    cases caller with
    | callback => exact holds_encoder_storeRunning h htimely
    | videoStart => cases hencoder
  | _ => first | cases hencoder | exact absurd rfl hquiet

end MainNode

namespace Threads

open MainNode

/-- Every thread does what it does at its place in time. -/
def Timely (s : Threads) (a : Turn × Replies) : Prop :=
  match a.1 with
  | .executor => s.node.ExecutorTimely s.executor
  | .encoder => s.node.EncoderTimely s.executor s.encoder
  | _ => True

def Holds (s : Threads) : Prop := s.node.publication.Holds s.executor s.encoder

/-- `Running` means published: outside a teardown the running state has a paired peer, a
running video, and the configs published in this pairing. -/
def RunningPublished (s : Threads) : Prop :=
  s.node.session_teardown_in_progress = false → s.node.state = .running →
    s.node.paired_peer_session_id ≠ [] ∧ s.node.video.running = true ∧
      s.node.video_published = true ∧
      (s.node.publishesAudio = true → s.node.audio_published = true)

/-- What the invariant says of a node in `Running`. -/
theorem Holds.runningPublished {s : Threads} (h : s.Holds) : s.RunningPublished := by
  intro hidle hstate
  have hpaired : s.node.publication.paired = true :=
    h.sound.active hidle ((congrArg State.active hstate).trans rfl)
  obtain ⟨hvideo, hsent, haudio⟩ := h.sound.running hidle hstate
  refine ⟨?_, hvideo, h.sound.video hpaired hsent, fun hpublishes => ?_⟩
  · simpa [publication] using hpaired
  · exact h.sound.audio hpaired hpublishes (haudio hpublishes)

theorem Holds.replied {s : Threads} (h : s.Holds) (replies : Replies) :
    Publication.Holds (publication { s.node with replies }) s.executor s.encoder := h

/-- The conditions do not look at the answers. -/
theorem executorTimely_replies {n : MainNode} {pc : Pc} (h : n.ExecutorTimely pc)
    (replies : Replies) : ExecutorTimely { n with replies } pc := by
  cases pc with
  | videoStop reason => cases reason <;> exact h
  | _ => exact h

theorem encoderTimely_replies {n : MainNode} {pc encoder : Pc} (h : n.EncoderTimely pc encoder)
    (replies : Replies) : EncoderTimely { n with replies } pc encoder := by
  cases encoder <;> exact h

/-- Whether the executor waits in the join is its place. -/
theorem joins_iff {s : Threads} :
    s.joins = true ↔ ∃ reason, s.executor = .joinEncoder reason := by
  unfold joins
  split
  · rename_i reason hjoin
    exact iff_of_true rfl ⟨reason, hjoin⟩
  · rename_i hnot
    exact iff_of_false nofun fun ⟨reason, hjoin⟩ => hnot reason hjoin

/-- A timely step keeps the invariant. -/
theorem holds_step {s s' : Threads} {a : Turn × Replies} (h : s.Holds) (htimely : s.Timely a)
    (hstep : s.step a = some s') : s'.Holds := by
  obtain ⟨turn, replies⟩ := a
  have h := h.replied replies
  cases turn with
  | begin event =>
    obtain ⟨⟨hidle, hforeground⟩, hdispatch⟩ := Option.ite_none_right_eq_some.mp hstep
    obtain ⟨c, hc, rfl⟩ := Option.map_eq_some_iff.mp hdispatch
    rw [hidle] at h
    exact holds_dispatch h hforeground hc
  | executor =>
    obtain ⟨hready, hs'⟩ := Option.ite_none_left_eq_some.mp hstep
    cases hs'
    refine holds_executor h (fun reason hpc => ?_) (executorTimely_replies htimely replies)
    -- a join is left only when the encoder thread has ended
    have hwaits := (not_or.mp hready).2
    simpa [waits, joins, hpc] using hwaits
  | encoder =>
    obtain ⟨hrunning, hs'⟩ := Option.ite_none_left_eq_some.mp hstep
    cases hs'
    exact holds_encoder h hrunning (encoderTimely_replies htimely replies)
  | capture =>
    obtain ⟨⟨hidle, hvideo⟩, hs'⟩ := Option.ite_none_right_eq_some.mp hstep
    cases hs'
    -- the capture starts the thread in a place that relies on nothing
    refine ⟨h.sound, h.executor, trivial, fun _ => ?_⟩
    rcases (Bool.or_eq_true _ _).mp hvideo with hvideo | hjoins
    · exact .inl hvideo
    · exact .inr (joins_iff.mp hjoins)
  | background event =>
    obtain ⟨hevent, hhandle⟩ := Option.ite_none_left_eq_some.mp hstep
    obtain ⟨m, hm, rfl⟩ := Option.map_eq_some_iff.mp hhandle
    simp only [Bool.or_eq_true, decide_eq_true_eq, not_or, Bool.not_eq_true] at hevent
    have hsame := publication_background _ hevent.1 hevent.2 hm
    change m.publication.Holds s.executor s.encoder
    rw [hsame]
    exact h

/-- Nothing is published before the first event. -/
theorem holds_construct (config : Config) (response : Option StdString) (replies : Replies) :
    (construct config response replies).Holds := by
  have hinit : Publication.Holds (publication { config, replies }) .idle .idle := by
    -- a node that was just made has no peer and no mark
    refine ⟨⟨fun _ hsent => ?_, fun hpaired => ?_, fun _ hactive => ?_, fun _ hstate => ?_⟩, rfl,
      trivial, fun hidle => absurd rfl hidle⟩
    · cases hsent
    · cases hpaired
    · cases hactive
    · cases hstate
  unfold Holds construct MainNode.construct grpcStart
  simp only
  -- with an identity the constructor registers, which leaves the pairing alone
  split
  · exact hinit
  · have hregister := holds_unpairs hinit (unpairs_tryRegister { config, replies } response)
    split
    · exact hregister
    · exact hregister

/-- In a run of timely steps `Running` means published. -/
theorem running_published (config : Config) (response : Option StdString) (replies : Replies)
    (turns : List (Turn × Replies)) (s : Threads)
    (htimely : StepsMeet step Timely (construct config response replies) turns)
    (hrun : runSteps step (construct config response replies) turns = some s) :
    s.RunningPublished :=
  (guarded_invariant (fun _ _ _ h htimely hstep => holds_step h htimely hstep)
    (holds_construct config response replies) htimely hrun).runningPublished

/-- The node registers and pairs with `p`; the encoder thread captures its parameter sets
and is about to publish them. -/
def untilVideoConfig : List (Turn × Replies) :=
  let peer : PeerInfo := { session_id := ['p'], device_type_code := [] }
  [(.background .handshakeAck, {}), (.begin .handshakeTimer, {}),
    (.background (.streamMessage (.pair ⟨.accept, some peer⟩)), {}),
    (.begin .sessionWorkTimer, {}), (.executor, {}), (.executor, {}),
    (.executor, { outcomes := [true, false] }), (.executor, {}), (.executor, {}), (.executor, {}),
    (.capture, {}), (.encoder, {}), (.encoder, {}), (.encoder, {}), (.encoder, {})]

/-- The encoder thread publishes, stores `Running` and returns. -/
def encoderPublishes : List (Turn × Replies) :=
  [(.encoder, { outcomes := [true] }), (.encoder, {}), (.encoder, {}), (.encoder, {}),
    (.encoder, {}), (.encoder, {}), (.encoder, {})]

/-- The encoder thread publishes the video config and stores `Running`. -/
theorem running_published_encoder :
    ∃ s, runSteps step (construct {} (some ['s']) { outcomes := [true, true] })
      (untilVideoConfig ++ encoderPublishes) = some s ∧ s.node.state = .running ∧
        s.RunningPublished := by
  refine ⟨_, rfl, rfl, ?_⟩
  refine running_published {} (some ['s']) { outcomes := [true, true] }
    (untilVideoConfig ++ encoderPublishes) _ ?_ rfl
  iterate 4 refine StepsMeet.cons rfl trivial ?_
  -- the peer is stored
  refine StepsMeet.cons rfl ⟨List.cons_ne_nil _ _, rfl, fun h => by cases h⟩ ?_
  -- no step up to the mark has a condition
  iterate 11 refine StepsMeet.cons rfl trivial ?_
  -- the mark is of the pairing that is current
  refine StepsMeet.cons rfl rfl ?_
  iterate 2 refine StepsMeet.cons rfl trivial ?_
  -- `Running` is stored over the paired node
  refine StepsMeet.cons rfl ⟨List.cons_ne_nil _ _, rfl⟩ ?_
  iterate 2 refine StepsMeet.cons rfl trivial ?_
  trivial

/-- The server ends the session: the teardown up to the stopped video. -/
def teardownBegins : List (Turn × Replies) :=
  [(.begin (.heartbeatTimer .sessionInvalid), {}), (.executor, {}), (.executor, {}),
    (.executor, {}), (.executor, {})]

/-- The rest of it, once the encoder thread has ended. -/
def teardownEnds : List (Turn × Replies) :=
  [(.executor, {}), (.executor, {}), (.executor, {}), (.executor, {}), (.executor, {}),
    (.executor, {})]

/-- The teardown stores `Connecting`, the encoder thread stores `Running` over it, and the
node stays in `Running` without a peer. -/
theorem encoder_stores_running_after_teardown :
    ¬ ∀ config response replies turns s,
      runSteps step (construct config response replies) turns = some s → s.RunningPublished := by
  intro hall
  have hpublished := hall {} (some ['s']) { outcomes := [true, true] }
    (untilVideoConfig ++ teardownBegins ++ encoderPublishes ++ teardownEnds) _ rfl rfl rfl
  exact hpublished.1 rfl

end Threads

end TeleopBridge.Node
