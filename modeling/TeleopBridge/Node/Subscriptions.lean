import TeleopBridge.Node.SubscriptionThread

/-!
# Subscriptions Belong to the Pairing

The callback compares the peer again before it stores what its RPCs returned. That tells one
peer from another, but not one pairing from the next with the same peer.

## Key Results

- `subscriptions_current`: what is stored belongs to the current pairing exactly when no
  `PairEvent` was accepted between an RPC and the commit that rests on it.
-/

namespace TeleopBridge.Node

open TeleopBridge.Support

/-- The part of the node the callback works on. -/
structure Receiving where
  config : Config
  paired_peer_session_id : StdString
  peer_streams_subscribed : Bool
  peer_subscribed_prefixes : List ℕ
  remote_config_ready : Bool
  pairings : ℕ
  deriving DecidableEq, Repr

namespace MainNode

variable {n m : MainNode}

def receiving (n : MainNode) : Receiving where
  config := n.config
  paired_peer_session_id := n.paired_peer_session_id
  peer_streams_subscribed := n.peer_streams_subscribed
  peer_subscribed_prefixes := n.peer_subscribed_prefixes
  remote_config_ready := n.audio.remote_config_ready
  pairings := n.pairings

/-- The pose streams or the remote audio are wanted. -/
def WantsPeer (n : MainNode) : Prop :=
  (n.config.subscribe_vr_pose_flag || n.wantsRemoteAudio) = true

/-- What is wanted of a peer is configured. -/
theorem WantsPeer.of_config (h : n.WantsPeer) (hconfig : m.config = n.config) : m.WantsPeer := by
  unfold WantsPeer wantsRemoteAudio at h ⊢
  rw [hconfig]
  exact h

/-! ## The negotiation -/

theorem receiving_rpc : n.rpc.2.receiving = n.receiving := by
  unfold rpc
  split <;> rfl

/-- Publishing the own video receives nothing. -/
theorem receiving_publishVideoConfig : n.publishVideoConfig.2.receiving = n.receiving := by
  unfold publishVideoConfig
  simp only
  split
  -- sent already, no parameter sets yet, and the two answers to the RPC
  · rfl
  split
  · rfl
  split
  · exact receiving_rpc
  · exact receiving_rpc

/-- Publishing the own audio receives nothing. -/
theorem receiving_publishAudioIfNeeded : n.publishAudioIfNeeded.2.receiving = n.receiving := by
  unfold publishAudioIfNeeded publishAudioConfig
  simp only
  split
  · split
    · rfl
    split
    · rfl
    split
    · exact receiving_rpc
    · exact receiving_rpc
  · rfl

/-- Starting the audio leaves the fetched config alone. -/
theorem receiving_audioStart : n.audioStart.receiving = n.receiving := by
  unfold audioStart
  repeat' split
  all_goals rfl

theorem receiving_markReceiveOnlyAudio : n.markReceiveOnlyAudio.receiving = n.receiving := by
  unfold markReceiveOnlyAudio
  split <;> rfl

/-- Wanted streams are left to the callback. -/
theorem receiving_receivePeerStreams (hwanted : n.WantsPeer) :
    n.receivePeerStreams.receiving = n.receiving := by
  unfold receivePeerStreams
  have htest : (n.config.subscribe_vr_pose_flag || n.wantsRemoteAudio) = true := hwanted
  rw [if_pos htest]
  rfl

/-- Entering `Running` asks for the streams of a peer that is wanted anyway. -/
theorem receiving_enterRunning (hwanted : n.WantsPeer) :
    n.enterRunning.receiving = n.receiving := by
  have hstarted : n.markReceiveOnlyAudio.storeRunning.audioStart.receiving = n.receiving := by
    rw [receiving_audioStart]
    exact receiving_markReceiveOnlyAudio
  have hwanted' : n.markReceiveOnlyAudio.storeRunning.audioStart.WantsPeer :=
    hwanted.of_config (congrArg Receiving.config hstarted)
  unfold enterRunning
  rw [receiving_receivePeerStreams hwanted', hstarted]

/-- The negotiation speaks of the own streams only. -/
theorem receiving_tryAdvanceNegotiation (hwanted : n.WantsPeer) :
    n.tryAdvanceNegotiation.receiving = n.receiving := by
  have hvideo := receiving_publishVideoConfig (n := n)
  have haudio := receiving_publishAudioIfNeeded (n := n.publishVideoConfig.2)
  rw [hvideo] at haudio
  have hwanted' : n.publishVideoConfig.2.publishAudioIfNeeded.2.WantsPeer :=
    hwanted.of_config (congrArg Receiving.config haudio)
  unfold tryAdvanceNegotiation
  simp only
  split
  -- the four ways out in the order of the source
  · rfl
  split
  · exact hvideo
  split
  · exact haudio
  · rw [receiving_enterRunning hwanted', haudio]

/-- Handing on the parameter sets leads to the negotiation at most. -/
theorem receiving_emitCachedParameterSetsIfReady (hwanted : n.WantsPeer) :
    n.emitCachedParameterSetsIfReady.receiving = n.receiving := by
  unfold emitCachedParameterSetsIfReady onSpsPpsCaptured
  split
  · rfl
  split
  · rfl
  split
  · rw [receiving_tryAdvanceNegotiation]
    · rfl
    · exact hwanted
  · rfl

/-- A start of the video receives nothing. -/
theorem receiving_videoStart (hwanted : n.WantsPeer) :
    n.videoStart.2.receiving = n.receiving := by
  unfold videoStart
  simp only
  split
  · exact receiving_emitCachedParameterSetsIfReady hwanted
  split
  · rfl
  · rw [receiving_emitCachedParameterSetsIfReady]
    · rfl
    · exact hwanted

theorem receiving_advanceIfReady (hwanted : n.WantsPeer) :
    n.advanceIfReady.receiving = n.receiving := by
  unfold advanceIfReady
  split
  · exact receiving_tryAdvanceNegotiation hwanted
  · rfl

/-- Nor does the negotiation behind it. -/
theorem receiving_startVideoAndNegotiate (hwanted : n.WantsPeer) :
    n.startVideoAndNegotiate.receiving = n.receiving := by
  have hstart := receiving_videoStart hwanted
  have hwanted' : n.videoStart.2.WantsPeer :=
    hwanted.of_config (congrArg Receiving.config hstart)
  unfold startVideoAndNegotiate
  simp only
  split
  -- the video runs, its start fails, and it succeeds
  · rw [receiving_advanceIfReady]
    · rfl
    · exact hwanted
  split
  · exact hstart
  · rw [receiving_advanceIfReady]
    · exact hstart
    · exact hwanted'

/-- The retry timer restarts the video or tries again. -/
theorem receiving_negotiationRetryTimerCallback (hwanted : n.WantsPeer) :
    n.negotiationRetryTimerCallback.receiving = n.receiving := by
  unfold negotiationRetryTimerCallback
  simp only
  split
  -- the branches of the source in their order
  · rfl
  split
  · exact receiving_startVideoAndNegotiate hwanted
  split
  · exact receiving_tryAdvanceNegotiation hwanted
  split
  · exact receiving_tryAdvanceNegotiation hwanted
  split
  · rw [receiving_startVideoAndNegotiate]
    · rfl
    · exact hwanted
  split
  · rw [receiving_tryAdvanceNegotiation]
    · rfl
    · exact hwanted
  · exact receiving_tryAdvanceNegotiation hwanted

/-! ## The events -/

/-- The event leaves nothing stored, or nothing that was not stored before in this pairing. -/
inductive Receives (r r' : Receiving) : Prop
  | cleared (hsubscribed : r'.peer_streams_subscribed = false)
      (hprefixes : r'.peer_subscribed_prefixes = [])
      (hready : r'.remote_config_ready = false)
  | kept (hpairings : r'.pairings = r.pairings)
      (hpaired : r'.paired_peer_session_id = r.paired_peer_session_id ∨
        r'.paired_peer_session_id = [])
      (hsubscribed : r'.peer_streams_subscribed = true → r.peer_streams_subscribed = true)
      (hprefixes : r'.peer_subscribed_prefixes ≠ [] → r.peer_subscribed_prefixes ≠ [])
      (hready : r'.remote_config_ready = true → r.remote_config_ready = true)

theorem Receives.of_eq {r r' : Receiving} (h : r' = r) : Receives r r' := by
  rw [h]
  exact .kept rfl (.inl rfl) id id id

/-- A new pairing forgets what the last peer was asked for. -/
theorem receives_beginNegotiation (hwanted : n.WantsPeer) (peer : StdString)
    (registration : ℕ) : Receives n.receiving (n.beginNegotiation peer registration).receiving := by
  have hwanted' : (n.storePairing peer registration).WantsPeer := hwanted
  have hsame : (n.beginNegotiation peer registration).receiving =
      (n.storePairing peer registration).receiving := receiving_startVideoAndNegotiate hwanted'
  rw [hsame]
  exact .cleared rfl rfl rfl

/-- A reject forgets the peer it came from, and no other. -/
theorem receives_handlePairReject (peer : PeerInfo) :
    Receives n.receiving (n.handlePairReject peer).receiving := by
  have hsame : (n.handlePairReject peer).receiving =
      (n.forgetPeer peer.session_id).receiving := by
    unfold handlePairReject
    simp only
    split <;> rfl
  rw [hsame]
  unfold forgetPeer
  split
  · refine .kept rfl (.inr rfl) (fun hset => ?_) (fun hset => absurd rfl hset) id
    cases hset
  · exact .of_eq rfl

theorem SetupEnds.receiving (hm : n.SetupEnds m) : m.receiving = n.receiving := by
  cases hm <;> rfl

/-- Of the session work only a pairing and the end of one touch what is received. -/
theorem WorkMove.receives {work : SessionWork} (hwanted : n.WantsPeer)
    (hm : n.WorkMove work m) : Receives n.receiving m.receiving := by
  cases hm with
  | skip => exact .of_eq rfl
  | telemetry => exact .of_eq rfl
  | udpHello => exact .of_eq rfl
  | accept peer registration => exact receives_beginNegotiation hwanted _ _
  | acceptRequest peer registration =>
    obtain ⟨replies, hrpc⟩ := n.rpc_footprint
    rw [hrpc]
    exact receives_beginNegotiation (n := { n with replies }) hwanted _ _
  | reject peer registration => exact receives_handlePairReject peer
  | unpair | peerLost | streamEnd | streamEndPairs => exact .cleared rfl rfl rfl

/-- No event but the callback's own timer stores anything new. -/
theorem Move.receives {e : Event} (hwanted : n.WantsPeer) (hm : n.Move e m)
    (hother : e ≠ .peerSubscriptionRetryTimer) : Receives n.receiving m.receiving := by
  cases hm with
  | receive => exact absurd rfl hother
  -- a new registration forgets the subscriptions, and the peer stays
  | register session_id hunset hends =>
    have hregistered : (n.registeredAs session_id).receiving =
        { n.receiving with peer_streams_subscribed := false, peer_subscribed_prefixes := [] } :=
      rfl
    rw [SetupEnds.receiving hends, hregistered]
    refine .kept rfl (.inl rfl) (fun hset => ?_) (fun hset => absurd rfl hset) id
    cases hset
  | lose => exact .cleared rfl rfl rfl
  | setup hends => exact .of_eq hends.receiving
  | negotiationRetry => exact .of_eq (receiving_negotiationRetryTimerCallback hwanted)
  | parameterSets =>
    have hwanted' : (n.setVideo { n.video with parameter_sets_ready := true }).WantsPeer :=
      hwanted
    exact .of_eq (receiving_emitCachedParameterSetsIfReady hwanted')
  | work work rest hqueue hm =>
    exact WorkMove.receives (n := { n with session_work_queue := rest }) hwanted hm
  | _ => exact .of_eq rfl

end MainNode

namespace SubscriptionThread

open MainNode

variable {s t : SubscriptionThread} {a : SubscriptionAction}

/-- The RPC was issued for the paired peer, in the current pairing. -/
def Current (s : SubscriptionThread) (rpc : Option Issued) : Prop :=
  rpc = some (s.issue s.node.paired_peer_session_id)

/-- What is stored of the peer was asked of it in the current pairing. -/
structure Belongs (s : SubscriptionThread) : Prop where
  manifest : s.node.paired_peer_session_id ≠ [] →
    s.node.peer_streams_subscribed = true ∨ s.node.peer_subscribed_prefixes ≠ [] →
      s.Current s.manifest_rpc
  subscribe : s.node.paired_peer_session_id ≠ [] → s.node.peer_subscribed_prefixes ≠ [] →
    s.Current s.subscribe_rpc
  config : s.node.paired_peer_session_id ≠ [] → s.node.audio.remote_config_ready = true →
    s.Current s.config_rpc

/-- A commit that finds its peer still paired finds it in the pairing of the RPCs it rests
on. -/
def SamePairing (s : SubscriptionThread) : SubscriptionAction → Prop
  | .event _ _ => True
  | .callback _ =>
    match s.pc with
    | .commit peer prefixes complete manifest subscribe =>
      s.node.paired_peer_session_id = peer →
        (complete = true ∨ prefixes ≠ [] → manifest.pairing = s.node.pairings) ∧
          (prefixes ≠ [] → ∀ issued, subscribe = some issued →
            issued.pairing = s.node.pairings)
    | .apply _ peer _ config =>
      s.node.paired_peer_session_id = peer → config.pairing = s.node.pairings
    | _ => True

/-! ## What holds in every run -/

/-- The RPCs the callback holds were issued for the peer of its snapshot. -/
def PcAsked : SubscriptionPc → Prop
  | .manifest peer subscribed earlier =>
    peer ≠ [] ∧ (subscribed ≠ [] → ∃ issued, earlier = some issued ∧ issued.peer = peer)
  | .subscribe peer _ _ manifest => peer ≠ [] ∧ manifest.peer = peer
  | .commit peer prefixes _ manifest subscribe =>
    peer ≠ [] ∧ manifest.peer = peer ∧
      (prefixes ≠ [] → ∃ issued, subscribe = some issued ∧ issued.peer = peer)
  | .fetch _ peer => peer ≠ []
  | .apply _ peer _ config => peer ≠ [] ∧ config.peer = peer
  | _ => True

structure Asked (s : SubscriptionThread) : Prop where
  idle : s.node.session_teardown_in_progress = false
  wanted : s.node.WantsPeer
  pc : PcAsked s.pc
  subscribe : s.node.paired_peer_session_id ≠ [] → s.node.peer_subscribed_prefixes ≠ [] →
    ∃ issued, s.subscribe_rpc = some issued ∧ issued.peer = s.node.paired_peer_session_id

/-- An event is a step of the node. -/
theorem step_event {e : Event} {replies : Replies} (h : s.step (.event e replies) = some t) :
    e ≠ .peerSubscriptionRetryTimer ∧ s.node.step (e, replies) = some t.node ∧
      t = { s with node := t.node } := by
  obtain ⟨hother, h⟩ := Option.ite_none_left_eq_some.mp h
  obtain ⟨m, hm, rfl⟩ := Option.map_eq_some_iff.mp h
  exact ⟨hother, hm, rfl⟩

/-- So it keeps what is received, or forgets it. -/
theorem event_receives {e : Event} {replies : Replies} (hs : s.Asked)
    (h : s.step (.event e replies) = some t) :
    Receives s.node.receiving t.node.receiving := by
  obtain ⟨hother, hm, -⟩ := step_event h
  have hmove : Move { s.node with replies } e t.node := step_moves hs.idle hm
  exact Move.receives (n := { s.node with replies }) hs.wanted hmove hother

/-- Whatever the events do, what is stored was asked of the peer that is paired. -/
theorem Asked.event {e : Event} {replies : Replies} (hs : s.Asked)
    (hstep : s.step (.event e replies) = some t) : t.Asked := by
  obtain ⟨-, hm, ht⟩ := step_event hstep
  have hmove : Move { s.node with replies } e t.node := step_moves hs.idle hm
  have hconfig : t.node.config = s.node.config := hmove.config
  have hrpc : t.subscribe_rpc = s.subscribe_rpc := by rw [ht]
  have hpc : t.pc = s.pc := by rw [ht]
  refine ⟨idle_step hs.idle hm, hs.wanted.of_config hconfig, hpc ▸ hs.pc, ?_⟩
  intro hpeer hset
  -- prefixes that are kept were asked of a peer that is kept
  cases event_receives hs hstep with
  | cleared _ hprefixes => exact absurd hprefixes hset
  | kept _ hpaired _ hprefixes =>
    have hsame : t.node.paired_peer_session_id = s.node.paired_peer_session_id :=
      hpaired.resolve_right hpeer
    rw [hsame] at hpeer ⊢
    rw [hrpc]
    exact hs.subscribe hpeer (hprefixes hset)

/-- Nor do events make anything stored belong to another pairing. -/
theorem Belongs.event {e : Event} {replies : Replies} (hs : s.Asked) (h : s.Belongs)
    (hstep : s.step (.event e replies) = some t) : t.Belongs := by
  obtain ⟨-, -, ht⟩ := step_event hstep
  have hmanifest : t.manifest_rpc = s.manifest_rpc := by rw [ht]
  have hsubscribe : t.subscribe_rpc = s.subscribe_rpc := by rw [ht]
  have hfetched : t.config_rpc = s.config_rpc := by rw [ht]
  cases event_receives hs hstep with
  -- nothing is stored any more
  | cleared hsubscribed hprefixes hready =>
    have hsubscribed' : t.node.peer_streams_subscribed = false := hsubscribed
    have hready' : t.node.audio.remote_config_ready = false := hready
    refine ⟨fun _ hset => ?_, fun _ hset => absurd hprefixes hset, fun _ hset => ?_⟩
    · rcases hset with hset | hset
      · cases hsubscribed'.symm.trans hset
      · exact absurd hprefixes hset
    · cases hready'.symm.trans hset
  | kept hpairings hpaired hsubscribed hprefixes hready =>
    -- peer and pairing are the same, so that an RPC of this pairing is still one
    have hcurrent (rpc : Option Issued) (hpeer : t.node.paired_peer_session_id ≠ []) :
        t.Current rpc ↔ s.Current rpc := by
      have hsame : t.node.paired_peer_session_id = s.node.paired_peer_session_id :=
        hpaired.resolve_right hpeer
      have hcount : t.node.pairings = s.node.pairings := hpairings
      rw [Current, Current, issue, issue, hsame, hcount]
    have hstill (hpeer : t.node.paired_peer_session_id ≠ []) :
        s.node.paired_peer_session_id ≠ [] := by
      have hsame : t.node.paired_peer_session_id = s.node.paired_peer_session_id :=
        hpaired.resolve_right hpeer
      rwa [← hsame]
    refine ⟨fun hpeer hset => ?_, fun hpeer hset => ?_, fun hpeer hset => ?_⟩
    · rw [hmanifest, hcurrent _ hpeer]
      exact h.manifest (hstill hpeer) (hset.imp hsubscribed hprefixes)
    · rw [hsubscribe, hcurrent _ hpeer]
      exact h.subscribe (hstill hpeer) (hprefixes hset)
    · rw [hfetched, hcurrent _ hpeer]
      exact h.config (hstill hpeer) (hready hset)

/-! ## The steps of the callback -/

/-- A step that stores nothing of the peer. -/
structure Quiet (s t : SubscriptionThread) : Prop where
  receiving : t.node.receiving = s.node.receiving
  idle : t.node.session_teardown_in_progress = s.node.session_teardown_in_progress
  manifest : t.manifest_rpc = s.manifest_rpc
  subscribe : t.subscribe_rpc = s.subscribe_rpc
  config : t.config_rpc = s.config_rpc

theorem quiet_goto (pc : SubscriptionPc) : Quiet s (s.goto pc) := ⟨rfl, rfl, rfl, rfl, rfl⟩

theorem quiet_stop :
    Quiet s { s with node := s.node.stopPeerSubscriptionRetryTimer, pc := .idle } :=
  ⟨rfl, rfl, rfl, rfl, rfl⟩

/-- An RPC that is not recorded yet changes nothing. -/
theorem quiet_rpc (pc : SubscriptionPc) : Quiet s { s with node := s.node.rpc.2, pc } := by
  refine ⟨receiving_rpc, ?_, rfl, rfl, rfl⟩
  obtain ⟨replies, hrpc⟩ := s.node.rpc_footprint
  rw [hrpc]

/-- A quiet step keeps `Asked`, if its next place does. -/
theorem Quiet.asked (h : Quiet s t) (hs : s.Asked) (hpc : PcAsked t.pc) : t.Asked := by
  have hpaired : t.node.paired_peer_session_id = s.node.paired_peer_session_id :=
    congrArg Receiving.paired_peer_session_id h.receiving
  have hprefixes : t.node.peer_subscribed_prefixes = s.node.peer_subscribed_prefixes :=
    congrArg Receiving.peer_subscribed_prefixes h.receiving
  have hconfig : t.node.config = s.node.config := congrArg Receiving.config h.receiving
  refine ⟨h.idle.trans hs.idle, hs.wanted.of_config hconfig, hpc, ?_⟩
  rw [hpaired, hprefixes, h.subscribe]
  exact hs.subscribe

/-- A quiet step leaves what is stored in its pairing. -/
theorem Quiet.belongs (h : Quiet s t) (hs : s.Belongs) : t.Belongs := by
  have hpaired : t.node.paired_peer_session_id = s.node.paired_peer_session_id :=
    congrArg Receiving.paired_peer_session_id h.receiving
  have hprefixes : t.node.peer_subscribed_prefixes = s.node.peer_subscribed_prefixes :=
    congrArg Receiving.peer_subscribed_prefixes h.receiving
  have hsubscribed : t.node.peer_streams_subscribed = s.node.peer_streams_subscribed :=
    congrArg Receiving.peer_streams_subscribed h.receiving
  have hready : t.node.audio.remote_config_ready = s.node.audio.remote_config_ready :=
    congrArg Receiving.remote_config_ready h.receiving
  have hpairings : t.node.pairings = s.node.pairings := congrArg Receiving.pairings h.receiving
  have hcurrent (rpc : Option Issued) : t.Current rpc = s.Current rpc := by
    rw [Current, Current, issue, issue, hpaired, hpairings]
  constructor
  · rw [hpaired, hsubscribed, hprefixes, h.manifest, hcurrent]
    exact hs.manifest
  · rw [hpaired, hprefixes, h.subscribe, hcurrent]
    exact hs.subscribe
  · rw [hpaired, hready, h.config, hcurrent]
    exact hs.config

/-- Outside its commits the callback stores nothing. -/
theorem callback_quiet (hs : s.Asked) (hstep : s.callbackStep = some t)
    (hcommit : ∀ peer prefixes complete manifest subscribe,
      s.pc ≠ .commit peer prefixes complete manifest subscribe)
    (happly : ∀ ready peer fetched config, s.pc ≠ .apply ready peer fetched config) :
    Quiet s t ∧ PcAsked t.pc := by
  have hpc := hs.pc
  unfold callbackStep at hstep
  cases hphase : s.pc with
  | idle =>
    rw [hphase] at hstep
    obtain ⟨-, ht⟩ := Option.ite_none_right_eq_some.mp hstep
    rw [← Option.some.inj ht, begin]
    split
    · exact ⟨quiet_goto _, trivial⟩
    · exact ⟨quiet_stop, trivial⟩
  | active =>
    rw [hphase] at hstep
    rw [← Option.some.inj hstep, checkPeer]
    split
    · exact ⟨quiet_stop, trivial⟩
    · exact ⟨quiet_goto _, trivial⟩
  | subscriptions =>
    rw [hphase] at hstep
    rw [← Option.some.inj hstep, snapshotSubscriptions]
    split
    · exact ⟨quiet_goto _, trivial⟩
    split
    · exact ⟨quiet_goto _, trivial⟩
    rename_i hpeer
    split
    · rename_i hunwanted
      -- the thread only runs while something of the peer is wanted
      have hwanted : (s.node.config.subscribe_vr_pose_flag || s.node.wantsRemoteAudio) = true :=
        hs.wanted
      rw [← Bool.not_or, hwanted] at hunwanted
      cases hunwanted
    · exact ⟨quiet_goto _, hpeer, hs.subscribe hpeer⟩
  | manifest peer subscribed earlier =>
    rw [hphase] at hstep hpc
    obtain ⟨hpeer, hearlier⟩ := hpc
    rw [← Option.some.inj hstep, runManifest]
    split
    · exact ⟨quiet_rpc _, trivial⟩
    split
    · exact ⟨quiet_rpc _, hpeer, rfl⟩
    · rename_i hsame
      -- the prefixes are those of an earlier round, and so is what was asked of them
      refine ⟨quiet_rpc _, hpeer, rfl, fun hset => ?_⟩
      have hsubscribed : s.node.rpc.2.availableRequests
          (getStreamPrefixes s.node.rpc.2.replies.manifest) = subscribed := by
        by_contra hchanged
        exact hsame (by simp [hchanged, hset])
      exact hearlier (hsubscribed ▸ hset)
  | subscribe peer prefixes complete manifest =>
    rw [hphase] at hstep hpc
    obtain ⟨hpeer, hmanifest⟩ := hpc
    rw [← Option.some.inj hstep, runSubscribe]
    split
    · exact ⟨quiet_rpc _, trivial⟩
    · exact ⟨quiet_rpc _, hpeer, hmanifest, fun _ => ⟨_, rfl, rfl⟩⟩
  -- the two phases that store are left to their own lemmas
  | commit peer prefixes complete manifest subscribe => exact absurd hphase (hcommit _ _ _ _ _)
  | audio ready =>
    rw [hphase] at hstep
    rw [← Option.some.inj hstep, snapshotAudio]
    split
    · exact ⟨quiet_goto _, trivial⟩
    split
    · exact ⟨quiet_goto _, trivial⟩
    rename_i hpeer
    split
    · exact ⟨quiet_goto _, trivial⟩
    · exact ⟨quiet_goto _, hpeer⟩
  -- the RPC is recorded for the peer that was read before it
  | fetch ready peer =>
    rw [hphase] at hstep hpc
    rw [← Option.some.inj hstep, runFetch]
    split
    · exact ⟨quiet_rpc _, trivial⟩
    split
    · exact ⟨quiet_rpc _, trivial⟩
    · exact ⟨quiet_rpc _, hpc, rfl⟩
  | apply ready peer fetched config => exact absurd hphase (happly _ _ _ _)
  | finish done =>
    rw [hphase] at hstep
    rw [← Option.some.inj hstep, runFinish]
    split
    · exact ⟨quiet_stop, trivial⟩
    · exact ⟨quiet_goto _, trivial⟩

/-- An RPC to the paired peer is current when it was issued in the current pairing. -/
theorem current_some {issued : Issued} (hpeer : issued.peer = s.node.paired_peer_session_id) :
    s.Current (some issued) ↔ issued.pairing = s.node.pairings := by
  unfold Current issue
  constructor
  · intro h
    cases h
    rfl
  · intro h
    rw [← hpeer, ← h]

/-- Of an RPC to the paired peer only the pairing is in question. -/
theorem current_asked {rpc : Option Issued}
    (hasked : ∃ issued, rpc = some issued ∧ issued.peer = s.node.paired_peer_session_id) :
    s.Current rpc ↔ ∀ issued, rpc = some issued → issued.pairing = s.node.pairings := by
  obtain ⟨issued, rfl, hpeer⟩ := hasked
  rw [current_some hpeer]
  constructor
  · rintro h other hother
    cases hother
    exact h
  · intro h
    exact h issued rfl

/-- A commit that finds another peer paired stores nothing. -/
theorem quiet_commit {peer : StdString} {prefixes : List ℕ} {complete : Bool}
    {manifest : Issued} {subscribe : Option Issued}
    (hother : s.node.paired_peer_session_id ≠ peer) :
    Quiet s (s.runCommit peer prefixes complete manifest subscribe) := by
  unfold runCommit MainNode.commitSubscriptions
  simp only [if_pos hother, if_neg hother]
  exact ⟨rfl, rfl, rfl, rfl, rfl⟩

/-- A fetch for another peer is dropped. -/
theorem quiet_apply {ready : Bool} {peer : StdString} {fetched : Replies} {config : Issued}
    (hother : s.node.paired_peer_session_id ≠ peer) :
    Quiet s (s.runApply ready peer fetched config) := by
  unfold runApply MainNode.commitRemoteAudio
  simp only [if_pos hother, if_neg hother]
  exact ⟨rfl, rfl, rfl, rfl, rfl⟩

/-- What a commit stores that finds its peer. -/
theorem commit_stores {peer : StdString} {prefixes : List ℕ} {complete : Bool}
    {manifest : Issued} {subscribe : Option Issued} (hsame : s.node.paired_peer_session_id = peer) :
    s.runCommit peer prefixes complete manifest subscribe =
      { s with
        node := { s.node with
          peer_subscribed_prefixes := prefixes
          peer_streams_subscribed := complete }
        pc := .audio complete
        manifest_rpc := some manifest
        subscribe_rpc := subscribe } := by
  unfold runCommit MainNode.commitSubscriptions
  simp only [if_pos hsame, if_neg (not_not.mpr hsame)]

/-- What the commit of the remote audio config stores that finds its peer. -/
theorem apply_stores {ready : Bool} {peer : StdString} {fetched : Replies} {config : Issued}
    (hsame : s.node.paired_peer_session_id = peer) :
    s.runApply ready peer fetched config =
      { s with
        node := MainNode.setAudio { s.node with replies := fetched } { s.node.audio with
          remote_config_ready := true
          remote_config_id := fetched.remote_config_id }
        pc := .finish (ready && true)
        config_rpc := some config } := by
  unfold runApply MainNode.commitRemoteAudio
  simp only [if_pos hsame, if_neg (not_not.mpr hsame)]

/-- Both stores test the peer again, so that what they store was asked of it. -/
theorem Asked.callback (hs : s.Asked) (hstep : s.callbackStep = some t) : t.Asked := by
  have hpc := hs.pc
  cases hphase : s.pc with
  | commit peer prefixes complete manifest subscribe =>
    unfold callbackStep at hstep
    rw [hphase] at hstep hpc
    obtain ⟨hpeer, hmanifest, hsubscribe⟩ := hpc
    rw [← Option.some.inj hstep]
    by_cases hsame : s.node.paired_peer_session_id = peer
    · rw [commit_stores hsame]
      exact ⟨hs.idle, hs.wanted, trivial, fun _ hset => hsame ▸ hsubscribe hset⟩
    · exact (quiet_commit hsame).asked hs trivial
  | apply ready peer fetched config =>
    unfold callbackStep at hstep
    rw [hphase] at hstep
    rw [← Option.some.inj hstep]
    by_cases hsame : s.node.paired_peer_session_id = peer
    · rw [apply_stores hsame]
      exact ⟨hs.idle, hs.wanted, trivial, hs.subscribe⟩
    · exact (quiet_apply hsame).asked hs trivial
  -- every other phase is quiet
  | _ =>
    obtain ⟨hquiet, hpc⟩ := callback_quiet hs hstep (by simp [hphase]) (by simp [hphase])
    exact hquiet.asked hs hpc

/-- A step of the callback keeps the property exactly when a commit meets the condition. -/
theorem callback_belongs (replies : Replies) (hs : s.Asked) (h : s.Belongs)
    (hstep : s.callbackStep = some t) : s.SamePairing (.callback replies) ↔ t.Belongs := by
  have hpc := hs.pc
  unfold SamePairing
  cases hphase : s.pc with
  | commit peer prefixes complete manifest subscribe =>
    unfold callbackStep at hstep
    rw [hphase] at hstep hpc
    obtain ⟨hpeer, hmanifest, hsubscribe⟩ := hpc
    rw [← Option.some.inj hstep]
    by_cases hsame : s.node.paired_peer_session_id = peer
    · rw [commit_stores hsame]
      subst hsame
      constructor
      -- same peer: what is stored belongs to this pairing exactly if its RPCs were made in it
      · intro hcond
        obtain ⟨htimely, hsubscribed⟩ := hcond rfl
        refine ⟨fun _ hset => ?_, fun _ hset => ?_, h.config⟩
        · exact (current_some hmanifest).mpr (htimely hset)
        · exact (current_asked (hsubscribe hset)).mpr (hsubscribed hset)
      · intro hbelongs _
        refine ⟨fun hset => ?_, fun hset => ?_⟩
        · exact (current_some hmanifest).mp (hbelongs.manifest hpeer hset)
        · exact (current_asked (hsubscribe hset)).mp (hbelongs.subscribe hpeer hset)
    · exact ⟨fun _ => (quiet_commit hsame).belongs h, fun _ hfound => absurd hfound hsame⟩
  | apply ready peer fetched config =>
    unfold callbackStep at hstep
    rw [hphase] at hstep hpc
    obtain ⟨hpeer, hconfig⟩ := hpc
    rw [← Option.some.inj hstep]
    by_cases hsame : s.node.paired_peer_session_id = peer
    · rw [apply_stores hsame]
      subst hsame
      constructor
      · intro hcond
        exact ⟨h.manifest, h.subscribe, fun _ _ => (current_some hconfig).mpr (hcond rfl)⟩
      · intro hbelongs _
        exact (current_some hconfig).mp (hbelongs.config hpeer rfl)
    · exact ⟨fun _ => (quiet_apply hsame).belongs h, fun _ hfound => absurd hfound hsame⟩
  -- every other phase is quiet, and has no condition
  | _ =>
    obtain ⟨hquiet, -⟩ := callback_quiet hs hstep (by simp [hphase]) (by simp [hphase])
    exact ⟨fun _ => hquiet.belongs h, fun _ => trivial⟩

/-- Either kind of step keeps `Asked`. -/
theorem Asked.step (hs : s.Asked) (hstep : s.step a = some t) : t.Asked := by
  cases a with
  | event e replies => exact hs.event hstep
  | callback replies =>
    have hs' : Asked { s with node := { s.node with replies } } :=
      ⟨hs.idle, hs.wanted, hs.pc, hs.subscribe⟩
    exact hs'.callback hstep

/-- A step that starts in good order stores what belongs exactly if it meets its condition. -/
theorem belongs_step (hs : s.Asked) (h : s.Belongs) (hstep : s.step a = some t) :
    s.SamePairing a ↔ t.Belongs := by
  cases a with
  | event e replies => exact ⟨fun _ => h.event hs hstep, fun _ => trivial⟩
  | callback replies =>
    have hs' : Asked { s with node := { s.node with replies } } :=
      ⟨hs.idle, hs.wanted, hs.pc, hs.subscribe⟩
    have h' : Belongs { s with node := { s.node with replies } } :=
      ⟨h.manifest, h.subscribe, h.config⟩
    exact callback_belongs (s := { s with node := { s.node with replies } }) replies hs' h'
      hstep

/-! ## Runs -/

theorem construct_unpaired (config : Config) (response : Option StdString) (replies : Replies) :
    (construct config response replies).node.paired_peer_session_id = [] := by
  obtain ⟨-, st, -, hsession⟩ := cleared_construct config response replies
  exact congrArg SessionView.paired_peer_session_id hsession

/-- The constructor has no peer. -/
theorem asked_construct {config : Config}
    (hwanted : config.subscribe_vr_pose_flag = true ∨
      config.audio_enabled = true ∧ config.downlink_enabled = true)
    (response : Option StdString) (replies : Replies) :
    (construct config response replies).Asked where
  idle := (cleared_construct config response replies).1
  wanted := by
    -- no step of the registration touches the configuration
    have hsame : (MainNode.construct config response replies).config = config :=
      moves_construct (P := fun n => n.config = config) rfl
        (fun _ _ _ _ h hm => hm.config.trans h) (fun _ _ h => h) response
    unfold WantsPeer wantsRemoteAudio
    rw [construct, hsame]
    simpa using hwanted
  pc := trivial
  subscribe hpeer := absurd (construct_unpaired config response replies) hpeer

/-- What the node stores of its peer belongs to the current pairing throughout a run exactly
when every commit that finds its peer paired finds the pairing its RPCs were issued in. -/
theorem subscriptions_current (config : Config)
    (hwanted : config.subscribe_vr_pose_flag = true ∨
      config.audio_enabled = true ∧ config.downlink_enabled = true)
    (response : Option StdString) (replies : Replies) (actions : List SubscriptionAction)
    (s : SubscriptionThread)
    (hrun : runSteps step (construct config response replies) actions = some s) :
    StepsMeet step SamePairing (construct config response replies) actions ↔
      ∀ prior u, prior <+: actions →
        runSteps step (construct config response replies) prior = some u → u.Belongs := by
  have hunpaired := construct_unpaired config response replies
  have hstart := asked_construct hwanted response replies
  -- one step in either direction, lifted to runs
  refine stepsMeet_iff (fun _ _ _ h hstep => Asked.step h hstep)
    (fun _ _ _ h hbelongs hstep => belongs_step h hbelongs hstep) hstart ?_ hrun
  exact ⟨fun hpeer => absurd hunpaired hpeer, fun hpeer => absurd hunpaired hpeer,
    fun hpeer => absurd hunpaired hpeer⟩

/-- Pose streams and remote audio are wanted. -/
def wantsStreams : Config := { subscribe_vr_pose_flag := true, audio_enabled := true }

def pairEvent (op : PairOp) : Event :=
  .streamMessage (.pair ⟨op, some { session_id := ['p'], device_type_code := [] }⟩)

/-- `p` pairs, the node starts to run, and the callback subscribes; its commit is next. -/
def subscribes : List SubscriptionAction :=
  [.event .handshakeAck {}, .event .handshakeTimer {}, .event (pairEvent .accept) {},
    .event .sessionWorkTimer { outcomes := [true] },
    .event .parameterSetsCaptured { outcomes := [true, true] },
    .callback {}, .callback {}, .callback {},
    .callback { outcomes := [true], manifest := [2, 4, 9] }, .callback { outcomes := [true] }]

/-- `p` leaves and pairs again. -/
def pairsAgain : List SubscriptionAction :=
  [.event (pairEvent .unpair) {}, .event .sessionWorkTimer {},
    .event (pairEvent .accept) {}, .event .sessionWorkTimer { outcomes := [true] }]

theorem subscriptions_current_committed :
    ∃ s, runSteps step (construct wantsStreams (some ['s']) { outcomes := [true, true] })
        (subscribes ++ [.callback {}]) = some s ∧
      s.node.paired_peer_session_id = ['p'] ∧ s.node.peer_streams_subscribed = true ∧
      s.Belongs := by
  obtain ⟨s, hrun, hpaired, hsubscribed⟩ : ∃ s,
      runSteps step (construct wantsStreams (some ['s']) { outcomes := [true, true] })
        (subscribes ++ [.callback {}]) = some s ∧
      s.node.paired_peer_session_id = ['p'] ∧ s.node.peer_streams_subscribed = true :=
    ⟨_, rfl, rfl, rfl⟩
  have hiff := subscriptions_current wantsStreams (.inl rfl) (some ['s'])
    { outcomes := [true, true] } _ s hrun
  refine ⟨s, hrun, hpaired, hsubscribed, hiff.mp ?_ _ _ List.prefix_rfl hrun⟩
  -- no step before the commit has a condition
  iterate 10 (refine StepsMeet.cons rfl trivial ?_)
  refine StepsMeet.cons rfl ?_ trivial
  -- the commit is of the pairing in which both RPCs were made
  intro _
  refine ⟨fun _ => rfl, fun _ issued hissued => ?_⟩
  cases hissued
  rfl

/-- A commit that finds its peer paired again stores what was asked in the pairing before. -/
theorem subscriptions_outlive_pairing :
    ¬ ∀ config response replies actions s,
      (config.subscribe_vr_pose_flag = true ∧ config.audio_enabled = true ∧
        config.downlink_enabled = true) →
      runSteps step (construct config response replies) actions = some s → s.Belongs := by
  intro hall
  have hbelongs := hall wantsStreams (some ['s']) { outcomes := [true, true] }
    (subscribes ++ pairsAgain ++ [.callback {}]) _ ⟨rfl, rfl, rfl⟩ rfl
  have hcurrent := hbelongs.manifest (by decide) (.inl rfl)
  have hpairing : some 1 = some 2 := congrArg (Option.map Issued.pairing) hcurrent
  cases hpairing

end SubscriptionThread

end TeleopBridge.Node
