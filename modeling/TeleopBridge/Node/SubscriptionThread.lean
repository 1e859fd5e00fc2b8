import TeleopBridge.Node.Steps

/-!
# The Peer Subscription Callback, Step by Step

`peerSubscriptionRetryTimerCallback` runs in a callback group of its own, so that every other
event of the node can come between its critical sections and RPCs. This file lets them. The
other events stay whole: each writes what the callback shares with it in critical sections of
the same lock, and once a peer is paired, or cleared, nothing more of it is written. What an
RPC was issued for is noted, so that a later result can be traced back to it.

## Key Results

- `callback_alone`: a callback that nothing interrupts is the timer's event.
-/

namespace TeleopBridge.Node

open TeleopBridge.Support

/-- Auxiliary: the peer an RPC was issued for, and the pairing in which it was issued. -/
structure Issued where
  peer : StdString
  pairing : ℕ
  deriving DecidableEq, Repr

/-- Where the callback is. Each phase has what the callback holds in its local variables. -/
inductive SubscriptionPc
  | idle
  /-- `state_` was an active one; `has_peer` is read next. -/
  | active
  /-- `ensurePeerSubscriptions` takes its snapshot next. -/
  | subscriptions
  /-- `GetStreamManifest` is next. `earlier` is auxiliary: the `Subscribe` behind the prefixes
  of the snapshot. -/
  | manifest (peer : StdString) (subscribed : List ℕ) (earlier : Option Issued)
  /-- `Subscribe` is next. -/
  | subscribe (peer : StdString) (prefixes : List ℕ) (complete : Bool) (manifest : Issued)
  /-- The last critical section of `ensurePeerSubscriptions` is next. -/
  | commit (peer : StdString) (prefixes : List ℕ) (complete : Bool) (manifest : Issued)
    (subscribe : Option Issued)
  /-- `fetchRemoteAudioConfig` takes its snapshot next. -/
  | audio (subscriptions_ready : Bool)
  /-- `GetStreamConfig` is next. -/
  | fetch (subscriptions_ready : Bool) (peer : StdString)
  /-- The last critical section of `fetchRemoteAudioConfig` is next. -/
  | apply (subscriptions_ready : Bool) (peer : StdString) (fetched : Replies) (config : Issued)
  /-- Both parts are done; the timer is stopped if they succeeded. -/
  | finish (done : Bool)
  deriving DecidableEq, Repr

structure SubscriptionThread where
  node : MainNode
  pc : SubscriptionPc := .idle
  /-- Auxiliary: the `GetStreamManifest` behind the subscription state. -/
  manifest_rpc : Option Issued := none
  /-- Auxiliary: the `Subscribe` behind `peer_subscribed_prefixes_`. -/
  subscribe_rpc : Option Issued := none
  /-- Auxiliary: the `GetStreamConfig` behind the remote audio config. -/
  config_rpc : Option Issued := none
  deriving DecidableEq, Repr

inductive SubscriptionAction
  /-- Any event but the callback's own timer. -/
  | event (e : Event) (replies : Replies)
  /-- The next step of the callback, or the timer that starts it. -/
  | callback (replies : Replies)
  deriving DecidableEq, Repr

namespace SubscriptionThread

variable (s : SubscriptionThread)

/-- The RPC that is issued now. -/
def issue (peer : StdString) : Issued := ⟨peer, s.node.pairings⟩

/-- The callback waits at another phase. -/
def goto (pc : SubscriptionPc) : SubscriptionThread := { s with pc }

/-- The first critical section of `ensurePeerSubscriptions`. -/
def snapshotSubscriptions : SubscriptionThread :=
  if s.node.peer_streams_subscribed then s.goto (.audio true)
  else if s.node.paired_peer_session_id = [] then s.goto (.audio false)
  else if !s.node.config.subscribe_vr_pose_flag && !s.node.wantsRemoteAudio then
    { s with
      node := { s.node with peer_streams_subscribed := true, peer_subscribed_prefixes := [] }
      pc := .audio true }
  else
    -- the peer and what it is subscribed to are read once, for all that follows
    s.goto (.manifest s.node.paired_peer_session_id s.node.peer_subscribed_prefixes
      s.subscribe_rpc)

/-- `GetStreamManifest` and what the callback works out from it. -/
def runManifest (peer : StdString) (subscribed : List ℕ) (earlier : Option Issued) :
    SubscriptionThread :=
  let rpc := s.node.rpc
  let available := getStreamPrefixes rpc.2.replies.manifest
  let prefixes := rpc.2.availableRequests available
  let complete := rpc.2.allRequestsAvailable available
  let issued := s.issue peer
  if !rpc.1 then { s with node := rpc.2, pc := .audio false }
  -- only a change is subscribed, and never an empty list
  else if prefixes ≠ subscribed && prefixes ≠ [] then
    { s with node := rpc.2, pc := .subscribe peer prefixes complete issued }
  else { s with node := rpc.2, pc := .commit peer prefixes complete issued earlier }

/-- `Subscribe`. -/
def runSubscribe (peer : StdString) (prefixes : List ℕ) (complete : Bool) (manifest : Issued) :
    SubscriptionThread :=
  let rpc := s.node.rpc
  if !rpc.1 then { s with node := rpc.2, pc := .audio false }
  else
    { s with
      node := rpc.2
      pc := .commit peer prefixes complete manifest (some (s.issue peer)) }

/-- The last critical section of `ensurePeerSubscriptions`. -/
def runCommit (peer : StdString) (prefixes : List ℕ) (complete : Bool) (manifest : Issued)
    (subscribe : Option Issued) : SubscriptionThread :=
  let committed := s.node.commitSubscriptions peer prefixes complete
  -- the peer may have changed since the snapshot
  let kept := s.node.paired_peer_session_id = peer
  { s with
    node := committed.2
    pc := .audio committed.1
    manifest_rpc := if kept then some manifest else s.manifest_rpc
    subscribe_rpc := if kept then subscribe else s.subscribe_rpc }

/-- The first critical section of `fetchRemoteAudioConfig`. -/
def snapshotAudio (subscriptions_ready : Bool) : SubscriptionThread :=
  if !s.node.wantsRemoteAudio then s.goto (.finish subscriptions_ready)
  else if s.node.paired_peer_session_id = [] then s.goto (.finish false)
  -- a configuration that is there is not fetched again
  else if s.node.audio.remote_config_ready then s.goto (.finish subscriptions_ready)
  else s.goto (.fetch subscriptions_ready s.node.paired_peer_session_id)

/-- `GetStreamConfig` and the validation of what it returns. -/
def runFetch (subscriptions_ready : Bool) (peer : StdString) : SubscriptionThread :=
  let rpc := s.node.rpc
  if !rpc.1 then { s with node := rpc.2, pc := .finish false }
  else if !rpc.2.validateRemoteAudioConfig rpc.2.replies.remote_audio then
    { s with node := rpc.2, pc := .finish false }
  else
    { s with node := rpc.2, pc := .apply subscriptions_ready peer rpc.2.replies (s.issue peer) }

/-- The last critical section of `fetchRemoteAudioConfig`. -/
def runApply (subscriptions_ready : Bool) (peer : StdString) (fetched : Replies)
    (config : Issued) : SubscriptionThread :=
  let committed := MainNode.commitRemoteAudio { s.node with replies := fetched } peer
  { s with
    node := committed.2
    pc := .finish (subscriptions_ready && committed.1)
    -- what was fetched for another peer is not stored
    config_rpc := if s.node.paired_peer_session_id = peer then some config else s.config_rpc }

/-- The end of the callback. -/
def runFinish (done : Bool) : SubscriptionThread :=
  if done then { s with node := s.node.stopPeerSubscriptionRetryTimer, pc := .idle }
  else s.goto .idle

/-- The start of the callback. -/
def begin : SubscriptionThread :=
  if s.node.state.active then s.goto .active
  else { s with node := s.node.stopPeerSubscriptionRetryTimer, pc := .idle }

/-- The test of `has_peer`. -/
def checkPeer : SubscriptionThread :=
  if s.node.paired_peer_session_id = [] then
    { s with node := s.node.stopPeerSubscriptionRetryTimer, pc := .idle }
  else s.goto .subscriptions

/-- The next step of the callback. -/
def callbackStep : Option SubscriptionThread :=
  match s.pc with
  | .idle => if s.node.peer_subscription_retry_timer then some s.begin else none
  | .active => some s.checkPeer
  | .subscriptions => some s.snapshotSubscriptions
  | .manifest peer subscribed earlier => some (s.runManifest peer subscribed earlier)
  | .subscribe peer prefixes complete manifest =>
    some (s.runSubscribe peer prefixes complete manifest)
  | .commit peer prefixes complete manifest subscribe =>
    some (s.runCommit peer prefixes complete manifest subscribe)
  | .audio subscriptions_ready => some (s.snapshotAudio subscriptions_ready)
  | .fetch subscriptions_ready peer => some (s.runFetch subscriptions_ready peer)
  | .apply subscriptions_ready peer fetched config =>
    some (s.runApply subscriptions_ready peer fetched config)
  | .finish done => some (s.runFinish done)

def step : SubscriptionAction → Option SubscriptionThread
  | .event e replies =>
    -- the callback does not run beside itself
    if e = .peerSubscriptionRetryTimer then none
    else (s.node.step (e, replies)).map fun node => { s with node }
  | .callback replies => callbackStep { s with node := { s.node with replies } }

/-- The node as its constructor leaves it. -/
def construct (config : Config) (response : Option StdString) (replies : Replies) :
    SubscriptionThread where
  node := MainNode.construct config response replies

/-! ## A callback that nothing interrupts -/

/-- Some steps lead from one state to the other. -/
def Reaches (s t : SubscriptionThread) : Prop :=
  ∃ actions, runSteps step s actions = some t

variable {s : SubscriptionThread} {t u : SubscriptionThread}

theorem Reaches.trans (hst : s.Reaches t) (htu : t.Reaches u) : s.Reaches u := by
  obtain ⟨first, hfirst⟩ := hst
  obtain ⟨rest, hrest⟩ := htu
  exact ⟨first ++ rest, runSteps_append.mpr ⟨t, hfirst, hrest⟩⟩

/-- A step of the callback with the replies the node has. -/
theorem Reaches.callback (h : s.callbackStep = some t) : s.Reaches t :=
  ⟨[.callback s.node.replies], runSteps_cons_eq_some.mpr ⟨t, h, rfl⟩⟩

/-- The RPCs and the commit of `ensurePeerSubscriptions`. -/
theorem reaches_manifest {earlier : Option Issued}
    (hpc : s.pc = .manifest s.node.paired_peer_session_id s.node.peer_subscribed_prefixes earlier)
    (hopen : ¬ s.node.peer_streams_subscribed = true)
    (hpeer : ¬ s.node.paired_peer_session_id = [])
    (hwanted : ¬ (!s.node.config.subscribe_vr_pose_flag && !s.node.wantsRemoteAudio) = true) :
    ∃ t, s.Reaches t ∧ t.node = s.node.ensurePeerSubscriptions.2 ∧
      t.pc = .audio s.node.ensurePeerSubscriptions.1 := by
  have hmanifest : s.Reaches (s.runManifest s.node.paired_peer_session_id
      s.node.peer_subscribed_prefixes earlier) := by
    apply Reaches.callback
    rw [callbackStep, hpc]
  unfold runManifest at hmanifest
  unfold MainNode.ensurePeerSubscriptions
  rw [if_neg hopen, if_neg hpeer, if_neg hwanted]
  simp only at hmanifest ⊢
  split
  · rename_i hfailed
    rw [if_pos hfailed] at hmanifest
    exact ⟨_, hmanifest, rfl, rfl⟩
  rename_i hfailed
  rw [if_neg hfailed] at hmanifest
  split
  · rename_i hchanged
    rw [if_pos hchanged] at hmanifest
    -- a changed list goes through `Subscribe` first
    have hsubscribe := hmanifest.trans (Reaches.callback rfl)
    unfold runSubscribe at hsubscribe
    simp only at hsubscribe
    split
    · rename_i hrefused
      rw [if_pos hrefused] at hsubscribe
      exact ⟨_, hsubscribe, rfl, rfl⟩
    · rename_i hrefused
      rw [if_neg hrefused] at hsubscribe
      exact ⟨_, hsubscribe.trans (Reaches.callback rfl), rfl, rfl⟩
  · rename_i hsame
    rw [if_neg hsame] at hmanifest
    exact ⟨_, hmanifest.trans (Reaches.callback rfl), rfl, rfl⟩

/-- The phases of `ensurePeerSubscriptions` make the function. -/
theorem reaches_ensurePeerSubscriptions (hpc : s.pc = .subscriptions) :
    ∃ t, s.Reaches t ∧ t.node = s.node.ensurePeerSubscriptions.2 ∧
      t.pc = .audio s.node.ensurePeerSubscriptions.1 := by
  have hsnapshot : s.Reaches s.snapshotSubscriptions := by
    apply Reaches.callback
    rw [callbackStep, hpc]
  unfold snapshotSubscriptions at hsnapshot
  -- the three early ways out of the function, in its order
  by_cases hdone : s.node.peer_streams_subscribed = true
  · rw [if_pos hdone] at hsnapshot
    unfold MainNode.ensurePeerSubscriptions
    rw [if_pos hdone]
    exact ⟨_, hsnapshot, rfl, rfl⟩
  by_cases hpeer : s.node.paired_peer_session_id = []
  · rw [if_neg hdone, if_pos hpeer] at hsnapshot
    unfold MainNode.ensurePeerSubscriptions
    rw [if_neg hdone, if_pos hpeer]
    exact ⟨_, hsnapshot, rfl, rfl⟩
  by_cases hunwanted :
      (!s.node.config.subscribe_vr_pose_flag && !s.node.wantsRemoteAudio) = true
  · rw [if_neg hdone, if_neg hpeer, if_pos hunwanted] at hsnapshot
    unfold MainNode.ensurePeerSubscriptions
    rw [if_neg hdone, if_neg hpeer, if_pos hunwanted]
    exact ⟨_, hsnapshot, rfl, rfl⟩
  rw [if_neg hdone, if_neg hpeer, if_neg hunwanted] at hsnapshot
  obtain ⟨t, ht, hnode, hdone⟩ := reaches_manifest
    (s := s.goto (.manifest s.node.paired_peer_session_id s.node.peer_subscribed_prefixes
      s.subscribe_rpc)) rfl hdone hpeer hunwanted
  exact ⟨t, hsnapshot.trans ht, hnode, hdone⟩

/-- The RPC and the commit of `fetchRemoteAudioConfig`. -/
theorem reaches_fetch {ready : Bool} (hpc : s.pc = .fetch ready s.node.paired_peer_session_id)
    (hwanted : ¬ (!s.node.wantsRemoteAudio) = true)
    (hpeer : ¬ s.node.paired_peer_session_id = [])
    (hopen : ¬ s.node.audio.remote_config_ready = true) :
    ∃ t, s.Reaches t ∧ t.node = s.node.fetchRemoteAudioConfig.2 ∧
      t.pc = .finish (ready && s.node.fetchRemoteAudioConfig.1) := by
  have hfetch : s.Reaches (s.runFetch ready s.node.paired_peer_session_id) := by
    apply Reaches.callback
    rw [callbackStep, hpc]
  unfold runFetch at hfetch
  unfold MainNode.fetchRemoteAudioConfig
  rw [if_neg hwanted, if_neg hpeer, if_neg hopen]
  simp only at hfetch ⊢
  split
  · rename_i hfailed
    rw [if_pos hfailed] at hfetch
    rw [Bool.and_false]
    exact ⟨_, hfetch, rfl, rfl⟩
  rename_i hfailed
  rw [if_neg hfailed] at hfetch
  split
  · rename_i hinvalid
    rw [if_pos hinvalid] at hfetch
    rw [Bool.and_false]
    exact ⟨_, hfetch, rfl, rfl⟩
  · rename_i hinvalid
    rw [if_neg hinvalid] at hfetch
    exact ⟨_, hfetch.trans (Reaches.callback rfl), rfl, rfl⟩

/-- The phases of `fetchRemoteAudioConfig` make the function. -/
theorem reaches_fetchRemoteAudioConfig {ready : Bool} (hpc : s.pc = .audio ready) :
    ∃ t, s.Reaches t ∧ t.node = s.node.fetchRemoteAudioConfig.2 ∧
      t.pc = .finish (ready && s.node.fetchRemoteAudioConfig.1) := by
  have hsnapshot : s.Reaches (s.snapshotAudio ready) := by
    apply Reaches.callback
    rw [callbackStep, hpc]
  unfold snapshotAudio at hsnapshot
  -- likewise
  by_cases hunwanted : (!s.node.wantsRemoteAudio) = true
  · rw [if_pos hunwanted] at hsnapshot
    unfold MainNode.fetchRemoteAudioConfig
    rw [if_pos hunwanted, Bool.and_true]
    exact ⟨_, hsnapshot, rfl, rfl⟩
  by_cases hpeer : s.node.paired_peer_session_id = []
  · rw [if_neg hunwanted, if_pos hpeer] at hsnapshot
    unfold MainNode.fetchRemoteAudioConfig
    rw [if_neg hunwanted, if_pos hpeer, Bool.and_false]
    exact ⟨_, hsnapshot, rfl, rfl⟩
  by_cases hdone : s.node.audio.remote_config_ready = true
  · rw [if_neg hunwanted, if_neg hpeer, if_pos hdone] at hsnapshot
    unfold MainNode.fetchRemoteAudioConfig
    rw [if_neg hunwanted, if_neg hpeer, if_pos hdone, Bool.and_true]
    exact ⟨_, hsnapshot, rfl, rfl⟩
  rw [if_neg hunwanted, if_neg hpeer, if_neg hdone] at hsnapshot
  obtain ⟨t, ht, hnode, hdone⟩ := reaches_fetch
    (s := s.goto (.fetch ready s.node.paired_peer_session_id)) rfl hunwanted hpeer hdone
  exact ⟨t, hsnapshot.trans ht, hnode, hdone⟩

/-- The end of the callback. -/
theorem reaches_finish {done : Bool} (hpc : s.pc = .finish done) :
    ∃ t, s.Reaches t ∧ t.pc = .idle ∧
      t.node = if done then s.node.stopPeerSubscriptionRetryTimer else s.node := by
  have hfinish : s.Reaches (s.runFinish done) := by
    apply Reaches.callback
    rw [callbackStep, hpc]
  refine ⟨_, hfinish, ?_, ?_⟩
  · unfold runFinish
    split <;> rfl
  · unfold runFinish
    split <;> rfl

/-- A callback that nothing interrupts is the timer's event. -/
theorem callback_alone {n m : MainNode} (h : n.handle .peerSubscriptionRetryTimer = some m) :
    ∃ t, Reaches { node := n } t ∧ t.node = m ∧ t.pc = .idle := by
  obtain ⟨harmed, hm⟩ := Option.ite_none_right_eq_some.mp h
  cases hm
  have hbegin : Reaches { node := n } (begin { node := n }) :=
    Reaches.callback (if_pos harmed)
  unfold begin at hbegin
  unfold MainNode.peerSubscriptionRetryTimerCallback
  by_cases hactive : n.state.active = true
  · rw [if_pos hactive] at hbegin
    have hcheck : Reaches { node := n } (checkPeer { node := n, pc := .active }) :=
      hbegin.trans (Reaches.callback rfl)
    unfold checkPeer at hcheck
    by_cases hpeer : n.paired_peer_session_id = []
    · rw [if_pos hpeer] at hcheck
      rw [if_pos (by simp [hpeer])]
      exact ⟨_, hcheck, rfl, rfl⟩
    · rw [if_neg hpeer] at hcheck
      rw [if_neg (by simp [hpeer, hactive])]
      obtain ⟨subscribed, hsubscribed, hnode, hpc⟩ :=
        reaches_ensurePeerSubscriptions (s := { node := n, pc := .subscriptions }) rfl
      obtain ⟨fetched, hfetched, hnode', hpc'⟩ := reaches_fetchRemoteAudioConfig hpc
      obtain ⟨t, ht, hidle, hend⟩ := reaches_finish hpc'
      refine ⟨t, ((hcheck.trans hsubscribed).trans hfetched).trans ht, ?_, hidle⟩
      rw [hend, hnode', hnode]
  · rw [if_neg hactive] at hbegin
    rw [if_pos (by simp [hactive])]
    exact ⟨_, hbegin, rfl, rfl⟩

end SubscriptionThread

end TeleopBridge.Node
