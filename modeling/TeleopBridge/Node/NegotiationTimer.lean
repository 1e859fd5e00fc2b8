import TeleopBridge.Node.Steps

/-!
# The Negotiation Retry Timer

Nothing but its retry timer gets a negotiation on. `startVideoAndNegotiate` arms it, unless
the video does not start: then it returns before.

## Key Results

- `negotiation_armed`: the timer is armed whenever the node negotiates, throughout a run,
  exactly when no pairing of the run begins with a video that does not start.
- `negotiation_wedged`: a node whose video does not start stays in `Negotiating` with every
  timer of the negotiation stopped.
-/

namespace TeleopBridge.Node

open TeleopBridge.Support

namespace MainNode

variable {n m : MainNode}

/-- The timer of a negotiation is armed. -/
def Armed (n : MainNode) : Prop := n.state = .negotiating → n.negotiation_retry_timer = true

theorem armed_of_state (h : m.state ≠ .negotiating) : m.Armed := fun hstate => absurd hstate h

theorem armed_of_unpaired (h : m.state.active = false) : m.Armed := by
  apply armed_of_state
  intro hstate
  rw [hstate] at h
  cases h

/-! ## The negotiation functions -/

/-- An attempt to advance ends in `Running`, or arms the timer. -/
theorem Armed.tryAdvanceNegotiation (h : n.Armed) : n.tryAdvanceNegotiation.Armed := by
  unfold MainNode.tryAdvanceNegotiation
  simp only
  split
  · exact h
  split
  · -- a publication that failed arms the timer before it returns
    exact fun _ => rfl
  split
  · exact fun _ => rfl
  · apply armed_of_state
    rw [state_enterRunning]
    simp

theorem Armed.emitCachedParameterSetsIfReady (h : n.Armed) :
    n.emitCachedParameterSetsIfReady.Armed := by
  unfold MainNode.emitCachedParameterSetsIfReady onSpsPpsCaptured
  split
  · exact h
  split
  · exact h
  split
  · apply Armed.tryAdvanceNegotiation
    exact h
  · exact h

theorem Armed.advanceIfReady (h : n.Armed) : n.advanceIfReady.Armed := by
  unfold MainNode.advanceIfReady
  split
  · exact h.tryAdvanceNegotiation
  · exact h

theorem Armed.videoStart (h : n.Armed) : n.videoStart.2.Armed := by
  unfold MainNode.videoStart
  simp only
  split
  · exact h.emitCachedParameterSetsIfReady
  split
  · exact h
  · apply Armed.emitCachedParameterSetsIfReady
    exact h

theorem Armed.startVideoAndNegotiate (h : n.Armed) : n.startVideoAndNegotiate.Armed := by
  unfold MainNode.startVideoAndNegotiate
  simp only
  split
  · apply Armed.advanceIfReady
    exact fun _ => rfl
  split
  · -- the early return: nothing arms the timer, it is only kept
    exact h.videoStart
  · apply Armed.advanceIfReady
    exact fun _ => rfl

theorem Armed.negotiationRetryTimerCallback (h : n.Armed) :
    n.negotiationRetryTimerCallback.Armed := by
  unfold MainNode.negotiationRetryTimerCallback
  simp only
  split
  · rename_i hstate
    exact armed_of_state hstate
  split
  · exact h.startVideoAndNegotiate
  split
  · exact h.tryAdvanceNegotiation
  split
  · exact h.tryAdvanceNegotiation
  split
  · -- a stalled video is stopped and started again
    apply Armed.startVideoAndNegotiate
    exact h
  split
  · apply Armed.tryAdvanceNegotiation
    exact h
  · exact h.tryAdvanceNegotiation

/-! ## A pairing begins -/

/-- The video of a new pairing runs or starts, or the timer was armed before. -/
def StartsVideo (n : MainNode) : Prop :=
  n.video.running = true ∨ n.reply = true ∨ n.negotiation_retry_timer = true

theorem videoStart_ok : n.videoStart.1 = (n.video.running || n.reply) := by
  unfold videoStart
  simp only
  split
  · rename_i hrunning
    rw [hrunning]
    rfl
  · rename_i hrunning
    cases hreply : n.reply <;> simp [hrunning]

/-- A video that starts arms the timer. -/
theorem armed_of_videoStart (h : n.videoStart.1 = true) : n.startVideoAndNegotiate.Armed := by
  unfold startVideoAndNegotiate
  simp only [h, Bool.not_true, Bool.false_eq_true, if_false]
  split
  · apply Armed.advanceIfReady
    exact fun _ => rfl
  · apply Armed.advanceIfReady
    exact fun _ => rfl

/-- A video that does not start ends the call at once. -/
theorem startVideoAndNegotiate_failed (hrunning : n.video.running = false)
    (hreply : n.reply = false) : n.startVideoAndNegotiate = n.replied := by
  simp [startVideoAndNegotiate, videoStart, hrunning, hreply]

/-- A pairing begins with the timer armed exactly when its video starts. -/
theorem armed_beginNegotiation (peer : StdString) (registration : ℕ) :
    n.StartsVideo ↔ (n.beginNegotiation peer registration).Armed := by
  unfold beginNegotiation
  constructor
  · rintro (hrunning | hreply | harmed)
    · apply armed_of_videoStart
      rw [videoStart_ok, Bool.or_eq_true]
      exact .inl hrunning
    · apply armed_of_videoStart
      rw [videoStart_ok, Bool.or_eq_true]
      exact .inr hreply
    · apply Armed.startVideoAndNegotiate
      exact fun _ => harmed
  · intro harmed
    by_contra hfails
    simp only [StartsVideo, not_or, Bool.not_eq_true] at hfails
    -- a start that fails leaves the node negotiating without the timer
    obtain ⟨hrunning, hreply, htimer⟩ := hfails
    rw [startVideoAndNegotiate_failed (n := n.storePairing peer registration) hrunning hreply]
      at harmed
    have hset : n.negotiation_retry_timer = true := harmed rfl
    rw [htimer] at hset
    cases hset

/-! ## The events -/

/-- The node in which an entry of the work queue pairs with a peer. -/
def accepting (n : MainNode) : SessionWork → Option MainNode
  | .signalingEvent (.pair ⟨.request, some peer⟩) _ =>
    if n.acceptsRequest peer then some n.rpc.2 else none
  | .signalingEvent (.pair ⟨.accept, some _⟩) _ => some n
  | _ => none

/-- The node in which an event pairs with a peer. -/
def pairsIn (n : MainNode) (e : Event) : Option MainNode :=
  match e, n.session_work_queue with
  | .sessionWorkTimer, work :: rest => accepting { n with session_work_queue := rest } work
  | _, _ => none

/-- A pairing that begins with this event starts its video. -/
def PairingStartsVideo (n : MainNode) (a : Event × Replies) : Prop :=
  ∀ n', pairsIn { n with replies := a.2 } a.1 = some n' → n'.StartsVideo

theorem accepting_work {work : SessionWork} {n' : MainNode} (h : n.accepting work = some n') :
    ∃ peer registration, n.runSessionWork work = n'.beginNegotiation peer registration := by
  unfold accepting at h
  split at h
  · -- a request is accepted where the peer is wanted and the call succeeds
    rename_i peer registration
    obtain ⟨haccepts, hn'⟩ := Option.ite_none_right_eq_some.mp h
    cases hn'
    obtain ⟨hwanted, hok⟩ := Bool.and_eq_true_iff.mp haccepts
    refine ⟨peer.session_id, registration, ?_⟩
    simp [runSessionWork, handleSignalingEvent, handlePairRequest, hwanted, hok]
  · rename_i peer registration
    cases h
    exact ⟨peer.session_id, registration, rfl⟩
  · cases h

theorem handle_pairsIn {e : Event} {n' : MainNode} (hpairs : n.pairsIn e = some n')
    (h : n.handle e = some m) :
    ∃ peer registration, m = n'.beginNegotiation peer registration := by
  unfold pairsIn at hpairs
  split at hpairs
  · rename_i work rest hqueue
    obtain ⟨-, hm⟩ := Option.ite_none_right_eq_some.mp h
    cases hm
    rw [drainSessionWork_cons hqueue]
    exact accepting_work hpairs
  · cases hpairs

theorem Armed.work {work : SessionWork} (h : n.Armed) (hnone : n.accepting work = none)
    (hm : n.WorkMove work m) : m.Armed := by
  cases hm with
  | skip => exact h
  | telemetry => exact h
  | udpHello => exact h
  | accept => cases hnone
  | acceptRequest peer registration haccepts =>
    -- work that accepts a peer is excluded
    rw [accepting, if_pos haccepts] at hnone
    cases hnone
  | reject peer =>
    obtain ⟨subscribed, prefixes, hreject⟩ := n.handlePairReject_footprint peer
    rw [hreject]
    exact armed_of_unpaired rfl
  | unpair => exact armed_of_unpaired rfl
  | peerLost => exact armed_of_unpaired rfl
  | streamEnd => exact armed_of_unpaired rfl
  | streamEndPairs => exact armed_of_unpaired rfl

theorem Armed.setup (h : n.Armed) (hm : n.SetupEnds m) : m.Armed := by
  cases hm with
  | ready => exact armed_of_unpaired rfl
  | _ => exact h

theorem Armed.move {e : Event} (h : n.Armed) (hnone : n.pairsIn e = none) (hm : n.Move e m) :
    m.Armed := by
  cases hm with
  | register session_id hunset hends =>
    refine Armed.setup ?_ hends
    exact armed_of_unpaired rfl
  | lose => exact armed_of_unpaired rfl
  | setup hends => exact h.setup hends
  | handshakeReady => exact armed_of_unpaired rfl
  | negotiationRetry => exact h.negotiationRetryTimerCallback
  | parameterSets =>
    apply Armed.emitCachedParameterSetsIfReady
    exact h
  | work work rest hqueue hm =>
    refine Armed.work ?_ ?_ hm
    · exact h
    · simpa only [pairsIn, hqueue] using hnone
  -- no other move touches the negotiation
  | _ => exact h

/-- One event keeps the timer armed exactly when the pairing it begins starts its video. -/
theorem armed_step {a : Event × Replies} (hidle : n.session_teardown_in_progress = false)
    (h : n.Armed) (hstep : step n a = some m) : n.PairingStartsVideo a ↔ m.Armed := by
  have hreplies : Armed { n with replies := a.2 } := h
  -- either the step pairs, and its condition decides, or it keeps the timer
  cases hpairs : pairsIn { n with replies := a.2 } a.1 with
  | none =>
    refine ⟨fun _ => hreplies.move hpairs (step_moves hidle hstep), fun _ n' hn' => ?_⟩
    rw [hpairs] at hn'
    cases hn'
  | some n' =>
    obtain ⟨peer, registration, rfl⟩ := handle_pairsIn hpairs hstep
    rw [← armed_beginNegotiation]
    constructor
    · exact fun hstarts => hstarts n' hpairs
    · intro hstarts n'' hn''
      rw [hpairs] at hn''
      cases hn''
      exact hstarts

/-- The retry timer is armed whenever the node negotiates, throughout a run, exactly when
every pairing of the run begins with a video that starts. -/
theorem negotiation_armed (config : Config) (response : Option StdString) (replies : Replies)
    (events : List (Event × Replies)) (n : MainNode)
    (hrun : runSteps step (construct config response replies) events = some n) :
    StepsMeet step PairingStartsVideo (construct config response replies) events ↔
      ∀ prior m, prior <+: events →
        runSteps step (construct config response replies) prior = some m → m.Armed := by
  have hstart := cleared_construct config response replies
  -- a new node is not paired, so there is nothing to arm
  have hunpaired : (construct config response replies).state.active = false := by
    obtain ⟨-, st, hst, hsession⟩ := hstart
    exact (congrArg (fun v => v.state.active) hsession).trans hst
  exact stepsMeet_iff (fun _ _ _ hidle hstep => idle_step hidle hstep)
    (fun _ _ _ hidle h hstep => armed_step hidle h hstep) hstart.1
    (armed_of_unpaired hunpaired) hrun

/-- A node pairs with `p`; the video starts if `started` says so. -/
def pairing (started : Bool) : List (Event × Replies) :=
  let peer : PeerInfo := { session_id := ['p'], device_type_code := [] }
  [(.handshakeAck, {}), (.handshakeTimer, {}),
    (.streamMessage (.pair ⟨.accept, some peer⟩), {}),
    (.sessionWorkTimer, { outcomes := [started, false] })]

theorem negotiation_armed_started :
    ∃ n, runSteps step (construct {} (some ['s']) { outcomes := [true, true] }) (pairing true) =
      some n ∧ n.state = .negotiating ∧ n.Armed := by
  refine ⟨_, rfl, rfl, ?_⟩
  have hiff := negotiation_armed {} (some ['s']) { outcomes := [true, true] } (pairing true) _ rfl
  refine hiff.mp ?_ _ _ List.prefix_rfl rfl
  refine StepsMeet.cons rfl (fun _ h => by cases h) ?_
  refine StepsMeet.cons rfl (fun _ h => by cases h) ?_
  refine StepsMeet.cons rfl (fun _ h => by cases h) ?_
  refine StepsMeet.cons rfl (fun _ h => by cases h; exact .inr (.inl rfl)) ?_
  trivial

/-- The video does not start, and no timer of the negotiation is armed. -/
theorem negotiation_wedged :
    ¬ ∀ config response replies events n,
      runSteps step (construct config response replies) events = some n → n.Armed := by
  intro hall
  have harmed := hall {} (some ['s']) { outcomes := [true, true] } (pairing false) _ rfl rfl
  cases harmed

end MainNode

end TeleopBridge.Node
