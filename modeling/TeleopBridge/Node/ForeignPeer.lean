import TeleopBridge.Node.Recovery
import TeleopBridge.Support.Noninterference

/-!
# Foreign Peers

While a peer is paired, a `REJECT` or `UNPAIR` of another peer should change nothing. The
handler compares the peers only for the pairing fields.

## Key Results

- `handleForeign_observed`: which of these events leave the session alone.
- `foreign_events_harmless`: a run looks the same without them exactly when all of them do.
-/

namespace TeleopBridge.Node

open TeleopBridge.Support

/-- A `REJECT` or `UNPAIR` of some peer. -/
structure Foreign where
  op : PairOp
  peer : PeerInfo
  registration : ℕ := 0
  replies : Replies := {}
  deriving DecidableEq, Repr

/-- What the paired peer sees of the session. -/
structure Observed where
  state : State
  paired_peer_session_id : StdString
  peer_streams_subscribed : Bool
  peer_subscribed_prefixes : List ℕ
  video_started : Bool
  video_config_sent : Bool
  video : VideoModule
  audio : AudioModule
  udp : UdpModule
  deriving DecidableEq, Repr

namespace MainNode

variable {n m : MainNode}

def observed (n : MainNode) : Observed where
  state := n.state
  paired_peer_session_id := n.paired_peer_session_id
  peer_streams_subscribed := n.peer_streams_subscribed
  peer_subscribed_prefixes := n.peer_subscribed_prefixes
  video_started := n.video_started
  video_config_sent := n.video_config_sent
  video := n.video
  audio := n.audio
  udp := n.udp

/-- A peer is paired, and the event is one of another peer. -/
def IsForeign (n : MainNode) (f : Foreign) : Prop :=
  (f.op = .reject ∨ f.op = .unpair) ∧ n.paired_peer_session_id ≠ [] ∧
    f.peer.session_id ≠ n.paired_peer_session_id

instance (n : MainNode) (f : Foreign) : Decidable (n.IsForeign f) :=
  inferInstanceAs (Decidable (_ ∧ _ ∧ _))

/-- The node after it handled the event. -/
def handleForeign (n : MainNode) (f : Foreign) : MainNode :=
  handleSignalingEvent { n with replies := f.replies } (.pair ⟨f.op, some f.peer⟩) f.registration

/-- One more entry of the work queue: a foreign event. -/
def foreignStep (n : MainNode) (f : Foreign) : Option MainNode :=
  if n.IsForeign f then some (n.handleForeign f) else none

/-- The events after which nothing has changed. -/
def Harmless (n : MainNode) (f : Foreign) : Prop := f.op = .reject ∧ n.state = .pairing

/-! ## One foreign event -/

/-- A harmless event changes nothing but the replies. -/
theorem handleForeign_harmless {f : Foreign} (harmed : n.PairingArmed) (hforeign : n.IsForeign f)
    (h : n.Harmless f) : n.handleForeign f = { n with replies := f.replies } := by
  obtain ⟨op, peer, registration, replies⟩ := f
  obtain ⟨hop, hpairing⟩ := h
  obtain ⟨-, -, hother⟩ := hforeign
  have hop' : op = .reject := hop
  subst hop'
  -- a peer that is not the paired one is not forgotten
  have hforget : forgetPeer { n with replies } peer.session_id = { n with replies } :=
    if_neg (Ne.symm hother)
  have hstate : setState { n with replies } .pairing = { n with replies } := by
    rw [setState, ← hpairing]
  unfold handleForeign handleSignalingEvent handlePairReject
  simp only [hforget, hstate]
  -- in active mode the timer is armed while the node pairs
  cases hmode : n.config.pair_mode with
  | passive => rfl
  | active =>
    have htimer := harmed hpairing hmode
    rw [ensurePairingRetryTimer, ← htimer]

theorem handleForeign_unpair {f : Foreign} (hidle : n.session_teardown_in_progress = false)
    (hop : f.op = .unpair) : (n.handleForeign f).paired_peer_session_id = [] := by
  obtain ⟨op, peer, registration, replies⟩ := f
  have hop' : op = .unpair := hop
  subst hop'
  have hforget :
      (forgetPeer { n with replies } peer.session_id).session_teardown_in_progress = false := by
    unfold forgetPeer
    split <;> exact hidle
  obtain ⟨telemetry, joint, replies', hteardown⟩ :=
    teardownActiveSession_footprint _ hforget (show State.active .pairing = false from rfl)
  unfold handleForeign handleSignalingEvent
  simp only
  rw [hteardown]
  rfl

theorem handleForeign_reject {f : Foreign} (hop : f.op = .reject) :
    (n.handleForeign f).state = .pairing := by
  obtain ⟨op, peer, registration, replies⟩ := f
  have hop' : op = .reject := hop
  subst hop'
  obtain ⟨subscribed, prefixes, hreject⟩ :=
    handlePairReject_footprint { n with replies } peer
  unfold handleForeign handleSignalingEvent
  simp only
  rw [hreject]

/-- A foreign event leaves the session alone exactly when it is a `REJECT` that finds the
node pairing. -/
theorem handleForeign_observed {f : Foreign} (hidle : n.session_teardown_in_progress = false)
    (harmed : n.PairingArmed) (hforeign : n.IsForeign f) :
    (n.handleForeign f).observed = n.observed ↔ n.Harmless f := by
  constructor
  · intro hsame
    have hop := hforeign.1
    -- a rejection is seen in the state, an unpair event in the peer
    rcases hop with hreject | hunpair
    · refine ⟨hreject, ?_⟩
      have hstate : (n.handleForeign f).state = n.state := congrArg Observed.state hsame
      rw [← hstate]
      exact handleForeign_reject hreject
    · have hpaired : (n.handleForeign f).paired_peer_session_id = n.paired_peer_session_id :=
        congrArg Observed.paired_peer_session_id hsame
      rw [handleForeign_unpair hidle hunpair] at hpaired
      exact absurd hpaired.symm hforeign.2.1
  · intro hharmless
    rw [handleForeign_harmless harmed hforeign hharmless]
    rfl

/-! ## Runs with foreign events -/

/-- Equal up to the replies, which the next event brings anew. -/
def SameNode (n m : MainNode) : Prop := ∃ replies, m = { n with replies }

theorem unwinding_sameNode : Unwinding step observed SameNode where
  refl n := ⟨n.replies, rfl⟩
  trans n m k := by
    rintro ⟨replies, rfl⟩ ⟨replies', rfl⟩
    exact ⟨replies', rfl⟩
  -- a step stores its replies before it reads them
  step n m a n' := by
    rintro ⟨replies, rfl⟩ hstep
    exact ⟨n', hstep, n'.replies, rfl⟩
  observe n m := by
    rintro ⟨replies, rfl⟩
    rfl

/-- What the foreign events need of a node. -/
def Settled (n : MainNode) : Prop := n.session_teardown_in_progress = false ∧ n.PairingArmed

theorem handleForeign_moves {f : Foreign} (hidle : n.session_teardown_in_progress = false) :
    WorkMove { n with replies := f.replies }
      (.signalingEvent (.pair ⟨f.op, some f.peer⟩) f.registration) (n.handleForeign f) :=
  handleSignalingEvent_moves (n := { n with replies := f.replies }) hidle _ _

theorem idle_handleForeign {f : Foreign} (hidle : n.session_teardown_in_progress = false) :
    (n.handleForeign f).session_teardown_in_progress = false :=
  (leaves_handleSignalingEvent { n with replies := f.replies } hidle _ _).idle hidle

theorem Settled.step {x : (Event × Replies) ⊕ Foreign} (h : n.Settled)
    (hstep : stepBoth step foreignStep n x = some m) : m.Settled := by
  cases x with
  | inl a =>
    have hpairing : PairingArmed { n with replies := a.2 } := h.2
    exact ⟨idle_step h.1 hstep, hpairing.move (step_moves h.1 hstep)⟩
  | inr f =>
    -- an event from outside keeps what the node's own events keep
    obtain ⟨-, hm⟩ := Option.ite_none_right_eq_some.mp hstep
    cases hm
    have hpairing : PairingArmed { n with replies := f.replies } := h.2
    exact ⟨idle_handleForeign h.1, hpairing.work (handleForeign_moves h.1)⟩

theorem settled_construct (config : Config) (response : Option StdString) (replies : Replies) :
    (construct config response replies).Settled := by
  refine ⟨(cleared_construct config response replies).1, ?_⟩
  refine moves_construct ?_ (fun _ _ _ _ h hm => h.move hm) (fun _ _ h => h) response
  intro hin
  cases hin

/-- In every run, a foreign event is handled without a trace exactly when it is a `REJECT` that
finds the node pairing; and the run looks the same without its foreign events exactly when
all of them are. -/
theorem foreign_events_harmless (config : Config) (response : Option StdString)
    (replies : Replies) (inputs : List ((Event × Replies) ⊕ Foreign)) (n : MainNode)
    (hrun : runSteps (stepBoth step foreignStep) (construct config response replies) inputs =
      some n) :
    (∀ f, n.IsForeign f → ((n.handleForeign f).observed = n.observed ↔ n.Harmless f)) ∧
    (StepsMeet (stepBoth step foreignStep) (OnOutside Harmless)
        (construct config response replies) inputs ↔
      ∀ prior m, prior <+: inputs →
        runSteps (stepBoth step foreignStep) (construct config response replies) prior = some m →
        ∃ m', runSteps step (construct config response replies) (purge prior) = some m' ∧
          m'.observed = m.observed) := by
  have hstart := settled_construct config response replies
  have hsettled := runSteps_invariant (fun _ _ _ h hstep => Settled.step h hstep) hstart hrun
  refine ⟨fun f hforeign => handleForeign_observed hsettled.1 hsettled.2 hforeign, ?_⟩
  refine unwinding_iff unwinding_sameNode (fun _ _ _ h hstep => Settled.step h hstep) ?_ ?_ hstart
    (unwinding_sameNode.refl _) hrun
  -- a harmless event is invisible
  · intro s f s' hs hstep hharmless
    obtain ⟨hforeign, hs'⟩ := Option.ite_none_right_eq_some.mp hstep
    cases hs'
    rw [handleForeign_harmless hs.2 hforeign hharmless]
    exact ⟨s.replies, rfl⟩
  -- and an event that cannot be told apart is harmless
  · intro s f s' hs hstep hsame
    obtain ⟨hforeign, hs'⟩ := Option.ite_none_right_eq_some.mp hstep
    cases hs'
    exact (handleForeign_observed hs.1 hs.2 hforeign).mp hsame

/-- A node pairs with `p`. -/
def pairsWithP : List ((Event × Replies) ⊕ Foreign) :=
  let peer : PeerInfo := { session_id := ['p'], device_type_code := [] }
  [.inl (.handshakeAck, {}), .inl (.handshakeTimer, {}),
    .inl (.streamMessage (.pair ⟨.accept, some peer⟩), {}),
    .inl (.sessionWorkTimer, { outcomes := [true, false] })]

/-- An event of `q`. -/
def fromQ (op : PairOp) : Foreign where
  op := op
  peer := { session_id := ['q'], device_type_code := [] }

/-- The server asks for a new HELLO while `p` is paired; the node is then pairing again, and
`q` rejects. -/
def rejectedAfterHello : List ((Event × Replies) ⊕ Foreign) :=
  pairsWithP ++ [.inl (.streamMessage (.system .requestUdpHello), {}),
    .inl (.sessionWorkTimer, {}), .inl (.handshakeAck, {}), .inl (.handshakeTimer, {}),
    .inr (fromQ .reject)]

theorem foreign_events_harmless_pairing :
    ∃ n m, runSteps (stepBoth step foreignStep)
        (construct {} (some ['s']) { outcomes := [true, true] }) rejectedAfterHello = some n ∧
      runSteps step (construct {} (some ['s']) { outcomes := [true, true] })
        (purge rejectedAfterHello) = some m ∧
      n.paired_peer_session_id = ['p'] ∧ m.observed = n.observed := by
  obtain ⟨-, hiff⟩ := foreign_events_harmless {} (some ['s']) { outcomes := [true, true] }
    rejectedAfterHello _ rfl
  obtain ⟨m, hm, hsame⟩ := hiff.mp
    (by iterate 8 (refine StepsMeet.cons rfl trivial ?_)
        exact StepsMeet.cons rfl ⟨rfl, rfl⟩ trivial) rejectedAfterHello _ List.prefix_rfl rfl
  exact ⟨_, m, rfl, hm, rfl, hsame⟩

/-- `q` unpairs, and the session with `p` is torn down. -/
theorem foreign_unpair_ends_session :
    ¬ ∀ config response replies inputs n f,
      runSteps (stepBoth step foreignStep) (construct config response replies) inputs = some n →
        n.IsForeign f → (n.handleForeign f).observed = n.observed := by
  intro hall
  have hsame := hall {} (some ['s']) { outcomes := [true, true] } pairsWithP _ (fromQ .unpair) rfl
    ⟨.inr rfl, (by intro h; cases h), (by intro h; cases h)⟩
  have hstate := congrArg Observed.state hsame
  cases hstate

end MainNode

end TeleopBridge.Node
