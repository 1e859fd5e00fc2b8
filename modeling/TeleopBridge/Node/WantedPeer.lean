import TeleopBridge.Node.Steps

/-!
# The Paired Peer is a Wanted One

The parameters name the peer to pair with, or the type of its device. A `REQUEST` is held
against them before it is accepted; an `ACCEPT` is not.

## Key Results

- `paired_wanted`: only a wanted peer is ever paired exactly when every `ACCEPT` comes from
  one.
-/

namespace TeleopBridge.Node

open TeleopBridge.Support

/-- The parameters, as far as they are set, ask for this peer. -/
structure Wanted (config : Config) (peer : PeerInfo) : Prop where
  session : config.desired_peer_session_id ≠ [] →
    peer.session_id = config.desired_peer_session_id
  device_type : config.desired_peer_device_type_code ≠ [] →
    config.desired_peer_device_type_code <+: peer.device_type_code

namespace MainNode

variable {n m : MainNode}

/-- The test of the handler asks for a wanted peer. -/
theorem peerMatches_iff (peer : PeerInfo) : n.peerMatches peer = true ↔ Wanted n.config peer := by
  unfold peerMatches
  rw [Bool.and_eq_true, Bool.or_eq_true, Bool.or_eq_true, decide_eq_true_iff, decide_eq_true_iff,
    decide_eq_true_iff, List.isPrefixOf_iff_prefix]
  constructor
  · rintro ⟨hsession, htype⟩
    exact ⟨hsession.resolve_left, htype.resolve_left⟩
  · rintro ⟨hsession, htype⟩
    exact ⟨or_iff_not_imp_left.mpr hsession, or_iff_not_imp_left.mpr htype⟩

/-! ## The peer an event pairs with -/

/-- The peer of an `ACCEPT` at the head of the queue. -/
def acceptFrom (n : MainNode) (e : Event) : Option PeerInfo :=
  match e, n.session_work_queue with
  | .sessionWorkTimer, .signalingEvent (.pair ⟨.accept, some peer⟩) _ :: _ => some peer
  | _, _ => none

/-- The peer of a `REQUEST` at the head of the queue that is accepted. -/
def acceptedRequest (n : MainNode) (e : Event) : Option PeerInfo :=
  match e, n.session_work_queue with
  | .sessionWorkTimer, .signalingEvent (.pair ⟨.request, some peer⟩) _ :: rest =>
    if acceptsRequest { n with session_work_queue := rest } peer then some peer else none
  | _, _ => none

/-- The peer whose `PairEvent` sets `paired_peer_session_id_`. -/
def pairsWith (n : MainNode) (e : Event) : Option PeerInfo :=
  (n.acceptFrom e).or (n.acceptedRequest e)

theorem paired_beginNegotiation (peer : StdString) (registration : ℕ) :
    (n.beginNegotiation peer registration).paired_peer_session_id = peer :=
  congrArg Surroundings.paired_peer_session_id
    (surroundings_startVideoAndNegotiate (n.storePairing peer registration))

theorem acceptsRequest_wanted {peer : PeerInfo} (h : n.acceptsRequest peer = true) :
    Wanted n.config peer := by
  obtain ⟨hwanted, -⟩ := Bool.and_eq_true_iff.mp h
  exact (n.peerMatches_iff peer).mp (Bool.and_eq_true_iff.mp hwanted).2

theorem handle_acceptFrom {e : Event} {peer : PeerInfo} (hfrom : n.acceptFrom e = some peer)
    (h : n.handle e = some m) : m.paired_peer_session_id = peer.session_id := by
  unfold acceptFrom at hfrom
  split at hfrom
  · rename_i peer' registration rest hqueue
    cases hfrom
    obtain ⟨-, hm⟩ := Option.ite_none_right_eq_some.mp h
    cases hm
    rw [drainSessionWork_cons hqueue]
    exact paired_beginNegotiation peer.session_id registration
  · cases hfrom

theorem handle_acceptedRequest {e : Event} {peer : PeerInfo}
    (hfrom : n.acceptedRequest e = some peer) (h : n.handle e = some m) :
    m.paired_peer_session_id = peer.session_id ∧ Wanted n.config peer := by
  unfold acceptedRequest at hfrom
  split at hfrom
  · rename_i peer' registration rest hqueue
    obtain ⟨haccepts, hpeer⟩ := Option.ite_none_right_eq_some.mp hfrom
    cases hpeer
    obtain ⟨-, hm⟩ := Option.ite_none_right_eq_some.mp h
    cases hm
    have hwanted : Wanted n.config peer :=
      acceptsRequest_wanted (n := { n with session_work_queue := rest }) haccepts
    refine ⟨?_, hwanted⟩
    obtain ⟨hmatches, hok⟩ := Bool.and_eq_true_iff.mp haccepts
    rw [drainSessionWork_cons hqueue, runSessionWork, handleSignalingEvent]
    simp only [handlePairRequest, hmatches, hok, if_true]
    exact paired_beginNegotiation peer.session_id registration
  · cases hfrom

/-- Every other entry of the queue keeps the pairing or ends it. -/
theorem WorkMove.paired {work : SessionWork} (hm : n.WorkMove work m) :
    m.paired_peer_session_id = n.paired_peer_session_id ∨ m.paired_peer_session_id = [] ∨
      (∃ peer registration, work = .signalingEvent (.pair ⟨.accept, some peer⟩) registration) ∨
      ∃ peer registration, work = .signalingEvent (.pair ⟨.request, some peer⟩) registration ∧
        n.acceptsRequest peer = true := by
  cases hm with
  | accept peer registration => exact .inr (.inr (.inl ⟨peer, registration, rfl⟩))
  | acceptRequest peer registration haccepts =>
    exact .inr (.inr (.inr ⟨peer, registration, rfl, haccepts⟩))
  | reject peer registration =>
    obtain ⟨subscribed, prefixes, hreject⟩ := n.handlePairReject_footprint peer
    rw [hreject]
    by_cases hpeer : n.paired_peer_session_id = peer.session_id
    · exact .inr (.inl (if_pos hpeer))
    · exact .inl (if_neg hpeer)
  | unpair | peerLost | streamEnd | streamEndPairs => exact .inr (.inl rfl)
  | _ => exact .inl rfl

theorem SetupEnds.paired (hm : n.SetupEnds m) :
    m.paired_peer_session_id = n.paired_peer_session_id := by
  cases hm <;> rfl

theorem Move.paired {e : Event} (hm : n.Move e m) (hnone : n.pairsWith e = none) :
    m.paired_peer_session_id = n.paired_peer_session_id ∨ m.paired_peer_session_id = [] := by
  obtain ⟨hfrom, hrequest⟩ := Option.or_eq_none_iff.mp hnone
  cases hm with
  | register session_id hunset hends => exact .inl hends.paired
  | setup hends => exact .inl hends.paired
  | lose => exact .inr rfl
  | negotiationRetry =>
    exact .inl (congrArg Surroundings.paired_peer_session_id
      n.surroundings_negotiationRetryTimerCallback)
  | parameterSets =>
    exact .inl (congrArg Surroundings.paired_peer_session_id
      (surroundings_emitCachedParameterSetsIfReady _))
  | work work rest hqueue hm =>
    obtain hkept | hended | ⟨peer, registration, rfl⟩ | ⟨peer, registration, rfl, haccepts⟩ :=
      hm.paired
    · exact .inl hkept
    · exact .inr hended
    · simp [acceptFrom, hqueue] at hfrom
    · simp [acceptedRequest, hqueue, haccepts] at hrequest
  | _ => exact .inl rfl

end MainNode

/-! ## Runs that note who was paired last -/

/-- A node, and the peer of the `PairEvent` that last set `paired_peer_session_id_`. -/
structure Paired where
  node : MainNode
  last : Option PeerInfo := none
  deriving DecidableEq, Repr

namespace Paired

open MainNode

variable {s s' : Paired}

def step (s : Paired) (a : Event × Replies) : Option Paired :=
  (s.node.step a).map fun node =>
    { node, last := (pairsWith { s.node with replies := a.2 } a.1).or s.last }

/-- The peer of this `ACCEPT`, if it has a session id, is a wanted one. -/
def AcceptWanted (s : Paired) (a : Event × Replies) : Prop :=
  ∀ peer, s.node.acceptFrom a.1 = some peer →
    peer.session_id = [] ∨ Wanted s.node.config peer

/-- What a run knows without any condition. -/
structure Noted (config : Config) (s : Paired) : Prop where
  idle : s.node.session_teardown_in_progress = false
  config_eq : s.node.config = config
  last : s.node.paired_peer_session_id ≠ [] →
    ∃ peer, s.last = some peer ∧ s.node.paired_peer_session_id = peer.session_id

/-- The peer that was paired last, if it still is, is a wanted one. -/
def PairedWanted (config : Config) (s : Paired) : Prop :=
  s.node.paired_peer_session_id ≠ [] →
    ∃ peer, s.last = some peer ∧ s.node.paired_peer_session_id = peer.session_id ∧
      Wanted config peer

variable {config : Config} {a : Event × Replies}

theorem pairsWith_paired {n : MainNode} {m : MainNode} {e : Event} {peer : PeerInfo}
    (hwith : n.pairsWith e = some peer) (h : n.handle e = some m) :
    m.paired_peer_session_id = peer.session_id := by
  unfold pairsWith at hwith
  rcases Option.or_eq_some_iff.mp hwith with hfrom | ⟨-, hrequest⟩
  · exact handle_acceptFrom hfrom h
  · exact (handle_acceptedRequest hrequest h).1

theorem Noted.step (h : s.Noted config) (hstep : s.step a = some s') : s'.Noted config := by
  obtain ⟨m, hm, hs'⟩ := Option.map_eq_some_iff.mp hstep
  cases hs'
  have hmove := step_moves h.idle hm
  refine ⟨idle_step h.idle hm, hmove.config.trans h.config_eq, fun hpaired => ?_⟩
  cases hwith : pairsWith { s.node with replies := a.2 } a.1 with
  | some peer => exact ⟨peer, rfl, pairsWith_paired hwith hm⟩
  | none =>
    rcases hmove.paired hwith with hkept | hended
    · have hkept' : m.paired_peer_session_id = s.node.paired_peer_session_id := hkept
      change m.paired_peer_session_id ≠ [] at hpaired
      change ∃ peer, s.last = some peer ∧ m.paired_peer_session_id = peer.session_id
      rw [hkept'] at hpaired ⊢
      exact h.last hpaired
    · exact absurd hended hpaired

/-- One event keeps the paired peer a wanted one exactly when its `ACCEPT` is wanted. -/
theorem pairedWanted_step (h : s.Noted config) (hwanted : s.PairedWanted config)
    (hstep : s.step a = some s') : s.AcceptWanted a ↔ s'.PairedWanted config := by
  obtain ⟨m, hm, hs'⟩ := Option.map_eq_some_iff.mp hstep
  cases hs'
  have hmove := step_moves h.idle hm
  unfold AcceptWanted PairedWanted
  rw [h.config_eq]
  cases hfrom : s.node.acceptFrom a.1 with
  -- the node pairs with the peer of the message it accepts
  | some peer =>
    have hpaired : m.paired_peer_session_id = peer.session_id :=
      handle_acceptFrom (n := { s.node with replies := a.2 }) hfrom hm
    have hwith : pairsWith { s.node with replies := a.2 } a.1 = some peer := by
      unfold pairsWith
      rw [show acceptFrom { s.node with replies := a.2 } a.1 = some peer from hfrom]
      rfl
    simp only [hwith, hpaired, Option.some_or, Option.some.injEq]
    constructor
    · intro hcond hset
      exact ⟨peer, rfl, rfl, (hcond peer rfl).resolve_left hset⟩
    · rintro hset other rfl
      by_cases hempty : peer.session_id = []
      · exact .inl hempty
      · obtain ⟨other, rfl, -, hother⟩ := hset hempty
        exact .inr hother
  -- an answer to the node's own request is from the peer that it asked, which it wanted
  | none =>
    refine ⟨fun _ hset => ?_, fun _ other hother => by cases hother⟩
    cases hrequest : acceptedRequest { s.node with replies := a.2 } a.1 with
    | some peer =>
      have hwith : pairsWith { s.node with replies := a.2 } a.1 = some peer := by
        unfold pairsWith
        rw [show acceptFrom { s.node with replies := a.2 } a.1 = none from hfrom, hrequest]
        rfl
      obtain ⟨hpaired, hpeer⟩ := handle_acceptedRequest hrequest hm
      refine ⟨peer, ?_, hpaired, ?_⟩
      · simp only [hwith, Option.some_or]
      · exact h.config_eq ▸ hpeer
    | none =>
      have hwith : pairsWith { s.node with replies := a.2 } a.1 = none := by
        unfold pairsWith
        rw [show acceptFrom { s.node with replies := a.2 } a.1 = none from hfrom, hrequest]
        rfl
      rcases hmove.paired hwith with hkept | hended
      · have hkept' : m.paired_peer_session_id = s.node.paired_peer_session_id := hkept
        simp only [hwith, hkept', Option.none_or] at hset ⊢
        exact hwanted hset
      · exact absurd hended hset

theorem noted_construct (config : Config) (response : Option StdString) (replies : Replies) :
    Noted config { node := construct config response replies } := by
  obtain ⟨hidle, st, -, hsession⟩ := cleared_construct config response replies
  have hpaired : (construct config response replies).paired_peer_session_id = [] :=
    congrArg SessionView.paired_peer_session_id hsession
  have hconfig : (construct config response replies).config = config :=
    moves_construct (P := fun n => n.config = config) rfl
      (fun _ _ _ _ h hm => hm.config.trans h) (fun _ _ h => h) response
  refine ⟨hidle, hconfig, fun hset => ?_⟩
  exact absurd hpaired hset

/-- Whoever is paired was set by the last `PairEvent` that was accepted; and only a wanted peer
is ever paired, throughout a run, exactly when every `ACCEPT` of the run that names a session
comes from one. -/
theorem paired_wanted (config : Config) (response : Option StdString) (replies : Replies)
    (events : List (Event × Replies)) (s : Paired)
    (hrun : runSteps step { node := construct config response replies } events = some s) :
    (s.node.paired_peer_session_id ≠ [] →
      ∃ peer, s.last = some peer ∧ s.node.paired_peer_session_id = peer.session_id) ∧
    (StepsMeet step AcceptWanted { node := construct config response replies } events ↔
      ∀ prior t, prior <+: events →
        runSteps step { node := construct config response replies } prior = some t →
          t.PairedWanted config) := by
  have hstart := noted_construct config response replies
  have hnoted := runSteps_invariant (fun _ _ _ h hstep => Noted.step h hstep) hstart hrun
  refine ⟨hnoted.last, ?_⟩
  refine stepsMeet_iff (fun _ _ _ h hstep => Noted.step h hstep)
    (fun _ _ _ h hwanted hstep => pairedWanted_step h hwanted hstep) hstart ?_ hrun
  intro hset
  obtain ⟨peer, hlast, -⟩ := hstart.last hset
  cases hlast

/-- The parameters ask for the peer `p`; an `ACCEPT` comes from `who`. -/
def wantsP : Config := { desired_peer_session_id := ['p'] }

def acceptedBy (who : Char) : List (Event × Replies) :=
  let peer : PeerInfo := { session_id := [who], device_type_code := [] }
  [(.handshakeAck, {}), (.handshakeTimer, {}),
    (.streamMessage (.pair ⟨.accept, some peer⟩), {}),
    (.sessionWorkTimer, { outcomes := [true, false] })]

theorem paired_wanted_p :
    ∃ s, runSteps step { node := construct wantsP (some ['s']) { outcomes := [true, true] } }
        (acceptedBy 'p') = some s ∧
      s.node.paired_peer_session_id = ['p'] ∧ s.PairedWanted wantsP := by
  obtain ⟨s, hrun, hpaired⟩ : ∃ s,
      runSteps step { node := construct wantsP (some ['s']) { outcomes := [true, true] } }
        (acceptedBy 'p') = some s ∧ s.node.paired_peer_session_id = ['p'] := ⟨_, rfl, rfl⟩
  obtain ⟨-, hiff⟩ := paired_wanted wantsP (some ['s']) { outcomes := [true, true] }
    (acceptedBy 'p') s hrun
  refine ⟨s, hrun, hpaired, hiff.mp ?_ _ _ List.prefix_rfl hrun⟩
  refine StepsMeet.cons rfl (fun _ h => by cases h) ?_
  refine StepsMeet.cons rfl (fun _ h => by cases h) ?_
  refine StepsMeet.cons rfl (fun _ h => by cases h) ?_
  refine StepsMeet.cons rfl (fun peer h => .inr ?_) trivial
  cases h
  exact ⟨fun _ => rfl, fun hset => absurd rfl hset⟩

/-- The `ACCEPT` of `q` is taken although the parameters ask for `p`. -/
theorem unwanted_peer_paired :
    ¬ ∀ config response replies events s,
      runSteps step { node := construct config response replies } events = some s →
        s.PairedWanted config := by
  intro hall
  obtain ⟨peer, hlast, -, hwanted⟩ :=
    hall wantsP (some ['s']) { outcomes := [true, true] } (acceptedBy 'q') _ rfl
      (by intro h; cases h)
  cases hlast
  have hid := hwanted.session (by intro h; cases h)
  cases hid

end Paired

end TeleopBridge.Node
