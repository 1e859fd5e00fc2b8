import TeleopBridge.Node.Frames

/-!
# What an Event Does to the Session

Seen from outside, an event does one of three things to the session. It carries the session
data into an unpaired state, because no teardown runs on that path; it accepts a peer; or
it does neither, and then the session is kept, negotiated further or cleared. `effect` says
which from the state before the event and the event alone.

## Key Results

- `handle_effect`: the effect of every event, with what it leaves of the session.
-/

namespace TeleopBridge.Node

/-- What the active states must rest on. -/
structure Bond where
  registered : Bool
  registrations : ℕ
  udp_running : Bool
  pair_registration : ℕ
  session_teardown_in_progress : Bool
  deriving DecidableEq, Repr

inductive Effect
  /-- An unpaired state is stored over this session data. -/
  | carry (session : SessionView)
  /-- A `PairEvent` of the stream of this registration opens a negotiation. -/
  | accept (registration : ℕ)
  | other
  deriving DecidableEq, Repr

namespace MainNode

variable (n : MainNode)

def bond : Bond where
  registered := n.grpc.registered
  registrations := n.grpc.registrations
  udp_running := n.udp.isRunning
  pair_registration := n.pair_registration
  session_teardown_in_progress := n.session_teardown_in_progress

/-- The bond of a node is read off its link. -/
theorem bond_of_link {m : MainNode} (h : m.view.link = n.view.link) : m.bond = n.bond := by
  have hgrpc : m.grpc = n.grpc := congrArg LinkView.grpc h
  have hudp : m.udp = n.udp := congrArg LinkView.udp h
  have hpair : m.pair_registration = n.pair_registration := congrArg LinkView.pair_registration h
  have hidle : m.session_teardown_in_progress = n.session_teardown_in_progress :=
    congrArg LinkView.session_teardown_in_progress h
  rw [bond, bond, hgrpc, hudp, hpair, hidle]

/-- An update of the UDP module that keeps it running, or keeps it stopped. -/
theorem bond_setUdp {udp : UdpModule} (h : udp.isRunning = n.udp.isRunning) :
    (n.setUdp udp).bond = n.bond := by
  unfold bond
  rw [udp_setUdp, h]
  rfl

/-- A pairing request is taken. -/
def acceptsRequest (peer : PeerInfo) : Bool :=
  n.config.pair_auto_accept && n.peerMatches peer && n.rpc.1

/-- The effect of a signalling message on the session. -/
def messageEffect (msg : EventMessage) (registration : ℕ) : Effect :=
  match msg with
  | .pair ⟨.request, some peer⟩ =>
    if n.acceptsRequest peer then .accept registration else .other
  | .pair ⟨.accept, some _⟩ => .accept registration
  | .pair ⟨.reject, some peer⟩ => .carry (n.forgetPeer peer.session_id).view.session
  | _ => .other

/-- The handshake timer finds a handshake that was not reported yet. -/
def handshakeCompletes : Bool :=
  !n.udp.shutting_down && n.udp.isHandshakeReady n.config.control_enabled && !n.udp.ready_fired

/-- The effect of an event on the session. -/
def effect : Event → Effect
  | .registerRetryTimer (some _) => if n.grpc.registered then .other else .carry n.view.session
  | .registeredSetupRetryTimer =>
    if n.setupStartsUdp && !n.config.control_enabled then .carry n.view.session else .other
  | .handshakeTimer => if n.handshakeCompletes then .carry n.view.session else .other
  | .sessionWorkTimer =>
    match n.session_work_queue with
    | .signalingEvent msg registration :: _ => n.messageEffect msg registration
    | _ => .other
  | _ => .other

/-- No session data and no pairing: what a teardown leaves. -/
def Cleared : Prop :=
  n.session_teardown_in_progress = false ∧
    ∃ st : State, st.active = false ∧ n.view.session = { state := st }

/-- What an event with this effect leaves. -/
def Leaves (n : MainNode) (effect : Effect) (n' : MainNode) : Prop :=
  match effect with
  | .carry session => n'.session_teardown_in_progress = false ∧
      ∃ st : State, st.active = false ∧ n'.view.session = { session with state := st }
  | .accept registration => n'.state.active = true ∧
      n'.bond = { n.bond with pair_registration := registration }
  | .other =>
    -- kept, negotiated further, cleared, or kept while the UDP module was not running
    (n'.bond = n.bond ∧ n'.view.session = n.view.session) ∨
      (n'.bond = n.bond ∧ n.state.active = true ∧ n'.state.active = true) ∨ n'.Cleared ∨
      (n'.session_teardown_in_progress = false ∧ n.udp.isRunning = false ∧
        n'.view.session = n.view.session)

/-! ## Handlers without an effect -/

/-- What leaves the view alone has no effect. -/
theorem leaves_of_view {m : MainNode} (h : m.view = n.view) : Leaves n .other m :=
  .inl ⟨n.bond_of_link (congrArg View.link h), congrArg View.session h⟩

/-- The teardown to a state that is not active leaves the session cleared, in that state. -/
theorem cleared_teardownActiveSession (hidle : n.session_teardown_in_progress = false)
    {st : State} (hst : st.active = false) : (n.teardownActiveSession st).Cleared :=
  ⟨n.idle_teardownActiveSession hidle st, st, hst,
    congrArg View.session (n.view_teardownActiveSession hidle st)⟩

theorem Cleared.setGrpc {n : MainNode} (h : n.Cleared) (grpc : GrpcModule) :
    (n.setGrpc grpc).Cleared := h

/-- Negotiating further leaves the active states active and the others as they are. -/
theorem leaves_negotiation {m : MainNode} (hlink : m.view.link = n.view.link)
    (hactive : m.state.active = n.state.active)
    (hrest : n.state ≠ .negotiating → m.view.session = n.view.session) : Leaves n .other m := by
  have hbond := n.bond_of_link hlink
  by_cases hneg : n.state = .negotiating
  · have hin : n.state.active = true := by rw [hneg]; rfl
    exact .inr (.inl ⟨hbond, hin, hactive.trans hin⟩)
  · exact .inl ⟨hbond, hrest hneg⟩

/-- The retry of a negotiation can only go on with the session it has. -/
theorem leaves_negotiationRetryTimerCallback :
    Leaves n .other n.negotiationRetryTimerCallback :=
  n.leaves_negotiation n.link_negotiationRetryTimerCallback
    n.active_negotiationRetryTimerCallback
    fun h => congrArg View.session (n.view_negotiationRetryTimerCallback_idle h)

/-- So can the parameter sets when they come. -/
theorem leaves_onParameterSets : Leaves n .other n.onParameterSets :=
  n.leaves_negotiation (link_emitCachedParameterSetsIfReady _)
    (active_emitCachedParameterSetsIfReady _)
    fun h => session_emitCachedParameterSetsIfReady (n.setVideo _) h

/-! ## Registration -/

/-- A failed heartbeat clears the session. -/
theorem cleared_onGrpcHeartbeatFail (hidle : n.session_teardown_in_progress = false) :
    n.onGrpcHeartbeatFail.Cleared := by
  unfold onGrpcHeartbeatFail
  apply cleared_teardownActiveSession
  · exact hidle
  · rfl

/-- So does the loss of the registration. -/
theorem cleared_loseRegistration (hidle : n.session_teardown_in_progress = false) :
    n.loseRegistration.Cleared := by
  unfold loseRegistration
  apply Cleared.setGrpc
  apply cleared_onGrpcHeartbeatFail
  exact hidle

/-- A heartbeat either changes nothing of the session or loses it with the registration. -/
theorem leaves_onHeartbeat (hidle : n.session_teardown_in_progress = false)
    (result : HeartbeatResult) : Leaves n .other (n.onHeartbeat result) := by
  unfold onHeartbeat
  -- a missing session reads as an invalid one; a failed call counts until the limit
  split
  · exact n.leaves_of_view rfl
  · split
    · exact .inl ⟨rfl, rfl⟩
    · simp only
      split
      · exact .inl ⟨rfl, rfl⟩
      · exact .inr (.inr (.inl (cleared_loseRegistration _ hidle)))
    · exact .inr (.inr (.inl (n.cleared_loseRegistration hidle)))

/-- A registration carries the session over into the registered or the pairing state. -/
theorem leaves_onGrpcRegistered (hidle : n.session_teardown_in_progress = false) :
    Leaves n (.carry n.view.session) n.onGrpcRegistered := by
  refine ⟨idle_completeRegisteredSetup _ hidle, ?_⟩
  rw [onGrpcRegistered, session_completeRegisteredSetup, view_enterRegistered]
  split
  · exact ⟨.pairing, rfl, rfl⟩
  · exact ⟨.registered, rfl, rfl⟩

/-- An attempt to register does nothing, or registers. -/
theorem leaves_tryRegister (hidle : n.session_teardown_in_progress = false)
    (response : Option StdString) :
    Leaves n (n.effect (.registerRetryTimer response)) (n.tryRegister response) := by
  unfold tryRegister effect
  cases response with
  | none =>
    simp only [ite_self]
    exact n.leaves_of_view rfl
  | some session_id =>
    simp only
    split
    · exact n.leaves_of_view rfl
    · exact leaves_onGrpcRegistered (n.setGrpc _) hidle

/-- The setup behind a registration starts the UDP module where it does not run. -/
theorem leaves_completeRegisteredSetup (hidle : n.session_teardown_in_progress = false) :
    Leaves n (n.effect .registeredSetupRetryTimer) n.completeRegisteredSetup := by
  rw [effect]
  by_cases hrun : n.udp.isRunning = true
  · have hstart : n.setupStartsUdp = false := by simp [setupStartsUdp, hrun]
    rw [hstart]
    exact n.leaves_of_view (n.view_completeRegisteredSetup_running hrun)
  · have hdone := n.idle_completeRegisteredSetup hidle
    have hsession := n.session_completeRegisteredSetup
    -- a started module may report the handshake at once, and then the node is pairing
    split
    · rename_i hfires
      rw [if_pos hfires] at hsession
      exact ⟨hdone, .pairing, rfl, hsession⟩
    · rename_i hfires
      rw [if_neg hfires] at hsession
      exact .inr (.inr (.inr ⟨hdone, Bool.not_eq_true _ ▸ hrun, hsession⟩))

/-- The retry of the setup does the same, and nothing once the registration is lost. -/
theorem leaves_registeredSetupRetryTimerCallback
    (hidle : n.session_teardown_in_progress = false) :
    Leaves n (n.effect .registeredSetupRetryTimer) n.registeredSetupRetryTimerCallback := by
  unfold registeredSetupRetryTimerCallback
  split
  · rename_i hreg
    simp only [Bool.not_eq_eq_eq_not, Bool.not_true] at hreg
    have hstart : n.setupStartsUdp = false := by
      rw [setupStartsUdp, hreg]
      rfl
    rw [effect, hstart]
    exact n.leaves_of_view rfl
  · exact n.leaves_completeRegisteredSetup hidle

/-- The handshake timer reports a handshake once. -/
theorem leaves_handshakeTimerCallback (hidle : n.session_teardown_in_progress = false) :
    Leaves n (n.effect .handshakeTimer) n.handshakeTimerCallback := by
  have hcancel : Leaves n .other (n.setUdp n.udp.cancelHandshakeTimer) :=
    .inl ⟨rfl, rfl⟩
  rw [effect]
  -- the ready callback runs once, in a running module whose handshake is done
  by_cases hdown : n.udp.shutting_down = true
  · simpa [handshakeCompletes, handshakeTimerCallback, hdown] using hcancel
  · by_cases hrun : n.udp.isRunning = true
    · by_cases hready : n.udp.isHandshakeReady n.config.control_enabled = true
      · have hcall : n.handshakeTimerCallback =
            (n.setUdp n.udp.cancelHandshakeTimer).fireReady := by
          simp [handshakeTimerCallback, hdown, hrun, hready]
        rw [hcall, handshakeCompletes, hready]
        by_cases hfired : n.udp.ready_fired = true
        · rw [fireReady_fired (n.setUdp n.udp.cancelHandshakeTimer) hfired, hfired]
          simpa using hcancel
        · have hfires : (!n.udp.shutting_down && true && !n.udp.ready_fired) = true := by
            simp [hdown, hfired]
          rw [if_pos hfires]
          exact ⟨idle_fireReady _ hidle, .pairing, rfl,
            session_fireReady (n.setUdp n.udp.cancelHandshakeTimer)
              ((Bool.not_eq_true _).mp hfired)⟩
      · simpa [handshakeCompletes, handshakeTimerCallback, hdown, hrun, hready]
          using n.leaves_of_view rfl
    · -- a module that does not run is never ready
      have hready := UdpModule.isHandshakeReady_idle (Bool.not_eq_true _ ▸ hrun)
        n.config.control_enabled
      simpa [handshakeCompletes, handshakeTimerCallback, hdown, hrun, hready] using hcancel

/-! ## Signalling events -/

/-- An accepted peer becomes the peer of the session. -/
theorem leaves_beginNegotiation (peer : StdString) (registration : ℕ) :
    Leaves n (.accept registration) (n.beginNegotiation peer registration) := by
  unfold beginNegotiation
  refine ⟨active_startVideoAndNegotiate _, ?_⟩
  exact bond_of_link _ (link_startVideoAndNegotiate _)

/-- A request is accepted where the peer is wanted and the answering call succeeds. -/
theorem leaves_handlePairRequest (peer : PeerInfo) (registration : ℕ) :
    Leaves n (n.messageEffect (.pair ⟨.request, some peer⟩) registration)
      (n.handlePairRequest peer registration) := by
  rw [messageEffect, acceptsRequest, handlePairRequest]
  by_cases hwanted : (n.config.pair_auto_accept && n.peerMatches peer) = true
  · by_cases hok : n.rpc.1 = true
    · obtain ⟨hactive, hbond⟩ := leaves_beginNegotiation n.rpc.2 peer.session_id registration
      rw [n.bond_of_link n.link_rpc] at hbond
      simp only [hwanted, hok, Bool.and_self, if_true]
      exact ⟨hactive, hbond⟩
    · simp only [hwanted, hok, Bool.and_false, Bool.false_eq_true, if_false, if_true]
      exact n.leaves_of_view ((view_rpc _).trans n.view_rpc)
  · simp only [hwanted, Bool.false_and, Bool.false_eq_true, if_false]
    exact n.leaves_of_view n.view_rpc

/-- A rejection returns to pairing and forgets the peer only where it is the one that rejected. -/
theorem leaves_handlePairReject (hidle : n.session_teardown_in_progress = false)
    (peer : PeerInfo) :
    Leaves n (.carry (n.forgetPeer peer.session_id).view.session) (n.handlePairReject peer) := by
  have hforget : (n.forgetPeer peer.session_id).session_teardown_in_progress = false :=
    (congrArg (fun v => v.link.session_teardown_in_progress)
      (n.view_forgetPeer peer.session_id)).trans hidle
  unfold handlePairReject
  simp only
  split <;> exact ⟨hforget, .pairing, rfl, rfl⟩

/-- An event has the effect its message names. -/
theorem leaves_handleSignalingEvent (hidle : n.session_teardown_in_progress = false)
    (msg : EventMessage) (registration : ℕ) :
    Leaves n (n.messageEffect msg registration) (n.handleSignalingEvent msg registration) := by
  rcases msg with ⟨op, _ | peer⟩ | action | _
  · cases op <;> exact n.leaves_of_view rfl
  · cases op with
    | request => exact n.leaves_handlePairRequest peer registration
    | accept => exact n.leaves_beginNegotiation peer.session_id registration
    | reject => exact n.leaves_handlePairReject hidle peer
    | unpair =>
      have hforget : (n.forgetPeer peer.session_id).session_teardown_in_progress = false :=
        (congrArg (fun v => v.link.session_teardown_in_progress)
          (n.view_forgetPeer peer.session_id)).trans hidle
      exact .inr (.inr (.inl (cleared_teardownActiveSession _ hforget rfl)))
    | unrecognized => exact n.leaves_of_view rfl
  · unfold handleSignalingEvent
    simp only
    split
    · -- the UDP session is reset, the module stays
      exact .inl ⟨n.bond_setUdp (UdpModule.isRunning_resetSession _ _), rfl⟩
    · exact n.leaves_of_view rfl
  · exact n.leaves_of_view rfl

/-- A queued work has the effect of its event; the end of a stream and a lost peer clear the
session. -/
theorem leaves_runSessionWork (hidle : n.session_teardown_in_progress = false)
    (work : SessionWork) :
    Leaves n (match work with
      | .signalingEvent msg registration => n.messageEffect msg registration
      | _ => .other) (n.runSessionWork work) := by
  cases work with
  | signalingEvent msg registration => exact n.leaves_handleSignalingEvent hidle msg registration
  | streamEnd =>
    obtain ⟨hdone, st, hst, hclear⟩ := n.cleared_teardownActiveSession hidle
      (show State.active .registered = false from rfl)
    unfold runSessionWork handleStreamEnd
    simp only
    -- with the module still running the node goes on to pairing at once
    split
    · refine .inr (.inr (.inl ⟨idle_enterPairingState _ hdone, .pairing, rfl, ?_⟩))
      rw [view_enterPairingState, hclear]
    · exact .inr (.inr (.inl ⟨hdone, st, hst, hclear⟩))
  | udpPeerLost =>
    unfold runSessionWork handleUdpPeerLost
    simp only
    split
    · exact n.leaves_of_view n.view_updateRobotTelemetryLifecycle
    · exact .inr (.inr (.inl (n.cleared_teardownActiveSession hidle rfl)))

/-- What is still queued does not matter to a message. -/
theorem messageEffect_queue (rest : List SessionWork) (msg : EventMessage) (registration : ℕ) :
    messageEffect { n with session_work_queue := rest } msg registration =
      n.messageEffect msg registration := by
  have hrpc : (rpc { n with session_work_queue := rest }).1 = n.rpc.1 := by
    unfold rpc
    simp only
    split <;> rfl
  -- forgetting a peer reads the pairing alone, not the queue
  have hforget (peer : StdString) :
      (forgetPeer { n with session_work_queue := rest } peer).view.session =
        (n.forgetPeer peer).view.session := by
    rw [view_forgetPeer, view_forgetPeer]
    rfl
  unfold messageEffect acceptsRequest
  simp only [hrpc, hforget]
  rfl

/-- The drain has the effect of the work at the front. -/
theorem leaves_drainSessionWork (hidle : n.session_teardown_in_progress = false) :
    Leaves n (n.effect .sessionWorkTimer) n.drainSessionWork := by
  rw [effect, drainSessionWork]
  cases n.session_work_queue with
  | nil => exact n.leaves_of_view rfl
  | cons work rest =>
    -- the work runs after it left the queue, which its effect does not read
    have hrun := leaves_runSessionWork { n with session_work_queue := rest } hidle work
    cases work with
    | signalingEvent msg registration =>
      simp only [messageEffect_queue] at hrun
      exact hrun
    | streamEnd => exact hrun
    | udpPeerLost => exact hrun

/-- A timer that fired was armed. -/
theorem leaves_of_guard {armed : Bool} {effect : Effect} {m n' : MainNode}
    (h : (if armed then some m else none) = some n') (hm : Leaves n effect m) :
    Leaves n effect n' := by
  simp only [Option.ite_none_right_eq_some, Option.some.injEq] at h
  obtain ⟨-, rfl⟩ := h
  exact hm

/-- The effect of every event, with what it leaves of the session. -/
theorem handle_effect {n' : MainNode} {e : Event}
    (hidle : n.session_teardown_in_progress = false) (h : n.handle e = some n') :
    Leaves n (n.effect e) n' := by
  cases e with
  | registerRetryTimer response => exact leaves_of_guard n h (n.leaves_tryRegister hidle response)
  | heartbeatTimer result => exact leaves_of_guard n h (n.leaves_onHeartbeat hidle result)
  | registeredSetupRetryTimer =>
    exact leaves_of_guard n h (n.leaves_registeredSetupRetryTimerCallback hidle)
  | handshakeTimer => exact leaves_of_guard n h (n.leaves_handshakeTimerCallback hidle)
  | pairingRetryTimer =>
    exact leaves_of_guard n h (n.leaves_of_view n.view_pairingRetryTimerCallback)
  | negotiationRetryTimer => exact leaves_of_guard n h n.leaves_negotiationRetryTimerCallback
  | peerSubscriptionRetryTimer =>
    exact leaves_of_guard n h (n.leaves_of_view n.view_peerSubscriptionRetryTimerCallback)
  | videoStatsTimer udp_loss =>
    cases h
    cases udp_loss
    · exact n.leaves_of_view rfl
    · exact n.leaves_of_view n.view_requestVideoKeyframeRecovery
  | telemetryTimer => exact leaves_of_guard n h (n.leaves_of_view n.view_telemetryTimerCallback)
  | jointTelemetryTimer =>
    exact leaves_of_guard n h (n.leaves_of_view n.view_telemetryTimerCallback)
  | sessionWorkTimer => exact leaves_of_guard n h (n.leaves_drainSessionWork hidle)
  | streamMessage msg => exact leaves_of_guard n h (n.leaves_of_view rfl)
  | streamFailed => exact leaves_of_guard n h (.inl ⟨rfl, rfl⟩)
  | handshakeAck =>
    simp only [handle, Option.map_eq_some_iff] at h
    -- an ACK changes the handshake alone, not whether the module runs
    obtain ⟨link, hlink, rfl⟩ := h
    refine .inl ⟨n.bond_setUdp ?_, rfl⟩
    rw [UdpModule.isRunning, UdpModule.isRunning, hlink]
    rfl
  | udpPeerLost =>
    simp only [handle] at h
    split at h
    · cases h
    · rename_i link hlink
      refine leaves_of_guard n h (.inl ⟨n.bond_setUdp ?_, rfl⟩)
      rw [UdpModule.isRunning, UdpModule.isRunning, hlink]
      rfl
  | parameterSetsCaptured => exact leaves_of_guard n h n.leaves_onParameterSets

/-- No effect leaves a teardown in progress. -/
theorem Leaves.idle {n n' : MainNode} {effect : Effect} (h : Leaves n effect n')
    (hidle : n.session_teardown_in_progress = false) :
    n'.session_teardown_in_progress = false := by
  have hbond (hb : n'.bond = n.bond) : n'.session_teardown_in_progress = false :=
    (congrArg Bond.session_teardown_in_progress hb).trans hidle
  cases effect with
  | carry session => exact h.1
  | accept registration =>
    exact (congrArg Bond.session_teardown_in_progress h.2).trans hidle
  | other =>
    rcases h with ⟨hb, -⟩ | ⟨hb, -⟩ | ⟨hdone, -⟩ | ⟨hdone, -⟩
    · exact hbond hb
    · exact hbond hb
    · exact hdone
    · exact hdone

/-- No step of the node leaves a teardown in progress. -/
theorem idle_step {n n' : MainNode} {a : Event × Replies}
    (hidle : n.session_teardown_in_progress = false) (hstep : step n a = some n') :
    n'.session_teardown_in_progress = false :=
  (handle_effect { n with replies := a.2 } hidle hstep).idle hidle

/-! ## The constructed node -/

/-- A cleared session stays cleared while the node registers again. -/
theorem cleared_tryRegister (h : n.Cleared) (response : Option StdString) :
    (n.tryRegister response).Cleared := by
  obtain ⟨hidle, st, hst, hsession⟩ := h
  have hleaves := n.leaves_tryRegister hidle response
  have hdone := hleaves.idle hidle
  have hstate : n.state = st := congrArg SessionView.state hsession
  have hkept {m : MainNode} (hm : m.view.session = n.view.session)
      (hidle' : m.session_teardown_in_progress = false) : m.Cleared :=
    ⟨hidle', st, hst, hm.trans hsession⟩
  have hcases : n.effect (.registerRetryTimer response) = .other ∨
      n.effect (.registerRetryTimer response) = .carry n.view.session := by
    unfold effect
    cases response <;> simp only [true_or]
    split <;> simp
  -- a cleared session is not active, which excludes the effects that need an active one
  rcases hcases with heffect | heffect <;> rw [heffect] at hleaves
  · rcases hleaves with ⟨-, hm⟩ | ⟨-, hactive, -⟩ | hclear | ⟨-, -, hm⟩
    · exact hkept hm hdone
    · rw [hstate, hst] at hactive
      cases hactive
    · exact hclear
    · exact hkept hm hdone
  · obtain ⟨-, st', hst', hm⟩ := hleaves
    rw [hsession] at hm
    exact ⟨hdone, st', hst', hm⟩

/-- The node starts without session data. -/
theorem cleared_construct (config : Config) (response : Option StdString) (replies : Replies) :
    (construct config response replies).Cleared := by
  have hinit : Cleared { config, replies } := ⟨rfl, .connecting, rfl, rfl⟩
  unfold construct grpcStart
  simp only
  repeat' split
  · exact hinit
  · exact cleared_tryRegister _ hinit response
  · exact (cleared_tryRegister _ hinit response).setGrpc _

end MainNode

end TeleopBridge.Node
