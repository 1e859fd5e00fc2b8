import TeleopBridge.Node.Steps

/-!
# Recovery of the Registration

Between two callbacks a node that is not registered has its register retry timer armed, and
a registered node has its heartbeat timer armed and is set up or has the setup timer armed.
The UDP module is stopped before a registration changes its session id.

## Key Results

- `udp_speaks_for_registration`: a running UDP module has the current session id.
- `registration_recovers`: the timer that gets the node on is armed, and a registration is
  given up for a reason.
-/

namespace TeleopBridge.Node

open TeleopBridge.Support

namespace MainNode

variable {n m : MainNode}

/-! ## The session id of the UDP module -/

/-- A running UDP module has the session id of a live registration. -/
def SpeaksFor (n : MainNode) : Prop :=
  ∀ link, n.udp.udp_manager = some link →
    n.grpc.registered = true ∧ link.session_id = n.grpc.session_id

theorem SpeaksFor.of_eq (h : n.SpeaksFor) (hgrpc : m.grpc = n.grpc) (hudp : m.udp = n.udp) :
    m.SpeaksFor := by
  unfold SpeaksFor
  rw [hgrpc, hudp]
  exact h

/-- What leaves the surroundings alone leaves the registration and the UDP session alone. -/
theorem SpeaksFor.of_surroundings (h : n.SpeaksFor) (hsame : m.surroundings = n.surroundings) :
    m.SpeaksFor :=
  h.of_eq (congrArg Surroundings.grpc hsame) (congrArg Surroundings.udp hsame)

/-- The start of the event stream does not change the session identifier. -/
theorem SpeaksFor.startEventStream (h : n.SpeaksFor) (hgrpc : m.grpc = n.grpc.startEventStream)
    (hudp : ∀ link', m.udp.udp_manager = some link' → ∃ link, n.udp.udp_manager = some link ∧
      link'.session_id = link.session_id) : m.SpeaksFor := by
  intro link' hlink'
  obtain ⟨link, hlink, hid⟩ := hudp link' hlink'
  obtain ⟨_, _, hstream⟩ := startEventStream_footprint n.grpc
  rw [hgrpc, hstream, hid]
  exact h link hlink

/-- A reset of the UDP session keeps its identifier. -/
theorem resetSession_link {u : UdpModule} {control : Bool} {link' : UdpLink}
    (h : (u.resetSession control).udp_manager = some link') :
    ∃ link, u.udp_manager = some link ∧ link'.session_id = link.session_id := by
  unfold UdpModule.resetSession at h
  split at h
  · exact ⟨link', h, rfl⟩
  · split at h
    · exact ⟨link', h, rfl⟩
    · rename_i link hlink
      cases h
      exact ⟨link, hlink, rfl⟩

/-- However the setup ends, a link it leaves carries the identifier of the registration. -/
theorem SpeaksFor.setup (h : n.SpeaksFor) (hm : n.SetupEnds m) : m.SpeaksFor := by
  cases hm with
  | unregistered => exact h
  | retry hregistered published udp replies hudp =>
    rcases hudp with rfl | ⟨hidle, rfl⟩
    · exact h
    · exact h
  | running => exact h
  | started hregistered =>
    -- a started module takes the identifier of the registration
    intro link hlink
    cases hlink
    exact ⟨hregistered, rfl⟩
  | ready hregistered =>
    intro link hlink
    cases hlink
    obtain ⟨_, _, hstream⟩ := startEventStream_footprint n.grpc
    simp only [hstream]
    exact ⟨hregistered, trivial⟩

/-- No session work gives the UDP module another identifier. -/
theorem SpeaksFor.work {work : SessionWork} (h : n.SpeaksFor) (hm : n.WorkMove work m) :
    m.SpeaksFor := by
  cases hm with
  | skip => exact h
  | telemetry => exact h
  | udpHello =>
    intro link' hlink'
    -- the reset keeps the identifier
    obtain ⟨link, hlink, hid⟩ := resetSession_link hlink'
    rw [hid]
    exact h link hlink
  | accept peer registration =>
    apply SpeaksFor.of_surroundings _ (surroundings_startVideoAndNegotiate _)
    exact h
  | acceptRequest peer registration =>
    obtain ⟨replies, hrpc⟩ := n.rpc_footprint
    rw [hrpc]
    apply SpeaksFor.of_surroundings _ (surroundings_startVideoAndNegotiate _)
    exact h
  | reject peer registration =>
    obtain ⟨subscribed, prefixes, hreject⟩ := n.handlePairReject_footprint peer
    rw [hreject]
    exact h
  | unpair | peerLost | streamEndPairs =>
    exact h.startEventStream rfl fun link' hlink' => resetSession_link hlink'
  | streamEnd =>
    intro link' hlink'
    obtain ⟨link, hlink, hid⟩ := resetSession_link hlink'
    rw [hid]
    exact h link hlink

/-- Every move of the node keeps the UDP session and the registration together. -/
theorem SpeaksFor.move {e : Event} (h : n.SpeaksFor) (hm : n.Move e m) : m.SpeaksFor := by
  cases hm with
  | minor | receive => exact h
  | register session_id hunset hends =>
    refine SpeaksFor.setup ?_ hends
    -- an unregistered node has no running UDP module
    -- and a lost registration stops the module
    intro link hlink
    cases hunset.symm.trans (h link hlink).1
  | heartbeatOk => exact h
  | heartbeatFails => exact h
  | lose =>
    intro link hlink
    cases hlink
  | setup hends => exact h.setup hends
  | handshakeCancel => exact h
  | handshakeReady =>
    exact h.startEventStream rfl fun link' hlink' => ⟨link', hlink', rfl⟩
  | stopPairing => exact h
  | negotiationRetry => exact h.of_surroundings n.surroundings_negotiationRetryTimerCallback
  | parameterSets =>
    exact SpeaksFor.of_surroundings h (surroundings_emitCachedParameterSetsIfReady _)
  | drained => exact h
  | work work rest hqueue hm =>
    refine SpeaksFor.work ?_ hm
    exact h
  | message => exact h
  | streamFailed => exact h
  | ack link hlink =>
    intro link' hlink'
    cases hlink'
    exact h link hlink
  | rollback link hlink =>
    intro link' hlink'
    cases hlink'
    exact h link hlink

/-- Between two callbacks a running UDP module has the session id of the current
registration. -/
theorem udp_speaks_for_registration (config : Config) (response : Option StdString)
    (replies : Replies) (events : List (Event × Replies)) (n : MainNode)
    (hrun : runSteps step (construct config response replies) events = some n)
    (link : UdpLink) (hlink : n.udp.udp_manager = some link) :
    link.session_id = n.grpc.session_id := by
  have hstart : (construct config response replies).SpeaksFor :=
    moves_construct (fun link hlink => by cases hlink) (fun _ _ _ _ h hm => h.move hm)
      (fun _ _ h => h) response
  have hidle := (cleared_construct config response replies).1
  obtain ⟨-, hspeaks⟩ := moves_invariant (fun _ _ h => h) (fun _ _ _ _ h hm => h.move hm) hidle
    hstart hrun
  exact (hspeaks link hlink).2

/-- The server ends the session, and the node registers again under another id. -/
def registersAgain : List (Event × Replies) :=
  [(.heartbeatTimer .sessionInvalid, {}), (.registerRetryTimer none, {}),
    (.registerRetryTimer (some ['t']), { outcomes := [true, true] })]

theorem udp_speaks_for_registration_again :
    ∃ n link, runSteps step (construct {} (some ['s']) { outcomes := [true, true] })
      registersAgain = some n ∧ n.udp.udp_manager = some link ∧ n.grpc.session_id = ['t'] ∧
        link.session_id = n.grpc.session_id :=
  ⟨_, _, rfl, rfl, rfl,
    udp_speaks_for_registration {} (some ['s']) { outcomes := [true, true] } registersAgain _ rfl
      _ rfl⟩

/-! ## The retry timers -/

/-- A node that looks for a peer of its own accord has the pairing timer armed. -/
def PairingArmed (n : MainNode) : Prop :=
  n.state = .pairing → n.config.pair_mode = .active → n.pairing_retry_timer = true

/-- A timer set for the pairing mode is armed where it has to be. -/
theorem PairingArmed.of_timer
    (htimer : m.pairing_retry_timer = decide (m.config.pair_mode = .active)) :
    m.PairingArmed := by
  intro _ hmode
  rw [htimer, hmode]
  rfl

/-- What leaves the surroundings alone, and does not return to pairing, keeps the timer. -/
theorem PairingArmed.of_surroundings (h : n.PairingArmed)
    (hsame : m.surroundings = n.surroundings)
    (hstate : m.state = .pairing → n.state = .pairing) : m.PairingArmed := by
  have hconfig : m.config = n.config := congrArg Surroundings.config hsame
  have hpairing : m.pairing_retry_timer = n.pairing_retry_timer :=
    congrArg Surroundings.pairing_retry_timer hsame
  intro hin
  rw [hconfig, hpairing]
  exact h (hstate hin)

/-- However the setup ends, an active node that pairs has its timer. -/
theorem PairingArmed.setup (h : n.PairingArmed) (hm : n.SetupEnds m) : m.PairingArmed := by
  cases hm with
  | ready => exact .of_timer rfl
  | _ => exact h

/-- Negotiating further neither enters nor leaves the pairing state. -/
theorem pairing_of_negotiation (hactive : m.state.active = n.state.active)
    (hrest : n.state ≠ .negotiating → m.view.session = n.view.session)
    (h : m.state = .pairing) : n.state = .pairing := by
  by_cases hneg : n.state = .negotiating
  · rw [h, hneg] at hactive
    cases hactive
  · have hstate : m.state = n.state := congrArg SessionView.state (hrest hneg)
    rw [← hstate, h]

/-- An accepted peer takes the node out of pairing. -/
theorem pairingArmed_accept (peer : StdString) (registration : ℕ) :
    (n.beginNegotiation peer registration).PairingArmed := by
  have hactive := active_startVideoAndNegotiate (n.storePairing peer registration)
  intro hin
  rw [show (startVideoAndNegotiate _).state = .pairing from hin] at hactive
  cases hactive

/-- Session work that returns to pairing arms the timer with it. -/
theorem PairingArmed.work {work : SessionWork} (h : n.PairingArmed) (hm : n.WorkMove work m) :
    m.PairingArmed := by
  cases hm with
  | skip => exact h
  | telemetry => exact h
  | udpHello => exact h
  | accept peer registration => exact pairingArmed_accept peer.session_id registration
  | acceptRequest peer registration => exact pairingArmed_accept peer.session_id registration
  | reject peer registration =>
    obtain ⟨subscribed, prefixes, hreject⟩ := n.handlePairReject_footprint peer
    -- a rejection is the one return to pairing that sets the timer only in active mode
    rw [hreject]
    intro _ hmode
    have hactive : n.config.pair_mode = .active := hmode
    simp [hactive]
  | unpair | peerLost | streamEndPairs => exact .of_timer rfl
  | streamEnd =>
    intro hin
    cases hin

/-- Every move keeps the pairing timer. -/
theorem PairingArmed.move {e : Event} (h : n.PairingArmed) (hm : n.Move e m) :
    m.PairingArmed := by
  cases hm with
  | register session_id hunset hends =>
    refine PairingArmed.setup ?_ hends
    intro hin
    cases hin
  | lose =>
    intro hin
    cases hin
  | setup hends => exact h.setup hends
  | handshakeReady => exact .of_timer rfl
  | stopPairing hstop =>
    -- the callback stops its timer only where it has no work to do
    intro hin hmode
    rcases hstop with hstate | hpassive
    · exact absurd hin hstate
    · exact absurd hmode hpassive
  | negotiationRetry =>
    exact h.of_surroundings n.surroundings_negotiationRetryTimerCallback fun hin =>
      pairing_of_negotiation n.active_negotiationRetryTimerCallback
        (fun hstate => congrArg View.session (n.view_negotiationRetryTimerCallback_idle hstate)) hin
  | parameterSets =>
    have hsets : (n.setVideo { n.video with parameter_sets_ready := true }).PairingArmed := h
    exact hsets.of_surroundings (surroundings_emitCachedParameterSetsIfReady _) fun hin =>
      pairing_of_negotiation (active_emitCachedParameterSetsIfReady _)
        (fun hstate => session_emitCachedParameterSetsIfReady _ hstate) hin
  | work work rest hqueue hm =>
    refine PairingArmed.work ?_ hm
    exact h
  | _ => exact h

/-- The timer that will get the node on is armed. -/
structure Recovers (n : MainNode) : Prop where
  register : n.grpc.registered = false ↔ n.grpc.register_retry_timer = true
  heartbeat : n.grpc.registered = true ↔ n.grpc.heartbeat_timer = true
  setup : n.grpc.registered = true →
    (n.publisher_manifest_published = true ∧ n.udp.isRunning = true) ∨
      n.registered_setup_retry_timer = true
  pairing : n.state = .pairing → n.config.pair_mode = .active → n.pairing_retry_timer = true

/-- Entering the pairing state leaves the registration alone. -/
theorem Recovers.enterPairing (h : n.Recovers) (hgrpc : m.grpc = n.grpc.startEventStream)
    (hmanifest : m.publisher_manifest_published = n.publisher_manifest_published)
    (hsetup : m.registered_setup_retry_timer = n.registered_setup_retry_timer)
    (hudp : m.udp.isRunning = n.udp.isRunning) (hpairing : m.PairingArmed) : m.Recovers := by
  obtain ⟨_, _, hstream⟩ := startEventStream_footprint n.grpc
  refine ⟨?_, ?_, ?_, hpairing⟩
  · rw [hgrpc, hstream]
    exact h.register
  · rw [hgrpc, hstream]
    exact h.heartbeat
  · rw [hgrpc, hstream, hmanifest, hsetup, hudp]
    exact h.setup

/-- What leaves the surroundings alone leaves the timers of the registration alone. -/
theorem Recovers.of_surroundings (h : n.Recovers) (hsame : m.surroundings = n.surroundings)
    (hpairing : m.PairingArmed) : m.Recovers := by
  have hgrpc : m.grpc = n.grpc := congrArg Surroundings.grpc hsame
  have hudp : m.udp = n.udp := congrArg Surroundings.udp hsame
  have hmanifest : m.publisher_manifest_published = n.publisher_manifest_published :=
    congrArg Surroundings.publisher_manifest_published hsame
  have hsetup : m.registered_setup_retry_timer = n.registered_setup_retry_timer :=
    congrArg Surroundings.registered_setup_retry_timer hsame
  refine ⟨?_, ?_, ?_, hpairing⟩
  · rw [hgrpc]
    exact h.register
  · rw [hgrpc]
    exact h.heartbeat
  · rw [hgrpc, hudp, hmanifest, hsetup]
    exact h.setup

/-- The registered setup is complete, or its timer is armed. -/
theorem SetupEnds.recovers (hm : n.SetupEnds m)
    (hregister : n.grpc.registered = false ↔ n.grpc.register_retry_timer = true)
    (hheartbeat : n.grpc.registered = true ↔ n.grpc.heartbeat_timer = true)
    (hpairing : m.PairingArmed) : m.Recovers := by
  cases hm with
  | unregistered hunset =>
    refine ⟨hregister, hheartbeat, fun hregistered => ?_, hpairing⟩
    exact absurd (hunset.symm.trans hregistered) (by simp)
  | retry => exact ⟨hregister, hheartbeat, fun _ => .inr rfl, hpairing⟩
  | running _ hrun => exact ⟨hregister, hheartbeat, fun _ => .inl ⟨rfl, hrun⟩, hpairing⟩
  | started => exact ⟨hregister, hheartbeat, fun _ => .inl ⟨rfl, rfl⟩, hpairing⟩
  | ready =>
    -- the event stream has fields of its own
    obtain ⟨_, _, hstream⟩ := startEventStream_footprint n.grpc
    refine ⟨?_, ?_, fun _ => .inl ⟨rfl, rfl⟩, hpairing⟩
    · simp only [hstream]
      exact hregister
    · simp only [hstream]
      exact hheartbeat

/-- Session work keeps the timers of the registration. -/
theorem Recovers.work {work : SessionWork} (h : n.Recovers) (hm : n.WorkMove work m) :
    m.Recovers := by
  have hpairing : m.PairingArmed := PairingArmed.work h.pairing hm
  cases hm with
  | skip => exact ⟨h.register, h.heartbeat, h.setup, hpairing⟩
  | telemetry => exact ⟨h.register, h.heartbeat, h.setup, hpairing⟩
  | udpHello =>
    refine ⟨h.register, h.heartbeat, fun hregistered => ?_, hpairing⟩
    -- a reset leaves the module running
    have hrun := UdpModule.isRunning_resetSession n.config.control_enabled n.udp
    rw [udp_setUdp, hrun]
    exact h.setup hregistered
  | accept peer registration =>
    -- the video behind an accepted peer is no part of the surroundings
    refine Recovers.of_surroundings ?_ (surroundings_startVideoAndNegotiate _) hpairing
    exact ⟨h.register, h.heartbeat, h.setup, fun hin => by cases hin⟩
  | acceptRequest peer registration =>
    refine Recovers.of_surroundings ?_ (surroundings_startVideoAndNegotiate _) hpairing
    obtain ⟨replies, hrpc⟩ := n.rpc_footprint
    rw [hrpc]
    exact ⟨h.register, h.heartbeat, h.setup, fun hin => by cases hin⟩
  | reject peer registration =>
    obtain ⟨subscribed, prefixes, hreject⟩ := n.handlePairReject_footprint peer
    rw [hreject] at hpairing ⊢
    exact ⟨h.register, h.heartbeat, h.setup, hpairing⟩
  | unpair | peerLost | streamEndPairs =>
    exact h.enterPairing rfl rfl rfl (UdpModule.isRunning_resetSession _ _) hpairing
  | streamEnd _ _ _ hunset =>
    refine ⟨h.register, h.heartbeat, fun hregistered => ?_, hpairing⟩
    exact absurd (hunset.symm.trans hregistered) (by simp)

/-- Every move of the node keeps the timers by which it recovers. -/
theorem Recovers.move {e : Event} (h : n.Recovers) (hm : n.Move e m) : m.Recovers := by
  have hpairing : m.PairingArmed := PairingArmed.move h.pairing hm
  cases hm with
  | minor | receive => exact ⟨h.register, h.heartbeat, h.setup, hpairing⟩
  | register session_id hunset hends =>
    -- a registration arms the heartbeat and ends the retries
    refine hends.recovers ⟨fun hset => ?_, fun harmed => ?_⟩ ⟨fun _ => rfl, fun _ => rfl⟩ hpairing
    · cases hset
    · cases harmed
  | heartbeatOk => exact ⟨h.register, h.heartbeat, h.setup, hpairing⟩
  | heartbeatFails => exact ⟨h.register, h.heartbeat, h.setup, hpairing⟩
  | lose =>
    -- its loss arms the retries and ends the heartbeat
    refine ⟨⟨fun _ => rfl, fun _ => rfl⟩, ⟨fun hset => ?_, fun hset => ?_⟩, fun hset => ?_,
      hpairing⟩
    · cases hset
    · cases hset
    · cases hset
  | setup hends => exact hends.recovers h.register h.heartbeat hpairing
  | handshakeCancel => exact ⟨h.register, h.heartbeat, h.setup, hpairing⟩
  | handshakeReady => exact h.enterPairing rfl rfl rfl rfl hpairing
  | stopPairing => exact ⟨h.register, h.heartbeat, h.setup, hpairing⟩
  | negotiationRetry =>
    exact h.of_surroundings n.surroundings_negotiationRetryTimerCallback hpairing
  | parameterSets =>
    -- the parameter sets are stored first, then sent
    have hsets : (n.setVideo { n.video with parameter_sets_ready := true }).Recovers :=
      ⟨h.register, h.heartbeat, h.setup, h.pairing⟩
    exact hsets.of_surroundings (surroundings_emitCachedParameterSetsIfReady _) hpairing
  | drained => exact ⟨h.register, h.heartbeat, h.setup, hpairing⟩
  | work work rest hqueue hm =>
    refine Recovers.work ?_ hm
    exact ⟨h.register, h.heartbeat, h.setup, h.pairing⟩
  | message => exact ⟨h.register, h.heartbeat, h.setup, hpairing⟩
  | streamFailed => exact ⟨h.register, h.heartbeat, h.setup, hpairing⟩
  -- the handshake does not decide whether the module runs
  | ack link hlink =>
    refine ⟨h.register, h.heartbeat, fun hregistered => ?_, hpairing⟩
    have hrun : (n.onAckReceived link).udp.isRunning = n.udp.isRunning := by
      unfold UdpModule.isRunning
      rw [hlink]
      rfl
    rw [hrun]
    exact h.setup hregistered
  | rollback link hlink =>
    refine ⟨h.register, h.heartbeat, fun hregistered => ?_, hpairing⟩
    have hrun : (n.onUdpPeerLost link).udp.isRunning = n.udp.isRunning := by
      unfold UdpModule.isRunning
      rw [hlink]
      rfl
    rw [hrun]
    exact h.setup hregistered

/-! ## Giving a registration up -/

/-- What an event does to the number of heartbeats in a row that failed in transport. -/
def countFailures (failures : ℕ) (a : Event × Replies) : ℕ :=
  match a.1 with
  | .heartbeatTimer .transportError => failures + 1
  | .heartbeatTimer _ => 0
  | .registerRetryTimer (some _) => 0
  | _ => failures

/-- The heartbeats that failed in transport since a run saw another heartbeat or a
registration. -/
def failuresInARow (events : List (Event × Replies)) : ℕ := events.foldl countFailures 0

/-- The counter of the module counts no more failures than there were in a row. -/
theorem Move.failures {e : Event} {failures : ℕ} (hm : n.Move e m)
    (h : n.grpc.consecutive_heartbeat_transport_failures ≤ failures) (replies : Replies)
    (hbusy : ¬ n.MayIdle e ∨ countFailures failures (e, replies) = failures) :
    m.grpc.consecutive_heartbeat_transport_failures ≤ countFailures failures (e, replies) := by
  cases hm with
  | minor _ hidle =>
    -- a move without effect is counted as none, or cannot happen now
    rcases hbusy with hbusy | hsame
    · exact absurd hidle hbusy
    · rw [hsame]
      exact h
  | register session_id hunset hends =>
    obtain ⟨_, _, hgrpc⟩ := hends.grpc
    rw [hgrpc]
    exact Nat.zero_le _
  | heartbeatOk => exact Nat.zero_le _
  | heartbeatFails failures' _ hcount =>
    -- one more failure in both counts
    change failures' ≤ failures + 1
    omega
  | lose => exact Nat.zero_le _
  | setup hends =>
    obtain ⟨_, _, hgrpc⟩ := hends.grpc
    rw [hgrpc]
    exact h
  | handshakeReady =>
    obtain ⟨_, _, hgrpc⟩ := startEventStream_footprint n.grpc
    rw [hgrpc]
    exact h
  | negotiationRetry =>
    have hsame := congrArg Surroundings.grpc n.surroundings_negotiationRetryTimerCallback
    exact (congrArg GrpcModule.consecutive_heartbeat_transport_failures hsame).le.trans h
  | parameterSets =>
    have hsame := congrArg Surroundings.grpc (surroundings_emitCachedParameterSetsIfReady
      (n.setVideo { n.video with parameter_sets_ready := true }))
    exact (congrArg GrpcModule.consecutive_heartbeat_transport_failures hsame).le.trans h
  | work work rest hqueue hm =>
    obtain ⟨_, _, hgrpc⟩ := hm.grpc
    rw [hgrpc]
    exact h
  | receive | handshakeCancel | stopPairing | drained | message | streamFailed | ack | rollback =>
    exact h

/-- An event that counts cannot leave the registration alone: its timer would not be armed. -/
theorem Recovers.busy {e : Event} (h : n.Recovers) (hm : n.handle e = some m) (failures : ℕ)
    (replies : Replies) : ¬ n.MayIdle e ∨ countFailures failures (e, replies) = failures := by
  -- the two events that count something run only while their timer is armed
  cases e with
  | registerRetryTimer response =>
    cases response with
    | none => exact .inr rfl
    | some session_id =>
      obtain ⟨harmed, -⟩ := Option.ite_none_right_eq_some.mp hm
      refine .inl fun hregistered => ?_
      cases (h.register.mpr harmed).symm.trans hregistered
  | heartbeatTimer result =>
    obtain ⟨harmed, -⟩ := Option.ite_none_right_eq_some.mp hm
    refine .inl fun hunset => ?_
    cases (h.heartbeat.mpr harmed).symm.trans hunset
  | _ => exact .inr rfl

/-- The constructor is a registration attempt with the retry timer armed. -/
theorem construct_eq {config : Config} (henabled : config.grpc_enabled = true)
    (response : Option StdString) (replies : Replies) :
    construct config response replies =
      (startRegisterRetryTimer { config, replies }).tryRegister response := by
  unfold construct grpcStart
  simp only [henabled, Bool.not_true, Bool.false_eq_true, if_false]
  cases response with
  | none => rfl
  | some session_id =>
    -- after a first success there is no timer left to start
    have hregistered :
        (tryRegister { config, replies } (some session_id)).grpc.registered = true := by
      obtain ⟨_, _, hgrpc⟩ :=
        (completeRegisteredSetup_ends (registeredAs { config, replies } session_id)).grpc
      exact (congrArg GrpcModule.registered hgrpc).trans rfl
    rw [if_pos hregistered]
    rfl

/-- A new node recovers: it is unregistered and tries again. -/
theorem recovers_construct {config : Config} (henabled : config.grpc_enabled = true)
    (response : Option StdString) (replies : Replies) :
    (construct config response replies).Recovers := by
  rw [construct_eq henabled]
  refine Recovers.move ?_ (tryRegister_moves response)
  refine ⟨⟨fun _ => rfl, fun _ => rfl⟩, ⟨fun hset => ?_, fun hset => ?_⟩, fun hset => ?_,
    fun hin => ?_⟩
  · cases hset
  · cases hset
  · cases hset
  · cases hin

/-- A run keeps the timers that get the node on, and counts the failures in a row. -/
theorem run_recovers {events : List (Event × Replies)} {failures : ℕ}
    (hidle : n.session_teardown_in_progress = false) (h : n.Recovers)
    (hcount : n.grpc.consecutive_heartbeat_transport_failures ≤ failures)
    (hrun : runSteps step n events = some m) :
    m.Recovers ∧ m.session_teardown_in_progress = false ∧
      m.grpc.consecutive_heartbeat_transport_failures ≤ events.foldl countFailures failures := by
  induction events generalizing n failures with
  | nil =>
    cases hrun
    exact ⟨h, hidle, hcount⟩
  | cons a events ih =>
    obtain ⟨n', hstep, hrest⟩ := runSteps_cons_eq_some.mp hrun
    -- the replies of a step are no part of the invariant
    have hreplies : Recovers { n with replies := a.2 } :=
      ⟨h.register, h.heartbeat, h.setup, h.pairing⟩
    have hmove := step_moves hidle hstep
    refine ih (idle_step hidle hstep) (hreplies.move hmove) ?_ hrest
    exact hmove.failures hcount a.2 (hreplies.busy hstep failures a.2)

/-- A registration is given up only on a heartbeat that finds the session invalid, or on the
last of enough transport failures in a row. -/
theorem Move.gives_up {e : Event} (hm : n.Move e m) (h : n.grpc.registered = true)
    (hup : m.grpc.registered = false) :
    ∃ result, e = .heartbeatTimer result ∧
      (n.grpc.session_id = [] ∨ result = .sessionInvalid ∨
        result = .transportError ∧ kMaxTransientHeartbeatFailuresBeforeReregister ≤
          n.grpc.consecutive_heartbeat_transport_failures + 1) := by
  -- what only touches the event stream stays registered
  have hkept {m : MainNode} (hgrpc : ∃ stream_running stream_registration,
      m.grpc = { n.grpc with stream_running, stream_registration })
      (hup : m.grpc.registered = false) : False := by
    obtain ⟨_, _, hgrpc⟩ := hgrpc
    rw [hgrpc] at hup
    cases h.symm.trans hup
  have hsame {m : MainNode} (hgrpc : m.grpc = n.grpc) (hup : m.grpc.registered = false) :
      False := by
    rw [hgrpc] at hup
    cases h.symm.trans hup
  cases hm with
  | lose result _ hcause => exact ⟨result, rfl, hcause⟩
  | register _ hunset => cases h.symm.trans hunset
  | setup hends => exact (hkept hends.grpc hup).elim
  | handshakeReady => exact (hkept (startEventStream_footprint n.grpc) hup).elim
  | negotiationRetry =>
    exact (hsame (congrArg Surroundings.grpc n.surroundings_negotiationRetryTimerCallback)
      hup).elim
  | parameterSets =>
    exact (hsame (congrArg Surroundings.grpc (surroundings_emitCachedParameterSetsIfReady
      (n.setVideo { n.video with parameter_sets_ready := true }))) hup).elim
  | work work rest hqueue hm => exact (hkept hm.grpc hup).elim
  -- no other move touches the registration
  | _ => cases h.symm.trans hup

/-- What `GrpcManager::Heartbeat` answers; without a session id it sends no ping. -/
def heartbeatAnswer (n : MainNode) (result : HeartbeatResult) : HeartbeatResult :=
  if n.grpc.session_id = [] then .sessionInvalid else result

/-- Registration recovery never stalls: between two callbacks the timer that gets the node on
is armed, and a registration is given up only when a heartbeat finds the session invalid, or
after enough transport failures in a row. -/
theorem registration_recovers (config : Config) (henabled : config.grpc_enabled = true)
    (response : Option StdString) (replies : Replies) (events : List (Event × Replies))
    (n : MainNode) (hrun : runSteps step (construct config response replies) events = some n) :
    (n.grpc.registered = false → n.grpc.register_retry_timer = true) ∧
    (n.grpc.registered = true → n.grpc.heartbeat_timer = true ∧
      ((n.publisher_manifest_published = true ∧ n.udp.isRunning = true) ∨
        n.registered_setup_retry_timer = true)) ∧
    (n.state = .pairing → n.config.pair_mode = .active → n.pairing_retry_timer = true) ∧
    ∀ a n', step n a = some n' → n.grpc.registered = true → n'.grpc.registered = false →
      ∃ result, a.1 = .heartbeatTimer result ∧
        (n.heartbeatAnswer result = .sessionInvalid ∨
          result = .transportError ∧
            kMaxTransientHeartbeatFailuresBeforeReregister ≤ failuresInARow (events ++ [a])) := by
  have hstart := recovers_construct henabled response replies
  have hfailures :
      (construct config response replies).grpc.consecutive_heartbeat_transport_failures ≤ 0 := by
    rw [construct_eq henabled]
    have hmove := tryRegister_moves (n := startRegisterRetryTimer { config, replies }) response
    have hcount := hmove.failures le_rfl replies (.inr (by cases response <;> rfl))
    cases response <;> exact hcount
  obtain ⟨hrecovers, hidle, hcount⟩ :=
    run_recovers (cleared_construct config response replies).1 hstart hfailures hrun
  refine ⟨hrecovers.register.mp, fun hset => ⟨hrecovers.heartbeat.mp hset, hrecovers.setup hset⟩,
    hrecovers.pairing, fun a n' hstep hset hup => ?_⟩
  obtain ⟨result, hevent, hcause⟩ := (step_moves hidle hstep).gives_up hset hup
  refine ⟨result, hevent, ?_⟩
  rcases hcause with hid | hinvalid | ⟨htransport, hmany⟩
  · exact .inl (if_pos hid)
  · refine .inl ?_
    rw [heartbeatAnswer, hinvalid, ite_self]
  · refine .inr ⟨htransport, ?_⟩
    -- this heartbeat is the last of the failures in a row
    have hlast : failuresInARow (events ++ [a]) = failuresInARow events + 1 := by
      rw [failuresInARow, List.foldl_append, List.foldl_cons, List.foldl_nil, countFailures,
        hevent, htransport]
      rfl
    rw [hlast]
    exact hmany.trans (Nat.add_le_add_right hcount 1)

/-- A heartbeat that fails in transport. -/
def failedHeartbeat : Event × Replies := (.heartbeatTimer .transportError, {})

/-- The third failure in a row gives the registration up. -/
theorem registration_recovers_third_failure :
    ∃ n n', runSteps step (construct {} (some ['s']) { outcomes := [true, true] })
        [failedHeartbeat, failedHeartbeat] = some n ∧ step n failedHeartbeat = some n' ∧
      n'.grpc.registered = false ∧
      kMaxTransientHeartbeatFailuresBeforeReregister ≤
        failuresInARow [failedHeartbeat, failedHeartbeat, failedHeartbeat] := by
  refine ⟨_, _, rfl, rfl, rfl, ?_⟩
  obtain ⟨-, -, -, hgives_up⟩ := registration_recovers {} rfl (some ['s'])
    { outcomes := [true, true] } [failedHeartbeat, failedHeartbeat] _ rfl
  obtain ⟨result, hevent, hanswer | ⟨-, hmany⟩⟩ := hgives_up failedHeartbeat _ rfl rfl rfl
  · cases hevent
    cases hanswer
  · exact hmany

end MainNode

end TeleopBridge.Node
