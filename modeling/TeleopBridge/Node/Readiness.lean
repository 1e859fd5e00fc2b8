import TeleopBridge.Node.HandshakeThreads

/-!
# Readiness is Noticed

The handshake timer is cancelled when it reports the handshake and armed again when the
session is reset. After the control thread has given the peer up, the posted work resets the
session only if the node then negotiates or runs.

## Key Results

- `handshake_noticed`: when the timer is armed for the next ACK, and that the next ACK is then
  reported once.
-/

namespace TeleopBridge.Node

open TeleopBridge.Support

namespace MainNode

variable {n m : MainNode}

/-! ## The handshake timer -/

/-- The next ACK will be reported by the timer. -/
def Listens (n : MainNode) : Prop :=
  n.udp.handshake_timer = true ∧ n.udp.ready_fired = false

/-- A tick that does not find the handshake ready. -/
theorem handshakeTimerCallback_quiet (hopen : n.udp.isRunning = true → n.udp.shutting_down = false)
    (hquiet : (!n.udp.shutting_down && n.ready) = false) :
    n.handshakeTimerCallback = n ∧ n.ready = false ∨
      n.handshakeTimerCallback = n.setUdp n.udp.cancelHandshakeTimer ∧
        n.udp.isRunning = false := by
  unfold handshakeTimerCallback
  by_cases hrunning : n.udp.isRunning = true
  · have hshut := hopen hrunning
    -- an open module whose tick reports nothing is not ready yet
    have hready : n.ready = false := by simpa [hshut] using hquiet
    refine .inl ⟨?_, hready⟩
    simp only [hshut, hrunning, Bool.not_true, Bool.false_eq_true, if_false]
    exact if_neg (by rw [← ready, hready]; simp)
  · refine .inr ⟨?_, (Bool.not_eq_true _).mp hrunning⟩
    simp [hrunning]

/-- What the end of a tick changes. -/
theorem finishTick_footprint :
    ∃ state telemetry_active joint_telemetry_active pairing_retry_timer stream_running
        stream_registration replies,
      n.finishTick =
        { n with
          state
          telemetry_active
          joint_telemetry_active
          pairing_retry_timer
          grpc := { n.grpc with stream_running, stream_registration }
          udp := { n.udp with handshake_timer := false, ready_fired := true }
          replies } := by
  unfold finishTick
  cases hfired : n.udp.ready_fired with
  | true =>
    refine ⟨n.state, n.telemetry_active, n.joint_telemetry_active, n.pairing_retry_timer,
      n.grpc.stream_running, n.grpc.stream_registration, n.replies, ?_⟩
    rw [fireReady, if_pos (show (n.setUdp n.udp.cancelHandshakeTimer).udp.ready_fired = true
      from hfired)]
    rw [setUdp, UdpModule.cancelHandshakeTimer, ← hfired]
  | false =>
    obtain ⟨telemetry, joint, replies, hfire⟩ :=
      fireReady_footprint (n.setUdp n.udp.cancelHandshakeTimer) hfired
    obtain ⟨running, registration, hstream⟩ := startEventStream_footprint n.grpc
    -- the ready callback takes the node to pairing
    refine ⟨.pairing, telemetry, joint, decide (n.config.pair_mode = .active), running,
      registration, replies, ?_⟩
    rw [hfire, ← hstream]
    rfl

/-- The report of a handshake that is ready starts the telemetry. -/
theorem finishTick_telemetry (hfired : n.udp.ready_fired = false) (hready : n.ready = true)
    (hrunning : n.udp.isRunning = true) (hregistered : n.grpc.registered = true) :
    (n.config.telemetry_enabled = true → n.finishTick.telemetry_active = true) ∧
      (n.config.joint_telemetry_enabled = true →
        n.finishTick.joint_telemetry_active = true) := by
  let fired := setUdp n { n.udp with handshake_timer := false, ready_fired := true }
  have hfinish : n.finishTick = fired.updateRobotTelemetryLifecycle.enterPairingState := by
    have hunfired : (n.setUdp n.udp.cancelHandshakeTimer).udp.ready_fired = false := hfired
    rw [finishTick, fireReady, if_neg (by rw [hunfired]; simp)]
    rfl
  have hup : fired.udp.isHandshakeReady fired.config.control_enabled = true := hready
  -- ready, running and registered: what is enabled is online
  have honline : fired.isRobotTelemetryOnline =
      (n.config.telemetry_enabled || n.config.joint_telemetry_enabled) := by
    unfold isRobotTelemetryOnline
    rw [hup, show fired.grpc.registered = true from hregistered,
      show fired.udp.isRunning = true from hrunning]
    simp [fired]
  obtain ⟨replies, henter⟩ := fired.updateRobotTelemetryLifecycle.enterPairingState_footprint
  rw [hfinish, henter, updateRobotTelemetryLifecycle, honline]
  constructor
  · intro henabled
    have henabled' : fired.config.telemetry_enabled = true := henabled
    simp [henabled, startRobotTelemetry, henabled']
  · intro henabled
    have henabled' : fired.config.joint_telemetry_enabled = true := henabled
    simp [henabled, startRobotTelemetry, henabled']

/-- An event off the executor changes the UDP module only by an ACK, and takes nothing from the
queue. -/
theorem Move.bystander {e : Event} (hm : n.Move e m) (hoff : e.onExecutor = false)
    (hlost : e ≠ .udpPeerLost) :
    (m.udp = n.udp ∨ m.ready = true) ∧
      ∃ posted, m.session_work_queue = n.session_work_queue ++ posted := by
  have hqueue : ∃ posted, m.session_work_queue = n.session_work_queue ++ posted := by
    rcases hm.queue with hposted | ⟨rfl, -⟩
    · exact hposted
    · cases hoff
  refine ⟨?_, hqueue⟩
  cases hm with
  | minor | receive => exact .inl rfl
  | parameterSets =>
    exact .inl (congrArg Surroundings.udp (surroundings_emitCachedParameterSetsIfReady _))
  | message => exact .inl rfl
  | streamFailed => exact .inl rfl
  -- an ACK is the one event beside the executor that changes the module
  | ack link =>
    refine .inr ?_
    simp [MainNode.ready, UdpModule.isHandshakeReady, onAckReceived]
  | rollback => exact absurd rfl hlost
  | _ => cases hoff

end MainNode

namespace HandshakeThreads

open MainNode

variable {s t : HandshakeThreads} {a : HandshakeAction}

/-- Peer-lost work is posted, or the control thread is about to post it. -/
def Pending (s : HandshakeThreads) : Prop :=
  .udpPeerLost ∈ s.node.session_work_queue ∨ s.rollback = .cleared ∨ s.rollback = .unfired

/-- A module that runs without a handshake, with no peer-lost work pending, listens for the
next ACK. -/
def Noticed (s : HandshakeThreads) : Prop :=
  s.node.udp.isRunning = true → s.node.ready = false → ¬ s.Pending → s.node.Listens

/-- The last pending peer-lost work that finds the node neither negotiating nor running leaves
nothing to do: the handshake is back, or its timer was armed again meanwhile. -/
def LossHandled (s : HandshakeThreads) : HandshakeAction → Prop
  | .event .sessionWorkTimer _ =>
    ∀ rest, s.node.session_work_queue = .udpPeerLost :: rest → s.node.state.active = false →
      s.node.udp.isRunning = true → s.node.ready = false →
        ¬ (.udpPeerLost ∈ rest ∨ s.rollback = .cleared ∨ s.rollback = .unfired) → s.node.Listens
  | _ => True

/-! ## What holds in every run -/

structure Sound (s : HandshakeThreads) : Prop where
  idle : s.node.session_teardown_in_progress = false
  control : s.node.config.control_enabled = true
  running_open : s.node.udp.isRunning = true → s.node.udp.shutting_down = false
  speaks : s.node.SpeaksFor
  /-- The handshake that a tick saw ready can only have been rolled back since. -/
  tick : s.ticking = true → s.node.ready = true ∨ s.Pending

/-- An event is a step of the node. -/
theorem step_event {e : Event} {replies : Replies} (h : s.step (.event e replies) = some t) :
    e ≠ .handshakeTimer ∧ e ≠ .udpPeerLost ∧ (s.ticking = true → e.onExecutor = false) ∧
      s.node.step (e, replies) = some t.node ∧ t = { s with node := t.node } := by
  simp only [step] at h
  split at h
  · cases h
  rename_i hkind
  split at h
  · cases h
  rename_i hfree
  obtain ⟨htick, hlost⟩ := not_or.mp hkind
  obtain ⟨m, hm, ht⟩ := Option.bind_eq_some_iff.mp h
  obtain ⟨-, ht⟩ := Option.ite_none_left_eq_some.mp ht
  cases ht
  exact ⟨htick, hlost, fun hticking => by simpa [hticking] using hfree, hm, rfl⟩

/-- What an event does to the UDP module. -/
theorem Sound.udpMove {e : Event} {replies : Replies} (h : s.Sound)
    (hstep : s.step (.event e replies) = some t) : UdpMove s.node.udp t.node := by
  obtain ⟨htick, hlost, -, hm, -⟩ := step_event hstep
  have hmove : Move { s.node with replies } e t.node := step_moves h.idle hm
  exact Move.udpMove (n := { s.node with replies }) h.control h.running_open hmove htick hlost

theorem Sound.event {e : Event} {replies : Replies} (h : s.Sound)
    (hstep : s.step (.event e replies) = some t) : t.Sound := by
  obtain ⟨-, hlost, hfree, hm, ht⟩ := step_event hstep
  have hmove : Move { s.node with replies } e t.node := step_moves h.idle hm
  have hconfig : t.node.config = s.node.config := hmove.config
  have hrollback : t.rollback = s.rollback := by rw [ht]
  have hticking : t.ticking = s.ticking := by rw [ht]
  have hspeaks : SpeaksFor { s.node with replies } := h.speaks
  refine ⟨idle_step h.idle hm, hconfig ▸ h.control, ?_, hspeaks.move hmove, ?_⟩
  · cases h.udpMove hstep with
    | same hsame =>
      rw [hsame]
      exact h.running_open
    | stopped hstopped => exact fun hrunning => absurd hrunning (by simp [hstopped])
    | fresh hfresh => exact fun _ => hfresh.open_
    | ack hrunning hready link hack =>
      rw [hack]
      exact fun _ => h.running_open hrunning
  · intro hin
    rw [hticking] at hin
    obtain ⟨hsame | hready, posted, hqueue⟩ := hmove.bystander (hfree hin) hlost
    · have hsame' : t.node.udp = s.node.udp := hsame
      -- a tick that goes on still has its readiness, or its loss on the way
      rcases h.tick hin with hready | hpending
      · refine .inl ?_
        unfold ready at hready ⊢
        rw [hsame', hconfig]
        exact hready
      · refine .inr ?_
        unfold Pending at hpending ⊢
        rw [hqueue, hrollback]
        rcases hpending with hposted | hgoing
        · exact .inl (List.mem_append_left _ hposted)
        · exact .inr hgoing
    · exact .inl hready

/-- A tick reports, waits on, or cancels its timer in a stopped module. -/
theorem Sound.tick_step (h : s.Sound) (hstep : s.step .tick = some t) :
    t.Sound ∧ t.rollback = s.rollback ∧ (t.node = s.node ∨
      t.node = s.node.setUdp s.node.udp.cancelHandshakeTimer ∧ s.node.udp.isRunning = false) := by
  simp only [step] at hstep
  split at hstep
  · cases hstep
  split at hstep
  · rename_i hsaw
    cases hstep
    obtain ⟨-, hready⟩ := Bool.and_eq_true_iff.mp hsaw
    exact ⟨⟨h.idle, h.control, h.running_open, h.speaks, fun _ => .inl hready⟩, rfl, .inl rfl⟩
  · rename_i hfree hquiet
    cases hstep
    have hfree' : s.ticking = false := by
      by_contra hticking
      simp [(Bool.not_eq_false _).mp hticking] at hfree
    have htick (n : MainNode) : ({ s with node := n } : HandshakeThreads).ticking = true →
        False := by
      intro hticking
      cases hfree'.symm.trans hticking
    rcases handshakeTimerCallback_quiet h.running_open ((Bool.not_eq_true _).mp hquiet) with
      ⟨hsame, -⟩ | ⟨hcancel, hstopped⟩
    · rw [hsame]
      exact ⟨⟨h.idle, h.control, h.running_open, h.speaks, fun hin => (htick _ hin).elim⟩, rfl,
        .inl rfl⟩
    · rw [hcancel]
      exact ⟨⟨h.idle, h.control, h.running_open, h.speaks, fun hin => (htick _ hin).elim⟩, rfl,
        .inr ⟨rfl, hstopped⟩⟩

/-- Every step keeps the invariant. -/
theorem Sound.step (h : s.Sound) (hstep : s.step a = some t) : t.Sound := by
  cases a with
  | event e replies => exact h.event hstep
  | tick => exact (h.tick_step hstep).1
  | finishTick replies =>
    obtain ⟨-, ht⟩ := Option.ite_none_right_eq_some.mp hstep
    cases ht
    obtain ⟨_, _, _, _, _, _, _, hfinish⟩ := finishTick_footprint (n := { s.node with replies })
    rw [hfinish]
    exact ⟨h.idle, h.control, h.running_open, h.speaks, fun hin => by cases hin⟩
  | decide silence_us =>
    obtain ⟨⟨hidle, -⟩, ht⟩ := Option.ite_none_right_eq_some.mp hstep
    cases ht
    refine ⟨h.idle, h.control, h.running_open, h.speaks, fun hin => ?_⟩
    -- no roll-back is going on when the plane decides, so the tick relies on none
    rcases h.tick hin with hready | hposted | hgoing | hgoing
    · exact .inl hready
    · exact .inr (.inl hposted)
    · cases hidle.symm.trans hgoing
    · cases hidle.symm.trans hgoing
  | clear =>
    obtain ⟨-, ht⟩ := Option.ite_none_right_eq_some.mp hstep
    obtain ⟨link, hlink, ht⟩ := Option.map_eq_some_iff.mp ht
    cases ht
    refine ⟨h.idle, h.control, fun _ => h.running_open ?_, ?_, fun _ => .inr (.inr (.inl rfl))⟩
    · exact Option.isSome_iff_exists.mpr ⟨link, hlink⟩
    · intro link' hlink'
      cases hlink'
      exact h.speaks link hlink
  | unfire =>
    obtain ⟨-, ht⟩ := Option.ite_none_right_eq_some.mp hstep
    cases ht
    exact ⟨h.idle, h.control, h.running_open, h.speaks, fun _ => .inr (.inr (.inr rfl))⟩
  | post =>
    obtain ⟨-, ht⟩ := Option.ite_none_right_eq_some.mp hstep
    cases ht
    refine ⟨h.idle, h.control, h.running_open, h.speaks, fun _ => .inr (.inl ?_)⟩
    exact List.mem_append_right _ (List.mem_singleton_self _)

/-- The constructor at most starts the module. -/
theorem fresh_construct {config : Config} (hcontrol : config.control_enabled = true)
    (response : Option StdString) (replies : Replies) :
    (MainNode.construct config response replies).udp.isRunning = false ∨
      (MainNode.construct config response replies).Fresh := by
  have hregister : (tryRegister { config, replies } response).udp.isRunning = false ∨
      (tryRegister { config, replies } response).Fresh := by
    have hmove : UdpMove {} (tryRegister { config, replies } response) :=
      (tryRegister_moves (n := { config, replies }) response).udpMove hcontrol (fun _ => rfl)
        (by intro h; cases h) (by intro h; cases h)
    cases hmove with
    | same h => exact .inl (by rw [h]; rfl)
    | stopped h => exact .inl h
    | fresh h => exact .inr h
    | ack hrunning => cases hrunning
  -- without the connection, or without a first success, the module is not started
  unfold MainNode.construct grpcStart
  simp only
  split
  · exact .inl rfl
  split
  · exact hregister
  · rcases hregister with hstopped | hfresh
    · exact .inl hstopped
    · exact .inr ⟨hfresh.open_, hfresh.waits, hfresh.timer, hfresh.fired⟩

/-- A new node is sound. -/
theorem sound_construct {config : Config} (hcontrol : config.control_enabled = true)
    (response : Option StdString) (replies : Replies) :
    (construct config response replies).Sound where
  idle := (cleared_construct config response replies).1
  control := by
    have hsame : (MainNode.construct config response replies).config = config :=
      moves_construct (P := fun n => n.config = config) rfl
        (fun _ _ _ _ h hm => hm.config.trans h) (fun _ _ h => h) response
    exact (congrArg Config.control_enabled hsame).trans hcontrol
  running_open hrunning := by
    rcases fresh_construct hcontrol response replies with hstopped | hfresh
    · cases hstopped.symm.trans hrunning
    · exact hfresh.open_
  speaks :=
    moves_construct (fun link hlink => by cases hlink) (fun _ _ _ _ h hm => h.move hm)
      (fun _ _ h => h) response
  tick hin := by cases hin

/-! ## The condition -/

/-- The pending work is posted work that a step cannot take, or a rollback under way. -/
theorem Noticed.of_same (h : s.Noticed) (hudp : t.node.udp = s.node.udp)
    (hconfig : t.node.config = s.node.config) (hpending : s.Pending → t.Pending) : t.Noticed := by
  intro hrunning hready hfree
  unfold ready at hready
  unfold Listens
  rw [hudp] at hrunning hready ⊢
  rw [hconfig] at hready
  exact h hrunning hready fun hin => hfree (hpending hin)

/-- An event that does not take peer-lost work from the queue keeps what is noticed. -/
theorem Noticed.event {e : Event} {replies : Replies} (hs : s.Sound) (h : s.Noticed)
    (hstep : s.step (.event e replies) = some t)
    (hother : ∀ rest, e = .sessionWorkTimer → s.node.session_work_queue ≠ .udpPeerLost :: rest) :
    t.Noticed := by
  obtain ⟨-, -, -, hm, ht⟩ := step_event hstep
  have hmove : Move { s.node with replies } e t.node := step_moves hs.idle hm
  have hrollback : t.rollback = s.rollback := by rw [ht]
  cases hs.udpMove hstep with
  | same hsame =>
    refine h.of_same hsame hmove.config fun hpending => ?_
    rcases hpending with hposted | hgoing
    · refine .inl ?_
      rcases hmove.queue with ⟨posted, hqueue⟩ | ⟨htimer, work, hqueue⟩
      · rw [hqueue]
        exact List.mem_append_left _ hposted
      · have hqueue' : s.node.session_work_queue = work :: t.node.session_work_queue := hqueue
        rw [hqueue'] at hposted
        -- the drain took other work, so the loss is still queued
        rcases List.mem_cons.mp hposted with hhead | hrest
        · exact absurd (hhead ▸ hqueue') (hother _ htimer)
        · exact hrest
    · rw [← hrollback] at hgoing
      exact .inr hgoing
  | stopped hstopped => exact fun hrunning => absurd hrunning (by simp [hstopped])
  | fresh hfresh => exact fun _ _ _ => ⟨hfresh.timer, hfresh.fired⟩
  | ack hrunning hready => exact fun _ hwaits => absurd hwaits (by simp [hready])

/-- The work that a peer was lost, at the head of the queue. -/
theorem drain_peerLost {rest : List SessionWork} {replies : Replies}
    (hqueue : s.node.session_work_queue = .udpPeerLost :: rest)
    (hstep : s.step (.event .sessionWorkTimer replies) = some t) :
    t.node = handleUdpPeerLost { s.node with replies, session_work_queue := rest } ∧
      t.rollback = s.rollback := by
  obtain ⟨-, -, -, hm, ht⟩ := step_event hstep
  obtain ⟨-, hm⟩ := Option.ite_none_right_eq_some.mp hm
  have hhead : ({ s.node with replies } : MainNode).session_work_queue = .udpPeerLost :: rest :=
    hqueue
  rw [drainSessionWork_cons hhead] at hm
  exact ⟨(Option.some.inj hm).symm, by rw [ht]⟩

/-- Peer-lost work that finds the node negotiating or running resets the session. -/
theorem peerLost_active {n m : MainNode} (hidle : n.session_teardown_in_progress = false)
    (hactive : n.state.active = true) (hm : n.handleUdpPeerLost = m) :
    m.config = n.config ∧ m.udp = n.udp.resetSession n.config.control_enabled := by
  obtain ⟨telemetry, joint, replies, hteardown⟩ :=
    teardownActiveSession_footprint n hidle (show State.active .pairing = false from rfl)
  rw [handleUdpPeerLost, hactive] at hm
  simp only [Bool.not_true, Bool.false_eq_true, if_false] at hm
  rw [← hm, hteardown]
  exact ⟨rfl, rfl⟩

/-- Otherwise it leaves the UDP module and the queue alone. -/
theorem peerLost_inactive {n m : MainNode} (hactive : n.state.active = false)
    (hm : n.handleUdpPeerLost = m) :
    m.config = n.config ∧ m.udp = n.udp ∧ m.session_work_queue = n.session_work_queue := by
  obtain ⟨telemetry, joint, hlifecycle⟩ := n.updateRobotTelemetryLifecycle_footprint
  rw [handleUdpPeerLost, hactive] at hm
  simp only [Bool.not_false, if_true] at hm
  rw [← hm, hlifecycle]
  exact ⟨rfl, rfl, rfl⟩

/-- The work of a lost peer leaves the loss noticed exactly where it meets the condition. -/
theorem noticed_peerLost {rest : List SessionWork} {replies : Replies} (hs : s.Sound)
    (hqueue : s.node.session_work_queue = .udpPeerLost :: rest)
    (hstep : s.step (.event .sessionWorkTimer replies) = some t) :
    s.LossHandled (.event .sessionWorkTimer replies) ↔ t.Noticed := by
  obtain ⟨hnode, hrollback⟩ := drain_peerLost hqueue hstep
  unfold LossHandled Noticed Pending
  rw [hrollback]
  -- an active session is reset, another one keeps its module as it is
  cases hactive : s.node.state.active with
  | true =>
    obtain ⟨hconfig, hudp⟩ := peerLost_active
      (n := { s.node with replies, session_work_queue := rest }) hs.idle hactive hnode.symm
    refine ⟨fun _ hrunning _ _ => ?_, fun _ _ _ hin => by cases hin⟩
    rcases fresh_resetSession (n := { s.node with replies, session_work_queue := rest })
      hs.control hs.running_open hconfig hudp with hstopped | hfresh
    · cases hstopped.symm.trans hrunning
    · exact ⟨hfresh.timer, hfresh.fired⟩
  | false =>
    obtain ⟨hconfig, hudp, hrest⟩ := peerLost_inactive
      (n := { s.node with replies, session_work_queue := rest }) hactive hnode.symm
    have hready : t.node.ready = s.node.ready := by rw [ready, ready, hudp, hconfig]
    unfold Listens
    rw [hready, hudp, hrest]
    constructor
    · exact fun hcond => hcond rest hqueue rfl
    · intro hnoticed rest' hqueue' _
      cases hqueue.symm.trans hqueue'
      exact hnoticed

/-- A step keeps what is noticed exactly when it meets the condition. -/
theorem noticed_step (hs : s.Sound) (h : s.Noticed) (hstep : s.step a = some t) :
    s.LossHandled a ↔ t.Noticed := by
  cases a with
  | event e replies =>
    by_cases hlost : ∃ rest, e = .sessionWorkTimer ∧
        s.node.session_work_queue = .udpPeerLost :: rest
    · obtain ⟨rest, rfl, hqueue⟩ := hlost
      exact noticed_peerLost hs hqueue hstep
    · have hkept : t.Noticed :=
        h.event hs hstep fun rest htimer hqueue => hlost ⟨rest, htimer, hqueue⟩
      refine ⟨fun _ => hkept, fun _ => ?_⟩
      cases e with
      | sessionWorkTimer => exact fun rest hqueue => absurd ⟨rest, rfl, hqueue⟩ hlost
      | _ => trivial
  | tick =>
    refine ⟨fun _ => ?_, fun _ => trivial⟩
    obtain ⟨-, hrollback, hsame | ⟨hcancel, hstopped⟩⟩ := hs.tick_step hstep
    · refine h.of_same (by rw [hsame]) (by rw [hsame]) fun hpending => ?_
      rwa [Pending, hsame, hrollback]
    · intro hrunning
      rw [hcancel] at hrunning
      cases hstopped.symm.trans hrunning
  | finishTick replies =>
    refine ⟨fun _ _ hready hfree => ?_, fun _ => trivial⟩
    obtain ⟨hticking, ht⟩ := Option.ite_none_right_eq_some.mp hstep
    cases ht
    obtain ⟨_, _, _, _, _, _, _, hfinish⟩ := finishTick_footprint (n := { s.node with replies })
    rw [hfinish] at hready hfree
    -- the handshake was ready when the tick began, so a rollback is pending
    rcases hs.tick hticking with hup | hpending
    · cases hready.symm.trans hup
    · exact absurd hpending hfree
  | decide silence_us =>
    obtain ⟨⟨hidle, -⟩, ht⟩ := Option.ite_none_right_eq_some.mp hstep
    cases ht
    refine ⟨fun _ => h.of_same rfl rfl fun hpending => ?_, fun _ => trivial⟩
    rcases hpending with hposted | hgoing | hgoing
    · exact .inl hposted
    · cases hidle.symm.trans hgoing
    · cases hidle.symm.trans hgoing
  | clear =>
    obtain ⟨-, ht⟩ := Option.ite_none_right_eq_some.mp hstep
    obtain ⟨link, -, ht⟩ := Option.map_eq_some_iff.mp ht
    cases ht
    exact ⟨fun _ _ _ hfree => absurd (.inr (.inl rfl)) hfree, fun _ => trivial⟩
  | unfire =>
    obtain ⟨-, ht⟩ := Option.ite_none_right_eq_some.mp hstep
    cases ht
    exact ⟨fun _ _ _ hfree => absurd (.inr (.inr rfl)) hfree, fun _ => trivial⟩
  | post =>
    obtain ⟨-, ht⟩ := Option.ite_none_right_eq_some.mp hstep
    cases ht
    refine ⟨fun _ _ _ hfree => absurd (.inl ?_) hfree, fun _ => trivial⟩
    exact List.mem_append_right _ (List.mem_singleton_self _)

/-! ## One report for one ACK -/

/-- The step calls `on_ready_`. -/
def firesReady (s : HandshakeThreads) : HandshakeAction → Bool
  | .finishTick _ => s.ticking && !s.node.udp.ready_fired
  | _ => false

/-- The calls of `on_ready_` in a run. -/
def readyCalls : HandshakeThreads → List HandshakeAction → ℕ
  | _, [] => 0
  | s, a :: as =>
    (s.firesReady a).toNat +
      match s.step a with
      | none => 0
      | some t => readyCalls t as

/-- The handshake came up, and was reported once if at all since. -/
structure Reporting (s : HandshakeThreads) (calls : ℕ) : Prop where
  rollback : s.rollback = .idle ∨ s.rollback = .decided
  report : s.node.udp.ready_fired = false ∧ s.node.udp.handshake_timer = true ∧ calls = 0 ∨
    s.node.udp.ready_fired = true ∧ s.node.udp.handshake_timer = false ∧ s.ticking = false ∧
      calls = 1

/-- A stopped module is not ready. -/
theorem not_ready_of_stopped {n : MainNode} (h : n.udp.isRunning = false) : n.ready = false :=
  UdpModule.isHandshakeReady_idle h _

/-- An event keeps the count of the reports. -/
theorem Reporting.event {calls : ℕ} {e : Event} {replies : Replies} (hs : s.Sound)
    (h : s.Reporting calls) (hstep : s.step (.event e replies) = some t)
    (hready : t.node.ready = true) : t.Reporting calls := by
  obtain ⟨-, -, -, -, ht⟩ := step_event hstep
  have hrollback : t.rollback = s.rollback := by rw [ht]
  have hticking : t.ticking = s.ticking := by rw [ht]
  have hkept (hfired : t.node.udp.ready_fired = s.node.udp.ready_fired)
      (htimer : t.node.udp.handshake_timer = s.node.udp.handshake_timer) :
      t.Reporting calls := by
    refine ⟨hrollback ▸ h.rollback, ?_⟩
    rw [hfired, htimer, hticking]
    exact h.report
  cases hs.udpMove hstep with
  | same hsame => exact hkept (by rw [hsame]) (by rw [hsame])
  -- a stop and a reset take the readiness away, against the assumption
  | stopped hstopped => cases (not_ready_of_stopped hstopped).symm.trans hready
  | fresh hfresh => cases hfresh.waits.symm.trans hready
  | ack hrunning hup link hack => exact hkept (by rw [hack]) (by rw [hack])

/-- While the handshake stays ready it is reported once. -/
theorem Reporting.step {calls : ℕ} (hs : s.Sound) (h : s.Reporting calls)
    (hstep : s.step a = some t) (hready : t.node.ready = true) :
    t.Reporting (calls + (s.firesReady a).toNat) := by
  cases a with
  | event e replies => exact h.event hs hstep hready
  | tick =>
    -- a tick does not begin while one is under way, and a stopped module is not ready
    obtain ⟨-, hrollback, hsame | ⟨hcancel, hstopped⟩⟩ := hs.tick_step hstep
    · refine ⟨hrollback ▸ h.rollback, ?_⟩
      rw [hsame]
      rcases h.report with hwaits | ⟨-, htimer, hidle, -⟩
      · exact .inl hwaits
      · simp [HandshakeThreads.step, hidle, htimer] at hstep
    · rw [hcancel] at hready
      cases (not_ready_of_stopped hstopped).symm.trans hready
  | finishTick replies =>
    obtain ⟨hticking, ht⟩ := Option.ite_none_right_eq_some.mp hstep
    cases ht
    obtain ⟨_, _, _, _, _, _, _, hfinish⟩ := finishTick_footprint (n := { s.node with replies })
    refine ⟨h.rollback, .inr ⟨?_, ?_, rfl, ?_⟩⟩
    · rw [hfinish]
    · rw [hfinish]
    · rcases h.report with ⟨hfired, -, rfl⟩ | ⟨-, -, hidle, -⟩
      · simp [firesReady, hticking, hfired]
      · cases hidle.symm.trans hticking
  | decide silence_us =>
    obtain ⟨-, ht⟩ := Option.ite_none_right_eq_some.mp hstep
    cases ht
    exact ⟨.inr rfl, h.report⟩
  | clear =>
    obtain ⟨-, ht⟩ := Option.ite_none_right_eq_some.mp hstep
    obtain ⟨link, -, ht⟩ := Option.map_eq_some_iff.mp ht
    cases ht
    -- the handshake is gone after this step, against `hready`
    have hdown : (s.node.clearHandshake link).ready = false := by
      simp [ready, clearHandshake, UdpModule.isHandshakeReady, hs.control]
    cases hdown.symm.trans hready
  -- the two later phases of a rollback come after the clear
  | unfire =>
    obtain ⟨hcleared, -⟩ := Option.ite_none_right_eq_some.mp hstep
    rcases h.rollback with hidle | hdecided
    · cases hidle.symm.trans hcleared
    · cases hdecided.symm.trans hcleared
  | post =>
    obtain ⟨hunfired, -⟩ := Option.ite_none_right_eq_some.mp hstep
    rcases h.rollback with hidle | hdecided
    · cases hidle.symm.trans hunfired
    · cases hdecided.symm.trans hunfired

/-- Every state of the run, the first one included, has the handshake. -/
def StaysReady (s : HandshakeThreads) (actions : List HandshakeAction) : Prop :=
  ∀ prior t, prior <+: actions → runSteps step s prior = some t → t.node.ready = true

/-- While the node stays ready, the ready callback is called once in all. -/
theorem Reporting.run {calls : ℕ} {actions : List HandshakeAction} (hs : s.Sound)
    (h : s.Reporting calls) (hready : s.StaysReady actions)
    (hrun : runSteps HandshakeThreads.step s actions = some t) :
    t.Reporting (calls + readyCalls s actions) := by
  induction actions generalizing s calls with
  | nil =>
    cases hrun
    exact h
  | cons a actions ih =>
    obtain ⟨s', hstep, hrest⟩ := runSteps_cons_eq_some.mp hrun
    have hup : s'.node.ready = true :=
      hready [a] s' ⟨actions, rfl⟩ (runSteps_cons_eq_some.mpr ⟨s', hstep, rfl⟩)
    have hstays : s'.StaysReady actions := fun prior u hprior hu =>
      hready (a :: prior) u (List.cons_prefix_cons.mpr ⟨rfl, hprior⟩)
        (runSteps_cons_eq_some.mpr ⟨s', hstep, hu⟩)
    have hreport := ih (hs.step hstep) (h.step hs hstep hup) hstays hrest
    rw [readyCalls, hstep, ← Nat.add_assoc]
    exact hreport

/-- The ACK that a waiting module gets. -/
theorem reporting_ack {replies : Replies} (hlistens : s.node.Listens) (hfree : ¬ s.Pending)
    (hstep : s.step (.event .handshakeAck replies) = some t) : t.Reporting 0 := by
  obtain ⟨-, -, -, hm, ht⟩ := step_event hstep
  obtain ⟨link, -, hack⟩ := Option.map_eq_some_iff.mp hm
  have hrollback : t.rollback = s.rollback := by rw [ht]
  refine ⟨?_, .inl ?_⟩
  · rw [hrollback]
    cases hphase : s.rollback with
    | idle => exact .inl rfl
    | decided => exact .inr rfl
    | cleared => exact absurd (.inr (.inl hphase)) hfree
    | unfired => exact absurd (.inr (.inr hphase)) hfree
  · rw [← hack]
    exact ⟨hlistens.2, hlistens.1, rfl⟩

/-- Handshake readiness is noticed, throughout a run of the three threads, exactly when the
peer-lost work of the run meets the condition. A module that listens reports the next ACK once,
at the next ticks of its timer, and restarts the telemetry. -/
theorem handshake_noticed (config : Config) (hcontrol : config.control_enabled = true)
    (response : Option StdString) (replies : Replies) (actions : List HandshakeAction)
    (s : HandshakeThreads)
    (hrun : runSteps step (construct config response replies) actions = some s) :
    (StepsMeet step LossHandled (construct config response replies) actions ↔
      ∀ prior t, prior <+: actions →
        runSteps step (construct config response replies) prior = some t → t.Noticed) ∧
    (s.node.Listens → ¬ s.Pending → ∀ replies acked,
      s.step (.event .handshakeAck replies) = some acked → ∀ later t,
        runSteps step acked later = some t → acked.StaysReady later →
          readyCalls acked later = t.node.udp.ready_fired.toNat ∧
            (t.node.udp.ready_fired = false → t.node.udp.handshake_timer = true)) ∧
    ∀ a t, s.firesReady a = true → s.node.ready = true → s.step a = some t →
      (s.node.config.telemetry_enabled = true → t.node.telemetry_active = true) ∧
        (s.node.config.joint_telemetry_enabled = true →
          t.node.joint_telemetry_active = true) := by
  have hstart := sound_construct hcontrol response replies
  have hsound := runSteps_invariant (fun _ _ _ h hstep => Sound.step h hstep) hstart hrun
  refine ⟨?_, ?_, ?_⟩
  · refine stepsMeet_iff (fun _ _ _ h hstep => Sound.step h hstep)
      (fun _ _ _ h hnoticed hstep => noticed_step h hnoticed hstep) hstart ?_ hrun
    intro hrunning _ _
    rcases fresh_construct hcontrol response replies with hstopped | hfresh
    · cases hstopped.symm.trans hrunning
    · exact ⟨hfresh.timer, hfresh.fired⟩
  · intro hlistens hfree replies acked hack later t hlater hready
    -- the report of this acknowledgement is due from the step on, and is made at most once
    have hacked := reporting_ack hlistens hfree hack
    have hreport := hacked.run (hsound.step hack) hready hlater
    rcases hreport.report with ⟨hfired, htimer, hcalls⟩ | ⟨hfired, -, -, hcalls⟩
    · rw [hfired]
      exact ⟨by simpa using hcalls, fun _ => htimer⟩
    · rw [hfired]
      exact ⟨by simpa using hcalls, fun hset => by cases hset⟩
  · intro a t hfires hready hstep
    cases a with
    | finishTick replies =>
      obtain ⟨-, ht⟩ := Option.ite_none_right_eq_some.mp hstep
      cases ht
      have hfired : s.node.udp.ready_fired = false := by
        simpa using (Bool.and_eq_true_iff.mp hfires).2
      have hrunning : s.node.udp.isRunning = true := by
        by_contra hstopped
        cases (not_ready_of_stopped ((Bool.not_eq_true _).mp hstopped)).symm.trans hready
      obtain ⟨link, hlink⟩ := Option.isSome_iff_exists.mp hrunning
      exact finishTick_telemetry (n := { s.node with replies }) hfired hready hrunning
        (hsound.speaks link hlink).1
    | _ => cases hfires

/-- A peer is given up after 150 ms. -/
def impatient : Config := { peer_lost_timeout_us := 150000 }

/-- The handshake completes and is reported. -/
def handshakes : List HandshakeAction :=
  [.event .handshakeAck {}, .tick, .finishTick {}]

/-- After 200 ms without an ACK the control thread gives the peer up, and the posted work is
drained. -/
def losesPeer : List HandshakeAction :=
  [.decide 200000, .clear, .unfire, .post, .event .sessionWorkTimer {}]

/-- A peer pairs before it is lost. -/
def losesPaired : List HandshakeAction :=
  let peer : PeerInfo := { session_id := ['p'], device_type_code := [] }
  handshakes ++ [.event (.streamMessage (.pair ⟨.accept, some peer⟩)) {},
    .event .sessionWorkTimer { outcomes := [true, false] }] ++ losesPeer

theorem handshake_noticed_paired :
    ∃ s, runSteps step (construct impatient (some ['s']) { outcomes := [true, true] })
      losesPaired = some s ∧ s.node.udp.isRunning = true ∧ s.node.ready = false ∧ s.Noticed := by
  obtain ⟨s, hrun, hrunning, hready⟩ : ∃ s,
      runSteps step (construct impatient (some ['s']) { outcomes := [true, true] })
        losesPaired = some s ∧ s.node.udp.isRunning = true ∧ s.node.ready = false :=
    ⟨_, rfl, rfl, rfl⟩
  obtain ⟨hiff, -⟩ := handshake_noticed impatient rfl (some ['s']) { outcomes := [true, true] }
    losesPaired s hrun
  refine ⟨s, hrun, hrunning, hready, hiff.mp ?_ _ _ List.prefix_rfl hrun⟩
  iterate 4 (refine StepsMeet.cons rfl trivial ?_)
  refine StepsMeet.cons rfl (fun rest hqueue => by cases hqueue) ?_
  iterate 4 (refine StepsMeet.cons rfl trivial ?_)
  exact StepsMeet.cons rfl (fun rest hqueue hactive => by cases hactive) trivial

/-- A peer that is lost while the node looks for one leaves the timer cancelled. -/
theorem handshake_unnoticed :
    ¬ ∀ config response replies actions s, config.control_enabled = true →
      runSteps step (construct config response replies) actions = some s → s.Noticed := by
  intro hall
  have hnoticed := hall impatient (some ['s']) { outcomes := [true, true] }
    (handshakes ++ losesPeer) _ rfl rfl
  obtain ⟨htimer, -⟩ := hnoticed rfl rfl (by rintro (h | h | h) <;> cases h)
  cases htimer

end HandshakeThreads

end TeleopBridge.Node
