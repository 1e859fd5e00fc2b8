import TeleopBridge.Node.Steps

/-!
# The UDP Module and the Work Queue Under an Event

An event off the handshake timer and the control thread leaves the UDP module alone, stops
it, marks its handshake done, or makes it fresh; and it appends to the work queue or takes its
head.

## Key Results

- `Move.udpMove`: what an event does to the UDP module.
- `Move.queue`: what an event does to the work queue.
-/

namespace TeleopBridge.Node

namespace MainNode

variable {n m : MainNode}

/-- `UdpModule::isHandshakeReady`. -/
def ready (n : MainNode) : Bool := n.udp.isHandshakeReady n.config.control_enabled

/-! ## The UDP module -/

/-- The module was reset or started just now: the timer waits for the handshake. -/
structure Fresh (m : MainNode) : Prop where
  open_ : m.udp.shutting_down = false
  waits : m.ready = false
  timer : m.udp.handshake_timer = true
  fired : m.udp.ready_fired = false

/-- What an event does to the UDP module. -/
inductive UdpMove (u : UdpModule) (m : MainNode) : Prop
  | same (h : m.udp = u)
  | stopped (h : m.udp.isRunning = false)
  | fresh (h : m.Fresh)
  | ack (hrunning : u.isRunning = true) (hready : m.ready = true) (link : UdpLink)
      (h : m.udp = { u with udp_manager := some link })

/-- A reset of the session, if the module runs, makes it fresh. -/
theorem fresh_resetSession (hcontrol : n.config.control_enabled = true)
    (hopen : n.udp.isRunning = true → n.udp.shutting_down = false)
    (hconfig : m.config = n.config)
    (hudp : m.udp = n.udp.resetSession n.config.control_enabled) :
    m.udp.isRunning = false ∨ m.Fresh := by
  by_cases hrunning : n.udp.isRunning = true
  · have hshut := hopen hrunning
    obtain ⟨link, hlink⟩ := Option.isSome_iff_exists.mp hrunning
    have hreset : m.udp =
        { n.udp with
          udp_manager := some { link with handshake_ready := false }
          ready_fired := false
          handshake_timer := true } := by
      rw [hudp, UdpModule.resetSession, hlink, hcontrol]
      simp [hshut]
    refine .inr ⟨?_, ?_, ?_, ?_⟩
    · rw [hreset]
      exact hshut
    · unfold ready UdpModule.isHandshakeReady
      rw [hreset, hconfig, hcontrol]
      rfl
    · rw [hreset]
    · rw [hreset]
  · refine .inl ?_
    rw [hudp, UdpModule.isRunning_resetSession]
    exact (Bool.not_eq_true _).mp hrunning

theorem udpMove_resetSession (hcontrol : n.config.control_enabled = true)
    (hopen : n.udp.isRunning = true → n.udp.shutting_down = false)
    (hconfig : m.config = n.config)
    (hudp : m.udp = n.udp.resetSession n.config.control_enabled) : UdpMove n.udp m := by
  rcases fresh_resetSession hcontrol hopen hconfig hudp with hstopped | hfresh
  · exact .stopped hstopped
  · exact .fresh hfresh

theorem SetupEnds.udpMove (hcontrol : n.config.control_enabled = true) (hm : n.SetupEnds m) :
    UdpMove n.udp m := by
  cases hm with
  | unregistered => exact .same rfl
  | retry hregistered published udp replies hudp =>
    rcases hudp with rfl | ⟨hidle, rfl⟩
    · exact .same rfl
    · exact .stopped hidle
  | running => exact .same rfl
  | started =>
    refine .fresh ⟨rfl, ?_, rfl, rfl⟩
    simp [MainNode.ready, UdpModule.isHandshakeReady, startedUdp, hcontrol]
  | ready _ _ hdisabled => cases hcontrol.symm.trans hdisabled

theorem WorkMove.udpMove {work : SessionWork} (hcontrol : n.config.control_enabled = true)
    (hopen : n.udp.isRunning = true → n.udp.shutting_down = false) (hm : n.WorkMove work m) :
    UdpMove n.udp m := by
  cases hm with
  | skip => exact .same rfl
  | telemetry => exact .same rfl
  | udpHello => exact udpMove_resetSession hcontrol hopen rfl rfl
  | accept peer registration =>
    exact .same (congrArg Surroundings.udp (surroundings_startVideoAndNegotiate
      (n.storePairing peer.session_id registration)))
  | acceptRequest peer registration =>
    obtain ⟨replies, hrpc⟩ := n.rpc_footprint
    rw [hrpc]
    exact .same (congrArg Surroundings.udp (surroundings_startVideoAndNegotiate
      (storePairing { n with replies } peer.session_id registration)))
  | reject peer registration =>
    obtain ⟨subscribed, prefixes, hreject⟩ := n.handlePairReject_footprint peer
    rw [hreject]
    exact .same rfl
  | unpair | peerLost | streamEnd | streamEndPairs =>
    exact udpMove_resetSession hcontrol hopen rfl rfl

theorem Move.udpMove {e : Event} (hcontrol : n.config.control_enabled = true)
    (hopen : n.udp.isRunning = true → n.udp.shutting_down = false) (hm : n.Move e m)
    (htick : e ≠ .handshakeTimer) (hlost : e ≠ .udpPeerLost) : UdpMove n.udp m := by
  cases hm with
  | register session_id hunset hends =>
    exact SetupEnds.udpMove (n := n.registeredAs session_id) hcontrol hends
  | lose => exact .stopped rfl
  | setup hends => exact hends.udpMove hcontrol
  | handshakeCancel | handshakeReady => exact absurd rfl htick
  | rollback => exact absurd rfl hlost
  | negotiationRetry =>
    exact .same (congrArg Surroundings.udp n.surroundings_negotiationRetryTimerCallback)
  | parameterSets =>
    exact .same (congrArg Surroundings.udp (surroundings_emitCachedParameterSetsIfReady _))
  | work work rest hqueue hm =>
    exact WorkMove.udpMove (n := { n with session_work_queue := rest }) hcontrol hopen hm
  | ack link hlink =>
    refine .ack (Option.isSome_iff_exists.mpr ⟨link, hlink⟩) ?_
      { link with handshake_ready := true } rfl
    simp [MainNode.ready, UdpModule.isHandshakeReady, onAckReceived]
  | _ => exact .same rfl

/-! ## The work queue -/

theorem SetupEnds.queue (hm : n.SetupEnds m) : m.session_work_queue = n.session_work_queue := by
  cases hm <;> rfl

theorem WorkMove.queue {work : SessionWork} (hm : n.WorkMove work m) :
    m.session_work_queue = n.session_work_queue := by
  cases hm with
  | accept peer registration =>
    exact congrArg Surroundings.session_work_queue (surroundings_startVideoAndNegotiate
      (n.storePairing peer.session_id registration))
  | acceptRequest peer registration =>
    obtain ⟨replies, hrpc⟩ := n.rpc_footprint
    rw [hrpc]
    exact congrArg Surroundings.session_work_queue (surroundings_startVideoAndNegotiate
      (storePairing { n with replies } peer.session_id registration))
  | reject peer registration =>
    obtain ⟨subscribed, prefixes, hreject⟩ := n.handlePairReject_footprint peer
    rw [hreject]
  | _ => rfl

/-- An event appends to the queue, or takes its head. -/
theorem Move.queue {e : Event} (hm : n.Move e m) :
    (∃ posted, m.session_work_queue = n.session_work_queue ++ posted) ∨
      e = .sessionWorkTimer ∧ ∃ work, n.session_work_queue = work :: m.session_work_queue := by
  have hsame {m : MainNode} (h : m.session_work_queue = n.session_work_queue) :
      ∃ posted, m.session_work_queue = n.session_work_queue ++ posted :=
    ⟨[], by rw [h, List.append_nil]⟩
  cases hm with
  | register session_id hunset hends => exact .inl (hsame hends.queue)
  | setup hends => exact .inl (hsame hends.queue)
  | negotiationRetry =>
    exact .inl (hsame (congrArg Surroundings.session_work_queue
      n.surroundings_negotiationRetryTimerCallback))
  | parameterSets =>
    exact .inl (hsame (congrArg Surroundings.session_work_queue
      (surroundings_emitCachedParameterSetsIfReady _)))
  | work work rest hqueue hm => exact .inr ⟨rfl, work, by rw [hm.queue, hqueue]⟩
  | message => exact .inl ⟨_, rfl⟩
  | streamFailed => exact .inl ⟨_, rfl⟩
  | rollback => exact .inl ⟨_, rfl⟩
  | _ => exact .inl (hsame rfl)

end MainNode

end TeleopBridge.Node
