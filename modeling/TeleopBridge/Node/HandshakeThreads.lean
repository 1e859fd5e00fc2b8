import TeleopBridge.Node.Recovery
import TeleopBridge.Node.UdpMoves

/-!
# The Threads Around the Handshake

The control thread of the UDP module gives a silent peer up in several steps, and the
executor's handshake timer reports the handshake in two. Between them the receive thread marks
the handshake done. This file lets the steps of the three threads interleave; everything else
the node does is one event, as before.

The stores of `UdpModule::resetSession` stay one step: those after `resetHandshake` commute
with the stores of the other threads.

## Key Results

- `tick_alone`, `rollback_alone`: steps that nothing interrupts make the event.
-/

namespace TeleopBridge.Node

open TeleopBridge.Support

/-- How far the control thread has given the peer up. -/
inductive Rollback
  | idle
  /-- `threadMain` saw the handshake ready and the last ACK older than the timeout. -/
  | decided
  /-- `handshake_ready_` is stored false. -/
  | cleared
  /-- The peer-lost callback stored `ready_fired_`; its work is not posted yet. -/
  | unfired
  deriving DecidableEq, Repr

/-- The callback runs in the default callback group, which is never preempted by itself. -/
def Event.onExecutor : Event → Bool
  | .peerSubscriptionRetryTimer | .streamMessage _ | .streamFailed | .handshakeAck | .udpPeerLost
  | .parameterSetsCaptured => false
  | _ => true

structure HandshakeThreads where
  node : MainNode
  /-- `handshakeTimerCallback` saw the handshake ready and has not returned. -/
  ticking : Bool := false
  rollback : Rollback := .idle
  deriving DecidableEq, Repr

inductive HandshakeAction
  | event (e : Event) (replies : Replies)
  /-- `handshakeTimerCallback` up to its test of the handshake. -/
  | tick
  | finishTick (replies : Replies)
  /-- `threadMain` tests the handshake and the last ACK, which is `silence_us` ago. -/
  | decide (silence_us : ℤ)
  | clear
  | unfire
  | post
  deriving DecidableEq, Repr

namespace MainNode

variable (n : MainNode)

/-- The rest of `handshakeTimerCallback` once the handshake is ready. -/
def finishTick : MainNode := (n.setUdp n.udp.cancelHandshakeTimer).fireReady

/-- The control thread stores `handshake_ready_`. -/
def clearHandshake (link : UdpLink) : MainNode :=
  n.setUdp { n.udp with udp_manager := some { link with handshake_ready := false } }

/-- The peer-lost callback of the UDP module stores `ready_fired_`. -/
def clearFired : MainNode := n.setUdp { n.udp with ready_fired := false }

end MainNode

namespace HandshakeThreads

variable (s : HandshakeThreads)

/-- An event that stops the UDP module joins the control thread. -/
def joined (m : MainNode) : Option HandshakeThreads :=
  if s.rollback ≠ .idle ∧ m.udp.isRunning = false then none else some { s with node := m }

def step : HandshakeAction → Option HandshakeThreads
  | .event e replies =>
    if e = .handshakeTimer ∨ e = .udpPeerLost then none
    else if s.ticking && e.onExecutor then none
    else (s.node.step (e, replies)).bind s.joined
  | .tick =>
    if s.ticking || !s.node.udp.handshake_timer then none
    else if !s.node.udp.shutting_down && s.node.ready then some { s with ticking := true }
    else some { s with node := s.node.handshakeTimerCallback }
  | .finishTick replies =>
    if s.ticking then
      some { s with node := MainNode.finishTick { s.node with replies }, ticking := false }
    else none
  | .decide silence_us =>
    if s.rollback = .idle ∧ s.node.config.control_enabled ∧ s.node.ready ∧
        0 < s.node.config.peer_lost_timeout_us ∧
        s.node.config.peer_lost_timeout_us < silence_us then
      some { s with rollback := .decided }
    else none
  | .clear =>
    if s.rollback = .decided then
      s.node.udp.udp_manager.map fun link =>
        { s with node := s.node.clearHandshake link, rollback := .cleared }
    else none
  | .unfire =>
    if s.rollback = .cleared then
      some { s with node := s.node.clearFired, rollback := .unfired }
    else none
  | .post =>
    if s.rollback = .unfired then
      some { s with node := s.node.postSessionWork .udpPeerLost, rollback := .idle }
    else none

/-- The node as its constructor leaves it. -/
def construct (config : Config) (response : Option StdString) (replies : Replies) :
    HandshakeThreads where
  node := MainNode.construct config response replies

/-! ## Steps that nothing interrupts -/

/-- A tick that is not interrupted is the handshake timer's event. -/
theorem tick_alone {n m : MainNode} (h : n.handle .handshakeTimer = some m) :
    step { node := n } .tick = some { node := m } ∨
      ((step { node := n } .tick).bind fun t => step t (.finishTick n.replies)) =
        some { node := m } := by
  obtain ⟨harmed, hm⟩ := Option.ite_none_right_eq_some.mp h
  cases hm
  by_cases hsaw : (!n.udp.shutting_down && n.ready) = true
  · refine .inr ?_
    obtain ⟨hopen, hready⟩ := Bool.and_eq_true_iff.mp hsaw
    have hshut : n.udp.shutting_down = false := by simpa using hopen
    have hlink : n.udp.isRunning = true := by
      by_contra hstopped
      rw [MainNode.ready, UdpModule.isHandshakeReady_idle ((Bool.not_eq_true _).mp hstopped)]
        at hready
      cases hready
    have hcallback : n.handshakeTimerCallback = n.finishTick := by
      unfold MainNode.handshakeTimerCallback
      simp only [hshut, hlink, Bool.not_true, Bool.false_eq_true, if_false]
      exact if_pos hready
    simp [step, harmed, hsaw, hcallback]
  · refine .inl ?_
    simp [step, harmed, hsaw]

/-- A rollback that is not interrupted is the event of the control thread, once the last ACK is
older than the timeout. -/
theorem rollback_alone {n m : MainNode} {silence_us : ℤ}
    (hsilence : n.config.peer_lost_timeout_us < silence_us)
    (h : n.handle .udpPeerLost = some m) :
    runSteps step { node := n } [.decide silence_us, .clear, .unfire, .post] =
      some { node := m } := by
  obtain ⟨link, hlink, hm⟩ : ∃ link, n.udp.udp_manager = some link ∧
      (if n.config.control_enabled && link.handshake_ready &&
          decide (0 < n.config.peer_lost_timeout_us) then
        some (n.onUdpPeerLost link) else none) = some m := by
    cases hlink : n.udp.udp_manager with
    | none => simp [MainNode.handle, hlink] at h
    | some link => exact ⟨link, rfl, by simpa only [MainNode.handle, hlink] using h⟩
  obtain ⟨hguard, hm⟩ := Option.ite_none_right_eq_some.mp hm
  cases hm
  obtain ⟨hshaken, htimeout⟩ := Bool.and_eq_true_iff.mp hguard
  obtain ⟨hcontrol, hready⟩ := Bool.and_eq_true_iff.mp hshaken
  have hup : n.ready = true := by
    simp [MainNode.ready, UdpModule.isHandshakeReady, hlink, hready]
  have hdecide : step { node := n } (.decide silence_us) =
      some { node := n, rollback := .decided } :=
    if_pos ⟨rfl, hcontrol, hup, of_decide_eq_true htimeout, hsilence⟩
  have hclear : step { node := n, rollback := .decided } .clear =
      some { node := n.clearHandshake link, rollback := .cleared } := by
    simp [step, hlink]
  refine runSteps_cons_eq_some.mpr ⟨_, hdecide, ?_⟩
  refine runSteps_cons_eq_some.mpr ⟨_, hclear, ?_⟩
  rfl

end HandshakeThreads

end TeleopBridge.Node
