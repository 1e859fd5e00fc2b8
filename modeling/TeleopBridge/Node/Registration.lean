import TeleopBridge.Node.Moves

/-!
# Active States Rest on the Current Registration

A heartbeat failure tears the session down and stops the event stream, but the messages
already queued stay queued. `ACCEPT` opens a negotiation without a look at the
registration, at the UDP module or at the stream that delivered it.

## Key Results

- `active_states_bound`: the active states rest on a live registration throughout a run
  exactly when every accepted `PairEvent` of the run does.
- `queued_accept_outlives_registration`: an `ACCEPT` queued before a heartbeat failure opens
  a negotiation after it.
-/

namespace TeleopBridge.Node

open TeleopBridge.Support

namespace MainNode

/-- An active state has a registration, a running UDP module, and a `PairEvent` from the
event stream of this registration. -/
def ActiveBound (n : MainNode) : Prop :=
  n.state.active = true →
    n.grpc.registered = true ∧ n.udp.isRunning = true ∧
      n.pair_registration = n.grpc.registrations

/-- A `PairEvent` is accepted while the gRPC module is registered and the UDP module runs,
and comes from the event stream of this registration. -/
def AcceptsBound (n : MainNode) (a : Event × Replies) : Prop :=
  ∀ registration, effect { n with replies := a.2 } a.1 = .accept registration →
    n.grpc.registered = true ∧ n.udp.isRunning = true ∧ registration = n.grpc.registrations

theorem ActiveBound.of_bond {n n' : MainNode} (h : n.ActiveBound) (hactive : n.state.active = true)
    (hbond : n'.bond = n.bond) : n'.ActiveBound := by
  intro _
  have hregistered : n'.grpc.registered = n.grpc.registered := congrArg Bond.registered hbond
  have hregistrations : n'.grpc.registrations = n.grpc.registrations :=
    congrArg Bond.registrations hbond
  have hrunning : n'.udp.isRunning = n.udp.isRunning := congrArg Bond.udp_running hbond
  have hpair : n'.pair_registration = n.pair_registration :=
    congrArg Bond.pair_registration hbond
  rw [hregistered, hregistrations, hrunning, hpair]
  exact h hactive

theorem activeBound_of_unpaired {n : MainNode} (h : n.state.active = false) : n.ActiveBound := by
  intro hactive
  rw [h] at hactive
  cases hactive

theorem Cleared.unpaired {n : MainNode} (h : n.Cleared) : n.state.active = false := by
  obtain ⟨-, st, hst, hsession⟩ := h
  have hstate : n.state = st := congrArg SessionView.state hsession
  rw [hstate, hst]

/-- An accepted `PairEvent` binds the active states exactly when it is bound itself. -/
theorem activeBound_accept {n n' : MainNode} {registration : ℕ}
    (hactive : n'.state.active = true)
    (hbond : n'.bond = { n.bond with pair_registration := registration }) :
    n'.ActiveBound ↔ n.grpc.registered = true ∧ n.udp.isRunning = true ∧
      registration = n.grpc.registrations := by
  have hregistered : n'.grpc.registered = n.grpc.registered := congrArg Bond.registered hbond
  have hregistrations : n'.grpc.registrations = n.grpc.registrations :=
    congrArg Bond.registrations hbond
  have hrunning : n'.udp.isRunning = n.udp.isRunning := congrArg Bond.udp_running hbond
  have hpair : n'.pair_registration = registration := congrArg Bond.pair_registration hbond
  unfold ActiveBound
  rw [hregistered, hregistrations, hrunning, hpair, hactive]
  exact ⟨fun h => h rfl, fun h _ => h⟩

/-- One event keeps the active states bound exactly when what it accepts is. -/
theorem activeBound_step {n n' : MainNode} {a : Event × Replies}
    (hidle : n.session_teardown_in_progress = false) (h : n.ActiveBound)
    (hstep : step n a = some n') : n.AcceptsBound a ↔ n'.ActiveBound := by
  have hleaves := handle_effect { n with replies := a.2 } hidle hstep
  unfold AcceptsBound
  cases heffect : effect { n with replies := a.2 } a.1 with
  | carry session =>
    rw [heffect] at hleaves
    obtain ⟨-, st, hst, hsession⟩ := hleaves
    have hstate : n'.state = st := congrArg SessionView.state hsession
    refine ⟨fun _ => activeBound_of_unpaired (hstate ▸ hst), fun _ k hk => by cases hk⟩
  | accept registration =>
    rw [heffect] at hleaves
    have haccept := activeBound_accept hleaves.1 hleaves.2
    constructor
    · intro hbound
      exact haccept.mpr (hbound registration rfl)
    · intro hbound k hk
      cases hk
      exact haccept.mp hbound
  | other =>
    rw [heffect] at hleaves
    refine ⟨fun _ => ?_, fun _ k hk => by cases hk⟩
    rcases hleaves with ⟨hbond, hsame⟩ | ⟨hbond, hactive, -⟩ | hclear | ⟨-, hstopped, hsame⟩
    · intro hactive'
      have hstate : n'.state = n.state := congrArg SessionView.state hsame
      exact h.of_bond (hstate ▸ hactive') hbond hactive'
    · exact h.of_bond hactive hbond
    · exact activeBound_of_unpaired hclear.unpaired
    · -- an active state would have a running UDP module
      intro hactive'
      have hstate : n'.state = n.state := congrArg SessionView.state hsame
      have hrunning := (h (hstate ▸ hactive')).2.1
      rw [show n.udp.isRunning = false from hstopped] at hrunning
      cases hrunning

/-- The active states rest on the current registration throughout a run exactly when every
`PairEvent` accepted in the run does. -/
theorem active_states_bound (config : Config) (response : Option StdString)
    (replies : Replies) (events : List (Event × Replies)) (n : MainNode)
    (hrun : runSteps step (construct config response replies) events = some n) :
    StepsMeet step AcceptsBound (construct config response replies) events ↔
      ∀ prior m, prior <+: events →
        runSteps step (construct config response replies) prior = some m → m.ActiveBound :=
  have hstart := cleared_construct config response replies
  stepsMeet_iff (fun _ _ _ hidle hstep => idle_step hidle hstep)
    (fun _ _ _ hidle h hstep => activeBound_step hidle h hstep)
    hstart.1 (activeBound_of_unpaired hstart.unpaired) hrun

/-- A pairing on the current event stream. -/
def boundPairing : List (Event × Replies) :=
  let peer : PeerInfo := { session_id := ['p'], device_type_code := [] }
  [(.handshakeAck, {}), (.handshakeTimer, {}),
    (.streamMessage (.pair ⟨.accept, some peer⟩), {}),
    (.sessionWorkTimer, { outcomes := [true, false] })]

theorem active_states_bound_pairing :
    ∃ n, runSteps step (construct {} (some ['s']) { outcomes := [true, true] })
      boundPairing = some n ∧ n.state = .negotiating ∧ n.ActiveBound := by
  refine ⟨_, rfl, rfl, ?_⟩
  have hiff := active_states_bound {} (some ['s']) { outcomes := [true, true] } boundPairing _ rfl
  refine hiff.mp ?_ _ _ List.prefix_rfl rfl
  refine StepsMeet.cons rfl (fun _ h => by cases h) ?_
  refine StepsMeet.cons rfl (fun _ h => by cases h) ?_
  refine StepsMeet.cons rfl (fun _ h => by cases h) ?_
  refine StepsMeet.cons rfl (fun _ h => by cases h; exact ⟨rfl, rfl, rfl⟩) ?_
  trivial

/-- The server ends the session after the `ACCEPT` was queued. -/
def acceptAfterHeartbeatFailure : List (Event × Replies) :=
  let peer : PeerInfo := { session_id := ['p'], device_type_code := [] }
  [(.handshakeAck, {}), (.handshakeTimer, {}),
    (.streamMessage (.pair ⟨.accept, some peer⟩), {}),
    (.heartbeatTimer .sessionInvalid, {}),
    (.sessionWorkTimer, { outcomes := [true, false] })]

/-- The `ACCEPT` queued before the heartbeat failure opens a negotiation after it. -/
theorem queued_accept_outlives_registration :
    ¬ ∀ config response replies events n,
      runSteps step (construct config response replies) events = some n → n.ActiveBound := by
  intro hall
  have hbound := hall {} (some ['s']) { outcomes := [true, true] } acceptAfterHeartbeatFailure
    _ rfl rfl
  cases hbound.1

end MainNode

end TeleopBridge.Node
