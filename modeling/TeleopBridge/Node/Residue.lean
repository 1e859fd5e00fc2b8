import TeleopBridge.Node.Moves

/-!
# Unpaired States Hold No Session Data

`teardownActiveSession` is the only function that clears the data of a pairing. The
handlers of `REJECT`, of a completed handshake and of a registration store an unpaired
state without it, so they keep whatever the session had.

## Key Results

- `unpaired_states_clean`: a run leaves no session data behind in an unpaired state exactly
  when none of these handlers meets any.
- `residue_after_reject`: a paired node that handles `REJECT` keeps its video running.
-/

namespace TeleopBridge.Node

open TeleopBridge.Support

/-- No peer, no video, no published config. -/
def SessionView.Clean (session : SessionView) : Prop :=
  session.paired_peer_session_id = [] ∧ session.video_running = false ∧
    session.video_started = false ∧ session.video_config_sent = false ∧
    session.config_published = false

instance (session : SessionView) : Decidable session.Clean :=
  inferInstanceAs (Decidable (_ ∧ _ ∧ _ ∧ _ ∧ _))

namespace MainNode

/-- In an unpaired state the session data is clean. -/
def UnpairedClean (n : MainNode) : Prop := n.state.active = false → n.view.session.Clean

/-- A handler that stores an unpaired state without a teardown finds nothing to keep. -/
def CarriesNothing (n : MainNode) (a : Event × Replies) : Prop :=
  ∀ session, effect { n with replies := a.2 } a.1 = .carry session → session.Clean

theorem Cleared.clean {n : MainNode} (h : n.Cleared) : n.view.session.Clean := by
  obtain ⟨-, st, -, hsession⟩ := h
  rw [hsession]
  exact ⟨rfl, rfl, rfl, rfl, rfl⟩

theorem UnpairedClean.of_session {n n' : MainNode} (h : n.UnpairedClean)
    (hsame : n'.view.session = n.view.session) : n'.UnpairedClean := by
  intro hunpaired
  have hstate : n'.state = n.state := congrArg SessionView.state hsame
  rw [hsame]
  exact h (hstate ▸ hunpaired)

/-- One event keeps unpaired states clean exactly when it carries nothing into one. -/
theorem unpairedClean_step {n n' : MainNode} {a : Event × Replies}
    (hidle : n.session_teardown_in_progress = false) (h : n.UnpairedClean)
    (hstep : step n a = some n') : n.CarriesNothing a ↔ n'.UnpairedClean := by
  have hleaves := handle_effect { n with replies := a.2 } hidle hstep
  unfold CarriesNothing
  cases heffect : effect { n with replies := a.2 } a.1 with
  | carry session =>
    rw [heffect] at hleaves
    obtain ⟨-, st, hst, hsession⟩ := hleaves
    have hstate : n'.state = st := congrArg SessionView.state hsession
    constructor
    · intro hclean _
      rw [hsession]
      exact hclean session rfl
    · intro hclean carried hcarried
      cases hcarried
      have hn' := hclean (hstate ▸ hst)
      rw [hsession] at hn'
      exact hn'
  | accept registration =>
    rw [heffect] at hleaves
    refine ⟨fun _ hunpaired => ?_, fun _ carried hcarried => by cases hcarried⟩
    rw [hleaves.1] at hunpaired
    cases hunpaired
  | other =>
    rw [heffect] at hleaves
    refine ⟨fun _ => ?_, fun _ carried hcarried => by cases hcarried⟩
    rcases hleaves with ⟨-, hsame⟩ | ⟨-, -, hactive⟩ | hclear | ⟨-, -, hsame⟩
    · exact h.of_session hsame
    · intro hunpaired
      rw [hactive] at hunpaired
      cases hunpaired
    · exact fun _ => hclear.clean
    · exact h.of_session hsame

/-- Unpaired states are clean throughout a run exactly when every handler of the run that
stores one without a teardown finds nothing to keep. -/
theorem unpaired_states_clean (config : Config) (response : Option StdString)
    (replies : Replies) (events : List (Event × Replies)) (n : MainNode)
    (hrun : runSteps step (construct config response replies) events = some n) :
    StepsMeet step CarriesNothing (construct config response replies) events ↔
      ∀ prior m, prior <+: events →
        runSteps step (construct config response replies) prior = some m → m.UnpairedClean :=
  have hstart := cleared_construct config response replies
  stepsMeet_iff (fun _ _ _ hidle hstep => idle_step hidle hstep)
    (fun _ _ _ hidle h hstep => unpairedClean_step hidle h hstep)
    hstart.1 (fun _ => hstart.clean) hrun

/-- A node that registers, pairs with `p`, starts its video and then gets a message of the
given kind from `p`. -/
def pairingThen (op : PairOp) : List (Event × Replies) :=
  let peer : PeerInfo := { session_id := ['p'], device_type_code := [] }
  [(.handshakeAck, {}), (.handshakeTimer, {}),
    (.streamMessage (.pair ⟨.accept, some peer⟩), {}),
    (.sessionWorkTimer, { outcomes := [true, false] }),
    (.streamMessage (.pair ⟨op, some peer⟩), {}), (.sessionWorkTimer, {})]

/-- After an `UNPAIR` the pairing leaves nothing behind. -/
theorem unpaired_states_clean_unpair :
    ∃ n, runSteps step (construct {} (some ['s']) { outcomes := [true, true] })
      (pairingThen .unpair) = some n ∧ n.state = .pairing ∧ n.UnpairedClean := by
  refine ⟨_, rfl, rfl, ?_⟩
  have hiff := unpaired_states_clean {} (some ['s']) { outcomes := [true, true] }
    (pairingThen .unpair) _ rfl
  refine hiff.mp ?_ _ _ List.prefix_rfl rfl
  refine StepsMeet.cons rfl (fun _ h => by cases h) ?_
  -- the handshake completes before anything was paired
  refine StepsMeet.cons rfl (fun _ h => by cases h; exact ⟨rfl, rfl, rfl, rfl, rfl⟩) ?_
  refine StepsMeet.cons rfl (fun _ h => by cases h) ?_
  refine StepsMeet.cons rfl (fun _ h => by cases h) ?_
  refine StepsMeet.cons rfl (fun _ h => by cases h) ?_
  refine StepsMeet.cons rfl (fun _ h => by cases h) ?_
  trivial

/-- After a `REJECT` of the same peer the video is still running. -/
theorem residue_after_reject :
    ¬ ∀ config response replies events n,
      runSteps step (construct config response replies) events = some n → n.UnpairedClean := by
  intro hall
  have hclean := hall {} (some ['s']) { outcomes := [true, true] } (pairingThen .reject) _ rfl rfl
  cases hclean.2.1

end MainNode

end TeleopBridge.Node
