import Mathlib.Order.Lattice
import Mathlib.Data.Nat.Basic
import TeleopBridge.Udp.ControlPlane

/-!
# The Handshake with the Server

The robot sends HELLO and PING, the server answers either with an ACK, and the network delays,
loses and reorders what is in flight. An ACK carries nothing of the message it answers, so an
answer to an earlier message completes a renewed handshake as well.

## Key Results

- `renewed_by_ack`: what an ACK that completes the handshake can have answered.
- `stale_ack_renews`: a renewed handshake needs no new HELLO.
-/

namespace TeleopBridge.Udp

open TeleopBridge.Support

/-- A message of the robot. What the server sees is `text`; the rest is auxiliary. -/
structure Message where
  kind : MessageKind
  text : Text
  /-- How many renewals there were when the control thread began the round that sent it. -/
  begun : ℕ
  /-- How many there were when it was sent. -/
  sent : ℕ
  deriving DecidableEq, Repr

/-- A datagram of the server. -/
structure Datagram where
  bytes : List UInt8
  /-- Auxiliary: the message it answers. -/
  answers : Option Message := none
  deriving DecidableEq, Repr

inductive Packet
  | toServer (message : Message)
  | toRobot (datagram : Datagram)
  deriving DecidableEq, Repr

/-- The message a packet is or answers. -/
def Packet.message : Packet → Option Message
  | .toServer message => some message
  | .toRobot datagram => datagram.answers

/-- The robot's control plane and what is in flight. A datagram that the receive thread has
read but not handled yet counts as in flight. -/
structure Handshake where
  plane : ControlPlane := {}
  session_id : Text
  network : List Packet := []
  deriving DecidableEq, Repr

inductive HandshakeStep
  /-- The control thread takes a step, at the steady time `now`. -/
  | control (now : ℕ) (timestamp : Text)
  /-- The receive thread handles the packet at this place. -/
  | receive (place now : ℕ)
  /-- Another thread calls `resetHandshake`. -/
  | reset
  /-- The server answers the packet at this place. -/
  | serve (place : ℕ)
  /-- The server sends a stream packet. -/
  | stream (bytes : List UInt8)
  /-- The network loses the packet at this place. -/
  | lose (place : ℕ)
  deriving DecidableEq, Repr

namespace Handshake

variable (hmac : Text → Text → Text) (config : ControlConfig) (s : Handshake)

/-- `send_fn_`, called with a message that is not empty. -/
def send (kind : MessageKind) (text : Text) (begun : ℕ) : List Packet :=
  if text = [] then s.network
  else s.network ++ [.toServer { kind, text, begun, sent := s.plane.renewals }]

/-- A step of the control thread. -/
def controlStep (now : ℕ) (timestamp : Text) : Handshake :=
  match s.plane.pc with
  | .top => { s with plane := s.plane.beginRound config now }
  | .hello round begun =>
    { s with
      plane := s.plane.sentHello config round
      network := s.send .hello (buildHelloMessage hmac s.session_id timestamp) begun }
  | .ready round begun => { s with plane := s.plane.decideRound config round begun now }
  | .lost => { s with plane := s.plane.rollBack now }
  | .ping round begun =>
    { s with
      plane := s.plane.sentPing config round
      network := s.send .ping (buildPingMessage hmac s.session_id timestamp) begun }

/-- What `recvThreadMain` does with a datagram. -/
def handleDatagram (datagram : Datagram) (now : ℕ) : ControlPlane :=
  if isAck datagram.bytes then s.plane.onAckReceived now else s.plane.onPeerActivity now

def step : HandshakeStep → Option Handshake
  | .control now timestamp => some (s.controlStep hmac config now timestamp)
  | .receive place now =>
    match s.network[place]? with
    | some (.toRobot datagram) =>
      some { s with
        plane := s.handleDatagram datagram now
        network := s.network.eraseIdx place }
    | _ => none
  | .reset => some { s with plane := s.plane.resetHandshake }
  | .serve place =>
    match s.network[place]? with
    | some (.toServer message) =>
      some { s with
        network := s.network.eraseIdx place ++
          [.toRobot { bytes := [65, 67, 75], answers := some message }] }
    | _ => none
  | .stream bytes =>
    if isAck bytes then none else some { s with network := s.network ++ [.toRobot { bytes }] }
  | .lose place => some { s with network := s.network.eraseIdx place }

/-- The control plane as `ControlPlane::start` leaves it. -/
def start (session_id : Text) (now : ℕ) : Handshake where
  plane := { next_hello := now, next_ping := now }
  session_id := session_id

/-! ## What is in flight -/

/-- When a message was begun and sent; a PING that was begun since the last renewal was begun
with a handshake. -/
structure Dated (plane : ControlPlane) (message : Message) : Prop where
  begun_le : message.begun ≤ message.sent
  sent_le : message.sent ≤ plane.renewals
  ping : message.kind = .ping → plane.handshake_ready = false → message.begun < plane.renewals

/-- The same of the message that the control thread is about to send. -/
def PcDated (plane : ControlPlane) : Prop :=
  match plane.pc with
  | .top | .lost => True
  | .hello _ begun => begun ≤ plane.renewals
  | .ready _ begun | .ping _ begun =>
    begun ≤ plane.renewals ∧ (plane.handshake_ready = false → begun < plane.renewals)

structure InFlight (s : Handshake) : Prop where
  pc : PcDated s.plane
  dated : ∀ packet ∈ s.network, ∀ message, packet.message = some message →
    Dated s.plane message
  acks : ∀ datagram, .toRobot datagram ∈ s.network → isAck datagram.bytes = true →
    ∃ message, datagram.answers = some message

variable {s t : Handshake} {plane plane' : ControlPlane}

/-- Time passes for the messages: a handshake that is not ready was not before, or there was a
renewal. -/
structure Ages (plane plane' : ControlPlane) : Prop where
  renewals_le : plane.renewals ≤ plane'.renewals
  down : plane'.handshake_ready = false →
    plane.handshake_ready = false ∨ plane.renewals < plane'.renewals

/-- A message stays dated while the plane renews its handshake. -/
theorem Dated.ages {message : Message} (h : Dated plane message) (hages : Ages plane plane') :
    Dated plane' message := by
  refine ⟨h.begun_le, h.sent_le.trans hages.renewals_le, fun hping hdown => ?_⟩
  rcases hages.down hdown with hbefore | hlater
  · exact (h.ping hping hbefore).trans_le hages.renewals_le
  · exact (h.begun_le.trans h.sent_le).trans_lt hlater

/-- So does the round that the control thread is in. -/
theorem PcDated.ages (h : PcDated plane) (hages : Ages plane plane') (hpc : plane'.pc = plane.pc) :
    PcDated plane' := by
  unfold PcDated at h ⊢
  rw [hpc]
  -- a handshake that went down was renewed at that very step
  have hkept {begun : ℕ}
      (hbegun : begun ≤ plane.renewals ∧
        (plane.handshake_ready = false → begun < plane.renewals)) :
      begun ≤ plane'.renewals ∧ (plane'.handshake_ready = false → begun < plane'.renewals) := by
    refine ⟨hbegun.1.trans hages.renewals_le, fun hdown => ?_⟩
    rcases hages.down hdown with hbefore | hlater
    · exact (hbegun.2 hbefore).trans_le hages.renewals_le
    · exact hbegun.1.trans_lt hlater
  cases hplane : plane.pc with
  | top => trivial
  | lost => trivial
  | hello round begun =>
    rw [hplane] at h
    exact h.trans hages.renewals_le
  | ready round begun =>
    rw [hplane] at h
    exact hkept h
  | ping round begun =>
    rw [hplane] at h
    exact hkept h

theorem Ages.of_same (hrenewals : plane'.renewals = plane.renewals)
    (hready : plane'.handshake_ready = plane.handshake_ready) : Ages plane plane' :=
  ⟨hrenewals.ge, fun hdown => .inl (hready ▸ hdown)⟩

theorem ages_resetHandshake : Ages plane plane.resetHandshake :=
  ⟨Nat.le_succ _, fun _ => .inr (Nat.lt_succ_self _)⟩

theorem ages_rollBack (now : ℕ) : Ages plane (plane.rollBack now) :=
  ⟨Nat.le_succ _, fun _ => .inr (Nat.lt_succ_self _)⟩

/-- A datagram renews no handshake; an ACK can only complete one. -/
theorem ages_handleDatagram (datagram : Datagram) (now : ℕ) :
    Ages s.plane (s.handleDatagram datagram now) ∧
      (s.handleDatagram datagram now).pc = s.plane.pc := by
  unfold handleDatagram ControlPlane.onPeerActivity
  split
  · exact ⟨⟨le_rfl, fun hdown => by cases hdown⟩, rfl⟩
  · split
    · exact ⟨.of_same rfl rfl, rfl⟩
    · exact ⟨.of_same rfl rfl, rfl⟩

/-- The packets that are left are those that were there. -/
theorem InFlight.of_subset (h : s.InFlight) (hages : Ages s.plane t.plane)
    (hpc : PcDated t.plane) (hnetwork : ∀ packet ∈ t.network, packet ∈ s.network) :
    t.InFlight :=
  ⟨hpc, fun packet hin message hmessage =>
    (h.dated packet (hnetwork packet hin) message hmessage).ages hages,
    fun datagram hin => h.acks datagram (hnetwork _ hin)⟩

/-- The control thread sends a message. -/
theorem InFlight.send (h : s.InFlight) {kind : MessageKind} {text : Text} {begun : ℕ}
    (hages : Ages s.plane plane') (hpc : PcDated plane') (hbegun : begun ≤ s.plane.renewals)
    (hping : kind = .ping → s.plane.handshake_ready = false → begun < s.plane.renewals) :
    InFlight { s with plane := plane', network := s.send kind text begun } := by
  unfold Handshake.send
  split
  · exact h.of_subset hages hpc fun packet hin => hin
  · refine ⟨hpc, fun packet hin message hmessage => ?_, fun datagram hin hack => ?_⟩
    · -- the new message is dated by the round that sends it
      rcases List.mem_append.mp hin with hold | hnew
      · exact (h.dated packet hold message hmessage).ages hages
      · rw [List.mem_singleton.mp hnew] at hmessage
        cases hmessage
        exact Dated.ages ⟨hbegun, le_rfl, hping⟩ hages
    · rcases List.mem_append.mp hin with hold | hnew
      · exact h.acks datagram hold hack
      · cases List.mem_singleton.mp hnew

/-- The start of a round renews nothing. -/
theorem ages_beginRound (now : ℕ) : Ages plane (plane.beginRound config now) := by
  unfold ControlPlane.beginRound
  split
  · exact .of_same rfl rfl
  split
  · split <;> exact .of_same rfl rfl
  · exact .of_same rfl rfl

/-- A round that is begun without a handshake leads to no PING. -/
theorem pcDated_beginRound (now : ℕ) (htop : plane.pc = .top) :
    PcDated (plane.beginRound config now) := by
  have hsame : PcDated plane := by
    unfold PcDated
    rw [htop]
    trivial
  unfold ControlPlane.beginRound
  split
  · exact hsame
  split
  · split
    · exact le_rfl
    · exact hsame
  · rename_i hready
    -- a PING round begins only in a completed handshake
    refine ⟨le_rfl, fun hdown => ?_⟩
    simp [show plane.handshake_ready = false from hdown] at hready

/-- Nor does its decision. -/
theorem ages_decideRound (round begun now : ℕ) :
    Ages plane (plane.decideRound config round begun now) := by
  unfold ControlPlane.decideRound
  split
  · exact .of_same rfl rfl
  split <;> exact .of_same rfl rfl

/-- A round that goes on to its PING keeps its date. -/
theorem pcDated_decideRound (round begun now : ℕ)
    (h : begun ≤ plane.renewals ∧ (plane.handshake_ready = false → begun < plane.renewals)) :
    PcDated (plane.decideRound config round begun now) := by
  unfold ControlPlane.decideRound
  split
  · trivial
  split
  · exact h
  · trivial

/-- Every step of the control thread keeps what is in flight dated. -/
theorem InFlight.control (h : s.InFlight) (now : ℕ) (timestamp : Text) :
    (s.controlStep hmac config now timestamp).InFlight := by
  have hpc := h.pc
  unfold controlStep
  unfold PcDated at hpc
  cases hplane : s.plane.pc with
  | top =>
    exact h.of_subset (ages_beginRound config now) (pcDated_beginRound config now hplane)
      fun packet hin => hin
  | hello round begun =>
    rw [hplane] at hpc
    refine h.send (.of_same rfl rfl) trivial hpc fun hkind => ?_
    cases hkind
  | ready round begun =>
    rw [hplane] at hpc
    exact h.of_subset (ages_decideRound config round begun now)
      (pcDated_decideRound config round begun now hpc) fun packet hin => hin
  | lost => exact h.of_subset (ages_rollBack now) trivial fun packet hin => hin
  | ping round begun =>
    rw [hplane] at hpc
    exact h.send (.of_same rfl rfl) trivial hpc.1 fun _ => hpc.2

/-- The server answers a message that was in flight. -/
theorem InFlight.serve (h : s.InFlight) {place : ℕ} {message : Message}
    (hplace : s.network[place]? = some (.toServer message)) :
    InFlight { s with
      network := s.network.eraseIdx place ++
        [.toRobot { bytes := [65, 67, 75], answers := some message }] } := by
  have hserved : .toServer message ∈ s.network := List.mem_of_getElem? hplace
  have hleft {packet : Packet} (hin : packet ∈ s.network.eraseIdx place) :
      packet ∈ s.network := List.mem_of_mem_eraseIdx hin
  refine ⟨h.pc, fun packet hin other hother => ?_, fun datagram hin hack => ?_⟩
  · -- the ACK carries the message it answers, which was dated already
    rcases List.mem_append.mp hin with hold | hnew
    · exact h.dated packet (hleft hold) other hother
    · rw [List.mem_singleton.mp hnew] at hother
      cases hother
      exact h.dated _ hserved message rfl
  · rcases List.mem_append.mp hin with hold | hnew
    · exact h.acks datagram (hleft hold) hack
    · cases List.mem_singleton.mp hnew
      exact ⟨message, rfl⟩

/-- A datagram of a stream is no ACK. -/
theorem InFlight.stream (h : s.InFlight) {bytes : List UInt8} (hbytes : isAck bytes = false) :
    InFlight { s with network := s.network ++ [.toRobot { bytes }] } := by
  refine ⟨h.pc, fun packet hin message hmessage => ?_, fun datagram hin hack => ?_⟩
  · rcases List.mem_append.mp hin with hold | hnew
    · exact h.dated packet hold message hmessage
    · rw [List.mem_singleton.mp hnew] at hmessage
      cases hmessage
  · rcases List.mem_append.mp hin with hold | hnew
    · exact h.acks datagram hold hack
    · cases List.mem_singleton.mp hnew
      cases hbytes.symm.trans hack

/-- A receive takes one datagram for the robot off the network. -/
theorem step_receive {place now : ℕ} (hstep : s.step hmac config (.receive place now) = some t) :
    ∃ datagram, s.network[place]? = some (.toRobot datagram) ∧
      t = { s with
        plane := s.handleDatagram datagram now
        network := s.network.eraseIdx place } := by
  simp only [step] at hstep
  split at hstep
  · rename_i datagram hplace
    exact ⟨datagram, hplace, (Option.some.inj hstep).symm⟩
  · cases hstep

/-- A service turns one message into the ACK for it. -/
theorem step_serve {place : ℕ} (hstep : s.step hmac config (.serve place) = some t) :
    ∃ message, s.network[place]? = some (.toServer message) ∧
      t = { s with
        network := s.network.eraseIdx place ++
          [.toRobot { bytes := [65, 67, 75], answers := some message }] } := by
  simp only [step] at hstep
  split at hstep
  · rename_i message hplace
    exact ⟨message, hplace, (Option.some.inj hstep).symm⟩
  · cases hstep

/-- Every step keeps what is in flight dated. -/
theorem InFlight.step {a : HandshakeStep} (h : s.InFlight)
    (hstep : s.step hmac config a = some t) : t.InFlight := by
  cases a with
  | control now timestamp =>
    cases hstep
    exact h.control hmac config now timestamp
  | receive place now =>
    obtain ⟨datagram, -, rfl⟩ := step_receive hmac config hstep
    obtain ⟨hages, hpc⟩ := ages_handleDatagram (s := s) datagram now
    exact h.of_subset hages (h.pc.ages hages hpc) fun packet hin => List.mem_of_mem_eraseIdx hin
  | reset =>
    cases hstep
    exact h.of_subset ages_resetHandshake (h.pc.ages ages_resetHandshake rfl)
      fun packet hin => hin
  | serve place =>
    obtain ⟨message, hplace, rfl⟩ := step_serve hmac config hstep
    exact h.serve hplace
  | stream bytes =>
    obtain ⟨hbytes, ht⟩ := Option.ite_none_left_eq_some.mp hstep
    cases ht
    exact h.stream ((Bool.not_eq_true _).mp hbytes)
  | lose place =>
    cases hstep
    exact h.of_subset (.of_same rfl rfl) h.pc fun packet hin => List.mem_of_mem_eraseIdx hin

/-! ## Completing the handshake -/

/-- At the start nothing is in flight. -/
theorem inFlight_start (session_id : Text) (now : ℕ) : (start session_id now).InFlight :=
  ⟨trivial, fun packet hin => (by cases hin), fun datagram hin => (by cases hin)⟩

/-- The control thread never completes the handshake. -/
theorem down_control {now : ℕ} {timestamp : Text} (hdown : s.plane.handshake_ready = false) :
    (s.controlStep hmac config now timestamp).plane.handshake_ready = false := by
  unfold controlStep
  split
  · unfold ControlPlane.beginRound
    simp only
    split
    · exact hdown
    split
    · split <;> exact hdown
    · exact hdown
  · exact hdown
  · unfold ControlPlane.decideRound
    simp only
    split
    · exact hdown
    split <;> exact hdown
  · rfl
  · exact hdown

/-- A step that completes the handshake is the receipt of an ACK. -/
theorem up_of_ack {a : HandshakeStep} (hstep : s.step hmac config a = some t)
    (hdown : s.plane.handshake_ready = false) (hup : t.plane.handshake_ready = true) :
    ∃ place now datagram, a = .receive place now ∧
      s.network[place]? = some (.toRobot datagram) ∧ isAck datagram.bytes = true := by
  cases a with
  | control now timestamp =>
    cases hstep
    cases (down_control hmac config hdown).symm.trans hup
  | receive place now =>
    obtain ⟨datagram, hplace, rfl⟩ := step_receive hmac config hstep
    refine ⟨place, now, datagram, rfl, hplace, ?_⟩
    -- any other datagram leaves the handshake where it is
    by_contra hother
    simp [handleDatagram, hother, ControlPlane.onPeerActivity, hdown] at hup
  | reset =>
    cases hstep
    cases hup
  | serve place =>
    obtain ⟨message, -, rfl⟩ := step_serve hmac config hstep
    cases hdown.symm.trans hup
  | stream bytes =>
    obtain ⟨-, ht⟩ := Option.ite_none_left_eq_some.mp hstep
    cases ht
    cases hdown.symm.trans hup
  | lose place =>
    cases hstep
    cases hdown.symm.trans hup

/-- The handshake is completed only by an ACK that answers a HELLO sent since the last reset or
rollback, or a message whose round the control thread had begun before it. -/
theorem renewed_by_ack (session_id : Text) (began : ℕ) (actions : List HandshakeStep)
    (s : Handshake) (hrun : runSteps (step hmac config) (start session_id began) actions = some s)
    (a : HandshakeStep) (t : Handshake) (hstep : s.step hmac config a = some t)
    (hdown : s.plane.handshake_ready = false) (hup : t.plane.handshake_ready = true) :
    ∃ place now datagram message, a = .receive place now ∧
      s.network[place]? = some (.toRobot datagram) ∧ isAck datagram.bytes = true ∧
        datagram.answers = some message ∧
          (message.kind = .hello ∧ message.sent = s.plane.renewals ∨
            message.begun < s.plane.renewals) := by
  have hflight : s.InFlight :=
    runSteps_invariant (fun _ _ _ h hstep => h.step hmac config hstep)
      (inFlight_start session_id began) hrun
  obtain ⟨place, now, datagram, ha, hplace, hack⟩ := up_of_ack hmac config hstep hdown hup
  have hin : .toRobot datagram ∈ s.network := List.mem_of_getElem? hplace
  obtain ⟨message, hmessage⟩ := hflight.acks datagram hin hack
  have hdated := hflight.dated _ hin message hmessage
  refine ⟨place, now, datagram, message, ha, hplace, hack, hmessage, ?_⟩
  by_cases hold : message.begun < s.plane.renewals
  · exact .inr hold
  · refine .inl ⟨?_, ?_⟩
    -- of the present round: a PING would need the handshake up
    · cases hkind : message.kind with
      | hello => rfl
      | ping => exact absurd (hdated.ping hkind hdown) hold
    · have hbegun := hdated.begun_le
      have hsent := hdated.sent_le
      omega

/-- The signature of `HELLO` for the session `s` at the time 0. -/
def helloSignature : Text :=
  "dbd243a53d358f8379333f568a1632ca83102a49d39ac36cfa67471e84116a03".toList

/-- A HELLO is sent and answered. -/
def helloAnswered : List HandshakeStep := [.control 0 ['0'], .control 0 ['0'], .serve 0]

theorem renewed_by_ack_hello :
    ∃ s t, runSteps (step (fun _ _ => helloSignature) {}) (start ['s'] 0) helloAnswered =
        some s ∧
      s.step (fun _ _ => helloSignature) {} (.receive 0 1) = some t ∧
      t.plane.handshake_ready = true ∧
      ∃ datagram message, s.network[0]? = some (.toRobot datagram) ∧
        datagram.answers = some message ∧ message.kind = .hello ∧
          message.sent = s.plane.renewals := by
  refine ⟨_, _, rfl, rfl, rfl, ?_⟩
  obtain ⟨place, now, datagram, message, ha, hplace, -, hanswers, hnew | hold⟩ :=
    renewed_by_ack (fun _ _ => helloSignature) {} ['s'] 0 helloAnswered _ rfl (.receive 0 1) _
      rfl rfl rfl
  · cases ha
    exact ⟨datagram, message, hplace, hanswers, hnew⟩
  · exact absurd hold (Nat.not_lt_zero _)

/-- The ACK of a HELLO that was sent before the reset completes the handshake after it. -/
theorem stale_ack_renews :
    ¬ ∀ (hmac : Text → Text → Text) (config : ControlConfig) (session_id : Text) (began : ℕ)
      (actions : List HandshakeStep) (s : Handshake),
      runSteps (step hmac config) (start session_id began) actions = some s →
        ∀ a t, s.step hmac config a = some t → s.plane.handshake_ready = false →
          t.plane.handshake_ready = true →
            ∃ place now datagram message, a = .receive place now ∧
              s.network[place]? = some (.toRobot datagram) ∧ datagram.answers = some message ∧
                message.kind = .hello ∧ message.sent = s.plane.renewals := by
  intro hall
  obtain ⟨place, now, datagram, message, ha, hplace, hanswers, -, hsent⟩ :=
    hall (fun _ _ => helloSignature) {} ['s'] 0 (helloAnswered ++ [.reset]) _ rfl
      (.receive 0 1) _ rfl rfl rfl
  cases ha
  cases hplace
  cases hanswers
  cases hsent

end Handshake

end TeleopBridge.Udp
