import TeleopBridge.Support.Transition

/-!
# Control Plane

Embeds `ControlPlane` of `src/udp/control_plane.cpp` with the texts of `packet_codec.cpp` and the
test of the receive loop in `udp_manager.cpp`. The control thread goes round its loop in steps,
so that the other threads can come in between: it reads `handshake_ready_`, decides, and only
then sends or rolls back.
-/

namespace TeleopBridge.Udp

/-- `std::string`, for the texts of the control plane. -/
abbrev Text := List Char

/-! ## Texts -/

inductive MessageKind
  | hello
  | ping
  deriving DecidableEq, Repr

/-- The first field of the text, which is also signed. -/
def MessageKind.type : MessageKind → Text
  | .hello => "HELLO".toList
  | .ping => "PING".toList

/-- `PacketCodec::generateSignature`; `hmac` is OpenSSL's `HMAC` over SHA-256, in hex. -/
def generateSignature (hmac : Text → Text → Text) (session_id type timestamp : Text) : Text :=
  hmac session_id (type ++ session_id ++ timestamp)

/-- The text `buildHelloMessage` and `buildPingMessage` share. -/
def buildMessage (hmac : Text → Text → Text) (kind : MessageKind) (session_id timestamp : Text) :
    Text :=
  if session_id = [] then []
  else
    kind.type ++ ['|'] ++ session_id ++ ['|'] ++ timestamp ++ ['|'] ++
      generateSignature hmac session_id kind.type timestamp

/-- `PacketCodec::buildHelloMessage` -/
def buildHelloMessage (hmac : Text → Text → Text) (session_id timestamp : Text) : Text :=
  buildMessage hmac .hello session_id timestamp

/-- `PacketCodec::buildPingMessage` -/
def buildPingMessage (hmac : Text → Text → Text) (session_id timestamp : Text) : Text :=
  buildMessage hmac .ping session_id timestamp

/-- The test of `recvThreadMain`: the datagram starts with `ACK`. -/
def isAck : List UInt8 → Bool
  | 65 :: 67 :: 75 :: _ => true
  | _ => false

/-! ## State -/

/-- `ControlPlane::Config`, with the intervals as the thread converts them. -/
structure ControlConfig where
  enabled : Bool := true
  hello_interval_us : ℕ := 1000000
  ping_interval_us : ℕ := 5000000
  peer_lost_timeout_us : ℕ := 0
  deriving DecidableEq, Repr

/-- Where the control thread is in its loop. `now` is the time it read at the head of the loop
and `begun` counts the renewals at that moment. -/
inductive ControlPc
  | top
  /-- It saw no handshake, and a HELLO is due. -/
  | hello (now begun : ℕ)
  /-- It saw the handshake. -/
  | ready (now begun : ℕ)
  /-- The last ACK is too old. -/
  | lost
  /-- A PING is due. -/
  | ping (now begun : ℕ)
  deriving DecidableEq, Repr

structure ControlPlane where
  handshake_ready : Bool := false
  last_ack_steady_us : ℕ := 0
  next_hello : ℕ := 0
  next_ping : ℕ := 0
  pc : ControlPc := .top
  /-- Auxiliary: how often the handshake was reset or rolled back. -/
  renewals : ℕ := 0
  deriving DecidableEq, Repr

namespace ControlPlane

variable (c : ControlPlane)

/-- `ControlPlane::onAckReceived` -/
def onAckReceived (now : ℕ) : ControlPlane :=
  { c with last_ack_steady_us := now, handshake_ready := true }

/-- `ControlPlane::onPeerActivity` -/
def onPeerActivity (now : ℕ) : ControlPlane :=
  if c.handshake_ready then { c with last_ack_steady_us := now } else c

/-- `ControlPlane::resetHandshake`. Nothing reads both fields at once, so that its two stores
are one step. -/
def resetHandshake : ControlPlane :=
  { c with handshake_ready := false, last_ack_steady_us := 0, renewals := c.renewals + 1 }

/-- The stores of the rollback in `threadMain`, up to its callback. -/
def rollBack (now : ℕ) : ControlPlane :=
  { c with
    handshake_ready := false
    last_ack_steady_us := 0
    next_hello := now
    pc := .top
    renewals := c.renewals + 1 }

/-- The head of the loop, up to the branch on `handshake_ready_`. -/
def beginRound (config : ControlConfig) (now : ℕ) : ControlPlane :=
  if !config.enabled then c
  else if !c.handshake_ready then
    if c.next_hello ≤ now then { c with pc := .hello now c.renewals } else c
  else { c with pc := .ready now c.renewals }

/-- The rest of the branch for a handshake, up to its first store or send. -/
def decideRound (config : ControlConfig) (now begun later : ℕ) : ControlPlane :=
  if 0 < config.peer_lost_timeout_us ∧ 0 < c.last_ack_steady_us ∧
      config.peer_lost_timeout_us < later - c.last_ack_steady_us then
    { c with pc := .lost }
  else if c.next_ping ≤ now then { c with pc := .ping now begun }
  else { c with pc := .top }

/-- A HELLO is sent. -/
def sentHello (config : ControlConfig) (now : ℕ) : ControlPlane :=
  { c with next_hello := now + config.hello_interval_us, pc := .top }

/-- A PING is sent. -/
def sentPing (config : ControlConfig) (now : ℕ) : ControlPlane :=
  { c with next_ping := now + config.ping_interval_us, pc := .top }

end ControlPlane

end TeleopBridge.Udp
