import TeleopBridge.Support.BitMask
import TeleopBridge.Udp.PacketCodec

/-!
# Audio and Telemetry Packets

Embeds `buildAudioPacket`, `buildRobotTelemetryPacket` and `buildRobotJointTelemetryPacket`
of `src/udp/packet_codec.cpp` and `UdpModule::onDatagram` of `src/udp/udp_module.cpp`. A
string is its bytes and a `float` is its 32 bits. The decoders read the layouts of
`doc/UDP_PROTOCOL_TYPE_0x05_TELEMETRY.md` and `doc/UDP_PROTOCOL_TYPE_0x06_JOINT_TELEMETRY.md`;
the repository only has the sending side.

## Key Result

`packets_decode_back`: the telemetry packets decode to what was built, with nothing left
over, and an audio packet reaches the audio callback once with its payload.
-/

namespace TeleopBridge.Udp.PacketCodec

open Support

/-! ## Inputs -/

/-- `kAudioPacketType` -/
def kAudioPacketType : UInt8 := 0x04

/-- `kRobotTelemetryLowRateType` -/
def kRobotTelemetryLowRateType : UInt8 := 0x05

/-- `kRobotTelemetryHighRateType` -/
def kRobotTelemetryHighRateType : UInt8 := 0x06

/-- `struct AudioPacketHeaderV2` -/
structure AudioPacketHeaderV2 where
  Type_ : UInt8 := 0
  Seq : UInt16 := 0
  TimestampNtp : UInt64 := 0
deriving DecidableEq, Repr

/-- `struct TelemetryPacketHeaderV1` -/
structure TelemetryPacketHeaderV1 where
  Type_ : UInt8 := kRobotTelemetryLowRateType
  Seq : UInt16 := 0
  TxTimestampMs : UInt64 := 0
  SessionId : List UInt8 := []
  DeviceId : List UInt8 := []
deriving DecidableEq, Repr

/-- `struct RobotTelemetrySnapshot` -/
structure RobotTelemetrySnapshot where
  version : UInt8 := 1
  battery_voltage_mv : UInt16 := 0xFFFF
  battery_current_ma : Int16 := -32768
  battery_temperature_deci_c : Int16 := -32768
  fault_code : List UInt8 := []
  network_quality : List UInt8 := []
  model : List UInt8 := []
  firmware_version : List UInt8 := []
deriving DecidableEq, Repr

/-- `struct RobotJointStateSample` -/
structure RobotJointStateSample where
  position_rad : UInt32 := 0
  velocity_rad_s : UInt32 := 0
  effort_nm : UInt32 := 0
  valid : Bool := false
deriving DecidableEq, Repr

/-- `struct RobotJointTelemetrySnapshot` -/
structure RobotJointTelemetrySnapshot where
  version : UInt8 := 1
  schema_id : UInt16 := 2
  sample_timestamp_ms : UInt64 := 0
  joints : List RobotJointStateSample := []
deriving DecidableEq, Repr

/-- The members of `class PacketCodec` that the telemetry packets read. -/
structure Codec where
  session_id_ : List UInt8 := []
  device_id_ : List UInt8 := []
deriving DecidableEq, Repr

/-! ## Building -/

/-- `writeI16LE` -/
def writeI16LE (out : List UInt8) (value : Int16) : List UInt8 := writeU16LE out value.toUInt16

/-- `writeF32LE`, on the bits of the value. -/
def writeF32LE (out : List UInt8) (bits : UInt32) : List UInt8 := writeU32LE out bits

/-- `truncateU8String` -/
def truncateU8String (value : List UInt8) : List UInt8 :=
  -- the length is written in one byte
  if value.length ≤ 0xFF then value else value.take 0xFF

/-- `header.SessionId.empty() ? session_id_ : header.SessionId`, and so for the device. -/
def orElseOwn (id own : List UInt8) : List UInt8 := if id.isEmpty then own else id

/-- `writeTelemetryHeader` -/
def writeTelemetryHeader (header : TelemetryPacketHeaderV1) (session_id device_id : List UInt8)
    (out : List UInt8) : List UInt8 :=
  let out := writeU8 out header.Type_
  let out := writeU16LE out header.Seq
  let out := writeU64LE out header.TxTimestampMs
  -- both lengths first, then both identifiers
  let out := writeU8 out (UInt8.ofNat session_id.length)
  let out := writeU8 out (UInt8.ofNat device_id.length)
  let out := out ++ session_id
  out ++ device_id

/-- `PacketCodec::buildAudioPacket`; a null payload is `none`. -/
def buildAudioPacket (header : AudioPacketHeaderV2) (payload : Option (List UInt8))
    (payload_bytes : ℕ) : List UInt8 :=
  let out := writeU8 [] header.Type_
  let out := writeU16LE out header.Seq
  let out := writeU64LE out header.TimestampNtp
  match payload with
  -- `payload != nullptr && payload_bytes > 0`
  | some payload => if payload_bytes > 0 then out ++ payload.take payload_bytes else out
  | none => out

/-- `PacketCodec::buildRobotTelemetryPacket` -/
def buildRobotTelemetryPacket (codec : Codec) (header : TelemetryPacketHeaderV1)
    (snapshot : RobotTelemetrySnapshot) : List UInt8 :=
  let session_id := truncateU8String (orElseOwn header.SessionId codec.session_id_)
  let device_id := truncateU8String (orElseOwn header.DeviceId codec.device_id_)
  let fault_code := truncateU8String snapshot.fault_code
  let network_quality := truncateU8String snapshot.network_quality
  let model := truncateU8String snapshot.model
  let firmware_version := truncateU8String snapshot.firmware_version
  -- the fixed fields, then four lengths, then the four texts
  let out := writeTelemetryHeader header session_id device_id []
  let out := writeU8 out snapshot.version
  let out := writeU16LE out snapshot.battery_voltage_mv
  let out := writeI16LE out snapshot.battery_current_ma
  let out := writeI16LE out snapshot.battery_temperature_deci_c
  let out := writeU8 out (UInt8.ofNat fault_code.length)
  let out := writeU8 out (UInt8.ofNat network_quality.length)
  let out := writeU8 out (UInt8.ofNat model.length)
  let out := writeU8 out (UInt8.ofNat firmware_version.length)
  let out := out ++ fault_code
  let out := out ++ network_quality
  let out := out ++ model
  out ++ firmware_version

/-- `valid_mask` after the loop over the first `mask_joint_count` joints. -/
def validMask (joints : List RobotJointStateSample) (mask_joint_count : ℕ) : UInt32 :=
  -- a joint beyond bit 31 has no flag
  (List.range mask_joint_count).foldl (fun valid_mask joint_index =>
    if (joints.getD joint_index {}).valid then
      valid_mask ||| ((1 : UInt32) <<< UInt32.ofNat joint_index)
    else valid_mask) 0

/-- The three writes of the joint loop. -/
def writeJoint (out : List UInt8) (joint : RobotJointStateSample) : List UInt8 :=
  let out := writeF32LE out joint.position_rad
  let out := writeF32LE out joint.velocity_rad_s
  writeF32LE out joint.effort_nm

/-- `PacketCodec::buildRobotJointTelemetryPacket` -/
def buildRobotJointTelemetryPacket (codec : Codec) (header : TelemetryPacketHeaderV1)
    (snapshot : RobotJointTelemetrySnapshot) : List UInt8 :=
  let session_id := truncateU8String (orElseOwn header.SessionId codec.session_id_)
  let device_id := truncateU8String (orElseOwn header.DeviceId codec.device_id_)
  -- the count is one byte, the mask 32 bits
  let joint_count := min snapshot.joints.length 0xFF
  let valid_mask := validMask snapshot.joints (min joint_count 32)
  let out := writeTelemetryHeader header session_id device_id []
  let out := writeU8 out snapshot.version
  let out := writeU16LE out snapshot.schema_id
  let out := writeU64LE out snapshot.sample_timestamp_ms
  let out := writeU8 out (UInt8.ofNat joint_count)
  let out := writeU32LE out valid_mask
  (snapshot.joints.take joint_count).foldl writeJoint out

/-! ## Receiving audio -/

/-- `readU16LE` of `udp_module.cpp` -/
def readU16LE (data : List UInt8) : UInt16 :=
  (data.getD 0 0).toUInt16 ||| ((data.getD 1 0).toUInt16 <<< 8)

/-- `readU64LE` of `udp_module.cpp` -/
def readU64LE (data : List UInt8) : UInt64 :=
  (readU16LE data).toUInt64 ||| ((readU16LE (data.drop 2)).toUInt64 <<< 16) |||
    ((readU16LE (data.drop 4)).toUInt64 <<< 32) ||| ((readU16LE (data.drop 6)).toUInt64 <<< 48)

/-- What `UdpModule::onDatagram` reads of the module: the flag, and whether the callback
and the pose receiver are set. -/
structure DatagramSinks where
  shutting_down_ : Bool
  audio_callback_ : Bool
  pose_receiver_ : Bool
deriving DecidableEq, Repr

/-- A call that `onDatagram` makes. -/
inductive SinkCall where
  | audio_callback (seq : UInt16) (payload : List UInt8) (timestamp_ntp : UInt64)
  | handleDatagram (data : List UInt8)
deriving DecidableEq, Repr

/-- `UdpModule::onDatagram`: the calls it makes. -/
def onDatagram (sinks : DatagramSinks) (data : List UInt8) : List SinkCall :=
  if sinks.shutting_down_ then []
  -- an audio header alone is eleven bytes, so an empty packet goes on to the poses
  else if data.length > 11 && data.getD 0 0 = kAudioPacketType then
    if sinks.audio_callback_ then
      [.audio_callback (readU16LE (data.drop 1)) (data.drop 11) (readU64LE (data.drop 3))]
    else []
  else if sinks.pose_receiver_ then [.handleDatagram data]
  else []

/-! ## The documented layouts -/

/-- `TelemetryDatagramHeaderV1` with its identifiers. -/
structure TelemetryDatagramHeaderV1 where
  Type_ : UInt8
  Seq : UInt16
  TxTimestampMs : UInt64
  SessionId : List UInt8
  DeviceId : List UInt8
deriving DecidableEq, Repr

/-- `RobotTelemetryLowRatePayloadV1` with its texts. -/
structure RobotTelemetryLowRatePayloadV1 where
  Version : UInt8
  BatteryVoltageMv : UInt16
  BatteryCurrentMa : Int16
  BatteryTemperatureDeciC : Int16
  FaultCode : List UInt8
  NetworkQuality : List UInt8
  Model : List UInt8
  FirmwareVersion : List UInt8
deriving DecidableEq, Repr

/-- An entry of `JointStates`. -/
structure JointState where
  PositionRad : UInt32
  VelocityRadS : UInt32
  EffortNm : UInt32
deriving DecidableEq, Repr

/-- `RobotJointTelemetryHighRatePayloadV1` -/
structure RobotJointTelemetryHighRatePayloadV1 where
  Version : UInt8
  SchemaId : UInt16
  SampleTimestampMs : UInt64
  ValidMask : UInt32
  JointStates : List JointState
deriving DecidableEq, Repr

/-- The next `count` bytes of a buffer, and the rest of it. -/
def readBytes (count : ℕ) (bytes : List UInt8) : Option (List UInt8 × List UInt8) :=
  if bytes.length < count then none else some (bytes.take count, bytes.drop count)

/-- The header: all length bytes come before the identifiers. -/
def decodeTelemetryHeader (bytes : List UInt8) :
    Option (TelemetryDatagramHeaderV1 × List UInt8) := do
  let (packetType, bytes) ← readLe 1 bytes
  let (seq, bytes) ← readLe 2 bytes
  let (txTimestampMs, bytes) ← readLe 8 bytes
  let (sessionIdBytes, bytes) ← readLe 1 bytes
  let (deviceIdBytes, bytes) ← readLe 1 bytes
  let (sessionId, bytes) ← readBytes sessionIdBytes bytes
  let (deviceId, bytes) ← readBytes deviceIdBytes bytes
  some ({
    Type_ := UInt8.ofNat packetType
    Seq := UInt16.ofNat seq
    TxTimestampMs := UInt64.ofNat txTimestampMs
    SessionId := sessionId
    DeviceId := deviceId }, bytes)

/-- `TextTable`: the four texts by their lengths, and the bytes behind them. -/
def readTextTable (faultCodeBytes networkQualityBytes modelBytes firmwareVersionBytes : ℕ)
    (bytes : List UInt8) :
    Option (List UInt8 × List UInt8 × List UInt8 × List UInt8 × List UInt8) := do
  let (faultCode, bytes) ← readBytes faultCodeBytes bytes
  let (networkQuality, bytes) ← readBytes networkQualityBytes bytes
  let (model, bytes) ← readBytes modelBytes bytes
  let (firmwareVersion, bytes) ← readBytes firmwareVersionBytes bytes
  some (faultCode, networkQuality, model, firmwareVersion, bytes)

/-- A datagram of type `0x05`, and the bytes behind it. -/
def decodeRobotTelemetry (bytes : List UInt8) :
    Option (TelemetryDatagramHeaderV1 × RobotTelemetryLowRatePayloadV1 × List UInt8) := do
  let (header, bytes) ← decodeTelemetryHeader bytes
  let (version, bytes) ← readLe 1 bytes
  let (batteryVoltageMv, bytes) ← readLe 2 bytes
  let (batteryCurrentMa, bytes) ← readLe 2 bytes
  let (batteryTemperatureDeciC, bytes) ← readLe 2 bytes
  let (faultCodeBytes, bytes) ← readLe 1 bytes
  let (networkQualityBytes, bytes) ← readLe 1 bytes
  let (modelBytes, bytes) ← readLe 1 bytes
  let (firmwareVersionBytes, bytes) ← readLe 1 bytes
  let (faultCode, networkQuality, model, firmwareVersion, bytes) ←
    readTextTable faultCodeBytes networkQualityBytes modelBytes firmwareVersionBytes bytes
  some (header, {
    Version := UInt8.ofNat version
    BatteryVoltageMv := UInt16.ofNat batteryVoltageMv
    BatteryCurrentMa := (UInt16.ofNat batteryCurrentMa).toInt16
    BatteryTemperatureDeciC := (UInt16.ofNat batteryTemperatureDeciC).toInt16
    FaultCode := faultCode
    NetworkQuality := networkQuality
    Model := model
    FirmwareVersion := firmwareVersion }, bytes)

/-- `count` entries of `JointStates`. -/
def readJointStates : ℕ → List UInt8 → Option (List JointState × List UInt8)
  | 0, bytes => some ([], bytes)
  | count + 1, bytes => do
      let (positionRad, bytes) ← readLe 4 bytes
      let (velocityRadS, bytes) ← readLe 4 bytes
      let (effortNm, bytes) ← readLe 4 bytes
      let (states, bytes) ← readJointStates count bytes
      some ({
        PositionRad := UInt32.ofNat positionRad
        VelocityRadS := UInt32.ofNat velocityRadS
        EffortNm := UInt32.ofNat effortNm } :: states, bytes)

/-- A datagram of type `0x06`, and the bytes behind it. -/
def decodeRobotJointTelemetry (bytes : List UInt8) :
    Option (TelemetryDatagramHeaderV1 × RobotJointTelemetryHighRatePayloadV1 × List UInt8) := do
  let (header, bytes) ← decodeTelemetryHeader bytes
  let (version, bytes) ← readLe 1 bytes
  let (schemaId, bytes) ← readLe 2 bytes
  let (sampleTimestampMs, bytes) ← readLe 8 bytes
  let (jointCount, bytes) ← readLe 1 bytes
  let (validMask, bytes) ← readLe 4 bytes
  let (jointStates, bytes) ← readJointStates jointCount bytes
  some (header, {
    Version := UInt8.ofNat version
    SchemaId := UInt16.ofNat schemaId
    SampleTimestampMs := UInt64.ofNat sampleTimestampMs
    ValidMask := UInt32.ofNat validMask
    JointStates := jointStates }, bytes)

/-! ## Strings -/

/-- A string is cut to its first 255 bytes. -/
theorem truncateU8String_eq (value : List UInt8) : truncateU8String value = value.take 255 := by
  unfold truncateU8String
  split_ifs with hshort
  · rw [List.take_of_length_le hshort]
  · rfl

theorem length_truncateU8String_lt (value : List UInt8) :
    (truncateU8String value).length < 256 ^ 1 := by
  rw [truncateU8String_eq, List.length_take]
  omega

/-- The written length byte of a truncated string is its length. -/
theorem toNat_length_truncateU8String (value : List UInt8) :
    (UInt8.ofNat (truncateU8String value).length).toNat = (truncateU8String value).length := by
  have hlt := length_truncateU8String_lt value
  rw [UInt8.toNat_ofNat']
  omega

/-- Bytes that were appended are read back, with what follows them. -/
theorem readBytes_append (xs rest : List UInt8) :
    readBytes xs.length (xs ++ rest) = some (xs, rest) := by
  unfold readBytes
  rw [if_neg (by simp), List.take_left, List.drop_left]

theorem readLe_u8 (value : UInt8) (rest : List UInt8) :
    readLe 1 (leBytes 1 value.toNat ++ rest) = some (value.toNat, rest) :=
  readLe_leBytes_of_lt value.toNat_lt rest

theorem readLe_u16 (value : UInt16) (rest : List UInt8) :
    readLe 2 (leBytes 2 value.toNat ++ rest) = some (value.toNat, rest) :=
  readLe_leBytes_of_lt value.toNat_lt rest

theorem readLe_u32 (value : UInt32) (rest : List UInt8) :
    readLe 4 (leBytes 4 value.toNat ++ rest) = some (value.toNat, rest) :=
  readLe_leBytes_of_lt value.toNat_lt rest

theorem readLe_u64 (value : UInt64) (rest : List UInt8) :
    readLe 8 (leBytes 8 value.toNat ++ rest) = some (value.toNat, rest) :=
  readLe_leBytes_of_lt value.toNat_lt rest

/-! ## The header -/

/-- The header a receiver should see: the codec's own identifiers stand in for empty ones,
and each is cut to 255 bytes. -/
def sentHeader (codec : Codec) (header : TelemetryPacketHeaderV1) : TelemetryDatagramHeaderV1 where
  Type_ := header.Type_
  Seq := header.Seq
  TxTimestampMs := header.TxTimestampMs
  SessionId := (orElseOwn header.SessionId codec.session_id_).take 255
  DeviceId := (orElseOwn header.DeviceId codec.device_id_).take 255

/-- The header decodes, whatever follows it: the reader finds the identifiers by the two
length bytes in front of them. -/
theorem decodeTelemetryHeader_writeTelemetryHeader (header : TelemetryPacketHeaderV1)
    (session_id device_id rest : List UInt8) :
    decodeTelemetryHeader (writeTelemetryHeader header (truncateU8String session_id)
      (truncateU8String device_id) [] ++ rest) =
      some ({
        Type_ := header.Type_
        Seq := header.Seq
        TxTimestampMs := header.TxTimestampMs
        SessionId := session_id.take 255
        DeviceId := device_id.take 255 }, rest) := by
  have hlength : ∀ (value more : List UInt8),
      readLe 1 (leBytes 1 (truncateU8String value).length ++ more) =
        some ((truncateU8String value).length, more) :=
    fun value more => readLe_leBytes_of_lt (length_truncateU8String_lt value) more
  simp only [writeTelemetryHeader, writeU8_eq, writeU16LE_eq, writeU64LE_eq,
    toNat_length_truncateU8String, List.nil_append, List.append_assoc]
  -- each read takes back the write at its place
  simp only [decodeTelemetryHeader, readLe_u8, readLe_u16, readLe_u64, hlength,
    readBytes_append, Option.bind_eq_bind, Option.bind_some, UInt8.ofNat_toNat,
    UInt16.ofNat_toNat, UInt64.ofNat_toNat]
  rw [truncateU8String_eq, truncateU8String_eq]

/-! ## Low-rate telemetry -/

/-- The payload a receiver should see: every text cut to 255 bytes. -/
def sentLowRate (snapshot : RobotTelemetrySnapshot) : RobotTelemetryLowRatePayloadV1 where
  Version := snapshot.version
  BatteryVoltageMv := snapshot.battery_voltage_mv
  BatteryCurrentMa := snapshot.battery_current_ma
  BatteryTemperatureDeciC := snapshot.battery_temperature_deci_c
  FaultCode := snapshot.fault_code.take 255
  NetworkQuality := snapshot.network_quality.take 255
  Model := snapshot.model.take 255
  FirmwareVersion := snapshot.firmware_version.take 255

/-- Four texts in a row read back by their lengths. -/
theorem readTextTable_append (a b c d : List UInt8) :
    readTextTable a.length b.length c.length d.length (a ++ (b ++ (c ++ d))) =
      some (a, b, c, d, []) := by
  have hlast : readBytes d.length d = some (d, []) := by
    simpa using readBytes_append d []
  simp only [readTextTable, readBytes_append, hlast, Option.bind_eq_bind, Option.bind_some]

/-- A low-rate packet decodes to what was sent, to the last byte. -/
theorem decodeRobotTelemetry_build (codec : Codec) (header : TelemetryPacketHeaderV1)
    (snapshot : RobotTelemetrySnapshot) :
    decodeRobotTelemetry (buildRobotTelemetryPacket codec header snapshot) =
      some (sentHeader codec header, sentLowRate snapshot, []) := by
  have hlength : ∀ (value more : List UInt8),
      readLe 1 (leBytes 1 (truncateU8String value).length ++ more) =
        some ((truncateU8String value).length, more) :=
    fun value more => readLe_leBytes_of_lt (length_truncateU8String_lt value) more
  simp only [buildRobotTelemetryPacket, writeU8_eq, writeI16LE, writeU16LE_eq,
    toNat_length_truncateU8String, List.append_assoc]
  -- the header first, then the fields behind it
  simp only [decodeRobotTelemetry, decodeTelemetryHeader_writeTelemetryHeader, readLe_u8,
    readLe_u16, hlength, readTextTable_append, Option.bind_eq_bind, Option.bind_some,
    UInt8.ofNat_toNat, UInt16.ofNat_toNat, Int16.toInt16_toUInt16]
  simp only [sentHeader, sentLowRate, truncateU8String_eq]

/-! ## Joint telemetry -/

/-- The three values of a joint, bit for bit. -/
def jointState (joint : RobotJointStateSample) : JointState where
  PositionRad := joint.position_rad
  VelocityRadS := joint.velocity_rad_s
  EffortNm := joint.effort_nm

/-- The joint loop writes entries that read back in its order. -/
theorem readJointStates_foldl (joints : List RobotJointStateSample) (out : List UInt8) :
    ∃ body, joints.foldl writeJoint out = out ++ body ∧
      readJointStates joints.length body = some (joints.map jointState, []) := by
  induction joints generalizing out with
  | nil => exact ⟨[], by simp, rfl⟩
  | cons joint joints ih =>
    -- the first joint stands in front of what the loop writes after it
    obtain ⟨body, hbody, hread⟩ := ih (writeJoint out joint)
    refine ⟨leBytes 4 joint.position_rad.toNat ++ (leBytes 4 joint.velocity_rad_s.toNat ++
      (leBytes 4 joint.effort_nm.toNat ++ body)), ?_, ?_⟩
    · rw [List.foldl_cons, hbody]
      simp only [writeJoint, writeF32LE, writeU32LE_eq, List.append_assoc]
    · rw [List.length_cons]
      simp only [readJointStates, readLe_u32, hread, Option.bind_eq_bind, Option.bind_some,
        UInt32.ofNat_toNat, List.map_cons, jointState]

/-- Bit `i` of the mask is the flag of joint `i`, for the joints that the loop has covered. -/
theorem validMask_testBit (joints : List RobotJointStateSample) {count : ℕ} (hcount : count ≤ 32)
    (i : ℕ) :
    (validMask joints count).toNat.testBit i =
      (decide (i < count) && (joints.getD i {}).valid) := by
  unfold validMask
  induction count with
  | zero => simp
  | succ count ih =>
    rw [List.range_succ, List.foldl_append, List.foldl_cons, List.foldl_nil]
    have hnext : decide (i < count + 1) = (decide (i < count) || decide (count = i)) := by
      rw [← Bool.decide_or]
      apply decide_eq_decide.mpr
      omega
    rw [hnext, Bool.and_or_distrib_right, ← ih (by omega)]
    -- the new flag only concerns bit `count`
    split_ifs with hvalid
    · rw [testBit_or_bit (by omega)]
      by_cases hsame : count = i
      · have hflag : (joints.getD i {}).valid = true := hsame ▸ hvalid
        rw [hflag, Bool.and_true]
      · simp only [hsame, decide_false, Bool.false_and]
    · by_cases hsame : count = i
      · have hflag : (joints.getD i {}).valid = false := by
          rw [← hsame]
          exact Bool.eq_false_iff.mpr hvalid
        rw [hflag, Bool.and_false, Bool.or_false]
      · simp only [hsame, decide_false, Bool.false_and, Bool.or_false]

/-- The payload of a joint packet, up to the meaning of its mask. -/
theorem decodeRobotJointTelemetry_build (codec : Codec) (header : TelemetryPacketHeaderV1)
    (snapshot : RobotJointTelemetrySnapshot) :
    decodeRobotJointTelemetry (buildRobotJointTelemetryPacket codec header snapshot) =
      some (sentHeader codec header, {
        Version := snapshot.version
        SchemaId := snapshot.schema_id
        SampleTimestampMs := snapshot.sample_timestamp_ms
        ValidMask := validMask snapshot.joints (min (min snapshot.joints.length 255) 32)
        JointStates := (snapshot.joints.take (min snapshot.joints.length 255)).map jointState },
        []) := by
  have hcount : (UInt8.ofNat (min snapshot.joints.length 255)).toNat =
      min snapshot.joints.length 255 := by
    rw [UInt8.toNat_ofNat']
    omega
  have hlength : ∀ more : List UInt8,
      readLe 1 (leBytes 1 (min snapshot.joints.length 255) ++ more) =
        some (min snapshot.joints.length 255, more) :=
    fun more => readLe_leBytes_of_lt (by omega) more
  unfold buildRobotJointTelemetryPacket
  simp only
  -- what stands in front of the joints is the prefix of their loop
  obtain ⟨body, hbody, hread⟩ := readJointStates_foldl
    (snapshot.joints.take (min snapshot.joints.length 0xFF)) (writeU32LE (writeU8 (writeU64LE
      (writeU16LE (writeU8 (writeTelemetryHeader header
        (truncateU8String (orElseOwn header.SessionId codec.session_id_))
        (truncateU8String (orElseOwn header.DeviceId codec.device_id_)) []) snapshot.version)
        snapshot.schema_id) snapshot.sample_timestamp_ms)
        (UInt8.ofNat (min snapshot.joints.length 0xFF)))
      (validMask snapshot.joints (min (min snapshot.joints.length 0xFF) 32)))
  have hjoints : (snapshot.joints.take (min snapshot.joints.length 255)).length =
      min snapshot.joints.length 255 := by
    rw [List.length_take]
    omega
  rw [hjoints] at hread
  rw [hbody]
  simp only [writeU8_eq, writeU16LE_eq, writeU32LE_eq, writeU64LE_eq, hcount, List.append_assoc]
  simp only [decodeRobotJointTelemetry, decodeTelemetryHeader_writeTelemetryHeader, readLe_u8,
    readLe_u16, readLe_u32, readLe_u64, hlength, hread, Option.bind_eq_bind, Option.bind_some,
    UInt8.ofNat_toNat, UInt16.ofNat_toNat, UInt32.ofNat_toNat, UInt64.ofNat_toNat]
  rfl

/-! ## Audio -/

/-- Two bytes read back as one word. -/
theorem readU16LE_leBytes (value : ℕ) (rest : List UInt8) :
    (readU16LE (leBytes 2 value ++ rest)).toNat = value % 256 ^ 2 := by
  have hbytes : readU16LE (leBytes 2 value ++ rest) =
      (UInt8.ofNat value).toUInt16 ||| ((UInt8.ofNat (value / 256)).toUInt16 <<< 8) := rfl
  have hlow : value % 256 < 2 ^ 8 := Nat.mod_lt _ (by decide)
  have hhigh : ((UInt8.ofNat (value / 256)).toUInt16 <<< 8).toNat =
      (value / 256 % 256) <<< 8 := by
    rw [UInt16.toNat_shiftLeft, UInt8.toNat_toUInt16, UInt8.toNat_ofNat']
    show (value / 256 % 256) <<< 8 % 2 ^ 16 = _
    rw [Nat.shiftLeft_eq]
    omega
  rw [hbytes, UInt16.toNat_or, hhigh, UInt8.toNat_toUInt16, UInt8.toNat_ofNat']
  show value % 256 ||| (value / 256 % 256) <<< 8 = _
  -- the two bytes do not overlap, so their union is their sum
  rw [or_shiftLeft_eq_add hlow]
  omega

/-- A timestamp reads back through the four words of `readU64LE`. -/
theorem readU64LE_leBytes (value : UInt64) (rest : List UInt8) :
    readU64LE (leBytes 8 value.toNat ++ rest) = value := by
  have hsplit : leBytes 8 value.toNat ++ rest =
      leBytes 2 value.toNat ++ (leBytes 2 (value.toNat / 256 ^ 2) ++
        (leBytes 2 (value.toNat / 256 ^ 4) ++ (leBytes 2 (value.toNat / 256 ^ 6) ++ rest))) := by
    rw [show (8 : ℕ) = 2 + (2 + (2 + 2)) from rfl, leBytes_add, leBytes_add, leBytes_add]
    simp only [Nat.div_div_eq_div_mul, List.append_assoc]
    rfl
  -- a word shifted to its place does not wrap
  have hword : ∀ (word : UInt16) (k : ℕ), k < 4 →
      (word.toUInt64 <<< UInt64.ofNat (16 * k)).toNat = word.toNat <<< (16 * k) := by
    intro word k hk
    have hshift : (UInt64.ofNat (16 * k)).toNat % 64 = 16 * k := by
      rw [UInt64.toNat_ofNat']
      omega
    have hlt : word.toNat <<< (16 * k) < 2 ^ 64 := by
      rw [Nat.shiftLeft_eq]
      calc word.toNat * 2 ^ (16 * k) ≤ word.toNat * 2 ^ 48 :=
            Nat.mul_le_mul_left _ (Nat.pow_le_pow_right (by decide) (by omega))
        _ < 2 ^ 64 := by
            have := word.toNat_lt
            omega
    rw [UInt64.toNat_shiftLeft, hshift, UInt16.toNat_toUInt64, Nat.mod_eq_of_lt hlt]
  have hvalue := value.toNat_lt
  rw [hsplit]
  apply UInt64.toNat_inj.mp
  unfold readU64LE
  rw [UInt64.toNat_or, UInt64.toNat_or, UInt64.toNat_or, UInt16.toNat_toUInt64]
  have h1 := hword (readU16LE (leBytes 2 (value.toNat / 256 ^ 2) ++
    (leBytes 2 (value.toNat / 256 ^ 4) ++ (leBytes 2 (value.toNat / 256 ^ 6) ++ rest)))) 1
    (by decide)
  have h2 := hword (readU16LE (leBytes 2 (value.toNat / 256 ^ 4) ++
    (leBytes 2 (value.toNat / 256 ^ 6) ++ rest))) 2 (by decide)
  have h3 := hword (readU16LE (leBytes 2 (value.toNat / 256 ^ 6) ++ rest)) 3 (by decide)
  rw [readU16LE_leBytes] at h1 h2 h3
  refine (congrArg₂ (· ||| ·) (congrArg₂ (· ||| ·) (congrArg₂ (· ||| ·)
    (readU16LE_leBytes _ _) h1) h2) h3).trans ?_
  -- the four words do not overlap either
  rw [or_shiftLeft_eq_add (show value.toNat % 256 ^ 2 < 2 ^ (16 * 1) by omega),
    or_shiftLeft_eq_add (k := 16 * 2) (by omega), or_shiftLeft_eq_add (k := 16 * 3) (by omega)]
  omega

/-- An audio packet is its header and its payload, byte for byte. -/
theorem buildAudioPacket_eq (header : AudioPacketHeaderV2) (payload : List UInt8) :
    buildAudioPacket header (some payload) payload.length =
      header.Type_ :: (leBytes 2 header.Seq.toNat ++
        (leBytes 8 header.TimestampNtp.toNat ++ payload)) := by
  unfold buildAudioPacket
  simp only [List.take_length, writeU16LE_eq, writeU64LE_eq, List.append_assoc]
  cases payload with
  | nil => simp [writeU8]
  | cons byte bytes => simp [writeU8]

/-- A non-empty audio packet reaches the callback, and nothing else does. -/
theorem onDatagram_buildAudioPacket (sinks : DatagramSinks) (header : AudioPacketHeaderV2)
    (payload : List UInt8) (hrunning : sinks.shutting_down_ = false)
    (hcallback : sinks.audio_callback_ = true) (htype : header.Type_ = kAudioPacketType)
    (hpayload : payload ≠ []) :
    onDatagram sinks (buildAudioPacket header (some payload) payload.length) =
      [.audio_callback header.Seq payload header.TimestampNtp] := by
  have hpos := List.length_pos_iff.mpr hpayload
  have hlong : (header.Type_ :: (leBytes 2 header.Seq.toNat ++
      (leBytes 8 header.TimestampNtp.toNat ++ payload))).length > 11 := by
    simp only [List.length_cons, List.length_append, length_leBytes]
    omega
  have hseq : readU16LE (leBytes 2 header.Seq.toNat ++
      (leBytes 8 header.TimestampNtp.toNat ++ payload)) = header.Seq := by
    apply UInt16.toNat_inj.mp
    rw [readU16LE_leBytes]
    exact Nat.mod_eq_of_lt header.Seq.toNat_lt
  rw [buildAudioPacket_eq]
  unfold onDatagram
  rw [if_neg (by simp [hrunning]), if_pos (by simp only [hlong]; simp [htype]), if_pos hcallback]
  show [SinkCall.audio_callback (readU16LE _) payload
    (readU64LE (leBytes 8 header.TimestampNtp.toNat ++ payload))] = _
  rw [readU64LE_leBytes]
  exact congrArg (fun seq => [SinkCall.audio_callback seq payload header.TimestampNtp]) hseq

/-! ## Main result -/

/-- The packets decode back, for every header, snapshot, joint list, identifiers of the
codec, audio header and payload. -/
theorem packets_decode_back (codec : Codec) (header : TelemetryPacketHeaderV1)
    (snapshot : RobotTelemetrySnapshot) (jointSnapshot : RobotJointTelemetrySnapshot)
    (sinks : DatagramSinks) (audioHeader : AudioPacketHeaderV2) (payload : List UInt8)
    (hrunning : sinks.shutting_down_ = false) (hcallback : sinks.audio_callback_ = true)
    (htype : audioHeader.Type_ = kAudioPacketType) (hpayload : payload ≠ []) :
    decodeRobotTelemetry (buildRobotTelemetryPacket codec header snapshot) =
        some (sentHeader codec header, sentLowRate snapshot, []) ∧
      (∃ mask : UInt32,
        decodeRobotJointTelemetry (buildRobotJointTelemetryPacket codec header jointSnapshot) =
          some (sentHeader codec header, {
            Version := jointSnapshot.version
            SchemaId := jointSnapshot.schema_id
            SampleTimestampMs := jointSnapshot.sample_timestamp_ms
            ValidMask := mask
            JointStates :=
              (jointSnapshot.joints.take (min jointSnapshot.joints.length 255)).map jointState },
            []) ∧
        ∀ i, mask.toNat.testBit i =
          (decide (i < min jointSnapshot.joints.length 32) &&
            (jointSnapshot.joints.getD i {}).valid)) ∧
      onDatagram sinks (buildAudioPacket audioHeader (some payload) payload.length) =
        [.audio_callback audioHeader.Seq payload audioHeader.TimestampNtp] := by
  refine ⟨decodeRobotTelemetry_build codec header snapshot,
    ⟨_, decodeRobotJointTelemetry_build codec header jointSnapshot, fun i => ?_⟩,
    onDatagram_buildAudioPacket sinks audioHeader payload hrunning hcallback htype hpayload⟩
  rw [validMask_testBit _ (Nat.min_le_right _ _)]
  have hcovered : min (min jointSnapshot.joints.length 255) 32 =
      min jointSnapshot.joints.length 32 := by
    omega
  rw [hcovered]

/-- Identifiers taken from the codec, two joints of which the second is valid, and an
audio packet of one byte. -/
theorem packets_decode_back_two_joints :
    let codec : Codec := { session_id_ := [115], device_id_ := [100, 49] }
    let header : TelemetryPacketHeaderV1 := { Seq := 7, TxTimestampMs := 9 }
    let joints : RobotJointTelemetrySnapshot :=
      { joints := [{ position_rad := 1 }, { effort_nm := 2, valid := true }] }
    (decodeRobotTelemetry (buildRobotTelemetryPacket codec header {})).map (fun r => r.1.DeviceId) =
        some [100, 49] ∧
      (∃ mask : UInt32, mask.toNat.testBit 1 = true ∧
        (decodeRobotJointTelemetry (buildRobotJointTelemetryPacket codec header joints)).map
          (fun r => r.2.1.ValidMask) = some mask) ∧
      onDatagram ⟨false, true, true⟩ (buildAudioPacket ⟨0x04, 3, 5⟩ (some [42]) 1) =
        [.audio_callback 3 [42] 5] := by
  intro codec header joints
  obtain ⟨hlow, ⟨mask, hjoint, hmask⟩, haudio⟩ := packets_decode_back codec header {} joints
    ⟨false, true, true⟩ ⟨0x04, 3, 5⟩ [42] rfl rfl rfl (by simp)
  refine ⟨?_, ⟨mask, ?_, ?_⟩, haudio⟩
  · rw [hlow]
    rfl
  · rw [hmask 1]
    rfl
  · rw [hjoint]
    rfl

end TeleopBridge.Udp.PacketCodec
