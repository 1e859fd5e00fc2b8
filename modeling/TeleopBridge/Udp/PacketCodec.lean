import TeleopBridge.Support.LittleEndian

/-!
# Packet Codec

Embeds the little-endian writers and `buildVideoPacket` of `src/udp/packet_codec.cpp`.
`decodeVideoPacket` is the receiver's reading of the same layout; the repository only
has the sending side.

## Key Result

`decodeVideoPacket_writeVideoHeader`: the 27 header bytes decode to the header that was
built, and the payload is what follows them.
-/

namespace TeleopBridge.Udp.PacketCodec

open Support

/-! ## Writers -/

/-- `writeU8` -/
def writeU8 (out : List UInt8) (value : UInt8) : List UInt8 := out ++ [value]

/-- `writeU16LE` -/
def writeU16LE (out : List UInt8) (value : UInt16) : List UInt8 :=
  out ++ [(value &&& 0xFF).toUInt8, ((value >>> 8) &&& 0xFF).toUInt8]

/-- `writeU32LE` -/
def writeU32LE (out : List UInt8) (value : UInt32) : List UInt8 :=
  out ++ [(value &&& 0xFF).toUInt8, ((value >>> 8) &&& 0xFF).toUInt8,
    ((value >>> 16) &&& 0xFF).toUInt8, ((value >>> 24) &&& 0xFF).toUInt8]

/-- `writeU64LE`: the two halves, low first. -/
def writeU64LE (out : List UInt8) (value : UInt64) : List UInt8 :=
  writeU32LE (writeU32LE out (value &&& 0xFFFFFFFF).toUInt32)
    ((value >>> 32) &&& 0xFFFFFFFF).toUInt32

theorem writeU8_eq (out : List UInt8) (value : UInt8) :
    writeU8 out value = out ++ leBytes 1 value.toNat := by
  simp [writeU8, leBytes]

theorem writeU16LE_eq (out : List UInt8) (value : UInt16) :
    writeU16LE out value = out ++ leBytes 2 value.toNat := by
  have hlow : (value &&& 0xFF).toUInt8 = UInt8.ofNat value.toNat := by
    apply UInt8.toNat_inj.mp
    simp [Nat.and_two_pow_sub_one_eq_mod _ 8]
  have hhigh : ((value >>> 8) &&& 0xFF).toUInt8 = UInt8.ofNat (value.toNat / 256) := by
    apply UInt8.toNat_inj.mp
    simp [Nat.and_two_pow_sub_one_eq_mod _ 8, Nat.shiftRight_eq_div_pow]
  rw [writeU16LE, hlow, hhigh]
  rfl

theorem writeU32LE_eq (out : List UInt8) (value : UInt32) :
    writeU32LE out value = out ++ leBytes 4 value.toNat := by
  have hbyte : ∀ (shift : UInt32) (k : ℕ), shift.toNat = 8 * k → k < 4 →
      ((value >>> shift) &&& 0xFF).toUInt8 = UInt8.ofNat (value.toNat / 256 ^ k) := by
    intro shift k hshift hk
    have hpow : 2 ^ (8 * k) = 256 ^ k := by rw [Nat.pow_mul]
    apply UInt8.toNat_inj.mp
    simp [Nat.and_two_pow_sub_one_eq_mod _ 8, Nat.shiftRight_eq_div_pow, hshift,
      Nat.mod_eq_of_lt (show 8 * k < 32 by omega), hpow]
  have h0 := hbyte 0 0 rfl (by decide)
  have h1 := hbyte 8 1 rfl (by decide)
  have h2 := hbyte 16 2 rfl (by decide)
  have h3 := hbyte 24 3 rfl (by decide)
  have hzero : value >>> 0 = value := UInt32.shiftRight_zero
  rw [hzero] at h0
  rw [writeU32LE, h0, h1, h2, h3]
  simp only [leBytes, Nat.div_div_eq_div_mul, Nat.pow_zero, Nat.div_one]
  rfl

theorem writeU64LE_eq (out : List UInt8) (value : UInt64) :
    writeU64LE out value = out ++ leBytes 8 value.toNat := by
  have hlow : (value &&& 0xFFFFFFFF).toUInt32.toNat = value.toNat % 256 ^ 4 := by
    simp [Nat.and_two_pow_sub_one_eq_mod _ 32]
  have hhigh : ((value >>> 32) &&& 0xFFFFFFFF).toUInt32.toNat =
      value.toNat / 256 ^ 4 % 256 ^ 4 := by
    simp [Nat.and_two_pow_sub_one_eq_mod _ 32, Nat.shiftRight_eq_div_pow]
  rw [writeU64LE, writeU32LE_eq, writeU32LE_eq, hlow, hhigh, leBytes_mod, leBytes_mod,
    List.append_assoc, ← leBytes_add]

/-! ## Video packets -/

/-- `kVideoPacketType` -/
def kVideoPacketType : UInt8 := 0x01

/-- `struct VideoPacketHeaderV2` -/
structure VideoPacketHeaderV2 where
  Type_ : UInt8 := kVideoPacketType
  PacketSeqNum : UInt16 := 0
  Timestamp : UInt64 := 0
  FrameId : UInt32 := 0
  FragmentIndex : UInt16 := 0
  TotalFragments : UInt16 := 0
  PayloadLength : UInt16 := 0
  FramePayloadLength : UInt32 := 0
  FecTableId : UInt8 := 0
  KeyframeFlag : UInt8 := 0
deriving DecidableEq, Repr

/-- The bytes that `buildVideoPacket` writes before the payload. -/
def kVideoHeaderBytes : ℕ := 27

/-- The ten header writes of `buildVideoPacket`. -/
def writeVideoHeader (header : VideoPacketHeaderV2) : List UInt8 :=
  let out := writeU8 [] header.Type_
  let out := writeU16LE out header.PacketSeqNum
  let out := writeU64LE out header.Timestamp
  let out := writeU32LE out header.FrameId
  let out := writeU16LE out header.FragmentIndex
  let out := writeU16LE out header.TotalFragments
  let out := writeU16LE out header.PayloadLength
  let out := writeU32LE out header.FramePayloadLength
  let out := writeU8 out header.FecTableId
  writeU8 out header.KeyframeFlag

/-- `PacketCodec::buildVideoPacket`; a null payload is `none`. -/
def buildVideoPacket (header : VideoPacketHeaderV2) (payload : Option (List UInt8))
    (payload_bytes : ℕ) : List UInt8 :=
  let out := writeVideoHeader header
  match payload with
  | some payload => if payload_bytes > 0 then out ++ payload.take payload_bytes else out
  | none => out

/-- The receiver's reading of a video datagram: the header and the bytes after it. -/
def decodeVideoPacket (bytes : List UInt8) : Option (VideoPacketHeaderV2 × List UInt8) := do
  let (packetType, bytes) ← readLe 1 bytes
  let (packetSeqNum, bytes) ← readLe 2 bytes
  let (timestamp, bytes) ← readLe 8 bytes
  let (frameId, bytes) ← readLe 4 bytes
  let (fragmentIndex, bytes) ← readLe 2 bytes
  let (totalFragments, bytes) ← readLe 2 bytes
  let (payloadLength, bytes) ← readLe 2 bytes
  let (framePayloadLength, bytes) ← readLe 4 bytes
  let (fecTableId, bytes) ← readLe 1 bytes
  let (keyframeFlag, bytes) ← readLe 1 bytes
  some ({
    Type_ := UInt8.ofNat packetType
    PacketSeqNum := UInt16.ofNat packetSeqNum
    Timestamp := UInt64.ofNat timestamp
    FrameId := UInt32.ofNat frameId
    FragmentIndex := UInt16.ofNat fragmentIndex
    TotalFragments := UInt16.ofNat totalFragments
    PayloadLength := UInt16.ofNat payloadLength
    FramePayloadLength := UInt32.ofNat framePayloadLength
    FecTableId := UInt8.ofNat fecTableId
    KeyframeFlag := UInt8.ofNat keyframeFlag }, bytes)

theorem writeVideoHeader_eq (header : VideoPacketHeaderV2) :
    writeVideoHeader header =
      leBytes 1 header.Type_.toNat ++ (leBytes 2 header.PacketSeqNum.toNat ++
        (leBytes 8 header.Timestamp.toNat ++ (leBytes 4 header.FrameId.toNat ++
        (leBytes 2 header.FragmentIndex.toNat ++ (leBytes 2 header.TotalFragments.toNat ++
        (leBytes 2 header.PayloadLength.toNat ++ (leBytes 4 header.FramePayloadLength.toNat ++
        (leBytes 1 header.FecTableId.toNat ++ leBytes 1 header.KeyframeFlag.toNat)))))))) := by
  simp only [writeVideoHeader, writeU8_eq, writeU16LE_eq, writeU32LE_eq, writeU64LE_eq,
    List.nil_append, List.append_assoc]

@[simp] theorem length_writeVideoHeader (header : VideoPacketHeaderV2) :
    (writeVideoHeader header).length = kVideoHeaderBytes := by
  simp [writeVideoHeader_eq, kVideoHeaderBytes]

/-- The header decodes to what was written, whatever follows it. -/
theorem decodeVideoPacket_writeVideoHeader (header : VideoPacketHeaderV2) (rest : List UInt8) :
    decodeVideoPacket (writeVideoHeader header ++ rest) = some (header, rest) := by
  have h8 : ∀ v : UInt8, v.toNat < 256 ^ 1 := fun v => v.toNat_lt
  have h16 : ∀ v : UInt16, v.toNat < 256 ^ 2 := fun v => v.toNat_lt
  have h32 : ∀ v : UInt32, v.toNat < 256 ^ 4 := fun v => v.toNat_lt
  have h64 : ∀ v : UInt64, v.toNat < 256 ^ 8 := fun v => v.toNat_lt
  simp only [writeVideoHeader_eq, List.append_assoc, decodeVideoPacket,
    readLe_leBytes_of_lt (h8 _), readLe_leBytes_of_lt (h16 _), readLe_leBytes_of_lt (h32 _),
    readLe_leBytes_of_lt (h64 _), Option.bind_eq_bind, Option.bind_some, UInt8.ofNat_toNat,
    UInt16.ofNat_toNat, UInt32.ofNat_toNat, UInt64.ofNat_toNat]

end TeleopBridge.Udp.PacketCodec
