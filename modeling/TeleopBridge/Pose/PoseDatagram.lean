import TeleopBridge.Pose.RelativePose
import TeleopBridge.Support.BinaryFloat
import TeleopBridge.Support.FixedLayout

/-!
# Pose Datagrams

Embeds `src/udp/pose_udp_receiver.cpp`: the readers and `parseAndPublish`.

A datagram is the list of its bytes, so `len` is its length, and reading outside of it gives none
for the whole call. A null pointer is the empty datagram, with which the source does the same. A
`float` that is read is its 32 bits; how it reads as a `double` is a parameter, for which
`Floats.real` has the numbers of the single format. A `float` that is computed is a number, rounded
as the format says.

## Key Results

- `millimeters_isNearestSingle`, `millimeters_error`: the positions are `value * 0.001`.
- `parsePoseController_eq`: a datagram of type 0x02, whatever is in it.
- `parseBody24Raw_eq`: a datagram of type 0x09, whatever is in it.
-/

namespace TeleopBridge.Pose

open Support

/-! ## Reading -/

/-- `readLeU16` -/
def readLeU16 (data : List UInt8) (p : ℕ) : Option UInt16 := do
  let b0 ← data[p]?
  let b1 ← data[p + 1]?
  some (b0.toUInt16 ||| (b1.toUInt16 <<< 8))

/-- `readLeI16` -/
def readLeI16 (data : List UInt8) (p : ℕ) : Option Int16 := (readLeU16 data p).map UInt16.toInt16

/-- `readLeU64` -/
def readLeU64 (data : List UInt8) (p : ℕ) : Option UInt64 :=
  (List.range 8).foldlM (fun v i => do
    let b ← data[p + i]?
    some (v ||| (b.toUInt64 <<< UInt64.ofNat (8 * i)))) 0

/-- `readLeI64` -/
def readLeI64 (data : List UInt8) (p : ℕ) : Option Int64 := (readLeU64 data p).map UInt64.toInt64

/-- `readLeU32` -/
def readLeU32 (data : List UInt8) (p : ℕ) : Option UInt32 := do
  let b0 ← data[p]?
  let b1 ← data[p + 1]?
  let b2 ← data[p + 2]?
  let b3 ← data[p + 3]?
  some (b0.toUInt32 ||| (b1.toUInt32 <<< 8) ||| (b2.toUInt32 <<< 16) ||| (b3.toUInt32 <<< 24))

/-- `readLeF32`: the bits of the `float`. -/
def readLeF32 (data : List UInt8) (p : ℕ) : Option UInt32 := readLeU32 data p

/-! ## Messages -/

/-- What the code does with a `float` that it reads: it takes it as a `double`. The root is that
of `normalizeQuat`. -/
structure Floats (K : Type) [Field K] [LinearOrder K] where
  ofBits : UInt32 → Double K
  root : Sqrt K

/-- The real numbers, with those of the single format. -/
noncomputable def Floats.real : Floats ℝ where
  ofBits bits := (single? bits).elim .notFinite fun x => .finite (x.value ℝ)
  root := .real

/-- The fields of `PoseUdpReceiverConfig` that `parseAndPublish` reads. -/
structure PoseUdpReceiverConfig where
  frame_id_waist : String := "vr_waist"
  frame_id_joint24 : String := "vr_tracking"
  frame_id_hmd : String := "vr_hmd"
  frame_id_left_controller : String := "vr_left_controller"
  frame_id_right_controller : String := "vr_right_controller"
  publish_buttons : Bool := true
deriving DecidableEq, Repr

/-- `geometry_msgs::msg::PoseStamped` -/
structure PoseStamped (K : Type) where
  stamp : UInt64
  frame_id : String
  pose : PoseMsg K
deriving DecidableEq, Repr

/-- `sensor_msgs::msg::Joy` -/
structure Joy where
  stamp : UInt64
  axes : List UInt32
  buttons : List Int32
deriving DecidableEq, Repr

/-- A call of `publish`, under the name of the publisher. The four of `publishJoint24` are one. -/
inductive Publish (K : Type) where
  | pub_hmd_ (msg : PoseStamped K)
  | pub_left_controller_ (msg : PoseStamped K)
  | pub_right_controller_ (msg : PoseStamped K)
  | pub_left_joy_ (msg : Joy)
  | pub_right_joy_ (msg : Joy)
  | joint24 (msgs : Joint24 K)
deriving DecidableEq, Repr

/-- How a call of `parseAndPublish` ends: silently, with a warning that is logged at most once a
second, or with messages. -/
inductive Parsed (K : Type) where
  | ignored
  | warned (message : String)
  | published (messages : List (Publish K))
deriving DecidableEq, Repr

/-! ## Constants -/

def kPoseControllerType : UInt8 := 0x02
def kBody24RawType : UInt8 := 0x09
def kProtocolVersion : UInt8 := 1

def kPoseControllerHeaderBytes : ℕ := 13
def kPoseEntryBytes : ℕ := 28
def kControllerButtonsEntryBytes : ℕ := 23
def kEulerEntryBytes : ℕ := 12
def kAimEntryBytes : ℕ := 38
def kPoseFlagIncludeEuler : UInt8 := 0x01
def kPoseFlagIncludeAim : UInt8 := 0x02
def kPoseFlagIncludeButtons : UInt8 := 0x04

def kBody24RawTotalBytes : UInt16 := 1236
def kBody24ProfileFullMotionQuantized : UInt8 := 1
def kBody24SpacePicoLocalPose : UInt8 := 0
def kBody24BlockCount : UInt8 := 3
def kBodyStateBlockType : UInt8 := 1
def kJoint24RawPoseQBlockType : UInt8 := 2
def kJoint24FullMotionQBlockType : UInt8 := 3
def kBodyStateBlockBytes : UInt16 := 40
def kJoint24RawPoseQBlockBytes : UInt16 := 540
def kJoint24FullMotionQBlockBytes : UInt16 := 640
def kPositionScaleCodeMillimeter : UInt8 := 1

variable {K : Type} [Field K] [LinearOrder K]

/-! ## Type 0x02 -/

/-- `readPoseMsg` -/
def readPoseMsg (floats : Floats K) (data : List UInt8) (stamp : UInt64) (pose_offset : ℕ)
    (frame_id : String) : Option (PoseStamped K) := do
  let px ← readLeF32 data (pose_offset + 0)
  let py ← readLeF32 data (pose_offset + 4)
  let pz ← readLeF32 data (pose_offset + 8)
  let qx ← readLeF32 data (pose_offset + 12)
  let qy ← readLeF32 data (pose_offset + 16)
  let qz ← readLeF32 data (pose_offset + 20)
  let qw ← readLeF32 data (pose_offset + 24)
  some {
    stamp := stamp
    frame_id := frame_id
    pose :=
      { position := ⟨floats.ofBits px, floats.ofBits py, floats.ofBits pz⟩
        orientation :=
          ⟨floats.ofBits qx, floats.ofBits qy, floats.ofBits qz, floats.ofBits qw⟩ } }

/-- `makeJoyMsg` of the reads of `publishControllerButtons`. -/
def readJoyMsg (data : List UInt8) (stamp : UInt64) (buttons_offset : ℕ) : Option Joy := do
  let trigger_value ← readLeF32 data (buttons_offset + 0)
  let trigger_button ← data[buttons_offset + 4]?
  let grip_value ← readLeF32 data (buttons_offset + 5)
  let grip_button ← data[buttons_offset + 9]?
  let primary_button ← data[buttons_offset + 10]?
  let secondary_button ← data[buttons_offset + 11]?
  let menu_button ← data[buttons_offset + 12]?
  let thumbstick_x ← readLeF32 data (buttons_offset + 13)
  let thumbstick_y ← readLeF32 data (buttons_offset + 17)
  let thumbstick_click ← data[buttons_offset + 21]?
  let thumbstick_touch ← data[buttons_offset + 22]?
  some {
    stamp := stamp
    axes := [trigger_value, grip_value, thumbstick_x, thumbstick_y]
    buttons := [trigger_button, grip_button, primary_button, secondary_button, menu_button,
      thumbstick_click, thumbstick_touch].map fun button => Int32.ofNat button.toNat }

/-- `expected_bytes` -/
def expectedBytes (flags : UInt8) : ℕ :=
  let expected_bytes := kPoseControllerHeaderBytes + 3 * kPoseEntryBytes
  let expected_bytes := if flags &&& kPoseFlagIncludeEuler ≠ 0 then
    expected_bytes + 3 * kEulerEntryBytes else expected_bytes
  let expected_bytes := if flags &&& kPoseFlagIncludeButtons ≠ 0 then
    expected_bytes + 2 * kControllerButtonsEntryBytes else expected_bytes
  if flags &&& kPoseFlagIncludeAim ≠ 0 then expected_bytes + 2 * kAimEntryBytes
  else expected_bytes

/-- `parseAndPublish` of a datagram of type `kPoseControllerType`. -/
def parsePoseController (floats : Floats K) (cfg : PoseUdpReceiverConfig) (data : List UInt8) :
    Option (Parsed K) :=
  if data.length < kPoseControllerHeaderBytes then some .ignored
  else do
    let ts_ms ← readLeU64 data 1
    let version ← data[9]?
    let flags ← data[10]?
    if version ≠ kProtocolVersion then
      some (.warned "PoseUdpReceiver: unsupported 0x02 version")
    else if data.length < expectedBytes flags then
      some (.warned "PoseUdpReceiver: short 0x02 pose/controller datagram")
    else do
      let stamp := ts_ms * 1000000
      let off := kPoseControllerHeaderBytes
      let hmd ← readPoseMsg floats data stamp (off + 0 * kPoseEntryBytes) cfg.frame_id_hmd
      let left_controller ← readPoseMsg floats data stamp (off + 1 * kPoseEntryBytes)
        cfg.frame_id_left_controller
      let right_controller ← readPoseMsg floats data stamp (off + 2 * kPoseEntryBytes)
        cfg.frame_id_right_controller
      let off := off + 3 * kPoseEntryBytes
      let off := if flags &&& kPoseFlagIncludeEuler ≠ 0 then off + 3 * kEulerEntryBytes else off
      let poses := [.pub_hmd_ hmd, .pub_left_controller_ left_controller,
        .pub_right_controller_ right_controller]
      if flags &&& kPoseFlagIncludeButtons ≠ 0 ∧ cfg.publish_buttons = true then do
        let left_joy ← readJoyMsg data stamp (off + 0 * kControllerButtonsEntryBytes)
        let right_joy ← readJoyMsg data stamp (off + 1 * kControllerButtonsEntryBytes)
        some (.published (poses ++ [.pub_left_joy_ left_joy, .pub_right_joy_ right_joy]))
      else some (.published poses)

/-! ## Type 0x09 -/

/-- `readBlockHeader`: the new `off`, or none where it returns false. -/
def readBlockHeader (data : List UInt8) (total_bytes : UInt16) (off : ℕ) (expected_type : UInt8)
    (expected_bytes : UInt16) : Option (Option ℕ) :=
  if off + 4 > total_bytes.toNat then some none
  else do
    let block_type ← data[off + 0]?
    let block_bytes ← readLeU16 data (off + 2)
    if block_type ≠ expected_type ∨ block_bytes ≠ expected_bytes ∨
        off + block_bytes.toNat > total_bytes.toNat then
      some none
    else some (some (off + 4))

/-- `0.001f` -/
def thousandth : BinaryFloat := ⟨8589935, -33⟩

/-- `static_cast<float>(value) * 0.001f` -/
def millimeters (value : Int16) : BinaryFloat :=
  .mul 24 (.round 24 ⟨value.toInt, 0⟩) thousandth

example : millimeters 1500 = ⟨12582913, -23⟩ := by decide

/-- `dequantizePosition`; a `float` that is finite is the same number as a `double`. -/
def dequantizePosition (K : Type) [Field K] (scale_code : UInt8) (value : Int16) : Double K :=
  if scale_code = kPositionScaleCodeMillimeter then .finite ((millimeters value).value K)
  else .notFinite

/-- The body of the loop that fills `raw_poses`. -/
def readRawPose (floats : Floats K) (data : List UInt8) (position_scale_code : UInt8)
    (joint_entries_offset : ℕ) (joint_index : Fin kJointCount) : Option (PoseMsg K) := do
  let pose_offset := joint_entries_offset + joint_index * 22
  let px ← readLeI16 data (pose_offset + 0)
  let py ← readLeI16 data (pose_offset + 2)
  let pz ← readLeI16 data (pose_offset + 4)
  let qx ← readLeF32 data (pose_offset + 6)
  let qy ← readLeF32 data (pose_offset + 10)
  let qz ← readLeF32 data (pose_offset + 14)
  let qw ← readLeF32 data (pose_offset + 18)
  some {
    position := ⟨dequantizePosition K position_scale_code px,
      dequantizePosition K position_scale_code py,
      dequantizePosition K position_scale_code pz⟩
    orientation := ⟨floats.ofBits qx, floats.ofBits qy, floats.ofBits qz, floats.ofBits qw⟩ }

/-- `raw_poses` after the loop over the joints. -/
def readRawPoses (floats : Floats K) (data : List UInt8) (position_scale_code : UInt8)
    (joint_entries_offset : ℕ) : Option (Fin kJointCount → PoseMsg K) :=
  if h : ∀ i, (readRawPose floats data position_scale_code joint_entries_offset i).isSome then
    some fun i => (readRawPose floats data position_scale_code joint_entries_offset i).get (h i)
  else none

/-- `parseAndPublish` of a datagram of type `kBody24RawType`. -/
def parseBody24Raw (floats : Floats K) (cfg : PoseUdpReceiverConfig) (data : List UInt8) :
    Option (Parsed K) :=
  if data.length < kBody24RawTotalBytes.toNat then
    some (.warned "PoseUdpReceiver: short 0x09 body24 datagram")
  else do
    let version ← data[1]?
    let total_bytes ← readLeU16 data 2
    let ts_ms ← readLeU64 data 4
    let profile ← data[12]?
    let body_space ← data[13]?
    let block_count ← data[14]?
    if version ≠ kProtocolVersion ∨ total_bytes ≠ kBody24RawTotalBytes ∨
        profile ≠ kBody24ProfileFullMotionQuantized ∨ body_space ≠ kBody24SpacePicoLocalPose ∨
        block_count ≠ kBody24BlockCount then
      some (.warned "PoseUdpReceiver: invalid 0x09 body24 header")
    else
      let stamp := ts_ms * 1000000
      match ← readBlockHeader data total_bytes 16 kBodyStateBlockType kBodyStateBlockBytes with
      | none => some (.warned "PoseUdpReceiver: invalid 0x09 body state block")
      | some body_state_payload => do
        let state_result ← readLeU32 data (body_state_payload + 0)
        let data_result ← readLeU32 data (body_state_payload + 4)
        let is_tracking ← data[body_state_payload + 8]?
        let joint_valid_mask ← readLeU32 data (body_state_payload + 12)
        let joint_valid_mask := joint_valid_mask &&& kJointMaskAll
        let _body_timestamp ← readLeI64 data (body_state_payload + 28)
        let off := 16 + kBodyStateBlockBytes.toNat
        match ← readBlockHeader data total_bytes off kJoint24RawPoseQBlockType
            kJoint24RawPoseQBlockBytes with
        | none => some (.warned "PoseUdpReceiver: invalid 0x09 joint pose block")
        | some joint_pose_payload => do
          let joint_count ← data[joint_pose_payload + 0]?
          let position_scale_code ← data[joint_pose_payload + 2]?
          let pose_valid_mask ← readLeU32 data (joint_pose_payload + 4)
          let pose_valid_mask := pose_valid_mask &&& kJointMaskAll
          if joint_count.toNat ≠ kJointCount ∨
              position_scale_code ≠ kPositionScaleCodeMillimeter then
            some (.warned "PoseUdpReceiver: invalid 0x09 joint pose payload")
          else do
            let raw_poses ← readRawPoses floats data position_scale_code (joint_pose_payload + 8)
            let off := 16 + kBodyStateBlockBytes.toNat + kJoint24RawPoseQBlockBytes.toNat
            match ← readBlockHeader data total_bytes off kJoint24FullMotionQBlockType
                kJoint24FullMotionQBlockBytes with
            | none => some (.warned "PoseUdpReceiver: invalid 0x09 joint motion block")
            | some _ =>
              let valid_mask :=
                if state_result.toInt32 = 0 ∧ data_result.toInt32 = 0 ∧ is_tracking ≠ 0 then
                  joint_valid_mask &&& pose_valid_mask
                else 0
              some (.published [.joint24 (publishJoint24 floats.root cfg.frame_id_joint24
                cfg.frame_id_waist stamp raw_poses valid_mask)])

/-- `parseAndPublish`: none stands for a read outside of the datagram. -/
def parseAndPublish (floats : Floats K) (cfg : PoseUdpReceiverConfig) (data : List UInt8) :
    Option (Parsed K) :=
  match data[0]? with
  | none => some .ignored
  | some type =>
    if type = kPoseControllerType then parsePoseController floats cfg data
    else if type ≠ kBody24RawType then some .ignored
    else parseBody24Raw floats cfg data

/-! ## Millimeters -/

/-- The size of an `int16_t`. -/
theorem natAbs_toInt16_le (value : Int16) : value.toInt.natAbs ≤ 2 ^ 15 := by
  have hlow := value.le_toInt
  have hhigh := value.toInt_lt
  omega

/-- The conversion is exact, and the product is rounded once. -/
theorem millimeters_eq (value : Int16) :
    millimeters value = .round 24 ⟨value.toInt * 8589935, -33⟩ := by
  have hshort : value.toInt.natAbs.log2 < 24 := by
    by_cases hzero : value.toInt.natAbs = 0
    · rw [hzero]
      decide
    · rw [Nat.log2_lt hzero]
      exact (natAbs_toInt16_le value).trans_lt (by decide)
  unfold millimeters
  rw [BinaryFloat.round_of_short hshort]
  rfl

/-- The literal is the nearest `float`. -/
theorem thousandth_isNearestSingle : IsNearestSingle (1 / 1000 : ℚ) thousandth where
  single := ⟨0x3A83126F, thousandth, by decide, rfl⟩
  nearest bits z hz := by
    have hhalf : 2 * |((8589935 : ℤ) : ℚ) * 2 ^ (-33 : ℤ) - 1 / 1000| ≤ 2 ^ (-33 : ℤ) := by
      rw [abs_of_nonneg] <;> norm_num
    exact BinaryFloat.abs_sub_le_of_half_unit (by norm_num) hhalf (single?_significand_le hz)

/-- The product is the nearest `float`. -/
theorem millimeters_isNearestSingle (value : Int16) :
    IsNearestSingle (value.toInt * thousandth.value ℚ) (millimeters value) := by
  have hexact : (⟨value.toInt * 8589935, -33⟩ : BinaryFloat).value ℚ =
      value.toInt * thousandth.value ℚ := by
    unfold BinaryFloat.value thousandth
    push_cast
    ring
  have hsmall := natAbs_toInt16_le value
  have hproduct : (value.toInt * 8589935).natAbs = value.toInt.natAbs * 8589935 := by
    rw [Int.natAbs_mul]
    rfl
  rw [millimeters_eq, ← hexact]
  -- 0 is exact; any other product is large enough to be rounded as a normal number
  by_cases hzero : value.toInt.natAbs = 0
  · rw [Int.natAbs_eq_zero.mp hzero]
    exact BinaryFloat.zero_isNearestSingle (-33)
  · have hnonzero : (value.toInt * 8589935).natAbs ≠ 0 := by omega
    have hlow : 23 ≤ (value.toInt * 8589935).natAbs.log2 :=
      (Nat.le_log2 hnonzero).mpr (by omega)
    have hhigh : (value.toInt * 8589935).natAbs.log2 < 39 :=
      (Nat.log2_lt hnonzero).mpr (by omega)
    exact BinaryFloat.round_isNearestSingle hlow (by simp only; omega) (by simp only; omega)

/-- A position is `value * 0.001`, up to one part in 2^23. -/
theorem millimeters_error (value : Int16) :
    |(millimeters value).value ℚ - value.toInt / 1000| * 2 ^ 23 ≤ |(value.toInt : ℚ) / 1000| := by
  have hround := @BinaryFloat.round_error ℚ _ _ _ 23 ⟨value.toInt * 8589935, -33⟩
  have hexact : (⟨value.toInt * 8589935, -33⟩ : BinaryFloat).value ℚ =
      value.toInt / 1000 * (8589935000 / 2 ^ 33) := by
    unfold BinaryFloat.value
    push_cast
    rw [zpow_neg]
    norm_num
    ring
  rw [millimeters_eq]
  generalize (BinaryFloat.round 24 ⟨value.toInt * 8589935, -33⟩).value ℚ = product at hround ⊢
  rw [hexact, abs_mul] at hround
  -- the literal is off by less than half of the bound, and so is the rounded product
  have hliteral : |(value.toInt : ℚ) / 1000 * (8589935000 / 2 ^ 33) - value.toInt / 1000| =
      |(value.toInt : ℚ) / 1000| * (408 / 2 ^ 33) := by
    rw [← mul_sub_one, abs_mul]
    norm_num
  -- both errors add up
  have htriangle := abs_sub_le product (value.toInt / 1000 * (8589935000 / 2 ^ 33))
    ((value.toInt : ℚ) / 1000)
  rw [hliteral] at htriangle
  have hsize := abs_nonneg ((value.toInt : ℚ) / 1000)
  norm_num at hround htriangle ⊢
  linarith

/-! ## Reading inside -/

section

variable {data : List UInt8} {p : ℕ}

/-- The unsigned fields of a datagram. -/
def u8At (data : List UInt8) (p : ℕ) : UInt8 := UInt8.ofNat (leAt 1 data p)
def u16At (data : List UInt8) (p : ℕ) : UInt16 := UInt16.ofNat (leAt 2 data p)
def u32At (data : List UInt8) (p : ℕ) : UInt32 := UInt32.ofNat (leAt 4 data p)
def u64At (data : List UInt8) (p : ℕ) : UInt64 := UInt64.ofNat (leAt 8 data p)

theorem leAt_one (h : p < data.length) : leAt 1 data p = data[p].toNat := by
  unfold leAt
  rw [List.drop_eq_getElem_cons h, List.take_succ_cons, List.take_zero, leValue_cons]
  rfl

/-- A byte of the datagram is read as it is. -/
theorem getElem?_eq_u8At (h : p < data.length) : data[p]? = some (u8At data p) := by
  unfold u8At
  rw [leAt_one h, UInt8.ofNat_toNat, List.getElem?_eq_getElem h]

/-- A wide field, byte by byte. -/
theorem leAt_succ (width : ℕ) (h : p < data.length) :
    leAt (width + 1) data p = data[p].toNat + 256 * leAt width data (p + 1) := by
  unfold leAt
  rw [List.drop_eq_getElem_cons h, List.take_succ_cons, leValue_cons]

/-- No byte has no value. -/
theorem leAt_zero : leAt 0 data p = 0 := by
  unfold leAt
  rw [List.take_zero]
  rfl

/-- The shifts of `readLeU16` read a little-endian number, as long as the datagram has its bytes. -/
theorem readLeU16_eq (h : p + 2 ≤ data.length) : readLeU16 data p = some (u16At data p) := by
  have h0 : p < data.length := by omega
  have h1 : p + 1 < data.length := by omega
  -- the high byte is shifted without a loss
  have hhigh : (data[p + 1].toUInt16 <<< 8).toNat = data[p + 1].toNat <<< 8 := by
    have hlt : data[p + 1].toNat <<< 8 < 2 ^ 16 := by
      have hbyte := data[p + 1].toNat_lt
      rw [Nat.shiftLeft_eq]
      omega
    rw [UInt16.toNat_shiftLeft, UInt8.toNat_toUInt16]
    exact Nat.mod_eq_of_lt hlt
  unfold readLeU16 u16At
  rw [List.getElem?_eq_getElem h0, List.getElem?_eq_getElem h1, leAt_succ 1 h0, leAt_one h1]
  refine congrArg some (UInt16.toNat_inj.mp ?_)
  have hlow := data[p].toNat_lt
  have hbyte := data[p + 1].toNat_lt
  rw [UInt16.toNat_or, hhigh, UInt8.toNat_toUInt16, or_shiftLeft_eq_add hlow, UInt16.toNat_ofNat']
  omega

theorem readLeI16_eq (h : p + 2 ≤ data.length) :
    readLeI16 data p = some (u16At data p).toInt16 := by
  unfold readLeI16
  rw [readLeU16_eq h]
  rfl

/-- A byte fits 32 bits up to a shift by 24. -/
theorem toNat_byte_shiftLeft (b : UInt8) {k : ℕ} (hk : k ≤ 24) :
    (b.toUInt32 <<< UInt32.ofNat k).toNat = b.toNat <<< k := by
  have hshift : (UInt32.ofNat k).toNat % 32 = k := by
    rw [UInt32.toNat_ofNat']
    omega
  have hlt : b.toNat <<< k < 2 ^ 32 := by
    have hbyte := b.toNat_lt
    rw [Nat.shiftLeft_eq]
    calc b.toNat * 2 ^ k ≤ b.toNat * 2 ^ 24 :=
          Nat.mul_le_mul_left _ (Nat.pow_le_pow_right (by decide) hk)
      _ < 2 ^ 32 := by omega
  rw [UInt32.toNat_shiftLeft, hshift, UInt8.toNat_toUInt32, Nat.mod_eq_of_lt hlt]

/-- Four bytes, each shifted to its place. -/
theorem readLeU32_eq (h : p + 4 ≤ data.length) : readLeU32 data p = some (u32At data p) := by
  have h0 : p < data.length := by omega
  have h1 : p + 1 < data.length := by omega
  have h2 : p + 2 < data.length := by omega
  have h3 : p + 3 < data.length := by omega
  unfold readLeU32 u32At
  rw [List.getElem?_eq_getElem h0, List.getElem?_eq_getElem h1, List.getElem?_eq_getElem h2,
    List.getElem?_eq_getElem h3, leAt_succ 3 h0, leAt_succ 2 h1, leAt_succ 1 h2, leAt_one h3]
  -- the places do not overlap, so that `or` is a sum
  refine congrArg some (UInt32.toNat_inj.mp ?_)
  have hb0 := data[p].toNat_lt
  have hb1 := data[p + 1].toNat_lt
  have hb2 := data[p + 2].toNat_lt
  have hb3 := data[p + 3].toNat_lt
  have hs1 := toNat_byte_shiftLeft data[p + 1] (k := 8) (by decide)
  have hs2 := toNat_byte_shiftLeft data[p + 2] (k := 16) (by decide)
  have hs3 := toNat_byte_shiftLeft data[p + 3] (k := 24) (by decide)
  rw [UInt32.toNat_or, UInt32.toNat_or, UInt32.toNat_or, UInt8.toNat_toUInt32]
  refine (congrArg₂ (· ||| ·) (congrArg₂ (· ||| ·) (congrArg (data[p].toNat ||| ·) hs1) hs2)
    hs3).trans ?_
  rw [or_shiftLeft_eq_add hb0, @or_shiftLeft_eq_add (_ + _) 16 (by omega),
    @or_shiftLeft_eq_add (_ + _) 24 (by omega), UInt32.toNat_ofNat']
  omega

theorem readLeF32_eq (h : p + 4 ≤ data.length) : readLeF32 data p = some (u32At data p) :=
  readLeU32_eq h

/-- A wide field and one more byte above it. -/
theorem leAt_snoc (width : ℕ) (h : p + width < data.length) :
    leAt (width + 1) data p = leAt width data p + 256 ^ width * data[p + width].toNat := by
  have htake : (data.drop p).take (width + 1) =
      (data.drop p).take width ++ [data[p + width]] := by
    rw [List.take_add_one, List.getElem?_drop, List.getElem?_eq_getElem h]
    rfl
  have hlength : ((data.drop p).take width).length = width := by
    rw [List.length_take, List.length_drop]
    omega
  unfold leAt
  rw [htake, leValue_append, hlength, leValue_cons]
  simp [leValue]

/-- The loop of `readLeU64` over the first bytes. -/
theorem readLeU64_loop (n : ℕ) (hn : n ≤ 8) (h : p + n ≤ data.length) :
    ∃ v : UInt64, v.toNat = leAt n data p ∧ v.toNat < 256 ^ n ∧
      (List.range n).foldlM (fun (v : UInt64) i => do
        let b ← data[p + i]?
        some (v ||| (b.toUInt64 <<< UInt64.ofNat (8 * i)))) 0 = some v := by
  induction n with
  | zero => exact ⟨0, by rw [leAt_zero]; rfl, by decide, rfl⟩
  | succ n ih =>
    -- one more byte on top of those that were read
    obtain ⟨v, hv, hlt, hloop⟩ := ih (by omega) (by omega)
    have hn' : p + n < data.length := by omega
    have hbyte := data[p + n].toNat_lt
    have hpow : 256 ^ n = 2 ^ (8 * n) := by
      rw [Nat.pow_mul]
    have hshifted : (data[p + n].toUInt64 <<< UInt64.ofNat (8 * n)).toNat =
        data[p + n].toNat <<< (8 * n) := by
      have hshift : (UInt64.ofNat (8 * n)).toNat % 64 = 8 * n := by
        rw [UInt64.toNat_ofNat']
        omega
      have hfits : data[p + n].toNat <<< (8 * n) < 2 ^ 64 := by
        rw [Nat.shiftLeft_eq]
        calc data[p + n].toNat * 2 ^ (8 * n) ≤ data[p + n].toNat * 2 ^ 56 :=
              Nat.mul_le_mul_left _ (Nat.pow_le_pow_right (by decide) (by omega))
          _ < 2 ^ 64 := by omega
      rw [UInt64.toNat_shiftLeft, hshift, UInt8.toNat_toUInt64, Nat.mod_eq_of_lt hfits]
    -- below it there are only the bytes read so far
    have hsum : (v ||| (data[p + n].toUInt64 <<< UInt64.ofNat (8 * n))).toNat =
        v.toNat + 256 ^ n * data[p + n].toNat := by
      rw [UInt64.toNat_or, hshifted, or_shiftLeft_eq_add (hpow ▸ hlt), hpow]
    refine ⟨v ||| (data[p + n].toUInt64 <<< UInt64.ofNat (8 * n)), ?_, ?_, ?_⟩
    · rw [hsum, hv, leAt_snoc n hn']
    · rw [hsum, Nat.pow_succ]
      have htop := Nat.mul_le_mul_left (256 ^ n) (Nat.lt_succ_iff.mp hbyte)
      omega
    · rw [List.range_succ, List.foldlM_append, hloop]
      simp [List.getElem?_eq_getElem hn']

/-- The loop over eight bytes reads a little-endian number. -/
theorem readLeU64_eq (h : p + 8 ≤ data.length) : readLeU64 data p = some (u64At data p) := by
  obtain ⟨v, hv, -, hloop⟩ := readLeU64_loop 8 le_rfl h
  unfold readLeU64 u64At
  rw [hloop, ← hv, UInt64.ofNat_toNat]

theorem readLeI64_eq (h : p + 8 ≤ data.length) :
    readLeI64 data p = some (u64At data p).toInt64 := by
  unfold readLeI64
  rw [readLeU64_eq h]
  rfl

end

/-! ## What the documents say is where -/

/-- A `PoseEntry0X02`. -/
def poseAt (floats : Floats K) (data : List UInt8) (p : ℕ) : PoseMsg K where
  position := ⟨floats.ofBits (u32At data p), floats.ofBits (u32At data (p + 4)),
    floats.ofBits (u32At data (p + 8))⟩
  orientation := ⟨floats.ofBits (u32At data (p + 12)), floats.ofBits (u32At data (p + 16)),
    floats.ofBits (u32At data (p + 20)), floats.ofBits (u32At data (p + 24))⟩

/-- A `ControllerButtonsEntry0X02`. -/
def joyAt (data : List UInt8) (stamp : UInt64) (p : ℕ) : Joy where
  stamp := stamp
  axes := [u32At data p, u32At data (p + 5), u32At data (p + 13), u32At data (p + 17)]
  buttons := [u8At data (p + 4), u8At data (p + 9), u8At data (p + 10), u8At data (p + 11),
    u8At data (p + 12), u8At data (p + 21), u8At data (p + 22)].map
      fun button => Int32.ofNat button.toNat

/-- The flag byte of a datagram of type 0x02. -/
def flagsAt (data : List UInt8) : UInt8 := u8At data 10

/-- The bytes of the Euler block. -/
def eulerBytes (flags : UInt8) : ℕ := if flags &&& 0x01 ≠ 0 then 36 else 0

/-- The size table: header and poses, and the optional blocks. -/
def documentedBytes (flags : UInt8) : ℕ :=
  97 + eulerBytes flags + (if flags &&& 0x04 ≠ 0 then 46 else 0) +
    (if flags &&& 0x02 ≠ 0 then 76 else 0)

/-- The supported version, and as long as the flags require. -/
def PoseControllerDocumented (data : List UInt8) : Prop :=
  13 ≤ data.length ∧ u8At data 9 = 1 ∧ documentedBytes (flagsAt data) ≤ data.length

/-- What such a datagram says. -/
def poseControllerMessages (floats : Floats K) (cfg : PoseUdpReceiverConfig) (data : List UInt8) :
    List (Publish K) :=
  let stamp := u64At data 1 * 1000000
  let buttons := 97 + eulerBytes (flagsAt data)
  [.pub_hmd_ ⟨stamp, cfg.frame_id_hmd, poseAt floats data 13⟩,
    .pub_left_controller_ ⟨stamp, cfg.frame_id_left_controller, poseAt floats data 41⟩,
    .pub_right_controller_ ⟨stamp, cfg.frame_id_right_controller, poseAt floats data 69⟩] ++
  if flagsAt data &&& 0x04 ≠ 0 ∧ cfg.publish_buttons = true then
    [.pub_left_joy_ (joyAt data stamp buttons), .pub_right_joy_ (joyAt data stamp (buttons + 23))]
  else []

section

variable {data : List UInt8}

/-- All seven floats of a pose are inside. -/
theorem readPoseMsg_eq (floats : Floats K) (stamp : UInt64) (frame_id : String) {p : ℕ}
    (h : p + 28 ≤ data.length) :
    readPoseMsg floats data stamp p frame_id = some ⟨stamp, frame_id, poseAt floats data p⟩ := by
  unfold readPoseMsg
  rw [readLeF32_eq (by omega), readLeF32_eq (by omega), readLeF32_eq (by omega),
    readLeF32_eq (by omega), readLeF32_eq (by omega), readLeF32_eq (by omega),
    readLeF32_eq (by omega)]
  rfl

/-- All fields of a controller are inside. -/
theorem readJoyMsg_eq (stamp : UInt64) {p : ℕ} (h : p + 23 ≤ data.length) :
    readJoyMsg data stamp p = some (joyAt data stamp p) := by
  unfold readJoyMsg
  rw [readLeF32_eq (by omega), readLeF32_eq (by omega), readLeF32_eq (by omega),
    readLeF32_eq (by omega), getElem?_eq_u8At (by omega), getElem?_eq_u8At (by omega),
    getElem?_eq_u8At (by omega), getElem?_eq_u8At (by omega), getElem?_eq_u8At (by omega),
    getElem?_eq_u8At (by omega), getElem?_eq_u8At (by omega)]
  rfl

/-- The parser asks for the length that the document declares. -/
theorem expectedBytes_eq (flags : UInt8) : expectedBytes flags = documentedBytes flags := by
  unfold expectedBytes documentedBytes eulerBytes kPoseControllerHeaderBytes kPoseEntryBytes
    kControllerButtonsEntryBytes kEulerEntryBytes kAimEntryBytes kPoseFlagIncludeEuler
    kPoseFlagIncludeAim kPoseFlagIncludeButtons
  simp only
  split_ifs <;> rfl

/-- A datagram of type 0x02, whatever is in it. -/
theorem parsePoseController_eq (floats : Floats K) (cfg : PoseUdpReceiverConfig) :
    ∃ parsed, parsePoseController floats cfg data = some parsed ∧
      ∀ messages, parsed = .published messages ↔
        PoseControllerDocumented data ∧ messages = poseControllerMessages floats cfg data := by
  unfold parsePoseController PoseControllerDocumented
  -- each check that fails leaves one of the documented conditions unmet
  by_cases hheader : data.length < kPoseControllerHeaderBytes
  · rw [if_pos hheader]
    refine ⟨_, rfl, fun messages => iff_of_false nofun fun h => ?_⟩
    unfold kPoseControllerHeaderBytes at hheader
    omega
  · rw [if_neg hheader]
    unfold kPoseControllerHeaderBytes at hheader
    rw [readLeU64_eq (by omega), getElem?_eq_u8At (by omega), getElem?_eq_u8At (by omega)]
    simp only [Option.bind_eq_bind, Option.bind_some, expectedBytes_eq]
    by_cases hversion : u8At data 9 = kProtocolVersion
    · rw [if_neg (not_not.mpr hversion)]
      by_cases hshort : data.length < documentedBytes (u8At data 10)
      · rw [if_pos hshort]
        refine ⟨_, rfl, fun messages => iff_of_false nofun fun h => ?_⟩
        have hlong := h.1.2.2
        unfold flagsAt at hlong
        omega
      · rw [if_neg hshort]
        have hlong := not_lt.mp hshort
        have hbase := hlong
        unfold documentedBytes at hbase
        -- the declared length covers the three poses
        rw [readPoseMsg_eq floats _ _ (by unfold kPoseControllerHeaderBytes; omega),
          readPoseMsg_eq floats _ _ (by
            unfold kPoseControllerHeaderBytes kPoseEntryBytes; omega),
          readPoseMsg_eq floats _ _ (by
            unfold kPoseControllerHeaderBytes kPoseEntryBytes; omega)]
        simp only [Option.bind_some]
        -- the buttons come behind the Euler block
        have hoff : (if u8At data 10 &&& kPoseFlagIncludeEuler ≠ 0 then
            kPoseControllerHeaderBytes + 3 * kPoseEntryBytes + 3 * kEulerEntryBytes
            else kPoseControllerHeaderBytes + 3 * kPoseEntryBytes) =
            97 + eulerBytes (u8At data 10) := by
          unfold eulerBytes kPoseFlagIncludeEuler
          split_ifs <;> rfl
        rw [hoff]
        by_cases hbuttons : u8At data 10 &&& kPoseFlagIncludeButtons ≠ 0 ∧
            cfg.publish_buttons = true
        · rw [if_pos hbuttons]
          have hflag : u8At data 10 &&& 0x04 ≠ 0 := hbuttons.1
          rw [if_pos hflag] at hbase
          -- the declared length covers both controllers
          rw [readJoyMsg_eq _ (by unfold kControllerButtonsEntryBytes; omega),
            readJoyMsg_eq _ (by unfold kControllerButtonsEntryBytes; omega)]
          refine ⟨_, rfl, fun messages => ?_⟩
          unfold poseControllerMessages
          simp only
          rw [if_pos (show flagsAt data &&& 0x04 ≠ 0 ∧ cfg.publish_buttons = true from hbuttons)]
          rw [Parsed.published.injEq, and_iff_right ⟨not_lt.mp hheader, hversion, hlong⟩]
          exact eq_comm
        · rw [if_neg hbuttons]
          refine ⟨_, rfl, fun messages => ?_⟩
          unfold poseControllerMessages
          simp only
          rw [if_neg (show ¬ (flagsAt data &&& 0x04 ≠ 0 ∧ cfg.publish_buttons = true) from
            hbuttons)]
          rw [Parsed.published.injEq, and_iff_right ⟨not_lt.mp hheader, hversion, hlong⟩]
          exact eq_comm
    · rw [if_pos hversion]
      exact ⟨_, rfl, fun messages => iff_of_false nofun fun h => hversion h.1.2.1⟩

/-- A `JointPoseQEntry0X09`. -/
def rawPoseAt (floats : Floats K) (data : List UInt8) (p : ℕ) : PoseMsg K where
  position := ⟨.finite ((millimeters (u16At data p).toInt16).value K),
    .finite ((millimeters (u16At data (p + 2)).toInt16).value K),
    .finite ((millimeters (u16At data (p + 4)).toInt16).value K)⟩
  orientation := ⟨floats.ofBits (u32At data (p + 6)), floats.ofBits (u32At data (p + 10)),
    floats.ofBits (u32At data (p + 14)), floats.ofBits (u32At data (p + 18))⟩

/-- At least 1236 bytes, with the header, the three block headers, the number of joints and the
scale code of the document. Each block header is behind the blocks before it. -/
structure Body24Documented (data : List UInt8) : Prop where
  length : 1236 ≤ data.length
  header : u8At data 1 = 1 ∧ u16At data 2 = 1236 ∧ u8At data 12 = 1 ∧ u8At data 13 = 0 ∧
    u8At data 14 = 3
  bodyState : u8At data 16 = 1 ∧ u16At data (16 + 2) = 40
  jointPose : u8At data (16 + 40) = 2 ∧ u16At data (16 + 40 + 2) = 540
  jointCount : u8At data (16 + 40 + 4) = 24
  scaleCode : u8At data (16 + 40 + 4 + 2) = 1
  jointMotion : u8At data (16 + 40 + 540) = 3 ∧ u16At data (16 + 40 + 540 + 2) = 640

/-- `JointValidMask & ValidMask & 0xFFFFFF`, if the body is tracked. -/
def bodyMaskAt (data : List UInt8) : UInt32 :=
  if u32At data 20 = 0 ∧ u32At data 24 = 0 ∧ u8At data 28 ≠ 0 then
    u32At data 32 &&& u32At data 64 &&& 0xFFFFFF
  else 0

/-- What such a datagram says. -/
def body24Messages (floats : Floats K) (cfg : PoseUdpReceiverConfig) (data : List UInt8) :
    Joint24 K :=
  publishJoint24 floats.root cfg.frame_id_joint24 cfg.frame_id_waist (u64At data 4 * 1000000)
    (fun i => rawPoseAt floats data (68 + 22 * i)) (bodyMaskAt data)

/-- A block header is accepted exactly if it has the type and the size of the document. -/
theorem readBlockHeader_eq {off : ℕ} {expected_type : UInt8} {expected_bytes : UInt16}
    (hlength : 1236 ≤ data.length) (hheader : off + 4 ≤ 1236)
    (hblock : off + expected_bytes.toNat ≤ 1236) :
    readBlockHeader data kBody24RawTotalBytes off expected_type expected_bytes =
      some (if u8At data off = expected_type ∧ u16At data (off + 2) = expected_bytes then
        some (off + 4) else none) := by
  have htotal : kBody24RawTotalBytes.toNat = 1236 := rfl
  unfold readBlockHeader
  rw [htotal, if_neg (by omega), getElem?_eq_u8At (by omega), readLeU16_eq (by omega)]
  simp only [Option.bind_eq_bind, Option.bind_some, Nat.add_zero]
  by_cases hdocumented : u8At data off = expected_type ∧ u16At data (off + 2) = expected_bytes
  · obtain ⟨htype, hbytes⟩ := hdocumented
    -- a block of the documented size ends inside the datagram
    have hinside : ¬ (expected_type ≠ expected_type ∨ expected_bytes ≠ expected_bytes ∨
        off + expected_bytes.toNat > 1236) := by
      simp only [ne_eq, not_true_eq_false, false_or]
      omega
    rw [hbytes, htype, if_neg hinside, if_pos ⟨rfl, rfl⟩]
  · rw [if_neg hdocumented, if_pos]
    by_contra hsame
    obtain ⟨htype, hrest⟩ := not_or.mp hsame
    exact hdocumented ⟨not_not.mp htype, not_not.mp (not_or.mp hrest).1⟩

/-- All 24 raw poses are inside, 22 bytes each. -/
theorem readRawPoses_eq (floats : Floats K) {p : ℕ} (h : p + 528 ≤ data.length) :
    readRawPoses floats data kPositionScaleCodeMillimeter p =
      some fun i : Fin kJointCount => rawPoseAt floats data (p + 22 * i) := by
  -- one joint
  have hentry : ∀ i, readRawPose floats data kPositionScaleCodeMillimeter p i =
      some (rawPoseAt floats data (p + 22 * i)) := by
    intro i
    have hi : (i : ℕ) < 24 := i.isLt
    unfold readRawPose
    simp only
    rw [readLeI16_eq (by omega), readLeI16_eq (by omega), readLeI16_eq (by omega),
      readLeF32_eq (by omega), readLeF32_eq (by omega), readLeF32_eq (by omega),
      readLeF32_eq (by omega), Nat.mul_comm (i : ℕ) 22]
    rfl
  unfold readRawPoses
  rw [dif_pos fun i => by rw [hentry i]; rfl]
  refine congrArg some (funext fun i => ?_)
  exact Option.get_of_eq_some _ (hentry i)

/-- The two masks are cut to 24 joints once. -/
theorem masks_eq (joint_valid_mask pose_valid_mask : UInt32) :
    (joint_valid_mask &&& kJointMaskAll) &&& (pose_valid_mask &&& kJointMaskAll) =
      joint_valid_mask &&& pose_valid_mask &&& 0xFFFFFF := by
  unfold kJointMaskAll
  rw [UInt32.and_assoc, UInt32.and_assoc, ← UInt32.and_assoc 0xFFFFFF,
    UInt32.and_comm 0xFFFFFF pose_valid_mask, UInt32.and_assoc, UInt32.and_self]

theorem toInt32_eq_zero (value : UInt32) : value.toInt32 = 0 ↔ value = 0 := by
  constructor
  · intro h
    rw [← value.toUInt32_toInt32, h]
    rfl
  · rintro rfl
    rfl

/-- A datagram of type 0x09, whatever is in it. -/
theorem parseBody24Raw_eq (floats : Floats K) (cfg : PoseUdpReceiverConfig) :
    ∃ parsed, parseBody24Raw floats cfg data = some parsed ∧
      ∀ messages, parsed = .published messages ↔
        Body24Documented data ∧ messages = [.joint24 (body24Messages floats cfg data)] := by
  have htotal : kBody24RawTotalBytes.toNat = 1236 := rfl
  unfold parseBody24Raw
  by_cases hshort : data.length < kBody24RawTotalBytes.toNat
  · rw [if_pos hshort]
    refine ⟨_, rfl, fun messages => iff_of_false nofun fun h => ?_⟩
    have hlong := h.1.length
    omega
  -- from here on every read is inside: the datagram has its full length
  have hlong : 1236 ≤ data.length := by omega
  rw [if_neg hshort, getElem?_eq_u8At (by omega), readLeU16_eq (by omega),
    readLeU64_eq (by omega), getElem?_eq_u8At (by omega), getElem?_eq_u8At (by omega),
    getElem?_eq_u8At (by omega)]
  dsimp only [Option.bind_eq_bind, Option.bind_some]
  by_cases hheader : u8At data 1 ≠ kProtocolVersion ∨ u16At data 2 ≠ kBody24RawTotalBytes ∨
      u8At data 12 ≠ kBody24ProfileFullMotionQuantized ∨
      u8At data 13 ≠ kBody24SpacePicoLocalPose ∨ u8At data 14 ≠ kBody24BlockCount
  · rw [if_pos hheader]
    refine ⟨_, rfl, fun messages => iff_of_false nofun fun h => ?_⟩
    obtain ⟨hversion, hbytes, hprofile, hspace, hblocks⟩ := h.1.header
    -- any field that differs contradicts the document
    rcases hheader with h | h | h | h | h
    exacts [h hversion, h hbytes, h hprofile, h hspace, h hblocks]
  rw [if_neg hheader]
  simp only [not_or, not_not] at hheader
  obtain ⟨hversion, hbytes, hprofile, hspace, hblocks⟩ := hheader
  rw [hbytes, readBlockHeader_eq hlong (by decide) (by decide)]
  dsimp only [Option.bind_some]
  -- the three blocks in their order; a wrong block type or size ends the parse
  by_cases hstate : u8At data 16 = kBodyStateBlockType ∧
      u16At data (16 + 2) = kBodyStateBlockBytes
  swap
  · rw [if_neg hstate]
    exact ⟨_, rfl, fun messages => iff_of_false nofun fun h => hstate h.1.bodyState⟩
  rw [if_pos hstate]
  dsimp only
  rw [readLeU32_eq (by omega), readLeU32_eq (by omega), getElem?_eq_u8At (by omega),
    readLeU32_eq (by omega), readLeI64_eq (by omega)]
  dsimp only [Option.bind_some]
  rw [readBlockHeader_eq hlong (by decide) (by decide)]
  dsimp only [Option.bind_some]
  by_cases hpose : u8At data (16 + kBodyStateBlockBytes.toNat) = kJoint24RawPoseQBlockType ∧
      u16At data (16 + kBodyStateBlockBytes.toNat + 2) = kJoint24RawPoseQBlockBytes
  swap
  · rw [if_neg hpose]
    exact ⟨_, rfl, fun messages => iff_of_false nofun fun h => hpose h.1.jointPose⟩
  rw [if_pos hpose]
  -- the offsets are now those of the layout: 56 for the raw poses, 596 for the motion
  have hblocks' : 16 + kBodyStateBlockBytes.toNat + kJoint24RawPoseQBlockBytes.toNat = 596 := rfl
  have hstart : 16 + kBodyStateBlockBytes.toNat = 56 := rfl
  rw [hblocks', hstart]
  dsimp only
  rw [getElem?_eq_u8At (by omega), getElem?_eq_u8At (by omega), readLeU32_eq (by omega)]
  dsimp only [Option.bind_some]
  by_cases hpayload : (u8At data (56 + 4 + 0)).toNat ≠ kJointCount ∨
      u8At data (56 + 4 + 2) ≠ kPositionScaleCodeMillimeter
  · rw [if_pos hpayload]
    refine ⟨_, rfl, fun messages => iff_of_false nofun fun h => ?_⟩
    rcases hpayload with hcount | hscale
    · exact hcount (congrArg UInt8.toNat h.1.jointCount)
    · exact hscale h.1.scaleCode
  rw [if_neg hpayload]
  simp only [not_or, not_not] at hpayload
  obtain ⟨hcount, hscale⟩ := hpayload
  rw [hscale, readRawPoses_eq floats (by omega), readBlockHeader_eq hlong (by decide) (by decide)]
  dsimp only [Option.bind_some]
  by_cases hmotion : u8At data 596 = kJoint24FullMotionQBlockType ∧
      u16At data (596 + 2) = kJoint24FullMotionQBlockBytes
  swap
  · rw [if_neg hmotion]
    exact ⟨_, rfl, fun messages => iff_of_false nofun fun h => hmotion h.1.jointMotion⟩
  rw [if_pos hmotion]
  have hdocumented : Body24Documented data :=
    { length := hlong
      header := ⟨hversion, hbytes, hprofile, hspace, hblocks⟩
      bodyState := hstate
      jointPose := hpose
      jointCount := UInt8.toNat_inj.mp hcount
      scaleCode := hscale
      jointMotion := hmotion }
  refine ⟨_, rfl, fun messages => ?_⟩
  rw [Parsed.published.injEq, and_iff_right hdocumented, masks_eq]
  simp only [toInt32_eq_zero]
  exact eq_comm

end

end TeleopBridge.Pose
