import TeleopBridge.Pose.PoseDatagram

/-!
# Documented Pose Datagrams

The encoders of `doc/PROTOCOL_UDP_0X02_POSE_CONTROLLER.md` and
`doc/PROTOCOL_UDP_0X09_BODY24RAW.md`, field by field; the repository has no sender of them.

## Key Result

`pose_datagrams_parsed`: every read is inside the datagram, exactly the documented datagrams are
published, and what is published is what the documented encoder wrote.
-/

namespace TeleopBridge.Pose

open Support

variable {K : Type} [Field K] [LinearOrder K]

/-! ## The documented encoders -/

/-- A `float`, by its bits. -/
def f32Bytes (bits : UInt32) : List UInt8 := leBytes 4 bits.toNat

@[simp]
theorem length_f32Bytes (bits : UInt32) : (f32Bytes bits).length = 4 := length_leBytes _ _

/-- `PoseEntry0X02` -/
structure PoseEntry0X02 where
  Pos : Vec3 UInt32
  Rot : Quat UInt32

def PoseEntry0X02.bytes (entry : PoseEntry0X02) : List UInt8 :=
  f32Bytes entry.Pos.x ++ (f32Bytes entry.Pos.y ++ (f32Bytes entry.Pos.z ++
    (f32Bytes entry.Rot.x ++ (f32Bytes entry.Rot.y ++ (f32Bytes entry.Rot.z ++
      f32Bytes entry.Rot.w)))))

/-- `ControllerButtonsEntry0X02` -/
structure ControllerButtonsEntry0X02 where
  TriggerValue : UInt32
  TriggerButton : UInt8
  GripValue : UInt32
  GripButton : UInt8
  PrimaryButton : UInt8
  SecondaryButton : UInt8
  MenuButton : UInt8
  ThumbstickX : UInt32
  ThumbstickY : UInt32
  ThumbstickClick : UInt8
  ThumbstickTouch : UInt8

def ControllerButtonsEntry0X02.bytes (entry : ControllerButtonsEntry0X02) : List UInt8 :=
  f32Bytes entry.TriggerValue ++ ([entry.TriggerButton] ++ (f32Bytes entry.GripValue ++
    ([entry.GripButton, entry.PrimaryButton, entry.SecondaryButton, entry.MenuButton] ++
      (f32Bytes entry.ThumbstickX ++ (f32Bytes entry.ThumbstickY ++
        [entry.ThumbstickClick, entry.ThumbstickTouch])))))

/-- `EulerEntry0X02` -/
structure EulerEntry0X02 where
  EulerDeg : Vec3 UInt32

def EulerEntry0X02.bytes (entry : EulerEntry0X02) : List UInt8 :=
  f32Bytes entry.EulerDeg.x ++ (f32Bytes entry.EulerDeg.y ++ f32Bytes entry.EulerDeg.z)

/-- `AimEntry0X02` -/
structure AimEntry0X02 where
  Valid : UInt8
  Pinch : UInt8
  PinchStrength : UInt32
  RayPos : Vec3 UInt32
  RayRot : Quat UInt32
  Reserved : UInt32

def AimEntry0X02.bytes (entry : AimEntry0X02) : List UInt8 :=
  [entry.Valid, entry.Pinch] ++ (f32Bytes entry.PinchStrength ++ (f32Bytes entry.RayPos.x ++
    (f32Bytes entry.RayPos.y ++ (f32Bytes entry.RayPos.z ++ (f32Bytes entry.RayRot.x ++
      (f32Bytes entry.RayRot.y ++ (f32Bytes entry.RayRot.z ++ (f32Bytes entry.RayRot.w ++
        f32Bytes entry.Reserved))))))))

/-- A datagram of type 0x02: the header fields that are not fixed, and the blocks. An optional
block is written if its flag is set. -/
structure PoseController0X02 where
  TimestampMs : UInt64
  Flags : UInt8
  Reserved0 : UInt8
  Reserved1 : UInt8
  HMD : PoseEntry0X02
  LeftController : PoseEntry0X02
  RightController : PoseEntry0X02
  Euler : Fin 3 → EulerEntry0X02
  LeftButtons : ControllerButtonsEntry0X02
  RightButtons : ControllerButtonsEntry0X02
  LeftAim : AimEntry0X02
  RightAim : AimEntry0X02

namespace PoseController0X02

def header (d : PoseController0X02) : List UInt8 :=
  [0x02] ++ (leBytes 8 d.TimestampMs.toNat ++ [1, d.Flags, d.Reserved0, d.Reserved1])

def euler (d : PoseController0X02) : List UInt8 :=
  if d.Flags &&& 0x01 ≠ 0 then (d.Euler 0).bytes ++ ((d.Euler 1).bytes ++ (d.Euler 2).bytes) else []

def buttons (d : PoseController0X02) : List UInt8 :=
  if d.Flags &&& 0x04 ≠ 0 then d.LeftButtons.bytes ++ d.RightButtons.bytes else []

def aim (d : PoseController0X02) : List UInt8 :=
  if d.Flags &&& 0x02 ≠ 0 then d.LeftAim.bytes ++ d.RightAim.bytes else []

/-- The datagram. -/
def bytes (d : PoseController0X02) : List UInt8 :=
  d.header ++ (d.HMD.bytes ++ (d.LeftController.bytes ++ (d.RightController.bytes ++
    (d.euler ++ (d.buttons ++ d.aim)))))

end PoseController0X02

/-- An `int16_t` or `uint16_t`, by its bits. -/
def u16Bytes (value : UInt16) : List UInt8 := leBytes 2 value.toNat

@[simp]
theorem length_u16Bytes (value : UInt16) : (u16Bytes value).length = 2 := length_leBytes _ _

/-- Three of them. -/
def vec16Bytes (v : Vec3 Int16) : List UInt8 :=
  u16Bytes v.x.toUInt16 ++ (u16Bytes v.y.toUInt16 ++ u16Bytes v.z.toUInt16)

/-- `JointPoseQEntry0X09` -/
structure JointPoseQEntry0X09 where
  Pos : Vec3 Int16
  Rot : Quat UInt32

def JointPoseQEntry0X09.bytes (entry : JointPoseQEntry0X09) : List UInt8 :=
  u16Bytes entry.Pos.x.toUInt16 ++ (u16Bytes entry.Pos.y.toUInt16 ++
    (u16Bytes entry.Pos.z.toUInt16 ++ (f32Bytes entry.Rot.x ++ (f32Bytes entry.Rot.y ++
      (f32Bytes entry.Rot.z ++ f32Bytes entry.Rot.w)))))

/-- `JointFullMotionQEntry0X09` -/
structure JointFullMotionQEntry0X09 where
  Vel : Vec3 Int16
  Accel : Vec3 Int16
  AngularVel : Vec3 Int16
  AngularAccel : Vec3 Int16
  BodyAction : UInt16

def JointFullMotionQEntry0X09.bytes (entry : JointFullMotionQEntry0X09) : List UInt8 :=
  vec16Bytes entry.Vel ++ (vec16Bytes entry.Accel ++ (vec16Bytes entry.AngularVel ++
    (vec16Bytes entry.AngularAccel ++ u16Bytes entry.BodyAction)))

/-- `BodyStateBlock0X09` less what its header fixes. -/
structure BodyStateBlock0X09 where
  BlockFlags : UInt8
  StateResult : UInt32
  DataResult : UInt32
  IsTracking : UInt8
  StateCode : UInt8
  StateMessage : UInt8
  BodyFlags : UInt8
  JointValidMask : UInt32
  ActionValidMask : UInt32
  SourceFlags : UInt32
  Reserved : UInt32
  BodyTimestamp : UInt64

def BodyStateBlock0X09.bytes (block : BodyStateBlock0X09) : List UInt8 :=
  [1, block.BlockFlags] ++ (u16Bytes 40 ++ (f32Bytes block.StateResult ++
    (f32Bytes block.DataResult ++ ([block.IsTracking, block.StateCode, block.StateMessage,
      block.BodyFlags] ++ (f32Bytes block.JointValidMask ++ (f32Bytes block.ActionValidMask ++
        (f32Bytes block.SourceFlags ++ (f32Bytes block.Reserved ++
          leBytes 8 block.BodyTimestamp.toNat))))))))

/-- `Joint24RawPoseQBlock0X09` less what is fixed. -/
structure Joint24RawPoseQBlock0X09 where
  BlockFlags : UInt8
  JointPoseFlags : UInt8
  Reserved : UInt8
  ValidMask : UInt32
  Joints : Fin kJointCount → JointPoseQEntry0X09

/-- The block in front of its joints. -/
def Joint24RawPoseQBlock0X09.head (block : Joint24RawPoseQBlock0X09) : List UInt8 :=
  [2, block.BlockFlags] ++ (u16Bytes 540 ++ ([24, block.JointPoseFlags, 1, block.Reserved] ++
    f32Bytes block.ValidMask))

def Joint24RawPoseQBlock0X09.joints (block : Joint24RawPoseQBlock0X09) : List UInt8 :=
  (List.finRange kJointCount).flatMap fun i => (block.Joints i).bytes

/-- `Joint24FullMotionQBlock0X09` less what is fixed. -/
structure Joint24FullMotionQBlock0X09 where
  BlockFlags : UInt8
  MotionFlags : UInt8
  VelocityScaleCode : UInt8
  AccelerationScaleCode : UInt8
  AngularVelocityScaleCode : UInt8
  AngularAccelerationScaleCode : UInt8
  Reserved : UInt16
  ValidMask : UInt32
  Entries : Fin kJointCount → JointFullMotionQEntry0X09

def Joint24FullMotionQBlock0X09.bytes (block : Joint24FullMotionQBlock0X09) : List UInt8 :=
  [3, block.BlockFlags] ++ (u16Bytes 640 ++ ([24, block.MotionFlags, block.VelocityScaleCode,
    block.AccelerationScaleCode, block.AngularVelocityScaleCode,
    block.AngularAccelerationScaleCode] ++ (u16Bytes block.Reserved ++
      (f32Bytes block.ValidMask ++
        (List.finRange kJointCount).flatMap fun i => (block.Entries i).bytes))))

/-- A datagram of type 0x09. -/
structure Body24Raw0X09 where
  TimestampMs : UInt64
  HeaderFlags : UInt8
  BodyState : BodyStateBlock0X09
  JointPose : Joint24RawPoseQBlock0X09
  JointMotion : Joint24FullMotionQBlock0X09

namespace Body24Raw0X09

def header (d : Body24Raw0X09) : List UInt8 :=
  [0x09, 1] ++ (u16Bytes 1236 ++ (leBytes 8 d.TimestampMs.toNat ++ [1, 0, 3, d.HeaderFlags]))

/-- The datagram. -/
def bytes (d : Body24Raw0X09) : List UInt8 :=
  d.header ++ (d.BodyState.bytes ++ (d.JointPose.head ++ (d.JointPose.joints ++
    d.JointMotion.bytes)))

end Body24Raw0X09

/-! ## Fields of encoded datagrams -/

section

variable {front rest : List UInt8} {q : ℕ}

/-- A read behind a part of the datagram is a read of the rest. -/
theorem u8At_append (h : front.length ≤ q) :
    u8At (front ++ rest) q = u8At rest (q - front.length) := by
  unfold u8At
  rw [leAt_append_right h]

theorem u16At_append (h : front.length ≤ q) :
    u16At (front ++ rest) q = u16At rest (q - front.length) := by
  unfold u16At
  rw [leAt_append_right h]

theorem u32At_append (h : front.length ≤ q) :
    u32At (front ++ rest) q = u32At rest (q - front.length) := by
  unfold u32At
  rw [leAt_append_right h]

theorem u64At_append (h : front.length ≤ q) :
    u64At (front ++ rest) q = u64At rest (q - front.length) := by
  unfold u64At
  rw [leAt_append_right h]

/-- The first byte of the rest is read as it is. -/
theorem u8At_cons (byte : UInt8) (bytes : List UInt8) : u8At (byte :: bytes) 0 = byte := by
  unfold u8At
  rw [leAt_one (by simp), List.getElem_cons_zero, UInt8.ofNat_toNat]

/-- A read behind a single byte. -/
theorem u8At_cons_succ (byte : UInt8) (bytes : List UInt8) (q : ℕ) :
    u8At (byte :: bytes) (q + 1) = u8At bytes q := rfl

theorem u16At_cons_succ (byte : UInt8) (bytes : List UInt8) (q : ℕ) :
    u16At (byte :: bytes) (q + 1) = u16At bytes q := rfl

theorem u32At_cons_succ (byte : UInt8) (bytes : List UInt8) (q : ℕ) :
    u32At (byte :: bytes) (q + 1) = u32At bytes q := rfl

theorem u64At_cons_succ (byte : UInt8) (bytes : List UInt8) (q : ℕ) :
    u64At (byte :: bytes) (q + 1) = u64At bytes q := rfl

/-- A field is read back whatever follows it. -/
theorem u64At_leBytes (value : UInt64) (rest : List UInt8) :
    u64At (leBytes 8 value.toNat ++ rest) 0 = value := by
  unfold u64At
  rw [leAt_leBytes_append, Nat.mod_eq_of_lt (show value.toNat < 256 ^ 8 from value.toNat_lt),
    UInt64.ofNat_toNat]

/-- The bits of a float are read back, whatever number they stand for. -/
theorem u32At_f32Bytes (bits : UInt32) (rest : List UInt8) :
    u32At (f32Bytes bits ++ rest) 0 = bits := by
  unfold u32At f32Bytes
  rw [leAt_leBytes_append, Nat.mod_eq_of_lt (show bits.toNat < 256 ^ 4 from bits.toNat_lt),
    UInt32.ofNat_toNat]

/-- The last field of an entry, with nothing behind it. -/
theorem u32At_f32Bytes_nil (bits : UInt32) : u32At (f32Bytes bits) 0 = bits := by
  rw [← List.append_nil (f32Bytes bits), u32At_f32Bytes]

/-- A pose may be read from the rest as well: its fields are all behind the front. -/
theorem poseAt_append (floats : Floats K) (h : front.length ≤ q) :
    poseAt floats (front ++ rest) q = poseAt floats rest (q - front.length) := by
  have hwide : ∀ k, u32At (front ++ rest) (q + k) = u32At rest (q - front.length + k) := by
    intro k
    rw [u32At_append (by omega), Nat.sub_add_comm h]
  have hfirst := hwide 0
  rw [Nat.add_zero, Nat.add_zero] at hfirst
  unfold poseAt
  simp only [hwide, hfirst]

/-- The same for the buttons of a controller. -/
theorem joyAt_append (stamp : UInt64) (h : front.length ≤ q) :
    joyAt (front ++ rest) stamp q = joyAt rest stamp (q - front.length) := by
  have hwide : ∀ k, u32At (front ++ rest) (q + k) = u32At rest (q - front.length + k) := by
    intro k
    rw [u32At_append (by omega), Nat.sub_add_comm h]
  have hbyte : ∀ k, u8At (front ++ rest) (q + k) = u8At rest (q - front.length + k) := by
    intro k
    rw [u8At_append (by omega), Nat.sub_add_comm h]
  have hfirst := hwide 0
  rw [Nat.add_zero, Nat.add_zero] at hfirst
  unfold joyAt
  simp only [hwide, hbyte, hfirst]

/-- The pose of an entry. -/
def PoseEntry0X02.pose (floats : Floats K) (entry : PoseEntry0X02) : PoseMsg K where
  position := ⟨floats.ofBits entry.Pos.x, floats.ofBits entry.Pos.y, floats.ofBits entry.Pos.z⟩
  orientation := ⟨floats.ofBits entry.Rot.x, floats.ofBits entry.Rot.y,
    floats.ofBits entry.Rot.z, floats.ofBits entry.Rot.w⟩

@[simp]
theorem PoseEntry0X02.length_bytes (entry : PoseEntry0X02) : entry.bytes.length = 28 := by
  simp [PoseEntry0X02.bytes]

/-- A pose that was written is read back. -/
theorem poseAt_bytes (floats : Floats K) (entry : PoseEntry0X02) (rest : List UInt8) :
    poseAt floats (entry.bytes ++ rest) 0 = entry.pose floats := by
  unfold poseAt PoseEntry0X02.pose PoseEntry0X02.bytes
  simp [u32At_append, u32At_f32Bytes]

/-- The message of an entry. -/
def ControllerButtonsEntry0X02.joy (stamp : UInt64) (entry : ControllerButtonsEntry0X02) : Joy where
  stamp := stamp
  axes := [entry.TriggerValue, entry.GripValue, entry.ThumbstickX, entry.ThumbstickY]
  buttons := [entry.TriggerButton, entry.GripButton, entry.PrimaryButton, entry.SecondaryButton,
    entry.MenuButton, entry.ThumbstickClick, entry.ThumbstickTouch].map
      fun button => Int32.ofNat button.toNat

@[simp]
theorem ControllerButtonsEntry0X02.length_bytes (entry : ControllerButtonsEntry0X02) :
    entry.bytes.length = 23 := by
  simp [ControllerButtonsEntry0X02.bytes]

/-- The buttons that were written are read back. -/
theorem joyAt_bytes (stamp : UInt64) (entry : ControllerButtonsEntry0X02) (rest : List UInt8) :
    joyAt (entry.bytes ++ rest) stamp 0 = entry.joy stamp := by
  unfold joyAt ControllerButtonsEntry0X02.joy ControllerButtonsEntry0X02.bytes
  simp [u32At_append, u8At_append, u32At_f32Bytes, u8At_cons, u8At_cons_succ, u32At_cons_succ]

@[simp]
theorem EulerEntry0X02.length_bytes (entry : EulerEntry0X02) : entry.bytes.length = 12 := by
  simp [EulerEntry0X02.bytes]

@[simp]
theorem AimEntry0X02.length_bytes (entry : AimEntry0X02) : entry.bytes.length = 38 := by
  simp [AimEntry0X02.bytes]

namespace PoseController0X02

variable (d : PoseController0X02)

@[simp]
theorem length_header : d.header.length = 13 := by
  simp [header]

@[simp]
theorem length_euler : d.euler.length = eulerBytes d.Flags := by
  unfold euler eulerBytes
  split_ifs <;> simp

/-- The length follows from the flags, as the parser computes it. -/
theorem length_bytes : d.bytes.length = documentedBytes d.Flags := by
  unfold bytes documentedBytes buttons aim
  simp only [List.length_append, length_header, PoseEntry0X02.length_bytes, length_euler]
  -- the optional blocks
  split_ifs <;> simp <;> omega

/-- The header reads back. -/
theorem header_fields (rest : List UInt8) :
    u64At (d.header ++ rest) 1 = d.TimestampMs ∧ u8At (d.header ++ rest) 9 = 1 ∧
      flagsAt (d.header ++ rest) = d.Flags := by
  unfold flagsAt header
  simp [u64At_cons_succ, u64At_leBytes, u8At_cons_succ, u8At_append, u8At_cons]

/-- What the datagram says. -/
def messages (floats : Floats K) (cfg : PoseUdpReceiverConfig) : List (Publish K) :=
  let stamp := d.TimestampMs * 1000000
  [.pub_hmd_ ⟨stamp, cfg.frame_id_hmd, d.HMD.pose floats⟩,
    .pub_left_controller_ ⟨stamp, cfg.frame_id_left_controller, d.LeftController.pose floats⟩,
    .pub_right_controller_ ⟨stamp, cfg.frame_id_right_controller,
      d.RightController.pose floats⟩] ++
  if d.Flags &&& 0x04 ≠ 0 ∧ cfg.publish_buttons = true then
    [.pub_left_joy_ (d.LeftButtons.joy stamp), .pub_right_joy_ (d.RightButtons.joy stamp)]
  else []

/-- A datagram of type 0x02 is what its document says, for every combination of flags and
whatever follows it. -/
theorem documented (floats : Floats K) (cfg : PoseUdpReceiverConfig) (trailing : List UInt8) :
    PoseControllerDocumented (d.bytes ++ trailing) ∧
      poseControllerMessages floats cfg (d.bytes ++ trailing) = d.messages floats cfg := by
  have hfront : ∀ rest, u64At (d.header ++ rest) 1 = d.TimestampMs ∧
      u8At (d.header ++ rest) 9 = 1 ∧ flagsAt (d.header ++ rest) = d.Flags := d.header_fields
  have hlength := d.length_bytes
  -- the poses are at fixed places
  have hposes : poseAt floats (d.bytes ++ trailing) 13 = d.HMD.pose floats ∧
      poseAt floats (d.bytes ++ trailing) 41 = d.LeftController.pose floats ∧
      poseAt floats (d.bytes ++ trailing) 69 = d.RightController.pose floats := by
    unfold bytes
    simp [poseAt_append, poseAt_bytes]
  -- the buttons are behind the header, the poses and the Euler block
  have hjoys : d.Flags &&& 0x04 ≠ 0 → ∀ stamp,
      joyAt (d.bytes ++ trailing) stamp (97 + eulerBytes d.Flags) = d.LeftButtons.joy stamp ∧
        joyAt (d.bytes ++ trailing) stamp (97 + eulerBytes d.Flags + 23) =
          d.RightButtons.joy stamp := by
    intro hflag stamp
    have hsplit : d.bytes ++ trailing =
        (d.header ++ (d.HMD.bytes ++ (d.LeftController.bytes ++ (d.RightController.bytes ++
          d.euler)))) ++
          (d.LeftButtons.bytes ++ (d.RightButtons.bytes ++ (d.aim ++ trailing))) := by
      unfold bytes buttons
      rw [if_pos hflag]
      simp only [List.append_assoc]
    have hbehind : (d.header ++ (d.HMD.bytes ++ (d.LeftController.bytes ++
        (d.RightController.bytes ++ d.euler)))).length = 97 + eulerBytes d.Flags := by
      simp only [List.length_append, length_header, PoseEntry0X02.length_bytes, length_euler]
      omega
    -- the right controller is behind the left one
    rw [hsplit, joyAt_append stamp (by rw [hbehind]), hbehind, Nat.sub_self, joyAt_bytes,
      joyAt_append stamp (by rw [hbehind]; omega), hbehind, Nat.add_sub_cancel_left,
      joyAt_append stamp (by simp), ControllerButtonsEntry0X02.length_bytes, Nat.sub_self,
      joyAt_bytes]
    exact ⟨rfl, rfl⟩
  obtain ⟨htimestamp, hversion, hflags⟩ := hfront (d.HMD.bytes ++ (d.LeftController.bytes ++
    (d.RightController.bytes ++ (d.euler ++ (d.buttons ++ d.aim)))) ++ trailing)
  rw [← List.append_assoc] at htimestamp hversion hflags
  change u64At (d.bytes ++ trailing) 1 = _ at htimestamp
  change u8At (d.bytes ++ trailing) 9 = _ at hversion
  change flagsAt (d.bytes ++ trailing) = _ at hflags
  constructor
  · refine ⟨?_, hversion, ?_⟩
    -- long enough, of the version that is read, and with all the blocks that the flags name
    · rw [List.length_append, hlength]
      unfold documentedBytes
      omega
    · rw [hflags, List.length_append, hlength]
      exact Nat.le_add_right _ _
  · unfold poseControllerMessages messages
    simp only
    rw [hflags, htimestamp, hposes.1, hposes.2.1, hposes.2.2]
    split_ifs with hbuttons
    · obtain ⟨hleft, hright⟩ := hjoys hbuttons.1 (d.TimestampMs * 1000000)
      rw [hleft, hright]
    · rfl

end PoseController0X02

/-- A 16-bit field is read back whatever follows it. -/
theorem u16At_u16Bytes (value : UInt16) (rest : List UInt8) :
    u16At (u16Bytes value ++ rest) 0 = value := by
  unfold u16At u16Bytes
  rw [leAt_leBytes_append, Nat.mod_eq_of_lt (show value.toNat < 256 ^ 2 from value.toNat_lt),
    UInt16.ofNat_toNat]

@[simp]
theorem JointPoseQEntry0X09.length_bytes (entry : JointPoseQEntry0X09) :
    entry.bytes.length = 22 := by
  simp [JointPoseQEntry0X09.bytes]

@[simp]
theorem JointFullMotionQEntry0X09.length_bytes (entry : JointFullMotionQEntry0X09) :
    entry.bytes.length = 26 := by
  simp [JointFullMotionQEntry0X09.bytes, vec16Bytes]

/-- The pose of an entry: millimeters, and the bits of the rotation. -/
def JointPoseQEntry0X09.pose (floats : Floats K) (entry : JointPoseQEntry0X09) : PoseMsg K where
  position := ⟨.finite ((millimeters entry.Pos.x).value K),
    .finite ((millimeters entry.Pos.y).value K), .finite ((millimeters entry.Pos.z).value K)⟩
  orientation := ⟨floats.ofBits entry.Rot.x, floats.ofBits entry.Rot.y,
    floats.ofBits entry.Rot.z, floats.ofBits entry.Rot.w⟩

/-- A raw joint that was written is read back. -/
theorem rawPoseAt_bytes (floats : Floats K) (entry : JointPoseQEntry0X09) :
    rawPoseAt floats entry.bytes 0 = entry.pose floats := by
  unfold rawPoseAt JointPoseQEntry0X09.pose JointPoseQEntry0X09.bytes
  simp [u16At_append, u32At_append, u16At_u16Bytes, u32At_f32Bytes, u32At_f32Bytes_nil]

/-- A raw joint may be read from the rest as well. -/
theorem rawPoseAt_append (floats : Floats K) (h : front.length ≤ q) :
    rawPoseAt floats (front ++ rest) q = rawPoseAt floats rest (q - front.length) := by
  have hshort : ∀ k, u16At (front ++ rest) (q + k) = u16At rest (q - front.length + k) := by
    intro k
    rw [u16At_append (by omega), Nat.sub_add_comm h]
  have hwide : ∀ k, u32At (front ++ rest) (q + k) = u32At rest (q - front.length + k) := by
    intro k
    rw [u32At_append (by omega), Nat.sub_add_comm h]
  have hfirst := hshort 0
  rw [Nat.add_zero, Nat.add_zero] at hfirst
  unfold rawPoseAt
  simp only [hshort, hwide, hfirst]

/-- The joints of the block, entry by entry. -/
theorem rawPoseAt_joints (floats : Floats K) (block : Joint24RawPoseQBlock0X09)
    (rest : List UInt8) (i : Fin kJointCount) :
    rawPoseAt floats (block.joints ++ rest) (22 * i) = (block.Joints i).pose floats := by
  have hi : (i : ℕ) < 24 := i.isLt
  have hsize : ∀ i, ((block.Joints i).bytes).length = 22 := fun i => (block.Joints i).length_bytes
  have hlength : block.joints.length = 24 * 22 := length_table hsize
  -- each field of the joint is inside its 22 bytes
  have hshort : ∀ k, k + 2 ≤ 22 →
      u16At (block.joints ++ rest) (22 * i + k) = u16At (block.Joints i).bytes k := by
    intro k hk
    unfold u16At
    rw [leAt_append_left (by rw [hlength]; omega)]
    exact congrArg UInt16.ofNat (leAt_entry hsize i hk)
  have hwide : ∀ k, k + 4 ≤ 22 →
      u32At (block.joints ++ rest) (22 * i + k) = u32At (block.Joints i).bytes k := by
    intro k hk
    unfold u32At
    rw [leAt_append_left (by rw [hlength]; omega)]
    exact congrArg UInt32.ofNat (leAt_entry hsize i hk)
  have hfirst := hshort 0 (by decide)
  rw [Nat.add_zero] at hfirst
  rw [← rawPoseAt_bytes]
  unfold rawPoseAt
  rw [hfirst, hshort 2 (by decide), hshort 4 (by decide), hwide 6 (by decide),
    hwide 10 (by decide), hwide 14 (by decide), hwide 18 (by decide)]

@[simp]
theorem BodyStateBlock0X09.length_bytes (block : BodyStateBlock0X09) :
    block.bytes.length = 40 := by
  simp [BodyStateBlock0X09.bytes]

@[simp]
theorem Joint24RawPoseQBlock0X09.length_head (block : Joint24RawPoseQBlock0X09) :
    block.head.length = 12 := by
  simp [Joint24RawPoseQBlock0X09.head]

/-- 24 joints of 22 bytes. -/
@[simp]
theorem Joint24RawPoseQBlock0X09.length_joints (block : Joint24RawPoseQBlock0X09) :
    block.joints.length = 528 :=
  length_table fun i => (block.Joints i).length_bytes

@[simp]
theorem Joint24FullMotionQBlock0X09.length_bytes (block : Joint24FullMotionQBlock0X09) :
    block.bytes.length = 640 := by
  -- 24 entries of 26 bytes behind a head of 16
  have htable : ((List.finRange kJointCount).flatMap fun i => (block.Entries i).bytes).length =
      624 :=
    length_table fun i => (block.Entries i).length_bytes
  unfold Joint24FullMotionQBlock0X09.bytes
  simp only [List.length_append, htable]
  simp

/-- The fields of the body state that the receiver reads. -/
theorem BodyStateBlock0X09.fields (block : BodyStateBlock0X09) (rest : List UInt8) :
    u8At (block.bytes ++ rest) 0 = 1 ∧ u16At (block.bytes ++ rest) 2 = 40 ∧
      u32At (block.bytes ++ rest) 4 = block.StateResult ∧
      u32At (block.bytes ++ rest) 8 = block.DataResult ∧
      u8At (block.bytes ++ rest) 12 = block.IsTracking ∧
      u32At (block.bytes ++ rest) 16 = block.JointValidMask := by
  unfold BodyStateBlock0X09.bytes
  simp [u8At_cons, u8At_cons_succ, u16At_cons_succ, u32At_cons_succ, u8At_append, u32At_append,
    u16At_u16Bytes, u32At_f32Bytes]

/-- The fields in front of the joints. -/
theorem Joint24RawPoseQBlock0X09.fields (block : Joint24RawPoseQBlock0X09) (rest : List UInt8) :
    u8At (block.head ++ rest) 0 = 2 ∧ u16At (block.head ++ rest) 2 = 540 ∧
      u8At (block.head ++ rest) 4 = 24 ∧ u8At (block.head ++ rest) 6 = 1 ∧
      u32At (block.head ++ rest) 8 = block.ValidMask := by
  unfold Joint24RawPoseQBlock0X09.head
  simp [u8At_cons, u8At_cons_succ, u16At_cons_succ, u32At_cons_succ, u8At_append, u32At_append,
    u16At_u16Bytes, u32At_f32Bytes]

/-- Of the motion block only its type and its size are read. -/
theorem Joint24FullMotionQBlock0X09.fields (block : Joint24FullMotionQBlock0X09)
    (rest : List UInt8) :
    u8At (block.bytes ++ rest) 0 = 3 ∧ u16At (block.bytes ++ rest) 2 = 640 := by
  unfold Joint24FullMotionQBlock0X09.bytes
  simp [u8At_cons, u16At_cons_succ, u16At_u16Bytes]

namespace Body24Raw0X09

variable (d : Body24Raw0X09)

/-- The header names the version, the whole length, the profile and three blocks. -/
theorem header_fields (rest : List UInt8) :
    u8At (d.header ++ rest) 1 = 1 ∧ u16At (d.header ++ rest) 2 = 1236 ∧
      u64At (d.header ++ rest) 4 = d.TimestampMs ∧ u8At (d.header ++ rest) 12 = 1 ∧
      u8At (d.header ++ rest) 13 = 0 ∧ u8At (d.header ++ rest) 14 = 3 := by
  unfold header
  simp [u8At_cons, u8At_cons_succ, u16At_cons_succ, u64At_cons_succ, u8At_append, u64At_append,
    u16At_u16Bytes, u64At_leBytes]

@[simp]
theorem length_header : d.header.length = 16 := by
  simp [header]

/-- `JointValidMask & ValidMask & 0xFFFFFF`, if the body is tracked. -/
def validMask : UInt32 :=
  if d.BodyState.StateResult = 0 ∧ d.BodyState.DataResult = 0 ∧ d.BodyState.IsTracking ≠ 0 then
    d.BodyState.JointValidMask &&& d.JointPose.ValidMask &&& 0xFFFFFF
  else 0

/-- What the datagram says. -/
def messages (floats : Floats K) (cfg : PoseUdpReceiverConfig) : Joint24 K :=
  publishJoint24 floats.root cfg.frame_id_joint24 cfg.frame_id_waist (d.TimestampMs * 1000000)
    (fun i => (d.JointPose.Joints i).pose floats) d.validMask

/-- A datagram of type 0x09 is what its document says, whatever follows it. -/
theorem documented (floats : Floats K) (cfg : PoseUdpReceiverConfig) (trailing : List UInt8) :
    Body24Documented (d.bytes ++ trailing) ∧
      body24Messages floats cfg (d.bytes ++ trailing) = d.messages floats cfg := by
  have hsplit : d.bytes ++ trailing = d.header ++ (d.BodyState.bytes ++ (d.JointPose.head ++
      (d.JointPose.joints ++ (d.JointMotion.bytes ++ trailing)))) := by
    unfold bytes
    simp only [List.append_assoc]
  rw [hsplit]
  -- the fields of each block, read with whatever follows it
  obtain ⟨hversion, htotal, htimestamp, hprofile, hspace, hblocks⟩ := d.header_fields
    (d.BodyState.bytes ++ (d.JointPose.head ++ (d.JointPose.joints ++
      (d.JointMotion.bytes ++ trailing))))
  obtain ⟨hstate, hstateBytes, hresult, hdata, htracking, hjointMask⟩ := d.BodyState.fields
    (d.JointPose.head ++ (d.JointPose.joints ++ (d.JointMotion.bytes ++ trailing)))
  obtain ⟨hpose, hposeBytes, hcount, hscale, hposeMask⟩ := d.JointPose.fields
    (d.JointPose.joints ++ (d.JointMotion.bytes ++ trailing))
  obtain ⟨hmotion, hmotionBytes⟩ := d.JointMotion.fields trailing
  -- each condition of the document is one field of one block
  constructor
  · exact {
      length := by
        simp only [List.length_append, length_header, BodyStateBlock0X09.length_bytes,
          Joint24RawPoseQBlock0X09.length_head, Joint24RawPoseQBlock0X09.length_joints,
          Joint24FullMotionQBlock0X09.length_bytes]
        omega
      header := ⟨hversion, htotal, hprofile, hspace, hblocks⟩
      bodyState := by simp [u8At_append, u16At_append, hstate, hstateBytes]
      jointPose := by simp [u8At_append, u16At_append, hpose, hposeBytes]
      jointCount := by simp [u8At_append, hcount]
      scaleCode := by simp [u8At_append, hscale]
      jointMotion := by simp [u8At_append, u16At_append, hmotion, hmotionBytes] }
  · -- the mask and the joints are read where the blocks have them
    have hmask : bodyMaskAt (d.header ++ (d.BodyState.bytes ++ (d.JointPose.head ++
        (d.JointPose.joints ++ (d.JointMotion.bytes ++ trailing))))) = d.validMask := by
      unfold bodyMaskAt validMask
      simp [u8At_append, u32At_append, hresult, hdata, htracking, hjointMask, hposeMask]
    have hjoints : (fun i : Fin kJointCount => rawPoseAt floats (d.header ++ (d.BodyState.bytes ++
        (d.JointPose.head ++ (d.JointPose.joints ++ (d.JointMotion.bytes ++ trailing)))))
          (68 + 22 * i)) = fun i => (d.JointPose.Joints i).pose floats := by
      funext i
      -- the entries begin behind 68 bytes
      have hfront : (d.header ++ (d.BodyState.bytes ++ d.JointPose.head)).length = 68 := by simp
      have hassoc : ∀ rest, d.header ++ (d.BodyState.bytes ++ (d.JointPose.head ++ rest)) =
          (d.header ++ (d.BodyState.bytes ++ d.JointPose.head)) ++ rest := by
        simp only [List.append_assoc, implies_true]
      rw [hassoc, rawPoseAt_append floats (by omega), hfront, Nat.add_sub_cancel_left,
        rawPoseAt_joints]
    unfold body24Messages messages
    rw [htimestamp, hmask, hjoints]

end Body24Raw0X09

end

/-! ## Main result -/

/-- No call reads outside of its datagram. A datagram of type 0x09 is published exactly if it is
documented, and then its messages are what is where the document says; so they are for a
datagram of type 0x02. What the documented encoders write is documented, and says what was
encoded, joint by joint. A position is the `float` next to `value * 0.001f`, and so
`value * 0.001` up to one part in 2^23. A datagram of another type is not published. -/
theorem pose_datagrams_parsed (floats : Floats K) (cfg : PoseUdpReceiverConfig) :
    (∀ data, ∃ parsed, parseAndPublish floats cfg data = some parsed) ∧
    (∀ data, data[0]? = some 0x09 → ∀ messages,
      parseAndPublish floats cfg data = some (.published messages) ↔
        Body24Documented data ∧ messages = [.joint24 (body24Messages floats cfg data)]) ∧
    (∀ (d : Body24Raw0X09) (trailing : List UInt8),
      Body24Documented (d.bytes ++ trailing) ∧
        body24Messages floats cfg (d.bytes ++ trailing) = d.messages floats cfg ∧
        (d.messages floats cfg).valid_mask_msg = d.validMask ∧
        ∀ i : Fin kJointCount, (d.messages floats cfg).joint24_msg.poses[i]? =
          some ((d.JointPose.Joints i).pose floats)) ∧
    (IsNearestSingle (1 / 1000 : ℚ) thousandth ∧ ∀ value : Int16,
      IsNearestSingle (value.toInt * thousandth.value ℚ) (millimeters value) ∧
        |(millimeters value).value ℚ - value.toInt / 1000| * 2 ^ 23 ≤
          |(value.toInt : ℚ) / 1000|) ∧
    (∀ data, data[0]? = some 0x02 → ∀ messages,
      parseAndPublish floats cfg data = some (.published messages) ↔
        PoseControllerDocumented data ∧ messages = poseControllerMessages floats cfg data) ∧
    (∀ (d : PoseController0X02) (trailing : List UInt8),
      PoseControllerDocumented (d.bytes ++ trailing) ∧
        poseControllerMessages floats cfg (d.bytes ++ trailing) = d.messages floats cfg) ∧
    ∀ data, data[0]? ≠ some 0x09 → data[0]? ≠ some 0x02 →
      parseAndPublish floats cfg data = some .ignored := by
  refine ⟨?_, ?_, ?_, ?_, ?_, ?_, ?_⟩
  · intro data
    unfold parseAndPublish
    -- nothing is read of a datagram that is empty or of another type
    split
    · exact ⟨_, rfl⟩
    · obtain ⟨body, hbody, -⟩ := @parseBody24Raw_eq K _ _ data floats cfg
      obtain ⟨pose, hpose, -⟩ := @parsePoseController_eq K _ _ data floats cfg
      split_ifs
      exacts [⟨pose, hpose⟩, ⟨_, rfl⟩, ⟨body, hbody⟩]
  -- the first byte decides which of the two parsers runs
  · intro data htype messages
    obtain ⟨parsed, hparsed, hmessages⟩ := @parseBody24Raw_eq K _ _ data floats cfg
    unfold parseAndPublish
    rw [htype]
    simp only
    rw [if_neg (by decide), if_neg (by decide), hparsed, Option.some.injEq]
    exact hmessages messages
  · intro d trailing
    obtain ⟨hdocumented, hsame⟩ := d.documented floats cfg trailing
    refine ⟨hdocumented, hsame, ?_, ?_⟩
    · -- a mask of the valid joints is masked once more before it is published
      unfold Body24Raw0X09.messages publishJoint24 Body24Raw0X09.validMask kJointMaskAll
      simp only
      split_ifs
      · rw [UInt32.and_assoc, UInt32.and_self]
      · rfl
    · intro i
      unfold Body24Raw0X09.messages publishJoint24
      simp
  · -- the metres of a raw position
    exact ⟨thousandth_isNearestSingle, fun value =>
      ⟨millimeters_isNearestSingle value, millimeters_error value⟩⟩
  · intro data htype messages
    obtain ⟨parsed, hparsed, hmessages⟩ := @parsePoseController_eq K _ _ data floats cfg
    unfold parseAndPublish
    rw [htype]
    simp only
    rw [if_pos (by decide), hparsed, Option.some.injEq]
    exact hmessages messages
  · exact fun d trailing => d.documented floats cfg trailing
  · intro data hbody hpose
    unfold parseAndPublish
    split
    · rfl
    · next type htype =>
      rw [if_neg, if_pos]
      · rintro rfl
        exact hbody htype
      · rintro rfl
        exact hpose htype

end TeleopBridge.Pose
