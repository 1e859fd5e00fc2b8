import Mathlib.Algebra.Order.Field.Basic
import Mathlib.Analysis.Real.Sqrt
import TeleopBridge.Support.BitMask
import TeleopBridge.Support.RigidMotion

/-!
# Pelvis-Relative Poses

Embeds `src/udp/pose_udp_receiver.cpp`: the quaternion functions, `poseToTransform`,
`makeRelativePose` and `publishJoint24`.

A `double` is an element of an ordered field or one value for all that is not finite, and the
arithmetic is exact: `std::sqrt` is a root of the positive elements.

## Key Results

- `makeRelativePose_eq`: the published relative pose is `pelvis⁻¹ * joint`.
- `publishJoint24_spec`: what each published message holds, joint by joint.
- `waist_poses_are_rigid`: the relative poses compose back and ignore a common motion.
-/

namespace TeleopBridge.Pose

open Support Quaternion

/-! ## Numbers -/

/-- A `double`. -/
inductive Double (K : Type*) where
  | finite (x : K)
  | notFinite
deriving DecidableEq, Repr

/-- The number, if `isFinite`. -/
def Double.value? {K : Type*} : Double K → Option K
  | .finite x => some x
  | .notFinite => none

/-- `std::sqrt`, exact on the positive elements. -/
structure Sqrt (K : Type*) [Field K] [LinearOrder K] where
  sqrt : K → K
  pos : ∀ x, 0 < x → 0 < sqrt x
  mul_self : ∀ x, 0 < x → sqrt x * sqrt x = x

/-- `struct Vec3` -/
@[ext]
structure Vec3 (K : Type*) where
  x : K
  y : K
  z : K
deriving DecidableEq, Repr

/-- `struct Quat` -/
@[ext]
structure Quat (K : Type*) where
  x : K
  y : K
  z : K
  w : K
deriving DecidableEq, Repr

/-- `geometry_msgs::msg::Pose` -/
structure PoseMsg (K : Type*) where
  position : Vec3 (Double K)
  orientation : Quat (Double K)
deriving DecidableEq, Repr

/-- `kJointCount` -/
abbrev kJointCount : ℕ := 24

/-- Every joint has a flag. -/
theorem joint_lt (i : Fin kJointCount) : (i : ℕ) < 32 := i.isLt.trans (by decide)

/-- `kJointMaskAll` -/
def kJointMaskAll : UInt32 := 0xFFFFFF

variable {K : Type*} [Field K]

/-- `kQuatNormEpsilon` -/
def kQuatNormEpsilon : K := 1 / 100000000

/-! ## Quaternions -/

/-- `conjugateQuat` -/
def conjugateQuat (q : Quat K) : Quat K := ⟨-q.x, -q.y, -q.z, q.w⟩

/-- `multiplyQuat` -/
def multiplyQuat (a b : Quat K) : Quat K where
  x := a.w * b.x + a.x * b.w + a.y * b.z - a.z * b.y
  y := a.w * b.y - a.x * b.z + a.y * b.w + a.z * b.x
  z := a.w * b.z + a.x * b.y - a.y * b.x + a.z * b.w
  w := a.w * b.w - a.x * b.x - a.y * b.y - a.z * b.z

/-- `rotateVector` -/
def rotateVector (q : Quat K) (v : Vec3 K) : Vec3 K :=
  let vector_quat : Quat K := ⟨v.x, v.y, v.z, 0⟩
  let rotated := multiplyQuat (multiplyQuat q vector_quat) (conjugateQuat q)
  ⟨rotated.x, rotated.y, rotated.z⟩

/-- A quaternion of the source as a quaternion, and back. -/
def Quat.toH (q : Quat K) : ℍ[K] := ⟨q.w, q.x, q.y, q.z⟩
def Quat.ofH (h : ℍ[K]) : Quat K := ⟨h.imI, h.imJ, h.imK, h.re⟩

/-- A vector of the source as a quaternion without real part, and back. -/
def Vec3.toH (v : Vec3 K) : ℍ[K] := ⟨0, v.x, v.y, v.z⟩
def Vec3.ofH (h : ℍ[K]) : Vec3 K := ⟨h.imI, h.imJ, h.imK⟩

section

variable (a b q : Quat K) (v w : Vec3 K)

@[simp] theorem Quat.toH_re : q.toH.re = q.w := rfl
@[simp] theorem Quat.toH_imI : q.toH.imI = q.x := rfl
@[simp] theorem Quat.toH_imJ : q.toH.imJ = q.y := rfl
@[simp] theorem Quat.toH_imK : q.toH.imK = q.z := rfl
@[simp] theorem Vec3.toH_re : v.toH.re = 0 := rfl
@[simp] theorem Vec3.toH_imI : v.toH.imI = v.x := rfl
@[simp] theorem Vec3.toH_imJ : v.toH.imJ = v.y := rfl
@[simp] theorem Vec3.toH_imK : v.toH.imK = v.z := rfl
@[simp] theorem Quat.ofH_toH : Quat.ofH q.toH = q := rfl
@[simp] theorem Quat.toH_ofH (h : ℍ[K]) : (Quat.ofH h).toH = h := rfl
@[simp] theorem Vec3.ofH_toH : Vec3.ofH v.toH = v := rfl

/-- A quaternion without a real part is a vector. -/
theorem Vec3.toH_ofH {h : ℍ[K]} (hvector : h.re = 0) : (Vec3.ofH h).toH = h := by
  ext
  · exact hvector.symm
  · rfl
  · rfl
  · rfl

/-- The code's product is Hamilton's. -/
theorem toH_multiplyQuat : (multiplyQuat a b).toH = a.toH * b.toH := by
  ext <;> simp [multiplyQuat]

/-- Its conjugate is the star. -/
theorem toH_conjugateQuat : (conjugateQuat q).toH = star q.toH := by
  ext <;> simp [conjugateQuat]

/-- `rotateVector` turns a vector by a quaternion, whether or not it is a unit. -/
theorem toH_rotateVector : (rotateVector q v).toH = turn q.toH v.toH := by
  have hturn : turn q.toH v.toH =
      (multiplyQuat (multiplyQuat q ⟨v.x, v.y, v.z, 0⟩) (conjugateQuat q)).toH := by
    rw [toH_multiplyQuat, toH_multiplyQuat, toH_conjugateQuat]
    rfl
  rw [← Vec3.toH_ofH (turn_re v.toH_re), hturn]
  rfl

/-- Vectors are subtracted by coordinates. -/
theorem toH_sub : (⟨v.x - w.x, v.y - w.y, v.z - w.z⟩ : Vec3 K).toH = v.toH - w.toH := by
  ext <;> simp

/-- The code scales each coordinate. -/
theorem toH_scale (c : K) : (⟨q.x * c, q.y * c, q.z * c, q.w * c⟩ : Quat K).toH = c • q.toH := by
  ext <;> simp [mul_comm]

/-- The squared length, as the code sums it up. -/
theorem normSq_toH : normSq q.toH = q.x * q.x + q.y * q.y + q.z * q.z + q.w * q.w := by
  rw [normSq_def']
  simp only [Quat.toH_re, Quat.toH_imI, Quat.toH_imJ, Quat.toH_imK]
  ring

end

/-! ## Poses -/

/-- `makePose(0.0f, 0.0f, 0.0f, 0.0f, 0.0f, 0.0f, 1.0f)` -/
def makeIdentityPose : PoseMsg K where
  position := ⟨.finite 0, .finite 0, .finite 0⟩
  orientation := ⟨.finite 0, .finite 0, .finite 0, .finite 1⟩

/-- The pose of a motion. -/
def poseOf (g : RigidMotion K) : PoseMsg K where
  position := ⟨.finite g.translation.imI, .finite g.translation.imJ, .finite g.translation.imK⟩
  orientation := ⟨.finite g.rotation.imI, .finite g.rotation.imJ, .finite g.rotation.imK,
    .finite g.rotation.re⟩

/-- The identity pose stands for no motion. -/
theorem poseOf_one : poseOf (1 : RigidMotion K) = makeIdentityPose := by
  simp [poseOf, makeIdentityPose]

/-- Without a pelvis every pose is the identity. -/
theorem foldl_identity (indices : List (Fin kJointCount)) (start : List (PoseMsg K)) :
    indices.foldl (fun poses _ => poses ++ [makeIdentityPose]) start =
      start ++ indices.map fun _ => makeIdentityPose := by
  induction indices generalizing start with
  | nil => simp
  | cons i indices ih =>
    rw [List.foldl_cons, ih, List.map_cons, List.append_assoc, List.singleton_append]

variable [LinearOrder K]

/-- `normalizeQuat`: the normalised quaternion, or none where it returns false. -/
def normalizeQuat (root : Sqrt K) (q : Quat K) : Option (Quat K) :=
  let norm_sq := q.x * q.x + q.y * q.y + q.z * q.z + q.w * q.w
  if norm_sq < kQuatNormEpsilon then none
  else
    let inv_norm := 1 / root.sqrt norm_sq
    some ⟨q.x * inv_norm, q.y * inv_norm, q.z * inv_norm, q.w * inv_norm⟩

/-- The seven `isFinite` of `poseToTransform`, and the numbers. -/
def PoseMsg.finite? (pose : PoseMsg K) : Option (Vec3 K × Quat K) := do
  let px ← pose.position.x.value?
  let py ← pose.position.y.value?
  let pz ← pose.position.z.value?
  let qx ← pose.orientation.x.value?
  let qy ← pose.orientation.y.value?
  let qz ← pose.orientation.z.value?
  let qw ← pose.orientation.w.value?
  return (⟨px, py, pz⟩, ⟨qx, qy, qz, qw⟩)

/-- `poseToTransform`: position and orientation, or none where it returns false. -/
def poseToTransform (root : Sqrt K) (pose : PoseMsg K) : Option (Vec3 K × Quat K) :=
  match pose.finite? with
  | none => none
  | some (position, orientation) => (normalizeQuat root orientation).map (Prod.mk position)

/-- `makeRelativePose` -/
def makeRelativePose (root : Sqrt K) (joint_position : Vec3 K) (joint_orientation : Quat K)
    (origin_position : Vec3 K) (origin_inverse : Quat K) : PoseMsg K :=
  let relative_position := rotateVector origin_inverse
    ⟨joint_position.x - origin_position.x, joint_position.y - origin_position.y,
      joint_position.z - origin_position.z⟩
  let relative_orientation := multiplyQuat origin_inverse joint_orientation
  let relative_orientation := (normalizeQuat root relative_orientation).getD relative_orientation
  { position := ⟨.finite relative_position.x, .finite relative_position.y,
      .finite relative_position.z⟩
    orientation := ⟨.finite relative_orientation.x, .finite relative_orientation.y,
      .finite relative_orientation.z, .finite relative_orientation.w⟩ }

/-- `geometry_msgs::msg::PoseArray`; the stamp is in nanoseconds. -/
structure PoseArray (K : Type*) where
  stamp : UInt64
  frame_id : String
  poses : List (PoseMsg K)
deriving DecidableEq, Repr

/-- The four messages of `publishJoint24`, in the order in which they are published. -/
structure Joint24 (K : Type*) where
  joint24_msg : PoseArray K
  valid_mask_msg : UInt32
  joint24_waist_msg : PoseArray K
  waist_valid_mask_msg : UInt32
deriving DecidableEq, Repr

/-- `(raw_joint_mask & joint_bit) != 0u && poseToTransform(…)` -/
def jointTransform (root : Sqrt K) (raw_poses : Fin kJointCount → PoseMsg K)
    (raw_joint_mask : UInt32) (joint_index : Fin kJointCount) : Option (Vec3 K × Quat K) :=
  if raw_joint_mask &&& ((1 : UInt32) <<< UInt32.ofNat joint_index) ≠ 0 then
    poseToTransform root (raw_poses joint_index)
  else none

/-- The body of the loop over the joints, where the pelvis is valid. -/
def waistStep (root : Sqrt K) (raw_poses : Fin kJointCount → PoseMsg K) (raw_joint_mask : UInt32)
    (pelvis_position : Vec3 K) (pelvis_inverse : Quat K) (waist : List (PoseMsg K) × UInt32)
    (joint_index : Fin kJointCount) : List (PoseMsg K) × UInt32 :=
  match jointTransform root raw_poses raw_joint_mask joint_index with
  | some (joint_position, joint_orientation) =>
    (waist.1 ++ [makeRelativePose root joint_position joint_orientation pelvis_position
      pelvis_inverse], waist.2 ||| ((1 : UInt32) <<< UInt32.ofNat joint_index))
  | none => (waist.1 ++ [makeIdentityPose], waist.2)

/-- `publishJoint24`; the two frames are those of the configuration. -/
def publishJoint24 (root : Sqrt K) (frame_id_joint24 frame_id_waist : String) (stamp : UInt64)
    (raw_poses : Fin kJointCount → PoseMsg K) (valid_mask : UInt32) : Joint24 K :=
  let raw_joint_mask := valid_mask &&& kJointMaskAll
  let pelvis := if raw_joint_mask &&& 1 ≠ 0 then poseToTransform root (raw_poses 0) else none
  let waist :=
    match pelvis with
    | some (pelvis_position, pelvis_orientation) =>
      (List.finRange kJointCount).foldl (waistStep root raw_poses raw_joint_mask pelvis_position
        (conjugateQuat pelvis_orientation)) ([], 0)
    | none =>
      ((List.finRange kJointCount).foldl (fun poses _ => poses ++ [makeIdentityPose]) [], 0)
  { joint24_msg := ⟨stamp, frame_id_joint24, (List.finRange kJointCount).map raw_poses⟩
    valid_mask_msg := raw_joint_mask
    joint24_waist_msg := ⟨stamp, frame_id_waist, waist.1⟩
    waist_valid_mask_msg := waist.2 }

/-! ## The loop over the joints -/

/-- The pose is usable: its coordinates are finite, and its orientation has a length that can be
normalised. -/
def Usable (pose : PoseMsg K) : Prop :=
  ∃ position orientation, pose.finite? = some (position, orientation) ∧
    kQuatNormEpsilon ≤ normSq orientation.toH

/-- The pose is usable and stands for the motion `g`: it shifts by the position, and it turns by
the orientation divided by its length. -/
def Shows (root : Sqrt K) (pose : PoseMsg K) (g : RigidMotion K) : Prop :=
  ∃ position orientation, pose.finite? = some (position, orientation) ∧
    kQuatNormEpsilon ≤ normSq orientation.toH ∧ g.translation = position.toH ∧
      root.sqrt (normSq orientation.toH) • g.rotation = orientation.toH

section

variable {root : Sqrt K} {raw_poses : Fin kJointCount → PoseMsg K} {raw_joint_mask : UInt32}

/-- A joint is transformed if its flag is set and its pose is usable. -/
theorem jointTransform_eq_some_iff {i : Fin kJointCount} {transform : Vec3 K × Quat K} :
    jointTransform root raw_poses raw_joint_mask i = some transform ↔
      raw_joint_mask.toNat.testBit i = true ∧
        poseToTransform root (raw_poses i) = some transform := by
  have hbit := and_bit_ne_zero (joint_lt i) raw_joint_mask
  unfold jointTransform
  split_ifs with hset
  · exact (and_iff_right (hbit.mp hset)).symm
  · exact iff_of_false nofun fun h => hset (hbit.mpr h.1)

theorem jointTransform_isSome_iff (i : Fin kJointCount) :
    (jointTransform root raw_poses raw_joint_mask i).isSome = true ↔
      raw_joint_mask.toNat.testBit i = true ∧
        (poseToTransform root (raw_poses i)).isSome = true := by
  simp only [Option.isSome_iff_exists, jointTransform_eq_some_iff, exists_and_left]

/-- The pose that the loop publishes for a joint. -/
def waistPose (root : Sqrt K) (raw_poses : Fin kJointCount → PoseMsg K) (raw_joint_mask : UInt32)
    (pelvis_position : Vec3 K) (pelvis_inverse : Quat K) (i : Fin kJointCount) : PoseMsg K :=
  match jointTransform root raw_poses raw_joint_mask i with
  | some (joint_position, joint_orientation) =>
    makeRelativePose root joint_position joint_orientation pelvis_position pelvis_inverse
  | none => makeIdentityPose

/-- The body of the loop: a pose is always appended, a flag only set for a joint that is
transformed. -/
theorem waistStep_spec (pelvis_position : Vec3 K) (pelvis_inverse : Quat K)
    (waist : List (PoseMsg K) × UInt32) (i : Fin kJointCount) :
    (waistStep root raw_poses raw_joint_mask pelvis_position pelvis_inverse waist i).1 =
      waist.1 ++ [waistPose root raw_poses raw_joint_mask pelvis_position pelvis_inverse i] ∧
    ∀ n, (waistStep root raw_poses raw_joint_mask pelvis_position pelvis_inverse
        waist i).2.toNat.testBit n = true ↔
      waist.2.toNat.testBit n = true ∨ (i : ℕ) = n ∧
        (jointTransform root raw_poses raw_joint_mask i).isSome = true := by
  unfold waistStep waistPose
  cases jointTransform root raw_poses raw_joint_mask i with
  | none => simp
  | some transform =>
    refine ⟨rfl, fun n => ?_⟩
    simp only
    rw [testBit_or_bit (joint_lt i), Bool.or_eq_true, decide_eq_true_eq]
    simp

/-- The loop over the joints: their poses in order, and a flag for each usable one. -/
theorem foldl_waistStep (pelvis_position : Vec3 K) (pelvis_inverse : Quat K)
    (indices : List (Fin kJointCount)) (start : List (PoseMsg K) × UInt32) :
    (indices.foldl (waistStep root raw_poses raw_joint_mask pelvis_position pelvis_inverse)
        start).1 =
      start.1 ++ indices.map (waistPose root raw_poses raw_joint_mask pelvis_position
        pelvis_inverse) ∧
    ∀ n, (indices.foldl (waistStep root raw_poses raw_joint_mask pelvis_position pelvis_inverse)
        start).2.toNat.testBit n = true ↔
      start.2.toNat.testBit n = true ∨ ∃ i ∈ indices, (i : ℕ) = n ∧
        (jointTransform root raw_poses raw_joint_mask i).isSome = true := by
  induction indices generalizing start with
  | nil => simp
  | cons i indices ih =>
    rw [List.foldl_cons]
    obtain ⟨hpose, hflag⟩ := @waistStep_spec K _ _ root raw_poses raw_joint_mask pelvis_position
      pelvis_inverse start i
    obtain ⟨hposes, hmask⟩ := ih (waistStep root raw_poses raw_joint_mask pelvis_position
      pelvis_inverse start i)
    refine ⟨?_, fun n => ?_⟩
    · rw [hposes, hpose, List.map_cons, List.append_assoc, List.singleton_append]
    · -- a flag of the rest, or that of the joint
      rw [hmask, hflag, or_assoc]
      simp only [List.mem_cons, exists_eq_or_imp]

/-- The whole loop of `publishJoint24`. -/
def waistLoop (root : Sqrt K) (raw_poses : Fin kJointCount → PoseMsg K) (raw_joint_mask : UInt32)
    (pelvis_position : Vec3 K) (pelvis_inverse : Quat K) : List (PoseMsg K) × UInt32 :=
  (List.finRange kJointCount).foldl (waistStep root raw_poses raw_joint_mask pelvis_position
    pelvis_inverse) ([], 0)

/-- It publishes one pose for each joint, in their order. -/
theorem waistLoop_poses (pelvis_position : Vec3 K) (pelvis_inverse : Quat K) :
    (waistLoop root raw_poses raw_joint_mask pelvis_position pelvis_inverse).1 =
      (List.finRange kJointCount).map (waistPose root raw_poses raw_joint_mask pelvis_position
        pelvis_inverse) :=
  (foldl_waistStep pelvis_position pelvis_inverse _ _).1

/-- Its flags are those of the joints that are transformed. -/
theorem testBit_waistLoop (pelvis_position : Vec3 K) (pelvis_inverse : Quat K) (n : ℕ) :
    (waistLoop root raw_poses raw_joint_mask pelvis_position pelvis_inverse).2.toNat.testBit n =
        true ↔
      ∃ i : Fin kJointCount, (i : ℕ) = n ∧
        (jointTransform root raw_poses raw_joint_mask i).isSome = true := by
  unfold waistLoop
  rw [(foldl_waistStep pelvis_position pelvis_inverse _ _).2]
  simp

/-- The pelvis is looked at as any joint is. -/
theorem pelvis_eq_jointTransform :
    (if raw_joint_mask &&& 1 ≠ 0 then poseToTransform root (raw_poses 0) else none) =
      jointTransform root raw_poses raw_joint_mask 0 := rfl

end

/-! ## Normalised quaternions -/

/-- What normalising does to the quaternion: it scales it, by what its norm says. -/
theorem normalizeQuat_eq (root : Sqrt K) (q : Quat K) :
    normalizeQuat root q =
      if normSq q.toH < kQuatNormEpsilon then none
      else some (Quat.ofH ((1 / root.sqrt (normSq q.toH)) • q.toH)) := by
  unfold normalizeQuat
  rw [normSq_toH, ← toH_scale, Quat.ofH_toH]

/-- A quaternion is normalised unless it is too short. -/
theorem normalizeQuat_isSome_iff (root : Sqrt K) (q : Quat K) :
    (normalizeQuat root q).isSome = true ↔ kQuatNormEpsilon ≤ normSq q.toH := by
  rw [normalizeQuat_eq, ← not_lt]
  split_ifs with hshort <;> simp [hshort]

/-- `poseToTransform` returns true on the usable poses. -/
theorem poseToTransform_isSome_iff (root : Sqrt K) (pose : PoseMsg K) :
    (poseToTransform root pose).isSome = true ↔ Usable pose := by
  unfold poseToTransform Usable
  cases pose.finite? with
  | none => simp
  | some coordinates =>
    rw [Option.isSome_map, normalizeQuat_isSome_iff]
    constructor
    · exact fun hlong => ⟨_, _, rfl, hlong⟩
    · rintro ⟨_, _, hsame, hlong⟩
      cases hsame
      exact hlong

/-- A pose that stands for a motion is usable. -/
theorem Shows.usable {root : Sqrt K} {pose : PoseMsg K} {g : RigidMotion K}
    (h : Shows root pose g) : Usable pose := by
  obtain ⟨position, orientation, hfinite, hlong, -⟩ := h
  exact ⟨position, orientation, hfinite, hlong⟩

variable [IsStrictOrderedRing K] {root : Sqrt K}

/-- The root of 1 is positive, and so not -1. -/
theorem Sqrt.sqrt_one (root : Sqrt K) : root.sqrt 1 = 1 := by
  have hpos := root.pos 1 one_pos
  have hsq := root.mul_self 1 one_pos
  exact (mul_self_eq_one_iff.mp hsq).resolve_right (by linarith)

/-- What passes the test for the length can be divided by it. -/
theorem kQuatNormEpsilon_pos : (0 : K) < kQuatNormEpsilon := by
  unfold kQuatNormEpsilon
  norm_num

/-- A quaternion that was normalised has length 1. -/
theorem normalizeQuat_unit {q q' : Quat K} (h : normalizeQuat root q = some q') :
    normSq q'.toH = 1 := by
  rw [normalizeQuat_eq] at h
  split_ifs at h with hshort
  cases h
  have hpos : 0 < normSq q.toH := kQuatNormEpsilon_pos.trans_le (not_lt.mp hshort)
  have hroot := root.pos _ hpos
  have hsq := root.mul_self _ hpos
  rw [Quat.toH_ofH, normSq_smul]
  rw [div_pow, one_pow, one_div, pow_two, hsq, inv_mul_cancel₀ hpos.ne']

/-- A unit quaternion is normalised already. -/
theorem normalizeQuat_of_unit {q : Quat K} (h : normSq q.toH = 1) :
    normalizeQuat root q = some q := by
  have hlong : ¬ (1 : K) < kQuatNormEpsilon := by
    unfold kQuatNormEpsilon
    norm_num
  rw [normalizeQuat_eq, h, if_neg hlong, root.sqrt_one, div_one, one_smul, Quat.ofH_toH]

/-- Turning a quaternion first or normalising it first is the same. -/
theorem normalizeQuat_turned {r : ℍ[K]} (hr : normSq r = 1) (q : Quat K) :
    normalizeQuat root (Quat.ofH (r * q.toH)) =
      (normalizeQuat root q).map fun q' => Quat.ofH (r * q'.toH) := by
  rw [normalizeQuat_eq, normalizeQuat_eq, Quat.toH_ofH, map_mul, hr, one_mul]
  split_ifs
  · rfl
  · rw [Option.map_some, Quat.toH_ofH, mul_smul_comm]

/-! ## Motions -/

/-- A usable pose gives a unit quaternion. -/
theorem poseToTransform_unit {pose : PoseMsg K} {v : Vec3 K} {q : Quat K}
    (h : poseToTransform root pose = some (v, q)) : normSq q.toH = 1 := by
  unfold poseToTransform at h
  cases hfinite : pose.finite? with
  | none =>
    rw [hfinite] at h
    cases h
  | some coordinates =>
    rw [hfinite] at h
    obtain ⟨q', hq', heq⟩ := Option.map_eq_some_iff.mp h
    cases heq
    exact normalizeQuat_unit hq'

/-- `poseToTransform` computes the motion for which a pose stands. -/
theorem shows_iff {pose : PoseMsg K} {g : RigidMotion K} :
    Shows root pose g ↔
      poseToTransform root pose = some (Vec3.ofH g.translation, Quat.ofH g.rotation) := by
  unfold Shows poseToTransform
  cases pose.finite? with
  | none => simp
  | some coordinates =>
    obtain ⟨position, orientation⟩ := coordinates
    simp only [Option.some.injEq, Prod.mk.injEq, Option.map_eq_some_iff, normalizeQuat_eq]
    constructor
    · -- a pose that shows a motion is long enough to be normalised
      rintro ⟨_, _, ⟨rfl, rfl⟩, hlong, htranslation, hrotation⟩
      have hroot := root.pos _ (kQuatNormEpsilon_pos.trans_le hlong)
      refine ⟨_, if_neg (not_lt.mpr hlong), ?_, ?_⟩
      · rw [htranslation, Vec3.ofH_toH]
      · rw [← hrotation, smul_smul, hrotation, one_div_mul_cancel hroot.ne', one_smul]
    · rintro ⟨normalised, hnormalised, htranslation, hrotation⟩
      split_ifs at hnormalised with hshort
      have hroot := root.pos _ (kQuatNormEpsilon_pos.trans_le (not_lt.mp hshort))
      refine ⟨_, _, ⟨rfl, rfl⟩, not_lt.mp hshort, ?_, ?_⟩
      · rw [htranslation, Vec3.toH_ofH g.vector]
      · -- the code scales by the inverse of the length
        have hscaled : (1 / root.sqrt (normSq orientation.toH)) • orientation.toH = g.rotation :=
          congrArg Quat.toH ((Option.some.inj hnormalised).trans hrotation)
        rw [← hscaled, smul_smul, mul_one_div_cancel hroot.ne', one_smul]

/-- A usable pose stands for a motion. -/
theorem exists_shows {pose : PoseMsg K} {v : Vec3 K} {q : Quat K}
    (h : poseToTransform root pose = some (v, q)) :
    ∃ g, Shows root pose g ∧ v = Vec3.ofH g.translation ∧ q = Quat.ofH g.rotation :=
  ⟨⟨q.toH, v.toH, poseToTransform_unit h, rfl⟩, shows_iff.mpr h, rfl, rfl⟩

/-- A pose stands for one motion only. -/
theorem Shows.unique {pose : PoseMsg K} {g h : RigidMotion K} (hg : Shows root pose g)
    (hh : Shows root pose h) : g = h := by
  obtain ⟨htranslation, hrotation⟩ :=
    Prod.ext_iff.mp (Option.some.inj ((shows_iff.mp hg).symm.trans (shows_iff.mp hh)))
  apply RigidMotion.ext
  · exact congrArg Quat.toH hrotation
  · rw [← Vec3.toH_ofH g.vector, ← Vec3.toH_ofH h.vector]
    exact congrArg Vec3.toH htranslation

/-- The published relative pose is that of the joint's motion, seen from the pelvis. -/
theorem makeRelativePose_eq (p j : RigidMotion K) :
    makeRelativePose root (Vec3.ofH j.translation) (Quat.ofH j.rotation)
      (Vec3.ofH p.translation) (conjugateQuat (Quat.ofH p.rotation)) = poseOf (p⁻¹ * j) := by
  -- turned back by the pelvis, the difference of the positions
  have hposition : (rotateVector (conjugateQuat (Quat.ofH p.rotation))
      ⟨(Vec3.ofH j.translation).x - (Vec3.ofH p.translation).x,
        (Vec3.ofH j.translation).y - (Vec3.ofH p.translation).y,
        (Vec3.ofH j.translation).z - (Vec3.ofH p.translation).z⟩) =
      Vec3.ofH (p⁻¹ * j).translation := by
    rw [RigidMotion.inv_mul_translation, ← Vec3.ofH_toH (rotateVector _ _), toH_rotateVector,
      toH_conjugateQuat, toH_sub, Vec3.toH_ofH j.vector, Vec3.toH_ofH p.vector, Quat.toH_ofH]
  -- the product of two units is not normalised any more
  have horientation : multiplyQuat (conjugateQuat (Quat.ofH p.rotation)) (Quat.ofH j.rotation) =
      Quat.ofH (p⁻¹ * j).rotation := by
    rw [← Quat.ofH_toH (multiplyQuat _ _), toH_multiplyQuat, toH_conjugateQuat, Quat.toH_ofH,
      Quat.toH_ofH]
    rfl
  have hunit : normSq (Quat.ofH (p⁻¹ * j).rotation).toH = 1 := (p⁻¹ * j).unit
  unfold makeRelativePose
  simp only
  rw [hposition, horientation, normalizeQuat_of_unit hunit]
  rfl

/-! ## Main result -/

/-- What the waist messages say of the poses, where `poses` are the published ones. -/
structure WaistFaithful (root : Sqrt K) (raw_poses : Fin kJointCount → PoseMsg K)
    (raw_joint_mask : UInt32) (poses : List (PoseMsg K)) (waist_valid_mask : UInt32) : Prop where
  length : poses.length = kJointCount
  subset : ∀ n, waist_valid_mask.toNat.testBit n = true → raw_joint_mask.toNat.testBit n = true
  /-- Without a pelvis there is no valid pose. -/
  without_pelvis : raw_joint_mask.toNat.testBit 0 = false ∨ ¬ Usable (raw_poses 0) →
    waist_valid_mask = 0
  with_pelvis : raw_joint_mask.toNat.testBit 0 = true → Usable (raw_poses 0) →
    ∀ i : Fin kJointCount, waist_valid_mask.toNat.testBit i = true ↔
      raw_joint_mask.toNat.testBit i = true ∧ Usable (raw_poses i)
  /-- The pelvis and the relative pose compose to the joint. -/
  composed : ∀ i : Fin kJointCount, waist_valid_mask.toNat.testBit i = true →
    ∃ pelvis joint relative, Shows root (raw_poses 0) pelvis ∧ Shows root (raw_poses i) joint ∧
      poses[i]? = some (poseOf relative) ∧ pelvis * relative = joint
  pelvis : poses[0]? = some makeIdentityPose
  others : ∀ i : Fin kJointCount, waist_valid_mask.toNat.testBit i = false →
    poses[i]? = some makeIdentityPose

/-- A position and an orientation after a motion. -/
def moveBy (g : RigidMotion K) (transform : Vec3 K × Quat K) : Vec3 K × Quat K :=
  (Vec3.ofH (turn g.rotation transform.1.toH + g.translation),
    Quat.ofH (g.rotation * transform.2.toH))

/-- A pose after a motion of the whole body. A coordinate that is not finite stays so. -/
def Moved (g : RigidMotion K) (pose pose' : PoseMsg K) : Prop :=
  pose'.finite? = pose.finite?.map (moveBy g)

section

variable {raw_poses : Fin kJointCount → PoseMsg K} {raw_joint_mask : UInt32}

/-- A joint that is transformed shows a motion, and its pose is relative to the pelvis. -/
theorem waistPose_eq_poseOf (pelvis : RigidMotion K) {i : Fin kJointCount}
    (hsome : (jointTransform root raw_poses raw_joint_mask i).isSome = true) :
    ∃ joint, Shows root (raw_poses i) joint ∧
      waistPose root raw_poses raw_joint_mask (Vec3.ofH pelvis.translation)
        (conjugateQuat (Quat.ofH pelvis.rotation)) i = poseOf (pelvis⁻¹ * joint) := by
  obtain ⟨⟨position, orientation⟩, hi⟩ := Option.isSome_iff_exists.mp hsome
  obtain ⟨joint, hshown, rfl, rfl⟩ := exists_shows (jointTransform_eq_some_iff.mp hi).2
  refine ⟨joint, hshown, ?_⟩
  rw [waistPose, hi, ← makeRelativePose_eq]

omit [IsStrictOrderedRing K] in
/-- Without a pelvis every pose is the identity, and no flag is set. -/
theorem waistFaithful_identity (hnone : jointTransform root raw_poses raw_joint_mask 0 = none) :
    WaistFaithful root raw_poses raw_joint_mask
      ((List.finRange kJointCount).foldl (fun poses _ => poses ++ [makeIdentityPose]) []) 0 := by
  have hpelvis := @jointTransform_isSome_iff K _ _ root raw_poses raw_joint_mask 0
  rw [hnone] at hpelvis
  rw [foldl_identity, List.nil_append]
  exact {
    length := by simp
    subset := by simp
    without_pelvis := fun _ => rfl
    with_pelvis := fun hset husable =>
      absurd (hpelvis.mpr ⟨hset, (poseToTransform_isSome_iff root _).mpr husable⟩) nofun
    composed := by simp
    pelvis := by simp
    others := by simp }

/-- With a pelvis the loop publishes what is relative to it. -/
theorem waistFaithful_waistLoop {pelvis : RigidMotion K}
    (hset : raw_joint_mask.toNat.testBit 0 = true) (hshows : Shows root (raw_poses 0) pelvis) :
    WaistFaithful root raw_poses raw_joint_mask
      (waistLoop root raw_poses raw_joint_mask (Vec3.ofH pelvis.translation)
        (conjugateQuat (Quat.ofH pelvis.rotation))).1
      (waistLoop root raw_poses raw_joint_mask (Vec3.ofH pelvis.translation)
        (conjugateQuat (Quat.ofH pelvis.rotation))).2 := by
  have hposes := @waistLoop_poses K _ _ root raw_poses raw_joint_mask
    (Vec3.ofH pelvis.translation) (conjugateQuat (Quat.ofH pelvis.rotation))
  have hmask := @testBit_waistLoop K _ _ root raw_poses raw_joint_mask
    (Vec3.ofH pelvis.translation) (conjugateQuat (Quat.ofH pelvis.rotation))
  generalize waistLoop root raw_poses raw_joint_mask _ _ = waist at hposes hmask ⊢
  have hat : ∀ i : Fin kJointCount, waist.1[i]? = some (waistPose root raw_poses raw_joint_mask
      (Vec3.ofH pelvis.translation) (conjugateQuat (Quat.ofH pelvis.rotation)) i) := by
    intro i
    rw [hposes]
    simp
  have hflag : ∀ i : Fin kJointCount, waist.2.toNat.testBit i = true ↔
      (jointTransform root raw_poses raw_joint_mask i).isSome = true := by
    intro i
    rw [hmask]
    constructor
    · rintro ⟨j, hj, hsome⟩
      exact Fin.ext hj ▸ hsome
    · exact fun hsome => ⟨i, rfl, hsome⟩
  exact {
    length := by rw [hposes]; simp
    subset := by
      intro n hn
      obtain ⟨i, rfl, hsome⟩ := (hmask n).mp hn
      exact ((jointTransform_isSome_iff i).mp hsome).1
    without_pelvis := by
      rintro (hclear | hnone)
      · exact absurd hset (by simp [hclear])
      · exact absurd hshows.usable hnone
    with_pelvis := by
      intro _ _ i
      rw [hflag, jointTransform_isSome_iff, poseToTransform_isSome_iff]
    composed := by
      intro i hi
      obtain ⟨joint, hshown, hpose⟩ := waistPose_eq_poseOf pelvis ((hflag i).mp hi)
      exact ⟨pelvis, joint, _, hshows, hshown, hpose ▸ hat i, mul_inv_cancel_left pelvis joint⟩
    pelvis := by
      have hsome := (@jointTransform_isSome_iff K _ _ root _ _ 0).mpr
        ⟨hset, (poseToTransform_isSome_iff root _).mpr hshows.usable⟩
      obtain ⟨joint, hshown, hpose⟩ := waistPose_eq_poseOf pelvis hsome
      -- the pelvis relative to itself
      rw [hshown.unique hshows, inv_mul_cancel, poseOf_one] at hpose
      exact hpose ▸ hat 0
    others := by
      intro i hi
      have hnone : jointTransform root raw_poses raw_joint_mask i = none := by
        rw [← Option.not_isSome_iff_eq_none, ← hflag, hi]
        decide
      rw [hat, waistPose, hnone] }

end

/-- What `publishJoint24` publishes for the waist. -/
theorem waist_faithful (frame_id_joint24 frame_id_waist : String) (stamp : UInt64)
    (raw_poses : Fin kJointCount → PoseMsg K) (valid_mask : UInt32) :
    WaistFaithful root raw_poses (valid_mask &&& kJointMaskAll)
      (publishJoint24 root frame_id_joint24 frame_id_waist stamp raw_poses
        valid_mask).joint24_waist_msg.poses
      (publishJoint24 root frame_id_joint24 frame_id_waist stamp raw_poses
        valid_mask).waist_valid_mask_msg := by
  unfold publishJoint24
  simp only
  generalize valid_mask &&& kJointMaskAll = raw_joint_mask
  rw [pelvis_eq_jointTransform]
  cases hpelvis : jointTransform root raw_poses raw_joint_mask 0 with
  | none => exact waistFaithful_identity hpelvis
  | some transform =>
    obtain ⟨pelvis_position, pelvis_orientation⟩ := transform
    obtain ⟨hset, htransform⟩ := jointTransform_eq_some_iff.mp hpelvis
    obtain ⟨pelvis, hshows, rfl, rfl⟩ := exists_shows htransform
    exact waistFaithful_waistLoop hset hshows

/-- The relative pose of a valid joint, from the motions of the pelvis and the joint. -/
theorem WaistFaithful.relative {raw_poses : Fin kJointCount → PoseMsg K} {raw_joint_mask : UInt32}
    {poses : List (PoseMsg K)} {waist_valid_mask : UInt32}
    (h : WaistFaithful root raw_poses raw_joint_mask poses waist_valid_mask) {i : Fin kJointCount}
    (hpelvis : raw_joint_mask.toNat.testBit 0 = true)
    (hjoint : raw_joint_mask.toNat.testBit i = true) {p j : RigidMotion K}
    (hp : Shows root (raw_poses 0) p) (hj : Shows root (raw_poses i) j) :
    poses[i]? = some (poseOf (p⁻¹ * j)) := by
  have hflag := (h.with_pelvis hpelvis hp.usable i).mpr ⟨hjoint, hj.usable⟩
  obtain ⟨pelvis, joint, relative, hpelvis', hjoint', hpose, rfl⟩ := h.composed i hflag
  rw [hpose, ← hpelvis'.unique hp, ← hjoint'.unique hj, inv_mul_cancel_left]

/-- To move the numbers of a motion is to compose the motions. -/
theorem moveBy_ofH (g j : RigidMotion K) :
    moveBy g (Vec3.ofH j.translation, Quat.ofH j.rotation) =
      (Vec3.ofH (g * j).translation, Quat.ofH (g * j).rotation) := by
  unfold moveBy
  simp only
  rw [Vec3.toH_ofH j.vector, Quat.toH_ofH]
  rfl

/-- A moved pose is usable if the pose is, and stands for the composed motion. -/
theorem Moved.poseToTransform {g : RigidMotion K} {pose pose' : PoseMsg K}
    (h : Moved g pose pose') :
    poseToTransform root pose' = (poseToTransform root pose).map (moveBy g) := by
  unfold Pose.poseToTransform
  rw [h]
  cases pose.finite? with
  | none => rfl
  | some coordinates =>
    simp only [Option.map_some, Option.map_map]
    change Option.map _ (normalizeQuat root (Quat.ofH (g.rotation * coordinates.2.toH))) = _
    rw [normalizeQuat_turned g.unit, Option.map_map]
    rfl

/-- A common motion of all poses leaves what is published relative to the pelvis. -/
theorem publishJoint24_moved (g : RigidMotion K) (frame_id_joint24 frame_id_waist : String)
    (stamp : UInt64) {raw_poses raw_poses' : Fin kJointCount → PoseMsg K} (valid_mask : UInt32)
    (h : ∀ i, Moved g (raw_poses i) (raw_poses' i)) :
    (publishJoint24 root frame_id_joint24 frame_id_waist stamp raw_poses'
        valid_mask).joint24_waist_msg =
      (publishJoint24 root frame_id_joint24 frame_id_waist stamp raw_poses
        valid_mask).joint24_waist_msg ∧
    (publishJoint24 root frame_id_joint24 frame_id_waist stamp raw_poses'
        valid_mask).waist_valid_mask_msg =
      (publishJoint24 root frame_id_joint24 frame_id_waist stamp raw_poses
        valid_mask).waist_valid_mask_msg := by
  unfold publishJoint24
  simp only
  generalize valid_mask &&& kJointMaskAll = raw_joint_mask
  rw [pelvis_eq_jointTransform, pelvis_eq_jointTransform]
  -- a pose that is not usable stays so
  have hmoved : ∀ i, jointTransform root raw_poses' raw_joint_mask i =
      (jointTransform root raw_poses raw_joint_mask i).map (moveBy g) := by
    intro i
    unfold jointTransform
    split_ifs
    · exact (h i).poseToTransform
    · rfl
  rw [hmoved 0]
  cases htransform : jointTransform root raw_poses raw_joint_mask 0 with
  -- without a pelvis nothing is published
  | none => exact ⟨rfl, rfl⟩
  | some transform =>
    obtain ⟨pelvis_position, pelvis_orientation⟩ := transform
    obtain ⟨pelvis, hshows, rfl, rfl⟩ := exists_shows (jointTransform_eq_some_iff.mp htransform).2
    -- `g` stands in front of both the pelvis and the joint, and cancels
    have hstep : waistStep root raw_poses' raw_joint_mask
        (Vec3.ofH (g * pelvis).translation) (conjugateQuat (Quat.ofH (g * pelvis).rotation)) =
        waistStep root raw_poses raw_joint_mask (Vec3.ofH pelvis.translation)
          (conjugateQuat (Quat.ofH pelvis.rotation)) := by
      funext waist i
      unfold waistStep
      rw [hmoved i]
      cases hi : jointTransform root raw_poses raw_joint_mask i with
      | none => rfl
      | some transform =>
        obtain ⟨position, orientation⟩ := transform
        obtain ⟨joint, hshown, rfl, rfl⟩ := exists_shows (jointTransform_eq_some_iff.mp hi).2
        simp only [Option.map_some, moveBy_ofH]
        rw [makeRelativePose_eq, makeRelativePose_eq, RigidMotion.inv_mul_of_common]
    simp only [Option.map_some, moveBy_ofH]
    rw [hstep]
    exact ⟨rfl, rfl⟩

/-- What is published relative to the pelvis is faithful to the poses, and does not depend on
where the body stands and which way it faces. -/
theorem waist_poses_are_rigid (root : Sqrt K) (frame_id_joint24 frame_id_waist : String)
    (stamp : UInt64) (raw_poses : Fin kJointCount → PoseMsg K) (valid_mask : UInt32) :
    WaistFaithful root raw_poses (valid_mask &&& kJointMaskAll)
        (publishJoint24 root frame_id_joint24 frame_id_waist stamp raw_poses
          valid_mask).joint24_waist_msg.poses
        (publishJoint24 root frame_id_joint24 frame_id_waist stamp raw_poses
          valid_mask).waist_valid_mask_msg ∧
      ∀ (g : RigidMotion K) (raw_poses' : Fin kJointCount → PoseMsg K),
        (∀ i, Moved g (raw_poses i) (raw_poses' i)) →
        (publishJoint24 root frame_id_joint24 frame_id_waist stamp raw_poses'
            valid_mask).joint24_waist_msg =
          (publishJoint24 root frame_id_joint24 frame_id_waist stamp raw_poses
            valid_mask).joint24_waist_msg ∧
        (publishJoint24 root frame_id_joint24 frame_id_waist stamp raw_poses'
            valid_mask).waist_valid_mask_msg =
          (publishJoint24 root frame_id_joint24 frame_id_waist stamp raw_poses
            valid_mask).waist_valid_mask_msg :=
  ⟨waist_faithful frame_id_joint24 frame_id_waist stamp raw_poses valid_mask,
    fun g _ h => publishJoint24_moved g frame_id_joint24 frame_id_waist stamp valid_mask h⟩

/-- The real numbers have such roots. -/
noncomputable def Sqrt.real : Sqrt ℝ where
  sqrt := Real.sqrt
  pos _ hx := Real.sqrt_pos.mpr hx
  mul_self _ hx := Real.mul_self_sqrt hx.le

/-! ### A body over the real numbers -/

/-- A pose by its numbers. -/
def PoseMsg.ofNumbers (numbers : Vec3 K × Quat K) : PoseMsg K where
  position := ⟨.finite numbers.1.x, .finite numbers.1.y, .finite numbers.1.z⟩
  orientation := ⟨.finite numbers.2.x, .finite numbers.2.y, .finite numbers.2.z,
    .finite numbers.2.w⟩

/-- A body of which only the pelvis and the next joint are known. -/
def knownJoints (pelvis joint : Vec3 K × Quat K) (i : Fin kJointCount) : PoseMsg K :=
  if i = 0 then .ofNumbers pelvis
  else if i = 1 then .ofNumbers joint
  else ⟨⟨.notFinite, .notFinite, .notFinite⟩, ⟨.notFinite, .notFinite, .notFinite, .notFinite⟩⟩

/-- The motion that turns by a unit and then shifts. -/
def motionOf (position : Vec3 K) (unit : Quat K) (h : normSq unit.toH = 1) : RigidMotion K :=
  ⟨unit.toH, position.toH, h, rfl⟩

/-- A pose stands for its motion, whatever the length of its orientation. -/
theorem shows_ofNumbers (position : Vec3 K) (unit : Quat K) {length : K}
    (hunit : normSq unit.toH = 1) (hlong : 1 ≤ length) :
    Shows root (.ofNumbers (position, ⟨unit.x * length, unit.y * length, unit.z * length,
      unit.w * length⟩)) (motionOf position unit hunit) := by
  have hpos : 0 < length := one_pos.trans_le hlong
  have hsquare : 1 ≤ length * length := one_le_mul_of_one_le_of_one_le hlong hlong
  -- the root of the squared norm is the length
  have hroot : root.sqrt (length * length) = length :=
    (mul_self_inj (root.pos _ (mul_pos hpos hpos)).le hpos.le).mp
      (root.mul_self _ (mul_pos hpos hpos))
  have hnorm : normSq (length • unit.toH) = length * length := by
    rw [normSq_smul, hunit, mul_one, pow_two]
  refine ⟨_, _, rfl, ?_, rfl, ?_⟩
  · rw [toH_scale, hnorm]
    -- a length from 1 on is above the epsilon
    refine le_trans ?_ hsquare
    unfold kQuatNormEpsilon
    norm_num
  · rw [toH_scale, hnorm, hroot]
    rfl

/-- The known joints move with the body, and the others stay unknown. -/
theorem knownJoints_moved (g : RigidMotion K) (pelvis joint : Vec3 K × Quat K)
    (i : Fin kJointCount) :
    Moved g (knownJoints pelvis joint i) (knownJoints (moveBy g pelvis) (moveBy g joint) i) := by
  unfold knownJoints
  split_ifs <;> rfl

/-- The pelvis and a joint, both turned and shifted, with orientations of the length 5; and the
same body after it was turned over and shifted. -/
theorem waist_poses_are_rigid_real :
    (publishJoint24 Sqrt.real "" "" 0 (knownJoints (⟨1, 2, 3⟩, ⟨0, 0, 3, 4⟩)
        (⟨5, -1, 2⟩, ⟨4, 0, 0, 3⟩)) kJointMaskAll).joint24_waist_msg.poses[1]? =
      some (.ofNumbers (⟨-44 / 25, -117 / 25, -1⟩, ⟨16 / 25, -12 / 25, -9 / 25, 12 / 25⟩)) ∧
    (publishJoint24 Sqrt.real "" "" 0 (knownJoints (⟨11, -2, 4⟩, ⟨4, -3, 0, 0⟩)
        (⟨15, 1, 5⟩, ⟨3, 0, 0, -4⟩)) kJointMaskAll).joint24_waist_msg.poses[1]? =
      some (.ofNumbers (⟨-44 / 25, -117 / 25, -1⟩, ⟨16 / 25, -12 / 25, -9 / 25, 12 / 25⟩)) := by
  -- the directions of the four quaternions, whose lengths are 5
  have hsideways : normSq (⟨0, 0, 3 / 5, 4 / 5⟩ : Quat ℝ).toH = 1 := by
    rw [normSq_toH]
    norm_num
  have hforward : normSq (⟨4 / 5, 0, 0, 3 / 5⟩ : Quat ℝ).toH = 1 := by
    rw [normSq_toH]
    norm_num
  have hover : normSq (⟨1, 0, 0, 0⟩ : Quat ℝ).toH = 1 := by
    rw [normSq_toH]
    norm_num
  obtain ⟨hfaithful, hmoved⟩ := waist_poses_are_rigid Sqrt.real "" "" 0
    (knownJoints (⟨1, 2, 3⟩, ⟨0, 0, 3, 4⟩) (⟨5, -1, 2⟩, ⟨4, 0, 0, 3⟩)) kJointMaskAll
  have hpelvis : Shows Sqrt.real (.ofNumbers (⟨1, 2, 3⟩, ⟨0, 0, 3, 4⟩))
      (motionOf ⟨1, 2, 3⟩ _ hsideways) := by
    convert @shows_ofNumbers ℝ _ _ _ Sqrt.real ⟨1, 2, 3⟩ _ 5 hsideways (by norm_num) using 4 <;>
      norm_num
  have hjoint : Shows Sqrt.real (.ofNumbers (⟨5, -1, 2⟩, ⟨4, 0, 0, 3⟩))
      (motionOf ⟨5, -1, 2⟩ _ hforward) := by
    convert @shows_ofNumbers ℝ _ _ _ Sqrt.real ⟨5, -1, 2⟩ _ 5 hforward (by norm_num) using 4 <;>
      norm_num
  have hrelative := @WaistFaithful.relative ℝ _ _ _ _ _ _ _ _ hfaithful 1 (by decide) (by decide)
    _ _ hpelvis hjoint
  -- the motion from the pelvis to the joint, in numbers
  have hpose : poseOf ((motionOf ⟨1, 2, 3⟩ _ hsideways)⁻¹ * motionOf ⟨5, -1, 2⟩ _ hforward) =
      .ofNumbers (⟨-44 / 25, -117 / 25, -1⟩, ⟨16 / 25, -12 / 25, -9 / 25, 12 / 25⟩) := by
    unfold poseOf motionOf PoseMsg.ofNumbers
    rw [RigidMotion.inv_mul_translation]
    norm_num [turn]
  rw [hpose] at hrelative
  refine ⟨hrelative, ?_⟩
  -- the body is turned over about the first axis
  have hpelvis' : moveBy (motionOf ⟨10, 0, 7⟩ _ hover) (⟨1, 2, 3⟩, ⟨0, 0, 3, 4⟩) =
      (⟨11, -2, 4⟩, ⟨4, -3, 0, 0⟩) := by
    norm_num [moveBy, motionOf, turn, Quat.ofH, Vec3.ofH]
  have hjoint' : moveBy (motionOf ⟨10, 0, 7⟩ _ hover) (⟨5, -1, 2⟩, ⟨4, 0, 0, 3⟩) =
      (⟨15, 1, 5⟩, ⟨3, 0, 0, -4⟩) := by
    norm_num [moveBy, motionOf, turn, Quat.ofH, Vec3.ofH]
  have hsame := (hmoved (motionOf ⟨10, 0, 7⟩ _ hover) _ fun i => knownJoints_moved _ _ _ i).1
  rw [hpelvis', hjoint'] at hsame
  rw [hsame]
  exact hrelative

end TeleopBridge.Pose
