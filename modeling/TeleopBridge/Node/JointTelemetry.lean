import TeleopBridge.Support.BinaryFloat
import TeleopBridge.Support.LastWrite
import TeleopBridge.Udp.TelemetryCodec

/-!
# Joint Telemetry

Embeds `exactRobotJointIndex`, `finiteOrZero`, `setJointSample`, `stampToUnixMs` and
`MainNode::onJointState` of `src/main_node.cpp`, the start-up values of the joint snapshot,
and the packet that `UdpManager::sendRobotJointTelemetry` builds from it. A `double` is its 64
bits, a `float` its 32 bits and a name is its bytes. The clock is read once for each message.
Nothing depends on how `static_cast<float>` rounds, so it is a parameter that keeps `0.0`;
`nearestFloat` is the one of the default rounding mode.

## Key Results

- `joints_onJointState`: the loop over the three arrays, as a last-write loop.
- `joint_packet_reports_last_entries`: what the packet says after any messages.
-/

namespace TeleopBridge.Node

open Support Udp.PacketCodec

/-! ## Names and values -/

/-- The bytes of a literal. -/
def bytesOf (literal : String) : List UInt8 := literal.toUTF8.data.toList

/-- `kRobotJointTelemetryJointCount` -/
def kRobotJointTelemetryJointCount : ℕ := 19

/-- `kRobotJointTelemetryJointNames` -/
def kRobotJointTelemetryJointNames : List (List UInt8) :=
  [bytesOf "Waist01_Joint",
    bytesOf "Waist02_Joint",
    bytesOf "Body0422_Joint",
    bytesOf "openarm_left_joint1",
    bytesOf "openarm_left_joint2",
    bytesOf "openarm_left_joint3",
    bytesOf "openarm_left_joint4",
    bytesOf "openarm_left_joint5",
    bytesOf "openarm_left_joint6",
    bytesOf "openarm_left_joint7",
    bytesOf "openarm_right_joint1",
    bytesOf "openarm_right_joint2",
    bytesOf "openarm_right_joint3",
    bytesOf "openarm_right_joint4",
    bytesOf "openarm_right_joint5",
    bytesOf "openarm_right_joint6",
    bytesOf "openarm_right_joint7",
    bytesOf "Head02_Joint",
    bytesOf "Head03_Joint"]

/-- `exactRobotJointIndex` -/
def exactRobotJointIndex (name : List UInt8) : Option ℕ :=
  kRobotJointTelemetryJointNames.findIdx? fun joint_name => name == joint_name

/-- `std::isfinite`: the exponent is not all ones. -/
def isfinite (value : UInt64) : Bool := value.toNat / 2 ^ 52 % 2 ^ 11 != 2 ^ 11 - 1

/-- `static_cast<float>` of a finite `double`. -/
structure FloatCast where
  cast : UInt64 → UInt32
  cast_zero : cast 0 = 0

/-- The nearest `float`. A carry out of the significand moves to the next exponent, and what is
too large is infinite. -/
def nearestFloat (value : UInt64) : UInt32 :=
  let sign := value.toNat / 2 ^ 63
  let exponent := value.toNat / 2 ^ 52 % 2 ^ 11
  let fraction := value.toNat % 2 ^ 52
  let significand := if exponent = 0 then fraction else 2 ^ 52 + fraction
  let magnitude :=
    -- the smallest normal `float` has the exponent 897 of a `double`
    if 897 ≤ exponent then
      min ((exponent - 897) * 2 ^ 23 + roundEven significand 29) (255 * 2 ^ 23)
    else roundEven significand (29 + (897 - exponent))
  UInt32.ofNat (sign * 2 ^ 31 + magnitude)

theorem nearestFloat_zero : nearestFloat 0 = 0 := by
  unfold nearestFloat
  simp only [UInt64.toNat_zero, Nat.zero_div, Nat.zero_mod, roundEven_zero, if_true,
    Nat.zero_mul, Nat.zero_add]
  rfl

/-- `static_cast<float>` in the default rounding mode. -/
def FloatCast.nearest : FloatCast := ⟨nearestFloat, nearestFloat_zero⟩

example : nearestFloat 0x3FF8000000000000 = 0x3FC00000 := by decide

/-- `finiteOrZero` -/
def finiteOrZero (toFloat : FloatCast) (value : UInt64) : UInt32 :=
  if isfinite value then toFloat.cast value else 0

/-- `stampToUnixMs`, where the clock reads `now`. -/
def stampToUnixMs (now : UInt64) (sec : Int32) (nanosec : UInt32) : UInt64 :=
  if sec ≤ 0 then now
  else sec.toInt64.toUInt64 * 1000 + (nanosec / 1000000).toUInt64

/-! ## The snapshot -/

/-- `sensor_msgs::msg::JointState`, with the two fields of its stamp. -/
structure JointStateMsg where
  sec : Int32 := 0
  nanosec : UInt32 := 0
  name : List (List UInt8) := []
  position : List UInt64 := []
  velocity : List UInt64 := []
  effort : List UInt64 := []
deriving DecidableEq, Repr

/-- `setJointSample` -/
def setJointSample (toFloat : FloatCast) (snapshot : RobotJointTelemetrySnapshot)
    (joint_index : ℕ) (position velocity effort : UInt64) : RobotJointTelemetrySnapshot :=
  if snapshot.joints.length ≤ joint_index then snapshot
  else
    { snapshot with
      joints := snapshot.joints.set joint_index {
        position_rad := finiteOrZero toFloat position
        velocity_rad_s := finiteOrZero toFloat velocity
        effort_nm := finiteOrZero toFloat effort
        valid := isfinite position } }

/-- `sample_count` of `onJointState`. -/
def sampleCount (msg : JointStateMsg) : ℕ := min msg.name.length msg.position.length

/-- The body of the loop of `onJointState`. -/
def sampleRound (toFloat : FloatCast) (msg : JointStateMsg)
    (snapshot : RobotJointTelemetrySnapshot) (source_index : ℕ) : RobotJointTelemetrySnapshot :=
  match exactRobotJointIndex (msg.name.getD source_index []) with
  | none => snapshot
  | some joint_index =>
      let velocity :=
        if source_index < msg.velocity.length then msg.velocity.getD source_index 0 else 0
      let effort :=
        if source_index < msg.effort.length then msg.effort.getD source_index 0 else 0
      setJointSample toFloat snapshot joint_index (msg.position.getD source_index 0) velocity
        effort

/-- `MainNode::onJointState`; a null message is `none`. -/
def onJointState (toFloat : FloatCast) (now : UInt64) (msg : Option JointStateMsg)
    (snapshot : RobotJointTelemetrySnapshot) : RobotJointTelemetrySnapshot :=
  match msg with
  | none => snapshot
  | some msg =>
      let snapshot :=
        { snapshot with sample_timestamp_ms := stampToUnixMs now msg.sec msg.nanosec }
      let snapshot :=
        { snapshot with joints := snapshot.joints.map fun _ => ({} : RobotJointStateSample) }
      (List.range (sampleCount msg)).foldl (sampleRound toFloat msg) snapshot

/-- The snapshot after start-up, with the parameter `telemetry.high_rate.schema_id`. -/
def startSnapshot (joint_schema_id : ℤ) (now : UInt64) : RobotJointTelemetrySnapshot where
  version := 1
  schema_id := UInt16.ofNat (max 0 (min joint_schema_id 0xFFFF)).toNat
  sample_timestamp_ms := now
  joints := List.replicate kRobotJointTelemetryJointCount {}

/-- A message with the time at which it is handled. -/
structure JointDelivery where
  now : UInt64
  msg : Option JointStateMsg
deriving DecidableEq, Repr

/-- The snapshot after some messages. -/
def snapshotAfter (toFloat : FloatCast) (start : RobotJointTelemetrySnapshot)
    (deliveries : List JointDelivery) : RobotJointTelemetrySnapshot :=
  deliveries.foldl (fun snapshot d => onJointState toFloat d.now d.msg snapshot) start

/-- The header of `UdpManager::sendRobotJointTelemetry`. -/
def jointTelemetryHeader (seq : UInt16) (tx_timestamp_ms : UInt64)
    (session_id device_id : List UInt8) : TelemetryPacketHeaderV1 where
  Type_ := kRobotTelemetryHighRateType
  Seq := seq
  TxTimestampMs := tx_timestamp_ms
  SessionId := session_id
  DeviceId := device_id

/-! ## Reading a message -/

/-- Entry `k` of the message has exactly the name of joint `i`. -/
def EntryOf (msg : JointStateMsg) (i k : ℕ) : Prop :=
  ∃ name, kRobotJointTelemetryJointNames[i]? = some name ∧ msg.name[k]? = some name

/-- The last entry for joint `i` that has a name and a position. -/
def LastEntry (msg : JointStateMsg) (i k : ℕ) : Prop :=
  IsLast (EntryOf msg i) (min msg.name.length msg.position.length) k

/-- An entry of an array as it is reported: 0 if it is missing or not finite. -/
def reportedValue (toFloat : FloatCast) (values : List UInt64) (k : ℕ) : UInt32 :=
  match values[k]? with
  | some value => if isfinite value then toFloat.cast value else 0
  | none => 0

/-- Entry `k` of `msg'` is entry `σ k` of `msg`, in all four arrays. -/
structure Permutes (σ : Equiv.Perm ℕ) (msg msg' : JointStateMsg) : Prop where
  sec : msg'.sec = msg.sec
  nanosec : msg'.nanosec = msg.nanosec
  name : ∀ k, msg'.name[k]? = msg.name[σ k]?
  position : ∀ k, msg'.position[k]? = msg.position[σ k]?
  velocity : ∀ k, msg'.velocity[k]? = msg.velocity[σ k]?
  effort : ∀ k, msg'.effort[k]? = msg.effort[σ k]?

theorem EntryOf.lt {msg : JointStateMsg} {i k : ℕ} (h : EntryOf msg i k) :
    i < kRobotJointTelemetryJointCount := by
  obtain ⟨name, hname, -⟩ := h
  exact (List.getElem?_eq_some_iff.mp hname).1

theorem nodup_kRobotJointTelemetryJointNames : kRobotJointTelemetryJointNames.Nodup := by
  decide

/-- The names differ, so the first match is the only one. -/
theorem exactRobotJointIndex_eq_some {name : List UInt8} {i : ℕ} :
    exactRobotJointIndex name = some i ↔ kRobotJointTelemetryJointNames[i]? = some name := by
  unfold exactRobotJointIndex
  rw [List.findIdx?_eq_some_iff_getElem]
  constructor
  · rintro ⟨hi, hname, -⟩
    rw [List.getElem?_eq_getElem hi, beq_iff_eq.mp hname]
  · intro hname
    obtain ⟨hi, heq⟩ := List.getElem?_eq_some_iff.mp hname
    refine ⟨hi, by rw [heq]; exact beq_self_eq_true name, fun j hj => ?_⟩
    intro hbefore
    have hsame : kRobotJointTelemetryJointNames[j] = kRobotJointTelemetryJointNames[i] := by
      rw [heq, ← beq_iff_eq.mp hbefore]
    have := (nodup_kRobotJointTelemetryJointNames.getElem_inj_iff).mp hsame
    omega

/-! ## One message -/

section Message

variable (toFloat : FloatCast) (now : UInt64) (msg : JointStateMsg)
  (snapshot : RobotJointTelemetrySnapshot)

/-- The joint that entry `k` names. -/
def slotOf (k : ℕ) : Option ℕ := exactRobotJointIndex (msg.name.getD k [])

/-- The sample that entry `k` gives. -/
def sampleOf (k : ℕ) : RobotJointStateSample where
  position_rad := reportedValue toFloat msg.position k
  velocity_rad_s := reportedValue toFloat msg.velocity k
  effort_nm := reportedValue toFloat msg.effort k
  valid := msg.position[k]?.any isfinite

variable {toFloat msg snapshot}

/-- The guard of the two optional arrays makes a missing value `0.0`, which stays 0. -/
theorem finiteOrZero_guarded (values : List UInt64) (k : ℕ) :
    finiteOrZero toFloat (if k < values.length then values.getD k 0 else 0) =
      reportedValue toFloat values k := by
  unfold reportedValue
  by_cases hk : k < values.length
  · rw [if_pos hk, List.getD_eq_getElem _ _ hk, List.getElem?_eq_getElem hk]
    rfl
  · rw [if_neg hk, List.getElem?_eq_none (Nat.le_of_not_lt hk)]
    show finiteOrZero toFloat 0 = 0
    unfold finiteOrZero
    rw [toFloat.cast_zero, ite_self]

/-- A round of the loop is a round of a last-write loop. -/
theorem sampleRound_eq {k : ℕ} (hk : k < sampleCount msg) :
    sampleRound toFloat msg snapshot k =
      { snapshot with
        joints := scatterRound (slotOf msg) (sampleOf toFloat msg) snapshot.joints k } := by
  have hposition : k < msg.position.length := lt_of_lt_of_le hk (Nat.min_le_right _ _)
  have hvalue : reportedValue toFloat msg.position k =
      finiteOrZero toFloat (msg.position.getD k 0) := by
    rw [← finiteOrZero_guarded, if_pos hposition]
  have hvalid : msg.position[k]?.any isfinite = isfinite (msg.position.getD k 0) := by
    rw [List.getD_eq_getElem _ _ hposition, List.getElem?_eq_getElem hposition, Option.any_some]
  unfold sampleRound scatterRound slotOf
  cases exactRobotJointIndex (msg.name.getD k []) with
  | none => rfl
  | some j =>
    simp only [sampleOf, setJointSample, finiteOrZero_guarded, hvalue, hvalid]
    split_ifs with hj
    · -- out of range, the write does nothing in either form
      rw [List.set_eq_of_length_le hj]
    · rfl

theorem foldl_sampleRound {n : ℕ} (hn : n ≤ sampleCount msg) :
    (List.range n).foldl (sampleRound toFloat msg) snapshot =
      { snapshot with
        joints := scatter (slotOf msg) (sampleOf toFloat msg) n snapshot.joints } := by
  induction n with
  | zero => rfl
  | succ n ih =>
    rw [List.range_succ, List.foldl_append, List.foldl_cons, List.foldl_nil, ih (by omega),
      sampleRound_eq (by omega), scatter_succ]

/-- What a message leaves in the snapshot: the joints come from a loop over cleared cells. -/
theorem onJointState_eq :
    onJointState toFloat now (some msg) snapshot =
      { snapshot with
        sample_timestamp_ms := stampToUnixMs now msg.sec msg.nanosec
        joints := scatter (slotOf msg) (sampleOf toFloat msg) (sampleCount msg)
          (List.replicate snapshot.joints.length {}) } := by
  unfold onJointState
  simp only
  rw [foldl_sampleRound le_rfl, List.map_const']

theorem slotOf_eq_some {i k : ℕ} (hk : k < sampleCount msg) :
    slotOf msg k = some i ↔ EntryOf msg i k := by
  have hname : k < msg.name.length := lt_of_lt_of_le hk (Nat.min_le_left _ _)
  unfold slotOf EntryOf
  rw [exactRobotJointIndex_eq_some, List.getD_eq_getElem _ _ hname, List.getElem?_eq_getElem hname]
  constructor
  · intro hjoint
    exact ⟨_, hjoint, rfl⟩
  · rintro ⟨name, hjoint, hentry⟩
    rw [hjoint, hentry]

/-- A joint that the message names has the sample of the last entry for it. -/
theorem joint_of_lastEntry {i k : ℕ} (hlast : LastEntry msg i k)
    (hi : i < snapshot.joints.length) :
    (onJointState toFloat now (some msg) snapshot).joints[i]? =
      some (sampleOf toFloat msg k) := by
  rw [onJointState_eq]
  apply getElem?_scatter_of_isLast
  · exact hlast.congr fun j hj => (slotOf_eq_some hj).symm
  · rw [List.length_replicate]
    exact hi

/-- A joint that the message does not name is cleared. -/
theorem joint_of_no_entry {i : ℕ} (hnone : ∀ k < sampleCount msg, ¬EntryOf msg i k)
    (hi : i < snapshot.joints.length) :
    (onJointState toFloat now (some msg) snapshot).joints[i]? = some {} := by
  rw [onJointState_eq]
  show (scatter _ _ _ _)[i]? = _
  rw [getElem?_scatter_of_forall_ne fun k hk hslot => hnone k hk ((slotOf_eq_some hk).mp hslot),
    List.getElem?_replicate, if_pos hi]

/-- Only the version, the schema and the number of joints survive a message. -/
theorem onJointState_forgets {snapshot' : RobotJointTelemetrySnapshot}
    (hversion : snapshot'.version = snapshot.version)
    (hschema : snapshot'.schema_id = snapshot.schema_id)
    (hlength : snapshot'.joints.length = snapshot.joints.length) :
    onJointState toFloat now (some msg) snapshot' =
      onJointState toFloat now (some msg) snapshot := by
  rw [onJointState_eq, onJointState_eq, hversion, hschema, hlength]

end Message

/-! ## The order of the entries -/

/-- A permutation that maps one initial segment onto another keeps its length. -/
theorem eq_of_perm_lt {σ : Equiv.Perm ℕ} {m n : ℕ} (hσ : ∀ k, k < m ↔ σ k < n) : m = n := by
  have himage : (Finset.range m).image σ = Finset.range n := by
    ext j
    rw [Finset.mem_image, Finset.mem_range]
    constructor
    · rintro ⟨k, hk, rfl⟩
      exact (hσ k).mp (Finset.mem_range.mp hk)
    · intro hj
      refine ⟨σ.symm j, ?_, σ.apply_symm_apply j⟩
      rw [Finset.mem_range, hσ, Equiv.apply_symm_apply]
      exact hj
  calc m = (Finset.range m).card := (Finset.card_range m).symm
    _ = ((Finset.range m).image σ).card := (Finset.card_image_of_injective _ σ.injective).symm
    _ = n := by rw [himage, Finset.card_range]

section Permuted

variable {σ : Equiv.Perm ℕ} {msg msg' : JointStateMsg}

theorem lt_length_iff_of_getElem?_eq {α : Type} {xs ys : List α} {j k : ℕ}
    (h : ys[k]? = xs[j]?) : k < ys.length ↔ j < xs.length := by
  rw [← not_le, ← not_le, ← List.getElem?_eq_none_iff, ← List.getElem?_eq_none_iff, h]

theorem Permutes.lt_sampleCount (h : Permutes σ msg msg') (k : ℕ) :
    k < sampleCount msg' ↔ σ k < sampleCount msg := by
  have hname := lt_length_iff_of_getElem?_eq (h.name k)
  have hposition := lt_length_iff_of_getElem?_eq (h.position k)
  unfold sampleCount
  rw [lt_min_iff, lt_min_iff, hname, hposition]

theorem Permutes.slotOf_eq (h : Permutes σ msg msg') (k : ℕ) :
    slotOf msg' k = slotOf msg (σ k) := by
  unfold slotOf
  rw [List.getD_eq_getElem?_getD, List.getD_eq_getElem?_getD, h.name]

theorem Permutes.sampleOf_eq (toFloat : FloatCast) (h : Permutes σ msg msg') (k : ℕ) :
    sampleOf toFloat msg' k = sampleOf toFloat msg (σ k) := by
  unfold sampleOf reportedValue
  rw [h.position, h.velocity, h.effort]

/-- With distinct names, two entries of the message never name one joint. -/
theorem slotOf_inj (hnames : msg.name.Nodup) {i k j : ℕ} (hi : i < sampleCount msg)
    (hk : k < sampleCount msg) (hslot_i : slotOf msg i = some j)
    (hslot_k : slotOf msg k = some j) : i = k := by
  obtain ⟨name, hjoint, hentry_i⟩ := (slotOf_eq_some hi).mp hslot_i
  obtain ⟨name', hjoint', hentry_k⟩ := (slotOf_eq_some hk).mp hslot_k
  have hsame : name = name' := Option.some_inj.mp (hjoint.symm.trans hjoint')
  subst hsame
  have hlt : i < msg.name.length := lt_of_lt_of_le hi (Nat.min_le_left _ _)
  exact (List.getElem?_inj hlt hnames).mp (hentry_i.trans hentry_k.symm)

theorem onJointState_permutes (toFloat : FloatCast) (now : UInt64)
    (snapshot : RobotJointTelemetrySnapshot) (hnames : msg.name.Nodup)
    (h : Permutes σ msg msg') :
    onJointState toFloat now (some msg') snapshot =
      onJointState toFloat now (some msg) snapshot := by
  -- the loop of `msg'` has the rounds of the loop of `msg`, in the order of `σ`
  have hcount : sampleCount msg' = sampleCount msg := eq_of_perm_lt h.lt_sampleCount
  have hσ : ∀ k, σ k < sampleCount msg ↔ k < sampleCount msg := by
    intro k
    rw [← h.lt_sampleCount, hcount]
  have hslot : slotOf msg' = fun k => slotOf msg (σ k) := funext h.slotOf_eq
  have hsample : sampleOf toFloat msg' = fun k => sampleOf toFloat msg (σ k) :=
    funext (h.sampleOf_eq toFloat)
  rw [onJointState_eq, onJointState_eq, hcount, hslot, hsample, h.sec, h.nanosec,
    scatter_perm σ hσ fun i hi k hk j => slotOf_inj hnames hi hk]

end Permuted

/-! ## Any sequence of messages -/

/-- What every message keeps of the start-up values. -/
structure KeepsSchema (start snapshot : RobotJointTelemetrySnapshot) : Prop where
  version : snapshot.version = start.version
  schema_id : snapshot.schema_id = start.schema_id
  length : snapshot.joints.length = start.joints.length

theorem KeepsSchema.refl (start : RobotJointTelemetrySnapshot) : KeepsSchema start start :=
  ⟨rfl, rfl, rfl⟩

theorem keepsSchema_onJointState {toFloat : FloatCast}
    {start snapshot : RobotJointTelemetrySnapshot} (h : KeepsSchema start snapshot)
    (now : UInt64) (msg : Option JointStateMsg) :
    KeepsSchema start (onJointState toFloat now msg snapshot) := by
  cases msg with
  | none => exact h
  | some msg =>
    rw [onJointState_eq]
    refine ⟨h.version, h.schema_id, ?_⟩
    rw [length_scatter, List.length_replicate]
    exact h.length

theorem keepsSchema_snapshotAfter (toFloat : FloatCast)
    {start snapshot : RobotJointTelemetrySnapshot} (deliveries : List JointDelivery)
    (h : KeepsSchema start snapshot) :
    KeepsSchema start (snapshotAfter toFloat snapshot deliveries) := by
  induction deliveries generalizing snapshot with
  | nil => exact h
  | cons d deliveries ih => exact ih (keepsSchema_onJointState h d.now d.msg)

/-- The packet of the snapshot after some messages. -/
def jointPacketAfter (toFloat : FloatCast) (codec : Codec) (header : TelemetryPacketHeaderV1)
    (start : RobotJointTelemetrySnapshot) (deliveries : List JointDelivery) : List UInt8 :=
  buildRobotJointTelemetryPacket codec header (snapshotAfter toFloat start deliveries)

theorem snapshotAfter_concat (toFloat : FloatCast) (start : RobotJointTelemetrySnapshot)
    (earlier : List JointDelivery) (d : JointDelivery) :
    snapshotAfter toFloat start (earlier ++ [d]) =
      onJointState toFloat d.now d.msg (snapshotAfter toFloat start earlier) := by
  unfold snapshotAfter
  rw [List.foldl_append, List.foldl_cons, List.foldl_nil]

/-- The flag of a joint after a message: the last entry for the joint is finite. -/
theorem valid_onJointState_iff {toFloat : FloatCast} (now : UInt64) (msg : JointStateMsg)
    {snapshot : RobotJointTelemetrySnapshot}
    (hjoints : snapshot.joints.length = kRobotJointTelemetryJointCount) (i : ℕ) :
    ((onJointState toFloat now (some msg) snapshot).joints.getD i {}).valid = true ↔
      ∃ k, LastEntry msg i k ∧ msg.position[k]?.any isfinite = true := by
  by_cases hi : i < snapshot.joints.length
  -- the message has a last entry for the joint, or none at all
  · rcases exists_isLast_or (EntryOf msg i) (sampleCount msg) with ⟨k, hk⟩ | hnone
    · rw [List.getD_eq_getElem?_getD, joint_of_lastEntry now hk hi]
      constructor
      · intro hvalid
        exact ⟨k, hk, hvalid⟩
      · rintro ⟨k', hk', hfinite⟩
        rw [hk.unique hk']
        exact hfinite
    · rw [List.getD_eq_getElem?_getD, joint_of_no_entry now hnone hi]
      constructor
      · intro hvalid
        exact absurd hvalid Bool.false_ne_true
      · rintro ⟨k, hk, -⟩
        exact absurd hk.holds (hnone k hk.lt)
  · -- there is no joint `i`, and no entry can name it
    have hout : (onJointState toFloat now (some msg) snapshot).joints.getD i {} = {} := by
      apply List.getD_eq_default
      rw [onJointState_eq]
      show (scatter _ _ _ _).length ≤ i
      rw [length_scatter, List.length_replicate]
      omega
    rw [hout]
    constructor
    · intro hvalid
      exact absurd hvalid Bool.false_ne_true
    · rintro ⟨k, hk, -⟩
      rw [hjoints] at hi
      exact absurd hk.holds.lt hi

/-- The packet of a snapshot with all joints: the mask has a bit for each of them. -/
theorem decode_jointPacket (codec : Codec) (header : TelemetryPacketHeaderV1)
    {snapshot : RobotJointTelemetrySnapshot}
    (hjoints : snapshot.joints.length = kRobotJointTelemetryJointCount) :
    ∃ mask : UInt32,
      decodeRobotJointTelemetry (buildRobotJointTelemetryPacket codec header snapshot) =
        some (sentHeader codec header, {
          Version := snapshot.version
          SchemaId := snapshot.schema_id
          SampleTimestampMs := snapshot.sample_timestamp_ms
          ValidMask := mask
          JointStates := snapshot.joints.map jointState }, []) ∧
      ∀ i, mask.toNat.testBit i = (snapshot.joints.getD i {}).valid := by
  have hcount : snapshot.joints.length = 19 := hjoints
  refine ⟨validMask snapshot.joints 19, ?_, fun i => ?_⟩
  · rw [decodeRobotJointTelemetry_build, hcount, List.take_of_length_le (by omega)]
    rfl
  · rw [validMask_testBit _ (by omega)]
    by_cases hi : i < 19
    · rw [decide_eq_true hi, Bool.true_and]
    · -- a joint that is not there is not valid
      rw [List.getD_eq_default _ _ (by omega), Bool.and_false]

/-! ## Main result -/

/-- After any messages, the packet reports for each joint the last entry of the last message
with its name, in range of the names and the positions, and nothing else: not an earlier
message, and not the order of entries with distinct names. -/
theorem joint_packet_reports_last_entries (toFloat : FloatCast) (codec : Codec) (seq : UInt16)
    (tx_timestamp_ms : UInt64) (session_id device_id : List UInt8) (joint_schema_id : ℤ)
    (started : UInt64) (earlier : List JointDelivery) (now : UInt64) (msg : JointStateMsg) :
    let header := jointTelemetryHeader seq tx_timestamp_ms session_id device_id
    let start := startSnapshot joint_schema_id started
    let packet := jointPacketAfter toFloat codec header start (earlier ++ [⟨now, some msg⟩])
    (∃ mask states,
      decodeRobotJointTelemetry packet = some (sentHeader codec header, {
        Version := 1
        SchemaId := start.schema_id
        SampleTimestampMs := stampToUnixMs now msg.sec msg.nanosec
        ValidMask := mask
        JointStates := states }, []) ∧
      states.length = kRobotJointTelemetryJointCount ∧
      (∀ i, mask.toNat.testBit i = true ↔
        ∃ k, LastEntry msg i k ∧ msg.position[k]?.any isfinite = true) ∧
      (∀ i k, LastEntry msg i k → states[i]? = some {
        PositionRad := reportedValue toFloat msg.position k
        VelocityRadS := reportedValue toFloat msg.velocity k
        EffortNm := reportedValue toFloat msg.effort k }) ∧
      ∀ i < kRobotJointTelemetryJointCount,
        (∀ k < min msg.name.length msg.position.length, ¬EntryOf msg i k) →
          mask.toNat.testBit i = false ∧
            states[i]? = some { PositionRad := 0, VelocityRadS := 0, EffortNm := 0 }) ∧
    (∀ earlier' started', jointPacketAfter toFloat codec header
      (startSnapshot joint_schema_id started') (earlier' ++ [⟨now, some msg⟩]) = packet) ∧
    ∀ σ msg', msg.name.Nodup → Permutes σ msg msg' →
      jointPacketAfter toFloat codec header start (earlier ++ [⟨now, some msg'⟩]) = packet := by
  intro header start packet
  have hkeeps := keepsSchema_snapshotAfter toFloat earlier (KeepsSchema.refl start)
  have hjoints : (snapshotAfter toFloat start earlier).joints.length =
      kRobotJointTelemetryJointCount := hkeeps.length.trans (List.length_replicate ..)
  have hafter : KeepsSchema start
      (onJointState toFloat now (some msg) (snapshotAfter toFloat start earlier)) :=
    keepsSchema_onJointState hkeeps now (some msg)
  -- there are 19 joints at start-up, and no message changes their number
  obtain ⟨mask, hdecode, hmask⟩ := decode_jointPacket codec header
    (hafter.length.trans (List.length_replicate ..))
  have hbit : ∀ i, mask.toNat.testBit i = true ↔
      ∃ k, LastEntry msg i k ∧ msg.position[k]?.any isfinite = true := by
    intro i
    rw [hmask]
    exact valid_onJointState_iff now msg hjoints i
  have hpacket : ∀ started' earlier' msg', jointPacketAfter toFloat codec header
      (startSnapshot joint_schema_id started') (earlier' ++ [⟨now, some msg'⟩]) =
        buildRobotJointTelemetryPacket codec header (onJointState toFloat now (some msg')
          (snapshotAfter toFloat (startSnapshot joint_schema_id started') earlier')) := by
    intro started' earlier' msg'
    unfold jointPacketAfter
    rw [snapshotAfter_concat]
  refine ⟨⟨mask, (onJointState toFloat now (some msg)
    (snapshotAfter toFloat start earlier)).joints.map jointState, ?_, ?_, hbit, ?_, ?_⟩, ?_, ?_⟩
  · show decodeRobotJointTelemetry (jointPacketAfter _ _ _ _ _) = _
    rw [hpacket, hdecode, hafter.version, hafter.schema_id, onJointState_eq]
    rfl
  · rw [List.length_map]
    exact hafter.length.trans (List.length_replicate ..)
  · intro i k hlast
    have hi : i < (snapshotAfter toFloat start earlier).joints.length := by
      rw [hjoints]
      exact hlast.holds.lt
    rw [List.getElem?_map, joint_of_lastEntry now hlast hi]
    rfl
  · intro i hi hnone
    constructor
    · rw [← Bool.not_eq_true, hbit]
      rintro ⟨k, hlast, -⟩
      exact hnone k hlast.lt hlast.holds
    · rw [List.getElem?_map, joint_of_no_entry now hnone (by rw [hjoints]; exact hi)]
      rfl
  · intro earlier' started'
    show _ = jointPacketAfter _ _ _ _ _
    rw [hpacket, hpacket]
    -- both runs keep the version, the schema and the number of joints, and no more is read
    have hkeeps' := keepsSchema_snapshotAfter toFloat earlier'
      (KeepsSchema.refl (startSnapshot joint_schema_id started'))
    rw [onJointState_forgets now (hkeeps'.version.trans hkeeps.version.symm)
      (hkeeps'.schema_id.trans hkeeps.schema_id.symm)
      (hkeeps'.length.trans hkeeps.length.symm)]
  · intro σ msg' hnames hpermutes
    show _ = jointPacketAfter _ _ _ _ _
    rw [hpacket, hpacket, onJointState_permutes toFloat now _ hnames hpermutes]

end TeleopBridge.Node
