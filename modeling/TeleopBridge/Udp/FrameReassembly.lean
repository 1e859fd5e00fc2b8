import TeleopBridge.Udp.ProcessFrame

/-!
# Reassembly of a Fragmented Frame

`FrameBatch` states what a receiver can rely on for one frame: the datagrams decode to
headers that agree with one another, their indices are consecutive, the source payloads
concatenate to the frame and the parity payloads are the encoder's.

## Key Result

`processFrames_reassemblable`: every batch of every run of `processFrame` is such a batch,
and the frame ids and packet sequence numbers continue from one frame to the next.
-/

namespace TeleopBridge.Udp

open Support FecV2 PacketCodec

/-! ## What a receiver relies on -/

/-- `n = ceil(size / max_payload)` -/
def FrameInput.fragments (input : FrameInput) : ℕ :=
  (input.frame.data.length + input.config.max_payload - 1) / input.config.max_payload

/-- Whether `getParams` grants parity, and its groups and rows. -/
def FrameInput.params (input : FrameInput) : Bool × UInt8 × UInt8 :=
  fecParams input.config (UInt16.ofNat input.fragments)

/-- The number of parity datagrams, `g * r` when `getParams` grants them. -/
def FrameInput.parityCount (input : FrameInput) : ℕ :=
  if input.params.1 then input.params.2.1.toNat * input.params.2.2.toNat else 0

/-- The frames the property is about. -/
structure FrameInput.Admissible (input : FrameInput) : Prop where
  nonempty : input.frame.data ≠ []
  payload_pos : 1 ≤ input.config.max_payload
  payload_le : input.config.max_payload ≤ 65535
  fragments_le : input.fragments ≤ 65535

/-- Datagram `i` of a frame, with the header and payload it decodes to. -/
structure DatagramDecodes (input : FrameInput) (frameId : UInt32) (firstSeq : UInt16) (i : ℕ)
    (item : QueueItem) (header : VideoPacketHeaderV2) (payload : List UInt8) : Prop where
  kind : item.kind = .Datagram
  stream : item.stream = .Video
  group_id : item.group_id = frameId
  packet_seq : item.packet_seq = header.PacketSeqNum
  is_fec_parity : item.is_fec_parity = decide (input.fragments ≤ i)
  is_keyframe : item.is_keyframe = input.frame.keyframe
  wire_bytes : item.wire_bytes = item.bytes.length
  built : item.bytes = writeVideoHeader header ++ payload
  decodes : decodeVideoPacket item.bytes = some (header, payload)
  type : header.Type_ = kVideoPacketType
  seq : header.PacketSeqNum = firstSeq + UInt16.ofNat i
  timestamp : header.Timestamp = input.frame.ntp_timestamp
  frame_id : header.FrameId = frameId
  fragment_index : header.FragmentIndex.toNat = i
  total_fragments : header.TotalFragments.toNat = input.fragments
  payload_length : header.PayloadLength.toNat = payload.length
  frame_length : header.FramePayloadLength.toNat = input.frame.data.length
  fec_table_id : header.FecTableId = if input.params.1 then input.config.fec_table_id else 0
  keyframe_flag : header.KeyframeFlag = if input.frame.keyframe then 1 else 0
  full : i + 1 ≠ input.fragments → payload.length = input.config.max_payload

/-- The `GroupEnd` of a frame. -/
structure ClosesGroup (frameId : UInt32) (item : QueueItem) : Prop where
  kind : item.kind = .GroupEnd
  stream : item.stream = .Video
  group_id : item.group_id = frameId

/-- A batch from which the frame can be reassembled. -/
structure FrameBatch (input : FrameInput) (frameId : UInt32) (firstSeq : UInt16)
    (batch : List QueueItem) : Prop where
  reassembles : ∃ (datagrams : List QueueItem) (closing : QueueItem)
    (headers : ℕ → VideoPacketHeaderV2) (payloads : ℕ → List UInt8),
    batch = datagrams ++ [closing] ∧ ClosesGroup frameId closing ∧
    datagrams.length = input.fragments + input.parityCount ∧
    (∀ i item, datagrams[i]? = some item →
      DatagramDecodes input frameId firstSeq i item (headers i) (payloads i)) ∧
    ((List.range input.fragments).map payloads).flatten = input.frame.data ∧
    (input.params.1 → (List.range input.parityCount).map (fun k => payloads (input.fragments + k)) =
      buildParity input.frame.data (UInt16.ofNat input.fragments) input.params.2.1
        input.params.2.2 input.config.max_payload)

/-- The batches of consecutive frames: each continues the numbering of the one before. -/
def FrameBatches : FrameCounters → List FrameInput → List (List QueueItem) → Prop
  | _, [], batches => batches = []
  | counters, input :: inputs, batches =>
      ∃ batch rest, batches = batch :: rest ∧
        FrameBatch input counters.frame_id_ counters.packet_seq_num_ batch ∧
        FrameBatches
          { frame_id_ := counters.frame_id_ + 1
            packet_seq_num_ := counters.packet_seq_num_ +
              UInt16.ofNat (input.fragments + input.parityCount) } inputs rest

/-! ## The plan -/

/-- The number of parity shells of a job. -/
def FrameJob.parityCount (job : FrameJob) : ℕ :=
  if job.fec_enabled then job.groups.toNat * job.r_per_group.toNat else 0

/-- The datagram at position `i` of the plan. -/
def planItem (job : FrameJob) (i : ℕ) (seq : UInt16) : QueueItem :=
  if i < job.total_fragments.toNat then sourceItem job i seq
  else
    parityShell job ((i - job.total_fragments.toNat) % job.groups.toNat)
      ((i - job.total_fragments.toNat) / job.groups.toNat) seq

theorem datagramPlan_eq (job : FrameJob) :
    datagramPlan job =
      (List.range (job.total_fragments.toNat + job.parityCount)).map (planItem job) := by
  have hsources : (List.range job.total_fragments.toNat).map (fun index => sourceItem job index) =
      (List.range job.total_fragments.toNat).map (planItem job) := by
    refine List.map_congr_left fun i hi => ?_
    funext seq
    rw [planItem, if_pos (List.mem_range.mp hi)]
  rw [datagramPlan, List.range_add, List.map_append, hsources, List.map_map]
  congr 1
  unfold FrameJob.parityCount
  -- the parity datagrams come row by row, which is their number over the groups
  cases job.fec_enabled with
  | false => rfl
  | true =>
    rw [if_pos rfl, if_pos rfl, flatMap_range_map, Nat.mul_comm]
    refine List.map_congr_left fun k _ => ?_
    funext seq
    simp [planItem]

theorem fetchAll_map_range (build : ℕ → UInt16 → QueueItem) (n : ℕ) (seq : UInt16) :
    fetchAll ((List.range n).map build) seq =
      (seq + UInt16.ofNat n, (List.range n).map fun i => build i (seq + UInt16.ofNat i)) := by
  induction n with
  | zero => simp [fetchAll]
  | succ n ih =>
    unfold fetchAll at ih ⊢
    rw [List.range_succ, List.map_append, List.map_append, List.foldl_append, ih]
    simp only [List.map_cons, List.map_nil, List.foldl_cons, List.foldl_nil, UInt16.ofNat_add,
      UInt16.add_assoc]
    rfl

/-! ## Facts about an admissible frame -/

/-- The job of a call that got frame id `frameId`. -/
def FrameInput.job (input : FrameInput) (frameId : UInt32) : FrameJob :=
  startJob input.config input.frame input.enqueue_steady_us frameId

/-- Fragment `k` exists exactly when the frame has a byte at its offset. -/
theorem FrameInput.Admissible.lt_fragments_iff {input : FrameInput} (h : input.Admissible)
    (k : ℕ) : k < input.fragments ↔ k * input.config.max_payload < input.frame.data.length := by
  have hpos := h.payload_pos
  rw [FrameInput.fragments, Nat.lt_iff_add_one_le, Nat.le_div_iff_mul_le hpos, Nat.succ_mul]
  omega

theorem FrameInput.Admissible.size_le {input : FrameInput} (h : input.Admissible) :
    input.frame.data.length ≤ input.fragments * input.config.max_payload :=
  not_lt.mp fun hlt => lt_irrefl _ ((h.lt_fragments_iff input.fragments).mpr hlt)

theorem FrameInput.Admissible.total_toNat {input : FrameInput} (h : input.Admissible) :
    (UInt16.ofNat input.fragments).toNat = input.fragments := by
  have := h.fragments_le
  rw [UInt16.toNat_ofNat', Nat.mod_eq_of_lt (by omega)]

/-- 65535 fragments of 65535 bytes still fit the 32-bit frame length. -/
theorem FrameInput.Admissible.size_lt {input : FrameInput} (h : input.Admissible) :
    input.frame.data.length < 2 ^ 32 := by
  calc input.frame.data.length ≤ input.fragments * input.config.max_payload := h.size_le
    _ ≤ 65535 * 65535 := Nat.mul_le_mul h.fragments_le h.payload_le
    _ < 2 ^ 32 := by decide

/-- What granted parity parameters promise. -/
structure GrantedParams (total_fragments : UInt16) (groups r_per_group : UInt8) : Prop where
  total_lt : total_fragments.toNat < 256
  groups_pos : 0 < groups.toNat
  r_pos : 0 < r_per_group.toNat

theorem getParams_granted {table : V2FecTable} {table_id : UInt8} {total_fragments : UInt16}
    (h : (getParams table table_id total_fragments).1 = true) :
    GrantedParams total_fragments (getParams table table_id total_fragments).2.1
      (getParams table table_id total_fragments).2.2 := by
  unfold getParams at h ⊢
  split_ifs at h ⊢ with hid hloaded
  · simp only [Bool.and_eq_true, decide_eq_true_eq] at h
    -- the table answers only for fewer than 256 fragments
    have htotal : total_fragments < 256 := by
      rw [not_or, not_or] at hid
      exact UInt16.not_le.mp hid.2.2
    exact ⟨UInt16.lt_iff_toNat_lt.mp htotal, UInt8.lt_iff_toNat_lt.mp h.1,
      UInt8.lt_iff_toNat_lt.mp h.2⟩

theorem fecParams_granted {config : VideoConfig} {total_fragments : UInt16}
    (h : (fecParams config total_fragments).1 = true) :
    GrantedParams total_fragments (fecParams config total_fragments).2.1
      (fecParams config total_fragments).2.2 := by
  unfold fecParams at h ⊢
  cases hencoder : config.fec_encoder_ with
  | none => simp [hencoder] at h
  | some table =>
    simp only [hencoder] at h ⊢
    exact getParams_granted h

/-! ## Bytes of one datagram -/

theorem sourceItem_bytes (job : FrameJob) (i : ℕ) (seq : UInt16) :
    (sourceItem job i seq).bytes =
      writeVideoHeader (sourceHeader job i seq) ++ sourceFragment job.data job.max_payload i := by
  have htake : (job.data.drop (i * job.max_payload)).take
      (min job.max_payload (job.data.length - i * job.max_payload)) =
      sourceFragment job.data job.max_payload i := by
    rw [sourceFragment, List.take_eq_take_iff, List.length_drop]
    omega
  show buildVideoPacket (sourceHeader job i seq) (some (job.data.drop (i * job.max_payload)))
    (min job.max_payload (job.data.length - i * job.max_payload)) = _
  rw [← htake]
  simp only [buildVideoPacket]
  split
  · rfl
  · -- an empty rest is not written, and is the empty fragment
    have hzero : min job.max_payload (job.data.length - i * job.max_payload) = 0 := by omega
    rw [hzero, List.take_zero, List.append_nil]

theorem parityShell_bytes (job : FrameJob) (group parity : ℕ) (seq : UInt16) :
    (parityShell job group parity seq).bytes =
      writeVideoHeader (parityHeader job group parity seq) ++
        List.replicate job.max_payload 0 := rfl

theorem payloadOf_parityShell (job : FrameJob) (group parity : ℕ) (seq : UInt16) :
    payloadOf (parityShell job group parity seq) = some (List.replicate job.max_payload 0) := by
  rw [payloadOf, parityShell_bytes, List.drop_left' (length_writeVideoHeader _)]

theorem writePayload_parityShell_bytes (job : FrameJob) (group parity : ℕ) (seq : UInt16)
    (payload : List UInt8) :
    (writePayload (parityShell job group parity seq) (some payload)).bytes =
      writeVideoHeader (parityHeader job group parity seq) ++ payload := by
  show (parityShell job group parity seq).bytes.take kVideoHeaderBytes ++ payload = _
  rw [parityShell_bytes, List.take_left' (length_writeVideoHeader _)]

theorem length_sourceFragment (data : List UInt8) (symbol_bytes i : ℕ) :
    (sourceFragment data symbol_bytes i).length =
      min symbol_bytes (data.length - i * symbol_bytes) := by
  rw [sourceFragment, List.length_take, List.length_drop]

/-! ## The batch -/

/-- Datagram `i` once the parity has been filled in. -/
def finalItem (job : FrameJob) (parity : List (List UInt8)) (seq : UInt16) (i : ℕ) : QueueItem :=
  if i < job.total_fragments.toNat then planItem job i seq
  else writePayload (planItem job i seq) (some (parity.getD (i - job.total_fragments.toNat) []))

/-- `buildParityInto` writes the payloads of `buildParity` into the shells, in their order. -/
theorem finishBatch_eq {job : FrameJob} (hdata : job.data.length ≠ 0)
    (hpayload : 0 < job.max_payload)
    (hgranted : job.fec_enabled = true →
      GrantedParams job.total_fragments job.groups job.r_per_group) (seq : UInt16) :
    finishBatch job ((List.range (job.total_fragments.toNat + job.parityCount)).map
        fun i => planItem job i (seq + UInt16.ofNat i)) =
      (List.range (job.total_fragments.toNat + job.parityCount)).map
        (fun i => finalItem job (buildParity job.data job.total_fragments job.groups
          job.r_per_group job.max_payload) (seq + UInt16.ofNat i) i) ++ [groupEnd job] := by
  simp only [finishBatch]
  congr 1
  rw [List.range_add, List.map_append, List.map_append, List.map_map, List.map_map,
    List.take_left' (by simp), List.drop_left' (by simp)]
  have hsources : (List.range job.total_fragments.toNat).map
        (fun i => planItem job i (seq + UInt16.ofNat i)) =
      (List.range job.total_fragments.toNat).map
        (fun i => finalItem job (buildParity job.data job.total_fragments job.groups
          job.r_per_group job.max_payload) (seq + UInt16.ofNat i) i) := by
    refine List.map_congr_left fun i hi => ?_
    rw [finalItem, if_pos (List.mem_range.mp hi)]
  rw [hsources]
  congr 1
  unfold FrameJob.parityCount
  cases henabled : job.fec_enabled with
  | false => rfl
  | true =>
    obtain ⟨htotal, hgroups, hr⟩ := hgranted henabled
    obtain ⟨hfill, hlength, -⟩ := buildParityInto_zeroed hdata htotal hgroups hr hpayload
    rw [if_pos rfl, if_pos rfl]
    -- the pointers address zeroed payloads, one per shell
    have hpointers : ((List.range (job.groups.toNat * job.r_per_group.toNat)).map
        ((fun i => planItem job i (seq + UInt16.ofNat i)) ∘
          (job.total_fragments.toNat + ·))).map payloadOf =
        List.replicate (job.groups.toNat * job.r_per_group.toNat)
          (some (List.replicate job.max_payload 0)) := by
      rw [List.map_map, List.eq_replicate_iff]
      refine ⟨by simp, fun payload hmem => ?_⟩
      obtain ⟨k, -, rfl⟩ := List.mem_map.mp hmem
      simp only [Function.comp_apply, planItem, Nat.not_lt.mpr (Nat.le_add_right _ k), if_false]
      exact payloadOf_parityShell _ _ _ _
    unfold fillShells
    rw [hpointers, hfill]
    refine List.ext_getElem? fun k => ?_
    rw [List.getElem?_zipWith, List.getElem?_map, List.getElem?_map, List.getElem?_map]
    rcases Nat.lt_or_ge k (job.groups.toNat * job.r_per_group.toNat) with hk | hk
    · have hparity := List.getElem?_eq_getElem (hlength ▸ hk :
        k < (buildParity job.data job.total_fragments job.groups job.r_per_group
          job.max_payload).length)
      rw [List.getElem?_range hk, hparity]
      simp [finalItem, List.getD_eq_getElem?_getD, hparity]
    · rw [List.getElem?_eq_none (by simpa using hk)]
      rfl

/-! ## Every datagram decodes -/

/-- A source datagram. -/
theorem sourceItem_decodes {input : FrameInput} (h : input.Admissible) (frameId : UInt32)
    (firstSeq : UInt16) {i : ℕ} (hi : i < input.fragments) :
    DatagramDecodes input frameId firstSeq i
      (sourceItem (input.job frameId) i (firstSeq + UInt16.ofNat i))
      (sourceHeader (input.job frameId) i (firstSeq + UInt16.ofNat i))
      (sourceFragment input.frame.data input.config.max_payload i) := by
  have hbuilt := sourceItem_bytes (input.job frameId) i (firstSeq + UInt16.ofNat i)
  have hoffset := (h.lt_fragments_iff i).mp hi
  have hlen := length_sourceFragment input.frame.data input.config.max_payload i
  have hfragments := h.fragments_le
  have hpayload := h.payload_le
  have hsize := h.size_lt
  refine ⟨rfl, rfl, rfl, rfl, ?_, rfl, rfl, hbuilt, ?_, rfl, rfl, rfl, rfl, ?_, h.total_toNat,
    ?_, ?_, rfl, rfl, ?_⟩
  · show false = _
    rw [eq_comm, decide_eq_false_iff_not]
    omega
  · rw [hbuilt]
    exact decodeVideoPacket_writeVideoHeader _ _
  · show (UInt16.ofNat i).toNat = i
    rw [UInt16.toNat_ofNat', Nat.mod_eq_of_lt (by omega)]
  · show (UInt16.ofNat (min input.config.max_payload _)).toNat = _
    rw [UInt16.toNat_ofNat', hlen]
    exact Nat.mod_eq_of_lt (by omega)
  · show (UInt32.ofNat input.frame.data.length).toNat = _
    rw [UInt32.toNat_ofNat', Nat.mod_eq_of_lt (by omega)]
  · -- only the last fragment may be short: the next one has a byte too
    intro hlast
    have hnext := (h.lt_fragments_iff (i + 1)).mp (by omega)
    rw [Nat.succ_mul] at hnext
    rw [hlen]
    omega

/-- A parity datagram after the fill. -/
theorem parityItem_decodes {input : FrameInput} (h : input.Admissible) (frameId : UInt32)
    (firstSeq : UInt16) (hgranted : input.params.1 = true) {k : ℕ} (hk : k < input.parityCount)
    {payload : List UInt8} (hlen : payload.length = input.config.max_payload) :
    DatagramDecodes input frameId firstSeq (input.fragments + k)
      (writePayload (parityShell (input.job frameId) (k % input.params.2.1.toNat)
        (k / input.params.2.1.toNat) (firstSeq + UInt16.ofNat (input.fragments + k)))
        (some payload))
      (parityHeader (input.job frameId) (k % input.params.2.1.toNat)
        (k / input.params.2.1.toNat) (firstSeq + UInt16.ofNat (input.fragments + k)))
      payload := by
  have hbuilt := writePayload_parityShell_bytes (input.job frameId) (k % input.params.2.1.toNat)
    (k / input.params.2.1.toNat) (firstSeq + UInt16.ofNat (input.fragments + k)) payload
  have hparams : GrantedParams (UInt16.ofNat input.fragments) input.params.2.1 input.params.2.2 :=
    fecParams_granted hgranted
  have hfragments : input.fragments < 256 := h.total_toNat ▸ hparams.total_lt
  rw [FrameInput.parityCount, if_pos hgranted] at hk
  have hbound : k < 255 * 255 :=
    hk.trans_le (Nat.mul_le_mul (Nat.le_of_lt_succ (UInt8.toNat_lt _))
      (Nat.le_of_lt_succ (UInt8.toNat_lt _)))
  have hpayload := h.payload_le
  have hsize := h.size_lt
  refine ⟨rfl, rfl, rfl, rfl, ?_, rfl, ?_, hbuilt, ?_, rfl, rfl, rfl, rfl, ?_, h.total_toNat,
    ?_, ?_, ?_, rfl, fun _ => hlen⟩
  · show true = _
    rw [eq_comm, decide_eq_true_eq]
    omega
  · rw [hbuilt, List.length_append, hlen]
    show ((parityShell (input.job frameId) _ _ _).bytes).length = _
    rw [parityShell_bytes, List.length_append, List.length_replicate, length_writeVideoHeader]
    rfl
  · rw [hbuilt]
    exact decodeVideoPacket_writeVideoHeader _ _
  · -- `n + group + parity * g` is the position: no index wraps at 16 bits
    show (UInt16.ofNat ((UInt16.ofNat input.fragments).toNat + k % input.params.2.1.toNat +
      k / input.params.2.1.toNat * input.params.2.1.toNat)).toNat = _
    have hindex := Nat.mod_add_div' k input.params.2.1.toNat
    rw [h.total_toNat, Nat.add_assoc, hindex, UInt16.toNat_ofNat', Nat.mod_eq_of_lt (by omega)]
  · show (UInt16.ofNat input.config.max_payload).toNat = _
    rw [UInt16.toNat_ofNat', hlen, Nat.mod_eq_of_lt (by omega)]
  · show (UInt32.ofNat input.frame.data.length).toNat = _
    rw [UInt32.toNat_ofNat', Nat.mod_eq_of_lt (by omega)]
  · rw [if_pos hgranted]
    rfl

/-! ## Whole frames and runs -/

section Batch

variable {input : FrameInput}

/-- The payloads of the parity datagrams of a frame. -/
private def parityOf (input : FrameInput) : List (List UInt8) :=
  buildParity input.frame.data (UInt16.ofNat input.fragments) input.params.2.1
    input.params.2.2 input.config.max_payload

/-- The header of datagram `i`. -/
private def finalHeader (input : FrameInput) (frameId : UInt32) (firstSeq : UInt16) (i : ℕ) :
    VideoPacketHeaderV2 :=
  if i < input.fragments then sourceHeader (input.job frameId) i (firstSeq + UInt16.ofNat i)
  else parityHeader (input.job frameId) ((i - input.fragments) % input.params.2.1.toNat)
    ((i - input.fragments) / input.params.2.1.toNat) (firstSeq + UInt16.ofNat i)

/-- The payload of datagram `i`. -/
private def finalPayload (input : FrameInput) (i : ℕ) : List UInt8 :=
  if i < input.fragments then sourceFragment input.frame.data input.config.max_payload i
  else (parityOf input).getD (i - input.fragments) []

private theorem finalPayload_parity (input : FrameInput) (k : ℕ) :
    finalPayload input (input.fragments + k) = (parityOf input).getD k [] := by
  rw [finalPayload, if_neg (Nat.not_lt.mpr (Nat.le_add_right _ k)), Nat.add_sub_cancel_left]

private theorem parityOf_spec (h : input.Admissible) (hparams : input.params.1 = true) :
    (parityOf input).length = input.parityCount ∧
      ∀ payload ∈ parityOf input, payload.length = input.config.max_payload := by
  have hdata : input.frame.data.length ≠ 0 :=
    fun hzero => h.nonempty (List.length_eq_zero_iff.mp hzero)
  obtain ⟨htotal, hgroups, hr⟩ := fecParams_granted hparams
  obtain ⟨-, hlength, hpayload⟩ := buildParityInto_zeroed hdata htotal hgroups hr h.payload_pos
  rw [FrameInput.parityCount, if_pos hparams]
  exact ⟨hlength, hpayload⟩

/-- Only a frame with the parameters granted has positions behind its fragments. -/
private theorem granted_of_lt_parityCount {k : ℕ} (hk : k < input.parityCount) :
    input.params.1 = true := by
  by_contra hnot
  rw [FrameInput.parityCount, if_neg hnot] at hk
  exact Nat.not_lt_zero k hk

/-- Every datagram of the batch. -/
private theorem finalItem_decodes (h : input.Admissible) (frameId : UInt32)
    (firstSeq : UInt16) {i : ℕ} (hi : i < input.fragments + input.parityCount) :
    DatagramDecodes input frameId firstSeq i
      (finalItem (input.job frameId) (parityOf input) (firstSeq + UInt16.ofNat i) i)
      (finalHeader input frameId firstSeq i) (finalPayload input i) := by
  have htotal : (input.job frameId).total_fragments.toNat = input.fragments := h.total_toNat
  unfold finalItem planItem finalHeader finalPayload
  rw [htotal]
  -- a source datagram keeps its payload, a parity shell gets the computed one
  rcases Nat.lt_or_ge i input.fragments with hsource | hparity
  · simp only [if_pos hsource]
    exact sourceItem_decodes h frameId firstSeq hsource
  · obtain ⟨k, rfl⟩ := Nat.exists_eq_add_of_le hparity
    have hk : k < input.parityCount := by omega
    have hparams := granted_of_lt_parityCount hk
    obtain ⟨hlength, hpayload⟩ := parityOf_spec h hparams
    have hklen : k < (parityOf input).length := hlength.symm ▸ hk
    have hgetD : (parityOf input).getD k [] = (parityOf input)[k] := by
      simp [List.getD_eq_getElem?_getD, hklen]
    simp only [Nat.not_lt.mpr hparity, if_false, Nat.add_sub_cancel_left, hgetD]
    exact parityItem_decodes h frameId firstSeq hparams hk (hpayload _ (List.getElem_mem hklen))

/-- The source payloads are the frame, cut into pieces. -/
private theorem flatten_finalPayload (h : input.Admissible) :
    ((List.range input.fragments).map (finalPayload input)).flatten = input.frame.data := by
  have hsources : (List.range input.fragments).map (finalPayload input) =
      (List.range input.fragments).map
        (sourceFragment input.frame.data input.config.max_payload) :=
    List.map_congr_left fun i hi => if_pos (List.mem_range.mp hi)
  rw [hsources]
  exact flatten_sourceFragments h.size_le

/-- The payloads behind them are the parity. -/
private theorem map_finalPayload_parity (h : input.Admissible) (hparams : input.params.1 = true) :
    (List.range input.parityCount).map (fun k => finalPayload input (input.fragments + k)) =
      parityOf input := by
  obtain ⟨hlength, -⟩ := parityOf_spec h hparams
  refine List.ext_getElem? fun k => ?_
  rw [List.getElem?_map]
  -- entry by entry, and no entry behind the last
  rcases Nat.lt_or_ge k input.parityCount with hk | hk
  · have hentry : (parityOf input)[k]? = some (parityOf input)[k] :=
      List.getElem?_eq_getElem (hlength.symm ▸ hk)
    rw [List.getElem?_range hk, Option.map_some, finalPayload_parity,
      List.getD_eq_getElem?_getD, hentry]
    rfl
  · rw [List.getElem?_eq_none (by simpa using hk)]
    exact (List.getElem?_eq_none (hlength.trans_le hk)).symm

/-- The batch of one call. -/
theorem finishBatch_frameBatch (h : input.Admissible) (frameId : UInt32) (firstSeq : UInt16) :
    FrameBatch input frameId firstSeq
      (finishBatch (input.job frameId)
        (fetchAll (datagramPlan (input.job frameId)) firstSeq).2) := by
  have hdata : input.frame.data.length ≠ 0 :=
    fun hzero => h.nonempty (List.length_eq_zero_iff.mp hzero)
  have htotal : (input.job frameId).total_fragments.toNat = input.fragments := h.total_toNat
  have hcount : (input.job frameId).parityCount = input.parityCount := rfl
  have hbatch := @finishBatch_eq (input.job frameId) hdata h.payload_pos
    (fun hparams => fecParams_granted hparams) firstSeq
  rw [datagramPlan_eq, fetchAll_map_range, hbatch]
  -- the datagrams by their place, then the group end
  refine ⟨_, groupEnd (input.job frameId), finalHeader input frameId firstSeq,
    finalPayload input, rfl, ⟨rfl, rfl, rfl⟩, ?_, ?_, flatten_finalPayload h,
    map_finalPayload_parity h⟩
  · rw [List.length_map, List.length_range, htotal, hcount]
  · intro i item hitem
    rw [List.getElem?_map, htotal, hcount] at hitem
    obtain ⟨j, hj, rfl⟩ := Option.map_eq_some_iff.mp hitem
    obtain ⟨hlt, rfl⟩ := List.getElem?_eq_some_iff.mp hj
    rw [List.length_range] at hlt
    rw [List.getElem_range]
    exact finalItem_decodes h frameId firstSeq hlt

end Batch

/-- Frame fragmentation is exactly reassemblable, over any sequence of frames. -/
theorem processFrames_reassemblable (counters : FrameCounters) (inputs : List FrameInput)
    (h : ∀ input ∈ inputs, input.Admissible) :
    FrameBatches counters inputs (processFrames counters inputs).2 := by
  induction inputs generalizing counters with
  | nil => rfl
  | cons input inputs ih =>
    have hinput : input.Admissible := h input List.mem_cons_self
    have hpositive : input.config.max_payload ≠ 0 := by
      have := hinput.payload_pos
      omega
    -- the frame fetched one sequence number for each of its datagrams
    have hseq : (fetchAll (datagramPlan (input.job counters.frame_id_))
        counters.packet_seq_num_).1 =
        counters.packet_seq_num_ + UInt16.ofNat (input.fragments + input.parityCount) := by
      rw [datagramPlan_eq, fetchAll_map_range]
      show _ + UInt16.ofNat ((UInt16.ofNat input.fragments).toNat + input.parityCount) = _
      rw [hinput.total_toNat]
    have hrest := ih
      { frame_id_ := counters.frame_id_ + 1
        packet_seq_num_ := counters.packet_seq_num_ +
          UInt16.ofNat (input.fragments + input.parityCount) }
      fun other hmem => h other (List.mem_cons_of_mem _ hmem)
    refine ⟨_, _, ?_, finishBatch_frameBatch hinput counters.frame_id_ counters.packet_seq_num_,
      hrest⟩
    rw [← hseq]
    simp only [processFrames, processFrame, if_neg hpositive]
    rfl

/-- Two frames in turn: one with a short last fragment, and a keyframe of nine fragments,
for which the shipped table grants parity. -/
theorem processFrames_reassemblable_two_frames :
    FrameBatches { frame_id_ := 7, packet_seq_num_ := 65534 }
      [⟨⟨3, some shippedTable, 1⟩, { data := [1, 2, 3, 4, 5, 6, 7] }, 10⟩,
        ⟨⟨1, some shippedTable, 1⟩, { data := [1, 2, 3, 4, 5, 6, 7, 8, 9], keyframe := true }, 20⟩]
      (processFrames { frame_id_ := 7, packet_seq_num_ := 65534 }
        [⟨⟨3, some shippedTable, 1⟩, { data := [1, 2, 3, 4, 5, 6, 7] }, 10⟩,
          ⟨⟨1, some shippedTable, 1⟩, { data := [1, 2, 3, 4, 5, 6, 7, 8, 9], keyframe := true },
            20⟩]).2 := by
  refine processFrames_reassemblable _ _ fun input hmem => ?_
  simp only [List.mem_cons, List.not_mem_nil, or_false] at hmem
  rcases hmem with rfl | rfl
  · exact ⟨by simp, by decide, by decide, by decide⟩
  · exact ⟨by simp, by decide, by decide, by decide⟩

end TeleopBridge.Udp
