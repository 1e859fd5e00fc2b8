import TeleopBridge.Udp.FrameReassembly
import TeleopBridge.Udp.SendOrder
import TeleopBridge.Udp.UdpManager

/-!
# What the FEC Thread Generates

A batch that the FEC thread pushes is determined by its job and by the sequence numbers
that the thread fetched for it. `Generated` relates a state of the manager to the frames
pushed so far and to the numbers of the frame in progress; it holds after any run,
whatever the other threads do.

## Key Result

`UdpManager.run_generated`: after any run the video items that entered the send queue are
the pushed batches in order, and the fetched numbers are those of the batches, then those
of the frame in progress.
-/

namespace TeleopBridge.Udp

open Support SendQueue PacketCodec

/-- A video item. -/
def isVideo (item : QueueItem) : Bool := item.stream = .Video

/-- The frame id and the sequence number of a video datagram, as the queue item has them. -/
def itemKey (item : QueueItem) : UInt32 × UInt16 := (item.group_id, item.packet_seq)

/-- The frame id and the sequence number that a receiver reads from a video datagram. -/
def wireKey (item : QueueItem) : Option (UInt32 × UInt16) :=
  (decodeVideoPacket item.bytes).map fun packet => (packet.1.FrameId, packet.1.PacketSeqNum)

/-! ## One frame -/

/-- A datagram of a frame. -/
structure FrameDatagram (frameId : UInt32) (item : QueueItem) : Prop where
  kind : item.kind = .Datagram
  stream : item.stream = .Video
  group_id : item.group_id = frameId
  priority : item.priority = kVideoPriority
  built : ∃ header payload, item.bytes = writeVideoHeader header ++ payload ∧
    header.FrameId = frameId ∧ header.PacketSeqNum = item.packet_seq

theorem FrameDatagram.wireKey_eq {frameId : UInt32} {item : QueueItem}
    (h : FrameDatagram frameId item) : wireKey item = some (itemKey item) := by
  obtain ⟨header, payload, hbytes, hframe, hseq⟩ := h.built
  simp [wireKey, itemKey, hbytes, decodeVideoPacket_writeVideoHeader, hframe, hseq, h.group_id]

/-- Writing through the payload pointer of a datagram keeps its header. -/
theorem FrameDatagram.writePayload {frameId : UInt32} {item : QueueItem}
    (h : FrameDatagram frameId item) (payload : Option (List UInt8)) :
    FrameDatagram frameId (writePayload item payload) := by
  obtain ⟨header, old, hbytes, hframe, hseq⟩ := h.built
  refine ⟨h.kind, h.stream, h.group_id, h.priority, header, payload.getD [], ?_, hframe, hseq⟩
  have hheader : item.bytes.take kVideoHeaderBytes = writeVideoHeader header := by
    rw [hbytes, List.take_left' (length_writeVideoHeader header)]
  simp only [TeleopBridge.Udp.writePayload, hheader]

/-- The item's stamp is not on the wire. -/
theorem FrameDatagram.stamp {frameId : UInt32} {item : QueueItem} (h : FrameDatagram frameId item)
    (origin : ℕ) : FrameDatagram frameId (UdpManager.stamp origin item) :=
  ⟨h.kind, h.stream, h.group_id, h.priority, h.built⟩

/-- A frame as the FEC thread built it: its job, when it was accepted, and the sequence
numbers of its datagrams. -/
structure BuiltFrame where
  job : FrameJob
  origin : ℕ
  seqs : List UInt16

/-- Each datagram of a plan with its sequence number. -/
def buildAll (plan : List (UInt16 → QueueItem)) (seqs : List UInt16) : List QueueItem :=
  List.zipWith (fun build seq => build seq) plan seqs

/-- The batch that `processFrame` pushes. -/
def BuiltFrame.batch (frame : BuiltFrame) : List QueueItem :=
  UdpManager.frameBatch frame.job frame.origin (buildAll (datagramPlan frame.job) frame.seqs)

/-- The frame id with each sequence number. -/
def frameKeys (job : FrameJob) (seqs : List UInt16) : List (UInt32 × UInt16) :=
  seqs.map fun seq => (job.current_frame_id, seq)

/-- A built packet starts with its header. -/
theorem buildVideoPacket_eq (header : VideoPacketHeaderV2) (payload : Option (List UInt8))
    (payload_bytes : ℕ) :
    ∃ rest, buildVideoPacket header payload payload_bytes = writeVideoHeader header ++ rest := by
  unfold buildVideoPacket
  cases payload with
  | none => exact ⟨[], (List.append_nil _).symm⟩
  | some payload =>
    simp only
    -- a payload of no bytes is not appended
    split_ifs
    · exact ⟨_, rfl⟩
    · exact ⟨[], (List.append_nil _).symm⟩

/-- Every datagram of a plan belongs to the frame and takes the number it is given. -/
theorem datagramPlan_spec {job : FrameJob} {build : UInt16 → QueueItem}
    (hbuild : build ∈ datagramPlan job) (seq : UInt16) :
    FrameDatagram job.current_frame_id (build seq) ∧ (build seq).packet_seq = seq := by
  unfold datagramPlan at hbuild
  -- a source datagram or a parity shell, each with the number it fetched
  rcases List.mem_append.mp hbuild with hsource | hparity
  · obtain ⟨index, -, rfl⟩ := List.mem_map.mp hsource
    obtain ⟨payload, hbytes⟩ := buildVideoPacket_eq (sourceHeader job index seq)
      (some (job.data.drop (index * job.max_payload)))
      (min job.max_payload (job.data.length - index * job.max_payload))
    exact ⟨⟨rfl, rfl, rfl, rfl, _, payload, hbytes, rfl, rfl⟩, rfl⟩
  · split_ifs at hparity
    · obtain ⟨parity, -, hparity⟩ := List.mem_flatMap.mp hparity
      obtain ⟨group, -, rfl⟩ := List.mem_map.mp hparity
      exact ⟨⟨rfl, rfl, rfl, rfl, parityHeader job group parity seq, _, rfl, rfl, rfl⟩, rfl⟩
    · exact absurd hparity List.not_mem_nil

theorem buildAll_spec {job : FrameJob} {plan : List (UInt16 → QueueItem)} {seqs : List UInt16}
    (hplan : ∀ build ∈ plan, build ∈ datagramPlan job) :
    (∀ item ∈ buildAll plan seqs, FrameDatagram job.current_frame_id item) ∧
      (buildAll plan seqs).map itemKey <+: frameKeys job seqs := by
  induction plan generalizing seqs with
  | nil => simp [buildAll]
  | cons build plan ih =>
    cases seqs with
    | nil => simp [buildAll]
    | cons seq seqs =>
      obtain ⟨hitems, hkeys⟩ := @ih seqs fun b hb => hplan b (List.mem_cons_of_mem _ hb)
      obtain ⟨hitem, hseq⟩ := datagramPlan_spec (hplan build List.mem_cons_self) seq
      constructor
      · intro item hmem
        rcases List.mem_cons.mp hmem with rfl | hrest
        · exact hitem
        · exact hitems item hrest
      · have hkey : itemKey (build seq) = (job.current_frame_id, seq) :=
          Prod.ext hitem.group_id hseq
        simp only [buildAll, List.zipWith_cons_cons, List.map_cons, frameKeys, hkey]
        exact (List.prefix_cons_inj _).mpr hkeys

/-- One more number builds the next datagram of the plan. -/
theorem buildAll_append_singleton {plan : List (UInt16 → QueueItem)} {seqs : List UInt16}
    (hlt : seqs.length < plan.length) (seq : UInt16) :
    buildAll plan (seqs ++ [seq]) = buildAll plan seqs ++ [plan[seqs.length] seq] := by
  induction seqs generalizing plan with
  | nil =>
    cases plan with
    | nil => exact absurd hlt (Nat.not_lt_zero _)
    | cons build plan => simp [buildAll]
  | cons first seqs ih =>
    cases plan with
    | nil => exact absurd hlt (Nat.not_lt_zero _)
    | cons build plan =>
      have hrest := ih (Nat.lt_of_succ_lt_succ hlt)
      simp only [buildAll] at hrest
      simp [buildAll, hrest]

/-- `writePayload` leaves the keys, and each item comes from the shell at its place. -/
theorem zipWith_writePayload_spec (shells : List QueueItem)
    (payloads : List (Option (List UInt8))) :
    (∀ item ∈ List.zipWith writePayload shells payloads, ∃ shell ∈ shells, ∃ payload,
      item = writePayload shell payload) ∧
      (List.zipWith writePayload shells payloads).map itemKey <+: shells.map itemKey := by
  induction shells generalizing payloads with
  | nil => simp
  | cons first shells ih =>
    cases payloads with
    -- fewer payloads than shells: the batch ends early
    | nil => simp
    | cons payload payloads =>
      obtain ⟨hitems, hkeys⟩ := ih payloads
      constructor
      · intro item hmem
        rcases List.mem_cons.mp hmem with rfl | hrest
        · exact ⟨first, List.mem_cons_self, payload, rfl⟩
        · obtain ⟨shell, hshell, hitem⟩ := hitems item hrest
          exact ⟨shell, List.mem_cons_of_mem _ hshell, hitem⟩
      · exact (List.prefix_cons_inj _).mpr hkeys

/-- Filling the shells changes their payload bytes only. -/
theorem fillShells_spec {job : FrameJob} {shells : List QueueItem} :
    (∀ item ∈ fillShells job shells, ∃ shell ∈ shells, ∃ payload,
      item = writePayload shell payload) ∧
      (fillShells job shells).map itemKey <+: shells.map itemKey :=
  zipWith_writePayload_spec shells _

/-- The batch of a frame: its datagrams, in fetch order, and then its `GroupEnd`. -/
theorem frameBatch_shape {job : FrameJob} {origin : ℕ} {built : List QueueItem}
    (hbuilt : ∀ item ∈ built, FrameDatagram job.current_frame_id item) :
    ∃ datagrams closing, UdpManager.frameBatch job origin built = datagrams ++ [closing] ∧
      ClosesGroup job.current_frame_id closing ∧ closing.priority = kVideoPriority ∧
      (∀ item ∈ datagrams, FrameDatagram job.current_frame_id item) ∧
      datagrams.map itemKey <+: built.map itemKey := by
  have hstamp : ∀ items : List QueueItem,
      (items.map (UdpManager.stamp origin)).map itemKey = items.map itemKey := by
    intro items
    rw [List.map_map]
    rfl
  -- filling the shells keeps their headers and their places
  have hfill : (∀ item ∈ (if job.fec_enabled then
        fillShells job (built.drop job.total_fragments.toNat)
        else built.drop job.total_fragments.toNat), FrameDatagram job.current_frame_id item) ∧
      ((if job.fec_enabled then fillShells job (built.drop job.total_fragments.toNat)
        else built.drop job.total_fragments.toNat).map itemKey) <+:
        (built.drop job.total_fragments.toNat).map itemKey := by
    split_ifs
    · obtain ⟨hitems, hkeys⟩ := @fillShells_spec job (built.drop job.total_fragments.toNat)
      refine ⟨fun item hitem => ?_, hkeys⟩
      obtain ⟨shell, hshell, payload, rfl⟩ := hitems item hitem
      exact (hbuilt shell (List.mem_of_mem_drop hshell)).writePayload payload
    · exact ⟨fun item hitem => hbuilt item (List.mem_of_mem_drop hitem), List.prefix_refl _⟩
  unfold UdpManager.frameBatch finishBatch
  rw [List.map_append]
  refine ⟨_, _, rfl, ⟨rfl, rfl, rfl⟩, rfl, ?_, ?_⟩
  · intro item hitem
    obtain ⟨raw, hraw, rfl⟩ := List.mem_map.mp hitem
    have hdatagram : FrameDatagram job.current_frame_id raw := by
      rcases List.mem_append.mp hraw with hsource | hparity
      · exact hbuilt raw (List.mem_of_mem_take hsource)
      · exact hfill.1 raw hparity
    exact hdatagram.stamp origin
  · have hsplit : built.map itemKey = (built.take job.total_fragments.toNat).map itemKey ++
        (built.drop job.total_fragments.toNat).map itemKey := by
      rw [← List.map_append, List.take_append_drop]
    rw [hstamp, List.map_append, hsplit]
    exact (List.prefix_append_right_inj _).mpr hfill.2

theorem BuiltFrame.batch_shape (frame : BuiltFrame) :
    ∃ datagrams closing, frame.batch = datagrams ++ [closing] ∧
      ClosesGroup frame.job.current_frame_id closing ∧ closing.priority = kVideoPriority ∧
      (∀ item ∈ datagrams, FrameDatagram frame.job.current_frame_id item) ∧
      datagrams.map itemKey <+: frameKeys frame.job frame.seqs := by
  obtain ⟨hitems, hkeys⟩ :=
    @buildAll_spec frame.job (datagramPlan frame.job) frame.seqs fun _ hmem => hmem
  obtain ⟨datagrams, closing, hbatch, hclosing, hpriority, hdatagrams, hsub⟩ :=
    @frameBatch_shape frame.job frame.origin _ hitems
  exact ⟨datagrams, closing, hbatch, hclosing, hpriority, hdatagrams, hsub.trans hkeys⟩

/-- Every item of a batch is a video item of the video class. -/
theorem BuiltFrame.mem_batch {frame : BuiltFrame} {item : QueueItem} (hitem : item ∈ frame.batch) :
    isVideo item = true ∧ item.priority = kVideoPriority := by
  obtain ⟨datagrams, closing, hbatch, hclosing, hpriority, hdatagrams, -⟩ := frame.batch_shape
  rw [hbatch] at hitem
  rcases List.mem_append.mp hitem with hdatagram | hend
  · exact ⟨by simp [isVideo, (hdatagrams item hdatagram).stream],
      (hdatagrams item hdatagram).priority⟩
  · cases List.mem_singleton.mp hend
    exact ⟨by simp [isVideo, hclosing.stream], hpriority⟩

theorem normalizeItem_of_videoPriority {item : QueueItem} (h : item.priority = kVideoPriority) :
    normalizeItem item = item := by
  have hnormal : normalizePriority item.priority = item.priority := by
    rw [h]
    rfl
  rw [normalizeItem, hnormal]

/-! ## The invariant -/

namespace UdpManager

/-- What the FEC thread has built of its frame from the numbers it fetched. -/
def InProgress : FecThread → List UInt16 → Prop
  | .building job _ plan packet_batch, seqs =>
      packet_batch = buildAll (datagramPlan job) seqs ∧
        plan = (datagramPlan job).drop seqs.length ∧ seqs.length ≤ (datagramPlan job).length
  | _, seqs => seqs = []

/-- The keys of the frame in progress. -/
def progressKeys : FecThread → List UInt16 → List (UInt32 × UInt16)
  | .building job _ _ _, seqs => frameKeys job seqs
  | _, _ => []

/-- The pushed frames and the numbers of the frame in progress account for everything that
was fetched and for every video item that entered the send queue. -/
structure Generated (s : UdpManager) (frames : List BuiltFrame) (seqs : List UInt16) : Prop where
  complete : ∀ frame ∈ frames, frame.seqs.length = (datagramPlan frame.job).length
  batches : s.batches = frames.map BuiltFrame.batch
  progress : InProgress s.fec seqs
  generated : s.generated =
    frames.flatMap (fun frame => frameKeys frame.job frame.seqs) ++ progressKeys s.fec seqs
  inserted : s.send.inserted.filter isVideo = s.batches.flatten
  running : s.send.queue.running_ = true
  counter : s.packet_seq_num_ = UInt16.ofNat s.fetchedSinceStore
  numbered : (List.range s.fetchedSinceStore).map UInt16.ofNat <:+ s.generated.map Prod.snd

/-- A step that leaves the FEC thread, its counter and the logs alone. -/
theorem Generated.frame {s t : UdpManager} {frames : List BuiltFrame} {seqs : List UInt16}
    (h : s.Generated frames seqs) (hfec : t.fec = s.fec) (hbatches : t.batches = s.batches)
    (hgenerated : t.generated = s.generated) (hcounter : t.packet_seq_num_ = s.packet_seq_num_)
    (hfetched : t.fetchedSinceStore = s.fetchedSinceStore)
    (hinserted : t.send.inserted.filter isVideo = s.send.inserted.filter isVideo)
    (hrunning : t.send.queue.running_ = s.send.queue.running_) : t.Generated frames seqs where
  complete := h.complete
  batches := hbatches.trans h.batches
  progress := by
    rw [hfec]
    exact h.progress
  generated := by
    rw [hgenerated, hfec]
    exact h.generated
  inserted := by
    rw [hinserted, hbatches]
    exact h.inserted
  running := hrunning.trans h.running
  counter := by
    rw [hcounter, hfetched]
    exact h.counter
  numbered := by
    rw [hgenerated, hfetched]
    exact h.numbered

/-- The FEC thread starts or leaves a frame with nothing fetched. -/
theorem Generated.switch {s t : UdpManager} {frames : List BuiltFrame} {seqs : List UInt16}
    (h : s.Generated frames seqs) (hold : progressKeys s.fec seqs = [])
    (hprogress : InProgress t.fec []) (hnew : progressKeys t.fec [] = [])
    (hbatches : t.batches = s.batches) (hgenerated : t.generated = s.generated)
    (hcounter : t.packet_seq_num_ = s.packet_seq_num_)
    (hfetched : t.fetchedSinceStore = s.fetchedSinceStore) (hsend : t.send = s.send) :
    t.Generated frames [] where
  complete := h.complete
  batches := hbatches.trans h.batches
  progress := hprogress
  generated := by rw [hgenerated, h.generated, hold, hnew]
  inserted := by
    rw [hsend, hbatches]
    exact h.inserted
  running := by
    rw [hsend]
    exact h.running
  counter := by
    rw [hcounter, hfetched]
    exact h.counter
  numbered := by
    rw [hgenerated, hfetched]
    exact h.numbered

/-- One fetch extends the frame in progress by its next number. -/
theorem Generated.fetch {s : UdpManager} {frames : List BuiltFrame} {seqs : List UInt16}
    (h : s.Generated frames seqs) {job : FrameJob} {origin : ℕ} {build : UInt16 → QueueItem}
    {plan : List (UInt16 → QueueItem)} {packet_batch : List QueueItem}
    (hfec : s.fec = .building job origin (build :: plan) packet_batch) :
    (s.fetchSeq job origin build plan packet_batch).Generated frames
      (seqs ++ [s.packet_seq_num_]) := by
  have hprogress := h.progress
  rw [hfec] at hprogress
  obtain ⟨hbatch, hplan, hle⟩ := hprogress
  -- a datagram is left to build, so its number is the one that the plan has next
  have hlt : seqs.length < (datagramPlan job).length := by
    by_contra hge
    rw [List.drop_eq_nil_of_le (by omega)] at hplan
    exact absurd hplan (List.cons_ne_nil _ _)
  have hsplit : (datagramPlan job).drop seqs.length =
      (datagramPlan job)[seqs.length] :: (datagramPlan job).drop (seqs.length + 1) :=
    List.drop_eq_getElem_cons hlt
  rw [hsplit] at hplan
  obtain ⟨hbuild, hrest⟩ := List.cons.inj hplan
  exact {
    complete := h.complete
    batches := h.batches
    progress := by
      refine ⟨?_, ?_, ?_⟩
      · rw [buildAll_append_singleton hlt, hbatch, hbuild]
      · simpa using hrest
      · simpa using hlt
    generated := by
      show s.generated ++ _ = _
      rw [h.generated, hfec]
      simp [progressKeys, frameKeys, fetchSeq]
    inserted := h.inserted
    running := h.running
    counter := by
      show s.packet_seq_num_ + 1 = UInt16.ofNat (s.fetchedSinceStore + 1)
      rw [h.counter, UInt16.ofNat_add]
      rfl
    numbered := by
      show (List.range (s.fetchedSinceStore + 1)).map UInt16.ofNat <:+ (s.generated ++ _).map _
      rw [List.range_succ, List.map_append, List.map_append, h.counter]
      obtain ⟨front, hfront⟩ := h.numbered
      exact ⟨front, by rw [← hfront, List.append_assoc]; rfl⟩ }

/-- The push hands the frame in progress over. -/
theorem Generated.push {s : UdpManager} {frames : List BuiltFrame} {seqs : List UInt16}
    (h : s.Generated frames seqs) {job : FrameJob} {origin : ℕ} {packet_batch : List QueueItem}
    (hfec : s.fec = .building job origin [] packet_batch) :
    (s.pushFrame job origin packet_batch).Generated
      (frames ++ [{ job := job, origin := origin, seqs := seqs }]) [] := by
  have hprogress := h.progress
  rw [hfec] at hprogress
  obtain ⟨hbatch, hplan, hle⟩ := hprogress
  let frame : BuiltFrame := { job := job, origin := origin, seqs := seqs }
  have hframe : frameBatch job origin packet_batch = frame.batch := by
    rw [hbatch]
    rfl
  have hlength : seqs.length = (datagramPlan job).length :=
    Nat.le_antisymm hle (List.drop_eq_nil_iff.mp hplan.symm)
  -- the items have the video priority already, so the queue stores them as they are
  have hnormal : (frameBatch job origin packet_batch).map normalizeItem = frame.batch := by
    rw [hframe]
    exact (List.map_congr_left fun item hitem =>
      normalizeItem_of_videoPriority (BuiltFrame.mem_batch hitem).2).trans (List.map_id _)
  have hvideo : frame.batch.filter isVideo = frame.batch :=
    List.filter_eq_self.mpr fun item hitem => (BuiltFrame.mem_batch hitem).1
  exact {
    complete := by
      intro other hother
      rcases List.mem_append.mp hother with hold | hnew
      · exact h.complete other hold
      · cases List.mem_singleton.mp hnew
        exact hlength
    batches := by
      show s.batches ++ [frameBatch job origin packet_batch] = _
      rw [h.batches, hframe, List.map_append]
      rfl
    progress := rfl
    generated := by
      show s.generated = _
      rw [h.generated, hfec]
      simp [progressKeys, pushFrame]
    inserted := by
      show List.filter isVideo (if s.send.queue.running_ then _ else _) = (s.batches ++ [_]).flatten
      rw [if_pos h.running, List.filter_append, h.inserted, hnormal, hvideo, hframe]
      simp
    running := (SendPath.running_pushBatch _ _).trans h.running
    counter := h.counter
    numbered := h.numbered }

theorem isVideo_stamp_item (config : UdpConfig) (packet : MediaPacket) (origin : ℕ) (seq : UInt16)
    (group_id : UInt32) :
    isVideo (normalizeItem (stamp origin (packet.item config seq group_id))) = false := by
  unfold MediaPacket.item
  cases packet.kind <;> rfl

/-- An audio or telemetry push inserts no video item. -/
theorem inserted_pushMedia (config : UdpConfig) (s : UdpManager) (origin : ℕ)
    (packet : MediaPacket) (seq : UInt16) (group_id : UInt32) :
    (s.pushMedia config origin packet seq group_id).send.inserted.filter isVideo =
        s.send.inserted.filter isVideo ∧
      (s.pushMedia config origin packet seq group_id).send.queue.running_ =
        s.send.queue.running_ := by
  unfold pushMedia SendPath.enqueued
  simp only
  split_ifs
  · exact ⟨rfl, rfl⟩
  · refine ⟨?_, SendPath.running_push _ _⟩
    simp [List.filter_append, isVideo_stamp_item]
  · exact ⟨rfl, SendPath.running_push _ _⟩

/-- The next access of a call leaves the FEC thread, its counter and the logs alone. -/
theorem Generated.call {s : UdpManager} {frames : List BuiltFrame} {seqs : List UInt16}
    (h : s.Generated frames seqs) (config : UdpConfig) (index : ℕ) (call : InFlight) :
    (s.advanceCall config index call).Generated frames seqs := by
  obtain ⟨origin, call⟩ := call
  cases call with
  | frame frame => exact h.frame rfl rfl rfl rfl rfl rfl rfl
  | media packet stage =>
    obtain ⟨kind, size, enqueue_steady_us, build⟩ := packet
    cases stage with
    | started => cases kind <;> exact h.frame rfl rfl rfl rfl rfl rfl rfl
    | numbered seq => cases kind <;> exact h.frame rfl rfl rfl rfl rfl rfl rfl
    | grouped seq group_id =>
      have hcalls :
          ({ s with calls := s.calls.eraseIdx index } : UdpManager).Generated frames seqs :=
        h.frame rfl rfl rfl rfl rfl rfl rfl
      obtain ⟨hinserted, hrunning⟩ := inserted_pushMedia config
        { s with calls := s.calls.eraseIdx index } origin
        { kind := kind, size := size, enqueue_steady_us := enqueue_steady_us, build := build }
        seq group_id
      unfold advanceCall
      refine hcalls.frame ?_ ?_ ?_ ?_ ?_ hinserted hrunning
      all_goals
        unfold pushMedia
        simp only
        split_ifs <;> rfl

/-- One step keeps the account, with the frames and numbers it adds. -/
theorem step_generated {config : UdpConfig} {s s' : UdpManager} {a : UdpAction}
    (h : ∃ frames seqs, s.Generated frames seqs) (hstep : s.step config a = some s') :
    ∃ frames seqs, s'.Generated frames seqs := by
  obtain ⟨frames, seqs, h⟩ := h
  cases step_moves hstep with
  | ignoreFrame | ignoreMedia => exact ⟨frames, seqs, h⟩
  | setHandshake | beginFrame | beginMedia | resetSession =>
    exact ⟨frames, seqs, h.frame rfl rfl rfl rfl rfl rfl rfl⟩
  | continueCall index call hcall => exact ⟨frames, seqs, h.call config index call⟩
  | takeFrame input rest hfec hqueue =>
    exact ⟨frames, [], h.switch (by rw [hfec]; rfl) rfl rfl rfl rfl rfl rfl rfl⟩
  | startFrame enqueue_steady_us input hfec =>
    refine ⟨frames, [], ?_⟩
    unfold startFrame
    split_ifs
    · -- no payload budget: the frame is dropped before it has a number
      exact h.switch (by rw [hfec]; rfl) rfl rfl rfl rfl rfl rfl rfl
    · exact h.switch (by rw [hfec]; rfl) ⟨by simp [buildAll], by simp, by simp⟩ rfl rfl rfl rfl
        rfl rfl
  | fetchSeq job origin build plan packet_batch hfec => exact ⟨frames, _, h.fetch hfec⟩
  | pushFrame job origin packet_batch hfec => exact ⟨_, [], h.push hfec⟩
  | sender senderStep s' hsender =>
    obtain ⟨send, hsend, rfl⟩ := Option.map_eq_some_iff.mp hsender
    obtain ⟨hinserted, hrunning⟩ := SendPath.senderStep_frame hsend
    exact ⟨frames, seqs, h.frame rfl rfl rfl rfl rfl (by rw [← hinserted]) hrunning⟩
  | continueReset s' hreset =>
    refine ⟨frames, seqs, ?_⟩
    unfold advanceReset at hreset
    split at hreset <;> cases hreset
    -- the store of the counter starts the count of fetches anew
    case h_5 => exact { h with counter := rfl, numbered := List.nil_suffix }
    all_goals exact h.frame rfl rfl rfl rfl rfl rfl rfl

theorem started_generated (config : UdpConfig) : (started config).Generated [] [] := by
  constructor <;> simp [started, InProgress, progressKeys, setLimits]

/-- After any run the FEC thread's account holds. -/
theorem run_generated {config : UdpConfig} {actions : List UdpAction} {t : UdpManager}
    (hrun : runSteps (step config) (started config) actions = some t) :
    ∃ frames seqs, t.Generated frames seqs :=
  runSteps_invariant (fun _ _ _ => step_generated) ⟨[], [], started_generated config⟩ hrun

end UdpManager

end TeleopBridge.Udp
