import TeleopBridge.Udp.FrameGeneration

/-!
# Order on the Wire

## Key Result

`wire_order`: a pop takes the most urgent class, a peek announces the pop, each class is
sent in insertion order whatever is evicted, cleared or requeued in between, and in a run
of the manager the video datagrams reach the socket frame by frame in the order in which
their sequence numbers were fetched.
-/

namespace TeleopBridge.Udp

open Support SendQueue

/-! ## Video on the wire -/

/-- The datagrams of one frame, then its `GroupEnd`. -/
def ClosedBatch (batch : List QueueItem) : Prop :=
  ∃ frameId datagrams closing, batch = datagrams ++ [closing] ∧ ClosesGroup frameId closing ∧
    ∀ item ∈ datagrams, FrameDatagram frameId item

/-- The video part of the wire. The sequence numbers come in fetch order, and those fetched
since the counter was last stored count up from 0. What the sender has handled consists of
one piece for each pushed batch, in order, and a batch ends with its `GroupEnd`. -/
structure VideoInOrder (t : UdpManager) : Prop where
  sent_generated : ((t.send.sent.filter isVideo).map wireKey).Sublist (t.generated.map some)
  numbered : (List.range t.fetchedSinceStore).map UInt16.ofNat <:+ t.generated.map Prod.snd
  frame_by_frame : ∃ pieces : List (List QueueItem),
    t.send.handled.filter isVideo = pieces.flatten ∧
      ∀ i (hi : i < pieces.length), pieces[i].Sublist (t.batches[i]?.getD [])
  closed : ∀ batch ∈ t.batches, ClosedBatch batch
  sent_handled : t.send.sent.Sublist t.send.handled

namespace UdpManager

theorem Generated.mem_batches {s : UdpManager} {frames : List BuiltFrame} {seqs : List UInt16}
    (h : s.Generated frames seqs) {item : QueueItem} (hitem : item ∈ s.batches.flatten) :
    ∃ frame ∈ frames, item ∈ frame.batch := by
  rw [h.batches] at hitem
  obtain ⟨batch, hbatch, hitem⟩ := List.mem_flatten.mp hitem
  obtain ⟨frame, hframe, rfl⟩ := List.mem_map.mp hbatch
  exact ⟨frame, hframe, hitem⟩

/-- The handled video items are a subsequence of the pushed batches: video is one class. -/
theorem Generated.handled_video {s : UdpManager} {frames : List BuiltFrame} {seqs : List UInt16}
    (h : s.Generated frames seqs) (horder : s.send.InOrder) :
    (s.send.handled.filter isVideo).Sublist s.batches.flatten := by
  have hhandled : s.send.handled.Sublist s.send.trail := by
    unfold SendPath.trail
    rw [List.append_assoc]
    exact List.sublist_append_left _ _
  have hclass : ∀ item ∈ s.send.handled, isVideo item = true →
      inClass kVideoPriority.toNat item = true := by
    intro item hmem hvideo
    have hinserted := horder.mem_inserted (hhandled.subset hmem)
    have hbatches : item ∈ s.batches.flatten := by
      rw [← h.inserted]
      exact List.mem_filter.mpr ⟨hinserted, hvideo⟩
    obtain ⟨frame, -, hframe⟩ := h.mem_batches hbatches
    simp only [inClass, priorityClass, (BuiltFrame.mem_batch hframe).2]
    rfl
  have hsplit : s.send.handled.filter isVideo =
      (s.send.handled.filter (inClass kVideoPriority.toNat)).filter isVideo := by
    rw [List.filter_filter]
    refine List.filter_congr fun item hmem => ?_
    cases hvideo : isVideo item with
    | false => rfl
    | true => rw [hclass item hmem hvideo, Bool.and_self]
  rw [hsplit, ← h.inserted]
  exact (((hhandled.filter _).trans (horder.classes _)).trans List.filter_sublist).filter _

/-- The datagrams of the pushed batches carry the fetched numbers, in fetch order. -/
theorem batches_keys (frames : List BuiltFrame) :
    ((((frames.map BuiltFrame.batch).flatten).filter fun item => item.kind = .Datagram).map
      itemKey).Sublist (frames.flatMap fun frame => frameKeys frame.job frame.seqs) := by
  induction frames with
  | nil => simp
  | cons frame frames ih =>
    obtain ⟨datagrams, closing, hbatch, hclosing, -, hdatagrams, hkeys⟩ := frame.batch_shape
    have hkept : frame.batch.filter (fun item => item.kind = .Datagram) = datagrams := by
      have hall : datagrams.filter (fun item => item.kind = .Datagram) = datagrams :=
        List.filter_eq_self.mpr fun item hitem => by simp [(hdatagrams item hitem).kind]
      rw [hbatch, List.filter_append, hall]
      simp [hclosing.kind]
    rw [List.map_cons, List.flatten_cons, List.filter_append, List.map_append, hkept,
      List.flatMap_cons]
    exact hkeys.sublist.append ih

/-- The video datagrams sent so far carry fetched numbers, in fetch order. -/
theorem Generated.sent_video {s : UdpManager} {frames : List BuiltFrame} {seqs : List UInt16}
    (h : s.Generated frames seqs) (horder : s.send.InOrder) :
    ((s.send.sent.filter isVideo).map wireKey).Sublist (s.generated.map some) := by
  have hvideo : (s.send.sent.filter isVideo).Sublist s.batches.flatten :=
    (horder.sent_sublist.filter _).trans (h.handled_video horder)
  have hkind : ∀ item ∈ s.send.sent.filter isVideo, item.kind = .Datagram :=
    fun item hitem => horder.sent_datagrams item (List.mem_filter.mp hitem).1
  -- what is read from the wire is what the queue item says
  have hwire : (s.send.sent.filter isVideo).map wireKey =
      ((s.send.sent.filter isVideo).map itemKey).map some := by
    rw [List.map_map]
    refine List.map_congr_left fun item hitem => ?_
    obtain ⟨frame, -, hframe⟩ := h.mem_batches (hvideo.subset hitem)
    obtain ⟨datagrams, closing, hbatch, hclosing, -, hdatagrams, -⟩ := frame.batch_shape
    rw [hbatch] at hframe
    rcases List.mem_append.mp hframe with hdatagram | hend
    · exact (hdatagrams item hdatagram).wireKey_eq
    · cases List.mem_singleton.mp hend
      have hcontra := hkind item hitem
      rw [hclosing.kind] at hcontra
      cases hcontra
  have hdatagrams : (s.send.sent.filter isVideo).Sublist
      (s.batches.flatten.filter fun item => item.kind = .Datagram) := by
    have hsame : (s.send.sent.filter isVideo).filter (fun item => item.kind = .Datagram) =
        s.send.sent.filter isVideo :=
      List.filter_eq_self.mpr fun item hitem => by simp [hkind item hitem]
    rw [← hsame]
    exact hvideo.filter _
  rw [hwire, h.generated]
  refine List.Sublist.map some ?_
  calc ((s.send.sent.filter isVideo).map itemKey).Sublist
        ((s.batches.flatten.filter fun item => item.kind = .Datagram).map itemKey) :=
        hdatagrams.map _
    List.Sublist _ (frames.flatMap fun frame => frameKeys frame.job frame.seqs) := by
        rw [h.batches]
        exact batches_keys frames
    List.Sublist _ _ := List.sublist_append_left _ _

/-- After any run of the manager its video is in order on the wire. -/
theorem run_videoInOrder {config : UdpConfig} {actions : List UdpAction} {t : UdpManager}
    (hrun : runSteps (step config) (started config) actions = some t) : VideoInOrder t := by
  obtain ⟨frames, seqs, h⟩ := run_generated hrun
  obtain ⟨sends, hsends⟩ := run_projects hrun
  have horder : t.send.InOrder := SendPath.run_inOrder rfl hsends
  refine ⟨h.sent_video horder, h.numbered, ?_, ?_, horder.sent_sublist⟩
  · exact List.sublist_flatten_iff.mp (h.handled_video horder)
  · intro batch hbatch
    rw [h.batches] at hbatch
    obtain ⟨frame, -, rfl⟩ := List.mem_map.mp hbatch
    obtain ⟨datagrams, closing, hshape, hclosing, -, hdatagrams, -⟩ := frame.batch_shape
    exact ⟨_, datagrams, closing, hshape, hclosing, hdatagrams⟩

end UdpManager

/-! ## Main result -/

/-- For every schedule of pushes, evictions, clears and the sender's pops, sends and
requeues: a pop takes an item of the smallest normalized priority that is queued,
`peekPrioritized` describes what the next pop returns, and the completed sends of a class
are a subsequence of its insertions. In every run of the manager the video datagrams are
sent in generation order, frames do not interleave and each `GroupEnd` closes its frame. -/
theorem wire_order :
    (∀ (q q' : SendQueue) (item : QueueItem), q.popPrioritized = some (item, q') →
      item ∈ q.queue_ ∧ ∀ other ∈ q.queue_, priorityClass item ≤ priorityClass other) ∧
    (∀ q : SendQueue, q.peekPrioritized = q.popPrioritized.map fun popped => itemMeta popped.1) ∧
    (∀ (q : SendQueue) (actions : List SendAction) (t : SendPath), q.queue_ = [] →
      runSteps SendPath.step { queue := q } actions = some t → ∀ p,
        (t.sent.filter (inClass p)).Sublist (t.inserted.filter (inClass p))) ∧
    (∀ (config : UdpConfig) (actions : List UdpAction) (t : UdpManager),
      runSteps (UdpManager.step config) (UdpManager.started config) actions = some t →
        VideoInOrder t) :=
  ⟨fun _ _ _ => popPrioritized_least, peekPrioritized_eq,
    fun _ _ _ hq hrun p => (SendPath.run_inOrder hq hrun).sent_class p,
    fun _ _ _ => UdpManager.run_videoInOrder⟩

/-- A telemetry item would block and is requeued behind a new audio item; a frame of two
datagrams is sent with a blocked attempt in between. -/
theorem wire_order_requeued :
    (∃ t, runSteps SendPath.step { queue := {} }
        [.push { group_id := 1, priority := 3 }, .push { group_id := 2, priority := 3 },
          .sender .popPrioritized, .sender .handle, .sender (.socketSend .kWouldBlock),
          .push { group_id := 7, stream := .Audio, priority := 0 }, .sender .requeueFront,
          .sender .popPrioritized, .sender .handle, .sender (.socketSend .kSent),
          .sender .popPrioritized, .sender .handle, .sender (.socketSend .kSent)] = some t ∧
      t.sent.map QueueItem.group_id = [7, 1] ∧
      (t.sent.filter (inClass 3)).Sublist (t.inserted.filter (inClass 3))) ∧
    ∃ t, runSteps (UdpManager.step { control_enabled := false, max_payload_bytes := 1 })
        (UdpManager.started { control_enabled := false, max_payload_bytes := 1 })
        [.sendH264Frame { data := [5, 6] }, .continueCall 0, .takeFrame, .startFrame 1, .fetchSeq,
          .fetchSeq, .pushFrame, .sender .popPrioritized, .sender .handle,
          .sender (.socketSend .kWouldBlock), .sender .requeueFront, .sender .popPrioritized,
          .sender .handle, .sender (.socketSend .kSent), .sender .popPrioritized, .sender .handle,
          .sender (.socketSend .kSent)] = some t ∧
      t.send.sent.map QueueItem.packet_seq = [0, 1] ∧ VideoInOrder t := by
  have hclasses := wire_order.2.2.1 {}
    [.push { group_id := 1, priority := 3 }, .push { group_id := 2, priority := 3 },
      .sender .popPrioritized, .sender .handle, .sender (.socketSend .kWouldBlock),
      .push { group_id := 7, stream := .Audio, priority := 0 }, .sender .requeueFront,
      .sender .popPrioritized, .sender .handle, .sender (.socketSend .kSent),
      .sender .popPrioritized, .sender .handle, .sender (.socketSend .kSent)]
  have hvideo := wire_order.2.2.2 { control_enabled := false, max_payload_bytes := 1 }
    [.sendH264Frame { data := [5, 6] }, .continueCall 0, .takeFrame, .startFrame 1, .fetchSeq,
      .fetchSeq, .pushFrame, .sender .popPrioritized, .sender .handle,
      .sender (.socketSend .kWouldBlock), .sender .requeueFront, .sender .popPrioritized,
      .sender .handle, .sender (.socketSend .kSent), .sender .popPrioritized, .sender .handle,
      .sender (.socketSend .kSent)]
  exact ⟨⟨_, rfl, rfl, hclasses _ rfl rfl 3⟩, ⟨_, rfl, rfl, hvideo _ rfl⟩⟩

end TeleopBridge.Udp
