import TeleopBridge.Udp.UdpManager

/-!
# Started Frames Under Eviction

The sender protects the group of the frame it is sending from eviction, but it does so
after the pop and outside the queue's lock, only while its own packet count is 0, and the
group `UINT32_MAX` cannot be protected at all. A push that evicts can therefore find a
started group unprotected: between the pop and `setProtectedVideoGroup`, after a
`resetSession` in the middle of a frame, and in a frame with that id.

## Key Results

- `started_frame_torn`: a schedule in which a frame of two datagrams loses its second
  datagram and its `GroupEnd` after the first was popped.
- `SendPath.started_frames_whole`: in every run in which a push evicts only while each
  started group with queued items is the protected one, no started frame is torn.
-/

namespace TeleopBridge.Udp

open Support SendQueue

/-! ## Pushes that evict -/

namespace SendQueue

/-- Whether appending the items makes the queue evict: it is over its limits, or a video
`GroupEnd` arrives and too many video groups are queued. -/
def mayEvict (q : SendQueue) (items : List QueueItem) : Bool :=
  (items.foldl append q).overLimits ||
    ((newestVideoGroupEnd items).isSome &&
      (items.foldl append q).collectVideoGroupsLocked.length > kMaxQueuedVideoGroups)

theorem enforceLimitsLocked_of_within {q : SendQueue} (h : q.overLimits = false) :
    q.enforceLimitsLocked = q := by
  have hstep : enforceStep q = none := by simp [enforceStep, h]
  unfold enforceLimitsLocked
  cases q.queue_.length with
  | zero => rfl
  | succ fuel => simp [repeatStep, hstep]

theorem trimVideoBacklogLocked_of_few {q : SendQueue} {newest : UInt32}
    (h : q.collectVideoGroupsLocked.length ≤ kMaxQueuedVideoGroups) :
    q.trimVideoBacklogLocked newest = q := by
  simp [trimVideoBacklogLocked, h]

/-- A batch that does not make the queue evict is only appended. -/
theorem pushBatch_of_not_mayEvict {q : SendQueue} (hrun : q.running_ = true)
    {items : List QueueItem} (h : q.mayEvict items = false) :
    q.pushBatch items = items.foldl append q := by
  unfold mayEvict at h
  simp only [Bool.or_eq_false_iff, Bool.and_eq_false_iff, decide_eq_false_iff_not,
    Nat.not_lt] at h
  obtain ⟨hlimits, hgroups⟩ := h
  unfold pushBatch
  cases items with
  | nil => rfl
  | cons item items =>
    simp only [List.isEmpty_cons, hrun, Bool.not_true, Bool.false_eq_true, if_false]
    cases hnewest : newestVideoGroupEnd (item :: items) with
    | none => exact enforceLimitsLocked_of_within hlimits
    | some newest =>
      have hfew : ((item :: items).foldl append q).collectVideoGroupsLocked.length ≤
          kMaxQueuedVideoGroups := by
        rcases hgroups with hnone | hfew
        · rw [hnewest] at hnone
          cases hnone
        · exact hfew
      simp only [trimVideoBacklogLocked_of_few hfew]
      exact enforceLimitsLocked_of_within hlimits

end SendQueue

/-! ## The condition -/

namespace SendPath

/-- Every started group with items in the queue or among those pushed is protected. -/
def Shielded (s : SendPath) (items : List QueueItem) : Prop :=
  ∀ group ∈ s.started, s.queue.isProtectedVideoGroupLocked group .Video = true ∨
    ∀ item ∈ s.queue.queue_ ++ items, inGroup group .Video item = false

/-- A push evicts only while every started group is shielded. -/
def EvictsShielded (s : SendPath) : SendAction → Prop
  | .push item => s.queue.mayEvict [item] = true → s.Shielded [item]
  | .pushBatch items => s.queue.mayEvict items = true → s.Shielded items
  | _ => True

/-! ## One step -/

/-- A shielded eviction takes nothing of a started group. -/
theorem newlyEvicted_shielded {s : SendPath} {items : List QueueItem}
    (h : s.queue.mayEvict items = true → s.Shielded items) :
    (s.newlyEvicted (s.queue.pushBatch items)).filter (ofGroups s.started) = [] := by
  unfold newlyEvicted
  cases hrun : s.queue.running_ with
  | false => simp [pushBatch_of_stopped hrun]
  | true =>
    cases hevict : s.queue.mayEvict items with
    | false =>
      rw [pushBatch_of_not_mayEvict hrun hevict, foldl_append_eq]
      simp
    | true =>
      obtain ⟨removed, drops, hevicts⟩ := pushBatch_effect hrun items
      have hremoved : (s.queue.pushBatch items).history.evicted =
          s.queue.history.evicted ++ removed := by
        rw [hevicts.evicted, foldl_append_eq]
      rw [hremoved, List.drop_left]
      refine List.filter_eq_nil_iff.mpr fun item hitem hstarted => ?_
      simp only [ofGroups, Bool.and_eq_true, decide_eq_true_eq, List.contains_iff_mem] at hstarted
      obtain ⟨hvideo, hgroup⟩ := hstarted
      have hfree := hevicts.unprotected item hitem
      have hmem := hevicts.perm.subset (List.mem_append_left _ hitem)
      rw [foldl_append_eq] at hfree hmem
      rcases h hevict item.group_id hgroup with hprotected | habsent
      · -- evictions spare the protected group
        rw [hvideo] at hfree
        exact absurd hprotected (by simpa [isProtectedVideoGroupLocked] using hfree)
      · rcases List.mem_append.mp hmem with hold | hnew
        · exact absurd (inGroup_iff.mpr ⟨rfl, hvideo⟩)
            (by simp [habsent item (List.mem_append_left _ hold)])
        · obtain ⟨raw, hraw, rfl⟩ := List.mem_map.mp hnew
          have hraw' := habsent raw (List.mem_append_right _ hraw)
          exact absurd hraw' (by simpa [inGroup, normalizeItem] using hvideo)

theorem torn_enqueued {s : SendPath} {items : List QueueItem}
    (h : s.queue.mayEvict items = true → s.Shielded items) :
    (s.enqueued items (s.queue.pushBatch items)).torn = s.torn := by
  simp only [enqueued, newlyEvicted_shielded h, List.append_nil]

theorem torn_senderStep {s s' : SendPath} {a : SenderStep} (hstep : s.senderStep a = some s') :
    s'.torn = s.torn := by
  unfold senderStep at hstep
  cases a with
  | popPrioritized =>
    cases hpc : s.pc <;> simp only [hpc, reduceCtorEq] at hstep
    cases hstep
    unfold pop
    cases s.queue.popPrioritized <;> rfl
  | handle =>
    cases hpc : s.pc <;> simp only [hpc, reduceCtorEq] at hstep
    cases hstep
    unfold handleQueueItem flushFrame protectGroup
    split <;> split_ifs <;> rfl
  | socketSend result =>
    cases hpc : s.pc <;> simp only [hpc, reduceCtorEq] at hstep
    cases hstep
    cases result <;> rfl
  | requeueFront =>
    cases hpc : s.pc <;> simp only [hpc, reduceCtorEq] at hstep
    cases hstep
    rfl

/-- A step that meets the condition tears nothing. -/
theorem torn_step {s s' : SendPath} {a : SendAction} (h : s.EvictsShielded a)
    (hstep : s.step a = some s') : s'.torn = s.torn := by
  cases a with
  | push item =>
    cases hstep
    rw [push_eq_pushBatch]
    exact torn_enqueued h
  | pushBatch items =>
    cases hstep
    exact torn_enqueued h
  | dropGroup | dropParityForGroup | setLimits | clear =>
    cases hstep
    rfl
  | sender senderStep => exact torn_senderStep hstep

/-! ## Main results -/

/-- In every run in which a push evicts only while each started group with queued items is
the protected group, no item of a started video group is evicted. -/
theorem started_frames_whole (q : SendQueue) (actions : List SendAction) (t : SendPath)
    (hmeet : StepsMeet step EvictsShielded { queue := q } actions)
    (hrun : runSteps step { queue := q } actions = some t) : t.torn = [] :=
  guarded_invariant (fun _ _ _ htorn hcond hstep => (torn_step hcond hstep).trans htorn) rfl hmeet
    hrun

/-- A full queue behind a protected frame: the frame behind it goes. -/
theorem started_frames_whole_protected :
    ∃ t, runSteps step { queue := { max_packets_ := 2 } }
        [.pushBatch [{ stream := .Video }, { kind := .GroupEnd, stream := .Video }],
          .sender .popPrioritized, .sender .handle, .push { stream := .Video, group_id := 1 },
          .push { stream := .Video, group_id := 1, packet_seq := 1 }] = some t ∧
      t.queue.history.evicted.map QueueItem.group_id = [1, 1] ∧ t.torn = [] := by
  have hmeet : StepsMeet step EvictsShielded { queue := { max_packets_ := 2 } }
      [.pushBatch [{ stream := .Video }, { kind := .GroupEnd, stream := .Video }],
        .sender .popPrioritized, .sender .handle, .push { stream := .Video, group_id := 1 },
        .push { stream := .Video, group_id := 1, packet_seq := 1 }] := by
    refine .cons rfl (fun hevict => ?_) (.cons rfl trivial (.cons rfl trivial
      (.cons rfl (fun hevict => ?_) (.cons rfl (fun _ group hgroup => Or.inl ?_) trivial))))
    · cases hevict
    · cases hevict
    · -- group 0 is started, and protected since its datagram was handled
      cases List.mem_singleton.mp hgroup
      rfl
  exact ⟨_, rfl, rfl, started_frames_whole _ _ _ hmeet rfl⟩

end SendPath

/-- The steps of one frame from its send call to its push. -/
def sendFrame (data : List UInt8) (datagrams : ℕ) : List UdpAction :=
  [.sendH264Frame { data := data }, .continueCall 0, .takeFrame, .startFrame 1] ++
    List.replicate datagrams .fetchSeq ++ [.pushFrame]

set_option maxRecDepth 20000 in
/-- With FEC off, a frame of 1201 bytes is pushed and its first datagram popped. Four more
frames are pushed before the sender protects its group: the backlog is trimmed and the
second datagram and the `GroupEnd` of the started frame go. -/
theorem started_frame_torn :
    ∃ t, runSteps (UdpManager.step { fec_encoder_ := some FecV2.shippedTable, fec_table_id := 0 })
        (UdpManager.started { fec_encoder_ := some FecV2.shippedTable, fec_table_id := 0 })
        ([.setHandshake true] ++ sendFrame (List.replicate 1201 0) 2 ++
          [.sender .popPrioritized] ++ sendFrame [1] 1 ++ sendFrame [2] 1 ++ sendFrame [3] 1 ++
          sendFrame [4] 1) = some t ∧
      t.send.pc.hand.map (fun item => (item.kind, item.group_id, item.packet_seq)) =
        [(.Datagram, 0, 0)] ∧
      t.send.started = [0] ∧
      t.send.torn.map (fun item => (item.kind, item.group_id, item.packet_seq)) =
        [(.Datagram, 0, 1), (.GroupEnd, 0, 0)] :=
  ⟨_, rfl, rfl, rfl, rfl⟩

end TeleopBridge.Udp
