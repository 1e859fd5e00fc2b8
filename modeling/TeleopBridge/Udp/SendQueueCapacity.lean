import TeleopBridge.Udp.SendQueueEffects

/-!
# Capacity of the Send Queue

The loop of `enforceLimitsLocked` has no counter of its own. Its measure is the queue
length: a round that does not leave the loop removes at least one item. What it leaves
behind, what it never touches and in which order it gives things up are stated here.

## Key Result

`capacity_law`: for every queue state, a push ends within the limits or with nothing but
the protected group, the protected group is never touched, and capacity eviction gives up
parity before sources and video before audio and telemetry.
-/

namespace TeleopBridge.Udp

open Support

namespace SendQueue

/-! ## Vocabulary -/

/-- The item belongs to the protected video group. -/
def protects (q : SendQueue) (item : QueueItem) : Bool :=
  q.isProtectedVideoGroupLocked item.group_id item.stream

/-- The queued items of the protected video group, in queue order. -/
def protectedItems (q : SendQueue) : List QueueItem := q.queue_.filter q.protects

/-- Both non-zero limits hold. -/
def WithinLimits (q : SendQueue) : Prop :=
  (q.max_packets_ ≠ 0 → q.queue_.length ≤ q.max_packets_) ∧
    (q.max_bytes_ ≠ 0 → q.queue_bytes_ ≤ q.max_bytes_)

/-- Nothing but the protected group is left. -/
def OnlyProtected (q : SendQueue) : Prop := ∀ item ∈ q.queue_, q.protects item = true

/-- The parity flag is set on Datagrams only, as `processFrame` builds them. -/
def ParityOnDatagrams (q : SendQueue) : Prop :=
  ∀ item ∈ q.queue_, item.is_fec_parity = true → item.kind = .Datagram

/-- The items that left the queue between `q` and `q'`, by the eviction log. -/
def removedBetween (q q' : SendQueue) : List QueueItem :=
  q'.history.evicted.drop q.history.evicted.length

/-- What a round of capacity eviction may give up: a video source only once no parity
item of an unprotected video group is queued, another stream's item only once no item of
an unprotected video group is queued. -/
structure EvictionOrder (q q' : SendQueue) : Prop where
  sources : ∀ item ∈ removedBetween q q', item.stream = .Video → item.kind = .Datagram →
    item.is_fec_parity = false →
    ∀ other ∈ q.queue_, other.stream = .Video → other.is_fec_parity = true →
      q.protects other = true
  others : ∀ item ∈ removedBetween q q', item.stream ≠ .Video →
    ∀ other ∈ q.queue_, other.stream = .Video → q.protects other = true

/-! ## The loop -/

/-- The loop runs to its exit. -/
theorem enforceLimitsLocked_exits (q : SendQueue) :
    enforceStep q.enforceLimitsLocked = none := by
  unfold enforceLimitsLocked
  exact repeatStep_exit (fun r : SendQueue => r.queue_.length)
    (fun _ _ h => (enforceStep_evicts h).2) _ q le_rfl

theorem not_overLimits_iff {q : SendQueue} : q.overLimits = false ↔ q.WithinLimits := by
  unfold overLimits WithinLimits
  simp only [Bool.or_eq_false_iff, Bool.and_eq_false_iff, decide_eq_false_iff_not]
  omega

theorem oldestGroupVictim_eq_none {q : SendQueue} (h : q.oldestGroupVictim = none) :
    q.OnlyProtected := by
  intro item hitem
  unfold oldestGroupVictim at h
  split at h
  · cases h
  · split at h
    · cases h
    · simpa [protects] using List.find?_eq_none.mp h item hitem

/-- The exit condition: the limits hold, or every remaining item is protected. -/
theorem enforceStep_eq_none {q : SendQueue} (h : enforceStep q = none) :
    q.WithinLimits ∨ q.OnlyProtected := by
  unfold enforceStep at h
  split_ifs at h with hover
  · right
    split at h
    · cases h
    · unfold dropOldestGroupLocked at h
      exact oldestGroupVictim_eq_none (Option.map_eq_none_iff.mp h)
  · simp only [Bool.and_eq_true, Bool.not_eq_true', not_and] at hover
    cases hempty : q.queue_.isEmpty with
    | true =>
      right
      intro item hitem
      rw [List.isEmpty_iff.mp hempty] at hitem
      exact absurd hitem List.not_mem_nil
    | false =>
      left
      exact not_overLimits_iff.mp (Bool.eq_false_iff.mpr (hover hempty))

theorem enforceLimitsLocked_law (q : SendQueue) :
    q.enforceLimitsLocked.WithinLimits ∨ q.enforceLimitsLocked.OnlyProtected :=
  enforceStep_eq_none q.enforceLimitsLocked_exits

/-! ## The protected group -/

theorem EvictsWith.protects_eq {q q' : SendQueue} {removed : List QueueItem}
    {drops : List (List QueueItem)} (h : EvictsWith q q' removed drops) :
    q'.protects = q.protects := by
  funext item
  exact h.isProtected_eq item.group_id item.stream

/-- An eviction leaves the protected items alone, order included. -/
theorem Evicts.protectedItems_eq {q q' : SendQueue} (h : Evicts q q') :
    q'.protectedItems = q.protectedItems := by
  obtain ⟨removed, drops, h⟩ := h
  have hnone : removed.filter q.protects = [] := by
    rw [List.filter_eq_nil_iff]
    intro item hitem
    simp [protects, h.unprotected item hitem]
  have hperm := h.perm.filter q.protects
  rw [List.filter_append, hnone, List.nil_append] at hperm
  unfold protectedItems
  rw [h.protects_eq]
  exact (h.sublist.filter q.protects).eq_of_length hperm.length_eq

/-! ## The eviction order -/

theorem removedBetween_eq {q q' : SendQueue} {removed : List QueueItem}
    {drops : List (List QueueItem)} (h : EvictsWith q q' removed drops) :
    removedBetween q q' = removed := by
  rw [removedBetween, h.evicted, List.drop_left]

/-- The parity search only fails when no unprotected parity is queued. -/
theorem dropOldestVideoParityLocked_eq_none {q : SendQueue} (hflags : q.ParityOnDatagrams)
    (h : q.dropOldestVideoParityLocked = none) :
    ∀ other ∈ q.queue_, other.stream = .Video → other.is_fec_parity = true →
      q.protects other = true := by
  intro other hother hvideo hparity
  by_contra hfree
  have hfree' : q.isProtectedVideoGroupLocked other.group_id other.stream = false :=
    Bool.eq_false_iff.mpr hfree
  unfold dropOldestVideoParityLocked at h
  cases hvictim : q.parityVictim with
  | none =>
    -- `other` itself would have been found by the second search
    unfold parityVictim at hvictim
    split at hvictim
    · cases hvictim
    · have hmiss := List.find?_eq_none.mp hvictim other hother
      simp [hvideo, hparity, hvideo ▸ hfree'] at hmiss
  | some victim =>
    obtain ⟨hmem, -, hvparity, hvfree⟩ := parityVictim_spec hvictim
    obtain ⟨-, -, hitems, -⟩ := eraseLoop_eq (isParityOf victim.group_id victim.stream) q
    have hin : victim ∈ q.queue_.filter (isParityOf victim.group_id victim.stream) := by
      rw [List.mem_filter]
      simp [hmem, isParityOf, inGroup, hvparity, hflags victim hmem hvparity]
    have hpos := List.length_pos_of_mem hin
    rw [hvictim] at h
    simp only [Option.bind_some, dropParityForGroupLocked, hvfree, hitems, Bool.false_eq_true,
      if_false] at h
    split_ifs at h
    omega

/-- A victim of another stream means that no unprotected video item is queued. -/
theorem oldestGroupVictim_not_video {q : SendQueue} {victim : QueueItem}
    (h : q.oldestGroupVictim = some victim) (hstream : victim.stream ≠ .Video) :
    ∀ other ∈ q.queue_, other.stream = .Video → q.protects other = true := by
  intro other hother hvideo
  unfold oldestGroupVictim at h
  split at h
  · rename_i item hfind
    cases h
    have hpred := List.find?_some hfind
    simp only [Bool.and_eq_true, decide_eq_true_eq] at hpred
    exact absurd hpred.1.1 hstream
  · split at h
    · rename_i item hfind
      cases h
      have hpred := List.find?_some hfind
      simp only [Bool.and_eq_true, decide_eq_true_eq] at hpred
      exact absurd hpred.1 hstream
    · rename_i hnone
      have hmiss := List.find?_eq_none.mp hnone other hother
      simpa [protects, hvideo] using hmiss

/-- Every round of capacity eviction respects the order. -/
theorem enforceStep_order {q q' : SendQueue} (hflags : q.ParityOnDatagrams)
    (h : enforceStep q = some q') : EvictionOrder q q' := by
  unfold enforceStep at h
  split_ifs at h
  split at h
  · rename_i q'' hparity
    cases h
    unfold dropOldestVideoParityLocked at hparity
    obtain ⟨victim, hvictim, hdrop⟩ := Option.bind_eq_some_iff.mp hparity
    obtain ⟨-, hvideo, -, -⟩ := parityVictim_spec hvictim
    have hremoved := removedBetween_eq (dropParityForGroupLocked_evicts hdrop).1
    constructor
    · intro item hitem _ _ hsource
      rw [hremoved] at hitem
      have hpred := (List.mem_filter.mp hitem).2
      simp [isParityOf, hsource] at hpred
    · intro item hitem hother
      rw [hremoved] at hitem
      have hpred := (List.mem_filter.mp hitem).2
      simp only [isParityOf, Bool.and_eq_true] at hpred
      exact absurd ((inGroup_iff.mp hpred.1.1).2.trans hvideo) hother
  · rename_i hparity
    unfold dropOldestGroupLocked at h
    obtain ⟨victim, hvictim, rfl⟩ := Option.map_eq_some_iff.mp h
    obtain ⟨-, hfree⟩ := oldestGroupVictim_spec hvictim
    have hremoved := removedBetween_eq (dropGroupLocked_evictsWith hfree)
    constructor
    · intro item _ _ _ _
      exact dropOldestVideoParityLocked_eq_none hflags hparity
    · intro item hitem hother
      rw [hremoved] at hitem
      have hstream := (inGroup_iff.mp (List.mem_filter.mp hitem).2).2
      exact oldestGroupVictim_not_video hvictim (hstream ▸ hother)

/-! ## Main result -/

/-- The capacity law, for every queue state, limits and protected group. The loop runs to
its exit; a push or a non-empty batch (an empty one returns before the loop) ends within
the non-zero limits or with the protected group only; no drop, trim or eviction touches a
protected item; every round of capacity eviction respects the eviction order. -/
theorem capacity_law (q : SendQueue) (hrun : q.running_ = true) :
    enforceStep q.enforceLimitsLocked = none ∧
    (∀ item, (q.push item).WithinLimits ∨ (q.push item).OnlyProtected) ∧
    (∀ items, items ≠ [] → (q.pushBatch items).WithinLimits ∨ (q.pushBatch items).OnlyProtected) ∧
    q.pushBatch [] = q ∧
    (∀ item, (q.push item).protectedItems = (q.append item).protectedItems) ∧
    (∀ items, (q.pushBatch items).protectedItems = (items.foldl append q).protectedItems) ∧
    (∀ group_id stream, (q.dropGroup group_id stream).protectedItems = q.protectedItems) ∧
    (∀ group_id stream,
      (q.dropParityForGroup group_id stream).2.protectedItems = q.protectedItems) ∧
    (∀ r r' : SendQueue, r.ParityOnDatagrams → enforceStep r = some r' →
      EvictionOrder r r') := by
  refine ⟨q.enforceLimitsLocked_exits, ?_, ?_, rfl, ?_, ?_, ?_, ?_, ?_⟩
  · intro item
    unfold push
    simp only [hrun, Bool.not_true, Bool.false_eq_true, if_false]
    exact enforceLimitsLocked_law _
  · intro items hne
    unfold pushBatch
    simp only [hrun, List.isEmpty_iff, hne, Bool.not_true, Bool.false_eq_true, if_false]
    exact enforceLimitsLocked_law _
  · intro item
    exact (push_effect hrun item).protectedItems_eq
  · intro items
    exact (pushBatch_effect hrun items).protectedItems_eq
  · intro group_id stream
    exact (dropGroupLocked_evicts q group_id stream).protectedItems_eq
  · intro group_id stream
    unfold dropParityForGroup
    cases hdrop : q.dropParityForGroupLocked group_id stream with
    | none => rfl
    | some q' =>
      have hevicts : Evicts q q' := ⟨_, _, (dropParityForGroupLocked_evicts hdrop).1⟩
      exact hevicts.protectedItems_eq
  · intro r r' hflags hstep
    exact enforceStep_order hflags hstep

/-- A queue of two packets with a protected group: the third packet pushes out the video
group that is not protected, in one round. -/
theorem capacity_law_two_packets :
    let q : SendQueue :=
      { queue_ := [{ stream := .Video, group_id := 1, wire_bytes := 5 },
          { stream := .Video, group_id := 2, wire_bytes := 5 }]
        queue_bytes_ := 10, max_packets_ := 2, protected_video_group_id_ := 1 }
    let audio : QueueItem := { stream := .Audio, priority := 0, wire_bytes := 3 }
    ((q.push audio).WithinLimits ∨ (q.push audio).OnlyProtected) ∧
      ((q.pushBatch [audio]).WithinLimits ∨ (q.pushBatch [audio]).OnlyProtected) ∧
      ∃ r', enforceStep (q.append audio) = some r' ∧ EvictionOrder (q.append audio) r' := by
  intro q audio
  obtain ⟨-, hpush, hbatch, -, -, -, -, -, horder⟩ := capacity_law q rfl
  refine ⟨hpush audio, hbatch [audio] (by simp), _, rfl, horder _ _ ?_ rfl⟩
  simp [ParityOnDatagrams, append, q, audio, normalizeItem]

end SendQueue

end TeleopBridge.Udp
