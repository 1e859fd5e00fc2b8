import TeleopBridge.Udp.SendQueue

/-!
# What the Queue Operations Do

One relation, `Evicts`, says everything a drop, a trim or a capacity eviction may do to
the queue: keep a sublist, log what it removed, spare the protected group and keep the
byte count and the drop counters in step. Every eviction path of `SendQueue.lean` is
shown to be an `Evicts` step once, here; the later modules never unfold those paths
again.

## Key Results

- `dropGroupLocked_evicts`, `dropParityForGroupLocked_evicts`: the two erasing loops.
- `trimVideoBacklogLocked_evicts`, `enforceLimitsLocked_evicts`: their compositions.
- `push_effect`, `pushBatch_effect`: appending followed by evicting.
-/

namespace TeleopBridge.Udp

open Support

/-! ## Byte counts -/

@[simp] theorem itemsBytes_nil : itemsBytes [] = 0 := rfl

@[simp] theorem itemsBytes_cons (item : QueueItem) (items : List QueueItem) :
    itemsBytes (item :: items) = item.queuedBytes + itemsBytes items := by
  simp [itemsBytes]

@[simp] theorem itemsBytes_append (xs ys : List QueueItem) :
    itemsBytes (xs ++ ys) = itemsBytes xs + itemsBytes ys := by
  simp [itemsBytes]

/-- The bytes do not depend on the order. -/
theorem itemsBytes_perm {xs ys : List QueueItem} (h : xs.Perm ys) :
    itemsBytes xs = itemsBytes ys :=
  (h.map _).sum_eq

namespace SendQueue

/-- Any byte is clamped to one of the priority levels. -/
theorem normalizePriority_lt (priority : UInt8) :
    (normalizePriority priority).toNat < kNumPriorityLevels := by
  unfold normalizePriority
  rw [UInt8.toNat_ofNat']
  simp only [kNumPriorityLevels]
  omega

@[simp] theorem normalizePriority_idem (priority : UInt8) :
    normalizePriority (normalizePriority priority) = normalizePriority priority := by
  have hlt := normalizePriority_lt priority
  have hle : (normalizePriority priority).toNat ≤ kNumPriorityLevels - 1 := by omega
  rw [normalizePriority, Nat.min_eq_left hle, UInt8.ofNat_toNat]

/-- Requeuing normalizes an item again, to no effect. -/
@[simp] theorem normalizeItem_idem (item : QueueItem) :
    normalizeItem (normalizeItem item) = normalizeItem item := by
  simp [normalizeItem]

@[simp] theorem queuedBytes_normalizeItem (item : QueueItem) :
    (normalizeItem item).queuedBytes = item.queuedBytes := rfl

/-- The bytes of an item that is accounted for are taken off exactly. -/
theorem subtractBytes_eq {item : QueueItem} {rest : ℕ} :
    subtractBytes item (item.queuedBytes + rest) = rest := by
  unfold subtractBytes QueueItem.queuedBytes
  split
  · rw [if_pos (by omega), Nat.add_sub_cancel_left]
  · exact Nat.zero_add rest

/-- And without hitting 0. -/
theorem saturates_eq_false {item : QueueItem} {rest : ℕ} :
    saturates item (item.queuedBytes + rest) = false := by
  unfold saturates QueueItem.queuedBytes
  split <;> simp_all

/-- The byte counter is exact and has never saturated. -/
structure Accounted (q : SendQueue) : Prop where
  bytes : q.queue_bytes_ = itemsBytes q.queue_
  unsaturated : q.history.saturated = false

/-! ## The erasing loop -/

/-- The loop over the queue parts it into victims and the rest, and counts the victims. -/
theorem foldl_eraseStep (victim : QueueItem → Bool) (items : List QueueItem) (s : EraseLoop) :
    (items.foldl (eraseStep victim) s).kept =
        s.kept ++ items.filter (fun item => !victim item) ∧
      (items.foldl (eraseStep victim) s).removed = s.removed ++ items.filter victim ∧
      (items.foldl (eraseStep victim) s).dropped_items =
        s.dropped_items + (items.filter victim).length ∧
      (items.foldl (eraseStep victim) s).dropped_bytes =
        s.dropped_bytes + itemsBytes (items.filter victim) := by
  induction items generalizing s with
  | nil => simp
  | cons item items ih =>
    obtain ⟨hkept, hremoved, hitems, hbytes⟩ := ih (eraseStep victim s item)
    rw [List.foldl_cons, hkept, hremoved, hitems, hbytes]
    unfold eraseStep
    -- the induction is on the queue, over whatever the loop has gathered so far
    cases hvictim : victim item with
    | true => simp [hvictim, Nat.add_assoc, Nat.add_comm 1]
    | false => simp [hvictim]

/-- The loop splits the queue by its predicate, in order, and counts what it erased. -/
theorem eraseLoop_eq (victim : QueueItem → Bool) (q : SendQueue) :
    (q.eraseLoop victim).kept = q.queue_.filter (fun item => !victim item) ∧
    (q.eraseLoop victim).removed = q.queue_.filter victim ∧
    (q.eraseLoop victim).dropped_items = (q.queue_.filter victim).length ∧
    (q.eraseLoop victim).dropped_bytes = itemsBytes (q.queue_.filter victim) := by
  have h := foldl_eraseStep victim q.queue_ { queue_bytes_ := q.queue_bytes_ }
  simpa [eraseLoop] using h

/-- While the loop walks, the counter covers the kept items and those still ahead. -/
theorem foldl_eraseStep_bytes (victim : QueueItem → Bool) (items : List QueueItem)
    {s : EraseLoop} (hbytes : s.queue_bytes_ = itemsBytes s.kept + itemsBytes items)
    (hsat : s.saturated = false) :
    (items.foldl (eraseStep victim) s).queue_bytes_ =
        itemsBytes (items.foldl (eraseStep victim) s).kept ∧
      (items.foldl (eraseStep victim) s).saturated = false := by
  induction items generalizing s with
  | nil => exact ⟨by simpa using hbytes, hsat⟩
  | cons item items ih =>
    have hahead : s.queue_bytes_ = item.queuedBytes + (itemsBytes s.kept + itemsBytes items) := by
      rw [hbytes, itemsBytes_cons]
      omega
    rw [List.foldl_cons]
    -- the invariant is that `queue_bytes_` covers what is kept and what is still ahead
    apply ih
    · unfold eraseStep
      split
      · -- erased: its bytes are there to be subtracted
        rw [hahead]
        exact subtractBytes_eq
      · rw [hahead]
        simp
        omega
    · unfold eraseStep
      split
      · rw [hsat, hahead, saturates_eq_false]
        rfl
      · exact hsat

/-- From an accounted queue the loop never saturates. -/
theorem eraseLoop_accounted (victim : QueueItem → Bool) {q : SendQueue} (h : q.Accounted) :
    (q.eraseLoop victim).queue_bytes_ = itemsBytes (q.eraseLoop victim).kept ∧
      (q.eraseLoop victim).saturated = false :=
  foldl_eraseStep_bytes victim q.queue_ (by simpa using h.bytes) rfl

/-! ## Evictions -/

/-- `removed` and `drops` are what a step from `q` to `q'` logged. -/
structure EvictsWith (q q' : SendQueue) (removed : List QueueItem)
    (drops : List (List QueueItem)) : Prop where
  sublist : q'.queue_.Sublist q.queue_
  perm : (removed ++ q'.queue_).Perm q.queue_
  evicted : q'.history.evicted = q.history.evicted ++ removed
  videoDrops : q'.history.videoDrops = q.history.videoDrops ++ drops
  drops_sublist : drops.flatten.Sublist removed
  drops_groups : ∀ drop ∈ drops, drop ≠ [] ∧ ∃ group_id, ∀ item ∈ drop,
    inGroup group_id .Video item = true
  drops_complete : ∀ item, item.stream = .Video → ¬(item.kind = .Datagram ∧ item.is_fec_parity) →
    removed.count item = drops.flatten.count item
  unprotected : ∀ item ∈ removed, q.isProtectedVideoGroupLocked item.group_id item.stream = false
  groups : q'.dropped_video_groups_ = q.dropped_video_groups_ + drops.length
  packets : q'.dropped_video_packets_ = q.dropped_video_packets_ + drops.flatten.length
  bytes : q'.dropped_video_bytes_ = q.dropped_video_bytes_ + itemsBytes drops.flatten
  protected_eq : q'.protected_video_group_id_ = q.protected_video_group_id_
  max_packets_eq : q'.max_packets_ = q.max_packets_
  max_bytes_eq : q'.max_bytes_ = q.max_bytes_
  running_eq : q'.running_ = q.running_
  discarded_eq : q'.history.discarded = q.history.discarded
  accounted : q.Accounted → q'.Accounted

/-- An eviction: some items are removed, none of the protected group. Only parity
datagrams may leave a video group without being counted as a whole-group drop. -/
def Evicts (q q' : SendQueue) : Prop := ∃ removed drops, EvictsWith q q' removed drops

/-- An eviction does not move the protection. -/
theorem EvictsWith.isProtected_eq {q q' : SendQueue} {removed : List QueueItem}
    {drops : List (List QueueItem)} (h : EvictsWith q q' removed drops) (group_id : UInt32)
    (stream : QueueItem.Stream) :
    q'.isProtectedVideoGroupLocked group_id stream =
      q.isProtectedVideoGroupLocked group_id stream := by
  unfold isProtectedVideoGroupLocked
  rw [h.protected_eq]

/-- Nothing evicted. -/
theorem EvictsWith.refl (q : SendQueue) : EvictsWith q q [] [] := by
  constructor <;> simp

/-- Two evictions in a row are one. -/
theorem EvictsWith.trans {q r s : SendQueue} {xs ys : List QueueItem}
    {ds es : List (List QueueItem)} (h : EvictsWith q r xs ds) (h' : EvictsWith r s ys es) :
    EvictsWith q s (xs ++ ys) (ds ++ es) where
  sublist := h'.sublist.trans h.sublist
  perm := by
    rw [List.append_assoc]
    exact (h'.perm.append_left xs).trans h.perm
  evicted := by rw [h'.evicted, h.evicted, List.append_assoc]
  videoDrops := by rw [h'.videoDrops, h.videoDrops, List.append_assoc]
  drops_sublist := by
    rw [List.flatten_append]
    exact h.drops_sublist.append h'.drops_sublist
  drops_groups := by
    intro drop hdrop
    rcases List.mem_append.mp hdrop with hd | he
    · exact h.drops_groups drop hd
    · exact h'.drops_groups drop he
  drops_complete := by
    intro item hvideo hkept
    rw [List.flatten_append, List.count_append, List.count_append,
      h.drops_complete item hvideo hkept, h'.drops_complete item hvideo hkept]
  unprotected := by
    intro item hitem
    rcases List.mem_append.mp hitem with hx | hy
    · exact h.unprotected item hx
    · -- the second one saw the protection of the first
      exact (h.isProtected_eq _ _).symm.trans (h'.unprotected item hy)
  groups := by rw [h'.groups, h.groups, List.length_append, Nat.add_assoc]
  packets := by
    rw [h'.packets, h.packets, List.flatten_append, List.length_append, Nat.add_assoc]
  bytes := by rw [h'.bytes, h.bytes, List.flatten_append, itemsBytes_append, Nat.add_assoc]
  protected_eq := h'.protected_eq.trans h.protected_eq
  max_packets_eq := h'.max_packets_eq.trans h.max_packets_eq
  max_bytes_eq := h'.max_bytes_eq.trans h.max_bytes_eq
  running_eq := h'.running_eq.trans h.running_eq
  discarded_eq := h'.discarded_eq.trans h.discarded_eq
  accounted := fun hq => h'.accounted (h.accounted hq)

theorem Evicts.refl (q : SendQueue) : Evicts q q := ⟨[], [], EvictsWith.refl q⟩

/-- Evictions compose, whatever they removed. -/
theorem Evicts.trans {q r s : SendQueue} (h : Evicts q r) (h' : Evicts r s) : Evicts q s := by
  obtain ⟨xs, ds, hx⟩ := h
  obtain ⟨ys, es, hy⟩ := h'
  exact ⟨xs ++ ys, ds ++ es, hx.trans hy⟩

/-- What an erasing loop does to the queue, whatever the drop counters do. -/
theorem afterErase_spec (q : SendQueue) (victim : QueueItem → Bool) :
    (q.afterErase (q.eraseLoop victim)).queue_.Sublist q.queue_ ∧
    (q.queue_.filter victim ++ (q.afterErase (q.eraseLoop victim)).queue_).Perm q.queue_ ∧
    (q.afterErase (q.eraseLoop victim)).history.evicted =
      q.history.evicted ++ q.queue_.filter victim ∧
    (q.Accounted → (q.afterErase (q.eraseLoop victim)).Accounted) := by
  obtain ⟨hkept, hremoved, -, -⟩ := eraseLoop_eq victim q
  refine ⟨?_, ?_, ?_, ?_⟩
  · show (q.eraseLoop victim).kept.Sublist _
    rw [hkept]
    exact List.filter_sublist
  · show (_ ++ (q.eraseLoop victim).kept).Perm _
    rw [hkept]
    exact List.filter_append_perm victim q.queue_
  · show _ ++ (q.eraseLoop victim).removed = _
    rw [hremoved]
  · -- an accounted queue stays so
    intro h
    obtain ⟨hbytes, hsat⟩ := eraseLoop_accounted victim h
    refine ⟨hbytes, ?_⟩
    show (q.history.saturated || _) = false
    rw [h.unsaturated, hsat]
    rfl

/-- Erasing unprotected items that no drop counter has to know about. -/
theorem afterErase_evicts {q : SendQueue} {victim : QueueItem → Bool}
    (hfree : ∀ item, victim item = true →
      q.isProtectedVideoGroupLocked item.group_id item.stream = false)
    (huncounted : ∀ item ∈ q.queue_, victim item = true → item.stream = .Video →
      item.kind = .Datagram ∧ item.is_fec_parity) :
    EvictsWith q (q.afterErase (q.eraseLoop victim)) (q.queue_.filter victim) [] := by
  obtain ⟨hsublist, hperm, hevicted, haccounted⟩ := afterErase_spec q victim
  exact {
    sublist := hsublist
    perm := hperm
    evicted := hevicted
    videoDrops := (List.append_nil _).symm
    drops_sublist := List.nil_sublist _
    drops_groups := by simp
    drops_complete := by
      intro item hvideo hkept
      -- a victim of the video is parity, which no drop is recorded for
      refine List.count_eq_zero.mpr fun hmem => ?_
      obtain ⟨hqueue, hvictim⟩ := List.mem_filter.mp hmem
      exact hkept (huncounted item hqueue hvictim hvideo)
    unprotected := fun item hitem => hfree item (List.mem_filter.mp hitem).2
    groups := rfl
    packets := rfl
    bytes := rfl
    protected_eq := rfl
    max_packets_eq := rfl
    max_bytes_eq := rfl
    running_eq := rfl
    discarded_eq := rfl
    accounted := haccounted }

/-- A group is an id on a stream. -/
theorem inGroup_iff {group_id : UInt32} {stream : QueueItem.Stream} {item : QueueItem} :
    inGroup group_id stream item = true ↔ item.group_id = group_id ∧ item.stream = stream := by
  simp [inGroup]

/-- The items of a group share its protection. -/
theorem unprotected_of_inGroup {q : SendQueue} {group_id : UInt32} {stream : QueueItem.Stream}
    (hfree : q.isProtectedVideoGroupLocked group_id stream = false) {item : QueueItem}
    (hitem : inGroup group_id stream item = true) :
    q.isProtectedVideoGroupLocked item.group_id item.stream = false := by
  obtain ⟨hgroup, hstream⟩ := inGroup_iff.mp hitem
  rw [hgroup, hstream]
  exact hfree

/-- A successful parity drop removes exactly the group's parity datagrams, at least one. -/
theorem dropParityForGroupLocked_evicts {q q' : SendQueue} {group_id : UInt32}
    {stream : QueueItem.Stream} (h : q.dropParityForGroupLocked group_id stream = some q') :
    EvictsWith q q' (q.queue_.filter (isParityOf group_id stream)) [] ∧
      q.queue_.filter (isParityOf group_id stream) ≠ [] := by
  unfold dropParityForGroupLocked at h
  cases hfree : q.isProtectedVideoGroupLocked group_id stream with
  | true => simp [hfree] at h
  | false =>
    obtain ⟨-, -, hitems, -⟩ := eraseLoop_eq (isParityOf group_id stream) q
    simp only [hfree, hitems, Bool.false_eq_true, if_false] at h
    split_ifs at h with hnone
    cases h
    refine ⟨afterErase_evicts (fun item hitem => ?_) (fun item _ hitem _ => ?_),
      fun hnil => hnone (by rw [hnil]; rfl)⟩
    -- the victims are of the group, which is free, and they are parity
    · simp only [isParityOf, Bool.and_eq_true] at hitem
      exact unprotected_of_inGroup hfree hitem.1.1
    · simp only [isParityOf, Bool.and_eq_true, decide_eq_true_eq] at hitem
      exact ⟨hitem.1.2, hitem.2⟩

/-- The drop-log entry of a whole-group drop: only video groups with items are counted. -/
def dropEntry (stream : QueueItem.Stream) (removed : List QueueItem) : List (List QueueItem) :=
  if stream = .Video ∧ removed ≠ [] then [removed] else []

/-- A whole-group drop removes exactly the group, unless it is protected. -/
theorem dropGroupLocked_evictsWith {q : SendQueue} {group_id : UInt32}
    {stream : QueueItem.Stream} (hfree : q.isProtectedVideoGroupLocked group_id stream = false) :
    EvictsWith q (q.dropGroupLocked group_id stream) (q.queue_.filter (inGroup group_id stream))
      (dropEntry stream (q.queue_.filter (inGroup group_id stream))) := by
  obtain ⟨-, hremoved, hitems, hbytes⟩ := eraseLoop_eq (inGroup group_id stream) q
  obtain ⟨hsublist, hperm, hevicted, haccounted⟩ := afterErase_spec q (inGroup group_id stream)
  have hfree' : ∀ item, inGroup group_id stream item = true →
      q.isProtectedVideoGroupLocked item.group_id item.stream = false :=
    fun item hitem => unprotected_of_inGroup hfree hitem
  unfold dropGroupLocked dropEntry
  simp only [hfree, hitems, hbytes, hremoved, Bool.false_eq_true, if_false,
    List.length_eq_zero_iff]
  -- without an item of the group, or for another stream than video, no drop is recorded
  by_cases hnone : q.queue_.filter (inGroup group_id stream) = []
  · rw [if_pos hnone, if_neg fun h => h.2 hnone]
    refine afterErase_evicts hfree' fun item hmem hitem _ => ?_
    exact absurd (List.mem_filter.mpr ⟨hmem, hitem⟩) (by rw [hnone]; exact List.not_mem_nil)
  · -- a drop of the video is recorded with all its items
    rw [if_neg hnone]
    by_cases hvideo : stream = .Video
    · subst hvideo
      rw [if_pos rfl, if_pos ⟨rfl, hnone⟩]
      exact {
        sublist := hsublist
        perm := hperm
        evicted := hevicted
        videoDrops := rfl
        drops_sublist := by simp
        drops_groups := by
          intro drop hdrop
          cases List.mem_singleton.mp hdrop
          exact ⟨hnone, group_id, fun item hitem => (List.mem_filter.mp hitem).2⟩
        drops_complete := by simp
        unprotected := fun item hitem => hfree' item (List.mem_filter.mp hitem).2
        groups := rfl
        packets := by simp
        bytes := by simp
        protected_eq := rfl
        max_packets_eq := rfl
        max_bytes_eq := rfl
        running_eq := rfl
        discarded_eq := rfl
        accounted := fun h => ⟨(haccounted h).bytes, (haccounted h).unsaturated⟩ }
    · rw [if_neg hvideo, if_neg fun h => hvideo h.1]
      refine afterErase_evicts hfree' fun item _ hitem hstream => ?_
      exact absurd ((inGroup_iff.mp hitem).2.symm.trans hstream) hvideo

/-- A protected group is not dropped. -/
theorem dropGroupLocked_of_protected {q : SendQueue} {group_id : UInt32}
    {stream : QueueItem.Stream} (h : q.isProtectedVideoGroupLocked group_id stream = true) :
    q.dropGroupLocked group_id stream = q := by
  rw [dropGroupLocked, if_pos h]

/-- So dropping a group is always an eviction. -/
theorem dropGroupLocked_evicts (q : SendQueue) (group_id : UInt32) (stream : QueueItem.Stream) :
    Evicts q (q.dropGroupLocked group_id stream) := by
  cases hfree : q.isProtectedVideoGroupLocked group_id stream with
  | true =>
    rw [dropGroupLocked_of_protected hfree]
    exact Evicts.refl q
  | false => exact ⟨_, _, dropGroupLocked_evictsWith hfree⟩

/-- Dropping the unprotected group of a queued item shortens the queue. -/
theorem length_dropGroupLocked_lt {q : SendQueue} {item : QueueItem} (hmem : item ∈ q.queue_)
    (hfree : q.isProtectedVideoGroupLocked item.group_id item.stream = false) :
    (q.dropGroupLocked item.group_id item.stream).queue_.length < q.queue_.length := by
  have hevicts := dropGroupLocked_evictsWith hfree
  have hin : item ∈ q.queue_.filter (inGroup item.group_id item.stream) :=
    List.mem_filter.mpr ⟨hmem, inGroup_iff.mpr ⟨rfl, rfl⟩⟩
  have hpos := List.length_pos_of_mem hin
  have hlen := hevicts.perm.length_eq
  rw [List.length_append] at hlen
  omega

/-- Dropping parity makes the queue shorter, which ends the loop that asks for it. -/
theorem length_dropParityForGroupLocked_lt {q q' : SendQueue} {group_id : UInt32}
    {stream : QueueItem.Stream} (h : q.dropParityForGroupLocked group_id stream = some q') :
    q'.queue_.length < q.queue_.length := by
  obtain ⟨hevicts, hne⟩ := dropParityForGroupLocked_evicts h
  have hpos := List.length_pos_iff.mpr hne
  have hlen := hevicts.perm.length_eq
  rw [List.length_append] at hlen
  omega

/-! ## Backlog trimming -/

/-- Before a keyframe all older groups go. -/
theorem dropOlderGroups_evicts (q : SendQueue) (newest : UInt32) (groups : List VideoGroupInfo) :
    Evicts q (q.dropOlderGroups newest groups) := by
  unfold dropOlderGroups
  induction groups generalizing q with
  | nil => exact Evicts.refl q
  | cons group groups ih =>
    rw [List.foldl_cons]
    refine Evicts.trans ?_ (ih _)
    -- the newest group is skipped
    split
    · exact Evicts.refl q
    · exact dropGroupLocked_evicts q _ _

/-- A round of the trim drops one group. -/
theorem trimStep_evicts {newest : UInt32} {q q' : SendQueue} (h : trimStep newest q = some q') :
    Evicts q q' := by
  unfold trimStep at h
  simp only at h
  split_ifs at h
  obtain ⟨victim, -, rfl⟩ := Option.map_eq_some_iff.mp h
  exact dropGroupLocked_evicts q _ _

/-- The trim evicts, in whichever way it trims. -/
theorem trimVideoBacklogLocked_evicts (q : SendQueue) (newest : UInt32) :
    Evicts q (q.trimVideoBacklogLocked newest) := by
  unfold trimVideoBacklogLocked
  simp only
  split_ifs
  -- few groups, a keyframe at the newest, and one group after the other
  · exact Evicts.refl q
  · exact dropOlderGroups_evicts q newest _
  · exact repeatStep_rel Evicts.refl (fun _ _ _ => Evicts.trans)
      (fun _ _ => trimStep_evicts) _ q

/-! ## Capacity -/

/-- The victim of the first choice is unprotected parity. -/
theorem parityVictim_spec {q : SendQueue} {victim : QueueItem} (h : q.parityVictim = some victim) :
    victim ∈ q.queue_ ∧ victim.stream = .Video ∧ victim.is_fec_parity = true ∧
      q.isProtectedVideoGroupLocked victim.group_id victim.stream = false := by
  unfold parityVictim at h
  split at h
  · -- first among the frames without a keyframe, then among all
    rename_i item hfind
    cases h
    have hpred := List.find?_some hfind
    simp only [Bool.and_eq_true, decide_eq_true_eq, Bool.not_eq_true'] at hpred
    exact ⟨List.mem_of_find?_eq_some hfind, hpred.1.1.1, hpred.1.1.2, hpred.2⟩
  · have hpred := List.find?_some h
    simp only [Bool.and_eq_true, decide_eq_true_eq, Bool.not_eq_true'] at hpred
    exact ⟨List.mem_of_find?_eq_some h, hpred.1.1, hpred.1.2, hpred.2⟩

/-- The victim of the last choice is only known to be unprotected. -/
theorem oldestGroupVictim_spec {q : SendQueue} {victim : QueueItem}
    (h : q.oldestGroupVictim = some victim) :
    victim ∈ q.queue_ ∧ q.isProtectedVideoGroupLocked victim.group_id victim.stream = false := by
  unfold oldestGroupVictim at h
  split at h
  · -- three searches, each with fewer conditions
    rename_i item hfind
    cases h
    have hpred := List.find?_some hfind
    simp only [Bool.and_eq_true, Bool.not_eq_true'] at hpred
    exact ⟨List.mem_of_find?_eq_some hfind, hpred.2⟩
  · split at h
    · rename_i item hfind
      cases h
      have hpred := List.find?_some hfind
      simp only [Bool.and_eq_true, Bool.not_eq_true'] at hpred
      exact ⟨List.mem_of_find?_eq_some hfind, hpred.2⟩
    · have hpred := List.find?_some h
      simp only [Bool.not_eq_true'] at hpred
      exact ⟨List.mem_of_find?_eq_some h, hpred⟩

/-- One round of the capacity loop evicts, and makes progress. -/
theorem enforceStep_evicts {q q' : SendQueue} (h : enforceStep q = some q') :
    Evicts q q' ∧ q'.queue_.length < q.queue_.length := by
  unfold enforceStep at h
  split_ifs at h
  split at h
  · rename_i q'' hparity
    cases h
    unfold dropOldestVideoParityLocked at hparity
    obtain ⟨victim, -, hdrop⟩ := Option.bind_eq_some_iff.mp hparity
    exact ⟨⟨_, _, (dropParityForGroupLocked_evicts hdrop).1⟩,
      length_dropParityForGroupLocked_lt hdrop⟩
  · unfold dropOldestGroupLocked at h
    obtain ⟨victim, hvictim, rfl⟩ := Option.map_eq_some_iff.mp h
    obtain ⟨hmem, hfree⟩ := oldestGroupVictim_spec hvictim
    exact ⟨dropGroupLocked_evicts q _ _, length_dropGroupLocked_lt hmem hfree⟩

/-- The loop over the limits evicts round by round. -/
theorem enforceLimitsLocked_evicts (q : SendQueue) : Evicts q q.enforceLimitsLocked :=
  repeatStep_rel Evicts.refl (fun _ _ _ => Evicts.trans)
    (fun _ _ h => (enforceStep_evicts h).1) _ q

/-! ## Public functions -/

/-- An item brings its own bytes. -/
theorem append_accounted {q : SendQueue} (h : q.Accounted) (item : QueueItem) :
    (q.append item).Accounted := by
  refine ⟨?_, h.unsaturated⟩
  show q.queue_bytes_ + item.queuedBytes = itemsBytes (q.queue_ ++ [normalizeItem item])
  rw [h.bytes]
  simp

/-- The queue of a batch before anything is evicted. -/
theorem foldl_append_eq (q : SendQueue) (items : List QueueItem) :
    items.foldl append q =
      { q with
        queue_ := q.queue_ ++ items.map normalizeItem
        queue_bytes_ := q.queue_bytes_ + itemsBytes items } := by
  induction items generalizing q with
  | nil => simp
  | cons item items ih =>
    rw [List.foldl_cons, ih]
    simp [append, Nat.add_assoc]

/-- So does a batch. -/
theorem foldl_append_accounted {q : SendQueue} (h : q.Accounted) (items : List QueueItem) :
    (items.foldl append q).Accounted := by
  induction items generalizing q with
  | nil => exact h
  | cons item items ih => exact ih (append_accounted h item)

/-- `push` on a running queue appends and then evicts. -/
theorem push_effect {q : SendQueue} (hrun : q.running_ = true) (item : QueueItem) :
    Evicts (q.append item) (q.push item) := by
  unfold push
  simp only [hrun, Bool.not_true, Bool.false_eq_true, if_false]
  split_ifs
  · exact (trimVideoBacklogLocked_evicts _ _).trans (enforceLimitsLocked_evicts _)
  · exact enforceLimitsLocked_evicts _

/-- `pushBatch` on a running queue appends the whole batch and then evicts. -/
theorem pushBatch_effect {q : SendQueue} (hrun : q.running_ = true) (items : List QueueItem) :
    Evicts (items.foldl append q) (q.pushBatch items) := by
  unfold pushBatch
  cases items with
  | nil => exact Evicts.refl q
  | cons item items =>
    simp only [hrun, List.isEmpty_cons, Bool.not_true, Bool.false_eq_true, if_false]
    split
    · exact (trimVideoBacklogLocked_evicts _ _).trans (enforceLimitsLocked_evicts _)
    · exact enforceLimitsLocked_evicts _

/-- A stopped queue takes nothing. -/
theorem push_of_stopped {q : SendQueue} (hrun : q.running_ = false) (item : QueueItem) :
    q.push item = q := by
  simp [push, hrun]

theorem pushBatch_of_stopped {q : SendQueue} (hrun : q.running_ = false)
    (items : List QueueItem) : q.pushBatch items = q := by
  cases items <;> simp [pushBatch, hrun]

/-- A `push` is a batch of one. -/
theorem push_eq_pushBatch (q : SendQueue) (item : QueueItem) :
    q.push item = q.pushBatch [item] := by
  unfold push pushBatch newestVideoGroupEnd
  cases hend : isVideoGroupEnd item <;> simp [hend]

/-- A batch leaves only old items and items of the batch in the queue. -/
theorem mem_pushBatch {q : SendQueue} {items : List QueueItem} {item : QueueItem}
    (hitem : item ∈ (q.pushBatch items).queue_) :
    item ∈ q.queue_ ∨ item ∈ items.map normalizeItem := by
  cases hrun : q.running_ with
  | false =>
    rw [pushBatch_of_stopped hrun] at hitem
    exact Or.inl hitem
  | true =>
    obtain ⟨removed, drops, hevicts⟩ := pushBatch_effect hrun items
    have hmem := hevicts.sublist.subset hitem
    rw [foldl_append_eq] at hmem
    exact List.mem_append.mp hmem

/-- What a removal returns: the first selected item, taken out of the queue. -/
theorem removeFirst_spec {select : QueueItem → Bool} {q q' : SendQueue} {item : QueueItem}
    (h : q.removeFirst select = some (item, q')) :
    q.queue_.find? select = some item ∧ q'.queue_ = q.queue_.eraseP select ∧
      (item :: q'.queue_).Perm q.queue_ ∧ (q.Accounted → q'.Accounted) ∧
      q' = { q with
        queue_ := q'.queue_
        queue_bytes_ := q'.queue_bytes_
        history := { q.history with saturated := q'.history.saturated } } := by
  unfold removeFirst at h
  obtain ⟨found, hfind, heq⟩ := Option.map_eq_some_iff.mp h
  cases heq
  -- the item comes from its own place in the queue
  have hperm : (item :: q.queue_.eraseP select).Perm q.queue_ := by
    obtain ⟨hselect, before, after, hsplit, hbefore⟩ := List.find?_eq_some_iff_append.mp hfind
    have herase : q.queue_.eraseP select = before ++ after := by
      rw [hsplit, List.eraseP_append_right _ (by simpa using hbefore),
        List.eraseP_cons_of_pos hselect]
    rw [herase, hsplit]
    exact List.perm_middle.symm
  refine ⟨hfind, rfl, hperm, ?_, rfl⟩
  intro h
  -- its bytes are among those of the queue
  have hbytes : q.queue_bytes_ = item.queuedBytes + itemsBytes (q.queue_.eraseP select) := by
    rw [h.bytes, ← itemsBytes_perm hperm, itemsBytes_cons]
  refine ⟨?_, ?_⟩
  · show subtractBytes item q.queue_bytes_ = _
    rw [hbytes]
    exact subtractBytes_eq
  · show (q.history.saturated || saturates item q.queue_bytes_) = false
    rw [h.unsaturated, hbytes, saturates_eq_false]
    rfl

/-- A pop takes the item in front. -/
theorem pop_removes {q q' : SendQueue} {item : QueueItem} (h : q.pop = some (item, q')) :
    ∃ select, q.removeFirst select = some (item, q') := by
  unfold pop at h
  split_ifs at h
  exact ⟨_, h⟩

/-- A prioritized pop takes the first item of the best level. -/
theorem popPrioritized_removes {q q' : SendQueue} {item : QueueItem}
    (h : q.popPrioritized = some (item, q')) :
    ∃ select, q.removeFirst select = some (item, q') := by
  unfold popPrioritized at h
  split_ifs at h
  obtain ⟨priority, -, hremove⟩ := Option.bind_eq_some_iff.mp h
  exact ⟨_, hremove⟩

end SendQueue

end TeleopBridge.Udp
