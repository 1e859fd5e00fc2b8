import TeleopBridge.Udp.SendQueueEffects
import Mathlib.Data.Finset.Card
import Mathlib.Data.Finset.Dedup
import Mathlib.Logic.Relation

/-!
# Backlog Trimming

A push that brings a video `GroupEnd` trims the backlog to `kMaxQueuedVideoGroups` video
groups. What the collected group list says about the queue is proved first; one round of
the trim and the whole trim are then stated on the queue alone.

## Key Result

`backlogTrim_law`: the trim ends with at most four video groups, removes whole groups, never
the newest or the protected one, and gives up a keyframe group only when nothing else is left.
-/

namespace TeleopBridge.Udp

open Support

namespace SendQueue

/-! ## Vocabulary -/

/-- The distinct video groups with an item in the queue. -/
def videoGroups (q : SendQueue) : Finset UInt32 :=
  ((q.queue_.filter fun item => item.stream = .Video).map QueueItem.group_id).toFinset

/-- The group has a queued item with the keyframe flag. -/
def hasKeyframe (q : SendQueue) (group_id : UInt32) : Bool :=
  q.queue_.any fun item => inGroup group_id .Video item && item.is_keyframe

/-- The trim may remove the group: it is neither the newest nor protected. -/
def trimmable (q : SendQueue) (newest group_id : UInt32) : Bool :=
  group_id ≠ newest && !q.isProtectedVideoGroupLocked group_id .Video

/-- The group of the first queued video item whose group satisfies `select`. -/
def oldestGroup (q : SendQueue) (select : UInt32 → Bool) : Option UInt32 :=
  (q.queue_.find? fun item => item.stream = .Video && select item.group_id).map
    QueueItem.group_id

/-- A group is queued exactly when one of its video items is. -/
theorem mem_videoGroups {q : SendQueue} {group_id : UInt32} :
    group_id ∈ q.videoGroups ↔ ∃ item ∈ q.queue_, inGroup group_id .Video item = true := by
  unfold videoGroups
  simp only [List.mem_toFinset, List.mem_map, List.mem_filter, decide_eq_true_eq, inGroup_iff]
  constructor
  · rintro ⟨item, ⟨hmem, hvideo⟩, hgroup⟩
    exact ⟨item, hmem, hgroup, hvideo⟩
  · rintro ⟨item, hmem, hgroup, hvideo⟩
    exact ⟨item, ⟨hmem, hvideo⟩, hgroup⟩

theorem hasKeyframe_iff {q : SendQueue} {group_id : UInt32} :
    q.hasKeyframe group_id = true ↔
      ∃ item ∈ q.queue_, inGroup group_id .Video item = true ∧ item.is_keyframe = true := by
  simp [hasKeyframe]

/-- A group with a queued keyframe item is queued. -/
theorem mem_videoGroups_of_hasKeyframe {q : SendQueue} {group_id : UInt32}
    (h : q.hasKeyframe group_id = true) : group_id ∈ q.videoGroups := by
  obtain ⟨item, hmem, hgroup, -⟩ := hasKeyframe_iff.mp h
  exact mem_videoGroups.mpr ⟨item, hmem, hgroup⟩

/-! ## The collected groups -/

/-- Marking an item adds its group at the end, unless it is listed already. -/
theorem markGroup_ids (item : QueueItem) (groups : List VideoGroupInfo) :
    (markGroup item groups).map VideoGroupInfo.group_id =
      if item.group_id ∈ groups.map VideoGroupInfo.group_id then
        groups.map VideoGroupInfo.group_id
      else groups.map VideoGroupInfo.group_id ++ [item.group_id] := by
  induction groups with
  | nil => simp [markGroup]
  | cons group groups ih =>
    unfold markGroup
    -- the walk ends at the first entry of the item's group
    by_cases hsame : group.group_id = item.group_id
    · simp [hsame]
    · rw [if_neg hsame, List.map_cons, ih]
      have hne : ¬item.group_id = group.group_id := fun h => hsame h.symm
      simp only [List.map_cons, List.mem_cons, hne, false_or]
      split <;> simp

/-- Some entry of the group carries the flag. -/
def flagOf (groups : List VideoGroupInfo) (group_id : UInt32) : Bool :=
  groups.any fun group => group.group_id = group_id && group.is_keyframe

/-- Marking an item raises the flag of its group where the item is a keyframe, and no other flag. -/
theorem flagOf_markGroup (item : QueueItem) (groups : List VideoGroupInfo) (group_id : UInt32) :
    flagOf (markGroup item groups) group_id =
      (flagOf groups group_id || (item.group_id = group_id && item.is_keyframe)) := by
  unfold flagOf
  induction groups with
  | nil => simp [markGroup]
  | cons group groups ih =>
    unfold markGroup
    by_cases hsame : group.group_id = item.group_id
    · rw [if_pos hsame, List.any_cons, List.any_cons, hsame]
      cases decide (item.group_id = group_id) <;> cases group.is_keyframe <;>
        cases item.is_keyframe <;> simp
    · rw [if_neg hsame, List.any_cons, List.any_cons, ih, Bool.or_assoc]

/-- The first listed group that satisfies `select` is that of the first marked item. -/
theorem find?_markGroup (select : UInt32 → Bool) (item : QueueItem)
    (groups : List VideoGroupInfo) :
    ((markGroup item groups).map VideoGroupInfo.group_id).find? select =
      ((groups.map VideoGroupInfo.group_id).find? select).or
        (if select item.group_id then some item.group_id else none) := by
  rw [markGroup_ids]
  split_ifs with hlisted hselect
  · -- a listed group that satisfies `select` is found in the list already
    cases hfind : (groups.map VideoGroupInfo.group_id).find? select with
    | none => exact absurd hselect (List.find?_eq_none.mp hfind _ hlisted)
    | some group_id => rfl
  · simp
  · rename_i hselect
    -- an unlisted group comes last, so it is found where nothing before it is
    simp [List.find?_append, hselect]
  · rename_i hselect
    simp [List.find?_append, hselect]

/-- The list after marking `items` one after the other. -/
def markGroups (items : List QueueItem) (groups : List VideoGroupInfo) : List VideoGroupInfo :=
  items.foldl (fun groups item => markGroup item groups) groups

/-- No group is listed twice, however often its items are marked. -/
theorem nodup_markGroups (items : List QueueItem) {groups : List VideoGroupInfo}
    (hnodup : (groups.map VideoGroupInfo.group_id).Nodup) :
    ((markGroups items groups).map VideoGroupInfo.group_id).Nodup := by
  induction items generalizing groups with
  | nil => exact hnodup
  | cons item items ih =>
    apply ih
    rw [markGroup_ids]
    split_ifs with hlisted
    · exact hnodup
    · simpa [List.nodup_append, hnodup] using hlisted

/-- The marks list the groups of the items, beside those listed before. -/
theorem mem_markGroups (items : List QueueItem) (groups : List VideoGroupInfo)
    (group_id : UInt32) :
    group_id ∈ (markGroups items groups).map VideoGroupInfo.group_id ↔
      group_id ∈ groups.map VideoGroupInfo.group_id ∨
        group_id ∈ items.map QueueItem.group_id := by
  induction items generalizing groups with
  | nil => simp [markGroups]
  | cons item items ih =>
    show group_id ∈ (markGroups items (markGroup item groups)).map VideoGroupInfo.group_id ↔ _
    rw [ih, markGroup_ids, List.map_cons, List.mem_cons]
    split_ifs with hlisted
    · -- marking a listed group adds no identifier
      constructor
      · rintro (hold | hnew)
        · exact Or.inl hold
        · exact Or.inr (Or.inr hnew)
      · rintro (hold | rfl | hnew)
        · exact Or.inl hold
        · exact Or.inl hlisted
        · exact Or.inr hnew
    · rw [List.mem_append, List.mem_singleton, or_assoc]

/-- After all marks a group is flagged where one of its items is a keyframe. -/
theorem flagOf_markGroups (items : List QueueItem) (groups : List VideoGroupInfo)
    (group_id : UInt32) :
    flagOf (markGroups items groups) group_id = (flagOf groups group_id ||
      items.any fun item => item.group_id = group_id && item.is_keyframe) := by
  induction items generalizing groups with
  | nil => simp [markGroups]
  | cons item items ih =>
    show flagOf (markGroups items (markGroup item groups)) group_id = _
    rw [ih, flagOf_markGroup, List.any_cons, Bool.or_assoc]

/-- The first listed group that satisfies a predicate is the group of the first such item. -/
theorem find?_markGroups (select : UInt32 → Bool) (items : List QueueItem)
    (groups : List VideoGroupInfo) :
    ((markGroups items groups).map VideoGroupInfo.group_id).find? select =
      ((groups.map VideoGroupInfo.group_id).find? select).or
        ((items.map QueueItem.group_id).find? select) := by
  induction items generalizing groups with
  | nil => simp [markGroups]
  | cons item items ih =>
    show ((markGroups items (markGroup item groups)).map VideoGroupInfo.group_id).find? select = _
    rw [ih, find?_markGroup, Option.or_assoc, List.map_cons, List.find?_cons]
    -- the first item decides, or the search goes on with the rest
    cases hselect : select item.group_id with
    | true => simp
    | false => simp

/-- `collectVideoGroupsLocked` marks the video items of the queue: it lists each queued video
group once, with its keyframe flag, in the order of their first items. -/
theorem collect_eq (q : SendQueue) : q.collectVideoGroupsLocked =
    markGroups (q.queue_.filter fun item => item.stream = .Video) [] := by
  unfold collectVideoGroupsLocked markGroups
  rw [List.foldl_filter]
  congr 1
  funext groups item
  by_cases hvideo : item.stream = .Video <;> simp [hvideo]

/-- The collected list names every group once. -/
theorem collect_nodup (q : SendQueue) :
    (q.collectVideoGroupsLocked.map VideoGroupInfo.group_id).Nodup := by
  rw [collect_eq]
  exact nodup_markGroups _ List.nodup_nil

/-- The collected groups are the queued video groups. -/
theorem mem_collect_ids {q : SendQueue} {group_id : UInt32} :
    group_id ∈ q.collectVideoGroupsLocked.map VideoGroupInfo.group_id ↔
      group_id ∈ q.videoGroups := by
  rw [collect_eq, mem_markGroups, videoGroups, List.mem_toFinset]
  simp

/-- The collected flag of a group says whether one of its queued items is a keyframe. -/
theorem flagOf_collect (q : SendQueue) (group_id : UInt32) :
    flagOf q.collectVideoGroupsLocked group_id = q.hasKeyframe group_id := by
  rw [collect_eq, flagOf_markGroups, hasKeyframe, List.any_filter]
  simp only [flagOf, List.any_nil, Bool.false_or]
  congr 1
  funext item
  unfold inGroup
  rw [Bool.and_left_comm, Bool.and_assoc]

/-- The length of the collected list is the number of queued video groups. -/
theorem length_collect (q : SendQueue) :
    q.collectVideoGroupsLocked.length = q.videoGroups.card := by
  rw [← List.length_map VideoGroupInfo.group_id, ← List.toFinset_card_of_nodup (collect_nodup q)]
  congr 1
  ext group_id
  rw [List.mem_toFinset, mem_collect_ids]

/-- The flag of a listed group says whether the group has a keyframe item. -/
theorem is_keyframe_of_mem_collect {q : SendQueue} {group : VideoGroupInfo}
    (h : group ∈ q.collectVideoGroupsLocked) :
    group.is_keyframe = q.hasKeyframe group.group_id := by
  rw [← flagOf_collect, flagOf]
  cases hframe : group.is_keyframe with
  | true =>
    symm
    rw [List.any_eq_true]
    exact ⟨group, h, by simp [hframe]⟩
  | false =>
    symm
    rw [List.any_eq_false]
    intro other hother
    -- the identifiers are distinct, so only `group` itself has its identifier
    by_cases hsame : other.group_id = group.group_id
    · have heq : other = group :=
        List.inj_on_of_nodup_map (collect_nodup q) hother h hsame
      simp [heq, hframe]
    · simp [hsame]

/-- A search of the collected list finds the group of the first item it selects. -/
theorem find?_collect (q : SendQueue) (select : UInt32 → Bool) :
    (q.collectVideoGroupsLocked.find? fun group => select group.group_id).map
        VideoGroupInfo.group_id = q.oldestGroup select := by
  -- without a list to begin with, the search runs over the video items of the queue
  have hsearch : (q.collectVideoGroupsLocked.map VideoGroupInfo.group_id).find? select =
      q.oldestGroup select := by
    rw [collect_eq, find?_markGroups, List.map_nil, List.find?_nil, Option.none_or, oldestGroup,
      List.find?_map, List.find?_filter]
    congr 2
    funext item
    simp
  rw [← hsearch, List.find?_map]
  rfl

/-- What the search finds is queued and satisfies the predicate. -/
theorem oldestGroup_spec {q : SendQueue} {select : UInt32 → Bool} {group_id : UInt32}
    (h : q.oldestGroup select = some group_id) :
    group_id ∈ q.videoGroups ∧ select group_id = true := by
  unfold oldestGroup at h
  obtain ⟨item, hfind, rfl⟩ := Option.map_eq_some_iff.mp h
  have hpred := List.find?_some hfind
  simp only [Bool.and_eq_true, decide_eq_true_eq] at hpred
  refine ⟨mem_videoGroups.mpr ⟨item, List.mem_of_find?_eq_some hfind, ?_⟩, hpred.2⟩
  exact inGroup_iff.mpr ⟨rfl, hpred.1⟩

/-- Where the search finds nothing, no queued group satisfies the predicate. -/
theorem oldestGroup_eq_none {q : SendQueue} {select : UInt32 → Bool}
    (h : q.oldestGroup select = none) {group_id : UInt32} (hmem : group_id ∈ q.videoGroups) :
    select group_id = false := by
  obtain ⟨item, hitem, hgroup⟩ := mem_videoGroups.mp hmem
  obtain ⟨rfl, hvideo⟩ := inGroup_iff.mp hgroup
  have hmiss := List.find?_eq_none.mp (Option.map_eq_none_iff.mp h) item hitem
  simpa [hvideo] using hmiss

/-! ## Removing whole groups -/

/-- The queued items that belong to none of the video groups `removed`. -/
def withoutGroups (q : SendQueue) (removed : List UInt32) : List QueueItem :=
  q.queue_.filter fun item => !(item.stream = .Video && decide (item.group_id ∈ removed))

/-- Dropping a free group removes exactly its items. -/
theorem dropGroupLocked_queue {q : SendQueue} {group_id : UInt32} {stream : QueueItem.Stream}
    (hfree : q.isProtectedVideoGroupLocked group_id stream = false) :
    (q.dropGroupLocked group_id stream).queue_ =
      q.queue_.filter fun item => !inGroup group_id stream item := by
  have hkept := (eraseLoop_eq (inGroup group_id stream) q).1
  unfold dropGroupLocked
  simp only [hfree, Bool.false_eq_true, if_false]
  split_ifs <;> exact hkept

/-- Dropping a video group leaves what is not in it. -/
theorem dropGroupLocked_withoutGroups {q : SendQueue} {group_id : UInt32}
    (hfree : q.isProtectedVideoGroupLocked group_id .Video = false) :
    (q.dropGroupLocked group_id .Video).queue_ = q.withoutGroups [group_id] := by
  rw [dropGroupLocked_queue hfree]
  apply List.filter_congr
  intro item _
  simp [inGroup, Bool.and_comm]

/-- A drop never moves the protection. -/
theorem isProtected_dropGroupLocked (q : SendQueue) (group_id : UInt32)
    (stream : QueueItem.Stream) (other : UInt32) (other_stream : QueueItem.Stream) :
    (q.dropGroupLocked group_id stream).isProtectedVideoGroupLocked other other_stream =
      q.isProtectedVideoGroupLocked other other_stream := by
  obtain ⟨removed, drops, hevicts⟩ := dropGroupLocked_evicts q group_id stream
  exact hevicts.isProtected_eq other other_stream

/-- A drop leaves the set of groups that may go as it is. -/
@[simp] theorem trimmable_dropGroupLocked (q : SendQueue) (group_id : UInt32)
    (stream : QueueItem.Stream) (newest other : UInt32) :
    (q.dropGroupLocked group_id stream).trimmable newest other = q.trimmable newest other := by
  unfold trimmable
  rw [isProtected_dropGroupLocked]

/-- A group that may go is not the protected one. -/
theorem unprotected_of_trimmable {q : SendQueue} {newest group_id : UInt32}
    (h : q.trimmable newest group_id = true) :
    q.isProtectedVideoGroupLocked group_id .Video = false := by
  unfold trimmable at h
  simp only [Bool.and_eq_true, Bool.not_eq_true'] at h
  exact h.2

/-- Dropping a group and then others is dropping them all at once. -/
theorem withoutGroups_dropGroupLocked {q : SendQueue} {group_id : UInt32}
    (hfree : q.isProtectedVideoGroupLocked group_id .Video = false) (removed : List UInt32) :
    (q.dropGroupLocked group_id .Video).withoutGroups removed =
      q.withoutGroups (group_id :: removed) := by
  unfold withoutGroups
  rw [dropGroupLocked_queue hfree, List.filter_filter]
  apply List.filter_congr
  intro item _
  unfold inGroup
  by_cases hvideo : item.stream = .Video
  · by_cases hgroup : item.group_id = group_id <;> simp [hvideo, hgroup]
  · simp [hvideo]

/-- The keyframe branch removes exactly the listed groups that may be trimmed. -/
theorem dropOlderGroups_queue (q : SendQueue) (newest : UInt32) (groups : List VideoGroupInfo) :
    (q.dropOlderGroups newest groups).queue_ =
      q.withoutGroups ((groups.map VideoGroupInfo.group_id).filter (q.trimmable newest)) := by
  unfold dropOlderGroups
  induction groups generalizing q with
  | nil => simp [withoutGroups]
  | cons group groups ih =>
    rw [List.foldl_cons, ih, List.map_cons]
    -- the guard of the loop body is the negation of `trimmable`
    cases htrim : q.trimmable newest group.group_id with
    | true =>
      have hguard : (decide (group.group_id = newest) ||
          q.isProtectedVideoGroupLocked group.group_id .Video) = false := by
        simpa [trimmable] using htrim
      have hsame : (q.dropGroupLocked group.group_id .Video).trimmable newest =
          q.trimmable newest := by
        funext other
        exact trimmable_dropGroupLocked q _ _ newest other
      rw [hguard, List.filter_cons, if_pos htrim]
      simp only [Bool.false_eq_true, if_false]
      rw [hsame]
      exact withoutGroups_dropGroupLocked (unprotected_of_trimmable htrim) _
    | false =>
      have hguard : (decide (group.group_id = newest) ||
          q.isProtectedVideoGroupLocked group.group_id .Video) = true := by
        unfold trimmable at htrim
        by_cases hnewest : group.group_id = newest <;> simp_all
      rw [hguard, List.filter_cons]
      simp [htrim]

/-! ## One round -/

/-- The group a round removes: the oldest without a keyframe item, or the oldest of any
kind once every group that may be trimmed has a keyframe item. -/
def IsBacklogVictim (q : SendQueue) (newest victim : UInt32) : Prop :=
  q.oldestGroup (fun group_id => q.trimmable newest group_id && !q.hasKeyframe group_id) =
      some victim ∨
    (∀ group_id ∈ q.videoGroups, q.trimmable newest group_id = true →
      q.hasKeyframe group_id = true) ∧
    q.oldestGroup (q.trimmable newest) = some victim

/-- A round of the trim from `q` to `q'`. -/
structure BacklogRound (newest : UInt32) (q q' : SendQueue) (victim : UInt32) : Prop where
  crowded : kMaxQueuedVideoGroups < q.videoGroups.card
  oldest : q.IsBacklogVictim newest victim
  queue : q'.queue_ = q.withoutGroups [victim]
  protected_eq : q'.protected_video_group_id_ = q.protected_video_group_id_

/-- A victim is queued, and is neither the newest group nor the protected one. -/
theorem IsBacklogVictim.spec {q : SendQueue} {newest victim : UInt32}
    (h : q.IsBacklogVictim newest victim) :
    victim ∈ q.videoGroups ∧ q.trimmable newest victim = true := by
  rcases h with hdelta | ⟨-, hany⟩
  · obtain ⟨hmem, hselect⟩ := oldestGroup_spec hdelta
    rw [Bool.and_eq_true] at hselect
    exact ⟨hmem, hselect.1⟩
  · exact oldestGroup_spec hany

/-- The two searches after each other choose the victim as documented: P frames first, by age. -/
theorem isBacklogVictim_of_search {q : SendQueue} {newest victim : UInt32}
    (h : (q.oldestGroup fun group_id =>
      q.trimmable newest group_id && !q.hasKeyframe group_id).or
        (q.oldestGroup (q.trimmable newest)) = some victim) :
    q.IsBacklogVictim newest victim := by
  rcases Option.or_eq_some_iff.mp h with hdelta | ⟨hnone, hany⟩
  · exact Or.inl hdelta
  · right
    refine ⟨fun group_id hmem htrim => ?_, hany⟩
    have hmiss := oldestGroup_eq_none hnone hmem
    simpa [htrim] using hmiss

/-- The victim search of the code, in terms of the queue. -/
theorem trimVictim_eq (q : SendQueue) (newest : UInt32) :
    (q.trimVictim newest q.collectVideoGroupsLocked).map VideoGroupInfo.group_id =
      (q.oldestGroup fun group_id =>
        q.trimmable newest group_id && !q.hasKeyframe group_id).or
          (q.oldestGroup (q.trimmable newest)) := by
  -- the flag of a collected group is the predicate on the queue
  have hdelta : (q.collectVideoGroupsLocked.find? fun group =>
      group.group_id ≠ newest && !group.is_keyframe &&
        !q.isProtectedVideoGroupLocked group.group_id .Video) =
      q.collectVideoGroupsLocked.find? fun group =>
        q.trimmable newest group.group_id && !q.hasKeyframe group.group_id := by
    apply List.find?_congr
    intro group hgroup
    rw [is_keyframe_of_mem_collect hgroup, trimmable, Bool.and_assoc, Bool.and_assoc]
    congr 1
    exact Bool.and_comm _ _
  unfold trimVictim
  simp only [hdelta]
  rw [← find?_collect q fun group_id =>
    q.trimmable newest group_id && !q.hasKeyframe group_id, ← find?_collect q (q.trimmable newest)]
  cases q.collectVideoGroupsLocked.find? fun group =>
      q.trimmable newest group.group_id && !q.hasKeyframe group.group_id with
  | some victim => rfl
  | none => rfl

/-- What one round of the code's loop does. -/
theorem trimStep_round {newest : UInt32} {q q' : SendQueue} (h : trimStep newest q = some q') :
    ∃ victim, BacklogRound newest q q' victim := by
  unfold trimStep at h
  simp only at h
  split_ifs at h with hcrowded
  rw [length_collect] at hcrowded
  obtain ⟨group, hvictim, rfl⟩ := Option.map_eq_some_iff.mp h
  -- the victim of the list is the one the search on the queue finds
  have hsearch := q.trimVictim_eq newest
  rw [hvictim, Option.map_some] at hsearch
  have holdest := isBacklogVictim_of_search hsearch.symm
  have hfree := unprotected_of_trimmable holdest.spec.2
  exact ⟨group.group_id, hcrowded, holdest, dropGroupLocked_withoutGroups hfree,
    (dropGroupLocked_evictsWith hfree).protected_eq⟩

/-- A round shortens the queue. -/
theorem length_trimStep_lt {newest : UInt32} {q q' : SendQueue}
    (h : trimStep newest q = some q') : q'.queue_.length < q.queue_.length := by
  obtain ⟨victim, hround⟩ := trimStep_round h
  obtain ⟨hmem, -⟩ := hround.oldest.spec
  obtain ⟨item, hitem, hgroup⟩ := mem_videoGroups.mp hmem
  obtain ⟨hid, hvideo⟩ := inGroup_iff.mp hgroup
  rw [hround.queue, withoutGroups]
  apply List.length_filter_lt_length_iff_exists.mpr
  exact ⟨item, hitem, by simp [hid, hvideo]⟩

/-- With at most four groups there is no further round, and conversely: among five groups
one is neither the newest nor protected. -/
theorem trimStep_eq_none_iff {newest : UInt32} {q : SendQueue} :
    trimStep newest q = none ↔ q.videoGroups.card ≤ kMaxQueuedVideoGroups := by
  constructor
  · intro h
    by_contra hcrowded
    unfold trimStep at h
    simp only at h
    rw [if_pos (by rw [length_collect]; omega), Option.map_eq_none_iff] at h
    have hsearch := q.trimVictim_eq newest
    rw [h, Option.map_none] at hsearch
    have hnone := (Option.or_eq_none_iff.mp hsearch.symm).2
    -- every queued group is then the newest or the protected one
    have hsub : q.videoGroups ⊆ {newest, q.protected_video_group_id_} := by
      intro group_id hmem
      have hkept := oldestGroup_eq_none hnone hmem
      unfold trimmable isProtectedVideoGroupLocked at hkept
      simp only [Finset.mem_insert, Finset.mem_singleton]
      by_cases hnewest : group_id = newest
      · exact Or.inl hnewest
      · right
        simp [hnewest] at hkept
        exact hkept.2.symm
    -- so there are at most two groups, below the limit of four
    have htwo := (Finset.card_le_card hsub).trans Finset.card_le_two
    unfold kMaxQueuedVideoGroups at hcrowded
    omega
  · intro hfew
    unfold trimStep
    simp only
    rw [if_neg (by rw [length_collect]; omega)]

/-! ## The whole trim -/

/-- What the trim for the group `newest` makes of the queue `q`. -/
structure Trimmed (newest : UInt32) (q t : SendQueue) : Prop where
  exits : trimStep newest t = none
  bounded : t.videoGroups.card ≤ kMaxQueuedVideoGroups
  wholeGroups : ∃ removed : List UInt32,
    (∀ group_id ∈ removed, group_id ≠ newest ∧
      q.isProtectedVideoGroupLocked group_id .Video = false) ∧
    t.queue_ = q.withoutGroups removed
  idle : q.videoGroups.card ≤ kMaxQueuedVideoGroups → t = q
  keyframe : kMaxQueuedVideoGroups < q.videoGroups.card → q.hasKeyframe newest = true →
    ∀ group_id, group_id ∈ t.videoGroups ↔ group_id ∈ q.videoGroups ∧
      (group_id = newest ∨ q.isProtectedVideoGroupLocked group_id .Video = true)
  rounds : q.hasKeyframe newest = false →
    Relation.ReflTransGen (fun r r' => ∃ victim, BacklogRound newest r r' victim) q t

/-- Removing some groups and then others removes both. -/
theorem withoutGroups_withoutGroups {q r t : SendQueue} {xs ys : List UInt32}
    (hr : r.queue_ = q.withoutGroups xs) (ht : t.queue_ = r.withoutGroups ys) :
    t.queue_ = q.withoutGroups (xs ++ ys) := by
  rw [ht, withoutGroups, hr, withoutGroups, withoutGroups, List.filter_filter]
  apply List.filter_congr
  intro item _
  cases decide (item.stream = .Video) <;> simp [Bool.and_comm]

/-- Rounds remove whole groups, each neither the newest nor protected. -/
theorem rounds_wholeGroups {newest : UInt32} {q t : SendQueue}
    (h : Relation.ReflTransGen (fun r r' => ∃ victim, BacklogRound newest r r' victim) q t) :
    t.protected_video_group_id_ = q.protected_video_group_id_ ∧
      ∃ removed : List UInt32, (∀ group_id ∈ removed, q.trimmable newest group_id = true) ∧
        t.queue_ = q.withoutGroups removed := by
  induction h with
  | refl => exact ⟨rfl, [], by simp, by simp [withoutGroups]⟩
  | @tail r t _ hround ih =>
    obtain ⟨hsame, removed, hfree, hqueue⟩ := ih
    obtain ⟨victim, hround⟩ := hround
    refine ⟨hround.protected_eq.trans hsame, removed ++ [victim], fun group_id hmem => ?_,
      withoutGroups_withoutGroups hqueue hround.queue⟩
    -- the last victim was free in its own round, under the same protection
    rcases List.mem_append.mp hmem with hold | hlast
    · exact hfree group_id hold
    · cases List.mem_singleton.mp hlast
      have htrim := hround.oldest.spec.2
      unfold trimmable isProtectedVideoGroupLocked at htrim ⊢
      rwa [hsame] at htrim

/-- The groups left once `removed` are gone. -/
theorem mem_videoGroups_withoutGroups {q t : SendQueue} {removed : List UInt32}
    (h : t.queue_ = q.withoutGroups removed) {group_id : UInt32} :
    group_id ∈ t.videoGroups ↔ group_id ∈ q.videoGroups ∧ group_id ∉ removed := by
  rw [mem_videoGroups, mem_videoGroups, h]
  unfold withoutGroups
  simp only [List.mem_filter, inGroup_iff]
  constructor
  -- an item that stays is either no video item or of a group not removed
  · rintro ⟨item, ⟨hmem, hkept⟩, rfl, hvideo⟩
    refine ⟨⟨item, hmem, rfl, hvideo⟩, ?_⟩
    simpa [hvideo] using hkept
  · rintro ⟨⟨item, hmem, rfl, hvideo⟩, hkept⟩
    exact ⟨item, ⟨hmem, by simp [hvideo, hkept]⟩, rfl, hvideo⟩

/-- The flag by which the code chooses its branch. -/
theorem newest_is_keyframe_eq (q : SendQueue) (newest : UInt32) :
    ((q.collectVideoGroupsLocked.find? fun group => group.group_id = newest).map
      VideoGroupInfo.is_keyframe).getD false = q.hasKeyframe newest := by
  cases hfind : q.collectVideoGroupsLocked.find? fun group => group.group_id = newest with
  | some group =>
    have hid : group.group_id = newest := by simpa using List.find?_some hfind
    rw [← hid]
    exact is_keyframe_of_mem_collect (List.mem_of_find?_eq_some hfind)
  | none =>
    symm
    show q.hasKeyframe newest = false
    -- a group with a keyframe is queued, so the list names it
    by_contra hkey
    have hmem := mem_videoGroups_of_hasKeyframe (Bool.not_eq_false _ ▸ hkey)
    obtain ⟨group, hgroup, hid⟩ := List.mem_map.mp (mem_collect_ids.mpr hmem)
    exact List.find?_eq_none.mp hfind group hgroup (by simp [hid])

/-- A new keyframe leaves the newest and the protected group. -/
theorem dropOlderGroups_survivors (q : SendQueue) (newest : UInt32) (group_id : UInt32) :
    group_id ∈ (q.dropOlderGroups newest q.collectVideoGroupsLocked).videoGroups ↔
      group_id ∈ q.videoGroups ∧
        (group_id = newest ∨ q.isProtectedVideoGroupLocked group_id .Video = true) := by
  rw [mem_videoGroups_withoutGroups (dropOlderGroups_queue q newest _)]
  apply and_congr_right
  intro hmem
  rw [List.mem_filter, not_and]
  have hlisted := mem_collect_ids.mpr hmem
  unfold trimmable
  -- `trimmable` leaves out the newest group and the protected one
  by_cases hnewest : group_id = newest <;> simp [hnewest, hlisted]

/-- The newest and the protected group together are within the limit. -/
theorem card_survivors_le {q t : SendQueue} {newest : UInt32}
    (h : ∀ group_id, group_id ∈ t.videoGroups ↔ group_id ∈ q.videoGroups ∧
      (group_id = newest ∨ q.isProtectedVideoGroupLocked group_id .Video = true)) :
    t.videoGroups.card ≤ kMaxQueuedVideoGroups := by
  have hsub : t.videoGroups ⊆ {newest, q.protected_video_group_id_} := by
    intro group_id hmem
    simp only [Finset.mem_insert, Finset.mem_singleton]
    rcases ((h group_id).mp hmem).2 with hnewest | hprotected
    · exact Or.inl hnewest
    · right
      simp only [isProtectedVideoGroupLocked, Bool.and_eq_true, decide_eq_true_eq] at hprotected
      exact hprotected.2.symm
  have htwo := (Finset.card_le_card hsub).trans Finset.card_le_two
  unfold kMaxQueuedVideoGroups
  omega

/-- The trim does what its law says, on every queue. -/
theorem trimVideoBacklogLocked_trimmed (q : SendQueue) (newest : UInt32) :
    Trimmed newest q (q.trimVideoBacklogLocked newest) := by
  unfold trimVideoBacklogLocked
  simp only [length_collect, newest_is_keyframe_eq]
  split_ifs with hfew hkey
  · -- at most four groups: nothing happens
    exact {
      exits := trimStep_eq_none_iff.mpr hfew
      bounded := hfew
      wholeGroups := ⟨[], by simp, by simp [withoutGroups]⟩
      idle := fun _ => rfl
      keyframe := fun hmany => absurd hmany (by omega)
      rounds := fun _ => Relation.ReflTransGen.refl }
  · -- a new keyframe: one pass over the collected list
    have hsurvivors := dropOlderGroups_survivors q newest
    have hbound := card_survivors_le hsurvivors
    refine {
      exits := trimStep_eq_none_iff.mpr hbound
      bounded := hbound
      wholeGroups := ⟨_, fun group_id hmem => ?_, dropOlderGroups_queue q newest _⟩
      idle := fun h => absurd h hfew
      keyframe := fun _ _ => hsurvivors
      rounds := fun hdelta => Bool.noConfusion (hkey.symm.trans hdelta) }
    have htrim := (List.mem_filter.mp hmem).2
    simpa [trimmable] using htrim
  · -- the loop, one group a round
    have hexit : trimStep newest (repeatStep (trimStep newest) q.queue_.length q) = none :=
      repeatStep_exit (fun r : SendQueue => r.queue_.length)
        (fun _ _ => length_trimStep_lt) _ q le_rfl
    have hrounds : Relation.ReflTransGen (fun r r' => ∃ victim, BacklogRound newest r r' victim)
        q (repeatStep (trimStep newest) q.queue_.length q) := by
      apply repeatStep_rel
      · exact fun _ => Relation.ReflTransGen.refl
      · exact fun _ _ _ => Relation.ReflTransGen.trans
      · exact fun _ _ hstep => Relation.ReflTransGen.single (trimStep_round hstep)
    obtain ⟨-, removed, hfree, hqueue⟩ := rounds_wholeGroups hrounds
    refine {
      exits := hexit
      bounded := trimStep_eq_none_iff.mp hexit
      wholeGroups := ⟨removed, fun group_id hmem => ?_, hqueue⟩
      idle := fun h => absurd h hfew
      keyframe := fun _ h => absurd h hkey
      rounds := fun _ => hrounds }
    simpa [trimmable] using hfree group_id hmem

/-! ## Main result -/

/-- The newest video group of a batch is that of its last video `GroupEnd`. -/
theorem newestVideoGroupEnd_eq {earlier later : List QueueItem} {group_end : QueueItem}
    (hend : isVideoGroupEnd group_end = true)
    (hlast : ∀ item ∈ later, isVideoGroupEnd item = false) :
    newestVideoGroupEnd (earlier ++ group_end :: later) = some group_end.group_id := by
  unfold newestVideoGroupEnd
  rw [List.foldl_append, List.foldl_cons, if_pos hend]
  -- no later item is a group end, so the fold keeps the one it has
  induction later with
  | nil => rfl
  | cons item later ih =>
    rw [List.foldl_cons, if_neg (by simp [hlast item List.mem_cons_self])]
    exact ih fun other hother => hlast other (List.mem_cons_of_mem _ hother)

/-- The backlog law, for every queue, protected group and batch with a video `GroupEnd`
(`group_end` is the last one; a `push` is a batch of one). A running queue appends the
batch, trims the backlog for the newest group and then enforces its limits, which only
evicts further, so that at most four video groups are left at the end of the call too. -/
theorem backlogTrim_law (q : SendQueue) (hrun : q.running_ = true)
    (earlier later : List QueueItem) (group_end : QueueItem)
    (hend : isVideoGroupEnd group_end = true)
    (hlast : ∀ item ∈ later, isVideoGroupEnd item = false) :
    let items := earlier ++ group_end :: later
    let trimmed := (items.foldl append q).trimVideoBacklogLocked group_end.group_id
    q.pushBatch items = trimmed.enforceLimitsLocked ∧
      Trimmed group_end.group_id (items.foldl append q) trimmed ∧
      (q.pushBatch items).videoGroups.card ≤ kMaxQueuedVideoGroups ∧
      q.push group_end = q.pushBatch [group_end] := by
  intro items trimmed
  have htrimmed : Trimmed group_end.group_id (items.foldl append q) trimmed :=
    trimVideoBacklogLocked_trimmed _ _
  have hpush : q.pushBatch items = trimmed.enforceLimitsLocked := by
    have hne : items.isEmpty = false := by simp [items]
    unfold pushBatch
    simp only [hne, hrun, Bool.not_true, Bool.false_eq_true, if_false]
    rw [newestVideoGroupEnd_eq hend hlast]
  refine ⟨hpush, htrimmed, ?_, push_eq_pushBatch q group_end⟩
  obtain ⟨removed, drops, hevicts⟩ := enforceLimitsLocked_evicts trimmed
  -- the limits are enforced afterwards, which only takes groups away
  have hsub : trimmed.enforceLimitsLocked.videoGroups ⊆ trimmed.videoGroups := by
    intro group_id hmem
    obtain ⟨item, hitem, hgroup⟩ := mem_videoGroups.mp hmem
    exact mem_videoGroups.mpr ⟨item, hevicts.sublist.subset hitem, hgroup⟩
  rw [hpush]
  exact (Finset.card_le_card hsub).trans htrimmed.bounded

/-- Five groups, the oldest of them a keyframe and the second protected: the trim gives up
the third. -/
theorem backlogTrim_law_five_groups :
    let video := fun group_id keyframe =>
      ({ stream := .Video, group_id := group_id, is_keyframe := keyframe } : QueueItem)
    let group_end : QueueItem := { stream := .Video, kind := .GroupEnd, group_id := 5 }
    let q : SendQueue :=
      { queue_ := [video 1 true, video 2 false, video 3 false, video 4 false]
        protected_video_group_id_ := 2 }
    Trimmed 5 ([group_end].foldl append q)
        (([group_end].foldl append q).trimVideoBacklogLocked 5) ∧
      (q.pushBatch [group_end]).queue_.map QueueItem.group_id = [1, 2, 4, 5] := by
  intro video group_end q
  exact ⟨(backlogTrim_law q rfl [] [] group_end rfl (by simp)).2.1, by decide⟩

end SendQueue

end TeleopBridge.Udp
