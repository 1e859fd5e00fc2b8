import TeleopBridge.Udp.BacklogTrim
import TeleopBridge.Udp.ProcessFrame
import TeleopBridge.Udp.SendQueueAccounting
import TeleopBridge.Udp.SendQueueCapacity

/-!
# Keyframes under Capacity Pressure

Capacity eviction drops whole groups, P frames first; but it looks for an item without the
keyframe flag, and the `GroupEnd` of a keyframe batch carries none. The states in which
`enforceLimitsLocked` drops a group are followed through the runs of `Ledger`, with video
items pushed by `processFrame` only.

## Key Results

- `keyframesOutlive_iff`: in every such state the drop spares keyframe groups as long as it
  can exactly when an item of a P frame is ahead of the `GroupEnd`s of keyframes.
- `keyframe_dropped_first`: one keyframe followed by one P frame, and the keyframe is dropped.
-/

namespace TeleopBridge.Udp

open Support

/-! ## The flags of a batch -/

/-- The keyframe flag is set on Datagrams only. -/
def FlagOnDatagram (item : QueueItem) : Prop :=
  item.stream = .Video → item.is_keyframe = true → item.kind = .Datagram

theorem FlagOnDatagram.normalize {item : QueueItem} (h : FlagOnDatagram item) :
    FlagOnDatagram (SendQueue.normalizeItem item) := h

theorem mem_foldl_fetch (plan : List (UInt16 → QueueItem)) {s : UInt16 × List QueueItem}
    {item : QueueItem}
    (h : item ∈ (plan.foldl (fun s build => (s.1 + 1, s.2 ++ [build s.1])) s).2) :
    item ∈ s.2 ∨ ∃ build ∈ plan, ∃ n, item = build n := by
  induction plan generalizing s with
  | nil => exact Or.inl h
  | cons build plan ih =>
    -- the fold has already appended the first item
    rcases ih h with hold | ⟨other, hother, hitem⟩
    · rcases List.mem_append.mp hold with hs | hnew
      · exact Or.inl hs
      · exact Or.inr ⟨build, List.mem_cons_self, s.1, List.mem_singleton.mp hnew⟩
    · exact Or.inr ⟨other, List.mem_cons_of_mem _ hother, hitem⟩

/-- The datagrams of a plan, each with some sequence number. -/
theorem mem_fetchAll {plan : List (UInt16 → QueueItem)} {seq : UInt16} {item : QueueItem}
    (h : item ∈ (fetchAll plan seq).2) : ∃ build ∈ plan, ∃ n, item = build n :=
  (mem_foldl_fetch plan h).resolve_left List.not_mem_nil

theorem datagramPlan_kind {job : FrameJob} {build : UInt16 → QueueItem}
    (h : build ∈ datagramPlan job) (n : UInt16) : (build n).kind = .Datagram := by
  unfold datagramPlan at h
  -- the source datagrams and the parity datagrams
  rcases List.mem_append.mp h with hsource | hparity
  · obtain ⟨index, -, rfl⟩ := List.mem_map.mp hsource
    rfl
  · split_ifs at hparity
    · obtain ⟨parity, -, hparity⟩ := List.mem_flatMap.mp hparity
      obtain ⟨group, -, rfl⟩ := List.mem_map.mp hparity
      rfl
    · exact absurd hparity List.not_mem_nil

/-- Filling the shells keeps their kind. -/
theorem fillShells_kind {job : FrameJob} {shells : List QueueItem}
    (hshells : ∀ shell ∈ shells, shell.kind = .Datagram) :
    ∀ item ∈ fillShells job shells, item.kind = .Datagram := by
  intro item hitem
  unfold fillShells at hitem
  obtain ⟨i, hi, rfl⟩ := List.mem_iff_getElem.mp hitem
  rw [List.getElem_zipWith]
  have hshell : i < shells.length := by
    rw [List.length_zipWith] at hi
    omega
  exact hshells shells[i] (List.getElem_mem hshell)

/-- In a batch of `processFrame` only datagrams carry the flag: the `GroupEnd` has the
default of the struct. -/
theorem processFrame_flags {config : VideoConfig} {frame : InputFrame}
    {enqueue_steady_us : UInt64} {counters counters' : FrameCounters} {items : List QueueItem}
    (h : processFrame config frame enqueue_steady_us counters = (counters', some items)) :
    ∀ item ∈ items, FlagOnDatagram item := by
  unfold processFrame at h
  by_cases hpayload : config.max_payload = 0
  · simp [hpayload] at h
  simp only [if_neg hpayload, Prod.mk.injEq, Option.some.injEq] at h
  obtain ⟨-, rfl⟩ := h
  intro item hitem _ hflag
  have hkind : ∀ datagram ∈ (fetchAll (datagramPlan (startJob config frame enqueue_steady_us
      counters.frame_id_)) counters.packet_seq_num_).2, datagram.kind = .Datagram := by
    intro datagram hdatagram
    obtain ⟨build, hbuild, n, rfl⟩ := mem_fetchAll hdatagram
    exact datagramPlan_kind hbuild n
  unfold finishBatch at hitem
  simp only [List.mem_append] at hitem
  -- the group end is the one item that carries no flag
  rcases hitem with (hsource | hshell) | hend
  · exact hkind item (List.mem_of_mem_take hsource)
  · split_ifs at hshell
    · exact fillShells_kind (fun shell hs => hkind shell (List.mem_of_mem_drop hs)) item hshell
    · exact hkind item (List.mem_of_mem_drop hshell)
  · rw [List.mem_singleton.mp hend] at hflag
    cases hflag

/-! ## Runs -/

/-- The items that a call adds. -/
def QueueOp.pushed : QueueOp → List QueueItem
  | .push item => [item]
  | .pushBatch items => items
  | _ => []

/-- The call adds video items as a batch of `processFrame` only. -/
def QueueOp.VideoFromFrames (op : QueueOp) : Prop :=
  (∀ item ∈ op.pushed, item.stream ≠ .Video) ∨
    ∃ items config frame enqueue_steady_us counters counters',
      op = .pushBatch items ∧
        processFrame config frame enqueue_steady_us counters = (counters', some items)

theorem QueueOp.VideoFromFrames.flags {op : QueueOp} (h : op.VideoFromFrames) :
    ∀ item ∈ op.pushed, FlagOnDatagram item := by
  rcases h with hother | ⟨items, _, _, _, _, _, rfl, hframe⟩
  · exact fun item hitem hvideo => absurd hvideo (hother item hitem)
  · exact processFrame_flags hframe

namespace Ledger

/-- Only a call that adds items has something accepted. -/
theorem step_accepted {s s' : Ledger} {op : QueueOp} (hstep : s.step op = some s') :
    ∀ item ∈ s'.accepted, item ∈ s.accepted ∨
      ∃ raw ∈ op.pushed, item = SendQueue.normalizeItem raw := by
  have hsame : s'.accepted = s.accepted → ∀ item ∈ s'.accepted, item ∈ s.accepted ∨
      ∃ raw ∈ op.pushed, item = SendQueue.normalizeItem raw :=
    fun heq item hitem => Or.inl (heq ▸ hitem)
  cases op with
  | push raw =>
    cases hstep
    intro item hitem
    simp only at hitem
    split_ifs at hitem
    · rcases List.mem_append.mp hitem with hold | hnew
      · exact Or.inl hold
      · exact Or.inr ⟨raw, List.mem_cons_self, List.mem_singleton.mp hnew⟩
    · exact Or.inl hitem
  | pushBatch items =>
    cases hstep
    intro item hitem
    simp only at hitem
    split_ifs at hitem
    · rcases List.mem_append.mp hitem with hold | hnew
      · exact Or.inl hold
      · obtain ⟨raw, hraw, rfl⟩ := List.mem_map.mp hnew
        exact Or.inr ⟨raw, hraw, rfl⟩
    · exact Or.inl hitem
  -- only the two pushes accept items
  | requeueFront item =>
    apply hsame
    simp only [step] at hstep
    split_ifs at hstep <;> (cases hstep; rfl)
  | pop =>
    apply hsame
    cases hstep
    unfold popped
    split <;> rfl
  | popPrioritized =>
    apply hsame
    cases hstep
    unfold popped
    split <;> rfl
  | _ =>
    apply hsame
    cases hstep
    rfl

theorem accepted_flags {ops : List QueueOp} {s t : Ledger}
    (hops : ∀ op ∈ ops, op.VideoFromFrames) (hs : ∀ item ∈ s.accepted, FlagOnDatagram item)
    (hrun : runSteps Ledger.step s ops = some t) : ∀ item ∈ t.accepted, FlagOnDatagram item := by
  induction ops generalizing s with
  | nil =>
    cases hrun
    exact hs
  | cons op ops ih =>
    rw [List.forall_mem_cons] at hops
    obtain ⟨u, hstep, hrest⟩ := runSteps_cons_eq_some.mp hrun
    refine ih hops.2 (fun item hitem => ?_) hrest
    -- what the queue accepts comes from a frame
    rcases step_accepted hstep item hitem with hold | ⟨raw, hraw, rfl⟩
    · exact hs item hold
    · exact (hops.1.flags raw hraw).normalize

/-- Every queued item of a run was accepted, so the flag is on Datagrams only. -/
theorem run_flags {ops : List QueueOp} {s : Ledger} (hops : ∀ op ∈ ops, op.VideoFromFrames)
    (hrun : runSteps Ledger.step {} ops = some s) :
    ∀ item ∈ s.queue.queue_, FlagOnDatagram item := by
  have hconserved : s.Conserved :=
    runSteps_invariant (fun _ _ _ h hstep => step_conserves h hstep) initial_conserved hrun
  intro item hitem
  apply accepted_flags hops (by simp) hrun item
  rw [hconserved.exactlyOnce.mem_iff]
  simp [whereabouts, hitem]

end Ledger

namespace SendQueue

/-! ## Eviction states -/

/-- The queue on which a push of `items` calls `enforceLimitsLocked`. -/
def beforeLimits (q : SendQueue) (items : List QueueItem) : SendQueue :=
  let appended := items.foldl append q
  (newestVideoGroupEnd items).elim appended appended.trimVideoBacklogLocked

theorem pushBatch_eq_enforceLimits {q : SendQueue} (hrun : q.running_ = true)
    {items : List QueueItem} (hne : items ≠ []) :
    q.pushBatch items = (q.beforeLimits items).enforceLimitsLocked := by
  have hempty : items.isEmpty = false := by simpa using hne
  unfold pushBatch beforeLimits
  cases newestVideoGroupEnd items with
  | none => simp [hempty, hrun]
  | some newest => simp [hempty, hrun]

/-- A push of `items` reaches the state `r` of its capacity loop, and there drops a whole
group: the limits are exceeded and no parity is left to drop. -/
structure DropsGroupAt (q : SendQueue) (items : List QueueItem) (r : SendQueue) : Prop where
  running : q.running_ = true
  nonempty : items ≠ []
  reached : Relation.ReflTransGen (fun a b => enforceStep a = some b) (q.beforeLimits items) r
  exceeded : (!r.queue_.isEmpty && r.overLimits) = true
  noParity : r.dropOldestVideoParityLocked = none

/-- The next round of the loop is then `dropOldestGroupLocked`. -/
theorem DropsGroupAt.enforceStep_eq {q r : SendQueue} {items : List QueueItem}
    (h : DropsGroupAt q items r) : enforceStep r = r.dropOldestGroupLocked := by
  unfold enforceStep
  rw [if_pos h.exceeded, h.noParity]

theorem enforceRounds_evicts {q r : SendQueue}
    (h : Relation.ReflTransGen (fun a b => enforceStep a = some b) q r) : Evicts q r := by
  induction h with
  | refl => exact Evicts.refl _
  | tail _ hstep ih => exact ih.trans (enforceStep_evicts hstep).1

theorem DropsGroupAt.evicts {q r : SendQueue} {items : List QueueItem}
    (h : DropsGroupAt q items r) : Evicts (items.foldl append q) r := by
  have htrim : Evicts (items.foldl append q) (q.beforeLimits items) := by
    unfold beforeLimits
    cases newestVideoGroupEnd items with
    | none => exact Evicts.refl _
    | some newest => exact trimVideoBacklogLocked_evicts _ _
  exact htrim.trans (enforceRounds_evicts h.reached)

/-! ## The preference -/

/-- The group has a queued keyframe datagram. -/
def hasKeyframeDatagram (q : SendQueue) (group_id : UInt32) : Bool :=
  q.queue_.any fun item =>
    inGroup group_id .Video item && item.kind = .Datagram && item.is_keyframe

/-- A queued video item of an unprotected group. -/
def freeVideo (q : SendQueue) (item : QueueItem) : Bool :=
  item.stream = .Video && !q.protects item

/-- A video group with a keyframe datagram is dropped only when every unprotected video
group still queued has one. -/
def KeyframesOutlive (q : SendQueue) : Prop :=
  ∀ q', q.dropOldestGroupLocked = some q' →
    ∀ group_id ∈ q.videoGroups, group_id ∉ q'.videoGroups →
      q.hasKeyframeDatagram group_id = true →
      ∀ item ∈ q.queue_, q.freeVideo item = true → q.hasKeyframeDatagram item.group_id = true

/-- Every unprotected video group has a keyframe datagram, or some unflagged item of an
unprotected group without one stands ahead of all unflagged items (the `GroupEnd`s) of
unprotected groups with one. -/
def DeltaAhead (q : SendQueue) : Prop :=
  (∀ item ∈ q.queue_, q.freeVideo item = true → q.hasKeyframeDatagram item.group_id = true) ∨
    ∃ ahead delta behind, q.queue_ = ahead ++ delta :: behind ∧
      q.freeVideo delta = true ∧ delta.is_keyframe = false ∧
      q.hasKeyframeDatagram delta.group_id = false ∧
      ∀ item ∈ ahead, q.freeVideo item = true → q.hasKeyframeDatagram item.group_id = true →
        item.is_keyframe = true

theorem hasKeyframeDatagram_of_flag {q : SendQueue} {item : QueueItem}
    (hflags : FlagOnDatagram item) (hmem : item ∈ q.queue_) (hvideo : item.stream = .Video)
    (hflag : item.is_keyframe = true) : q.hasKeyframeDatagram item.group_id = true := by
  unfold hasKeyframeDatagram
  rw [List.any_eq_true]
  exact ⟨item, hmem, by simp [inGroup, hvideo, hflag, hflags hvideo hflag]⟩

/-- While an unflagged item of an unprotected video group is queued, the first one names
the group that is dropped. -/
theorem dropOldestGroupLocked_first {q : SendQueue} {ahead behind : List QueueItem}
    {first : QueueItem} (hqueue : q.queue_ = ahead ++ first :: behind)
    (hfree : q.freeVideo first = true) (hunflagged : first.is_keyframe = false)
    (hahead : ∀ item ∈ ahead, q.freeVideo item = true → item.is_keyframe = true) :
    q.dropOldestGroupLocked = some (q.dropGroupLocked first.group_id .Video) := by
  -- no free item ahead of it is unflagged, so the first search ends at it
  have hfind : (q.queue_.find? fun item =>
      item.stream = .Video && !item.is_keyframe &&
        !q.isProtectedVideoGroupLocked item.group_id item.stream) = some first := by
    rw [List.find?_eq_some_iff_append]
    simp only [freeVideo, protects, Bool.and_eq_true] at hfree
    refine ⟨by simp [hfree, hunflagged], ahead, behind, hqueue, fun item hitem => ?_⟩
    by_contra hmatch
    simp only [Bool.not_eq_true', Bool.not_eq_false, Bool.and_eq_true] at hmatch
    have hflag := hahead item hitem (by simp [freeVideo, protects, hmatch])
    simp [hflag] at hmatch
  have hvideo : first.stream = .Video := by
    simp only [freeVideo, Bool.and_eq_true, decide_eq_true_eq] at hfree
    exact hfree.1
  unfold dropOldestGroupLocked oldestGroupVictim
  simp only [hfind]
  rw [Option.map_some, hvideo]

/-- Dropping a group removes it and no other. -/
theorem not_mem_videoGroups_dropGroupLocked {q : SendQueue} {first : QueueItem}
    (hfree : q.freeVideo first = true) {group_id : UInt32} (hmem : group_id ∈ q.videoGroups) :
    group_id ∉ (q.dropGroupLocked first.group_id .Video).videoGroups ↔
      group_id = first.group_id := by
  simp only [freeVideo, protects, Bool.and_eq_true, Bool.not_eq_true', decide_eq_true_eq] at hfree
  have hunprotected : q.isProtectedVideoGroupLocked first.group_id .Video = false :=
    hfree.1 ▸ hfree.2
  rw [mem_videoGroups_withoutGroups (dropGroupLocked_withoutGroups hunprotected)]
  simp [hmem]

/-- A queued item of an unprotected video group, without the flag. -/
def freeUnflagged (q : SendQueue) (item : QueueItem) : Bool :=
  q.freeVideo item && !item.is_keyframe

/-- The first such item names the group that the next drop takes. -/
theorem dropOldestGroupLocked_found {q : SendQueue} {first : QueueItem}
    (hfirst : q.queue_.find? q.freeUnflagged = some first) :
    q.freeVideo first = true ∧ first.is_keyframe = false ∧ first ∈ q.queue_ ∧
      q.dropOldestGroupLocked = some (q.dropGroupLocked first.group_id .Video) := by
  obtain ⟨hpred, ahead, behind, hqueue, hahead⟩ := List.find?_eq_some_iff_append.mp hfirst
  simp only [freeUnflagged, Bool.and_eq_true, Bool.not_eq_true'] at hpred
  have hflagged : ∀ item ∈ ahead, q.freeVideo item = true → item.is_keyframe = true := by
    intro item hitem hitemfree
    have hmiss := hahead item hitem
    simpa [freeUnflagged, hitemfree] using hmiss
  refine ⟨hpred.1, hpred.2, by simp [hqueue], ?_⟩
  exact dropOldestGroupLocked_first hqueue hpred.1 hpred.2 hflagged

theorem exists_freeUnflagged {q : SendQueue} {delta : QueueItem} (hdelta : delta ∈ q.queue_)
    (hfree : q.freeVideo delta = true) (hunflagged : delta.is_keyframe = false) :
    ∃ first, q.queue_.find? q.freeUnflagged = some first := by
  rw [← Option.isSome_iff_exists, List.find?_isSome]
  exact ⟨delta, hdelta, by simp [freeUnflagged, hfree, hunflagged]⟩

/-- If the drop spares the keyframe groups, the first unflagged item is of a P frame. -/
theorem KeyframesOutlive.deltaAhead {q : SendQueue} (houtlive : q.KeyframesOutlive)
    (hflags : ∀ item ∈ q.queue_, FlagOnDatagram item) : q.DeltaAhead := by
  by_cases hall : ∀ item ∈ q.queue_, q.freeVideo item = true →
      q.hasKeyframeDatagram item.group_id = true
  · exact Or.inl hall
  · right
    push Not at hall
    obtain ⟨delta, hdelta, hfree, hnokey⟩ := hall
    -- `delta` has no flag, else its group had a keyframe datagram
    have hunflagged : delta.is_keyframe = false := by
      by_contra hflag
      simp only [freeVideo, Bool.and_eq_true, decide_eq_true_eq] at hfree
      exact hnokey (hasKeyframeDatagram_of_flag (hflags delta hdelta) hdelta hfree.1
        (Bool.not_eq_false _ ▸ hflag))
    obtain ⟨first, hfirst⟩ := exists_freeUnflagged hdelta hfree hunflagged
    obtain ⟨hfirstfree, hfirstflag, hmem, hdrop⟩ := dropOldestGroupLocked_found hfirst
    have hgroup : first.group_id ∈ q.videoGroups := by
      have hvideo := hfirstfree
      simp only [freeVideo, Bool.and_eq_true, decide_eq_true_eq] at hvideo
      exact mem_videoGroups.mpr ⟨first, hmem, inGroup_iff.mpr ⟨rfl, hvideo.1⟩⟩
    obtain ⟨-, ahead, behind, hqueue, hahead⟩ := List.find?_eq_some_iff_append.mp hfirst
    refine ⟨ahead, first, behind, hqueue, hfirstfree, hfirstflag, ?_, ?_⟩
    · -- its group is dropped while that of `delta` stays, so it has no keyframe datagram
      by_contra hkey
      exact hnokey (houtlive _ hdrop first.group_id hgroup
        ((not_mem_videoGroups_dropGroupLocked hfirstfree hgroup).mpr rfl)
        (Bool.not_eq_false _ ▸ hkey) delta hdelta hfree)
    · intro item hitem hitemfree _
      have hmiss := hahead item hitem
      simpa [freeUnflagged, hitemfree] using hmiss

/-- The victim is `delta` or an unflagged item ahead of it. -/
theorem DeltaAhead.keyframesOutlive {q : SendQueue} (h : q.DeltaAhead) : q.KeyframesOutlive := by
  rcases h with hall | ⟨ahead, delta, behind, hqueue, hfree, hunflagged, hnokey, hahead⟩
  · intro q' _ group_id _ _ _
    exact hall
  · intro q' hdrop group_id hmem hgone hkey
    have hself : q.freeUnflagged delta = true := by simp [freeUnflagged, hfree, hunflagged]
    obtain ⟨first, hfirst⟩ := exists_freeUnflagged (by simp [hqueue]) hfree hunflagged
    obtain ⟨hfirstfree, hfirstflag, -, hfound⟩ := dropOldestGroupLocked_found hfirst
    -- the victim is the delta frame itself, or an unflagged item ahead of it
    have hfirstnokey : q.hasKeyframeDatagram first.group_id = false := by
      rw [hqueue, List.find?_append] at hfirst
      cases hsearch : ahead.find? q.freeUnflagged with
      | none =>
        rw [hsearch, Option.none_or, List.find?_cons_of_pos hself] at hfirst
        cases hfirst
        exact hnokey
      | some item =>
        rw [hsearch, Option.some_or] at hfirst
        cases hfirst
        by_contra hhas
        have hflag := hahead first (List.mem_of_find?_eq_some hsearch) hfirstfree
          (Bool.not_eq_false _ ▸ hhas)
        rw [hfirstflag] at hflag
        cases hflag
    rw [hfound] at hdrop
    cases hdrop
    have hsame := (not_mem_videoGroups_dropGroupLocked hfirstfree hmem).mp hgone
    rw [hsame, hfirstnokey] at hkey
    cases hkey

/-- The exact condition, on any queue whose keyframe flags are on Datagrams only. -/
theorem keyframesOutlive_iff_deltaAhead {q : SendQueue}
    (hflags : ∀ item ∈ q.queue_, FlagOnDatagram item) : q.KeyframesOutlive ↔ q.DeltaAhead :=
  ⟨fun houtlive => houtlive.deltaAhead hflags, DeltaAhead.keyframesOutlive⟩

/-! ## Main result -/

/-- In every run whose video items are batches of `processFrame`, with any limits, any
protected group and any calls, and for every further such push: at each state in which its
capacity loop drops a whole group, keyframe groups outlive the others if and only if
`DeltaAhead` holds there. -/
theorem keyframesOutlive_iff {ops : List QueueOp} {s : Ledger} {op : QueueOp} {r : SendQueue}
    (hops : ∀ op ∈ ops, op.VideoFromFrames) (hrun : runSteps Ledger.step {} ops = some s)
    (hop : op.VideoFromFrames) (hdrops : s.queue.DropsGroupAt op.pushed r) :
    r.KeyframesOutlive ↔ r.DeltaAhead := by
  apply keyframesOutlive_iff_deltaAhead
  intro item hitem
  obtain ⟨removed, drops, hevicts⟩ := hdrops.evicts
  -- what is queued when the drop comes was queued before or is part of the push
  have hmem := hevicts.sublist.subset hitem
  rw [foldl_append_eq] at hmem
  rcases List.mem_append.mp hmem with hold | hnew
  · exact Ledger.run_flags hops hrun item hold
  · obtain ⟨raw, hraw, rfl⟩ := List.mem_map.mp hnew
    exact (hop.flags raw hraw).normalize

/-! ## Two frames and room for three packets -/

/-- What `processFrame` pushes for a frame of one byte, without FEC. -/
def oneByteFrame (frame_id : UInt32) (keyframe : Bool) : List QueueItem :=
  ((processFrame ⟨4, none, 0⟩ { data := [7], keyframe := keyframe } 0
    { frame_id_ := frame_id }).2).getD []

theorem oneByteFrame_videoFromFrames (frame_id : UInt32) (keyframe : Bool) :
    (QueueOp.pushBatch (oneByteFrame frame_id keyframe)).VideoFromFrames :=
  Or.inr ⟨_, ⟨4, none, 0⟩, { data := [7], keyframe := keyframe }, 0, { frame_id_ := frame_id },
    _, rfl, rfl⟩

theorem setLimits_videoFromFrames (max_packets max_bytes : ℕ) :
    (QueueOp.setLimits max_packets max_bytes).VideoFromFrames :=
  Or.inl (by simp [QueueOp.pushed])

/-- With a P frame ahead of the keyframe, the P frame goes. -/
theorem keyframesOutlive_iff_delta_first :
    ∃ s, runSteps Ledger.step {} [.setLimits 3 0, .pushBatch (oneByteFrame 0 false)] = some s ∧
      (s.queue.beforeLimits (oneByteFrame 1 true)).KeyframesOutlive := by
  have hops : ∀ op ∈ [QueueOp.setLimits 3 0, .pushBatch (oneByteFrame 0 false)],
      op.VideoFromFrames := by
    intro op hop
    simp only [List.mem_cons, List.not_mem_nil, or_false] at hop
    rcases hop with rfl | rfl
    · exact setLimits_videoFromFrames 3 0
    · exact oneByteFrame_videoFromFrames 0 false
  refine ⟨_, rfl, ?_⟩
  apply (keyframesOutlive_iff hops rfl (oneByteFrame_videoFromFrames 1 true)
    ⟨rfl, by decide, Relation.ReflTransGen.refl, by decide, by decide⟩).mpr
  exact Or.inr ⟨[], _, _, rfl, by decide, by decide, by decide, by simp⟩

/-- A keyframe is queued and a P frame is pushed: the `GroupEnd` of the keyframe is the
first item without the flag, so the keyframe is dropped and the P frame stays. -/
theorem keyframe_dropped_first :
    ∃ s, runSteps Ledger.step {} [.setLimits 3 0, .pushBatch (oneByteFrame 0 true)] = some s ∧
      (∀ op ∈ [QueueOp.setLimits 3 0, .pushBatch (oneByteFrame 0 true),
        .pushBatch (oneByteFrame 1 false)], op.VideoFromFrames) ∧
      s.queue.DropsGroupAt (oneByteFrame 1 false) (s.queue.beforeLimits (oneByteFrame 1 false)) ∧
      ¬(s.queue.beforeLimits (oneByteFrame 1 false)).KeyframesOutlive ∧
      (s.queue.pushBatch (oneByteFrame 1 false)).queue_ =
        (oneByteFrame 1 false).map normalizeItem := by
  refine ⟨_, rfl, fun op hop => ?_,
    ⟨rfl, by decide, Relation.ReflTransGen.refl, by decide, by decide⟩, fun houtlive => ?_,
    by decide⟩
  · simp only [List.mem_cons, List.not_mem_nil, or_false] at hop
    rcases hop with rfl | rfl | rfl
    · exact setLimits_videoFromFrames 3 0
    · exact oneByteFrame_videoFromFrames 0 true
    · exact oneByteFrame_videoFromFrames 1 false
  · have hkey := houtlive _ rfl 0 (by decide) (by decide) (by decide) (groupEnd
      (startJob ⟨4, none, 0⟩ { data := [7] } 0 1)) (by decide) (by decide)
    revert hkey
    decide

end SendQueue

end TeleopBridge.Udp
