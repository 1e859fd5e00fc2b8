import TeleopBridge.Udp.SendThread

/-!
# Per-Class Order of the Sender

Selection is by priority class and takes the first item of its class, so the items that
the sender is done with, the one in its hands and the queued ones, read in this order,
keep the insertion order of each class. A requeued item may stand physically in front of
items of a higher class; within its own class it is back where it was.

## Key Results

- `popPrioritized_least`, `peekPrioritized_eq`: what a pop returns and a peek announces.
- `SendPath.run_inOrder`: after any run each class is handled in insertion order.
-/

namespace TeleopBridge.Udp

open Support SendQueue

/-! ## Selection -/

/-- The normalized priority of an item. -/
def priorityClass (item : QueueItem) : ℕ := (normalizePriority item.priority).toNat

/-- Membership in a class. -/
def inClass (p : ℕ) (item : QueueItem) : Bool := priorityClass item = p

namespace SendQueue

/-- `selectPrioritizedLocked` finds the least class with a queued item. -/
theorem selectPrioritizedLocked_eq_some {q : SendQueue} {p : ℕ}
    (h : q.selectPrioritizedLocked = some p) :
    (∃ item ∈ q.queue_, priorityClass item = p) ∧ ∀ item ∈ q.queue_, p ≤ priorityClass item := by
  unfold selectPrioritizedLocked at h
  obtain ⟨hsome, -, hleast⟩ := List.find?_range_eq_some.mp h
  constructor
  · simpa [priorityClass] using hsome
  · intro item hmem
    by_contra hlt
    have hnone := hleast (priorityClass item) (Nat.lt_of_not_le hlt)
    simp only [Bool.not_eq_true', List.any_eq_false] at hnone
    exact hnone item hmem (by simp [priorityClass])

/-- A successful `popPrioritized` removes the first item of the selected class. -/
theorem popPrioritized_eq_some {q q' : SendQueue} {item : QueueItem}
    (h : q.popPrioritized = some (item, q')) :
    ∃ p, q.selectPrioritizedLocked = some p ∧ q.removeFirst (inClass p) = some (item, q') := by
  unfold popPrioritized at h
  split_ifs at h
  exact Option.bind_eq_some_iff.mp h

/-- A popped item has the smallest normalized priority in the queue. -/
theorem popPrioritized_least {q q' : SendQueue} {item : QueueItem}
    (h : q.popPrioritized = some (item, q')) :
    item ∈ q.queue_ ∧ ∀ other ∈ q.queue_, priorityClass item ≤ priorityClass other := by
  obtain ⟨p, hselect, hremove⟩ := popPrioritized_eq_some h
  obtain ⟨hfind, -⟩ := removeFirst_spec hremove
  have hclass : priorityClass item = p := by simpa [inClass] using List.find?_some hfind
  rw [hclass]
  exact ⟨List.mem_of_find?_eq_some hfind, (selectPrioritizedLocked_eq_some hselect).2⟩

/-- `peekPrioritized` describes the item that `popPrioritized` would return. -/
theorem peekPrioritized_eq (q : SendQueue) :
    q.peekPrioritized = q.popPrioritized.map fun popped => itemMeta popped.1 := by
  unfold peekPrioritized popPrioritized removeFirst
  split_ifs
  · rfl
  · cases q.selectPrioritizedLocked with
    | none => rfl
    | some p =>
      simp only [Option.bind_some, Option.map_map]
      rfl

/-- Removing the first item of a class leaves each class as it was, once the item is put
back in front. -/
theorem removeFirst_filter {q q' : SendQueue} {item : QueueItem} {p : ℕ}
    (h : q.removeFirst (inClass p) = some (item, q')) (c : ℕ) :
    (item :: q'.queue_).filter (inClass c) = q.queue_.filter (inClass c) := by
  obtain ⟨hfind, hqueue, -⟩ := removeFirst_spec h
  obtain ⟨hitem, before, after, hsplit, hbefore⟩ := List.find?_eq_some_iff_append.mp hfind
  have herase : q.queue_.eraseP (inClass p) = before ++ after := by
    rw [hsplit, List.eraseP_append_right _ (by simpa using hbefore), List.eraseP_cons_of_pos hitem]
  rw [hqueue, herase, hsplit]
  simp only [List.filter_cons, List.filter_append]
  by_cases hc : c = p
  · subst hc
    -- no item of this class stands in front of the removed one
    have hnone : before.filter (inClass c) = [] :=
      List.filter_eq_nil_iff.mpr fun other hmem => by simpa using hbefore other hmem
    simp [hnone]
  · have hother : inClass c item = false := by
      have hclass : priorityClass item = p := by simpa [inClass] using hitem
      simp [inClass, hclass, Ne.symm hc]
    simp [hother]

end SendQueue

/-! ## The order of each class -/

namespace SendPath

/-- The items that have not been evicted or cleared, in the order the sender meets the
members of a class. -/
def trail (s : SendPath) : List QueueItem := s.handled ++ s.pc.hand ++ s.queue.queue_

/-- Every class is handled in insertion order, and completed sends are handled items. -/
structure InOrder (s : SendPath) : Prop where
  classes : ∀ p, (s.trail.filter (inClass p)).Sublist (s.inserted.filter (inClass p))
  normalized : ∀ item ∈ s.inserted, normalizeItem item = item
  sent_sublist : s.sent.Sublist s.handled
  sent_datagrams : ∀ item ∈ s.sent, item.kind = .Datagram
  sending_datagram : ∀ item, s.pc = .sending item ∨ s.pc = .blocked item → item.kind = .Datagram

/-- A step that inserts nothing and handles nothing needs to keep the trail. -/
theorem InOrder.of_trail {s t : SendPath} (h : s.InOrder) (hinserted : t.inserted = s.inserted)
    (hsent : t.sent = s.sent) (hhandled : s.handled.Sublist t.handled)
    (hsending : ∀ item, t.pc = .sending item ∨ t.pc = .blocked item → item.kind = .Datagram)
    (htrail : ∀ p, (t.trail.filter (inClass p)).Sublist (s.trail.filter (inClass p))) :
    t.InOrder where
  classes := fun p => by
    rw [hinserted]
    exact (htrail p).trans (h.classes p)
  normalized := by
    rw [hinserted]
    exact h.normalized
  sent_sublist := by
    rw [hsent]
    exact h.sent_sublist.trans hhandled
  sent_datagrams := by
    rw [hsent]
    exact h.sent_datagrams
  sending_datagram := hsending

/-- A call that only replaces the queue by a sublist of it. -/
theorem InOrder.of_queue {s : SendPath} (h : s.InOrder) {q : SendQueue} {started : List UInt32}
    (hq : q.queue_.Sublist s.queue.queue_) : ({ s with queue := q, started := started }).InOrder :=
  h.of_trail rfl rfl (List.Sublist.refl _) h.sending_datagram fun _ =>
    ((List.Sublist.refl _).append hq).filter _

/-- A push that left a sublist of the old queue and the new items. -/
theorem InOrder.enqueued {s : SendPath} (h : s.InOrder) {items : List QueueItem} {q : SendQueue}
    (hstopped : s.queue.running_ = false → q = s.queue)
    (hrunning : s.queue.running_ = true → Evicts (items.foldl append s.queue) q) :
    (s.enqueued items q).InOrder := by
  unfold SendPath.enqueued
  refine ⟨fun p => ?_, fun item hitem => ?_, h.sent_sublist, h.sent_datagrams, h.sending_datagram⟩
  · cases hrun : s.queue.running_ with
    | false =>
      rw [hstopped hrun]
      exact h.classes p
    | true =>
      obtain ⟨removed, drops, hevicts⟩ := hrunning hrun
      have hqueue : q.queue_.Sublist (s.queue.queue_ ++ items.map normalizeItem) := by
        have hsublist := hevicts.sublist
        rw [foldl_append_eq] at hsublist
        exact hsublist
      have htrail : (s.handled ++ s.pc.hand ++ q.queue_).Sublist
          (s.trail ++ items.map normalizeItem) := by
        unfold trail
        rw [List.append_assoc _ s.queue.queue_]
        exact (List.Sublist.refl _).append hqueue
      simp only [trail, if_true, List.filter_append (s.inserted)]
      refine (htrail.filter (inClass p)).trans ?_
      rw [List.filter_append]
      exact (h.classes p).append (List.Sublist.refl _)
  · have hcases : item ∈ s.inserted ∨ item ∈ items.map normalizeItem := by
      cases hrun : s.queue.running_ <;> simp only [hrun] at hitem
      · exact Or.inl hitem
      · exact List.mem_append.mp hitem
    rcases hcases with hold | hnew
    · exact h.normalized item hold
    · obtain ⟨raw, -, rfl⟩ := List.mem_map.mp hnew
      exact normalizeItem_idem raw

theorem handled_flushFrame (s : SendPath) :
    s.flushFrame.handled = s.handled ∧ s.flushFrame.inserted = s.inserted ∧
      s.flushFrame.sent = s.sent ∧ s.flushFrame.pc = s.pc ∧
      s.flushFrame.queue.queue_ = s.queue.queue_ := by
  unfold flushFrame clearProtectedVideoGroup
  split_ifs <;> exact ⟨rfl, rfl, rfl, rfl, rfl⟩

theorem handled_protectGroup (s : SendPath) (item : QueueItem) :
    (s.protectGroup item).handled = s.handled ∧ (s.protectGroup item).inserted = s.inserted ∧
      (s.protectGroup item).sent = s.sent ∧
      (s.protectGroup item).queue.queue_ = s.queue.queue_ := by
  unfold protectGroup setProtectedVideoGroup
  split_ifs <;> exact ⟨rfl, rfl, rfl, rfl⟩

/-- Finishing the item in hand moves it to the end of the handled ones. -/
theorem trail_finish {s : SendPath} {item : QueueItem} (hhand : s.pc.hand = [item]) :
    (s.finish item).trail = s.trail := by
  simp [trail, finish, hhand]

theorem InOrder.mem_inserted {s : SendPath} (h : s.InOrder) {item : QueueItem}
    (hitem : item ∈ s.trail) : item ∈ s.inserted :=
  List.mem_of_mem_filter ((h.classes (priorityClass item)).subset
    (List.mem_filter.mpr ⟨hitem, by simp [inClass]⟩))

/-- The sender's steps keep the order. -/
theorem senderStep_inOrder {s s' : SendPath} {a : SenderStep} (h : s.InOrder)
    (hstep : s.senderStep a = some s') : s'.InOrder := by
  unfold senderStep at hstep
  cases a with
  | popPrioritized =>
    cases hpc : s.pc <;> simp only [hpc, reduceCtorEq] at hstep
    cases hstep
    unfold pop
    cases hpop : s.queue.popPrioritized with
    | none => exact h
    | some popped =>
      obtain ⟨item, q⟩ := popped
      obtain ⟨p, -, hremove⟩ := popPrioritized_eq_some hpop
      refine h.of_trail rfl rfl (List.Sublist.refl _) (by simp) fun c => ?_
      -- the popped item is the first of its class, so no class sees a difference
      have hclass := removeFirst_filter hremove c
      simp only [trail, hpc, SenderPc.hand_idle, SenderPc.hand_popped, List.append_nil,
        List.append_assoc, List.singleton_append, List.filter_append, hclass]
      exact List.Sublist.refl _
  | handle =>
    cases hpc : s.pc with
    | idle | sending item | blocked item => simp [hpc] at hstep
    | popped item =>
      simp only [hpc] at hstep
      cases hstep
      unfold handleQueueItem
      cases hkind : item.kind with
      | GroupEnd =>
        have hhand : s.pc.hand = [item] := by rw [hpc, SenderPc.hand_popped]
        obtain ⟨hhandled, hinserted, hsent, hpc', hqueue⟩ := handled_flushFrame s
        simp only
        split_ifs
        · refine h.of_trail hinserted hsent ?_ (by simp [finish]) fun c => ?_
          · simp [finish, hhandled]
          · rw [trail_finish (by simpa [hpc'] using hhand)]
            simp [trail, hhandled, hpc', hqueue]
        · refine h.of_trail rfl rfl (List.sublist_append_left _ _) (by simp [finish]) fun c => ?_
          rw [trail_finish hhand]
      | Datagram =>
        obtain ⟨hhandled, hinserted, hsent, hqueue⟩ := handled_protectGroup s item
        refine h.of_trail hinserted hsent ?_ ?_ fun c => ?_
        · simp [hhandled]
        · intro other hother
          simp only [SenderPc.sending.injEq, reduceCtorEq, or_false] at hother
          rw [← hother, hkind]
        · simp [trail, hhandled, hqueue, hpc]
  | socketSend result =>
    cases hpc : s.pc with
    | idle | popped item | blocked item => simp [hpc] at hstep
    | sending item =>
      have hhand : s.pc.hand = [item] := by rw [hpc, SenderPc.hand_sending]
      have hkind : item.kind = .Datagram := h.sending_datagram item (Or.inl hpc)
      have hdone : (s.finish item).InOrder :=
        h.of_trail rfl rfl (List.sublist_append_left _ _) (by simp [finish]) fun c => by
          rw [trail_finish hhand]
      simp only [hpc] at hstep
      cases hstep
      cases result with
      | kSent =>
        refine ⟨hdone.classes, hdone.normalized, ?_, ?_, by simp [afterSend, finish]⟩
        · exact h.sent_sublist.append (List.Sublist.refl [item])
        · intro other hother
          rcases List.mem_append.mp hother with hold | hnew
          · exact h.sent_datagrams other hold
          · cases List.mem_singleton.mp hnew
            exact hkind
      | kDropped => exact hdone
      | kWouldBlock =>
        refine h.of_trail rfl rfl (List.Sublist.refl _) ?_ fun c => ?_
        · intro other hother
          simp only [afterSend, reduceCtorEq, SenderPc.blocked.injEq, false_or] at hother
          rw [← hother, hkind]
        · simp [afterSend, trail, hhand]
  | requeueFront =>
    cases hpc : s.pc with
    | idle | popped item | sending item => simp [hpc] at hstep
    | blocked item =>
      simp only [hpc] at hstep
      cases hstep
      refine h.of_trail rfl rfl (List.Sublist.refl _) (by simp) fun c => ?_
      have hitem : normalizeItem item = item :=
        h.normalized item (h.mem_inserted (by simp [trail, hpc]))
      -- back in front of the queue the item stands where it stood in the sender's hands
      have htrail :
          ({ s with queue := s.queue.requeueFront item, pc := .idle } : SendPath).trail.Sublist
            s.trail := by
        unfold requeueFront
        rw [hitem]
        split_ifs <;> simp [trail, hpc]
      exact htrail.filter _

/-- One step keeps the order. -/
theorem step_inOrder {s s' : SendPath} {a : SendAction} (h : s.InOrder)
    (hstep : s.step a = some s') : s'.InOrder := by
  cases a with
  | push item =>
    cases hstep
    exact h.enqueued (fun hrun => push_of_stopped hrun item) fun hrun => push_effect hrun item
  | pushBatch items =>
    cases hstep
    exact h.enqueued (fun hrun => pushBatch_of_stopped hrun items) fun hrun =>
      pushBatch_effect hrun items
  | dropGroup group_id stream =>
    cases hstep
    obtain ⟨removed, drops, hevicts⟩ := dropGroupLocked_evicts s.queue group_id stream
    exact h.of_queue hevicts.sublist
  | dropParityForGroup group_id stream =>
    cases hstep
    refine h.of_queue ?_
    unfold dropParityForGroup
    cases hdrop : s.queue.dropParityForGroupLocked group_id stream with
    | none => exact List.Sublist.refl _
    | some q => exact (dropParityForGroupLocked_evicts hdrop).1.sublist
  | setLimits max_packets max_bytes =>
    cases hstep
    exact h.of_queue (List.Sublist.refl _)
  | clear =>
    cases hstep
    exact h.of_queue (List.nil_sublist _)
  | sender senderStep => exact senderStep_inOrder h hstep

theorem initial_inOrder {q : SendQueue} (hq : q.queue_ = []) :
    ({ queue := q } : SendPath).InOrder := by
  constructor <;> simp [trail, hq]

/-- After any run each class is handled in insertion order. -/
theorem run_inOrder {q : SendQueue} (hq : q.queue_ = []) {actions : List SendAction}
    {t : SendPath} (hrun : runSteps step { queue := q } actions = some t) : t.InOrder :=
  runSteps_invariant (fun _ _ _ => step_inOrder) (initial_inOrder hq) hrun

/-- The completed sends of a class are a subsequence of its insertions. -/
theorem InOrder.sent_class {s : SendPath} (h : s.InOrder) (p : ℕ) :
    (s.sent.filter (inClass p)).Sublist (s.inserted.filter (inClass p)) := by
  have hhandled : s.handled.Sublist s.trail := by
    unfold trail
    rw [List.append_assoc]
    exact List.sublist_append_left _ _
  exact ((h.sent_sublist.trans hhandled).filter _).trans (h.classes p)

end SendPath

end TeleopBridge.Udp
