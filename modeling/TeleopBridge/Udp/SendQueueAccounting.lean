import TeleopBridge.Udp.SendQueueEffects
import TeleopBridge.Support.Transition

/-!
# Conservation and Byte Accounting of the Send Queue

`Ledger` runs the queue together with its callers: the items a popper holds, the items
accepted so far and the snapshots taken. `Ledger.step` is one call of a public function.

## Key Result

`sendQueue_conserves`: after any sequence of calls the byte counter is exact, every
accepted item is accounted for exactly once, and the snapshots add up to what the
whole-group drops removed.
-/

namespace TeleopBridge.Udp

open Support SendQueue

/-! ## Calls -/

/-- A call of a state-changing public function. `requeueFront` names an item that an
earlier pop returned. -/
inductive QueueOp where
  | push (item : QueueItem)
  | pushBatch (items : List QueueItem)
  | requeueFront (item : QueueItem)
  | pop
  | popPrioritized
  | dropGroup (group_id : UInt32) (stream : QueueItem.Stream)
  | dropParityForGroup (group_id : UInt32) (stream : QueueItem.Stream)
  | clear
  | stop
  | setLimits (max_packets max_bytes : ℕ)
  | setProtectedVideoGroup (group_id : UInt32)
  | clearProtectedVideoGroup (group_id : UInt32)
  | snapshot
deriving DecidableEq, Repr

/-- The queue and what its callers have seen of it. -/
structure Ledger where
  queue : SendQueue := {}
  hands : List QueueItem := []
  accepted : List QueueItem := []
  snapshots : List Snapshot := []
deriving DecidableEq, Repr

namespace Ledger

/-- A pop that returned `result`. -/
def popped (s : Ledger) : Option (QueueItem × SendQueue) → Ledger
  | none => s
  | some (item, queue) => { s with queue := queue, hands := s.hands ++ [item] }

/-- One call. A stopped queue refuses items: a refused push is not accepted, and a refused
requeue leaves the item with the popper. -/
def step (s : Ledger) : QueueOp → Option Ledger
  | .push item =>
      some { s with
        queue := s.queue.push item
        accepted := if s.queue.running_ then s.accepted ++ [normalizeItem item] else s.accepted }
  | .pushBatch items =>
      some { s with
        queue := s.queue.pushBatch items
        accepted := if s.queue.running_ then s.accepted ++ items.map normalizeItem
          else s.accepted }
  | .requeueFront item =>
      if item ∈ s.hands then
        some { s with
          queue := s.queue.requeueFront item
          hands := if s.queue.running_ then s.hands.erase item else s.hands }
      else none
  | .pop => some (s.popped s.queue.pop)
  | .popPrioritized => some (s.popped s.queue.popPrioritized)
  | .dropGroup group_id stream => some { s with queue := s.queue.dropGroup group_id stream }
  | .dropParityForGroup group_id stream =>
      some { s with queue := (s.queue.dropParityForGroup group_id stream).2 }
  | .clear => some { s with queue := s.queue.clear }
  | .stop => some { s with queue := s.queue.stop }
  | .setLimits max_packets max_bytes =>
      some { s with queue := s.queue.setLimits max_packets max_bytes }
  | .setProtectedVideoGroup group_id =>
      some { s with queue := s.queue.setProtectedVideoGroup group_id }
  | .clearProtectedVideoGroup group_id =>
      some { s with queue := s.queue.clearProtectedVideoGroup group_id }
  | .snapshot =>
      some { s with queue := s.queue.snapshot.2, snapshots := s.snapshots ++ [s.queue.snapshot.1] }

/-! ## The law -/

/-- Every accepted item is in the queue, in the popper's hands, evicted or discarded. -/
def whereabouts (s : Ledger) : List QueueItem :=
  s.queue.queue_ ++ s.hands ++ s.queue.history.evicted ++ s.queue.history.discarded

/-- Conservation and accounting. -/
structure Conserved (s : Ledger) : Prop where
  accounted : s.queue.Accounted
  exactlyOnce : s.accepted.Perm s.whereabouts
  normalized : ∀ item ∈ s.accepted, normalizeItem item = item
  dropped_groups : (s.snapshots.map Snapshot.dropped_video_groups).sum +
    s.queue.dropped_video_groups_ = s.queue.history.videoDrops.length
  dropped_packets : (s.snapshots.map Snapshot.dropped_video_packets).sum +
    s.queue.dropped_video_packets_ = s.queue.history.videoDrops.flatten.length
  dropped_bytes : (s.snapshots.map Snapshot.dropped_video_bytes).sum +
    s.queue.dropped_video_bytes_ = itemsBytes s.queue.history.videoDrops.flatten
  drops_evicted : s.queue.history.videoDrops.flatten.Sublist s.queue.history.evicted
  drops_groups : ∀ drop ∈ s.queue.history.videoDrops, drop ≠ [] ∧ ∃ group_id, ∀ item ∈ drop,
    inGroup group_id .Video item = true
  drops_complete : ∀ item, item.stream = .Video → ¬(item.kind = .Datagram ∧ item.is_fec_parity) →
    s.queue.history.evicted.count item = s.queue.history.videoDrops.flatten.count item

/-- Replacing the queue by an evicted one keeps the law. -/
theorem Conserved.evicts {s : Ledger} (h : s.Conserved) {q' : SendQueue}
    (hq : Evicts s.queue q') : ({ s with queue := q' } : Ledger).Conserved := by
  obtain ⟨removed, drops, hq⟩ := hq
  refine ⟨hq.accounted h.accounted, ?_, h.normalized, ?_, ?_, ?_, ?_, ?_, ?_⟩
  · -- the removed items move from the queue to the eviction log
    rw [List.perm_iff_count]
    intro item
    have hbefore := (List.perm_iff_count.mp h.exactlyOnce) item
    have hmoved := (List.perm_iff_count.mp hq.perm) item
    simp only [whereabouts, hq.evicted, hq.discarded_eq, List.count_append] at hbefore hmoved ⊢
    omega
  · rw [hq.groups, hq.videoDrops, List.length_append, ← Nat.add_assoc, h.dropped_groups]
  · rw [hq.packets, hq.videoDrops, List.flatten_append, List.length_append, ← Nat.add_assoc,
      h.dropped_packets]
  · rw [hq.bytes, hq.videoDrops, List.flatten_append, itemsBytes_append, ← Nat.add_assoc,
      h.dropped_bytes]
  · rw [hq.evicted, hq.videoDrops, List.flatten_append]
    exact h.drops_evicted.append hq.drops_sublist
  · intro drop hdrop
    rw [hq.videoDrops] at hdrop
    rcases List.mem_append.mp hdrop with hold | hnew
    · exact h.drops_groups drop hold
    · exact hq.drops_groups drop hnew
  · intro item hvideo hkept
    rw [hq.evicted, hq.videoDrops, List.flatten_append, List.count_append, List.count_append,
      h.drops_complete item hvideo hkept, hq.drops_complete item hvideo hkept]

/-- A call that touches neither the drop counters, the logs nor the snapshots only has to
keep the byte count and every item in its place. -/
theorem Conserved.frame {s t : Ledger} (h : s.Conserved) (haccounted : t.queue.Accounted)
    (hplaces : t.accepted.Perm t.whereabouts)
    (hnormal : ∀ item ∈ t.accepted, normalizeItem item = item)
    (hsnapshots : t.snapshots = s.snapshots)
    (hgroups : t.queue.dropped_video_groups_ = s.queue.dropped_video_groups_)
    (hpackets : t.queue.dropped_video_packets_ = s.queue.dropped_video_packets_)
    (hbytes : t.queue.dropped_video_bytes_ = s.queue.dropped_video_bytes_)
    (hevicted : t.queue.history.evicted = s.queue.history.evicted)
    (hdrops : t.queue.history.videoDrops = s.queue.history.videoDrops) : t.Conserved where
  accounted := haccounted
  exactlyOnce := hplaces
  normalized := hnormal
  dropped_groups := by rw [hsnapshots, hgroups, hdrops]; exact h.dropped_groups
  dropped_packets := by rw [hsnapshots, hpackets, hdrops]; exact h.dropped_packets
  dropped_bytes := by rw [hsnapshots, hbytes, hdrops]; exact h.dropped_bytes
  drops_evicted := by rw [hevicted, hdrops]; exact h.drops_evicted
  drops_groups := by rw [hdrops]; exact h.drops_groups
  drops_complete := by rw [hevicted, hdrops]; exact h.drops_complete

/-- Accepting items keeps the law: they enter the queue and nothing else changes. -/
theorem Conserved.accepts {s : Ledger} (h : s.Conserved) (items : List QueueItem) :
    ({ s with
      queue := items.foldl append s.queue
      accepted := s.accepted ++ items.map normalizeItem } : Ledger).Conserved := by
  have hqueue := foldl_append_eq s.queue items
  refine h.frame (foldl_append_accounted h.accounted items) ?_ ?_ rfl ?_ ?_ ?_ ?_ ?_
  · -- an accepted item stands in the queue, and nowhere else
    rw [List.perm_iff_count]
    intro item
    have hbefore := (List.perm_iff_count.mp h.exactlyOnce) item
    simp only [whereabouts, hqueue, List.count_append] at hbefore ⊢
    omega
  · intro item hitem
    rcases List.mem_append.mp hitem with hold | hnew
    · exact h.normalized item hold
    · obtain ⟨raw, -, rfl⟩ := List.mem_map.mp hnew
      exact normalizeItem_idem raw
  all_goals rw [hqueue]

/-- A pop moves one item from the queue to the popper's hands. -/
theorem Conserved.removes {s : Ledger} (h : s.Conserved) {select : QueueItem → Bool}
    {item : QueueItem} {q' : SendQueue} (hpop : s.queue.removeFirst select = some (item, q')) :
    ({ s with queue := q', hands := s.hands ++ [item] } : Ledger).Conserved := by
  obtain ⟨-, -, hperm, haccounted, heq⟩ := removeFirst_spec hpop
  refine h.frame (haccounted h.accounted) ?_ h.normalized rfl ?_ ?_ ?_ ?_ ?_
  · -- the item goes from the queue to the caller's hands
    rw [List.perm_iff_count]
    intro other
    have hbefore := (List.perm_iff_count.mp h.exactlyOnce) other
    have hmoved := (List.perm_iff_count.mp hperm) other
    rw [heq]
    simp only [whereabouts, List.count_append, List.count_cons, List.count_nil] at hbefore hmoved ⊢
    omega
  all_goals rw [heq]

theorem Conserved.popped {s : Ledger} (h : s.Conserved) {result : Option (QueueItem × SendQueue)}
    (hresult : ∀ item q', result = some (item, q') →
      ∃ select, s.queue.removeFirst select = some (item, q')) : (s.popped result).Conserved := by
  cases result with
  | none => exact h
  | some pair =>
    obtain ⟨item, q'⟩ := pair
    obtain ⟨select, hpop⟩ := hresult item q' rfl
    exact h.removes hpop

/-- A successful requeue moves an item from the hands back to the queue. -/
theorem Conserved.requeues {s : Ledger} (h : s.Conserved) (hrun : s.queue.running_ = true)
    {item : QueueItem} (hheld : item ∈ s.hands) :
    ({ s with
      queue := s.queue.requeueFront item
      hands := s.hands.erase item } : Ledger).Conserved := by
  -- an item that was popped was normalized when it was accepted
  have hnormal : normalizeItem item = item := by
    refine h.normalized item (h.exactlyOnce.mem_iff.mpr ?_)
    simp only [whereabouts, List.mem_append]
    exact Or.inl (Or.inl (Or.inr hheld))
  have hqueue : s.queue.requeueFront item =
      { s.queue with
        queue_ := item :: s.queue.queue_
        queue_bytes_ := s.queue.queue_bytes_ + item.queuedBytes } := by
    simp [requeueFront, hrun, hnormal]
  rw [hqueue]
  refine h.frame ⟨?_, h.accounted.unsaturated⟩ ?_ h.normalized rfl rfl rfl rfl rfl rfl
  · show s.queue.queue_bytes_ + item.queuedBytes = itemsBytes (item :: s.queue.queue_)
    rw [h.accounted.bytes, itemsBytes_cons, Nat.add_comm]
  -- and it goes back from the hands to the queue
  · rw [List.perm_iff_count]
    intro other
    have hbefore := (List.perm_iff_count.mp h.exactlyOnce) other
    have hmoved := (List.perm_iff_count.mp (List.perm_cons_erase hheld)) other
    simp only [whereabouts, List.count_append, List.count_cons] at hbefore hmoved ⊢
    omega

/-- `clear` discards the whole queue. -/
theorem Conserved.clears {s : Ledger} (h : s.Conserved) :
    ({ s with queue := s.queue.clear } : Ledger).Conserved := by
  refine h.frame ⟨rfl, h.accounted.unsaturated⟩ ?_ h.normalized rfl rfl rfl rfl rfl rfl
  rw [List.perm_iff_count]
  intro item
  have hbefore := (List.perm_iff_count.mp h.exactlyOnce) item
  simp only [whereabouts, clear, List.count_append, List.count_nil] at hbefore ⊢
  omega

/-- `snapshot` moves the pending counters into its result. -/
theorem Conserved.snapshots_taken {s : Ledger} (h : s.Conserved) :
    ({ s with
      queue := s.queue.snapshot.2
      snapshots := s.snapshots ++ [s.queue.snapshot.1] } : Ledger).Conserved := by
  refine ⟨⟨h.accounted.bytes, h.accounted.unsaturated⟩, h.exactlyOnce, h.normalized, ?_, ?_, ?_,
    h.drops_evicted, h.drops_groups, h.drops_complete⟩
  · simpa [snapshot] using h.dropped_groups
  · simpa [snapshot] using h.dropped_packets
  · simpa [snapshot] using h.dropped_bytes

/-- One call keeps the law. -/
theorem step_conserves {s s' : Ledger} {op : QueueOp} (h : s.Conserved)
    (hstep : s.step op = some s') : s'.Conserved := by
  cases op with
  | push item =>
    cases hstep
    cases hrun : s.queue.running_ with
    -- what a running queue accepts is counted first, then what it evicts for room
    | true => exact (h.accepts [item]).evicts (push_effect hrun item)
    | false =>
      rw [push_of_stopped hrun]
      exact h
  | pushBatch items =>
    cases hstep
    cases hrun : s.queue.running_ with
    | true => exact (h.accepts items).evicts (pushBatch_effect hrun items)
    | false =>
      rw [pushBatch_of_stopped hrun]
      exact h
  | requeueFront item =>
    simp only [step] at hstep
    split_ifs at hstep with hheld hrun
    · cases hstep
      exact h.requeues hrun hheld
    · cases hstep
      -- a stopped queue does not take the item back; it stays with the sender
      have hsame : s.queue.requeueFront item = s.queue := by simp [requeueFront, hrun]
      rw [hsame]
      exact h
  | pop =>
    cases hstep
    exact h.popped fun item q' hpop => pop_removes hpop
  | popPrioritized =>
    cases hstep
    exact h.popped fun item q' hpop => popPrioritized_removes hpop
  | dropGroup group_id stream =>
    cases hstep
    exact h.evicts (dropGroupLocked_evicts _ _ _)
  | dropParityForGroup group_id stream =>
    cases hstep
    unfold dropParityForGroup
    cases hdrop : s.queue.dropParityForGroupLocked group_id stream with
    | none => exact h
    | some q' => exact h.evicts ⟨_, _, (dropParityForGroupLocked_evicts hdrop).1⟩
  | clear =>
    cases hstep
    exact h.clears
  | stop =>
    cases hstep
    have hclear := h.clears
    exact hclear.frame ⟨hclear.accounted.bytes, hclear.accounted.unsaturated⟩ hclear.exactlyOnce
      hclear.normalized rfl rfl rfl rfl rfl rfl
  -- the remaining operations move no item
  | setLimits max_packets max_bytes =>
    cases hstep
    exact h.frame ⟨h.accounted.bytes, h.accounted.unsaturated⟩ h.exactlyOnce h.normalized
      rfl rfl rfl rfl rfl rfl
  | setProtectedVideoGroup group_id =>
    cases hstep
    exact h.frame ⟨h.accounted.bytes, h.accounted.unsaturated⟩ h.exactlyOnce h.normalized
      rfl rfl rfl rfl rfl rfl
  | clearProtectedVideoGroup group_id =>
    cases hstep
    unfold clearProtectedVideoGroup
    split_ifs
    · exact h.frame ⟨h.accounted.bytes, h.accounted.unsaturated⟩ h.exactlyOnce h.normalized
        rfl rfl rfl rfl rfl rfl
    · exact h
  | snapshot =>
    cases hstep
    exact h.snapshots_taken

theorem initial_conserved : ({} : Ledger).Conserved := by
  constructor <;> simp [whereabouts]
  exact ⟨rfl, rfl⟩

end Ledger

/-! ## Status -/

theorem sum_modify_add {xs : List ℕ} {i : ℕ} (hi : i < xs.length) (c : ℕ) :
    (xs.modify i (· + c)).sum = xs.sum + c := by
  induction xs generalizing i with
  | nil => exact absurd hi (Nat.not_lt_zero i)
  | cons x xs ih =>
    cases i with
    | zero => simp; omega
    | succ i =>
      have hlt : i < xs.length := by simpa using hi
      simp [ih hlt, Nat.add_assoc]

/-- The per-priority counters cover the items walked so far. -/
theorem foldl_statusStep (items : List QueueItem) (st : Status)
    (hpackets : st.priority_packets.length = kNumPriorityLevels)
    (hbytes : st.priority_bytes.length = kNumPriorityLevels) :
    (items.foldl statusStep st).packets = st.packets ∧
    (items.foldl statusStep st).bytes = st.bytes ∧
    (items.foldl statusStep st).priority_packets.sum = st.priority_packets.sum + items.length ∧
    (items.foldl statusStep st).priority_bytes.sum = st.priority_bytes.sum + itemsBytes items := by
  induction items generalizing st with
  | nil => simp
  | cons item items ih =>
    have hlt := normalizePriority_lt item.priority
    obtain ⟨h1, h2, h3, h4⟩ := ih (statusStep st item) (by simp [statusStep, hpackets])
      (by simp [statusStep, hbytes])
    refine ⟨h1, h2, ?_, ?_⟩
    · rw [List.foldl_cons, h3]
      simp only [statusStep]
      -- one more packet of its own priority
      rw [sum_modify_add (by omega), List.length_cons]
      omega
    · rw [List.foldl_cons, h4]
      simp only [statusStep]
      rw [sum_modify_add (by omega), itemsBytes_cons]
      omega

/-- The totals of `status()` are the sums of its per-priority counts. -/
theorem status_sums {q : SendQueue} (h : q.Accounted) :
    q.status.packets = q.status.priority_packets.sum ∧
      q.status.bytes = q.status.priority_bytes.sum := by
  obtain ⟨hpackets, hbytes, hcount, hsum⟩ := foldl_statusStep q.queue_
    { packets := q.queue_.length
      bytes := q.queue_bytes_
      oldest_enqueue_steady_us := 0
      priority_packets := List.replicate kNumPriorityLevels 0
      priority_bytes := List.replicate kNumPriorityLevels 0 }
    List.length_replicate List.length_replicate
  -- the loop starts from a row of zeros
  unfold status
  rw [hpackets, hbytes, hcount, hsum, h.bytes]
  simp

/-! ## Main result -/

/-- After any sequence of calls, in any order: the byte counter is exact and never
saturated, the status totals agree, every accepted item is in exactly one place, and the
snapshots with the pending counters add up to the whole-group video drops. The drop log
holds non-empty video groups, and every evicted video item that is no parity datagram. -/
theorem sendQueue_conserves (ops : List QueueOp) (s : Ledger)
    (hrun : runSteps Ledger.step {} ops = some s) :
    s.queue.queue_bytes_ = itemsBytes s.queue.queue_ ∧
    s.queue.history.saturated = false ∧
    s.queue.status.packets = s.queue.status.priority_packets.sum ∧
    s.queue.status.bytes = s.queue.status.priority_bytes.sum ∧
    s.accepted.Perm
      (s.queue.queue_ ++ s.hands ++ s.queue.history.evicted ++ s.queue.history.discarded) ∧
    s.queue.history.videoDrops.flatten.Sublist s.queue.history.evicted ∧
    (∀ drop ∈ s.queue.history.videoDrops, drop ≠ [] ∧ ∃ group_id, ∀ item ∈ drop,
      inGroup group_id .Video item = true) ∧
    (∀ item, item.stream = .Video → ¬(item.kind = .Datagram ∧ item.is_fec_parity) →
      s.queue.history.evicted.count item = s.queue.history.videoDrops.flatten.count item) ∧
    (s.snapshots.map Snapshot.dropped_video_groups).sum + s.queue.dropped_video_groups_ =
      s.queue.history.videoDrops.length ∧
    (s.snapshots.map Snapshot.dropped_video_packets).sum + s.queue.dropped_video_packets_ =
      s.queue.history.videoDrops.flatten.length ∧
    (s.snapshots.map Snapshot.dropped_video_bytes).sum + s.queue.dropped_video_bytes_ =
      itemsBytes s.queue.history.videoDrops.flatten := by
  have h : s.Conserved :=
    runSteps_invariant (fun _ _ _ => Ledger.step_conserves) Ledger.initial_conserved hrun
  obtain ⟨hpackets, hbytes⟩ := status_sums h.accounted
  exact ⟨h.accounted.bytes, h.accounted.unsaturated, hpackets, hbytes, h.exactlyOnce,
    h.drops_evicted, h.drops_groups, h.drops_complete, h.dropped_groups, h.dropped_packets,
    h.dropped_bytes⟩

/-- A run in which a full queue drops a video group before the snapshot is taken. -/
theorem sendQueue_conserves_after_drop :
    ∃ s, runSteps Ledger.step {}
        [.setLimits 2 0, .push { stream := .Video, group_id := 1, wire_bytes := 30 },
          .push { stream := .Audio, priority := 0, wire_bytes := 10 }, .popPrioritized,
          .push { stream := .Video, group_id := 2, wire_bytes := 40 },
          .push { stream := .Video, group_id := 3, wire_bytes := 50 }, .snapshot] = some s ∧
      s.snapshots.map Snapshot.dropped_video_bytes = [30] ∧
      s.queue.queue_bytes_ = itemsBytes s.queue.queue_ :=
  ⟨_, rfl, rfl, (sendQueue_conserves
    [.setLimits 2 0, .push { stream := .Video, group_id := 1, wire_bytes := 30 },
      .push { stream := .Audio, priority := 0, wire_bytes := 10 }, .popPrioritized,
      .push { stream := .Video, group_id := 2, wire_bytes := 40 },
      .push { stream := .Video, group_id := 3, wire_bytes := 50 }, .snapshot] _ rfl).1⟩

end TeleopBridge.Udp
