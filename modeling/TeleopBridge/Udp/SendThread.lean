import TeleopBridge.Udp.SendQueueEffects
import TeleopBridge.Support.Transition

/-!
# Sender Thread

Embeds the inner loop of `UdpManager::sendThreadMain` with its lambdas
`handle_queue_item`, `send_datagram` and `flush_frame`, next to any number of threads that
call the queue. Every queue function runs under the queue's lock and the rest of the
sender's loop touches only its own locals, so one step is one call of the queue or of the
socket.

The pacer only decides when the sender goes on; here it may go on at any time. Peeks,
`status` and `snapshot` do not touch the items and are left out, as are the sender's
statistics: of `FrameStats` only the two fields that decide the protection are kept.
-/

namespace TeleopBridge.Udp

open Support SendQueue

/-- `enum class SendAttemptResult` -/
inductive SendAttemptResult where
  | kSent
  | kWouldBlock
  | kDropped
deriving DecidableEq, Repr

/-- `struct FrameStats`, the local `current` of the sender. -/
structure FrameStats where
  frame_id : UInt32 := 0
  packets : ℕ := 0
deriving DecidableEq, Repr

/-- Where the sender stands: between two items, with a popped item that is not handled
yet, before the socket call, or before the `requeueFront` of an item that would block. -/
inductive SenderPc where
  | idle
  | popped (item : QueueItem)
  | sending (item : QueueItem)
  | blocked (item : QueueItem)
deriving DecidableEq, Repr

/-- The item in the sender's hands. -/
def SenderPc.hand : SenderPc → List QueueItem
  | .idle => []
  | .popped item | .sending item | .blocked item => [item]

@[simp] theorem SenderPc.hand_idle : SenderPc.idle.hand = [] := rfl

@[simp] theorem SenderPc.hand_popped (item : QueueItem) :
    (SenderPc.popped item).hand = [item] := rfl

@[simp] theorem SenderPc.hand_sending (item : QueueItem) :
    (SenderPc.sending item).hand = [item] := rfl

@[simp] theorem SenderPc.hand_blocked (item : QueueItem) :
    (SenderPc.blocked item).hand = [item] := rfl

/-- The queue and the sender. The fields from `inserted` on are auxiliary: the items in
insertion order, those the sender is done with, those whose send completed, the video
groups with a popped datagram and no handled `GroupEnd`, and the items of such groups that
a `push` or `pushBatch` evicted. -/
structure SendPath where
  queue : SendQueue := {}
  pc : SenderPc := .idle
  current : FrameStats := {}
  inserted : List QueueItem := []
  handled : List QueueItem := []
  sent : List QueueItem := []
  started : List UInt32 := []
  torn : List QueueItem := []
deriving DecidableEq, Repr

/-- A step of the sender: a pop, the handling of the popped item, the socket call of a
datagram with its result, and the requeue of a datagram that would block. -/
inductive SenderStep where
  | popPrioritized
  | handle
  | socketSend (result : SendAttemptResult)
  | requeueFront
deriving DecidableEq, Repr

/-- One step of a thread that calls the queue, or of the sender. -/
inductive SendAction where
  | push (item : QueueItem)
  | pushBatch (items : List QueueItem)
  | dropGroup (group_id : UInt32) (stream : QueueItem.Stream)
  | dropParityForGroup (group_id : UInt32) (stream : QueueItem.Stream)
  | setLimits (max_packets max_bytes : ℕ)
  | clear
  | sender (senderStep : SenderStep)
deriving DecidableEq, Repr

namespace SendPath

/-! ## The callers of the queue -/

/-- A video item of one of the groups. -/
def ofGroups (groups : List UInt32) (item : QueueItem) : Bool :=
  item.stream = .Video && groups.contains item.group_id

/-- What a call that left `queue` behind evicted. -/
def newlyEvicted (s : SendPath) (queue : SendQueue) : List QueueItem :=
  queue.history.evicted.drop s.queue.history.evicted.length

/-- A `push` or `pushBatch` of `items` that left `queue` behind. -/
def enqueued (s : SendPath) (items : List QueueItem) (queue : SendQueue) : SendPath :=
  { s with
    queue := queue
    inserted := if s.queue.running_ then s.inserted ++ items.map normalizeItem else s.inserted
    torn := s.torn ++ (s.newlyEvicted queue).filter (ofGroups s.started) }

/-! ## The sender -/

/-- The group of a popped video datagram is started. -/
def markStarted (started : List UInt32) (item : QueueItem) : List UInt32 :=
  if item.stream = .Video ∧ item.kind = .Datagram then started ++ [item.group_id] else started

/-- `send_queue_.popPrioritized(item, 0)` -/
def pop (s : SendPath) : SendPath :=
  match s.queue.popPrioritized with
  | none => s
  | some (item, queue) =>
      { s with queue := queue, pc := .popped item, started := markStarted s.started item }

/-- The item is dealt with: the sender turns to the next one. -/
def finish (s : SendPath) (item : QueueItem) : SendPath :=
  { s with pc := .idle, handled := s.handled ++ [item] }

/-- `flush_frame` -/
def flushFrame (s : SendPath) : SendPath :=
  if s.current.packets = 0 then { s with current := {} }
  else
    { s with
      queue := s.queue.clearProtectedVideoGroup s.current.frame_id
      current := {} }

/-- The start of `send_datagram`: the first datagram of a frame protects its group. -/
def protectGroup (s : SendPath) (item : QueueItem) : SendPath :=
  if item.stream = .Video ∧ s.current.packets = 0 then
    { s with
      current := { s.current with frame_id := item.group_id }
      queue := s.queue.setProtectedVideoGroup item.group_id }
  else s

/-- `handle_queue_item`, up to the socket call of a datagram. -/
def handleQueueItem (s : SendPath) (item : QueueItem) : SendPath :=
  match item.kind with
  | .GroupEnd =>
      if item.stream = .Video then
        { s.flushFrame with started := s.started.filter fun group => group ≠ item.group_id }.finish
          item
      else s.finish item
  | .Datagram => { s.protectGroup item with pc := .sending item }

/-- `socket_->send` and the rest of `send_datagram`. -/
def afterSend (s : SendPath) (item : QueueItem) : SendAttemptResult → SendPath
  | .kSent =>
      { s.finish item with
        current := if item.stream = .Video then { s.current with packets := s.current.packets + 1 }
          else s.current
        sent := s.sent ++ [item] }
  | .kDropped => s.finish item
  | .kWouldBlock => { s with pc := .blocked item }

/-- The sender's own step, if it stands where the step begins. -/
def senderStep (s : SendPath) : SenderStep → Option SendPath
  | .popPrioritized =>
      match s.pc with
      | .idle => some s.pop
      | _ => none
  | .handle =>
      match s.pc with
      | .popped item => some (s.handleQueueItem item)
      | _ => none
  | .socketSend result =>
      match s.pc with
      | .sending item => some (s.afterSend item result)
      | _ => none
  | .requeueFront =>
      match s.pc with
      | .blocked item => some { s with queue := s.queue.requeueFront item, pc := .idle }
      | _ => none

/-! ## Steps -/

/-- `clear`, as `resetSession` calls it. -/
def cleared (s : SendPath) : SendPath := { s with queue := s.queue.clear, started := [] }

/-- One step. The callers of the queue may step at any time. -/
def step (s : SendPath) : SendAction → Option SendPath
  | .push item => some (s.enqueued [item] (s.queue.push item))
  | .pushBatch items => some (s.enqueued items (s.queue.pushBatch items))
  | .dropGroup group_id stream => some { s with queue := s.queue.dropGroup group_id stream }
  | .dropParityForGroup group_id stream =>
      some { s with queue := (s.queue.dropParityForGroup group_id stream).2 }
  | .setLimits max_packets max_bytes =>
      some { s with queue := s.queue.setLimits max_packets max_bytes }
  | .clear => some s.cleared
  | .sender senderStep => s.senderStep senderStep

/-! ## What the steps leave alone -/

/-- A push keeps the queue running. -/
theorem running_push (q : SendQueue) (item : QueueItem) : (q.push item).running_ = q.running_ := by
  cases hrun : q.running_ with
  | false => rw [push_of_stopped hrun, hrun]
  | true =>
    obtain ⟨removed, drops, hevicts⟩ := push_effect hrun item
    exact hevicts.running_eq.trans hrun

theorem running_pushBatch (q : SendQueue) (items : List QueueItem) :
    (q.pushBatch items).running_ = q.running_ := by
  cases hrun : q.running_ with
  | false => rw [pushBatch_of_stopped hrun, hrun]
  | true =>
    obtain ⟨removed, drops, hevicts⟩ := pushBatch_effect hrun items
    rw [hevicts.running_eq, foldl_append_eq]
    exact hrun

/-- The sender inserts nothing and does not stop the queue. -/
theorem senderStep_frame {s s' : SendPath} {a : SenderStep} (hstep : s.senderStep a = some s') :
    s'.inserted = s.inserted ∧ s'.queue.running_ = s.queue.running_ := by
  unfold senderStep at hstep
  cases a with
  | popPrioritized =>
    cases hpc : s.pc <;> simp only [hpc, reduceCtorEq] at hstep
    cases hstep
    unfold pop
    cases hpop : s.queue.popPrioritized with
    | none => exact ⟨rfl, rfl⟩
    | some popped =>
      obtain ⟨item, q⟩ := popped
      obtain ⟨select, hremove⟩ := popPrioritized_removes hpop
      obtain ⟨-, -, -, -, heq⟩ := removeFirst_spec hremove
      refine ⟨rfl, ?_⟩
      simp only
      rw [heq]
  | handle =>
    cases hpc : s.pc <;> simp only [hpc, reduceCtorEq] at hstep
    cases hstep
    unfold handleQueueItem flushFrame protectGroup clearProtectedVideoGroup
    split <;> split_ifs <;> exact ⟨rfl, rfl⟩
  | socketSend result =>
    cases hpc : s.pc <;> simp only [hpc, reduceCtorEq] at hstep
    cases hstep
    cases result <;> exact ⟨rfl, rfl⟩
  | requeueFront =>
    cases hpc : s.pc <;> simp only [hpc, reduceCtorEq] at hstep
    cases hstep
    unfold SendQueue.requeueFront
    split_ifs <;> exact ⟨rfl, rfl⟩

end SendPath

end TeleopBridge.Udp
