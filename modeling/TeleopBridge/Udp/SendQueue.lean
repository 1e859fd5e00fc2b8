import TeleopBridge.Support.Loop

/-!
# Send Queue

Embeds `src/udp/send_queue.cpp` and `include/udp/send_queue.hpp`. Every public
function of the class holds the queue's mutex throughout, so each is one atomic
function on the state. A pop that times out or finds the queue stopped returns `none`;
the reasons that the drop functions only log are left out.

Sizes and counters are natural numbers where the source has `size_t` and `uint64_t`. None
of them can wrap: the items that are counted and their bytes are in memory at once, and the
totals of the dropped items only grow by what was pushed before, so that `2 ^ 64` bytes would
take centuries on a link of 10 Gbit/s.

Two fields are not in the source, and no operation reads them. `SendQueue.history` holds
auxiliary variables that record which items each operation removed and whether a
saturating subtraction ever saturated. `QueueItem.origin` numbers the session in which
the data of an item was accepted.
-/

namespace TeleopBridge.Udp

open Support

/-! ## Items -/

inductive QueueItem.Kind where
  | Datagram
  | GroupEnd
deriving DecidableEq, Repr

inductive QueueItem.Stream where
  | Video
  | Audio
  | Other
deriving DecidableEq, Repr

/-- `struct QueueItem`, with the defaults of the source, and the auxiliary `origin`. -/
structure QueueItem where
  kind : QueueItem.Kind := .Datagram
  stream : QueueItem.Stream := .Other
  group_id : UInt32 := 0
  packet_seq : UInt16 := 0
  stream_key : UInt32 := 0
  priority : UInt8 := 4
  pacing_accounted : Bool := true
  is_keyframe : Bool := false
  is_fec_parity : Bool := false
  enqueue_steady_us : UInt64 := 0
  frame_capture_steady_us : UInt64 := 0
  bytes : List UInt8 := []
  wire_bytes : ℕ := 0
  origin : ℕ := 0
deriving DecidableEq, Repr

/-- What an item adds to `queue_bytes_`: a `GroupEnd` adds nothing. -/
def QueueItem.queuedBytes (item : QueueItem) : ℕ :=
  if item.kind = .Datagram then item.wire_bytes else 0

/-- The bytes of a list of items. -/
def itemsBytes (items : List QueueItem) : ℕ := (items.map QueueItem.queuedBytes).sum

namespace SendQueue

/-- `kNumPriorityLevels` -/
def kNumPriorityLevels : ℕ := 5

/-- `kMaxQueuedVideoGroups` -/
def kMaxQueuedVideoGroups : ℕ := 4

/-- `kNoProtectedVideoGroup`, i.e. `UINT32_MAX`. -/
def kNoProtectedVideoGroup : UInt32 := 0xFFFFFFFF

/-- `normalizePriority` -/
def normalizePriority (priority : UInt8) : UInt8 :=
  UInt8.ofNat (min priority.toNat (kNumPriorityLevels - 1))

/-- `item.priority = normalizePriority(item.priority);` -/
def normalizeItem (item : QueueItem) : QueueItem :=
  { item with priority := normalizePriority item.priority }

/-- The auxiliary variables. `videoDrops` has one entry for each whole-group drop of a
video group, the items it removed. -/
structure History where
  evicted : List QueueItem := []
  discarded : List QueueItem := []
  videoDrops : List (List QueueItem) := []
  saturated : Bool := false
deriving DecidableEq, Repr

end SendQueue

/-- The members of `class SendQueue`, less its lock, with the auxiliary `history`. -/
structure SendQueue where
  queue_ : List QueueItem := []
  protected_video_group_id_ : UInt32 := SendQueue.kNoProtectedVideoGroup
  queue_bytes_ : ℕ := 0
  max_packets_ : ℕ := 0
  max_bytes_ : ℕ := 0
  running_ : Bool := true
  dropped_video_groups_ : ℕ := 0
  dropped_video_packets_ : ℕ := 0
  dropped_video_bytes_ : ℕ := 0
  history : SendQueue.History := {}
deriving DecidableEq, Repr

namespace SendQueue

/-! ## Removing items -/

/-- `isProtectedVideoGroupLocked` -/
def isProtectedVideoGroupLocked (q : SendQueue) (group_id : UInt32)
    (stream : QueueItem.Stream) : Bool :=
  stream = .Video && q.protected_video_group_id_ ≠ kNoProtectedVideoGroup &&
    q.protected_video_group_id_ = group_id

/-- `queue_bytes_ = queue_bytes_ >= wire_bytes ? queue_bytes_ - wire_bytes : 0;`, for a
Datagram only. -/
def subtractBytes (item : QueueItem) (queue_bytes : ℕ) : ℕ :=
  if item.kind = .Datagram then
    if queue_bytes ≥ item.wire_bytes then queue_bytes - item.wire_bytes else 0
  else queue_bytes

/-- Whether `subtractBytes` takes its saturating branch. -/
def saturates (item : QueueItem) (queue_bytes : ℕ) : Bool :=
  item.kind = .Datagram && !(queue_bytes ≥ item.wire_bytes)

/-- The locals of an erasing loop and the queue it has walked. -/
structure EraseLoop where
  kept : List QueueItem := []
  removed : List QueueItem := []
  queue_bytes_ : ℕ
  dropped_items : ℕ := 0
  dropped_bytes : ℕ := 0
  saturated : Bool := false

/-- One iteration of an erasing loop: `it` is erased when `victim` holds. -/
def eraseStep (victim : QueueItem → Bool) (s : EraseLoop) (it : QueueItem) : EraseLoop :=
  if victim it then
    { s with
      removed := s.removed ++ [it]
      -- the dropped bytes are counted in full, the queue's only down to zero
      dropped_bytes := s.dropped_bytes + it.queuedBytes
      queue_bytes_ := subtractBytes it s.queue_bytes_
      dropped_items := s.dropped_items + 1
      saturated := s.saturated || saturates it s.queue_bytes_ }
  else { s with kept := s.kept ++ [it] }

/-- The loop over the whole queue. -/
def eraseLoop (q : SendQueue) (victim : QueueItem → Bool) : EraseLoop :=
  q.queue_.foldl (eraseStep victim) { queue_bytes_ := q.queue_bytes_ }

/-- The queue after an erasing loop. -/
def afterErase (q : SendQueue) (s : EraseLoop) : SendQueue :=
  { q with
    -- what is kept stays in its order
    queue_ := s.kept
    queue_bytes_ := s.queue_bytes_
    history := { q.history with
      evicted := q.history.evicted ++ s.removed
      saturated := q.history.saturated || s.saturated } }

/-- `it->group_id == drop_group_id && it->stream == drop_stream` -/
def inGroup (drop_group_id : UInt32) (drop_stream : QueueItem.Stream) (it : QueueItem) : Bool :=
  it.group_id = drop_group_id && it.stream = drop_stream

/-- The items `dropParityForGroupLocked` erases. -/
def isParityOf (drop_group_id : UInt32) (drop_stream : QueueItem.Stream) (it : QueueItem) : Bool :=
  inGroup drop_group_id drop_stream it && it.kind = .Datagram && it.is_fec_parity

/-- `dropParityForGroupLocked`; `none` is `return false`, which leaves the queue as it is. -/
def dropParityForGroupLocked (q : SendQueue) (drop_group_id : UInt32)
    (drop_stream : QueueItem.Stream) : Option SendQueue :=
  if q.isProtectedVideoGroupLocked drop_group_id drop_stream then none
  else
    let s := q.eraseLoop (isParityOf drop_group_id drop_stream)
    -- a group without parity leaves the caller to drop something else
    if s.dropped_items = 0 then none else some (q.afterErase s)

/-- `dropGroupLocked` -/
def dropGroupLocked (q : SendQueue) (drop_group_id : UInt32) (drop_stream : QueueItem.Stream) :
    SendQueue :=
  if q.isProtectedVideoGroupLocked drop_group_id drop_stream then q
  else
    let s := q.eraseLoop (inGroup drop_group_id drop_stream)
    let erased := q.afterErase s
    -- only a video group that really went is counted
    if s.dropped_items = 0 then erased
    else if drop_stream = .Video then
      { erased with
        dropped_video_groups_ := q.dropped_video_groups_ + 1
        dropped_video_packets_ := q.dropped_video_packets_ + s.dropped_items
        dropped_video_bytes_ := q.dropped_video_bytes_ + s.dropped_bytes
        history := { erased.history with
          videoDrops := q.history.videoDrops ++ [s.removed] } }
    else erased

/-- `removeItemLocked` at the first item that satisfies `select`, and the item. -/
def removeFirst (select : QueueItem → Bool) (q : SendQueue) : Option (QueueItem × SendQueue) :=
  (q.queue_.find? select).map fun item =>
    (item, { q with
      queue_ := q.queue_.eraseP select
      queue_bytes_ := subtractBytes item q.queue_bytes_
      history := { q.history with
        saturated := q.history.saturated || saturates item q.queue_bytes_ } })

/-! ## Backlog trimming -/

/-- `struct VideoGroupInfo` -/
structure VideoGroupInfo where
  group_id : UInt32
  is_keyframe : Bool
deriving DecidableEq, Repr

/-- The body of the loop of `collectVideoGroupsLocked`, for a video item. -/
def markGroup (item : QueueItem) : List VideoGroupInfo → List VideoGroupInfo
  | [] => [⟨item.group_id, item.is_keyframe⟩]
  | group :: groups =>
      if group.group_id = item.group_id then
        -- one keyframe item makes the group a keyframe
        { group with is_keyframe := group.is_keyframe || item.is_keyframe } :: groups
      else group :: markGroup item groups

/-- `collectVideoGroupsLocked` -/
def collectVideoGroupsLocked (q : SendQueue) : List VideoGroupInfo :=
  -- in the order in which the groups entered the queue
  q.queue_.foldl (fun groups item =>
    if item.stream ≠ .Video then groups else markGroup item groups) []

/-- The victim of one round of the backlog loop: the first P frame that is neither the
newest nor protected, else the first such frame of any kind. -/
def trimVictim (q : SendQueue) (newest_group_id : UInt32) (groups : List VideoGroupInfo) :
    Option VideoGroupInfo :=
  let free := fun group : VideoGroupInfo =>
    group.group_id ≠ newest_group_id && !q.isProtectedVideoGroupLocked group.group_id .Video
  -- both searches go from the oldest group on
  match groups.find? fun group =>
      group.group_id ≠ newest_group_id && !group.is_keyframe &&
        !q.isProtectedVideoGroupLocked group.group_id .Video with
  | some victim => some victim
  | none => groups.find? free

/-- One round of `while (groups.size() > kMaxQueuedVideoGroups)`. -/
def trimStep (newest_group_id : UInt32) (q : SendQueue) : Option SendQueue :=
  let groups := q.collectVideoGroupsLocked
  if groups.length > kMaxQueuedVideoGroups then
    (q.trimVictim newest_group_id groups).map fun victim =>
      q.dropGroupLocked victim.group_id .Video
  else none

/-- A new keyframe replaces every other unprotected video group. -/
def dropOlderGroups (q : SendQueue) (newest_group_id : UInt32) (groups : List VideoGroupInfo) :
    SendQueue :=
  -- over the list collected before the loop; the drops do not change it
  groups.foldl (fun q group =>
    if group.group_id = newest_group_id ||
        q.isProtectedVideoGroupLocked group.group_id .Video then q
    else q.dropGroupLocked group.group_id .Video) q

/-- `trimVideoBacklogLocked` -/
def trimVideoBacklogLocked (q : SendQueue) (newest_group_id : UInt32) : SendQueue :=
  let groups := q.collectVideoGroupsLocked
  if groups.length ≤ kMaxQueuedVideoGroups then q
  else
    let newest := groups.find? fun group => group.group_id = newest_group_id
    -- a newest group that is not queued counts as no keyframe
    let newest_is_keyframe := (newest.map VideoGroupInfo.is_keyframe).getD false
    if newest_is_keyframe then q.dropOlderGroups newest_group_id groups
    -- each round takes out a group, so the items of the queue bound the rounds
    else repeatStep (trimStep newest_group_id) q.queue_.length q

/-! ## Capacity -/

/-- The victim of `dropOldestVideoParityLocked`: the first unprotected parity item of a
P frame, else the first of any frame. -/
def parityVictim (q : SendQueue) : Option QueueItem :=
  match q.queue_.find? fun item =>
      item.stream = .Video && item.is_fec_parity && !item.is_keyframe &&
        !q.isProtectedVideoGroupLocked item.group_id item.stream with
  | some item => some item
  | none => q.queue_.find? fun item =>
      item.stream = .Video && item.is_fec_parity &&
        !q.isProtectedVideoGroupLocked item.group_id item.stream

/-- `dropOldestVideoParityLocked`; `none` is `return false`. -/
def dropOldestVideoParityLocked (q : SendQueue) : Option SendQueue :=
  q.parityVictim.bind fun victim => q.dropParityForGroupLocked victim.group_id victim.stream

/-- The victim of `dropOldestGroupLocked`: an old P frame, else a video frame, else
anything that is not protected. -/
def oldestGroupVictim (q : SendQueue) : Option QueueItem :=
  match q.queue_.find? fun item =>
      item.stream = .Video && !item.is_keyframe &&
        !q.isProtectedVideoGroupLocked item.group_id item.stream with
  | some item => some item
  | none =>
    match q.queue_.find? fun item =>
        item.stream = .Video && !q.isProtectedVideoGroupLocked item.group_id item.stream with
    | some item => some item
    | none => q.queue_.find? fun item =>
        !q.isProtectedVideoGroupLocked item.group_id item.stream

/-- `dropOldestGroupLocked`; `none` is `return false`. -/
def dropOldestGroupLocked (q : SendQueue) : Option SendQueue :=
  q.oldestGroupVictim.map fun victim => q.dropGroupLocked victim.group_id victim.stream

/-- `(max_packets_ > 0 && size > max_packets_) || (max_bytes_ > 0 && bytes > max_bytes_)` -/
def overLimits (q : SendQueue) : Bool :=
  -- a limit of 0 is no limit
  (q.max_packets_ > 0 && q.queue_.length > q.max_packets_) ||
    (q.max_bytes_ > 0 && q.queue_bytes_ > q.max_bytes_)

/-- One round of the loop of `enforceLimitsLocked`; `none` leaves the loop. -/
def enforceStep (q : SendQueue) : Option SendQueue :=
  if !q.queue_.isEmpty && q.overLimits then
    -- parity goes before any frame
    match q.dropOldestVideoParityLocked with
    | some q' => some q'
    | none => q.dropOldestGroupLocked
  else none

/-- `enforceLimitsLocked` -/
def enforceLimitsLocked (q : SendQueue) : SendQueue :=
  repeatStep enforceStep q.queue_.length q

/-! ## Public functions -/

/-- `setLimits` -/
def setLimits (q : SendQueue) (max_packets max_bytes : ℕ) : SendQueue :=
  { q with max_packets_ := max_packets, max_bytes_ := max_bytes }

/-- `clear` -/
def clear (q : SendQueue) : SendQueue :=
  { q with
    queue_ := []
    queue_bytes_ := 0
    protected_video_group_id_ := kNoProtectedVideoGroup
    history := { q.history with discarded := q.history.discarded ++ q.queue_ } }

/-- `stop` -/
def stop (q : SendQueue) : SendQueue := { q.clear with running_ := false }

/-- `setProtectedVideoGroup` -/
def setProtectedVideoGroup (q : SendQueue) (group_id : UInt32) : SendQueue :=
  { q with protected_video_group_id_ := group_id }

/-- `clearProtectedVideoGroup` -/
def clearProtectedVideoGroup (q : SendQueue) (group_id : UInt32) : SendQueue :=
  if q.protected_video_group_id_ = group_id then
    { q with protected_video_group_id_ := kNoProtectedVideoGroup }
  else q

/-- `queue_.push_back` with its byte count. -/
def append (q : SendQueue) (item : QueueItem) : SendQueue :=
  { q with
    queue_ := q.queue_ ++ [normalizeItem item]
    queue_bytes_ := q.queue_bytes_ + item.queuedBytes }

/-- `stream == Video && kind == GroupEnd` -/
def isVideoGroupEnd (item : QueueItem) : Bool := item.stream = .Video && item.kind = .GroupEnd

/-- `push` -/
def push (q : SendQueue) (item : QueueItem) : SendQueue :=
  -- a stopped queue takes nothing
  if !q.running_ then q
  else
    let q := q.append item
    let q := if isVideoGroupEnd item then q.trimVideoBacklogLocked item.group_id else q
    q.enforceLimitsLocked

/-- `newest_video_group_end` after the loop of `pushBatch`. -/
def newestVideoGroupEnd (items : List QueueItem) : Option UInt32 :=
  items.foldl (fun newest item => if isVideoGroupEnd item then some item.group_id else newest) none

/-- `pushBatch` -/
def pushBatch (q : SendQueue) (items : List QueueItem) : SendQueue :=
  if items.isEmpty then q
  else if !q.running_ then q
  else
    -- the whole batch enters before anything is trimmed
    let q := items.foldl append q
    let q :=
      match newestVideoGroupEnd items with
      -- only the last group end of the batch trims the backlog
      | some newest => q.trimVideoBacklogLocked newest
      | none => q
    q.enforceLimitsLocked

/-- `requeueFront` -/
def requeueFront (q : SendQueue) (item : QueueItem) : SendQueue :=
  if !q.running_ then q
  else
    -- back to the front, past the limits and the backlog
    { q with
      queue_ := normalizeItem item :: q.queue_
      queue_bytes_ := q.queue_bytes_ + item.queuedBytes }

/-- `dropGroup` -/
def dropGroup (q : SendQueue) (group_id : UInt32) (stream : QueueItem.Stream) : SendQueue :=
  q.dropGroupLocked group_id stream

/-- `dropParityForGroup`: the result and the queue. -/
def dropParityForGroup (q : SendQueue) (group_id : UInt32) (stream : QueueItem.Stream) :
    Bool × SendQueue :=
  match q.dropParityForGroupLocked group_id stream with
  | some q' => (true, q')
  | none => (false, q)

/-- `pop` -/
def pop (q : SendQueue) : Option (QueueItem × SendQueue) :=
  if !q.running_ then none else q.removeFirst fun _ => true

/-- `selectPrioritizedLocked`: the lowest priority with a queued item. The candidate
itself is the first item of that priority. -/
def selectPrioritizedLocked (q : SendQueue) : Option ℕ :=
  (List.range kNumPriorityLevels).find? fun priority =>
    q.queue_.any fun item => (normalizePriority item.priority).toNat = priority

/-- `popPrioritized` -/
def popPrioritized (q : SendQueue) : Option (QueueItem × SendQueue) :=
  if !q.running_ then none
  else q.selectPrioritizedLocked.bind fun priority =>
    -- the first of its priority, so each priority is a queue of its own
    q.removeFirst fun item => (normalizePriority item.priority).toNat = priority

/-- `struct ItemMeta` -/
structure ItemMeta where
  kind : QueueItem.Kind
  stream : QueueItem.Stream
  group_id : UInt32
  stream_key : UInt32
  priority : UInt8
  pacing_accounted : Bool
  wire_bytes : ℕ
  enqueue_steady_us : UInt64
deriving DecidableEq, Repr

/-- The fields that `peekPrioritized` copies out of an item. -/
def itemMeta (item : QueueItem) : ItemMeta where
  kind := item.kind
  stream := item.stream
  group_id := item.group_id
  stream_key := item.stream_key
  priority := normalizePriority item.priority
  pacing_accounted := item.pacing_accounted
  wire_bytes := item.wire_bytes
  enqueue_steady_us := item.enqueue_steady_us

/-- `peekPrioritized` -/
def peekPrioritized (q : SendQueue) : Option ItemMeta :=
  if !q.running_ then none
  else q.selectPrioritizedLocked.bind fun priority =>
    (q.queue_.find? fun item => (normalizePriority item.priority).toNat = priority).map itemMeta

/-- `struct Status` -/
structure Status where
  packets : ℕ
  bytes : ℕ
  oldest_enqueue_steady_us : UInt64
  priority_packets : List ℕ
  priority_bytes : List ℕ
deriving DecidableEq, Repr

/-- The body of the loop of `status`. -/
def statusStep (status : Status) (item : QueueItem) : Status :=
  let priority := (normalizePriority item.priority).toNat
  { status with
    oldest_enqueue_steady_us :=
      if item.enqueue_steady_us > 0 ∧ (status.oldest_enqueue_steady_us = 0 ∨
          item.enqueue_steady_us < status.oldest_enqueue_steady_us) then
        item.enqueue_steady_us
      else status.oldest_enqueue_steady_us
    priority_packets := status.priority_packets.modify priority (· + 1)
    priority_bytes := status.priority_bytes.modify priority (· + item.queuedBytes) }

/-- `status` -/
def status (q : SendQueue) : Status :=
  q.queue_.foldl statusStep
    { packets := q.queue_.length
      bytes := q.queue_bytes_
      oldest_enqueue_steady_us := 0
      priority_packets := List.replicate kNumPriorityLevels 0
      priority_bytes := List.replicate kNumPriorityLevels 0 }

/-- `struct Snapshot` -/
structure Snapshot where
  packets : ℕ
  bytes : ℕ
  dropped_video_groups : ℕ
  dropped_video_packets : ℕ
  dropped_video_bytes : ℕ
deriving DecidableEq, Repr

/-- `snapshot` -/
def snapshot (q : SendQueue) : Snapshot × SendQueue :=
  ({ packets := q.queue_.length
     bytes := q.queue_bytes_
     dropped_video_groups := q.dropped_video_groups_
     dropped_video_packets := q.dropped_video_packets_
     dropped_video_bytes := q.dropped_video_bytes_ },
   { q with
     dropped_video_groups_ := 0
     dropped_video_packets_ := 0
     dropped_video_bytes_ := 0 })

end SendQueue

end TeleopBridge.Udp
