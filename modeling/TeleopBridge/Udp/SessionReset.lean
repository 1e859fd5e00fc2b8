import TeleopBridge.Udp.FrameGeneration

/-!
# Media Across a Session Reset

`resetSession` clears the two queues and stores the counters, but it waits neither for the
frame in the FEC thread's hands, nor for a send call past its checks, nor for the item in
the sender's hands. What these put into the send queue after its `clear` belongs to the
old session, and a frame whose numbers are being fetched continues from 0.

## Key Results

- `stale_frame_after_reset`: a frame begun before a reset is sent after it, with the
  sequence numbers 1 and 0.
- `session_reset_clean`: in every run in which nothing older is queued after the `clear`,
  the sender holds no older datagram at the return and the counter is not stored in the
  middle of a frame, no old media is sent after a reset and every frame is numbered
  consecutively.
-/

namespace TeleopBridge.Udp

open Support SendQueue

namespace UdpManager

/-! ## The property -/

/-- Every socket send had an item of a call made after as many resets had begun as had
returned when the send began. -/
def NoStaleMedia (t : UdpManager) : Prop :=
  ∀ entry ∈ t.socketLog, entry.2 ≤ entry.1.origin

/-- The datagrams of the frame carry one frame id and consecutive sequence numbers. -/
def ConsecutiveFrame (batch : List QueueItem) : Prop :=
  ∃ frameId first datagrams closing, batch = datagrams ++ [closing] ∧
    ClosesGroup frameId closing ∧
    ∀ i item, datagrams[i]? = some item → wireKey item = some (frameId, first + UInt16.ofNat i)

/-! ## The condition -/

/-- A popped datagram whose socket send has not begun. -/
def pendingSend : SenderPc → List QueueItem
  | .popped item => if item.kind = .Datagram then [item] else []
  | .sending item => [item]
  | .idle | .blocked _ => []

/-- The FEC thread has fetched some of its frame's numbers and not all. -/
def midFrame : FecThread → Bool
  | .building _ _ (_ :: _) (_ :: _) => true
  | _ => false

/-- Nothing older than the last `clear` enters the send queue; the packet counter is not
stored in the middle of a frame, unless it is 0 anyway; and when `resetSession` returns the
sender is not about to send an older datagram. -/
def ResetSafe (config : UdpConfig) (s : UdpManager) : UdpAction → Prop
  | .continueCall index => ∀ origin packet seq group_id,
      s.calls[index]? = some ⟨origin, .media packet (.grouped seq group_id)⟩ →
        packet.oversized config (packet.build seq) = false → s.send_clears ≤ origin
  | .pushFrame => ∀ job origin packet_batch,
      s.fec = .building job origin [] packet_batch → s.send_clears ≤ origin
  | .sender .requeueFront => ∀ item, s.send.pc = .blocked item → s.send_clears ≤ item.origin
  | .continueReset =>
      (s.reset = .storePacketSeq → midFrame s.fec = true → s.packet_seq_num_ = 0) ∧
        (s.reset = .returning → ∀ item ∈ pendingSend s.send.pc, s.resets_begun ≤ item.origin)
  | _ => True

/-! ## Old media -/

/-- The reset has not cleared the send queue yet. -/
def awaitsClear : ResetThread → Bool
  | .clearInput | .clearSend => true
  | _ => false

/-- Nothing in the send queue is older than its last `clear`, and nothing about to be sent
is older than the last reset that returned. -/
structure Fresh (s : UdpManager) : Prop where
  begun : s.send_clears ≤ s.resets_begun
  returned : s.resets_returned ≤ s.send_clears
  cleared : awaitsClear s.reset = false → s.send_clears = s.resets_begun
  queued : ∀ item ∈ s.send.queue.queue_, s.send_clears ≤ item.origin
  pending : ∀ item ∈ pendingSend s.send.pc, s.resets_returned ≤ item.origin
  log : s.NoStaleMedia

/-- A step that leaves the send path and the reset alone. -/
theorem Fresh.frame {s t : UdpManager} (h : s.Fresh) (hsend : t.send = s.send)
    (hreset : t.reset = s.reset) (hbegun : t.resets_begun = s.resets_begun)
    (hclears : t.send_clears = s.send_clears) (hreturned : t.resets_returned = s.resets_returned)
    (hlog : t.socketLog = s.socketLog) : t.Fresh where
  begun := by
    rw [hclears, hbegun]
    exact h.begun
  returned := by
    rw [hreturned, hclears]
    exact h.returned
  cleared := by
    rw [hreset, hclears, hbegun]
    exact h.cleared
  queued := by
    rw [hsend, hclears]
    exact h.queued
  pending := by
    rw [hsend, hreturned]
    exact h.pending
  log := by
    unfold NoStaleMedia
    rw [hlog]
    exact h.log

/-- A push of items that are not older than the last `clear`. -/
theorem Fresh.enqueued {s : UdpManager} (h : s.Fresh) {items : List QueueItem}
    (hitems : ∀ item ∈ items, s.send_clears ≤ item.origin) {fec : FecThread}
    {batches : List (List QueueItem)} :
    ({ s with
      fec := fec
      batches := batches
      send := s.send.enqueued items (s.send.queue.pushBatch items) } : UdpManager).Fresh where
  begun := h.begun
  returned := h.returned
  cleared := h.cleared
  queued := by
    intro item hitem
    -- the queue holds what it held and what is pushed
    rcases mem_pushBatch hitem with hold | hnew
    · exact h.queued item hold
    · obtain ⟨raw, hraw, rfl⟩ := List.mem_map.mp hnew
      exact hitems raw hraw
  pending := h.pending
  log := h.log

/-- A handled item is still about to be sent, or it was a `GroupEnd`. -/
theorem pendingSend_handleQueueItem {s : SendPath} {item : QueueItem} (hpc : s.pc = .popped item) :
    (s.handleQueueItem item).queue.queue_ = s.queue.queue_ ∧
      ∀ other ∈ pendingSend (s.handleQueueItem item).pc, other ∈ pendingSend s.pc := by
  unfold SendPath.handleQueueItem
  cases hkind : item.kind with
  -- a group end sends nothing itself
  | GroupEnd =>
    obtain ⟨-, -, -, -, hqueue⟩ := SendPath.handled_flushFrame s
    simp only
    split_ifs
    · exact ⟨hqueue, fun other hother => absurd hother List.not_mem_nil⟩
    · exact ⟨rfl, fun other hother => absurd hother List.not_mem_nil⟩
  | Datagram =>
    obtain ⟨-, -, -, hqueue⟩ := SendPath.handled_protectGroup s item
    refine ⟨hqueue, fun other hother => ?_⟩
    rw [hpc, pendingSend, if_pos hkind]
    exact hother

/-- The sender's steps keep old media away from the socket. -/
theorem Fresh.senderStep {s s' : UdpManager} {a : SenderStep} (h : s.Fresh)
    (hrequeue : a = .requeueFront → ∀ item, s.send.pc = .blocked item → s.send_clears ≤ item.origin)
    (hstep : s.senderStep a = some s') : s'.Fresh := by
  obtain ⟨send, hsend, rfl⟩ := Option.map_eq_some_iff.mp hstep
  unfold SendPath.senderStep at hsend
  cases a with
  | popPrioritized =>
    cases hpc : s.send.pc <;> simp only [hpc, reduceCtorEq] at hsend
    cases hsend
    unfold SendPath.pop
    cases hpop : s.send.queue.popPrioritized with
    | none => exact h.frame rfl rfl rfl rfl rfl rfl
    | some popped =>
      obtain ⟨item, q⟩ := popped
      obtain ⟨select, hremove⟩ := popPrioritized_removes hpop
      obtain ⟨-, -, hperm, -⟩ := removeFirst_spec hremove
      have hitem : s.send_clears ≤ item.origin :=
        h.queued item (hperm.subset List.mem_cons_self)
      refine ⟨h.begun, h.returned, h.cleared, fun other hother => ?_, fun other hother => ?_, h.log⟩
      · exact h.queued other (hperm.subset (List.mem_cons_of_mem _ hother))
      · -- the popped item is not older than the last reset that returned
        have hother' : other = item := by
          simp only [pendingSend] at hother
          split_ifs at hother
          · exact List.mem_singleton.mp hother
          · exact absurd hother List.not_mem_nil
        rw [hother']
        exact h.returned.trans hitem
  | handle =>
    cases hpc : s.send.pc <;> simp only [hpc, reduceCtorEq] at hsend
    cases hsend
    rename_i item
    obtain ⟨hqueue, hpending⟩ := pendingSend_handleQueueItem hpc
    refine ⟨h.begun, h.returned, h.cleared, ?_, fun other hother => ?_, h.log⟩
    · simp only [hqueue]
      exact h.queued
    · exact h.pending other (hpending other hother)
  | socketSend result =>
    cases hpc : s.send.pc <;> simp only [hpc, reduceCtorEq] at hsend
    cases hsend
    rename_i item
    -- the entry of the log has the age of the item that was in hand
    have hitem : s.resets_returned ≤ item.origin :=
      h.pending item (by rw [hpc]; exact List.mem_singleton_self item)
    refine ⟨h.begun, h.returned, h.cleared, ?_, ?_, ?_⟩
    · cases result <;> exact h.queued
    · intro other hother
      cases result <;> exact absurd hother List.not_mem_nil
    · intro entry hentry
      rcases List.mem_append.mp hentry with hold | hnew
      · exact h.log entry hold
      · cases List.mem_singleton.mp hnew
        exact hitem
  | requeueFront =>
    cases hpc : s.send.pc <;> simp only [hpc, reduceCtorEq] at hsend
    cases hsend
    rename_i item
    -- by the condition the item is not older than the last clear of the queue
    have hitem : s.send_clears ≤ item.origin := hrequeue rfl item hpc
    refine ⟨h.begun, h.returned, h.cleared, fun other hother => ?_, ?_, h.log⟩
    · unfold SendQueue.requeueFront at hother
      split_ifs at hother
      · exact h.queued other hother
      · rcases List.mem_cons.mp hother with rfl | hold
        · exact hitem
        · exact h.queued other hold
    · exact fun other hother => absurd hother List.not_mem_nil

/-- The next access of a call keeps old media out. -/
theorem Fresh.call {config : UdpConfig} {s : UdpManager} (h : s.Fresh) {index : ℕ}
    {call : InFlight}
    (hsafe : ∀ origin packet seq group_id,
      call = ⟨origin, .media packet (.grouped seq group_id)⟩ →
        packet.oversized config (packet.build seq) = false → s.send_clears ≤ origin) :
    (s.advanceCall config index call).Fresh := by
  obtain ⟨origin, call⟩ := call
  cases call with
  -- a frame only enters the input queue, and a fetch only a counter
  | frame frame => exact h.frame rfl rfl rfl rfl rfl rfl
  | media packet stage =>
    obtain ⟨kind, size, enqueue_steady_us, build⟩ := packet
    cases stage with
    | started => cases kind <;> exact h.frame rfl rfl rfl rfl rfl rfl
    | numbered seq => cases kind <;> exact h.frame rfl rfl rfl rfl rfl rfl
    | grouped seq group_id =>
      have hcalls : ({ s with calls := s.calls.eraseIdx index } : UdpManager).Fresh :=
        h.frame rfl rfl rfl rfl rfl rfl
      unfold advanceCall pushMedia
      simp only
      split_ifs with hsize
      · exact hcalls
      · rw [push_eq_pushBatch]
        -- the last access pushes the item of the call
        refine hcalls.enqueued fun item hitem => ?_
        cases List.mem_singleton.mp hitem
        cases kind <;> exact hsafe origin _ seq group_id rfl (Bool.eq_false_iff.mpr hsize)

/-- A statement of `resetSession` keeps old media out, given what the return requires. -/
theorem Fresh.reset {s s' : UdpManager} (h : s.Fresh)
    (hreturn : s.reset = .returning → ∀ item ∈ pendingSend s.send.pc,
      s.resets_begun ≤ item.origin) (hstep : s.advanceReset s.reset = some s') : s'.Fresh := by
  cases hreset : s.reset with
  | idle => simp [advanceReset, hreset] at hstep
  | clearInput =>
    simp only [advanceReset, hreset] at hstep
    cases hstep
    exact ⟨h.begun, h.returned, nofun, h.queued, h.pending, h.log⟩
  | clearSend =>
    simp only [advanceReset, hreset] at hstep
    cases hstep
    -- with the send queue empty, nothing in it is stale
    refine ⟨Nat.le_refl _, h.returned.trans h.begun, fun _ => rfl, ?_, h.pending, h.log⟩
    exact fun item hitem => absurd hitem List.not_mem_nil
  | returning =>
    have hclears : s.send_clears = s.resets_begun := h.cleared (by rw [hreset]; rfl)
    simp only [advanceReset, hreset] at hstep
    cases hstep
    exact ⟨h.begun, hclears.ge, fun _ => hclears, h.queued, hreturn hreset, h.log⟩
  | resetHandshake | storePacketSeq | storeFrameId | storeAudioGroup | storeAudioSeq
  | storeTelemetryGroup | storeTelemetrySeq =>
    have hclears : s.send_clears = s.resets_begun := h.cleared (by rw [hreset]; rfl)
    simp only [advanceReset, hreset] at hstep
    cases hstep
    exact ⟨h.begun, h.returned, fun _ => hclears, h.queued, h.pending, h.log⟩

/-- A step that meets the condition keeps old media out. -/
theorem step_fresh {config : UdpConfig} {s s' : UdpManager} {a : UdpAction} (h : s.Fresh)
    (hsafe : ResetSafe config s a) (hstep : s.step config a = some s') : s'.Fresh := by
  cases step_moves hstep with
  | ignoreFrame | ignoreMedia => exact h
  | setHandshake | beginFrame | beginMedia | takeFrame | fetchSeq =>
    exact h.frame rfl rfl rfl rfl rfl rfl
  | continueCall index call hcall =>
    refine h.call fun origin packet seq group_id heq => ?_
    rw [heq] at hcall
    exact hsafe origin packet seq group_id hcall
  | startFrame enqueue_steady_us input hfec =>
    unfold startFrame
    split_ifs <;> exact h.frame rfl rfl rfl rfl rfl rfl
  | pushFrame job origin packet_batch hfec =>
    refine h.enqueued fun item hitem => ?_
    obtain ⟨raw, -, rfl⟩ := List.mem_map.mp hitem
    exact hsafe _ _ _ hfec
  | sender senderStep s' hsender =>
    refine h.senderStep (fun heq => ?_) hsender
    rw [heq] at hsafe
    exact hsafe
  | resetSession hreset =>
    -- the clear is still to come, so nothing is said of its count
    exact ⟨h.begun.trans (Nat.le_succ _), h.returned, fun hcleared => Bool.noConfusion hcleared,
      h.queued, h.pending, h.log⟩
  | continueReset s' hreset => exact h.reset hsafe.2 hreset

theorem started_fresh (config : UdpConfig) : (started config).Fresh := by
  constructor <;> simp [started, pendingSend, setLimits, NoStaleMedia]

/-! ## Numbering -/

/-- The datagrams of a frame with consecutive numbers from `first` on. -/
def keysFrom (frameId : UInt32) (first : UInt16) (n : ℕ) : List (UInt32 × UInt16) :=
  (List.range n).map fun i => (frameId, first + UInt16.ofNat i)

/-- A prefix of the datagrams is numbered by position. -/
theorem keysFrom_at {frameId : UInt32} {first : UInt16} {n i : ℕ} {items : List QueueItem}
    (hkept : items.map itemKey <+: keysFrom frameId first n) {item : QueueItem}
    (hitem : items[i]? = some item) : itemKey item = (frameId, first + UInt16.ofNat i) := by
  obtain ⟨rest, hrest⟩ := hkept
  have hlt : i < items.length := (List.getElem?_eq_some_iff.mp hitem).1
  -- the place in the prefix is the place in the whole
  have hat : (keysFrom frameId first n)[i]? = some (itemKey item) := by
    rw [← hrest, List.getElem?_append_left (by simpa using hlt), List.getElem?_map, hitem]
    rfl
  unfold keysFrom at hat
  rw [List.getElem?_map] at hat
  obtain ⟨j, hj, hkey⟩ := Option.map_eq_some_iff.mp hat
  obtain ⟨hi, rfl⟩ := List.getElem?_eq_some_iff.mp hj
  rw [List.getElem_range] at hkey
  exact hkey.symm

/-- What the FEC thread has built of its frame is numbered consecutively, and as long as
the frame needs more numbers the counter continues it. -/
def BuildsInStep (packet_seq_num : UInt16) : FecThread → Prop
  | .building job _ plan packet_batch =>
      (∀ build ∈ plan, build ∈ datagramPlan job) ∧
        (∀ item ∈ packet_batch, FrameDatagram job.current_frame_id item) ∧
        ∃ first, packet_batch.map itemKey =
            keysFrom job.current_frame_id first packet_batch.length ∧
          (plan ≠ [] → packet_batch ≠ [] →
            packet_seq_num = first + UInt16.ofNat packet_batch.length)
  | _ => True

/-- Every pushed frame is numbered consecutively. -/
structure Numbered (s : UdpManager) : Prop where
  pushed : ∀ batch ∈ s.batches, ConsecutiveFrame batch
  progress : BuildsInStep s.packet_seq_num_ s.fec

theorem Numbered.frame {s t : UdpManager} (h : s.Numbered) (hbatches : t.batches = s.batches)
    (hseq : t.packet_seq_num_ = s.packet_seq_num_) (hfec : t.fec = s.fec) : t.Numbered where
  pushed := by
    rw [hbatches]
    exact h.pushed
  progress := by
    rw [hseq, hfec]
    exact h.progress

/-- A fetch in step keeps the frame in step. -/
theorem Numbered.fetch {s : UdpManager} (h : s.Numbered) {job : FrameJob} {origin : ℕ}
    {build : UInt16 → QueueItem} {plan : List (UInt16 → QueueItem)} {packet_batch : List QueueItem}
    (hfec : s.fec = .building job origin (build :: plan) packet_batch) :
    (s.fetchSeq job origin build plan packet_batch).Numbered := by
  have hprogress := h.progress
  rw [hfec] at hprogress
  obtain ⟨hplan, hbuilt, first, hkeys, hnext⟩ := hprogress
  obtain ⟨hitem, hseq⟩ := datagramPlan_spec (hplan build List.mem_cons_self) s.packet_seq_num_
  have hkey : itemKey (build s.packet_seq_num_) = (job.current_frame_id, s.packet_seq_num_) :=
    Prod.ext hitem.group_id hseq
  refine ⟨h.pushed, fun b hb => hplan b (List.mem_cons_of_mem _ hb), ?_, ?_⟩
  · intro item hmem
    rcases List.mem_append.mp hmem with hold | hnew
    · exact hbuilt item hold
    · cases List.mem_singleton.mp hnew
      exact hitem
  · cases packet_batch with
    | nil =>
      -- the first number of the frame
      refine ⟨s.packet_seq_num_, ?_, fun _ _ => rfl⟩
      simp [keysFrom, hkey]
    | cons item items =>
      have hcurrent := hnext (List.cons_ne_nil _ _) (List.cons_ne_nil _ _)
      refine ⟨first, ?_, fun _ _ => ?_⟩
      · rw [List.map_append, hkeys, List.length_append, List.length_singleton, keysFrom, keysFrom,
          List.range_succ, List.map_append]
        simp only [List.map_cons, List.map_nil, hkey]
        rw [← hcurrent]
      · simp only [fetchSeq, List.length_append, List.length_singleton, UInt16.ofNat_add,
          hcurrent, UInt16.add_assoc]
        rfl

/-- A frame in step is pushed with consecutive numbers. -/
theorem Numbered.push {s : UdpManager} (h : s.Numbered) {job : FrameJob} {origin : ℕ}
    {packet_batch : List QueueItem} (hfec : s.fec = .building job origin [] packet_batch) :
    (s.pushFrame job origin packet_batch).Numbered := by
  have hprogress := h.progress
  rw [hfec] at hprogress
  obtain ⟨-, hbuilt, first, hkeys, -⟩ := hprogress
  refine ⟨fun batch hbatch => ?_, trivial⟩
  rcases List.mem_append.mp hbatch with hold | hnew
  · exact h.pushed batch hold
  · cases List.mem_singleton.mp hnew
    -- the batch is the datagrams in fetch order and the group end
    obtain ⟨datagrams, closing, hshape, hclosing, -, hdatagrams, hkept⟩ :=
      @frameBatch_shape job origin packet_batch hbuilt
    refine ⟨_, first, datagrams, closing, hshape, hclosing, fun i item hitem => ?_⟩
    rw [hkeys] at hkept
    rw [(hdatagrams item (List.mem_of_getElem? hitem)).wireKey_eq]
    exact congrArg some (keysFrom_at hkept hitem)

/-- A step that meets the condition keeps the frames in step. -/
theorem step_numbered {config : UdpConfig} {s s' : UdpManager} {a : UdpAction} (h : s.Numbered)
    (hsafe : ResetSafe config s a) (hstep : s.step config a = some s') : s'.Numbered := by
  cases step_moves hstep with
  | ignoreFrame | ignoreMedia => exact h
  | setHandshake | beginFrame | beginMedia | resetSession => exact h.frame rfl rfl rfl
  | continueCall index call hcall =>
    obtain ⟨origin, call⟩ := call
    cases call with
    | frame frame => exact h.frame rfl rfl rfl
    | media packet stage =>
      obtain ⟨kind, size, enqueue_steady_us, build⟩ := packet
      cases stage with
      | started => cases kind <;> exact h.frame rfl rfl rfl
      | numbered seq => cases kind <;> exact h.frame rfl rfl rfl
      | grouped seq group_id =>
        unfold advanceCall pushMedia
        simp only
        split_ifs <;> exact h.frame rfl rfl rfl
  | takeFrame input rest hfec hqueue => exact ⟨h.pushed, trivial⟩
  | startFrame enqueue_steady_us input hfec =>
    unfold startFrame
    split_ifs
    · exact ⟨h.pushed, trivial⟩
    · exact ⟨h.pushed, fun _ hb => hb, by simp, 0, rfl, fun _ hne => absurd rfl hne⟩
  | fetchSeq job origin build plan packet_batch hfec => exact h.fetch hfec
  | pushFrame job origin packet_batch hfec => exact h.push hfec
  | sender senderStep s' hsender =>
    obtain ⟨send, -, rfl⟩ := Option.map_eq_some_iff.mp hsender
    exact h.frame rfl rfl rfl
  | continueReset s' hadvance =>
    cases hreset : s.reset with
    | storePacketSeq =>
      simp only [advanceReset, hreset] at hadvance
      cases hadvance
      refine ⟨h.pushed, ?_⟩
      have hprogress := h.progress
      have hzero := hsafe.1 hreset
      cases hfec : s.fec with
      | idle | holding input => trivial
      | building job origin plan packet_batch =>
        rw [hfec] at hprogress hzero
        obtain ⟨hplan, hbuilt, first, hkeys, hnext⟩ := hprogress
        refine ⟨hplan, hbuilt, first, hkeys, fun hmore hsome => ?_⟩
        -- in the middle of a frame the counter was 0 before the store
        have hmid : midFrame (.building job origin plan packet_batch) = true := by
          cases plan with
          | nil => exact absurd rfl hmore
          | cons build plan =>
            cases packet_batch with
            | nil => exact absurd rfl hsome
            | cons item items => rfl
        rw [← hnext hmore hsome, hzero hmid]
    | idle => simp [advanceReset, hreset] at hadvance
    | clearInput | clearSend | resetHandshake | storeFrameId | storeAudioGroup | storeAudioSeq
    | storeTelemetryGroup | storeTelemetrySeq | returning =>
      simp only [advanceReset, hreset] at hadvance
      cases hadvance
      exact h.frame rfl rfl rfl

theorem started_numbered (config : UdpConfig) : (started config).Numbered := by
  constructor <;> simp [started, BuildsInStep]

/-! ## Main results -/

/-- In every run whose steps meet the condition, no media older than a reset that has
returned reaches the socket, and every frame is numbered consecutively. -/
theorem session_reset_clean (config : UdpConfig) (actions : List UdpAction) (t : UdpManager)
    (hmeet : StepsMeet (step config) (ResetSafe config) (started config) actions)
    (hrun : runSteps (step config) (started config) actions = some t) :
    NoStaleMedia t ∧ ∀ batch ∈ t.batches, ConsecutiveFrame batch :=
  ⟨(guarded_invariant (fun _ _ _ => step_fresh) (started_fresh config) hmeet hrun).log,
    (guarded_invariant (fun _ _ _ => step_numbered) (started_numbered config) hmeet hrun).pushed⟩

/-- A reset with nothing in flight, and an audio packet sent after it. -/
theorem session_reset_clean_audio :
    ∃ t, runSteps (step { control_enabled := false }) (started { control_enabled := false })
        [.resetSession, .continueReset, .continueReset, .continueReset, .continueReset,
          .continueReset, .continueReset, .continueReset, .continueReset, .continueReset,
          .continueReset, .sendMedia { kind := .audio, size := 1, build := fun _ => [4] },
          .continueCall 0, .continueCall 0, .continueCall 0, .sender .popPrioritized,
          .sender .handle, .sender (.socketSend .kSent)] = some t ∧
      t.resets_returned = 1 ∧ t.send.sent.map QueueItem.bytes = [[4]] ∧ NoStaleMedia t := by
  have hreset : ∀ s : UdpManager, s.fec = .idle → s.send.pc = .idle →
      ResetSafe { control_enabled := false } s .continueReset := by
    intro s hfec hpc
    refine ⟨fun _ hmid => ?_, fun _ item hitem => ?_⟩
    · rw [hfec] at hmid
      cases hmid
    · rw [hpc] at hitem
      cases hitem
  have hmeet : StepsMeet (step { control_enabled := false })
      (ResetSafe { control_enabled := false }) (started { control_enabled := false })
      [.resetSession, .continueReset, .continueReset, .continueReset, .continueReset,
        .continueReset, .continueReset, .continueReset, .continueReset, .continueReset,
        .continueReset, .sendMedia { kind := .audio, size := 1, build := fun _ => [4] },
        .continueCall 0, .continueCall 0, .continueCall 0, .sender .popPrioritized,
        .sender .handle, .sender (.socketSend .kSent)] := by
    refine .cons rfl trivial (.cons rfl (hreset _ rfl rfl) (.cons rfl (hreset _ rfl rfl)
      (.cons rfl (hreset _ rfl rfl) (.cons rfl (hreset _ rfl rfl) (.cons rfl (hreset _ rfl rfl)
      (.cons rfl (hreset _ rfl rfl) (.cons rfl (hreset _ rfl rfl) (.cons rfl (hreset _ rfl rfl)
      (.cons rfl (hreset _ rfl rfl) (.cons rfl (hreset _ rfl rfl) (.cons rfl trivial
      (.cons rfl ?_ (.cons rfl ?_ (.cons rfl ?_ (.cons rfl trivial (.cons rfl trivial
      (.cons rfl trivial trivial)))))))))))))))))
    · rintro _ _ _ _ ⟨⟩
    · rintro _ _ _ _ ⟨⟩
    · rintro _ _ _ _ ⟨⟩ _
      exact Nat.le_refl 1
  exact ⟨_, rfl, rfl, rfl, (session_reset_clean _ _ _ hmeet rfl).1⟩

/-- A first frame takes the number 0. The second frame, of 1201 bytes, has fetched the
number 1 when `resetSession` runs; it fetches 0 afterwards, is pushed behind the `clear`,
and both its datagrams are sent after the reset has returned. -/
def resetInMidFrame : List UdpAction :=
  [.setHandshake true, .sendH264Frame { data := [1] }, .continueCall 0, .takeFrame, .startFrame 1,
    .fetchSeq, .pushFrame, .sendH264Frame { data := List.replicate 1201 0 }, .continueCall 0,
    .takeFrame, .startFrame 2, .fetchSeq, .resetSession, .continueReset, .continueReset,
    .continueReset, .continueReset, .continueReset, .continueReset, .continueReset,
    .continueReset, .continueReset, .continueReset, .fetchSeq, .pushFrame,
    .sender .popPrioritized, .sender .handle, .sender (.socketSend .kSent),
    .sender .popPrioritized, .sender .handle, .sender (.socketSend .kSent)]

set_option maxRecDepth 20000 in
/-- With FEC off, `resetInMidFrame` sends old media after the reset, and the frame's two
datagrams carry the numbers 1 and 0. -/
theorem stale_frame_after_reset :
    ∃ t, runSteps (step { fec_encoder_ := some FecV2.shippedTable, fec_table_id := 0 })
        (started { fec_encoder_ := some FecV2.shippedTable, fec_table_id := 0 })
        resetInMidFrame = some t ∧
      t.socketLog.map (fun entry => (wireKey entry.1, entry.1.origin, entry.2)) =
        [(some (1, 1), 0, 1), (some (1, 0), 0, 1)] ∧
      ¬NoStaleMedia t := by
  obtain ⟨t, hrun, hlog⟩ : ∃ t, runSteps
      (step { fec_encoder_ := some FecV2.shippedTable, fec_table_id := 0 })
      (started { fec_encoder_ := some FecV2.shippedTable, fec_table_id := 0 })
      resetInMidFrame = some t ∧
      t.socketLog.map (fun entry => (wireKey entry.1, entry.1.origin, entry.2)) =
        [(some (1, 1), 0, 1), (some (1, 0), 0, 1)] := ⟨_, rfl, rfl⟩
  refine ⟨t, hrun, hlog, fun hclean => ?_⟩
  have hmem : (some (1, 1), 0, 1) ∈
      t.socketLog.map fun entry => (wireKey entry.1, entry.1.origin, entry.2) := by
    rw [hlog]
    exact List.mem_cons_self
  obtain ⟨entry, hentry, heq⟩ := List.mem_map.mp hmem
  have hle := hclean entry hentry
  simp only [Prod.mk.injEq] at heq
  omega

end UdpManager

end TeleopBridge.Udp
