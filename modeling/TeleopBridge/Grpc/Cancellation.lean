import TeleopBridge.Grpc.PendingRpcs

/-!
# Cancellation of Pending RPCs

However the threads of the gRPC manager are interleaved, `CancelPendingRpcs` calls `TryCancel`
on contexts that exist, and when it is through, every RPC that is in the call of the stub or
will still get there was asked to cancel.

## Key Result

`cancelPendingRpcs_safe`: this, with what the set of pending contexts is and what the metadata of
the RPCs are, in every state of every run.
-/

namespace TeleopBridge.Grpc

open Support

namespace RpcRun

variable {r r' : RpcRun} {t u : ℕ} {activity : Activity}

/-! ## One thread goes on -/

/-- A thread is where it was set. -/
@[simp] theorem set_threads_self (r : RpcRun) (t : ℕ) (activity : Activity) :
    (r.set t activity).threads t = activity := by
  simp only [set, Function.update_self]

theorem set_threads_of_ne (hut : u ≠ t) : (r.set t activity).threads u = r.threads u := by
  simp only [set, Function.update_of_ne hut]

/-- What holds of the new activity and of all the others. -/
theorem forall_set {P : Activity → Prop} (hnew : P activity)
    (hothers : ∀ u, u ≠ t → P (r.threads u)) : ∀ u, P ((r.set t activity).threads u) := by
  intro u
  by_cases hut : u = t
  · rwa [hut, set_threads_self]
  · rw [set_threads_of_ne hut]
    exact hothers u hut

/-! ## Contexts and the mutex -/

/-- Who has a context, whose context is pending, and who holds the mutex. -/
structure Registered (r : RpcRun) : Prop where
  contexts : Registry r.contexts (Activity.context ∘ r.threads)
  pending : Registry r.pending_rpc_contexts_ (Activity.registered ∘ r.threads)
  mutex : Owns r.mutex (Activity.holds ∘ r.threads)

/-- What is read of the threads changes for the one thread that goes on. -/
theorem comp_set {β : Type*} (f : Activity → β) (r : RpcRun) (t : ℕ) (activity : Activity) :
    f ∘ (r.set t activity).threads = Function.update (f ∘ r.threads) t (f activity) :=
  Function.comp_update f r.threads t activity

/-- What a thread has registered is the context on its stack. -/
theorem Activity.context_of_registered {activity : Activity} {a : ℕ}
    (h : activity.registered = some a) : activity.context = some a := by
  cases activity with
  | inRpc call stage =>
    simp only [Activity.registered] at h
    split at h
    · exact h
    · cases h
  | _ => cases h

/-- A step that leaves the context, its registration and the mutex alone. -/
theorem Registered.same (h : r.Registered) {old : Activity} (hthread : r.threads t = old)
    (hcontext : old.context = activity.context)
    (hpending : old.registered = activity.registered) (hholds : old.holds = activity.holds) :
    (r.set t activity).Registered := by
  subst hthread
  -- the contexts, the registered ones and the mutex are read off the threads
  refine ⟨?_, ?_, ?_⟩
  · rw [comp_set]
    exact h.contexts.keep hcontext
  · rw [comp_set]
    exact h.pending.keep hpending
  · rw [comp_set]
    exact h.mutex.keep hholds

/-- A thread that gets the free mutex holds it. -/
theorem Registered.lock (h : r.Registered) (hfree : r.mutex = none) {old : Activity}
    (hthread : r.threads t = old) (hcontext : old.context = activity.context)
    (hpending : old.registered = activity.registered) (hholds : activity.holds = true) :
    RpcRun.Registered { r.set t activity with mutex := some t } := by
  subst hthread
  have hmutex := h.mutex
  rw [hfree] at hmutex
  refine ⟨?_, ?_, ?_⟩
  · show Registry r.contexts (Activity.context ∘ (r.set t activity).threads)
    rw [comp_set]
    exact h.contexts.keep hcontext
  · show Registry r.pending_rpc_contexts_ (Activity.registered ∘ (r.set t activity).threads)
    rw [comp_set]
    exact h.pending.keep hpending
  · show Owns (some t) (Activity.holds ∘ (r.set t activity).threads)
    rw [comp_set, hholds]
    exact hmutex.acquire

/-- A step that gives the mutex back; `keys` are the pending contexts afterwards. -/
theorem Registered.unlock (h : r.Registered) {keys : Finset ℕ} {old : Activity}
    (hthread : r.threads t = old) (hheld : old.holds = true)
    (hcontext : old.context = activity.context) (hholds : activity.holds = false)
    (hpending : Registry keys
      (Function.update (Activity.registered ∘ r.threads) t activity.registered)) :
    RpcRun.Registered
      { r.set t activity with pending_rpc_contexts_ := keys, mutex := none } := by
  subst hthread
  -- the owner may change the registry before it lets go
  refine ⟨?_, ?_, ?_⟩
  · show Registry r.contexts (Activity.context ∘ (r.set t activity).threads)
    rw [comp_set]
    exact h.contexts.keep hcontext
  · show Registry keys (Activity.registered ∘ (r.set t activity).threads)
    rwa [comp_set]
  · show Owns none (Activity.holds ∘ (r.set t activity).threads)
    rw [comp_set, hholds]
    exact h.mutex.release hheld

/-- A context that its call has not registered is not pending. -/
theorem Registered.notMem_pending (h : r.Registered) {a : ℕ}
    (hcontext : (r.threads t).context = some a) (hnone : (r.threads t).registered = none) :
    a ∉ r.pending_rpc_contexts_ :=
  h.contexts.notMem_of_sub h.pending (fun _ _ hu => Activity.context_of_registered hu) hcontext
    hnone

/-- A registered context exists. -/
theorem Registered.pending_sub (h : r.Registered) :
    r.pending_rpc_contexts_ ⊆ r.contexts := by
  intro a ha
  obtain ⟨u, hu⟩ := (h.pending.mem_iff a).mp ha
  exact h.contexts.mem (t := u) (Activity.context_of_registered hu)

/-- Every step keeps the registries in agreement with the threads. -/
theorem Registered.step {a : RpcStep} (h : r.Registered) (hstep : r.step a = some r') :
    r'.Registered := by
  cases a with
  | call t rpc | readSession t | answer t answer | leave t | cancel t =>
    simp only [RpcRun.step] at hstep
    split at hstep <;> cases hstep
    rename_i hthread
    exact h.same hthread rfl rfl rfl
  | load t =>
    simp only [RpcRun.step] at hstep
    split at hstep <;> cases hstep
    rename_i hthread
    split
    · exact h.same hthread rfl rfl rfl
    · exact h.same hthread rfl rfl rfl
  | gate t context =>
    simp only [RpcRun.step] at hstep
    split at hstep
    · rename_i rpc session_id hthread
      split at hstep <;> cases hstep
      rename_i hfree
      unfold RpcRun.gate
      split
      · exact h.same hthread rfl rfl rfl
      · refine ⟨?_, ?_, ?_⟩
        · show Registry _ (Activity.context ∘ (r.set t _).threads)
          rw [comp_set]
          -- the address of a new context is not in use
          exact h.contexts.acquire (congrArg Activity.context hthread) hfree
        · show Registry _ (Activity.registered ∘ (r.set t _).threads)
          rw [comp_set]
          exact h.pending.keep ((congrArg Activity.registered hthread).trans rfl)
        · show Owns _ (Activity.holds ∘ (r.set t _).threads)
          rw [comp_set]
          exact h.mutex.keep ((congrArg Activity.holds hthread).trans rfl)
    · cases hstep
  | lock t =>
    simp only [RpcRun.step, RpcRun.lock] at hstep
    split at hstep
    · rename_i hfree
      split at hstep <;> cases hstep <;> rename_i hthread
      · exact h.lock hfree hthread rfl rfl rfl
      · exact h.lock hfree hthread rfl rfl rfl
      · exact h.lock hfree hthread rfl rfl rfl
    · cases hstep
  | insert t =>
    simp only [RpcRun.step] at hstep
    split at hstep <;> cases hstep
    rename_i call hthread
    have hnone : (r.threads t).registered = none := congrArg Activity.registered hthread
    -- the context is put in while the mutex is held
    refine h.unlock hthread rfl rfl rfl (h.pending.acquire hnone ?_)
    exact h.notMem_pending (congrArg Activity.context hthread) hnone
  | reject t =>
    simp only [RpcRun.step] at hstep
    split at hstep <;> cases hstep
    rename_i call hthread
    exact h.unlock hthread rfl rfl rfl
      (h.pending.keep ((congrArg Activity.registered hthread).trans rfl))
  | send t =>
    simp only [RpcRun.step] at hstep
    split at hstep <;> cases hstep
    rename_i call hthread
    have hsame : (r.set t (.inRpc call .inFlight)).Registered :=
      h.same hthread rfl rfl rfl
    exact ⟨hsame.contexts, hsame.pending, hsame.mutex⟩
  | readAnswer t =>
    simp only [RpcRun.step] at hstep
    split at hstep <;> cases hstep
    rename_i call answer hthread
    have hsame : (r.set t (.inRpc call (.closing (call.rpc.function.result answer)))).Registered :=
      h.same hthread rfl rfl rfl
    simp only [RpcRun.readAnswer]
    split
    · exact ⟨hsame.contexts, hsame.pending, hsame.mutex⟩
    · exact hsame
  | erase t =>
    simp only [RpcRun.step] at hstep
    split at hstep <;> cases hstep
    rename_i call result hthread
    exact h.unlock hthread rfl rfl rfl (h.pending.release (congrArg Activity.registered hthread))
  | destroy t =>
    simp only [RpcRun.step] at hstep
    split at hstep <;> cases hstep
    rename_i call result hthread
    refine ⟨?_, ?_, ?_⟩
    · show Registry _ (Activity.context ∘ (r.set t _).threads)
      rw [comp_set]
      -- the context is destroyed after it was taken out
      exact h.contexts.release (congrArg Activity.context hthread)
    · show Registry _ (Activity.registered ∘ (r.set t _).threads)
      rw [comp_set]
      exact h.pending.keep ((congrArg Activity.registered hthread).trans rfl)
    · show Owns _ (Activity.holds ∘ (r.set t _).threads)
      rw [comp_set]
      exact h.mutex.keep ((congrArg Activity.holds hthread).trans rfl)
  | store t =>
    simp only [RpcRun.step] at hstep
    split at hstep <;> cases hstep
    rename_i hthread
    have hsame : (r.set t .locking).Registered :=
      h.same hthread rfl rfl rfl
    exact ⟨hsame.contexts, hsame.pending, hsame.mutex⟩
  | tryCancel t context =>
    simp only [RpcRun.step] at hstep
    split at hstep
    · rename_i remaining hthread
      split at hstep <;> cases hstep
      have hsame : (r.set t (.looping (remaining.erase context))).Registered :=
        h.same hthread rfl rfl rfl
      unfold RpcRun.tryCancel
      split
      · exact ⟨hsame.contexts, hsame.pending, hsame.mutex⟩
      · exact ⟨hsame.contexts, hsame.pending, hsame.mutex⟩
    · cases hstep
  | unlock t =>
    simp only [RpcRun.step] at hstep
    split at hstep
    · rename_i remaining hthread
      split at hstep <;> cases hstep
      have hidle : RpcRun.Registered { r.set t .idle with
          pending_rpc_contexts_ := r.pending_rpc_contexts_, mutex := none } :=
        h.unlock hthread rfl rfl rfl
          (h.pending.keep ((congrArg Activity.registered hthread).trans rfl))
      exact ⟨hidle.contexts, hidle.pending, hidle.mutex⟩
    · cases hstep

/-! ## What a thread relies on -/

/-- A session id that an answer to `Register` gave. -/
def Granted (r : RpcRun) (session_id : StdString) : Prop :=
  ∃ device_type_code, (session_id, device_type_code) ∈ r.granted

/-- The session an RPC needs is in its metadata. -/
def Carries (r : RpcRun) (rpc : Rpc) (session_id : StdString) : Prop :=
  rpc.function.needs_session = true → session_id ≠ [] ∧ r.Granted session_id

/-- What a thread relies on where it is. A scope that has read `false` gets its context in
before `CancelPendingRpcs` gets the mutex; the loop leaves behind contexts that were asked to
cancel. -/
def Relies (r : RpcRun) : Activity → Prop
  | .gating _ session_id => session_id = [] ∨ r.Granted session_id
  | .inRpc call stage => r.Carries call.rpc call.session_id ∧ (stage = .inserting → r.cancels = 0)
  | .locking => r.shutting_down_ = true
  | .looping remaining => r.shutting_down_ = true ∧ remaining ⊆ r.pending_rpc_contexts_ ∧
      ∀ a ∈ r.pending_rpc_contexts_, a ∉ remaining → a ∈ r.cancelled
  | _ => True

/-- What no step takes back. -/
structure Later (r r' : RpcRun) : Prop where
  granted : r.granted ⊆ r'.granted
  raised : r.shutting_down_ = true → r'.shutting_down_ = true

/-- What changes only while one holds the mutex. -/
structure Guarded (r r' : RpcRun) : Prop where
  cancels : r'.cancels = r.cancels
  pending : r'.pending_rpc_contexts_ = r.pending_rpc_contexts_
  cancelled : ∀ a ∈ r.pending_rpc_contexts_, a ∈ r.cancelled → a ∈ r'.cancelled

theorem Later.same (hgranted : r'.granted = r.granted)
    (hraised : r'.shutting_down_ = r.shutting_down_) : r.Later r' :=
  ⟨hgranted ▸ List.Subset.refl _, fun h => hraised ▸ h⟩

/-- What leaves the registry and the marks alone is no trouble for the holder of the mutex. -/
theorem Guarded.same (hcancels : r'.cancels = r.cancels)
    (hpending : r'.pending_rpc_contexts_ = r.pending_rpc_contexts_)
    (hcancelled : r'.cancelled = r.cancelled) : r.Guarded r' :=
  ⟨hcancels, hpending, fun _ _ h => hcancelled ▸ h⟩

theorem Granted.later {session_id : StdString} (h : r.Granted session_id) (hlater : r.Later r') :
    r'.Granted session_id :=
  let ⟨device_type_code, hmem⟩ := h
  ⟨device_type_code, hlater.granted hmem⟩

theorem Carries.later {rpc : Rpc} {session_id : StdString} (h : r.Carries rpc session_id)
    (hlater : r.Later r') : r'.Carries rpc session_id :=
  fun hneeds => ⟨(h hneeds).1, (h hneeds).2.later hlater⟩

/-- The other threads may rely on the same after a step. -/
theorem Relies.later (h : r.Relies activity) (hlater : r.Later r')
    (hguarded : activity.holds = true → r.Guarded r') : r'.Relies activity := by
  cases activity with
  | gating rpc session_id => exact h.imp_right fun hgranted => hgranted.later hlater
  -- the session it carries stays granted; a scope let in saw no cancellation
  | inRpc call stage =>
    refine ⟨h.1.later hlater, fun hinserting => ?_⟩
    rw [(hguarded (congrArg RpcStage.holds hinserting)).cancels]
    exact h.2 hinserting
  | locking => exact hlater.raised h
  -- the loop holds the mutex, so the registry stands still under it
  | looping remaining =>
    obtain ⟨hraised, hsub, hcancelled⟩ := h
    have hheld := hguarded rfl
    refine ⟨hlater.raised hraised, hheld.pending.symm ▸ hsub, fun a ha hnot => ?_⟩
    rw [hheld.pending] at ha
    exact hheld.cancelled a ha (hcancelled a ha hnot)
  | idle | entered rpc | returned rpc result | cancelling => trivial

/-! ## The invariant -/

/-- The invariant of the manager. -/
structure Kept (r : RpcRun) : Prop where
  registered : r.Registered
  each : ∀ t, r.Relies (r.threads t)
  stored : r.session_id_ = [] ∨ r.Granted r.session_id_
  raised : 0 < r.cancels → r.shutting_down_ = true
  marked : 0 < r.cancels → r.pending_rpc_contexts_ ⊆ r.cancelled
  known : r.cancelled ⊆ r.contexts
  live : r.dangling = false
  sent : ∀ s ∈ r.sent, (0 < s.cancels → s.cancelled = true) ∧ r.Carries s.rpc s.session_id

/-- A new manager has no calls and no session. -/
theorem kept_initial : Kept {} where
  registered := ⟨Registry.empty, Registry.empty, fun _ => by constructor <;> intro h <;> cases h⟩
  each _ := trivial
  stored := .inl rfl
  raised h := absurd h (lt_irrefl 0)
  marked h := absurd h (lt_irrefl 0)
  known := Finset.empty_subset _
  live := rfl
  sent _ h := absurd h List.not_mem_nil

/-- What the other threads rely on, when this one holds the mutex or the step leaves alone what
the mutex guards. -/
theorem Kept.others (h : r.Kept) (hlater : r.Later r')
    (hheld : (r.threads t).holds = true ∨ r.Guarded r') :
    ∀ u, u ≠ t → r'.Relies (r.threads u) := by
  intro u hut
  refine (h.each u).later hlater fun hu => ?_
  rcases hheld with hheld | hguarded
  · exact absurd (h.registered.mutex.unique hu hheld) hut
  · exact hguarded

/-- A step that changes at most the mutex beside its thread. -/
theorem Kept.set (h : r.Kept) {m : Option ℕ}
    (hregistered : RpcRun.Registered { r.set t activity with mutex := m })
    (hnew : r.Relies activity) : Kept { r.set t activity with mutex := m } where
  registered := hregistered
  each := forall_set (hnew.later (.same rfl rfl) fun _ => .same rfl rfl rfl)
    (h.others (.same rfl rfl) (.inr (.same rfl rfl rfl)))
  stored := h.stored
  raised := h.raised
  marked := h.marked
  known := h.known
  live := h.live
  sent := h.sent

/-- What a call relies on in every stage but that before the insertion. -/
theorem Kept.carries (h : r.Kept) {call : RpcCall} {stage stage' : RpcStage}
    (hthread : r.threads t = .inRpc call stage) (hstage : stage' ≠ .inserting) :
    r.Relies (.inRpc call stage') := by
  have hrelies := h.each t
  rw [hthread] at hrelies
  exact ⟨hrelies.1, fun hinserting => absurd hinserting hstage⟩

/-- The first check lets a call on with a session that was granted, or with none where none is
needed. -/
theorem Kept.gate (h : r.Kept) {rpc : Rpc} {session_id : StdString} {context : ℕ}
    (hthread : r.threads t = .gating rpc session_id)
    (hregistered : (r.gate t rpc session_id context).Registered) :
    (r.gate t rpc session_id context).Kept := by
  have hrelies := h.each t
  rw [hthread] at hrelies
  unfold RpcRun.gate at hregistered ⊢
  by_cases hrefused : (rpc.function.needs_session && session_id.isEmpty || r.shutting_down_) = true
  · rw [if_pos hrefused] at hregistered ⊢
    exact h.set (m := r.mutex) hregistered trivial
  · rw [if_neg hrefused] at hregistered ⊢
    -- past the check, a session that is needed is not empty
    have hnew : r.Relies (.inRpc ⟨rpc, session_id, context⟩ .constructing) := by
      refine ⟨fun hneeds => ?_, fun hstage => by cases hstage⟩
      have hnonempty : session_id ≠ [] := by
        rintro rfl
        exact hrefused (by rw [hneeds]; rfl)
      exact ⟨hnonempty, hrelies.resolve_left hnonempty⟩
    refine ⟨hregistered, forall_set ?_ ?_, h.stored, h.raised, h.marked, ?_, h.live, h.sent⟩
    · exact hnew.later (.same rfl rfl) fun _ => .same rfl rfl rfl
    · exact h.others (.same rfl rfl) (.inr (.same rfl rfl rfl))
    · exact h.known.trans (Finset.subset_insert _ _)

theorem Kept.readAnswer (h : r.Kept) {call : RpcCall} {answer : Answer}
    (hthread : r.threads t = .inRpc call (.answered answer))
    (hregistered : (r.readAnswer t call answer).Registered) :
    (r.readAnswer t call answer).Kept := by
  have hnew : r.Relies (.inRpc call (.closing (call.rpc.function.result answer))) :=
    h.carries hthread (by rintro ⟨⟩)
  simp only [RpcRun.readAnswer] at hregistered ⊢
  split at hregistered
  · rename_i hstores
    rw [if_pos hstores]
    -- the new session is granted, and those of before stay so
    have hlater : r.Later { r.set t (.inRpc call (.closing (call.rpc.function.result answer))) with
        session_id_ := answer.session_id
        device_type_code_ := answer.device_type_code
        granted := r.granted ++ [(answer.session_id, answer.device_type_code)] } :=
      ⟨List.subset_append_left _ _, id⟩
    refine ⟨hregistered, forall_set ?_ ?_, .inr ⟨answer.device_type_code, ?_⟩, h.raised,
      h.marked, h.known, h.live, ?_⟩
    · exact hnew.later hlater fun _ => .same rfl rfl rfl
    · exact h.others hlater (.inr (.same rfl rfl rfl))
    · exact List.mem_append_right _ (List.mem_singleton_self _)
    · exact fun s hs => ⟨(h.sent s hs).1, (h.sent s hs).2.later hlater⟩
  · rename_i hkeeps
    rw [if_neg hkeeps]
    exact h.set (m := r.mutex) hregistered hnew

/-- A call that is sent after a cancellation carries its mark. -/
theorem Kept.send (h : r.Kept) {call : RpcCall} (hthread : r.threads t = .inRpc call .scoped)
    {cancelled : Bool} (hcancelled : cancelled = decide (call.context ∈ r.cancelled))
    (hregistered : RpcRun.Registered { r.set t (.inRpc call .inFlight) with
      sent := r.sent ++ [⟨call.rpc, call.session_id, cancelled, r.cancels⟩] }) :
    Kept { r.set t (.inRpc call .inFlight) with
      sent := r.sent ++ [⟨call.rpc, call.session_id, cancelled, r.cancels⟩] } := by
  have hnew : r.Relies (.inRpc call .inFlight) := h.carries hthread (by rintro ⟨⟩)
  refine ⟨hregistered, forall_set ?_ ?_, h.stored, h.raised, h.marked, h.known, h.live, ?_⟩
  · exact hnew.later (.same rfl rfl) fun _ => .same rfl rfl rfl
  · exact h.others (.same rfl rfl) (.inr (.same rfl rfl rfl))
  · intro s hs
    -- the new call: its context is registered, so a past cancellation marked it
    rcases List.mem_append.mp hs with hs | hs
    · exact h.sent s hs
    · rw [List.mem_singleton.mp hs]
      refine ⟨fun hcancels => ?_, hnew.1⟩
      have hpending := h.registered.pending.mem (congrArg Activity.registered hthread)
      rw [hcancelled]
      exact decide_eq_true (h.marked hcancels hpending)

/-- Every step keeps the invariant. -/
theorem Kept.step {a : RpcStep} (h : r.Kept) (hstep : r.step a = some r') : r'.Kept := by
  have hregistered := h.registered.step hstep
  cases a with
  | call t rpc | leave t | cancel t =>
    simp only [RpcRun.step] at hstep
    split at hstep <;> cases hstep
    exact h.set (m := r.mutex) hregistered trivial
  | readSession t =>
    simp only [RpcRun.step] at hstep
    split at hstep <;> cases hstep
    refine h.set (m := r.mutex) hregistered ?_
    split
    · exact h.stored
    · exact .inl rfl
  | gate t context =>
    simp only [RpcRun.step] at hstep
    split at hstep
    · rename_i rpc session_id hthread
      split at hstep <;> cases hstep
      exact h.gate hthread hregistered
    · cases hstep
  | lock t =>
    simp only [RpcRun.step, RpcRun.lock] at hstep
    split at hstep
    · split at hstep <;> cases hstep <;> rename_i hthread
      · exact h.set hregistered (h.carries hthread (by rintro ⟨⟩))
      · exact h.set hregistered (h.carries hthread (by rintro ⟨⟩))
      · have hraised := h.each t
        rw [hthread] at hraised
        exact h.set hregistered ⟨hraised, Finset.Subset.refl _, fun a ha hnot => absurd ha hnot⟩
    · cases hstep
  | load t =>
    simp only [RpcRun.step] at hstep
    split at hstep <;> cases hstep
    rename_i call hthread
    refine h.set (m := r.mutex) hregistered ?_
    split
    · exact h.carries hthread (by rintro ⟨⟩)
    · -- nobody is through with the pending contexts before the flag is up
      rename_i hdown
      have hcarries : r.Relies (.inRpc call .loading) := h.carries hthread (by rintro ⟨⟩)
      refine ⟨hcarries.1, fun _ => ?_⟩
      exact Nat.eq_zero_of_not_pos fun hcancels => hdown (h.raised hcancels)
  | insert t =>
    simp only [RpcRun.step] at hstep
    split at hstep <;> cases hstep
    rename_i call hthread
    have hzero := h.each t
    rw [hthread] at hzero
    have hnew : r.Relies (.inRpc call .scoped) := h.carries hthread (by rintro ⟨⟩)
    have hheld : (r.threads t).holds = true := congrArg Activity.holds hthread
    refine ⟨hregistered, forall_set ⟨hnew.1, hnew.2⟩ (h.others (.same rfl rfl) (.inl hheld)),
      h.stored, h.raised, fun hcancels => ?_, h.known, h.live, h.sent⟩
    exact absurd (hzero.2 rfl) hcancels.ne'
  | reject t =>
    simp only [RpcRun.step] at hstep
    split at hstep <;> cases hstep
    rename_i call hthread
    exact h.set hregistered (h.carries hthread (by rintro ⟨⟩))
  | send t =>
    simp only [RpcRun.step] at hstep
    split at hstep <;> cases hstep
    rename_i call hthread
    exact h.send hthread rfl hregistered
  | answer t answer =>
    simp only [RpcRun.step] at hstep
    split at hstep <;> cases hstep
    rename_i call hthread
    exact h.set (m := r.mutex) hregistered (h.carries hthread (by rintro ⟨⟩))
  | readAnswer t =>
    simp only [RpcRun.step] at hstep
    split at hstep <;> cases hstep
    rename_i call answer hthread
    exact h.readAnswer hthread hregistered
  | erase t =>
    simp only [RpcRun.step] at hstep
    split at hstep <;> cases hstep
    rename_i call result hthread
    have hnew : r.Relies (.inRpc call (.leaving result)) := h.carries hthread (by rintro ⟨⟩)
    have hheld : (r.threads t).holds = true := congrArg Activity.holds hthread
    refine ⟨hregistered, forall_set ⟨hnew.1, hnew.2⟩ (h.others (.same rfl rfl) (.inl hheld)),
      h.stored, h.raised, fun hcancels => ?_, h.known, h.live, h.sent⟩
    exact (Finset.erase_subset _ _).trans (h.marked hcancels)
  | destroy t =>
    simp only [RpcRun.step] at hstep
    split at hstep <;> cases hstep
    rename_i call result hthread
    -- the context that goes is not pending, so no mark of a pending one goes with it
    have hgone : call.context ∉ r.pending_rpc_contexts_ :=
      h.registered.notMem_pending (congrArg Activity.context hthread)
        (congrArg Activity.registered hthread)
    have hkeeps : ∀ a ∈ r.pending_rpc_contexts_, a ∈ r.cancelled →
        a ∈ r.cancelled.erase call.context := by
      intro a ha hcancelled
      refine Finset.mem_erase.mpr ⟨?_, hcancelled⟩
      rintro rfl
      exact hgone ha
    refine ⟨hregistered, forall_set trivial (h.others (.same rfl rfl) (.inr ⟨rfl, rfl, hkeeps⟩)),
      h.stored, h.raised, fun hcancels a ha => ?_, ?_, h.live, h.sent⟩
    · exact hkeeps a ha (h.marked hcancels ha)
    · exact Finset.erase_subset_erase _ h.known
  | store t =>
    simp only [RpcRun.step] at hstep
    split at hstep <;> cases hstep
    have hlater : r.Later { r.set t .locking with shutting_down_ := true } :=
      ⟨List.Subset.refl _, fun _ => rfl⟩
    refine ⟨hregistered, forall_set rfl (h.others hlater (.inr (.same rfl rfl rfl))),
      h.stored, fun _ => rfl, h.marked, h.known, h.live, h.sent⟩
  | tryCancel t context =>
    simp only [RpcRun.step] at hstep
    split at hstep
    · rename_i remaining hthread
      split at hstep <;> cases hstep
      rename_i hremaining
      have hrelies := h.each t
      rw [hthread] at hrelies
      obtain ⟨hraised, hsub, hcancelled⟩ := hrelies
      -- the loop touches only registered contexts, and those exist
      have hexists : context ∈ r.contexts := h.registered.pending_sub (hsub hremaining)
      have htry : (r.set t (.looping (remaining.erase context))).tryCancel context =
          { r.set t (.looping (remaining.erase context)) with
            cancelled := insert context r.cancelled } := if_pos hexists
      rw [htry] at hregistered ⊢
      have hmarks : ∀ a, a ∈ r.cancelled → a ∈ insert context r.cancelled :=
        fun a ha => Finset.mem_insert_of_mem ha
      refine ⟨hregistered, forall_set ⟨hraised, ?_, fun a ha hnot => ?_⟩ ?_, h.stored, h.raised,
        fun hcancels a ha => hmarks a (h.marked hcancels ha), ?_, h.live, h.sent⟩
      · exact (Finset.erase_subset _ _).trans hsub
      -- what the loop is through with is marked, the context just taken included
      · by_cases hcontext : a = context
        · exact hcontext ▸ Finset.mem_insert_self _ _
        · exact hmarks a (hcancelled a ha fun hmem => hnot (Finset.mem_erase.mpr ⟨hcontext, hmem⟩))
      · exact h.others (.same rfl rfl) (.inr ⟨rfl, rfl, fun a _ => hmarks a⟩)
      · exact Finset.insert_subset hexists h.known
    · cases hstep
  | unlock t =>
    simp only [RpcRun.step] at hstep
    split at hstep
    · rename_i remaining hthread
      split at hstep <;> cases hstep
      rename_i hempty
      have hrelies := h.each t
      rw [hthread] at hrelies
      obtain ⟨hraised, -, hcancelled⟩ := hrelies
      have hheld : (r.threads t).holds = true := congrArg Activity.holds hthread
      refine ⟨hregistered, forall_set trivial (h.others (.same rfl rfl) (.inl hheld)),
        h.stored, fun _ => hraised, fun _ a ha => ?_, h.known, h.live, h.sent⟩
      exact hcancelled a ha (hempty ▸ Finset.notMem_empty a)
    · cases hstep

end RpcRun

/-! ## Every run -/

/-- What holds in every state of every run of the manager's threads. -/
structure Safe (r : RpcRun) : Prop where
  /-- `TryCancel` is called on contexts that exist. -/
  live : r.dangling = false
  /-- The pending contexts are those of the scopes that exist. -/
  pending : ∀ a, a ∈ r.pending_rpc_contexts_ ↔ ∃ t, (r.threads t).registered = some a
  /-- No two calls have a context at one address. -/
  apart : ∀ t u a, (r.threads t).context = some a → (r.threads u).context = some a → t = u
  exclusive : ∀ t u, (r.threads t).holds = true → (r.threads u).holds = true → t = u
  /-- A mark is never left over from a context that was at the address before. -/
  marks : r.cancelled ⊆ r.contexts
  /-- When a call of `CancelPendingRpcs` is through, all RPCs that are under way are asked to
  cancel, and no scope is let in any more. -/
  cancelled : 0 < r.cancels → (∀ t a, (r.threads t).registered = some a → a ∈ r.cancelled) ∧
    ∀ t call, r.threads t ≠ .inRpc call .inserting
  /-- What reaches the stub after that was asked to cancel, and what needs a session carries one
  that an answer to `Register` gave. -/
  sent : ∀ s ∈ r.sent, (0 < s.cancels → s.cancelled = true) ∧
    (s.rpc.function.needs_session = true → s.session_id ≠ [] ∧
      ∃ device_type_code, (s.session_id, device_type_code) ∈ r.granted)

/-- However RPCs and calls of `CancelPendingRpcs` are interleaved. -/
theorem cancelPendingRpcs_safe {steps : List RpcStep} {r : RpcRun}
    (hrun : runSteps RpcRun.step {} steps = some r) : Safe r := by
  have h : r.Kept := runSteps_invariant (fun s a s' hs ha => hs.step ha) RpcRun.kept_initial hrun
  refine ⟨h.live, h.registered.pending.mem_iff, h.registered.contexts.unique,
    fun t u => h.registered.mutex.unique, h.known, fun hcancels => ⟨fun t a ha => ?_, ?_⟩, h.sent⟩
  · exact h.marked hcancels (h.registered.pending.mem (t := t) ha)
  · intro t call hthread
    have hrelies := h.each t
    rw [hthread] at hrelies
    exact absurd (hrelies.2 rfl) hcancels.ne'

/-- A registration, and a second call whose scope is let in while `CancelPendingRpcs` is already
on its way: it reaches the stub with a context that was asked to cancel. -/
def cancelDuringScope : List RpcStep :=
  [.call 0 .register, .readSession 0, .gate 0 100, .lock 0, .load 0, .insert 0, .send 0,
    .answer 0 { code := .ok, success := true, session_id := ['s'] }, .readAnswer 0, .lock 0,
    .erase 0, .destroy 0, .leave 0,
    .call 1 .heartbeat, .readSession 1, .gate 1 100, .lock 1, .load 1, .cancel 2, .store 2,
    .insert 1, .lock 2, .tryCancel 2 100, .unlock 2, .send 1]

theorem cancelPendingRpcs_safe_scope :
    ∃ r, runSteps RpcRun.step {} cancelDuringScope = some r ∧
      r.sent = [⟨.register, [], false, 0⟩, ⟨.heartbeat, ['s'], true, 1⟩] ∧ r.dangling = false := by
  refine ⟨_, rfl, rfl, ?_⟩
  exact (@cancelPendingRpcs_safe cancelDuringScope _ rfl).live

end TeleopBridge.Grpc
