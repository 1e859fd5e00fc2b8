import TeleopBridge.Video.PipelinePhases

/-!
# Who Owns a Worker Thread

Every thread that is still to be joined has one handle, which is where it belongs: in the slot
of its role, or with a thread that may join it.

## Key Results

- `HandlesInv.controller_step`, `HandlesInv.thread_step`: a step keeps the invariant.
- `HandlesInv.slotsComplete`: a manager finds the workers in their slots.
-/

namespace TeleopBridge.Video

open Support

namespace PipelineRun

variable {s s' : PipelineRun} {self : Option ℕ} {answer recorder : Bool} {op : PipelineOp}
  {rest program : List PipelineOp}

/-- Where the handles are, and what the programs are made of. -/
structure HandlesInv (s : PipelineRun) : Prop where
  handles : ∀ t, s.handleCount t = s.alive t
  slot_role : ∀ r t, s.slots r = some t → s.roleOf t = some r
  workers : ∀ t role p, s.roleOf t = some role → role ≠ .restart_supervisor →
    s.programOf t = some p → ∀ op ∈ p, s.WorkerOp role op
  tidy : ∀ t p, s.programOf t = some p → Tidy p
  controller_tidy : Tidy s.controller
  joined : ∀ t p, s.programOf t = some p → ¬s.Unjoined t → p = []

theorem exec_controller (h : s.exec self answer recorder rest op = some (s', program)) :
    s'.controller = s.controller := by
  cases op with
  | assignWorkerThread role thread require =>
    simp only [exec, assign] at h
    split at h <;> cases h <;> rfl
  | joinWorkerThread role =>
    simp only [exec] at h
    split at h <;> cases h <;> rfl
  | joinThread thread =>
    simp only [exec] at h
    split_ifs at h <;> cases h <;> rfl
  | startPipeline caller =>
    have hsame : (s.tryStart caller answer recorder).1.controller = s.controller := by
      unfold tryStart
      split_ifs <;> rfl
    simp only [exec] at h
    generalize s.tryStart caller answer recorder = tried at h hsame
    obtain ⟨s₁, ops⟩ := tried
    cases h
    exact hsame
  | supervise | superviseRestart =>
    simp only [exec] at h
    split_ifs at h <;> cases h <;> rfl
  | initializePostprocess | initializeEncoder | initializeEyeImage =>
    simp only [exec, initializeComponent] at h
    split at h <;> cases h <;> rfl
  | initializeDecoder =>
    cases h
    split_ifs <;> rfl
  | spawn _ _ | lowerRunning | clearRequest | lowerPipeline | raisePipeline | release _
  | checkPipeline | spawnWorkers | startCapturer _ | workerLoop | captureLoop
  | requestPipelineRestart | setRequest =>
    cases h
    rfl

/-- What a slot has behind an operation. -/
theorem Effect.slot (h : Effect s self rest op s' program) {r : WorkerRole} {t : ℕ}
    (hslot : s'.slots r = some t) :
    s.slots r = some t ∨ ∃ require, op = .assignWorkerThread r t require := by
  cases h with
  | neutral hslots =>
    rw [hslots] at hslot
    exact Or.inl hslot
  | spawned | joined | detached => exact Or.inl hslot
  | @assigned role thread require content joins moved =>
    by_cases hr : r = role
    · subst hr
      simp only [Function.update_self] at hslot
      have hcount := moved t
      rw [hslot, tokens_some_self] at hcount
      by_cases ht : t = thread
      · subst ht
        exact Or.inr ⟨require, rfl⟩
      · have hnone : [thread].count t = 0 := List.count_eq_zero_of_not_mem (by simpa using ht)
        left
        by_contra hold
        rw [hnone, tokens, if_neg hold] at hcount
        omega
    · simp only [Function.update_of_ne hr] at hslot
      exact Or.inl hslot
  | @taken role thread slot =>
    by_cases hr : r = role
    · subst hr
      simp only [Function.update_self] at hslot
      cases hslot
    · simp only [Function.update_of_ne hr] at hslot
      exact Or.inl hslot

namespace HandlesInv

variable (hinv : HandlesInv s) {id t : ℕ} {role : WorkerRole} {p : List PipelineOp}

include hinv

/-- A handle belongs to a thread that is still to be joined. -/
theorem unjoined_of_slot (hslot : s.slots role = some t) : s.Unjoined t := by
  apply unjoined_of_alive
  rw [← hinv.handles t]
  have hpos := heldBy_pos (mem_allRoles role) hslot
  unfold handleCount
  omega

theorem unjoined_of_controller (hmem : t ∈ programHandles s.controller) : s.Unjoined t := by
  apply unjoined_of_alive
  rw [← hinv.handles t]
  have hpos := List.count_pos_iff.mpr hmem
  unfold handleCount
  omega

theorem unjoined_of_thread (hp : s.programOf id = some p) (hmem : t ∈ programHandles p) :
    s.Unjoined t := by
  apply unjoined_of_alive
  rw [← hinv.handles t]
  obtain ⟨thread, hthread, rfl⟩ := Option.map_eq_some_iff.mp hp
  have hpos : 0 < s.threadHandles.count t := List.count_pos_iff.mpr
    (List.mem_flatMap.mpr ⟨thread, List.mem_of_getElem? hthread, hmem⟩)
  unfold handleCount
  omega

/-- A thread that still has something to do is not joined. -/
theorem unjoined_of_program (hp : s.programOf id = some (op :: rest)) : s.Unjoined id := by
  by_contra hnot
  cases hinv.joined id _ hp hnot

/-- A thread whose role no thread has is in no slot. -/
theorem slot_eq_none (hnone : s.NoThread role) : s.slots role = none := by
  cases hslot : s.slots role with
  | none => rfl
  | some t => exact absurd (hinv.slot_role role t hslot) (hnone t (hinv.unjoined_of_slot hslot))

/-- A worker that nobody else has a handle of is in its slot. -/
theorem slotsComplete
    (hcontroller : ∀ u ∈ programHandles s.controller, s.roleOf u = some .restart_supervisor)
    (hsupervisor : ∀ k p, s.roleOf k = some .restart_supervisor → s.programOf k = some p →
      programHandles p = []) : s.SlotsComplete := by
  intro t role hun hrole hne hencode
  have hcount := hinv.handles t
  rw [alive_eq_one hun, handleCount] at hcount
  -- the one handle is in a slot, with the controller or with a thread
  by_cases hslots : 0 < heldBy s.slots allRoles t
  · obtain ⟨other, -, hother⟩ := exists_holder hslots
    have hsame := hinv.slot_role other t hother
    rw [hrole] at hsame
    cases hsame
    exact hother
  exfalso
  by_cases hctl : 0 < (programHandles s.controller).count t
  · have hsup := hcontroller t (List.count_pos_iff.mp hctl)
    rw [hrole] at hsup
    cases hsup
    exact hne rfl
  have hthreads : 0 < s.threadHandles.count t := by omega
  obtain ⟨thread, hmem, hhandle⟩ := List.mem_flatMap.mp (List.count_pos_iff.mp hthreads)
  obtain ⟨k, hk⟩ := List.getElem?_of_mem hmem
  have hkrole : s.roleOf k = some thread.role := by rw [roleOf, hk]; rfl
  have hkprogram : s.programOf k = some thread.program := by rw [programOf, hk]; rfl
  by_cases hsup : thread.role = .restart_supervisor
  · rw [hsup] at hkrole
    rw [hsupervisor k _ hkrole hkprogram] at hhandle
    cases hhandle
  · obtain ⟨op, hop, hin⟩ := mem_programHandles.mp hhandle
    rcases hinv.workers k _ _ hkrole hsup hkprogram op hop with hplain | ⟨henc, hencodeOp⟩
    · cases op <;> first | exact hplain.elim | cases hin
    · -- an encode thread has handles of its own kinds only, and there is none
      have hfrom : FromEncode role := by
        cases op with
        | assignWorkerThread r u require =>
          cases List.mem_singleton.mp hin
          rw [hencodeOp.2.1] at hrole
          cases hrole
          exact hencodeOp.1
        | joinThread u =>
          cases List.mem_singleton.mp hin
          obtain ⟨r, hr, hu⟩ := hencodeOp
          rw [hu] at hrole
          cases hrole
          exact hr
        | _ => cases hin
      rw [henc] at hkrole
      refine hencode hfrom k ?_ hkrole
      by_contra hnot
      rw [hinv.joined k _ hkprogram hnot] at hop
      cases hop

omit hinv

/-- The parts that do not depend on whose step it was. -/
theorem typed_slot (hinv : HandlesInv s) (heffect : Effect s self rest op s' program)
    (htyped : ∀ r t require, op = .assignWorkerThread r t require → s.roleOf t = some r)
    {r : WorkerRole} (hslot : s'.slots r = some t) : s'.roleOf t = some r := by
  rcases heffect.slot hslot with hold | ⟨require, rfl⟩
  · exact heffect.roleOf (hinv.slot_role r t hold)
  · exact heffect.roleOf (htyped r t require rfl)

theorem joined_of_effect (hinv : HandlesInv s) (heffect : Effect s self rest op s' program)
    (hp : s'.programOf t = some p) (hnot : ¬s'.Unjoined t) : p = [] := by
  rcases heffect.programOf hp with hold | ⟨-, -, -, hun⟩
  · by_cases hun : s.Unjoined t
    · rcases heffect.unjoined_keep hun with hkeep | ⟨-, hempty⟩
      · exact absurd hkeep hnot
      · rw [hempty] at hold
        cases hold
        rfl
    · exact hinv.joined t p hold hun
  · exact absurd hun hnot

theorem workers_of_effect (hinv : HandlesInv s) (heffect : Effect s self rest op s' program)
    (hrole : s'.roleOf t = some role) (hne : role ≠ .restart_supervisor)
    (hp : s'.programOf t = some p) : ∀ op' ∈ p, s'.WorkerOp role op' := by
  rcases heffect.programOf hp with hold | ⟨new, rfl, hnew, -⟩
  · obtain ⟨old, hold_role⟩ := roleOf_isSome_of_programOf hold
    have hsame := heffect.roleOf hold_role
    rw [hrole] at hsame
    cases hsame
    exact fun op' hop' => (hinv.workers t role p hold_role hne hold op' hop').mono
      fun u r => heffect.roleOf
  · rw [hrole] at hnew
    cases hnew
    exact main_workerOp hne

theorem tidy_of_effect (hinv : HandlesInv s) (heffect : Effect s self rest op s' program)
    (hp : s'.programOf t = some p) : Tidy p := by
  rcases heffect.programOf hp with hold | ⟨new, rfl, -, -⟩
  · exact hinv.tidy t p hold
  · exact tidy_of_noHandles new.main_noHandles

/-- A step of the controller. -/
theorem controller_step (hinv : HandlesInv s) (hcontroller : s.controller = op :: rest)
    (hexec : s.exec none answer recorder rest op = some (s', program))
    (htyped : ∀ r t require, op = .assignWorkerThread r t require → s.roleOf t = some r) :
    HandlesInv { s' with controller := program } := by
  have heffect := exec_effect hexec
  have htidy : Tidy (op :: rest) := hcontroller ▸ hinv.controller_tidy
  have hun : ∀ t ∈ op.handles, s.Unjoined t := fun t ht =>
    hinv.unjoined_of_controller (by rw [hcontroller]; exact List.mem_append_left _ ht)
  have htidies : ∀ t p, s'.programOf t = some p → Tidy p := fun t p =>
    hinv.tidy_of_effect heffect
  have hjoined : ∀ t p, s'.programOf t = some p → ¬s'.Unjoined t → p = [] := fun t p =>
    hinv.joined_of_effect heffect
  have hworkers : ∀ t role p, s'.roleOf t = some role → role ≠ .restart_supervisor →
      s'.programOf t = some p → ∀ op' ∈ p, s'.WorkerOp role op' := fun t role p =>
    hinv.workers_of_effect heffect
  refine ⟨fun t => ?_, fun r t => hinv.typed_slot heffect htyped, hworkers, htidies,
    heffect.tidy htidy, hjoined⟩
  have hbalance := heffect.balance htidy hun (fun _ _ => nofun) t
  have hcount := hinv.handles t
  rw [handleCount, hcontroller, ← heffect.threadHandles] at hcount
  show heldBy s'.slots allRoles t + (programHandles program).count t + s'.threadHandles.count t =
    s'.alive t
  omega

/-- A step of a thread. -/
theorem thread_step (hinv : HandlesInv s) (hprogram : s.programOf id = some (op :: rest))
    (hexec : s.exec (some id) answer recorder rest op = some (s', program))
    (hother : op ≠ .joinThread id)
    (htyped : ∀ r t require, op = .assignWorkerThread r t require → s.roleOf t = some r)
    (hworker : ∀ role, s.roleOf id = some role → role ≠ .restart_supervisor →
      ∀ op' ∈ program, s'.WorkerOp role op') :
    HandlesInv (s'.setProgram id program) := by
  have heffect := exec_effect hexec
  have htidy := hinv.tidy id _ hprogram
  have hkeep := heffect.programOf_keep hprogram
  have hun : ∀ t ∈ op.handles, s.Unjoined t := fun t ht =>
    hinv.unjoined_of_thread hprogram (List.mem_append_left _ ht)
  -- what holds of the thread itself and of the others
  have hsplit : ∀ t p, (s'.setProgram id program).programOf t = some p →
      t = id ∧ p = program ∨ t ≠ id ∧ s'.programOf t = some p := by
    intro t p hp
    by_cases ht : t = id
    · subst ht
      rw [programOf_setProgram_self (by rw [hkeep]; rfl)] at hp
      exact Or.inl ⟨rfl, (Option.some.inj hp).symm⟩
    · rw [programOf_setProgram_of_ne ht] at hp
      exact Or.inr ⟨ht, hp⟩
  refine ⟨fun t => ?_, fun r t hslot => ?_, fun t role p hrole hne hp => ?_, fun t p hp => ?_, ?_,
    fun t p hp hnot => ?_⟩
  · have hbalance := heffect.balance htidy hun
      (by rintro u rfl ⟨⟩; exact hother rfl) t
    have hcount := hinv.handles t
    rw [handleCount, ← heffect.threadHandles] at hcount
    have hown := count_threadHandles_setProgram (p := program) hkeep t
    have halive : (s'.setProgram id program).alive t = s'.alive t :=
      alive_congr unjoined_setProgram
    rw [halive]
    show heldBy s'.slots allRoles t + (programHandles s'.controller).count t +
      (s'.setProgram id program).threadHandles.count t = s'.alive t
    rw [exec_controller hexec]
    omega
  · rw [roleOf_setProgram]
    exact hinv.typed_slot heffect htyped hslot
  · rw [roleOf_setProgram] at hrole
    have hops : ∀ op' ∈ p, s'.WorkerOp role op' := by
      rcases hsplit t p hp with ⟨rfl, rfl⟩ | ⟨-, hp'⟩
      · obtain ⟨old, hold⟩ := roleOf_isSome_of_programOf hprogram
        have hsame := heffect.roleOf hold
        rw [hrole] at hsame
        cases hsame
        exact hworker role hold hne
      · exact hinv.workers_of_effect heffect hrole hne hp'
    exact fun op' hop' => (hops op' hop').mono fun u r hu => by rwa [roleOf_setProgram]
  · rcases hsplit t p hp with ⟨rfl, rfl⟩ | ⟨-, hp'⟩
    · exact heffect.tidy htidy
    · exact hinv.tidy_of_effect heffect hp'
  · show Tidy s'.controller
    rw [exec_controller hexec]
    exact hinv.controller_tidy
  · rw [unjoined_setProgram] at hnot
    rcases hsplit t p hp with ⟨rfl, rfl⟩ | ⟨-, hp'⟩
    · -- a thread does not join itself
      have hold := hinv.unjoined_of_program hprogram
      rcases heffect.unjoined_keep hold with hun' | ⟨rfl, -⟩
      · exact absurd hun' hnot
      · exact absurd rfl hother
    · exact hinv.joined_of_effect heffect hp' hnot

end HandlesInv

end PipelineRun

end TeleopBridge.Video
