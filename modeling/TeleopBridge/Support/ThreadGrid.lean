import Mathlib.Data.Set.Basic
import Mathlib.Logic.Function.Basic
import Mathlib.Data.List.Basic

/-!
# Threads over One Memory

Threads load and store the cells of one memory, one access at a time and in any order. They
are race free when no thread stores where another one loads or stores. The threads of a
launch are the positions of a grid of blocks.

## Key Results

- `RaceFree.memory_of_done`: however race free threads were interleaved, each of them leaves
  in its cells what it leaves there when it runs alone.
- `exists_schedule`: the threads can always be run to their ends.
- `GridBody.memory_of_done`: a covering grid does every position of a rectangle once.
-/

namespace TeleopBridge.Support

variable {ι β τ : Type*}

/-! ## Programs -/

/-- What a thread still does. A load decides by its value what comes next. -/
inductive ThreadProgram (ι β : Type*) where
  | done
  | load (addr : ι) (next : β → ThreadProgram ι β)
  | store (addr : ι) (value : β) (next : ThreadProgram ι β)

namespace ThreadProgram

/-- The memory that a thread leaves when no other thread runs. -/
def alone [DecidableEq ι] : ThreadProgram ι β → (ι → β) → ι → β
  | .done, memory => memory
  | .load addr next, memory => (next (memory addr)).alone memory
  | .store addr value next, memory => next.alone (Function.update memory addr value)

/-- Whatever the loads find, the thread loads in `reads` and stores in `writes`. -/
def Within (reads writes : Set ι) : ThreadProgram ι β → Prop
  | .done => True
  | .load addr next => addr ∈ reads ∧ ∀ value, (next value).Within reads writes
  | .store addr _ next => addr ∈ writes ∧ next.Within reads writes

variable {reads writes : Set ι} {p : ThreadProgram ι β} {memory memory' : ι → β} {a : ι}

theorem within_load {next : β → ThreadProgram ι β} (ha : a ∈ reads)
    (hnext : ∀ value, (next value).Within reads writes) :
    (ThreadProgram.load a next).Within reads writes := ⟨ha, hnext⟩

theorem within_store {value : β} {next : ThreadProgram ι β} (ha : a ∈ writes)
    (hnext : next.Within reads writes) :
    (ThreadProgram.store a value next).Within reads writes := ⟨ha, hnext⟩

theorem Within.mono {writes' : Set ι} (hwithin : p.Within reads writes)
    (hsub : ∀ b ∈ writes, b ∈ writes') : p.Within reads writes' := by
  induction p with
  | done => trivial
  | load addr next ih => exact ⟨hwithin.1, fun value => ih value (hwithin.2 value)⟩
  | store addr value next ih => exact ⟨hsub _ hwithin.1, ih hwithin.2⟩

/-- A thread cannot tell memories apart that agree on its cells. -/
theorem alone_congr [DecidableEq ι] (hwithin : p.Within reads writes)
    (hagree : ∀ b ∈ reads ∪ writes, memory b = memory' b) (ha : a ∈ reads ∪ writes) :
    p.alone memory a = p.alone memory' a := by
  induction p generalizing memory memory' with
  | done => exact hagree a ha
  | load addr next ih =>
    rw [alone, alone, hagree addr (Or.inl hwithin.1)]
    exact ih _ (hwithin.2 _) hagree
  | store addr value next ih =>
    refine ih hwithin.2 fun b hb => ?_
    -- both memories get the same value there, and agree elsewhere as before
    by_cases heq : b = addr
    · rw [heq, Function.update_self, Function.update_self]
    · rw [Function.update_of_ne heq, Function.update_of_ne heq]
      exact hagree b hb

end ThreadProgram

open ThreadProgram

/-! ## Interleavings -/

/-- A launch under way. -/
structure Launched (τ ι β : Type*) where
  memory : ι → β
  pending : τ → ThreadProgram ι β

namespace Launched

/-- The next access of one thread. A thread that has ended does nothing. -/
def access [DecidableEq ι] [DecidableEq τ] (s : Launched τ ι β) (t : τ) : Launched τ ι β :=
  match s.pending t with
  | .done => s
  | .load addr next => { s with pending := Function.update s.pending t (next (s.memory addr)) }
  | .store addr value next =>
      { memory := Function.update s.memory addr value
        pending := Function.update s.pending t next }

/-- The accesses in the order in which the threads are named. -/
def run [DecidableEq ι] [DecidableEq τ] (s : Launched τ ι β) (schedule : List τ) :
    Launched τ ι β := schedule.foldl access s

/-- Every thread has run to its end. -/
def Done (s : Launched τ ι β) : Prop := ∀ t, s.pending t = .done

section

variable [DecidableEq ι] [DecidableEq τ] {s : Launched τ ι β} {t : τ}

@[simp] theorem run_cons {schedule : List τ} : s.run (t :: schedule) = (s.access t).run schedule :=
  rfl

theorem run_append {schedule later : List τ} :
    s.run (schedule ++ later) = (s.run schedule).run later := List.foldl_append

theorem access_done (h : s.pending t = .done) : s.access t = s := by
  rw [access, h]

theorem access_load {addr : ι} {next : β → ThreadProgram ι β} (h : s.pending t = .load addr next) :
    s.access t = { s with pending := Function.update s.pending t (next (s.memory addr)) } := by
  rw [access, h]

theorem access_store {addr : ι} {value : β} {next : ThreadProgram ι β}
    (h : s.pending t = .store addr value next) :
    s.access t =
      { memory := Function.update s.memory addr value
        pending := Function.update s.pending t next } := by
  rw [access, h]

end

end Launched

/-- No thread stores where another one loads or stores. -/
structure RaceFree (reads writes : τ → Set ι) (programs : τ → ThreadProgram ι β) : Prop where
  within : ∀ t, (programs t).Within (reads t) (writes t)
  apart : ∀ t u, t ≠ u → ∀ a ∈ writes t, a ∉ reads u ∪ writes u

namespace RaceFree

variable {reads writes : τ → Set ι} {programs : τ → ThreadProgram ι β} {memory : ι → β}
  {s : Launched τ ι β} {schedule : List τ} {t : τ} {a : ι}

/-- What a launch of race free threads keeps: left alone from here on, each thread ends as it
would have from the start. -/
structure Keeps [DecidableEq ι] (reads writes : τ → Set ι) (programs : τ → ThreadProgram ι β)
    (memory : ι → β) (s : Launched τ ι β) : Prop where
  race_free : RaceFree reads writes s.pending
  ends : ∀ t, ∀ a ∈ reads t ∪ writes t,
    (s.pending t).alone s.memory a = (programs t).alone memory a
  frame : ∀ a, (∀ t, a ∉ writes t) → s.memory a = memory a

theorem keeps_start [DecidableEq ι] (hfree : RaceFree reads writes programs) :
    Keeps reads writes programs memory ⟨memory, programs⟩ :=
  ⟨hfree, fun _ _ _ => rfl, fun _ _ => rfl⟩

/-- Replacing one program by one that stays within the same cells. -/
theorem update [DecidableEq τ] (hfree : RaceFree reads writes programs) {p : ThreadProgram ι β}
    (hp : p.Within (reads t) (writes t)) :
    RaceFree reads writes (Function.update programs t p) := by
  refine ⟨fun u => ?_, hfree.apart⟩
  by_cases hu : u = t
  · subst hu
    rw [Function.update_self]
    exact hp
  · rw [Function.update_of_ne hu]
    exact hfree.within u

variable [DecidableEq ι] [DecidableEq τ]

theorem Keeps.access (hkeeps : Keeps reads writes programs memory s) (t : τ) :
    Keeps reads writes programs memory (s.access t) := by
  have hwithin := hkeeps.race_free.within t
  cases hp : s.pending t with
  | done =>
    rw [Launched.access_done hp]
    exact hkeeps
  | load addr next =>
    rw [Launched.access_load hp]
    rw [hp] at hwithin
    refine ⟨hkeeps.race_free.update (hwithin.2 _), fun u b hb => ?_, hkeeps.frame⟩
    rw [← hkeeps.ends u b hb]
    by_cases hu : u = t
    · subst hu
      simp only [Function.update_self, hp, alone]
    · simp only [Function.update_of_ne hu]
  | store addr value next =>
    rw [Launched.access_store hp]
    rw [hp] at hwithin
    refine ⟨hkeeps.race_free.update hwithin.2, fun u b hb => ?_, fun b hb => ?_⟩
    · rw [← hkeeps.ends u b hb]
      by_cases hu : u = t
      · subst hu
        simp only [Function.update_self, hp, alone]
      · simp only [Function.update_of_ne hu]
        -- the cell that `t` stores is none of `u`'s
        refine alone_congr (hkeeps.race_free.within u) (fun c hc => ?_) hb
        have hne : c ≠ addr := by
          rintro rfl
          exact hkeeps.race_free.apart t u (Ne.symm hu) _ hwithin.1 hc
        exact Function.update_of_ne hne _ _
    · have hne : b ≠ addr := fun heq => hb t (heq ▸ hwithin.1)
      rw [← hkeeps.frame b hb]
      exact Function.update_of_ne hne _ _

theorem Keeps.run (hkeeps : Keeps reads writes programs memory s) (schedule : List τ) :
    Keeps reads writes programs memory (s.run schedule) := by
  induction schedule generalizing s with
  | nil => exact hkeeps
  | cons t schedule ih => exact ih (hkeeps.access t)

/-- However the threads were interleaved, each leaves in its cells what it leaves there when
it runs alone. -/
theorem memory_of_done (hfree : RaceFree reads writes programs)
    (hdone : (Launched.run ⟨memory, programs⟩ schedule).Done) (ha : a ∈ writes t) :
    (Launched.run ⟨memory, programs⟩ schedule).memory a = (programs t).alone memory a := by
  have hkeeps : Keeps reads writes programs memory _ := hfree.keeps_start.run schedule
  have hends := hkeeps.ends t a (Or.inr ha)
  rw [hdone t] at hends
  exact hends

/-- The cells that no thread stores are as they were. -/
theorem memory_of_notMem (hfree : RaceFree reads writes programs) (ha : ∀ t, a ∉ writes t) :
    (Launched.run ⟨memory, programs⟩ schedule).memory a = memory a :=
  (hfree.keeps_start.run schedule).frame a ha

end RaceFree

/-! ## Progress -/

section Progress

variable [DecidableEq ι] [DecidableEq τ]

/-- One thread can be run to its end. -/
theorem exists_schedule_thread (s : Launched τ ι β) (t : τ) :
    ∃ schedule, (s.run schedule).pending t = .done ∧
      ∀ u ≠ t, (s.run schedule).pending u = s.pending u := by
  generalize hp : s.pending t = p
  induction p generalizing s with
  | done => exact ⟨[], hp, fun _ _ => rfl⟩
  | load addr next ih =>
    have hmoved : (s.access t).pending = Function.update s.pending t (next (s.memory addr)) := by
      rw [Launched.access_load hp]
    obtain ⟨schedule, hdone, hother⟩ := ih _ (s.access t) (by rw [hmoved, Function.update_self])
    -- one access, then the schedule for the rest of the program
    refine ⟨t :: schedule, hdone, fun u hu => ?_⟩
    rw [Launched.run_cons, hother u hu, hmoved, Function.update_of_ne hu]
  | store addr value next ih =>
    have hmoved : (s.access t).pending = Function.update s.pending t next := by
      rw [Launched.access_store hp]
    obtain ⟨schedule, hdone, hother⟩ := ih (s.access t) (by rw [hmoved, Function.update_self])
    refine ⟨t :: schedule, hdone, fun u hu => ?_⟩
    rw [Launched.run_cons, hother u hu, hmoved, Function.update_of_ne hu]

/-- The threads can be run to their ends. -/
theorem exists_schedule (threads : List τ) (s : Launched τ ι β)
    (hrest : ∀ t, t ∉ threads → s.pending t = .done) :
    ∃ schedule, (s.run schedule).Done := by
  induction threads generalizing s with
  | nil => exact ⟨[], fun t => hrest t List.not_mem_nil⟩
  | cons t threads ih =>
    -- one thread to its end, then the others, which stand where they were
    obtain ⟨first, hdone, hother⟩ := exists_schedule_thread s t
    obtain ⟨rest, hall⟩ := ih (s.run first) fun u hu => by
      by_cases heq : u = t
      · rw [heq]
        exact hdone
      · rw [hother u heq]
        exact hrest u fun hmem => (List.mem_cons.mp hmem).elim heq hu
    exact ⟨first ++ rest, by rw [Launched.run_append]; exact hall⟩

end Progress

/-! ## Grids -/

/-- A thread of a launch: its block and its place in the block. -/
structure GridThread where
  block_x : ℕ
  block_y : ℕ
  thread_x : ℕ
  thread_y : ℕ
deriving DecidableEq, Repr

/-- The sizes of a launch, in blocks and in threads of a block. -/
structure GridShape where
  grid_x : ℕ
  grid_y : ℕ
  block_x : ℕ
  block_y : ℕ
deriving DecidableEq, Repr

namespace GridShape

/-- The thread belongs to the launch. -/
def Has (shape : GridShape) (t : GridThread) : Prop :=
  t.block_x < shape.grid_x ∧ t.block_y < shape.grid_y ∧
    t.thread_x < shape.block_x ∧ t.thread_y < shape.block_y

instance (shape : GridShape) (t : GridThread) : Decidable (shape.Has t) :=
  inferInstanceAs (Decidable (_ ∧ _ ∧ _ ∧ _))

/-- Every thread of the launch, in one list. -/
def threads (shape : GridShape) : List GridThread :=
  (List.range shape.grid_x).flatMap fun block_x =>
    (List.range shape.grid_y).flatMap fun block_y =>
      (List.range shape.block_x).flatMap fun thread_x =>
        (List.range shape.block_y).map fun thread_y => ⟨block_x, block_y, thread_x, thread_y⟩

theorem mem_threads {shape : GridShape} {t : GridThread} : t ∈ shape.threads ↔ shape.Has t := by
  simp only [threads, List.mem_flatMap, List.mem_map, List.mem_range]
  constructor
  · rintro ⟨block_x, hbx, block_y, hby, thread_x, htx, thread_y, hty, rfl⟩
    exact ⟨hbx, hby, htx, hty⟩
  · rintro ⟨hbx, hby, htx, hty⟩
    exact ⟨_, hbx, _, hby, _, htx, _, hty, rfl⟩

/-- The position of a thread along the first axis. -/
def x (shape : GridShape) (t : GridThread) : ℕ := t.block_x * shape.block_x + t.thread_x

/-- The position of a thread along the second axis. -/
def y (shape : GridShape) (t : GridThread) : ℕ := t.block_y * shape.block_y + t.thread_y

end GridShape

/-- The blocks of `size` threads that cover `n` positions. -/
def blocksFor (n size : ℕ) : ℕ := (n + size - 1) / size

theorem div_lt_blocksFor {n size x : ℕ} (hsize : 0 < size) (hx : x < n) :
    x / size < blocksFor n size := by
  rw [blocksFor, Nat.div_lt_iff_lt_mul hsize]
  have hsplit := Nat.div_add_mod' (n + size - 1) size
  have hmod := Nat.mod_lt (n + size - 1) hsize
  omega

/-- A block and a place in it are the quotient and the remainder of the position. -/
theorem eq_div_mod (block : ℕ) {thread size : ℕ} (hthread : thread < size) :
    block = (block * size + thread) / size ∧ thread = (block * size + thread) % size := by
  constructor
  · rw [Nat.mul_comm, Nat.mul_add_div (by omega), Nat.div_eq_of_lt hthread, Nat.add_zero]
  · rw [Nat.mul_add_mod_self_right, Nat.mod_eq_of_lt hthread]

namespace GridShape

variable {shape : GridShape} {t u : GridThread} {width height row col : ℕ}

/-- Two threads of a launch are at different positions. -/
theorem eq_of_position_eq (ht : shape.Has t) (hu : shape.Has u) (hx : shape.x t = shape.x u)
    (hy : shape.y t = shape.y u) : t = u := by
  obtain ⟨-, -, htx, hty⟩ := ht
  obtain ⟨-, -, hux, huy⟩ := hu
  -- a position splits into block and thread in one way
  obtain ⟨htbx, htx⟩ := eq_div_mod t.block_x htx
  obtain ⟨htby, hty⟩ := eq_div_mod t.block_y hty
  obtain ⟨hubx, hux⟩ := eq_div_mod u.block_x hux
  obtain ⟨huby, huy⟩ := eq_div_mod u.block_y huy
  simp only [x, y] at hx hy
  rw [hx] at htbx htx
  rw [hy] at htby hty
  have hbx : t.block_x = u.block_x := htbx.trans hubx.symm
  have hby : t.block_y = u.block_y := htby.trans huby.symm
  have htx : t.thread_x = u.thread_x := htx.trans hux.symm
  have hty : t.thread_y = u.thread_y := hty.trans huy.symm
  cases t
  cases u
  rw [GridThread.mk.injEq]
  exact ⟨hbx, hby, htx, hty⟩

/-- The launch that has a thread for every position of a rectangle. -/
def covering (width height block_x block_y : ℕ) : GridShape :=
  ⟨blocksFor width block_x, blocksFor height block_y, block_x, block_y⟩

/-- The thread at a position. -/
def threadAt (shape : GridShape) (col row : ℕ) : GridThread :=
  ⟨col / shape.block_x, row / shape.block_y, col % shape.block_x, row % shape.block_y⟩

theorem x_threadAt (shape : GridShape) (col row : ℕ) : shape.x (shape.threadAt col row) = col :=
  Nat.div_add_mod' col shape.block_x

theorem y_threadAt (shape : GridShape) (col row : ℕ) : shape.y (shape.threadAt col row) = row :=
  Nat.div_add_mod' row shape.block_y

theorem covering_has_threadAt {block_x block_y : ℕ} (hx : 0 < block_x) (hy : 0 < block_y)
    (hcol : col < width) (hrow : row < height) :
    (covering width height block_x block_y).Has
      ((covering width height block_x block_y).threadAt col row) :=
  ⟨div_lt_blocksFor hx hcol, div_lt_blocksFor hy hrow, Nat.mod_lt _ hx, Nat.mod_lt _ hy⟩

end GridShape

/-- A kernel whose threads run `body` at their positions inside a rectangle and nothing
outside of it. -/
def gridPrograms (shape : GridShape) (width height : ℕ) (body : ℕ → ℕ → ThreadProgram ι β)
    (t : GridThread) : ThreadProgram ι β :=
  if shape.Has t ∧ shape.x t < width ∧ shape.y t < height then body (shape.x t) (shape.y t)
  else .done

section Grid

variable [DecidableEq ι] {shape : GridShape} {width height row col : ℕ}
  {body : ℕ → ℕ → ThreadProgram ι β} {reads : Set ι} {cells : ℕ → ℕ → Set ι}

/-- The cells that a thread of a grid stores. -/
def gridCells (shape : GridShape) (width height : ℕ) (cells : ℕ → ℕ → Set ι) (t : GridThread) :
    Set ι :=
  {a | shape.Has t ∧ shape.x t < width ∧ shape.y t < height ∧ a ∈ cells (shape.x t) (shape.y t)}

/-- Bodies that store in different cells at different positions, none of which is loaded. -/
structure GridBody (width height : ℕ) (reads : Set ι) (cells : ℕ → ℕ → Set ι)
    (body : ℕ → ℕ → ThreadProgram ι β) : Prop where
  within : ∀ col < width, ∀ row < height, (body col row).Within reads (cells col row)
  unread : ∀ col < width, ∀ row < height, ∀ a ∈ cells col row, a ∉ reads
  single : ∀ col < width, ∀ row < height, ∀ col' < width, ∀ row' < height,
    ∀ a ∈ cells col row, a ∈ cells col' row' → col = col' ∧ row = row'

omit [DecidableEq ι] in
theorem GridBody.raceFree (hbody : GridBody width height reads cells body) :
    RaceFree (fun _ => reads) (gridCells shape width height cells)
      (gridPrograms shape width height body) := by
  refine ⟨fun t => ?_, ?_⟩
  · unfold gridPrograms
    split
    · rename_i ht
      refine ThreadProgram.Within.mono (hbody.within _ ht.2.1 _ ht.2.2) fun a ha => ?_
      exact ⟨ht.1, ht.2.1, ht.2.2, ha⟩
    · trivial
  · rintro t u hne a ⟨ht, hx, hy, ha⟩ (hread | ⟨hu, hx', hy', ha'⟩)
    -- what a thread writes no thread reads
    · exact hbody.unread _ hx _ hy a ha hread
    · -- and two threads that write one cell stand at one position
      obtain ⟨hcol, hrow⟩ := hbody.single _ hx _ hy _ hx' _ hy' a ha ha'
      exact hne (GridShape.eq_of_position_eq ht hu hcol hrow)

/-- A launch at its beginning. -/
def launch (shape : GridShape) (width height : ℕ) (body : ℕ → ℕ → ThreadProgram ι β)
    (memory : ι → β) : Launched GridThread ι β :=
  ⟨memory, gridPrograms shape width height body⟩

variable {memory : ι → β} {schedule : List GridThread} {a : ι}

/-- In whatever order the threads of a covering grid went, every position was done once. -/
theorem GridBody.memory_of_done {block_x block_y : ℕ}
    (hbody : GridBody width height reads cells body) (hbx : 0 < block_x) (hby : 0 < block_y)
    (hshape : shape = GridShape.covering width height block_x block_y)
    (hdone : ((launch shape width height body memory).run schedule).Done)
    (hcol : col < width) (hrow : row < height) (ha : a ∈ cells col row) :
    ((launch shape width height body memory).run schedule).memory a =
      (body col row).alone memory a := by
  have hx := GridShape.x_threadAt shape col row
  have hy := GridShape.y_threadAt shape col row
  -- the grid covers the position
  have hhas : shape.Has (shape.threadAt col row) := by
    rw [hshape]
    exact GridShape.covering_has_threadAt hbx hby hcol hrow
  have hmem := hbody.raceFree.memory_of_done hdone (t := shape.threadAt col row) (a := a)
    ⟨hhas, by rwa [hx], by rwa [hy], by rwa [hx, hy]⟩
  rw [launch, hmem, gridPrograms, hx, hy, if_pos ⟨hhas, hcol, hrow⟩]

/-- The cells of no position are as they were. -/
theorem GridBody.memory_of_notMem (hbody : GridBody width height reads cells body)
    (ha : ∀ col < width, ∀ row < height, a ∉ cells col row) :
    ((launch shape width height body memory).run schedule).memory a = memory a :=
  hbody.raceFree.memory_of_notMem fun _ ⟨_, hx, hy, hmem⟩ => ha _ hx _ hy hmem

end Grid

end TeleopBridge.Support
