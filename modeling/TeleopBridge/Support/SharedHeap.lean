import Mathlib.Data.List.Perm.Basic
import Mathlib.Data.List.Range
import Mathlib.Data.Nat.Notation
import Mathlib.Logic.Function.Basic

/-!
# Shared Ownership

Objects that are owned by counted references and handed to their deleter when the last
owner drops them. An object is named by a number; its owners are wherever the program keeps
that number.

## Key Results

- `objects_make`, `objects_copy`: a new object lives, a further owner changes nothing.
- `objects_reset_last`, `objects_reset_shared`: dropping an owner takes out exactly the
  object that goes to the deleter, or nothing.
-/

namespace TeleopBridge.Support

/-- The objects made so far, with their reference counts. -/
structure SharedHeap (α : Type*) where
  next : ℕ := 0
  object : ℕ → Option α := fun _ => none
  use_count : ℕ → ℕ := fun _ => 0

namespace SharedHeap

variable {α : Type*}

/-- A new object with one owner; its name is `next`. -/
def make (h : SharedHeap α) (a : α) : SharedHeap α where
  next := h.next + 1
  object := Function.update h.object h.next (some a)
  use_count := Function.update h.use_count h.next 1

/-- One more owner. -/
def copy (h : SharedHeap α) (id : ℕ) : SharedHeap α :=
  { h with use_count := Function.update h.use_count id (h.use_count id + 1) }

/-- One owner less, and what the deleter gets. -/
def reset (h : SharedHeap α) (id : ℕ) : Option α × SharedHeap α :=
  (if h.use_count id = 1 then h.object id else none,
    { h with use_count := Function.update h.use_count id (h.use_count id - 1) })

/-- The object, as long as it has an owner. -/
def alive (h : SharedHeap α) (id : ℕ) : Option α :=
  if h.use_count id = 0 then none else h.object id

/-- The live objects. -/
def objects (h : SharedHeap α) : List α := (List.range h.next).filterMap h.alive

/-- The numbers below `next` are the objects made; only they have owners. -/
structure WellFormed (h : SharedHeap α) : Prop where
  named : ∀ id, id < h.next ↔ (h.object id).isSome
  unowned : ∀ id, h.next ≤ id → h.use_count id = 0

variable {h : SharedHeap α} {id : ℕ}

@[simp] theorem object_make_next (h : SharedHeap α) (a : α) : (h.make a).object h.next = some a :=
  Function.update_self _ _ _

theorem object_make_of_ne (hne : id ≠ h.next) (a : α) : (h.make a).object id = h.object id :=
  Function.update_of_ne hne _ _

@[simp] theorem use_count_make_next (h : SharedHeap α) (a : α) : (h.make a).use_count h.next = 1 :=
  Function.update_self _ _ _

theorem use_count_make_of_ne (hne : id ≠ h.next) (a : α) :
    (h.make a).use_count id = h.use_count id :=
  Function.update_of_ne hne _ _

@[simp] theorem use_count_copy_self (h : SharedHeap α) (id : ℕ) :
    (h.copy id).use_count id = h.use_count id + 1 :=
  Function.update_self _ _ _

theorem use_count_copy_of_ne {other : ℕ} (hne : other ≠ id) :
    (h.copy id).use_count other = h.use_count other :=
  Function.update_of_ne hne _ _

@[simp] theorem use_count_reset_self (h : SharedHeap α) (id : ℕ) :
    (h.reset id).2.use_count id = h.use_count id - 1 :=
  Function.update_self _ _ _

theorem use_count_reset_of_ne {other : ℕ} (hne : other ≠ id) :
    (h.reset id).2.use_count other = h.use_count other :=
  Function.update_of_ne hne _ _

theorem WellFormed.lt_next (hwf : WellFormed h) (howned : 0 < h.use_count id) : id < h.next := by
  by_contra hle
  have hzero := hwf.unowned id (Nat.not_lt.mp hle)
  omega

theorem WellFormed.exists_object (hwf : WellFormed h) (howned : 0 < h.use_count id) :
    ∃ a, h.object id = some a :=
  Option.isSome_iff_exists.mp ((hwf.named id).mp (hwf.lt_next howned))

theorem WellFormed.make (hwf : WellFormed h) (a : α) : WellFormed (h.make a) where
  named := by
    intro id
    show id < h.next + 1 ↔ _
    by_cases hsame : id = h.next
    · subst hsame
      simp
    · rw [object_make_of_ne hsame, ← hwf.named id]
      omega
  unowned := by
    intro id hid
    have hle : h.next + 1 ≤ id := hid
    rw [use_count_make_of_ne (by omega)]
    exact hwf.unowned id (by omega)

theorem WellFormed.copy (hwf : WellFormed h) (howned : 0 < h.use_count id) :
    WellFormed (h.copy id) where
  named := hwf.named
  unowned := by
    intro other hother
    have hle : h.next ≤ other := hother
    have hlt := hwf.lt_next howned
    rw [use_count_copy_of_ne (by omega)]
    exact hwf.unowned other hle

theorem WellFormed.reset (hwf : WellFormed h) (id : ℕ) : WellFormed (h.reset id).2 where
  named := hwf.named
  unowned := by
    intro other hother
    by_cases hsame : other = id
    · subst hsame
      rw [use_count_reset_self, hwf.unowned other hother]
    · rw [use_count_reset_of_ne hsame]
      exact hwf.unowned other hother

theorem mem_objects (hwf : WellFormed h) {a : α} (hobject : h.object id = some a)
    (howned : 0 < h.use_count id) : a ∈ h.objects := by
  refine List.mem_filterMap.mpr ⟨id, List.mem_range.mpr (hwf.lt_next howned), ?_⟩
  rw [alive, if_neg (by omega), hobject]

/-- Taking one entry out of what a list without repetitions is mapped to. -/
theorem filterMap_update_perm {β : Type*} {l : List ℕ} (hl : l.Nodup) (hid : id ∈ l)
    {f : ℕ → Option β} {b : β} (hf : f id = some b) :
    (l.filterMap f).Perm (b :: l.filterMap (Function.update f id none)) := by
  -- bring the entry to the front, where it is kept by `f` and left out by the update
  have hsplit := List.perm_cons_erase hid
  have hrest : (l.erase id).filterMap (Function.update f id none) = (l.erase id).filterMap f := by
    refine List.filterMap_congr fun other hother => ?_
    apply Function.update_of_ne
    rintro rfl
    exact hl.not_mem_erase hother
  have hcons : (id :: l.erase id).filterMap (Function.update f id none) =
      (l.erase id).filterMap f := by
    rw [List.filterMap_cons_none (Function.update_self _ _ _), hrest]
  have hfront : (l.filterMap f).Perm (b :: (l.erase id).filterMap f) := by
    have hmap := hsplit.filterMap f
    rwa [List.filterMap_cons_some hf] at hmap
  have hback : (l.filterMap (Function.update f id none)).Perm ((l.erase id).filterMap f) := by
    have hmap := hsplit.filterMap (Function.update f id none)
    rwa [hcons] at hmap
  exact hfront.trans (hback.symm.cons b)

/-- A new object is one more live object. -/
theorem objects_make (h : SharedHeap α) (a : α) : (h.make a).objects = h.objects ++ [a] := by
  have hnew : (h.make a).alive h.next = some a := by
    simp [alive, make]
  have hold : (List.range h.next).filterMap (h.make a).alive = h.objects := by
    refine List.filterMap_congr fun id hid => ?_
    have hne : id ≠ h.next := Nat.ne_of_lt (List.mem_range.mp hid)
    simp [alive, make, hne]
  show (List.range (h.next + 1)).filterMap (h.make a).alive = _
  rw [List.range_succ, List.filterMap_append, hold, List.filterMap_cons_some hnew,
    List.filterMap_nil]

/-- A further owner makes no difference to what lives. -/
theorem objects_copy (howned : 0 < h.use_count id) : (h.copy id).objects = h.objects := by
  refine List.filterMap_congr fun other _ => ?_
  by_cases hsame : other = id
  · subst hsame
    have hpos : h.use_count other ≠ 0 := by omega
    simp [alive, copy, hpos]
  · simp [alive, copy, hsame]

/-- The last owner drops the object: it leaves the live ones. -/
theorem objects_reset_last (hwf : WellFormed h) {a : α} (hobject : h.object id = some a)
    (hlast : h.use_count id = 1) : h.objects.Perm (a :: (h.reset id).2.objects) := by
  have halive : h.alive id = some a := by
    rw [alive, if_neg (by omega), hobject]
  have hlt : id < h.next := hwf.lt_next (by omega)
  have hgone : (h.reset id).2.alive = Function.update h.alive id none := by
    funext other
    by_cases hsame : other = id
    · subst hsame
      simp [alive, reset, hlast]
    · simp [alive, reset, hsame]
  have hperm := filterMap_update_perm List.nodup_range (List.mem_range.mpr hlt) halive
  rwa [← hgone] at hperm

/-- Another owner drops it: nothing changes. -/
theorem objects_reset_shared (hshared : h.use_count id ≠ 1) :
    (h.reset id).2.objects = h.objects := by
  refine List.filterMap_congr fun other _ => ?_
  by_cases hsame : other = id
  · subst hsame
    by_cases hzero : h.use_count other = 0
    · simp [alive, reset, hzero]
    · have hmany : h.use_count other - 1 ≠ 0 := by omega
      simp [alive, reset, hzero, hmany]
  · simp [alive, reset, hsame]

end SharedHeap

end TeleopBridge.Support
