import Mathlib.Data.List.Basic
import Mathlib.Data.List.Nodup
import Mathlib.Data.Nat.Notation
import Mathlib.Logic.Function.Basic

/-!
# Tokens and Their Holders

Tokens are handed around between cells, each of which holds at most one. How often a token
is held is a sum over the cells, so handing it on is an equation between such sums.

## Key Results

- `heldBy_set`: what a cell gives up and what it takes.
- `index_eq_of_heldBy_le_one`: a token that is held once has one holder.
-/

namespace TeleopBridge.Support

variable {α β : Type*} [DecidableEq β]

/-- How often a cell with these contents holds the token. -/
def tokens (content : Option β) (b : β) : ℕ := if content = some b then 1 else 0

@[simp] theorem tokens_none (b : β) : tokens none b = 0 := rfl

@[simp] theorem tokens_some_self (b : β) : tokens (some b) b = 1 := if_pos rfl

theorem tokens_some_of_ne {a b : β} (hne : a ≠ b) : tokens (some a) b = 0 :=
  if_neg fun h => hne (Option.some_inj.mp h)

/-- How often the cells hold the token, where `f` reads a cell. -/
def heldBy (f : α → Option β) : List α → β → ℕ
  | [], _ => 0
  | cell :: cells, b => tokens (f cell) b + heldBy f cells b

variable {f : α → Option β} {cells : List α} {b : β} {k : ℕ} {cell : α}

@[simp] theorem heldBy_nil (f : α → Option β) (b : β) : heldBy f [] b = 0 := rfl

@[simp] theorem heldBy_cons (f : α → Option β) (cell : α) (cells : List α) (b : β) :
    heldBy f (cell :: cells) b = tokens (f cell) b + heldBy f cells b := rfl

@[simp] theorem heldBy_append (f : α → Option β) (cells more : List α) (b : β) :
    heldBy f (cells ++ more) b = heldBy f cells b + heldBy f more b := by
  induction cells with
  | nil => exact (Nat.zero_add _).symm
  | cons cell cells ih => rw [List.cons_append, heldBy_cons, heldBy_cons, ih, Nat.add_assoc]

theorem heldBy_concat (f : α → Option β) (cells : List α) (cell : α) (b : β) :
    heldBy f (cells ++ [cell]) b = heldBy f cells b + tokens (f cell) b := by
  simp

theorem heldBy_congr {g : α → Option β} (h : ∀ cell ∈ cells, f cell = g cell) :
    heldBy f cells b = heldBy g cells b := by
  induction cells with
  | nil => rfl
  | cons head rest ih =>
    rw [heldBy_cons, heldBy_cons, h head List.mem_cons_self,
      ih fun cell hcell => h cell (List.mem_cons_of_mem head hcell)]

/-- The order of the cells does not matter. -/
theorem heldBy_perm {more : List α} (h : cells.Perm more) : heldBy f cells b = heldBy f more b := by
  induction h with
  | nil => rfl
  | cons cell h ih => rw [heldBy_cons, heldBy_cons, ih]
  | swap cell other rest =>
    simp only [heldBy_cons]
    omega
  | trans h h' ih ih' => exact ih.trans ih'

/-- The numbers below `n` are held once each. -/
theorem heldBy_range (n i : ℕ) : heldBy some (List.range n) i = if i < n then 1 else 0 := by
  induction n with
  | zero => rfl
  | succ n ih =>
    rw [List.range_succ, heldBy_concat, ih]
    by_cases hi : n = i
    · subst hi
      rw [if_neg (Nat.lt_irrefl n), if_pos (Nat.lt_succ_self n), tokens_some_self]
    · rw [tokens_some_of_ne hi]
      split_ifs <;> omega

/-- A cell that is overwritten gives up its token and takes the new one. -/
theorem heldBy_set (f : α → Option β) (hcell : cells[k]? = some cell) (new : α) (b : β) :
    heldBy f (cells.set k new) b + tokens (f cell) b = heldBy f cells b + tokens (f new) b := by
  induction cells generalizing k with
  | nil => cases hcell
  | cons head rest ih =>
    cases k with
    | zero =>
      cases hcell
      rw [List.set_cons_zero, heldBy_cons, heldBy_cons]
      omega
    | succ k =>
      have hrest := ih (k := k) hcell
      rw [List.set_cons_succ, heldBy_cons, heldBy_cons]
      omega

/-- A cell that is overwritten in place gives up its token and takes the new one. -/
theorem heldBy_update [DecidableEq α] {cells : List α} {cell : α} (hcell : cell ∈ cells)
    (hnodup : cells.Nodup) (f : α → Option β) (content : Option β) (b : β) :
    heldBy (Function.update f cell content) cells b + tokens (f cell) b =
      heldBy f cells b + tokens content b := by
  induction cells with
  | nil => exact absurd hcell List.not_mem_nil
  | cons head rest ih =>
    rw [List.nodup_cons] at hnodup
    rw [heldBy_cons, heldBy_cons]
    by_cases hhead : cell = head
    · -- no other cell changes
      subst hhead
      have hrest : heldBy (Function.update f cell content) rest b = heldBy f rest b :=
        heldBy_congr fun other hother =>
          Function.update_of_ne (ne_of_mem_of_not_mem hother hnodup.1) _ _
      rw [Function.update_self, hrest]
      omega
    · have hrest := ih ((List.mem_cons.mp hcell).resolve_left hhead) hnodup.2
      rw [Function.update_of_ne (Ne.symm hhead)]
      omega

theorem tokens_le_heldBy (f : α → Option β) (hcell : cells[k]? = some cell) (b : β) :
    tokens (f cell) b ≤ heldBy f cells b := by
  induction cells generalizing k with
  | nil => cases hcell
  | cons head rest ih =>
    rw [heldBy_cons]
    cases k with
    | zero =>
      cases hcell
      omega
    | succ k =>
      have hrest := ih (k := k) hcell
      omega

theorem heldBy_pos (hmem : cell ∈ cells) (hholds : f cell = some b) : 0 < heldBy f cells b := by
  obtain ⟨k, hcell⟩ := List.getElem?_of_mem hmem
  have hle := tokens_le_heldBy f hcell b
  rw [hholds, tokens_some_self] at hle
  exact hle

theorem exists_holder (h : 0 < heldBy f cells b) : ∃ cell ∈ cells, f cell = some b := by
  induction cells with
  | nil => exact absurd h (Nat.lt_irrefl 0)
  | cons head rest ih =>
    by_cases hhead : f head = some b
    · exact ⟨head, List.mem_cons_self, hhead⟩
    · rw [heldBy_cons, tokens, if_neg hhead, Nat.zero_add] at h
      obtain ⟨cell, hcell, hholds⟩ := ih h
      exact ⟨cell, List.mem_cons_of_mem head hcell, hholds⟩

/-- A token that is held at most once has at most one holder. -/
theorem index_eq_of_heldBy_le_one (hone : heldBy f cells b ≤ 1) {j : ℕ} {other : α}
    (hcell : cells[k]? = some cell) (hother : cells[j]? = some other)
    (hholds : f cell = some b) (hholds' : f other = some b) : k = j := by
  induction cells generalizing k j with
  | nil => cases hcell
  | cons head rest ih =>
    rw [heldBy_cons] at hone
    cases k with
    | zero =>
      cases hcell
      cases j with
      | zero => rfl
      | succ j =>
        -- the head holds it, so nothing behind it does
        have hpos := heldBy_pos (List.mem_of_getElem? (i := j) hother) hholds'
        rw [hholds, tokens_some_self] at hone
        omega
    | succ k =>
      cases j with
      | zero =>
        cases hother
        have hpos := heldBy_pos (List.mem_of_getElem? (i := k) hcell) hholds
        rw [hholds', tokens_some_self] at hone
        omega
      | succ j => rw [ih (by omega) (k := k) (j := j) hcell hother]

/-- Tokens that differ are held once each. -/
theorem heldBy_some_le_one {held : List β} (hnodup : held.Nodup) (b : β) :
    heldBy some held b ≤ 1 := by
  induction held with
  | nil => exact Nat.zero_le 1
  | cons head rest ih =>
    rw [List.nodup_cons] at hnodup
    rw [heldBy_cons]
    by_cases hhead : head = b
    · -- nothing behind the head is the same token
      have hnone : heldBy some rest b = 0 := by
        refine Nat.eq_zero_of_not_pos fun hpos => ?_
        obtain ⟨other, hother, heq⟩ := exists_holder hpos
        cases heq
        exact hnodup.1 (hhead ▸ hother)
      rw [hhead, hnone]
      exact Nat.le_of_eq (tokens_some_self b)
    · rw [tokens_some_of_ne hhead, Nat.zero_add]
      exact ih hnodup.2

/-- The tokens of the cells differ if each is held at most once. -/
theorem nodup_of_heldBy_le_one {tokenOf : α → β}
    (hone : ∀ b, heldBy (fun cell => some (tokenOf cell)) cells b ≤ 1) :
    (cells.map tokenOf).Nodup := by
  induction cells with
  | nil => exact List.nodup_nil
  | cons head rest ih =>
    rw [List.map_cons, List.nodup_cons]
    constructor
    · intro hmem
      obtain ⟨cell, hcell, heq⟩ := List.mem_map.mp hmem
      have hhead := hone (tokenOf head)
      have hpos : 0 < heldBy (fun cell => some (tokenOf cell)) rest (tokenOf head) :=
        heldBy_pos hcell (congrArg some heq)
      rw [heldBy_cons, tokens_some_self] at hhead
      omega
    · refine ih fun b => ?_
      have hb := hone b
      rw [heldBy_cons] at hb
      omega

end TeleopBridge.Support
