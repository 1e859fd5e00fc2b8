import Mathlib.Algebra.Order.Field.Basic
import Mathlib.Algebra.BigOperators.Group.List.Basic
import Mathlib.Tactic.Linarith
import Mathlib.Tactic.Ring

/-!
# Leaky Buckets

A bucket drains at a constant rate and never below empty; an arrival fills it by its
amount. A bucket that never holds more than `cap` bounds the arrivals of every window of
time by what drains in the window and `cap`.

## Key Result

`window_le`: the arrivals between `a` and `c` amount to at most `rate * (c - a) + cap`.
-/

namespace TeleopBridge.Support

variable {K : Type*} [Field K] [LinearOrder K]

/-- Something of size `amount` arrives at `time`. -/
structure Arrival (K : Type*) where
  time : K
  amount : K

/-- The level of a bucket at the time it was last looked at. -/
structure Bucket (K : Type*) where
  time : K
  level : K

namespace Bucket

/-- The bucket after an arrival: it has drained since it was last looked at. -/
def fill (rate : K) (b : Bucket K) (x : Arrival K) : Bucket K where
  time := x.time
  level := max 0 (b.level - rate * (x.time - b.time)) + x.amount

/-- The arrivals come one after the other, none before the bucket's own time. -/
def Ordered : Bucket K → List (Arrival K) → Prop
  | _, [] => True
  | b, x :: xs => b.time ≤ x.time ∧ Ordered ⟨x.time, 0⟩ xs

/-- The bucket never holds more than `cap`. -/
def Bounded (rate cap : K) : Bucket K → List (Arrival K) → Prop
  | b, [] => b.level ≤ cap
  | b, x :: xs => b.level ≤ cap ∧ Bounded rate cap (fill rate b x) xs

/-- What arrives between `a` and `c`. -/
def arrived (a c : K) (xs : List (Arrival K)) : K :=
  ((xs.filter fun x => decide (a ≤ x.time) && decide (x.time ≤ c)).map Arrival.amount).sum

/-! ## Basic facts -/

/-- Only the time of the bucket matters for the order. -/
theorem Ordered.of_time {b b' : Bucket K} {xs : List (Arrival K)} (h : b.Ordered xs)
    (htime : b'.time = b.time) : b'.Ordered xs := by
  cases xs with
  | nil => trivial
  | cons x xs => exact ⟨htime ▸ h.1, h.2⟩

theorem Bounded.head {rate cap : K} {b : Bucket K} {xs : List (Arrival K)}
    (h : b.Bounded rate cap xs) : b.level ≤ cap := by
  cases xs with
  | nil => exact h
  | cons x xs => exact h.1

theorem arrived_cons_in {a c : K} {x : Arrival K} (xs : List (Arrival K)) (ha : a ≤ x.time)
    (hc : x.time ≤ c) : arrived a c (x :: xs) = x.amount + arrived a c xs := by
  simp [arrived, ha, hc]

theorem arrived_cons_out {a c : K} {x : Arrival K} (xs : List (Arrival K))
    (h : ¬(a ≤ x.time ∧ x.time ≤ c)) : arrived a c (x :: xs) = arrived a c xs := by
  have hfilter : (decide (a ≤ x.time) && decide (x.time ≤ c)) = false := by
    simpa using h
  simp [arrived, hfilter]

/-- Nothing arrives in a window that has closed. -/
theorem arrived_of_lt {a c : K} {b : Bucket K} {xs : List (Arrival K)} (h : b.Ordered xs)
    (hlate : c < b.time) : arrived a c xs = 0 := by
  induction xs generalizing b with
  | nil => rfl
  | cons x xs ih =>
    have hx : c < x.time := lt_of_lt_of_le hlate h.1
    rw [arrived_cons_out xs fun hin => absurd hin.2 (not_le.mpr hx)]
    exact ih h.2 hx

/-! ## Windows -/

variable [IsStrictOrderedRing K]

/-- From a bucket inside the window, the rest of the window brings at most what drains
until its end and what room is left. -/
theorem arrived_le_room {rate cap a c : K} (hrate : 0 ≤ rate) {b : Bucket K}
    {xs : List (Arrival K)} (hordered : b.Ordered xs) (hbounded : b.Bounded rate cap xs)
    (ha : a ≤ b.time) (hc : b.time ≤ c) :
    arrived a c xs ≤ rate * (c - b.time) + cap - b.level := by
  induction xs generalizing b with
  | nil =>
    have hdrain : 0 ≤ rate * (c - b.time) := mul_nonneg hrate (sub_nonneg.mpr hc)
    have hroom := hbounded.head
    show (0 : K) ≤ _
    linarith
  | cons x xs ih =>
    have hnext : (fill rate b x).Ordered xs := Ordered.of_time hordered.2 rfl
    by_cases hin : x.time ≤ c
    · -- the arrival raises the level by its amount
      have hrest := ih hnext hbounded.2 (ha.trans hordered.1) hin
      have hlevel : b.level - rate * (x.time - b.time) + x.amount ≤ (fill rate b x).level :=
        add_le_add (le_max_right _ _) le_rfl
      have hsplit : rate * (c - b.time) = rate * (c - x.time) + rate * (x.time - b.time) := by
        ring
      have htime : (fill rate b x).time = x.time := rfl
      rw [htime] at hrest
      rw [arrived_cons_in xs (ha.trans hordered.1) hin]
      linarith
    · -- arrivals are ordered, so none is left in the window
      have hlate : c < x.time := not_le.mp hin
      have hdrain : 0 ≤ rate * (c - b.time) := mul_nonneg hrate (sub_nonneg.mpr hc)
      have hroom := hbounded.head
      rw [arrived_cons_out xs fun h => hin h.2, arrived_of_lt hnext hlate]
      linarith

/-- A bucket that never holds more than `cap` bounds the arrivals of every window. -/
theorem window_le {rate cap a c : K} (hrate : 0 ≤ rate) (hcap : 0 ≤ cap) (hac : a ≤ c)
    {b : Bucket K} {xs : List (Arrival K)} (hordered : b.Ordered xs)
    (hbounded : b.Bounded rate cap xs) : arrived a c xs ≤ rate * (c - a) + cap := by
  have hwindow : 0 ≤ rate * (c - a) := mul_nonneg hrate (sub_nonneg.mpr hac)
  induction xs generalizing b with
  | nil =>
    show (0 : K) ≤ _
    linarith
  | cons x xs ih =>
    have hnext : (fill rate b x).Ordered xs := Ordered.of_time hordered.2 rfl
    by_cases hin : a ≤ x.time ∧ x.time ≤ c
    · -- the first arrival of the window: the bucket holds at least its amount
      have hrest := arrived_le_room hrate hnext hbounded.2 hin.1 hin.2
      have hlevel : x.amount ≤ (fill rate b x).level := by
        have hempty : (0 : K) ≤ max 0 (b.level - rate * (x.time - b.time)) := le_max_left _ _
        show x.amount ≤ max 0 (b.level - rate * (x.time - b.time)) + x.amount
        linarith
      have hshorter : rate * (c - x.time) ≤ rate * (c - a) :=
        mul_le_mul_of_nonneg_left (by linarith [hin.1]) hrate
      have htime : (fill rate b x).time = x.time := rfl
      rw [htime] at hrest
      rw [arrived_cons_in xs hin.1 hin.2]
      linarith
    · rw [arrived_cons_out xs hin]
      exact ih hnext hbounded.2

end Bucket

end TeleopBridge.Support
