import Mathlib.Data.Finset.Basic
import Mathlib.Logic.Function.Basic

/-!
# Registries

A set of keys that is kept beside the holders of these keys: a key is in the set exactly while
somebody holds it, and nobody else holds it.

## Key Results

- `Registry.acquire`, `Registry.release`: what registering and removing a key keeps.
- `Registry.notMem_of_sub`: a key that is held, but not in a registry of some of the holders, is
  free there.
- `Owns.acquire`, `Owns.release`: the same for a mutex.
-/

namespace TeleopBridge.Support

variable {ι κ : Type*}

/-- The set `keys` has the keys that are held, each by one holder. -/
structure Registry (keys : Finset κ) (key : ι → Option κ) : Prop where
  mem_iff : ∀ a, a ∈ keys ↔ ∃ t, key t = some a
  unique : ∀ t u a, key t = some a → key u = some a → t = u

namespace Registry

variable {keys keys' : Finset κ} {key key' : ι → Option κ} {t : ι} {a : κ}

theorem empty : Registry (∅ : Finset κ) fun _ : ι => none :=
  ⟨fun a => ⟨fun h => absurd h (Finset.notMem_empty a), fun ⟨_, h⟩ => by cases h⟩,
    fun _ _ _ h => by cases h⟩

theorem mem (h : Registry keys key) (ht : key t = some a) : a ∈ keys :=
  (h.mem_iff a).mpr ⟨t, ht⟩

variable [DecidableEq ι]

/-- A step of a holder that keeps its key. -/
theorem keep (h : Registry keys key) {x : Option κ} (ht : key t = x) :
    Registry keys (Function.update key t x) := by
  rwa [← ht, Function.update_eq_self]

theorem acquire [DecidableEq κ] (h : Registry keys key) (ht : key t = none) (ha : a ∉ keys) :
    Registry (insert a keys) (Function.update key t (some a)) := by
  have hother {u : ι} {b : κ} (hu : key u = some b) : u ≠ t := by
    rintro rfl
    cases ht.symm.trans hu
  constructor
  · intro b
    rw [Finset.mem_insert, h.mem_iff]
    constructor
    · rintro (rfl | ⟨u, hu⟩)
      · exact ⟨t, Function.update_self t _ _⟩
      · exact ⟨u, by rwa [Function.update_of_ne (hother hu)]⟩
    · rintro ⟨u, hu⟩
      by_cases hut : u = t
      · rw [hut, Function.update_self] at hu
        exact .inl (Option.some.inj hu).symm
      · exact .inr ⟨u, by rwa [Function.update_of_ne hut] at hu⟩
  · -- two holders of one key: neither is new, or both are
    intro u v b hu hv
    by_cases hut : u = t <;> by_cases hvt : v = t
    · rw [hut, hvt]
    · rw [hut, Function.update_self] at hu
      rw [Function.update_of_ne hvt] at hv
      exact absurd (h.mem (Option.some.inj hu ▸ hv)) ha
    · rw [hvt, Function.update_self] at hv
      rw [Function.update_of_ne hut] at hu
      exact absurd (h.mem (Option.some.inj hv ▸ hu)) ha
    · rw [Function.update_of_ne hut] at hu
      rw [Function.update_of_ne hvt] at hv
      exact h.unique u v b hu hv

theorem release [DecidableEq κ] (h : Registry keys key) (ht : key t = some a) :
    Registry (keys.erase a) (Function.update key t none) := by
  have hother {u : ι} {b : κ} (hu : Function.update key t none u = some b) :
      u ≠ t ∧ key u = some b := by
    by_cases hut : u = t
    · rw [hut, Function.update_self] at hu
      cases hu
    · rw [Function.update_of_ne hut] at hu
      exact ⟨hut, hu⟩
  constructor
  · intro b
    rw [Finset.mem_erase, h.mem_iff]
    constructor
    · rintro ⟨hb, u, hu⟩
      refine ⟨u, ?_⟩
      have hut : u ≠ t := by
        rintro rfl
        exact hb (Option.some.inj (hu.symm.trans ht))
      rwa [Function.update_of_ne hut]
    · rintro ⟨u, hu⟩
      obtain ⟨hut, hkey⟩ := hother hu
      refine ⟨?_, u, hkey⟩
      rintro rfl
      exact hut (h.unique u t b hkey ht)
  · intro u v b hu hv
    exact h.unique u v b (hother hu).2 (hother hv).2

omit [DecidableEq ι] in
/-- A registry of some of the holders. -/
theorem notMem_of_sub (h : Registry keys key) (h' : Registry keys' key')
    (hsub : ∀ u b, key' u = some b → key u = some b) (ht : key t = some a)
    (hnone : key' t = none) : a ∉ keys' := by
  intro hmem
  obtain ⟨u, hu⟩ := (h'.mem_iff a).mp hmem
  have hut := h.unique u t a (hsub u a hu) ht
  rw [hut, hnone] at hu
  cases hu

end Registry

/-! ## A mutex -/

/-- The owner of a mutex is the one holder. -/
def Owns (owner : Option ι) (holds : ι → Bool) : Prop := ∀ t, holds t = true ↔ owner = some t

namespace Owns

variable {owner : Option ι} {holds : ι → Bool} {t u : ι}

theorem unique (h : Owns owner holds) (ht : holds t = true) (hu : holds u = true) : t = u :=
  Option.some.inj (((h t).mp ht).symm.trans ((h u).mp hu))

variable [DecidableEq ι]

theorem keep (h : Owns owner holds) {b : Bool} (ht : holds t = b) :
    Owns owner (Function.update holds t b) := by
  rwa [← ht, Function.update_eq_self]

theorem acquire (h : Owns none holds) : Owns (some t) (Function.update holds t true) := by
  intro u
  by_cases hut : u = t
  · rw [hut, Function.update_self]
    exact ⟨fun _ => rfl, fun _ => rfl⟩
  · rw [Function.update_of_ne hut]
    refine ⟨fun hu => ?_, fun hu => absurd (Option.some.inj hu).symm hut⟩
    cases (h u).mp hu

theorem release (h : Owns owner holds) (ht : holds t = true) :
    Owns none (Function.update holds t false) := by
  intro u
  refine ⟨fun hu => ?_, fun hu => by cases hu⟩
  by_cases hut : u = t
  · rw [hut, Function.update_self] at hu
    cases hu
  · rw [Function.update_of_ne hut] at hu
    exact absurd (h.unique hu ht) hut

end Owns

end TeleopBridge.Support
