import Mathlib.Data.Finset.Card
import Mathlib.Order.Basic

/-!
# Ordered Maps

`std::map`: entries in the order of their keys, each key once.

## Key Results

- `mem_emplace`, `mem_erase`: which keys an operation leaves.
- `size_emplace`, `size_erase`: how many.
- `begin_le`: the first entry has the least key.
-/

namespace TeleopBridge.Support

structure SortedMap (κ ν : Type*) [LinearOrder κ] where
  entries : List (κ × ν) := []
  sorted : entries.Pairwise (fun a b => a.1 < b.1) := by exact List.Pairwise.nil

namespace SortedMap

variable {κ ν : Type*} [LinearOrder κ]

/-- `find`: the value under the key. -/
def find? (m : SortedMap κ ν) (k : κ) : Option ν :=
  (m.entries.find? fun entry => entry.1 = k).map Prod.snd

/-- `contains` -/
def contains (m : SortedMap κ ν) (k : κ) : Bool := m.entries.any fun entry => entry.1 = k

def size (m : SortedMap κ ν) : ℕ := m.entries.length

/-- `begin`: the first entry, unless the map is empty. -/
def begin? (m : SortedMap κ ν) : Option (κ × ν) := m.entries.head?

/-- `erase` -/
def erase (m : SortedMap κ ν) (k : κ) : SortedMap κ ν where
  entries := m.entries.filter fun entry => entry.1 ≠ k
  sorted := m.sorted.filter _

/-- The entries below a key, the new entry and the entries above it are in the order of the keys. -/
theorem sorted_emplace (m : SortedMap κ ν) (k : κ) (v : ν) :
    ((m.entries.filter fun entry => entry.1 < k) ++
      (k, v) :: m.entries.filter fun entry => k < entry.1).Pairwise (fun a b => a.1 < b.1) := by
  rw [List.pairwise_append, List.pairwise_cons]
  refine ⟨m.sorted.filter _, ⟨?_, m.sorted.filter _⟩, ?_⟩
  -- the new entry is below everything kept above it
  · intro entry hentry
    simpa using (List.mem_filter.mp hentry).2
  -- and everything kept below it is below both
  · intro a ha b hb
    have hlow : a.1 < k := by simpa using (List.mem_filter.mp ha).2
    rcases List.mem_cons.mp hb with rfl | hb
    · exact hlow
    · have hhigh : k < b.1 := by simpa using (List.mem_filter.mp hb).2
      exact hlow.trans hhigh

/-- `emplace`: a key that is there keeps its value. -/
def emplace (m : SortedMap κ ν) (k : κ) (v : ν) : SortedMap κ ν :=
  if m.contains k then m
  else
    { entries := (m.entries.filter fun entry => entry.1 < k) ++
        (k, v) :: m.entries.filter fun entry => k < entry.1
      sorted := m.sorted_emplace k v }

instance : Membership κ (SortedMap κ ν) := ⟨fun m k => ∃ v, (k, v) ∈ m.entries⟩

variable {m : SortedMap κ ν} {k j : κ} {v : ν}

theorem mem_def : k ∈ m ↔ ∃ v, (k, v) ∈ m.entries := Iff.rfl

theorem contains_iff : m.contains k = true ↔ k ∈ m := by
  simp [contains, mem_def]

/-- What a lookup finds is an entry of the map under the key asked for. -/
theorem find?_eq_some (h : m.find? k = some v) : (k, v) ∈ m.entries := by
  obtain ⟨entry, hfind, rfl⟩ := Option.map_eq_some_iff.mp h
  have hkey : entry.1 = k := by simpa using List.find?_some hfind
  rw [← hkey]
  exact List.mem_of_find?_eq_some hfind

/-- A lookup finds nothing exactly where the map has no entry under the key. -/
theorem find?_eq_none : m.find? k = none ↔ k ∉ m := by
  rw [find?, Option.map_eq_none_iff, List.find?_eq_none, mem_def]
  constructor
  · rintro h ⟨v, hv⟩
    exact h _ hv (by simp)
  · rintro h ⟨key, v⟩ hentry hkey
    obtain rfl : key = k := by simpa using hkey
    exact h ⟨v, hentry⟩

/-! ## The first entry -/

theorem begin_mem {entry : κ × ν} (h : m.begin? = some entry) : entry ∈ m.entries :=
  List.mem_of_mem_head? h

/-- `begin()` is the entry with the least key. -/
theorem begin_le {entry : κ × ν} (h : m.begin? = some entry) (hj : j ∈ m) : entry.1 ≤ j := by
  obtain ⟨v, hv⟩ := hj
  have hsorted := m.sorted
  unfold begin? at h
  cases hentries : m.entries with
  | nil =>
    rw [hentries] at h
    cases h
  | cons first rest =>
    rw [hentries] at h hv hsorted
    cases h
    -- a later entry has a larger key, as the entries are sorted
    rcases List.mem_cons.mp hv with heq | hrest
    · exact le_of_eq (congrArg Prod.fst heq).symm
    · exact ((List.pairwise_cons.mp hsorted).1 _ hrest).le

theorem begin_eq_none : m.begin? = none ↔ m.size = 0 := by
  rw [begin?, List.head?_eq_none_iff, size, List.length_eq_zero_iff]

/-! ## Keys and sizes -/

/-- The keys, as a set. -/
def keys (m : SortedMap κ ν) : Finset κ := (m.entries.map Prod.fst).toFinset

@[simp] theorem mem_keys : k ∈ m.keys ↔ k ∈ m := by
  simp [keys, mem_def]

/-- The keys of the map, as a set, are as many as its entries: no key stands twice. -/
theorem card_keys : m.keys.card = m.size := by
  have hnodup : (m.entries.map Prod.fst).Nodup := by
    rw [List.Nodup, List.pairwise_map]
    exact m.sorted.imp fun hless => hless.ne
  rw [keys, List.toFinset_card_of_nodup hnodup, List.length_map, size]

/-- A new key adds its entry and leaves every other entry as it is. -/
theorem mem_entries_emplace (hnew : k ∉ m) {entry : κ × ν} :
    entry ∈ (m.emplace k v).entries ↔ entry = (k, v) ∨ entry ∈ m.entries := by
  have hcontains : ¬ m.contains k = true := contains_iff.not.mpr hnew
  rw [emplace, if_neg hcontains]
  simp only [List.mem_append, List.mem_filter, List.mem_cons, decide_eq_true_eq]
  constructor
  · rintro (⟨h, -⟩ | h | ⟨h, -⟩)
    · exact .inr h
    · exact .inl h
    · exact .inr h
  · rintro (h | h)
    · exact .inr (.inl h)
    · -- an old entry stands on one side of the new key, since its own key is another one
      rcases lt_trichotomy entry.1 k with hless | heq | hgreater
      · exact .inl ⟨h, hless⟩
      · exact absurd ⟨entry.2, heq ▸ h⟩ hnew
      · exact .inr (.inr ⟨h, hgreater⟩)

theorem mem_emplace (hnew : k ∉ m) : j ∈ m.emplace k v ↔ j = k ∨ j ∈ m := by
  simp only [mem_def, mem_entries_emplace hnew, Prod.mk.injEq]
  constructor
  · rintro ⟨w, ⟨rfl, -⟩ | h⟩
    · exact .inl rfl
    · exact .inr ⟨w, h⟩
  · rintro (rfl | ⟨w, h⟩)
    · exact ⟨v, .inl ⟨rfl, rfl⟩⟩
    · exact ⟨w, .inr h⟩

theorem mem_entries_erase {entry : κ × ν} :
    entry ∈ (m.erase k).entries ↔ entry ∈ m.entries ∧ entry.1 ≠ k := by
  simp [erase]

/-- Erasing a key removes that key and no other. -/
theorem mem_erase : j ∈ m.erase k ↔ j ∈ m ∧ j ≠ k := by
  simp only [mem_def, mem_entries_erase]
  constructor
  · rintro ⟨w, h, hne⟩
    exact ⟨⟨w, h⟩, hne⟩
  · rintro ⟨⟨w, h⟩, hne⟩
    exact ⟨w, h, hne⟩

/-- A new key makes the map one entry larger. -/
theorem size_emplace (hnew : k ∉ m) : (m.emplace k v).size = m.size + 1 := by
  have hkeys : (m.emplace k v).keys = insert k m.keys := by
    ext j
    rw [mem_keys, mem_emplace hnew, Finset.mem_insert, mem_keys]
  rw [← card_keys, hkeys, Finset.card_insert_of_notMem (mem_keys.not.mpr hnew), card_keys]

/-- The least key, once this one is in the map. -/
def firstWith (m : SortedMap κ ν) (k : κ) : κ :=
  match m.begin? with
  | none => k
  | some first => if k < first.1 then k else first.1

/-- After a new key `begin()` is the new entry or the old first one, whichever key is less. -/
theorem begin_emplace (hnew : k ∉ m) :
    ∃ next, (m.emplace k v).begin? = some next ∧ next.1 = m.firstWith k := by
  obtain ⟨next, hnext⟩ : ∃ next, (m.emplace k v).begin? = some next := by
    refine Option.ne_none_iff_exists'.mp fun hnone => ?_
    have hsize := size_emplace (v := v) hnew
    rw [begin_eq_none.mp hnone] at hsize
    exact absurd hsize (Nat.succ_ne_zero _).symm
  have hk : next.1 ≤ k := begin_le hnext ((mem_emplace hnew).mpr (.inl rfl))
  refine ⟨next, hnext, ?_⟩
  -- the first entry afterwards is the new one, or the first one before
  unfold firstWith
  cases hfirst : m.begin? with
  | none =>
    rcases (mem_entries_emplace hnew).mp (begin_mem hnext) with heq | hold
    · exact congrArg Prod.fst heq
    · have hempty : m.entries = [] := List.length_eq_zero_iff.mp (begin_eq_none.mp hfirst)
      rw [hempty] at hold
      cases hold
  | some first =>
    have hmem : first.1 ∈ m := ⟨first.2, begin_mem hfirst⟩
    have hle : next.1 ≤ first.1 := begin_le hnext ((mem_emplace hnew).mpr (.inr hmem))
    simp only
    rcases (mem_entries_emplace hnew).mp (begin_mem hnext) with heq | hold
    · have hkey : next.1 = k := congrArg Prod.fst heq
      -- the new entry is first only where its key is below the old first one
      split
      · exact hkey
      · rename_i hnot
        exact le_antisymm hle (hkey ▸ not_lt.mp hnot)
    · have hge : first.1 ≤ next.1 := begin_le hfirst ⟨next.2, hold⟩
      rw [if_neg (not_lt.mpr (hge.trans hk))]
      exact le_antisymm hle hge

/-- Erasing a key of the map makes it one entry smaller. -/
theorem size_erase (hmem : k ∈ m) : (m.erase k).size + 1 = m.size := by
  have hkeys : (m.erase k).keys = m.keys.erase k := by
    ext j
    rw [mem_keys, mem_erase, Finset.mem_erase, mem_keys, and_comm]
  rw [← card_keys, hkeys, Finset.card_erase_add_one (mem_keys.mpr hmem), card_keys]

end SortedMap

end TeleopBridge.Support
