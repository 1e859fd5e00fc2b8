import Mathlib.Data.List.Infix
import Mathlib.Data.List.Basic

/-!
# Searching in a Text

A text is read by position: the search for a key from a position on, and a loop that skips
what satisfies a predicate. The lemmas follow the text that is still ahead of the position.

## Key Results

- `find_next`: the key that comes next is found, if what is before it does not spell it.
- `quoted_unspelled`: a quoted key cannot begin before its own opening quote.
- `skipWhile_of_drop`: what a skipping loop leaves.
-/

namespace TeleopBridge.Support

variable {α : Type*} {text key before rest : List α} {pos : ℕ}

theorem drop_of_drop {ahead : List α} (h : text.drop pos = before ++ ahead) :
    text.drop (pos + before.length) = ahead := by
  rw [← List.drop_drop, h, List.drop_left]

/-! ## Search -/

section

variable [DecidableEq α]

/-- The first position from `pos` on at which `key` stands. -/
def find (text key : List α) (pos : ℕ) : Option ℕ :=
  (List.range' pos (text.length + 1 - pos)).find? fun i => key.isPrefixOf (text.drop i)

theorem find_eq_some_iff {i : ℕ} :
    find text key pos = some i ↔
      pos ≤ i ∧ i ≤ text.length ∧ key <+: text.drop i ∧
        ∀ j, pos ≤ j → j < i → ¬ key <+: text.drop j := by
  unfold find
  rw [List.find?_range'_eq_some]
  simp only [List.isPrefixOf_iff_prefix, List.mem_range'_1, Bool.not_eq_true',
    ← Bool.not_eq_true]
  constructor
  · rintro ⟨hfound, ⟨hpos, hlen⟩, hfirst⟩
    exact ⟨hpos, by omega, hfound, hfirst⟩
  · rintro ⟨hpos, hlen, hfound, hfirst⟩
    exact ⟨hfound, ⟨hpos, by omega⟩, hfirst⟩

theorem find_eq_none_iff :
    find text key pos = none ↔ ∀ i, pos ≤ i → i ≤ text.length → ¬ key <+: text.drop i := by
  unfold find
  rw [List.find?_range'_eq_none]
  simp only [List.isPrefixOf_iff_prefix, Bool.not_eq_true', ← Bool.not_eq_true]
  constructor
  · exact fun hnone i hpos hlen => hnone i hpos (by omega)
  · exact fun hnone i hpos hlen => hnone i hpos (by omega)

/-- A search ends inside the text, behind the key. -/
theorem find_bounds {i : ℕ} (h : find text key pos = some i) :
    pos ≤ i ∧ i + key.length ≤ text.length := by
  obtain ⟨hpos, hlen, hfound, -⟩ := find_eq_some_iff.mp h
  have hshort := hfound.length_le
  rw [List.length_drop] at hshort
  exact ⟨hpos, by omega⟩

/-- The key that comes next is found, unless its own beginning and what comes before it spell
it already. -/
theorem find_next (hpos : pos ≤ text.length) (h : text.drop pos = before ++ (key ++ rest))
    (hunspelled : ¬ key <:+: before ++ key.dropLast) :
    find text key pos = some (pos + before.length) := by
  have hlength := congrArg List.length h
  simp only [List.length_drop, List.length_append] at hlength
  refine find_eq_some_iff.mpr ⟨Nat.le_add_right _ _, by omega, ?_, ?_⟩
  · rw [drop_of_drop h]
    exact List.prefix_append _ _
  · intro j hj hearly hfound
    obtain ⟨d, rfl⟩ := Nat.exists_eq_add_of_le hj
    have hd : d < before.length := by omega
    have hkey : key ≠ [] := by
      rintro rfl
      exact hunspelled (List.nil_infix)
    have hpositive := List.length_pos_iff.mpr hkey
    -- an earlier occurrence ends before the key that comes next does
    rw [← List.drop_drop, h] at hfound
    have hwhole : (before ++ key.dropLast).drop d <+: (before ++ (key ++ rest)).drop d := by
      refine List.IsPrefix.drop ?_ d
      rw [List.prefix_append_right_inj]
      exact (List.dropLast_prefix key).trans (List.prefix_append _ _)
    have hinside : key <+: (before ++ key.dropLast).drop d := by
      refine List.prefix_of_prefix_length_le hfound hwhole ?_
      simp only [List.length_drop, List.length_append, List.length_dropLast]
      omega
    exact hunspelled (hinside.isInfix.trans (List.drop_suffix d _).isInfix)

theorem find_absent (hunspelled : ¬ key <:+: text.drop pos) : find text key pos = none := by
  refine find_eq_none_iff.mpr fun i hpos _ hfound => hunspelled ?_
  obtain ⟨d, rfl⟩ := Nat.exists_eq_add_of_le hpos
  rw [← List.drop_drop] at hfound
  exact hfound.isInfix.trans (List.drop_suffix d _).isInfix

end

/-! ## Quoted keys -/

/-- A body between two quotes. -/
def quoted (quote : α) (body : List α) : List α := quote :: (body ++ [quote])

@[simp]
theorem length_quoted (quote : α) (body : List α) :
    (quoted quote body).length = body.length + 2 := by
  unfold quoted
  simp

theorem dropLast_quoted (quote : α) (body : List α) :
    (quoted quote body).dropLast = quote :: body := by
  unfold quoted
  rw [← List.cons_append, List.dropLast_concat]

/-- What does not spell a quoted key, and does not end with the key less its closing quote,
leaves the key to begin at its own opening quote. -/
theorem quoted_unspelled {quote : α} {body : List α} (hbody : quote ∉ body)
    (hbefore : ¬ quoted quote body <:+: before) (hend : ¬ quote :: body <:+ before) :
    ¬ quoted quote body <:+: before ++ (quoted quote body).dropLast := by
  rw [dropLast_quoted]
  rintro ⟨front, back, heq⟩
  have hsplit : (front ++ quote :: body) ++ (quote :: back) = before ++ quote :: body := by
    rw [← heq]
    unfold quoted
    simp
  rcases List.append_eq_append_iff.mp hsplit with ⟨extra, hfront, hextra⟩ | ⟨extra, hfront, hextra⟩
  · cases extra with
    | nil =>
      rw [List.append_nil] at hfront
      exact hend ⟨front, hfront.symm⟩
    | cons c extra =>
      obtain ⟨rfl, -⟩ := List.cons_eq_cons.mp hextra
      refine hbefore ⟨front, extra, ?_⟩
      rw [hfront]
      unfold quoted
      simp
  · cases extra with
    | nil =>
      rw [List.append_nil] at hfront
      exact hend ⟨front, hfront⟩
    | cons c extra =>
      obtain ⟨-, htail⟩ := List.cons_eq_cons.mp hextra
      exact hbody (htail ▸ List.mem_append_right extra List.mem_cons_self)

/-! ## Skipping -/

/-- The first position from `pos` on at which `skipped` does not hold. -/
def skipWhile (skipped : α → Bool) (text : List α) (pos : ℕ) : ℕ :=
  pos + ((text.drop pos).takeWhile skipped).length

theorem skipWhile_bounds (skipped : α → Bool) (hpos : pos ≤ text.length) :
    pos ≤ skipWhile skipped text pos ∧ skipWhile skipped text pos ≤ text.length := by
  have hshort := (@List.takeWhile_prefix α (text.drop pos) skipped).length_le
  rw [List.length_drop] at hshort
  unfold skipWhile
  omega

theorem skipWhile_of_drop {skipped : α → Bool} (h : text.drop pos = before ++ rest)
    (hall : ∀ c ∈ before, skipped c = true) (hstop : ∀ c ∈ rest.head?, skipped c = false) :
    skipWhile skipped text pos = pos + before.length ∧
      (text.drop pos).takeWhile skipped = before := by
  have htake : (text.drop pos).takeWhile skipped = before := by
    rw [h, List.takeWhile_append_of_pos hall]
    cases rest with
    | nil => simp
    | cons c rest =>
      rw [List.takeWhile_cons_of_neg (by simp [hstop c rfl]), List.append_nil]
  unfold skipWhile
  exact ⟨by rw [htake], htake⟩

end TeleopBridge.Support
