import TeleopBridge.Support.TextSearch
import TeleopBridge.Udp.FecV2

/-!
# The Text of the FEC Table

Embeds `src/udp/fec_v2.cpp`: `parseIntAfterColon` and `loadTableFromJsonText`. The loader is no
JSON parser: it searches the raw text for three keys in turn.

A text is the list of its `char`s, those of a multi-byte character each on its own. `long value`
is not bounded, since the source leaves its overflow undefined.

## Key Results

- `loadTableFromJsonText_text`: of a JSON text with the keys in order the loader takes the plans.
- `table_loads_faithfully`: the entries of the table are those of the last plan for each `n`.
-/

namespace TeleopBridge.Udp.FecV2

open Support

/-! ## Loader -/

/-- `text[index] >= '0' && text[index] <= '9'` -/
def isDigit (c : Char) : Bool := '0' ≤ c && c ≤ '9'

/-- `text[index] == ' ' || … == '\t' || … == '\r' || … == '\n'` -/
def isSpace (c : Char) : Bool := c = ' ' || c = '\t' || c = '\r' || c = '\n'

/-- The loop `value = value * 10 + (text[index] - '0')`. -/
def digitsValue (digits : List Char) : ℕ :=
  digits.foldl (fun value c => value * 10 + (c.toNat - '0'.toNat)) 0

/-- `parseIntAfterColon`: `out` and the new `pos`, or none where it returns false. -/
def parseIntAfterColon (text : List Char) (pos : ℕ) : Option (ℤ × ℕ) :=
  match find text [':'] pos with
  | none => none
  | some colon =>
    let index := skipWhile isSpace text (colon + 1)
    let negative : Bool := text[index]? = some '-'
    let index := if negative then index + 1 else index
    if text[index]?.any isDigit then
      let value : ℤ := digitsValue ((text.drop index).takeWhile isDigit)
      some ((Int32.ofInt (if negative then -value else value)).toInt,
        skipWhile isDigit text index)
    else none

/-- `"n"`, `"groupCount"` and `"parityCount"` -/
def nKey : List Char := quoted '"' ['n']
def groupKey : List Char := quoted '"' "groupCount".toList
def parityKey : List Char := quoted '"' "parityCount".toList

/-- A key and the integer behind it. -/
def parseMember (text key : List Char) (pos : ℕ) : Option (ℤ × ℕ) :=
  match find text key pos with
  | none => none
  | some found => parseIntAfterColon text (found + key.length)

/-- One round of the loop of `loadTableFromJsonText`: the plan and the new `pos`, or none where
the loop is left. -/
def parsePlan (text : List Char) (pos : ℕ) : Option (Plan × ℕ) := do
  let (n, pos) ← parseMember text nKey pos
  let (group_count, pos) ← parseMember text groupKey pos
  let (parity_count, pos) ← parseMember text parityKey pos
  return (⟨n, group_count, parity_count⟩, pos)

/-- What is parsed moves the position on, inside the text. -/
theorem parseIntAfterColon_lt {text : List Char} {pos pos' : ℕ} {value : ℤ}
    (h : parseIntAfterColon text pos = some (value, pos')) :
    pos < pos' ∧ pos' ≤ text.length := by
  unfold parseIntAfterColon at h
  cases hcolon : find text [':'] pos with
  | none =>
    rw [hcolon] at h
    cases h
  | some colon =>
    rw [hcolon] at h
    simp only at h
    obtain ⟨hpos, hend⟩ := find_bounds hcolon
    obtain ⟨hspace, -⟩ := skipWhile_bounds isSpace hend
    rw [List.length_singleton] at hend hspace
    generalize skipWhile isSpace text (colon + 1) = index at h hspace
    rw [Option.ite_none_right_eq_some] at h
    obtain ⟨hdigit, hresult⟩ := h
    cases hresult
    -- the digit that is looked at is in the text
    obtain ⟨c, hat, -⟩ := (Option.any_eq_true _ _).mp hdigit
    obtain ⟨hinside, -⟩ := List.getElem?_eq_some_iff.mp hat
    have hsign :
        index ≤ if (decide (text[index]? = some '-')) = true then index + 1 else index := by
      split <;> omega
    obtain ⟨hdigits, hle⟩ := skipWhile_bounds isDigit hinside.le
    exact ⟨by omega, hle⟩

/-- Whatever the loop takes, it moves the position on. -/
theorem parseMember_lt {text key : List Char} {pos pos' : ℕ} {value : ℤ}
    (h : parseMember text key pos = some (value, pos')) : pos < pos' ∧ pos' ≤ text.length := by
  unfold parseMember at h
  cases hfound : find text key pos with
  | none =>
    rw [hfound] at h
    cases h
  | some found =>
    rw [hfound] at h
    obtain ⟨hpos, -⟩ := find_bounds hfound
    obtain ⟨hlt, hle⟩ := parseIntAfterColon_lt h
    exact ⟨by omega, hle⟩

/-- A plan is parsed exactly when its three members are, one behind the other. -/
theorem parsePlan_eq_some {text : List Char} {pos pos' : ℕ} {plan : Plan} :
    parsePlan text pos = some (plan, pos') ↔
      ∃ first second, parseMember text nKey pos = some (plan.n, first) ∧
        parseMember text groupKey first = some (plan.groupCount, second) ∧
        parseMember text parityKey second = some (plan.parityCount, pos') := by
  unfold parsePlan
  simp only [Option.bind_eq_bind, Option.bind_eq_some_iff, Option.pure_def]
  constructor
  · rintro ⟨⟨n, first⟩, hn, ⟨group_count, second⟩, hgroup, ⟨parity_count, third⟩, hparity, heq⟩
    cases heq
    exact ⟨first, second, hn, hgroup, hparity⟩
  · rintro ⟨first, second, hn, hgroup, hparity⟩
    exact ⟨_, hn, _, hgroup, _, hparity, rfl⟩

/-- A parsed plan takes up text, and stays inside it. -/
theorem parsePlan_lt {text : List Char} {pos pos' : ℕ} {plan : Plan}
    (h : parsePlan text pos = some (plan, pos')) : pos < pos' ∧ pos' ≤ text.length := by
  obtain ⟨first, second, hn, hgroup, hparity⟩ := parsePlan_eq_some.mp h
  have hfirst := (parseMember_lt hn).1
  have hsecond := (parseMember_lt hgroup).1
  obtain ⟨hthird, hle⟩ := parseMember_lt hparity
  exact ⟨by omega, hle⟩

/-- The loop of `loadTableFromJsonText`: `out` and `parsed` when it is left. It ends, since
every round moves the position on inside the text. -/
def loadLoop (text : List Char) (pos : ℕ) (out : V2FecTable) (parsed : ℕ) : V2FecTable × ℕ :=
  match h : parsePlan text pos with
  | none => (out, parsed)
  | some (plan, pos') => loadLoop text pos' (out.setPlan plan) (parsed + 1)
termination_by text.length - pos
decreasing_by
  obtain ⟨hlt, hle⟩ := parsePlan_lt h
  omega

/-- `loadTableFromJsonText` -/
def loadTableFromJsonText (text : List Char) (out : V2FecTable) : Bool × V2FecTable :=
  let out := { out with groups_by_n := fun _ => 0, r_by_n := fun _ => 0 }
  let (out, parsed) := loadLoop text 0 out 0
  if parsed ≤ 0 then (false, out) else (true, out)

/-! ## JSON text -/

/-- A character of a JSON string, as it is written. -/
inductive StringChar where
  | plain (c : Char) (h : c ≠ '"' ∧ c ≠ '\\')
  | escape (c : Char)

def StringChar.text : StringChar → List Char
  | .plain c _ => [c]
  | .escape c => ['\\', c]

/-- A token of JSON, the spaces between them included. The mark is that of the byte order, with
which the text may begin. -/
inductive JsonToken where
  | mark
  | space (c : Char) (h : isSpace c = true)
  | punctuation (c : Char) (h : c ∈ ['{', '}', '[', ']', ',', ':'])
  | word (letters : List Char) (h : letters ∈ ["true".toList, "false".toList, "null".toList])
  | number (chars : List Char) (h : ∀ c ∈ chars, c ∈ "+-.0123456789Ee".toList)
  | string (body : List StringChar)

def JsonToken.text : JsonToken → List Char
  | .mark => [Char.ofNat 0xEF, Char.ofNat 0xBB, Char.ofNat 0xBF]
  | .space c _ => [c]
  | .punctuation c _ => [c]
  | .word letters _ => letters
  | .number chars _ => chars
  | .string body => quoted '"' (body.flatMap StringChar.text)

/-- What may stand in front of a key: tokens that do not spell the key, apart from a number that
comes before them. -/
structure Filler (key : List Char) where
  tokens : List JsonToken
  unspelled : ¬ key <:+: tokens.flatMap JsonToken.text
  apart : ∀ c ∈ (tokens.flatMap JsonToken.text).head?, isDigit c = false

def Filler.text {key : List Char} (filler : Filler key) : List Char :=
  filler.tokens.flatMap JsonToken.text

/-- JSON whitespace. -/
def Spaces : Type := { spaces : List Char // ∀ c ∈ spaces, isSpace c = true }

/-- A key with an integer, and what is in front of it. -/
structure Member (key : List Char) where
  front : Filler key
  beforeColon : Spaces
  afterColon : Spaces
  value : ℕ
  bound : value < 2 ^ 31

def Member.text {key : List Char} (member : Member key) : List Char :=
  member.front.text ++ (key ++ (member.beforeColon.val ++
    ([':'] ++ (member.afterColon.val ++ Nat.toDigits 10 member.value))))

/-- The text of one plan, with what is in front of it. -/
structure PlanText where
  n : Member nKey
  groupCount : Member groupKey
  parityCount : Member parityKey

namespace PlanText

def text (entry : PlanText) : List Char :=
  entry.n.text ++ (entry.groupCount.text ++ entry.parityCount.text)

def plan (entry : PlanText) : Plan :=
  ⟨entry.n.value, entry.groupCount.value, entry.parityCount.value⟩

end PlanText

/-- A JSON text with at least one plan. -/
structure TableText where
  entries : List PlanText
  nonempty : entries ≠ []
  rest : Filler nKey

namespace TableText

def text (table : TableText) : List Char :=
  table.entries.flatMap PlanText.text ++ table.rest.text

def plans (table : TableText) : List Plan := table.entries.map PlanText.plan

end TableText

/-- A comma in front of a key. -/
def comma (key : List Char) (h : ¬ key <:+: [',']) : Filler key where
  tokens := [.punctuation ',' (by decide)]
  unspelled := h
  apart := by
    intro c hc
    rw [← Option.mem_some_iff.mp hc]
    rfl

def compactMember (key : List Char) (h : ¬ key <:+: [',']) (value : ℕ) (bound : value < 2 ^ 31) :
    Member key :=
  ⟨comma key h, ⟨[], nofun⟩, ⟨[], nofun⟩, value, bound⟩

/-- All plans of non-negative numbers below `2 ^ 31` can be written so. -/
theorem TableText.exists_of_plans {plans : List Plan} (hplans : plans ≠ [])
    (hbounds : ∀ plan ∈ plans, ∀ value ∈ [plan.n, plan.groupCount, plan.parityCount],
      0 ≤ value ∧ value < 2 ^ 31) :
    ∃ table : TableText, table.plans = plans := by
  -- the compact text of a plan: its members and nothing between
  have hentry : ∀ plan ∈ plans, ∃ entry : PlanText, entry.plan = plan := by
    rintro ⟨n, groupCount, parityCount⟩ hplan
    have hvalues := hbounds _ hplan
    simp only [List.mem_cons, List.not_mem_nil, or_false, forall_eq_or_imp, forall_eq] at hvalues
    obtain ⟨⟨hn, hnlt⟩, ⟨hgroup, hgrouplt⟩, hparity, hparitylt⟩ := hvalues
    refine ⟨⟨compactMember nKey (by decide) n.toNat (by omega),
      compactMember groupKey (by decide) groupCount.toNat (by omega),
      compactMember parityKey (by decide) parityCount.toNat (by omega)⟩, ?_⟩
    unfold PlanText.plan compactMember
    simp only [Int.toNat_of_nonneg hn, Int.toNat_of_nonneg hgroup, Int.toNat_of_nonneg hparity]
  have hentries : ∃ entries : List PlanText, entries.map PlanText.plan = plans := by
    clear hplans hbounds
    -- and the entries one by one
    induction plans with
    | nil => exact ⟨[], rfl⟩
    | cons plan plans ih =>
      obtain ⟨entry, hfirst⟩ := hentry plan List.mem_cons_self
      obtain ⟨entries, hrest⟩ := ih fun plan hplan => hentry plan (List.mem_cons_of_mem _ hplan)
      exact ⟨entry :: entries, by rw [List.map_cons, hfirst, hrest]⟩
  obtain ⟨entries, rfl⟩ := hentries
  exact ⟨⟨entries, fun hnil => hplans (by rw [hnil]; rfl), comma nKey (by decide)⟩, rfl⟩

/-! ## Keys -/

/-- A quoted key whose last letter ends no token. -/
def PlanKey (key : List Char) : Prop :=
  ∃ letters last, key = quoted '"' (letters ++ [last]) ∧ '"' ∉ letters ++ [last] ∧
    (last = 'n' ∨ last = 't')

theorem planKey_n : PlanKey nKey := ⟨[], 'n', rfl, by decide, .inl rfl⟩

theorem planKey_group : PlanKey groupKey :=
  ⟨"groupCoun".toList, 't', by decide, by decide, .inr rfl⟩

theorem planKey_parity : PlanKey parityKey :=
  ⟨"parityCoun".toList, 't', by decide, by decide, .inr rfl⟩

/-- No JSON token ends in one of the letters in front of a key's closing quote. -/
theorem JsonToken.last_ne (token : JsonToken) {last : Char} (hlast : last = 'n' ∨ last = 't') :
    token.text.getLast? ≠ some last := by
  intro h
  -- a word ends in another letter, a string in its quote
  cases token with
  | mark => rcases hlast with rfl | rfl <;> revert h <;> decide
  | space c hspace =>
    cases h
    rcases hlast with rfl | rfl <;> revert hspace <;> decide
  | punctuation c hmem =>
    cases h
    rcases hlast with rfl | rfl <;> revert hmem <;> decide
  | word letters hmem =>
    change letters.getLast? = some last at h
    simp only [List.mem_cons, List.not_mem_nil, or_false] at hmem
    rcases hmem with rfl | rfl | rfl <;> rcases hlast with rfl | rfl <;> revert h <;> decide
  | number chars hall =>
    have hmem := hall last (List.mem_of_getLast? h)
    rcases hlast with rfl | rfl <;> revert hmem <;> decide
  | string body =>
    have hquote : (JsonToken.string body).text.getLast? = some '"' := by
      change (quoted '"' (body.flatMap StringChar.text)).getLast? = _
      unfold quoted
      rw [← List.cons_append, List.getLast?_concat]
    rw [hquote] at h
    cases h
    rcases hlast with hlast | hlast <;> revert hlast <;> decide

/-- Nor does a row of tokens. -/
theorem tokens_last_ne (tokens : List JsonToken) {last : Char} (hlast : last = 'n' ∨ last = 't') :
    (tokens.flatMap JsonToken.text).getLast? ≠ some last := by
  induction tokens with
  | nil => nofun
  | cons token tokens ih =>
    rw [List.flatMap_cons, List.getLast?_append]
    intro h
    rcases Option.or_eq_some_iff.mp h with hrest | ⟨-, hfirst⟩
    · exact ih hrest
    · exact token.last_ne hlast hfirst

/-- A key is found where it stands, not before. -/
theorem Filler.unspelled_key {key : List Char} (filler : Filler key) (hkey : PlanKey key) :
    ¬ key <:+: filler.text ++ key.dropLast := by
  obtain ⟨letters, last, rfl, hletters, hlast⟩ := hkey
  refine quoted_unspelled hletters filler.unspelled ?_
  rintro ⟨front, heq⟩
  have hend : filler.text.getLast? = some last := by
    rw [← heq, ← List.cons_append, ← List.append_assoc, List.getLast?_concat]
  exact tokens_last_ne filler.tokens hlast hend

/-! ## What the loader takes -/

/-- The digits of a number read back as the number. -/
theorem digitsValue_toDigits (n : ℕ) : digitsValue (Nat.toDigits 10 n) = n := by
  have hvalue := @Nat.ofDigitChars_ten_toDigits n
  rw [Nat.ofDigitChars_eq_foldl] at hvalue
  unfold digitsValue
  simp only [Nat.mul_comm _ 10]
  exact hvalue

theorem isDigit_toDigits {n : ℕ} {c : Char} (h : c ∈ Nat.toDigits 10 n) : isDigit c = true :=
  Nat.isDigit_of_mem_toDigits (by decide) (by decide) h

/-- A digit is neither a space nor a sign. -/
theorem isDigit_cases {c : Char} (h : isDigit c = true) : isSpace c = false ∧ c ≠ '-' := by
  constructor
  · unfold isSpace
    simp only [Bool.or_eq_false_iff, decide_eq_false_iff_not]
    refine ⟨⟨⟨?_, ?_⟩, ?_⟩, ?_⟩ <;> (rintro rfl; revert h; decide)
  · rintro rfl
    revert h
    decide

variable {text rest : List Char} {pos : ℕ}

/-- The integer behind the colon that comes next. -/
theorem parseIntAfterColon_next {before after : Spaces} {value : ℕ} (hbound : value < 2 ^ 31)
    (hpos : pos ≤ text.length)
    (h : text.drop pos = before.val ++ ([':'] ++ (after.val ++ (Nat.toDigits 10 value ++ rest))))
    (hrest : ∀ c ∈ rest.head?, isDigit c = false) :
    parseIntAfterColon text pos = some ((value : ℤ), pos + (before.val.length + (1 +
      (after.val.length + (Nat.toDigits 10 value).length)))) := by
  have hcolon : find text [':'] pos = some (pos + before.val.length) := by
    refine find_next hpos h ?_
    rintro ⟨front, back, heq⟩
    have hmem : ':' ∈ before.val ++ [':'].dropLast := by
      rw [← heq]
      simp
    have hspace := before.property ':' (by simpa using hmem)
    revert hspace
    decide
  have hafter : text.drop (pos + before.val.length + [':'].length) =
      after.val ++ (Nat.toDigits 10 value ++ rest) := drop_of_drop (drop_of_drop h)
  have hdigits := drop_of_drop hafter
  obtain ⟨digit, digits, hvalue⟩ := List.exists_cons_of_ne_nil (@Nat.toDigits_ne_nil value 10)
  have hfirst : isDigit digit = true := isDigit_toDigits (hvalue ▸ List.mem_cons_self)
  obtain ⟨hnospace, hnosign⟩ := isDigit_cases hfirst
  obtain ⟨hskip, -⟩ := skipWhile_of_drop hafter after.property (by
    rw [hvalue]
    rintro c hc
    cases hc
    exact hnospace)
  obtain ⟨hend, htaken⟩ := skipWhile_of_drop hdigits (fun c hc => isDigit_toDigits hc) hrest
  -- the first digit stands where the spaces end
  have hat : text[pos + before.val.length + [':'].length + after.val.length]? = some digit := by
    rw [← List.head?_drop, hdigits, hvalue]
    rfl
  unfold parseIntAfterColon
  rw [hcolon]
  simp only
  rw [List.length_singleton] at hskip hat hend htaken
  rw [hskip, hat, decide_eq_false (by simpa using hnosign)]
  simp only [Bool.false_eq_true, if_false]
  rw [hat, htaken, hend, digitsValue_toDigits, Int32.toInt_ofInt_of_le (by omega) (by omega),
    if_pos (by simpa using hfirst)]
  congr 2
  omega

/-- The parser reads the member that comes next, whatever stands before its key. -/
theorem parseMember_next {key : List Char} (hkey : PlanKey key) (member : Member key)
    (hpos : pos ≤ text.length) (h : text.drop pos = member.text ++ rest)
    (hrest : ∀ c ∈ rest.head?, isDigit c = false) :
    parseMember text key pos = some ((member.value : ℤ), pos + member.text.length) := by
  have hsplit : text.drop pos = member.front.text ++ (key ++ (member.beforeColon.val ++
      ([':'] ++ (member.afterColon.val ++ (Nat.toDigits 10 member.value ++ rest))))) := by
    rw [h]
    unfold Member.text
    simp only [List.append_assoc]
  -- the first occurrence of the key is the member's own
  have hfound := find_next hpos hsplit (member.front.unspelled_key hkey)
  obtain ⟨-, hend⟩ := find_bounds hfound
  have hint := parseIntAfterColon_next member.bound hend (drop_of_drop (drop_of_drop hsplit)) hrest
  unfold parseMember
  rw [hfound]
  simp only
  rw [hint]
  unfold Member.text
  simp only [List.length_append, List.length_singleton]
  congr 2
  omega

/-- A member does not begin with a digit. -/
theorem Member.apart {key : List Char} (hkey : PlanKey key) (member : Member key) :
    ∀ c ∈ (member.text ++ rest).head?, isDigit c = false := by
  obtain ⟨letters, last, rfl, -, -⟩ := hkey
  intro c hc
  unfold Member.text quoted at hc
  simp only [List.append_assoc, List.cons_append, List.head?_append, List.head?_cons] at hc
  rcases Option.or_eq_some_iff.mp hc with hfront | ⟨-, hquote⟩
  · exact member.front.apart c hfront
  · cases hquote
    decide

/-- The parser reads the plan that comes next. -/
theorem parsePlan_next (entry : PlanText) (hpos : pos ≤ text.length)
    (h : text.drop pos = entry.text ++ rest) (hrest : ∀ c ∈ rest.head?, isDigit c = false) :
    parsePlan text pos = some (entry.plan, pos + entry.text.length) := by
  unfold PlanText.text at h ⊢
  simp only [List.append_assoc] at h
  -- three members, each found behind the one before
  have hn := parseMember_next planKey_n entry.n hpos h (entry.groupCount.apart planKey_group)
  have hgroup := parseMember_next planKey_group entry.groupCount (parseMember_lt hn).2
    (drop_of_drop h) (entry.parityCount.apart planKey_parity)
  have hparity := parseMember_next planKey_parity entry.parityCount (parseMember_lt hgroup).2
    (drop_of_drop (drop_of_drop h)) hrest
  refine parsePlan_eq_some.mpr ⟨_, _, hn, hgroup, ?_⟩
  rw [hparity, List.length_append, List.length_append, ← Nat.add_assoc, ← Nat.add_assoc]
  rfl

/-- Behind the last plan the parser finds no other. -/
theorem parsePlan_rest (trailing : Filler nKey) (h : text.drop pos = trailing.text) :
    parsePlan text pos = none := by
  have habsent : find text nKey pos = none := find_absent (h ▸ trailing.unspelled)
  unfold parsePlan parseMember
  rw [habsent]
  rfl

/-- The loop ends where no plan is found. -/
theorem loadLoop_none {out : V2FecTable} {parsed : ℕ} (h : parsePlan text pos = none) :
    loadLoop text pos out parsed = (out, parsed) := by
  rw [loadLoop]
  split
  · rfl
  · next hsome => exact absurd (h.symm.trans hsome) nofun

/-- The loop stores a plan and goes on behind it. -/
theorem loadLoop_some {out : V2FecTable} {parsed pos' : ℕ} {plan : Plan}
    (h : parsePlan text pos = some (plan, pos')) :
    loadLoop text pos out parsed = loadLoop text pos' (out.setPlan plan) (parsed + 1) := by
  rw [loadLoop]
  split
  · next hnone => exact absurd (h.symm.trans hnone) nofun
  · next hsome =>
    cases h.symm.trans hsome
    rfl

/-- The loop takes the plans that are ahead one by one. -/
theorem loadLoop_entries (trailing : Filler nKey) (entries : List PlanText) (out : V2FecTable)
    (parsed : ℕ) (hpos : pos ≤ text.length)
    (h : text.drop pos = entries.flatMap PlanText.text ++ trailing.text) :
    loadLoop text pos out parsed =
      ((entries.map PlanText.plan).foldl V2FecTable.setPlan out, parsed + entries.length) := by
  induction entries generalizing pos out parsed with
  | nil => exact loadLoop_none (parsePlan_rest trailing h)
  | cons entry entries ih =>
    rw [List.flatMap_cons, List.append_assoc] at h
    -- what follows a number is no digit: the next entry, or the rest of the text
    have hapart : ∀ c ∈ (entries.flatMap PlanText.text ++ trailing.text).head?,
        isDigit c = false := by
      cases entries with
      | nil => exact trailing.apart
      | cons next entries =>
        rw [List.flatMap_cons]
        unfold PlanText.text
        simp only [List.append_assoc]
        exact next.n.apart planKey_n
    have hplan := parsePlan_next entry hpos h hapart
    rw [loadLoop_some hplan, ih _ _ (parsePlan_lt hplan).2 (drop_of_drop h), List.length_cons]
    simp only [List.map_cons, List.foldl_cons]
    congr 1
    omega

/-- `loaded` is no concern of the plans. -/
theorem foldl_setPlan_loaded (plans : List Plan) (out : V2FecTable) (loaded : Bool) :
    plans.foldl V2FecTable.setPlan { out with loaded := loaded } =
      { plans.foldl V2FecTable.setPlan out with loaded := loaded } := by
  induction plans generalizing out with
  | nil => rfl
  | cons plan plans ih =>
    have hset : V2FecTable.setPlan { out with loaded := loaded } plan =
        { out.setPlan plan with loaded := loaded } := by
      unfold V2FecTable.setPlan
      split <;> rfl
    rw [List.foldl_cons, hset, ih, List.foldl_cons]

/-- The table has the plans of the text, in their order. -/
theorem loadTableFromJsonText_text (table : TableText) (out : V2FecTable) :
    loadTableFromJsonText table.text out =
      (true, { V2FecTable.ofPlans table.plans with loaded := out.loaded }) := by
  have hloop := loadLoop_entries table.rest table.entries
    { out with groups_by_n := fun _ => 0, r_by_n := fun _ => 0 } 0 (Nat.zero_le table.text.length)
    rfl
  have hparsed := List.length_pos_iff.mpr table.nonempty
  unfold loadTableFromJsonText
  simp only
  rw [hloop]
  simp only
  -- at least one plan was parsed, so the table counts as loaded
  rw [if_neg (by omega)]
  exact congrArg (Prod.mk true) (foldl_setPlan_loaded table.plans
    { groups_by_n := fun _ => 0, r_by_n := fun _ => 0, loaded := false } out.loaded)

/-! ## Entries -/

/-- The last plan that names `n`. -/
def lastPlan (plans : List Plan) (n : ℕ) : Option Plan := plans.reverse.find? fun plan => plan.n = n

/-- What the table should hold of a count at `n`. -/
def expected (plans : List Plan) (n : ℕ) (count : Plan → ℤ) : ℤ :=
  match lastPlan plans n with
  | some plan => if 0 < plan.parityCount then min 255 (count plan) else 0
  | none => 0

/-- A count that is not negative is cut at 255. -/
theorem clampByte_toNat {value : ℤ} (h : 0 ≤ value) :
    ((clampByte value).toNat : ℤ) = min 255 value := by
  unfold clampByte
  rw [UInt8.toNat_ofNat']
  omega

/-- What one plan does to one entry of the two arrays. -/
theorem setPlan_entry (out : V2FecTable) (plan : Plan) {n : ℕ} (hn : n < 256) :
    (out.setPlan plan).groups_by_n n =
        (if plan.n = n then if plan.parityCount > 0 then clampByte plan.groupCount else 0
          else out.groups_by_n n) ∧
      (out.setPlan plan).r_by_n n =
        (if plan.n = n then if plan.parityCount > 0 then clampByte plan.parityCount else 0
          else out.r_by_n n) := by
  unfold V2FecTable.setPlan
  by_cases hnamed : plan.n = n
  · rw [if_pos (by omega), if_pos hnamed, if_pos hnamed, hnamed]
    simp
  · rw [if_neg hnamed, if_neg hnamed]
    split
    · -- a plan outside the table is skipped, another one stored elsewhere
      have hother : n ≠ plan.n.toNat := by omega
      exact ⟨Function.update_of_ne hother _ _, Function.update_of_ne hother _ _⟩
    · exact ⟨rfl, rfl⟩

/-- The last plan for `n` decides on an entry that begins at 0. -/
theorem foldl_setPlan_entry (get : V2FecTable → UInt8) (count : Plan → ℤ) {n : ℕ}
    (hset : ∀ out plan, get (V2FecTable.setPlan out plan) =
      if plan.n = n then if plan.parityCount > 0 then clampByte (count plan) else 0 else get out)
    {out : V2FecTable} (hzero : get out = 0) (plans : List Plan)
    (hnonneg : ∀ plan ∈ plans, 0 ≤ count plan) :
    ((get (plans.foldl V2FecTable.setPlan out)).toNat : ℤ) = expected plans n count := by
  -- the last plan that names the size decides
  induction plans using List.reverseRecOn with
  | nil =>
    rw [List.foldl_nil, hzero]
    rfl
  | append_singleton plans plan ih =>
    rw [List.foldl_append, List.foldl_cons, List.foldl_nil, hset]
    unfold expected lastPlan
    rw [List.reverse_append, List.reverse_singleton, List.singleton_append, List.find?_cons]
    by_cases hnamed : plan.n = n
    · rw [if_pos hnamed, decide_eq_true hnamed]
      simp only
      by_cases hparity : 0 < plan.parityCount
      · rw [if_pos hparity, if_pos hparity]
        exact clampByte_toNat (hnonneg plan (by simp))
      · rw [if_neg hparity, if_neg hparity]
        rfl
    · rw [if_neg hnamed, decide_eq_false hnamed]
      exact ih fun plan hplan => hnonneg plan (List.mem_append_left _ hplan)

/-- A plan for 256 fragments or more changes nothing. -/
theorem foldl_setPlan_filter (plans : List Plan) (out : V2FecTable) :
    (plans.filter fun plan => plan.n < 256).foldl V2FecTable.setPlan out =
      plans.foldl V2FecTable.setPlan out := by
  rw [List.foldl_filter]
  congr 1
  funext out plan
  by_cases hn : plan.n < 256
  · rw [if_pos (by simpa using hn)]
  · rw [if_neg (by simpa using hn)]
    unfold V2FecTable.setPlan
    rw [if_neg (by omega)]

/-- The loader ends on every text. On a JSON text with the keys in order it succeeds, and
each entry is that of the last plan for `n`, up to 255, if this plan has parity, and 0 if it has
none or there is no such plan. Plans for 256 fragments or more have no effect. -/
theorem table_loads_faithfully (table : TableText) (out : V2FecTable) :
    ∃ loaded, loadTableFromJsonText table.text out = (true, loaded) ∧
      (∀ n < 256,
        ((loaded.groups_by_n n).toNat : ℤ) = expected table.plans n Plan.groupCount ∧
          ((loaded.r_by_n n).toNat : ℤ) = expected table.plans n Plan.parityCount) ∧
      ∀ other : TableText, (other.plans.filter fun plan => plan.n < 256) =
          (table.plans.filter fun plan => plan.n < 256) →
        loadTableFromJsonText other.text out = (true, loaded) := by
  have hnonneg : ∀ plan ∈ table.plans, 0 ≤ plan.groupCount ∧ 0 ≤ plan.parityCount := by
    intro plan hplan
    obtain ⟨entry, -, rfl⟩ := List.mem_map.mp hplan
    exact ⟨Int.natCast_nonneg _, Int.natCast_nonneg _⟩
  refine ⟨_, loadTableFromJsonText_text table out, fun n hn => ⟨?_, ?_⟩, ?_⟩
  · exact foldl_setPlan_entry (fun table => table.groups_by_n n) Plan.groupCount
      (fun out plan => (setPlan_entry out plan hn).1) rfl table.plans
      fun plan hplan => (hnonneg plan hplan).1
  · exact foldl_setPlan_entry (fun table => table.r_by_n n) Plan.parityCount
      (fun out plan => (setPlan_entry out plan hn).2) rfl table.plans
      fun plan hplan => (hnonneg plan hplan).2
  -- plans outside the table make no difference
  · intro other hsame
    rw [loadTableFromJsonText_text]
    unfold V2FecTable.ofPlans
    rw [← foldl_setPlan_filter other.plans, hsame, foldl_setPlan_filter]

end TeleopBridge.Udp.FecV2
