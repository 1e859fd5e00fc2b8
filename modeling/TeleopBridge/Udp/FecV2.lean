import TeleopBridge.Udp.Gf256Field

/-!
# Video FEC Encoder

Embeds `src/udp/fec_v2.cpp`: the plan table (`V2FecTable`, `getParams`), the
coefficient blocks (`getCoef`, `prepareGroupCoefficients`) and the parity fill
(`buildParityInto`, `buildParity`).

A frame is the list of its bytes, so `size` is its length. A parity buffer is
`none` where the source has a null pointer. The cache of `getCoef` only memoises a
pure function and is left out.

## Key Result

`getD_buildParityInto`: every byte of a parity payload is the GF(256) sum of the
group's zero-padded source bytes, weighted by `inv(column ^ (0x80 + row))`.
-/

namespace TeleopBridge.Udp.FecV2

open Gf256 Support

/-! ## Plan table -/

/-- `V2FecTable`, less `source_path`, which only the log prints. The two arrays have
256 entries; `getParams` reads no other index. -/
structure V2FecTable where
  groups_by_n : ℕ → UInt8
  r_by_n : ℕ → UInt8
  loaded : Bool

/-- One entry of `plans`, as `loadTableFromJsonText` parses it. -/
structure Plan where
  n : ℤ
  groupCount : ℤ
  parityCount : ℤ
deriving DecidableEq

/-- `static_cast<uint8_t>(std::clamp(value, 0, 255))` -/
def clampByte (value : ℤ) : UInt8 := UInt8.ofNat (min (max value 0) 255).toNat

/-- The effect of one parsed plan on the table. -/
def V2FecTable.setPlan (out : V2FecTable) (plan : Plan) : V2FecTable :=
  if 0 ≤ plan.n ∧ plan.n < 256 then
    { out with
      groups_by_n := Function.update out.groups_by_n plan.n.toNat
        (if plan.parityCount > 0 then clampByte plan.groupCount else 0)
      r_by_n := Function.update out.r_by_n plan.n.toNat
        (if plan.parityCount > 0 then clampByte plan.parityCount else 0) }
  else out

/-- `loadTableFromJsonText` after the text has been cut into plans. -/
def V2FecTable.ofPlans (plans : List Plan) : V2FecTable :=
  { plans.foldl V2FecTable.setPlan
      { groups_by_n := fun _ => 0, r_by_n := fun _ => 0, loaded := false } with
    loaded := !plans.isEmpty }

/-- Consecutive `n` that share one plan. -/
def planRun (first last : ℕ) (groupCount parityCount : ℤ) : List Plan :=
  (List.range' first (last + 1 - first)).map fun n => ⟨n, groupCount, parityCount⟩

/-- The `plans` of `config/UDP_VIDEO_FEC_TABLE_V1(1).json`. -/
def shippedPlans : List Plan :=
  planRun 0 7 1 0 ++ planRun 8 9 1 2 ++ planRun 10 13 1 3 ++ planRun 14 17 1 4 ++
  planRun 18 21 1 5 ++ planRun 22 25 1 6 ++ planRun 26 29 1 7 ++ planRun 30 32 1 8 ++
  planRun 33 34 2 4 ++ planRun 35 41 2 5 ++ planRun 42 49 2 6 ++ planRun 50 57 2 7 ++
  planRun 58 64 2 8 ++ planRun 65 75 3 6 ++ planRun 76 87 3 7 ++ planRun 88 96 3 8 ++
  planRun 97 104 4 6 ++ planRun 105 116 4 7 ++ planRun 117 128 4 8 ++ planRun 129 140 5 7 ++
  planRun 141 160 5 8 ++ planRun 161 168 6 7 ++ planRun 169 192 6 8 ++ planRun 193 196 7 7 ++
  planRun 197 224 7 8 ++ planRun 225 228 8 7 ++ planRun 229 255 8 8

/-- The table a bridge started with the shipped file uses. -/
def shippedTable : V2FecTable := V2FecTable.ofPlans shippedPlans

/-- `FecV2::getParams`: the result, `groups` and `r_per_group`. -/
def getParams (fec_table : V2FecTable) (table_id : UInt8) (total_fragments : UInt16) :
    Bool × UInt8 × UInt8 :=
  if table_id = 0 ∨ table_id ≠ 1 ∨ total_fragments ≥ 256 then (false, 0, 0)
  else if !fec_table.loaded then (false, 0, 0)
  else
    let groups := fec_table.groups_by_n total_fragments.toNat
    let r_per_group := fec_table.r_by_n total_fragments.toNat
    (groups > 0 && r_per_group > 0, groups, r_per_group)

/-! ## Coefficients -/

/-- `gf256::inv(column ^ (0x80 + row))`, in byte arithmetic. -/
def coefficient (row column : ℕ) : UInt8 :=
  inv (UInt8.ofNat column ^^^ (0x80 + UInt8.ofNat row))

/-- `getCoef`: an `r × k` block, row-major. -/
def getCoef (k r : UInt8) : List UInt8 :=
  modifyRowMajor r.toNat k.toNat (fun row column _ => coefficient row column)
    (List.replicate (k.toNat * r.toNat) 0)

/-- The number of `index = group; index < total_fragments; index += groups`, in a byte. -/
def countGroup (total_fragments : UInt16) (groups : UInt8) (group : ℕ) : UInt8 :=
  forStride group total_fragments.toNat groups.toNat (fun _ k_group => k_group + 1) 0

/-- `prepareGroupCoefficients`: `k_by_group` and `coef_by_group`. -/
def prepareGroupCoefficients (total_fragments : UInt16) (groups r_per_group : UInt8) :
    List UInt8 × List (Option (List UInt8)) :=
  let k_by_group := (List.range groups.toNat).map (countGroup total_fragments groups)
  (k_by_group, k_by_group.map fun k_group =>
    if k_group > 0 then some (getCoef k_group r_per_group) else none)

/-! ## Parity -/

/-- One source fragment added to the payload: `chunk_size` bytes from `offset`. -/
def addFragment (data : List UInt8) (symbol_bytes : ℕ) (coef : UInt8) (offset : ℕ)
    (parity_payload : List UInt8) : List UInt8 :=
  let size := data.length
  let chunk_size := if offset < size then min symbol_bytes (size - offset) else 0
  if chunk_size > 0 then mulAdd coef (data.drop offset) parity_payload chunk_size
  else parity_payload

/-- The loop over a group's source fragments: `local_index` and the payload so far. -/
def accumulateGroup (data : List UInt8) (total_fragments : UInt16) (groups : UInt8)
    (symbol_bytes group : ℕ) (coef_row : ℕ → UInt8) (parity_payload : List UInt8) :
    UInt8 × List UInt8 :=
  forStride group total_fragments.toNat groups.toNat
    (fun source_index (s : UInt8 × List UInt8) =>
      (s.1 + 1,
        addFragment data symbol_bytes (coef_row s.1.toNat) (source_index * symbol_bytes) s.2))
    (0, parity_payload)

/-- The body of the two loops of `buildParityInto`, on a non-null payload. -/
def fillParity (data : List UInt8) (total_fragments : UInt16) (groups : UInt8)
    (symbol_bytes : ℕ) (k_by_group : List UInt8) (coef_by_group : List (Option (List UInt8)))
    (parity group : ℕ) (parity_payload : List UInt8) : List UInt8 :=
  let parity_payload := modifyRange 0 symbol_bytes (fun _ _ => 0) parity_payload
  let k_group := k_by_group.getD group 0
  match coef_by_group.getD group none with
  | none => parity_payload
  | some coef =>
      if k_group = 0 then parity_payload
      else
        (accumulateGroup data total_fragments groups symbol_bytes group
          (fun local_index => coef.getD (parity * k_group.toNat + local_index) 0)
          parity_payload).2

/-- `FecV2::buildParityInto`: the buffers after the call. -/
def buildParityInto (data : List UInt8) (total_fragments : UInt16) (groups r_per_group : UInt8)
    (symbol_bytes : ℕ) (out_payloads : List (Option (List UInt8))) :
    List (Option (List UInt8)) :=
  if data.length = 0 ∨ groups = 0 ∨ r_per_group = 0 ∨ symbol_bytes = 0 then out_payloads
  else if out_payloads.length < groups.toNat * r_per_group.toNat then out_payloads
  else
    let (k_by_group, coef_by_group) := prepareGroupCoefficients total_fragments groups r_per_group
    modifyRowMajor r_per_group.toNat groups.toNat
      (fun parity group payload => payload.map
        (fillParity data total_fragments groups symbol_bytes k_by_group coef_by_group parity group))
      out_payloads

/-- `FecV2::buildParity` -/
def buildParity (data : List UInt8) (total_fragments : UInt16) (groups r_per_group : UInt8)
    (symbol_bytes : ℕ) : List (List UInt8) :=
  if data.length = 0 ∨ groups = 0 ∨ r_per_group = 0 ∨ symbol_bytes = 0 then []
  else
    let parity_count := groups.toNat * r_per_group.toNat
    (buildParityInto data total_fragments groups r_per_group symbol_bytes
      (List.replicate parity_count (some (List.replicate symbol_bytes 0)))).map (·.getD [])

/-! ## What the loops compute -/

theorem strideCount_lt_of_lt (group : ℕ) {total groups : ℕ} (hgroups : 0 < groups)
    (htotal : total < 256) :
    strideCount group total groups < 256 := by
  have h : ¬ 255 < strideCount group total groups := by
    rw [lt_strideCount_iff hgroups]
    have : 255 ≤ 255 * groups := Nat.le_mul_of_pos_right 255 hgroups
    omega
  omega

/-- The 8-bit counter of a loop with `n` rounds. -/
theorem foldl_count (n : ℕ) :
    (List.range n).foldl (fun (k_group : UInt8) _ => k_group + 1) 0 = UInt8.ofNat n := by
  induction n with
  | zero => rfl
  | succ n ih =>
    rw [List.range_succ, List.foldl_append, ih]
    simp

theorem countGroup_eq {total_fragments : UInt16} {groups : UInt8} (hgroups : 0 < groups.toNat)
    (group : ℕ) :
    countGroup total_fragments groups group =
      UInt8.ofNat (strideCount group total_fragments.toNat groups.toNat) := by
  rw [countGroup, forStride_eq_foldl hgroups, foldl_count]

/-- No counter wraps below 256 fragments. -/
theorem countGroup_toNat {total_fragments : UInt16} {groups : UInt8} (hgroups : 0 < groups.toNat)
    (htotal : total_fragments.toNat < 256) (group : ℕ) :
    (countGroup total_fragments groups group).toNat =
      strideCount group total_fragments.toNat groups.toNat := by
  rw [countGroup_eq hgroups, UInt8.toNat_ofNat', Nat.mod_eq_of_lt]
  exact strideCount_lt_of_lt group hgroups htotal

theorem getD_getCoef {k r : UInt8} {row column : ℕ} (hrow : row < r.toNat)
    (hcolumn : column < k.toNat) :
    (getCoef k r).getD (row * k.toNat + column) 0 = coefficient row column := by
  have hindex : row * k.toNat + column < k.toNat * r.toNat := by
    calc row * k.toNat + column < (row + 1) * k.toNat := by rw [Nat.add_mul]; omega
      _ ≤ r.toNat * k.toNat := Nat.mul_le_mul_right _ hrow
      _ = k.toNat * r.toNat := Nat.mul_comm _ _
  rw [getCoef, List.getD_eq_getElem?_getD, getElem?_modifyRowMajor hrow hcolumn,
    List.getElem?_replicate_of_lt hindex]
  rfl

@[simp] theorem length_addFragment (data : List UInt8) (symbol_bytes : ℕ) (coef : UInt8)
    (offset : ℕ) (parity_payload : List UInt8) :
    (addFragment data symbol_bytes coef offset parity_payload).length = parity_payload.length := by
  simp only [addFragment]
  split_ifs <;> simp

/-- The short last fragment behaves as if it were padded with zeros. -/
theorem addFragment_byte {data parity_payload : List UInt8} {symbol_bytes j : ℕ} (coef : UInt8)
    (offset : ℕ) (hj : j < symbol_bytes) (hlen : symbol_bytes ≤ parity_payload.length) :
    (⟨(addFragment data symbol_bytes coef offset parity_payload).getD j 0⟩ : GaloisByte) =
      ⟨parity_payload.getD j 0⟩ + ⟨coef⟩ * ⟨data.getD (offset + j) 0⟩ := by
  simp only [addFragment]
  by_cases hin : offset + j < data.length
  · rw [if_pos (by omega : offset < data.length), if_pos (by omega),
      mulAdd_byte (by omega) (by omega)]
    simp [List.getD_eq_getElem?_getD]
  · -- behind the end of the data a fragment counts as zeros
    have hpast : data.getD (offset + j) 0 = 0 := by simp [List.getD_eq_getElem?_getD, hin]
    have hzero : (⟨coef⟩ : GaloisByte) * ⟨data.getD (offset + j) 0⟩ = 0 := by
      rw [hpast]
      exact mul_zero _
    rw [hzero, add_zero]
    congr 1
    split_ifs with hoffset hchunk
    · exact mulAdd_byte_of_le (by omega)
    · rfl
    · exact mulAdd_byte_of_le (Nat.zero_le j)
    · rfl

theorem length_accumulateGroup (data : List UInt8) (total_fragments : UInt16) (groups : UInt8)
    (symbol_bytes group : ℕ) (coef_row : ℕ → UInt8) (parity_payload : List UInt8)
    (hgroups : 0 < groups.toNat) :
    ((accumulateGroup data total_fragments groups symbol_bytes group coef_row
      parity_payload).2).length = parity_payload.length := by
  rw [accumulateGroup, forStride_eq_foldl hgroups]
  -- for any number of fragments of the group
  generalize strideCount group total_fragments.toNat groups.toNat = n
  induction n with
  | zero => rfl
  | succ n ih =>
    simp only [List.range_succ, List.foldl_append, List.foldl_cons, List.foldl_nil,
      length_addFragment]
    exact ih

/-- The state after `m` fragments of a group: the local index counts them, the payload keeps
its length, and a byte has gained the weighted sum of the first `m` source bytes. -/
theorem foldl_addFragment_byte {data parity_payload : List UInt8} {symbol_bytes j : ℕ}
    (group groups : ℕ) (coef_row : ℕ → UInt8) (hj : j < symbol_bytes)
    (hlen : symbol_bytes ≤ parity_payload.length) (m : ℕ) (hm : m < 256) :
    let s := (List.range m).foldl (fun (s : UInt8 × List UInt8) p => (s.1 + 1,
      addFragment data symbol_bytes (coef_row s.1.toNat)
        ((group + p * groups) * symbol_bytes) s.2)) (0, parity_payload)
    s.1 = UInt8.ofNat m ∧ s.2.length = parity_payload.length ∧
      (⟨s.2.getD j 0⟩ : GaloisByte) = ⟨parity_payload.getD j 0⟩ + ∑ p ∈ Finset.range m,
        ⟨coef_row p⟩ * ⟨data.getD ((group + p * groups) * symbol_bytes + j) 0⟩ := by
  induction m with
  | zero => exact ⟨rfl, rfl, by simp⟩
  | succ m ih =>
    obtain ⟨hindex, hlength, hbyte⟩ := ih (by omega)
    -- the 8-bit local index is the loop counter: a group has fewer than 256 members
    have hlocal : (UInt8.ofNat m).toNat = m := by
      rw [UInt8.toNat_ofNat']
      omega
    simp only [List.range_succ, List.foldl_append, List.foldl_cons, List.foldl_nil]
    refine ⟨?_, ?_, ?_⟩
    · rw [hindex]
      simp
    · rw [length_addFragment, hlength]
    · rw [addFragment_byte _ _ hj (by omega), hbyte, hindex, hlocal, Finset.sum_range_succ,
        add_assoc]

/-- After the loop over a group, a payload byte has gained the weighted sum of the
group's source bytes. -/
theorem accumulateGroup_byte {data parity_payload : List UInt8} {total_fragments : UInt16}
    {groups : UInt8} {symbol_bytes j : ℕ} (group : ℕ) (coef_row : ℕ → UInt8)
    (hgroups : 0 < groups.toNat) (htotal : total_fragments.toNat < 256)
    (hj : j < symbol_bytes) (hlen : symbol_bytes ≤ parity_payload.length) :
    (⟨((accumulateGroup data total_fragments groups symbol_bytes group coef_row
        parity_payload).2).getD j 0⟩ : GaloisByte) =
      ⟨parity_payload.getD j 0⟩ +
        ∑ p ∈ Finset.range (strideCount group total_fragments.toNat groups.toNat),
          ⟨coef_row p⟩ * ⟨data.getD ((group + p * groups.toNat) * symbol_bytes + j) 0⟩ := by
  have hbound := strideCount_lt_of_lt group hgroups htotal
  rw [accumulateGroup, forStride_eq_foldl hgroups]
  exact (foldl_addFragment_byte group groups.toNat coef_row hj hlen _ (by omega)).2.2

/-! ## The parity formula -/

/-- A zero-filled payload byte receives the group's weighted sum. -/
theorem fillParity_byte {data parity_payload : List UInt8} {total_fragments : UInt16}
    {groups r_per_group : UInt8} {symbol_bytes parity group j : ℕ}
    (htotal : total_fragments.toNat < 256) (hparity : parity < r_per_group.toNat)
    (hgroup : group < groups.toNat) (hj : j < symbol_bytes)
    (hlen : symbol_bytes ≤ parity_payload.length) :
    (⟨(fillParity data total_fragments groups symbol_bytes
        (prepareGroupCoefficients total_fragments groups r_per_group).1
        (prepareGroupCoefficients total_fragments groups r_per_group).2
        parity group parity_payload).getD j 0⟩ : GaloisByte) =
      ∑ p ∈ Finset.range (strideCount group total_fragments.toNat groups.toNat),
        ⟨coefficient parity p⟩ *
          ⟨data.getD ((group + p * groups.toNat) * symbol_bytes + j) 0⟩ := by
  have hgroups : 0 < groups.toNat := by omega
  have hcount := countGroup_toNat hgroups htotal group
  have hk : (prepareGroupCoefficients total_fragments groups r_per_group).1.getD group 0 =
      countGroup total_fragments groups group := by
    simp [prepareGroupCoefficients, List.getD_eq_getElem?_getD, hgroup]
  have hcoef : (prepareGroupCoefficients total_fragments groups r_per_group).2.getD group none =
      if countGroup total_fragments groups group > 0 then
        some (getCoef (countGroup total_fragments groups group) r_per_group) else none := by
    simp [prepareGroupCoefficients, List.getD_eq_getElem?_getD, hgroup]
  have hfill :
      (modifyRange 0 symbol_bytes (fun _ _ => (0 : UInt8)) parity_payload).getD j 0 = 0 := by
    rw [List.getD_eq_getElem?_getD, getElem?_modifyRange, if_pos ⟨Nat.zero_le j, by omega⟩,
      List.getElem?_eq_getElem (by omega)]
    rfl
  simp only [fillParity, hk, hcoef]
  -- a group without fragments has no coefficients, and its parity stays zero
  by_cases hzero : countGroup total_fragments groups group = 0
  · have hempty : strideCount group total_fragments.toNat groups.toNat = 0 := by
      rw [← hcount, hzero]
      rfl
    rw [if_neg (by rw [hzero]; decide), hempty]
    simp only [Finset.range_zero, Finset.sum_empty]
    exact GaloisByte.ext hfill
  · have hpos : countGroup total_fragments groups group > 0 := UInt8.pos_iff_ne_zero.mpr hzero
    rw [if_pos hpos]
    simp only [if_neg hzero]
    rw [accumulateGroup_byte group _ hgroups htotal hj (by rw [length_modifyRange]; exact hlen)]
    have hstart : (⟨(modifyRange 0 symbol_bytes (fun _ _ => (0 : UInt8))
        parity_payload).getD j 0⟩ : GaloisByte) = 0 := GaloisByte.ext hfill
    rw [hstart, zero_add]
    refine Finset.sum_congr rfl fun p hp => ?_
    rw [getD_getCoef hparity (by rw [hcount]; exact Finset.mem_range.mp hp)]

theorem length_fillParity {data : List UInt8} {total_fragments : UInt16} {groups : UInt8}
    (hgroups : 0 < groups.toNat) (symbol_bytes : ℕ) (k_by_group : List UInt8)
    (coef_by_group : List (Option (List UInt8))) (parity group : ℕ) (parity_payload : List UInt8) :
    (fillParity data total_fragments groups symbol_bytes k_by_group coef_by_group parity group
      parity_payload).length = parity_payload.length := by
  simp only [fillParity]
  split
  · exact length_modifyRange _ _ _ _
  · split
    · exact length_modifyRange _ _ _ _
    · rw [length_accumulateGroup _ _ _ _ _ _ _ hgroups, length_modifyRange]

/-- The arguments for which `buildParityInto` reaches its loops. -/
structure ParityArgs (data : List UInt8) (total_fragments : UInt16) (groups r_per_group : UInt8)
    (symbol_bytes : ℕ) (out_payloads : List (Option (List UInt8))) : Prop where
  data_ne : data.length ≠ 0
  total_lt : total_fragments.toNat < 256
  groups_pos : 0 < groups.toNat
  r_pos : 0 < r_per_group.toNat
  symbol_pos : 0 < symbol_bytes
  enough : groups.toNat * r_per_group.toNat ≤ out_payloads.length

/-- Such a call passes the guard of both entry points. -/
theorem ParityArgs.guard {data : List UInt8} {total_fragments : UInt16}
    {groups r_per_group : UInt8} {symbol_bytes : ℕ} {out_payloads : List (Option (List UInt8))}
    (h : ParityArgs data total_fragments groups r_per_group symbol_bytes out_payloads) :
    ¬(data.length = 0 ∨ groups = 0 ∨ r_per_group = 0 ∨ symbol_bytes = 0) := by
  rintro (hdata | rfl | rfl | hsymbol)
  · exact h.data_ne hdata
  · exact absurd h.groups_pos (by decide)
  · exact absurd h.r_pos (by decide)
  · exact absurd h.symbol_pos (by omega)

/-- Every byte of a parity payload that `buildParityInto` writes. -/
theorem getD_buildParityInto {data : List UInt8} {total_fragments : UInt16}
    {groups r_per_group : UInt8} {symbol_bytes parity group : ℕ}
    {out_payloads : List (Option (List UInt8))} {buffer : List UInt8}
    (hargs : ParityArgs data total_fragments groups r_per_group symbol_bytes out_payloads)
    (hparity : parity < r_per_group.toNat) (hgroup : group < groups.toNat)
    (hbuffer : out_payloads[parity * groups.toNat + group]? = some (some buffer))
    (hlen : symbol_bytes ≤ buffer.length) :
    ∃ payload : List UInt8,
      (buildParityInto data total_fragments groups r_per_group symbol_bytes
        out_payloads)[parity * groups.toNat + group]? = some (some payload) ∧
      payload.length = buffer.length ∧
      ∀ j < symbol_bytes, (⟨payload.getD j 0⟩ : GaloisByte) =
        ∑ p ∈ Finset.range (strideCount group total_fragments.toNat groups.toNat),
          ⟨coefficient parity p⟩ *
            ⟨data.getD ((group + p * groups.toNat) * symbol_bytes + j) 0⟩ := by
  have henough := hargs.enough
  refine ⟨_, ?_, length_fillParity hargs.groups_pos .., fun j hj =>
    fillParity_byte hargs.total_lt hparity hgroup hj hlen⟩
  -- past the guards every buffer is filled at its own place
  rw [buildParityInto, if_neg hargs.guard, if_neg (by omega)]
  show (modifyRowMajor _ _ _ _)[_]? = _
  rw [getElem?_modifyRowMajor hparity hgroup, hbuffer]
  rfl

/-- `buildParityInto` keeps the number of buffers. -/
theorem length_buildParityInto (data : List UInt8) (total_fragments : UInt16)
    (groups r_per_group : UInt8) (symbol_bytes : ℕ) (out_payloads : List (Option (List UInt8))) :
    (buildParityInto data total_fragments groups r_per_group symbol_bytes out_payloads).length =
      out_payloads.length := by
  unfold buildParityInto
  split_ifs
  · rfl
  · rfl
  · exact length_modifyRowMajor _ _ _ _

/-- On zeroed buffers of `symbol_bytes` bytes, `buildParityInto` leaves what `buildParity`
returns: one payload of `symbol_bytes` bytes for each row and group. -/
theorem buildParityInto_zeroed {data : List UInt8} {total_fragments : UInt16}
    {groups r_per_group : UInt8} {symbol_bytes : ℕ} (hdata : data.length ≠ 0)
    (htotal : total_fragments.toNat < 256) (hgroups : 0 < groups.toNat)
    (hr : 0 < r_per_group.toNat) (hsymbol : 0 < symbol_bytes) :
    buildParityInto data total_fragments groups r_per_group symbol_bytes
        (List.replicate (groups.toNat * r_per_group.toNat)
          (some (List.replicate symbol_bytes 0))) =
      (buildParity data total_fragments groups r_per_group symbol_bytes).map some ∧
    (buildParity data total_fragments groups r_per_group symbol_bytes).length =
      groups.toNat * r_per_group.toNat ∧
    ∀ payload ∈ buildParity data total_fragments groups r_per_group symbol_bytes,
      payload.length = symbol_bytes := by
  let count := groups.toNat * r_per_group.toNat
  let filled := buildParityInto data total_fragments groups r_per_group symbol_bytes
    (List.replicate count (some (List.replicate symbol_bytes 0)))
  have hlength : filled.length = count :=
    (length_buildParityInto ..).trans List.length_replicate
  have hargs : ParityArgs data total_fragments groups r_per_group symbol_bytes
      (List.replicate count (some (List.replicate symbol_bytes 0))) :=
    ⟨hdata, htotal, hgroups, hr, hsymbol, List.length_replicate.ge⟩
  -- every buffer is written, so none is null afterwards
  have hentry : ∀ k < count, ∃ payload : List UInt8,
      filled[k]? = some (some payload) ∧ payload.length = symbol_bytes := by
    intro k hk
    have hindex : k / groups.toNat * groups.toNat + k % groups.toNat = k := Nat.div_add_mod' k _
    have hbuffer : (List.replicate count (some (List.replicate symbol_bytes (0 : UInt8))))[
        k / groups.toNat * groups.toNat + k % groups.toNat]? =
        some (some (List.replicate symbol_bytes 0)) := by
      rw [hindex, List.getElem?_replicate_of_lt hk]
    obtain ⟨payload, hpayload, hlen, -⟩ := getD_buildParityInto hargs
      (Nat.div_lt_of_lt_mul hk) (Nat.mod_lt k hgroups) hbuffer List.length_replicate.ge
    rw [hindex] at hpayload
    exact ⟨payload, hpayload, hlen.trans List.length_replicate⟩
  have hbuild : buildParity data total_fragments groups r_per_group symbol_bytes =
      filled.map (·.getD []) := by
    rw [buildParity, if_neg hargs.guard]
  refine ⟨?_, ?_, ?_⟩
  · rw [hbuild, List.map_map]
    refine List.ext_getElem? fun k => ?_
    show filled[k]? = (filled.map _)[k]?
    rw [List.getElem?_map]
    rcases Nat.lt_or_ge k count with hk | hk
    · obtain ⟨payload, hpayload, -⟩ := hentry k hk
      rw [hpayload]
      rfl
    · rw [List.getElem?_eq_none (hlength.trans_le hk)]
      rfl
  · rw [hbuild, List.length_map, hlength]
  · intro payload hmem
    rw [hbuild] at hmem
    obtain ⟨buffer, hbuffer, rfl⟩ := List.mem_map.mp hmem
    obtain ⟨k, hk⟩ := List.mem_iff_getElem?.mp hbuffer
    have hlt : k < count := hlength ▸ (List.getElem?_eq_some_iff.mp hk).1
    obtain ⟨written, hwritten, hlen⟩ := hentry k hlt
    rw [hwritten] at hk
    cases hk
    exact hlen

/-! ## Fragments -/

/-- The bytes of source fragment `i`; the last one may be short. -/
def sourceFragment (data : List UInt8) (symbol_bytes i : ℕ) : List UInt8 :=
  (data.drop (i * symbol_bytes)).take symbol_bytes

/-- The first `n` fragments are the first `n * symbol_bytes` bytes. -/
theorem flatten_take_sourceFragments (data : List UInt8) (symbol_bytes n : ℕ) :
    ((List.range n).map (sourceFragment data symbol_bytes)).flatten =
      data.take (n * symbol_bytes) := by
  induction n with
  | zero => simp
  | succ n ih =>
    rw [List.range_succ, List.map_append, List.flatten_append, ih, Nat.succ_mul, List.take_add]
    simp [sourceFragment]

/-- Concatenating fragments rebuilds the frame. -/
theorem flatten_sourceFragments {data : List UInt8} {symbol_bytes n : ℕ}
    (hsize : data.length ≤ n * symbol_bytes) :
    ((List.range n).map (sourceFragment data symbol_bytes)).flatten = data := by
  rw [flatten_take_sourceFragments, List.take_of_length_le hsize]

end TeleopBridge.Udp.FecV2
