import TeleopBridge.Udp.FecV2
import TeleopBridge.Support.CauchyMatrix

/-!
# Erasure Recovery

The parity payloads of a group are a Cauchy system in its source fragments: column
`p` is the point `p`, row `parity` is the point `0x80 + parity`. With at most 128
columns and 128 rows the points are distinct, so any loss that leaves as many parity
payloads as lost fragments has one solution.

## Key Result

`fec_recovery`: two frames of one length that agree on the surviving fragments and
the surviving parity payloads are equal.
-/

namespace TeleopBridge.Udp.FecV2

open Support

/-! ## The points of the Cauchy system -/

/-- The point of a column. -/
def columnPoint (column : ℕ) : GaloisByte := ⟨UInt8.ofNat column⟩

/-- The point of a parity row. -/
def rowPoint (row : ℕ) : GaloisByte := ⟨0x80 + UInt8.ofNat row⟩

theorem coefficient_eq (row column : ℕ) :
    (⟨coefficient row column⟩ : GaloisByte) = (columnPoint column - rowPoint row)⁻¹ := by
  refine GaloisByte.ext ?_
  rw [GaloisByte.inv_byte, GaloisByte.sub_byte]
  rfl

theorem columnPoint_toNat {column : ℕ} (h : column < 128) :
    (columnPoint column).byte.toNat = column := by
  rw [columnPoint, UInt8.toNat_ofNat']
  omega

theorem rowPoint_toNat {row : ℕ} (h : row < 128) : (rowPoint row).byte.toNat = 128 + row := by
  rw [rowPoint, UInt8.toNat_add, UInt8.toNat_ofNat']
  have h80 : (0x80 : UInt8).toNat = 128 := rfl
  omega

theorem columnPoint_inj {p q : ℕ} (hp : p < 128) (hq : q < 128)
    (h : columnPoint p = columnPoint q) : p = q := by
  rw [← columnPoint_toNat hp, ← columnPoint_toNat hq, h]

theorem rowPoint_inj {p q : ℕ} (hp : p < 128) (hq : q < 128) (h : rowPoint p = rowPoint q) :
    p = q := by
  have heq : 128 + p = 128 + q := by rw [← rowPoint_toNat hp, ← rowPoint_toNat hq, h]
  omega

/-- Rows have the top bit and columns do not. -/
theorem columnPoint_ne_rowPoint {column row : ℕ} (hcolumn : column < 128) (hrow : row < 128) :
    columnPoint column ≠ rowPoint row := by
  intro h
  have heq : column = 128 + row := by rw [← columnPoint_toNat hcolumn, ← rowPoint_toNat hrow, h]
  omega

/-- Every square submatrix of a coefficient block is nonsingular. -/
theorem det_getCoef_ne_zero {k r : UInt8} (hk : k.toNat ≤ 128) (hr : r.toNat ≤ 128) {m : ℕ}
    {rows cols : Fin m → ℕ} (hrows : Function.Injective rows) (hcols : Function.Injective cols)
    (hrow : ∀ a, rows a < r.toNat) (hcol : ∀ b, cols b < k.toNat) :
    (Matrix.of fun a b =>
      (⟨(getCoef k r).getD (rows a * k.toNat + cols b) 0⟩ : GaloisByte)).det ≠ 0 := by
  have hentries : (Matrix.of fun a b =>
      (⟨(getCoef k r).getD (rows a * k.toNat + cols b) 0⟩ : GaloisByte)) =
      Matrix.of fun a b => (columnPoint (cols b) - rowPoint (rows a))⁻¹ := by
    ext a b : 2
    rw [Matrix.of_apply, Matrix.of_apply, getD_getCoef (hrow a) (hcol b), coefficient_eq]
  have hcol' : ∀ b, cols b < 128 := fun b => (hcol b).trans_le hk
  have hrow' : ∀ a, rows a < 128 := fun a => (hrow a).trans_le hr
  rw [hentries]
  exact det_cauchy_ne_zero (x := fun b => columnPoint (cols b)) (y := fun a => rowPoint (rows a))
    (fun a b h => hcols (columnPoint_inj (hcol' a) (hcol' b) h))
    (fun a b h => hrows (rowPoint_inj (hrow' a) (hrow' b) h))
    (fun b a => columnPoint_ne_rowPoint (hcol' b) (hrow' a))

/-! ## Groups -/

/-- The interleaved group: the source fragments `i < total` with `i = group (mod groups)`. -/
def groupMembers (total groups group : ℕ) : Finset ℕ :=
  (Finset.range total).filter fun i => i % groups = group

/-- The member at position `p` of a group is fragment `group + p * groups`. -/
theorem groupMembers_eq_image {total groups group : ℕ} (hgroup : group < groups) :
    groupMembers total groups group =
      (Finset.range (strideCount group total groups)).image fun p => group + p * groups := by
  have hgroups : 0 < groups := by omega
  ext i
  simp only [groupMembers, Finset.mem_filter, Finset.mem_range, Finset.mem_image]
  constructor
  · rintro ⟨hi, hmod⟩
    have hdiv : group + i / groups * groups = i := by
      rw [← hmod, Nat.mul_comm]
      exact Nat.mod_add_div i groups
    exact ⟨i / groups, (lt_strideCount_iff hgroups).mpr (by omega), hdiv⟩
  · rintro ⟨p, hp, rfl⟩
    refine ⟨(lt_strideCount_iff hgroups).mp hp, ?_⟩
    rw [Nat.add_mul_mod_self_right, Nat.mod_eq_of_lt hgroup]

theorem position_injective {groups : ℕ} (hgroups : 0 < groups) (group : ℕ) :
    Function.Injective fun p => group + p * groups := by
  intro p q h
  have heq : p * groups = q * groups := Nat.add_left_cancel h
  exact Nat.eq_of_mul_eq_mul_right hgroups heq

theorem card_groupMembers {total groups group : ℕ} (hgroup : group < groups) :
    (groupMembers total groups group).card = strideCount group total groups := by
  rw [groupMembers_eq_image hgroup,
    Finset.card_image_of_injective _ (position_injective (by omega) group), Finset.card_range]

/-! ## Fragments -/

/-- Source fragment `i`, zero-padded to `symbol_bytes`. -/
def paddedFragment (data : List UInt8) (symbol_bytes i : ℕ) : List UInt8 :=
  (List.range symbol_bytes).map fun j => data.getD (i * symbol_bytes + j) 0

theorem getD_of_sourceFragment_eq {data data' : List UInt8} {symbol_bytes i j : ℕ}
    (h : sourceFragment data symbol_bytes i = sourceFragment data' symbol_bytes i)
    (hj : j < symbol_bytes) :
    data.getD (i * symbol_bytes + j) 0 = data'.getD (i * symbol_bytes + j) 0 := by
  have hget : ∀ d : List UInt8,
      (sourceFragment d symbol_bytes i)[j]? = d[i * symbol_bytes + j]? := by
    intro d
    rw [sourceFragment, List.getElem?_take_of_lt hj, List.getElem?_drop]
  rw [List.getD_eq_getElem?_getD, List.getD_eq_getElem?_getD, ← hget, ← hget, h]

/-- Frames that agree byte by byte on `total` fragments are equal. -/
theorem eq_of_getD_fragments {data data' : List UInt8} {total symbol_bytes : ℕ}
    (hsymbol : 0 < symbol_bytes) (hlen : data.length = data'.length)
    (hsize : data.length ≤ total * symbol_bytes)
    (h : ∀ i < total, ∀ j < symbol_bytes,
      data.getD (i * symbol_bytes + j) 0 = data'.getD (i * symbol_bytes + j) 0) :
    data = data' := by
  refine List.ext_getElem hlen fun m hm hm' => ?_
  have hi : m / symbol_bytes < total := (Nat.div_lt_iff_lt_mul hsymbol).mpr (by omega)
  have hbyte := h _ hi _ (Nat.mod_lt m hsymbol)
  rw [Nat.div_add_mod' m symbol_bytes] at hbyte
  simpa [List.getD_eq_getElem?_getD, hm, hm'] using hbyte

/-! ## Recovery within a group -/

/-- The parity indices of the surviving payloads of a group. -/
def survivingParity (kept : Finset ℕ) (groups group : ℕ) : Finset ℕ :=
  kept.filter fun index => index % groups = group

/-- The lost source fragments of a group. -/
def lostMembers (lost : Finset ℕ) (total groups group : ℕ) : Finset ℕ :=
  (groupMembers total groups group).filter (· ∈ lost)

/-- One byte column of one group: if the weighted sums agree on enough rows, and the
bytes agree off the lost positions, then the bytes agree. -/
theorem groupBytes_eq {k : ℕ} (hk : k ≤ 128) (lostPos rows : Finset ℕ) (b b' : ℕ → GaloisByte)
    (hlostPos : lostPos ⊆ Finset.range k) (hrows : ∀ row ∈ rows, row < 128)
    (hcard : lostPos.card ≤ rows.card)
    (hsame : ∀ p < k, p ∉ lostPos → b p = b' p)
    (hsum : ∀ row ∈ rows, ∑ p ∈ Finset.range k, ⟨coefficient row p⟩ * b p =
      ∑ p ∈ Finset.range k, ⟨coefficient row p⟩ * b' p) :
    ∀ p < k, b p = b' p := by
  have hlt : ∀ p ∈ lostPos, p < 128 := fun p hp =>
    (Finset.mem_range.mp (hlostPos hp)).trans_le hk
  have hcolumns : Set.InjOn columnPoint lostPos :=
    fun p hp q hq h => columnPoint_inj (hlt p hp) (hlt q hq) h
  have hpoints : Set.InjOn rowPoint rows :=
    fun p hp q hq h => rowPoint_inj (hrows p hp) (hrows q hq) h
  have hdisjoint : ∀ p ∈ lostPos, ∀ row ∈ rows, columnPoint p ≠ rowPoint row :=
    fun p hp row hrow => columnPoint_ne_rowPoint (hlt p hp) (hrows row hrow)
  have hzero : ∀ row ∈ rows,
      ∑ p ∈ lostPos, (b p - b' p) * (columnPoint p - rowPoint row)⁻¹ = 0 := by
    intro row hrow
    -- the surviving positions contribute nothing to the difference
    have hextend : ∑ p ∈ lostPos, (b p - b' p) * (columnPoint p - rowPoint row)⁻¹ =
        ∑ p ∈ Finset.range k, (b p - b' p) * (columnPoint p - rowPoint row)⁻¹ := by
      refine Finset.sum_subset hlostPos fun p hp hnot => ?_
      rw [hsame p (Finset.mem_range.mp hp) hnot, sub_self, zero_mul]
    rw [hextend]
    calc ∑ p ∈ Finset.range k, (b p - b' p) * (columnPoint p - rowPoint row)⁻¹
        = ∑ p ∈ Finset.range k, (⟨coefficient row p⟩ * b p - ⟨coefficient row p⟩ * b' p) := by
          refine Finset.sum_congr rfl fun p _ => ?_
          rw [coefficient_eq, mul_comm, mul_sub]
      _ = 0 := by rw [Finset.sum_sub_distrib, hsum row hrow, sub_self]
  intro p hp
  by_cases hmem : p ∈ lostPos
  · have hkernel := cauchy_kernel_trivial lostPos rows hcolumns hpoints hdisjoint hcard hzero
    exact sub_eq_zero.mp (hkernel p hmem)
  · exact hsame p hp hmem

/-- Position `p` of a group is lost when fragment `group + p * groups` is. -/
theorem card_lostPositions {lost : Finset ℕ} {total groups group : ℕ} (hgroup : group < groups) :
    ((Finset.range (strideCount group total groups)).filter
      fun p => group + p * groups ∈ lost).card = (lostMembers lost total groups group).card := by
  rw [lostMembers, groupMembers_eq_image hgroup, Finset.filter_image,
    Finset.card_image_of_injective _ (position_injective (by omega) group)]

/-- The surviving payloads of a group sit in distinct parity rows. -/
theorem card_survivingRows (kept : Finset ℕ) (groups group : ℕ) :
    ((survivingParity kept groups group).image (· / groups)).card =
      (survivingParity kept groups group).card := by
  refine Finset.card_image_of_injOn fun a ha b hb h => ?_
  have hamod : a % groups = group := (Finset.mem_filter.mp ha).2
  have hbmod : b % groups = group := (Finset.mem_filter.mp hb).2
  have hdiv : a / groups = b / groups := h
  rw [← Nat.div_add_mod a groups, ← Nat.div_add_mod b groups, hdiv, hamod, hbmod]

/-- The parity sums of two frames agree on a surviving row. -/
theorem paritySum_eq {data data' : List UInt8} {total_fragments : UInt16}
    {groups r_per_group : UInt8} {symbol_bytes parity group : ℕ}
    {out_payloads out_payloads' : List (Option (List UInt8))} {buffer buffer' : List UInt8}
    (hargs : ParityArgs data total_fragments groups r_per_group symbol_bytes out_payloads)
    (hargs' : ParityArgs data' total_fragments groups r_per_group symbol_bytes out_payloads')
    (hparity : parity < r_per_group.toNat) (hgroup : group < groups.toNat)
    (hbuffer : out_payloads[parity * groups.toNat + group]? = some (some buffer))
    (hbuffer' : out_payloads'[parity * groups.toNat + group]? = some (some buffer'))
    (hlen : symbol_bytes ≤ buffer.length) (hlen' : symbol_bytes ≤ buffer'.length)
    (hsame : (buildParityInto data total_fragments groups r_per_group symbol_bytes
        out_payloads)[parity * groups.toNat + group]? =
      (buildParityInto data' total_fragments groups r_per_group symbol_bytes
        out_payloads')[parity * groups.toNat + group]?) {j : ℕ} (hj : j < symbol_bytes) :
    ∑ p ∈ Finset.range (strideCount group total_fragments.toNat groups.toNat),
        (⟨coefficient parity p⟩ : GaloisByte) *
          ⟨data.getD ((group + p * groups.toNat) * symbol_bytes + j) 0⟩ =
      ∑ p ∈ Finset.range (strideCount group total_fragments.toNat groups.toNat),
        ⟨coefficient parity p⟩ *
          ⟨data'.getD ((group + p * groups.toNat) * symbol_bytes + j) 0⟩ := by
  obtain ⟨payload, hpayload, -, hbytes⟩ :=
    getD_buildParityInto hargs hparity hgroup hbuffer hlen
  obtain ⟨payload', hpayload', -, hbytes'⟩ :=
    getD_buildParityInto hargs' hparity hgroup hbuffer' hlen'
  rw [hpayload, hpayload'] at hsame
  have heq : payload = payload' := Option.some.inj (Option.some.inj hsame)
  rw [← hbytes j hj, ← hbytes' j hj, heq]

/-! ## The shipped plan table -/

/-- Table entries that keep every group within 32 members and 8 parity rows. -/
def EntryWithin (n : ℕ) (groups r_per_group : UInt8) : Prop :=
  groups = 0 ∨ (n ≤ 32 * groups.toNat ∧ r_per_group ≤ 8)

/-- Plans that write such an entry. -/
def Plan.Within (plan : Plan) : Prop :=
  EntryWithin plan.n.toNat (if plan.parityCount > 0 then clampByte plan.groupCount else 0)
    (if plan.parityCount > 0 then clampByte plan.parityCount else 0)

instance (plan : Plan) : Decidable plan.Within := inferInstanceAs (Decidable (_ ∨ _))

/-- Every entry of a table is within the bounds. -/
def V2FecTable.Within (table : V2FecTable) : Prop :=
  ∀ n, EntryWithin n (table.groups_by_n n) (table.r_by_n n)

theorem setPlan_within {table : V2FecTable} {plan : Plan} (hplan : plan.Within)
    (htable : table.Within) : (table.setPlan plan).Within := by
  intro n
  rw [V2FecTable.setPlan]
  by_cases hrange : 0 ≤ plan.n ∧ plan.n < 256
  · rw [if_pos hrange]
    by_cases hn : n = plan.n.toNat
    · rw [hn]
      simp only [Function.update_self]
      exact hplan
    · simp only [Function.update_of_ne hn]
      exact htable n
  · rw [if_neg hrange]
    exact htable n

theorem foldl_setPlan_within {plans : List Plan} (hplans : ∀ plan ∈ plans, plan.Within)
    {table : V2FecTable} (htable : table.Within) :
    (plans.foldl V2FecTable.setPlan table).Within := by
  induction plans generalizing table with
  | nil => exact htable
  | cons plan plans ih =>
    have hrest : ∀ p ∈ plans, p.Within := fun p hp => hplans p (List.mem_cons_of_mem _ hp)
    exact ih hrest (setPlan_within (hplans plan List.mem_cons_self) htable)

/-- The empty table has no entry, and every plan keeps the bounds. -/
theorem ofPlans_within {plans : List Plan} (hplans : ∀ plan ∈ plans, plan.Within) :
    (V2FecTable.ofPlans plans).Within :=
  foldl_setPlan_within hplans fun _ => Or.inl rfl

/-- The shipped plans stay far inside the 128 points the construction has room for. -/
theorem shippedTable_within {total_fragments : UInt16} {groups r_per_group : UInt8}
    (h : getParams shippedTable 1 total_fragments = (true, groups, r_per_group)) :
    r_per_group ≤ 8 ∧ ∀ group < groups.toNat,
      (groupMembers total_fragments.toNat groups.toNat group).card ≤ 32 := by
  have hplans : ∀ plan ∈ shippedPlans, plan.Within := by decide +kernel
  have hentry := ofPlans_within hplans total_fragments.toNat
  simp only [getParams] at h
  split_ifs at h with hid hloaded
  · simp at h
  · simp at h
  · simp only [Prod.mk.injEq, Bool.and_eq_true, decide_eq_true_eq] at h
    obtain ⟨⟨hpos, -⟩, rfl, rfl⟩ := h
    obtain ⟨hn, hr⟩ := hentry.resolve_left (UInt8.pos_iff_ne_zero.mp hpos)
    refine ⟨hr, fun group hgroup => ?_⟩
    rw [card_groupMembers hgroup]
    by_contra hlarge
    have hlt := (lt_strideCount_iff (by omega)).mp (not_le.mp hlarge)
    rw [shippedTable] at hlt
    omega

/-! ## Recovery of a frame -/

/-- The buffers a call gets: one per parity payload, and a non-null one of
`symbol_bytes` bytes for each payload that will survive. -/
structure PayloadBuffers (out_payloads : List (Option (List UInt8))) (parity_count symbol_bytes : ℕ)
    (kept : Finset ℕ) : Prop where
  enough : parity_count ≤ out_payloads.length
  buffer : ∀ index ∈ kept, ∃ payload : List UInt8,
    out_payloads[index]? = some (some payload) ∧ payload.length = symbol_bytes

/-- All bytes of one group agree, lost fragments included. -/
theorem groupFragments_eq {data data' : List UInt8} {total_fragments : UInt16}
    {groups r_per_group : UInt8} {symbol_bytes group : ℕ}
    {out_payloads out_payloads' : List (Option (List UInt8))} {lost kept : Finset ℕ}
    (hargs : ParityArgs data total_fragments groups r_per_group symbol_bytes out_payloads)
    (hargs' : ParityArgs data' total_fragments groups r_per_group symbol_bytes out_payloads')
    (hr : r_per_group.toNat ≤ 128) (hgroup : group < groups.toNat)
    (hmembers : (groupMembers total_fragments.toNat groups.toNat group).card ≤ 128)
    (hcount : (lostMembers lost total_fragments.toNat groups.toNat group).card ≤
      (survivingParity kept groups.toNat group).card)
    (hkept : ∀ index ∈ kept, index < groups.toNat * r_per_group.toNat)
    (hbuf : PayloadBuffers out_payloads (groups.toNat * r_per_group.toNat) symbol_bytes kept)
    (hbuf' : PayloadBuffers out_payloads' (groups.toNat * r_per_group.toNat) symbol_bytes kept)
    (hsource : ∀ i < total_fragments.toNat, i ∉ lost →
      sourceFragment data symbol_bytes i = sourceFragment data' symbol_bytes i)
    (hparity : ∀ index ∈ kept,
      (buildParityInto data total_fragments groups r_per_group symbol_bytes
        out_payloads)[index]? =
      (buildParityInto data' total_fragments groups r_per_group symbol_bytes
        out_payloads')[index]?) :
    ∀ i ∈ groupMembers total_fragments.toNat groups.toNat group, ∀ j < symbol_bytes,
      data.getD (i * symbol_bytes + j) 0 = data'.getD (i * symbol_bytes + j) 0 := by
  have hgroups := hargs.groups_pos
  intro i hi j hj
  rw [groupMembers_eq_image hgroup] at hi
  obtain ⟨p, hp, rfl⟩ := Finset.mem_image.mp hi
  rw [card_groupMembers hgroup] at hmembers
  -- a surviving payload of the group: its row, and its place in the row-major array
  have hindex : ∀ index ∈ survivingParity kept groups.toNat group,
      index ∈ kept ∧ index / groups.toNat < r_per_group.toNat ∧
        index / groups.toNat * groups.toNat + group = index := by
    intro index hmem
    obtain ⟨hk, hmod⟩ := Finset.mem_filter.mp hmem
    refine ⟨hk, Nat.div_lt_of_lt_mul (hkept index hk), ?_⟩
    rw [← hmod, Nat.mul_comm]
    exact Nat.div_add_mod index groups.toNat
  -- the byte column of the group, with its lost positions and its surviving rows
  have hbytes := groupBytes_eq hmembers
    ((Finset.range (strideCount group total_fragments.toNat groups.toNat)).filter
      fun p => group + p * groups.toNat ∈ lost)
    ((survivingParity kept groups.toNat group).image (· / groups.toNat))
    (fun p => ⟨data.getD ((group + p * groups.toNat) * symbol_bytes + j) 0⟩)
    (fun p => ⟨data'.getD ((group + p * groups.toNat) * symbol_bytes + j) 0⟩)
    (Finset.filter_subset _ _) ?_ ?_ ?_ ?_ p (Finset.mem_range.mp hp)
  · exact congrArg GaloisByte.byte hbytes
  · intro row hrow
    obtain ⟨index, hmem, rfl⟩ := Finset.mem_image.mp hrow
    exact (hindex index hmem).2.1.trans_le hr
  · rw [card_lostPositions hgroup, card_survivingRows]
    exact hcount
  · -- a position that was not lost carries the same source byte in both frames
    intro q hq hnot
    have hlt := (lt_strideCount_iff hgroups).mp hq
    refine congrArg GaloisByte.mk (getD_of_sourceFragment_eq (hsource _ hlt fun hlost => ?_) hj)
    exact hnot (Finset.mem_filter.mpr ⟨Finset.mem_range.mpr hq, hlost⟩)
  · -- a row that survived carries the same weighted sum
    intro row hrow
    obtain ⟨index, hmem, rfl⟩ := Finset.mem_image.mp hrow
    obtain ⟨hk, hlt, heq⟩ := hindex index hmem
    obtain ⟨payload, hpayload, hlen⟩ := hbuf.buffer index hk
    obtain ⟨payload', hpayload', hlen'⟩ := hbuf'.buffer index hk
    rw [← heq] at hpayload hpayload'
    refine paritySum_eq hargs hargs' hlt hgroup hpayload hpayload' hlen.ge hlen'.ge ?_ hj
    rw [heq]
    exact hparity index hk

/-- The MDS property of the video code. Two frames of one length that agree on the
surviving source fragments and the surviving parity payloads are equal, whatever was
lost, as long as no group lost more fragments than it kept parity payloads. The
coefficient blocks involved have only nonsingular square submatrices, and the shipped
table is within the bounds the construction needs. -/
theorem fec_recovery {data data' : List UInt8} {total_fragments : UInt16}
    {groups r_per_group : UInt8} {symbol_bytes : ℕ}
    {out_payloads out_payloads' : List (Option (List UInt8))} {lost kept : Finset ℕ}
    (hsymbol : 1 ≤ symbol_bytes)
    (htotal : 0 < total_fragments.toNat ∧ total_fragments.toNat < 256)
    (hlength : data.length = data'.length)
    (hsize : data.length ≤ total_fragments.toNat * symbol_bytes)
    (hgroups : 1 ≤ groups.toNat) (hr : 1 ≤ r_per_group.toNat ∧ r_per_group.toNat ≤ 128)
    (hmembers : ∀ group < groups.toNat,
      (groupMembers total_fragments.toNat groups.toNat group).card ≤ 128)
    (hcount : ∀ group < groups.toNat,
      (lostMembers lost total_fragments.toNat groups.toNat group).card ≤
        (survivingParity kept groups.toNat group).card)
    (hkept : ∀ index ∈ kept, index < groups.toNat * r_per_group.toNat)
    (hbuf : PayloadBuffers out_payloads (groups.toNat * r_per_group.toNat) symbol_bytes kept)
    (hbuf' : PayloadBuffers out_payloads' (groups.toNat * r_per_group.toNat) symbol_bytes kept)
    (hsource : ∀ i < total_fragments.toNat, i ∉ lost →
      sourceFragment data symbol_bytes i = sourceFragment data' symbol_bytes i)
    (hparity : ∀ index ∈ kept,
      (buildParityInto data total_fragments groups r_per_group symbol_bytes
        out_payloads)[index]? =
      (buildParityInto data' total_fragments groups r_per_group symbol_bytes
        out_payloads')[index]?) :
    data = data' ∧
    (∀ i, paddedFragment data symbol_bytes i = paddedFragment data' symbol_bytes i) ∧
    (∀ group < groups.toNat, ∀ (m : ℕ) (rows cols : Fin m → ℕ),
      Function.Injective rows → Function.Injective cols →
      (∀ a, rows a < r_per_group.toNat) →
      (∀ b, cols b < (countGroup total_fragments groups group).toNat) →
      (Matrix.of fun a b => (⟨(getCoef (countGroup total_fragments groups group)
        r_per_group).getD (rows a * (countGroup total_fragments groups group).toNat + cols b)
          0⟩ : GaloisByte)).det ≠ 0) ∧
    (∀ (n : UInt16) (g r : UInt8), getParams shippedTable 1 n = (true, g, r) →
      r ≤ 8 ∧ ∀ group < g.toNat, (groupMembers n.toNat g.toNat group).card ≤ 32) := by
  have hdata : data = data' := by
    rcases Nat.eq_zero_or_pos data.length with hempty | hpos
    · have hempty' : data'.length = 0 := by omega
      rw [List.length_eq_zero_iff.mp hempty, List.length_eq_zero_iff.mp hempty']
    · have hargs : ParityArgs data total_fragments groups r_per_group symbol_bytes out_payloads :=
        ⟨by omega, htotal.2, hgroups, hr.1, hsymbol, hbuf.enough⟩
      have hargs' : ParityArgs data' total_fragments groups r_per_group symbol_bytes
          out_payloads' :=
        ⟨by omega, htotal.2, hgroups, hr.1, hsymbol, hbuf'.enough⟩
      -- fragment `i` belongs to the group `i % groups`
      refine eq_of_getD_fragments hsymbol hlength hsize fun i hi => ?_
      have hgroup : i % groups.toNat < groups.toNat := Nat.mod_lt i hgroups
      exact groupFragments_eq hargs hargs' hr.2 hgroup (hmembers _ hgroup) (hcount _ hgroup)
        hkept hbuf hbuf' hsource hparity i
        (Finset.mem_filter.mpr ⟨Finset.mem_range.mpr hi, rfl⟩)
  refine ⟨hdata, fun i => by rw [hdata], ?_, fun n g r h => shippedTable_within h⟩
  intro group hgroup m rows cols hrows hcols hrow hcol
  refine det_getCoef_ne_zero ?_ hr.2 hrows hcols hrow hcol
  rw [countGroup_toNat hgroups htotal.2, ← card_groupMembers hgroup]
  exact hmembers group hgroup

/-- A five-fragment frame in two groups, its first two fragments lost and the two
payloads of parity row 1 kept. -/
theorem fec_recovery_two_lost :
    ([1, 2, 3, 4, 5, 6, 7, 8, 9] : List UInt8) = [1, 2, 3, 4, 5, 6, 7, 8, 9] :=
  (@fec_recovery [1, 2, 3, 4, 5, 6, 7, 8, 9] [1, 2, 3, 4, 5, 6, 7, 8, 9] 5 2 2 2
    [none, none, some [0, 0], some [0, 0]] [none, none, some [0, 0], some [0, 0]] {0, 1} {2, 3}
    (by decide) (by decide) rfl (by decide) (by decide) (by decide) (by decide) (by decide)
    (by decide) ⟨by decide, by simp⟩ ⟨by decide, by simp⟩ (fun _ _ _ => rfl)
    (fun _ _ => rfl)).1

end TeleopBridge.Udp.FecV2
