import TeleopBridge.Udp.FecRecovery
import TeleopBridge.Udp.FrameReassembly

/-!
# Delivery over a Lossy Network

What a receiver can do with the datagrams that arrive, when the network loses some of them,
delays them and doubles them. The datagrams that arrive of a frame determine it as soon as no
group has lost more fragments than parity datagrams of it arrived; so there is a receiver that
rebuilds these frames and never makes one up.

## Key Results

- `frame_determined`: whoever could have sent what arrived sent the same frame.
- `exists_receiver`: one receiver for all runs of `processFrame`.
-/

namespace TeleopBridge.Udp

open Support FecV2 PacketCodec

/-! ## What arrives -/

/-- The datagrams of a batch as they go over the wire. -/
def wireDatagrams (batch : List QueueItem) : List (List UInt8) :=
  (batch.filter (·.kind = .Datagram)).map QueueItem.bytes

/-- The bytes of the datagram at a position of a batch are among those that arrived. -/
def ArrivedAt (batch : List QueueItem) (arrived : Set (List UInt8)) (i : ℕ) : Prop :=
  ∃ item, batch[i]? = some item ∧ item.bytes ∈ arrived

section Arrivals

open Classical in
/-- The source fragments of a frame that did not arrive. -/
noncomputable def lostFragments (input : FrameInput) (batch : List QueueItem)
    (arrived : Set (List UInt8)) : Finset ℕ :=
  (Finset.range input.fragments).filter fun i => ¬ArrivedAt batch arrived i

open Classical in
/-- The parity datagrams of a frame that arrived. -/
noncomputable def keptParity (input : FrameInput) (batch : List QueueItem)
    (arrived : Set (List UInt8)) : Finset ℕ :=
  (Finset.range input.parityCount).filter fun k => ArrivedAt batch arrived (input.fragments + k)

/-- No group has lost more fragments than parity datagrams of it arrived; without parity,
no fragment was lost. -/
def Recoverable (input : FrameInput) (batch : List QueueItem) (arrived : Set (List UInt8)) :
    Prop :=
  if input.params.1 then
    ∀ group < input.params.2.1.toNat,
      (lostMembers (lostFragments input batch arrived) input.fragments input.params.2.1.toNat
          group).card ≤
        (survivingParity (keptParity input batch arrived) input.params.2.1.toNat group).card
  else lostFragments input batch arrived = ∅

theorem mem_lostFragments {input : FrameInput} {batch : List QueueItem}
    {arrived : Set (List UInt8)} {i : ℕ} : i ∈ lostFragments input batch arrived ↔
      i < input.fragments ∧ ¬ArrivedAt batch arrived i := by
  simp only [lostFragments, Finset.mem_filter, Finset.mem_range]

theorem mem_keptParity {input : FrameInput} {batch : List QueueItem}
    {arrived : Set (List UInt8)} {k : ℕ} : k ∈ keptParity input batch arrived ↔
      k < input.parityCount ∧ ArrivedAt batch arrived (input.fragments + k) := by
  simp only [keptParity, Finset.mem_filter, Finset.mem_range]

end Arrivals

/-! ## The pieces of a frame -/

/-- A piece of a list that is cut into pieces of one length. -/
theorem take_drop_flatten {α : Type*} {pieces : ℕ → List α} {n m : ℕ}
    (hfull : ∀ i, i + 1 < n → (pieces i).length = m)
    (hlast : ∀ i, i + 1 = n → (pieces i).length ≤ m) {i : ℕ} (hi : i < n) :
    ((((List.range n).map pieces).flatten.drop (i * m)).take m) = pieces i := by
  induction n generalizing pieces i with
  | zero => exact absurd hi (Nat.not_lt_zero i)
  | succ n ih =>
    rw [List.range_succ_eq_map, List.map_cons, List.map_map, List.flatten_cons]
    -- the first piece stands at the front; behind it the rest is a shorter row of pieces
    cases i with
    | zero =>
      rw [Nat.zero_mul, List.drop_zero]
      cases n with
      | zero =>
        rw [List.range_zero, List.map_nil, List.flatten_nil, List.append_nil]
        exact List.take_of_length_le (hlast 0 rfl)
      | succ n => exact List.take_left' (hfull 0 (by omega))
    | succ i =>
      have hhead : (pieces 0).length = m := hfull 0 (by omega)
      rw [Nat.succ_mul, Nat.add_comm (i * m), ← List.drop_drop, List.drop_left' hhead]
      exact @ih (pieces ∘ Nat.succ) (fun j hj => hfull (j + 1) (by omega))
        (fun j hj => hlast (j + 1) (by omega)) i (by omega)

theorem length_flatten_full {α : Type*} {pieces : ℕ → List α} {n m : ℕ}
    (hfull : ∀ i < n, (pieces i).length = m) :
    ((List.range n).map pieces).flatten.length = n * m := by
  induction n with
  | zero => rw [Nat.zero_mul]; rfl
  | succ n ih =>
    rw [List.range_succ, List.map_append, List.flatten_append, List.length_append,
      ih fun i hi => hfull i (by omega)]
    simp only [List.map_singleton, List.flatten_singleton, hfull n (Nat.lt_succ_self n)]
    ring

section Batches

variable {input input' : FrameInput} {frameId frameId' : UInt32} {firstSeq firstSeq' : UInt16}
  {batch batch' : List QueueItem} {arrived : Set (List UInt8)}

/-- A frame with its datagrams taken apart. -/
structure Pieces (input : FrameInput) (frameId : UInt32) (firstSeq : UInt16)
    (batch : List QueueItem) (headers : ℕ → VideoPacketHeaderV2) (payloads : ℕ → List UInt8) :
    Prop where
  decodes : ∀ i < input.fragments + input.parityCount, ∃ item, batch[i]? = some item ∧
    DatagramDecodes input frameId firstSeq i item (headers i) (payloads i)
  wire : ∀ bytes ∈ wireDatagrams batch, ∃ i item, i < input.fragments + input.parityCount ∧
    batch[i]? = some item ∧ item.bytes = bytes
  data : ((List.range input.fragments).map payloads).flatten = input.frame.data
  source : ∀ i < input.fragments,
    payloads i = sourceFragment input.frame.data input.config.max_payload i
  parity : input.params.1 = true → ∀ k < input.parityCount,
    (buildParity input.frame.data (UInt16.ofNat input.fragments) input.params.2.1
      input.params.2.2 input.config.max_payload)[k]? = some (payloads (input.fragments + k))

theorem FrameBatch.pieces (h : input.Admissible)
    (hbatch : FrameBatch input frameId firstSeq batch) :
    ∃ headers payloads, Pieces input frameId firstSeq batch headers payloads := by
  obtain ⟨datagrams, closing, headers, payloads, rfl, hclosing, hlength, hdecodes, hdata,
    hparity⟩ := hbatch.reassembles
  refine ⟨headers, payloads, ?_, ?_, hdata, ?_, ?_⟩
  · intro i hi
    have hget : datagrams[i]? = some datagrams[i] := List.getElem?_eq_getElem (hlength ▸ hi)
    refine ⟨_, ?_, hdecodes i _ hget⟩
    rw [List.getElem?_append_left (hlength ▸ hi), hget]
  · intro bytes hbytes
    obtain ⟨item, hitem, rfl⟩ := List.mem_map.mp hbytes
    obtain ⟨hmem, hkind⟩ := List.mem_filter.mp hitem
    rcases List.mem_append.mp hmem with hin | hend
    · obtain ⟨i, hi⟩ := List.mem_iff_getElem?.mp hin
      have hlt := (List.getElem?_eq_some_iff.mp hi).1
      exact ⟨i, item, hlength ▸ hlt, by rw [List.getElem?_append_left hlt, hi], rfl⟩
    · rw [List.mem_singleton.mp hend, hclosing.kind] at hkind
      cases hkind
  · -- all pieces but the last are full, and the frame has room for no more
    have hdecoded : ∀ i < input.fragments,
        ∃ item, DatagramDecodes input frameId firstSeq i item (headers i) (payloads i) :=
      fun i hi => ⟨_, hdecodes i _ (List.getElem?_eq_getElem (by omega))⟩
    have hfull : ∀ i, i + 1 < input.fragments →
        (payloads i).length = input.config.max_payload := fun i hi => by
      obtain ⟨item, hitem⟩ := hdecoded i (by omega)
      exact hitem.full (by omega)
    have hlast : ∀ i, i + 1 = input.fragments →
        (payloads i).length ≤ input.config.max_payload := fun i hi => by
      have hsize := h.size_le
      rw [← hdata, ← hi, List.range_succ, List.map_append, List.flatten_append,
        List.length_append, length_flatten_full fun j hj => hfull j (by omega),
        Nat.succ_mul] at hsize
      simpa using hsize
    intro i hi
    rw [sourceFragment, ← hdata]
    exact (take_drop_flatten hfull hlast hi).symm
  · intro hparams k hk
    rw [← hparity hparams, List.getElem?_map, List.getElem?_range hk]
    rfl

theorem Pieces.full {headers : ℕ → VideoPacketHeaderV2} {payloads : ℕ → List UInt8}
    (p : Pieces input frameId firstSeq batch headers payloads) {k : ℕ}
    (hk : k < input.parityCount) :
    (payloads (input.fragments + k)).length = input.config.max_payload := by
  obtain ⟨item, -, hitem⟩ := p.decodes (input.fragments + k) (by omega)
  exact hitem.full (by omega)

/-! ## Two frames that could have been sent -/

/-- Two frames whose senders used the same parity table. -/
structure SameFec (config config' : VideoConfig) : Prop where
  encoder : config'.fec_encoder_ = config.fec_encoder_
  table_id : config'.fec_table_id = config.fec_table_id

theorem SameFec.params {config config' : VideoConfig} (h : SameFec config config')
    (total_fragments : UInt16) :
    fecParams config' total_fragments = fecParams config total_fragments := by
  unfold fecParams
  rw [h.encoder, h.table_id]

theorem SameFec.symm {config config' : VideoConfig} (h : SameFec config config') :
    SameFec config' config :=
  ⟨h.encoder.symm, h.table_id.symm⟩

theorem SameFec.trans {config config' config'' : VideoConfig} (h : SameFec config config')
    (h' : SameFec config' config'') : SameFec config config'' :=
  ⟨h'.encoder.trans h.encoder, h'.table_id.trans h.table_id⟩

/-- The code has room for the groups and rows that are granted. -/
def FecWithin (config : VideoConfig) : Prop :=
  ∀ total_fragments, (fecParams config total_fragments).1 = true →
    (fecParams config total_fragments).2.2.toNat ≤ 128 ∧
      ∀ group < (fecParams config total_fragments).2.1.toNat,
        (groupMembers total_fragments.toNat (fecParams config total_fragments).2.1.toNat
          group).card ≤ 128

theorem SameFec.within {config config' : VideoConfig} (h : SameFec config config')
    (hwithin : FecWithin config) : FecWithin config' := by
  intro total_fragments
  rw [h.params]
  exact hwithin total_fragments

section Determined

variable {headers headers' : ℕ → VideoPacketHeaderV2} {payloads payloads' : ℕ → List UInt8}
  (p : Pieces input frameId firstSeq batch headers payloads)
  (p' : Pieces input' frameId' firstSeq' batch' headers' payloads')
  (hsent : ∀ bytes ∈ arrived, bytes ∈ wireDatagrams batch')

include p p' hsent

/-- A datagram that arrived is the same datagram of both frames. -/
theorem arrived_agrees {i : ℕ} (hi : i < input.fragments + input.parityCount)
    (harrived : ArrivedAt batch arrived i) :
    payloads i = payloads' i ∧ input.fragments = input'.fragments ∧
      input.frame.data.length = input'.frame.data.length := by
  obtain ⟨item, hget, hitem⟩ := p.decodes i hi
  obtain ⟨item', hget', hmem⟩ := harrived
  cases hget.symm.trans hget'
  obtain ⟨j, other, hj, hother, hbytes⟩ := p'.wire item.bytes (hsent _ hmem)
  obtain ⟨item'', hget'', hdecodes⟩ := p'.decodes j hj
  cases hother.symm.trans hget''
  -- one datagram decodes in one way only
  have hsame : (headers i, payloads i) = (headers' j, payloads' j) := by
    have hdecoded := hitem.decodes
    rw [← hbytes, hdecodes.decodes] at hdecoded
    exact (Option.some.inj hdecoded).symm
  obtain ⟨hheader, hpayload⟩ := Prod.mk.inj hsame
  -- and its header names the place that both frames give it
  have hij : i = j := by
    rw [← hitem.fragment_index, ← hdecodes.fragment_index, hheader]
  subst hij
  refine ⟨hpayload, ?_, ?_⟩
  · rw [← hitem.total_fragments, ← hdecodes.total_fragments, hheader]
  · rw [← hitem.frame_length, ← hdecodes.frame_length, hheader]

/-- If no fragment was lost, the payloads are the frame. -/
theorem data_eq_of_none_lost (hn : input.fragments = input'.fragments)
    (hlost : lostFragments input batch arrived = ∅) : input.frame.data = input'.frame.data := by
  rw [← p.data, ← p'.data, ← hn]
  congr 1
  -- piece by piece, as every source fragment arrived
  refine List.map_congr_left fun i hi => ?_
  have hlt := List.mem_range.mp hi
  have harrived : ArrivedAt batch arrived i := by
    by_contra hnot
    have hmem : i ∈ lostFragments input batch arrived := mem_lostFragments.mpr ⟨hlt, hnot⟩
    rw [hlost] at hmem
    cases hmem
  exact (arrived_agrees p p' hsent (by omega) harrived).1

end Determined

/-- A recoverable frame that lost a fragment has a parity datagram that arrived. -/
theorem Recoverable.exists_parity (hrec : Recoverable input batch arrived)
    (hlost : lostFragments input batch arrived ≠ ∅) :
    input.params.1 = true ∧ ∃ k < input.parityCount,
      ArrivedAt batch arrived (input.fragments + k) := by
  unfold Recoverable at hrec
  split at hrec
  · rename_i hparams
    refine ⟨hparams, ?_⟩
    have hgroups := (fecParams_granted hparams).groups_pos
    obtain ⟨i, hi⟩ := Finset.nonempty_iff_ne_empty.mpr hlost
    have hrange := Finset.mem_range.mpr (mem_lostFragments.mp hi).1
    have hgroup := Nat.mod_lt i hgroups
    have hmember : i ∈ lostMembers (lostFragments input batch arrived) input.fragments
        input.params.2.1.toNat (i % input.params.2.1.toNat) :=
      Finset.mem_filter.mpr ⟨Finset.mem_filter.mpr ⟨hrange, rfl⟩, hi⟩
    -- the group of a lost fragment has at least as many parity fragments left as it lost
    have hcard := (Finset.card_pos.mpr ⟨i, hmember⟩).trans_le (hrec _ hgroup)
    obtain ⟨k, hk⟩ := Finset.card_pos.mp hcard
    exact ⟨k, mem_keptParity.mp (Finset.mem_of_mem_filter k hk)⟩
  · exact absurd hrec hlost

/-- A recoverable frame has a datagram that arrived. -/
theorem Recoverable.exists_arrived (h : input.Admissible)
    (hrec : Recoverable input batch arrived) :
    ∃ i < input.fragments + input.parityCount, ArrivedAt batch arrived i := by
  have hpos : 0 < input.fragments := (h.lt_fragments_iff 0).mpr (by
    have := List.length_pos_iff.mpr h.nonempty
    omega)
  -- with nothing lost the first fragment is there, otherwise a parity fragment
  by_cases hlost : lostFragments input batch arrived = ∅
  · refine ⟨0, by omega, ?_⟩
    by_contra hnot
    have hmem : 0 ∈ lostFragments input batch arrived := mem_lostFragments.mpr ⟨hpos, hnot⟩
    rw [hlost] at hmem
    cases hmem
  · obtain ⟨-, k, hk, harrived⟩ := hrec.exists_parity hlost
    exact ⟨_, by omega, harrived⟩

/-- Whoever could have sent what arrived sent the same frame. -/
theorem frame_determined (h : input.Admissible) (h' : input'.Admissible)
    (hbatch : FrameBatch input frameId firstSeq batch)
    (hbatch' : FrameBatch input' frameId' firstSeq' batch')
    (hfec : SameFec input.config input'.config) (hwithin : FecWithin input.config)
    (hrec : Recoverable input batch arrived)
    (hsent : ∀ bytes ∈ arrived, bytes ∈ wireDatagrams batch') :
    input.frame.data = input'.frame.data := by
  obtain ⟨headers, payloads, p⟩ := hbatch.pieces h
  obtain ⟨headers', payloads', p'⟩ := hbatch'.pieces h'
  obtain ⟨i, hi, harrived⟩ := hrec.exists_arrived h
  obtain ⟨-, hn, hlength⟩ := arrived_agrees p p' hsent hi harrived
  by_cases hlost : lostFragments input batch arrived = ∅
  · exact data_eq_of_none_lost p p' hsent hn hlost
  -- some fragment was lost, so a parity datagram of its group arrived
  obtain ⟨hparams, k, hk, hparity⟩ := hrec.exists_parity hlost
  have hparams' : input'.params = input.params := by
    rw [FrameInput.params, FrameInput.params, ← hn, hfec.params]
  have hcount : input'.parityCount = input.parityCount := by
    rw [FrameInput.parityCount, FrameInput.parityCount, hparams']
  have hpayload : input.config.max_payload = input'.config.max_payload := by
    have hsame := (arrived_agrees p p' hsent (by omega) hparity).1
    rw [← p.full hk, hsame, hn]
    exact p'.full (by omega)
  obtain ⟨htotal, hgroups, hr⟩ := fecParams_granted hparams
  obtain ⟨hr128, hmembers⟩ := hwithin _ hparams
  rw [Recoverable, if_pos hparams] at hrec
  have htoNat := h.total_toNat
  -- each sender's parity is what `buildParityInto` leaves in zeroed buffers
  have hargs : ∀ {other : FrameInput}, other.Admissible → ParityArgs other.frame.data
      (UInt16.ofNat input.fragments) input.params.2.1 input.params.2.2 input.config.max_payload
      (List.replicate (input.params.2.1.toNat * input.params.2.2.toNat)
        (some (List.replicate input.config.max_payload 0))) := fun hother =>
    ⟨fun hzero => hother.nonempty (List.length_eq_zero_iff.mp hzero), htotal, hgroups, hr,
      h.payload_pos, List.length_replicate.ge⟩
  have hinto : ∀ {other : FrameInput}, other.Admissible →
      buildParityInto other.frame.data (UInt16.ofNat input.fragments) input.params.2.1
        input.params.2.2 input.config.max_payload
        (List.replicate (input.params.2.1.toNat * input.params.2.2.toNat)
          (some (List.replicate input.config.max_payload 0))) =
      (buildParity other.frame.data (UInt16.ofNat input.fragments) input.params.2.1
        input.params.2.2 input.config.max_payload).map some := fun hother =>
    (buildParityInto_zeroed (hargs hother).data_ne htotal hgroups hr h.payload_pos).1
  have hbuf : PayloadBuffers (List.replicate (input.params.2.1.toNat * input.params.2.2.toNat)
      (some (List.replicate input.config.max_payload 0)))
      (input.params.2.1.toNat * input.params.2.2.toNat) input.config.max_payload
      (keptParity input batch arrived) := by
    refine ⟨List.length_replicate.ge, fun k hk => ⟨List.replicate input.config.max_payload 0, ?_,
      List.length_replicate⟩⟩
    have hlt := (mem_keptParity.mp hk).1
    rw [FrameInput.parityCount, if_pos hparams] at hlt
    exact List.getElem?_replicate_of_lt hlt
  have hkept : ∀ index ∈ keptParity input batch arrived,
      index < input.params.2.1.toNat * input.params.2.2.toNat := fun index hindex => by
    have hlt := (mem_keptParity.mp hindex).1
    rwa [FrameInput.parityCount, if_pos hparams] at hlt
  have hsource : ∀ i < (UInt16.ofNat input.fragments).toNat, i ∉ lostFragments input batch arrived →
      sourceFragment input.frame.data input.config.max_payload i =
        sourceFragment input'.frame.data input.config.max_payload i := by
    intro i hi hnot
    rw [htoNat] at hi
    have harrived : ArrivedAt batch arrived i := by
      by_contra hmissing
      exact hnot (mem_lostFragments.mpr ⟨hi, hmissing⟩)
    have hsame := (arrived_agrees p p' hsent (by omega) harrived).1
    rw [p.source i hi, p'.source i (by omega), ← hpayload] at hsame
    exact hsame
  have hrows : ∀ index ∈ keptParity input batch arrived,
      (buildParityInto input.frame.data (UInt16.ofNat input.fragments) input.params.2.1
        input.params.2.2 input.config.max_payload
        (List.replicate (input.params.2.1.toNat * input.params.2.2.toNat)
          (some (List.replicate input.config.max_payload 0))))[index]? =
      (buildParityInto input'.frame.data (UInt16.ofNat input.fragments) input.params.2.1
        input.params.2.2 input.config.max_payload
        (List.replicate (input.params.2.1.toNat * input.params.2.2.toNat)
          (some (List.replicate input.config.max_payload 0))))[index]? := by
    intro index hindex
    obtain ⟨hlt, harrived⟩ := mem_keptParity.mp hindex
    have hsame := (arrived_agrees p p' hsent (by omega) harrived).1
    have hrow := p.parity hparams index hlt
    have hrow' := p'.parity (by rw [hparams']; exact hparams) index (by omega)
    rw [← hn, hparams', ← hpayload] at hrow'
    rw [hinto h, hinto h', List.getElem?_map, List.getElem?_map, hrow, hrow', hsame]
  refine eq_of_getD_fragments h.payload_pos hlength h.size_le fun i hi => ?_
  have hgroup := Nat.mod_lt i hgroups
  have hcard : (lostMembers (lostFragments input batch arrived)
      (UInt16.ofNat input.fragments).toNat input.params.2.1.toNat
      (i % input.params.2.1.toNat)).card ≤ (survivingParity (keptParity input batch arrived)
        input.params.2.1.toNat (i % input.params.2.1.toNat)).card := by
    rw [htoNat]
    exact hrec _ hgroup
  exact groupFragments_eq (hargs h) (hargs h') hr128 hgroup (hmembers _ hgroup) hcard hkept hbuf
    hbuf hsource hrows i (Finset.mem_filter.mpr ⟨Finset.mem_range.mpr (htoNat.symm ▸ hi), rfl⟩)

/-! ## The receiver -/

/-- The datagrams of one frame among those that arrived. -/
def ofFrame (frameId : UInt32) (arrived : Set (List UInt8)) : Set (List UInt8) :=
  {bytes ∈ arrived | ∃ header payload, decodeVideoPacket bytes = some (header, payload) ∧
    header.FrameId = frameId}

theorem Pieces.frame_id {headers : ℕ → VideoPacketHeaderV2} {payloads : ℕ → List UInt8}
    (p : Pieces input frameId firstSeq batch headers payloads) {bytes : List UInt8}
    (hbytes : bytes ∈ wireDatagrams batch) :
    ∃ header payload, decodeVideoPacket bytes = some (header, payload) ∧
      header.FrameId = frameId := by
  obtain ⟨i, item, hi, hget, rfl⟩ := p.wire bytes hbytes
  obtain ⟨other, hother, hdecodes⟩ := p.decodes i hi
  cases hget.symm.trans hother
  exact ⟨headers i, payloads i, hdecodes.decodes, hdecodes.frame_id⟩

/-- The datagrams of other frames do not matter to which of this frame arrived. -/
theorem Pieces.arrivedAt_ofFrame {headers : ℕ → VideoPacketHeaderV2} {payloads : ℕ → List UInt8}
    (p : Pieces input frameId firstSeq batch headers payloads) {i : ℕ}
    (hi : i < input.fragments + input.parityCount) :
    ArrivedAt batch (ofFrame frameId arrived) i ↔ ArrivedAt batch arrived i := by
  refine ⟨fun ⟨item, hget, hmem⟩ => ⟨item, hget, hmem.1⟩, fun ⟨item, hget, hmem⟩ => ?_⟩
  obtain ⟨other, hother, hdecodes⟩ := p.decodes i hi
  cases hget.symm.trans hother
  exact ⟨item, hget, hmem, headers i, payloads i, hdecodes.decodes, hdecodes.frame_id⟩

theorem Pieces.recoverable_ofFrame {headers : ℕ → VideoPacketHeaderV2}
    {payloads : ℕ → List UInt8} (p : Pieces input frameId firstSeq batch headers payloads) :
    Recoverable input batch (ofFrame frameId arrived) ↔ Recoverable input batch arrived := by
  -- the frame's own datagrams are kept, so neither set changes
  have hlost : lostFragments input batch (ofFrame frameId arrived) =
      lostFragments input batch arrived := by
    ext i
    rw [mem_lostFragments, mem_lostFragments]
    exact and_congr_right fun hi => not_congr (p.arrivedAt_ofFrame (by omega))
  have hkept : keptParity input batch (ofFrame frameId arrived) =
      keptParity input batch arrived := by
    ext k
    rw [mem_keptParity, mem_keptParity]
    exact and_congr_right fun hk => p.arrivedAt_ofFrame (by omega)
  rw [Recoverable, Recoverable, hlost, hkept]

end Batches

/-- A frame that explains what arrived under a frame id: its sender could have sent all of
it, and not too much of it is missing. -/
structure Explains (config : VideoConfig) (frameId : UInt32) (arrived : Set (List UInt8))
    (data : List UInt8) (input : FrameInput) (firstSeq : UInt16) (batch : List QueueItem) :
    Prop where
  admissible : input.Admissible
  same_fec : SameFec config input.config
  frame_batch : FrameBatch input frameId firstSeq batch
  recoverable : Recoverable input batch (ofFrame frameId arrived)
  sent : ∀ bytes ∈ ofFrame frameId arrived, bytes ∈ wireDatagrams batch
  data : data = input.frame.data

open Classical in
/-- A receiver: it knows the parity table of the sender and searches a frame that explains
what arrived. -/
noncomputable def receiveFrame (config : VideoConfig) (frameId : UInt32)
    (arrived : Set (List UInt8)) : Option (List UInt8) :=
  if h : ∃ data input firstSeq batch, Explains config frameId arrived data input firstSeq batch then
    some h.choose
  else none

theorem receiveFrame_eq_some {config : VideoConfig} {frameId : UInt32}
    {arrived : Set (List UInt8)} {data : List UInt8}
    (h : receiveFrame config frameId arrived = some data) :
    ∃ input firstSeq batch, Explains config frameId arrived data input firstSeq batch := by
  unfold receiveFrame at h
  split at h
  · rename_i hexplains
    rw [← Option.some.inj h]
    exact hexplains.choose_spec
  · cases h

theorem exists_receiveFrame {config : VideoConfig} {frameId : UInt32}
    {arrived : Set (List UInt8)} {data : List UInt8} {input : FrameInput} {firstSeq : UInt16}
    {batch : List QueueItem} (h : Explains config frameId arrived data input firstSeq batch) :
    ∃ received, receiveFrame config frameId arrived = some received :=
  ⟨_, dif_pos ⟨data, input, firstSeq, batch, h⟩⟩

/-! ## Runs of the sender -/

/-- The batches that `processFrame` pushes, frame by frame. -/
theorem processFrames_getElem? {inputs : List FrameInput}
    (h : ∀ input ∈ inputs, input.Admissible) (counters : FrameCounters) {k : ℕ}
    {input : FrameInput} (hinput : inputs[k]? = some input) :
    ∃ firstSeq batch, (processFrames counters inputs).2[k]? = some batch ∧
      FrameBatch input (counters.frame_id_ + UInt32.ofNat k) firstSeq batch := by
  induction inputs generalizing counters k with
  | nil => cases hinput
  | cons first inputs ih =>
    have hfirst : first.Admissible := h first List.mem_cons_self
    have hpositive : first.config.max_payload ≠ 0 := Nat.one_le_iff_ne_zero.mp hfirst.payload_pos
    -- the first frame takes its numbers, and the rest go on behind them
    have hpushed : (processFrames counters (first :: inputs)).2 =
        finishBatch (first.job counters.frame_id_)
            (fetchAll (datagramPlan (first.job counters.frame_id_)) counters.packet_seq_num_).2 ::
          (processFrames
            { frame_id_ := counters.frame_id_ + 1
              packet_seq_num_ := (fetchAll (datagramPlan (first.job counters.frame_id_))
                counters.packet_seq_num_).1 } inputs).2 := by
      simp only [processFrames, processFrame, if_neg hpositive]
      rfl
    rw [hpushed]
    cases k with
    | zero =>
      cases Option.some.inj hinput
      refine ⟨counters.packet_seq_num_, _, List.getElem?_cons_zero, ?_⟩
      rw [show counters.frame_id_ + UInt32.ofNat 0 = counters.frame_id_ from UInt32.add_zero _]
      exact finishBatch_frameBatch hfirst counters.frame_id_ counters.packet_seq_num_
    | succ k =>
      obtain ⟨firstSeq, batch, hbatch, hframe⟩ :=
        ih (fun other hmem => h other (List.mem_cons_of_mem _ hmem))
          { frame_id_ := counters.frame_id_ + 1
            packet_seq_num_ := (fetchAll (datagramPlan (first.job counters.frame_id_))
              counters.packet_seq_num_).1 } hinput
      refine ⟨firstSeq, batch, ?_, ?_⟩
      · rw [List.getElem?_cons_succ, hbatch]
      · rw [UInt32.ofNat_add, UInt32.add_comm (UInt32.ofNat k), ← UInt32.add_assoc]
        exact hframe

theorem length_processFrames {inputs : List FrameInput}
    (h : ∀ input ∈ inputs, input.Admissible) (counters : FrameCounters) :
    (processFrames counters inputs).2.length = inputs.length := by
  induction inputs generalizing counters with
  | nil => rfl
  | cons first inputs ih =>
    have hpositive : first.config.max_payload ≠ 0 :=
      Nat.one_le_iff_ne_zero.mp (h first List.mem_cons_self).payload_pos
    simp only [processFrames, processFrame, if_neg hpositive]
    exact congrArg (· + 1) (ih (fun other hmem => h other (List.mem_cons_of_mem _ hmem)) _)

/-- What the network brings of a run: datagrams the sender put on the wire, any number of
times and in any order, and any of them missing. -/
def Arrives (counters : FrameCounters) (inputs : List FrameInput) (arrived : Set (List UInt8)) :
    Prop :=
  ∀ bytes ∈ arrived, ∃ batch ∈ (processFrames counters inputs).2, bytes ∈ wireDatagrams batch

/-- Within one round of the frame ids, what arrived under a frame's id is of that frame. -/
theorem ofFrame_sent {inputs : List FrameInput} (h : ∀ input ∈ inputs, input.Admissible)
    (hround : inputs.length ≤ 2 ^ 32) {counters : FrameCounters} {arrived : Set (List UInt8)}
    (harrived : Arrives counters inputs arrived) {k : ℕ} {batch : List QueueItem}
    (hbatch : (processFrames counters inputs).2[k]? = some batch) :
    ∀ bytes ∈ ofFrame (counters.frame_id_ + UInt32.ofNat k) arrived,
      bytes ∈ wireDatagrams batch := by
  rintro bytes ⟨hmem, header, payload, hdecodes, hid⟩
  obtain ⟨sender, hsender, hbytes⟩ := harrived bytes hmem
  obtain ⟨j, hj⟩ := List.mem_iff_getElem?.mp hsender
  have hlength := length_processFrames h counters
  have hjlt := (List.getElem?_eq_some_iff.mp hj).1
  have hklt := (List.getElem?_eq_some_iff.mp hbatch).1
  rw [hlength] at hjlt hklt
  obtain ⟨firstSeq, other, hother, hframe⟩ :=
    processFrames_getElem? h counters (List.getElem?_eq_getElem hjlt)
  cases hj.symm.trans hother
  obtain ⟨headers, payloads, p⟩ := hframe.pieces (h _ (List.getElem_mem hjlt))
  obtain ⟨header', payload', hdecodes', hid'⟩ := p.frame_id hbytes
  cases hdecodes.symm.trans hdecodes'
  -- the frame ids of one round are different
  have hsame : UInt32.ofNat j = UInt32.ofNat k :=
    (UInt32.add_right_inj _).mp (hid'.symm.trans hid)
  have hjk : j = k := by
    have htoNat := congrArg UInt32.toNat hsame
    rwa [UInt32.toNat_ofNat', UInt32.toNat_ofNat', Nat.mod_eq_of_lt (by omega),
      Nat.mod_eq_of_lt (by omega)] at htoNat
  subst hjk
  cases hj.symm.trans hbatch
  exact hbytes

/-- There is a receiver that, of every run of up to `2^32` frames and whatever the network
loses, delays or doubles, rebuilds the frames that are recoverable and never makes one up. -/
theorem exists_receiver (config : VideoConfig) (hwithin : FecWithin config) :
    ∃ receive : UInt32 → Set (List UInt8) → Option (List UInt8),
      ∀ (counters : FrameCounters) (inputs : List FrameInput),
        (∀ input ∈ inputs, input.Admissible ∧ SameFec config input.config) →
        inputs.length ≤ 2 ^ 32 →
        ∀ arrived, Arrives counters inputs arrived →
          ∀ k input batch, inputs[k]? = some input →
            (processFrames counters inputs).2[k]? = some batch →
              (Recoverable input batch arrived →
                receive (counters.frame_id_ + UInt32.ofNat k) arrived = some input.frame.data) ∧
              ∀ data, receive (counters.frame_id_ + UInt32.ofNat k) arrived = some data →
                data = input.frame.data := by
  refine ⟨receiveFrame config, ?_⟩
  intro counters inputs hinputs hround arrived harrived k input batch hinput hbatch
  have hadmissible : ∀ input ∈ inputs, input.Admissible := fun other hmem => (hinputs other hmem).1
  obtain ⟨h, hfec⟩ := hinputs input (List.mem_of_getElem? hinput)
  obtain ⟨firstSeq, other, hother, hframe⟩ := processFrames_getElem? hadmissible counters hinput
  cases hbatch.symm.trans hother
  obtain ⟨headers, payloads, p⟩ := hframe.pieces h
  have hsent := ofFrame_sent hadmissible hround harrived hbatch
  -- whatever the receiver finds is the frame
  have hnone : ∀ data, receiveFrame config (counters.frame_id_ + UInt32.ofNat k) arrived =
      some data → data = input.frame.data := by
    intro data hdata
    obtain ⟨input', firstSeq', batch', hexplains⟩ := receiveFrame_eq_some hdata
    rw [hexplains.data]
    exact frame_determined hexplains.admissible h hexplains.frame_batch hframe
      (hexplains.same_fec.symm.trans hfec) (hexplains.same_fec.within hwithin)
      hexplains.recoverable hsent
  refine ⟨fun hrec => ?_, hnone⟩
  obtain ⟨received, hreceived⟩ := exists_receiveFrame
    ⟨h, hfec, hframe, p.recoverable_ofFrame.mpr hrec, hsent, rfl⟩
  rw [hreceived, hnone received hreceived]

/-- The shipped table stays within what the code has room for. -/
theorem shippedTable_fecWithin (max_payload : ℕ) :
    FecWithin ⟨max_payload, some shippedTable, 1⟩ := by
  intro total_fragments hgranted
  have hparams : getParams shippedTable 1 total_fragments = (true,
      (fecParams ⟨max_payload, some shippedTable, 1⟩ total_fragments).2.1,
      (fecParams ⟨max_payload, some shippedTable, 1⟩ total_fragments).2.2) := by
    rw [← hgranted]
    rfl
  obtain ⟨hr, hmembers⟩ := shippedTable_within hparams
  have hr := UInt8.le_iff_toNat_le.mp hr
  exact ⟨hr.trans (by decide), fun group hgroup => (hmembers group hgroup).trans (by decide)⟩

/-- A keyframe of nine fragments, for which the shipped table grants two parity datagrams. -/
def nineFragments : FrameInput :=
  ⟨⟨1, some shippedTable, 1⟩, { data := [1, 2, 3, 4, 5, 6, 7, 8, 9], keyframe := true }, 20⟩

/-- The batch of `nineFragments`, as the first of a run. -/
def nineFragmentsBatch : List QueueItem :=
  finishBatch (nineFragments.job 7) (fetchAll (datagramPlan (nineFragments.job 7)) 65534).2

/-- What arrives of it when the first and the fifth datagram are lost. -/
def twoLost : List (List UInt8) :=
  ((wireDatagrams nineFragmentsBatch).eraseIdx 4).tail

theorem exists_receiver_two_lost :
    ∃ receive : UInt32 → Set (List UInt8) → Option (List UInt8),
      receive 7 {bytes | bytes ∈ twoLost} =
        some [1, 2, 3, 4, 5, 6, 7, 8, 9] := by
  obtain ⟨receive, h⟩ := exists_receiver ⟨1, some shippedTable, 1⟩ (shippedTable_fecWithin 1)
  have hbatches : (processFrames { frame_id_ := 7, packet_seq_num_ := 65534 }
      [nineFragments]).2 = [nineFragmentsBatch] := by
    simp only [processFrames, processFrame, nineFragments]
    rfl
  refine ⟨receive, (h { frame_id_ := 7, packet_seq_num_ := 65534 } [nineFragments] ?_ ?_ _ ?_ 0
    nineFragments nineFragmentsBatch rfl ?_).1 ?_⟩
  · intro input hinput
    cases List.mem_singleton.mp hinput
    exact ⟨⟨by decide, by decide, by decide, by decide⟩, rfl, rfl⟩
  · decide
  · intro bytes hbytes
    rw [Set.mem_ofPred_eq] at hbytes
    rw [hbatches]
    exact ⟨_, List.mem_singleton_self _,
      (List.eraseIdx_sublist _ _).subset (List.mem_of_mem_tail hbytes)⟩
  · rw [hbatches]
    exact List.getElem?_cons_zero
  · -- the group has lost the fragments 0 and 4, and both parity datagrams arrived
    have hparams : nineFragments.params = (true, 1, 2) := by decide +kernel
    have harrived : ∀ i < 11, i ≠ 0 → i ≠ 4 →
        ArrivedAt nineFragmentsBatch {bytes | bytes ∈ twoLost} i := by
      have hall : ∀ i < 11, i ≠ 0 → i ≠ 4 → (nineFragmentsBatch[i]?.map fun item =>
          decide (item.bytes ∈ twoLost)) =
            some true := by decide +kernel
      intro i hi hfirst hfifth
      obtain ⟨item, hget, hmem⟩ := Option.map_eq_some_iff.mp (hall i hi hfirst hfifth)
      refine ⟨item, hget, ?_⟩
      rw [Set.mem_ofPred_eq]
      exact of_decide_eq_true hmem
    have hlost : lostFragments nineFragments nineFragmentsBatch
        {bytes | bytes ∈ twoLost} ⊆ {0, 4} := by
      intro i hi
      obtain ⟨hlt, hnot⟩ := mem_lostFragments.mp hi
      have hnine : nineFragments.fragments = 9 := by decide
      by_contra hother
      simp only [Finset.mem_insert, Finset.mem_singleton, not_or] at hother
      exact hnot (harrived i (by omega) hother.1 hother.2)
    have hkept : {0, 1} ⊆ keptParity nineFragments nineFragmentsBatch
        {bytes | bytes ∈ twoLost} := by
      have hcount : nineFragments.parityCount = 2 := by decide +kernel
      intro k hk
      simp only [Finset.mem_insert, Finset.mem_singleton] at hk
      refine mem_keptParity.mpr ⟨by omega, ?_⟩
      have hnine : nineFragments.fragments = 9 := by decide
      exact harrived _ (by omega) (by omega) (by omega)
    rw [Recoverable, hparams, if_pos rfl]
    intro group hgroup
    have hzero : group = 0 := Nat.lt_one_iff.mp hgroup
    calc (lostMembers _ nineFragments.fragments _ group).card
        ≤ ({0, 4} : Finset ℕ).card :=
          Finset.card_le_card fun i hi => hlost (Finset.mem_filter.mp hi).2
      _ = (survivingParity {0, 1} 1 group).card := by rw [hzero]; decide
      _ ≤ _ := Finset.card_le_card (Finset.filter_subset_filter _ hkept)

end TeleopBridge.Udp
