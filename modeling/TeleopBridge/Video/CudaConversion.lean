import Mathlib.Tactic
import TeleopBridge.Video.CudaResources

/-!
# What a Conversion Leaves

The device may run the threads of the two kernels in any order and mix their accesses. When
it reports success, the output holds the NV12 image of the picture that the source holds, be
that planar or packed, and no other byte has changed.

## Key Results

- `kernelThreads_eq`: a kernel in 32 bit arithmetic is its body on the positions of a
  rectangle, as long as the planes fit the range of an `int`.
- `convert_writes_nv12`: the bytes after a conversion.
-/

namespace TeleopBridge.Video

open Support

/-! ## Indices -/

/-- A signed index that holds a natural number. -/
structure HoldsIndex (i : Int32) (n : ℕ) : Prop where
  bits : i.toBitVec.toNat = n
  lt : n < 2 ^ 31

namespace HoldsIndex

variable {i j : Int32} {m n : ℕ}

/-- Below `2 ^ 31` the bits of an index are its value. -/
theorem toInt_eq (h : HoldsIndex i n) : i.toInt = n := by
  show i.toBitVec.toInt = n
  rw [BitVec.toInt_eq_toNat_of_lt (by rw [h.bits]; have := h.lt; omega), h.bits]

/-- Indices compare as the numbers that they hold. -/
theorem le_iff (hi : HoldsIndex i m) (hj : HoldsIndex j n) : i ≥ j ↔ n ≤ m := by
  show j ≤ i ↔ n ≤ m
  rw [Int32.le_iff_toInt_le, hi.toInt_eq, hj.toInt_eq, Int.ofNat_le]

/-- A sum holds as long as it stays below `2 ^ 31`. -/
theorem add (hi : HoldsIndex i m) (hj : HoldsIndex j n) (hlt : m + n < 2 ^ 31) :
    HoldsIndex (i + j) (m + n) := by
  refine ⟨?_, hlt⟩
  rw [Int32.toBitVec_add, BitVec.toNat_add, hi.bits, hj.bits, Nat.mod_eq_of_lt (by omega)]

/-- Likewise a product. -/
theorem mul (hi : HoldsIndex i m) (hj : HoldsIndex j n) (hlt : m * n < 2 ^ 31) :
    HoldsIndex (i * j) (m * n) := by
  refine ⟨?_, hlt⟩
  rw [Int32.toBitVec_mul, BitVec.toNat_mul, hi.bits, hj.bits, Nat.mod_eq_of_lt (by omega)]

theorem one : HoldsIndex 1 1 := ⟨rfl, by decide⟩

theorem two : HoldsIndex 2 2 := ⟨rfl, by decide⟩

theorem four : HoldsIndex 4 4 := ⟨rfl, by decide⟩

/-- A dimension below `2 ^ 31` is cast without a loss. -/
theorem of_toNat {w : UInt32} (hlt : w.toNat < 2 ^ 31) : HoldsIndex w.toInt32 w.toNat :=
  ⟨rfl, hlt⟩

theorem toUInt32 (h : HoldsIndex i n) : i.toUInt32.toNat = n := h.bits

/-- A signed division by two of an index that is not negative. -/
theorem half (h : HoldsIndex i n) : HoldsIndex (i / 2) (n / 2) := by
  have hlt := h.lt
  refine ⟨?_, by omega⟩
  -- the quotient rounds towards zero, which is down here
  have hdiv : (i / 2).toInt = (n / 2 : ℕ) := by
    rw [Int32.toInt_div, h.toInt_eq, two.toInt_eq, Int.bmod_eq_of_le]
    · rfl
    · have : (n : ℤ).tdiv (2 : ℕ) = (n / 2 : ℕ) := rfl
      omega
    · have : (n : ℤ).tdiv (2 : ℕ) = (n / 2 : ℕ) := rfl
      omega
  -- back to the bits: the sign bit is clear
  have hbits : ((i / 2).toBitVec.toInt) = (n / 2 : ℕ) := hdiv
  rw [BitVec.toInt_eq_toNat_cond] at hbits
  split at hbits <;> omega

/-- The arithmetic shift divides by two as well. -/
theorem shiftRight_one (h : HoldsIndex i n) : HoldsIndex (i >>> 1) (n / 2) := by
  have hlt := h.lt
  refine ⟨?_, by omega⟩
  -- the shift keeps the sign, which is clear
  have hshift : (i >>> 1).toBitVec.toInt = (n / 2 : ℕ) := by
    rw [Int32.toBitVec_shiftRight, BitVec.sshiftRight_eq', BitVec.toInt_sshiftRight]
    have : (BitVec.smod (Int32.toBitVec 1) 32).toNat = 1 := by decide
    have hi : i.toBitVec.toInt = n := h.toInt_eq
    rw [this, hi, Int.shiftRight_eq_div_pow]
    rfl
  rw [BitVec.toInt_eq_toNat_cond] at hshift
  split at hshift <;> omega

/-- The kernels ask for the parity of a column by its last bit. -/
theorem and_one_ne_zero (h : HoldsIndex i n) : i &&& 1 ≠ 0 ↔ n % 2 = 1 := by
  have hbits : (i &&& 1).toBitVec.toNat = n % 2 := by
    rw [Int32.toBitVec_and, BitVec.toNat_and, h.bits]
    exact Nat.and_one_is_mod n
  have hzero : i &&& 1 = 0 ↔ n % 2 = 0 := by
    rw [← hbits]
    constructor
    · intro heq
      rw [heq]
      rfl
    · intro heq
      exact Int32.toBitVec_inj.mp (BitVec.eq_of_toNat_eq heq)
  rw [Ne, hzero]
  omega

/-- The position of a thread, which the kernel computes from the built-in indices. -/
theorem globalIndex {block size thread : ℕ} (hlt : block * size + thread < 2 ^ 31)
    (hsize : size < 2 ^ 31) (hpos : 0 < size) :
    HoldsIndex (Video.globalIndex block size thread) (block * size + thread) := by
  refine ⟨?_, hlt⟩
  show (UInt32.ofNat block * UInt32.ofNat size + UInt32.ofNat thread).toNat = _
  have hblock : block ≤ block * size := Nat.le_mul_of_pos_right block hpos
  rw [UInt32.toNat_add, UInt32.toNat_mul, UInt32.toNat_ofNat', UInt32.toNat_ofNat',
    UInt32.toNat_ofNat', Nat.mod_eq_of_lt (a := block) (by omega),
    Nat.mod_eq_of_lt (a := size) (by omega), Nat.mod_eq_of_lt (a := thread) (by omega),
    Nat.mod_eq_of_lt (a := block * size) (by omega), Nat.mod_eq_of_lt (by omega)]

end HoldsIndex
/-- The blocks of one axis, as the source counts them. -/
theorem HoldsIndex.blocks {i : Int32} {n size : ℕ} (h : HoldsIndex i n) (hpos : 0 < size)
    (hsize : size < 2 ^ 31) :
    ((i.toUInt32 + UInt32.ofNat size - 1) / UInt32.ofNat size).toNat = blocksFor n size := by
  have hlt := h.lt
  have hofNat : (UInt32.ofNat size).toNat = size := by
    rw [UInt32.toNat_ofNat', Nat.mod_eq_of_lt (by omega)]
  -- the sum of the size and the block does not wrap
  have hsum : (i.toUInt32 + UInt32.ofNat size).toNat = n + size := by
    rw [UInt32.toNat_add, h.toUInt32, hofNat, Nat.mod_eq_of_lt (by omega)]
  -- nor does the subtraction behind it
  have hle : (1 : UInt32) ≤ i.toUInt32 + UInt32.ofNat size := by
    rw [UInt32.le_iff_toNat_le, hsum]
    show 1 ≤ n + size
    omega
  rw [UInt32.toNat_div, UInt32.toNat_sub_of_le _ _ hle, hsum, hofNat]
  rfl

/-- The grid of the source covers the plane by blocks of 32 by 8 threads. -/
theorem kernelShape_eq {width height : Int32} {w h : ℕ} (hw : HoldsIndex width w)
    (hh : HoldsIndex height h) : kernelShape width height = GridShape.covering w h 32 8 := by
  have hx := hw.blocks (show 0 < 32 by decide) (by decide)
  have hy := hh.blocks (show 0 < 8 by decide) (by decide)
  show GridShape.mk _ _ 32 8 = ⟨_, _, 32, 8⟩
  rw [← hx, ← hy]
  rfl

/-! ## Pictures -/

/-- A picture with a chroma sample for every two pixels of a row, by row and column. -/
structure Yuv422Image where
  luma : ℕ → ℕ → UInt8
  blue : ℕ → ℕ → UInt8
  red : ℕ → ℕ → UInt8

/-- A picture with a chroma sample for every two by two pixels. -/
structure Nv12Image where
  luma : ℕ → ℕ → UInt8
  blue : ℕ → ℕ → UInt8
  red : ℕ → ℕ → UInt8

/-- The mean of two samples, rounded up. -/
def meanUp (a b : UInt8) : UInt8 := UInt8.ofNat ((a.toNat + b.toNat + 1) / 2)

/-- The 32-bit average of two bytes does not wrap. -/
theorem averageUp_eq (a b : UInt8) : averageUp a b = meanUp a b := by
  have ha := a.toNat_lt
  have hb := b.toNat_lt
  apply UInt8.toNat_inj.mp
  simp only [averageUp, meanUp, UInt32.toNat_toUInt8, UInt32.toNat_shiftRight,
    UInt32.toNat_add, UInt8.toNat_toUInt32, UInt8.toNat_ofNat', UInt32.toNat_ofNat,
    Nat.shiftRight_eq_div_pow, Nat.reduceMod, Nat.reducePow]
  omega

/-- The chroma samples of two rows become one. -/
def Yuv422Image.toNv12 (image : Yuv422Image) : Nv12Image where
  luma := image.luma
  blue row col := meanUp (image.blue (2 * row) col) (image.blue (2 * row + 1) col)
  red row col := meanUp (image.red (2 * row) col) (image.red (2 * row + 1) col)

/-! ## Pictures in memory -/

/-- The cell of a plane. -/
def planeCell (base : ℤ) (pitch row offset : ℕ) : ℤ := base + (row * pitch + offset : ℕ)

/-- The bytes of a plane. -/
def planeBytes (base : ℤ) (rows pitch : ℕ) : Set ℤ :=
  {a | base ≤ a ∧ a < base + (rows * pitch : ℕ)}

/-- The rows of a plane fit its pitch, and an `int` can index past it by a block. -/
structure PlaneFits (rows row_bytes pitch : ℕ) : Prop where
  pitch_pos : 0 < pitch
  row_bytes_le : row_bytes ≤ pitch
  size_le : rows * pitch ≤ 2 ^ 31 - 32

namespace SourceFormat

variable (format : SourceFormat) (src : PlaneParams) (frame : EglFrame)

/-- Where the source has the luma sample of a pixel. -/
def lumaCell (row col : ℕ) : ℤ :=
  match format with
  | .planarYuv422 => planeCell (frame.pPitch 0) (src.pitch 0).toNat row col
  | .packedYuyv => planeCell (frame.pPitch 0) (src.pitch 0).toNat row (2 * col)

def blueCell (row col : ℕ) : ℤ :=
  match format with
  | .planarYuv422 => planeCell (frame.pPitch 1) (src.pitch 1).toNat row col
  | .packedYuyv => planeCell (frame.pPitch 0) (src.pitch 0).toNat row (4 * col + 1)

def redCell (row col : ℕ) : ℤ :=
  match format with
  | .planarYuv422 => planeCell (frame.pPitch 2) (src.pitch 2).toNat row col
  | .packedYuyv => planeCell (frame.pPitch 0) (src.pitch 0).toNat row (4 * col + 3)

/-- The bytes of the source's planes. -/
def bytes : Set ℤ :=
  match format with
  | .planarYuv422 =>
      planeBytes (frame.pPitch 0) (src.height 0).toNat (src.pitch 0).toNat ∪
        (planeBytes (frame.pPitch 1) (src.height 0).toNat (src.pitch 1).toNat ∪
          planeBytes (frame.pPitch 2) (src.height 0).toNat (src.pitch 2).toNat)
  | .packedYuyv => planeBytes (frame.pPitch 0) (src.height 0).toNat (src.pitch 0).toNat

/-- What the allocation of a source promises about its planes. -/
def Layout : Prop :=
  let width := (src.width 0).toNat
  let height := (src.height 0).toNat
  match format with
  | .planarYuv422 =>
      (src.width 1).toNat = width / 2 ∧ PlaneFits height width (src.pitch 0).toNat ∧
        PlaneFits height (width / 2) (src.pitch 1).toNat ∧
        PlaneFits height (width / 2) (src.pitch 2).toNat
  | .packedYuyv => PlaneFits height (2 * width) (src.pitch 0).toNat

/-- The source holds the picture. -/
structure Holds (memory : ℤ → UInt8) (image : Yuv422Image) : Prop where
  luma : ∀ row < (src.height 0).toNat, ∀ col < (src.width 0).toNat,
    memory (format.lumaCell src frame row col) = image.luma row col
  blue : ∀ row < (src.height 0).toNat, ∀ col < (src.width 0).toNat / 2,
    memory (format.blueCell src frame row col) = image.blue row col
  red : ∀ row < (src.height 0).toNat, ∀ col < (src.width 0).toNat / 2,
    memory (format.redCell src frame row col) = image.red row col

end SourceFormat

/-- What the allocation of an output promises about its planes. -/
structure OutputLayout (dst : PlaneParams) : Prop where
  luma : PlaneFits (dst.height 0).toNat (dst.width 0).toNat (dst.pitch 0).toNat
  chroma : PlaneFits ((dst.height 0).toNat / 2) (dst.width 0).toNat (dst.pitch 1).toNat

/-- The planes of the output overlap neither each other nor the source's. -/
structure PlanesApart (format : SourceFormat) (src dst : PlaneParams)
    (src_frame dst_frame : EglFrame) : Prop where
  luma : ∀ a ∈ planeBytes (dst_frame.pPitch 0) (dst.height 0).toNat (dst.pitch 0).toNat,
    a ∉ format.bytes src src_frame
  chroma : ∀ a ∈ planeBytes (dst_frame.pPitch 1) ((dst.height 0).toNat / 2) (dst.pitch 1).toNat,
    a ∉ format.bytes src src_frame
  output : ∀ a ∈ planeBytes (dst_frame.pPitch 0) (dst.height 0).toNat (dst.pitch 0).toNat,
    a ∉ planeBytes (dst_frame.pPitch 1) ((dst.height 0).toNat / 2) (dst.pitch 1).toNat

/-- The output holds the picture. -/
structure Nv12Holds (dst : PlaneParams) (frame : EglFrame) (memory : ℤ → UInt8)
    (image : Nv12Image) : Prop where
  luma : ∀ row < (dst.height 0).toNat, ∀ col < (dst.width 0).toNat,
    memory (planeCell (frame.pPitch 0) (dst.pitch 0).toNat row col) = image.luma row col
  blue : ∀ row < (dst.height 0).toNat / 2, ∀ col < (dst.width 0).toNat / 2,
    memory (planeCell (frame.pPitch 1) (dst.pitch 1).toNat row (2 * col)) = image.blue row col
  red : ∀ row < (dst.height 0).toNat / 2, ∀ col < (dst.width 0).toNat / 2,
    memory (planeCell (frame.pPitch 1) (dst.pitch 1).toNat row (2 * col + 1)) = image.red row col

/-! ## Cells of planes -/

section Planes

variable {base : ℤ} {rows row_bytes pitch row offset row' offset' : ℕ}

/-- A byte of a row is inside the plane. -/
theorem PlaneFits.index_lt (hfits : PlaneFits rows row_bytes pitch) (hrow : row < rows)
    (hoffset : offset < row_bytes) : row * pitch + offset < rows * pitch := by
  have hle := hfits.row_bytes_le
  calc row * pitch + offset < row * pitch + pitch := by omega
    _ = (row + 1) * pitch := (Nat.succ_mul row pitch).symm
    _ ≤ rows * pitch := Nat.mul_le_mul_right pitch hrow

theorem PlaneFits.rows_le (hfits : PlaneFits rows row_bytes pitch) : rows ≤ 2 ^ 31 - 32 :=
  (Nat.le_mul_of_pos_right rows hfits.pitch_pos).trans hfits.size_le

theorem PlaneFits.row_bytes_le_max (hfits : PlaneFits rows row_bytes pitch) (hrows : 0 < rows) :
    row_bytes ≤ 2 ^ 31 - 32 :=
  hfits.row_bytes_le.trans ((Nat.le_mul_of_pos_left pitch hrows).trans hfits.size_le)

/-- A pitch is at most the size of its plane. -/
theorem PlaneFits.pitch_holdsIndex {w : UInt32} (hfits : PlaneFits rows row_bytes w.toNat)
    (hrows : 0 < rows) : HoldsIndex w.toInt32 w.toNat := by
  have := (Nat.le_mul_of_pos_left w.toNat hrows).trans hfits.size_le
  exact HoldsIndex.of_toNat (by omega)

/-- A cell that a row has is a byte of the plane. -/
theorem PlaneFits.mem_planeBytes (hfits : PlaneFits rows row_bytes pitch) (hrow : row < rows)
    (hoffset : offset < row_bytes) :
    planeCell base pitch row offset ∈ planeBytes base rows pitch := by
  have hlt := hfits.index_lt hrow hoffset
  constructor
  · unfold planeCell
    omega
  · unfold planeCell
    omega

theorem planeCell_add (n : ℕ) :
    planeCell base pitch row offset + n = planeCell base pitch row (offset + n) := by
  unfold planeCell
  push_cast
  ring

/-- Different places of a plane are different cells. -/
theorem planeCell_inj (hoffset : offset < pitch) (hoffset' : offset' < pitch)
    (h : planeCell base pitch row offset = planeCell base pitch row' offset') :
    row = row' ∧ offset = offset' := by
  have heq : row * pitch + offset = row' * pitch + offset' := by
    unfold planeCell at h
    omega
  obtain ⟨hrow, hoff⟩ := eq_div_mod row hoffset
  obtain ⟨hrow', hoff'⟩ := eq_div_mod row' hoffset'
  rw [heq] at hrow hoff
  exact ⟨hrow.trans hrow'.symm, hoff.trans hoff'.symm⟩

end Planes

/-! ## Kernels as bodies -/

section Bodies

/-- One luma sample is copied. -/
def lumaBody (cell : ℕ → ℕ → ℤ) (base : ℤ) (pitch col row : ℕ) : KernelThread :=
  .load (cell row col) fun value => .store (planeCell base pitch row col) value .done

/-- Two pairs of chroma samples become one; all are loaded first. -/
def planarChromaBody (blue red : ℕ → ℕ → ℤ) (base : ℤ) (pitch col row : ℕ) : KernelThread :=
  .load (blue (2 * row) col) fun u0 =>
  .load (blue (2 * row + 1) col) fun u1 =>
  .load (red (2 * row) col) fun v0 =>
  .load (red (2 * row + 1) col) fun v1 =>
  .store (planeCell base pitch row (2 * col)) (averageUp u0 u1)
    (.store (planeCell base pitch row (2 * col + 1)) (averageUp v0 v1) .done)

/-- Two pairs of chroma samples become one; the first pair is done before the second. -/
def packedChromaBody (blue red : ℕ → ℕ → ℤ) (base : ℤ) (pitch col row : ℕ) : KernelThread :=
  .load (blue (2 * row) col) fun u0 =>
  .load (blue (2 * row + 1) col) fun u1 =>
  .store (planeCell base pitch row (2 * col)) (averageUp u0 u1)
    (.load (red (2 * row) col) fun v0 =>
    .load (red (2 * row + 1) col) fun v1 =>
    .store (planeCell base pitch row (2 * col + 1)) (averageUp v0 v1) .done)

def chromaBody : SourceFormat → (ℕ → ℕ → ℤ) → (ℕ → ℕ → ℤ) → ℤ → ℕ → ℕ → ℕ → KernelThread
  | .planarYuv422 => planarChromaBody
  | .packedYuyv => packedChromaBody

variable {width height : ℕ}

/-- The grid sticks out by less than a block, so that no index wraps. -/
theorem covering_x_lt {t : GridThread} (hhas : (GridShape.covering width height 32 8).Has t) :
    (GridShape.covering width height 32 8).x t < width + 31 := by
  obtain ⟨hbx, -, htx, -⟩ := hhas
  have hblocks : t.block_x < (width + 32 - 1) / 32 := hbx
  have hthread : t.thread_x < 32 := htx
  show t.block_x * 32 + t.thread_x < width + 31
  omega

/-- Its rows stick out by less than a block as well. -/
theorem covering_y_lt {t : GridThread} (hhas : (GridShape.covering width height 32 8).Has t) :
    (GridShape.covering width height 32 8).y t < height + 31 := by
  obtain ⟨-, hby, -, hty⟩ := hhas
  have hblocks : t.block_y < (height + 8 - 1) / 8 := hby
  have hthread : t.thread_y < 8 := hty
  show t.block_y * 8 + t.thread_y < height + 31
  omega

/-- A kernel that guards its body in 32 bit arithmetic runs it on a rectangle. -/
theorem kernelThreads_eq {kernel : Int32 → Int32 → KernelThread}
    {body : ℕ → ℕ → KernelThread} (hwidth : width ≤ 2 ^ 31 - 32) (hheight : height ≤ 2 ^ 31 - 32)
    (hkernel : ∀ i j x y, HoldsIndex i x → HoldsIndex j y →
      kernel i j = if x < width ∧ y < height then body x y else .done) :
    kernelThreads (GridShape.covering width height 32 8) kernel =
      gridPrograms (GridShape.covering width height 32 8) width height body := by
  funext t
  unfold kernelThreads gridPrograms
  -- a thread of the grid computes its own indices; the others do not exist
  by_cases hhas : (GridShape.covering width height 32 8).Has t
  · have hx := covering_x_lt hhas
    have hy := covering_y_lt hhas
    have hi : HoldsIndex (globalIndex t.block_x 32 t.thread_x)
        ((GridShape.covering width height 32 8).x t) :=
      HoldsIndex.globalIndex (by have : t.block_x * 32 + t.thread_x < width + 31 := hx; omega)
        (by decide) (by decide)
    have hj : HoldsIndex (globalIndex t.block_y 8 t.thread_y)
        ((GridShape.covering width height 32 8).y t) :=
      HoldsIndex.globalIndex (by have : t.block_y * 8 + t.thread_y < height + 31 := hy; omega)
        (by decide) (by decide)
    rw [if_pos hhas]
    refine (hkernel _ _ _ _ hi hj).trans ?_
    simp only [hhas, true_and]
  · rw [if_neg hhas, if_neg fun h => hhas h.1]

variable {src_base dst_base base_v : ℤ} {w h sp dp vp i j : Int32}
  {src_pitch dst_pitch v_pitch x y : ℕ}

/-- The guard of a kernel. -/
theorem guard_iff (hw : HoldsIndex w width) (hh : HoldsIndex h height) (hi : HoldsIndex i x)
    (hj : HoldsIndex j y) : ¬(i ≥ w ∨ j ≥ h) ↔ x < width ∧ y < height := by
  rw [hi.le_iff hw, hj.le_iff hh]
  omega

/-- The guard of a kernel is the guard of the grid program. -/
theorem guarded_eq (hw : HoldsIndex w width) (hh : HoldsIndex h height) (hi : HoldsIndex i x)
    (hj : HoldsIndex j y) {p q : KernelThread} (hpq : x < width → y < height → p = q) :
    (if i ≥ w ∨ j ≥ h then .done else p) = if x < width ∧ y < height then q else .done := by
  have hguard := guard_iff hw hh hi hj
  by_cases hin : x < width ∧ y < height
  · rw [if_neg (hguard.mpr hin), if_pos hin, hpq hin.1 hin.2]
  · rw [if_pos (by by_contra hnot; exact hin (hguard.mp hnot)), if_neg hin]

/-- A row times a pitch. -/
theorem row_holdsIndex (hfits : PlaneFits height width src_pitch)
    (hp : HoldsIndex sp src_pitch) (hj : HoldsIndex j y) (hy : y < height) :
    HoldsIndex (j * sp) (y * src_pitch) := by
  have hle := (Nat.mul_le_mul_right src_pitch hy.le).trans hfits.size_le
  exact hj.mul hp (by omega)

/-- A cell of a plane, as most kernels compute it. -/
theorem cell_eq (hfits : PlaneFits height width src_pitch) (hp : HoldsIndex sp src_pitch)
    (hi : HoldsIndex i x) (hj : HoldsIndex j y) (hx : x < width) (hy : y < height) :
    src_base + (j * sp + i).toInt = planeCell src_base src_pitch y x := by
  have hlt := hfits.index_lt hy hx
  have hle := hfits.size_le
  rw [((row_holdsIndex hfits hp hj hy).add hi (by omega)).toInt_eq]
  rfl

/-- A cell of a plane by a pointer to the row first. -/
theorem row_cell_eq (hfits : PlaneFits height width src_pitch) (hp : HoldsIndex sp src_pitch)
    (hi : HoldsIndex i x) (hj : HoldsIndex j y) (hy : y < height) :
    src_base + (j * sp).toInt + i.toInt = planeCell src_base src_pitch y x := by
  rw [(row_holdsIndex hfits hp hj hy).toInt_eq, hi.toInt_eq, planeCell]
  push_cast
  ring

variable {src dst : PlaneParams} {src_frame dst_frame : EglFrame} {format : SourceFormat}
  {memory : ℤ → UInt8}

/-- The planar luma kernel copies a byte. -/
theorem copyYKernel_eq (hsrc : PlaneFits height width src_pitch)
    (hdst : PlaneFits height width dst_pitch) (hw : HoldsIndex w width) (hh : HoldsIndex h height)
    (hsp : HoldsIndex sp src_pitch) (hdp : HoldsIndex dp dst_pitch) (hi : HoldsIndex i x)
    (hj : HoldsIndex j y) :
    copyYKernel src_base dst_base w h sp dp i j =
      if x < width ∧ y < height then
        lumaBody (planeCell src_base src_pitch) dst_base dst_pitch x y
      else .done := by
  refine guarded_eq hw hh hi hj fun hx hy => ?_
  rw [cell_eq hsrc hsp hi hj hx hy, cell_eq hdst hdp hi hj hx hy]
  rfl

/-- The packed luma kernel copies the first or the third byte of a pair. -/
theorem yuyvToNv12YKernel_eq (hsrc : PlaneFits height (2 * width) src_pitch)
    (hdst : PlaneFits height width dst_pitch) (hw : HoldsIndex w width) (hh : HoldsIndex h height)
    (hsp : HoldsIndex sp src_pitch) (hdp : HoldsIndex dp dst_pitch) (hi : HoldsIndex i x)
    (hj : HoldsIndex j y) :
    yuyvToNv12YKernel src_base dst_base w h sp dp i j =
      if x < width ∧ y < height then
        lumaBody (fun row col => planeCell src_base src_pitch row (2 * col)) dst_base dst_pitch x y
      else .done := by
  refine guarded_eq hw hh hi hj fun hx hy => ?_
  have hlt := hsrc.index_lt hy (show 2 * x < 2 * width by omega)
  have hle := hsrc.size_le
  -- four bytes for each pair of pixels
  have hhalf : HoldsIndex ((i >>> 1) * 4) (x / 2 * 4) :=
    hi.shiftRight_one.mul HoldsIndex.four (by omega)
  -- an odd pixel has its sample two bytes behind the even one of its pair
  have haddr : (if i &&& 1 ≠ 0 then
      src_base + (j * sp).toInt + ((i >>> 1) * 4).toInt + 2
      else src_base + (j * sp).toInt + ((i >>> 1) * 4).toInt) =
      planeCell src_base src_pitch y (2 * x) := by
    rw [row_cell_eq hsrc hsp hhalf hj hy]
    by_cases hodd : x % 2 = 1
    · rw [if_pos (hi.and_one_ne_zero.mpr hodd)]
      have hsplit : planeCell src_base src_pitch y (x / 2 * 4) + 2 =
          planeCell src_base src_pitch y (x / 2 * 4 + 2) := planeCell_add 2
      rw [show x / 2 * 4 + 2 = 2 * x by omega] at hsplit
      exact hsplit
    · rw [if_neg fun hnot => hodd (hi.and_one_ne_zero.mp hnot),
        show x / 2 * 4 = 2 * x by omega]
  simp only [haddr, cell_eq hdst hdp hi hj hx hy]
  rfl

/-- The two rows whose chroma samples become one. -/
theorem chroma_rows (hj : HoldsIndex j y) (hy : y < height / 2) (hheight : height ≤ 2 ^ 31 - 32) :
    HoldsIndex (j * 2) (2 * y) ∧ HoldsIndex (j * 2 + 1) (2 * y + 1) := by
  have htwo : HoldsIndex (j * 2) (2 * y) := by
    rw [Nat.mul_comm]
    exact hj.mul HoldsIndex.two (by omega)
  exact ⟨htwo, htwo.add HoldsIndex.one (by omega)⟩

/-- The planar chroma kernel averages two rows of two planes. -/
theorem yuv422PlanarToNv12UvKernel_eq (hu : PlaneFits height (width / 2) src_pitch)
    (hv : PlaneFits height (width / 2) v_pitch) (hdst : PlaneFits (height / 2) width dst_pitch)
    (hw : HoldsIndex w (width / 2)) (hh : HoldsIndex h (height / 2))
    (hsp : HoldsIndex sp src_pitch) (hvp : HoldsIndex vp v_pitch) (hdp : HoldsIndex dp dst_pitch)
    (hi : HoldsIndex i x) (hj : HoldsIndex j y) :
    yuv422PlanarToNv12UvKernel src_base base_v dst_base w h sp vp dp i j =
      if x < width / 2 ∧ y < height / 2 then
        planarChromaBody (planeCell src_base src_pitch) (planeCell base_v v_pitch) dst_base
          dst_pitch x y
      else .done := by
  refine guarded_eq hw hh hi hj fun hx hy => ?_
  -- a row of the output takes two rows of the source
  obtain ⟨hj0, hj1⟩ := chroma_rows hj hy hu.rows_le
  have hrow0 : 2 * y < height := by omega
  have hrow1 : 2 * y + 1 < height := by omega
  have hx2 : HoldsIndex (i * 2) (2 * x) := by
    have := hi.lt
    have := hdst.row_bytes_le_max (by omega)
    rw [Nat.mul_comm]
    exact hi.mul HoldsIndex.two (by omega)
  -- both samples of the pair are stored side by side
  have huv : dst_base + (j * dp).toInt + (i * 2).toInt = planeCell dst_base dst_pitch y (2 * x) :=
    row_cell_eq hdst hdp hx2 hj hy
  have huv1 : planeCell dst_base dst_pitch y (2 * x) + 1 =
      planeCell dst_base dst_pitch y (2 * x + 1) := planeCell_add 1
  simp only [huv, cell_eq hu hsp hi hj0 hx hrow0, cell_eq hu hsp hi hj1 hx hrow1,
    cell_eq hv hvp hi hj0 hx hrow0, cell_eq hv hvp hi hj1 hx hrow1]
  rw [planarChromaBody, ← huv1]

/-- The packed chroma kernel averages two rows of one plane. -/
theorem yuyvToNv12UvKernel_eq (hsrc : PlaneFits height (2 * width) src_pitch)
    (hdst : PlaneFits (height / 2) width dst_pitch) (hw : HoldsIndex w (width / 2))
    (hh : HoldsIndex h (height / 2)) (hsp : HoldsIndex sp src_pitch)
    (hdp : HoldsIndex dp dst_pitch) (hi : HoldsIndex i x) (hj : HoldsIndex j y) :
    yuyvToNv12UvKernel src_base dst_base w h sp dp i j =
      if x < width / 2 ∧ y < height / 2 then
        packedChromaBody (fun row col => planeCell src_base src_pitch row (4 * col + 1))
          (fun row col => planeCell src_base src_pitch row (4 * col + 3)) dst_base dst_pitch x y
      else .done := by
  refine guarded_eq hw hh hi hj fun hx hy => ?_
  -- a row of the output takes two rows of the source
  obtain ⟨hj0, hj1⟩ := chroma_rows hj hy hsrc.rows_le
  have hrow0 : 2 * y < height := by omega
  have hrow1 : 2 * y + 1 < height := by omega
  have hmax := hsrc.row_bytes_le_max (by omega)
  have hx2 : HoldsIndex (i * 2) (2 * x) := by
    rw [Nat.mul_comm]
    exact hi.mul HoldsIndex.two (by omega)
  -- a pair of pixels has four bytes
  have hx4 : HoldsIndex (i * 4) (4 * x) := by
    rw [Nat.mul_comm]
    exact hi.mul HoldsIndex.four (by omega)
  have huv : dst_base + (j * dp).toInt + (i * 2).toInt = planeCell dst_base dst_pitch y (2 * x) :=
    row_cell_eq hdst hdp hx2 hj hy
  have huv1 : planeCell dst_base dst_pitch y (2 * x) + 1 =
      planeCell dst_base dst_pitch y (2 * x + 1) := planeCell_add 1
  -- the pairs of the two rows, of which it loads the second and the fourth byte
  have hpair0 : src_base + (j * 2 * sp).toInt + (i * 4).toInt =
      planeCell src_base src_pitch (2 * y) (4 * x) := row_cell_eq hsrc hsp hx4 hj0 hrow0
  have hpair1 : src_base + ((j * 2 + 1) * sp).toInt + (i * 4).toInt =
      planeCell src_base src_pitch (2 * y + 1) (4 * x) := row_cell_eq hsrc hsp hx4 hj1 hrow1
  have hshift : ∀ row (n : ℕ), planeCell src_base src_pitch row (4 * x) + n =
      planeCell src_base src_pitch row (4 * x + n) := fun row n => planeCell_add n
  simp only [huv, hpair0, hpair1]
  rw [packedChromaBody, ← huv1, ← hshift (2 * y) 1, ← hshift (2 * y + 1) 1, ← hshift (2 * y) 3,
    ← hshift (2 * y + 1) 3]
  rfl

end Bodies

/-! ## Bodies alone -/

section Alone

variable {width height pitch col row : ℕ} {base : ℤ} {cell blue red : ℕ → ℕ → ℤ}
  {reads : Set ℤ} {memory : ℤ → UInt8} {format : SourceFormat}

@[simp] theorem lumaBody_alone :
    (lumaBody cell base pitch col row).alone memory (planeCell base pitch row col) =
      memory (cell row col) := by
  simp only [lumaBody, ThreadProgram.alone, Function.update_self]

theorem lumaBody_gridBody (hpitch : width ≤ pitch)
    (hreads : ∀ col < width, ∀ row < height, cell row col ∈ reads)
    (hunread : ∀ col < width, ∀ row < height, planeCell base pitch row col ∉ reads) :
    GridBody width height reads (fun col row => {planeCell base pitch row col})
      (lumaBody cell base pitch) where
  within col hcol row hrow :=
    ThreadProgram.within_load (hreads col hcol row hrow) fun _ =>
      ThreadProgram.within_store rfl trivial
  unread col hcol row hrow a ha := by
    rw [Set.mem_singleton_iff.mp ha]
    exact hunread col hcol row hrow
  single col hcol row _ col' hcol' row' _ a ha ha' := by
    obtain ⟨hrow, hoffset⟩ := planeCell_inj (by omega) (by omega)
      ((Set.mem_singleton_iff.mp ha).symm.trans (Set.mem_singleton_iff.mp ha'))
    exact ⟨hoffset, hrow⟩

/-- The two bytes that a pair of chroma samples takes. -/
def chromaCells (base : ℤ) (pitch col row : ℕ) : Set ℤ :=
  {planeCell base pitch row (2 * col), planeCell base pitch row (2 * col + 1)}

/-- The two bytes of a pair are different. -/
theorem planeCell_ne_succ (n : ℕ) :
    planeCell base pitch row n ≠ planeCell base pitch row (n + 1) := by
  unfold planeCell
  omega

/-- A thread that runs alone leaves the mean of the two blue samples. -/
theorem chromaBody_alone_blue :
    (chromaBody format blue red base pitch col row).alone memory
        (planeCell base pitch row (2 * col)) =
      averageUp (memory (blue (2 * row) col)) (memory (blue (2 * row + 1) col)) := by
  have hne : planeCell base pitch row (2 * col) ≠ planeCell base pitch row (2 * col + 1) :=
    planeCell_ne_succ _
  cases format <;>
    simp only [chromaBody, planarChromaBody, packedChromaBody, ThreadProgram.alone,
      Function.update_of_ne hne, Function.update_self]

/-- The first store must not hit what is loaded behind it. -/
theorem chromaBody_alone_red (hred0 : red (2 * row) col ≠ planeCell base pitch row (2 * col))
    (hred1 : red (2 * row + 1) col ≠ planeCell base pitch row (2 * col)) :
    (chromaBody format blue red base pitch col row).alone memory
        (planeCell base pitch row (2 * col + 1)) =
      averageUp (memory (red (2 * row) col)) (memory (red (2 * row + 1) col)) := by
  cases format <;>
    simp only [chromaBody, planarChromaBody, packedChromaBody, ThreadProgram.alone,
      Function.update_of_ne hred0, Function.update_of_ne hred1, Function.update_self]

theorem chromaBody_gridBody (hpitch : width ≤ pitch)
    (hblue : ∀ col < width / 2, ∀ row < height, blue row col ∈ reads)
    (hred : ∀ col < width / 2, ∀ row < height, red row col ∈ reads)
    (hunread : ∀ col < width / 2, ∀ row < height / 2, ∀ a ∈ chromaCells base pitch col row,
      a ∉ reads) :
    GridBody (width / 2) (height / 2) reads (chromaCells base pitch)
      (chromaBody format blue red base pitch) where
  -- each load is of the source and each store is to the pair, in the order of the kernel
  within col hcol row hrow := by
    have hrow0 : 2 * row < height := by omega
    have hrow1 : 2 * row + 1 < height := by omega
    cases format with
    | planarYuv422 =>
      exact ⟨hblue _ hcol _ hrow0, fun _ => ⟨hblue _ hcol _ hrow1, fun _ =>
        ⟨hred _ hcol _ hrow0, fun _ => ⟨hred _ hcol _ hrow1, fun _ =>
          ⟨Or.inl rfl, Or.inr rfl, trivial⟩⟩⟩⟩⟩
    | packedYuyv =>
      exact ⟨hblue _ hcol _ hrow0, fun _ => ⟨hblue _ hcol _ hrow1, fun _ =>
        ⟨Or.inl rfl, hred _ hcol _ hrow0, fun _ => ⟨hred _ hcol _ hrow1, fun _ =>
          ⟨Or.inr rfl, trivial⟩⟩⟩⟩⟩
  unread := hunread
  single col hcol row _ col' hcol' row' _ a ha ha' := by
    -- a byte of the pair is at twice the column, or right behind it
    have hplace : ∀ c < width / 2, ∀ r, a ∈ chromaCells base pitch c r →
        ∃ n, n < pitch ∧ n / 2 = c ∧ a = planeCell base pitch r n := by
      rintro c hc r (rfl | rfl)
      · exact ⟨2 * c, by omega, by omega, rfl⟩
      · exact ⟨2 * c + 1, by omega, by omega, rfl⟩
    obtain ⟨n, hn, hcn, hcell⟩ := hplace col hcol row ha
    obtain ⟨n', hn', hcn', hcell'⟩ := hplace col' hcol' row' ha'
    obtain ⟨hrow, hoffset⟩ := planeCell_inj hn hn' (hcell.symm.trans hcell')
    rw [← hcn, ← hcn', hoffset]
    exact ⟨rfl, hrow⟩

end Alone

/-! ## The two launches -/

section Launches

variable {src dst : PlaneParams} {src_frame dst_frame : EglFrame} {format : SourceFormat}
  {memory : ℤ → UInt8} {image : Yuv422Image} {answers : DeviceAnswers} {d : CudaDriver}

/-- What a surface pair that passed the checks has in common. -/
structure PairChecked (src dst : PlaneParams) : Prop where
  width : src.width 0 = dst.width 0
  height : src.height 0 = dst.height 0
  height_pos : 2 ≤ (src.height 0).toNat

/-- The assumptions on a pair of surfaces and the frames they are mapped to. -/
structure ConversionLayout (format : SourceFormat) (src dst : PlaneParams)
    (src_frame dst_frame : EglFrame) : Prop where
  source : format.Layout src
  output : OutputLayout dst
  apart : PlanesApart format src dst src_frame dst_frame

/-- A device that reports success has run both kernels to their ends. -/
def DeviceAnswers.Honest (answers : DeviceAnswers) (src dst : PlaneParams)
    (src_frame dst_frame : EglFrame) (format : SourceFormat) (memory : ℤ → UInt8) : Prop :=
  answers.last_error = 0 → answers.record_ret = 0 → answers.sync_ret = 0 →
    let y_end := (yLaunch src dst src_frame dst_frame format memory).run answers.y_schedule
    y_end.Done ∧
      ((uvLaunch src dst src_frame dst_frame format y_end.memory).run answers.uv_schedule).Done

/-- The bytes of the output that belong to the picture. -/
def visibleBytes (dst : PlaneParams) (frame : EglFrame) : Set ℤ :=
  {a | (∃ col < (dst.width 0).toNat, ∃ row < (dst.height 0).toNat,
      a = planeCell (frame.pPitch 0) (dst.pitch 0).toNat row col) ∨
    ∃ col < (dst.width 0).toNat / 2, ∃ row < (dst.height 0).toNat / 2,
      a ∈ chromaCells (frame.pPitch 1) (dst.pitch 1).toNat col row}

variable (hpair : PairChecked src dst)
  (hlayout : ConversionLayout format src dst src_frame dst_frame)

include hlayout

include hpair in
/-- The checks make the source as large as the output, whose planes are bounded. -/
theorem source_width_le :
    (src.width 0).toNat ≤ 2 ^ 31 - 32 ∧ (src.height 0).toNat ≤ 2 ^ 31 - 32 := by
  have hout := hlayout.output.luma
  rw [← hpair.width, ← hpair.height] at hout
  exact ⟨hout.row_bytes_le_max (by have := hpair.height_pos; omega), hout.rows_le⟩

include hpair in
/-- So its dimensions are cast without a loss. -/
theorem source_holdsIndex :
    HoldsIndex (src.width 0).toInt32 (src.width 0).toNat ∧
      HoldsIndex (src.height 0).toInt32 (src.height 0).toNat := by
  obtain ⟨hw, hh⟩ := source_width_le hpair hlayout
  exact ⟨HoldsIndex.of_toNat (by omega), HoldsIndex.of_toNat (by omega)⟩

include hpair in
/-- The chroma plane has half the dimensions in both formats. -/
theorem chroma_holdsIndex :
    HoldsIndex (chromaWidth src format) ((src.width 0).toNat / 2) ∧
      HoldsIndex (chromaHeight src) ((src.height 0).toNat / 2) := by
  obtain ⟨hw, hh⟩ := source_holdsIndex hpair hlayout
  refine ⟨?_, hh.half⟩
  have hsource := hlayout.source
  cases format with
  | planarYuv422 =>
    rw [← hsource.1]
    exact HoldsIndex.of_toNat (by have := hw.lt; have := hsource.1; omega)
  | packedYuyv => exact hw.half

include hpair in
/-- The luma kernel copies the luma samples. -/
theorem yLaunch_eq :
    yLaunch src dst src_frame dst_frame format memory =
      launch (GridShape.covering (src.width 0).toNat (src.height 0).toNat 32 8)
        (src.width 0).toNat (src.height 0).toNat
        (lumaBody (format.lumaCell src src_frame) (dst_frame.pPitch 0) (dst.pitch 0).toNat)
        memory := by
  obtain ⟨hw, hh⟩ := source_holdsIndex hpair hlayout
  obtain ⟨hwle, hhle⟩ := source_width_le hpair hlayout
  have hrows : 0 < (src.height 0).toNat := by
    have := hpair.height_pos
    omega
  have hsource := hlayout.source
  -- the output has the dimensions of the source
  have hout := hlayout.output.luma
  rw [← hpair.width, ← hpair.height] at hout
  rw [yLaunch, launch, kernelShape_eq hw hh]
  refine congrArg _ (kernelThreads_eq hwle hhle fun i j x y hi hj => ?_)
  -- each format launches its own kernel over the same grid
  cases format with
  | planarYuv422 =>
    exact copyYKernel_eq hsource.2.1 hout hw hh (hsource.2.1.pitch_holdsIndex hrows)
      (hout.pitch_holdsIndex hrows) hi hj
  | packedYuyv =>
    exact yuyvToNv12YKernel_eq hsource hout hw hh (PlaneFits.pitch_holdsIndex hsource hrows)
      (hout.pitch_holdsIndex hrows) hi hj

include hpair in
/-- The chroma kernel makes one pair of samples of two. -/
theorem uvLaunch_eq :
    uvLaunch src dst src_frame dst_frame format memory =
      launch (GridShape.covering ((src.width 0).toNat / 2) ((src.height 0).toNat / 2) 32 8)
        ((src.width 0).toNat / 2) ((src.height 0).toNat / 2)
        (chromaBody format (format.blueCell src src_frame) (format.redCell src src_frame)
          (dst_frame.pPitch 1) (dst.pitch 1).toNat) memory := by
  obtain ⟨hwle, hhle⟩ := source_width_le hpair hlayout
  obtain ⟨hw, hh⟩ := chroma_holdsIndex hpair hlayout
  have hrows := hpair.height_pos
  have hsource := hlayout.source
  have hout := hlayout.output.chroma
  rw [← hpair.width, ← hpair.height] at hout
  -- the pitch of the output is an index, since the plane has a row
  have hdp := hout.pitch_holdsIndex (by omega)
  rw [uvLaunch, launch, kernelShape_eq hw hh]
  refine congrArg _ (kernelThreads_eq (by omega) (by omega) fun i j x y hi hj => ?_)
  -- each format launches its own kernel over the same grid
  cases format with
  | planarYuv422 =>
    exact yuv422PlanarToNv12UvKernel_eq hsource.2.2.1 hsource.2.2.2 hout hw hh
      (hsource.2.2.1.pitch_holdsIndex (by omega)) (hsource.2.2.2.pitch_holdsIndex (by omega))
      hdp hi hj
  | packedYuyv =>
    exact yuyvToNv12UvKernel_eq hsource hout hw hh
      (PlaneFits.pitch_holdsIndex hsource (by omega)) hdp hi hj

/-- The luma kernel loads from the source only. -/
theorem lumaCell_mem {col row : ℕ} (hcol : col < (src.width 0).toNat)
    (hrow : row < (src.height 0).toNat) :
    format.lumaCell src src_frame row col ∈ format.bytes src src_frame := by
  have hsource := hlayout.source
  cases format with
  | planarYuv422 => exact Or.inl (hsource.2.1.mem_planeBytes hrow hcol)
  | packedYuyv => exact PlaneFits.mem_planeBytes hsource hrow (by omega)

/-- So does the chroma kernel where it loads blue samples. -/
theorem blueCell_mem {col row : ℕ} (hcol : col < (src.width 0).toNat / 2)
    (hrow : row < (src.height 0).toNat) :
    format.blueCell src src_frame row col ∈ format.bytes src src_frame := by
  have hsource := hlayout.source
  cases format with
  | planarYuv422 => exact Or.inr (Or.inl (hsource.2.2.1.mem_planeBytes hrow hcol))
  | packedYuyv => exact PlaneFits.mem_planeBytes hsource hrow (by omega)

/-- And where it loads red ones. -/
theorem redCell_mem {col row : ℕ} (hcol : col < (src.width 0).toNat / 2)
    (hrow : row < (src.height 0).toNat) :
    format.redCell src src_frame row col ∈ format.bytes src src_frame := by
  have hsource := hlayout.source
  cases format with
  | planarYuv422 => exact Or.inr (Or.inr (hsource.2.2.2.mem_planeBytes hrow hcol))
  | packedYuyv => exact PlaneFits.mem_planeBytes hsource hrow (by omega)

include hpair in
/-- It stores to the chroma plane of the output only. -/
theorem chromaCells_mem {col row : ℕ} {a : ℤ} (hcol : col < (src.width 0).toNat / 2)
    (hrow : row < (src.height 0).toNat / 2)
    (ha : a ∈ chromaCells (dst_frame.pPitch 1) (dst.pitch 1).toNat col row) :
    a ∈ planeBytes (dst_frame.pPitch 1) ((dst.height 0).toNat / 2) (dst.pitch 1).toNat := by
  rw [hpair.width] at hcol
  rw [hpair.height] at hrow
  rcases ha with rfl | rfl
  · exact hlayout.output.chroma.mem_planeBytes hrow (by omega)
  · exact hlayout.output.chroma.mem_planeBytes hrow (by omega)

include hpair in
/-- The luma kernel stores to the luma plane of the output only. -/
theorem luma_mem {col row : ℕ} (hcol : col < (src.width 0).toNat)
    (hrow : row < (src.height 0).toNat) :
    planeCell (dst_frame.pPitch 0) (dst.pitch 0).toNat row col ∈
      planeBytes (dst_frame.pPitch 0) (dst.height 0).toNat (dst.pitch 0).toNat := by
  rw [hpair.width] at hcol
  rw [hpair.height] at hrow
  exact hlayout.output.luma.mem_planeBytes hrow hcol

include hpair in
/-- The threads of the luma kernel do not get in each other's way. -/
theorem yLaunch_gridBody :
    GridBody (src.width 0).toNat (src.height 0).toNat (format.bytes src src_frame)
      (fun col row => {planeCell (dst_frame.pPitch 0) (dst.pitch 0).toNat row col})
      (lumaBody (format.lumaCell src src_frame) (dst_frame.pPitch 0) (dst.pitch 0).toNat) := by
  refine lumaBody_gridBody ?_ (fun col hcol row hrow => ?_) (fun col hcol row hrow => ?_)
  · rw [hpair.width]
    exact hlayout.output.luma.row_bytes_le
  · exact lumaCell_mem hlayout hcol hrow
  · -- no store hits what another thread loads
    exact hlayout.apart.luma _ (luma_mem hpair hlayout hcol hrow)

include hpair in
/-- Nor do those of the chroma kernel. -/
theorem uvLaunch_gridBody :
    GridBody ((src.width 0).toNat / 2) ((src.height 0).toNat / 2) (format.bytes src src_frame)
      (chromaCells (dst_frame.pPitch 1) (dst.pitch 1).toNat)
      (chromaBody format (format.blueCell src src_frame) (format.redCell src src_frame)
        (dst_frame.pPitch 1) (dst.pitch 1).toNat) := by
  refine chromaBody_gridBody ?_ (fun col hcol row hrow => ?_) (fun col hcol row hrow => ?_)
    (fun col hcol row hrow a ha => ?_)
  · rw [hpair.width]
    exact hlayout.output.chroma.row_bytes_le
  · exact blueCell_mem hlayout hcol hrow
  · exact redCell_mem hlayout hcol hrow
  · -- no store hits what another thread loads
    exact hlayout.apart.chroma _ (chromaCells_mem hpair hlayout hcol hrow ha)

/-- The memory behind the luma kernel. -/
structure LumaDone (src dst : PlaneParams) (src_frame dst_frame : EglFrame)
    (format : SourceFormat) (memory after : ℤ → UInt8) : Prop where
  written : ∀ row < (src.height 0).toNat, ∀ col < (src.width 0).toNat,
    after (planeCell (dst_frame.pPitch 0) (dst.pitch 0).toNat row col) =
      memory (format.lumaCell src src_frame row col)
  frame : ∀ a, (∀ col < (src.width 0).toNat, ∀ row < (src.height 0).toNat,
    a ≠ planeCell (dst_frame.pPitch 0) (dst.pitch 0).toNat row col) → after a = memory a

include hpair in
/-- When the luma kernel has ended, the luma plane is written, in whatever order the threads ran. -/
theorem lumaDone_of_done {schedule : List GridThread}
    (hdone : ((yLaunch src dst src_frame dst_frame format memory).run schedule).Done) :
    LumaDone src dst src_frame dst_frame format memory
      ((yLaunch src dst src_frame dst_frame format memory).run schedule).memory := by
  have hbody := yLaunch_gridBody hpair hlayout
  rw [yLaunch_eq hpair hlayout] at hdone ⊢
  refine ⟨fun row hrow col hcol => ?_, fun a ha => ?_⟩
  · rw [hbody.memory_of_done (by decide) (by decide) rfl hdone hcol hrow rfl, lumaBody_alone]
  · -- what belongs to no thread is not stored to
    exact hbody.memory_of_notMem fun col hcol row hrow => ha col hcol row hrow

/-- The memory behind the chroma kernel. -/
structure ChromaDone (src dst : PlaneParams) (src_frame dst_frame : EglFrame)
    (format : SourceFormat) (memory after : ℤ → UInt8) : Prop where
  blue : ∀ row < (src.height 0).toNat / 2, ∀ col < (src.width 0).toNat / 2,
    after (planeCell (dst_frame.pPitch 1) (dst.pitch 1).toNat row (2 * col)) =
      averageUp (memory (format.blueCell src src_frame (2 * row) col))
        (memory (format.blueCell src src_frame (2 * row + 1) col))
  red : ∀ row < (src.height 0).toNat / 2, ∀ col < (src.width 0).toNat / 2,
    after (planeCell (dst_frame.pPitch 1) (dst.pitch 1).toNat row (2 * col + 1)) =
      averageUp (memory (format.redCell src src_frame (2 * row) col))
        (memory (format.redCell src src_frame (2 * row + 1) col))
  frame : ∀ a, (∀ col < (src.width 0).toNat / 2, ∀ row < (src.height 0).toNat / 2,
    a ∉ chromaCells (dst_frame.pPitch 1) (dst.pitch 1).toNat col row) → after a = memory a

include hpair in
/-- The same for the chroma kernel. -/
theorem chromaDone_of_done {schedule : List GridThread}
    (hdone : ((uvLaunch src dst src_frame dst_frame format memory).run schedule).Done) :
    ChromaDone src dst src_frame dst_frame format memory
      ((uvLaunch src dst src_frame dst_frame format memory).run schedule).memory := by
  have hbody := uvLaunch_gridBody hpair hlayout
  rw [uvLaunch_eq hpair hlayout] at hdone ⊢
  refine ⟨fun row hrow col hcol => ?_, fun row hrow col hcol => ?_, fun a ha => ?_⟩
  · rw [hbody.memory_of_done (by decide) (by decide) rfl hdone hcol hrow (Or.inl rfl),
      chromaBody_alone_blue]
  · -- what is loaded behind the first store belongs to the source
    have hne : ∀ r < (src.height 0).toNat, format.redCell src src_frame r col ≠
        planeCell (dst_frame.pPitch 1) (dst.pitch 1).toNat row (2 * col) := by
      intro r hr heq
      exact hbody.unread col hcol row hrow _ (Or.inl rfl)
        (heq ▸ redCell_mem hlayout hcol hr)
    rw [hbody.memory_of_done (by decide) (by decide) rfl hdone hcol hrow (Or.inr rfl),
      chromaBody_alone_red (hne _ (by omega)) (hne _ (by omega))]
  · exact hbody.memory_of_notMem fun col hcol row hrow => ha col hcol row hrow

omit hlayout in
/-- What a launch that reports success leaves. -/
theorem launchConversion_eq_none {after : CudaDriver}
    (h : launchConversion src dst src_frame dst_frame format answers d = (none, after)) :
    answers.last_error = 0 ∧ answers.record_ret = 0 ∧ answers.sync_ret = 0 ∧
      after.memory =
        ((uvLaunch src dst src_frame dst_frame format
          ((yLaunch src dst src_frame dst_frame format d.memory).run
            answers.y_schedule).memory).run answers.uv_schedule).memory := by
  simp only [launchConversion] at h
  -- the answers are tested in this order; any of them that is not 0 is a failure
  by_cases herror : answers.last_error ≠ 0
  · rw [if_pos herror] at h
    cases h
  rw [if_neg herror] at h
  by_cases hrecord : answers.record_ret = 0
  · rw [if_pos hrecord] at h
    by_cases hsync : answers.sync_ret ≠ 0
    · rw [if_pos hsync] at h
      cases h
    · rw [if_neg hsync] at h
      cases h
      exact ⟨not_not.mp herror, hrecord, not_not.mp hsync, rfl⟩
  · rw [if_neg hrecord, if_pos hrecord] at h
    cases h

include hpair in
/-- The bytes behind both kernels. -/
theorem nv12Holds_of_done {middle after : ℤ → UInt8}
    (hluma : LumaDone src dst src_frame dst_frame format memory middle)
    (hchroma : ChromaDone src dst src_frame dst_frame format middle after)
    (hholds : format.Holds src src_frame memory image) :
    Nv12Holds dst dst_frame after image.toNv12 ∧
      ∀ a ∉ visibleBytes dst dst_frame, after a = memory a := by
  have hw := hpair.width
  have hh := hpair.height
  -- the luma kernel has not touched the source
  have hsource : ∀ a ∈ format.bytes src src_frame, middle a = memory a := by
    intro a ha
    refine hluma.frame a fun col hcol row hrow heq => ?_
    exact hlayout.apart.luma _ (luma_mem hpair hlayout hcol hrow) (heq ▸ ha)
  refine ⟨⟨fun row hrow col hcol => ?_, fun row hrow col hcol => ?_, fun row hrow col hcol => ?_⟩,
    fun a ha => ?_⟩
  · rw [← hh] at hrow
    rw [← hw] at hcol
    -- nor the chroma kernel the luma plane
    rw [hchroma.frame _ fun c hc r hr hmem =>
        hlayout.apart.output _ (luma_mem hpair hlayout hcol hrow)
          (chromaCells_mem hpair hlayout hc hr hmem),
      hluma.written row hrow col hcol, hholds.luma row hrow col hcol]
    rfl
  · rw [← hh] at hrow
    rw [← hw] at hcol
    -- a chroma sample is the mean of two samples, which the luma kernel left alone
    rw [hchroma.blue row hrow col hcol, hsource _ (blueCell_mem hlayout hcol (by omega)),
      hsource _ (blueCell_mem hlayout hcol (by omega)), hholds.blue _ (by omega) col hcol,
      hholds.blue _ (by omega) col hcol, averageUp_eq]
    rfl
  · rw [← hh] at hrow
    rw [← hw] at hcol
    rw [hchroma.red row hrow col hcol, hsource _ (redCell_mem hlayout hcol (by omega)),
      hsource _ (redCell_mem hlayout hcol (by omega)), hholds.red _ (by omega) col hcol,
      hholds.red _ (by omega) col hcol, averageUp_eq]
    rfl
  · -- a byte that is not visible belongs to neither kernel
    rw [hchroma.frame a fun col hcol row hrow hmem =>
        ha (Or.inr ⟨col, by rwa [← hw], row, by rwa [← hh], hmem⟩),
      hluma.frame a fun col hcol row hrow heq =>
        ha (Or.inl ⟨col, by rwa [← hw], row, by rwa [← hh], heq⟩)]

end Launches

/-! ## A whole conversion -/

section Conversion

variable {c c' : CudaYuv422Converter} {surfaces : List ℕ} {d d' : CudaDriver}
  {src dst : NvBufSurface} {answers : ConvertAnswers} {format : SourceFormat}

/-- What `validateSurfacePair` makes sure of. -/
theorem pairChecked_of_validate (h : validateSurfacePair src dst = .ok format) :
    PairChecked src.planeParams dst.planeParams := by
  unfold validateSurfacePair at h
  by_cases hfilled : src.numFilled = 0 ∨ dst.numFilled = 0
  · rw [if_pos hfilled] at h
    cases h
  rw [if_neg hfilled] at h
  simp only at h
  split at h
  · cases h
  · rename_i hchecks
    simp only [not_or, not_not] at hchecks
    -- of the checks only the dimensions matter here
    obtain ⟨-, -, -, -, -, hwidth, hheight, -, hpos, -⟩ := hchecks
    refine ⟨hwidth, hheight, ?_⟩
    have hle : ¬(src.planeParams.height 0).toNat < (2 : UInt32).toNat := hpos
    have htwo : (2 : UInt32).toNat = 2 := rfl
    omega

/-- A conversion that succeeds leaves the NV12 image of the source's picture in the output,
in whatever order the device ran the threads, and changes no other byte. -/
theorem convert_writes_nv12 {dst_frame : MappedEglFrame} {image : Yuv422Image}
    (howned : Owned c surfaces d) (hconvert : c.convert src dst answers d = (none, c', d'))
    (hformat : validateSurfacePair src dst = .ok format)
    (hdst : c'.findOutput dst = some dst_frame)
    (hlayout : ConversionLayout format src.planeParams dst.planeParams answers.map_src.frame
      dst_frame.frame)
    (hdevice : answers.device.Honest src.planeParams dst.planeParams answers.map_src.frame
      dst_frame.frame format d.memory)
    (hholds : format.Holds src.planeParams answers.map_src.frame d.memory image) :
    Nv12Holds dst.planeParams dst_frame.frame d'.memory image.toNv12 ∧
      ∀ a ∉ visibleBytes dst.planeParams dst_frame.frame, d'.memory a = d.memory a := by
  obtain ⟨format', dst_frame', hvalid, hfind, d₂, hmemory₂, after, hlaunch, hmemory⟩ :=
    CudaYuv422Converter.convert_eq_none howned hconvert
  cases hformat.symm.trans hvalid
  cases hdst.symm.trans hfind
  -- a conversion without a failure has passed the checks and launched both kernels
  have hpair := pairChecked_of_validate hvalid
  obtain ⟨herror, hrecord, hsync, hafter⟩ := launchConversion_eq_none hlaunch
  rw [hmemory₂] at hafter
  obtain ⟨hy, huv⟩ := hdevice herror hrecord hsync
  rw [hmemory, hafter]
  exact nv12Holds_of_done hpair hlayout (lumaDone_of_done hpair hlayout hy)
    (chromaDone_of_done hpair hlayout huv) hholds

/-- The picture of two by two pixels that some memory holds as packed YUYV at address 1000. -/
def smallPicture (memory : ℤ → UInt8) : Yuv422Image where
  luma row col := memory (planeCell 1000 256 row (2 * col))
  blue row col := memory (planeCell 1000 256 row (4 * col + 1))
  red row col := memory (planeCell 1000 256 row (4 * col + 3))

/-- The threads of a kernel can be run to their ends. -/
theorem exists_schedule_kernel (shape : GridShape) (kernel : Int32 → Int32 → KernelThread)
    (memory : ℤ → UInt8) :
    ∃ schedule, (Launched.run ⟨memory, kernelThreads shape kernel⟩ schedule).Done := by
  refine exists_schedule shape.threads _ fun t ht => ?_
  show kernelThreads shape kernel t = .done
  rw [kernelThreads, if_neg fun h => ht (GridShape.mem_threads.mpr h)]

/-- The planes of the two small surfaces at addresses 1000, 3000 and 4000. -/
theorem conversionLayout_small :
    ConversionLayout .packedYuyv (smallSurface 8 .yuyv 1).planeParams
      (smallSurface 7 .nv12 2).planeParams (acceptingMap 1000).frame (acceptingMap 3000).frame where
  source := ⟨by decide, by decide, by decide⟩
  output := ⟨⟨by decide, by decide, by decide⟩, ⟨by decide, by decide, by decide⟩⟩
  apart := by
    refine ⟨?_, ?_, ?_⟩ <;> rintro a ⟨hlow, hhigh⟩ ⟨hlow', hhigh'⟩ <;>
      simp [smallSurface, acceptingMap] at hlow hhigh hlow' hhigh' <;> omega

/-- A surface of two by two pixels is converted on a device that runs all its threads. -/
theorem convert_writes_nv12_small :
    ∃ answers c' d',
      CudaYuv422Converter.convert {} (smallSurface 8 .yuyv 1) (smallSurface 7 .nv12 2) answers
          (CudaDriver.unused fun a => UInt8.ofNat a.toNat) = (none, c', d') ∧
        Nv12Holds (smallSurface 7 .nv12 2).planeParams (acceptingMap 3000).frame d'.memory
          (smallPicture fun a => UInt8.ofNat a.toNat).toNv12 := by
  -- each kernel has an order in which all its threads end
  obtain ⟨y_schedule, hy⟩ : ∃ schedule, ((yLaunch (smallSurface 8 .yuyv 1).planeParams
      (smallSurface 7 .nv12 2).planeParams (acceptingMap 1000).frame (acceptingMap 3000).frame
      .packedYuyv fun a => UInt8.ofNat a.toNat).run schedule).Done :=
    exists_schedule_kernel _ _ _
  obtain ⟨uv_schedule, huv⟩ : ∃ schedule, ((uvLaunch (smallSurface 8 .yuyv 1).planeParams
      (smallSurface 7 .nv12 2).planeParams (acceptingMap 1000).frame (acceptingMap 3000).frame
      .packedYuyv ((yLaunch (smallSurface 8 .yuyv 1).planeParams
        (smallSurface 7 .nv12 2).planeParams (acceptingMap 1000).frame (acceptingMap 3000).frame
        .packedYuyv fun a => UInt8.ofNat a.toNat).run y_schedule).memory).run schedule).Done :=
    exists_schedule_kernel _ _ _
  have howned : Owned {} [] (CudaDriver.unused fun a => UInt8.ofNat a.toNat) :=
    ⟨held_unused _, by simp⟩
  have hconvert : CudaYuv422Converter.convert {} (smallSurface 8 .yuyv 1) (smallSurface 7 .nv12 2)
      ⟨acceptingPrepare 3000, acceptingMap 1000, ⟨y_schedule, uv_schedule, 0, 0, 0⟩⟩
      (CudaDriver.unused fun a => UInt8.ofNat a.toNat) = (none, _, _) := rfl
  -- the picture is read off the memory of the source
  have hholds : SourceFormat.Holds .packedYuyv (smallSurface 8 .yuyv 1).planeParams
      (acceptingMap 1000).frame (fun a => UInt8.ofNat a.toNat)
      (smallPicture fun a => UInt8.ofNat a.toNat) :=
    ⟨fun _ _ _ _ => rfl, fun _ _ _ _ => rfl, fun _ _ _ _ => rfl⟩
  refine ⟨_, _, _, hconvert, ?_⟩
  exact (convert_writes_nv12 howned hconvert rfl rfl conversionLayout_small
    (fun _ _ _ => ⟨hy, huv⟩) hholds).1

end Conversion

end TeleopBridge.Video
