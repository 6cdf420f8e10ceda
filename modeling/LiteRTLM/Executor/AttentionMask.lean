import LiteRTLM.Engine.Status
import LiteRTLM.Library.RangeFill
import LiteRTLM.Library.RowMajor

/-!
Contract: the attention mask of a prefill or decode run.

Owns: `InitializeAttentionMask`, `FillAttentionMask` with the ranges it writes, and that a
filled mask is causal and every write stays in its row.

Does not own: which masks a model has, and the locks of a buffer, which are taken.

A float is given by its bits. Sizes, steps and offsets are natural numbers. A fill outside of
the buffer is undefined in the source and `none` here.
-/

namespace LiteRTLM.Executor.AttentionMask

open LiteRTLM.Engine
open LiteRTLM.Library

/-! ## The buffer -/

/-- The elements of a mask, in row-major order. -/
inductive MaskElements where
  | bool (data : List Bool)
  | float32 (bits : List UInt32)
  /-- Elements of any other type, by their size and number. -/
  | other (elementSize count : Nat)
deriving DecidableEq, Repr

def MaskElements.count : MaskElements → Nat
  | .bool data => data.length
  | .float32 bits => bits.length
  | .other _ count => count

/-- `sizeof(bool)`, `sizeof(float)` or the size of another type, in bytes. -/
def MaskElements.elementSize : MaskElements → Nat
  | .bool _ => 1
  | .float32 _ => 4
  | .other elementSize _ => elementSize

/-- The mask's tensor buffer. -/
structure Mask where
  dimensions : List Nat
  elements : MaskElements
deriving DecidableEq, Repr

/-- `PackedSize`, in bytes. -/
def Mask.packedSize (mask : Mask) : Nat :=
  mask.dimensions.prod * mask.elements.elementSize

/-- `0.0f`. -/
def openBits : UInt32 := 0

/-- `-45824`, or `-0.7f * std::numeric_limits<float>::max()`. -/
def maskedBits (isF16 : Bool) : UInt32 :=
  if isF16 then 0xc7330000 else 0xff333332

/-! ## The functions -/

def initializeAttentionMask (mask : Mask) (isF16 : Bool) : Option (StatusOr Mask) :=
  match mask.elements with
  | .bool data => do
      let cleared ← RangeFill.fill false data ⟨0, mask.packedSize / mask.elements.elementSize⟩
      return .ok { mask with elements := .bool cleared }
  | .float32 bits => do
      let masked ← RangeFill.fill (maskedBits isF16) bits ⟨0, mask.packedSize / mask.elements.elementSize⟩
      return .ok { mask with elements := .float32 masked }
  | .other .. =>
      return .error (.invalidArgumentError "Unsupported attention mask data type.")

/-- A fill of `FillAttentionMask`, with the batch and the row it is for. -/
structure RowFill where
  batch : Nat
  row : Nat
  range : RangeFill.Range
deriving DecidableEq, Repr

/-- The fills of the two loops: one more position for each step. -/
def rowFills (batchSize batchOffset channelSize startTimestep steps : Nat) : List RowFill :=
  (List.range batchSize).flatMap fun b =>
    (List.range steps).map fun i =>
      ⟨b, i, ⟨b * batchOffset + i * channelSize, startTimestep + i + 1⟩⟩

/-- The fills for the dimensions and the element type of a mask. -/
def Mask.rowFills (mask : Mask) (startTimestep steps : Nat) : List RowFill :=
  let batchSize := mask.dimensions.getD 0 0
  let channelSize := mask.dimensions.getD 3 0
  let batchOffset := mask.packedSize / batchSize / mask.elements.elementSize
  AttentionMask.rowFills batchSize batchOffset channelSize startTimestep steps

def fillAttentionMask (mask : Mask) (startTimestep steps : Nat) : Option (StatusOr Mask) :=
  if mask.dimensions.length ≠ 4 then
    return .error (.invalidArgumentError "Attention mask must be 4D.")
  else
    match mask.elements with
    | .bool data => do
        let filled ← RangeFill.fillAll true
          ((mask.rowFills startTimestep steps).map RowFill.range) data
        return .ok { mask with elements := .bool filled }
    | .float32 bits => do
        let filled ← RangeFill.fillAll openBits
          ((mask.rowFills startTimestep steps).map RowFill.range) bits
        return .ok { mask with elements := .float32 filled }
    | .other .. =>
        return .error (.invalidArgumentError "Unsupported attention mask data type.")

/-! ## Shapes -/

/-- The shape `[B, S, 1, C]` or `[B, 1, S, C]` of a mask. It has a batch, by the number of
which the source divides. -/
structure MaskShape where
  batches : Nat
  rows : Nat
  channels : Nat
  rowsFirst : Bool
  hasBatch : 0 < batches

namespace MaskShape

def dimensions (shape : MaskShape) : List Nat :=
  if shape.rowsFirst then [shape.batches, shape.rows, 1, shape.channels]
  else [shape.batches, 1, shape.rows, shape.channels]

/-- The flat position of entry `j` of row `i` of batch `b`. -/
def position (shape : MaskShape) (b i j : Nat) : Nat :=
  RowMajor.offset shape.dimensions
    (if shape.rowsFirst then [b, i, 0, j] else [b, 0, i, j])

theorem prod_dimensions (shape : MaskShape) :
    shape.dimensions.prod = shape.batches * shape.rows * shape.channels := by
  unfold dimensions
  cases shape.rowsFirst <;> simp [Nat.mul_assoc]

/-- Rows lie one behind the other, in both layouts. -/
theorem position_eq (shape : MaskShape) (b i j : Nat) :
    shape.position b i j = (b * shape.rows + i) * shape.channels + j := by
  unfold position dimensions
  cases shape.rowsFirst
  · simp [RowMajor.offset]
    ring
  · simp [RowMajor.offset]
    ring

end MaskShape

/-- A bool or float mask whose elements fill its shape. -/
structure Mask.HasShape (mask : Mask) (shape : MaskShape) : Prop where
  dimensions : mask.dimensions = shape.dimensions
  sized : mask.elements.count = shape.dimensions.prod
  supported : ∀ elementSize count, mask.elements ≠ .other elementSize count

/-- Whether an entry is open, or masked; `none` for any other value. -/
def MaskElements.entry (isF16 : Bool) (position : Nat) : MaskElements → Option Bool
  | .bool data => data[position]?
  | .float32 bits => bits[position]?.bind fun value =>
      if value = openBits then some true
      else if value = maskedBits isF16 then some false
      else none
  | .other .. => none

/-- The write stays inside its row of its batch. -/
def RowFill.InRow (fill : RowFill) (shape : MaskShape) : Prop :=
  shape.position fill.batch fill.row 0 ≤ fill.range.offset ∧
    fill.range.offset + fill.range.count ≤
      shape.position fill.batch fill.row 0 + shape.channels

theorem maskedBits_ne_open (isF16 : Bool) : maskedBits isF16 ≠ openBits := by
  cases isF16 <;> decide

/-! ## The fills -/

section Fills

variable {shape : MaskShape} {startTimestep steps : Nat}

/-- The fills of the loops, with the batch offset they have for every element size. -/
theorem mem_rowFills {fill : RowFill} :
    fill ∈ rowFills shape.batches (shape.rows * shape.channels) shape.channels startTimestep
        steps ↔
      fill.batch < shape.batches ∧ fill.row < steps ∧
        fill.range = ⟨shape.position fill.batch fill.row 0, startTimestep + fill.row + 1⟩ := by
  have start : ∀ b i, b * (shape.rows * shape.channels) + i * shape.channels =
      shape.position b i 0 := by
    intro b i
    rw [shape.position_eq]
    ring
  simp only [rowFills, List.mem_flatMap, List.mem_map, List.mem_range, start]
  constructor
  · rintro ⟨b, below, i, few, rfl⟩
    exact ⟨below, few, rfl⟩
  · rintro ⟨below, few, same⟩
    obtain ⟨batch, row, range⟩ := fill
    simp only at same below few
    exact ⟨batch, below, row, few, by rw [same]⟩

theorem rowFills_inRow (fits : startTimestep + steps ≤ shape.channels) {fill : RowFill}
    (member : fill ∈ rowFills shape.batches (shape.rows * shape.channels) shape.channels
      startTimestep steps) : fill.InRow shape := by
  obtain ⟨-, few, same⟩ := mem_rowFills.mp member
  unfold RowFill.InRow
  rw [same]
  refine ⟨Nat.le_refl _, ?_⟩
  simp only
  omega

/-- A row lies inside the array. -/
theorem row_inside {b i : Nat} (batchBelow : b < shape.batches) (rowBelow : i < shape.rows) :
    shape.position b i 0 + shape.channels ≤ shape.dimensions.prod := by
  rw [shape.position_eq, shape.prod_dimensions, Nat.add_zero]
  exact Blocks.block_inside (Blocks.blockIndex_lt batchBelow rowBelow)

/-- The fills cover an entry exactly when it belongs to a row of the steps and is no later
than the row's step. -/
theorem rowFills_cover (few : steps ≤ shape.rows)
    (fits : startTimestep + steps ≤ shape.channels) {b i j : Nat}
    (batchBelow : b < shape.batches) (rowBelow : i < shape.rows) (entryBelow : j < shape.channels) :
    (∃ range ∈ (rowFills shape.batches (shape.rows * shape.channels) shape.channels
        startTimestep steps).map RowFill.range, range.Covers (shape.position b i j)) ↔
      i < steps ∧ j ≤ startTimestep + i := by
  have offsetOf : ∀ place, shape.position b i place = shape.position b i 0 + place := by
    intro place
    rw [shape.position_eq, shape.position_eq, Nat.add_zero]
  constructor
  · rintro ⟨range, member, covered⟩
    obtain ⟨fill, fillMember, rfl⟩ := List.mem_map.mp member
    obtain ⟨fillBatch, fillRow, same⟩ := mem_rowFills.mp fillMember
    rw [same] at covered
    obtain ⟨starts, ends⟩ := covered
    simp only at starts ends
    rw [shape.position_eq, shape.position_eq, Nat.add_zero] at starts ends
    -- Two rows that share an entry are the same row.
    have sameRow : fill.batch * shape.rows + fill.row = b * shape.rows + i := by
      by_contra apart
      have disjoint : (fill.batch * shape.rows + fill.row) * shape.channels + shape.channels ≤
            (b * shape.rows + i) * shape.channels ∨
          (b * shape.rows + i) * shape.channels + shape.channels ≤
            (fill.batch * shape.rows + fill.row) * shape.channels :=
        Blocks.blocks_apart apart
      rcases disjoint with before | behind
      · omega
      · omega
    obtain ⟨sameBatch, sameIndex⟩ :=
      (Blocks.blockIndex_inj (show fill.row < shape.rows by omega) rowBelow).mp sameRow
    rw [sameBatch, sameIndex] at ends
    exact ⟨sameIndex ▸ fillRow, by omega⟩
  · rintro ⟨rowFilled, early⟩
    refine ⟨_, List.mem_map.mpr ⟨⟨b, i, ⟨shape.position b i 0, startTimestep + i + 1⟩⟩,
      mem_rowFills.mpr ⟨batchBelow, rowFilled, rfl⟩, rfl⟩, ?_⟩
    unfold RangeFill.Range.Covers
    simp only
    rw [offsetOf j]
    omega

/-- The offset between two batches is computed from the bytes of the buffer. -/
theorem batchOffset_eq (shape : MaskShape) {elementSize : Nat} (positive : 0 < elementSize) :
    shape.dimensions.prod * elementSize / shape.batches / elementSize =
      shape.rows * shape.channels := by
  have product : shape.dimensions.prod * elementSize =
      shape.batches * (shape.rows * shape.channels * elementSize) := by
    rw [shape.prod_dimensions]
    ring
  rw [product, Nat.mul_div_cancel_left _ shape.hasBatch, Nat.mul_div_cancel _ positive]

/-- The masked array with its open rows, for the values of any element type. -/
theorem fillAll_masked {α : Type} (masked opened : α) {data : List α}
    (sized : data.length = shape.dimensions.prod) (few : steps ≤ shape.rows)
    (fits : startTimestep + steps ≤ shape.channels) :
    ∃ cleared filled, RangeFill.fill masked data ⟨0, shape.dimensions.prod⟩ = some cleared ∧
      cleared.length = shape.dimensions.prod ∧
      RangeFill.fillAll opened ((rowFills shape.batches (shape.rows * shape.channels)
        shape.channels startTimestep steps).map RowFill.range) cleared = some filled ∧
      ∀ b i j, b < shape.batches → i < shape.rows → j < shape.channels →
        filled[shape.position b i j]? =
          some (if i < steps ∧ j ≤ startTimestep + i then opened else masked) := by
  obtain ⟨cleared, ran, clearedLength, clearedEntries⟩ :=
    RangeFill.fill_of_inside masked data ⟨0, shape.dimensions.prod⟩
      (by rw [sized, Nat.zero_add])
  obtain ⟨filled, ranAll, -, entries⟩ := RangeFill.fillAll_of_inside opened
    ((rowFills shape.batches (shape.rows * shape.channels) shape.channels
      startTimestep steps).map RowFill.range) cleared (by
        intro range member
        obtain ⟨fill, fillMember, rfl⟩ := List.mem_map.mp member
        obtain ⟨batchBelow, fillRow, -⟩ := mem_rowFills.mp fillMember
        have inRow := (rowFills_inRow fits fillMember).2
        have inside := row_inside batchBelow (show fill.row < shape.rows by omega)
        omega)
  refine ⟨cleared, filled, ran, clearedLength.trans sized, ranAll, ?_⟩
  intro b i j batchBelow rowBelow entryBelow
  rw [entries]
  have covered := rowFills_cover few fits batchBelow rowBelow entryBelow
  by_cases isOpen : i < steps ∧ j ≤ startTimestep + i
  · rw [if_pos (covered.mpr isOpen), if_pos isOpen]
  · rw [if_neg (fun cover => isOpen (covered.mp cover)), if_neg isOpen, clearedEntries, if_pos]
    have inside := row_inside batchBelow rowBelow
    unfold RangeFill.Range.Covers
    simp only
    rw [shape.position_eq] at inside ⊢
    omega

theorem Mask.HasShape.elementSize_pos {mask : Mask} (shaped : mask.HasShape shape) :
    0 < mask.elements.elementSize := by
  cases elements : mask.elements with
  | bool data => exact Nat.one_pos
  | float32 bits => exact Nat.succ_pos 3
  | other elementSize count => exact absurd elements (shaped.supported elementSize count)

/-- The number of elements is computed from the bytes of the buffer. -/
theorem Mask.HasShape.elements_eq {mask : Mask} (shaped : mask.HasShape shape) :
    mask.packedSize / mask.elements.elementSize = shape.dimensions.prod := by
  rw [Mask.packedSize, shaped.dimensions, Nat.mul_div_cancel _ shaped.elementSize_pos]

theorem Mask.HasShape.rowFills_eq {mask : Mask} (shaped : mask.HasShape shape) :
    mask.rowFills startTimestep steps = AttentionMask.rowFills shape.batches
      (shape.rows * shape.channels) shape.channels startTimestep steps := by
  have batches : mask.dimensions.getD 0 0 = shape.batches := by
    rw [shaped.dimensions, MaskShape.dimensions]
    cases shape.rowsFirst <;> rfl
  have channels : mask.dimensions.getD 3 0 = shape.channels := by
    rw [shaped.dimensions, MaskShape.dimensions]
    cases shape.rowsFirst <;> rfl
  unfold Mask.rowFills Mask.packedSize
  simp only [batches, channels]
  rw [shaped.dimensions, batchOffset_eq shape shaped.elementSize_pos]

end Fills

/-- A float mask of one batch with two rows of three channels. -/
def smallMask : Mask :=
  ⟨[1, 2, 1, 3], .float32 [7, 7, 7, 7, 7, 7]⟩

def smallShape : MaskShape :=
  ⟨1, 2, 3, true, Nat.one_pos⟩

end LiteRTLM.Executor.AttentionMask
