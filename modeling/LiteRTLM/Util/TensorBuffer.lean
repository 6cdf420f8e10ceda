import LiteRTLM.Engine.Status
import LiteRTLM.Library.Blocks

/-!
Contract: tensor buffers in host memory, and `DropTokensfromTensorBuffer` on them.

Owns: a buffer's element type, dimensions and elements, copies and fills of its elements,
and the loops that drop slots of one dimension.

Does not own: what the slots of a buffer hold, and the locks of a buffer, which are taken.

Sizes and offsets are natural numbers.
-/

namespace LiteRTLM.Util

open LiteRTLM.Engine
open LiteRTLM.Library

/-- The element types that the cache functions tell apart. -/
inductive ElementType where
  | int8
  | int16
  | int32
  | float32
  | other
deriving DecidableEq, Repr

/-- A tensor buffer with its elements in row-major order. -/
structure TensorBuffer (Scalar : Type) where
  elementType : ElementType
  dimensions : List Nat
  data : List Scalar
deriving DecidableEq, Repr

namespace TensorBuffer

variable {Scalar : Type} [Zero Scalar]

/-! ## Dimensions -/

/-- The product of the dimensions in front of `axis`. -/
def prevDimsSize (buffer : TensorBuffer Scalar) (axis : Nat) : Nat :=
  (buffer.dimensions.take axis).prod

/-- The product of the dimensions behind `axis`. -/
def nextDimsSize (buffer : TensorBuffer Scalar) (axis : Nat) : Nat :=
  (buffer.dimensions.drop (axis + 1)).prod

/-- A shape, taken apart at one of its dimensions. -/
theorem dimensions_split {dimensions : List Nat} {axis slots : Nat}
    (dimension : dimensions[axis]? = some slots) :
    dimensions = dimensions.take axis ++ slots :: dimensions.drop (axis + 1) ∧
      (dimensions.take axis).length = axis := by
  obtain ⟨below, found⟩ := List.getElem?_eq_some_iff.mp dimension
  constructor
  · rw [← found, List.getElem_cons_drop, List.take_append_drop]
  · rw [List.length_take]
    omega

/-! ## Copies and fills -/

/-- `memcpy` of `count` elements inside one buffer. -/
def memcpy (data : List Scalar) (dstOffset srcOffset count : Nat) : List Scalar :=
  ByteImage.overwrite 0 data dstOffset (ByteImage.slice data srcOffset (srcOffset + count))

/-- `memset` of `count` elements to zero. -/
def memsetZero (data : List Scalar) (dstOffset count : Nat) : List Scalar :=
  ByteImage.overwrite 0 data dstOffset (List.replicate count 0)

/-! ## Dropping slots -/

/-- The loop over `j`: the slots behind the dropped ones move to the front. -/
def shiftSlots (data : List Scalar) (i targetDimsSize nextDimsSize numTokensToDrop
    initTokensToRetain : Nat) : List Scalar :=
  (List.range' initTokensToRetain (targetDimsSize - numTokensToDrop - initTokensToRetain)).foldl
    (fun moved j => memcpy moved
      (i * nextDimsSize * targetDimsSize + j * nextDimsSize)
      (i * nextDimsSize * targetDimsSize + (j + numTokensToDrop) * nextDimsSize)
      nextDimsSize)
    data

/-- The body of the loop over `i`. -/
def dropSlots (resetRemainderToZero : Bool) (targetDimsSize nextDimsSize numTokensToDrop
    initTokensToRetain : Nat) (data : List Scalar) (i : Nat) : List Scalar :=
  let shifted := shiftSlots data i targetDimsSize nextDimsSize numTokensToDrop
    initTokensToRetain
  if resetRemainderToZero then
    memsetZero shifted
      (i * targetDimsSize * nextDimsSize + (targetDimsSize - numTokensToDrop) * nextDimsSize)
      (nextDimsSize * numTokensToDrop)
  else shifted

/-- `DropTokensfromTensorBuffer`, for the element type of the buffer. -/
def dropTokensfromTensorBuffer (buffer : TensorBuffer Scalar) (numTokensToDrop : Int)
    (dimension : Nat) (initTokensToRetain : Int) (resetRemainderToZero : Bool) :
    StatusOr (TensorBuffer Scalar) :=
  match buffer.dimensions[dimension]? with
  | none => .error (.invalidArgumentError "Target dimension is out of range.")
  | some targetDimsSize =>
    if numTokensToDrop < 0 then
      .error (.invalidArgumentError "num_tokens_to_drop is negative.")
    else if numTokensToDrop > targetDimsSize then
      .error (.invalidArgumentError "num_tokens_to_drop is larger than the target dimension.")
    else if initTokensToRetain > targetDimsSize then
      .error (.invalidArgumentError "init_tokens_to_retain is larger than the target dimension.")
    else if initTokensToRetain < 0 then
      .error (.invalidArgumentError "init_tokens_to_retain is negative.")
    else if initTokensToRetain + numTokensToDrop > targetDimsSize then
      .error (.invalidArgumentError
        ("the total number of tokens retained and dropped is greater than the " ++
          "target dimension. This will result in an out of bounds access."))
    else .ok { buffer with
      data := (List.range (buffer.prevDimsSize dimension)).foldl
        (dropSlots resetRemainderToZero targetDimsSize (buffer.nextDimsSize dimension)
          numTokensToDrop.toNat initTokensToRetain.toNat) buffer.data }

/-! ## Slots -/

/-- The part of a slot of `axis` at one position of the dimensions in front of it. -/
def slotRow (buffer : TensorBuffer Scalar) (axis slots outer slot : Nat) : List Scalar :=
  Blocks.block (buffer.nextDimsSize axis) buffer.data (outer * slots + slot)

/-- A buffer whose elements fill its dimensions, of which `axis` has `slots` entries. -/
structure HasSlots (buffer : TensorBuffer Scalar) (axis slots : Nat) : Prop where
  dimension : buffer.dimensions[axis]? = some slots
  sized : buffer.data.length =
    buffer.prevDimsSize axis * slots * buffer.nextDimsSize axis

section Dropping

variable {slots width drop retain : Nat}

/-- One move of the loop over `j`, on block numbers. -/
theorem memcpy_slot (data : List Scalar) (i j : Nat) :
    memcpy data (i * width * slots + j * width) (i * width * slots + (j + drop) * width) width =
      ByteImage.overwrite 0 data ((i * slots + j) * width)
        (Blocks.block width data (i * slots + (j + drop))) := by
  have dst : i * width * slots + j * width = (i * slots + j) * width := by ring
  have src : i * width * slots + (j + drop) * width = (i * slots + (j + drop)) * width := by ring
  rw [memcpy, dst, src, Blocks.block]

/-- After the moves of `many` slots, these hold what lay `drop` slots behind them; the rest
of the array is as it was. The sources lie ahead of what has been moved. -/
theorem shift_blocks {outers i : Nat} {data : List Scalar}
    (sized : data.length = outers * slots * width) (outerBelow : i < outers) (many : Nat)
    (inside : retain + many + drop ≤ slots) :
    let moved := (List.range' retain many).foldl
      (fun moved j => memcpy moved (i * width * slots + j * width)
        (i * width * slots + (j + drop) * width) width) data
    moved.length = outers * slots * width ∧
      ∀ outer slot, slot < slots →
        Blocks.block width moved (outer * slots + slot) =
          if outer = i ∧ retain ≤ slot ∧ slot < retain + many then
            Blocks.block width data (i * slots + (slot + drop))
          else Blocks.block width data (outer * slots + slot) := by
  induction many with
  | zero =>
    refine ⟨sized, fun outer slot _ => ?_⟩
    rw [if_neg (by omega)]
    rfl
  | succ many ih =>
    obtain ⟨movedSized, movedBlocks⟩ := ih (by omega)
    rw [List.range'_1_concat, List.foldl_append]
    simp only [List.foldl_cons, List.foldl_nil]
    generalize (List.range' retain many).foldl _ data = moved at movedSized movedBlocks ⊢
    rw [memcpy_slot]
    have target : i * slots + (retain + many) < outers * slots :=
      Blocks.blockIndex_lt outerBelow (by omega)
    have source : i * slots + (retain + many + drop) < outers * slots :=
      Blocks.blockIndex_lt outerBelow (by omega)
    have rowSized := Blocks.block_length movedSized source
    refine ⟨Blocks.overwrite_block_length 0 movedSized target rowSized, ?_⟩
    intro outer slot slotBelow
    rw [Blocks.block_overwrite 0 movedSized target rowSized]
    by_cases here : outer = i ∧ slot = retain + many
    · obtain ⟨rfl, rfl⟩ := here
      rw [if_pos rfl, if_pos ⟨rfl, by omega, by omega⟩,
        movedBlocks outer (retain + many + drop) (by omega), if_neg (by omega)]
    · have apart : outer * slots + slot ≠ i * slots + (retain + many) := by
        intro same
        exact here ((Blocks.blockIndex_inj slotBelow (by omega)).mp same)
      rw [if_neg apart, movedBlocks outer slot slotBelow]
      by_cases moving : outer = i ∧ retain ≤ slot ∧ slot < retain + many
      · rw [if_pos moving, if_pos ⟨moving.1, moving.2.1, by omega⟩]
      · rw [if_neg moving, if_neg]
        intro later
        apply moving
        refine ⟨later.1, later.2.1, ?_⟩
        have notHere : slot ≠ retain + many := fun same => here ⟨later.1, same⟩
        omega

/-- One round of the loop over `i`. -/
theorem dropSlots_blocks {outers i : Nat} {data : List Scalar}
    (sized : data.length = outers * slots * width) (outerBelow : i < outers)
    (inside : retain + drop ≤ slots) :
    (dropSlots true slots width drop retain data i).length = outers * slots * width ∧
      ∀ outer slot, slot < slots →
        Blocks.block width (dropSlots true slots width drop retain data i)
            (outer * slots + slot) =
          if outer = i ∧ retain ≤ slot then
            if slot + drop < slots then Blocks.block width data (i * slots + (slot + drop))
            else List.replicate width 0
          else Blocks.block width data (outer * slots + slot) := by
  obtain ⟨shiftedSized, shiftedBlocks⟩ := shift_blocks sized outerBelow
    (slots - drop - retain) (show retain + (slots - drop - retain) + drop ≤ slots by omega)
  rw [dropSlots, if_pos rfl]
  change (shiftSlots data i slots width drop retain).length = _ at shiftedSized
  change ∀ outer slot, slot < slots →
    Blocks.block width (shiftSlots data i slots width drop retain) (outer * slots + slot) = _
    at shiftedBlocks
  generalize shiftSlots data i slots width drop retain = shifted at shiftedSized shiftedBlocks ⊢
  have start : i * slots * width + (slots - drop) * width =
      (i * slots + (slots - drop)) * width := by ring
  have amount : width * drop = drop * width := Nat.mul_comm width drop
  have room : i * slots + (slots - drop) + drop ≤ outers * slots := by
    have next : i * slots + slots ≤ outers * slots := Blocks.block_inside outerBelow
    omega
  rw [memsetZero, start, amount]
  constructor
  · have fits : (i * slots + (slots - drop)) * width + drop * width ≤
        outers * slots * width := by
      rw [← Nat.add_mul]
      exact Nat.mul_le_mul_right width room
    rw [ByteImage.overwrite_length, List.length_replicate, shiftedSized]
    omega
  intro outer slot slotBelow
  rw [Blocks.block_fill 0 0 shiftedSized room, shiftedBlocks outer slot slotBelow]
  by_cases cleared : i * slots + (slots - drop) ≤ outer * slots + slot ∧
      outer * slots + slot < i * slots + (slots - drop) + drop
  · have here : outer = i := by
      by_contra apart
      have order : outer * slots + slots ≤ i * slots ∨ i * slots + slots ≤ outer * slots :=
        Blocks.blocks_apart apart
      rcases order with before | after
      · omega
      · omega
    subst here
    rw [if_pos cleared, if_pos ⟨rfl, by omega⟩, if_neg (by omega)]
  · rw [if_neg cleared]
    by_cases here : outer = i
    · subst here
      by_cases kept : retain ≤ slot
      · rw [if_pos ⟨rfl, kept, by omega⟩, if_pos ⟨rfl, kept⟩, if_pos (by omega)]
      · rw [if_neg (by omega), if_neg (by omega)]
    · rw [if_neg (fun claimed => here claimed.1), if_neg (fun claimed => here claimed.1)]

/-- The loop over `i`: the slots in front of `retain` stay, those behind move down, and the
last ones are cleared. -/
theorem dropAll_blocks {outers : Nat} {data : List Scalar}
    (sized : data.length = outers * slots * width) (inside : retain + drop ≤ slots)
    (rounds : Nat) (few : rounds ≤ outers) :
    ((List.range rounds).foldl (dropSlots true slots width drop retain) data).length =
        outers * slots * width ∧
      ∀ outer slot, slot < slots →
        Blocks.block width
            ((List.range rounds).foldl (dropSlots true slots width drop retain) data)
            (outer * slots + slot) =
          if outer < rounds ∧ retain ≤ slot then
            if slot + drop < slots then
              Blocks.block width data (outer * slots + (slot + drop))
            else List.replicate width 0
          else Blocks.block width data (outer * slots + slot) := by
  induction rounds with
  | zero => exact ⟨sized, fun outer slot _ => by rw [if_neg (by omega)]; rfl⟩
  | succ rounds ih =>
    obtain ⟨earlierSized, earlierBlocks⟩ := ih (by omega)
    rw [List.range_succ, List.foldl_append]
    simp only [List.foldl_cons, List.foldl_nil]
    generalize (List.range rounds).foldl _ data = earlier at earlierSized earlierBlocks ⊢
    obtain ⟨laterSized, laterBlocks⟩ := dropSlots_blocks earlierSized
      (show rounds < outers by omega) inside
    refine ⟨laterSized, fun outer slot slotBelow => ?_⟩
    rw [laterBlocks outer slot slotBelow]
    by_cases here : outer = rounds ∧ retain ≤ slot
    · obtain ⟨rfl, kept⟩ := here
      rw [if_pos ⟨rfl, kept⟩,
        if_pos (show outer < outer + 1 ∧ retain ≤ slot from ⟨Nat.lt_succ_self outer, kept⟩)]
      by_cases fits : slot + drop < slots
      · rw [if_pos fits, if_pos fits, earlierBlocks outer (slot + drop) fits,
          if_neg (by omega)]
      · rw [if_neg fits, if_neg fits]
    · rw [if_neg here, earlierBlocks outer slot slotBelow]
      by_cases before : outer < rounds ∧ retain ≤ slot
      · rw [if_pos before, if_pos (show outer < rounds + 1 ∧ retain ≤ slot from
          ⟨Nat.lt_succ_of_lt before.1, before.2⟩)]
      · rw [if_neg before, if_neg]
        intro claimed
        rcases Nat.lt_succ_iff_lt_or_eq.mp claimed.1 with earlierRound | last
        · exact before ⟨earlierRound, claimed.2⟩
        · exact here ⟨last, claimed.2⟩

end Dropping

/-- A drop that stays inside the dimension succeeds, keeps the first slots, moves the later
ones down and clears the last ones. -/
theorem dropTokens_slots {buffer : TensorBuffer Scalar} {axis slots drop retain : Nat}
    (shaped : buffer.HasSlots axis slots) (inside : retain + drop ≤ slots) :
    ∃ dropped, buffer.dropTokensfromTensorBuffer drop axis retain true = .ok dropped ∧
      dropped.elementType = buffer.elementType ∧ dropped.dimensions = buffer.dimensions ∧
      dropped.HasSlots axis slots ∧
      ∀ outer slot, outer < buffer.prevDimsSize axis → slot < slots →
        dropped.slotRow axis slots outer slot =
          if slot < retain then buffer.slotRow axis slots outer slot
          else if slot + drop < slots then buffer.slotRow axis slots outer (slot + drop)
          else List.replicate (buffer.nextDimsSize axis) 0 := by
  rw [dropTokensfromTensorBuffer, shaped.dimension]
  simp only [if_neg (show ¬((drop : Int) < 0) by omega),
    if_neg (show ¬((drop : Int) > slots) by omega),
    if_neg (show ¬((retain : Int) > slots) by omega),
    if_neg (show ¬((retain : Int) < 0) by omega),
    if_neg (show ¬((retain : Int) + drop > slots) by omega), Int.toNat_natCast]
  obtain ⟨sized, blocks⟩ := dropAll_blocks shaped.sized inside
    (buffer.prevDimsSize axis) (Nat.le_refl _)
  refine ⟨_, rfl, rfl, rfl, ⟨shaped.dimension, sized⟩, fun outer slot outerBelow slotBelow => ?_⟩
  refine (blocks outer slot slotBelow).trans ?_
  by_cases kept : slot < retain
  · rw [if_neg (by omega), if_pos kept]
    rfl
  · rw [if_pos ⟨outerBelow, by omega⟩, if_neg kept]
    rfl

end TensorBuffer

end LiteRTLM.Util
