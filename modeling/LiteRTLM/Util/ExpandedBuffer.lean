import LiteRTLM.Util.TensorBuffer

/-!
Contract: tensor buffers that are enlarged in one dimension.

Owns: `ExpandBuffer` and `ResizeKVCacheTensorBuffer` on buffers in host memory, and that
the entries of the old buffer keep their place.

Does not own: when a cache is enlarged, and the creation of the new buffer, whose outcome
and first contents are given.

Sizes and offsets are natural numbers, counted in elements.
-/

namespace LiteRTLM.Util.TensorBuffer

open LiteRTLM.Engine
open LiteRTLM.Library

variable {Scalar : Type} [Zero Scalar]

/-! ## Expanding -/

/-- The loop that looks for `expansion_axis`, from dimension `i` on. -/
def expansionAxis : Nat → Option Nat → List Nat → List Nat → StatusOr (Option Nat)
  | i, axis, srcDim :: srcShape, dstDim :: dstShape =>
      if srcDim ≠ dstDim then
        if axis ≠ none then
          .error (.invalidArgumentError "Tensors differ in more than one dimension.")
        else if dstDim < srcDim then
          .error (.invalidArgumentError
            "Destination tensor dimension is smaller than source along an axis.")
        else expansionAxis (i + 1) (some i) srcShape dstShape
      else expansionAxis (i + 1) axis srcShape dstShape
  | _, axis, _, _ => .ok axis

/-- `memcpy` of `count` elements to another buffer. -/
def memcpyFrom (dstData srcData : List Scalar) (dstOffset srcOffset count : Nat) : List Scalar :=
  ByteImage.overwrite 0 dstData dstOffset (ByteImage.slice srcData srcOffset (srcOffset + count))

/-- The body of the loop over the outer blocks. -/
def copyOuterBlock (srcData : List Scalar) (innerBlockSize srcDim dstDim : Nat)
    (dstData : List Scalar) (i : Nat) : List Scalar :=
  (List.range srcDim).foldl
    (fun copied j => memcpyFrom copied srcData
      (i * (dstDim * innerBlockSize) + j * innerBlockSize)
      (i * (srcDim * innerBlockSize) + j * innerBlockSize) innerBlockSize)
    dstData

/-- `ExpandBuffer`: the new contents of `dst_data`. -/
def expandBuffer (srcData : List Scalar) (srcShape : List Nat) (dstData : List Scalar)
    (dstShape : List Nat) : StatusOr (List Scalar) :=
  if srcShape.length ≠ dstShape.length then
    .error (.internalError "src_shape.size() == dst_shape.size()")
  else do
    match ← expansionAxis 0 none srcShape dstShape with
    | none => .error (.invalidArgumentError "No expansion axis found.")
    | some axis =>
        let cleared := memsetZero dstData 0 dstShape.prod
        return (List.range (srcShape.take axis).prod).foldl
          (copyOuterBlock srcData (srcShape.drop (axis + 1)).prod (srcShape.getD axis 0)
            (dstShape.getD axis 0)) cleared

/-- `ResizeKVCacheTensorBuffer`; `created` is the outcome of creating the new buffer, with
what its memory holds at first. -/
def resizeKVCacheTensorBuffer (created : StatusOr (Nat → Scalar))
    (tensorBuffer : TensorBuffer Scalar) (dynamicDimIndex numEntriesToInsert : Nat) :
    StatusOr (TensorBuffer Scalar) := do
  let newDimensions := tensorBuffer.dimensions.mapIdx fun i dimension =>
    if i = dynamicDimIndex then dimension + numEntriesToInsert else dimension
  let contents ← created
  let data ← expandBuffer tensorBuffer.data tensorBuffer.dimensions
    ((List.range newDimensions.prod).map contents) newDimensions
  return { tensorBuffer with dimensions := newDimensions, data }

/-! ## The axis -/

/-- Equal dimensions in front of an axis are passed over. -/
theorem expansionAxis_front (front : List Nat) (i : Nat) (axis : Option Nat)
    (srcShape dstShape : List Nat) :
    expansionAxis i axis (front ++ srcShape) (front ++ dstShape) =
      expansionAxis (i + front.length) axis srcShape dstShape := by
  induction front generalizing i with
  | nil => rfl
  | cons dimension rest inductionHypothesis =>
      rw [List.cons_append, List.cons_append, expansionAxis,
        if_neg (fun differs => differs rfl), inductionHypothesis, List.length_cons]
      congr 1
      omega

/-- Shapes that differ in one larger dimension are told apart there. -/
theorem expansionAxis_larger (front behind : List Nat) {slots more : Nat} (grows : 0 < more) :
    expansionAxis 0 none (front ++ slots :: behind) (front ++ (slots + more) :: behind) =
      .ok (some front.length) := by
  have rest := expansionAxis_front behind (0 + front.length + 1) (some (0 + front.length)) [] []
  rw [List.append_nil] at rest
  rw [expansionAxis_front, expansionAxis, if_pos (by omega), if_neg (fun set => set rfl),
    if_neg (by omega), rest, expansionAxis, Nat.zero_add]
  intro srcDim srcShape dstDim dstShape empty
  exact absurd empty (by simp)

/-! ## The copied entries -/

section Copying

variable {slots more width outers : Nat} {srcData : List Scalar}

/-- One copy of the loop over `j`, on block numbers. -/
theorem memcpyFrom_slot (dstData : List Scalar) (i j : Nat) :
    memcpyFrom dstData srcData (i * ((slots + more) * width) + j * width)
        (i * (slots * width) + j * width) width =
      ByteImage.overwrite 0 dstData ((i * (slots + more) + j) * width)
        (Blocks.block width srcData (i * slots + j)) := by
  have dst : i * ((slots + more) * width) + j * width = (i * (slots + more) + j) * width := by
    ring
  have src : i * (slots * width) + j * width = (i * slots + j) * width := by ring
  rw [memcpyFrom, dst, src, Blocks.block]

/-- After the copies of `many` entries, these hold what the old buffer holds there. -/
theorem copy_blocks {i : Nat} {dstData : List Scalar}
    (srcSized : srcData.length = outers * slots * width)
    (dstSized : dstData.length = outers * (slots + more) * width) (outerBelow : i < outers)
    (many : Nat) (few : many ≤ slots) :
    let copied := (List.range many).foldl
      (fun copied j => memcpyFrom copied srcData (i * ((slots + more) * width) + j * width)
        (i * (slots * width) + j * width) width) dstData
    copied.length = outers * (slots + more) * width ∧
      ∀ outer slot, slot < slots + more →
        Blocks.block width copied (outer * (slots + more) + slot) =
          if outer = i ∧ slot < many then Blocks.block width srcData (i * slots + slot)
          else Blocks.block width dstData (outer * (slots + more) + slot) := by
  induction many with
  | zero =>
      refine ⟨dstSized, fun outer slot _ => ?_⟩
      rw [if_neg (by omega)]
      rfl
  | succ many inductionHypothesis =>
      have earlier := inductionHypothesis (by omega)
      rw [List.range_succ, List.foldl_append]
      simp only [List.foldl_cons, List.foldl_nil] at earlier ⊢
      generalize (List.range many).foldl _ dstData = copied at earlier ⊢
      have source : i * slots + many < outers * slots :=
        Blocks.blockIndex_lt outerBelow (by omega)
      have target : i * (slots + more) + many < outers * (slots + more) :=
        Blocks.blockIndex_lt outerBelow (by omega)
      have rowSized := Blocks.block_length srcSized source
      rw [memcpyFrom_slot]
      refine ⟨Blocks.overwrite_block_length 0 earlier.1 target rowSized, ?_⟩
      intro outer slot slotBelow
      rw [Blocks.block_overwrite 0 earlier.1 target rowSized]
      by_cases here : outer = i ∧ slot = many
      · rw [here.1, here.2, if_pos rfl, if_pos ⟨rfl, Nat.lt_succ_self many⟩]
      · have apart : outer * (slots + more) + slot ≠ i * (slots + more) + many := by
          intro same
          exact here ((Blocks.blockIndex_inj slotBelow (by omega)).mp same)
        rw [if_neg apart, earlier.2 outer slot slotBelow]
        by_cases before : outer = i ∧ slot < many
        · rw [if_pos before, if_pos ⟨before.1, by omega⟩]
        · rw [if_neg before, if_neg]
          intro claimed
          have notHere : slot ≠ many := fun same => here ⟨claimed.1, same⟩
          exact before ⟨claimed.1, by omega⟩

/-- The loop over the outer blocks: the entries of the old buffer are copied to their
place, and the new ones are as they were. -/
theorem copyAll_blocks {dstData : List Scalar}
    (srcSized : srcData.length = outers * slots * width) (more : Nat)
    (dstSized : dstData.length = outers * (slots + more) * width)
    (rounds : Nat) (few : rounds ≤ outers) :
    let copied := (List.range rounds).foldl
      (copyOuterBlock srcData width slots (slots + more)) dstData
    copied.length = outers * (slots + more) * width ∧
      ∀ outer slot, slot < slots + more →
        Blocks.block width copied (outer * (slots + more) + slot) =
          if outer < rounds ∧ slot < slots then
            Blocks.block width srcData (outer * slots + slot)
          else Blocks.block width dstData (outer * (slots + more) + slot) := by
  induction rounds with
  | zero =>
      refine ⟨dstSized, fun outer slot _ => ?_⟩
      rw [if_neg (by omega)]
      rfl
  | succ rounds inductionHypothesis =>
      have earlier := inductionHypothesis (by omega)
      rw [List.range_succ, List.foldl_append]
      simp only [List.foldl_cons, List.foldl_nil] at earlier ⊢
      generalize (List.range rounds).foldl _ dstData = copied at earlier ⊢
      have later := copy_blocks srcSized earlier.1 (show rounds < outers by omega) slots
        (Nat.le_refl slots)
      refine ⟨later.1, fun outer slot slotBelow => ?_⟩
      rw [copyOuterBlock, later.2 outer slot slotBelow]
      by_cases here : outer = rounds ∧ slot < slots
      · rw [if_pos here, here.1, if_pos ⟨Nat.lt_succ_self rounds, here.2⟩]
      · rw [if_neg here, earlier.2 outer slot slotBelow]
        by_cases before : outer < rounds ∧ slot < slots
        · rw [if_pos before, if_pos ⟨by omega, before.2⟩]
        · rw [if_neg before, if_neg]
          intro claimed
          have notHere : outer ≠ rounds := fun same => here ⟨same, claimed.2⟩
          exact before ⟨by omega, claimed.2⟩

end Copying

/-! ## Enlarging a buffer -/

/-- The shape of the enlarged buffer. -/
theorem newDimensions_eq {dimensions : List Nat} {axis slots more : Nat}
    (dimension : dimensions[axis]? = some slots) :
    (dimensions.mapIdx fun i dim => if i = axis then dim + more else dim) =
      dimensions.set axis (slots + more) := by
  apply List.ext_getElem?
  intro i
  rw [List.getElem?_mapIdx, List.getElem?_set]
  by_cases here : axis = i
  · subst here
    have below := (List.getElem?_eq_some_iff.mp dimension).1
    rw [dimension, if_pos rfl, if_pos below]
    exact congrArg some (if_pos rfl)
  · have apart : ¬i = axis := fun same => here same.symm
    simp only [if_neg here, if_neg apart]
    cases dimensions[i]? <;> rfl

theorem set_split {dimensions : List Nat} {axis slots : Nat} (entries : Nat)
    (dimension : dimensions[axis]? = some slots) :
    dimensions.set axis entries =
      dimensions.take axis ++ entries :: dimensions.drop (axis + 1) := by
  rw [List.set_eq_take_append_cons_drop,
    if_pos (List.getElem?_eq_some_iff.mp dimension).1]

/-- A shape and the same shape with one larger dimension are told apart there. -/
theorem expansionAxis_set {dimensions : List Nat} {axis slots more : Nat}
    (dimension : dimensions[axis]? = some slots) (grows : 0 < more) :
    expansionAxis 0 none dimensions (dimensions.set axis (slots + more)) = .ok (some axis) := by
  obtain ⟨parts, frontLength⟩ := dimensions_split dimension
  calc expansionAxis 0 none dimensions (dimensions.set axis (slots + more))
      = expansionAxis 0 none
          (dimensions.take axis ++ slots :: dimensions.drop (axis + 1))
          (dimensions.take axis ++ (slots + more) :: dimensions.drop (axis + 1)) := by
        rw [← parts, ← set_split (slots + more) dimension]
    _ = .ok (some axis) := by rw [expansionAxis_larger _ _ grows, frontLength]

theorem memsetZero_all {data : List Scalar} {count : Nat} (sized : data.length = count) :
    memsetZero data 0 count = List.replicate count 0 := by
  simp [memsetZero, ByteImage.overwrite, sized]

/-- `ExpandBuffer` along one axis. -/
theorem expandBuffer_set (srcData : List Scalar) {dimensions : List Nat} {axis slots more : Nat}
    (dimension : dimensions[axis]? = some slots) (grows : 0 < more) {dstData : List Scalar}
    (dstSized : dstData.length = (dimensions.set axis (slots + more)).prod) :
    expandBuffer srcData dimensions dstData (dimensions.set axis (slots + more)) =
      .ok ((List.range (dimensions.take axis).prod).foldl
        (copyOuterBlock srcData (dimensions.drop (axis + 1)).prod slots (slots + more))
        (List.replicate (dimensions.set axis (slots + more)).prod 0)) := by
  have oldDim : dimensions.getD axis 0 = slots := by
    rw [List.getD_eq_getElem?_getD, dimension, Option.getD_some]
  have newDim : (dimensions.set axis (slots + more)).getD axis 0 = slots + more := by
    rw [List.getD_eq_getElem?_getD,
      List.getElem?_set_self (List.getElem?_eq_some_iff.mp dimension).1, Option.getD_some]
  rw [expandBuffer, List.length_set, if_neg (fun differ => differ rfl),
    expansionAxis_set dimension grows]
  change Except.ok _ = _
  rw [oldDim, newDim, memsetZero_all dstSized]

/-- An enlarged buffer has the old entries in their place, and cleared ones behind them. -/
theorem resizeKVCacheTensorBuffer_slots {buffer : TensorBuffer Scalar} {axis slots more : Nat}
    (shaped : buffer.HasSlots axis slots) (grows : 0 < more) (contents : Nat → Scalar) :
    ∃ resized, buffer.resizeKVCacheTensorBuffer (.ok contents) axis more = .ok resized ∧
      resized.dimensions = buffer.dimensions.set axis (slots + more) ∧
      resized.HasSlots axis (slots + more) ∧
      ∀ outer slot, outer < buffer.prevDimsSize axis → slot < slots + more →
        resized.slotRow axis (slots + more) outer slot =
          if slot < slots then buffer.slotRow axis slots outer slot
          else List.replicate (buffer.nextDimsSize axis) 0 := by
  have below := (List.getElem?_eq_some_iff.mp shaped.dimension).1
  have total : (buffer.dimensions.set axis (slots + more)).prod =
      buffer.prevDimsSize axis * (slots + more) * buffer.nextDimsSize axis := by
    rw [set_split (slots + more) shaped.dimension, List.prod_append, List.prod_cons,
      prevDimsSize, nextDimsSize]
    ring
  have ran : buffer.resizeKVCacheTensorBuffer (.ok contents) axis more =
      .ok { buffer with
        dimensions := buffer.dimensions.set axis (slots + more)
        data := (List.range (buffer.prevDimsSize axis)).foldl
          (copyOuterBlock buffer.data (buffer.nextDimsSize axis) slots (slots + more))
          (List.replicate (buffer.dimensions.set axis (slots + more)).prod 0) } := by
    rw [resizeKVCacheTensorBuffer, newDimensions_eq shaped.dimension]
    change (do
      let data ← expandBuffer buffer.data buffer.dimensions _ _
      return { buffer with dimensions := _, data } : StatusOr (TensorBuffer Scalar)) = _
    rw [expandBuffer_set buffer.data shaped.dimension grows
      (by rw [List.length_map, List.length_range])]
    rfl
  obtain ⟨sized, blocks⟩ := copyAll_blocks shaped.sized more
    (show (List.replicate (buffer.dimensions.set axis (slots + more)).prod (0 : Scalar)).length =
      _ by rw [List.length_replicate, total])
    (buffer.prevDimsSize axis) (Nat.le_refl _)
  have samePrev : (buffer.dimensions.set axis (slots + more)).take axis =
      buffer.dimensions.take axis := List.take_set_of_le (Nat.le_refl axis)
  have sameNext : (buffer.dimensions.set axis (slots + more)).drop (axis + 1) =
      buffer.dimensions.drop (axis + 1) := List.drop_set_of_lt (Nat.lt_succ_self axis)
  refine ⟨_, ran, rfl, ⟨List.getElem?_set_self below, ?_⟩, ?_⟩
  · change _ = ((buffer.dimensions.set axis (slots + more)).take axis).prod * (slots + more) *
      ((buffer.dimensions.set axis (slots + more)).drop (axis + 1)).prod
    rw [samePrev, sameNext]
    exact sized
  · intro outer slot outerBelow slotBelow
    change Blocks.block ((buffer.dimensions.set axis (slots + more)).drop (axis + 1)).prod _ _ = _
    rw [sameNext]
    refine (blocks outer slot slotBelow).trans ?_
    by_cases old : slot < slots
    · rw [if_pos ⟨outerBelow, old⟩, if_pos old]
      rfl
    · rw [if_neg (fun both => old both.2), if_neg old, total]
      exact Blocks.block_replicate 0 (Blocks.blockIndex_lt outerBelow slotBelow)

end LiteRTLM.Util.TensorBuffer
