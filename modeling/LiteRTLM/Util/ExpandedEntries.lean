import Mathlib
import LiteRTLM.Library.RangeFill
import LiteRTLM.Library.RowMajor
import LiteRTLM.Util.ExpandedBuffer

/-!
Contract: what `ExpandBuffer` does to the bytes of its destination, for any rank, any shapes
and any element size.

Owns: the function on the bytes of two buffers, with every access checked against their
sizes; the shapes it accepts; and the element it leaves at each index of the destination.

Does not own: the loops over the blocks, which are those of the function on elements.

Dimensions, sizes and offsets are natural numbers.
-/

namespace LiteRTLM.Util.TensorBuffer

open LiteRTLM.Engine
open LiteRTLM.Library

/-! ## The call -/

/-- `memcpy` of `count` bytes to another buffer; `none` when a range leaves its buffer. -/
def memcpyInside (srcData dstData : List UInt8) (dstOffset srcOffset count : Nat) :
    Option (List UInt8) :=
  if srcOffset + count ≤ srcData.length ∧ dstOffset + count ≤ dstData.length then
    some (memcpyFrom dstData srcData dstOffset srcOffset count)
  else none

/-- The body of the loop over the outer blocks, on bytes. -/
def copyOuterBlockInside (srcData : List UInt8) (elementSize innerBlockSizeInElements srcDim
    dstDim : Nat) (dstData : List UInt8) (i : Nat) : Option (List UInt8) :=
  let innerBlockSizeInBytes := innerBlockSizeInElements * elementSize
  let srcOuterBlockStart := i * (srcDim * innerBlockSizeInElements) * elementSize
  let dstOuterBlockStart := i * (dstDim * innerBlockSizeInElements) * elementSize
  (List.range srcDim).foldlM
    (fun copied j => memcpyInside srcData copied (dstOuterBlockStart + j * innerBlockSizeInBytes)
      (srcOuterBlockStart + j * innerBlockSizeInBytes) innerBlockSizeInBytes)
    dstData

/-- `ExpandBuffer`: the status and the destination; `none` when an access leaves a buffer. -/
def expandBufferInPlace (srcData : List UInt8) (srcShape : List Nat) (dstData : List UInt8)
    (dstShape : List Nat) (elementSize : Nat) : Option (StatusOr Unit × List UInt8) :=
  if srcShape.length ≠ dstShape.length then
    some (.error (.internalError "src_shape.size() == dst_shape.size()"), dstData)
  else
    match expansionAxis 0 none srcShape dstShape with
    | .error status => some (.error status, dstData)
    | .ok none => some (.error (.invalidArgumentError "No expansion axis found."), dstData)
    | .ok (some axis) => do
        let cleared ← RangeFill.fill 0 dstData ⟨0, dstShape.prod * elementSize⟩
        let copied ← (List.range (srcShape.take axis).prod).foldlM
          (copyOuterBlockInside srcData elementSize (srcShape.drop (axis + 1)).prod
            (srcShape.getD axis 0) (dstShape.getD axis 0)) cleared
        return (.ok (), copied)

/-! ## The accepted shapes -/

/-- The shapes have one rank and differ in one dimension, where the destination is larger. -/
def ExpandsOneAxis (srcShape dstShape : List Nat) : Prop :=
  ∃ front slots more behind, 0 < more ∧ srcShape = front ++ slots :: behind ∧
    dstShape = front ++ (slots + more) :: behind

/-- Once an axis is found, the remaining dimensions are equal. -/
theorem expansionAxis_found {i first axis : Nat} {srcShape dstShape : List Nat}
    (sameRank : srcShape.length = dstShape.length)
    (found : expansionAxis i (some first) srcShape dstShape = .ok (some axis)) :
    axis = first ∧ srcShape = dstShape := by
  induction srcShape generalizing i dstShape with
  | nil =>
      rw [List.eq_nil_of_length_eq_zero sameRank.symm] at found ⊢
      cases found
      exact ⟨rfl, rfl⟩
  | cons srcDim srcShape inductionHypothesis =>
      cases dstShape with
      | nil => cases sameRank
      | cons dstDim dstShape =>
          rw [expansionAxis] at found
          by_cases differs : srcDim ≠ dstDim
          · rw [if_pos differs, if_pos (by intro impossible; cases impossible)] at found
            cases found
          · rw [if_neg differs] at found
            obtain ⟨sameAxis, sameShape⟩ := inductionHypothesis (Nat.succ.inj sameRank) found
            exact ⟨sameAxis, by rw [not_not.mp differs, sameShape]⟩

/-- An axis is found only in shapes that differ there and nowhere else. -/
theorem expansionAxis_sound {i axis : Nat} {srcShape dstShape : List Nat}
    (sameRank : srcShape.length = dstShape.length)
    (found : expansionAxis i none srcShape dstShape = .ok (some axis)) :
    ExpandsOneAxis srcShape dstShape := by
  induction srcShape generalizing i dstShape with
  | nil =>
      rw [List.eq_nil_of_length_eq_zero sameRank.symm] at found
      cases found
  | cons srcDim srcShape inductionHypothesis =>
      cases dstShape with
      | nil => cases sameRank
      | cons dstDim dstShape =>
          rw [expansionAxis] at found
          by_cases differs : srcDim ≠ dstDim
          · rw [if_pos differs, if_neg (fun set => set rfl)] at found
            by_cases smaller : dstDim < srcDim
            · rw [if_pos smaller] at found
              cases found
            · rw [if_neg smaller] at found
              obtain ⟨-, sameShape⟩ := expansionAxis_found (Nat.succ.inj sameRank) found
              refine ⟨[], srcDim, dstDim - srcDim, srcShape, by omega, rfl, ?_⟩
              rw [List.nil_append, sameShape, Nat.add_sub_cancel' (by omega)]
          · rw [if_neg differs] at found
            obtain ⟨front, slots, more, behind, grows, rfl, rfl⟩ :=
              inductionHypothesis (Nat.succ.inj sameRank) found
            refine ⟨srcDim :: front, slots, more, behind, grows, rfl, ?_⟩
            rw [not_not.mp differs, List.cons_append]

/-! ## The accesses -/

section Accesses

variable {slots more inner outers elementSize : Nat} {srcData : List UInt8}

theorem memcpyFrom_length {dstData : List UInt8} {dstOffset srcOffset count : Nat}
    (inside : dstOffset + count ≤ dstData.length) :
    (memcpyFrom dstData srcData dstOffset srcOffset count).length = dstData.length := by
  rw [memcpyFrom, ByteImage.overwrite_length, ByteImage.slice_length]
  omega

/-- The copies of one outer block stay inside both buffers. -/
theorem copyOuterBlockInside_eq (srcSized : srcData.length = outers * slots * (inner * elementSize))
    {dstData : List UInt8}
    (dstSized : dstData.length = outers * (slots + more) * (inner * elementSize)) {i : Nat}
    (outerBelow : i < outers) :
    copyOuterBlockInside srcData elementSize inner slots (slots + more) dstData i =
        some (copyOuterBlock srcData (inner * elementSize) slots (slots + more) dstData i) ∧
      (copyOuterBlock srcData (inner * elementSize) slots (slots + more) dstData i).length =
        outers * (slots + more) * (inner * elementSize) := by
  have srcStart : i * (slots * inner) * elementSize = i * (slots * (inner * elementSize)) := by
    ring
  have dstStart : i * ((slots + more) * inner) * elementSize =
      i * ((slots + more) * (inner * elementSize)) := by
    ring
  rw [copyOuterBlockInside, srcStart, dstStart]
  refine RangeFill.foldlM_eq_foldl
    (fun copied : List UInt8 =>
      copied.length = outers * (slots + more) * (inner * elementSize)) _ _ dstSized ?_
  intro copied copiedSized j member
  have slotBelow : j < slots := List.mem_range.mp member
  have read : i * (slots * (inner * elementSize)) + j * (inner * elementSize) +
      inner * elementSize ≤ srcData.length := by
    calc i * (slots * (inner * elementSize)) + j * (inner * elementSize) + inner * elementSize
        = (i * slots + j) * (inner * elementSize) + inner * elementSize := by ring
      _ ≤ srcData.length := by
        rw [srcSized]
        exact Blocks.block_inside (Blocks.blockIndex_lt outerBelow slotBelow)
  have written : i * ((slots + more) * (inner * elementSize)) + j * (inner * elementSize) +
      inner * elementSize ≤ copied.length := by
    calc i * ((slots + more) * (inner * elementSize)) + j * (inner * elementSize) +
          inner * elementSize
        = (i * (slots + more) + j) * (inner * elementSize) + inner * elementSize := by ring
      _ ≤ copied.length := by
        rw [copiedSized]
        exact Blocks.block_inside (Blocks.blockIndex_lt outerBelow (by omega))
  exact ⟨if_pos ⟨read, written⟩, (memcpyFrom_length written).trans copiedSized⟩

/-- All copies stay inside both buffers. -/
theorem copyAllInside_eq (srcSized : srcData.length = outers * slots * (inner * elementSize))
    {dstData : List UInt8}
    (dstSized : dstData.length = outers * (slots + more) * (inner * elementSize)) :
    (List.range outers).foldlM
        (copyOuterBlockInside srcData elementSize inner slots (slots + more)) dstData =
      some ((List.range outers).foldl
        (copyOuterBlock srcData (inner * elementSize) slots (slots + more)) dstData) := by
  refine (RangeFill.foldlM_eq_foldl
    (fun copied : List UInt8 =>
      copied.length = outers * (slots + more) * (inner * elementSize)) _ _ dstSized ?_).1
  intro copied copiedSized i member
  exact copyOuterBlockInside_eq srcSized copiedSized (List.mem_range.mp member)

end Accesses

/-! ## The elements -/

/-- The call for shapes that expand one axis: every access is inside. -/
theorem expandBufferInPlace_expands {front behind : List Nat} {slots more : Nat}
    (grows : 0 < more) {srcData dstData : List UInt8} {elementSize : Nat}
    (srcSized : srcData.length = (front ++ slots :: behind).prod * elementSize)
    (dstSized : dstData.length = (front ++ (slots + more) :: behind).prod * elementSize) :
    expandBufferInPlace srcData (front ++ slots :: behind) dstData
        (front ++ (slots + more) :: behind) elementSize =
      some (.ok (), (List.range front.prod).foldl
        (copyOuterBlock srcData (behind.prod * elementSize) slots (slots + more))
        (List.replicate (front.prod * (slots + more) * (behind.prod * elementSize)) 0)) := by
  have srcTotal : (front ++ slots :: behind).prod * elementSize =
      front.prod * slots * (behind.prod * elementSize) := by
    rw [List.prod_append, List.prod_cons]
    ring
  have dstTotal : (front ++ (slots + more) :: behind).prod * elementSize =
      front.prod * (slots + more) * (behind.prod * elementSize) := by
    rw [List.prod_append, List.prod_cons]
    ring
  have cleared : RangeFill.fill 0 dstData
      ⟨0, (front ++ (slots + more) :: behind).prod * elementSize⟩ =
      some (List.replicate (front.prod * (slots + more) * (behind.prod * elementSize)) 0) := by
    rw [RangeFill.fill, if_pos (by rw [dstSized, Nat.zero_add]), ← dstTotal, ← dstSized]
    exact congrArg some (memsetZero_all rfl)
  have place : ∀ entries : Nat, (front ++ entries :: behind).getD front.length 0 = entries := by
    intro entries
    rw [List.getD_eq_getElem?_getD, List.getElem?_append_right (Nat.le_refl _), Nat.sub_self,
      List.getElem?_cons_zero, Option.getD_some]
  have inFront : (front ++ slots :: behind).take front.length = front := List.take_left
  have afterAxis : (front ++ slots :: behind).drop (front.length + 1) = behind := by
    rw [List.drop_length_add_append]
    rfl
  have sameRank : (front ++ slots :: behind).length =
      (front ++ (slots + more) :: behind).length := by
    rw [List.length_append, List.length_append, List.length_cons, List.length_cons]
  rw [expandBufferInPlace, if_neg (fun differ => differ sameRank), expansionAxis_larger _ _ grows]
  change (do
    let cleared ← RangeFill.fill 0 dstData _
    let copied ← _
    return (.ok (), copied) : Option (StatusOr Unit × List UInt8)) = _
  rw [cleared, place, place, inFront, afterAxis]
  change (do
    let copied ← (List.range front.prod).foldlM _ _
    return (.ok (), copied) : Option (StatusOr Unit × List UInt8)) = _
  rw [copyAllInside_eq (srcSized.trans srcTotal) List.length_replicate]
  rfl

/-- An equal last dimension does not change the axis. -/
theorem expansionAxis_last {srcShape dstShape : List Nat}
    (sameRank : srcShape.length = dstShape.length) (last i : Nat) (axis : Option Nat) :
    expansionAxis i axis (srcShape ++ [last]) (dstShape ++ [last]) =
      expansionAxis i axis srcShape dstShape := by
  induction srcShape generalizing i axis dstShape with
  | nil =>
      rw [List.eq_nil_of_length_eq_zero sameRank.symm]
      exact if_neg (fun differs => differs rfl)
  | cons srcDim srcShape inductionHypothesis =>
      cases dstShape with
      | nil => cases sameRank
      | cons dstDim dstShape =>
          have rest := fun position found =>
            inductionHypothesis (Nat.succ.inj sameRank) position found
          simp only [List.cons_append, expansionAxis, rest]

/-- The function on bytes is the one on elements, with the bytes of an element as one more
dimension. -/
theorem expandBufferInPlace_eq {srcShape dstShape : List Nat} {elementSize : Nat}
    {srcData dstData : List UInt8} (srcSized : srcData.length = srcShape.prod * elementSize)
    (dstSized : dstData.length = dstShape.prod * elementSize) :
    expandBufferInPlace srcData srcShape dstData dstShape elementSize =
      some (match expandBuffer srcData (srcShape ++ [elementSize]) dstData
          (dstShape ++ [elementSize]) with
        | .ok after => (.ok (), after)
        | .error status => (.error status, dstData)) := by
  by_cases sameRank : srcShape.length = dstShape.length
  · have sameLonger : (srcShape ++ [elementSize]).length = (dstShape ++ [elementSize]).length := by
      rw [List.length_append, List.length_append, sameRank]
    cases found : expansionAxis 0 none srcShape dstShape with
    | error status =>
        rw [expandBufferInPlace, if_neg (not_not.mpr sameRank), found, expandBuffer,
          if_neg (not_not.mpr sameLonger), expansionAxis_last sameRank, found]
        rfl
    | ok axis =>
        cases axis with
        | none =>
            rw [expandBufferInPlace, if_neg (not_not.mpr sameRank), found, expandBuffer,
              if_neg (not_not.mpr sameLonger), expansionAxis_last sameRank, found]
            rfl
        | some axis =>
            obtain ⟨front, slots, more, behind, grows, rfl, rfl⟩ :=
              expansionAxis_sound sameRank found
            have dimension : (front ++ slots :: (behind ++ [elementSize]))[front.length]? =
                some slots := by
              rw [List.getElem?_append_right (Nat.le_refl _), Nat.sub_self,
                List.getElem?_cons_zero]
            have enlarged : (front ++ slots :: (behind ++ [elementSize])).set front.length
                (slots + more) = front ++ (slots + more) :: (behind ++ [elementSize]) := by
              rw [List.set_append_right _ _ (Nat.le_refl _), Nat.sub_self, List.set_cons_zero]
            have total : (front ++ (slots + more) :: (behind ++ [elementSize])).prod =
                front.prod * (slots + more) * (behind.prod * elementSize) := by
              rw [List.prod_append, List.prod_cons, List.prod_append, List.prod_singleton]
              ring
            have ran := expandBuffer_set srcData dimension grows (show dstData.length = _ by
              rw [enlarged, total, dstSized, List.prod_append, List.prod_cons]
              ring)
            rw [enlarged, List.take_left, List.drop_length_add_append, total] at ran
            rw [expandBufferInPlace_expands grows srcSized dstSized, List.append_assoc,
              List.append_assoc, List.cons_append, List.cons_append, ran]
            simp only [List.drop_succ_cons, List.drop_zero, List.prod_append, List.prod_singleton]
  · have sameLonger : (srcShape ++ [elementSize]).length ≠
        (dstShape ++ [elementSize]).length := by
      rw [List.length_append, List.length_append]
      intro same
      exact sameRank (Nat.add_right_cancel same)
    rw [expandBufferInPlace, if_pos sameRank, expandBuffer, if_pos sameLonger]

def element (elementSize : Nat) (shape : List Nat) (data : List UInt8) (index : List Nat) :
    List UInt8 :=
  Blocks.block elementSize data (RowMajor.offset shape index)

/-- An element, seen from one axis: it lies in the block of its position there. -/
theorem element_eq_block {elementSize slots slot : Nat} {front behind outer inner : List Nat}
    (data : List UInt8) (outerInside : RowMajor.Inside outer front)
    (innerInside : RowMajor.Inside inner behind) :
    element elementSize (front ++ slots :: behind) data (outer ++ slot :: inner) =
      Blocks.block elementSize
        (Blocks.block (behind.prod * elementSize) data
          (RowMajor.offset front outer * slots + slot))
        (RowMajor.offset behind inner) := by
  rw [element, RowMajor.offset_append outerInside.length_eq,
    Blocks.block_block _ _ (RowMajor.offset_lt innerInside)]

/-- The copied blocks hold the old elements in their place and zeros elsewhere. -/
theorem copyAll_elements {front behind : List Nat} {slots more elementSize : Nat}
    {srcData : List UInt8}
    (srcSized : srcData.length = front.prod * slots * (behind.prod * elementSize)) :
    let after := (List.range front.prod).foldl
      (copyOuterBlock srcData (behind.prod * elementSize) slots (slots + more))
      (List.replicate (front.prod * (slots + more) * (behind.prod * elementSize)) 0)
    after.length = front.prod * (slots + more) * (behind.prod * elementSize) ∧
      ∀ index, RowMajor.Inside index (front ++ (slots + more) :: behind) →
        (RowMajor.Inside index (front ++ slots :: behind) →
          element elementSize (front ++ (slots + more) :: behind) after index =
            element elementSize (front ++ slots :: behind) srcData index) ∧
        (¬RowMajor.Inside index (front ++ slots :: behind) →
          element elementSize (front ++ (slots + more) :: behind) after index =
            List.replicate elementSize 0) := by
  intro after
  obtain ⟨afterSized, blocks⟩ := copyAll_blocks srcSized more
    (show (List.replicate (front.prod * (slots + more) * (behind.prod * elementSize))
      (0 : UInt8)).length = _ from List.length_replicate) front.prod (Nat.le_refl _)
  refine ⟨afterSized, fun index indexInside => ?_⟩
  obtain ⟨outer, slot, inner, rfl, outerInside, slotBelow, innerInside⟩ := indexInside.split
  have outerBelow : RowMajor.offset front outer < front.prod := RowMajor.offset_lt outerInside
  rw [element_eq_block after outerInside innerInside, blocks _ slot slotBelow]
  constructor
  · intro inSource
    have old : slot < slots := by
      obtain ⟨outer', slot', inner', same, outerInside', slotBelow', -⟩ := inSource.split
      have sameOuter : outer.length = outer'.length := by
        rw [outerInside.length_eq, outerInside'.length_eq]
      have sameSlot := (List.append_inj same sameOuter).2
      rw [(List.cons.inj sameSlot).1]
      exact slotBelow'
    rw [if_pos ⟨outerBelow, old⟩, element_eq_block srcData outerInside innerInside]
  · intro outsideSource
    have new : ¬(RowMajor.offset front outer < front.prod ∧ slot < slots) := by
      intro copied
      exact outsideSource (outerInside.join copied.2 innerInside)
    rw [if_neg new, Blocks.block_replicate 0 (Blocks.blockIndex_lt outerBelow slotBelow),
      Blocks.block_replicate 0 (RowMajor.offset_lt innerInside)]

/-! ## The call as a whole -/

/-- The call embeds the source: shapes that expand one axis leave each source element at its
index and zeros elsewhere, with every access inside the buffers, and any other pair of shapes
is refused and leaves the destination as it was. -/
theorem expandBufferInPlace_embeds {srcShape dstShape : List Nat} {elementSize : Nat}
    {srcData dstData : List UInt8} (srcSized : srcData.length = srcShape.prod * elementSize)
    (dstSized : dstData.length = dstShape.prod * elementSize) :
    (ExpandsOneAxis srcShape dstShape →
      ∃ after, expandBufferInPlace srcData srcShape dstData dstShape elementSize =
          some (.ok (), after) ∧
        after.length = dstData.length ∧
        ∀ index, RowMajor.Inside index dstShape →
          (RowMajor.Inside index srcShape →
            element elementSize dstShape after index =
              element elementSize srcShape srcData index) ∧
          (¬RowMajor.Inside index srcShape →
            element elementSize dstShape after index = List.replicate elementSize 0)) ∧
    (¬ExpandsOneAxis srcShape dstShape →
      ∃ status, expandBufferInPlace srcData srcShape dstData dstShape elementSize =
        some (.error status, dstData)) := by
  constructor
  · rintro ⟨front, slots, more, behind, grows, rfl, rfl⟩
    have total : ∀ entries : Nat, (front ++ entries :: behind).prod * elementSize =
        front.prod * entries * (behind.prod * elementSize) := by
      intro entries
      rw [List.prod_append, List.prod_cons]
      ring
    obtain ⟨afterSized, elements⟩ := copyAll_elements (srcSized.trans (total slots))
    exact ⟨_, expandBufferInPlace_expands grows srcSized dstSized,
      afterSized.trans (dstSized.trans (total (slots + more))).symm, elements⟩
  · intro refused
    by_cases sameRank : srcShape.length = dstShape.length
    · rw [expandBufferInPlace, if_neg (not_not.mpr sameRank)]
      cases found : expansionAxis 0 none srcShape dstShape with
      | error status => exact ⟨status, rfl⟩
      | ok axis =>
          cases axis with
          | none => exact ⟨_, rfl⟩
          | some axis => exact absurd (expansionAxis_sound sameRank found) refused
    · exact ⟨_, if_pos sameRank⟩

/-- A row of two elements of two bytes each that gets a third one. -/
theorem expandBufferInPlace_embeds_row :
    (ExpandsOneAxis [1, 2] [1, 3] →
      ∃ after, expandBufferInPlace [1, 2, 3, 4] [1, 2] [9, 9, 9, 9, 9, 9] [1, 3] 2 =
          some (.ok (), after) ∧
        after.length = 6 ∧
        ∀ index, RowMajor.Inside index [1, 3] →
          (RowMajor.Inside index [1, 2] →
            element 2 [1, 3] after index = element 2 [1, 2] [1, 2, 3, 4] index) ∧
          (¬RowMajor.Inside index [1, 2] →
            element 2 [1, 3] after index = List.replicate 2 0)) ∧
    (¬ExpandsOneAxis [1, 2] [1, 3] →
      ∃ status, expandBufferInPlace [1, 2, 3, 4] [1, 2] [9, 9, 9, 9, 9, 9] [1, 3] 2 =
        some (.error status, [9, 9, 9, 9, 9, 9])) :=
  expandBufferInPlace_embeds (show ([1, 2, 3, 4] : List UInt8).length = [1, 2].prod * 2 from rfl)
    (show ([9, 9, 9, 9, 9, 9] : List UInt8).length = [1, 3].prod * 2 from rfl)

end LiteRTLM.Util.TensorBuffer
