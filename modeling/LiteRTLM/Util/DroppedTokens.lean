import LiteRTLM.Library.RowMajor
import LiteRTLM.Util.TensorBuffer

/-!
Contract: what `DropTokensfromTensorBuffer` leaves in a buffer, entry by entry of its shape.

Owns: the function with the element type it is instantiated for and the outcome of the lock,
acting on the buffer in place; the entries it leaves; and that a refused call leaves the
buffer as it was.

Does not own: the loops that move the slots.
-/

namespace LiteRTLM.Util.TensorBuffer

open LiteRTLM.Engine
open LiteRTLM.Library

variable {Scalar : Type} [Zero Scalar]

/-- `DropTokensfromTensorBuffer<T>` on the buffer it is given. All checks come before the
lock, and the lock before the first write. -/
def dropTokensInPlace (type : ElementType) (lock : StatusOr Unit) (buffer : TensorBuffer Scalar)
    (numTokensToDrop dimension initTokensToRetain : Int) :
    StatusOr Unit × TensorBuffer Scalar :=
  if buffer.elementType ≠ type then
    (.error (.invalidArgumentError "Element type is not compatible to the target type."), buffer)
  else if dimension < 0 then
    -- The comparison with the number of dimensions is one of unsigned numbers.
    (.error (.invalidArgumentError "Target dimension is out of range."), buffer)
  else
    match buffer.dropTokensfromTensorBuffer numTokensToDrop dimension.toNat initTokensToRetain
        true with
    | .error status => (.error status, buffer)
    | .ok dropped =>
        match lock with
        | .error status => (.error status, buffer)
        | .ok () => (.ok (), dropped)

/-! ## Accepted arguments -/

/-- The arguments the function accepts. -/
structure AcceptsDrop (buffer : TensorBuffer Scalar) (numTokensToDrop dimension
    initTokensToRetain : Int) (slots : Nat) : Prop where
  dimension_nonneg : 0 ≤ dimension
  isDimension : buffer.dimensions[dimension.toNat]? = some slots
  drop_nonneg : 0 ≤ numTokensToDrop
  retain_nonneg : 0 ≤ initTokensToRetain
  fits : initTokensToRetain + numTokensToDrop ≤ slots

/-- The checks on the arguments. -/
theorem dropTokens_ok {buffer dropped : TensorBuffer Scalar} {numTokensToDrop
    initTokensToRetain : Int} {dimension : Nat} {reset : Bool}
    (accepted : buffer.dropTokensfromTensorBuffer numTokensToDrop dimension initTokensToRetain
      reset = .ok dropped) :
    ∃ slots, buffer.dimensions[dimension]? = some slots ∧ 0 ≤ numTokensToDrop ∧
      0 ≤ initTokensToRetain ∧ initTokensToRetain + numTokensToDrop ≤ slots := by
  unfold dropTokensfromTensorBuffer at accepted
  cases present : buffer.dimensions[dimension]? with
  | none => simp [present] at accepted
  | some slots =>
      simp only [present] at accepted
      split at accepted
      · cases accepted
      · split at accepted
        · cases accepted
        · split at accepted
          · cases accepted
          · split at accepted
            · cases accepted
            · split at accepted
              · cases accepted
              · exact ⟨slots, rfl, by omega, by omega, by omega⟩

/-! ## The entries -/

def entry (buffer : TensorBuffer Scalar) (index : List Nat) : Option Scalar :=
  buffer.data[RowMajor.offset buffer.dimensions index]?

/-- The elements fill the dimensions. -/
def Filled (buffer : TensorBuffer Scalar) : Prop :=
  buffer.data.length = buffer.dimensions.prod

omit [Zero Scalar] in
theorem Filled.hasSlots {buffer : TensorBuffer Scalar} (filled : buffer.Filled)
    {axis slots : Nat} (isDimension : buffer.dimensions[axis]? = some slots) :
    buffer.HasSlots axis slots := by
  refine ⟨isDimension, ?_⟩
  obtain ⟨split, -⟩ := dimensions_split isDimension
  rw [filled, prevDimsSize, nextDimsSize]
  conv_lhs => rw [split, List.prod_append, List.prod_cons]
  rw [Nat.mul_assoc]

omit [Zero Scalar] in
/-- An entry lies in the row of its slot. -/
theorem entry_eq_slotRow {buffer : TensorBuffer Scalar} {axis slots slot : Nat}
    (isDimension : buffer.dimensions[axis]? = some slots) {outer inner : List Nat}
    (outerInside : RowMajor.Inside outer (buffer.dimensions.take axis))
    (innerInside : RowMajor.Inside inner (buffer.dimensions.drop (axis + 1))) :
    buffer.entry (outer ++ slot :: inner) =
      (buffer.slotRow axis slots (RowMajor.offset (buffer.dimensions.take axis) outer)
        slot)[RowMajor.offset (buffer.dimensions.drop (axis + 1)) inner]? := by
  obtain ⟨split, -⟩ := dimensions_split isDimension
  have place : RowMajor.offset buffer.dimensions (outer ++ slot :: inner) =
      (RowMajor.offset (buffer.dimensions.take axis) outer * slots + slot) *
        buffer.nextDimsSize axis +
        RowMajor.offset (buffer.dimensions.drop (axis + 1)) inner := by
    conv_lhs => rw [split]
    exact RowMajor.offset_append outerInside.length_eq slots slot _ inner
  rw [entry, place, slotRow]
  exact (Blocks.getElem?_block buffer.data _ (RowMajor.offset_lt innerInside)).symm

/-- The shift of one axis: the retained entries stay, those behind move down by `drop`, and
the last `drop` entries are cleared. -/
def ShiftedAlong (before after : TensorBuffer Scalar) (axis slots drop retain : Nat) : Prop :=
  after.elementType = before.elementType ∧ after.dimensions = before.dimensions ∧
    after.Filled ∧
    ∀ index, RowMajor.Inside index before.dimensions → ∀ slot, index[axis]? = some slot →
      after.entry index =
        if slot < retain then before.entry index
        else if slot + drop < slots then before.entry (index.set axis (slot + drop))
        else some 0

/-- A buffer has one shift. -/
theorem ShiftedAlong.unique {before first second : TensorBuffer Scalar}
    {axis slots drop retain : Nat} (isDimension : before.dimensions[axis]? = some slots)
    (toFirst : ShiftedAlong before first axis slots drop retain)
    (toSecond : ShiftedAlong before second axis slots drop retain) : first = second := by
  obtain ⟨firstType, firstDimensions, firstFilled, firstEntries⟩ := toFirst
  obtain ⟨secondType, secondDimensions, secondFilled, secondEntries⟩ := toSecond
  have axisBelow := (List.getElem?_eq_some_iff.mp isDimension).1
  have firstLength : first.data.length = before.dimensions.prod := by
    rw [firstFilled, firstDimensions]
  have secondLength : second.data.length = before.dimensions.prod := by
    rw [secondFilled, secondDimensions]
  have sameData : first.data = second.data := by
    apply List.ext_getElem?
    intro position
    by_cases below : position < before.dimensions.prod
    · obtain ⟨index, inside, rfl⟩ := RowMajor.offset_surjective below
      have onAxis : axis < index.length := by
        rw [inside.length_eq]
        exact axisBelow
      have atAxis : index[axis]? = some index[axis] := List.getElem?_eq_getElem onAxis
      have sameEntry : first.entry index = second.entry index :=
        (firstEntries index inside _ atAxis).trans (secondEntries index inside _ atAxis).symm
      rw [entry, entry, firstDimensions, secondDimensions] at sameEntry
      exact sameEntry
    · rw [List.getElem?_eq_none (by omega), List.getElem?_eq_none (by omega)]
  cases first
  cases second
  simp only at firstType firstDimensions secondType secondDimensions sameData
  rw [firstType, firstDimensions, secondType, secondDimensions, sameData]

/-- A drop that stays inside the dimension shifts its axis. -/
theorem dropTokens_shifted {buffer : TensorBuffer Scalar} (filled : buffer.Filled)
    {axis slots drop retain : Nat} (isDimension : buffer.dimensions[axis]? = some slots)
    (inside : retain + drop ≤ slots) :
    ∃ dropped, buffer.dropTokensfromTensorBuffer drop axis retain true = .ok dropped ∧
      ShiftedAlong buffer dropped axis slots drop retain := by
  obtain ⟨dropped, ran, sameType, sameDimensions, shaped, rows⟩ :=
    dropTokens_slots (filled.hasSlots isDimension) inside
  obtain ⟨split, frontLength⟩ := dimensions_split isDimension
  have droppedFilled : dropped.Filled := by
    rw [Filled, shaped.sized, prevDimsSize, nextDimsSize, sameDimensions]
    conv_rhs => rw [split, List.prod_append, List.prod_cons]
    rw [Nat.mul_assoc]
  refine ⟨dropped, ran, sameType, sameDimensions, droppedFilled, fun index indexInside => ?_⟩
  rw [split] at indexInside
  obtain ⟨outer, slot, inner, rfl, outerInside, slotBelow, innerInside⟩ := indexInside.split
  have outerLength : outer.length = axis := by
    rw [outerInside.length_eq, frontLength]
  intro position atAxis
  rw [List.getElem?_append_right (by omega), outerLength, Nat.sub_self, List.getElem?_cons_zero,
    Option.some.injEq] at atAxis
  subst atAxis
  have moved : ∀ place, (outer ++ slot :: inner).set axis place = outer ++ place :: inner := by
    intro place
    rw [List.set_append_right _ _ (by omega), outerLength, Nat.sub_self, List.set_cons_zero]
  have droppedDimension : dropped.dimensions[axis]? = some slots := by
    rw [sameDimensions, isDimension]
  have outerBelow : RowMajor.offset (buffer.dimensions.take axis) outer <
      buffer.prevDimsSize axis := RowMajor.offset_lt outerInside
  have innerBelow : RowMajor.offset (buffer.dimensions.drop (axis + 1)) inner <
      buffer.nextDimsSize axis := RowMajor.offset_lt innerInside
  have row : dropped.entry (outer ++ slot :: inner) =
      (dropped.slotRow axis slots (RowMajor.offset (dropped.dimensions.take axis) outer)
        slot)[RowMajor.offset (dropped.dimensions.drop (axis + 1)) inner]? :=
    entry_eq_slotRow droppedDimension (by rw [sameDimensions]; exact outerInside)
      (by rw [sameDimensions]; exact innerInside)
  rw [sameDimensions] at row
  rw [row, rows _ slot outerBelow slotBelow, moved]
  by_cases kept : slot < retain
  · rw [if_pos kept, if_pos kept, entry_eq_slotRow isDimension outerInside innerInside]
  · rw [if_neg kept, if_neg kept]
    by_cases later : slot + drop < slots
    · rw [if_pos later, if_pos later, entry_eq_slotRow isDimension outerInside innerInside]
    · rw [if_neg later, if_neg later, List.getElem?_replicate, if_pos innerBelow]

/-! ## The call -/

/-- The calls that drop: the element type is the buffer's, the lock is taken and the
arguments are accepted. -/
def AcceptsCall (buffer : TensorBuffer Scalar) (type : ElementType) (lock : StatusOr Unit)
    (numTokensToDrop dimension initTokensToRetain : Int) : Prop :=
  buffer.elementType = type ∧ lock = .ok () ∧
    ∃ slots, buffer.AcceptsDrop numTokensToDrop dimension initTokensToRetain slots

/-- A call shifts one axis, or is refused and changes nothing. -/
theorem dropTokensInPlace_cases {buffer : TensorBuffer Scalar} (filled : buffer.Filled)
    (type : ElementType) (lock : StatusOr Unit) (numTokensToDrop dimension
      initTokensToRetain : Int) :
    (buffer.AcceptsCall type lock numTokensToDrop dimension initTokensToRetain ∧
      ∃ after, dropTokensInPlace type lock buffer numTokensToDrop dimension initTokensToRetain =
          (.ok (), after) ∧
        ∀ slots, buffer.dimensions[dimension.toNat]? = some slots →
          ShiftedAlong buffer after dimension.toNat slots numTokensToDrop.toNat
            initTokensToRetain.toNat) ∨
    (¬buffer.AcceptsCall type lock numTokensToDrop dimension initTokensToRetain ∧
      ∃ status, dropTokensInPlace type lock buffer numTokensToDrop dimension
        initTokensToRetain = (.error status, buffer)) := by
  by_cases sameType : buffer.elementType = type
  · by_cases negative : dimension < 0
    · refine .inr ⟨?_, _, by
        rw [dropTokensInPlace, if_neg (not_not.mpr sameType), if_pos negative]⟩
      rintro ⟨-, -, slots, accepts⟩
      have nonneg := accepts.dimension_nonneg
      omega
    · rw [dropTokensInPlace, if_neg (not_not.mpr sameType), if_neg negative]
      cases dropping : buffer.dropTokensfromTensorBuffer numTokensToDrop dimension.toNat
        initTokensToRetain true with
      | error status =>
          refine .inr ⟨?_, status, rfl⟩
          rintro ⟨-, -, slots, accepts⟩
          obtain ⟨drop, rfl⟩ := Int.eq_ofNat_of_zero_le accepts.drop_nonneg
          obtain ⟨retain, rfl⟩ := Int.eq_ofNat_of_zero_le accepts.retain_nonneg
          have fits := accepts.fits
          obtain ⟨dropped, ran, -⟩ := dropTokens_shifted filled accepts.isDimension
            (show retain + drop ≤ slots by omega)
          rw [dropping] at ran
          cases ran
      | ok dropped =>
          obtain ⟨slots, isDimension, dropNonneg, retainNonneg, fits⟩ := dropTokens_ok dropping
          have accepts : buffer.AcceptsDrop numTokensToDrop dimension initTokensToRetain slots :=
            ⟨by omega, isDimension, dropNonneg, retainNonneg, fits⟩
          cases lock with
          | error status =>
              refine .inr ⟨?_, status, rfl⟩
              rintro ⟨-, locked, -⟩
              cases locked
          | ok _ =>
              refine .inl ⟨⟨sameType, rfl, slots, accepts⟩, dropped, rfl, ?_⟩
              intro other otherDimension
              rw [isDimension, Option.some.injEq] at otherDimension
              subst otherDimension
              obtain ⟨drop, rfl⟩ := Int.eq_ofNat_of_zero_le dropNonneg
              obtain ⟨retain, rfl⟩ := Int.eq_ofNat_of_zero_le retainNonneg
              obtain ⟨shifted, ran, shift⟩ := dropTokens_shifted filled isDimension
                (show retain + drop ≤ slots by omega)
              change buffer.dropTokensfromTensorBuffer drop dimension.toNat retain true = _
                at dropping
              rw [dropping, Except.ok.injEq] at ran
              subst ran
              exact shift
  · refine .inr ⟨fun accepted => sameType accepted.1, _, by
      rw [dropTokensInPlace, if_pos sameType]⟩

/-- The function shifts one axis or changes nothing: it succeeds exactly for the element type
of the buffer, a lock that is taken and arguments that stay inside one dimension; then every
entry is the one `n` positions later, a retained one or zero, and a refused call leaves the
buffer as it was. -/
theorem dropTokensInPlace_shifts {buffer : TensorBuffer Scalar} (filled : buffer.Filled)
    (type : ElementType) (lock : StatusOr Unit) (numTokensToDrop dimension
      initTokensToRetain : Int) :
    (((dropTokensInPlace type lock buffer numTokensToDrop dimension initTokensToRetain).1 =
        .ok ()) ↔ buffer.elementType = type ∧ lock = .ok () ∧
          ∃ slots, buffer.AcceptsDrop numTokensToDrop dimension initTokensToRetain slots) ∧
    (∀ after, dropTokensInPlace type lock buffer numTokensToDrop dimension initTokensToRetain =
        (.ok (), after) → ∀ slots, buffer.dimensions[dimension.toNat]? = some slots →
          ShiftedAlong buffer after dimension.toNat slots numTokensToDrop.toNat
            initTokensToRetain.toNat) ∧
    ∀ status after, dropTokensInPlace type lock buffer numTokensToDrop dimension
        initTokensToRetain = (.error status, after) → after = buffer := by
  rcases dropTokensInPlace_cases filled type lock numTokensToDrop dimension initTokensToRetain with
    ⟨accepted, dropped, ran, shifted⟩ | ⟨refused, refusal, ran⟩
  · rw [ran]
    refine ⟨iff_of_true rfl accepted, ?_, nofun⟩
    intro after same
    cases same
    exact shifted
  · rw [ran]
    refine ⟨iff_of_false nofun refused, nofun, ?_⟩
    intro status after same
    cases same
    rfl

/-- A buffer of two rows with three slots each. -/
def twoRows : TensorBuffer Int :=
  ⟨.int8, [2, 3], [1, 2, 3, 4, 5, 6]⟩

/-- One slot is retained and one dropped. -/
theorem dropTokensInPlace_shifts_twoRows :
    (((dropTokensInPlace .int8 (.ok ()) twoRows 1 1 1).1 = .ok ()) ↔
      twoRows.elementType = .int8 ∧ (.ok () : StatusOr Unit) = .ok () ∧
        ∃ slots, twoRows.AcceptsDrop 1 1 1 slots) ∧
    (∀ after, dropTokensInPlace .int8 (.ok ()) twoRows 1 1 1 = (.ok (), after) →
      ∀ slots, twoRows.dimensions[(1 : Int).toNat]? = some slots →
        ShiftedAlong twoRows after (1 : Int).toNat slots (1 : Int).toNat (1 : Int).toNat) ∧
    ∀ status after, dropTokensInPlace .int8 (.ok ()) twoRows 1 1 1 = (.error status, after) →
      after = twoRows :=
  dropTokensInPlace_shifts (show twoRows.Filled from rfl) .int8 (.ok ()) 1 1 1

end LiteRTLM.Util.TensorBuffer
