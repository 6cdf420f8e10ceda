import LiteRTLM.Library.ByteImage

/-!
Contract: flat arrays that are read and written in blocks of one width.

Owns: the blocks of an array, what one block holds after a write of another, after a run of
blocks was filled, and the number of a block from an outer and an inner position.

Does not own: what a block stands for.
-/

namespace LiteRTLM.Library.Blocks

open LiteRTLM.Library.ByteImage

variable {α : Type}

/-- The block with the given number. -/
def block (width : Nat) (data : List α) (index : Nat) : List α :=
  slice data (index * width) (index * width + width)

/-- Blocks with different numbers do not overlap. -/
theorem blocks_apart {width first second : Nat} (apart : first ≠ second) :
    first * width + width ≤ second * width ∨ second * width + width ≤ first * width := by
  rcases Nat.lt_or_gt_of_ne apart with before | after
  · apply Or.inl
    calc first * width + width = (first + 1) * width := by ring
      _ ≤ second * width := Nat.mul_le_mul_right width before
  · apply Or.inr
    calc second * width + width = (second + 1) * width := by ring
      _ ≤ first * width := Nat.mul_le_mul_right width after

theorem block_inside {width count index : Nat} (below : index < count) :
    index * width + width ≤ count * width := by
  calc index * width + width = (index + 1) * width := by ring
    _ ≤ count * width := Nat.mul_le_mul_right width below

theorem block_length {width count index : Nat} {data : List α}
    (sized : data.length = count * width) (below : index < count) :
    (block width data index).length = width := by
  have inside : index * width + width ≤ count * width := block_inside below
  rw [block, slice_length, sized]
  omega

/-- An element of the array, by its block and its place there. -/
theorem getElem?_block {width place : Nat} (data : List α) (index : Nat) (below : place < width) :
    (block width data index)[place]? = data[index * width + place]? := by
  rw [block, getElem?_slice, if_pos (by omega)]

/-- A block of a block of `many` narrower ones is one of these. -/
theorem block_block {width many inner : Nat} (data : List α) (index : Nat) (below : inner < many) :
    block width (block (many * width) data index) inner =
      block width data (index * many + inner) := by
  have inside : index * (many * width) + (inner * width + width) ≤
      index * (many * width) + many * width :=
    Nat.add_le_add_left (block_inside below) _
  have place : (index * many + inner) * width = index * (many * width) + inner * width := by ring
  rw [block, block, slice_slice _ inside, block, place, Nat.add_assoc]

/-- A write of one block, seen block by block. -/
theorem block_overwrite (fill : α) {width count index : Nat} {data row : List α}
    (sized : data.length = count * width) (below : index < count) (rowSized : row.length = width)
    (other : Nat) :
    block width (overwrite fill data (index * width) row) other =
      if other = index then row else block width data other := by
  have inside : index * width + width ≤ count * width := block_inside below
  by_cases same : other = index
  · subst same
    rw [if_pos rfl, block, ← rowSized, slice_overwrite_self]
    rw [rowSized]
    omega
  · rw [if_neg same, block, block]
    have apart : other * width + width ≤ index * width ∨ index * width + width ≤ other * width :=
      blocks_apart same
    rcases apart with before | after
    · rw [slice_overwrite_before _ _ _ _ (by omega) before]
    · rw [slice_overwrite_after _ _ _ _ (by omega) (by rw [rowSized]; exact after)]

theorem overwrite_block_length (fill : α) {width count index : Nat} {data row : List α}
    (sized : data.length = count * width) (below : index < count)
    (rowSized : row.length = width) :
    (overwrite fill data (index * width) row).length = count * width := by
  have inside : index * width + width ≤ count * width := block_inside below
  rw [overwrite_length, sized, rowSized]
  omega

/-- A run of blocks filled with one value, seen block by block. -/
theorem block_fill (fill value : α) {width count first many : Nat} {data : List α}
    (sized : data.length = count * width) (inside : first + many ≤ count) (other : Nat) :
    block width (overwrite fill data (first * width) (List.replicate (many * width) value))
        other =
      if first ≤ other ∧ other < first + many then List.replicate width value
      else block width data other := by
  have room : first * width + many * width ≤ count * width := by
    rw [← Nat.add_mul]
    exact Nat.mul_le_mul_right width inside
  apply List.ext_getElem?
  intro position
  by_cases within : first ≤ other ∧ other < first + many
  · rw [if_pos within, block, getElem?_slice, getElem?_overwrite _ _ _ _ (by omega)]
    have low : first * width ≤ other * width := Nat.mul_le_mul_right width within.1
    have high : other * width + width ≤ first * width + many * width := by
      rw [← Nat.add_mul]
      exact block_inside within.2
    by_cases held : position < width
    · rw [if_pos (by omega), if_pos (by rw [List.length_replicate]; omega),
        List.getElem?_replicate, List.getElem?_replicate, if_pos (by omega), if_pos held]
    · rw [if_neg (by omega), List.getElem?_replicate, if_neg held]
  · rw [if_neg within, block, block]
    rcases Nat.lt_or_ge other first with before | after
    · rw [slice_overwrite_before _ _ _ _ (by omega) (block_inside before)]
    · have later : first + many ≤ other := by omega
      have beyond : first * width + many * width ≤ other * width := by
        rw [← Nat.add_mul]
        exact Nat.mul_le_mul_right width later
      rw [slice_overwrite_after _ _ _ _ (by omega) (by rw [List.length_replicate]; exact beyond)]

/-- A block of an array that holds one value. -/
theorem block_replicate (value : α) {width count index : Nat} (below : index < count) :
    block width (List.replicate (count * width) value) index = List.replicate width value := by
  have inside : index * width + width ≤ count * width := block_inside below
  rw [block, slice, List.drop_replicate, List.take_replicate]
  congr 1
  omega

/-! ## A row of writes -/

/-- Blocks are written one behind the other from a position; a block without a
value is left as it is. -/
def writeBlocks (fill : α) (width : Nat) : List (Option (List α)) → Nat → List α → List α
  | [], _, data => data
  | none :: rest, position, data => writeBlocks fill width rest (position + width) data
  | some row :: rest, position, data =>
      writeBlocks fill width rest (position + width) (overwrite fill data position row)

/-- A row of writes, seen block by block. -/
theorem block_writeBlocks (fill : α) {width count : Nat} (rows : List (Option (List α)))
    (rowSized : ∀ row, some row ∈ rows → row.length = width) {first : Nat} {data : List α}
    (sized : data.length = count * width) (inside : first + rows.length ≤ count) :
    (writeBlocks fill width rows (first * width) data).length = count * width ∧
      ∀ other, block width (writeBlocks fill width rows (first * width) data) other =
        if first ≤ other then
          (rows.getD (other - first) none).getD (block width data other)
        else block width data other := by
  induction rows generalizing first data with
  | nil => simp [writeBlocks, sized]
  | cons row rest inductionHypothesis =>
      have next : first * width + width = (first + 1) * width := by ring
      rw [List.length_cons] at inside
      have restSized : ∀ row, some row ∈ rest → row.length = width :=
        fun row member => rowSized row (List.mem_cons_of_mem _ member)
      have shift : ∀ other, first + 1 ≤ other → other - first = other - (first + 1) + 1 := by
        intro other above
        omega
      cases row with
      | none =>
          obtain ⟨length, blocks⟩ := inductionHypothesis restSized sized
            (show first + 1 + rest.length ≤ count by omega)
          rw [writeBlocks, next]
          refine ⟨length, fun other => ?_⟩
          rw [blocks]
          by_cases above : first + 1 ≤ other
          · rw [if_pos above, if_pos (by omega), shift other above, List.getD_cons_succ]
          · rw [if_neg above]
            by_cases same : first ≤ other
            · have isFirst : other - first = 0 := by omega
              rw [if_pos same, isFirst, List.getD_cons_zero, Option.getD_none]
            · rw [if_neg same]
      | some row =>
          have rowLength := rowSized row List.mem_cons_self
          have below : first < count := by omega
          have written := overwrite_block_length fill sized below rowLength
          obtain ⟨length, blocks⟩ := inductionHypothesis restSized written
            (show first + 1 + rest.length ≤ count by omega)
          rw [writeBlocks, next]
          refine ⟨length, fun other => ?_⟩
          rw [blocks, block_overwrite fill sized below rowLength]
          by_cases above : first + 1 ≤ other
          · have apart : other ≠ first := by omega
            rw [if_pos above, if_neg apart, if_pos (by omega), shift other above,
              List.getD_cons_succ]
          · rw [if_neg above]
            by_cases same : other = first
            · rw [if_pos same, if_pos (by omega), same, Nat.sub_self, List.getD_cons_zero,
                Option.getD_some]
            · rw [if_neg same, if_neg (by omega)]

/-- Blocks without values change nothing. -/
theorem writeBlocks_of_none (fill : α) (width : Nat) {rows : List (Option (List α))}
    (none : ∀ row ∈ rows, row = none) (position : Nat) (data : List α) :
    writeBlocks fill width rows position data = data := by
  induction rows generalizing position with
  | nil => rfl
  | cons row rest inductionHypothesis =>
      rw [none row List.mem_cons_self, writeBlocks]
      exact inductionHypothesis (fun other member => none other (List.mem_cons_of_mem _ member)) _

/-! ## Rows one behind the other -/

theorem length_flatten {width : Nat} {rows : List (List α)}
    (sized : ∀ row ∈ rows, row.length = width) : rows.flatten.length = rows.length * width := by
  induction rows with
  | nil => rw [List.flatten_nil, List.length_nil, List.length_nil, Nat.zero_mul]
  | cons row rest inductionHypothesis =>
      rw [List.flatten_cons, List.length_append, sized row List.mem_cons_self,
        inductionHypothesis (fun other member => sized other (List.mem_cons_of_mem _ member)),
        List.length_cons, Nat.succ_mul, Nat.add_comm]

/-- Rows of one width, joined, are the blocks. -/
theorem block_flatten {width index : Nat} {rows : List (List α)}
    (sized : ∀ row ∈ rows, row.length = width) (inBounds : index < rows.length) :
    block width rows.flatten index = rows[index] := by
  induction rows generalizing index with
  | nil => exact absurd inBounds (Nat.not_lt_zero _)
  | cons row rest inductionHypothesis =>
      have rowSized : row.length = width := sized row List.mem_cons_self
      rw [List.flatten_cons]
      cases index with
      | zero =>
          rw [block, slice, Nat.zero_mul, List.drop_zero, Nat.zero_add, Nat.sub_zero, ← rowSized,
            List.take_left']
          · rfl
          · rfl
      | succ index =>
          have further : (index + 1) * width = row.length + index * width := by
            rw [rowSized]
            ring
          have behind := inductionHypothesis
            (fun other member => sized other (List.mem_cons_of_mem _ member))
            (show index < rest.length by simpa using inBounds)
          rw [List.getElem_cons_succ, ← behind, block, block, slice, slice, further,
            List.drop_length_add_append]
          congr 1
          omega

/-- Rows of one width that are written for one number after the other. -/
theorem length_flatMap_range {width count : Nat} {rowOf : Nat → List α}
    (sized : ∀ index < count, (rowOf index).length = width) :
    ((List.range count).flatMap rowOf).length = count * width := by
  rw [List.flatMap_def, length_flatten, List.length_map, List.length_range]
  intro row member
  obtain ⟨index, inRange, rfl⟩ := List.mem_map.mp member
  exact sized index (List.mem_range.mp inRange)

theorem block_flatMap_range {width count index : Nat} {rowOf : Nat → List α}
    (sized : ∀ index < count, (rowOf index).length = width) (below : index < count) :
    block width ((List.range count).flatMap rowOf) index = rowOf index := by
  have inBounds : index < ((List.range count).map rowOf).length := by
    rw [List.length_map, List.length_range]
    exact below
  rw [List.flatMap_def, block_flatten _ inBounds, List.getElem_map, List.getElem_range]
  intro row member
  obtain ⟨index, inRange, rfl⟩ := List.mem_map.mp member
  exact sized index (List.mem_range.mp inRange)

/-! ## Rows of an array -/

/-- Arrays of the same blocks are the same. -/
theorem eq_of_blocks {width count : Nat} {first second : List α}
    (firstSized : first.length = count * width) (secondSized : second.length = count * width)
    (same : ∀ index < count, block width first index = block width second index) :
    first = second := by
  apply List.ext_getElem?
  intro position
  by_cases inside : position < count * width
  · have positive : 0 < width := by
      apply Nat.pos_of_ne_zero
      intro zero
      rw [zero, Nat.mul_zero] at inside
      omega
    have place := Nat.mod_lt position positive
    have index : position / width < count := Nat.div_lt_of_lt_mul (by rwa [Nat.mul_comm])
    have split : position / width * width + position % width = position := by
      rw [Nat.mul_comm]
      exact Nat.div_add_mod position width
    rw [← split, ← getElem?_block first _ place, ← getElem?_block second _ place, same _ index]
  · rw [List.getElem?_eq_none (by omega), List.getElem?_eq_none (by omega)]

/-- `count` rows of one width, from the start of an array. -/
def rowsOf (width count : Nat) (data : List α) : List (List α) :=
  (List.range count).map (block width data)

theorem rowsOf_length (width count : Nat) (data : List α) :
    (rowsOf width count data).length = count := by
  rw [rowsOf, List.length_map, List.length_range]

theorem rowsOf_sized {width count : Nat} {data : List α} (sized : data.length = count * width) :
    ∀ row ∈ rowsOf width count data, row.length = width := by
  intro row member
  obtain ⟨index, inRange, rfl⟩ := List.mem_map.mp member
  exact block_length sized (List.mem_range.mp inRange)

/-- Rows of one width, joined, are read back. -/
theorem rowsOf_flatten {width : Nat} {rows : List (List α)}
    (sized : ∀ row ∈ rows, row.length = width) :
    rowsOf width rows.length rows.flatten = rows := by
  apply List.ext_getElem
  · exact rowsOf_length _ _ _
  · intro index inRows inBounds
    simp only [rowsOf, List.getElem_map, List.getElem_range]
    exact block_flatten sized inBounds

/-- An array of full rows is its rows, joined. -/
theorem flatten_rowsOf {width count : Nat} {data : List α}
    (sized : data.length = count * width) : (rowsOf width count data).flatten = data := by
  have rowSized := rowsOf_sized sized
  have length := length_flatten rowSized
  rw [rowsOf_length] at length
  apply eq_of_blocks length sized
  intro index below
  rw [block_flatten rowSized (by rw [rowsOf_length]; exact below)]
  simp only [rowsOf, List.getElem_map, List.getElem_range]

/-! ## Block numbers -/

/-- An outer position and a position below `slots` make one number. -/
theorem blockIndex_inj {slots outer outer' slot slot' : Nat} (below : slot < slots)
    (below' : slot' < slots) :
    outer * slots + slot = outer' * slots + slot' ↔ outer = outer' ∧ slot = slot' := by
  constructor
  · intro same
    have outerOf : ∀ first second : Nat, second < slots →
        (first * slots + second) / slots = first := by
      intro first second small
      rw [Nat.add_comm, Nat.add_mul_div_right _ _ (by omega), Nat.div_eq_of_lt small,
        Nat.zero_add]
    have sameOuter : outer = outer' := by
      rw [← outerOf outer slot below, same, outerOf outer' slot' below']
    subst sameOuter
    exact ⟨rfl, by omega⟩
  · rintro ⟨rfl, rfl⟩
    rfl

theorem blockIndex_lt {slots outers outer slot : Nat} (outerBelow : outer < outers)
    (below : slot < slots) : outer * slots + slot < outers * slots := by
  have next : outer * slots + slots ≤ outers * slots := block_inside outerBelow
  omega

end LiteRTLM.Library.Blocks
