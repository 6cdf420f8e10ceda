import Mathlib.Data.List.Basic
import Mathlib.Tactic.Ring

/-!
Contract: images of files as lists, and fixed-width little-endian numbers.

Owns: the slice of an image between two positions, the image after a write at a position,
what a slice sees of a write, and the round trip of a number through its bytes.

Does not own: any file format.
-/

namespace LiteRTLM.Library.ByteImage

variable {α : Type}

/-! ## Slices and writes -/

/-- The elements at the positions from `start` up to `stop`. -/
def slice (image : List α) (start stop : Nat) : List α :=
  (image.drop start).take (stop - start)

/-- The image after `data` was written at `position`; a gap behind the old end is filled. -/
def overwrite (fill : α) (image : List α) (position : Nat) (data : List α) : List α :=
  image.take position ++ List.replicate (position - image.length) fill ++ data ++
    image.drop (position + data.length)

@[simp]
theorem slice_length (image : List α) (start stop : Nat) :
    (slice image start stop).length = min stop image.length - start := by
  simp only [slice, List.length_take, List.length_drop]
  omega

theorem getElem?_slice (image : List α) (start stop index : Nat) :
    (slice image start stop)[index]? =
      if start + index < stop then image[start + index]? else none := by
  simp only [slice, List.getElem?_take, List.getElem?_drop]
  by_cases inside : start + index < stop
  · rw [if_pos inside, if_pos (by omega)]
  · rw [if_neg inside, if_neg (by omega)]

@[simp]
theorem overwrite_length (fill : α) (image : List α) (position : Nat) (data : List α) :
    (overwrite fill image position data).length =
      max image.length (position + data.length) := by
  simp only [overwrite, List.length_append, List.length_take, List.length_replicate,
    List.length_drop]
  omega

/-- A write at the end appends. -/
theorem overwrite_at_end (fill : α) (image data : List α) :
    overwrite fill image image.length data = image ++ data := by
  simp [overwrite]

theorem overwrite_nothing (fill : α) {image : List α} {position : Nat}
    (inside : position ≤ image.length) : overwrite fill image position [] = image := by
  rw [overwrite, Nat.sub_eq_zero_of_le inside, List.replicate_zero, List.append_nil,
    List.append_nil, List.length_nil, Nat.add_zero, List.take_append_drop]

/-- A write at the start of the unused part of an image. -/
theorem overwrite_unused (fill : α) (front data : List α) (unused : Nat) :
    overwrite fill (front ++ List.replicate unused fill) front.length data =
      (front ++ data) ++ List.replicate (unused - data.length) fill := by
  have noGap : front.length - (front ++ List.replicate unused fill).length = 0 := by
    rw [List.length_append]
    omega
  rw [overwrite, noGap, List.replicate_zero, List.append_nil, List.take_left,
    List.drop_append, List.drop_eq_nil_of_le (Nat.le_add_right _ _), List.nil_append,
    Nat.add_sub_cancel_left, List.drop_replicate]

/-- A write into the front of an image leaves the rest alone. -/
theorem overwrite_append (fill : α) (front rest : List α) {position : Nat} {data : List α}
    (inside : position + data.length ≤ front.length) :
    overwrite fill (front ++ rest) position data =
      overwrite fill front position data ++ rest := by
  have noGap : position - (front ++ rest).length = 0 := by
    rw [List.length_append]
    omega
  rw [overwrite, overwrite, noGap, Nat.sub_eq_zero_of_le (by omega : position ≤ front.length),
    List.take_append_of_le_length (by omega), List.drop_append_of_le_length inside]
  simp only [List.append_assoc]

/-- A write inside the image, element by element. -/
theorem getElem?_overwrite (fill : α) (image : List α) (position : Nat) (data : List α)
    (inside : position ≤ image.length) (index : Nat) :
    (overwrite fill image position data)[index]? =
      if position ≤ index ∧ index < position + data.length then data[index - position]?
      else image[index]? := by
  have noGap : position - image.length = 0 := by omega
  have taken : (image.take position).length = position := by simp; omega
  simp only [overwrite, noGap, List.replicate_zero, List.append_nil, List.append_assoc]
  by_cases before : index < position
  · rw [List.getElem?_append_left (by omega), List.getElem?_take_of_lt before,
      if_neg (by omega)]
  · rw [List.getElem?_append_right (by omega), taken]
    by_cases within : index < position + data.length
    · rw [List.getElem?_append_left (by omega), if_pos ⟨by omega, within⟩]
    · rw [List.getElem?_append_right (by omega), List.getElem?_drop, if_neg (by omega)]
      congr 1
      omega

/-- What was written is read back. -/
theorem slice_overwrite_self (fill : α) (image : List α) (position : Nat) (data : List α)
    (inside : position ≤ image.length) :
    slice (overwrite fill image position data) position (position + data.length) = data := by
  apply List.ext_getElem?
  intro index
  rw [getElem?_slice, getElem?_overwrite fill image position data inside]
  by_cases within : index < data.length
  · rw [if_pos (by omega), if_pos (by omega)]
    congr 1
    omega
  · rw [if_neg (by omega), List.getElem?_eq_none (by omega)]

/-- A slice in front of a write does not see it. -/
theorem slice_overwrite_before (fill : α) (image : List α) (position : Nat) (data : List α)
    (inside : position ≤ image.length) {start stop : Nat} (before : stop ≤ position) :
    slice (overwrite fill image position data) start stop = slice image start stop := by
  apply List.ext_getElem?
  intro index
  rw [getElem?_slice, getElem?_slice, getElem?_overwrite fill image position data inside]
  by_cases within : start + index < stop
  · rw [if_pos within, if_pos within, if_neg (by omega)]
  · rw [if_neg within, if_neg within]

/-- A slice behind a write does not see it. -/
theorem slice_overwrite_after (fill : α) (image : List α) (position : Nat) (data : List α)
    (inside : position ≤ image.length) {start stop : Nat}
    (after : position + data.length ≤ start) :
    slice (overwrite fill image position data) start stop = slice image start stop := by
  apply List.ext_getElem?
  intro index
  rw [getElem?_slice, getElem?_slice, getElem?_overwrite fill image position data inside]
  rw [if_neg (by omega : ¬(position ≤ start + index ∧ start + index < position + data.length))]

/-- A slice of the old part of a grown image is the slice it was. -/
theorem slice_append_left (image data : List α) {start stop : Nat}
    (inside : stop ≤ image.length) :
    slice (image ++ data) start stop = slice image start stop := by
  apply List.ext_getElem?
  intro index
  rw [getElem?_slice, getElem?_slice]
  by_cases within : start + index < stop
  · rw [if_pos within, if_pos within, List.getElem?_append_left (by omega)]
  · rw [if_neg within, if_neg within]

/-- What was appended is the slice behind the old end. -/
theorem slice_append_self (image data : List α) :
    slice (image ++ data) image.length (image.length + data.length) = data := by
  simp [slice]

/-- A slice of a slice is the slice at the shifted positions. -/
theorem slice_slice (image : List α) {start stop first last : Nat}
    (inside : start + last ≤ stop) :
    slice (slice image start stop) first last = slice image (start + first) (start + last) := by
  apply List.ext_getElem?
  intro index
  simp only [getElem?_slice]
  by_cases within : first + index < last
  · rw [if_pos within, if_pos (by omega), if_pos (by omega)]
    congr 1
    omega
  · rw [if_neg within, if_neg (by omega)]

/-! ## Little-endian numbers -/

/-- The `width` bytes of `number`, least significant first. -/
def littleEndian : Nat → Nat → List UInt8
  | 0, _ => []
  | width + 1, number => UInt8.ofNat number :: littleEndian width (number / 256)

/-- The number that some bytes hold, least significant first. -/
def ofLittleEndian : List UInt8 → Nat
  | [] => 0
  | byte :: bytes => byte.toNat + 256 * ofLittleEndian bytes

@[simp]
theorem littleEndian_length (width number : Nat) : (littleEndian width number).length = width := by
  induction width generalizing number with
  | zero => rfl
  | succ width ih => simp [littleEndian, ih]

/-- A number that fits comes back from its bytes. -/
theorem ofLittleEndian_littleEndian (width number : Nat) (fits : number < 256 ^ width) :
    ofLittleEndian (littleEndian width number) = number := by
  induction width generalizing number with
  | zero => simp [littleEndian, ofLittleEndian]; omega
  | succ width ih =>
    have restFits : number / 256 < 256 ^ width := by
      apply Nat.div_lt_of_lt_mul
      rw [pow_succ] at fits
      omega
    simp only [littleEndian, ofLittleEndian, ih _ restFits, UInt8.toNat_ofNat']
    omega

end LiteRTLM.Library.ByteImage
