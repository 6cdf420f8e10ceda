import Mathlib.Data.List.Forall2
import LiteRTLM.Library.ByteImage

/-!
Contract: images that are made of parts, each of which starts on a block boundary.

Owns: the fill up to the next boundary, the image after a list of parts was appended to it,
the spans of the parts, and what the slices of the image are.

Does not own: any file format.
-/

namespace LiteRTLM.Library.PaddedParts

open LiteRTLM.Library.ByteImage

variable {α : Type}

/-! ## The fill behind a part -/

/-- The distance from `position` to the next multiple of `blockSize`. -/
def padding (blockSize position : Nat) : Nat :=
  (blockSize - position % blockSize) % blockSize

theorem dvd_add_padding {blockSize : Nat} (positive : 0 < blockSize) (position : Nat) :
    blockSize ∣ position + padding blockSize position := by
  have below := Nat.mod_lt position positive
  rw [padding]
  by_cases aligned : position % blockSize = 0
  · rw [aligned, Nat.sub_zero, Nat.mod_self, Nat.add_zero]
    exact Nat.dvd_of_mod_eq_zero aligned
  · rw [Nat.mod_eq_of_lt (by omega : blockSize - position % blockSize < blockSize)]
    refine ⟨position / blockSize + 1, ?_⟩
    have split := Nat.div_add_mod position blockSize
    rw [Nat.mul_add, Nat.mul_one]
    omega

theorem padding_lt {blockSize : Nat} (positive : 0 < blockSize) (position : Nat) :
    padding blockSize position < blockSize :=
  Nat.mod_lt _ positive

/-- Rounding up to a multiple adds the padding. -/
theorem roundUp_eq {blockSize : Nat} (positive : 0 < blockSize) (position : Nat) :
    (position + blockSize - 1) / blockSize * blockSize =
      position + padding blockSize position := by
  obtain ⟨count, total⟩ := dvd_add_padding positive position
  have small := padding_lt positive position
  have quotient : (position + blockSize - 1) / blockSize = count := by
    apply Nat.div_eq_of_lt_le
    · rw [Nat.mul_comm]
      omega
    · rw [Nat.add_mul, Nat.one_mul, Nat.mul_comm]
      omega
  rw [quotient, total, Nat.mul_comm]

/-- An image, filled up to a block boundary. -/
def padded (fill : α) (blockSize : Nat) (image : List α) : List α :=
  image ++ List.replicate (padding blockSize image.length) fill

@[simp]
theorem padded_length (fill : α) (blockSize : Nat) (image : List α) :
    (padded fill blockSize image).length =
      image.length + padding blockSize image.length := by
  simp [padded]

/-! ## Appended parts -/

/-- The image after every part was appended and filled up to a block boundary. -/
def appendParts (fill : α) (blockSize : Nat) (image : List α) : List (List α) → List α
  | [] => image
  | part :: parts => appendParts fill blockSize (padded fill blockSize (image ++ part)) parts

/-- The spans of parts that are appended to an image of the given length. -/
def partSpans (blockSize : Nat) (start : Nat) : List (List α) → List (Nat × Nat)
  | [] => []
  | part :: parts =>
    (start, start + part.length) ::
      partSpans blockSize
        (start + part.length + padding blockSize (start + part.length)) parts

@[simp]
theorem partSpans_length (blockSize start : Nat) (parts : List (List α)) :
    (partSpans blockSize start parts).length = parts.length := by
  induction parts generalizing start with
  | nil => rfl
  | cons part parts inductionHypothesis =>
    rw [partSpans, List.length_cons, List.length_cons, inductionHypothesis]

/-- What is appended depends on the length of the image in front of it only. -/
theorem exists_appendParts (fill : α) (blockSize length : Nat) (parts : List (List α)) :
    ∃ rest, ∀ image : List α, image.length = length →
      appendParts fill blockSize image parts = image ++ rest := by
  induction parts generalizing length with
  | nil => exact ⟨[], fun image _ => (List.append_nil image).symm⟩
  | cons part parts inductionHypothesis =>
    obtain ⟨rest, appended⟩ := inductionHypothesis
      (length + part.length + padding blockSize (length + part.length))
    refine ⟨part ++ List.replicate (padding blockSize (length + part.length)) fill ++ rest,
      fun image sized => ?_⟩
    have grown : (image ++ part).length = length + part.length := by
      rw [List.length_append, sized]
    rw [appendParts, appended _ (by rw [padded_length, grown]), padded, grown]
    simp only [List.append_assoc]

theorem length_le_appendParts (fill : α) (blockSize : Nat) (image : List α)
    (parts : List (List α)) : image.length ≤ (appendParts fill blockSize image parts).length := by
  obtain ⟨rest, appended⟩ := exists_appendParts fill blockSize image.length parts
  rw [appended image rfl, List.length_append]
  exact Nat.le_add_right _ _

theorem slice_appendParts (fill : α) (blockSize : Nat) (image : List α) (parts : List (List α))
    {start stop : Nat} (inside : stop ≤ image.length) :
    slice (appendParts fill blockSize image parts) start stop = slice image start stop := by
  obtain ⟨rest, appended⟩ := exists_appendParts fill blockSize image.length parts
  rw [appended image rfl, slice_append_left image rest inside]

/-! ## The spans of the parts -/

/-- An image holds a part at a span that starts on a block boundary. -/
structure Placed (blockSize first : Nat) (image part : List α) (span : Nat × Nat) : Prop where
  aligned : blockSize ∣ span.1
  behind : first ≤ span.1
  size : span.2 = span.1 + part.length
  inside : span.2 ≤ image.length
  held : slice image span.1 span.2 = part

/-- Every part has its place. -/
theorem placed_partSpans {blockSize : Nat} (positive : 0 < blockSize) (fill : α)
    {image : List α} (aligned : blockSize ∣ image.length) (parts : List (List α)) :
    List.Forall₂ (Placed blockSize image.length (appendParts fill blockSize image parts)) parts
      (partSpans blockSize image.length parts) := by
  induction parts generalizing image with
  | nil => exact .nil
  | cons part parts inductionHypothesis =>
    have nextLength : (padded fill blockSize (image ++ part)).length =
        image.length + part.length + padding blockSize (image.length + part.length) := by
      rw [padded_length, List.length_append]
    have nextAligned : blockSize ∣ (padded fill blockSize (image ++ part)).length := by
      rw [nextLength]
      exact dvd_add_padding positive _
    have grows := length_le_appendParts fill blockSize (padded fill blockSize (image ++ part)) parts
    have later := inductionHypothesis nextAligned
    rw [nextLength] at later
    refine .cons ⟨aligned, Nat.le_refl _, rfl, ?_, ?_⟩ (later.imp fun _ _ placed =>
      { placed with behind := by have := placed.behind; omega })
    · rw [appendParts]
      dsimp only
      omega
    · rw [appendParts, slice_appendParts, padded, slice_append_left, slice_append_self]
      · rw [List.length_append]
      · dsimp only
        omega

/-- The spans follow each other. -/
theorem partSpans_ordered {blockSize : Nat} (start : Nat) (parts : List (List α)) :
    (∀ span ∈ partSpans blockSize start parts, start ≤ span.1) ∧
      (partSpans blockSize start parts).Pairwise fun earlier later => earlier.2 ≤ later.1 := by
  induction parts generalizing start with
  | nil => exact ⟨fun span member => absurd member List.not_mem_nil, .nil⟩
  | cons part parts inductionHypothesis =>
    obtain ⟨behind, ordered⟩ := inductionHypothesis
      (start + part.length + padding blockSize (start + part.length))
    rw [partSpans]
    refine ⟨fun span member => ?_, .cons (fun later member => ?_) ordered⟩
    · rcases List.mem_cons.mp member with first | later
      · rw [first]
      · have := behind span later
        omega
    · have := behind later member
      dsimp only
      omega

end LiteRTLM.Library.PaddedParts
