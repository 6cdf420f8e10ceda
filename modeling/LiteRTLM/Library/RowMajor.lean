import Mathlib.Algebra.BigOperators.Group.List.Basic
import LiteRTLM.Library.Blocks

/-!
Contract: the offset of an entry of an array that is laid out in row-major order.

Owns: offsets and indices inside a shape, the bound of an offset, its split at one axis, and
that different indices have different offsets, which are all positions of the array.

Does not own: the elements of an array.
-/

namespace LiteRTLM.Library.RowMajor

/-- The position of an index in the flat array of a shape. -/
def offset : List Nat → List Nat → Nat
  | _ :: dimensions, position :: index => position * dimensions.prod + offset dimensions index
  | _, _ => 0

/-- Every position of the index is below its dimension. -/
def Inside (index dimensions : List Nat) : Prop :=
  List.Forall₂ (· < ·) index dimensions

/-- An offset lies in the array. -/
theorem offset_lt {index dimensions : List Nat} (inside : Inside index dimensions) :
    offset dimensions index < dimensions.prod := by
  induction inside with
  | nil => exact Nat.one_pos
  | @cons position dimension index dimensions below _ inductionHypothesis =>
      rw [offset, List.prod_cons]
      exact Blocks.blockIndex_lt below inductionHypothesis

/-- The offset of an index, seen from one axis: the block of the positions in front of it,
the position on the axis, and the offset behind it. -/
theorem offset_append {front : List Nat} {outer : List Nat} (sized : outer.length = front.length)
    (dimension position : Nat) (behind inner : List Nat) :
    offset (front ++ dimension :: behind) (outer ++ position :: inner) =
      (offset front outer * dimension + position) * behind.prod + offset behind inner := by
  induction front generalizing outer with
  | nil =>
      have empty : outer = [] := List.eq_nil_of_length_eq_zero sized
      subst empty
      simp only [List.nil_append, offset, Nat.zero_mul, Nat.zero_add]
  | cons first front inductionHypothesis =>
      cases outer with
      | nil => simp at sized
      | cons place outer =>
          have behindFront := inductionHypothesis (by simpa using sized)
          simp only [List.cons_append, offset, behindFront, List.prod_append, List.prod_cons]
          ring

/-- Every position of the array is the offset of an index. -/
theorem offset_surjective {dimensions : List Nat} {position : Nat}
    (below : position < dimensions.prod) :
    ∃ index, Inside index dimensions ∧ offset dimensions index = position := by
  induction dimensions generalizing position with
  | nil =>
      rw [List.prod_nil] at below
      exact ⟨[], .nil, by rw [offset]; omega; nofun⟩
  | cons dimension dimensions inductionHypothesis =>
      rw [List.prod_cons] at below
      have positive : 0 < dimensions.prod := Nat.pos_of_mul_pos_left (Nat.zero_lt_of_lt below)
      obtain ⟨index, inside, same⟩ := inductionHypothesis (Nat.mod_lt position positive)
      refine ⟨position / dimensions.prod :: index, .cons ?_ inside, ?_⟩
      · exact Nat.div_lt_of_lt_mul (by rw [Nat.mul_comm]; exact below)
      · rw [offset, same, Nat.mul_comm]
        exact Nat.div_add_mod position dimensions.prod

theorem Inside.length_eq {index dimensions : List Nat} (inside : Inside index dimensions) :
    index.length = dimensions.length :=
  List.Forall₂.length_eq inside

/-- An index inside a shape, taken apart at one axis. -/
theorem Inside.split {front behind index : List Nat} {dimension : Nat}
    (inside : Inside index (front ++ dimension :: behind)) :
    ∃ outer position inner, index = outer ++ position :: inner ∧ Inside outer front ∧
      position < dimension ∧ Inside inner behind := by
  induction front generalizing index with
  | nil =>
      cases inside with
      | @cons position _ inner _ below rest => exact ⟨[], position, inner, rfl, .nil, below, rest⟩
  | cons first front inductionHypothesis =>
      cases inside with
      | @cons place _ index _ below rest =>
          obtain ⟨outer, position, inner, rfl, outerInside, positionBelow, innerInside⟩ :=
            inductionHypothesis rest
          exact ⟨place :: outer, position, inner, rfl, .cons below outerInside, positionBelow,
            innerInside⟩

/-- The parts of an index make one. -/
theorem Inside.join {front outer behind inner : List Nat} {dimension position : Nat}
    (outerInside : Inside outer front) (below : position < dimension)
    (innerInside : Inside inner behind) :
    Inside (outer ++ position :: inner) (front ++ dimension :: behind) := by
  induction outerInside with
  | nil => exact .cons below innerInside
  | cons placeBelow _ inductionHypothesis => exact .cons placeBelow inductionHypothesis

end LiteRTLM.Library.RowMajor
