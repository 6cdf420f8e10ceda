import LiteRTLM.Library.ByteImage

/-!
Contract: ranges of a flat array that are filled with one value.

Owns: `fill`, which is refused outside of the array, a list of fills, the array after
them, entry by entry, and the loops whose guarded steps are all allowed.

Does not own: which ranges are filled.
-/

namespace LiteRTLM.Library.RangeFill

variable {α : Type}

/-- The `count` entries from `offset` on. -/
structure Range where
  offset : Nat
  count : Nat
deriving DecidableEq, Repr

/-- The entry at a position belongs to the range. -/
def Range.Covers (range : Range) (position : Nat) : Prop :=
  range.offset ≤ position ∧ position < range.offset + range.count

instance (range : Range) (position : Nat) : Decidable (range.Covers position) :=
  inferInstanceAs (Decidable (_ ∧ _))

/-- The array with one range filled; `none` when the range leaves the array. -/
def fill (value : α) (data : List α) (range : Range) : Option (List α) :=
  if range.offset + range.count ≤ data.length then
    some (ByteImage.overwrite value data range.offset (List.replicate range.count value))
  else none

/-- The array with several ranges filled, one after the other. -/
def fillAll (value : α) (ranges : List Range) (data : List α) : Option (List α) :=
  ranges.foldlM (fill value) data

/-- A filled range, entry by entry. -/
theorem fill_of_inside (value : α) (data : List α) (range : Range)
    (inside : range.offset + range.count ≤ data.length) :
    ∃ filled, fill value data range = some filled ∧ filled.length = data.length ∧
      ∀ position, filled[position]? =
        if range.Covers position then some value else data[position]? := by
  refine ⟨_, if_pos inside, ?_, fun position => ?_⟩
  · rw [ByteImage.overwrite_length, List.length_replicate]
    omega
  · rw [ByteImage.getElem?_overwrite _ _ _ _ (by omega), List.length_replicate]
    by_cases covered : range.Covers position
    · have within : position - range.offset < range.count := by
        have starts := covered.1
        have ends := covered.2
        omega
      rw [if_pos covered, if_pos ⟨covered.1, covered.2⟩, List.getElem?_replicate, if_pos within]
    · rw [if_neg covered, if_neg (fun within => covered ⟨within.1, within.2⟩)]

/-- Fills that stay inside the array all happen, and an entry holds the value exactly when
one of the ranges covers it. -/
theorem fillAll_of_inside (value : α) (ranges : List Range) (data : List α)
    (inside : ∀ range ∈ ranges, range.offset + range.count ≤ data.length) :
    ∃ filled, fillAll value ranges data = some filled ∧ filled.length = data.length ∧
      ∀ position, filled[position]? =
        if ∃ range ∈ ranges, range.Covers position then some value else data[position]? := by
  induction ranges generalizing data with
  | nil => exact ⟨data, rfl, rfl, fun position => by simp⟩
  | cons range rest inductionHypothesis =>
      obtain ⟨first, ran, sameLength, entries⟩ :=
        fill_of_inside value data range (inside range List.mem_cons_self)
      obtain ⟨filled, ranRest, length, restEntries⟩ := inductionHypothesis first
        fun other member => by
          rw [sameLength]
          exact inside other (List.mem_cons_of_mem _ member)
      refine ⟨filled, ?_, length.trans sameLength, fun position => ?_⟩
      · rw [fillAll, List.foldlM_cons, ran]
        exact ranRest
      · rw [restEntries position, entries position]
        by_cases later : ∃ other ∈ rest, other.Covers position
        · rw [if_pos later, if_pos]
          obtain ⟨other, member, covered⟩ := later
          exact ⟨other, List.mem_cons_of_mem _ member, covered⟩
        · rw [if_neg later]
          by_cases covered : range.Covers position
          · rw [if_pos covered, if_pos ⟨range, List.mem_cons_self, covered⟩]
          · rw [if_neg covered, if_neg]
            rintro ⟨other, member, otherCovers⟩
            rcases List.mem_cons.mp member with rfl | behind
            · exact covered otherCovers
            · exact later ⟨other, behind, otherCovers⟩

/-- A loop whose guarded steps are all allowed is the loop without the guards. -/
theorem foldlM_eq_foldl {State Index : Type} {guarded : State → Index → Option State}
    {step : State → Index → State} (kept : State → Prop) (indices : List Index) (state : State)
    (holds : kept state)
    (allowed : ∀ state, kept state → ∀ index ∈ indices,
      guarded state index = some (step state index) ∧ kept (step state index)) :
    indices.foldlM guarded state = some (indices.foldl step state) ∧
      kept (indices.foldl step state) := by
  induction indices generalizing state with
  | nil => exact ⟨rfl, holds⟩
  | cons index rest inductionHypothesis =>
      obtain ⟨ran, next⟩ := allowed state holds index List.mem_cons_self
      rw [List.foldlM_cons, ran, List.foldl_cons]
      exact inductionHypothesis (step state index) next fun other keeps place member =>
        allowed other keeps place (List.mem_cons_of_mem _ member)

end LiteRTLM.Library.RangeFill
