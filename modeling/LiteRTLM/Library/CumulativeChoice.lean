import Mathlib.Algebra.BigOperators.Group.List.Basic
import Mathlib.Algebra.Order.BigOperators.Group.List
import Mathlib.Tactic.Common

/-!
Contract: a choice among weights by their cumulative sums.

Owns: the shortest prefix of weights whose sum reaches a bound, the position where the sum of
the weights reaches a drawn value, and that the position lies in the prefix.

Does not own: what is chosen, and where the weights and the drawn value come from.
-/

namespace LiteRTLM.Library.CumulativeChoice

variable {R : Type} [AddCommMonoid R] [LinearOrder R]

/-! ## Reaching a bound -/

/-- Weights are added to a sum, and counted, until the sum reaches the bound or no weight is
left. -/
def reach (bound : R) : List R → R → Nat → R × Nat
  | [], cumulative, size => (cumulative, size)
  | weight :: rest, cumulative, size =>
      if cumulative + weight ≥ bound then (cumulative + weight, size + 1)
      else reach bound rest (cumulative + weight) (size + 1)

/-- The shortest nonempty prefix whose sum reaches the bound; all weights where none does. -/
structure IsShortestPrefix (bound : R) (weights : List R) (size : Nat) : Prop where
  nonempty : 0 < size
  within : size ≤ weights.length
  shorter : ∀ fewer, 0 < fewer → fewer < size → (weights.take fewer).sum < bound
  reaches : bound ≤ (weights.take size).sum ∨ size = weights.length

theorem reach_spec (bound : R) (weights : List R) (cumulative : R) (size : Nat) :
    ∃ count, reach bound weights cumulative size =
        (cumulative + (weights.take count).sum, size + count) ∧
      (weights ≠ [] → 0 < count) ∧ count ≤ weights.length ∧
      (∀ fewer, 0 < fewer → fewer < count → cumulative + (weights.take fewer).sum < bound) ∧
      (bound ≤ cumulative + (weights.take count).sum ∨ count = weights.length) := by
  induction weights generalizing cumulative size with
  | nil => exact ⟨0, by simp [reach]⟩
  | cons weight rest inductionHypothesis =>
      rw [reach]
      by_cases reached : cumulative + weight ≥ bound
      · rw [if_pos reached]
        refine ⟨1, ?_, fun _ => Nat.one_pos, by simp, ?_, ?_⟩
        · simp
        · intro fewer positive small
          omega
        · left
          simpa using reached
      · rw [if_neg reached]
        obtain ⟨count, stops, positive, within, shorter, reaches⟩ :=
          inductionHypothesis (cumulative + weight) (size + 1)
        have total : ∀ count, cumulative + ((weight :: rest).take (count + 1)).sum =
            cumulative + weight + (rest.take count).sum := by
          intro count
          rw [List.take_succ_cons, List.sum_cons, add_assoc]
        refine ⟨count + 1, ?_, fun _ => Nat.succ_pos _, ?_, ?_, ?_⟩
        · rw [stops, total]
          congr 1
          omega
        · rw [List.length_cons]
          omega
        · intro fewer _ small
          cases fewer with
          | zero => omega
          | succ fewer =>
              rw [total]
              by_cases first : fewer = 0
              · rw [first, List.take_zero, List.sum_nil, add_zero]
                exact not_le.mp reached
              · exact shorter fewer (by omega) (by omega)
        · rw [total, List.length_cons]
          rcases reaches with reachesBound | all
          · exact Or.inl reachesBound
          · exact Or.inr (by omega)

/-- From nothing, the loop stops behind the shortest prefix. -/
theorem reach_shortest (bound : R) {weights : List R} (nonempty : weights ≠ []) :
    ∃ size, reach bound weights 0 0 = ((weights.take size).sum, size) ∧
      IsShortestPrefix bound weights size := by
  obtain ⟨size, stops, positive, within, shorter, reaches⟩ := reach_spec bound weights 0 0
  simp only [zero_add] at stops shorter reaches
  exact ⟨size, stops, positive nonempty, within, shorter, reaches⟩

/-- A bound that no weight is below is reached by the first weight. -/
theorem IsShortestPrefix.eq_one {bound : R} {weights : List R} {size : Nat}
    (shortest : IsShortestPrefix bound weights size) {first : R}
    (head : weights.head? = some first) (reached : bound ≤ first) : size = 1 := by
  by_contra other
  have positive := shortest.nonempty
  have below := shortest.shorter 1 Nat.one_pos (by omega)
  cases weights with
  | nil => cases head
  | cons weight rest =>
      cases head
      simp only [List.take_succ_cons, List.take_zero, List.sum_cons, List.sum_nil,
        add_zero] at below
      exact absurd reached (not_le.mpr below)

/-- With weights that are not negative, the prefix has at least the first weight. -/
theorem IsShortestPrefix.head_le_sum [IsOrderedAddMonoid R] {bound : R} {weights : List R}
    {size : Nat} (shortest : IsShortestPrefix bound weights size)
    (nonneg : ∀ weight ∈ weights, 0 ≤ weight) {first : R} (head : weights.head? = some first) :
    first ≤ (weights.take size).sum := by
  cases weights with
  | nil => cases head
  | cons weight rest =>
      cases head
      obtain ⟨fewer, rfl⟩ := Nat.exists_eq_add_of_lt shortest.nonempty
      have others : 0 ≤ (rest.take (0 + fewer)).sum := by
        apply List.sum_nonneg
        intro other member
        exact nonneg other (List.mem_cons_of_mem _ (List.mem_of_mem_take member))
      rw [List.take_succ_cons, List.sum_cons]
      exact le_add_of_nonneg_right others

/-! ## Locating a drawn value -/

/-- The position of the weight at which the sum reaches the drawn value. -/
def locate (drawn : R) : List R → R → Option Nat
  | [], _ => none
  | weight :: rest, cumulative =>
      if drawn ≤ cumulative + weight then some 0
      else (locate drawn rest (cumulative + weight)).map Nat.succ

/-- A value up to the sum of the weights is located at one of them. -/
theorem locate_of_le {drawn : R} {weights : List R} {cumulative : R} (nonempty : weights ≠ [])
    (reached : drawn ≤ cumulative + weights.sum) :
    ∃ position < weights.length, locate drawn weights cumulative = some position := by
  induction weights generalizing cumulative with
  | nil => exact absurd rfl nonempty
  | cons weight rest inductionHypothesis =>
      rw [locate]
      by_cases here : drawn ≤ cumulative + weight
      · exact ⟨0, Nat.succ_pos _, if_pos here⟩
      · rw [if_neg here]
        have further : drawn ≤ cumulative + weight + rest.sum := by
          rw [List.sum_cons, ← add_assoc] at reached
          exact reached
        have more : rest ≠ [] := by
          intro none
          rw [none, List.sum_nil, add_zero] at further
          exact here further
        obtain ⟨position, below, found⟩ := inductionHypothesis more further
        refine ⟨position + 1, Nat.succ_lt_succ below, ?_⟩
        rw [found]
        rfl

end LiteRTLM.Library.CumulativeChoice
