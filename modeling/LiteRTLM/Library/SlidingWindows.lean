import Mathlib.Tactic

/-!
Contract: the windows of a fixed length that start at the multiples of a step.

Owns: one window, the number of whole windows, all of them in order, and what more
elements behind the list change.

Does not own: how the windows are computed.
-/

namespace LiteRTLM.Library.SlidingWindows

variable {α : Type*}

def window (size step index : Nat) (elements : List α) : List α :=
  (elements.drop (index * step)).take size

/-- The number of windows that lie within this many elements. -/
def count (size step length : Nat) : Nat :=
  if length < size then 0 else (length - size) / step + 1

/-- The windows that lie within the list, in order. -/
def windows (size step : Nat) (elements : List α) : List (List α) :=
  (List.range (count size step elements.length)).map fun index => window size step index elements

theorem lt_count_iff {size step length index : Nat} (positive : 0 < step) :
    index < count size step length ↔ index * step + size ≤ length := by
  unfold count
  split
  · next short =>
      simp only [not_lt_zero, false_iff, not_le]
      omega
  · next long =>
      rw [Nat.lt_succ_iff, Nat.le_div_iff_mul_le positive]
      omega

/-- The number of windows, from the first one that is not there. -/
theorem count_eq {size step length number : Nat} (positive : 0 < step)
    (there : ∀ index < number, index * step + size ≤ length)
    (notThere : length < number * step + size) : count size step length = number := by
  apply le_antisymm
  · by_contra more
    have isThere := (lt_count_iff positive).mp (not_le.mp more)
    omega
  · by_contra fewer
    have last := there _ (not_le.mp fewer)
    have isCounted := (lt_count_iff positive).mpr last
    omega

theorem length_windows (size step : Nat) (elements : List α) :
    (windows size step elements).length = count size step elements.length := by
  simp [windows]

/-- A window that lies within the list is the same with more elements behind. -/
theorem window_append {size step index : Nat} {elements : List α} (more : List α)
    (within : index * step + size ≤ elements.length) :
    window size step index (elements ++ more) = window size step index elements := by
  unfold window
  rw [List.drop_append_of_le_length (by omega), List.take_append_of_le_length (by simp; omega)]

/-- The last elements are a window when they end where it does. -/
theorem window_of_suffix {size step index : Nat} {elements last : List α}
    (suffix : last <:+ elements) (isSize : last.length = size)
    (ends : elements.length = index * step + size) : window size step index elements = last := by
  obtain ⟨front, rfl⟩ := suffix
  rw [List.length_append] at ends
  have isFront : index * step = front.length := by omega
  rw [window, isFront, List.drop_left, ← isSize, List.take_length]

end LiteRTLM.Library.SlidingWindows
