import Mathlib.Tactic

/-!
Contract: items that are held back up to a bound that changes with each item.

When an item arrives it is held. Then the oldest ones are released until no more are held than a
bound that is given with the item.

Owns: how many items are held after a sequence of bounds, and which items have been released.

Does not own: the items.
-/

namespace LiteRTLM.Library.HeldBack

/-- The number of items held after items with the bounds have arrived. -/
def heldCount (bounds : List Nat) : Nat :=
  bounds.foldl (fun held bound => min bound (held + 1)) 0

theorem heldCount_concat (bounds : List Nat) (bound : Nat) :
    heldCount (bounds ++ [bound]) = min bound (heldCount bounds + 1) := by
  simp [heldCount]

theorem heldCount_le_length (bounds : List Nat) : heldCount bounds ≤ bounds.length := by
  induction bounds using List.reverseRecOn with
  | nil => exact Nat.le_refl 0
  | append_singleton bounds bound inductionHypothesis =>
      rw [heldCount_concat, List.length_append, List.length_singleton]
      omega

/-- An item is released by the arrival of an item at which the bound is no more than the number of
items that have arrived after it. -/
def Released (bounds : List Nat) (index : Nat) : Prop :=
  ∃ (arrival : Nat) (bound : Nat), bounds[arrival]? = some bound ∧ bound + index ≤ arrival

theorem released_concat (bounds : List Nat) (bound index : Nat) :
    Released (bounds ++ [bound]) index ↔
      Released bounds index ∨ bound + index ≤ bounds.length := by
  constructor
  · intro released
    obtain ⟨arrival, other, isBound, enough⟩ := released
    by_cases earlier : arrival < bounds.length
    · left
      rw [List.getElem?_append_left earlier] at isBound
      exact ⟨arrival, other, isBound, enough⟩
    · right
      have isLast : arrival = bounds.length := by
        have inBounds := (List.getElem?_eq_some_iff.mp isBound).1
        rw [List.length_append, List.length_singleton] at inBounds
        omega
      subst isLast
      rw [List.getElem?_concat_length] at isBound
      cases isBound
      exact enough
  · intro released
    cases released with
    | inl earlier =>
        obtain ⟨arrival, other, isBound, enough⟩ := earlier
        have inBounds := (List.getElem?_eq_some_iff.mp isBound).1
        exact ⟨arrival, other, by rw [List.getElem?_append_left inBounds, isBound], enough⟩
    | inr last =>
        exact ⟨bounds.length, bound, List.getElem?_concat_length, last⟩

/-- The items released are the oldest ones: all but those held. -/
theorem released_iff (bounds : List Nat) (index : Nat) :
    Released bounds index ↔ index < bounds.length - heldCount bounds := by
  induction bounds using List.reverseRecOn with
  | nil =>
      constructor
      · intro released
        obtain ⟨arrival, bound, isBound, -⟩ := released
        simp at isBound
      · intro below
        exact absurd below (Nat.not_lt_zero index)
  | append_singleton bounds bound inductionHypothesis =>
      have held := heldCount_le_length bounds
      rw [released_concat, inductionHypothesis, heldCount_concat, List.length_append,
        List.length_singleton]
      omega

/-- Two fronts of a list of texts, one inside the other, have the same text exactly when the texts
between them are empty. -/
theorem flatten_take_eq_iff {Symbol : Type*} (texts : List (List Symbol)) {short long : Nat}
    (inside : short ≤ long) :
    (texts.take short).flatten = (texts.take long).flatten ↔
      ∀ (index : Nat) text, texts[index]? = some text → short ≤ index → index < long →
        text = [] := by
  have split : texts.take long =
      texts.take short ++ (texts.drop short).take (long - short) := by
    rw [← List.take_add, Nat.add_sub_cancel' inside]
  rw [split, List.flatten_append, List.self_eq_append_right, List.flatten_eq_nil_iff]
  constructor
  · intro allEmpty index text isText notShort inLong
    apply allEmpty
    apply List.mem_of_getElem? (i := index - short)
    rw [List.getElem?_take_of_lt (by omega), List.getElem?_drop, Nat.add_sub_cancel' notShort,
      isText]
  · intro empty text member
    obtain ⟨offset, isText⟩ := List.mem_iff_getElem?.mp member
    have inWindow : offset < long - short := by
      have inBounds := (List.getElem?_eq_some_iff.mp isText).1
      rw [List.length_take] at inBounds
      omega
    rw [List.getElem?_take_of_lt inWindow, List.getElem?_drop] at isText
    exact empty (short + offset) text isText (by omega) (by omega)

end LiteRTLM.Library.HeldBack
