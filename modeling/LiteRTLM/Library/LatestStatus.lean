/-!
Contract: collectors that overwrite their status with every item.

A collector goes through items; each contributes entries or nothing at all, and the status says
whether the latest one contributed.

Owns: what it means to collect contributions, and the entries and the status after a list of
items.

Does not own: any particular collector.
-/

namespace LiteRTLM.Library

universe u v w

variable {State : Type u} {Item : Type v} {Entry : Type w}

/-- A step adds what the item contributes, and its status says whether it contributed. -/
structure Collects (step : State → Item → State) (entriesOf : State → List Entry)
    (statusOf : State → Bool) (contribution : Item → Option (List Entry)) : Prop where
  entries : ∀ state item,
    entriesOf (step state item) = entriesOf state ++ (contribution item).getD []
  status : ∀ state item, statusOf (step state item) = (contribution item).isSome

namespace Collects

variable {step : State → Item → State} {entriesOf : State → List Entry} {statusOf : State → Bool}
  {contribution : Item → Option (List Entry)}

/-- All contributions are collected, in order. -/
theorem entries_foldl (collects : Collects step entriesOf statusOf contribution)
    (items : List Item) (state : State) :
    entriesOf (items.foldl step state) =
      entriesOf state ++ items.flatMap fun item => (contribution item).getD [] := by
  induction items generalizing state with
  | nil => rw [List.foldl_nil, List.flatMap_nil, List.append_nil]
  | cons item rest inductionHypothesis =>
      rw [List.foldl_cons, inductionHypothesis, collects.entries, List.flatMap_cons,
        List.append_assoc]

/-- The status is that of the last item. -/
theorem status_foldl (collects : Collects step entriesOf statusOf contribution)
    (items : List Item) (state : State) :
    statusOf (items.foldl step state) =
      (items.getLast?.map fun item => (contribution item).isSome).getD (statusOf state) := by
  induction items generalizing state with
  | nil => rfl
  | cons item rest inductionHypothesis =>
      rw [List.foldl_cons, inductionHypothesis, collects.status]
      cases rest with
      | nil => rfl
      | cons next others =>
          rw [List.getLast?_cons_cons, List.getLast?_eq_some_getLast (List.cons_ne_nil next others)]
          rfl

end Collects

end LiteRTLM.Library
