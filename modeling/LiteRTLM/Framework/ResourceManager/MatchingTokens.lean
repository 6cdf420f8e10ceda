import LiteRTLM.Framework.ResourceManager.PrefixPrefill

/-!
Contract: what `RemoveMatchingTokens` removes from the inputs of a prefill.

Owns: that it removes as many tokens as it can, and that what is processed and what is left are
the same history as before.

Does not own: the prefill of what is left. A step counts tokens.
-/

namespace LiteRTLM.Framework

open LiteRTLM.Library.PrefixMatching

/-- The inputs from `step` on become those from `next` on: tokens are removed in front, the
history is kept, and no further token could be removed. -/
structure RemovesMaximally (processedTokens inputIds : List Int) (step : Nat)
    (remaining : List Int) (next : Nat) : Prop where
  removed : ∃ front, inputIds = front ++ remaining ∧ next = step + front.length
  history : processedTokens.take next ++ remaining = processedTokens.take step ++ inputIds
  maximal : remaining = [] ∨ next = processedTokens.length ∨
    ∃ first other, remaining.head? = some first ∧ processedTokens[next]? = some other ∧
      first ≠ other

/-- What matches is the same in the inputs and in the processed tokens. -/
theorem take_matchingTokens (processedTokens inputIds : List Int) (step : Nat) :
    (processedTokens.drop step).take (matchingTokens processedTokens inputIds step) =
      inputIds.take (matchingTokens processedTokens inputIds step) := by
  obtain ⟨inInputs, isPrefix⟩ :=
    (le_commonPrefixLength_iff inputIds (processedTokens.drop step) _).mp le_rfl
  rw [List.prefix_iff_eq_take, List.length_take_of_le inInputs] at isPrefix
  exact isPrefix.symm

theorem history_matchingTokens (processedTokens inputIds : List Int) (step : Nat) :
    let matching := matchingTokens processedTokens inputIds step
    processedTokens.take (step + matching) ++ inputIds.drop matching =
      processedTokens.take step ++ inputIds := by
  intro matching
  calc
    processedTokens.take (step + matching) ++ inputIds.drop matching =
        processedTokens.take step ++ ((processedTokens.drop step).take matching ++
          inputIds.drop matching) := by
      rw [List.take_add, List.append_assoc]
    _ = processedTokens.take step ++ (inputIds.take matching ++ inputIds.drop matching) := by
      rw [take_matchingTokens]
    _ = processedTokens.take step ++ inputIds := by
      rw [List.take_append_drop]

/-- Behind the matching tokens a list ends, or the two differ. -/
theorem maximal_matchingTokens {processedTokens : List Int} (inputIds : List Int) {step : Nat}
    (inside : step ≤ processedTokens.length) :
    let matching := matchingTokens processedTokens inputIds step
    inputIds.drop matching = [] ∨ step + matching = processedTokens.length ∨
      ∃ first other, (inputIds.drop matching).head? = some first ∧
        processedTokens[step + matching]? = some other ∧ first ≠ other := by
  intro matching
  have notBeyond := matchingTokens_le_processed processedTokens inputIds step
  cases left : inputIds.drop matching with
  | nil => exact .inl rfl
  | cons first rest =>
      by_cases atEnd : step + matching = processedTokens.length
      · exact .inr (.inl atEnd)
      have within : step + matching < processedTokens.length := by
        show step + matchingTokens processedTokens inputIds step < processedTokens.length
        change step + matchingTokens processedTokens inputIds step ≠ _ at atEnd
        omega
      obtain ⟨other, isOther⟩ : ∃ other, processedTokens[step + matching]? = some other :=
        ⟨_, List.getElem?_eq_getElem within⟩
      refine .inr (.inr ⟨first, other, rfl, isOther, ?_⟩)
      have isFirst : inputIds[matching]? = some first := by
        have head := congrArg List.head? left
        rw [List.head?_drop] at head
        exact head
      rw [← List.getElem?_drop] at isOther
      have differs := getElem?_commonPrefixLength isOther
      rintro rfl
      exact differs isFirst

/-- **Maximal removal.** Inside the processed tokens `RemoveMatchingTokens` returns OK, removes
every token that repeats them, and keeps the history. -/
theorem removeMatchingTokens_maximal {processedTokens : List Int} (inputIds : List Int)
    {step : Nat} (inside : step ≤ processedTokens.length) :
    ∃ remaining next, removeMatchingTokens processedTokens inputIds step =
        .ok (remaining, ((next : Nat) : Int)) ∧
      RemovesMaximally processedTokens inputIds step remaining next := by
  refine ⟨_, _, removeMatchingTokens_eq inputIds inside, ?_, ?_, ?_⟩
  · refine ⟨_, (List.take_append_drop _ _).symm, ?_⟩
    rw [List.length_take_of_le (matchingTokens_le_inputs _ _ _)]
  · exact history_matchingTokens processedTokens inputIds step
  · exact maximal_matchingTokens inputIds inside

/-- Of three inputs behind the second token one matches. -/
theorem removeMatchingTokens_maximal_example :
    ∃ remaining next, removeMatchingTokens [1, 2, 3, 4] [3, 5, 6] (2 : Nat) =
        .ok (remaining, ((next : Nat) : Int)) ∧
      RemovesMaximally [1, 2, 3, 4] [3, 5, 6] 2 remaining next :=
  removeMatchingTokens_maximal [3, 5, 6] (by decide)

end LiteRTLM.Framework
