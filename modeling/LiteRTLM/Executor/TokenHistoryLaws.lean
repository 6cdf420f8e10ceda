import Mathlib
import LiteRTLM.Executor.TokenTable

/-!
Contract: the laws that hold of `ProcessedTokens` after every sequence of operations.

Owns: the laws of the queries and of every operation on a reached history, each for all
arguments, among them that the vector stays that of the table that the operations make.

Does not own: the operations.
-/

namespace LiteRTLM.Executor

open LiteRTLM.Engine

variable {Scalar : Type}

namespace TokensVector

/-! ## Laws of one history -/

section OneHistory

variable (processed : ProcessedTokens Scalar)

/-- The rows of the copied history have the token count as their length. -/
theorem row_length {candidate : Tokens Scalar} (member : candidate ∈ processed.tokens) :
    candidate.allIds.length = processed.tokenCount := by
  have length := ProcessedTokens.tokenIds_length member
  have pending := ProcessedTokens.pendingInputToken_isSome member
  rw [Tokens.allIds, List.length_append, length, ProcessedTokens.tokenCount, ← pending]
  cases candidate.pendingInputToken <;> rfl

/-- A step behind the processed ids is the pending token's. -/
theorem allIds_pending {candidate : Tokens Scalar} {token : TokenData Scalar}
    (member : candidate ∈ processed.tokens) (held : candidate.pendingInputToken = some token) :
    candidate.allIds[processed.getStep]? = some token.id := by
  rw [Tokens.allIds, held, ← ProcessedTokens.tokenIds_length member]
  simp

/-- An earlier step is a processed id. -/
theorem allIds_processed {candidate : Tokens Scalar} {step : Nat}
    (member : candidate ∈ processed.tokens) (before : step < processed.getStep) :
    candidate.allIds[step]? = candidate.tokenIds[step]? := by
  rw [Tokens.allIds, List.getElem?_append_left]
  rw [ProcessedTokens.tokenIds_length member]
  exact before

/-- The tokens at a step are the column of the copied history. -/
theorem getTokenAtStep_column (step : Int) :
    ∃ column, getTokenAtStep processed.tokens step = .ok column ∧
      if 0 ≤ step ∧ step < processed.tokenCount then
        column.map some = (getCopyOfTokens processed.tokens).map fun row => row[step.toNat]?
      else column = [] := by
  rw [getTokenAtStep, tokenCount_tokens]
  simp only [bind, Except.bind]
  by_cases outside : step < 0 ∨ step ≥ processed.tokenCount
  · rw [if_pos outside]
    refine ⟨[], rfl, ?_⟩
    rw [if_neg (by omega)]
  rw [if_neg outside]
  simp only [getStep_tokens, hasPendingInputToken_tokens]
  have inside : 0 ≤ step ∧ step < processed.tokenCount := by omega
  simp only [if_pos inside]
  by_cases pending : step = processed.getStep ∧ processed.hasPendingInputToken = true
  · rw [if_pos pending]
    have ids : ∀ candidate ∈ processed.tokens, pendingId candidate =
        .ok ((candidate.allIds[processed.getStep]?).getD 0) := by
      intro candidate member
      obtain ⟨token, held⟩ := pending_of_mem processed pending.2 member
      rw [allIds_pending processed member held, pendingId, held]
      rfl
    refine ⟨_, Library.mapM_ok _ _ _ ids, ?_⟩
    rw [getCopyOfTokens, List.map_map, List.map_map]
    apply List.map_congr_left
    intro candidate member
    obtain ⟨token, held⟩ := pending_of_mem processed pending.2 member
    have position : step.toNat = processed.getStep := by omega
    simp only [Function.comp_apply, position, allIds_pending processed member held,
      Option.getD_some]
  · rw [if_neg pending]
    have before : step.toNat < processed.getStep := by
      have counted := inside.2
      rw [ProcessedTokens.tokenCount] at counted
      by_cases held : processed.hasPendingInputToken = true
      · rw [if_pos held] at counted
        have apart : step ≠ processed.getStep := fun same => pending ⟨same, held⟩
        omega
      · rw [if_neg held] at counted
        omega
    have ids : ∀ candidate ∈ processed.tokens, idAt step.toNat candidate =
        .ok ((candidate.allIds[step.toNat]?).getD 0) := by
      intro candidate member
      have length := ProcessedTokens.tokenIds_length member
      rw [allIds_processed processed member before, idAt,
        List.getElem?_eq_getElem (by omega : step.toNat < candidate.tokenIds.length)]
      rfl
    refine ⟨_, Library.mapM_ok _ _ _ ids, ?_⟩
    rw [getCopyOfTokens, List.map_map, List.map_map]
    apply List.map_congr_left
    intro candidate member
    have length := row_length processed member
    simp only [Function.comp_apply,
      List.getElem?_eq_getElem (by omega : step.toNat < candidate.allIds.length),
      Option.getD_some]

/-- Taking the pending tokens as processed does not change the copied history. -/
theorem mark_copy :
    (replyOf processed processed.markPendingInputTokenAsProcessed).1.map Tokens.allIds =
      processed.tokens.map Tokens.allIds := by
  rw [ProcessedTokens.markPendingInputTokenAsProcessed]
  by_cases pending : processed.hasPendingInputToken = true
  · rw [if_pos pending, replyOf]
    show (processed.tokens.map _).map Tokens.allIds = _
    rw [List.map_map]
    apply List.map_congr_left
    intro candidate _
    simp [Tokens.allIds]
  · rw [if_neg pending, replyOf]

/-- A roll back succeeds up to the token count and truncates every row. -/
theorem rollBack_copy (newStep : Int) :
    ((replyOf processed (processed.rollBackToStep newStep)).2 = .ok () ↔
      0 ≤ newStep ∧ newStep ≤ processed.tokenCount) ∧
    ((replyOf processed (processed.rollBackToStep newStep)).2 = .ok () →
      (replyOf processed (processed.rollBackToStep newStep)).1.map Tokens.allIds =
        (processed.tokens.map Tokens.allIds).map (List.take newStep.toNat)) := by
  rw [ProcessedTokens.rollBackToStep]
  by_cases negative : newStep < 0
  · rw [if_pos negative]
    refine ⟨⟨fun refused => (by cases refused), fun inside => ?_⟩, fun refused => (by cases refused)⟩
    omega
  rw [if_neg negative]
  by_cases beyond : newStep > processed.tokenCount
  · rw [if_pos beyond]
    refine ⟨⟨fun refused => (by cases refused), fun inside => ?_⟩, fun refused => (by cases refused)⟩
    omega
  rw [if_neg beyond]
  have inside : 0 ≤ newStep ∧ newStep ≤ processed.tokenCount := by omega
  by_cases same : newStep = processed.tokenCount
  · rw [if_pos same]
    refine ⟨⟨fun _ => inside, fun _ => rfl⟩, fun _ => ?_⟩
    show processed.tokens.map Tokens.allIds = _
    rw [List.map_map]
    apply List.map_congr_left
    intro candidate member
    rw [Function.comp_apply, List.take_of_length_le]
    rw [row_length processed member]
    omega
  · rw [if_neg same]
    refine ⟨⟨fun _ => inside, fun _ => rfl⟩, fun _ => ?_⟩
    show (processed.tokens.map _).map Tokens.allIds = _
    rw [List.map_map, List.map_map]
    apply List.map_congr_left
    intro candidate member
    have length := ProcessedTokens.tokenIds_length member
    have counted : processed.tokenCount ≤ processed.getStep + 1 := by
      rw [ProcessedTokens.tokenCount]
      split <;> omega
    simp only [Function.comp_apply, Tokens.allIds, Option.map_none, Option.toList_none,
      List.append_nil]
    rw [List.take_append_of_le_length]
    omega

/-- A reduction succeeds below the number of candidates and keeps that candidate. -/
theorem reduce_keeps (index : Nat) :
    ((reduceTokenCandidates processed.tokens index).2 = .ok () ↔
      index < processed.tokens.length) ∧
    ((reduceTokenCandidates processed.tokens index).2 = .ok () →
      (reduceTokenCandidates processed.tokens index).1 =
        (processed.tokens[index]?).toList) := by
  rw [reduceTokenCandidates_refines, ProcessedTokens.reduceTokenCandidates]
  by_cases inBounds : index < processed.tokens.length
  · rw [dif_pos inBounds]
    refine ⟨⟨fun _ => inBounds, fun _ => rfl⟩, fun _ => ?_⟩
    rw [List.getElem?_eq_getElem inBounds]
    rfl
  · rw [dif_neg inBounds]
    exact ⟨⟨fun refused => (by cases refused), fun inside => absurd inside inBounds⟩,
      fun refused => (by cases refused)⟩

/-- A reduction undoes a broadcast. -/
theorem reduce_broadcast (size index : Nat)
    (spread : (broadcastTokenCandidates processed.tokens size).2 = .ok ())
    (reduced : (reduceTokenCandidates
      (broadcastTokenCandidates processed.tokens size).1 index).2 = .ok ()) :
    (reduceTokenCandidates (broadcastTokenCandidates processed.tokens size).1 index).1 =
      processed.tokens := by
  rw [broadcastTokenCandidates_refines] at spread reduced ⊢
  cases broadcast : processed.broadcastTokenCandidates size with
  | error status =>
    rw [broadcast] at spread
    cases spread
  | ok after =>
    rw [broadcast, replyOf] at reduced
    rw [replyOf]
    have single : processed.tokens.length = 1 := by
      by_contra several
      rw [ProcessedTokens.broadcastTokenCandidates, if_pos several] at broadcast
      cases broadcast
    have copies : after.tokens = List.replicate size processed.first := by
      rw [ProcessedTokens.broadcastTokenCandidates, if_neg (not_not.mpr single)] at broadcast
      by_cases small : size < processed.tokens.length
      · rw [dif_pos small] at broadcast
        cases broadcast
      · rw [dif_neg small] at broadcast
        cases broadcast
        rfl
    obtain ⟨inBounds, kept⟩ := reduce_keeps after index
    have below := inBounds.mp reduced
    rw [kept reduced, ProcessedTokens.tokens_eq_singleton single, copies]
    rw [copies, List.length_replicate] at below
    rw [List.getElem?_replicate, if_pos below]
    rfl

/-- An operation with an error leaves the vector as it is. -/
theorem error_unchanged (result : StatusOr (ProcessedTokens Scalar))
    (failed : (replyOf processed result).2 ≠ .ok ()) :
    (replyOf processed result).1 = processed.tokens := by
  cases result with
  | ok after => exact absurd rfl failed
  | error status => rfl

end OneHistory

/-! ## Laws of every sequence of operations -/

/-- What holds of a vector for all arguments of all operations. -/
structure HistoryLaws (tokens : TokensVector Scalar) : Prop where
  candidates : tokens ≠ []
  equalLengths : ∀ first ∈ tokens, ∀ second ∈ tokens,
    first.tokenIds.length = second.tokenIds.length
  pendingTogether : (∀ candidate ∈ tokens, candidate.pendingInputToken ≠ none) ∨
    ∀ candidate ∈ tokens, candidate.pendingInputToken = none
  columns : ∃ count, tokenCount tokens = .ok count ∧
    (∀ row ∈ getCopyOfTokens tokens, row.length = count) ∧
    ∀ step : Int, ∃ column, getTokenAtStep tokens step = .ok column ∧
      if 0 ≤ step ∧ step < count then
        column.map some = (getCopyOfTokens tokens).map fun row => row[step.toNat]?
      else column = []
  mark : ∃ reply, markPendingInputTokenAsProcessed tokens = .ok reply ∧
    getCopyOfTokens reply.1 = getCopyOfTokens tokens
  rollBack : ∀ newStep : Int, ∃ reply count, rollBackToStep tokens newStep = .ok reply ∧
    tokenCount tokens = .ok count ∧ (reply.2 = .ok () ↔ 0 ≤ newStep ∧ newStep ≤ count) ∧
    (reply.2 = .ok () →
      getCopyOfTokens reply.1 = (getCopyOfTokens tokens).map (List.take newStep.toNat))
  reduce : ∀ index,
    ((reduceTokenCandidates tokens index).2 = .ok () ↔ index < tokens.length) ∧
    ((reduceTokenCandidates tokens index).2 = .ok () →
      (reduceTokenCandidates tokens index).1 = (tokens[index]?).toList)
  undoBroadcast : ∀ size index, (broadcastTokenCandidates tokens size).2 = .ok () →
    (reduceTokenCandidates (broadcastTokenCandidates tokens size).1 index).2 = .ok () →
    (reduceTokenCandidates (broadcastTokenCandidates tokens size).1 index).1 = tokens
  errors : ∀ operation, ∃ reply, apply tokens operation = .ok reply ∧
    (reply.2 ≠ .ok () → reply.1 = tokens)

/-- A history obeys the laws. -/
theorem historyLaws_tokens (processed : ProcessedTokens Scalar) :
    HistoryLaws processed.tokens where
  candidates := processed.nonempty
  equalLengths := processed.uniform.sameStep
  pendingTogether := by
    by_cases pending : processed.hasPendingInputToken = true
    · apply Or.inl
      intro candidate member missing
      obtain ⟨token, held⟩ := pending_of_mem processed pending member
      rw [missing] at held
      cases held
    · apply Or.inr
      intro candidate member
      rw [← Option.not_isSome_iff_eq_none, ProcessedTokens.pendingInputToken_isSome member]
      exact pending
  columns := by
    refine ⟨processed.tokenCount, tokenCount_tokens processed, ?_,
      getTokenAtStep_column processed⟩
    intro row inCopy
    obtain ⟨candidate, member, rfl⟩ := List.mem_map.mp inCopy
    exact row_length processed member
  mark := ⟨_, markPendingInputTokenAsProcessed_refines processed, mark_copy processed⟩
  rollBack := fun newStep => ⟨_, _, rollBackToStep_refines processed newStep,
    tokenCount_tokens processed, rollBack_copy processed newStep⟩
  reduce := reduce_keeps processed
  undoBroadcast := reduce_broadcast processed
  errors := fun operation => ⟨_, apply_refines processed operation,
    error_unchanged processed (stepOf processed operation)⟩

/-- What holds of the vector of a table for all arguments of all operations. -/
structure TableLaws (table : TokenTable Scalar) : Prop where
  history : HistoryLaws table.candidates
  answers : ∀ operation, ∃ reply, apply table.candidates operation = .ok reply ∧
    table.Answers reply (table.operate operation)
  count : tokenCount table.candidates = .ok table.columns
  copy : getCopyOfTokens table.candidates = table.whole
  next : getNextUnprocessedToken table.candidates =
    .ok (table.step, (table.pending.getD []).map some)

theorem tableLaws (table : TokenTable Scalar) : TableLaws table where
  history := historyLaws_tokens table.processed
  answers := table.apply_answers
  count := (tokenCount_tokens table.processed).trans (by rw [table.tokenCount_processed])
  copy := table.map_allIds_candidates
  next := by
    have step : getStep table.candidates = .ok table.step :=
      (getStep_tokens table.processed).trans (by rw [table.getStep_processed])
    have pending : hasPendingInputToken table.candidates = .ok table.pending.isSome :=
      (hasPendingInputToken_tokens table.processed).trans
        (by rw [table.hasPendingInputToken_processed])
    rw [getNextUnprocessedToken, step, getPendingInputToken, pending,
      table.map_pendingInputToken_candidates, TokenTable.pointers]
    cases table.pending <;> rfl

/-- **Histories are tables.** Every sequence of operations on a new history runs through, and
reaches the vector of the table that the operations make, which obeys the laws. -/
theorem historyLaws_run (operations : List (Operation Scalar)) :
    run (initial : TokensVector Scalar) operations =
        .ok (TokenTable.initial.operateAll operations).candidates ∧
      TableLaws (TokenTable.initial.operateAll operations : TokenTable Scalar) :=
  ⟨TokenTable.initial.run_candidates operations, tableLaws _⟩

end TokensVector

end LiteRTLM.Executor
