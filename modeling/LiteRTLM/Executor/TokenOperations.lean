import LiteRTLM.Executor.ProcessedTokens
import LiteRTLM.Library.Succeeds

/-!
Contract: the operations of `ProcessedTokens` on the vector `tokens_` alone, and the laws
of every history that a sequence of them reaches.

Owns: the operations as they read and write the vector, candidate by candidate and with the
crashes of a missing candidate or a missing pending token, sequences of operations, and
their refinement of `ProcessedTokens`.

Does not own: the executors that call the operations.
-/

namespace LiteRTLM.Executor

open LiteRTLM.Engine

variable {Scalar : Type}

abbrev TokensVector (Scalar : Type) := List (Tokens Scalar)

namespace TokensVector

/-! ## Queries -/

/-- `tokens_[0]`. -/
def front (tokens : TokensVector Scalar) : Except Crash (Tokens Scalar) :=
  match tokens with
  | [] => .error .outOfBounds
  | candidate :: _ => .ok candidate

/-- `t.pending_input_token->id()`. -/
def pendingId (candidate : Tokens Scalar) : Except Crash Int :=
  match candidate.pendingInputToken with
  | none => .error .nullPointer
  | some token => .ok token.id

/-- `t.token_ids[step]`. -/
def idAt (step : Nat) (candidate : Tokens Scalar) : Except Crash Int :=
  match candidate.tokenIds[step]? with
  | none => .error .outOfBounds
  | some tokenId => .ok tokenId

def getStep (tokens : TokensVector Scalar) : Except Crash Nat := do
  let candidate ← front tokens
  return candidate.tokenIds.length

def hasPendingInputToken (tokens : TokensVector Scalar) : Except Crash Bool := do
  let candidate ← front tokens
  return candidate.pendingInputToken.isSome

def tokenCount (tokens : TokensVector Scalar) : Except Crash Nat := do
  let step ← getStep tokens
  let pending ← hasPendingInputToken tokens
  return step + if pending then 1 else 0

/-- `GetPendingInputToken`; a pointer may be null. -/
def getPendingInputToken (tokens : TokensVector Scalar) :
    Except Crash (List (Option (TokenData Scalar))) := do
  let pending ← hasPendingInputToken tokens
  return if pending then tokens.map Tokens.pendingInputToken else []

def getNextUnprocessedToken (tokens : TokensVector Scalar) :
    Except Crash (Nat × List (Option (TokenData Scalar))) := do
  let step ← getStep tokens
  let token ← getPendingInputToken tokens
  return (step, token)

def getTokenAtStep (tokens : TokensVector Scalar) (step : Int) : Except Crash (List Int) := do
  let count ← tokenCount tokens
  if step < 0 ∨ step ≥ count then
    return []
  let current ← getStep tokens
  let pending ← hasPendingInputToken tokens
  if step = current ∧ pending then
    tokens.mapM pendingId
  else
    tokens.mapM (idAt step.toNat)

/-- `GetCopyOfTokens`; every candidate is asked for its own pending token. -/
def getCopyOfTokens (tokens : TokensVector Scalar) : List (List Int) :=
  tokens.map Tokens.allIds

/-! ## Operations -/

/-- The vector after an operation, and its status. -/
abbrev Reply (Scalar : Type) := TokensVector Scalar × StatusOr Unit

/-- `ReduceTokenCandidates`: swap, then `resize(1)`. -/
def reduceTokenCandidates (tokens : TokensVector Scalar) (index : Nat) : Reply Scalar :=
  if inBounds : index < tokens.length then
    (((tokens.set 0 tokens[index]).set index tokens[0]).take 1, .ok ())
  else
    (tokens, .error (.outOfRangeError
      s!"index must be less than tokens_.size(), got {index} vs {tokens.length}"))

/-- `BroadcastTokenCandidates`: the loop from 1 appends copies of the first candidate. -/
def broadcastTokenCandidates (tokens : TokensVector Scalar) (size : Nat) : Reply Scalar :=
  match tokens with
  | [candidate] =>
    if size < 1 then
      (tokens, .error (.invalidArgumentError
        s!"size must be greater than or equal to 1, got {size}"))
    else (candidate :: List.replicate (size - 1) candidate, .ok ())
  | _ => (tokens, .error (.failedPreconditionError
      "ExpandTokenCandidates called with tokens_.size() != 1."))

def addProcessedTokens (tokens : TokensVector Scalar) (tokenIds : List Int) :
    TokensVector Scalar :=
  tokens.map fun candidate => { candidate with tokenIds := candidate.tokenIds ++ tokenIds }

def addPendingInputToken (tokens : TokensVector Scalar) (token : List (TokenData Scalar)) :
    Except Crash (Reply Scalar) := do
  if token.length ≠ tokens.length then
    return (tokens, .error (.invalidArgumentError
      s!"Token size must be equal to tokens_.size(), got {token.length} vs {tokens.length}"))
  let pending ← hasPendingInputToken tokens
  if pending then
    return (tokens, .error ⟨.alreadyExists,
      "AddPendingInputToken called with an existing pending token."⟩)
  return (List.zipWith
    (fun candidate pending => { candidate with pendingInputToken := some pending })
    tokens token, .ok ())

/-- `token_ids.resize(size)`, which also can append zeros. -/
def resize (ids : List Int) (size : Nat) : List Int :=
  ids.take size ++ List.replicate (size - ids.length) 0

def rollBackToStep (tokens : TokensVector Scalar) (newStep : Int) :
    Except Crash (Reply Scalar) := do
  if newStep < 0 then
    return (tokens, .error (.internalError s!"new_step must be non-negative, got {newStep}"))
  let count ← tokenCount tokens
  if newStep > count then
    return (tokens, .error (.internalError
      s!"new_step must be less than or equal to TokenCount(), got {newStep} vs {count}"))
  if newStep = count then
    return (tokens, .ok ())
  return (tokens.map fun candidate =>
    { tokenIds := resize candidate.tokenIds newStep.toNat, pendingInputToken := none }, .ok ())

/-- The body of the loop of `MarkPendingInputTokenAsProcessed`. -/
def markCandidate (candidate : Tokens Scalar) : Except Crash (Tokens Scalar) := do
  let tokenId ← pendingId candidate
  return { tokenIds := candidate.tokenIds ++ [tokenId], pendingInputToken := none }

def markPendingInputTokenAsProcessed (tokens : TokensVector Scalar) :
    Except Crash (Reply Scalar) := do
  let pending ← hasPendingInputToken tokens
  if pending then
    let marked ← tokens.mapM markCandidate
    return (marked, .ok ())
  else
    return (tokens, .error (.notFoundError
      "MarkPendingInputTokenAsProcessed called with no pending token."))

def invalidatePendingInputToken (tokens : TokensVector Scalar) : TokensVector Scalar :=
  tokens.map fun candidate => { candidate with pendingInputToken := none }

/-- The operations that change the vector, with their arguments. -/
inductive Operation (Scalar : Type) where
  | reduceTokenCandidates (index : Nat)
  | broadcastTokenCandidates (size : Nat)
  | addProcessedTokens (tokenIds : List Int)
  | addPendingInputToken (token : List (TokenData Scalar))
  | rollBackToStep (newStep : Int)
  | markPendingInputTokenAsProcessed
  | invalidatePendingInputToken

/-- One operation. -/
def apply (tokens : TokensVector Scalar) : Operation Scalar → Except Crash (Reply Scalar)
  | .reduceTokenCandidates index => .ok (reduceTokenCandidates tokens index)
  | .broadcastTokenCandidates size => .ok (broadcastTokenCandidates tokens size)
  | .addProcessedTokens tokenIds => .ok (addProcessedTokens tokens tokenIds, .ok ())
  | .addPendingInputToken token => addPendingInputToken tokens token
  | .rollBackToStep newStep => rollBackToStep tokens newStep
  | .markPendingInputTokenAsProcessed => markPendingInputTokenAsProcessed tokens
  | .invalidatePendingInputToken => .ok (invalidatePendingInputToken tokens, .ok ())

/-- The vector of the constructor. -/
def initial : TokensVector Scalar := [⟨[], none⟩]

/-- A sequence of operations, whatever their statuses. -/
def run (tokens : TokensVector Scalar) : List (Operation Scalar) →
    Except Crash (TokensVector Scalar)
  | [] => .ok tokens
  | operation :: later => do
    let (after, _) ← apply tokens operation
    run after later

/-! ## Refinement -/

section Refinement

variable (processed : ProcessedTokens Scalar)

/-- The reply that a history's operation stands for: an error leaves the vector as it is. -/
def replyOf (result : StatusOr (ProcessedTokens Scalar)) : Reply Scalar :=
  match result with
  | .ok after => (after.tokens, .ok ())
  | .error status => (processed.tokens, .error status)

def stepOf : Operation Scalar → StatusOr (ProcessedTokens Scalar)
  | .reduceTokenCandidates index => processed.reduceTokenCandidates index
  | .broadcastTokenCandidates size => processed.broadcastTokenCandidates size
  | .addProcessedTokens tokenIds => .ok (processed.addProcessedTokens tokenIds)
  | .addPendingInputToken token => processed.addPendingInputToken token
  | .rollBackToStep newStep => processed.rollBackToStep newStep
  | .markPendingInputTokenAsProcessed => processed.markPendingInputTokenAsProcessed
  | .invalidatePendingInputToken => .ok processed.invalidatePendingInputToken

@[simp]
theorem front_tokens : front processed.tokens = .ok processed.first := by
  obtain ⟨tokens, nonempty, uniform⟩ := processed
  cases tokens with
  | nil => exact absurd rfl nonempty
  | cons candidate rest => rfl

@[simp]
theorem getStep_tokens : getStep processed.tokens = .ok processed.getStep := by
  rw [getStep, front_tokens]
  rfl

@[simp]
theorem hasPendingInputToken_tokens :
    hasPendingInputToken processed.tokens = .ok processed.hasPendingInputToken := by
  rw [hasPendingInputToken, front_tokens]
  rfl

@[simp]
theorem tokenCount_tokens : tokenCount processed.tokens = .ok processed.tokenCount := by
  rw [tokenCount, getStep_tokens, hasPendingInputToken_tokens]
  rfl

/-- With one pending token, every candidate has one. -/
theorem pending_of_mem (pending : processed.hasPendingInputToken) {candidate : Tokens Scalar}
    (member : candidate ∈ processed.tokens) :
    ∃ token, candidate.pendingInputToken = some token := by
  apply Option.isSome_iff_exists.mp
  rw [ProcessedTokens.pendingInputToken_isSome member, pending]

theorem reduceTokenCandidates_refines (index : Nat) :
    reduceTokenCandidates processed.tokens index =
      replyOf processed (processed.reduceTokenCandidates index) := by
  rw [reduceTokenCandidates, ProcessedTokens.reduceTokenCandidates]
  by_cases inBounds : index < processed.tokens.length
  · rw [dif_pos inBounds, dif_pos inBounds, replyOf]
    obtain ⟨tokens, nonempty, uniform⟩ := processed
    cases tokens with
    | nil => exact absurd rfl nonempty
    | cons candidate rest =>
      cases index with
      | zero => simp
      | succ index => simp
  · rw [dif_neg inBounds, dif_neg inBounds, replyOf]

theorem broadcastTokenCandidates_refines (size : Nat) :
    broadcastTokenCandidates processed.tokens size =
      replyOf processed (processed.broadcastTokenCandidates size) := by
  rw [ProcessedTokens.broadcastTokenCandidates]
  by_cases single : processed.tokens.length = 1
  · rw [if_neg (not_not.mpr single)]
    have unfolded : broadcastTokenCandidates processed.tokens size =
        broadcastTokenCandidates [processed.first] size :=
      congrArg (broadcastTokenCandidates · size) (ProcessedTokens.tokens_eq_singleton single)
    rw [unfolded, broadcastTokenCandidates]
    by_cases small : size < 1
    · rw [if_pos small, dif_pos (by omega), replyOf,
        ProcessedTokens.tokens_eq_singleton single]
    · rw [if_neg small, dif_neg (by omega), replyOf]
      obtain ⟨more, rfl⟩ := Nat.exists_eq_add_of_le' (not_lt.mp small)
      simp [List.replicate_succ]
  · rw [if_pos single, replyOf]
    generalize processed.tokens = tokens at single
    cases tokens with
    | nil => rfl
    | cons candidate rest =>
      cases rest with
      | nil => simp at single
      | cons second rest => rfl

theorem addPendingInputToken_refines (token : List (TokenData Scalar)) :
    addPendingInputToken processed.tokens token =
      .ok (replyOf processed (processed.addPendingInputToken token)) := by
  rw [addPendingInputToken, ProcessedTokens.addPendingInputToken]
  by_cases sized : token.length ≠ processed.tokens.length
  · rw [if_pos sized, dif_pos sized]
    rfl
  · rw [dif_neg sized]
    simp only [if_neg sized, hasPendingInputToken_tokens]
    by_cases pending : processed.hasPendingInputToken = true
    · simp only [if_pos pending, bind, Except.bind]
      rfl
    · simp only [if_neg pending, bind, Except.bind]
      rfl

theorem resize_of_le {ids : List Int} {size : Nat} (fits : size ≤ ids.length) :
    resize ids size = ids.take size := by
  rw [resize, Nat.sub_eq_zero_of_le fits, List.replicate_zero, List.append_nil]

theorem rollBackToStep_refines (newStep : Int) :
    rollBackToStep processed.tokens newStep =
      .ok (replyOf processed (processed.rollBackToStep newStep)) := by
  rw [rollBackToStep, ProcessedTokens.rollBackToStep]
  by_cases negative : newStep < 0
  · rw [if_pos negative, if_pos negative]
    rfl
  rw [if_neg negative]
  simp only [if_neg negative, tokenCount_tokens, bind, Except.bind]
  by_cases beyond : newStep > processed.tokenCount
  · rw [if_pos beyond, if_pos beyond]
    rfl
  rw [if_neg beyond]
  simp only [if_neg beyond]
  by_cases same : newStep = processed.tokenCount
  · rw [if_pos same, if_pos same]
    rfl
  rw [if_neg same, if_neg same, replyOf]
  have bound : newStep.toNat ≤ processed.getStep := by
    have counted : processed.tokenCount ≤ processed.getStep + 1 := by
      rw [ProcessedTokens.tokenCount]
      split <;> omega
    omega
  show Except.ok _ = Except.ok (processed.tokens.map _, _)
  congr 2
  apply List.map_congr_left
  intro candidate member
  rw [resize_of_le]
  rw [ProcessedTokens.tokenIds_length member]
  exact bound

theorem markPendingInputTokenAsProcessed_refines :
    markPendingInputTokenAsProcessed processed.tokens =
      .ok (replyOf processed processed.markPendingInputTokenAsProcessed) := by
  rw [markPendingInputTokenAsProcessed, ProcessedTokens.markPendingInputTokenAsProcessed,
    hasPendingInputToken_tokens]
  by_cases pending : processed.hasPendingInputToken = true
  · have marked : processed.tokens.mapM markCandidate = .ok (processed.tokens.map
        fun candidate => { tokenIds := candidate.allIds, pendingInputToken := none }) := by
      apply Library.mapM_ok
      intro candidate member
      obtain ⟨token, held⟩ := pending_of_mem processed pending member
      simp [markCandidate, pendingId, held, Tokens.allIds, bind, Except.bind, pure, Except.pure]
    simp only [if_pos pending, marked, bind, Except.bind]
    rfl
  · simp only [if_neg pending, bind, Except.bind]
    rfl

/-- Every operation on the vector is the operation of the history, and never crashes. -/
theorem apply_refines (operation : Operation Scalar) :
    apply processed.tokens operation =
      .ok (replyOf processed (stepOf processed operation)) := by
  cases operation with
  | reduceTokenCandidates index =>
    exact congrArg Except.ok (reduceTokenCandidates_refines processed index)
  | broadcastTokenCandidates size =>
    exact congrArg Except.ok (broadcastTokenCandidates_refines processed size)
  | addProcessedTokens tokenIds => rfl
  | addPendingInputToken token => exact addPendingInputToken_refines processed token
  | rollBackToStep newStep => exact rollBackToStep_refines processed newStep
  | markPendingInputTokenAsProcessed => exact markPendingInputTokenAsProcessed_refines processed
  | invalidatePendingInputToken => rfl

end Refinement

end TokensVector

end LiteRTLM.Executor
