import LiteRTLM.Components.ConstrainedDecoding.ConstrainedDecoder
import LiteRTLM.Executor.SuccessfulCalls

/-!
Contract: the decodes of `LlmLiteRtCompiledModelExecutor` with a constraint decoder, and
the prefill of its dynamic variant.

Owns: when a decode updates the constraint states and masks the logits, and that
everything else is the decode without a constraint.

Does not own: the resizing of the KV cache, whose outcome is the backend's.
-/

namespace LiteRTLM.Executor

open LiteRTLM.Components
open LiteRTLM.Engine
open LiteRTLM.Library

variable {Scalar ConstraintState : Type}

/-- What a call meets outside the executor: the outcomes of the backend, the work groups
of a prefill, and the logits the model writes. -/
structure CallEnvironment (Scalar : Type) where
  backend : Backend Scalar
  workGroups : List (Nat × Backend Scalar)
  outputLogits : Logits Scalar

namespace CompiledModelExecutor

/-! ## Decode with a constraint -/

/-- Masks the logits in place, or a copy of them that is written back. -/
def maskOutputLogits [Bot Scalar] (decoder : ConstrainedDecoder ConstraintState)
    (logits : Logits Scalar) : StatusOr (Logits Scalar) :=
  if logits.hostMemory then
    decoder.maskLogits logits
  else if logits.elementTypeFloat32 then do
    let values ← decoder.maskSpan logits.dimensions logits.values
    return { logits with values }
  else
    .error (.invalidArgumentError "Output logits are not in float32.")

/-- The part of `DecodeLogits` that a constraint decoder adds. -/
def constrainLogits [Bot Scalar] (lastRunIsDecode : Bool) (outputBatchSize : Nat)
    (token : List (TokenData Scalar)) (decoder : ConstrainedDecoder ConstraintState)
    (logits : Logits Scalar) :
    StatusOr (ConstrainedDecoder ConstraintState × Logits Scalar) :=
  if token.isEmpty then
    .ok (decoder, logits)
  else if token.length ≠ outputBatchSize then
    .error (.internalError "step_and_token.token.size() == output_batch_size_")
  else do
    -- update the constraint states only with decoded ids
    let updated ←
      if lastRunIsDecode then decoder.updateConstraintState (token.map TokenData.id)
      else .ok decoder
    let masked ← maskOutputLogits updated logits
    return (updated, masked)

/-- `constrainLogits` for an optional constraint decoder. -/
def constrainLogitsIf [Bot Scalar] (lastRunIsDecode : Bool) (outputBatchSize : Nat)
    (token : List (TokenData Scalar)) (logits : Logits Scalar) :
    Option (ConstrainedDecoder ConstraintState) →
      StatusOr (Option (ConstrainedDecoder ConstraintState) × Logits Scalar)
  | none => .ok (none, logits)
  | some decoder => do
      let (updated, masked) ← constrainLogits lastRunIsDecode outputBatchSize token decoder logits
      return (some updated, masked)

/-- `DecodeLogits(inputs, decode_params)`. -/
def decodeLogitsWithParams [Bot Scalar] (environment : CallEnvironment Scalar)
    (inputs : Option (List Int)) (constraintDecoder : Option (ConstrainedDecoder ConstraintState)) :
    ExecutorM Scalar (Option (ConstrainedDecoder ConstraintState) × Logits Scalar) := do
  let lastRunIsDecode := (← get).ranDecode
  prepareFirstDecode environment.backend
  let next ← getTokenToDecode environment.backend inputs
  decodeInternal environment.backend next.step next.token
  consumePendingOrAddProcessedToken next.token
  let outputBatchSize := (← get).outputBatchSize
  let constrained ← returnIfError (constrainLogitsIf lastRunIsDecode outputBatchSize next.token
    environment.outputLogits constraintDecoder)
  modify fun executor => { executor with currentStep := next.step + 1 }
  return constrained

/-- The sampled ids as they are returned: an invalid id is replaced by 0. -/
def validToken (id : Int) : Int :=
  if id < 0 then 0 else id

/-- `Decode(output_tokens, decode_params)`: the sampled ids, and what the sampler was
given. -/
def decodeWithParams [Bot Scalar] (environment : CallEnvironment Scalar)
    (constraintDecoder : Option (ConstrainedDecoder ConstraintState)) :
    ExecutorM Scalar
      (List Int × Option (ConstrainedDecoder ConstraintState) × Logits Scalar) := do
  let constrained ← decodeLogitsWithParams environment none constraintDecoder
  let outputTokens ← returnIfError environment.backend.sampleToIds
  let outputBatchSize := (← get).outputBatchSize
  retCheck (outputTokens.length = outputBatchSize)
    "output_tokens_size == output_batch_size_ * sizeof(int32_t)"
  updateProcessedTokens fun processed =>
    processed.addPendingInputToken
      (outputTokens.map fun id => TokenData.ofId (validToken id))
  return (outputTokens.map validToken, constrained)

/-! ## The dynamic executor -/

/-- `LlmLiteRtCompiledModelExecutorDynamic::Prefill` on a `[inputBatchSize, length]` tensor
of ids. Unlike the static executor it leaves the decode flag as it is. -/
def prefillDynamic (environment : CallEnvironment Scalar) (inputBatchSize : Nat)
    (tokenIds : List Int) : ExecutorM Scalar Unit := do
  retCheck (inputBatchSize = 1) "tensor_type.Layout().Dimensions()[0] == 1"
  retCheck (tokenIds.length / inputBatchSize > 0) "Prefill token ids must be non-empty."
  let next := (← get).processedTokens.getNextUnprocessedToken
  match tokenIds, next.token with
  | [id], [] =>
      updateProcessedTokens fun processed => processed.addPendingInputToken [TokenData.ofId id]
  | _, _ => do
      returnIfError environment.backend.createPrefillInputBuffers
      prefillInternal environment.backend tokenIds

variable {before after : CompiledModelExecutor Scalar}

/-! ## The decode flag after a prefill -/

theorem prefillInternal_ranDecode {backend : Backend Scalar} {ids : List Int}
    (succeeds : Succeeds (prefillInternal backend ids) before () after) :
    after.ranDecode = before.ranDecode := by
  obtain ⟨last, -, ⟨-, -, stored⟩ | ⟨-, ran⟩⟩ := prefillInternal_ok succeeds
  · exact stored.ranDecode
  · exact ran.ranDecode

/-! ## What the decodes leave -/

def maskingSucceeds (backend : Backend Scalar) : Backend Scalar :=
  { backend with maskLogits := .ok () }

/-- A constrained decode moves the executor as one without a constraint. -/
theorem decodeLogitsWithParams_decodeLogits [Bot Scalar] {environment : CallEnvironment Scalar}
    {inputs : Option (List Int)}
    {constraintDecoder : Option (ConstrainedDecoder ConstraintState)}
    {constrained : Option (ConstrainedDecoder ConstraintState) × Logits Scalar}
    (succeeds : Succeeds (decodeLogitsWithParams environment inputs constraintDecoder)
      before constrained after) :
    Succeeds (decodeLogits (maskingSucceeds environment.backend) inputs) before () after := by
  simp only [decodeLogitsWithParams, succeeds_bind, succeeds_get, succeeds_modify,
    succeeds_returnIfError, succeeds_pure, and_assoc, exists_and_left, exists_eq_left,
    exists_const] at succeeds
  obtain ⟨_, prepared, prepares, next, looked, looks, _, ran, runs, _, consumed, consumes, _, -,
    -, rfl⟩ := succeeds
  simp only [decodeLogits, succeeds_bind, succeeds_modify, succeeds_returnIfError]
  exact ⟨(), prepared, prepares, next, looked, looks, (), ran, runs, (), consumed, consumes,
    (), consumed, ⟨rfl, rfl⟩, rfl⟩

/-- A constrained decode with sampling moves the executor as one without a constraint,
and returns as many tokens as there are candidates. -/
theorem decodeWithParams_decode [Bot Scalar] {environment : CallEnvironment Scalar}
    {constraintDecoder : Option (ConstrainedDecoder ConstraintState)}
    {outcome : List Int × Option (ConstrainedDecoder ConstraintState) × Logits Scalar}
    (succeeds : Succeeds (decodeWithParams environment constraintDecoder) before outcome after) :
    Succeeds (decode (maskingSucceeds environment.backend)) before () after := by
  simp only [decodeWithParams, succeeds_bind, succeeds_get, succeeds_returnIfError,
    succeeds_retCheck, succeeds_updateProcessedTokens, succeeds_pure, and_assoc, exists_and_left,
    exists_eq_left, exists_const] at succeeds
  obtain ⟨constrained, decoded, decodes, outputTokens, sampled, sized, _,
    ⟨processed, adds, rfl⟩, -, rfl⟩ := succeeds
  simp only [decode, succeeds_bind, succeeds_get, succeeds_returnIfError, succeeds_retCheck,
    succeeds_updateProcessedTokens, and_assoc, exists_and_left, exists_eq_left, exists_const]
  exact ⟨(), decoded, decodeLogitsWithParams_decodeLogits decodes, outputTokens, sampled, sized,
    processed, adds, rfl⟩

/-- What a constraint decoder adds to a decode: an update, unless this is the first
decode, and the mask. -/
theorem constrainLogitsIf_some [Bot Scalar] {lastRunIsDecode : Bool} {outputBatchSize : Nat}
    {token : List (TokenData Scalar)} {logits masked : Logits Scalar}
    {decoder : ConstrainedDecoder ConstraintState}
    {result : Option (ConstrainedDecoder ConstraintState)} (nonempty : token ≠ [])
    (constrains : constrainLogitsIf lastRunIsDecode outputBatchSize token logits (some decoder) =
      .ok (result, masked)) :
    ∃ updated, result = some updated ∧
      (if lastRunIsDecode then
        decoder.updateConstraintState (token.map TokenData.id) = .ok updated
      else updated = decoder) ∧
      maskOutputLogits updated logits = .ok masked := by
  simp only [constrainLogitsIf, except_bind_eq_ok, except_pure_eq_ok, Prod.mk.injEq] at constrains
  obtain ⟨⟨updated, maskedLogits⟩, constrains, rfl, rfl⟩ := constrains
  unfold constrainLogits at constrains
  rw [if_neg (by simpa using nonempty)] at constrains
  by_cases sized : token.length ≠ outputBatchSize
  · rw [if_pos sized] at constrains
    cases constrains
  · rw [if_neg sized] at constrains
    cases lastRunIsDecode with
    | true =>
        simp only [if_true, except_bind_eq_ok, except_pure_eq_ok, Prod.mk.injEq] at constrains
        obtain ⟨moved, updates, _, masks, rfl, rfl⟩ := constrains
        exact ⟨moved, rfl, updates, masks⟩
    | false =>
        simp only [Bool.false_eq_true, if_false, except_bind_eq_ok, except_pure_eq_ok,
          Prod.mk.injEq, Except.ok.injEq] at constrains
        obtain ⟨_, rfl, _, masks, rfl, rfl⟩ := constrains
        exact ⟨decoder, rfl, rfl, masks⟩

/-! ## What a constrained decode is given -/

def pendingIds (executor : CompiledModelExecutor Scalar) : List Int :=
  executor.processedTokens.getPendingInputToken.map TokenData.id

theorem withEmbedding_id (backend : Backend Scalar) (signatures : ModelSignatures)
    (token : TokenData Scalar) : (withEmbedding backend signatures token).id = token.id := by
  unfold withEmbedding
  split
  · rename_i found looked
    unfold lookupDecode at looked
    split at looked
    · simp only [except_bind_eq_ok] at looked
      obtain ⟨embedding, -, rest⟩ := looked
      split at rest
      · simp only [except_bind_eq_ok, except_pure_eq_ok] at rest
        obtain ⟨perLayer, -, rfl⟩ := rest
        rfl
      · rw [except_pure_eq_ok] at rest
        rw [← rest]
    · rw [except_pure_eq_ok] at looked
      rw [looked]
  · rfl

/-- Looking up embeddings keeps the ids of the pending tokens. -/
theorem pendingIds_mapPendingInputToken (processed : ProcessedTokens Scalar)
    (backend : Backend Scalar) (signatures : ModelSignatures) :
    (processed.mapPendingInputToken (withEmbedding backend signatures)).getPendingInputToken.map
        TokenData.id =
      processed.getPendingInputToken.map TokenData.id := by
  simp only [ProcessedTokens.getPendingInputToken, ProcessedTokens.mapPendingInputToken,
    ProcessedTokens.mapTokens, List.filterMap_map]
  induction processed.tokens with
  | nil => rfl
  | cons candidate candidates hypothesis =>
      cases pending : candidate.pendingInputToken with
      | none => simpa [pending] using hypothesis
      | some token => simpa [pending, withEmbedding_id] using hypothesis

/-- Giving each candidate a pending token makes these the pending tokens. -/
theorem pendingTokens_zipWith {tokens : List (Tokens Scalar)} {token : List (TokenData Scalar)}
    (sameLength : token.length = tokens.length) :
    (List.zipWith (fun candidate pending => { candidate with pendingInputToken := some pending })
      tokens token).filterMap Tokens.pendingInputToken = token := by
  induction tokens generalizing token with
  | nil => simpa using sameLength
  | cons candidate candidates hypothesis =>
      cases token with
      | nil => simp at sameLength
      | cons pending rest => simpa using hypothesis (by simpa using sameLength)

theorem addPendingInputToken_tokens {processed added : ProcessedTokens Scalar}
    {token : List (TokenData Scalar)} (adds : processed.addPendingInputToken token = .ok added) :
    added.getPendingInputToken = token := by
  unfold ProcessedTokens.addPendingInputToken at adds
  split at adds
  · cases adds
  · rename_i sized
    split at adds
    · cases adds
    · cases adds
      exact pendingTokens_zipWith (not_not.mp sized)

/-- What a constrained decode did to its constraint decoder and logits. -/
structure Constrained [Bot Scalar] (environment : CallEnvironment Scalar)
    (inputs : Option (List Int))
    (constraintDecoder updated : Option (ConstrainedDecoder ConstraintState))
    (logits : Logits Scalar) (before after : CompiledModelExecutor Scalar) : Prop where
  ranDecode : after.ranDecode = true
  constrained : ∃ token : List (TokenData Scalar), token ≠ [] ∧
    constrainLogitsIf before.ranDecode before.outputBatchSize token environment.outputLogits
      constraintDecoder = .ok (updated, logits) ∧
    (inputs = none → before.ranDecode = true → token.map TokenData.id = before.pendingIds)

theorem prepareFirstDecode_again {backend : Backend Scalar} (ran : before.ranDecode = true)
    (succeeds : Succeeds (prepareFirstDecode backend) before () after) : after = before := by
  simpa [prepareFirstDecode, ran] using succeeds

/-- Without ids from the caller, the ids fed are those of the pending tokens. -/
theorem getTokenToDecode_none_ids {backend : Backend Scalar}
    {next : ProcessedTokens.StepAndToken Scalar}
    (succeeds : Succeeds (getTokenToDecode backend none) before next after) :
    next.token.map TokenData.id = before.pendingIds := by
  simp only [getTokenToDecode, addInputToken, succeeds_bind, succeeds_get, succeeds_modify,
    succeeds_pure, succeeds_returnIfError, and_assoc, exists_and_left, exists_eq_left,
    exists_const] at succeeds
  obtain ⟨-, _, -, rfl, rfl⟩ := succeeds
  exact pendingIds_mapPendingInputToken _ _ _

theorem decodeLogitsWithParams_constrained [Bot Scalar] {environment : CallEnvironment Scalar}
    {inputs : Option (List Int)}
    {constraintDecoder updated : Option (ConstrainedDecoder ConstraintState)}
    {logits : Logits Scalar}
    (succeeds : Succeeds (decodeLogitsWithParams environment inputs constraintDecoder)
      before (updated, logits) after) :
    Constrained environment inputs constraintDecoder updated logits before after := by
  have decodeRan := decodeLogits_ok (decodeLogitsWithParams_decodeLogits succeeds)
  simp only [decodeLogitsWithParams, succeeds_bind, succeeds_get, succeeds_modify,
    succeeds_returnIfError, succeeds_pure, and_assoc, exists_and_left, exists_eq_left,
    exists_const] at succeeds
  obtain ⟨_, prepared, prepares, next, looked, looks, _, ran, runs, _, consumed, consumes,
    constrained, constrains, result, rfl⟩ := succeeds
  subst result
  refine ⟨decodeRan.ranDecode, next.token, (decodeInternal_ok runs).1, ?_, ?_⟩
  · rw [← decodeRan.outputBatchSize]
    exact constrains
  · rintro rfl ran
    rw [getTokenToDecode_none_ids looks, prepareFirstDecode_again ran prepares]

/-- What a constrained decode with sampling did: it returns the ids that are pending
afterwards. -/
theorem decodeWithParams_constrained [Bot Scalar] {environment : CallEnvironment Scalar}
    {constraintDecoder updated : Option (ConstrainedDecoder ConstraintState)}
    {outputTokens : List Int} {logits : Logits Scalar}
    (succeeds : Succeeds (decodeWithParams environment constraintDecoder)
      before (outputTokens, updated, logits) after) :
    Constrained environment none constraintDecoder updated logits before after ∧
      after.pendingIds = outputTokens ∧
      ∃ sampled, environment.backend.sampleToIds = .ok sampled ∧
        outputTokens = sampled.map validToken := by
  simp only [decodeWithParams, succeeds_bind, succeeds_get, succeeds_returnIfError,
    succeeds_retCheck, succeeds_updateProcessedTokens, succeeds_pure, and_assoc, exists_and_left,
    exists_eq_left, exists_const] at succeeds
  obtain ⟨constrained, decoded, decodes, sampled, samples, -, _, ⟨processed, adds, rfl⟩,
    result, rfl⟩ := succeeds
  obtain ⟨rfl, rfl⟩ := Prod.mk.inj result
  have ran := decodeLogitsWithParams_constrained decodes
  refine ⟨⟨ran.ranDecode, ran.constrained⟩, ?_, sampled, samples, rfl⟩
  show processed.getPendingInputToken.map TokenData.id = sampled.map validToken
  rw [addPendingInputToken_tokens adds, List.map_map]
  rfl

end CompiledModelExecutor

end LiteRTLM.Executor
