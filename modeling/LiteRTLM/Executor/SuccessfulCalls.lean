import LiteRTLM.Executor.CompiledModelExecutor

/-!
Contract: what each part of a successful executor call did.

Owns: one lemma per function of the executor, from its success to the state it
left.

Does not own: properties of whole runs.
-/

namespace LiteRTLM.Executor.CompiledModelExecutor

open LiteRTLM.Engine
open LiteRTLM.Library

variable {Scalar : Type} {before after : CompiledModelExecutor Scalar}

/-! ## Elementary steps -/

@[simp]
theorem succeeds_returnIfError {α : Type} (status : StatusOr α) {value : α} :
    Succeeds (returnIfError status) before value after ↔
      status = .ok value ∧ after = before := by
  cases status with
  | ok result => simp [returnIfError, eq_comm]
  | error status => simp [returnIfError]

@[simp]
theorem succeeds_retCheck (condition : Prop) [Decidable condition] (text : String)
    {value : Unit} :
    Succeeds (retCheck condition text) before value after ↔ condition ∧ after = before := by
  by_cases holds : condition <;> simp [retCheck, holds]

@[simp]
theorem succeeds_updateProcessedTokens
    (operation : ProcessedTokens Scalar → StatusOr (ProcessedTokens Scalar)) {value : Unit} :
    Succeeds (updateProcessedTokens operation) before value after ↔
      ∃ processedTokens, operation before.processedTokens = .ok processedTokens ∧
        after = { before with processedTokens } := by
  simp [updateProcessedTokens]

@[simp]
theorem succeeds_fillInputBufferWithToken (backend : Backend Scalar)
    (token : List (TokenData Scalar)) {value : Unit} :
    Succeeds (fillInputBufferWithToken backend token) before value after ↔
      token ≠ [] ∧ backend.fillInputBuffer = .ok () ∧ after = before := by
  cases token <;> simp [fillInputBufferWithToken]

@[simp]
theorem succeeds_compiledModelRun (backend : Backend Scalar) (rows : List (InputRow Scalar))
    {value : Unit} :
    Succeeds (compiledModelRun backend rows) before value after ↔
      backend.compiledModelRun = .ok () ∧
        after = { before with
          modelRuns := before.modelRuns ++ [⟨rows, before.processedTokens.getCopyOfTokens⟩] } := by
  simp [compiledModelRun, Unique.exists_iff]

@[simp]
theorem succeeds_onlyIf (condition : Prop) [Decidable condition]
    (program : ExecutorM Scalar Unit) {value : Unit} :
    Succeeds (onlyIf condition program) before value after ↔
      (condition ∧ Succeeds program before () after) ∨ (¬condition ∧ after = before) := by
  by_cases holds : condition <;> simp [onlyIf, holds]

/-! ## Prefill -/

theorem lookupPrefillSpan_ok {backend : Backend Scalar} {signatures : ModelSignatures}
    {ids : List Int} {fedTokens : List (FedToken Scalar)}
    (succeeds : Succeeds (lookupPrefillSpan backend signatures ids) before fedTokens after) :
    fedTokens.map FedToken.id = ids ∧ after = before := by
  unfold lookupPrefillSpan at succeeds
  split at succeeds
  · obtain ⟨rfl, rfl⟩ := (succeeds_pure _).mp succeeds
    simp [Function.comp_def]
  · simp only [succeeds_bind, succeeds_returnIfError] at succeeds
    obtain ⟨embeddings, between, ⟨-, rfl⟩, rest⟩ := succeeds
    split at rest
    · simp only [succeeds_bind, succeeds_returnIfError] at rest
      obtain ⟨perLayer, _, ⟨-, rfl⟩, result⟩ := rest
      obtain ⟨rfl, rfl⟩ := (succeeds_pure _).mp result
      simp [List.mapIdx_eq_zipIdx_map, Function.comp_def]
    · obtain ⟨rfl, rfl⟩ := (succeeds_pure _).mp rest
      simp [List.mapIdx_eq_zipIdx_map, Function.comp_def]

theorem lastInputToken_ok {backend : Backend Scalar} {signatures : ModelSignatures} {id : Int}
    {token : TokenData Scalar}
    (succeeds : Succeeds (lastInputToken backend signatures id) before token after) :
    token.id = id ∧ after = before := by
  unfold lastInputToken at succeeds
  split at succeeds
  · obtain ⟨rfl, rfl⟩ := (succeeds_pure _).mp succeeds
    exact ⟨rfl, rfl⟩
  · simp only [succeeds_bind, succeeds_returnIfError] at succeeds
    obtain ⟨embedding, between, ⟨-, rfl⟩, rest⟩ := succeeds
    split at rest
    · simp only [succeeds_bind, succeeds_returnIfError] at rest
      obtain ⟨perLayer, _, ⟨-, rfl⟩, result⟩ := rest
      obtain ⟨rfl, rfl⟩ := (succeeds_pure _).mp result
      exact ⟨rfl, rfl⟩
    · obtain ⟨rfl, rfl⟩ := (succeeds_pure _).mp rest
      exact ⟨rfl, rfl⟩

/-- What a model run of `PrefillInternal` leaves. -/
structure PrefillRan (before after : CompiledModelExecutor Scalar) (front : List Int)
    (last : Int) : Prop where
  outputBatchSize : after.outputBatchSize = before.outputBatchSize
  ranDecode : after.ranDecode = before.ranDecode
  currentStep : after.currentStep = before.currentStep + front.length + 1
  candidates : after.processedTokens.tokens.length = before.processedTokens.tokens.length
  firstIds : after.processedTokens.first.tokenIds =
    before.processedTokens.first.allIds ++ front
  firstPending : ∃ token, after.processedTokens.first.pendingInputToken = some token ∧
    token.id = last
  modelRuns : ∃ fedTokens : List (FedToken Scalar), fedTokens.map FedToken.id = front ∧
    after.modelRuns = before.modelRuns ++
      [⟨(before.processedTokens.getPendingInputToken.map fun token =>
            ⟨before.processedTokens.getStep, [fedToken before.signatures token]⟩) ++
          fedTokens.mapIdx fun index token => ⟨before.currentStep + index, [token]⟩,
        after.processedTokens.getCopyOfTokens⟩]

theorem prefillRun_ok {backend : Backend Scalar} {front : List Int} {last : Int}
    (succeeds : Succeeds (prefillRun backend front last) before () after) :
    PrefillRan before after front last := by
  simp only [prefillRun, succeeds_bind, succeeds_get, succeeds_onlyIf, succeeds_modify,
    succeeds_updateProcessedTokens, succeeds_fillInputBufferWithToken,
    succeeds_compiledModelRun, succeeds_returnIfError, and_assoc, exists_and_left,
    exists_eq_left, exists_const] at succeeds
  obtain ⟨consumed, consumes, fedTokens, spanLooked, span, masked, masks, lastToken, lastLooked,
    lastLookup, added, ⟨processed, addsPending, rfl⟩, -, rfl⟩ := succeeds
  obtain ⟨fedIds, spanKept⟩ := lookupPrefillSpan_ok span
  have maskKept : masked = spanLooked := by
    rcases masks with ⟨-, -, same⟩ | ⟨-, same⟩ <;> exact same
  obtain ⟨lastId, lastKept⟩ := lastInputToken_ok lastLookup
  clear span masks lastLookup
  subst lastKept maskKept spanKept
  -- the pending token, if any, is now the last of the processed ids
  have consumption : ∃ processedTokens, consumed = { before with processedTokens } ∧
      processedTokens.tokens.length = before.processedTokens.tokens.length ∧
      processedTokens.first =
        { tokenIds := before.processedTokens.first.allIds, pendingInputToken := none } := by
    rcases consumes with ⟨-, -, -, processedTokens, marks, same⟩ | ⟨nonePending, same⟩
    · obtain ⟨-, candidates, first⟩ := ProcessedTokens.markPendingInputTokenAsProcessed_ok marks
      exact ⟨processedTokens, same, candidates, first⟩
    · have noToken := ProcessedTokens.getPendingInputToken_eq_nil.mp (not_not.mp nonePending)
      exact ⟨before.processedTokens, same, rfl, ProcessedTokens.first_of_not_pending noToken⟩
  obtain ⟨consumedTokens, rfl, candidates, first⟩ := consumption
  obtain ⟨-, addedCandidates, addedFirst⟩ := ProcessedTokens.addPendingInputToken_ok addsPending
  constructor
  · rfl
  · rfl
  · rfl
  · rw [addedCandidates, ← candidates]
    simp [ProcessedTokens.addProcessedTokens, ProcessedTokens.mapTokens]
  · rw [addedFirst]
    simp [ProcessedTokens.addProcessedTokens, first]
  · exact ⟨lastToken, by rw [addedFirst]; rfl, lastId⟩
  · exact ⟨fedTokens, fedIds, rfl⟩

/-- What a `PrefillInternal` that stores its only id as the pending token leaves. -/
structure PrefillStored (before after : CompiledModelExecutor Scalar) (last : Int) : Prop where
  outputBatchSize : after.outputBatchSize = before.outputBatchSize
  ranDecode : after.ranDecode = before.ranDecode
  currentStep : after.currentStep = before.currentStep
  candidates : after.processedTokens.tokens.length = before.processedTokens.tokens.length
  first : after.processedTokens.first =
    { before.processedTokens.first with pendingInputToken := some (TokenData.ofId last) }
  modelRuns : after.modelRuns = before.modelRuns

/-- `PrefillInternal` stores a single id when no token is pending, and otherwise
runs the model. -/
theorem prefillInternal_ok {backend : Backend Scalar} {ids : List Int}
    (succeeds : Succeeds (prefillInternal backend ids) before () after) :
    ∃ last, ids = ids.dropLast ++ [last] ∧
      ((before.processedTokens.hasPendingInputToken = false ∧ ids.length = 1 ∧
          PrefillStored before after last) ∨
        ((before.processedTokens.hasPendingInputToken = true ∨ ids.length ≠ 1) ∧
          PrefillRan before after ids.dropLast last)) := by
  simp only [prefillInternal, succeeds_bind, succeeds_get, succeeds_onlyIf,
    succeeds_returnIfError, succeeds_retCheck, and_assoc, exists_and_left,
    exists_eq_left, exists_const] at succeeds
  obtain ⟨masked, masks, -, body⟩ := succeeds
  have maskKept : masked = before := by
    rcases masks with ⟨-, -, same⟩ | ⟨-, same⟩ <;> exact same
  subst maskKept
  cases lastId : ids.getLast? with
  | none => simp [lastId] at body
  | some last =>
      refine ⟨last, (List.dropLast_append_getLast? last lastId).symm, ?_⟩
      simp only [lastId, succeeds_ite, succeeds_updateProcessedTokens] at body
      rcases body with ⟨⟨noToken, single⟩, processed, addsPending, rfl⟩ | ⟨runs, succeeds⟩
      · left
        obtain ⟨nonePending, candidates, first⟩ :=
          ProcessedTokens.addPendingInputToken_ok addsPending
        exact ⟨nonePending, single, rfl, rfl, rfl, candidates, first, rfl⟩
      · right
        refine ⟨?_, prefillRun_ok succeeds⟩
        rw [not_and_or, ProcessedTokens.getNextUnprocessedToken,
          ProcessedTokens.getPendingInputToken_eq_nil, Bool.not_eq_false] at runs
        exact runs

/-- What the switch from decode back to prefill leaves: the first candidate. -/
theorem reduceToPrefill_ok {backend : Backend Scalar}
    (succeeds : Succeeds (reduceToPrefill backend) before () after) :
    ∃ processedTokens, after = { before with ranDecode := false, processedTokens } ∧
      processedTokens.first = before.processedTokens.first ∧
      processedTokens.tokens.length =
        if before.ranDecode = true ∧ 1 < before.outputBatchSize then 1
        else before.processedTokens.tokens.length := by
  simp only [reduceToPrefill, succeeds_bind, succeeds_get, succeeds_onlyIf, succeeds_modify,
    succeeds_returnIfError, succeeds_updateProcessedTokens, and_assoc, exists_and_left,
    exists_eq_left, exists_const] at succeeds
  rcases succeeds with
    ⟨ran, ⟨many, _, ⟨processed, reduces, rfl⟩, -, rfl⟩ | ⟨one, rfl⟩⟩ | ⟨fresh, rfl⟩
  · obtain ⟨candidates, sameFirst⟩ := ProcessedTokens.reduceTokenCandidates_zero_ok reduces
    refine ⟨processed, rfl, sameFirst, ?_⟩
    rw [if_pos ⟨ran, many⟩]
    exact candidates
  · refine ⟨before.processedTokens, rfl, rfl, ?_⟩
    rw [if_neg fun condition => one condition.2]
  · have notRan : after.ranDecode = false := by simpa using fresh
    refine ⟨after.processedTokens, ?_, rfl, ?_⟩
    · rw [← notRan]
    · simp [notRan]

/-! ## Decode -/

/-- What `PrepareFirstDecode` leaves: every candidate starts from the first. -/
theorem prepareFirstDecode_ok {backend : Backend Scalar}
    (succeeds : Succeeds (prepareFirstDecode backend) before () after) :
    ∃ processedTokens, after = { before with ranDecode := true, processedTokens } ∧
      processedTokens.first = before.processedTokens.first ∧
      processedTokens.tokens.length =
        if before.ranDecode = false ∧ 1 < before.outputBatchSize then before.outputBatchSize
        else before.processedTokens.tokens.length := by
  simp only [prepareFirstDecode, succeeds_bind, succeeds_get, succeeds_onlyIf, succeeds_modify,
    succeeds_returnIfError, succeeds_updateProcessedTokens, and_assoc, exists_and_left,
    exists_eq_left, exists_const] at succeeds
  rcases succeeds with
    ⟨first, ⟨many, _, ⟨processed, broadcasts, rfl⟩, -, rfl⟩ | ⟨one, rfl⟩⟩ | ⟨again, rfl⟩
  · obtain ⟨candidates, sameFirst⟩ := ProcessedTokens.broadcastTokenCandidates_ok broadcasts
    refine ⟨processed, rfl, sameFirst, ?_⟩
    rw [if_pos ⟨by simpa using first, many⟩]
    exact candidates
  · refine ⟨before.processedTokens, rfl, rfl, ?_⟩
    rw [if_neg fun condition => one condition.2]
  · have ran : after.ranDecode = true := by simpa using again
    refine ⟨after.processedTokens, ?_, rfl, ?_⟩
    · rw [← ran]
    · simp [ran]

/-- Ids given by the caller change the pending tokens only. -/
theorem addInputToken_ok {inputs : Option (List Int)}
    (succeeds : Succeeds (addInputToken inputs) before () after) :
    ∃ processedTokens, after = { before with processedTokens } ∧
      processedTokens.getStep = before.processedTokens.getStep ∧
      processedTokens.tokens.length = before.processedTokens.tokens.length := by
  simp only [addInputToken, succeeds_bind, succeeds_get, and_assoc, exists_and_left,
    exists_eq_left] at succeeds
  split at succeeds
  · simp only [succeeds_bind, succeeds_onlyIf, succeeds_modify, succeeds_retCheck,
      succeeds_updateProcessedTokens, and_assoc, exists_and_left, exists_eq_left,
      exists_const] at succeeds
    obtain ⟨-, ⟨-, processed, adds, rfl⟩ | ⟨-, rfl⟩⟩ := succeeds
    · obtain ⟨-, candidates, first⟩ := ProcessedTokens.addPendingInputToken_ok adds
      refine ⟨processed, rfl, ?_, ?_⟩
      · simp [ProcessedTokens.getStep, first, ProcessedTokens.invalidatePendingInputToken]
      · rw [candidates]
        simp [ProcessedTokens.invalidatePendingInputToken, ProcessedTokens.mapTokens]
    · exact ⟨_, rfl, rfl, rfl⟩
  · obtain ⟨-, rfl⟩ := (succeeds_pure _).mp succeeds
    exact ⟨_, rfl, rfl, rfl⟩

/-- What `GetTokenToDecode` leaves: a change of the pending tokens only. -/
theorem getTokenToDecode_ok {backend : Backend Scalar} {inputs : Option (List Int)}
    {next : ProcessedTokens.StepAndToken Scalar}
    (succeeds : Succeeds (getTokenToDecode backend inputs) before next after) :
    ∃ processedTokens, after = { before with processedTokens } ∧
      processedTokens.getStep = before.processedTokens.getStep ∧
      processedTokens.tokens.length = before.processedTokens.tokens.length ∧
      next = processedTokens.getNextUnprocessedToken := by
  simp only [getTokenToDecode, succeeds_bind, succeeds_get, succeeds_modify, succeeds_pure,
    succeeds_returnIfError, and_assoc, exists_and_left, exists_eq_left, exists_const] at succeeds
  obtain ⟨_, between, adds, _, -, rfl, rfl⟩ := succeeds
  obtain ⟨processed, rfl, step, candidates⟩ := addInputToken_ok adds
  refine ⟨_, rfl, ?_, ?_, rfl⟩
  · rw [← step]
    simp [ProcessedTokens.getStep, ProcessedTokens.mapPendingInputToken]
  · rw [← candidates]
    simp [ProcessedTokens.mapPendingInputToken, ProcessedTokens.mapTokens]

/-- What `DecodeInternal` leaves: a run of one row at the current step. -/
theorem decodeInternal_ok {backend : Backend Scalar} {step : Nat}
    {token : List (TokenData Scalar)}
    (succeeds : Succeeds (decodeInternal backend step token) before () after) :
    token ≠ [] ∧ after = { before with
      modelRuns := before.modelRuns ++
        [⟨[⟨step, token.map (fedToken before.signatures)⟩],
          before.processedTokens.getCopyOfTokens⟩] } := by
  simp only [decodeInternal, succeeds_bind, succeeds_get, succeeds_onlyIf, succeeds_throw,
    succeeds_returnIfError, succeeds_retCheck, succeeds_fillInputBufferWithToken,
    succeeds_compiledModelRun, and_false, false_or, and_assoc, exists_and_left,
    exists_eq_left, exists_const] at succeeds
  obtain ⟨-, hasToken, -, -, masked, masks, -, rfl⟩ := succeeds
  have maskKept : masked = before := by
    rcases masks with ⟨-, _, -, -, same⟩ | ⟨-, same⟩ <;> exact same
  subst maskKept
  exact ⟨hasToken, rfl⟩

theorem consumePendingOrAddProcessedToken_ok {token : List (TokenData Scalar)}
    (pending : before.processedTokens.hasPendingInputToken = true)
    (succeeds : Succeeds (consumePendingOrAddProcessedToken token) before () after) :
    ∃ processedTokens, after = { before with processedTokens } ∧
      processedTokens.getStep = before.processedTokens.getStep + 1 ∧
      processedTokens.hasPendingInputToken = false ∧
      processedTokens.tokens.length = before.processedTokens.tokens.length := by
  simp only [consumePendingOrAddProcessedToken, succeeds_bind, succeeds_get, and_assoc,
    exists_and_left, exists_eq_left] at succeeds
  cases marks : before.processedTokens.markPendingInputTokenAsProcessed with
  | error status => simp [ProcessedTokens.markPendingInputTokenAsProcessed, pending] at marks
  | ok processed =>
      simp only [marks, succeeds_modify] at succeeds
      obtain ⟨-, candidates, first⟩ := ProcessedTokens.markPendingInputTokenAsProcessed_ok marks
      obtain ⟨token, held⟩ := Option.isSome_iff_exists.mp pending
      refine ⟨processed, succeeds, ?_, ?_, candidates⟩
      · simp [ProcessedTokens.getStep, first, Tokens.allIds, held]
      · simp [ProcessedTokens.hasPendingInputToken, first]

/-- What a successful decode without sampling leaves. -/
structure DecodeRan (before after : CompiledModelExecutor Scalar) : Prop where
  outputBatchSize : after.outputBatchSize = before.outputBatchSize
  ranDecode : after.ranDecode = true
  currentStep : after.currentStep = before.processedTokens.getStep + 1
  step : after.processedTokens.getStep = before.processedTokens.getStep + 1
  nonePending : after.processedTokens.hasPendingInputToken = false
  candidates : after.processedTokens.tokens.length =
    if before.ranDecode = false ∧ 1 < before.outputBatchSize then before.outputBatchSize
    else before.processedTokens.tokens.length
  modelRuns : ∃ tokens history, after.modelRuns = before.modelRuns ++
      [⟨[⟨before.processedTokens.getStep, tokens⟩], history⟩] ∧
    tokens.map (fun token => some token.id) =
      history.map fun ids => ids[before.processedTokens.getStep]?

/-- The part that the decodes share: the pending tokens are fed at the current
step and consumed. -/
theorem decodeRan_of_parts {backend : Backend Scalar} {inputs : Option (List Int)}
    {prepared looked ran consumed : CompiledModelExecutor Scalar}
    {next : ProcessedTokens.StepAndToken Scalar}
    (prepares : Succeeds (prepareFirstDecode backend) before () prepared)
    (looks : Succeeds (getTokenToDecode backend inputs) prepared next looked)
    (runs : Succeeds (decodeInternal backend next.step next.token) looked () ran)
    (consumes : Succeeds (consumePendingOrAddProcessedToken next.token) ran () consumed) :
    DecodeRan before { consumed with currentStep := next.step + 1 } := by
  obtain ⟨preparedTokens, rfl, preparedFirst, preparedCandidates⟩ :=
    prepareFirstDecode_ok prepares
  obtain ⟨lookedTokens, rfl, lookedStep, lookedCandidates, rfl⟩ := getTokenToDecode_ok looks
  obtain ⟨hasToken, rfl⟩ := decodeInternal_ok runs
  have pending : lookedTokens.hasPendingInputToken = true := by
    simpa [ProcessedTokens.getNextUnprocessedToken] using hasToken
  obtain ⟨consumedTokens, rfl, consumedStep, nonePending, consumedCandidates⟩ :=
    consumePendingOrAddProcessedToken_ok pending consumes
  have step : lookedTokens.getStep = before.processedTokens.getStep := by
    rw [lookedStep, ProcessedTokens.getStep, preparedFirst]
    rfl
  refine ⟨rfl, rfl, ?_, ?_, nonePending, ?_, ?_⟩
  · rw [← step]
    rfl
  · rw [← step]
    exact consumedStep
  · rw [← preparedCandidates, ← lookedCandidates, ← consumedCandidates]
  · refine ⟨lookedTokens.getPendingInputToken.map (fedToken before.signatures),
      lookedTokens.getCopyOfTokens, ?_, ?_⟩
    · rw [← step]
      rfl
    · rw [← step, ← ProcessedTokens.pending_column pending, List.map_map]
      rfl

/-- `Decode(inputs, output_logits)`. -/
theorem decodeInputs_ok {backend : Backend Scalar} {inputs : Option (List Int)}
    (succeeds : Succeeds (decodeInputs backend inputs) before () after) :
    DecodeRan before after := by
  simp only [decodeInputs, succeeds_bind, succeeds_modify] at succeeds
  obtain ⟨_, prepared, prepares, next, looked, looks, _, ran, runs, _, consumed, consumes,
    rfl⟩ := succeeds
  exact decodeRan_of_parts prepares looks runs consumes

theorem decodeLogits_ok {backend : Backend Scalar} {inputs : Option (List Int)}
    (succeeds : Succeeds (decodeLogits backend inputs) before () after) :
    DecodeRan before after := by
  simp only [decodeLogits, succeeds_bind, succeeds_modify, succeeds_returnIfError] at succeeds
  obtain ⟨_, prepared, prepares, next, looked, looks, _, ran, runs, _, consumed, consumes,
    _, _, ⟨-, rfl⟩, rfl⟩ := succeeds
  exact decodeRan_of_parts prepares looks runs consumes

/-- `Decode(output_tokens)`: the sampled tokens become pending, and nothing else
changes. -/
theorem decode_ok {backend : Backend Scalar}
    (succeeds : Succeeds (decode backend) before () after) :
    ∃ ran processedTokens, DecodeRan before ran ∧ after = { ran with processedTokens } ∧
      processedTokens.getStep = ran.processedTokens.getStep ∧
      processedTokens.tokens.length = ran.processedTokens.tokens.length := by
  simp only [decode, succeeds_bind, succeeds_get, succeeds_returnIfError, succeeds_retCheck,
    succeeds_updateProcessedTokens, and_assoc, exists_and_left, exists_eq_left,
    exists_const] at succeeds
  obtain ⟨_, ran, decodes, outputTokens, -, -, processed, adds, rfl⟩ := succeeds
  obtain ⟨-, candidates, first⟩ := ProcessedTokens.addPendingInputToken_ok adds
  refine ⟨ran, processed, decodeLogits_ok decodes, rfl, ?_, candidates⟩
  simp [ProcessedTokens.getStep, first]

/-! ## Reset -/

theorem reset_ok (succeeds : Succeeds reset before () after) :
    ∃ processedTokens,
      after = { before with currentStep := 0, processedTokens, modelRuns := [] } ∧
      processedTokens.getStep = 0 ∧
      processedTokens.tokens.length = before.processedTokens.tokens.length := by
  simp only [reset, succeeds_bind, succeeds_modify, succeeds_updateProcessedTokens,
    exists_eq_left, exists_const] at succeeds
  obtain ⟨_, ⟨processed, rolls, rfl⟩, rfl⟩ := succeeds
  obtain ⟨candidates, step⟩ := ProcessedTokens.rollBackToStep_zero_ok rolls
  exact ⟨processed, rfl, step, candidates⟩

end LiteRTLM.Executor.CompiledModelExecutor
