import LiteRTLM.Executor.ConstrainedDecode

/-!
Contract: how far the calls of the compiled model executor move its token count, and
which attention mask entries they write.

Owns: the ranges `FillAttentionMask` fills, a backend that refuses to fill beyond a
bound, and the bound each successful call stays within.

Does not own: the limit the tasks compare the token count with.
-/

namespace LiteRTLM.Executor

open LiteRTLM.Components
open LiteRTLM.Engine
open LiteRTLM.Library

variable {Scalar ConstraintState : Type}

/-! ## The attention mask -/

/-- The ranges of the flat mask that `FillAttentionMask` fills, from the start of a row of
`channelSize` entries on. For step `n` the first `n + 1` entries are filled. -/
def filledRanges (batchSize batchOffset channelSize startTimestep steps : Nat) :
    List (Nat × Nat) :=
  (List.range batchSize).flatMap fun b => (List.range steps).map fun i =>
    let currentStep := startTimestep + i
    let offset := b * batchOffset + i * channelSize
    (offset, offset + currentStep + 1)

/-- No range leaves its row when the last step is within the row. -/
theorem filledRanges_withinRow {batchSize batchOffset channelSize startTimestep steps : Nat}
    (fits : startTimestep + steps ≤ channelSize) :
    ∀ range ∈ filledRanges batchSize batchOffset channelSize startTimestep steps,
      range.2 ≤ range.1 + channelSize := by
  intro range member
  simp only [filledRanges, List.mem_flatMap, List.mem_map, List.mem_range] at member
  obtain ⟨b, -, i, inSteps, rfl⟩ := member
  show b * batchOffset + i * channelSize + (startTimestep + i) + 1 ≤ _
  omega

namespace Backend

/-- The backend that refuses to fill the mask beyond `channelSize` entries of a row. -/
def checkMask (channelSize : Nat) (backend : Backend Scalar) : Backend Scalar :=
  { backend with
    fillAttentionMask := fun startTimestep steps =>
      if startTimestep + steps ≤ channelSize then
        backend.fillAttentionMask startTimestep steps
      else
        .error (.outOfRangeError "The attention mask is filled beyond its row.") }

end Backend

/-- The environment whose backends refuse to fill the mask beyond `channelSize` entries. -/
def CallEnvironment.checkMask (channelSize : Nat) (environment : CallEnvironment Scalar) :
    CallEnvironment Scalar :=
  { environment with
    backend := environment.backend.checkMask channelSize
    workGroups := environment.workGroups.map fun group => (group.1, group.2.checkMask channelSize) }

namespace CompiledModelExecutor

variable {before after : CompiledModelExecutor Scalar}

def getCurrentStep (executor : CompiledModelExecutor Scalar) : Nat :=
  executor.processedTokens.tokenCount

/-- The number of pending tokens a prefill feeds with its ids. -/
theorem pendingLength {processed : ProcessedTokens Scalar}
    (atMostOne : processed.getPendingInputToken.length ≤ 1) :
    processed.getStep + processed.getPendingInputToken.length = processed.tokenCount := by
  unfold ProcessedTokens.tokenCount
  cases pending : processed.hasPendingInputToken with
  | false => simp [ProcessedTokens.getPendingInputToken_eq_nil.mpr pending]
  | true =>
      have nonempty : processed.getPendingInputToken ≠ [] := by
        simp [pending]
      have positive := List.length_pos_iff.mpr nonempty
      simp only [if_true]
      omega

/-! ## Prefill -/

theorem PrefillRan.tokenCount {front : List Int} {last : Int}
    (ran : PrefillRan before after front last) :
    after.getCurrentStep = before.getCurrentStep + front.length + 1 := by
  obtain ⟨token, pending, -⟩ := ran.firstPending
  unfold getCurrentStep
  rw [ProcessedTokens.tokenCount_eq, ProcessedTokens.tokenCount_eq,
    Tokens.allIds.eq_def after.processedTokens.first, ran.firstIds, pending]
  simp [Nat.add_assoc]

theorem PrefillStored.tokenCount {last : Int} (stored : PrefillStored before after last)
    (nonePending : before.processedTokens.hasPendingInputToken = false) :
    after.getCurrentStep = before.getCurrentStep + 1 := by
  simp only [getCurrentStep, ProcessedTokens.tokenCount, ProcessedTokens.getStep,
    ProcessedTokens.hasPendingInputToken, stored.first]
  rw [ProcessedTokens.hasPendingInputToken] at nonePending
  simp [nonePending]

/-- `PrefillInternal` counts all its ids. -/
theorem prefillInternal_tokenCount {backend : Backend Scalar} {ids : List Int}
    (succeeds : Succeeds (prefillInternal backend ids) before () after) :
    after.getCurrentStep = before.getCurrentStep + ids.length := by
  obtain ⟨last, split, ⟨nonePending, one, stored⟩ | ⟨-, ran⟩⟩ := prefillInternal_ok succeeds
  · rw [stored.tokenCount nonePending, one]
  · rw [ran.tokenCount, split]
    simp [Nat.add_assoc]

/-- A prefill run fills the mask up to the tokens processed once it is over. -/
theorem prefillRun_checkMask {backend : Backend Scalar} {front : List Int} {last : Int}
    {channelSize : Nat}
    (atMostOne : before.processedTokens.getPendingInputToken.length ≤ 1)
    (fits : before.getCurrentStep + front.length ≤ channelSize)
    (succeeds : Succeeds (prefillRun backend front last) before () after) :
    Succeeds (prefillRun (backend.checkMask channelSize) front last) before () after := by
  have filled : (backend.checkMask channelSize).fillAttentionMask
      before.processedTokens.getNextUnprocessedToken.step
      (front.length + before.processedTokens.getNextUnprocessedToken.token.length) =
      backend.fillAttentionMask before.processedTokens.getNextUnprocessedToken.step
        (front.length + before.processedTokens.getNextUnprocessedToken.token.length) := by
    have counted := pendingLength atMostOne
    unfold getCurrentStep at fits
    apply if_pos
    simp only [ProcessedTokens.getNextUnprocessedToken]
    omega
  simp only [prefillRun, succeeds_bind, succeeds_get, and_assoc, exists_and_left,
    exists_eq_left, filled] at succeeds ⊢
  exact succeeds

theorem prefillInternal_checkMask {backend : Backend Scalar} {ids : List Int} {channelSize : Nat}
    (fits : before.getCurrentStep + ids.length ≤ channelSize)
    (succeeds : Succeeds (prefillInternal backend ids) before () after) :
    Succeeds (prefillInternal (backend.checkMask channelSize) ids) before () after := by
  simp only [prefillInternal, succeeds_bind, succeeds_get, succeeds_onlyIf,
    succeeds_returnIfError, succeeds_retCheck, and_assoc, exists_and_left,
    exists_eq_left, exists_const] at succeeds ⊢
  obtain ⟨masked, masks, atMostOne, body⟩ := succeeds
  have maskKept : masked = before := by
    rcases masks with ⟨-, -, same⟩ | ⟨-, same⟩ <;> exact same
  subst maskKept
  refine ⟨masked, masks, atMostOne, ?_⟩
  cases lastId : ids.getLast? with
  | none => simp [lastId] at body
  | some last =>
      simp only [lastId, succeeds_ite] at body ⊢
      rcases body with stores | ⟨runs, succeeds⟩
      · exact .inl stores
      · refine .inr ⟨runs, prefillRun_checkMask atMostOne ?_ succeeds⟩
        rw [List.length_dropLast]
        omega

/-- The loop over the work groups counts all ids. -/
theorem prefillGroups_tokenCount {workGroups : List (Nat × Backend Scalar)} {ids : List Int}
    (succeeds : Succeeds (prefillGroups workGroups ids) before () after) :
    after.getCurrentStep = before.getCurrentStep + ids.length := by
  induction workGroups generalizing before ids with
  | nil =>
      simp only [prefillGroups, succeeds_retCheck] at succeeds
      rw [succeeds.1, succeeds.2, Nat.add_zero]
  | cons group rest hypothesis =>
      simp only [prefillGroups, succeeds_bind, succeeds_returnIfError, and_assoc,
        exists_and_left, exists_eq_left] at succeeds
      obtain ⟨_, -, _, between, first, others⟩ := succeeds
      rw [hypothesis others, prefillInternal_tokenCount first, Nat.add_assoc,
        ← List.length_append, List.take_append_drop]

theorem prefillGroups_checkMask {workGroups : List (Nat × Backend Scalar)} {ids : List Int}
    {channelSize : Nat} (fits : before.getCurrentStep + ids.length ≤ channelSize)
    (succeeds : Succeeds (prefillGroups workGroups ids) before () after) :
    Succeeds (prefillGroups
      (workGroups.map fun group => (group.1, group.2.checkMask channelSize)) ids)
      before () after := by
  induction workGroups generalizing before ids with
  | nil => exact succeeds
  | cons group rest hypothesis =>
      simp only [prefillGroups, List.map_cons, succeeds_bind, succeeds_returnIfError, and_assoc,
        exists_and_left, exists_eq_left] at succeeds ⊢
      obtain ⟨_, created, _, between, first, others⟩ := succeeds
      have split : ids.length = (ids.take group.1).length + (ids.drop group.1).length := by
        rw [← List.length_append, List.take_append_drop]
      refine ⟨(), created, (), between, prefillInternal_checkMask (by omega) first, ?_⟩
      apply hypothesis _ others
      rw [prefillInternal_tokenCount first]
      omega

/-- The switch from decode back to prefill keeps the token count. -/
theorem reduceToPrefill_tokenCount {backend : Backend Scalar}
    (succeeds : Succeeds (reduceToPrefill backend) before () after) :
    after.getCurrentStep = before.getCurrentStep := by
  obtain ⟨processedTokens, rfl, first, -⟩ := reduceToPrefill_ok succeeds
  unfold getCurrentStep
  rw [ProcessedTokens.tokenCount_eq, ProcessedTokens.tokenCount_eq, first]

/-- The number of ids of the candidate that is prefilled. -/
def prefillLength (inputBatchSize : Nat) (tokenIds : List Int) : Nat :=
  tokenIds.length / inputBatchSize

theorem prefill_tokenCount {backend : Backend Scalar} {inputBatchSize : Nat}
    {tokenIds : List Int} {workGroups : List (Nat × Backend Scalar)}
    (succeeds : Succeeds (prefill backend inputBatchSize tokenIds workGroups) before () after) :
    after.getCurrentStep = before.getCurrentStep + prefillLength inputBatchSize tokenIds := by
  simp only [prefill, succeeds_bind, succeeds_get, succeeds_retCheck, succeeds_returnIfError,
    and_assoc, exists_and_left, exists_eq_left, exists_const] at succeeds
  obtain ⟨_, reduced, reduces, -, -, _, -, _, _, groups, -, rfl⟩ := succeeds
  rw [prefillGroups_tokenCount groups, reduceToPrefill_tokenCount reduces, List.length_take,
    Nat.min_eq_left (Nat.div_le_self _ _), prefillLength]

theorem prefill_checkMask {environment : CallEnvironment Scalar} {inputBatchSize : Nat}
    {tokenIds : List Int} {channelSize : Nat}
    (fits : before.getCurrentStep + prefillLength inputBatchSize tokenIds ≤ channelSize)
    (succeeds : Succeeds
      (prefill environment.backend inputBatchSize tokenIds environment.workGroups)
      before () after) :
    Succeeds (prefill (environment.checkMask channelSize).backend inputBatchSize tokenIds
      (environment.checkMask channelSize).workGroups) before () after := by
  simp only [prefill, succeeds_bind, succeeds_get, succeeds_retCheck, succeeds_returnIfError,
    and_assoc, exists_and_left, exists_eq_left, exists_const] at succeeds ⊢
  obtain ⟨_, reduced, reduces, batch, nonempty, _, updates, _, _, groups, cleans, rfl⟩ := succeeds
  refine ⟨(), reduced, reduces, batch, nonempty, (), updates, (), after, ?_, cleans, rfl⟩
  apply prefillGroups_checkMask _ groups
  rw [reduceToPrefill_tokenCount reduces, List.length_take, Nat.min_eq_left (Nat.div_le_self _ _)]
  exact fits

/-! ## Decode -/

theorem prepareFirstDecode_first {backend : Backend Scalar}
    (succeeds : Succeeds (prepareFirstDecode backend) before () after) :
    after.processedTokens.first = before.processedTokens.first := by
  obtain ⟨processedTokens, rfl, first, -⟩ := prepareFirstDecode_ok succeeds
  exact first

/-- Without ids from the caller the pending tokens are only given their embeddings. -/
theorem getTokenToDecode_none_ok {backend : Backend Scalar}
    {next : ProcessedTokens.StepAndToken Scalar}
    (succeeds : Succeeds (getTokenToDecode backend none) before next after) :
    after.processedTokens.hasPendingInputToken = before.processedTokens.hasPendingInputToken ∧
      next = after.processedTokens.getNextUnprocessedToken := by
  simp only [getTokenToDecode, addInputToken, succeeds_bind, succeeds_get, succeeds_modify,
    succeeds_pure, succeeds_returnIfError, and_assoc, exists_and_left, exists_eq_left,
    exists_const] at succeeds
  obtain ⟨-, _, -, rfl, rfl⟩ := succeeds
  refine ⟨?_, rfl⟩
  simp [ProcessedTokens.hasPendingInputToken, ProcessedTokens.mapPendingInputToken]

/-- A decode without ids from the caller feeds the pending token. -/
theorem decodeLogits_none_pending {backend : Backend Scalar}
    (succeeds : Succeeds (decodeLogits backend none) before () after) :
    before.processedTokens.hasPendingInputToken = true := by
  simp only [decodeLogits, succeeds_bind, succeeds_modify, succeeds_returnIfError] at succeeds
  obtain ⟨_, prepared, prepares, next, looked, looks, _, ran, runs, -⟩ := succeeds
  obtain ⟨pending, rfl⟩ := getTokenToDecode_none_ok looks
  have hasToken := (decodeInternal_ok runs).1
  have lookedPending : looked.processedTokens.hasPendingInputToken = true := by
    simpa [ProcessedTokens.getNextUnprocessedToken] using hasToken
  rw [ProcessedTokens.hasPendingInputToken, ← prepareFirstDecode_first prepares]
  exact pending.symm.trans lookedPending

theorem addPendingInputToken_pending {processed added : ProcessedTokens Scalar}
    {token : List (TokenData Scalar)} (adds : processed.addPendingInputToken token = .ok added) :
    added.hasPendingInputToken = true := by
  have sized : token.length = processed.tokens.length := by
    unfold ProcessedTokens.addPendingInputToken at adds
    split at adds
    · cases adds
    · rename_i sized
      exact not_not.mp sized
  have positive := List.length_pos_iff.mpr processed.nonempty
  obtain ⟨-, -, first⟩ := ProcessedTokens.addPendingInputToken_ok adds
  rw [ProcessedTokens.hasPendingInputToken, first]
  cases token with
  | nil => simp only [List.length_nil] at sized; omega
  | cons token rest => rfl

/-- A decode with sampling feeds one token and keeps one pending. -/
theorem decodeWithParams_tokenCount [Bot Scalar] {environment : CallEnvironment Scalar}
    {constraintDecoder : Option (ConstrainedDecoder ConstraintState)}
    {outcome : List Int × Option (ConstrainedDecoder ConstraintState) × Logits Scalar}
    (succeeds : Succeeds (decodeWithParams environment constraintDecoder) before outcome after) :
    before.getCurrentStep = before.processedTokens.getStep + 1 ∧
      after.getCurrentStep = before.getCurrentStep + 1 := by
  have decodes := decodeWithParams_decode succeeds
  simp only [decode, succeeds_bind, succeeds_get, succeeds_returnIfError, succeeds_retCheck,
    succeeds_updateProcessedTokens, and_assoc, exists_and_left, exists_eq_left,
    exists_const] at decodes
  obtain ⟨_, ran, logits, _, -, -, processed, adds, rfl⟩ := decodes
  have pending := decodeLogits_none_pending logits
  have step := (decodeLogits_ok logits).step
  have counted : before.getCurrentStep = before.processedTokens.getStep + 1 := by
    simp [getCurrentStep, ProcessedTokens.tokenCount, pending]
  refine ⟨counted, ?_⟩
  obtain ⟨-, -, first⟩ := ProcessedTokens.addPendingInputToken_ok adds
  have sameStep : processed.getStep = ran.processedTokens.getStep := by
    simp [ProcessedTokens.getStep, first]
  show processed.tokenCount = before.getCurrentStep + 1
  rw [ProcessedTokens.tokenCount, addPendingInputToken_pending adds, if_pos rfl, sameStep, step,
    counted]

/-- A decode without sampling leaves the tokens it processed, and none pending. -/
theorem DecodeRan.tokenCount (ran : DecodeRan before after) :
    after.getCurrentStep = before.processedTokens.getStep + 1 ∧
      after.getCurrentStep = after.processedTokens.getStep := by
  have counted : after.getCurrentStep = after.processedTokens.getStep := by
    simp [getCurrentStep, ProcessedTokens.tokenCount, ran.nonePending]
  exact ⟨counted.trans ran.step, counted⟩

theorem decodeInternal_checkMask {backend : Backend Scalar} {step channelSize : Nat}
    {token : List (TokenData Scalar)} (fits : step + 1 ≤ channelSize)
    (succeeds : Succeeds (decodeInternal backend step token) before () after) :
    Succeeds (decodeInternal (backend.checkMask channelSize) step token) before () after := by
  have filled : (backend.checkMask channelSize).fillAttentionMask step 1 =
      backend.fillAttentionMask step 1 := if_pos fits
  simp only [decodeInternal, filled] at succeeds ⊢
  exact succeeds

/-- A decode fills the mask up to the token it feeds. -/
theorem decodeLogitsWithParams_checkMask [Bot Scalar] {environment : CallEnvironment Scalar}
    {inputs : Option (List Int)} {channelSize : Nat}
    {constraintDecoder : Option (ConstrainedDecoder ConstraintState)}
    {constrained : Option (ConstrainedDecoder ConstraintState) × Logits Scalar}
    (fits : before.processedTokens.getStep + 1 ≤ channelSize)
    (succeeds : Succeeds (decodeLogitsWithParams environment inputs constraintDecoder)
      before constrained after) :
    Succeeds (decodeLogitsWithParams (environment.checkMask channelSize) inputs constraintDecoder)
      before constrained after := by
  simp only [decodeLogitsWithParams, succeeds_bind, succeeds_get, and_assoc, exists_and_left,
    exists_eq_left] at succeeds ⊢
  obtain ⟨_, prepared, prepares, next, looked, looks, _, ran, runs, rest⟩ := succeeds
  have step : next.step = before.processedTokens.getStep := by
    obtain ⟨_, rfl, preparedFirst, -⟩ := prepareFirstDecode_ok prepares
    obtain ⟨lookedTokens, rfl, lookedStep, -, rfl⟩ := getTokenToDecode_ok looks
    show lookedTokens.getStep = _
    rw [lookedStep, ProcessedTokens.getStep, preparedFirst]
    rfl
  refine ⟨(), prepared, prepares, next, looked, looks, (), ran, ?_, rest⟩
  exact decodeInternal_checkMask (by rw [step]; exact fits) runs

theorem decodeWithParams_checkMask [Bot Scalar] {environment : CallEnvironment Scalar}
    {channelSize : Nat} {constraintDecoder : Option (ConstrainedDecoder ConstraintState)}
    {outcome : List Int × Option (ConstrainedDecoder ConstraintState) × Logits Scalar}
    (fits : before.processedTokens.getStep + 1 ≤ channelSize)
    (succeeds : Succeeds (decodeWithParams environment constraintDecoder) before outcome after) :
    Succeeds (decodeWithParams (environment.checkMask channelSize) constraintDecoder)
      before outcome after := by
  unfold decodeWithParams at succeeds ⊢
  rw [succeeds_bind] at succeeds ⊢
  obtain ⟨constrained, decoded, decodes, rest⟩ := succeeds
  exact ⟨constrained, decoded, decodeLogitsWithParams_checkMask fits decodes, rest⟩

end CompiledModelExecutor

end LiteRTLM.Executor
