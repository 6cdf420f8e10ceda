import Mathlib
import LiteRTLM.Executor.ConstrainedDecode
import LiteRTLM.Library.Frames

/-!
Contract: how far the parts of a call can raise the number of processed tokens, also when
they fail.

Owns: for each part of a prefill, a decode and a reset, what it keeps of the batch sizes
and the step, however it ends.

Does not own: the exact effect of calls that succeed, and the KV cache.
-/

namespace LiteRTLM.Executor.CompiledModelExecutor

open LiteRTLM.Engine
open LiteRTLM.Library

variable {Scalar Kept : Type} {before : CompiledModelExecutor Scalar}
  {read : CompiledModelExecutor Scalar → Kept}

/-- The number of processed tokens. -/
def processedCount (executor : CompiledModelExecutor Scalar) : Nat :=
  executor.processedTokens.getStep

/-- The number of candidates a decode expects, and that of the history. -/
def batchSizes (executor : CompiledModelExecutor Scalar) : Nat × Nat :=
  (executor.outputBatchSize, executor.processedTokens.tokens.length)

/-- The batch sizes and the number of processed tokens. -/
def batchSizesAndStep (executor : CompiledModelExecutor Scalar) : (Nat × Nat) × Nat :=
  (executor.batchSizes, executor.processedCount)

/-! ## Elementary steps -/

theorem keeps_returnIfError {α : Type} (status : StatusOr α) :
    Keeps read (returnIfError status) before := by
  cases status <;> rfl

theorem keeps_retCheck (condition : Prop) [Decidable condition] (text : String) :
    Keeps read (retCheck condition text) before :=
  Keeps.ite (fun _ => keeps_pure ()) (fun _ => keeps_throw _)

theorem keeps_onlyIf (condition : Prop) [Decidable condition] {program : ExecutorM Scalar Unit}
    (keeps : condition → Keeps read program before) :
    Keeps read (onlyIf condition program) before :=
  Keeps.ite keeps (fun _ => keeps_pure ())

theorem finalState_updateProcessedTokens
    (operation : ProcessedTokens Scalar → StatusOr (ProcessedTokens Scalar)) :
    finalState (updateProcessedTokens operation) before =
      match operation before.processedTokens with
      | .ok processedTokens => { before with processedTokens }
      | .error _ => before := by
  rw [updateProcessedTokens, finalState_get_bind]
  cases operation before.processedTokens <;> rfl

theorem keeps_updateProcessedTokens
    {operation : ProcessedTokens Scalar → StatusOr (ProcessedTokens Scalar)}
    (same : ∀ processedTokens, operation before.processedTokens = .ok processedTokens →
      read { before with processedTokens } = read before) :
    Keeps read (updateProcessedTokens operation) before := by
  unfold Keeps
  rw [finalState_updateProcessedTokens]
  cases outcome : operation before.processedTokens with
  | ok processedTokens => exact same processedTokens outcome
  | error status => rfl

/-- Storing a pending token keeps the batch sizes and the step. -/
theorem keeps_addPendingInputToken (token : List (TokenData Scalar)) :
    Keeps batchSizesAndStep
      (updateProcessedTokens fun processed => processed.addPendingInputToken token) before := by
  apply keeps_updateProcessedTokens
  intro processedTokens added
  obtain ⟨-, candidates, first⟩ := ProcessedTokens.addPendingInputToken_ok added
  simp only [batchSizesAndStep, batchSizes, processedCount, ProcessedTokens.getStep, candidates,
    first]

theorem keeps_fillInputBufferWithToken (backend : Backend Scalar)
    (token : List (TokenData Scalar)) :
    Keeps read (fillInputBufferWithToken backend token) before :=
  Keeps.ite (fun _ => keeps_throw _) (fun _ => keeps_returnIfError _)

theorem keeps_compiledModelRun (backend : Backend Scalar) (rows : List (InputRow Scalar)) :
    Keeps batchSizesAndStep (compiledModelRun backend rows) before :=
  (keeps_returnIfError backend.compiledModelRun).bind fun _ _ => rfl

/-- The step is kept where it is kept together with the batch sizes. -/
theorem keeps_step {α : Type} {program : ExecutorM Scalar α}
    (keeps : Keeps batchSizesAndStep program before) : Keeps processedCount program before :=
  congrArg Prod.snd keeps

theorem keeps_batchSizes {α : Type} {program : ExecutorM Scalar α}
    (keeps : Keeps batchSizesAndStep program before) : Keeps batchSizes program before :=
  congrArg Prod.fst keeps

/-! ## Prefill -/

theorem keeps_lookupPrefillSpan (backend : Backend Scalar) (signatures : ModelSignatures)
    (ids : List Int) : Keeps read (lookupPrefillSpan backend signatures ids) before := by
  apply Keeps.ite (fun _ => keeps_pure _)
  intro _
  apply (keeps_returnIfError _).bind
  intro embeddings between
  apply Keeps.ite
  · intro _
    exact (keeps_returnIfError _).bind fun _ _ => keeps_pure _
  · intro _
    exact keeps_pure _

theorem keeps_lastInputToken (backend : Backend Scalar) (signatures : ModelSignatures)
    (id : Int) : Keeps read (lastInputToken backend signatures id) before := by
  apply Keeps.ite (fun _ => keeps_pure _)
  intro _
  apply (keeps_returnIfError _).bind
  intro embedding between
  apply Keeps.ite
  · intro _
    exact (keeps_returnIfError _).bind fun _ _ => keeps_pure _
  · intro _
    exact keeps_pure _

theorem markPending_step {processed after : ProcessedTokens Scalar}
    (marked : processed.markPendingInputTokenAsProcessed = .ok after) :
    after.getStep = processed.getStep + 1 := by
  obtain ⟨pending, -, first⟩ := ProcessedTokens.markPendingInputTokenAsProcessed_ok marked
  rw [ProcessedTokens.getStep, first, ← ProcessedTokens.tokenCount_eq,
    ProcessedTokens.tokenCount, if_pos pending]

/-- The pending token counts as one more processed token. -/
theorem raises_markPending :
    RaisesAtMost processedCount 1
      (updateProcessedTokens ProcessedTokens.markPendingInputTokenAsProcessed :
        ExecutorM Scalar Unit) before := by
  unfold RaisesAtMost
  rw [finalState_updateProcessedTokens]
  cases marked : before.processedTokens.markPendingInputTokenAsProcessed with
  | ok processedTokens => exact Nat.le_of_eq (markPending_step marked)
  | error status => exact Nat.le_add_right _ _

theorem raises_addProcessedTokens (ids : List Int) :
    RaisesAtMost processedCount ids.length
      (modify fun executor => { executor with
        currentStep := executor.currentStep + ids.length
        processedTokens := executor.processedTokens.addProcessedTokens ids } :
          ExecutorM Scalar Unit) before := by
  unfold RaisesAtMost
  rw [finalState_modify]
  simp [processedCount, ProcessedTokens.getStep, ProcessedTokens.addProcessedTokens]

/-- A prefill run processes at most the pending token and all ids but the last. -/
theorem raises_prefillRun (backend : Backend Scalar) (front : List Int) (last : Int) :
    RaisesAtMost processedCount
      ((if before.processedTokens.getPendingInputToken = [] then 0 else 1) + front.length)
      (prefillRun backend front last) before := by
  unfold prefillRun
  apply RaisesAtMost.get_bind
  apply RaisesAtMost.get_bind
  apply RaisesAtMost.bind
  · -- the pending token, if there is one
    show RaisesAtMost processedCount _
      (onlyIf (before.processedTokens.getPendingInputToken ≠ []) _) before
    by_cases pending : before.processedTokens.getPendingInputToken = []
    · rw [if_pos pending, onlyIf, if_neg (fun isPending => isPending pending)]
      exact (keeps_pure ()).raisesAtMost 0
    · rw [if_neg pending, onlyIf, if_pos pending]
      have filled : RaisesAtMost processedCount 0 (fillInputBufferWithToken backend
          before.processedTokens.getPendingInputToken) before :=
        (keeps_fillInputBufferWithToken _ _).raisesAtMost 0
      exact (filled.bind fun _ _ => raises_markPending).mono (Nat.le_of_eq (Nat.zero_add 1))
  · intro _ between
    apply RaisesAtMost.get_bind
    have rest : ∀ marked, Keeps processedCount (do
        let fedTokens ← lookupPrefillSpan backend before.signatures front
        onlyIf before.signatures.inputAttnMask (returnIfError (backend.fillAttentionMask
          before.processedTokens.getNextUnprocessedToken.step
          (front.length + before.processedTokens.getNextUnprocessedToken.token.length)))
        let lastToken ← lastInputToken backend before.signatures last
        updateProcessedTokens fun processed => processed.addPendingInputToken [lastToken]
        modify fun executor => { executor with currentStep := executor.currentStep + 1 }
        compiledModelRun backend
          ((before.processedTokens.getNextUnprocessedToken.token.map fun token =>
              InputRow.mk before.processedTokens.getNextUnprocessedToken.step
                [fedToken before.signatures token]) ++
            fedTokens.mapIdx fun index token =>
              InputRow.mk (between.currentStep + index) [token])) marked := by
      intro marked
      apply (keeps_lookupPrefillSpan _ _ _).bind
      intro fedTokens looked
      apply (keeps_onlyIf _ fun _ => keeps_returnIfError _).bind
      intro _ filled
      apply (keeps_lastInputToken _ _ _).bind
      intro lastToken lookedLast
      apply (keeps_step (keeps_addPendingInputToken _)).bind
      intro _ added
      exact Keeps.bind rfl fun _ _ => keeps_step (keeps_compiledModelRun _ _)
    exact ((raises_addProcessedTokens front).bind fun _ marked =>
      (rest marked).raisesAtMost 0).mono (Nat.le_of_eq (Nat.add_zero _))

theorem keeps_prefillRun (backend : Backend Scalar) (front : List Int) (last : Int) :
    Keeps batchSizes (prefillRun backend front last) before := by
  apply Keeps.get_bind
  apply Keeps.get_bind
  apply Keeps.bind
  · apply keeps_onlyIf
    intro _
    apply (keeps_fillInputBufferWithToken _ _).bind
    intro _ filled
    apply keeps_updateProcessedTokens
    intro processedTokens marked
    exact congrArg (Prod.mk filled.outputBatchSize)
      (ProcessedTokens.markPendingInputTokenAsProcessed_ok marked).2.1
  · intro _ between
    apply Keeps.get_bind
    apply Keeps.bind
    · exact congrArg (Prod.mk between.outputBatchSize) (List.length_map ..)
    intro _ counted
    apply (keeps_lookupPrefillSpan _ _ _).bind
    intro fedTokens looked
    apply (keeps_onlyIf _ fun _ => keeps_returnIfError _).bind
    intro _ filled
    apply (keeps_lastInputToken _ _ _).bind
    intro lastToken lookedLast
    apply (keeps_batchSizes (keeps_addPendingInputToken _)).bind
    intro _ added
    exact Keeps.bind rfl fun _ _ => keeps_batchSizes (keeps_compiledModelRun _ _)

/-- `PrefillInternal` however it ends: as many tokens as `Prefill` counts on. -/
theorem raises_prefillInternal (backend : Backend Scalar) (ids : List Int) :
    RaisesAtMost processedCount
      (if before.processedTokens.getPendingInputToken = [] then ids.length - 1 else ids.length)
      (prefillInternal backend ids) before := by
  apply RaisesAtMost.get_bind
  apply RaisesAtMost.bind_of_keeps (keeps_onlyIf _ fun _ => keeps_returnIfError _)
  intro _
  apply RaisesAtMost.get_bind
  apply RaisesAtMost.bind_of_keeps (keeps_retCheck _ _)
  intro _
  cases found : ids.getLast? with
  | none => exact (keeps_throw _).raisesAtMost _
  | some last =>
      have nonempty : 0 < ids.length := by
        rw [List.length_pos_iff]
        intro empty
        rw [empty] at found
        exact absurd found (by simp)
      have dropped : ids.dropLast.length = ids.length - 1 := List.length_dropLast
      apply RaisesAtMost.ite
      · intro _
        exact (keeps_step (keeps_addPendingInputToken _)).raisesAtMost _
      · intro _
        apply (raises_prefillRun backend ids.dropLast last).mono
        by_cases pending : before.processedTokens.getPendingInputToken = []
        · rw [if_pos pending, if_pos pending, dropped, Nat.zero_add]
        · rw [if_neg pending, if_neg pending, dropped]
          omega

theorem keeps_prefillInternal (backend : Backend Scalar) (ids : List Int) :
    Keeps batchSizes (prefillInternal backend ids) before := by
  apply Keeps.get_bind
  apply (keeps_onlyIf _ fun _ => keeps_returnIfError _).bind
  intro _ filled
  apply Keeps.get_bind
  apply (keeps_retCheck _ _).bind
  intro _ checked
  cases ids.getLast? with
  | none => exact keeps_throw _
  | some last =>
      apply Keeps.ite
      · intro _
        exact keeps_batchSizes (keeps_addPendingInputToken _)
      · intro _
        exact keeps_prefillRun _ _ _

/-! ## Decode -/

/-- Without batches the first decode changes nothing but the flag. -/
theorem keeps_prepareFirstDecode (backend : Backend Scalar) (single : before.outputBatchSize = 1) :
    Keeps batchSizesAndStep (prepareFirstDecode backend) before := by
  unfold Keeps
  rw [prepareFirstDecode, finalState_get_bind]
  by_cases ranDecode : before.ranDecode = true
  · rw [onlyIf, if_neg (by simp [ranDecode])]
    rfl
  · rw [onlyIf, if_pos ranDecode, finalState_modify_bind, finalState_get_bind, onlyIf,
      if_neg (by simp [single])]
    rfl

theorem invalidate_step (processed : ProcessedTokens Scalar) :
    processed.invalidatePendingInputToken.getStep = processed.getStep := by
  rw [ProcessedTokens.getStep, ProcessedTokens.invalidatePendingInputToken,
    ProcessedTokens.first_mapTokens, ProcessedTokens.getStep]

theorem invalidate_candidates (processed : ProcessedTokens Scalar) :
    processed.invalidatePendingInputToken.tokens.length = processed.tokens.length :=
  List.length_map ..

theorem keeps_addInputToken (inputs : Option (List Int)) :
    Keeps batchSizesAndStep (addInputToken inputs) before := by
  apply Keeps.get_bind
  cases inputs with
  | none => exact keeps_pure ()
  | some ids =>
      cases ids with
      | nil => exact keeps_pure ()
      | cons first rest =>
          apply (keeps_retCheck _ _).bind
          intro _ checked
          apply keeps_onlyIf
          intro _
          apply Keeps.bind
          · unfold Keeps
            rw [finalState_modify]
            simp [batchSizesAndStep, batchSizes, processedCount, invalidate_step,
              invalidate_candidates]
          · intro _ between
            exact keeps_addPendingInputToken _

/-- `GetTokenToDecode` gives the number of processed tokens as the step, and as many tokens
as there are candidates at most. -/
theorem getTokenToDecode_ends (backend : Backend Scalar) (inputs : Option (List Int)) :
    Ends (getTokenToDecode backend inputs) before
      (fun next after => after.batchSizesAndStep = before.batchSizesAndStep ∧
        next.step = before.processedCount ∧
        next.token.length ≤ before.processedTokens.tokens.length)
      (fun _ after => after.batchSizesAndStep = before.batchSizesAndStep) := by
  rw [getTokenToDecode, ends_bind]
  apply (keeps_addInputToken inputs).ends.mono
  · intro _ added same
    have candidates : added.processedTokens.tokens.length =
        before.processedTokens.tokens.length := congrArg (fun sizes => sizes.1.2) same
    have step : added.processedCount = before.processedCount := congrArg Prod.snd same
    rw [ends_bind, ends_get, ends_bind, ends_get, ends_bind]
    have lookup : Keeps id (returnIfError (added.processedTokens.getNextUnprocessedToken.token.mapM
        (lookupDecode backend added.signatures))) added := keeps_returnIfError _
    apply lookup.ends.mono
    · intro _ looked unchanged
      rw [show looked = added from unchanged, ends_bind, ends_modify, ends_bind, ends_get,
        ends_pure]
      have sameSizes : (added.processedTokens.mapPendingInputToken
          (withEmbedding backend added.signatures)).tokens.length =
            added.processedTokens.tokens.length := List.length_map ..
      have sameStep : (added.processedTokens.mapPendingInputToken
          (withEmbedding backend added.signatures)).getStep = added.processedTokens.getStep := by
        rw [ProcessedTokens.getStep, ProcessedTokens.mapPendingInputToken,
          ProcessedTokens.first_mapTokens, ProcessedTokens.getStep]
      have few := List.length_filterMap_le Tokens.pendingInputToken
        (added.processedTokens.mapPendingInputToken
          (withEmbedding backend added.signatures)).tokens
      refine ⟨?_, sameStep.trans step, ?_⟩
      · rw [← same]
        simp only [batchSizesAndStep, batchSizes, processedCount, sameSizes, sameStep]
      · exact Nat.le_trans few (Nat.le_of_eq (sameSizes.trans candidates))
    · intro _ looked unchanged
      rw [show looked = added from unchanged]
      exact same
  · intro _ _ same
    exact same

/-- The base `DecodeInternal` only runs the model. -/
theorem keeps_decodeInternal (backend : Backend Scalar) (step : Nat)
    (token : List (TokenData Scalar)) :
    Keeps batchSizesAndStep (decodeInternal backend step token) before := by
  apply Keeps.get_bind
  apply (keeps_onlyIf _ fun _ => keeps_throw _).bind
  intro _ checked
  apply (keeps_fillInputBufferWithToken _ _).bind
  intro _ filled
  apply Keeps.get_bind
  apply (keeps_retCheck _ _).bind
  intro _ positioned
  apply Keeps.bind
  · apply keeps_onlyIf
    intro _
    exact (keeps_returnIfError _).bind fun _ _ => keeps_returnIfError _
  · intro _ masked
    exact keeps_compiledModelRun _ _

/-- The token fed by a decode is counted once. -/
theorem raises_consumePendingOrAddProcessedToken {token : List (TokenData Scalar)}
    (single : token.length ≤ 1) :
    RaisesAtMost processedCount 1 (consumePendingOrAddProcessedToken token) before := by
  apply RaisesAtMost.get_bind
  cases marked : before.processedTokens.markPendingInputTokenAsProcessed with
  | ok processedTokens => exact Nat.le_of_eq (markPending_step marked)
  | error status =>
      apply RaisesAtMost.bind_of_keeps (keeps_onlyIf _ fun _ => keeps_throw _)
      intro _
      unfold RaisesAtMost
      rw [finalState_modify]
      simpa [processedCount, ProcessedTokens.getStep, ProcessedTokens.addProcessedTokens]
        using single

theorem keeps_consumePendingOrAddProcessedToken (token : List (TokenData Scalar)) :
    Keeps batchSizes (consumePendingOrAddProcessedToken token) before := by
  apply Keeps.get_bind
  cases marked : before.processedTokens.markPendingInputTokenAsProcessed with
  | ok processedTokens =>
      exact congrArg (Prod.mk before.outputBatchSize)
        (ProcessedTokens.markPendingInputTokenAsProcessed_ok marked).2.1
  | error status =>
      apply (keeps_onlyIf _ fun _ => keeps_throw _).bind
      intro _ between
      exact congrArg (Prod.mk between.outputBatchSize) (List.length_map ..)

/-! ## Reset -/

theorem rollBackToStep_zero_isOk (processed : ProcessedTokens Scalar) :
    ∃ after, processed.rollBackToStep 0 = .ok after := by
  rw [ProcessedTokens.rollBackToStep, if_neg (Int.lt_irrefl 0),
    if_neg (not_lt.mpr (Int.natCast_nonneg processed.tokenCount))]
  by_cases empty : (0 : Int) = processed.tokenCount
  · exact ⟨_, if_pos empty⟩
  · exact ⟨_, if_neg empty⟩

/-- A reset succeeds and leaves no processed tokens. -/
theorem reset_ends :
    (finalState reset before).processedCount = 0 ∧
      (finalState reset before).batchSizes = before.batchSizes := by
  obtain ⟨processedTokens, rolled⟩ := rollBackToStep_zero_isOk before.processedTokens
  have known := ProcessedTokens.rollBackToStep_zero_ok rolled
  have final : finalState reset before =
      { before with currentStep := 0, processedTokens, modelRuns := [] } := by
    have succeeds : Succeeds reset before ()
        { before with currentStep := 0, processedTokens, modelRuns := [] } := by
      simp [reset, rolled]
    rw [finalState, show reset before = _ from succeeds]
  rw [final]
  exact ⟨known.2, congrArg (Prod.mk before.outputBatchSize) known.1⟩

end LiteRTLM.Executor.CompiledModelExecutor
