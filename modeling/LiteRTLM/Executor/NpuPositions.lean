import LiteRTLM.Executor.NpuExecutor
import LiteRTLM.Library.Outcome

/-!
Contract: the positions the NPU executor gives to the tokens it feeds.

Owns: when the buffers of a run hold the tokens of the history at their indices,
the invariant that ties the internal step to the token count, and the invariant
over all runs of successful calls.

Does not own: the splitting of a prefill into work groups. Any splitting into
nonempty groups of at most the signature length is allowed.
-/

namespace LiteRTLM.Executor

open LiteRTLM.Engine
open LiteRTLM.Library

variable {Scalar : Type}

/-! ## Exact runs -/

/-- What a prefill run feeds: the pending token and all ids but the last. -/
def NpuPrefillRun.fed (run : NpuPrefillRun Scalar) : List Int :=
  run.pending.toList ++ run.ids.dropLast

/-- The buffers of a prefill run with `rows` rows hold the fed tokens from row 0,
at their indices in the history; the time step is the first of these. -/
structure NpuPrefillRun.Exact (run : NpuPrefillRun Scalar) (rows : Nat) : Prop where
  inside : run.fed.length ≤ rows
  tokens : run.buffers.inputTokens = run.fed ++ List.replicate (rows - run.fed.length) 0
  positions : run.buffers.inputPosition =
    List.range' run.buffers.timeStep run.fed.length ++ List.replicate (rows - run.fed.length) 0
  indices : ∀ index (inBounds : index < run.fed.length),
    run.history.map (fun ids => ids[run.buffers.timeStep + index]?) =
      [some run.fed[index]]

/-- A decode run feeds the last token of the history at its index. -/
structure NpuDecodeRun.Exact (run : NpuDecodeRun Scalar) : Prop where
  token : run.history.map List.getLast? = [some run.inputToken]
  position : run.history.map List.length = [run.inputPosition + 1]
  timeStep : run.timeStep = run.inputPosition

namespace PrefillInputBuffers

/-- The buffers that hold these ids at consecutive positions. -/
def holding (rows : Nat) (ids : List Int) (first timeStep : Nat) : PrefillInputBuffers where
  inputTokens := ids ++ List.replicate (rows - ids.length) 0
  inputPosition := List.range' first ids.length ++ List.replicate (rows - ids.length) 0
  timeStep := timeStep

theorem cleared_eq_holding (rows first : Nat) : cleared rows = holding rows [] first 0 := by
  simp [cleared, holding]

/-- Writing right behind a list of a padded buffer. -/
theorem set_behind {Value : Type} (written : List Value) (room : Nat) (fill value : Value) :
    (written ++ List.replicate (room + 1) fill).set written.length value =
      written ++ [value] ++ List.replicate room fill := by
  rw [List.set_append_right _ _ (Nat.le_refl _), Nat.sub_self, List.replicate_succ,
    List.set_cons_zero, List.append_assoc, List.singleton_append]

/-- The next row is written at the next position. -/
theorem writeRow_holding {rows : Nat} {ids : List Int} {first timeStep : Nat}
    (inside : ids.length < rows) (id : Int) :
    (holding rows ids first timeStep).writeRow ids.length id (first + ids.length) =
      .ok (holding rows (ids ++ [id]) first timeStep) := by
  obtain ⟨room, rfl⟩ := Nat.exists_eq_add_of_lt inside
  have left : ids.length + room + 1 - ids.length = room + 1 := by omega
  have leftAfter : ids.length + room + 1 - (ids.length + 1) = room := by omega
  have bound : ids.length < (holding (ids.length + room + 1) ids first timeStep).inputTokens.length ∧
      ids.length <
        (holding (ids.length + room + 1) ids first timeStep).inputPosition.length := by
    simp only [holding, List.length_append, List.length_replicate, List.length_range', left]
    omega
  rw [writeRow, if_pos bound]
  have tokens := set_behind ids room 0 id
  have positions := set_behind (List.range' first ids.length) room 0 (first + ids.length)
  rw [List.length_range'] at positions
  simp only [holding, left, List.length_append, List.length_singleton, leftAfter, tokens,
    positions, List.range'_1_concat]

end PrefillInputBuffers

namespace NpuExecutor

open PrefillInputBuffers

/-! ## Calls that do not end the process -/

/-- A call fails with a status. -/
def WithStatus (failure : Failure) (_ : NpuExecutor Scalar) : Prop :=
  ∃ status, failure = .status status

section Rules

variable {α : Type} {before : NpuExecutor Scalar}

@[simp]
theorem ends_orFail_ok {value : α} {returned : α → NpuExecutor Scalar → Prop}
    {failed : Failure → NpuExecutor Scalar → Prop} :
    Ends (orFail (.ok value)) before returned failed ↔ returned value before :=
  Iff.rfl

@[simp]
theorem ends_returnIfError (result : StatusOr α) {returned : α → NpuExecutor Scalar → Prop} :
    Ends (returnIfError result) before returned WithStatus ↔
      ∀ value, result = .ok value → returned value before := by
  cases result with
  | ok value => simp [returnIfError, StatusOr.orReturn]
  | error status =>
      simp only [reduceCtorEq, false_imp_iff, implies_true, iff_true]
      exact ⟨status, rfl⟩

@[simp]
theorem ends_retCheck (condition : Prop) [Decidable condition] (text : String)
    {returned : Unit → NpuExecutor Scalar → Prop} :
    Ends (retCheck condition text) before returned WithStatus ↔
      (condition → returned () before) := by
  rw [retCheck, ends_ite]
  simp [WithStatus]

@[simp]
theorem ends_onlyIf (condition : Prop) [Decidable condition] (program : NpuM Scalar Unit)
    {returned : Unit → NpuExecutor Scalar → Prop}
    {failed : Failure → NpuExecutor Scalar → Prop} :
    Ends (onlyIf condition program) before returned failed ↔
      (condition → Ends program before returned failed) ∧ (¬condition → returned () before) := by
  rw [onlyIf, ends_ite, ends_pure]

@[simp]
theorem ends_updateProcessedTokens
    (operation : ProcessedTokens Scalar → StatusOr (ProcessedTokens Scalar))
    {returned : Unit → NpuExecutor Scalar → Prop} :
    Ends (updateProcessedTokens operation) before returned WithStatus ↔
      ∀ processedTokens, operation before.processedTokens = .ok processedTokens →
        returned () { before with processedTokens } := by
  simp [updateProcessedTokens]

/-- Models are run on buffers alone. -/
theorem ends_invoke (backend : NpuBackend Scalar) (model : NpuModel)
    {returned : Unit → NpuExecutor Scalar → Prop} (unchanged : returned () before) :
    Ends (invoke backend model) before returned WithStatus := by
  unfold invoke
  cases backend.modelRun model with
  | ok _ => exact unchanged
  | error message => exact ⟨_, rfl⟩

theorem ends_runModels (backend : NpuBackend Scalar)
    {returned : Unit → NpuExecutor Scalar → Prop} (unchanged : returned () before) :
    Ends (runModels backend) before returned WithStatus := by
  have rest : Ends (do invoke backend .rope; invoke backend .mask; invoke backend .llm)
      before returned WithStatus := by
    simp only [ends_bind]
    exact ends_invoke _ _ (ends_invoke _ _ (ends_invoke _ _ unchanged))
  have perLayer : Ends (onlyIf before.hasEmbedderPerLayer (invoke backend .embedderPerLayer))
      before (fun _ between => Ends (do invoke backend .rope; invoke backend .mask
                                        invoke backend .llm) between returned WithStatus)
      WithStatus := by
    rw [ends_onlyIf]
    exact ⟨fun _ => ends_invoke _ _ rest, fun _ => rest⟩
  simp only [runModels, ends_bind, ends_get, ends_onlyIf] at perLayer ⊢
  exact ⟨fun _ => ends_invoke _ _ perLayer, fun _ => perLayer⟩

/-- A lookup gives a token with the id it was asked for. -/
theorem ends_lookupToken (lookup : Int → StatusOr (List Scalar)) (id : Int)
    {returned : TokenData Scalar → NpuExecutor Scalar → Prop}
    (anyToken : ∀ token, token.id = id → returned token before) :
    Ends (lookupToken lookup id) before returned WithStatus := by
  unfold lookupToken
  rw [ends_bind, ends_get, ends_ite]
  constructor
  · intro _
    rw [ends_bind, ends_returnIfError]
    intro embedding _
    exact anyToken _ rfl
  · intro _
    exact anyToken _ rfl

theorem ends_lookupPrefillSpan (backend : NpuBackend Scalar) (ids : List Int)
    {returned : List (List Scalar) → NpuExecutor Scalar → Prop}
    (anyEmbeddings : ∀ embeddings, returned embeddings before) :
    Ends (lookupPrefillSpan backend ids) before returned WithStatus := by
  unfold lookupPrefillSpan
  rw [ends_bind, ends_get, ends_ite]
  constructor
  · intro _
    rw [ends_returnIfError]
    exact fun embeddings _ => anyEmbeddings embeddings
  · intro _
    exact anyEmbeddings []

end Rules

/-! ## The invariant -/

/-- There is one candidate, the internal step is the token count, and every run was
exact. -/
structure StepInvariant (executor : NpuExecutor Scalar) : Prop where
  single : executor.processedTokens.tokens.length = 1
  counted : executor.currentStep = executor.processedTokens.tokenCount
  prefillExact : ∀ run ∈ executor.prefillRuns, run.Exact executor.prefillRows
  decodeExact : ∀ run ∈ executor.decodeRuns, run.Exact

/-- Every work group of a prefill has an id and at most as many as the signature has
rows, and the groups are no longer than the ids. -/
def GroupsFit (executor : NpuExecutor Scalar) : Call Scalar → Prop
  | .prefill _ _ tokenIds workGroups =>
      (∀ group ∈ workGroups, 0 < group.1 ∧ group.1 ≤ executor.prefillRows) ∧
        (workGroups.map Prod.fst).sum ≤ tokenIds.length
  | _ => True

variable {before : NpuExecutor Scalar}

/-- While the internal step is the token count nothing is rolled back. -/
theorem ends_rollBackToCurrentStep (counted : before.currentStep = before.processedTokens.tokenCount)
    {returned : Unit → NpuExecutor Scalar → Prop} :
    Ends rollBackToCurrentStep before returned WithStatus ↔ returned () before := by
  simp [rollBackToCurrentStep, counted]

/-! ## Filling the buffers -/

/-- The loop writes each id to the next row at the next step. -/
theorem ends_fillInputTokens {rows first timeStep : Nat} {written ids : List Int}
    (atStep : before.currentStep = first + written.length)
    (inside : written.length + ids.length ≤ rows)
    {returned : PrefillInputBuffers → NpuExecutor Scalar → Prop}
    (afterwards : returned (holding rows (written ++ ids) first timeStep)
      { before with currentStep := before.currentStep + ids.length }) :
    Ends (fillInputTokens (holding rows written first timeStep) written.length ids) before
      returned WithStatus := by
  induction ids generalizing before written with
  | nil =>
      rw [List.append_nil] at afterwards
      exact afterwards
  | cons id rest inductionHypothesis =>
      rw [List.length_cons] at inside
      have row : (holding rows written first timeStep).writeRow written.length id
          before.currentStep = .ok (holding rows (written ++ [id]) first timeStep) := by
        rw [atStep]
        exact writeRow_holding (by omega) id
      have nextRow : (written ++ [id]).length = written.length + 1 := by
        rw [List.length_append, List.length_singleton]
      simp only [fillInputTokens, ends_bind, ends_get, row, ends_orFail_ok, ends_modify]
      rw [← nextRow]
      apply inductionHypothesis
      · dsimp only
        omega
      · omega
      · rw [List.append_assoc, List.singleton_append]
        rw [List.length_cons, Nat.add_comm rest.length, ← Nat.add_assoc] at afterwards
        exact afterwards

/-- The pending token, if there is one, is written to row 0 and processed. -/
theorem ends_fillPendingInputToken {rows : Nat} (single : before.processedTokens.tokens.length = 1)
    (room : 0 < rows)
    {returned : PrefillInputBuffers → NpuExecutor Scalar → Prop}
    (afterwards : ∀ processedTokens : ProcessedTokens Scalar,
      processedTokens.tokens.length = 1 →
      processedTokens.first = ⟨before.processedTokens.first.allIds, none⟩ →
      returned (holding rows
          ((before.processedTokens.first.pendingInputToken.map TokenData.id).toList)
          before.processedTokens.getStep 0)
        { before with processedTokens }) :
    Ends (fillPendingInputToken before.processedTokens.getNextUnprocessedToken (cleared rows))
      before returned WithStatus := by
  unfold fillPendingInputToken ProcessedTokens.getNextUnprocessedToken
  rw [ProcessedTokens.getPendingInputToken_of_single single,
    cleared_eq_holding rows before.processedTokens.getStep]
  cases pending : before.processedTokens.first.pendingInputToken with
  | none =>
      have unmarked : before.processedTokens.first =
          ⟨before.processedTokens.first.allIds, none⟩ :=
        ProcessedTokens.first_of_not_pending (by simp [ProcessedTokens.hasPendingInputToken, pending])
      rw [pending] at afterwards
      exact afterwards before.processedTokens single unmarked
  | some token =>
      have row : (holding _ [] before.processedTokens.getStep 0).writeRow 0 token.id _ = _ :=
        writeRow_holding room token.id
      rw [List.length_nil, Nat.add_zero, List.nil_append] at row
      simp only [Option.toList_some, ends_bind, row, ends_orFail_ok, ends_updateProcessedTokens,
        ends_pure]
      intro processedTokens marks
      obtain ⟨-, sameLength, first⟩ := ProcessedTokens.markPendingInputTokenAsProcessed_ok marks
      rw [pending] at afterwards
      exact afterwards processedTokens (sameLength.trans single) first

/-! ## One call -/

/-- The history after a prefill run: the ids are appended, the last one pending. -/
theorem history_after_prefill {processed marked after : ProcessedTokens Scalar} {front : List Int}
    {token : TokenData Scalar} (single : marked.tokens.length = 1)
    (first : marked.first = ⟨processed.first.allIds, none⟩)
    (adds : (marked.addProcessedTokens front).addPendingInputToken [token] = .ok after) :
    after.tokens.length = 1 ∧
      after.getCopyOfTokens = [processed.first.allIds ++ (front ++ [token.id])] ∧
      after.tokenCount = processed.tokenCount + (front.length + 1) := by
  obtain ⟨-, sameLength, afterFirst⟩ := ProcessedTokens.addPendingInputToken_ok adds
  have afterSingle : after.tokens.length = 1 := by
    rw [sameLength]
    simpa [ProcessedTokens.addProcessedTokens, ProcessedTokens.mapTokens] using single
  have allIds : after.first.allIds = processed.first.allIds ++ (front ++ [token.id]) := by
    rw [afterFirst, ProcessedTokens.addProcessedTokens, ProcessedTokens.first_mapTokens, first]
    simp [Tokens.allIds]
  refine ⟨afterSingle, ?_, ?_⟩
  · rw [ProcessedTokens.getCopyOfTokens_of_single afterSingle, allIds]
  · rw [ProcessedTokens.tokenCount_eq, ProcessedTokens.tokenCount_eq, allIds,
      List.length_append, List.length_append, List.length_singleton]

/-- The run of a prefill whose buffers were filled from the history is exact. -/
theorem prefillRun_exact {candidate : Tokens Scalar} {rows : Nat} {front : List Int} {last : Int}
    (inside : front.length + 1 ≤ rows) (inputEmbeddings : List (List Scalar)) :
    NpuPrefillRun.Exact
      { buffers := holding rows
          ((candidate.pendingInputToken.map TokenData.id).toList ++ front)
          candidate.tokenIds.length candidate.tokenIds.length
        inputEmbeddings
        pending := candidate.pendingInputToken.map TokenData.id
        ids := front ++ [last]
        history := [candidate.allIds ++ (front ++ [last])] } rows where
  inside := by
    have atMostOne : (candidate.pendingInputToken.map TokenData.id).toList.length ≤ 1 := by
      cases candidate.pendingInputToken <;> simp
    rw [NpuPrefillRun.fed, List.dropLast_concat, List.length_append]
    dsimp only
    omega
  tokens := by
    rw [NpuPrefillRun.fed, List.dropLast_concat]
    rfl
  positions := by
    rw [NpuPrefillRun.fed, List.dropLast_concat]
    rfl
  indices := by
    intro index inBounds
    simp only [NpuPrefillRun.fed, List.dropLast_concat] at inBounds ⊢
    have regroup : candidate.allIds ++ (front ++ [last]) =
        candidate.tokenIds ++
          (((candidate.pendingInputToken.map TokenData.id).toList ++ front) ++ [last]) := by
      simp [Tokens.allIds]
    rw [List.map_singleton, regroup]
    have column : (candidate.tokenIds ++
        (((candidate.pendingInputToken.map TokenData.id).toList ++ front) ++ [last]))[
          candidate.tokenIds.length + index]? =
        some ((candidate.pendingInputToken.map TokenData.id).toList ++ front)[index] := by
      rw [List.getElem?_append_right (Nat.le_add_right _ _), Nat.add_sub_cancel_left,
        List.getElem?_append_left inBounds, List.getElem?_eq_getElem inBounds]
    exact congrArg (fun entry => [entry]) column

/-- Where the ids of a prefill start: behind the pending token. -/
theorem tokenCount_eq_step (processed : ProcessedTokens Scalar) :
    processed.tokenCount =
      processed.getStep + (processed.first.pendingInputToken.map TokenData.id).toList.length := by
  unfold ProcessedTokens.tokenCount ProcessedTokens.hasPendingInputToken
  cases processed.first.pendingInputToken <;> simp

theorem StepInvariant.prefillInternal (invariant : StepInvariant before)
    (backend : NpuBackend Scalar) {front : List Int} {last : Int}
    (inside : front.length + 1 ≤ before.prefillRows) :
    Ends (prefillInternal backend (front ++ [last])) before
      (fun _ after => StepInvariant after ∧ after.prefillRows = before.prefillRows)
      WithStatus := by
  have pendingIds : (before.processedTokens.getNextUnprocessedToken.token.take 1).length =
      (before.processedTokens.first.pendingInputToken.map TokenData.id).toList.length := by
    rw [ProcessedTokens.getNextUnprocessedToken,
      ProcessedTokens.getPendingInputToken_of_single invariant.single]
    cases before.processedTokens.first.pendingInputToken <;> rfl
  have pendingId : (before.processedTokens.getNextUnprocessedToken.token.map TokenData.id).head? =
      before.processedTokens.first.pendingInputToken.map TokenData.id := by
    rw [ProcessedTokens.getNextUnprocessedToken,
      ProcessedTokens.getPendingInputToken_of_single invariant.single]
    cases before.processedTokens.first.pendingInputToken <;> rfl
  simp only [NpuExecutor.prefillInternal, ends_bind, ends_returnIfError, ends_get,
    ends_rollBackToCurrentStep invariant.counted, List.getLast?_concat, List.dropLast_concat,
    pendingIds, pendingId]
  intro _ _
  apply ends_fillPendingInputToken invariant.single (by omega)
  intro marked markedSingle markedFirst
  apply ends_fillInputTokens
  · exact invariant.counted.trans (tokenCount_eq_step _)
  · have atMostOne :
        (before.processedTokens.first.pendingInputToken.map TokenData.id).toList.length ≤ 1 := by
      cases before.processedTokens.first.pendingInputToken <;> simp
    omega
  simp only [ends_modify]
  apply ends_lookupPrefillSpan
  intro embeddings
  apply ends_lookupToken
  intro token isLast
  simp only [addPendingInputToken, ends_bind, ends_updateProcessedTokens, ends_modify]
  intro processedTokens adds
  apply ends_runModels
  apply ends_invoke
  obtain ⟨single, history, count⟩ := history_after_prefill markedSingle markedFirst adds
  refine ⟨⟨single, ?_, ?_, invariant.decodeExact⟩, rfl⟩
  · dsimp only
    rw [count, invariant.counted, Nat.add_assoc]
  · intro run member
    rcases List.mem_append.mp member with old | new
    · exact invariant.prefillExact run old
    · rw [List.mem_singleton.mp new]
      dsimp only
      rw [history, isLast]
      exact prefillRun_exact inside _

/-- The loop over the work groups keeps the invariant. -/
theorem StepInvariant.prefillGroups (invariant : StepInvariant before)
    {workGroups : List (Nat × NpuBackend Scalar)} {ids : List Int}
    (fit : ∀ group ∈ workGroups, 0 < group.1 ∧ group.1 ≤ before.prefillRows)
    (covered : (workGroups.map Prod.fst).sum ≤ ids.length) :
    Ends (prefillGroups workGroups ids) before (fun _ after => StepInvariant after) WithStatus := by
  induction workGroups generalizing before ids with
  | nil =>
      rw [NpuExecutor.prefillGroups, ends_retCheck]
      exact fun _ => invariant
  | cons group rest inductionHypothesis =>
      obtain ⟨prefillLength, backend⟩ := group
      obtain ⟨positive, short⟩ := fit (prefillLength, backend) List.mem_cons_self
      dsimp only at positive short
      rw [List.map_cons, List.sum_cons] at covered
      have length : (ids.take prefillLength).length = prefillLength := by
        rw [List.length_take]
        omega
      have nonempty : ids.take prefillLength ≠ [] := by
        rw [← List.length_pos_iff, length]
        exact positive
      have split := List.dropLast_append_getLast nonempty
      rw [NpuExecutor.prefillGroups, ends_bind, ← split]
      have inside : (ids.take prefillLength).dropLast.length + 1 ≤ before.prefillRows := by
        rw [List.length_dropLast, length]
        omega
      refine (invariant.prefillInternal backend inside).mono ?_ (fun _ _ failed => failed)
      rintro _ between ⟨betweenInvariant, sameRows⟩
      have enough : ¬ids.length < prefillLength := by omega
      rw [if_neg enough]
      apply inductionHypothesis betweenInvariant
      · rw [sameRows]
        exact fun other member => fit other (List.mem_cons_of_mem _ member)
      · rw [List.length_drop]
        omega

theorem StepInvariant.prefill (invariant : StepInvariant before) (backend : NpuBackend Scalar)
    (batchSize : Nat) {tokenIds : List Int} {workGroups : List (Nat × NpuBackend Scalar)}
    (fit : before.GroupsFit (.prefill backend batchSize tokenIds workGroups)) :
    Ends (prefill backend batchSize tokenIds workGroups) before (fun _ after => StepInvariant after)
      WithStatus := by
  have groups : Ends (NpuExecutor.prefillGroups workGroups tokenIds) before
      (fun _ between => Ends (do
        onlyIf (← get).useEmbeddingLookupManager
          (returnIfError backend.cleanupMultiModalEmbeddings)) between
        (fun _ after => StepInvariant after) WithStatus) WithStatus := by
    refine (invariant.prefillGroups fit.1 fit.2).mono ?_ (fun _ _ failed => failed)
    intro _ between betweenInvariant
    simp only [ends_bind, ends_get, ends_onlyIf, ends_returnIfError]
    exact ⟨fun _ _ _ => betweenInvariant, fun _ => betweenInvariant⟩
  simp only [NpuExecutor.prefill, ends_bind, ends_retCheck, ends_get, ends_onlyIf,
    ends_returnIfError] at groups ⊢
  exact fun _ _ => ⟨fun _ _ _ => groups, fun _ => groups⟩

theorem StepInvariant.decode (invariant : StepInvariant before) (backend : NpuBackend Scalar)
    (hasConstraintDecoder : Bool) :
    Ends (decode backend hasConstraintDecoder) before (fun _ after => StepInvariant after)
      WithStatus := by
  unfold NpuExecutor.decode
  rw [ends_ite]
  refine ⟨fun _ => ⟨_, rfl⟩, fun _ => ?_⟩
  rw [ends_bind, ends_rollBackToCurrentStep invariant.counted, ends_bind, ends_get]
  dsimp only [ProcessedTokens.getNextUnprocessedToken]
  rw [ProcessedTokens.getPendingInputToken_of_single invariant.single]
  cases pending : before.processedTokens.first.pendingInputToken with
  | none => exact ⟨_, rfl⟩
  | some token =>
      have history := ProcessedTokens.getCopyOfTokens_of_single invariant.single
      have allIds : before.processedTokens.first.allIds =
          before.processedTokens.first.tokenIds ++ [token.id] := by
        simp [Tokens.allIds, pending]
      simp only [Option.toList_some, ends_bind, NpuExecutor.decodeInternal]
      rw [ends_ite]
      refine ⟨fun _ => ⟨_, rfl⟩, fun _ => ?_⟩
      simp only [ends_bind, ends_returnIfError, ends_modify]
      intro _ _
      apply ends_runModels
      apply ends_invoke
      simp only [ends_updateProcessedTokens]
      intro marked marks maxIndex _
      apply ends_lookupToken
      intro sampled _
      simp only [addPendingInputToken, ends_bind, ends_updateProcessedTokens, ends_modify]
      intro processedTokens adds
      obtain ⟨-, sameLength, first⟩ := ProcessedTokens.markPendingInputTokenAsProcessed_ok marks
      obtain ⟨-, addedLength, addedFirst⟩ := ProcessedTokens.addPendingInputToken_ok adds
      refine ⟨(addedLength.trans sameLength).trans invariant.single, ?_,
        invariant.prefillExact, ?_⟩
      · dsimp only
        rw [invariant.counted, ProcessedTokens.tokenCount_eq, ProcessedTokens.tokenCount_eq,
          addedFirst, first]
        simp [Tokens.allIds, Nat.add_assoc]
      · intro run member
        rcases List.mem_append.mp member with old | new
        · exact invariant.decodeExact run old
        · rw [List.mem_singleton.mp new]
          constructor
          · simp [history, allIds]
          · simp [history, allIds, ProcessedTokens.getStep]
          · rfl

theorem StepInvariant.reset (invariant : StepInvariant before) :
    Ends reset before (fun _ after => StepInvariant after) WithStatus := by
  simp only [NpuExecutor.reset, ends_bind, ends_modify, ends_updateProcessedTokens]
  intro processedTokens rolledBack
  refine ⟨?_, ?_, invariant.prefillExact, invariant.decodeExact⟩
  · exact (ProcessedTokens.rollBackToStep_zero_ok rolledBack).1.trans invariant.single
  · exact (ProcessedTokens.rollBackToStep_zero_tokenCount rolledBack).symm

/-! ## Runs -/

theorem initial_stepInvariant (useEmbeddingLookupManager hasEmbedderPerLayer : Bool)
    (prefillRows : Nat) :
    StepInvariant (initial useEmbeddingLookupManager hasEmbedderPerLayer prefillRows :
      NpuExecutor Scalar) where
  single := rfl
  counted := rfl
  prefillExact := nofun
  decodeExact := nofun

/-- A call whose work groups fit keeps the invariant or fails with a status. -/
theorem StepInvariant.call (invariant : StepInvariant before) (call : Call Scalar)
    (fit : before.GroupsFit call) :
    Ends call.body before (fun _ after => StepInvariant after) WithStatus := by
  cases call with
  | prefill backend batchSize tokenIds workGroups => exact invariant.prefill backend batchSize fit
  | decode backend hasConstraintDecoder => exact invariant.decode backend hasConstraintDecoder
  | reset => exact invariant.reset

theorem reachable_stepInvariant {executor : NpuExecutor Scalar}
    (reached : machine.ReachableUnder GroupsFit executor) : StepInvariant executor := by
  apply reached.invariant
  · rintro state ⟨useEmbeddingLookupManager, hasEmbedderPerLayer, prefillRows, rfl⟩
    exact initial_stepInvariant _ _ _
  · intro state call next invariant fit steps
    have kept := invariant.call call fit
    obtain ⟨_, succeeds⟩ := stateOnSuccess_eq_some.mp steps
    unfold Ends at kept
    rw [Succeeds] at succeeds
    rw [succeeds] at kept
    exact kept

/-- **Positions on the NPU.** In every run of successful calls whose prefills are
split into nonempty groups of at most the signature length, the internal step is
the token count, every prefill run holds the pending token and its ids but the last
at their indices in the history, every decode run holds the last token at its index,
and no further call writes past the end of a buffer. -/
theorem npuPositions_exact {executor : NpuExecutor Scalar}
    (reached : machine.ReachableUnder GroupsFit executor) :
    executor.currentStep = executor.processedTokens.tokenCount ∧
      (∀ run ∈ executor.prefillRuns, run.Exact executor.prefillRows) ∧
      (∀ run ∈ executor.decodeRuns, run.Exact) ∧
      ∀ call, executor.GroupsFit call →
        Ends call.body executor (fun _ _ => True) WithStatus := by
  have invariant := reachable_stepInvariant reached
  refine ⟨invariant.counted, invariant.prefillExact, invariant.decodeExact, ?_⟩
  intro call fit
  exact (invariant.call call fit).mono (fun _ _ _ => trivial) (fun _ _ failed => failed)

/-! ## Two turns -/

instance (executor : NpuExecutor Scalar) (call : Call Scalar) :
    Decidable (executor.GroupsFit call) :=
  match call with
  | .prefill _ _ tokenIds workGroups =>
      inferInstanceAs (Decidable ((∀ group ∈ workGroups, 0 < group.1 ∧
        group.1 ≤ executor.prefillRows) ∧ (workGroups.map Prod.fst).sum ≤ tokenIds.length))
  | .decode _ _ | .reset => isTrue trivial

/-- A backend whose operations all succeed and which samples this id. -/
def workingNpuBackend (id : Int) : NpuBackend Unit where
  updateMultiModalEmbeddings := .ok ()
  cleanupMultiModalEmbeddings := .ok ()
  lockInputBuffers := .ok ()
  embeddingLookup := ⟨fun _ => .ok [], fun _ => .ok [], fun _ => .ok []⟩
  modelRun := fun _ => .ok ()
  applyGreedySampling := .ok id

/-- A prefill of these groups of ids. -/
def npuPrefill (groups : List (List Int)) : Call Unit :=
  .prefill (workingNpuBackend 0) 1 groups.flatten
    (groups.map fun group => (group.length, workingNpuBackend 0))

/-- A prefill in two groups, two decoded tokens, and a second turn. -/
def npuTurns : List (Call Unit) :=
  [npuPrefill [[5, 6, 7, 8], [9]], .decode (workingNpuBackend 10) false,
    .decode (workingNpuBackend 11) false, npuPrefill [[12, 13]]]

theorem npuPositions_exact_twoTurns :
    ∃ executor, machine.execute (initial false true 4) npuTurns = some executor ∧
      executor.prefillRuns.map (fun run => run.buffers) =
        [⟨[5, 6, 7, 0], [0, 1, 2, 0], 0⟩, ⟨[8, 0, 0, 0], [3, 0, 0, 0], 3⟩,
          ⟨[11, 12, 0, 0], [6, 7, 0, 0], 6⟩] ∧
      executor.currentStep = executor.processedTokens.tokenCount ∧
      (∀ run ∈ executor.prefillRuns, run.Exact executor.prefillRows) ∧
      (∀ run ∈ executor.decodeRuns, run.Exact) ∧
      ∀ call, executor.GroupsFit call →
        Ends call.body executor (fun _ _ => True) WithStatus := by
  have runs : (machine.execute (initial false true 4) npuTurns).isSome = true := by decide +kernel
  obtain ⟨executor, executed⟩ := Option.isSome_iff_exists.mp runs
  have final : (machine.execute (initial false true 4) npuTurns).map
      (fun executor => executor.prefillRuns.map (fun run => run.buffers)) =
        some [⟨[5, 6, 7, 0], [0, 1, 2, 0], 0⟩, ⟨[8, 0, 0, 0], [3, 0, 0, 0], 3⟩,
          ⟨[11, 12, 0, 0], [6, 7, 0, 0], 6⟩] := by decide +kernel
  rw [executed, Option.map_some, Option.some.injEq] at final
  have start : machine.ReachableUnder GroupsFit (initial false true 4 : NpuExecutor Unit) :=
    .initial ⟨_, _, _, rfl⟩
  exact ⟨executor, executed, final,
    npuPositions_exact (start.execute (by decide +kernel) executed)⟩

end NpuExecutor

end LiteRTLM.Executor
