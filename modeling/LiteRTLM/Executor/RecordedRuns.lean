import Mathlib
import LiteRTLM.Executor.PositionInvariant
import LiteRTLM.Executor.StepBounds

/-!
Contract: a prefill that fails, and what of its tokens it has recorded as processed.

Owns: `PrefillInternal` and `Prefill` with the outcomes of the buffers they lock and
duplicate; when the recorded tokens are those that runs of the model were fed; and the
failures after which they are not.

Does not own: calls that succeed.
-/

namespace LiteRTLM.Executor.CompiledModelExecutor

open LiteRTLM.Engine
open LiteRTLM.Library

variable {Scalar : Type}

/-! ## Prefill with its buffers -/

/-- The outcomes of the operations on tensor buffers in one `PrefillInternal`. -/
structure BufferOutcomes where
  /-- The size and the lock of the positions buffer. -/
  inputPositions : StatusOr Unit
  /-- The lock and the size of the buffer of the token ids. -/
  inputTokens : StatusOr Unit
  /-- The duplicates of the input and cache buffers for the run. -/
  duplicates : StatusOr Unit

/-- The pending token is fed and marked, and the ids of the run are recorded; the position
of the first id. -/
def recordTokens (backend : Backend Scalar) (token : List (TokenData Scalar))
    (front : List Int) : ExecutorM Scalar Nat := do
  onlyIf (token ≠ []) do
    fillInputBufferWithToken backend token
    updateProcessedTokens ProcessedTokens.markPendingInputTokenAsProcessed
  let firstPosition := (← get).currentStep
  modify fun executor => { executor with
    currentStep := executor.currentStep + front.length
    processedTokens := executor.processedTokens.addProcessedTokens front }
  return firstPosition

/-- The rest of `PrefillInternal` up to the run: the lookups, the mask and the next pending
token. -/
def prepareRun (buffers : BufferOutcomes) (backend : Backend Scalar)
    (signatures : ModelSignatures) (next : ProcessedTokens.StepAndToken Scalar)
    (front : List Int) (last : Int) : ExecutorM Scalar (List (FedToken Scalar)) := do
  onlyIf signatures.inputTokens (returnIfError buffers.inputTokens)
  let fedTokens ← lookupPrefillSpan backend signatures front
  onlyIf signatures.inputAttnMask
    (returnIfError (backend.fillAttentionMask next.step (front.length + next.token.length)))
  let lastToken ← lastInputToken backend signatures last
  updateProcessedTokens fun processed => processed.addPendingInputToken [lastToken]
  modify fun executor => { executor with currentStep := executor.currentStep + 1 }
  returnIfError buffers.duplicates
  return fedTokens

/-- `PrefillInternal` past its early return. -/
def prefillRunOn (buffers : BufferOutcomes) (backend : Backend Scalar) (front : List Int)
    (last : Int) : ExecutorM Scalar Unit := do
  let signatures := (← get).signatures
  let next := (← get).processedTokens.getNextUnprocessedToken
  let pendingRows := next.token.map fun token =>
    InputRow.mk next.step [fedToken signatures token]
  let firstPosition ← recordTokens backend next.token front
  let fedTokens ← prepareRun buffers backend signatures next front last
  compiledModelRun backend
    (pendingRows ++ fedTokens.mapIdx fun index token =>
      InputRow.mk (firstPosition + index) [token])

def prefillInternalOn (buffers : BufferOutcomes) (backend : Backend Scalar) (ids : List Int) :
    ExecutorM Scalar Unit := do
  returnIfError buffers.inputPositions
  onlyIf (← get).signatures.inputAttnMask (returnIfError backend.initializeAttentionMask)
  let next := (← get).processedTokens.getNextUnprocessedToken
  retCheck (next.token.length ≤ 1) "pending_input_token.size() <= 1"
  match ids.getLast? with
  | none => throw (.internalError "ids is empty")
  | some last => do
      if next.token = [] ∧ ids.length = 1 then
        updateProcessedTokens fun processed =>
          processed.addPendingInputToken [TokenData.ofId last]
      else
        prefillRunOn buffers backend ids.dropLast last

/-- A work group as a call meets it. -/
structure WorkGroup (Scalar : Type) where
  prefillLength : Nat
  backend : Backend Scalar
  buffers : BufferOutcomes

/-- The loop over the work groups. -/
def prefillGroupsOn : List (WorkGroup Scalar) → List Int → ExecutorM Scalar Unit
  | [], ids => retCheck (ids.length = 0) "Work groups not covering the entire prefill input."
  | group :: rest, ids => do
      returnIfError group.backend.createPrefillInputBuffers
      prefillInternalOn group.buffers group.backend (ids.take group.prefillLength)
      prefillGroupsOn rest (ids.drop group.prefillLength)

/-- What `Prefill` does in front of its work groups; the ids it prefills. -/
def startPrefill (backend : Backend Scalar) (inputBatchSize : Nat) (tokenIds : List Int) :
    ExecutorM Scalar (List Int) := do
  reduceToPrefill backend
  retCheck (inputBatchSize = 1 ∨ inputBatchSize = (← get).outputBatchSize)
    "input_batch_size == output_batch_size_"
  let inputLength := tokenIds.length / inputBatchSize
  retCheck (inputLength > 0) "Prefill token ids must be non-empty."
  returnIfError backend.updateMultiModalEmbeddings
  return tokenIds.take inputLength

def prefillOn (backend : Backend Scalar) (inputBatchSize : Nat) (tokenIds : List Int)
    (workGroups : List (WorkGroup Scalar)) : ExecutorM Scalar Unit := do
  let ids ← startPrefill backend inputBatchSize tokenIds
  prefillGroupsOn workGroups ids
  returnIfError backend.cleanupMultiModalEmbeddings

/-! ## The calls of the executor -/

/-- Buffers that can all be locked and duplicated. -/
def BufferOutcomes.available : BufferOutcomes :=
  ⟨.ok (), .ok (), .ok ()⟩

theorem onlyIf_pure (condition : Prop) [Decidable condition] :
    onlyIf condition (pure () : ExecutorM Scalar Unit) = pure () := by
  rw [onlyIf, ite_self]

theorem prefillRunOn_available (backend : Backend Scalar) (front : List Int) (last : Int) :
    prefillRunOn .available backend front last = prefillRun backend front last := by
  simp only [prefillRunOn, prefillRun, recordTokens, prepareRun, BufferOutcomes.available,
    returnIfError, onlyIf_pure, bind_assoc, pure_bind]

/-- On available buffers these are the functions of the executor. -/
theorem prefillInternalOn_available (backend : Backend Scalar) (ids : List Int) :
    prefillInternalOn .available backend ids = prefillInternal backend ids := by
  simp only [prefillInternalOn, prefillInternal, prefillRunOn_available]
  rfl

/-! ## Recorded tokens and runs -/

def fedIds (run : ModelRun Scalar) : List Int :=
  run.rows.flatMap fun row => row.tokens.map FedToken.id

/-- The tokens that wait for the next run. -/
def pendingCount (executor : CompiledModelExecutor Scalar) : Nat :=
  if executor.processedTokens.hasPendingInputToken then 1 else 0

/-- The tokens recorded since `before` are those that the runs since then were fed, and the
step counts no others, apart from the pending token. -/
def RecordsRuns (before after : CompiledModelExecutor Scalar) : Prop :=
  ∃ runs, after.modelRuns = before.modelRuns ++ runs ∧
    after.processedTokens.first.tokenIds =
      before.processedTokens.first.tokenIds ++ runs.flatMap fedIds ∧
    after.currentStep + before.pendingCount ≤
      before.currentStep + (runs.flatMap fedIds).length + after.pendingCount

theorem RecordsRuns.refl (executor : CompiledModelExecutor Scalar) :
    RecordsRuns executor executor :=
  ⟨[], (List.append_nil _).symm, (List.append_nil _).symm, Nat.le_refl _⟩

theorem RecordsRuns.trans {before between after : CompiledModelExecutor Scalar}
    (first : RecordsRuns before between) (second : RecordsRuns between after) :
    RecordsRuns before after := by
  obtain ⟨earlier, earlierRuns, earlierIds, earlierStep⟩ := first
  obtain ⟨later, laterRuns, laterIds, laterStep⟩ := second
  refine ⟨earlier ++ later, ?_, ?_, ?_⟩
  · rw [laterRuns, earlierRuns, List.append_assoc]
  · rw [laterIds, earlierIds, List.flatMap_append, List.append_assoc]
  · rw [List.flatMap_append, List.length_append]
    omega

/-- Tokens that were recorded without a run are not those of any runs. -/
theorem RecordsRuns.not_of_recorded {before between after : CompiledModelExecutor Scalar}
    (first : RecordsRuns before between) (sameRuns : after.modelRuns = between.modelRuns)
    {recorded : List Int} (some : recorded ≠ [])
    (ids : after.processedTokens.first.tokenIds =
      between.processedTokens.first.tokenIds ++ recorded) :
    ¬RecordsRuns before after := by
  rintro ⟨runs, isRuns, isIds, -⟩
  obtain ⟨earlier, earlierRuns, earlierIds, -⟩ := first
  have same : earlier = runs := by
    rw [sameRuns, earlierRuns] at isRuns
    exact List.append_cancel_left isRuns
  subst same
  rw [ids, earlierIds] at isIds
  exact some (List.append_right_eq_self.mp isIds)

variable {before : CompiledModelExecutor Scalar}

/-! ## Ends of the parts -/

section Parts

variable {returned : Unit → CompiledModelExecutor Scalar → Prop}
  {failed : Status → CompiledModelExecutor Scalar → Prop}

theorem ends_returnIfError {α : Type} (status : StatusOr α)
    {returned : α → CompiledModelExecutor Scalar → Prop} :
    Ends (returnIfError status) before returned failed ↔
      (∀ value, status = .ok value → returned value before) ∧
        ∀ error, status = .error error → failed error before := by
  cases status with
  | ok value => simp [returnIfError]
  | error error => simp [returnIfError]

theorem ends_onlyIf (condition : Prop) [Decidable condition]
    (program : ExecutorM Scalar Unit) :
    Ends (onlyIf condition program) before returned failed ↔
      (condition → Ends program before returned failed) ∧
        (¬condition → returned () before) := by
  rw [onlyIf, ends_ite, ends_pure]

theorem ends_updateProcessedTokens
    (operation : ProcessedTokens Scalar → StatusOr (ProcessedTokens Scalar)) :
    Ends (updateProcessedTokens operation) before returned failed ↔
      (∀ processedTokens, operation before.processedTokens = .ok processedTokens →
        returned () { before with processedTokens }) ∧
        ∀ error, operation before.processedTokens = .error error → failed error before := by
  rw [updateProcessedTokens, ends_bind, ends_get, ends_bind, ends_returnIfError]
  exact Iff.rfl

/-- A part that changes nothing: its success says what it returns. -/
theorem ends_of_keeps {α : Type} {program : ExecutorM Scalar α}
    {returned : α → CompiledModelExecutor Scalar → Prop}
    (keeps : Keeps id program before)
    (onReturn : ∀ value, Succeeds program before value before → returned value before)
    (onFailure : ∀ error, failed error before) : Ends program before returned failed := by
  unfold Keeps finalState at keeps
  unfold Ends
  cases outcome : program before with
  | ok value after =>
      rw [outcome] at keeps
      rw [show after = before from keeps] at outcome ⊢
      exact onReturn value outcome
  | error error after =>
      rw [outcome] at keeps
      rw [show after = before from keeps]
      exact onFailure error

end Parts

/-- The pending token is marked and the ids are recorded, unless the pending token could not
be fed. -/
theorem recordTokens_ends (backend : Backend Scalar) (front : List Int) :
    Ends (recordTokens backend before.processedTokens.getPendingInputToken front) before
      (fun _ after =>
        (before.processedTokens.getPendingInputToken ≠ [] → backend.fillInputBuffer = .ok ()) ∧
        after.modelRuns = before.modelRuns ∧
        after.currentStep = before.currentStep + front.length ∧
        after.processedTokens.first = ⟨before.processedTokens.first.allIds ++ front, none⟩)
      (fun _ after => after = before ∧
        before.processedTokens.getPendingInputToken ≠ [] ∧
          backend.fillInputBuffer ≠ .ok ()) := by
  have recorded : ∀ executor : CompiledModelExecutor Scalar,
      executor.processedTokens.first = ⟨before.processedTokens.first.allIds, none⟩ →
      ({ executor with
        currentStep := executor.currentStep + front.length
        processedTokens := executor.processedTokens.addProcessedTokens front } :
          CompiledModelExecutor Scalar).processedTokens.first =
        ⟨before.processedTokens.first.allIds ++ front, none⟩ := by
    intro executor first
    simp [ProcessedTokens.addProcessedTokens, first]
  rw [recordTokens, ends_bind, ends_onlyIf]
  constructor
  · intro pending
    have nonempty : before.processedTokens.getPendingInputToken.isEmpty = false := by
      rw [List.isEmpty_eq_false_iff]
      exact pending
    rw [ends_bind, fillInputBufferWithToken, nonempty, if_neg Bool.false_ne_true,
      ends_returnIfError]
    constructor
    · intro _ filled
      rw [ends_updateProcessedTokens]
      constructor
      · intro processedTokens marks
        obtain ⟨-, -, first⟩ := ProcessedTokens.markPendingInputTokenAsProcessed_ok marks
        rw [ends_bind, ends_get, ends_bind, ends_modify, ends_pure]
        exact ⟨fun _ => filled, rfl, rfl, recorded { before with processedTokens } first⟩
      · intro error refused
        -- a token is pending
        rw [ne_eq, ProcessedTokens.getPendingInputToken_eq_nil, Bool.not_eq_false] at pending
        rw [ProcessedTokens.markPendingInputTokenAsProcessed, if_pos pending] at refused
        cases refused
    · intro error refused
      exact ⟨rfl, pending, by rw [refused]; intro impossible; cases impossible⟩
  · intro nonePending
    rw [ends_bind, ends_get, ends_bind, ends_modify, ends_pure]
    have none := ProcessedTokens.getPendingInputToken_eq_nil.mp (not_not.mp nonePending)
    exact ⟨fun pending => absurd pending nonePending, rfl, rfl,
      recorded before (ProcessedTokens.first_of_not_pending none)⟩

/-- The rest up to the run keeps the recorded tokens and the runs, and leaves the last id
pending when it succeeds. -/
theorem prepareRun_ends (buffers : BufferOutcomes) (backend : Backend Scalar)
    (signatures : ModelSignatures) (next : ProcessedTokens.StepAndToken Scalar)
    (front : List Int) (last : Int) :
    Ends (prepareRun buffers backend signatures next front last) before
      (fun fedTokens after => fedTokens.map FedToken.id = front ∧
        after.modelRuns = before.modelRuns ∧ after.currentStep = before.currentStep + 1 ∧
        after.processedTokens.first.tokenIds = before.processedTokens.first.tokenIds ∧
        after.processedTokens.hasPendingInputToken = true)
      (fun _ after => after.modelRuns = before.modelRuns ∧
        after.processedTokens.first.tokenIds = before.processedTokens.first.tokenIds) := by
  rw [prepareRun, ends_bind]
  apply ends_of_keeps (keeps_onlyIf _ fun _ => keeps_returnIfError _)
  · intro _ _
    rw [ends_bind]
    apply ends_of_keeps (keeps_lookupPrefillSpan _ _ _)
    · intro fedTokens looked
      rw [ends_bind]
      apply ends_of_keeps (keeps_onlyIf _ fun _ => keeps_returnIfError _)
      · intro _ _
        rw [ends_bind]
        apply ends_of_keeps (keeps_lastInputToken _ _ _)
        · intro lastToken _
          rw [ends_bind, ends_updateProcessedTokens]
          constructor
          · intro processedTokens adds
            obtain ⟨-, -, first⟩ := ProcessedTokens.addPendingInputToken_ok adds
            have sameIds : processedTokens.first.tokenIds =
                before.processedTokens.first.tokenIds := by rw [first]
            have pending : processedTokens.hasPendingInputToken = true := by
              rw [ProcessedTokens.hasPendingInputToken, first]
              rfl
            rw [ends_bind, ends_modify, ends_bind, ends_returnIfError]
            constructor
            · intro _ _
              rw [ends_pure]
              exact ⟨(lookupPrefillSpan_ok looked).1, rfl, rfl, sameIds, pending⟩
            · intro _ _
              exact ⟨rfl, sameIds⟩
          · intro _ _
            exact ⟨rfl, rfl⟩
        · intro _
          exact ⟨rfl, rfl⟩
      · intro _
        exact ⟨rfl, rfl⟩
    · intro _
      exact ⟨rfl, rfl⟩
  · intro _
    exact ⟨rfl, rfl⟩

/-! ## One run -/

/-- A pending token of one candidate at most is that of the first candidate. -/
theorem getPendingInputToken_eq_first {processed : ProcessedTokens Scalar}
    (few : processed.getPendingInputToken.length ≤ 1) :
    processed.getPendingInputToken = processed.first.pendingInputToken.toList := by
  by_cases pending : processed.hasPendingInputToken = true
  · have column := congrArg List.length (ProcessedTokens.pending_column pending)
    rw [List.length_map, List.length_map, ProcessedTokens.getCopyOfTokens,
      List.length_map] at column
    have positive := List.length_pos_iff.mpr processed.nonempty
    exact ProcessedTokens.getPendingInputToken_of_single (by omega)
  · have none : processed.hasPendingInputToken = false := by simpa using pending
    rw [ProcessedTokens.getPendingInputToken_eq_nil.mpr none]
    rw [ProcessedTokens.hasPendingInputToken, Option.isSome_eq_false_iff,
      Option.isNone_iff_eq_none] at none
    rw [none]
    rfl

theorem pendingCount_eq (few : before.processedTokens.getPendingInputToken.length ≤ 1) :
    before.pendingCount = before.processedTokens.getPendingInputToken.length := by
  rw [getPendingInputToken_eq_first few, pendingCount, ProcessedTokens.hasPendingInputToken]
  cases before.processedTokens.first.pendingInputToken <;> rfl

theorem flatMap_mapIdx_rows (position : Nat → Nat) (fedTokens : List (FedToken Scalar)) :
    (fedTokens.mapIdx fun index token => InputRow.mk (position index) [token]).flatMap
      (fun row => row.tokens.map FedToken.id) = fedTokens.map FedToken.id := by
  induction fedTokens generalizing position with
  | nil => rfl
  | cons token rest inductionHypothesis =>
      rw [List.mapIdx_cons, List.flatMap_cons, List.map_cons]
      exact congrArg (token.id :: ·) (inductionHypothesis fun index => position (index + 1))

/-- The ids of the rows of a prefill run. -/
theorem fedIds_prefill (signatures : ModelSignatures) (step firstPosition : Nat)
    (pending : List (TokenData Scalar)) (fedTokens : List (FedToken Scalar))
    (history : List (List Int)) :
    fedIds ⟨(pending.map fun token => InputRow.mk step [fedToken signatures token]) ++
        fedTokens.mapIdx fun index token => InputRow.mk (firstPosition + index) [token],
      history⟩ = pending.map TokenData.id ++ fedTokens.map FedToken.id := by
  rw [fedIds, List.flatMap_append, flatMap_mapIdx_rows, List.flatMap_map]
  congr 1
  exact List.map_eq_flatMap.symm

/-- What `PrefillInternal` needs to come to the recording of its tokens. -/
structure ReachesRecording (buffers : BufferOutcomes) (backend : Backend Scalar)
    (ids : List Int) (executor : CompiledModelExecutor Scalar) : Prop where
  positions : buffers.inputPositions = .ok ()
  mask : executor.signatures.inputAttnMask = true → backend.initializeAttentionMask = .ok ()
  onePending : executor.processedTokens.getPendingInputToken.length ≤ 1
  hasIds : ids ≠ []
  runs : ¬(executor.processedTokens.getPendingInputToken = [] ∧ ids.length = 1)
  pendingFits : executor.processedTokens.getPendingInputToken ≠ [] →
    backend.fillInputBuffer = .ok ()

/-- How a `PrefillInternal` fails: with nothing changed when it did not come to the recording
of its tokens, and otherwise with recorded tokens and no run. -/
def FailedPrefill (buffers : BufferOutcomes) (backend : Backend Scalar) (ids : List Int)
    (before after : CompiledModelExecutor Scalar) : Prop :=
  (¬ReachesRecording buffers backend ids before ∧ after = before) ∨
    (ReachesRecording buffers backend ids before ∧ after.modelRuns = before.modelRuns ∧
      ∃ recorded, recorded ≠ [] ∧ after.processedTokens.first.tokenIds =
        before.processedTokens.first.tokenIds ++ recorded)

/-- The part with the run: it records what the run is fed, whether or not it succeeds. -/
theorem prefillRunOn_ends {buffers : BufferOutcomes} {backend : Backend Scalar}
    {front : List Int} {last : Int} (positions : buffers.inputPositions = .ok ())
    (mask : before.signatures.inputAttnMask = true → backend.initializeAttentionMask = .ok ())
    (onePending : before.processedTokens.getPendingInputToken.length ≤ 1)
    (runs : ¬(before.processedTokens.getPendingInputToken = [] ∧ (front ++ [last]).length = 1)) :
    Ends (prefillRunOn buffers backend front last) before
      (fun _ after => RecordsRuns before after)
      (fun _ after => FailedPrefill buffers backend (front ++ [last]) before after) := by
  rw [prefillRunOn, ends_bind, ends_get, ends_bind, ends_get, ends_bind]
  apply (recordTokens_ends backend front).mono
  · rintro firstPosition recordedState ⟨filled, sameRuns, step, first⟩
    have reaches : ReachesRecording buffers backend (front ++ [last]) before :=
      ⟨positions, mask, onePending, by simp, runs, filled⟩
    have isFirst := getPendingInputToken_eq_first onePending
    have recordedIds : recordedState.processedTokens.first.tokenIds =
        before.processedTokens.first.tokenIds ++
          (before.processedTokens.getPendingInputToken.map TokenData.id ++ front) := by
      rw [first, isFirst, Tokens.allIds, List.append_assoc]
      cases before.processedTokens.first.pendingInputToken <;> rfl
    have some : before.processedTokens.getPendingInputToken.map TokenData.id ++ front ≠ [] := by
      intro empty
      obtain ⟨noPending, noFront⟩ := List.append_eq_nil_iff.mp empty
      exact runs ⟨List.map_eq_nil_iff.mp noPending, by rw [noFront]; rfl⟩
    rw [ends_bind]
    apply (prepareRun_ends _ _ _ _ _ _).mono
    · rintro fedTokens prepared ⟨fed, preparedRuns, preparedStep, preparedIds, pending⟩
      rw [compiledModelRun, ends_bind, ends_returnIfError]
      constructor
      · intro _ _
        rw [ends_modify]
        have isFed := fedIds_prefill before.signatures
          before.processedTokens.getNextUnprocessedToken.step firstPosition
          before.processedTokens.getNextUnprocessedToken.token fedTokens
          prepared.processedTokens.getCopyOfTokens
        rw [fed] at isFed
        refine ⟨[_], congrArg (· ++ _) (preparedRuns.trans sameRuns), ?_, ?_⟩
        · rw [List.flatMap_singleton]
          exact (preparedIds.trans recordedIds).trans (congrArg _ isFed.symm)
        · rw [List.flatMap_singleton]
          change prepared.currentStep + before.pendingCount ≤
            before.currentStep + (fedIds _).length + prepared.pendingCount
          have next : prepared.pendingCount = 1 := if_pos pending
          have fedLength := congrArg List.length isFed
          have pendingLength : before.processedTokens.getNextUnprocessedToken.token.length =
              before.processedTokens.getPendingInputToken.length := rfl
          rw [List.length_append, List.length_map, pendingLength] at fedLength
          rw [next, pendingCount_eq onePending, preparedStep, step, fedLength]
          omega
      · intro _ _
        exact .inr ⟨reaches, preparedRuns.trans sameRuns, _, some,
          preparedIds.trans recordedIds⟩
    · rintro _ stopped ⟨stoppedRuns, stoppedIds⟩
      exact .inr ⟨reaches, stoppedRuns.trans sameRuns, _, some, stoppedIds.trans recordedIds⟩
  · rintro _ _ ⟨same, pending, refused⟩
    exact .inl ⟨fun reaches => refused (reaches.pendingFits pending), same⟩

/-- `PrefillInternal`: a success records what its run was fed. -/
theorem prefillInternalOn_ends (buffers : BufferOutcomes) (backend : Backend Scalar)
    (ids : List Int) :
    Ends (prefillInternalOn buffers backend ids) before
      (fun _ after => RecordsRuns before after)
      (fun _ after => FailedPrefill buffers backend ids before after) := by
  rw [prefillInternalOn, ends_bind, ends_returnIfError]
  constructor
  · intro _ positions
    rw [ends_bind, ends_get, ends_bind, ends_onlyIf]
    have rest : (before.signatures.inputAttnMask = true →
          backend.initializeAttentionMask = .ok ()) →
        Ends (do
          let next := (← get).processedTokens.getNextUnprocessedToken
          retCheck (next.token.length ≤ 1) "pending_input_token.size() <= 1"
          match ids.getLast? with
          | none => throw (.internalError "ids is empty")
          | some last => do
              if next.token = [] ∧ ids.length = 1 then
                updateProcessedTokens fun processed =>
                  processed.addPendingInputToken [TokenData.ofId last]
              else
                prefillRunOn buffers backend ids.dropLast last : ExecutorM Scalar Unit) before
          (fun _ after => RecordsRuns before after)
          (fun _ after => FailedPrefill buffers backend ids before after) := by
      intro mask
      rw [ends_bind, ends_get, ends_bind, retCheck, ends_ite]
      constructor
      · intro onePending
        rw [ends_pure]
        cases lastId : ids.getLast? with
        | none =>
            have empty := List.getLast?_eq_none_iff.mp lastId
            exact .inl ⟨fun reaches => reaches.hasIds empty, rfl⟩
        | some last =>
            have split := List.dropLast_append_getLast? last lastId
            rw [ends_ite]
            constructor
            · rintro ⟨noPending, single⟩
              rw [ends_updateProcessedTokens]
              constructor
              · intro processedTokens adds
                obtain ⟨notPending, -, first⟩ := ProcessedTokens.addPendingInputToken_ok adds
                refine ⟨[], (List.append_nil _).symm, ?_, ?_⟩
                · rw [first, List.flatMap_nil, List.append_nil]
                · have none : before.pendingCount = 0 := by
                    rw [pendingCount, notPending, if_neg Bool.false_ne_true]
                  rw [none]
                  exact Nat.le_add_right _ _
              · intro _ _
                exact .inl ⟨fun reaches => reaches.runs ⟨noPending, single⟩, rfl⟩
            · intro runs
              have ran := @prefillRunOn_ends _ before buffers backend ids.dropLast last positions
                mask onePending (by rw [split]; exact runs)
              rw [split] at ran
              exact ran
      · intro many
        exact .inl ⟨fun reaches => many reaches.onePending, rfl⟩
    constructor
    · intro masked
      rw [ends_returnIfError]
      constructor
      · intro _ initialized
        exact rest fun _ => initialized
      · intro error refused
        refine .inl ⟨fun reaches => ?_, rfl⟩
        rw [reaches.mask masked] at refused
        cases refused
    · intro notMasked
      exact rest fun masked => absurd masked notMasked
  · intro error refused
    refine .inl ⟨fun reaches => ?_, rfl⟩
    rw [reaches.positions] at refused
    cases refused

/-! ## A whole prefill -/

/-- The work groups in front of one; the ids they leave. -/
def prefillEarlier : List (WorkGroup Scalar) → List Int → ExecutorM Scalar (List Int)
  | [], ids => pure ids
  | group :: rest, ids => do
      returnIfError group.backend.createPrefillInputBuffers
      prefillInternalOn group.buffers group.backend (ids.take group.prefillLength)
      prefillEarlier rest (ids.drop group.prefillLength)

/-- Work groups that succeed record what their runs were fed. -/
theorem prefillEarlier_records {groups : List (WorkGroup Scalar)} {ids rest : List Int}
    {after : CompiledModelExecutor Scalar}
    (succeeds : Succeeds (prefillEarlier groups ids) before rest after) :
    RecordsRuns before after := by
  induction groups generalizing before ids with
  | nil =>
      obtain ⟨-, rfl⟩ := (succeeds_pure _).mp succeeds
      exact RecordsRuns.refl after
  | cons group others inductionHypothesis =>
      rw [prefillEarlier, succeeds_bind] at succeeds
      obtain ⟨_, created, creates, succeeds⟩ := succeeds
      obtain ⟨-, rfl⟩ := (succeeds_returnIfError _).mp creates
      rw [succeeds_bind] at succeeds
      obtain ⟨_, between, ran, others⟩ := succeeds
      have first := (ends_iff_of_ok ran).mp (prefillInternalOn_ends group.buffers group.backend _)
      exact first.trans (inductionHypothesis others)

/-- A loop over work groups that succeeds records what its runs were fed. -/
theorem prefillGroupsOn_records {workGroups : List (WorkGroup Scalar)} {ids : List Int}
    {after : CompiledModelExecutor Scalar}
    (succeeds : Succeeds (prefillGroupsOn workGroups ids) before () after) :
    RecordsRuns before after := by
  induction workGroups generalizing before ids with
  | nil =>
      obtain ⟨-, rfl⟩ := (succeeds_retCheck _ _).mp succeeds
      exact RecordsRuns.refl after
  | cons group others inductionHypothesis =>
      rw [prefillGroupsOn, succeeds_bind] at succeeds
      obtain ⟨_, created, creates, succeeds⟩ := succeeds
      obtain ⟨-, rfl⟩ := (succeeds_returnIfError _).mp creates
      rw [succeeds_bind] at succeeds
      obtain ⟨_, between, ran, others⟩ := succeeds
      have first := (ends_iff_of_ok ran).mp (prefillInternalOn_ends group.buffers group.backend _)
      exact first.trans (inductionHypothesis others)

/-- The loop continues behind the groups that succeeded. -/
theorem prefillGroupsOn_append {earlier : List (WorkGroup Scalar)} {ids rest : List Int}
    {reached : CompiledModelExecutor Scalar}
    (succeeds : Succeeds (prefillEarlier earlier ids) before rest reached)
    (later : List (WorkGroup Scalar)) :
    prefillGroupsOn (earlier ++ later) ids before = prefillGroupsOn later rest reached := by
  induction earlier generalizing before ids with
  | nil =>
      obtain ⟨rfl, rfl⟩ := (succeeds_pure _).mp succeeds
      rfl
  | cons group others inductionHypothesis =>
      rw [prefillEarlier, succeeds_bind] at succeeds
      obtain ⟨_, created, creates, succeeds⟩ := succeeds
      rw [succeeds_bind] at succeeds
      obtain ⟨_, between, ran, others⟩ := succeeds
      rw [List.cons_append, prefillGroupsOn, bind_of_ok creates, bind_of_ok ran]
      exact inductionHypothesis others

/-- What the recorded tokens and the step are read from. -/
def recordedState (executor : CompiledModelExecutor Scalar) :
    List (ModelRun Scalar) × Tokens Scalar × Nat :=
  (executor.modelRuns, executor.processedTokens.first, executor.currentStep)

theorem recordsRuns_of_sameState {after : CompiledModelExecutor Scalar}
    (same : recordedState after = recordedState before) : RecordsRuns before after := by
  have sameRuns : after.modelRuns = before.modelRuns := congrArg Prod.fst same
  have sameFirst : after.processedTokens.first = before.processedTokens.first :=
    congrArg (fun state => state.2.1) same
  have sameStep : after.currentStep = before.currentStep :=
    congrArg (fun state => state.2.2) same
  refine ⟨[], ?_, ?_, ?_⟩
  · rw [sameRuns, List.append_nil]
  · rw [sameFirst, List.flatMap_nil, List.append_nil]
  · rw [sameStep, pendingCount, pendingCount, ProcessedTokens.hasPendingInputToken,
      ProcessedTokens.hasPendingInputToken, sameFirst]
    exact Nat.le_refl _

/-- The start of a prefill keeps the first candidate and the step, however it ends. -/
theorem keeps_startPrefill (backend : Backend Scalar) (inputBatchSize : Nat)
    (tokenIds : List Int) :
    Keeps recordedState (startPrefill backend inputBatchSize tokenIds) before := by
  apply Keeps.bind
  · apply Keeps.get_bind
    apply keeps_onlyIf
    intro _
    apply Keeps.bind
    · exact rfl
    · intro _ switched
      apply Keeps.get_bind
      apply keeps_onlyIf
      intro _
      apply Keeps.bind
      · apply keeps_updateProcessedTokens
        intro processedTokens reduces
        obtain ⟨-, sameFirst⟩ := ProcessedTokens.reduceTokenCandidates_zero_ok reduces
        simp only [recordedState, sameFirst]
      · intro _ reduced
        exact keeps_returnIfError _
  · intro _ reduced
    apply Keeps.get_bind
    apply (keeps_retCheck _ _).bind
    intro _ checked
    apply (keeps_retCheck _ _).bind
    intro _ hasIds
    exact (keeps_returnIfError _).bind fun _ _ => keeps_pure _

theorem startPrefill_records {backend : Backend Scalar} {inputBatchSize : Nat}
    {tokenIds ids : List Int} {after : CompiledModelExecutor Scalar}
    (succeeds : Succeeds (startPrefill backend inputBatchSize tokenIds) before ids after) :
    RecordsRuns before after :=
  recordsRuns_of_sameState
    ((ends_iff_of_ok succeeds).mp (keeps_startPrefill backend inputBatchSize tokenIds).ends)

/-- A loop over work groups that fails outside of `PrefillInternal` has recorded what its runs
were fed; otherwise it fails in `PrefillInternal` of one group. -/
theorem prefillGroupsOn_error {before : CompiledModelExecutor Scalar}
    {workGroups : List (WorkGroup Scalar)} {ids : List Int} {status : Status}
    {after : CompiledModelExecutor Scalar}
    (stopped : prefillGroupsOn workGroups ids before = .error status after) :
    RecordsRuns before after ∨
      ∃ earlier group later rest reached, workGroups = earlier ++ group :: later ∧
        Succeeds (prefillEarlier earlier ids) before rest reached ∧
        group.backend.createPrefillInputBuffers = .ok () ∧
        prefillInternalOn group.buffers group.backend (rest.take group.prefillLength) reached =
          .error status after := by
  induction workGroups generalizing before ids with
  | nil =>
      have kept := (ends_iff_of_error stopped).mp
        (show Keeps recordedState (prefillGroupsOn [] ids) before from keeps_retCheck _ _).ends
      exact .inl (recordsRuns_of_sameState kept)
  | cons group others inductionHypothesis =>
      rw [prefillGroupsOn] at stopped
      cases created : group.backend.createPrefillInputBuffers with
      | error refused =>
          rw [created] at stopped
          cases stopped
          exact .inl (RecordsRuns.refl _)
      | ok _ =>
          rw [created, returnIfError, pure_bind] at stopped
          cases ran : prefillInternalOn group.buffers group.backend
            (ids.take group.prefillLength) before with
          | error refused failed =>
              rw [bind_of_error ran] at stopped
              cases stopped
              exact .inr ⟨[], group, others, ids, before, rfl, rfl, created, ran⟩
          | ok _ between =>
              rw [bind_of_ok ran] at stopped
              have first := (ends_iff_of_ok ran).mp (prefillInternalOn_ends _ _ _)
              rcases inductionHypothesis stopped with
                recorded | ⟨earlier, failing, later, rest, reached, rfl, reaches, buffers, fails⟩
              · exact .inl (first.trans recorded)
              · refine .inr ⟨group :: earlier, failing, later, rest, reached, rfl, ?_, buffers,
                  fails⟩
                rw [prefillEarlier, succeeds_bind]
                refine ⟨(), before, (succeeds_returnIfError _).mpr ⟨created, rfl⟩, ?_⟩
                rw [succeeds_bind]
                exact ⟨(), between, ran, reaches⟩

/-- A prefill that fails outside of `PrefillInternal` has recorded what its runs were fed. -/
theorem prefillOn_error {backend : Backend Scalar} {inputBatchSize : Nat} {tokenIds : List Int}
    {workGroups : List (WorkGroup Scalar)} {status : Status}
    {after : CompiledModelExecutor Scalar}
    (stopped : prefillOn backend inputBatchSize tokenIds workGroups before =
      .error status after) :
    RecordsRuns before after ∨
      ∃ ids started earlier group later rest reached,
        Succeeds (startPrefill backend inputBatchSize tokenIds) before ids started ∧
        workGroups = earlier ++ group :: later ∧
        Succeeds (prefillEarlier earlier ids) started rest reached ∧
        group.backend.createPrefillInputBuffers = .ok () ∧
        prefillInternalOn group.buffers group.backend (rest.take group.prefillLength) reached =
          .error status after := by
  rw [prefillOn] at stopped
  cases starts : startPrefill backend inputBatchSize tokenIds before with
  | error refused failed =>
      rw [bind_of_error starts] at stopped
      cases stopped
      exact .inl (recordsRuns_of_sameState
        ((ends_iff_of_error starts).mp (keeps_startPrefill _ _ _).ends))
  | ok ids started =>
      rw [bind_of_ok starts] at stopped
      have start := startPrefill_records starts
      cases groups : prefillGroupsOn workGroups ids started with
      | error refused failed =>
          rw [bind_of_error groups] at stopped
          cases stopped
          rcases prefillGroupsOn_error groups with
            recorded | ⟨earlier, group, later, rest, reached, split, reaches, created, fails⟩
          · exact .inl (start.trans recorded)
          · exact .inr ⟨ids, started, earlier, group, later, rest, reached, starts, split,
              reaches, created, fails⟩
      | ok _ prefilled =>
          rw [bind_of_ok groups] at stopped
          have kept : Keeps recordedState
              (returnIfError backend.cleanupMultiModalEmbeddings) prefilled :=
            keeps_returnIfError _
          have cleaned := recordsRuns_of_sameState ((ends_iff_of_error stopped).mp kept.ends)
          exact .inl ((start.trans (prefillGroupsOn_records groups)).trans cleaned)

/-- When `PrefillInternal` fails in some work group, `Prefill` ends there; the recorded tokens
and the step are those of the runs exactly when the group did not come to the recording of its
tokens. -/
theorem failedPrefill_recordsRuns_iff {started reached after : CompiledModelExecutor Scalar}
    {backend : Backend Scalar} {inputBatchSize : Nat} {tokenIds ids rest : List Int}
    {earlier : List (WorkGroup Scalar)} {group : WorkGroup Scalar} {status : Status}
    (starts : Succeeds (startPrefill backend inputBatchSize tokenIds) before ids started)
    (reaches : Succeeds (prefillEarlier earlier ids) started rest reached)
    (created : group.backend.createPrefillInputBuffers = .ok ())
    (fails : prefillInternalOn group.buffers group.backend (rest.take group.prefillLength)
      reached = .error status after) (later : List (WorkGroup Scalar)) :
    prefillOn backend inputBatchSize tokenIds (earlier ++ group :: later) before =
        .error status after ∧
      (RecordsRuns before after ↔ ¬ReachesRecording group.buffers group.backend
        (rest.take group.prefillLength) reached) := by
  constructor
  · rw [prefillOn, bind_of_ok starts]
    apply bind_of_error
    rw [prefillGroupsOn_append reaches, prefillGroupsOn, created]
    exact bind_of_error fails _
  · have recorded := (startPrefill_records starts).trans (prefillEarlier_records reaches)
    rcases (ends_iff_of_error fails).mp (prefillInternalOn_ends _ _ _) with
      ⟨early, rfl⟩ | ⟨late, sameRuns, tokens, some, isIds⟩
    · exact iff_of_true recorded early
    · exact iff_of_false (recorded.not_of_recorded sameRuns some isIds)
        (fun early => early late)

/-! ## A run that fails -/

def failingBackend : Backend Unit :=
  { workingBackend [] with compiledModelRun := .error (.internalError "Failed to run.") }

/-- A work group of two ids. -/
def failingGroup : WorkGroup Unit := ⟨2, failingBackend, .available⟩

/-- The executor after the run of its first prefill failed. -/
def afterFailedRun : CompiledModelExecutor Unit :=
  finalState (prefillOn (workingBackend []) 1 [5, 6] [failingGroup]) (tokenExecutor 1)

theorem failedPrefill_recordsRuns_failingGroup :
    prefillOn (workingBackend []) 1 [5, 6] [failingGroup] (tokenExecutor 1) =
        .error (.internalError "Failed to run.") afterFailedRun ∧
      (RecordsRuns (tokenExecutor 1) afterFailedRun ↔
        ¬ReachesRecording .available failingBackend [5, 6] (tokenExecutor 1)) :=
  failedPrefill_recordsRuns_iff (show Succeeds (startPrefill (workingBackend []) 1 [5, 6])
    (tokenExecutor 1) [5, 6] (tokenExecutor 1) from rfl)
    (show Succeeds (prefillEarlier [] [5, 6]) (tokenExecutor 1) [5, 6] (tokenExecutor 1) from rfl)
    rfl rfl []

/-- The first id is recorded and the step is past both, though nothing was run. -/
theorem failedRun_recorded :
    prefillOn (workingBackend []) 1 [5, 6] [failingGroup] (tokenExecutor 1) =
        .error (.internalError "Failed to run.") afterFailedRun ∧
      afterFailedRun.processedTokens.getCopyOfTokens = [[5, 6]] ∧
      afterFailedRun.processedTokens.getStep = 1 ∧ afterFailedRun.currentStep = 2 ∧
      afterFailedRun.modelRuns.length = 0 ∧
      ¬RecordsRuns (tokenExecutor 1) afterFailedRun := by
  refine ⟨rfl, rfl, rfl, rfl, rfl, ?_⟩
  rintro ⟨runs, isRuns, isIds, -⟩
  have noRuns : runs = [] := isRuns.symm
  rw [noRuns] at isIds
  exact absurd (congrArg List.length isIds) (by decide)

end LiteRTLM.Executor.CompiledModelExecutor
