import Mathlib
import LiteRTLM.Executor.FalliblePrefill

/-!
Contract: where a prefill stops, read off its ids and the outcomes it meets.

Owns: the stop of a group, of several, and of a call; and that a prefill fails exactly at
its stop, leaving as many lookups and the pending token that the stop says.

Does not own: what the next prefill makes of it.
-/

namespace LiteRTLM.Executor.FalliblePrefill

open LiteRTLM.Engine
open LiteRTLM.Library
open LiteRTLM.Components.EmbeddingLookup
open LiteRTLM.Components.EmbeddingLookup.EmbeddingLookupManager
open LiteRTLM.Executor.EmbeddingInputs
open LiteRTLM.Executor.PrefillWorkGroups

variable {Scalar : Type}

/-! ## Stops -/

inductive Stop (Scalar : Type) where
  /-- While the buffers of a signature are created. -/
  | creating
  /-- Elsewhere. As many lookups are left as these, and a token may be pending. -/
  | leaving (left : List (EmbeddingLookupMultiModal Scalar)) (isPending : Bool)

instance (floats : Nat) (tokens : List Int) (lookup : EmbeddingLookupMultiModal Scalar) :
    Decidable (ShortOf floats tokens lookup) :=
  inferInstanceAs (Decidable (_ < _))

/-- The stop of a group behind its pending token. -/
def lookUpStop (floats : Nat) (lookups : List (EmbeddingLookupMultiModal Scalar))
    (group : WorkGroup Scalar) : Option (Stop Scalar) :=
  let outcomes := group.outcomes
  let behindFront := afterCall floats lookups (.span group.ids.dropLast)
  if ¬outcomes.inputEmbeddings.isOk ∨
      ∃ lookup ∈ lookups, ShortOf floats group.ids.dropLast lookup then
    some (.leaving lookups false)
  else if ¬outcomes.fillAttentionMask.isOk ∨ ¬outcomes.perLayerEmbedding.isOk ∨
      ∃ lookup ∈ behindFront, ShortOf floats group.ids.getLast?.toList lookup then
    some (.leaving behindFront false)
  else if ¬outcomes.compiledModelRun.isOk then
    some (.leaving behindFront true)
  else
    none

/-- The stop of a group that finds these lookups. -/
def groupStop (floats : Nat) (isCreated isPending : Bool)
    (lookups : List (EmbeddingLookupMultiModal Scalar)) (group : WorkGroup Scalar) :
    Option (Stop Scalar) :=
  if isCreated = false ∧ ¬group.outcomes.createPrefillInputBuffers.isOk then
    some .creating
  else if ¬group.outcomes.inputPositions.isOk then
    some (.leaving lookups isPending)
  else if isPending = false ∧ group.ids.length = 1 then
    none
  else if isPending = true ∧ ¬group.outcomes.fillInputBuffer.isOk then
    some (.leaving lookups isPending)
  else
    lookUpStop floats lookups group

/-- The stop of several groups: the first one among theirs. Behind a group its buffers are
created and a token is pending. -/
def groupsStop (floats : Nat) :
    (String → Bool) → Bool → List (EmbeddingLookupMultiModal Scalar) →
      List (WorkGroup Scalar) → Option (Stop Scalar)
  | _, _, _, [] => none
  | isCreated, isPending, lookups, group :: rest =>
      match groupStop floats (isCreated group.prefillSignature) isPending lookups group with
      | some stop => some stop
      | none => groupsStop floats (Function.update isCreated group.prefillSignature true) true
          (afterCalls floats lookups (groupCalls isPending group.ids)) rest

/-- Embeddings that were supplied, when their tensor can be referred to. -/
def referred (embeddings : Option (StatusOr (List Scalar))) : Option (List Scalar) :=
  embeddings.bind Except.toOption

/-- The lookups of the embeddings that a call supplies. -/
def Call.ownLookups (call : Call Scalar) : List (EmbeddingLookupMultiModal Scalar) :=
  suppliedLookups (referred call.vision) (referred call.audio)

/-- Embeddings were supplied whose tensor cannot be referred to. -/
def Unreferred (embeddings : Option (StatusOr (List Scalar))) : Prop :=
  ∃ created ∈ embeddings, ¬created.isOk

instance (embeddings : Option (StatusOr (List Scalar))) : Decidable (Unreferred embeddings) :=
  match embeddings with
  | none => isFalse (by simp [Unreferred])
  | some created => decidable_of_iff (¬created.isOk) (by simp [Unreferred])

namespace PrefillExecutor

/-- The signatures that have an entry. -/
def isCreated (executor : PrefillExecutor Scalar) (prefillSignature : String) : Bool :=
  (executor.prefillInputBuffers prefillSignature).isSome

def isPending (executor : PrefillExecutor Scalar) : Bool :=
  executor.processedTokens.hasPendingInputToken

/-- The multimodal lookups that are left. -/
def lookups (executor : PrefillExecutor Scalar) : List (EmbeddingLookupMultiModal Scalar) :=
  executor.embeddingLookup.multiModalEmbeddingLookups

/-- The caches of several candidates are reduced to one. -/
def Reduces (executor : PrefillExecutor Scalar) : Prop :=
  executor.ranDecode = true ∧ executor.outputBatchSize > 1

instance (executor : PrefillExecutor Scalar) : Decidable executor.Reduces :=
  inferInstanceAs (Decidable (_ ∧ _))

end PrefillExecutor

/-- A tensor of ids that the executor takes. -/
def Call.Accepted (call : Call Scalar) (outputBatchSize : Nat) : Prop :=
  (call.inputBatchSize = 1 ∨ call.inputBatchSize = outputBatchSize) ∧
    call.tokenIds.length / call.inputBatchSize > 0

instance (call : Call Scalar) (outputBatchSize : Nat) :
    Decidable (call.Accepted outputBatchSize) :=
  inferInstanceAs (Decidable (_ ∧ _))

/-- The stop of a call on an executor without lookups. -/
def callStop (executor : PrefillExecutor Scalar) (call : Call Scalar) : Option (Stop Scalar) :=
  if executor.Reduces ∧ ¬call.copyKvCacheBuffers.isOk then
    some (.leaving [] executor.isPending)
  else if ¬call.Accepted executor.outputBatchSize ∨ Unreferred call.vision then
    some (.leaving [] executor.isPending)
  else if Unreferred call.audio ∨ ¬call.referTokenIds.isOk then
    some (.leaving call.ownLookups executor.isPending)
  else
    match call.workGroups executor.prefillSignatureMap with
    | none => some (.leaving call.ownLookups executor.isPending)
    | some (groups, _) => groupsStop executor.embeddingLookup.getFloatsPerToken
        executor.isCreated executor.isPending call.ownLookups groups

/-! ## The invariant of a prefill -/

/-- An executor that prefills. -/
structure Ready (executor : PrefillExecutor Scalar) : Prop where
  multiModal : FullyMultiModal executor.embeddingLookup
  apart : Apart executor.lookups
  single : executor.processedTokens.tokens.length = 1
  pendingFits : ∀ token ∈ executor.processedTokens.first.pendingInputToken,
    PendingFits executor.embeddingLookup token
  created : ∀ prefillSignature, executor.prefillInputBuffers prefillSignature ≠ some .empty

/-- What no prefill changes. -/
structure SameSetup (before after : PrefillExecutor Scalar) : Prop where
  prefillSignatureMap : after.prefillSignatureMap = before.prefillSignatureMap
  outputBatchSize : after.outputBatchSize = before.outputBatchSize
  ranDecode : after.ranDecode = before.ranDecode
  embeddingLookup : after.embeddingLookup =
    { before.embeddingLookup with multiModalEmbeddingLookups := after.lookups }

theorem SameSetup.refl (executor : PrefillExecutor Scalar) : SameSetup executor executor :=
  ⟨rfl, rfl, rfl, rfl⟩

theorem SameSetup.trans {before between after : PrefillExecutor Scalar}
    (first : SameSetup before between) (second : SameSetup between after) :
    SameSetup before after where
  prefillSignatureMap := second.prefillSignatureMap.trans first.prefillSignatureMap
  outputBatchSize := second.outputBatchSize.trans first.outputBatchSize
  ranDecode := second.ranDecode.trans first.ranDecode
  embeddingLookup := by rw [second.embeddingLookup, first.embeddingLookup]

theorem SameSetup.floats {before after : PrefillExecutor Scalar} (same : SameSetup before after) :
    after.embeddingLookup.getFloatsPerToken = before.embeddingLookup.getFloatsPerToken := by
  rw [same.embeddingLookup]
  rfl

def PrefillExecutor.withLookups (executor : PrefillExecutor Scalar)
    (left : List (EmbeddingLookupMultiModal Scalar)) : PrefillExecutor Scalar :=
  { executor with
    embeddingLookup := { executor.embeddingLookup with multiModalEmbeddingLookups := left } }

@[simp]
theorem lookups_withLookups (executor : PrefillExecutor Scalar)
    (left : List (EmbeddingLookupMultiModal Scalar)) :
    (executor.withLookups left).lookups = left := rfl

theorem withLookups_withLookups (executor : PrefillExecutor Scalar)
    (earlier left : List (EmbeddingLookupMultiModal Scalar)) :
    (executor.withLookups earlier).withLookups left = executor.withLookups left := rfl

@[simp]
theorem floats_withLookups (executor : PrefillExecutor Scalar)
    (left : List (EmbeddingLookupMultiModal Scalar)) :
    (executor.withLookups left).embeddingLookup.getFloatsPerToken =
      executor.embeddingLookup.getFloatsPerToken := rfl

/-- Of a stopped prefill as much is left as its stop says. -/
def Leaves (before after : PrefillExecutor Scalar) : Stop Scalar → Prop
  | .creating => True
  | .leaving left isPending =>
      Ready after ∧ SameSetup before after ∧ after.isPending = isPending ∧
        (after.lookups = [] ↔ left = []) ∧
        ∀ prefillSignature, before.isCreated prefillSignature = true →
          after.isCreated prefillSignature = true

/-- A part of a prefill that did not stop leaves these lookups and a pending token. -/
structure Completed (before after : PrefillExecutor Scalar)
    (left : List (EmbeddingLookupMultiModal Scalar)) : Prop where
  ready : Ready after
  sameSetup : SameSetup before after
  buffers : after.prefillInputBuffers = before.prefillInputBuffers
  isPending : after.isPending = true
  lookups : after.lookups = left

variable {executor : PrefillExecutor Scalar}

section Parts

variable {returned : Unit → PrefillExecutor Scalar → Prop}
  {failed : Status → PrefillExecutor Scalar → Prop}

theorem ends_returnIfError {α : Type} (status : StatusOr α)
    {returned : α → PrefillExecutor Scalar → Prop} :
    Ends (returnIfError status) executor returned failed ↔
      (∀ value, status = .ok value → returned value executor) ∧
        ∀ error, status = .error error → failed error executor := by
  cases status with
  | ok value => simp [returnIfError]
  | error error => simp [returnIfError]

/-- An outcome without a value. -/
theorem ends_outcome {α : Type} (outcome : StatusOr α)
    {returned : α → PrefillExecutor Scalar → Prop}
    (onReturn : outcome.isOk = true → ∀ value, outcome = .ok value → returned value executor)
    (onFailure : ¬outcome.isOk = true → ∀ error, failed error executor) :
    Ends (returnIfError outcome) executor returned failed := by
  rw [ends_returnIfError]
  constructor
  · intro value isOk
    exact onReturn (by rw [isOk]; rfl) value isOk
  · intro error isError
    exact onFailure (by rw [isError]; exact Bool.false_ne_true) error

theorem ends_onlyIf (condition : Prop) [Decidable condition] (program : PrefillM Scalar Unit) :
    Ends (onlyIf condition program) executor returned failed ↔
      (condition → Ends program executor returned failed) ∧
        (¬condition → returned () executor) := by
  rw [onlyIf, ends_ite, ends_pure]

theorem ends_retCheck (condition : Prop) [Decidable condition] (text : String) :
    Ends (retCheck condition text) executor returned failed ↔
      (condition → returned () executor) ∧
        (¬condition → failed (.internalError text) executor) := by
  rw [retCheck, ends_ite, ends_pure, ends_throw]

theorem ends_updateProcessedTokens
    (operation : ProcessedTokens Scalar → StatusOr (ProcessedTokens Scalar)) :
    Ends (updateProcessedTokens operation) executor returned failed ↔
      (∀ processedTokens, operation executor.processedTokens = .ok processedTokens →
        returned () { executor with processedTokens }) ∧
        ∀ error, operation executor.processedTokens = .error error → failed error executor := by
  rw [updateProcessedTokens, ends_bind, ends_get, ends_bind, ends_returnIfError]
  exact Iff.rfl

end Parts

/-! ## The parts of a group -/

/-- The entry of the signature holds its buffers. -/
def PrefillExecutor.withBuffers (executor : PrefillExecutor Scalar) (prefillSignature : String) :
    PrefillExecutor Scalar :=
  { executor with
    prefillInputBuffers :=
      Function.update executor.prefillInputBuffers prefillSignature (some .created) }

theorem createInputBuffers_ends (group : WorkGroup Scalar) (ready : Ready executor) :
    Ends (createInputBuffers group) executor
      (fun _ after =>
        ¬(executor.isCreated group.prefillSignature = false ∧
          ¬group.outcomes.createPrefillInputBuffers.isOk) ∧
        after = executor.withBuffers group.prefillSignature)
      (fun _ _ => executor.isCreated group.prefillSignature = false ∧
        ¬group.outcomes.createPrefillInputBuffers.isOk) := by
  rw [createInputBuffers, ends_bind, ends_get, ends_onlyIf]
  constructor
  · intro missing
    have isMissing : executor.isCreated group.prefillSignature = false := by
      rw [PrefillExecutor.isCreated, missing]
      rfl
    rw [ends_bind, ends_modify, ends_bind]
    apply ends_outcome
    · intro isOk _ _
      rw [ends_modify]
      refine ⟨fun fails => fails.2 isOk, ?_⟩
      rw [PrefillExecutor.withBuffers, Function.update_idem]
    · intro fails _
      exact ⟨isMissing, fails⟩
  · intro found
    have isCreated : executor.prefillInputBuffers group.prefillSignature = some .created := by
      cases entry : executor.prefillInputBuffers group.prefillSignature with
      | none => exact absurd entry found
      | some buffers =>
          cases buffers with
          | empty => exact absurd entry (ready.created _)
          | created => rfl
    refine ⟨fun fails => ?_, ?_⟩
    · rw [PrefillExecutor.isCreated, isCreated] at fails
      exact Bool.false_ne_true fails.1.symm
    · rw [PrefillExecutor.withBuffers, ← isCreated, Function.update_eq_self]

theorem Ready.withBuffers (ready : Ready executor) (prefillSignature : String) :
    Ready (executor.withBuffers prefillSignature) where
  multiModal := ready.multiModal
  apart := ready.apart
  single := ready.single
  pendingFits := ready.pendingFits
  created := by
    intro other
    change Function.update executor.prefillInputBuffers prefillSignature _ other ≠ _
    by_cases same : other = prefillSignature
    · rw [same, Function.update_self]
      exact fun isEmpty => by cases isEmpty
    · rw [Function.update_of_ne same]
      exact ready.created other

theorem isCreated_withBuffers (prefillSignature : String) :
    (executor.withBuffers prefillSignature).isCreated =
      Function.update executor.isCreated prefillSignature true := by
  funext other
  change (Function.update executor.prefillInputBuffers prefillSignature _ other).isSome = _
  by_cases same : other = prefillSignature
  · rw [same, Function.update_self, Function.update_self]
    rfl
  · rw [Function.update_of_ne same, Function.update_of_ne same]
    rfl

theorem openInputBuffers_ends (group : WorkGroup Scalar)
    (isCreated : executor.prefillInputBuffers group.prefillSignature = some .created) :
    Ends (openInputBuffers group) executor
      (fun _ after => group.outcomes.inputPositions.isOk = true ∧ after = executor)
      (fun _ after => ¬group.outcomes.inputPositions.isOk = true ∧ after = executor) := by
  rw [openInputBuffers, ends_bind, ends_get, if_pos isCreated]
  exact ends_outcome _ (fun isOk _ _ => ⟨isOk, rfl⟩) (fun fails _ => ⟨fails, rfl⟩)

/-- The executor with another history. -/
def PrefillExecutor.withTokens (executor : PrefillExecutor Scalar) (currentStep : Nat)
    (processedTokens : ProcessedTokens Scalar) : PrefillExecutor Scalar :=
  { executor with currentStep, processedTokens }

theorem Ready.withTokens (ready : Ready executor) (currentStep : Nat)
    {processedTokens : ProcessedTokens Scalar} (single : processedTokens.tokens.length = 1)
    (pendingFits : ∀ token ∈ processedTokens.first.pendingInputToken,
      PendingFits executor.embeddingLookup token) :
    Ready (executor.withTokens currentStep processedTokens) :=
  ⟨ready.multiModal, ready.apart, single, pendingFits, ready.created⟩

theorem Ready.withLookups (ready : Ready executor)
    {left : List (EmbeddingLookupMultiModal Scalar)} (apart : Apart left) :
    Ready (executor.withLookups left) :=
  ⟨ready.multiModal.withLookups left, apart, ready.single, ready.pendingFits, ready.created⟩

theorem Ready.withCall (ready : Ready executor) (lookupCall : LookupCall) :
    Ready (executor.withLookups (afterCall executor.embeddingLookup.getFloatsPerToken
      executor.lookups lookupCall)) :=
  ready.withLookups (afterCall_apart ready.apart lookupCall)

/-- The pending token of a single candidate. -/
theorem Ready.pending (ready : Ready executor) :
    executor.processedTokens.getPendingInputToken =
      executor.processedTokens.first.pendingInputToken.toList :=
  ProcessedTokens.getPendingInputToken_of_single ready.single

theorem not_pending_of_none {processedTokens : ProcessedTokens Scalar}
    (isNone : processedTokens.first.pendingInputToken = none) :
    processedTokens.hasPendingInputToken = false := by
  rw [ProcessedTokens.hasPendingInputToken, isNone]
  rfl

variable [Zero Scalar]

/-- The pending token is fed unless its buffer cannot be locked, and is no longer pending. -/
theorem feedPendingInputToken_ends (rawId : Int → Scalar) (group : WorkGroup Scalar)
    (ready : Ready executor) {rows : Nat} (room : 0 < rows)
    (conforms : group.input.Conforms
      executor.embeddingLookup.textEmbeddingLookup.outputDimensions rows) :
    Ends (feedPendingInputToken rawId group executor.processedTokens.getPendingInputToken)
      executor
      (fun filled after =>
        ¬(executor.isPending = true ∧ ¬group.outcomes.fillInputBuffer.isOk) ∧
        filled.Conforms executor.embeddingLookup.textEmbeddingLookup.outputDimensions rows ∧
        ∃ processedTokens, after = executor.withTokens executor.currentStep processedTokens ∧
          processedTokens.tokens.length = 1 ∧ processedTokens.first.pendingInputToken = none)
      (fun _ after => (executor.isPending = true ∧ ¬group.outcomes.fillInputBuffer.isOk) ∧
        after = executor) := by
  rw [feedPendingInputToken, ready.pending]
  cases pending : executor.processedTokens.first.pendingInputToken with
  | none =>
      have notPending : executor.isPending = false := not_pending_of_none pending
      rw [Option.toList_none, if_pos rfl, ends_pure]
      refine ⟨fun fails => ?_, conforms, executor.processedTokens, rfl, ready.single, pending⟩
      rw [notPending] at fails
      exact Bool.false_ne_true fails.1
  | some token =>
      have isPending : executor.isPending = true := by
        rw [PrefillExecutor.isPending, ProcessedTokens.hasPendingInputToken, pending]
        rfl
      obtain ⟨filled, fills, filledConforms, -⟩ :=
        fillPending_ok rawId (ready.pendingFits token pending) conforms room
      rw [Option.toList_some, if_neg (List.cons_ne_nil _ _), ends_bind]
      apply ends_outcome
      · intro isOk _ _
        rw [fills, ends_bind, ends_returnIfError]
        refine ⟨fun value isFilled => ?_, fun _ isError => by cases isError⟩
        cases isFilled
        rw [ends_bind, ends_updateProcessedTokens]
        constructor
        · intro processedTokens marks
          obtain ⟨-, sameLength, first⟩ :=
            ProcessedTokens.markPendingInputTokenAsProcessed_ok marks
          refine ⟨fun fails => fails.2 isOk, filledConforms, processedTokens, rfl, ?_, ?_⟩
          · rw [sameLength, ready.single]
          · rw [first]
        · intro error refused
          rw [ProcessedTokens.markPendingInputTokenAsProcessed,
            if_pos (show executor.processedTokens.hasPendingInputToken = true from isPending)]
            at refused
          cases refused
      · intro fails _
        exact ⟨⟨isPending, fails⟩, rfl⟩

/-- The span fails when its buffer cannot be locked or a lookup is short; it then removes no
lookup. -/
theorem lookUpFront_ends (group : WorkGroup Scalar) (ready : Ready executor)
    {filled : OutputTensor Scalar} {firstRow rows : Nat}
    (conforms : filled.Conforms
      executor.embeddingLookup.textEmbeddingLookup.outputDimensions rows)
    (room : firstRow + group.ids.dropLast.length ≤ rows) :
    Ends (lookUpFront group filled firstRow) executor
      (fun _ after =>
        ¬(¬group.outcomes.inputEmbeddings.isOk ∨ ∃ lookup ∈ executor.lookups,
          ShortOf executor.embeddingLookup.getFloatsPerToken group.ids.dropLast lookup) ∧
        after = executor.withLookups (afterCall executor.embeddingLookup.getFloatsPerToken
          executor.lookups (.span group.ids.dropLast)))
      (fun _ after =>
        (¬group.outcomes.inputEmbeddings.isOk ∨ ∃ lookup ∈ executor.lookups,
          ShortOf executor.embeddingLookup.getFloatsPerToken group.ids.dropLast lookup) ∧
        ∃ left, left.map (·.specialToken) = executor.lookups.map (·.specialToken) ∧
          after = executor.withLookups left) := by
  rw [lookUpFront, ends_bind]
  apply ends_outcome
  · intro isOk _ _
    rw [onLookup, ends_onPart]
    apply ((lookupPrefillSpan_answers ready.multiModal ready.apart conforms room).and
      (lookupPrefillSpan_remains filled firstRow)).mono
    · intro written after answered
      obtain ⟨⟨enough, -, isAfter⟩, -⟩ := answered
      refine ⟨fun fails => ?_, ?_⟩
      · exact fails.elim (fun notOk => notOk isOk) enough
      · rw [isAfter]
        rfl
    · intro _ after failed
      obtain ⟨short, left, sameTokens, isAfter⟩ := failed
      refine ⟨.inr short, left, sameTokens, ?_⟩
      rw [isAfter]
      rfl
  · intro fails _
    exact ⟨.inl fails, executor.lookups, rfl, rfl⟩

/-- The last id fails when the mask cannot be filled, an embedding is missing or a lookup is
short; it then removes no lookup. -/
theorem lookUpLast_ends (group : WorkGroup Scalar) (last : Int) (ready : Ready executor) :
    Ends (lookUpLast group last) executor
      (fun token after =>
        ¬(¬group.outcomes.fillAttentionMask.isOk ∨ ¬group.outcomes.perLayerEmbedding.isOk ∨
          ∃ lookup ∈ executor.lookups,
            ShortOf executor.embeddingLookup.getFloatsPerToken [last] lookup) ∧
        PendingFits executor.embeddingLookup token ∧
        after = executor.withLookups (afterCall executor.embeddingLookup.getFloatsPerToken
          executor.lookups (.single last)))
      (fun _ after =>
        (¬group.outcomes.fillAttentionMask.isOk ∨ ¬group.outcomes.perLayerEmbedding.isOk ∨
          ∃ lookup ∈ executor.lookups,
            ShortOf executor.embeddingLookup.getFloatsPerToken [last] lookup) ∧
        ∃ left, left.map (·.specialToken) = executor.lookups.map (·.specialToken) ∧
          after = executor.withLookups left) := by
  rw [lookUpLast, ends_bind]
  apply ends_outcome
  · intro maskOk _ _
    rw [ends_bind, onLookup, ends_onPart]
    apply ((lookupPrefillToken_answers ready.multiModal ready.apart last).and
      (lookupPrefillToken_remains last)).mono
    · intro embedding after answered
      obtain ⟨⟨enough, sized, isAfter⟩, -⟩ := answered
      rw [ends_bind]
      apply ends_outcome
      · intro perLayerOk _ _
        rw [ends_pure]
        refine ⟨fun fails => ?_, .inr sized, ?_⟩
        · rcases fails with notOk | notOk | short
          · exact notOk maskOk
          · exact notOk perLayerOk
          · exact enough short
        · rw [isAfter]
          rfl
      · intro fails _
        refine ⟨.inr (.inl fails), afterCall executor.embeddingLookup.getFloatsPerToken
          executor.lookups (.single last), ?_, ?_⟩
        · rw [afterCall, List.map_map]
          rfl
        · rw [isAfter]
          rfl
    · intro _ after failed
      obtain ⟨short, left, sameTokens, isAfter⟩ := failed
      refine ⟨.inr (.inr short), left, sameTokens, ?_⟩
      rw [isAfter]
      rfl
  · intro fails _
    exact ⟨.inl fails, executor.lookups, rfl, rfl⟩

omit [Zero Scalar] in
theorem apart_of_sameTokens {left lookups : List (EmbeddingLookupMultiModal Scalar)}
    (sameTokens : left.map (·.specialToken) = lookups.map (·.specialToken))
    (apart : Apart lookups) : Apart left := by
  constructor
  · rw [sameTokens]
    exact apart.different
  · intro lookup member
    have inside : lookup.specialToken ∈ lookups.map (·.specialToken) := by
      rw [← sameTokens]
      exact List.mem_map_of_mem member
    obtain ⟨other, otherMember, sameToken⟩ := List.mem_map.mp inside
    rw [← sameToken]
    exact apart.negative other otherMember

omit [Zero Scalar] in
theorem eq_nil_of_sameTokens {left lookups : List (EmbeddingLookupMultiModal Scalar)}
    (sameTokens : left.map (·.specialToken) = lookups.map (·.specialToken)) :
    left = [] ↔ lookups = [] := by
  rw [← List.map_eq_nil_iff, sameTokens, List.map_eq_nil_iff]

omit [Zero Scalar] in
/-- The lookups that a group leaves when it runs. -/
theorem afterCalls_run {floats : Nat} {isPending : Bool} {ids : List Int} {last : Int}
    (lookups : List (EmbeddingLookupMultiModal Scalar)) (isLast : ids.getLast? = some last)
    (runs : ¬(isPending = false ∧ ids.length = 1)) :
    afterCalls floats lookups (groupCalls isPending ids) =
      afterCall floats (afterCall floats lookups (.span ids.dropLast)) (.single last) := by
  rw [groupCalls, isLast]
  dsimp only
  rw [if_neg runs]
  rfl

omit [Zero Scalar] in
theorem sameSetup_withTokens (executor : PrefillExecutor Scalar) (currentStep : Nat)
    (processedTokens : ProcessedTokens Scalar) :
    SameSetup executor (executor.withTokens currentStep processedTokens) :=
  ⟨rfl, rfl, rfl, rfl⟩

omit [Zero Scalar] in
theorem sameSetup_withLookups (executor : PrefillExecutor Scalar)
    (left : List (EmbeddingLookupMultiModal Scalar)) :
    SameSetup executor (executor.withLookups left) :=
  ⟨rfl, rfl, rfl, rfl⟩

omit [Zero Scalar] in
/-- A stop is the same seen from an earlier point. -/
theorem Leaves.before {before between after : PrefillExecutor Scalar} {stop : Stop Scalar}
    (leaves : Leaves between after stop) (same : SameSetup before between)
    (created : ∀ prefillSignature, before.isCreated prefillSignature = true →
      between.isCreated prefillSignature = true) :
    Leaves before after stop := by
  cases stop with
  | creating => trivial
  | leaving left isPending =>
      obtain ⟨ready, sameSetup, pending, used, stillCreated⟩ := leaves
      exact ⟨ready, same.trans sameSetup, pending, used,
        fun prefillSignature isCreated => stillCreated _ (created _ isCreated)⟩

omit [Zero Scalar] in
/-- Ids are recorded where no token is pending. -/
theorem Ready.record (ready : Ready executor) {processedTokens : ProcessedTokens Scalar}
    (single : processedTokens.tokens.length = 1)
    (nonePending : processedTokens.first.pendingInputToken = none) (currentStep : Nat)
    (front : List Int) :
    Ready (executor.withTokens currentStep (processedTokens.addProcessedTokens front)) ∧
      (executor.withTokens currentStep
        (processedTokens.addProcessedTokens front)).isPending = false := by
  have stillNone :
      (processedTokens.addProcessedTokens front).first.pendingInputToken = none := by
    rw [ProcessedTokens.addProcessedTokens, ProcessedTokens.first_mapTokens]
    exact nonePending
  refine ⟨ready.withTokens _ ?_ ?_, not_pending_of_none stillNone⟩
  · rw [ProcessedTokens.addProcessedTokens, ProcessedTokens.mapTokens, List.length_map, single]
  · intro token isPending
    rw [stillNone] at isPending
    cases isPending

omit [Zero Scalar] in
/-- A token is added where none is pending, and becomes the pending token. -/
theorem ends_addPending {token : TokenData Scalar} {returned : Unit → PrefillExecutor Scalar → Prop}
    {failed : Status → PrefillExecutor Scalar → Prop} (ready : Ready executor)
    (notPending : executor.isPending = false) (fits : PendingFits executor.embeddingLookup token)
    (onReturn : ∀ processedTokens, (∀ currentStep,
      Completed executor (executor.withTokens currentStep processedTokens) executor.lookups) →
        returned () { executor with processedTokens }) :
    Ends (updateProcessedTokens fun processed => processed.addPendingInputToken [token])
      executor returned failed := by
  rw [ends_updateProcessedTokens]
  constructor
  · intro processedTokens adds
    obtain ⟨-, sameLength, first⟩ := ProcessedTokens.addPendingInputToken_ok adds
    apply onReturn
    intro currentStep
    refine ⟨?_, sameSetup_withTokens _ _ _, rfl, ?_, rfl⟩
    · apply ready.withTokens
      · rw [sameLength, ready.single]
      · intro pending isPending
        rw [first] at isPending
        cases isPending
        exact fits
    · change processedTokens.first.pendingInputToken.isSome = true
      rw [first]
      rfl
  · intro error refused
    have single : ¬[token].length ≠ executor.processedTokens.tokens.length := by
      rw [ready.single]
      exact not_not.mpr rfl
    have none : ¬executor.processedTokens.hasPendingInputToken = true := by
      rw [show executor.processedTokens.hasPendingInputToken = false from notPending]
      exact Bool.false_ne_true
    rw [ProcessedTokens.addPendingInputToken, dif_neg single, if_neg none] at refused
    cases refused

omit [Zero Scalar] in
/-- The last id is stored, also when the run fails. -/
theorem storeAndRun_ends (group : WorkGroup Scalar) {token : TokenData Scalar}
    (ready : Ready executor) (notPending : executor.isPending = false)
    (fits : PendingFits executor.embeddingLookup token) :
    Ends (storeAndRun group token) executor
      (fun _ after => group.outcomes.compiledModelRun.isOk = true ∧
        Completed executor after executor.lookups)
      (fun _ after => ¬group.outcomes.compiledModelRun.isOk = true ∧
        Completed executor after executor.lookups) := by
  rw [storeAndRun, ends_bind]
  apply ends_addPending ready notPending fits
  intro processedTokens completed
  rw [ends_bind, ends_modify]
  exact ends_outcome _ (fun isOk _ _ => ⟨isOk, completed _⟩) (fun fails _ => ⟨fails, completed _⟩)

/-! ## One group -/

/-- What follows the pending token stops where its outcomes and the lookups say. -/
theorem lookUpAndRun_ends (group : WorkGroup Scalar) {filled : OutputTensor Scalar}
    {firstRow rows : Nat} {last : Int} (ready : Ready executor)
    (notPending : executor.isPending = false)
    (conforms : filled.Conforms
      executor.embeddingLookup.textEmbeddingLookup.outputDimensions rows)
    (room : firstRow + group.ids.dropLast.length ≤ rows)
    (isLast : group.ids.getLast? = some last) :
    Ends (lookUpAndRun group filled firstRow last) executor
      (fun _ after =>
        lookUpStop executor.embeddingLookup.getFloatsPerToken executor.lookups group = none ∧
        Completed executor after (afterCall executor.embeddingLookup.getFloatsPerToken
          (afterCall executor.embeddingLookup.getFloatsPerToken executor.lookups
            (.span group.ids.dropLast)) (.single last)))
      (fun _ after => ∃ stop,
        lookUpStop executor.embeddingLookup.getFloatsPerToken executor.lookups group =
          some stop ∧ Leaves executor after stop) := by
  have lastOnly : group.ids.getLast?.toList = [last] := by
    rw [isLast]
    rfl
  unfold lookUpStop
  rw [lastOnly, lookUpAndRun, ends_bind]
  apply (lookUpFront_ends group ready conforms room).mono
  · intro written between front
    obtain ⟨frontOk, rfl⟩ := front
    rw [if_neg frontOk, ends_bind]
    have behindFront := ready.withCall (.span group.ids.dropLast)
    have lookedUp := lookUpLast_ends group last behindFront
    simp only [lookups_withLookups, floats_withLookups, withLookups_withLookups] at lookedUp
    apply lookedUp.mono
    · intro token stored looked
      obtain ⟨lastOk, fits, rfl⟩ := looked
      rw [if_neg lastOk, ends_bind]
      have behindLast := behindFront.withCall (.single last)
      apply (storeAndRun_ends group behindLast notPending fits).mono
      · intro _ after completed
        obtain ⟨isOk, completed⟩ := completed
        rw [if_neg (not_not.mpr isOk), ends_pure]
        exact ⟨rfl, completed.ready, (sameSetup_withLookups _ _).trans completed.sameSetup,
          completed.buffers,
          completed.isPending, completed.lookups⟩
      · intro _ after failed
        obtain ⟨fails, completed⟩ := failed
        rw [if_pos fails]
        refine ⟨_, rfl, completed.ready, (sameSetup_withLookups _ _).trans completed.sameSetup,
          completed.isPending, ?_, ?_⟩
        · rw [completed.lookups]
          exact List.map_eq_nil_iff
        · intro prefillSignature isCreated
          rw [PrefillExecutor.isCreated, completed.buffers]
          exact isCreated
    · intro _ after failed
      obtain ⟨fails, left, sameTokens, rfl⟩ := failed
      rw [if_pos fails]
      exact ⟨_, rfl, behindFront.withLookups (apart_of_sameTokens sameTokens behindFront.apart),
        ⟨rfl, rfl, rfl, rfl⟩, notPending, eq_nil_of_sameTokens sameTokens,
        fun _ isCreated => isCreated⟩
  · intro _ after failed
    obtain ⟨fails, left, sameTokens, rfl⟩ := failed
    rw [if_pos fails]
    exact ⟨_, rfl, ready.withLookups (apart_of_sameTokens sameTokens ready.apart),
      ⟨rfl, rfl, rfl, rfl⟩, notPending, eq_nil_of_sameTokens sameTokens,
      fun _ isCreated => isCreated⟩

/-- A group whose buffers are created stops where its outcomes and the lookups say. -/
theorem prefillInternal_ends (rawId : Int → Scalar) (group : WorkGroup Scalar)
    (ready : Ready executor) (fits : GroupFits executor.embeddingLookup (group.ids, group.input))
    (isCreated : executor.prefillInputBuffers group.prefillSignature = some .created) :
    Ends (prefillInternal rawId group) executor
      (fun _ after =>
        groupStop executor.embeddingLookup.getFloatsPerToken true executor.isPending
          executor.lookups group = none ∧
        Completed executor after (afterCalls executor.embeddingLookup.getFloatsPerToken
          executor.lookups (groupCalls executor.isPending group.ids)))
      (fun _ after => ∃ stop,
        groupStop executor.embeddingLookup.getFloatsPerToken true executor.isPending
          executor.lookups group = some stop ∧ Leaves executor after stop) := by
  obtain ⟨nonempty, rows, conforms, short⟩ := fits
  dsimp only at nonempty conforms short
  have positive := List.length_pos_of_ne_nil nonempty
  have isLast := List.getLast?_eq_some_getLast nonempty
  have noToken : executor.processedTokens.getPendingInputToken = [] ↔
      executor.isPending = false := ProcessedTokens.getPendingInputToken_eq_nil
  have oneToken : executor.processedTokens.getPendingInputToken.length ≤ 1 := by
    rw [ready.pending]
    cases executor.processedTokens.first.pendingInputToken <;> simp
  unfold groupStop
  rw [if_neg (fun fails => Bool.false_ne_true fails.1.symm), prefillInternal, ends_bind]
  apply (openInputBuffers_ends group isCreated).mono
  · intro _ between opened
    obtain ⟨isOk, rfl⟩ := opened
    rw [if_neg (not_not.mpr isOk), ends_bind, ends_get, ends_bind, ends_retCheck]
    refine ⟨fun _ => ?_, fun tooMany => absurd oneToken tooMany⟩
    simp only [isLast, ProcessedTokens.getNextUnprocessedToken, noToken]
    by_cases stored : between.isPending = false ∧ group.ids.length = 1
    · rw [if_pos stored, if_pos stored, ends_bind]
      have noCalls : groupCalls between.isPending group.ids = [] := by
        rw [groupCalls, isLast]
        exact if_pos stored
      rw [noCalls]
      apply ends_addPending ready stored.1 (.inl rfl)
      intro processedTokens completed
      exact ⟨rfl, completed between.currentStep⟩
    · rw [if_neg stored, if_neg stored, afterCalls_run _ isLast stored, prefillRun, ends_bind]
      apply (feedPendingInputToken_ends rawId group ready (by omega) conforms).mono
      · intro filled fed feeds
        obtain ⟨filledOk, filledConforms, processedTokens, rfl, single, nonePending⟩ := feeds
        rw [if_neg filledOk, ends_bind, recordIds, ends_modify, ends_bind]
        obtain ⟨recorded, notPending⟩ := ready.record single nonePending
          (between.currentStep + group.ids.dropLast.length) group.ids.dropLast
        have room : between.processedTokens.getPendingInputToken.length +
            group.ids.dropLast.length ≤ rows := by
          rw [List.length_dropLast]
          omega
        have same := sameSetup_withTokens between
          (between.currentStep + group.ids.dropLast.length)
          (processedTokens.addProcessedTokens group.ids.dropLast)
        apply (lookUpAndRun_ends group recorded notPending filledConforms room isLast).mono
        · intro _ after completed
          obtain ⟨runs, completed⟩ := completed
          exact ⟨runs, completed.ready, same.trans completed.sameSetup, completed.buffers,
            completed.isPending, completed.lookups⟩
        · intro _ after failed
          obtain ⟨stop, stops, leaves⟩ := failed
          exact ⟨stop, stops, leaves.before same fun _ isCreated => isCreated⟩
      · intro _ after failed
        obtain ⟨fails, rfl⟩ := failed
        rw [if_pos fails]
        exact ⟨_, rfl, ready, .refl _, rfl, Iff.rfl, fun _ isCreated => isCreated⟩
  · intro _ after failed
    obtain ⟨fails, rfl⟩ := failed
    rw [if_pos fails]
    exact ⟨_, rfl, ready, .refl _, rfl, Iff.rfl, fun _ isCreated => isCreated⟩

/-! ## All groups -/

omit [Zero Scalar] in
theorem SameSetup.groupFits {before after : PrefillExecutor Scalar} (same : SameSetup before after)
    {group : List Int × OutputTensor Scalar} (fits : GroupFits before.embeddingLookup group) :
    GroupFits after.embeddingLookup group := by
  rw [same.embeddingLookup]
  exact fits

omit [Zero Scalar] in
/-- Buffers that can be created are as good as created. -/
theorem groupStop_created {floats : Nat} {isCreated isPending : Bool}
    {lookups : List (EmbeddingLookupMultiModal Scalar)} {group : WorkGroup Scalar}
    (creates : ¬(isCreated = false ∧ ¬group.outcomes.createPrefillInputBuffers.isOk)) :
    groupStop floats isCreated isPending lookups group =
      groupStop floats true isPending lookups group := by
  have isCreated : ¬(true = false ∧ ¬group.outcomes.createPrefillInputBuffers.isOk) :=
    fun fails => Bool.false_ne_true fails.1.symm
  rw [groupStop, groupStop, if_neg creates, if_neg isCreated]

/-- The groups stop where the first of them does. -/
theorem prefillGroups_ends (rawId : Int → Scalar) {groups : List (WorkGroup Scalar)}
    (ready : Ready executor)
    (fits : ∀ group ∈ groups, GroupFits executor.embeddingLookup (group.ids, group.input)) :
    Ends (prefillGroups rawId groups) executor
      (fun _ after =>
        groupsStop executor.embeddingLookup.getFloatsPerToken executor.isCreated
          executor.isPending executor.lookups groups = none ∧
        Ready after ∧ SameSetup executor after ∧
        (∀ prefillSignature, after.isCreated prefillSignature = true ↔
          executor.isCreated prefillSignature = true ∨
            ∃ group ∈ groups, group.prefillSignature = prefillSignature) ∧
        (executor.isPending = true ∨ groups ≠ [] → after.isPending = true))
      (fun _ after => ∃ stop,
        groupsStop executor.embeddingLookup.getFloatsPerToken executor.isCreated
          executor.isPending executor.lookups groups = some stop ∧
        Leaves executor after stop) := by
  induction groups generalizing executor with
  | nil =>
      refine ⟨rfl, ready, .refl _, fun prefillSignature => ?_, fun pending => ?_⟩
      · simp
      · exact pending.resolve_right (fun some => some rfl)
  | cons group rest inductionHypothesis =>
      rw [prefillGroups, ends_bind, groupsStop]
      apply (createInputBuffers_ends group ready).mono
      · intro _ between created
        obtain ⟨creates, rfl⟩ := created
        rw [groupStop_created creates, ends_bind]
        have same : SameSetup executor (executor.withBuffers group.prefillSignature) :=
          ⟨rfl, rfl, rfl, rfl⟩
        apply (prefillInternal_ends rawId group (ready.withBuffers group.prefillSignature)
          (fits group List.mem_cons_self) (Function.update_self ..)).mono
        · intro prefilled behind completed
          obtain ⟨goesOn, completed⟩ := completed
          have sameBehind := same.trans completed.sameSetup
          have isCreated : behind.isCreated =
              Function.update executor.isCreated group.prefillSignature true := by
            rw [← isCreated_withBuffers]
            funext prefillSignature
            rw [PrefillExecutor.isCreated, completed.buffers]
            rfl
          have grown : ∀ prefillSignature, behind.isCreated prefillSignature = true ↔
              group.prefillSignature = prefillSignature ∨
                executor.isCreated prefillSignature = true := by
            intro prefillSignature
            rw [isCreated, Function.update_apply]
            by_cases isOwn : prefillSignature = group.prefillSignature
            · simp [isOwn]
            · simp [isOwn, Ne.symm isOwn]
          have others := inductionHypothesis completed.ready
            (fun other member => sameBehind.groupFits (fits other (List.mem_cons_of_mem _ member)))
          rw [sameBehind.floats, completed.isPending, completed.lookups] at others
          rw [show groupStop executor.embeddingLookup.getFloatsPerToken true executor.isPending
            executor.lookups group = none from goesOn]
          dsimp only
          rw [ends_bind, ← isCreated]
          apply others.mono
          · intro _ after completedRest
            obtain ⟨goesOnRest, readyRest, sameRest, createdRest, pendingRest⟩ := completedRest
            refine ⟨goesOnRest, readyRest, sameBehind.trans sameRest, fun prefillSignature => ?_,
              fun _ => pendingRest (.inl rfl)⟩
            rw [createdRest, grown, List.exists_mem_cons_iff]
            tauto
          · intro _ after failed
            obtain ⟨stop, stops, leaves⟩ := failed
            refine ⟨stop, stops, leaves.before sameBehind fun prefillSignature isCreated => ?_⟩
            exact (grown prefillSignature).mpr (.inr isCreated)
        · intro _ after failed
          obtain ⟨stop, stops, leaves⟩ := failed
          rw [show groupStop executor.embeddingLookup.getFloatsPerToken true executor.isPending
            executor.lookups group = some stop from stops]
          refine ⟨stop, rfl, leaves.before same fun prefillSignature isCreated => ?_⟩
          rw [isCreated_withBuffers, Function.update_apply, isCreated, ite_self]
      · intro _ after failed
        rw [groupStop, if_pos failed]
        exact ⟨.creating, rfl, trivial⟩

/-! ## The work groups of a call -/

omit [Zero Scalar] in
/-- Every signature's embeddings buffer has a row for each of its ids. -/
def Call.Shaped (call : Call Scalar) (executor : PrefillExecutor Scalar) : Prop :=
  ∀ entry ∈ executor.prefillSignatureMap.entries,
    (call.input entry.2).Conforms
      executor.embeddingLookup.textEmbeddingLookup.outputDimensions entry.1.toNat

/-- Groups of single ids when the first is one: the longest signature then holds one id, or
there is no other group. -/
def SinglesAlike (groups : List (WorkGroup Scalar)) : Prop :=
  ∀ first rest, groups = first :: rest → first.ids.length = 1 →
    ∀ group ∈ rest, group.ids.length = 1

omit [Zero Scalar] in
theorem partition_singles {prefillRunnerSet : SortedPrefillSignatureMap} {inputLength : Int}
    {first : String × Int} {rest : List (String × Int)}
    (partition : Partition prefillRunnerSet inputLength (first :: rest)) (single : first.2 = 1) :
    ∀ group ∈ rest, group.2 = 1 := by
  obtain ⟨longest, full, -, isFull | ⟨short, entry, isPositive, isShort, -, isFull⟩⟩ :=
    partition.full
  · intro group member
    have isLongest : ∀ other ∈ first :: rest, other = (longest.2, longest.1) := by
      rw [isFull]
      exact fun other inside => List.eq_of_mem_replicate inside
    rw [isLongest group (List.mem_cons_of_mem _ member), ← single,
      isLongest first List.mem_cons_self]
  · cases full with
    | zero =>
        rw [List.replicate_zero, List.nil_append, List.cons.injEq] at isFull
        rw [isFull.2]
        exact fun group member => absurd member List.not_mem_nil
    | succ full =>
        rw [List.replicate_succ, List.cons_append, List.cons.injEq] at isFull
        rw [isFull.1] at single
        dsimp only at single
        omega

omit [Zero Scalar] in
/-- The groups of a call that is accepted: each fits its buffer, and none of the ids is
left. -/
theorem Call.workGroups_fit {call : Call Scalar} {executor : PrefillExecutor Scalar}
    (nonempty : executor.prefillSignatureMap.entries ≠ [])
    (positive : ∀ entry ∈ executor.prefillSignatureMap.entries, 0 < entry.1)
    (shaped : call.Shaped executor)
    (accepted : call.Accepted executor.outputBatchSize) :
    ∃ groups, call.workGroups executor.prefillSignatureMap = some (groups, []) ∧
      groups ≠ [] ∧ SinglesAlike groups ∧
      ∀ group ∈ groups, GroupFits executor.embeddingLookup (group.ids, group.input) := by
  obtain ⟨workGroups, ran, partition⟩ := getOptimizedPrefillWorkGroups_partition nonempty positive
    (Int.natCast_nonneg call.ids.length)
  obtain ⟨spans, taken, lengths, joined⟩ :=
    prefillSpans_of_sum partition.positive partition.total
  refine ⟨call.groupsAt spans, ?_, ?_, ?_, ?_⟩
  · unfold Call.workGroups
    rw [ran _ (by omega), Option.bind_eq_bind, Option.bind_some, taken]
    rfl
  · intro none
    rw [Call.groupsAt, List.mapIdx_eq_nil_iff] at none
    rw [none, List.flatMap_nil] at joined
    have length : call.ids.length = call.tokenIds.length / call.inputBatchSize := by
      rw [Call.ids, List.length_take, Nat.min_eq_left (Nat.div_le_self _ _)]
    have some := accepted.2
    rw [← length, ← joined] at some
    exact absurd some (Nat.lt_irrefl 0)
  · cases spans with
    | nil =>
        intro first rest isCons
        cases isCons
    | cons firstSpan restSpans =>
        intro first rest isCons single group member
        rw [Call.groupsAt, List.mapIdx_cons, List.cons.injEq] at isCons
        rw [← isCons.1] at single
        rw [← isCons.2, List.mem_mapIdx] at member
        obtain ⟨index, inBounds, rfl⟩ := member
        rw [List.map_cons] at lengths
        rw [← lengths] at partition
        have isSingle := partition_singles partition (by dsimp only at single ⊢; omega) _
          (List.mem_map_of_mem (List.getElem_mem inBounds))
        dsimp only at isSingle ⊢
        omega
  · intro group member
    rw [Call.groupsAt, List.mem_mapIdx] at member
    obtain ⟨index, inBounds, rfl⟩ := member
    have isGroup : (spans[index].1, (spans[index].2.length : Int)) ∈ workGroups := by
      rw [← lengths]
      exact List.mem_map_of_mem (List.getElem_mem inBounds)
    obtain ⟨entry, isEntry, sameName, holds⟩ := partition.fits _ isGroup
    have some := partition.positive _ isGroup
    dsimp only at sameName holds some ⊢
    have nonempty : spans[index].2 ≠ [] := List.ne_nil_of_length_pos (by omega)
    have short : spans[index].2.length ≤ entry.1.toNat := by omega
    refine ⟨nonempty, entry.1.toNat, ?_, short⟩
    rw [← sameName]
    exact shaped entry isEntry

/-! ## A call -/

/-- An executor between two prefills, with nothing left of earlier ones. -/
structure Sound (executor : PrefillExecutor Scalar) : Prop where
  multiModal : FullyMultiModal executor.embeddingLookup
  noLookups : executor.lookups = []
  single : ¬executor.Reduces → executor.processedTokens.tokens.length = 1
  pendingFits : ∀ token ∈ executor.processedTokens.first.pendingInputToken,
    PendingFits executor.embeddingLookup token
  created : ∀ prefillSignature, executor.prefillInputBuffers prefillSignature ≠ some .empty
  signatures : executor.prefillSignatureMap.entries ≠ []
  lengths : ∀ entry ∈ executor.prefillSignatureMap.entries, 0 < entry.1

/-- What a call does not change, whether it fails or not. -/
structure SameModel (before after : PrefillExecutor Scalar) : Prop where
  prefillSignatureMap : after.prefillSignatureMap = before.prefillSignatureMap
  outputBatchSize : after.outputBatchSize = before.outputBatchSize
  embeddingLookup : after.embeddingLookup =
    { before.embeddingLookup with multiModalEmbeddingLookups := after.lookups }

omit [Zero Scalar] in
theorem SameModel.refl (executor : PrefillExecutor Scalar) : SameModel executor executor :=
  ⟨rfl, rfl, rfl⟩

omit [Zero Scalar] in
theorem SameModel.trans {before between after : PrefillExecutor Scalar}
    (first : SameModel before between) (second : SameModel between after) :
    SameModel before after where
  prefillSignatureMap := second.prefillSignatureMap.trans first.prefillSignatureMap
  outputBatchSize := second.outputBatchSize.trans first.outputBatchSize
  embeddingLookup := by rw [second.embeddingLookup, first.embeddingLookup]

omit [Zero Scalar] in
theorem SameSetup.sameModel {before after : PrefillExecutor Scalar}
    (same : SameSetup before after) : SameModel before after :=
  ⟨same.prefillSignatureMap, same.outputBatchSize, same.embeddingLookup⟩

omit [Zero Scalar] in
theorem apart_nil : Apart ([] : List (EmbeddingLookupMultiModal Scalar)) :=
  ⟨List.nodup_nil, fun _ member => absurd member List.not_mem_nil⟩

/-- What the first part of a call leaves. -/
structure Reduced (before after : PrefillExecutor Scalar) : Prop where
  ready : Ready after
  sameModel : SameModel before after
  noLookups : after.lookups = []
  prefilling : after.ranDecode = false
  isPending : after.isPending = before.isPending
  buffers : after.prefillInputBuffers = before.prefillInputBuffers

omit [Zero Scalar] in
theorem reduceToPrefill_ends (call : Call Scalar) (sound : Sound executor) :
    Ends (reduceToPrefill call) executor
      (fun _ after => ¬(executor.Reduces ∧ ¬call.copyKvCacheBuffers.isOk) ∧
        Reduced executor after)
      (fun _ after => (executor.Reduces ∧ ¬call.copyKvCacheBuffers.isOk) ∧
        Reduced executor after) := by
  have apart : Apart executor.lookups := by
    rw [sound.noLookups]
    exact apart_nil
  have reduced : ∀ processedTokens : ProcessedTokens Scalar,
      processedTokens.tokens.length = 1 →
      processedTokens.first = executor.processedTokens.first →
      Reduced executor { executor with ranDecode := false, processedTokens } := by
    intro processedTokens single sameFirst
    refine ⟨⟨sound.multiModal, apart, single, ?_, sound.created⟩, ⟨rfl, rfl, rfl⟩,
      sound.noLookups, rfl, ?_, rfl⟩
    · rw [sameFirst]
      exact sound.pendingFits
    · change processedTokens.hasPendingInputToken = executor.processedTokens.hasPendingInputToken
      rw [ProcessedTokens.hasPendingInputToken, sameFirst]
      rfl
  rw [reduceToPrefill, ends_bind, ends_get, ends_onlyIf]
  constructor
  · intro ranDecode
    rw [ends_bind, ends_modify, ends_bind, ends_get, ends_onlyIf]
    constructor
    · intro several
      rw [ends_bind, ends_updateProcessedTokens]
      constructor
      · intro processedTokens reduces
        obtain ⟨single, sameFirst⟩ := ProcessedTokens.reduceTokenCandidates_zero_ok reduces
        apply ends_outcome
        · intro isOk _ _
          exact ⟨fun fails => fails.2 isOk, reduced _ single sameFirst⟩
        · intro fails _
          exact ⟨⟨⟨ranDecode, several⟩, fails⟩, reduced _ single sameFirst⟩
      · intro error refused
        have inBounds : 0 < executor.processedTokens.tokens.length :=
          List.length_pos_iff.mpr executor.processedTokens.nonempty
        rw [ProcessedTokens.reduceTokenCandidates, dif_pos inBounds] at refused
        cases refused
    · intro one
      exact ⟨fun fails => one fails.1.2,
        reduced _ (sound.single fun reduces => one reduces.2) rfl⟩
  · intro prefilling
    have isFalse : executor.ranDecode = false := Bool.not_eq_true _ ▸ prefilling
    have unchanged := reduced _ (sound.single fun reduces => prefilling reduces.1) rfl
    rw [← isFalse] at unchanged
    exact ⟨fun fails => prefilling fails.1.1, unchanged⟩

omit [Zero Scalar] in
/-- One modality: its lookup is pushed when its tensor can be referred to. -/
theorem addCreatedEmbeddings_ends (embeddings : Option (StatusOr (List Scalar)))
    (specialToken : Int) (manager : EmbeddingLookupManager Scalar)
    (supports : manager.fullySupportsMultiModal = true) :
    Ends (addCreatedEmbeddings embeddings specialToken) manager
      (fun _ after => ¬Unreferred embeddings ∧
        after = { manager with
          multiModalEmbeddingLookups := manager.multiModalEmbeddingLookups ++
            ((referred embeddings).map fun embedding => ⟨embedding, specialToken⟩).toList })
      (fun _ after => Unreferred embeddings ∧ after = manager) := by
  have isSupported : ¬manager.fullySupportsMultiModal = false := by
    rw [supports]
    exact Bool.true_eq_false_eq_False
  cases embeddings with
  | none => exact ⟨by simp [Unreferred], by simp [referred]⟩
  | some created =>
      cases created with
      | ok embedding =>
          rw [addCreatedEmbeddings, ends_bind, ends_get, if_neg isSupported, ends_bind,
            EmbeddingLookupManager.returnIfError_ok, ends_pure, addEmbeddings, ends_bind,
            ends_get, if_neg isSupported, ends_modify]
          exact ⟨by simp [Unreferred, StatusOr.isOk], rfl⟩
      | error status =>
          rw [addCreatedEmbeddings, ends_bind, ends_get, if_neg isSupported, ends_bind]
          exact ⟨⟨.error status, rfl, Bool.false_ne_true⟩, rfl⟩

omit [Zero Scalar] in
/-- The lookups that are pushed before a tensor that cannot be referred to stay. -/
theorem updateCreatedEmbeddings_ends (call : Call Scalar) {manager : EmbeddingLookupManager Scalar}
    (supports : manager.fullySupportsMultiModal = true)
    (noLookups : manager.multiModalEmbeddingLookups = []) :
    Ends (updateCreatedEmbeddings call) manager
      (fun _ after => ¬Unreferred call.vision ∧ ¬Unreferred call.audio ∧
        after = { manager with multiModalEmbeddingLookups := call.ownLookups })
      (fun _ after => Unreferred call.vision ∧ after = manager ∨
        ¬Unreferred call.vision ∧ Unreferred call.audio ∧
          after = { manager with multiModalEmbeddingLookups := call.ownLookups }) := by
  rw [updateCreatedEmbeddings, ends_bind]
  apply (addCreatedEmbeddings_ends call.vision ExecutorVisionData.specialToken manager
    supports).mono
  · intro _ between added
    obtain ⟨visionReferred, rfl⟩ := added
    rw [noLookups, List.nil_append]
    apply Ends.mono (addCreatedEmbeddings_ends call.audio ExecutorAudioData.specialToken _ ?_)
    · intro _ after added
      exact ⟨visionReferred, added.1, added.2⟩
    · intro _ after failed
      refine .inr ⟨visionReferred, failed.1, ?_⟩
      have noAudio : referred call.audio = none := by
        obtain ⟨created, isCreated, fails⟩ := failed.1
        rw [isCreated]
        cases created with
        | ok embedding => exact absurd rfl fails
        | error status => rfl
      rw [failed.2, Call.ownLookups, suppliedLookups, noAudio, Option.map_none,
        Option.toList_none, List.append_nil]
    · exact supports
  · intro _ after failed
    exact .inl failed

/-- Of a call that failed as much is left as its stop says. With no lookup left the
executor is as between two calls. -/
def StopLeaves (before after : PrefillExecutor Scalar) : Stop Scalar → Prop
  | .creating => True
  | .leaving left isPending =>
      SameModel before after ∧ after.ranDecode = false ∧ after.isPending = isPending ∧
        (left = [] → Sound after) ∧
        ∀ prefillSignature, before.isCreated prefillSignature = true →
          after.isCreated prefillSignature = true

/-- What a call that succeeds leaves. -/
structure Succeeded (before after : PrefillExecutor Scalar) (groups : List (WorkGroup Scalar)) :
    Prop where
  sound : Sound after
  sameModel : SameModel before after
  prefilling : after.ranDecode = false
  isPending : after.isPending = true
  created : ∀ prefillSignature, after.isCreated prefillSignature = true ↔
    before.isCreated prefillSignature = true ∨
      ∃ group ∈ groups, group.prefillSignature = prefillSignature

omit [Zero Scalar] in
/-- A prefill without lookups leaves the executor as between two calls. -/
theorem Ready.sound {before after : PrefillExecutor Scalar} (ready : Ready after)
    (noLookups : after.lookups = []) (sound : Sound before)
    (sameMap : after.prefillSignatureMap = before.prefillSignatureMap) : Sound after where
  multiModal := ready.multiModal
  noLookups := noLookups
  single := fun _ => ready.single
  pendingFits := ready.pendingFits
  created := ready.created
  signatures := by
    rw [sameMap]
    exact sound.signatures
  lengths := by
    rw [sameMap]
    exact sound.lengths

omit [Zero Scalar] in
theorem isCreated_of_buffers {before after : PrefillExecutor Scalar}
    (buffers : after.prefillInputBuffers = before.prefillInputBuffers) :
    after.isCreated = before.isCreated := by
  funext prefillSignature
  rw [PrefillExecutor.isCreated, buffers]
  rfl

omit [Zero Scalar] in
/-- A stop in front of the groups. -/
theorem Reduced.stopLeaves {before between : PrefillExecutor Scalar} (sound : Sound before)
    (reduced : Reduced before between) {left : List (EmbeddingLookupMultiModal Scalar)}
    (apart : Apart left) :
    StopLeaves before (between.withLookups left) (.leaving left before.isPending) := by
  have ready := reduced.ready.withLookups apart
  refine ⟨reduced.sameModel.trans (sameSetup_withLookups _ _).sameModel, reduced.prefilling,
    reduced.isPending, fun noLookups => ?_, fun prefillSignature isCreated => ?_⟩
  · exact ready.sound noLookups sound reduced.sameModel.prefillSignatureMap
  · change between.isCreated prefillSignature = true
    rw [isCreated_of_buffers reduced.buffers]
    exact isCreated

/-- The groups of a call, behind its first part. -/
theorem Reduced.prefillGroups_ends {before between : PrefillExecutor Scalar}
    (reduced : Reduced before between) (sound : Sound before) (rawId : Int → Scalar)
    {groups : List (WorkGroup Scalar)} (some : groups ≠ [])
    (fits : ∀ group ∈ groups, GroupFits before.embeddingLookup (group.ids, group.input))
    {left : List (EmbeddingLookupMultiModal Scalar)} (apart : Apart left) :
    Ends (prefillGroups rawId groups) (between.withLookups left)
      (fun _ after =>
        groupsStop before.embeddingLookup.getFloatsPerToken before.isCreated before.isPending
          left groups = none ∧ Succeeded before (after.withLookups []) groups)
      (fun _ after => ∃ stop,
        groupsStop before.embeddingLookup.getFloatsPerToken before.isCreated before.isPending
          left groups = Option.some stop ∧ StopLeaves before after stop) := by
  have sameStart := reduced.sameModel.trans (sameSetup_withLookups between left).sameModel
  have sameFloats : (between.withLookups left).embeddingLookup.getFloatsPerToken =
      before.embeddingLookup.getFloatsPerToken := by
    rw [sameStart.embeddingLookup]
    rfl
  have sameCreated : (between.withLookups left).isCreated = before.isCreated :=
    isCreated_of_buffers reduced.buffers
  have samePending : (between.withLookups left).isPending = before.isPending := reduced.isPending
  have startFits : ∀ group ∈ groups,
      GroupFits (between.withLookups left).embeddingLookup (group.ids, group.input) := by
    rw [sameStart.embeddingLookup]
    exact fits
  have ends := FalliblePrefill.prefillGroups_ends rawId (reduced.ready.withLookups apart) startFits
  rw [sameFloats, sameCreated, samePending, lookups_withLookups] at ends
  apply ends.mono
  · intro _ after completed
    obtain ⟨goesOn, ready, same, created, pending⟩ := completed
    have sameAfter := sameStart.trans same.sameModel
    refine ⟨goesOn, ?_, sameAfter.trans (sameSetup_withLookups _ _).sameModel, ?_,
      pending (.inr some), created⟩
    · exact (ready.withLookups apart_nil).sound rfl sound sameAfter.prefillSignatureMap
    · change after.ranDecode = false
      rw [same.ranDecode]
      exact reduced.prefilling
  · intro _ after failed
    obtain ⟨stop, stops, leaves⟩ := failed
    refine ⟨stop, stops, ?_⟩
    cases stop with
    | creating => trivial
    | leaving remaining isPending =>
        obtain ⟨ready, same, pending, used, created⟩ := leaves
        have sameAfter := sameStart.trans same.sameModel
        refine ⟨sameAfter, ?_, pending, fun isNone => ?_, fun prefillSignature isCreated => ?_⟩
        · rw [same.ranDecode]
          exact reduced.prefilling
        · exact ready.sound (used.mpr isNone) sound sameAfter.prefillSignatureMap
        · apply created
          rw [sameCreated]
          exact isCreated

/-- A call fails exactly at its stop. -/
theorem prefill_ends (rawId : Int → Scalar) (call : Call Scalar) (sound : Sound executor)
    (shaped : call.Shaped executor) :
    Ends (prefill rawId call) executor
      (fun _ after => callStop executor call = none ∧
        ∃ groups, call.workGroups executor.prefillSignatureMap = some (groups, []) ∧
          Succeeded executor after groups)
      (fun _ after => ∃ stop, callStop executor call = some stop ∧
        StopLeaves executor after stop) := by
  have ownApart : Apart call.ownLookups := suppliedLookups_apart _ _
  have unchanged : ∀ {between : PrefillExecutor Scalar}, Reduced executor between →
      StopLeaves executor between (.leaving [] executor.isPending) := by
    intro between reduced
    have leaves := reduced.stopLeaves sound apart_nil
    have same : between.withLookups [] = between := by
      rw [← reduced.noLookups]
      rfl
    rw [same] at leaves
    exact leaves
  unfold callStop
  rw [prefill, ends_bind]
  apply (reduceToPrefill_ends call sound).mono
  · intro _ between reduces
    obtain ⟨reduces, reduced⟩ := reduces
    rw [if_neg reduces, ends_bind, ends_get, ends_bind, ends_retCheck,
      reduced.sameModel.outputBatchSize]
    constructor
    · intro batchOk
      rw [ends_bind, ends_retCheck]
      constructor
      · intro some
        have accepted : call.Accepted executor.outputBatchSize := ⟨batchOk, some⟩
        rw [ends_bind, onLookup, ends_onPart]
        apply (updateCreatedEmbeddings_ends call reduced.ready.multiModal.supports
          reduced.noLookups).mono
        · intro _ manager updated
          obtain ⟨visionReferred, audioReferred, rfl⟩ := updated
          have isAccepted : ¬(¬call.Accepted executor.outputBatchSize ∨
              Unreferred call.vision) := by tauto
          rw [if_neg isAccepted, ends_bind]
          apply ends_outcome
          · intro isOk _ _
            have goesOn : ¬(Unreferred call.audio ∨ ¬call.referTokenIds.isOk) := by tauto
            rw [if_neg goesOn, ends_bind, ends_get]
            obtain ⟨groups, areGroups, some, -, fits⟩ :=
              call.workGroups_fit sound.signatures sound.lengths shaped accepted
            have sameGroups : call.workGroups
                (between.withLookups call.ownLookups).prefillSignatureMap =
                  Option.some (groups, []) := by
              rw [← areGroups, ← reduced.sameModel.prefillSignatureMap]
              rfl
            change Ends (match call.workGroups
                (between.withLookups call.ownLookups).prefillSignatureMap with
              | none => _
              | Option.some (groups, left) => _) _ _ _
            rw [sameGroups, areGroups, ends_bind]
            apply (reduced.prefillGroups_ends sound rawId some fits ownApart).mono
            · intro prefilled after completed
              rw [ends_bind, ends_retCheck]
              refine ⟨fun _ => ?_, fun isLeft => absurd rfl isLeft⟩
              exact ⟨completed.1, groups, rfl, completed.2⟩
            · intro _ after failed
              exact failed
          · intro fails _
            rw [if_pos (.inr fails)]
            exact ⟨_, rfl, reduced.stopLeaves sound ownApart⟩
        · intro _ manager failed
          rcases failed with ⟨visionFails, rfl⟩ | ⟨visionReferred, audioFails, rfl⟩
          · rw [if_pos (.inr visionFails)]
            exact ⟨_, rfl, unchanged reduced⟩
          · have isAccepted : ¬(¬call.Accepted executor.outputBatchSize ∨
                Unreferred call.vision) := by tauto
            rw [if_neg isAccepted, if_pos (.inl audioFails)]
            exact ⟨_, rfl, reduced.stopLeaves sound ownApart⟩
      · intro empty
        rw [if_pos (.inl fun accepted => empty accepted.2)]
        exact ⟨_, rfl, unchanged reduced⟩
    · intro otherBatch
      rw [if_pos (.inl fun accepted => otherBatch accepted.1)]
      exact ⟨_, rfl, unchanged reduced⟩
  · intro _ after failed
    obtain ⟨fails, reduced⟩ := failed
    rw [if_pos fails]
    exact ⟨_, rfl, unchanged reduced⟩

end LiteRTLM.Executor.FalliblePrefill
