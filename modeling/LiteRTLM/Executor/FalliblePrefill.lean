import LiteRTLM.Executor.MissingRows
import LiteRTLM.Executor.PrefillWorkGroups
import LiteRTLM.Library.Frames

/-!
Contract: a prefill of the static executor, any part of which can fail.

Owns: `Prefill` of a model that takes embeddings, with the outcomes of the operations on
buffers and of the runs; the input buffers of the signatures; where a prefill stops, and
what it then leaves of its lookups and of the pending token.

Does not own: the lookups, the history and the work groups. What a buffer holds before it
is filled does not matter, so each group finds the buffer of its signature as it likes.
-/

namespace LiteRTLM.Executor.FalliblePrefill

open LiteRTLM.Engine
open LiteRTLM.Library
open LiteRTLM.Components.EmbeddingLookup
open LiteRTLM.Components.EmbeddingLookup.EmbeddingLookupManager
open LiteRTLM.Executor.EmbeddingInputs
open LiteRTLM.Executor.PrefillWorkGroups

variable {Scalar : Type}

/-! ## The executor -/

/-- The entry of a signature in `prefill_input_buffers_`: `{}`, or its buffers. -/
inductive InputBuffers where
  | empty
  | created
deriving DecidableEq

/-- The members of the executor that its prefills use. -/
structure PrefillExecutor (Scalar : Type) where
  prefillSignatureMap : SortedPrefillSignatureMap
  outputBatchSize : Nat
  ranDecode : Bool
  currentStep : Nat
  processedTokens : ProcessedTokens Scalar
  embeddingLookup : EmbeddingLookupManager Scalar
  prefillInputBuffers : String → Option InputBuffers

abbrev PrefillM (Scalar : Type) := EStateM Status (PrefillExecutor Scalar)

/-- The outcomes of the operations that one group uses. -/
structure GroupOutcomes (Scalar : Type) where
  createPrefillInputBuffers : StatusOr Unit
  /-- What buffers that were not created answer. -/
  emptyBuffers : Status
  /-- The size and the lock of the positions, and the initial mask. -/
  inputPositions : StatusOr Unit
  /-- The locks of the buffers that the pending token fills. -/
  fillInputBuffer : StatusOr Unit
  /-- The lock of the embeddings. -/
  inputEmbeddings : StatusOr Unit
  /-- The per-layer embeddings of the span, and the mask. -/
  fillAttentionMask : StatusOr Unit
  /-- The per-layer embedding of the last id; none without such embeddings. -/
  perLayerEmbedding : StatusOr (List Scalar)
  /-- The duplicates of the buffers, and the run. -/
  compiledModelRun : StatusOr Unit

/-- A work group with its ids and the embeddings buffer of its signature. -/
structure WorkGroup (Scalar : Type) where
  prefillSignature : String
  ids : List Int
  input : OutputTensor Scalar
  outcomes : GroupOutcomes Scalar

/-- A call of `Prefill` on a `[inputBatchSize, length]` tensor of ids. Embeddings that were
supplied come with the outcome of referring to their tensor. -/
structure Call (Scalar : Type) where
  inputBatchSize : Nat
  tokenIds : List Int
  vision : Option (StatusOr (List Scalar))
  audio : Option (StatusOr (List Scalar))
  copyKvCacheBuffers : StatusOr Unit
  referTokenIds : StatusOr Unit
  /-- The embeddings buffer of a signature. -/
  input : String → OutputTensor Scalar
  /-- The outcomes of the group with this number. -/
  outcomes : Nat → GroupOutcomes Scalar

/-- The ids of the first batch element. -/
def Call.ids (call : Call Scalar) : List Int :=
  call.tokenIds.take (call.tokenIds.length / call.inputBatchSize)

def Call.groupsAt (call : Call Scalar) (spans : List (String × List Int)) :
    List (WorkGroup Scalar) :=
  spans.mapIdx fun index span => ⟨span.1, span.2, call.input span.1, call.outcomes index⟩

/-- The work groups of the call. `none` is the program's end, or a loop that is still
running. -/
def Call.workGroups (call : Call Scalar) (prefillSignatureMap : SortedPrefillSignatureMap) :
    Option (List (WorkGroup Scalar) × List Int) := do
  let workGroups ← getOptimizedPrefillWorkGroups (call.ids.length + 1) prefillSignatureMap
    call.ids.length
  let (spans, left) ← prefillSpans workGroups call.ids
  return (call.groupsAt spans, left)

/-! ## Prefill -/

/-- `RETURN_IF_ERROR`, `ASSIGN_OR_RETURN`. -/
def returnIfError {α : Type} : StatusOr α → PrefillM Scalar α
  | .ok value => pure value
  | .error status => throw status

def retCheck (condition : Prop) [Decidable condition] (text : String) : PrefillM Scalar Unit :=
  if condition then pure () else throw (.internalError text)

/-- A part of a call that is skipped unless the condition holds. -/
def onlyIf (condition : Prop) [Decidable condition] (program : PrefillM Scalar Unit) :
    PrefillM Scalar Unit :=
  if condition then program else pure ()

/-- A part of a call that asks the embedding lookup. -/
def onLookup {α : Type} (program : ManagerM Scalar α) : PrefillM Scalar α :=
  onPart PrefillExecutor.embeddingLookup
    (fun executor embeddingLookup => { executor with embeddingLookup }) program

/-- Replaces the token history by the result of one of its operations. -/
def updateProcessedTokens
    (operation : ProcessedTokens Scalar → StatusOr (ProcessedTokens Scalar)) :
    PrefillM Scalar Unit := do
  let processedTokens ← returnIfError (operation (← get).processedTokens)
  modify fun executor => { executor with processedTokens }

/-- The buffers of a signature are created at its first use. Its entry is there already
while they are. -/
def createInputBuffers (group : WorkGroup Scalar) : PrefillM Scalar Unit := do
  onlyIf ((← get).prefillInputBuffers group.prefillSignature = none) do
    modify fun executor => { executor with
      prefillInputBuffers :=
        Function.update executor.prefillInputBuffers group.prefillSignature (some .empty) }
    returnIfError group.outcomes.createPrefillInputBuffers
    modify fun executor => { executor with
      prefillInputBuffers :=
        Function.update executor.prefillInputBuffers group.prefillSignature (some .created) }

/-- The positions and the mask of a group. -/
def openInputBuffers (group : WorkGroup Scalar) : PrefillM Scalar Unit := do
  if (← get).prefillInputBuffers group.prefillSignature = some .created then
    returnIfError group.outcomes.inputPositions
  else
    throw group.outcomes.emptyBuffers

/-- The multimodal lookups of embeddings that were supplied. -/
def addCreatedEmbeddings (embeddings : Option (StatusOr (List Scalar))) (specialToken : Int) :
    ManagerM Scalar Unit := do
  match embeddings with
  | none => pure ()
  | some created =>
      if (← get).fullySupportsMultiModal = false then
        throw multiModalNotSupported
      else do
        let embedding ← EmbeddingLookupManager.returnIfError created
        addEmbeddings (some embedding) specialToken

/-- `UpdateMultiModalEmbeddings`, when a tensor may not be referred to. -/
def updateCreatedEmbeddings (call : Call Scalar) : ManagerM Scalar Unit := do
  addCreatedEmbeddings call.vision ExecutorVisionData.specialToken
  addCreatedEmbeddings call.audio ExecutorAudioData.specialToken

/-- The switch from decode back to prefill keeps the first candidate. -/
def reduceToPrefill (call : Call Scalar) : PrefillM Scalar Unit := do
  onlyIf (← get).ranDecode do
    modify fun executor => { executor with ranDecode := false }
    onlyIf ((← get).outputBatchSize > 1) do
      updateProcessedTokens fun processed => processed.reduceTokenCandidates 0
      returnIfError call.copyKvCacheBuffers

variable [Zero Scalar]

/-- The pending token, if there is one, fills the first row and is marked as processed. -/
def feedPendingInputToken (rawId : Int → Scalar) (group : WorkGroup Scalar)
    (token : List (TokenData Scalar)) : PrefillM Scalar (OutputTensor Scalar) :=
  if token = [] then pure group.input
  else do
    returnIfError group.outcomes.fillInputBuffer
    let filled ← returnIfError (fillInputBufferWithToken rawId false token group.input)
    updateProcessedTokens ProcessedTokens.markPendingInputTokenAsProcessed
    return filled

def recordIds (front : List Int) : PrefillM Scalar Unit :=
  modify fun executor => { executor with
    currentStep := executor.currentStep + front.length
    processedTokens := executor.processedTokens.addProcessedTokens front }

/-- The embeddings of all ids but the last. -/
def lookUpFront (group : WorkGroup Scalar) (filled : OutputTensor Scalar) (firstRow : Nat) :
    PrefillM Scalar (OutputTensor Scalar) := do
  returnIfError group.outcomes.inputEmbeddings
  onLookup (lookupPrefillSpan group.ids.dropLast filled firstRow)

/-- The mask, and the last id with its embeddings. -/
def lookUpLast (group : WorkGroup Scalar) (last : Int) : PrefillM Scalar (TokenData Scalar) := do
  returnIfError group.outcomes.fillAttentionMask
  let embedding ← onLookup (lookupPrefillToken last)
  let perLayerEmbedding ← returnIfError group.outcomes.perLayerEmbedding
  return ⟨last, embedding, perLayerEmbedding⟩

/-- The last id becomes the pending token, and the model runs. -/
def storeAndRun (group : WorkGroup Scalar) (lastInputToken : TokenData Scalar) :
    PrefillM Scalar Unit := do
  updateProcessedTokens fun processed => processed.addPendingInputToken [lastInputToken]
  modify fun executor => { executor with currentStep := executor.currentStep + 1 }
  returnIfError group.outcomes.compiledModelRun

/-- The lookups of `PrefillInternal`, and all behind them. -/
def lookUpAndRun (group : WorkGroup Scalar) (filled : OutputTensor Scalar) (firstRow : Nat)
    (last : Int) : PrefillM Scalar (OutputTensor Scalar × TokenData Scalar) := do
  let written ← lookUpFront group filled firstRow
  let lastInputToken ← lookUpLast group last
  storeAndRun group lastInputToken
  return (written, lastInputToken)

/-- `PrefillInternal` past its early return. -/
def prefillRun (rawId : Int → Scalar) (group : WorkGroup Scalar)
    (token : List (TokenData Scalar)) (last : Int) : PrefillM Scalar (PrefilledGroup Scalar) := do
  let filled ← feedPendingInputToken rawId group token
  recordIds group.ids.dropLast
  let (written, lastInputToken) ← lookUpAndRun group filled token.length last
  return ⟨token.head?, group.ids, some written, lastInputToken⟩

def prefillInternal (rawId : Int → Scalar) (group : WorkGroup Scalar) :
    PrefillM Scalar (PrefilledGroup Scalar) := do
  openInputBuffers group
  let next := (← get).processedTokens.getNextUnprocessedToken
  retCheck (next.token.length ≤ 1) "pending_input_token.size() <= 1"
  match group.ids.getLast? with
  | none => throw (.internalError "ids is empty")
  | some last =>
      if next.token = [] ∧ group.ids.length = 1 then do
        updateProcessedTokens fun processed =>
          processed.addPendingInputToken [TokenData.ofId last]
        return ⟨none, group.ids, none, TokenData.ofId last⟩
      else
        prefillRun rawId group next.token last

/-- The loop over the work groups. -/
def prefillGroups (rawId : Int → Scalar) :
    List (WorkGroup Scalar) → PrefillM Scalar (List (PrefilledGroup Scalar))
  | [] => pure []
  | group :: rest => do
      createInputBuffers group
      let prefilled ← prefillInternal rawId group
      return prefilled :: (← prefillGroups rawId rest)

def prefill (rawId : Int → Scalar) (call : Call Scalar) :
    PrefillM Scalar (List (PrefilledGroup Scalar)) := do
  reduceToPrefill call
  retCheck (call.inputBatchSize = 1 ∨ call.inputBatchSize = (← get).outputBatchSize)
    "input_batch_size == output_batch_size_"
  retCheck (call.tokenIds.length / call.inputBatchSize > 0) "Prefill token ids must be non-empty."
  onLookup (updateCreatedEmbeddings call)
  returnIfError call.referTokenIds
  match call.workGroups (← get).prefillSignatureMap with
  | none => throw (.internalError "prefill_runner_set is empty")
  | some (groups, left) => do
      let prefilled ← prefillGroups rawId groups
      retCheck (left.length = 0) "Work groups not covering the entire prefill input."
      onLookup cleanupMultiModalEmbeddings
      return prefilled

end LiteRTLM.Executor.FalliblePrefill
