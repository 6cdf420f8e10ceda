import LiteRTLM.Executor.CompiledModelExecutor

/-!
Contract: `LlmLiteRtNpuCompiledModelExecutor`.

Owns: the executor's counters and token history, the contents of the id, position
and time step buffers of each run, and the executor as a machine whose steps are
successful calls.

Does not own: the compiled models, greedy sampling, the embedding tables, and the
latency counters. A call takes the outcome of every backend operation it uses
from a `NpuBackend`. The runs of the language model are kept as a log.

A write past the end of a buffer ends the process.
-/

namespace LiteRTLM.Executor

open LiteRTLM.Engine
open LiteRTLM.Library

variable {Scalar : Type}

/-! ## Environment -/

/-- The compiled models a prefill or decode step invokes in turn. -/
inductive NpuModel where
  | embedder
  | embedderPerLayer
  | rope
  | mask
  | llm
  | cacheUpdate
deriving DecidableEq, Repr

def NpuModel.failureText : NpuModel → String
  | .embedder => "Failed to run embedder model."
  | .embedderPerLayer => "Failed to run embedder per layer model."
  | .rope => "Failed to run RoPE model."
  | .mask => "Failed to run compiled model."
  | .llm => "Failed to run LLM model."
  | .cacheUpdate => "Failed to run cache update model."

/-- The outcomes of the backend operations one call uses. A failed model run
gives a message. -/
structure NpuBackend (Scalar : Type) where
  updateMultiModalEmbeddings : StatusOr Unit
  cleanupMultiModalEmbeddings : StatusOr Unit
  /-- The locks on the input buffers and their sizes. -/
  lockInputBuffers : StatusOr Unit
  embeddingLookup : EmbeddingLookup Scalar
  modelRun : NpuModel → Except String Unit
  applyGreedySampling : StatusOr Int

/-! ## Input buffers -/

/-- The id, position and time step buffers of a prefill run. -/
structure PrefillInputBuffers where
  inputTokens : List Int
  inputPosition : List Nat
  timeStep : Nat
deriving DecidableEq, Repr

namespace PrefillInputBuffers

/-- The three buffers after `memset`. -/
def cleared (rows : Nat) : PrefillInputBuffers where
  inputTokens := List.replicate rows 0
  inputPosition := List.replicate rows 0
  timeStep := 0

/-- One token is written to a row of the id and position buffers. -/
def writeRow (buffers : PrefillInputBuffers) (row : Nat) (id : Int) (position : Nat) :
    CallResult PrefillInputBuffers :=
  if row < buffers.inputTokens.length ∧ row < buffers.inputPosition.length then
    .ok { buffers with
      inputTokens := buffers.inputTokens.set row id
      inputPosition := buffers.inputPosition.set row position }
  else
    .error (.crash .outOfBoundsWrite)

end PrefillInputBuffers

/-- A prefill run: its buffers, the embeddings written from row 0, the pending
token and the ids the call was given, and the history when it ran. -/
structure NpuPrefillRun (Scalar : Type) where
  buffers : PrefillInputBuffers
  inputEmbeddings : List (List Scalar)
  pending : Option Int
  ids : List Int
  history : List (List Int)

/-- A decode run: its three buffers of one element, and the history when it ran. -/
structure NpuDecodeRun (Scalar : Type) where
  inputToken : Int
  inputPosition : Nat
  timeStep : Nat
  inputEmbedding : List Scalar
  history : List (List Int)

/-! ## Executor -/

/-- The members of the executor that its counters depend on. `prefillRows` is the
length of the prefill signature; `prefillRuns` and `decodeRuns` are logs. -/
structure NpuExecutor (Scalar : Type) where
  useEmbeddingLookupManager : Bool
  hasEmbedderPerLayer : Bool
  prefillRows : Nat
  currentStep : Nat
  processedTokens : ProcessedTokens Scalar
  prefillRuns : List (NpuPrefillRun Scalar)
  decodeRuns : List (NpuDecodeRun Scalar)

abbrev NpuM (Scalar : Type) := EStateM Failure (NpuExecutor Scalar)

namespace NpuExecutor

/-- A freshly created executor. -/
def initial (useEmbeddingLookupManager hasEmbedderPerLayer : Bool) (prefillRows : Nat) :
    NpuExecutor Scalar where
  useEmbeddingLookupManager := useEmbeddingLookupManager
  hasEmbedderPerLayer := hasEmbedderPerLayer
  prefillRows := prefillRows
  currentStep := 0
  processedTokens := .initial
  prefillRuns := []
  decodeRuns := []

/-- The result of an operation on values becomes that of the call. -/
def orFail {α : Type} : CallResult α → NpuM Scalar α
  | .ok value => pure value
  | .error failure => throw failure

/-- `RETURN_IF_ERROR`, `ASSIGN_OR_RETURN`. -/
def returnIfError {α : Type} (result : StatusOr α) : NpuM Scalar α :=
  orFail result.orReturn

def retCheck (condition : Prop) [Decidable condition] (text : String) : NpuM Scalar Unit :=
  if condition then pure () else throw (.status (.internalError text))

/-- A part of a call that is skipped unless the condition holds. -/
def onlyIf (condition : Prop) [Decidable condition] (program : NpuM Scalar Unit) :
    NpuM Scalar Unit :=
  if condition then program else pure ()

/-- Replaces the token history by the result of one of its operations. -/
def updateProcessedTokens
    (operation : ProcessedTokens Scalar → StatusOr (ProcessedTokens Scalar)) :
    NpuM Scalar Unit := do
  let processedTokens ← returnIfError (operation (← get).processedTokens)
  modify fun executor => { executor with processedTokens }

/-- The history is rolled back to the internal step when the two differ. -/
def rollBackToCurrentStep : NpuM Scalar Unit := do
  let executor ← get
  onlyIf (executor.processedTokens.tokenCount ≠ executor.currentStep)
    (updateProcessedTokens fun processed => processed.rollBackToStep executor.currentStep)

/-- One compiled model is run. -/
def invoke (backend : NpuBackend Scalar) (model : NpuModel) : NpuM Scalar Unit :=
  match backend.modelRun model with
  | .ok _ => pure ()
  | .error message => throw (.status (.internalError (model.failureText ++ message)))

/-- The embedders, the rotary embedding, the mask and the language model, in turn. -/
def runModels (backend : NpuBackend Scalar) : NpuM Scalar Unit := do
  let executor ← get
  onlyIf (executor.useEmbeddingLookupManager = false) (invoke backend .embedder)
  onlyIf executor.hasEmbedderPerLayer (invoke backend .embedderPerLayer)
  invoke backend .rope
  invoke backend .mask
  invoke backend .llm

/-! ## Prefill -/

/-- The pending token is written to row 0 at the position that the history gives,
and is processed from then on. -/
def fillPendingInputToken (next : ProcessedTokens.StepAndToken Scalar)
    (buffers : PrefillInputBuffers) : NpuM Scalar PrefillInputBuffers :=
  match next.token with
  | [] => pure buffers
  | pending :: _ => do
      let filled ← orFail (buffers.writeRow 0 pending.id next.step)
      updateProcessedTokens ProcessedTokens.markPendingInputTokenAsProcessed
      return filled

/-- The loop over all ids but the last, from row `inputIdx`. -/
def fillInputTokens : PrefillInputBuffers → Nat → List Int → NpuM Scalar PrefillInputBuffers
  | buffers, _, [] => pure buffers
  | buffers, inputIdx, id :: rest => do
      let filled ← orFail (buffers.writeRow inputIdx id (← get).currentStep)
      modify fun executor => { executor with currentStep := executor.currentStep + 1 }
      fillInputTokens filled (inputIdx + 1) rest

/-- The embeddings of a span, when the lookup manager provides them. -/
def lookupPrefillSpan (backend : NpuBackend Scalar) (ids : List Int) :
    NpuM Scalar (List (List Scalar)) := do
  if (← get).useEmbeddingLookupManager then
    returnIfError (backend.embeddingLookup.lookupPrefillSpan ids)
  else
    return []

/-- The embeddings of one token, when the lookup manager provides them. -/
def lookupToken (lookup : Int → StatusOr (List Scalar)) (id : Int) :
    NpuM Scalar (TokenData Scalar) := do
  if (← get).useEmbeddingLookupManager then
    return { TokenData.ofId id with embedding := ← returnIfError (lookup id) }
  else
    return TokenData.ofId id

/-- The token becomes the pending one and is counted. -/
def addPendingInputToken (token : TokenData Scalar) : NpuM Scalar Unit := do
  updateProcessedTokens fun processed => processed.addPendingInputToken [token]
  modify fun executor => { executor with currentStep := executor.currentStep + 1 }

/-- The embeddings of the pending tokens, when the lookup manager provides them. -/
def pendingEmbeddings (executor : NpuExecutor Scalar) (token : List (TokenData Scalar)) :
    List (List Scalar) :=
  if executor.useEmbeddingLookupManager then
    (token.take 1).map TokenData.embedding
  else
    []

/-- `PrefillInternal`. The space for one id less than none cannot be reserved. -/
def prefillInternal (backend : NpuBackend Scalar) (ids : List Int) : NpuM Scalar Unit := do
  returnIfError backend.lockInputBuffers
  let buffers := PrefillInputBuffers.cleared (← get).prefillRows
  rollBackToCurrentStep
  let next := (← get).processedTokens.getNextUnprocessedToken
  let withPending ← fillPendingInputToken next buffers
  let timed := { withPending with timeStep := next.step }
  match ids.getLast? with
  | none => throw (.crash .allocation)
  | some last => do
      let filled ← fillInputTokens timed (next.token.take 1).length ids.dropLast
      modify fun executor => { executor with
        processedTokens := executor.processedTokens.addProcessedTokens ids.dropLast }
      let embeddings ← lookupPrefillSpan backend ids.dropLast
      addPendingInputToken (← lookupToken backend.embeddingLookup.lookupPrefill last)
      runModels backend
      modify fun executor => { executor with
        prefillRuns := executor.prefillRuns ++
          [{ buffers := filled
             inputEmbeddings := executor.pendingEmbeddings next.token ++ embeddings
             pending := (next.token.map TokenData.id).head?
             ids
             history := executor.processedTokens.getCopyOfTokens }] }
      invoke backend .cacheUpdate

/-- The loop over the work groups. A group longer than the ids left leaves no span
to go on with. -/
def prefillGroups : List (Nat × NpuBackend Scalar) → List Int → NpuM Scalar Unit
  | [], ids => retCheck (ids.length = 0) "Work groups not covering the entire prefill input."
  | (prefillLength, backend) :: rest, ids => do
      prefillInternal backend (ids.take prefillLength)
      if ids.length < prefillLength then
        throw (.crash .outOfBounds)
      else
        prefillGroups rest (ids.drop prefillLength)

/-- `Prefill` on a `[batchSize, length]` tensor of ids, with the work groups its
length is split into. -/
def prefill (backend : NpuBackend Scalar) (batchSize : Nat) (tokenIds : List Int)
    (workGroups : List (Nat × NpuBackend Scalar)) : NpuM Scalar Unit := do
  retCheck (batchSize = 1) "tensor_type.Layout().Dimensions()[0] == 1"
  retCheck (tokenIds.length > 0) "Prefill token ids must be non-empty."
  onlyIf (← get).useEmbeddingLookupManager (returnIfError backend.updateMultiModalEmbeddings)
  prefillGroups workGroups tokenIds
  onlyIf (← get).useEmbeddingLookupManager (returnIfError backend.cleanupMultiModalEmbeddings)

/-! ## Decode -/

def decodeInternal (backend : NpuBackend Scalar) (step : Nat) (token : TokenData Scalar) :
    NpuM Scalar Unit := do
  if token.id = -1 then
    throw (.status (.invalidArgumentError "No id available to be decoded."))
  else do
    returnIfError backend.lockInputBuffers
    runModels backend
    modify fun executor => { executor with
      decodeRuns := executor.decodeRuns ++
        [{ inputToken := token.id
           inputPosition := step
           timeStep := step
           inputEmbedding := (executor.pendingEmbeddings [token]).flatten
           history := executor.processedTokens.getCopyOfTokens }] }
    invoke backend .cacheUpdate

def decode (backend : NpuBackend Scalar) (hasConstraintDecoder : Bool) : NpuM Scalar Unit := do
  if hasConstraintDecoder then
    throw (.status ⟨.unimplemented, "Constrained decoding is not supported on NPU."⟩)
  else do
    rollBackToCurrentStep
    let next := (← get).processedTokens.getNextUnprocessedToken
    match next.token with
    | [] => throw (.status (.invalidArgumentError "No id available to be decoded."))
    | pending :: _ => do
        decodeInternal backend next.step pending
        updateProcessedTokens ProcessedTokens.markPendingInputTokenAsProcessed
        let maxIndex ← returnIfError backend.applyGreedySampling
        addPendingInputToken (← lookupToken backend.embeddingLookup.lookupDecode maxIndex)

/-! ## Reset -/

def reset : NpuM Scalar Unit := do
  modify fun executor => { executor with currentStep := 0 }
  updateProcessedTokens fun processed => processed.rollBackToStep 0

/-! ## The executor as a machine -/

inductive Call (Scalar : Type) where
  | prefill (backend : NpuBackend Scalar) (batchSize : Nat) (tokenIds : List Int)
      (workGroups : List (Nat × NpuBackend Scalar))
  | decode (backend : NpuBackend Scalar) (hasConstraintDecoder : Bool)
  | reset

def Call.body : Call Scalar → NpuM Scalar Unit
  | .prefill backend batchSize tokenIds workGroups =>
      NpuExecutor.prefill backend batchSize tokenIds workGroups
  | .decode backend hasConstraintDecoder => NpuExecutor.decode backend hasConstraintDecoder
  | .reset => NpuExecutor.reset

/-- The steps of the machine are the calls that succeed. -/
def machine : Machine (NpuExecutor Scalar) (Call Scalar) where
  Initial := fun executor =>
    ∃ useEmbeddingLookupManager hasEmbedderPerLayer prefillRows,
      executor = initial useEmbeddingLookupManager hasEmbedderPerLayer prefillRows
  step := fun executor call => stateOnSuccess call.body executor

end NpuExecutor

end LiteRTLM.Executor
