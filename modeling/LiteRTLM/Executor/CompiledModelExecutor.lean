import LiteRTLM.Executor.ProcessedTokens
import LiteRTLM.Library.Machine
import LiteRTLM.Library.Succeeds

/-!
Contract: `LlmLiteRtCompiledModelExecutorStatic`.

Owns: the executor's counters and token history, what each call writes to the
token and position inputs of a model run, and the executor as a machine whose
steps are successful calls.

Does not own: tensor buffers, the KV cache, sampling and embedding tables. A call
takes the outcome of every backend operation it uses from a `Backend`, so the
model covers every backend. The runs of the compiled model are kept as a log.
-/

namespace LiteRTLM.Executor

open LiteRTLM.Engine
open LiteRTLM.Library

variable {Scalar : Type}

/-! ## Inputs and environment -/

/-- The parts of `ModelSignatures` the executor branches on. -/
structure ModelSignatures where
  inputTokens : Bool
  inputEmbeddings : Bool
  inputPerLayerEmbeddings : Bool
  inputAttnMask : Bool
  /-- The first dimension of the decode position buffer. -/
  decodePositionRows : Nat
deriving DecidableEq, Repr

/-- The lookups of one `EmbeddingLookupManager`, as one call meets them. -/
structure EmbeddingLookup (Scalar : Type) where
  lookupPrefillSpan : List Int → StatusOr (List (List Scalar))
  lookupPrefill : Int → StatusOr (List Scalar)
  lookupDecode : Int → StatusOr (List Scalar)

/-- The outcomes of the backend operations one call uses. -/
structure Backend (Scalar : Type) where
  initializeAttentionMask : StatusOr Unit
  fillAttentionMask : Nat → Nat → StatusOr Unit
  fillInputBuffer : StatusOr Unit
  updateMultiModalEmbeddings : StatusOr Unit
  createPrefillInputBuffers : StatusOr Unit
  cleanupMultiModalEmbeddings : StatusOr Unit
  embeddingLookup : EmbeddingLookup Scalar
  perLayerEmbeddingLookup : EmbeddingLookup Scalar
  copyKvCacheBuffers : StatusOr Unit
  compiledModelRun : StatusOr Unit
  maskLogits : StatusOr Unit
  sampleToIds : StatusOr (List Int)

/-- What one input buffer of a run holds for one token. -/
inductive InputValue (Scalar : Type) where
  | tokenId (id : Int)
  | embedding (values : List Scalar)

/-- One token as it is fed to a run. -/
structure FedToken (Scalar : Type) where
  id : Int
  value : InputValue Scalar
  perLayerValue : Option (InputValue Scalar)

/-- One row of a run: its position and the token of each candidate. All
candidates of a row are given the same position. -/
structure InputRow (Scalar : Type) where
  position : Nat
  tokens : List (FedToken Scalar)

/-- A run of the compiled model: its rows, and the history when it ran. -/
structure ModelRun (Scalar : Type) where
  rows : List (InputRow Scalar)
  history : List (List Int)

/-- The members of the executor that its counters depend on. `modelRuns` is a log
of the runs since the last `Reset`. -/
structure CompiledModelExecutor (Scalar : Type) where
  signatures : ModelSignatures
  outputBatchSize : Nat
  ranDecode : Bool
  currentStep : Nat
  processedTokens : ProcessedTokens Scalar
  modelRuns : List (ModelRun Scalar)

abbrev ExecutorM (Scalar : Type) := EStateM Status (CompiledModelExecutor Scalar)

namespace CompiledModelExecutor

/-- A freshly created executor. -/
def initial (signatures : ModelSignatures) (outputBatchSize : Nat) :
    CompiledModelExecutor Scalar where
  signatures := signatures
  outputBatchSize := outputBatchSize
  ranDecode := false
  currentStep := 0
  processedTokens := .initial
  modelRuns := []

/-- `RETURN_IF_ERROR`, `ASSIGN_OR_RETURN`. -/
def returnIfError {α : Type} : StatusOr α → ExecutorM Scalar α
  | .ok value => pure value
  | .error status => throw status

def retCheck (condition : Prop) [Decidable condition] (text : String) : ExecutorM Scalar Unit :=
  if condition then pure () else throw (.internalError text)

/-- A part of a call that is skipped unless the condition holds. -/
def onlyIf (condition : Prop) [Decidable condition] (program : ExecutorM Scalar Unit) :
    ExecutorM Scalar Unit :=
  if condition then program else pure ()

/-- Replaces the token history by the result of one of its operations. -/
def updateProcessedTokens
    (operation : ProcessedTokens Scalar → StatusOr (ProcessedTokens Scalar)) :
    ExecutorM Scalar Unit := do
  let processedTokens ← returnIfError (operation (← get).processedTokens)
  modify fun executor => { executor with processedTokens }

/-- `FillInputBufferWithToken` for one token. -/
def inputValue (isPerLayerEmbedding : Bool) (token : TokenData Scalar) : InputValue Scalar :=
  if token.embedding.isEmpty then .tokenId token.id
  else if isPerLayerEmbedding then .embedding token.perLayerEmbedding
  else .embedding token.embedding

def fillInputBufferWithToken (backend : Backend Scalar) (token : List (TokenData Scalar)) :
    ExecutorM Scalar Unit :=
  if token.isEmpty then
    throw (.invalidArgumentError "Unprocessed token is null.")
  else
    returnIfError backend.fillInputBuffer

/-- A pending token as it is fed. -/
def fedToken (signatures : ModelSignatures) (token : TokenData Scalar) : FedToken Scalar where
  id := token.id
  value := inputValue false token
  perLayerValue :=
    if ¬signatures.inputTokens ∧ signatures.inputPerLayerEmbeddings then
      some (inputValue true token)
    else
      none

def compiledModelRun (backend : Backend Scalar) (rows : List (InputRow Scalar)) :
    ExecutorM Scalar Unit := do
  returnIfError backend.compiledModelRun
  modify fun executor => { executor with
    modelRuns := executor.modelRuns ++ [⟨rows, executor.processedTokens.getCopyOfTokens⟩] }

/-! ## Prefill -/

/-- The embeddings of the ids prefilled in one span; none when ids are fed. -/
def lookupPrefillSpan (backend : Backend Scalar) (signatures : ModelSignatures)
    (ids : List Int) : ExecutorM Scalar (List (FedToken Scalar)) := do
  if signatures.inputTokens then
    return ids.map fun id => ⟨id, .tokenId id, none⟩
  let embeddings ← returnIfError (backend.embeddingLookup.lookupPrefillSpan ids)
  if signatures.inputPerLayerEmbeddings then
    let perLayer ← returnIfError (backend.perLayerEmbeddingLookup.lookupPrefillSpan ids)
    return ids.mapIdx fun index id =>
      ⟨id, .embedding (embeddings.getD index []), some (.embedding (perLayer.getD index []))⟩
  return ids.mapIdx fun index id => ⟨id, .embedding (embeddings.getD index []), none⟩

/-- The last token of a span, with its embeddings. -/
def lastInputToken (backend : Backend Scalar) (signatures : ModelSignatures) (id : Int) :
    ExecutorM Scalar (TokenData Scalar) := do
  if signatures.inputTokens then
    return TokenData.ofId id
  let embedding ← returnIfError (backend.embeddingLookup.lookupPrefill id)
  if signatures.inputPerLayerEmbeddings then
    let perLayerEmbedding ← returnIfError (backend.perLayerEmbeddingLookup.lookupPrefill id)
    return ⟨id, embedding, perLayerEmbedding⟩
  return ⟨id, embedding, []⟩

/-- `PrefillInternal` past its early return: one model run for the pending token
and all ids but the last, which becomes the pending token. -/
def prefillRun (backend : Backend Scalar) (front : List Int) (last : Int) :
    ExecutorM Scalar Unit := do
  let signatures := (← get).signatures
  let next := (← get).processedTokens.getNextUnprocessedToken
  let pendingRows := next.token.map fun token =>
    InputRow.mk next.step [fedToken signatures token]
  onlyIf (next.token ≠ []) do
    fillInputBufferWithToken backend next.token
    updateProcessedTokens ProcessedTokens.markPendingInputTokenAsProcessed
  let firstPosition := (← get).currentStep
  modify fun executor => { executor with
    currentStep := executor.currentStep + front.length
    processedTokens := executor.processedTokens.addProcessedTokens front }
  let fedTokens ← lookupPrefillSpan backend signatures front
  onlyIf signatures.inputAttnMask
    (returnIfError (backend.fillAttentionMask next.step (front.length + next.token.length)))
  let lastToken ← lastInputToken backend signatures last
  updateProcessedTokens fun processed => processed.addPendingInputToken [lastToken]
  modify fun executor => { executor with currentStep := executor.currentStep + 1 }
  compiledModelRun backend
    (pendingRows ++ fedTokens.mapIdx fun index token =>
      InputRow.mk (firstPosition + index) [token])

/-- `PrefillInternal`. Its callers never pass an empty span. -/
def prefillInternal (backend : Backend Scalar) (ids : List Int) : ExecutorM Scalar Unit := do
  onlyIf (← get).signatures.inputAttnMask (returnIfError backend.initializeAttentionMask)
  let next := (← get).processedTokens.getNextUnprocessedToken
  retCheck (next.token.length ≤ 1) "pending_input_token.size() <= 1"
  match ids.getLast? with
  | none => throw (.internalError "ids is empty")
  | some last => do
      if next.token = [] ∧ ids.length = 1 then
        -- nothing to run yet: the only id becomes the pending token
        updateProcessedTokens fun processed =>
          processed.addPendingInputToken [TokenData.ofId last]
      else
        prefillRun backend ids.dropLast last

/-- The loop over the work groups. -/
def prefillGroups : List (Nat × Backend Scalar) → List Int → ExecutorM Scalar Unit
  | [], ids => retCheck (ids.length = 0) "Work groups not covering the entire prefill input."
  | (prefillLength, backend) :: rest, ids => do
      returnIfError backend.createPrefillInputBuffers
      prefillInternal backend (ids.take prefillLength)
      prefillGroups rest (ids.drop prefillLength)

/-- The switch from decode back to prefill keeps the first candidate. -/
def reduceToPrefill (backend : Backend Scalar) : ExecutorM Scalar Unit := do
  onlyIf (← get).ranDecode do
    modify fun executor => { executor with ranDecode := false }
    onlyIf ((← get).outputBatchSize > 1) do
      updateProcessedTokens fun processed => processed.reduceTokenCandidates 0
      returnIfError backend.copyKvCacheBuffers

/-- `Prefill` on a `[inputBatchSize, length]` tensor of ids, with the work groups
its length is split into. -/
def prefill (backend : Backend Scalar) (inputBatchSize : Nat) (tokenIds : List Int)
    (workGroups : List (Nat × Backend Scalar)) : ExecutorM Scalar Unit := do
  reduceToPrefill backend
  retCheck (inputBatchSize = 1 ∨ inputBatchSize = (← get).outputBatchSize)
    "input_batch_size == output_batch_size_"
  let inputLength := tokenIds.length / inputBatchSize
  retCheck (inputLength > 0) "Prefill token ids must be non-empty."
  returnIfError backend.updateMultiModalEmbeddings
  prefillGroups workGroups (tokenIds.take inputLength)
  returnIfError backend.cleanupMultiModalEmbeddings

/-! ## Decode -/

def prepareFirstDecode (backend : Backend Scalar) : ExecutorM Scalar Unit := do
  onlyIf (¬(← get).ranDecode) do
    modify fun executor => { executor with ranDecode := true }
    let outputBatchSize := (← get).outputBatchSize
    onlyIf (outputBatchSize > 1) do
      updateProcessedTokens fun processed => processed.broadcastTokenCandidates outputBatchSize
      returnIfError backend.copyKvCacheBuffers

/-- Looks up the embeddings of a pending token that has none. -/
def lookupDecode (backend : Backend Scalar) (signatures : ModelSignatures)
    (token : TokenData Scalar) : StatusOr (TokenData Scalar) :=
  if signatures.inputEmbeddings ∧ token.embedding.isEmpty then do
    let embedding ← backend.embeddingLookup.lookupDecode token.id
    if signatures.inputPerLayerEmbeddings then
      let perLayerEmbedding ← backend.perLayerEmbeddingLookup.lookupDecode token.id
      return { token with embedding, perLayerEmbedding }
    return { token with embedding }
  else
    return token

/-- The pending token with the embeddings found for it. -/
def withEmbedding (backend : Backend Scalar) (signatures : ModelSignatures)
    (token : TokenData Scalar) : TokenData Scalar :=
  match lookupDecode backend signatures token with
  | .ok found => found
  | .error _ => token

/-- Ids given by the caller replace the pending token, unless the first is negative. -/
def addInputToken (inputs : Option (List Int)) : ExecutorM Scalar Unit := do
  let outputBatchSize := (← get).outputBatchSize
  match inputs with
  | some (first :: rest) => do
      retCheck ((first :: rest).length = outputBatchSize)
        "*input_tensor_size == output_batch_size_ * sizeof(int32_t)"
      onlyIf (first ≥ 0) do
        modify fun executor => { executor with
          processedTokens := executor.processedTokens.invalidatePendingInputToken }
        updateProcessedTokens fun processed =>
          processed.addPendingInputToken ((first :: rest).map TokenData.ofId)
  | _ => pure ()

def getTokenToDecode (backend : Backend Scalar) (inputs : Option (List Int)) :
    ExecutorM Scalar (ProcessedTokens.StepAndToken Scalar) := do
  addInputToken inputs
  let signatures := (← get).signatures
  let next := (← get).processedTokens.getNextUnprocessedToken
  let _ ← returnIfError (next.token.mapM (lookupDecode backend signatures))
  modify fun executor => { executor with
    processedTokens :=
      executor.processedTokens.mapPendingInputToken (withEmbedding backend signatures) }
  return (← get).processedTokens.getNextUnprocessedToken

def decodeInternal (backend : Backend Scalar) (step : Nat) (token : List (TokenData Scalar)) :
    ExecutorM Scalar Unit := do
  let signatures := (← get).signatures
  onlyIf (¬signatures.inputTokens ∧ ¬signatures.inputEmbeddings)
    (throw (.invalidArgumentError "Input tokens or embeddings must be provided."))
  fillInputBufferWithToken backend token
  let outputBatchSize := (← get).outputBatchSize
  retCheck (signatures.decodePositionRows = 1 ∨ signatures.decodePositionRows = outputBatchSize)
    "input_pos_type.Layout().Dimensions()[0] == output_batch_size_"
  onlyIf signatures.inputAttnMask do
    returnIfError backend.initializeAttentionMask
    returnIfError (backend.fillAttentionMask step 1)
  compiledModelRun backend [⟨step, token.map (fedToken signatures)⟩]

def consumePendingOrAddProcessedToken (token : List (TokenData Scalar)) :
    ExecutorM Scalar Unit := do
  match (← get).processedTokens.markPendingInputTokenAsProcessed with
  | .ok processedTokens =>
      modify fun executor => { executor with processedTokens }
  | .error status => do
      onlyIf (status.code ≠ .notFound) (throw status)
      modify fun executor => { executor with
        processedTokens := executor.processedTokens.addProcessedTokens (token.map TokenData.id) }

/-- `Decode(inputs, output_logits)`. -/
def decodeInputs (backend : Backend Scalar) (inputs : Option (List Int)) :
    ExecutorM Scalar Unit := do
  prepareFirstDecode backend
  let next ← getTokenToDecode backend inputs
  decodeInternal backend next.step next.token
  consumePendingOrAddProcessedToken next.token
  modify fun executor => { executor with currentStep := next.step + 1 }

def decodeLogits (backend : Backend Scalar) (inputs : Option (List Int)) :
    ExecutorM Scalar Unit := do
  prepareFirstDecode backend
  let next ← getTokenToDecode backend inputs
  decodeInternal backend next.step next.token
  consumePendingOrAddProcessedToken next.token
  returnIfError backend.maskLogits
  modify fun executor => { executor with currentStep := next.step + 1 }

/-- `Decode(output_tokens)`: the sampled ids become the pending tokens. -/
def decode (backend : Backend Scalar) : ExecutorM Scalar Unit := do
  decodeLogits backend none
  let outputTokens ← returnIfError backend.sampleToIds
  let outputBatchSize := (← get).outputBatchSize
  retCheck (outputTokens.length = outputBatchSize)
    "output_tokens_size == output_batch_size_ * sizeof(int32_t)"
  updateProcessedTokens fun processed =>
    processed.addPendingInputToken
      (outputTokens.map fun id => TokenData.ofId (if id < 0 then 0 else id))

/-- `Reset`. The log of runs starts anew with the history. -/
def reset : ExecutorM Scalar Unit := do
  modify fun executor => { executor with currentStep := 0 }
  updateProcessedTokens fun processed => processed.rollBackToStep 0
  modify fun executor => { executor with modelRuns := [] }

/-! ## The executor as a machine -/

inductive Call (Scalar : Type) where
  | prefill (backend : Backend Scalar) (inputBatchSize : Nat) (tokenIds : List Int)
      (workGroups : List (Nat × Backend Scalar))
  | decode (backend : Backend Scalar)
  | decodeLogits (backend : Backend Scalar) (inputs : Option (List Int))
  | decodeInputs (backend : Backend Scalar) (inputs : Option (List Int))
  | reset

def Call.body : Call Scalar → ExecutorM Scalar Unit
  | .prefill backend inputBatchSize tokenIds workGroups =>
      CompiledModelExecutor.prefill backend inputBatchSize tokenIds workGroups
  | .decode backend => CompiledModelExecutor.decode backend
  | .decodeLogits backend inputs => CompiledModelExecutor.decodeLogits backend inputs
  | .decodeInputs backend inputs => CompiledModelExecutor.decodeInputs backend inputs
  | .reset => CompiledModelExecutor.reset

/-- The steps of the machine are the calls that succeed. -/
def machine : Machine (CompiledModelExecutor Scalar) (Call Scalar) where
  Initial := fun executor =>
    ∃ signatures outputBatchSize, executor = initial signatures outputBatchSize
  step := fun executor call =>
    match call.body executor with
    | .ok _ after => some after
    | .error _ _ => none

end CompiledModelExecutor

end LiteRTLM.Executor
