import LiteRTLM.Executor.ConstrainedDecode
import LiteRTLM.Executor.EmbeddingInputs
import LiteRTLM.Library.Parts

/-!
Contract: the compiled-model executors with the contents of their embeddings inputs.

Owns: the static and the dynamic executor of a model that takes embeddings, together
with the lookup manager they own and the embeddings input of every model run.

Does not own: the token history and the counters, which are those of
`CompiledModelExecutor`; its calls run here with the embeddings that the manager finds.
-/

namespace LiteRTLM.Executor

open LiteRTLM.Engine
open LiteRTLM.Library
open LiteRTLM.Components.EmbeddingLookup
open LiteRTLM.Executor.EmbeddingInputs

variable {Scalar : Type}

/-- The embeddings input of a model run, and the tokens its first rows stand for. -/
structure EmbeddingsInput (Scalar : Type) where
  tokens : List Int
  tensor : OutputTensor Scalar

/-- An executor with its `embedding_lookup_` and the embeddings buffer of its decode
signature. `inputs` is a log of the inputs of the model runs. -/
structure EmbeddedExecutor (Scalar : Type) where
  executor : CompiledModelExecutor Scalar
  embeddingLookup : EmbeddingLookupManager Scalar
  decodeInput : OutputTensor Scalar
  inputs : List (EmbeddingsInput Scalar)

abbrev EmbeddedM (Scalar : Type) := EStateM Status (EmbeddedExecutor Scalar)

/-- A work group as a call meets it: the outcomes of the backend and the embeddings
buffer of its signature. -/
structure PrefillGroup (Scalar : Type) where
  prefillLength : Nat
  backend : Backend Scalar
  input : OutputTensor Scalar

namespace EmbeddedExecutor

/-- A part of a call that works on counters and history. -/
def onExecutor {α : Type} (program : ExecutorM Scalar α) : EmbeddedM Scalar α :=
  onPart EmbeddedExecutor.executor (fun state executor => { state with executor }) program

/-- A part of a call that asks the embedding lookup. -/
def onLookup {α : Type} (program : ManagerM Scalar α) : EmbeddedM Scalar α :=
  onPart EmbeddedExecutor.embeddingLookup
    (fun state embeddingLookup => { state with embeddingLookup }) program

/-- The run of the model is given this input. -/
def logInput (input : EmbeddingsInput Scalar) : EmbeddedM Scalar Unit :=
  modify fun state => { state with inputs := state.inputs ++ [input] }

/-- A prefill run with the embeddings that were looked up for it. -/
def withPrefillEmbeddings (backend : Backend Scalar) (span : List (List Scalar))
    (last : List Scalar) : Backend Scalar :=
  { backend with
    embeddingLookup := { backend.embeddingLookup with
      lookupPrefillSpan := fun _ => .ok span
      lookupPrefill := fun _ => .ok last } }

variable [Zero Scalar]

def withDecodeEmbeddings (backend : Backend Scalar) (manager : EmbeddingLookupManager Scalar) :
    Backend Scalar :=
  { backend with
    embeddingLookup := { backend.embeddingLookup with lookupDecode := manager.lookupDecode } }

/-! ## Prefill -/

/-- The tokens the rows of a prefill run stand for. -/
def fedTokens (group : PrefilledGroup Scalar) : List Int :=
  (group.pending.map TokenData.id).toList ++ group.ids.dropLast

def rowsOf (manager : EmbeddingLookupManager Scalar) (tensor : OutputTensor Scalar)
    (first count : Nat) : List (List Scalar) :=
  (List.range count).map fun index =>
    Library.Blocks.block manager.getFloatsPerToken tensor.contents (first + index)

/-- `PrefillInternal`: the lookups, then the run with what they found. -/
def prefillInternal (rawId : Int → Scalar) (backend : Backend Scalar)
    (input : OutputTensor Scalar) (ids : List Int) : EmbeddedM Scalar Unit := do
  let state ← get
  let pending := state.executor.processedTokens.getPendingInputToken.head?
  let group ← onLookup (prefillInternalEmbeddings rawId pending ids input)
  match group.input with
  | none => onExecutor (CompiledModelExecutor.prefillInternal backend ids)
  | some tensor => do
      let span := rowsOf state.embeddingLookup tensor pending.toList.length (ids.length - 1)
      onExecutor (CompiledModelExecutor.prefillInternal
        (withPrefillEmbeddings backend span group.lastInputToken.embedding) ids)
      logInput ⟨fedTokens group, tensor⟩

/-- The loop over the work groups. -/
def prefillGroups (rawId : Int → Scalar) :
    List (PrefillGroup Scalar) → List Int → EmbeddedM Scalar Unit
  | [], ids => onExecutor (CompiledModelExecutor.retCheck (ids.length = 0)
      "Work groups not covering the entire prefill input.")
  | group :: rest, ids => do
      onExecutor (CompiledModelExecutor.returnIfError group.backend.createPrefillInputBuffers)
      prefillInternal rawId group.backend group.input (ids.take group.prefillLength)
      prefillGroups rawId rest (ids.drop group.prefillLength)

/-- `LlmLiteRtCompiledModelExecutorStatic::Prefill` without images and audio. -/
def prefillStatic (rawId : Int → Scalar) (backend : Backend Scalar) (inputBatchSize : Nat)
    (tokenIds : List Int) (workGroups : List (PrefillGroup Scalar)) : EmbeddedM Scalar Unit := do
  onExecutor (CompiledModelExecutor.reduceToPrefill backend)
  let outputBatchSize := (← get).executor.outputBatchSize
  onExecutor (CompiledModelExecutor.retCheck
    (inputBatchSize = 1 ∨ inputBatchSize = outputBatchSize) "input_batch_size == output_batch_size_")
  let inputLength := tokenIds.length / inputBatchSize
  onExecutor (CompiledModelExecutor.retCheck (inputLength > 0)
    "Prefill token ids must be non-empty.")
  onLookup (EmbeddingLookupManager.updateMultiModalEmbeddings none none)
  prefillGroups rawId workGroups (tokenIds.take inputLength)
  onLookup EmbeddingLookupManager.cleanupMultiModalEmbeddings

/-- `LlmLiteRtCompiledModelExecutorDynamic::Prefill`: one run for all ids. -/
def prefillDynamic (rawId : Int → Scalar) (inputBatchSize : Nat) (tokenIds : List Int)
    (group : PrefillGroup Scalar) : EmbeddedM Scalar Unit := do
  onExecutor (CompiledModelExecutor.retCheck (inputBatchSize = 1)
    "tensor_type.Layout().Dimensions()[0] == 1")
  onExecutor (CompiledModelExecutor.retCheck (tokenIds.length / inputBatchSize > 0)
    "Prefill token ids must be non-empty.")
  let pending := (← get).executor.processedTokens.getPendingInputToken
  match tokenIds, pending with
  | [id], [] =>
      onExecutor (CompiledModelExecutor.updateProcessedTokens fun processed =>
        processed.addPendingInputToken [TokenData.ofId id])
  | _, _ => do
      onExecutor (CompiledModelExecutor.returnIfError group.backend.createPrefillInputBuffers)
      prefillInternal rawId group.backend group.input tokenIds

/-! ## Decode -/

/-- `DecodeInternal`: the embeddings of the tokens fill the buffer of the decode
signature. -/
def decodeInternal (rawId : Int → Scalar) (backend : Backend Scalar)
    (next : ProcessedTokens.StepAndToken Scalar) : EmbeddedM Scalar Unit := do
  let filled ← onLookup (EmbeddingLookupManager.returnIfError
    (fillInputBufferWithToken rawId false next.token (← get).decodeInput))
  modify fun state => { state with decodeInput := filled }
  onExecutor (CompiledModelExecutor.decodeInternal backend next.step next.token)
  logInput ⟨next.token.map TokenData.id, filled⟩

/-- The part all decodes share; `finish` is what follows in a call before the step
is counted. -/
def decodeInputs (rawId : Int → Scalar) (backend : Backend Scalar) (inputs : Option (List Int))
    (finish : StatusOr Unit) : EmbeddedM Scalar Unit := do
  let found := withDecodeEmbeddings backend (← get).embeddingLookup
  onExecutor (CompiledModelExecutor.prepareFirstDecode found)
  let next ← onExecutor (CompiledModelExecutor.getTokenToDecode found inputs)
  decodeInternal rawId found next
  onExecutor (CompiledModelExecutor.consumePendingOrAddProcessedToken next.token)
  onExecutor (CompiledModelExecutor.returnIfError finish)
  onExecutor (modify fun executor => { executor with currentStep := next.step + 1 })

/-- `Decode(output_tokens)`: the sampled ids become the pending tokens, without
embeddings. -/
def decode (rawId : Int → Scalar) (backend : Backend Scalar) : EmbeddedM Scalar Unit := do
  decodeInputs rawId backend none backend.maskLogits
  onExecutor do
    let outputTokens ← CompiledModelExecutor.returnIfError backend.sampleToIds
    let outputBatchSize := (← get).outputBatchSize
    CompiledModelExecutor.retCheck (outputTokens.length = outputBatchSize)
      "output_tokens_size == output_batch_size_ * sizeof(int32_t)"
    CompiledModelExecutor.updateProcessedTokens fun processed =>
      processed.addPendingInputToken
        (outputTokens.map fun id => TokenData.ofId (CompiledModelExecutor.validToken id))

/-! ## The executors as machines -/

inductive Call (Scalar : Type) where
  | prefillStatic (backend : Backend Scalar) (inputBatchSize : Nat) (tokenIds : List Int)
      (workGroups : List (PrefillGroup Scalar))
  | prefillDynamic (inputBatchSize : Nat) (tokenIds : List Int) (group : PrefillGroup Scalar)
  | decode (backend : Backend Scalar)
  | decodeLogits (backend : Backend Scalar) (inputs : Option (List Int))
  | decodeInputs (backend : Backend Scalar) (inputs : Option (List Int))

def Call.body (rawId : Int → Scalar) : Call Scalar → EmbeddedM Scalar Unit
  | .prefillStatic backend inputBatchSize tokenIds workGroups =>
      EmbeddedExecutor.prefillStatic rawId backend inputBatchSize tokenIds workGroups
  | .prefillDynamic inputBatchSize tokenIds group =>
      EmbeddedExecutor.prefillDynamic rawId inputBatchSize tokenIds group
  | .decode backend => EmbeddedExecutor.decode rawId backend
  | .decodeLogits backend inputs =>
      EmbeddedExecutor.decodeInputs rawId backend inputs backend.maskLogits
  | .decodeInputs backend inputs => EmbeddedExecutor.decodeInputs rawId backend inputs (.ok ())

/-- A freshly created executor of a model that takes embeddings. -/
structure Fresh (state : EmbeddedExecutor Scalar) : Prop where
  executor : ∃ signatures outputBatchSize,
    signatures.inputTokens = false ∧ signatures.inputEmbeddings = true ∧ 0 < outputBatchSize ∧
      state.executor = .initial signatures outputBatchSize
  noLookups : state.embeddingLookup.multiModalEmbeddingLookups = []
  endTokens : ∀ lookup ∈ state.embeddingLookup.endOfMultiModalEmbeddingLookups,
    lookup.specialToken = ExecutorAudioData.endToken
  decodeInput : state.decodeInput.contents.length =
    state.executor.outputBatchSize * state.embeddingLookup.getFloatsPerToken
  inputs : state.inputs = []

/-- The steps of the machine are the calls that succeed, of either executor. -/
def machine (rawId : Int → Scalar) : Machine (EmbeddedExecutor Scalar) (Call Scalar) where
  Initial := Fresh
  step := fun state call => stateOnSuccess (call.body rawId) state

end EmbeddedExecutor

end LiteRTLM.Executor
