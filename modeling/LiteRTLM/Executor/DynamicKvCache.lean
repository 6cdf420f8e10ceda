import Mathlib
import LiteRTLM.Executor.KvCaches
import LiteRTLM.Library.Frames
import LiteRTLM.Util.ExpandedBuffer

/-!
Contract: the KV cache of `LlmLiteRtCompiledModelExecutorDynamic`.

Owns: the allocation and the growth of the cache buffers in a prefill and in a decode, the
input shapes requested from the compiled model, and the calls of the executor as they move
both.

Does not own: the token history and the counters, which are those of
`CompiledModelExecutor`.

The state keeps a log of what the cache is used for. A run of the model is logged when its
buffers are handed to `PrefillInternal` or to the base `DecodeInternal`. The map
`kv_cache_buffers_1_` has no other keys than the cache inputs, and `kv_cache_buffers_2_`
has none.
-/

namespace LiteRTLM.Executor

open LiteRTLM.Engine
open LiteRTLM.Library
open LiteRTLM.Util

variable {Scalar : Type}

inductive Signature where
  | prefill
  | decode
deriving DecidableEq, Repr

/-- What the executor was created with: the names of the cache inputs, the indices of their
dynamic dimensions, the growth increment, and the shapes the model declares, in which a
dynamic dimension has no value. -/
structure KvCacheInputs where
  keyCacheInputNames : List Text
  valueCacheInputNames : List Text
  keyDynamicDimIndex : Nat
  valueDynamicDimIndex : Nat
  kvIncrementSize : Nat
  dimensions : Signature → Text → Option (List (Option Nat))
  keysPresent : keyCacheInputNames ≠ []
  incrementPositive : 0 < kvIncrementSize

/-- The key caches and the value caches, each with the index of its dynamic dimension. -/
def KvCacheInputs.cacheInputs (model : KvCacheInputs) : List (Text × Nat) :=
  model.keyCacheInputNames.map (·, model.keyDynamicDimIndex) ++
    model.valueCacheInputNames.map (·, model.valueDynamicDimIndex)

/-- The outcomes of the operations on caches that one call uses, and the contents a run of
the model writes. -/
structure CacheBackend (Scalar : Type) where
  executor : Backend Scalar
  resizeInputTensor : Signature → Text → StatusOr Unit
  createInputBuffer : Text → StatusOr (ElementType × (Nat → Scalar))
  createManaged : Text → StatusOr (Nat → Scalar)
  createAttentionMask : StatusOr Unit
  written : Text → Nat → Scalar

abbrev CacheMap (Scalar : Type) := Text → Option (TensorBuffer Scalar)

/-- What the cache was used for. -/
inductive CacheEvent (Scalar : Type) where
  /-- Buffers handed to a run, and the shapes last requested for its signature. -/
  | run (signature : Signature) (step length : Nat) (buffers : CacheMap Scalar)
      (requested : Text → Option (List Nat))
  | resized (before after : TensorBuffer Scalar) (dynamicDimIndex : Nat)
  /-- A decode refused as there is no cache. -/
  | noCache (prefillAccepted : Bool)

/-- An executor with its cache. The last three members are a record of its use: the
signature for which the cache was sized last, whether a prefill was accepted, and the log. -/
structure DynamicExecutor (Scalar : Type) where
  executor : CompiledModelExecutor Scalar
  kvCacheBuffers1 : CacheMap Scalar
  inputKvCacheBuffers : CachePointer
  outputKvCacheBuffers : CachePointer
  requested : Signature × Text → Option (List Nat)
  sizedFor : Option Signature
  prefillAccepted : Bool
  log : List (CacheEvent Scalar)

abbrev DynamicM (Scalar : Type) := EStateM Status (DynamicExecutor Scalar)

/-- A declared shape with a value for its dynamic dimensions. -/
def resolvedShape (dimensions : List (Option Nat)) (newValue : Nat) : List Nat :=
  dimensions.map fun dimension => dimension.getD newValue

namespace DynamicExecutor

/-- A part of a call that works on counters and history. -/
def onExecutor {α : Type} (program : ExecutorM Scalar α) : DynamicM Scalar α :=
  onPart DynamicExecutor.executor (fun state executor => { state with executor }) program

/-- `RETURN_IF_ERROR`, `ASSIGN_OR_RETURN`. -/
def returnIfError {α : Type} : StatusOr α → DynamicM Scalar α
  | .ok value => pure value
  | .error status => throw status

/-- `kv_cache_buffers_1_.empty()`. -/
def cacheEmpty (model : KvCacheInputs) (state : DynamicExecutor Scalar) : Bool :=
  model.cacheInputs.all fun input => (state.kvCacheBuffers1 input.1).isNone

/-- The map a pointer points to. -/
def buffersAt (state : DynamicExecutor Scalar) : CachePointer → CacheMap Scalar
  | .kvCacheBuffers1 => state.kvCacheBuffers1
  | _ => fun _ => none

/-! ## Shapes and buffers -/

def resolveDynamicShape (model : KvCacheInputs) (backend : CacheBackend Scalar)
    (signature : Signature) (tensorName : Text) (newValue : Nat) : DynamicM Scalar Unit := do
  match model.dimensions signature tensorName with
  | none => throw (.notFoundError "Failed to find input tensor")
  | some dimensions =>
      if none ∈ dimensions then do
        returnIfError (backend.resizeInputTensor signature tensorName)
        modify fun state => { state with
          requested := Function.update state.requested (signature, tensorName)
            (some (resolvedShape dimensions newValue)) }

/-- The shape of an input of the compiled model: the one requested last, or the declared
one. -/
def inputShape (model : KvCacheInputs) (state : DynamicExecutor Scalar) (signature : Signature)
    (tensorName : Text) : List Nat :=
  (state.requested (signature, tensorName)).getD
    (resolvedShape ((model.dimensions signature tensorName).getD []) 0)

/-- `compiled_model_.CreateInputBuffer("prefill", tensor_name)`: a buffer of the input's
shape. -/
def createInputBuffer (model : KvCacheInputs) (backend : CacheBackend Scalar)
    (tensorName : Text) : DynamicM Scalar (TensorBuffer Scalar) := do
  let shape := inputShape model (← get) .prefill tensorName
  let (elementType, contents) ← returnIfError (backend.createInputBuffer tensorName)
  return ⟨elementType, shape, (List.range shape.prod).map contents⟩

/-- `kv_cache_buffers_1_[tensor_name] = buffer`. -/
def setBuffer (tensorName : Text) (buffer : TensorBuffer Scalar) : DynamicM Scalar Unit :=
  modify fun state => { state with
    kvCacheBuffers1 := Function.update state.kvCacheBuffers1 tensorName (some buffer) }

/-- `kv_cache_buffers_1_[tensor_name]`; an operation on a missing buffer fails. -/
def getBuffer (tensorName : Text) : DynamicM Scalar (TensorBuffer Scalar) := do
  match (← get).kvCacheBuffers1 tensorName with
  | some buffer => pure buffer
  | none => throw (.internalError "Invalid tensor buffer")

theorem getBuffer_ok {tensorName : Text} {state : DynamicExecutor Scalar}
    {buffer : TensorBuffer Scalar} (held : state.kvCacheBuffers1 tensorName = some buffer) :
    getBuffer tensorName state = .ok buffer state := by
  unfold getBuffer
  simp only [bind, EStateM.bind, get, getThe, MonadStateOf.get, EStateM.get, held]
  rfl

def record (event : CacheEvent Scalar) : DynamicM Scalar Unit :=
  modify fun state => { state with log := state.log ++ [event] }

/-- The loops that allocate the cache for a first prefill. -/
def allocateCaches (model : KvCacheInputs) (backend : CacheBackend Scalar)
    (prefillLength : Nat) : List (Text × Nat) → DynamicM Scalar Unit
  | [] => pure ()
  | (name, _) :: rest => do
      resolveDynamicShape model backend .prefill name prefillLength
      let inputBuffer ← createInputBuffer model backend name
      setBuffer name inputBuffer
      allocateCaches model backend prefillLength rest

/-- The loops that enlarge the cache for one signature. -/
def growCaches [Zero Scalar] (model : KvCacheInputs) (backend : CacheBackend Scalar)
    (signature : Signature) (newLength entriesToAdd : Nat) :
    List (Text × Nat) → DynamicM Scalar Unit
  | [] => pure ()
  | (name, dynamicDimIndex) :: rest => do
      resolveDynamicShape model backend signature name newLength
      let buffer ← getBuffer name
      let resized ← returnIfError
        (buffer.resizeKVCacheTensorBuffer (backend.createManaged name) dynamicDimIndex
          entriesToAdd)
      setBuffer name resized
      record (.resized buffer resized dynamicDimIndex)
      growCaches model backend signature newLength entriesToAdd rest

/-- The entries of the first key cache. -/
def keyLength (model : KvCacheInputs) : DynamicM Scalar Nat := do
  let keyBuffer ← getBuffer (model.keyCacheInputNames.head model.keysPresent)
  match keyBuffer.dimensions[model.keyDynamicDimIndex]? with
  | some entries => pure entries
  | none => throw (.internalError "dynamic dimension out of range")

def markSized (signature : Signature) : DynamicM Scalar Unit :=
  modify fun state => { state with sizedFor := some signature }

/-- The buffers of `*input_kv_cache_buffers_` are handed to a run. -/
def handOver (signature : Signature) (step length : Nat) : DynamicM Scalar Unit := do
  let state ← get
  record (.run signature step length (state.buffersAt state.inputKvCacheBuffers)
    fun name => state.requested (signature, name))

/-- What a run of the model leaves in the caches, and `std::swap` of the pointers. -/
def runAndSwap (backend : CacheBackend Scalar) : DynamicM Scalar Unit :=
  modify fun state => { state with
    kvCacheBuffers1 :=
      if state.outputKvCacheBuffers = .kvCacheBuffers1 then fun name =>
        (state.kvCacheBuffers1 name).map fun buffer =>
          { buffer with data := (List.range buffer.data.length).map (backend.written name) }
      else state.kvCacheBuffers1
    inputKvCacheBuffers := state.outputKvCacheBuffers
    outputKvCacheBuffers := state.inputKvCacheBuffers }

/-! ## Prefill -/

/-- The part of `Prefill` that provides the cache. -/
def provideCaches [Zero Scalar] (model : KvCacheInputs) (backend : CacheBackend Scalar)
    (step prefillLength : Nat) : DynamicM Scalar Unit := do
  if cacheEmpty model (← get) then
    allocateCaches model backend prefillLength model.cacheInputs
    markSized .prefill
  else
    let kvLength ← keyLength model
    let freeKvEntries : Int := kvLength - step
    if prefillLength > freeKvEntries then
      growCaches model backend .prefill (kvLength + prefillLength) prefillLength
        model.cacheInputs
      markSized .prefill

/-- `Prefill` past its early return. -/
def prefillRun [Zero Scalar] (model : KvCacheInputs) (backend : CacheBackend Scalar)
    (step prefillLength : Nat) (tokenIds : List Int) : DynamicM Scalar Unit := do
  provideCaches model backend step prefillLength
  returnIfError backend.executor.createPrefillInputBuffers
  modify fun state => { state with
    inputKvCacheBuffers := .kvCacheBuffers1
    outputKvCacheBuffers := .kvCacheBuffers1 }
  handOver .prefill step prefillLength
  onExecutor (CompiledModelExecutor.prefillInternal backend.executor tokenIds)
  runAndSwap backend

/-- `Prefill` on a `[inputBatchSize, length]` tensor of ids. -/
def prefill [Zero Scalar] (model : KvCacheInputs) (backend : CacheBackend Scalar)
    (inputBatchSize : Nat) (tokenIds : List Int) : DynamicM Scalar Unit := do
  onExecutor (CompiledModelExecutor.retCheck (inputBatchSize = 1)
    "tensor_type.Layout().Dimensions()[0] == 1")
  onExecutor (CompiledModelExecutor.retCheck (tokenIds.length / inputBatchSize > 0)
    "Prefill token ids must be non-empty.")
  let next := (← get).executor.processedTokens.getNextUnprocessedToken
  let prefillLength := if next.token = [] then tokenIds.length - 1 else tokenIds.length
  if next.token = [] ∧ prefillLength = 0 then
    -- nothing to run yet: `ids[0]` becomes the pending token
    onExecutor (CompiledModelExecutor.updateProcessedTokens fun processed =>
      processed.addPendingInputToken [TokenData.ofId (tokenIds.headD 0)])
  else
    prefillRun model backend next.step prefillLength tokenIds
  modify fun state => { state with prefillAccepted := true }

/-! ## Decode -/

/-- The part of `DecodeInternal` that provides room in the cache. -/
def provideDecodeEntry [Zero Scalar] (model : KvCacheInputs) (backend : CacheBackend Scalar)
    (step : Nat) : DynamicM Scalar Unit := do
  let currentKvLen ← keyLength model
  if currentKvLen ≤ step then
    growCaches model backend .decode (currentKvLen + model.kvIncrementSize)
      model.kvIncrementSize model.cacheInputs
    markSized .decode

def decodeInternal [Zero Scalar] (model : KvCacheInputs) (backend : CacheBackend Scalar)
    (step : Nat) (token : List (TokenData Scalar)) : DynamicM Scalar Unit := do
  let state ← get
  if cacheEmpty model state then
    record (.noCache state.prefillAccepted)
    throw (.internalError "!kv_cache_buffers_1_.empty()")
  else
    provideDecodeEntry model backend step
    returnIfError backend.createAttentionMask
    handOver .decode step 1
    onExecutor (CompiledModelExecutor.decodeInternal backend.executor step token)
    runAndSwap backend

/-- The part all decodes share; `finish` is what follows in a call before the step
is counted. -/
def decodeInputs [Zero Scalar] (model : KvCacheInputs) (backend : CacheBackend Scalar)
    (inputs : Option (List Int)) (finish : StatusOr Unit) : DynamicM Scalar Unit := do
  onExecutor (CompiledModelExecutor.prepareFirstDecode backend.executor)
  let next ← onExecutor (CompiledModelExecutor.getTokenToDecode backend.executor inputs)
  decodeInternal model backend next.step next.token
  onExecutor (CompiledModelExecutor.consumePendingOrAddProcessedToken next.token)
  returnIfError finish
  onExecutor (modify fun executor => { executor with currentStep := next.step + 1 })

/-- `Decode(output_tokens)`. -/
def decode [Zero Scalar] (model : KvCacheInputs) (backend : CacheBackend Scalar) :
    DynamicM Scalar Unit := do
  decodeInputs model backend none backend.executor.maskLogits
  onExecutor do
    let outputTokens ← CompiledModelExecutor.returnIfError backend.executor.sampleToIds
    let outputBatchSize := (← get).outputBatchSize
    CompiledModelExecutor.retCheck (outputTokens.length = outputBatchSize)
      "output_tokens_size == output_batch_size_ * sizeof(int32_t)"
    CompiledModelExecutor.updateProcessedTokens fun processed =>
      processed.addPendingInputToken
        (outputTokens.map fun id => TokenData.ofId (CompiledModelExecutor.validToken id))

/-! ## The executor as a machine -/

inductive Call (Scalar : Type) where
  | prefill (backend : CacheBackend Scalar) (inputBatchSize : Nat) (tokenIds : List Int)
  | decode (backend : CacheBackend Scalar)
  | decodeLogits (backend : CacheBackend Scalar) (inputs : Option (List Int))
  | decodeInputs (backend : CacheBackend Scalar) (inputs : Option (List Int))
  | reset

def Call.body [Zero Scalar] (model : KvCacheInputs) : Call Scalar → DynamicM Scalar Unit
  | .prefill backend inputBatchSize tokenIds =>
      DynamicExecutor.prefill model backend inputBatchSize tokenIds
  | .decode backend => DynamicExecutor.decode model backend
  | .decodeLogits backend inputs =>
      DynamicExecutor.decodeInputs model backend inputs backend.executor.maskLogits
  | .decodeInputs backend inputs =>
      DynamicExecutor.decodeInputs model backend inputs (.ok ())
  | .reset => onExecutor CompiledModelExecutor.reset

/-- A freshly created executor: one candidate and no cache. -/
structure Fresh (state : DynamicExecutor Scalar) : Prop where
  executor : ∃ signatures, state.executor = .initial signatures 1
  noCache : state.kvCacheBuffers1 = fun _ => none
  input : state.inputKvCacheBuffers = .kvCacheBuffers1
  output : state.outputKvCacheBuffers = .kvCacheBuffers2
  notAccepted : state.prefillAccepted = false
  unused : state.log = []

/-- The steps of the machine are the calls, also those that fail. -/
def machine [Zero Scalar] (model : KvCacheInputs) :
    Machine (DynamicExecutor Scalar) (Call Scalar) where
  Initial := Fresh
  step := fun state call => some (finalState (call.body model) state)

end DynamicExecutor

end LiteRTLM.Executor
