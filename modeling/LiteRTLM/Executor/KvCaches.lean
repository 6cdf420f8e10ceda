import LiteRTLM.Executor.ConstrainedDecode
import LiteRTLM.Library.Parts
import LiteRTLM.Util.Json

/-!
Contract: the KV caches of `LlmLiteRtCompiledModelExecutorStatic`.

Owns: the four maps of cache buffers, the two pointers to them, the copies between
candidates, and the calls of the executor as they move caches and token history.

Does not own: the token history and the counters, which are those of
`CompiledModelExecutor`; resets.

A buffer is the list of the slices of its candidates, and a slice the list of its
rows. All slices of a name have one size, so sizes are counted in slices. Buffers lie in
a memory: two maps may share them, as the two of the CPU backend do.
-/

namespace LiteRTLM.Executor

open LiteRTLM.Engine
open LiteRTLM.Library
open LiteRTLM.Util

variable {Scalar Row : Type}

/-- The contents of the buffers. -/
abbrev CacheMemory (Row : Type) := Nat → List (List Row)

/-- A map from names to buffers. -/
abbrev CacheBuffers := List (Text × Nat)

/-- The maps `input_kv_cache_buffers_` and `output_kv_cache_buffers_` point to. -/
inductive CachePointer where
  | kvCacheBuffers1
  | kvCacheBuffers2
  | decodeKvCacheBuffers1
  | decodeKvCacheBuffers2
deriving DecidableEq, Repr

/-- An executor with its caches. The decode caches exist for batches only. -/
structure CachedExecutor (Scalar Row : Type) where
  executor : CompiledModelExecutor Scalar
  memory : CacheMemory Row
  kvCacheBuffers1 : CacheBuffers
  kvCacheBuffers2 : CacheBuffers
  decodeKvCacheBuffers1 : Option CacheBuffers
  decodeKvCacheBuffers2 : Option CacheBuffers
  inputKvCacheBuffers : CachePointer
  outputKvCacheBuffers : CachePointer

abbrev CachedM (Scalar Row : Type) := EStateM Status (CachedExecutor Scalar Row)

/-! ## Copies -/

/-- What `CopyKvCacheBuffers` copies to one buffer: one candidate, or the only one to
all. -/
def copiedSlices (decodeBatchSize : Nat) (srcIndexToCopyOnPrefill : Int)
    (src dst : List (List Row)) : StatusOr (List (List Row)) :=
  if srcIndexToCopyOnPrefill ≥ 0 then
    if src.length ≠ dst.length * decodeBatchSize then
      .error (.internalError "src_buffer_size == dst_buffer_size * decode_batch_size")
    else if srcIndexToCopyOnPrefill ≥ decodeBatchSize then
      .error (.internalError "src_index_to_copy_on_prefill < decode_batch_size")
    else
      .ok ((src.drop (srcIndexToCopyOnPrefill.toNat * dst.length)).take dst.length)
  else if src.length * decodeBatchSize ≠ dst.length then
    .error (.internalError "src_buffer_size * decode_batch_size == dst_buffer_size")
  else
    .ok (List.replicate decodeBatchSize src).flatten

def copyKvCacheBuffers (decodeBatchSize : Nat) (srcIndexToCopyOnPrefill : Int) :
    CacheBuffers → CacheBuffers → CacheMemory Row → StatusOr (CacheMemory Row)
  | [], _, memory => .ok memory
  | (name, srcBuffer) :: rest, dstKvCacheBuffers, memory =>
      match dstKvCacheBuffers.lookup name with
      | none =>
          .error (.failedPreconditionError s!"KV cache buffer {String.ofList name} not found.")
      | some dstBuffer => do
          let copied ← copiedSlices decodeBatchSize srcIndexToCopyOnPrefill
            (memory srcBuffer) (memory dstBuffer)
          copyKvCacheBuffers decodeBatchSize srcIndexToCopyOnPrefill rest dstKvCacheBuffers
            (Function.update memory dstBuffer copied)

/-! ## Model runs -/

/-- The rows a run writes to the output buffer of a name: those of its input buffer and
behind them, for each candidate, those of the tokens it is fed. -/
def appendedSlices (rowOf : Text → Int → Row) (fed : List (List Int)) (name : Text)
    (input : List (List Row)) : List (List Row) :=
  List.zipWith (fun slice ids => slice ++ ids.map (rowOf name)) input fed

/-- `compiled_model_.Run`: all inputs are read before an output is written. -/
def runOnCaches (rowOf : Text → Int → Row) (fed : List (List Int))
    (inputs outputs : CacheBuffers) (memory : CacheMemory Row) : CacheMemory Row :=
  outputs.foldl
    (fun written output =>
      match inputs.lookup output.1 with
      | none => written
      | some input =>
          Function.update written output.2 (appendedSlices rowOf fed output.1 (memory input)))
    memory

namespace CachedExecutor

/-- A part of a call that works on counters and history. -/
def onExecutor {α : Type} (program : ExecutorM Scalar α) : CachedM Scalar Row α :=
  onPart CachedExecutor.executor (fun state executor => { state with executor }) program

/-- The map a pointer points to. -/
def buffersAt (state : CachedExecutor Scalar Row) : CachePointer → CacheBuffers
  | .kvCacheBuffers1 => state.kvCacheBuffers1
  | .kvCacheBuffers2 => state.kvCacheBuffers2
  | .decodeKvCacheBuffers1 => state.decodeKvCacheBuffers1.getD []
  | .decodeKvCacheBuffers2 => state.decodeKvCacheBuffers2.getD []

/-- `*input_kv_cache_buffers_`. -/
def inputCache (state : CachedExecutor Scalar Row) : CacheBuffers :=
  state.buffersAt state.inputKvCacheBuffers

/-- `*output_kv_cache_buffers_`. -/
def outputCache (state : CachedExecutor Scalar Row) : CacheBuffers :=
  state.buffersAt state.outputKvCacheBuffers

/-- A copy to another map, which the pointers then point to with its partner. -/
def switchCaches (decodeBatchSize : Nat) (srcIndexToCopyOnPrefill : Int) (target : CacheBuffers)
    (input output : CachePointer) : CachedM Scalar Row Unit := do
  let state ← get
  match copyKvCacheBuffers decodeBatchSize srcIndexToCopyOnPrefill state.inputCache target
      state.memory with
  | .error status => throw status
  | .ok memory =>
      modify fun state => { state with
        memory, inputKvCacheBuffers := input, outputKvCacheBuffers := output }

/-- A run of the model on the caches, and `std::swap` of the pointers. -/
def runAndSwap (rowOf : Text → Int → Row) (fed : List (List Int)) : CachedM Scalar Row Unit :=
  modify fun state => { state with
    memory := runOnCaches rowOf fed state.inputCache state.outputCache state.memory
    inputKvCacheBuffers := state.outputKvCacheBuffers
    outputKvCacheBuffers := state.inputKvCacheBuffers }

/-- A backend whose copies are those of this model. -/
def withoutCopies (backend : Backend Scalar) : Backend Scalar :=
  { backend with copyKvCacheBuffers := .ok () }

/-! ## Prefill -/

/-- The switch from decode back to prefill keeps the first candidate. -/
def reduceToPrefill (backend : Backend Scalar) : CachedM Scalar Row Unit := do
  let state ← get
  onExecutor (CompiledModelExecutor.reduceToPrefill (withoutCopies backend))
  if state.executor.ranDecode = true ∧ state.executor.outputBatchSize > 1 then
    switchCaches state.executor.outputBatchSize 0 state.kvCacheBuffers1
      .kvCacheBuffers1 .kvCacheBuffers2

/-- The tokens `PrefillInternal` feeds, if it runs the model. -/
def prefillFed (pending : List (TokenData Scalar)) (ids : List Int) : Option (List (List Int)) :=
  if pending.isEmpty ∧ ids.length = 1 then none
  else some [pending.map TokenData.id ++ ids.dropLast]

def prefillInternal (rowOf : Text → Int → Row) (backend : Backend Scalar) (ids : List Int) :
    CachedM Scalar Row Unit := do
  let pending := (← get).executor.processedTokens.getPendingInputToken
  onExecutor (CompiledModelExecutor.prefillInternal backend ids)
  match prefillFed pending ids with
  | none => pure ()
  | some fed => runAndSwap rowOf fed

/-- The loop over the work groups. -/
def prefillGroups (rowOf : Text → Int → Row) :
    List (Nat × Backend Scalar) → List Int → CachedM Scalar Row Unit
  | [], ids => onExecutor (CompiledModelExecutor.retCheck (ids.length = 0)
      "Work groups not covering the entire prefill input.")
  | (prefillLength, backend) :: rest, ids => do
      onExecutor (CompiledModelExecutor.returnIfError backend.createPrefillInputBuffers)
      prefillInternal rowOf backend (ids.take prefillLength)
      prefillGroups rowOf rest (ids.drop prefillLength)

def prefill (rowOf : Text → Int → Row) (backend : Backend Scalar) (inputBatchSize : Nat)
    (tokenIds : List Int) (workGroups : List (Nat × Backend Scalar)) :
    CachedM Scalar Row Unit := do
  reduceToPrefill backend
  let outputBatchSize := (← get).executor.outputBatchSize
  onExecutor (CompiledModelExecutor.retCheck
    (inputBatchSize = 1 ∨ inputBatchSize = outputBatchSize) "input_batch_size == output_batch_size_")
  let inputLength := tokenIds.length / inputBatchSize
  onExecutor (CompiledModelExecutor.retCheck (inputLength > 0)
    "Prefill token ids must be non-empty.")
  onExecutor (CompiledModelExecutor.returnIfError backend.updateMultiModalEmbeddings)
  prefillGroups rowOf workGroups (tokenIds.take inputLength)
  onExecutor (CompiledModelExecutor.returnIfError backend.cleanupMultiModalEmbeddings)

/-! ## Decode -/

def prepareFirstDecode (backend : Backend Scalar) : CachedM Scalar Row Unit := do
  let state ← get
  onExecutor (CompiledModelExecutor.prepareFirstDecode (withoutCopies backend))
  if state.executor.ranDecode = false ∧ state.executor.outputBatchSize > 1 then
    match state.decodeKvCacheBuffers1, state.decodeKvCacheBuffers2 with
    | some target, some _ =>
        switchCaches state.executor.outputBatchSize (-1) target
          .decodeKvCacheBuffers1 .decodeKvCacheBuffers2
    | _, _ => throw (.internalError "decode_kv_cache_buffers_1_.has_value()")

/-- The part all decodes share; `finish` is what follows in a call before the step
is counted. -/
def decodeInputs (rowOf : Text → Int → Row) (backend : Backend Scalar)
    (inputs : Option (List Int)) (finish : StatusOr Unit) : CachedM Scalar Row Unit := do
  prepareFirstDecode backend
  let next ← onExecutor (CompiledModelExecutor.getTokenToDecode backend inputs)
  onExecutor (CompiledModelExecutor.decodeInternal backend next.step next.token)
  runAndSwap rowOf (next.token.map fun token => [token.id])
  onExecutor (CompiledModelExecutor.consumePendingOrAddProcessedToken next.token)
  onExecutor (CompiledModelExecutor.returnIfError finish)
  onExecutor (modify fun executor => { executor with currentStep := next.step + 1 })

/-- `Decode(output_tokens)`. -/
def decode (rowOf : Text → Int → Row) (backend : Backend Scalar) : CachedM Scalar Row Unit := do
  decodeInputs rowOf backend none backend.maskLogits
  onExecutor do
    let outputTokens ← CompiledModelExecutor.returnIfError backend.sampleToIds
    let outputBatchSize := (← get).outputBatchSize
    CompiledModelExecutor.retCheck (outputTokens.length = outputBatchSize)
      "output_tokens_size == output_batch_size_ * sizeof(int32_t)"
    CompiledModelExecutor.updateProcessedTokens fun processed =>
      processed.addPendingInputToken
        (outputTokens.map fun id => TokenData.ofId (CompiledModelExecutor.validToken id))

/-! ## The executor as a machine -/

inductive Call (Scalar : Type) where
  | prefill (backend : Backend Scalar) (inputBatchSize : Nat) (tokenIds : List Int)
      (workGroups : List (Nat × Backend Scalar))
  | decode (backend : Backend Scalar)
  | decodeLogits (backend : Backend Scalar) (inputs : Option (List Int))
  | decodeInputs (backend : Backend Scalar) (inputs : Option (List Int))

def Call.body (rowOf : Text → Int → Row) : Call Scalar → CachedM Scalar Row Unit
  | .prefill backend inputBatchSize tokenIds workGroups =>
      CachedExecutor.prefill rowOf backend inputBatchSize tokenIds workGroups
  | .decode backend => CachedExecutor.decode rowOf backend
  | .decodeLogits backend inputs =>
      CachedExecutor.decodeInputs rowOf backend inputs backend.maskLogits
  | .decodeInputs backend inputs => CachedExecutor.decodeInputs rowOf backend inputs (.ok ())

structure DistinctBuffers (names : List Text) (buffers : CacheBuffers) : Prop where
  sameNames : buffers.map Prod.fst = names
  noDuplicates : names.Nodup
  apart : (buffers.map Prod.snd).Nodup

/-- A freshly created executor: an empty cache of one candidate, and maps with the same
names, where the decode caches have buffers of their own. -/
structure Fresh (state : CachedExecutor Scalar Row) : Prop where
  executor : ∃ signatures outputBatchSize,
    0 < outputBatchSize ∧ state.executor = .initial signatures outputBatchSize
  buffers : ∃ names, ∀ buffers ∈ [state.kvCacheBuffers1, state.kvCacheBuffers2] ++
    state.decodeKvCacheBuffers1.toList ++ state.decodeKvCacheBuffers2.toList,
    DistinctBuffers names buffers
  ownDecodeBuffers : ∀ decodeBuffers ∈
    state.decodeKvCacheBuffers1.toList ++ state.decodeKvCacheBuffers2.toList,
    ∀ buffers ∈ [state.kvCacheBuffers1, state.kvCacheBuffers2],
      (buffers.map Prod.snd).Disjoint (decodeBuffers.map Prod.snd)
  empty : ∀ entry ∈ state.kvCacheBuffers1, state.memory entry.2 = [[]]
  input : state.inputKvCacheBuffers = .kvCacheBuffers1
  output : state.outputKvCacheBuffers = .kvCacheBuffers2

/-- The steps of the machine are the calls that succeed. -/
def machine (rowOf : Text → Int → Row) :
    Machine (CachedExecutor Scalar Row) (Call Scalar) where
  Initial := Fresh
  step := fun state call => stateOnSuccess (call.body rowOf) state

end CachedExecutor

end LiteRTLM.Executor
