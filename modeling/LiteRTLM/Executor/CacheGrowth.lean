import Mathlib
import LiteRTLM.Executor.DynamicKvCache
import LiteRTLM.Executor.StepBounds

/-!
Contract: the room that a call on the dynamic executor provides in the KV cache.

Owns: when a use of the cache is sound, the condition on the calls under which every use
is, and what allocation and growth make of the caches and the shapes requested for them.

Does not own: what a single growth does to a buffer, and runs of calls.

Each of the two functions that enlarge the cache requests the new shape for its own
signature only, so the shape requested for a signature is that of the buffers only while
the cache was sized last for that signature.
-/

namespace LiteRTLM.Executor

open LiteRTLM.Engine
open LiteRTLM.Library
open LiteRTLM.Util

variable {Scalar : Type}

/-! ## Sound uses -/

/-- A cache input has a buffer with room for `entries`, of the shape requested for it. -/
def Fits (buffers : CacheMap Scalar) (requested : Text → Option (List Nat)) (entries : Nat)
    (input : Text × Nat) : Prop :=
  ∃ buffer kvLength, buffers input.1 = some buffer ∧
    buffer.dimensions[input.2]? = some kvLength ∧ entries ≤ kvLength ∧
    requested input.1 = some buffer.dimensions

/-- The later buffer has more entries, and those of the earlier one are in their place. -/
def EntriesKept (before after : TensorBuffer Scalar) (axis : Nat) : Prop :=
  ∃ slots more, before.HasSlots axis slots ∧ after.HasSlots axis (slots + more) ∧
    after.dimensions = before.dimensions.set axis (slots + more) ∧
    ∀ outer slot, outer < before.prevDimsSize axis → slot < slots →
      after.slotRow axis (slots + more) outer slot = before.slotRow axis slots outer slot

/-- A run has room for its tokens in caches of the requested shapes, a growth keeps the
entries, and no decode is refused for want of a cache after a prefill. -/
def CacheEvent.Sound (model : KvCacheInputs) : CacheEvent Scalar → Prop
  | .run _ step length buffers requested =>
      ∀ input ∈ model.cacheInputs, Fits buffers requested (step + length) input
  | .resized before after dynamicDimIndex => EntriesKept before after dynamicDimIndex
  | .noCache prefillAccepted => prefillAccepted = false

/-- The cache inputs have different names, and one dynamic dimension each, at the index the
executor was created with and among the same other dimensions in both signatures. -/
structure KvCacheInputs.Uniform (model : KvCacheInputs) : Prop where
  distinct : (model.cacheInputs.map Prod.fst).Nodup
  sameDimensions : ∀ input ∈ model.cacheInputs, ∀ signature,
    model.dimensions signature input.1 = model.dimensions .prefill input.1
  oneDynamic : ∀ input ∈ model.cacheInputs, ∃ front behind : List Nat,
    model.dimensions .prefill input.1 =
        some (front.map some ++ none :: behind.map some) ∧
      front.length = input.2

namespace CacheBackend

variable (backend : CacheBackend Scalar) (model : KvCacheInputs)

/-- The first shape is not accepted, so that nothing is resized. -/
def Refuses (signature : Signature) : Prop :=
  ∃ first status, model.cacheInputs.head? = some first ∧
    backend.resizeInputTensor signature first.1 = .error status

/-- Every cache input can be enlarged. -/
def Grows (signature : Signature) : Prop :=
  ∀ input ∈ model.cacheInputs, backend.resizeInputTensor signature input.1 = .ok () ∧
    ∃ contents, backend.createManaged input.1 = .ok contents

/-- Every cache input and the inputs of the first run can be created. -/
def Allocates : Prop :=
  (∀ input ∈ model.cacheInputs, backend.resizeInputTensor .prefill input.1 = .ok () ∧
    ∃ created, backend.createInputBuffer input.1 = .ok created) ∧
  backend.executor.createPrefillInputBuffers = .ok ()

end CacheBackend

namespace DynamicExecutor

/-! ## The condition on the calls -/

/-- The number of cache entries a prefill needs. -/
def prefillLength (state : DynamicExecutor Scalar) (tokenIds : List Int) : Nat :=
  if state.executor.processedTokens.getPendingInputToken = [] then tokenIds.length - 1
  else tokenIds.length

/-- The first key cache has room for `length` entries behind the processed tokens. -/
def HasRoom (model : KvCacheInputs) (state : DynamicExecutor Scalar) (length : Nat) : Prop :=
  ∃ buffer kvLength,
    state.kvCacheBuffers1 (model.keyCacheInputNames.head model.keysPresent) = some buffer ∧
      buffer.dimensions[model.keyDynamicDimIndex]? = some kvLength ∧
      state.executor.processedCount + length ≤ kvLength

/-- A run for `signature` uses a cache that was sized last for that signature, or enlarges
the cache, which works for all of it or fails before anything is resized. -/
structure RunSettled (model : KvCacheInputs) (state : DynamicExecutor Scalar)
    (backend : CacheBackend Scalar) (signature : Signature) (length : Nat) : Prop where
  sizedForIt : HasRoom model state length → state.sizedFor = some signature
  growsWhole : ¬HasRoom model state length →
    backend.Refuses model signature ∨ backend.Grows model signature

/-- The guard of a run. A first prefill is not a single id with nothing pending, and gets
its whole cache or nothing; later runs are settled. -/
def Settled (model : KvCacheInputs) (state : DynamicExecutor Scalar) : Call Scalar → Prop
  | .prefill backend _ tokenIds =>
      let stored := state.executor.processedTokens.getPendingInputToken = [] ∧ tokenIds.length = 1
      if cacheEmpty model state then
        ¬stored ∧ (backend.Refuses model .prefill ∨ backend.Allocates model)
      else
        ¬stored → RunSettled model state backend .prefill (prefillLength state tokenIds)
  | .decode backend | .decodeLogits backend _ | .decodeInputs backend _ =>
      cacheEmpty model state = false → RunSettled model state backend .decode 1
  | .reset => True

/-! ## The invariant -/

/-- A cache buffer with the given number of entries. -/
structure BufferShaped (model : KvCacheInputs) (state : DynamicExecutor Scalar)
    (kvLength : Nat) (input : Text × Nat) (buffer : TensorBuffer Scalar) : Prop where
  held : state.kvCacheBuffers1 input.1 = some buffer
  shaped : buffer.HasSlots input.2 kvLength
  declared : ∃ dimensions, model.dimensions .prefill input.1 = some dimensions ∧
    buffer.dimensions = resolvedShape dimensions kvLength

/-- A cache buffer of the shape requested for `signature`. -/
structure BufferSized (model : KvCacheInputs) (state : DynamicExecutor Scalar)
    (signature : Signature) (kvLength : Nat) (input : Text × Nat)
    (buffer : TensorBuffer Scalar) : Prop extends
    BufferShaped model state kvLength input buffer where
  requested : state.requested (signature, input.1) = some buffer.dimensions

/-- All caches have the given number of entries and were sized for `signature`. -/
structure CachesSized (model : KvCacheInputs) (state : DynamicExecutor Scalar)
    (signature : Signature) (kvLength : Nat) : Prop where
  buffers : ∀ input ∈ model.cacheInputs, ∃ buffer,
    BufferSized model state signature kvLength input buffer
  sizedFor : state.sizedFor = some signature

/-- The caches are those of both pointers, with room for the processed tokens and
`spare` more. -/
structure Allocated (model : KvCacheInputs) (state : DynamicExecutor Scalar)
    (signature : Signature) (kvLength spare : Nat) : Prop extends
    CachesSized model state signature kvLength where
  input : state.inputKvCacheBuffers = .kvCacheBuffers1
  output : state.outputKvCacheBuffers = .kvCacheBuffers1
  room : state.executor.processedCount + spare ≤ kvLength

/-- There is no cache, no processed token and no accepted prefill. -/
structure Unallocated (model : KvCacheInputs) (state : DynamicExecutor Scalar) : Prop where
  noCache : ∀ input ∈ model.cacheInputs, state.kvCacheBuffers1 input.1 = none
  noTokens : state.executor.processedCount = 0
  notAccepted : state.prefillAccepted = false

structure CacheInvariant (model : KvCacheInputs) (state : DynamicExecutor Scalar) : Prop where
  single : state.executor.batchSizes = (1, 1)
  caches : Unallocated model state ∨ ∃ signature kvLength,
    Allocated model state signature kvLength 0
  sound : ∀ event ∈ state.log, event.Sound model

variable {model : KvCacheInputs} {state : DynamicExecutor Scalar} {backend : CacheBackend Scalar}

/-! ## Shapes -/

theorem resolvedShape_split (front behind : List Nat) (newValue : Nat) :
    resolvedShape (front.map some ++ none :: behind.map some) newValue =
      front ++ newValue :: behind := by
  simp [resolvedShape, Function.comp_def]

/-- A shape with one dynamic dimension has the requested entries there. -/
theorem resolvedShape_dimension (uniform : model.Uniform) {input : Text × Nat}
    (isCache : input ∈ model.cacheInputs) {dimensions : List (Option Nat)}
    (declared : model.dimensions .prefill input.1 = some dimensions) (newValue : Nat) :
    (resolvedShape dimensions newValue)[input.2]? = some newValue := by
  obtain ⟨front, behind, shape, index⟩ := uniform.oneDynamic input isCache
  cases declared.symm.trans shape
  rw [resolvedShape_split, ← index, List.getElem?_append_right (Nat.le_refl _), Nat.sub_self]
  rfl

/-- Another number of entries is another shape in this dimension only. -/
theorem resolvedShape_set (uniform : model.Uniform) {input : Text × Nat}
    (isCache : input ∈ model.cacheInputs) {dimensions : List (Option Nat)}
    (declared : model.dimensions .prefill input.1 = some dimensions) (oldValue newValue : Nat) :
    resolvedShape dimensions newValue =
      (resolvedShape dimensions oldValue).set input.2 newValue := by
  obtain ⟨front, behind, shape, index⟩ := uniform.oneDynamic input isCache
  cases declared.symm.trans shape
  rw [resolvedShape_split, resolvedShape_split, ← index, List.set_append_right _ _ (Nat.le_refl _),
    Nat.sub_self]
  rfl

/-- Only caches of these names and the shapes requested for them differ, and whatever was
logged is sound. -/
structure CachesTouched (model : KvCacheInputs) (names : List Text)
    (before after : DynamicExecutor Scalar) : Prop where
  executor : after.executor = before.executor
  input : after.inputKvCacheBuffers = before.inputKvCacheBuffers
  output : after.outputKvCacheBuffers = before.outputKvCacheBuffers
  accepted : after.prefillAccepted = before.prefillAccepted
  logged : ∀ event ∈ after.log, event ∈ before.log ∨ event.Sound model
  others : ∀ name, name ∉ names → after.kvCacheBuffers1 name = before.kvCacheBuffers1 name ∧
    ∀ signature, after.requested (signature, name) = before.requested (signature, name)

namespace CachesTouched

variable {before between after : DynamicExecutor Scalar} {names : List Text} {name : Text}

theorem refl (model : KvCacheInputs) (names : List Text) (state : DynamicExecutor Scalar) :
    CachesTouched model names state state :=
  ⟨rfl, rfl, rfl, rfl, fun _ member => .inl member, fun _ _ => ⟨rfl, fun _ => rfl⟩⟩

/-- One name, and then the others. -/
theorem cons (first : CachesTouched model [name] before between)
    (rest : CachesTouched model names between after) :
    CachesTouched model (name :: names) before after where
  executor := rest.executor.trans first.executor
  input := rest.input.trans first.input
  output := rest.output.trans first.output
  accepted := rest.accepted.trans first.accepted
  logged := by
    intro event member
    rcases rest.logged event member with earlier | sound
    · exact first.logged event earlier
    · exact .inr sound
  others := by
    intro other apart
    rw [List.mem_cons, not_or] at apart
    have early := first.others other (by simpa using apart.1)
    have late := rest.others other apart.2
    exact ⟨late.1.trans early.1, fun signature => (late.2 signature).trans (early.2 signature)⟩

/-- A buffer of another name keeps its shape. -/
theorem shaped (touched : CachesTouched model names before after) {kvLength : Nat}
    {input : Text × Nat} {buffer : TensorBuffer Scalar} (apart : input.1 ∉ names)
    (shaped : BufferShaped model before kvLength input buffer) :
    BufferShaped model after kvLength input buffer :=
  ⟨(touched.others input.1 apart).1.trans shaped.held, shaped.shaped, shaped.declared⟩

theorem sized (touched : CachesTouched model names before after) {signature : Signature}
    {kvLength : Nat} {input : Text × Nat} {buffer : TensorBuffer Scalar}
    (apart : input.1 ∉ names) (sized : BufferSized model before signature kvLength input buffer) :
    BufferSized model after signature kvLength input buffer :=
  ⟨touched.shaped apart sized.toBufferShaped,
    ((touched.others input.1 apart).2 signature).trans sized.requested⟩

end CachesTouched

/-! ## Requests -/

theorem resolveDynamicShape_ok (uniform : model.Uniform) {input : Text × Nat}
    (isCache : input ∈ model.cacheInputs) {signature : Signature} (newValue : Nat)
    (accepted : backend.resizeInputTensor signature input.1 = .ok ())
    (state : DynamicExecutor Scalar) :
    ∃ dimensions, model.dimensions .prefill input.1 = some dimensions ∧
      resolveDynamicShape model backend signature input.1 newValue state =
        .ok () { state with
          requested := Function.update state.requested (signature, input.1)
            (some (resolvedShape dimensions newValue)) } := by
  obtain ⟨front, behind, shape, -⟩ := uniform.oneDynamic input isCache
  refine ⟨_, shape, ?_⟩
  have dynamic : none ∈ front.map some ++ none :: behind.map some :=
    List.mem_append_right _ List.mem_cons_self
  rw [resolveDynamicShape, uniform.sameDimensions input isCache signature, shape]
  simp only [if_pos dynamic, accepted, returnIfError]
  rfl

theorem resolveDynamicShape_refused (uniform : model.Uniform) {input : Text × Nat}
    (isCache : input ∈ model.cacheInputs) {signature : Signature} (newValue : Nat)
    {status : Status} (refused : backend.resizeInputTensor signature input.1 = .error status) :
    resolveDynamicShape model backend signature input.1 newValue state =
      .error status state := by
  obtain ⟨front, behind, shape, -⟩ := uniform.oneDynamic input isCache
  have dynamic : none ∈ front.map some ++ none :: behind.map some :=
    List.mem_append_right _ List.mem_cons_self
  rw [resolveDynamicShape, uniform.sameDimensions input isCache signature, shape]
  simp only [if_pos dynamic, refused, returnIfError]
  rfl

/-! ## Allocation -/

/-- A created buffer fills its shape. -/
theorem hasSlots_of_resolved (uniform : model.Uniform) {input : Text × Nat}
    (isCache : input ∈ model.cacheInputs) {dimensions : List (Option Nat)}
    (declared : model.dimensions .prefill input.1 = some dimensions) (entries : Nat)
    (elementType : ElementType) (contents : Nat → Scalar) :
    (TensorBuffer.mk elementType (resolvedShape dimensions entries)
      ((List.range (resolvedShape dimensions entries).prod).map contents)).HasSlots
        input.2 entries := by
  refine ⟨resolvedShape_dimension uniform isCache declared entries, ?_⟩
  obtain ⟨front, behind, shape, index⟩ := uniform.oneDynamic input isCache
  cases declared.symm.trans shape
  rw [List.length_map, List.length_range, TensorBuffer.prevDimsSize, TensorBuffer.nextDimsSize]
  show (resolvedShape _ entries).prod = _
  rw [resolvedShape_split, ← index, List.take_left, List.prod_append, List.prod_cons,
    ← List.drop_drop, List.drop_left]
  show _ = front.prod * entries * behind.prod
  ring

/-- A created buffer has the shape that was requested. -/
theorem createInputBuffer_ok {tensorName : Text} {shape : List Nat}
    (requested : state.requested (.prefill, tensorName) = some shape)
    {created : ElementType × (Nat → Scalar)}
    (creates : backend.createInputBuffer tensorName = .ok created) :
    createInputBuffer model backend tensorName state =
      .ok ⟨created.1, shape, (List.range shape.prod).map created.2⟩ state := by
  have current : inputShape model state .prefill tensorName = shape := by
    rw [inputShape, requested, Option.getD_some]
  rw [createInputBuffer, creates, ← current]
  rfl

/-- One round of the allocation. -/
theorem allocateCaches_cons (uniform : model.Uniform) {input : Text × Nat}
    (isCache : input ∈ model.cacheInputs) {created : ElementType × (Nat → Scalar)}
    (accepted : backend.resizeInputTensor .prefill input.1 = .ok ())
    (creates : backend.createInputBuffer input.1 = .ok created) (entries : Nat)
    (rest : List (Text × Nat)) (state : DynamicExecutor Scalar) :
    ∃ after, allocateCaches model backend entries (input :: rest) state =
        allocateCaches model backend entries rest after ∧
      CachesTouched model [input.1] state after ∧
      ∃ buffer, BufferSized model after .prefill entries input buffer := by
  obtain ⟨dimensions, declared, resolved⟩ :=
    resolveDynamicShape_ok uniform isCache entries accepted state
  have ran : allocateCaches model backend entries (input :: rest) state =
      allocateCaches model backend entries rest { state with
        requested := Function.update state.requested (.prefill, input.1)
          (some (resolvedShape dimensions entries))
        kvCacheBuffers1 := Function.update state.kvCacheBuffers1 input.1
          (some ⟨created.1, resolvedShape dimensions entries,
            (List.range (resolvedShape dimensions entries).prod).map created.2⟩) } := by
    rw [allocateCaches, bind_of_ok resolved,
      bind_of_ok (createInputBuffer_ok (Function.update_self ..) creates)]
    rfl
  refine ⟨_, ran, ⟨rfl, rfl, rfl, rfl, fun _ member => .inl member, ?_⟩, _,
    ⟨Function.update_self .., hasSlots_of_resolved uniform isCache declared entries _ _,
      dimensions, declared, rfl⟩, Function.update_self ..⟩
  intro name apart
  have differs : name ≠ input.1 := by simpa using apart
  refine ⟨Function.update_of_ne differs _ _, fun other => Function.update_of_ne ?_ _ _⟩
  intro same
  exact differs (congrArg Prod.snd same)

/-- The allocation of all caches of a list. -/
theorem allocateCaches_ok (uniform : model.Uniform) (allocates : backend.Allocates model)
    (entries : Nat) (inputs : List (Text × Nat))
    (areCaches : ∀ input ∈ inputs, input ∈ model.cacheInputs)
    (distinct : (inputs.map Prod.fst).Nodup) :
    ∃ after, allocateCaches model backend entries inputs state = .ok () after ∧
      CachesTouched model (inputs.map Prod.fst) state after ∧
      ∀ input ∈ inputs, ∃ buffer, BufferSized model after .prefill entries input buffer := by
  induction inputs generalizing state with
  | nil => exact ⟨state, rfl, .refl model [] state, fun input member => by simp at member⟩
  | cons input rest inductionHypothesis =>
      rw [List.map_cons, List.nodup_cons] at distinct
      have isCache := areCaches input List.mem_cons_self
      obtain ⟨accepted, created, creates⟩ := allocates.1 input isCache
      obtain ⟨between, step, touched, buffer, bufferSized⟩ :=
        allocateCaches_cons uniform isCache accepted creates entries rest state
      obtain ⟨after, ran, restTouched, restSized⟩ := @inductionHypothesis between
        (fun other member => areCaches other (List.mem_cons_of_mem _ member)) distinct.2
      refine ⟨after, step.trans ran, touched.cons restTouched, fun other member => ?_⟩
      rcases List.mem_cons.mp member with here | later
      · rw [here]
        exact ⟨buffer, restTouched.sized distinct.1 bufferSized⟩
      · exact restSized other later

/-- A first request that is refused stops an allocation before it changes anything. -/
theorem allocateCaches_refused (uniform : model.Uniform)
    (refuses : backend.Refuses model .prefill) (entries : Nat) :
    ∃ status, allocateCaches model backend entries model.cacheInputs state =
      .error status state := by
  obtain ⟨first, status, isFirst, refused⟩ := refuses
  obtain ⟨rest, inputs⟩ := List.head?_eq_some_iff.mp isFirst
  have isCache : first ∈ model.cacheInputs := by
    rw [inputs]
    exact List.mem_cons_self
  refine ⟨status, ?_⟩
  rw [inputs, allocateCaches, bind_of_error
    (resolveDynamicShape_refused uniform isCache entries refused)]

/-! ## Growth -/

section Growing

variable [Zero Scalar] {signature : Signature} {kvLength more : Nat}

/-- One round of the growth. -/
theorem growCaches_cons (uniform : model.Uniform) {input : Text × Nat}
    (isCache : input ∈ model.cacheInputs) {buffer : TensorBuffer Scalar}
    (shaped : BufferShaped model state kvLength input buffer) (grows : 0 < more)
    (accepted : backend.resizeInputTensor signature input.1 = .ok ())
    {contents : Nat → Scalar} (created : backend.createManaged input.1 = .ok contents)
    (rest : List (Text × Nat)) :
    ∃ after, growCaches model backend signature (kvLength + more) more (input :: rest) state =
        growCaches model backend signature (kvLength + more) more rest after ∧
      CachesTouched model [input.1] state after ∧
      ∃ resized, BufferSized model after signature (kvLength + more) input resized := by
  obtain ⟨dimensions, declared, resolved⟩ :=
    resolveDynamicShape_ok uniform isCache (kvLength + more) accepted state
  obtain ⟨resized, resizes, newShape, resizedShaped, rows⟩ :=
    TensorBuffer.resizeKVCacheTensorBuffer_slots shaped.shaped grows contents
  obtain ⟨_, sameDeclared, oldShape⟩ := shaped.declared
  cases declared.symm.trans sameDeclared
  have newDeclared : resized.dimensions = resolvedShape dimensions (kvLength + more) := by
    rw [newShape, oldShape, ← resolvedShape_set uniform isCache declared]
  have kept : EntriesKept buffer resized input.2 :=
    ⟨kvLength, more, shaped.shaped, resizedShaped, newShape, fun outer slot outerBelow below => by
      rw [rows outer slot outerBelow (by omega), if_pos below]⟩
  have ran : growCaches model backend signature (kvLength + more) more (input :: rest) state =
      growCaches model backend signature (kvLength + more) more rest { state with
        requested := Function.update state.requested (signature, input.1)
          (some (resolvedShape dimensions (kvLength + more)))
        kvCacheBuffers1 := Function.update state.kvCacheBuffers1 input.1 (some resized)
        log := state.log ++ [.resized buffer resized input.2] } := by
    have found : getBuffer input.1 { state with
        requested := Function.update state.requested (signature, input.1)
          (some (resolvedShape dimensions (kvLength + more))) } = .ok buffer { state with
        requested := Function.update state.requested (signature, input.1)
          (some (resolvedShape dimensions (kvLength + more))) } :=
      getBuffer_ok shaped.held
    rw [growCaches, bind_of_ok resolved, bind_of_ok found, created, resizes]
    rfl
  refine ⟨_, ran, ⟨rfl, rfl, rfl, rfl, ?_, ?_⟩, resized, ⟨?_, resizedShaped, ?_⟩, ?_⟩
  · intro event member
    rcases List.mem_append.mp member with old | new
    · exact .inl old
    · rw [List.mem_singleton.mp new]
      exact .inr kept
  · intro name apart
    have differs : name ≠ input.1 := by simpa using apart
    refine ⟨Function.update_of_ne differs _ _, fun other => Function.update_of_ne ?_ _ _⟩
    intro same
    exact differs (congrArg Prod.snd same)
  · exact Function.update_self ..
  · exact ⟨dimensions, declared, newDeclared⟩
  · rw [newDeclared]
    exact Function.update_self ..

/-- The growth of all caches of a list. -/
theorem growCaches_ok (uniform : model.Uniform) (grows : 0 < more)
    (backendGrows : backend.Grows model signature) (inputs : List (Text × Nat))
    (areCaches : ∀ input ∈ inputs, input ∈ model.cacheInputs)
    (distinct : (inputs.map Prod.fst).Nodup)
    (shaped : ∀ input ∈ inputs, ∃ buffer, BufferShaped model state kvLength input buffer) :
    ∃ after, growCaches model backend signature (kvLength + more) more inputs state =
        .ok () after ∧
      CachesTouched model (inputs.map Prod.fst) state after ∧
      ∀ input ∈ inputs, ∃ resized,
        BufferSized model after signature (kvLength + more) input resized := by
  induction inputs generalizing state with
  | nil => exact ⟨state, rfl, .refl model [] state, fun input member => by simp at member⟩
  | cons input rest inductionHypothesis =>
      rw [List.map_cons, List.nodup_cons] at distinct
      have isCache := areCaches input List.mem_cons_self
      obtain ⟨buffer, bufferShaped⟩ := shaped input List.mem_cons_self
      obtain ⟨accepted, contents, created⟩ := backendGrows input isCache
      obtain ⟨between, step, touched, resized, resizedSized⟩ :=
        growCaches_cons uniform isCache bufferShaped grows accepted created rest
      have restShaped : ∀ other ∈ rest, ∃ buffer,
          BufferShaped model between kvLength other buffer := by
        intro other member
        obtain ⟨otherBuffer, otherShaped⟩ := shaped other (List.mem_cons_of_mem _ member)
        refine ⟨otherBuffer, touched.shaped ?_ otherShaped⟩
        intro same
        rw [List.mem_singleton] at same
        exact distinct.1 (same ▸ List.mem_map_of_mem member)
      obtain ⟨after, ran, restTouched, restSized⟩ := inductionHypothesis
        (fun other member => areCaches other (List.mem_cons_of_mem _ member)) distinct.2
        restShaped
      refine ⟨after, step.trans ran, touched.cons restTouched, fun other member => ?_⟩
      rcases List.mem_cons.mp member with here | later
      · rw [here]
        exact ⟨resized, restTouched.sized distinct.1 resizedSized⟩
      · exact restSized other later

/-- A growth whose first shape is refused changes nothing. -/
theorem growCaches_refused (uniform : model.Uniform)
    (refuses : backend.Refuses model signature) (newLength entriesToAdd : Nat) :
    ∃ status, growCaches model backend signature newLength entriesToAdd model.cacheInputs state =
      .error status state := by
  obtain ⟨first, status, isFirst, refused⟩ := refuses
  obtain ⟨rest, inputs⟩ := List.head?_eq_some_iff.mp isFirst
  have isCache : first ∈ model.cacheInputs := by
    rw [inputs]
    exact List.mem_cons_self
  refine ⟨status, ?_⟩
  rw [inputs, growCaches, bind_of_error
    (resolveDynamicShape_refused uniform isCache newLength refused)]

end Growing

/-! ## Reading the cache -/

theorem keyInput_mem (model : KvCacheInputs) :
    (model.keyCacheInputNames.head model.keysPresent, model.keyDynamicDimIndex) ∈
      model.cacheInputs :=
  List.mem_append_left _ (List.mem_map_of_mem (List.head_mem model.keysPresent))

section Reading

variable {signature : Signature} {kvLength : Nat}

theorem cacheEmpty_of_unallocated (unallocated : Unallocated model state) :
    cacheEmpty model state = true := by
  rw [cacheEmpty, List.all_eq_true]
  intro input isCache
  rw [unallocated.noCache input isCache]
  rfl

theorem cacheEmpty_of_sized (sized : CachesSized model state signature kvLength) :
    cacheEmpty model state = false := by
  obtain ⟨buffer, bufferSized⟩ := sized.buffers _ (keyInput_mem model)
  rw [cacheEmpty, List.all_eq_false]
  refine ⟨_, keyInput_mem model, ?_⟩
  rw [bufferSized.held]
  exact Bool.false_ne_true

theorem keyLength_ok (sized : CachesSized model state signature kvLength) :
    keyLength model state = .ok kvLength state := by
  obtain ⟨buffer, bufferSized⟩ := sized.buffers _ (keyInput_mem model)
  have found : getBuffer (model.keyCacheInputNames.head model.keysPresent) state =
      .ok buffer state :=
    getBuffer_ok bufferSized.held
  rw [keyLength, bind_of_ok found, bufferSized.shaped.dimension]
  rfl

/-- The first key cache has as many entries as all. -/
theorem hasRoom_iff (sized : CachesSized model state signature kvLength) (length : Nat) :
    HasRoom model state length ↔ state.executor.processedCount + length ≤ kvLength := by
  obtain ⟨buffer, bufferSized⟩ := sized.buffers _ (keyInput_mem model)
  constructor
  · intro hasRoom
    obtain ⟨other, entries, held, dimension, room⟩ := hasRoom
    cases bufferSized.held.symm.trans held
    cases bufferSized.shaped.dimension.symm.trans dimension
    exact room
  · intro room
    exact ⟨buffer, kvLength, bufferSized.held, bufferSized.shaped.dimension, room⟩

end Reading

/-! ## Providing room -/

section Providing

variable [Zero Scalar] {signature signature' : Signature} {kvLength more : Nat}

/-- Growing all caches for a signature sizes them for it, or fails and changes nothing. -/
theorem enlarge_ends (uniform : model.Uniform) (grows : 0 < more)
    (sized : CachesSized model state signature' kvLength)
    (growsWhole : backend.Refuses model signature ∨ backend.Grows model signature) :
    (∃ status, (do
        growCaches model backend signature (kvLength + more) more model.cacheInputs
        markSized signature) state = .error status state) ∨
      ∃ after, (do
        growCaches model backend signature (kvLength + more) more model.cacheInputs
        markSized signature) state = .ok () after ∧
      CachesTouched model (model.cacheInputs.map Prod.fst) state after ∧
      CachesSized model after signature (kvLength + more) := by
  rcases growsWhole with refuses | backendGrows
  · obtain ⟨status, refused⟩ := growCaches_refused uniform refuses
      (kvLength + more) more
    exact .inl ⟨status, bind_of_error refused _⟩
  · obtain ⟨after, ran, touched, resized⟩ := growCaches_ok uniform grows backendGrows
      model.cacheInputs (fun _ member => member) uniform.distinct
      (fun input isCache =>
        (sized.buffers input isCache).imp fun _ bufferSized => bufferSized.toBufferShaped)
    refine .inr ⟨_, (bind_of_ok ran _).trans rfl, ?_, ?_, rfl⟩
    · exact ⟨touched.executor, touched.input, touched.output, touched.accepted, touched.logged,
        touched.others⟩
    · intro input isCache
      obtain ⟨buffer, bufferSized⟩ := resized input isCache
      exact ⟨buffer, ⟨bufferSized.held, bufferSized.shaped, bufferSized.declared⟩,
        bufferSized.requested⟩

/-- What precedes a run: the caches of a settled run get room for it, or the call fails
before they change. -/
structure Provided (model : KvCacheInputs) (program : DynamicM Scalar Unit)
    (state : DynamicExecutor Scalar) (signature : Signature) (length : Nat)
    (after : DynamicExecutor Scalar) : Prop where
  ran : program state = .ok () after
  touched : CachesTouched model (model.cacheInputs.map Prod.fst) state after
  sized : ∃ kvLength, CachesSized model after signature kvLength ∧
    state.executor.processedCount + length ≤ kvLength

/-- Growth of a cache without room. -/
theorem provided_of_settled (uniform : model.Uniform) (grows : 0 < more) {length : Nat}
    (few : length ≤ more) (room : state.executor.processedCount ≤ kvLength)
    (sized : CachesSized model state signature' kvLength)
    (settled : RunSettled model state backend signature length) (condition : Prop)
    [Decidable condition]
    (full : condition ↔ ¬state.executor.processedCount + length ≤ kvLength) :
    (∃ status, (do
        if condition then
          growCaches model backend signature (kvLength + more) more model.cacheInputs
          markSized signature : DynamicM Scalar Unit) state = .error status state) ∨
      ∃ after, Provided model (do
        if condition then
          growCaches model backend signature (kvLength + more) more model.cacheInputs
          markSized signature) state signature length after := by
  by_cases enough : state.executor.processedCount + length ≤ kvLength
  · have noGrowth : ¬condition := fun holds => full.mp holds enough
    have same : signature' = signature := Option.some.inj
      (sized.sizedFor.symm.trans (settled.sizedForIt ((hasRoom_iff sized length).mpr enough)))
    rw [if_neg noGrowth]
    exact .inr ⟨state, rfl, .refl model _ state, kvLength, same ▸ sized, enough⟩
  · rw [if_pos (full.mpr enough)]
    have growsWhole := settled.growsWhole fun hasRoom =>
      enough ((hasRoom_iff sized length).mp hasRoom)
    rcases enlarge_ends uniform grows sized growsWhole with failed | enlarged
    · exact .inl failed
    · obtain ⟨after, ran, touched, resized⟩ := enlarged
      exact .inr ⟨after, ran, touched, kvLength + more, resized, by omega⟩

/-- A prefill on a cache. -/
theorem provideCaches_settled (uniform : model.Uniform) {length : Nat} (some : 0 < length)
    (room : state.executor.processedCount ≤ kvLength)
    (sized : CachesSized model state signature' kvLength)
    (settled : RunSettled model state backend .prefill length) :
    (∃ status, provideCaches model backend state.executor.processedCount length state =
        .error status state) ∨
      ∃ after, Provided model (provideCaches model backend state.executor.processedCount length)
        state .prefill length after := by
  have provided := provided_of_settled uniform some (Nat.le_refl length) room sized settled
    ((length : Int) > kvLength - state.executor.processedCount) (by omega)
  have unfolded : provideCaches model backend state.executor.processedCount length state =
      (do
        if (length : Int) > kvLength - state.executor.processedCount then
          growCaches model backend .prefill (kvLength + length) length model.cacheInputs
          markSized .prefill : DynamicM Scalar Unit) state := by
    rw [provideCaches]
    show (if cacheEmpty model state = true then _ else _ : DynamicM Scalar Unit) state = _
    rw [cacheEmpty_of_sized sized, if_neg Bool.false_ne_true, bind_of_ok (keyLength_ok sized)]
  rcases provided with failed | provided
  · exact .inl (failed.imp fun _ failed => unfolded.trans failed)
  · obtain ⟨after, provided⟩ := provided
    exact .inr ⟨after, unfolded.trans provided.ran, provided.touched, provided.sized⟩

/-- A decode on a cache. -/
theorem provideDecodeEntry_settled (uniform : model.Uniform)
    (room : state.executor.processedCount ≤ kvLength)
    (sized : CachesSized model state signature' kvLength)
    (settled : RunSettled model state backend .decode 1) :
    (∃ status, provideDecodeEntry model backend state.executor.processedCount state =
        .error status state) ∨
      ∃ after, Provided model (provideDecodeEntry model backend state.executor.processedCount)
        state .decode 1 after := by
  have provided := provided_of_settled uniform model.incrementPositive
    model.incrementPositive room sized settled
    (kvLength ≤ state.executor.processedCount) (by omega)
  have unfolded : provideDecodeEntry model backend state.executor.processedCount state =
      (do
        if kvLength ≤ state.executor.processedCount then
          growCaches model backend .decode (kvLength + model.kvIncrementSize)
            model.kvIncrementSize model.cacheInputs
          markSized .decode : DynamicM Scalar Unit) state :=
    bind_of_ok (keyLength_ok sized) _
  rcases provided with failed | provided
  · exact .inl (failed.imp fun _ failed => unfolded.trans failed)
  · obtain ⟨after, provided⟩ := provided
    exact .inr ⟨after, unfolded.trans provided.ran, provided.touched, provided.sized⟩

/-- A first prefill. -/
theorem provideCaches_first (uniform : model.Uniform) (length : Nat)
    (unallocated : Unallocated model state)
    (whole : backend.Refuses model .prefill ∨ backend.Allocates model) :
    (∃ status, provideCaches model backend state.executor.processedCount length state =
        .error status state) ∨
      backend.executor.createPrefillInputBuffers = .ok () ∧
      ∃ after, Provided model (provideCaches model backend state.executor.processedCount length)
        state .prefill length after := by
  have unfolded : provideCaches model backend state.executor.processedCount length state =
      (do
        allocateCaches model backend length model.cacheInputs
        markSized .prefill) state := by
    rw [provideCaches]
    show (if cacheEmpty model state = true then _ else _ : DynamicM Scalar Unit) state = _
    rw [cacheEmpty_of_unallocated unallocated, if_pos rfl]
  rcases whole with refuses | allocates
  · obtain ⟨status, refused⟩ := allocateCaches_refused uniform refuses length
    exact .inl ⟨status, unfolded.trans (bind_of_error refused _)⟩
  · obtain ⟨after, ran, touched, allocated⟩ := allocateCaches_ok uniform
      allocates length model.cacheInputs (fun _ member => member) uniform.distinct
    refine .inr ⟨allocates.2, _, (unfolded.trans (bind_of_ok ran _)).trans rfl, ?_, length, ⟨?_, rfl⟩, ?_⟩
    · exact ⟨touched.executor, touched.input, touched.output, touched.accepted, touched.logged,
        touched.others⟩
    · intro input isCache
      obtain ⟨buffer, bufferSized⟩ := allocated input isCache
      exact ⟨buffer, ⟨bufferSized.held, bufferSized.shaped, bufferSized.declared⟩,
        bufferSized.requested⟩
    · rw [unallocated.noTokens, Nat.zero_add]

end Providing

end DynamicExecutor

end LiteRTLM.Executor
