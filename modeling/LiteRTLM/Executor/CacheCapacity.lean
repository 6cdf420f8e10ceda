import LiteRTLM.Executor.CacheGrowth

/-!
Contract: room and shapes of the KV cache of `LlmLiteRtCompiledModelExecutorDynamic`, over
runs of calls.

Owns: what each call keeps of the invariant, also when it fails, and that every use of the
cache is sound in all runs of settled calls.

Does not own: what allocation and growth do.
-/

namespace LiteRTLM.Executor.DynamicExecutor

open LiteRTLM.Engine
open LiteRTLM.Library
open LiteRTLM.Util

variable {Scalar : Type} {model : KvCacheInputs} {state : DynamicExecutor Scalar}
  {backend : CacheBackend Scalar}

/-! ## Runs -/

/-- The parts of the invariant while a call uses the caches, with room for `spare` more
tokens. -/
structure RoomFor (model : KvCacheInputs) (state : DynamicExecutor Scalar) (spare : Nat) :
    Prop where
  single : state.executor.batchSizes = (1, 1)
  allocated : ∃ signature kvLength, Allocated model state signature kvLength spare
  sound : ∀ event ∈ state.log, event.Sound model

theorem RoomFor.mono {spare less : Nat} (room : RoomFor model state spare) (fewer : less ≤ spare) :
    RoomFor model state less := by
  obtain ⟨signature, kvLength, allocated⟩ := room.allocated
  refine ⟨room.single, ⟨signature, kvLength, allocated.toCachesSized, allocated.input,
    allocated.output, ?_⟩, room.sound⟩
  exact Nat.le_trans (Nat.add_le_add_left fewer _) allocated.room

theorem RoomFor.invariant {spare : Nat} (room : RoomFor model state spare) :
    CacheInvariant model state :=
  ⟨room.single, .inr (room.mono (Nat.zero_le spare)).allocated, room.sound⟩

/-- A part on counters and history uses up the room it takes. -/
theorem RoomFor.onExecutor {α : Type} {program : ExecutorM Scalar α} {amount spare : Nat}
    (room : RoomFor model state (amount + spare))
    (raises : RaisesAtMost CompiledModelExecutor.processedCount amount program state.executor)
    (keeps : Keeps CompiledModelExecutor.batchSizes program state.executor) :
    Ends (DynamicExecutor.onExecutor program) state (fun _ after => RoomFor model after spare)
      (fun _ after => RoomFor model after spare) := by
  rw [DynamicExecutor.onExecutor, ends_onPart]
  apply ends_of_finalState
  obtain ⟨signature, kvLength, allocated⟩ := room.allocated
  have high : (finalState program state.executor).processedCount ≤
      state.executor.processedCount + amount := raises
  have enough := allocated.room
  refine ⟨keeps.trans room.single, ⟨signature, kvLength, ⟨?_, allocated.sizedFor⟩,
    allocated.input, allocated.output, ?_⟩, room.sound⟩
  · intro input isCache
    obtain ⟨buffer, bufferSized⟩ := allocated.buffers input isCache
    exact ⟨buffer, ⟨bufferSized.held, bufferSized.shaped, bufferSized.declared⟩,
      bufferSized.requested⟩
  · show (finalState program state.executor).processedCount + spare ≤ kvLength
    omega

/-- A part on counters and history that takes no room. -/
theorem RoomFor.onExecutor_keeps {α : Type} {program : ExecutorM Scalar α} {spare : Nat}
    (room : RoomFor model state spare)
    (keeps : Keeps CompiledModelExecutor.batchSizesAndStep program state.executor) :
    Ends (DynamicExecutor.onExecutor program) state (fun _ after => RoomFor model after spare)
      (fun _ after => RoomFor model after spare) := by
  have sameRoom : RoomFor model state (0 + spare) := (Nat.zero_add spare).symm ▸ room
  exact sameRoom.onExecutor ((CompiledModelExecutor.keeps_step keeps).raisesAtMost 0)
    (CompiledModelExecutor.keeps_batchSizes keeps)

theorem RoomFor.returnIfError {α : Type} {status : StatusOr α} {spare : Nat}
    (room : RoomFor model state spare) :
    Ends (DynamicExecutor.returnIfError status) state
      (fun _ after => RoomFor model after spare) (fun _ after => RoomFor model after spare) := by
  cases status <;> exact room

/-- Buffers with room for the run, of the shapes requested for its signature. -/
theorem RoomFor.handOver {signature : Signature} {kvLength step length : Nat}
    (allocated : Allocated model state signature kvLength length)
    (single : state.executor.batchSizes = (1, 1))
    (sound : ∀ event ∈ state.log, event.Sound model)
    (atStep : state.executor.processedCount = step) :
    Ends (DynamicExecutor.handOver signature step length) state
      (fun _ after => RoomFor model after length ∧ after.executor = state.executor)
      (fun _ _ => False) := by
  refine ⟨⟨single, ⟨signature, kvLength, ⟨?_, allocated.sizedFor⟩, allocated.input,
    allocated.output, allocated.room⟩, ?_⟩, rfl⟩
  · intro input isCache
    obtain ⟨buffer, bufferSized⟩ := allocated.buffers input isCache
    exact ⟨buffer, ⟨bufferSized.held, bufferSized.shaped, bufferSized.declared⟩,
      bufferSized.requested⟩
  · intro event member
    rcases List.mem_append.mp member with old | new
    · exact sound event old
    · rw [List.mem_singleton.mp new]
      intro input isCache
      obtain ⟨buffer, bufferSized⟩ := allocated.buffers input isCache
      refine ⟨buffer, kvLength, ?_, bufferSized.shaped.dimension, atStep ▸ allocated.room,
        bufferSized.requested⟩
      show state.buffersAt state.inputKvCacheBuffers input.1 = some buffer
      rw [allocated.input]
      exact bufferSized.held

/-- A run of the model leaves the shapes of the caches as they are. -/
theorem RoomFor.runAndSwap {spare : Nat} (room : RoomFor model state spare)
    (backend : CacheBackend Scalar) :
    Ends (DynamicExecutor.runAndSwap backend) state (fun _ after => RoomFor model after spare)
      (fun _ _ => False) := by
  obtain ⟨signature, kvLength, allocated⟩ := room.allocated
  refine ⟨room.single, ⟨signature, kvLength, ⟨?_, allocated.sizedFor⟩, allocated.output,
    allocated.input, allocated.room⟩, room.sound⟩
  intro input isCache
  obtain ⟨buffer, bufferSized⟩ := allocated.buffers input isCache
  have swapped : (if state.outputKvCacheBuffers = .kvCacheBuffers1 then fun name =>
        (state.kvCacheBuffers1 name).map fun buffer =>
          { buffer with data := (List.range buffer.data.length).map (backend.written name) }
      else state.kvCacheBuffers1) input.1 = some { buffer with
        data := (List.range buffer.data.length).map (backend.written input.1) } := by
    rw [if_pos allocated.output, bufferSized.held]
    rfl
  refine ⟨_, ⟨swapped, ⟨bufferSized.shaped.dimension, ?_⟩, bufferSized.declared⟩,
    bufferSized.requested⟩
  show ((List.range buffer.data.length).map _).length = _
  rw [List.length_map, List.length_range]
  exact bufferSized.shaped.sized

/-- A checked condition leaves the executor as it is. -/
theorem ends_retCheck (condition : Prop) [Decidable condition] (text : String)
    {returned : Unit → DynamicExecutor Scalar → Prop}
    {failed : Status → DynamicExecutor Scalar → Prop} :
    Ends (onExecutor (CompiledModelExecutor.retCheck condition text)) state returned failed ↔
      (condition → returned () state) ∧ (¬condition → failed (.internalError text) state) := by
  rw [onExecutor, ends_onPart, CompiledModelExecutor.retCheck, ends_ite]
  exact Iff.rfl

/-- An accepted prefill has left a cache. -/
theorem RoomFor.accepted {spare : Nat} (room : RoomFor model state spare) :
    CacheInvariant model { state with prefillAccepted := true } := by
  obtain ⟨signature, kvLength, allocated⟩ := (room.mono (Nat.zero_le spare)).allocated
  refine ⟨room.single, .inr ⟨signature, kvLength, ⟨?_, allocated.sizedFor⟩, allocated.input,
    allocated.output, allocated.room⟩, room.sound⟩
  intro input isCache
  obtain ⟨buffer, bufferSized⟩ := allocated.buffers input isCache
  exact ⟨buffer, ⟨bufferSized.held, bufferSized.shaped, bufferSized.declared⟩,
    bufferSized.requested⟩

/-! ## Calls -/

/-- Caches provided for a run have the room, and nothing else is changed. -/
theorem Provided.allocated {program : DynamicM Scalar Unit} {signature : Signature}
    {length : Nat} {after : DynamicExecutor Scalar}
    (provided : Provided model program state signature length after)
    (input : after.inputKvCacheBuffers = .kvCacheBuffers1)
    (output : after.outputKvCacheBuffers = .kvCacheBuffers1) :
    ∃ kvLength, Allocated model after signature kvLength length := by
  obtain ⟨kvLength, sized, room⟩ := provided.sized
  refine ⟨kvLength, sized, input, output, ?_⟩
  rw [provided.touched.executor]
  exact room

theorem Provided.sound {program : DynamicM Scalar Unit} {signature : Signature}
    {length : Nat} {after : DynamicExecutor Scalar}
    (provided : Provided model program state signature length after)
    (sound : ∀ event ∈ state.log, event.Sound model) :
    ∀ event ∈ after.log, event.Sound model := by
  intro event member
  rcases provided.touched.logged event member with old | new
  · exact sound event old
  · exact new

/-- What `Prefill` does once the caches are provided. -/
theorem prefillRun_provided [Zero Scalar] {tokenIds : List Int}
    {provided : DynamicExecutor Scalar}
    (room : Provided model (provideCaches model backend state.executor.processedCount
      (prefillLength state tokenIds)) state .prefill (prefillLength state tokenIds) provided)
    (single : state.executor.batchSizes = (1, 1))
    (sound : ∀ event ∈ state.log, event.Sound model)
    (continues : backend.executor.createPrefillInputBuffers = .ok () ∨
      state.inputKvCacheBuffers = .kvCacheBuffers1 ∧
        state.outputKvCacheBuffers = .kvCacheBuffers1) :
    Ends (prefillRun model backend state.executor.processedCount (prefillLength state tokenIds)
        tokenIds) state
      (fun _ after => RoomFor model after 0) (fun _ after => CacheInvariant model after) := by
  have sameExecutor := room.touched.executor
  have stillSingle : provided.executor.batchSizes = (1, 1) := by
    rw [sameExecutor]
    exact single
  have stillSound := room.sound sound
  rw [prefillRun, ends_bind, ends_iff_of_ok room.ran, ends_bind]
  cases created : backend.executor.createPrefillInputBuffers with
  | error status =>
      -- the pointers were set by an earlier prefill
      rw [created] at continues
      obtain ⟨input, output⟩ := continues.resolve_left (by simp)
      obtain ⟨kvLength, allocated⟩ := room.allocated (room.touched.input.trans input)
        (room.touched.output.trans output)
      exact RoomFor.invariant ⟨stillSingle, ⟨_, kvLength, allocated⟩, stillSound⟩
  | ok _ =>
      rw [DynamicExecutor.returnIfError, ends_pure, ends_bind, ends_modify, ends_bind]
      obtain ⟨kvLength, sized, enough⟩ := room.sized
      have allocated : Allocated model { provided with
          inputKvCacheBuffers := .kvCacheBuffers1
          outputKvCacheBuffers := .kvCacheBuffers1 } .prefill kvLength
          (prefillLength state tokenIds) := by
        refine ⟨⟨?_, sized.sizedFor⟩, rfl, rfl, ?_⟩
        · intro input isCache
          obtain ⟨buffer, bufferSized⟩ := sized.buffers input isCache
          exact ⟨buffer, ⟨bufferSized.held, bufferSized.shaped, bufferSized.declared⟩,
            bufferSized.requested⟩
        · show provided.executor.processedCount + _ ≤ kvLength
          rw [sameExecutor]
          exact enough
      apply (RoomFor.handOver allocated stillSingle stillSound
        (congrArg CompiledModelExecutor.processedCount sameExecutor)).mono
      · intro _ ready readyRoom
        have executorKept : ready.executor = state.executor := readyRoom.2.trans sameExecutor
        have raises := @CompiledModelExecutor.raises_prefillInternal _ ready.executor
          backend.executor tokenIds
        have amount : (if ready.executor.processedTokens.getPendingInputToken = [] then
            tokenIds.length - 1 else tokenIds.length) = prefillLength state tokenIds := by
          rw [executorKept, prefillLength]
        rw [amount] at raises
        have wholeRoom : RoomFor model ready (prefillLength state tokenIds + 0) := readyRoom.1
        rw [ends_bind]
        apply (wholeRoom.onExecutor raises
          (CompiledModelExecutor.keeps_prefillInternal _ _)).mono
        · intro _ ran ranRoom
          exact (ranRoom.runAndSwap backend).mono (fun _ _ final => final)
            (fun _ _ impossible => impossible.elim)
        · intro _ stopped stoppedRoom
          exact stoppedRoom.invariant
      · intro _ _ impossible
        exact impossible.elim

/-- A prefill that needs cache entries keeps the invariant, however it ends. -/
theorem prefillRun_keeps [Zero Scalar] (uniform : model.Uniform)
    (invariant : CacheInvariant model state)
    {inputBatchSize : Nat} {tokenIds : List Int} (some : 0 < prefillLength state tokenIds)
    (notStored : ¬(state.executor.processedTokens.getPendingInputToken = [] ∧
      tokenIds.length = 1))
    (settled : Settled model state (.prefill backend inputBatchSize tokenIds)) :
    Ends (prefillRun model backend state.executor.processedCount (prefillLength state tokenIds)
        tokenIds) state
      (fun _ after => RoomFor model after 0) (fun _ after => CacheInvariant model after) := by
  rcases invariant.caches with unallocated | allocated
  · rw [Settled, if_pos (cacheEmpty_of_unallocated unallocated)] at settled
    rcases provideCaches_first uniform (prefillLength state tokenIds) unallocated settled.2
      with failed | provided
    · obtain ⟨status, failed⟩ := failed
      rw [prefillRun, ends_iff_of_error (bind_of_error failed _)]
      exact invariant
    · obtain ⟨created, after, provided⟩ := provided
      exact prefillRun_provided provided invariant.single invariant.sound (.inl created)
  · obtain ⟨signature, kvLength, allocated⟩ := allocated
    rw [Settled, if_neg (by rw [cacheEmpty_of_sized allocated.toCachesSized]; simp)] at settled
    rcases provideCaches_settled uniform some allocated.room allocated.toCachesSized
      (settled notStored) with failed | provided
    · obtain ⟨status, failed⟩ := failed
      rw [prefillRun, ends_iff_of_error (bind_of_error failed _)]
      exact invariant
    · obtain ⟨after, provided⟩ := provided
      exact prefillRun_provided provided invariant.single invariant.sound
        (.inr ⟨allocated.input, allocated.output⟩)

/-- A single id is stored only while there is a cache. -/
theorem roomFor_of_stored (invariant : CacheInvariant model state) {inputBatchSize : Nat}
    {tokenIds : List Int}
    (stored : state.executor.processedTokens.getPendingInputToken = [] ∧ tokenIds.length = 1)
    (settled : Settled model state (.prefill backend inputBatchSize tokenIds)) :
    RoomFor model state 0 := by
  rcases invariant.caches with unallocated | allocated
  · rw [Settled, if_pos (cacheEmpty_of_unallocated unallocated)] at settled
    exact absurd stored settled.1
  · exact ⟨invariant.single, allocated, invariant.sound⟩

/-- `Prefill` keeps the invariant, however it ends. -/
theorem prefill_keeps [Zero Scalar] (uniform : model.Uniform)
    (invariant : CacheInvariant model state)
    {inputBatchSize : Nat} {tokenIds : List Int}
    (settled : Settled model state (.prefill backend inputBatchSize tokenIds)) :
    Ends (prefill model backend inputBatchSize tokenIds) state
      (fun _ after => CacheInvariant model after)
      (fun _ after => CacheInvariant model after) := by
  rw [prefill, ends_bind, ends_retCheck]
  refine ⟨fun singleBatch => ?_, fun _ => invariant⟩
  rw [ends_bind, ends_retCheck]
  refine ⟨fun someIds => ?_, fun _ => invariant⟩
  rw [singleBatch, Nat.div_one] at someIds
  rw [ends_bind, ends_get]
  show Ends (if state.executor.processedTokens.getPendingInputToken = [] ∧
      prefillLength state tokenIds = 0 then _ else _) _ _ _
  rw [ends_ite]
  constructor
  · intro nothingToRun
    have single : tokenIds.length = 1 := by
      have none := nothingToRun.2
      rw [prefillLength, if_pos nothingToRun.1] at none
      omega
    have room := roomFor_of_stored invariant ⟨nothingToRun.1, single⟩ settled
    rw [ends_bind]
    exact (room.onExecutor_keeps (CompiledModelExecutor.keeps_addPendingInputToken _)).mono
      (fun _ _ stored => stored.accepted) (fun _ _ stopped => stopped.invariant)
  · intro runs
    have notStored : ¬(state.executor.processedTokens.getPendingInputToken = [] ∧
        tokenIds.length = 1) := by
      intro stored
      apply runs
      rw [prefillLength, if_pos stored.1, stored.2]
      exact ⟨stored.1, rfl⟩
    have some : 0 < prefillLength state tokenIds := by
      rw [Nat.pos_iff_ne_zero]
      intro none
      by_cases pending : state.executor.processedTokens.getPendingInputToken = []
      · exact runs ⟨pending, none⟩
      · rw [prefillLength, if_neg pending] at none
        omega
    rw [ends_bind]
    exact (prefillRun_keeps uniform invariant some notStored settled).mono
      (fun _ _ ran => ran.accepted) (fun _ _ stopped => stopped)

/-- A change of the executor that keeps its step does not concern the caches. -/
theorem CacheInvariant.withExecutor (invariant : CacheInvariant model state)
    {executor : CompiledModelExecutor Scalar}
    (same : executor.batchSizesAndStep = state.executor.batchSizesAndStep) :
    CacheInvariant model { state with executor } := by
  have step : executor.processedCount = state.executor.processedCount := congrArg Prod.snd same
  refine ⟨(congrArg Prod.fst same).trans invariant.single, ?_, invariant.sound⟩
  rcases invariant.caches with unallocated | allocated
  · exact .inl ⟨unallocated.noCache, step.trans unallocated.noTokens, unallocated.notAccepted⟩
  · obtain ⟨signature, kvLength, allocated⟩ := allocated
    refine .inr ⟨signature, kvLength, ⟨?_, allocated.sizedFor⟩, allocated.input,
      allocated.output, ?_⟩
    · intro input isCache
      obtain ⟨buffer, bufferSized⟩ := allocated.buffers input isCache
      exact ⟨buffer, ⟨bufferSized.held, bufferSized.shaped, bufferSized.declared⟩,
        bufferSized.requested⟩
    · show executor.processedCount + 0 ≤ kvLength
      rw [step]
      exact allocated.room

theorem RunSettled.withExecutor {signature : Signature} {length : Nat}
    (settled : RunSettled model state backend signature length)
    {executor : CompiledModelExecutor Scalar}
    (same : executor.batchSizesAndStep = state.executor.batchSizesAndStep) :
    RunSettled model { state with executor } backend signature length := by
  have step : executor.processedCount = state.executor.processedCount := congrArg Prod.snd same
  have sameRoom : HasRoom model { state with executor } length ↔ HasRoom model state length := by
    unfold HasRoom
    show (∃ _ _, _ ∧ _ ∧ executor.processedCount + length ≤ _) ↔ _
    rw [step]
  exact ⟨fun room => settled.sizedForIt (sameRoom.mp room),
    fun full => settled.growsWhole fun room => full (sameRoom.mpr room)⟩

/-- `DecodeInternal` keeps the invariant, and room for the token it feeds. -/
theorem decodeInternal_keeps [Zero Scalar] (uniform : model.Uniform)
    (invariant : CacheInvariant model state)
    (settled : cacheEmpty model state = false → RunSettled model state backend .decode 1)
    {step : Nat} (atStep : state.executor.processedCount = step)
    (token : List (TokenData Scalar)) :
    Ends (decodeInternal model backend step token) state
      (fun _ after => RoomFor model after 1) (fun _ after => CacheInvariant model after) := by
  rw [decodeInternal, ends_bind, ends_get, ends_ite]
  rcases invariant.caches with unallocated | allocated
  · constructor
    · -- the decode is refused, and no prefill was accepted
      intro _
      refine ⟨invariant.single, .inl ⟨unallocated.noCache, unallocated.noTokens,
        unallocated.notAccepted⟩, ?_⟩
      intro event member
      rcases List.mem_append.mp member with old | new
      · exact invariant.sound event old
      · rw [List.mem_singleton.mp new]
        exact unallocated.notAccepted
    · intro notEmpty
      exact absurd (cacheEmpty_of_unallocated unallocated) notEmpty
  · obtain ⟨signature, kvLength, allocated⟩ := allocated
    have notEmpty := cacheEmpty_of_sized allocated.toCachesSized
    constructor
    · intro empty
      rw [notEmpty] at empty
      exact absurd empty Bool.false_ne_true
    · intro _
      subst atStep
      rcases provideDecodeEntry_settled uniform allocated.room allocated.toCachesSized
        (settled notEmpty) with failed | provided
      · obtain ⟨status, failed⟩ := failed
        rw [ends_iff_of_error (bind_of_error failed _)]
        exact invariant
      · obtain ⟨after, provided⟩ := provided
        have sameExecutor := provided.touched.executor
        have single : after.executor.batchSizes = (1, 1) := by
          rw [sameExecutor]
          exact invariant.single
        obtain ⟨newLength, ready⟩ := provided.allocated
          (provided.touched.input.trans allocated.input)
          (provided.touched.output.trans allocated.output)
        have room : RoomFor model after 1 :=
          ⟨single, ⟨_, newLength, ready⟩, provided.sound invariant.sound⟩
        rw [ends_bind, ends_iff_of_ok provided.ran, ends_bind]
        cases backend.createAttentionMask with
        | error status => exact room.invariant
        | ok _ =>
            rw [DynamicExecutor.returnIfError, ends_pure, ends_bind]
            apply (RoomFor.handOver ready single (provided.sound invariant.sound)
              (congrArg CompiledModelExecutor.processedCount sameExecutor)).mono
            · intro _ handed handedRoom
              rw [ends_bind]
              apply (handedRoom.1.onExecutor_keeps
                (CompiledModelExecutor.keeps_decodeInternal _ _ _)).mono
              · intro _ ran ranRoom
                exact (ranRoom.runAndSwap backend).mono (fun _ _ final => final)
                  (fun _ _ impossible => impossible.elim)
              · intro _ stopped stoppedRoom
                exact stoppedRoom.invariant
            · intro _ _ impossible
              exact impossible.elim

/-- The decodes keep the invariant, however they end. -/
theorem decodeInputs_keeps [Zero Scalar] (uniform : model.Uniform)
    (invariant : CacheInvariant model state)
    (settled : cacheEmpty model state = false → RunSettled model state backend .decode 1)
    (inputs : Option (List Int)) (finish : StatusOr Unit) :
    Ends (decodeInputs model backend inputs finish) state
      (fun _ after => CacheInvariant model after)
      (fun _ after => CacheInvariant model after) := by
  have single : state.executor.outputBatchSize = 1 := congrArg Prod.fst invariant.single
  rw [decodeInputs, ends_bind, onExecutor, ends_onPart]
  apply (CompiledModelExecutor.keeps_prepareFirstDecode backend.executor single).ends.mono
  · intro _ prepared samePrepared
    rw [ends_bind, onExecutor, ends_onPart]
    apply (CompiledModelExecutor.getTokenToDecode_ends backend.executor inputs).mono
    · intro next taken takenKnown
      have same := takenKnown.1.trans samePrepared
      have few : next.token.length ≤ 1 := by
        have candidates : prepared.processedTokens.tokens.length = 1 :=
          (congrArg (fun sizes => sizes.1.2) samePrepared).trans
            (congrArg Prod.snd invariant.single)
        exact candidates ▸ takenKnown.2.2
      have atStep : taken.processedCount = next.step :=
        (congrArg Prod.snd takenKnown.1).trans takenKnown.2.1.symm
      rw [ends_bind]
      apply (decodeInternal_keeps uniform (invariant.withExecutor same)
        (fun notEmpty => (settled notEmpty).withExecutor same) atStep next.token).mono
      · intro _ ran room
        have wholeRoom : RoomFor model ran (1 + 0) := room
        rw [ends_bind]
        apply (wholeRoom.onExecutor
          (CompiledModelExecutor.raises_consumePendingOrAddProcessedToken few)
          (CompiledModelExecutor.keeps_consumePendingOrAddProcessedToken _)).mono
        · intro _ consumed consumedRoom
          rw [ends_bind]
          apply consumedRoom.returnIfError.mono
          · intro _ finished finishedRoom
            have counted : Keeps CompiledModelExecutor.batchSizesAndStep
                (modify fun executor => { executor with currentStep := next.step + 1 } :
                  ExecutorM Scalar Unit) finished.executor := rfl
            exact (finishedRoom.onExecutor_keeps counted).mono
              (fun _ _ final => final.invariant) (fun _ _ final => final.invariant)
          · intro _ stopped stoppedRoom
            exact stoppedRoom.invariant
        · intro _ stopped stoppedRoom
          exact stoppedRoom.invariant
      · intro _ stopped kept
        exact kept
    · intro _ stopped same
      exact invariant.withExecutor (same.trans samePrepared)
  · intro _ stopped same
    exact invariant.withExecutor same

/-- `Decode(output_tokens)` keeps the invariant, however it ends. -/
theorem decode_keeps [Zero Scalar] (uniform : model.Uniform)
    (invariant : CacheInvariant model state)
    (settled : cacheEmpty model state = false → RunSettled model state backend .decode 1) :
    Ends (decode model backend) state (fun _ after => CacheInvariant model after)
      (fun _ after => CacheInvariant model after) := by
  rw [decode, ends_bind]
  apply (decodeInputs_keeps uniform invariant settled none _).mono
  · intro _ decoded kept
    rw [onExecutor, ends_onPart]
    have sampled : Keeps CompiledModelExecutor.batchSizesAndStep (do
        let outputTokens ← CompiledModelExecutor.returnIfError backend.executor.sampleToIds
        let outputBatchSize := (← get).outputBatchSize
        CompiledModelExecutor.retCheck (outputTokens.length = outputBatchSize)
          "output_tokens_size == output_batch_size_ * sizeof(int32_t)"
        CompiledModelExecutor.updateProcessedTokens fun processed =>
          processed.addPendingInputToken (outputTokens.map fun id =>
            TokenData.ofId (CompiledModelExecutor.validToken id))) decoded.executor := by
      apply (CompiledModelExecutor.keeps_returnIfError _).bind
      intro outputTokens between
      apply Keeps.get_bind
      apply (CompiledModelExecutor.keeps_retCheck _ _).bind
      intro _ checked
      exact CompiledModelExecutor.keeps_addPendingInputToken _
    exact sampled.ends.mono (fun _ _ same => kept.withExecutor same)
      (fun _ _ same => kept.withExecutor same)
  · intro _ stopped kept
    exact kept

/-- A reset keeps the caches. -/
theorem reset_keeps (invariant : CacheInvariant model state) :
    Ends (onExecutor CompiledModelExecutor.reset) state
      (fun _ after => CacheInvariant model after)
      (fun _ after => CacheInvariant model after) := by
  rw [onExecutor, ends_onPart]
  apply ends_of_finalState
  have ended := @CompiledModelExecutor.reset_ends _ state.executor
  refine ⟨ended.2.trans invariant.single, ?_, invariant.sound⟩
  rcases invariant.caches with unallocated | allocated
  · exact .inl ⟨unallocated.noCache, ended.1, unallocated.notAccepted⟩
  · obtain ⟨signature, kvLength, allocated⟩ := allocated
    refine .inr ⟨signature, kvLength, ⟨?_, allocated.sizedFor⟩, allocated.input,
      allocated.output, ?_⟩
    · intro input isCache
      obtain ⟨buffer, bufferSized⟩ := allocated.buffers input isCache
      exact ⟨buffer, ⟨bufferSized.held, bufferSized.shaped, bufferSized.declared⟩,
        bufferSized.requested⟩
    · show (finalState CompiledModelExecutor.reset state.executor).processedCount + 0 ≤ kvLength
      rw [ended.1]
      exact Nat.zero_le _

/-! ## Runs of calls -/

/-- A settled call keeps the invariant, whether it succeeds or fails. -/
theorem call_keeps [Zero Scalar] (uniform : model.Uniform)
    (invariant : CacheInvariant model state) {call : Call Scalar}
    (settled : Settled model state call) :
    CacheInvariant model (finalState (call.body model) state) := by
  apply (ends_finalState_iff _ (CacheInvariant model)).mp
  cases call with
  | prefill backend inputBatchSize tokenIds => exact prefill_keeps uniform invariant settled
  | decode backend => exact decode_keeps uniform invariant settled
  | decodeLogits backend inputs => exact decodeInputs_keeps uniform invariant settled _ _
  | decodeInputs backend inputs => exact decodeInputs_keeps uniform invariant settled _ _
  | reset => exact reset_keeps invariant

theorem Fresh.invariant (fresh : Fresh state) : CacheInvariant model state := by
  obtain ⟨signatures, executor⟩ := fresh.executor
  refine ⟨?_, .inl ⟨fun input _ => ?_, ?_, fresh.notAccepted⟩, ?_⟩
  · rw [executor]
    rfl
  · rw [fresh.noCache]
  · rw [executor]
    rfl
  · rw [fresh.unused]
    simp

/-- In every run of settled calls, successful or not, every run of the model has room for
its tokens in caches of the requested shapes, every growth keeps the entries, and no decode
is refused for want of a cache after a prefill. -/
theorem cacheUses_sound [Zero Scalar] (uniform : model.Uniform)
    (reached : (machine model).ReachableUnder (Settled model) state) :
    ∀ event ∈ state.log, event.Sound model := by
  have invariant : CacheInvariant model state := by
    apply reached.invariant (CacheInvariant model)
    · intro fresh starts
      exact Fresh.invariant starts
    · intro before call after held settled steps
      rw [← Option.some.inj steps]
      exact call_keeps uniform held settled
  exact invariant.sound

/-! ## Two runs -/

/-- `HasRoom` as the executor reads it. -/
theorem hasRoom_any (model : KvCacheInputs) (state : DynamicExecutor Scalar) (length : Nat) :
    ((state.kvCacheBuffers1 (model.keyCacheInputNames.head model.keysPresent)).bind
      fun buffer => buffer.dimensions[model.keyDynamicDimIndex]?).any
        (fun kvLength => state.executor.processedCount + length ≤ kvLength) = true ↔
      HasRoom model state length := by
  rw [HasRoom, Option.any_eq_true]
  constructor
  · intro found
    obtain ⟨kvLength, read, room⟩ := found
    obtain ⟨buffer, held, dimension⟩ := Option.bind_eq_some_iff.mp read
    exact ⟨buffer, kvLength, held, dimension, of_decide_eq_true room⟩
  · intro hasRoom
    obtain ⟨buffer, kvLength, held, dimension, room⟩ := hasRoom
    exact ⟨kvLength, Option.bind_eq_some_iff.mpr ⟨buffer, held, dimension⟩,
      decide_eq_true room⟩

instance decidableHasRoom (model : KvCacheInputs) (state : DynamicExecutor Scalar)
    (length : Nat) : Decidable (HasRoom model state length) :=
  decidable_of_iff _ (hasRoom_any model state length)

/-- One key cache and one value cache of a model. -/
def oneLayer : KvCacheInputs where
  keyCacheInputNames := [['k']]
  valueCacheInputNames := [['v']]
  keyDynamicDimIndex := 1
  valueDynamicDimIndex := 0
  kvIncrementSize := 8
  dimensions := fun _ name => some (if name = ['k'] then [some 1, none] else [none, some 2])
  keysPresent := by decide
  incrementPositive := by decide

theorem oneLayer_uniform : oneLayer.Uniform where
  distinct := by decide
  sameDimensions := fun _ _ _ => rfl
  oneDynamic := by
    intro input member
    have cases : input = (['k'], 1) ∨ input = (['v'], 0) := by
      simpa [KvCacheInputs.cacheInputs, oneLayer] using member
    rcases cases with rfl | rfl
    · exact ⟨[1], [], rfl, rfl⟩
    · exact ⟨[], [2], rfl, rfl⟩

/-- A backend whose operations all succeed and whose sampler returns `ids`. -/
def growingBackend (ids : List Int) : CacheBackend Nat where
  executor :=
    { initializeAttentionMask := .ok ()
      fillAttentionMask := fun _ _ => .ok ()
      fillInputBuffer := .ok ()
      updateMultiModalEmbeddings := .ok ()
      createPrefillInputBuffers := .ok ()
      cleanupMultiModalEmbeddings := .ok ()
      embeddingLookup := ⟨fun _ => .ok [], fun _ => .ok [], fun _ => .ok []⟩
      perLayerEmbeddingLookup := ⟨fun _ => .ok [], fun _ => .ok [], fun _ => .ok []⟩
      copyKvCacheBuffers := .ok ()
      compiledModelRun := .ok ()
      maskLogits := .ok ()
      sampleToIds := .ok ids }
  resizeInputTensor := fun _ _ => .ok ()
  createInputBuffer := fun _ => .ok (.float32, fun _ => 0)
  createManaged := fun _ => .ok fun _ => 0
  createAttentionMask := .ok ()
  written := fun _ index => index + 1

def withoutCache : DynamicExecutor Nat where
  executor := .initial ⟨true, false, false, true, 1⟩ 1
  kvCacheBuffers1 := fun _ => none
  inputKvCacheBuffers := .kvCacheBuffers1
  outputKvCacheBuffers := .kvCacheBuffers2
  requested := fun _ => none
  sizedFor := none
  prefillAccepted := false
  log := []

theorem withoutCache_fresh : Fresh withoutCache :=
  ⟨⟨_, rfl⟩, rfl, rfl, rfl, rfl, rfl⟩

/-- A prefill, two decodes of which the first enlarges the cache, and a prefill that does. -/
def growingCalls : List (Call Nat) :=
  [.prefill (growingBackend []) 1 [1, 2, 3], .decode (growingBackend [4]),
    .decodeLogits (growingBackend []) none,
    .prefill (growingBackend []) 1 [5, 6, 7, 8, 9, 10, 11, 12]]

theorem growingBackend_grows (ids : List Int) (signature : Signature) :
    (growingBackend ids).Grows oneLayer signature :=
  fun _ _ => ⟨rfl, _, rfl⟩

/-- The state after some calls. -/
def afterCalls (calls : List (Call Nat)) : DynamicExecutor Nat :=
  calls.foldl (fun state call => finalState (call.body oneLayer) state) withoutCache

theorem growingCalls_guarded :
    (machine oneLayer).GuardedAlong (Settled oneLayer) withoutCache growingCalls := by
  refine ⟨⟨by decide +kernel, .inr ⟨fun _ _ => ⟨rfl, _, rfl⟩, rfl⟩⟩,
    fun _ => ⟨fun room => absurd room ?_, fun _ => .inr (growingBackend_grows _ _)⟩,
    fun _ => ⟨fun _ => ?_, fun _ => .inr (growingBackend_grows _ _)⟩, ?_, trivial⟩
  · show ¬HasRoom oneLayer (afterCalls (growingCalls.take 1)) 1
    decide +kernel
  · show (afterCalls (growingCalls.take 2)).sizedFor = some .decode
    decide +kernel
  · have notEmpty : ¬cacheEmpty oneLayer (afterCalls (growingCalls.take 3)) = true := by
      decide +kernel
    have full : ¬HasRoom oneLayer (afterCalls (growingCalls.take 3)) 7 := by decide +kernel
    show Settled oneLayer (afterCalls (growingCalls.take 3)) _
    rw [Settled, if_neg notEmpty]
    exact fun _ => ⟨fun room => absurd room full, fun _ => .inr (growingBackend_grows _ _)⟩

theorem cacheUses_sound_growingCalls :
    ∃ state, (machine oneLayer).execute withoutCache growingCalls = some state ∧
      state.log.length = 8 ∧ ∀ event ∈ state.log, event.Sound oneLayer := by
  have executed : (machine oneLayer).execute withoutCache growingCalls =
      some (afterCalls growingCalls) := rfl
  have start : (machine oneLayer).ReachableUnder (Settled oneLayer) withoutCache :=
    .initial withoutCache_fresh
  exact ⟨_, executed, by decide +kernel,
    cacheUses_sound oneLayer_uniform (start.execute growingCalls_guarded executed)⟩

/-- The shape requested for an input of a run, and that of the buffer it was given. -/
def eventShapes (name : Text) : CacheEvent Scalar →
    Option (Option (List Nat) × Option (List Nat))
  | .run _ _ _ buffers requested =>
      some (requested name, (buffers name).map TensorBuffer.dimensions)
  | _ => none

theorem eventShapes_of_sound {event : CacheEvent Scalar} (sound : event.Sound model)
    {input : Text × Nat} (isCache : input ∈ model.cacheInputs)
    {requested shape : Option (List Nat)}
    (shapes : eventShapes input.1 event = some (requested, shape)) :
    requested = shape := by
  cases event with
  | run signature step length buffers requestedShapes =>
      obtain ⟨buffer, kvLength, held, -, -, same⟩ := sound input isCache
      cases Option.some.inj shapes
      rw [same, held]
      rfl
  | resized before after dynamicDimIndex => exact absurd shapes (by simp [eventShapes])
  | noCache prefillAccepted => exact absurd shapes (by simp [eventShapes])

/-- A prefill, a decode that enlarges the cache, and a prefill that fits. -/
def secondTurn : List (Call Nat) :=
  [.prefill (growingBackend []) 1 [1, 2, 3], .decode (growingBackend [4]),
    .prefill (growingBackend []) 1 [5, 6]]

/-- A prefill of a single id and a decode. -/
def singleId : List (Call Nat) :=
  [.prefill (growingBackend []) 1 [1], .decode (growingBackend [4])]

/-- After a decode that enlarged the cache, a prefill that fits runs with the shape of its
first allocation still requested. And a decode after a prefill of a single id finds no
cache. -/
theorem cacheUses_unsound_secondTurn :
    (∃ state : DynamicExecutor Nat, (machine oneLayer).Reachable state ∧
      (state.log.map (eventShapes ['k'])).getLast? =
        some (some (some [1, 2], some [1, 10])) ∧
      ¬∀ event ∈ state.log, event.Sound oneLayer) ∧
    ∃ state : DynamicExecutor Nat, (machine oneLayer).Reachable state ∧
      state.log = [.noCache true] ∧ ¬∀ event ∈ state.log, event.Sound oneLayer := by
  constructor
  · have last : ((afterCalls secondTurn).log.map (eventShapes ['k'])).getLast? =
        some (some (some [1, 2], some [1, 10])) := by decide +kernel
    have executed : (machine oneLayer).execute withoutCache secondTurn =
        some (afterCalls secondTurn) := rfl
    refine ⟨_, Machine.reachable_of_execute withoutCache_fresh executed, last, fun sound => ?_⟩
    obtain ⟨event, member, shapes⟩ := List.mem_map.mp (List.mem_of_getLast? last)
    have same := eventShapes_of_sound (sound event member)
      (show (['k'], 1) ∈ oneLayer.cacheInputs by decide) shapes
    exact absurd same (by decide)
  · have refused : (afterCalls singleId).log = [.noCache true] := rfl
    have executed : (machine oneLayer).execute withoutCache singleId =
        some (afterCalls singleId) := rfl
    refine ⟨_, Machine.reachable_of_execute withoutCache_fresh executed, refused,
      fun sound => ?_⟩
    have isRefusal := sound (.noCache true) (by rw [refused]; exact List.mem_singleton_self _)
    exact Bool.noConfusion isRefusal

end LiteRTLM.Executor.DynamicExecutor
