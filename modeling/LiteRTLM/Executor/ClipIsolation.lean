import Mathlib
import LiteRTLM.Executor.AudioEncoderBuffers
import LiteRTLM.Library.Outcome
import LiteRTLM.Library.RelatedRuns

/-!
Contract: what the encoding of a clip sees of the clips encoded before it.

Owns: the runs of `Encode` on two encoders, the buffers of which a new encoder's are not told
apart, the histories that leave such buffers, and that a clip is then encoded as on a new
executor.

Does not own: where the rows of the chunks end up.
-/

namespace LiteRTLM.Executor.Audio

open LiteRTLM.Engine
open LiteRTLM.Library

variable {Frame Row Encoder : Type}

/-! ## Encode on two encoders -/

section Programs

variable {related : EncodeState Encoder Row → EncodeState Encoder Row → Prop}
  {executor : AudioExecutor Row} {encodeInternal : ChunkEncoder Frame Row Encoder}
  {spectrogram : List Frame} {mask : List Bool}

theorem runsAgree_orEnd {α : Type} (result : Except EncodeFailure α) :
    RunsAgree related (orEnd result) (orEnd result) := by
  intro before after states
  cases result with
  | ok value => exact ⟨rfl, states⟩
  | error failure => exact ⟨rfl, states⟩

/-- The loop relates what every chunk relates. -/
theorem runsAgree_encodeLoop
    (chunkAgrees : ∀ pos stop,
      RunsAgree related (encodeChunk executor encodeInternal spectrogram mask pos stop)
        (encodeChunk executor encodeInternal spectrogram mask pos stop))
    (inputSequenceLength steps pos : Nat) :
    RunsAgree related
      (encodeLoop executor encodeInternal spectrogram mask inputSequenceLength steps pos)
      (encodeLoop executor encodeInternal spectrogram mask inputSequenceLength steps pos) := by
  induction steps generalizing pos with
  | zero => exact runsAgree_pure ()
  | succ steps inductionHypothesis =>
      unfold encodeLoop
      apply runsAgree_ite
      · apply (chunkAgrees _ _).bind
        intro _
        exact inductionHypothesis _
      · exact runsAgree_pure ()

/-- The end of `Encode` reads the variables of `Encode` only. -/
theorem runsAgree_finishEncode
    (sameVariables : ∀ before after, related before after →
      before.audioEmbeddings = after.audioEmbeddings ∧
        before.totalValidTokens = after.totalValidTokens) :
    RunsAgree related (finishEncode executor) (finishEncode executor) := by
  apply runsAgree_get_bind
  intro before after states
  obtain ⟨sameEmbeddings, sameTotal⟩ := sameVariables before after states
  rw [sameEmbeddings, sameTotal]
  cases executor.createManaged [1, after.totalValidTokens] after.audioEmbeddings.length with
  | none => exact ⟨rfl, states⟩
  | some status => exact ⟨rfl, states⟩

end Programs

/-- The variables of `Encode` are the same, and the encoders are related. -/
structure SameVariables (related : Encoder → Encoder → Prop)
    (before after : EncodeState Encoder Row) : Prop where
  encoder : related before.encoder after.encoder
  audioEmbeddings : before.audioEmbeddings = after.audioEmbeddings
  totalValidTokens : before.totalValidTokens = after.totalValidTokens
  writes : before.writes = after.writes

section Chunks

variable {related : Encoder → Encoder → Prop} {executor : AudioExecutor Row}
  {encodeInternal : ChunkEncoder Frame Row Encoder} {spectrogram : List Frame} {mask : List Bool}

theorem runsAgree_callEncoder {frames : List Frame}
    (agrees : RunsAgree related (encodeInternal frames mask) (encodeInternal frames mask)) :
    RunsAgree (@SameVariables Row Encoder related) (callEncoder encodeInternal frames mask)
      (callEncoder encodeInternal frames mask) := by
  intro before after states
  have results := agrees before.encoder after.encoder states.encoder
  unfold callEncoder
  cases first : encodeInternal frames mask before.encoder with
  | ok rows encoder =>
      cases second : encodeInternal frames mask after.encoder with
      | ok rows' encoder' =>
          rw [first, second] at results
          exact ⟨results.1, { states with encoder := results.2 }⟩
      | error status' encoder' =>
          rw [first, second] at results
          exact results.elim
  | error status encoder =>
      cases second : encodeInternal frames mask after.encoder with
      | ok rows' encoder' =>
          rw [first, second] at results
          exact results.elim
      | error status' encoder' =>
          rw [first, second] at results
          exact ⟨congrArg EncodeFailure.status results.1, { states with encoder := results.2 }⟩

theorem runsAgree_writeRows (position reserved : Nat) (rows : List Row) :
    RunsAgree (SameVariables related) (writeRows executor position reserved rows)
      (writeRows executor position reserved rows) := by
  intro before after states
  unfold writeRows
  rw [states.audioEmbeddings, states.totalValidTokens, states.writes]
  split
  · exact ⟨rfl, states.encoder, rfl, rfl, rfl⟩
  · exact ⟨rfl, states.encoder, rfl, rfl, rfl⟩

theorem runsAgree_encodeChunk
    (agrees : ∀ frames mask,
      RunsAgree related (encodeInternal frames mask) (encodeInternal frames mask))
    (pos stop : Nat) :
    RunsAgree (SameVariables related)
      (encodeChunk executor encodeInternal spectrogram mask pos stop)
      (encodeChunk executor encodeInternal spectrogram mask pos stop) := by
  apply (runsAgree_orEnd _).bind
  intro frames
  apply (runsAgree_orEnd _).bind
  intro flags
  apply runsAgree_get_bind
  intro before after states
  rw [states.audioEmbeddings]
  apply (runsAgree_orEnd _ before after states).bind fun _ _ states => states
  intro slot
  apply (runsAgree_callEncoder (agrees frames flags)).bind
  intro rows
  exact runsAgree_writeRows _ _ rows

/-- `Encode` on related encoders returns the same and leaves related encoders. -/
theorem resultsAgree_encodeMasked
    (agrees : ∀ frames mask,
      RunsAgree related (encodeInternal frames mask) (encodeInternal frames mask))
    {first second : Encoder} (states : related first second) :
    ResultsAgree (SameVariables related)
      (encodeMasked executor encodeInternal spectrogram mask first)
      (encodeMasked executor encodeInternal spectrogram mask second) := by
  have chunks : ∀ pos stop, RunsAgree (SameVariables related)
      (encodeChunk executor encodeInternal spectrogram mask pos stop)
      (encodeChunk executor encodeInternal spectrogram mask pos stop) :=
    runsAgree_encodeChunk agrees
  have loop := runsAgree_encodeLoop chunks (getValidCount mask) (getValidCount mask) 0
  apply loop.bind fun _ => runsAgree_finishEncode fun before after states =>
    ⟨states.audioEmbeddings, states.totalValidTokens⟩
  exact ⟨states, rfl, rfl, rfl⟩

end Chunks

/-! ## Buffers like those of a new encoder -/

section Buffers

variable (models : AudioModels Row)

/-- The handles are not swapped, and only what is cleared or written before it is read may differ
from a new encoder. -/
structure LikeNew (buffers : EncoderBuffers) : Prop where
  inputHandles : buffers.inputBuffersMap = .input
  outputHandles : buffers.outputBuffersMap = .output
  inputSizes : ∀ name, (buffers.memory (.input name)).length = models.inputSize name
  carried : ∀ name, name ∉ models.clearedNames →
    buffers.memory (.input name) = models.initialMemory (.input name)
  unnamed : ∀ name, name ∉ models.outputNames →
    buffers.memory (.output name) = models.initialMemory (.output name)

variable {models} {buffers first second : EncoderBuffers}

theorem likeNew_initialBuffers : LikeNew models models.initialBuffers where
  inputHandles := rfl
  outputHandles := rfl
  inputSizes _ := List.length_replicate
  carried _ _ := rfl
  unnamed _ _ := rfl

theorem mem_map_input {names : List String} {name : String} :
    BufferId.input name ∈ names.map BufferId.input ↔ name ∈ names := by
  rw [List.mem_map]
  constructor
  · rintro ⟨other, inNames, same⟩
    rw [← BufferId.input.inj same]
    exact inNames
  · exact fun inNames => ⟨name, inNames, rfl⟩

/-- The buffers after bytes were stored in an input that is not swapped. -/
def EncoderBuffers.setInput (buffers : EncoderBuffers) (name : String) (data : List UInt8) :
    EncoderBuffers :=
  { buffers with memory := Function.update buffers.memory (.input name) data }

theorem EncoderBuffers.setInput_input (buffers : EncoderBuffers) (name : String)
    (data : List UInt8) (other : String) :
    (buffers.setInput name data).memory (.input other) =
      if other = name then data else buffers.memory (.input other) := by
  simp only [EncoderBuffers.setInput, Function.update_apply, BufferId.input.injEq]

theorem EncoderBuffers.setInput_output (buffers : EncoderBuffers) (name : String)
    (data : List UInt8) (other : String) :
    (buffers.setInput name data).memory (.output other) = buffers.memory (.output other) := by
  simp only [EncoderBuffers.setInput, Function.update_apply, reduceCtorEq, if_false]

namespace LikeNew

theorem clear_input (likeNew : LikeNew models buffers) (name : String) :
    (models.clearInputBuffers buffers).memory (.input name) =
      if name ∈ models.clearedNames then List.replicate (models.inputSize name) 0
      else models.initialMemory (.input name) := by
  simp only [AudioModels.clearInputBuffers, likeNew.inputHandles, mem_map_input,
    likeNew.inputSizes]
  by_cases cleared : name ∈ models.clearedNames
  · rw [if_pos cleared, if_pos cleared]
  · rw [if_neg cleared, if_neg cleared, likeNew.carried name cleared]

theorem clear_output (likeNew : LikeNew models buffers) (name : String) :
    (models.clearInputBuffers buffers).memory (.output name) = buffers.memory (.output name) := by
  have apart : BufferId.output name ∉ models.clearedNames.map BufferId.input := by
    rw [List.mem_map]
    rintro ⟨_, _, same⟩
    exact absurd same nofun
  simp only [AudioModels.clearInputBuffers, likeNew.inputHandles, if_neg apart]

theorem clearInputBuffers (likeNew : LikeNew models buffers) :
    LikeNew models (models.clearInputBuffers buffers) where
  inputHandles := likeNew.inputHandles
  outputHandles := likeNew.outputHandles
  inputSizes name := by
    rw [likeNew.clear_input]
    by_cases cleared : name ∈ models.clearedNames
    · rw [if_pos cleared, List.length_replicate]
    · rw [if_neg cleared, ← likeNew.carried name cleared, likeNew.inputSizes]
  carried name notCleared := by
    rw [likeNew.clear_input, if_neg notCleared]
  unnamed name unnamed := by
    rw [likeNew.clear_output, likeNew.unnamed name unnamed]

/-- A write to an input that is cleared. -/
theorem setInput (likeNew : LikeNew models buffers) {name : String}
    (cleared : name ∈ models.clearedNames) {data : List UInt8}
    (sized : data.length = models.inputSize name) :
    LikeNew models (buffers.setInput name data) where
  inputHandles := likeNew.inputHandles
  outputHandles := likeNew.outputHandles
  inputSizes other := by
    rw [EncoderBuffers.setInput_input]
    by_cases same : other = name
    · rw [if_pos same, same, sized]
    · rw [if_neg same, likeNew.inputSizes]
  carried other notCleared := by
    have apart : other ≠ name := by
      rintro rfl
      exact notCleared cleared
    rw [EncoderBuffers.setInput_input, if_neg apart, likeNew.carried other notCleared]
  unnamed other unnamed := by
    rw [EncoderBuffers.setInput_output, likeNew.unnamed other unnamed]

/-- A write stores its bytes in front of the zeros, or is too large. -/
theorem writeInput_eq (likeNew : LikeNew models buffers) (name : String) (data : List UInt8) :
    models.writeInput name data buffers =
      if data.length ≤ models.inputSize name then
        .ok () (buffers.setInput name (data ++ (buffers.memory (.input name)).drop data.length))
      else
        .error models.bufferError buffers := by
  have handle : buffers.inputBuffersMap name = .input name := by
    rw [likeNew.inputHandles]
  simp only [AudioModels.writeInput, handle, likeNew.inputSizes]
  rfl

theorem storeOutputs_input (likeNew : LikeNew models buffers) (outputs : String → List UInt8)
    (name : String) :
    (models.storeOutputs buffers outputs).memory (.input name) =
      buffers.memory (.input name) := by
  have absent : models.outputNames.find?
      (fun other => decide (buffers.outputBuffersMap other = .input name)) = none := by
    rw [List.find?_eq_none]
    intro other _
    rw [likeNew.outputHandles]
    simp
  simp only [AudioModels.storeOutputs, absent]

theorem storeOutputs_output (likeNew : LikeNew models buffers) (outputs : String → List UInt8)
    (name : String) :
    (models.storeOutputs buffers outputs).memory (.output name) =
      if name ∈ models.outputNames then outputs name else buffers.memory (.output name) := by
  simp only [AudioModels.storeOutputs, likeNew.outputHandles, BufferId.output.injEq]
  by_cases named : name ∈ models.outputNames
  · cases found : models.outputNames.find? (fun other => decide (other = name)) with
    | none =>
        have other := List.find?_eq_none.mp found name named
        exact absurd (decide_eq_true rfl) other
    | some other =>
        have same := List.find?_some found
        rw [if_pos named, of_decide_eq_true same]
  · have absent : models.outputNames.find? (fun other => decide (other = name)) = none := by
      rw [List.find?_eq_none]
      rintro other inNames same
      exact named (of_decide_eq_true same ▸ inNames)
    rw [absent, if_neg named]

theorem storeOutputs (likeNew : LikeNew models buffers) (outputs : String → List UInt8) :
    LikeNew models (models.storeOutputs buffers outputs) where
  inputHandles := likeNew.inputHandles
  outputHandles := likeNew.outputHandles
  inputSizes name := by
    rw [likeNew.storeOutputs_input]
    exact likeNew.inputSizes name
  carried name notCleared := by
    rw [likeNew.storeOutputs_input]
    exact likeNew.carried name notCleared
  unnamed name unnamed := by
    rw [likeNew.storeOutputs_output, if_neg unnamed]
    exact likeNew.unnamed name unnamed

end LikeNew

/-! ## One chunk on two encoders -/

/-- Two encoders like new ones with the same inputs. -/
structure SameInputs (models : AudioModels Row) (first second : EncoderBuffers) : Prop where
  firstNew : LikeNew models first
  secondNew : LikeNew models second
  inputs : ∀ name, first.memory (.input name) = second.memory (.input name)

/-- Clearing makes the inputs the same. -/
theorem sameInputs_clearInputBuffers (likeNew : LikeNew models first)
    (likeNew' : LikeNew models second) :
    SameInputs models (models.clearInputBuffers first) (models.clearInputBuffers second) where
  firstNew := likeNew.clearInputBuffers
  secondNew := likeNew'.clearInputBuffers
  inputs name := by
    rw [likeNew.clear_input, likeNew'.clear_input]

theorem runsAgree_writeInput {name : String} (cleared : name ∈ models.clearedNames)
    (data : List UInt8) :
    RunsAgree (SameInputs models) (models.writeInput name data) (models.writeInput name data) := by
  intro before after states
  rw [states.firstNew.writeInput_eq, states.secondNew.writeInput_eq, states.inputs]
  by_cases fits : data.length ≤ models.inputSize name
  · have sized : (data ++ (after.memory (.input name)).drop data.length).length =
        models.inputSize name := by
      rw [List.length_append, List.length_drop, states.secondNew.inputSizes]
      omega
    rw [if_pos fits, if_pos fits]
    refine ⟨rfl, states.firstNew.setInput cleared sized,
      states.secondNew.setInput cleared sized, ?_⟩
    intro other
    rw [EncoderBuffers.setInput_input, EncoderBuffers.setInput_input, states.inputs]
  · rw [if_neg fits, if_neg fits]
    exact ⟨rfl, states⟩

theorem SameInputs.inputs_eq (states : SameInputs models first second) :
    models.inputs first = models.inputs second := by
  funext name
  simp only [AudioModels.inputs, states.firstNew.inputHandles, states.secondNew.inputHandles,
    states.inputs]

/-- After a run nothing differs. -/
theorem SameInputs.storeOutputs_eq (states : SameInputs models first second)
    (outputs : String → List UInt8) :
    models.storeOutputs first outputs = models.storeOutputs second outputs := by
  have memory : (models.storeOutputs first outputs).memory =
      (models.storeOutputs second outputs).memory := by
    funext buffer
    cases buffer with
    | input name =>
        rw [states.firstNew.storeOutputs_input, states.secondNew.storeOutputs_input, states.inputs]
    | output name =>
        rw [states.firstNew.storeOutputs_output, states.secondNew.storeOutputs_output]
        by_cases named : name ∈ models.outputNames
        · rw [if_pos named, if_pos named]
        · rw [if_neg named, if_neg named, states.firstNew.unnamed name named,
            states.secondNew.unnamed name named]
  have inputHandles : (models.storeOutputs first outputs).inputBuffersMap =
      (models.storeOutputs second outputs).inputBuffersMap :=
    states.firstNew.inputHandles.trans states.secondNew.inputHandles.symm
  have outputHandles : (models.storeOutputs first outputs).outputBuffersMap =
      (models.storeOutputs second outputs).outputBuffersMap :=
    states.firstNew.outputHandles.trans states.secondNew.outputHandles.symm
  cases left : models.storeOutputs first outputs with
  | mk inputMap outputMap contents =>
      cases right : models.storeOutputs second outputs with
      | mk inputMap' outputMap' contents' =>
          rw [left, right] at memory inputHandles outputHandles
          simp only at memory inputHandles outputHandles
          rw [memory, inputHandles, outputHandles]

/-- Two encoders that are the same, or both like new. -/
def Alike (models : AudioModels Row) (first second : EncoderBuffers) : Prop :=
  first = second ∨ (LikeNew models first ∧ LikeNew models second)

theorem alike_refl (buffers : EncoderBuffers) : Alike models buffers buffers := Or.inl rfl

theorem SameInputs.alike (states : SameInputs models first second) : Alike models first second :=
  Or.inr ⟨states.firstNew, states.secondNew⟩

theorem resultsAgree_self {Error α : Type} (result : EStateM.Result Error EncoderBuffers α) :
    ResultsAgree (Alike models) result result :=
  resultsAgree_refl alike_refl result

/-- The buffers that `EncodeInternal` writes to are among those it clears. -/
structure ClearsWritten (models : AudioModels Row) : Prop where
  spectrogram : models.spectrogramName ∈ models.clearedNames
  mask : models.maskName ∈ models.clearedNames

/-- `Initialize` checks that the buffers are there. -/
theorem clearsWritten_of_initializeBuffers
    (initialized : models.initializeBuffers = .ok buffers) : ClearsWritten models := by
  unfold AudioModels.initializeBuffers at initialized
  cases streaming : models.isStreaming with
  | true =>
      constructor
      · simp only [AudioModels.clearedNames, streaming, if_true, List.mem_cons, true_or]
      · simp only [AudioModels.clearedNames, streaming, if_true, List.mem_cons, true_or, or_true]
  | false =>
      rw [streaming] at initialized
      simp only [Bool.false_eq_true, if_false, AudioModels.checkStaticEncoder] at initialized
      by_cases mask : "mask" ∈ models.inputNames
      · by_cases spectrogram : "src_inputs" ∈ models.inputNames
        · constructor
          · simpa only [AudioModels.clearedNames, AudioModels.spectrogramName, streaming,
              Bool.false_eq_true, if_false] using spectrogram
          · simpa only [AudioModels.clearedNames, AudioModels.maskName, streaming,
              Bool.false_eq_true, if_false] using mask
        · rw [if_neg (not_not.mpr mask), if_pos spectrogram] at initialized
          exact absurd initialized nofun
      · rw [if_pos mask] at initialized
        exact absurd initialized nofun

/-- A chunk is encoded alike on encoders that are alike. -/
theorem runsAgree_encodeInternal (clears : ClearsWritten models) (frames : List (List UInt8))
    (mask : List Bool) :
    RunsAgree (Alike models) (models.encodeInternal frames mask)
      (models.encodeInternal frames mask) := by
  rintro before after (rfl | ⟨likeNew, likeNew'⟩)
  · exact resultsAgree_self _
  · have cleared := sameInputs_clearInputBuffers likeNew likeNew'
    have weaker : ∀ first second, SameInputs models first second → Alike models first second :=
      fun first second states => states.alike
    apply (runsAgree_writeInput clears.spectrogram _ _ _ cleared).bind weaker
    intro _ first second states
    apply (runsAgree_writeInput clears.mask _ _ _ states).bind weaker
    intro _ first second states
    simp only [bind, EStateM.bind, AudioModels.runEncoderModel]
    rw [states.inputs_eq]
    cases models.runEncoder (models.inputs second) with
    | ok outputs =>
        simp only
        rw [states.storeOutputs_eq outputs]
        exact resultsAgree_self _
    | error status =>
        exact ⟨rfl, Or.inr ⟨states.firstNew.storeOutputs _, states.secondNew.storeOutputs _⟩⟩

/-! ## Histories that leave buffers like new ones -/

theorem ends_writeInput {name : String} (cleared : name ∈ models.clearedNames) (data : List UInt8)
    (likeNew : LikeNew models buffers) :
    Ends (models.writeInput name data) buffers (fun _ after => LikeNew models after)
      fun _ after => LikeNew models after := by
  rw [Ends, likeNew.writeInput_eq]
  by_cases fits : data.length ≤ models.inputSize name
  · rw [if_pos fits]
    apply likeNew.setInput cleared
    rw [List.length_append, List.length_drop, likeNew.inputSizes]
    omega
  · rw [if_neg fits]
    exact likeNew

/-- A streaming encoder, one of whose outputs becomes an input of the next chunk. -/
def CarriesState (models : AudioModels Row) : Prop :=
  models.isStreaming = true ∧ ∃ name ∈ models.inputNames, name ∈ models.outputNames

/-- Without such an output nothing is swapped. -/
theorem swapInternalStateBuffers_eq_self
    (separate : ¬∃ name ∈ models.inputNames, name ∈ models.outputNames) :
    models.swapInternalStateBuffers buffers = buffers := by
  have apart : ∀ name, ¬(name ∈ models.inputNames ∧ name ∈ models.outputNames) :=
    fun name both => separate ⟨name, both⟩
  simp only [AudioModels.swapInternalStateBuffers, if_neg (apart _)]

/-- A chunk that is not encoded leaves buffers like new ones; so does every chunk of an encoder
that carries no state. -/
theorem ends_encodeInternal (clears : ClearsWritten models) (frames : List (List UInt8))
    (mask : List Bool) (likeNew : LikeNew models buffers) :
    Ends (models.encodeInternal frames mask) buffers
      (fun _ after => ¬CarriesState models → LikeNew models after)
      fun _ after => LikeNew models after := by
  unfold AudioModels.encodeInternal
  rw [ends_bind, ends_modify, ends_bind]
  apply (ends_writeInput clears.spectrogram _ likeNew.clearInputBuffers).mono _ fun _ _ kept => kept
  intro _ written kept
  rw [ends_bind]
  apply (ends_writeInput clears.mask _ kept).mono _ fun _ _ kept => kept
  intro _ before kept
  rw [ends_bind, Ends, AudioModels.runEncoderModel]
  cases models.runEncoder (models.inputs before) with
  | error status => exact kept.storeOutputs _
  | ok outputs =>
      have stored := kept.storeOutputs outputs
      simp only
      rw [ends_bind, ends_get]
      cases models.validRows (models.storeOutputs before outputs) with
      | error status => exact stored
      | ok rows =>
          simp only
          cases streaming : models.isStreaming with
          | false => exact fun _ => stored
          | true =>
              intro stateless
              have separate : ¬∃ name ∈ models.inputNames, name ∈ models.outputNames :=
                fun shared => stateless ⟨streaming, shared⟩
              change LikeNew models (models.swapInternalStateBuffers _)
              rw [swapInternalStateBuffers_eq_self separate]
              exact stored

/-- The buffers are like new ones, or a chunk was encoded whose state is carried on. -/
def Untouched (models : AudioModels Row) (state : EncodeState EncoderBuffers Row) : Prop :=
  LikeNew models state.encoder ∨ (CarriesState models ∧ state.writes ≠ [])

theorem ends_orEnd {α : Type} {result : Except EncodeFailure α}
    {state : EncodeState EncoderBuffers Row} {condition : EncodeState EncoderBuffers Row → Prop}
    (holds : condition state) :
    Ends (orEnd result) state (fun _ after => after = state) fun _ => condition := by
  cases result with
  | ok value => exact rfl
  | error failure => exact holds

/-- Written rows show that a chunk was encoded. -/
theorem ends_writeRows {executor : AudioExecutor Row} (position reserved : Nat) (rows : List Row)
    {state : EncodeState EncoderBuffers Row}
    (untouched : ¬CarriesState models → LikeNew models state.encoder) :
    Ends (writeRows executor position reserved rows) state (fun _ => Untouched models)
      fun _ => Untouched models := by
  have after : ∀ writes : List ChunkWrite, ∀ write,
      LikeNew models state.encoder ∨ (CarriesState models ∧ writes ++ [write] ≠ []) := by
    intro writes write
    by_cases carries : CarriesState models
    · exact Or.inr ⟨carries, List.concat_ne_nil write writes⟩
    · exact Or.inl (untouched carries)
  unfold Ends writeRows
  by_cases inside : position + rows.length ≤ state.audioEmbeddings.length
  · rw [if_pos inside]
    exact after _ _
  · rw [if_neg inside]
    exact after _ _

theorem ends_callEncoder (clears : ClearsWritten models) (frames : List (List UInt8))
    (mask : List Bool) {state : EncodeState EncoderBuffers Row}
    (untouched : Untouched models state) :
    Ends (callEncoder models.encodeInternal frames mask) state
      (fun _ after => ¬CarriesState models → LikeNew models after.encoder)
      fun _ => Untouched models := by
  unfold Ends callEncoder
  rcases untouched with likeNew | ⟨carries, written⟩
  · have ends := ends_encodeInternal clears frames mask likeNew
    unfold Ends at ends
    cases encoded : models.encodeInternal frames mask state.encoder with
    | ok rows encoder =>
        rw [encoded] at ends
        exact ends
    | error status encoder =>
        rw [encoded] at ends
        exact Or.inl ends
  · cases models.encodeInternal frames mask state.encoder with
    | ok rows encoder => exact fun stateless => absurd carries stateless
    | error status encoder => exact Or.inr ⟨carries, written⟩

section Encode

variable {executor : AudioExecutor Row} {spectrogram : List (List UInt8)} {mask : List Bool}
  {state : EncodeState EncoderBuffers Row}

theorem ends_encodeChunk (clears : ClearsWritten models) (pos stop : Nat)
    (untouched : Untouched models state) :
    Ends (encodeChunk executor models.encodeInternal spectrogram mask pos stop) state
      (fun _ => Untouched models) fun _ => Untouched models := by
  unfold encodeChunk
  rw [ends_bind]
  apply (ends_orEnd untouched).mono _ fun _ _ kept => kept
  rintro frames state rfl
  rw [ends_bind]
  apply (ends_orEnd untouched).mono _ fun _ _ kept => kept
  rintro flags state rfl
  rw [ends_bind, ends_get, ends_bind]
  apply (ends_orEnd untouched).mono _ fun _ _ kept => kept
  rintro slot state rfl
  rw [ends_bind]
  apply (ends_callEncoder clears frames flags untouched).mono _ fun _ _ kept => kept
  intro rows after likeNew
  exact ends_writeRows slot.1 slot.2 rows likeNew

theorem ends_encodeLoop (clears : ClearsWritten models) (inputSequenceLength steps pos : Nat)
    (untouched : Untouched models state) :
    Ends (encodeLoop executor models.encodeInternal spectrogram mask inputSequenceLength steps pos)
      state (fun _ => Untouched models) fun _ => Untouched models := by
  induction steps generalizing pos state with
  | zero => exact untouched
  | succ steps inductionHypothesis =>
      unfold encodeLoop
      by_cases more : pos < inputSequenceLength
      · rw [if_pos more, ends_bind]
        apply (ends_encodeChunk clears pos _ untouched).mono _ fun _ _ kept => kept
        intro _ between kept
        exact inductionHypothesis _ kept
      · rw [if_neg more]
        exact untouched

theorem ends_finishEncode (untouched : Untouched models state) :
    Ends (finishEncode executor) state (fun _ => Untouched models) fun _ => Untouched models := by
  unfold finishEncode
  rw [ends_bind, ends_get]
  cases executor.createManaged [1, state.totalValidTokens] state.audioEmbeddings.length with
  | none => exact untouched
  | some status => exact untouched

/-- `Encode` leaves buffers like new ones, or has encoded a chunk whose state is carried on. -/
theorem untouched_encodeMasked (clears : ClearsWritten models) (likeNew : LikeNew models buffers) :
    Untouched models
      (stoppedIn (encodeMasked executor models.encodeInternal spectrogram mask buffers)) := by
  let start : EncodeState EncoderBuffers Row :=
    ⟨buffers, List.replicate (getValidCount mask) executor.zeroRow, 0, []⟩
  have untouched : Untouched models start := Or.inl likeNew
  have ends : Ends
      (encodeLoop executor models.encodeInternal spectrogram mask (getValidCount mask)
        (getValidCount mask) 0 >>= fun _ => finishEncode executor)
      start (fun _ => Untouched models) fun _ => Untouched models := by
    rw [ends_bind]
    apply (ends_encodeLoop clears _ _ _ untouched).mono _ fun _ _ kept => kept
    exact fun _ _ kept => ends_finishEncode kept
  exact (ends_stoppedIn_iff _ _ _).mp ends

end Encode

end Buffers

/-! ## Clips -/

/-- A call of one of the two `Encode`s. -/
inductive Clip where
  | masked (spectrogram : List (List UInt8)) (mask : List Bool)
  | unmasked (dimensions : List Nat) (spectrogram : List (List UInt8))

section Clips

variable (executor : AudioExecutor Row) (models : AudioModels Row)

def encodeClip : Clip → EncoderBuffers →
    EStateM.Result EncodeFailure (EncodeState EncoderBuffers Row) (AudioData Row)
  | .masked spectrogram mask, buffers =>
      encodeMasked executor models.encodeInternal spectrogram mask buffers
  | .unmasked dimensions spectrogram, buffers =>
      encode executor models.encodeInternal dimensions spectrogram buffers

/-- The buffers after the clips of a history, each encoded or failed. -/
def buffersAfter : List Clip → EncoderBuffers → EncoderBuffers
  | [], buffers => buffers
  | clip :: history, buffers =>
      buffersAfter history (stoppedIn (encodeClip executor models clip buffers)).encoder

/-- No clip of the history has a chunk encoded whose state is carried on. -/
def LeavesNoState : List Clip → EncoderBuffers → Prop
  | [], _ => True
  | clip :: history, buffers =>
      (CarriesState models → (stoppedIn (encodeClip executor models clip buffers)).writes = []) ∧
        LeavesNoState history (stoppedIn (encodeClip executor models clip buffers)).encoder

variable {executor models} {buffers first second : EncoderBuffers}

theorem untouched_encodeClip (clears : ClearsWritten models) (clip : Clip)
    (likeNew : LikeNew models buffers) :
    Untouched models (stoppedIn (encodeClip executor models clip buffers)) := by
  cases clip with
  | masked spectrogram mask => exact untouched_encodeMasked clears likeNew
  | unmasked dimensions spectrogram =>
      change Untouched models
        (stoppedIn (encode executor models.encodeInternal dimensions spectrogram buffers))
      unfold encode
      by_cases ranked : dimensions.length < 2
      · rw [if_pos ranked]
        exact Or.inl likeNew
      · rw [if_neg ranked]
        simp only
        split
        · exact Or.inl likeNew
        · exact untouched_encodeMasked clears likeNew

/-- A history that leaves no state leaves buffers like new ones. -/
theorem likeNew_buffersAfter (clears : ClearsWritten models) (history : List Clip)
    (likeNew : LikeNew models buffers)
    (leaves : LeavesNoState executor models history buffers) :
    LikeNew models (buffersAfter executor models history buffers) := by
  induction history generalizing buffers with
  | nil => exact likeNew
  | cons clip history inductionHypothesis =>
      apply inductionHypothesis _ leaves.2
      rcases untouched_encodeClip clears clip likeNew with kept | ⟨carries, written⟩
      · exact kept
      · exact absurd (leaves.1 carries) written

theorem resultsAgree_encodeClip (clears : ClearsWritten models) (clip : Clip)
    (alike : Alike models first second) :
    ResultsAgree (SameVariables (Alike models)) (encodeClip executor models clip first)
      (encodeClip executor models clip second) := by
  have agrees := runsAgree_encodeInternal clears
  cases clip with
  | masked spectrogram mask => exact resultsAgree_encodeMasked agrees alike
  | unmasked dimensions spectrogram =>
      change ResultsAgree _
        (encode executor models.encodeInternal dimensions spectrogram first)
        (encode executor models.encodeInternal dimensions spectrogram second)
      unfold encode
      by_cases ranked : dimensions.length < 2
      · rw [if_pos ranked, if_pos ranked]
        exact ⟨rfl, alike, rfl, rfl, rfl⟩
      · rw [if_neg ranked, if_neg ranked]
        simp only
        split
        · exact ⟨rfl, alike, rfl, rfl, rfl⟩
        · exact resultsAgree_encodeMasked agrees alike

theorem eq_initialBuffers (initialized : models.initializeBuffers = .ok buffers) :
    buffers = models.initialBuffers := by
  unfold AudioModels.initializeBuffers at initialized
  split at initialized
  · cases checked : models.checkStreamingEncoder with
    | error status =>
        rw [checked] at initialized
        exact absurd initialized nofun
    | ok _ =>
        rw [checked] at initialized
        exact (Except.ok.inj initialized).symm
  · cases checked : models.checkStaticEncoder with
    | error status =>
        rw [checked] at initialized
        exact absurd initialized nofun
    | ok _ =>
        rw [checked] at initialized
        exact (Except.ok.inj initialized).symm

/-- After clips that left no state, a clip is encoded as on a new executor. -/
theorem encodeClip_as_on_new (executor : AudioExecutor Row)
    (initialized : models.initializeBuffers = .ok buffers) (history : List Clip)
    (leaves : LeavesNoState executor models history buffers) (clip : Clip) :
    outcome (encodeClip executor models clip (buffersAfter executor models history buffers)) =
      outcome (encodeClip executor models clip buffers) := by
  have clears := clearsWritten_of_initializeBuffers initialized
  have likeNew : LikeNew models buffers := by
    rw [eq_initialBuffers initialized]
    exact likeNew_initialBuffers
  have reached := likeNew_buffersAfter clears history likeNew leaves
  exact (resultsAgree_encodeClip clears clip (Or.inr ⟨reached, likeNew⟩)).outcome_eq

end Clips

/-- A streaming encoder whose features are the state that the last chunk left. -/
def delayingModels : AudioModels (List UInt8) where
  inputNames := ["segment_values", "segment_mask", "feature_state_0", "prev_mask"]
  outputNames := ["features", "mask", "feature_state_0"]
  inputSize name := if name = "segment_values" ∨ name = "segment_mask" then 2 else 1
  outputSize _ := 1
  runEncoder inputs := .ok fun name =>
    if name = "features" then inputs "feature_state_0"
    else if name = "mask" then [1]
    else (inputs "segment_values").take 1
  outputsOnFailure _ outputs := outputs
  runAdapter _ features := .ok [features]
  bufferError := .internalError "The data is larger than the buffer"

def delayingExecutor : AudioExecutor (List UInt8) where
  geometry := {
    sequenceLength           := 2
    outputSequenceLength     := 1
    isStreaming              := true
    overlapSize              := 1
    sequenceLength_pos       := Nat.two_pos
    outputSequenceLength_pos := Nat.one_pos
  }
  encoderShrinkingFactor := 1
  created := rfl
  zeroRow := [0]
  createManaged := fun _ _ => none

/-- Where a streaming encoder has encoded a clip, the next clip begins with what it left. -/
theorem delaying_encoder_leaks :
    ¬∀ (executor : AudioExecutor (List UInt8)) (models : AudioModels (List UInt8))
      (buffers : EncoderBuffers), executor.geometry.isStreaming = models.isStreaming →
      models.initializeBuffers = .ok buffers → ∀ (history : List Clip) (clip : Clip),
      outcome (encodeClip executor models clip (buffersAfter executor models history buffers)) =
        outcome (encodeClip executor models clip buffers) := by
  intro isolated
  have same := isolated delayingExecutor delayingModels delayingModels.initialBuffers rfl rfl
    [.masked [[7]] [true]] (.masked [[9]] [true])
  have onNew : outcome (encodeClip delayingExecutor delayingModels (.masked [[9]] [true])
      delayingModels.initialBuffers) = .ok ⟨[[0]], 1⟩ := rfl
  have afterClip : outcome (encodeClip delayingExecutor delayingModels (.masked [[9]] [true])
      (buffersAfter delayingExecutor delayingModels [.masked [[7]] [true]]
        delayingModels.initialBuffers)) = .ok ⟨[[7]], 1⟩ := rfl
  rw [onNew, afterClip] at same
  exact absurd (congrArg AudioData.embeddings (Except.ok.inj same)) (by decide)

/-- A clip that failed because its timestamps are too large leaves no state. -/
theorem delaying_encoder_after_failure :
    outcome (encodeClip delayingExecutor delayingModels (.masked [[9]] [true])
        (buffersAfter delayingExecutor delayingModels [.masked [[1, 2, 3]] [true]]
          delayingModels.initialBuffers)) =
      outcome (encodeClip delayingExecutor delayingModels (.masked [[9]] [true])
        delayingModels.initialBuffers) :=
  encodeClip_as_on_new delayingExecutor rfl [.masked [[1, 2, 3]] [true]] ⟨fun _ => rfl, trivial⟩ _

end LiteRTLM.Executor.Audio
