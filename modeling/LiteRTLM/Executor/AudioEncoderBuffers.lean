import LiteRTLM.Executor.AudioExecutor

/-!
Contract: `AudioEncoder` and `EncodeInternal`, with the buffers of the encoder.

Owns: the names of the buffers that `Initialize` looks for, the buffers as handles to shared
memory, their clearing and swapping, and one run of the encoder and the adapter.

Does not own: what the two models compute, and how `Encode` cuts a spectrogram into chunks.

A buffer is named by where it was created. The adapter's inputs are duplicates of two output
buffers of the encoder: they stay with the memory when handles are swapped.
-/

namespace LiteRTLM.Executor.Audio

open LiteRTLM.Engine

def isStreamingEncoder (inputNames : List String) : Bool :=
  inputNames.any fun name => decide ("prev_mask".toList <:+: name.toList)

/-- The encoder and the adapter. The encoder reads its inputs only. -/
structure AudioModels (Row : Type) where
  inputNames : List String
  outputNames : List String
  inputSize : String → Nat
  outputSize : String → Nat
  runEncoder : (String → List UInt8) → Except Status (String → List UInt8)
  /-- What a run that fails leaves in the outputs. -/
  outputsOnFailure : (String → List UInt8) → (String → List UInt8) → String → List UInt8
  runAdapter : List UInt8 → List UInt8 → Except Status (List Row)
  /-- The status of a read or write that is larger than its buffer. -/
  bufferError : Status

/-- The place at which a buffer was created. -/
inductive BufferId where
  | input (name : String)
  | output (name : String)
deriving DecidableEq, Repr

/-- The maps of an `AudioEncoder`, and the memory behind their buffers. -/
structure EncoderBuffers where
  inputBuffersMap : String → BufferId
  outputBuffersMap : String → BufferId
  memory : BufferId → List UInt8

namespace AudioModels

variable {Row : Type} (models : AudioModels Row)

def isStreaming : Bool := isStreamingEncoder models.inputNames

/-! ## Names -/

/-- `spectrogram_buffer_`. -/
def spectrogramName : String := if models.isStreaming then "segment_values" else "src_inputs"

/-- `input_mask_buffer_`. -/
def maskName : String := if models.isStreaming then "segment_mask" else "mask"

/-- `output_mask_buffer_`. -/
def outputMaskName : String :=
  if models.isStreaming ∨ "mask" ∈ models.outputNames then "mask" else "mask_out"

/-! ## Initialize -/

/-- The checks of `AudioStaticEncoder::Initialize`. -/
def checkStaticEncoder : StatusOr Unit :=
  if "mask" ∉ models.inputNames then
    .error (.invalidArgumentError "The Audio Static Encoder model must have a mask input buffer.")
  else if "src_inputs" ∉ models.inputNames then
    .error (.invalidArgumentError
      "The Audio Static Encoder model must have a src_inputs input buffer.")
  else if models.outputNames.length ≠ 2 then
    .error (.invalidArgumentError
      ("The Audio Static Encoder model must have exactly two output buffer but got " ++
        s!"{models.outputNames.length}"))
  else if "mask" ∉ models.outputNames ∧ "mask_out" ∉ models.outputNames then
    .error (.invalidArgumentError "The Audio Static Encoder model must have a mask output buffer.")
  else if "features" ∉ models.outputNames then
    .error (.invalidArgumentError
      "The Audio Static Encoder model must have a features output buffer.")
  else
    .ok ()

/-- The checks of `AudioStreamingEncoder::Initialize`. -/
def checkStreamingEncoder : StatusOr Unit :=
  if "segment_mask" ∉ models.inputNames then
    .error (.invalidArgumentError
      "The Audio Streaming Encoder model must have a segment_mask input buffer.")
  else if "segment_values" ∉ models.inputNames then
    .error (.invalidArgumentError
      "The Audio Streaming Encoder model must have a segment_values input buffer.")
  else if "mask" ∉ models.outputNames then
    .error (.invalidArgumentError
      "The Audio Streaming Encoder model must have a mask output buffer.")
  else if "features" ∉ models.outputNames then
    .error (.invalidArgumentError
      "The Audio Streaming Encoder model must have a features output buffer.")
  else if "feature_state_0" ∉ models.inputNames then
    .error (.invalidArgumentError
      "The Audio Streaming Encoder model must have a feature_states input buffer.")
  else if "prev_mask" ∉ models.inputNames then
    .error models.bufferError
  else
    .ok ()

/-- The memory of a new encoder: zeros, and ones in the previous mask of a streaming encoder. -/
def initialMemory : BufferId → List UInt8
  | .input name =>
      List.replicate (models.inputSize name)
        (if models.isStreaming ∧ name = "prev_mask" then 1 else 0)
  | .output name => List.replicate (models.outputSize name) 0

/-- The buffers of a new encoder. -/
def initialBuffers : EncoderBuffers where
  inputBuffersMap := .input
  outputBuffersMap := .output
  memory := models.initialMemory

def initializeBuffers : StatusOr EncoderBuffers := do
  if models.isStreaming then models.checkStreamingEncoder else models.checkStaticEncoder
  return models.initialBuffers

/-! ## EncodeInternal -/

/-- The inputs that `ClearInputBuffers` sets to zero. -/
def clearedNames : List String :=
  if models.isStreaming then [models.spectrogramName, models.maskName] else models.inputNames

def clearInputBuffers (buffers : EncoderBuffers) : EncoderBuffers :=
  { buffers with
    memory := fun buffer =>
      if buffer ∈ models.clearedNames.map buffers.inputBuffersMap then
        List.replicate (buffers.memory buffer).length 0
      else
        buffers.memory buffer }

/-- `TensorBuffer::Write` to an input. -/
def writeInput (name : String) (data : List UInt8) : EStateM Status EncoderBuffers Unit :=
  fun buffers =>
    let old := buffers.memory (buffers.inputBuffersMap name)
    if data.length ≤ old.length then
      .ok () { buffers with
        memory := Function.update buffers.memory (buffers.inputBuffersMap name)
          (data ++ old.drop data.length) }
    else
      .error models.bufferError buffers

def inputs (buffers : EncoderBuffers) (name : String) : List UInt8 :=
  if name ∈ models.inputNames then buffers.memory (buffers.inputBuffersMap name) else []

/-- The memory after a run. -/
def storeOutputs (buffers : EncoderBuffers) (outputs : String → List UInt8) : EncoderBuffers :=
  { buffers with
    memory := fun buffer =>
      match models.outputNames.find? fun name => buffers.outputBuffersMap name = buffer with
      | some name => outputs name
      | none => buffers.memory buffer }

/-- `CompiledModel::Run` of the encoder. -/
def runEncoderModel : EStateM Status EncoderBuffers Unit := fun buffers =>
  match models.runEncoder (models.inputs buffers) with
  | .ok outputs => .ok () (models.storeOutputs buffers outputs)
  | .error status =>
      .error status (models.storeOutputs buffers (models.outputsOnFailure (models.inputs buffers)
        fun name => buffers.memory (buffers.outputBuffersMap name)))

def swapInternalStateBuffers (buffers : EncoderBuffers) : EncoderBuffers :=
  { buffers with
    inputBuffersMap := fun name =>
      if name ∈ models.inputNames ∧ name ∈ models.outputNames then
        buffers.outputBuffersMap name
      else
        buffers.inputBuffersMap name
    outputBuffersMap := fun name =>
      if name ∈ models.inputNames ∧ name ∈ models.outputNames then
        buffers.inputBuffersMap name
      else
        buffers.outputBuffersMap name }

/-- The part of `EncodeInternal` after the run of the encoder: the valid count of its mask, the
run of the adapter, and the read of the valid rows. -/
def validRows (buffers : EncoderBuffers) : Except Status (List Row) := do
  let mask := buffers.memory (buffers.outputBuffersMap models.outputMaskName)
  let chunkValidTokens := getValidCount (mask.map fun entry => entry ≠ 0)
  let rows ← models.runAdapter (buffers.memory (.output models.outputMaskName))
    (buffers.memory (.output "features"))
  if rows.length < chunkValidTokens then .error models.bufferError
  else return rows.take chunkValidTokens

/-- `EncodeInternal`. A timestamp is given by its bytes. -/
def encodeInternal : ChunkEncoder (List UInt8) Row EncoderBuffers := fun frames mask => do
  modify models.clearInputBuffers
  models.writeInput models.spectrogramName frames.flatten
  models.writeInput models.maskName (mask.map fun entry => if entry then 1 else 0)
  models.runEncoderModel
  match models.validRows (← get) with
  | .ok rows => do
      if models.isStreaming then modify models.swapInternalStateBuffers
      return rows
  | .error status => throw status

end AudioModels

end LiteRTLM.Executor.Audio
