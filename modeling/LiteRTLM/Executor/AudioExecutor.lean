import LiteRTLM.Engine.Status
import LiteRTLM.Library.ByteImage

/-!
Contract: `AudioLiteRtCompiledModelExecutor::Encode`, over any encoder of one chunk.

Owns: the geometry that `Create` checks and the shrinking factor it computes, the valid count of
a mask, the loop over the chunks, and where the rows of a chunk are written.

Does not own: the encoder and the adapter, which return the valid rows of a chunk, and the
frequency bins of a timestamp.

The embeddings are counted in rows of `audio_embedding_dimensions_` numbers. The writes of the
chunks are kept as a log.
-/

namespace LiteRTLM.Executor.Audio

open LiteRTLM.Engine
open LiteRTLM.Library.ByteImage

/-- How an `Encode` ends that returns no embeddings. -/
inductive EncodeFailure where
  | status (status : Status)
  | divisionByZero
  /-- `Span::subspan` is called behind the end of the span. -/
  | outOfRange
  /-- Rows are written past the end of the embeddings. -/
  | outOfBoundsWrite
deriving DecidableEq, Repr

/-! ## Create -/

/-- What `Create` reads of the models: the sizes of the encoder's input mask and of the adapter's
output, and for a streaming encoder the size of its feature states. -/
structure EncoderGeometry where
  sequenceLength : Nat
  outputSequenceLength : Nat
  isStreaming : Bool
  overlapSize : Nat
  sequenceLength_pos : 0 < sequenceLength
  outputSequenceLength_pos : 0 < outputSequenceLength

/-- The checks of `Create`, and `encoder_shrinking_factor`. A static encoder and the adapter each
have two buffers between them, so their numbers agree. -/
def EncoderGeometry.create (geometry : EncoderGeometry) : StatusOr Int :=
  if geometry.sequenceLength % geometry.outputSequenceLength ≠ 0 then
    .error (.invalidArgumentError
      ("The sequence length of the audio encoder must be divisible by the " ++
        "output sequence length of the audio adapter, but got " ++
        s!"{geometry.sequenceLength} and {geometry.outputSequenceLength}"))
  else if geometry.isStreaming then
    .ok (((geometry.sequenceLength : Int) - geometry.overlapSize).tdiv
      geometry.outputSequenceLength)
  else
    .ok ((geometry.sequenceLength / geometry.outputSequenceLength : Nat) : Int)

/-! ## Encode -/

variable {Frame Row Encoder : Type}

/-- `AudioLiteRtCompiledModelExecutor`: a geometry that `Create` accepted, the row of zeros, and
the creation of a buffer, which may be refused. -/
structure AudioExecutor (Row : Type) where
  geometry : EncoderGeometry
  encoderShrinkingFactor : Int
  created : geometry.create = .ok encoderShrinkingFactor
  zeroRow : Row
  createManaged : List Nat → Nat → Option Status

/-- `EncodeInternal` on the timestamps of a chunk: its valid rows. -/
abbrev ChunkEncoder (Frame Row Encoder : Type) :=
  List Frame → List Bool → EStateM Status Encoder (List Row)

/-- `ExecutorAudioData`, with its embeddings by rows. -/
structure AudioData (Row : Type) where
  embeddings : List Row
  validTokens : Nat
deriving DecidableEq, Repr

/-- The rows of the slice that is reserved for a chunk, and the rows written from its start. -/
structure ChunkWrite where
  position : Nat
  reserved : Nat
  written : Nat
deriving DecidableEq, Repr

/-- The encoder, and the variables of `Encode`. -/
structure EncodeState (Encoder Row : Type) where
  encoder : Encoder
  audioEmbeddings : List Row
  totalValidTokens : Nat
  writes : List ChunkWrite

abbrev EncodeM (Encoder Row : Type) := EStateM EncodeFailure (EncodeState Encoder Row)

/-- `GetValidCount`: the position behind the last set entry. -/
def getValidCount (mask : List Bool) : Nat :=
  (mask.reverse.dropWhile fun entry => entry = false).length

/-- `CeilIntDiv`; the division truncates. -/
def ceilIntDiv (first second : Int) : Except EncodeFailure Int :=
  if second = 0 then .error .divisionByZero else .ok ((first + second - 1).tdiv second)

/-- `Span::subspan`; a length that is too large is cut. -/
def subspan {α : Type} (span : List α) (position length : Nat) : Except EncodeFailure (List α) :=
  if position ≤ span.length then .ok ((span.drop position).take length) else .error .outOfRange

/-- `subspan` of the embeddings: its first row and its number of rows. A negative `int` is
converted to a large position or length. -/
def embeddingsSlice (size : Nat) (position length : Int) : Except EncodeFailure (Nat × Nat) :=
  if 0 ≤ position ∧ position ≤ size then
    .ok (position.toNat,
      if 0 ≤ length then min (size - position.toNat) length.toNat else size - position.toNat)
  else
    .error .outOfRange

/-- A result, or the end of the `Encode`. -/
def orEnd {α : Type} : Except EncodeFailure α → EncodeM Encoder Row α
  | .ok value => pure value
  | .error failure => throw failure

/-- A call of `EncodeInternal` on a chunk. -/
def callEncoder (encodeInternal : ChunkEncoder Frame Row Encoder) (frames : List Frame)
    (mask : List Bool) : EncodeM Encoder Row (List Row) := fun state =>
  match encodeInternal frames mask state.encoder with
  | .ok rows encoder => .ok rows { state with encoder }
  | .error status encoder => .error (.status status) { state with encoder }

/-- The rows are written from the start of the slice; its length is not looked at. -/
def writeRows (executor : AudioExecutor Row) (position reserved : Nat) (rows : List Row) :
    EncodeM Encoder Row Unit := fun state =>
  if position + rows.length ≤ state.audioEmbeddings.length then
    .ok () { state with
      audioEmbeddings := overwrite executor.zeroRow state.audioEmbeddings position rows
      totalValidTokens := state.totalValidTokens + rows.length
      writes := state.writes ++ [⟨position, reserved, rows.length⟩] }
  else
    .error .outOfBoundsWrite
      { state with writes := state.writes ++ [⟨position, reserved, rows.length⟩] }

/-- The slice of the embeddings for the chunk from `pos` up to `stop`. -/
def chunkSlice (executor : AudioExecutor Row) (size pos stop : Nat) :
    Except EncodeFailure (Nat × Nat) := do
  let position ← ceilIntDiv pos executor.encoderShrinkingFactor
  let length ← ceilIntDiv (stop - pos : Nat) executor.encoderShrinkingFactor
  embeddingsSlice size position length

/-- One chunk, from `pos` up to `stop`. -/
def encodeChunk (executor : AudioExecutor Row) (encodeInternal : ChunkEncoder Frame Row Encoder)
    (spectrogram : List Frame) (mask : List Bool) (pos stop : Nat) :
    EncodeM Encoder Row Unit := do
  let frames ← orEnd (subspan spectrogram pos (stop - pos))
  let chunkMask ← orEnd (subspan mask pos (stop - pos))
  let (position, reserved) ←
    orEnd (chunkSlice executor (← get).audioEmbeddings.length pos stop)
  let rows ← callEncoder encodeInternal frames chunkMask
  writeRows executor position reserved rows

/-- The loop over the chunks; `steps` bounds the number of chunks. -/
def encodeLoop (executor : AudioExecutor Row) (encodeInternal : ChunkEncoder Frame Row Encoder)
    (spectrogram : List Frame) (mask : List Bool) (inputSequenceLength : Nat) :
    Nat → Nat → EncodeM Encoder Row Unit
  | 0, _ => pure ()
  | steps + 1, pos =>
      if pos < inputSequenceLength then do
        let stop := min (pos + executor.geometry.sequenceLength) inputSequenceLength
        encodeChunk executor encodeInternal spectrogram mask pos stop
        encodeLoop executor encodeInternal spectrogram mask inputSequenceLength steps stop
      else
        pure ()

/-- The end of `Encode`: the valid rows as a tensor. -/
def finishEncode (executor : AudioExecutor Row) : EncodeM Encoder Row (AudioData Row) := do
  let state ← get
  match executor.createManaged [1, state.totalValidTokens] state.audioEmbeddings.length with
  | some status => throw (.status status)
  | none => return ⟨state.audioEmbeddings.take state.totalValidTokens, state.totalValidTokens⟩

/-- `Encode(spectrogram_tensor, spectrogram_mask)`: every chunk has a timestamp, so there are no
more chunks than valid timestamps. -/
def encodeMasked (executor : AudioExecutor Row) (encodeInternal : ChunkEncoder Frame Row Encoder)
    (spectrogram : List Frame) (mask : List Bool) (encoder : Encoder) :
    EStateM.Result EncodeFailure (EncodeState Encoder Row) (AudioData Row) :=
  let inputSequenceLength := getValidCount mask
  let program : EncodeM Encoder Row (AudioData Row) := do
    encodeLoop executor encodeInternal spectrogram mask inputSequenceLength inputSequenceLength 0
    finishEncode executor
  program ⟨encoder, List.replicate inputSequenceLength executor.zeroRow, 0, []⟩

/-- `Encode(spectrogram_tensor)`: every timestamp is valid. -/
def encode (executor : AudioExecutor Row) (encodeInternal : ChunkEncoder Frame Row Encoder)
    (dimensions : List Nat) (spectrogram : List Frame) (encoder : Encoder) :
    EStateM.Result EncodeFailure (EncodeState Encoder Row) (AudioData Row) :=
  if dimensions.length < 2 then
    .error (.status (.invalidArgumentError
      s!"Spectrogram tensor must have at least 2 dimensions, but got {dimensions.length}"))
      ⟨encoder, [], 0, []⟩
  else
    let inputSequenceLength := dimensions.getD (dimensions.length - 2) 0
    match executor.createManaged [1, inputSequenceLength] inputSequenceLength with
    | some status => .error (.status status) ⟨encoder, [], 0, []⟩
    | none =>
        encodeMasked executor encodeInternal spectrogram (List.replicate inputSequenceLength true)
          encoder

end LiteRTLM.Executor.Audio
