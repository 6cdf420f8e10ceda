import LiteRTLM.Schema.Core.LitertlmExport
import LiteRTLM.Util.LitertLmLoader

/-!
Contract: the Python writer of a `.litertlm` file, `litertlm_builder.py`.

Owns: the model types it can name, the calls of `LitertLmFileBuilder` with the exceptions they
raise, and `build` with the file it leaves in a stream that was empty.

Does not own: the flatbuffers, protobuf and zlib packages, which are parameters, the parsing
of a TOML file into calls, and the readers.

A metadata value is one that its `DType` can hold, and a path is a file or nothing. A call that
raises leaves what it has done to the builder behind.
-/

namespace LiteRTLM.Schema.Py

open LiteRTLM.Library
open LiteRTLM.Util

/-! ## Names -/

inductive TfLiteModelType where
  | prefillDecode
  | embedder
  | perLayerEmbedder
  | aux
  | audioFrontend
  | audioEncoderHw
  | audioAdapter
  | endOfAudio
  | visionEncoder
  | visionAdapter
  | artisanTextDecoder
deriving DecidableEq, Repr

def TfLiteModelType.value : TfLiteModelType → Text
  | .prefillDecode => "tf_lite_prefill_decode".toList
  | .embedder => "tf_lite_embedder".toList
  | .perLayerEmbedder => "tf_lite_per_layer_embedder".toList
  | .aux => "tf_lite_aux".toList
  | .audioFrontend => "tf_lite_audio_frontend".toList
  | .audioEncoderHw => "tf_lite_audio_encoder_hw".toList
  | .audioAdapter => "tf_lite_audio_adapter".toList
  | .endOfAudio => "tf_lite_end_of_audio".toList
  | .visionEncoder => "tf_lite_vision_encoder".toList
  | .visionAdapter => "tf_lite_vision_adapter".toList
  | .artisanTextDecoder => "tf_lite_artisan_text_decoder".toList

def backendValues : List Text :=
  ["cpu".toList, "gpu".toList, "npu".toList, "gpu_artisan".toList]

/-- The exceptions that the builder raises itself, and those of opening a file. -/
inductive PyError where
  | assertionError (message : String)
  | fileNotFoundError (message : String)
  | valueError (message : String)
deriving DecidableEq, Repr

abbrev Metadata := KeyValuePair

/-- `Metadata(key=key, value=value, dtype=DType.STRING)`. -/
def stringMetadata (key value : Text) : Metadata :=
  ⟨key, .stringValue (some value)⟩

/-! ## What the builder calls -/

/-- The files that the builder finds at their paths. -/
abbrev FileSystem := Text → Option (List UInt8)

/-- What a protobuf parser makes of a text or of bytes, if it raises no error. -/
structure ParsedMessage where
  isInitialized : Bool
  serialized : List UInt8

/-- The packages that the builder uses, and the methods of `str`. -/
structure BuilderLibraries where
  /-- The finished `flatbuffers.Builder` of a header. -/
  getHeaderData : LiteRTLMMetaData → List UInt8
  /-- `LlmMetadata.ParseFromString`. -/
  parseFromString : List UInt8 → Option ParsedMessage
  /-- `text_format.Parse` of a file that is read as text. -/
  textFormatParse : List UInt8 → Option ParsedMessage
  zlibCompress : List UInt8 → List UInt8
  lower : Text → Text
  strip : Text → Text

/-- `data_reader` of a section. -/
inductive DataReader where
  | file (path : Text)
  | textProto (path : Text)
  | compressed (path : Text)

/-- `_SectionObject`. -/
structure BuilderSection where
  metadata : List Metadata
  dataType : AnySectionDataType
  dataReader : DataReader

structure LitertLmFileBuilder where
  systemMetadata : List Metadata := []
  sections : List BuilderSection := []
  hasLlmMetadata : Bool := false
  hasTokenizer : Bool := false

abbrev BuilderM := EStateM PyError LitertLmFileBuilder

section Builder

variable (libraries : BuilderLibraries) (files : FileSystem)

/-- `open_file` and `read`. -/
def openAndRead (path : Text) : Except PyError (List UInt8) :=
  match files path with
  | some content => .ok content
  | none => .error (.fileNotFoundError s!"No such file or directory: {String.ofList path}")

def DataReader.read : DataReader → Except PyError (List UInt8)
  | .file path => openAndRead files path
  | .textProto path => do
    let content ← openAndRead files path
    match libraries.textFormatParse content with
    | some parsed => return parsed.serialized
    | none => throw (.valueError "The text format is malformed.")
  | .compressed path => do
    let content ← openAndRead files path
    return ByteImage.littleEndian 8 content.length ++ libraries.zlibCompress content

/-- `_is_binary_proto`; a text that parses and is not initialized has no result, which counts
as false. -/
def isBinaryProto (filePath : Text) : Except PyError Bool := do
  match files filePath with
  | none => throw (.assertionError s!"File {String.ofList filePath} does not exist.")
  | some content =>
    if (libraries.parseFromString content).any ParsedMessage.isInitialized then return true
    match libraries.textFormatParse content with
    | some _ => return false
    | none =>
      throw (.valueError s!"Failed to parse LlmMetadata from {String.ofList filePath}.")

/-- The parts of `str.split(",")`. -/
def splitCommas : Text → List Text
  | [] => [[]]
  | letter :: text =>
    if letter = ',' then [] :: splitCommas text
    else
      match splitCommas text with
      | [] => [[letter]]
      | part :: parts => (letter :: part) :: parts

def validateBackendConstraints (backendConstraint : Text) : Except PyError Unit :=
  let backends := (splitCommas backendConstraint).map fun part =>
    libraries.lower (libraries.strip part)
  match backends.find? fun backend => decide (backend ∉ backendValues) with
  | some backend => .error (.valueError s!"Invalid backend constraint: {String.ofList backend}.")
  | none => .ok ()

/-! ## The calls -/

def appendSection (section_ : BuilderSection) : BuilderM Unit :=
  modify fun builder => { builder with sections := builder.sections ++ [section_] }

def addSystemMetadata (metadata : Metadata) : BuilderM Unit := do
  let builder ← get
  if builder.systemMetadata.any fun existing => existing.key == metadata.key then
    throw (.valueError s!"System metadata already exists for key: {String.ofList metadata.key}")
  set { builder with systemMetadata := builder.systemMetadata ++ [metadata] }

/-- An exception of a helper passes through a call. -/
def raise {α : Type} (result : Except PyError α) : BuilderM α :=
  match result with
  | .ok value => pure value
  | .error exception => throw exception

def addLlmMetadata (llmMetadataPath : Text) (additionalMetadata : List Metadata) :
    BuilderM Unit := do
  if (← get).hasLlmMetadata then
    throw (.assertionError "Llm metadata already added.")
  modify fun builder => { builder with hasLlmMetadata := true }
  if (files llmMetadataPath).isNone then
    throw (.fileNotFoundError s!"Llm metadata file not found: {String.ofList llmMetadataPath}")
  let isBinary ← raise (isBinaryProto libraries files llmMetadataPath)
  let dataReader : DataReader :=
    if isBinary then .file llmMetadataPath else .textProto llmMetadataPath
  appendSection ⟨additionalMetadata, .llmMetadataProto, dataReader⟩

/-- The check of the additional metadata against the keys that the call sets itself. -/
def rejectOverride (additionalMetadata : List Metadata) (key : Text) (message : String) :
    BuilderM Unit :=
  if additionalMetadata.any fun item => item.key == key then throw (.valueError message)
  else pure ()

/-- The loop over the additional metadata of a model, which checks both keys of an item before
the next item. -/
def rejectOverrides : List Metadata → BuilderM Unit
  | [] => pure ()
  | item :: rest => do
    if item.key = modelTypeKey then
      throw (.valueError "Model type metadata cannot be overridden.")
    if item.key = backendConstraintKey then
      throw (.valueError "Backend constraint metadata cannot be overridden.")
    rejectOverrides rest

def addTfliteModel (tfliteModelPath : Text) (modelType : TfLiteModelType)
    (backendConstraint : Option Text) (additionalMetadata : List Metadata) :
    BuilderM Unit := do
  if (files tfliteModelPath).isNone then
    throw (.fileNotFoundError s!"Tflite model file not found: {String.ofList tfliteModelPath}")
  let typed := [stringMetadata modelTypeKey modelType.value]
  let metadata ← match backendConstraint with
    | none | some [] => pure typed
    | some constraint => do
      raise (validateBackendConstraints libraries constraint)
      pure (typed ++ [stringMetadata backendConstraintKey (libraries.lower constraint)])
  rejectOverrides additionalMetadata
  appendSection ⟨metadata ++ additionalMetadata, .tfLiteModel, .file tfliteModelPath⟩

def addTfliteWeights (tfliteWeightsPath : Text) (modelType : TfLiteModelType)
    (additionalMetadata : List Metadata) : BuilderM Unit := do
  if (files tfliteWeightsPath).isNone then
    throw (.fileNotFoundError
      s!"Tflite weights file not found: {String.ofList tfliteWeightsPath}")
  rejectOverride additionalMetadata modelTypeKey "Model type metadata cannot be overridden."
  appendSection ⟨stringMetadata modelTypeKey modelType.value :: additionalMetadata,
    .tfLiteWeights, .file tfliteWeightsPath⟩

/-- The part that the calls for tokenizers share. -/
def addTokenizer (path : Text) (missing : String) (added : BuilderSection) :
    BuilderM Unit := do
  if (← get).hasTokenizer then
    throw (.assertionError "Tokenizer already added.")
  modify fun builder => { builder with hasTokenizer := true }
  if (files path).isNone then
    throw (.fileNotFoundError s!"{missing}: {String.ofList path}")
  appendSection added

def addSentencepieceTokenizer (spTokenizerPath : Text) (additionalMetadata : List Metadata) :
    BuilderM Unit :=
  addTokenizer files spTokenizerPath "Sentencepiece tokenizer file not found"
    ⟨additionalMetadata, .spTokenizer, .file spTokenizerPath⟩

def addHfTokenizer (hfTokenizerPath : Text) (additionalMetadata : List Metadata) :
    BuilderM Unit :=
  addTokenizer files hfTokenizerPath "HF tokenizer file not found"
    ⟨additionalMetadata, .hfTokenizerZlib, .compressed hfTokenizerPath⟩

inductive BuilderCall where
  | addSystemMetadata (metadata : Metadata)
  | addLlmMetadata (path : Text) (additionalMetadata : List Metadata)
  | addTfliteModel (path : Text) (modelType : TfLiteModelType)
      (backendConstraint : Option Text) (additionalMetadata : List Metadata)
  | addTfliteWeights (path : Text) (modelType : TfLiteModelType)
      (additionalMetadata : List Metadata)
  | addSentencepieceTokenizer (path : Text) (additionalMetadata : List Metadata)
  | addHfTokenizer (path : Text) (additionalMetadata : List Metadata)

def BuilderCall.perform : BuilderCall → BuilderM Unit
  | .addSystemMetadata metadata => Py.addSystemMetadata metadata
  | .addLlmMetadata path additional => Py.addLlmMetadata libraries files path additional
  | .addTfliteModel path modelType constraint additional =>
    Py.addTfliteModel libraries files path modelType constraint additional
  | .addTfliteWeights path modelType additional =>
    Py.addTfliteWeights files path modelType additional
  | .addSentencepieceTokenizer path additional =>
    Py.addSentencepieceTokenizer files path additional
  | .addHfTokenizer path additional => Py.addHfTokenizer files path additional

end Builder

/-! ## The file -/

/-- A `BinaryIO` and its position. -/
structure BinaryStream where
  image : List UInt8 := []
  position : Nat := 0

namespace BinaryStream

def write (stream : BinaryStream) (data : List UInt8) : BinaryStream where
  image := ByteImage.overwrite 0 stream.image stream.position data
  position := stream.position + data.length

def seek (stream : BinaryStream) (position : Nat) : BinaryStream :=
  { stream with position := position }

def writePadding (stream : BinaryStream) (blockSize : Nat) : BinaryStream :=
  let paddingNeeded := (blockSize - stream.position % blockSize) % blockSize
  if 0 < paddingNeeded then stream.write (List.replicate paddingNeeded 0) else stream

end BinaryStream

/-- The table of `_get_header_data`. -/
def getHeaderTable (builder : LitertLmFileBuilder) (offsets : List (Nat × Nat)) :
    LiteRTLMMetaData where
  systemMetadata := some builder.systemMetadata
  sectionMetadata := some (List.zipWith
    (fun added offset =>
      ⟨some added.metadata, UInt64.ofNat offset.1, UInt64.ofNat offset.2, added.dataType⟩)
    builder.sections offsets)

section Build

variable (libraries : BuilderLibraries) (files : FileSystem)

/-- The loop over the sections. -/
def writeBuilderSections (stream : BinaryStream) :
    List BuilderSection → Except PyError (BinaryStream × List (Nat × Nat))
  | [] => .ok (stream, [])
  | added :: sections => do
    let data ← added.dataReader.read libraries files
    let written := stream.write data
    let (final, offsets) ←
      writeBuilderSections (written.writePadding blockSize) sections
    return (final, (stream.position, written.position) :: offsets)

def writeBuilderHeader (builder : LitertLmFileBuilder) (stream : BinaryStream)
    (offsets : List (Nat × Nat)) : Except PyError BinaryStream := do
  if builder.systemMetadata.isEmpty then
    throw (.assertionError "System metadata is empty.")
  let versioned := ((((stream.seek 0).write magicNumber).write
    (ByteImage.littleEndian 4 litertlmMajorVersion)).write
    (ByteImage.littleEndian 4 litertlmMinorVersion)).write
    (ByteImage.littleEndian 4 litertlmPatchVersion)
  let withHeader := (versioned.writePadding headerBeginByteOffset).write
    (libraries.getHeaderData (getHeaderTable builder offsets))
  if blockSize < withHeader.position then
    throw (.valueError "Header size exceeds 16KB limit.")
  return (withHeader.seek headerEndLocationByteOffset).write
    (ByteImage.littleEndian 8 withHeader.position)

/-- `build`, into a stream that holds nothing. -/
def build (builder : LitertLmFileBuilder) : Except PyError (List UInt8) := do
  let (written, offsets) ← writeBuilderSections libraries files
    (BinaryStream.write {} (List.replicate blockSize 0)) builder.sections
  let final ← writeBuilderHeader libraries builder written offsets
  return final.image

end Build

end LiteRTLM.Schema.Py
