import LiteRTLM.Schema.Core.HeaderSchema
import LiteRTLM.Util.MemoryMappedFile

/-!
Contract: the readers of a `.litertlm` file, `litertlm_read.cc`.

Owns: `ReadHeaderFromLiteRTLM`, `ReadValueTFromSection`, the functions that read one
section into a value, and the public functions that name a section type.

Does not own: the decoding of the flatbuffer and the libraries that take a section's
bytes (tflite, protobuf, SentencePiece, zlib), which are parameters.

The files exist and can be opened.
-/

namespace LiteRTLM.Schema

open LiteRTLM.Engine
open LiteRTLM.Library
open LiteRTLM.Util

/-- The libraries that the readers hand bytes to. -/
structure ReaderLibraries where
  /-- `GetLiteRTLMMetaData` and the accessors; `none` for bytes that hold no such table. -/
  getLiteRTLMMetaData : List UInt8 → Option LiteRTLMMetaData
  Model : Type
  /-- `FlatBufferModel::BuildFromAllocation` on an `MMAPAllocation` of the file. -/
  buildFromAllocation : ModelFile → (beginOffset modelSize : UInt64) → Model
  /-- `FlatBufferModel::BuildFromBuffer`. -/
  buildFromBuffer : ModelFile → MemoryMappedFile → Model
  LlmMetadata : Type
  /-- The message after `ParseFromArray`. -/
  parseFromArray : List UInt8 → LlmMetadata
  SentencePieceProcessor : Type
  loadFromSerializedProto : List UInt8 → StatusOr SentencePieceProcessor
  /-- `uncompress`, with room for the given number of bytes. -/
  uncompress : Nat → List UInt8 → StatusOr (List UInt8)

structure LitertlmHeader where
  majorVersion : Nat
  minorVersion : Nat
  patchVersion : Nat
  metadata : LiteRTLMMetaData
deriving DecidableEq

section Readers

variable (platform : Platform) (libraries : ReaderLibraries)

/-! ## The header -/

/-- The text a format string makes of raw bytes. -/
def bytesText (bytes : List UInt8) : String :=
  String.ofList (bytes.map fun byte => Char.ofNat byte.toNat)

/-- `ReadHeaderFromLiteRTLM` on a stream of the given bytes. -/
def readHeaderFromLiteRTLM (stream : List UInt8) : CallResult LitertlmHeader := do
  let magic := ByteImage.slice stream 0 8
  if magic ≠ magicNumber then
    throw (.status (.invalidArgumentError
      s!"Invalid magic number or failed to read: {bytesText magic}"))
  if stream.length < 20 then
    throw (.status (.internalError "Failed to read version bytes."))
  let majorVersion := ByteImage.ofLittleEndian (ByteImage.slice stream 8 12)
  let minorVersion := ByteImage.ofLittleEndian (ByteImage.slice stream 12 16)
  let patchVersion := ByteImage.ofLittleEndian (ByteImage.slice stream 16 20)
  if majorVersion ≠ litertlmMajorVersion then
    throw (.status ⟨.unimplemented,
      "Unimplemented Error: This reader doesn't support " ++
        s!"version {majorVersion}, expected version {litertlmMajorVersion}."⟩)
  -- `ignore(4)` does not fail at the end of the stream, the next read does.
  if stream.length < 32 then
    throw (.status (.internalError "Failed to read header end offset."))
  let headerEndOffset := ByteImage.ofLittleEndian (ByteImage.slice stream 24 32)
  if headerEndOffset < 32 then
    throw (.status (.invalidArgumentError
      "Invalid header end offset: smaller than current position."))
  platform.allocate (headerEndOffset - 32)
  if stream.length < headerEndOffset then
    throw (.status (.internalError "Failed to read header data."))
  match libraries.getLiteRTLMMetaData (ByteImage.slice stream 32 headerEndOffset) with
  | some metadata => return ⟨majorVersion, minorVersion, patchVersion, metadata⟩
  | none => throw (.crash .malformedBuffer)

/-! ## One section into a value -/

/-- The bytes an `ifstream` gives for `[beginOffset, endOffset)`, into a buffer allocated
before the read. An offset that is negative as a `streamoff` fails the seek. -/
def readBytes (file : ModelFile) (beginOffset endOffset : UInt64) :
    CallResult (List UInt8) := do
  let size := endOffset - beginOffset
  platform.allocate size.toNat
  if 2 ^ 63 ≤ beginOffset.toNat ∨ file.size < beginOffset.toNat + size.toNat then
    throw (.status (.internalError s!"Could not read {size} bytes from stream."))
  return file.range beginOffset.toNat (beginOffset.toNat + size.toNat)

def readSectionIntoBinaryData (file : ModelFile) (beginOffset endOffset : UInt64) :
    CallResult (List UInt8) :=
  readBytes platform file beginOffset endOffset

/-- The result of `ParseFromArray` is not looked at. -/
def readSectionIntoLlmMetadata (file : ModelFile) (beginOffset endOffset : UInt64) :
    CallResult libraries.LlmMetadata := do
  let buffer ← readBytes platform file beginOffset endOffset
  return libraries.parseFromArray buffer

def readSectionIntoSPTokenizer (file : ModelFile) (beginOffset endOffset : UInt64) :
    CallResult libraries.SentencePieceProcessor := do
  let buffer ← readBytes platform file beginOffset endOffset
  match libraries.loadFromSerializedProto buffer with
  | .ok processor => return processor
  | .error status => throw (.status (.internalError status.message))

def decompressData (compressed : List UInt8) : CallResult (List UInt8) := do
  if compressed.length < 8 then
    throw (.status (.internalError "Data too short to contain compressed size."))
  let uncompressedSize := ByteImage.ofLittleEndian (compressed.take 8)
  platform.allocate uncompressedSize
  (libraries.uncompress uncompressedSize (compressed.drop 8)).orReturn

def readSectionIntoHfTokenizerJsonData (file : ModelFile) (beginOffset endOffset : UInt64) :
    CallResult (List UInt8) := do
  let compressed ← readSectionIntoBinaryData platform file beginOffset endOffset
  decompressData platform libraries compressed

/-- The model may be null; the status is OK in either case. -/
def readSectionIntoTFLite (file : ModelFile) (beginOffset endOffset : UInt64) :
    CallResult libraries.Model :=
  return libraries.buildFromAllocation file beginOffset (endOffset - beginOffset)

def readSectionIntoTFLiteMappedFile (file : ModelFile) (beginOffset endOffset : UInt64) :
    CallResult libraries.Model :=
  match MemoryMappedFile.create platform file beginOffset (endOffset - beginOffset) with
  | .ok mapping => return libraries.buildFromBuffer file mapping
  | .error _ => throw (.status (.internalError "Failed to create memory-mapped file"))

/-! ## A section by its index -/

def anySectionDataTypeToString : AnySectionDataType → String
  | .none => "AnySectionDataType_NONE"
  | .deprecated => "AnySectionDataType_Deprecated"
  | .tfLiteModel => "AnySectionDataType_TFLiteModel"
  | .spTokenizer => "AnySectionDataType_SP_Tokenizer"
  | .llmMetadataProto => "AnySectionDataType_LlmMetadataProto"
  | .genericBinaryData => "AnySectionDataType_GenericBinaryData"
  | .hfTokenizerZlib => "AnySectionDataType_HF_Tokenizer_Zlib"
  | .tfLiteWeights => "Unknown AnySectionDataType value"
  | .unlisted _ _ => "Unknown AnySectionDataType value"

/-- The number of a section type in the file. -/
def AnySectionDataType.toNat : AnySectionDataType → Nat
  | .none => 0
  | .genericBinaryData => 1
  | .deprecated => 2
  | .tfLiteModel => 3
  | .spTokenizer => 4
  | .llmMetadataProto => 5
  | .hfTokenizerZlib => 6
  | .tfLiteWeights => 7
  | .unlisted value _ => value.toNat

/-- `header.metadata->section_metadata()->objects()`. -/
def LitertlmHeader.sections (header : LitertlmHeader) : CallResult (List SectionObject) :=
  match header.metadata.sectionMetadata with
  | some sections => .ok sections
  | none => .error (.crash .nullPointer)

/-- `ReadValueTFromSection`, with the section type and the reader that a caller names. -/
def readValueTFromSection {T : Type} (sectionT : AnySectionDataType)
    (readSectionIntoT : ModelFile → UInt64 → UInt64 → CallResult T)
    (file : ModelFile) (sectionIdx : Int) : CallResult T := do
  let header ← readHeaderFromLiteRTLM platform libraries file.bytes
  let sections ← header.sections
  if sectionIdx < 0 ∨ (sections.length : Int) ≤ sectionIdx then
    throw (.status (.invalidArgumentError
      s!"Invalid section index: {sectionIdx}, num sections = {sections.length}"))
  match sections[sectionIdx.toNat]? with
  | none => throw (.crash .nullPointer)
  | some object =>
    if object.dataType ≠ sectionT then
      throw (.status (.invalidArgumentError
        (s!"Section {sectionIdx} is not the expected type.  " ++
          s!"It is: {anySectionDataTypeToString object.dataType}, " ++
          s!"expected {sectionT.toNat}")))
    if object.endOffset - object.beginOffset = 0 then
      throw (.status (.invalidArgumentError s!"Section {sectionIdx} has zero size."))
    readSectionIntoT file object.beginOffset object.endOffset

def readBinaryDataFromSection : ModelFile → Int → CallResult (List UInt8) :=
  readValueTFromSection platform libraries .genericBinaryData
    (readSectionIntoBinaryData platform)

def readLlmMetadataFromSection : ModelFile → Int → CallResult libraries.LlmMetadata :=
  readValueTFromSection platform libraries .llmMetadataProto
    (readSectionIntoLlmMetadata platform libraries)

def readSPTokenizerFromSection : ModelFile → Int → CallResult libraries.SentencePieceProcessor :=
  readValueTFromSection platform libraries .spTokenizer
    (readSectionIntoSPTokenizer platform libraries)

def readHfTokenizerJsonFromSection : ModelFile → Int → CallResult (List UInt8) :=
  readValueTFromSection platform libraries .hfTokenizerZlib
    (readSectionIntoHfTokenizerJsonData platform libraries)

/-- `ReadTFLiteFileFromSection` without a place for the mapping. -/
def readTFLiteFileFromSection : ModelFile → Int → CallResult libraries.Model :=
  readValueTFromSection platform libraries .tfLiteModel (readSectionIntoTFLite libraries)

/-- `ReadTFLiteFileFromSection` that also hands out the mapping. -/
def readTFLiteFileFromSectionMapped : ModelFile → Int → CallResult libraries.Model :=
  readValueTFromSection platform libraries .tfLiteModel
    (readSectionIntoTFLiteMappedFile platform libraries)

end Readers

end LiteRTLM.Schema
