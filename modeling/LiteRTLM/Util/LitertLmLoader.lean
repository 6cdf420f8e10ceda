import Mathlib.Logic.Function.Basic
import LiteRTLM.Schema.Core.LitertlmRead

/-!
Contract: `LitertLmLoader`, which finds and maps the sections of a model file.

Owns: the model types and their names, the keys of the section buffers, `Initialize`,
`MapSection` and `GetSectionBuffer` for both model sources.

Does not own: the file format and what a mapping is, and the use of the buffers.
-/

namespace LiteRTLM.Util

open LiteRTLM.Engine
open LiteRTLM.Library
open LiteRTLM.Schema

/-! ## Model types -/

inductive ModelType where
  | unknown
  | tfLitePrefillDecode
  | tfLiteEmbedder
  | tfLitePerLayerEmbedder
  | tfLiteAux
  | tfLiteAudioFrontend
  | tfLiteAudioEncoderHw
  | tfLiteAudioAdapter
  | tfLiteEndOfAudio
  | tfLiteVisionAdapter
  | tfLiteVisionEncoder
  | artisanTextDecoder
deriving DecidableEq, Repr

/-- The names that `StringToModelType` compares with, in its order. -/
def modelTypeNames : List (Text × ModelType) :=
  [("tf_lite_prefill_decode".toList, .tfLitePrefillDecode),
    ("tf_lite_embedder".toList, .tfLiteEmbedder),
    ("tf_lite_per_layer_embedder".toList, .tfLitePerLayerEmbedder),
    ("tf_lite_aux".toList, .tfLiteAux),
    ("tf_lite_audio_frontend".toList, .tfLiteAudioFrontend),
    ("tf_lite_audio_encoder_hw".toList, .tfLiteAudioEncoderHw),
    ("tf_lite_audio_adapter".toList, .tfLiteAudioAdapter),
    ("tf_lite_end_of_audio".toList, .tfLiteEndOfAudio),
    ("tf_lite_vision_adapter".toList, .tfLiteVisionAdapter),
    ("tf_lite_vision_encoder".toList, .tfLiteVisionEncoder),
    ("tf_lite_artisan_text_decoder".toList, .artisanTextDecoder)]

def asciiStrToLower (text : Text) : Text := text.map Char.toLower

/-- `StringToModelType`; the case of the letters does not matter. -/
def stringToModelType (modelTypeStr : Text) : StatusOr ModelType :=
  match modelTypeNames.lookup (asciiStrToLower modelTypeStr) with
  | some modelType => .ok modelType
  | none => .error (.invalidArgumentError
      s!"Unknown model type: {String.ofList modelTypeStr}")

/-! ## Keys -/

/-- The key of a section buffer; only models and weights have a model type. -/
structure BufferKey where
  dataType : AnySectionDataType
  modelType : Option ModelType
  modelType_allowed : modelType.isSome → dataType.hasModelType
deriving DecidableEq

/-- The constructor without a model type. -/
def BufferKey.ofDataType (dataType : AnySectionDataType) : BufferKey where
  dataType := dataType
  modelType := none
  modelType_allowed := by simp

def BufferKey.ofModelType (dataType : AnySectionDataType)
    (hasModelType : dataType.hasModelType) (modelType : ModelType) : BufferKey where
  dataType := dataType
  modelType := some modelType
  modelType_allowed := fun _ => hasModelType

/-! ## The items of a section -/

/-- What the loop over the items of a section has found so far. -/
structure ItemScan where
  modelType : Option Text := none
  backendConstraint : Text := []
deriving DecidableEq

/-- `*(item->value_as_StringValue()->value())`. -/
def itemString (item : KeyValuePair) : CallResult Text :=
  match item.value.text with
  | some text => .ok text
  | none => .error (.crash .nullPointer)

/-- Whether an item has the given key, up to the case of its letters. -/
def itemHasKey (item : KeyValuePair) (name : Text) : Bool :=
  asciiStrToLower item.key == name

def modelTypeKey : Text := "model_type".toList

def backendConstraintKey : Text := "backend_constraint".toList

/-- The body of the loop over the items. -/
def ItemScan.step (scan : ItemScan) (item : KeyValuePair) : CallResult ItemScan :=
  if itemHasKey item modelTypeKey then do
    let text ← itemString item
    return { scan with modelType := some text }
  else if itemHasKey item backendConstraintKey then do
    let text ← itemString item
    return { scan with backendConstraint := text }
  else return scan

/-- The key of a section and its backend constraint, which is empty when it has none. -/
def bufferKeyOf (object : SectionObject) : CallResult (BufferKey × Text) :=
  if hasModelType : object.dataType.hasModelType then do
    let items ← match object.items with
      | some items => (.ok items : CallResult (List KeyValuePair))
      | none => .error (.crash .nullPointer)
    let scan ← items.foldlM ItemScan.step {}
    match scan.modelType with
    | some text => do
      let modelType ← (stringToModelType text).value
      return (.ofModelType object.dataType hasModelType modelType, scan.backendConstraint)
    | none =>
      return (.ofModelType object.dataType hasModelType .tfLitePrefillDecode,
        scan.backendConstraint)
  else return (.ofDataType object.dataType, [])

/-! ## The loader -/

/-- `model_source_`: a mapping of the whole file, or the open file. -/
inductive ModelSource where
  | memoryMappedFile
  | scopedFile
deriving DecidableEq, Repr

structure LitertLmLoader where
  header : LitertlmHeader
  sectionLocations : BufferKey → Option (UInt64 × UInt64) := fun _ => none
  sectionMemoryMappedFiles : BufferKey → Option MemoryMappedFile := fun _ => none
  sectionBuffers : BufferKey → Option BufferRef := fun _ => none
  sectionBackendConstraint : BufferKey → Option Text := fun _ => none

namespace LitertLmLoader

variable (platform : Platform) (libraries : ReaderLibraries) (file : ModelFile)
  (source : ModelSource)

/-- `kLitertLmHeaderMaxSize`. -/
def headerMaxSize : Nat := 16 * 1024

/-- The bytes that `Initialize` reads the header from. -/
def headerData : StatusOr (List UInt8) :=
  let headerSize := min headerMaxSize file.size
  match source with
  | .memoryMappedFile => .ok (file.range 0 headerSize)
  | .scopedFile => do
    let mapping ← MemoryMappedFile.create platform file 0 (UInt64.ofNat headerSize)
    return file.range mapping.offset (mapping.offset + headerSize)

/-- The body of the loop over the sections. -/
def recordSection (loader : LitertLmLoader) (object : SectionObject) :
    CallResult LitertLmLoader := do
  let (bufferKey, backendConstraint) ← bufferKeyOf object
  let constraints :=
    if backendConstraint.isEmpty then loader.sectionBackendConstraint
    else Function.update loader.sectionBackendConstraint bufferKey (some backendConstraint)
  return { loader with
    sectionBackendConstraint := constraints
    sectionLocations := Function.update loader.sectionLocations bufferKey
      (some (object.beginOffset, object.endOffset)) }

/-- `Initialize`, of a new loader. -/
def initializeLoader : CallResult LitertLmLoader := do
  let stream ← (headerData platform file source).orReturn
  let header ← readHeaderFromLiteRTLM platform libraries stream
  let sections ← header.sections
  sections.foldlM recordSection { header := header }

/-- The mapping and the data of `MapSection`. -/
def mapRange (beginOffset endOffset : UInt64) :
    StatusOr (Option MemoryMappedFile × BufferRef) :=
  let sectionSize := (endOffset - beginOffset).toNat
  match source with
  | .memoryMappedFile => .ok (none, ⟨⟨0, file.size⟩, beginOffset.toNat, sectionSize⟩)
  | .scopedFile => do
    let alignmentGap := beginOffset.toNat % platform.pageSize
    let alignedBeginOffset := beginOffset - UInt64.ofNat alignmentGap
    let mapping ← MemoryMappedFile.create platform file alignedBeginOffset
      (endOffset - alignedBeginOffset)
    return (some mapping, ⟨mapping, alignmentGap, sectionSize⟩)

def mapSection (loader : LitertLmLoader) (bufferKey : BufferKey)
    (beginOffset endOffset : UInt64) : StatusOr LitertLmLoader := do
  let (mapping, buffer) ← mapRange platform file source beginOffset endOffset
  return { loader with
    sectionMemoryMappedFiles := match mapping with
      | some mapped =>
        Function.update loader.sectionMemoryMappedFiles bufferKey (some mapped)
      | none => loader.sectionMemoryMappedFiles
    sectionBuffers := Function.update loader.sectionBuffers bufferKey (some buffer) }

def getSectionBuffer (loader : LitertLmLoader) (bufferKey : BufferKey) :
    Option BufferRef × LitertLmLoader :=
  match loader.sectionLocations bufferKey with
  | none => (none, loader)
  | some (offsetBegin, offsetEnd) =>
    match loader.sectionBuffers bufferKey with
    | some buffer => (some buffer, loader)
    | none =>
      match mapSection platform file source loader bufferKey offsetBegin offsetEnd with
      | .error _ => (none, loader)
      | .ok mapped => (mapped.sectionBuffers bufferKey, mapped)

/-- The results of a run of calls, in their order. -/
def getSectionBuffers (loader : LitertLmLoader) : List BufferKey → List (Option BufferRef)
  | [] => []
  | bufferKey :: later =>
    let (buffer, next) := getSectionBuffer platform file source loader bufferKey
    buffer :: getSectionBuffers next later

end LitertLmLoader

end LiteRTLM.Util
