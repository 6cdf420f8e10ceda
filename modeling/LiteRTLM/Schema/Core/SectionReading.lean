import Mathlib
import LiteRTLM.Schema.Core.HeaderReading

/-!
Contract: which reads of a section end in an error.

Owns: the result of `ReadValueTFromSection` on every file and index, the reads that copy a
range of the file, and the condition under which a reader refuses every range that does not
lie in the file.

Does not own: what the libraries make of the bytes.
-/

namespace LiteRTLM.Schema

open LiteRTLM.Engine
open LiteRTLM.Library
open LiteRTLM.Util

/-- A section with bytes, all of them in the file. -/
def RangeInFile (file : ModelFile) (object : SectionObject) : Prop :=
  object.beginOffset.toNat < object.endOffset.toNat ∧ object.endOffset.toNat ≤ file.size

variable (platform : Platform) (libraries : ReaderLibraries) (file : ModelFile)

/-! ## Reads by index -/

section ByIndex

variable {T : Type} (sectionT : AnySectionDataType)
  (read : ModelFile → UInt64 → UInt64 → CallResult T)

/-- A read fails with a status, or the section it is for has its bytes in the file. -/
def ErrorUnlessInFile (sectionIdx : Int) (result : CallResult T) : Prop :=
  result.isStatus ∨
    ∃ metadata sections object, HoldsHeader libraries file.bytes metadata ∧
      metadata.sectionMetadata = some sections ∧ 0 ≤ sectionIdx ∧
      sections[sectionIdx.toNat]? = some object ∧ RangeInFile file object

/-- A header that cannot be read is an error of the read. -/
theorem readValueT_header {failure : Failure} (sectionIdx : Int)
    (failed : readHeaderFromLiteRTLM platform libraries file.bytes = .error failure) :
    readValueTFromSection platform libraries sectionT read file sectionIdx =
      .error failure := by
  rw [readValueTFromSection, failed]
  rfl

theorem readValueT_noSections {metadata : LiteRTLMMetaData} (sectionIdx : Int)
    (accepted : readHeaderFromLiteRTLM platform libraries file.bytes =
      .ok (headerOf file.bytes metadata))
    (missing : metadata.sectionMetadata = none) :
    readValueTFromSection platform libraries sectionT read file sectionIdx =
      .error (.crash .nullPointer) := by
  rw [readValueTFromSection, accepted]
  simp only [bind, Except.bind, headerOf_sections_missing _ missing]

/-- An index outside of the list is an error. -/
theorem readValueT_outside {metadata : LiteRTLMMetaData} {sections : List SectionObject}
    {sectionIdx : Int}
    (accepted : readHeaderFromLiteRTLM platform libraries file.bytes =
      .ok (headerOf file.bytes metadata))
    (listed : metadata.sectionMetadata = some sections)
    (outside : sectionIdx < 0 ∨ (sections.length : Int) ≤ sectionIdx) :
    (readValueTFromSection platform libraries sectionT read file sectionIdx).isStatus := by
  rw [readValueTFromSection, accepted]
  simp only [bind, Except.bind, headerOf_sections _ listed, if_pos outside]
  rfl

/-- An index inside the list leads to the reader, after the checks of the type and of the
size. -/
theorem readValueT_inside {metadata : LiteRTLMMetaData} {sections : List SectionObject}
    {object : SectionObject} {sectionIdx : Int}
    (accepted : readHeaderFromLiteRTLM platform libraries file.bytes =
      .ok (headerOf file.bytes metadata))
    (listed : metadata.sectionMetadata = some sections)
    (positive : 0 ≤ sectionIdx) (found : sections[sectionIdx.toNat]? = some object) :
    if object.dataType = sectionT ∧ object.beginOffset ≠ object.endOffset then
      readValueTFromSection platform libraries sectionT read file sectionIdx =
        read file object.beginOffset object.endOffset
    else (readValueTFromSection platform libraries sectionT read file sectionIdx).isStatus := by
  have below : sectionIdx.toNat < sections.length := by
    apply (List.getElem?_eq_some_iff.mp found).1
  have inside : ¬(sectionIdx < 0 ∨ (sections.length : Int) ≤ sectionIdx) := by omega
  rw [readValueTFromSection, accepted]
  simp only [bind, Except.bind, headerOf_sections _ listed, if_neg inside, found]
  by_cases typed : object.dataType = sectionT
  swap
  · rw [if_neg (fun both => typed both.1)]
    simp only [if_pos typed]
    rfl
  by_cases empty : object.beginOffset = object.endOffset
  · rw [if_neg (fun both => both.2 empty)]
    simp only [if_neg (not_not.mpr typed), empty, UInt64.sub_self]
    rfl
  · have size : object.endOffset - object.beginOffset ≠ 0 := by
      intro zero
      have restored := UInt64.sub_add_cancel object.endOffset object.beginOffset
      rw [zero, UInt64.zero_add] at restored
      exact empty restored
    rw [if_pos ⟨typed, empty⟩]
    simp only [if_neg (not_not.mpr typed), if_neg size]

/-- A reader keeps to the file at every index exactly when the header does not end the
process and the reader refuses, of the sections of its type, those that reach out of the
file. -/
theorem errorUnlessInFile_iff (decodes : HeaderDecodes libraries file.bytes) :
    (∀ sectionIdx, ErrorUnlessInFile libraries file sectionIdx
      (readValueTFromSection platform libraries sectionT read file sectionIdx)) ↔
      (DelimitsHeader file.bytes → headerEndOffset file.bytes - 32 ≤ platform.maxAllocation) ∧
      ∀ metadata, HoldsHeader libraries file.bytes metadata →
        ∃ sections, metadata.sectionMetadata = some sections ∧
          ∀ object ∈ sections, object.dataType = sectionT →
            object.beginOffset = object.endOffset ∨ RangeInFile file object ∨
              (read file object.beginOffset object.endOffset).isStatus := by
  have returns := readHeader_returns_iff platform libraries decodes
  constructor
  · intro kept
    -- The index -1 is an error of every file whose header can be used.
    have beforeFirst := (kept (-1)).resolve_right (by
      rintro ⟨-, -, -, -, -, positive, -⟩
      omega)
    cases accepted : readHeaderFromLiteRTLM platform libraries file.bytes with
    | error failure =>
      rw [readValueT_header platform libraries file sectionT read (-1) accepted] at beforeFirst
      rw [accepted] at returns
      have memory := returns.mp (by
        cases failure with
        | status status => rfl
        | crash cause => cases beforeFirst)
      refine ⟨memory, fun metadata holds => ?_⟩
      have ok := (readHeader_ok_iff platform libraries).mpr
        ⟨memory holds.toDelimitsHeader, metadata, holds, rfl⟩
      rw [accepted] at ok
      cases ok
    | ok header =>
      obtain ⟨memory, metadata, holds, rfl⟩ := (readHeader_ok_iff platform libraries).mp accepted
      refine ⟨fun _ => memory, fun other otherHolds => ?_⟩
      have same : some metadata = some other :=
        holds.decodes.symm.trans otherHolds.decodes
      cases same
      cases listed : metadata.sectionMetadata with
      | none =>
        rw [readValueT_noSections platform libraries file sectionT read (-1) accepted listed]
          at beforeFirst
        cases beforeFirst
      | some sections =>
        refine ⟨sections, rfl, fun object inList typed => ?_⟩
        obtain ⟨index, below, found⟩ := List.mem_iff_getElem.mp inList
        have located : sections[(index : Int).toNat]? = some object := by
          rw [Int.toNat_natCast, List.getElem?_eq_getElem below, found]
        have reading := readValueT_inside platform libraries file sectionT read accepted listed
          (Int.natCast_nonneg index) located
        by_cases empty : object.beginOffset = object.endOffset
        · exact Or.inl empty
        rw [if_pos ⟨typed, empty⟩] at reading
        apply Or.inr
        rcases kept index with status | ⟨there, list, other, thereHolds, thereListed, -,
          otherFound, inFile⟩
        · rw [reading] at status
          exact Or.inr status
        · have sameTable : some metadata = some there :=
            holds.decodes.symm.trans thereHolds.decodes
          cases sameTable
          rw [listed] at thereListed
          cases thereListed
          rw [located] at otherFound
          cases otherFound
          exact Or.inl inFile
  · rintro ⟨memory, sectionsFine⟩ sectionIdx
    cases accepted : readHeaderFromLiteRTLM platform libraries file.bytes with
    | error failure =>
      apply Or.inl
      rw [readValueT_header platform libraries file sectionT read sectionIdx accepted]
      have returned := returns.mpr memory
      rw [accepted] at returned
      cases failure with
      | status status => rfl
      | crash cause => cases returned
    | ok header =>
      obtain ⟨-, metadata, holds, rfl⟩ := (readHeader_ok_iff platform libraries).mp accepted
      obtain ⟨sections, listed, fine⟩ := sectionsFine metadata holds
      by_cases outside : sectionIdx < 0 ∨ (sections.length : Int) ≤ sectionIdx
      · exact Or.inl (readValueT_outside platform libraries file sectionT read accepted listed
          outside)
      have below : sectionIdx.toNat < sections.length := by omega
      have located : sections[sectionIdx.toNat]? = some sections[sectionIdx.toNat] :=
        List.getElem?_eq_getElem below
      have reading := readValueT_inside platform libraries file sectionT read accepted listed
        (by omega) located
      by_cases read_at : sections[sectionIdx.toNat].dataType = sectionT ∧
          sections[sectionIdx.toNat].beginOffset ≠ sections[sectionIdx.toNat].endOffset
      · rw [if_pos read_at] at reading
        rcases fine _ (List.getElem_mem below) read_at.1 with empty | inFile | status
        · exact absurd empty read_at.2
        · exact Or.inr ⟨metadata, sections, _, holds, listed, by omega, located, inFile⟩
        · rw [← reading] at status
          exact Or.inl status
      · rw [if_neg read_at] at reading
        exact Or.inl reading

end ByIndex

/-! ## Reads that copy -/

/-- Outside of the file, a copy is an error when its buffer can be allocated. -/
theorem readBytes_outside {beginOffset endOffset : UInt64}
    (outside : ¬(beginOffset.toNat < endOffset.toNat ∧ endOffset.toNat ≤ file.size))
    (different : beginOffset ≠ endOffset) :
    readBytes platform file beginOffset endOffset =
      if (endOffset - beginOffset).toNat ≤ platform.maxAllocation then
        .error (.status (.internalError
          s!"Could not read {endOffset - beginOffset} bytes from stream."))
      else .error (.crash .allocation) := by
  have apart : beginOffset.toNat ≠ endOffset.toNat := by
    intro same
    exact different (UInt64.toNat_inj.mp same)
  have short : 2 ^ 63 ≤ beginOffset.toNat ∨
      file.size < beginOffset.toNat + (endOffset - beginOffset).toNat := by
    have beginBound := beginOffset.toNat_lt
    have endBound := endOffset.toNat_lt
    have sizeBound : file.size < 2 ^ 63 := file.size_lt
    rw [UInt64.toNat_sub]
    omega
  rw [readBytes]
  by_cases fits : (endOffset - beginOffset).toNat ≤ platform.maxAllocation
  · rw [if_pos fits, allocate_ok platform fits]
    simp only [bind, Except.bind, if_pos short]
    rfl
  · rw [if_neg fits, allocate_crash platform fits]
    rfl

/-- The section types that are read by copying their bytes. -/
def AnySectionDataType.isCopied : AnySectionDataType → Bool
  | .genericBinaryData => true
  | .llmMetadataProto => true
  | .spTokenizer => true
  | .hfTokenizerZlib => true
  | _ => false

/-- A continuation of a copy is an error where the copy is one. -/
theorem copy_isStatus_iff {T : Type} (next : List UInt8 → CallResult T)
    {beginOffset endOffset : UInt64}
    (outside : ¬(beginOffset.toNat < endOffset.toNat ∧ endOffset.toNat ≤ file.size))
    (different : beginOffset ≠ endOffset) :
    (readBytes platform file beginOffset endOffset >>= next : CallResult T).isStatus ↔
      (endOffset - beginOffset).toNat ≤ platform.maxAllocation := by
  rw [readBytes_outside platform file outside different]
  by_cases fits : (endOffset - beginOffset).toNat ≤ platform.maxAllocation
  · rw [if_pos fits]
    exact ⟨fun _ => fits, fun _ => rfl⟩
  · rw [if_neg fits]
    constructor
    · intro impossible
      cases impossible
    · intro claimed
      exact absurd claimed fits

/-! ## All readers -/

/-- Every public function that reads one section keeps to the file. -/
structure ReadersStayInFile : Prop where
  binaryData : ∀ sectionIdx, ErrorUnlessInFile libraries file sectionIdx
    (readBinaryDataFromSection platform libraries file sectionIdx)
  llmMetadata : ∀ sectionIdx, ErrorUnlessInFile libraries file sectionIdx
    (readLlmMetadataFromSection platform libraries file sectionIdx)
  spTokenizer : ∀ sectionIdx, ErrorUnlessInFile libraries file sectionIdx
    (readSPTokenizerFromSection platform libraries file sectionIdx)
  hfTokenizerJson : ∀ sectionIdx, ErrorUnlessInFile libraries file sectionIdx
    (readHfTokenizerJsonFromSection platform libraries file sectionIdx)
  tfLiteFile : ∀ sectionIdx, ErrorUnlessInFile libraries file sectionIdx
    (readTFLiteFileFromSection platform libraries file sectionIdx)
  tfLiteFileMapped : ∀ sectionIdx, ErrorUnlessInFile libraries file sectionIdx
    (readTFLiteFileFromSectionMapped platform libraries file sectionIdx)

/-- A section that the readers of its type refuse if it does not lie in the file. A model
is read without a check, a copy is refused after its buffer was allocated. -/
structure RangeRefused (object : SectionObject) : Prop where
  model : object.dataType = .tfLiteModel →
    object.beginOffset = object.endOffset ∨ RangeInFile file object
  copied : object.dataType.isCopied →
    object.beginOffset = object.endOffset ∨ RangeInFile file object ∨
      (object.endOffset - object.beginOffset).toNat ≤ platform.maxAllocation

/-- A reader that copies keeps to the file where its buffers can be allocated. -/
theorem copies_stay_iff {T : Type} (sectionT : AnySectionDataType)
    (next : List UInt8 → CallResult T) (decodes : HeaderDecodes libraries file.bytes) :
    (∀ sectionIdx, ErrorUnlessInFile libraries file sectionIdx
      (readValueTFromSection platform libraries sectionT
        (fun target beginOffset endOffset =>
          readBytes platform target beginOffset endOffset >>= next) file sectionIdx)) ↔
      (DelimitsHeader file.bytes → headerEndOffset file.bytes - 32 ≤ platform.maxAllocation) ∧
      ∀ metadata, HoldsHeader libraries file.bytes metadata →
        ∃ sections, metadata.sectionMetadata = some sections ∧
          ∀ object ∈ sections, object.dataType = sectionT →
            object.beginOffset = object.endOffset ∨ RangeInFile file object ∨
              (object.endOffset - object.beginOffset).toNat ≤ platform.maxAllocation := by
  rw [errorUnlessInFile_iff platform libraries file sectionT _ decodes]
  refine and_congr_right fun _ => forall₂_congr fun metadata _ =>
    exists_congr fun sections => and_congr_right fun _ => forall₃_congr fun object _ _ => ?_
  by_cases empty : object.beginOffset = object.endOffset
  · simp only [empty, true_or]
  by_cases inFile : RangeInFile file object
  · simp only [inFile, true_or, or_true]
  · rw [copy_isStatus_iff platform file next inFile empty]

/-- A reader whose status is always OK keeps to the file where the sections do. -/
theorem models_stay_iff {T : Type} (sectionT : AnySectionDataType)
    (build : ModelFile → UInt64 → UInt64 → T) (decodes : HeaderDecodes libraries file.bytes) :
    (∀ sectionIdx, ErrorUnlessInFile libraries file sectionIdx
      (readValueTFromSection platform libraries sectionT
        (fun target beginOffset endOffset => .ok (build target beginOffset endOffset))
        file sectionIdx)) ↔
      (DelimitsHeader file.bytes → headerEndOffset file.bytes - 32 ≤ platform.maxAllocation) ∧
      ∀ metadata, HoldsHeader libraries file.bytes metadata →
        ∃ sections, metadata.sectionMetadata = some sections ∧
          ∀ object ∈ sections, object.dataType = sectionT →
            object.beginOffset = object.endOffset ∨ RangeInFile file object := by
  rw [errorUnlessInFile_iff platform libraries file sectionT _ decodes]
  refine and_congr_right fun _ => forall₂_congr fun metadata _ =>
    exists_congr fun sections => and_congr_right fun _ => forall₃_congr fun object _ _ => ?_
  simp [CallResult.isStatus]

/-- What `readSectionIntoSPTokenizer` makes of the bytes. -/
def loadProcessor (bytes : List UInt8) : CallResult libraries.SentencePieceProcessor :=
  match libraries.loadFromSerializedProto bytes with
  | .ok processor => return processor
  | .error status => throw (.status (.internalError status.message))

/-- All readers keep to the file exactly when the header can be read and lists its sections
and each of these is refused or lies in the file. -/
theorem readersStayInFile_iff (decodes : HeaderDecodes libraries file.bytes) :
    ReadersStayInFile platform libraries file ↔
      (DelimitsHeader file.bytes → headerEndOffset file.bytes - 32 ≤ platform.maxAllocation) ∧
      ∀ metadata, HoldsHeader libraries file.bytes metadata →
        ∃ sections, metadata.sectionMetadata = some sections ∧
          ∀ object ∈ sections, RangeRefused platform file object := by
  have binaryData := copies_stay_iff platform libraries file .genericBinaryData
    (fun bytes => .ok bytes) decodes
  have llmMetadata := copies_stay_iff platform libraries file .llmMetadataProto
    (fun bytes => .ok (libraries.parseFromArray bytes)) decodes
  have spTokenizer := copies_stay_iff platform libraries file .spTokenizer
    (loadProcessor libraries) decodes
  have hfTokenizer := copies_stay_iff platform libraries file .hfTokenizerZlib
    (fun bytes => decompressData platform libraries bytes) decodes
  have tfLiteFile := models_stay_iff platform libraries file .tfLiteModel
    (fun target beginOffset endOffset =>
      libraries.buildFromAllocation target beginOffset (endOffset - beginOffset)) decodes
  have binaryDataRead : (fun target beginOffset endOffset =>
      readBytes platform target beginOffset endOffset >>= fun bytes => .ok bytes) =
      readSectionIntoBinaryData platform := by
    funext target beginOffset endOffset
    rw [readSectionIntoBinaryData]
    cases readBytes platform target beginOffset endOffset <;> rfl
  rw [binaryDataRead] at binaryData
  constructor
  · intro stay
    have ofBinary := binaryData.mp stay.binaryData
    have ofMetadata := llmMetadata.mp stay.llmMetadata
    have ofSp := spTokenizer.mp stay.spTokenizer
    have ofHf := hfTokenizer.mp stay.hfTokenizerJson
    have ofModel := tfLiteFile.mp stay.tfLiteFile
    refine ⟨ofBinary.1, fun metadata holds => ?_⟩
    obtain ⟨sections, listed, binary⟩ := ofBinary.2 metadata holds
    have same : ∀ other, metadata.sectionMetadata = some other → other = sections := by
      intro other otherListed
      rw [listed] at otherListed
      exact (Option.some.inj otherListed).symm
    obtain ⟨metadataSections, listedMetadata, metadataFine⟩ := ofMetadata.2 metadata holds
    obtain ⟨spSections, listedSp, spFine⟩ := ofSp.2 metadata holds
    obtain ⟨hfSections, listedHf, hfFine⟩ := ofHf.2 metadata holds
    obtain ⟨modelSections, listedModel, modelFine⟩ := ofModel.2 metadata holds
    rw [same _ listedMetadata] at metadataFine
    rw [same _ listedSp] at spFine
    rw [same _ listedHf] at hfFine
    rw [same _ listedModel] at modelFine
    refine ⟨sections, listed, fun object inList => ⟨modelFine object inList, fun copied => ?_⟩⟩
    cases typed : object.dataType with
    | genericBinaryData => exact binary object inList typed
    | llmMetadataProto => exact metadataFine object inList typed
    | spTokenizer => exact spFine object inList typed
    | hfTokenizerZlib => exact hfFine object inList typed
    | none => rw [typed] at copied; cases copied
    | deprecated => rw [typed] at copied; cases copied
    | tfLiteModel => rw [typed] at copied; cases copied
    | tfLiteWeights => rw [typed] at copied; cases copied
    | unlisted value above => rw [typed] at copied; cases copied
  · rintro ⟨memory, sectionsFine⟩
    have copied : ∀ sectionT : AnySectionDataType, sectionT.isCopied →
        ∀ metadata, HoldsHeader libraries file.bytes metadata →
          ∃ sections, metadata.sectionMetadata = some sections ∧
            ∀ object ∈ sections, object.dataType = sectionT →
              object.beginOffset = object.endOffset ∨ RangeInFile file object ∨
                (object.endOffset - object.beginOffset).toNat ≤ platform.maxAllocation := by
      intro sectionT isCopied metadata holds
      obtain ⟨sections, listed, refused⟩ := sectionsFine metadata holds
      exact ⟨sections, listed, fun object inList typed =>
        (refused object inList).copied (by rw [typed]; exact isCopied)⟩
    have models : ∀ metadata, HoldsHeader libraries file.bytes metadata →
        ∃ sections, metadata.sectionMetadata = some sections ∧
          ∀ object ∈ sections, object.dataType = .tfLiteModel →
            object.beginOffset = object.endOffset ∨ RangeInFile file object := by
      intro metadata holds
      obtain ⟨sections, listed, refused⟩ := sectionsFine metadata holds
      exact ⟨sections, listed, fun object inList => (refused object inList).model⟩
    have mapped : ∀ metadata, HoldsHeader libraries file.bytes metadata →
        ∃ sections, metadata.sectionMetadata = some sections ∧
          ∀ object ∈ sections, object.dataType = .tfLiteModel →
            object.beginOffset = object.endOffset ∨ RangeInFile file object ∨
              (readSectionIntoTFLiteMappedFile platform libraries file object.beginOffset
                object.endOffset).isStatus := by
      intro metadata holds
      obtain ⟨sections, listed, fine⟩ := models metadata holds
      exact ⟨sections, listed, fun object inList typed =>
        (fine object inList typed).imp_right Or.inl⟩
    exact ⟨binaryData.mpr ⟨memory, copied _ rfl⟩, llmMetadata.mpr ⟨memory, copied _ rfl⟩,
      spTokenizer.mpr ⟨memory, copied _ rfl⟩, hfTokenizer.mpr ⟨memory, copied _ rfl⟩,
      tfLiteFile.mpr ⟨memory, models⟩,
      (errorUnlessInFile_iff platform libraries file .tfLiteModel _ decodes).mpr
        ⟨memory, mapped⟩⟩

end LiteRTLM.Schema
