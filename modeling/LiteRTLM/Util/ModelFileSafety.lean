import LiteRTLM.Util.LoaderSafety
import LiteRTLM.Schema.Core.SectionReading

/-!
Contract: model files cannot make the loader and the section readers leave the file.

Owns: the property for all look-ups of both model sources and for all section readers, and
the exact condition on the file for it.

Does not own: files whose header is no flatbuffer.
-/

namespace LiteRTLM.Util

open LiteRTLM.Engine
open LiteRTLM.Library
open LiteRTLM.Schema

variable (platform : Platform) (libraries : ReaderLibraries) (file : ModelFile)

/-! ## The property -/

/-- `Initialize` returns, and every later `GetSectionBuffer` finds nothing or the bytes of a
section in the file, the same for both model sources. -/
structure LoaderStaysInFile : Prop where
  returns : ∀ source,
    (LitertLmLoader.initializeLoader platform libraries file source).returns
  buffers : ∀ source loader,
    LitertLmLoader.initializeLoader platform libraries file source = .ok loader →
    ∀ (keys : List BufferKey) (index : Nat) (key : BufferKey) (buffer : BufferRef),
      keys[index]? = some key →
      (LitertLmLoader.getSectionBuffers platform file source loader keys)[index]? =
        some (some buffer) →
      ∃ sections object, loader.header.metadata.sectionMetadata = some sections ∧
        object ∈ sections ∧ isKeyedBy key object ∧
        CoversExactly file buffer object.beginOffset.toNat object.endOffset.toNat
  sameLoading : (∃ loader, LitertLmLoader.initializeLoader platform libraries file
      .memoryMappedFile = .ok loader) ↔
    ∃ loader, LitertLmLoader.initializeLoader platform libraries file .scopedFile = .ok loader
  sameRanges : ∀ mapped opened,
    LitertLmLoader.initializeLoader platform libraries file .memoryMappedFile = .ok mapped →
    LitertLmLoader.initializeLoader platform libraries file .scopedFile = .ok opened →
    ∀ keys : List BufferKey,
      (LitertLmLoader.getSectionBuffers platform file .memoryMappedFile mapped keys).map
          (Option.map BufferRef.range) =
        (LitertLmLoader.getSectionBuffers platform file .scopedFile opened keys).map
          (Option.map BufferRef.range)

/-! ## The condition -/

/-- A range in the file that does not start at the end of a file that ends with a page. -/
structure RangeServed (object : SectionObject) : Prop where
  ordered : object.beginOffset.toNat ≤ object.endOffset.toNat
  inside : object.endOffset.toNat ≤ file.size
  nonEmpty : object.beginOffset.toNat < file.size ∨
    object.beginOffset.toNat % platform.pageSize ≠ 0

/-- The sections of a header: each is refused by its readers or lies in the file, and where
the loader reads the header, each is readable and the one under a key is served. -/
structure SectionsSafe (sections : List SectionObject) : Prop where
  refused : ∀ object ∈ sections, RangeRefused platform file object
  readable : headerEndOffset file.bytes ≤ blockSize → ∀ object ∈ sections, SectionReadable object
  served : headerEndOffset file.bytes ≤ blockSize → ∀ key object,
    sectionWithKey sections key = some object → RangeServed platform file object

/-- There is memory for the header, and it lists sections that are safe. -/
structure SafeModelFile : Prop where
  memory : DelimitsHeader file.bytes →
    headerEndOffset file.bytes - 32 ≤ platform.maxAllocation
  sections : ∀ metadata, HoldsHeader libraries file.bytes metadata →
    ∃ sections, metadata.sectionMetadata = some sections ∧
      SectionsSafe platform file sections

/-! ## Look-ups of a loaded file -/

namespace LitertLmLoader

variable {platform libraries file}

/-- A new loader stores no buffers. -/
theorem buffersMatch_of_records {sections : List SectionObject} {header : LitertlmHeader}
    {loader : LitertLmLoader} (records : Records sections { header := header } loader)
    (source : ModelSource) : BuffersMatch platform file source loader := by
  intro key buffer found
  rw [records.buffers] at found
  cases found

theorem location_of_records {sections : List SectionObject} {header : LitertlmHeader}
    {loader : LitertLmLoader} (records : Records sections { header := header } loader)
    (key : BufferKey) : loader.sectionLocations key =
      (sectionWithKey sections key).map sectionLocation := by
  rw [records.locations key, Option.or_none]

/-- What a loaded file answers to a run of look-ups. -/
theorem getSectionBuffers_of_records {sections : List SectionObject} {header : LitertlmHeader}
    {loader : LitertLmLoader} (records : Records sections { header := header } loader)
    (source : ModelSource) (keys : List BufferKey) :
    getSectionBuffers platform file source loader keys = keys.map fun key =>
      bufferAt platform file source
        ((sectionWithKey sections key).map sectionLocation) := by
  rw [getSectionBuffers_eq platform file source (buffersMatch_of_records records source) keys]
  apply List.map_congr_left
  intro key _
  rw [location_of_records records key]

/-- The section under a key is one of the list, filed under that key. -/
theorem sectionWithKey_spec {sections : List SectionObject} {key : BufferKey}
    {object : SectionObject} (found : sectionWithKey sections key = some object) :
    object ∈ sections ∧ isKeyedBy key object := by
  have member := List.mem_of_getLast? found
  rw [List.mem_filter] at member
  exact member

/-- A served section is handed out by both sources, as its bytes in the file. -/
theorem bufferAt_served {object : SectionObject} (served : RangeServed platform file object)
    (source : ModelSource) :
    ∃ buffer, bufferAt platform file source (some (sectionLocation object)) = some buffer ∧
      CoversExactly file buffer object.beginOffset.toNat object.endOffset.toNat := by
  cases source with
  | memoryMappedFile =>
    exact ⟨_, rfl, wholeFileRef_covers file served.ordered served.inside⟩
  | scopedFile =>
    exact bufferAt_scopedFile platform file served.ordered served.inside served.nonEmpty

/-- When the mapping of the whole file serves a section and both sources agree on it, the
section is served. -/
theorem served_of_agreement {object : SectionObject} {start stop : Nat}
    (covers : CoversExactly file (wholeFileRef file object.beginOffset object.endOffset)
      start stop)
    (agree : (bufferAt platform file .memoryMappedFile (some (sectionLocation object))).map
        BufferRef.range =
      (bufferAt platform file .scopedFile (some (sectionLocation object))).map BufferRef.range) :
    RangeServed platform file object := by
  obtain ⟨ordered, inside⟩ := inside_of_wholeFileRef_covers file covers
  refine ⟨ordered, inside, ?_⟩
  by_contra neither
  rw [not_or, not_not] at neither
  have atEnd : object.beginOffset.toNat = file.size := by omega
  have empty : object.endOffset = object.beginOffset := by
    apply UInt64.toNat_inj.mp
    omega
  rw [sectionLocation, bufferAt_memoryMappedFile,
    bufferAt_scopedFile_end platform file atEnd empty (by rw [← atEnd]; exact neither.2)] at agree
  cases agree

end LitertLmLoader

/-! ## The equivalence -/

/-- The header that the loader reads is one that the readers of sections read. -/
theorem safe_of_loadable {metadata : LiteRTLMMetaData} {sections : List SectionObject}
    (safe : SafeModelFile platform libraries file)
    (loadable : LitertLmLoader.Loadable platform libraries file metadata sections) :
    SectionsSafe platform file sections ∧ headerEndOffset file.bytes ≤ blockSize := by
  obtain ⟨holds, early⟩ := (holdsHeader_firstBlock libraries).mp loadable.holds
  obtain ⟨listed, same, sectionsSafe⟩ := safe.sections metadata holds
  rw [loadable.listed] at same
  cases same
  exact ⟨sectionsSafe, early⟩

/-- A safe file keeps the loader in the file. -/
theorem loaderStaysInFile_of_safe (decodes : HeaderDecodes libraries file.bytes)
    (safe : SafeModelFile platform libraries file) :
    LoaderStaysInFile platform libraries file := by
  have sameLoader : ∀ source loader,
      LitertLmLoader.initializeLoader platform libraries file source = .ok loader →
      ∃ metadata sections, LitertLmLoader.Loadable platform libraries file metadata sections ∧
        (∀ other, LitertLmLoader.initializeLoader platform libraries file other = .ok loader) ∧
        LitertLmLoader.Records sections
          { header := headerOf (firstBlock file.bytes) metadata } loader := by
    intro source loader loaded
    obtain ⟨metadata, sections, loadable⟩ :=
      LitertLmLoader.initializeLoader_ok platform libraries file source loaded
    obtain ⟨other, otherLoaded, records⟩ :=
      LitertLmLoader.initializeLoader_loadable platform libraries file loadable
    have same := otherLoaded source
    rw [loaded] at same
    cases same
    exact ⟨metadata, sections, loadable, otherLoaded, records⟩
  refine ⟨fun source => ?_, ?_, ⟨?_, ?_⟩, ?_⟩
  · apply (LitertLmLoader.initializeLoader_returns_iff platform libraries file source decodes).mpr
    refine ⟨safe.memory, fun metadata holds => ?_⟩
    obtain ⟨fileHolds, early⟩ := (holdsHeader_firstBlock libraries).mp holds
    obtain ⟨sections, listed, sectionsSafe⟩ := safe.sections metadata fileHolds
    exact ⟨sections, listed, sectionsSafe.readable early⟩
  · intro source loader loaded keys index key buffer asked answered
    obtain ⟨metadata, sections, loadable, -, records⟩ := sameLoader source loader loaded
    obtain ⟨sectionsSafe, early⟩ := safe_of_loadable platform libraries file safe loadable
    rw [LitertLmLoader.getSectionBuffers_of_records records source keys, List.getElem?_map,
      asked, Option.map_some] at answered
    cases found : sectionWithKey sections key with
    | none =>
      rw [found] at answered
      cases answered
    | some object =>
      obtain ⟨inList, keyed⟩ := LitertLmLoader.sectionWithKey_spec found
      obtain ⟨served, servedBuffer, covers⟩ := LitertLmLoader.bufferAt_served
        (sectionsSafe.served early key object found) source
      rw [found, Option.map_some, servedBuffer] at answered
      cases answered
      refine ⟨sections, object, ?_, inList, keyed, covers⟩
      rw [records.header]
      exact loadable.listed
  · rintro ⟨loader, loaded⟩
    obtain ⟨-, -, -, same, -⟩ := sameLoader _ loader loaded
    exact ⟨loader, same .scopedFile⟩
  · rintro ⟨loader, loaded⟩
    obtain ⟨-, -, -, same, -⟩ := sameLoader _ loader loaded
    exact ⟨loader, same .memoryMappedFile⟩
  · intro mapped opened mappedLoaded openedLoaded keys
    obtain ⟨metadata, sections, loadable, same, records⟩ := sameLoader _ mapped mappedLoaded
    rw [same .scopedFile] at openedLoaded
    cases openedLoaded
    obtain ⟨sectionsSafe, early⟩ := safe_of_loadable platform libraries file safe loadable
    rw [LitertLmLoader.getSectionBuffers_of_records records,
      LitertLmLoader.getSectionBuffers_of_records records, List.map_map, List.map_map]
    apply List.map_congr_left
    intro key _
    cases found : sectionWithKey sections key with
    | none => simp only [Function.comp_apply, found]; rfl
    | some object =>
      have served := sectionsSafe.served early key object found
      obtain ⟨whole, wholeBuffer, wholeCovers⟩ :=
        LitertLmLoader.bufferAt_served served .memoryMappedFile
      obtain ⟨opened, openedBuffer, openedCovers⟩ :=
        LitertLmLoader.bufferAt_served served .scopedFile
      simp only [Function.comp_apply, found, Option.map_some, wholeBuffer, openedBuffer,
        wholeCovers.range, openedCovers.range]

/-- A file that keeps the loader and the readers in it is safe. -/
theorem safe_of_staysInFile (decodes : HeaderDecodes libraries file.bytes)
    (loaderStays : LoaderStaysInFile platform libraries file)
    (readersStay : ReadersStayInFile platform libraries file) :
    SafeModelFile platform libraries file := by
  obtain ⟨memory, sectionsRefused⟩ :=
    (readersStayInFile_iff platform libraries file decodes).mp readersStay
  have returned := (LitertLmLoader.initializeLoader_returns_iff platform libraries file
    .memoryMappedFile decodes).mp (loaderStays.returns .memoryMappedFile)
  refine ⟨memory, fun metadata holds => ?_⟩
  obtain ⟨sections, listed, refused⟩ := sectionsRefused metadata holds
  have readable : headerEndOffset file.bytes ≤ blockSize →
      ∀ object ∈ sections, SectionReadable object := by
    intro early
    obtain ⟨others, othersListed, othersReadable⟩ := returned.2 metadata
      ((holdsHeader_firstBlock libraries).mpr ⟨holds, early⟩)
    rw [listed] at othersListed
    cases othersListed
    exact othersReadable
  refine ⟨sections, listed, refused, readable, fun early key object found => ?_⟩
  obtain ⟨loader, loaded, records⟩ :=
    LitertLmLoader.initializeLoader_loadable platform libraries file
      (⟨(holdsHeader_firstBlock libraries).mpr ⟨holds, early⟩, memory holds.toDelimitsHeader,
        listed, readable early⟩ :
        LitertLmLoader.Loadable platform libraries file metadata sections)
  have answers : ∀ source, LitertLmLoader.getSectionBuffers platform file source loader [key] =
      [LitertLmLoader.bufferAt platform file source (some (sectionLocation object))] := by
    intro source
    rw [LitertLmLoader.getSectionBuffers_of_records records, List.map_singleton, found,
      Option.map_some]
  obtain ⟨-, other, -, -, -, covers⟩ := loaderStays.buffers .memoryMappedFile loader
    (loaded .memoryMappedFile) [key] 0 key
    (LitertLmLoader.wholeFileRef file object.beginOffset object.endOffset) rfl
    (by rw [answers]; rfl)
  apply LitertLmLoader.served_of_agreement covers
  have agree := loaderStays.sameRanges loader loader (loaded .memoryMappedFile)
    (loaded .scopedFile) [key]
  rw [answers, answers, List.map_singleton, List.map_singleton] at agree
  exact List.head_eq_of_cons_eq agree

/-- Neither the loader nor a section reader leaves the file exactly when the file is safe. -/
theorem staysInFile_iff (decodes : HeaderDecodes libraries file.bytes) :
    LoaderStaysInFile platform libraries file ∧ ReadersStayInFile platform libraries file ↔
      SafeModelFile platform libraries file := by
  constructor
  · intro stays
    exact safe_of_staysInFile platform libraries file decodes stays.1 stays.2
  · intro safe
    refine ⟨loaderStaysInFile_of_safe platform libraries file decodes safe, ?_⟩
    apply (readersStayInFile_iff platform libraries file decodes).mpr
    refine ⟨safe.memory, fun metadata holds => ?_⟩
    obtain ⟨sections, listed, sectionsSafe⟩ := safe.sections metadata holds
    exact ⟨sections, listed, sectionsSafe.refused⟩

/-! ## Two small files -/

/-- A system with 4 KiB pages, which maps any pages that fit its addresses. -/
def linux : Platform where
  pageSize := 4096
  pageSize_pos := by decide
  maxAllocation := 2 ^ 40
  maxAllocation_lt := by decide
  mmap := fun fileSize length offset => decide (0 < length ∧ offset % 4096 = 0 ∧
    (length + offset ≤ fileSize ∨ length + offset < 2 ^ 47))
  mmap_empty := by simp
  mmap_inside := by
    intro fileSize length offset positive aligned inside
    exact decide_eq_true ⟨positive, aligned, Or.inl inside⟩

/-- Libraries of which only the decoding of one table is used. -/
def librariesFor (table : List UInt8) (metadata : LiteRTLMMetaData) : ReaderLibraries where
  getLiteRTLMMetaData := fun bytes => if bytes = table then some metadata else none
  Model := Unit
  buildFromAllocation := fun _ _ _ => ()
  buildFromBuffer := fun _ _ => ()
  LlmMetadata := Unit
  parseFromArray := fun _ => ()
  SentencePieceProcessor := Unit
  loadFromSerializedProto := fun _ => .ok ()
  uncompress := fun _ bytes => .ok bytes

/-- The table of a header that lists one section of binary data. -/
def oneSection (beginOffset endOffset : UInt64) : LiteRTLMMetaData where
  systemMetadata := some []
  sectionMetadata := some [⟨some [], beginOffset, endOffset, .genericBinaryData⟩]

/-- The bytes in front of the table. -/
def filePrefix (headerEnd : Nat) : List UInt8 :=
  magicNumber ++ ByteImage.littleEndian 4 1 ++ ByteImage.littleEndian 4 5 ++
    ByteImage.littleEndian 4 0 ++ List.replicate 4 0 ++ ByteImage.littleEndian 8 headerEnd

/-- The flatbuffer of `oneSection 136 152`. -/
def insideTable : List UInt8 :=
    [12, 0, 0, 0, 8, 0, 12, 0, 4, 0, 8, 0, 8, 0, 0, 0, 76, 0, 0, 0, 4, 0, 0, 0, 194, 255, 255,
     255, 4, 0, 0, 0, 1, 0, 0, 0, 16, 0, 0, 0, 12, 0, 28, 0, 8, 0, 12, 0, 20, 0, 7, 0, 12, 0, 0,
     0, 0, 0, 0, 1, 20, 0, 0, 0, 136, 0, 0, 0, 0, 0, 0, 0, 152, 0, 0, 0, 0, 0, 0, 0, 0, 0, 0, 0,
     0, 0, 6, 0, 8, 0, 4, 0, 6, 0, 0, 0, 4, 0, 0, 0, 0, 0, 0, 0]

/-- A file whose last 16 bytes are its section. -/
def insideFile : ModelFile where
  bytes := filePrefix 136 ++ insideTable ++ List.replicate 16 7
  size_lt := by decide +kernel

/-- The flatbuffer of `oneSection 0 4096`. -/
def outsideTable : List UInt8 :=
    [12, 0, 0, 0, 8, 0, 12, 0, 4, 0, 8, 0, 8, 0, 0, 0, 68, 0, 0, 0, 4, 0, 0, 0, 202, 255, 255,
     255, 4, 0, 0, 0, 1, 0, 0, 0, 16, 0, 0, 0, 12, 0, 20, 0, 8, 0, 0, 0, 12, 0, 7, 0, 12, 0, 0,
     0, 0, 0, 0, 1, 12, 0, 0, 0, 0, 16, 0, 0, 0, 0, 0, 0, 0, 0, 0, 0, 0, 0, 6, 0, 8, 0, 4, 0, 6,
     0, 0, 0, 4, 0, 0, 0, 0, 0, 0, 0]

/-- A file of 128 bytes with a section of 4096 bytes. -/
def outsideFile : ModelFile where
  bytes := filePrefix 128 ++ outsideTable
  size_lt := by decide +kernel

theorem insideFile_holds {metadata : LiteRTLMMetaData}
    (holds : HoldsHeader (librariesFor insideTable (oneSection 136 152)) insideFile.bytes
      metadata) : metadata = oneSection 136 152 := by
  have decoded : (librariesFor insideTable (oneSection 136 152)).getLiteRTLMMetaData
      (headerBytes insideFile.bytes) = some (oneSection 136 152) := by
    decide +kernel
  exact Option.some.inj (holds.decodes.symm.trans decoded)

theorem staysInFile_insideFile :
    LoaderStaysInFile linux (librariesFor insideTable (oneSection 136 152)) insideFile ∧
      ReadersStayInFile linux (librariesFor insideTable (oneSection 136 152)) insideFile := by
  apply (staysInFile_iff linux (librariesFor insideTable (oneSection 136 152)) insideFile
    (fun _ _ => by decide +kernel)).mpr
  refine ⟨fun _ => by decide +kernel, fun metadata holds => ?_⟩
  rw [insideFile_holds holds]
  refine ⟨_, rfl, ⟨?_, ?_, ?_⟩⟩
  · intro object inList
    rw [List.mem_singleton] at inList
    subst inList
    exact ⟨fun typed => (nomatch typed),
      fun _ => Or.inr (Or.inl ⟨by decide +kernel, by decide +kernel⟩)⟩
  · intro _ object inList
    rw [List.mem_singleton] at inList
    subst inList
    exact fun typed => nomatch typed
  · intro _ key object found
    have inList := (LitertLmLoader.sectionWithKey_spec found).1
    rw [List.mem_singleton] at inList
    subst inList
    exact ⟨by decide +kernel, by decide +kernel, Or.inl (by decide +kernel)⟩

/-- From the mapping of the whole file, the loader hands out 4096 bytes of a file of 128. -/
theorem outsideFile_leavesFile :
    ¬(LoaderStaysInFile linux (librariesFor outsideTable (oneSection 0 4096)) outsideFile ∧
      ReadersStayInFile linux (librariesFor outsideTable (oneSection 0 4096)) outsideFile) := by
  intro stays
  have listed : (oneSection 0 4096).sectionMetadata =
      some [⟨some [], 0, 4096, .genericBinaryData⟩] := rfl
  have holds : HoldsHeader (librariesFor outsideTable (oneSection 0 4096))
      (firstBlock outsideFile.bytes) (oneSection 0 4096) :=
    ⟨⟨by decide +kernel, by decide +kernel, by decide +kernel, by decide +kernel⟩,
      by decide +kernel, by decide +kernel⟩
  obtain ⟨loader, loaded, records⟩ := LitertLmLoader.initializeLoader_loadable linux
    (librariesFor outsideTable (oneSection 0 4096)) outsideFile
    ⟨holds, by decide +kernel, listed, by simp [SectionReadable, AnySectionDataType.hasModelType]⟩
  obtain ⟨-, object, -, -, -, covers⟩ := stays.1.buffers .memoryMappedFile loader
    (loaded .memoryMappedFile) [BufferKey.ofDataType .genericBinaryData] 0
    (BufferKey.ofDataType .genericBinaryData)
    (LitertLmLoader.wholeFileRef outsideFile 0 4096) rfl (by
      rw [LitertLmLoader.getSectionBuffers_of_records records]
      decide +kernel)
  have inside := LitertLmLoader.inside_of_wholeFileRef_covers outsideFile covers
  exact absurd inside.2 (by decide +kernel)

end LiteRTLM.Util
