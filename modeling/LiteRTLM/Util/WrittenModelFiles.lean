import LiteRTLM.Schema.Core.LitertlmExport
import LiteRTLM.Util.ModelFileSafety

/-!
Contract: model files that a writer has written, as the readers and the loader see them.

Owns: the image of a file read back section by section, the keys under which the loader finds
the sections, and the round trip through `MakeLiteRTLMFromSections`.

Does not own: what the libraries make of the bytes of a section.
-/

namespace LiteRTLM.Util

open LiteRTLM.Engine
open LiteRTLM.Library
open LiteRTLM.Schema

/-! ## Lists side by side -/

theorem forall₂_zipWith {α β γ : Type} {related : α → β → Prop} {placed : α → γ → Prop}
    {combine : α → β → γ} (step : ∀ first second, related first second →
      placed first (combine first second)) {firsts : List α} {seconds : List β}
    (all : List.Forall₂ related firsts seconds) :
    List.Forall₂ placed firsts (List.zipWith combine firsts seconds) := by
  induction all with
  | nil => exact .nil
  | cons head _ inductionHypothesis => exact .cons (step _ _ head) inductionHypothesis

/-- What a combination keeps of its second part can be read off it. -/
theorem map_zipWith_of_forall₂ {α β γ : Type} {related : α → β → Prop} {combine : α → β → γ}
    {project : γ → β} (kept : ∀ first second, related first second →
      project (combine first second) = second) {firsts : List α} {seconds : List β}
    (all : List.Forall₂ related firsts seconds) :
    (List.zipWith combine firsts seconds).map project = seconds := by
  induction all with
  | nil => rfl
  | cons head _ inductionHypothesis =>
    rw [List.zipWith_cons_cons, List.map_cons, kept _ _ head, inductionHypothesis]

theorem rel_getLast? {α β : Type} {related : α → β → Prop} {firsts : List α} {seconds : List β}
    (all : List.Forall₂ related firsts seconds) :
    Option.Rel related firsts.getLast? seconds.getLast? := by
  have reversed := List.rel_reverse all
  rw [← List.head?_reverse, ← List.head?_reverse]
  generalize firsts.reverse = firstsBackwards at reversed ⊢
  generalize seconds.reverse = secondsBackwards at reversed ⊢
  cases reversed with
  | nil => exact .none
  | cons head _ => exact .some head

theorem exists_of_getElem? {α β : Type} {related : α → β → Prop} {firsts : List α}
    {seconds : List β} (all : List.Forall₂ related firsts seconds) {index : Nat} {first : α}
    (found : firsts[index]? = some first) :
    ∃ second, seconds[index]? = some second ∧ related first second := by
  induction all generalizing index with
  | nil => cases found
  | cons head _ inductionHypothesis =>
    cases index with
    | zero =>
      cases found
      exact ⟨_, rfl, head⟩
    | succ index => exact inductionHypothesis found

theorem exists_of_mem_right {α β : Type} {related : α → β → Prop} {firsts : List α}
    {seconds : List β} (all : List.Forall₂ related firsts seconds) {second : β}
    (member : second ∈ seconds) : ∃ first ∈ firsts, related first second := by
  induction all with
  | nil => cases member
  | cons head _ inductionHypothesis =>
    rcases List.mem_cons.mp member with here | later
    · exact ⟨_, List.mem_cons_self, here ▸ head⟩
    · obtain ⟨first, inFirsts, kept⟩ := inductionHypothesis later
      exact ⟨first, List.mem_cons_of_mem _ inFirsts, kept⟩

/-! ## The header of an image -/

section Image

variable {header : List UInt8} {contents : List (List UInt8)}

theorem headerEnd_le_sectionsImage (fits : headerBeginByteOffset + header.length ≤ blockSize) :
    headerBeginByteOffset + header.length ≤ (sectionsImage contents).length :=
  fits.trans (blockSize_le_sectionsImage contents)

theorem imageWithHeader_length (fits : headerBeginByteOffset + header.length ≤ blockSize) :
    (ByteImage.overwrite 0 (sectionsImage contents) headerBeginByteOffset header).length =
      (sectionsImage contents).length := by
  rw [ByteImage.overwrite_length, max_eq_left (headerEnd_le_sectionsImage fits)]

theorem modelFileImage_length (fits : headerBeginByteOffset + header.length ≤ blockSize) :
    (modelFileImage header contents).length = (sectionsImage contents).length := by
  have large := blockSize_le_sectionsImage contents
  have value : blockSize = 16384 := rfl
  have offset : headerEndLocationByteOffset = 24 := rfl
  rw [modelFileImage, ByteImage.overwrite_length, imageWithHeader_length fits,
    ByteImage.littleEndian_length, max_eq_left (by omega)]

/-- The positions that an image is written at lie in it. -/
theorem headerPositions_inside (contents : List (List UInt8))
    (fits : headerBeginByteOffset + header.length ≤ blockSize) :
    headerBeginByteOffset ≤ (sectionsImage contents).length ∧
      headerEndLocationByteOffset ≤ (ByteImage.overwrite 0 (sectionsImage contents)
        headerBeginByteOffset header).length := by
  have large := blockSize_le_sectionsImage contents
  have value : blockSize = 16384 := rfl
  have first : headerBeginByteOffset = 32 := rfl
  have second : headerEndLocationByteOffset = 24 := rfl
  rw [imageWithHeader_length fits]
  omega

/-- In front of the end offset, an image has the preamble. -/
theorem slice_preamble (fits : headerBeginByteOffset + header.length ≤ blockSize)
    {start stop : Nat} (inside : stop ≤ filePreamble.length) :
    ByteImage.slice (modelFileImage header contents) start stop =
      ByteImage.slice filePreamble start stop := by
  obtain ⟨begins, ends⟩ := headerPositions_inside contents fits
  rw [filePreamble_length] at inside
  have first : headerBeginByteOffset = 32 := rfl
  have second : headerEndLocationByteOffset = 24 := rfl
  rw [modelFileImage, ByteImage.slice_overwrite_before 0 _ _ _ ends (by omega),
    ByteImage.slice_overwrite_before 0 _ _ _ begins (by omega), sectionsImage,
    PaddedParts.slice_appendParts _ _ _ _ (by rw [paddedPreamble_length, blockSize]; omega),
    PaddedParts.padded, ByteImage.slice_append_left _ _ (by rw [filePreamble_length]; omega)]

theorem headerEndOffset_modelFileImage (contents : List (List UInt8))
    (fits : headerBeginByteOffset + header.length ≤ blockSize) :
    headerEndOffset (modelFileImage header contents) =
      headerBeginByteOffset + header.length := by
  have written := ByteImage.slice_overwrite_self 0 _ headerEndLocationByteOffset
    (ByteImage.littleEndian 8 (headerBeginByteOffset + header.length))
    (headerPositions_inside contents fits).2
  rw [ByteImage.littleEndian_length] at written
  have value : blockSize = 16384 := rfl
  rw [headerEndOffset, modelFileImage]
  show ByteImage.ofLittleEndian (ByteImage.slice _ headerEndLocationByteOffset
    (headerEndLocationByteOffset + 8)) = _
  rw [written, ByteImage.ofLittleEndian_littleEndian _ _ (by omega)]

theorem headerBytes_modelFileImage (contents : List (List UInt8))
    (fits : headerBeginByteOffset + header.length ≤ blockSize) :
    headerBytes (modelFileImage header contents) = header := by
  obtain ⟨begins, ends⟩ := headerPositions_inside contents fits
  rw [headerBytes, headerEndOffset_modelFileImage contents fits, modelFileImage]
  show ByteImage.slice _ headerBeginByteOffset _ = header
  rw [ByteImage.slice_overwrite_after 0 _ _ _ ends
    (by rw [ByteImage.littleEndian_length]; decide),
    ByteImage.slice_overwrite_self 0 _ _ _ begins]

theorem delimitsHeader_modelFileImage (contents : List (List UInt8))
    (fits : headerBeginByteOffset + header.length ≤ blockSize) :
    DelimitsHeader (modelFileImage header contents) where
  magic := by
    rw [slice_preamble fits (by rw [filePreamble_length]; decide)]
    rfl
  reaches := by
    have large := blockSize_le_sectionsImage contents
    have value : blockSize = 16384 := rfl
    rw [modelFileImage_length fits]
    omega
  major := by
    rw [slice_preamble fits (by rw [filePreamble_length]; decide)]
    rfl
  ordered := by
    rw [headerEndOffset_modelFileImage contents fits]
    exact Nat.le_add_right _ _

/-- Behind the first block, an image has the sections. -/
theorem slice_sections (fits : headerBeginByteOffset + header.length ≤ blockSize)
    {start stop : Nat} (behind : blockSize ≤ start) :
    ByteImage.slice (modelFileImage header contents) start stop =
      ByteImage.slice (sectionsImage contents) start stop := by
  obtain ⟨begins, ends⟩ := headerPositions_inside contents fits
  have value : blockSize = 16384 := rfl
  have second : headerEndLocationByteOffset = 24 := rfl
  rw [modelFileImage, ByteImage.slice_overwrite_after 0 _ _ _ ends
    (by rw [ByteImage.littleEndian_length]; omega),
    ByteImage.slice_overwrite_after 0 _ _ _ begins (by omega)]

end Image

/-! ## Sections in their places -/

structure WrittenSection where
  items : List KeyValuePair
  dataType : AnySectionDataType
  content : List UInt8

/-- The entry of a section in the header, for the span of its bytes. -/
def WrittenSection.objectAt (written : WrittenSection) (span : Nat × Nat) : SectionObject :=
  ⟨some written.items, UInt64.ofNat span.1, UInt64.ofNat span.2, written.dataType⟩

/-- The entries of sections that follow the first block. -/
def writtenObjects (sections : List WrittenSection) : List SectionObject :=
  List.zipWith WrittenSection.objectAt sections
    (PaddedParts.partSpans blockSize blockSize (sections.map WrittenSection.content))

/-- A file with the image of some sections, whose header decodes to their entries. -/
structure WrittenFile (libraries : ReaderLibraries) (file : ModelFile)
    (systemMetadata : List KeyValuePair) (sections : List WrittenSection)
    (header : List UInt8) : Prop where
  bytes : file.bytes = modelFileImage header (sections.map WrittenSection.content)
  fits : headerBeginByteOffset + header.length ≤ blockSize
  decodes : libraries.getLiteRTLMMetaData header =
    some ⟨some systemMetadata, some (writtenObjects sections)⟩

/-- A section whose bytes are where its entry says, from the start of a block on. -/
structure InPlace (file : ModelFile) (written : WrittenSection) (object : SectionObject) :
    Prop where
  entry : object.items = some written.items ∧ object.dataType = written.dataType
  aligned : blockSize ∣ object.beginOffset.toNat
  behind : blockSize ≤ object.beginOffset.toNat
  size : object.endOffset.toNat = object.beginOffset.toNat + written.content.length
  inside : object.endOffset.toNat ≤ file.size
  held : file.range object.beginOffset.toNat object.endOffset.toNat = written.content

/-- The spans of the sections in the image. -/
theorem placed_sections (sections : List WrittenSection) : List.Forall₂
    (fun section_ => PaddedParts.Placed blockSize blockSize
      (sectionsImage (sections.map WrittenSection.content)) section_.content)
    sections
    (PaddedParts.partSpans blockSize blockSize (sections.map WrittenSection.content)) := by
  have aligned : blockSize ∣ (PaddedParts.padded 0 blockSize filePreamble).length := by
    rw [paddedPreamble_length]
  have places := PaddedParts.placed_partSpans (show 0 < blockSize by decide) 0 aligned
    (sections.map WrittenSection.content)
  rw [paddedPreamble_length, List.forall₂_map_left_iff] at places
  exact places

/-- The positions that an entry names. -/
def entrySpan (object : SectionObject) : Nat × Nat :=
  (object.beginOffset.toNat, object.endOffset.toNat)

namespace WrittenFile

variable {libraries : ReaderLibraries} {file : ModelFile} {systemMetadata : List KeyValuePair}
  {sections : List WrittenSection} {header : List UInt8}
  (written : WrittenFile libraries file systemMetadata sections header)

include written

theorem size_eq : file.size =
    (sectionsImage (sections.map WrittenSection.content)).length := by
  rw [ModelFile.size, written.bytes, modelFileImage_length written.fits]

/-- An entry names the span of its section. -/
theorem entrySpan_objectAt {section_ : WrittenSection} {span : Nat × Nat}
    (place : PaddedParts.Placed blockSize blockSize
      (sectionsImage (sections.map WrittenSection.content)) section_.content span) :
    entrySpan (section_.objectAt span) = span := by
  have bounded := file.size_lt
  rw [← ModelFile.size, written.size_eq] at bounded
  have inside := place.inside
  have size := place.size
  simp only [entrySpan, WrittenSection.objectAt, UInt64.toNat_ofNat']
  ext
  · dsimp only
    omega
  · dsimp only
    omega

/-- Every section is in its place. -/
theorem inPlace : List.Forall₂ (InPlace file) sections (writtenObjects sections) := by
  refine forall₂_zipWith (fun section_ span place => ?_) (placed_sections sections)
  have spanIs := written.entrySpan_objectAt place
  have beginIs : (section_.objectAt span).beginOffset.toNat = span.1 := congrArg Prod.fst spanIs
  have endIs : (section_.objectAt span).endOffset.toNat = span.2 := congrArg Prod.snd spanIs
  refine ⟨⟨rfl, rfl⟩, ?_, ?_, ?_, ?_, ?_⟩
  · rw [beginIs]
    exact place.aligned
  · rw [beginIs]
    exact place.behind
  · rw [beginIs, endIs]
    exact place.size
  · rw [endIs, written.size_eq]
    exact place.inside
  · rw [beginIs, endIs, ModelFile.range, written.bytes,
      slice_sections written.fits place.behind]
    exact place.held

/-- The entries follow each other. -/
theorem ordered : (writtenObjects sections).Pairwise fun earlier later =>
    earlier.endOffset.toNat ≤ later.beginOffset.toNat := by
  have spans : (writtenObjects sections).map entrySpan =
      PaddedParts.partSpans blockSize blockSize (sections.map WrittenSection.content) :=
    map_zipWith_of_forall₂ (fun _ _ place => written.entrySpan_objectAt place)
      (placed_sections sections)
  have follow : (PaddedParts.partSpans blockSize blockSize
      (sections.map WrittenSection.content)).Pairwise fun earlier later =>
        earlier.2 ≤ later.1 :=
    (PaddedParts.partSpans_ordered blockSize (sections.map WrittenSection.content)).2
  rw [← spans, List.pairwise_map] at follow
  exact follow

/-- The header is found, also in the first block alone. -/
theorem holdsHeader : HoldsHeader libraries (firstBlock file.bytes)
    ⟨some systemMetadata, some (writtenObjects sections)⟩ := by
  apply (holdsHeader_firstBlock libraries).mpr
  have delimited := delimitsHeader_modelFileImage (sections.map WrittenSection.content)
    written.fits
  have ends := headerEndOffset_modelFileImage (sections.map WrittenSection.content) written.fits
  have held := headerBytes_modelFileImage (sections.map WrittenSection.content) written.fits
  rw [← written.bytes] at delimited ends held
  refine ⟨⟨delimited, ?_, by rw [held, written.decodes]⟩, by rw [ends]; exact written.fits⟩
  rw [ends, ← ModelFile.size, written.size_eq]
  exact headerEnd_le_sectionsImage written.fits

end WrittenFile

/-! ## Sections by their keys -/

/-- Whether the loader files a section under a key, which does not depend on its place. -/
def WrittenSection.isKeyedBy (key : BufferKey) (written : WrittenSection) : Bool :=
  Util.isKeyedBy key (written.objectAt (0, 0))

/-- A section that the loader can file. -/
def WrittenSection.Readable (written : WrittenSection) : Prop :=
  SectionReadable (written.objectAt (0, 0))

/-- The bytes of the last section that is filed under a key. -/
def keyedContent (sections : List WrittenSection) (key : BufferKey) : Option (List UInt8) :=
  ((sections.filter (WrittenSection.isKeyedBy key)).getLast?).map WrittenSection.content

/-- A look-up finds nothing where nothing is expected, and bytes that are expected as they
were written. -/
def Serves (file : ModelFile) (expected : Option (List UInt8)) (found : Option BufferRef) :
    Prop :=
  match expected with
  | none => found = none
  | some content => content ≠ [] → ∃ buffer, found = some buffer ∧ buffer.bytes file = some content

theorem InPlace.isKeyedBy_eq {file : ModelFile} {written : WrittenSection}
    {object : SectionObject} (place : InPlace file written object) (key : BufferKey) :
    Util.isKeyedBy key object = written.isKeyedBy key := by
  obtain ⟨items, beginOffset, endOffset, dataType⟩ := object
  obtain ⟨sameItems, sameType⟩ := place.entry
  cases sameItems
  cases sameType
  rfl

theorem InPlace.readable_iff {file : ModelFile} {written : WrittenSection}
    {object : SectionObject} (place : InPlace file written object) :
    SectionReadable object ↔ written.Readable := by
  obtain ⟨items, beginOffset, endOffset, dataType⟩ := object
  obtain ⟨sameItems, sameType⟩ := place.entry
  cases sameItems
  cases sameType
  rfl

/-- The section that a key finds in the header is the last one that is filed under it. -/
theorem rel_sectionWithKey {file : ModelFile} {sections : List WrittenSection}
    {objects : List SectionObject} (places : List.Forall₂ (InPlace file) sections objects)
    (key : BufferKey) :
    Option.Rel (InPlace file) ((sections.filter (WrittenSection.isKeyedBy key)).getLast?)
      (sectionWithKey objects key) := by
  apply rel_getLast?
  refine List.rel_filter (fun written object place => ?_) places
  simp only [place.isKeyedBy_eq]

/-! ## Files read back -/

/-- What the readers and the loader find in a file that was written with some sections. -/
structure ReadsBack (platform : Platform) (libraries : ReaderLibraries) (file : ModelFile)
    (systemMetadata : List KeyValuePair) (sections : List WrittenSection) : Prop where
  header : readHeaderFromLiteRTLM platform libraries file.bytes =
    .ok ⟨litertlmMajorVersion, litertlmMinorVersion, litertlmPatchVersion,
      ⟨some systemMetadata, some (writtenObjects sections)⟩⟩
  inPlace : List.Forall₂ (InPlace file) sections (writtenObjects sections)
  ordered : (writtenObjects sections).Pairwise fun earlier later =>
    earlier.endOffset.toNat ≤ later.beginOffset.toNat
  read : ∀ (index : Nat) (written : WrittenSection), sections[index]? = some written →
    written.content ≠ [] → written.content.length ≤ platform.maxAllocation →
    readValueTFromSection platform libraries written.dataType (readBytes platform) file index =
      .ok written.content
  loads : (∀ written ∈ sections, written.Readable) →
    ∃ loader, (∀ source,
        LitertLmLoader.initializeLoader platform libraries file source = .ok loader) ∧
      ∀ source keys, List.Forall₂ (Serves file) (keys.map (keyedContent sections))
        (LitertLmLoader.getSectionBuffers platform file source loader keys)

/-- Bytes in their place are read, when there is memory for them. -/
theorem InPlace.readBytes_eq {file : ModelFile} {written : WrittenSection}
    {object : SectionObject} (place : InPlace file written object) (platform : Platform)
    (memory : written.content.length ≤ platform.maxAllocation) :
    readBytes platform file object.beginOffset object.endOffset = .ok written.content := by
  have size := place.size
  have inside := place.inside
  have bounded := file.size_lt
  rw [← ModelFile.size] at bounded
  have length : (object.endOffset - object.beginOffset).toNat = written.content.length := by
    rw [sub_toNat_of_le (by omega)]
    omega
  simp only [readBytes, length, allocate_ok platform memory, bind, Except.bind, pure, Except.pure,
    ← size, place.held]
  exact if_neg (by omega)

/-- A section that is there is found by its key, in both model sources. -/
theorem InPlace.rangeServed {file : ModelFile} {written : WrittenSection}
    {object : SectionObject} (place : InPlace file written object) (platform : Platform)
    (filled : written.content ≠ []) : RangeServed platform file object := by
  have size := place.size
  have inside := place.inside
  have positive := List.length_pos_of_ne_nil filled
  exact ⟨by omega, inside, Or.inl (by omega)⟩

namespace WrittenFile

variable {libraries : ReaderLibraries} {file : ModelFile} {systemMetadata : List KeyValuePair}
  {sections : List WrittenSection} {header : List UInt8}
  (written : WrittenFile libraries file systemMetadata sections header) (platform : Platform)
  (memory : blockSize ≤ platform.maxAllocation)

include written memory

theorem readHeader_ok : readHeaderFromLiteRTLM platform libraries file.bytes =
    .ok (headerOf file.bytes ⟨some systemMetadata, some (writtenObjects sections)⟩) := by
  obtain ⟨holds, ends⟩ := (holdsHeader_firstBlock libraries).mp written.holdsHeader
  exact (readHeader_ok_iff platform libraries).mpr ⟨by omega, _, holds, rfl⟩

theorem readHeader_eq : readHeaderFromLiteRTLM platform libraries file.bytes =
    .ok ⟨litertlmMajorVersion, litertlmMinorVersion, litertlmPatchVersion,
      ⟨some systemMetadata, some (writtenObjects sections)⟩⟩ := by
  rw [written.readHeader_ok platform memory, headerOf, written.bytes,
    slice_preamble written.fits (by rw [filePreamble_length]; decide),
    slice_preamble written.fits (by rw [filePreamble_length]; decide),
    slice_preamble written.fits (by rw [filePreamble_length])]
  rfl

/-- A section is read by its index. -/
theorem readValue_eq {index : Nat} {section_ : WrittenSection}
    (found : sections[index]? = some section_) (filled : section_.content ≠ [])
    (room : section_.content.length ≤ platform.maxAllocation) :
    readValueTFromSection platform libraries section_.dataType (readBytes platform) file index =
      .ok section_.content := by
  obtain ⟨object, listed, place⟩ := exists_of_getElem? written.inPlace found
  have reading := readValueT_inside platform libraries file section_.dataType
    (readBytes platform) (written.readHeader_ok platform memory) rfl
    (Int.natCast_nonneg index) (by rw [Int.toNat_natCast]; exact listed)
  have size := place.size
  have positive := List.length_pos_of_ne_nil filled
  have distinct : object.beginOffset ≠ object.endOffset := by
    intro same
    rw [same] at size
    omega
  rw [if_pos ⟨place.entry.2, distinct⟩] at reading
  rw [reading, place.readBytes_eq platform room]

/-- The loader files every section under its key, and finds the last one. -/
theorem loads (readable : ∀ section_ ∈ sections, section_.Readable) :
    ∃ loader, (∀ source,
        LitertLmLoader.initializeLoader platform libraries file source = .ok loader) ∧
      ∀ source keys, List.Forall₂ (Serves file) (keys.map (keyedContent sections))
        (LitertLmLoader.getSectionBuffers platform file source loader keys) := by
  have ends := ((holdsHeader_firstBlock libraries).mp written.holdsHeader).2
  have loadable : LitertLmLoader.Loadable platform libraries file
      ⟨some systemMetadata, some (writtenObjects sections)⟩ (writtenObjects sections) := by
    refine ⟨written.holdsHeader, by omega, rfl, fun object member => ?_⟩
    obtain ⟨section_, inList, place⟩ := exists_of_mem_right written.inPlace member
    exact place.readable_iff.mpr (readable section_ inList)
  obtain ⟨loader, loaded, records⟩ :=
    LitertLmLoader.initializeLoader_loadable platform libraries file loadable
  refine ⟨loader, loaded, fun source keys => ?_⟩
  have stored : LitertLmLoader.BuffersMatch platform file source loader := by
    intro key buffer held
    rw [records.buffers] at held
    cases held
  rw [LitertLmLoader.getSectionBuffers_eq platform file source stored, List.forall₂_map_left_iff,
    List.forall₂_map_right_iff, List.forall₂_same]
  intro key _
  have location : loader.sectionLocations key =
      (sectionWithKey (writtenObjects sections) key).map sectionLocation := by
    rw [records.locations key, Option.or_none]
  have same := rel_sectionWithKey written.inPlace key
  rw [location, keyedContent]
  generalize (sections.filter (WrittenSection.isKeyedBy key)).getLast? = last at same ⊢
  generalize sectionWithKey (writtenObjects sections) key = found at same ⊢
  cases same with
  | none => rfl
  | @some section_ object place =>
    intro filled
    obtain ⟨buffer, served, covers⟩ :=
      LitertLmLoader.bufferAt_served (place.rangeServed platform filled) source
    exact ⟨buffer, served, by rw [covers.bytes, place.held]⟩

/-- **A written file reads back.** -/
theorem readsBack : ReadsBack platform libraries file systemMetadata sections where
  header := written.readHeader_eq platform memory
  inPlace := written.inPlace
  ordered := written.ordered
  read _ _ found filled room := written.readValue_eq platform memory found filled room
  loads readable := written.loads platform memory readable

end WrittenFile

/-! ## The round trip of the writer -/

/-- The sections that the writer is given, with what they hold. -/
def writtenSections (sectionTypes : List AnySectionDataType)
    (sectionItemsMaps : List (List KeyValuePair)) (contents : List (List UInt8)) :
    List WrittenSection :=
  List.zipWith3 (fun dataType items content => ⟨items, dataType, content⟩)
    sectionTypes sectionItemsMaps contents

theorem writtenSections_contents {sectionTypes : List AnySectionDataType}
    {sectionItemsMaps : List (List KeyValuePair)} {contents : List (List UInt8)}
    (types : contents.length = sectionTypes.length)
    (items : contents.length = sectionItemsMaps.length) :
    (writtenSections sectionTypes sectionItemsMaps contents).map WrittenSection.content =
      contents := by
  induction contents generalizing sectionTypes sectionItemsMaps with
  | nil =>
    cases List.eq_nil_of_length_eq_zero types.symm
    rfl
  | cons content contents inductionHypothesis =>
    obtain ⟨dataType, restTypes, rfl⟩ := List.exists_cons_of_length_eq_add_one types.symm
    obtain ⟨item, restItems, rfl⟩ := List.exists_cons_of_length_eq_add_one items.symm
    exact congrArg (content :: ·) (inductionHypothesis (Nat.succ.inj types) (Nat.succ.inj items))

/-- Lists of entries from any place on. -/
theorem zipWith3_eq_zipWith {sectionTypes : List AnySectionDataType}
    {sectionItemsMaps : List (List KeyValuePair)} {contents : List (List UInt8)}
    (spans : List (Nat × Nat)) (sized : contents.length = spans.length) :
    List.zipWith3 (fun dataType items (offsets : UInt64 × UInt64) =>
        (⟨some items, offsets.1, offsets.2, dataType⟩ : SectionObject))
        sectionTypes sectionItemsMaps
        (spans.map fun span => (UInt64.ofNat span.1, UInt64.ofNat span.2)) =
      List.zipWith WrittenSection.objectAt
        (writtenSections sectionTypes sectionItemsMaps contents) spans := by
  induction spans generalizing sectionTypes sectionItemsMaps contents with
  | nil =>
    cases List.eq_nil_of_length_eq_zero sized
    cases sectionTypes <;> cases sectionItemsMaps <;> rfl
  | cons span spans inductionHypothesis =>
    obtain ⟨content, restContents, rfl⟩ := List.exists_cons_of_length_eq_add_one sized
    cases sectionTypes with
    | nil => rfl
    | cons dataType restTypes =>
      cases sectionItemsMaps with
      | nil => rfl
      | cons items restItems =>
        exact congrArg _ (inductionHypothesis (Nat.succ.inj sized))

/-- The table of the header lists the sections. -/
theorem headerTable_eq {sectionTypes : List AnySectionDataType}
    {sectionItemsMaps : List (List KeyValuePair)} {contents : List (List UInt8)}
    (types : contents.length = sectionTypes.length)
    (items : contents.length = sectionItemsMaps.length)
    (systemMetadataMap : List KeyValuePair) :
    headerTable systemMetadataMap sectionItemsMaps (writtenOffsets contents) sectionTypes =
      ⟨some systemMetadataMap,
        some (writtenObjects (writtenSections sectionTypes sectionItemsMaps contents))⟩ := by
  rw [headerTable, writtenObjects, writtenSections_contents types items, writtenOffsets,
    zipWith3_eq_zipWith _ (PaddedParts.partSpans_length _ _ _).symm]

/-- The flatbuffer of `oneSection 16384 16400`. -/
def blockTable : List UInt8 :=
    [12, 0, 0, 0, 8, 0, 12, 0, 4, 0, 8, 0, 8, 0, 0, 0, 76, 0, 0, 0, 4, 0, 0, 0, 194, 255, 255,
     255, 4, 0, 0, 0, 1, 0, 0, 0, 16, 0, 0, 0, 12, 0, 28, 0, 8, 0, 12, 0, 20, 0, 7, 0, 12, 0, 0,
     0, 0, 0, 0, 1, 20, 0, 0, 0, 0, 64, 0, 0, 0, 0, 0, 0, 16, 64, 0, 0, 0, 0, 0, 0, 0, 0, 0, 0,
     0, 0, 6, 0, 8, 0, 4, 0, 6, 0, 0, 0, 4, 0, 0, 0, 0, 0, 0, 0]

/-- A builder of that flatbuffer; nothing is deflated. -/
def blockWriter : WriterLibraries where
  createLiteRTLMMetaData := fun metadata =>
    if metadata = oneSection 16384 16400 then blockTable else []
  deflate := fun data => .ok data

theorem blockWriter_header : writtenHeader blockWriter [.genericBinaryData] [] [[]]
    [List.replicate 16 7] = blockTable := by
  decide

theorem oneSectionImage_length : (sectionsImage [List.replicate 16 7]).length = 32768 := by
  rw [sectionsImage, PaddedParts.appendParts, PaddedParts.appendParts,
    PaddedParts.padded_length, List.length_append, paddedPreamble_length]
  rfl

end LiteRTLM.Util
