import LiteRTLM.Library.PaddedParts
import LiteRTLM.Schema.Core.HeaderReading

/-!
Contract: the writer of a `.litertlm` file, `litertlm_export.cc`, and its section streams.

Owns: the section streams, the output stream, `WriteHeader`, `WriteZeroPad`,
`PadUntilNextPageBlock`, `MakeLiteRTLMFromSections`, the image of the file it writes, and
when it writes one.

Does not own: the encoding of the header and the deflation, which are parameters, and the
readers.

The output file can be opened and has room, and the streams are new, as the writer uses each
of them once.
-/

namespace LiteRTLM.Schema

open LiteRTLM.Engine
open LiteRTLM.Library
open LiteRTLM.Util

/-! ## Section streams -/

/-- What an `ifstream` finds at a path. -/
inductive FileContent where
  | missing
  | unreadable
  | holds (bytes : List UInt8)

/-- `SectionStreamBase`, with what the stream is built from. -/
inductive SectionStream where
  | fileBacked (filePath : Text) (content : FileContent)
  /-- `none` for a message that cannot be serialized. -/
  | protoBuf (serialized : Option (List UInt8))
  | zlibBackended (baseStream : SectionStream)
  | stringBacked (data : List UInt8)

structure WriterLibraries where
  /-- The finished `FlatBufferBuilder` of a header. -/
  createLiteRTLMMetaData : LiteRTLMMetaData → List UInt8
  /-- The output of the `deflate` calls. -/
  deflate : List UInt8 → StatusOr (List UInt8)

/-- `Prepare`, and the bytes that `GetStream` gives afterwards. -/
def SectionStream.prepare (libraries : WriterLibraries) : SectionStream → StatusOr (List UInt8)
  | .fileBacked filePath .missing =>
    .error (.internalError s!"Failed to open file: {String.ofList filePath}")
  | .fileBacked filePath .unreadable =>
    .error (.internalError s!"Failed to read all data from file: {String.ofList filePath}")
  | .fileBacked _ (.holds bytes) => .ok bytes
  | .protoBuf none => .error (.internalError "Failed to serialize protocol buffer.")
  | .protoBuf (some serialized) => .ok serialized
  | .zlibBackended baseStream => do
    let uncompressedData ← baseStream.prepare libraries
    let compressedData ← libraries.deflate uncompressedData
    return ByteImage.littleEndian 8 uncompressedData.length ++ compressedData
  | .stringBacked data => .ok data

/-! ## The output stream -/

/-- A `std::ofstream`: the bytes of the file, the put position, and the fail bit. -/
structure OutputStream where
  image : List UInt8 := []
  position : Nat := 0
  failed : Bool := false

namespace OutputStream

def write (output : OutputStream) (data : List UInt8) : OutputStream :=
  if output.failed then output
  else { output with
    image := ByteImage.overwrite 0 output.image output.position data
    position := output.position + data.length }

/-- `output << stream.rdbuf()`, which fails when it inserts nothing. -/
def insert (output : OutputStream) (content : List UInt8) : OutputStream :=
  if content.isEmpty then { output with failed := true } else output.write content

/-- `tellp()` as a 64-bit number; -1 after a failure. -/
def tellp (output : OutputStream) : UInt64 :=
  if output.failed then -1 else UInt64.ofNat output.position

def seekp (output : OutputStream) (position : Nat) : OutputStream :=
  if output.failed then output else { output with position := position }

end OutputStream

/-! ## The writer -/

def writeZeroPad (output : OutputStream) (numBytes : UInt64) : StatusOr OutputStream :=
  let padded := output.write (List.replicate numBytes.toNat 0)
  if padded.failed then .error (.internalError "Error zero pad to output stream.")
  else .ok padded

def padUntilNextPageBlock (output : OutputStream) (blockSize : UInt64) :
    StatusOr OutputStream :=
  let bytesWritten := output.tellp
  let requiredSize := (bytesWritten + blockSize - 1) / blockSize * blockSize
  if bytesWritten < requiredSize then writeZeroPad output (requiredSize - bytesWritten)
  else .ok output

/-- The table that `WriteHeader` builds. -/
def headerTable (systemMetadataMap : List KeyValuePair)
    (sectionItemsMaps : List (List KeyValuePair)) (sectionOffsets : List (UInt64 × UInt64))
    (sectionTypes : List AnySectionDataType) : LiteRTLMMetaData where
  systemMetadata := some systemMetadataMap
  sectionMetadata := some (List.zipWith3
    (fun dataType items offsets => ⟨some items, offsets.1, offsets.2, dataType⟩)
    sectionTypes sectionItemsMaps sectionOffsets)

section Writer

variable (libraries : WriterLibraries)

def writeHeader (output : OutputStream) (systemMetadataMap : List KeyValuePair)
    (sectionItemsMaps : List (List KeyValuePair)) (sectionOffsets : List (UInt64 × UInt64))
    (sectionTypes : List AnySectionDataType) : StatusOr OutputStream :=
  let written := output.write (libraries.createLiteRTLMMetaData
    (headerTable systemMetadataMap sectionItemsMaps sectionOffsets sectionTypes))
  if written.failed then .error (.internalError "Error writing header to output stream.")
  else .ok written

/-- The loop over the sections: the stream after it, and the offsets it has noted. -/
def writeSections (output : OutputStream) :
    List SectionStream → StatusOr (OutputStream × List (UInt64 × UInt64))
  | [] => .ok (output, [])
  | section_ :: sections => do
    let content ← section_.prepare libraries
    let startByteOffset := output.tellp
    let written := output.insert content
    let endByteOffset := written.tellp
    let padded ← padUntilNextPageBlock written (UInt64.ofNat blockSize)
    let (final, sectionOffsets) ← writeSections padded sections
    return (final, (startByteOffset, endByteOffset) :: sectionOffsets)

/-- The magic number and the version. -/
def filePreamble : List UInt8 :=
  magicNumber ++ ByteImage.littleEndian 4 litertlmMajorVersion ++
    ByteImage.littleEndian 4 litertlmMinorVersion ++
    ByteImage.littleEndian 4 litertlmPatchVersion

/-- `MakeLiteRTLMFromSections`, with the bytes of the file it leaves behind. -/
def makeLiteRTLMFromSections (sections : List SectionStream)
    (sectionTypes : List AnySectionDataType) (systemMetadataMap : List KeyValuePair)
    (sectionItemsMaps : List (List KeyValuePair)) : StatusOr (List UInt8) := do
  if sections.isEmpty then
    throw (.invalidArgumentError "Input sections list is empty.")
  if sections.length ≠ sectionTypes.length ∨ sections.length ≠ sectionItemsMaps.length then
    throw (.invalidArgumentError
      "sections, section_types, and section_items_maps must have the same size.")
  let opened ← padUntilNextPageBlock (OutputStream.write {} filePreamble)
    (UInt64.ofNat blockSize)
  let (written, sectionOffsets) ← writeSections libraries opened sections
  let withHeader ← writeHeader libraries (written.seekp headerBeginByteOffset)
    systemMetadataMap sectionItemsMaps sectionOffsets sectionTypes
  let headerEndOffset := withHeader.tellp
  if UInt64.ofNat blockSize < headerEndOffset then
    throw (.internalError "Header size exceeds 16KB limit.")
  let finished := (withHeader.seekp headerEndLocationByteOffset).write
    (ByteImage.littleEndian 8 headerEndOffset.toNat)
  if finished.failed then
    throw (.internalError "Error writing LiteRT-LM file.")
  return finished.image

end Writer

/-! ## The image of a file -/

/-- The preamble and the sections, each of which starts on a block boundary. -/
def sectionsImage (contents : List (List UInt8)) : List UInt8 :=
  PaddedParts.appendParts 0 blockSize (PaddedParts.padded 0 blockSize filePreamble) contents

/-- The offsets of sections with the given bytes. -/
def writtenOffsets (contents : List (List UInt8)) : List (UInt64 × UInt64) :=
  (PaddedParts.partSpans blockSize blockSize contents).map fun span =>
    (UInt64.ofNat span.1, UInt64.ofNat span.2)

/-- A file with the given header and sections. -/
def modelFileImage (header : List UInt8) (contents : List (List UInt8)) : List UInt8 :=
  ByteImage.overwrite 0
    (ByteImage.overwrite 0 (sectionsImage contents) headerBeginByteOffset header)
    headerEndLocationByteOffset
    (ByteImage.littleEndian 8 (headerBeginByteOffset + header.length))

@[simp]
theorem filePreamble_length : filePreamble.length = 20 := by
  simp [filePreamble, magicNumber]

theorem paddedPreamble_length :
    (PaddedParts.padded 0 blockSize filePreamble).length = blockSize := by
  rw [PaddedParts.padded_length, filePreamble_length, PaddedParts.padding, blockSize]

theorem blockSize_le_sectionsImage (contents : List (List UInt8)) :
    blockSize ≤ (sectionsImage contents).length := by
  have grows := PaddedParts.length_le_appendParts 0 blockSize
    (PaddedParts.padded 0 blockSize filePreamble) contents
  rw [paddedPreamble_length] at grows
  exact grows

/-! ## Streams at their end -/

namespace OutputStream

def ofImage (image : List UInt8) : OutputStream where
  image := image
  position := image.length

theorem write_ofImage (image data : List UInt8) :
    (ofImage image).write data = ofImage (image ++ data) := by
  simp [ofImage, write, ByteImage.overwrite_at_end]

theorem tellp_ofImage (image : List UInt8) :
    (ofImage image).tellp = UInt64.ofNat image.length := rfl

theorem insert_ofImage (image : List UInt8) {content : List UInt8} (filled : content ≠ []) :
    (ofImage image).insert content = ofImage (image ++ content) := by
  rw [insert, if_neg (by simpa using filled), write_ofImage]

/-- After a failure, nothing is written. -/
theorem write_failed {output : OutputStream} (failed : output.failed = true)
    (data : List UInt8) : output.write data = output := by
  rw [write, if_pos failed]

theorem insert_failed {output : OutputStream} (failed : output.failed = true)
    (content : List UInt8) : output.insert content = output := by
  rw [insert, write_failed failed]
  cases output
  cases failed
  simp

end OutputStream

open OutputStream

theorem padUntilNextPageBlock_ofImage {image : List UInt8} (small : image.length < 2 ^ 63) :
    padUntilNextPageBlock (ofImage image) (UInt64.ofNat blockSize) =
      .ok (ofImage (PaddedParts.padded 0 blockSize image)) := by
  have blocks : (UInt64.ofNat blockSize).toNat = blockSize := by decide
  have value : blockSize = 16384 := rfl
  have room := PaddedParts.padding_lt (show 0 < blockSize by decide) image.length
  have written : (UInt64.ofNat image.length).toNat = image.length := by
    rw [UInt64.toNat_ofNat']
    omega
  have required : ((UInt64.ofNat image.length + UInt64.ofNat blockSize - 1) /
      UInt64.ofNat blockSize * UInt64.ofNat blockSize).toNat =
      image.length + PaddedParts.padding blockSize image.length := by
    have sum : (UInt64.ofNat image.length + UInt64.ofNat blockSize - 1).toNat =
        image.length + blockSize - 1 := by
      rw [UInt64.toNat_sub, UInt64.toNat_add, written, blocks, UInt64.toNat_one]
      omega
    rw [UInt64.toNat_mul, UInt64.toNat_div, sum, blocks, PaddedParts.roundUp_eq (by decide)]
    omega
  rw [padUntilNextPageBlock, tellp_ofImage]
  simp only [UInt64.lt_iff_toNat_lt, required, written]
  by_cases aligned : PaddedParts.padding blockSize image.length = 0
  · rw [if_neg (by omega), PaddedParts.padded, aligned, List.replicate_zero, List.append_nil]
  · rw [if_pos (by omega), writeZeroPad]
    have missing : ((UInt64.ofNat image.length + UInt64.ofNat blockSize - 1) /
        UInt64.ofNat blockSize * UInt64.ofNat blockSize - UInt64.ofNat image.length).toNat =
        PaddedParts.padding blockSize image.length := by
      rw [UInt64.toNat_sub, required, written]
      omega
    simp only [missing, write_ofImage]
    rfl

/-- After a failure, nothing is padded and no status tells of it. -/
theorem padUntilNextPageBlock_failed {output : OutputStream} (failed : output.failed = true) :
    padUntilNextPageBlock output (UInt64.ofNat blockSize) = .ok output := by
  rw [padUntilNextPageBlock, tellp, if_pos failed]
  exact if_neg (by decide)

/-! ## The loop over the sections -/

section Writer

variable (libraries : WriterLibraries)

/-- Sections that can be read, with what they hold. -/
def Prepared (sections : List SectionStream) (contents : List (List UInt8)) : Prop :=
  List.Forall₂ (fun stream content => stream.prepare libraries = .ok content) sections contents

/-- Contents that are there are appended one by one. -/
theorem writeSections_ofImage {sections : List SectionStream} {contents : List (List UInt8)}
    (prepared : Prepared libraries sections contents) {image : List UInt8}
    (filled : ∀ content ∈ contents, content ≠ [])
    (small : (PaddedParts.appendParts 0 blockSize image contents).length < 2 ^ 63) :
    writeSections libraries (ofImage image) sections =
      .ok (ofImage (PaddedParts.appendParts 0 blockSize image contents),
        (PaddedParts.partSpans blockSize image.length contents).map fun span =>
          (UInt64.ofNat span.1, UInt64.ofNat span.2)) := by
  induction prepared generalizing image with
  | nil => rfl
  | @cons stream content sections contents held prepared inductionHypothesis =>
    have grows := PaddedParts.length_le_appendParts 0 blockSize
      (PaddedParts.padded 0 blockSize (image ++ content)) contents
    have rest := inductionHypothesis
      (fun later member => filled later (List.mem_cons_of_mem _ member)) small
    rw [PaddedParts.padded_length] at grows
    rw [PaddedParts.appendParts] at small
    rw [PaddedParts.padded_length, List.length_append] at rest
    simp only [writeSections, held, insert_ofImage image (filled content List.mem_cons_self),
      padUntilNextPageBlock_ofImage (show (image ++ content).length < 2 ^ 63 by omega), rest,
      bind, Except.bind, pure, Except.pure, tellp_ofImage, PaddedParts.appendParts,
      PaddedParts.partSpans, List.map_cons, List.length_append]

/-- A loop that ends has prepared every section. -/
theorem prepared_of_writeSections {sections : List SectionStream} {output : OutputStream}
    {result : OutputStream × List (UInt64 × UInt64)}
    (ended : writeSections libraries output sections = .ok result) :
    ∃ contents, Prepared libraries sections contents := by
  induction sections generalizing output result with
  | nil => exact ⟨[], .nil⟩
  | cons stream sections inductionHypothesis =>
    simp only [writeSections, bind, Except.bind] at ended
    cases held : stream.prepare libraries with
    | error status =>
      rw [held] at ended
      cases ended
    | ok content =>
      rw [held] at ended
      dsimp only at ended
      cases padded : padUntilNextPageBlock (output.insert content) (UInt64.ofNat blockSize) with
      | error status =>
        rw [padded] at ended
        cases ended
      | ok next =>
        rw [padded] at ended
        dsimp only at ended
        cases rest : writeSections libraries next sections with
        | error status =>
          rw [rest] at ended
          cases ended
        | ok final =>
          obtain ⟨contents, prepared⟩ := inductionHypothesis rest
          exact ⟨content :: contents, .cons held prepared⟩

/-- On a failed stream the loop goes on to its end and writes nothing. -/
theorem writeSections_failed {sections : List SectionStream} {contents : List (List UInt8)}
    (prepared : Prepared libraries sections contents) {output : OutputStream}
    (failed : output.failed = true) :
    ∃ sectionOffsets, writeSections libraries output sections = .ok (output, sectionOffsets) := by
  induction prepared with
  | nil => exact ⟨[], rfl⟩
  | @cons stream content sections contents held prepared inductionHypothesis =>
    obtain ⟨sectionOffsets, rest⟩ := inductionHypothesis
    simp only [writeSections, held, bind, Except.bind, insert_failed failed,
      padUntilNextPageBlock_failed failed, rest]
    exact ⟨_, rfl⟩

/-- A section without bytes makes the stream fail. -/
theorem writeSections_empty {sections : List SectionStream} {contents : List (List UInt8)}
    (prepared : Prepared libraries sections contents) {image : List UInt8}
    (empty : [] ∈ contents)
    (small : (PaddedParts.appendParts 0 blockSize image contents).length < 2 ^ 63) :
    ∃ final sectionOffsets,
      writeSections libraries (ofImage image) sections = .ok (final, sectionOffsets) ∧
        final.failed = true := by
  induction prepared generalizing image with
  | nil => exact absurd empty List.not_mem_nil
  | @cons stream content sections contents held prepared inductionHypothesis =>
    by_cases first : content = []
    · have stopped : ((ofImage image).insert content).failed = true := by
        rw [first]
        rfl
      obtain ⟨sectionOffsets, rest⟩ := writeSections_failed libraries prepared stopped
      simp only [writeSections, held, bind, Except.bind,
        padUntilNextPageBlock_failed stopped, rest]
      exact ⟨_, _, rfl, stopped⟩
    · have grows := PaddedParts.length_le_appendParts 0 blockSize
        (PaddedParts.padded 0 blockSize (image ++ content)) contents
      have later : [] ∈ contents := (List.mem_cons.mp empty).resolve_left (Ne.symm first)
      obtain ⟨final, sectionOffsets, rest, stopped⟩ := inductionHypothesis later small
      rw [PaddedParts.padded_length] at grows
      rw [PaddedParts.appendParts] at small
      simp only [writeSections, held, insert_ofImage image first,
        padUntilNextPageBlock_ofImage (show (image ++ content).length < 2 ^ 63 by omega), rest,
        bind, Except.bind]
      exact ⟨_, _, rfl, stopped⟩

/-! ## The written file -/

/-- The header that is written for sections with the given bytes. -/
def writtenHeader (sectionTypes : List AnySectionDataType)
    (systemMetadataMap : List KeyValuePair) (sectionItemsMaps : List (List KeyValuePair))
    (contents : List (List UInt8)) : List UInt8 :=
  libraries.createLiteRTLMMetaData
    (headerTable systemMetadataMap sectionItemsMaps (writtenOffsets contents) sectionTypes)

/-- What the writer asks of its arguments. -/
structure Writable (sections : List SectionStream) (sectionTypes : List AnySectionDataType)
    (systemMetadataMap : List KeyValuePair) (sectionItemsMaps : List (List KeyValuePair))
    (contents : List (List UInt8)) : Prop where
  listed : sections ≠ []
  types : sections.length = sectionTypes.length
  items : sections.length = sectionItemsMaps.length
  prepared : Prepared libraries sections contents
  filled : ∀ content ∈ contents, content ≠ []
  headerFits : headerBeginByteOffset +
    (writtenHeader libraries sectionTypes systemMetadataMap sectionItemsMaps
      contents).length ≤ blockSize

variable {sections : List SectionStream} {sectionTypes : List AnySectionDataType}
  {systemMetadataMap : List KeyValuePair} {sectionItemsMaps : List (List KeyValuePair)}

/-- A header that is written over the first block of an image. -/
theorem writeHeader_seekp (image : List UInt8) (contents : List (List UInt8)) :
    writeHeader libraries ((ofImage image).seekp headerBeginByteOffset) systemMetadataMap
        sectionItemsMaps (writtenOffsets contents) sectionTypes =
      .ok {
        image := ByteImage.overwrite 0 image headerBeginByteOffset
          (writtenHeader libraries sectionTypes systemMetadataMap sectionItemsMaps contents)
        position := headerBeginByteOffset +
          (writtenHeader libraries sectionTypes systemMetadataMap sectionItemsMaps
            contents).length
        failed := false } := rfl

theorem opened_preamble :
    padUntilNextPageBlock (OutputStream.write {} filePreamble) (UInt64.ofNat blockSize) =
      .ok (ofImage (PaddedParts.padded 0 blockSize filePreamble)) := by
  rw [show OutputStream.write {} filePreamble = ofImage filePreamble from
    write_ofImage [] filePreamble]
  exact padUntilNextPageBlock_ofImage (by rw [filePreamble_length]; decide)

/-- The writer behind its checks, on sections that hold something. -/
theorem makeLiteRTLMFromSections_filled {contents : List (List UInt8)}
    (listed : sections ≠ []) (types : sections.length = sectionTypes.length)
    (items : sections.length = sectionItemsMaps.length)
    (prepared : Prepared libraries sections contents)
    (filled : ∀ content ∈ contents, content ≠ [])
    (small : (sectionsImage contents).length < 2 ^ 63)
    (headerSmall : headerBeginByteOffset + (writtenHeader libraries sectionTypes
      systemMetadataMap sectionItemsMaps contents).length < 2 ^ 63) :
    makeLiteRTLMFromSections libraries sections sectionTypes systemMetadataMap
        sectionItemsMaps =
      if headerBeginByteOffset + (writtenHeader libraries sectionTypes systemMetadataMap
          sectionItemsMaps contents).length ≤ blockSize then
        .ok (modelFileImage (writtenHeader libraries sectionTypes systemMetadataMap
          sectionItemsMaps contents) contents)
      else .error (.internalError "Header size exceeds 16KB limit.") := by
  have looped : writeSections libraries (ofImage (PaddedParts.padded 0 blockSize filePreamble))
      sections = .ok (ofImage (sectionsImage contents), writtenOffsets contents) := by
    have ended := writeSections_ofImage libraries prepared filled small
    rw [paddedPreamble_length] at ended
    exact ended
  simp only [makeLiteRTLMFromSections, List.isEmpty_iff, if_neg listed,
    if_neg (show ¬(sections.length ≠ sectionTypes.length ∨
      sections.length ≠ sectionItemsMaps.length) by omega), opened_preamble, looped,
    writeHeader_seekp, bind, Except.bind, pure, Except.pure, tellp, Bool.false_eq_true, if_false,
    UInt64.lt_iff_toNat_lt]
  generalize writtenHeader libraries sectionTypes systemMetadataMap sectionItemsMaps
    contents = header at headerSmall ⊢
  have begins : headerBeginByteOffset = 32 := rfl
  have headerEnd : (UInt64.ofNat (headerBeginByteOffset + header.length)).toNat =
      headerBeginByteOffset + header.length := by
    rw [UInt64.toNat_ofNat']
    omega
  have blocks : (UInt64.ofNat blockSize).toNat = blockSize := by decide
  rw [headerEnd, blocks]
  by_cases fits : headerBeginByteOffset + header.length ≤ blockSize
  · rw [if_neg (by omega), if_pos fits]
    rfl
  · rw [if_pos (by omega), if_neg fits]
    rfl

/-- A section without bytes ends in the error of the header. -/
theorem makeLiteRTLMFromSections_empty {contents : List (List UInt8)}
    (listed : sections ≠ []) (types : sections.length = sectionTypes.length)
    (items : sections.length = sectionItemsMaps.length)
    (prepared : Prepared libraries sections contents) (empty : [] ∈ contents)
    (small : (sectionsImage contents).length < 2 ^ 63) :
    makeLiteRTLMFromSections libraries sections sectionTypes systemMetadataMap
        sectionItemsMaps =
      .error (.internalError "Error writing header to output stream.") := by
  obtain ⟨final, sectionOffsets, looped, stopped⟩ :=
    writeSections_empty libraries prepared empty small
  have sought : final.seekp headerBeginByteOffset = final := by
    rw [seekp, if_pos stopped]
  simp only [makeLiteRTLMFromSections, List.isEmpty_iff, if_neg listed,
    if_neg (show ¬(sections.length ≠ sectionTypes.length ∨
      sections.length ≠ sectionItemsMaps.length) by omega), opened_preamble, looped,
    bind, Except.bind, sought, writeHeader, write_failed stopped, if_pos stopped]

/-- Every position in the file fits a `streampos`. -/
def PositionsFit (sectionTypes : List AnySectionDataType)
    (systemMetadataMap : List KeyValuePair) (sectionItemsMaps : List (List KeyValuePair))
    (contents : List (List UInt8)) : Prop :=
  (sectionsImage contents).length < 2 ^ 63 ∧
    headerBeginByteOffset + (writtenHeader libraries sectionTypes systemMetadataMap
      sectionItemsMaps contents).length < 2 ^ 63

/-- The writer succeeds exactly on lists of sections of one length that can be prepared, hold
something, and leave room for the header in the first block; the file is then the image of that
header and these sections. -/
theorem makeLiteRTLMFromSections_eq_ok_iff
    (fit : ∀ contents, Prepared libraries sections contents →
      PositionsFit libraries sectionTypes systemMetadataMap sectionItemsMaps contents)
    {bytes : List UInt8} :
    makeLiteRTLMFromSections libraries sections sectionTypes systemMetadataMap
        sectionItemsMaps = .ok bytes ↔
      ∃ contents, Writable libraries sections sectionTypes systemMetadataMap sectionItemsMaps
          contents ∧
        bytes = modelFileImage (writtenHeader libraries sectionTypes systemMetadataMap
          sectionItemsMaps contents) contents := by
  constructor
  · intro written
    have listed : sections ≠ [] := by
      intro none
      rw [none] at written
      cases written
    have sized : ¬(sections.length ≠ sectionTypes.length ∨
        sections.length ≠ sectionItemsMaps.length) := by
      intro different
      simp only [makeLiteRTLMFromSections, List.isEmpty_iff, if_neg listed, if_pos different,
        bind, Except.bind] at written
      cases written
    have ended : ∃ result, writeSections libraries
        (ofImage (PaddedParts.padded 0 blockSize filePreamble)) sections = .ok result := by
      cases looped : writeSections libraries
          (ofImage (PaddedParts.padded 0 blockSize filePreamble)) sections with
      | ok result => exact ⟨result, rfl⟩
      | error status =>
        simp only [makeLiteRTLMFromSections, List.isEmpty_iff, if_neg listed, if_neg sized,
          opened_preamble, looped, bind, Except.bind] at written
        cases written
    obtain ⟨result, looped⟩ := ended
    obtain ⟨contents, prepared⟩ := prepared_of_writeSections libraries looped
    have types : sections.length = sectionTypes.length := by omega
    have items : sections.length = sectionItemsMaps.length := by omega
    obtain ⟨small, headerSmall⟩ := fit contents prepared
    by_cases empty : [] ∈ contents
    · rw [makeLiteRTLMFromSections_empty libraries listed types items prepared empty
        small] at written
      cases written
    have filled : ∀ content ∈ contents, content ≠ [] := by
      intro content member nothing
      rw [nothing] at member
      exact empty member
    rw [makeLiteRTLMFromSections_filled libraries listed types items prepared filled
      small headerSmall] at written
    by_cases fits : headerBeginByteOffset + (writtenHeader libraries sectionTypes
        systemMetadataMap sectionItemsMaps contents).length ≤ blockSize
    · rw [if_pos fits] at written
      cases written
      exact ⟨contents, ⟨listed, types, items, prepared, filled, fits⟩, rfl⟩
    · rw [if_neg fits] at written
      cases written
  · rintro ⟨contents, writable, rfl⟩
    obtain ⟨small, headerSmall⟩ := fit contents writable.prepared
    rw [makeLiteRTLMFromSections_filled libraries writable.listed writable.types writable.items
      writable.prepared writable.filled small headerSmall, if_pos writable.headerFits]

end Writer

end LiteRTLM.Schema
