import LiteRTLM.Schema.Core.LitertlmRead

/-!
Contract: which streams `ReadHeaderFromLiteRTLM` accepts, and how it ends on the others.

Owns: the streams that delimit a header, the result of the read on every stream, and the
agreement of the read on a file and on the first block of the file.

Does not own: what is done with the header.
-/

namespace LiteRTLM.Schema

open LiteRTLM.Engine
open LiteRTLM.Library
open LiteRTLM.Util

/-! ## Delimited headers -/

/-- The number in the bytes 24 to 32. -/
def headerEndOffset (stream : List UInt8) : Nat :=
  ByteImage.ofLittleEndian (ByteImage.slice stream 24 32)

def headerBytes (stream : List UInt8) : List UInt8 :=
  ByteImage.slice stream 32 (headerEndOffset stream)

/-- A stream with the magic number, the supported major version and an end offset that
does not lie in front of the header. -/
structure DelimitsHeader (stream : List UInt8) : Prop where
  magic : ByteImage.slice stream 0 8 = magicNumber
  reaches : 32 ≤ stream.length
  major : ByteImage.ofLittleEndian (ByteImage.slice stream 8 12) = litertlmMajorVersion
  ordered : 32 ≤ headerEndOffset stream

/-- A stream whose delimited header lies in it and holds the given table. -/
structure HoldsHeader (libraries : ReaderLibraries) (stream : List UInt8)
    (metadata : LiteRTLMMetaData) : Prop extends DelimitsHeader stream where
  inside : headerEndOffset stream ≤ stream.length
  decodes : libraries.getLiteRTLMMetaData (headerBytes stream) = some metadata

/-- The header that is read from a stream with the given table. -/
def headerOf (stream : List UInt8) (metadata : LiteRTLMMetaData) : LitertlmHeader where
  majorVersion := ByteImage.ofLittleEndian (ByteImage.slice stream 8 12)
  minorVersion := ByteImage.ofLittleEndian (ByteImage.slice stream 12 16)
  patchVersion := ByteImage.ofLittleEndian (ByteImage.slice stream 16 20)
  metadata := metadata

theorem headerOf_sections (stream : List UInt8) {metadata : LiteRTLMMetaData}
    {sections : List SectionObject} (listed : metadata.sectionMetadata = some sections) :
    (headerOf stream metadata).sections = .ok sections := by
  simp only [LitertlmHeader.sections, headerOf, listed]

theorem headerOf_sections_missing (stream : List UInt8) {metadata : LiteRTLMMetaData}
    (missing : metadata.sectionMetadata = none) :
    (headerOf stream metadata).sections = .error (.crash .nullPointer) := by
  simp only [LitertlmHeader.sections, headerOf, missing]

variable (platform : Platform) (libraries : ReaderLibraries)

/-! ## The result of the read -/

theorem allocate_ok {size : Nat} (fits : size ≤ platform.maxAllocation) :
    platform.allocate size = .ok () := by
  rw [Platform.allocate, if_pos fits]

theorem allocate_crash {size : Nat} (exceeds : ¬size ≤ platform.maxAllocation) :
    platform.allocate size = .error (.crash .allocation) := by
  rw [Platform.allocate, if_neg exceeds]

/-- A stream that does not delimit a header is refused with a status. -/
theorem readHeader_refuses {stream : List UInt8} (refused : ¬DelimitsHeader stream) :
    ∃ status, readHeaderFromLiteRTLM platform libraries stream = .error (.status status) := by
  simp only [readHeaderFromLiteRTLM]
  by_cases magic : ByteImage.slice stream 0 8 = magicNumber
  swap
  · exact ⟨_, by rw [if_pos magic]; rfl⟩
  rw [if_neg (not_not.mpr magic)]
  by_cases versions : stream.length < 20
  · exact ⟨_, by simp only [if_pos versions]; rfl⟩
  simp only [if_neg versions]
  by_cases major :
      ByteImage.ofLittleEndian (ByteImage.slice stream 8 12) = litertlmMajorVersion
  swap
  · exact ⟨_, by rw [if_pos major]; rfl⟩
  rw [if_neg (not_not.mpr major)]
  by_cases reaches : stream.length < 32
  · exact ⟨_, by simp only [if_pos reaches]; rfl⟩
  simp only [if_neg reaches]
  have early : ByteImage.ofLittleEndian (ByteImage.slice stream 24 32) < 32 := by
    by_contra ordered
    exact refused ⟨magic, by omega, major, by rw [headerEndOffset]; omega⟩
  exact ⟨_, by simp only [if_pos early]; rfl⟩

/-- On a stream that delimits a header, the allocation, the length of the stream and the
table decide. -/
theorem readHeader_delimited {stream : List UInt8} (delimited : DelimitsHeader stream) :
    readHeaderFromLiteRTLM platform libraries stream = (do
      platform.allocate (headerEndOffset stream - 32)
      if stream.length < headerEndOffset stream then
        throw (.status (.internalError "Failed to read header data."))
      match libraries.getLiteRTLMMetaData (headerBytes stream) with
      | some metadata => return headerOf stream metadata
      | none => throw (.crash .malformedBuffer) : CallResult LitertlmHeader) := by
  have reaches := delimited.reaches
  have ordered : ¬ByteImage.ofLittleEndian (ByteImage.slice stream 24 32) < 32 := by
    have := delimited.ordered
    rw [headerEndOffset] at this
    omega
  simp only [readHeaderFromLiteRTLM]
  rw [if_neg (not_not.mpr delimited.magic)]
  simp only [if_neg (show ¬stream.length < 20 by omega),
    if_neg (not_not.mpr delimited.major), if_neg (show ¬stream.length < 32 by omega),
    if_neg ordered]
  rfl

/-- A header is read from the streams that hold one, when there is memory for it. -/
theorem readHeader_ok_iff {stream : List UInt8} {header : LitertlmHeader} :
    readHeaderFromLiteRTLM platform libraries stream = .ok header ↔
      headerEndOffset stream - 32 ≤ platform.maxAllocation ∧
      ∃ metadata, HoldsHeader libraries stream metadata ∧
        header = headerOf stream metadata := by
  by_cases delimited : DelimitsHeader stream
  swap
  · obtain ⟨status, refused⟩ := readHeader_refuses platform libraries delimited
    rw [refused]
    constructor
    · intro impossible
      cases impossible
    · rintro ⟨-, metadata, holds, -⟩
      exact absurd holds.toDelimitsHeader delimited
  rw [readHeader_delimited platform libraries delimited]
  by_cases fits : headerEndOffset stream - 32 ≤ platform.maxAllocation
  swap
  · rw [allocate_crash platform fits]
    constructor
    · intro impossible
      cases impossible
    · intro held
      exact absurd held.1 fits
  rw [allocate_ok platform fits]
  by_cases inside : stream.length < headerEndOffset stream
  · simp only [if_pos inside]
    constructor
    · intro impossible
      cases impossible
    · rintro ⟨-, metadata, holds, -⟩
      have := holds.inside
      omega
  simp only [if_neg inside]
  cases decoded : libraries.getLiteRTLMMetaData (headerBytes stream) with
  | none =>
    constructor
    · intro impossible
      cases impossible
    · rintro ⟨-, metadata, holds, -⟩
      have same := holds.decodes
      rw [decoded] at same
      cases same
  | some metadata =>
    constructor
    · intro result
      cases result
      exact ⟨fits, metadata, ⟨delimited, by omega, decoded⟩, rfl⟩
    · rintro ⟨-, other, holds, rfl⟩
      have same := holds.decodes
      rw [decoded] at same
      cases same
      rfl

/-- The header flatbuffer decodes, wherever a stream delimits one. -/
def HeaderDecodes (stream : List UInt8) : Prop :=
  DelimitsHeader stream → headerEndOffset stream ≤ stream.length →
    (libraries.getLiteRTLMMetaData (headerBytes stream)).isSome

/-- The read returns, unless there is no memory for a header that is delimited. -/
theorem readHeader_returns_iff {stream : List UInt8}
    (decodes : HeaderDecodes libraries stream) :
    (readHeaderFromLiteRTLM platform libraries stream).returns ↔
      (DelimitsHeader stream → headerEndOffset stream - 32 ≤ platform.maxAllocation) := by
  by_cases delimited : DelimitsHeader stream
  swap
  · obtain ⟨status, refused⟩ := readHeader_refuses platform libraries delimited
    rw [refused]
    exact ⟨fun _ claimed => absurd claimed delimited, fun _ => rfl⟩
  rw [readHeader_delimited platform libraries delimited]
  by_cases fits : headerEndOffset stream - 32 ≤ platform.maxAllocation
  swap
  · rw [allocate_crash platform fits]
    constructor
    · intro impossible
      cases impossible
    · intro claimed
      exact absurd (claimed delimited) fits
  rw [allocate_ok platform fits]
  refine ⟨fun _ _ => fits, fun _ => ?_⟩
  by_cases inside : stream.length < headerEndOffset stream
  · simp only [if_pos inside]
    rfl
  · obtain ⟨metadata, decoded⟩ := Option.isSome_iff_exists.mp (decodes delimited (by omega))
    simp only [if_neg inside, decoded]
    rfl

/-! ## The first block of a file -/

/-- The part of a stream that lies in the first block. -/
def firstBlock (stream : List UInt8) : List UInt8 :=
  ByteImage.slice stream 0 (min blockSize stream.length)

@[simp]
theorem firstBlock_length (stream : List UInt8) :
    (firstBlock stream).length = min blockSize stream.length := by
  simp [firstBlock]

/-- Up to its end, the first block has the slices of the stream. -/
theorem slice_firstBlock (stream : List UInt8) {start stop : Nat} (inside : stop ≤ blockSize) :
    ByteImage.slice (firstBlock stream) start stop = ByteImage.slice stream start stop := by
  apply List.ext_getElem?
  intro index
  simp only [firstBlock, ByteImage.getElem?_slice, Nat.zero_add]
  by_cases within : start + index < stop
  · by_cases held : start + index < stream.length
    · rw [if_pos within, if_pos within, if_pos (by omega)]
    · rw [if_pos within, if_pos within, if_neg (by omega),
        List.getElem?_eq_none (by omega : stream.length ≤ start + index)]
  · rw [if_neg within, if_neg within]

@[simp]
theorem headerEndOffset_firstBlock (stream : List UInt8) :
    headerEndOffset (firstBlock stream) = headerEndOffset stream := by
  rw [headerEndOffset, slice_firstBlock stream (by decide), headerEndOffset]

theorem delimitsHeader_firstBlock {stream : List UInt8} :
    DelimitsHeader (firstBlock stream) ↔ DelimitsHeader stream := by
  have small : 32 ≤ blockSize := by decide
  constructor
  · intro delimited
    have reaches := delimited.reaches
    have magic := delimited.magic
    have major := delimited.major
    rw [firstBlock_length] at reaches
    rw [slice_firstBlock stream (by decide)] at magic major
    exact ⟨magic, by omega, major, by simpa using delimited.ordered⟩
  · intro delimited
    have reaches := delimited.reaches
    refine ⟨?_, by rw [firstBlock_length]; omega, ?_, by simpa using delimited.ordered⟩
    · rw [slice_firstBlock stream (by decide)]
      exact delimited.magic
    · rw [slice_firstBlock stream (by decide)]
      exact delimited.major

/-- A header in the first block is the header of the stream. -/
theorem headerBytes_firstBlock {stream : List UInt8}
    (inside : headerEndOffset stream ≤ blockSize) :
    headerBytes (firstBlock stream) = headerBytes stream := by
  rw [headerBytes, headerEndOffset_firstBlock, slice_firstBlock stream inside, headerBytes]

theorem headerDecodes_firstBlock {stream : List UInt8}
    (decodes : HeaderDecodes libraries stream) :
    HeaderDecodes libraries (firstBlock stream) := by
  intro delimited inside
  rw [headerEndOffset_firstBlock, firstBlock_length] at inside
  rw [headerBytes_firstBlock (by omega)]
  exact decodes (delimitsHeader_firstBlock.mp delimited) (by omega)

/-- The first block holds the headers of the stream that end in it. -/
theorem holdsHeader_firstBlock {stream : List UInt8} {metadata : LiteRTLMMetaData} :
    HoldsHeader libraries (firstBlock stream) metadata ↔
      HoldsHeader libraries stream metadata ∧ headerEndOffset stream ≤ blockSize := by
  constructor
  · intro holds
    have inside := holds.inside
    have decoded := holds.decodes
    rw [headerEndOffset_firstBlock, firstBlock_length] at inside
    rw [headerBytes_firstBlock (by omega)] at decoded
    exact ⟨⟨delimitsHeader_firstBlock.mp holds.toDelimitsHeader, by omega, decoded⟩, by omega⟩
  · intro holds
    have inside := holds.1.inside
    refine ⟨delimitsHeader_firstBlock.mpr holds.1.toDelimitsHeader, ?_, ?_⟩
    · rw [headerEndOffset_firstBlock, firstBlock_length]
      exact Nat.le_min.mpr ⟨holds.2, inside⟩
    · rw [headerBytes_firstBlock holds.2]
      exact holds.1.decodes

end LiteRTLM.Schema
