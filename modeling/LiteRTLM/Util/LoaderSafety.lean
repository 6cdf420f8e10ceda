import LiteRTLM.Util.LoaderSections

/-!
Contract: which model files make the loader and the section readers touch nothing outside
of the file.

Owns: the outcome of `Initialize` on every file, the ranges that both model sources serve,
the reads of one section that end in an error, and the exact condition for all of them.

Does not own: the contents of the sections.
-/

namespace LiteRTLM.Util

open LiteRTLM.Engine
open LiteRTLM.Library
open LiteRTLM.Schema

/-! ## The outcome of `Initialize` -/

namespace LitertLmLoader

variable (platform : Platform) (libraries : ReaderLibraries) (file : ModelFile)
  (source : ModelSource)

theorem headerSize_toNat : (UInt64.ofNat (min headerMaxSize file.size)).toNat =
    min headerMaxSize file.size := by
  have small : min headerMaxSize file.size ≤ headerMaxSize := Nat.min_le_left _ _
  have value : headerMaxSize = 16384 := rfl
  rw [UInt64.toNat_ofNat']
  omega

/-- The start of a file that is not empty can be mapped. -/
theorem create_header (filled : 0 < file.size) :
    MemoryMappedFile.create platform file 0 (UInt64.ofNat (min headerMaxSize file.size)) =
      .ok ⟨0, min headerMaxSize file.size⟩ := by
  have size := headerSize_toNat file
  have positive : 0 < min headerMaxSize file.size :=
    Nat.lt_min.mpr ⟨by decide, filled⟩
  have asked : UInt64.ofNat (min headerMaxSize file.size) ≠ 0 := by
    intro zero
    rw [zero] at size
    simp at size
    omega
  have inside : ¬file.size64 < UInt64.ofNat (min headerMaxSize file.size) + 0 := by
    rw [UInt64.add_zero, UInt64.lt_iff_toNat_lt, size, ModelFile.size64_toNat]
    have := Nat.min_le_right headerMaxSize file.size
    omega
  have mapped : platform.mmap file.size (min headerMaxSize file.size) 0 = true :=
    platform.mmap_inside _ _ _ positive (Nat.zero_mod _) (by omega)
  rw [MemoryMappedFile.create, if_neg (by simp), if_neg inside]
  simp only [if_neg asked, size, UInt64.toNat_zero, if_pos mapped]

theorem headerData_filled (filled : 0 < file.size) :
    headerData platform file source = .ok (firstBlock file.bytes) := by
  cases source with
  | memoryMappedFile => rfl
  | scopedFile =>
    rw [headerData, create_header platform file filled]
    show Except.ok (file.range 0 (0 + min headerMaxSize file.size)) = _
    rw [Nat.zero_add]
    rfl

/-- Without a delimited header, a status is returned. -/
theorem initializeLoader_refuses (refused : ¬DelimitsHeader file.bytes) :
    ∃ status, initializeLoader platform libraries file source = .error (.status status) := by
  rw [initializeLoader]
  cases found : headerData platform file source with
  | error status => exact ⟨status, rfl⟩
  | ok stream =>
    have streamIs : stream = firstBlock file.bytes := by
      by_cases filled : 0 < file.size
      · rw [headerData_filled platform file source filled] at found
        cases found
        rfl
      · have empty : file.bytes = [] := by
          apply List.eq_nil_of_length_eq_zero
          rw [ModelFile.size] at filled
          omega
        cases source with
        | memoryMappedFile =>
          cases found
          rfl
        | scopedFile =>
          have zero : file.size = 0 := by omega
          exfalso
          simp only [headerData, MemoryMappedFile.create, zero, Nat.min_zero] at found
          simp [ModelFile.size64, zero, platform.mmap_empty] at found
    obtain ⟨status, ended⟩ := readHeader_refuses platform libraries
      (show ¬DelimitsHeader stream by rw [streamIs, delimitsHeader_firstBlock]; exact refused)
    rw [show (StatusOr.orReturn (.ok stream)) = .ok stream from rfl]
    exact ⟨status, by simp only [bind, Except.bind, ended]⟩

/-- With a delimited header, the model source makes no difference. -/
theorem initializeLoader_delimited (delimited : DelimitsHeader file.bytes) :
    initializeLoader platform libraries file source = (do
      let header ← readHeaderFromLiteRTLM platform libraries (firstBlock file.bytes)
      let sections ← header.sections
      sections.foldlM recordSection { header := header } : CallResult LitertLmLoader) := by
  have reaches := delimited.reaches
  rw [initializeLoader,
    headerData_filled platform file source (by rw [ModelFile.size]; omega)]
  rfl

/-- The files that are loaded: a header in the first block, memory for it, and readable
sections. -/
structure Loadable (metadata : LiteRTLMMetaData) (sections : List SectionObject) : Prop where
  holds : HoldsHeader libraries (firstBlock file.bytes) metadata
  memory : headerEndOffset file.bytes - 32 ≤ platform.maxAllocation
  listed : metadata.sectionMetadata = some sections
  readable : ∀ object ∈ sections, SectionReadable object

/-- Such a file is loaded, from both sources with the same result. -/
theorem initializeLoader_loadable {metadata : LiteRTLMMetaData} {sections : List SectionObject}
    (loadable : Loadable platform libraries file metadata sections) :
    ∃ loader, (∀ source, initializeLoader platform libraries file source = .ok loader) ∧
      Records sections { header := headerOf (firstBlock file.bytes) metadata } loader := by
  obtain ⟨loader, recorded, records⟩ := recordSections_readable sections
    { header := headerOf (firstBlock file.bytes) metadata } loadable.readable
  refine ⟨loader, fun source => ?_, records⟩
  have read : readHeaderFromLiteRTLM platform libraries (firstBlock file.bytes) =
      .ok (headerOf (firstBlock file.bytes) metadata) := by
    apply (readHeader_ok_iff platform libraries).mpr
    rw [headerEndOffset_firstBlock]
    exact ⟨loadable.memory, metadata, loadable.holds, rfl⟩
  rw [initializeLoader_delimited platform libraries file source
    (delimitsHeader_firstBlock.mp loadable.holds.toDelimitsHeader), read]
  simp only [bind, Except.bind, headerOf_sections _ loadable.listed]
  exact recorded

/-- No other file is loaded. -/
theorem initializeLoader_ok {loader : LitertLmLoader}
    (loaded : initializeLoader platform libraries file source = .ok loader) :
    ∃ metadata sections, Loadable platform libraries file metadata sections := by
  by_cases delimited : DelimitsHeader file.bytes
  swap
  · obtain ⟨status, refused⟩ :=
      initializeLoader_refuses platform libraries file source delimited
    rw [refused] at loaded
    cases loaded
  rw [initializeLoader_delimited platform libraries file source delimited] at loaded
  cases read : readHeaderFromLiteRTLM platform libraries (firstBlock file.bytes) with
  | error failure =>
    rw [read] at loaded
    cases loaded
  | ok header =>
    obtain ⟨memory, metadata, holds, rfl⟩ := (readHeader_ok_iff platform libraries).mp read
    rw [read] at loaded
    simp only [bind, Except.bind] at loaded
    cases listed : metadata.sectionMetadata with
    | none =>
      rw [headerOf_sections_missing _ listed] at loaded
      cases loaded
    | some sections =>
      refine ⟨metadata, sections, holds, by simpa using memory, listed, ?_⟩
      by_contra unreadable
      obtain ⟨cause, crashed⟩ := recordSections_unreadable sections
        { header := headerOf (firstBlock file.bytes) metadata } unreadable
      rw [headerOf_sections _ listed] at loaded
      simp only [crashed] at loaded
      cases loaded

/-- Whether a failure is a status does not depend on what was to be returned. -/
theorem returns_error {α β : Type} (failure : Failure) :
    CallResult.returns (Except.error failure : CallResult α) =
      CallResult.returns (Except.error failure : CallResult β) := by
  cases failure <;> rfl

/-- `Initialize` returns exactly on the files without a header that there is no memory for,
without a missing section list and without an unreadable section. -/
theorem initializeLoader_returns_iff (decodes : HeaderDecodes libraries file.bytes) :
    (initializeLoader platform libraries file source).returns ↔
      (DelimitsHeader file.bytes → headerEndOffset file.bytes - 32 ≤ platform.maxAllocation) ∧
      ∀ metadata, HoldsHeader libraries (firstBlock file.bytes) metadata →
        ∃ sections, metadata.sectionMetadata = some sections ∧
          ∀ object ∈ sections, SectionReadable object := by
  by_cases delimited : DelimitsHeader file.bytes
  swap
  · obtain ⟨status, refused⟩ :=
      initializeLoader_refuses platform libraries file source delimited
    rw [refused]
    refine ⟨fun _ => ⟨fun claimed => absurd claimed delimited, fun metadata holds => ?_⟩,
      fun _ => rfl⟩
    exact absurd (delimitsHeader_firstBlock.mp holds.toDelimitsHeader) delimited
  have returns := readHeader_returns_iff platform libraries
    (headerDecodes_firstBlock libraries decodes)
  rw [delimitsHeader_firstBlock, headerEndOffset_firstBlock] at returns
  rw [initializeLoader_delimited platform libraries file source delimited]
  cases read : readHeaderFromLiteRTLM platform libraries (firstBlock file.bytes) with
  | error failure =>
    rw [read] at returns
    have none_held : ∀ metadata, headerEndOffset file.bytes - 32 ≤ platform.maxAllocation →
        ¬HoldsHeader libraries (firstBlock file.bytes) metadata := by
      intro metadata memory holds
      have accepted := (readHeader_ok_iff platform libraries).mpr
        ⟨by simpa using memory, metadata, holds, rfl⟩
      rw [read] at accepted
      cases accepted
    show (CallResult.returns (Except.error failure : CallResult LitertLmLoader)) ↔ _
    rw [@returns_error LitertLmLoader LitertlmHeader failure]
    constructor
    · intro returned
      have memory := returns.mp returned
      exact ⟨memory, fun metadata holds => absurd holds (none_held metadata (memory delimited))⟩
    · intro condition
      exact returns.mpr condition.1
  | ok header =>
    obtain ⟨memory, metadata, holds, rfl⟩ := (readHeader_ok_iff platform libraries).mp read
    rw [headerEndOffset_firstBlock] at memory
    simp only [bind, Except.bind]
    constructor
    · intro returned
      refine ⟨fun _ => memory, fun other otherHolds => ?_⟩
      have same : some metadata = some other :=
        holds.decodes.symm.trans otherHolds.decodes
      cases same
      cases listed : metadata.sectionMetadata with
      | none =>
        rw [headerOf_sections_missing _ listed] at returned
        cases returned
      | some sections =>
        refine ⟨sections, rfl, ?_⟩
        by_contra unreadable
        obtain ⟨cause, crashed⟩ := recordSections_unreadable sections
          { header := headerOf (firstBlock file.bytes) metadata } unreadable
        rw [headerOf_sections _ listed] at returned
        simp only [crashed] at returned
        cases returned
    · intro condition
      obtain ⟨sections, listed, readable⟩ := condition.2 metadata holds
      obtain ⟨loader, recorded, -⟩ := recordSections_readable sections
        { header := headerOf (firstBlock file.bytes) metadata } readable
      rw [headerOf_sections _ listed]
      simp only [recorded]
      rfl

end LitertLmLoader

/-! ## Ranges of the file -/

/-- The reference covers the bytes from `start` up to `stop`, which lie in the file. -/
structure CoversExactly (file : ModelFile) (buffer : BufferRef) (start stop : Nat) : Prop where
  ordered : start ≤ stop
  inside : stop ≤ file.size
  range : buffer.range = (start, stop)
  bytes : buffer.bytes file = some (file.range start stop)

/-- A 64-bit difference of ordered offsets. -/
theorem sub_toNat_of_le {first last : UInt64} (ordered : first.toNat ≤ last.toNat) :
    (last - first).toNat = last.toNat - first.toNat := by
  have firstBound := first.toNat_lt
  have lastBound := last.toNat_lt
  rw [UInt64.toNat_sub]
  omega

/-- A 64-bit difference of offsets in the wrong order wraps around. -/
theorem sub_toNat_of_lt {first last : UInt64} (reversed : last.toNat < first.toNat) :
    (last - first).toNat + first.toNat = 2 ^ 64 + last.toNat := by
  have firstBound := first.toNat_lt
  have lastBound := last.toNat_lt
  rw [UInt64.toNat_sub]
  omega

namespace LitertLmLoader

variable (platform : Platform) (file : ModelFile)

/-- The reference that the mapping of the whole file gives for a range. -/
def wholeFileRef (beginOffset endOffset : UInt64) : BufferRef :=
  ⟨⟨0, file.size⟩, beginOffset.toNat, (endOffset - beginOffset).toNat⟩

theorem bufferAt_memoryMappedFile (beginOffset endOffset : UInt64) :
    bufferAt platform file .memoryMappedFile (some (beginOffset, endOffset)) =
      some (wholeFileRef file beginOffset endOffset) := rfl

/-- A range that lies in the file is served by the mapping of the whole file. -/
theorem wholeFileRef_covers {beginOffset endOffset : UInt64}
    (ordered : beginOffset.toNat ≤ endOffset.toNat) (inside : endOffset.toNat ≤ file.size) :
    CoversExactly file (wholeFileRef file beginOffset endOffset)
      beginOffset.toNat endOffset.toNat := by
  have size := sub_toNat_of_le ordered
  have range : (wholeFileRef file beginOffset endOffset).range =
      (beginOffset.toNat, endOffset.toNat) := by
    simp only [wholeFileRef, BufferRef.range, size, Nat.zero_add]
    rw [Nat.add_sub_cancel' ordered]
  refine ⟨ordered, inside, range, ?_⟩
  rw [BufferRef.bytes, range, if_pos]
  simp only [wholeFileRef, size]
  omega

/-- The mapping of the whole file serves no other range. -/
theorem inside_of_wholeFileRef_covers {beginOffset endOffset : UInt64} {start stop : Nat}
    (covers : CoversExactly file (wholeFileRef file beginOffset endOffset) start stop) :
    beginOffset.toNat ≤ endOffset.toNat ∧ endOffset.toNat ≤ file.size := by
  have range := covers.range
  have inside := covers.inside
  have bounded := file.size_lt
  rw [← ModelFile.size] at bounded
  simp only [wholeFileRef, BufferRef.range, Nat.zero_add, Prod.mk.injEq] at range
  obtain ⟨startIs, stopIs⟩ := range
  by_cases ordered : beginOffset.toNat ≤ endOffset.toNat
  · have size := sub_toNat_of_le ordered
    omega
  · have wrapped := sub_toNat_of_lt (not_le.mp ordered)
    omega

/-- The range that the mapping of a section starts with lies on a page boundary. -/
theorem alignedBegin_toNat (beginOffset : UInt64) :
    (beginOffset - UInt64.ofNat (beginOffset.toNat % platform.pageSize)).toNat =
      beginOffset.toNat - beginOffset.toNat % platform.pageSize := by
  have bounded := beginOffset.toNat_lt
  have gap : beginOffset.toNat % platform.pageSize ≤ beginOffset.toNat := Nat.mod_le _ _
  have gapValue : (UInt64.ofNat (beginOffset.toNat % platform.pageSize)).toNat =
      beginOffset.toNat % platform.pageSize := by
    rw [UInt64.toNat_ofNat']
    omega
  rw [sub_toNat_of_le (by rw [gapValue]; exact gap), gapValue]

/-- The mapping of a range that lies in the file, from the start of its first page on. -/
theorem create_aligned {beginOffset endOffset : UInt64}
    (ordered : beginOffset.toNat ≤ endOffset.toNat) (inside : endOffset.toNat ≤ file.size)
    (nonEmpty : beginOffset.toNat < file.size ∨ beginOffset.toNat % platform.pageSize ≠ 0) :
    let alignedBegin := beginOffset - UInt64.ofNat (beginOffset.toNat % platform.pageSize)
    ∃ length, MemoryMappedFile.create platform file alignedBegin (endOffset - alignedBegin) =
        .ok ⟨beginOffset.toNat - beginOffset.toNat % platform.pageSize, length⟩ ∧
      endOffset.toNat ≤
        beginOffset.toNat - beginOffset.toNat % platform.pageSize + length := by
  intro alignedBegin
  have value : alignedBegin.toNat =
      beginOffset.toNat - beginOffset.toNat % platform.pageSize :=
    alignedBegin_toNat platform beginOffset
  have gap : beginOffset.toNat % platform.pageSize ≤ beginOffset.toNat := Nat.mod_le _ _
  have aligned : (beginOffset.toNat - beginOffset.toNat % platform.pageSize) %
      platform.pageSize = 0 := by
    have split := Nat.mod_add_div beginOffset.toNat platform.pageSize
    rw [show beginOffset.toNat - beginOffset.toNat % platform.pageSize =
      platform.pageSize * (beginOffset.toNat / platform.pageSize) by omega]
    exact Nat.mul_mod_right _ _
  have sizeValue : (endOffset - alignedBegin).toNat = endOffset.toNat - alignedBegin.toNat :=
    sub_toNat_of_le (by omega)
  have bounded := endOffset.toNat_lt
  have fits : ¬file.size64 < endOffset - alignedBegin + alignedBegin := by
    rw [UInt64.sub_add_cancel, UInt64.lt_iff_toNat_lt, ModelFile.size64_toNat]
    omega
  have restValue : (file.size64 - alignedBegin).toNat = file.size - alignedBegin.toNat := by
    rw [sub_toNat_of_le (by rw [ModelFile.size64_toNat]; omega), ModelFile.size64_toNat]
  rw [MemoryMappedFile.create, if_neg (by rw [value, aligned]; simp), if_neg fits]
  by_cases empty : endOffset - alignedBegin = 0
  · have none_asked : endOffset.toNat - alignedBegin.toNat = 0 := by
      rw [← sizeValue, empty]
      rfl
    have mapped : platform.mmap file.size (file.size - alignedBegin.toNat)
        alignedBegin.toNat = true := by
      apply platform.mmap_inside
      · omega
      · rw [value, aligned]
      · omega
    simp only [if_pos empty, restValue, if_pos mapped]
    exact ⟨_, by rw [value], by omega⟩
  · have some_asked : (endOffset - alignedBegin).toNat ≠ 0 := by
      intro zero
      exact empty (UInt64.toNat_inj.mp zero)
    have mapped : platform.mmap file.size (endOffset - alignedBegin).toNat
        alignedBegin.toNat = true := by
      apply platform.mmap_inside
      · omega
      · rw [value, aligned]
      · omega
    simp only [if_neg empty, if_pos mapped]
    exact ⟨_, by rw [value], by omega⟩

/-- A range in the file is served from the open file, unless it starts where the last page
ends. -/
theorem bufferAt_scopedFile {beginOffset endOffset : UInt64}
    (ordered : beginOffset.toNat ≤ endOffset.toNat) (inside : endOffset.toNat ≤ file.size)
    (nonEmpty : beginOffset.toNat < file.size ∨ beginOffset.toNat % platform.pageSize ≠ 0) :
    ∃ buffer, bufferAt platform file .scopedFile (some (beginOffset, endOffset)) =
        some buffer ∧
      CoversExactly file buffer beginOffset.toNat endOffset.toNat := by
  obtain ⟨length, created, reaches⟩ :=
    create_aligned platform file ordered inside nonEmpty
  have gap : beginOffset.toNat % platform.pageSize ≤ beginOffset.toNat := Nat.mod_le _ _
  have size := sub_toNat_of_le ordered
  refine ⟨⟨⟨beginOffset.toNat - beginOffset.toNat % platform.pageSize, length⟩,
    beginOffset.toNat % platform.pageSize, (endOffset - beginOffset).toNat⟩, ?_, ordered,
    inside, ?_, ?_⟩
  · simp only [bufferAt, mapRange, created]
    rfl
  · simp only [BufferRef.range, size, Prod.mk.injEq]
    omega
  · rw [BufferRef.bytes, if_pos (by simp only [size]; omega)]
    simp only [BufferRef.range, size]
    congr 2 <;> omega

/-- At the end of a file that ends with a page, nothing can be mapped. -/
theorem bufferAt_scopedFile_end {beginOffset endOffset : UInt64}
    (atEnd : beginOffset.toNat = file.size) (empty : endOffset = beginOffset)
    (pageEnd : file.size % platform.pageSize = 0) :
    bufferAt platform file .scopedFile (some (beginOffset, endOffset)) = none := by
  subst empty
  have gap : endOffset.toNat % platform.pageSize = 0 := by rw [atEnd, pageEnd]
  have same : file.size64 = endOffset := by
    apply UInt64.toNat_inj.mp
    rw [ModelFile.size64_toNat, atEnd]
  have refused : platform.mmap file.size (UInt64.toNat 0) endOffset.toNat ≠ true := by
    rw [show UInt64.toNat 0 = 0 from rfl, platform.mmap_empty]
    simp
  have created : MemoryMappedFile.create platform file endOffset 0 =
      .error (.internalError "Failed to map") := by
    rw [MemoryMappedFile.create, if_neg (by rw [gap]; simp), if_neg (by simp [same])]
    simp only [same, UInt64.sub_self, if_pos, if_neg refused]
  simp only [bufferAt, mapRange, gap, show UInt64.ofNat 0 = 0 from rfl, UInt64.sub_zero,
    UInt64.sub_self, created]
  rfl

end LitertLmLoader

end LiteRTLM.Util
