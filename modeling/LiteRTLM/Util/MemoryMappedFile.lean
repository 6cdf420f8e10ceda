import LiteRTLM.Engine.Status
import LiteRTLM.Library.ByteImage

/-!
Contract: files on disk and the read-only mappings of them that `MemoryMappedFile::Create`
makes on a POSIX system.

Owns: a file with a size that `off_t` holds, what the platform promises of `mmap`, the
checks of `Create`, and references into a mapping.

Does not own: the addresses of mappings. A mapping is known by the part of the file it
covers.
-/

namespace LiteRTLM.Util

open LiteRTLM.Engine
open LiteRTLM.Library

/-- The contents of a file; `st_size` is a signed 64-bit number. -/
structure ModelFile where
  bytes : List UInt8
  size_lt : bytes.length < 2 ^ 63

namespace ModelFile

def size (file : ModelFile) : Nat := file.bytes.length

/-- The size as `fstat` reports it to the code. -/
def size64 (file : ModelFile) : UInt64 := UInt64.ofNat file.size

@[simp]
theorem size64_toNat (file : ModelFile) : file.size64.toNat = file.size := by
  have bounded := file.size_lt
  simp only [size64, size, UInt64.toNat_ofNat']
  omega

/-- The bytes from `start` up to `stop`. -/
def range (file : ModelFile) (start stop : Nat) : List UInt8 :=
  ByteImage.slice file.bytes start stop

end ModelFile

/-- What the code needs from the system it runs on. -/
structure Platform where
  /-- `getpagesize()`. -/
  pageSize : Nat
  pageSize_pos : 0 < pageSize
  /-- Allocations of more bytes throw. -/
  maxAllocation : Nat
  /-- No allocation exceeds the largest `ptrdiff_t`. -/
  maxAllocation_lt : maxAllocation < 2 ^ 63
  /-- Whether `mmap` maps `length` bytes at `offset` of a file of the given size. -/
  mmap : (fileSize length offset : Nat) → Bool
  /-- An empty mapping is refused. -/
  mmap_empty : ∀ fileSize offset, mmap fileSize 0 offset = false
  /-- A whole number of pages into the file, a part of the file can be mapped. -/
  mmap_inside : ∀ fileSize length offset, 0 < length → offset % pageSize = 0 →
    length + offset ≤ fileSize → mmap fileSize length offset = true

/-- An allocation of `size` bytes. -/
def Platform.allocate (platform : Platform) (size : Nat) : CallResult Unit :=
  if size ≤ platform.maxAllocation then .ok () else .error (.crash .allocation)

/-- A mapping of `length` bytes of a file from `offset` on. -/
structure MemoryMappedFile where
  offset : Nat
  length : Nat
deriving DecidableEq, Repr

namespace MemoryMappedFile

/-- `Create(file, offset, length)`: the sum of the two is taken in 64 bits, and a length of
zero asks for the rest of the file. -/
def create (platform : Platform) (file : ModelFile) (offset length : UInt64) :
    StatusOr MemoryMappedFile :=
  if offset.toNat % platform.pageSize ≠ 0 then
    .error (.internalError "Offset must be a multiple of page size")
  else if file.size64 < length + offset then
    .error (.internalError "Length and offset too large.")
  else
    let mapped := if length = 0 then file.size64 - offset else length
    if platform.mmap file.size mapped.toNat offset.toNat then
      .ok ⟨offset.toNat, mapped.toNat⟩
    else .error (.internalError "Failed to map")

end MemoryMappedFile

/-- A `BufferRef<uint8_t>`: `size` bytes from the position `start` of a mapping on. -/
structure BufferRef where
  mapping : MemoryMappedFile
  start : Nat
  size : Nat
deriving DecidableEq, Repr

namespace BufferRef

/-- The positions in the file that a reference covers. -/
def range (buffer : BufferRef) : Nat × Nat :=
  (buffer.mapping.offset + buffer.start, buffer.mapping.offset + buffer.start + buffer.size)

/-- The bytes a reader of the reference sees; none when it reaches out of its mapping. -/
def bytes (buffer : BufferRef) (file : ModelFile) : Option (List UInt8) :=
  if buffer.start + buffer.size ≤ buffer.mapping.length then
    some (file.range buffer.range.1 buffer.range.2)
  else none

end BufferRef

end LiteRTLM.Util
