import LiteRTLM.Util.Json

/-!
Contract: the header of a `.litertlm` file, `litertlm_header_schema.fbs`.

Owns: the tables of the schema, the section types, and the constants of the file layout
that the writers and the readers share.

Does not own: the flatbuffer encoding, which is a parameter of the writers and the
readers.

A table field that the schema does not mark as required may be absent, and is an option.
-/

namespace LiteRTLM.Schema

open LiteRTLM.Util

/-! ## The file layout -/

def litertlmMajorVersion : Nat := 1
def litertlmMinorVersion : Nat := 5
def litertlmPatchVersion : Nat := 0

def headerBeginByteOffset : Nat := 32
def headerEndLocationByteOffset : Nat := 24
def blockSize : Nat := 16 * 1024

/-- `"LITERTLM"`. -/
def magicNumber : List UInt8 := [76, 73, 84, 69, 82, 84, 76, 77]

/-! ## The tables -/

/-- The value of a `KeyValuePair`; floating-point values as their bits. -/
inductive VData where
  | uint8 (value : UInt8)
  | int8 (value : Int8)
  | uint16 (value : UInt16)
  | int16 (value : Int16)
  | uint32 (value : UInt32)
  | int32 (value : Int32)
  | float32 (bits : UInt32)
  | bool (value : Bool)
  | stringValue (value : Option Text)
  | uint64 (value : UInt64)
  | int64 (value : Int64)
  | double (bits : UInt64)
deriving DecidableEq

/-- `StringValue()->value()` of the union, when both pointers are there. -/
def VData.text : VData → Option Text
  | .stringValue value => value
  | _ => none

structure KeyValuePair where
  key : Text
  value : VData
deriving DecidableEq

/-- The type of a section, an unsigned byte in the file; the last case holds the bytes
that the schema does not list. -/
inductive AnySectionDataType where
  | none
  | genericBinaryData
  | deprecated
  | tfLiteModel
  | spTokenizer
  | llmMetadataProto
  | hfTokenizerZlib
  | tfLiteWeights
  | unlisted (value : UInt8) (above : 8 ≤ value)
deriving DecidableEq

/-- The section types whose sections are told apart by a model type. -/
def AnySectionDataType.hasModelType : AnySectionDataType → Bool
  | .tfLiteModel => true
  | .tfLiteWeights => true
  | _ => false

/-- A section, which covers the bytes from `beginOffset` up to `endOffset`. -/
structure SectionObject where
  items : Option (List KeyValuePair)
  beginOffset : UInt64
  endOffset : UInt64
  dataType : AnySectionDataType
deriving DecidableEq

structure LiteRTLMMetaData where
  systemMetadata : Option (List KeyValuePair)
  sectionMetadata : Option (List SectionObject)
deriving DecidableEq

end LiteRTLM.Schema
