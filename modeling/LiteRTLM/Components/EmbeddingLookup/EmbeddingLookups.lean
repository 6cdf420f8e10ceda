import LiteRTLM.Engine.Status
import LiteRTLM.Library.Blocks

/-!
Contract: `EmbeddingLookupText`, `EmbeddingLookupMultiModal` and
`EndOfMultiModalEmbedding`.

Owns: what each lookup writes for one token and for a span of tokens, the checks on
the output tensor, and the cursor of a multimodal lookup.

Does not own: the embedding models. A text lookup has the table its model computes,
an end lookup the embedding its model computed once. The numeric type is a
parameter; offsets and sizes are counted in numbers, four bytes each.
-/

namespace LiteRTLM.Components.EmbeddingLookup

open LiteRTLM.Engine
open LiteRTLM.Library.Blocks

variable {Scalar : Type}

/-! ## Output tensors -/

/-- A `TensorBuffer` that embeddings are written to. -/
structure OutputTensor (Scalar : Type) where
  isFloat32 : Bool
  dimensions : List Nat
  contents : List Scalar

/-- The numbers of one token: all dimensions from the third on. -/
def floatsPerToken (dimensions : List Nat) : Nat := (dimensions.drop 2).prod

/-- The first dimension from the third on in which two tensors differ. -/
def differentDimension (requested output : List Nat) : Option Nat :=
  ((List.range requested.length).drop 2).find? fun i => requested.getD i 0 ≠ output.getD i 0

/-- The checks on the dimensions of the output tensor. `reported` are the dimensions
the messages show as those of the model. -/
def checkPrefillOutput (model : String) (outputDimensions reported : List Nat)
    (tokenCount : Nat) (output : OutputTensor Scalar) : StatusOr Unit :=
  let requested := output.dimensions
  let requestedRank := requested.length
  let reportedRank := reported.length
  let requestedTokens := requested.getD 1 0
  if requestedRank ≠ outputDimensions.length then
    .error (.invalidArgumentError
      (s!"The output tensor from the {model} model must be have the same number of dimensions as "
        ++ s!"the requested tensor. Requested tensor dims: {requestedRank}. "
        ++ s!"Output tensor dims: {reportedRank}"))
  else if requestedRank < 3 then
    .error ⟨.unimplemented,
      s!"The output tensor provided to the {model} Lookup function must have  at least 3 dimensions."⟩
  else if outputDimensions.length < 3 then
    .error ⟨.unimplemented,
      s!"The output tensor from the {model} model must have at least 3 dimensions."⟩
  else if requested.getD 0 0 ≠ 1 then
    .error ⟨.unimplemented,
      s!"The output tensor to fill from the {model} model must be have the 0th dimension as 1. "
        ++ "Other sizes are not supported yet."⟩
  else if requestedTokens < tokenCount then
    .error (.invalidArgumentError
      (s!"The output tensor to fill from the {model} model must have a 1st dimension that is at "
        ++ s!"least the same size as the number of tokens. Requested tensor 1st dim: {requestedTokens}"
        ++ s!" but the number of tokens is {tokenCount}"))
  else
    match differentDimension requested outputDimensions with
    | none => .ok ()
    | some i =>
        let requestedSize := requested.getD i 0
        let reportedSize := reported.getD i 0
        .error (.invalidArgumentError
          (s!"The output tensor from the {model} model must be have the same dimensions as the "
            ++ s!"requested tensor for dims > 1. Requested tensor dim for {i}: {requestedSize}. "
            ++ s!"Output tensor dims: {reportedSize}"))

/-- The check that the rows of a span fit behind the offset. -/
def checkPrefillSize (floats tokenCount offset : Nat) (output : OutputTensor Scalar) :
    StatusOr Unit :=
  let byteOffset := 4 * offset
  let bytesPerToken := 4 * floats
  let outputBytes := 4 * output.contents.length
  if outputBytes < byteOffset + bytesPerToken * tokenCount then
    .error (.invalidArgumentError
      ("The byte offset and the total number of bytes to be written must not exceed the size of "
        ++ s!"the output tensor. Byte offset: {byteOffset}. Bytes per token: {bytesPerToken}. "
        ++ s!"Number of tokens: {tokenCount}. Output tensor bytes: {outputBytes}"))
  else
    .ok ()

/-! ## Text embeddings -/

/-- `EmbeddingLookupText`, initialized: a model whose output is the embedding of one
token. -/
structure EmbeddingLookupText (Scalar : Type) where
  outputDimensions : List Nat
  embedding : Nat → List Scalar
  sized : ∀ token, (embedding token).length = floatsPerToken outputDimensions
  positive : 0 < floatsPerToken outputDimensions

namespace EmbeddingLookupText

def getFloatsPerToken (lookup : EmbeddingLookupText Scalar) : Nat :=
  EmbeddingLookup.floatsPerToken lookup.outputDimensions

/-- `default_embedding_vector_`: the embedding of token 0. -/
def defaultEmbeddingVector (lookup : EmbeddingLookupText Scalar) : List Scalar :=
  lookup.embedding 0

/-- `LookupInternal`, on a buffer for one token. -/
def lookupInternal (lookup : EmbeddingLookupText Scalar) (token : Int) : List Scalar :=
  if token < 0 then lookup.defaultEmbeddingVector else lookup.embedding token.toNat

/-- `LookupPrefill` of one token into a vector; `LookupDecode` is the same. -/
def lookupPrefillToken (lookup : EmbeddingLookupText Scalar) (token : Int)
    (outputVector : List Scalar) : StatusOr (List Scalar) :=
  let expected := lookup.getFloatsPerToken
  let given := outputVector.length
  if given ≠ expected then
    .error (.invalidArgumentError
      s!"The text embedding lookup output vector must be of size {expected} but got {given}")
  else
    .ok (lookup.lookupInternal token)

/-- `LookupPrefill` of a span: the rows behind the last token are filled with the
default embedding. -/
def lookupPrefillSpan [Zero Scalar] (lookup : EmbeddingLookupText Scalar) (tokens : List Int)
    (output : OutputTensor Scalar) (offset : Nat) : StatusOr (OutputTensor Scalar) := do
  checkPrefillOutput "Embedding" lookup.outputDimensions lookup.outputDimensions tokens.length output
  checkPrefillSize lookup.getFloatsPerToken tokens.length offset output
  let startingToken := offset / lookup.getFloatsPerToken + tokens.length
  let rows := tokens.map lookup.lookupInternal ++
    List.replicate (output.dimensions.getD 1 0 - startingToken) lookup.defaultEmbeddingVector
  return { output with
    contents := writeBlocks 0 lookup.getFloatsPerToken (rows.map some) offset output.contents }

end EmbeddingLookupText

/-! ## Multimodal embeddings -/

/-- `EmbeddingLookupMultiModal`: the embeddings of a modality that are left. -/
structure EmbeddingLookupMultiModal (Scalar : Type) where
  embedding : List Scalar
  specialToken : Int

namespace EmbeddingLookupMultiModal

/-- A lookup that may fail half way keeps what it has used up. -/
abbrev LookupM (Scalar : Type) := EStateM Status (EmbeddingLookupMultiModal Scalar)

def hasRemainingEmbeddings (lookup : EmbeddingLookupMultiModal Scalar) : Bool :=
  !lookup.embedding.isEmpty

/-- The next numbers of the embeddings, which are used up by that. -/
def takeEmbedding (floats : Nat) : LookupM Scalar (List Scalar) := do
  let lookup ← get
  if lookup.embedding.length < floats then
    throw (.invalidArgumentError ("The embedding buffer is not large enough to contain the number "
      ++ "of requested tokens."))
  else do
    modify fun lookup => { lookup with embedding := lookup.embedding.drop floats }
    return lookup.embedding.take floats

/-- `LookupPrefill` of one token into a vector. -/
def lookupPrefillToken (token : Int) (outputVector : List Scalar) :
    LookupM Scalar (List Scalar) := do
  if token ≠ (← get).specialToken then
    return outputVector
  else
    takeEmbedding outputVector.length

/-- The rows a span takes from the embeddings, one for each special token. -/
def takeEmbeddings (floats : Nat) : List Int → LookupM Scalar (List (Option (List Scalar)))
  | [] => pure []
  | token :: rest => do
      if token = (← get).specialToken then do
        let row ← takeEmbedding floats
        return some row :: (← takeEmbeddings floats rest)
      else
        return none :: (← takeEmbeddings floats rest)

/-- The checks of `LookupPrefill` on the output tensor. -/
def checkOutput (tokenCount offset : Nat) (output : OutputTensor Scalar) : StatusOr Unit :=
  let requestedTokens := output.dimensions.getD 1 0
  if output.isFloat32 = false then
    .error ⟨.unimplemented,
      "The output tensor type for multimodal embedding lookup must be float32."⟩
  else if output.dimensions.length < 3 then
    .error ⟨.unimplemented, "The output tensor provided to the Embedding LookupPrefill function "
      ++ "must have at least 3 dimensions."⟩
  else if output.dimensions.getD 0 0 ≠ 1 then
    .error ⟨.unimplemented, "The output tensor to fill with the multimodal embeddings must be have "
      ++ "the 0th dimension as 1. Other sizes are not supported yet."⟩
  else if requestedTokens < tokenCount then
    .error (.invalidArgumentError
      ("The output tensor to fill from the multimodal embeddings must have a 1st dimension that is "
        ++ "at least the same size as the number of tokens. "
        ++ s!"Requested tensor 1st dim: {requestedTokens} but the number of tokens is {tokenCount}"))
  else
    checkPrefillSize (EmbeddingLookup.floatsPerToken output.dimensions) tokenCount offset output

/-- `LookupPrefill` of a span. The rows of other tokens are left as they are. -/
def lookupPrefillSpan [Zero Scalar] (tokens : List Int) (offset : Nat)
    (output : OutputTensor Scalar) : LookupM Scalar (OutputTensor Scalar) := do
  match checkOutput tokens.length offset output with
  | .error status => throw status
  | .ok _ => do
      let floats := EmbeddingLookup.floatsPerToken output.dimensions
      let rows ← takeEmbeddings floats tokens
      return { output with contents := writeBlocks 0 floats rows offset output.contents }

end EmbeddingLookupMultiModal

/-! ## End of a modality -/

/-- `EndOfMultiModalEmbedding`, initialized: the embedding of one special token. -/
structure EndOfMultiModalEmbedding (Scalar : Type) where
  specialToken : Int
  outputDimensions : List Nat
  endOfMultiModalEmbedding : List Scalar
  sized : endOfMultiModalEmbedding.length = floatsPerToken outputDimensions

namespace EndOfMultiModalEmbedding

/-- `LookupPrefill` of one token into a vector. -/
def lookupPrefillToken (lookup : EndOfMultiModalEmbedding Scalar) (token : Int)
    (outputVector : List Scalar) : StatusOr (List Scalar) :=
  let given := outputVector.length
  let expected := lookup.endOfMultiModalEmbedding.length
  if token ≠ lookup.specialToken then
    .ok outputVector
  else if given ≠ expected then
    .error (.invalidArgumentError
      ("The output vector is not the correct size for the end of multi-modal embedding. "
        ++ s!"Output vector size: {given}. End of multi-modal embedding size: {expected}"))
  else
    .ok lookup.endOfMultiModalEmbedding

/-- `LookupPrefill` of a span. The rows of other tokens are left as they are. -/
def lookupPrefillSpan [Zero Scalar] (lookup : EndOfMultiModalEmbedding Scalar)
    (tokens : List Int) (offset : Nat) (output : OutputTensor Scalar) :
    StatusOr (OutputTensor Scalar) := do
  checkPrefillOutput "EndOfMultiModalEmbedding" lookup.outputDimensions output.dimensions
    tokens.length output
  let floats := lookup.endOfMultiModalEmbedding.length
  checkPrefillSize floats tokens.length offset output
  let rows := tokens.map fun token =>
    if token = lookup.specialToken then some lookup.endOfMultiModalEmbedding else none
  return { output with contents := writeBlocks 0 floats rows offset output.contents }

end EndOfMultiModalEmbedding

end LiteRTLM.Components.EmbeddingLookup
