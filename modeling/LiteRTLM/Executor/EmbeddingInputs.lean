import LiteRTLM.Components.EmbeddingLookup.EmbeddingLookupManager
import LiteRTLM.Executor.ProcessedTokens

/-!
Contract: how the compiled-model executors fill the embeddings input of a model run.

Owns: `FillInputBufferWithToken`, and the lookups `PrefillInternal` makes for the ids
of one work group: the row of the pending token, the span of all ids but the last, and
the embedding that the last id keeps as the next pending token.

Does not own: the lookups themselves, positions, masks and caches. The number whose
bits are those of a token id is a parameter.
-/

namespace LiteRTLM.Executor.EmbeddingInputs

open LiteRTLM.Engine
open LiteRTLM.Components.EmbeddingLookup
open LiteRTLM.Components.EmbeddingLookup.EmbeddingLookupManager

variable {Scalar : Type}

/-- The numbers that are written for one token. -/
def fillValues (rawId : Int → Scalar) (isPerLayerEmbedding : Bool) (token : TokenData Scalar) :
    List Scalar :=
  if token.embedding.isEmpty then [rawId token.id]
  else if isPerLayerEmbedding then token.perLayerEmbedding
  else token.embedding

variable [Zero Scalar]

/-- `FillInputBufferWithToken`: each candidate's token has an equal share of the
buffer, filled up with zeros. -/
def fillInputBufferWithToken (rawId : Int → Scalar) (isPerLayerEmbedding : Bool)
    (unprocessedToken : List (TokenData Scalar)) (input : OutputTensor Scalar) :
    StatusOr (OutputTensor Scalar) :=
  let stride := input.contents.length / unprocessedToken.length
  if unprocessedToken.isEmpty then
    .error (.invalidArgumentError "Unprocessed token is null.")
  else if unprocessedToken.all fun token =>
      (fillValues rawId isPerLayerEmbedding token).length ≤ stride then
    .ok { input with
      contents :=
        (unprocessedToken.flatMap fun token =>
          fillValues rawId isPerLayerEmbedding token ++
            List.replicate (stride - (fillValues rawId isPerLayerEmbedding token).length) 0) ++
          input.contents.drop (unprocessedToken.length * stride) }
  else
    .error (.internalError "stride >= size_to_fill")

/-- What `PrefillInternal` does with the ids of one work group: the pending token it
found, the embeddings input of its run if there is one, and the token it leaves
pending. -/
structure PrefilledGroup (Scalar : Type) where
  pending : Option (TokenData Scalar)
  ids : List Int
  input : Option (OutputTensor Scalar)
  lastInputToken : TokenData Scalar

/-- The pending token, if there is one, fills the first row. -/
def fillPendingInputToken (rawId : Int → Scalar) (pending : Option (TokenData Scalar))
    (input : OutputTensor Scalar) : StatusOr (OutputTensor Scalar) :=
  match pending with
  | none => .ok input
  | some token => fillInputBufferWithToken rawId false [token] input

/-- The lookups of `PrefillInternal`. Its callers never pass an empty span. -/
def prefillInternalEmbeddings (rawId : Int → Scalar) (pending : Option (TokenData Scalar))
    (ids : List Int) (input : OutputTensor Scalar) : ManagerM Scalar (PrefilledGroup Scalar) :=
  match ids.getLast? with
  | none => throw (.internalError "ids is empty")
  | some last =>
      if pending.isNone ∧ ids.length = 1 then
        -- nothing to run yet: the only id becomes the pending token
        return ⟨pending, ids, none, TokenData.ofId last⟩
      else do
        let filled ← returnIfError (fillPendingInputToken rawId pending input)
        let written ← lookupPrefillSpan ids.dropLast filled pending.toList.length
        let embedding ← lookupPrefillToken last
        return ⟨pending, ids, some written, { TokenData.ofId last with embedding }⟩

/-- The lookups of the work groups of a prefill, each with the input of its run. -/
def prefillEmbeddings (rawId : Int → Scalar) :
    Option (TokenData Scalar) → List (List Int × OutputTensor Scalar) →
      ManagerM Scalar (List (PrefilledGroup Scalar))
  | _, [] => pure []
  | pending, (ids, input) :: rest => do
      let group ← prefillInternalEmbeddings rawId pending ids input
      return group :: (← prefillEmbeddings rawId (some group.lastInputToken) rest)

/-- The lookups of a prefill with these vision and audio embeddings. -/
def prefillWithEmbeddings (rawId : Int → Scalar) (vision audio : Option (List Scalar))
    (pending : Option (TokenData Scalar)) (groups : List (List Int × OutputTensor Scalar)) :
    ManagerM Scalar (List (PrefilledGroup Scalar)) := do
  updateMultiModalEmbeddings vision audio
  prefillEmbeddings rawId pending groups

end LiteRTLM.Executor.EmbeddingInputs
