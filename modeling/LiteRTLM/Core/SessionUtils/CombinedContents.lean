import LiteRTLM.Core.SessionUtils.PromptTemplates
import LiteRTLM.Executor.LlmExecutor
import LiteRTLM.Util.ExecutorDataUtil

/-!
Contract: `ProcessAndCombineContents`, which is the same in `ExecutionManager` and
`SessionBasic`.

Owns: the token ids of preprocessed contents with the special tokens inserted for images and
audio, and the embeddings that are collected and combined for them.

Does not own: the encoders, the tokenizer, and the buffers of the runtime, which are parameters.
-/

namespace LiteRTLM.Core.SessionUtils

open LiteRTLM.Engine
open LiteRTLM.Executor
open LiteRTLM.Util

variable {Tensor Scalar : Type}

/-- `ExecutorAudioData::kEndToken`. -/
def audioEndToken : Int := -4

/-- The operations `ProcessAndCombineContents` calls. -/
structure ContentRuntime (Tensor Scalar : Type) where
  tokenIds : Tensor → StatusOr (List Int)
  encodeImage : Tensor → StatusOr (ExecutorData Scalar)
  encodeAudio : Tensor → StatusOr (ExecutorData Scalar)
  createManagedHostMemory : List Nat → Nat → Option Status
  tokenIdsToTensorBuffer : List Int → StatusOr Tensor

/-- The variables of the loop over the contents. -/
structure Gathered (Scalar : Type) where
  combinedTokenIds : List Int
  allImageData : List (ExecutorData Scalar)
  allAudioData : List (ExecutorData Scalar)
deriving DecidableEq, Repr

/-- `ExecutorInputs`, with the embeddings as tensors. -/
structure CombinedInputs (Tensor Scalar : Type) where
  tokenIds : Tensor
  visionData : Option (ExecutorData Scalar)
  audioData : Option (ExecutorData Scalar)
deriving DecidableEq, Repr

/-- The special tokens inserted for embeddings: for an image as many as its second last
dimension, for audio as many as it has valid tokens. -/
def insertedIds (modality : Modality) (item : ExecutorData Scalar) : StatusOr (List Int) :=
  match modality with
  | .vision => do
      let embeddings ← item.getEmbeddingsPtr .vision
      return List.replicate embeddings.tokenDimension visionSpecialToken
  | .audio => .ok (List.replicate item.validTokens audioSpecialToken ++ [audioEndToken])

/-- The body of the loop. -/
def gatherContent (runtime : ContentRuntime Tensor Scalar) (gathered : Gathered Scalar) :
    InputData Tensor → StatusOr (Gathered Scalar)
  | .text (.raw _) =>
      .error (.failedPreconditionError "The text is not preprocessed and does not have a tensor.")
  | .text (.tensorBuffer tensor) => do
      let ids ← runtime.tokenIds tensor
      return { gathered with combinedTokenIds := gathered.combinedTokenIds ++ ids }
  | .image (.raw _) =>
      .error (.failedPreconditionError "The image is not preprocessed and does not have a tensor.")
  | .image (.tensorBuffer tensor) => do
      let item ← runtime.encodeImage tensor
      let ids ← insertedIds .vision item
      return { gathered with
        combinedTokenIds := gathered.combinedTokenIds ++ ids
        allImageData := gathered.allImageData ++ [item] }
  | .audio (.raw _) =>
      .error (.failedPreconditionError "The audio is not preprocessed and does not have a tensor.")
  | .audio (.tensorBuffer tensor) => do
      let item ← runtime.encodeAudio tensor
      let ids ← insertedIds .audio item
      return { gathered with
        combinedTokenIds := gathered.combinedTokenIds ++ ids
        allAudioData := gathered.allAudioData ++ [item] }

/-- The embeddings of one kind, if there are any. -/
def combineGathered (runtime : ContentRuntime Tensor Scalar) (modality : Modality)
    (items : List (ExecutorData Scalar)) : StatusOr (Option (ExecutorData Scalar)) :=
  if items.isEmpty then .ok none
  else (combineExecutorData runtime.createManagedHostMemory modality items).map some

def processAndCombineContents (runtime : ContentRuntime Tensor Scalar)
    (preprocessedContents : List (InputData Tensor)) :
    StatusOr (CombinedInputs Tensor Scalar) := do
  let gathered ← preprocessedContents.foldlM (gatherContent runtime) ⟨[], [], []⟩
  if gathered.combinedTokenIds.isEmpty then
    throw (.invalidArgumentError "No token IDs found in preprocessed_contents.")
  else
    let visionData ← combineGathered runtime .vision gathered.allImageData
    let audioData ← combineGathered runtime .audio gathered.allAudioData
    let tokenIds ← runtime.tokenIdsToTensorBuffer gathered.combinedTokenIds
    return { tokenIds, visionData, audioData }

end LiteRTLM.Core.SessionUtils
