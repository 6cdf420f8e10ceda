import LiteRTLM.Engine.Status
import LiteRTLM.Library.Blocks

/-!
Contract: `CombineExecutorVisionData` and `CombineExecutorAudioData`
(`executor_data_util.cc`).

Owns: embedding tensors with their layout, the layout of the combined tensor, which is made from
the first tensor, and the concatenation of the elements.

Does not own: the creation of a buffer, which is a parameter, and per-layer embeddings.

All embeddings have one element type, and sizes are counted in elements.
-/

namespace LiteRTLM.Util

open LiteRTLM.Engine
open LiteRTLM.Library

/-- A buffer of embeddings: the dimensions of its layout, and its elements. -/
structure EmbeddingTensor (Scalar : Type) where
  dimensions : List Nat
  data : List Scalar
deriving DecidableEq, Repr

/-- The element kinds of the two instances of `CombineExecutorDataImpl`. -/
inductive Modality where
  | vision
  | audio
deriving DecidableEq, Repr

/-- `ExecutorVisionData` or `ExecutorAudioData`; images do not use the number of valid tokens. -/
structure ExecutorData (Scalar : Type) where
  embeddings : Option (EmbeddingTensor Scalar)
  validTokens : Nat
deriving DecidableEq, Repr

variable {Scalar : Type}

def ExecutorData.getEmbeddingsPtr (modality : Modality) (item : ExecutorData Scalar) :
    StatusOr (EmbeddingTensor Scalar) :=
  match item.embeddings, modality with
  | some embeddings, _ => .ok embeddings
  | none, .vision => .error (.notFoundError "ExecutorVisionData::embeddings_ is not set.")
  | none, .audio => .error (.notFoundError "ExecutorAudioData::embeddings_ is not set.")

namespace EmbeddingTensor

/-- `dims[dims.size() - 2]`. -/
def tokenDimension (tensor : EmbeddingTensor Scalar) : Nat :=
  tensor.dimensions.getD (tensor.dimensions.length - 2) 0

def packedSize (tensor : EmbeddingTensor Scalar) : Nat :=
  tensor.dimensions.prod

end EmbeddingTensor

/-- A tensor of one of the items, whose rank is checked. -/
def rankedEmbeddings (modality : Modality) (item : ExecutorData Scalar) :
    StatusOr (EmbeddingTensor Scalar) := do
  let embeddings ← item.getEmbeddingsPtr modality
  if embeddings.dimensions.length ≠ 3 ∧ embeddings.dimensions.length ≠ 4 then
    throw (.invalidArgumentError "The embedding tensor type must have 3 or 4 dimensions.")
  else
    return embeddings

/-- The dimensions of the combined layout. Those of audio do not depend on the rank of the first
tensor. -/
def combinedDimensions (modality : Modality) (first : List Nat) (totalTokenNum : Nat) :
    List Nat :=
  match modality with
  | .audio => [first.getD 0 0, totalTokenNum, first.getD 2 0]
  | .vision =>
      if first.length = 3 then [first.getD 0 0, 1, totalTokenNum, first.getD 2 0]
      else if first.length = 4 then
        [first.getD 0 0, first.getD 1 0, totalTokenNum, first.getD 3 0]
      else []

/-- `CombineExecutorDataImpl`. A buffer for a layout and a number of elements is created, or
refused with a status. -/
def combineExecutorData (createManagedHostMemory : List Nat → Nat → Option Status)
    (modality : Modality) : List (ExecutorData Scalar) → StatusOr (ExecutorData Scalar)
  | [] => .error (.invalidArgumentError "Executor data is empty.")
  | [single] => .ok single
  | first :: second :: rest => do
      let items := first :: second :: rest
      let firstTensor ← first.getEmbeddingsPtr modality
      let tensors ← items.mapM (rankedEmbeddings modality)
      let totalTokenNum := (tensors.map EmbeddingTensor.tokenDimension).sum
      let totalPackedSize := (tensors.map EmbeddingTensor.packedSize).sum
      let dimensions := combinedDimensions modality firstTensor.dimensions totalTokenNum
      match createManagedHostMemory dimensions totalPackedSize with
      | some status => throw status
      | none =>
          let data := tensors.flatMap fun tensor => tensor.data.take tensor.packedSize
          return {
            embeddings := some { dimensions, data }
            validTokens :=
              match modality with
              | .vision => 0
              | .audio => (items.map ExecutorData.validTokens).sum }

end LiteRTLM.Util
