import LiteRTLM.Components.EmbeddingLookup.EmbeddingLookups
import LiteRTLM.Library.Outcome

/-!
Contract: `EmbeddingLookupManager`.

Owns: the lookups of a model and the order in which they are asked, the multimodal
lookups of the prefill that is under way, and what is left of them after a failure.

Does not own: the single lookups.
-/

namespace LiteRTLM.Components.EmbeddingLookup

open LiteRTLM.Engine
open LiteRTLM.Library
open LiteRTLM.Library.Blocks

variable {Scalar : Type}

/-- `ExecutorVisionData::kSpecialToken`. -/
def ExecutorVisionData.specialToken : Int := -1

/-- `ExecutorAudioData::kSpecialToken`. -/
def ExecutorAudioData.specialToken : Int := -2

/-- `ExecutorAudioData::kEndToken`. -/
def ExecutorAudioData.endToken : Int := -4

/-- `EmbeddingLookupManager`, initialized. -/
structure EmbeddingLookupManager (Scalar : Type) where
  textEmbeddingLookup : EmbeddingLookupText Scalar
  multiModalEmbeddingLookups : List (EmbeddingLookupMultiModal Scalar)
  endOfMultiModalEmbeddingLookups : List (EndOfMultiModalEmbedding Scalar)
  fullySupportsMultiModal : Bool

abbrev ManagerM (Scalar : Type) := EStateM Status (EmbeddingLookupManager Scalar)

namespace EmbeddingLookupManager

/-- `default_embedding_vector_`: that of the text lookup. -/
def defaultEmbeddingVector (manager : EmbeddingLookupManager Scalar) : List Scalar :=
  manager.textEmbeddingLookup.defaultEmbeddingVector

def getFloatsPerToken (manager : EmbeddingLookupManager Scalar) : Nat :=
  manager.textEmbeddingLookup.getFloatsPerToken

/-- `RETURN_IF_ERROR`, `ASSIGN_OR_RETURN`. -/
def returnIfError {α : Type} : StatusOr α → ManagerM Scalar α
  | .ok value => pure value
  | .error status => throw status

@[simp]
theorem returnIfError_ok {α : Type} (value : α) :
    (returnIfError (.ok value) : ManagerM Scalar α) = pure value := rfl

theorem succeeds_returnIfError {α : Type} (result : StatusOr α) {value : α}
    {before after : EmbeddingLookupManager Scalar} :
    Succeeds (returnIfError result) before value after ↔ result = .ok value ∧ after = before := by
  cases result with
  | ok found => simp [eq_comm]
  | error status => simp [returnIfError]

/-! ## The lookups of one prefill -/

/-- The refusal of embeddings by a manager without multimodal support. -/
def multiModalNotSupported : Status :=
  .invalidArgumentError ("When fully_supports_multi_modal_ is false, multimodal embeddings must "
    ++ "not be provided. Their entries will be default to the 0th embedding value of the text "
    ++ "embedding table.")

/-- The embeddings of one modality become a lookup. -/
def addEmbeddings (embeddings : Option (List Scalar)) (specialToken : Int) :
    ManagerM Scalar Unit := do
  match embeddings with
  | none => pure ()
  | some embedding =>
      if (← get).fullySupportsMultiModal = false then
        throw multiModalNotSupported
      else
        modify fun manager => { manager with
          multiModalEmbeddingLookups :=
            manager.multiModalEmbeddingLookups ++ [⟨embedding, specialToken⟩] }

def updateMultiModalEmbeddings (vision audio : Option (List Scalar)) : ManagerM Scalar Unit := do
  addEmbeddings vision ExecutorVisionData.specialToken
  addEmbeddings audio ExecutorAudioData.specialToken

def cleanupMultiModalEmbeddings : ManagerM Scalar Unit :=
  modify fun manager => { manager with multiModalEmbeddingLookups := [] }

/-! ## Asking the lookups -/

/-- Multimodal lookups are asked one after the other; those behind a failing one are
not asked. -/
def askEach {Output : Type} (ask : Output → EmbeddingLookupMultiModal.LookupM Scalar Output) :
    List (EmbeddingLookupMultiModal Scalar) → Output →
      List (EmbeddingLookupMultiModal Scalar) × StatusOr Output
  | [], output => ([], .ok output)
  | lookup :: rest, output =>
      match ask output lookup with
      | .error status after => (after :: rest, .error status)
      | .ok written after =>
          let others := askEach ask rest written
          (after :: others.1, others.2)

def askMultiModal {Output : Type}
    (ask : Output → EmbeddingLookupMultiModal.LookupM Scalar Output) (output : Output) :
    ManagerM Scalar Output := do
  let asked := askEach ask (← get).multiModalEmbeddingLookups output
  modify fun manager => { manager with multiModalEmbeddingLookups := asked.1 }
  returnIfError asked.2

def askEnds {Output : Type}
    (ask : EndOfMultiModalEmbedding Scalar → Output → StatusOr Output) (output : Output) :
    ManagerM Scalar Output := do
  returnIfError ((← get).endOfMultiModalEmbeddingLookups.foldlM (fun written lookup =>
    ask lookup written) output)

/-- `LookupDecode` of one token into a vector. -/
def lookupDecode [Zero Scalar] (manager : EmbeddingLookupManager Scalar) (token : Int) :
    StatusOr (List Scalar) :=
  if token < 0 then
    .error (.invalidArgumentError "Multimodal embeddings are not supported during decode.")
  else
    manager.textEmbeddingLookup.lookupPrefillToken token
      (List.replicate manager.getFloatsPerToken 0)

/-- `LookupPrefill` of one token into a vector. -/
def lookupPrefillToken [Zero Scalar] (token : Int) : ManagerM Scalar (List Scalar) := do
  let manager ← get
  let outputVector := List.replicate manager.getFloatsPerToken 0
  if token ≥ 0 then
    returnIfError (manager.textEmbeddingLookup.lookupPrefillToken token outputVector)
  else if manager.fullySupportsMultiModal then do
    let written ← askMultiModal (EmbeddingLookupMultiModal.lookupPrefillToken token) outputVector
    askEnds (fun lookup => lookup.lookupPrefillToken token) written
  else
    return manager.defaultEmbeddingVector

/-- `LookupPrefill` of a span, from the row `tokenOffset`. Multimodal lookups that
are used up are removed. -/
def lookupPrefillSpan [Zero Scalar] (tokens : List Int) (output : OutputTensor Scalar)
    (tokenOffset : Nat) : ManagerM Scalar (OutputTensor Scalar) := do
  let manager ← get
  let offset := tokenOffset * manager.getFloatsPerToken
  let text ← returnIfError (manager.textEmbeddingLookup.lookupPrefillSpan tokens output offset)
  if manager.fullySupportsMultiModal then do
    let written ← askMultiModal (EmbeddingLookupMultiModal.lookupPrefillSpan tokens offset) text
    let ended ← askEnds (fun lookup => lookup.lookupPrefillSpan tokens offset) written
    modify fun manager => { manager with
      multiModalEmbeddingLookups := manager.multiModalEmbeddingLookups.filter
        EmbeddingLookupMultiModal.hasRemainingEmbeddings }
    return ended
  else do
    let rows := tokens.map fun token =>
      if token ≥ 0 then none else some manager.defaultEmbeddingVector
    modify fun manager => { manager with
      multiModalEmbeddingLookups := manager.multiModalEmbeddingLookups.filter
        EmbeddingLookupMultiModal.hasRemainingEmbeddings }
    return { text with
      contents := writeBlocks 0 manager.getFloatsPerToken rows offset text.contents }

end EmbeddingLookupManager

end LiteRTLM.Components.EmbeddingLookup
