import LiteRTLM.Engine.Status

/-!
Contract: the executor interface the resource manager is written against.

Owns: executor inputs and what each of their tokens stands for, contexts, the
operations of an executor, and what the resource manager assumes of them.

Does not own: any executor. The operations are a parameter: the context
operations of the interface have no implementation in this repository.
-/

namespace LiteRTLM.Executor

open LiteRTLM.Engine

variable {State Row Config : Type}

/-! ## Inputs -/

/-- `ExecutorTextData`: token ids of shape `[batchSize, length]`. -/
structure ExecutorTextData where
  batchSize : Nat
  tokenIds : List Int
deriving DecidableEq, Repr

/-- `ExecutorInputs`. Vision and audio data are the rows of their embeddings. -/
structure ExecutorInputs (Row : Type) where
  textData : Option ExecutorTextData
  visionData : Option (List Row)
  audioData : Option (List Row)
deriving DecidableEq, Repr

/-- `ExecutorVisionData::kSpecialToken`. -/
def visionSpecialToken : Int := -1

/-- `ExecutorAudioData::kSpecialToken`. -/
def audioSpecialToken : Int := -2

/-- A processed token: its id and the embedding row it was computed from, if that
came from vision or audio data. -/
structure Entry (Row : Type) where
  id : Int
  row : Option Row
deriving DecidableEq, Repr

/-- Each special token stands for the next row of its modality; every other token,
and a special token without a row, is looked up by its id. -/
def entriesOf : List Int → List Row → List Row → List (Entry Row)
  | [], _, _ => []
  | id :: ids, visionRows, audioRows =>
      if id = visionSpecialToken then
        ⟨id, visionRows.head?⟩ :: entriesOf ids visionRows.tail audioRows
      else if id = audioSpecialToken then
        ⟨id, audioRows.head?⟩ :: entriesOf ids visionRows audioRows.tail
      else
        ⟨id, none⟩ :: entriesOf ids visionRows audioRows

namespace ExecutorInputs

/-- `GetTextTokenIdsPtr`. -/
def getTextTokenIds (inputs : ExecutorInputs Row) : StatusOr ExecutorTextData :=
  match inputs.textData with
  | some textData => .ok textData
  | none => .error (.notFoundError
      "ExecutorInputs::text_data_ is not set (required for TokenIds).")

/-- Inputs of text only, for one batch. -/
def ofTokenIds (tokenIds : List Int) : ExecutorInputs Row :=
  ⟨some ⟨1, tokenIds⟩, none, none⟩

/-- What the tokens of the inputs stand for. -/
def entries (inputs : ExecutorInputs Row) : List (Entry Row) :=
  match inputs.textData with
  | none => []
  | some textData =>
      entriesOf textData.tokenIds (inputs.visionData.getD []) (inputs.audioData.getD [])

end ExecutorInputs

/-- The step of `ExecutorPrefillParams`; the default is -1. -/
structure ExecutorPrefillParams where
  currentStep : Int
deriving DecidableEq, Repr

/-- The step a prefill with these parameters starts at. -/
def ExecutorPrefillParams.stepFrom (params : ExecutorPrefillParams) (current : Nat) : Int :=
  if params.currentStep ≠ -1 then params.currentStep else current

/-! ## The interface -/

structure RuntimeState where
  currentStep : Nat
deriving DecidableEq, Repr

structure LlmContext (Row Config : Type) where
  processedContext : List (Entry Row)
  runtimeConfig : Config
  runtimeState : RuntimeState

/-- The operations of `LlmExecutor` on its state. The tokens a decode generates
are given by the environment. -/
structure LlmExecutor (State Row Config : Type) where
  getProcessedTokens : State → List (Entry Row)
  getCurrentStep : State → Nat
  getRuntimeConfig : State → Config
  getRuntimeState : State → RuntimeState
  setCurrentStep : Int → State → State
  prefill : ExecutorInputs Row → ExecutorPrefillParams → State → State
  decode : List (Entry Row) → State → State
  decodeInputs : ExecutorInputs Row → State → State
  createNewContext : Config → State → LlmContext Row Config
  cloneContext : State → LlmContext Row Config
  restoreContext : LlmContext Row Config → State → State
  updateRuntimeConfig : Config → State → State
  updateRuntimeState : RuntimeState → State → State

namespace LlmExecutor

/-- An operation at `step` cuts the processed tokens there and appends `appended`. -/
structure AppendsAt (executor : LlmExecutor State Row Config) (step : Int)
    (appended : List (Entry Row)) (before after : State) : Prop where
  tokens : executor.getProcessedTokens after =
    (executor.getProcessedTokens before).take step.toNat ++ appended
  step : executor.getCurrentStep after = step.toNat + appended.length

/-- What the resource manager assumes of an executor: prefill and decode cut the
processed tokens at their step and append, `SetCurrentStep` moves the step, and
contexts copy and install the whole state. -/
structure Assumed (executor : LlmExecutor State Row Config) : Prop where
  setCurrentStep_tokens : ∀ step state,
    executor.getProcessedTokens (executor.setCurrentStep step state) =
      executor.getProcessedTokens state
  setCurrentStep_step : ∀ step state,
    executor.getCurrentStep (executor.setCurrentStep step state) = step.toNat
  prefill_appends : ∀ inputs params state,
    executor.AppendsAt (params.stepFrom (executor.getCurrentStep state)) inputs.entries
      state (executor.prefill inputs params state)
  decode_appends : ∀ generated state,
    executor.AppendsAt (executor.getCurrentStep state) generated state
      (executor.decode generated state)
  decodeInputs_appends : ∀ inputs state,
    executor.AppendsAt (executor.getCurrentStep state) inputs.entries state
      (executor.decodeInputs inputs state)
  createNewContext_step : ∀ config state,
    (executor.createNewContext config state).runtimeState.currentStep ≤
      (executor.createNewContext config state).processedContext.length
  getRuntimeState_step : ∀ state,
    (executor.getRuntimeState state).currentStep = executor.getCurrentStep state
  cloneContext_tokens : ∀ state,
    (executor.cloneContext state).processedContext = executor.getProcessedTokens state
  cloneContext_step : ∀ state,
    (executor.cloneContext state).runtimeState.currentStep = executor.getCurrentStep state
  restoreContext_tokens : ∀ context state,
    executor.getProcessedTokens (executor.restoreContext context state) =
      context.processedContext
  restoreContext_step : ∀ context state,
    executor.getCurrentStep (executor.restoreContext context state) =
      context.runtimeState.currentStep
  updateRuntimeConfig_tokens : ∀ config state,
    executor.getProcessedTokens (executor.updateRuntimeConfig config state) =
      executor.getProcessedTokens state
  updateRuntimeConfig_step : ∀ config state,
    executor.getCurrentStep (executor.updateRuntimeConfig config state) =
      executor.getCurrentStep state
  updateRuntimeState_tokens : ∀ runtimeState state,
    executor.getProcessedTokens (executor.updateRuntimeState runtimeState state) =
      executor.getProcessedTokens state
  updateRuntimeState_step : ∀ runtimeState state,
    executor.getCurrentStep (executor.updateRuntimeState runtimeState state) =
      runtimeState.currentStep

/-! ## The smallest executor -/

/-- A list of processed tokens and a step. -/
structure TokenState (Row : Type) where
  processedTokens : List (Entry Row)
  currentStep : Nat
deriving DecidableEq, Repr

/-- Cuts at a step and appends. -/
def TokenState.append (step : Nat) (appended : List (Entry Row)) (state : TokenState Row) :
    TokenState Row :=
  ⟨state.processedTokens.take step ++ appended, step + appended.length⟩

/-- An executor that only keeps its tokens and its step. -/
def tokenExecutor (Row : Type) : LlmExecutor (TokenState Row) Row Unit where
  getProcessedTokens state := state.processedTokens
  getCurrentStep state := state.currentStep
  getRuntimeConfig _ := ()
  getRuntimeState state := ⟨state.currentStep⟩
  setCurrentStep step state := { state with currentStep := step.toNat }
  prefill inputs params state :=
    state.append (params.stepFrom state.currentStep).toNat inputs.entries
  decode generated state := state.append state.currentStep generated
  decodeInputs inputs state := state.append state.currentStep inputs.entries
  createNewContext _ _ := ⟨[], (), ⟨0⟩⟩
  cloneContext state := ⟨state.processedTokens, (), ⟨state.currentStep⟩⟩
  restoreContext context _ := ⟨context.processedContext, context.runtimeState.currentStep⟩
  updateRuntimeConfig _ state := state
  updateRuntimeState runtimeState state := { state with currentStep := runtimeState.currentStep }

theorem tokenExecutor_assumed (Row : Type) : (tokenExecutor Row).Assumed := by
  constructor
  case prefill_appends => exact fun _ _ _ => ⟨rfl, rfl⟩
  case decode_appends => exact fun _ _ => ⟨rfl, rfl⟩
  case decodeInputs_appends => exact fun _ _ => ⟨rfl, rfl⟩
  all_goals intros; rfl

end LlmExecutor

end LiteRTLM.Executor
