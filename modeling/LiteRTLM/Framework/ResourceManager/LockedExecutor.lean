import LiteRTLM.Framework.ResourceManager.State
import LiteRTLM.Library.Machine
import LiteRTLM.Library.PrefixMatching

/-!
Contract: `LockedLlmExecutor`, the executor a context handler acquires.

Owns: the removal of matching tokens, the separation of a handler from the
processed context it shares, prefill and both decodes, and the machine of all
calls of the resource manager.

Does not own: the operations of the wrapped executor, and the calls that are
forwarded to it unchanged.
-/

namespace LiteRTLM.Framework

open LiteRTLM.Engine
open LiteRTLM.Executor
open LiteRTLM.Library
open LiteRTLM.Library.PrefixMatching

variable {State Row Config : Type}

/-! ## Removing matching tokens -/

/-- `RemoveMatchingTokens`: the input ids that remain, and the step they start at. -/
def removeMatchingTokens (processedTokens inputIds : List Int) (timeStep : Int) :
    StatusOr (List Int × Int) :=
  if timeStep < 0 then
    .error (.internalError "Time step is negative.")
  else if processedTokens.length < timeStep then
    .error (.internalError "The processed tokens size is smaller than the time step.")
  else
    let processedTokensComparableLen := processedTokens.length - timeStep.toNat
    let comparisonLen := min inputIds.length processedTokensComparableLen
    let matchingTokens := commonPrefixLength (inputIds.take comparisonLen)
      (processedTokens.drop timeStep.toNat)
    .ok (inputIds.drop matchingTokens, timeStep + matchingTokens)

namespace ResourceManager

/-! ## Copy on write -/

def saveProcessedContextAndSeparateLoadedHandler (executor : LlmExecutor State Row Config)
    (errors : ExecutorErrors) (handler : Nat) : ResourceManagerM State Row Config Unit := do
  let contents ← getHandler handler
  let context ← getContext contents.sharedProcessedContext
  retCheck (contents.runtimeConfig = none ∧ contents.runtimeState = none ∧
      context.processedContext = none)
    ("The context_handler should not own any RuntimeState, RuntimeConfig and actual " ++
      "ProcessedContext within it, as they should all be owned by the llm_executor when " ++
      "calling SaveProcessedContextAndSeparateLoadedHandler.")
  let llmContext ← askExecutor errors.cloneContext executor.cloneContext
  setProcessedContext contents.sharedProcessedContext llmContext.processedContext
  let newContext := (← get).contexts.length
  modify fun manager => { manager with contexts := manager.contexts ++ [⟨[], none⟩] }
  updateSharedProcessedContext handler newContext

/-- Separates a handler that is not the longest of its shared processed context. -/
def separateUnlessLongest (executor : LlmExecutor State Row Config) (errors : ExecutorErrors)
    (handler : Nat) (currentStep : Int) : ResourceManagerM State Row Config Unit := do
  let contents ← getHandler handler
  let largestTimeStep ← longestHandlerTimeStep executor errors contents.sharedProcessedContext
  if largestTimeStep ≠ currentStep then
    saveProcessedContextAndSeparateLoadedHandler executor errors handler
  else
    pure ()

/-! ## Prefill and decode -/

/-- The part of `Prefill` after a successful `RemoveMatchingTokens`. -/
def prefillRemaining (executor : LlmExecutor State Row Config) (errors : ExecutorErrors)
    (handler : Nat) (remainingIds : List Int) (currentStep : Int) :
    ResourceManagerM State Row Config Unit := do
  if remainingIds = [] then
    runExecutor errors.setCurrentStep (executor.setCurrentStep currentStep)
  else do
    -- The rebuilt inputs hold the remaining ids and neither vision nor audio data.
    let newInputs : ExecutorInputs Row := .ofTokenIds remainingIds
    let newPrefillQueryParams : ExecutorPrefillParams := ⟨currentStep⟩
    let processedTokens ← askExecutor none executor.getProcessedTokens
    if processedTokens.length = currentStep then
      runExecutor errors.prefill (executor.prefill newInputs newPrefillQueryParams)
    else do
      separateUnlessLongest executor errors handler currentStep
      runExecutor errors.setCurrentStep (executor.setCurrentStep currentStep)
      runExecutor errors.prefill (executor.prefill newInputs newPrefillQueryParams)

def prefill (executor : LlmExecutor State Row Config) (errors : ExecutorErrors)
    (currentHandler : Option Nat) (inputs : ExecutorInputs Row)
    (prefillParams : ExecutorPrefillParams) : ResourceManagerM State Row Config Unit := do
  match currentHandler with
  | none => runExecutor errors.prefill (executor.prefill inputs prefillParams)
  | some handler => do
      let tokenIds ← returnIfError inputs.getTextTokenIds
      retCheck (tokenIds.batchSize = 1) ""
      if tokenIds.tokenIds = [] then
        pure ()
      else do
        let executorStep ← askExecutor errors.getCurrentStep executor.getCurrentStep
        let currentStep := prefillParams.stepFrom executorStep
        let processedTokens ← askExecutor errors.getProcessedTokens executor.getProcessedTokens
        if processedTokens.length = currentStep then
          runExecutor errors.prefill (executor.prefill inputs prefillParams)
        else do
          let remaining ← returnIfError
            (removeMatchingTokens (processedTokens.map Entry.id) tokenIds.tokenIds currentStep)
          prefillRemaining executor errors handler remaining.1 remaining.2

/-- `LockedLlmExecutor::Decode(output_tokens)`. -/
def decode (executor : LlmExecutor State Row Config) (errors : ExecutorErrors)
    (currentHandler : Option Nat) (generated : List (Entry Row)) :
    ResourceManagerM State Row Config Unit := do
  match currentHandler with
  | none => runExecutor errors.decode (executor.decode generated)
  | some handler => do
      let currentStep ← askExecutor errors.getCurrentStep executor.getCurrentStep
      let processedTokens ← askExecutor errors.getProcessedTokens executor.getProcessedTokens
      if processedTokens.length = currentStep then
        runExecutor errors.decode (executor.decode generated)
      else do
        separateUnlessLongest executor errors handler currentStep
        runExecutor errors.setCurrentStep (executor.setCurrentStep currentStep)
        runExecutor errors.decode (executor.decode generated)

/-- `LockedLlmExecutor::Decode(inputs, output_logits)`. -/
def decodeInputs (executor : LlmExecutor State Row Config) (errors : ExecutorErrors)
    (inputs : ExecutorInputs Row) : ResourceManagerM State Row Config Unit :=
  runExecutor errors.decode (executor.decodeInputs inputs)

/-! ## The machine -/

/-- A call of the manager, or of the executor its current handler has acquired. -/
inductive Call (Row Config : Type) where
  | createContextHandler (runtimeConfig : Config)
  | cloneContextHandler (handler : Nat)
  | acquireExecutorWithContextHandler (handler : Nat)
  | prefill (inputs : ExecutorInputs Row) (prefillParams : ExecutorPrefillParams)
  | decode (generated : List (Entry Row))
  | decodeInputs (inputs : ExecutorInputs Row)

def Call.throughExecutor : Call Row Config → Bool
  | .prefill _ _ | .decode _ | .decodeInputs _ => true
  | _ => false

/-- The program of a call. -/
def perform (executor : LlmExecutor State Row Config) (errors : ExecutorErrors)
    (currentHandler : Option Nat) : Call Row Config → ResourceManagerM State Row Config Unit
  | .createContextHandler runtimeConfig => createContextHandler executor errors runtimeConfig
  | .cloneContextHandler handler => cloneContextHandler executor errors handler
  | .acquireExecutorWithContextHandler handler =>
      acquireExecutorWithContextHandler executor errors handler
  | .prefill inputs prefillParams => prefill executor errors currentHandler inputs prefillParams
  | .decode generated => decode executor errors currentHandler generated
  | .decodeInputs inputs => decodeInputs executor errors inputs

/-- The manager under any sequence of calls, the executor's own calls succeeding. A
call that returns an error leaves the state it had reached. Calls through the
executor need a handler that has acquired it. -/
def machine (executor : LlmExecutor State Row Config) :
    Machine (ResourceManager State Row Config) (Call Row Config) where
  Initial manager :=
    manager.handlers = [] ∧ manager.contexts = [] ∧ manager.currentHandler = none
  step manager call :=
    if call.throughExecutor = true ∧ manager.currentHandler = none then
      none
    else
      some (finalState (perform executor {} manager.currentHandler call) manager)

end ResourceManager

end LiteRTLM.Framework
