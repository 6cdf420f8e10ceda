import LiteRTLM.Executor.LlmExecutor
import LiteRTLM.Library.Outcome

/-!
Contract: `ResourceManager` and its context handlers.

Owns: context handlers and the processed contexts they share, the manager's
state, the functions that create, clone and acquire handlers, and a handler's
logical token history.

Does not own: LoRA loading and sampler parameters, the vision and audio
executors, and the locks. Every call of the executor may be made to fail.
-/

namespace LiteRTLM.Framework

open LiteRTLM.Engine
open LiteRTLM.Executor
open LiteRTLM.Library

variable {State Row Config : Type}

/-! ## Handlers and shared contexts -/

/-- `ContextHandler`. The shared processed context is a reference. -/
structure ContextHandler (Config : Type) where
  sharedProcessedContext : Nat
  runtimeConfig : Option Config
  runtimeState : Option RuntimeState

structure SharedProcessedContext (Row : Type) where
  handlers : List Nat
  processedContext : Option (List (Entry Row))

/-- The manager and the handlers it has given out. Handlers and shared contexts
are referred to by their index. -/
structure ResourceManager (State Row Config : Type) where
  handlers : List (ContextHandler Config)
  contexts : List (SharedProcessedContext Row)
  currentHandler : Option Nat
  executorState : State

abbrev ResourceManagerM (State Row Config : Type) :=
  EStateM Status (ResourceManager State Row Config)

/-- The errors the executor calls of one operation return; `none` is success. -/
structure ExecutorErrors where
  getRuntimeConfig : Option Status := none
  getRuntimeState : Option Status := none
  updateRuntimeConfig : Option Status := none
  updateRuntimeState : Option Status := none
  cloneContext : Option Status := none
  restoreContext : Option Status := none
  createNewContext : Option Status := none
  getCurrentStep : Option Status := none
  setCurrentStep : Option Status := none
  getProcessedTokens : Option Status := none
  prefill : Option Status := none
  decode : Option Status := none

namespace ResourceManager

/-! ## Elementary steps -/

def retCheck (condition : Prop) [Decidable condition] (text : String) :
    ResourceManagerM State Row Config Unit :=
  if condition then pure () else throw (.internalError text)

/-- `ASSIGN_OR_RETURN` of a value that does not involve the executor. -/
def returnIfError {α : Type} : StatusOr α → ResourceManagerM State Row Config α
  | .ok value => pure value
  | .error status => throw status

/-- A call of the executor that reads its state. -/
def askExecutor {α : Type} (error : Option Status) (query : State → α) :
    ResourceManagerM State Row Config α :=
  match error with
  | some status => throw status
  | none => do return query (← get).executorState

/-- A call of the executor that changes its state. -/
def runExecutor (error : Option Status) (operation : State → State) :
    ResourceManagerM State Row Config Unit :=
  match error with
  | some status => throw status
  | none => modify fun manager =>
      { manager with executorState := operation manager.executorState }

def getHandler (handler : Nat) : ResourceManagerM State Row Config (ContextHandler Config) := do
  match (← get).handlers[handler]? with
  | some contents => pure contents
  | none => throw (.internalError "The provided context handler should not be null.")

def getContext (context : Nat) :
    ResourceManagerM State Row Config (SharedProcessedContext Row) := do
  match (← get).contexts[context]? with
  | some contents => pure contents
  | none => throw (.internalError "The shared_processed_context is null.")

def updateHandler (handler : Nat) (change : ContextHandler Config → ContextHandler Config) :
    ResourceManagerM State Row Config Unit :=
  modify fun manager => { manager with handlers := manager.handlers.modify handler change }

def updateContext (context : Nat)
    (change : SharedProcessedContext Row → SharedProcessedContext Row) :
    ResourceManagerM State Row Config Unit :=
  modify fun manager => { manager with contexts := manager.contexts.modify context change }

/-! ## Methods of handlers and shared contexts -/

def retrieveRuntimeConfig (handler : Nat) : ResourceManagerM State Row Config Config := do
  match (← getHandler handler).runtimeConfig with
  | none => throw (.internalError "Runtime config not found.")
  | some runtimeConfig => do
      updateHandler handler fun contents => { contents with runtimeConfig := none }
      pure runtimeConfig

def retrieveRuntimeState (handler : Nat) : ResourceManagerM State Row Config RuntimeState := do
  match (← getHandler handler).runtimeState with
  | none => throw (.internalError "Runtime state not found.")
  | some runtimeState => do
      updateHandler handler fun contents => { contents with runtimeState := none }
      pure runtimeState

def setRuntimeConfig (handler : Nat) (runtimeConfig : Config) :
    ResourceManagerM State Row Config Unit :=
  updateHandler handler fun contents => { contents with runtimeConfig := some runtimeConfig }

def setRuntimeState (handler : Nat) (runtimeState : RuntimeState) :
    ResourceManagerM State Row Config Unit :=
  updateHandler handler fun contents => { contents with runtimeState := some runtimeState }

def setProcessedContext (context : Nat) (processedContext : List (Entry Row)) :
    ResourceManagerM State Row Config Unit := do
  retCheck ((← getContext context).processedContext = none)
    "The processed context is already set."
  updateContext context fun contents => { contents with processedContext := some processedContext }

/-- `RetrieveProcessedContext`; null when the executor holds the context. -/
def retrieveProcessedContext (context : Nat) :
    ResourceManagerM State Row Config (Option (List (Entry Row))) := do
  let processedContext := (← getContext context).processedContext
  updateContext context fun contents => { contents with processedContext := none }
  pure processedContext

def updateSharedProcessedContext (handler newContext : Nat) :
    ResourceManagerM State Row Config Unit := do
  let oldContext := (← getHandler handler).sharedProcessedContext
  if oldContext = newContext then
    pure ()
  else do
    updateContext oldContext fun contents =>
      { contents with handlers := contents.handlers.filter (· ≠ handler) }
    updateHandler handler fun contents => { contents with sharedProcessedContext := newContext }
    updateContext newContext fun contents =>
      { contents with handlers := contents.handlers ++ [handler] }

/-- The step of a handler: the executor's when the executor is using it. -/
def handlerStep (executor : LlmExecutor State Row Config) (executorState : State)
    (contents : ContextHandler Config) : Nat :=
  match contents.runtimeConfig with
  | none => executor.getCurrentStep executorState
  | some _ => (contents.runtimeState.map RuntimeState.currentStep).getD 0

def longestHandlerTimeStep (executor : LlmExecutor State Row Config) (errors : ExecutorErrors)
    (context : Nat) : ResourceManagerM State Row Config Nat := do
  let manager ← get
  let sharing := (← getContext context).handlers.filterMap fun handler =>
    manager.handlers[handler]?
  if sharing.any fun contents => contents.runtimeConfig.isNone then
    let _ ← askExecutor errors.getCurrentStep executor.getCurrentStep
  return (sharing.map (handlerStep executor manager.executorState)).foldl max 0

/-! ## Creating, cloning and acquiring handlers -/

def bundle (context : Nat) (runtimeConfig : Config) (runtimeState : RuntimeState) :
    ResourceManagerM State Row Config Unit := do
  let handler := (← get).handlers.length
  modify fun manager => { manager with
    handlers := manager.handlers ++ [⟨context, some runtimeConfig, some runtimeState⟩] }
  updateContext context fun contents => { contents with handlers := contents.handlers ++ [handler] }

/-- `CreateContextHandler`. The new handler is the last one. -/
def createContextHandler (executor : LlmExecutor State Row Config) (errors : ExecutorErrors)
    (runtimeConfig : Config) : ResourceManagerM State Row Config Unit := do
  let llmContext ← askExecutor errors.createNewContext (executor.createNewContext runtimeConfig)
  let context := (← get).contexts.length
  modify fun manager => { manager with
    contexts := manager.contexts ++ [⟨[], some llmContext.processedContext⟩] }
  bundle context llmContext.runtimeConfig llmContext.runtimeState

/-- `CloneContextHandler`. The new handler is the last one. -/
def cloneContextHandler (executor : LlmExecutor State Row Config) (errors : ExecutorErrors)
    (handler : Nat) : ResourceManagerM State Row Config Unit := do
  let contents ← getHandler handler
  match contents.runtimeConfig, contents.runtimeState with
  | some runtimeConfig, some runtimeState =>
      bundle contents.sharedProcessedContext runtimeConfig runtimeState
  | _, _ => do
      retCheck ((← get).currentHandler = some handler)
        ("The provided context handler does not have the runtime config and " ++
          "runtime state, assuming it is loaded by the manager, but the " ++
          "manager does not have the same handler.")
      let runtimeConfig ← askExecutor errors.getRuntimeConfig executor.getRuntimeConfig
      let runtimeState ← askExecutor errors.getRuntimeState executor.getRuntimeState
      bundle contents.sharedProcessedContext runtimeConfig runtimeState

/-- The switch between two handlers that share a processed context. -/
def switchSharing (executor : LlmExecutor State Row Config) (errors : ExecutorErrors)
    (current new : Nat) : ResourceManagerM State Row Config Unit := do
  let currentRuntimeConfig ← askExecutor errors.getRuntimeConfig executor.getRuntimeConfig
  let currentRuntimeState ← askExecutor errors.getRuntimeState executor.getRuntimeState
  setRuntimeConfig current currentRuntimeConfig
  setRuntimeState current currentRuntimeState
  let newRuntimeConfig ← retrieveRuntimeConfig new
  let newRuntimeState ← retrieveRuntimeState new
  runExecutor errors.updateRuntimeConfig (executor.updateRuntimeConfig newRuntimeConfig)
  runExecutor errors.updateRuntimeState (executor.updateRuntimeState newRuntimeState)

/-- Hands the executor's whole context back to the current handler. -/
def saveCurrent (executor : LlmExecutor State Row Config) (errors : ExecutorErrors)
    (current : Nat) : ResourceManagerM State Row Config Unit := do
  let currentContext ← askExecutor errors.cloneContext executor.cloneContext
  setRuntimeConfig current currentContext.runtimeConfig
  setRuntimeState current currentContext.runtimeState
  setProcessedContext (← getHandler current).sharedProcessedContext
    currentContext.processedContext

/-- Loads a handler's context into the executor. -/
def loadNew (executor : LlmExecutor State Row Config) (errors : ExecutorErrors)
    (new : Nat) : ResourceManagerM State Row Config Unit := do
  let newRuntimeConfig ← retrieveRuntimeConfig new
  let newRuntimeState ← retrieveRuntimeState new
  match ← retrieveProcessedContext (← getHandler new).sharedProcessedContext with
  | none => throw (.internalError "The processed context is null.")
  | some newProcessedContext =>
      runExecutor errors.restoreContext
        (executor.restoreContext ⟨newProcessedContext, newRuntimeConfig, newRuntimeState⟩)

def acquireExecutorWithContextHandler (executor : LlmExecutor State Row Config)
    (errors : ExecutorErrors) (new : Nat) : ResourceManagerM State Row Config Unit := do
  let newContext := (← getHandler new).sharedProcessedContext
  match (← get).currentHandler with
  | none => do
      loadNew executor errors new
      modify fun manager => { manager with currentHandler := some new }
  | some current => do
      if new = current then
        pure ()
      else do
        if newContext = (← getHandler current).sharedProcessedContext then
          switchSharing executor errors current new
        else do
          saveCurrent executor errors current
          loadNew executor errors new
        modify fun manager => { manager with currentHandler := some new }

/-! ## Logical histories -/

/-- The processed tokens of a shared context: the executor's when it holds them. -/
def contextEntries (executor : LlmExecutor State Row Config) (executorState : State)
    (contents : SharedProcessedContext Row) : List (Entry Row) :=
  contents.processedContext.getD (executor.getProcessedTokens executorState)

/-- The logical token history of a handler: the first tokens of its processed
context, up to its step. -/
def history (executor : LlmExecutor State Row Config)
    (manager : ResourceManager State Row Config) (handler : Nat) :
    Option (List (Entry Row)) := do
  let contents ← manager.handlers[handler]?
  let context ← manager.contexts[contents.sharedProcessedContext]?
  return (contextEntries executor manager.executorState context).take
    (handlerStep executor manager.executorState contents)

end ResourceManager

end LiteRTLM.Framework
