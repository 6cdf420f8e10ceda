import LiteRTLM.Framework.ResourceManager.LockedExecutor

/-!
Contract: what holds between the calls of a resource manager.

Owns: the tokens and the step of a handler as one value, the consistency of a
manager, and the elementary changes of a manager that keep it and that value.

Does not own: the calls that make these changes.
-/

namespace LiteRTLM.Framework.ResourceManager

open LiteRTLM.Engine
open LiteRTLM.Executor
open LiteRTLM.Library

variable {State Row Config : Type}

/-! ## Views -/

/-- What a handler stands for: the tokens of its processed context, and its step. -/
structure View (Row : Type) where
  entries : List (Entry Row)
  step : Nat

/-- The view of a handler, wherever its parts are held. -/
def view (executor : LlmExecutor State Row Config)
    (manager : ResourceManager State Row Config) (handler : Nat) : Option (View Row) := do
  let contents ← manager.handlers[handler]?
  let context ← manager.contexts[contents.sharedProcessedContext]?
  return ⟨contextEntries executor manager.executorState context,
    handlerStep executor manager.executorState contents⟩

theorem history_eq_view (executor : LlmExecutor State Row Config)
    (manager : ResourceManager State Row Config) (handler : Nat) :
    history executor manager handler =
      (view executor manager handler).map fun view => view.entries.take view.step := by
  simp [history, view, Option.map_bind]

/-- The handlers of the first manager stand for the same in the second. -/
def SameViews (executor : LlmExecutor State Row Config)
    (before after : ResourceManager State Row Config) : Prop :=
  ∀ handler < before.handlers.length, view executor after handler = view executor before handler

/-! ## Consistency -/

/-- The processed context of the current handler. -/
def currentContext (manager : ResourceManager State Row Config) : Option Nat := do
  let handler ← manager.currentHandler
  let contents ← manager.handlers[handler]?
  return contents.sharedProcessedContext

/-- Handlers and shared contexts refer to each other. -/
structure Linked (manager : ResourceManager State Row Config) : Prop where
  context_valid : ∀ {handler : Nat} {contents : ContextHandler Config},
    manager.handlers[handler]? = some contents →
      contents.sharedProcessedContext < manager.contexts.length
  listed : ∀ {index : Nat} {context : SharedProcessedContext Row} (handler : Nat),
    manager.contexts[index]? = some context →
      (handler ∈ context.handlers ↔
        manager.handlers[handler]?.map ContextHandler.sharedProcessedContext = some index)
  current_valid : ∀ {handler : Nat}, manager.currentHandler = some handler →
    handler < manager.handlers.length

/-- The executor owns what belongs to the current handler; everything else is owned
by the handlers and their contexts. -/
structure Owned (manager : ResourceManager State Row Config) : Prop where
  loaded : ∀ {handler : Nat} {contents : ContextHandler Config},
    manager.handlers[handler]? = some contents → manager.currentHandler = some handler →
      contents.runtimeConfig = none ∧ contents.runtimeState = none
  unloaded : ∀ {handler : Nat} {contents : ContextHandler Config},
    manager.handlers[handler]? = some contents → manager.currentHandler ≠ some handler →
      contents.runtimeConfig.isSome ∧ contents.runtimeState.isSome
  context : ∀ {index : Nat} {context : SharedProcessedContext Row},
    manager.contexts[index]? = some context →
      (context.processedContext = none ↔ manager.currentContext = some index)

/-- No handler's step lies beyond the tokens of its processed context. -/
def Within (executor : LlmExecutor State Row Config)
    (manager : ResourceManager State Row Config) : Prop :=
  ∀ handler view, manager.view executor handler = some view → view.step ≤ view.entries.length

/-- What holds between two calls, whatever the calls were. -/
structure Consistent (manager : ResourceManager State Row Config) : Prop extends
    Linked manager, Owned manager

/-! ## Lookups -/

section Lookups

variable {executor : LlmExecutor State Row Config} {manager : ResourceManager State Row Config}

theorem currentContext_eq_some_iff {index : Nat} :
    manager.currentContext = some index ↔
      ∃ handler contents, manager.currentHandler = some handler ∧
        manager.handlers[handler]? = some contents ∧ contents.sharedProcessedContext = index := by
  simp [currentContext, Option.bind_eq_some_iff]

theorem Linked.exists_context (linked : manager.Linked) {handler : Nat}
    {contents : ContextHandler Config} (found : manager.handlers[handler]? = some contents) :
    ∃ context, manager.contexts[contents.sharedProcessedContext]? = some context :=
  ⟨_, List.getElem?_eq_getElem (linked.context_valid found)⟩

theorem view_eq_some_iff {handler : Nat} {seen : View Row} :
    manager.view executor handler = some seen ↔
      ∃ contents context, manager.handlers[handler]? = some contents ∧
        manager.contexts[contents.sharedProcessedContext]? = some context ∧
        ⟨contextEntries executor manager.executorState context,
          handlerStep executor manager.executorState contents⟩ = seen := by
  simp [view, Option.bind_eq_some_iff]

theorem view_eq_some {handler : Nat} {contents : ContextHandler Config}
    {context : SharedProcessedContext Row}
    (found : manager.handlers[handler]? = some contents)
    (foundContext : manager.contexts[contents.sharedProcessedContext]? = some context) :
    manager.view executor handler =
      some ⟨contextEntries executor manager.executorState context,
        handlerStep executor manager.executorState contents⟩ := by
  simp [view, found, foundContext]

/-- Handlers stand for the same when each finds the same tokens and the same step. -/
theorem Linked.sameViews (linked : manager.Linked) {after : ResourceManager State Row Config}
    (same : ∀ {handler : Nat} {contents : ContextHandler Config}
      {context : SharedProcessedContext Row}, manager.handlers[handler]? = some contents →
      manager.contexts[contents.sharedProcessedContext]? = some context →
      ∃ contents' context', after.handlers[handler]? = some contents' ∧
        after.contexts[contents'.sharedProcessedContext]? = some context' ∧
        contextEntries executor after.executorState context' =
          contextEntries executor manager.executorState context ∧
        handlerStep executor after.executorState contents' =
          handlerStep executor manager.executorState contents) :
    SameViews executor manager after := by
  intro handler valid
  have found := List.getElem?_eq_getElem valid
  obtain ⟨context, foundContext⟩ := linked.exists_context found
  obtain ⟨contents', context', found', foundContext', entries, step⟩ := same found foundContext
  rw [view_eq_some found foundContext, view_eq_some found' foundContext', entries, step]

/-- Handlers that stand for the same as before stay within their tokens. -/
theorem Within.of_sameViews {after : ResourceManager State Row Config}
    (within : manager.Within executor) (same : SameViews executor manager after)
    (new : ∀ handler seen, manager.handlers.length ≤ handler →
      after.view executor handler = some seen → seen.step ≤ seen.entries.length) :
    after.Within executor := by
  intro handler seen found
  by_cases old : handler < manager.handlers.length
  · rw [same handler old] at found
    exact within handler seen found
  · exact new handler seen (by omega) found

/-- Without new handlers there is nothing else to check. -/
theorem Within.of_sameViews_of_length {after : ResourceManager State Row Config}
    (within : manager.Within executor) (same : SameViews executor manager after)
    (length : after.handlers.length = manager.handlers.length) : after.Within executor := by
  apply within.of_sameViews same
  intro handler seen new found
  obtain ⟨contents, _, inHandlers, -⟩ := view_eq_some_iff.mp found
  have valid := (List.getElem?_eq_some_iff.mp inHandlers).1
  omega

end Lookups

/-! ## New handlers and contexts -/

/-- A context that no handler refers to yet. -/
def addContext (manager : ResourceManager State Row Config)
    (processedContext : List (Entry Row)) : ResourceManager State Row Config :=
  { manager with contexts := manager.contexts ++ [⟨[], some processedContext⟩] }

def addHandler (manager : ResourceManager State Row Config) (index : Nat)
    (runtimeConfig : Config) (runtimeState : RuntimeState) : ResourceManager State Row Config :=
  { manager with
    handlers := manager.handlers ++ [⟨index, some runtimeConfig, some runtimeState⟩]
    contexts := manager.contexts.modify index fun context =>
      { context with handlers := context.handlers ++ [manager.handlers.length] } }

section NewHandlers

variable {executor : LlmExecutor State Row Config} {manager : ResourceManager State Row Config}

theorem Linked.sameViews_addContext (linked : manager.Linked)
    (executor : LlmExecutor State Row Config) (processedContext : List (Entry Row)) :
    SameViews executor manager (manager.addContext processedContext) := by
  intro handler valid
  have found := List.getElem?_eq_getElem valid
  simp only [view, addContext, found, Option.bind_eq_bind, Option.bind_some,
    List.getElem?_append_left (linked.context_valid found)]

theorem Consistent.addContext (consistent : manager.Consistent)
    (processedContext : List (Entry Row)) :
    (manager.addContext processedContext).Consistent where
  context_valid found := by
    have valid := consistent.context_valid found
    simp only [ResourceManager.addContext, List.length_append, List.length_singleton]
    omega
  listed handler found := by
    have listed := @consistent.listed
    have valid := @consistent.context_valid
    simp only [ResourceManager.addContext] at found ⊢
    grind
  current_valid := consistent.current_valid
  loaded := consistent.loaded
  unloaded := consistent.unloaded
  context found := by
    have owned := @consistent.context
    have valid := @consistent.context_valid
    simp only [ResourceManager.addContext, currentContext_eq_some_iff] at *
    grind

theorem Linked.sameViews_addHandler (linked : manager.Linked) (index : Nat)
    (runtimeConfig : Config) (runtimeState : RuntimeState) :
    SameViews executor manager (manager.addHandler index runtimeConfig runtimeState) := by
  intro handler valid
  have found := List.getElem?_eq_getElem valid
  obtain ⟨context, foundContext⟩ := linked.exists_context found
  rw [view_eq_some found foundContext]
  simp only [view, addHandler, List.getElem?_append_left valid, found, List.getElem?_modify,
    foundContext, Option.bind_eq_bind, Option.bind_some, Option.map_eq_map, Option.map_some]
  split <;> rfl

theorem Consistent.addHandler (consistent : manager.Consistent) {index : Nat}
    {context : SharedProcessedContext Row} (foundContext : manager.contexts[index]? = some context)
    (runtimeConfig : Config) (runtimeState : RuntimeState) :
    (manager.addHandler index runtimeConfig runtimeState).Consistent where
  context_valid found := by
    have valid := @consistent.context_valid
    simp only [ResourceManager.addHandler] at *
    grind
  listed handler found := by
    have listed := @consistent.listed
    have valid := @consistent.context_valid
    simp only [ResourceManager.addHandler] at *
    grind
  current_valid := by
    have valid := @consistent.current_valid
    simp only [ResourceManager.addHandler] at *
    grind
  loaded := by
    have loaded := @consistent.loaded
    have valid := @consistent.current_valid
    simp only [ResourceManager.addHandler] at *
    grind
  unloaded := by
    have unloaded := @consistent.unloaded
    simp only [ResourceManager.addHandler] at *
    grind
  context found := by
    have owned := @consistent.context
    have valid := @consistent.current_valid
    simp only [ResourceManager.addHandler, currentContext_eq_some_iff] at *
    grind

theorem Within.addHandler (within : manager.Within executor) (linked : manager.Linked)
    {index : Nat} {context : SharedProcessedContext Row}
    (foundContext : manager.contexts[index]? = some context)
    (runtimeConfig : Config) {runtimeState : RuntimeState}
    (step : runtimeState.currentStep ≤
      (contextEntries executor manager.executorState context).length) :
    (manager.addHandler index runtimeConfig runtimeState).Within executor := by
  apply within.of_sameViews (linked.sameViews_addHandler index runtimeConfig runtimeState)
  intro handler seen new found
  obtain ⟨contents, newContext, inHandlers, inContexts, rfl⟩ := view_eq_some_iff.mp found
  simp only [ResourceManager.addHandler, contextEntries, handlerStep] at *
  grind

end NewHandlers

/-! ## Handing over -/

/-- The executor's context, handed back to the current handler. -/
def unload (executor : LlmExecutor State Row Config) (manager : ResourceManager State Row Config)
    (handler index : Nat) (runtimeConfig : Config) (runtimeState : RuntimeState) :
    ResourceManager State Row Config :=
  { manager with
    handlers := manager.handlers.modify handler fun contents =>
      { contents with runtimeConfig := some runtimeConfig, runtimeState := some runtimeState }
    contexts := manager.contexts.modify index fun context =>
      { context with processedContext := some (executor.getProcessedTokens manager.executorState) }
    currentHandler := none }

/-- A handler's context, moved to the executor. -/
def load (manager : ResourceManager State Row Config) (handler index : Nat)
    (executorState : State) : ResourceManager State Row Config :=
  { manager with
    handlers := manager.handlers.modify handler fun contents =>
      { contents with runtimeConfig := none, runtimeState := none }
    contexts := manager.contexts.modify index fun context =>
      { context with processedContext := none }
    currentHandler := some handler
    executorState := executorState }

section HandingOver

variable {executor : LlmExecutor State Row Config} {manager : ResourceManager State Row Config}
  {handler : Nat} {contents : ContextHandler Config}

theorem Consistent.sameViews_unload (consistent : manager.Consistent)
    (current : manager.currentHandler = some handler)
    (found : manager.handlers[handler]? = some contents) (runtimeConfig : Config)
    {runtimeState : RuntimeState}
    (step : runtimeState.currentStep = executor.getCurrentStep manager.executorState) :
    SameViews executor manager
      (manager.unload executor handler contents.sharedProcessedContext runtimeConfig
        runtimeState) := by
  have loaded := consistent.loaded found current
  have owned := @consistent.context
  simp only [currentContext_eq_some_iff] at owned
  apply consistent.sameViews
  intro other otherContents otherContext otherFound otherFoundContext
  refine ⟨if handler = other then ⟨otherContents.sharedProcessedContext, some runtimeConfig,
      some runtimeState⟩ else otherContents,
    if contents.sharedProcessedContext = otherContents.sharedProcessedContext then
      ⟨otherContext.handlers, some (executor.getProcessedTokens manager.executorState)⟩
    else otherContext, ?_, ?_, ?_, ?_⟩
  · simp only [unload]
    grind
  · simp only [unload]
    grind
  · simp only [unload, contextEntries]
    grind
  · simp only [unload, handlerStep]
    grind

theorem Consistent.unload (consistent : manager.Consistent)
    (current : manager.currentHandler = some handler)
    (found : manager.handlers[handler]? = some contents) (runtimeConfig : Config)
    (runtimeState : RuntimeState) :
    (manager.unload executor handler contents.sharedProcessedContext runtimeConfig
      runtimeState).Consistent where
  context_valid found := by
    have valid := @consistent.context_valid
    simp only [ResourceManager.unload] at *
    grind
  listed handler found := by
    have listed := @consistent.listed
    simp only [ResourceManager.unload] at *
    grind
  current_valid := by
    simp [ResourceManager.unload]
  loaded := by
    simp [ResourceManager.unload]
  unloaded found _ := by
    have unloaded := @consistent.unloaded
    simp only [ResourceManager.unload] at *
    grind
  context found := by
    have owned := @consistent.context
    simp only [ResourceManager.unload, currentContext_eq_some_iff] at *
    grind

theorem Consistent.sameViews_load (consistent : manager.Consistent)
    (unused : manager.currentHandler = none)
    (found : manager.handlers[handler]? = some contents)
    {runtimeState : RuntimeState} (ownState : contents.runtimeState = some runtimeState)
    {context : SharedProcessedContext Row}
    (foundContext : manager.contexts[contents.sharedProcessedContext]? = some context)
    {processedContext : List (Entry Row)} (ownTokens : context.processedContext = some processedContext)
    {executorState : State} (tokens : executor.getProcessedTokens executorState = processedContext)
    (step : executor.getCurrentStep executorState = runtimeState.currentStep) :
    SameViews executor manager
      (manager.load handler contents.sharedProcessedContext executorState) := by
  apply consistent.sameViews
  intro other otherContents otherContext otherFound otherFoundContext
  have otherUnloaded := consistent.unloaded otherFound (by simp [unused])
  obtain ⟨otherTokens, otherOwnTokens⟩ : ∃ tokens, otherContext.processedContext = some tokens := by
    apply Option.ne_none_iff_exists'.mp
    rw [ne_eq, consistent.context otherFoundContext]
    simp [currentContext, unused]
  refine ⟨if handler = other then ⟨otherContents.sharedProcessedContext, none, none⟩
      else otherContents,
    if contents.sharedProcessedContext = otherContents.sharedProcessedContext then
      ⟨otherContext.handlers, none⟩
    else otherContext, ?_, ?_, ?_, ?_⟩
  · simp only [load]
    grind
  · simp only [load]
    grind
  · simp only [load, contextEntries]
    grind
  · simp only [load, handlerStep]
    grind

theorem Consistent.load (consistent : manager.Consistent)
    (unused : manager.currentHandler = none)
    (found : manager.handlers[handler]? = some contents) (executorState : State) :
    (manager.load handler contents.sharedProcessedContext executorState).Consistent where
  context_valid found := by
    have valid := @consistent.context_valid
    simp only [ResourceManager.load] at *
    grind
  listed handler found := by
    have listed := @consistent.listed
    simp only [ResourceManager.load] at *
    grind
  current_valid current := by
    simp only [ResourceManager.load] at *
    grind
  loaded found current := by
    simp only [ResourceManager.load] at *
    grind
  unloaded found current := by
    have unloaded := @consistent.unloaded
    simp only [ResourceManager.load] at *
    grind
  context found := by
    have owned := @consistent.context
    simp only [ResourceManager.load, currentContext_eq_some_iff] at *
    grind

end HandingOver

/-! ## Separation -/

/-- The current handler moves to a processed context of its own; the executor's tokens
stay behind in the one it leaves. -/
def separate (executor : LlmExecutor State Row Config)
    (manager : ResourceManager State Row Config) (handler index : Nat) :
    ResourceManager State Row Config :=
  { manager with
    handlers := manager.handlers.modify handler fun contents =>
      { contents with sharedProcessedContext := manager.contexts.length }
    contexts := (manager.contexts.modify index fun context =>
        ⟨context.handlers.filter (· ≠ handler),
          some (executor.getProcessedTokens manager.executorState)⟩) ++ [⟨[handler], none⟩] }

section Separation

variable {executor : LlmExecutor State Row Config} {manager : ResourceManager State Row Config}
  {handler : Nat} {contents : ContextHandler Config}

theorem Consistent.sameViews_separate (consistent : manager.Consistent)
    (executor : LlmExecutor State Row Config) (current : manager.currentHandler = some handler)
    (found : manager.handlers[handler]? = some contents) :
    SameViews executor manager
      (manager.separate executor handler contents.sharedProcessedContext) := by
  have loaded := consistent.loaded found current
  have owned := @consistent.context
  have valid := @consistent.context_valid
  simp only [currentContext_eq_some_iff] at owned
  apply consistent.sameViews
  intro other otherContents otherContext otherFound otherFoundContext
  refine ⟨if handler = other then { otherContents with
        sharedProcessedContext := manager.contexts.length } else otherContents,
    if handler = other then ⟨[handler], none⟩
    else if contents.sharedProcessedContext = otherContents.sharedProcessedContext then
      ⟨otherContext.handlers.filter (· ≠ handler),
        some (executor.getProcessedTokens manager.executorState)⟩
    else otherContext, ?_, ?_, ?_, ?_⟩
  · simp only [separate]
    grind
  · simp only [separate]
    grind
  · simp only [separate, contextEntries]
    grind
  · simp only [separate, handlerStep]
    grind

theorem Consistent.separate (consistent : manager.Consistent)
    (current : manager.currentHandler = some handler)
    (found : manager.handlers[handler]? = some contents) :
    (manager.separate executor handler contents.sharedProcessedContext).Consistent where
  context_valid found := by
    have valid := @consistent.context_valid
    simp only [ResourceManager.separate] at *
    grind
  listed handler found := by
    have listed := @consistent.listed
    have valid := @consistent.context_valid
    simp only [ResourceManager.separate] at *
    grind
  current_valid current := by
    have valid := @consistent.current_valid
    simp only [ResourceManager.separate] at *
    grind
  loaded found current := by
    have loaded := @consistent.loaded
    simp only [ResourceManager.separate] at *
    grind
  unloaded found current := by
    have unloaded := @consistent.unloaded
    simp only [ResourceManager.separate] at *
    grind
  context found := by
    have owned := @consistent.context
    have valid := @consistent.context_valid
    simp only [ResourceManager.separate, currentContext_eq_some_iff] at *
    grind

/-- No other handler uses the processed context of a separated one. -/
theorem Linked.separate_alone (linked : manager.Linked) {other : Nat}
    {otherContents : ContextHandler Config} (isOther : other ≠ handler)
    (otherFound : (manager.separate executor handler
      contents.sharedProcessedContext).handlers[other]? = some otherContents) :
    otherContents.sharedProcessedContext ≠ manager.contexts.length := by
  have valid := @linked.context_valid
  simp only [separate] at otherFound
  grind

end Separation

/-! ## The executor moves on -/

/-- The manager after the executor has moved to another state. -/
def operate (manager : ResourceManager State Row Config) (executorState : State) :
    ResourceManager State Row Config :=
  { manager with executorState := executorState }

section Operation

variable {executor : LlmExecutor State Row Config} {manager : ResourceManager State Row Config}
  {handler : Nat} {contents : ContextHandler Config} {executorState : State}

theorem view_operate {context : SharedProcessedContext Row}
    (found : manager.handlers[handler]? = some contents)
    (foundContext : manager.contexts[contents.sharedProcessedContext]? = some context) :
    (manager.operate executorState).view executor handler =
      some ⟨contextEntries executor executorState context,
        handlerStep executor executorState contents⟩ := by
  simp [view, operate, found, foundContext]

/-- A handler that does not use the executor's tokens stands for the same. -/
theorem Consistent.view_operate_apart (consistent : manager.Consistent)
    (found : manager.handlers[handler]? = some contents)
    (apart : manager.currentContext ≠ some contents.sharedProcessedContext) :
    (manager.operate executorState).view executor handler = manager.view executor handler := by
  obtain ⟨context, foundContext⟩ := consistent.exists_context found
  have notCurrent : manager.currentHandler ≠ some handler := by
    intro current
    exact apart (currentContext_eq_some_iff.mpr ⟨handler, contents, current, found, rfl⟩)
  have ownsTokens : context.processedContext ≠ none := by
    rwa [ne_eq, consistent.context foundContext]
  obtain ⟨tokens, ownTokens⟩ := Option.ne_none_iff_exists'.mp ownsTokens
  obtain ⟨runtimeConfig, ownConfig⟩ :=
    Option.isSome_iff_exists.mp (consistent.unloaded found notCurrent).1
  rw [view_eq_some found foundContext, view_operate found foundContext]
  simp only [contextEntries, handlerStep, ownTokens, ownConfig, Option.getD_some]

/-- The view of a handler that uses the executor's tokens but not its step. -/
theorem Consistent.view_shared (consistent : manager.Consistent)
    (executor : LlmExecutor State Row Config) (found : manager.handlers[handler]? = some contents)
    (shared : manager.currentContext = some contents.sharedProcessedContext) :
    manager.view executor handler = some ⟨executor.getProcessedTokens manager.executorState,
      handlerStep executor manager.executorState contents⟩ := by
  obtain ⟨context, foundContext⟩ := consistent.exists_context found
  rw [view_eq_some found foundContext, contextEntries, (consistent.context foundContext).mpr shared,
    Option.getD_none]

theorem Consistent.view_current (consistent : manager.Consistent)
    (current : manager.currentHandler = some handler) :
    manager.view executor handler = some ⟨executor.getProcessedTokens manager.executorState,
      executor.getCurrentStep manager.executorState⟩ := by
  have found := List.getElem?_eq_getElem (consistent.current_valid current)
  have shared := currentContext_eq_some_iff.mpr ⟨_, _, current, found, rfl⟩
  rw [consistent.view_shared executor found shared, handlerStep, (consistent.loaded found current).1]

/-- The executor's step is within its tokens while a handler is current. -/
theorem Consistent.step_le (consistent : manager.Consistent) (within : manager.Within executor)
    (current : manager.currentHandler = some handler) :
    executor.getCurrentStep manager.executorState ≤
      (executor.getProcessedTokens manager.executorState).length :=
  within handler _ (consistent.view_current current)

/-- The step of a handler that is not the current one does not depend on the executor. -/
theorem Consistent.handlerStep_operate (consistent : manager.Consistent)
    (found : manager.handlers[handler]? = some contents)
    (notCurrent : manager.currentHandler ≠ some handler) :
    handlerStep executor executorState contents =
      handlerStep executor manager.executorState contents := by
  obtain ⟨runtimeConfig, ownConfig⟩ :=
    Option.isSome_iff_exists.mp (consistent.unloaded found notCurrent).1
  simp only [handlerStep, ownConfig]

/-- Another handler keeps its history exactly when the executor keeps the tokens up to
that handler's step, if it uses the executor's tokens at all. -/
theorem Consistent.history_operate_iff (consistent : manager.Consistent)
    (found : manager.handlers[handler]? = some contents)
    (notCurrent : manager.currentHandler ≠ some handler) :
    history executor (manager.operate executorState) handler = history executor manager handler ↔
      (manager.currentContext = some contents.sharedProcessedContext →
        (executor.getProcessedTokens executorState).take
            (handlerStep executor manager.executorState contents) =
          (executor.getProcessedTokens manager.executorState).take
            (handlerStep executor manager.executorState contents)) := by
  rw [history_eq_view, history_eq_view]
  by_cases shared : manager.currentContext = some contents.sharedProcessedContext
  · obtain ⟨context, foundContext⟩ := consistent.exists_context found
    have after : (manager.operate executorState).view executor handler =
        some ⟨executor.getProcessedTokens executorState,
          handlerStep executor manager.executorState contents⟩ := by
      rw [view_operate found foundContext,
        contextEntries, (consistent.context foundContext).mpr shared, Option.getD_none]
      rw [consistent.handlerStep_operate found notCurrent]
    rw [after, consistent.view_shared executor found shared]
    simp [shared]
  · rw [consistent.view_operate_apart found shared]
    simp [shared]

theorem Consistent.operate (consistent : manager.Consistent) (executorState : State) :
    (manager.operate executorState).Consistent where
  context_valid := consistent.context_valid
  listed := consistent.listed
  current_valid := consistent.current_valid
  loaded := consistent.loaded
  unloaded := consistent.unloaded
  context := consistent.context

/-- The handlers stay within their tokens when the executor's step does and no other
handler's step is left beyond the executor's tokens. -/
theorem Within.operate (within : manager.Within executor) (consistent : manager.Consistent)
    (current : manager.currentHandler = some handler)
    (step : executor.getCurrentStep executorState ≤
      (executor.getProcessedTokens executorState).length)
    (others : ∀ {other : Nat} {contents : ContextHandler Config},
      manager.handlers[other]? = some contents → other ≠ handler →
      manager.currentContext = some contents.sharedProcessedContext →
        handlerStep executor manager.executorState contents ≤
          (executor.getProcessedTokens executorState).length) :
    (manager.operate executorState).Within executor := by
  intro other seen viewed
  obtain ⟨contents, context, found, foundContext, rfl⟩ := view_eq_some_iff.mp viewed
  by_cases shared : manager.currentContext = some contents.sharedProcessedContext
  · have holdsTokens := (consistent.context foundContext).mpr shared
    simp only [ResourceManager.operate, contextEntries, holdsTokens, Option.getD_none]
    by_cases isCurrent : other = handler
    · subst isCurrent
      rw [handlerStep, (consistent.loaded found current).1]
      exact step
    · have notCurrent : manager.currentHandler ≠ some other := by
        rw [current]
        simpa using Ne.symm isCurrent
      rw [consistent.handlerStep_operate found notCurrent]
      exact others found isCurrent shared
  · rw [consistent.view_operate_apart found shared] at viewed
    exact within other _ viewed

end Operation

end LiteRTLM.Framework.ResourceManager
