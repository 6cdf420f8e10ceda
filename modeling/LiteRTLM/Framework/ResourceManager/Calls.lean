import LiteRTLM.Framework.ResourceManager.Consistency

/-!
Contract: what each call of a consistent resource manager does.

Owns: one lemma per function, for calls whose executor calls succeed.

Does not own: properties of runs.
-/

namespace LiteRTLM.Framework.ResourceManager

open LiteRTLM.Engine
open LiteRTLM.Executor
open LiteRTLM.Library

variable {State Row Config : Type}

/-! ## Elementary steps -/

section Elementary

variable {α : Type} {manager : ResourceManager State Row Config}
  {returned : α → ResourceManager State Row Config → Prop}
  {done : Unit → ResourceManager State Row Config → Prop}
  {failed : Status → ResourceManager State Row Config → Prop}

@[simp]
theorem ends_retCheck (condition : Prop) [Decidable condition] (text : String) :
    Ends (retCheck condition text) manager done failed ↔
      (condition → done () manager) ∧ (¬condition → failed (.internalError text) manager) := by
  by_cases holds : condition <;> simp [retCheck, holds]

@[simp]
theorem ends_askExecutor (query : State → α) :
    Ends (askExecutor none query) manager returned failed ↔
      returned (query manager.executorState) manager :=
  Iff.rfl

@[simp]
theorem ends_runExecutor (operation : State → State) :
    Ends (runExecutor none operation) manager done failed ↔
      done () (manager.operate (operation manager.executorState)) :=
  Iff.rfl

@[simp]
theorem ends_returnIfError_ok (value : α) :
    Ends (returnIfError (.ok value)) manager returned failed ↔ returned value manager :=
  Iff.rfl

@[simp]
theorem ends_returnIfError_error (status : Status) :
    Ends (returnIfError (.error status : StatusOr α)) manager returned failed ↔
      failed status manager :=
  Iff.rfl

theorem ends_getHandler {handler : Nat} (contents : ContextHandler Config)
    (found : manager.handlers[handler]? = some contents)
    {returned : ContextHandler Config → ResourceManager State Row Config → Prop} :
    Ends (getHandler handler) manager returned failed ↔ returned contents manager := by
  simp [getHandler, found]

theorem ends_getContext {index : Nat} {context : SharedProcessedContext Row}
    (found : manager.contexts[index]? = some context)
    {returned : SharedProcessedContext Row → ResourceManager State Row Config → Prop} :
    Ends (getContext index) manager returned failed ↔ returned context manager := by
  simp [getContext, found]

@[simp]
theorem ends_updateHandler (handler : Nat)
    (change : ContextHandler Config → ContextHandler Config) :
    Ends (updateHandler handler change) manager done failed ↔
      done () { manager with handlers := manager.handlers.modify handler change } :=
  Iff.rfl

@[simp]
theorem ends_updateContext (index : Nat)
    (change : SharedProcessedContext Row → SharedProcessedContext Row) :
    Ends (updateContext index change) manager done failed ↔
      done () { manager with contexts := manager.contexts.modify index change } :=
  Iff.rfl

end Elementary

/-! ## Calls that keep every view -/

/-- Consistency is kept, and what every handler stands for. -/
structure Kept (executor : LlmExecutor State Row Config)
    (before after : ResourceManager State Row Config) : Prop where
  consistent : after.Consistent
  within : before.Within executor → after.Within executor
  same : SameViews executor before after

section Keeping

variable {executor : LlmExecutor State Row Config} {manager : ResourceManager State Row Config}

theorem SameViews.trans {between after : ResourceManager State Row Config}
    (first : SameViews executor manager between) (second : SameViews executor between after)
    (more : manager.handlers.length ≤ between.handlers.length) :
    SameViews executor manager after := by
  intro handler valid
  rw [second handler (by omega), first handler valid]

theorem kept_refl (consistent : manager.Consistent) : Kept executor manager manager :=
  ⟨consistent, id, fun _ _ => rfl⟩

theorem kept_createContextHandler (assumed : executor.Assumed)
    (consistent : manager.Consistent) (runtimeConfig : Config) :
    Kept executor manager
      (finalState (createContextHandler executor {} runtimeConfig) manager) := by
  have final : finalState (createContextHandler executor {} runtimeConfig) manager =
      (manager.addContext (executor.createNewContext runtimeConfig
        manager.executorState).processedContext).addHandler manager.contexts.length
          (executor.createNewContext runtimeConfig manager.executorState).runtimeConfig
          (executor.createNewContext runtimeConfig manager.executorState).runtimeState := rfl
  rw [final]
  have added := consistent.addContext
    (executor.createNewContext runtimeConfig manager.executorState).processedContext
  have sameContext := consistent.sameViews_addContext executor
    (executor.createNewContext runtimeConfig manager.executorState).processedContext
  have foundContext : (manager.addContext (executor.createNewContext runtimeConfig
      manager.executorState).processedContext).contexts[manager.contexts.length]? =
        some ⟨[], some (executor.createNewContext runtimeConfig
          manager.executorState).processedContext⟩ := by
    simp [addContext]
  constructor
  · exact added.addHandler foundContext _ _
  · intro within
    exact (within.of_sameViews_of_length sameContext rfl).addHandler added.toLinked foundContext _
      (assumed.createNewContext_step _ _)
  · exact sameContext.trans (added.sameViews_addHandler _ _ _) le_rfl

/-- A new handler that shares a processed context and starts at the step of another
handler that uses it. -/
theorem kept_addHandler (consistent : manager.Consistent) {handler : Nat}
    {contents : ContextHandler Config} (found : manager.handlers[handler]? = some contents)
    (runtimeConfig : Config) {runtimeState : RuntimeState}
    (step : runtimeState.currentStep = handlerStep executor manager.executorState contents) :
    Kept executor manager
      (manager.addHandler contents.sharedProcessedContext runtimeConfig runtimeState) := by
  obtain ⟨context, foundContext⟩ := consistent.exists_context found
  constructor
  · exact consistent.addHandler foundContext _ _
  · intro within
    apply within.addHandler consistent.toLinked foundContext
    rw [step]
    exact within handler _ (view_eq_some found foundContext)
  · exact consistent.sameViews_addHandler _ _ _

theorem ends_bundle {context : Nat} {runtimeConfig : Config} {runtimeState : RuntimeState}
    {returned : Unit → ResourceManager State Row Config → Prop}
    {failed : Status → ResourceManager State Row Config → Prop} :
    Ends (bundle context runtimeConfig runtimeState) manager returned failed ↔
      returned () (manager.addHandler context runtimeConfig runtimeState) :=
  Iff.rfl

theorem kept_cloneContextHandler (assumed : executor.Assumed)
    (consistent : manager.Consistent) (handler : Nat) :
    Kept executor manager (finalState (cloneContextHandler executor {} handler) manager) := by
  apply (ends_finalState_iff _ (Kept executor manager)).mp
  simp only [cloneContextHandler, ends_bind]
  cases found : manager.handlers[handler]? with
  | none => simpa [getHandler, found] using kept_refl consistent
  | some contents =>
      rw [ends_getHandler _ found]
      by_cases current : manager.currentHandler = some handler
      · have loaded := consistent.loaded found current
        simp only [loaded.1, ends_bind, ends_get, ends_retCheck, ends_askExecutor, current,
          ends_bundle, true_implies, not_true_eq_false, false_implies, and_true]
        apply kept_addHandler consistent found
        rw [assumed.getRuntimeState_step, handlerStep, loaded.1]
      · have unloaded := consistent.unloaded found current
        obtain ⟨runtimeConfig, ownConfig⟩ := Option.isSome_iff_exists.mp unloaded.1
        obtain ⟨runtimeState, ownState⟩ := Option.isSome_iff_exists.mp unloaded.2
        simp only [ownConfig, ownState, ends_bundle]
        apply kept_addHandler consistent found
        simp [handlerStep, ownConfig, ownState]

/-! ## Acquiring a handler -/

theorem Kept.trans {between after : ResourceManager State Row Config}
    (first : Kept executor manager between) (second : Kept executor between after)
    (more : manager.handlers.length ≤ between.handlers.length) : Kept executor manager after :=
  ⟨second.consistent, fun within => second.within (first.within within),
    first.same.trans second.same more⟩

/-- What loading a handler asks for: it owns its config, its state and its tokens. -/
structure Loadable (manager : ResourceManager State Row Config) (handler : Nat)
    (contents : ContextHandler Config) (context : SharedProcessedContext Row)
    (runtimeConfig : Config) (runtimeState : RuntimeState)
    (processedContext : List (Entry Row)) : Prop where
  found : manager.handlers[handler]? = some contents
  ownConfig : contents.runtimeConfig = some runtimeConfig
  ownState : contents.runtimeState = some runtimeState
  foundContext : manager.contexts[contents.sharedProcessedContext]? = some context
  ownTokens : context.processedContext = some processedContext

theorem Loadable.withCurrent {handler : Nat} {contents : ContextHandler Config}
    {context : SharedProcessedContext Row} {runtimeConfig : Config} {runtimeState : RuntimeState}
    {processedContext : List (Entry Row)}
    (loadable : manager.Loadable handler contents context runtimeConfig runtimeState
      processedContext) (currentHandler : Option Nat) :
    ResourceManager.Loadable { manager with currentHandler } handler contents context runtimeConfig
      runtimeState processedContext :=
  ⟨loadable.found, loadable.ownConfig, loadable.ownState, loadable.foundContext,
    loadable.ownTokens⟩

theorem Consistent.exists_loadable (consistent : manager.Consistent)
    (unused : manager.currentHandler = none) {handler : Nat}
    (valid : handler < manager.handlers.length) :
    ∃ contents context runtimeConfig runtimeState processedContext,
      manager.Loadable handler contents context runtimeConfig runtimeState processedContext := by
  have found := List.getElem?_eq_getElem valid
  obtain ⟨context, foundContext⟩ := consistent.exists_context found
  have unloaded := consistent.unloaded found (by simp [unused])
  obtain ⟨runtimeConfig, ownConfig⟩ := Option.isSome_iff_exists.mp unloaded.1
  obtain ⟨runtimeState, ownState⟩ := Option.isSome_iff_exists.mp unloaded.2
  have ownsTokens : context.processedContext ≠ none := by
    rw [ne_eq, consistent.context foundContext]
    simp [currentContext, unused]
  obtain ⟨processedContext, ownTokens⟩ := Option.ne_none_iff_exists'.mp ownsTokens
  exact ⟨_, context, runtimeConfig, runtimeState, processedContext,
    found, ownConfig, ownState, foundContext, ownTokens⟩

section Loading

variable {handler : Nat} {contents : ContextHandler Config} {context : SharedProcessedContext Row}
  {runtimeConfig : Config} {runtimeState : RuntimeState} {processedContext : List (Entry Row)}

theorem ends_retrieveRuntimeConfig (contents : ContextHandler Config)
    (found : manager.handlers[handler]? = some contents)
    (ownConfig : contents.runtimeConfig = some runtimeConfig)
    {returned : Config → ResourceManager State Row Config → Prop}
    {failed : Status → ResourceManager State Row Config → Prop} :
    Ends (retrieveRuntimeConfig handler) manager returned failed ↔
      returned runtimeConfig { manager with
        handlers := manager.handlers.modify handler fun contents =>
          { contents with runtimeConfig := none } } := by
  simp only [retrieveRuntimeConfig, ends_bind, ends_getHandler _ found, ownConfig,
    ends_updateHandler, ends_pure]

theorem ends_retrieveRuntimeState (contents : ContextHandler Config)
    (found : manager.handlers[handler]? = some contents)
    (ownState : contents.runtimeState = some runtimeState)
    {returned : RuntimeState → ResourceManager State Row Config → Prop}
    {failed : Status → ResourceManager State Row Config → Prop} :
    Ends (retrieveRuntimeState handler) manager returned failed ↔
      returned runtimeState { manager with
        handlers := manager.handlers.modify handler fun contents =>
          { contents with runtimeState := none } } := by
  simp only [retrieveRuntimeState, ends_bind, ends_getHandler _ found, ownState,
    ends_updateHandler, ends_pure]

/-- The config and the state leave a handler together. -/
theorem ends_retrieveBoth {program : Config → RuntimeState → ResourceManagerM State Row Config Unit}
    (found : manager.handlers[handler]? = some contents)
    (ownConfig : contents.runtimeConfig = some runtimeConfig)
    (ownState : contents.runtimeState = some runtimeState)
    {returned : Unit → ResourceManager State Row Config → Prop}
    {failed : Status → ResourceManager State Row Config → Prop} :
    Ends (do
        let newRuntimeConfig ← retrieveRuntimeConfig handler
        let newRuntimeState ← retrieveRuntimeState handler
        program newRuntimeConfig newRuntimeState) manager returned failed ↔
      Ends (program runtimeConfig runtimeState) { manager with
        handlers := manager.handlers.modify handler fun contents =>
          { contents with runtimeConfig := none, runtimeState := none } } returned failed := by
  rw [ends_bind, ends_retrieveRuntimeConfig contents found ownConfig, ends_bind]
  rw [ends_retrieveRuntimeState { contents with runtimeConfig := none }
    (by simp [found]) ownState, List.modify_modify_eq]
  rfl

theorem ends_retrieveProcessedContext {index : Nat}
    (foundContext : manager.contexts[index]? = some context)
    {returned : Option (List (Entry Row)) → ResourceManager State Row Config → Prop}
    {failed : Status → ResourceManager State Row Config → Prop} :
    Ends (retrieveProcessedContext index) manager returned failed ↔
      returned context.processedContext { manager with
        contexts := manager.contexts.modify index fun context =>
          { context with processedContext := none } } := by
  simp only [retrieveProcessedContext, ends_bind, ends_getContext foundContext,
    ends_updateContext, ends_pure]

/-- Loading moves the handler's context to the executor. -/
theorem ends_loadNew (loadable : manager.Loadable handler contents context runtimeConfig
      runtimeState processedContext)
    {returned : Unit → ResourceManager State Row Config → Prop}
    {failed : Status → ResourceManager State Row Config → Prop} :
    Ends (do
        loadNew executor {} handler
        modify fun manager => { manager with currentHandler := some handler })
        manager returned failed ↔
      returned () (manager.load handler contents.sharedProcessedContext
        (executor.restoreContext ⟨processedContext, runtimeConfig, runtimeState⟩
          manager.executorState)) := by
  rw [ends_bind, loadNew, ends_retrieveBoth loadable.found loadable.ownConfig loadable.ownState,
    ends_bind, ends_getHandler { contents with
      runtimeConfig := none, runtimeState := none } (by simp [loadable.found]),
    ends_bind, ends_retrieveProcessedContext (by exact loadable.foundContext),
    loadable.ownTokens]
  exact Iff.rfl

theorem kept_load (assumed : executor.Assumed) (consistent : manager.Consistent)
    (unused : manager.currentHandler = none)
    (loadable : manager.Loadable handler contents context runtimeConfig runtimeState
      processedContext) :
    Kept executor manager (manager.load handler contents.sharedProcessedContext
      (executor.restoreContext ⟨processedContext, runtimeConfig, runtimeState⟩
        manager.executorState)) := by
  have tokens := assumed.restoreContext_tokens
    ⟨processedContext, runtimeConfig, runtimeState⟩ manager.executorState
  have step := assumed.restoreContext_step
    ⟨processedContext, runtimeConfig, runtimeState⟩ manager.executorState
  have same := consistent.sameViews_load unused loadable.found loadable.ownState
    loadable.foundContext loadable.ownTokens tokens step
  exact ⟨consistent.load unused loadable.found _,
    fun within => within.of_sameViews_of_length same (by simp [load]), same⟩

end Loading

/-- Saving hands the executor's context back to the current handler. -/
theorem ends_saveCurrent
    (copied : (executor.cloneContext manager.executorState).processedContext =
      executor.getProcessedTokens manager.executorState) {current : Nat}
    {contents : ContextHandler Config} {context : SharedProcessedContext Row}
    (found : manager.handlers[current]? = some contents)
    (foundContext : manager.contexts[contents.sharedProcessedContext]? = some context)
    (empty : context.processedContext = none)
    {returned : Unit → ResourceManager State Row Config → Prop}
    {failed : Status → ResourceManager State Row Config → Prop} :
    Ends (saveCurrent executor {} current) manager returned failed ↔
      returned () { manager.unload executor current contents.sharedProcessedContext
          (executor.cloneContext manager.executorState).runtimeConfig
          (executor.cloneContext manager.executorState).runtimeState with
        currentHandler := manager.currentHandler } := by
  simp only [saveCurrent, ends_bind, ends_askExecutor, setRuntimeConfig, setRuntimeState,
    ends_updateHandler, List.modify_modify_eq, setProcessedContext]
  rw [ends_getHandler ⟨contents.sharedProcessedContext,
    some (executor.cloneContext manager.executorState).runtimeConfig,
    some (executor.cloneContext manager.executorState).runtimeState⟩ (by simp [found]),
    ends_getContext (by exact foundContext)]
  simp only [ends_retCheck, empty, true_implies, not_true_eq_false, false_implies, and_true,
    ends_updateContext, copied]
  exact Iff.rfl

/-- Handlers that share their processed context change places without moving it. -/
theorem ends_switchSharing {current new : Nat} {contents newContents : ContextHandler Config}
    {context : SharedProcessedContext Row} {runtimeConfig : Config} {runtimeState : RuntimeState}
    (different : new ≠ current)
    (foundContext : manager.contexts[contents.sharedProcessedContext]? = some context)
    (empty : context.processedContext = none)
    (newFound : manager.handlers[new]? = some newContents)
    (ownConfig : newContents.runtimeConfig = some runtimeConfig)
    (ownState : newContents.runtimeState = some runtimeState)
    {returned : Unit → ResourceManager State Row Config → Prop}
    {failed : Status → ResourceManager State Row Config → Prop} :
    Ends (do
        switchSharing executor {} current new
        modify fun manager => { manager with currentHandler := some new })
        manager returned failed ↔
      returned () ((manager.unload executor current contents.sharedProcessedContext
          (executor.getRuntimeConfig manager.executorState)
          (executor.getRuntimeState manager.executorState)).load new
            contents.sharedProcessedContext
            (executor.updateRuntimeState runtimeState
              (executor.updateRuntimeConfig runtimeConfig manager.executorState))) := by
  have unmoved : (manager.contexts.modify contents.sharedProcessedContext fun context =>
        ⟨context.handlers, some (executor.getProcessedTokens manager.executorState)⟩).modify
        contents.sharedProcessedContext (fun context => ⟨context.handlers, none⟩) =
      manager.contexts := by
    rw [List.modify_modify_eq]
    apply List.ext_getElem?
    intro index
    by_cases same : contents.sharedProcessedContext = index
    · subst same
      rw [List.getElem?_modify_eq, foundContext, Option.map_eq_map, Option.map_some, ← empty]
      rfl
    · rw [List.getElem?_modify_ne _ _ same]
  simp only [ends_bind, switchSharing, ends_askExecutor, setRuntimeConfig, setRuntimeState,
    ends_updateHandler, List.modify_modify_eq]
  rw [ends_retrieveRuntimeConfig newContents
      (by simp [newFound, Ne.symm different]) ownConfig,
    ends_retrieveRuntimeState { newContents with runtimeConfig := none }
      (by simp [newFound, Ne.symm different]) ownState,
    List.modify_modify_eq]
  simp only [ends_runExecutor, ends_modify, operate, load, unload, unmoved]
  exact Iff.rfl

theorem kept_unload (consistent : manager.Consistent) {current : Nat}
    {contents : ContextHandler Config} (isCurrent : manager.currentHandler = some current)
    (found : manager.handlers[current]? = some contents) (runtimeConfig : Config)
    {runtimeState : RuntimeState}
    (step : runtimeState.currentStep = executor.getCurrentStep manager.executorState) :
    Kept executor manager (manager.unload executor current contents.sharedProcessedContext
      runtimeConfig runtimeState) := by
  have same := consistent.sameViews_unload isCurrent found runtimeConfig step
  exact ⟨consistent.unload isCurrent found _ _,
    fun within => within.of_sameViews_of_length same (by simp [unload]), same⟩

theorem unload_found (executor : LlmExecutor State Row Config) {current new : Nat}
    (different : new ≠ current) (index : Nat)
    (runtimeConfig : Config) (runtimeState : RuntimeState) :
    (manager.unload executor current index runtimeConfig runtimeState).handlers[new]? =
      manager.handlers[new]? := by
  simp [unload, Ne.symm different]

/-- The executor takes the config and the state of a handler that shares its tokens. -/
theorem kept_switchSharing (assumed : executor.Assumed) (consistent : manager.Consistent)
    {current new : Nat} {contents newContents : ContextHandler Config}
    (isCurrent : manager.currentHandler = some current)
    (found : manager.handlers[current]? = some contents)
    (different : new ≠ current) (newFound : manager.handlers[new]? = some newContents)
    (shared : newContents.sharedProcessedContext = contents.sharedProcessedContext) :
    Ends (do
        switchSharing executor {} current new
        modify fun manager => { manager with currentHandler := some new })
        manager (fun _ => Kept executor manager) (fun _ => Kept executor manager) := by
  obtain ⟨context, foundContext⟩ := consistent.exists_context found
  have empty := (consistent.context foundContext).mpr
    (currentContext_eq_some_iff.mpr ⟨_, _, isCurrent, found, rfl⟩)
  have unloaded := consistent.unloaded newFound (by simpa [isCurrent] using Ne.symm different)
  obtain ⟨runtimeConfig, ownConfig⟩ := Option.isSome_iff_exists.mp unloaded.1
  obtain ⟨runtimeState, ownState⟩ := Option.isSome_iff_exists.mp unloaded.2
  have released := kept_unload consistent isCurrent found
    (executor.getRuntimeConfig manager.executorState)
    (assumed.getRuntimeState_step manager.executorState)
  rw [ends_switchSharing different foundContext empty newFound ownConfig ownState]
  have newFound' := (unload_found executor different contents.sharedProcessedContext
    (executor.getRuntimeConfig manager.executorState)
    (executor.getRuntimeState manager.executorState)).trans newFound
  have foundContext' : (manager.unload executor current contents.sharedProcessedContext
      (executor.getRuntimeConfig manager.executorState)
      (executor.getRuntimeState manager.executorState)).contexts[
        newContents.sharedProcessedContext]? = some ⟨context.handlers,
          some (executor.getProcessedTokens manager.executorState)⟩ := by
    simp [unload, shared, foundContext]
  have tokens : executor.getProcessedTokens (executor.updateRuntimeState runtimeState
      (executor.updateRuntimeConfig runtimeConfig manager.executorState)) =
        executor.getProcessedTokens manager.executorState := by
    rw [assumed.updateRuntimeState_tokens, assumed.updateRuntimeConfig_tokens]
  have step := assumed.updateRuntimeState_step runtimeState
    (executor.updateRuntimeConfig runtimeConfig manager.executorState)
  have same := released.consistent.sameViews_load rfl newFound' ownState foundContext' rfl
    tokens step
  have kept : Kept executor _ _ :=
    ⟨released.consistent.load rfl newFound' _,
      fun within => within.of_sameViews_of_length same (by simp [load]), same⟩
  rw [shared] at kept
  exact released.trans kept (by simp [unload])

/-- The executor's whole context is exchanged. -/
theorem kept_saveAndLoad (assumed : executor.Assumed) (consistent : manager.Consistent)
    {current new : Nat} {contents : ContextHandler Config}
    (isCurrent : manager.currentHandler = some current)
    (found : manager.handlers[current]? = some contents)
    (valid : new < manager.handlers.length) :
    Ends (do
        saveCurrent executor {} current
        loadNew executor {} new
        modify fun manager => { manager with currentHandler := some new })
        manager (fun _ => Kept executor manager) (fun _ => Kept executor manager) := by
  obtain ⟨context, foundContext⟩ := consistent.exists_context found
  have empty := (consistent.context foundContext).mpr
    (currentContext_eq_some_iff.mpr ⟨_, _, isCurrent, found, rfl⟩)
  have released := kept_unload consistent isCurrent found
    (executor.cloneContext manager.executorState).runtimeConfig
    (assumed.cloneContext_step manager.executorState)
  obtain ⟨newContents, newContext, runtimeConfig, runtimeState, processedContext, loadable⟩ :=
    released.consistent.exists_loadable rfl
      (show new < _ by simpa [unload] using valid)
  have kept := kept_load assumed released.consistent rfl loadable
  rw [ends_bind, ends_saveCurrent (assumed.cloneContext_tokens _) found foundContext empty,
    ends_loadNew (loadable.withCurrent manager.currentHandler)]
  exact released.trans kept (by simp [unload])

/-- Acquiring a handler ends as the case that applies does: there is nothing to do or no
such handler, or the handler is loaded into an unused executor, or it takes the place of
one that shares its processed context or of one that does not. -/
theorem ends_acquireExecutorWithContextHandler (consistent : manager.Consistent)
    (errors : ExecutorErrors) (new : Nat)
    {returned : Unit → ResourceManager State Row Config → Prop}
    {failed : Status → ResourceManager State Row Config → Prop}
    (already : manager.currentHandler = some new → returned () manager)
    (missing : manager.handlers.length ≤ new → ∀ status, failed status manager)
    (loads : manager.currentHandler = none → new < manager.handlers.length →
      Ends (do
        loadNew executor errors new
        modify fun manager => { manager with currentHandler := some new })
        manager returned failed)
    (switches : ∀ {current : Nat} {contents newContents : ContextHandler Config},
      manager.currentHandler = some current → manager.handlers[current]? = some contents →
      new ≠ current → manager.handlers[new]? = some newContents →
      newContents.sharedProcessedContext = contents.sharedProcessedContext →
      Ends (do
        switchSharing executor errors current new
        modify fun manager => { manager with currentHandler := some new })
        manager returned failed)
    (exchanges : ∀ {current : Nat} {contents newContents : ContextHandler Config},
      manager.currentHandler = some current → manager.handlers[current]? = some contents →
      new ≠ current → manager.handlers[new]? = some newContents →
      newContents.sharedProcessedContext ≠ contents.sharedProcessedContext →
      Ends (do
        saveCurrent executor errors current
        loadNew executor errors new
        modify fun manager => { manager with currentHandler := some new })
        manager returned failed) :
    Ends (acquireExecutorWithContextHandler executor errors new) manager returned failed := by
  simp only [acquireExecutorWithContextHandler, ends_bind]
  by_cases valid : new < manager.handlers.length
  · have found := List.getElem?_eq_getElem valid
    rw [ends_getHandler _ found]
    cases current : manager.currentHandler with
    | none =>
        simp only [ends_get, current]
        have loading := loads current valid
        simpa only [ends_bind] using loading
    | some old =>
        simp only [ends_get, current]
        by_cases isCurrent : new = old
        · rw [if_pos isCurrent]
          exact already (by rw [current, isCurrent])
        · have oldFound := List.getElem?_eq_getElem (consistent.current_valid current)
          simp only [isCurrent, if_false, ends_bind, ends_getHandler _ oldFound]
          split
          · next shared =>
              have switching := switches current oldFound isCurrent found shared
              simpa only [ends_bind] using switching
          · next apart =>
              have exchanging := exchanges current oldFound isCurrent found apart
              simpa only [ends_bind] using exchanging
  · have notFound := List.getElem?_eq_none_iff.mpr (Nat.le_of_not_lt valid)
    simpa [getHandler, notFound] using missing (Nat.le_of_not_lt valid) _

theorem kept_acquireExecutorWithContextHandler (assumed : executor.Assumed)
    (consistent : manager.Consistent) (new : Nat) :
    Kept executor manager
      (finalState (acquireExecutorWithContextHandler executor {} new) manager) := by
  apply (ends_finalState_iff _ (Kept executor manager)).mp
  apply ends_acquireExecutorWithContextHandler consistent
  case already => exact fun _ => kept_refl consistent
  case missing => exact fun _ _ => kept_refl consistent
  case loads =>
    intro unused valid
    obtain ⟨contents, context, runtimeConfig, runtimeState, processedContext, loadable⟩ :=
      consistent.exists_loadable unused valid
    rw [ends_loadNew loadable]
    exact kept_load assumed consistent unused loadable
  case switches =>
    intro current contents newContents isCurrent found different newFound shared
    exact kept_switchSharing assumed consistent isCurrent found different newFound shared
  case exchanges =>
    intro current contents newContents isCurrent found _ newFound _
    exact kept_saveAndLoad assumed consistent isCurrent found
      (List.getElem?_eq_some_iff.mp newFound).1

end Keeping

end LiteRTLM.Framework.ResourceManager
