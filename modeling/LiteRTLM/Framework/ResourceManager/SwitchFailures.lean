import LiteRTLM.Framework.ResourceManager.Isolation

/-!
Contract: creating, cloning and acquiring handlers when calls of the executor fail.

Owns: the calls with their executor errors, the acquisitions that stop half-way, what
each call leaves of the ownership of configs, states and processed contexts, and runs
of such calls.

Does not own: the calls that go through the acquired executor.
-/

namespace LiteRTLM.Framework.ResourceManager

open LiteRTLM.Engine
open LiteRTLM.Executor
open LiteRTLM.Library

variable {State Row Config : Type}

/-! ## The calls -/

/-- A call that creates, clones or acquires a handler, with the errors that the
executor's calls return in it. -/
inductive HandlerCall (Config : Type) where
  | createContextHandler (errors : ExecutorErrors) (runtimeConfig : Config)
  | cloneContextHandler (errors : ExecutorErrors) (handler : Nat)
  | acquireExecutorWithContextHandler (errors : ExecutorErrors) (handler : Nat)

def afterCall (executor : LlmExecutor State Row Config)
    (manager : ResourceManager State Row Config) :
    HandlerCall Config → ResourceManager State Row Config
  | .createContextHandler errors runtimeConfig =>
      finalState (createContextHandler executor errors runtimeConfig) manager
  | .cloneContextHandler errors handler =>
      finalState (cloneContextHandler executor errors handler) manager
  | .acquireExecutorWithContextHandler errors handler =>
      finalState (acquireExecutorWithContextHandler executor errors handler) manager

/-- The handler uses the processed context of the current handler. -/
def SharesCurrent (manager : ResourceManager State Row Config) (handler : Nat) : Prop :=
  manager.handlers[handler]?.map ContextHandler.sharedProcessedContext = manager.currentContext

instance (manager : ResourceManager State Row Config) (handler : Nat) :
    Decidable (manager.SharesCurrent handler) := by
  unfold SharesCurrent
  infer_instance

/-- The executor refuses the new handler's parts after the old one's have been saved. -/
def HalfWay (manager : ResourceManager State Row Config) : HandlerCall Config → Prop
  | .acquireExecutorWithContextHandler errors handler =>
      handler < manager.handlers.length ∧ manager.currentHandler ≠ some handler ∧
        if manager.SharesCurrent handler then
          errors.getRuntimeConfig = none ∧ errors.getRuntimeState = none ∧
            (errors.updateRuntimeConfig ≠ none ∨ errors.updateRuntimeState ≠ none)
        else
          (manager.currentHandler ≠ none → errors.cloneContext = none) ∧
            errors.restoreContext ≠ none
  | _ => False

/-! ## Runs -/

/-- The manager after some calls. -/
def afterCalls (executor : LlmExecutor State Row Config) :
    ResourceManager State Row Config → List (HandlerCall Config) →
      ResourceManager State Row Config
  | manager, [] => manager
  | manager, call :: rest => afterCalls executor (manager.afterCall executor call) rest

/-- The ownership of all parts is as it should be after every call. -/
def OwnedThroughout (executor : LlmExecutor State Row Config) :
    ResourceManager State Row Config → List (HandlerCall Config) → Prop
  | _, [] => True
  | manager, call :: rest =>
      (manager.afterCall executor call).Owned ∧
        OwnedThroughout executor (manager.afterCall executor call) rest

/-- No acquisition stops half-way. -/
def NoneHalfWay (executor : LlmExecutor State Row Config) :
    ResourceManager State Row Config → List (HandlerCall Config) → Prop
  | _, [] => True
  | manager, call :: rest =>
      ¬manager.HalfWay call ∧ NoneHalfWay executor (manager.afterCall executor call) rest

/-! ## Acquisitions that fail -/

section Failing

variable {executor : LlmExecutor State Row Config} {manager : ResourceManager State Row Config}
  {errors : ExecutorErrors} {holds : ResourceManager State Row Config → Prop}

theorem sharesCurrent_iff {current new : Nat} {contents newContents : ContextHandler Config}
    (isCurrent : manager.currentHandler = some current)
    (found : manager.handlers[current]? = some contents)
    (newFound : manager.handlers[new]? = some newContents) :
    manager.SharesCurrent new ↔
      newContents.sharedProcessedContext = contents.sharedProcessedContext := by
  simp [SharesCurrent, currentContext, isCurrent, found, newFound]

theorem not_sharesCurrent_of_unused {new : Nat} (unused : manager.currentHandler = none)
    (valid : new < manager.handlers.length) : ¬manager.SharesCurrent new := by
  simp [SharesCurrent, currentContext, unused, List.getElem?_eq_getElem valid]

/-- An executor that does not refuse the new parts changes nothing or all of them. -/
theorem switchSharing_holds {current new : Nat} (unchanged : holds manager)
    (success : Ends (do
        switchSharing executor {} current new
        modify fun manager => { manager with currentHandler := some new })
        manager (fun _ => holds) (fun _ => holds))
    (accepts : errors.getRuntimeConfig = none → errors.getRuntimeState = none →
      errors.updateRuntimeConfig = none ∧ errors.updateRuntimeState = none) :
    Ends (do
      switchSharing executor errors current new
      modify fun manager => { manager with currentHandler := some new })
      manager (fun _ => holds) (fun _ => holds) := by
  cases configError : errors.getRuntimeConfig with
  | some status => simpa [switchSharing, askExecutor, configError] using unchanged
  | none =>
      cases stateError : errors.getRuntimeState with
      | some status => simpa [switchSharing, askExecutor, configError, stateError] using unchanged
      | none =>
          obtain ⟨takesConfig, takesState⟩ := accepts configError stateError
          have same : switchSharing executor errors current new =
              switchSharing executor {} current new := by
            simp only [switchSharing, configError, stateError, takesConfig, takesState]
          rw [same]
          exact success

theorem loadNew_eq (accepts : errors.restoreContext = none) (new : Nat) :
    loadNew executor errors new = loadNew executor {} new := by
  simp only [loadNew, accepts]

theorem saveCurrent_eq (copies : errors.cloneContext = none) (current : Nat) :
    saveCurrent executor errors current = saveCurrent executor {} current := by
  simp only [saveCurrent, copies]

theorem saveAndLoad_holds {current new : Nat} (unchanged : holds manager)
    (success : Ends (do
        saveCurrent executor {} current
        loadNew executor {} new
        modify fun manager => { manager with currentHandler := some new })
        manager (fun _ => holds) (fun _ => holds))
    (accepts : errors.cloneContext = none → errors.restoreContext = none) :
    Ends (do
      saveCurrent executor errors current
      loadNew executor errors new
      modify fun manager => { manager with currentHandler := some new })
      manager (fun _ => holds) (fun _ => holds) := by
  cases cloneError : errors.cloneContext with
  | some status => simpa [saveCurrent, askExecutor, cloneError] using unchanged
  | none =>
      rw [saveCurrent_eq cloneError, loadNew_eq (accepts cloneError)]
      exact success

/-- What an acquisition without errors keeps is kept by one that does not stop half-way. -/
theorem acquire_holds (consistent : manager.Consistent) {new : Nat}
    (goesThrough : ¬manager.HalfWay (.acquireExecutorWithContextHandler errors new :
      HandlerCall Config))
    (unchanged : holds manager)
    (loads : manager.currentHandler = none → new < manager.handlers.length →
      Ends (do
        loadNew executor {} new
        modify fun manager => { manager with currentHandler := some new })
        manager (fun _ => holds) (fun _ => holds))
    (switches : ∀ {current : Nat} {contents newContents : ContextHandler Config},
      manager.currentHandler = some current → manager.handlers[current]? = some contents →
      new ≠ current → manager.handlers[new]? = some newContents →
      newContents.sharedProcessedContext = contents.sharedProcessedContext →
      Ends (do
        switchSharing executor {} current new
        modify fun manager => { manager with currentHandler := some new })
        manager (fun _ => holds) (fun _ => holds))
    (exchanges : ∀ {current : Nat} {contents newContents : ContextHandler Config},
      manager.currentHandler = some current → manager.handlers[current]? = some contents →
      manager.handlers[new]? = some newContents →
      newContents.sharedProcessedContext ≠ contents.sharedProcessedContext →
      Ends (do
        saveCurrent executor {} current
        loadNew executor {} new
        modify fun manager => { manager with currentHandler := some new })
        manager (fun _ => holds) (fun _ => holds)) :
    holds (finalState (acquireExecutorWithContextHandler executor errors new) manager) := by
  apply (ends_finalState_iff _ holds).mp
  apply ends_acquireExecutorWithContextHandler consistent
  case already => exact fun _ => unchanged
  case missing => exact fun _ _ => unchanged
  case loads =>
    intro unused valid
    have accepts : errors.restoreContext = none := by
      by_contra refuses
      apply goesThrough
      simp only [HalfWay, if_neg (not_sharesCurrent_of_unused unused valid)]
      exact ⟨valid, by simp [unused], by simp [unused], refuses⟩
    rw [loadNew_eq accepts]
    exact loads unused valid
  case switches =>
    intro current contents newContents isCurrent found different newFound shared
    apply switchSharing_holds unchanged (switches isCurrent found different newFound shared)
    intro readsConfig readsState
    by_contra refuses
    apply goesThrough
    simp only [HalfWay, if_pos ((sharesCurrent_iff isCurrent found newFound).mpr shared)]
    have valid := (List.getElem?_eq_some_iff.mp newFound).1
    exact ⟨valid, by simpa [isCurrent] using Ne.symm different, readsConfig, readsState,
      by tauto⟩
  case exchanges =>
    intro current contents newContents isCurrent found different newFound apart
    apply saveAndLoad_holds unchanged (exchanges isCurrent found newFound apart)
    intro copies
    by_contra refuses
    apply goesThrough
    have notShared := (sharesCurrent_iff isCurrent found newFound).not.mpr apart
    simp only [HalfWay, if_neg notShared]
    have valid := (List.getElem?_eq_some_iff.mp newFound).1
    exact ⟨valid, by simpa [isCurrent] using Ne.symm different, fun _ => copies, refuses⟩

/-! ## Consistency -/

theorem consistent_load (consistent : manager.Consistent) {new : Nat}
    (unused : manager.currentHandler = none) (valid : new < manager.handlers.length) :
    Ends (do
      loadNew executor {} new
      modify fun manager => { manager with currentHandler := some new })
      manager (fun _ => Consistent) (fun _ => Consistent) := by
  obtain ⟨contents, context, runtimeConfig, runtimeState, processedContext, loadable⟩ :=
    consistent.exists_loadable unused valid
  rw [ends_loadNew loadable]
  exact consistent.load unused loadable.found _

theorem consistent_switchSharing (consistent : manager.Consistent) {current new : Nat}
    {contents newContents : ContextHandler Config}
    (isCurrent : manager.currentHandler = some current)
    (found : manager.handlers[current]? = some contents)
    (different : new ≠ current) (newFound : manager.handlers[new]? = some newContents)
    (shared : newContents.sharedProcessedContext = contents.sharedProcessedContext) :
    Ends (do
      switchSharing executor {} current new
      modify fun manager => { manager with currentHandler := some new })
      manager (fun _ => Consistent) (fun _ => Consistent) := by
  obtain ⟨context, foundContext⟩ := consistent.exists_context found
  have empty := (consistent.context foundContext).mpr
    (currentContext_eq_some_iff.mpr ⟨_, _, isCurrent, found, rfl⟩)
  have unloaded := consistent.unloaded newFound (by simpa [isCurrent] using Ne.symm different)
  obtain ⟨runtimeConfig, ownConfig⟩ := Option.isSome_iff_exists.mp unloaded.1
  obtain ⟨runtimeState, ownState⟩ := Option.isSome_iff_exists.mp unloaded.2
  rw [ends_switchSharing different foundContext empty newFound ownConfig ownState, ← shared]
  apply Consistent.load
  · rw [shared]
    exact consistent.unload isCurrent found _ _
  · rfl
  · exact (unload_found executor different _ _ _).trans newFound

/-- The executor's tokens do not matter for the ownership: its copy is what is saved. -/
theorem consistent_saveAndLoad (consistent : manager.Consistent) {current new : Nat}
    {contents : ContextHandler Config} (isCurrent : manager.currentHandler = some current)
    (found : manager.handlers[current]? = some contents)
    (valid : new < manager.handlers.length) :
    Ends (do
      saveCurrent executor {} current
      loadNew executor {} new
      modify fun manager => { manager with currentHandler := some new })
      manager (fun _ => Consistent) (fun _ => Consistent) := by
  obtain ⟨context, foundContext⟩ := consistent.exists_context found
  have empty := (consistent.context foundContext).mpr
    (currentContext_eq_some_iff.mpr ⟨_, _, isCurrent, found, rfl⟩)
  let copying : LlmExecutor State Row Config :=
    { executor with
      getProcessedTokens := fun state => (executor.cloneContext state).processedContext }
  have released : (manager.unload copying current contents.sharedProcessedContext
      (executor.cloneContext manager.executorState).runtimeConfig
      (executor.cloneContext manager.executorState).runtimeState).Consistent :=
    consistent.unload isCurrent found _ _
  obtain ⟨newContents, newContext, runtimeConfig, runtimeState, processedContext, loadable⟩ :=
    released.exists_loadable rfl (show new < _ by simpa [unload] using valid)
  show Ends (do
    saveCurrent copying {} current
    loadNew copying {} new
    modify fun manager => { manager with currentHandler := some new }) manager _ _
  rw [ends_bind, ends_saveCurrent rfl found foundContext empty,
    ends_loadNew (loadable.withCurrent manager.currentHandler)]
  exact released.load rfl loadable.found _

/-- No call that goes through breaks the ownership. -/
theorem consistent_afterCall (consistent : manager.Consistent) {call : HandlerCall Config}
    (goesThrough : ¬manager.HalfWay call) : (manager.afterCall executor call).Consistent := by
  cases call with
  | createContextHandler errors runtimeConfig =>
      apply (ends_finalState_iff _ Consistent).mp
      cases error : errors.createNewContext with
      | some status => simpa [createContextHandler, askExecutor, error] using consistent
      | none =>
          simp only [createContextHandler, error, ends_bind, ends_askExecutor, ends_get,
            ends_modify, ends_bundle]
          have added := consistent.addContext
            (executor.createNewContext runtimeConfig manager.executorState).processedContext
          exact added.addHandler (List.getElem?_concat_length ..) _ _
  | cloneContextHandler errors handler =>
      apply (ends_finalState_iff _ Consistent).mp
      simp only [cloneContextHandler, ends_bind]
      cases found : manager.handlers[handler]? with
      | none => simpa [getHandler, found] using consistent
      | some contents =>
          obtain ⟨context, foundContext⟩ := consistent.exists_context found
          rw [ends_getHandler _ found]
          split
          · rw [ends_bundle]
            exact consistent.addHandler foundContext _ _
          · simp only [ends_bind, ends_get, ends_retCheck]
            refine ⟨fun _ => ?_, fun _ => consistent⟩
            cases errors.getRuntimeConfig with
            | some status => exact consistent
            | none =>
                cases errors.getRuntimeState with
                | some status => exact consistent
                | none =>
                    simp only [ends_askExecutor, ends_bundle]
                    exact consistent.addHandler foundContext _ _
  | acquireExecutorWithContextHandler errors handler =>
      apply acquire_holds consistent goesThrough consistent
      case loads => exact consistent_load consistent
      case switches => exact consistent_switchSharing consistent
      case exchanges =>
        intro current contents newContents isCurrent found newFound _
        exact consistent_saveAndLoad consistent isCurrent found
          (List.getElem?_eq_some_iff.mp newFound).1

/-! ## Ownership lost half-way -/

theorem not_owned_of_current {current : Nat}
    (isCurrent : manager.currentHandler = some current)
    (owns : manager.handlers[current]?.bind ContextHandler.runtimeConfig ≠ none) :
    ¬manager.Owned := by
  intro owned
  apply owns
  cases found : manager.handlers[current]? with
  | none => rfl
  | some contents => exact (owned.loaded found isCurrent).1

theorem not_owned_of_unloaded {handler : Nat} {contents : ContextHandler Config}
    (notCurrent : manager.currentHandler ≠ some handler)
    (found : manager.handlers[handler]? = some contents)
    (stripped : contents.runtimeConfig = none) : ¬manager.Owned := by
  intro owned
  have owns := (owned.unloaded found notCurrent).1
  simp [stripped] at owns

/-- A handler whose parts the executor refuses has lost them. -/
theorem ends_loadNew_refused {handler : Nat} {contents : ContextHandler Config}
    {context : SharedProcessedContext Row} {runtimeConfig : Config} {runtimeState : RuntimeState}
    {processedContext : List (Entry Row)}
    (loadable : manager.Loadable handler contents context runtimeConfig runtimeState
      processedContext) {status : Status} (refuses : errors.restoreContext = some status)
    {returned : Unit → ResourceManager State Row Config → Prop}
    {failed : Status → ResourceManager State Row Config → Prop} :
    Ends (do
        loadNew executor errors handler
        modify fun manager => { manager with currentHandler := some handler })
        manager returned failed ↔
      failed status { manager with
        handlers := manager.handlers.modify handler fun contents =>
          { contents with runtimeConfig := none, runtimeState := none }
        contexts := manager.contexts.modify contents.sharedProcessedContext fun context =>
          { context with processedContext := none } } := by
  rw [ends_bind, loadNew, ends_retrieveBoth loadable.found loadable.ownConfig loadable.ownState,
    ends_bind, ends_getHandler { contents with
      runtimeConfig := none, runtimeState := none } (by simp [loadable.found]),
    ends_bind, ends_retrieveProcessedContext (by exact loadable.foundContext),
    loadable.ownTokens, refuses]
  exact Iff.rfl

theorem switchSharing_loses {current new : Nat} {contents newContents : ContextHandler Config}
    (consistent : manager.Consistent)
    (isCurrent : manager.currentHandler = some current)
    (found : manager.handlers[current]? = some contents)
    (different : new ≠ current) (newFound : manager.handlers[new]? = some newContents)
    (readsConfig : errors.getRuntimeConfig = none) (readsState : errors.getRuntimeState = none)
    (refuses : errors.updateRuntimeConfig ≠ none ∨ errors.updateRuntimeState ≠ none) :
    Ends (do
      switchSharing executor errors current new
      modify fun manager => { manager with currentHandler := some new })
      manager (fun _ after => ¬after.Owned) (fun _ after => ¬after.Owned) := by
  have unloaded := consistent.unloaded newFound (by simpa [isCurrent] using Ne.symm different)
  obtain ⟨runtimeConfig, ownConfig⟩ := Option.isSome_iff_exists.mp unloaded.1
  obtain ⟨runtimeState, ownState⟩ := Option.isSome_iff_exists.mp unloaded.2
  simp only [ends_bind, switchSharing, readsConfig, readsState, ends_askExecutor,
    setRuntimeConfig, setRuntimeState, ends_updateHandler, List.modify_modify_eq]
  rw [ends_retrieveRuntimeConfig newContents
      (by simp [newFound, Ne.symm different]) ownConfig,
    ends_retrieveRuntimeState { newContents with runtimeConfig := none }
      (by simp [newFound, Ne.symm different]) ownState,
    List.modify_modify_eq]
  -- Whichever update is refused, the old handler has got its parts back and is still current.
  cases configError : errors.updateRuntimeConfig with
  | some status =>
      exact not_owned_of_current isCurrent (by simp [found, different])
  | none =>
      cases stateError : errors.updateRuntimeState with
      | none => simp [configError, stateError] at refuses
      | some status =>
          exact not_owned_of_current isCurrent (by simp [found, different])

theorem saveAndLoad_loses {current new : Nat} {contents : ContextHandler Config}
    (consistent : manager.Consistent)
    (isCurrent : manager.currentHandler = some current)
    (found : manager.handlers[current]? = some contents) (different : new ≠ current)
    (valid : new < manager.handlers.length) (copies : errors.cloneContext = none)
    (refuses : errors.restoreContext ≠ none) :
    Ends (do
      saveCurrent executor errors current
      loadNew executor errors new
      modify fun manager => { manager with currentHandler := some new })
      manager (fun _ after => ¬after.Owned) (fun _ after => ¬after.Owned) := by
  obtain ⟨status, refusal⟩ := Option.ne_none_iff_exists'.mp refuses
  obtain ⟨context, foundContext⟩ := consistent.exists_context found
  have empty := (consistent.context foundContext).mpr
    (currentContext_eq_some_iff.mpr ⟨_, _, isCurrent, found, rfl⟩)
  let copying : LlmExecutor State Row Config :=
    { executor with
      getProcessedTokens := fun state => (executor.cloneContext state).processedContext }
  have released : (manager.unload copying current contents.sharedProcessedContext
      (executor.cloneContext manager.executorState).runtimeConfig
      (executor.cloneContext manager.executorState).runtimeState).Consistent :=
    consistent.unload isCurrent found _ _
  obtain ⟨newContents, newContext, runtimeConfig, runtimeState, processedContext, loadable⟩ :=
    released.exists_loadable rfl (show new < _ by simpa [unload] using valid)
  show Ends (do
    saveCurrent copying errors current
    loadNew copying errors new
    modify fun manager => { manager with currentHandler := some new }) manager _ _
  rw [ends_bind, saveCurrent_eq copies, ends_saveCurrent rfl found foundContext empty,
    ends_loadNew_refused (loadable.withCurrent manager.currentHandler) refusal]
  exact not_owned_of_current isCurrent (by simp [unload, found, different])

/-- A call that stops half-way leaves a handler without what it should own, or the current
handler with what the executor should own. -/
theorem not_owned_afterCall (consistent : manager.Consistent) {call : HandlerCall Config}
    (halfWay : manager.HalfWay call) : ¬(manager.afterCall executor call).Owned := by
  cases call with
  | createContextHandler errors runtimeConfig => exact halfWay.elim
  | cloneContextHandler errors handler => exact halfWay.elim
  | acquireExecutorWithContextHandler errors new =>
      obtain ⟨valid, notCurrent, stops⟩ := halfWay
      apply (ends_finalState_iff _
        fun after : ResourceManager State Row Config => ¬after.Owned).mp
      apply ends_acquireExecutorWithContextHandler consistent
      case already => exact fun isCurrent => absurd isCurrent notCurrent
      case missing => exact fun invalid => absurd valid (Nat.not_lt.mpr invalid)
      case loads =>
        intro unused _
        rw [if_neg (not_sharesCurrent_of_unused unused valid)] at stops
        obtain ⟨status, refusal⟩ := Option.ne_none_iff_exists'.mp stops.2
        obtain ⟨contents, context, runtimeConfig, runtimeState, processedContext, loadable⟩ :=
          consistent.exists_loadable unused valid
        rw [ends_loadNew_refused loadable refusal]
        exact not_owned_of_unloaded (by simp [unused])
          (List.getElem?_modify_eq .. |>.trans (by rw [loadable.found]; rfl)) rfl
      case switches =>
        intro current contents newContents isCurrent found different newFound shared
        rw [if_pos ((sharesCurrent_iff isCurrent found newFound).mpr shared)] at stops
        exact switchSharing_loses consistent isCurrent found different newFound stops.1
          stops.2.1 stops.2.2
      case exchanges =>
        intro current contents newContents isCurrent found different newFound apart
        rw [if_neg ((sharesCurrent_iff isCurrent found newFound).not.mpr apart)] at stops
        exact saveAndLoad_loses consistent isCurrent found different valid
          (stops.1 (by simp [isCurrent])) stops.2

/-! ## Views -/

theorem createContextHandler_holds (runtimeConfig : Config) (unchanged : holds manager)
    (success : holds (finalState (createContextHandler executor {} runtimeConfig) manager)) :
    holds (finalState (createContextHandler executor errors runtimeConfig) manager) := by
  cases error : errors.createNewContext with
  | none =>
      have same : createContextHandler executor errors runtimeConfig =
          createContextHandler executor {} runtimeConfig := by
        simp only [createContextHandler, error]
      rwa [same]
  | some status =>
      apply (ends_finalState_iff _ holds).mp
      simpa [createContextHandler, askExecutor, error] using unchanged

theorem cloneContextHandler_holds (handler : Nat) (unchanged : holds manager)
    (success : holds (finalState (cloneContextHandler executor {} handler) manager)) :
    holds (finalState (cloneContextHandler executor errors handler) manager) := by
  have succeeds := (ends_finalState_iff _ holds).mpr success
  apply (ends_finalState_iff _ holds).mp
  simp only [cloneContextHandler, ends_bind] at succeeds ⊢
  cases found : manager.handlers[handler]? with
  | none => simpa [getHandler, found] using unchanged
  | some contents =>
      rw [ends_getHandler _ found] at succeeds ⊢
      split at succeeds
      · exact succeeds
      · simp only [ends_bind, ends_get, ends_retCheck] at succeeds ⊢
        refine ⟨fun isCurrent => ?_, fun _ => unchanged⟩
        have bundles := succeeds.1 isCurrent
        cases errors.getRuntimeConfig with
        | some status => exact unchanged
        | none =>
            cases errors.getRuntimeState with
            | some status => exact unchanged
            | none => exact bundles

/-- Calls that go through keep what every handler stands for. -/
theorem kept_afterCall (assumed : executor.Assumed) (consistent : manager.Consistent)
    {call : HandlerCall Config} (goesThrough : ¬manager.HalfWay call) :
    Kept executor manager (manager.afterCall executor call) := by
  have unchanged : Kept executor manager manager := kept_refl consistent
  cases call with
  | createContextHandler errors runtimeConfig =>
      apply createContextHandler_holds runtimeConfig unchanged
      exact kept_createContextHandler assumed consistent runtimeConfig
  | cloneContextHandler errors handler =>
      apply cloneContextHandler_holds handler unchanged
      exact kept_cloneContextHandler assumed consistent handler
  | acquireExecutorWithContextHandler errors handler =>
      apply acquire_holds consistent goesThrough unchanged
      case loads =>
        intro unused valid
        obtain ⟨contents, context, runtimeConfig, runtimeState, processedContext, loadable⟩ :=
          consistent.exists_loadable unused valid
        rw [ends_loadNew loadable]
        exact kept_load assumed consistent unused loadable
      case switches => exact kept_switchSharing assumed consistent
      case exchanges =>
        intro current contents newContents isCurrent found newFound _
        exact kept_saveAndLoad assumed consistent isCurrent found
          (List.getElem?_eq_some_iff.mp newFound).1

/-! ## Later acquisitions -/

/-- The executor's state once it holds what the handler owned: the handler's config and
state, and its tokens unless the executor holds them already. -/
def Installed (executor : LlmExecutor State Row Config)
    (manager : ResourceManager State Row Config) (handler : Nat) (executorState : State) : Prop :=
  (manager.currentHandler = some handler ∧ executorState = manager.executorState) ∨
    ∃ contents runtimeConfig runtimeState, manager.handlers[handler]? = some contents ∧
      contents.runtimeConfig = some runtimeConfig ∧ contents.runtimeState = some runtimeState ∧
      ((manager.currentContext = some contents.sharedProcessedContext ∧
          executorState = executor.updateRuntimeState runtimeState
            (executor.updateRuntimeConfig runtimeConfig manager.executorState)) ∨
        ∃ context processedContext,
          manager.contexts[contents.sharedProcessedContext]? = some context ∧
          context.processedContext = some processedContext ∧
          executorState = executor.restoreContext
            ⟨processedContext, runtimeConfig, runtimeState⟩ manager.executorState)

/-- An acquisition whose executor calls succeed returns the executor with the handler's
parts in it. -/
def Acquires (executor : LlmExecutor State Row Config)
    (manager : ResourceManager State Row Config) (handler : Nat) : Prop :=
  Ends (acquireExecutorWithContextHandler executor {} handler) manager
    (fun _ after => after.currentHandler = some handler ∧
      Installed executor manager handler after.executorState)
    (fun _ _ => False)

theorem acquires_of_consistent (consistent : manager.Consistent) {new : Nat}
    (valid : new < manager.handlers.length) : Acquires executor manager new := by
  apply ends_acquireExecutorWithContextHandler consistent
  case already => exact fun isCurrent => ⟨isCurrent, .inl ⟨isCurrent, rfl⟩⟩
  case missing => exact fun invalid => absurd valid (Nat.not_lt.mpr invalid)
  case loads =>
    intro unused _
    obtain ⟨contents, context, runtimeConfig, runtimeState, processedContext, loadable⟩ :=
      consistent.exists_loadable unused valid
    rw [ends_loadNew loadable]
    exact ⟨rfl, .inr ⟨contents, runtimeConfig, runtimeState, loadable.found, loadable.ownConfig,
      loadable.ownState, .inr ⟨context, processedContext, loadable.foundContext,
        loadable.ownTokens, rfl⟩⟩⟩
  case switches =>
    intro current contents newContents isCurrent found different newFound shared
    obtain ⟨context, foundContext⟩ := consistent.exists_context found
    have isShared := currentContext_eq_some_iff.mpr ⟨_, _, isCurrent, found, rfl⟩
    have empty := (consistent.context foundContext).mpr isShared
    have unloaded := consistent.unloaded newFound (by simpa [isCurrent] using Ne.symm different)
    obtain ⟨runtimeConfig, ownConfig⟩ := Option.isSome_iff_exists.mp unloaded.1
    obtain ⟨runtimeState, ownState⟩ := Option.isSome_iff_exists.mp unloaded.2
    rw [ends_switchSharing different foundContext empty newFound ownConfig ownState]
    exact ⟨rfl, .inr ⟨newContents, runtimeConfig, runtimeState, newFound, ownConfig, ownState,
      .inl ⟨by rw [isShared, shared], rfl⟩⟩⟩
  case exchanges =>
    intro current contents newContents isCurrent found different newFound apart
    obtain ⟨context, foundContext⟩ := consistent.exists_context found
    obtain ⟨newContext, newFoundContext⟩ := consistent.exists_context newFound
    have empty := (consistent.context foundContext).mpr
      (currentContext_eq_some_iff.mpr ⟨_, _, isCurrent, found, rfl⟩)
    have unloaded := consistent.unloaded newFound (by simpa [isCurrent] using Ne.symm different)
    obtain ⟨runtimeConfig, ownConfig⟩ := Option.isSome_iff_exists.mp unloaded.1
    obtain ⟨runtimeState, ownState⟩ := Option.isSome_iff_exists.mp unloaded.2
    have notShared : manager.currentContext ≠ some newContents.sharedProcessedContext := by
      simpa [currentContext, isCurrent, found] using Ne.symm apart
    obtain ⟨processedContext, ownTokens⟩ := Option.ne_none_iff_exists'.mp
      ((consistent.context newFoundContext).not.mpr notShared)
    let copying : LlmExecutor State Row Config :=
      { executor with
        getProcessedTokens := fun state => (executor.cloneContext state).processedContext }
    have loadable : (manager.unload copying current contents.sharedProcessedContext
        (executor.cloneContext manager.executorState).runtimeConfig
        (executor.cloneContext manager.executorState).runtimeState).Loadable new newContents
          newContext runtimeConfig runtimeState processedContext :=
      ⟨(unload_found copying different _ _ _).trans newFound, ownConfig, ownState,
        by simpa [unload, Ne.symm apart] using newFoundContext, ownTokens⟩
    show Ends (do
      saveCurrent copying {} current
      loadNew copying {} new
      modify fun manager => { manager with currentHandler := some new }) manager _ _
    rw [ends_bind, ends_saveCurrent rfl found foundContext empty,
      ends_loadNew (loadable.withCurrent manager.currentHandler)]
    exact ⟨rfl, .inr ⟨newContents, runtimeConfig, runtimeState, newFound, ownConfig, ownState,
      .inr ⟨newContext, processedContext, newFoundContext, ownTokens, rfl⟩⟩⟩

/-! ## Runs -/

theorem consistent_afterCalls {calls : List (HandlerCall Config)}
    (consistent : manager.Consistent) (goThrough : NoneHalfWay executor manager calls) :
    (manager.afterCalls executor calls).Consistent := by
  induction calls generalizing manager with
  | nil => exact consistent
  | cons call rest inductionHypothesis =>
      exact inductionHypothesis (consistent_afterCall consistent goThrough.1) goThrough.2

/-- Handlers that stand for something still exist. -/
theorem SameViews.length_le {after : ResourceManager State Row Config}
    (same : SameViews executor manager after) (linked : manager.Linked) :
    manager.handlers.length ≤ after.handlers.length := by
  by_contra fewer
  have valid : after.handlers.length < manager.handlers.length := by omega
  have found := List.getElem?_eq_getElem valid
  obtain ⟨context, foundContext⟩ := linked.exists_context found
  have stays := same _ valid
  rw [view_eq_some found foundContext] at stays
  simp [view] at stays

theorem sameViews_afterCalls (assumed : executor.Assumed) {calls : List (HandlerCall Config)}
    (consistent : manager.Consistent) (goThrough : NoneHalfWay executor manager calls) :
    SameViews executor manager (manager.afterCalls executor calls) := by
  induction calls generalizing manager with
  | nil => exact fun _ _ => rfl
  | cons call rest inductionHypothesis =>
      have kept := kept_afterCall assumed consistent goThrough.1
      exact kept.same.trans (inductionHypothesis kept.consistent goThrough.2)
        (kept.same.length_le consistent.toLinked)

/-- The ownership survives a run exactly when no acquisition in it stops half-way. -/
theorem ownedThroughout_iff_noneHalfWay {calls : List (HandlerCall Config)}
    (consistent : manager.Consistent) :
    OwnedThroughout executor manager calls ↔ NoneHalfWay executor manager calls := by
  induction calls generalizing manager with
  | nil => exact Iff.rfl
  | cons call rest inductionHypothesis =>
      constructor
      · intro ⟨owned, ownedRest⟩
        have goesThrough : ¬manager.HalfWay call :=
          fun halfWay => not_owned_afterCall consistent halfWay owned
        have after : (manager.afterCall executor call).Consistent :=
          consistent_afterCall consistent goesThrough
        exact ⟨goesThrough, (inductionHypothesis after).mp ownedRest⟩
      · intro ⟨goesThrough, restGoThrough⟩
        have after : (manager.afterCall executor call).Consistent :=
          consistent_afterCall consistent goesThrough
        exact ⟨after.toOwned, (inductionHypothesis after).mpr restGoThrough⟩

/-- Exactly when no acquisition stops half-way, every part is where it belongs after every
call. Then every handler can be acquired later, with its own config, state and tokens, and
it stands for the same tokens and the same step as before. -/
theorem ownership_survives_failures (executor : LlmExecutor State Row Config)
    (manager : ResourceManager State Row Config) (consistent : manager.Consistent)
    (calls : List (HandlerCall Config)) :
    (OwnedThroughout executor manager calls ↔ NoneHalfWay executor manager calls) ∧
      (NoneHalfWay executor manager calls →
        (∀ handler < (manager.afterCalls executor calls).handlers.length,
          Acquires executor (manager.afterCalls executor calls) handler) ∧
        (executor.Assumed → SameViews executor manager (manager.afterCalls executor calls))) := by
  refine ⟨ownedThroughout_iff_noneHalfWay consistent, fun goThrough => ⟨?_, ?_⟩⟩
  · intro handler valid
    exact acquires_of_consistent (consistent_afterCalls consistent goThrough) valid
  · intro assumed
    exact sameViews_afterCalls assumed consistent goThrough

end Failing

/-! Two handlers, each created; the first is acquired, and the executor refuses to restore
the context of the second. -/

def refusedSwitch : List (HandlerCall Unit) :=
  [.createContextHandler {} (), .createContextHandler {} (),
    .acquireExecutorWithContextHandler {} 0,
    .acquireExecutorWithContextHandler
      { restoreContext := some (.internalError "RestoreContext failed.") } 1]

def refusedClone : List (HandlerCall Unit) :=
  [.createContextHandler {} (), .createContextHandler {} (),
    .acquireExecutorWithContextHandler {} 0,
    .acquireExecutorWithContextHandler
      { cloneContext := some (.internalError "CloneContext failed.") } 1]

theorem consistent_emptyManager : emptyManager.Consistent :=
  (consistent_of_initial initial_emptyManager).1

/-- A refused copy of the current context changes nothing: both handlers keep their parts. -/
theorem ownership_survives_refusedClone :
    OwnedThroughout (LlmExecutor.tokenExecutor Nat) emptyManager refusedClone ∧
      SameViews (LlmExecutor.tokenExecutor Nat) emptyManager
        (emptyManager.afterCalls (LlmExecutor.tokenExecutor Nat) refusedClone) := by
  have goThrough : NoneHalfWay (LlmExecutor.tokenExecutor Nat) emptyManager refusedClone := by
    refine ⟨?_, ?_, ?_, ?_, trivial⟩
    · exact fun halfWay => halfWay
    · exact fun halfWay => halfWay
    · exact fun ⟨_, _, stops⟩ => stops.2 rfl
    · exact fun ⟨_, _, stops⟩ => stops.2 rfl
  have survives := ownership_survives_failures (LlmExecutor.tokenExecutor Nat) emptyManager
    consistent_emptyManager refusedClone
  exact ⟨survives.1.mpr goThrough,
    (survives.2 goThrough).2 (LlmExecutor.tokenExecutor_assumed Nat)⟩

/-- A refused restore leaves the first handler current although it has its config back, and
the second one without its own. -/
theorem ownership_lost_refusedSwitch :
    ¬∀ (State Row Config : Type) (executor : LlmExecutor State Row Config)
      (manager : ResourceManager State Row Config), executor.Assumed → manager.Consistent →
      ∀ calls, OwnedThroughout executor manager calls := by
  intro survives
  have owned := survives _ _ _ (LlmExecutor.tokenExecutor Nat) emptyManager
    (LlmExecutor.tokenExecutor_assumed Nat) consistent_emptyManager refusedSwitch
  have last := owned.2.2.2.1
  have loaded := @last.loaded 0 _ rfl rfl
  exact absurd loaded.1 (by simp)

end LiteRTLM.Framework.ResourceManager
