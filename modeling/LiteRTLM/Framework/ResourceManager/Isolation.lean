import LiteRTLM.Framework.ResourceManager.Calls

/-!
Contract: context handlers are isolated from each other.

Owns: the effect of separating a handler and of the executor's operations on the
other handlers, and isolation along every run.

Does not own: what an operation does to the handler that performs it.
-/

namespace LiteRTLM.Framework.ResourceManager

open LiteRTLM.Engine
open LiteRTLM.Executor
open LiteRTLM.Library
open LiteRTLM.Library.PrefixMatching

variable {State Row Config : Type} {executor : LlmExecutor State Row Config}
  {manager : ResourceManager State Row Config}

/-! ## Overwriting the end of a list -/

/-- Cutting a list and appending to it keeps a front exactly when what is cut off that
front is appended again. -/
theorem take_take_append_eq_iff {α : Type} {tokens appended : List α} {step bound : Nat}
    (stepInside : step ≤ tokens.length) (boundInside : bound ≤ tokens.length) :
    (tokens.take step ++ appended).take bound = tokens.take bound ↔
      (tokens.take bound).drop step <+: appended := by
  have cutLength : (tokens.take step).length = step := List.length_take_of_le stepInside
  by_cases before : bound ≤ step
  · have unchanged : (tokens.take step ++ appended).take bound = tokens.take bound := by
      rw [List.take_append_of_le_length (by omega), List.take_take, min_eq_left before]
    have nothing : (tokens.take bound).drop step = [] := by
      apply List.drop_eq_nil_of_le
      rw [List.length_take]
      omega
    simp [unchanged, nothing]
  · have split : tokens.take bound = tokens.take step ++ (tokens.take bound).drop step := by
      conv_lhs => rw [← List.take_append_drop step (tokens.take bound)]
      rw [List.take_take, min_eq_left (by omega)]
    have lengthEq : ((tokens.take bound).drop step).length = bound - step := by
      rw [List.length_drop, List.length_take_of_le boundInside]
    have overwritten : (tokens.take step ++ appended).take bound =
        tokens.take step ++ appended.take (bound - step) := by
      rw [List.take_append, cutLength, List.take_take, min_eq_right (by omega)]
    rw [List.prefix_iff_eq_take, lengthEq, overwritten]
    conv_lhs => rhs; rw [split]
    rw [List.append_cancel_left_eq]
    exact eq_comm

/-! ## Operations of the executor -/

/-- A handler other than the current one that uses the executor's tokens. -/
def SharesWithCurrent (manager : ResourceManager State Row Config) (other : Nat) : Prop :=
  manager.currentHandler ≠ some other ∧
    ∃ contents, manager.handlers[other]? = some contents ∧
      manager.currentContext = some contents.sharedProcessedContext

theorem sharesWithCurrent_iff {other : Nat} :
    manager.SharesWithCurrent other ↔ manager.currentHandler ≠ some other ∧
      (manager.handlers[other]?.map ContextHandler.sharedProcessedContext).isSome ∧
      manager.handlers[other]?.map ContextHandler.sharedProcessedContext =
        manager.currentContext := by
  unfold SharesWithCurrent
  cases manager.handlers[other]? <;> simp [eq_comm]

instance (manager : ResourceManager State Row Config) (other : Nat) :
    Decidable (manager.SharesWithCurrent other) :=
  decidable_of_iff _ sharesWithCurrent_iff.symm

/-- What the executor puts after `step` repeats what the handlers that share its tokens
have there. -/
def KeepsSharers (executor : LlmExecutor State Row Config)
    (manager : ResourceManager State Row Config) (step : Nat) (appended : List (Entry Row)) :
    Prop :=
  ∀ other < manager.handlers.length, manager.SharesWithCurrent other →
    ((history executor manager other).getD []).drop step <+: appended

/-- The other handlers keep their histories. -/
def OthersKeep (executor : LlmExecutor State Row Config)
    (before after : ResourceManager State Row Config) : Prop :=
  ∀ other < before.handlers.length, before.currentHandler ≠ some other →
    history executor after other = history executor before other

theorem Consistent.othersKeep_operate_iff (consistent : manager.Consistent)
    (inTokens : manager.Within executor) {step : Int}
    (inside : step.toNat ≤ (executor.getProcessedTokens manager.executorState).length)
    {appended : List (Entry Row)} {executorState : State}
    (appends : executor.AppendsAt step appended manager.executorState executorState) :
    OthersKeep executor manager (manager.operate executorState) ↔
      KeepsSharers executor manager step.toNat appended := by
  apply forall_congr'
  intro other
  apply forall_congr'
  intro valid
  by_cases notCurrent : manager.currentHandler = some other
  · simp [notCurrent, SharesWithCurrent]
  have found := List.getElem?_eq_getElem valid
  rw [consistent.history_operate_iff found notCurrent]
  by_cases shared : manager.currentContext =
      some manager.handlers[other].sharedProcessedContext
  · have viewed := consistent.view_shared executor found shared
    have within := inTokens other _ viewed
    have shares : manager.SharesWithCurrent other := ⟨notCurrent, _, found, shared⟩
    have kept : history executor manager other = some
        ((executor.getProcessedTokens manager.executorState).take
          (handlerStep executor manager.executorState manager.handlers[other])) := by
      rw [history_eq_view, viewed, Option.map_some]
    simp only [notCurrent, ne_eq, not_false_eq_true, true_implies, shared, shares, kept,
      Option.getD_some, appends.tokens]
    exact take_take_append_eq_iff inside within
  · have apart : ¬manager.SharesWithCurrent other := by
      rintro ⟨-, contents, found', shared'⟩
      rw [found] at found'
      cases found'
      exact shared shared'
    simp [shared, apart]

theorem Consistent.within_operate_appends (consistent : manager.Consistent)
    (inTokens : manager.Within executor) {current : Nat}
    (isCurrent : manager.currentHandler = some current) {step : Int}
    (inside : step.toNat ≤ (executor.getProcessedTokens manager.executorState).length)
    {appended : List (Entry Row)} {executorState : State}
    (appends : executor.AppendsAt step appended manager.executorState executorState)
    (keeps : KeepsSharers executor manager step.toNat appended) :
    (manager.operate executorState).Within executor := by
  have others := (consistent.othersKeep_operate_iff inTokens inside appends).mpr keeps
  apply inTokens.operate consistent isCurrent
  · rw [appends.step, appends.tokens, List.length_append, List.length_take_of_le inside]
  · intro other contents found isOther shared
    have valid := (List.getElem?_eq_some_iff.mp found).1
    have notCurrent : manager.currentHandler ≠ some other := by
      rw [isCurrent]
      simpa using Ne.symm isOther
    have same := (consistent.history_operate_iff found notCurrent).mp
      (others other valid notCurrent) shared
    have within : handlerStep executor manager.executorState contents ≤
        (executor.getProcessedTokens manager.executorState).length :=
      inTokens other _ (consistent.view_shared executor found shared)
    have lengths := congrArg List.length same
    rw [List.length_take, List.length_take_of_le within] at lengths
    omega

/-! ## Separating the current handler -/

/-- The steps of the handlers that share the executor's tokens are at most `bound`. -/
def SharersWithin (executor : LlmExecutor State Row Config)
    (manager : ResourceManager State Row Config) (bound : Nat) : Prop :=
  ∀ {other : Nat} {contents : ContextHandler Config}, manager.handlers[other]? = some contents →
    manager.currentHandler ≠ some other →
    manager.currentContext = some contents.sharedProcessedContext →
      handlerStep executor manager.executorState contents ≤ bound

/-- Nothing beyond the sharers' steps is theirs. -/
theorem Consistent.keepsSharers (consistent : manager.Consistent) {bound : Nat}
    (within : SharersWithin executor manager bound) (appended : List (Entry Row)) :
    KeepsSharers executor manager bound appended := by
  rintro other valid ⟨notCurrent, contents, found, shared⟩
  have bounded := within found notCurrent shared
  have nothing : ((history executor manager other).getD []).drop bound = [] := by
    apply List.drop_eq_nil_of_le
    rw [history_eq_view, consistent.view_shared executor found shared, Option.map_some, Option.getD_some,
      List.length_take]
    exact (min_le_left _ _).trans bounded
  rw [nothing]
  exact List.nil_prefix

/-- The executor's tokens bound the steps of those who share them. -/
theorem Consistent.sharersWithin_length (consistent : manager.Consistent)
    (inTokens : manager.Within executor) :
    SharersWithin executor manager (executor.getProcessedTokens manager.executorState).length := by
  intro other contents found notCurrent shared
  exact inTokens other _ (consistent.view_shared executor found shared)

/-- `LongestHandlerTimeStep` returns a bound of the steps of all handlers of the context. -/
theorem ends_longestHandlerTimeStep (consistent : manager.Consistent) {index : Nat}
    {context : SharedProcessedContext Row} (foundContext : manager.contexts[index]? = some context)
    {returned : Nat → ResourceManager State Row Config → Prop}
    {failed : Status → ResourceManager State Row Config → Prop}
    (returns : ∀ longest, (∀ {other : Nat} {contents : ContextHandler Config},
      manager.handlers[other]? = some contents → contents.sharedProcessedContext = index →
        handlerStep executor manager.executorState contents ≤ longest) →
      returned longest manager) :
    Ends (longestHandlerTimeStep executor {} index) manager returned failed := by
  have bounds := returns (((context.handlers.filterMap fun handler =>
    manager.handlers[handler]?).map (handlerStep executor manager.executorState)).foldl max 0) (by
      intro other contents found shares
      have sharing : contents ∈ context.handlers.filterMap fun handler =>
          manager.handlers[handler]? := by
        apply List.mem_filterMap.mpr
        exact ⟨other, (consistent.listed other foundContext).mpr (by simp [found, shares]),
          found⟩
      have member := List.mem_map_of_mem (f := handlerStep executor manager.executorState) sharing
      rw [List.foldl_max_eq_max (List.ne_nil_of_mem member)]
      exact le_trans (List.le_max_of_mem member) (le_max_right _ _))
  simp only [longestHandlerTimeStep, ends_bind, ends_get, ends_getContext foundContext]
  split
  · simpa using bounds
  · simpa using bounds

/-- Separating a handler moves it to a context of its own. -/
theorem ends_saveProcessedContextAndSeparateLoadedHandler (assumed : executor.Assumed)
    (consistent : manager.Consistent) {handler : Nat} {contents : ContextHandler Config}
    (current : manager.currentHandler = some handler)
    (found : manager.handlers[handler]? = some contents)
    {returned : Unit → ResourceManager State Row Config → Prop}
    {failed : Status → ResourceManager State Row Config → Prop} :
    Ends (saveProcessedContextAndSeparateLoadedHandler executor {} handler) manager
        returned failed ↔
      returned () (manager.separate executor handler contents.sharedProcessedContext) := by
  obtain ⟨context, foundContext⟩ := consistent.exists_context found
  have loaded := consistent.loaded found current
  have empty := (consistent.context foundContext).mpr
    (currentContext_eq_some_iff.mpr ⟨_, _, current, found, rfl⟩)
  simp only [saveProcessedContextAndSeparateLoadedHandler, ends_bind, ends_getHandler _ found,
    ends_getContext foundContext, ends_retCheck, ends_askExecutor, loaded, empty, and_self,
    true_implies, not_true_eq_false, false_implies, and_true, setProcessedContext,
    ends_updateContext, ends_get, ends_modify, updateSharedProcessedContext]
  rw [ends_getHandler _ (by exact found)]
  have valid := consistent.context_valid found
  have isNew : contents.sharedProcessedContext ≠ manager.contexts.length := by omega
  have contexts : (((manager.contexts.modify contents.sharedProcessedContext
        fun context : SharedProcessedContext Row =>
          ⟨context.handlers, some (executor.getProcessedTokens manager.executorState)⟩) ++
        [SharedProcessedContext.mk [] none]).modify contents.sharedProcessedContext
          fun context : SharedProcessedContext Row =>
            ⟨context.handlers.filter (· ≠ handler), context.processedContext⟩).modify
              manager.contexts.length (fun context : SharedProcessedContext Row =>
                ⟨context.handlers ++ [handler], context.processedContext⟩) =
      (manager.separate executor handler contents.sharedProcessedContext).contexts := by
    apply List.ext_getElem?
    intro index
    simp only [separate, List.getElem?_modify, List.getElem?_append, List.length_modify,
      Option.map_eq_map]
    grind
  simp only [isNew, List.length_modify, if_false, ends_bind, ends_updateContext,
    ends_updateHandler, assumed.cloneContext_tokens, contexts]
  exact Iff.rfl

/-- What `separateUnlessLongest` leaves: what the handlers stand for is the same, and
those that still share the executor's tokens lie within `bound`. -/
structure Separated (executor : LlmExecutor State Row Config)
    (before after : ResourceManager State Row Config) (bound : Nat) : Prop extends
    Kept executor before after where
  executorState : after.executorState = before.executorState
  currentHandler : after.currentHandler = before.currentHandler
  handlers : after.handlers.length = before.handlers.length
  sharers : SharersWithin executor after bound

theorem Separated.within_before {between : ResourceManager State Row Config} {bound : Nat}
    (separated : Separated executor manager between bound) (within : between.Within executor) :
    manager.Within executor := by
  have same : SameViews executor between manager := fun handler valid =>
    (separated.same handler (by rwa [← separated.handlers])).symm
  exact within.of_sameViews_of_length same separated.handlers.symm

theorem separated_separateUnlessLongest (assumed : executor.Assumed)
    (consistent : manager.Consistent) {handler : Nat}
    (current : manager.currentHandler = some handler) (bound : Nat) :
    Ends (separateUnlessLongest executor {} handler bound) manager
      (fun _ after => Separated executor manager after bound) (fun _ _ => False) := by
  have found := List.getElem?_eq_getElem (consistent.current_valid current)
  obtain ⟨context, foundContext⟩ := consistent.exists_context found
  simp only [separateUnlessLongest, ends_bind, ends_getHandler _ found]
  apply ends_longestHandlerTimeStep consistent foundContext
  intro longest isBound
  by_cases isLongest : (longest : Int) = bound
  · have equal : longest = bound := Int.ofNat_inj.mp isLongest
    simp only [isLongest, ne_eq, not_true_eq_false, if_false, ends_pure]
    refine ⟨kept_refl consistent, rfl, rfl, rfl, ?_⟩
    intro other contents otherFound notCurrent shared
    obtain ⟨handler', contents', current', found', shares⟩ := currentContext_eq_some_iff.mp shared
    rw [current] at current'
    cases current'
    rw [found] at found'
    cases found'
    exact (isBound otherFound shares.symm).trans equal.le
  · simp only [ne_eq, isLongest, not_false_eq_true, if_true]
    rw [ends_saveProcessedContextAndSeparateLoadedHandler assumed consistent current found]
    have same := consistent.sameViews_separate executor current found
    refine ⟨⟨consistent.separate current found,
      fun within => within.of_sameViews_of_length same (by simp [separate]), same⟩,
      rfl, rfl, by simp [separate], ?_⟩
    intro other contents otherFound notCurrent shared
    have isOther : other ≠ handler := by
      rintro rfl
      exact notCurrent current
    have alone := consistent.separate_alone isOther otherFound
    obtain ⟨handler', contents', current', found', shares⟩ := currentContext_eq_some_iff.mp shared
    cases current.symm.trans current'
    simp [separate, found] at found'
    exact absurd (shares.symm.trans (by rw [← found'])) alone

/-! ## Calls through the executor -/

/-- Consistency is kept, and the histories of the other handlers when no handler's step
lies beyond its tokens. -/
structure Isolated (executor : LlmExecutor State Row Config)
    (before after : ResourceManager State Row Config) : Prop where
  consistent : after.Consistent
  handlers : before.handlers.length ≤ after.handlers.length
  within : before.Within executor → after.Within executor
  others : before.Within executor → OthersKeep executor before after

theorem SameViews.history {after : ResourceManager State Row Config}
    (same : SameViews executor manager after) {handler : Nat}
    (valid : handler < manager.handlers.length) :
    history executor after handler = history executor manager handler := by
  rw [history_eq_view, history_eq_view, same handler valid]

theorem isolated_refl (executor : LlmExecutor State Row Config)
    (consistent : manager.Consistent) : Isolated executor manager manager :=
  ⟨consistent, le_rfl, id, fun _ _ _ _ => rfl⟩

theorem Separated.isolated {between after : ResourceManager State Row Config} {bound : Nat}
    (separated : Separated executor manager between bound)
    (isolated : Isolated executor between after) : Isolated executor manager after := by
  refine ⟨isolated.consistent, separated.handlers.ge.trans isolated.handlers,
    fun within => isolated.within (separated.within within), ?_⟩
  intro within other valid notCurrent
  rw [isolated.others (separated.within within) other (by rw [separated.handlers]; exact valid)
    (by rw [separated.currentHandler]; exact notCurrent), separated.same.history valid]

/-- An operation that appends isolates when it repeats what it cuts off the others. -/
theorem Consistent.isolated_appends (consistent : manager.Consistent) {current : Nat}
    (isCurrent : manager.currentHandler = some current) {step : Int}
    {appended : List (Entry Row)} {executorState : State}
    (appends : executor.AppendsAt step appended manager.executorState executorState)
    (inside : manager.Within executor →
      step.toNat ≤ (executor.getProcessedTokens manager.executorState).length)
    (keeps : manager.Within executor → KeepsSharers executor manager step.toNat appended) :
    Isolated executor manager (manager.operate executorState) where
  consistent := consistent.operate executorState
  handlers := le_rfl
  within within :=
    consistent.within_operate_appends within isCurrent (inside within) appends (keeps within)
  others within :=
    (consistent.othersKeep_operate_iff within (inside within) appends).mpr (keeps within)

/-- Moving the step alone disturbs no other handler. -/
theorem Consistent.isolated_setCurrentStep (assumed : executor.Assumed)
    (consistent : manager.Consistent) {current : Nat}
    (isCurrent : manager.currentHandler = some current) {step : Int}
    (inside : step.toNat ≤ (executor.getProcessedTokens manager.executorState).length) :
    Isolated executor manager
      (manager.operate (executor.setCurrentStep step manager.executorState)) := by
  have tokens := assumed.setCurrentStep_tokens step manager.executorState
  refine ⟨consistent.operate _, le_rfl, fun within => within.operate consistent isCurrent ?_ ?_, ?_⟩
  · rw [assumed.setCurrentStep_step, tokens]
    exact inside
  · intro other contents found _ shared
    rw [tokens]
    exact within other _ (consistent.view_shared executor found shared)
  · intro _ other valid notCurrent
    rw [consistent.history_operate_iff (List.getElem?_eq_getElem valid) notCurrent, tokens]
    exact fun _ => rfl

/-- `setCurrentStep` before an operation at that step changes nothing for it. -/
theorem appendsAt_after_setCurrentStep (assumed : executor.Assumed) {step : Int}
    {appended : List (Entry Row)} {moved before after : State}
    (isMoved : moved = executor.setCurrentStep step before)
    (appends : executor.AppendsAt step appended moved after) :
    executor.AppendsAt step appended before after := by
  constructor
  · rw [appends.tokens, isMoved, assumed.setCurrentStep_tokens]
  · exact appends.step

/-- An operation at an earlier step, once a handler that is not the longest has left the
processed context it shares. -/
theorem isolated_divergence (assumed : executor.Assumed) (consistent : manager.Consistent)
    {handler : Nat} (current : manager.currentHandler = some handler) {step : Nat}
    (inside : manager.Within executor →
      step ≤ (executor.getProcessedTokens manager.executorState).length)
    {appended : List (Entry Row)} {operation : State → State}
    (appends : ∀ state, executor.AppendsAt step appended
      (executor.setCurrentStep step state) (operation (executor.setCurrentStep step state))) :
    Ends (do
        separateUnlessLongest executor {} handler step
        runExecutor none (executor.setCurrentStep step)
        runExecutor none operation) manager
      (fun _ => Isolated executor manager) (fun _ => Isolated executor manager) := by
  simp only [ends_bind, ends_runExecutor]
  apply (separated_separateUnlessLongest assumed consistent current step).mono
  · intro _ between separated
    apply separated.isolated
    have appends' := appendsAt_after_setCurrentStep assumed rfl (appends between.executorState)
    apply separated.consistent.isolated_appends (separated.currentHandler.trans current) appends'
    · intro within
      rw [separated.executorState, Int.toNat_natCast]
      exact inside (separated.within_before within)
    · intro _
      rw [Int.toNat_natCast]
      exact separated.consistent.keepsSharers separated.sharers appended
  · exact fun _ _ => False.elim

theorem isolated_decode (assumed : executor.Assumed) (consistent : manager.Consistent)
    {handler : Nat} (current : manager.currentHandler = some handler)
    (generated : List (Entry Row)) :
    Ends (decode executor {} (some handler) generated) manager
      (fun _ => Isolated executor manager) (fun _ => Isolated executor manager) := by
  simp only [decode, ends_bind, ends_askExecutor]
  split
  · next atEnd =>
      have appends := assumed.decode_appends generated manager.executorState
      rw [← atEnd] at appends
      rw [ends_runExecutor]
      apply consistent.isolated_appends current appends
      · simp
      · intro within
        rw [Int.toNat_natCast]
        exact consistent.keepsSharers (consistent.sharersWithin_length within) generated
  · apply isolated_divergence assumed consistent current
    · exact fun within => consistent.step_le within current
    · intro state
      have appends := assumed.decode_appends generated
        (executor.setCurrentStep (executor.getCurrentStep manager.executorState) state)
      rwa [assumed.setCurrentStep_step, Int.toNat_natCast] at appends

/-- A successful `RemoveMatchingTokens` advances the step inside the processed tokens. -/
theorem removeMatchingTokens_inside {processedTokens inputIds remaining : List Int}
    {timeStep next : Int}
    (removed : removeMatchingTokens processedTokens inputIds timeStep = .ok (remaining, next)) :
    0 ≤ next ∧ next ≤ processedTokens.length := by
  unfold removeMatchingTokens at removed
  split at removed
  · cases removed
  · split at removed
    · cases removed
    · next nonnegative inside =>
        simp only [Except.ok.injEq, Prod.mk.injEq] at removed
        have matched := (le_commonPrefixLength_iff (inputIds.take (min inputIds.length
          (processedTokens.length - timeStep.toNat))) (processedTokens.drop timeStep.toNat) _).mp
            le_rfl
        rw [List.length_take] at matched
        omega

theorem isolated_prefillRemaining (assumed : executor.Assumed)
    (consistent : manager.Consistent) {handler : Nat}
    (current : manager.currentHandler = some handler) (remainingIds : List Int) {step : Nat}
    (inside : step ≤ (executor.getProcessedTokens manager.executorState).length) :
    Ends (prefillRemaining executor {} handler remainingIds step) manager
      (fun _ => Isolated executor manager) (fun _ => Isolated executor manager) := by
  have stepFrom : ∀ executorStep : Nat,
      (ExecutorPrefillParams.mk (step : Int)).stepFrom executorStep = step := by
    intro executorStep
    have notDefault : (step : Int) ≠ -1 := by omega
    simp [ExecutorPrefillParams.stepFrom, notDefault]
  unfold prefillRemaining
  split
  · rw [ends_runExecutor]
    exact consistent.isolated_setCurrentStep assumed current (by simpa using inside)
  · simp only [ends_bind, ends_askExecutor]
    split
    · next atEnd =>
        have appends := assumed.prefill_appends (.ofTokenIds remainingIds) ⟨step⟩
          manager.executorState
        rw [stepFrom, ← atEnd] at appends
        rw [ends_runExecutor, ← atEnd]
        apply consistent.isolated_appends current appends
        · simp
        · intro within
          rw [Int.toNat_natCast]
          exact consistent.keepsSharers (consistent.sharersWithin_length within) _
    · apply isolated_divergence assumed consistent current (fun _ => inside)
      intro state
      have appends := assumed.prefill_appends (.ofTokenIds remainingIds) ⟨step⟩
        (executor.setCurrentStep step state)
      rwa [stepFrom] at appends

theorem isolated_prefill (assumed : executor.Assumed) (consistent : manager.Consistent)
    {handler : Nat} (current : manager.currentHandler = some handler)
    (inputs : ExecutorInputs Row) (prefillParams : ExecutorPrefillParams) :
    Ends (prefill executor {} (some handler) inputs prefillParams) manager
      (fun _ => Isolated executor manager) (fun _ => Isolated executor manager) := by
  have unchanged := isolated_refl executor consistent
  simp only [prefill, ends_bind]
  cases inputs.getTextTokenIds with
  | error status => simpa using unchanged
  | ok tokenIds =>
      rw [ends_returnIfError_ok, ends_retCheck]
      refine ⟨fun _ => ?_, fun _ => unchanged⟩
      split
      · exact unchanged
      · simp only [ends_bind, ends_askExecutor]
        split
        · next atEnd =>
            have appends := assumed.prefill_appends inputs prefillParams manager.executorState
            rw [← atEnd] at appends
            rw [ends_runExecutor]
            apply consistent.isolated_appends current appends
            · simp
            · intro within
              rw [Int.toNat_natCast]
              exact consistent.keepsSharers (consistent.sharersWithin_length within) _
        · rw [ends_bind]
          cases removed : removeMatchingTokens
              ((executor.getProcessedTokens manager.executorState).map Entry.id) tokenIds.tokenIds
              (prefillParams.stepFrom (executor.getCurrentStep manager.executorState)) with
          | error status => simpa using unchanged
          | ok remaining =>
              obtain ⟨remainingIds, next⟩ := remaining
              obtain ⟨nonnegative, inside⟩ := removeMatchingTokens_inside removed
              obtain ⟨step, rfl⟩ := Int.eq_ofNat_of_zero_le nonnegative
              rw [ends_returnIfError_ok]
              exact isolated_prefillRemaining assumed consistent current remainingIds
                (by simpa using inside)

/-! ## Isolation -/

/-- The call is an operation made while the handler is the acquired one. -/
def OperatesAs (manager : ResourceManager State Row Config) (handler : Nat)
    (call : Call Row Config) : Prop :=
  call.throughExecutor = true ∧ manager.currentHandler = some handler

instance (manager : ResourceManager State Row Config) (handler : Nat) (call : Call Row Config) :
    Decidable (manager.OperatesAs handler call) :=
  inferInstanceAs (Decidable (_ ∧ _))

/-- A decode with inputs, which the locked executor forwards without looking at the
other handlers, feeds again whatever it cuts off them. -/
def RepeatsSharers (executor : LlmExecutor State Row Config)
    (manager : ResourceManager State Row Config) : Call Row Config → Prop
  | .decodeInputs inputs => KeepsSharers executor manager
      (executor.getCurrentStep manager.executorState) inputs.entries
  | _ => True

/-- The histories of all handlers that the call is not an operation of are kept. -/
structure StepIsolated (executor : LlmExecutor State Row Config)
    (before : ResourceManager State Row Config) (call : Call Row Config)
    (after : ResourceManager State Row Config) : Prop where
  consistent : after.Consistent
  handlers : before.handlers.length ≤ after.handlers.length
  within : before.Within executor → RepeatsSharers executor before call → after.Within executor
  histories : before.Within executor → RepeatsSharers executor before call →
    ∀ handler < before.handlers.length, ¬before.OperatesAs handler call →
      history executor after handler = history executor before handler

theorem SameViews.handlers_length_le {after : ResourceManager State Row Config}
    (same : SameViews executor manager after) (linked : manager.Linked) :
    manager.handlers.length ≤ after.handlers.length := by
  by_contra shorter
  have valid : after.handlers.length < manager.handlers.length := by omega
  have found := List.getElem?_eq_getElem valid
  obtain ⟨context, foundContext⟩ := linked.exists_context found
  have viewed := same _ valid
  rw [view_eq_some found foundContext] at viewed
  obtain ⟨contents, _, inAfter, -⟩ := view_eq_some_iff.mp viewed
  simp at inAfter

theorem Kept.stepIsolated {after : ResourceManager State Row Config}
    (kept : Kept executor manager after) (linked : manager.Linked) (call : Call Row Config) :
    StepIsolated executor manager call after :=
  ⟨kept.consistent, kept.same.handlers_length_le linked, fun within _ => kept.within within,
    fun _ _ _ valid _ => kept.same.history valid⟩

theorem Isolated.stepIsolated {after : ResourceManager State Row Config}
    (isolated : Isolated executor manager after) {call : Call Row Config}
    (through : call.throughExecutor = true) : StepIsolated executor manager call after :=
  ⟨isolated.consistent, isolated.handlers, fun within _ => isolated.within within,
    fun within _ handler valid notOperates =>
      isolated.others within handler valid fun current => notOperates ⟨through, current⟩⟩

/-- One call keeps the manager consistent and isolates the other handlers. -/
theorem step_isolates (assumed : executor.Assumed) (consistent : manager.Consistent)
    {call : Call Row Config} {after : ResourceManager State Row Config}
    (steps : (machine executor).step manager call = some after) :
    StepIsolated executor manager call after := by
  simp only [machine] at steps
  split at steps
  · cases steps
  next enabled =>
  have through : call.throughExecutor = true → ∃ handler, manager.currentHandler = some handler :=
    fun isThrough => Option.ne_none_iff_exists'.mp fun none => enabled ⟨isThrough, none⟩
  cases steps
  cases call with
  | createContextHandler runtimeConfig =>
      exact (kept_createContextHandler assumed consistent runtimeConfig).stepIsolated
        consistent.toLinked _
  | cloneContextHandler handler =>
      exact (kept_cloneContextHandler assumed consistent handler).stepIsolated
        consistent.toLinked _
  | acquireExecutorWithContextHandler handler =>
      exact (kept_acquireExecutorWithContextHandler assumed consistent handler).stepIsolated
        consistent.toLinked _
  | prefill inputs prefillParams =>
      obtain ⟨handler, current⟩ := through rfl
      have isolated := (ends_finalState_iff _ _).mp
        (isolated_prefill assumed consistent current inputs prefillParams)
      simp only [perform, current]
      exact isolated.stepIsolated rfl
  | decode generated =>
      obtain ⟨handler, current⟩ := through rfl
      have isolated := (ends_finalState_iff _ _).mp
        (isolated_decode assumed consistent current generated)
      simp only [perform, current]
      exact isolated.stepIsolated rfl
  | decodeInputs inputs =>
      obtain ⟨handler, current⟩ := through rfl
      have appends := assumed.decodeInputs_appends inputs manager.executorState
      have inside : manager.Within executor →
          (executor.getCurrentStep manager.executorState : Int).toNat ≤
            (executor.getProcessedTokens manager.executorState).length :=
        fun within => by simpa using consistent.step_le within current
      refine ⟨consistent.operate _, le_rfl, fun within repeats =>
        consistent.within_operate_appends within current (inside within) appends repeats, ?_⟩
      intro within repeats other valid notOperates
      exact (consistent.othersKeep_operate_iff within (inside within) appends).mpr repeats other
        valid fun isCurrent => notOperates ⟨rfl, isCurrent⟩

/-- Decoding with inputs isolates exactly when the inputs repeat what is cut off. -/
theorem othersKeep_decodeInputs_iff (assumed : executor.Assumed) (consistent : manager.Consistent)
    (within : manager.Within executor) {handler : Nat}
    (current : manager.currentHandler = some handler) (inputs : ExecutorInputs Row) :
    OthersKeep executor manager (finalState (decodeInputs executor {} inputs) manager) ↔
      RepeatsSharers executor manager (.decodeInputs inputs : Call Row Config) :=
  consistent.othersKeep_operate_iff within (by simpa using consistent.step_le within current)
    (assumed.decodeInputs_appends inputs manager.executorState)

theorem consistent_of_initial {manager : ResourceManager State Row Config}
    (starts : (machine executor).Initial manager) :
    manager.Consistent ∧ manager.Within executor := by
  obtain ⟨noHandlers, noContexts, noCurrent⟩ := starts
  refine ⟨⟨?_, ?_⟩, ?_⟩
  · constructor <;> simp [noHandlers, noContexts, noCurrent]
  · constructor <;> simp [noHandlers, noContexts]
  · intro handler seen viewed
    simp [view, noHandlers] at viewed

/-- The manager is consistent after any calls. -/
theorem consistent_of_reachable (assumed : executor.Assumed)
    {guard : ResourceManager State Row Config → Call Row Config → Prop}
    (reached : (machine executor).ReachableUnder guard manager) : manager.Consistent :=
  reached.invariant Consistent (fun _ starts => (consistent_of_initial starts).1)
    fun _ _ _ consistent _ steps => (step_isolates assumed consistent steps).consistent

theorem within_of_reachable (assumed : executor.Assumed)
    (reached : (machine executor).ReachableUnder (RepeatsSharers executor) manager) :
    manager.Within executor := by
  induction reached with
  | initial starts => exact (consistent_of_initial starts).2
  | step reached repeats steps hypothesis =>
      have consistent := consistent_of_reachable assumed reached
      exact (step_isolates assumed consistent steps).within hypothesis repeats

/-- In every run whose calls meet `guard`, a handler's history changes only through
operations made while that handler is the acquired one. -/
def HistoriesIsolated (executor : LlmExecutor State Row Config)
    (guard : ResourceManager State Row Config → Call Row Config → Prop) : Prop :=
  ∀ (before after : ResourceManager State Row Config) (calls : List (Call Row Config))
    (handler : Nat), (machine executor).ReachableUnder guard before →
    handler < before.handlers.length →
    (machine executor).GuardedAlong
      (fun manager call => guard manager call ∧ ¬manager.OperatesAs handler call) before calls →
    (machine executor).execute before calls = some after →
      history executor after handler = history executor before handler

/-- Handlers are isolated from each other when every decode with inputs repeats what it
cuts off the handlers that share its processed context. -/
theorem histories_isolated (assumed : executor.Assumed) :
    HistoriesIsolated executor (RepeatsSharers executor) := by
  intro before after calls handler reached valid guarded executed
  induction calls generalizing before with
  | nil =>
      cases executed
      rfl
  | cons call rest hypothesis =>
      obtain ⟨⟨repeats, notOperates⟩, guardedRest⟩ := guarded
      rw [Machine.execute] at executed
      cases steps : (machine executor).step before call with
      | none => simp [steps] at executed
      | some next =>
          rw [steps] at executed guardedRest
          have isolated := step_isolates assumed (consistent_of_reachable assumed reached) steps
          rw [hypothesis next (reached.step repeats steps) (by have := isolated.handlers; omega)
            guardedRest executed]
          exact isolated.histories (within_of_reachable assumed reached) repeats handler valid
            notOperates

/-! A handler and its clone, both after tokens 1, 2 and 3. -/

def textEntries (ids : List Int) : List (Entry Nat) :=
  ids.map fun id => ⟨id, none⟩

/-- The clone is at step 3; the handler it was cloned from is the current one. -/
def clonedManager (currentStep : Nat) :
    ResourceManager (LlmExecutor.TokenState Nat) Nat Unit where
  handlers := [⟨0, none, none⟩, ⟨0, some (), some ⟨3⟩⟩]
  contexts := [⟨[0, 1], none⟩]
  currentHandler := some 0
  executorState := ⟨textEntries [1, 2, 3], currentStep⟩

/-- Creating, acquiring, prefilling, cloning, and a prefill that moves back to step 2. -/
def cloneCalls : List (Call Nat Unit) :=
  [.createContextHandler (), .acquireExecutorWithContextHandler 0,
    .prefill (.ofTokenIds [1, 2, 3]) ⟨-1⟩, .cloneContextHandler 0, .prefill (.ofTokenIds [2]) ⟨1⟩]

def emptyManager : ResourceManager (LlmExecutor.TokenState Nat) Nat Unit :=
  ⟨[], [], none, ⟨[], 0⟩⟩

theorem initial_emptyManager :
    (machine (LlmExecutor.tokenExecutor Nat)).Initial emptyManager :=
  ⟨rfl, rfl, rfl⟩

theorem execute_cloneCalls :
    (machine (LlmExecutor.tokenExecutor Nat)).execute emptyManager cloneCalls =
      some (clonedManager 2) := rfl

/-- Decoding at step 2 moves the handler to a context of its own and leaves the clone
with its three tokens. -/
theorem histories_isolated_decode :
    ∃ after, (machine (LlmExecutor.tokenExecutor Nat)).execute (clonedManager 2)
        [.decode (textEntries [9])] = some after ∧
      history (LlmExecutor.tokenExecutor Nat) after 1 =
        history (LlmExecutor.tokenExecutor Nat) (clonedManager 2) 1 := by
  have guarded : (machine (LlmExecutor.tokenExecutor Nat)).GuardedAlong
      (RepeatsSharers (LlmExecutor.tokenExecutor Nat)) emptyManager cloneCalls := by
    exact ⟨trivial, trivial, trivial, trivial, trivial, trivial⟩
  have reached := (Machine.ReachableUnder.initial initial_emptyManager).execute guarded
    execute_cloneCalls
  refine ⟨_, rfl, ?_⟩
  exact histories_isolated (LlmExecutor.tokenExecutor_assumed Nat) _ _
    [.decode (textEntries [9])] 1 reached (by decide) ⟨⟨trivial, by decide⟩, trivial⟩ rfl

/-- A decode with inputs at step 2 overwrites the third token of the clone. -/
theorem histories_not_isolated_decodeInputs :
    ¬∀ (State Row Config : Type) (executor : LlmExecutor State Row Config), executor.Assumed →
      HistoriesIsolated executor (fun _ _ => True) := by
  intro isolated
  have reached := Machine.reachable_of_execute initial_emptyManager execute_cloneCalls
  have same := isolated _ _ _ _ (LlmExecutor.tokenExecutor_assumed Nat) _ _
    [.decodeInputs (.ofTokenIds [9])] 1 reached (by decide) ⟨⟨trivial, by decide⟩, trivial⟩ rfl
  have different : ¬history (LlmExecutor.tokenExecutor Nat)
      (finalState (decodeInputs (LlmExecutor.tokenExecutor Nat) {} (.ofTokenIds [9]))
        (clonedManager 2)) 1 =
      history (LlmExecutor.tokenExecutor Nat) (clonedManager 2) 1 := by decide
  exact different same

end LiteRTLM.Framework.ResourceManager
