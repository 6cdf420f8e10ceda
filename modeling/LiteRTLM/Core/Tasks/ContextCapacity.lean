import Mathlib
import LiteRTLM.Core.Tasks.CompiledModelTasks
import LiteRTLM.Library.Machine

/-!
Contract: the context capacity of a static executor over runs of `Tasks::Prefill` and
`Tasks::Decode`.

Owns: the calls as a machine, the condition under which a call stays within the
capacity, and the invariant over all runs of successful calls that meet it.

Does not own: what a single executor call does.

A prefill compares the number of its new ids with the limit, not their end in the
context; a decode compares the step after it was taken; external sampling prefills one
more id after the last comparison.
-/

namespace LiteRTLM.Core.Tasks

open LiteRTLM.Components
open LiteRTLM.Engine
open LiteRTLM.Executor
open LiteRTLM.Executor.CompiledModelExecutor
open LiteRTLM.Library

variable {Scalar ConstraintState Score : Type}

/-! ## Calls -/

/-- The environment of a step whose backend refuses to fill the attention mask beyond
`maxNumTokens` entries of a row. -/
def StepEnvironment.checkMask (maxNumTokens : Nat)
    (environment : StepEnvironment (CallEnvironment Scalar) Score) :
    StepEnvironment (CallEnvironment Scalar) Score :=
  { environment with executor := environment.executor.checkMask maxNumTokens }

namespace TaskCall

/-- The call with backends that refuse to fill the attention mask beyond `maxNumTokens`
entries of a row. -/
def checkMask (maxNumTokens : Nat) :
    TaskCall Scalar ConstraintState Score → TaskCall Scalar ConstraintState Score
  | .prefill environment textData => .prefill (environment.checkMask maxNumTokens) textData
  | .decode call => .decode { call with
      environments := call.environments.map (StepEnvironment.checkMask maxNumTokens)
      finalEnvironment := call.finalEnvironment.checkMask maxNumTokens }

end TaskCall

/-- The tasks on a static executor. The steps are the calls that return OK. -/
def taskMachine [Bot Scalar] (ConstraintState Score : Type) (maxNumTokens : Nat) :
    Machine (CompiledModelExecutor Scalar) (TaskCall Scalar ConstraintState Score) where
  Initial := fun executor =>
    ∃ signatures outputBatchSize, executor = .initial signatures outputBatchSize
  step := fun executor call => call.after (staticExecutor maxNumTokens) executor

/-! ## The condition -/

/-- After these sampled ids the loop would stop without a limit: all candidates have
stopped, or the benchmark has its steps. -/
def StopConditionMet (stopTokenDetector : StopTokenDetector) (benchmarkDecodeTokenCount : Nat)
    (sampled : List (List Int)) : Prop :=
  if benchmarkDecodeTokenCount = 0 then
    ((sampled.foldl StopTokenDetector.processItems stopTokenDetector).batchItems.all
      BatchItem.stopTokenFound) = true
  else
    sampled.length ≥ benchmarkDecodeTokenCount

/-- The sampled tokens stop the decode before the processed tokens reach the limit. -/
def DecodeCall.StopsWithin (call : DecodeCall Scalar ConstraintState Score) (maxNumTokens : Nat)
    (executor : CompiledModelExecutor Scalar) : Prop :=
  ∃ steps ≤ call.environments.length, 0 < steps ∧
    executor.processedTokens.getStep + steps < maxNumTokens ∧
    StopConditionMet call.stopTokenDetector call.benchmarkDecodeTokenCount
      ((call.environments.take steps).map sampledIds)

/-- The call stays within the context: the ids of a prefill fit behind the tokens already
there, and a decode starts below the limit and, with external sampling, stops before it. -/
def FitsContext (maxNumTokens : Nat) (executor : CompiledModelExecutor Scalar) :
    TaskCall Scalar ConstraintState Score → Prop
  | .prefill _ textData => executor.getCurrentStep + numTokens textData ≤ maxNumTokens
  | .decode call => executor.getCurrentStep < maxNumTokens ∧
      (call.isCustomSampling = true → call.StopsWithin maxNumTokens executor)

/-! ## One decode step -/

variable [Bot Scalar] {maxNumTokens : Nat} {call : DecodeCall Scalar ConstraintState Score}
  {before after : DecodeState (CompiledModelExecutor Scalar) Scalar ConstraintState Score}
  {environment : StepEnvironment (CallEnvironment Scalar) Score}

/-- How a step moves the executor: internal sampling moves the token count by one;
external sampling replaces the pending token and leaves none. -/
structure StepCounted (isCustomSampling : Bool) (before after : CompiledModelExecutor Scalar) :
    Prop where
  internal : isCustomSampling = false →
    before.getCurrentStep = before.processedTokens.getStep + 1 ∧
      after.getCurrentStep = before.getCurrentStep + 1
  external : isCustomSampling = true →
    after.getCurrentStep = before.processedTokens.getStep + 1 ∧
      after.getCurrentStep = after.processedTokens.getStep

theorem decodeStep_counted {stops : Bool}
    (succeeds : Succeeds
      (decodeStep (call.parameters (staticExecutor maxNumTokens)) maxNumTokens environment)
      before stops after) :
    StepCounted call.isCustomSampling before.executor after.executor := by
  obtain ⟨-, allDone, between, runs, rfl, -⟩ := succeeds_decodeStep.mp succeeds
  obtain ⟨nextTokens, sampled, external | internal, runOneStep, -, rfl⟩ := succeeds_run.mp runs
  · have isExternal : call.isCustomSampling = true := external.external
    obtain ⟨decodedIds, updated, executor, outputLogits, _, _, -, -, decodes, -, -, rfl⟩ :=
      external.step
    obtain ⟨_, decodes⟩ := succeeds_compiledModel_decodeLogits.mp decodes
    rw [report_executor]
    refine ⟨fun isInternal => ?_, fun _ => ?_⟩
    · exact absurd (isExternal.symm.trans isInternal) Bool.noConfusion
    · exact (decodeLogits_ok (decodeLogitsWithParams_decodeLogits decodes)).tokenCount
  · have isInternal : call.isCustomSampling = false := internal.internal
    obtain ⟨outcome, executor, decodes, -, rfl⟩ := internal.step
    have decodes := succeeds_compiledModel_decode.mp decodes
    rw [report_executor]
    refine ⟨fun _ => ?_, fun isExternal => ?_⟩
    · exact decodeWithParams_tokenCount decodes
    · exact absurd (isInternal.symm.trans isExternal) Bool.false_ne_true

/-- A step fills the attention mask up to the token it feeds. -/
theorem decodeStep_checkMask {stops : Bool}
    (fits : before.executor.processedTokens.getStep + 1 ≤ maxNumTokens)
    (succeeds : Succeeds
      (decodeStep (call.parameters (staticExecutor maxNumTokens)) maxNumTokens environment)
      before stops after) :
    Succeeds
      (decodeStep (call.parameters (staticExecutor maxNumTokens)) maxNumTokens
        (environment.checkMask maxNumTokens))
      before stops after := by
  rw [succeeds_decodeStep] at succeeds ⊢
  obtain ⟨notCancelled, allDone, between, runs, rest⟩ := succeeds
  refine ⟨notCancelled, allDone, between, ?_, rest⟩
  rw [succeeds_run] at runs ⊢
  obtain ⟨nextTokens, sampled, path, processed⟩ := runs
  refine ⟨nextTokens, sampled, ?_, processed⟩
  rcases path with external | internal
  · left
    refine ⟨external.external, ?_⟩
    obtain ⟨decodedIds, updated, executor, outputLogits, sampledLogits, scores, given, updates,
      decodes, rest⟩ := external.step
    obtain ⟨constrainedDecoder, decodes⟩ := succeeds_compiledModel_decodeLogits.mp decodes
    exact ⟨decodedIds, updated, executor, outputLogits, sampledLogits, scores, given, updates,
      succeeds_compiledModel_decodeLogits.mpr
        ⟨constrainedDecoder, decodeLogitsWithParams_checkMask fits decodes⟩, rest⟩
  · right
    refine ⟨internal.internal, ?_⟩
    obtain ⟨outcome, executor, decodes, rest⟩ := internal.step
    have decodes := succeeds_compiledModel_decode.mp decodes
    exact ⟨outcome, executor,
      succeeds_compiledModel_decode.mpr (decodeWithParams_checkMask fits decodes), rest⟩

/-- When a step with external sampling ends the loop. -/
theorem decodeStep_external_stops {stops : Bool} (external : call.isCustomSampling = true)
    (succeeds : Succeeds
      (decodeStep (call.parameters (staticExecutor maxNumTokens)) maxNumTokens environment)
      before stops after) :
    after.numDecodeSteps = before.numDecodeSteps + 1 ∧
      after.runOneStep.stopTokenDetector =
        before.runOneStep.stopTokenDetector.processItems (sampledIds environment) ∧
      stops = shouldStop
        (after.runOneStep.stopTokenDetector.batchItems.all BatchItem.stopTokenFound)
        call.benchmarkDecodeTokenCount after.numDecodeSteps after.executor.getCurrentStep
        maxNumTokens := by
  obtain ⟨-, allDone, between, runs, rfl, rfl⟩ := succeeds_decodeStep.mp succeeds
  obtain ⟨nextTokens, sampled, path | path, runOneStep, processed, rfl⟩ := succeeds_run.mp runs
  · obtain ⟨decodedIds, updated, executor, outputLogits, _, scores, -, updates, -, -, samples,
      rfl⟩ := path.step
    have processed := postProcess_ok processed
    have sameDetector : updated.stopTokenDetector = before.runOneStep.stopTokenDetector := by
      rw [updateConstraintState_ok updates]
    have isSampled : sampledIds environment = nextTokens := by
      simp [sampledIds, samples]
    refine ⟨rfl, ?_, ?_⟩
    · rw [report_runOneStep, processed.stopTokenDetector, isSampled, sameDetector]
    · rw [report_runOneStep, allDone_ok processed.allDone]
      rfl
  · exact absurd (external.symm.trans path.internal) Bool.noConfusion

/-! ## The loop -/

theorem shouldStop_below {hitStopTokens : Bool}
    {benchmarkDecodeTokenCount numDecodedSteps currentStep : Nat}
    (goesOn : shouldStop hitStopTokens benchmarkDecodeTokenCount numDecodedSteps currentStep
      maxNumTokens = false) : currentStep < maxNumTokens := by
  unfold shouldStop at goesOn
  split at goesOn
  · cases goesOn
  · split at goesOn
    · cases goesOn
    · simpa using goesOn

theorem decodeStep_goesOn
    (succeeds : Succeeds
      (decodeStep (call.parameters (staticExecutor maxNumTokens)) maxNumTokens environment)
      before false after) : after.executor.getCurrentStep < maxNumTokens := by
  obtain ⟨-, allDone, between, -, -, stops⟩ := succeeds_decodeStep.mp succeeds
  exact shouldStop_below stops.symm

omit [Bot Scalar] in
theorem getStep_le (executor : CompiledModelExecutor Scalar) :
    executor.processedTokens.getStep ≤ executor.getCurrentStep :=
  Nat.le_add_right _ _

/-- A loop whose first step fits fills no mask beyond the limit. -/
theorem decodeLoop_checkMask {ended : Bool}
    {environments : List (StepEnvironment (CallEnvironment Scalar) Score)}
    (fits : before.executor.processedTokens.getStep + 1 ≤ maxNumTokens)
    (succeeds : Succeeds
      (decodeLoop (call.parameters (staticExecutor maxNumTokens)) maxNumTokens environments)
      before ended after) :
    Succeeds
      (decodeLoop (call.parameters (staticExecutor maxNumTokens)) maxNumTokens
        (environments.map (StepEnvironment.checkMask maxNumTokens)))
      before ended after := by
  induction environments generalizing before with
  | nil => exact succeeds
  | cons environment environments hypothesis =>
      rw [List.map_cons]
      rw [succeeds_decodeLoop_cons] at succeeds ⊢
      obtain ⟨stops, between, steps, rest⟩ := succeeds
      refine ⟨stops, between, decodeStep_checkMask fits steps, ?_⟩
      rcases rest with done | ⟨rfl, rest⟩
      · exact .inl done
      · refine .inr ⟨rfl, hypothesis ?_ rest⟩
        have below := decodeStep_goesOn steps
        have atMost := getStep_le between.executor
        omega

/-- With internal sampling the loop ends at the limit at the latest. -/
theorem decodeLoop_internal {ended : Bool}
    {environments : List (StepEnvironment (CallEnvironment Scalar) Score)}
    (internal : call.isCustomSampling = false)
    (below : before.executor.getCurrentStep < maxNumTokens)
    (succeeds : Succeeds
      (decodeLoop (call.parameters (staticExecutor maxNumTokens)) maxNumTokens environments)
      before ended after) : after.executor.getCurrentStep ≤ maxNumTokens := by
  induction environments generalizing before with
  | nil =>
      rw [succeeds_decodeLoop_nil] at succeeds
      rw [succeeds.2]
      exact below.le
  | cons environment environments hypothesis =>
      obtain ⟨stops, between, steps, rest⟩ := succeeds_decodeLoop_cons.mp succeeds
      have counted := (decodeStep_counted steps).internal internal
      rcases rest with ⟨-, -, rfl⟩ | ⟨rfl, rest⟩
      · omega
      · exact hypothesis (decodeStep_goesOn steps) rest

/-- With external sampling the loop ends below the limit when the sampled tokens stop it
before. -/
theorem decodeLoop_external {environments : List (StepEnvironment (CallEnvironment Scalar) Score)}
    (external : call.isCustomSampling = true)
    (stopsWithin : ∃ steps ≤ environments.length, 0 < steps ∧
      before.executor.processedTokens.getStep + steps < maxNumTokens ∧
      if call.benchmarkDecodeTokenCount = 0 then
        ((((environments.take steps).map sampledIds).foldl StopTokenDetector.processItems
          before.runOneStep.stopTokenDetector).batchItems.all BatchItem.stopTokenFound) = true
      else
        before.numDecodeSteps + steps ≥ call.benchmarkDecodeTokenCount)
    (succeeds : Succeeds
      (decodeLoop (call.parameters (staticExecutor maxNumTokens)) maxNumTokens environments)
      before true after) :
    after.executor.getCurrentStep < maxNumTokens := by
  induction environments generalizing before with
  | nil => simp at succeeds
  | cons environment environments hypothesis =>
      obtain ⟨stops, between, step, rest⟩ := succeeds_decodeLoop_cons.mp succeeds
      obtain ⟨counted, nonePending⟩ := (decodeStep_counted step).external external
      obtain ⟨numSteps, detector, stopped⟩ := decodeStep_external_stops external step
      obtain ⟨steps, atMost, positive, within, stopMet⟩ := stopsWithin
      rcases rest with ⟨-, -, rfl⟩ | ⟨rfl, rest⟩
      · omega
      · -- the loop goes on, so the stop condition is met in a later step
        apply hypothesis _ rest
        obtain ⟨others, rfl⟩ : ∃ others, steps = others + 1 := ⟨steps - 1, by omega⟩
        rw [List.take_succ_cons, List.map_cons, List.foldl_cons, ← detector] at stopMet
        refine ⟨others, by simpa using atMost, ?_, by omega, ?_⟩
        · rw [Nat.pos_iff_ne_zero]
          rintro rfl
          by_cases benchmark : call.benchmarkDecodeTokenCount = 0
          · rw [if_pos benchmark, List.take_zero, List.map_nil, List.foldl_nil] at stopMet
            simp [shouldStop, stopMet, benchmark] at stopped
          · rw [if_neg benchmark] at stopMet
            have enough : between.numDecodeSteps ≥ call.benchmarkDecodeTokenCount := by omega
            simp [shouldStop, Nat.pos_of_ne_zero benchmark, enough] at stopped
        · by_cases benchmark : call.benchmarkDecodeTokenCount = 0
          · rw [if_pos benchmark] at stopMet ⊢
            exact stopMet
          · rw [if_neg benchmark] at stopMet ⊢
            omega

/-! ## One call -/

section Calls

variable {executor final : CompiledModelExecutor Scalar}

theorem after_prefill_iff {environment : CallEnvironment Scalar} {textData : ExecutorTextData} :
    (TaskCall.prefill environment textData :
        TaskCall Scalar ConstraintState Score).after (staticExecutor maxNumTokens) executor =
        some final ↔
      numTokens textData < maxNumTokens ∧ textData.tokenIds ≠ [] ∧
        Succeeds (CompiledModelExecutor.prefill environment.backend textData.batchSize
          textData.tokenIds environment.workGroups) executor () final := by
  simp only [TaskCall.after, stateOnSuccess_eq_some, succeeds_prefill, Option.some.injEq]
  constructor
  · rintro ⟨_, _, rfl, short, nonempty, -, prefills⟩
    exact ⟨short, nonempty, prefills⟩
  · rintro ⟨short, nonempty, prefills⟩
    exact ⟨_, textData, rfl, short, nonempty, rfl, prefills⟩

theorem after_decode_iff :
    (TaskCall.decode call).after (staticExecutor maxNumTokens) executor = some final ↔
      ∃ responses state,
        Succeeds (decodeFrom (call.parameters (staticExecutor maxNumTokens)) call.environments
          call.finalEnvironment) (call.initialState executor) (some responses) state ∧
        final = state.executor := by
  have outcome : call.outcome (staticExecutor maxNumTokens) executor =
      decodeFrom (call.parameters (staticExecutor maxNumTokens)) call.environments
        call.finalEnvironment (call.initialState executor) := rfl
  unfold TaskCall.after Succeeds
  dsimp only
  rw [outcome]
  cases returned : decodeFrom (call.parameters (staticExecutor maxNumTokens)) call.environments
      call.finalEnvironment (call.initialState executor) with
  | error status state => simp
  | ok responses state => cases responses <;> simp [eq_comm]

theorem prefill_within {environment : CallEnvironment Scalar} {textData : ExecutorTextData}
    (fits : executor.getCurrentStep + numTokens textData ≤ maxNumTokens)
    (returns : (TaskCall.prefill environment textData :
      TaskCall Scalar ConstraintState Score).after (staticExecutor maxNumTokens) executor =
        some final) :
    final.getCurrentStep ≤ maxNumTokens ∧
      ((TaskCall.prefill environment textData :
        TaskCall Scalar ConstraintState Score).checkMask maxNumTokens).after
          (staticExecutor maxNumTokens) executor = some final := by
  obtain ⟨short, nonempty, prefills⟩ := after_prefill_iff.mp returns
  constructor
  · rw [prefill_tokenCount prefills]
    exact fits
  · exact after_prefill_iff.mpr ⟨short, nonempty, prefill_checkMask fits prefills⟩

/-- The loop of a fitting call ends within the limit, with room for one more token when
sampling is external. -/
theorem decodeLoop_within {state : DecodeState (CompiledModelExecutor Scalar) Scalar
      ConstraintState Score}
    (fits : FitsContext maxNumTokens executor (.decode call))
    (succeeds : Succeeds
      (decodeLoop (call.parameters (staticExecutor maxNumTokens)) maxNumTokens call.environments)
      (call.initialState executor) true state) :
    if call.isCustomSampling then state.executor.getCurrentStep < maxNumTokens
    else state.executor.getCurrentStep ≤ maxNumTokens := by
  obtain ⟨below, stopsWithin⟩ := fits
  cases sampling : call.isCustomSampling with
  | false => exact decodeLoop_internal sampling below succeeds
  | true =>
      obtain ⟨steps, atMost, positive, within, stopMet⟩ := stopsWithin sampling
      refine decodeLoop_external sampling ⟨steps, atMost, positive, within, ?_⟩ succeeds
      unfold StopConditionMet at stopMet
      rw [List.length_map, List.length_take, Nat.min_eq_left atMost] at stopMet
      rw [show (call.initialState executor).numDecodeSteps = 0 from rfl, Nat.zero_add]
      exact stopMet

/-- The final prefill of a call with external sampling adds one token. -/
theorem finalPrefill_within {environment : CallEnvironment Scalar}
    (within : if call.isCustomSampling then before.executor.getCurrentStep < maxNumTokens
      else before.executor.getCurrentStep ≤ maxNumTokens)
    (succeeds : Succeeds
      (finalPrefill (call.parameters (staticExecutor maxNumTokens)) environment)
      before () after) :
    after.executor.getCurrentStep ≤ maxNumTokens ∧
      Succeeds
        (finalPrefill (call.parameters (staticExecutor maxNumTokens))
          (environment.checkMask maxNumTokens))
        before () after := by
  rw [succeeds_finalPrefill] at succeeds ⊢
  show _ ∧ if call.isCustomSampling then _ else _
  replace succeeds : if call.isCustomSampling then _ else _ := succeeds
  cases sampling : call.isCustomSampling with
  | false =>
      rw [sampling, if_neg Bool.false_ne_true] at succeeds within
      rw [if_neg Bool.false_ne_true, succeeds]
      exact ⟨within, rfl⟩
  | true =>
      rw [sampling, if_pos rfl] at succeeds within
      rw [if_pos rfl]
      obtain ⟨ids, given, short, nonempty, executor, prefills, rfl⟩ := succeeds
      replace prefills : Succeeds (CompiledModelExecutor.prefill environment.backend ids.length ids
        environment.workGroups) before.executor () executor := prefills
      have one : prefillLength ids.length ids = 1 :=
        Nat.div_self (List.length_pos_iff.mpr nonempty)
      have fits : before.executor.getCurrentStep + prefillLength ids.length ids ≤ maxNumTokens := by
        omega
      constructor
      · show executor.getCurrentStep ≤ maxNumTokens
        rw [prefill_tokenCount prefills]
        exact fits
      · exact ⟨ids, given, short, nonempty, executor, prefill_checkMask fits prefills, rfl⟩

theorem decode_within (fits : FitsContext maxNumTokens executor (.decode call))
    (returns : (TaskCall.decode call).after (staticExecutor maxNumTokens) executor = some final) :
    final.getCurrentStep ≤ maxNumTokens ∧
      ((TaskCall.decode call).checkMask maxNumTokens).after (staticExecutor maxNumTokens) executor =
        some final := by
  obtain ⟨responses, state, succeeds, rfl⟩ := after_decode_iff.mp returns
  obtain ⟨ended, looped, loops, ⟨rfl, prefills, response⟩ | ⟨-, noResponse, -⟩⟩ :=
    succeeds_decodeFrom.mp succeeds
  · obtain ⟨within, prefillsChecked⟩ :=
      finalPrefill_within (decodeLoop_within fits loops) prefills
    refine ⟨within, after_decode_iff.mpr ⟨responses, state, ?_, rfl⟩⟩
    refine succeeds_decodeFrom.mpr ⟨true, looped, ?_, .inl ⟨rfl, prefillsChecked, response⟩⟩
    have firstStep : executor.processedTokens.getStep + 1 ≤ maxNumTokens := by
      have atMost := getStep_le executor
      have below := fits.1
      omega
    exact decodeLoop_checkMask firstStep loops
  · cases noResponse

/-- A loop that still runs has not reached the limit. -/
theorem decodeLoop_running
    {environments : List (StepEnvironment (CallEnvironment Scalar) Score)}
    (below : before.executor.getCurrentStep < maxNumTokens)
    (succeeds : Succeeds
      (decodeLoop (call.parameters (staticExecutor maxNumTokens)) maxNumTokens environments)
      before false after) : after.executor.getCurrentStep < maxNumTokens := by
  induction environments generalizing before with
  | nil =>
      rw [succeeds_decodeLoop_nil] at succeeds
      rw [succeeds.2]
      exact below
  | cons environment environments hypothesis =>
      obtain ⟨stops, between, steps, ⟨-, ended, -⟩ | ⟨rfl, rest⟩⟩ :=
        succeeds_decodeLoop_cons.mp succeeds
      · cases ended
      · exact hypothesis (decodeStep_goesOn steps) rest

/-- A decode that starts below the limit and still runs, each step having advanced the
executor by one token, has taken fewer steps than there was room for. -/
theorem decode_running
    {state : DecodeState (CompiledModelExecutor Scalar) Scalar ConstraintState Score}
    (below : executor.getCurrentStep < maxNumTokens)
    (running : call.outcome (staticExecutor maxNumTokens) executor = .ok none state)
    (advanced : state.executor.getCurrentStep =
      executor.getCurrentStep + call.environments.length) :
    call.environments.length < maxNumTokens - executor.getCurrentStep := by
  obtain ⟨ended, looped, loops, ⟨-, -, response⟩ | ⟨rfl, -, rfl⟩⟩ :=
    succeeds_decodeFrom.mp
      (show Succeeds (decodeFrom (call.parameters (staticExecutor maxNumTokens))
        call.environments call.finalEnvironment) (call.initialState executor) none state
        from running)
  · cases response
  · have atMost := decodeLoop_running below loops
    omega

/-- A loop with external sampling that ends below the limit was stopped by the sampled
tokens. -/
theorem decodeLoop_external_stopsWithin
    {environments : List (StepEnvironment (CallEnvironment Scalar) Score)}
    (external : call.isCustomSampling = true)
    (below : after.executor.getCurrentStep < maxNumTokens)
    (succeeds : Succeeds
      (decodeLoop (call.parameters (staticExecutor maxNumTokens)) maxNumTokens environments)
      before true after) :
    ∃ steps ≤ environments.length, 0 < steps ∧
      before.executor.processedTokens.getStep + steps < maxNumTokens ∧
      if call.benchmarkDecodeTokenCount = 0 then
        ((((environments.take steps).map sampledIds).foldl StopTokenDetector.processItems
          before.runOneStep.stopTokenDetector).batchItems.all BatchItem.stopTokenFound) = true
      else
        before.numDecodeSteps + steps ≥ call.benchmarkDecodeTokenCount := by
  induction environments generalizing before with
  | nil => simp at succeeds
  | cons environment environments hypothesis =>
      obtain ⟨stops, between, step, rest⟩ := succeeds_decodeLoop_cons.mp succeeds
      obtain ⟨counted, nonePending⟩ := (decodeStep_counted step).external external
      obtain ⟨numSteps, detector, stopped⟩ := decodeStep_external_stops external step
      rcases rest with ⟨rfl, -, rfl⟩ | ⟨rfl, rest⟩
      · refine ⟨1, by simp, Nat.one_pos, by omega, ?_⟩
        by_cases benchmark : call.benchmarkDecodeTokenCount = 0
        · simp only [shouldStop, benchmark, and_true, gt_iff_lt, lt_irrefl, false_and, if_false,
            ge_iff_le, Nat.not_le.mpr below, decide_false, Bool.if_false_right,
            Bool.and_true] at stopped
          rw [if_pos benchmark, List.take_succ_cons, List.take_zero, List.map_singleton,
            List.foldl_cons, List.foldl_nil, ← detector]
          simpa using stopped
        · rw [if_neg benchmark]
          by_contra few
          simp [shouldStop, benchmark, Nat.not_le.mpr below] at stopped
          omega
      · obtain ⟨steps, atMost, positive, within, stopMet⟩ := hypothesis rest
        refine ⟨steps + 1, by simpa using atMost, Nat.succ_pos steps, by omega, ?_⟩
        rw [List.take_succ_cons, List.map_cons, List.foldl_cons, ← detector]
        by_cases benchmark : call.benchmarkDecodeTokenCount = 0
        · rw [if_pos benchmark] at stopMet ⊢
          exact stopMet
        · rw [if_neg benchmark] at stopMet ⊢
          omega

/-- With internal sampling a loop that ended took at least one step. -/
theorem decodeLoop_internal_advances
    {environments : List (StepEnvironment (CallEnvironment Scalar) Score)}
    (internal : call.isCustomSampling = false)
    (succeeds : Succeeds
      (decodeLoop (call.parameters (staticExecutor maxNumTokens)) maxNumTokens environments)
      before true after) :
    before.executor.getCurrentStep < after.executor.getCurrentStep := by
  induction environments generalizing before with
  | nil => simp at succeeds
  | cons environment environments hypothesis =>
      obtain ⟨stops, between, step, rest⟩ := succeeds_decodeLoop_cons.mp succeeds
      have counted := (decodeStep_counted step).internal internal
      rcases rest with ⟨-, -, rfl⟩ | ⟨-, rest⟩
      · omega
      · have further := hypothesis rest
        omega

theorem finalPrefill_tokenCount {environment : CallEnvironment Scalar}
    (succeeds : Succeeds
      (finalPrefill (call.parameters (staticExecutor maxNumTokens)) environment)
      before () after) :
    after.executor.getCurrentStep =
      before.executor.getCurrentStep + if call.isCustomSampling then 1 else 0 := by
  rw [succeeds_finalPrefill] at succeeds
  replace succeeds : if call.isCustomSampling then _ else _ := succeeds
  cases sampling : call.isCustomSampling with
  | false =>
      rw [sampling, if_neg Bool.false_ne_true] at succeeds
      rw [succeeds]
      rfl
  | true =>
      rw [sampling, if_pos rfl] at succeeds
      obtain ⟨ids, -, -, nonempty, executor, prefills, rfl⟩ := succeeds
      have counted := prefill_tokenCount
        (show Succeeds (CompiledModelExecutor.prefill environment.backend ids.length ids
          environment.workGroups) before.executor () executor from prefills)
      rw [prefillLength, Nat.div_self (List.length_pos_iff.mpr nonempty)] at counted
      exact counted

/-- The condition is exact: a call that returns OK leaves the step within the limit if
and only if it fits. -/
theorem fitsContext_iff {taskCall : TaskCall Scalar ConstraintState Score}
    (returns : taskCall.after (staticExecutor maxNumTokens) executor = some final) :
    FitsContext maxNumTokens executor taskCall ↔ final.getCurrentStep ≤ maxNumTokens := by
  cases taskCall with
  | prefill environment textData =>
      obtain ⟨-, -, prefills⟩ := after_prefill_iff.mp returns
      rw [prefill_tokenCount prefills]
      exact Iff.rfl
  | decode call =>
      refine ⟨fun fits => (decode_within fits returns).1, fun within => ?_⟩
      obtain ⟨responses, state, succeeds, rfl⟩ := after_decode_iff.mp returns
      obtain ⟨ended, looped, loops, ⟨rfl, prefills, -⟩ | ⟨-, noResponse, -⟩⟩ :=
        succeeds_decodeFrom.mp succeeds
      · have counted := finalPrefill_tokenCount prefills
        cases sampling : call.isCustomSampling with
        | false =>
            have advances := decodeLoop_internal_advances sampling loops
            replace advances : executor.getCurrentStep < looped.executor.getCurrentStep := advances
            exact ⟨by omega, fun external =>
              absurd (sampling.symm.trans external) Bool.false_ne_true⟩
        | true =>
            rw [sampling, if_pos rfl] at counted
            obtain ⟨steps, atMost, positive, before, stopMet⟩ :=
              decodeLoop_external_stopsWithin sampling (by omega) loops
            replace before : executor.processedTokens.getStep + steps < maxNumTokens := before
            have onePending : executor.getCurrentStep ≤ executor.processedTokens.getStep + 1 := by
              unfold getCurrentStep ProcessedTokens.tokenCount
              split <;> omega
            refine ⟨by omega, fun _ => ⟨steps, atMost, positive, before, ?_⟩⟩
            unfold StopConditionMet
            rw [List.length_map, List.length_take, Nat.min_eq_left atMost]
            rw [show (call.initialState executor).numDecodeSteps = 0 from rfl,
              Nat.zero_add] at stopMet
            exact stopMet
      · cases noResponse

end Calls

/-! ## Runs -/

/-- **The context is never exceeded by calls that fit.** In every run of successful calls
that fit, the step is within the limit after every call, and every further call that fits
fills no attention mask row beyond its `maxNumTokens` entries. A decode that starts below
the limit, each of its steps advancing the executor by one token, does not outlast the
room left. -/
theorem context_capacity {executor : CompiledModelExecutor Scalar}
    (reached : (taskMachine ConstraintState Score maxNumTokens).ReachableUnder
      (FitsContext maxNumTokens) executor) :
    executor.getCurrentStep ≤ maxNumTokens ∧
      (∀ (call : TaskCall Scalar ConstraintState Score) (final : CompiledModelExecutor Scalar),
        FitsContext maxNumTokens executor call →
        call.after (staticExecutor maxNumTokens) executor = some final →
        (call.checkMask maxNumTokens).after (staticExecutor maxNumTokens) executor = some final) ∧
      (∀ startTimestep steps, startTimestep + steps ≤ maxNumTokens →
        ∀ batchSize batchOffset,
          ∀ range ∈ filledRanges batchSize batchOffset maxNumTokens startTimestep steps,
            range.2 ≤ range.1 + maxNumTokens) ∧
      (∀ (call : DecodeCall Scalar ConstraintState Score) state,
        executor.getCurrentStep < maxNumTokens →
        call.outcome (staticExecutor maxNumTokens) executor = .ok none state →
        state.executor.getCurrentStep =
          executor.getCurrentStep + call.environments.length →
        call.environments.length < maxNumTokens - executor.getCurrentStep) := by
  have callWithin : ∀ (executor final : CompiledModelExecutor Scalar)
      (call : TaskCall Scalar ConstraintState Score), FitsContext maxNumTokens executor call →
      call.after (staticExecutor maxNumTokens) executor = some final →
      final.getCurrentStep ≤ maxNumTokens ∧
        (call.checkMask maxNumTokens).after (staticExecutor maxNumTokens) executor = some final := by
    intro executor final call fits returns
    cases call with
    | prefill environment textData => exact prefill_within fits returns
    | decode call => exact decode_within fits returns
  refine ⟨?_, fun call final fits returns => (callWithin executor final call fits returns).2,
    fun _ _ fits _ _ => filledRanges_withinRow fits,
    fun call state below running advanced => decode_running below running advanced⟩
  apply reached.invariant
  · rintro state ⟨signatures, outputBatchSize, rfl⟩
    exact Nat.zero_le _
  · intro state call next _ fits returns
    exact (callWithin state next call fits returns).1

/-! ## Two turns -/

instance (stopTokenDetector : StopTokenDetector) (benchmarkDecodeTokenCount : Nat)
    (sampled : List (List Int)) :
    Decidable (StopConditionMet stopTokenDetector benchmarkDecodeTokenCount sampled) :=
  inferInstanceAs (Decidable (if benchmarkDecodeTokenCount = 0 then _ = true
    else sampled.length ≥ benchmarkDecodeTokenCount))

instance (call : DecodeCall Scalar ConstraintState Score) (maxNumTokens : Nat)
    (executor : CompiledModelExecutor Scalar) : Decidable (call.StopsWithin maxNumTokens executor) :=
  inferInstanceAs (Decidable (∃ steps ≤ _, _))

instance (maxNumTokens : Nat) (executor : CompiledModelExecutor Scalar)
    (call : TaskCall Scalar ConstraintState Score) :
    Decidable (FitsContext maxNumTokens executor call) :=
  match call with
  | .prefill _ _ => inferInstanceAs (Decidable (_ ≤ _))
  | .decode call => inferInstanceAs (Decidable (_ < _ ∧ (_ = true → call.StopsWithin _ _)))

/-- An executor of a model that takes token ids and an attention mask. -/
def maskedExecutor : CompiledModelExecutor Unit :=
  .initial ⟨true, false, false, true, 1⟩ 1

def prefillOf (ids : List Int) : TaskCall Unit Unit Nat :=
  .prefill (workingEnvironment [ids.length] []) ⟨1, ids⟩

/-- A decode of one candidate that stops at token 9. -/
def decodeOf (isCustomSampling : Bool) (ids : List Int) : TaskCall Unit Unit Nat :=
  .decode {
    tokenizer := ⟨fun _ => .ok []⟩
    arithmetic := ⟨0, (· + ·), (· / ·), 0⟩
    isStreaming := false
    isCustomSampling := isCustomSampling
    benchmarkDecodeTokenCount := 0
    stopTokenDetector := (StopTokenDetector.ofStopToken 9).resetBatch 1
    numOutputCandidates := 1
    constraint := none
    decodedIds := some [3]
    environments := ids.map fun id => ⟨workingEnvironment [] [id], .ok ([id], [0]), false⟩
    finalEnvironment := workingEnvironment [1] [] }

/-- A prefill, a decode with internal sampling, a second prefill and a decode with
external sampling fill a context of nine tokens. -/
theorem context_capacity_twoTurns :
    ∃ executor, (taskMachine Unit Nat 9).execute maskedExecutor
        [prefillOf [1, 2, 3], decodeOf false [7, 9], prefillOf [4], decodeOf true [7, 8, 9]] =
          some executor ∧ executor.getCurrentStep = 9 ∧ executor.getCurrentStep ≤ 9 := by
  have runs : ((taskMachine Unit Nat 9).execute maskedExecutor
      [prefillOf [1, 2, 3], decodeOf false [7, 9], prefillOf [4], decodeOf true [7, 8, 9]]).map
        getCurrentStep = some 9 := by decide +kernel
  obtain ⟨executor, executed, counted⟩ := Option.map_eq_some_iff.mp runs
  have start : (taskMachine Unit Nat 9).ReachableUnder (FitsContext 9) maskedExecutor :=
    .initial ⟨_, _, rfl⟩
  exact ⟨executor, executed, counted,
    (context_capacity (start.execute (by decide +kernel) executed)).1⟩

/-- Two prefills of three ids each return OK with a limit of four. The second leaves the
executor at step six, and fills the attention mask beyond its row of four entries. -/
theorem context_exceeded :
    ∃ executor final, (taskMachine Unit Nat 4).Reachable executor ∧
      (prefillOf [4, 5, 6]).after (staticExecutor 4) executor = some final ∧
      ¬final.getCurrentStep ≤ 4 ∧
      ((prefillOf [4, 5, 6]).checkMask 4).after (staticExecutor 4) executor ≠ some final := by
  have runs : ((taskMachine Unit Nat 4).execute maskedExecutor [prefillOf [1, 2, 3]]).map
      (fun executor =>
        (((prefillOf [4, 5, 6]).after (staticExecutor 4) executor).map getCurrentStep,
          (((prefillOf [4, 5, 6]).checkMask 4).after (staticExecutor 4) executor).isSome)) =
      some (some 6, false) := by decide +kernel
  obtain ⟨executor, executed, outcomes⟩ := Option.map_eq_some_iff.mp runs
  obtain ⟨reachesSix, refused⟩ := Prod.mk.inj outcomes
  obtain ⟨final, returns, six⟩ := Option.map_eq_some_iff.mp reachesSix
  refine ⟨executor, final, Machine.reachable_of_execute ⟨_, _, rfl⟩ executed, returns, ?_, ?_⟩
  · rw [six]
    decide
  · intro same
    rw [same] at refused
    cases refused

end LiteRTLM.Core.Tasks
