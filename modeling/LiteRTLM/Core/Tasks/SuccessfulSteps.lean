import LiteRTLM.Core.Tasks.Tasks

/-!
Contract: what a successful step of `Tasks::Decode` did.

Owns: one lemma for each part of a step, from its success to the state it left.

Does not own: properties of whole decodes, and any executor.
-/

namespace LiteRTLM.Core.Tasks

open LiteRTLM.Components
open LiteRTLM.Engine
open LiteRTLM.Executor
open LiteRTLM.Library

variable {Executor Environment Scalar ConstraintState Score : Type}
  {before after : DecodeState Executor Scalar ConstraintState Score}
  {parameters : DecodeParameters Executor Environment Scalar ConstraintState Score}
  {environment : StepEnvironment Environment Score}

/-! ## Elementary steps -/

@[simp]
theorem succeeds_returnIfError {α : Type} (status : StatusOr α) {value : α} :
    Succeeds (returnIfError status) before value after ↔
      status = .ok value ∧ after = before := by
  cases status with
  | ok result => simp [returnIfError, eq_comm]
  | error status => simp [returnIfError]

@[simp]
theorem succeeds_callExecutor {α : Type} (program : EStateM Status Executor α) {value : α} :
    Succeeds (callExecutor program) before value after ↔
      ∃ executor, Succeeds program before.executor value executor ∧
        after = { before with executor } := by
  unfold Succeeds callExecutor
  cases outcome : program before.executor with
  | ok result executor => simp [eq_comm]
  | error status executor => simp

/-! ## Reporting -/

section Report

variable (allDone : Bool) (state : DecodeState Executor Scalar ConstraintState Score)

@[simp]
theorem report_executor : (report parameters allDone state).executor = state.executor :=
  rfl

@[simp]
theorem report_runOneStep : (report parameters allDone state).runOneStep = state.runOneStep :=
  rfl

@[simp]
theorem report_decodedIds : (report parameters allDone state).decodedIds = state.decodedIds :=
  rfl

@[simp]
theorem report_numDecodeSteps :
    (report parameters allDone state).numDecodeSteps = state.numDecodeSteps :=
  rfl

end Report

/-! ## One step -/

/-- What a step with external sampling leaves before its tokens are processed. -/
structure SampledExternally [Bot Scalar]
    (parameters : DecodeParameters Executor Environment Scalar ConstraintState Score)
    (environment : StepEnvironment Environment Score)
    (before after : DecodeState Executor Scalar ConstraintState Score)
    (nextTokens : List Int) : Prop where
  external : parameters.isCustomSampling = true
  step : ∃ decodedIds updated executor outputLogits sampledLogits scores,
    before.decodedIds = some decodedIds ∧
    before.runOneStep.updateConstraintState decodedIds = .ok updated ∧
    Succeeds (parameters.taskExecutor.decodeLogits environment.executor decodedIds)
      before.executor outputLogits executor ∧
    updated.maskLogits outputLogits = .ok sampledLogits ∧
    environment.sampleToIdAndScore = .ok (nextTokens, scores) ∧
    after = { before with
      executor
      decodedIds := some nextTokens
      runOneStep := { updated with scores, sampledLogits := some sampledLogits } }

/-- What a step with internal sampling leaves before its tokens are processed. -/
structure SampledInternally
    (parameters : DecodeParameters Executor Environment Scalar ConstraintState Score)
    (environment : StepEnvironment Environment Score)
    (before after : DecodeState Executor Scalar ConstraintState Score)
    (nextTokens : List Int) : Prop where
  internal : parameters.isCustomSampling = false
  step : ∃ outcome executor,
    Succeeds (parameters.taskExecutor.decode environment.executor
      before.runOneStep.constrainedDecoder) before.executor outcome executor ∧
    nextTokens = outcome.outputTokens ∧
    after = { before with
      executor
      runOneStep := { before.runOneStep with
        constrainedDecoder := outcome.constrainedDecoder
        sampledLogits := some outcome.sampledLogits } }

theorem succeeds_decodeAndSampleExternal [Bot Scalar] {nextTokens : List Int}
    (external : parameters.isCustomSampling = true) :
    Succeeds (decodeAndSampleExternal parameters environment) before nextTokens after ↔
      SampledExternally parameters environment before after nextTokens := by
  simp only [decodeAndSampleExternal, succeeds_bind, succeeds_get, and_assoc, exists_and_left,
    exists_eq_left]
  constructor
  · intro succeeds
    cases given : before.decodedIds with
    | none => simp [given] at succeeds
    | some decodedIds =>
        simp only [given, succeeds_bind, succeeds_get, succeeds_modify, succeeds_pure,
          succeeds_returnIfError, succeeds_callExecutor, and_assoc, exists_and_left,
          exists_eq_left, exists_const] at succeeds
        obtain ⟨updated, updates, outputLogits, _, ⟨executor, decodes, rfl⟩, sampledLogits, masks,
          ⟨sampled, scores⟩, samples, rfl, rfl⟩ := succeeds
        exact ⟨external, decodedIds, updated, executor, outputLogits, sampledLogits, scores, given,
          updates, decodes, masks, samples, rfl⟩
  · rintro ⟨-, decodedIds, updated, executor, outputLogits, sampledLogits, scores, given, updates,
      decodes, masks, samples, rfl⟩
    simp only [given, succeeds_bind, succeeds_get, succeeds_modify, succeeds_pure,
      succeeds_returnIfError, succeeds_callExecutor, and_assoc, exists_and_left,
      exists_eq_left, exists_const]
    exact ⟨updated, updates, outputLogits, _, ⟨_, decodes, rfl⟩, sampledLogits, masks,
      (nextTokens, scores), samples, rfl, rfl⟩

theorem succeeds_decodeAndSampleInternal {nextTokens : List Int}
    (internal : parameters.isCustomSampling = false) :
    Succeeds (decodeAndSampleInternal parameters environment) before nextTokens after ↔
      SampledInternally parameters environment before after nextTokens := by
  simp only [decodeAndSampleInternal, succeeds_bind, succeeds_get, succeeds_modify, succeeds_pure,
    succeeds_callExecutor, and_assoc, exists_and_left, exists_eq_left, exists_const]
  constructor
  · rintro ⟨outcome, _, ⟨executor, decodes, rfl⟩, rfl, rfl⟩
    exact ⟨internal, outcome, executor, decodes, rfl, rfl⟩
  · rintro ⟨-, outcome, executor, decodes, rfl, rfl⟩
    exact ⟨outcome, _, ⟨executor, decodes, rfl⟩, rfl, rfl⟩

theorem succeeds_decodeAndSample [Bot Scalar] {nextTokens : List Int} :
    Succeeds (decodeAndSample parameters environment) before nextTokens after ↔
      SampledExternally parameters environment before after nextTokens ∨
        SampledInternally parameters environment before after nextTokens := by
  unfold decodeAndSample
  cases sampling : parameters.isCustomSampling with
  | true =>
      rw [if_pos rfl, succeeds_decodeAndSampleExternal sampling]
      refine ⟨.inl, ?_⟩
      rintro (sampled | sampled)
      · exact sampled
      · exact absurd (sampling.symm.trans sampled.internal) Bool.noConfusion
  | false =>
      rw [if_neg Bool.false_ne_true, succeeds_decodeAndSampleInternal sampling]
      refine ⟨.inr, ?_⟩
      rintro (sampled | sampled)
      · exact absurd (sampling.symm.trans sampled.external) Bool.false_ne_true
      · exact sampled

theorem processTokens_ok {detector processed : StopTokenDetector} {latestTokens : List Int}
    (ok : detector.processTokens latestTokens = .ok processed) :
    latestTokens.length = detector.batchSize ∧
      processed = detector.processItems latestTokens := by
  unfold StopTokenDetector.processTokens at ok
  split at ok
  · cases ok
  · rename_i sized
    split at ok
    · cases ok
    · exact ⟨not_not.mp sized, (Except.ok.inj ok).symm⟩

theorem allDone_ok {detector : StopTokenDetector} {done : Bool}
    (ok : detector.allDone = .ok done) :
    done = detector.batchItems.all BatchItem.stopTokenFound := by
  unfold StopTokenDetector.allDone at ok
  split at ok
  · cases ok
  · exact (Except.ok.inj ok).symm

/-- The constraint update touches the constraint states only. -/
theorem updateConstraintState_ok {runOneStep updated : DecodeOneStep Scalar ConstraintState Score}
    {decodedIds : List Int} (ok : runOneStep.updateConstraintState decodedIds = .ok updated) :
    updated = { runOneStep with constrainedDecoder := updated.constrainedDecoder } := by
  unfold DecodeOneStep.updateConstraintState at ok
  split at ok
  · split at ok
    · cases ok
      rfl
    · simp only [except_bind_eq_ok, except_pure_eq_ok] at ok
      obtain ⟨decoder, -, rfl⟩ := ok
      rfl
  · cases ok
    rfl

/-- What processing the sampled tokens leaves. -/
structure PostProcessed (tokenizer : Tokenizer) (nextTokens : List Int)
    (before after : DecodeOneStep Scalar ConstraintState Score) (allDone : Bool) : Prop where
  oneTokenEach : nextTokens.length = before.candidates.length
  stopTokenDetector :
    after.stopTokenDetector = before.stopTokenDetector.processItems nextTokens
  batch : nextTokens.length = before.stopTokenDetector.batchSize
  candidates : DecodeOneStep.processCandidates after.stopTokenDetector tokenizer 0
    before.candidates
    (List.zipWith (· ++ ·) (before.candidates.map Candidate.bpePartialTokenIds)
      (nextTokens.map fun id => [id])) = .ok after.candidates
  allDone : after.stopTokenDetector.allDone = .ok allDone
  rest : after = { before with
    stopTokenDetector := after.stopTokenDetector
    candidates := after.candidates
    isFirstStep := false }

theorem postProcess_ok {tokenizer : Tokenizer} {nextTokens : List Int}
    {runOneStep processed : DecodeOneStep Scalar ConstraintState Score} {allDone : Bool}
    (ok : runOneStep.postProcess tokenizer nextTokens = .ok (processed, allDone)) :
    PostProcessed tokenizer nextTokens runOneStep processed allDone := by
  simp only [DecodeOneStep.postProcess, except_bind_eq_ok, except_pure_eq_ok,
    Prod.mk.injEq] at ok
  obtain ⟨tokenIds, merged, detector, detected, candidates, texts, done, finished, rfl, rfl⟩ := ok
  obtain ⟨sameLength, rfl⟩ := Tokenizer.mergeTokenIds_ok merged
  obtain ⟨sized, rfl⟩ := processTokens_ok detected
  rw [List.length_map, List.length_map] at sameLength
  exact ⟨sameLength.symm, rfl, sized, texts, finished, rfl⟩

/-- `DecodeOneStep::Run` samples and then processes the sampled tokens. -/
theorem succeeds_run [Bot Scalar] {allDone : Bool} :
    Succeeds (run parameters environment) before allDone after ↔
      ∃ nextTokens between,
        (SampledExternally parameters environment before between nextTokens ∨
          SampledInternally parameters environment before between nextTokens) ∧
        ∃ runOneStep, between.runOneStep.postProcess parameters.tokenizer nextTokens =
            .ok (runOneStep, allDone) ∧
          after = { between with runOneStep } := by
  simp only [run, succeeds_bind, succeeds_get, succeeds_modify, succeeds_pure,
    succeeds_returnIfError, succeeds_decodeAndSample, and_assoc, exists_and_left, exists_eq_left,
    exists_const]
  constructor
  · rintro ⟨nextTokens, between, sampled, ⟨runOneStep, done⟩, processes, rfl, rfl⟩
    exact ⟨nextTokens, between, sampled, runOneStep, processes, rfl⟩
  · rintro ⟨nextTokens, between, sampled, runOneStep, processes, rfl⟩
    exact ⟨nextTokens, between, sampled, (runOneStep, allDone), processes, rfl, rfl⟩

/-- One iteration of the loop. -/
theorem succeeds_decodeStep [Bot Scalar] {maxNumTokens : Nat} {stops : Bool} :
    Succeeds (decodeStep parameters maxNumTokens environment) before stops after ↔
      environment.cancelled = false ∧ ∃ allDone between,
        Succeeds (run parameters environment) before allDone between ∧
        after = report parameters allDone
          { between with numDecodeSteps := between.numDecodeSteps + 1 } ∧
        stops = shouldStop allDone parameters.benchmarkDecodeTokenCount after.numDecodeSteps
          (parameters.taskExecutor.getCurrentStep after.executor) maxNumTokens := by
  unfold decodeStep
  cases cancelled : environment.cancelled with
  | true => simp
  | false =>
      simp only [Bool.false_eq_true, if_false, succeeds_bind, succeeds_get, succeeds_modify,
        succeeds_pure, and_assoc, exists_and_left, exists_eq_left, exists_const, true_and]
      constructor
      · rintro ⟨allDone, between, runs, rfl, rfl⟩
        exact ⟨allDone, between, runs, rfl, rfl⟩
      · rintro ⟨allDone, between, runs, rfl, stops⟩
        exact ⟨allDone, between, runs, stops, rfl⟩

/-! ## The loop and what follows it -/

@[simp]
theorem succeeds_decodeLoop_nil [Bot Scalar] {maxNumTokens : Nat} {ended : Bool} :
    Succeeds (decodeLoop parameters maxNumTokens []) before ended after ↔
      ended = false ∧ after = before :=
  succeeds_pure false

/-- The loop goes on with the next environment unless its step ends it. -/
theorem succeeds_decodeLoop_cons [Bot Scalar] {maxNumTokens : Nat} {ended : Bool}
    {environments : List (StepEnvironment Environment Score)} :
    Succeeds (decodeLoop parameters maxNumTokens (environment :: environments))
        before ended after ↔
      ∃ stops between,
        Succeeds (decodeStep parameters maxNumTokens environment) before stops between ∧
        ((stops = true ∧ ended = true ∧ after = between) ∨
          (stops = false ∧
            Succeeds (decodeLoop parameters maxNumTokens environments) between ended after)) := by
  simp only [decodeLoop, succeeds_bind, succeeds_ite, succeeds_pure, Bool.not_eq_true]

theorem succeeds_prefill {taskExecutor : TaskExecutor Executor Environment Scalar ConstraintState}
    {environment : Environment} {textData : Option ExecutorTextData}
    {executor prefilled : Executor} {responses : Responses Score} :
    Succeeds (prefill taskExecutor environment textData) executor responses prefilled ↔
      ∃ data, textData = some data ∧ numTokens data < tryGetMaxNumTokens taskExecutor executor ∧
        data.tokenIds ≠ [] ∧ responses = .ofState .done ∧
        Succeeds (taskExecutor.prefill environment data) executor () prefilled := by
  cases textData with
  | none => simp [prefill]
  | some data =>
      simp only [prefill, succeeds_bind, succeeds_get, succeeds_ite, succeeds_throw,
        succeeds_pure, and_false, false_or, ge_iff_le, Nat.not_le, and_assoc, exists_and_left,
        exists_eq_left, List.isEmpty_iff, Option.some.injEq, ne_eq]
      constructor
      · rintro ⟨short, nonempty, _, final, prefills, rfl, rfl⟩
        exact ⟨data, rfl, short, nonempty, rfl, prefills⟩
      · rintro ⟨_, rfl, short, nonempty, rfl, prefills⟩
        exact ⟨short, nonempty, (), prefilled, prefills, rfl, rfl⟩

theorem succeeds_finalPrefill {environment : Environment} {value : Unit} :
    Succeeds (finalPrefill parameters environment) before value after ↔
      if parameters.isCustomSampling then
        ∃ ids, before.decodedIds = some ids ∧
          numTokens ⟨ids.length, ids⟩ < tryGetMaxNumTokens parameters.taskExecutor before.executor ∧
          ids ≠ [] ∧ ∃ executor,
            Succeeds (parameters.taskExecutor.prefill environment ⟨ids.length, ids⟩)
              before.executor () executor ∧
            after = { before with executor }
      else
        after = before := by
  unfold finalPrefill
  cases sampling : parameters.isCustomSampling with
  | false => simp
  | true =>
      simp only [if_true, succeeds_bind, succeeds_get, succeeds_callExecutor, succeeds_prefill,
        succeeds_pure, Option.map_eq_some_iff, and_assoc, exists_and_left, exists_eq_left]
      constructor
      · rintro ⟨_, _, ⟨executor, ⟨data, ⟨ids, given, rfl⟩, short, nonempty, -, prefills⟩, rfl⟩,
          -, rfl⟩
        exact ⟨ids, given, short, nonempty, executor, prefills, rfl⟩
      · rintro ⟨ids, given, short, nonempty, executor, prefills, rfl⟩
        exact ⟨_, _, ⟨executor, ⟨⟨ids.length, ids⟩, ⟨ids, given, rfl⟩, short, nonempty, rfl,
          prefills⟩, rfl⟩, trivial, rfl⟩

/-- A decode runs the loop, and the final prefill once the loop has ended. -/
theorem succeeds_decodeFrom [Bot Scalar] {environments : List (StepEnvironment Environment Score)}
    {finalEnvironment : Environment} {responses : Option (Responses Score)} :
    Succeeds (decodeFrom parameters environments finalEnvironment) before responses after ↔
      ∃ ended between,
        Succeeds (decodeLoop parameters
          (tryGetMaxNumTokens parameters.taskExecutor before.executor) environments)
          before ended between ∧
        ((ended = true ∧
            Succeeds (finalPrefill parameters finalEnvironment) between () after ∧
            responses = some (finalResponses parameters
              (tryGetMaxNumTokens parameters.taskExecutor before.executor) after)) ∨
          (ended = false ∧ responses = none ∧ after = between)) := by
  simp only [decodeFrom, succeeds_bind, succeeds_get, succeeds_ite, succeeds_pure,
    Bool.not_eq_true, and_assoc, exists_and_left, exists_eq_left]
  constructor
  · rintro ⟨ended, between, loops, ⟨rfl, _, _, prefills, rfl, rfl⟩ | running⟩
    · exact ⟨true, between, loops, .inl ⟨rfl, prefills, rfl⟩⟩
    · exact ⟨ended, between, loops, .inr running⟩
  · rintro ⟨ended, between, loops, ⟨rfl, prefills, rfl⟩ | running⟩
    · exact ⟨true, between, loops, .inl ⟨rfl, (), after, prefills, rfl, rfl⟩⟩
    · exact ⟨ended, between, loops, .inr running⟩

end LiteRTLM.Core.Tasks
