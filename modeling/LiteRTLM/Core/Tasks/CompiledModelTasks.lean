import LiteRTLM.Core.Tasks.SuccessfulSteps
import LiteRTLM.Executor.ContextBounds
import LiteRTLM.Executor.PositionInvariant

/-!
Contract: the tasks over the executors of a compiled model.

Owns: the static and the dynamic executor as the tasks see them, and the calls of
`Tasks::Prefill` and `Tasks::Decode` with all that they are given.

Does not own: properties of the calls.
-/

namespace LiteRTLM.Core.Tasks

open LiteRTLM.Components
open LiteRTLM.Engine
open LiteRTLM.Executor
open LiteRTLM.Executor.CompiledModelExecutor
open LiteRTLM.Library

variable {Scalar ConstraintState Score : Type}

/-- The decodes of `LlmLiteRtCompiledModelExecutorBase` with one of its prefills. -/
def compiledModelExecutor [Bot Scalar] (maxNumTokens : Nat)
    (prefill : CallEnvironment Scalar → ExecutorTextData → ExecutorM Scalar Unit) :
    TaskExecutor (CompiledModelExecutor Scalar) (CallEnvironment Scalar) Scalar
      ConstraintState where
  getMaxNumTokens := fun _ => .ok maxNumTokens
  getCurrentStep := getCurrentStep
  prefill := prefill
  decode := fun environment constraintDecoder => do
    let (outputTokens, constrainedDecoder, sampledLogits) ←
      decodeWithParams environment constraintDecoder
    return { outputTokens, constrainedDecoder, sampledLogits }
  decodeLogits := fun environment decodedIds => do
    let constrained ← decodeLogitsWithParams environment (some decodedIds)
      (none : Option (ConstrainedDecoder ConstraintState))
    return constrained.2

/-- `LlmLiteRtCompiledModelExecutorStatic`. -/
def staticExecutor [Bot Scalar] (maxNumTokens : Nat) :
    TaskExecutor (CompiledModelExecutor Scalar) (CallEnvironment Scalar) Scalar ConstraintState :=
  compiledModelExecutor maxNumTokens fun environment textData =>
    CompiledModelExecutor.prefill environment.backend textData.batchSize textData.tokenIds
      environment.workGroups

/-- `LlmLiteRtCompiledModelExecutorDynamic`. -/
def dynamicExecutor [Bot Scalar] (maxNumTokens : Nat) :
    TaskExecutor (CompiledModelExecutor Scalar) (CallEnvironment Scalar) Scalar ConstraintState :=
  compiledModelExecutor maxNumTokens fun environment textData =>
    prefillDynamic environment textData.batchSize textData.tokenIds

section Operations

variable [Bot Scalar] {maxNumTokens : Nat}
  {prefill : CallEnvironment Scalar → ExecutorTextData → ExecutorM Scalar Unit}
  {environment : CallEnvironment Scalar} {executor after : CompiledModelExecutor Scalar}

/-- The ids a decode samples and the logits it samples from are those of the executor. -/
theorem succeeds_compiledModel_decode
    {constraintDecoder : Option (ConstrainedDecoder ConstraintState)}
    {outcome : DecodeOutcome Scalar ConstraintState} :
    Succeeds ((compiledModelExecutor maxNumTokens prefill).decode environment constraintDecoder)
        executor outcome after ↔
      Succeeds (decodeWithParams environment constraintDecoder) executor
        (outcome.outputTokens, outcome.constrainedDecoder, outcome.sampledLogits) after := by
  simp only [compiledModelExecutor, succeeds_bind, succeeds_pure]
  constructor
  · rintro ⟨⟨outputTokens, constrainedDecoder, sampledLogits⟩, _, decodes, rfl, rfl⟩
    exact decodes
  · intro decodes
    exact ⟨_, after, decodes, rfl, rfl⟩

theorem succeeds_compiledModel_decodeLogits {decodedIds : List Int} {logits : Logits Scalar} :
    Succeeds
        ((compiledModelExecutor maxNumTokens prefill :
          TaskExecutor _ _ _ ConstraintState).decodeLogits environment decodedIds)
        executor logits after ↔
      ∃ constrainedDecoder : Option (ConstrainedDecoder ConstraintState),
        Succeeds (decodeLogitsWithParams environment (some decodedIds) none) executor
          (constrainedDecoder, logits) after := by
  simp only [compiledModelExecutor, succeeds_bind, succeeds_pure]
  constructor
  · rintro ⟨⟨constrainedDecoder, logits⟩, _, decodes, rfl, rfl⟩
    exact ⟨constrainedDecoder, decodes⟩
  · rintro ⟨constrainedDecoder, decodes⟩
    exact ⟨_, after, decodes, rfl, rfl⟩

end Operations

/-- The arguments of one `Decode` over a compiled model, and the environments it meets. -/
structure DecodeCall (Scalar ConstraintState Score : Type) where
  tokenizer : Tokenizer
  arithmetic : ScoreArithmetic Score
  isStreaming : Bool
  isCustomSampling : Bool
  benchmarkDecodeTokenCount : Nat
  stopTokenDetector : StopTokenDetector
  numOutputCandidates : Nat
  constraint : Option (Constraint ConstraintState)
  decodedIds : Option (List Int)
  environments : List (StepEnvironment (CallEnvironment Scalar) Score)
  finalEnvironment : CallEnvironment Scalar

namespace DecodeCall

def parameters (call : DecodeCall Scalar ConstraintState Score)
    (taskExecutor : TaskExecutor (CompiledModelExecutor Scalar) (CallEnvironment Scalar) Scalar
      ConstraintState) :
    DecodeParameters (CompiledModelExecutor Scalar) (CallEnvironment Scalar) Scalar
      ConstraintState Score where
  taskExecutor := taskExecutor
  tokenizer := call.tokenizer
  arithmetic := call.arithmetic
  isStreaming := call.isStreaming
  isCustomSampling := call.isCustomSampling
  benchmarkDecodeTokenCount := call.benchmarkDecodeTokenCount

/-- The variables of the call before its loop. -/
def initialState (call : DecodeCall Scalar ConstraintState Score)
    (executor : CompiledModelExecutor Scalar) :
    DecodeState (CompiledModelExecutor Scalar) Scalar ConstraintState Score :=
  .initial call.arithmetic executor call.stopTokenDetector call.numOutputCandidates
    call.constraint call.decodedIds

/-- The call. -/
def outcome [Bot Scalar] (call : DecodeCall Scalar ConstraintState Score)
    (taskExecutor : TaskExecutor (CompiledModelExecutor Scalar) (CallEnvironment Scalar) Scalar
      ConstraintState)
    (executor : CompiledModelExecutor Scalar) :
    EStateM.Result Status
      (DecodeState (CompiledModelExecutor Scalar) Scalar ConstraintState Score)
      (Option (Responses Score)) :=
  Tasks.decode (call.parameters taskExecutor) call.stopTokenDetector call.numOutputCandidates
    call.constraint call.decodedIds call.environments call.finalEnvironment executor

end DecodeCall

/-- The ids an external sampler writes in a step. -/
def sampledIds (environment : StepEnvironment (CallEnvironment Scalar) Score) : List Int :=
  match environment.sampleToIdAndScore with
  | .ok (ids, _) => ids
  | .error _ => []

/-! ## Calls -/

inductive TaskCall (Scalar ConstraintState Score : Type) where
  | prefill (environment : CallEnvironment Scalar) (textData : ExecutorTextData)
  | decode (call : DecodeCall Scalar ConstraintState Score)

namespace TaskCall

/-- The executor after the call, if the call returns OK. -/
def after [Bot Scalar]
    (taskExecutor : TaskExecutor (CompiledModelExecutor Scalar) (CallEnvironment Scalar) Scalar
      ConstraintState)
    (executor : CompiledModelExecutor Scalar) :
    TaskCall Scalar ConstraintState Score → Option (CompiledModelExecutor Scalar)
  | .prefill environment textData =>
      stateOnSuccess
        (Tasks.prefill taskExecutor environment (some textData) :
          EStateM Status (CompiledModelExecutor Scalar) (Responses Score))
        executor
  | .decode call =>
      match call.outcome taskExecutor executor with
      | .ok (some _) state => some state.executor
      | _ => none

end TaskCall

/-- An environment whose operations all succeed and whose sampler returns `ids`. -/
def workingEnvironment (workGroups : List Nat) (ids : List Int) : CallEnvironment Unit where
  backend := workingBackend ids
  workGroups := workGroups.map fun length => (length, workingBackend ids)
  outputLogits := ⟨true, true, [1, 1, 1], [()]⟩

end LiteRTLM.Core.Tasks
