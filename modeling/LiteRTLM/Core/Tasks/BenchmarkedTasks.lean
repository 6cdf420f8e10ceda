import Mathlib
import LiteRTLM.Core.Tasks.Tasks
import LiteRTLM.Engine.BenchmarkInfo

/-!
Contract: `Tasks::Prefill` and `Tasks::Decode` with their benchmark turns.

Owns: where a prefill and a decode start and end a turn, and that without benchmarking they are
the prefill and the decode of the tasks.

Does not own: what the tasks do apart from it. Marks are taken on a copy of the benchmark info,
which leaves the turns alone.
-/

namespace LiteRTLM.Core.Tasks

open LiteRTLM.Components
open LiteRTLM.Engine
open LiteRTLM.Executor

/-! ## Programs with benchmark info -/

/-- The variables of a task, and the benchmark info if benchmarking is enabled. -/
structure Benchmarked (State : Type) where
  state : State
  benchmarkInfo : Option BenchmarkInfo

abbrev BenchmarkedM (State : Type) := EStateM Status (Benchmarked State)

section Programs

variable {State α : Type}

/-- A program that does not use the benchmark info. -/
def onState (program : EStateM Status State α) : BenchmarkedM State α := fun before =>
  match program before.state with
  | .ok value state => .ok value { before with state }
  | .error status state => .error status { before with state }

/-- `if (benchmark_info.has_value()) RETURN_IF_ERROR(...)`. -/
def timed (record : BenchmarkInfo → StatusOr BenchmarkInfo) : BenchmarkedM State Unit :=
  fun before =>
    match before.benchmarkInfo with
    | none => .ok () before
    | some info =>
        match record info with
        | .ok recorded => .ok () { before with benchmarkInfo := some recorded }
        | .error status => .error status before

/-- The number of decode steps that the benchmark asks for. -/
def decodeTokenCount (benchmarkInfo : Option BenchmarkInfo) : Nat :=
  match benchmarkInfo with
  | none => 0
  | some info => info.numDecodeTokens

end Programs

/-! ## Prefill -/

section Prefill

variable {Executor Environment Scalar ConstraintState Score : Type}

/-- `Prefill`, with the turn around the executor's prefill. -/
def benchmarkedPrefill
    (taskExecutor : TaskExecutor Executor Environment Scalar ConstraintState)
    (environment : Environment) (textData : Option ExecutorTextData) :
    BenchmarkedM Executor (Responses Score) := do
  let maxNumTokens := tryGetMaxNumTokens taskExecutor (← get).state
  match textData with
  | none => throw (.notFoundError "ExecutorInputs::text_data_ is not set.")
  | some textData =>
      if numTokens textData ≥ maxNumTokens then
        throw (.invalidArgumentError
          s!"Input token ids are too long. Exceeding the maximum number of tokens allowed: {numTokens textData} >= {maxNumTokens}")
      else if textData.tokenIds.isEmpty then
        throw (.internalError "Input token ids are empty.")
      else do
        timed BenchmarkInfo.timePrefillTurnStart
        onState (taskExecutor.prefill environment textData)
        timed (BenchmarkInfo.timePrefillTurnEnd textData.tokenIds.length)
        return .ofState .done

end Prefill

/-! ## Decode -/

section Decode

variable {Executor Environment Scalar ConstraintState Score : Type} [Bot Scalar]

/-- One iteration of the loop: a cancelled process ends the turn before it returns. -/
def benchmarkedStep
    (parameters : DecodeParameters Executor Environment Scalar ConstraintState Score)
    (maxNumTokens numOutputCandidates : Nat) (environment : StepEnvironment Environment Score) :
    BenchmarkedM (DecodeState Executor Scalar ConstraintState Score) Bool := do
  if environment.cancelled then
    timed (BenchmarkInfo.timeDecodeTurnEnd
      ((← get).state.numDecodeSteps * numOutputCandidates))
  onState (decodeStep parameters maxNumTokens environment)

/-- The loop, on the environments of its steps: whether it ended. -/
def benchmarkedLoop
    (parameters : DecodeParameters Executor Environment Scalar ConstraintState Score)
    (maxNumTokens numOutputCandidates : Nat) : List (StepEnvironment Environment Score) →
      BenchmarkedM (DecodeState Executor Scalar ConstraintState Score) Bool
  | [] => pure false
  | environment :: environments => do
      let stops ← benchmarkedStep parameters maxNumTokens numOutputCandidates environment
      if stops then
        pure true
      else
        benchmarkedLoop parameters maxNumTokens numOutputCandidates environments

/-- `Decode` from its initial variables, with its turn. -/
def benchmarkedDecodeFrom
    (parameters : DecodeParameters Executor Environment Scalar ConstraintState Score)
    (numOutputCandidates : Nat) (environments : List (StepEnvironment Environment Score))
    (finalEnvironment : Environment) :
    BenchmarkedM (DecodeState Executor Scalar ConstraintState Score)
      (Option (Responses Score)) := do
  let count := decodeTokenCount (← get).benchmarkInfo
  let parameters := { parameters with benchmarkDecodeTokenCount := count }
  timed BenchmarkInfo.timeDecodeTurnStart
  let maxNumTokens := tryGetMaxNumTokens parameters.taskExecutor (← get).state.executor
  let ended ← benchmarkedLoop parameters maxNumTokens numOutputCandidates environments
  if ended then do
    timed (BenchmarkInfo.timeDecodeTurnEnd ((← get).state.numDecodeSteps * numOutputCandidates))
    onState (finalPrefill parameters finalEnvironment)
    return some (finalResponses parameters maxNumTokens (← get).state)
  else
    return none

end Decode

/-! ## Without benchmarking -/

section Disabled

variable {Executor Environment Scalar ConstraintState Score : Type}

/-- Without benchmark info a prefill is that of the tasks. -/
theorem benchmarkedPrefill_disabled
    (taskExecutor : TaskExecutor Executor Environment Scalar ConstraintState)
    (environment : Environment) (textData : Option ExecutorTextData) (executor : Executor) :
    (benchmarkedPrefill taskExecutor environment textData :
        BenchmarkedM Executor (Responses Score)) ⟨executor, none⟩ =
      onState (prefill taskExecutor environment textData) ⟨executor, none⟩ := by
  cases textData with
  | none => rfl
  | some textData =>
      unfold benchmarkedPrefill prefill onState
      simp only [bind, EStateM.bind, get, getThe, MonadStateOf.get, EStateM.get]
      split
      · rfl
      split
      · rfl
      · simp only [EStateM.bind, timed, pure, EStateM.pure]
        cases taskExecutor.prefill environment textData executor <;> rfl

variable [Bot Scalar]

theorem benchmarkedLoop_disabled
    (parameters : DecodeParameters Executor Environment Scalar ConstraintState Score)
    (maxNumTokens numOutputCandidates : Nat)
    (environments : List (StepEnvironment Environment Score))
    (state : DecodeState Executor Scalar ConstraintState Score) :
    benchmarkedLoop parameters maxNumTokens numOutputCandidates environments ⟨state, none⟩ =
      onState (decodeLoop parameters maxNumTokens environments) ⟨state, none⟩ := by
  induction environments generalizing state with
  | nil => rfl
  | cons environment environments inductionHypothesis =>
      have step : benchmarkedStep parameters maxNumTokens numOutputCandidates environment
          ⟨state, none⟩ = onState (decodeStep parameters maxNumTokens environment)
            ⟨state, none⟩ := by
        unfold benchmarkedStep
        cases environment.cancelled <;> rfl
      rw [benchmarkedLoop, decodeLoop]
      simp only [bind, EStateM.bind, step, onState]
      cases decodeStep parameters maxNumTokens environment state with
      | error status next => rfl
      | ok stops next =>
          dsimp only
          cases stops with
          | true => rfl
          | false => exact inductionHypothesis next

/-- Without benchmark info a decode is that of the tasks, which no benchmark asks for steps. -/
theorem benchmarkedDecodeFrom_disabled
    (parameters : DecodeParameters Executor Environment Scalar ConstraintState Score)
    (noCount : parameters.benchmarkDecodeTokenCount = 0) (numOutputCandidates : Nat)
    (environments : List (StepEnvironment Environment Score)) (finalEnvironment : Environment)
    (state : DecodeState Executor Scalar ConstraintState Score) :
    benchmarkedDecodeFrom parameters numOutputCandidates environments finalEnvironment
        ⟨state, none⟩ =
      onState (decodeFrom parameters environments finalEnvironment) ⟨state, none⟩ := by
  have sameParameters : { parameters with benchmarkDecodeTokenCount := 0 } = parameters := by
    cases parameters
    cases noCount
    rfl
  unfold benchmarkedDecodeFrom decodeFrom
  simp only [bind, EStateM.bind, get, getThe, MonadStateOf.get, EStateM.get, timed,
    decodeTokenCount, sameParameters, benchmarkedLoop_disabled, onState]
  cases decodeLoop parameters (tryGetMaxNumTokens parameters.taskExecutor state.executor)
    environments state with
  | error status next => rfl
  | ok ended next =>
      dsimp only
      cases ended with
      | false => rfl
      | true =>
          simp only [if_true, EStateM.bind, EStateM.get, timed, onState, pure, EStateM.pure]
          cases finalPrefill parameters finalEnvironment next <;> rfl

end Disabled

end LiteRTLM.Core.Tasks
