import LiteRTLM.Core.Tasks.DecodeOneStep
import LiteRTLM.Engine.IoTypes
import LiteRTLM.Library.Succeeds

/-!
Contract: `Tasks::Prefill` and `Tasks::Decode`.

Owns: the length check of a prefill, the decode loop with its stop test, what the loop
accumulates or streams, and the prefill that ends a decode with external sampling.

Does not own: any executor, tokenizer or sampler, and the benchmark bookkeeping apart
from the number of decode steps it asks for.

A decode meets one environment a step. It is executed on a list of environments, and
is still running when the list is used up before the loop ends.
-/

namespace LiteRTLM.Core.Tasks

open LiteRTLM.Components
open LiteRTLM.Engine
open LiteRTLM.Executor
open LiteRTLM.Util

structure ScoreArithmetic (Score : Type) where
  zero : Score
  add : Score → Score → Score
  divideBy : Score → Nat → Score
  minusInfinity : Score

/-- `kDefaultMaxNumTokens`. -/
def defaultMaxNumTokens : Nat := 4096

section Prefill

variable {Executor Environment Scalar ConstraintState Score : Type}

def tryGetMaxNumTokens (taskExecutor : TaskExecutor Executor Environment Scalar ConstraintState)
    (executor : Executor) : Nat :=
  match taskExecutor.getMaxNumTokens executor with
  | .ok maxNumTokens => maxNumTokens
  | .error _ => defaultMaxNumTokens

/-- The last dimension of a `[batchSize, length]` tensor of ids. -/
def numTokens (textData : ExecutorTextData) : Nat :=
  textData.tokenIds.length / textData.batchSize

def prefill (taskExecutor : TaskExecutor Executor Environment Scalar ConstraintState)
    (environment : Environment) (textData : Option ExecutorTextData) :
    EStateM Status Executor (Responses Score) := do
  let maxNumTokens := tryGetMaxNumTokens taskExecutor (← get)
  match textData with
  | none => throw (.notFoundError "ExecutorInputs::text_data_ is not set.")
  | some textData =>
      if numTokens textData ≥ maxNumTokens then
        throw (.invalidArgumentError
          s!"Input token ids are too long. Exceeding the maximum number of tokens allowed: {numTokens textData} >= {maxNumTokens}")
      else if textData.tokenIds.isEmpty then
        throw (.internalError "Input token ids are empty.")
      else do
        taskExecutor.prefill environment textData
        return .ofState .done

end Prefill

/-! ## The decode loop -/

def shouldStop (hitStopTokens : Bool) (benchmarkDecodeTokenCount numDecodedSteps currentStep
    maxNumTokens : Nat) : Bool :=
  if hitStopTokens ∧ benchmarkDecodeTokenCount = 0 then
    true
  else if benchmarkDecodeTokenCount > 0 ∧ numDecodedSteps ≥ benchmarkDecodeTokenCount then
    true
  else
    currentStep ≥ maxNumTokens

structure DecodeParameters (Executor Environment Scalar ConstraintState Score : Type) where
  taskExecutor : TaskExecutor Executor Environment Scalar ConstraintState
  tokenizer : Tokenizer
  arithmetic : ScoreArithmetic Score
  isStreaming : Bool
  isCustomSampling : Bool
  benchmarkDecodeTokenCount : Nat

/-- What `Decode` accumulates for one output candidate. -/
structure CandidateTotal (Score : Type) where
  finalText : Text
  accumulatedScore : Score
  numDecodedTokens : Nat
deriving DecidableEq, Repr

/-- The variables of `Decode`, and the responses it passed to its callback. -/
structure DecodeState (Executor Scalar ConstraintState Score : Type) where
  executor : Executor
  runOneStep : DecodeOneStep Scalar ConstraintState Score
  decodedIds : Option (List Int)
  numDecodeSteps : Nat
  totals : List (CandidateTotal Score)
  callbackResponses : List (Responses Score)

abbrev DecodeM (Executor Scalar ConstraintState Score : Type) :=
  EStateM Status (DecodeState Executor Scalar ConstraintState Score)

section Decode

variable {Executor Environment Scalar ConstraintState Score : Type}

/-- `RETURN_IF_ERROR`, `ASSIGN_OR_RETURN`. -/
def returnIfError {α : Type} : StatusOr α → DecodeM Executor Scalar ConstraintState Score α
  | .ok value => pure value
  | .error status => throw status

def callExecutor {α : Type} (program : EStateM Status Executor α) :
    DecodeM Executor Scalar ConstraintState Score α := fun state =>
  match program state.executor with
  | .ok value executor => .ok value { state with executor }
  | .error status executor => .error status { state with executor }

/-- The external sampling path of `DecodeAndSample`. -/
def decodeAndSampleExternal [Bot Scalar]
    (parameters : DecodeParameters Executor Environment Scalar ConstraintState Score)
    (environment : StepEnvironment Environment Score) :
    DecodeM Executor Scalar ConstraintState Score (List Int) := do
  match (← get).decodedIds with
  | none => throw (.internalError "decoded_ids must be provided for external sampling.")
  | some decodedIds => do
      let runOneStep ← returnIfError ((← get).runOneStep.updateConstraintState decodedIds)
      let outputLogits ← callExecutor
        (parameters.taskExecutor.decodeLogits environment.executor decodedIds)
      let sampledLogits ← returnIfError (runOneStep.maskLogits outputLogits)
      let (nextTokens, scores) ← returnIfError environment.sampleToIdAndScore
      modify fun state => { state with
        decodedIds := some nextTokens
        runOneStep := { runOneStep with scores, sampledLogits := some sampledLogits } }
      return nextTokens

/-- The internal sampling path of `DecodeAndSample`. -/
def decodeAndSampleInternal
    (parameters : DecodeParameters Executor Environment Scalar ConstraintState Score)
    (environment : StepEnvironment Environment Score) :
    DecodeM Executor Scalar ConstraintState Score (List Int) := do
  let constrainedDecoder := (← get).runOneStep.constrainedDecoder
  let outcome ← callExecutor
    (parameters.taskExecutor.decode environment.executor constrainedDecoder)
  modify fun state => { state with
    runOneStep := { state.runOneStep with
      constrainedDecoder := outcome.constrainedDecoder
      sampledLogits := some outcome.sampledLogits } }
  return outcome.outputTokens

def decodeAndSample [Bot Scalar]
    (parameters : DecodeParameters Executor Environment Scalar ConstraintState Score)
    (environment : StepEnvironment Environment Score) :
    DecodeM Executor Scalar ConstraintState Score (List Int) :=
  if parameters.isCustomSampling then
    decodeAndSampleExternal parameters environment
  else
    decodeAndSampleInternal parameters environment

def run [Bot Scalar]
    (parameters : DecodeParameters Executor Environment Scalar ConstraintState Score)
    (environment : StepEnvironment Environment Score) :
    DecodeM Executor Scalar ConstraintState Score Bool := do
  let nextTokens ← decodeAndSample parameters environment
  let (runOneStep, allDone) ← returnIfError
    ((← get).runOneStep.postProcess parameters.tokenizer nextTokens)
  modify fun state => { state with runOneStep }
  return allDone

/-- `StrReplaceAll(text, "▁" to " ")`. -/
def replaceSpaces (text : Text) : Text :=
  text.map fun character => if character = '▁' then ' ' else character

/-- What one step adds for one candidate when it is not streamed. -/
def CandidateTotal.add (arithmetic : ScoreArithmetic Score) (isCustomSampling : Bool)
    (total : CandidateTotal Score) (outputText : Text) (score : Score) :
    CandidateTotal Score :=
  if outputText.isEmpty then
    total
  else
    { finalText := total.finalText ++ replaceSpaces outputText
      accumulatedScore :=
        if isCustomSampling then arithmetic.add total.accumulatedScore score
        else total.accumulatedScore
      numDecodedTokens :=
        if isCustomSampling then total.numDecodedTokens + 1 else total.numDecodedTokens }

/-- The score of each candidate in the step: `GetScores()[j]`. -/
def stepScores (arithmetic : ScoreArithmetic Score)
    (runOneStep : DecodeOneStep Scalar ConstraintState Score) : List Score :=
  (List.range runOneStep.numOutputCandidates).map fun j =>
    runOneStep.scores.getD j arithmetic.zero

def stepResponses (arithmetic : ScoreArithmetic Score) (isCustomSampling : Bool)
    (runOneStep : DecodeOneStep Scalar ConstraintState Score) : Responses Score where
  taskState := .processing
  texts := runOneStep.getResultText.map fun text => String.ofList (replaceSpaces text)
  scores := List.zipWith
    (fun outputText score =>
      if isCustomSampling ∧ ¬outputText.isEmpty then score else arithmetic.zero)
    runOneStep.getResultText (stepScores arithmetic runOneStep)

/-- The part of the loop body after the step: the texts are streamed, unless all
candidates are done, or accumulated. -/
def report (parameters : DecodeParameters Executor Environment Scalar ConstraintState Score)
    (allDone : Bool) (state : DecodeState Executor Scalar ConstraintState Score) :
    DecodeState Executor Scalar ConstraintState Score :=
  let texts := state.runOneStep.getResultText
  { state with
    totals :=
      if parameters.isStreaming then
        state.totals
      else
        List.zipWith
          (fun total (step : Text × Score) =>
            total.add parameters.arithmetic parameters.isCustomSampling step.1 step.2)
          state.totals (texts.zip (stepScores parameters.arithmetic state.runOneStep))
    callbackResponses :=
      if parameters.isStreaming ∧ (texts.any fun text => !text.isEmpty) ∧ ¬allDone then
        state.callbackResponses ++
          [stepResponses parameters.arithmetic parameters.isCustomSampling state.runOneStep]
      else
        state.callbackResponses }

/-- One iteration of the loop; it returns whether the loop ends. -/
def decodeStep [Bot Scalar]
    (parameters : DecodeParameters Executor Environment Scalar ConstraintState Score)
    (maxNumTokens : Nat) (environment : StepEnvironment Environment Score) :
    DecodeM Executor Scalar ConstraintState Score Bool := do
  if environment.cancelled then
    throw (.cancelledError "Process cancelled.")
  else do
    let allDone ← run parameters environment
    modify fun state => { state with numDecodeSteps := state.numDecodeSteps + 1 }
    modify (report parameters allDone)
    let state ← get
    return shouldStop allDone parameters.benchmarkDecodeTokenCount state.numDecodeSteps
      (parameters.taskExecutor.getCurrentStep state.executor) maxNumTokens

/-- The loop, on the environments of its steps: whether it ended. -/
def decodeLoop [Bot Scalar]
    (parameters : DecodeParameters Executor Environment Scalar ConstraintState Score)
    (maxNumTokens : Nat) :
    List (StepEnvironment Environment Score) →
      DecodeM Executor Scalar ConstraintState Score Bool
  | [] => pure false
  | environment :: environments => do
      let stops ← decodeStep parameters maxNumTokens environment
      if stops then
        pure true
      else
        decodeLoop parameters maxNumTokens environments

/-! ## After the loop -/

/-- The prefill that makes the last sampled ids the pending token. -/
def finalPrefill
    (parameters : DecodeParameters Executor Environment Scalar ConstraintState Score)
    (environment : Environment) : DecodeM Executor Scalar ConstraintState Score Unit := do
  if parameters.isCustomSampling then do
    let textData := (← get).decodedIds.map fun ids => ExecutorTextData.mk ids.length ids
    let _ ← callExecutor
      (prefill parameters.taskExecutor environment textData :
        EStateM Status Executor (Responses Score))
    return
  else
    pure ()

/-- The final score of one candidate: with external sampling its average over the steps
in which it produced text. -/
def CandidateTotal.finalScore (arithmetic : ScoreArithmetic Score) (isCustomSampling : Bool)
    (total : CandidateTotal Score) : Score :=
  if isCustomSampling then
    if total.numDecodedTokens > 0 then
      arithmetic.divideBy total.accumulatedScore total.numDecodedTokens
    else
      arithmetic.minusInfinity
  else
    arithmetic.zero

/-- What `Decode` returns once the loop has ended. -/
def finalResponses
    (parameters : DecodeParameters Executor Environment Scalar ConstraintState Score)
    (maxNumTokens : Nat) (state : DecodeState Executor Scalar ConstraintState Score) :
    Responses Score :=
  let taskState :=
    if parameters.taskExecutor.getCurrentStep state.executor ≥ maxNumTokens then
      TaskState.maxNumTokensReached
    else
      TaskState.done
  if parameters.isStreaming then
    .ofState taskState
  else
    { taskState
      texts := state.totals.map fun total => String.ofList total.finalText
      scores := state.totals.map
        (CandidateTotal.finalScore parameters.arithmetic parameters.isCustomSampling) }

/-- `Decode` from its initial variables: no response while the loop still runs. -/
def decodeFrom [Bot Scalar]
    (parameters : DecodeParameters Executor Environment Scalar ConstraintState Score)
    (environments : List (StepEnvironment Environment Score)) (finalEnvironment : Environment) :
    DecodeM Executor Scalar ConstraintState Score (Option (Responses Score)) := do
  let maxNumTokens := tryGetMaxNumTokens parameters.taskExecutor (← get).executor
  let ended ← decodeLoop parameters maxNumTokens environments
  if ended then do
    finalPrefill parameters finalEnvironment
    return some (finalResponses parameters maxNumTokens (← get))
  else
    return none

/-- The variables of `Decode` before the loop. -/
def DecodeState.initial (arithmetic : ScoreArithmetic Score) (executor : Executor)
    (stopTokenDetector : StopTokenDetector) (numOutputCandidates : Nat)
    (constraint : Option (Constraint ConstraintState)) (decodedIds : Option (List Int)) :
    DecodeState Executor Scalar ConstraintState Score where
  executor := executor
  runOneStep := .create numOutputCandidates stopTokenDetector constraint
  decodedIds := decodedIds
  numDecodeSteps := 0
  totals := List.replicate numOutputCandidates ⟨[], arithmetic.zero, 0⟩
  callbackResponses := []

def decode [Bot Scalar]
    (parameters : DecodeParameters Executor Environment Scalar ConstraintState Score)
    (stopTokenDetector : StopTokenDetector) (numOutputCandidates : Nat)
    (constraint : Option (Constraint ConstraintState)) (decodedIds : Option (List Int))
    (environments : List (StepEnvironment Environment Score)) (finalEnvironment : Environment)
    (executor : Executor) :
    EStateM.Result Status (DecodeState Executor Scalar ConstraintState Score)
      (Option (Responses Score)) :=
  decodeFrom parameters environments finalEnvironment
    (.initial parameters.arithmetic executor stopTokenDetector numOutputCandidates constraint
      decodedIds)

end Decode

end LiteRTLM.Core.Tasks
