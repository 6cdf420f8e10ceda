import LiteRTLM.Components.Sampling.ScoringCpuUtil
import LiteRTLM.Core.SessionUtils.PromptTemplates
import LiteRTLM.Core.Tasks.Tasks

/-!
Contract: `Tasks::Score`.

Owns: `RunScoreStep`, the buffer of decoded ids that a step reads and the next tokens are
written to, the padding of shorter targets, and the accumulated scores.

Does not own: any executor, tokenizer or rounding, and the resources of the dummy
`DecodeOneStep`.

Step `i` of a call meets the environment number `i`.
-/

namespace LiteRTLM.Core.Tasks

open LiteRTLM.Components
open LiteRTLM.Components.FloatSampling
open LiteRTLM.Core.SessionUtils
open LiteRTLM.Engine
open LiteRTLM.Executor
open LiteRTLM.Library.PartialSelection (Algorithms)
open LiteRTLM.Util

variable {Executor Environment ConstraintState F : Type}

structure ScoreParameters (Executor Environment ConstraintState F : Type) where
  taskExecutor : TaskExecutor Executor Environment F ConstraintState
  tokenizer : EncodingTokenizer
  floats : FloatOperations F
  algorithms : Algorithms Nat
  temperature : F

namespace ScoreParameters

variable (parameters : ScoreParameters Executor Environment ConstraintState F)

/-- The executor keeps its state where a status is returned. -/
def returnIfError {α : Type} : StatusOr α → EStateM Status Executor α
  | .ok value => pure value
  | .error status => throw status

/-- `TensorBuffer::Write`, whose status is dropped: nothing is written where there is no room. -/
def writeIds (buffer ids : List Int) : List Int :=
  if ids.length ≤ buffer.length then ids ++ buffer.drop ids.length else buffer

/-- `RunScoreStep`: the log likelihoods, and what the buffer of decoded ids holds after it. The
model runs before the buffer is written. -/
def runScoreStep (environment : Environment) (stepInputIds decodedIds : List Int) :
    EStateM Status Executor (List F × List Int) := do
  let outputLogits ← parameters.taskExecutor.decodeLogits environment decodedIds
  let logLikelihoods ← returnIfError
    (computeLogLikelihood parameters.floats parameters.algorithms outputLogits.values
      stepInputIds parameters.temperature)
  return (logLikelihoods, writeIds decodedIds stepInputIds)

/-- The tokens of step `i`; a shorter target is padded with 0. -/
def stepIds (idsForEachTarget : List (List Int)) (i : Nat) : List Int :=
  idsForEachTarget.map fun ids => if i < ids.length then ids.getD i 0 else 0

/-- Only the log likelihoods of tokens that are not padding are added. -/
def addLikelihoods (floats : FloatOperations F) (idsForEachTarget : List (List Int)) (i : Nat)
    (scores stepLogLikelihoods : List F) : List F :=
  (List.range idsForEachTarget.length).map fun j =>
    if i < (idsForEachTarget.getD j []).length then
      floats.add (scores.getD j floats.zero) (stepLogLikelihoods.getD j floats.zero)
    else
      scores.getD j floats.zero

/-- The loop over the steps, from step `i` on. -/
def scoreLoop (environments : Nat → Environment) (idsForEachTarget : List (List Int)) :
    Nat → Nat → List Int → List F → EStateM Status Executor (List F)
  | 0, _, _, scores => return scores
  | steps + 1, i, decodedIds, scores => do
      let (stepLogLikelihoods, decodedIds) ←
        parameters.runScoreStep (environments i) (stepIds idsForEachTarget i) decodedIds
      scoreLoop environments idsForEachTarget steps (i + 1) decodedIds
        (addLikelihoods parameters.floats idsForEachTarget i scores stepLogLikelihoods)

def maxNumTokensOfTargetTexts (idsForEachTarget : List (List Int)) : Nat :=
  (idsForEachTarget.map List.length).foldl max 0

def score (environments : Nat → Environment) (targetTexts : List Text) (decodedIds : List Int)
    (storeTokenLengths : Bool) : EStateM Status Executor (Responses F) := do
  let maxNumTokens := tryGetMaxNumTokens parameters.taskExecutor (← get)
  let idsForEachTarget ← returnIfError
    (targetTexts.mapM parameters.tokenizer.textToTokenIds)
  let longest := maxNumTokensOfTargetTexts idsForEachTarget
  if longest ≥ maxNumTokens then
    throw (.invalidArgumentError
      s!"Input token ids are too long. Exceeding the maximum number of tokens allowed: {longest} >= {maxNumTokens}")
  else
    let scores ← parameters.scoreLoop environments idsForEachTarget longest 0 decodedIds
      (List.replicate idsForEachTarget.length parameters.floats.zero)
    let tokenLengths : List Int :=
      if storeTokenLengths then idsForEachTarget.map fun ids => (ids.length : Int) else []
    return {
      taskState := .done
      scores := scores
      tokenLengths := if tokenLengths.isEmpty then none else some tokenLengths }

end ScoreParameters

end LiteRTLM.Core.Tasks
