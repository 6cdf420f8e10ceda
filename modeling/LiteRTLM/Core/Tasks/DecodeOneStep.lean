import LiteRTLM.Components.ConstrainedDecoding.ConstrainedDecoder
import LiteRTLM.Components.StopTokenDetector
import LiteRTLM.Components.Tokenizer
import LiteRTLM.Executor.LlmExecutor

/-!
Contract: `DecodeOneStep`, one step of a decode with internal or external sampling.

Owns: the executor operations the tasks call, what a step holds back of each
candidate's text, which text it releases, and the order of constraint update, model
run, masking and sampling.

Does not own: the loop over the steps, and any executor.

The parallel vectors of the source, one entry per output candidate, are one list of
records here. The logits a step samples from are kept as a log.
-/

namespace LiteRTLM.Core.Tasks

open LiteRTLM.Components
open LiteRTLM.Engine
open LiteRTLM.Executor
open LiteRTLM.Util

/-! ## The executor as the tasks see it -/

/-- The outcome of `LlmExecutor::Decode(output_tokens, decode_params)`. -/
structure DecodeOutcome (Scalar ConstraintState : Type) where
  outputTokens : List Int
  constrainedDecoder : Option (ConstrainedDecoder ConstraintState)
  sampledLogits : Logits Scalar

/-- The operations of `LlmExecutor` that the tasks call. What an operation meets outside
the executor is in its environment. -/
structure TaskExecutor (Executor Environment Scalar ConstraintState : Type) where
  /-- `GetExecutorSettings()->GetMaxNumTokens()`. -/
  getMaxNumTokens : Executor → StatusOr Nat
  getCurrentStep : Executor → Nat
  prefill : Environment → ExecutorTextData → EStateM Status Executor Unit
  decode : Environment → Option (ConstrainedDecoder ConstraintState) →
    EStateM Status Executor (DecodeOutcome Scalar ConstraintState)
  decodeLogits : Environment → List Int → EStateM Status Executor (Logits Scalar)

/-- What one decode step meets: the executor's environment, the ids and scores an
external sampler writes, and whether the process was cancelled before the step. -/
structure StepEnvironment (Environment Score : Type) where
  executor : Environment
  sampleToIdAndScore : StatusOr (List Int × List Score)
  cancelled : Bool

/-! ## The text of one candidate -/

/-- What `DecodeOneStep` keeps for one output candidate. -/
structure Candidate where
  bpePartialTokenIds : List Int
  pendingStopTokens : List Text
  resultText : Text
deriving DecidableEq, Repr

namespace Candidate

def initial : Candidate := ⟨[], [], []⟩

/-- The loop that keeps the latest `maxLength` pieces in the queue: the released text and
the pieces left. -/
def releasePending (maxLength : Nat) : List Text → Text × List Text
  | [] => ([], [])
  | front :: rest =>
      if (front :: rest).length > maxLength then
        (front ++ (releasePending maxLength rest).1, (releasePending maxLength rest).2)
      else
        ([], front :: rest)

/-- A complete piece of text of a candidate that has not stopped. -/
def addPiece (candidate : Candidate) (maxLength : Nat) (piece : Text) : Candidate :=
  let pending :=
    if maxLength > 0 then candidate.pendingStopTokens ++ [piece] else candidate.pendingStopTokens
  let released := releasePending maxLength pending
  { bpePartialTokenIds := []
    pendingStopTokens := released.2
    resultText := if maxLength = 0 then released.1 ++ piece else released.1 }

/-- The body of the loop over the candidates, on the merged ids of one candidate and
what the tokenizer made of them. An error other than an incomplete sequence ends the
process where its value is taken. -/
def processDecoded (candidate : Candidate) (tokenIds : List Int) (decoded : StatusOr Text)
    (stopTokenFound : Bool) (maxLength : Nat) : StatusOr Candidate :=
  if Tokenizer.isIncompleteBpeSequence decoded then
    .ok { candidate with resultText := [], bpePartialTokenIds := tokenIds }
  else if stopTokenFound then
    .ok { candidate with resultText := [] }
  else do
    let piece ← decoded
    return candidate.addPiece maxLength piece

end Candidate

/-! ## The step -/

structure DecodeOneStep (Scalar ConstraintState Score : Type) where
  constrainedDecoder : Option (ConstrainedDecoder ConstraintState)
  stopTokenDetector : StopTokenDetector
  candidates : List Candidate
  scores : List Score
  isFirstStep : Bool
  sampledLogits : Option (Logits Scalar)

namespace DecodeOneStep

variable {Executor Environment Scalar ConstraintState Score : Type}

/-- The constructor. -/
def create (numOutputCandidates : Nat) (stopTokenDetector : StopTokenDetector)
    (constraint : Option (Constraint ConstraintState)) :
    DecodeOneStep Scalar ConstraintState Score where
  constrainedDecoder := constraint.map fun constraint =>
    .create constraint numOutputCandidates
  stopTokenDetector := stopTokenDetector
  candidates := List.replicate numOutputCandidates .initial
  scores := []
  isFirstStep := true
  sampledLogits := none

def numOutputCandidates (runOneStep : DecodeOneStep Scalar ConstraintState Score) : Nat :=
  runOneStep.candidates.length

def getResultText (runOneStep : DecodeOneStep Scalar ConstraintState Score) : List Text :=
  runOneStep.candidates.map Candidate.resultText

/-- The constraint states follow the decoded ids, except before the first step, whose
ids come from the prefill. -/
def updateConstraintState (runOneStep : DecodeOneStep Scalar ConstraintState Score)
    (decodedIds : List Int) : StatusOr (DecodeOneStep Scalar ConstraintState Score) :=
  match runOneStep.constrainedDecoder with
  | some decoder =>
      if runOneStep.isFirstStep then
        .ok runOneStep
      else do
        let updated ← decoder.updateConstraintState decodedIds
        return { runOneStep with constrainedDecoder := some updated }
  | none => .ok runOneStep

/-- The logits masked by the constraint states, if there is a constraint. -/
def maskLogits [Bot Scalar] (runOneStep : DecodeOneStep Scalar ConstraintState Score)
    (outputLogits : Logits Scalar) : StatusOr (Logits Scalar) :=
  match runOneStep.constrainedDecoder with
  | some decoder => decoder.maskLogits outputLogits
  | none => .ok outputLogits

/-- The loop over the candidates: the merged ids and the decoded text of each candidate,
its stop flag and its partial stop length. -/
def processCandidates (stopTokenDetector : StopTokenDetector) (tokenizer : Tokenizer) :
    Nat → List Candidate → List (List Int) → StatusOr (List Candidate)
  | index, candidate :: candidates, tokenIds :: rest => do
      let stopTokenFound := (stopTokenDetector.getStopTokensFound[index]?).getD false
      let maxLength := (stopTokenDetector.maxPartialStopTokenLength index).getD 0
      let processed ← candidate.processDecoded tokenIds (tokenizer.tokenIdsToText tokenIds)
        stopTokenFound maxLength
      let others ← processCandidates stopTokenDetector tokenizer (index + 1) candidates rest
      return processed :: others
  | _, _, _ => .ok []

/-- The part of `Run` after sampling. -/
def postProcess (runOneStep : DecodeOneStep Scalar ConstraintState Score) (tokenizer : Tokenizer)
    (nextTokens : List Int) : StatusOr (DecodeOneStep Scalar ConstraintState Score × Bool) := do
  let tokenIds ← Tokenizer.mergeTokenIds
    (runOneStep.candidates.map Candidate.bpePartialTokenIds) (nextTokens.map fun id => [id])
  let stopTokenDetector ← runOneStep.stopTokenDetector.processTokens nextTokens
  let candidates ←
    processCandidates stopTokenDetector tokenizer 0 runOneStep.candidates tokenIds
  let allDone ← stopTokenDetector.allDone
  return ({ runOneStep with stopTokenDetector, candidates, isFirstStep := false }, allDone)

end DecodeOneStep

end LiteRTLM.Core.Tasks
