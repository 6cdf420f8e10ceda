import LiteRTLM.Core.Tasks.SuccessfulSteps

/-!
Contract: what a successful step does to each candidate.

Owns: the candidates and the stop token detector before the tokens are processed, what
processing makes of each candidate, and that a step in which all are done has no text.

Does not own: what the loop makes of the texts.
-/

namespace LiteRTLM.Core.Tasks

open LiteRTLM.Components
open LiteRTLM.Engine
open LiteRTLM.Executor
open LiteRTLM.Library
open LiteRTLM.Util

/-! ## One candidate -/

/-- A candidate that has stopped has no text in the step. -/
theorem Candidate.processDecoded_found {candidate processed : Candidate} {tokenIds : List Int}
    {decoded : StatusOr Text} {maxLength : Nat}
    (ok : candidate.processDecoded tokenIds decoded true maxLength = .ok processed) :
    processed.resultText = [] := by
  unfold Candidate.processDecoded at ok
  split at ok
  · cases ok
    rfl
  · cases ok
    rfl

/-- The loop over the candidates treats each of them with its own ids. -/
theorem processCandidates_ok {stopTokenDetector : StopTokenDetector} {tokenizer : Tokenizer}
    {index : Nat} {candidates processed : List Candidate} {tokenIds : List (List Int)}
    (sameLength : candidates.length = tokenIds.length)
    (ok : DecodeOneStep.processCandidates stopTokenDetector tokenizer index candidates tokenIds =
      .ok processed) :
    processed.length = candidates.length ∧
      ∀ (j : Nat) candidate ids, candidates[j]? = some candidate → tokenIds[j]? = some ids →
        ∃ result, processed[j]? = some result ∧
          candidate.processDecoded ids (tokenizer.tokenIdsToText ids)
            ((stopTokenDetector.getStopTokensFound[index + j]?).getD false)
            ((stopTokenDetector.maxPartialStopTokenLength (index + j)).getD 0) = .ok result := by
  induction candidates generalizing index processed tokenIds with
  | nil =>
      have empty : tokenIds = [] := List.length_eq_zero_iff.mp sameLength.symm
      subst empty
      cases ok
      exact ⟨rfl, fun j candidate ids isCandidate => by simp at isCandidate⟩
  | cons candidate candidates inductionHypothesis =>
      cases tokenIds with
      | nil => cases sameLength
      | cons ids rest =>
          simp only [DecodeOneStep.processCandidates, except_bind_eq_ok, except_pure_eq_ok] at ok
          obtain ⟨first, firstOk, others, othersOk, rfl⟩ := ok
          obtain ⟨length, each⟩ := inductionHypothesis (Nat.succ.inj sameLength) othersOk
          refine ⟨by rw [List.length_cons, length, List.length_cons], ?_⟩
          intro j other otherIds isOther isIds
          cases j with
          | zero =>
              cases isOther
              cases isIds
              exact ⟨first, rfl, firstOk⟩
          | succ j =>
              obtain ⟨result, isResult, resultOk⟩ := each j other otherIds isOther isIds
              refine ⟨result, isResult, ?_⟩
              rw [show index + (j + 1) = index + 1 + j by omega]
              exact resultOk

/-! ## One step -/

section Step

variable {Executor Environment Scalar ConstraintState Score : Type}
  {before after : DecodeState Executor Scalar ConstraintState Score}
  {parameters : DecodeParameters Executor Environment Scalar ConstraintState Score}
  {environment : StepEnvironment Environment Score}

/-- Processing keeps the number of candidates. -/
theorem PostProcessed.candidates_length {tokenizer : Tokenizer} {nextTokens : List Int}
    {sampled processed : DecodeOneStep Scalar ConstraintState Score} {allDone : Bool}
    (processes : PostProcessed tokenizer nextTokens sampled processed allDone) :
    processed.candidates.length = sampled.candidates.length := by
  refine (processCandidates_ok ?_ processes.candidates).1
  simp [processes.oneTokenEach]

/-- What processing makes of one candidate. -/
theorem PostProcessed.candidate {tokenizer : Tokenizer} {nextTokens : List Int}
    {sampled processed : DecodeOneStep Scalar ConstraintState Score} {allDone : Bool}
    (processes : PostProcessed tokenizer nextTokens sampled processed allDone) {j : Nat}
    {candidate : Candidate} (isCandidate : sampled.candidates[j]? = some candidate) :
    ∃ token result, nextTokens[j]? = some token ∧ processed.candidates[j]? = some result ∧
      candidate.processDecoded (candidate.bpePartialTokenIds ++ [token])
        (tokenizer.tokenIdsToText (candidate.bpePartialTokenIds ++ [token]))
        ((processed.stopTokenDetector.getStopTokensFound[j]?).getD false)
        ((processed.stopTokenDetector.maxPartialStopTokenLength j).getD 0) = .ok result := by
  have inBounds : j < nextTokens.length := by
    rw [processes.oneTokenEach]
    exact (List.getElem?_eq_some_iff.mp isCandidate).1
  obtain ⟨-, each⟩ := processCandidates_ok
    (by simp [processes.oneTokenEach]) processes.candidates
  obtain ⟨result, isResult, resultOk⟩ := each j candidate
    (candidate.bpePartialTokenIds ++ [nextTokens[j]]) isCandidate (by
      rw [List.getElem?_zipWith, List.getElem?_map, List.getElem?_map, isCandidate,
        List.getElem?_eq_getElem inBounds]
      rfl)
  rw [Nat.zero_add] at resultOk
  exact ⟨nextTokens[j], result, List.getElem?_eq_getElem inBounds, isResult, resultOk⟩

/-- No candidate has text in a step after which all are done. -/
theorem PostProcessed.texts_nil {tokenizer : Tokenizer} {nextTokens : List Int}
    {sampled processed : DecodeOneStep Scalar ConstraintState Score}
    (processes : PostProcessed tokenizer nextTokens sampled processed true) :
    ∀ text ∈ processed.getResultText, text = [] := by
  intro text member
  obtain ⟨result, resultMember, rfl⟩ := List.mem_map.mp member
  obtain ⟨j, inBounds, isResult⟩ := List.getElem_of_mem resultMember
  have inSampled : j < sampled.candidates.length := processes.candidates_length ▸ inBounds
  have isCandidate : sampled.candidates[j]? = some sampled.candidates[j] :=
    List.getElem?_eq_getElem inSampled
  obtain ⟨token, other, isToken, isOther, resultOk⟩ := processes.candidate isCandidate
  have same : other = result := by
    rw [List.getElem?_eq_getElem inBounds, isResult] at isOther
    exact (Option.some.inj isOther).symm
  have allFound := (allDone_ok processes.allDone).symm
  have found : (processed.stopTokenDetector.getStopTokensFound[j]?).getD false = true := by
    have inBatch : j < processed.stopTokenDetector.batchItems.length := by
      rw [processes.stopTokenDetector]
      simp only [StopTokenDetector.processItems, List.length_zipWith]
      have tokenInBounds := (List.getElem?_eq_some_iff.mp isToken).1
      have batch := processes.batch
      unfold StopTokenDetector.batchSize at batch
      omega
    rw [StopTokenDetector.getStopTokensFound, List.getElem?_map,
      List.getElem?_eq_getElem inBatch]
    exact List.all_eq_true.mp allFound _ (List.getElem_mem inBatch)
  rw [found, same] at resultOk
  exact Candidate.processDecoded_found resultOk

/-- Sampling leaves the candidates and the stop token detector alone. -/
theorem sampled_frame [Bot Scalar] {nextTokens : List Int}
    (sampled : SampledExternally parameters environment before after nextTokens ∨
      SampledInternally parameters environment before after nextTokens) :
    after.runOneStep.candidates = before.runOneStep.candidates ∧
      after.runOneStep.stopTokenDetector = before.runOneStep.stopTokenDetector := by
  cases sampled with
  | inl external =>
      obtain ⟨_, _, _, _, _, _, _, updates, _, _, _, rfl⟩ := external.step
      have updated := updateConstraintState_ok updates
      rw [updated]
      exact ⟨rfl, rfl⟩
  | inr internal =>
      obtain ⟨_, _, _, _, rfl⟩ := internal.step
      exact ⟨rfl, rfl⟩

/-- A step keeps the number of candidates, and has no text when all are done after it. -/
theorem run_candidates [Bot Scalar] {allDone : Bool}
    (runs : Succeeds (run parameters environment) before allDone after) :
    after.runOneStep.candidates.length = before.runOneStep.candidates.length ∧
      (allDone = true → ∀ text ∈ after.runOneStep.getResultText, text = []) := by
  obtain ⟨nextTokens, between, sampled, runOneStep, processed, rfl⟩ := succeeds_run.mp runs
  have processes := postProcess_ok processed
  constructor
  · rw [processes.candidates_length, (sampled_frame sampled).1]
  · intro done
    subst done
    exact processes.texts_nil

end Step

/-! ## The steps of a loop -/

section Steps

variable {Executor Environment Scalar ConstraintState Score : Type} [Bot Scalar]
  (parameters : DecodeParameters Executor Environment Scalar ConstraintState Score)
  (maxNumTokens : Nat)

def stepOutputs : List (StepEnvironment Environment Score) →
    DecodeState Executor Scalar ConstraintState Score → List (List Text × List Score)
  | [], _ => []
  | environment :: environments, state =>
      match decodeStep parameters maxNumTokens environment state with
      | .error _ _ => []
      | .ok stops next =>
          (next.runOneStep.getResultText, stepScores parameters.arithmetic next.runOneStep) ::
            if stops then [] else stepOutputs environments next

def stepTokens : List (StepEnvironment Environment Score) →
    DecodeState Executor Scalar ConstraintState Score → List (List Int)
  | [], _ => []
  | environment :: environments, state =>
      match decodeAndSample parameters environment state,
        decodeStep parameters maxNumTokens environment state with
      | .ok tokens _, .ok stops next =>
          tokens :: if stops then [] else stepTokens environments next
      | _, _ => []

end Steps

/-! ## An executor that emits what it is given -/

/-- An executor that counts its steps and emits the ids of its environment. -/
def echoExecutor (maxNumTokens : Nat) : TaskExecutor Nat (List Int) Nat Unit where
  getMaxNumTokens := fun _ => .ok maxNumTokens
  getCurrentStep := id
  prefill := fun _ _ => modify (· + 1)
  decode := fun outputTokens constrainedDecoder => do
    modify (· + 1)
    return { outputTokens, constrainedDecoder, sampledLogits := ⟨true, true, [1], [0]⟩ }
  decodeLogits := fun _ _ => do
    modify (· + 1)
    return ⟨true, true, [1], [0]⟩

/-- A tokenizer whose ids are the letters of the alphabet. -/
def letterTokenizer : Tokenizer where
  tokenIdsToText := fun ids => .ok (ids.map fun id => Char.ofNat (96 + id.toNat))

/-- The parameters of a decode without a callback that samples internally. -/
def echoParameters (maxNumTokens : Nat) : DecodeParameters Nat (List Int) Nat Unit Nat where
  taskExecutor := echoExecutor maxNumTokens
  tokenizer := letterTokenizer
  arithmetic := ⟨0, (· + ·), (· / ·), 0⟩
  isStreaming := false
  isCustomSampling := false
  benchmarkDecodeTokenCount := 0

/-- The steps that emit the given ids. -/
def echoSteps (steps : List (List Int)) : List (StepEnvironment (List Int) Nat) :=
  steps.map fun ids => ⟨ids, .ok ([], []), false⟩

end LiteRTLM.Core.Tasks
