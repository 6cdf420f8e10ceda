import LiteRTLM.Core.Tasks.CandidateStream

/-!
Contract: the text that a decode emits for each candidate.

Owns: that the loop runs every candidate on its own tokens, and when a decode emits the text of a
candidate.

Does not own: the run of one candidate.
-/

namespace LiteRTLM.Core.Tasks

open LiteRTLM.Components
open LiteRTLM.Components.BatchItem
open LiteRTLM.Components.StopTokenDetector
open LiteRTLM.Engine
open LiteRTLM.Executor
open LiteRTLM.Library
open LiteRTLM.Util

variable {Executor Environment Scalar ConstraintState Score : Type}
  {before after : DecodeState Executor Scalar ConstraintState Score}
  {parameters : DecodeParameters Executor Environment Scalar ConstraintState Score}

/-- What the step keeps for a candidate. -/
structure HasRun (stopSequences : List (List Int)) (candidate : Nat) (run : CandidateRun)
    (state : DecodeState Executor Scalar ConstraintState Score) : Prop where
  storage : state.runOneStep.stopTokenDetector.stopSequencesStorage = stopSequences
  item : state.runOneStep.stopTokenDetector.batchItems[candidate]? = some run.item
  candidate : state.runOneStep.candidates[candidate]? = some run.candidate

/-- The text that the steps emit for a candidate. -/
def emittedText (candidate : Nat) (outputs : List (List Text × List Score)) : Text :=
  (outputs.map fun output => output.1.getD candidate []).flatten

/-- A step is one token of each candidate. -/
theorem HasRun.step [Bot Scalar] {stopSequences : List (List Int)} {candidate : Nat}
    {run : CandidateRun} (hasRun : HasRun stopSequences candidate run before) {maxNumTokens : Nat}
    {environment : StepEnvironment Environment Score} {stops : Bool}
    (steps : Succeeds (decodeStep parameters maxNumTokens environment) before stops after) :
    ∃ tokens between token next,
      Succeeds (decodeAndSample parameters environment) before tokens between ∧
      tokens[candidate]? = some token ∧
      run.step stopSequences parameters.tokenizer token = .ok next ∧
      HasRun stopSequences candidate next after := by
  obtain ⟨-, allDone, ran, runs, rfl, -⟩ := succeeds_decodeStep.mp steps
  obtain ⟨tokens, between, sampled, runOneStep, processed, rfl⟩ := succeeds_run.mp runs
  obtain ⟨sameCandidates, sameDetector⟩ := sampled_frame sampled
  have processes := postProcess_ok processed
  have isCandidate : between.runOneStep.candidates[candidate]? = some run.candidate := by
    rw [sameCandidates, hasRun.candidate]
  have isItem : between.runOneStep.stopTokenDetector.batchItems[candidate]? = some run.item := by
    rw [sameDetector, hasRun.item]
  have storage : between.runOneStep.stopTokenDetector.stopSequencesStorage = stopSequences := by
    rw [sameDetector, hasRun.storage]
  obtain ⟨token, result, isToken, isResult, processedOk⟩ := processes.candidate isCandidate
  have isProcessed : runOneStep.stopTokenDetector.batchItems[candidate]? =
      some (processToken stopSequences run.item token) := by
    rw [processes.stopTokenDetector]
    show (List.zipWith
      (processToken between.runOneStep.stopTokenDetector.stopSequencesStorage)
      between.runOneStep.stopTokenDetector.batchItems tokens)[candidate]? = _
    rw [List.getElem?_zipWith, isItem, isToken, storage]
  refine ⟨tokens, between, token, ⟨processToken stopSequences run.item token, result⟩,
    succeeds_decodeAndSample.mpr sampled, isToken, ?_, ?_⟩
  · rw [getStopTokensFound, List.getElem?_map, isProcessed, maxPartialStopTokenLength,
      isProcessed] at processedOk
    simp only [Option.map_some, Option.getD_some] at processedOk
    simp only [CandidateRun.step, processedOk]
    rfl
  · constructor
    · show runOneStep.stopTokenDetector.stopSequencesStorage = stopSequences
      rw [processes.stopTokenDetector]
      exact storage
    · exact isProcessed
    · exact isResult

/-- The loop runs every candidate on its own tokens. -/
theorem HasRun.loop [Bot Scalar] {stopSequences : List (List Int)} {candidate : Nat}
    {maxNumTokens : Nat} {environments : List (StepEnvironment Environment Score)} {ended : Bool}
    (loops : Succeeds (decodeLoop parameters maxNumTokens environments) before ended after)
    {run : CandidateRun} (hasRun : HasRun stopSequences candidate run before)
    {tokens : List Int} {texts : List Text}
    (runs : CandidateRuns stopSequences parameters.tokenizer tokens texts run) :
    ∃ last, CandidateRuns stopSequences parameters.tokenizer
      (tokens ++ itemStream (stepTokens parameters maxNumTokens environments before) candidate)
      (texts ++ (stepOutputs parameters maxNumTokens environments before).map
        fun output => output.1.getD candidate []) last := by
  induction environments generalizing before run tokens texts with
  | nil =>
      refine ⟨run, ?_⟩
      simpa [stepTokens, stepOutputs, itemStream] using runs
  | cons environment environments inductionHypothesis =>
      obtain ⟨stops, between, steps, rest⟩ := succeeds_decodeLoop_cons.mp loops
      obtain ⟨sampled, sampledState, token, next, samples, isToken, runSteps, hasNext⟩ :=
        hasRun.step steps
      have isText : between.runOneStep.getResultText.getD candidate [] =
          next.candidate.resultText := by
        rw [List.getD_eq_getElem?_getD, DecodeOneStep.getResultText, List.getElem?_map,
          hasNext.candidate]
        rfl
      have runsNext := runs.token runSteps
      have stepped : decodeStep parameters maxNumTokens environment before = .ok stops between :=
        steps
      have sampledOk : decodeAndSample parameters environment before = .ok sampled sampledState :=
        samples
      have allTokens : itemStream (stepTokens parameters maxNumTokens (environment :: environments)
          before) candidate = token :: itemStream (if stops then []
            else stepTokens parameters maxNumTokens environments between) candidate := by
        rw [stepTokens, stepped, sampledOk, itemStream, List.filterMap_cons, isToken]
        rfl
      have allTexts : ((stepOutputs parameters maxNumTokens (environment :: environments)
          before).map fun output => output.1.getD candidate []) =
            next.candidate.resultText :: (if stops then []
              else stepOutputs parameters maxNumTokens environments between).map
                fun output => output.1.getD candidate [] := by
        rw [stepOutputs, stepped, List.map_cons, isText]
      rw [allTokens, allTexts, List.append_cons, List.append_cons texts]
      cases rest with
      | inl stopped =>
          obtain ⟨rfl, -, -⟩ := stopped
          refine ⟨next, ?_⟩
          simpa [itemStream] using runsNext
      | inr goesOn =>
          obtain ⟨rfl, loopsRest⟩ := goesOn
          exact inductionHypothesis loopsRest hasNext runsNext

def candidateTokens [Bot Scalar]
    (parameters : DecodeParameters Executor Environment Scalar ConstraintState Score)
    (environments : List (StepEnvironment Environment Score))
    (state : DecodeState Executor Scalar ConstraintState Score) (candidate : Nat) : List Int :=
  itemStream (stepTokens parameters
    (tryGetMaxNumTokens parameters.taskExecutor state.executor) environments state) candidate

def candidateText [Bot Scalar]
    (parameters : DecodeParameters Executor Environment Scalar ConstraintState Score)
    (environments : List (StepEnvironment Environment Score))
    (state : DecodeState Executor Scalar ConstraintState Score) (candidate : Nat) : Text :=
  emittedText candidate (stepOutputs parameters
    (tryGetMaxNumTokens parameters.taskExecutor state.executor) environments state)

/-- **Emitted text.** When the detector's reports on a candidate's tokens are exact, a decode emits
the text of the candidate if and only if none of it is held back. -/
theorem decode_emitsItsText_iff [Bot Scalar] {stopTokenDetector : StopTokenDetector}
    {numOutputCandidates candidate : Nat} {constraint : Option (Constraint ConstraintState)}
    {decodedIds : Option (List Int)} {environments : List (StepEnvironment Environment Score)}
    {finalEnvironment : Environment} {responses : Responses Score}
    {initial : DecodeState Executor Scalar ConstraintState Score} {executor : Executor}
    (isInitial : initial = .initial parameters.arithmetic executor
      (stopTokenDetector.resetBatch numOutputCandidates) numOutputCandidates constraint decodedIds)
    (isCandidate : candidate < numOutputCandidates)
    (decodes : decode parameters (stopTokenDetector.resetBatch numOutputCandidates)
      numOutputCandidates constraint decodedIds environments finalEnvironment executor =
        .ok (some responses) after)
    (exact : ∀ count ≤ (candidateTokens parameters environments initial candidate).length,
      ReportsExactly stopTokenDetector.stopSequencesStorage
        ((candidateTokens parameters environments initial candidate).take count)) :
    EmitsItsText stopTokenDetector.stopSequencesStorage parameters.tokenizer
        (candidateTokens parameters environments initial candidate)
        (candidateText parameters environments initial candidate) ↔
      HoldsNothingBack stopTokenDetector.stopSequencesStorage parameters.tokenizer
        (candidateTokens parameters environments initial candidate) := by
  subst isInitial
  obtain ⟨ended, between, loops, -⟩ := succeeds_decodeFrom.mp decodes
  have hasRun : HasRun stopTokenDetector.stopSequencesStorage candidate
      (.initial stopTokenDetector.stopSequencesStorage)
      (.initial parameters.arithmetic executor (stopTokenDetector.resetBatch numOutputCandidates)
        numOutputCandidates constraint decodedIds :
          DecodeState Executor Scalar ConstraintState Score) := by
    have positive : numOutputCandidates ≠ 0 := by omega
    constructor
    · rfl
    · show (stopTokenDetector.resetBatch numOutputCandidates).batchItems[candidate]? = _
      simp [StopTokenDetector.resetBatch, positive, isCandidate, CandidateRun.initial]
    · show (List.replicate numOutputCandidates Candidate.initial)[candidate]? = _
      simp [isCandidate, CandidateRun.initial]
  obtain ⟨last, runs⟩ := hasRun.loop loops .start
  exact emitsItsText_iff stopTokenDetector.nonempty exact runs

/-! ## Letters -/

/-- The variables of a decode of one candidate before its loop. -/
def letterState (stopTokenDetector : StopTokenDetector) : DecodeState Nat Nat Unit Nat :=
  .initial (echoParameters 16).arithmetic 0 (stopTokenDetector.resetBatch 1) 1 none none

def letterDetector (stopSequences : List (List Int))
    (nonempty : ∀ stopSequence ∈ stopSequences, stopSequence ≠ []) : StopTokenDetector :=
  ⟨stopSequences, [], nonempty, nofun⟩

instance (stopSequences : List (List Int)) (stream : List Int) :
    Decidable (Occurs stopSequences stream) :=
  inferInstanceAs (Decidable (∃ stopSequence ∈ stopSequences, stopSequence <:+: stream))

/-- The letters before a stop sequence of one token. -/
theorem decode_emitsItsText_oneStop :
    EmitsItsText [[9]] letterTokenizer [1, 2, 9] ['a', 'b'] := by
  have decodes : ∃ responses after,
      decode (echoParameters 16) ((letterDetector [[9]] (by decide)).resetBatch 1) 1 none none
        (echoSteps [[1], [2], [9]]) [] 0 = .ok (some responses) after := ⟨_, _, rfl⟩
  obtain ⟨responses, after, decodes⟩ := decodes
  have exact : ∀ count ≤ 3, ReportsExactly [[9]] ([1, 2, 9].take count) := by
    intro count inside
    interval_cases count
    all_goals exact ⟨by decide, by decide⟩
  have holds : HoldsNothingBack [[9]] letterTokenizer [1, 2, 9] := by
    constructor
    · intro count first
      have inBounds : count < 3 := first.inBounds
      have occurs := first.after
      interval_cases count
      · exact absurd occurs (by decide)
      · exact absurd occurs (by decide)
      · refine ⟨[9], by decide, by decide, ?_⟩
        intro index group isGroup _ _
        match index, isGroup with
        | 0, _ => exact ⟨0, 0, by decide, by decide⟩
        | 1, _ => exact ⟨1, 0, by decide, by decide⟩
    · intro noStop
      exact absurd (by decide : Occurs [[9]] [1, 2, 9]) noStop
  exact (decode_emitsItsText_iff rfl (show 0 < 1 by decide) decodes exact).mpr holds

/-- The letters `a` and `b` before the stop sequence `c` are held back for the stop sequence `abcd`,
and lost. -/
theorem decode_loses_heldText :
    (∃ responses after,
      decode (echoParameters 16)
        ((letterDetector [[1, 2, 3, 4], [3]] (by decide)).resetBatch 1) 1 none none
        (echoSteps [[1], [2], [3]]) [] 0 = .ok (some responses) after ∧
      responses.taskState = .done ∧ responses.texts = [""]) ∧
    candidateTokens (echoParameters 16) (echoSteps [[1], [2], [3]])
      (letterState (letterDetector [[1, 2, 3, 4], [3]] (by decide))) 0 = [1, 2, 3] ∧
    candidateText (echoParameters 16) (echoSteps [[1], [2], [3]])
      (letterState (letterDetector [[1, 2, 3, 4], [3]] (by decide))) 0 = [] ∧
    (∀ count ≤ 3, ReportsExactly [[1, 2, 3, 4], [3]] ([1, 2, 3].take count)) ∧
    ¬EmitsItsText [[1, 2, 3, 4], [3]] letterTokenizer [1, 2, 3] [] := by
  refine ⟨⟨_, _, rfl, rfl, rfl⟩, rfl, rfl, ?_, ?_⟩
  · intro count inside
    interval_cases count
    all_goals exact ⟨by decide, by decide⟩
  · intro emits
    obtain ⟨stopSequence, member, isSuffix, text⟩ :=
      emits.stopped 2 ⟨by decide, by decide, by decide⟩
    simp only [List.mem_cons, List.not_mem_nil, or_false] at member
    cases member with
    | inl long =>
        subst long
        exact absurd isSuffix (by decide)
    | inr short =>
        subst short
        exact absurd text (by decide)

end LiteRTLM.Core.Tasks
