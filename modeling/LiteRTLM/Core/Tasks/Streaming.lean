import LiteRTLM.Core.Tasks.CandidateTexts

/-!
Contract: `Tasks::Decode` with and without a callback.

Owns: that a decode that succeeds without a callback succeeds with one, in the same task state,
that the texts it streams for a candidate are, one after the other, that candidate's text, and
that the scores it streams add up to the candidate's accumulated score.

Does not own: what a caller makes of the streamed responses.
-/

namespace LiteRTLM.Core.Tasks

open LiteRTLM.Components
open LiteRTLM.Engine
open LiteRTLM.Executor
open LiteRTLM.Library
open LiteRTLM.Util

variable {Executor Environment Scalar ConstraintState Score : Type}

/-- The texts that the responses carry for a candidate, one after the other. -/
def streamedText (candidate : Nat) (responses : List (Responses Score)) : String :=
  String.join (responses.map fun response => response.texts.getD candidate "")

/-- The sum of the scores that the responses carry for a candidate. -/
def streamedScore (arithmetic : ScoreArithmetic Score) (candidate : Nat)
    (responses : List (Responses Score)) : Score :=
  responses.foldl
    (fun score response =>
      arithmetic.add score (response.scores.getD candidate arithmetic.zero)) arithmetic.zero

/-- A response to the callback between the first step and the last. -/
structure IsUpdate (numOutputCandidates : Nat) (response : Responses Score) : Prop where
  processing : response.taskState = .processing
  texts : response.texts.length = numOutputCandidates
  scores : response.scores.length = numOutputCandidates
  nonempty : response.texts ≠ []

/-- What a decode without a callback and the same decode with one have in common. -/
structure StreamsAlike (arithmetic : ScoreArithmetic Score) (numOutputCandidates : Nat)
    (plain streaming : DecodeState Executor Scalar ConstraintState Score) : Prop where
  executor : streaming.executor = plain.executor
  runOneStep : streaming.runOneStep = plain.runOneStep
  decodedIds : streaming.decodedIds = plain.decodedIds
  numDecodeSteps : streaming.numDecodeSteps = plain.numDecodeSteps
  updates : ∀ response ∈ streaming.callbackResponses, IsUpdate numOutputCandidates response
  candidates : plain.runOneStep.candidates.length = numOutputCandidates
  totals : plain.totals.length = numOutputCandidates
  texts : ∀ (candidate : Nat) total, plain.totals[candidate]? = some total →
    streamedText candidate streaming.callbackResponses = String.ofList total.finalText
  scores : (∀ score, arithmetic.add score arithmetic.zero = score) →
    ∀ (candidate : Nat) total, plain.totals[candidate]? = some total →
      streamedScore arithmetic candidate streaming.callbackResponses = total.accumulatedScore

/-! ## Texts and scores -/

theorem streamedText_append (candidate : Nat) (responses : List (Responses Score))
    (response : Responses Score) :
    streamedText candidate (responses ++ [response]) =
      streamedText candidate responses ++ response.texts.getD candidate "" := by
  simp [streamedText]

theorem streamedScore_append (arithmetic : ScoreArithmetic Score) (candidate : Nat)
    (responses : List (Responses Score)) (response : Responses Score) :
    streamedScore arithmetic candidate (responses ++ [response]) =
      arithmetic.add (streamedScore arithmetic candidate responses)
        (response.scores.getD candidate arithmetic.zero) := by
  simp [streamedScore]

theorem replaceSpaces_nil : replaceSpaces [] = [] := rfl

/-- A step without text adds nothing. -/
theorem CandidateTotal.add_nil (arithmetic : ScoreArithmetic Score) (isCustomSampling : Bool)
    (total : CandidateTotal Score) (score : Score) :
    total.add arithmetic isCustomSampling [] score = total :=
  rfl

/-- What a step adds to the text of a candidate. -/
theorem CandidateTotal.add_finalText (arithmetic : ScoreArithmetic Score)
    (isCustomSampling : Bool) (total : CandidateTotal Score) (outputText : Text) (score : Score) :
    (total.add arithmetic isCustomSampling outputText score).finalText =
      total.finalText ++ replaceSpaces outputText := by
  unfold CandidateTotal.add
  cases outputText with
  | nil => simp [replaceSpaces_nil]
  | cons symbol rest => rfl

/-- What a step adds to the score of a candidate, when zero can be added without effect. -/
theorem CandidateTotal.add_accumulatedScore {arithmetic : ScoreArithmetic Score}
    (addZero : ∀ score, arithmetic.add score arithmetic.zero = score) (isCustomSampling : Bool)
    (total : CandidateTotal Score) (outputText : Text) (score : Score) :
    (total.add arithmetic isCustomSampling outputText score).accumulatedScore =
      arithmetic.add total.accumulatedScore
        (if isCustomSampling ∧ ¬outputText.isEmpty then score else arithmetic.zero) := by
  unfold CandidateTotal.add
  cases outputText with
  | nil => simp [addZero]
  | cons symbol rest => cases isCustomSampling <;> simp [addZero]

section StepResponses

variable (arithmetic : ScoreArithmetic Score) (isCustomSampling : Bool)
  (runOneStep : DecodeOneStep Scalar ConstraintState Score) {candidate : Nat} {text : Text}

theorem stepScores_length :
    (stepScores arithmetic runOneStep).length = runOneStep.candidates.length := by
  simp [stepScores, DecodeOneStep.numOutputCandidates]

/-- The text of a candidate in the response of a step. -/
theorem stepResponses_text (isText : runOneStep.getResultText[candidate]? = some text) :
    (stepResponses arithmetic isCustomSampling runOneStep).texts.getD candidate "" =
      String.ofList (replaceSpaces text) := by
  simp [stepResponses, List.getD, isText]

/-- The score of a candidate in the response of a step. -/
theorem stepResponses_score {score : Score}
    (isText : runOneStep.getResultText[candidate]? = some text)
    (isScore : (stepScores arithmetic runOneStep)[candidate]? = some score) :
    (stepResponses arithmetic isCustomSampling runOneStep).scores.getD candidate arithmetic.zero =
      if isCustomSampling ∧ ¬text.isEmpty then score else arithmetic.zero := by
  have entry : (stepResponses arithmetic isCustomSampling runOneStep).scores[candidate]? =
      some (if isCustomSampling ∧ ¬text.isEmpty then score else arithmetic.zero) :=
    List.getElem?_zipWith_eq_some.mpr ⟨text, score, isText, isScore, rfl⟩
  rw [List.getD_eq_getElem?_getD, entry, Option.getD_some]

/-- The response of a step in which a candidate has text. -/
theorem stepResponses_isUpdate (hasText : ∃ text ∈ runOneStep.getResultText, text ≠ []) :
    IsUpdate runOneStep.candidates.length
      (stepResponses arithmetic isCustomSampling runOneStep) := by
  constructor
  · rfl
  · simp [stepResponses, DecodeOneStep.getResultText]
  · simp [stepResponses, DecodeOneStep.getResultText, stepScores_length]
  · obtain ⟨text, member, -⟩ := hasText
    exact List.ne_nil_of_mem (List.mem_map_of_mem member)

end StepResponses

/-! ## One step -/

section Step

variable {parameters : DecodeParameters Executor Environment Scalar ConstraintState Score}
  {environment : StepEnvironment Environment Score}
  {numOutputCandidates : Nat}
  {before after plain streaming : DecodeState Executor Scalar ConstraintState Score}

def DecodeParameters.withCallback
    (parameters : DecodeParameters Executor Environment Scalar ConstraintState Score)
    (isStreaming : Bool) :
    DecodeParameters Executor Environment Scalar ConstraintState Score :=
  { parameters with isStreaming }

/-- Without a callback each candidate's total grows by the step. -/
theorem report_total (allDone : Bool)
    (state : DecodeState Executor Scalar ConstraintState Score) {candidate : Nat}
    {total : CandidateTotal Score}
    (isTotal : (report (parameters.withCallback false) allDone state).totals[candidate]? =
      some total) :
    ∃ earlier text score, state.totals[candidate]? = some earlier ∧
      state.runOneStep.getResultText[candidate]? = some text ∧
      (stepScores parameters.arithmetic state.runOneStep)[candidate]? = some score ∧
      total = earlier.add parameters.arithmetic parameters.isCustomSampling text score := by
  simp only [report, DecodeParameters.withCallback, Bool.false_eq_true, if_false,
    List.getElem?_zipWith_eq_some, List.getElem?_zip_eq_some] at isTotal
  obtain ⟨earlier, step, isEarlier, ⟨isText, isScore⟩, rfl⟩ := isTotal
  exact ⟨earlier, step.1, step.2, isEarlier, isText, isScore, rfl⟩

variable (parameters) in
/-- With a callback a step is streamed unless it has no text, provided that a step after which all
are done has none. -/
theorem report_streams (state : DecodeState Executor Scalar ConstraintState Score)
    {allDone : Bool}
    (doneTexts : allDone = true → ∀ text ∈ state.runOneStep.getResultText, text = []) :
    (report (parameters.withCallback true) allDone state).callbackResponses =
        state.callbackResponses ++
          [stepResponses parameters.arithmetic parameters.isCustomSampling state.runOneStep] ∧
      (∃ text ∈ state.runOneStep.getResultText, text ≠ []) ∨
    (report (parameters.withCallback true) allDone state).callbackResponses =
        state.callbackResponses ∧
      ∀ text ∈ state.runOneStep.getResultText, text = [] := by
  by_cases hasText : ∃ text ∈ state.runOneStep.getResultText, text ≠ []
  · left
    refine ⟨?_, hasText⟩
    have notDone : allDone = false := by
      obtain ⟨text, member, nonempty⟩ := hasText
      cases allDone with
      | true => exact absurd (doneTexts rfl text member) nonempty
      | false => rfl
    have anyText : (state.runOneStep.getResultText.any fun text => !text.isEmpty) = true := by
      simpa [List.any_eq_true] using hasText
    simp [report, DecodeParameters.withCallback, anyText, notDone]
  · right
    have noText : ∀ text ∈ state.runOneStep.getResultText, text = [] := by
      intro text member
      by_contra nonempty
      exact hasText ⟨text, member, nonempty⟩
    have noneHasText :
        (state.runOneStep.getResultText.any fun text => !text.isEmpty) = false := by
      simpa [List.any_eq_false] using noText
    refine ⟨?_, noText⟩
    simp [report, DecodeParameters.withCallback, noneHasText]

/-- The step does not touch what the loop accumulates or streams. -/
theorem succeeds_run_frame [Bot Scalar] {allDone : Bool}
    (totals : List (CandidateTotal Score)) (callbackResponses : List (Responses Score))
    (runs : Succeeds (run parameters environment) before allDone after) :
    Succeeds (run parameters environment) { before with totals, callbackResponses } allDone
      { after with totals, callbackResponses } := by
  obtain ⟨nextTokens, between, sampled, runOneStep, processed, rfl⟩ := succeeds_run.mp runs
  refine succeeds_run.mpr ⟨nextTokens, { between with totals, callbackResponses }, ?_,
    runOneStep, processed, rfl⟩
  cases sampled with
  | inl external =>
      obtain ⟨decodedIds, updated, executor, outputLogits, sampledLogits, scores, given, updates,
        decodes, masks, samples, rfl⟩ := external.step
      exact .inl ⟨external.external, decodedIds, updated, executor, outputLogits, sampledLogits,
        scores, given, updates, decodes, masks, samples, rfl⟩
  | inr internal =>
      obtain ⟨outcome, executor, decodes, tokens, rfl⟩ := internal.step
      exact .inr ⟨internal.internal, outcome, executor, decodes, tokens, rfl⟩

theorem run_totals [Bot Scalar] {allDone : Bool}
    (runs : Succeeds (run parameters environment) before allDone after) :
    after.totals = before.totals := by
  obtain ⟨nextTokens, between, sampled, runOneStep, processed, rfl⟩ := succeeds_run.mp runs
  cases sampled with
  | inl external =>
      obtain ⟨_, _, _, _, _, _, _, _, _, _, _, rfl⟩ := external.step
      rfl
  | inr internal =>
      obtain ⟨_, _, _, _, rfl⟩ := internal.step
      rfl

/-- A state that streams alike differs in what is accumulated and streamed only. -/
theorem StreamsAlike.eq_with {arithmetic : ScoreArithmetic Score}
    (alike : StreamsAlike arithmetic numOutputCandidates plain streaming) :
    streaming = { plain with
      totals := streaming.totals
      callbackResponses := streaming.callbackResponses } := by
  obtain ⟨executor, runOneStep, decodedIds, numDecodeSteps, -, -, -, -, -⟩ := alike
  cases plain
  cases streaming
  cases executor
  cases runOneStep
  cases decodedIds
  cases numDecodeSteps
  rfl

/-- Reporting a step keeps the decodes alike. -/
theorem StreamsAlike.report
    (alike : StreamsAlike parameters.arithmetic numOutputCandidates plain streaming)
    {allDone : Bool}
    (doneTexts : allDone = true → ∀ text ∈ plain.runOneStep.getResultText, text = []) :
    StreamsAlike parameters.arithmetic numOutputCandidates
      (report (parameters.withCallback false) allDone plain)
      (report (parameters.withCallback true) allDone streaming) := by
  have sameStep := alike.runOneStep
  have streams := report_streams parameters streaming (by
    rw [sameStep]
    exact doneTexts)
  rw [sameStep] at streams
  constructor
  · exact alike.executor
  · exact alike.runOneStep
  · exact alike.decodedIds
  · exact alike.numDecodeSteps
  · intro response member
    cases streams with
    | inl streamed =>
        rw [streamed.1] at member
        cases List.mem_append.mp member with
        | inl earlier => exact alike.updates response earlier
        | inr new =>
            rw [List.mem_singleton.mp new, ← alike.candidates]
            exact stepResponses_isUpdate _ _ _ streamed.2
    | inr silent =>
        rw [silent.1] at member
        exact alike.updates response member
  · exact alike.candidates
  · simp [Tasks.report, DecodeParameters.withCallback, DecodeOneStep.getResultText,
      stepScores_length, alike.candidates, alike.totals]
  · intro candidate total isTotal
    obtain ⟨earlier, text, score, isEarlier, isText, isScore, rfl⟩ :=
      report_total allDone plain isTotal
    rw [CandidateTotal.add_finalText]
    cases streams with
    | inl streamed =>
        rw [streamed.1, streamedText_append, stepResponses_text _ _ _ isText,
          alike.texts candidate earlier isEarlier, String.ofList_append]
    | inr silent =>
        rw [silent.1, alike.texts candidate earlier isEarlier,
          silent.2 text (List.mem_of_getElem? isText), replaceSpaces_nil, List.append_nil]
  · intro addZero candidate total isTotal
    obtain ⟨earlier, text, score, isEarlier, isText, isScore, rfl⟩ :=
      report_total allDone plain isTotal
    cases streams with
    | inl streamed =>
        rw [streamed.1, streamedScore_append, stepResponses_score _ _ _ isText isScore,
          alike.scores addZero candidate earlier isEarlier,
          CandidateTotal.add_accumulatedScore addZero]
    | inr silent =>
        rw [silent.1, alike.scores addZero candidate earlier isEarlier,
          silent.2 text (List.mem_of_getElem? isText), CandidateTotal.add_nil]

/-- A step that succeeds without a callback succeeds alike with one. -/
theorem StreamsAlike.step [Bot Scalar]
    (alike : StreamsAlike parameters.arithmetic numOutputCandidates plain streaming)
    {maxNumTokens : Nat} {stops : Bool}
    {plainAfter : DecodeState Executor Scalar ConstraintState Score}
    (succeeds : Succeeds (decodeStep (parameters.withCallback false) maxNumTokens environment)
      plain stops plainAfter) :
    ∃ streamingAfter,
      Succeeds (decodeStep (parameters.withCallback true) maxNumTokens environment)
        streaming stops streamingAfter ∧
      StreamsAlike parameters.arithmetic numOutputCandidates plainAfter streamingAfter := by
  obtain ⟨notCancelled, allDone, between, runs, rfl, stopsEq⟩ := succeeds_decodeStep.mp succeeds
  obtain ⟨sameLength, doneTexts⟩ := run_candidates runs
  have streamingRuns := succeeds_run_frame streaming.totals streaming.callbackResponses runs
  rw [← alike.eq_with] at streamingRuns
  have sameTotals := run_totals runs
  have counted : StreamsAlike parameters.arithmetic numOutputCandidates
      { between with numDecodeSteps := between.numDecodeSteps + 1 }
      { between with
        numDecodeSteps := between.numDecodeSteps + 1
        totals := streaming.totals
        callbackResponses := streaming.callbackResponses } := by
    constructor
    · rfl
    · rfl
    · rfl
    · rfl
    · exact alike.updates
    · show between.runOneStep.candidates.length = numOutputCandidates
      rw [sameLength, alike.candidates]
    · show between.totals.length = numOutputCandidates
      rw [sameTotals, alike.totals]
    · intro candidate total isTotal
      have isTotal : between.totals[candidate]? = some total := isTotal
      rw [sameTotals] at isTotal
      exact alike.texts candidate total isTotal
    · intro addZero candidate total isTotal
      have isTotal : between.totals[candidate]? = some total := isTotal
      rw [sameTotals] at isTotal
      exact alike.scores addZero candidate total isTotal
  refine ⟨_, succeeds_decodeStep.mpr ⟨notCancelled, allDone, _, streamingRuns, rfl, ?_⟩,
    counted.report doneTexts⟩
  exact stopsEq

end Step

/-! ## Decodes -/

section Decode

variable [Bot Scalar]
  {parameters : DecodeParameters Executor Environment Scalar ConstraintState Score}
  {numOutputCandidates : Nat}
  {plain streaming plainAfter : DecodeState Executor Scalar ConstraintState Score}

/-- A loop that succeeds without a callback succeeds alike with one. -/
theorem StreamsAlike.loop {maxNumTokens : Nat} {ended : Bool}
    {environments : List (StepEnvironment Environment Score)}
    (alike : StreamsAlike parameters.arithmetic numOutputCandidates plain streaming)
    (succeeds : Succeeds (decodeLoop (parameters.withCallback false) maxNumTokens environments)
      plain ended plainAfter) :
    ∃ streamingAfter,
      Succeeds (decodeLoop (parameters.withCallback true) maxNumTokens environments)
        streaming ended streamingAfter ∧
      StreamsAlike parameters.arithmetic numOutputCandidates plainAfter streamingAfter := by
  induction environments generalizing plain streaming with
  | nil =>
      obtain ⟨rfl, rfl⟩ := succeeds_decodeLoop_nil.mp succeeds
      exact ⟨streaming, succeeds_decodeLoop_nil.mpr ⟨rfl, rfl⟩, alike⟩
  | cons environment environments inductionHypothesis =>
      obtain ⟨stops, plainBetween, steps, rest⟩ := succeeds_decodeLoop_cons.mp succeeds
      obtain ⟨streamingBetween, streamingSteps, between⟩ := alike.step steps
      cases rest with
      | inl stopped =>
          obtain ⟨isStop, isEnd, rfl⟩ := stopped
          exact ⟨streamingBetween, succeeds_decodeLoop_cons.mpr ⟨stops, streamingBetween,
            streamingSteps, .inl ⟨isStop, isEnd, rfl⟩⟩, between⟩
      | inr goesOn =>
          obtain ⟨notStop, loops⟩ := goesOn
          obtain ⟨streamingAfter, streamingLoops, after⟩ := inductionHypothesis between loops
          exact ⟨streamingAfter, succeeds_decodeLoop_cons.mpr ⟨stops, streamingBetween,
            streamingSteps, .inr ⟨notStop, streamingLoops⟩⟩, after⟩

omit [Bot Scalar] in
/-- The last response is an end state. -/
theorem finalResponses_isTaskEndState
    (parameters : DecodeParameters Executor Environment Scalar ConstraintState Score)
    (maxNumTokens : Nat) (state : DecodeState Executor Scalar ConstraintState Score) :
    isTaskEndState (finalResponses parameters maxNumTokens state).taskState = true := by
  unfold finalResponses
  by_cases reached : parameters.taskExecutor.getCurrentStep state.executor ≥ maxNumTokens
  · cases parameters.isStreaming <;> simp [reached, isTaskEndState, Responses.ofState]
  · cases parameters.isStreaming <;> simp [reached, isTaskEndState, Responses.ofState]

omit [Bot Scalar] in
/-- The final prefill does not see the callback either. -/
theorem StreamsAlike.finalPrefill {finalEnvironment : Environment}
    (alike : StreamsAlike parameters.arithmetic numOutputCandidates plain streaming)
    (succeeds : Succeeds (finalPrefill (parameters.withCallback false) finalEnvironment)
      plain () plainAfter) :
    ∃ streamingAfter,
      Succeeds (Tasks.finalPrefill (parameters.withCallback true) finalEnvironment)
        streaming () streamingAfter ∧
      StreamsAlike parameters.arithmetic numOutputCandidates plainAfter streamingAfter := by
  rw [succeeds_finalPrefill] at succeeds
  simp only [succeeds_finalPrefill]
  cases sampling : parameters.isCustomSampling with
  | false =>
      rw [DecodeParameters.withCallback, sampling, if_neg Bool.false_ne_true] at succeeds
      refine ⟨streaming, ?_, succeeds ▸ alike⟩
      rw [DecodeParameters.withCallback, sampling, if_neg Bool.false_ne_true]
  | true =>
      rw [DecodeParameters.withCallback, sampling, if_pos rfl] at succeeds
      obtain ⟨ids, given, short, nonempty, executor, prefills, rfl⟩ := succeeds
      refine ⟨{ streaming with executor }, ?_, ?_⟩
      · rw [DecodeParameters.withCallback, sampling, if_pos rfl, alike.executor,
          alike.decodedIds]
        exact ⟨ids, given, short, nonempty, executor, prefills, rfl⟩
      · exact ⟨rfl, alike.runOneStep, alike.decodedIds, alike.numDecodeSteps, alike.updates,
          alike.candidates, alike.totals, alike.texts, alike.scores⟩

omit [Bot Scalar] in
/-- The variables before the loop. -/
theorem streamsAlike_initial (arithmetic : ScoreArithmetic Score) (executor : Executor)
    (stopTokenDetector : StopTokenDetector) (numOutputCandidates : Nat)
    (constraint : Option (Constraint ConstraintState)) (decodedIds : Option (List Int)) :
    StreamsAlike arithmetic numOutputCandidates
      (.initial arithmetic executor stopTokenDetector numOutputCandidates constraint decodedIds :
        DecodeState Executor Scalar ConstraintState Score)
      (.initial arithmetic executor stopTokenDetector numOutputCandidates constraint
        decodedIds) := by
  constructor
  · rfl
  · rfl
  · rfl
  · rfl
  · intro response member
    cases member
  · exact List.length_replicate
  · exact List.length_replicate
  · intro candidate total isTotal
    have isInitial := List.eq_of_mem_replicate (List.mem_of_getElem? isTotal)
    rw [isInitial]
    rfl
  · intro addZero candidate total isTotal
    have isInitial := List.eq_of_mem_replicate (List.mem_of_getElem? isTotal)
    rw [isInitial]
    rfl

section Calls

variable {stopTokenDetector : StopTokenDetector} {constraint : Option (Constraint ConstraintState)}
  {decodedIds : Option (List Int)} {environments : List (StepEnvironment Environment Score)}
  {finalEnvironment : Environment} {executor : Executor} {responses : Responses Score}

/-- A decode that succeeds without a callback succeeds alike with one, which is given the task
state only. -/
theorem decode_alike
    (plainDecodes : decode (parameters.withCallback false) stopTokenDetector numOutputCandidates
      constraint decodedIds environments finalEnvironment executor =
        .ok (some responses) plainAfter) :
    responses = {
        taskState := responses.taskState
        texts := plainAfter.totals.map fun total => String.ofList total.finalText
        scores := plainAfter.totals.map
          (CandidateTotal.finalScore parameters.arithmetic parameters.isCustomSampling) } ∧
      isTaskEndState responses.taskState = true ∧
      ∃ streamingAfter,
        decode (parameters.withCallback true) stopTokenDetector numOutputCandidates
          constraint decodedIds environments finalEnvironment executor =
          .ok (some (.ofState responses.taskState)) streamingAfter ∧
        StreamsAlike parameters.arithmetic numOutputCandidates plainAfter streamingAfter := by
  obtain ⟨ended, plainBetween, loops, ends⟩ := succeeds_decodeFrom.mp plainDecodes
  obtain ⟨streamingBetween, streamingLoops, between⟩ :=
    (streamsAlike_initial parameters.arithmetic executor stopTokenDetector numOutputCandidates
      constraint decodedIds).loop loops
  cases ends with
  | inr running =>
      cases running.2.1
  | inl finished =>
      obtain ⟨isEnd, prefills, isResponses⟩ := finished
      cases isResponses
      obtain ⟨streamingAfter, streamingPrefills, after⟩ := between.finalPrefill prefills
      refine ⟨rfl, ?_, streamingAfter, succeeds_decodeFrom.mpr ⟨ended, streamingBetween,
        streamingLoops, .inl ⟨isEnd, streamingPrefills, ?_⟩⟩, after⟩
      · exact finalResponses_isTaskEndState _ _ _
      · simp only [finalResponses, DecodeParameters.withCallback, after.executor]
        rfl

/-- **Streaming.** A decode that succeeds without a callback succeeds with one, in the same task
state. It streams processing updates only, and what it streams for a candidate is, one text after
the other, the text that the candidate has without a callback. -/
theorem decode_streams
    (plainDecodes : decode (parameters.withCallback false) stopTokenDetector numOutputCandidates
      constraint decodedIds environments finalEnvironment executor =
        .ok (some responses) plainAfter) :
    ∃ streamed streamingAfter,
      decode (parameters.withCallback true) stopTokenDetector numOutputCandidates
        constraint decodedIds environments finalEnvironment executor =
        .ok (some streamed) streamingAfter ∧
      streamed.taskState = responses.taskState ∧
      (∀ response ∈ streamingAfter.callbackResponses, response.taskState = .processing) ∧
      responses.texts = (List.range numOutputCandidates).map fun candidate =>
        streamedText candidate streamingAfter.callbackResponses := by
  obtain ⟨isResponses, -, streamingAfter, streams, alike⟩ := decode_alike plainDecodes
  refine ⟨_, streamingAfter, streams, rfl,
    fun response member => (alike.updates response member).processing, ?_⟩
  rw [isResponses]
  apply List.ext_getElem
  · rw [List.length_map, List.length_map, List.length_range, alike.totals]
  · intro candidate inTotals _
    rw [List.length_map] at inTotals
    rw [List.getElem_map, List.getElem_map, List.getElem_range]
    exact (alike.texts candidate _ (List.getElem?_eq_getElem inTotals)).symm

end Calls

end Decode

/-- Two candidates, of which one stops a step before the other. -/
theorem decode_streams_twoCandidates :
    ∃ streamed streamingAfter,
      decode ((echoParameters 16).withCallback true)
        (StopTokenDetector.resetBatch ⟨[[9]], [], by simp, nofun⟩ 2) 2 none none
        (echoSteps [[1, 2], [9, 3], [4, 9]]) [] 0 = .ok (some streamed) streamingAfter ∧
      streamed.taskState = .done ∧
      (∀ response ∈ streamingAfter.callbackResponses, response.taskState = .processing) ∧
      ["a", "bc"] = (List.range 2).map fun candidate =>
        streamedText candidate streamingAfter.callbackResponses := by
  have plain : ∃ responses after,
      decode ((echoParameters 16).withCallback false)
        (StopTokenDetector.resetBatch ⟨[[9]], [], by simp, nofun⟩ 2) 2 none none
        (echoSteps [[1, 2], [9, 3], [4, 9]]) [] 0 = .ok (some responses) after ∧
      responses.taskState = .done ∧ responses.texts = ["a", "bc"] :=
    ⟨_, _, rfl, rfl, rfl⟩
  obtain ⟨responses, after, decodes, isDone, texts⟩ := plain
  rw [← isDone, ← texts]
  exact decode_streams decodes

end LiteRTLM.Core.Tasks
