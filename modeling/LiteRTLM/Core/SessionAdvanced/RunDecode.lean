import Mathlib
import LiteRTLM.Core.Tasks.Streaming

/-!
Contract: `SessionAdvanced::RunDecode`, which assembles responses from those streamed to its
callback.

Owns: the callback, what it makes of the responses of one decode, the texts and scores of the
steps of a decode, and when the assembled responses are those of the decode without a callback.

Does not own: when the execution manager invokes the callback. Before the decode runs, it is given
task states only.
-/

namespace LiteRTLM.Core.SessionAdvanced

open LiteRTLM.Components
open LiteRTLM.Core.Tasks
open LiteRTLM.Engine
open LiteRTLM.Executor
open LiteRTLM.Library
open LiteRTLM.Util

/-! ## The callback -/

/-- The local variables of `RunDecode` that its callback captures. -/
structure DecodeSync (Score : Type) where
  collectedResponses : StatusOr (Responses Score)
  numDecodeTokens : Nat

section Callback

variable {Score : Type} (arithmetic : ScoreArithmetic Score)

/-- The variables before the decode. -/
def DecodeSync.initial (numOutputCandidates : Nat) : DecodeSync Score where
  collectedResponses := .ok {
    taskState := .created
    texts := List.replicate numOutputCandidates ""
    scores := List.replicate numOutputCandidates arithmetic.zero }
  numDecodeTokens := 0

/-- The callback on a response. -/
def collectResponses (responses collected : Responses Score) (numDecodeTokens : Nat) :
    DecodeSync Score :=
  let collected := { collected with taskState := responses.taskState }
  if ¬isTaskEndState responses.taskState ∧ responses.texts.isEmpty ∧ responses.scores.isEmpty then
    ⟨.ok collected, numDecodeTokens⟩
  else if responses.texts.isEmpty then
    if isTaskEndState responses.taskState then
      -- Only as many scores are normalized as the last response has.
      let scores := collected.scores.mapIdx fun i score =>
        if i < responses.scores.length then
          arithmetic.divideBy score (max 1 numDecodeTokens)
        else
          score
      ⟨.ok { collected with scores }, numDecodeTokens⟩
    else
      ⟨.ok collected, numDecodeTokens⟩
  else
    let scores :=
      if collected.scores.length = responses.scores.length then
        List.zipWith arithmetic.add collected.scores responses.scores
      else
        collected.scores
    if collected.texts.length = responses.texts.length then
      ⟨.ok { collected with scores, texts := List.zipWith (· ++ ·) collected.texts responses.texts },
        numDecodeTokens + 1⟩
    else
      ⟨.error (.internalError
        s!"Decode responses size mismatch: {collected.texts.length} vs {responses.texts.length}"),
        numDecodeTokens⟩

/-- `decode_sync_callback`. A response after an error would end the process. -/
def decodeSyncCallback (sync : DecodeSync Score) (responses : StatusOr (Responses Score)) :
    DecodeSync Score :=
  match responses, sync.collectedResponses with
  | .error status, _ => { sync with collectedResponses := .error status }
  | .ok _, .error _ => sync
  | .ok responses, .ok collected =>
      collectResponses arithmetic responses collected sync.numDecodeTokens

/-- What a decode with a callback passes to it: the streamed responses, and the last one. -/
def callbackResponses {Executor Scalar ConstraintState : Type} :
    EStateM.Result Status (DecodeState Executor Scalar ConstraintState Score)
      (Option (Responses Score)) → List (StatusOr (Responses Score))
  | .ok (some last) state => state.callbackResponses.map .ok ++ [.ok last]
  | .ok none state => state.callbackResponses.map .ok
  | .error status state => state.callbackResponses.map .ok ++ [.error status]

/-- `RunDecode`, given the states of its task before it runs and the decode with a callback. -/
def runDecode {Executor Scalar ConstraintState : Type} (numOutputCandidates : Nat)
    (taskStates : List TaskState)
    (decoded : EStateM.Result Status (DecodeState Executor Scalar ConstraintState Score)
      (Option (Responses Score))) : StatusOr (Responses Score) :=
  let stateUpdates := taskStates.map fun taskState => .ok (.ofState taskState)
  ((stateUpdates ++ callbackResponses decoded).foldl (decodeSyncCallback arithmetic)
    (.initial arithmetic numOutputCandidates)).collectedResponses

/-! ## What the callback assembles -/

/-- The responses with a text and a score for each candidate. -/
def assembled (taskState : TaskState) (numOutputCandidates : Nat) (text : Nat → String)
    (score : Nat → Score) : Responses Score where
  taskState := taskState
  texts := (List.range numOutputCandidates).map text
  scores := (List.range numOutputCandidates).map score

theorem zipWith_range_map {α β γ : Type} (combine : α → β → γ) (item : Nat → α) (others : List β)
    (missing : β) :
    List.zipWith combine ((List.range others.length).map item) others =
      (List.range others.length).map fun index =>
        combine (item index) (others.getD index missing) := by
  apply List.ext_getElem
  · simp
  · intro index inZip inMap
    rw [List.length_map, List.length_range] at inMap
    simp [List.getD, inMap]

variable {numOutputCandidates : Nat}

/-- A task state is taken over. -/
theorem decodeSyncCallback_ofState {taskState : TaskState}
    (notEnd : isTaskEndState taskState = false) (collected : Responses Score)
    (numDecodeTokens : Nat) :
    decodeSyncCallback arithmetic ⟨.ok collected, numDecodeTokens⟩ (.ok (.ofState taskState)) =
      ⟨.ok { collected with taskState }, numDecodeTokens⟩ := by
  simp [decodeSyncCallback, collectResponses, Responses.ofState, notEnd]

/-- An update adds its texts and its scores. -/
theorem decodeSyncCallback_update {update : Responses Score}
    (isUpdate : IsUpdate numOutputCandidates update) (taskState : TaskState)
    (text : Nat → String) (score : Nat → Score) (numDecodeTokens : Nat) :
    decodeSyncCallback arithmetic
        ⟨.ok (assembled taskState numOutputCandidates text score), numDecodeTokens⟩ (.ok update) =
      ⟨.ok (assembled .processing numOutputCandidates
          (fun candidate => text candidate ++ update.texts.getD candidate "")
          (fun candidate => arithmetic.add (score candidate)
            (update.scores.getD candidate arithmetic.zero))), numDecodeTokens + 1⟩ := by
  have textsNonempty : update.texts.isEmpty = false :=
    List.isEmpty_eq_false_iff.mpr isUpdate.nonempty
  have texts := zipWith_range_map (· ++ ·) text update.texts ""
  have scores := zipWith_range_map arithmetic.add score update.scores arithmetic.zero
  rw [isUpdate.texts] at texts
  rw [isUpdate.scores] at scores
  simp [decodeSyncCallback, collectResponses, assembled, textsNonempty, isUpdate.processing,
    isUpdate.texts, isUpdate.scores, texts, scores]

/-- The last response of a decode with a callback has no scores, so none is normalized. -/
theorem decodeSyncCallback_last {taskState : TaskState} (isEnd : isTaskEndState taskState = true)
    (collected : Responses Score) (numDecodeTokens : Nat) :
    decodeSyncCallback arithmetic ⟨.ok collected, numDecodeTokens⟩ (.ok (.ofState taskState)) =
      ⟨.ok { collected with taskState }, numDecodeTokens⟩ := by
  have unchanged : collected.scores.mapIdx (fun _ score => score) = collected.scores := by
    rw [List.mapIdx_eq_zipIdx_map]
    simp
  simp [decodeSyncCallback, collectResponses, Responses.ofState, isEnd, unchanged]

/-- The task states before the decode. -/
theorem foldl_taskStates (numOutputCandidates : Nat) {taskStates : List TaskState}
    (notEnd : ∀ taskState ∈ taskStates, isTaskEndState taskState = false)
    (first : TaskState) (text : Nat → String) (score : Nat → Score) (numDecodeTokens : Nat) :
    ∃ last, (taskStates.map fun taskState => .ok (.ofState taskState)).foldl
        (decodeSyncCallback arithmetic)
        ⟨.ok (assembled first numOutputCandidates text score), numDecodeTokens⟩ =
      ⟨.ok (assembled last numOutputCandidates text score), numDecodeTokens⟩ := by
  induction taskStates generalizing first with
  | nil => exact ⟨first, rfl⟩
  | cons taskState taskStates inductionHypothesis =>
      obtain ⟨last, rest⟩ := inductionHypothesis
        (fun later member => notEnd later (List.mem_cons_of_mem _ member)) taskState
      refine ⟨last, ?_⟩
      rw [List.map_cons, List.foldl_cons,
        decodeSyncCallback_ofState arithmetic (notEnd taskState List.mem_cons_self)]
      exact rest

/-- The updates of the decode. -/
theorem foldl_updates {updates : List (Responses Score)}
    (areUpdates : ∀ update ∈ updates, IsUpdate numOutputCandidates update) (first : TaskState) :
    ∃ last, (updates.map .ok).foldl (decodeSyncCallback arithmetic)
        ⟨.ok (assembled first numOutputCandidates (fun _ => "") fun _ => arithmetic.zero), 0⟩ =
      ⟨.ok (assembled last numOutputCandidates (streamedText · updates)
        (streamedScore arithmetic · updates)), updates.length⟩ := by
  induction updates using List.reverseRecOn with
  | nil => exact ⟨first, rfl⟩
  | append_singleton updates update inductionHypothesis =>
      obtain ⟨last, earlier⟩ := inductionHypothesis fun earlier member =>
        areUpdates earlier (List.mem_append_left _ member)
      refine ⟨.processing, ?_⟩
      rw [List.map_append, List.foldl_append, earlier, List.map_cons, List.map_nil,
        List.foldl_cons, List.foldl_nil, decodeSyncCallback_update arithmetic
          (areUpdates update (List.mem_append_right _ List.mem_cons_self))]
      simp only [streamedText_append, streamedScore_append, List.length_append,
        List.length_singleton]

/-- What `RunDecode` returns for a decode that ends: what was streamed, in the last task state. -/
theorem runDecode_ended {Executor Scalar ConstraintState : Type} {taskStates : List TaskState}
    (notEnd : ∀ taskState ∈ taskStates, isTaskEndState taskState = false)
    {taskState : TaskState} (isEnd : isTaskEndState taskState = true)
    {state : DecodeState Executor Scalar ConstraintState Score}
    (areUpdates : ∀ update ∈ state.callbackResponses, IsUpdate numOutputCandidates update) :
    runDecode arithmetic numOutputCandidates taskStates
        (.ok (some (.ofState taskState)) state) =
      .ok (assembled taskState numOutputCandidates (streamedText · state.callbackResponses)
        (streamedScore arithmetic · state.callbackResponses)) := by
  have isInitial : DecodeSync.initial arithmetic numOutputCandidates =
      ⟨.ok (assembled .created numOutputCandidates (fun _ => "") fun _ => arithmetic.zero), 0⟩ := by
    simp [DecodeSync.initial, assembled, List.map_const']
  obtain ⟨before, statesTaken⟩ := foldl_taskStates arithmetic numOutputCandidates notEnd .created
    (fun _ => "") (fun _ => arithmetic.zero) 0
  obtain ⟨last, updatesTaken⟩ := foldl_updates arithmetic areUpdates before
  simp only [runDecode, callbackResponses]
  rw [List.foldl_append, isInitial, statesTaken, List.foldl_append, updatesTaken,
    List.foldl_cons, List.foldl_nil, decodeSyncCallback_last arithmetic isEnd]
  rfl

end Callback

/-! ## The steps of a decode -/

section Steps

variable {Executor Environment Scalar ConstraintState Score : Type} [Bot Scalar]
  (parameters : DecodeParameters Executor Environment Scalar ConstraintState Score)

omit [Bot Scalar] in
/-- The scores of a candidate in the steps in which it has text. -/
def textScores (arithmetic : ScoreArithmetic Score) (candidate : Nat)
    (outputs : List (List Text × List Score)) : List Score :=
  outputs.filterMap fun output =>
    if (output.1.getD candidate []).isEmpty then none
    else some (output.2.getD candidate arithmetic.zero)

variable {parameters} {before after : DecodeState Executor Scalar ConstraintState Score}

omit [Bot Scalar] in
/-- A step with text counts with its score, and one without it does not. -/
theorem textScores_cons {arithmetic : ScoreArithmetic Score} {candidate : Nat}
    {texts : List Text} {scores : List Score} {text : Text} {score : Score}
    (isText : texts[candidate]? = some text) (isScore : scores[candidate]? = some score)
    (outputs : List (List Text × List Score)) :
    textScores arithmetic candidate ((texts, scores) :: outputs) =
      (if text.isEmpty then [] else [score]) ++ textScores arithmetic candidate outputs := by
  unfold textScores
  rw [List.filterMap_cons, List.getD_eq_getElem?_getD, List.getD_eq_getElem?_getD, isText, isScore,
    Option.getD_some, Option.getD_some]
  cases text.isEmpty <;> rfl

omit [Bot Scalar] in
/-- The scores that count: none with internal sampling. -/
def countedScores
    (parameters : DecodeParameters Executor Environment Scalar ConstraintState Score)
    (scores : List Score) : List Score :=
  if parameters.isCustomSampling then scores else []

omit [Bot Scalar] in
theorem countedScores_append (scores rest : List Score) :
    countedScores parameters (scores ++ rest) =
      countedScores parameters scores ++ countedScores parameters rest := by
  unfold countedScores
  cases parameters.isCustomSampling <;> rfl

/-- What a step of a decode without a callback accumulates. -/
theorem decodeStep_totals {maxNumTokens : Nat} {stops : Bool}
    {environment : StepEnvironment Environment Score}
    (steps : Succeeds (decodeStep (parameters.withCallback false) maxNumTokens environment)
      before stops after)
    {candidate : Nat} {total : CandidateTotal Score}
    (isTotal : after.totals[candidate]? = some total) :
    ∃ earlier text score, before.totals[candidate]? = some earlier ∧
      after.runOneStep.getResultText[candidate]? = some text ∧
      (stepScores parameters.arithmetic after.runOneStep)[candidate]? = some score ∧
      total.accumulatedScore =
        (countedScores parameters (if text.isEmpty then [] else [score])).foldl
          parameters.arithmetic.add earlier.accumulatedScore ∧
      total.numDecodedTokens = earlier.numDecodedTokens +
        (countedScores parameters (if text.isEmpty then [] else [score])).length := by
  obtain ⟨-, allDone, between, runs, rfl, -⟩ := succeeds_decodeStep.mp steps
  obtain ⟨earlier, text, score, isEarlier, isText, isScore, rfl⟩ := report_total allDone _ isTotal
  have isEarlier : between.totals[candidate]? = some earlier := isEarlier
  rw [run_totals runs] at isEarlier
  refine ⟨earlier, text, score, isEarlier, isText, isScore, ?_⟩
  unfold countedScores CandidateTotal.add
  cases text with
  | nil => cases parameters.isCustomSampling <;> exact ⟨rfl, rfl⟩
  | cons symbol rest => cases parameters.isCustomSampling <;> exact ⟨rfl, rfl⟩

/-- What the loop of a decode without a callback accumulates. -/
theorem decodeLoop_totals {maxNumTokens : Nat} {ended : Bool}
    {environments : List (StepEnvironment Environment Score)}
    (loops : Succeeds (decodeLoop (parameters.withCallback false) maxNumTokens environments)
      before ended after)
    {candidate : Nat} {total : CandidateTotal Score}
    (isTotal : after.totals[candidate]? = some total) :
    ∃ earlier scores, before.totals[candidate]? = some earlier ∧
      scores = textScores parameters.arithmetic candidate
        (stepOutputs (parameters.withCallback false) maxNumTokens environments before) ∧
      total.accumulatedScore =
        (countedScores parameters scores).foldl parameters.arithmetic.add
          earlier.accumulatedScore ∧
      total.numDecodedTokens =
        earlier.numDecodedTokens + (countedScores parameters scores).length := by
  induction environments generalizing before with
  | nil =>
      obtain ⟨-, rfl⟩ := succeeds_decodeLoop_nil.mp loops
      refine ⟨total, [], isTotal, rfl, ?_⟩
      unfold countedScores
      cases parameters.isCustomSampling <;> exact ⟨rfl, rfl⟩
  | cons environment environments inductionHypothesis =>
      obtain ⟨stops, between, steps, rest⟩ := succeeds_decodeLoop_cons.mp loops
      have outputs : stepOutputs (parameters.withCallback false) maxNumTokens
          (environment :: environments) before =
            (between.runOneStep.getResultText,
              stepScores parameters.arithmetic between.runOneStep) ::
            if stops then []
            else stepOutputs (parameters.withCallback false) maxNumTokens environments between := by
        have stepped : decodeStep (parameters.withCallback false) maxNumTokens environment before =
          .ok stops between := steps
        rw [stepOutputs, stepped]
        rfl
      have restTotals : ∃ middle scores, between.totals[candidate]? = some middle ∧
          scores = textScores parameters.arithmetic candidate (if stops then []
            else stepOutputs (parameters.withCallback false) maxNumTokens environments between) ∧
          total.accumulatedScore =
            (countedScores parameters scores).foldl parameters.arithmetic.add
              middle.accumulatedScore ∧
          total.numDecodedTokens =
            middle.numDecodedTokens + (countedScores parameters scores).length := by
        cases rest with
        | inl stopped =>
            obtain ⟨rfl, -, rfl⟩ := stopped
            refine ⟨total, [], isTotal, rfl, ?_⟩
            unfold countedScores
            cases parameters.isCustomSampling <;> exact ⟨rfl, rfl⟩
        | inr goesOn =>
            obtain ⟨rfl, loopsRest⟩ := goesOn
            exact inductionHypothesis loopsRest
      obtain ⟨middle, scores, isMiddle, isScores, accumulated, counted⟩ := restTotals
      obtain ⟨earlier, text, score, isEarlier, isText, isScore, stepAccumulated, stepCounted⟩ :=
        decodeStep_totals steps isMiddle
      refine ⟨earlier, (if text.isEmpty then [] else [score]) ++ scores, isEarlier, ?_, ?_, ?_⟩
      · rw [outputs, textScores_cons isText isScore, isScores]
      · rw [accumulated, stepAccumulated, countedScores_append, List.foldl_append]
      · rw [counted, stepCounted, countedScores_append, List.length_append, Nat.add_assoc]

omit [Bot Scalar] in
/-- The final prefill does not touch what was accumulated. -/
theorem finalPrefill_totals {finalEnvironment : Environment}
    (prefills : Succeeds (finalPrefill parameters finalEnvironment) before () after) :
    after.totals = before.totals := by
  rw [succeeds_finalPrefill] at prefills
  split at prefills
  · obtain ⟨_, _, _, _, _, _, rfl⟩ := prefills
    rfl
  · rw [prefills]

end Steps

/-! ## Exact arithmetic -/

section Exact

/-- Scores in a field, and minus infinity. -/
def exactArithmetic (Scalar : Type) [DivisionRing Scalar] : ScoreArithmetic (WithBot Scalar) where
  zero := 0
  add := (· + ·)
  divideBy := fun score count => score.map (· / (count : Scalar))
  minusInfinity := ⊥

variable {Exact : Type} [DivisionRing Exact]

/-- The average of the scores is their sum: there is one, or their sum is zero or minus
infinity. -/
def AverageIsSum (scores : List (WithBot Exact)) : Prop :=
  scores.length = 1 ∨ scores ≠ [] ∧ scores.sum = 0 ∨ ⊥ ∈ scores

theorem sum_eq_bot_iff (scores : List (WithBot Exact)) : scores.sum = ⊥ ↔ ⊥ ∈ scores := by
  induction scores with
  | nil => simp
  | cons score scores inductionHypothesis =>
      rw [List.sum_cons, WithBot.add_eq_bot, inductionHypothesis, List.mem_cons, eq_comm]

theorem div_natCast_eq_self_iff [CharZero Exact] (sum : Exact) (count : Nat) :
    sum / (count : Exact) = sum ↔ count = 1 ∨ sum = 0 := by
  by_cases zero : sum = 0
  · simp [zero]
  · rw [div_eq_mul_inv, mul_eq_left₀ zero, inv_eq_one, Nat.cast_eq_one]
    simp [zero]

/-- The final score of a candidate is what was accumulated exactly when the average of its scores
is their sum. -/
theorem finalScore_eq_sum_iff [CharZero Exact] (finalText : Text) (scores : List (WithBot Exact)) :
    CandidateTotal.finalScore (exactArithmetic Exact) true
        ⟨finalText, scores.sum, scores.length⟩ = scores.sum ↔
      AverageIsSum scores := by
  unfold AverageIsSum
  cases scores with
  | nil => simp [CandidateTotal.finalScore, exactArithmetic]
  | cons score rest =>
      have counted : 0 < (score :: rest).length := Nat.succ_pos _
      rw [← sum_eq_bot_iff]
      generalize (score :: rest).length = count at counted
      generalize (score :: rest).sum = sum
      simp only [CandidateTotal.finalScore, exactArithmetic, if_true, if_pos counted]
      cases sum with
      | bot => simp
      | coe sum =>
          have divided : (WithBot.map (· / (count : Exact)) (sum : WithBot Exact) = sum) ↔
              sum / (count : Exact) = sum := by
            rw [WithBot.map_coe, WithBot.coe_inj]
          rw [divided, div_natCast_eq_self_iff]
          simp

variable {Executor Environment Scalar ConstraintState : Type} [Bot Scalar]
  {parameters : DecodeParameters Executor Environment Scalar ConstraintState (WithBot Exact)}
  {plainAfter : DecodeState Executor Scalar ConstraintState (WithBot Exact)}
  {numOutputCandidates : Nat} {stopTokenDetector : StopTokenDetector}
  {constraint : Option (Constraint ConstraintState)} {decodedIds : Option (List Int)}
  {environments : List (StepEnvironment Environment (WithBot Exact))}
  {finalEnvironment : Environment} {executor : Executor}
  {responses : Responses (WithBot Exact)} {taskStates : List TaskState}

/-- The scores of a candidate in the steps in which a decode without a callback has text for
it. -/
def decodedScores
    (parameters : DecodeParameters Executor Environment Scalar ConstraintState (WithBot Exact))
    (stopTokenDetector : StopTokenDetector) (numOutputCandidates : Nat)
    (constraint : Option (Constraint ConstraintState)) (decodedIds : Option (List Int))
    (environments : List (StepEnvironment Environment (WithBot Exact))) (executor : Executor)
    (candidate : Nat) : List (WithBot Exact) :=
  textScores parameters.arithmetic candidate
    (stepOutputs (parameters.withCallback false)
      (tryGetMaxNumTokens parameters.taskExecutor executor) environments
      (.initial parameters.arithmetic executor stopTokenDetector numOutputCandidates constraint
        decodedIds))

/-- What a decode without a callback has accumulated for each candidate in the end. -/
theorem decode_totals (exact : parameters.arithmetic = exactArithmetic Exact)
    (plainDecodes : decode (parameters.withCallback false) stopTokenDetector numOutputCandidates
      constraint decodedIds environments finalEnvironment executor =
        .ok (some responses) plainAfter)
    {candidate : Nat} {total : CandidateTotal (WithBot Exact)}
    (isTotal : plainAfter.totals[candidate]? = some total) :
    ∃ scores, scores = countedScores parameters (decodedScores parameters stopTokenDetector
        numOutputCandidates constraint decodedIds environments executor candidate) ∧
      total.accumulatedScore = scores.sum ∧ total.numDecodedTokens = scores.length := by
  obtain ⟨ended, plainBetween, loops, ends⟩ := succeeds_decodeFrom.mp plainDecodes
  have sameTotals : plainAfter.totals = plainBetween.totals := by
    cases ends with
    | inl finished => exact finalPrefill_totals finished.2.1
    | inr running => rw [running.2.2]
  rw [sameTotals] at isTotal
  obtain ⟨earlier, scores, isEarlier, isScores, accumulated, counted⟩ :=
    decodeLoop_totals loops isTotal
  have isInitial := List.eq_of_mem_replicate (List.mem_of_getElem? isEarlier)
  rw [isInitial] at accumulated
  have accumulated : total.accumulatedScore = (countedScores parameters scores).foldl
      parameters.arithmetic.add parameters.arithmetic.zero := accumulated
  rw [exact] at accumulated
  rw [isInitial, Nat.zero_add] at counted
  refine ⟨countedScores parameters scores, by rw [isScores]; rfl, ?_, counted⟩
  rw [accumulated, List.sum_eq_foldl]
  rfl

/-- What a candidate has accumulated is its final score exactly when sampling is internal, or the
average of its scores is their sum. -/
theorem accumulatedScore_eq_finalScore_iff [CharZero Exact]
    (exact : parameters.arithmetic = exactArithmetic Exact)
    (plainDecodes : decode (parameters.withCallback false) stopTokenDetector numOutputCandidates
      constraint decodedIds environments finalEnvironment executor =
        .ok (some responses) plainAfter)
    {candidate : Nat} {total : CandidateTotal (WithBot Exact)}
    (isTotal : plainAfter.totals[candidate]? = some total) :
    total.accumulatedScore =
        total.finalScore parameters.arithmetic parameters.isCustomSampling ↔
      (parameters.isCustomSampling = true →
        AverageIsSum (decodedScores parameters stopTokenDetector numOutputCandidates constraint
          decodedIds environments executor candidate)) := by
  obtain ⟨scores, isScores, accumulated, counted⟩ := decode_totals exact plainDecodes isTotal
  have isTotal : total = ⟨total.finalText, scores.sum, scores.length⟩ := by
    rw [← accumulated, ← counted]
  unfold countedScores at isScores
  rw [accumulated, exact]
  cases sampling : parameters.isCustomSampling with
  | false =>
      rw [sampling, if_neg Bool.false_ne_true] at isScores
      rw [isScores]
      exact ⟨fun _ external => absurd external Bool.false_ne_true, fun _ => rfl⟩
  | true =>
      rw [sampling, if_pos rfl] at isScores
      rw [isTotal, ← isScores, eq_comm, finalScore_eq_sum_iff]
      exact ⟨fun averages _ => averages, fun averages => averages rfl⟩

/-- **`RunDecode`.** With exact arithmetic it assembles the responses of the decode without a
callback if and only if sampling is internal, or the average of each candidate's scores is their
sum. -/
theorem runDecode_eq_decode_iff [CharZero Exact]
    (exact : parameters.arithmetic = exactArithmetic Exact)
    (notEnd : ∀ taskState ∈ taskStates, isTaskEndState taskState = false)
    (plainDecodes : decode (parameters.withCallback false) stopTokenDetector numOutputCandidates
      constraint decodedIds environments finalEnvironment executor =
        .ok (some responses) plainAfter) :
    runDecode parameters.arithmetic numOutputCandidates taskStates
        (decode (parameters.withCallback true) stopTokenDetector numOutputCandidates constraint
          decodedIds environments finalEnvironment executor) = .ok responses ↔
      (parameters.isCustomSampling = true → ∀ candidate < numOutputCandidates,
        AverageIsSum (decodedScores parameters stopTokenDetector numOutputCandidates constraint
          decodedIds environments executor candidate)) := by
  obtain ⟨isResponses, isEnd, streamingAfter, streams, alike⟩ := decode_alike plainDecodes
  have addZero : ∀ score, parameters.arithmetic.add score parameters.arithmetic.zero = score := by
    rw [exact]
    exact add_zero
  have texts : (List.range numOutputCandidates).map
      (streamedText · streamingAfter.callbackResponses) =
        plainAfter.totals.map fun total => String.ofList total.finalText := by
    apply List.ext_getElem
    · rw [List.length_map, List.length_map, List.length_range, alike.totals]
    · intro candidate _ inTotals
      rw [List.length_map] at inTotals
      rw [List.getElem_map, List.getElem_map, List.getElem_range]
      exact alike.texts candidate _ (List.getElem?_eq_getElem inTotals)
  have scores : (List.range numOutputCandidates).map
      (streamedScore parameters.arithmetic · streamingAfter.callbackResponses) =
        plainAfter.totals.map CandidateTotal.accumulatedScore := by
    apply List.ext_getElem
    · rw [List.length_map, List.length_map, List.length_range, alike.totals]
    · intro candidate _ inTotals
      rw [List.length_map] at inTotals
      rw [List.getElem_map, List.getElem_map, List.getElem_range]
      exact alike.scores addZero candidate _ (List.getElem?_eq_getElem inTotals)
  have sameScores : assembled responses.taskState numOutputCandidates
      (streamedText · streamingAfter.callbackResponses)
      (streamedScore parameters.arithmetic · streamingAfter.callbackResponses) = responses ↔
        ∀ total ∈ plainAfter.totals, total.accumulatedScore =
          total.finalScore parameters.arithmetic parameters.isCustomSampling := by
    rw [isResponses, assembled, texts, scores, ← List.map_inj_left]
    simp
  rw [streams, runDecode_ended parameters.arithmetic notEnd isEnd alike.updates, Except.ok.injEq,
    sameScores]
  constructor
  · intro same isCustomSampling candidate inBounds
    rw [← alike.totals] at inBounds
    exact (accumulatedScore_eq_finalScore_iff exact plainDecodes
      (List.getElem?_eq_getElem inBounds)).mp (same _ (List.getElem_mem inBounds)) isCustomSampling
  · intro averages total member
    obtain ⟨candidate, inBounds, isTotal⟩ := List.getElem_of_mem member
    apply (accumulatedScore_eq_finalScore_iff exact plainDecodes
      (List.getElem?_eq_some_iff.mpr ⟨inBounds, isTotal⟩)).mpr
    intro isCustomSampling
    rw [alike.totals] at inBounds
    exact averages isCustomSampling candidate inBounds

end Exact

/-! ## Rational scores -/

/-- A decode with external sampling that stops at the letter `i`. -/
def sampledParameters : DecodeParameters Nat (List Int) Nat Unit (WithBot ℚ) where
  taskExecutor := echoExecutor 16
  tokenizer := letterTokenizer
  arithmetic := exactArithmetic ℚ
  isStreaming := false
  isCustomSampling := true
  benchmarkDecodeTokenCount := 0

/-- The decode of one candidate that samples the given ids with the given scores. -/
def sampledDecode (isStreaming : Bool) (sampled : List (Int × ℚ)) :
    EStateM.Result Status (DecodeState Nat Nat Unit (WithBot ℚ))
      (Option (Responses (WithBot ℚ))) :=
  decode (sampledParameters.withCallback isStreaming)
    ((StopTokenDetector.ofStopToken 9).resetBatch 1) 1 none (some [0])
    (sampled.map fun sample => ⟨[], .ok ([sample.1], [(sample.2 : WithBot ℚ)]), false⟩) [] 0

def endedResponses {State Score : Type} :
    EStateM.Result Status State (Option (Responses Score)) → Option (Responses Score)
  | .ok responses _ => responses
  | .error _ _ => none

/-- A candidate with text in one step has the same responses. -/
theorem runDecode_eq_decode_oneStep :
    ∃ responses, endedResponses (sampledDecode false [(1, 1), (9, 0)]) = some responses ∧
      runDecode (exactArithmetic ℚ) 1 [.created, .queued, .processing]
        (sampledDecode true [(1, 1), (9, 0)]) = .ok responses := by
  have plain : ∃ responses after, sampledDecode false [(1, 1), (9, 0)] =
      .ok (some responses) after := ⟨_, _, rfl⟩
  obtain ⟨responses, after, plainDecodes⟩ := plain
  refine ⟨responses, by rw [plainDecodes]; rfl, ?_⟩
  apply (runDecode_eq_decode_iff rfl (by decide) plainDecodes).mpr
  intro _ candidate inBounds
  rw [Nat.lt_one_iff.mp inBounds]
  exact .inl rfl

/-- Scores 1 and 3 are averaged to 2 by the decode, and summed to 4 by `RunDecode`. -/
theorem runDecode_sums :
    endedResponses (sampledDecode false [(1, 1), (2, 3), (9, 0)]) =
        some ⟨.done, ["ab"], [((2 : ℚ) : WithBot ℚ)], none⟩ ∧
      (runDecode (exactArithmetic ℚ) 1 [.created, .queued, .processing]
          (sampledDecode true [(1, 1), (2, 3), (9, 0)])).toOption =
        some ⟨.done, ["ab"], [((4 : ℚ) : WithBot ℚ)], none⟩ := by
  constructor
  · decide +kernel
  · decide +kernel

end LiteRTLM.Core.SessionAdvanced
