import LiteRTLM.Core.Tasks.Score
import Mathlib.Analysis.SpecialFunctions.Log.Basic

/-!
Contract: what the scores of `Tasks::Score` are.

Owns: executors whose logits follow the tokens of each candidate, the score of a target as a
sum of log-probabilities along the target, that `Score` returns these in the arithmetic of
`float`, and what they are in exact arithmetic.

Does not own: any model, and any rounding.
-/

namespace LiteRTLM.Core.Tasks

open LiteRTLM.Components
open LiteRTLM.Components.FloatSampling
open LiteRTLM.Components.Sampling (SamplingRuntime)
open LiteRTLM.Core.SessionUtils
open LiteRTLM.Engine
open LiteRTLM.Executor
open LiteRTLM.Library
open LiteRTLM.Library.Blocks
open LiteRTLM.Library.PartialSelection
open LiteRTLM.Util
open ScoreParameters

variable {Executor Environment ConstraintState F : Type}

/-! ## Executors that follow the tokens of a candidate -/

/-- The tokens an executor holds for each candidate, and the logits that follow them. -/
structure TokenHistories (Executor F : Type) where
  history : Executor → Nat → List Int
  /-- The last token of the histories is still to be run: the next decode runs it, and no
  other. -/
  pending : Executor → Bool
  logitsAfter : Nat → List Int → List F

/-- The tokens of a candidate that the next decode of the given ids is for. -/
def TokenHistories.next (histories : TokenHistories Executor F) (executor : Executor)
    (decodedIds : List Int) (candidate : Nat) : List Int :=
  if histories.pending executor then histories.history executor candidate
  else histories.history executor candidate ++ [decodedIds.getD candidate 0]

/-- Each row of the logits depends only on the tokens of its own candidate. -/
structure FollowsHistories (taskExecutor : TaskExecutor Executor Environment F ConstraintState)
    (histories : TokenHistories Executor F) (numCandidates vocabSize : Nat) : Prop where
  vocabulary : ∀ candidate tokens, (histories.logitsAfter candidate tokens).length = vocabSize
  follows : ∀ environment decodedIds executor logits after,
    decodedIds.length = numCandidates →
    Succeeds (taskExecutor.decodeLogits environment decodedIds) executor logits after →
    logits.values = (List.range numCandidates).flatMap (fun candidate =>
        histories.logitsAfter candidate (histories.next executor decodedIds candidate)) ∧
      histories.pending after = false ∧
      ∀ candidate < numCandidates,
        histories.history after candidate = histories.next executor decodedIds candidate

/-! ## The score of a target -/

section TargetScore

variable (parameters : ScoreParameters Executor Environment ConstraintState F)
  (logitsAfter : List Int → List F) (prefilled : List Int)

/-- The log-probability of a token after a history. -/
def logProbability (tokens : List Int) (token : Int) : F :=
  parameters.floats.log ((softmaxRow parameters.floats
    (currentTemp parameters.floats parameters.temperature) (logitsAfter tokens)).getD token.toNat
      parameters.floats.zero)

/-- The log-probabilities of the tokens of a target, each after the tokens before it, added up
in their order. -/
def targetScore (target : List Int) : F :=
  ((List.range target.length).map fun i =>
    logProbability parameters logitsAfter (prefilled ++ target.take i) (target.getD i 0)).foldl
      parameters.floats.add parameters.floats.zero

theorem targetScore_take_succ {target : List Int} {i : Nat} (inside : i < target.length) :
    targetScore parameters logitsAfter prefilled (target.take (i + 1)) =
      parameters.floats.add (targetScore parameters logitsAfter prefilled (target.take i))
        (logProbability parameters logitsAfter (prefilled ++ target.take i)
          (target.getD i 0)) := by
  have shorter : ∀ count, count ≤ target.length → (target.take count).length = count := by
    intro count within
    rw [List.length_take, Nat.min_eq_left within]
  have entry : ∀ count position, position < count →
      (target.take count).getD position 0 = target.getD position 0 := by
    intro count position below
    rw [List.getD_eq_getElem?_getD, List.getD_eq_getElem?_getD, List.getElem?_take_of_lt below]
  rw [targetScore, targetScore, shorter _ inside, shorter _ inside.le, List.range_succ,
    List.map_append, List.foldl_append, List.map_singleton, List.foldl_cons, List.foldl_nil,
    List.take_take, Nat.min_eq_left (Nat.le_succ i), entry _ _ (Nat.lt_succ_self i)]
  congr 2
  apply List.map_congr_left
  intro position member
  have below := List.mem_range.mp member
  rw [List.take_take, List.take_take, Nat.min_eq_left (by omega), Nat.min_eq_left (by omega),
    entry _ _ (by omega), entry _ _ below]

end TargetScore

/-! ## One step -/

theorem stepIds_length (idsForEachTarget : List (List Int)) (i : Nat) :
    (stepIds idsForEachTarget i).length = idsForEachTarget.length := by
  rw [stepIds, List.length_map]

theorem stepIds_getD {idsForEachTarget : List (List Int)} {i j : Nat} {target : List Int}
    (targetAt : idsForEachTarget[j]? = some target) :
    (stepIds idsForEachTarget i).getD j 0 = target.getD i 0 := by
  rw [stepIds, List.getD_eq_getElem?_getD, List.getElem?_map, targetAt, Option.map_some,
    Option.getD_some]
  split
  · rfl
  next beyond =>
    rw [List.getD_eq_getElem?_getD, List.getElem?_eq_none (by omega), Option.getD_none]

theorem writeIds_of_length {buffer ids : List Int} (same : ids.length = buffer.length) :
    writeIds buffer ids = ids := by
  rw [writeIds, if_pos same.le, same, List.drop_length, List.append_nil]

theorem addLikelihoods_getD (floats : FloatOperations F) {idsForEachTarget : List (List Int)}
    {i j : Nat} {target : List Int} (targetAt : idsForEachTarget[j]? = some target)
    (scores stepLogLikelihoods : List F) :
    (addLikelihoods floats idsForEachTarget i scores stepLogLikelihoods).getD j floats.zero =
      if i < target.length then
        floats.add (scores.getD j floats.zero) (stepLogLikelihoods.getD j floats.zero)
      else scores.getD j floats.zero := by
  have below : j < idsForEachTarget.length := (List.getElem?_eq_some_iff.mp targetAt).1
  rw [addLikelihoods, List.getD_eq_getElem?_getD, List.getElem?_map, List.getElem?_range below,
    Option.map_some, Option.getD_some, List.getD_eq_getElem?_getD, targetAt, Option.getD_some]

@[simp]
theorem succeeds_scoreReturnIfError {α : Type} (status : StatusOr α) {before after : Executor}
    {value : α} :
    Succeeds (ScoreParameters.returnIfError status) before value after ↔
      status = .ok value ∧ after = before := by
  cases status with
  | ok result => simp [ScoreParameters.returnIfError, eq_comm]
  | error status => simp [ScoreParameters.returnIfError]

section Steps

variable {parameters : ScoreParameters Executor Environment ConstraintState F}
  {histories : TokenHistories Executor F} {numCandidates vocabSize : Nat}
  (follows : FollowsHistories parameters.taskExecutor histories numCandidates vocabSize)
  (keepsWhole : KeepsWhole parameters.algorithms)
  (warm : parameters.floats.lt parameters.temperature parameters.floats.zero = false)

include follows keepsWhole warm

/-- A step that runs scores the given tokens after the tokens of each candidate so far, and
leaves them to be run next. -/
theorem runScoreStep_spec {environment : Environment} {stepInputIds decodedIds : List Int}
    {executor after : Executor} {logits : Logits F} (someCandidate : 0 < numCandidates)
    (stepSized : stepInputIds.length = numCandidates)
    (bufferSized : decodedIds.length = numCandidates)
    (inVocabulary : ∀ id ∈ stepInputIds, 0 ≤ id ∧ id < vocabSize)
    (decodes : Succeeds (parameters.taskExecutor.decodeLogits environment decodedIds) executor
      logits after) :
    ∃ logLikelihoods,
      Succeeds (parameters.runScoreStep environment stepInputIds decodedIds) executor
        (logLikelihoods, stepInputIds) after ∧
      ∀ j < numCandidates,
        logLikelihoods.getD j parameters.floats.zero =
          logProbability parameters (histories.logitsAfter j)
          (histories.next executor decodedIds j) (stepInputIds.getD j 0) ∧
        histories.next after stepInputIds j =
          histories.next executor decodedIds j ++ [stepInputIds.getD j 0] := by
  obtain ⟨values, notPending, kept⟩ := follows.follows _ _ _ _ _ bufferSized decodes
  have rows : ∀ j < numCandidates,
      (histories.logitsAfter j (histories.next executor decodedIds j)).length = vocabSize :=
    fun j _ => follows.vocabulary j _
  have sized : logits.values.length = stepInputIds.length * vocabSize := by
    rw [values, stepSized]
    exact length_flatMap_range rows
  obtain ⟨logLikelihoods, computed, entries⟩ :=
    computeLogLikelihood_eq_ok keepsWhole sized (by omega) warm inVocabulary
  refine ⟨logLikelihoods, ?_, fun j below => ⟨?_, ?_⟩⟩
  · rw [runScoreStep, succeeds_bind]
    refine ⟨logits, after, decodes, ?_⟩
    rw [succeeds_bind]
    refine ⟨logLikelihoods, after, ?_, ?_⟩
    · rw [succeeds_scoreReturnIfError]
      exact ⟨computed, rfl⟩
    · rw [writeIds_of_length (by omega), succeeds_pure]
      exact ⟨rfl, rfl⟩
  · rw [entries j (by omega), values, block_flatMap_range rows below]
    rfl
  · rw [TokenHistories.next, notPending, if_neg Bool.false_ne_true, kept j below]

/-! ## All steps -/

/-- Before step `i`: the buffer has an id for each candidate, each target that is not used up
was followed so far, and its score is that of the tokens before `i`. -/
structure Followed (parameters : ScoreParameters Executor Environment ConstraintState F)
    (histories : TokenHistories Executor F) (idsForEachTarget : List (List Int))
    (prefilled : Nat → List Int) (i : Nat) (executor : Executor) (decodedIds : List Int)
    (scores : List F) : Prop where
  buffer : decodedIds.length = idsForEachTarget.length
  scored : scores.length = idsForEachTarget.length
  tokens : ∀ j target, idsForEachTarget[j]? = some target → i ≤ target.length →
    histories.next executor decodedIds j = prefilled j ++ target.take i
  score : ∀ j target, idsForEachTarget[j]? = some target →
    scores.getD j parameters.floats.zero =
      targetScore parameters (histories.logitsAfter j) (prefilled j) (target.take i)

variable {idsForEachTarget : List (List Int)} {prefilled : Nat → List Int}

/-- One step follows the targets further. -/
theorem Followed.step {environment : Environment} {i : Nat} {executor after : Executor}
    {decodedIds : List Int} {scores : List F} {logits : Logits F}
    (counted : idsForEachTarget.length = numCandidates)
    (inVocabulary : ∀ target ∈ idsForEachTarget, ∀ id ∈ target, 0 ≤ id ∧ id < vocabSize)
    (reached : ∃ target ∈ idsForEachTarget, i < target.length)
    (followed : Followed parameters histories idsForEachTarget prefilled i executor decodedIds
      scores)
    (decodes : Succeeds (parameters.taskExecutor.decodeLogits environment decodedIds) executor
      logits after) :
    ∃ logLikelihoods,
      Succeeds (parameters.runScoreStep environment (stepIds idsForEachTarget i) decodedIds)
        executor (logLikelihoods, stepIds idsForEachTarget i) after ∧
      Followed parameters histories idsForEachTarget prefilled (i + 1) after
        (stepIds idsForEachTarget i)
        (addLikelihoods parameters.floats idsForEachTarget i scores logLikelihoods) := by
  obtain ⟨longer, inTargets, within⟩ := reached
  have someCandidate : 0 < numCandidates := by
    rw [← counted]
    exact List.length_pos_of_mem inTargets
  have stepSized : (stepIds idsForEachTarget i).length = numCandidates := by
    rw [stepIds_length, counted]
  have someToken := inVocabulary longer inTargets longer[i] (List.getElem_mem within)
  have valid : ∀ id ∈ stepIds idsForEachTarget i, 0 ≤ id ∧ id < vocabSize := by
    intro id member
    obtain ⟨target, inTargets, rfl⟩ := List.mem_map.mp member
    split
    next inside =>
      rw [List.getD_eq_getElem?_getD, List.getElem?_eq_getElem inside, Option.getD_some]
      exact inVocabulary target inTargets _ (List.getElem_mem inside)
    next beyond =>
      -- The padding is the first token of the vocabulary.
      omega
  have bufferSized : decodedIds.length = numCandidates := by
    rw [followed.buffer, counted]
  obtain ⟨logLikelihoods, steps, candidates⟩ :=
    runScoreStep_spec follows keepsWhole warm someCandidate stepSized bufferSized valid
      decodes
  refine ⟨logLikelihoods, steps, ?_, ?_, ?_, ?_⟩
  · rw [stepIds_length]
  · rw [addLikelihoods, List.length_map, List.length_range]
  · intro j target targetAt inside
    have below : j < numCandidates := by
      rw [← counted]
      exact (List.getElem?_eq_some_iff.mp targetAt).1
    rw [(candidates j below).2, stepIds_getD targetAt,
      followed.tokens j target targetAt (by omega), List.append_assoc,
      List.getD_eq_getElem?_getD, List.getElem?_eq_getElem (by omega), Option.getD_some,
      List.take_append_getElem]
  · intro j target targetAt
    have below : j < numCandidates := by
      rw [← counted]
      exact (List.getElem?_eq_some_iff.mp targetAt).1
    rw [addLikelihoods_getD parameters.floats targetAt]
    split
    next inside =>
      rw [followed.score j target targetAt, (candidates j below).1, stepIds_getD targetAt,
        followed.tokens j target targetAt inside.le,
        targetScore_take_succ parameters _ _ inside]
    next beyond =>
      rw [followed.score j target targetAt, List.take_of_length_le (by omega),
        List.take_of_length_le (by omega)]

/-- All steps follow the targets to their ends, where the executor runs. -/
theorem Followed.run (environments : Nat → Environment) {steps i : Nat} {executor : Executor}
    {decodedIds : List Int} {scores : List F}
    (counted : idsForEachTarget.length = numCandidates)
    (inVocabulary : ∀ target ∈ idsForEachTarget, ∀ id ∈ target, 0 ≤ id ∧ id < vocabSize)
    (reached : ∀ step < i + steps, ∃ target ∈ idsForEachTarget, step < target.length)
    (followed : Followed parameters histories idsForEachTarget prefilled i executor decodedIds
      scores) :
    (∀ result after,
      Succeeds (parameters.scoreLoop environments idsForEachTarget steps i decodedIds scores)
        executor result after →
      ∃ decodedIds, Followed parameters histories idsForEachTarget prefilled (i + steps) after
        decodedIds result) ∧
    ((∀ environment decodedIds executor, decodedIds.length = numCandidates →
        ∃ logits after, Succeeds (parameters.taskExecutor.decodeLogits environment decodedIds)
          executor logits after) →
      ∃ result after,
        Succeeds (parameters.scoreLoop environments idsForEachTarget steps i decodedIds scores)
          executor result after) := by
  induction steps generalizing i executor decodedIds scores with
  | zero =>
      constructor
      · intro result after succeeds
        rw [scoreLoop, succeeds_pure] at succeeds
        obtain ⟨rfl, rfl⟩ := succeeds
        exact ⟨decodedIds, followed⟩
      · intro _
        refine ⟨scores, executor, ?_⟩
        rw [scoreLoop, succeeds_pure]
        exact ⟨rfl, rfl⟩
  | succ steps inductionHypothesis =>
      have rest : ∀ step < i + 1 + steps, ∃ target ∈ idsForEachTarget, step < target.length :=
        fun step below => reached step (by omega)
      have here := reached i (by omega)
      have further : i + 1 + steps = i + (steps + 1) := by omega
      constructor
      · intro result after succeeds
        rw [scoreLoop, succeeds_bind] at succeeds
        obtain ⟨⟨logLikelihoods, buffer⟩, between, stepRuns, restRuns⟩ := succeeds
        have stepParts := stepRuns
        rw [runScoreStep, succeeds_bind] at stepParts
        obtain ⟨logits, decoded, decodes, _⟩ := stepParts
        obtain ⟨expected, expectedRuns, followedAfter⟩ :=
          followed.step follows keepsWhole warm counted inVocabulary here decodes
        have same := stepRuns.symm.trans expectedRuns
        cases same
        rw [← further]
        exact (inductionHypothesis rest followedAfter).1 result after restRuns
      · intro runs
        have bufferSized : decodedIds.length = numCandidates := by
          rw [followed.buffer, counted]
        obtain ⟨logits, between, decodes⟩ := runs (environments i) decodedIds executor bufferSized
        obtain ⟨logLikelihoods, stepRuns, followedAfter⟩ :=
          followed.step follows keepsWhole warm counted inVocabulary here decodes
        obtain ⟨result, after, restRuns⟩ := (inductionHypothesis rest followedAfter).2 runs
        refine ⟨result, after, ?_⟩
        rw [scoreLoop, succeeds_bind]
        exact ⟨_, between, stepRuns, restRuns⟩

end Steps

/-! ## The scores -/

theorem length_le_maxNumTokens {idsForEachTarget : List (List Int)} {target : List Int}
    (inTargets : target ∈ idsForEachTarget) :
    target.length ≤ maxNumTokensOfTargetTexts idsForEachTarget := by
  have member := List.mem_map_of_mem (f := List.length) inTargets
  rw [maxNumTokensOfTargetTexts, List.foldl_max_eq_max (List.ne_nil_of_mem member)]
  exact le_trans (List.le_max_of_mem member) (le_max_right _ _)

/-- Below the length of the longest target some target has a token. -/
theorem exists_longer {idsForEachTarget : List (List Int)} {step : Nat}
    (below : step < maxNumTokensOfTargetTexts idsForEachTarget) :
    ∃ target ∈ idsForEachTarget, step < target.length := by
  rw [maxNumTokensOfTargetTexts] at below
  by_cases none : idsForEachTarget.map List.length = []
  · rw [none, List.foldl_nil] at below
    exact absurd below (Nat.not_lt_zero step)
  · rw [List.foldl_max_eq_max none, Nat.zero_max] at below
    obtain ⟨target, inTargets, length⟩ := List.mem_map.mp (List.max_mem none)
    exact ⟨target, inTargets, by rw [length]; exact below⟩

/-- Before the first step nothing is scored. -/
theorem followed_initial (parameters : ScoreParameters Executor Environment ConstraintState F)
    (histories : TokenHistories Executor F) (executor : Executor)
    {idsForEachTarget : List (List Int)} {decodedIds : List Int}
    (bufferSized : decodedIds.length = idsForEachTarget.length) :
    Followed parameters histories idsForEachTarget (histories.next executor decodedIds) 0
      executor decodedIds
      (List.replicate idsForEachTarget.length parameters.floats.zero) := by
  refine ⟨bufferSized, List.length_replicate, ?_, ?_⟩
  · intro j target _ _
    rw [List.take_zero, List.append_nil]
  · intro j target targetAt
    have below : j < idsForEachTarget.length := (List.getElem?_eq_some_iff.mp targetAt).1
    rw [List.getD_eq_getElem?_getD, List.getElem?_replicate, if_pos below]
    rfl

/-- Where the targets are encoded and short enough, a `Score` is its loop. -/
theorem succeeds_score {parameters : ScoreParameters Executor Environment ConstraintState F}
    {environments : Nat → Environment} {targetTexts : List Text}
    {idsForEachTarget : List (List Int)} {decodedIds : List Int} {storeTokenLengths : Bool}
    {executor after : Executor} {responses : Responses F}
    (encoded : targetTexts.mapM parameters.tokenizer.textToTokenIds = .ok idsForEachTarget)
    (short : maxNumTokensOfTargetTexts idsForEachTarget <
      tryGetMaxNumTokens parameters.taskExecutor executor) :
    Succeeds (parameters.score environments targetTexts decodedIds storeTokenLengths) executor
        responses after ↔
      ∃ scores,
        Succeeds (parameters.scoreLoop environments idsForEachTarget
          (maxNumTokensOfTargetTexts idsForEachTarget) 0 decodedIds
          (List.replicate idsForEachTarget.length parameters.floats.zero)) executor scores after ∧
        responses =
          { taskState := .done
            scores := scores
            tokenLengths :=
              if storeTokenLengths ∧ idsForEachTarget ≠ [] then
                some (idsForEachTarget.map fun ids => (ids.length : Int))
              else none } := by
  rw [score, succeeds_get_bind, encoded]
  change Succeeds (if maxNumTokensOfTargetTexts idsForEachTarget ≥
    tryGetMaxNumTokens parameters.taskExecutor executor then _ else _) executor responses after ↔ _
  rw [if_neg (not_le.mpr short), succeeds_bind]
  have lengths : ∀ scores : List F,
      ({ taskState := .done
         scores := scores
         tokenLengths :=
          if (if storeTokenLengths then
              idsForEachTarget.map fun ids => (ids.length : Int)
            else []).isEmpty then none
          else some (if storeTokenLengths then
            idsForEachTarget.map fun ids => (ids.length : Int)
          else []) } : Responses F) =
        { taskState := .done
          scores := scores
          tokenLengths :=
            if storeTokenLengths ∧ idsForEachTarget ≠ [] then
              some (idsForEachTarget.map fun ids => (ids.length : Int))
            else none } := by
    intro scores
    cases storeTokenLengths <;> cases idsForEachTarget <;> rfl
  constructor
  · rintro ⟨scores, between, loops, returns⟩
    rw [succeeds_pure] at returns
    obtain ⟨rfl, rfl⟩ := returns
    exact ⟨scores, loops, lengths scores⟩
  · rintro ⟨scores, loops, rfl⟩
    refine ⟨scores, after, loops, ?_⟩
    rw [succeeds_pure]
    exact ⟨(lengths scores).symm, rfl⟩

/-- **Teacher forcing.** In the arithmetic of `float`, the score of each target is the sum of
the log-probabilities of its tokens, each after the prefilled tokens and the tokens of the target
before it, whatever the other targets are. Where the executor runs, there is a score. -/
theorem score_teacherForced
    (parameters : ScoreParameters Executor Environment ConstraintState F)
    (histories : TokenHistories Executor F) {vocabSize : Nat} (environments : Nat → Environment)
    {targetTexts : List Text} {idsForEachTarget : List (List Int)} {decodedIds : List Int}
    (storeTokenLengths : Bool) (executor : Executor)
    (follows : FollowsHistories parameters.taskExecutor histories idsForEachTarget.length
      vocabSize)
    (keepsWhole : KeepsWhole parameters.algorithms)
    (warm : parameters.floats.lt parameters.temperature parameters.floats.zero = false)
    (encoded : targetTexts.mapM parameters.tokenizer.textToTokenIds = .ok idsForEachTarget)
    (short : maxNumTokensOfTargetTexts idsForEachTarget <
      tryGetMaxNumTokens parameters.taskExecutor executor)
    (inVocabulary : ∀ target ∈ idsForEachTarget, ∀ id ∈ target, 0 ≤ id ∧ id < vocabSize)
    (bufferSized : decodedIds.length = idsForEachTarget.length) :
    (∀ responses after,
      Succeeds (parameters.score environments targetTexts decodedIds storeTokenLengths) executor
        responses after →
      responses.scores.length = idsForEachTarget.length ∧
        ∀ j target, idsForEachTarget[j]? = some target →
          responses.scores[j]? = some (targetScore parameters (histories.logitsAfter j)
            (histories.next executor decodedIds j) target)) ∧
    ((∀ environment decodedIds executor, decodedIds.length = idsForEachTarget.length →
        ∃ logits after, Succeeds (parameters.taskExecutor.decodeLogits environment decodedIds)
          executor logits after) →
      ∃ responses after,
        Succeeds (parameters.score environments targetTexts decodedIds storeTokenLengths) executor
          responses after) := by
  have initial := followed_initial parameters histories executor bufferSized
  have longer : ∀ step < 0 + maxNumTokensOfTargetTexts idsForEachTarget,
      ∃ target ∈ idsForEachTarget, step < target.length :=
    fun step below => exists_longer (by omega)
  obtain ⟨scored, scores⟩ :=
    Followed.run follows keepsWhole warm environments rfl inVocabulary longer initial
  constructor
  · intro responses after succeeds
    rw [succeeds_score encoded short] at succeeds
    obtain ⟨result, loops, rfl⟩ := succeeds
    obtain ⟨_, followed⟩ := scored _ _ loops
    refine ⟨followed.scored, fun j target targetAt => ?_⟩
    have below : j < idsForEachTarget.length := (List.getElem?_eq_some_iff.mp targetAt).1
    have whole : target.take (0 + maxNumTokensOfTargetTexts idsForEachTarget) = target := by
      apply List.take_of_length_le
      have within := length_le_maxNumTokens (List.mem_of_getElem? targetAt)
      omega
    have value := followed.score j target targetAt
    rw [whole, List.getD_eq_getElem?_getD,
      List.getElem?_eq_getElem (by rw [followed.scored]; exact below), Option.getD_some] at value
    rw [List.getElem?_eq_getElem (by rw [followed.scored]; exact below), value]
  · intro runs
    obtain ⟨result, after, loops⟩ := scores runs
    exact ⟨_, after, (succeeds_score encoded short).mpr ⟨result, loops, rfl⟩⟩

/-! ## Exact arithmetic -/

section Exact

variable {R : Type} [Field R] [LinearOrder R] [IsStrictOrderedRing R]

/-- Without rounding, the score of a target is the sum of the logarithms of softmaxes. -/
theorem targetScore_exact (parameters : ScoreParameters Executor Environment ConstraintState R)
    (runtime : SamplingRuntime R) (log : R → R)
    (floats : parameters.floats = exactFloats runtime log)
    (add : ∀ first second, runtime.exp (first + second) = runtime.exp first * runtime.exp second)
    (logitsAfter : List Int → List R) (prefilled : List Int) {target : List Int}
    (inVocabulary : ∀ id ∈ target, ∀ tokens, id.toNat < (logitsAfter tokens).length) :
    targetScore parameters logitsAfter prefilled target =
      ((List.range target.length).map fun i => log (softmaxAt runtime.exp
        (Sampling.currentTemp parameters.temperature) (logitsAfter (prefilled ++ target.take i))
        (target.getD i 0).toNat)).sum := by
  have term : ∀ i < target.length,
      logProbability parameters logitsAfter (prefilled ++ target.take i) (target.getD i 0) =
        log (softmaxAt runtime.exp (Sampling.currentTemp parameters.temperature)
          (logitsAfter (prefilled ++ target.take i)) (target.getD i 0).toNat) := by
    intro i inside
    have token : target.getD i 0 = target[i] := by
      rw [List.getD_eq_getElem?_getD, List.getElem?_eq_getElem inside, Option.getD_some]
    have inRow := inVocabulary target[i] (List.getElem_mem inside) (prefilled ++ target.take i)
    rw [logProbability, floats, currentTemp_exact, token,
      ← softmaxRow_exact runtime log add parameters.temperature inRow]
    rfl
  have same : (List.range target.length).map (fun i =>
      logProbability parameters logitsAfter (prefilled ++ target.take i) (target.getD i 0)) =
      (List.range target.length).map fun i => log (softmaxAt runtime.exp
        (Sampling.currentTemp parameters.temperature) (logitsAfter (prefilled ++ target.take i))
        (target.getD i 0).toNat) :=
    List.map_congr_left fun i member => term i (List.mem_range.mp member)
  rw [targetScore, same, floats, List.sum_eq_foldl]
  rfl

end Exact

/-! ## An executor over the real numbers -/

theorem keepsWhole_insertion : KeepsWhole (insertionAlgorithms Nat) :=
  fun _ _ => if_pos rfl

/-- `std::exp` as the real exponential. -/
noncomputable def realRuntime : SamplingRuntime ℝ where
  algorithms := insertionAlgorithms Nat
  exp := Real.exp
  strCat := fun _ => ""
  exp_pos := Real.exp_pos
  exp_strictMono := Real.exp_strictMono

/-- The state of an executor that keeps the tokens of its candidates. -/
structure CountingState where
  tokens : Nat → List Int
  pending : Bool

/-- The logit of token 0 is the number of tokens before it, the logit of token 1 is 1. -/
noncomputable def countingHistories : TokenHistories CountingState ℝ where
  history := CountingState.tokens
  pending := CountingState.pending
  logitsAfter := fun _ tokens => [(tokens.length : ℝ), 1]

noncomputable def countingExecutor (numCandidates : Nat) :
    TaskExecutor CountingState Unit ℝ Unit where
  getMaxNumTokens := fun _ => .ok 16
  getCurrentStep := fun _ => 0
  prefill := fun _ _ => return ()
  decode := fun _ _ => throw (.internalError "Only logits are decoded.")
  decodeLogits := fun _ decodedIds executor =>
    .ok { hostMemory := true
          elementTypeFloat32 := true
          dimensions := [numCandidates, 1, 2]
          values := (List.range numCandidates).flatMap fun candidate =>
            countingHistories.logitsAfter candidate
              (countingHistories.next executor decodedIds candidate) }
      { tokens := countingHistories.next executor decodedIds, pending := false }

theorem countingExecutor_follows (numCandidates : Nat) :
    FollowsHistories (countingExecutor numCandidates) countingHistories numCandidates 2 where
  vocabulary := fun _ _ => rfl
  follows := by
    intro environment decodedIds executor logits after _ decodes
    cases decodes
    exact ⟨rfl, rfl, fun _ _ => rfl⟩

noncomputable def countingParameters : ScoreParameters CountingState Unit Unit ℝ where
  taskExecutor := countingExecutor 2
  tokenizer :=
    { tokenIdsToText := fun _ => .ok []
      textToTokenIds := fun text => .ok (text.map fun letter => (letter.toNat : Int) - 97) }
  floats := exactFloats realRuntime Real.log
  algorithms := insertionAlgorithms Nat
  temperature := 1

/-- Two targets of different lengths after a prefill of two tokens. -/
theorem score_teacherForced_two_targets :
    (∀ responses after,
      Succeeds (countingParameters.score (fun _ => ()) [['a', 'b'], ['b']] [1, 1] true)
        ⟨fun _ => [0, 1], true⟩ responses after →
      responses.scores.length = 2 ∧
        ∀ j target, [[0, 1], [1]][j]? = some target →
          responses.scores[j]? = some (targetScore countingParameters
            (countingHistories.logitsAfter j)
            (countingHistories.next ⟨fun _ => [0, 1], true⟩ [1, 1] j) target)) ∧
    ((∀ environment decodedIds executor, decodedIds.length = 2 →
        ∃ logits after, Succeeds ((countingExecutor 2).decodeLogits environment decodedIds)
          executor logits after) →
      ∃ responses after,
        Succeeds (countingParameters.score (fun _ => ()) [['a', 'b'], ['b']] [1, 1] true)
          ⟨fun _ => [0, 1], true⟩ responses after) := by
  have encoded : [['a', 'b'], ['b']].mapM countingParameters.tokenizer.textToTokenIds =
      .ok [[0, 1], [1]] := rfl
  have short : maxNumTokensOfTargetTexts [[0, 1], [1]] < 16 := by decide
  have inVocabulary : ∀ target ∈ ([[0, 1], [1]] : List (List Int)), ∀ id ∈ target,
      0 ≤ id ∧ id < (2 : Nat) := by decide
  have follows : FollowsHistories countingParameters.taskExecutor countingHistories
      ([[0, 1], [1]] : List (List Int)).length 2 := countingExecutor_follows 2
  have warm : countingParameters.floats.lt 1 0 = false :=
    decide_eq_false (not_lt.mpr (zero_le_one' ℝ))
  exact score_teacherForced countingParameters countingHistories (fun _ => ()) true
    ⟨fun _ => [0, 1], true⟩ follows keepsWhole_insertion warm encoded short inVocabulary rfl

end LiteRTLM.Core.Tasks
