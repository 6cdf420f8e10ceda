import Mathlib
import LiteRTLM.Core.Tasks.BenchmarkedTasks

/-!
Contract: what failed and cancelled calls do to the benchmark turns.

Owns: how a call ends when its turn has started, what a call does to the benchmark info, and
that turns recover from a sequence of calls exactly when none of them fails after its start.

Does not own: the times of the turns.
-/

namespace LiteRTLM.Core.Tasks

open LiteRTLM.Components
open LiteRTLM.Engine
open LiteRTLM.Executor

/-! ## Calls -/

/-- A call of `Tasks::Prefill` or `Tasks::Decode`, with the executor as the call finds it. -/
inductive TimedCall (Executor Environment Scalar ConstraintState Score : Type) where
  | prefill (taskExecutor : TaskExecutor Executor Environment Scalar ConstraintState)
      (executor : Executor) (environment : Environment) (textData : Option ExecutorTextData)
  | decode (parameters : DecodeParameters Executor Environment Scalar ConstraintState Score)
      (executor : Executor) (stopTokenDetector : StopTokenDetector) (numOutputCandidates : Nat)
      (constraint : Option (Constraint ConstraintState)) (decodedIds : Option (List Int))
      (environments : List (StepEnvironment Environment Score)) (finalEnvironment : Environment)

inductive CallEnd where
  /-- It fails before its turn starts. -/
  | refused
  /-- It is still running. -/
  | running
  /-- It fails between the start and the end of its turn. -/
  | failedInTurn
  /-- It fails after the end of its turn. -/
  | failedAfterTurn (numTokens : Nat)
  | cancelled (numTokens : Nat)
  | completed (numTokens : Nat)
deriving DecidableEq, Repr

/-- The call failed once its turn had started. -/
def CallEnd.FailsAfterStart : CallEnd → Prop
  | .failedInTurn => True
  | .failedAfterTurn _ => True
  | _ => False

def CallEnd.turn? : CallEnd → Option Nat
  | .cancelled numTokens => some numTokens
  | .completed numTokens => some numTokens
  | _ => none

/-- What a call with this end leaves of a benchmark info on which no turn is open. -/
def CallEnd.infoAfter (info : BenchmarkInfo) (kind : TurnKind) : CallEnd → Option BenchmarkInfo
  | .refused => some info
  | .running => none
  | .failedInTurn => some (info.started kind)
  | .failedAfterTurn numTokens => some (info.recorded kind numTokens)
  | .cancelled numTokens => some (info.recorded kind numTokens)
  | .completed numTokens => some (info.recorded kind numTokens)

/-- How the decode loop ends. -/
inductive LoopEnd (State : Type) where
  | running (state : State)
  | cancelled (state : State)
  | failed (status : Status) (state : State)
  | ended (state : State)

section Calls

variable {Executor Environment Scalar ConstraintState Score : Type}

/-- How a prefill ends when its turn can be started. -/
def prefillEnd (taskExecutor : TaskExecutor Executor Environment Scalar ConstraintState)
    (executor : Executor) (environment : Environment) : Option ExecutorTextData → CallEnd
  | none => .refused
  | some textData =>
      if numTokens textData ≥ tryGetMaxNumTokens taskExecutor executor then
        .refused
      else if textData.tokenIds.isEmpty then
        .refused
      else
        match taskExecutor.prefill environment textData executor with
        | .ok _ _ => .completed textData.tokenIds.length
        | .error _ _ => .failedInTurn

variable [Bot Scalar]

def loopEnd (parameters : DecodeParameters Executor Environment Scalar ConstraintState Score)
    (maxNumTokens : Nat) : List (StepEnvironment Environment Score) →
      DecodeState Executor Scalar ConstraintState Score →
        LoopEnd (DecodeState Executor Scalar ConstraintState Score)
  | [], state => .running state
  | environment :: environments, state =>
      if environment.cancelled then
        .cancelled state
      else
        match decodeStep parameters maxNumTokens environment state with
        | .error status next => .failed status next
        | .ok true next => .ended next
        | .ok false next => loopEnd parameters maxNumTokens environments next

/-- How a decode ends from its initial variables. -/
def decodeEnd (parameters : DecodeParameters Executor Environment Scalar ConstraintState Score)
    (numOutputCandidates : Nat) (environments : List (StepEnvironment Environment Score))
    (finalEnvironment : Environment)
    (state : DecodeState Executor Scalar ConstraintState Score) : CallEnd :=
  match loopEnd parameters (tryGetMaxNumTokens parameters.taskExecutor state.executor)
    environments state with
  | .running _ => .running
  | .cancelled next => .cancelled (next.numDecodeSteps * numOutputCandidates)
  | .failed _ _ => .failedInTurn
  | .ended next =>
      match finalPrefill parameters finalEnvironment next with
      | .ok _ _ => .completed (next.numDecodeSteps * numOutputCandidates)
      | .error _ _ => .failedAfterTurn (next.numDecodeSteps * numOutputCandidates)

namespace TimedCall

omit [Bot Scalar] in
def kind : TimedCall Executor Environment Scalar ConstraintState Score → TurnKind
  | prefill .. => .prefill
  | decode .. => .decode

/-- How the call ends when its turn can be started, given the number of decode steps that the
benchmark asks for. -/
def callEnd (numDecodeTokens : Nat) :
    TimedCall Executor Environment Scalar ConstraintState Score → CallEnd
  | prefill taskExecutor executor environment textData =>
      prefillEnd taskExecutor executor environment textData
  | decode parameters executor stopTokenDetector numOutputCandidates constraint decodedIds
      environments finalEnvironment =>
      decodeEnd { parameters with benchmarkDecodeTokenCount := numDecodeTokens }
        numOutputCandidates environments finalEnvironment
        (.initial parameters.arithmetic executor stopTokenDetector numOutputCandidates constraint
          decodedIds)

/-- The turn of the kind that the call completes or cancels. -/
def turnOf? (numDecodeTokens : Nat) (kind : TurnKind)
    (call : TimedCall Executor Environment Scalar ConstraintState Score) : Option Nat :=
  if kind = call.kind then (call.callEnd numDecodeTokens).turn? else none

/-- The benchmark info that the call leaves when it returns. -/
def perform : TimedCall Executor Environment Scalar ConstraintState Score →
    BenchmarkInfo → Option BenchmarkInfo
  | prefill taskExecutor executor environment textData, info =>
      match (benchmarkedPrefill taskExecutor environment textData :
        BenchmarkedM Executor (Responses Score)) ⟨executor, some info⟩ with
      | .ok _ after => after.benchmarkInfo
      | .error _ after => after.benchmarkInfo
  | decode parameters executor stopTokenDetector numOutputCandidates constraint decodedIds
      environments finalEnvironment, info =>
      match benchmarkedDecodeFrom parameters numOutputCandidates environments finalEnvironment
        ⟨.initial parameters.arithmetic executor stopTokenDetector numOutputCandidates constraint
          decodedIds, some info⟩ with
      | .ok (some _) after => after.benchmarkInfo
      | .ok none _ => none
      | .error _ after => after.benchmarkInfo

end TimedCall

/-- The benchmark info after a sequence of calls, each of which has returned. -/
def performAll (info : BenchmarkInfo) :
    List (TimedCall Executor Environment Scalar ConstraintState Score) → Option BenchmarkInfo
  | [] => some info
  | call :: calls => call.perform info >>= fun next => performAll next calls

/-! ## One call -/

section OneCall

variable (info : BenchmarkInfo)

omit [Bot Scalar] in
theorem timed_start {State : Type} (state : State) {kind : TurnKind}
    (noneOpen : info.NoneOpen) :
    timed (BenchmarkInfo.timeTurnStart kind) ⟨state, some info⟩ =
      .ok () ⟨state, some (info.started kind)⟩ := by
  simp only [timed, BenchmarkInfo.timeTurnStart_started (noneOpen.notStarted kind)]

omit [Bot Scalar] in
theorem timed_end {State : Type} (state : State) (kind : TurnKind) (numTokens : Nat) :
    timed (BenchmarkInfo.timeTurnEnd kind numTokens) ⟨state, some (info.started kind)⟩ =
      .ok () ⟨state, some (info.recorded kind numTokens)⟩ := by
  simp only [timed, BenchmarkInfo.timeTurnEnd_ended]

/-- What a prefill leaves. -/
theorem perform_prefill (noneOpen : info.NoneOpen)
    (taskExecutor : TaskExecutor Executor Environment Scalar ConstraintState)
    (executor : Executor) (environment : Environment) (textData : Option ExecutorTextData) :
    (TimedCall.prefill taskExecutor executor environment textData :
        TimedCall Executor Environment Scalar ConstraintState Score).perform info =
      (prefillEnd taskExecutor executor environment textData).infoAfter info .prefill := by
  cases textData with
  | none => rfl
  | some textData =>
      unfold TimedCall.perform benchmarkedPrefill prefillEnd
      simp only [bind, EStateM.bind, get, getThe, MonadStateOf.get, EStateM.get]
      by_cases tooLong : numTokens textData ≥ tryGetMaxNumTokens taskExecutor executor
      · rw [if_pos tooLong, if_pos tooLong]
        rfl
      rw [if_neg tooLong, if_neg tooLong]
      cases empty : textData.tokenIds.isEmpty with
      | true => rfl
      | false =>
          simp only [Bool.false_eq_true, if_false, BenchmarkInfo.timePrefillTurnStart,
            BenchmarkInfo.timePrefillTurnEnd, EStateM.bind, timed_start info executor noneOpen,
            onState]
          cases taskExecutor.prefill environment textData executor with
          | error status next => rfl
          | ok value next =>
              simp only [timed_end info next .prefill]
              rfl

/-- What the loop leaves of a turn that has started. -/
theorem benchmarkedLoop_started
    (parameters : DecodeParameters Executor Environment Scalar ConstraintState Score)
    (maxNumTokens numOutputCandidates : Nat)
    (environments : List (StepEnvironment Environment Score))
    (state : DecodeState Executor Scalar ConstraintState Score) :
    benchmarkedLoop parameters maxNumTokens numOutputCandidates environments
        ⟨state, some (info.started .decode)⟩ =
      match loopEnd parameters maxNumTokens environments state with
      | .running next => .ok false ⟨next, some (info.started .decode)⟩
      | .cancelled next =>
          .error (.cancelledError "Process cancelled.")
            ⟨next, some (info.recorded .decode (next.numDecodeSteps * numOutputCandidates))⟩
      | .failed status next => .error status ⟨next, some (info.started .decode)⟩
      | .ended next => .ok true ⟨next, some (info.started .decode)⟩ := by
  induction environments generalizing state with
  | nil => rfl
  | cons environment environments inductionHypothesis =>
      rw [benchmarkedLoop, loopEnd]
      unfold benchmarkedStep
      cases cancelled : environment.cancelled with
      | true =>
          have cancels : decodeStep parameters maxNumTokens environment state =
              .error (.cancelledError "Process cancelled.") state := by
            unfold decodeStep
            rw [cancelled]
            rfl
          simp only [if_true, bind, EStateM.bind, get, getThe, MonadStateOf.get, EStateM.get,
            BenchmarkInfo.timeDecodeTurnEnd, timed_end info state .decode, onState, cancels]
      | false =>
          simp only [Bool.false_eq_true, if_false, bind, EStateM.bind, pure, onState]
          cases decodeStep parameters maxNumTokens environment state with
          | error status next => rfl
          | ok stops next =>
              cases stops with
              | true => rfl
              | false => exact inductionHypothesis next

/-- What a decode leaves. -/
theorem perform_decode (noneOpen : info.NoneOpen)
    (parameters : DecodeParameters Executor Environment Scalar ConstraintState Score)
    (executor : Executor) (stopTokenDetector : StopTokenDetector) (numOutputCandidates : Nat)
    (constraint : Option (Constraint ConstraintState)) (decodedIds : Option (List Int))
    (environments : List (StepEnvironment Environment Score)) (finalEnvironment : Environment) :
    (TimedCall.decode parameters executor stopTokenDetector numOutputCandidates constraint
        decodedIds environments finalEnvironment).perform info =
      (decodeEnd { parameters with benchmarkDecodeTokenCount := info.numDecodeTokens }
        numOutputCandidates environments finalEnvironment
        (.initial parameters.arithmetic executor stopTokenDetector numOutputCandidates constraint
          decodedIds)).infoAfter info .decode := by
  unfold TimedCall.perform benchmarkedDecodeFrom decodeEnd
  simp only [bind, EStateM.bind, get, getThe, MonadStateOf.get, EStateM.get, decodeTokenCount,
    BenchmarkInfo.timeDecodeTurnStart, timed_start info _ noneOpen, benchmarkedLoop_started]
  cases loopEnd { parameters with benchmarkDecodeTokenCount := info.numDecodeTokens }
    (tryGetMaxNumTokens parameters.taskExecutor _) environments _ with
  | running next => rfl
  | cancelled next => rfl
  | failed status next => rfl
  | ended next =>
      simp only [if_true, EStateM.bind, EStateM.get, BenchmarkInfo.timeDecodeTurnEnd,
        timed_end info next .decode, onState, pure, EStateM.pure]
      cases finalPrefill { parameters with benchmarkDecodeTokenCount := info.numDecodeTokens }
        finalEnvironment next <;> rfl

/-- What a call leaves of an info on which no turn is open. -/
theorem perform_of_noneOpen (noneOpen : info.NoneOpen)
    (call : TimedCall Executor Environment Scalar ConstraintState Score) :
    call.perform info = (call.callEnd info.numDecodeTokens).infoAfter info call.kind := by
  cases call with
  | prefill taskExecutor executor environment textData =>
      exact perform_prefill info noneOpen taskExecutor executor environment textData
  | decode parameters executor stopTokenDetector numOutputCandidates constraint decodedIds
      environments finalEnvironment =>
      exact perform_decode info noneOpen parameters executor stopTokenDetector
        numOutputCandidates constraint decodedIds environments finalEnvironment

/-- A call that does not fail after its start leaves no turn open, and records a turn exactly when
it completes or is cancelled. -/
theorem perform_recovers (noneOpen : info.NoneOpen)
    {call : TimedCall Executor Environment Scalar ConstraintState Score} {after : BenchmarkInfo}
    (performs : call.perform info = some after)
    (notFailed : ¬ (call.callEnd info.numDecodeTokens).FailsAfterStart) :
    after.NoneOpen ∧ after.numDecodeTokens = info.numDecodeTokens ∧
      ∀ kind, (after.log kind).turns =
        (info.log kind).turns ++ (call.turnOf? info.numDecodeTokens kind).toList := by
  have turnsRecorded : ∀ numTokens, (call.callEnd info.numDecodeTokens).turn? = some numTokens →
      ∀ kind, ((info.recorded call.kind numTokens).log kind).turns =
        (info.log kind).turns ++ (call.turnOf? info.numDecodeTokens kind).toList := by
    intro numTokens turn kind
    rw [BenchmarkInfo.turns_recorded, TimedCall.turnOf?, turn]
    by_cases same : kind = call.kind
    · rw [if_pos same, if_pos same, Option.toList_some]
    · rw [if_neg same, if_neg same, Option.toList_none]
  rw [perform_of_noneOpen info noneOpen] at performs
  cases ending : call.callEnd info.numDecodeTokens with
  | refused =>
      rw [ending] at performs
      cases performs
      refine ⟨noneOpen, rfl, fun kind => ?_⟩
      rw [TimedCall.turnOf?, ending]
      simp [CallEnd.turn?]
  | running =>
      rw [ending] at performs
      cases performs
  | failedInTurn => exact absurd (ending ▸ trivial) notFailed
  | failedAfterTurn numTokens => exact absurd (ending ▸ trivial) notFailed
  | cancelled numTokens =>
      rw [ending] at performs
      cases performs
      exact ⟨noneOpen.recorded _ _, rfl, turnsRecorded numTokens (by rw [ending]; rfl)⟩
  | completed numTokens =>
      rw [ending] at performs
      cases performs
      exact ⟨noneOpen.recorded _ _, rfl, turnsRecorded numTokens (by rw [ending]; rfl)⟩

end OneCall

/-! ## Sequences of calls -/

/-- After the calls a turn of either kind can be started, and the turns recorded since the first
of them are those of the calls that were completed or cancelled. -/
structure Recovered (first : BenchmarkInfo)
    (calls : List (TimedCall Executor Environment Scalar ConstraintState Score))
    (reached : BenchmarkInfo) : Prop where
  starts : ∀ kind, StatusOr.isOk (BenchmarkInfo.timeTurnStart kind reached) = true
  turns : ∀ kind, (reached.log kind).turns =
    (first.log kind).turns ++ calls.filterMap (TimedCall.turnOf? first.numDecodeTokens kind)

/-- Turns have recovered after every part of the calls. -/
def AlwaysRecovered (first : BenchmarkInfo)
    (calls : List (TimedCall Executor Environment Scalar ConstraintState Score)) : Prop :=
  ∀ earlier later reached, calls = earlier ++ later → performAll first earlier = some reached →
    Recovered first earlier reached

/-- Turns recover after calls none of which fails after its start. -/
theorem recovered_performAll {info reached : BenchmarkInfo} (noneOpen : info.NoneOpen)
    {calls : List (TimedCall Executor Environment Scalar ConstraintState Score)}
    (performs : performAll info calls = some reached)
    (notFailed : ∀ call ∈ calls, ¬ (call.callEnd info.numDecodeTokens).FailsAfterStart) :
    Recovered info calls reached := by
  induction calls generalizing info with
  | nil =>
      cases performs
      constructor
      · intro kind
        exact (BenchmarkInfo.timeTurnStart_isOk kind reached).mpr (noneOpen.notStarted kind)
      · intro kind
        rw [List.filterMap_nil, List.append_nil]
  | cons call calls inductionHypothesis =>
      obtain ⟨next, performsCall, performsRest⟩ := Option.bind_eq_some_iff.mp performs
      obtain ⟨nextNoneOpen, sameCount, turns⟩ := perform_recovers info noneOpen performsCall
        (notFailed call List.mem_cons_self)
      have rest := inductionHypothesis nextNoneOpen performsRest (by
        intro later member
        rw [sameCount]
        exact notFailed later (List.mem_cons_of_mem call member))
      refine ⟨rest.starts, fun kind => ?_⟩
      rw [rest.turns kind, turns kind, sameCount, List.append_assoc, List.filterMap_cons]
      cases call.turnOf? info.numDecodeTokens kind <;> rfl

/-- Turns do not recover from a call that fails after its start. -/
theorem not_recovered_of_failsAfterStart {info after : BenchmarkInfo}
    (noneOpen : info.NoneOpen)
    {call : TimedCall Executor Environment Scalar ConstraintState Score}
    (performs : call.perform info = some after)
    (failed : (call.callEnd info.numDecodeTokens).FailsAfterStart) :
    ¬ Recovered info [call] after := by
  intro recovered
  rw [perform_of_noneOpen info noneOpen] at performs
  cases ending : call.callEnd info.numDecodeTokens with
  | failedInTurn =>
      rw [ending] at performs
      cases performs
      have starts := recovered.starts call.kind
      rw [BenchmarkInfo.started_blocks] at starts
      exact Bool.false_ne_true starts
  | failedAfterTurn numTokens =>
      rw [ending] at performs
      cases performs
      have turns := recovered.turns call.kind
      rw [BenchmarkInfo.turns_recorded, if_pos rfl, List.filterMap_cons, TimedCall.turnOf?,
        if_pos rfl, ending] at turns
      exact List.cons_ne_nil _ _ (List.append_cancel_left turns)
  | refused => exact (ending ▸ failed : CallEnd.refused.FailsAfterStart)
  | running => exact (ending ▸ failed : CallEnd.running.FailsAfterStart)
  | cancelled numTokens => exact (ending ▸ failed : (CallEnd.cancelled _).FailsAfterStart)
  | completed numTokens => exact (ending ▸ failed : (CallEnd.completed _).FailsAfterStart)

/-- In every sequence of calls that have returned, the turns always recover exactly when no call
fails after the start of its turn. -/
theorem turns_recover_iff {first last : BenchmarkInfo} (noneOpen : first.NoneOpen)
    {calls : List (TimedCall Executor Environment Scalar ConstraintState Score)}
    (performs : performAll first calls = some last) :
    AlwaysRecovered first calls ↔
      ∀ call ∈ calls, ¬ (call.callEnd first.numDecodeTokens).FailsAfterStart := by
  constructor
  · intro always
    induction calls generalizing first with
    | nil =>
        intro call member
        cases member
    | cons call calls inductionHypothesis =>
        obtain ⟨next, performsCall, performsRest⟩ := Option.bind_eq_some_iff.mp performs
        have notFailed : ¬ (call.callEnd first.numDecodeTokens).FailsAfterStart := by
          intro failed
          have performsOne : performAll first [call] = some next :=
            Option.bind_eq_some_iff.mpr ⟨next, performsCall, rfl⟩
          exact not_recovered_of_failsAfterStart noneOpen performsCall failed
            (always [call] calls next rfl performsOne)
        obtain ⟨nextNoneOpen, sameCount, turns⟩ :=
          perform_recovers first noneOpen performsCall notFailed
        have alwaysRest : AlwaysRecovered next calls := by
          intro earlier later reached split performsEarlier
          have recovered := always (call :: earlier) later reached (by rw [split]; rfl)
            (Option.bind_eq_some_iff.mpr ⟨next, performsCall, performsEarlier⟩)
          refine ⟨recovered.starts, fun kind => ?_⟩
          rw [recovered.turns kind, turns kind, sameCount, List.append_assoc,
            List.filterMap_cons]
          cases call.turnOf? first.numDecodeTokens kind <;> rfl
        intro other member
        cases List.mem_cons.mp member with
        | inl same =>
            rw [same]
            exact notFailed
        | inr rest =>
            rw [← sameCount]
            exact inductionHypothesis nextNoneOpen performsRest alwaysRest other rest
  · intro notFailed earlier later reached split performsEarlier
    apply recovered_performAll noneOpen performsEarlier
    intro call member
    exact notFailed call (split ▸ List.mem_append_left later member)

end Calls

/-! ## A failing executor -/

/-- An executor that succeeds or fails as its environment says. -/
def scriptedExecutor : TaskExecutor Unit Bool Nat Unit where
  getMaxNumTokens := fun _ => .ok 16
  getCurrentStep := fun _ => 0
  prefill := fun succeeds _ =>
    if succeeds then pure () else throw (.internalError "The model failed.")
  decode := fun succeeds constrainedDecoder =>
    if succeeds then
      pure { outputTokens := [7], constrainedDecoder, sampledLogits := ⟨true, true, [1], [0]⟩ }
    else
      throw (.internalError "The model failed.")
  decodeLogits := fun _ _ => throw (.internalError "The model failed.")

def scriptedPrefill (succeeds : Bool) : TimedCall Unit Bool Nat Unit Nat :=
  .prefill scriptedExecutor () succeeds (some ⟨1, [5]⟩)

/-- A decode of one candidate that meets the given steps. -/
def scriptedDecode (environments : List (StepEnvironment Bool Nat)) :
    TimedCall Unit Bool Nat Unit Nat :=
  .decode
    { taskExecutor := scriptedExecutor
      tokenizer := { tokenIdsToText := fun _ => .ok ['a'] }
      arithmetic := ⟨0, (· + ·), (· / ·), 0⟩
      isStreaming := false
      isCustomSampling := false
      benchmarkDecodeTokenCount := 0 }
    () ((StopTokenDetector.ofStopToken 9).resetBatch 1) 1 none none environments true

/-- A benchmark that asks for one decode step. -/
def oneStepBenchmark : BenchmarkInfo := { numDecodeTokens := 1 }

theorem oneStepBenchmark_noneOpen : oneStepBenchmark.NoneOpen :=
  BenchmarkInfo.noneOpen_of_noTurn fun _ _ => List.not_mem_nil

/-- A prefill, a decode and a decode that is cancelled before its first step leave turns that
recover. -/
theorem turns_recover_from_cancellation :
    AlwaysRecovered oneStepBenchmark
      [scriptedPrefill true, scriptedDecode [⟨true, .ok ([], []), false⟩],
        scriptedDecode [⟨true, .ok ([], []), true⟩]] := by
  have performs : performAll oneStepBenchmark
      [scriptedPrefill true, scriptedDecode [⟨true, .ok ([], []), false⟩],
        scriptedDecode [⟨true, .ok ([], []), true⟩]] =
      some (((oneStepBenchmark.recorded .prefill 1).recorded .decode 1).recorded .decode 0) :=
    rfl
  refine (turns_recover_iff oneStepBenchmark_noneOpen performs).mpr ?_
  intro call member
  simp only [List.mem_cons, List.not_mem_nil, or_false] at member
  cases member with
  | inl prefill =>
      subst prefill
      exact id
  | inr decodes =>
      cases decodes with
      | inl decode =>
          subst decode
          exact id
      | inr cancelled =>
          subst cancelled
          exact id

/-- A prefill that fails keeps every later prefill from starting, and a decode every later
decode. -/
theorem failed_turns_block_later_turns :
    (scriptedPrefill true).callEnd 1 = .completed 1 ∧
      performAll oneStepBenchmark [scriptedPrefill false] =
        some (oneStepBenchmark.started .prefill) ∧
      BenchmarkInfo.timePrefillTurnStart (oneStepBenchmark.started .prefill) =
        .error (.internalError "Prefill turn prefill:0 already started.") ∧
      performAll oneStepBenchmark [scriptedPrefill false, scriptedPrefill true] =
        some (oneStepBenchmark.started .prefill) ∧
      performAll oneStepBenchmark [scriptedDecode [⟨false, .ok ([], []), false⟩]] =
        some (oneStepBenchmark.started .decode) ∧
      BenchmarkInfo.timeDecodeTurnStart (oneStepBenchmark.started .decode) =
        .error (.internalError "Decode turn decode:0 already started.") ∧
      ¬ AlwaysRecovered oneStepBenchmark [scriptedPrefill false] := by
  have performs : (scriptedPrefill false).perform oneStepBenchmark =
      some (oneStepBenchmark.started .prefill) := rfl
  refine ⟨rfl, rfl, rfl, rfl, rfl, rfl, ?_⟩
  intro always
  exact not_recovered_of_failsAfterStart oneStepBenchmark_noneOpen performs trivial
    (always [scriptedPrefill false] [] _ rfl rfl)

end LiteRTLM.Core.Tasks
