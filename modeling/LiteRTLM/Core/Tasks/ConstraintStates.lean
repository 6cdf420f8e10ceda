import Mathlib
import LiteRTLM.Core.Tasks.CompiledModelTasks
import LiteRTLM.Library.Machine

/-!
Contract: the constraint states of a decode turn on the two sampling paths.

Owns: what the constraint states of a turn should be, the condition under which a turn
computes them, and that the two paths then mask the same logits.

Does not own: what a single executor call does, and any constraint.

With external sampling the first step of a turn is told by a flag of the turn. With
internal sampling it is told by the decode flag of the executor, which only a prefill of
the static executor clears.
-/

namespace LiteRTLM.Core.Tasks

open LiteRTLM.Components
open LiteRTLM.Engine
open LiteRTLM.Executor
open LiteRTLM.Executor.CompiledModelExecutor
open LiteRTLM.Library

variable {Scalar ConstraintState Score : Type}

/-! ## Turns -/

/-- The executors of a compiled model. -/
inductive ExecutorKind where
  | static
  | dynamic
deriving DecidableEq, Repr

/-- The executor of a kind as the tasks see it. -/
def ExecutorKind.taskExecutor [Bot Scalar] (maxNumTokens : Nat) :
    ExecutorKind →
      TaskExecutor (CompiledModelExecutor Scalar) (CallEnvironment Scalar) Scalar ConstraintState
  | .static => staticExecutor maxNumTokens
  | .dynamic => dynamicExecutor maxNumTokens

/-- Prefill and decode turns on an executor of a kind. -/
def turnMachine [Bot Scalar] (ConstraintState Score : Type) (kind : ExecutorKind)
    (maxNumTokens : Nat) :
    Machine (CompiledModelExecutor Scalar) (TaskCall Scalar ConstraintState Score) where
  Initial := fun executor =>
    ∃ signatures outputBatchSize, executor = .initial signatures outputBatchSize
  step := fun executor call => call.after (kind.taskExecutor maxNumTokens) executor

def decodedTokens (isCustomSampling : Bool)
    (environment : StepEnvironment (CallEnvironment Scalar) Score) : List Int :=
  if isCustomSampling then
    sampledIds environment
  else
    match environment.executor.backend.sampleToIds with
    | .ok ids => ids.map validToken
    | .error _ => []

/-- The constraint decoder of a turn after these decoded tokens. -/
def TurnDecoder (constraint : Constraint ConstraintState) (numOutputCandidates : Nat)
    (tokens : List (List Int)) (decoder : ConstrainedDecoder ConstraintState) : Prop :=
  decoder.constraint = constraint ∧
    ConstrainedDecoder.advance constraint (List.replicate numOutputCandidates constraint.start)
      tokens = .ok decoder.constraintStates

/-- Each step of the turn masks its logits with the constraint states that follow from
the start and the tokens decoded earlier in the turn. -/
def FollowsTurn [Bot Scalar] (kind : ExecutorKind) (maxNumTokens : Nat)
    (executor : CompiledModelExecutor Scalar) (call : DecodeCall Scalar ConstraintState Score) :
    Prop :=
  ∀ constraint, call.constraint = some constraint →
    ∀ earlier environment later, call.environments = earlier ++ environment :: later →
      ∀ before stops after,
        Succeeds (decodeLoop (call.parameters (kind.taskExecutor maxNumTokens)) maxNumTokens
          earlier) (call.initialState executor) false before →
        Succeeds (decodeStep (call.parameters (kind.taskExecutor maxNumTokens)) maxNumTokens
          environment) before stops after →
        ∃ decoder masked,
          TurnDecoder constraint call.numOutputCandidates
            (earlier.map (decodedTokens call.isCustomSampling)) decoder ∧
          maskOutputLogits decoder environment.executor.outputLogits = .ok masked ∧
          after.runOneStep.constrainedDecoder = some decoder ∧
          after.runOneStep.sampledLogits = some masked

/-- The condition: a constrained decode turn samples externally, or finds the decode flag
of the executor clear. -/
def StartsTurn (executor : CompiledModelExecutor Scalar) :
    TaskCall Scalar ConstraintState Score → Prop
  | .prefill _ _ => True
  | .decode call =>
      call.constraint.isNone = true ∨ call.isCustomSampling = true ∨ executor.ranDecode = false

/-- Two turns with the same constraint mask the same logits alike wherever they decoded the
same tokens before. -/
def MasksAlike [Bot Scalar] (kind : ExecutorKind) (maxNumTokens : Nat)
    (executor : CompiledModelExecutor Scalar) (call : DecodeCall Scalar ConstraintState Score)
    (otherKind : ExecutorKind) (otherMaxNumTokens : Nat)
    (otherExecutor : CompiledModelExecutor Scalar)
    (otherCall : DecodeCall Scalar ConstraintState Score) : Prop :=
  ∀ constraint, call.constraint = some constraint → otherCall.constraint = some constraint →
    ∀ earlier environment later otherEarlier otherEnvironment otherLater,
      call.environments = earlier ++ environment :: later →
      otherCall.environments = otherEarlier ++ otherEnvironment :: otherLater →
      earlier.map (decodedTokens call.isCustomSampling) =
        otherEarlier.map (decodedTokens otherCall.isCustomSampling) →
      environment.executor.outputLogits = otherEnvironment.executor.outputLogits →
      ∀ before stops after otherBefore otherStops otherAfter,
        Succeeds (decodeLoop (call.parameters (kind.taskExecutor maxNumTokens)) maxNumTokens
          earlier) (call.initialState executor) false before →
        Succeeds (decodeStep (call.parameters (kind.taskExecutor maxNumTokens)) maxNumTokens
          environment) before stops after →
        Succeeds (decodeLoop (otherCall.parameters (otherKind.taskExecutor otherMaxNumTokens))
          otherMaxNumTokens otherEarlier) (otherCall.initialState otherExecutor) false
          otherBefore →
        Succeeds (decodeStep (otherCall.parameters (otherKind.taskExecutor otherMaxNumTokens))
          otherMaxNumTokens otherEnvironment) otherBefore otherStops otherAfter →
        after.runOneStep.sampledLogits = otherAfter.runOneStep.sampledLogits

/-! ## One step -/

section Step

variable [Bot Scalar] {kind : ExecutorKind} {maxNumTokens : Nat}
  {call : DecodeCall Scalar ConstraintState Score} {constraint : Constraint ConstraintState}
  {before after : DecodeState (CompiledModelExecutor Scalar) Scalar ConstraintState Score}
  {environment : StepEnvironment (CallEnvironment Scalar) Score}

/-- What a turn knows of its last step: the constraint states follow from the tokens
before it, and the next update will be given its tokens. -/
structure TurnFollowed (call : DecodeCall Scalar ConstraintState Score)
    (constraint : Constraint ConstraintState) (earlier : List (List Int)) (last : List Int)
    (state : DecodeState (CompiledModelExecutor Scalar) Scalar ConstraintState Score) :
    Prop where
  decoder : ∃ decoder, state.runOneStep.constrainedDecoder = some decoder ∧
    TurnDecoder constraint call.numOutputCandidates earlier decoder
  notFirst : state.runOneStep.isFirstStep = false
  external : call.isCustomSampling = true → state.decodedIds = some last
  internal : call.isCustomSampling = false →
    state.executor.ranDecode = true ∧ state.executor.pendingIds = last

/-- The executors share their decodes. -/
theorem succeeds_kind_decode {environment : CallEnvironment Scalar}
    {executor final : CompiledModelExecutor Scalar}
    {constraintDecoder : Option (ConstrainedDecoder ConstraintState)}
    {outcome : DecodeOutcome Scalar ConstraintState} :
    Succeeds ((kind.taskExecutor maxNumTokens).decode environment constraintDecoder)
        executor outcome final ↔
      Succeeds (decodeWithParams environment constraintDecoder) executor
        (outcome.outputTokens, outcome.constrainedDecoder, outcome.sampledLogits) final := by
  cases kind with
  | static => exact succeeds_compiledModel_decode
  | dynamic => exact succeeds_compiledModel_decode

theorem succeeds_kind_decodeLogits {environment : CallEnvironment Scalar}
    {executor final : CompiledModelExecutor Scalar} {decodedIds : List Int}
    {logits : Logits Scalar} :
    Succeeds ((kind.taskExecutor maxNumTokens :
          TaskExecutor _ _ Scalar ConstraintState).decodeLogits environment decodedIds)
        executor logits final ↔
      ∃ constrainedDecoder : Option (ConstrainedDecoder ConstraintState),
        Succeeds (decodeLogitsWithParams environment (some decodedIds) none) executor
          (constrainedDecoder, logits) final := by
  cases kind with
  | static => exact succeeds_compiledModel_decodeLogits
  | dynamic => exact succeeds_compiledModel_decodeLogits

/-- Logits that are masked in place are masked alike by the executor. -/
theorem maskOutputLogits_of_maskLogits {decoder : ConstrainedDecoder ConstraintState}
    {logits masked : Logits Scalar} (masks : decoder.maskLogits logits = .ok masked) :
    maskOutputLogits decoder logits = .ok masked := by
  have host : logits.hostMemory = true := by
    unfold ConstrainedDecoder.maskLogits at masks
    split at masks
    · cases masks
    · rename_i host
      exact not_not.mp host
  rw [maskOutputLogits, if_pos host]
  exact masks

structure StepMasked (isCustomSampling : Bool)
    (environment : StepEnvironment (CallEnvironment Scalar) Score)
    (decoder : ConstrainedDecoder ConstraintState)
    (before after : DecodeState (CompiledModelExecutor Scalar) Scalar ConstraintState Score)
    (updated : ConstrainedDecoder ConstraintState) : Prop where
  holds : after.runOneStep.constrainedDecoder = some updated
  masked : ∃ masked, maskOutputLogits updated environment.executor.outputLogits = .ok masked ∧
    after.runOneStep.sampledLogits = some masked
  notFirst : after.runOneStep.isFirstStep = false
  external : isCustomSampling = true →
    after.decodedIds = some (decodedTokens isCustomSampling environment) ∧
    if before.runOneStep.isFirstStep then updated = decoder
    else ∃ ids, before.decodedIds = some ids ∧ decoder.updateConstraintState ids = .ok updated
  internal : isCustomSampling = false →
    (after.executor.ranDecode = true ∧
      after.executor.pendingIds = decodedTokens isCustomSampling environment) ∧
    if before.executor.ranDecode then
      decoder.updateConstraintState before.executor.pendingIds = .ok updated
    else updated = decoder

omit [Bot Scalar] in
/-- The update of the constraint states by a step with external sampling. -/
theorem updateConstraintState_decoder
    {runOneStep stepped : DecodeOneStep Scalar ConstraintState Score} {decodedIds : List Int}
    {decoder : ConstrainedDecoder ConstraintState}
    (found : runOneStep.constrainedDecoder = some decoder)
    (ok : runOneStep.updateConstraintState decodedIds = .ok stepped) :
    ∃ updated, stepped.constrainedDecoder = some updated ∧
      if runOneStep.isFirstStep then updated = decoder
      else decoder.updateConstraintState decodedIds = .ok updated := by
  simp only [DecodeOneStep.updateConstraintState, found] at ok
  split at ok
  · rename_i first
    cases ok
    exact ⟨decoder, found, by rw [if_pos first]⟩
  · rename_i notFirst
    simp only [except_bind_eq_ok, except_pure_eq_ok] at ok
    obtain ⟨updated, updates, rfl⟩ := ok
    exact ⟨updated, rfl, by rw [if_neg notFirst]; exact updates⟩

omit [Bot Scalar] in
/-- Processing the sampled tokens keeps the constraint decoder and the sampled logits. -/
theorem PostProcessed.frame {tokenizer : Tokenizer} {nextTokens : List Int}
    {sampled processed : DecodeOneStep Scalar ConstraintState Score} {allDone : Bool}
    (processes : PostProcessed tokenizer nextTokens sampled processed allDone) :
    processed.constrainedDecoder = sampled.constrainedDecoder ∧
      processed.sampledLogits = sampled.sampledLogits ∧ processed.isFirstStep = false := by
  rw [processes.rest]
  exact ⟨rfl, rfl, rfl⟩

theorem decodeStep_external_masked {decoder : ConstrainedDecoder ConstraintState} {stops : Bool}
    (external : call.isCustomSampling = true)
    (found : before.runOneStep.constrainedDecoder = some decoder)
    (succeeds : Succeeds (decodeStep (call.parameters (kind.taskExecutor maxNumTokens))
      maxNumTokens environment) before stops after) :
    ∃ updated, StepMasked call.isCustomSampling environment decoder before after updated := by
  obtain ⟨-, allDone, between, runs, rfl, -⟩ := succeeds_decodeStep.mp succeeds
  obtain ⟨nextTokens, sampled, path | path, runOneStep, processed, rfl⟩ := succeeds_run.mp runs
  · obtain ⟨decodedIds, stepped, executor, outputLogits, sampledLogits, scores, given, updates,
      decodes, masks, samples, rfl⟩ := path.step
    obtain ⟨sameDecoder, sameLogits, notFirst⟩ := (postProcess_ok processed).frame
    obtain ⟨updated, holds, updatesTo⟩ := updateConstraintState_decoder found updates
    have modelLogits : outputLogits = environment.executor.outputLogits := by
      obtain ⟨_, decodes⟩ := succeeds_kind_decodeLogits.mp decodes
      obtain ⟨_, -, constrains, -⟩ := (decodeLogitsWithParams_constrained decodes).constrained
      exact (Prod.mk.inj (Except.ok.inj constrains)).2.symm
    have tokens : decodedTokens call.isCustomSampling environment = nextTokens := by
      simp [decodedTokens, external, sampledIds, samples]
    have updatedMasks : updated.maskLogits outputLogits = .ok sampledLogits := by
      simpa [DecodeOneStep.maskLogits, holds] using masks
    refine ⟨updated, ?_⟩
    constructor
    · exact sameDecoder.trans holds
    · exact ⟨sampledLogits, modelLogits ▸ maskOutputLogits_of_maskLogits updatedMasks,
        sameLogits⟩
    · exact notFirst
    · intro _
      rw [tokens]
      refine ⟨rfl, ?_⟩
      cases first : before.runOneStep.isFirstStep with
      | true =>
          rw [first] at updatesTo
          exact updatesTo
      | false =>
          rw [first] at updatesTo
          exact ⟨decodedIds, given, updatesTo⟩
    · intro isInternal
      exact absurd (external.symm.trans isInternal) Bool.noConfusion
  · exact absurd (external.symm.trans path.internal) Bool.noConfusion

theorem decodeStep_internal_masked {decoder : ConstrainedDecoder ConstraintState} {stops : Bool}
    (internal : call.isCustomSampling = false)
    (found : before.runOneStep.constrainedDecoder = some decoder)
    (succeeds : Succeeds (decodeStep (call.parameters (kind.taskExecutor maxNumTokens))
      maxNumTokens environment) before stops after) :
    ∃ updated, StepMasked call.isCustomSampling environment decoder before after updated := by
  obtain ⟨-, allDone, between, runs, rfl, -⟩ := succeeds_decodeStep.mp succeeds
  obtain ⟨nextTokens, sampled, path | path, runOneStep, processed, rfl⟩ := succeeds_run.mp runs
  · exact absurd (internal.symm.trans path.external) Bool.noConfusion
  · obtain ⟨outcome, executor, decodes, rfl, rfl⟩ := path.step
    obtain ⟨sameDecoder, sameLogits, notFirst⟩ := (postProcess_ok processed).frame
    have decodes := succeeds_kind_decode.mp decodes
    rw [found] at decodes
    obtain ⟨ran, pending, sampledIds, samples, tokens⟩ := decodeWithParams_constrained decodes
    obtain ⟨token, nonempty, constrains, ids⟩ := ran.constrained
    obtain ⟨updated, holds, updates, masks⟩ := constrainLogitsIf_some nonempty constrains
    have decoded : decodedTokens call.isCustomSampling environment = outcome.outputTokens := by
      simp [decodedTokens, internal, samples, tokens]
    refine ⟨updated, ?_⟩
    constructor
    · exact sameDecoder.trans holds
    · exact ⟨outcome.sampledLogits, masks, sameLogits⟩
    · exact notFirst
    · intro isExternal
      exact absurd (internal.symm.trans isExternal) Bool.false_ne_true
    · intro _
      rw [decoded]
      refine ⟨⟨ran.ranDecode, pending⟩, ?_⟩
      cases flag : before.executor.ranDecode with
      | true =>
          rw [flag, if_pos rfl] at updates
          rw [if_pos rfl, ← ids rfl flag]
          exact updates
      | false =>
          rw [flag, if_neg Bool.false_ne_true] at updates
          rw [if_neg Bool.false_ne_true]
          exact updates

theorem decodeStep_masked {decoder : ConstrainedDecoder ConstraintState} {stops : Bool}
    (found : before.runOneStep.constrainedDecoder = some decoder)
    (succeeds : Succeeds (decodeStep (call.parameters (kind.taskExecutor maxNumTokens))
      maxNumTokens environment) before stops after) :
    ∃ updated, StepMasked call.isCustomSampling environment decoder before after updated := by
  cases sampling : call.isCustomSampling with
  | true => exact sampling ▸ decodeStep_external_masked sampling found succeeds
  | false => exact sampling ▸ decodeStep_internal_masked sampling found succeeds

/-! ## A turn -/

omit [Bot Scalar] in
/-- One more update extends the tokens of the turn. -/
theorem TurnDecoder.update {numOutputCandidates : Nat} {tokens : List (List Int)}
    {last : List Int} {decoder updated : ConstrainedDecoder ConstraintState}
    (follows : TurnDecoder constraint numOutputCandidates tokens decoder)
    (updates : decoder.updateConstraintState last = .ok updated) :
    TurnDecoder constraint numOutputCandidates (tokens ++ [last]) updated := by
  obtain ⟨sameConstraint, reached⟩ := follows
  obtain ⟨states, moves, rfl⟩ := ConstrainedDecoder.updateConstraintState_ok updates
  rw [sameConstraint] at moves
  exact ⟨sameConstraint, ConstrainedDecoder.advance_concat reached moves⟩

omit [Bot Scalar] in
/-- A step whose decoder follows the turn leaves what the next step needs. -/
theorem StepMasked.followed {decoder updated : ConstrainedDecoder ConstraintState}
    {tokens : List (List Int)} [Bot Scalar]
    (masked : StepMasked call.isCustomSampling environment decoder before after updated)
    (follows : TurnDecoder constraint call.numOutputCandidates tokens updated) :
    TurnFollowed call constraint tokens (decodedTokens call.isCustomSampling environment) after where
  decoder := ⟨updated, masked.holds, follows⟩
  notFirst := masked.notFirst
  external := fun external => (masked.external external).1
  internal := fun internal => (masked.internal internal).1

/-- The first step of a turn uses the start states. -/
theorem firstStep_follows {executor : CompiledModelExecutor Scalar} {stops : Bool}
    (given : call.constraint = some constraint) (starts : StartsTurn executor (.decode call))
    (succeeds : Succeeds (decodeStep (call.parameters (kind.taskExecutor maxNumTokens))
      maxNumTokens environment) (call.initialState executor) stops after) :
    ∃ updated, StepMasked call.isCustomSampling environment
        (.create constraint call.numOutputCandidates) (call.initialState executor) after updated ∧
      TurnDecoder constraint call.numOutputCandidates [] updated := by
  have found : (call.initialState executor).runOneStep.constrainedDecoder =
      some (.create constraint call.numOutputCandidates) := by
    show call.constraint.map _ = _
    rw [given]
    rfl
  obtain ⟨updated, masked⟩ := decodeStep_masked found succeeds
  refine ⟨updated, masked, ?_⟩
  have unchanged : updated = .create constraint call.numOutputCandidates := by
    cases sampling : call.isCustomSampling with
    | true => exact (masked.external sampling).2
    | false =>
        have notRan : executor.ranDecode = false := by
          rcases starts with unconstrained | external | notRan
          · rw [given] at unconstrained
            cases unconstrained
          · exact absurd (sampling.symm.trans external) Bool.false_ne_true
          · exact notRan
        have updates := (masked.internal sampling).2
        rw [show (call.initialState executor).executor.ranDecode = false from notRan,
          if_neg Bool.false_ne_true] at updates
        exact updates
  rw [unchanged]
  exact ⟨rfl, rfl⟩

/-- A later step uses the states after one more token. -/
theorem nextStep_follows {earlier : List (List Int)} {last : List Int} {stops : Bool}
    (followed : TurnFollowed call constraint earlier last before)
    (succeeds : Succeeds (decodeStep (call.parameters (kind.taskExecutor maxNumTokens))
      maxNumTokens environment) before stops after) :
    ∃ decoder updated, StepMasked call.isCustomSampling environment decoder before after updated ∧
      TurnDecoder constraint call.numOutputCandidates (earlier ++ [last]) updated := by
  obtain ⟨decoder, found, follows⟩ := followed.decoder
  obtain ⟨updated, masked⟩ := decodeStep_masked found succeeds
  refine ⟨decoder, updated, masked, follows.update ?_⟩
  cases sampling : call.isCustomSampling with
  | true =>
      have updates := (masked.external sampling).2
      rw [followed.notFirst, if_neg Bool.false_ne_true, followed.external sampling] at updates
      obtain ⟨ids, same, updates⟩ := updates
      rw [Option.some.inj same]
      exact updates
  | false =>
      have updates := (masked.internal sampling).2
      obtain ⟨ran, pending⟩ := followed.internal sampling
      rw [ran, if_pos rfl, pending] at updates
      exact updates

/-- The loop keeps following the turn. -/
theorem decodeLoop_followed
    {environments : List (StepEnvironment (CallEnvironment Scalar) Score)}
    {earlier : List (List Int)} {last : List Int}
    (followed : TurnFollowed call constraint earlier last before)
    (succeeds : Succeeds (decodeLoop (call.parameters (kind.taskExecutor maxNumTokens))
      maxNumTokens environments) before false after) :
    ∃ front final, front ++ [final] =
        (earlier ++ [last]) ++ environments.map (decodedTokens call.isCustomSampling) ∧
      TurnFollowed call constraint front final after := by
  induction environments generalizing before earlier last with
  | nil =>
      rw [succeeds_decodeLoop_nil] at succeeds
      rw [succeeds.2]
      exact ⟨earlier, last, by simp, followed⟩
  | cons environment environments hypothesis =>
      obtain ⟨stops, between, step, ⟨-, ended, -⟩ | ⟨rfl, rest⟩⟩ :=
        succeeds_decodeLoop_cons.mp succeeds
      · cases ended
      · obtain ⟨decoder, updated, masked, follows⟩ := nextStep_follows followed step
        obtain ⟨front, final, split, continued⟩ := hypothesis (masked.followed follows) rest
        exact ⟨front, final, by simpa using split, continued⟩

/-- A turn that starts properly follows its own tokens. -/
theorem followsTurn_of_starts {executor : CompiledModelExecutor Scalar}
    (starts : StartsTurn executor (.decode call)) :
    FollowsTurn kind maxNumTokens executor call := by
  intro constraint given earlier environment later split before stops after loops step
  cases earlier with
  | nil =>
      rw [succeeds_decodeLoop_nil] at loops
      obtain ⟨-, rfl⟩ := loops
      obtain ⟨updated, masked, follows⟩ := firstStep_follows given starts step
      obtain ⟨logits, masks, sampled⟩ := masked.masked
      exact ⟨updated, logits, follows, masks, masked.holds, sampled⟩
  | cons first rest =>
      obtain ⟨_, between, firstStep, ⟨-, ended, -⟩ | ⟨rfl, loops⟩⟩ :=
        succeeds_decodeLoop_cons.mp loops
      · cases ended
      · obtain ⟨_, firstMasked, firstFollows⟩ := firstStep_follows given starts firstStep
        obtain ⟨front, final, tokens, followed⟩ :=
          decodeLoop_followed (firstMasked.followed firstFollows) loops
        obtain ⟨decoder, updated, masked, follows⟩ := nextStep_follows followed step
        obtain ⟨logits, masks, sampled⟩ := masked.masked
        rw [tokens] at follows
        exact ⟨updated, logits, by simpa using follows, masks, masked.holds, sampled⟩

/-- Turns that follow their own tokens mask alike. -/
theorem masksAlike_of_follows {executor otherExecutor : CompiledModelExecutor Scalar}
    {otherCall : DecodeCall Scalar ConstraintState Score} {otherKind : ExecutorKind}
    {otherMaxNumTokens : Nat} (follows : FollowsTurn kind maxNumTokens executor call)
    (otherFollows : FollowsTurn otherKind otherMaxNumTokens otherExecutor otherCall)
    (sameCandidates : call.numOutputCandidates = otherCall.numOutputCandidates) :
    MasksAlike kind maxNumTokens executor call otherKind otherMaxNumTokens otherExecutor
      otherCall := by
  intro constraint given otherGiven earlier environment later otherEarlier otherEnvironment
    otherLater split otherSplit sameTokens sameLogits before stops after otherBefore otherStops
    otherAfter loops step otherLoops otherStep
  obtain ⟨decoder, masked, ⟨sameConstraint, states⟩, masks, -, sampled⟩ :=
    follows constraint given earlier environment later split before stops after loops step
  obtain ⟨otherDecoder, otherMasked, ⟨otherConstraint, otherStates⟩, otherMasks, -,
    otherSampled⟩ :=
    otherFollows constraint otherGiven otherEarlier otherEnvironment otherLater otherSplit
      otherBefore otherStops otherAfter otherLoops otherStep
  have sameStates : decoder.constraintStates = otherDecoder.constraintStates := by
    rw [sameCandidates, sameTokens, otherStates] at states
    exact (Except.ok.inj states).symm
  have sameDecoder : decoder = otherDecoder := by
    obtain ⟨_, _⟩ := decoder
    obtain ⟨_, _⟩ := otherDecoder
    congr
    exact sameConstraint.trans otherConstraint.symm
  rw [sameDecoder, sameLogits, otherMasks] at masks
  rw [sampled, otherSampled, Except.ok.inj masks]

/-! ## Runs -/

/-- **The constraint states follow the turn.** In every run of prefill and decode turns
whose constrained decode turns sample externally or find the decode flag clear, every step
of every decode turn masks its logits with the states reached from the start by the tokens
decoded earlier in that turn. Such a turn masks the same logits as any other such turn with
the same constraint and tokens, on either path and either executor. -/
theorem constraint_follows_turn {start executor : CompiledModelExecutor Scalar}
    {calls earlier later : List (TaskCall Scalar ConstraintState Score)}
    (guarded : (turnMachine ConstraintState Score kind maxNumTokens).GuardedAlong StartsTurn
      start calls)
    (split : calls = earlier ++ .decode call :: later)
    (executed : (turnMachine ConstraintState Score kind maxNumTokens).execute start earlier =
      some executor) :
    FollowsTurn kind maxNumTokens executor call ∧
      ∀ otherKind otherMaxNumTokens otherExecutor
        (otherCall : DecodeCall Scalar ConstraintState Score),
        StartsTurn otherExecutor (.decode otherCall) →
        otherCall.numOutputCandidates = call.numOutputCandidates →
        MasksAlike kind maxNumTokens executor call otherKind otherMaxNumTokens otherExecutor
          otherCall := by
  rw [split] at guarded
  have follows : FollowsTurn kind maxNumTokens executor call :=
    followsTurn_of_starts (guarded.at_split executed)
  exact ⟨follows, fun _ _ _ _ otherStarts sameCandidates =>
    masksAlike_of_follows follows (followsTurn_of_starts otherStarts) sameCandidates.symm⟩

end Step

/-! ## Two turns -/

instance (executor : CompiledModelExecutor Scalar)
    (call : TaskCall Scalar ConstraintState Score) : Decidable (StartsTurn executor call) :=
  match call with
  | .prefill _ _ => isTrue trivial
  | .decode _ => inferInstanceAs (Decidable (_ = true ∨ _ = true ∨ _ = false))

/-- A constraint whose states are the tokens it was given. -/
def recordTokens : Constraint (List Int) where
  start := []
  isEnded := fun _ => false
  getVocabularySize := 10
  computeNext := fun state token => .ok (state ++ [token])
  computeBitmap := fun _ => .ok fun _ => true

def prefillTurn (ids : List Int) : TaskCall Unit (List Int) Nat :=
  .prefill (workingEnvironment [ids.length] []) ⟨1, ids⟩

/-- A constrained decode turn of one candidate that stops at token 9. -/
def decodeTurn (isCustomSampling : Bool) (ids : List Int) : DecodeCall Unit (List Int) Nat where
  tokenizer := ⟨fun _ => .ok []⟩
  arithmetic := ⟨0, (· + ·), (· / ·), 0⟩
  isStreaming := false
  isCustomSampling := isCustomSampling
  benchmarkDecodeTokenCount := 0
  stopTokenDetector := (StopTokenDetector.ofStopToken 9).resetBatch 1
  numOutputCandidates := 1
  constraint := some recordTokens
  decodedIds := some [3]
  environments := ids.map fun id => ⟨workingEnvironment [] [id], .ok ([id], [0]), false⟩
  finalEnvironment := workingEnvironment [1] []

/-- The states that the first step of a turn masks with. -/
def firstStates (kind : ExecutorKind) (executor : CompiledModelExecutor Unit)
    (call : DecodeCall Unit (List Int) Nat) : Option (List (List Int)) :=
  match call.environments with
  | [] => none
  | environment :: _ =>
      (stateOnSuccess (decodeStep (call.parameters (kind.taskExecutor 100)) 100 environment)
        (call.initialState executor)).bind fun after =>
          after.runOneStep.constrainedDecoder.map ConstrainedDecoder.constraintStates

/-- A turn whose first step masks with other states than the start does not follow its
tokens. -/
theorem not_followsTurn {kind : ExecutorKind} {executor : CompiledModelExecutor Unit}
    {call : DecodeCall Unit (List Int) Nat} {states : List (List Int)}
    (constrained : call.constraint = some recordTokens)
    (single : call.numOutputCandidates = 1)
    (first : firstStates kind executor call = some states) (moved : states ≠ [[]]) :
    ¬FollowsTurn kind 100 executor call := by
  intro follows
  unfold firstStates at first
  split at first
  · cases first
  · rename_i environment later environments
    obtain ⟨after, steps, held⟩ := Option.bind_eq_some_iff.mp first
    obtain ⟨stops, step⟩ := stateOnSuccess_eq_some.mp steps
    obtain ⟨decoder, masked, ⟨-, start⟩, -, holds, -⟩ :=
      follows recordTokens constrained [] environment later environments _ _ _
        (succeeds_decodeLoop_nil.mpr ⟨rfl, rfl⟩) step
    rw [holds, Option.map_some, Option.some.injEq] at held
    rw [single] at start
    exact moved (held.symm.trans (Except.ok.inj start).symm)

/-- On the static executor, a turn with internal sampling and a turn with external sampling
after a prefill follow their tokens. -/
theorem constraint_follows_twoTurns :
    ∃ executor, (turnMachine (List Int) Nat .static 100).execute (tokenExecutor 1)
        [prefillTurn [1, 2], .decode (decodeTurn false [7, 9]), prefillTurn [3]] =
          some executor ∧
      FollowsTurn .static 100 executor (decodeTurn true [7, 9]) := by
  have runs : ((turnMachine (List Int) Nat .static 100).execute (tokenExecutor 1)
      [prefillTurn [1, 2], .decode (decodeTurn false [7, 9]), prefillTurn [3]]).isSome = true := by
    decide +kernel
  obtain ⟨executor, executed⟩ := Option.isSome_iff_exists.mp runs
  have guarded : (turnMachine (List Int) Nat .static 100).GuardedAlong StartsTurn (tokenExecutor 1)
      ([prefillTurn [1, 2], .decode (decodeTurn false [7, 9]), prefillTurn [3]] ++
        .decode (decodeTurn true [7, 9]) :: []) := by decide +kernel
  exact ⟨executor, executed, (constraint_follows_turn guarded rfl executed).1⟩

/-- With internal sampling, a decode turn directly after a decode turn of the static executor
starts from a token of the earlier turn, and any second turn of the dynamic executor starts
from a token of its prefill. -/
theorem constraint_follows_earlier_tokens :
    (∃ executor, (turnMachine (List Int) Nat .static 100).execute (tokenExecutor 1)
        [prefillTurn [1, 2], .decode (decodeTurn false [7, 9])] = some executor ∧
      ¬FollowsTurn .static 100 executor (decodeTurn false [8, 9])) ∧
    (∃ executor, (turnMachine (List Int) Nat .dynamic 100).execute (tokenExecutor 1)
        [prefillTurn [1, 2], .decode (decodeTurn false [7, 9]), prefillTurn [4]] =
          some executor ∧
      ¬FollowsTurn .dynamic 100 executor (decodeTurn false [8, 9])) := by
  constructor
  · have runs : ((turnMachine (List Int) Nat .static 100).execute (tokenExecutor 1)
        [prefillTurn [1, 2], .decode (decodeTurn false [7, 9])]).bind
          (fun executor => firstStates .static executor (decodeTurn false [8, 9])) =
        some [[9]] := by decide +kernel
    obtain ⟨executor, executed, first⟩ := Option.bind_eq_some_iff.mp runs
    exact ⟨executor, executed, not_followsTurn rfl rfl first (by decide)⟩
  · have runs : ((turnMachine (List Int) Nat .dynamic 100).execute (tokenExecutor 1)
        [prefillTurn [1, 2], .decode (decodeTurn false [7, 9]), prefillTurn [4]]).bind
          (fun executor => firstStates .dynamic executor (decodeTurn false [8, 9])) =
        some [[4]] := by decide +kernel
    obtain ⟨executor, executed, first⟩ := Option.bind_eq_some_iff.mp runs
    exact ⟨executor, executed, not_followsTurn rfl rfl first (by decide)⟩

end LiteRTLM.Core.Tasks
