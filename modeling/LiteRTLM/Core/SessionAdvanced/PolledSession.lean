import LiteRTLM.Core.SessionAdvanced.Session
import LiteRTLM.Core.Tasks.Tasks

/-!
Contract: a `SessionAdvanced` whose decodes run step by step, so that `CancelProcess` and
the calls of the next turn may come between any two of their steps.

A step of a decode begins with its poll of `cancelled_`: the poll that finds the flag
clear is the start of a `DecodeOneStep::Run`. What the steps compute is `Tasks::Decode`
on the model of that function.

Owns: where the running decode stands, the log of what happens to decodes and of the
calls of `CancelProcess`, and the machine over the session's own.

Does not own: the session's calls and the manager below it. The executor a decode starts
from, the environments of its steps and the status of its benchmark bookkeeping are
arguments of the actions.
-/

namespace LiteRTLM.Core.SessionAdvanced

open LiteRTLM.Components LiteRTLM.Engine LiteRTLM.Library LiteRTLM.Framework
open LiteRTLM.Framework.ExecutionManager LiteRTLM.Core.Tasks

/-- What the task function of `AddDecodeTask` has prepared when it enters the loop. -/
structure DecodeSetup (Executor ConstraintState : Type) where
  executor : Executor
  stopTokenDetector : StopTokenDetector
  numOutputCandidates : Nat
  constraint : Option (Constraint ConstraintState)
  decodedIds : Option (List Int)

/-- Where the running decode stands. A decode that has ended reached its stop condition
or left the loop before. -/
inductive DecodeProgress (Executor Scalar ConstraintState Score : Type) where
  | settingUp
  | atPoll (maxNumTokens : Nat) (state : DecodeState Executor Scalar ConstraintState Score)
  | inStep (maxNumTokens : Nat) (state : DecodeState Executor Scalar ConstraintState Score)
  | ended (outcome : TaskOutcome Score) (reachedStop : Bool)

/-- What happens to the decodes of a session, and when it is cancelled. -/
inductive DecodeEvent where
  /-- `AddDecodeTask` has returned OK. -/
  | created (taskId : TaskId)
  | cancelProcess
  /-- A `DecodeOneStep::Run` of the task starts. -/
  | runStarted (taskId : TaskId)
  /-- `Tasks::Decode` has returned for the task. -/
  | returned (taskId : TaskId) (status : StatusOr Unit) (reachedStop : Bool)
deriving DecidableEq

/-- The status with which `Decode` returns after a poll that found the flag set. -/
def processCancelled : Status :=
  .cancelledError "Process cancelled."

namespace DecodeProgress

variable {Executor Environment Scalar ConstraintState Score : Type}
variable (parameters : DecodeParameters Executor Environment Scalar ConstraintState Score)

/-- The body up to the loop: the preparations may fail. -/
def enter : StatusOr (DecodeSetup Executor ConstraintState) →
    DecodeProgress Executor Scalar ConstraintState Score
  | .error status => .ended (.error status) false
  | .ok setup =>
      .atPoll (tryGetMaxNumTokens parameters.taskExecutor setup.executor)
        (.initial parameters.arithmetic setup.executor setup.stopTokenDetector
          setup.numOutputCandidates setup.constraint setup.decodedIds)

/-- The poll at the head of the loop. With a benchmark the cancelled turn is ended first;
`turnEnd` is what that returns. -/
def poll (cancelled : Bool) (turnEnd : StatusOr Unit) (maxNumTokens : Nat)
    (state : DecodeState Executor Scalar ConstraintState Score) :
    DecodeProgress Executor Scalar ConstraintState Score :=
  if cancelled then
    match turnEnd with
    | .error status => .ended (.error status) false
    | .ok () => .ended (.error processCancelled) false
  else
    .inStep maxNumTokens state

/-- The final responses are in one of the two states a body may return. -/
theorem finalResponses_taskState (maxNumTokens : Nat)
    (state : DecodeState Executor Scalar ConstraintState Score) :
    (finalResponses parameters maxNumTokens state).taskState = .done ∨
      (finalResponses parameters maxNumTokens state).taskState = .maxNumTokensReached := by
  unfold finalResponses Responses.ofState
  split_ifs <;> simp

/-- What follows the loop: the benchmark's turn ends, and the last ids are prefilled. -/
def finish (turnEnd : StatusOr Unit) (finalEnvironment : Environment) (maxNumTokens : Nat)
    (state : DecodeState Executor Scalar ConstraintState Score) : TaskOutcome Score :=
  match turnEnd with
  | .error status => .error status
  | .ok () =>
      match finalPrefill parameters finalEnvironment state with
      | .error status _ => .error status
      | .ok _ final =>
          .ok ⟨finalResponses parameters maxNumTokens final,
            finalResponses_taskState parameters maxNumTokens final⟩

variable [Bot Scalar]

/-- The rest of a step after its poll. -/
def endStep (environment : StepEnvironment Environment Score) (turnEnd : StatusOr Unit)
    (finalEnvironment : Environment) (maxNumTokens : Nat)
    (state : DecodeState Executor Scalar ConstraintState Score) :
    DecodeProgress Executor Scalar ConstraintState Score :=
  match decodeStep parameters maxNumTokens { environment with cancelled := false } state with
  | .error status _ => .ended (.error status) false
  | .ok false next => .atPoll maxNumTokens next
  | .ok true next => .ended (finish parameters turnEnd finalEnvironment maxNumTokens next) true

/-- The events that go with a new place of the running decode. -/
def events (taskId : TaskId) :
    DecodeProgress Executor Scalar ConstraintState Score → List DecodeEvent
  | .settingUp => []
  | .atPoll _ _ => []
  | .inStep _ _ => [.runStarted taskId]
  | .ended outcome reachedStop =>
      [.returned taskId (responsesStatus outcome.responses) reachedStop]

/-! ## The body and `Tasks::Decode` -/

/-- The polls and the steps of a body on its environments, whose `cancelled` is what the
polls read. -/
def drive (finalEnvironment : Environment) :
    List (StepEnvironment Environment Score) →
      DecodeProgress Executor Scalar ConstraintState Score →
        DecodeProgress Executor Scalar ConstraintState Score
  | environment :: environments, .atPoll maxNumTokens state =>
      match poll environment.cancelled (.ok ()) maxNumTokens state with
      | .inStep maxNumTokens state =>
          drive finalEnvironment environments
            (endStep parameters environment (.ok ()) finalEnvironment maxNumTokens state)
      | progress => progress
  | _, progress => progress

/-- A place a body may be at when `Decode` has this result. -/
def Matches (maxNumTokens : Nat)
    (progress : DecodeProgress Executor Scalar ConstraintState Score) :
    EStateM.Result Status (DecodeState Executor Scalar ConstraintState Score)
      (Option (Responses Score)) → Prop
  | .error status _ => ∃ reachedStop, progress = .ended (.error status) reachedStop
  | .ok none state => progress = .atPoll maxNumTokens state
  | .ok (some responses) _ => ∃ isFinal, progress = .ended (.ok ⟨responses, isFinal⟩) true

/-- `Decode` from the head of its loop. -/
def decodeRest (environments : List (StepEnvironment Environment Score))
    (finalEnvironment : Environment) (maxNumTokens : Nat) :
    DecodeM Executor Scalar ConstraintState Score (Option (Responses Score)) := do
  let ended ← decodeLoop parameters maxNumTokens environments
  if ended then do
    finalPrefill parameters finalEnvironment
    return some (finalResponses parameters maxNumTokens (← get))
  else
    return none

/-- The first step of the loop, and what it leaves to do. -/
theorem decodeRest_cons (environment : StepEnvironment Environment Score)
    (environments : List (StepEnvironment Environment Score)) (finalEnvironment : Environment)
    (maxNumTokens : Nat) (state : DecodeState Executor Scalar ConstraintState Score) :
    decodeRest parameters (environment :: environments) finalEnvironment maxNumTokens state =
      match decodeStep parameters maxNumTokens environment state with
      | .error status after => .error status after
      | .ok false next => decodeRest parameters environments finalEnvironment maxNumTokens next
      | .ok true next =>
          match finalPrefill parameters finalEnvironment next with
          | .error status after => .error status after
          | .ok _ final => .ok (some (finalResponses parameters maxNumTokens final)) final := by
  simp only [decodeRest, decodeLoop, bind, EStateM.bind]
  cases decodeStep parameters maxNumTokens environment state with
  | error status after => rfl
  | ok stops next =>
      cases stops with
      | false => rfl
      | true =>
          simp only [if_true, pure, EStateM.pure, EStateM.bind]
          cases finalPrefill parameters finalEnvironment next <;> rfl

/-- A poll that finds the flag set is the first step of `Decode`. -/
theorem decodeStep_of_cancelled {environment : StepEnvironment Environment Score}
    (cancelled : environment.cancelled = true) (maxNumTokens : Nat)
    (state : DecodeState Executor Scalar ConstraintState Score) :
    decodeStep parameters maxNumTokens environment state = .error processCancelled state := by
  unfold decodeStep
  rw [if_pos cancelled]
  rfl

/-- A body driven through its polls and steps computes `Tasks::Decode`. -/
theorem drive_matches (environments : List (StepEnvironment Environment Score))
    (finalEnvironment : Environment) (maxNumTokens : Nat)
    (state : DecodeState Executor Scalar ConstraintState Score) :
    Matches maxNumTokens
      (drive parameters finalEnvironment environments (.atPoll maxNumTokens state))
      (decodeRest parameters environments finalEnvironment maxNumTokens state) := by
  induction environments generalizing state with
  | nil => rfl
  | cons environment environments inductionHypothesis =>
      rw [decodeRest_cons, drive]
      cases polled : environment.cancelled with
      | true =>
          rw [decodeStep_of_cancelled parameters polled]
          exact ⟨false, rfl⟩
      | false =>
          have same : { environment with cancelled := false } = environment := by
            rw [← polled]
          simp only [poll, Bool.false_eq_true, if_false, endStep, same]
          cases decodeStep parameters maxNumTokens environment state with
          | error status after =>
              unfold drive
              cases environments <;> exact ⟨false, rfl⟩
          | ok stops next =>
              cases stops with
              | false => exact inductionHypothesis next
              | true =>
                  simp only [finish]
                  cases finalPrefill parameters finalEnvironment next with
                  | error status after =>
                      unfold drive
                      cases environments <;> exact ⟨true, rfl⟩
                  | ok _ final =>
                      unfold drive
                      cases environments <;>
                        exact ⟨finalResponses_taskState parameters maxNumTokens final, rfl⟩

/-- A body driven from its entry computes the model of `Tasks::Decode`. -/
theorem drive_decode (setup : DecodeSetup Executor ConstraintState)
    (environments : List (StepEnvironment Environment Score)) (finalEnvironment : Environment) :
    Matches (tryGetMaxNumTokens parameters.taskExecutor setup.executor)
      (drive parameters finalEnvironment environments (enter parameters (.ok setup)))
      (decode parameters setup.stopTokenDetector setup.numOutputCandidates setup.constraint
        setup.decodedIds environments finalEnvironment setup.executor) :=
  drive_matches parameters environments finalEnvironment _ _

end DecodeProgress

/-! ## The machine -/

/-- A session, the running decode, and the log, newest first. -/
structure PolledSession (Input Executor Scalar ConstraintState Score : Type) where
  session : Session Input
  decode : DecodeProgress Executor Scalar ConstraintState Score
  log : List DecodeEvent

inductive PolledAction (Input Executor Environment ConstraintState Score : Type) where
  /-- A step of the calling thread, of the thread that cancels, or of the worker outside
  the body of a decode. -/
  | session (action : SessionAction Input Score)
  /-- The running decode comes to its loop. -/
  | enter (setup : StatusOr (DecodeSetup Executor ConstraintState))
  /-- It polls the flag, and starts a step if the flag is clear. -/
  | poll (turnEnd : StatusOr Unit)
  /-- Its step ends. -/
  | endStep (environment : StepEnvironment Environment Score) (turnEnd : StatusOr Unit)
      (finalEnvironment : Environment)
  /-- It has returned and the worker runs `FinishTask`. -/
  | finishDecode (order failOrder : HashOrder) (workerThread : StatusOr Unit)

namespace PolledSession

variable {Input Executor Environment Scalar ConstraintState Score : Type}

def initial : PolledSession Input Executor Scalar ConstraintState Score where
  session := .initial
  decode := .settingUp
  log := []

/-- The steps of the session that leave the running decode where it is: its callback is
invoked within a step, and it returns by `finishDecode` only. -/
def Allows (polled : PolledSession Input Executor Scalar ConstraintState Score) :
    SessionAction Input Score → Bool
  | .notify _ _ =>
      match polled.decode with
      | .inStep _ _ => true
      | _ => false
  | .finishTask _ _ _ (.decode _) => false
  | _ => true

/-- A started task has its body before it. -/
def decodeAfter (polled : PolledSession Input Executor Scalar ConstraintState Score) :
    SessionAction Input Score → DecodeProgress Executor Scalar ConstraintState Score
  | .startTask => .settingUp
  | _ => polled.decode

/-- What a step of the session logs: `CreateTask` returned OK if the manager's history
has grown. -/
def sessionEvents (session next : Session Input) : SessionAction Input Score → List DecodeEvent
  | .cancel => [.cancelProcess]
  | .addTask _ _ =>
      match session.caller with
      | .registered (.decode _) taskId _ =>
          if next.system.history = session.system.history then [] else [.created taskId]
      | _ => []
  | _ => []

/-- The running decode of task `taskId` comes to a new place. -/
def moveTo (polled : PolledSession Input Executor Scalar ConstraintState Score)
    (taskId : TaskId) (progress : DecodeProgress Executor Scalar ConstraintState Score) :
    PolledSession Input Executor Scalar ConstraintState Score :=
  { polled with decode := progress, log := progress.events taskId ++ polled.log }

variable [Bot Scalar]
variable (preprocess : Bool → List Input → StatusOr (List Input) × Bool)
variable (parameters : DecodeParameters Executor Environment Scalar ConstraintState Score)

/-- One step of any of the threads. -/
def step (polled : PolledSession Input Executor Scalar ConstraintState Score) :
    PolledAction Input Executor Environment ConstraintState Score →
      Option (PolledSession Input Executor Scalar ConstraintState Score)
  | .session action =>
      if polled.Allows action then
        (polled.session.step preprocess action).map fun next =>
          { session := next
            decode := polled.decodeAfter action
            log := sessionEvents polled.session next action ++ polled.log }
      else
        none
  | .enter setup =>
      match polled.session.system.worker, polled.decode with
      | .running taskId .decode _, .settingUp =>
          some (polled.moveTo taskId (.enter parameters setup))
      | _, _ => none
  | .poll turnEnd =>
      match polled.session.system.worker, polled.decode with
      | .running taskId .decode _, .atPoll maxNumTokens state =>
          some (polled.moveTo taskId
            (.poll polled.session.system.manager.world.cancelled turnEnd maxNumTokens state))
      | _, _ => none
  | .endStep environment turnEnd finalEnvironment =>
      match polled.session.system.worker, polled.decode with
      | .running taskId .decode _, .inStep maxNumTokens state =>
          some (polled.moveTo taskId
            (.endStep parameters environment turnEnd finalEnvironment maxNumTokens state))
      | _, _ => none
  | .finishDecode order failOrder workerThread =>
      match polled.decode with
      | .ended outcome _ =>
          (polled.session.step preprocess
            (.finishTask order failOrder workerThread (.decode outcome))).map fun next =>
              { polled with session := next }
      | _ => none

def machine : Machine (PolledSession Input Executor Scalar ConstraintState Score)
    (PolledAction Input Executor Environment ConstraintState Score) where
  Initial := fun polled => polled = initial
  step := step preprocess parameters

/-- Each step is a step of the session, or one within a decode that leaves the session as
it is. -/
theorem step_session {polled next : PolledSession Input Executor Scalar ConstraintState Score}
    {action : PolledAction Input Executor Environment ConstraintState Score}
    (stepped : polled.step preprocess parameters action = some next) :
    (∃ sessionAction : SessionAction Input Score,
      polled.session.step preprocess sessionAction = some next.session) ∨
        next.session = polled.session := by
  cases action with
  | session action =>
      simp only [step] at stepped
      split at stepped
      · obtain ⟨session, took, rfl⟩ := Option.map_eq_some_iff.mp stepped
        exact Or.inl ⟨action, took⟩
      · cases stepped
  | enter setup =>
      simp only [step] at stepped
      split at stepped <;> cases stepped
      exact Or.inr rfl
  | poll turnEnd =>
      simp only [step] at stepped
      split at stepped <;> cases stepped
      exact Or.inr rfl
  | endStep environment turnEnd finalEnvironment =>
      simp only [step] at stepped
      split at stepped <;> cases stepped
      exact Or.inr rfl
  | finishDecode order failOrder workerThread =>
      simp only [step] at stepped
      split at stepped
      next outcome reachedStop ended =>
        obtain ⟨session, took, rfl⟩ := Option.map_eq_some_iff.mp stepped
        exact Or.inl ⟨_, took⟩
      · cases stepped

/-- The session of a polled session is one of the session's own machine. -/
theorem session_reachable
    {polled : PolledSession Input Executor Scalar ConstraintState Score}
    (reached : (machine preprocess parameters).Reachable polled) :
    (Session.machine preprocess : Machine _ (SessionAction Input Score)).Reachable
      polled.session := by
  refine reached.invariant
    (fun polled => (Session.machine preprocess :
      Machine _ (SessionAction Input Score)).Reachable polled.session) ?_ ?_
  · rintro _ rfl
    exact .initial rfl
  · intro polled action next inductionHypothesis _ stepped
    cases step_session preprocess parameters stepped with
    | inl taken =>
        obtain ⟨sessionAction, took⟩ := taken
        exact .step inductionHypothesis trivial took
    | inr same => exact same ▸ inductionHypothesis

end PolledSession

end LiteRTLM.Core.SessionAdvanced
