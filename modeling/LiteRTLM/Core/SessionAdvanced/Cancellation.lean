import Mathlib
import LiteRTLM.Framework.ExecutionManager.QuietSteps
import LiteRTLM.Core.SessionAdvanced.PolledSession
import LiteRTLM.Core.Tasks.CandidateTexts

/-!
Contract: a `CancelProcess` is not lost on the decodes created before it.

The code breaks this: `RunPrefillAsync` and `RunDecodeAsync` clear the session's one flag
when they are called, "before processing the next turn", and the decodes that the flag was
set for may still be queued or running. `KeepsCancellation` is the condition on the steps
under which none of them misses the flag and none of them fails by itself.

Owns: the decodes a cancellation is for, the condition, the invariant of the runs that meet
it, and the theorem.

Does not own: the order in which the manager runs the tasks. A decode whose dependency
fails is never run and ends in `kDependentTaskFailed`.
-/

namespace LiteRTLM.Core.SessionAdvanced

open LiteRTLM.Components LiteRTLM.Engine LiteRTLM.Library LiteRTLM.Framework
open LiteRTLM.Framework.ExecutionManager LiteRTLM.Core.Tasks

variable {Input Executor Environment Scalar ConstraintState Score : Type}

/-- A body that runs after a step of the manager was running before it, or its task was
the one the worker had taken. -/
theorem running_of_step {Body Callback World : Type}
    (invoke : Callback → StatusOr (Responses Score) → World → World)
    {system next : System Body Callback World} {action : Action Body Callback Score}
    {taskId : TaskId} {task : Body} {callback : Option Callback}
    (stepped : system.step invoke action = some next)
    (running : next.worker = .running taskId task callback) :
    system.worker = .running taskId task callback ∨ system.worker = .scheduled taskId := by
  cases action with
  | createTask order workerThread taskId task dependentTasks callback =>
      simp only [System.step] at stepped
      split at stepped <;> cases stepped <;> exact Or.inl running
  | takeTask =>
      simp only [System.step] at stepped
      split at stepped <;> cases stepped
      cases running
  | startTask =>
      simp only [System.step] at stepped
      split at stepped
      next scheduledId scheduled =>
        split at stepped <;> cases stepped <;> cases running
        exact Or.inr scheduled
      · cases stepped
  | notify responses =>
      simp only [System.step] at stepped
      split at stepped <;> cases stepped
      exact Or.inl running
  | finishTask order failOrder workerThread outcome =>
      simp only [System.step] at stepped
      split at stepped <;> cases stepped
      cases running
  | completeTask =>
      simp only [System.step] at stepped
      split at stepped <;> cases stepped
      cases running

/-! ## What a step of the session changes -/

/-- The calls that clear the flag. -/
def SessionAction.ClearsFlag : SessionAction Input Score → Prop
  | .prefill contents _ => contents ≠ []
  | .decode _ => True
  | _ => False

/-- No callback of the session touches the flag. -/
theorem quiet_cancelled (cancelled : Bool) (callback : Callback) :
    Manager.Quiet (invoke Score) (fun state => state.cancelled = cancelled) callback := by
  have erase : ∀ (taskId : TaskId) (responses : StatusOr (Responses Score)) state,
      (eraseEnded taskId responses state).cancelled = state.cancelled := by
    intro taskId responses state
    unfold eraseEnded
    split
    · split <;> rfl
    · rfl
  intro responses world same
  cases callback with
  | nothing => exact same
  | decode danglingTaskId => exact (erase ..).trans same
  | prefill taskId runPrefill =>
      refine (erase ..).trans ?_
      split <;> exact same

namespace Session

variable (preprocess : Bool → List Input → StatusOr (List Input) × Bool)

/-- A step of the session is one of the manager's machine, or changes only what the
session itself keeps. -/
theorem step_cases {session next : Session Input} {action : SessionAction Input Score}
    (stepped : session.step preprocess action = some next) :
    (∃ systemAction, session.system.step (invoke Score) systemAction = some next.system ∧
      action ≠ .cancel ∧ ¬action.ClearsFlag) ∨
    ∃ world nextTaskId,
      next.system = { session.system with
        manager := { session.system.manager with world, nextTaskId } } ∧
      (action = .cancel → world.cancelled = true) ∧
      (action ≠ .cancel → ¬action.ClearsFlag →
        world.cancelled = session.system.manager.world.cancelled) := by
  cases action with
  | prefill contents runPrefill =>
      right
      simp only [step] at stepped
      split at stepped
      · split at stepped
        next empty =>
          cases stepped
          exact ⟨_, _, rfl, by intros; contradiction, fun _ _ => rfl⟩
        next filled =>
          split at stepped <;> cases stepped
          · exact ⟨_, _, rfl, by intros; contradiction, fun _ clear => absurd filled clear⟩
          · exact ⟨_, _, rfl, by intros; contradiction, fun _ clear => absurd filled clear⟩
      · cases stepped
  | decode danglingTaskId =>
      right
      simp only [step] at stepped
      split at stepped <;> cases stepped
      exact ⟨_, _, rfl, by intros; contradiction, fun _ clear => absurd trivial clear⟩
  | register =>
      right
      simp only [step] at stepped
      split at stepped <;> cases stepped
      exact ⟨_, _, rfl, by intros; contradiction, fun _ _ => rfl⟩
  | addTask order workerThread =>
      left
      simp only [step] at stepped
      split at stepped
      next call taskId depTasks registered =>
        refine ⟨.createTask order workerThread taskId call.task depTasks
          (call.callback taskId), ?_, by simp, id⟩
        simp only [System.step]
        split at stepped
        next manager added =>
          cases stepped
          have created : session.system.manager.createTask (invoke Score) order workerThread
              taskId call.task depTasks (call.callback taskId) = (.ok (), manager) := added
          rw [created]
          cases call with
          | prefill contents inputs runPrefill => cases runPrefill <;> rfl
          | decode danglingTaskId => rfl
        next status manager rejected =>
          cases stepped
          have created : session.system.manager.createTask (invoke Score) order workerThread
              taskId call.task depTasks (call.callback taskId) = (.error status, manager) :=
            rejected
          rw [created]
          cases call <;> rfl
      · cases stepped
  | endWait =>
      right
      simp only [step] at stepped
      split at stepped <;> cases stepped
      exact ⟨_, _, rfl, by intros; contradiction, fun _ _ => rfl⟩
  | cancel =>
      right
      cases stepped
      exact ⟨_, _, rfl, fun _ => rfl, fun other => absurd rfl other⟩
  | takeTask =>
      left
      obtain ⟨system, took, rfl⟩ := Option.map_eq_some_iff.mp stepped
      exact ⟨_, took, by simp, id⟩
  | startTask =>
      left
      obtain ⟨system, took, rfl⟩ := Option.map_eq_some_iff.mp stepped
      exact ⟨_, took, by simp, id⟩
  | completeTask =>
      left
      obtain ⟨system, took, rfl⟩ := Option.map_eq_some_iff.mp stepped
      exact ⟨_, took, by simp, id⟩
  | notify texts scores =>
      left
      simp only [step] at stepped
      split at stepped
      · obtain ⟨system, took, rfl⟩ := Option.map_eq_some_iff.mp stepped
        exact ⟨_, took, by simp, id⟩
      · cases stepped
  | finishTask order failOrder workerThread run =>
      left
      simp only [step] at stepped
      split at stepped
      · obtain ⟨system, took, rfl⟩ := Option.map_eq_some_iff.mp stepped
        exact ⟨_, took, by simp, id⟩
      · obtain ⟨system, took, rfl⟩ := Option.map_eq_some_iff.mp stepped
        exact ⟨_, took, by simp, id⟩
      · cases stepped

/-- What a step of the session does to what the flag is about. -/
structure StepFrame (session next : Session Input) (action : SessionAction Input Score) :
    Prop where
  safe : session.system.manager.SafelyScheduled session.system.worker session.system.history →
    next.system.manager.SafelyScheduled next.system.worker next.system.history
  evolves : Evolves session.system.manager.find next.system.manager.find
  running : ∀ taskId task callback, next.system.worker = .running taskId task callback →
    session.system.worker = .running taskId task callback ∨
      session.system.worker = .scheduled taskId
  cancelled : action = .cancel → next.system.manager.world.cancelled = true
  kept : action ≠ .cancel → ¬action.ClearsFlag →
    next.system.manager.world.cancelled = session.system.manager.world.cancelled

theorem step_frame {session next : Session Input} {action : SessionAction Input Score}
    (stepped : session.step preprocess action = some next) : session.StepFrame next action := by
  rcases step_cases preprocess stepped with
    ⟨systemAction, took, notCancel, clear⟩ | ⟨world, nextTaskId, same, cancelled, kept⟩
  · exact
      { safe := fun safe => System.safelyScheduled_step (invoke Score) safe took
        evolves := (System.step_evolves (invoke Score) took).1
        running := fun taskId task callback => running_of_step (invoke Score) took
        cancelled := fun isCancel => absurd isCancel notCancel
        kept := fun _ _ => System.world_step (invoke Score)
          (quiet_cancelled session.system.manager.world.cancelled) took rfl }
  · exact
      { safe := by
          rw [same]
          exact id
        evolves := by
          rw [same]
          exact .refl
        running := by
          rw [same]
          exact fun _ _ _ => Or.inl
        cancelled := by
          rw [same]
          exact cancelled
        kept := by
          rw [same]
          exact kept }

end Session

/-! ## The decodes a cancellation is for -/

def DecodeEvent.createdTask : DecodeEvent → Option TaskId
  | .created taskId => some taskId
  | _ => none

/-- The decodes created before the latest `CancelProcess`. -/
def cancelRequested : List DecodeEvent → List TaskId
  | [] => []
  | .cancelProcess :: earlier => earlier.filterMap DecodeEvent.createdTask
  | _ :: earlier => cancelRequested earlier

theorem mem_cancelRequested {log later earlier : List DecodeEvent} {taskId : TaskId}
    (split : log = later ++ .cancelProcess :: earlier) (created : .created taskId ∈ earlier) :
    taskId ∈ cancelRequested log := by
  subst split
  induction later with
  | nil => exact List.mem_filterMap.mpr ⟨.created taskId, created, rfl⟩
  | cons event rest inductionHypothesis =>
      cases event with
      | cancelProcess =>
          refine List.mem_filterMap.mpr ⟨.created taskId, ?_, rfl⟩
          exact List.mem_append_right _ (List.mem_cons_of_mem _ created)
      | created other => exact inductionHypothesis
      | runStarted other => exact inductionHypothesis
      | returned other status reachedStop => exact inductionHypothesis

theorem created_of_cancelRequested {log : List DecodeEvent} {taskId : TaskId}
    (requested : taskId ∈ cancelRequested log) : .created taskId ∈ log := by
  induction log with
  | nil => cases requested
  | cons event earlier inductionHypothesis =>
      apply List.mem_cons_of_mem
      cases event with
      | cancelProcess =>
          obtain ⟨other, member, isCreated⟩ := List.mem_filterMap.mp requested
          cases other <;> cases isCreated
          exact member
      | created other => exact inductionHypothesis requested
      | runStarted other => exact inductionHypothesis requested
      | returned other status reachedStop => exact inductionHypothesis requested

/-- After a `CancelProcess` no decode created before it starts a run, and each that returns
does so because it polled the flag, unless it reached its stop condition. -/
def LogKept (log : List DecodeEvent) : Prop :=
  ∀ later earlier taskId, log = later ++ .cancelProcess :: earlier →
    .created taskId ∈ earlier →
      .runStarted taskId ∉ later ∧
      ∀ status reachedStop, .returned taskId status reachedStop ∈ later →
        status = .error processCancelled ∨ reachedStop = true

/-- The event is none that a decode in this list may not have. -/
def DecodeEvent.Fine (requested : List TaskId) : DecodeEvent → Prop
  | .runStarted taskId => taskId ∉ requested
  | .returned taskId status reachedStop =>
      taskId ∈ requested → status = .error processCancelled ∨ reachedStop = true
  | _ => True

/-- One more event. -/
theorem LogKept.cons {log : List DecodeEvent} (kept : LogKept log) {event : DecodeEvent}
    (fine : event.Fine (cancelRequested log)) : LogKept (event :: log) := by
  intro later earlier taskId split created
  cases later with
  | nil => exact ⟨List.not_mem_nil, nofun⟩
  | cons first rest =>
      rw [List.cons_append, List.cons.injEq] at split
      obtain ⟨rfl, split⟩ := split
      obtain ⟨noRun, ends⟩ := kept rest earlier taskId split created
      have requested := mem_cancelRequested split created
      constructor
      · intro member
        cases List.mem_cons.mp member with
        | inl same =>
            subst same
            exact fine requested
        | inr before => exact noRun before
      · intro status reachedStop member
        cases List.mem_cons.mp member with
        | inl same =>
            subst same
            exact fine requested
        | inr before => exact ends status reachedStop before

namespace PolledSession

/-- The decode the worker is running, until its body has returned. -/
def runningDecode (polled : PolledSession Input Executor Scalar ConstraintState Score) :
    Option TaskId :=
  match polled.session.system.worker, polled.decode with
  | .running _ .decode _, .ended _ _ => none
  | .running taskId .decode _, _ => some taskId
  | _, _ => none

/-- The task is still waiting, queued or running. -/
def Pending (polled : PolledSession Input Executor Scalar ConstraintState Score)
    (taskId : TaskId) : Prop :=
  polled.session.system.taskState taskId = some .created ∨
    polled.session.system.taskState taskId = some .queued ∨ polled.runningDecode = some taskId

instance (polled : PolledSession Input Executor Scalar ConstraintState Score)
    (taskId : TaskId) : Decidable (polled.Pending taskId) := by
  unfold Pending
  infer_instance

/-- The session's flag. -/
def cancelled (polled : PolledSession Input Executor Scalar ConstraintState Score) : Bool :=
  polled.session.system.manager.world.cancelled

/-- No cancellation is lost: the log keeps the decodes created before a `CancelProcess`
from running on, and the flag stays set while one of them is pending, so that its next poll
ends it. -/
structure CancelsKept [Bot Scalar]
    (preprocess : Bool → List Input → StatusOr (List Input) × Bool)
    (parameters : DecodeParameters Executor Environment Scalar ConstraintState Score)
    (polled : PolledSession Input Executor Scalar ConstraintState Score) : Prop where
  log : LogKept polled.log
  flag : ∀ taskId ∈ cancelRequested polled.log, polled.Pending taskId →
    polled.cancelled = true
  poll : ∀ taskId ∈ cancelRequested polled.log, polled.runningDecode = some taskId →
    ∀ maxNumTokens state, polled.decode = .atPoll maxNumTokens state →
      polled.step preprocess parameters (.poll (.ok ())) =
        some (polled.moveTo taskId (.ended (.error processCancelled) false))

/-! ## The condition on a run -/

/-- No decode that a cancellation is for is still pending. -/
def NonePending (polled : PolledSession Input Executor Scalar ConstraintState Score) : Prop :=
  ∀ taskId ∈ cancelRequested polled.log, ¬polled.Pending taskId

/-- A decode that a cancellation is for is running. -/
def RunsCancelled (polled : PolledSession Input Executor Scalar ConstraintState Score) :
    Prop :=
  ∃ taskId ∈ cancelRequested polled.log, polled.runningDecode = some taskId

/-- The step in progress does not fail. -/
def StepSucceeds [Bot Scalar]
    (parameters : DecodeParameters Executor Environment Scalar ConstraintState Score)
    (polled : PolledSession Input Executor Scalar ConstraintState Score)
    (environment : StepEnvironment Environment Score) : Bool :=
  match polled.decode with
  | .inStep maxNumTokens state =>
      match decodeStep parameters maxNumTokens { environment with cancelled := false } state with
      | .ok _ _ => true
      | .error _ _ => false
  | _ => true

/-- No turn is enqueued between a `CancelProcess` and the end of the decodes created before
it, and these do not fail by themselves. -/
def KeepsCancellation [Bot Scalar]
    (parameters : DecodeParameters Executor Environment Scalar ConstraintState Score)
    (polled : PolledSession Input Executor Scalar ConstraintState Score) :
    PolledAction Input Executor Environment ConstraintState Score → Prop
  | .session (.prefill contents _) => contents = [] ∨ polled.NonePending
  | .session (.decode _) => polled.NonePending
  | .enter setup => polled.RunsCancelled → setup.isOk = true
  | .poll turnEnd => polled.RunsCancelled → turnEnd = .ok ()
  | .endStep environment _ _ => polled.RunsCancelled → polled.StepSucceeds parameters environment
  | _ => True

/-! ## The invariant -/

structure CancelInvariant
    (polled : PolledSession Input Executor Scalar ConstraintState Score) : Prop where
  safe : polled.session.system.manager.SafelyScheduled polled.session.system.worker
    polled.session.system.history
  present : ∀ taskId, .created taskId ∈ polled.log →
    ∃ info, polled.session.system.manager.find taskId = some info
  flag : ∀ taskId ∈ cancelRequested polled.log, polled.Pending taskId →
    polled.cancelled = true
  log : LogKept polled.log

/-- Nothing leads back to the states before a task's start. -/
theorem waiting_of_advanced {before after : TaskState} (advanced : Lifecycle before after)
    (waits : after = .created ∨ after = .queued) : before = .created ∨ before = .queued := by
  induction advanced with
  | refl => exact waits
  | tail _ last inductionHypothesis =>
      apply inductionHypothesis
      cases last with
      | queue => exact Or.inl rfl
      | start => rcases waits with impossible | impossible <;> cases impossible
      | finish => rcases waits with impossible | impossible <;> cases impossible
      | exhaust => rcases waits with impossible | impossible <;> cases impossible
      | fail => rcases waits with impossible | impossible <;> cases impossible
      | abandon => rcases waits with impossible | impossible <;> cases impossible

/-- A decode that is running is the worker's. -/
theorem runningDecode_eq_some
    {polled : PolledSession Input Executor Scalar ConstraintState Score} {taskId : TaskId}
    (runs : polled.runningDecode = some taskId) :
    (∃ callback, polled.session.system.worker = .running taskId .decode callback) ∧
      ∀ outcome reachedStop, polled.decode ≠ .ended outcome reachedStop := by
  unfold runningDecode at runs
  split at runs
  · cases runs
  next runningId callback working notEnded =>
    cases runs
    exact ⟨⟨callback, working⟩, notEnded⟩
  · cases runs

/-- The worker's decode is running until its body has returned. -/
theorem runningDecode_of_worker
    {polled : PolledSession Input Executor Scalar ConstraintState Score} {taskId : TaskId}
    {callback : Option Callback}
    (working : polled.session.system.worker = .running taskId .decode callback)
    (notEnded : ∀ outcome reachedStop, polled.decode ≠ .ended outcome reachedStop) :
    polled.runningDecode = some taskId := by
  unfold runningDecode
  rw [working]
  cases standing : polled.decode with
  | settingUp => rfl
  | atPoll maxNumTokens state => rfl
  | inStep maxNumTokens state => rfl
  | ended outcome reachedStop => exact absurd standing (notEnded outcome reachedStop)

section SessionSteps

variable (preprocess : Bool → List Input → StatusOr (List Input) × Bool)
variable {polled : PolledSession Input Executor Scalar ConstraintState Score}
variable {session : Session Input} {action : SessionAction Input Score}

/-- What is pending after a step of the session was pending before it, if it existed. -/
theorem pending_of_step (invariant : polled.CancelInvariant)
    (stepped : polled.session.step preprocess action = some session)
    {decode : DecodeProgress Executor Scalar ConstraintState Score}
    (sameBody : action ≠ .startTask → decode = polled.decode) (log : List DecodeEvent)
    {taskId : TaskId} {info : TaskInfo (Body Input) Callback}
    (present : polled.session.system.manager.find taskId = some info)
    (pending : PolledSession.Pending { session, decode, log } taskId) :
    polled.Pending taskId := by
  have frame := Session.step_frame preprocess stepped
  obtain ⟨new, found, advanced⟩ := frame.evolves taskId info present
  have before : polled.session.system.taskState taskId = some info.taskState := by
    rw [System.taskState, present, Option.map_some]
  have after : session.system.taskState taskId = some new.taskState := by
    rw [System.taskState, found, Option.map_some]
  have ofWaiting : (new.taskState = .created ∨ new.taskState = .queued) →
      polled.Pending taskId := by
    intro waits
    unfold Pending
    rw [before]
    cases waiting_of_advanced advanced waits with
    | inl created => exact Or.inl (congrArg some created)
    | inr queued => exact Or.inr (Or.inl (congrArg some queued))
  rcases pending with created | queued | runs
  · exact ofWaiting (Or.inl (Option.some.inj (after.symm.trans created)))
  · exact ofWaiting (Or.inr (Option.some.inj (after.symm.trans queued)))
  · obtain ⟨⟨callback, working⟩, notEnded⟩ := runningDecode_eq_some runs
    cases frame.running taskId .decode callback working with
    | inl ran =>
        have noStart : action ≠ .startTask := by
          rintro rfl
          obtain ⟨system, took, -⟩ := Option.map_eq_some_iff.mp stepped
          simp [System.step, ran] at took
        have same := sameBody noStart
        refine Or.inr (Or.inr (runningDecode_of_worker ran ?_))
        intro outcome reachedStop ended
        exact notEnded outcome reachedStop (same.trans ended)
    | inr scheduled =>
        -- The task the worker has taken is queued until it is started.
        obtain ⟨queuedInfo, queuedPresent, queued⟩ := invariant.safe.pendingQueued taskId
          (by simp [scheduled, Worker.scheduledTasks])
        refine Or.inr (Or.inl ?_)
        rw [System.taskState, queuedPresent, Option.map_some, queued]

/-- What a step of the session logs. -/
theorem sessionEvents_cases (session next : Session Input) (action : SessionAction Input Score) :
    sessionEvents session next action = [] ∨
      (action = .cancel ∧ sessionEvents session next action = [.cancelProcess]) ∨
      ∃ taskId, sessionEvents session next action = [.created taskId] := by
  cases action with
  | cancel => exact Or.inr (Or.inl ⟨rfl, rfl⟩)
  | addTask order workerThread =>
      simp only [sessionEvents]
      split
      next danglingTaskId taskId depTasks _ =>
        split
        · exact Or.inl rfl
        · exact Or.inr (Or.inr ⟨taskId, rfl⟩)
      · exact Or.inl rfl
  | _ => exact Or.inl rfl

/-- A decode that is logged as created is in the lookup. -/
theorem present_of_created (invariant : polled.CancelInvariant)
    (stepped : polled.session.step preprocess action = some session) {taskId : TaskId}
    (created : sessionEvents polled.session session action = [.created taskId]) :
    ∃ info, session.system.manager.find taskId = some info := by
  have safe := (Session.step_frame preprocess stepped).safe invariant.safe
  cases action with
  | addTask order workerThread =>
      simp only [sessionEvents] at created
      split at created
      next danglingTaskId addedId depTasks registered =>
        split at created
        · cases created
        next grown =>
          cases created
          simp only [Session.step, registered] at stepped
          split at stepped <;> cases stepped
          · exact safe.createdPresent taskId depTasks (List.mem_cons_self ..)
          · exact absurd rfl grown
      · cases created
  | _ => cases created

/-- A step of the session keeps the invariant, unless it clears the flag while a decode
that a cancellation is for is pending. -/
theorem CancelInvariant.sessionStep (invariant : polled.CancelInvariant)
    (stepped : polled.session.step preprocess action = some session)
    (guard : action.ClearsFlag → polled.NonePending)
    {decode : DecodeProgress Executor Scalar ConstraintState Score}
    (sameBody : action ≠ .startTask → decode = polled.decode) :
    CancelInvariant { session, decode,
                      log := sessionEvents polled.session session action ++ polled.log } := by
  have frame := Session.step_frame preprocess stepped
  have stillPresent : ∀ taskId, .created taskId ∈ polled.log →
      ∃ info, session.system.manager.find taskId = some info := by
    intro taskId created
    obtain ⟨info, found⟩ := invariant.present taskId created
    obtain ⟨new, foundNew, -⟩ := frame.evolves taskId info found
    exact ⟨new, foundNew⟩
  have stillFlagged : action ≠ .cancel → ∀ log, ∀ taskId ∈ cancelRequested polled.log,
      PolledSession.Pending { session, decode, log } taskId →
        session.system.manager.world.cancelled = true := by
    intro notCancel log taskId requested pending
    obtain ⟨info, found⟩ := invariant.present taskId (created_of_cancelRequested requested)
    have before := pending_of_step preprocess invariant stepped sameBody log found pending
    have clear : ¬action.ClearsFlag := fun clears => guard clears taskId requested before
    rw [frame.kept notCancel clear]
    exact invariant.flag taskId requested before
  rcases sessionEvents_cases polled.session session action with
    none | ⟨isCancel, cancels⟩ | ⟨createdId, creates⟩
  · rw [none, List.nil_append]
    refine ⟨frame.safe invariant.safe, stillPresent, ?_, invariant.log⟩
    refine fun taskId => stillFlagged ?_ _ taskId
    rintro rfl
    cases none
  · rw [cancels, List.singleton_append]
    refine ⟨frame.safe invariant.safe, ?_, fun _ _ _ => frame.cancelled isCancel,
      invariant.log.cons trivial⟩
    intro taskId created
    cases List.mem_cons.mp created with
    | inl impossible => cases impossible
    | inr before => exact stillPresent taskId before
  · rw [creates, List.singleton_append]
    refine ⟨frame.safe invariant.safe, ?_, ?_, invariant.log.cons trivial⟩
    · intro taskId created
      cases List.mem_cons.mp created with
      | inl same =>
          cases same
          exact present_of_created preprocess invariant stepped creates
      | inr before => exact stillPresent taskId before
    · refine fun taskId => stillFlagged ?_ _ taskId
      rintro rfl
      cases creates

end SessionSteps

/-- A move of the running decode keeps the invariant, if its event is none that a decode
which a cancellation is for may not have. -/
theorem CancelInvariant.moveTo
    {polled : PolledSession Input Executor Scalar ConstraintState Score}
    (invariant : polled.CancelInvariant) {taskId : TaskId}
    (runs : polled.runningDecode = some taskId)
    {progress : DecodeProgress Executor Scalar ConstraintState Score}
    (fine : ∀ event ∈ progress.events taskId, event.Fine (cancelRequested polled.log)) :
    (polled.moveTo taskId progress).CancelInvariant := by
  have stillPending : ∀ other, (polled.moveTo taskId progress).Pending other →
      polled.Pending other := by
    rintro other (created | queued | moved)
    · exact Or.inl created
    · exact Or.inr (Or.inl queued)
    · obtain ⟨⟨callback, working⟩, -⟩ := runningDecode_eq_some moved
      obtain ⟨⟨ownCallback, ownWorking⟩, -⟩ := runningDecode_eq_some runs
      have same := working.symm.trans ownWorking
      cases same
      exact Or.inr (Or.inr runs)
  -- The new event is neither a creation nor a cancellation.
  have quiet : cancelRequested (polled.moveTo taskId progress).log =
        cancelRequested polled.log ∧
      (∀ other, .created other ∈ (polled.moveTo taskId progress).log →
        .created other ∈ polled.log) ∧ LogKept (polled.moveTo taskId progress).log := by
    cases progress with
    | settingUp => exact ⟨rfl, fun _ => id, invariant.log⟩
    | atPoll maxNumTokens state => exact ⟨rfl, fun _ => id, invariant.log⟩
    | inStep maxNumTokens state =>
        refine ⟨rfl, ?_, invariant.log.cons (fine _ (List.mem_singleton_self _))⟩
        intro other created
        exact (List.mem_cons.mp created).resolve_left nofun
    | ended outcome reachedStop =>
        refine ⟨rfl, ?_, invariant.log.cons (fine _ (List.mem_singleton_self _))⟩
        intro other created
        exact (List.mem_cons.mp created).resolve_left nofun
  obtain ⟨sameRequested, sameCreated, log⟩ := quiet
  refine ⟨invariant.safe, fun other created => invariant.present other (sameCreated other created),
    ?_, log⟩
  intro other requested pending
  rw [sameRequested] at requested
  exact invariant.flag other requested (stillPending other pending)

/-! ## Runs -/

variable [Bot Scalar]
variable {preprocess : Bool → List Input → StatusOr (List Input) × Bool}
variable {parameters : DecodeParameters Executor Environment Scalar ConstraintState Score}

/-- Every step that meets the condition keeps the invariant. -/
theorem cancelInvariant_step
    {polled next : PolledSession Input Executor Scalar ConstraintState Score}
    {action : PolledAction Input Executor Environment ConstraintState Score}
    (invariant : polled.CancelInvariant) (guard : polled.KeepsCancellation parameters action)
    (stepped : polled.step preprocess parameters action = some next) :
    next.CancelInvariant := by
  cases action with
  | session action =>
      simp only [step] at stepped
      split at stepped
      · obtain ⟨session, took, rfl⟩ := Option.map_eq_some_iff.mp stepped
        apply invariant.sessionStep preprocess took
        · intro clears
          cases action with
          | prefill contents runPrefill => exact guard.resolve_left clears
          | decode danglingTaskId => exact guard
          | _ => exact clears.elim
        · intro noStart
          cases action <;> first | rfl | exact absurd rfl noStart
      · cases stepped
  | enter setup =>
      simp only [step] at stepped
      split at stepped
      next taskId callback working standing =>
        cases stepped
        have runs := runningDecode_of_worker working (by simp [standing])
        apply invariant.moveTo runs
        cases setup with
        | ok setup => intros; contradiction
        | error status =>
            intro event member
            cases List.mem_singleton.mp member
            intro requested
            cases guard ⟨taskId, requested, runs⟩
      · cases stepped
  | poll turnEnd =>
      simp only [step] at stepped
      split at stepped
      next taskId callback maxNumTokens state working standing =>
        cases stepped
        have runs := runningDecode_of_worker working (by simp [standing])
        apply invariant.moveTo runs
        unfold DecodeProgress.poll
        split
        · split
          next status =>
            intro event member
            cases List.mem_singleton.mp member
            intro requested
            cases guard ⟨taskId, requested, runs⟩
          · intro event member
            cases List.mem_singleton.mp member
            exact fun _ => Or.inl rfl
        next clear =>
          -- A run starts only while the flag is clear, so no cancellation is for it.
          intro event member
          cases List.mem_singleton.mp member
          intro requested
          exact clear (invariant.flag taskId requested (Or.inr (Or.inr runs)))
      · cases stepped
  | endStep environment turnEnd finalEnvironment =>
      simp only [step] at stepped
      split at stepped
      next taskId callback maxNumTokens state working standing =>
        cases stepped
        have runs := runningDecode_of_worker working (by simp [standing])
        apply invariant.moveTo runs
        simp only [KeepsCancellation, StepSucceeds, standing] at guard
        unfold DecodeProgress.endStep
        cases result : decodeStep parameters maxNumTokens
            { environment with cancelled := false } state with
        | error status after =>
            intro event member
            cases List.mem_singleton.mp member
            intro requested
            rw [result] at guard
            cases guard ⟨taskId, requested, runs⟩
        | ok stops after =>
            cases stops with
            | false => intros; contradiction
            | true =>
                intro event member
                cases List.mem_singleton.mp member
                exact fun _ => Or.inr rfl
      · cases stepped
  | finishDecode order failOrder workerThread =>
      simp only [step] at stepped
      split at stepped
      next outcome reachedStop standing =>
        obtain ⟨session, took, rfl⟩ := Option.map_eq_some_iff.mp stepped
        exact invariant.sessionStep preprocess took False.elim fun _ => rfl
      · cases stepped

/-- Every state of a run that meets the condition satisfies the invariant. -/
theorem cancelInvariant_of_reachable
    {polled : PolledSession Input Executor Scalar ConstraintState Score}
    (reached : (machine preprocess parameters).ReachableUnder
      (KeepsCancellation parameters) polled) : polled.CancelInvariant := by
  refine reached.invariant CancelInvariant ?_
    fun _ _ _ invariant guard stepped => cancelInvariant_step invariant guard stepped
  rintro _ rfl
  refine ⟨System.safelyScheduled_initial _, nofun, nofun, ?_⟩
  intro later earlier taskId split
  simp [initial] at split

instance (polled : PolledSession Input Executor Scalar ConstraintState Score) :
    ∀ action : PolledAction Input Executor Environment ConstraintState Score,
      Decidable (polled.KeepsCancellation parameters action)
  | .session action => by
      unfold KeepsCancellation NonePending
      cases action <;> infer_instance
  | .enter _ | .poll _ | .endStep .. => by
      unfold KeepsCancellation RunsCancelled
      infer_instance
  | .finishDecode .. => isTrue trivial

/-- A machine whose contents need no preparation and whose decodes emit what they are
given. -/
def echoMachine : Machine (PolledSession Nat Nat Nat Unit Nat)
    (PolledAction Nat Nat (List Int) Unit Nat) :=
  machine (fun _ contents => (.ok contents, false)) (echoParameters 16)

/-- A decode is created, started and in its first step when `CancelProcess` is called. -/
def cancelInFirstStep : List (PolledAction Nat Nat (List Int) Unit Nat) :=
  [.session (.decode 0), .session .register, .session (.addTask .ascending (.ok ())),
    .session .takeTask, .session .startTask,
    .enter (.ok ⟨0, StopTokenDetector.resetBatch ⟨[[9]], [], by simp, nofun⟩ 1, 1, none, none⟩),
    .poll (.ok ()), .session .cancel]

def endStepAndPoll : List (PolledAction Nat Nat (List Int) Unit Nat) :=
  [.endStep ⟨[1], .ok ([], []), false⟩ (.ok ()) [], .poll (.ok ())]

end PolledSession

end LiteRTLM.Core.SessionAdvanced
