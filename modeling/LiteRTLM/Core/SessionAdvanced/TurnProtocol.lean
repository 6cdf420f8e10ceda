import Mathlib
import LiteRTLM.Framework.ExecutionManager.Progress
import LiteRTLM.Core.SessionAdvanced.Session

/-!
Contract: a `RunPrefill` that returns OK has run the executor's `Prefill` for its
inputs once, with success.

The code breaks this after a failure: a failed task stays in `processing_tasks_`,
so the next call's task is created in `kDependentTaskFailed`, which its callback
reports as an OK response. `TurnGuard` is the condition on the steps under which
no task is created on an ended one and none waits for a failing one.

Owns: the condition, the invariant of the runs that meet it, and the theorem.

Does not own: the progress of the manager, on which it relies.
-/

namespace LiteRTLM.Core.SessionAdvanced

open LiteRTLM.Engine LiteRTLM.Library LiteRTLM.Framework LiteRTLM.Framework.ExecutionManager

variable {Input Score : Type}

namespace Session

/-! ## The condition on a run -/

/-- Tasks are added on unfinished dependencies only, an independent one has a
worker to run it, and no task waits for a body that fails. -/
def TurnGuard (session : Session Input) : SessionAction Input Score → Prop
  | .addTask _ workerThread =>
      match session.caller with
      | .registered _ _ depTasks =>
          (∀ dep ∈ depTasks, ∃ taskState ∈ session.system.taskState dep, Unfinished taskState) ∧
            (depTasks = ∅ → 0 < session.system.manager.executionThreadPool.numThreads ∨
              workerThread = .ok ())
      | _ => True
  | .finishTask _ _ _ run =>
      match session.system.worker with
      | .running taskId _ _ =>
          run.outcome.isOk = false →
            ∀ following ∈ session.system.followingTasks taskId,
              session.system.taskState following ≠ some .created
      | _ => True
  | _ => True

/-- A successful body may leave its task in either of these states. -/
def Completed (taskState : TaskState) : Prop :=
  taskState = .done ∨ taskState = .maxNumTokensReached

/-- The executor's `Prefill` has run once for the task, on these inputs, and has
succeeded. -/
def PrefilledOnce (session : Session Input) (taskId : TaskId)
    (inputs : List Input) : Prop :=
  session.prefills.filter (fun execution => execution.taskId = taskId) = [⟨taskId, inputs, true⟩]

variable (preprocess : Bool → List Input → StatusOr (List Input) × Bool)

/-- The inputs a call's task gets for its contents. -/
def Prepared (contents inputs : List Input) : Prop :=
  ∃ isFirstTurn, (preprocess isFirstTurn contents).1 = .ok inputs

/-! ## The invariant -/

/-- The task of a waiting `RunPrefill` is on its way, or has run and succeeded, or
has failed and told the call so. -/
def Awaited (session : Session Input) (inputs : List Input) (taskId : TaskId) : Prop :=
  ∃ info, session.system.manager.find taskId = some info ∧
    (((info.taskState = .created ∨ info.taskState = .queued) ∧
        info.task = some (.prefill inputs) ∧ info.callback = some (.prefill taskId true)) ∨
      (info.taskState = .processing ∧
        session.system.worker = .running taskId (.prefill inputs) (some (.prefill taskId true))) ∨
      (info.taskState = .done ∧ session.PrefilledOnce taskId inputs) ∨
      (info.taskState = .failed ∧
        ∃ status, session.system.manager.world.status taskId = .error status))

end Session

/-- A task function that returns OK has called the executor once, with success. -/
theorem PrefillRun.executions_of_ok (taskId : TaskId) (inputs : List Input) {run : PrefillRun}
    {responses : { responses : Responses Score //
      responses.taskState = .done ∨ responses.taskState = .maxNumTokensReached }}
    (returned : run.outcome = .ok responses) :
    responses.1.taskState = .done ∧ run.executions taskId inputs = [⟨taskId, inputs, true⟩] := by
  cases run with
  | rejected status => cases returned
  | executed result turnEnd =>
      cases result with
      | error status => cases returned
      | ok _ =>
          cases turnEnd with
          | error status => cases returned
          | ok _ =>
              cases returned
              exact ⟨rfl, rfl⟩

/-- The callback reports to nobody but the call of this task. -/
def Callback.BelongsTo (taskId : TaskId) : Callback → Prop
  | .prefill other _ => other = taskId
  | _ => True

namespace Session

variable (preprocess : Bool → List Input → StatusOr (List Input) × Bool)

structure TurnInvariant (session : Session Input) : Prop where
  orderly : session.system.OrderlyInvariant Completed
  numbered : ∀ id info, session.system.manager.find id = some info →
    id < session.system.manager.nextTaskId
  callbacks : ∀ id info callback, session.system.manager.find id = some info →
    info.callback = some callback → callback.BelongsTo id
  running : ∀ id task callback, session.system.worker = .running id task (some callback) →
    callback.BelongsTo id
  healthy : ∀ id info, session.system.manager.find id = some info →
    info.taskState ≠ .dependentTaskFailed
  logged : ∀ execution ∈ session.prefills,
    ∃ ok, Event.returned execution.taskId ok ∈ session.system.history
  pending : ∀ call taskId, (session.caller = .numbered call taskId ∨
      ∃ depTasks, session.caller = .registered call taskId depTasks) →
    session.system.manager.find taskId = none ∧ taskId < session.system.manager.nextTaskId ∧
      ∀ contents inputs runPrefill, call = .prefill contents inputs runPrefill →
        Prepared preprocess contents inputs
  waiting : ∀ contents inputs taskId, session.caller = .waiting contents inputs taskId →
    Prepared preprocess contents inputs ∧ session.Awaited inputs taskId
  answered : ∀ returned ∈ session.returns, returned.status = .ok () →
    ∃ taskId inputs, returned.task = some (taskId, inputs) ∧
      Prepared preprocess returned.contents inputs ∧ session.PrefilledOnce taskId inputs

namespace TurnInvariant

variable {preprocess : Bool → List Input → StatusOr (List Input) × Bool}
variable {session : Session Input}

/-! ## The calling thread's steps -/

/-- A prefill call returns. -/
theorem returnPrefill (invariant : TurnInvariant preprocess session) {runPrefill : Bool}
    {contents : List Input} {task : Option (TaskId × List Input)} {status : StatusOr Unit}
    (answer : status = .ok () → ∃ taskId inputs, task = some (taskId, inputs) ∧
      Prepared preprocess contents inputs ∧ session.PrefilledOnce taskId inputs) :
    TurnInvariant preprocess (session.returnPrefill runPrefill contents task status) := by
  refine { invariant with pending := ?_, waiting := nofun, answered := ?_ }
  · rintro call taskId (impossible | ⟨_, impossible⟩) <;> cases impossible
  · intro returned member ok
    cases runPrefill with
    | false => exact invariant.answered returned member ok
    | true =>
        rcases List.mem_cons.mp member with rfl | earlier
        · exact answer ok
        · exact invariant.answered returned earlier ok

/-- The session's own state changes, apart from the `status` variables. -/
theorem withState (invariant : TurnInvariant preprocess session)
    (update : SessionState → SessionState)
    (sameStatus : ∀ state, (update state).status = state.status) :
    TurnInvariant preprocess (session.withState update) := by
  refine { invariant with orderly := ⟨invariant.orderly.safe, invariant.orderly.progress⟩
                          waiting := ?_ }
  intro contents inputs taskId waits
  obtain ⟨prepared, awaited⟩ := invariant.waiting contents inputs taskId waits
  obtain ⟨info, found, stage⟩ := awaited
  refine ⟨prepared, info, found, stage.imp_right (Or.imp_right (Or.imp_right ?_))⟩
  rintro ⟨failed, status, told⟩
  exact ⟨failed, status, (congrFun (sameStatus _) taskId).trans told⟩

/-- A call takes a new task id. -/
theorem number (invariant : TurnInvariant preprocess session) (call : Call Input)
    (prepared : ∀ contents inputs runPrefill, call = .prefill contents inputs runPrefill →
      Prepared preprocess contents inputs) :
    TurnInvariant preprocess { session with
      system := { session.system with manager := session.system.manager.getNewTaskId.2 }
      caller := .numbered call session.system.manager.getNewTaskId.1 } := by
  refine { invariant with
    orderly := ⟨invariant.orderly.safe, invariant.orderly.progress⟩
    numbered := ?_, pending := ?_, waiting := nofun }
  · intro id info found
    show id < session.system.manager.nextTaskId + 1
    exact Int.lt_trans (invariant.numbered id info found) (Int.lt_succ _)
  · rintro other taskId (numbered | ⟨_, impossible⟩)
    · cases numbered
      refine ⟨?_, Int.lt_succ _, prepared⟩
      show session.system.manager.find session.system.manager.nextTaskId = none
      cases present : session.system.manager.find session.system.manager.nextTaskId with
      | none => rfl
      | some info => exact absurd (invariant.numbered _ info present) (lt_irrefl _)
    · cases impossible

/-- A call registers its id and remembers the processing tasks. -/
theorem register (invariant : TurnInvariant preprocess session) {call : Call Input}
    {taskId : TaskId} (numbered : session.caller = .numbered call taskId)
    (depTasks : Finset TaskId) :
    TurnInvariant preprocess { session with caller := .registered call taskId depTasks } := by
  refine { invariant with pending := ?_, waiting := nofun }
  rintro other otherId (impossible | ⟨_, registered⟩)
  · cases impossible
  · cases registered
    exact invariant.pending call taskId (Or.inl numbered)

/-- `RunPrefill` stops waiting. It is told OK only if its task has run: an idle
pool has no task that waits. -/
theorem endWait (invariant : TurnInvariant preprocess session) {contents inputs : List Input}
    {taskId : TaskId} (waits : session.caller = .waiting contents inputs taskId)
    {status : StatusOr Unit}
    (ended : status = match session.system.manager.executionThreadPool.waitUntilDone with
      | .error status => .error status
      | .ok () => session.system.manager.world.status taskId) :
    TurnInvariant preprocess
      (session.returnPrefill true contents (some (taskId, inputs)) status) := by
  apply invariant.returnPrefill
  intro ok
  obtain ⟨prepared, info, found, stage⟩ := invariant.waiting contents inputs taskId waits
  refine ⟨taskId, inputs, rfl, prepared, ?_⟩
  rw [ok, ThreadPool.waitUntilDone] at ended
  by_cases idle : session.system.manager.executionThreadPool.isDone = true
  · rw [if_pos idle] at ended
    have finished := System.ended_of_idle invariant.orderly idle taskId info found
    rcases stage with ⟨created | queued, -⟩ | ⟨processing, -⟩ | ⟨-, once⟩ | ⟨-, failure, told⟩
    · exact absurd (Or.inl created) finished
    · exact absurd (Or.inr (Or.inl queued)) finished
    · exact absurd (Or.inr (Or.inr processing)) finished
    · exact once
    · rw [told] at ended
      cases ended
  · rw [if_neg idle] at ended
    cases ended

/-- Under the guard the manager's own condition on `CreateTask` is met. -/
theorem orderly_addTask {call : Call Input} {taskId : TaskId} {depTasks : Finset TaskId}
    {order : HashOrder} {workerThread : StatusOr Unit}
    (registered : session.caller = .registered call taskId depTasks)
    (guard : session.TurnGuard (.addTask order workerThread : SessionAction Input Score)) :
    session.system.Orderly Completed (.createTask order workerThread taskId call.task depTasks
      (call.callback taskId) : Action (Body Input) Callback Score) := by
  simp only [TurnGuard, registered] at guard
  obtain ⟨unfinished, staffed⟩ := guard
  refine fun _ => ⟨staffed, fun _ => Or.inl ?_, ?_⟩
  · intro dep member taskState state
    obtain ⟨other, otherState, alive⟩ := unfinished dep member
    rw [Option.mem_def] at state otherState
    rw [state, Option.some.injEq] at otherState
    subst otherState
    rcases alive with rfl | rfl | rfl <;> simp [Completed]
  · rintro ⟨dep, member, missing⟩
    obtain ⟨other, otherState, -⟩ := unfinished dep member
    rw [Option.mem_def, missing] at otherState
    cases otherState

/-- A task on existing dependencies, with a worker if it has none, is never
rejected. -/
theorem addTask_accepted (invariant : TurnInvariant preprocess session) {call : Call Input}
    {taskId : TaskId} {depTasks : Finset TaskId} {order : HashOrder}
    {workerThread : StatusOr Unit}
    (registered : session.caller = .registered call taskId depTasks)
    (guard : session.TurnGuard (.addTask order workerThread : SessionAction Input Score)) :
    ∃ manager, session.system.manager.createTask (invoke Score) order workerThread taskId call.task
      depTasks (call.callback taskId) = (.ok (), manager) := by
  rcases added : session.system.manager.createTask (invoke Score) order workerThread taskId
    call.task depTasks (call.callback taskId) with ⟨status | _, manager⟩
  · obtain ⟨fresh, -, -⟩ := invariant.pending call taskId (Or.inr ⟨depTasks, registered⟩)
    simp only [TurnGuard, registered] at guard
    obtain ⟨unfinished, staffed⟩ := guard
    obtain ⟨-, ⟨present, -⟩ | ⟨-, checked⟩ | ⟨-, independent, unscheduled, -⟩⟩ :=
      Manager.createTask_error (invoke Score) added
    · rw [fresh] at present
      cases present
    · obtain ⟨⟨dep, member, absent⟩, -⟩ := Manager.checkDependencies_error checked
      rw [order.mem_order] at member
      obtain ⟨taskState, state, -⟩ := unfinished dep member
      rw [Option.mem_def, System.taskState, absent] at state
      cases state
    · obtain ⟨pool, scheduled⟩ := ThreadPool.schedule_succeeds taskId
        invariant.orderly.progress.running (staffed independent)
      rw [unscheduled] at scheduled
      cases scheduled
  · exact ⟨manager, rfl⟩

/-- The new task waits or is queued, and the others keep state and callback. -/
theorem addTask_changed (invariant : TurnInvariant preprocess session) {call : Call Input}
    {taskId : TaskId} {depTasks : Finset TaskId} {order : HashOrder}
    {workerThread : StatusOr Unit} {manager : Manager (Body Input) Callback SessionState}
    (registered : session.caller = .registered call taskId depTasks)
    (guard : session.TurnGuard (.addTask order workerThread : SessionAction Input Score))
    (added : session.system.manager.createTask (invoke Score) order workerThread taskId call.task
      depTasks (call.callback taskId) = (.ok (), manager)) :
    (∃ new, manager.find taskId = some new ∧
        (new.taskState = .created ∨ new.taskState = .queued) ∧ new.task = some call.task ∧
        new.callback = some (call.callback taskId)) ∧
      ∀ id, id ≠ taskId → ∀ new, manager.find id = some new →
        ∃ info, session.system.manager.find id = some info ∧ new.taskState = info.taskState ∧
          new.callback = info.callback := by
  obtain ⟨-, ⟨-, exist, -, taskState, starts, changed⟩ | ⟨-, -, found⟩⟩ :=
    System.orderly_createTask (invoke Score) invariant.orderly (orderly_addTask registered guard)
      added
  · have waits : taskState = .created := by
      rcases starts with ⟨-, dep, member, info, found, failed⟩ | ⟨created, -⟩
      · simp only [TurnGuard, registered] at guard
        obtain ⟨other, otherState, alive⟩ := guard.1 dep member
        rw [Option.mem_def, System.taskState_eq_some] at otherState
        obtain ⟨otherInfo, otherFound, same⟩ := otherState
        rw [found] at otherFound
        cases otherFound
        rw [same] at failed
        rcases alive with state | state | state <;> simp [HasFailed, state] at failed
      · exact created
    refine ⟨⟨_, by rw [changed, if_pos rfl], Or.inl waits, rfl, rfl⟩, ?_⟩
    intro id different new found
    rw [changed, if_neg different] at found
    by_cases member : id ∈ depTasks
    · rw [if_pos member, Option.map_eq_some_iff] at found
      obtain ⟨info, present, rfl⟩ := found
      refine ⟨info, present, ?_⟩
      by_cases registers : Registers info.taskState
      · rw [TaskInfo.register, if_pos registers]
        exact ⟨rfl, rfl⟩
      · rw [TaskInfo.register, if_neg registers]
        exact ⟨rfl, rfl⟩
    · rw [if_neg member] at found
      exact ⟨new, found, rfl, rfl⟩
  · refine ⟨⟨_, by rw [found, Function.update_self], Or.inr rfl, rfl, rfl⟩, ?_⟩
    intro id different new newFound
    rw [found, Function.update_of_ne different] at newFound
    exact ⟨new, newFound, rfl, rfl⟩

/-- A call adds its task. -/
theorem addTask (invariant : TurnInvariant preprocess session) {call : Call Input}
    {taskId : TaskId} {depTasks : Finset TaskId} {order : HashOrder}
    {workerThread : StatusOr Unit} {manager : Manager (Body Input) Callback SessionState}
    (registered : session.caller = .registered call taskId depTasks)
    (guard : session.TurnGuard (.addTask order workerThread : SessionAction Input Score))
    (added : session.system.manager.createTask (invoke Score) order workerThread taskId call.task
      depTasks (call.callback taskId) = (.ok (), manager)) :
    TurnInvariant preprocess ({ session with system := { session.system with
      manager, history := .created taskId depTasks :: session.system.history }
      }.acceptCall taskId call) := by
  obtain ⟨⟨new, found, state, task, callback⟩, others⟩ := invariant.addTask_changed registered
    guard added
  obtain ⟨-, older, prepared⟩ :=
    invariant.pending call taskId (Or.inr ⟨depTasks, registered⟩)
  have counter : manager.nextTaskId = session.system.manager.nextTaskId := by
    have same := Manager.nextTaskId_createTask (invoke Score) session.system.manager order
      workerThread taskId call.task depTasks (call.callback taskId)
    rwa [added] at same
  have orderly := System.orderlyInvariant_step (invoke Score) invariant.orderly
    (orderly_addTask registered guard) (by simp only [System.step, added]; rfl)
  have accepted : TurnInvariant preprocess { session with
      system := { session.system with
        manager, history := .created taskId depTasks :: session.system.history }
      caller := .idle } := by
    refine
      { orderly, numbered := ?_, callbacks := ?_, running := invariant.running, healthy := ?_
        logged := ?_, pending := ?_, waiting := by intros; contradiction, answered := invariant.answered }
    · intro id info present
      show id < manager.nextTaskId
      rw [counter]
      by_cases same : id = taskId
      · rwa [same]
      · obtain ⟨old, oldFound, -⟩ := others id same info present
        exact invariant.numbered id old oldFound
    · intro id info owned present owns
      by_cases same : id = taskId
      · subst same
        rw [found] at present
        cases present
        rw [callback] at owns
        cases owns
        cases call with
        | prefill contents inputs runPrefill => rfl
        | decode danglingTaskId => trivial
      · obtain ⟨old, oldFound, -, sameCallback⟩ := others id same info present
        exact invariant.callbacks id old owned oldFound (sameCallback ▸ owns)
    · intro id info present
      by_cases same : id = taskId
      · subst same
        rw [found] at present
        cases present
        rcases state with state | state <;> simp [state]
      · obtain ⟨old, oldFound, sameState, -⟩ := others id same info present
        rw [sameState]
        exact invariant.healthy id old oldFound
    · intro execution member
      obtain ⟨ok, returned⟩ := invariant.logged execution member
      exact ⟨ok, List.mem_cons_of_mem _ returned⟩
    · rintro other otherId (impossible | ⟨_, impossible⟩) <;> cases impossible
  cases call with
  | decode danglingTaskId => exact accepted
  | prefill contents inputs runPrefill =>
      cases runPrefill with
      | false => exact accepted
      | true =>
          refine { accepted with pending := ?_, waiting := ?_ }
          · rintro other otherId (impossible | ⟨_, impossible⟩) <;> cases impossible
          · intro otherContents otherInputs otherId waits
            cases waits
            exact ⟨prepared contents inputs true rfl, new, found, Or.inl ⟨state, task, callback⟩⟩

/-! ## The worker's steps -/

theorem status_eraseEnded (taskId : TaskId) (responses : StatusOr (Responses Score))
    (state : SessionState) : (eraseEnded taskId responses state).status = state.status := by
  cases responses with
  | error status => rfl
  | ok responses =>
      simp only [eraseEnded]
      split <;> rfl

/-- A task's callback writes no other call's `status`. -/
theorem quiet_of_belongsTo {callback : Callback} {id taskId : TaskId}
    (belongs : callback.BelongsTo id) (different : id ≠ taskId) (status : StatusOr Unit) :
    Manager.Quiet (invoke Score) (fun state => state.status taskId = status) callback := by
  intro responses state holds
  cases callback with
  | nothing => exact holds
  | decode danglingTaskId =>
      show (eraseEnded danglingTaskId responses state).status taskId = status
      rw [status_eraseEnded]
      exact holds
  | prefill other runPrefill =>
      show (eraseEnded other responses _).status taskId = status
      rw [status_eraseEnded]
      cases runPrefill with
      | false => exact holds
      | true =>
          have apart : taskId ≠ other := fun same => different (belongs.symm.trans same.symm)
          show Function.update state.status other (responsesStatus responses) taskId = status
          rw [Function.update_of_ne apart]
          exact holds

/-- An awaited task whose entry does not change stays awaited. -/
theorem awaited_of_unchanged {next : Session Input} {inputs : List Input} {taskId : TaskId}
    (awaited : session.Awaited inputs taskId)
    (sameEntry : next.system.manager.find taskId = session.system.manager.find taskId)
    (sameWorker : ∀ task callback, session.system.worker = .running taskId task callback →
      next.system.worker = .running taskId task callback)
    (samePrefills : session.PrefilledOnce taskId inputs → next.PrefilledOnce taskId inputs)
    (sameStatus : (∃ info, session.system.manager.find taskId = some info ∧
        info.taskState = .failed) →
      next.system.manager.world.status taskId = session.system.manager.world.status taskId) :
    next.Awaited inputs taskId := by
  obtain ⟨info, found, stage⟩ := awaited
  refine ⟨info, sameEntry.trans found, ?_⟩
  rcases stage with before | ⟨processing, running⟩ | ⟨done, once⟩ | ⟨failed, status, told⟩
  · exact Or.inl before
  · exact Or.inr (Or.inl ⟨processing, sameWorker _ _ running⟩)
  · exact Or.inr (Or.inr (Or.inl ⟨done, samePrefills once⟩))
  · exact Or.inr (Or.inr (Or.inr ⟨failed, status, (sameStatus ⟨info, found, failed⟩).trans told⟩))

/-- An awaited task that is being processed is the one the worker runs. -/
theorem awaited_running {inputs : List Input} {taskId : TaskId}
    {info : TaskInfo (Body Input) Callback} (awaited : session.Awaited inputs taskId)
    (present : session.system.manager.find taskId = some info)
    (processing : info.taskState = .processing) :
    session.system.worker = .running taskId (.prefill inputs) (some (.prefill taskId true)) := by
  obtain ⟨other, found, stage⟩ := awaited
  rw [present] at found
  cases found
  rcases stage with ⟨created | queued, -⟩ | ⟨-, running⟩ | ⟨done, -⟩ | ⟨failed, -⟩
  · simp [processing] at created
  · simp [processing] at queued
  · exact running
  · simp [processing] at done
  · simp [processing] at failed

/-- The worker takes a task id or returns to the pool: no task changes. -/
theorem idleStep (invariant : TurnInvariant preprocess session)
    {system : System (Body Input) Callback SessionState}
    (orderly : system.OrderlyInvariant Completed)
    (sameFind : system.manager.find = session.system.manager.find)
    (sameCounter : system.manager.nextTaskId = session.system.manager.nextTaskId)
    (sameHistory : system.history = session.system.history)
    (sameWorker : ∀ taskId task callback, session.system.worker = .running taskId task callback ↔
      system.worker = .running taskId task callback)
    (sameStatus : ∀ taskId info, session.system.manager.find taskId = some info →
      info.taskState = .failed →
      system.manager.world.status taskId = session.system.manager.world.status taskId) :
    TurnInvariant preprocess { session with system } := by
  refine { orderly, numbered := ?_, callbacks := ?_, running := ?_, healthy := ?_, logged := ?_
           pending := ?_, waiting := ?_, answered := invariant.answered }
  · rw [sameFind, sameCounter]
    exact invariant.numbered
  · rw [sameFind]
    exact invariant.callbacks
  · intro id task callback running
    exact invariant.running id task callback ((sameWorker ..).mpr running)
  · rw [sameFind]
    exact invariant.healthy
  · rw [sameHistory]
    exact invariant.logged
  · rw [sameFind, sameCounter]
    exact invariant.pending
  · intro contents inputs taskId waits
    obtain ⟨prepared, awaited⟩ := invariant.waiting contents inputs taskId waits
    refine ⟨prepared, awaited_of_unchanged awaited (congrFun sameFind taskId) ?_ id ?_⟩
    · exact fun task callback => (sameWorker taskId task callback).mp
    · rintro ⟨info, found, failed⟩
      exact sameStatus taskId info found failed

/-- The worker starts a task. -/
theorem startTask (invariant : TurnInvariant preprocess session)
    {system : System (Body Input) Callback SessionState}
    (stepped : session.system.step (invoke Score) .startTask = some system) :
    TurnInvariant preprocess { session with system } := by
  have allowed : session.system.Orderly Completed
      (.startTask : Action (Body Input) Callback Score) := trivial
  have orderly := System.orderlyInvariant_step (invoke Score) invariant.orderly allowed stepped
  simp only [System.step] at stepped
  split at stepped
  next taskId scheduled =>
    obtain ⟨task, callback, next, started, -⟩ :=
      System.progress_startTask (invoke Score) invariant.orderly scheduled
    rw [started] at stepped
    cases stepped
    have counter : next.nextTaskId = session.system.manager.nextTaskId := by
      have same := Manager.nextTaskId_startTask (invoke Score) session.system.manager taskId
      rwa [started] at same
    obtain ⟨info, present, queued, owned, owner, -, -, changed⟩ :=
      Manager.startTask_ok (invoke Score) started
    have backward : ∀ id new, next.find id = some new → ∃ old,
        session.system.manager.find id = some old ∧
          (id = taskId ∧ new.taskState = .processing ∧ new.callback = none ∨
            id ≠ taskId ∧ new = old) := by
      intro id new found
      rw [changed] at found
      by_cases same : id = taskId
      · subst same
        rw [Function.update_self] at found
        cases found
        exact ⟨info, present, Or.inl ⟨rfl, rfl, rfl⟩⟩
      · rw [Function.update_of_ne same] at found
        exact ⟨new, found, Or.inr ⟨same, rfl⟩⟩
    refine { orderly, numbered := ?_, callbacks := ?_, running := ?_, healthy := ?_, logged := ?_
             pending := ?_, waiting := ?_, answered := invariant.answered }
    · intro id new found
      obtain ⟨old, oldFound, -⟩ := backward id new found
      show id < next.nextTaskId
      rw [counter]
      exact invariant.numbered id old oldFound
    · intro id new owned found owns
      obtain ⟨old, oldFound, ⟨-, -, moved⟩ | ⟨-, rfl⟩⟩ := backward id new found
      · rw [moved] at owns
        cases owns
      · exact invariant.callbacks id new owned oldFound owns
    · intro id other invoked running
      cases running
      exact invariant.callbacks taskId info invoked present owner
    · intro id new found
      obtain ⟨old, oldFound, ⟨-, processing, -⟩ | ⟨-, rfl⟩⟩ := backward id new found
      · simp [processing]
      · exact invariant.healthy id new oldFound
    · intro execution member
      obtain ⟨ok, returned⟩ := invariant.logged execution member
      exact ⟨ok, List.mem_cons_of_mem _ returned⟩
    · intro call id stage
      obtain ⟨fresh, older, prepared⟩ := invariant.pending call id stage
      refine ⟨?_, by show id < next.nextTaskId; rwa [counter], prepared⟩
      show next.find id = none
      cases found : next.find id with
      | none => rfl
      | some new =>
          obtain ⟨old, oldFound, -⟩ := backward id new found
          rw [fresh] at oldFound
          cases oldFound
    · intro contents inputs id waits
      obtain ⟨prepared, awaited⟩ := invariant.waiting contents inputs id waits
      refine ⟨prepared, ?_⟩
      by_cases same : id = taskId
      · subst same
        obtain ⟨old, oldFound, stage⟩ := awaited
        rw [present] at oldFound
        cases oldFound
        rcases stage with ⟨-, body, invoked⟩ | ⟨state, -⟩ | ⟨state, -⟩ | ⟨state, -⟩
        · rw [owned, Option.some.injEq] at body
          rw [owner] at invoked
          exact ⟨_, by show next.find id = _; rw [changed, Function.update_self],
            Or.inr (Or.inl ⟨rfl, by rw [body, invoked]⟩)⟩
        all_goals
          rw [queued] at state
          cases state
      · apply awaited_of_unchanged awaited
        · show next.find id = _
          rw [changed, Function.update_of_ne same]
        · intro other invoked running
          rw [scheduled] at running
          cases running
        · exact fun once => once
        · rintro -
          have quiet : Manager.QuietAt (invoke Score)
              (fun state => state.status id = session.system.manager.world.status id)
              session.system.manager.find taskId := fun old invoked oldFound owns =>
            quiet_of_belongsTo (invariant.callbacks taskId old invoked oldFound owns)
              (Ne.symm same) _
          have kept := Manager.world_startTask (invoke Score) quiet rfl
          rwa [started] at kept
  · cases stepped

/-- A running task runs alone: its entry is in `kProcessing`, and nothing of it is
logged yet. -/
theorem running_fresh (invariant : TurnInvariant preprocess session) {taskId : TaskId}
    {task : Body Input} {callback : Option Callback}
    (working : session.system.worker = .running taskId task callback) :
    ∀ execution ∈ session.prefills, execution.taskId ≠ taskId := by
  intro execution member same
  obtain ⟨ok, returned⟩ := invariant.logged execution member
  obtain ⟨-, -, unreturned⟩ :=
    invariant.orderly.safe.runningProcessing taskId task callback working
  exact unreturned ok (same ▸ returned)

/-- The executor calls of one task leave those of the others as they were. -/
theorem prefilledOnce_append (invariant : TurnInvariant preprocess session) {taskId id : TaskId}
    {task : Body Input} {callback : Option Callback} {inputs : List Input}
    {executions : List (PrefillExecution Input)}
    {system : System (Body Input) Callback SessionState}
    (working : session.system.worker = .running taskId task callback)
    (own : ∀ execution ∈ executions, execution.taskId = taskId)
    (once : session.PrefilledOnce id inputs) :
    PrefilledOnce { session with system, prefills := executions ++ session.prefills } id
      inputs := by
  have logged : ⟨id, inputs, true⟩ ∈ session.prefills := by
    apply List.mem_of_mem_filter
    rw [once]
    exact List.mem_singleton_self _
  have different : id ≠ taskId := invariant.running_fresh working _ logged
  have apart : executions.filter (fun execution => execution.taskId = id) = [] := by
    rw [List.filter_eq_nil_iff]
    intro execution member
    simp [own execution member, Ne.symm different]
  show (executions ++ session.prefills).filter _ = _
  rw [List.filter_append, apart, List.nil_append]
  exact once

/-- What a `FinishTask` has to leave behind for the invariant to hold again. -/
theorem finish (invariant : TurnInvariant preprocess session) {taskId : TaskId}
    {task : Body Input} {callback : Option Callback} {ok : Bool}
    {executions : List (PrefillExecution Input)}
    {next : Manager (Body Input) Callback SessionState}
    (working : session.system.worker = .running taskId task callback)
    (own : ∀ execution ∈ executions, execution.taskId = taskId)
    (orderly : System.OrderlyInvariant Completed
      { manager := next, worker := .returned,
        history := .returned taskId ok :: session.system.history })
    (counter : next.nextTaskId = session.system.manager.nextTaskId)
    (backward : ∀ id new, next.find id = some new → ∃ old,
      session.system.manager.find id = some old ∧ new.callback = old.callback ∧
        new.taskState ≠ .dependentTaskFailed)
    (awaited : ∀ inputs id, session.Awaited inputs id →
      Awaited { session with
        system := { manager := next, worker := .returned,
                    history := .returned taskId ok :: session.system.history }
        prefills := executions ++ session.prefills } inputs id) :
    TurnInvariant preprocess { session with
      system := { manager := next, worker := .returned,
                  history := .returned taskId ok :: session.system.history }
      prefills := executions ++ session.prefills } := by
  refine { orderly, numbered := ?_, callbacks := ?_, running := nofun, healthy := ?_
           logged := ?_, pending := ?_, waiting := ?_, answered := ?_ }
  · intro id new found
    obtain ⟨old, oldFound, -⟩ := backward id new found
    show id < next.nextTaskId
    rw [counter]
    exact invariant.numbered id old oldFound
  · intro id new owned found owns
    obtain ⟨old, oldFound, same, -⟩ := backward id new found
    exact invariant.callbacks id old owned oldFound (same ▸ owns)
  · intro id new found
    obtain ⟨-, -, -, healthy⟩ := backward id new found
    exact healthy
  · intro execution member
    rcases List.mem_append.mp member with new | earlier
    · exact ⟨ok, by rw [own execution new]; exact List.mem_cons_self ..⟩
    · obtain ⟨earlierOk, returned⟩ := invariant.logged execution earlier
      exact ⟨earlierOk, List.mem_cons_of_mem _ returned⟩
  · intro call id stage
    obtain ⟨fresh, older, prepared⟩ := invariant.pending call id stage
    refine ⟨?_, by show id < next.nextTaskId; rwa [counter], prepared⟩
    show next.find id = none
    cases found : next.find id with
    | none => rfl
    | some new =>
        obtain ⟨old, oldFound, -⟩ := backward id new found
        rw [fresh] at oldFound
        cases oldFound
  · intro contents inputs id waits
    obtain ⟨prepared, waiting⟩ := invariant.waiting contents inputs id waits
    exact ⟨prepared, awaited inputs id waiting⟩
  · intro returned member answer
    obtain ⟨id, inputs, task, prepared, once⟩ := invariant.answered returned member answer
    exact ⟨id, inputs, task, prepared, invariant.prefilledOnce_append working own once⟩

/-- The state after `FinishTask` on a body's outcome. -/
abbrev finished (session : Session Input) (order failOrder : HashOrder)
    (workerThread : StatusOr Unit) (taskId : TaskId) (callback : Option Callback)
    (outcome : TaskOutcome Score) : System (Body Input) Callback SessionState where
  manager := (session.system.manager.finishTask (invoke Score) order failOrder workerThread taskId
    outcome.responses callback).2
  worker := .returned
  history := .returned taskId outcome.isOk :: session.system.history

/-- No task is in `kDependentTaskFailed`, so every return is clean. -/
theorem cleanFinish (invariant : TurnInvariant preprocess session) (taskId : TaskId)
    (outcome : TaskOutcome Score) : session.system.CleanFinish Completed taskId outcome := by
  have healthy : ∀ id, session.system.taskState id ≠ some .dependentTaskFailed := by
    intro id failed
    obtain ⟨info, found, state⟩ := System.taskState_eq_some.mp failed
    exact invariant.healthy id info found state
  cases outcome with
  | ok responses => exact ⟨responses.2, fun following _ => healthy following⟩
  | error status => exact fun _ _ following _ failed => absurd failed (healthy following)

theorem orderly_finished (invariant : TurnInvariant preprocess session) {taskId : TaskId}
    {task : Body Input} {callback : Option Callback}
    (working : session.system.worker = .running taskId task callback)
    (order failOrder : HashOrder) (workerThread : StatusOr Unit) (outcome : TaskOutcome Score) :
    (finished session order failOrder workerThread taskId callback outcome).OrderlyInvariant
      Completed := by
  have allowed : session.system.Orderly Completed
      (.finishTask order failOrder workerThread outcome :
        Action (Body Input) Callback Score) := by
    simp only [System.Orderly, working]
    exact invariant.cleanFinish taskId outcome
  exact System.orderlyInvariant_step (invoke Score) invariant.orderly allowed
    (by simp only [System.step, working])

/-- A body returns OK. If it was a prefill, the executor has run for it. -/
theorem finishOk (invariant : TurnInvariant preprocess session) {taskId : TaskId}
    {task : Body Input} {callback : Option Callback} {order failOrder : HashOrder}
    {workerThread : StatusOr Unit} {outcome : TaskOutcome Score}
    {responses : { responses : Responses Score //
      responses.taskState = .done ∨ responses.taskState = .maxNumTokensReached }}
    {executions : List (PrefillExecution Input)}
    (working : session.system.worker = .running taskId task callback)
    (succeeded : outcome = .ok responses)
    (own : ∀ execution ∈ executions, execution.taskId = taskId)
    (prefilled : ∀ inputs, task = .prefill inputs →
      responses.1.taskState = .done ∧ executions = [⟨taskId, inputs, true⟩]) :
    TurnInvariant preprocess { session with
      system := finished session order failOrder workerThread taskId callback outcome
      prefills := executions ++ session.prefills } := by
  obtain ⟨info, next, released, present, processing, looped, finishes, whole, followers, changed,
    -, -⟩ := System.orderly_finishTask_ok (invoke Score) order failOrder workerThread
      invariant.orderly working succeeded (invariant.cleanFinish taskId outcome)
  have orderly := invariant.orderly_finished working order failOrder workerThread outcome
  have counter : next.nextTaskId = session.system.manager.nextTaskId := by
    have same := Manager.nextTaskId_releaseFollowing (invoke Score) session.system.manager
      workerThread callback taskId (order.order taskId info.followingTasks)
    rw [looped] at same
    simpa [whole, Manager.setTaskState] using same
  have releasedEntry : ∀ id ∈ info.followingTasks, ∃ old,
      session.system.manager.find id = some old ∧ old.taskState = .created ∧
        next.find id = some (old.release taskId) := by
    intro id member
    obtain ⟨old, found, created, -⟩ := followers id member
    have different : id ≠ taskId := by
      rintro rfl
      rw [present] at found
      cases found
      rw [processing] at created
      cases created
    exact ⟨old, found, created, by rw [changed, if_neg different, if_pos member, found]; rfl⟩
  have releasedState : ∀ old : TaskInfo (Body Input) Callback, old.taskState = .created →
      (old.release taskId).taskState = .created ∨ (old.release taskId).taskState = .queued := by
    intro old created
    by_cases last : old.dependentTasks.erase taskId = ∅ <;>
      simp [TaskInfo.release, last, created]
  unfold finished at orderly ⊢
  rw [finishes] at orderly ⊢
  apply invariant.finish working own orderly counter
  · intro id new found
    by_cases same : id = taskId
    · subst same
      rw [changed, if_pos rfl] at found
      cases found
      refine ⟨info, present, rfl, ?_⟩
      rcases responses.2 with state | state <;> simp [state]
    · by_cases member : id ∈ info.followingTasks
      · obtain ⟨old, oldFound, created, newFound⟩ := releasedEntry id member
        rw [newFound] at found
        cases found
        refine ⟨old, oldFound, rfl, ?_⟩
        rcases releasedState old created with state | state <;> simp [state]
      · rw [changed, if_neg same, if_neg member] at found
        exact ⟨new, found, rfl, invariant.healthy id new found⟩
  · intro inputs id awaited
    by_cases same : id = taskId
    · subst same
      have running := awaited_running awaited present processing
      rw [working] at running
      cases running
      obtain ⟨done, ran⟩ := prefilled inputs rfl
      have nothing : session.prefills.filter (fun execution => execution.taskId = id) = [] := by
        rw [List.filter_eq_nil_iff]
        intro execution member
        simpa using invariant.running_fresh working execution member
      refine ⟨_, by show next.find id = _; rw [changed, if_pos rfl],
        Or.inr (Or.inr (Or.inl ⟨done, ?_⟩))⟩
      show (executions ++ session.prefills).filter _ = _
      rw [List.filter_append, nothing, ran]
      simp
    · by_cases member : id ∈ info.followingTasks
      · obtain ⟨old, oldFound, created, newFound⟩ := releasedEntry id member
        obtain ⟨other, otherFound, stage⟩ := awaited
        rw [oldFound] at otherFound
        cases otherFound
        rcases stage with ⟨-, body, owner⟩ | ⟨state, -⟩ | ⟨state, -⟩ | ⟨state, -⟩
        · exact ⟨_, newFound, Or.inl ⟨releasedState old created, body, owner⟩⟩
        all_goals
          rw [created] at state
          cases state
      · apply awaited_of_unchanged awaited
        · show next.find id = _
          rw [changed, if_neg same, if_neg member]
        · intro other invoked running
          rw [working] at running
          cases running
          exact absurd rfl same
        · exact invariant.prefilledOnce_append working own
        · rintro -
          show next.world.status id = session.system.manager.world.status id
          rw [whole, Manager.world_setTaskState]
          have quietCallback : ∀ invoked, callback = some invoked →
              Manager.Quiet (invoke Score) (fun state =>
                state.status id = session.system.manager.world.status id) invoked := by
            rintro invoked rfl
            exact quiet_of_belongsTo (invariant.running taskId task invoked working)
              (Ne.symm same) _
          have quietFollowing : ∀ other ∈ order.order taskId info.followingTasks,
              Manager.QuietAt (invoke Score) (fun state =>
                state.status id = session.system.manager.world.status id)
                session.system.manager.find other := by
            intro other otherMember old invoked oldFound owns
            rw [order.mem_order] at otherMember
            have apart : other ≠ id := fun equal => member (equal ▸ otherMember)
            exact quiet_of_belongsTo (invariant.callbacks other old invoked oldFound owns) apart _
          have kept := Manager.world_releaseFollowing (invoke Score) workerThread taskId
            quietFollowing quietCallback rfl
          rw [looped] at kept
          exact Manager.world_runCallback (invoke Score) _ quietCallback kept

/-- A body returns an error while no task waits for it. -/
theorem finishError (invariant : TurnInvariant preprocess session) {taskId : TaskId}
    {task : Body Input} {callback : Option Callback} {order failOrder : HashOrder}
    {workerThread : StatusOr Unit} {outcome : TaskOutcome Score} {failure : Status}
    {executions : List (PrefillExecution Input)}
    (working : session.system.worker = .running taskId task callback)
    (failed : outcome = .error failure)
    (own : ∀ execution ∈ executions, execution.taskId = taskId)
    (alone : ∀ following ∈ session.system.followingTasks taskId,
      session.system.taskState following ≠ some .created) :
    TurnInvariant preprocess { session with
      system := finished session order failOrder workerThread taskId callback outcome
      prefills := executions ++ session.prefills } := by
  obtain ⟨info, waiting, next, present, processing, finishes, whole, -, -, -, below, changed, -⟩ :=
    System.orderly_finishTask_error (invoke Score) order failOrder workerThread
      invariant.orderly working failed (invariant.cleanFinish taskId outcome)
  have orderly := invariant.orderly_finished working order failOrder workerThread outcome
  have nobody : waiting = ∅ := by
    rw [Finset.eq_empty_iff_forall_notMem]
    intro id member
    obtain ⟨first, ⟨follows, other, found, created⟩, -⟩ :=
      Relation.TransGen.head'_iff.mp (below id member)
    exact alone first (System.mem_followingTasks.mpr follows)
      (System.taskState_eq_some.mpr ⟨other, found, created⟩)
  have noOrder : failOrder.order taskId waiting = [] := by
    rw [List.eq_nil_iff_forall_not_mem]
    intro id member
    rw [failOrder.mem_order, nobody] at member
    simp at member
  rw [noOrder, List.foldl_nil] at whole
  simp only [nobody, Finset.notMem_empty, if_false] at changed
  unfold finished at orderly ⊢
  rw [finishes] at orderly ⊢
  apply invariant.finish working own orderly
  · simp [whole, Manager.setTaskState]
  · intro id new found
    by_cases same : id = taskId
    · subst same
      rw [changed, if_pos rfl] at found
      cases found
      exact ⟨info, present, rfl, by simp⟩
    · rw [changed, if_neg same] at found
      exact ⟨new, found, rfl, invariant.healthy id new found⟩
  · intro inputs id awaited
    by_cases same : id = taskId
    · subst same
      have running := awaited_running awaited present processing
      rw [working] at running
      cases running
      refine ⟨_, by show next.find id = _; rw [changed, if_pos rfl],
        Or.inr (Or.inr (Or.inr ⟨rfl, failure, ?_⟩))⟩
      show next.world.status id = .error failure
      rw [whole, Manager.world_setTaskState]
      simp [Manager.runCallback, invoke, eraseEnded, responsesStatus]
    · apply awaited_of_unchanged awaited
      · show next.find id = _
        rw [changed, if_neg same]
      · intro other invoked running
        rw [working] at running
        cases running
        exact absurd rfl same
      · exact invariant.prefilledOnce_append working own
      · rintro -
        show next.world.status id = session.system.manager.world.status id
        rw [whole, Manager.world_setTaskState]
        have quietCallback : ∀ invoked, callback = some invoked →
            Manager.Quiet (invoke Score) (fun state =>
              state.status id = session.system.manager.world.status id) invoked := by
          rintro invoked rfl
          exact quiet_of_belongsTo (invariant.running taskId task invoked working)
            (Ne.symm same) _
        exact Manager.world_runCallback (invoke Score) _ quietCallback rfl

end TurnInvariant

/-! ## Runs -/

variable {preprocess : Bool → List Input → StatusOr (List Input) × Bool}

/-- Every guarded step keeps the invariant. -/
theorem turnInvariant_step {session next : Session Input} {action : SessionAction Input Score}
    (invariant : TurnInvariant preprocess session) (guard : session.TurnGuard action)
    (stepped : session.step preprocess action = some next) : TurnInvariant preprocess next := by
  cases action with
  | prefill contents runPrefill =>
      simp only [step] at stepped
      split at stepped
      · split at stepped
        · cases stepped
          exact invariant.returnPrefill (by intros; contradiction)
        · split at stepped
          next status isFirstTurn failed =>
            cases stepped
            apply TurnInvariant.returnPrefill
            · exact invariant.withState _ fun _ => rfl
            · intros; contradiction
          next inputs isFirstTurn prepared =>
            cases stepped
            have prepare := invariant.withState
              (fun state => { state with cancelled := false, isFirstTurn })
              fun _ => rfl
            apply prepare.number
            rintro _ _ _ ⟨⟩
            exact ⟨_, congrArg Prod.fst prepared⟩
      · cases stepped
  | decode danglingTaskId =>
      simp only [step] at stepped
      split at stepped
      · cases stepped
        have prepare := invariant.withState
          (fun state => { state with cancelled := false }) fun _ => rfl
        exact prepare.number (.decode danglingTaskId) (by intros; contradiction)
      · cases stepped
  | register =>
      simp only [step] at stepped
      split at stepped
      next call taskId numbered =>
        cases stepped
        have registered := invariant.withState (fun state =>
          { state with processingTasks := insert taskId state.processingTasks }) fun _ => rfl
        exact registered.register numbered _
      · cases stepped
  | addTask order workerThread =>
      simp only [step] at stepped
      split at stepped
      next call taskId depTasks registered =>
        obtain ⟨manager, added⟩ := invariant.addTask_accepted registered guard
        have same : session.system.manager.addTask (invoke Score) order workerThread .nothing
            taskId call.task depTasks (some (call.callback taskId)) = (.ok (), manager) := added
        rw [same] at stepped
        cases stepped
        exact invariant.addTask registered guard added
      · cases stepped
  | endWait =>
      simp only [step] at stepped
      split at stepped
      next contents inputs taskId waits =>
        cases stepped
        exact invariant.endWait waits rfl
      · cases stepped
  | cancel =>
      cases stepped
      exact invariant.withState _ fun _ => rfl
  | takeTask =>
      simp only [step, withSystem, Option.map_eq_some_iff] at stepped
      obtain ⟨system, took, rfl⟩ := stepped
      have allowed : session.system.Orderly Completed
        (.takeTask : Action (Body Input) Callback Score) := trivial
      have orderly := System.orderlyInvariant_step (invoke Score) invariant.orderly allowed took
      simp only [System.step] at took
      split at took
      next taskId pool waiting taken =>
        cases took
        exact invariant.idleStep orderly rfl rfl rfl (by simp [waiting]) fun _ _ _ _ => rfl
      · cases took
  | startTask =>
      simp only [step, withSystem, Option.map_eq_some_iff] at stepped
      obtain ⟨system, started, rfl⟩ := stepped
      exact invariant.startTask started
  | completeTask =>
      simp only [step, withSystem, Option.map_eq_some_iff] at stepped
      obtain ⟨system, completed, rfl⟩ := stepped
      have allowed : session.system.Orderly Completed
        (.completeTask : Action (Body Input) Callback Score) := trivial
      have orderly := System.orderlyInvariant_step (invoke Score) invariant.orderly allowed
        completed
      simp only [System.step] at completed
      split at completed
      next returned =>
        cases completed
        exact invariant.idleStep orderly rfl rfl rfl (by simp [returned]) fun _ _ _ _ => rfl
      · cases completed
  | notify texts scores =>
      simp only [step] at stepped
      split at stepped
      next taskId callback working =>
        simp only [withSystem, Option.map_eq_some_iff] at stepped
        obtain ⟨system, notified, rfl⟩ := stepped
        have allowed : session.system.Orderly Completed
          (.notify (.ok { taskState := .processing, texts, scores }) :
            Action (Body Input) Callback Score) := trivial
        have orderly := System.orderlyInvariant_step (invoke Score) invariant.orderly allowed
          notified
        simp only [System.step, working] at notified
        cases notified
        apply invariant.idleStep orderly
        · exact Manager.find_runCallback ..
        · exact Manager.nextTaskId_runCallback ..
        · rfl
        · intro other task invoked
          rw [working]
        · intro other info found failed
          have apart : taskId ≠ other := by
            rintro rfl
            obtain ⟨⟨running, present, processing⟩, -⟩ :=
              invariant.orderly.safe.runningProcessing taskId .decode callback working
            rw [found] at present
            cases present
            rw [failed] at processing
            cases processing
          have quiet : ∀ invoked, callback = some invoked → Manager.Quiet (invoke Score)
              (fun state => state.status other = session.system.manager.world.status other)
              invoked := by
            rintro invoked rfl
            exact TurnInvariant.quiet_of_belongsTo
              (invariant.running taskId .decode invoked working) apart _
          exact Manager.world_runCallback (invoke Score) _ quiet rfl
      · cases stepped
  | finishTask order failOrder workerThread run =>
      simp only [step] at stepped
      simp only [TurnGuard] at guard
      split at stepped
      next taskId inputs callback prefillRun working =>
        simp only [withSystem, System.step, working, Option.map_some, Option.some.injEq] at stepped
        subst stepped
        simp only [working, BodyRun.outcome] at guard
        have own : ∀ execution ∈ prefillRun.executions taskId inputs,
            execution.taskId = taskId := by
          cases prefillRun <;> simp [PrefillRun.executions]
        cases outcome : (prefillRun.outcome : TaskOutcome Score) with
        | error failure =>
            rw [← outcome]
            refine invariant.finishError working outcome own (guard ?_)
            rw [outcome]
            rfl
        | ok responses =>
            rw [← outcome]
            refine invariant.finishOk working outcome own ?_
            rintro _ ⟨⟩
            exact PrefillRun.executions_of_ok taskId inputs outcome
      next taskId callback outcome working =>
        simp only [withSystem, System.step, working, Option.map_some, Option.some.injEq] at stepped
        subst stepped
        simp only [working, BodyRun.outcome] at guard
        have own : ∀ execution ∈ ([] : List (PrefillExecution Input)),
            execution.taskId = taskId := by simp
        cases ended : outcome with
        | error failure =>
            rw [← ended]
            refine invariant.finishError working ended own (guard ?_)
            rw [ended]
            rfl
        | ok responses =>
            rw [← ended]
            exact invariant.finishOk working ended own (by intros; contradiction)
      · cases stepped

/-- Every state of a guarded run satisfies the invariant. -/
theorem turnInvariant_of_reachable {session : Session Input}
    (reached : (machine preprocess : Machine _ (SessionAction Input Score)).ReachableUnder
      TurnGuard session) : TurnInvariant preprocess session := by
  refine reached.invariant (TurnInvariant preprocess) ?_
    fun _ _ _ invariant guard stepped => turnInvariant_step invariant guard stepped
  rintro _ rfl
  have orderly : (System.initial {} :
      System (Body Input) Callback SessionState).OrderlyInvariant Completed :=
    System.orderlyInvariant_of_reachable (invoke Score) (.initial ⟨{}, rfl⟩)
  have empty : ∀ id, (initial : Session Input).system.manager.find id = none := fun _ => rfl
  refine
    { orderly, numbered := ?_, callbacks := ?_, running := ?_, healthy := ?_, logged := ?_
      pending := ?_, waiting := ?_, answered := ?_ }
  · intro id info found
    cases (empty id).symm.trans found
  · intro id info callback found
    cases (empty id).symm.trans found
  · intro id task callback running
    cases running
  · intro id info found
    cases (empty id).symm.trans found
  · intro execution member
    cases member
  · rintro call taskId (impossible | ⟨_, impossible⟩) <;> cases impossible
  · intro contents inputs taskId waits
    cases waits
  · intro returned member
    cases member

/-- The turn protocol: in every guarded run, a `RunPrefill` that has returned OK
has run the executor's `Prefill` exactly once for its inputs, with success. -/
theorem runPrefill_ok {session : Session Input}
    (reached : (machine preprocess : Machine _ (SessionAction Input Score)).ReachableUnder
      TurnGuard session)
    {returned : PrefillReturn Input} (member : returned ∈ session.returns)
    (ok : returned.status = .ok ()) :
    ∃ taskId inputs, returned.task = some (taskId, inputs) ∧
      Prepared preprocess returned.contents inputs ∧ session.PrefilledOnce taskId inputs :=
  (turnInvariant_of_reachable reached).answered returned member ok

/-! ### A guarded run, and one that is not -/

instance (session : Session Input) :
    ∀ action : SessionAction Input Score, Decidable (session.TurnGuard action)
  | .addTask .. => by
      unfold TurnGuard
      cases session.caller <;> infer_instance
  | .finishTask .. => by
      unfold TurnGuard
      cases session.system.worker <;> infer_instance
  | .prefill .. | .decode _ | .register | .endWait | .cancel | .takeTask | .startTask
  | .completeTask | .notify .. => isTrue trivial

/-- A machine on numbers, whose contents need no preparation. -/
def plainMachine : Machine (Session Nat) (SessionAction Nat Int) :=
  machine fun _ contents => (.ok contents, false)

/-- A `RunPrefill` up to its wait. -/
def startPrefill (contents : List Nat) : List (SessionAction Nat Int) :=
  [.prefill contents true, .register, .addTask .ascending (.ok ())]

/-- The worker runs the task, the executor's `Prefill` returns `result`, and the
call's wait ends. -/
def runPrefillTask (result : StatusOr Unit) : List (SessionAction Nat Int) :=
  [.takeTask, .startTask,
    .finishTask .ascending .ascending (.ok ()) (.prefill (.executed result (.ok ()))),
    .completeTask, .endWait]

/-- The turn protocol in a run of two successful calls. -/
theorem runPrefill_ok_twoTurns :
    ∃ session returned, plainMachine.execute initial
        (startPrefill [1] ++ runPrefillTask (.ok ()) ++ startPrefill [2] ++
          runPrefillTask (.ok ())) = some session ∧
      returned ∈ session.returns ∧ returned.contents = [2] ∧
      ∃ taskId inputs, returned.task = some (taskId, inputs) ∧
        Prepared (fun _ contents => (.ok contents, false)) returned.contents inputs ∧
        session.PrefilledOnce taskId inputs := by
  let actions := startPrefill [1] ++ runPrefillTask (.ok ()) ++ startPrefill [2] ++
    runPrefillTask (.ok ())
  have runs : (plainMachine.execute initial actions).isSome = true := by decide
  obtain ⟨session, executed⟩ := Option.isSome_iff_exists.mp runs
  have answers : (plainMachine.execute initial actions).map
      (fun session => session.returns.head?.map
        fun returned => (returned.contents, returned.status)) = some (some ([2], .ok ())) := by
    decide
  rw [executed, Option.map_some, Option.some.injEq, Option.map_eq_some_iff] at answers
  obtain ⟨returned, first, answer⟩ := answers
  rw [Prod.mk.injEq] at answer
  have start : plainMachine.ReachableUnder TurnGuard initial := .initial rfl
  have guarded : plainMachine.GuardedAlong TurnGuard initial actions := by decide
  have reached := start.execute guarded executed
  have member := List.mem_of_mem_head? first
  exact ⟨session, returned, executed, member, answer.1, runPrefill_ok reached member answer.2⟩

/-- Without the condition a `RunPrefill` may return OK without running: after a
call whose task failed, the next call's task is created in
`kDependentTaskFailed`. -/
theorem runPrefill_fails_afterFailure :
    ∃ session returned, plainMachine.Reachable session ∧ returned ∈ session.returns ∧
      returned.contents = [2] ∧ returned.status = .ok () ∧ returned.task = some (1, [2]) ∧
      session.prefills = [⟨0, [1], false⟩] := by
  let actions := startPrefill [1] ++ runPrefillTask (.error (.internalError "prefill failed")) ++
    startPrefill [2] ++ [.endWait]
  have runs : (plainMachine.execute initial actions).isSome = true := by decide
  obtain ⟨session, executed⟩ := Option.isSome_iff_exists.mp runs
  have prefills : (plainMachine.execute initial actions).map Session.prefills =
      some [⟨0, [1], false⟩] := by
    decide
  have statuses : (plainMachine.execute initial actions).map
      (fun session => session.returns.head?.map
        fun returned => (returned.contents, returned.status)) = some (some ([2], .ok ())) := by
    decide
  have tasks : (plainMachine.execute initial actions).map
      (fun session => session.returns.head?.map PrefillReturn.task) =
        some (some (some (1, [2]))) := by
    decide
  rw [executed, Option.map_some, Option.some.injEq] at prefills statuses tasks
  rw [Option.map_eq_some_iff] at statuses
  obtain ⟨returned, first, answer⟩ := statuses
  rw [first, Option.map_some, Option.some.injEq] at tasks
  rw [Prod.mk.injEq] at answer
  exact ⟨session, returned, Machine.reachable_of_execute rfl executed,
    List.mem_of_mem_head? first, answer.1, answer.2, tasks, prefills⟩

end Session

end LiteRTLM.Core.SessionAdvanced
