import LiteRTLM.Framework.ExecutionManager.Lifecycle

/-!
Contract: no task body runs before its time, twice, or after a dependency has
failed.

Owns: the scheduling invariant, its preservation by every operation of the
manager whether it completes or returns early, and the three safety results
over all runs.

Does not own: that every task eventually runs; nothing here excludes a task
that waits forever.

The invariant reads the history: a task that waits lists every declared
dependency whose body has not returned OK, and a task that is queued has none
left. `dependent_tasks` may be cleared by a failure, but only together with the
state change that keeps the task out of the queue.
-/

namespace LiteRTLM.Framework.ExecutionManager

open LiteRTLM.Engine LiteRTLM.Library

variable {Body Callback World Score : Type}

/-- The task id of a callback the worker has taken but not started. -/
def Worker.scheduledTasks : Worker Body Callback → List TaskId
  | .scheduled taskId => [taskId]
  | _ => []

/-- The states of a task whose body has been started. -/
def HasRun (taskState : TaskState) : Prop :=
  taskState = .processing ∨ taskState = .done ∨ taskState = .maxNumTokensReached ∨
    taskState = .failed

/-- What every reachable state satisfies, over the lookup, the pool's queue, the
worker and the history. -/
structure SchedulingInvariant (find : TaskId → Option (TaskInfo Body Callback))
    (queue : List TaskId) (worker : Worker Body Callback) (history : List Event) : Prop where
  pendingNodup : (queue ++ worker.scheduledTasks).Nodup
  pendingQueued : ∀ taskId ∈ queue ++ worker.scheduledTasks,
    ∃ info, find taskId = some info ∧ info.taskState = .queued
  runningProcessing : ∀ taskId task callback, worker = .running taskId task callback →
    (∃ info, find taskId = some info ∧ info.taskState = .processing) ∧
      Event.started taskId ∈ history ∧ ∀ ok, Event.returned taskId ok ∉ history
  createdPresent : ∀ taskId deps, Event.created taskId deps ∈ history →
    ∃ info, find taskId = some info
  waitingDeclared : ∀ taskId deps info dep, Event.created taskId deps ∈ history →
    find taskId = some info → info.taskState = .created → dep ∈ deps →
      dep ∈ info.dependentTasks ∨ Event.returned dep true ∈ history
  queuedDeclared : ∀ taskId deps info dep, Event.created taskId deps ∈ history →
    find taskId = some info → info.taskState = .queued → dep ∈ deps →
      Event.returned dep true ∈ history
  startedState : ∀ taskId, Event.started taskId ∈ history →
    ∃ info, find taskId = some info ∧ HasRun info.taskState
  startedDeclared : ∀ taskId deps dep before, (.started taskId :: before) <:+ history →
    Event.created taskId deps ∈ history → dep ∈ deps → Event.returned dep true ∈ before
  startedOnce : ∀ taskId, history.count (.started taskId) ≤ 1
  returnedStarted : ∀ taskId ok, Event.returned taskId ok ∈ history →
    Event.started taskId ∈ history
  returnedOnce : ∀ taskId, Event.returned taskId true ∈ history →
    Event.returned taskId false ∉ history

namespace SchedulingInvariant

variable {find : TaskId → Option (TaskInfo Body Callback)} {queue : List TaskId}
variable {worker : Worker Body Callback} {history : List Event}

/-! ## The elementary changes -/

/-- The worker gives up whatever it holds. -/
theorem release (invariant : SchedulingInvariant find queue worker history) :
    SchedulingInvariant find queue .returned history where
  pendingNodup := by
    simpa [Worker.scheduledTasks] using invariant.pendingNodup.of_append_left
  pendingQueued := fun taskId member =>
    invariant.pendingQueued taskId (by
      simp only [Worker.scheduledTasks, List.append_nil] at member
      exact List.mem_append_left _ member)
  runningProcessing := nofun
  createdPresent := invariant.createdPresent
  waitingDeclared := invariant.waitingDeclared
  queuedDeclared := invariant.queuedDeclared
  startedState := invariant.startedState
  startedDeclared := invariant.startedDeclared
  startedOnce := invariant.startedOnce
  returnedStarted := invariant.returnedStarted
  returnedOnce := invariant.returnedOnce

/-- One entry of the lookup changes in a way its state allows. -/
theorem update (invariant : SchedulingInvariant find queue worker history)
    {taskId : TaskId} {info : TaskInfo Body Callback} (new : TaskInfo Body Callback)
    (present : find taskId = some info)
    (notPending : info.taskState = .queued →
      new.taskState = .queued ∨ taskId ∉ queue ++ worker.scheduledTasks)
    (notRunning : info.taskState = .processing → new.taskState = .processing ∨
      ∀ task callback, worker ≠ .running taskId task callback)
    (waits : new.taskState = .created → info.taskState = .created ∧
      ∀ dep ∈ info.dependentTasks, dep ∈ new.dependentTasks ∨ Event.returned dep true ∈ history)
    (queues : new.taskState = .queued → info.taskState = .queued ∨
      (info.taskState = .created ∧ info.dependentTasks = ∅))
    (ran : HasRun info.taskState → HasRun new.taskState) :
    SchedulingInvariant (Function.update find taskId (some new)) queue worker history where
  pendingNodup := invariant.pendingNodup
  pendingQueued := by
    intro other member
    obtain ⟨otherInfo, found, queued⟩ := invariant.pendingQueued other member
    by_cases same : other = taskId
    · subst same
      rw [present] at found
      cases found
      refine ⟨new, Function.update_self .., ?_⟩
      exact (notPending queued).resolve_right (not_not.mpr member)
    · exact ⟨otherInfo, by rw [Function.update_of_ne same, found], queued⟩
  runningProcessing := by
    intro other task callback running
    obtain ⟨⟨otherInfo, found, processing⟩, rest⟩ :=
      invariant.runningProcessing other task callback running
    refine ⟨?_, rest⟩
    by_cases same : other = taskId
    · subst same
      rw [present] at found
      cases found
      refine ⟨new, Function.update_self .., ?_⟩
      exact (notRunning processing).resolve_right fun apart => apart task callback running
    · exact ⟨otherInfo, by rw [Function.update_of_ne same, found], processing⟩
  createdPresent := by
    intro other deps created
    by_cases same : other = taskId
    · exact ⟨new, by rw [same, Function.update_self]⟩
    · rw [Function.update_of_ne same]
      exact invariant.createdPresent other deps created
  waitingDeclared := by
    intro other deps otherInfo dep created found state member
    by_cases same : other = taskId
    · subst same
      rw [Function.update_self] at found
      cases found
      obtain ⟨wasCreated, kept⟩ := waits state
      rcases invariant.waitingDeclared other deps info dep created present wasCreated member with
        listed | returned
      · exact kept dep listed
      · exact Or.inr returned
    · rw [Function.update_of_ne same] at found
      exact invariant.waitingDeclared other deps otherInfo dep created found state member
  queuedDeclared := by
    intro other deps otherInfo dep created found state member
    by_cases same : other = taskId
    · subst same
      rw [Function.update_self] at found
      cases found
      rcases queues state with wasQueued | ⟨wasCreated, independent⟩
      · exact invariant.queuedDeclared other deps info dep created present wasQueued member
      · rcases invariant.waitingDeclared other deps info dep created present wasCreated member with
          listed | returned
        · simp [independent] at listed
        · exact returned
    · rw [Function.update_of_ne same] at found
      exact invariant.queuedDeclared other deps otherInfo dep created found state member
  startedState := by
    intro other started
    obtain ⟨otherInfo, found, state⟩ := invariant.startedState other started
    by_cases same : other = taskId
    · subst same
      rw [present] at found
      cases found
      exact ⟨new, Function.update_self .., ran state⟩
    · exact ⟨otherInfo, by rw [Function.update_of_ne same, found], state⟩
  startedDeclared := invariant.startedDeclared
  startedOnce := invariant.startedOnce
  returnedStarted := invariant.returnedStarted
  returnedOnce := invariant.returnedOnce

/-- The states and the dependencies of all entries stay as they are. -/
theorem congr (invariant : SchedulingInvariant find queue worker history)
    {next : TaskId → Option (TaskInfo Body Callback)}
    (same : ∀ id, (next id).map (fun info => { info with followingTasks := ∅ }) =
      (find id).map (fun info => { info with followingTasks := ∅ })) :
    SchedulingInvariant next queue worker history := by
  have forward : ∀ id info, find id = some info → ∃ new, next id = some new ∧
      new.taskState = info.taskState := by
    intro id info found
    have agree := same id
    rw [found, Option.map_some, Option.map_eq_some_iff] at agree
    obtain ⟨new, present, equal⟩ := agree
    have sameState := congrArg TaskInfo.taskState equal
    exact ⟨new, present, sameState⟩
  have backward : ∀ id new, next id = some new → ∃ info, find id = some info ∧
      new.taskState = info.taskState ∧ new.dependentTasks = info.dependentTasks := by
    intro id new found
    have agree := (same id).symm
    rw [found, Option.map_some, Option.map_eq_some_iff] at agree
    obtain ⟨info, present, equal⟩ := agree
    have sameState := congrArg TaskInfo.taskState equal
    have sameDependencies := congrArg TaskInfo.dependentTasks equal
    exact ⟨info, present, sameState.symm, sameDependencies.symm⟩
  refine ⟨invariant.pendingNodup, ?_, ?_, ?_, ?_, ?_, ?_, invariant.startedDeclared,
    invariant.startedOnce, invariant.returnedStarted, invariant.returnedOnce⟩
  · intro id member
    obtain ⟨info, found, queued⟩ := invariant.pendingQueued id member
    obtain ⟨new, present, state⟩ := forward id info found
    exact ⟨new, present, state.trans queued⟩
  · intro id task callback running
    obtain ⟨⟨info, found, processing⟩, rest⟩ := invariant.runningProcessing id task callback running
    obtain ⟨new, present, state⟩ := forward id info found
    exact ⟨⟨new, present, state.trans processing⟩, rest⟩
  · intro id deps created
    obtain ⟨info, found⟩ := invariant.createdPresent id deps created
    obtain ⟨new, present, -⟩ := forward id info found
    exact ⟨new, present⟩
  · intro id deps new dep created found state member
    obtain ⟨info, present, sameState, sameDependencies⟩ := backward id new found
    rw [sameDependencies]
    exact invariant.waitingDeclared id deps info dep created present (sameState.symm.trans state)
      member
  · intro id deps new dep created found state member
    obtain ⟨info, present, sameState, -⟩ := backward id new found
    exact invariant.queuedDeclared id deps info dep created present (sameState.symm.trans state)
      member
  · intro id started
    obtain ⟨info, found, ran⟩ := invariant.startedState id started
    obtain ⟨new, present, state⟩ := forward id info found
    exact ⟨new, present, state ▸ ran⟩

/-- A queued task that nobody holds yet joins the pool's queue. -/
theorem enqueue (invariant : SchedulingInvariant find queue worker history) {taskId : TaskId}
    (absent : taskId ∉ queue ++ worker.scheduledTasks)
    (queued : ∃ info, find taskId = some info ∧ info.taskState = .queued) :
    SchedulingInvariant find (queue ++ [taskId]) worker history where
  pendingNodup := by
    have together : (taskId :: (queue ++ worker.scheduledTasks)).Nodup :=
      List.nodup_cons.mpr ⟨absent, invariant.pendingNodup⟩
    have reordered : (queue ++ [taskId] ++ worker.scheduledTasks).Perm
        (taskId :: (queue ++ worker.scheduledTasks)) := by
      rw [List.append_assoc]
      exact List.perm_middle
    exact reordered.nodup_iff.mpr together
  pendingQueued := by
    intro other member
    simp only [List.mem_append, List.mem_singleton] at member
    rcases member with (inQueue | rfl) | held
    · exact invariant.pendingQueued other (List.mem_append_left _ inQueue)
    · exact queued
    · exact invariant.pendingQueued other (List.mem_append_right _ held)
  runningProcessing := invariant.runningProcessing
  createdPresent := invariant.createdPresent
  waitingDeclared := invariant.waitingDeclared
  queuedDeclared := invariant.queuedDeclared
  startedState := invariant.startedState
  startedDeclared := invariant.startedDeclared
  startedOnce := invariant.startedOnce
  returnedStarted := invariant.returnedStarted
  returnedOnce := invariant.returnedOnce

/-- A task that has never been seen enters the lookup, waiting or failed. -/
theorem insertTask (invariant : SchedulingInvariant find queue worker history)
    {taskId : TaskId} (new : TaskInfo Body Callback) (fresh : find taskId = none) :
    SchedulingInvariant (Function.update find taskId (some new)) queue worker history := by
  have apart : ∀ other info, find other = some info → other ≠ taskId := by
    rintro other info found rfl
    rw [fresh] at found
    cases found
  have kept : ∀ other info, find other = some info →
      Function.update find taskId (some new) other = some info := by
    intro other info found
    rw [Function.update_of_ne (apart other info found), found]
  have back : ∀ other deps info, Event.created other deps ∈ history →
      Function.update find taskId (some new) other = some info → find other = some info := by
    intro other deps info created found
    obtain ⟨present, foundPresent⟩ := invariant.createdPresent other deps created
    rwa [Function.update_of_ne (apart other present foundPresent)] at found
  refine ⟨invariant.pendingNodup, ?_, ?_, ?_, ?_, ?_, ?_, invariant.startedDeclared,
    invariant.startedOnce, invariant.returnedStarted, invariant.returnedOnce⟩
  · intro other member
    obtain ⟨info, found, queued⟩ := invariant.pendingQueued other member
    exact ⟨info, kept other info found, queued⟩
  · intro other task callback running
    obtain ⟨⟨info, found, processing⟩, rest⟩ :=
      invariant.runningProcessing other task callback running
    exact ⟨⟨info, kept other info found, processing⟩, rest⟩
  · intro other deps created
    obtain ⟨info, found⟩ := invariant.createdPresent other deps created
    exact ⟨info, kept other info found⟩
  · intro other deps info dep created found
    exact invariant.waitingDeclared other deps info dep created (back other deps info created found)
  · intro other deps info dep created found
    exact invariant.queuedDeclared other deps info dep created (back other deps info created found)
  · intro other started
    obtain ⟨info, found, state⟩ := invariant.startedState other started
    exact ⟨info, kept other info found, state⟩

/-- A creation is recorded for a task that lists all its dependencies or cannot
run at all. -/
theorem recordCreated (invariant : SchedulingInvariant find queue worker history)
    {taskId : TaskId} {deps : Finset TaskId} {info : TaskInfo Body Callback}
    (present : find taskId = some info) (neverStarted : Event.started taskId ∉ history)
    (waits : info.taskState = .created → info.dependentTasks = deps)
    (queues : info.taskState = .queued → deps = ∅) :
    SchedulingInvariant find queue worker (.created taskId deps :: history) where
  pendingNodup := invariant.pendingNodup
  pendingQueued := invariant.pendingQueued
  runningProcessing := by
    intro other task callback running
    obtain ⟨processing, started, unreturned⟩ :=
      invariant.runningProcessing other task callback running
    exact ⟨processing, by simp [started], by simpa using unreturned⟩
  createdPresent := by
    intro other otherDeps created
    simp only [List.mem_cons, Event.created.injEq] at created
    rcases created with ⟨rfl, -⟩ | created
    · exact ⟨info, present⟩
    · exact invariant.createdPresent other otherDeps created
  waitingDeclared := by
    intro other otherDeps otherInfo dep created found state member
    simp only [List.mem_cons, Event.created.injEq] at created
    rcases created with ⟨rfl, rfl⟩ | created
    · rw [present] at found
      cases found
      exact Or.inl (by rwa [waits state])
    · simpa using invariant.waitingDeclared other otherDeps otherInfo dep created found state member
  queuedDeclared := by
    intro other otherDeps otherInfo dep created found state member
    simp only [List.mem_cons, Event.created.injEq] at created
    rcases created with ⟨rfl, rfl⟩ | created
    · rw [present] at found
      cases found
      rw [queues state] at member
      simp at member
    · simpa using invariant.queuedDeclared other otherDeps otherInfo dep created found state member
  startedState := by
    intro other started
    exact invariant.startedState other (by simpa using started)
  startedDeclared := by
    intro other otherDeps dep before started created member
    rw [List.suffix_cons_iff] at started
    have earlier := started.resolve_left (by simp)
    simp only [List.mem_cons, Event.created.injEq] at created
    rcases created with ⟨rfl, -⟩ | created
    · exact absurd (earlier.subset (List.mem_cons_self ..)) neverStarted
    · exact invariant.startedDeclared other otherDeps dep before earlier created member
  startedOnce := by
    intro other
    simpa using invariant.startedOnce other
  returnedStarted := by
    intro other ok returned
    simpa using invariant.returnedStarted other ok (by simpa using returned)
  returnedOnce := by
    intro other returned
    simpa using invariant.returnedOnce other (by simpa using returned)

/-- The worker starts the body of a task it has just marked as processing. -/
theorem recordStarted (invariant : SchedulingInvariant find queue .returned history)
    {taskId : TaskId} {info : TaskInfo Body Callback} {task : Body} {callback : Option Callback}
    (present : find taskId = some info) (processing : info.taskState = .processing)
    (neverStarted : Event.started taskId ∉ history)
    (ready : ∀ deps dep, Event.created taskId deps ∈ history → dep ∈ deps →
      Event.returned dep true ∈ history) :
    SchedulingInvariant find queue (.running taskId task callback)
      (.started taskId :: history) where
  pendingNodup := invariant.pendingNodup
  pendingQueued := invariant.pendingQueued
  runningProcessing := by
    intro other otherTask otherCallback running
    cases running
    refine ⟨⟨info, present, processing⟩, by simp, ?_⟩
    intro ok returned
    exact neverStarted (invariant.returnedStarted taskId ok (by simpa using returned))
  createdPresent := by
    intro other deps created
    exact invariant.createdPresent other deps (by simpa using created)
  waitingDeclared := by
    intro other deps otherInfo dep created found state member
    simpa using invariant.waitingDeclared other deps otherInfo dep (by simpa using created) found
      state member
  queuedDeclared := by
    intro other deps otherInfo dep created found state member
    simpa using invariant.queuedDeclared other deps otherInfo dep (by simpa using created) found
      state member
  startedState := by
    intro other started
    simp only [List.mem_cons, Event.started.injEq] at started
    rcases started with rfl | started
    · exact ⟨info, present, Or.inl processing⟩
    · exact invariant.startedState other started
  startedDeclared := by
    intro other deps dep before started created member
    rw [List.suffix_cons_iff] at started
    simp only [List.mem_cons, reduceCtorEq, false_or] at created
    rcases started with now | earlier
    · cases now
      exact ready deps dep created member
    · exact invariant.startedDeclared other deps dep before earlier created member
  startedOnce := by
    intro other
    by_cases same : other = taskId
    · subst same
      rw [List.count_cons_self, List.count_eq_zero_of_not_mem neverStarted]
    · rw [List.count_cons_of_ne (by simpa using Ne.symm same)]
      exact invariant.startedOnce other
  returnedStarted := by
    intro other ok returned
    simp [invariant.returnedStarted other ok (by simpa using returned)]
  returnedOnce := by
    intro other returned
    simpa using invariant.returnedOnce other (by simpa using returned)

/-- The running body returns. -/
theorem recordReturned {taskId : TaskId} {task : Body} {callback : Option Callback}
    (invariant : SchedulingInvariant find queue (.running taskId task callback) history)
    (ok : Bool) :
    SchedulingInvariant find queue .returned (.returned taskId ok :: history) := by
  obtain ⟨-, started, unreturned⟩ := invariant.runningProcessing taskId task callback rfl
  have released := invariant.release
  refine ⟨released.pendingNodup, released.pendingQueued, nofun, ?_, ?_, ?_, ?_, ?_, ?_, ?_, ?_⟩
  · intro other deps created
    exact invariant.createdPresent other deps (by simpa using created)
  · intro other deps info dep created found state member
    rcases invariant.waitingDeclared other deps info dep (by simpa using created) found state
      member with listed | returned
    · exact Or.inl listed
    · exact Or.inr (List.mem_cons_of_mem _ returned)
  · intro other deps info dep created found state member
    exact List.mem_cons_of_mem _
      (invariant.queuedDeclared other deps info dep (by simpa using created) found state member)
  · intro other otherStarted
    exact invariant.startedState other (by simpa using otherStarted)
  · intro other deps dep before otherStarted created member
    rw [List.suffix_cons_iff] at otherStarted
    have earlier := otherStarted.resolve_left (by simp)
    exact invariant.startedDeclared other deps dep before earlier (by simpa using created) member
  · intro other
    simpa using invariant.startedOnce other
  · intro other otherOk returned
    simp only [List.mem_cons, Event.returned.injEq] at returned
    rcases returned with ⟨rfl, -⟩ | returned
    · exact List.mem_cons_of_mem _ started
    · exact List.mem_cons_of_mem _ (invariant.returnedStarted other otherOk returned)
  · intro other returnedOk returnedError
    simp only [List.mem_cons, Event.returned.injEq] at returnedOk returnedError
    rcases returnedOk with ⟨rfl, rfl⟩ | returnedOk
    · rcases returnedError with ⟨-, impossible⟩ | returnedError
      · cases impossible
      · exact unreturned false returnedError
    · rcases returnedError with ⟨rfl, -⟩ | returnedError
      · exact unreturned true returnedOk
      · exact invariant.returnedOnce other returnedOk returnedError

end SchedulingInvariant

/-! ## The operations of the manager -/

abbrev Manager.SafelyScheduled (manager : Manager Body Callback World)
    (worker : Worker Body Callback) (history : List Event) : Prop :=
  SchedulingInvariant manager.find manager.executionThreadPool.tasks worker history

namespace Manager.SafelyScheduled

variable (invoke : Callback → StatusOr (Responses Score) → World → World)
variable {manager next : Manager Body Callback World}
variable {worker : Worker Body Callback} {history : List Event}

/-- A task that waits is in nobody's queue. -/
theorem not_pending (safe : manager.SafelyScheduled worker history) {taskId : TaskId}
    {info : TaskInfo Body Callback} (present : manager.find taskId = some info)
    (notQueued : info.taskState ≠ .queued) :
    taskId ∉ manager.executionThreadPool.tasks ++ worker.scheduledTasks := by
  intro member
  obtain ⟨other, found, queued⟩ := safe.pendingQueued taskId member
  rw [present] at found
  cases found
  exact notQueued queued

/-- `QueueTask`, accepted or not. -/
theorem queueTask {workerThread : StatusOr Unit} {taskId : TaskId} {status : StatusOr Unit}
    (safe : manager.SafelyScheduled worker history)
    (result : manager.queueTask invoke workerThread taskId = (status, next)) :
    next.SafelyScheduled worker history := by
  cases status with
  | error failure =>
      obtain ⟨sameFind, samePool⟩ := queueTask_error invoke result
      rw [SafelyScheduled, sameFind, samePool]
      exact safe
  | ok _ =>
      obtain ⟨info, present, created, independent, scheduled, found⟩ := queueTask_ok invoke result
      have absent := safe.not_pending present (by simp [created])
      have updated := safe.update { info with taskState := .queued } present
        (fun queued => by simp [created] at queued)
        (fun processing => by simp [created] at processing)
        (fun waiting => by cases waiting)
        (fun _ => Or.inr ⟨created, independent⟩)
        (fun ran => by simp [created, HasRun] at ran)
      rw [SafelyScheduled, found, (ThreadPool.schedule_ok scheduled).1]
      exact updated.enqueue absent ⟨_, Function.update_self .., rfl⟩

/-- Taking down one waiting task. -/
theorem failDependentTask {taskId : TaskId} (safe : manager.SafelyScheduled worker history)
    (waiting : ∃ info, manager.find taskId = some info ∧ info.taskState = .created) :
    (manager.failDependentTask invoke taskId).SafelyScheduled worker history := by
  obtain ⟨info, present, created⟩ := waiting
  rw [SafelyScheduled, find_failDependentTask, pool_failDependentTask, present]
  exact safe.update _ present
    (fun queued => by simp [created] at queued)
    (fun processing => by simp [created] at processing)
    (fun waiting => by cases waiting)
    (fun queued => by cases queued)
    (fun ran => by simp [created, HasRun] at ran)

/-- Taking down any list of distinct waiting tasks. -/
theorem failDependentTasks {taskIds : List TaskId} (distinct : taskIds.Nodup)
    (safe : manager.SafelyScheduled worker history)
    (waiting : ∀ id ∈ taskIds, ∃ info, manager.find id = some info ∧ info.taskState = .created) :
    (taskIds.foldl (Manager.failDependentTask invoke) manager).SafelyScheduled worker history := by
  induction taskIds generalizing manager with
  | nil => exact safe
  | cons taskId rest inductionHypothesis =>
      rw [List.nodup_cons] at distinct
      refine inductionHypothesis distinct.2
        (safe.failDependentTask invoke (waiting taskId (List.mem_cons_self ..))) ?_
      intro id member
      have apart : id ≠ taskId := fun same => distinct.1 (same ▸ member)
      rw [find_failDependentTask, Function.update_of_ne apart]
      exact waiting id (List.mem_cons_of_mem _ member)

/-- Releasing the followers of a task whose body has returned OK, wherever the
loop ends. -/
theorem releaseFollowing {workerThread : StatusOr Unit} {callback : Option Callback}
    {taskId : TaskId} {following : List TaskId} {status : StatusOr Unit}
    (safe : manager.SafelyScheduled worker history)
    (returned : Event.returned taskId true ∈ history)
    (result : manager.releaseFollowing invoke workerThread callback taskId following =
      (status, next)) :
    next.SafelyScheduled worker history := by
  induction following generalizing manager with
  | nil =>
      cases result
      exact safe
  | cons followingTaskId rest inductionHypothesis =>
      unfold Manager.releaseFollowing at result
      rcases checked : manager.confirmTaskState invoke followingTaskId .created true with
        ⟨failure | _, confirmed⟩
      · obtain ⟨sameFind, samePool⟩ := confirmTaskState_frame invoke checked
        simp only [checked] at result
        cases result
        simpa [SafelyScheduled, sameFind, samePool] using safe
      · obtain ⟨rfl, info, present, created, -⟩ := confirmTaskState_ok invoke checked
        simp only [checked, present] at result
        have erased : (confirmed.modify followingTaskId fun info =>
            { info with dependentTasks := info.dependentTasks.erase taskId }).SafelyScheduled
              worker history := by
          rw [SafelyScheduled, find_modify, pool_modify, present]
          refine safe.update _ present
            (fun queued => Or.inl queued) (fun processing => Or.inl processing) ?_
            (fun queued => Or.inl queued) (fun ran => ran)
          intro _
          refine ⟨created, fun dep member => ?_⟩
          by_cases finished : dep = taskId
          · exact Or.inr (finished ▸ returned)
          · exact Or.inl (Finset.mem_erase.mpr ⟨finished, member⟩)
        split at result
        · cases result
          simpa [SafelyScheduled] using safe
        · split at result
          · split at result
            next queuedStatus queuedManager queueing =>
              cases result
              exact erased.queueTask invoke queueing
            next queuedManager queueing =>
              exact inductionHypothesis (erased.queueTask invoke queueing) result
          · exact inductionHypothesis erased result

/-- A task whose body has run takes its final state. -/
theorem setFinalState {taskId : TaskId} {taskState : TaskState}
    (safe : manager.SafelyScheduled .returned history)
    (started : Event.started taskId ∈ history)
    (final : taskState = .done ∨ taskState = .maxNumTokensReached ∨ taskState = .failed) :
    (manager.setTaskState taskId taskState).SafelyScheduled .returned history := by
  obtain ⟨info, present, ran⟩ := safe.startedState taskId started
  rw [SafelyScheduled, find_setTaskState, pool_setTaskState, present]
  refine safe.update _ present ?_ (fun _ => Or.inr nofun) ?_ ?_ (fun _ => Or.inr final)
  · intro queued
    simp [HasRun, queued] at ran
  · rintro rfl
    simp at final
  · rintro rfl
    simp at final

/-- `FinishTask`, wherever it returns. -/
theorem finishTask {order failOrder : HashOrder} {workerThread : StatusOr Unit}
    {taskId : TaskId} {callback : Option Callback} {outcome : TaskOutcome Score}
    (safe : manager.SafelyScheduled .returned history)
    (started : Event.started taskId ∈ history)
    (returned : Event.returned taskId outcome.isOk ∈ history) :
    (manager.finishTask invoke order failOrder workerThread taskId outcome.responses
      callback).2.SafelyScheduled .returned history := by
  unfold Manager.finishTask
  split
  · exact safe
  · rcases checked : manager.confirmTaskState invoke taskId .processing false with
      ⟨failure | _, confirmed⟩
    · obtain ⟨sameFind, samePool⟩ := confirmTaskState_frame invoke checked
      simpa [SafelyScheduled, sameFind, samePool] using safe
    · obtain ⟨rfl, -⟩ := confirmTaskState_ok invoke checked
      cases outcome with
      | error failure =>
          simp only [TaskOutcome.responses]
          cases collected : followingWaitingTasks order confirmed.find
              (confirmed.taskLookup.keys.length + 1) taskId with
          | error status => simpa [SafelyScheduled] using safe
          | ok waiting =>
              have failed := safe.failDependentTasks invoke (failOrder.nodup_order taskId waiting)
                (fun id member => followingWaitingTasks_created collected id
                  ((failOrder.mem_order taskId waiting id).mp member))
              have signalled : (((failOrder.order taskId waiting).foldl
                  (Manager.failDependentTask invoke) confirmed).runCallback invoke callback
                  (.error failure)).SafelyScheduled .returned history := by
                simpa [SafelyScheduled] using failed
              exact signalled.setFinalState started (by simp)
      | ok response =>
          simp only [TaskOutcome.responses]
          split
          next status released looped => exact safe.releaseFollowing invoke returned looped
          next released looped =>
            have followed := safe.releaseFollowing invoke returned looped
            have signalled : (released.runCallback invoke callback
                (.ok response.1)).SafelyScheduled .returned history := by
              simpa [SafelyScheduled] using followed
            exact signalled.setFinalState started (by
              rcases response.2 with done | full
              · exact Or.inl done
              · exact Or.inr (Or.inl full))

/-- `CreateTask`, accepted and recorded. -/
theorem createTask_ok {order : HashOrder} {workerThread : StatusOr Unit} {taskId : TaskId}
    {task : Body} {dependentTasks : Finset TaskId} {callback : Callback}
    (safe : manager.SafelyScheduled worker history)
    (created : manager.createTask invoke order workerThread taskId task dependentTasks callback =
      (.ok (), next)) :
    next.SafelyScheduled worker (.created taskId dependentTasks :: history) := by
  obtain ⟨fresh, ⟨-, taskState, registered, checked, samePool, found⟩ |
    ⟨independent, scheduled, found⟩⟩ := Manager.createTask_ok invoke created
  · have neverStarted : Event.started taskId ∉ history := fun started => by
      obtain ⟨info, present, -⟩ := safe.startedState taskId started
      rw [fresh] at present
      cases present
    have sameStates := checkDependencies_find taskId (order.order taskId dependentTasks) .created
      manager
    rw [checked] at sameStates
    have unregistered : registered.find taskId = none := by
      have agree := sameStates taskId
      rw [fresh, Option.map_none, Option.map_eq_none_iff] at agree
      exact agree
    rw [SafelyScheduled, found, samePool]
    refine ((safe.congr sameStates).insertTask _ unregistered).recordCreated
      (Function.update_self ..) neverStarted (fun _ => rfl) ?_
    intro queued
    rcases checkDependencies_state checked with state | state <;>
      simp [newTask, state] at queued
  · have neverStarted : Event.started taskId ∉ history := fun started => by
      obtain ⟨info, present, -⟩ := safe.startedState taskId started
      rw [fresh] at present
      cases present
    have absent : taskId ∉ manager.executionThreadPool.tasks ++ worker.scheduledTasks := by
      intro member
      obtain ⟨info, present, -⟩ := safe.pendingQueued taskId member
      rw [fresh] at present
      cases present
    rw [SafelyScheduled, found, (ThreadPool.schedule_ok scheduled).1]
    have inserted := safe.insertTask (newTask task .queued ∅ callback) fresh
    have queued := inserted.enqueue absent ⟨_, Function.update_self .., rfl⟩
    exact queued.recordCreated (Function.update_self ..) neverStarted (fun state => by cases state)
      (fun _ => independent)

/-- `CreateTask`, rejected. -/
theorem createTask_error {order : HashOrder} {workerThread : StatusOr Unit} {taskId : TaskId}
    {task : Body} {dependentTasks : Finset TaskId} {callback : Callback} {status : Status}
    (safe : manager.SafelyScheduled worker history)
    (rejected : manager.createTask invoke order workerThread taskId task dependentTasks callback =
      (.error status, next)) :
    next.SafelyScheduled worker history := by
  obtain ⟨samePool, ⟨-, rfl⟩ | ⟨-, checked⟩ | ⟨fresh, -, -, found⟩⟩ :=
    Manager.createTask_error invoke rejected
  · exact safe
  · have sameStates := checkDependencies_find taskId (order.order taskId dependentTasks) .created
      manager
    rw [checked] at sameStates
    rw [SafelyScheduled, samePool]
    exact safe.congr sameStates
  · rw [SafelyScheduled, found, samePool]
    exact safe.insertTask _ fresh

/-- `StartTask`, accepted and recorded. -/
theorem startTask_ok {taskId : TaskId} {task : Body} {callback : Option Callback}
    (safe : manager.SafelyScheduled (.scheduled taskId) history)
    (started : manager.startTask invoke taskId = (.ok (task, callback), next)) :
    next.SafelyScheduled (.running taskId task callback) (.started taskId :: history) := by
  obtain ⟨info, present, queued, -, -, -, samePool, found⟩ := Manager.startTask_ok invoke started
  have neverStarted : Event.started taskId ∉ history := fun earlier => by
    obtain ⟨other, otherPresent, ran⟩ := safe.startedState taskId earlier
    rw [present] at otherPresent
    cases otherPresent
    simp [HasRun, queued] at ran
  have unqueued : taskId ∉ manager.executionThreadPool.tasks := fun member =>
    List.disjoint_of_nodup_append safe.pendingNodup member (by simp [Worker.scheduledTasks])
  have processing := safe.release.update
    { info with taskState := .processing, task := none, callback := none } present
    (fun _ => Or.inr (by simpa [Worker.scheduledTasks] using unqueued))
    (fun state => Or.inl rfl)
    (fun state => by cases state)
    (fun state => by cases state)
    (fun _ => Or.inl rfl)
  rw [SafelyScheduled, found, samePool]
  refine processing.recordStarted (Function.update_self ..) rfl neverStarted ?_
  intro deps dep created member
  exact safe.queuedDeclared taskId deps info dep created present queued member

/-- The worker takes the front of the queue. -/
theorem takeTask {taskId : TaskId} {executionThreadPool : ThreadPool TaskId}
    (safe : manager.SafelyScheduled (.waiting : Worker Body Callback) history)
    (taken : manager.executionThreadPool.takeTask = some (taskId, executionThreadPool)) :
    ({ manager with executionThreadPool } : Manager Body Callback World).SafelyScheduled
      (.scheduled taskId) history := by
  obtain ⟨rest, queue, rfl⟩ := ThreadPool.takeTask_some taken
  have front : (manager.executionThreadPool.tasks ++ []).Perm (rest ++ [taskId]) := by
    rw [List.append_nil, queue]
    exact (List.perm_append_singleton taskId rest).symm
  refine { safe with
    pendingNodup := front.nodup_iff.mp safe.pendingNodup
    pendingQueued := fun id member => safe.pendingQueued id (front.mem_iff.mpr member)
    runningProcessing := nofun }

/-- The worker, holding nothing, goes back to waiting. -/
theorem completeTask (safe : manager.SafelyScheduled .returned history) :
    ({ manager with executionThreadPool := manager.executionThreadPool.completeTask } :
      Manager Body Callback World).SafelyScheduled .waiting history :=
  { safe with runningProcessing := nofun }

end Manager.SafelyScheduled

/-! ## Runs -/

namespace System

variable (invoke : Callback → StatusOr (Responses Score) → World → World)

/-- The scheduling invariant holds before the first task. -/
theorem safelyScheduled_initial (world : World) :
    (Manager.create world : Manager Body Callback World).SafelyScheduled .waiting [] where
  pendingNodup := by simp [Manager.create, ThreadPool.create, Worker.scheduledTasks]
  pendingQueued := by simp [Manager.create, ThreadPool.create, Worker.scheduledTasks]
  runningProcessing := nofun
  createdPresent := by simp
  waitingDeclared := by simp
  queuedDeclared := by simp
  startedState := by simp
  startedDeclared := by simp
  startedOnce := by simp
  returnedStarted := by simp
  returnedOnce := by simp

/-- Every step keeps the scheduling invariant. -/
theorem safelyScheduled_step {system next : System Body Callback World}
    {action : Action Body Callback Score}
    (safe : system.manager.SafelyScheduled system.worker system.history)
    (stepped : system.step invoke action = some next) :
    next.manager.SafelyScheduled next.worker next.history := by
  cases action with
  | createTask order workerThread taskId task dependentTasks callback =>
      simp only [step] at stepped
      split at stepped
      next manager created =>
        cases stepped
        exact safe.createTask_ok invoke created
      next status manager rejected =>
        cases stepped
        exact safe.createTask_error invoke rejected
  | takeTask =>
      simp only [step] at stepped
      split at stepped
      next taskId executionThreadPool waiting taken =>
        cases stepped
        rw [waiting] at safe
        exact safe.takeTask taken
      · cases stepped
  | startTask =>
      simp only [step] at stepped
      split at stepped
      next taskId scheduled =>
        rw [scheduled] at safe
        split at stepped
        next task callback manager started =>
          cases stepped
          exact safe.startTask_ok invoke started
        next status manager rejected =>
          cases stepped
          obtain ⟨sameFind, samePool⟩ := Manager.startTask_error invoke rejected
          rw [Manager.SafelyScheduled, sameFind, samePool]
          exact safe.release
      · cases stepped
  | notify responses =>
      simp only [step] at stepped
      split at stepped
      · cases stepped
        simpa [Manager.SafelyScheduled] using safe
      · cases stepped
  | finishTask order failOrder workerThread outcome =>
      simp only [step] at stepped
      split at stepped
      next taskId task callback running =>
        cases stepped
        rw [running] at safe
        obtain ⟨-, started, -⟩ := safe.runningProcessing taskId task callback rfl
        have recorded : system.manager.SafelyScheduled .returned
            (.returned taskId outcome.isOk :: system.history) :=
          safe.recordReturned outcome.isOk
        exact recorded.finishTask invoke (List.mem_cons_of_mem _ started)
          (List.mem_cons_self ..)
      · cases stepped
  | completeTask =>
      simp only [step] at stepped
      split at stepped
      next returned =>
        cases stepped
        rw [returned] at safe
        exact safe.completeTask
      · cases stepped

/-- Every reachable state is safely scheduled. -/
theorem safelyScheduled_of_reachable {system : System Body Callback World}
    (reached : (machine invoke).Reachable system) :
    system.manager.SafelyScheduled system.worker system.history :=
  reached.invariant
    (fun system => system.manager.SafelyScheduled system.worker system.history)
    (by
      rintro _ ⟨world, rfl⟩
      exact safelyScheduled_initial world)
    (fun _ _ _ safe _ stepped => safelyScheduled_step invoke safe stepped)

/-- A task that cannot return OK any more. -/
def CannotSucceed (system : System Body Callback World) (taskId : TaskId) : Prop :=
  Event.returned taskId false ∈ system.history ∨
    system.taskState taskId = some .dependentTaskFailed

/-- What has failed stays failed. -/
theorem CannotSucceed.later {system later : System Body Callback World} {taskId : TaskId}
    {actions : List (Action Body Callback Score)} (lost : system.CannotSucceed taskId)
    (executed : (machine invoke).execute system actions = some later) :
    later.CannotSucceed taskId := by
  rcases lost with returned | abandoned
  · exact Or.inl ((execute_evolves invoke executed).2.subset returned)
  · exact Or.inr (taskState_final invoke executed abandoned rfl)

/-- A task that cannot succeed has not succeeded. -/
theorem CannotSucceed.not_returned {system : System Body Callback World} {taskId : TaskId}
    (safe : system.manager.SafelyScheduled system.worker system.history)
    (lost : system.CannotSucceed taskId) :
    Event.returned taskId true ∉ system.history := by
  intro returned
  rcases lost with failed | abandoned
  · exact safe.returnedOnce taskId returned failed
  · obtain ⟨info, present, ran⟩ :=
      safe.startedState taskId (safe.returnedStarted taskId true returned)
    simp [System.taskState, present] at abandoned
    simp [HasRun, abandoned] at ran

/-- A body that has started has all its transitive dependencies behind it. -/
theorem returned_of_started {system : System Body Callback World} {taskId depTaskId : TaskId}
    (safe : system.manager.SafelyScheduled system.worker system.history)
    (depends : Relation.TransGen system.DependsOn taskId depTaskId)
    (started : Event.started taskId ∈ system.history) :
    Event.returned depTaskId true ∈ system.history := by
  have direct : ∀ {id dep}, system.DependsOn id dep → Event.started id ∈ system.history →
      Event.returned dep true ∈ system.history := by
    rintro id dep ⟨deps, created, member⟩ idStarted
    obtain ⟨after, before, split⟩ := List.append_of_mem idStarted
    have suffix : (.started id :: before) <:+ system.history := ⟨after, split.symm⟩
    exact suffix.subset (List.mem_cons_of_mem _
      (safe.startedDeclared id deps dep before suffix created member))
  induction depends with
  | single depends => exact direct depends started
  | tail _ depends inductionHypothesis =>
      exact direct depends (safe.returnedStarted _ true inductionHypothesis)

/-- Scheduling safety: in every reachable state a started body had all its
declared dependencies return OK before, no body has started twice, and whatever
depends on a task that failed, or was marked so, is never started afterwards or
before. -/
theorem scheduling_safety {system : System Body Callback World}
    (reached : (machine invoke).Reachable system) :
    (∀ taskId depTaskId before, (.started taskId :: before) <:+ system.history →
        system.DependsOn taskId depTaskId → Event.returned depTaskId true ∈ before) ∧
      (∀ taskId, system.history.count (.started taskId) ≤ 1) ∧
      ∀ depTaskId, system.CannotSucceed depTaskId →
        ∀ (actions : List (Action Body Callback Score)) (later : System Body Callback World),
          (machine invoke).execute system actions = some later →
          ∀ taskId, Relation.TransGen later.DependsOn taskId depTaskId →
            Event.started taskId ∉ later.history := by
  have safe := safelyScheduled_of_reachable invoke reached
  refine ⟨?_, safe.startedOnce, ?_⟩
  · rintro taskId depTaskId before suffix ⟨deps, created, member⟩
    exact safe.startedDeclared taskId deps depTaskId before suffix created member
  · intro depTaskId lost actions later executed taskId depends started
    have laterReached : (machine invoke).Reachable later :=
      reached.execute (Machine.guardedAlong_true actions system) executed
    have laterSafe := safelyScheduled_of_reachable invoke laterReached
    exact (lost.later invoke executed).not_returned laterSafe
      (returned_of_started laterSafe depends started)

/-- A task fails while another waits for it, and a third is created afterwards. -/
def failureRun : List (Action Unit Unit Int) :=
  [.createTask .ascending (.ok ()) 0 () ∅ (), .createTask .ascending (.ok ()) 1 () {0} (),
    .takeTask, .startTask,
    .finishTask .ascending .ascending (.ok ()) (.error (.internalError "body failed")),
    .completeTask, .createTask .ascending (.ok ()) 2 () {1} ()]

/-- Scheduling safety after `failureRun`: the third task is never started. -/
theorem scheduling_safety_failureRun :
    ∃ system, silentMachine.execute (initial ()) failureRun = some system ∧
      system.CannotSucceed 0 ∧ Relation.TransGen system.DependsOn 2 0 ∧
      Event.started 2 ∉ system.history := by
  have runs : (silentMachine.execute (initial ()) failureRun).isSome = true := by decide
  obtain ⟨system, executed⟩ := Option.isSome_iff_exists.mp runs
  have history : (silentMachine.execute (initial ()) failureRun).map System.history =
      some [.created 2 {1}, .returned 0 false, .started 0, .created 1 {0}, .created 0 ∅] := by
    decide
  rw [executed, Option.map_some, Option.some.injEq] at history
  have lost : system.CannotSucceed 0 := Or.inl (by rw [history]; decide)
  have depends : Relation.TransGen system.DependsOn 2 0 :=
    (Relation.TransGen.single (b := 1) ⟨{1}, by rw [history]; decide, by decide⟩).tail
      ⟨{0}, by rw [history]; decide, by decide⟩
  have safety := scheduling_safety (fun _ _ world => world)
    (Machine.reachable_of_execute ⟨(), rfl⟩ executed)
  exact ⟨system, executed, lost, depends, safety.2.2 0 lost [] system rfl 2 depends⟩

end System

end LiteRTLM.Framework.ExecutionManager
