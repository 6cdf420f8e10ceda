import LiteRTLM.Framework.ExecutionManager.State

/-!
Contract: the task operations of `ExecutionManager`, each one critical section
of `task_lookup_mutex_`.

An operation returns its status together with the manager it leaves behind: an
early return keeps the effects made before it.

Owns: `CreateTask`, `QueueTask`, `StartTask`, `FollowingWaitingTasks` and
`FinishTask`, in the order of the source.

Does not own: when the operations are called, and the task bodies.

The order in which a hash set is iterated and the outcome of creating a worker
thread are arguments. `FollowingWaitingTasks` recurses along `following_tasks`;
its first argument bounds that recursion and is one more than the number of
tasks where it is called.
-/

namespace LiteRTLM.Framework.ExecutionManager

open LiteRTLM.Engine

namespace Manager

variable {Body Callback World Score : Type}
variable (invoke : Callback → StatusOr (Responses Score) → World → World)

/-- `task_lookup_.at(dep_task_id).following_tasks.insert(task_id)`. -/
def addFollowing (taskId depTaskId : TaskId) (manager : Manager Body Callback World) :
    Manager Body Callback World :=
  manager.modify depTaskId fun info =>
    { info with followingTasks := insert taskId info.followingTasks }

/-- The loop over the dependencies in `CreateTask`: the state the new task
starts in, after registering it with its unfinished dependencies. -/
def checkDependencies (taskId : TaskId) :
    List TaskId → TaskState → Manager Body Callback World →
      StatusOr TaskState × Manager Body Callback World
  | [], taskState, manager => (.ok taskState, manager)
  | depTaskId :: rest, taskState, manager =>
      match manager.find depTaskId with
      | none =>
          (.error (.invalidArgumentError
            s!"Dependency task {depTaskId} not found in task list."), manager)
      | some dependency =>
          if dependency.taskState = .failed ∨ dependency.taskState = .dependentTaskFailed then
            checkDependencies taskId rest .dependentTaskFailed manager
          else if dependency.taskState ≠ .done then
            checkDependencies taskId rest taskState (manager.addFollowing taskId depTaskId)
          else
            checkDependencies taskId rest taskState manager

def queueTask (workerThread : StatusOr Unit) (taskId : TaskId)
    (manager : Manager Body Callback World) :
    StatusOr Unit × Manager Body Callback World :=
  match manager.confirmTaskState invoke taskId .created true with
  | (.error status, manager) => (.error status, manager)
  | (.ok (), manager) =>
      match manager.find taskId with
      | none => (.ok (), manager)
      | some info =>
          if info.dependentTasks ≠ ∅ then
            (.error (.invalidArgumentError s!"Task {taskId} has dependent tasks not finished."),
              manager)
          else
            match manager.executionThreadPool.schedule workerThread taskId with
            | .error status => (.error status, manager)
            | .ok executionThreadPool =>
                let queued := { manager with executionThreadPool }.setTaskState taskId .queued
                (.ok (), queued.signal invoke taskId (.ok (.ofState .queued)))

def createTask (order : HashOrder) (workerThread : StatusOr Unit) (taskId : TaskId)
    (task : Body) (dependentTasks : Finset TaskId) (callback : Callback)
    (manager : Manager Body Callback World) :
    StatusOr Unit × Manager Body Callback World :=
  if (manager.find taskId).isSome then
    (.error (.invalidArgumentError s!"Task {taskId} already exists in task list."), manager)
  else
    match manager.checkDependencies taskId (order.order taskId dependentTasks) .created with
    | (.error status, manager) => (.error status, manager)
    | (.ok taskState, manager) =>
        let inserted := manager.put taskId
          { task := some task, taskState, dependentTasks, callback := some callback }
        let signalled := inserted.signal invoke taskId (.ok (.ofState taskState))
        if dependentTasks = ∅ then
          signalled.queueTask invoke workerThread taskId
        else
          (.ok (), signalled)

/-- `StartTask`: hands the task function and the callback to the worker. -/
def startTask (taskId : TaskId) (manager : Manager Body Callback World) :
    StatusOr (Body × Option Callback) × Manager Body Callback World :=
  match manager.confirmTaskState invoke taskId .queued true with
  | (.error status, manager) => (.error status, manager)
  | (.ok (), manager) =>
      match (manager.find taskId).bind TaskInfo.task with
      | none =>
          let errorStatus : Status :=
            .invalidArgumentError "Task is null when trying to start."
          (.error errorStatus, manager.signal invoke taskId (.error errorStatus))
      | some task =>
          let processing := manager.setTaskState taskId .processing
          let signalled := processing.signal invoke taskId (.ok (.ofState .processing))
          (.ok (task, (manager.find taskId).bind TaskInfo.callback),
            signalled.modify taskId fun info => { info with task := none, callback := none })

/-- The loop body of `FollowingWaitingTasks`; `recurse` is its call on the
following task. -/
def visitFollowing (find : TaskId → Option (TaskInfo Body Callback))
    (recurse : TaskId → StatusOr (Finset TaskId)) (taskId : TaskId) (waiting : Finset TaskId)
    (followingTaskId : TaskId) : StatusOr (Finset TaskId) :=
  match find followingTaskId with
  | none =>
      .error (.invalidArgumentError
        s!"Following task {followingTaskId} not found in task list.")
  | some following =>
      if taskId ∉ following.dependentTasks then
        .error (.invalidArgumentError
          s!"Following task {followingTaskId} does not depend on task {taskId}")
      else if following.taskState = .created then
        match recurse followingTaskId with
        | .error status => .error status
        | .ok next => .ok (insert followingTaskId waiting ∪ next)
      else
        .ok waiting

def followingWaitingTasks (order : HashOrder)
    (find : TaskId → Option (TaskInfo Body Callback)) : Nat → TaskId → StatusOr (Finset TaskId)
  | 0, _ => .error (.internalError "Stack overflow.")
  | depth + 1, taskId =>
      match find taskId with
      | none => .ok ∅
      | some info =>
          (order.order taskId info.followingTasks).foldlM
            (visitFollowing find (fun id => followingWaitingTasks order find depth id) taskId) ∅

/-- The loop body of `FinishTask` over the tasks that cannot run any more. -/
def failDependentTask (manager : Manager Body Callback World) (followingTaskId : TaskId) :
    Manager Body Callback World :=
  let cleared := manager.modify followingTaskId fun info => { info with dependentTasks := ∅ }
  let signalled := cleared.signal invoke followingTaskId (.ok (.ofState .dependentTaskFailed))
  signalled.setTaskState followingTaskId .dependentTaskFailed

/-- The loop of `FinishTask` over the tasks that follow a finished one. An
early return goes through `invoke_callback_and_return`, except the one from
`QueueTask`. -/
def releaseFollowing (workerThread : StatusOr Unit) (callback : Option Callback)
    (taskId : TaskId) :
    List TaskId → Manager Body Callback World → StatusOr Unit × Manager Body Callback World
  | [], manager => (.ok (), manager)
  | followingTaskId :: rest, manager =>
      match manager.confirmTaskState invoke followingTaskId .created true with
      | (.error status, manager) =>
          (.error status, manager.runCallback invoke callback (.error status))
      | (.ok (), manager) =>
          match manager.find followingTaskId with
          | none => (.ok (), manager)
          | some following =>
              if taskId ∉ following.dependentTasks then
                let errorStatus : Status := .invalidArgumentError
                  s!"Following task {followingTaskId} does not depend on task {taskId}"
                (.error errorStatus, manager.runCallback invoke callback (.error errorStatus))
              else
                let erased := manager.modify followingTaskId fun info =>
                  { info with dependentTasks := info.dependentTasks.erase taskId }
                if following.dependentTasks.erase taskId = ∅ then
                  match erased.queueTask invoke workerThread followingTaskId with
                  | (.error status, manager) => (.error status, manager)
                  | (.ok (), manager) =>
                      releaseFollowing workerThread callback taskId rest manager
                else
                  releaseFollowing workerThread callback taskId rest erased

/-- `FinishTask`. `order` iterates the task's followers, `failOrder` the set of
tasks that a failure takes down. -/
def finishTask (order failOrder : HashOrder) (workerThread : StatusOr Unit) (taskId : TaskId)
    (responses : StatusOr (Responses Score)) (callback : Option Callback)
    (manager : Manager Body Callback World) :
    StatusOr Unit × Manager Body Callback World :=
  if callback = none then
    (.error (.invalidArgumentError s!"Task {taskId} has null callback."), manager)
  else
    match manager.confirmTaskState invoke taskId .processing false with
    | (.error status, manager) =>
        (.error status, manager.runCallback invoke callback (.error status))
    | (.ok (), manager) =>
        match responses with
        | .error failure =>
            match followingWaitingTasks order manager.find
                (manager.taskLookup.keys.length + 1) taskId with
            | .error status =>
                (.error status, manager.runCallback invoke callback (.error status))
            | .ok waiting =>
                let failed := (failOrder.order taskId waiting).foldl (failDependentTask invoke)
                  manager
                let signalled := failed.runCallback invoke callback (.error failure)
                (.ok (), signalled.setTaskState taskId .failed)
        | .ok response =>
            let following := ((manager.find taskId).map TaskInfo.followingTasks).getD ∅
            match manager.releaseFollowing invoke workerThread callback taskId
                (order.order taskId following) with
            | (.error status, manager) => (.error status, manager)
            | (.ok (), manager) =>
                let signalled := manager.runCallback invoke callback (.ok response)
                (.ok (), signalled.setTaskState taskId response.taskState)

/-- `AddPrefillTask` and `AddDecodeTask`: `CreateTask` on the task function the
caller's arguments are captured in. A null callback is replaced by one that
does nothing. -/
def addTask (order : HashOrder) (workerThread : StatusOr Unit) (noCallback : Callback)
    (taskId : TaskId) (task : Body) (depTasks : Finset TaskId) (callback : Option Callback)
    (manager : Manager Body Callback World) :
    StatusOr Unit × Manager Body Callback World :=
  manager.createTask invoke order workerThread taskId task depTasks
    (callback.getD noCallback)

end Manager

end LiteRTLM.Framework.ExecutionManager
