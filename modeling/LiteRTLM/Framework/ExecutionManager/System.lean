import LiteRTLM.Library.Machine
import LiteRTLM.Framework.ExecutionManager.Operations

/-!
Contract: `ExecutionManager` with its callers and its single worker thread, as
a state machine.

Callers may create tasks at any moment. The worker takes a queued task id from
the pool, starts the task, runs its body, finishes it and returns to the pool;
between any two of these steps anything else may happen. The outcome of a body
is an argument of the step that finishes the task.

Owns: the worker's phases, the history of creations, starts and returns, the
actions, and the machine.

Does not own: the two callers' sessions above the manager.
-/

namespace LiteRTLM.Framework.ExecutionManager

open LiteRTLM.Engine LiteRTLM.Library

/-- What a task body returns: `Tasks::Prefill` and `Tasks::Decode` give an
error, or responses in one of these two states. -/
abbrev TaskOutcome (Score : Type) :=
  StatusOr { responses : Responses Score //
    responses.taskState = .done ∨ responses.taskState = .maxNumTokensReached }

def TaskOutcome.responses {Score : Type} (outcome : TaskOutcome Score) :
    StatusOr (Responses Score) :=
  match outcome with
  | .ok responses => .ok responses.1
  | .error status => .error status

/-- Where the worker thread stands in the callback `QueueTask` schedules. -/
inductive Worker (Body Callback : Type) where
  | waiting
  | scheduled (taskId : TaskId)
  | running (taskId : TaskId) (task : Body) (callback : Option Callback)
  | returned

/-- What has happened to the tasks so far. -/
inductive Event where
  /-- `CreateTask` has returned OK. -/
  | created (taskId : TaskId) (dependentTasks : Finset TaskId)
  /-- The task's body has been started. -/
  | started (taskId : TaskId)
  /-- The task's body has returned, OK or with an error. -/
  | returned (taskId : TaskId) (ok : Bool)
deriving DecidableEq

/-- The manager, its worker, and the history of events, newest first. -/
structure System (Body Callback World : Type) where
  manager : Manager Body Callback World
  worker : Worker Body Callback
  history : List Event

inductive Action (Body Callback Score : Type) where
  /-- A caller runs `CreateTask`. -/
  | createTask (order : HashOrder) (workerThread : StatusOr Unit) (taskId : TaskId)
      (task : Body) (dependentTasks : Finset TaskId) (callback : Callback)
  /-- The worker takes the front of the pool's queue. -/
  | takeTask
  /-- The worker runs `StartTask`. -/
  | startTask
  /-- The running body invokes its callback. -/
  | notify (responses : StatusOr (Responses Score))
  /-- The running body returns and the worker runs `FinishTask`. -/
  | finishTask (order failOrder : HashOrder) (workerThread : StatusOr Unit)
      (outcome : TaskOutcome Score)
  /-- The worker returns to the pool. -/
  | completeTask

namespace System

variable {Body Callback World Score : Type}
variable (invoke : Callback → StatusOr (Responses Score) → World → World)

def initial (world : World) : System Body Callback World where
  manager := .create world
  worker := .waiting
  history := []

def step (system : System Body Callback World) :
    Action Body Callback Score → Option (System Body Callback World)
  | .createTask order workerThread taskId task dependentTasks callback =>
      match system.manager.createTask invoke order workerThread taskId task dependentTasks
          callback with
      | (.ok (), manager) =>
          some { system with
            manager, history := .created taskId dependentTasks :: system.history }
      | (.error _, manager) => some { system with manager }
  | .takeTask =>
      match system.worker, system.manager.executionThreadPool.takeTask with
      | .waiting, some (taskId, executionThreadPool) =>
          some { system with
            manager := { system.manager with executionThreadPool }
            worker := .scheduled taskId }
      | _, _ => none
  | .startTask =>
      match system.worker with
      | .scheduled taskId =>
          match system.manager.startTask invoke taskId with
          | (.ok (task, callback), manager) =>
              some { manager, worker := .running taskId task callback,
                     history := .started taskId :: system.history }
          | (.error _, manager) => some { system with manager, worker := .returned }
      | _ => none
  | .notify responses =>
      match system.worker with
      | .running _ _ callback =>
          some { system with manager := system.manager.runCallback invoke callback responses }
      | _ => none
  | .finishTask order failOrder workerThread outcome =>
      match system.worker with
      | .running taskId _ callback =>
          some {
            manager := (system.manager.finishTask invoke order failOrder workerThread taskId
              outcome.responses callback).2
            worker := .returned
            history := .returned taskId outcome.isOk :: system.history }
      | _ => none
  | .completeTask =>
      match system.worker with
      | .returned =>
          some { system with
            manager := { system.manager with
              executionThreadPool := system.manager.executionThreadPool.completeTask }
            worker := .waiting }
      | _ => none

/-- The manager's state machine, for callbacks acting on the world through
`invoke`. -/
def machine : Machine (System Body Callback World) (Action Body Callback Score) where
  Initial := fun system => ∃ world, system = initial world
  step := step invoke

/-- The machine whose callers take no notice of their callbacks. -/
def silentMachine : Machine (System Unit Unit Unit) (Action Unit Unit Int) :=
  machine fun _ _ world => world

/-- `CreateTask` has returned OK for the task. -/
def Created (system : System Body Callback World) (taskId : TaskId) : Prop :=
  ∃ dependentTasks, Event.created taskId dependentTasks ∈ system.history

/-- `taskId` was declared to depend on `depTaskId` when it was created. -/
def DependsOn (system : System Body Callback World) (taskId depTaskId : TaskId) : Prop :=
  ∃ dependentTasks, Event.created taskId dependentTasks ∈ system.history ∧
    depTaskId ∈ dependentTasks

/-- The task's current state, if it is in the lookup. -/
def taskState (system : System Body Callback World) (taskId : TaskId) : Option TaskState :=
  (system.manager.find taskId).map TaskInfo.taskState

/-- The task's registered followers. -/
def followingTasks (system : System Body Callback World) (taskId : TaskId) : Finset TaskId :=
  ((system.manager.find taskId).map TaskInfo.followingTasks).getD ∅

end System

end LiteRTLM.Framework.ExecutionManager
