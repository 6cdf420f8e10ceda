import LiteRTLM.Framework.ExecutionManager.System

/-!
Contract: one `SessionAdvanced`, its calling thread, and the execution manager
below it, as a state machine.

A call of the session is several steps, between which the worker may do
anything: the call takes a task id, then snapshots the set of processing tasks,
then adds its task, and `RunPrefill` then waits for the pool.

`RunDecodeAsync` captures its local `task_id` by reference in a callback that
outlives the call. What such a callback reads is not determined by the code, so
the id it erases is an argument of the call.

Owns: the session's state, the callbacks it hands to the manager, the calls and
their steps, and the log of the executor's `Prefill` calls.

Does not own: prompt templates and preprocessing, which are a parameter, and the
decode loop, whose outcome is an argument.
-/

namespace LiteRTLM.Core.SessionAdvanced

open LiteRTLM.Engine LiteRTLM.Library LiteRTLM.Framework LiteRTLM.Framework.ExecutionManager

/-- The task functions of `AddPrefillTask` and `AddDecodeTask`. -/
inductive Body (Input : Type) where
  | prefill (inputs : List Input)
  | decode

/-- The callbacks the session hands to the manager. That of a prefill wraps the
callback of `RunPrefill`, which writes the call's local `status`, or a caller's
own. -/
inductive Callback where
  | nothing
  | prefill (taskId : TaskId) (runPrefill : Bool)
  | decode (danglingTaskId : TaskId)
deriving DecidableEq

/-- The state of a session, with the local `status` of each `RunPrefill` call. -/
structure SessionState where
  cancelled : Bool := false
  isFirstTurn : Bool := true
  processingTasks : Finset TaskId := ∅
  status : TaskId → StatusOr Unit := fun _ => .ok ()

def responsesStatus {Score : Type} : StatusOr (Responses Score) → StatusOr Unit
  | .ok _ => .ok ()
  | .error status => .error status

/-- The end of both callbacks: an OK response in an end state leaves the set. -/
def eraseEnded {Score : Type} (taskId : TaskId) (responses : StatusOr (Responses Score))
    (state : SessionState) : SessionState :=
  match responses with
  | .ok responses =>
      if isTaskEndState responses.taskState then
        { state with processingTasks := state.processingTasks.erase taskId }
      else
        state
  | .error _ => state

def invoke (Score : Type) (callback : Callback) (responses : StatusOr (Responses Score))
    (state : SessionState) : SessionState :=
  match callback with
  | .nothing => state
  | .prefill taskId runPrefill =>
      eraseEnded taskId responses <|
        if runPrefill then
          { state with status := Function.update state.status taskId (responsesStatus responses) }
        else
          state
  | .decode danglingTaskId => eraseEnded danglingTaskId responses state

/-- A call that has taken its task id. -/
inductive Call (Input : Type) where
  | prefill (contents inputs : List Input) (runPrefill : Bool)
  | decode (danglingTaskId : TaskId)

namespace Call

variable {Input : Type}

def task : Call Input → Body Input
  | .prefill _ inputs _ => .prefill inputs
  | .decode _ => .decode

def callback (taskId : TaskId) : Call Input → Callback
  | .prefill _ _ runPrefill => .prefill taskId runPrefill
  | .decode danglingTaskId => .decode danglingTaskId

end Call

/-- Where the calling thread stands. -/
inductive Caller (Input : Type) where
  | idle
  | numbered (call : Call Input) (taskId : TaskId)
  | registered (call : Call Input) (taskId : TaskId) (depTasks : Finset TaskId)
  | waiting (contents inputs : List Input) (taskId : TaskId)

/-- A call of the executor's `Prefill` by a prefill task. -/
structure PrefillExecution (Input : Type) where
  taskId : TaskId
  inputs : List Input
  ok : Bool
deriving DecidableEq

/-- A returned `RunPrefill`, with its task if it got as far as adding one. -/
structure PrefillReturn (Input : Type) where
  contents : List Input
  task : Option (TaskId × List Input)
  status : StatusOr Unit

/-- What the task function of `AddPrefillTask` does: fail before it calls the
executor, or call it, after which the benchmark may still fail. -/
inductive PrefillRun where
  | rejected (status : Status)
  | executed (result turnEnd : StatusOr Unit)

/-- What the task function returns. -/
def PrefillRun.outcome {Score : Type} : PrefillRun → TaskOutcome Score
  | .rejected status => .error status
  | .executed (.error status) _ => .error status
  | .executed (.ok ()) (.error status) => .error status
  | .executed (.ok ()) (.ok ()) => .ok ⟨.ofState .done, Or.inl rfl⟩

/-- The executor calls it makes. -/
def PrefillRun.executions {Input : Type} (taskId : TaskId) (inputs : List Input) :
    PrefillRun → List (PrefillExecution Input)
  | .rejected _ => []
  | .executed result _ => [⟨taskId, inputs, result.isOk⟩]

/-- The run of a task function. -/
inductive BodyRun (Score : Type) where
  | prefill (run : PrefillRun)
  | decode (outcome : TaskOutcome Score)

def BodyRun.outcome {Score : Type} : BodyRun Score → TaskOutcome Score
  | .prefill run => run.outcome
  | .decode outcome => outcome

/-- The session, its calling thread, and the manager it runs on. -/
structure Session (Input : Type) where
  system : System (Body Input) Callback SessionState
  caller : Caller Input
  prefills : List (PrefillExecution Input)
  returns : List (PrefillReturn Input)

inductive SessionAction (Input Score : Type) where
  /-- `RunPrefill` or `RunPrefillAsync`, up to `GetNewTaskId`. -/
  | prefill (contents : List Input) (runPrefill : Bool)
  /-- `RunDecodeAsync`, up to `GetNewTaskId`. -/
  | decode (danglingTaskId : TaskId)
  /-- The call's critical section of `processing_tasks_mutex_`. -/
  | register
  /-- The call's `AddPrefillTask` or `AddDecodeTask`. -/
  | addTask (order : HashOrder) (workerThread : StatusOr Unit)
  /-- `WaitUntilAllDone` returns, because the pool is done or on timeout. -/
  | endWait
  /-- `CancelProcess`. -/
  | cancel
  /-- The worker takes a task id, starts the task, or returns to the pool. -/
  | takeTask
  | startTask
  | completeTask
  /-- A running decode reports progress. -/
  | notify (texts : List String) (scores : List Score)
  /-- The running body returns and the worker runs `FinishTask`. -/
  | finishTask (order failOrder : HashOrder) (workerThread : StatusOr Unit)
      (run : BodyRun Score)

namespace Session

variable {Input Score : Type}

def initial : Session Input where
  system := .initial {}
  caller := .idle
  prefills := []
  returns := []

/-- Change the session's own state. -/
def withState (session : Session Input) (update : SessionState → SessionState) :
    Session Input :=
  { session with
    system := { session.system with
      manager := { session.system.manager with world := update session.system.manager.world } } }

/-- The worker takes one of its steps. -/
def withSystem (session : Session Input)
    (next : Option (System (Body Input) Callback SessionState)) : Option (Session Input) :=
  next.map fun system => { session with system }

/-- A prefill call returns; only the return of `RunPrefill` is recorded. -/
def returnPrefill (session : Session Input) (runPrefill : Bool) (contents : List Input)
    (task : Option (TaskId × List Input)) (status : StatusOr Unit) : Session Input :=
  { session with
    caller := .idle
    returns :=
      if runPrefill then ⟨contents, task, status⟩ :: session.returns else session.returns }

/-- A call whose task was rejected returns its error. -/
def rejectCall (session : Session Input) (taskId : TaskId) (status : Status) :
    Call Input → Session Input
  | .prefill contents inputs runPrefill =>
      session.returnPrefill runPrefill contents (some (taskId, inputs)) (.error status)
  | .decode _ => { session with caller := .idle }

/-- A call whose task was added returns, except that `RunPrefill` waits. -/
def acceptCall (session : Session Input) (taskId : TaskId) : Call Input → Session Input
  | .prefill contents inputs true => { session with caller := .waiting contents inputs taskId }
  | .prefill _ _ false => { session with caller := .idle }
  | .decode _ => { session with caller := .idle }

variable (preprocess : Bool → List Input → StatusOr (List Input) × Bool)

/-- One step of the calling thread or of the worker. `preprocess` stands for
`ApplyPromptTemplates` and `PreprocessContents`, which read and write
`is_first_turn_`. -/
def step (session : Session Input) : SessionAction Input Score → Option (Session Input)
  | .prefill contents runPrefill =>
      match session.caller with
      | .idle =>
          if contents = [] then
            some (session.returnPrefill runPrefill contents none
              (.error (.invalidArgumentError "Input is empty.")))
          else
            match preprocess session.system.manager.world.isFirstTurn contents with
            | (.error status, isFirstTurn) =>
                some ((session.withState fun state =>
                  { state with cancelled := false, isFirstTurn }).returnPrefill runPrefill contents
                    none (.error status))
            | (.ok inputs, isFirstTurn) =>
                let prepared := session.withState fun state =>
                  { state with cancelled := false, isFirstTurn }
                let (taskId, manager) := prepared.system.manager.getNewTaskId
                some { prepared with
                  system := { prepared.system with manager }
                  caller := .numbered (.prefill contents inputs runPrefill) taskId }
      | _ => none
  | .decode danglingTaskId =>
      match session.caller with
      | .idle =>
          let prepared := session.withState fun state => { state with cancelled := false }
          let (taskId, manager) := prepared.system.manager.getNewTaskId
          some { prepared with
            system := { prepared.system with manager }
            caller := .numbered (.decode danglingTaskId) taskId }
      | _ => none
  | .register =>
      match session.caller with
      | .numbered call taskId =>
          let depTasks := session.system.manager.world.processingTasks
          some { session.withState fun state =>
              { state with processingTasks := insert taskId state.processingTasks } with
            caller := .registered call taskId depTasks }
      | _ => none
  | .addTask order workerThread =>
      match session.caller with
      | .registered call taskId depTasks =>
          match session.system.manager.addTask (invoke Score) order workerThread
              .nothing taskId call.task depTasks (some (call.callback taskId)) with
          | (.ok (), manager) =>
              some ({ session with system := { session.system with
                manager, history := .created taskId depTasks :: session.system.history }
                }.acceptCall taskId call)
          | (.error status, manager) =>
              some ({ session with
                system := { session.system with manager } }.rejectCall taskId status call)
      | _ => none
  | .endWait =>
      match session.caller with
      | .waiting contents inputs taskId =>
          let status :=
            match session.system.manager.executionThreadPool.waitUntilDone with
            | .error status => .error status
            | .ok () => session.system.manager.world.status taskId
          some (session.returnPrefill true contents (some (taskId, inputs)) status)
      | _ => none
  | .cancel => some (session.withState fun state => { state with cancelled := true })
  | .takeTask => session.withSystem (session.system.step (invoke Score) .takeTask)
  | .startTask => session.withSystem (session.system.step (invoke Score) .startTask)
  | .completeTask =>
      session.withSystem (session.system.step (invoke Score) .completeTask)
  | .notify texts scores =>
      match session.system.worker with
      | .running _ .decode _ =>
          session.withSystem (session.system.step (invoke Score)
            (.notify (.ok { taskState := .processing, texts, scores })))
      | _ => none
  | .finishTask order failOrder workerThread run =>
      match session.system.worker, run with
      | .running taskId (.prefill inputs) _, .prefill prefillRun =>
          { session with
            prefills := prefillRun.executions taskId inputs ++ session.prefills }.withSystem
              (session.system.step (invoke Score)
                (.finishTask order failOrder workerThread prefillRun.outcome))
      | .running _ .decode _, .decode outcome =>
          session.withSystem (session.system.step (invoke Score)
            (.finishTask order failOrder workerThread outcome))
      | _, _ => none

def machine : Machine (Session Input) (SessionAction Input Score) where
  Initial := fun session => session = initial
  step := step preprocess

end Session

end LiteRTLM.Core.SessionAdvanced
