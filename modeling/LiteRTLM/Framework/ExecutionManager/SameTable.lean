import LiteRTLM.Framework.ExecutionManager.Progress

/-!
Contract: managers whose task tables agree entry by entry behave alike.

Two tables with the same entries may list them in different orders. No operation
can tell them apart, so a caller that leaves every entry as it was has left no
trace for the steps that follow.

Owns: the relation, its preservation by every operation, and the bisimulation of
the machine.

Does not own: which operations leave the entries as they were.
-/

namespace LiteRTLM.Framework.ExecutionManager

open LiteRTLM.Engine LiteRTLM.Library

variable {Body Callback World Score : Type}

namespace Manager

/-- The managers agree on every entry of the table and on everything else. -/
structure SameTable (left right : Manager Body Callback World) : Prop where
  find : left.find = right.find
  pool : left.executionThreadPool = right.executionThreadPool
  nextTaskId : left.nextTaskId = right.nextTaskId
  world : left.world = right.world

/-- Two results with the same status and managers that agree. -/
def SameResult {Result : Type} (left right : Result × Manager Body Callback World) : Prop :=
  left.1 = right.1 ∧ left.2.SameTable right.2

/-- The two results, taken apart. -/
theorem SameResult.parts {Result : Type} {left right : Result × Manager Body Callback World}
    (same : SameResult left right) : ∃ status leftNext rightNext,
      left = (status, leftNext) ∧ right = (status, rightNext) ∧ leftNext.SameTable rightNext := by
  obtain ⟨status, leftNext⟩ := left
  obtain ⟨rightStatus, rightNext⟩ := right
  obtain ⟨sameStatus, sameNext⟩ := same
  exact ⟨status, leftNext, rightNext, rfl, Prod.ext sameStatus.symm rfl, sameNext⟩

namespace SameTable

variable {left right : Manager Body Callback World}

/-- The tables have the same number of entries. -/
theorem keys_length (same : left.SameTable right) :
    left.taskLookup.keys.length = right.taskLookup.keys.length := by
  have members : ∀ id, id ∈ left.taskLookup.keys.toFinset ↔ (left.find id).isSome := by
    intro id
    rw [List.mem_toFinset]
    exact AList.lookup_isSome.symm
  rw [← System.card_members members]
  exact System.card_members fun id => by rw [members, same.find]

theorem modify (same : left.SameTable right) (taskId : TaskId)
    (update : TaskInfo Body Callback → TaskInfo Body Callback) :
    (left.modify taskId update).SameTable (right.modify taskId update) where
  find := by rw [find_modify, find_modify, same.find]
  pool := by rw [pool_modify, pool_modify, same.pool]
  nextTaskId := by rw [nextTaskId_modify, nextTaskId_modify, same.nextTaskId]
  world := by rw [world_modify, world_modify, same.world]

theorem put (same : left.SameTable right) (taskId : TaskId) (info : TaskInfo Body Callback) :
    (left.put taskId info).SameTable (right.put taskId info) where
  find := by rw [find_put, find_put, same.find]
  pool := same.pool
  nextTaskId := same.nextTaskId
  world := same.world

theorem withPool (same : left.SameTable right) (executionThreadPool : ThreadPool TaskId) :
    SameTable { left with executionThreadPool } { right with executionThreadPool } where
  find := same.find
  pool := rfl
  nextTaskId := same.nextTaskId
  world := same.world

variable (invoke : Callback → StatusOr (Responses Score) → World → World)

theorem runCallback (same : left.SameTable right) (callback : Option Callback)
    (responses : StatusOr (Responses Score)) :
    (left.runCallback invoke callback responses).SameTable
      (right.runCallback invoke callback responses) := by
  cases callback with
  | none => exact same
  | some callback =>
      exact { same with world := congrArg (invoke callback responses) same.world }

theorem signal (same : left.SameTable right) (taskId : TaskId)
    (responses : StatusOr (Responses Score)) :
    (left.signal invoke taskId responses).SameTable
      (right.signal invoke taskId responses) := by
  unfold Manager.signal
  rw [same.find]
  exact same.runCallback invoke _ responses

theorem confirmTaskState (same : left.SameTable right) (taskId : TaskId)
    (expectedState : TaskState) (triggerCallback : Bool) :
    SameResult (left.confirmTaskState invoke taskId expectedState triggerCallback)
      (right.confirmTaskState invoke taskId expectedState triggerCallback) := by
  unfold Manager.confirmTaskState
  rw [same.find]
  cases right.find taskId with
  | none => exact ⟨rfl, same⟩
  | some info =>
      simp only
      split_ifs
      · exact ⟨rfl, same⟩
      · exact ⟨rfl, same.signal invoke taskId _⟩
      · exact ⟨rfl, same⟩
      · exact ⟨rfl, same⟩

theorem queueTask (same : left.SameTable right) (workerThread : StatusOr Unit)
    (taskId : TaskId) :
    SameResult (left.queueTask invoke workerThread taskId)
      (right.queueTask invoke workerThread taskId) := by
  obtain ⟨status, leftNext, rightNext, leftChecked, rightChecked, sameNext⟩ :=
    (same.confirmTaskState invoke taskId .created true).parts
  unfold Manager.queueTask
  rw [leftChecked, rightChecked]
  cases status with
  | error status => exact ⟨rfl, sameNext⟩
  | ok _ =>
      simp only [sameNext.find, sameNext.pool]
      cases rightNext.find taskId with
      | none => exact ⟨rfl, sameNext⟩
      | some info =>
          by_cases dependent : info.dependentTasks ≠ ∅
          · simp only [if_pos dependent]
            exact ⟨rfl, sameNext⟩
          · simp only [if_neg dependent]
            cases rightNext.executionThreadPool.schedule workerThread taskId with
            | error status => exact ⟨rfl, sameNext⟩
            | ok pool =>
                exact ⟨rfl, ((sameNext.withPool pool).modify taskId _).signal invoke taskId _⟩

theorem checkDependencies (same : left.SameTable right) (taskId : TaskId)
    (dependencies : List TaskId) (taskState : TaskState) :
    SameResult (left.checkDependencies taskId dependencies taskState)
      (right.checkDependencies taskId dependencies taskState) := by
  induction dependencies generalizing left right taskState with
  | nil => exact ⟨rfl, same⟩
  | cons depTaskId rest inductionHypothesis =>
      unfold Manager.checkDependencies
      rw [same.find]
      cases right.find depTaskId with
      | none => exact ⟨rfl, same⟩
      | some dependency =>
          simp only
          split_ifs
          · exact inductionHypothesis same _
          · exact inductionHypothesis (same.modify depTaskId _) _
          · exact inductionHypothesis same _

theorem createTask (same : left.SameTable right) (order : HashOrder)
    (workerThread : StatusOr Unit) (taskId : TaskId) (task : Body)
    (dependentTasks : Finset TaskId) (callback : Callback) :
    SameResult
      (left.createTask invoke order workerThread taskId task dependentTasks callback)
      (right.createTask invoke order workerThread taskId task dependentTasks callback) := by
  unfold Manager.createTask
  rw [same.find]
  by_cases present : (right.find taskId).isSome
  · rw [if_pos present, if_pos present]
    exact ⟨rfl, same⟩
  · rw [if_neg present, if_neg present]
    obtain ⟨status, leftNext, rightNext, leftChecked, rightChecked, sameNext⟩ :=
      (same.checkDependencies taskId (order.order taskId dependentTasks) .created).parts
    rw [leftChecked, rightChecked]
    cases status with
    | error status => exact ⟨rfl, sameNext⟩
    | ok taskState =>
        have signalled := (sameNext.put taskId
          { task := some task, taskState, dependentTasks, callback := some callback }).signal
            invoke taskId (.ok (.ofState taskState))
        by_cases independent : dependentTasks = ∅
        · simp only [if_pos independent]
          exact signalled.queueTask invoke workerThread taskId
        · simp only [if_neg independent]
          exact ⟨rfl, signalled⟩

theorem startTask (same : left.SameTable right) (taskId : TaskId) :
    SameResult (left.startTask invoke taskId) (right.startTask invoke taskId) := by
  obtain ⟨status, leftNext, rightNext, leftChecked, rightChecked, sameNext⟩ :=
    (same.confirmTaskState invoke taskId .queued true).parts
  unfold Manager.startTask
  rw [leftChecked, rightChecked]
  cases status with
  | error status => exact ⟨rfl, sameNext⟩
  | ok _ =>
      simp only [sameNext.find]
      cases (rightNext.find taskId).bind TaskInfo.task with
      | none => exact ⟨rfl, sameNext.signal invoke taskId _⟩
      | some task =>
          exact ⟨rfl, ((sameNext.modify taskId _).signal invoke taskId _).modify taskId _⟩

theorem failDependentTasks (same : left.SameTable right) (taskIds : List TaskId) :
    (taskIds.foldl (failDependentTask invoke) left).SameTable
      (taskIds.foldl (failDependentTask invoke) right) := by
  induction taskIds generalizing left right with
  | nil => exact same
  | cons taskId rest inductionHypothesis =>
      exact inductionHypothesis
        (((same.modify taskId _).signal invoke taskId _).modify taskId _)

theorem releaseFollowing (same : left.SameTable right) (workerThread : StatusOr Unit)
    (callback : Option Callback) (taskId : TaskId) (following : List TaskId) :
    SameResult (left.releaseFollowing invoke workerThread callback taskId following)
      (right.releaseFollowing invoke workerThread callback taskId following) := by
  induction following generalizing left right with
  | nil => exact ⟨rfl, same⟩
  | cons followingTaskId rest inductionHypothesis =>
      obtain ⟨status, leftNext, rightNext, leftChecked, rightChecked, sameNext⟩ :=
        (same.confirmTaskState invoke followingTaskId .created true).parts
      unfold Manager.releaseFollowing
      rw [leftChecked, rightChecked]
      cases status with
      | error status => exact ⟨rfl, sameNext.runCallback invoke callback _⟩
      | ok _ =>
          simp only [sameNext.find]
          cases rightNext.find followingTaskId with
          | none => exact ⟨rfl, sameNext⟩
          | some info =>
              have erased := sameNext.modify followingTaskId fun info =>
                { info with dependentTasks := info.dependentTasks.erase taskId }
              by_cases unrelated : taskId ∉ info.dependentTasks
              · simp only [if_pos unrelated]
                exact ⟨rfl, sameNext.runCallback invoke callback _⟩
              · simp only [if_neg unrelated]
                by_cases last : info.dependentTasks.erase taskId = ∅
                · simp only [if_pos last]
                  obtain ⟨status, leftAfter, rightAfter, leftQueued, rightQueued, queued⟩ :=
                    (erased.queueTask invoke workerThread followingTaskId).parts
                  rw [leftQueued, rightQueued]
                  cases status with
                  | error status => exact ⟨rfl, queued⟩
                  | ok _ => exact inductionHypothesis queued
                · simp only [if_neg last]
                  exact inductionHypothesis erased

theorem finishTask (same : left.SameTable right) (order failOrder : HashOrder)
    (workerThread : StatusOr Unit) (taskId : TaskId) (responses : StatusOr (Responses Score))
    (callback : Option Callback) :
    SameResult
      (left.finishTask invoke order failOrder workerThread taskId responses callback)
      (right.finishTask invoke order failOrder workerThread taskId responses callback) := by
  obtain ⟨status, leftNext, rightNext, leftChecked, rightChecked, sameNext⟩ :=
    (same.confirmTaskState invoke taskId .processing false).parts
  unfold Manager.finishTask
  rw [leftChecked, rightChecked]
  by_cases missing : callback = none
  · rw [if_pos missing, if_pos missing]
    exact ⟨rfl, same⟩
  · rw [if_neg missing, if_neg missing]
    cases status with
    | error status => exact ⟨rfl, sameNext.runCallback invoke callback _⟩
    | ok _ =>
        cases responses with
        | error failure =>
            simp only [sameNext.find, sameNext.keys_length]
            cases followingWaitingTasks order rightNext.find
                (rightNext.taskLookup.keys.length + 1) taskId with
            | error status => exact ⟨rfl, sameNext.runCallback invoke callback _⟩
            | ok waiting =>
                exact ⟨rfl, ((sameNext.failDependentTasks invoke _).runCallback invoke callback
                  _).modify taskId _⟩
        | ok response =>
            simp only [sameNext.find]
            obtain ⟨status, leftAfter, rightAfter, leftReleased, rightReleased, released⟩ :=
              (sameNext.releaseFollowing invoke workerThread callback taskId
                (order.order taskId
                  (((rightNext.find taskId).map TaskInfo.followingTasks).getD ∅))).parts
            rw [leftReleased, rightReleased]
            cases status with
            | error status => exact ⟨rfl, released⟩
            | ok _ => exact ⟨rfl, (released.runCallback invoke callback _).modify taskId _⟩

end SameTable

end Manager

/-! ## Runs -/

namespace System

/-- The systems agree on everything but the order of the table. -/
structure Same (left right : System Body Callback World) : Prop where
  manager : left.manager.SameTable right.manager
  worker : left.worker = right.worker
  history : left.history = right.history

variable (invoke : Callback → StatusOr (Responses Score) → World → World)

/-- Systems that agree take the same steps. -/
theorem step_same (left right : System Body Callback World) (action : Action Body Callback Score)
    (same : left.Same right) :
    Option.Rel Same (left.step invoke action) (right.step invoke action) := by
  obtain ⟨leftManager, worker, history⟩ := left
  obtain ⟨rightManager, rightWorker, rightHistory⟩ := right
  obtain ⟨sameManager, sameWorker, sameHistory⟩ := same
  simp only at sameManager sameWorker sameHistory
  subst sameWorker sameHistory
  cases action with
  | createTask order workerThread taskId task dependentTasks callback =>
      obtain ⟨status, leftNext, rightNext, leftCreated, rightCreated, sameNext⟩ :=
        (sameManager.createTask invoke order workerThread taskId task dependentTasks
          callback).parts
      simp only [step, leftCreated, rightCreated]
      cases status with
      | error status => exact .some ⟨sameNext, rfl, rfl⟩
      | ok _ => exact .some ⟨sameNext, rfl, rfl⟩
  | takeTask =>
      simp only [step, sameManager.pool]
      cases worker with
      | waiting =>
          cases rightManager.executionThreadPool.takeTask with
          | none => exact .none
          | some taken => exact .some ⟨sameManager.withPool taken.2, rfl, rfl⟩
      | _ => exact .none
  | startTask =>
      cases worker with
      | scheduled taskId =>
          obtain ⟨status, leftNext, rightNext, leftStarted, rightStarted, sameNext⟩ :=
            (sameManager.startTask invoke taskId).parts
          simp only [step, leftStarted, rightStarted]
          cases status with
          | error status => exact .some ⟨sameNext, rfl, rfl⟩
          | ok handed => exact .some ⟨sameNext, rfl, rfl⟩
      | _ => exact .none
  | notify responses =>
      cases worker with
      | running taskId task callback =>
          exact .some ⟨sameManager.runCallback invoke callback responses, rfl, rfl⟩
      | _ => exact .none
  | finishTask order failOrder workerThread outcome =>
      cases worker with
      | running taskId task callback =>
          exact .some ⟨(sameManager.finishTask invoke order failOrder workerThread taskId
            outcome.responses callback).2, rfl, rfl⟩
      | _ => exact .none
  | completeTask =>
      cases worker with
      | returned =>
          simp only [step, sameManager.pool]
          exact .some ⟨sameManager.withPool _, rfl, rfl⟩
      | _ => exact .none

/-- So they take the same runs. -/
theorem execute_same {left right : System Body Callback World} (same : left.Same right)
    (actions : List (Action Body Callback Score)) :
    Option.Rel Same ((machine invoke).execute left actions)
      ((machine invoke).execute right actions) :=
  Machine.execute_rel (step_same invoke) same actions

end System

end LiteRTLM.Framework.ExecutionManager
