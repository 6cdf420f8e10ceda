import LiteRTLM.Framework.ExecutionManager.System
import LiteRTLM.Framework.ExecutionManager.Notifications

/-!
Contract: the manager acts on the outside world through its callbacks alone. What
every callback keeps of the world, every step of the manager keeps.

Owns: this rule for the operations whose callbacks are those of many tasks, and for
a step of the machine.

Does not own: which callbacks keep what.
-/

namespace LiteRTLM.Framework.ExecutionManager

open LiteRTLM.Engine LiteRTLM.Library

variable {Body Callback World Score : Type}
variable (invoke : Callback → StatusOr (Responses Score) → World → World)
variable {Holds : World → Prop}

namespace Manager

variable {manager : Manager Body Callback World}

/-- With quiet callbacks every task is quiet. -/
theorem quietAt_of_quiet (quiet : ∀ callback, Quiet invoke Holds callback)
    (find : TaskId → Option (TaskInfo Body Callback)) (taskId : TaskId) :
    QuietAt invoke Holds find taskId :=
  fun _ callback _ _ => quiet callback

theorem world_failDependentTasks (quiet : ∀ callback, Quiet invoke Holds callback)
    (taskIds : List TaskId) (holds : Holds manager.world) :
    Holds (taskIds.foldl (failDependentTask invoke) manager).world := by
  induction taskIds generalizing manager with
  | nil => exact holds
  | cons taskId rest inductionHypothesis =>
      apply inductionHypothesis
      rw [failDependentTask, world_setTaskState]
      apply world_signal invoke _ (quietAt_of_quiet invoke quiet _ _)
      rw [world_modify]
      exact holds

theorem world_createTask (quiet : ∀ callback, Quiet invoke Holds callback) (order : HashOrder)
    (workerThread : StatusOr Unit) (taskId : TaskId) (task : Body)
    (dependentTasks : Finset TaskId) (callback : Callback) (holds : Holds manager.world) :
    Holds (manager.createTask invoke order workerThread taskId task dependentTasks
      callback).2.world := by
  unfold createTask
  split
  · exact holds
  · have untold := world_checkDependencies taskId (order.order taskId dependentTasks) .created
      manager
    split
    next status registered checked =>
      rw [checked] at untold
      exact untold ▸ holds
    next taskState registered checked =>
      rw [checked] at untold
      have signalled : Holds ((registered.put taskId
          { task := some task, taskState, dependentTasks, callback := some callback }).signal
            invoke taskId (.ok (.ofState taskState))).world := by
        apply world_signal invoke _ (quietAt_of_quiet invoke quiet _ _)
        exact untold ▸ holds
      simp only
      split
      · exact world_queueTask invoke workerThread (quietAt_of_quiet invoke quiet _ _) signalled
      · exact signalled

theorem world_finishTask (quiet : ∀ callback, Quiet invoke Holds callback)
    (order failOrder : HashOrder) (workerThread : StatusOr Unit) (taskId : TaskId)
    (responses : StatusOr (Responses Score)) (callback : Option Callback)
    (holds : Holds manager.world) :
    Holds (manager.finishTask invoke order failOrder workerThread taskId responses
      callback).2.world := by
  have quietCallback : ∀ invoked, callback = some invoked → Quiet invoke Holds invoked :=
    fun invoked _ => quiet invoked
  have confirmedHolds := world_confirmTaskState invoke .processing false
    (quietAt_of_quiet invoke quiet manager.find taskId) holds
  unfold finishTask
  split
  · exact holds
  · split
    next status confirmed checked =>
      rw [checked] at confirmedHolds
      exact world_runCallback invoke _ quietCallback confirmedHolds
    next confirmed checked =>
      rw [checked] at confirmedHolds
      split
      next failure =>
        split
        next status _ => exact world_runCallback invoke _ quietCallback confirmedHolds
        next waiting _ =>
          rw [world_setTaskState]
          exact world_runCallback invoke _ quietCallback
            (world_failDependentTasks invoke quiet _ confirmedHolds)
      next response =>
        have released : Holds (confirmed.releaseFollowing invoke workerThread callback taskId
            (order.order taskId
              (((confirmed.find taskId).map TaskInfo.followingTasks).getD ∅))).2.world :=
          world_releaseFollowing invoke workerThread taskId
            (fun id _ => quietAt_of_quiet invoke quiet confirmed.find id) quietCallback
            confirmedHolds
        simp only
        split
        next status after loop =>
          rw [loop] at released
          exact released
        next after loop =>
          rw [loop] at released
          rw [world_setTaskState]
          exact world_runCallback invoke _ quietCallback released

end Manager

/-- What every callback keeps of the outside world, a step of the machine keeps. -/
theorem System.world_step (quiet : ∀ callback, Manager.Quiet invoke Holds callback)
    {system next : System Body Callback World} {action : Action Body Callback Score}
    (stepped : system.step invoke action = some next) (holds : Holds system.manager.world) :
    Holds next.manager.world := by
  cases action with
  | createTask order workerThread taskId task dependentTasks callback =>
      have kept := Manager.world_createTask invoke quiet order workerThread taskId task
        dependentTasks callback holds
      simp only [step] at stepped
      split at stepped
      next manager created =>
        cases stepped
        rwa [created] at kept
      next status manager rejected =>
        cases stepped
        rwa [rejected] at kept
  | takeTask =>
      simp only [step] at stepped
      split at stepped
      · cases stepped
        exact holds
      · cases stepped
  | startTask =>
      simp only [step] at stepped
      split at stepped
      next taskId scheduled =>
        have kept := Manager.world_startTask invoke
          (Manager.quietAt_of_quiet invoke quiet _ taskId) holds
        split at stepped
        next task callback manager started =>
          cases stepped
          rwa [started] at kept
        next status manager rejected =>
          cases stepped
          rwa [rejected] at kept
      · cases stepped
  | notify responses =>
      simp only [step] at stepped
      split at stepped
      next taskId task callback running =>
        cases stepped
        exact Manager.world_runCallback invoke _ (fun invoked _ => quiet invoked) holds
      · cases stepped
  | finishTask order failOrder workerThread outcome =>
      simp only [step] at stepped
      split at stepped
      next taskId task callback running =>
        cases stepped
        exact Manager.world_finishTask invoke quiet order failOrder workerThread taskId _ callback
          holds
      · cases stepped
  | completeTask =>
      simp only [step] at stepped
      split at stepped
      · cases stepped
        exact holds
      · cases stepped

end LiteRTLM.Framework.ExecutionManager
