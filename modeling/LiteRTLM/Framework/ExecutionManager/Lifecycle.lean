import Mathlib.Logic.Relation
import LiteRTLM.Framework.ExecutionManager.Effects

/-!
Contract: a task's state only moves forward.

Owns: the transitions of a task state, the preservation of this order by every
operation of the manager, and its consequence for runs: a task in an end state
stays in that state.

Does not own: which of the transitions a task makes.
-/

namespace LiteRTLM.Framework.ExecutionManager

open LiteRTLM.Engine LiteRTLM.Library Relation

variable {Body Callback World Score : Type}

/-- The transitions of a task state. -/
inductive Advances : TaskState → TaskState → Prop where
  | queue : Advances .created .queued
  | start : Advances .queued .processing
  | finish : Advances .processing .done
  | exhaust : Advances .processing .maxNumTokensReached
  | fail : Advances .processing .failed
  | abandon : Advances .created .dependentTaskFailed

/-- Any number of transitions. -/
abbrev Lifecycle : TaskState → TaskState → Prop :=
  ReflTransGen Advances

/-- Nothing follows an end state. -/
theorem Lifecycle.eq_of_isTaskEndState {taskState next : TaskState}
    (ended : isTaskEndState taskState = true) (advanced : Lifecycle taskState next) :
    next = taskState := by
  rcases advanced.cases_head with same | ⟨_, first, -⟩
  · exact same.symm
  · cases first <;> simp [isTaskEndState] at ended

/-- Every task of one lookup is further along in the other. -/
def Evolves (find next : TaskId → Option (TaskInfo Body Callback)) : Prop :=
  ∀ id info, find id = some info →
    ∃ new, next id = some new ∧ Lifecycle info.taskState new.taskState

/-- Only tasks that wait to be queued change. -/
def OnlyWaitingChange (find next : TaskId → Option (TaskInfo Body Callback)) : Prop :=
  ∀ id info, find id = some info → info.taskState ≠ .created → next id = some info

section Lookups

variable {find middle next : TaskId → Option (TaskInfo Body Callback)}

theorem Evolves.refl : Evolves find find :=
  fun _ info found => ⟨info, found, .refl⟩

theorem Evolves.trans (first : Evolves find middle) (second : Evolves middle next) :
    Evolves find next := by
  intro id info found
  obtain ⟨between, foundBetween, advanced⟩ := first id info found
  obtain ⟨new, foundNew, further⟩ := second id between foundBetween
  exact ⟨new, foundNew, advanced.trans further⟩

theorem Evolves.update {taskId : TaskId} {new : TaskInfo Body Callback}
    (advanced : ∀ info, find taskId = some info → Lifecycle info.taskState new.taskState) :
    Evolves find (Function.update find taskId (some new)) := by
  intro id info found
  by_cases same : id = taskId
  · subst same
    exact ⟨new, Function.update_self .., advanced info found⟩
  · exact ⟨info, by rw [Function.update_of_ne same, found], .refl⟩

theorem Evolves.of_sameStates
    (same : ∀ id, (next id).map (fun info => { info with followingTasks := ∅ }) =
      (find id).map (fun info => { info with followingTasks := ∅ })) :
    Evolves find next := by
  intro id info found
  have agree := same id
  rw [found, Option.map_some, Option.map_eq_some_iff] at agree
  obtain ⟨new, present, equal⟩ := agree
  have sameState := congrArg TaskInfo.taskState equal
  simp only at sameState
  exact ⟨new, present, sameState ▸ .refl⟩

theorem OnlyWaitingChange.refl : OnlyWaitingChange find find :=
  fun _ _ found _ => found

theorem OnlyWaitingChange.trans (first : OnlyWaitingChange find middle)
    (second : OnlyWaitingChange middle next) : OnlyWaitingChange find next :=
  fun id info found settled => second id info (first id info found settled) settled

theorem OnlyWaitingChange.update {taskId : TaskId} {new : Option (TaskInfo Body Callback)}
    (waiting : ∀ info, find taskId = some info → info.taskState = .created) :
    OnlyWaitingChange find (Function.update find taskId new) := by
  intro id info found settled
  by_cases same : id = taskId
  · subst same
    exact absurd (waiting info found) settled
  · rw [Function.update_of_ne same, found]

end Lookups

/-! ## The operations of the manager -/

namespace Manager

variable (invoke : Callback → StatusOr (Responses Score) → World → World)
variable {manager next : Manager Body Callback World}

theorem queueTask_evolves {workerThread : StatusOr Unit} {taskId : TaskId}
    {status : StatusOr Unit}
    (result : manager.queueTask invoke workerThread taskId = (status, next)) :
    Evolves manager.find next.find ∧ OnlyWaitingChange manager.find next.find := by
  cases status with
  | error failure =>
      obtain ⟨sameFind, -⟩ := queueTask_error invoke result
      rw [sameFind]
      exact ⟨.refl, .refl⟩
  | ok _ =>
      obtain ⟨info, present, created, -, -, found⟩ := queueTask_ok invoke result
      have waiting : ∀ other, manager.find taskId = some other → other.taskState = .created := by
        intro other otherPresent
        rw [present] at otherPresent
        cases otherPresent
        exact created
      rw [found]
      refine ⟨.update fun other otherPresent => ?_, .update waiting⟩
      rw [waiting other otherPresent]
      exact .single .queue

/-- Taking down waiting tasks changes nothing else. -/
theorem failDependentTasks_evolves {taskIds : List TaskId} (distinct : taskIds.Nodup)
    (waiting : ∀ id ∈ taskIds, ∃ info, manager.find id = some info ∧ info.taskState = .created) :
    Evolves manager.find (taskIds.foldl (failDependentTask invoke) manager).find ∧
      OnlyWaitingChange manager.find (taskIds.foldl (failDependentTask invoke) manager).find := by
  induction taskIds generalizing manager with
  | nil => exact ⟨.refl, .refl⟩
  | cons taskId rest inductionHypothesis =>
      rw [List.nodup_cons] at distinct
      obtain ⟨info, present, created⟩ := waiting taskId (List.mem_cons_self ..)
      have onlyCreated : ∀ other, manager.find taskId = some other →
          other.taskState = .created := by
        intro other otherPresent
        rw [present] at otherPresent
        cases otherPresent
        exact created
      have stillWaiting : ∀ id ∈ rest, ∃ info,
          (manager.failDependentTask invoke taskId).find id = some info ∧
            info.taskState = .created := by
        intro id member
        have apart : id ≠ taskId := fun same => distinct.1 (same ▸ member)
        rw [find_failDependentTask, Function.update_of_ne apart]
        exact waiting id (List.mem_cons_of_mem _ member)
      have first : Evolves manager.find (manager.failDependentTask invoke taskId).find ∧
          OnlyWaitingChange manager.find (manager.failDependentTask invoke taskId).find := by
        rw [find_failDependentTask, present]
        exact ⟨.update fun other otherPresent => by
          rw [onlyCreated other otherPresent]
          exact .single .abandon, .update onlyCreated⟩
      obtain ⟨evolves, unchanged⟩ := inductionHypothesis distinct.2 stillWaiting
      exact ⟨first.1.trans evolves, first.2.trans unchanged⟩

/-- Releasing followers changes only waiting tasks, wherever the loop ends. -/
theorem releaseFollowing_evolves {workerThread : StatusOr Unit} {callback : Option Callback}
    {taskId : TaskId} {following : List TaskId} {status : StatusOr Unit}
    (result : manager.releaseFollowing invoke workerThread callback taskId following =
      (status, next)) :
    Evolves manager.find next.find ∧ OnlyWaitingChange manager.find next.find := by
  induction following generalizing manager with
  | nil =>
      cases result
      exact ⟨.refl, .refl⟩
  | cons followingTaskId rest inductionHypothesis =>
      unfold releaseFollowing at result
      rcases checked : manager.confirmTaskState invoke followingTaskId .created true with
        ⟨failure | _, confirmed⟩
      · obtain ⟨sameFind, -⟩ := confirmTaskState_frame invoke checked
        simp only [checked] at result
        cases result
        rw [find_runCallback, sameFind]
        exact ⟨.refl, .refl⟩
      · obtain ⟨rfl, info, present, created, -⟩ := confirmTaskState_ok invoke checked
        simp only [checked, present] at result
        have onlyCreated : ∀ other, confirmed.find followingTaskId = some other →
            other.taskState = .created := by
          intro other otherPresent
          rw [present] at otherPresent
          cases otherPresent
          exact created
        have erased : Evolves confirmed.find (confirmed.modify followingTaskId fun info =>
              { info with dependentTasks := info.dependentTasks.erase taskId }).find ∧
            OnlyWaitingChange confirmed.find (confirmed.modify followingTaskId fun info =>
              { info with dependentTasks := info.dependentTasks.erase taskId }).find := by
          rw [find_modify, present]
          refine ⟨.update fun other otherPresent => ?_, .update onlyCreated⟩
          rw [onlyCreated other otherPresent, ← created]
        split at result
        · cases result
          rw [find_runCallback]
          exact ⟨.refl, .refl⟩
        · split at result
          · split at result
            next queuedStatus queuedManager queueing =>
              cases result
              obtain ⟨evolves, unchanged⟩ := queueTask_evolves invoke queueing
              exact ⟨erased.1.trans evolves, erased.2.trans unchanged⟩
            next queuedManager queueing =>
              obtain ⟨evolves, unchanged⟩ := queueTask_evolves invoke queueing
              obtain ⟨further, kept⟩ := inductionHypothesis result
              exact ⟨(erased.1.trans evolves).trans further,
                (erased.2.trans unchanged).trans kept⟩
          · obtain ⟨further, kept⟩ := inductionHypothesis result
            exact ⟨erased.1.trans further, erased.2.trans kept⟩

/-- The final state of a task that is still being processed. -/
theorem setFinalState_evolves {taskId : TaskId} {taskState : TaskState}
    (processing : ∃ info, manager.find taskId = some info ∧ info.taskState = .processing)
    (final : taskState = .done ∨ taskState = .maxNumTokensReached ∨ taskState = .failed) :
    Evolves manager.find (manager.setTaskState taskId taskState).find := by
  obtain ⟨info, present, state⟩ := processing
  rw [find_setTaskState, present]
  refine .update fun other otherPresent => ?_
  rw [present] at otherPresent
  cases otherPresent
  rw [state]
  rcases final with rfl | rfl | rfl
  · exact .single .finish
  · exact .single .exhaust
  · exact .single .fail

theorem finishTask_evolves (order failOrder : HashOrder) (workerThread : StatusOr Unit)
    (taskId : TaskId) (callback : Option Callback) (outcome : TaskOutcome Score)
    (manager : Manager Body Callback World) :
    Evolves manager.find (manager.finishTask invoke order failOrder workerThread taskId
      outcome.responses callback).2.find := by
  unfold finishTask
  split
  · exact .refl
  · rcases checked : manager.confirmTaskState invoke taskId .processing false with
      ⟨failure | _, confirmed⟩
    · obtain ⟨sameFind, -⟩ := confirmTaskState_frame invoke checked
      rw [find_runCallback, sameFind]
      exact .refl
    · obtain ⟨rfl, info, present, processing, -⟩ := confirmTaskState_ok invoke checked
      have settled : info.taskState ≠ .created := by simp [processing]
      cases outcome with
      | error failure =>
          simp only [TaskOutcome.responses]
          cases collected : followingWaitingTasks order confirmed.find
              (confirmed.taskLookup.keys.length + 1) taskId with
          | error status =>
              rw [find_runCallback]
              exact .refl
          | ok waiting =>
              obtain ⟨evolves, unchanged⟩ := failDependentTasks_evolves invoke
                (failOrder.nodup_order taskId waiting) fun id member =>
                  followingWaitingTasks_created collected id
                    ((failOrder.mem_order taskId waiting id).mp member)
              refine evolves.trans ?_
              rw [← find_runCallback invoke callback (.error failure)]
              refine setFinalState_evolves ⟨info, ?_, processing⟩ (by simp)
              rw [find_runCallback]
              exact unchanged taskId info present settled
      | ok response =>
          simp only [TaskOutcome.responses]
          split
          next status released looped => exact (releaseFollowing_evolves invoke looped).1
          next released looped =>
            obtain ⟨evolves, unchanged⟩ := releaseFollowing_evolves invoke looped
            refine evolves.trans ?_
            rw [← find_runCallback invoke callback (.ok response.1)]
            refine setFinalState_evolves ⟨info, ?_, processing⟩ (by
              rcases response.2 with done | full
              · exact Or.inl done
              · exact Or.inr (Or.inl full))
            rw [find_runCallback]
            exact unchanged taskId info present settled

theorem createTask_evolves {order : HashOrder} {workerThread : StatusOr Unit} {taskId : TaskId}
    {task : Body} {dependentTasks : Finset TaskId} {callback : Callback}
    {status : StatusOr Unit}
    (result : manager.createTask invoke order workerThread taskId task dependentTasks callback =
      (status, next)) :
    Evolves manager.find next.find := by
  have insertFresh : ∀ {find : TaskId → Option (TaskInfo Body Callback)} {new},
      find taskId = none → Evolves find (Function.update find taskId (some new)) := by
    intro find new fresh
    refine .update fun info found => ?_
    rw [fresh] at found
    cases found
  have sameStates := checkDependencies_find taskId (order.order taskId dependentTasks) .created
    manager
  cases status with
  | error failure =>
      obtain ⟨-, ⟨-, rfl⟩ | ⟨-, checked⟩ | ⟨fresh, -, -, found⟩⟩ := createTask_error invoke result
      · exact .refl
      · rw [checked] at sameStates
        exact .of_sameStates sameStates
      · rw [found]
        exact insertFresh fresh
  | ok _ =>
      obtain ⟨fresh, ⟨-, taskState, registered, checked, -, found⟩ | ⟨-, -, found⟩⟩ :=
        createTask_ok invoke result
      · rw [checked] at sameStates
        have unregistered : registered.find taskId = none := by
          have agree := sameStates taskId
          rw [fresh, Option.map_none, Option.map_eq_none_iff] at agree
          exact agree
        rw [found]
        exact (Evolves.of_sameStates sameStates).trans (insertFresh unregistered)
      · rw [found]
        exact insertFresh fresh

theorem startTask_evolves {taskId : TaskId} {status : StatusOr (Body × Option Callback)}
    (result : manager.startTask invoke taskId = (status, next)) :
    Evolves manager.find next.find := by
  cases status with
  | error failure =>
      obtain ⟨sameFind, -⟩ := startTask_error invoke result
      rw [sameFind]
      exact .refl
  | ok handed =>
      obtain ⟨task, callback⟩ := handed
      obtain ⟨info, present, queued, -, -, -, -, found⟩ := startTask_ok invoke result
      rw [found]
      refine .update fun other otherPresent => ?_
      rw [present] at otherPresent
      cases otherPresent
      rw [queued]
      exact .single .start

end Manager

/-! ## Runs -/

namespace System

variable (invoke : Callback → StatusOr (Responses Score) → World → World)

/-- A step moves task states forward and only adds to the history. -/
theorem step_evolves {system next : System Body Callback World}
    {action : Action Body Callback Score} (stepped : system.step invoke action = some next) :
    Evolves system.manager.find next.manager.find ∧ system.history <:+ next.history := by
  cases action with
  | createTask order workerThread taskId task dependentTasks callback =>
      simp only [step] at stepped
      split at stepped
      next manager created =>
        cases stepped
        exact ⟨Manager.createTask_evolves invoke created, List.suffix_cons ..⟩
      next status manager rejected =>
        cases stepped
        exact ⟨Manager.createTask_evolves invoke rejected, List.suffix_refl _⟩
  | takeTask =>
      simp only [step] at stepped
      split at stepped
      · cases stepped
        exact ⟨.refl, List.suffix_refl _⟩
      · cases stepped
  | startTask =>
      simp only [step] at stepped
      split at stepped
      · split at stepped
        next task callback manager started =>
          cases stepped
          exact ⟨Manager.startTask_evolves invoke started, List.suffix_cons ..⟩
        next status manager rejected =>
          cases stepped
          exact ⟨Manager.startTask_evolves invoke rejected, List.suffix_refl _⟩
      · cases stepped
  | notify responses =>
      simp only [step] at stepped
      split at stepped
      · cases stepped
        exact ⟨by rw [Manager.find_runCallback]; exact .refl, List.suffix_refl _⟩
      · cases stepped
  | finishTask order failOrder workerThread outcome =>
      simp only [step] at stepped
      split at stepped
      · cases stepped
        exact ⟨Manager.finishTask_evolves invoke _ _ _ _ _ _ _, List.suffix_cons ..⟩
      · cases stepped
  | completeTask =>
      simp only [step] at stepped
      split at stepped
      · cases stepped
        exact ⟨.refl, List.suffix_refl _⟩
      · cases stepped

/-- So does a whole run. -/
theorem execute_evolves {actions : List (Action Body Callback Score)}
    {system later : System Body Callback World}
    (executed : (machine invoke).execute system actions = some later) :
    Evolves system.manager.find later.manager.find ∧ system.history <:+ later.history := by
  induction actions generalizing system with
  | nil =>
      cases executed
      exact ⟨.refl, List.suffix_refl _⟩
  | cons action rest inductionHypothesis =>
      simp only [Machine.execute] at executed
      cases stepped : (machine invoke).step system action with
      | none => simp [stepped] at executed
      | some next =>
          rw [stepped] at executed
          obtain ⟨first, earlier⟩ := step_evolves invoke stepped
          obtain ⟨second, later⟩ := inductionHypothesis executed
          exact ⟨first.trans second, earlier.trans later⟩

/-- Once in an end state, a task stays there. -/
theorem taskState_final {actions : List (Action Body Callback Score)}
    {system later : System Body Callback World} {taskId : TaskId} {taskState : TaskState}
    (executed : (machine invoke).execute system actions = some later)
    (reached : system.taskState taskId = some taskState)
    (ended : isTaskEndState taskState = true) :
    later.taskState taskId = some taskState := by
  rw [System.taskState, Option.map_eq_some_iff] at reached
  obtain ⟨info, present, rfl⟩ := reached
  obtain ⟨new, found, advanced⟩ := (execute_evolves invoke executed).1 taskId info present
  rw [System.taskState, found, Option.map_some, advanced.eq_of_isTaskEndState ended]

end System

end LiteRTLM.Framework.ExecutionManager
