import Mathlib
import LiteRTLM.Framework.ExecutionManager.Orderly

/-!
Contract: when the pool is idle, every task created in an orderly run has ended.

Owns: what each operation of the manager does in an orderly state, the
preservation of the invariant by every step, and the progress theorem.

Does not own: the scheduling order, which `SchedulingSafety` treats for all runs.
-/

namespace LiteRTLM.Framework.ExecutionManager

open LiteRTLM.Engine LiteRTLM.Library

variable {Body Callback World Score : Type}

/-! ## The operations of the manager -/

namespace System

variable (invoke : Callback → StatusOr (Responses Score) → World → World)

variable {completed : TaskState → Prop}

structure OrderlyInvariant (completed : TaskState → Prop)
    (system : System Body Callback World) : Prop where
  safe : system.manager.SafelyScheduled system.worker system.history
  progress : ProgressInvariant completed system.manager.find system.manager.executionThreadPool
    system.worker

theorem taskState_eq_some {system : System Body Callback World} {taskId : TaskId}
    {taskState : TaskState} :
    system.taskState taskId = some taskState ↔
      ∃ info, system.manager.find taskId = some info ∧ info.taskState = taskState := by
  simp [System.taskState]

theorem taskState_eq_none {system : System Body Callback World} {taskId : TaskId} :
    system.taskState taskId = none ↔ system.manager.find taskId = none := by
  simp [System.taskState]

/-- The number of tasks is the number of vertices of the dependency graph. -/
theorem card_members {members : Finset TaskId} {manager : Manager Body Callback World}
    (isMember : ∀ id, id ∈ members ↔ (manager.find id).isSome) :
    members.card = manager.taskLookup.keys.length := by
  have same : members = manager.taskLookup.keys.toFinset := by
    ext id
    rw [isMember, List.mem_toFinset]
    exact AList.lookup_isSome
  rw [same]
  exact List.toFinset_card_of_nodup manager.taskLookup.nodupKeys

/-- What an orderly `CreateTask` that is accepted does: it inserts a task that
waits for unfinished dependencies or cannot run, or queues an independent one. -/
theorem orderly_createTask {system : System Body Callback World} {order : HashOrder}
    {workerThread : StatusOr Unit} {taskId : TaskId} {task : Body}
    {dependentTasks : Finset TaskId} {callback : Callback}
    {next : Manager Body Callback World} (invariant : system.OrderlyInvariant completed)
    (orderly : system.Orderly completed
      (.createTask order workerThread taskId task dependentTasks callback :
        Action Body Callback Score))
    (created : system.manager.createTask invoke order workerThread taskId task dependentTasks
      callback = (.ok (), next)) :
    system.manager.find taskId = none ∧
      ((dependentTasks ≠ ∅ ∧ (∀ dep ∈ dependentTasks, (system.manager.find dep).isSome) ∧
          next.executionThreadPool = system.manager.executionThreadPool ∧
          ∃ taskState, ((taskState = .dependentTaskFailed ∧ ∃ dep ∈ dependentTasks, ∃ info,
              system.manager.find dep = some info ∧ HasFailed info.taskState) ∨
            (taskState = .created ∧
              ∀ dep ∈ dependentTasks, ∀ info, system.manager.find dep = some info →
                Unfinished info.taskState)) ∧
            ∀ id, next.find id = if id = taskId then
                some (Manager.newTask task taskState dependentTasks callback)
              else if id ∈ dependentTasks then (system.manager.find id).map (.register taskId)
              else system.manager.find id) ∨
        (dependentTasks = ∅ ∧
          system.manager.executionThreadPool.schedule workerThread taskId =
            .ok next.executionThreadPool ∧
          next.find = Function.update system.manager.find taskId
            (some (Manager.newTask task .queued ∅ callback)))) := by
  obtain ⟨fresh, ⟨dependent, taskState, registered, checked, samePool, found⟩ | independent⟩ :=
    Manager.createTask_ok invoke created
  · obtain ⟨exist, finds, state⟩ := Manager.checkDependencies_ok checked
    simp only [order.mem_order] at exist finds state
    obtain ⟨-, unfinished, -⟩ := orderly (taskState_eq_none.mpr fresh)
    have known : ∀ dep ∈ dependentTasks, system.taskState dep ≠ none := by
      intro dep member missing
      have present := exist dep member
      rw [taskState_eq_none.mp missing] at present
      cases present
    refine ⟨fresh, Or.inl ⟨dependent, exist, samePool, taskState, ?_, fun id => ?_⟩⟩
    · refine state.imp (And.imp_right fun lost => lost.resolve_left nofun)
        fun ⟨same, healthy⟩ => ⟨same, fun dep member info present => ?_⟩
      rcases invariant.progress.settled dep info present with alive | finished | failed
      · exact alive
      · rcases unfinished known with none | ⟨lost, lostMember, lostState⟩
        · exact absurd finished
            (none dep member info.taskState (taskState_eq_some.mpr ⟨info, present, rfl⟩))
        · obtain ⟨lostInfo, lostFound, lostFailed⟩ : ∃ info, system.manager.find lost = some info ∧
              HasFailed info.taskState := by
            rcases lostState with state | state <;>
              obtain ⟨info, found, same⟩ := taskState_eq_some.mp state
            · exact ⟨info, found, Or.inl same⟩
            · exact ⟨info, found, Or.inr same⟩
          exact absurd lostFailed (healthy lost lostMember lostInfo lostFound)
      · exact absurd failed (healthy dep member info present)
    · rw [found, Function.update_apply, finds]
  · exact ⟨fresh, Or.inr independent⟩

/-- An orderly `CreateTask`, accepted. -/
theorem progress_createTask_ok {system : System Body Callback World} {order : HashOrder}
    {workerThread : StatusOr Unit} {taskId : TaskId} {task : Body}
    {dependentTasks : Finset TaskId} {callback : Callback}
    {next : Manager Body Callback World} (invariant : system.OrderlyInvariant completed)
    (orderly : system.Orderly completed
      (.createTask order workerThread taskId task dependentTasks callback :
        Action Body Callback Score))
    (created : system.manager.createTask invoke order workerThread taskId task dependentTasks
      callback = (.ok (), next)) :
    ProgressInvariant completed next.find next.executionThreadPool system.worker := by
  obtain ⟨fresh, ⟨dependent, exist, samePool, taskState, starts, changed⟩ |
    ⟨-, scheduled, found⟩⟩ := orderly_createTask invoke invariant orderly created
  · rw [samePool]
    exact invariant.progress.createWaiting fresh dependent exist (starts.imp_left And.left) changed
  · obtain ⟨tasks, extended⟩ := ThreadPool.schedule_ok scheduled
    rw [found]
    exact invariant.progress.createQueued fresh tasks extended
      (ThreadPool.schedule_worker scheduled invariant.progress.limit)

/-- An orderly `CreateTask`, rejected, leaves no trace. -/
theorem orderly_createTask_error {system : System Body Callback World} {order : HashOrder}
    {workerThread : StatusOr Unit} {taskId : TaskId} {task : Body}
    {dependentTasks : Finset TaskId} {callback : Callback} {status : Status}
    {next : Manager Body Callback World} (invariant : system.OrderlyInvariant completed)
    (orderly : system.Orderly completed
      (.createTask order workerThread taskId task dependentTasks callback :
        Action Body Callback Score))
    (rejected : system.manager.createTask invoke order workerThread taskId task dependentTasks
      callback = (.error status, next)) :
    next = system.manager := by
  obtain ⟨-, ⟨-, rfl⟩ | ⟨fresh, checked⟩ | ⟨fresh, independent, unscheduled, -⟩⟩ :=
    Manager.createTask_error invoke rejected
  · rfl
  · obtain ⟨-, -, clean⟩ := orderly (taskState_eq_none.mpr fresh)
    obtain ⟨⟨missing, member, absent⟩, traceless⟩ := Manager.checkDependencies_error checked
    rw [order.mem_order] at member
    have unregistered := clean ⟨missing, member, taskState_eq_none.mpr absent⟩
    refine traceless fun dep visited info found => ?_
    simp only [System.taskState, Option.isSome_map] at unregistered
    exact unregistered dep visited info.taskState (by simp [found])
  · obtain ⟨staffed, -⟩ := orderly (taskState_eq_none.mpr fresh)
    obtain ⟨pool, scheduled⟩ := ThreadPool.schedule_succeeds taskId
      invariant.progress.running (staffed independent)
    rw [unscheduled] at scheduled
    cases scheduled

/-- `StartTask` succeeds on the task the worker has taken. -/
theorem progress_startTask {system : System Body Callback World} {taskId : TaskId}
    (invariant : system.OrderlyInvariant completed) (scheduled : system.worker = .scheduled taskId) :
    ∃ task callback next, system.manager.startTask invoke taskId = (.ok (task, callback), next) ∧
      ProgressInvariant completed next.find next.executionThreadPool (.running taskId task callback) := by
  obtain ⟨info, present, queued⟩ := invariant.safe.pendingQueued taskId (by
    simp [scheduled, Worker.scheduledTasks])
  obtain ⟨owned, callable⟩ := invariant.progress.owned taskId info present (Or.inr queued)
  obtain ⟨task, ownedTask⟩ := Option.ne_none_iff_exists'.mp owned
  obtain ⟨next, started⟩ :=
    Manager.startTask_of_find invoke present queued ownedTask callable
  obtain ⟨other, otherPresent, -, -, -, -, samePool, found⟩ := Manager.startTask_ok invoke started
  rw [present] at otherPresent
  cases otherPresent
  refine ⟨task, info.callback, next, started, ?_⟩
  rw [samePool, found]
  exact ProgressInvariant.startTask callable (scheduled ▸ invariant.progress) present queued

/-- What a clean `FinishTask` does on success: the task takes its final state and
each follower loses the dependency. -/
theorem orderly_finishTask_ok {system : System Body Callback World} {taskId : TaskId}
    {task : Body} {callback : Option Callback} (order failOrder : HashOrder)
    (workerThread : StatusOr Unit) {outcome : TaskOutcome Score}
    {responses : { responses : Responses Score //
      responses.taskState = .done ∨ responses.taskState = .maxNumTokensReached }}
    (invariant : system.OrderlyInvariant completed)
    (working : system.worker = .running taskId task callback) (succeeded : outcome = .ok responses)
    (clean : system.CleanFinish completed taskId outcome) :
    ∃ info next released, system.manager.find taskId = some info ∧
      info.taskState = .processing ∧
      system.manager.releaseFollowing invoke workerThread callback taskId
        (order.order taskId info.followingTasks) = (.ok (), released) ∧
      system.manager.finishTask invoke order failOrder workerThread taskId outcome.responses
        callback = (.ok (), next) ∧
      next = (released.runCallback invoke callback (.ok responses.1)).setTaskState taskId
        responses.1.taskState ∧
      (∀ id ∈ info.followingTasks, ∃ follower, system.manager.find id = some follower ∧
        follower.taskState = .created ∧ taskId ∈ follower.dependentTasks) ∧
      (∀ id, next.find id = if id = taskId then
          some { info with taskState := responses.1.taskState }
        else if id ∈ info.followingTasks then (system.manager.find id).map (.release taskId)
        else system.manager.find id) ∧
      (∀ id, id ∈ next.executionThreadPool.tasks ↔
        id ∈ system.manager.executionThreadPool.tasks ∨ (id ∈ info.followingTasks ∧
          ∃ follower, system.manager.find id = some follower ∧
            follower.dependentTasks.erase taskId = ∅)) ∧
      next.executionThreadPool.Extends system.manager.executionThreadPool := by
  subst succeeded
  have progress := invariant.progress
  rw [working] at progress
  obtain ⟨⟨info, present, processing⟩, -⟩ :=
    invariant.safe.runningProcessing taskId task callback working
  obtain ⟨-, healthy⟩ := clean
  have created : ∀ id ∈ info.followingTasks, ∃ follower,
      system.manager.find id = some follower ∧ follower.taskState = .created ∧
        taskId ∈ follower.dependentTasks ∧ follower.callback ≠ none := by
    intro id member
    obtain ⟨follower, found, link⟩ := progress.linked taskId info id present
      (Or.inr (Or.inr processing)) member
    obtain ⟨created, depends⟩ := link.resolve_right fun failed =>
      healthy id ⟨info, present, member⟩ (taskState_eq_some.mpr ⟨follower, found, failed⟩)
    exact ⟨follower, found, created, depends,
      (progress.owned id follower found (Or.inl created)).2⟩
  have notFollowing : taskId ∉ info.followingTasks := by
    intro member
    obtain ⟨follower, found, state, -⟩ := created taskId member
    rw [present] at found
    cases found
    rw [processing] at state
    cases state
  have confirmed := Manager.confirmTaskState_of_find invoke present processing
    fun (triggers : false = true) => by cases triggers
  obtain ⟨released, looped, finds, tasks, extended⟩ :=
    Manager.releaseFollowing_ok invoke workerThread callback
      (order.nodup_order taskId info.followingTasks)
      (fun id member => created id ((order.mem_order _ _ id).mp member)) progress.running
      (progress.staffed ⟨taskId, info, present⟩)
  simp only [order.mem_order] at finds tasks
  refine ⟨info, _, released, present, processing, looped, ?_, rfl, ?_, fun id => ?_, ?_, ?_⟩
  · unfold Manager.finishTask
    rw [if_neg (progress.callable taskId task callback rfl), confirmed]
    simp only [TaskOutcome.responses, present, Option.map_some, Option.getD_some, looped]
  · intro id member
    obtain ⟨follower, found, state, depends, -⟩ := created id member
    exact ⟨follower, found, state, depends⟩
  · simp only [Manager.find_setTaskState, Manager.find_runCallback, Function.update_apply,
      finds, notFollowing, if_false, present, Option.map_some]
  · simpa only [Manager.pool_setTaskState, Manager.pool_runCallback] using tasks
  · simpa only [Manager.pool_setTaskState, Manager.pool_runCallback] using extended

/-- What a clean `FinishTask` does on a failure: the task fails, and so does every
task that waits below it. -/
theorem orderly_finishTask_error {system : System Body Callback World} {taskId : TaskId}
    {task : Body} {callback : Option Callback} (order failOrder : HashOrder)
    (workerThread : StatusOr Unit) {outcome : TaskOutcome Score} {failure : Status}
    (invariant : system.OrderlyInvariant completed)
    (working : system.worker = .running taskId task callback) (failed : outcome = .error failure)
    (clean : system.CleanFinish completed taskId outcome) :
    ∃ info waiting next, system.manager.find taskId = some info ∧
      info.taskState = .processing ∧
      system.manager.finishTask invoke order failOrder workerThread taskId outcome.responses
        callback = (.ok (), next) ∧
      next = (((failOrder.order taskId waiting).foldl (Manager.failDependentTask invoke)
        system.manager).runCallback invoke callback (.error failure)).setTaskState taskId
          .failed ∧
      (∀ id ∈ waiting, ∃ other, system.manager.find id = some other ∧
        other.taskState = .created) ∧
      (∀ id, WaitsFor system.manager.find taskId id → id ∈ waiting) ∧
      (∀ id ∈ waiting, ∀ next, WaitsFor system.manager.find id next → next ∈ waiting) ∧
      (∀ id ∈ waiting, Relation.TransGen (WaitsFor system.manager.find) taskId id) ∧
      (∀ id, next.find id = if id = taskId then some { info with taskState := .failed }
        else if id ∈ waiting then (system.manager.find id).map .abandon
        else system.manager.find id) ∧
      next.executionThreadPool = system.manager.executionThreadPool := by
  subst failed
  have progress := invariant.progress
  rw [working] at progress
  obtain ⟨⟨info, present, processing⟩, -⟩ :=
    invariant.safe.runningProcessing taskId task callback working
  obtain ⟨members, isMember, ⟨ranking⟩⟩ := progress.ranked
  have linked : ∀ id, Relation.ReflTransGen (WaitsFor system.manager.find) taskId id →
      Linked system.manager.find id := by
    rintro id below following ⟨other, found, follower⟩
    have alive : Unfinished other.taskState := by
      rcases below.cases_tail with rfl | ⟨_, -, -, waiting, waitingFound, created⟩
      · rw [present] at found
        cases found
        exact Or.inr (Or.inr processing)
      · rw [waitingFound] at found
        cases found
        exact Or.inl created
    obtain ⟨target, targetFound, ⟨-, depends⟩ | failed⟩ :=
      progress.linked id other following found alive follower
    · exact ⟨target, targetFound, depends⟩
    · exact clean id below following ⟨other, found, follower⟩
        (taskState_eq_some.mpr ⟨target, targetFound, failed⟩)
  have enough : ranking.height taskId < system.manager.taskLookup.keys.length + 1 := by
    have bound := ranking.height_le taskId
    rw [card_members isMember] at bound
    omega
  obtain ⟨waiting, collected, direct, closed, below⟩ :=
    Manager.followingWaitingTasks_ok order ranking linked enough
  have created := Manager.followingWaitingTasks_created collected
  have notWaiting : taskId ∉ waiting := by
    intro member
    obtain ⟨other, found, state⟩ := created taskId member
    rw [present] at found
    cases found
    rw [processing] at state
    cases state
  have confirmed := Manager.confirmTaskState_of_find invoke present processing
    fun (triggers : false = true) => by cases triggers
  refine ⟨info, waiting, _, present, processing, ?_, rfl, created, direct, closed, below,
    fun id => ?_, ?_⟩
  · unfold Manager.finishTask
    rw [if_neg (progress.callable taskId task callback rfl), confirmed]
    simp only [TaskOutcome.responses, collected]
  · simp only [Manager.find_setTaskState, Manager.find_runCallback, Function.update_apply,
      Manager.find_failDependentTasks, failOrder.mem_order, notWaiting, if_false, present,
      Option.map_some]
  · simp only [Manager.pool_setTaskState, Manager.pool_runCallback,
      Manager.pool_failDependentTasks]

/-- A clean `FinishTask` ends the running task. -/
theorem progress_finishTask {system : System Body Callback World} {taskId : TaskId} {task : Body}
    {callback : Option Callback} {order failOrder : HashOrder} {workerThread : StatusOr Unit}
    {outcome : TaskOutcome Score} (invariant : system.OrderlyInvariant completed)
    (working : system.worker = .running taskId task callback)
    (clean : system.CleanFinish completed taskId outcome) :
    ProgressInvariant completed
      (system.manager.finishTask invoke order failOrder workerThread taskId outcome.responses
        callback).2.find
      (system.manager.finishTask invoke order failOrder workerThread taskId outcome.responses
        callback).2.executionThreadPool (.returned : Worker Body Callback) := by
  have progress := invariant.progress
  rw [working] at progress
  cases outcome with
  | error failure =>
      obtain ⟨info, waiting, next, present, processing, finished, -, created, direct, closed, -,
        changed, samePool⟩ := orderly_finishTask_error invoke order failOrder workerThread
          invariant working rfl clean
      rw [finished, samePool]
      exact progress.finishFailed present processing created direct closed changed
  | ok response =>
      obtain ⟨info, next, released, present, processing, -, finished, -, created, changed, tasks,
        extended⟩ := orderly_finishTask_ok invoke order failOrder workerThread invariant
          working rfl clean
      have ended : ¬ Unfinished response.1.taskState := by
        rcases response.2 with state | state <;> simp [state, Unfinished]
      rw [finished]
      refine progress.finishCompleted clean.1 ended present processing ?_ changed tasks extended
      intro following member follower found failed
      obtain ⟨other, otherFound, state, -⟩ := created following member
      rw [found] at otherFound
      cases otherFound
      rw [failed] at state
      cases state

/-! ## Runs -/

/-- Every orderly step keeps the invariant. -/
theorem orderlyInvariant_step {system next : System Body Callback World}
    {action : Action Body Callback Score} (invariant : system.OrderlyInvariant completed)
    (orderly : system.Orderly completed action) (stepped : system.step invoke action = some next) :
    next.OrderlyInvariant completed := by
  refine ⟨safelyScheduled_step invoke invariant.safe stepped, ?_⟩
  cases action with
  | createTask order workerThread taskId task dependentTasks callback =>
      simp only [step] at stepped
      split at stepped
      next manager created =>
        cases stepped
        have progress := progress_createTask_ok invoke invariant orderly created
        exact progress
      next status manager rejected =>
        cases stepped
        rw [orderly_createTask_error invoke invariant orderly rejected]
        exact invariant.progress
  | takeTask =>
      simp only [step] at stepped
      split at stepped
      next taskId executionThreadPool waiting taken =>
        cases stepped
        have progress := invariant.progress
        rw [waiting] at progress
        exact progress.takeTask taken
      · cases stepped
  | startTask =>
      simp only [step] at stepped
      split at stepped
      next taskId scheduled =>
        obtain ⟨task, callback, manager, started, progress⟩ :=
          progress_startTask invoke invariant scheduled
        rw [started] at stepped
        cases stepped
        exact progress
      · cases stepped
  | notify responses =>
      simp only [step] at stepped
      split at stepped
      · cases stepped
        simpa using invariant.progress
      · cases stepped
  | finishTask order failOrder workerThread outcome =>
      simp only [step] at stepped
      split at stepped
      next taskId task callback working =>
        cases stepped
        simp only [Orderly, working] at orderly
        exact progress_finishTask invoke invariant working orderly
      · cases stepped
  | completeTask =>
      simp only [step] at stepped
      split at stepped
      next returned =>
        cases stepped
        have progress := invariant.progress
        rw [returned] at progress
        exact progress.completeTask
      · cases stepped

/-- Every state of an orderly run satisfies the invariant. -/
theorem orderlyInvariant_of_reachable {system : System Body Callback World}
    (reached : (machine invoke).ReachableUnder (Orderly completed) system) : system.OrderlyInvariant completed := by
  refine reached.invariant (OrderlyInvariant completed) ?_
    fun _ _ _ invariant orderly stepped => orderlyInvariant_step invoke invariant orderly stepped
  rintro _ ⟨world, rfl⟩
  refine ⟨safelyScheduled_initial world, ?_⟩
  refine
    { waiting := by intros; contradiction, queued := by intros; contradiction, processing := by intros; contradiction, settled := by intros; contradiction, owned := by intros; contradiction
      linked := nofun, ranked := ⟨∅, by simp [initial, Manager.create, Manager.find], ⟨?_⟩⟩
      callable := by intros; contradiction, running := rfl, limit := Nat.one_pos, staffed := ?_
      active := fun _ => rfl }
  · refine Ranking.empty.mono fun _ _ linked => ?_
    obtain ⟨_, found, -⟩ := linked
    cases found
  · rintro ⟨id, info, found⟩
    cases found

/-- With an idle pool every task has ended: a waiting one would have an unfinished
dependency of a lower rank. -/
theorem ended_of_idle {system : System Body Callback World}
    (invariant : system.OrderlyInvariant completed)
    (idle : system.manager.executionThreadPool.isDone = true) (id : TaskId) :
    ∀ info, system.manager.find id = some info → ¬ Unfinished info.taskState := by
  obtain ⟨empty, inactive⟩ := (ThreadPool.isDone_iff _).mp idle
  have waiting := invariant.progress.active inactive
  obtain ⟨members, -, ⟨ranking⟩⟩ := invariant.progress.ranked
  induction id using ranking.induction with
  | step id inductionHypothesis =>
      rintro info found (created | queued | processing)
      · obtain ⟨nonempty, listed⟩ := invariant.progress.waiting id info found created
        obtain ⟨dep, member⟩ := Finset.nonempty_iff_ne_empty.mpr nonempty
        obtain ⟨follows, dependency, depFound, alive⟩ := listed dep member
        exact inductionHypothesis dep follows dependency depFound alive
      · have pending := invariant.progress.queued id info found queued
        simp [empty, waiting, Worker.scheduledTasks] at pending
      · obtain ⟨task, callback, running⟩ := invariant.progress.processing id info found processing
        rw [waiting] at running
        cases running

/-- Progress: in every state of an orderly run whose successful bodies return
`kDone`, if the pool has no queued and no running work, then every created task is
in an end state, and the wait for it returns. -/
theorem orderly_progress {system : System Body Callback World}
    (reached : (machine invoke).ReachableUnder (Orderly (· = .done)) system)
    (idle : system.manager.executionThreadPool.isDone = true) {taskId : TaskId}
    (created : system.Created taskId) :
    ∃ taskState, system.taskState taskId = some taskState ∧
      isTaskEndState taskState = true ∧ system.manager.taskDone taskId = true := by
  have invariant := orderlyInvariant_of_reachable invoke reached
  obtain ⟨deps, event⟩ := created
  obtain ⟨info, found⟩ := invariant.safe.createdPresent taskId deps event
  refine ⟨info.taskState, taskState_eq_some.mpr ⟨info, found, rfl⟩, ?_⟩
  have ended := ended_of_idle invariant idle taskId info found
  rcases (invariant.progress.settled taskId info found).resolve_left ended with
    done | failed | abandoned
  · simp [isTaskEndState, Manager.taskDone, found, done]
  · simp [isTaskEndState, Manager.taskDone, found, failed]
  · simp [isTaskEndState, Manager.taskDone, found, abandoned]

/-! ### An orderly run, and one that is not -/

instance [DecidablePred completed] (system : System Body Callback World) (taskId : TaskId)
    (responses : { responses : Responses Score //
      responses.taskState = .done ∨ responses.taskState = .maxNumTokensReached }) :
    Decidable (system.CleanFinish completed taskId (.ok responses)) :=
  decidable_of_iff
    (completed responses.1.taskState ∧
      ∀ following ∈ system.followingTasks taskId,
        system.taskState following ≠ some .dependentTaskFailed)
    (and_congr_right fun _ => forall_congr' fun _ => imp_congr_left mem_followingTasks)

/-- An orderly step in which no body fails. -/
def OrderlySuccess (system : System Body Callback World) :
    Action Body Callback Score → Prop
  | .finishTask _ _ _ (.ok responses) =>
      match system.worker with
      | .running taskId _ _ => system.CleanFinish (· = .done) taskId (.ok responses)
      | _ => True
  | .finishTask _ _ _ (.error _) => False
  | action => system.Orderly (· = .done) action

instance (system : System Body Callback World) :
    ∀ action : Action Body Callback Score, Decidable (system.OrderlySuccess action)
  | .createTask .. => by
      unfold OrderlySuccess Orderly
      infer_instance
  | .takeTask => isTrue trivial
  | .startTask => isTrue trivial
  | .notify _ => isTrue trivial
  | .finishTask _ _ _ (.ok responses) => by
      unfold OrderlySuccess
      cases system.worker <;> infer_instance
  | .finishTask _ _ _ (.error _) => isFalse id
  | .completeTask => isTrue trivial

/-- Whoever succeeds in an orderly way is orderly. -/
theorem OrderlySuccess.orderly {system : System Body Callback World}
    {action : Action Body Callback Score} (success : system.OrderlySuccess action) :
    system.Orderly (· = .done) action := by
  cases action with
  | finishTask order failOrder workerThread outcome =>
      cases outcome with
      | ok responses => exact success
      | error status => cases success
  | _ => exact success

/-- The body's plain success. -/
def finished : TaskOutcome Int :=
  .ok ⟨.ofState .done, Or.inl rfl⟩

/-- The worker takes, runs and finishes one task. -/
def workerRound : List (Action Unit Unit Int) :=
  [.takeTask, .startTask, .finishTask .ascending .ascending (.ok ()) finished, .completeTask]

/-- Two dependent tasks, created before either has run. -/
def chainRun : List (Action Unit Unit Int) :=
  [.createTask .ascending (.ok ()) 0 () ∅ (), .createTask .ascending (.ok ()) 1 () {0} ()] ++
    workerRound ++ workerRound

/-- Progress at the end of `chainRun`. -/
theorem orderly_progress_chainRun :
    ∃ system, silentMachine.execute (initial ()) chainRun = some system ∧
      ∃ taskState, system.taskState 1 = some taskState ∧ isTaskEndState taskState = true ∧
        system.manager.taskDone 1 = true := by
  have runs : (silentMachine.execute (initial ()) chainRun).isSome = true := by decide
  obtain ⟨system, executed⟩ := Option.isSome_iff_exists.mp runs
  have idle : (silentMachine.execute (initial ()) chainRun).map
      (fun system => system.manager.executionThreadPool.isDone) = some true := by decide
  have created : (silentMachine.execute (initial ()) chainRun).map
      (fun system => decide (Event.created 1 {0} ∈ system.history)) = some true := by decide
  rw [executed, Option.map_some, Option.some.injEq] at idle created
  have start : silentMachine.ReachableUnder OrderlySuccess (initial ()) := .initial ⟨(), rfl⟩
  have successful := start.execute (by decide) executed
  exact ⟨system, executed, orderly_progress (fun _ _ world => world)
    (successful.mono fun _ _ => OrderlySuccess.orderly) idle ⟨{0}, of_decide_eq_true created⟩⟩

/-- The second task is created when the first is already done. -/
def lateRun : List (Action Unit Unit Int) :=
  .createTask .ascending (.ok ()) 0 () ∅ () :: workerRound ++
    [.createTask .ascending (.ok ()) 1 () {0} ()]

/-- In an arbitrary run a task may wait forever: after `lateRun` the pool is idle
and the second task stays in `kCreated`. -/
theorem progress_fails_lateRun :
    ∃ system, silentMachine.Reachable system ∧
      system.manager.executionThreadPool.isDone = true ∧ system.Created 1 ∧
      system.taskState 1 = some .created ∧ system.manager.taskDone 1 = false := by
  have runs : (silentMachine.execute (initial ()) lateRun).isSome = true := by decide
  obtain ⟨system, executed⟩ := Option.isSome_iff_exists.mp runs
  have final : (silentMachine.execute (initial ()) lateRun).map
      (fun system => (system.manager.executionThreadPool.isDone,
        decide (Event.created 1 {0} ∈ system.history), system.taskState 1,
        system.manager.taskDone 1)) = some (true, true, some .created, false) := by
    decide
  rw [executed, Option.map_some, Option.some.injEq] at final
  simp only [Prod.mk.injEq, decide_eq_true_eq] at final
  obtain ⟨idle, created, state, waits⟩ := final
  exact ⟨system, Machine.reachable_of_execute ⟨(), rfl⟩ executed, idle, ⟨{0}, created⟩, state,
    waits⟩

end System

end LiteRTLM.Framework.ExecutionManager
