import Mathlib
import LiteRTLM.Framework.ExecutionManager.SchedulingSafety
import LiteRTLM.Framework.ExecutionManager.Success

/-!
Contract: the runs in which no task is lost, and what holds throughout them.

The code loses a task in four ways, and `Orderly` excludes each at the step that
takes it: a task created on a dependency that has already completed keeps that
dependency; a rejected creation leaves a follower that does not exist; a task is
left behind when its first worker cannot be created; and a task that a failure
has taken down stays registered with its other dependencies, whose own
`FinishTask` then returns early.

Owns: the condition, the invariant of the runs that meet it, and its
preservation by each change of the lookup and the pool.

Does not own: which changes the operations make.
-/

namespace LiteRTLM.Framework.ExecutionManager

open LiteRTLM.Engine LiteRTLM.Library

variable {Body Callback World Score : Type}

/-- A task in this state has not ended. -/
def Unfinished (taskState : TaskState) : Prop :=
  taskState = .created ∨ taskState = .queued ∨ taskState = .processing

instance (taskState : TaskState) : Decidable (Unfinished taskState) :=
  inferInstanceAs (Decidable (_ ∨ _))

/-! ## The condition on a run -/

namespace System

/-- The body's return leaves its task in a `completed` state, and meets links to
followers that are all as `FinishTask` expects them. -/
def CleanFinish (completed : TaskState → Prop) (system : System Body Callback World)
    (taskId : TaskId) : TaskOutcome Score → Prop
  | .ok responses =>
      completed responses.1.taskState ∧
        ∀ following, Follows system.manager.find taskId following →
          system.taskState following ≠ some .dependentTaskFailed
  | .error _ =>
      ∀ id, Relation.ReflTransGen (WaitsFor system.manager.find) taskId id →
        ∀ following, Follows system.manager.find id following →
          system.taskState following = some .dependentTaskFailed →
            ∃ info, system.manager.find following = some info ∧ id ∈ info.dependentTasks

/-- The step does not take one of the ways in which a task is lost, and bodies
that return OK leave their tasks in `completed` states. -/
def Orderly (completed : TaskState → Prop) (system : System Body Callback World) :
    Action Body Callback Score → Prop
  | .createTask order workerThread taskId _ dependentTasks _ =>
      system.taskState taskId = none →
        (dependentTasks = ∅ →
          0 < system.manager.executionThreadPool.numThreads ∨ workerThread = .ok ()) ∧
        ((∀ dep ∈ dependentTasks, system.taskState dep ≠ none) →
          (∀ dep ∈ dependentTasks, ∀ taskState ∈ system.taskState dep, ¬ completed taskState) ∨
            ∃ dep ∈ dependentTasks, system.taskState dep = some .failed ∨
              system.taskState dep = some .dependentTaskFailed) ∧
        ((∃ dep ∈ dependentTasks, system.taskState dep = none) →
          ∀ dep ∈ (order.order taskId dependentTasks).takeWhile
              fun dep => (system.taskState dep).isSome,
            ∀ taskState ∈ system.taskState dep, ¬ Registers taskState)
  | .finishTask _ _ _ outcome =>
      match system.worker with
      | .running taskId _ _ => system.CleanFinish completed taskId outcome
      | _ => True
  | _ => True

end System

/-! ## The invariant -/

/-- What every state of an orderly run satisfies besides being safely scheduled. -/
structure ProgressInvariant (completed : TaskState → Prop) (find : TaskId → Option (TaskInfo Body Callback))
    (pool : ThreadPool TaskId) (worker : Worker Body Callback) : Prop where
  waiting : ∀ id info, find id = some info → info.taskState = .created →
    info.dependentTasks ≠ ∅ ∧ ∀ dep ∈ info.dependentTasks, Follows find dep id ∧
      ∃ dependency, find dep = some dependency ∧ Unfinished dependency.taskState
  queued : ∀ id info, find id = some info → info.taskState = .queued →
    id ∈ pool.tasks ++ worker.scheduledTasks
  processing : ∀ id info, find id = some info → info.taskState = .processing →
    ∃ task callback, worker = .running id task callback
  settled : ∀ id info, find id = some info →
    Unfinished info.taskState ∨ completed info.taskState ∨ HasFailed info.taskState
  owned : ∀ id info, find id = some info →
    info.taskState = .created ∨ info.taskState = .queued →
      info.task ≠ none ∧ info.callback ≠ none
  linked : ∀ id info following, find id = some info → Unfinished info.taskState →
    following ∈ info.followingTasks → ∃ follower, find following = some follower ∧
      ((follower.taskState = .created ∧ id ∈ follower.dependentTasks) ∨
        follower.taskState = .dependentTaskFailed)
  ranked : ∃ members, (∀ id, id ∈ members ↔ (find id).isSome) ∧
    Nonempty (Ranking members (Follows find))
  callable : ∀ id task callback, worker = .running id task callback → callback ≠ none
  running : pool.stopped = false
  limit : 0 < pool.maxNumThreads
  staffed : (∃ id info, find id = some info) → 0 < pool.numThreads
  active : pool.numActiveTasks = 0 → worker = .waiting

namespace ProgressInvariant

variable {completed : TaskState → Prop}
variable {find next : TaskId → Option (TaskInfo Body Callback)} {pool after : ThreadPool TaskId}
variable {worker : Worker Body Callback}

/-! ### Creating a task -/

/-- A task on existing dependencies enters the lookup, waiting or failed. -/
theorem createWaiting (invariant : ProgressInvariant completed find pool worker) {taskId : TaskId}
    {task : Body} {taskState : TaskState} {deps : Finset TaskId} {callback : Callback}
    (fresh : find taskId = none) (dependent : deps ≠ ∅)
    (exist : ∀ dep ∈ deps, (find dep).isSome)
    (starts : taskState = .dependentTaskFailed ∨ (taskState = .created ∧
      ∀ dep ∈ deps, ∀ info, find dep = some info → Unfinished info.taskState))
    (changed : ∀ id, next id = if id = taskId then
        some (Manager.newTask task taskState deps callback)
      else if id ∈ deps then (find id).map (.register taskId) else find id) :
    ProgressInvariant completed next pool worker := by
  have apart : ∀ id info, find id = some info → id ≠ taskId := by
    rintro id info found rfl
    rw [fresh] at found
    cases found
  have inserted : next taskId = some (Manager.newTask task taskState deps callback) := by
    rw [changed, if_pos rfl]
  have forward : ∀ id info, find id = some info → ∃ new, next id = some new ∧
      new.taskState = info.taskState ∧ new.dependentTasks = info.dependentTasks ∧
      new.task = info.task ∧ new.callback = info.callback ∧
      (∀ following ∈ info.followingTasks, following ∈ new.followingTasks) ∧
      (∀ following ∈ new.followingTasks, following ∈ info.followingTasks ∨
        (following = taskId ∧ id ∈ deps)) ∧
      (id ∈ deps → Registers info.taskState → taskId ∈ new.followingTasks) := by
    intro id info found
    rw [changed, if_neg (apart id info found), found]
    by_cases member : id ∈ deps
    · rw [if_pos member, Option.map_some]
      refine ⟨_, rfl, ?_⟩
      by_cases registers : Registers info.taskState
      · rw [TaskInfo.register, if_pos registers]
        refine ⟨rfl, rfl, rfl, rfl, fun _ old => Finset.mem_insert_of_mem old, ?_,
          fun _ _ => Finset.mem_insert_self _ _⟩
        intro following follower
        rcases Finset.mem_insert.mp follower with same | old
        · exact Or.inr ⟨same, member⟩
        · exact Or.inl old
      · rw [TaskInfo.register, if_neg registers]
        exact ⟨rfl, rfl, rfl, rfl, fun _ old => old, fun _ old => Or.inl old,
          fun _ yes => absurd yes registers⟩
    · rw [if_neg member]
      exact ⟨info, rfl, rfl, rfl, rfl, rfl, fun _ old => old, fun _ old => Or.inl old,
        fun inside => absurd inside member⟩
  have backward : ∀ id new, next id = some new → id ≠ taskId → ∃ info, find id = some info ∧
      new.taskState = info.taskState ∧ new.dependentTasks = info.dependentTasks ∧
      new.task = info.task ∧ new.callback = info.callback ∧
      (∀ following ∈ new.followingTasks, following ∈ info.followingTasks ∨
        (following = taskId ∧ id ∈ deps)) := by
    intro id new found different
    cases present : find id with
    | none => simp [changed, different, present] at found
    | some info =>
        obtain ⟨other, otherFound, sameState, sameDependencies, sameTask, sameCallback, -, origin,
          -⟩ := forward id info present
        rw [found] at otherFound
        cases otherFound
        exact ⟨info, rfl, sameState, sameDependencies, sameTask, sameCallback, origin⟩
  have followsOld : ∀ {id following}, Follows find id following → Follows next id following := by
    rintro id following ⟨info, found, follower⟩
    obtain ⟨new, present, -, -, -, -, kept, -⟩ := forward id info found
    exact ⟨new, present, kept following follower⟩
  obtain ⟨members, isMember, ⟨ranking⟩⟩ := invariant.ranked
  have notMember : taskId ∉ members := by simp [isMember, fresh]
  refine
    { waiting := ?_, queued := ?_, processing := ?_, settled := ?_, owned := ?_, linked := ?_
      ranked := ?_, callable := invariant.callable, running := invariant.running
      limit := invariant.limit, staffed := ?_, active := invariant.active }
  · intro id new found created
    by_cases same : id = taskId
    · subst same
      rw [inserted] at found
      cases found
      obtain ⟨-, unfinished⟩ := starts.resolve_left (by rintro rfl; cases created)
      refine ⟨dependent, fun dep member => ?_⟩
      obtain ⟨info, present⟩ := Option.isSome_iff_exists.mp (exist dep member)
      obtain ⟨dependency, depFound, sameState, -, -, -, -, -, registered⟩ :=
        forward dep info present
      have alive := unfinished dep member info present
      have registers : Registers info.taskState := by
        rcases alive with state | state | state <;> simp [Registers, HasFailed, state]
      exact ⟨⟨dependency, depFound, registered member registers⟩, dependency, depFound,
        sameState ▸ alive⟩
    · obtain ⟨info, present, sameState, sameDependencies, -⟩ := backward id new found same
      rw [sameDependencies]
      obtain ⟨nonempty, listed⟩ := invariant.waiting id info present (sameState ▸ created)
      refine ⟨nonempty, fun dep member => ?_⟩
      obtain ⟨follows, dependency, depFound, alive⟩ := listed dep member
      obtain ⟨new', depNew, depState, -⟩ := forward dep dependency depFound
      exact ⟨followsOld follows, new', depNew, depState ▸ alive⟩
  · intro id new found queued
    by_cases same : id = taskId
    · subst same
      rw [inserted] at found
      cases found
      rcases starts with rfl | ⟨rfl, -⟩ <;> cases queued
    · obtain ⟨info, present, sameState, -⟩ := backward id new found same
      exact invariant.queued id info present (sameState ▸ queued)
  · intro id new found processing
    by_cases same : id = taskId
    · subst same
      rw [inserted] at found
      cases found
      rcases starts with rfl | ⟨rfl, -⟩ <;> cases processing
    · obtain ⟨info, present, sameState, -⟩ := backward id new found same
      exact invariant.processing id info present (sameState ▸ processing)
  · intro id new found
    by_cases same : id = taskId
    · subst same
      rw [inserted] at found
      cases found
      rcases starts with rfl | ⟨rfl, -⟩
      · exact Or.inr (Or.inr (Or.inr rfl))
      · exact Or.inl (Or.inl rfl)
    · obtain ⟨info, present, sameState, -⟩ := backward id new found same
      rw [sameState]
      exact invariant.settled id info present
  · intro id new found state
    by_cases same : id = taskId
    · subst same
      rw [inserted] at found
      cases found
      simp [Manager.newTask]
    · obtain ⟨info, present, sameState, -, sameTask, sameCallback, -⟩ := backward id new found same
      rw [sameTask, sameCallback]
      exact invariant.owned id info present (sameState ▸ state)
  · intro id new following found alive follower
    by_cases same : id = taskId
    · subst same
      rw [inserted] at found
      cases found
      simp [Manager.newTask] at follower
    · obtain ⟨info, present, sameState, -, -, -, origin⟩ := backward id new found same
      rcases origin following follower with old | ⟨rfl, member⟩
      · obtain ⟨follower, followerFound, link⟩ :=
          invariant.linked id info following present (sameState ▸ alive) old
        obtain ⟨newFollower, newFound, followerState, followerDeps, -⟩ :=
          forward following follower followerFound
        exact ⟨newFollower, newFound, by rwa [followerState, followerDeps]⟩
      · refine ⟨_, inserted, ?_⟩
        rcases starts with rfl | ⟨rfl, -⟩
        · exact Or.inr rfl
        · exact Or.inl ⟨rfl, member⟩
  · refine ⟨insert taskId members, fun id => ?_, ⟨ranking.insert notMember ?_⟩⟩
    · rw [Finset.mem_insert, isMember, changed]
      by_cases same : id = taskId
      · simp [same]
      · by_cases member : id ∈ deps <;> simp [same, member]
    · rintro id following ⟨new, found, follower⟩
      by_cases same : id = taskId
      · subst same
        rw [inserted] at found
        cases found
        simp [Manager.newTask] at follower
      · obtain ⟨info, present, -, -, -, -, origin⟩ := backward id new found same
        rcases origin following follower with old | ⟨rfl, -⟩
        · exact Or.inl ⟨info, present, old⟩
        · exact Or.inr ⟨(isMember id).mpr (by simp [present]), rfl⟩
  · rintro -
    obtain ⟨dep, member⟩ := Finset.nonempty_iff_ne_empty.mpr dependent
    obtain ⟨info, present⟩ := Option.isSome_iff_exists.mp (exist dep member)
    exact invariant.staffed ⟨dep, info, present⟩

/-- An independent task enters the lookup and the queue. -/
theorem createQueued (invariant : ProgressInvariant completed find pool worker) {taskId : TaskId}
    {task : Body} {callback : Callback} (fresh : find taskId = none)
    (tasks : after.tasks = pool.tasks ++ [taskId]) (extended : after.Extends pool)
    (staffed : 0 < after.numThreads) :
    ProgressInvariant completed
      (Function.update find taskId (some (Manager.newTask task .queued ∅ callback)))
      after worker := by
  have apart : ∀ id info, find id = some info → id ≠ taskId := by
    rintro id info found rfl
    rw [fresh] at found
    cases found
  have kept : ∀ id info, find id = some info →
      Function.update find taskId (some (Manager.newTask task .queued ∅ callback)) id =
        some info := by
    intro id info found
    rw [Function.update_of_ne (apart id info found), found]
  obtain ⟨members, isMember, ⟨ranking⟩⟩ := invariant.ranked
  have notMember : taskId ∉ members := by simp [isMember, fresh]
  refine
    { waiting := ?_, queued := ?_, processing := ?_, settled := ?_, owned := ?_, linked := ?_
      ranked := ?_, callable := invariant.callable
      running := extended.stopped.trans invariant.running
      limit := extended.maxNumThreads ▸ invariant.limit, staffed := fun _ => staffed
      active := fun idle => invariant.active (extended.numActiveTasks ▸ idle) }
  · intro id info found created
    by_cases same : id = taskId
    · subst same
      rw [Function.update_self] at found
      cases found
      cases created
    · rw [Function.update_of_ne same] at found
      obtain ⟨nonempty, listed⟩ := invariant.waiting id info found created
      refine ⟨nonempty, fun dep member => ?_⟩
      obtain ⟨⟨parent, parentFound, follower⟩, dependency, depFound, alive⟩ := listed dep member
      exact ⟨⟨parent, kept dep parent parentFound, follower⟩, dependency,
        kept dep dependency depFound, alive⟩
  · intro id info found queued
    by_cases same : id = taskId
    · simp [same, tasks]
    · rw [Function.update_of_ne same] at found
      have pending := invariant.queued id info found queued
      simp only [tasks, List.mem_append, List.mem_singleton] at pending ⊢
      tauto
  · intro id info found processing
    by_cases same : id = taskId
    · subst same
      rw [Function.update_self] at found
      cases found
      cases processing
    · rw [Function.update_of_ne same] at found
      exact invariant.processing id info found processing
  · intro id info found
    by_cases same : id = taskId
    · subst same
      rw [Function.update_self] at found
      cases found
      exact Or.inl (Or.inr (Or.inl rfl))
    · rw [Function.update_of_ne same] at found
      exact invariant.settled id info found
  · intro id info found state
    by_cases same : id = taskId
    · subst same
      rw [Function.update_self] at found
      cases found
      simp [Manager.newTask]
    · rw [Function.update_of_ne same] at found
      exact invariant.owned id info found state
  · intro id info following found alive follower
    by_cases same : id = taskId
    · subst same
      rw [Function.update_self] at found
      cases found
      simp [Manager.newTask] at follower
    · rw [Function.update_of_ne same] at found
      obtain ⟨other, otherFound, link⟩ := invariant.linked id info following found alive follower
      exact ⟨other, kept following other otherFound, link⟩
  · refine ⟨insert taskId members, fun id => ?_, ⟨ranking.insert notMember ?_⟩⟩
    · rw [Finset.mem_insert, isMember]
      by_cases same : id = taskId
      · simp [same]
      · simp [same]
    · rintro id following ⟨info, found, follower⟩
      by_cases same : id = taskId
      · subst same
        rw [Function.update_self] at found
        cases found
        simp [Manager.newTask] at follower
      · rw [Function.update_of_ne same] at found
        exact Or.inl ⟨info, found, follower⟩

/-! ### The worker's steps -/

/-- The worker takes the front of the queue. -/
theorem takeTask (invariant : ProgressInvariant completed find pool (.waiting : Worker Body Callback))
    {taskId : TaskId} (taken : pool.takeTask = some (taskId, after)) :
    ProgressInvariant completed find after (.scheduled taskId : Worker Body Callback) := by
  obtain ⟨rest, queue, rfl⟩ := ThreadPool.takeTask_some taken
  refine { invariant with queued := ?_, processing := ?_, callable := nofun, active := ?_ }
  · intro id info found queued
    have pending := invariant.queued id info found queued
    rw [queue] at pending
    simp only [Worker.scheduledTasks, List.append_nil, List.mem_cons] at pending
    simp only [Worker.scheduledTasks, List.mem_append, List.mem_singleton]
    exact pending.symm
  · intro id info found processing
    obtain ⟨task, callback, impossible⟩ := invariant.processing id info found processing
    cases impossible
  · intro impossible
    simp at impossible

/-- The worker starts the task it has taken. -/
theorem startTask {taskId : TaskId} {task : Body} {callback : Option Callback}
    {info : TaskInfo Body Callback} (callable : callback ≠ none)
    (invariant : ProgressInvariant completed find pool (.scheduled taskId : Worker Body Callback))
    (present : find taskId = some info) (queued : info.taskState = .queued) :
    ProgressInvariant completed (Function.update find taskId
        (some { info with taskState := .processing, task := none, callback := none }))
      pool (.running taskId task callback) := by
  have follows : ∀ {id following}, Follows (Function.update find taskId
        (some { info with taskState := .processing, task := none, callback := none }))
      id following ↔ Follows find id following := by
    intro id following
    unfold Follows
    by_cases same : id = taskId
    · subst same
      simp [present]
    · simp [same]
  obtain ⟨members, isMember, ⟨ranking⟩⟩ := invariant.ranked
  refine
    { waiting := ?_, queued := ?_, processing := ?_, settled := ?_, owned := ?_, linked := ?_
      ranked := ⟨members, fun id => ?_, ⟨ranking.mono fun _ _ => follows.mp⟩⟩
      callable := ?_, running := invariant.running, limit := invariant.limit, staffed := ?_
      active := fun idle => by cases invariant.active idle }
  · intro id other found created
    by_cases same : id = taskId
    · subst same
      rw [Function.update_self] at found
      cases found
      cases created
    · rw [Function.update_of_ne same] at found
      obtain ⟨nonempty, listed⟩ := invariant.waiting id other found created
      refine ⟨nonempty, fun dep member => ?_⟩
      obtain ⟨parent, dependency, depFound, alive⟩ := listed dep member
      refine ⟨follows.mpr parent, ?_⟩
      by_cases started : dep = taskId
      · exact ⟨_, by rw [started, Function.update_self], Or.inr (Or.inr rfl)⟩
      · exact ⟨dependency, by rw [Function.update_of_ne started, depFound], alive⟩
  · intro id other found otherQueued
    by_cases same : id = taskId
    · subst same
      rw [Function.update_self] at found
      cases found
      cases otherQueued
    · rw [Function.update_of_ne same] at found
      have pending := invariant.queued id other found otherQueued
      simpa [Worker.scheduledTasks, same] using pending
  · intro id other found processing
    by_cases same : id = taskId
    · exact ⟨task, callback, by rw [same]⟩
    · rw [Function.update_of_ne same] at found
      obtain ⟨_, _, impossible⟩ := invariant.processing id other found processing
      cases impossible
  · intro id other found
    by_cases same : id = taskId
    · subst same
      rw [Function.update_self] at found
      cases found
      exact Or.inl (Or.inr (Or.inr rfl))
    · rw [Function.update_of_ne same] at found
      exact invariant.settled id other found
  · intro id other found state
    by_cases same : id = taskId
    · subst same
      rw [Function.update_self] at found
      cases found
      rcases state with state | state <;> cases state
    · rw [Function.update_of_ne same] at found
      exact invariant.owned id other found state
  · intro id other following found alive follower
    have before : ∃ old, find id = some old ∧ Unfinished old.taskState ∧
        following ∈ old.followingTasks := by
      by_cases same : id = taskId
      · subst same
        rw [Function.update_self] at found
        cases found
        exact ⟨info, present, Or.inr (Or.inl queued), follower⟩
      · rw [Function.update_of_ne same] at found
        exact ⟨other, found, alive, follower⟩
    obtain ⟨old, oldFound, oldAlive, oldFollower⟩ := before
    obtain ⟨target, targetFound, link⟩ :=
      invariant.linked id old following oldFound oldAlive oldFollower
    have apart : following ≠ taskId := by
      rintro rfl
      rw [present] at targetFound
      cases targetFound
      simp [queued] at link
    exact ⟨target, by rw [Function.update_of_ne apart, targetFound], link⟩
  · rw [isMember]
    by_cases same : id = taskId
    · simp [same, present]
    · simp [same]
  · intro id otherTask otherCallback running
    cases running
    exact callable
  · rintro -
    exact invariant.staffed ⟨taskId, info, present⟩

/-- The worker goes back to waiting. -/
theorem completeTask (invariant : ProgressInvariant completed find pool (.returned : Worker Body Callback)) :
    ProgressInvariant completed find pool.completeTask (.waiting : Worker Body Callback) := by
  refine { invariant with
    processing := ?_, callable := nofun, active := fun _ => rfl }
  intro id info found processing
  obtain ⟨task, callback, impossible⟩ := invariant.processing id info found processing
  cases impossible

/-- The running task has completed and its followers, which all wait, are
released. -/
theorem finishCompleted {taskState : TaskState} {taskId : TaskId} {task : Body} {callback : Option Callback}
    {info : TaskInfo Body Callback}
    (invariant : ProgressInvariant completed find pool (.running taskId task callback))
    (final : completed taskState) (ended : ¬ Unfinished taskState)
    (present : find taskId = some info) (processing : info.taskState = .processing)
    (clean : ∀ following ∈ info.followingTasks, ∀ follower, find following = some follower →
      follower.taskState ≠ .dependentTaskFailed)
    (changed : ∀ id, next id = if id = taskId then some { info with taskState }
      else if id ∈ info.followingTasks then (find id).map (.release taskId) else find id)
    (tasks : ∀ id, id ∈ after.tasks ↔ id ∈ pool.tasks ∨
      (id ∈ info.followingTasks ∧ ∃ follower, find id = some follower ∧
        follower.dependentTasks.erase taskId = ∅))
    (extended : after.Extends pool) :
    ProgressInvariant completed next after (.returned : Worker Body Callback) := by
  have waits : ∀ following ∈ info.followingTasks, ∃ follower, find following = some follower ∧
      follower.taskState = .created ∧ taskId ∈ follower.dependentTasks := by
    intro following member
    obtain ⟨follower, found, link⟩ := invariant.linked taskId info following present
      (Or.inr (Or.inr processing)) member
    obtain ⟨created, depends⟩ := link.resolve_right (clean following member follower found)
    exact ⟨follower, found, created, depends⟩
  have finished : next taskId = some { info with taskState } := by
    rw [changed, if_pos rfl]
  have other : ∀ id new, next id = some new → Unfinished new.taskState → id ≠ taskId := by
    rintro id new found alive rfl
    rw [finished] at found
    cases found
    exact ended alive
  -- A task other than the finished one is either released or unchanged.
  have backward : ∀ id new, next id = some new → id ≠ taskId → ∃ old, find id = some old ∧
      ((id ∈ info.followingTasks ∧ old.taskState = .created ∧ new = old.release taskId) ∨
        (id ∉ info.followingTasks ∧ new = old)) := by
    intro id new found different
    rw [changed, if_neg different] at found
    by_cases member : id ∈ info.followingTasks
    · obtain ⟨follower, followerFound, created, -⟩ := waits id member
      rw [if_pos member, followerFound] at found
      cases found
      exact ⟨follower, followerFound, Or.inl ⟨member, created, rfl⟩⟩
    · rw [if_neg member] at found
      exact ⟨new, found, Or.inr ⟨member, rfl⟩⟩
  have forward : ∀ id old, find id = some old → id ≠ taskId → Unfinished old.taskState →
      ∃ new, next id = some new ∧ Unfinished new.taskState := by
    intro id old found different alive
    rw [changed, if_neg different, found]
    by_cases member : id ∈ info.followingTasks
    · rw [if_pos member]
      refine ⟨_, rfl, ?_⟩
      by_cases last : old.dependentTasks.erase taskId = ∅
      · simp [TaskInfo.release, last, Unfinished]
      · simpa [TaskInfo.release, last] using alive
    · rw [if_neg member]
      exact ⟨old, rfl, alive⟩
  have follows : ∀ {id following}, Follows next id following ↔ Follows find id following := by
    intro id following
    unfold Follows
    rw [changed]
    by_cases same : id = taskId
    · subst same
      simp [present]
    · rw [if_neg same]
      by_cases member : id ∈ info.followingTasks
      · rw [if_pos member]
        simp only [Option.map_eq_some_iff]
        constructor
        · rintro ⟨_, ⟨old, found, rfl⟩, follower⟩
          exact ⟨old, found, follower⟩
        · rintro ⟨old, found, follower⟩
          exact ⟨_, ⟨old, found, rfl⟩, follower⟩
      · rw [if_neg member]
  obtain ⟨members, isMember, ⟨ranking⟩⟩ := invariant.ranked
  refine
    { waiting := ?_, queued := ?_, processing := ?_, settled := ?_, owned := ?_, linked := ?_
      ranked := ⟨members, fun id => ?_, ⟨ranking.mono fun _ _ => follows.mp⟩⟩
      callable := by intros; contradiction, running := extended.stopped.trans invariant.running
      limit := extended.maxNumThreads ▸ invariant.limit
      staffed := fun _ => (invariant.staffed ⟨taskId, info, present⟩).trans_le extended.numThreads
      active := fun idle => by cases invariant.active (extended.numActiveTasks ▸ idle) }
  · intro id new found created
    have different := other id new found (Or.inl created)
    obtain ⟨old, oldFound, ⟨member, oldCreated, rfl⟩ | ⟨notMember, rfl⟩⟩ :=
      backward id new found different
    · obtain ⟨-, listed⟩ := invariant.waiting id old oldFound oldCreated
      have more : old.dependentTasks.erase taskId ≠ ∅ := by
        intro last
        simp [TaskInfo.release, last] at created
      refine ⟨more, fun dep depMember => ?_⟩
      obtain ⟨depOther, depListed⟩ := Finset.mem_erase.mp depMember
      obtain ⟨parent, dependency, depFound, alive⟩ := listed dep depListed
      exact ⟨follows.mpr parent, forward dep dependency depFound depOther alive⟩
    · obtain ⟨nonempty, listed⟩ := invariant.waiting id new oldFound created
      refine ⟨nonempty, fun dep depMember => ?_⟩
      obtain ⟨parent, dependency, depFound, alive⟩ := listed dep depMember
      have depOther : dep ≠ taskId := by
        rintro rfl
        obtain ⟨other, otherFound, follower⟩ := parent
        rw [present] at otherFound
        cases otherFound
        exact notMember follower
      exact ⟨follows.mpr parent, forward dep dependency depFound depOther alive⟩
  · intro id new found queued
    have different := other id new found (Or.inr (Or.inl queued))
    simp only [Worker.scheduledTasks, List.append_nil]
    rw [tasks]
    obtain ⟨old, oldFound, ⟨member, oldCreated, rfl⟩ | ⟨-, rfl⟩⟩ := backward id new found different
    · refine Or.inr ⟨member, old, oldFound, ?_⟩
      by_contra more
      simp [TaskInfo.release, more, oldCreated] at queued
    · exact Or.inl (by simpa [Worker.scheduledTasks] using
        invariant.queued id new oldFound queued)
  · intro id new found newProcessing
    have different := other id new found (Or.inr (Or.inr newProcessing))
    obtain ⟨old, oldFound, ⟨-, oldCreated, rfl⟩ | ⟨-, rfl⟩⟩ := backward id new found different
    · by_cases last : old.dependentTasks.erase taskId = ∅ <;>
        simp [TaskInfo.release, last, oldCreated] at newProcessing
    · obtain ⟨_, _, running⟩ := invariant.processing id new oldFound newProcessing
      cases running
      exact absurd rfl different
  · intro id new found
    by_cases same : id = taskId
    · subst same
      rw [finished] at found
      cases found
      exact Or.inr (Or.inl final)
    · obtain ⟨old, oldFound, ⟨-, oldCreated, rfl⟩ | ⟨-, rfl⟩⟩ := backward id new found same
      · by_cases last : old.dependentTasks.erase taskId = ∅ <;>
          simp [TaskInfo.release, last, oldCreated, Unfinished]
      · exact invariant.settled id new oldFound
  · intro id new found state
    have different := other id new found (state.imp_right Or.inl)
    obtain ⟨old, oldFound, ⟨-, oldCreated, rfl⟩ | ⟨-, rfl⟩⟩ := backward id new found different
    · exact invariant.owned id old oldFound (Or.inl oldCreated)
    · exact invariant.owned id new oldFound state
  · intro id new following found alive follower
    have different := other id new found alive
    have before : ∃ old, find id = some old ∧ Unfinished old.taskState ∧
        following ∈ old.followingTasks := by
      obtain ⟨old, oldFound, ⟨-, oldCreated, rfl⟩ | ⟨-, rfl⟩⟩ := backward id new found different
      · exact ⟨old, oldFound, Or.inl oldCreated, follower⟩
      · exact ⟨new, oldFound, alive, follower⟩
    obtain ⟨old, oldFound, oldAlive, oldFollower⟩ := before
    obtain ⟨target, targetFound, link⟩ :=
      invariant.linked id old following oldFound oldAlive oldFollower
    have apart : following ≠ taskId := by
      rintro rfl
      rw [present] at targetFound
      cases targetFound
      simp [processing] at link
    rw [changed, if_neg apart, targetFound]
    by_cases member : following ∈ info.followingTasks
    · rw [if_pos member]
      refine ⟨_, rfl, Or.inl ?_⟩
      obtain ⟨created, depends⟩ := link.resolve_right (clean following member target targetFound)
      have listed : id ∈ target.dependentTasks.erase taskId :=
        Finset.mem_erase.mpr ⟨different, depends⟩
      have more : target.dependentTasks.erase taskId ≠ ∅ := Finset.ne_empty_of_mem listed
      simp only [TaskInfo.release, more, if_false]
      exact ⟨created, listed⟩
    · rw [if_neg member]
      exact ⟨target, rfl, link⟩
  · rw [isMember, changed]
    by_cases same : id = taskId
    · simp [same, present]
    · by_cases member : id ∈ info.followingTasks <;> simp [same, member]

/-- The running task has failed, and so has everything that waits for it. -/
theorem finishFailed {taskId : TaskId} {task : Body} {callback : Option Callback}
    {info : TaskInfo Body Callback} {waiting : Finset TaskId}
    (invariant : ProgressInvariant completed find pool (.running taskId task callback))
    (present : find taskId = some info) (processing : info.taskState = .processing)
    (created : ∀ id ∈ waiting, ∃ other, find id = some other ∧ other.taskState = .created)
    (direct : ∀ id, WaitsFor find taskId id → id ∈ waiting)
    (closed : ∀ id ∈ waiting, ∀ next, WaitsFor find id next → next ∈ waiting)
    (changed : ∀ id, next id = if id = taskId then some { info with taskState := .failed }
      else if id ∈ waiting then (find id).map .abandon else find id) :
    ProgressInvariant completed next pool (.returned : Worker Body Callback) := by
  have finished : next taskId = some { info with taskState := .failed } := by
    rw [changed, if_pos rfl]
  have other : ∀ id new, next id = some new → Unfinished new.taskState → id ≠ taskId := by
    rintro id new found alive rfl
    rw [finished] at found
    cases found
    simp [Unfinished] at alive
  have backward : ∀ id new, next id = some new → id ≠ taskId → ∃ old, find id = some old ∧
      ((id ∈ waiting ∧ new = old.abandon) ∨ (id ∉ waiting ∧ new = old)) := by
    intro id new found different
    rw [changed, if_neg different] at found
    by_cases member : id ∈ waiting
    · obtain ⟨old, oldFound, -⟩ := created id member
      rw [if_pos member, oldFound] at found
      cases found
      exact ⟨old, oldFound, Or.inl ⟨member, rfl⟩⟩
    · rw [if_neg member] at found
      exact ⟨new, found, Or.inr ⟨member, rfl⟩⟩
  have follows : ∀ {id following}, Follows next id following ↔ Follows find id following := by
    intro id following
    unfold Follows
    rw [changed]
    by_cases same : id = taskId
    · subst same
      simp [present]
    · rw [if_neg same]
      by_cases member : id ∈ waiting
      · rw [if_pos member]
        simp only [Option.map_eq_some_iff]
        constructor
        · rintro ⟨_, ⟨old, found, rfl⟩, follower⟩
          exact ⟨old, found, follower⟩
        · rintro ⟨old, found, follower⟩
          exact ⟨_, ⟨old, found, rfl⟩, follower⟩
      · rw [if_neg member]
  -- Neither the failed task nor a task it takes down is still depended upon.
  have spared : ∀ id old dep, find id = some old → old.taskState = .created → id ∉ waiting →
      Follows find dep id → dep ≠ taskId ∧ dep ∉ waiting := by
    intro id old dep found oldCreated notMember parent
    have waits : WaitsFor find dep id := ⟨parent, old, found, oldCreated⟩
    refine ⟨?_, fun member => notMember (closed dep member id waits)⟩
    rintro rfl
    exact notMember (direct id waits)
  obtain ⟨members, isMember, ⟨ranking⟩⟩ := invariant.ranked
  refine
    { waiting := ?_, queued := ?_, processing := ?_, settled := ?_, owned := ?_, linked := ?_
      ranked := ⟨members, fun id => ?_, ⟨ranking.mono fun _ _ => follows.mp⟩⟩
      callable := nofun, running := invariant.running, limit := invariant.limit
      staffed := fun _ => invariant.staffed ⟨taskId, info, present⟩
      active := fun idle => by cases invariant.active idle }
  · intro id new found newCreated
    have different := other id new found (Or.inl newCreated)
    obtain ⟨old, oldFound, ⟨-, rfl⟩ | ⟨notMember, rfl⟩⟩ := backward id new found different
    · cases newCreated
    · obtain ⟨nonempty, listed⟩ := invariant.waiting id new oldFound newCreated
      refine ⟨nonempty, fun dep depMember => ?_⟩
      obtain ⟨parent, dependency, depFound, alive⟩ := listed dep depMember
      obtain ⟨depOther, depSpared⟩ := spared id new dep oldFound newCreated notMember parent
      exact ⟨follows.mpr parent, dependency,
        by rw [changed, if_neg depOther, if_neg depSpared, depFound], alive⟩
  · intro id new found queued
    have different := other id new found (Or.inr (Or.inl queued))
    obtain ⟨old, oldFound, ⟨-, rfl⟩ | ⟨-, rfl⟩⟩ := backward id new found different
    · cases queued
    · simpa [Worker.scheduledTasks] using invariant.queued id new oldFound queued
  · intro id new found newProcessing
    have different := other id new found (Or.inr (Or.inr newProcessing))
    obtain ⟨old, oldFound, ⟨-, rfl⟩ | ⟨-, rfl⟩⟩ := backward id new found different
    · cases newProcessing
    · obtain ⟨_, _, running⟩ := invariant.processing id new oldFound newProcessing
      cases running
      exact absurd rfl different
  · intro id new found
    by_cases same : id = taskId
    · subst same
      rw [finished] at found
      cases found
      exact Or.inr (Or.inr (Or.inl rfl))
    · obtain ⟨old, oldFound, ⟨-, rfl⟩ | ⟨-, rfl⟩⟩ := backward id new found same
      · exact Or.inr (Or.inr (Or.inr rfl))
      · exact invariant.settled id new oldFound
  · intro id new found state
    have different := other id new found (state.imp_right Or.inl)
    obtain ⟨old, oldFound, ⟨-, rfl⟩ | ⟨-, rfl⟩⟩ := backward id new found different
    · simp [TaskInfo.abandon] at state
    · exact invariant.owned id new oldFound state
  · intro id new following found alive follower
    have different := other id new found alive
    obtain ⟨old, oldFound, ⟨-, rfl⟩ | ⟨-, rfl⟩⟩ := backward id new found different
    · simp [TaskInfo.abandon, Unfinished] at alive
    · obtain ⟨target, targetFound, link⟩ :=
        invariant.linked id new following oldFound alive follower
      have apart : following ≠ taskId := by
        rintro rfl
        rw [present] at targetFound
        cases targetFound
        simp [processing] at link
      rw [changed, if_neg apart, targetFound]
      by_cases member : following ∈ waiting
      · rw [if_pos member]
        exact ⟨_, rfl, Or.inr rfl⟩
      · rw [if_neg member]
        exact ⟨target, rfl, link⟩
  · rw [isMember, changed]
    by_cases same : id = taskId
    · simp [same, present]
    · by_cases member : id ∈ waiting <;> simp [same, member]

end ProgressInvariant

end LiteRTLM.Framework.ExecutionManager
