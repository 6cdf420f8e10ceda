import Mathlib.Data.List.TakeWhile
import LiteRTLM.Framework.ExecutionManager.Notifications
import LiteRTLM.Framework.ExecutionManager.SameTable

/-!
Contract: what a `CreateTask` that is refused leaves behind in the task table.

The dependencies are checked and linked in one pass, so a missing one is found
after those that the iteration visits before it have been linked to a task that
will not exist.

Owns: the table after a refused call, the exact condition under which it is the
table before the call, and that the steps that follow then cannot tell.

Does not own: refusals for the lack of a worker thread.
-/

namespace LiteRTLM.Framework.ExecutionManager

open LiteRTLM.Engine LiteRTLM.Library

variable {Body Callback World Score : Type}

namespace Manager

variable {manager next : Manager Body Callback World}

/-! ## The refused pass over the dependencies -/

/-- The pass over a list is the pass over its front, then over the rest. -/
theorem checkDependencies_append (taskId : TaskId) (front rest : List TaskId)
    (taskState : TaskState) (manager : Manager Body Callback World) :
    manager.checkDependencies taskId (front ++ rest) taskState =
      match manager.checkDependencies taskId front taskState with
      | (.error status, between) => (.error status, between)
      | (.ok reached, between) => between.checkDependencies taskId rest reached := by
  induction front generalizing taskState manager with
  | nil => rfl
  | cons depTaskId front inductionHypothesis =>
      simp only [List.cons_append, checkDependencies]
      cases manager.find depTaskId with
      | none => rfl
      | some dependency =>
          simp only
          split_ifs
          · exact inductionHypothesis _ _
          · exact inductionHypothesis _ _
          · exact inductionHypothesis _ _

/-- The pass succeeds over tasks that exist. -/
theorem checkDependencies_of_exist {taskId : TaskId} {dependencies : List TaskId}
    (taskState : TaskState) (exist : ∀ dep ∈ dependencies, (manager.find dep).isSome) :
    ∃ reached between,
      manager.checkDependencies taskId dependencies taskState = (.ok reached, between) := by
  rcases checked : manager.checkDependencies taskId dependencies taskState with
    ⟨status | reached, between⟩
  · obtain ⟨⟨missing, member, absent⟩, -⟩ := checkDependencies_error checked
    have present := exist missing member
    rw [absent] at present
    cases present
  · exact ⟨reached, between, rfl⟩

/-- The dependencies that the pass visits before a missing one. -/
def visitedDependencies (find : TaskId → Option (TaskInfo Body Callback))
    (dependencies : List TaskId) : List TaskId :=
  dependencies.takeWhile fun dep => (find dep).isSome

theorem isSome_of_visited {find : TaskId → Option (TaskInfo Body Callback)}
    {dependencies : List TaskId} {dep : TaskId}
    (visited : dep ∈ visitedDependencies find dependencies) : (find dep).isSome :=
  List.mem_takeWhile_imp (p := fun dep => (find dep).isSome) visited

/-- A pass with a missing dependency is refused there, and has linked the ones
before it. -/
theorem checkDependencies_refused (taskId : TaskId) {dependencies : List TaskId}
    (taskState : TaskState) (missing : ∃ dep ∈ dependencies, manager.find dep = none) :
    ∃ status next,
      manager.checkDependencies taskId dependencies taskState = (.error status, next) ∧
      ∀ id, next.find id = if id ∈ visitedDependencies manager.find dependencies then
        (manager.find id).map (.register taskId) else manager.find id := by
  have split := List.takeWhile_append_dropWhile
    (p := fun dep => (manager.find dep).isSome) (l := dependencies)
  cases behind : dependencies.dropWhile fun dep => (manager.find dep).isSome with
  | nil =>
      obtain ⟨dep, member, absent⟩ := missing
      rw [behind, List.append_nil] at split
      rw [← split] at member
      have present := List.mem_takeWhile_imp member
      simp [absent] at present
  | cons refused rest =>
      have absent : manager.find refused = none := by
        have fails := List.head?_dropWhile_not (fun dep => (manager.find dep).isSome) dependencies
        simpa [behind] using fails
      have exist : ∀ dep ∈ visitedDependencies manager.find dependencies,
          (manager.find dep).isSome :=
        fun _ member => isSome_of_visited member
      obtain ⟨reached, between, checked⟩ := checkDependencies_of_exist taskState exist
      obtain ⟨-, finds, -⟩ := checkDependencies_ok checked
      have stillAbsent : between.find refused = none := by
        rw [finds refused, absent]
        simp
      rw [behind] at split
      change visitedDependencies manager.find dependencies ++ refused :: rest = dependencies
        at split
      refine ⟨.invalidArgumentError s!"Dependency task {refused} not found in task list.", between,
        ?_, finds⟩
      conv_lhs => rw [← split]
      rw [checkDependencies_append, checked]
      simp only [checkDependencies, stillAbsent]

/-! ## The refused call -/

variable (invoke : Callback → StatusOr (Responses Score) → World → World)

/-- The reasons for which `CreateTask` refuses a task before it inserts it. -/
def RefusesTask (manager : Manager Body Callback World) (taskId : TaskId)
    (dependentTasks : Finset TaskId) : Prop :=
  (manager.find taskId).isSome ∨ ∃ dep ∈ dependentTasks, manager.find dep = none

/-- Every dependency visited before the missing one gets no new follower. -/
def LinksNothing (manager : Manager Body Callback World) (order : HashOrder) (taskId : TaskId)
    (dependentTasks : Finset TaskId) : Prop :=
  ∀ dep ∈ visitedDependencies manager.find (order.order taskId dependentTasks),
    ∀ info, manager.find dep = some info →
      Registers info.taskState → taskId ∈ info.followingTasks

/-- Registering a task changes an entry unless the task is already there. -/
theorem register_eq_iff {taskId : TaskId} {info : TaskInfo Body Callback} :
    info.register taskId = info ↔ (Registers info.taskState → taskId ∈ info.followingTasks) := by
  by_cases registers : Registers info.taskState
  · rw [TaskInfo.register, if_pos registers]
    constructor
    · intro same _
      rw [← congrArg TaskInfo.followingTasks same]
      exact Finset.mem_insert_self _ _
    · intro follows
      rw [Finset.insert_eq_of_mem (follows registers)]
  · rw [TaskInfo.register, if_neg registers]
    exact iff_of_true rfl fun yes => absurd yes registers

/-- What a refused call leaves behind. -/
theorem createTask_refused (order : HashOrder) (workerThread : StatusOr Unit) {taskId : TaskId}
    (task : Body) {dependentTasks : Finset TaskId} (callback : Callback)
    (refused : manager.RefusesTask taskId dependentTasks) :
    ∃ status next,
      manager.createTask invoke order workerThread taskId task dependentTasks callback =
        (.error status, next) ∧
      next.executionThreadPool = manager.executionThreadPool ∧
      next.nextTaskId = manager.nextTaskId ∧ next.world = manager.world ∧
      ∀ id, next.find id =
        if (manager.find taskId).isNone ∧
            id ∈ visitedDependencies manager.find (order.order taskId dependentTasks) then
          (manager.find id).map (.register taskId)
        else manager.find id := by
  by_cases present : (manager.find taskId).isSome
  · refine ⟨.invalidArgumentError s!"Task {taskId} already exists in task list.", manager, ?_,
      rfl, rfl, rfl, fun id => ?_⟩
    · rw [createTask, if_pos present]
    · rw [if_neg]
      simp [Option.isSome_iff_ne_none.mp present]
  · have fresh : manager.find taskId = none := by simpa using present
    obtain ⟨dep, member, absent⟩ := refused.resolve_left present
    obtain ⟨status, next, checked, finds⟩ := checkDependencies_refused taskId .created
      ⟨dep, (order.mem_order taskId dependentTasks dep).mpr member, absent⟩
    have samePool := pool_checkDependencies taskId (order.order taskId dependentTasks) .created
      manager
    have sameCounter := nextTaskId_checkDependencies manager taskId
      (order.order taskId dependentTasks) .created
    have sameWorld := world_checkDependencies taskId (order.order taskId dependentTasks) .created
      manager
    rw [checked] at samePool sameCounter sameWorld
    refine ⟨status, next, ?_, samePool, sameCounter, sameWorld, fun id => ?_⟩
    · rw [createTask, if_neg present, checked]
    · rw [finds id, fresh]
      simp

end Manager

namespace System

variable (invoke : Callback → StatusOr (Responses Score) → World → World)

/-- From the two managers every run of the callers and the worker is the same. -/
def IndistinguishableFrom (next manager : Manager Body Callback World) : Prop :=
  ∀ (worker : Worker Body Callback) (history : List Event)
    (actions : List (Action Body Callback Score)),
    Option.Rel Same ((machine invoke).execute ⟨next, worker, history⟩ actions)
      ((machine invoke).execute ⟨manager, worker, history⟩ actions)

/-- A refused `CreateTask` leaves every entry of the table as it was, and no trace
for the steps that follow, if and only if the id exists or no dependency visited
before the missing one gets a new follower. -/
theorem createTask_atomic_iff {manager : Manager Body Callback World} {order : HashOrder}
    (workerThread : StatusOr Unit) {taskId : TaskId} (task : Body)
    {dependentTasks : Finset TaskId} (callback : Callback)
    (refused : manager.RefusesTask taskId dependentTasks) :
    ∃ status next,
      manager.createTask invoke order workerThread taskId task dependentTasks callback =
        (.error status, next) ∧
      (((∀ id, next.find id = manager.find id) ∧ IndistinguishableFrom invoke next manager) ↔
        ((manager.find taskId).isSome ∨ manager.LinksNothing order taskId dependentTasks)) := by
  obtain ⟨status, next, created, samePool, sameCounter, sameWorld, finds⟩ :=
    Manager.createTask_refused invoke order workerThread task callback refused
  refine ⟨status, next, created, ?_, ?_⟩
  · rintro ⟨unchanged, -⟩
    by_cases present : (manager.find taskId).isSome
    · exact Or.inl present
    · refine Or.inr fun dep visited info found => ?_
      have entry := finds dep
      rw [if_pos ⟨by simpa using present, visited⟩, unchanged dep, found, Option.map_some,
        Option.some.injEq] at entry
      exact Manager.register_eq_iff.mp entry.symm
  · intro linksNothing
    have unchanged : ∀ id, next.find id = manager.find id := by
      intro id
      rw [finds id]
      split_ifs with linked
      · obtain ⟨fresh, visited⟩ := linked
        have links := linksNothing.resolve_left (by simpa using fresh)
        cases found : manager.find id with
        | none => rfl
        | some info =>
            rw [Option.map_some, Manager.register_eq_iff.mpr (links id visited info found)]
      · rfl
    refine ⟨unchanged, fun worker history actions => ?_⟩
    have sameTable : next.SameTable manager :=
      ⟨funext unchanged, samePool, sameCounter, sameWorld⟩
    have same : Same ⟨next, worker, history⟩ ⟨manager, worker, history⟩ := ⟨sameTable, rfl, rfl⟩
    exact execute_same invoke same actions

/-! ### A refused call without a trace, and one with -/

def oneTask : Manager Unit Unit Unit :=
  ((Manager.create ()).createTask (fun _ (_ : StatusOr (Responses Int)) world => world)
    .ascending (.ok ()) 5 () ∅ ()).2

/-- The missing dependency is visited first: no trace. -/
theorem createTask_atomic_iff_missingFirst :
    ∃ status next,
      oneTask.createTask (fun _ (_ : StatusOr (Responses Int)) world => world) .ascending
        (.ok ()) 6 () {3, 5} () = (.error status, next) ∧
      (((∀ id, next.find id = oneTask.find id) ∧
          IndistinguishableFrom (fun _ (_ : StatusOr (Responses Int)) world => world) next
            oneTask) ↔
        ((oneTask.find 6).isSome ∨ oneTask.LinksNothing .ascending 6 {3, 5})) :=
  createTask_atomic_iff (fun _ (_ : StatusOr (Responses Int)) world => world) (.ok ()) () ()
    (Or.inr ⟨3, by decide, by decide⟩)

/-- The missing dependency is visited last: the refused task stays a follower of
the other one, which then runs and never ends. -/
theorem createTask_not_atomic_missingLast :
    ∃ status next,
      oneTask.createTask (fun _ (_ : StatusOr (Responses Int)) world => world) .ascending
        (.ok ()) 6 () {5, 7} () = (.error status, next) ∧
      (oneTask.find 5).map TaskInfo.followingTasks = some ∅ ∧
      (next.find 5).map TaskInfo.followingTasks = some {6} ∧
      (silentMachine.execute ⟨oneTask, .waiting, []⟩ workerRound).map
        (fun system => system.taskState 5) = some (some .done) ∧
      (silentMachine.execute ⟨next, .waiting, []⟩ workerRound).map
        (fun system => system.taskState 5) = some (some .processing) := by
  refine ⟨.invalidArgumentError "Dependency task 7 not found in task list.",
    (oneTask.createTask (fun _ (_ : StatusOr (Responses Int)) world => world) .ascending
      (.ok ()) 6 () {5, 7} ()).2, rfl, ?_, ?_, ?_, ?_⟩
  · decide
  · decide
  · decide
  · decide

end System

end LiteRTLM.Framework.ExecutionManager
