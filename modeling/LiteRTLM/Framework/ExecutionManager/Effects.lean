import LiteRTLM.Framework.ExecutionManager.System

/-!
Contract: what the operations of `ExecutionManager` can do to the task lookup
and to the pool, whatever the callbacks do to the outside world.

Owns: one inversion lemma for each of `QueueTask`, `StartTask` and the
dependency loop of `CreateTask`, and the frame lemmas of the two loops of
`FinishTask`. Later modules use these and do not unfold the operations.
-/

namespace LiteRTLM.Framework.ExecutionManager

open LiteRTLM.Engine

namespace Manager

variable {Body Callback World Score : Type}
variable (invoke : Callback → StatusOr (Responses Score) → World → World)

/-! ## `QueueTask` -/

/-- A rejected `QueueTask` leaves every task and the pool as they were. -/
theorem queueTask_error {workerThread : StatusOr Unit} {taskId : TaskId} {status : Status}
    {manager next : Manager Body Callback World}
    (rejected : manager.queueTask invoke workerThread taskId = (.error status, next)) :
    next.find = manager.find ∧ next.executionThreadPool = manager.executionThreadPool := by
  unfold queueTask at rejected
  rcases checked : manager.confirmTaskState invoke taskId .created true with ⟨_ | _, checkedManager⟩
  · simp only [checked] at rejected
    cases rejected
    exact confirmTaskState_frame invoke checked
  · obtain ⟨rfl, info, present, -, -⟩ := confirmTaskState_ok invoke checked
    simp only [checked, present] at rejected
    split at rejected
    · cases rejected
      exact ⟨rfl, rfl⟩
    · split at rejected
      · cases rejected
        exact ⟨rfl, rfl⟩
      · cases rejected

/-- A successful `QueueTask` moves a created task without dependencies to the
pool's queue. -/
theorem queueTask_ok {workerThread : StatusOr Unit} {taskId : TaskId}
    {manager next : Manager Body Callback World}
    (queued : manager.queueTask invoke workerThread taskId = (.ok (), next)) :
    ∃ info, manager.find taskId = some info ∧ info.taskState = .created ∧
      info.dependentTasks = ∅ ∧
      manager.executionThreadPool.schedule workerThread taskId =
        .ok next.executionThreadPool ∧
      next.find = Function.update manager.find taskId
        (some { info with taskState := .queued }) := by
  unfold queueTask at queued
  rcases checked : manager.confirmTaskState invoke taskId .created true with ⟨_ | _, checkedManager⟩
  · simp only [checked] at queued
    cases queued
  · obtain ⟨rfl, info, present, created, -⟩ := confirmTaskState_ok invoke checked
    simp only [checked, present] at queued
    split at queued
    · cases queued
    next independent =>
      split at queued
      · cases queued
      next pool scheduled =>
        cases queued
        refine ⟨info, present, created, not_not.mp independent, ?_, ?_⟩
        · simpa using scheduled
        · simp [present]

/-! ## `StartTask` -/

/-- A rejected `StartTask` leaves every task and the pool as they were. -/
theorem startTask_error {taskId : TaskId} {status : Status}
    {manager next : Manager Body Callback World}
    (rejected : manager.startTask invoke taskId = (.error status, next)) :
    next.find = manager.find ∧ next.executionThreadPool = manager.executionThreadPool := by
  unfold startTask at rejected
  rcases checked : manager.confirmTaskState invoke taskId .queued true with ⟨_ | _, checkedManager⟩
  · simp only [checked] at rejected
    cases rejected
    exact confirmTaskState_frame invoke checked
  · obtain ⟨rfl, info, present, -, -⟩ := confirmTaskState_ok invoke checked
    simp only [checked, present, Option.bind_some] at rejected
    split at rejected
    · cases rejected
      simp
    · cases rejected

/-- A successful `StartTask` turns a queued task into the one being processed
and moves its task function and callback to the caller. -/
theorem startTask_ok {taskId : TaskId} {task : Body} {callback : Option Callback}
    {manager next : Manager Body Callback World}
    (started : manager.startTask invoke taskId = (.ok (task, callback), next)) :
    ∃ info, manager.find taskId = some info ∧ info.taskState = .queued ∧
      info.task = some task ∧ info.callback = callback ∧ callback ≠ none ∧
      next.executionThreadPool = manager.executionThreadPool ∧
      next.find = Function.update manager.find taskId
        (some { info with taskState := .processing, task := none, callback := none }) := by
  unfold startTask at started
  rcases checked : manager.confirmTaskState invoke taskId .queued true with ⟨_ | _, checkedManager⟩
  · simp only [checked] at started
    cases started
  · obtain ⟨rfl, info, present, queued, callable⟩ := confirmTaskState_ok invoke checked
    simp only [checked, present, Option.bind_some] at started
    split at started
    · cases started
    next task owned =>
      cases started
      refine ⟨info, present, queued, owned, rfl, callable rfl, by simp, ?_⟩
      simp [present, Function.update_idem]

/-- `StartTask` succeeds on a queued task that still owns both. -/
theorem startTask_of_find {taskId : TaskId} {manager : Manager Body Callback World}
    {info : TaskInfo Body Callback} {task : Body}
    (present : manager.find taskId = some info) (queued : info.taskState = .queued)
    (owned : info.task = some task) (callable : info.callback ≠ none) :
    ∃ next, manager.startTask invoke taskId = (.ok (task, info.callback), next) := by
  unfold startTask
  rw [confirmTaskState_of_find invoke present queued fun _ => callable]
  simp [present, owned]

/-! ## The dependency loop of `CreateTask` -/

/-- Registering with a dependency changes only its followers. -/
theorem find_addFollowing (taskId depTaskId : TaskId) (manager : Manager Body Callback World) :
    (manager.addFollowing taskId depTaskId).find =
      Function.update manager.find depTaskId ((manager.find depTaskId).map fun info =>
        { info with followingTasks := insert taskId info.followingTasks }) :=
  manager.find_modify depTaskId _

@[simp] theorem pool_addFollowing (taskId depTaskId : TaskId)
    (manager : Manager Body Callback World) :
    (manager.addFollowing taskId depTaskId).executionThreadPool =
      manager.executionThreadPool :=
  manager.pool_modify depTaskId _

/-- The loop leaves the pool alone, finished or not. -/
theorem pool_checkDependencies (taskId : TaskId) (dependencies : List TaskId)
    (taskState : TaskState) (manager : Manager Body Callback World) :
    (manager.checkDependencies taskId dependencies taskState).2.executionThreadPool =
      manager.executionThreadPool := by
  induction dependencies generalizing taskState manager with
  | nil => rfl
  | cons depTaskId rest inductionHypothesis =>
      unfold checkDependencies
      cases manager.find depTaskId with
      | none => rfl
      | some dependency =>
          simp only
          split_ifs
          · exact inductionHypothesis _ _
          · rw [inductionHypothesis, pool_addFollowing]
          · exact inductionHypothesis _ _

/-- The loop changes nothing about a task but its followers. -/
theorem checkDependencies_find (taskId : TaskId) (dependencies : List TaskId)
    (taskState : TaskState) (manager : Manager Body Callback World) (other : TaskId) :
    ((manager.checkDependencies taskId dependencies taskState).2.find other).map
        (fun info => { info with followingTasks := ∅ }) =
      (manager.find other).map (fun info => { info with followingTasks := ∅ }) := by
  induction dependencies generalizing taskState manager with
  | nil => rfl
  | cons depTaskId rest inductionHypothesis =>
      unfold checkDependencies
      cases manager.find depTaskId with
      | none => rfl
      | some dependency =>
          simp only
          split_ifs
          · exact inductionHypothesis _ _
          · rw [inductionHypothesis, find_addFollowing]
            by_cases same : other = depTaskId
            · subst same
              cases manager.find other <;> simp
            · rw [Function.update_of_ne same]
          · exact inductionHypothesis _ _

/-- The state the loop hands to the new task is one of two. -/
theorem checkDependencies_state {taskId : TaskId} {dependencies : List TaskId}
    {taskState result : TaskState} {manager next : Manager Body Callback World}
    (checked : manager.checkDependencies taskId dependencies taskState = (.ok result, next)) :
    result = taskState ∨ result = .dependentTaskFailed := by
  induction dependencies generalizing taskState manager with
  | nil =>
      cases checked
      exact Or.inl rfl
  | cons depTaskId rest inductionHypothesis =>
      unfold checkDependencies at checked
      cases present : manager.find depTaskId with
      | none => simp [present] at checked
      | some dependency =>
          simp only [present] at checked
          split_ifs at checked
          · exact Or.inr ((inductionHypothesis checked).elim id id)
          · exact inductionHypothesis checked
          · exact inductionHypothesis checked

/-! ## `CreateTask` -/

/-- The entry `CreateTask` inserts. -/
def newTask (task : Body) (taskState : TaskState) (dependentTasks : Finset TaskId)
    (callback : Callback) : TaskInfo Body Callback :=
  { task := some task, taskState, dependentTasks, callback := some callback }

/-- A successful `CreateTask` either inserts a task that waits or cannot run, or
inserts an independent task and queues it at once. -/
theorem createTask_ok {order : HashOrder} {workerThread : StatusOr Unit} {taskId : TaskId}
    {task : Body} {dependentTasks : Finset TaskId} {callback : Callback}
    {manager next : Manager Body Callback World}
    (created : manager.createTask invoke order workerThread taskId task dependentTasks callback =
      (.ok (), next)) :
    manager.find taskId = none ∧
      ((dependentTasks ≠ ∅ ∧ ∃ taskState registered,
          manager.checkDependencies taskId (order.order taskId dependentTasks) .created =
            (.ok taskState, registered) ∧
          next.executionThreadPool = manager.executionThreadPool ∧
          next.find = Function.update registered.find taskId
            (some (newTask task taskState dependentTasks callback))) ∨
        (dependentTasks = ∅ ∧
          manager.executionThreadPool.schedule workerThread taskId =
            .ok next.executionThreadPool ∧
          next.find = Function.update manager.find taskId
            (some (newTask task .queued ∅ callback)))) := by
  unfold createTask at created
  split at created
  · cases created
  next absent =>
    refine ⟨by simpa using absent, ?_⟩
    rcases checked : manager.checkDependencies taskId (order.order taskId dependentTasks)
      .created with ⟨status | taskState, registered⟩
    · simp [checked] at created
    · have samePool : registered.executionThreadPool = manager.executionThreadPool := by
        have framed := pool_checkDependencies taskId (order.order taskId dependentTasks)
          .created manager
        rwa [checked] at framed
      simp only [checked] at created
      split at created
      next independent =>
        have unordered : order.order taskId dependentTasks = [] :=
          List.eq_nil_iff_forall_not_mem.mpr fun id member => by
            simp [order.mem_order, independent] at member
        rw [unordered] at checked
        cases checked
        obtain ⟨info, present, -, -, scheduled, found⟩ := queueTask_ok invoke created
        simp only [find_signal, find_put, Function.update_self, Option.some.injEq] at present
        subst present
        refine Or.inr ⟨independent, by simpa using scheduled, ?_⟩
        rw [found, find_signal, find_put, Function.update_idem, independent]
        rfl
      next dependent =>
        cases created
        refine Or.inl ⟨dependent, taskState, registered, rfl, by simpa using samePool, ?_⟩
        simp [newTask]

/-- A rejected `CreateTask` either inserts nothing, though it may have registered
the task with some dependencies, or leaves an independent task that was never
queued. -/
theorem createTask_error {order : HashOrder} {workerThread : StatusOr Unit} {taskId : TaskId}
    {task : Body} {dependentTasks : Finset TaskId} {callback : Callback} {status : Status}
    {manager next : Manager Body Callback World}
    (rejected : manager.createTask invoke order workerThread taskId task dependentTasks callback =
      (.error status, next)) :
    next.executionThreadPool = manager.executionThreadPool ∧
      (((manager.find taskId).isSome ∧ next = manager) ∨
        (manager.find taskId = none ∧
          manager.checkDependencies taskId (order.order taskId dependentTasks) .created =
            (.error status, next)) ∨
        (manager.find taskId = none ∧ dependentTasks = ∅ ∧
          manager.executionThreadPool.schedule workerThread taskId = .error status ∧
          next.find = Function.update manager.find taskId
            (some (newTask task .created ∅ callback)))) := by
  unfold createTask at rejected
  split at rejected
  next present =>
    cases rejected
    exact ⟨rfl, Or.inl ⟨present, rfl⟩⟩
  next absent =>
    have fresh : manager.find taskId = none := by simpa using absent
    have framed := pool_checkDependencies taskId (order.order taskId dependentTasks)
      .created manager
    rcases checked : manager.checkDependencies taskId (order.order taskId dependentTasks)
      .created with ⟨failure | taskState, registered⟩
    · simp only [checked] at rejected framed
      cases rejected
      exact ⟨framed, Or.inr (Or.inl ⟨fresh, rfl⟩)⟩
    · simp only [checked] at rejected
      split at rejected
      next independent =>
        have unordered : order.order taskId dependentTasks = [] :=
          List.eq_nil_iff_forall_not_mem.mpr fun id member => by
            simp [order.mem_order, independent] at member
        rw [unordered] at checked
        cases checked
        obtain ⟨sameFind, samePool⟩ := queueTask_error invoke rejected
        refine ⟨by simpa using samePool, Or.inr (Or.inr ⟨fresh, independent, ?_, ?_⟩)⟩
        · subst independent
          have present : ((manager.put taskId (newTask task .created ∅ callback)).signal invoke
              taskId (.ok (.ofState .created))).find taskId =
                some (newTask task .created ∅ callback) := by
            simp
          have confirmed := confirmTaskState_of_find invoke present rfl
            fun (_ : true = true) => by simp [newTask]
          simp only [newTask] at confirmed
          unfold queueTask at rejected
          rw [confirmed] at rejected
          simp only [find_signal, find_put, Function.update_self] at rejected
          split at rejected
          next impossible => simp at impossible
          next =>
            split at rejected
            next scheduled =>
              cases rejected
              simpa using scheduled
            next => cases rejected
        · rw [sameFind, find_signal, find_put, independent]
          rfl
      next => cases rejected

/-! ## The failure loop of `FinishTask` -/

/-- A property of the accumulator that every successful step keeps holds of what
the loop returns. -/
theorem foldlM_invariant {α β : Type} {visit : β → α → StatusOr β} (Invariant : β → Prop)
    {items : List α} {start result : β} (initially : Invariant start)
    (preserved : ∀ state item next, item ∈ items → Invariant state →
      visit state item = .ok next → Invariant next)
    (folded : items.foldlM visit start = .ok result) : Invariant result := by
  induction items generalizing start with
  | nil =>
      cases folded
      exact initially
  | cons item rest inductionHypothesis =>
      rw [List.foldlM_cons] at folded
      cases visited : visit start item with
      | error status => simp [visited, bind, Except.bind] at folded
      | ok next =>
          simp only [visited, bind, Except.bind] at folded
          exact inductionHypothesis
            (preserved start item next (List.mem_cons_self ..) initially visited)
            (fun state other after member =>
              preserved state other after (List.mem_cons_of_mem _ member)) folded

/-- Every task the failure takes down is still waiting. -/
theorem followingWaitingTasks_created {order : HashOrder}
    {find : TaskId → Option (TaskInfo Body Callback)} {depth : Nat} {taskId : TaskId}
    {waiting : Finset TaskId}
    (collected : followingWaitingTasks order find depth taskId = .ok waiting) :
    ∀ id ∈ waiting, ∃ info, find id = some info ∧ info.taskState = .created := by
  induction depth generalizing taskId waiting with
  | zero => cases collected
  | succ depth inductionHypothesis =>
      unfold followingWaitingTasks at collected
      cases present : find taskId with
      | none =>
          simp only [present] at collected
          cases collected
          simp
      | some info =>
          simp only [present] at collected
          refine foldlM_invariant
            (fun waiting => ∀ id ∈ waiting, ∃ info, find id = some info ∧
              info.taskState = .created) (by simp) ?_ collected
          intro state item next _ allCreated visited
          unfold visitFollowing at visited
          cases found : find item with
          | none => simp [found] at visited
          | some following =>
              simp only [found] at visited
              split at visited
              · cases visited
              · split at visited
                next created =>
                  cases deeper : followingWaitingTasks order find depth item with
                  | error status => simp [deeper] at visited
                  | ok below =>
                      simp only [deeper] at visited
                      cases visited
                      intro id member
                      simp only [Finset.mem_union, Finset.mem_insert] at member
                      rcases member with (rfl | member) | member
                      · exact ⟨following, found, created⟩
                      · exact allCreated id member
                      · exact inductionHypothesis deeper id member
                next =>
                  cases visited
                  exact allCreated

/-- Failing a dependent task changes only that task. -/
theorem find_failDependentTask (manager : Manager Body Callback World)
    (followingTaskId : TaskId) :
    (manager.failDependentTask invoke followingTaskId).find =
      Function.update manager.find followingTaskId
        ((manager.find followingTaskId).map fun info =>
          { info with dependentTasks := ∅, taskState := .dependentTaskFailed }) := by
  unfold failDependentTask
  simp only [find_setTaskState, find_signal, find_modify, Function.update_idem,
    Function.update_self, Option.map_map]
  rfl

@[simp] theorem pool_failDependentTask (manager : Manager Body Callback World)
    (followingTaskId : TaskId) :
    (manager.failDependentTask invoke followingTaskId).executionThreadPool =
      manager.executionThreadPool := by
  simp [failDependentTask]

/-! ## The outside world -/

/-- Invoking the callback keeps `Holds` of the world. -/
def Quiet (Holds : World → Prop) (callback : Callback) : Prop :=
  ∀ responses world, Holds world → Holds (invoke callback responses world)

/-- So does invoking the callback a task owns, if any. -/
def QuietAt (Holds : World → Prop) (find : TaskId → Option (TaskInfo Body Callback))
    (taskId : TaskId) : Prop :=
  ∀ info callback, find taskId = some info → info.callback = some callback →
    Quiet invoke Holds callback

variable {Holds : World → Prop} {manager : Manager Body Callback World}

theorem world_runCallback {callback : Option Callback} (responses : StatusOr (Responses Score))
    (quiet : ∀ invoked, callback = some invoked → Quiet invoke Holds invoked)
    (holds : Holds manager.world) :
    Holds (manager.runCallback invoke callback responses).world := by
  cases callback with
  | none => exact holds
  | some invoked => exact quiet invoked rfl responses manager.world holds

theorem world_signal {taskId : TaskId} (responses : StatusOr (Responses Score))
    (quiet : QuietAt invoke Holds manager.find taskId) (holds : Holds manager.world) :
    Holds (manager.signal invoke taskId responses).world := by
  apply world_runCallback invoke responses _ holds
  intro invoked owned
  cases present : manager.find taskId with
  | none => simp [present] at owned
  | some info => exact quiet info invoked present (by simpa [present] using owned)

@[simp] theorem world_modify (taskId : TaskId)
    (update : TaskInfo Body Callback → TaskInfo Body Callback) :
    (manager.modify taskId update).world = manager.world := by
  unfold modify
  cases manager.find taskId <;> rfl

@[simp] theorem world_setTaskState (taskId : TaskId) (taskState : TaskState) :
    (manager.setTaskState taskId taskState).world = manager.world :=
  world_modify ..

theorem world_confirmTaskState {taskId : TaskId} (expectedState : TaskState)
    (triggerCallback : Bool) (quiet : QuietAt invoke Holds manager.find taskId)
    (holds : Holds manager.world) :
    Holds (manager.confirmTaskState invoke taskId expectedState triggerCallback).2.world := by
  unfold confirmTaskState
  cases manager.find taskId with
  | none => exact holds
  | some info =>
      simp only
      split_ifs
      · exact holds
      · exact world_signal invoke _ quiet holds
      · exact holds
      · exact holds

theorem world_queueTask (workerThread : StatusOr Unit) {taskId : TaskId}
    (quiet : QuietAt invoke Holds manager.find taskId) (holds : Holds manager.world) :
    Holds (manager.queueTask invoke workerThread taskId).2.world := by
  have confirmedHolds := world_confirmTaskState invoke .created true quiet holds
  unfold queueTask
  rcases checked : manager.confirmTaskState invoke taskId .created true with
    ⟨status | _, confirmed⟩
  · rw [checked] at confirmedHolds
    exact confirmedHolds
  · obtain ⟨rfl, info, present, -⟩ := confirmTaskState_ok invoke checked
    simp only [present]
    split
    · exact holds
    · split
      · exact holds
      next pool scheduled =>
        apply world_signal invoke _ _ (by simpa using holds)
        intro other callback found owned
        simp only [find_setTaskState, find_withPool, present, Option.map_some,
          Function.update_self, Option.some.injEq] at found
        subst found
        exact quiet info callback present owned

theorem world_startTask {taskId : TaskId} (quiet : QuietAt invoke Holds manager.find taskId)
    (holds : Holds manager.world) : Holds (manager.startTask invoke taskId).2.world := by
  have confirmedHolds := world_confirmTaskState invoke .queued true quiet holds
  unfold startTask
  rcases checked : manager.confirmTaskState invoke taskId .queued true with
    ⟨status | _, confirmed⟩
  · rw [checked] at confirmedHolds
    exact confirmedHolds
  · obtain ⟨rfl, info, present, -⟩ := confirmTaskState_ok invoke checked
    simp only [present, Option.bind_some]
    split
    · exact world_signal invoke _ quiet holds
    · simp only [world_modify]
      apply world_signal invoke _ _ (by simpa using holds)
      intro other callback found owned
      simp only [find_setTaskState, present, Option.map_some, Function.update_self,
        Option.some.injEq] at found
      subst found
      exact quiet info callback present owned

/-- A change of an entry that keeps its callback keeps every task quiet. -/
theorem QuietAt.update {find : TaskId → Option (TaskInfo Body Callback)} {taskId id : TaskId}
    {info new : TaskInfo Body Callback} (quiet : QuietAt invoke Holds find id)
    (present : find taskId = some info) (sameCallback : new.callback = info.callback) :
    QuietAt invoke Holds (Function.update find taskId (some new)) id := by
  intro other callback found owned
  by_cases same : id = taskId
  · subst same
    rw [Function.update_self, Option.some.injEq] at found
    subst found
    exact quiet info callback present (sameCallback ▸ owned)
  · rw [Function.update_of_ne same] at found
    exact quiet other callback found owned

theorem world_releaseFollowing (workerThread : StatusOr Unit) {callback : Option Callback}
    (taskId : TaskId) {following : List TaskId} {manager : Manager Body Callback World}
    (quiet : ∀ id ∈ following, QuietAt invoke Holds manager.find id)
    (quietCallback : ∀ invoked, callback = some invoked → Quiet invoke Holds invoked)
    (holds : Holds manager.world) :
    Holds (manager.releaseFollowing invoke workerThread callback taskId following).2.world := by
  induction following generalizing manager with
  | nil => exact holds
  | cons followingTaskId rest inductionHypothesis =>
      have quietHere := quiet followingTaskId (List.mem_cons_self ..)
      have confirmedHolds := world_confirmTaskState invoke .created true quietHere holds
      unfold releaseFollowing
      rcases checked : manager.confirmTaskState invoke followingTaskId .created true with
        ⟨status | _, confirmed⟩
      · rw [checked] at confirmedHolds
        exact world_runCallback invoke _ quietCallback confirmedHolds
      · obtain ⟨rfl, info, present, -⟩ := confirmTaskState_ok invoke checked
        simp only [present]
        split
        · exact world_runCallback invoke _ quietCallback holds
        · have erasedQuiet : ∀ id ∈ followingTaskId :: rest, QuietAt invoke Holds
              (confirmed.modify followingTaskId fun info =>
                { info with dependentTasks := info.dependentTasks.erase taskId }).find id := by
            intro id member
            rw [find_modify, present, Option.map_some]
            exact (quiet id member).update invoke present rfl
          have erasedHolds : Holds (confirmed.modify followingTaskId fun info =>
              { info with dependentTasks := info.dependentTasks.erase taskId }).world := by
            rw [world_modify]
            exact holds
          split
          · have queuedHolds := world_queueTask invoke workerThread
              (erasedQuiet followingTaskId (List.mem_cons_self ..)) erasedHolds
            split
            next status queued queueing =>
              rw [queueing] at queuedHolds
              exact queuedHolds
            next queued queueing =>
              rw [queueing] at queuedHolds
              apply inductionHypothesis _ queuedHolds
              intro id member
              obtain ⟨old, oldPresent, -, -, -, found⟩ := queueTask_ok invoke queueing
              rw [found]
              exact (erasedQuiet id (List.mem_cons_of_mem _ member)).update invoke oldPresent rfl
          · exact inductionHypothesis
              (fun id member => erasedQuiet id (List.mem_cons_of_mem _ member)) erasedHolds

/-! ## The task id counter -/

@[simp] theorem nextTaskId_modify (manager : Manager Body Callback World) (taskId : TaskId)
    (update : TaskInfo Body Callback → TaskInfo Body Callback) :
    (manager.modify taskId update).nextTaskId = manager.nextTaskId := by
  unfold modify
  cases manager.find taskId <;> rfl

@[simp] theorem nextTaskId_runCallback (manager : Manager Body Callback World)
    (callback : Option Callback) (responses : StatusOr (Responses Score)) :
    (manager.runCallback invoke callback responses).nextTaskId = manager.nextTaskId := by
  cases callback <;> rfl

@[simp] theorem nextTaskId_confirmTaskState (manager : Manager Body Callback World)
    (taskId : TaskId) (expectedState : TaskState) (triggerCallback : Bool) :
    (manager.confirmTaskState invoke taskId expectedState triggerCallback).2.nextTaskId =
      manager.nextTaskId := by
  unfold confirmTaskState signal
  cases manager.find taskId with
  | none => rfl
  | some info =>
      simp only
      split_ifs <;> simp

@[simp] theorem nextTaskId_queueTask (manager : Manager Body Callback World)
    (workerThread : StatusOr Unit) (taskId : TaskId) :
    (manager.queueTask invoke workerThread taskId).2.nextTaskId = manager.nextTaskId := by
  have counter := nextTaskId_confirmTaskState invoke manager taskId .created true
  unfold queueTask
  rcases checked : manager.confirmTaskState invoke taskId .created true with
    ⟨status | _, confirmed⟩
  · simpa only [checked] using counter
  · simp only [checked] at counter ⊢
    split
    · exact counter
    · split
      · exact counter
      · split
        · exact counter
        · simpa [signal, setTaskState] using counter

theorem nextTaskId_checkDependencies (manager : Manager Body Callback World) (taskId : TaskId)
    (dependencies : List TaskId) (taskState : TaskState) :
    (manager.checkDependencies taskId dependencies taskState).2.nextTaskId =
      manager.nextTaskId := by
  induction dependencies generalizing taskState manager with
  | nil => rfl
  | cons depTaskId rest inductionHypothesis =>
      unfold checkDependencies
      cases manager.find depTaskId with
      | none => rfl
      | some dependency =>
          simp only
          split_ifs <;> simp [inductionHypothesis, addFollowing]

@[simp] theorem nextTaskId_createTask (manager : Manager Body Callback World) (order : HashOrder)
    (workerThread : StatusOr Unit) (taskId : TaskId) (task : Body)
    (dependentTasks : Finset TaskId) (callback : Callback) :
    (manager.createTask invoke order workerThread taskId task dependentTasks
      callback).2.nextTaskId = manager.nextTaskId := by
  have counter := nextTaskId_checkDependencies manager taskId (order.order taskId dependentTasks)
    .created
  unfold createTask
  split
  · rfl
  · rcases checked : manager.checkDependencies taskId (order.order taskId dependentTasks)
      .created with ⟨status | taskState, registered⟩
    · simpa only [checked] using counter
    · simp only [checked] at counter ⊢
      split
      · simpa [signal, put] using counter
      · simpa [signal, put] using counter

@[simp] theorem nextTaskId_startTask (manager : Manager Body Callback World) (taskId : TaskId) :
    (manager.startTask invoke taskId).2.nextTaskId = manager.nextTaskId := by
  have counter := nextTaskId_confirmTaskState invoke manager taskId .queued true
  unfold startTask
  rcases checked : manager.confirmTaskState invoke taskId .queued true with
    ⟨status | _, confirmed⟩
  · simpa only [checked] using counter
  · simp only [checked] at counter ⊢
    split <;> simpa [signal, setTaskState] using counter

@[simp] theorem nextTaskId_failDependentTasks (manager : Manager Body Callback World)
    (taskIds : List TaskId) :
    (taskIds.foldl (failDependentTask invoke) manager).nextTaskId = manager.nextTaskId := by
  induction taskIds generalizing manager with
  | nil => rfl
  | cons taskId rest inductionHypothesis =>
      rw [List.foldl_cons, inductionHypothesis]
      simp [failDependentTask, signal, setTaskState]

theorem nextTaskId_releaseFollowing (manager : Manager Body Callback World)
    (workerThread : StatusOr Unit) (callback : Option Callback) (taskId : TaskId)
    (following : List TaskId) :
    (manager.releaseFollowing invoke workerThread callback taskId following).2.nextTaskId =
      manager.nextTaskId := by
  induction following generalizing manager with
  | nil => rfl
  | cons followingTaskId rest inductionHypothesis =>
      have counter := nextTaskId_confirmTaskState invoke manager followingTaskId .created true
      unfold releaseFollowing
      rcases checked : manager.confirmTaskState invoke followingTaskId .created true with
        ⟨status | _, confirmed⟩
      · simpa [checked] using counter
      · simp only [checked] at counter ⊢
        split
        · exact counter
        · split
          · simpa using counter
          · have queued := nextTaskId_queueTask invoke
              (confirmed.modify followingTaskId fun info =>
                { info with dependentTasks := info.dependentTasks.erase taskId })
              workerThread followingTaskId
            split
            · split
              next failure => simpa [failure, counter] using queued
              next success =>
                rw [inductionHypothesis]
                simpa [success, counter] using queued
            · rw [inductionHypothesis]
              simpa using counter

end Manager

end LiteRTLM.Framework.ExecutionManager
