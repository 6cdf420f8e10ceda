import Mathlib.Logic.Relation
import LiteRTLM.Library.Ranking
import LiteRTLM.Framework.ExecutionManager.Effects

/-!
Contract: what the operations of `ExecutionManager` do when the recorded
dependencies are consistent.

The operations check the links between a task and its followers as they go and
return early on the first broken one. On intact links none of them returns
early, and the lookup they leave behind has a closed form.

Owns: the closed forms of the dependency loop of `CreateTask`, of the two loops
of `FinishTask`, and of `FollowingWaitingTasks`.

Does not own: which links are intact in a reachable state.
-/

namespace LiteRTLM.Framework.ExecutionManager

open LiteRTLM.Engine LiteRTLM.Library

variable {Body Callback World Score : Type}

/-! ## Creating a task -/

/-- A dependency in this state makes a new task fail at once. -/
def HasFailed (taskState : TaskState) : Prop :=
  taskState = .failed ∨ taskState = .dependentTaskFailed

instance (taskState : TaskState) : Decidable (HasFailed taskState) :=
  inferInstanceAs (Decidable (_ ∨ _))

/-- A dependency in this state gets the new task as a follower. -/
def Registers (taskState : TaskState) : Prop :=
  ¬ HasFailed taskState ∧ taskState ≠ .done

instance (taskState : TaskState) : Decidable (Registers taskState) :=
  inferInstanceAs (Decidable (_ ∧ _))

/-- What `CreateTask` does to a dependency of the new task. -/
def TaskInfo.register (taskId : TaskId) (info : TaskInfo Body Callback) :
    TaskInfo Body Callback :=
  if Registers info.taskState then
    { info with followingTasks := insert taskId info.followingTasks }
  else
    info

/-- Registering twice is registering once. -/
theorem TaskInfo.register_register (taskId : TaskId) (info : TaskInfo Body Callback) :
    (info.register taskId).register taskId = info.register taskId := by
  by_cases registers : Registers info.taskState
  · simp [register, registers]
  · simp [register, registers]

/-- What the success of `taskId` does to a task that waits for it. -/
def TaskInfo.release (taskId : TaskId) (info : TaskInfo Body Callback) :
    TaskInfo Body Callback :=
  { info with
    dependentTasks := info.dependentTasks.erase taskId
    taskState := if info.dependentTasks.erase taskId = ∅ then .queued else info.taskState }

/-- What the failure of a task does to one that waits for it. -/
def TaskInfo.abandon (info : TaskInfo Body Callback) : TaskInfo Body Callback :=
  { info with dependentTasks := ∅, taskState := .dependentTaskFailed }

/-- `following` is registered as a follower of `taskId`. -/
def Follows (find : TaskId → Option (TaskInfo Body Callback)) (taskId following : TaskId) : Prop :=
  ∃ info, find taskId = some info ∧ following ∈ info.followingTasks

theorem System.mem_followingTasks {system : System Body Callback World}
    {taskId following : TaskId} :
    following ∈ system.followingTasks taskId ↔ Follows system.manager.find taskId following := by
  unfold System.followingTasks Follows
  cases system.manager.find taskId <;> simp

/-- A follower that waits to be queued. -/
def WaitsFor (find : TaskId → Option (TaskInfo Body Callback)) (taskId following : TaskId) :
    Prop :=
  Follows find taskId following ∧
    ∃ info, find following = some info ∧ info.taskState = .created

/-- The links from a task to its followers are intact. -/
def Linked (find : TaskId → Option (TaskInfo Body Callback)) (taskId : TaskId) : Prop :=
  ∀ following, Follows find taskId following →
    ∃ info, find following = some info ∧ taskId ∈ info.dependentTasks

namespace Manager

/-- The dependency loop completes only over existing tasks. It registers the new
task with each unfinished one, and a failed one decides the new task's state. -/
theorem checkDependencies_ok {taskId : TaskId} {dependencies : List TaskId}
    {taskState result : TaskState} {manager next : Manager Body Callback World}
    (checked : manager.checkDependencies taskId dependencies taskState = (.ok result, next)) :
    (∀ dep ∈ dependencies, (manager.find dep).isSome) ∧
      (∀ id, next.find id = if id ∈ dependencies then (manager.find id).map (.register taskId)
        else manager.find id) ∧
      ((result = .dependentTaskFailed ∧ (taskState = .dependentTaskFailed ∨
          ∃ dep ∈ dependencies, ∃ info, manager.find dep = some info ∧
            HasFailed info.taskState)) ∨
        (result = taskState ∧ ∀ dep ∈ dependencies, ∀ info, manager.find dep = some info →
          ¬ HasFailed info.taskState)) := by
  induction dependencies generalizing taskState manager with
  | nil =>
      cases checked
      simp
  | cons depTaskId rest inductionHypothesis =>
      unfold checkDependencies at checked
      cases present : manager.find depTaskId with
      | none => simp [present] at checked
      | some dependency =>
          simp only [present] at checked
          split at checked
          next failed =>
            obtain ⟨exist, finds, state⟩ := inductionHypothesis checked
            have unregistered : dependency.register taskId = dependency :=
              if_neg fun registers => registers.1 failed
            have lost : ∃ dep ∈ depTaskId :: rest, ∃ info, manager.find dep = some info ∧
                HasFailed info.taskState :=
              ⟨depTaskId, List.mem_cons_self .., dependency, present, failed⟩
            refine ⟨by simpa [present] using exist, fun id => ?_,
              Or.inl ⟨state.elim And.left And.left, Or.inr lost⟩⟩
            rw [finds id]
            by_cases same : id = depTaskId
            · subst same
              simp [present, unregistered]
            · simp [same]
          next alive =>
            split at checked
            next unfinished =>
              obtain ⟨exist, finds, state⟩ := inductionHypothesis checked
              have registered : dependency.register taskId = { dependency with
                  followingTasks := insert taskId dependency.followingTasks } :=
                if_pos ⟨alive, unfinished⟩
              have found : (manager.addFollowing taskId depTaskId).find =
                  Function.update manager.find depTaskId (some (dependency.register taskId)) := by
                rw [find_addFollowing, present, registered, Option.map_some]
              refine ⟨?_, fun id => ?_, ?_⟩
              · intro dep member
                by_cases same : dep = depTaskId
                · simp [same, present]
                · have old := exist dep (by simpa [same] using member)
                  rwa [found, Function.update_of_ne same] at old
              · rw [finds id, found]
                by_cases same : id = depTaskId
                · subst same
                  simp [present, dependency.register_register taskId]
                · simp [same]
              · refine state.imp (And.imp_right (Or.imp_right ?_))
                  (And.imp_right fun healthy dep member info depFound => ?_)
                · rintro ⟨dep, member, info, depFound, failed⟩
                  refine ⟨dep, List.mem_cons_of_mem _ member, ?_⟩
                  by_cases same : dep = depTaskId
                  · subst same
                    rw [found, Function.update_self] at depFound
                    cases depFound
                    rw [registered] at failed
                    exact ⟨dependency, present, failed⟩
                  · exact ⟨info, by rwa [found, Function.update_of_ne same] at depFound, failed⟩
                · by_cases same : dep = depTaskId
                  · subst same
                    rw [present] at depFound
                    cases depFound
                    exact alive
                  · exact healthy dep (by simpa [same] using member) info
                      (by rw [found, Function.update_of_ne same, depFound])
            next finished =>
              obtain ⟨exist, finds, state⟩ := inductionHypothesis checked
              have unregistered : dependency.register taskId = dependency :=
                if_neg fun registers => finished registers.2
              refine ⟨by simpa [present] using exist, fun id => ?_, ?_⟩
              · rw [finds id]
                by_cases same : id = depTaskId
                · subst same
                  simp [present, unregistered]
                · simp [same]
              · refine state.imp (And.imp_right (Or.imp_right ?_))
                  (And.imp_right fun healthy dep member info depFound => ?_)
                · rintro ⟨dep, member, lost⟩
                  exact ⟨dep, List.mem_cons_of_mem _ member, lost⟩
                · rcases List.mem_cons.mp member with rfl | member
                  · rw [present] at depFound
                    cases depFound
                    exact alive
                  · exact healthy dep member info depFound

/-- A rejected dependency loop that visits no unfinished dependency leaves no
trace. -/
theorem checkDependencies_error {taskId : TaskId} {dependencies : List TaskId}
    {taskState : TaskState} {status : Status} {manager next : Manager Body Callback World}
    (rejected : manager.checkDependencies taskId dependencies taskState = (.error status, next)) :
    (∃ dep ∈ dependencies, manager.find dep = none) ∧
      ((∀ dep ∈ dependencies.takeWhile fun dep => (manager.find dep).isSome,
        ∀ info, manager.find dep = some info → ¬ Registers info.taskState) → next = manager) := by
  induction dependencies generalizing taskState manager with
  | nil => cases rejected
  | cons depTaskId rest inductionHypothesis =>
      unfold checkDependencies at rejected
      cases present : manager.find depTaskId with
      | none =>
          simp only [present] at rejected
          cases rejected
          exact ⟨⟨depTaskId, List.mem_cons_self .., present⟩, fun _ => rfl⟩
      | some dependency =>
          simp only [present] at rejected
          simp only [List.takeWhile_cons, present, Option.isSome_some, if_true,
            List.forall_mem_cons]
          split at rejected
          next failed =>
            obtain ⟨⟨dep, member, missing⟩, traceless⟩ := inductionHypothesis rejected
            exact ⟨⟨dep, List.mem_cons_of_mem _ member, missing⟩, fun clean => traceless clean.2⟩
          next alive =>
            split at rejected
            next unfinished =>
              obtain ⟨⟨dep, member, missing⟩, -⟩ := inductionHypothesis rejected
              refine ⟨⟨dep, List.mem_cons_of_mem _ member, ?_⟩, fun clean => ?_⟩
              · rw [find_addFollowing] at missing
                by_cases same : dep = depTaskId
                · subst same
                  simp [present] at missing
                · rwa [Function.update_of_ne same] at missing
              · exact absurd ⟨alive, unfinished⟩ (clean.1 dependency rfl)
            next finished =>
              obtain ⟨⟨dep, member, missing⟩, traceless⟩ := inductionHypothesis rejected
              exact ⟨⟨dep, List.mem_cons_of_mem _ member, missing⟩, fun clean => traceless clean.2⟩

/-! ## Queueing a task -/

section Callbacks

variable (invoke : Callback → StatusOr (Responses Score) → World → World)

/-- `QueueTask` succeeds on a created task without dependencies that still owns
its callback, if the pool takes it. -/
theorem queueTask_of_find (workerThread : StatusOr Unit) {taskId : TaskId}
    {info : TaskInfo Body Callback} {manager : Manager Body Callback World}
    (present : manager.find taskId = some info) (created : info.taskState = .created)
    (independent : info.dependentTasks = ∅) (callable : info.callback ≠ none)
    (running : manager.executionThreadPool.stopped = false)
    (worker : 0 < manager.executionThreadPool.numThreads ∨ workerThread = .ok ()) :
    ∃ next, manager.queueTask invoke workerThread taskId = (.ok (), next) := by
  obtain ⟨pool, scheduled⟩ := ThreadPool.schedule_succeeds taskId running worker
  unfold queueTask
  rw [confirmTaskState_of_find invoke present created fun _ => callable]
  simp [present, independent, scheduled]

/-! ## Finishing a task -/

/-- One round of the release loop on a follower that waits for `taskId`. -/
theorem releaseFollowing_cons (workerThread : StatusOr Unit) (callback : Option Callback)
    {taskId followingTaskId : TaskId} {info : TaskInfo Body Callback}
    {manager : Manager Body Callback World}
    (present : manager.find followingTaskId = some info) (created : info.taskState = .created)
    (depends : taskId ∈ info.dependentTasks) (callable : info.callback ≠ none)
    (running : manager.executionThreadPool.stopped = false)
    (worker : 0 < manager.executionThreadPool.numThreads) :
    ∃ next : Manager Body Callback World,
      (∀ rest, manager.releaseFollowing invoke workerThread callback taskId
          (followingTaskId :: rest) =
            next.releaseFollowing invoke workerThread callback taskId rest) ∧
      next.find = Function.update manager.find followingTaskId (some (info.release taskId)) ∧
      (∀ id, id ∈ next.executionThreadPool.tasks ↔ id ∈ manager.executionThreadPool.tasks ∨
        (id = followingTaskId ∧ info.dependentTasks.erase taskId = ∅)) ∧
      next.executionThreadPool.Extends manager.executionThreadPool := by
  have confirmed := confirmTaskState_of_find invoke present created
    fun (_ : true = true) => callable
  let erased := manager.modify followingTaskId fun info =>
    { info with dependentTasks := info.dependentTasks.erase taskId }
  have erasedFind : erased.find = Function.update manager.find followingTaskId
      (some { info with dependentTasks := info.dependentTasks.erase taskId }) := by
    rw [find_modify, present, Option.map_some]
  have erasedPool : erased.executionThreadPool = manager.executionThreadPool :=
    manager.pool_modify ..
  by_cases last : info.dependentTasks.erase taskId = ∅
  · have erasedPresent : erased.find followingTaskId =
        some { info with dependentTasks := info.dependentTasks.erase taskId } := by
      rw [erasedFind, Function.update_self]
    obtain ⟨next, queued⟩ := queueTask_of_find invoke workerThread
      erasedPresent created last callable (by rwa [erasedPool]) (Or.inl (by rwa [erasedPool]))
    obtain ⟨other, otherPresent, -, -, scheduled, found⟩ := queueTask_ok invoke queued
    rw [erasedPresent, Option.some.injEq] at otherPresent
    subst otherPresent
    obtain ⟨tasks, extended⟩ := ThreadPool.schedule_ok scheduled
    rw [erasedPool] at tasks extended
    refine ⟨next, fun rest => ?_, ?_, fun id => ?_, extended⟩
    · rw [releaseFollowing, confirmed]
      simp only [present, depends, not_true_eq_false, if_false, last, if_true]
      rw [queued]
    · rw [found, erasedFind, Function.update_idem]
      simp [TaskInfo.release, last]
    · simp [tasks, last]
  · refine ⟨erased, fun rest => ?_, ?_, fun id => ?_, erasedPool ▸ .refl _⟩
    · rw [releaseFollowing, confirmed]
      simp only [present, depends, not_true_eq_false, if_false, last]
      rfl
    · rw [erasedFind]
      simp [TaskInfo.release, last]
    · simp [erasedPool, last]

/-- With intact links to tasks that all wait, releasing the followers succeeds:
each loses the dependency, and those that had no other are queued. -/
theorem releaseFollowing_ok (workerThread : StatusOr Unit) (callback : Option Callback)
    {taskId : TaskId} {following : List TaskId} {manager : Manager Body Callback World}
    (distinct : following.Nodup)
    (waiting : ∀ id ∈ following, ∃ info, manager.find id = some info ∧
      info.taskState = .created ∧ taskId ∈ info.dependentTasks ∧ info.callback ≠ none)
    (running : manager.executionThreadPool.stopped = false)
    (worker : 0 < manager.executionThreadPool.numThreads) :
    ∃ next, manager.releaseFollowing invoke workerThread callback taskId following =
        (.ok (), next) ∧
      (∀ id, next.find id = if id ∈ following then (manager.find id).map (.release taskId)
        else manager.find id) ∧
      (∀ id, id ∈ next.executionThreadPool.tasks ↔
        id ∈ manager.executionThreadPool.tasks ∨
          (id ∈ following ∧ ∃ info, manager.find id = some info ∧
            info.dependentTasks.erase taskId = ∅)) ∧
      next.executionThreadPool.Extends manager.executionThreadPool := by
  induction following generalizing manager with
  | nil => exact ⟨manager, rfl, by simp, by simp, .refl _⟩
  | cons followingTaskId rest inductionHypothesis =>
      rw [List.nodup_cons] at distinct
      obtain ⟨info, present, created, depends, callable⟩ :=
        waiting followingTaskId (List.mem_cons_self ..)
      obtain ⟨middle, round, middleFind, middleTasks, middleExtends⟩ :=
        releaseFollowing_cons invoke workerThread callback present created
          depends callable running worker
      have apart : ∀ id ∈ rest, id ≠ followingTaskId := by
        rintro id member rfl
        exact distinct.1 member
      obtain ⟨next, looped, nextFind, nextTasks, nextExtends⟩ := @inductionHypothesis
        middle distinct.2
        (fun id member => by
          rw [middleFind, Function.update_of_ne (apart id member)]
          exact waiting id (List.mem_cons_of_mem _ member))
        (middleExtends.stopped.trans running) (worker.trans_le middleExtends.numThreads)
      refine ⟨next, (round rest).trans looped, fun id => ?_, fun id => ?_,
        nextExtends.trans middleExtends⟩
      · rw [nextFind, middleFind]
        by_cases same : id = followingTaskId
        · subst same
          simp [distinct.1, present]
        · simp [same]
      · rw [nextTasks, middleTasks, middleFind]
        by_cases same : id = followingTaskId
        · subst same
          simp [distinct.1, present]
        · simp [same]

/-- Failing a list of tasks abandons each of them. -/
theorem find_failDependentTasks (taskIds : List TaskId) (manager : Manager Body Callback World)
    (id : TaskId) :
    (taskIds.foldl (failDependentTask invoke) manager).find id =
      if id ∈ taskIds then (manager.find id).map .abandon else manager.find id := by
  induction taskIds generalizing manager with
  | nil => simp
  | cons taskId rest inductionHypothesis =>
      rw [List.foldl_cons, inductionHypothesis, find_failDependentTask]
      by_cases same : id = taskId
      · subst same
        cases manager.find id <;> simp [TaskInfo.abandon]
      · simp [same]

theorem pool_failDependentTasks (taskIds : List TaskId) (manager : Manager Body Callback World) :
    (taskIds.foldl (failDependentTask invoke) manager).executionThreadPool =
      manager.executionThreadPool := by
  induction taskIds generalizing manager with
  | nil => rfl
  | cons taskId rest inductionHypothesis =>
      rw [List.foldl_cons, inductionHypothesis, pool_failDependentTask]

end Callbacks

/-! ## Collecting the waiting followers -/

/-- A collecting loop succeeds if each step does, and covers every item. -/
theorem foldlM_collects {α β : Type} {visit : Finset β → α → StatusOr (Finset β)}
    (Invariant : Finset β → Prop) (Covered : α → Finset β → Prop)
    (monotone : ∀ item first second, Covered item first → first ⊆ second → Covered item second)
    {items : List α}
    (visits : ∀ item ∈ items, ∀ state, Invariant state → ∃ next, visit state item = .ok next ∧
      Invariant next ∧ state ⊆ next ∧ Covered item next)
    {start : Finset β} (initially : Invariant start) :
    ∃ result, items.foldlM visit start = .ok result ∧ Invariant result ∧ start ⊆ result ∧
      ∀ item ∈ items, Covered item result := by
  induction items generalizing start with
  | nil => exact ⟨start, rfl, initially, fun _ member => member, by simp⟩
  | cons item rest inductionHypothesis =>
      obtain ⟨next, visited, kept, grown, covered⟩ :=
        visits item (List.mem_cons_self ..) start initially
      obtain ⟨result, folded, keptLater, further, coveredRest⟩ :=
        inductionHypothesis (fun other member => visits other (List.mem_cons_of_mem _ member)) kept
      refine ⟨result, ?_, keptLater, grown.trans further, ?_⟩
      · rw [List.foldlM_cons, visited]
        exact folded
      · intro other member
        rcases List.mem_cons.mp member with rfl | member
        · exact monotone other next result covered further
        · exact coveredRest other member

/-- A set of tasks that wait below `taskId`, closed under waiting. -/
def CollectedBelow (find : TaskId → Option (TaskInfo Body Callback)) (taskId : TaskId)
    (waiting : Finset TaskId) : Prop :=
  (∀ id ∈ waiting, ∀ next, WaitsFor find id next → next ∈ waiting) ∧
    ∀ id ∈ waiting, Relation.TransGen (WaitsFor find) taskId id

/-- With intact links from `taskId` and from every task that waits for it
directly or not, and enough depth, collecting the waiting followers succeeds and
leaves none out. -/
theorem followingWaitingTasks_ok (order : HashOrder)
    {find : TaskId → Option (TaskInfo Body Callback)} {members : Finset TaskId}
    (ranking : Ranking members (Follows find)) {depth : Nat} {taskId : TaskId}
    (linked : ∀ id, Relation.ReflTransGen (WaitsFor find) taskId id → Linked find id)
    (enough : ranking.height taskId < depth) :
    ∃ waiting, followingWaitingTasks order find depth taskId = .ok waiting ∧
      (∀ id, WaitsFor find taskId id → id ∈ waiting) ∧
      (∀ id ∈ waiting, ∀ next, WaitsFor find id next → next ∈ waiting) ∧
      ∀ id ∈ waiting, Relation.TransGen (WaitsFor find) taskId id := by
  induction depth generalizing taskId with
  | zero => omega
  | succ depth inductionHypothesis =>
      unfold followingWaitingTasks
      cases present : find taskId with
      | none =>
          refine ⟨∅, rfl, ?_, by simp, by simp⟩
          rintro id ⟨⟨info, found, -⟩, -⟩
          rw [present] at found
          cases found
      | some info =>
          have visits : ∀ item ∈ order.order taskId info.followingTasks, ∀ state,
              CollectedBelow find taskId state → ∃ next,
                visitFollowing find (fun id => followingWaitingTasks order find depth id) taskId
                  state item = .ok next ∧ CollectedBelow find taskId next ∧ state ⊆ next ∧
                    (WaitsFor find taskId item → item ∈ next) := by
            intro item member state collected
            have follows : Follows find taskId item :=
              ⟨info, present, (order.mem_order taskId info.followingTasks item).mp member⟩
            obtain ⟨following, found, depends⟩ := linked taskId .refl item follows
            unfold visitFollowing
            simp only [found, depends, not_true_eq_false, if_false]
            split
            next created =>
              have waits : WaitsFor find taskId item := ⟨follows, following, found, created⟩
              obtain ⟨next, recursed, direct, closed, below⟩ := @inductionHypothesis item
                (fun id reaches => linked id (.head waits reaches))
                (by have less := ranking.height_lt follows; omega)
              refine ⟨_, by rw [recursed], ⟨?_, ?_⟩, ?_, fun _ => by simp⟩
              · intro id idMember other otherWaits
                simp only [Finset.mem_union, Finset.mem_insert] at idMember ⊢
                rcases idMember with (rfl | idMember) | idMember
                · exact Or.inr (direct other otherWaits)
                · exact Or.inl (Or.inr (collected.1 id idMember other otherWaits))
                · exact Or.inr (closed id idMember other otherWaits)
              · intro id idMember
                simp only [Finset.mem_union, Finset.mem_insert] at idMember
                rcases idMember with (rfl | idMember) | idMember
                · exact .single waits
                · exact collected.2 id idMember
                · exact .head waits (below id idMember)
              · intro id idMember
                simp [idMember]
            next settled =>
              refine ⟨state, rfl, collected, fun _ idMember => idMember, ?_⟩
              rintro ⟨-, other, otherFound, created⟩
              rw [found] at otherFound
              cases otherFound
              exact absurd created settled
          have nothing : CollectedBelow find taskId ∅ := ⟨by simp, by simp⟩
          obtain ⟨waiting, folded, ⟨closed, below⟩, -, covered⟩ :=
            foldlM_collects (CollectedBelow find taskId)
              (fun id waiting => WaitsFor find taskId id → id ∈ waiting)
              (fun _ _ _ member subset waits => subset (member waits)) visits nothing
          refine ⟨waiting, folded, fun id waits => ?_, closed, below⟩
          obtain ⟨other, otherFound, follower⟩ := waits.1
          rw [present] at otherFound
          cases otherFound
          exact covered id ((order.mem_order taskId info.followingTasks id).mpr follower) waits

end Manager

end LiteRTLM.Framework.ExecutionManager
