import LiteRTLM.Framework.ExecutionManager.Progress

/-!
Contract: what the manager tells the callback of each task.

A callback is represented by the id of the task it was created with, and the
outside world is the list of notifications each of them has received, oldest
first. The notifications that a running body sends to its own callback are left
out, so the lists hold what the manager itself delivers.

Owns: the observed machine, the notifications that go with each task state, and
their preservation by every operation that returns OK.

Does not own: which operations return OK.
-/

namespace LiteRTLM.Framework.ExecutionManager

open LiteRTLM.Engine LiteRTLM.Library

variable {Body Callback World Score : Type}

/-- What the callback of each task has received, oldest first. -/
abbrev Notifications (Score : Type) :=
  TaskId → List (StatusOr (Responses Score))

/-- The callback of `taskId` receives `responses`. -/
def record (taskId : TaskId) (responses : StatusOr (Responses Score))
    (notes : Notifications Score) : Notifications Score :=
  Function.update notes taskId (notes taskId ++ [responses])

/-- The notification of a state without texts or scores. -/
def stateUpdate (taskState : TaskState) : StatusOr (Responses Score) :=
  .ok (.ofState taskState)

/-! ## The observed machine -/

/-- The callback a task is created with is the one that records for it. -/
def Action.labelled : Action Body Unit Score → Action Body TaskId Score
  | .createTask order workerThread taskId task dependentTasks _ =>
      .createTask order workerThread taskId task dependentTasks taskId
  | .takeTask => .takeTask
  | .startTask => .startTask
  | .notify responses => .notify responses
  | .finishTask order failOrder workerThread outcome =>
      .finishTask order failOrder workerThread outcome
  | .completeTask => .completeTask

namespace System

/-- One step of the callers or of the worker. A notification the body sends
itself is not recorded. -/
def observedStep (system : System Body TaskId (Notifications Score)) :
    Action Body Unit Score → Option (System Body TaskId (Notifications Score))
  | .notify responses => (system.step record (.notify responses)).map fun _ => system
  | action => system.step record action.labelled

/-- The manager's state machine, with every notification of the manager on
record. -/
def observedMachine :
    Machine (System Body TaskId (Notifications Score)) (Action Body Unit Score) where
  Initial := fun system => system = initial fun _ => []
  step := observedStep

end System

/-! ## The notifications of a task -/

/-- The notifications a task in the given state has received. -/
inductive ProtocolAt : TaskState → List (StatusOr (Responses Score)) → Prop where
  | created : ProtocolAt .created [stateUpdate .created]
  | queued : ProtocolAt .queued [stateUpdate .created, stateUpdate .queued]
  | processing : ProtocolAt .processing
      [stateUpdate .created, stateUpdate .queued, stateUpdate .processing]
  | completed {taskState : TaskState} (responses : Responses Score)
      (final : taskState = .done ∨ taskState = .maxNumTokensReached)
      (same : responses.taskState = taskState) : ProtocolAt taskState
        [stateUpdate .created, stateUpdate .queued, stateUpdate .processing, .ok responses]
  | failed (status : Status) : ProtocolAt .failed
      [stateUpdate .created, stateUpdate .queued, stateUpdate .processing, .error status]
  | abandoned : ProtocolAt .dependentTaskFailed
      [stateUpdate .created, stateUpdate .dependentTaskFailed]
  | refused : ProtocolAt .dependentTaskFailed [stateUpdate .dependentTaskFailed]

namespace ProtocolAt

variable {notes : List (StatusOr (Responses Score))}

theorem queue (told : ProtocolAt .created notes) :
    ProtocolAt .queued (notes ++ [stateUpdate .queued]) := by
  cases told with
  | created => exact .queued
  | completed _ final => simp at final

theorem start (told : ProtocolAt .queued notes) :
    ProtocolAt .processing (notes ++ [stateUpdate .processing]) := by
  cases told with
  | queued => exact .processing
  | completed _ final => simp at final

theorem abandon (told : ProtocolAt .created notes) :
    ProtocolAt .dependentTaskFailed (notes ++ [stateUpdate .dependentTaskFailed]) := by
  cases told with
  | created => exact .abandoned
  | completed _ final => simp at final

theorem complete (told : ProtocolAt .processing notes) (responses : Responses Score)
    (final : responses.taskState = .done ∨ responses.taskState = .maxNumTokensReached) :
    ProtocolAt responses.taskState (notes ++ [.ok responses]) := by
  cases told with
  | processing => exact .completed responses final rfl
  | completed _ final => simp at final

theorem fail (told : ProtocolAt .processing notes) (status : Status) :
    ProtocolAt .failed (notes ++ [.error status]) := by
  cases told with
  | processing => exact .failed status
  | completed _ final => simp at final

end ProtocolAt

/-! ## The lookup and the notifications -/

/-- Every task owns its own callback, if any, and its notifications are those of
its state. They continue the ones delivered `before`. -/
structure Told (before : Notifications Score)
    (find : TaskId → Option (TaskInfo Body TaskId)) (notes : Notifications Score) : Prop where
  labelled : ∀ id info callback, find id = some info → info.callback = some callback →
    callback = id
  absent : ∀ id, find id = none → notes id = []
  present : ∀ id info, find id = some info → ProtocolAt info.taskState (notes id)
  continues : ∀ id, before id <+: notes id

namespace Told

variable {before notes : Notifications Score}
variable {find : TaskId → Option (TaskInfo Body TaskId)} {taskId : TaskId}
variable {info new : TaskInfo Body TaskId}

/-- Later notifications continue the ones delivered so far. -/
theorem restart (told : Told before find notes) : Told notes find notes :=
  { told with continues := fun _ => List.prefix_refl _ }

/-- One task changes, and its callback is told so. -/
theorem record {responses : StatusOr (Responses Score)} (told : Told before find notes)
    (labelled : ∀ callback, new.callback = some callback → callback = taskId)
    (agrees : ProtocolAt new.taskState (notes taskId ++ [responses])) :
    Told before (Function.update find taskId (some new)) (record taskId responses notes) := by
  refine { labelled := ?_, absent := ?_, present := ?_, continues := ?_ }
  · intro id other callback found owned
    by_cases same : id = taskId
    · subst same
      rw [Function.update_self, Option.some.injEq] at found
      subst found
      exact labelled callback owned
    · rw [Function.update_of_ne same] at found
      exact told.labelled id other callback found owned
  · intro id missing
    by_cases same : id = taskId
    · subst same
      rw [Function.update_self] at missing
      cases missing
    · rw [Function.update_of_ne same] at missing
      simpa [ExecutionManager.record, same] using told.absent id missing
  · intro id other found
    by_cases same : id = taskId
    · subst same
      rw [Function.update_self, Option.some.injEq] at found
      subst found
      simpa [ExecutionManager.record] using agrees
    · rw [Function.update_of_ne same] at found
      simpa [ExecutionManager.record, same] using told.present id other found
  · intro id
    by_cases same : id = taskId
    · subst same
      simpa [ExecutionManager.record] using
        (told.continues id).trans (List.prefix_append _ [responses])
    · simpa [ExecutionManager.record, same] using told.continues id

/-- A change that keeps every task's state and callback needs no notification. -/
theorem of_same {next : TaskId → Option (TaskInfo Body TaskId)}
    (told : Told before find notes)
    (same : ∀ id, (next id).map (fun info => (info.taskState, info.callback)) =
      (find id).map (fun info => (info.taskState, info.callback))) :
    Told before next notes := by
  have backward : ∀ id new, next id = some new → ∃ info, find id = some info ∧
      new.taskState = info.taskState ∧ new.callback = info.callback := by
    intro id new found
    have agree := same id
    rw [found, Option.map_some, eq_comm, Option.map_eq_some_iff] at agree
    obtain ⟨info, present, equal⟩ := agree
    simp only [Prod.mk.injEq] at equal
    exact ⟨info, present, equal.1.symm, equal.2.symm⟩
  refine { told with labelled := ?_, absent := ?_, present := ?_ }
  · intro id new callback found owned
    obtain ⟨info, present, -, sameCallback⟩ := backward id new found
    exact told.labelled id info callback present (sameCallback ▸ owned)
  · intro id missing
    have agree := same id
    rw [missing, Option.map_none, eq_comm, Option.map_eq_none_iff] at agree
    exact told.absent id agree
  · intro id new found
    obtain ⟨info, present, sameState, -⟩ := backward id new found
    rw [sameState]
    exact told.present id info present

end Told

/-! ## What the operations deliver -/

namespace Manager

section Deliveries

variable (invoke : Callback → StatusOr (Responses Score) → World → World)
variable {manager next : Manager Body Callback World}

/-- A queued task is told so. -/
theorem queueTask_delivers {workerThread : StatusOr Unit} {taskId : TaskId}
    (queued : manager.queueTask invoke workerThread taskId = (.ok (), next)) :
    ∃ info callback, manager.find taskId = some info ∧ info.callback = some callback ∧
      next.world = invoke callback (stateUpdate .queued) manager.world := by
  unfold queueTask at queued
  rcases checked : manager.confirmTaskState invoke taskId .created true with ⟨_ | _, confirmed⟩
  · simp only [checked] at queued
    cases queued
  · obtain ⟨rfl, info, present, -, callable⟩ := confirmTaskState_ok invoke checked
    obtain ⟨callback, owned⟩ := Option.ne_none_iff_exists'.mp (callable rfl)
    simp only [checked, present] at queued
    split at queued
    · cases queued
    · split at queued
      · cases queued
      · cases queued
        exact ⟨info, callback, present, owned, by simp [signal, runCallback, present, owned,
          stateUpdate]⟩

/-- A started task is told so. -/
theorem startTask_delivers {taskId : TaskId} {task : Body} {callback : Option Callback}
    (started : manager.startTask invoke taskId = (.ok (task, callback), next)) :
    ∃ owned, callback = some owned ∧
      next.world = invoke owned (stateUpdate .processing) manager.world := by
  obtain ⟨info, present, -, -, same, callable, -⟩ := startTask_ok invoke started
  obtain ⟨owned, isOwned⟩ := Option.ne_none_iff_exists'.mp callable
  refine ⟨owned, isOwned, ?_⟩
  rw [isOwned] at same
  unfold startTask at started
  rcases checked : manager.confirmTaskState invoke taskId .queued true with ⟨_ | _, confirmed⟩
  · simp only [checked] at started
    cases started
  · obtain ⟨rfl, -⟩ := confirmTaskState_ok invoke checked
    simp only [checked, present, Option.bind_some] at started
    split at started
    · cases started
    · cases started
      simp [signal, runCallback, present, same, stateUpdate]

/-- The dependency loop tells nobody. -/
theorem world_checkDependencies (taskId : TaskId) (dependencies : List TaskId)
    (taskState : TaskState) (manager : Manager Body Callback World) :
    (manager.checkDependencies taskId dependencies taskState).2.world = manager.world := by
  induction dependencies generalizing taskState manager with
  | nil => rfl
  | cons depTaskId rest inductionHypothesis =>
      unfold checkDependencies
      cases manager.find depTaskId with
      | none => rfl
      | some dependency =>
          simp only
          split_ifs
          · exact inductionHypothesis _ _
          · rw [inductionHypothesis, addFollowing, world_modify]
          · exact inductionHypothesis _ _

/-- A created task is told the state it starts in, and an independent one also
that it is queued. -/
theorem createTask_delivers {order : HashOrder} {workerThread : StatusOr Unit} {taskId : TaskId}
    {task : Body} {dependentTasks : Finset TaskId} {callback : Callback}
    (created : manager.createTask invoke order workerThread taskId task dependentTasks callback =
      (.ok (), next)) :
    (dependentTasks ≠ ∅ → ∀ taskState registered,
      manager.checkDependencies taskId (order.order taskId dependentTasks) .created =
        (.ok taskState, registered) →
      next.world = invoke callback (stateUpdate taskState) manager.world) ∧
    (dependentTasks = ∅ → next.world = invoke callback (stateUpdate .queued)
      (invoke callback (stateUpdate .created) manager.world)) := by
  unfold createTask at created
  split at created
  · cases created
  · have untold := world_checkDependencies taskId (order.order taskId dependentTasks) .created
      manager
    rcases checked : manager.checkDependencies taskId (order.order taskId dependentTasks)
      .created with ⟨status | taskState, registered⟩
    · simp [checked] at created
    · rw [checked] at untold
      have told : ((registered.put taskId
          { task := some task, taskState, dependentTasks, callback := some callback }).signal
            invoke taskId (.ok (.ofState taskState))).world =
          invoke callback (stateUpdate taskState) manager.world := by
        simp only [signal, find_put, Function.update_self, Option.bind_some, runCallback]
        rw [← show registered.world = manager.world from untold]
        rfl
      simp only [checked] at created
      split at created
      next independent =>
        refine ⟨fun dependent => absurd independent dependent, fun _ => ?_⟩
        have unordered : order.order taskId dependentTasks = [] :=
          List.eq_nil_iff_forall_not_mem.mpr fun id member => by
            simp [order.mem_order, independent] at member
        rw [unordered] at checked
        cases checked
        obtain ⟨info, owned, present, isOwned, delivered⟩ := queueTask_delivers invoke created
        simp only [find_signal, find_put, Function.update_self, Option.some.injEq] at present
        subst present
        cases isOwned
        rw [delivered, told]
      next dependent =>
        cases created
        refine ⟨fun _ other otherRegistered same => ?_, fun empty => absurd empty dependent⟩
        cases same
        exact told

end Deliveries

/-! ## The operations keep what is told -/

section Keeping

variable {manager next : Manager Body TaskId (Notifications Score)}
variable {before : Notifications Score}

theorem queueTask_told {workerThread : StatusOr Unit} {taskId : TaskId}
    (told : Told before manager.find manager.world)
    (queued : manager.queueTask record workerThread taskId = (.ok (), next)) :
    Told before next.find next.world := by
  obtain ⟨info, present, created, -, -, found⟩ := queueTask_ok record queued
  obtain ⟨other, callback, otherPresent, owned, delivered⟩ := queueTask_delivers record queued
  rw [present, Option.some.injEq] at otherPresent
  subst otherPresent
  have label := told.labelled taskId info callback present owned
  subst label
  rw [found, delivered]
  apply told.record
  · intro other otherOwned
    exact told.labelled callback info other present otherOwned
  · have current := told.present callback info present
    rw [created] at current
    exact current.queue

/-- A task enters the lookup with the notification of the state it starts in. -/
theorem createTask_told {order : HashOrder} {workerThread : StatusOr Unit} {taskId : TaskId}
    {task : Body} {dependentTasks : Finset TaskId}
    (told : Told before manager.find manager.world)
    (created : manager.createTask record order workerThread taskId task dependentTasks taskId =
      (.ok (), next)) :
    Told before next.find next.world := by
  have owned : ∀ (taskState : TaskState) (deps : Finset TaskId) (callback : TaskId),
      (newTask task taskState deps taskId).callback = some callback → callback = taskId := by
    intro taskState deps callback isOwned
    cases isOwned
    rfl
  obtain ⟨toldDependent, toldIndependent⟩ := createTask_delivers record created
  obtain ⟨fresh, ⟨dependent, taskState, registered, checked, -, found⟩ |
    ⟨independent, -, found⟩⟩ := createTask_ok record created
  · have unchanged := checkDependencies_find taskId (order.order taskId dependentTasks) .created
      manager
    rw [checked] at unchanged
    have toldRegistered : Told before registered.find manager.world := by
      refine told.of_same fun id => ?_
      have agree := congrArg (Option.map fun info => (info.taskState, info.callback))
        (unchanged id)
      rw [Option.map_map, Option.map_map] at agree
      exact agree
    rw [found, toldDependent dependent taskState registered checked]
    apply toldRegistered.record (owned taskState dependentTasks)
    rw [told.absent taskId fresh]
    rcases checkDependencies_state checked with rfl | rfl
    · exact .created
    · exact .refused
  · have toldCreated : Told before
        (Function.update manager.find taskId (some (newTask task .created ∅ taskId)))
        (record taskId (stateUpdate .created) manager.world) := by
      apply told.record (owned .created ∅)
      rw [told.absent taskId fresh]
      exact .created
    have current := toldCreated.present taskId _ (Function.update_self ..)
    rw [found, toldIndependent independent, ← Function.update_idem]
    exact toldCreated.record (owned .queued ∅) current.queue

theorem startTask_told {taskId : TaskId} {task : Body} {callback : Option TaskId}
    (told : Told before manager.find manager.world)
    (started : manager.startTask record taskId = (.ok (task, callback), next)) :
    Told before next.find next.world ∧ callback = some taskId := by
  obtain ⟨info, present, queued, -, same, -, -, found⟩ := startTask_ok record started
  obtain ⟨owned, isOwned, delivered⟩ := startTask_delivers record started
  have label := told.labelled taskId info owned present (same.trans isOwned)
  subst label
  refine ⟨?_, isOwned⟩
  rw [found, delivered]
  apply told.record
  · intro other otherOwned
    cases otherOwned
  · have current := told.present owned info present
    rw [queued] at current
    exact current.start

/-- The followers of a failed task are told so. -/
theorem failDependentTasks_told {taskIds : List TaskId} (distinct : taskIds.Nodup)
    (told : Told before manager.find manager.world)
    (waiting : ∀ id ∈ taskIds, ∃ info, manager.find id = some info ∧
      info.taskState = .created ∧ info.callback ≠ none) :
    Told before (taskIds.foldl (failDependentTask record) manager).find
      (taskIds.foldl (failDependentTask record) manager).world := by
  induction taskIds generalizing manager with
  | nil => exact told
  | cons taskId rest inductionHypothesis =>
      rw [List.nodup_cons] at distinct
      obtain ⟨info, present, created, callable⟩ := waiting taskId (List.mem_cons_self ..)
      obtain ⟨callback, owned⟩ := Option.ne_none_iff_exists'.mp callable
      have label := told.labelled taskId info callback present owned
      subst label
      have delivered : (manager.failDependentTask record callback).world =
          record callback (stateUpdate .dependentTaskFailed) manager.world := by
        simp [failDependentTask, signal, runCallback, present, owned, stateUpdate]
      apply inductionHypothesis distinct.2
      · rw [find_failDependentTask, delivered, present, Option.map_some]
        apply told.record
        · intro other otherOwned
          exact told.labelled callback info other present otherOwned
        · have current := told.present callback info present
          rw [created] at current
          exact current.abandon
      · intro id member
        have apart : id ≠ callback := fun same => distinct.1 (same ▸ member)
        rw [find_failDependentTask, Function.update_of_ne apart]
        exact waiting id (List.mem_cons_of_mem _ member)

/-- The followers a finished task releases are told when they are queued. -/
theorem releaseFollowing_told {workerThread : StatusOr Unit} {callback : Option TaskId}
    {taskId : TaskId} {following : List TaskId}
    (told : Told before manager.find manager.world)
    (released : manager.releaseFollowing record workerThread callback taskId following =
      (.ok (), next)) :
    Told before next.find next.world := by
  induction following generalizing manager with
  | nil =>
      cases released
      exact told
  | cons followingTaskId rest inductionHypothesis =>
      unfold releaseFollowing at released
      rcases checked : manager.confirmTaskState record followingTaskId .created true with
        ⟨failure | _, confirmed⟩
      · simp [checked] at released
      · obtain ⟨rfl, info, present, -, -⟩ := confirmTaskState_ok record checked
        simp only [checked, present] at released
        have erased : Told before (confirmed.modify followingTaskId fun info =>
              { info with dependentTasks := info.dependentTasks.erase taskId }).find
            (confirmed.modify followingTaskId fun info =>
              { info with dependentTasks := info.dependentTasks.erase taskId }).world := by
          rw [world_modify]
          refine told.of_same fun id => ?_
          rw [find_modify, Function.update_apply]
          split_ifs with same
          · rw [same, Option.map_map]
            rfl
          · rfl
        split at released
        · cases released
        · split at released
          · split at released
            · cases released
            next queuedManager queueing =>
              exact inductionHypothesis (queueTask_told erased queueing) released
          · exact inductionHypothesis erased released

/-- The end of the running task is delivered to the callback the worker holds. -/
theorem endTask_told {taskId : TaskId} {taskState : TaskState}
    {responses : StatusOr (Responses Score)} {info : TaskInfo Body TaskId}
    (told : Told before manager.find manager.world) (present : manager.find taskId = some info)
    (agrees : ProtocolAt taskState (manager.world taskId ++ [responses])) :
    Told before
      ((manager.runCallback record (some taskId) responses).setTaskState taskId taskState).find
      ((manager.runCallback record (some taskId) responses).setTaskState taskId
        taskState).world := by
  rw [find_setTaskState, find_runCallback, present, Option.map_some, world_setTaskState]
  apply told.record
  · intro callback owned
    exact told.labelled taskId info callback present owned
  · exact agrees

end Keeping

end Manager

end LiteRTLM.Framework.ExecutionManager
