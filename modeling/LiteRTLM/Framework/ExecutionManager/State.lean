import Mathlib.Data.List.AList
import Mathlib.Data.Finset.Basic
import Mathlib.Data.List.Sort
import LiteRTLM.Engine.IoTypes
import LiteRTLM.Framework.ThreadPool

/-!
Contract: the state of `ExecutionManager` that its scheduling reads and writes.

A task's callback is an opaque value. Invoking it happens under the manager's
mutex, which is not reentrant, so it cannot call back into the manager: its
whole effect is on the state of the outside world, through `invoke`.

Owns: `TaskInfo`, the task lookup with its frame lemmas, hash-set iteration
orders, `ConfirmTaskState`, and the condition of `WaitUntilDone`.

Does not own: the executors, the tokenizer and the sampler a task body uses.
-/

namespace LiteRTLM.Framework.ExecutionManager

open LiteRTLM.Engine

abbrev TaskId := Int

/-- All the information about a task. A null function object is `none`. -/
structure TaskInfo (Body Callback : Type) where
  task : Option Body := none
  taskState : TaskState := .unknown
  dependentTasks : Finset TaskId := ∅
  followingTasks : Finset TaskId := ∅
  callback : Option Callback := none

/-- An order in which `absl::flat_hash_set` may be iterated. The set's owner is
an argument because two equal sets need not be iterated in the same order. -/
structure HashOrder where
  order : TaskId → Finset TaskId → List TaskId
  mem_order : ∀ owner set id, id ∈ order owner set ↔ id ∈ set
  nodup_order : ∀ owner set, (order owner set).Nodup

def ascendingOrder (set : Finset TaskId) : List TaskId :=
  set.val.liftOn (List.insertionSort (· ≤ ·)) fun _ _ perm =>
    List.Perm.eq_of_pairwise' (List.pairwise_insertionSort _ _)
      (List.pairwise_insertionSort _ _)
      ((List.perm_insertionSort _ _).trans (perm.trans (List.perm_insertionSort _ _).symm))

theorem ascendingOrder_coe (set : Finset TaskId) :
    ↑(ascendingOrder set) = set.val := by
  obtain ⟨members, distinct⟩ := set
  induction members using Quot.inductionOn with
  | h list => exact Multiset.coe_eq_coe.mpr (List.perm_insertionSort _ list)

/-- Ascending iteration, one of the orders a hash set may have. -/
def HashOrder.ascending : HashOrder where
  order := fun _ set => ascendingOrder set
  mem_order := fun _ set id => by
    rw [← Multiset.mem_coe, ascendingOrder_coe, Finset.mem_val]
  nodup_order := fun _ set => by
    rw [← Multiset.coe_nodup, ascendingOrder_coe]
    exact set.nodup

/-- `ExecutionManager`, together with the outside world its callbacks act on. -/
structure Manager (Body Callback World : Type) where
  taskLookup : AList (fun _ : TaskId => TaskInfo Body Callback)
  executionThreadPool : ThreadPool TaskId
  nextTaskId : TaskId
  world : World

namespace Manager

variable {Body Callback World Score : Type}

/-- The manager `Create` returns: no tasks, and a pool with a single worker
thread at most. -/
def create (world : World) : Manager Body Callback World where
  taskLookup := ∅
  executionThreadPool := ThreadPool.create "execution_thread_pool" 1
  nextTaskId := 0
  world := world

def getNewTaskId (manager : Manager Body Callback World) :
    TaskId × Manager Body Callback World :=
  (manager.nextTaskId, { manager with nextTaskId := manager.nextTaskId + 1 })

/-- `task_lookup_.find(task_id)`. -/
def find (manager : Manager Body Callback World) (taskId : TaskId) :
    Option (TaskInfo Body Callback) :=
  manager.taskLookup.lookup taskId

/-- Write one entry of `task_lookup_`. -/
def put (manager : Manager Body Callback World) (taskId : TaskId)
    (info : TaskInfo Body Callback) : Manager Body Callback World :=
  { manager with taskLookup := manager.taskLookup.insert taskId info }

/-- Update the entry `task_lookup_.at(task_id)`. -/
def modify (manager : Manager Body Callback World) (taskId : TaskId)
    (update : TaskInfo Body Callback → TaskInfo Body Callback) :
    Manager Body Callback World :=
  match manager.find taskId with
  | none => manager
  | some info => manager.put taskId (update info)

/-- `task_lookup_.at(task_id).task_state = task_state`. -/
def setTaskState (manager : Manager Body Callback World) (taskId : TaskId)
    (taskState : TaskState) : Manager Body Callback World :=
  manager.modify taskId fun info => { info with taskState }

/-! ## Reading the lookup after a write -/

@[simp] theorem find_put (manager : Manager Body Callback World) (taskId : TaskId)
    (info : TaskInfo Body Callback) :
    (manager.put taskId info).find = Function.update manager.find taskId (some info) := by
  funext other
  by_cases same : other = taskId
  · subst same
    rw [Function.update_self]
    exact AList.lookup_insert _
  · rw [Function.update_of_ne same]
    exact AList.lookup_insert_ne same

@[simp] theorem find_modify (manager : Manager Body Callback World) (taskId : TaskId)
    (update : TaskInfo Body Callback → TaskInfo Body Callback) :
    (manager.modify taskId update).find =
      Function.update manager.find taskId ((manager.find taskId).map update) := by
  unfold modify
  cases present : manager.find taskId with
  | none => rw [Option.map_none, ← present, Function.update_eq_self, present]
  | some info => exact manager.find_put taskId _

@[simp] theorem find_setTaskState (manager : Manager Body Callback World) (taskId : TaskId)
    (taskState : TaskState) :
    (manager.setTaskState taskId taskState).find =
      Function.update manager.find taskId
        ((manager.find taskId).map fun info => { info with taskState }) :=
  manager.find_modify taskId _

@[simp] theorem pool_modify (manager : Manager Body Callback World) (taskId : TaskId)
    (update : TaskInfo Body Callback → TaskInfo Body Callback) :
    (manager.modify taskId update).executionThreadPool = manager.executionThreadPool := by
  unfold modify
  cases manager.find taskId <;> rfl

@[simp] theorem pool_setTaskState (manager : Manager Body Callback World) (taskId : TaskId)
    (taskState : TaskState) :
    (manager.setTaskState taskId taskState).executionThreadPool =
      manager.executionThreadPool :=
  manager.pool_modify taskId _

@[simp] theorem pool_put (manager : Manager Body Callback World) (taskId : TaskId)
    (info : TaskInfo Body Callback) :
    (manager.put taskId info).executionThreadPool = manager.executionThreadPool :=
  rfl

@[simp] theorem find_withPool (manager : Manager Body Callback World)
    (executionThreadPool : ThreadPool TaskId) :
    ({ manager with executionThreadPool } : Manager _ _ _).find = manager.find :=
  rfl

/-! ## Callbacks and state checks -/

section Callbacks

variable (invoke : Callback → StatusOr (Responses Score) → World → World)

/-- Invoke a callback object; a null one is never invoked by the code. -/
def runCallback (callback : Option Callback) (responses : StatusOr (Responses Score))
    (manager : Manager Body Callback World) : Manager Body Callback World :=
  match callback with
  | none => manager
  | some callback => { manager with world := invoke callback responses manager.world }

/-- `task_lookup_.at(task_id).callback(responses)`. -/
def signal (taskId : TaskId) (responses : StatusOr (Responses Score))
    (manager : Manager Body Callback World) : Manager Body Callback World :=
  manager.runCallback invoke ((manager.find taskId).bind TaskInfo.callback) responses

def confirmTaskState (taskId : TaskId) (expectedState : TaskState) (triggerCallback : Bool)
    (manager : Manager Body Callback World) :
    StatusOr Unit × Manager Body Callback World :=
  match manager.find taskId with
  | none =>
      (.error (.invalidArgumentError s!"Task {taskId} not found in task list."), manager)
  | some info =>
      if triggerCallback = true ∧ info.callback = none then
        (.error (.invalidArgumentError s!"Task {taskId} has null callback."), manager)
      else if info.taskState ≠ expectedState then
        let errorStatus : Status :=
          .invalidArgumentError s!"Task {taskId} is not in {expectedState} task_state."
        (.error errorStatus,
          if triggerCallback then manager.signal invoke taskId (.error errorStatus) else manager)
      else
        (.ok (), manager)

@[simp] theorem find_runCallback (callback : Option Callback)
    (responses : StatusOr (Responses Score)) (manager : Manager Body Callback World) :
    (manager.runCallback invoke callback responses).find = manager.find := by
  cases callback <;> rfl

@[simp] theorem pool_runCallback (callback : Option Callback)
    (responses : StatusOr (Responses Score)) (manager : Manager Body Callback World) :
    (manager.runCallback invoke callback responses).executionThreadPool =
      manager.executionThreadPool := by
  cases callback <;> rfl

@[simp] theorem find_signal (taskId : TaskId) (responses : StatusOr (Responses Score))
    (manager : Manager Body Callback World) :
    (manager.signal invoke taskId responses).find = manager.find :=
  find_runCallback ..

@[simp] theorem pool_signal (taskId : TaskId) (responses : StatusOr (Responses Score))
    (manager : Manager Body Callback World) :
    (manager.signal invoke taskId responses).executionThreadPool =
      manager.executionThreadPool :=
  pool_runCallback ..

/-- A confirmed state changes nothing. -/
theorem confirmTaskState_ok {taskId : TaskId} {expectedState : TaskState}
    {triggerCallback : Bool} {manager next : Manager Body Callback World}
    (confirmed : manager.confirmTaskState invoke taskId expectedState triggerCallback =
      (.ok (), next)) :
    next = manager ∧ ∃ info, manager.find taskId = some info ∧
      info.taskState = expectedState ∧ (triggerCallback = true → info.callback ≠ none) := by
  unfold confirmTaskState at confirmed
  cases present : manager.find taskId with
  | none => simp [present] at confirmed
  | some info =>
      simp only [present] at confirmed
      split at confirmed
      · cases confirmed
      next callable =>
        split at confirmed
        · cases confirmed
        next expected =>
          cases confirmed
          refine ⟨rfl, info, rfl, not_not.mp expected, ?_⟩
          intro triggers missing
          exact callable ⟨triggers, missing⟩

/-- A state check touches neither the lookup nor the pool. -/
theorem confirmTaskState_frame {taskId : TaskId} {expectedState : TaskState}
    {triggerCallback : Bool} {manager next : Manager Body Callback World}
    {status : StatusOr Unit}
    (checked : manager.confirmTaskState invoke taskId expectedState triggerCallback =
      (status, next)) :
    next.find = manager.find ∧ next.executionThreadPool = manager.executionThreadPool := by
  unfold confirmTaskState at checked
  cases present : manager.find taskId with
  | none =>
      simp only [present] at checked
      cases checked
      exact ⟨rfl, rfl⟩
  | some info =>
      simp only [present] at checked
      split_ifs at checked <;> cases checked <;> simp

/-- The check succeeds on a task in the expected state that still owns its
callback. -/
theorem confirmTaskState_of_find {taskId : TaskId} {expectedState : TaskState}
    {triggerCallback : Bool} {manager : Manager Body Callback World}
    {info : TaskInfo Body Callback} (present : manager.find taskId = some info)
    (expected : info.taskState = expectedState)
    (callable : triggerCallback = true → info.callback ≠ none) :
    manager.confirmTaskState invoke taskId expectedState triggerCallback =
      (.ok (), manager) := by
  unfold confirmTaskState
  simp only [present]
  rw [if_neg (fun missing => callable missing.1 missing.2), if_neg (not_not.mpr expected)]

end Callbacks

/-! ## Waiting -/

/-- The condition `WaitUntilDone` awaits. -/
def taskDone (manager : Manager Body Callback World) (taskId : TaskId) : Bool :=
  match manager.find taskId with
  | none => false
  | some info =>
      info.taskState = .done || info.taskState = .failed ||
        info.taskState = .dependentTaskFailed

/-- `WaitUntilDone`, evaluated in the state in which the wait ends. -/
def waitUntilDone (manager : Manager Body Callback World) (taskId : TaskId)
    (timeout : String) : StatusOr Unit :=
  if manager.taskDone taskId then
    .ok ()
  else
    .error (.deadlineExceededError
      s!"Task {taskId} did not complete within the timeout of {timeout}.")

/-- Every state the wait accepts is an end state. -/
theorem isTaskEndState_of_taskDone {manager : Manager Body Callback World} {taskId : TaskId}
    (isDone : manager.taskDone taskId = true) :
    ∃ info, manager.find taskId = some info ∧ isTaskEndState info.taskState = true := by
  unfold taskDone at isDone
  cases present : manager.find taskId with
  | none => simp [present] at isDone
  | some info =>
      refine ⟨info, rfl, ?_⟩
      simp only [present, Bool.or_eq_true, decide_eq_true_eq] at isDone
      simp only [isTaskEndState, Bool.or_eq_true, decide_eq_true_eq]
      tauto

end Manager

end LiteRTLM.Framework.ExecutionManager
