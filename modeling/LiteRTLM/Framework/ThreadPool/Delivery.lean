import LiteRTLM.Framework.ThreadPool.System
import Mathlib.Data.List.Perm.Basic
import Mathlib.Tactic

/-!
Contract: what a thread pool does with the callbacks it accepts.

Owns: the invariant of the pool and its workers, delivery in every reachable state,
and that the workers finish.

Does not own: the machine.
-/

namespace LiteRTLM.Framework.ThreadPool

open LiteRTLM.Engine
open LiteRTLM.Library

namespace System

variable {Callback : Type} {system next : System Callback}

/-! ## Replacing one worker -/

/-- A worker splits the list of workers; replacing it keeps what is around it. -/
theorem exists_split {workers : List (WorkerThread Callback)} {worker : Nat}
    {old : WorkerThread Callback} (found : workers[worker]? = some old) :
    ∃ before after, workers = before ++ old :: after ∧
      ∀ new, workers.set worker new = before ++ new :: after := by
  obtain ⟨valid, rfl⟩ := List.getElem?_eq_some_iff.mp found
  refine ⟨workers.take worker, workers.drop (worker + 1), ?_, ?_⟩
  · rw [← List.drop_eq_getElem_cons valid, List.take_append_drop]
  · intro new
    rw [List.set_eq_take_append_cons_drop, if_pos valid]

/-- What the workers hold, split at one of them. -/
theorem flatMap_split {workers : List (WorkerThread Callback)} {worker : Nat}
    {old : WorkerThread Callback} (found : workers[worker]? = some old)
    (part : WorkerThread Callback → List Callback) :
    ∃ before after, workers.flatMap part = before ++ (part old ++ after) ∧
      ∀ new, (workers.set worker new).flatMap part = before ++ (part new ++ after) := by
  obtain ⟨before, after, split, replaced⟩ := exists_split found
  refine ⟨before.flatMap part, after.flatMap part, ?_, ?_⟩
  · rw [split, List.flatMap_append, List.flatMap_cons]
  · intro new
    rw [replaced, List.flatMap_append, List.flatMap_cons]

/-- A part that a worker's step leaves alone. -/
theorem flatMap_set_of_eq {workers : List (WorkerThread Callback)} {worker : Nat}
    {old : WorkerThread Callback} (found : workers[worker]? = some old)
    (new : WorkerThread Callback) {part : WorkerThread Callback → List Callback}
    (same : part new = part old) :
    (workers.set worker new).flatMap part = workers.flatMap part := by
  obtain ⟨before, after, split, replaced⟩ := flatMap_split found part
  rw [split, replaced, same]

/-- Replacing a worker changes the sum of the active callbacks by its own part. -/
theorem sum_activeTasks_set {workers : List (WorkerThread Callback)} {worker : Nat}
    {old : WorkerThread Callback} (found : workers[worker]? = some old)
    (new : WorkerThread Callback) (count : WorkerThread Callback → Nat) :
    ((workers.set worker new).map count).sum + count old =
      (workers.map count).sum + count new := by
  obtain ⟨before, after, split, replaced⟩ := exists_split found
  rw [replaced, split]
  simp only [List.map_append, List.map_cons, List.sum_append, List.sum_cons]
  omega

/-- A worker that is the only one. -/
theorem flatMap_single {workers : List (WorkerThread Callback)} {worker : Nat}
    {old : WorkerThread Callback} (found : workers[worker]? = some old)
    (single : workers.length ≤ 1) (part : WorkerThread Callback → List Callback) :
    workers.flatMap part = part old ∧
      ∀ new, (workers.set worker new).flatMap part = part new := by
  obtain ⟨before, after, split, replaced⟩ := exists_split found
  rw [split, List.length_append, List.length_cons] at single
  have noneBefore : before = [] := List.length_eq_zero_iff.mp (by omega)
  have noneAfter : after = [] := List.length_eq_zero_iff.mp (by omega)
  refine ⟨?_, fun new => ?_⟩
  · simp [split, noneBefore, noneAfter]
  · simp [replaced, noneBefore, noneAfter]

/-- The callbacks taken and not started. -/
def inHand (system : System Callback) : List Callback :=
  system.workers.flatMap WorkerThread.inHand

/-- The callbacks started and not returned. -/
def executing (system : System Callback) : List Callback :=
  system.workers.flatMap WorkerThread.executing

/-! ## The invariant -/

/-- There is a worker for every queued callback, and the pool knows its workers. -/
structure Staffed (system : System Callback) : Prop where
  limit : 0 < system.pool.maxNumThreads
  workers_le : system.workers.length ≤ system.pool.maxNumThreads
  served : system.pool.tasks ≠ [] → system.workers ≠ []
  stopped : .stopped ∈ system.workers → system.pool.stopped = true ∧ system.pool.tasks = []
  threads : system.destructor = .notCalled →
    system.pool.stopped = false ∧ system.pool.numThreads = system.workers.length
  joined : ∀ threadsToJoin, system.destructor = .joining threadsToJoin →
    system.pool.stopped = true ∧ system.pool.numThreads = 0 ∧
      ∀ worker < system.workers.length, worker ∉ threadsToJoin →
        system.workers[worker]? = some .stopped

/-- Every callback is in exactly one place, and the active callbacks are counted. -/
structure Delivering (system : System Callback) : Prop extends Staffed system where
  queue : system.taken ++ system.pool.tasks = system.accepted
  hands : (system.inHand ++ system.started).Perm system.taken
  bodies : (system.executing ++ system.finished).Perm system.started
  alone : system.workers.length ≤ 1 → system.started ++ system.inHand = system.taken
  active : system.pool.numActiveTasks = (system.workers.map WorkerThread.activeTasks).sum

theorem delivering_create (namePrefix : String) (maxNumThreads : Nat) :
    (create namePrefix maxNumThreads : System Callback).Delivering := by
  constructor
  · constructor <;> simp [create, ThreadPool.create]
    split <;> omega
  all_goals simp [create, ThreadPool.create, inHand, executing]

/-! ## Callers -/

/-- A pool that accepts a callback is not stopped, and stays within its maximum. -/
theorem running_of_schedule {workerThread : StatusOr Unit} {callback : Callback}
    {pool after : ThreadPool Callback}
    (scheduled : pool.schedule workerThread callback = .ok after) :
    pool.stopped = false ∧ (pool.numThreads ≤ pool.maxNumThreads →
      after.numThreads ≤ pool.maxNumThreads) := by
  unfold ThreadPool.schedule at scheduled
  split at scheduled
  · cases scheduled
  next running =>
  refine ⟨by simpa using running, fun within => ?_⟩
  split at scheduled
  next room =>
    cases workerThread with
    | ok _ =>
        cases scheduled
        exact room.1
    | error status =>
        simp only at scheduled
        split at scheduled
        · cases scheduled
        · cases scheduled
          exact within
  · cases scheduled
    exact within

/-- New workers wait: they hold nothing and run nothing. -/
theorem flatMap_append_waiting (workers : List (WorkerThread Callback)) (count : Nat)
    {part : WorkerThread Callback → List Callback} (nothing : part .waiting = []) :
    (workers ++ List.replicate count WorkerThread.waiting).flatMap part = workers.flatMap part := by
  simp [nothing]

theorem Delivering.schedule (delivering : system.Delivering) (workerThread : StatusOr Unit)
    (callback : Callback) : (system.schedule workerThread callback).Delivering := by
  unfold System.schedule
  cases scheduled : system.pool.schedule workerThread callback with
  | error status => exact delivering
  | ok pool =>
      obtain ⟨tasks, same⟩ := schedule_ok scheduled
      obtain ⟨running, bounded⟩ := running_of_schedule scheduled
      have worker := schedule_worker scheduled delivering.limit
      have notCalled : system.destructor = .notCalled := by
        cases called : system.destructor with
        | notCalled => rfl
        | joining threadsToJoin =>
            rw [(delivering.joined _ called).1] at running
            cases running
      have threads := (delivering.threads notCalled).2
      have more := same.numThreads
      have within := bounded (threads.trans_le delivering.workers_le)
      have length : (system.workers ++ List.replicate
          (pool.numThreads - system.pool.numThreads) WorkerThread.waiting).length =
            pool.numThreads := by
        rw [List.length_append, List.length_replicate]
        omega
      refine ⟨⟨?limit, ?workersLe, ?served, ?stopped, ?threads, ?joined⟩, ?queue, ?hands, ?bodies,
        ?alone, ?active⟩ <;> dsimp only
      case limit => exact delivering.limit.trans_eq same.maxNumThreads.symm
      case workersLe => exact length.trans_le (within.trans_eq same.maxNumThreads.symm)
      case served =>
        intro _ empty
        rw [empty, List.length_nil] at length
        omega
      case stopped =>
        intro member
        have old : .stopped ∈ system.workers := by simpa using member
        rw [(delivering.stopped old).1] at running
        cases running
      case threads => exact fun _ => ⟨same.stopped.trans running, length.symm⟩
      case joined =>
        intro threadsToJoin called
        rw [notCalled] at called
        cases called
      case queue =>
        simp only [tasks]
        rw [← List.append_assoc, delivering.queue]
      case hands =>
        rw [inHand, flatMap_append_waiting _ _ rfl]
        exact delivering.hands
      case bodies =>
        rw [executing, flatMap_append_waiting _ _ rfl]
        exact delivering.bodies
      case alone =>
        intro single
        rw [List.length_append] at single
        rw [inHand, flatMap_append_waiting _ _ rfl]
        exact delivering.alone (by omega)
      case active =>
        simp only [List.map_append, List.sum_append, List.map_replicate, WorkerThread.activeTasks,
          List.sum_replicate, smul_zero, Nat.add_zero]
        rw [same.numActiveTasks, delivering.active]

/-! ## The workers -/

/-- A callback joins both sides. -/
theorem perm_take {before after all : List Callback} {callback : Callback}
    (same : (before ++ after).Perm all) : (before ++ callback :: after).Perm (all ++ [callback]) :=
  List.perm_middle.trans ((same.cons callback).trans (List.perm_append_singleton callback all).symm)

/-- A callback moves to the end. -/
theorem perm_pass {before after all : List Callback} {callback : Callback}
    (same : (before ++ callback :: after).Perm all) :
    (before ++ (after ++ [callback])).Perm all := by
  rw [← List.append_assoc]
  exact (List.perm_append_singleton callback _).trans (List.perm_middle.symm.trans same)

/-- A worker that had not stopped takes its next step. -/
structure Replaced (system next : System Callback) (worker : Nat)
    (old new : WorkerThread Callback) : Prop where
  found : system.workers[worker]? = some old
  running : old ≠ .stopped
  workers : next.workers = system.workers.set worker new
  destructor : next.destructor = system.destructor
  maxNumThreads : next.pool.maxNumThreads = system.pool.maxNumThreads
  numThreads : next.pool.numThreads = system.pool.numThreads
  stopped : next.pool.stopped = system.pool.stopped
  tasks : next.pool.tasks <:+ system.pool.tasks
  stopping : new = .stopped → system.pool.stopped = true ∧ system.pool.tasks = []

theorem Staffed.replaced (staffed : system.Staffed) {worker : Nat}
    {old : WorkerThread Callback} (new : WorkerThread Callback)
    (replaced : Replaced system next worker old new) : next.Staffed := by
  have length : next.workers.length = system.workers.length := by
    rw [replaced.workers, List.length_set]
  have emptied : system.pool.tasks = [] → next.pool.tasks = [] := by
    intro empty
    have shorter := replaced.tasks
    rw [empty] at shorter
    exact List.suffix_nil.mp shorter
  constructor
  case limit => exact staffed.limit.trans_eq replaced.maxNumThreads.symm
  case workers_le =>
    rw [length, replaced.maxNumThreads]
    exact staffed.workers_le
  case served =>
    intro queued empty
    rw [empty, List.length_nil] at length
    exact staffed.served (fun none => queued (emptied none)) (List.length_eq_zero_iff.mp length.symm)
  case stopped =>
    intro member
    rw [replaced.workers] at member
    rw [replaced.stopped]
    rcases List.mem_or_eq_of_mem_set member with old | new
    · exact (staffed.stopped old).imp_right emptied
    · exact (replaced.stopping new.symm).imp_right emptied
  case threads =>
    rw [replaced.destructor, replaced.stopped, replaced.numThreads, length]
    exact staffed.threads
  case joined =>
    intro threadsToJoin called
    rw [replaced.destructor] at called
    obtain ⟨stopped, threads, finished⟩ := staffed.joined threadsToJoin called
    refine ⟨replaced.stopped.trans stopped, replaced.numThreads.trans threads, ?_⟩
    intro other valid notListed
    have otherStopped := finished other (by omega) notListed
    rw [replaced.workers, List.getElem?_set_ne]
    · exact otherStopped
    · rintro rfl
      rw [replaced.found] at otherStopped
      exact replaced.running (Option.some.inj otherStopped)

theorem Delivering.awaitTask (delivering : system.Delivering) {worker : Nat}
    (steps : system.awaitTask worker = some next) : next.Delivering := by
  unfold System.awaitTask at steps
  split at steps
  next callback rest found queued =>
    have shorter : rest <:+ system.pool.tasks := by
      rw [queued]
      exact List.suffix_cons callback rest
    cases steps
    refine ⟨delivering.toStaffed.replaced (.holding callback)
        ⟨found, by simp, rfl, rfl, rfl, rfl, rfl, shorter, by simp⟩, ?queue, ?hands, ?bodies, ?alone, ?active⟩ <;> dsimp only
    case queue =>
      rw [← delivering.queue, queued, List.append_assoc, List.singleton_append]
    case hands =>
      obtain ⟨before, after, split, splitNew⟩ := flatMap_split found WorkerThread.inHand
      have hands := delivering.hands
      rw [inHand, split, List.append_assoc] at hands
      rw [inHand, splitNew, List.append_assoc]
      exact perm_take hands
    case bodies =>
      rw [executing, flatMap_set_of_eq found (.holding callback) rfl]
      exact delivering.bodies
    case alone =>
      intro single
      rw [List.length_set] at single
      obtain ⟨only, onlyNew⟩ := flatMap_single found single WorkerThread.inHand
      have alone := delivering.alone single
      rw [inHand, only] at alone
      rw [inHand, onlyNew, ← alone]
      simp [WorkerThread.inHand]
    case active =>
      have counted := sum_activeTasks_set found (.holding callback) WorkerThread.activeTasks
      have active := delivering.active
      simp only [WorkerThread.activeTasks] at counted
      omega
  next found queued =>
    split at steps
    next stopped =>
      cases steps
      refine ⟨delivering.toStaffed.replaced .stopped
          ⟨found, by simp, rfl, rfl, rfl, rfl, rfl, List.suffix_rfl, fun _ => ⟨stopped, queued⟩⟩, delivering.queue, ?hands, ?bodies, ?alone,
        ?active⟩ <;> dsimp only
      case hands =>
        rw [inHand, flatMap_set_of_eq found .stopped rfl]
        exact delivering.hands
      case bodies =>
        rw [executing, flatMap_set_of_eq found .stopped rfl]
        exact delivering.bodies
      case alone =>
        intro single
        rw [List.length_set] at single
        rw [inHand, flatMap_set_of_eq found .stopped rfl]
        exact delivering.alone single
      case active =>
        have counted := sum_activeTasks_set found .stopped WorkerThread.activeTasks
        have active := delivering.active
        simp only [WorkerThread.activeTasks] at counted
        omega
    · cases steps
  · cases steps

theorem Delivering.runTask (delivering : system.Delivering) {worker : Nat}
    (steps : system.runTask worker = some next) : next.Delivering := by
  unfold System.runTask at steps
  split at steps
  next callback found =>
    cases steps
    refine ⟨delivering.toStaffed.replaced (.running callback)
        ⟨found, by simp, rfl, rfl, rfl, rfl, rfl, List.suffix_rfl, by simp⟩, delivering.queue, ?hands, ?bodies, ?alone,
      ?active⟩ <;> dsimp only
    case hands =>
      obtain ⟨before, after, split, splitNew⟩ := flatMap_split found WorkerThread.inHand
      have hands := delivering.hands
      rw [inHand, split, List.append_assoc] at hands
      have passed : (before ++ ((after ++ system.started) ++ [callback])).Perm system.taken :=
        perm_pass hands
      simpa [inHand, splitNew, WorkerThread.inHand] using passed
    case bodies =>
      obtain ⟨before, after, split, splitNew⟩ := flatMap_split found WorkerThread.executing
      have bodies := delivering.bodies
      rw [executing, split, List.append_assoc] at bodies
      rw [executing, splitNew, List.append_assoc]
      exact perm_take bodies
    case alone =>
      intro single
      rw [List.length_set] at single
      obtain ⟨only, onlyNew⟩ := flatMap_single found single WorkerThread.inHand
      have alone := delivering.alone single
      rw [inHand, only] at alone
      rw [inHand, onlyNew, ← alone]
      simp [WorkerThread.inHand]
    case active =>
      have counted := sum_activeTasks_set found (.running callback) WorkerThread.activeTasks
      have active := delivering.active
      simp only [WorkerThread.activeTasks] at counted
      omega
  · cases steps

theorem Delivering.taskReturns (delivering : system.Delivering) {worker : Nat}
    (steps : system.taskReturns worker = some next) : next.Delivering := by
  unfold System.taskReturns at steps
  split at steps
  next callback found =>
    cases steps
    refine ⟨delivering.toStaffed.replaced .returned
        ⟨found, by simp, rfl, rfl, rfl, rfl, rfl, List.suffix_rfl, by simp⟩, delivering.queue, ?hands, ?bodies, ?alone,
      ?active⟩ <;> dsimp only
    case hands =>
      rw [inHand, flatMap_set_of_eq found .returned rfl]
      exact delivering.hands
    case bodies =>
      obtain ⟨before, after, split, splitNew⟩ := flatMap_split found WorkerThread.executing
      have bodies := delivering.bodies
      rw [executing, split, List.append_assoc] at bodies
      have passed : (before ++ ((after ++ system.finished) ++ [callback])).Perm system.started :=
        perm_pass bodies
      simpa [executing, splitNew, WorkerThread.executing] using passed
    case alone =>
      intro single
      rw [List.length_set] at single
      rw [inHand, flatMap_set_of_eq found .returned rfl]
      exact delivering.alone single
    case active =>
      have counted := sum_activeTasks_set found .returned WorkerThread.activeTasks
      have active := delivering.active
      simp only [WorkerThread.activeTasks] at counted
      omega
  · cases steps

theorem Delivering.relock (delivering : system.Delivering) {worker : Nat}
    (steps : system.relock worker = some next) : next.Delivering := by
  unfold System.relock at steps
  split at steps
  next found =>
    cases steps
    refine ⟨delivering.toStaffed.replaced .waiting
        ⟨found, by simp, rfl, rfl, rfl, rfl, rfl, List.suffix_rfl, by simp⟩, delivering.queue, ?hands, ?bodies, ?alone,
      ?active⟩ <;> dsimp only
    case hands =>
      rw [inHand, flatMap_set_of_eq found .waiting rfl]
      exact delivering.hands
    case bodies =>
      rw [executing, flatMap_set_of_eq found .waiting rfl]
      exact delivering.bodies
    case alone =>
      intro single
      rw [List.length_set] at single
      rw [inHand, flatMap_set_of_eq found .waiting rfl]
      exact delivering.alone single
    case active =>
      have counted := sum_activeTasks_set found .waiting WorkerThread.activeTasks
      have active := delivering.active
      simp only [WorkerThread.activeTasks] at counted
      dsimp only [completeTask]
      omega
  · cases steps

/-! ## The destructor -/

theorem Delivering.stop (delivering : system.Delivering) (steps : system.stop = some next) :
    next.Delivering := by
  unfold System.stop at steps
  split at steps
  next notCalled =>
    cases steps
    have notStopped : .stopped ∉ system.workers := by
      intro member
      have running := (delivering.threads notCalled).1
      rw [(delivering.stopped member).1] at running
      cases running
    refine ⟨⟨delivering.limit, delivering.workers_le, delivering.served, ?stopped, ?threads,
      ?joined⟩, delivering.queue, delivering.hands, delivering.bodies, delivering.alone,
      delivering.active⟩
    case stopped => exact fun member => absurd member notStopped
    case threads => exact fun called => by cases called
    case joined =>
      intro threadsToJoin called
      cases called
      refine ⟨rfl, rfl, ?_⟩
      intro worker valid notListed
      exact absurd (List.mem_range.mpr valid) notListed
  · cases steps

theorem Delivering.join (delivering : system.Delivering) (steps : system.join = some next) :
    next.Delivering := by
  unfold System.join at steps
  split at steps
  next worker rest joining =>
    split at steps
    next found =>
      cases steps
      obtain ⟨stopped, threads, finished⟩ := delivering.joined _ joining
      refine ⟨⟨delivering.limit, delivering.workers_le, delivering.served, delivering.stopped,
        ?threads, ?joined⟩, delivering.queue, delivering.hands, delivering.bodies,
        delivering.alone, delivering.active⟩
      case threads => exact fun called => by cases called
      case joined =>
        intro threadsToJoin called
        cases called
        refine ⟨stopped, threads, ?_⟩
        intro other valid notListed
        by_cases isJoined : other = worker
        · rw [isJoined]
          exact found
        · exact finished other valid (by simp [isJoined, notListed])
    · cases steps
  · cases steps

theorem Delivering.step (delivering : system.Delivering) {action : Action Callback}
    (steps : system.step action = some next) : next.Delivering := by
  cases action with
  | schedule workerThread callback =>
      cases steps
      exact delivering.schedule workerThread callback
  | awaitTask worker => exact delivering.awaitTask steps
  | runTask worker => exact delivering.runTask steps
  | taskReturns worker => exact delivering.taskReturns steps
  | relock worker => exact delivering.relock steps
  | stop => exact delivering.stop steps
  | join => exact delivering.join steps

theorem delivering_of_reachable (reached : (machine Callback).Reachable system) :
    system.Delivering := by
  apply reached.invariant Delivering
  · rintro _ ⟨namePrefix, maxNumThreads, rfl⟩
    exact delivering_create namePrefix maxNumThreads
  · exact fun _ _ _ delivering _ steps => delivering.step steps

/-! ## Termination of the workers -/

/-- How many steps the workers can take without a caller. -/
def work (system : System Callback) : Nat :=
  4 * system.pool.tasks.length + (system.workers.map WorkerThread.stepsLeft).sum

/-- Every worker step uses up work and accepts nothing. -/
theorem work_step {action : Action Callback} (isWorkerStep : action.isWorkerStep = true)
    (steps : system.step action = some next) :
    next.work < system.work ∧ next.accepted = system.accepted := by
  cases action with
  | awaitTask worker =>
      simp only [step, System.awaitTask] at steps
      split at steps
      next callback rest found queued =>
        cases steps
        have counted := sum_activeTasks_set found (.holding callback) WorkerThread.stepsLeft
        simp only [WorkerThread.stepsLeft] at counted
        refine ⟨?_, rfl⟩
        simp only [work, queued, List.length_cons]
        omega
      next found queued =>
        split at steps
        · cases steps
          have counted := sum_activeTasks_set found .stopped WorkerThread.stepsLeft
          simp only [WorkerThread.stepsLeft] at counted
          refine ⟨?_, rfl⟩
          simp only [work]
          omega
        · cases steps
      · cases steps
  | runTask worker =>
      simp only [step, System.runTask] at steps
      split at steps
      next callback found =>
        cases steps
        have counted := sum_activeTasks_set found (.running callback) WorkerThread.stepsLeft
        simp only [WorkerThread.stepsLeft] at counted
        refine ⟨?_, rfl⟩
        simp only [work]
        omega
      · cases steps
  | taskReturns worker =>
      simp only [step, System.taskReturns] at steps
      split at steps
      next callback found =>
        cases steps
        have counted := sum_activeTasks_set found .returned WorkerThread.stepsLeft
        simp only [WorkerThread.stepsLeft] at counted
        refine ⟨?_, rfl⟩
        simp only [work]
        omega
      · cases steps
  | relock worker =>
      simp only [step, System.relock] at steps
      split at steps
      next found =>
        cases steps
        have counted := sum_activeTasks_set found .waiting WorkerThread.stepsLeft
        simp only [WorkerThread.stepsLeft] at counted
        refine ⟨?_, rfl⟩
        simp only [work, completeTask]
        omega
      · cases steps
  | schedule workerThread callback => cases isWorkerStep
  | stop => cases isWorkerStep
  | join => cases isWorkerStep

/-- The workers cannot step for ever. -/
theorem work_execute {actions : List (Action Callback)}
    (workerSteps : ∀ action ∈ actions, action.isWorkerStep = true)
    (executed : (machine Callback).execute system actions = some next) :
    actions.length + next.work ≤ system.work ∧ next.accepted = system.accepted := by
  induction actions generalizing system with
  | nil =>
      cases executed
      simp
  | cons action rest hypothesis =>
      rw [Machine.execute] at executed
      cases steps : (machine Callback).step system action with
      | none => simp [steps] at executed
      | some between =>
          rw [steps] at executed
          obtain ⟨less, same⟩ := work_step (workerSteps action List.mem_cons_self) steps
          obtain ⟨bounded, sameRest⟩ := hypothesis
            (fun action member => workerSteps action (List.mem_cons_of_mem _ member)) executed
          refine ⟨?_, sameRest.trans same⟩
          rw [List.length_cons]
          omega

/-- When no worker can step, nothing is queued and no worker has a callback. -/
theorem Delivering.quiet (delivering : system.Delivering)
    (noStep : ∀ action : Action Callback, action.isWorkerStep = true → system.step action = none) :
    system.pool.tasks = [] ∧ ∀ worker ∈ system.workers, worker = .waiting ∨ worker = .stopped := by
  have noneBusy : ∀ worker ∈ system.workers, worker = .waiting ∨ worker = .stopped := by
    intro phase member
    obtain ⟨worker, found⟩ := List.mem_iff_getElem?.mp member
    cases phase with
    | waiting => exact .inl rfl
    | stopped => exact .inr rfl
    | holding callback =>
        have stuck := noStep (.runTask worker) rfl
        simp [System.step, System.runTask, found] at stuck
    | running callback =>
        have stuck := noStep (.taskReturns worker) rfl
        simp [System.step, System.taskReturns, found] at stuck
    | returned =>
        have stuck := noStep (.relock worker) rfl
        simp [System.step, System.relock, found] at stuck
  refine ⟨?_, noneBusy⟩
  by_contra queued
  obtain ⟨phase, member⟩ := List.exists_mem_of_ne_nil _ (delivering.served queued)
  obtain ⟨worker, found⟩ := List.mem_iff_getElem?.mp member
  rcases noneBusy phase member with rfl | rfl
  · obtain ⟨callback, rest, tasks⟩ := List.exists_cons_of_ne_nil queued
    have stuck := noStep (.awaitTask worker) rfl
    simp [System.step, System.awaitTask, found, tasks] at stuck
  · exact queued (delivering.stopped member).2

/-! ## Delivery -/

/-- Without active callbacks every accepted callback that is not queued has finished. -/
theorem Delivering.finished_perm (delivering : system.Delivering)
    (noTasks : system.pool.tasks = []) (noneActive : system.pool.numActiveTasks = 0) :
    system.finished.Perm system.accepted := by
  have idle : ∀ worker ∈ system.workers, worker.activeTasks = 0 := by
    rw [delivering.active, List.sum_eq_zero_iff] at noneActive
    exact fun worker member => noneActive _ (List.mem_map_of_mem member)
  have emptyHands : system.inHand = [] := by
    apply List.flatMap_eq_nil_iff.mpr
    intro worker member
    have isIdle := idle worker member
    cases worker <;> simp [WorkerThread.inHand, WorkerThread.activeTasks] at isIdle ⊢
  have emptyBodies : system.executing = [] := by
    apply List.flatMap_eq_nil_iff.mpr
    intro worker member
    have isIdle := idle worker member
    cases worker <;> simp [WorkerThread.executing, WorkerThread.activeTasks] at isIdle ⊢
  have hands := delivering.hands
  have bodies := delivering.bodies
  have queue := delivering.queue
  rw [emptyHands, List.nil_append] at hands
  rw [emptyBodies, List.nil_append] at bodies
  rw [noTasks, List.append_nil] at queue
  rw [← queue]
  exact bodies.trans hands

/-- What a pool guarantees in one state. -/
structure Delivered (system : System Callback) : Prop where
  /-- The number of workers is within the maximum. -/
  workers_le : system.workers.length ≤ system.pool.maxNumThreads
  /-- Every accepted callback is queued, in the hand of one worker, or started, once. -/
  startedOnce : (system.pool.tasks ++ system.inHand ++ system.started).Perm system.accepted
  /-- Every started callback runs or has finished, once. -/
  finishedOnce : (system.executing ++ system.finished).Perm system.started
  /-- Callbacks are taken from the queue in the order they were accepted. -/
  takenInOrder : system.taken ++ system.pool.tasks = system.accepted
  /-- A single thread also starts them in that order. -/
  startedInOrder : system.pool.maxNumThreads = 1 → system.started <+: system.accepted
  /-- While a callback is queued there is a worker that has not stopped. -/
  served : system.pool.tasks ≠ [] → ∃ worker ∈ system.workers, worker ≠ .stopped
  /-- `WaitUntilDone` returns OK only when every accepted callback has finished. -/
  doneFinished : system.pool.waitUntilDone = .ok () → system.finished.Perm system.accepted
  /-- After the joins the checks of the destructor hold, and the queue is empty. -/
  joined : system.destructor = .joining [] →
    system.pool.numThreads = 0 ∧ system.pool.numActiveTasks = 0 ∧ system.pool.tasks = [] ∧
      system.finished.Perm system.accepted

theorem Delivering.delivered (delivering : system.Delivering) : system.Delivered where
  workers_le := delivering.workers_le
  startedOnce := by
    have swapped : (system.pool.tasks ++ system.taken).Perm system.accepted := by
      rw [← delivering.queue]
      exact List.perm_append_comm
    rw [List.append_assoc]
    exact (delivering.hands.append_left _).trans swapped
  finishedOnce := delivering.bodies
  takenInOrder := delivering.queue
  startedInOrder single := by
    have alone := delivering.alone (single ▸ delivering.workers_le)
    refine ⟨system.inHand ++ system.pool.tasks, ?_⟩
    rw [← List.append_assoc, alone, delivering.queue]
  served queued := by
    obtain ⟨worker, member⟩ := List.exists_mem_of_ne_nil _ (delivering.served queued)
    refine ⟨worker, member, ?_⟩
    rintro rfl
    exact queued (delivering.stopped member).2
  doneFinished done := by
    have isDone : system.pool.isDone = true := by
      by_contra notDone
      simp [waitUntilDone, notDone] at done
    obtain ⟨noTasks, noneActive⟩ := (isDone_iff _).mp isDone
    exact delivering.finished_perm noTasks noneActive
  joined called := by
    obtain ⟨-, threads, finished⟩ := delivering.joined _ called
    have allStopped : ∀ worker ∈ system.workers, worker = .stopped := by
      intro phase member
      obtain ⟨worker, valid, rfl⟩ := List.mem_iff_getElem.mp member
      have found := finished worker valid List.not_mem_nil
      rw [List.getElem?_eq_getElem valid] at found
      exact Option.some.inj found
    have noneActive : system.pool.numActiveTasks = 0 := by
      rw [delivering.active, List.sum_eq_zero_iff]
      intro count member
      obtain ⟨worker, isWorker, rfl⟩ := List.mem_map.mp member
      rw [allStopped worker isWorker]
      rfl
    have noTasks : system.pool.tasks = [] := by
      by_contra queued
      obtain ⟨worker, member⟩ := List.exists_mem_of_ne_nil _ (delivering.served queued)
      exact queued (delivering.stopped (allStopped worker member ▸ member)).2
    exact ⟨threads, noneActive, noTasks, delivering.finished_perm noTasks noneActive⟩

/-- In every reachable state the pool guarantees delivery; the workers then take only so
many steps, and where none can step any more every accepted callback has finished. -/
theorem delivery (reached : (machine Callback).Reachable system) :
    system.Delivered ∧ ∀ (actions : List (Action Callback)) (after : System Callback),
      (∀ action ∈ actions, action.isWorkerStep = true) →
      (machine Callback).execute system actions = some after →
        actions.length ≤ system.work ∧
          ((∀ action : Action Callback, action.isWorkerStep = true → after.step action = none) →
            after.finished.Perm system.accepted) := by
  refine ⟨(delivering_of_reachable reached).delivered, ?_⟩
  intro actions after workerSteps executed
  obtain ⟨bounded, same⟩ := work_execute workerSteps executed
  refine ⟨by omega, fun noStep => ?_⟩
  have delivering := delivering_of_reachable
    (reached.execute (Machine.guardedAlong_true actions system) executed)
  obtain ⟨noTasks, idle⟩ := delivering.quiet noStep
  have noneActive : after.pool.numActiveTasks = 0 := by
    rw [delivering.active, List.sum_eq_zero_iff]
    intro count member
    obtain ⟨worker, isWorker, rfl⟩ := List.mem_map.mp member
    rcases idle worker isWorker with rfl | rfl <;> rfl
  rw [← same]
  exact delivering.finished_perm noTasks noneActive

/-! Two threads; the second starts its callback first. -/

def overtakingRun : List (Action Nat) :=
  [.schedule (.ok ()) 0, .schedule (.ok ()) 1, .awaitTask 0, .awaitTask 1, .runTask 1]

def overtaken : System Nat where
  pool := ⟨"pool", 2, 2, false, [], 2⟩
  workers := [.holding 0, .running 1]
  accepted := [0, 1]
  taken := [0, 1]
  started := [1]

theorem execute_overtakingRun :
    (machine Nat).execute (create "pool" 2) overtakingRun = some overtaken := rfl

/-- The callbacks finish once the workers have done what is left. -/
theorem delivery_overtaken :
    ∃ after, (machine Nat).execute overtaken
        [.taskReturns 1, .runTask 0, .taskReturns 0, .relock 0, .relock 1] = some after ∧
      after.finished.Perm [0, 1] := by
  have reached := Machine.reachable_of_execute
    (show (machine Nat).Initial (create "pool" 2) from ⟨"pool", 2, rfl⟩) execute_overtakingRun
  refine ⟨_, rfl, ?_⟩
  apply ((delivery reached).2
    [.taskReturns 1, .runTask 0, .taskReturns 0, .relock 0, .relock 1] _ (by decide) rfl).2
  intro action isWorkerStep
  match action, isWorkerStep with
  | .awaitTask 0, _ | .awaitTask 1, _ | .awaitTask (_ + 2), _ => rfl
  | .runTask 0, _ | .runTask 1, _ | .runTask (_ + 2), _ => rfl
  | .taskReturns 0, _ | .taskReturns 1, _ | .taskReturns (_ + 2), _ => rfl
  | .relock 0, _ | .relock 1, _ | .relock (_ + 2), _ => rfl

/-- Callbacks need not start in the order they were accepted. -/
theorem started_not_inOrder :
    ¬∀ system : System Nat, (machine Nat).Reachable system →
      system.started <+: system.accepted := by
  intro inOrder
  have reached := Machine.reachable_of_execute
    (show (machine Nat).Initial (create "pool" 2) from ⟨"pool", 2, rfl⟩) execute_overtakingRun
  have isPrefix := inOrder overtaken reached
  revert isPrefix
  decide

/-! ## The counting of workers -/

/-- While the destructor has not been called, a worker can take a callback exactly when
the pool's counters say that one is idle. -/
theorem takeTask_isSome_iff (delivering : system.Delivering)
    (notCalled : system.destructor = .notCalled) :
    system.pool.takeTask.isSome ↔ ∃ worker, (system.awaitTask worker).isSome := by
  obtain ⟨running, threads⟩ := delivering.threads notCalled
  have notStopped : .stopped ∉ system.workers := by
    intro member
    rw [(delivering.stopped member).1] at running
    cases running
  have idle_iff : system.pool.numActiveTasks < system.pool.numThreads ↔
      .waiting ∈ system.workers := by
    rw [threads, delivering.active]
    constructor
    · intro less
      by_contra noneWaiting
      have allActive : ∀ worker ∈ system.workers, worker.activeTasks = 1 := by
        intro worker member
        cases worker with
        | waiting => exact absurd member noneWaiting
        | stopped => exact absurd member notStopped
        | holding callback => rfl
        | running callback => rfl
        | returned => rfl
      rw [List.map_congr_left allActive] at less
      simp at less
    · intro member
      obtain ⟨worker, found⟩ := List.mem_iff_getElem?.mp member
      obtain ⟨before, after, split, -⟩ := exists_split found
      have atMostOne : ∀ workers : List (WorkerThread Callback),
          (workers.map WorkerThread.activeTasks).sum ≤ workers.length := by
        intro workers
        induction workers with
        | nil => simp
        | cons first rest hypothesis =>
            have one : first.activeTasks ≤ 1 := by
              cases first <;> simp [WorkerThread.activeTasks]
            rw [List.map_cons, List.sum_cons, List.length_cons]
            omega
      have front := atMostOne before
      have back := atMostOne after
      rw [split]
      simp only [List.map_append, List.map_cons, List.sum_append, List.sum_cons,
        List.length_append, List.length_cons, WorkerThread.activeTasks]
      omega
  cases tasks : system.pool.tasks with
  | nil =>
      have noneTaken : system.pool.takeTask = none := by simp [takeTask, tasks]
      have noneStep : ∀ worker, system.awaitTask worker = none := by
        intro worker
        unfold System.awaitTask
        split
        next queued =>
          rw [tasks] at queued
          cases queued
        · simp [running]
        · rfl
      simp [noneTaken, noneStep]
  | cons callback rest =>
      have taken : system.pool.takeTask.isSome ↔
          system.pool.numActiveTasks < system.pool.numThreads := by
        simp only [takeTask, tasks]
        split <;> simp_all
      have steps : ∀ worker, (system.awaitTask worker).isSome ↔
          system.workers[worker]? = some .waiting := by
        intro worker
        unfold System.awaitTask
        rw [tasks]
        cases system.workers[worker]? with
        | none => simp
        | some phase => cases phase <;> simp
      rw [taken, idle_iff, List.mem_iff_getElem?]
      exact exists_congr fun worker => (steps worker).symm

end System

end LiteRTLM.Framework.ThreadPool
