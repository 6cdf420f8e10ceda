import LiteRTLM.Engine.Status

/-!
Contract: the bookkeeping of `ThreadPool`, one definition per critical section
of its mutex.

Owns: `Schedule` with its on-demand worker creation, the two critical sections
of `RunWorker`'s loop body, and the conditions the two wait functions block on.

Does not own: what a scheduled callback does. Whether creating a worker thread
succeeds is decided by the platform, so it is an argument.
-/

namespace LiteRTLM.Framework

open LiteRTLM.Engine

/-- The fields `mutex_` guards, and the constants `Schedule` reads. A worker
thread carries no data of its own, so `threads_` is counted. -/
structure ThreadPool (Callback : Type) where
  namePrefix : String
  maxNumThreads : Nat
  numThreads : Nat := 0
  stopped : Bool := false
  tasks : List Callback := []
  numActiveTasks : Nat := 0
deriving DecidableEq, Repr

namespace ThreadPool

variable {Callback : Type}

/-- The constructor; a limit of zero threads means one. -/
def create (namePrefix : String) (maxNumThreads : Nat) : ThreadPool Callback :=
  { namePrefix, maxNumThreads := if maxNumThreads = 0 then 1 else maxNumThreads }

/-- `tasks_.push_back(callback)`. -/
def enqueue (callback : Callback) (pool : ThreadPool Callback) : ThreadPool Callback :=
  { pool with tasks := pool.tasks ++ [callback] }

/-- `Schedule`. `workerThread` is what `WorkerThread::Create` returns if it is
called. -/
def schedule (workerThread : StatusOr Unit) (callback : Callback)
    (pool : ThreadPool Callback) : StatusOr (ThreadPool Callback) :=
  if pool.stopped then
    .error (.failedPreconditionError ("ThreadPool '" ++ pool.namePrefix ++ "' is stopped."))
  else if pool.numThreads < pool.maxNumThreads ∧
      pool.numThreads ≤ pool.numActiveTasks + pool.tasks.length then
    match workerThread with
    | .ok () => .ok ({ pool with numThreads := pool.numThreads + 1 }.enqueue callback)
    | .error status =>
        -- Without any worker the error is fatal; otherwise an existing worker
        -- picks the callback up later.
        if pool.numThreads = 0 then .error status else .ok (pool.enqueue callback)
  else
    .ok (pool.enqueue callback)

/-- `RunWorker` up to the unlock: an idle worker takes the front callback. -/
def takeTask (pool : ThreadPool Callback) : Option (Callback × ThreadPool Callback) :=
  match pool.tasks with
  | [] => none
  | callback :: rest =>
      if pool.numActiveTasks < pool.numThreads then
        some (callback, { pool with tasks := rest, numActiveTasks := pool.numActiveTasks + 1 })
      else
        none

/-- `RunWorker` after the callback has returned. -/
def completeTask (pool : ThreadPool Callback) : ThreadPool Callback :=
  { pool with numActiveTasks := pool.numActiveTasks - 1 }

/-- The condition of `WaitUntilIdle`. -/
def isTasksEmpty (pool : ThreadPool Callback) : Bool :=
  pool.tasks.isEmpty

/-- The condition of `WaitUntilDone`: no queued and no running work. -/
def isDone (pool : ThreadPool Callback) : Bool :=
  pool.tasks.isEmpty && pool.numActiveTasks == 0

/-- `WaitUntilDone`, evaluated in the state in which the wait ends. -/
def waitUntilDone (pool : ThreadPool Callback) : StatusOr Unit :=
  if pool.isDone then
    .ok ()
  else
    .error (.deadlineExceededError
      ("Timeout waiting for all tasks to be done in pool '" ++ pool.namePrefix ++
        "'. Tasks still in queue: " ++ toString pool.tasks.length ++ ", Active tasks: " ++
        toString pool.numActiveTasks))

theorem isDone_iff (pool : ThreadPool Callback) :
    pool.isDone = true ↔ pool.tasks = [] ∧ pool.numActiveTasks = 0 := by
  simp [isDone]

/-- A pool that has done nothing but accept more callbacks. -/
structure Extends (next pool : ThreadPool Callback) : Prop where
  numActiveTasks : next.numActiveTasks = pool.numActiveTasks
  numThreads : pool.numThreads ≤ next.numThreads
  maxNumThreads : next.maxNumThreads = pool.maxNumThreads
  stopped : next.stopped = pool.stopped

theorem Extends.refl (pool : ThreadPool Callback) : pool.Extends pool :=
  ⟨rfl, le_refl _, rfl, rfl⟩

theorem Extends.trans {first second third : ThreadPool Callback}
    (later : third.Extends second) (earlier : second.Extends first) : third.Extends first :=
  ⟨later.numActiveTasks.trans earlier.numActiveTasks,
    earlier.numThreads.trans later.numThreads,
    later.maxNumThreads.trans earlier.maxNumThreads, later.stopped.trans earlier.stopped⟩

/-- All `Schedule` can do on success: queue the callback, with at most one more
worker. -/
theorem schedule_ok {workerThread : StatusOr Unit} {callback : Callback}
    {pool next : ThreadPool Callback}
    (scheduled : pool.schedule workerThread callback = .ok next) :
    next.tasks = pool.tasks ++ [callback] ∧ next.Extends pool := by
  unfold schedule at scheduled
  split at scheduled
  · cases scheduled
  · split at scheduled
    · cases workerThread with
      | ok _ =>
          cases scheduled
          exact ⟨rfl, rfl, Nat.le_succ _, rfl, rfl⟩
      | error status =>
          simp only at scheduled
          split at scheduled
          · cases scheduled
          · cases scheduled
            exact ⟨rfl, rfl, le_refl _, rfl, rfl⟩
    · cases scheduled
      exact ⟨rfl, rfl, le_refl _, rfl, rfl⟩

/-- A pool that accepts a callback has a worker for it. -/
theorem schedule_worker {workerThread : StatusOr Unit} {callback : Callback}
    {pool next : ThreadPool Callback}
    (scheduled : pool.schedule workerThread callback = .ok next)
    (limit : 0 < pool.maxNumThreads) : 0 < next.numThreads := by
  unfold schedule at scheduled
  split at scheduled
  · cases scheduled
  · split at scheduled
    · cases workerThread with
      | ok _ =>
          cases scheduled
          exact Nat.succ_pos _
      | error status =>
          simp only at scheduled
          split at scheduled
          · cases scheduled
          next present =>
            cases scheduled
            exact Nat.pos_of_ne_zero present
    next full =>
      cases scheduled
      change 0 < pool.numThreads
      omega

/-- Taking a task moves the front callback to a worker. -/
theorem takeTask_some {callback : Callback} {pool next : ThreadPool Callback}
    (taken : pool.takeTask = some (callback, next)) :
    ∃ rest, pool.tasks = callback :: rest ∧
      next = { pool with tasks := rest, numActiveTasks := pool.numActiveTasks + 1 } := by
  unfold takeTask at taken
  split at taken
  · cases taken
  next front rest queue =>
    split at taken
    · cases taken
      exact ⟨rest, queue, rfl⟩
    · cases taken

/-- A pool that already has a worker, or gets one, accepts every callback. -/
theorem schedule_succeeds {workerThread : StatusOr Unit} (callback : Callback)
    {pool : ThreadPool Callback} (running : pool.stopped = false)
    (worker : 0 < pool.numThreads ∨ workerThread = .ok ()) :
    ∃ next, pool.schedule workerThread callback = .ok next := by
  unfold schedule
  rw [if_neg (by simp [running])]
  split
  · cases workerThread with
    | ok _ => exact ⟨_, rfl⟩
    | error status =>
        have present : pool.numThreads ≠ 0 := by
          rcases worker with positive | created
          · omega
          · cases created
        exact ⟨_, if_neg present⟩
  · exact ⟨_, rfl⟩

end ThreadPool

end LiteRTLM.Framework
