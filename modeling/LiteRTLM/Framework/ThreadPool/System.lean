import LiteRTLM.Framework.ThreadPool
import LiteRTLM.Library.Machine

/-!
Contract: a thread pool with its worker threads and its destructor, as a state
machine.

One action is one critical section of the pool's mutex, or the start or the return
of a callback outside it.

Owns: the phases of a worker in `RunWorker`, the destructor, the history of the
callbacks, the actions, and the machine.

Does not own: what a callback does. A callback that calls the pool is another caller.
-/

namespace LiteRTLM.Framework.ThreadPool

open LiteRTLM.Engine
open LiteRTLM.Library

/-- Where a worker thread stands in `RunWorker`. -/
inductive WorkerThread (Callback : Type) where
  /-- In `Await`, or on the way there. -/
  | waiting
  /-- Has taken a callback and released the mutex. -/
  | holding (callback : Callback)
  /-- Runs its callback. -/
  | running (callback : Callback)
  /-- The callback has returned; the mutex is not held yet. -/
  | returned
  /-- Has left `RunWorker`. -/
  | stopped
deriving DecidableEq, Repr

namespace WorkerThread

variable {Callback : Type}

/-- The callback that is taken and not started. -/
def inHand : WorkerThread Callback → List Callback
  | .holding callback => [callback]
  | _ => []

/-- The callback that is started and has not returned. -/
def executing : WorkerThread Callback → List Callback
  | .running callback => [callback]
  | _ => []

/-- What the worker adds to `num_active_tasks_`. -/
def activeTasks : WorkerThread Callback → Nat
  | .holding _ | .running _ | .returned => 1
  | _ => 0

/-- How many of its own steps the worker can take before it waits again or stops. -/
def stepsLeft : WorkerThread Callback → Nat
  | .holding _ => 4
  | .running _ => 3
  | .returned => 2
  | .waiting => 1
  | .stopped => 0

end WorkerThread

/-- `~ThreadPool`: the workers, by index, that are still to be joined. -/
inductive Destructor where
  | notCalled
  | joining (threadsToJoin : List Nat)
deriving DecidableEq, Repr

/-- The pool, all workers it has created, and the callbacks it has accepted, that were
taken, that were started and that have returned, each oldest first. -/
structure System (Callback : Type) where
  pool : ThreadPool Callback
  workers : List (WorkerThread Callback) := []
  destructor : Destructor := .notCalled
  accepted : List Callback := []
  taken : List Callback := []
  started : List Callback := []
  finished : List Callback := []
deriving DecidableEq, Repr

inductive Action (Callback : Type) where
  /-- A caller runs `Schedule`. -/
  | schedule (workerThread : StatusOr Unit) (callback : Callback)
  /-- A worker's `Await` ends: it takes a callback or returns. -/
  | awaitTask (worker : Nat)
  /-- A worker calls the callback it has taken. -/
  | runTask (worker : Nat)
  /-- The callback returns. -/
  | taskReturns (worker : Nat)
  /-- A worker holds the mutex again. -/
  | relock (worker : Nat)
  /-- The destructor stops the pool. -/
  | stop
  /-- The destructor has joined the next worker. -/
  | join

def Action.isWorkerStep {Callback : Type} : Action Callback → Bool
  | .awaitTask _ | .runTask _ | .taskReturns _ | .relock _ => true
  | _ => false

namespace System

variable {Callback : Type}

def create (namePrefix : String) (maxNumThreads : Nat) : System Callback where
  pool := .create namePrefix maxNumThreads

/-- `Schedule`; a worker it creates starts in `RunWorker`. -/
def schedule (system : System Callback) (workerThread : StatusOr Unit) (callback : Callback) :
    System Callback :=
  match system.pool.schedule workerThread callback with
  | .error _ => system
  | .ok pool =>
      { system with
        pool
        workers := system.workers ++
          List.replicate (pool.numThreads - system.pool.numThreads) .waiting
        accepted := system.accepted ++ [callback] }

/-- `RunWorker` from `Await` to the unlock or the return. -/
def awaitTask (system : System Callback) (worker : Nat) : Option (System Callback) :=
  match system.workers[worker]?, system.pool.tasks with
  | some .waiting, callback :: rest =>
      some { system with
        pool := { system.pool with
          tasks := rest, numActiveTasks := system.pool.numActiveTasks + 1 }
        workers := system.workers.set worker (.holding callback)
        taken := system.taken ++ [callback] }
  | some .waiting, [] =>
      if system.pool.stopped then
        some { system with workers := system.workers.set worker .stopped }
      else
        none
  | _, _ => none

/-- `std::move(task_to_run)()`. -/
def runTask (system : System Callback) (worker : Nat) : Option (System Callback) :=
  match system.workers[worker]? with
  | some (.holding callback) =>
      some { system with
        workers := system.workers.set worker (.running callback)
        started := system.started ++ [callback] }
  | _ => none

def taskReturns (system : System Callback) (worker : Nat) : Option (System Callback) :=
  match system.workers[worker]? with
  | some (.running callback) =>
      some { system with
        workers := system.workers.set worker .returned
        finished := system.finished ++ [callback] }
  | _ => none

/-- `--num_active_tasks_`. -/
def relock (system : System Callback) (worker : Nat) : Option (System Callback) :=
  match system.workers[worker]? with
  | some .returned =>
      some { system with
        pool := system.pool.completeTask
        workers := system.workers.set worker .waiting }
  | _ => none

/-- The destructor sets `stopped_` and takes the workers out of `threads_`. -/
def stop (system : System Callback) : Option (System Callback) :=
  match system.destructor with
  | .notCalled =>
      some { system with
        pool := { system.pool with stopped := true, numThreads := 0 }
        destructor := .joining (List.range system.workers.length) }
  | .joining _ => none

/-- `Join` returns once the worker has left `RunWorker`. -/
def join (system : System Callback) : Option (System Callback) :=
  match system.destructor with
  | .joining (worker :: rest) =>
      match system.workers[worker]? with
      | some .stopped => some { system with destructor := .joining rest }
      | _ => none
  | _ => none

def step (system : System Callback) : Action Callback → Option (System Callback)
  | .schedule workerThread callback => some (system.schedule workerThread callback)
  | .awaitTask worker => system.awaitTask worker
  | .runTask worker => system.runTask worker
  | .taskReturns worker => system.taskReturns worker
  | .relock worker => system.relock worker
  | .stop => system.stop
  | .join => system.join

end System

/-- Every interleaving of callers, workers, running callbacks and the destructor. -/
def machine (Callback : Type) : Machine (System Callback) (Action Callback) where
  Initial system := ∃ namePrefix maxNumThreads, system = .create namePrefix maxNumThreads
  step := System.step

end LiteRTLM.Framework.ThreadPool
