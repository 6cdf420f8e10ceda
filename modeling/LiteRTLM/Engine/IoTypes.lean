import LiteRTLM.Engine.Status

/-!
Contract: the task states and responses that pass between the engine layers.

Owns: `TaskState`, the end-state test, its printed names, and `Responses`.

Does not own: the input containers and the benchmark bookkeeping.
-/

namespace LiteRTLM.Engine

inductive TaskState where
  | unknown
  | created
  | queued
  | processing
  | done
  | maxNumTokensReached
  | failed
  | dependentTaskFailed
deriving DecidableEq, Repr

/-- `operator<<` on `TaskState`. -/
def TaskState.print : TaskState → String
  | .created => "Created"
  | .queued => "Queued"
  | .processing => "Processing"
  | .done => "Done"
  | .maxNumTokensReached => "MaxNumTokensReached"
  | .failed => "Failed"
  | .dependentTaskFailed => "DependentTaskFailed"
  | .unknown => "Unknown"

instance : ToString TaskState := ⟨TaskState.print⟩

def isTaskEndState (taskState : TaskState) : Bool :=
  taskState = .done ||
    taskState = .maxNumTokensReached ||
    taskState = .failed ||
    taskState = .dependentTaskFailed

/-- A container to host the model responses, over the type of the scores. -/
structure Responses (Score : Type) where
  taskState : TaskState
  texts : List String := []
  scores : List Score := []
  tokenLengths : Option (List Int) := none
deriving DecidableEq, Repr

/-- `Responses(task_state)`: a state update without texts or scores. -/
def Responses.ofState {Score : Type} (taskState : TaskState) : Responses Score :=
  { taskState }

end LiteRTLM.Engine
