import Mathlib.Tactic

/-!
Contract: `absl::Status` and `absl::StatusOr`.

Owns: the status codes the modelled code returns or tests, an error status
with its message, `StatusOr`, and the results of calls that may also end the process.

An OK status carries no message, so it is `Except.ok ()`; only the error codes
are constructors here.
-/

namespace LiteRTLM.Engine

/-- The `absl::StatusCode` values other than `kOk` that the modelled code uses. -/
inductive StatusCode where
  | cancelled
  | invalidArgument
  | deadlineExceeded
  | notFound
  | alreadyExists
  | failedPrecondition
  | outOfRange
  | unimplemented
  | internal
  | dataLoss
deriving DecidableEq, Repr

/-- A non-OK `absl::Status`. -/
structure Status where
  code : StatusCode
  message : String
deriving DecidableEq, Repr

namespace Status

def cancelledError (message : String) : Status := ⟨.cancelled, message⟩
def invalidArgumentError (message : String) : Status := ⟨.invalidArgument, message⟩
def deadlineExceededError (message : String) : Status := ⟨.deadlineExceeded, message⟩
def notFoundError (message : String) : Status := ⟨.notFound, message⟩
def failedPreconditionError (message : String) : Status := ⟨.failedPrecondition, message⟩
def outOfRangeError (message : String) : Status := ⟨.outOfRange, message⟩
def internalError (message : String) : Status := ⟨.internal, message⟩

end Status

/-- `absl::StatusOr<α>`; `StatusOr Unit` is `absl::Status`. -/
abbrev StatusOr (α : Type) := Except Status α

def StatusOr.isOk {α : Type} : StatusOr α → Bool
  | .ok _ => true
  | .error _ => false

theorem isOk_map {α β : Type} (transform : α → β) (result : StatusOr α) :
    StatusOr.isOk (result.map transform) = StatusOr.isOk result := by
  cases result <;> rfl

/-! ## Calls that may end the process -/

/-- What ends the process where no status is returned. -/
inductive Crash where
  /-- An allocation throws. -/
  | allocation
  /-- A null pointer is dereferenced. -/
  | nullPointer
  /-- A vector is read past its end. -/
  | outOfBounds
  /-- A buffer is written past its end. -/
  | outOfBoundsWrite
  /-- `value()` of a `StatusOr` that holds an error. -/
  | badStatusOrAccess
  /-- Bytes that are no flatbuffer are read as one. -/
  | malformedBuffer
deriving DecidableEq, Repr

/-- How a call ends that does not return a value. -/
inductive Failure where
  | status (status : Status)
  | crash (cause : Crash)
deriving DecidableEq, Repr

/-- The result of a call that returns a value or a status, or ends the process. -/
abbrev CallResult (α : Type) := Except Failure α

/-- An error status is handed to the caller. -/
def StatusOr.orReturn {α : Type} : StatusOr α → CallResult α
  | .ok value => .ok value
  | .error status => .error (.status status)

def StatusOr.value {α : Type} : StatusOr α → CallResult α
  | .ok value => .ok value
  | .error _ => .error (.crash .badStatusOrAccess)

/-- A call that returns, with a value or with a status. -/
def CallResult.returns {α : Type} : CallResult α → Bool
  | .error (.crash _) => false
  | _ => true

def CallResult.isStatus {α : Type} : CallResult α → Bool
  | .error (.status _) => true
  | _ => false

end LiteRTLM.Engine
