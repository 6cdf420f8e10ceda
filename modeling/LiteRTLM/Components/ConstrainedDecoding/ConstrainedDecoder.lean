import LiteRTLM.Engine.Status
import LiteRTLM.Library.Succeeds

/-!
Contract: `ConstrainedDecoder` over any `Constraint`.

Owns: the constraint interface, the constraint states of a batch, how the decoded
tokens move them, and how they mask a tensor of logits.

Does not own: any constraint, and when a decode updates or masks.

The type of the logits is a parameter; its least value stands for
`std::numeric_limits<float>::lowest()`.
-/

namespace LiteRTLM.Components

open LiteRTLM.Engine
open LiteRTLM.Library

/-- `Constraint`, with the states it computes on. A bitmap is the set of allowed ids. -/
structure Constraint (State : Type) where
  start : State
  isEnded : State → Bool
  getVocabularySize : Nat
  computeNext : State → Int → StatusOr State
  computeBitmap : State → StatusOr (Nat → Bool)

structure Logits (Scalar : Type) where
  hostMemory : Bool
  elementTypeFloat32 : Bool
  dimensions : List Nat
  values : List Scalar
deriving DecidableEq, Repr

structure ConstrainedDecoder (State : Type) where
  constraint : Constraint State
  constraintStates : List State

namespace ConstrainedDecoder

variable {State Scalar : Type}

/-- The constructor: every sequence of the batch is at the start. -/
def create (constraint : Constraint State) (batchSize : Nat) : ConstrainedDecoder State where
  constraint := constraint
  constraintStates := List.replicate batchSize constraint.start

/-- The number of sequences. -/
def batchSize (decoder : ConstrainedDecoder State) : Nat :=
  decoder.constraintStates.length

/-- The body of the loop of `UpdateConstraintState`: one token moves one state, and an
ended state starts over. -/
def nextState (constraint : Constraint State) (state : State) (tokenId : Int) :
    StatusOr State := do
  let next ← constraint.computeNext state tokenId
  return if constraint.isEnded next then constraint.start else next

/-- The loop of `UpdateConstraintState` over the batch. -/
def nextStates (constraint : Constraint State) :
    List State → List Int → StatusOr (List State)
  | state :: states, tokenId :: tokenIds => do
      let next ← nextState constraint state tokenId
      let rest ← nextStates constraint states tokenIds
      return next :: rest
  | _, _ => .ok []

def updateConstraintState (decoder : ConstrainedDecoder State) (nextTokenIds : List Int) :
    StatusOr (ConstrainedDecoder State) :=
  if nextTokenIds.length ≠ decoder.batchSize then
    .error (.internalError
      s!"Batch size [{nextTokenIds.length}] does not match the expected batch size [{decoder.batchSize}].")
  else do
    let constraintStates ← nextStates decoder.constraint decoder.constraintStates nextTokenIds
    return { decoder with constraintStates }

/-- The states after the tokens of several steps, oldest first. -/
def advance (constraint : Constraint State) :
    List State → List (List Int) → StatusOr (List State)
  | states, [] => .ok states
  | states, tokenIds :: rest => do
      let next ← nextStates constraint states tokenIds
      advance constraint next rest

theorem advance_append (constraint : Constraint State) (states : List State)
    (earlier later : List (List Int)) :
    advance constraint states (earlier ++ later) =
      advance constraint states earlier >>= fun next => advance constraint next later := by
  induction earlier generalizing states with
  | nil => rfl
  | cons tokenIds rest hypothesis =>
      simp only [List.cons_append, advance]
      cases nextStates constraint states tokenIds with
      | error status => rfl
      | ok next => exact hypothesis next

/-- One more step of tokens. -/
theorem advance_concat {constraint : Constraint State} {states next last : List State}
    {earlier : List (List Int)} {tokenIds : List Int}
    (reached : advance constraint states earlier = .ok next)
    (moves : nextStates constraint next tokenIds = .ok last) :
    advance constraint states (earlier ++ [tokenIds]) = .ok last := by
  rw [advance_append, reached]
  show advance constraint next [tokenIds] = .ok last
  simp only [advance, moves]
  rfl

theorem updateConstraintState_ok {decoder updated : ConstrainedDecoder State}
    {nextTokenIds : List Int}
    (ok : decoder.updateConstraintState nextTokenIds = .ok updated) :
    ∃ states, nextStates decoder.constraint decoder.constraintStates nextTokenIds = .ok states ∧
      updated = ⟨decoder.constraint, states⟩ := by
  unfold updateConstraintState at ok
  split at ok
  · cases ok
  · rw [except_bind_eq_ok] at ok
    obtain ⟨states, moves, result⟩ := ok
    exact ⟨states, moves, (Except.ok.inj result).symm⟩

/-- The logits whose id is not in the bitmap of their sequence are set to the least
value. -/
def maskValues [Bot Scalar] (bitmaps : List (Nat → Bool)) (vocabSize : Nat)
    (values : List Scalar) : List Scalar :=
  values.mapIdx fun index value =>
    match bitmaps[index / vocabSize]? with
    | some bitmap => if bitmap (index % vocabSize) then value else ⊥
    | none => value

/-- `MaskLogits` on a span with its dimensions. -/
def maskSpan [Bot Scalar] (decoder : ConstrainedDecoder State) (dimensions : List Nat)
    (values : List Scalar) : StatusOr (List Scalar) :=
  match dimensions with
  | [batchSize, sequenceLength, vocabSize] =>
      if sequenceLength ≠ 1 then
        .error (.internalError "Only support sequence length 1.")
      else if vocabSize > decoder.constraint.getVocabularySize then
        .error (.internalError
          s!"Vocabulary size [{vocabSize}] does not match the expected vocabulary size [{decoder.constraint.getVocabularySize}].")
      else if batchSize ≠ decoder.batchSize then
        .error (.internalError
          s!"Batch size [{batchSize}] does not match the expected batch size [{decoder.batchSize}].")
      else do
        let bitmaps ← decoder.constraintStates.mapM decoder.constraint.computeBitmap
        return maskValues bitmaps vocabSize values
  | _ => .error (.internalError
      "Only support logits with dimensions [batch_size, 1, vocab_size].")

/-- `MaskLogits` on a tensor, which must be in host memory and of 32 bit floats. -/
def maskLogits [Bot Scalar] (decoder : ConstrainedDecoder State) (logits : Logits Scalar) :
    StatusOr (Logits Scalar) :=
  if ¬logits.hostMemory then
    .error (.invalidArgumentError "Tensor buffer is not in the host memory.")
  else if ¬logits.elementTypeFloat32 then
    .error (.invalidArgumentError "Element type is not compatible to the target type.")
  else do
    let values ← decoder.maskSpan logits.dimensions logits.values
    return { logits with values }

end ConstrainedDecoder

end LiteRTLM.Components
