import LiteRTLM.Util.Json
import LiteRTLM.Util.TensorBuffer

/-!
Contract: the deletion of old tokens from a KV cache that keeps its first tokens and shifts
the later ones.

Owns: `ShouldDeleteKVCacheTokens`, `DeleteTokensFromKvCache`, `DeleteTokensIfNeeded`, and
the step of an executor that deletes, writes the rows of one token and counts it.

Does not own: the model that computes the rows.

A step is an integer; the size of the context is a 64-bit `size_t`.
-/

namespace LiteRTLM.Executor

open LiteRTLM.Engine
open LiteRTLM.Library
open LiteRTLM.Util

/-- The buffers of a cache by their names. -/
abbrev KvCacheBuffers (Scalar : Type) := List (Text × TensorBuffer Scalar)

namespace CacheUtils

variable {Scalar : Type} [Zero Scalar]

/-- `"cache_k_"`. -/
def cacheKName : Text := ['c', 'a', 'c', 'h', 'e', '_', 'k', '_']

/-- `"cache_v_"`. -/
def cacheVName : Text := ['c', 'a', 'c', 'h', 'e', '_', 'v', '_']

/-- The axis of the context in a buffer of the given name. -/
def contextAxis (inputName : Text) : Option Nat :=
  if cacheKName <:+: inputName then some 2
  else if cacheVName <:+: inputName then some 3
  else none

/-- `ShouldDeleteKVCacheTokens`; the last comparison is one of `size_t`. -/
def shouldDeleteKVCacheTokens (currentStep startPosition : Int) (contextSize : UInt64) :
    StatusOr Bool :=
  if currentStep - startPosition < 0 then
    .error (.invalidArgumentError
      "Deleted more tokens than the number of model steps processed.")
  else if currentStep < 0 then
    .error (.invalidArgumentError "current_step step is negative.")
  else if startPosition < 0 then
    .error (.invalidArgumentError "start_position is negative.")
  else .ok (decide ((contextSize - 1).toNat ≤ (currentStep - startPosition).toNat))

/-- The body of the loop of `DeleteTokensFromKvCache`. -/
def deleteFromBuffer (numTokensToDrop initTokensToRetain : Int)
    (input : Text × TensorBuffer Scalar) : StatusOr (Text × TensorBuffer Scalar) :=
  match contextAxis input.1 with
  | none => .error (.invalidArgumentError "Unsupported input name.")
  | some axis =>
    if input.2.elementType = .other then
      .error (.invalidArgumentError "Unsupported element type.")
    else do
      let dropped ← input.2.dropTokensfromTensorBuffer numTokensToDrop axis
        initTokensToRetain true
      return (input.1, dropped)

def deleteTokensFromKvCache (inputKvCacheBuffers : KvCacheBuffers Scalar)
    (numTokensToDrop initTokensToRetain : Int) : StatusOr (KvCacheBuffers Scalar) :=
  inputKvCacheBuffers.mapM (deleteFromBuffer numTokensToDrop initTokensToRetain)

/-- A cache and the two counters that its owner keeps. -/
structure ShiftedCache (Scalar : Type) where
  buffers : KvCacheBuffers Scalar
  currentStep : Int
  startPosition : Int

def deleteTokensIfNeeded (cache : ShiftedCache Scalar)
    (numTokensToDrop initTokensToRetain : Int) (contextSize : UInt64) :
    StatusOr (Bool × ShiftedCache Scalar) := do
  let shouldDelete ← shouldDeleteKVCacheTokens cache.currentStep cache.startPosition contextSize
  if shouldDelete then
    let buffers ← deleteTokensFromKvCache cache.buffers numTokensToDrop initTokensToRetain
    return (true, { cache with
      buffers := buffers
      startPosition := cache.startPosition + numTokensToDrop })
  else return (false, cache)

/-! ## The step of an executor -/

/-- The rows of the tokens: the elements that a token has in a buffer, by the positions of
the dimensions in front of the context and behind it. -/
abbrev TokenRows (Scalar : Type) := Text → (token outer inner : Nat) → Scalar

/-- A token's row at one outer position of a buffer. -/
def tokenRow (rows : TokenRows Scalar) (inputName : Text) (width token outer : Nat) :
    List Scalar :=
  (List.range width).map (rows inputName token outer)

/-- The elements of a buffer with a row in one slot at every outer position. -/
def writeRows (slots width slot : Nat) (row : Nat → List Scalar) (outers : Nat)
    (data : List Scalar) : List Scalar :=
  (List.range outers).foldl
    (fun written outer => ByteImage.overwrite 0 written ((outer * slots + slot) * width)
      (row outer)) data

/-- One buffer with a token written into a slot of its context axis. -/
def writeToken (rows : TokenRows Scalar) (token slot : Nat)
    (input : Text × TensorBuffer Scalar) : Text × TensorBuffer Scalar :=
  match contextAxis input.1 with
  | none => input
  | some axis =>
    let width := input.2.nextDimsSize axis
    (input.1, { input.2 with
      data := writeRows (input.2.dimensions.getD axis 0) width slot
        (tokenRow rows input.1 width token) (input.2.prevDimsSize axis) input.2.data })

/-- The slot that the next token goes to. -/
def ShiftedCache.nextSlot (cache : ShiftedCache Scalar) : Int :=
  cache.currentStep - cache.startPosition

def ShiftedCache.writeNext (cache : ShiftedCache Scalar) (rows : TokenRows Scalar) :
    ShiftedCache Scalar where
  buffers := cache.buffers.map (writeToken rows cache.currentStep.toNat cache.nextSlot.toNat)
  currentStep := cache.currentStep + 1
  startPosition := cache.startPosition

/-- The cache after a number of steps. -/
def runSteps (rows : TokenRows Scalar) (numTokensToDrop initTokensToRetain : Int)
    (contextSize : UInt64) (buffers : KvCacheBuffers Scalar) :
    Nat → StatusOr (ShiftedCache Scalar)
  | 0 => .ok ⟨buffers, 0, 0⟩
  | steps + 1 => do
    let cache ← runSteps rows numTokensToDrop initTokensToRetain contextSize buffers steps
    let (_, room) ← deleteTokensIfNeeded cache numTokensToDrop initTokensToRetain contextSize
    return room.writeNext rows

end CacheUtils

end LiteRTLM.Executor
