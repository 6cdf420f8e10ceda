import LiteRTLM.Executor.CacheUtils
import LiteRTLM.Util.DroppedTokens

/-!
Contract: which deletions of tokens from a KV cache happen for all buffers or for none.

Owns: the deletion on the buffers in place and in the order of the iteration, with what each
buffer answers; the buffers it accepts; and what a refused deletion leaves behind.

Does not own: the shift of one buffer.

The order of a hash map is that of the list, which may be any.
-/

namespace LiteRTLM.Executor

open LiteRTLM.Engine
open LiteRTLM.Library
open LiteRTLM.Util

namespace CacheUtils

variable {Scalar : Type} [Zero Scalar]

/-! ## The deletion in place -/

/-- A buffer of the map, with the outcomes of reading its type and taking its lock. -/
structure CacheInput (Scalar : Type) where
  inputName : Text
  tensorType : StatusOr Unit
  lock : StatusOr Unit
  inputBuffer : TensorBuffer Scalar

/-- The body of the loop of `DeleteTokensFromKvCache`, on the buffer it is given. -/
def deleteFromBufferInPlace (numTokensToDrop initTokensToRetain : Int)
    (input : CacheInput Scalar) : StatusOr Unit × CacheInput Scalar :=
  match input.tensorType with
  | .error status => (.error status, input)
  | .ok () =>
    match contextAxis input.inputName with
    | none => (.error (.invalidArgumentError "Unsupported input name."), input)
    | some axis =>
      if input.inputBuffer.elementType = .other then
        (.error (.invalidArgumentError "Unsupported element type."), input)
      else
        let (status, dropped) := TensorBuffer.dropTokensInPlace
          input.inputBuffer.elementType input.lock input.inputBuffer numTokensToDrop axis
          initTokensToRetain
        (status, { input with inputBuffer := dropped })

/-- `DeleteTokensFromKvCache`: the status and the buffers it leaves. -/
def deleteTokensInPlace (numTokensToDrop initTokensToRetain : Int) :
    List (CacheInput Scalar) → StatusOr Unit × List (CacheInput Scalar)
  | [] => (.ok (), [])
  | input :: rest =>
    match deleteFromBufferInPlace numTokensToDrop initTokensToRetain input with
    | (.error status, kept) => (.error status, kept :: rest)
    | (.ok (), dropped) =>
        let (status, others) := deleteTokensInPlace numTokensToDrop initTokensToRetain rest
        (status, dropped :: others)

/-- `DeleteTokensIfNeeded`: the status, the buffers and `start_position` it leaves. -/
def deleteTokensIfNeededInPlace (cache : List (CacheInput Scalar))
    (numTokensToDrop initTokensToRetain currentStep startPosition : Int)
    (contextSize : UInt64) : StatusOr Bool × List (CacheInput Scalar) × Int :=
  match shouldDeleteKVCacheTokens currentStep startPosition contextSize with
  | .error status => (.error status, cache, startPosition)
  | .ok false => (.ok false, cache, startPosition)
  | .ok true =>
    match deleteTokensInPlace numTokensToDrop initTokensToRetain cache with
    | (.error status, left) => (.error status, left, startPosition)
    | (.ok (), shifted) => (.ok true, shifted, startPosition + numTokensToDrop)

/-! ## The values it computes -/

def CacheInput.contents (input : CacheInput Scalar) : Text × TensorBuffer Scalar :=
  (input.inputName, input.inputBuffer)

/-- The type can be read and the lock be taken. -/
def CacheInput.Answers (input : CacheInput Scalar) : Prop :=
  input.tensorType = .ok () ∧ input.lock = .ok ()

theorem deleteFromBufferInPlace_contents {input : CacheInput Scalar} (answers : input.Answers)
    (numTokensToDrop initTokensToRetain : Int) :
    deleteFromBuffer numTokensToDrop initTokensToRetain input.contents =
      match deleteFromBufferInPlace numTokensToDrop initTokensToRetain input with
      | (.error status, _) => .error status
      | (.ok (), dropped) => .ok dropped.contents := by
  rw [deleteFromBufferInPlace, answers.1, deleteFromBuffer, CacheInput.contents]
  cases contextAxis input.inputName with
  | none => rfl
  | some axis =>
      simp only
      by_cases unsupported : input.inputBuffer.elementType = .other
      · rw [if_pos unsupported, if_pos unsupported]
      · rw [if_neg unsupported, if_neg unsupported, TensorBuffer.dropTokensInPlace,
          if_neg (fun differs => differs rfl), if_neg (by omega), answers.2, Int.toNat_natCast]
        cases input.inputBuffer.dropTokensfromTensorBuffer numTokensToDrop axis
          initTokensToRetain true with
        | error status => rfl
        | ok dropped => rfl

/-- For buffers that answer, the deletion in place computes what the deletion on values
does. -/
theorem deleteTokensInPlace_contents {cache : List (CacheInput Scalar)}
    (answer : ∀ input ∈ cache, input.Answers) (numTokensToDrop initTokensToRetain : Int) :
    deleteTokensFromKvCache (cache.map CacheInput.contents) numTokensToDrop
        initTokensToRetain =
      match deleteTokensInPlace numTokensToDrop initTokensToRetain cache with
      | (.error status, _) => .error status
      | (.ok (), shifted) => .ok (shifted.map CacheInput.contents) := by
  induction cache with
  | nil => rfl
  | cons input rest inductionHypothesis =>
      have first := deleteFromBufferInPlace_contents (answer input List.mem_cons_self)
        numTokensToDrop initTokensToRetain
      have others := inductionHypothesis
        (fun other member => answer other (List.mem_cons_of_mem _ member))
      rw [deleteTokensFromKvCache] at others ⊢
      rw [List.map_cons, List.mapM_cons, first, deleteTokensInPlace]
      cases deleteFromBufferInPlace numTokensToDrop initTokensToRetain input with
      | mk status dropped =>
          cases status with
          | error status => rfl
          | ok _ =>
              rw [others]
              cases deleteTokensInPlace numTokensToDrop initTokensToRetain rest with
              | mk status shifted =>
                  cases status with
                  | error status => rfl
                  | ok _ => rfl

/-! ## One buffer -/

/-- The buffers whose tokens can be deleted. -/
structure CacheInput.Suits (numTokensToDrop initTokensToRetain : Int)
    (input : CacheInput Scalar) : Prop where
  answers : input.Answers
  supported : input.inputBuffer.elementType ≠ .other
  accepted : ∃ axis slots, contextAxis input.inputName = some axis ∧
    input.inputBuffer.AcceptsDrop numTokensToDrop axis initTokensToRetain slots

/-- The context of a buffer was shifted by the dropped tokens. -/
def ShiftedBy (numTokensToDrop initTokensToRetain : Int) (before after : CacheInput Scalar) :
    Prop :=
  after = { before with inputBuffer := after.inputBuffer } ∧
    ∃ axis slots, contextAxis before.inputName = some axis ∧
      before.inputBuffer.dimensions[axis]? = some slots ∧
      TensorBuffer.ShiftedAlong before.inputBuffer after.inputBuffer axis slots
        numTokensToDrop.toNat initTokensToRetain.toNat

variable {numTokensToDrop initTokensToRetain : Int}

/-- A buffer has one shift. -/
theorem ShiftedBy.unique {before first second : CacheInput Scalar}
    (toFirst : ShiftedBy numTokensToDrop initTokensToRetain before first)
    (toSecond : ShiftedBy numTokensToDrop initTokensToRetain before second) :
    first = second := by
  obtain ⟨firstRest, axis, slots, onAxis, isDimension, firstShift⟩ := toFirst
  obtain ⟨secondRest, axis', slots', onAxis', isDimension', secondShift⟩ := toSecond
  rw [onAxis, Option.some.injEq] at onAxis'
  subst onAxis'
  rw [isDimension, Option.some.injEq] at isDimension'
  subst isDimension'
  rw [firstRest, secondRest, firstShift.unique isDimension secondShift]

/-- The body of the loop shifts a buffer that suits and refuses any other. -/
theorem deleteFromBufferInPlace_cases {input : CacheInput Scalar}
    (filled : input.inputBuffer.Filled) :
    (input.Suits numTokensToDrop initTokensToRetain ∧
      ∃ after, deleteFromBufferInPlace numTokensToDrop initTokensToRetain input =
          (.ok (), after) ∧ ShiftedBy numTokensToDrop initTokensToRetain input after) ∨
    (¬input.Suits numTokensToDrop initTokensToRetain ∧
      ∃ status, deleteFromBufferInPlace numTokensToDrop initTokensToRetain input =
        (.error status, input)) := by
  rw [deleteFromBufferInPlace]
  cases typed : input.tensorType with
  | error status =>
      refine .inr ⟨fun suits => ?_, status, rfl⟩
      have read := suits.answers.1
      rw [typed] at read
      cases read
  | ok _ =>
      cases onAxis : contextAxis input.inputName with
      | none =>
          refine .inr ⟨fun suits => ?_, _, rfl⟩
          obtain ⟨axis, slots, known, -⟩ := suits.accepted
          rw [onAxis] at known
          cases known
      | some axis =>
          simp only
          by_cases unsupported : input.inputBuffer.elementType = .other
          · rw [if_pos unsupported]
            exact .inr ⟨fun suits => suits.supported unsupported, _, rfl⟩
          · rw [if_neg unsupported]
            rcases TensorBuffer.dropTokensInPlace_cases filled input.inputBuffer.elementType
              input.lock numTokensToDrop axis initTokensToRetain with
              ⟨⟨-, locked, slots, accepts⟩, dropped, ran, shifted⟩ | ⟨refused, status, ran⟩
            · rw [ran]
              have isDimension := accepts.isDimension
              rw [Int.toNat_natCast] at isDimension
              refine .inl ⟨⟨⟨typed, locked⟩, unsupported, axis, slots, onAxis, accepts⟩, _, rfl,
                by rw [typed], axis, slots, onAxis, isDimension, ?_⟩
              exact shifted slots accepts.isDimension
            · rw [ran]
              refine .inr ⟨fun suits => ?_, status, by rw [← typed]⟩
              obtain ⟨axis', slots, known, accepts⟩ := suits.accepted
              rw [onAxis, Option.some.injEq] at known
              subst known
              exact refused ⟨rfl, suits.answers.2, slots, accepts⟩

/-! ## All buffers -/

/-- When all buffers suit, all are shifted. -/
theorem deleteTokensInPlace_suits {cache : List (CacheInput Scalar)}
    (filled : ∀ input ∈ cache, input.inputBuffer.Filled)
    (suit : ∀ input ∈ cache, input.Suits numTokensToDrop initTokensToRetain) :
    ∃ shifted, deleteTokensInPlace numTokensToDrop initTokensToRetain cache =
        (.ok (), shifted) ∧
      List.Forall₂ (ShiftedBy numTokensToDrop initTokensToRetain) cache shifted := by
  induction cache with
  | nil => exact ⟨[], rfl, .nil⟩
  | cons input rest inductionHypothesis =>
      obtain ⟨others, ranRest, shiftedRest⟩ := inductionHypothesis
        (fun other member => filled other (List.mem_cons_of_mem _ member))
        (fun other member => suit other (List.mem_cons_of_mem _ member))
      rcases deleteFromBufferInPlace_cases (filled input List.mem_cons_self) with
        ⟨-, after, ran, shifted⟩ | ⟨refused, -⟩
      · rw [deleteTokensInPlace, ran, ranRest]
        exact ⟨after :: others, rfl, .cons shifted shiftedRest⟩
      · exact absurd (suit input List.mem_cons_self) refused

/-- At the first buffer that does not suit, those in front of it have been shifted. -/
theorem deleteTokensInPlace_refused {visited rest : List (CacheInput Scalar)}
    {input : CacheInput Scalar}
    (filled : ∀ other ∈ visited ++ input :: rest, other.inputBuffer.Filled)
    (suit : ∀ other ∈ visited, other.Suits numTokensToDrop initTokensToRetain)
    (unsuitable : ¬input.Suits numTokensToDrop initTokensToRetain) :
    ∃ status shifted, deleteTokensInPlace numTokensToDrop initTokensToRetain
        (visited ++ input :: rest) = (.error status, shifted ++ input :: rest) ∧
      List.Forall₂ (ShiftedBy numTokensToDrop initTokensToRetain) visited shifted := by
  induction visited with
  | nil =>
      rcases deleteFromBufferInPlace_cases (filled input (by simp)) with ⟨suits, -⟩ | ⟨-, status, ran⟩
      · exact absurd suits unsuitable
      · rw [List.nil_append, deleteTokensInPlace, ran]
        exact ⟨status, [], rfl, .nil⟩
  | cons first visited inductionHypothesis =>
      obtain ⟨status, others, ranRest, shiftedRest⟩ := inductionHypothesis
        (fun other member => filled other (List.mem_cons_of_mem _ member))
        (fun other member => suit other (List.mem_cons_of_mem _ member))
      rcases deleteFromBufferInPlace_cases (filled first List.mem_cons_self) with
        ⟨-, after, ran, shifted⟩ | ⟨refused, -⟩
      · rw [List.cons_append, deleteTokensInPlace, ran, ranRest]
        exact ⟨status, after :: others, rfl, .cons shifted shiftedRest⟩
      · exact absurd (suit first List.mem_cons_self) refused

omit [Zero Scalar] in
/-- Either all buffers suit or there is a first that does not. -/
theorem suits_or_first (cache : List (CacheInput Scalar)) :
    (∀ input ∈ cache, input.Suits numTokensToDrop initTokensToRetain) ∨
      ∃ visited input rest, cache = visited ++ input :: rest ∧
        (∀ other ∈ visited, other.Suits numTokensToDrop initTokensToRetain) ∧
        ¬input.Suits numTokensToDrop initTokensToRetain := by
  induction cache with
  | nil => exact .inl (List.forall_mem_nil _)
  | cons input rest inductionHypothesis =>
      by_cases suits : input.Suits numTokensToDrop initTokensToRetain
      · rcases inductionHypothesis with all | ⟨visited, other, behind, rfl, before, unsuitable⟩
        · refine .inl fun other member => ?_
          rcases List.mem_cons.mp member with rfl | later
          · exact suits
          · exact all other later
        · refine .inr ⟨input :: visited, other, behind, rfl, fun third member => ?_, unsuitable⟩
          rcases List.mem_cons.mp member with rfl | later
          · exact suits
          · exact before third later
      · exact .inr ⟨[], input, rest, rfl, List.forall_mem_nil _, suits⟩

theorem forall₂_shiftedBy_unique {before first second : List (CacheInput Scalar)}
    (toFirst : List.Forall₂ (ShiftedBy numTokensToDrop initTokensToRetain) before first)
    (toSecond : List.Forall₂ (ShiftedBy numTokensToDrop initTokensToRetain) before second) :
    first = second := by
  induction toFirst generalizing second with
  | nil =>
      cases toSecond
      rfl
  | cons shifted _ inductionHypothesis =>
      cases toSecond with
      | cons otherShifted others =>
          rw [shifted.unique otherShifted, inductionHypothesis others]

/-! ## All or nothing -/

/-- What `DeleteTokensFromKvCache` leaves: the buffers as they were after an error, and all of
them shifted after a success. -/
def AllOrNothing (numTokensToDrop initTokensToRetain : Int) (cache : List (CacheInput Scalar))
    (outcome : StatusOr Unit × List (CacheInput Scalar)) : Prop :=
  (∀ status, outcome.1 = .error status → outcome.2 = cache) ∧
    (outcome.1 = .ok () →
      List.Forall₂ (ShiftedBy numTokensToDrop initTokensToRetain) cache outcome.2)

/-- What `DeleteTokensIfNeeded` leaves: nothing has changed unless it deleted; then all
buffers are shifted and the start position is advanced by as much. -/
def AllOrNothingIfNeeded (numTokensToDrop initTokensToRetain startPosition : Int)
    (cache : List (CacheInput Scalar))
    (outcome : StatusOr Bool × List (CacheInput Scalar) × Int) : Prop :=
  (outcome.1 ≠ .ok true → outcome.2 = (cache, startPosition)) ∧
    (outcome.1 = .ok true →
      List.Forall₂ (ShiftedBy numTokensToDrop initTokensToRetain) cache outcome.2.1 ∧
        outcome.2.2 = startPosition + numTokensToDrop)

/-- The buffers in front of the first one that does not suit are their own shift: the entries
behind the retained ones repeat after the dropped number of slots, and the last ones are
zero. -/
def FailsUnshifted (numTokensToDrop initTokensToRetain : Int)
    (cache : List (CacheInput Scalar)) : Prop :=
  ∀ visited input rest, cache = visited ++ input :: rest →
    (∀ other ∈ visited, other.Suits numTokensToDrop initTokensToRetain) →
    ¬input.Suits numTokensToDrop initTokensToRetain →
    ∀ other ∈ visited, ShiftedBy numTokensToDrop initTokensToRetain other other

theorem deleteTokensInPlace_allOrNothing {cache : List (CacheInput Scalar)}
    (filled : ∀ input ∈ cache, input.inputBuffer.Filled) :
    AllOrNothing numTokensToDrop initTokensToRetain cache
        (deleteTokensInPlace numTokensToDrop initTokensToRetain cache) ↔
      FailsUnshifted numTokensToDrop initTokensToRetain cache := by
  constructor
  · rintro ⟨kept, -⟩ visited input rest rfl suit unsuitable
    obtain ⟨status, shifted, ran, toShifted⟩ :=
      deleteTokensInPlace_refused filled suit unsuitable
    rw [ran] at kept
    have same : shifted = visited := List.append_cancel_right (kept status rfl)
    rw [same] at toShifted
    exact List.forall₂_same.mp toShifted
  · intro harmless
    rcases suits_or_first cache with all | ⟨visited, input, rest, rfl, suit, unsuitable⟩
    · obtain ⟨shifted, ran, toShifted⟩ := deleteTokensInPlace_suits filled all
      rw [ran]
      exact ⟨nofun, fun _ => toShifted⟩
    · obtain ⟨status, shifted, ran, toShifted⟩ :=
        deleteTokensInPlace_refused filled suit unsuitable
      have ownShift := List.forall₂_same.mpr (harmless visited input rest rfl suit unsuitable)
      rw [ran, forall₂_shiftedBy_unique toShifted ownShift]
      exact ⟨fun _ _ => rfl, nofun⟩

theorem deleteTokensIfNeededInPlace_allOrNothing {cache : List (CacheInput Scalar)}
    (filled : ∀ input ∈ cache, input.inputBuffer.Filled) (currentStep startPosition : Int)
    (contextSize : UInt64) :
    AllOrNothingIfNeeded numTokensToDrop initTokensToRetain startPosition cache
        (deleteTokensIfNeededInPlace cache numTokensToDrop initTokensToRetain currentStep
          startPosition contextSize) ↔
      (shouldDeleteKVCacheTokens currentStep startPosition contextSize = .ok true →
        FailsUnshifted numTokensToDrop initTokensToRetain cache) := by
  rw [← deleteTokensInPlace_allOrNothing filled, deleteTokensIfNeededInPlace]
  cases needed : shouldDeleteKVCacheTokens currentStep startPosition contextSize with
  | error status => exact iff_of_true ⟨fun _ => rfl, nofun⟩ nofun
  | ok deletes =>
      cases deletes with
      | false => exact iff_of_true ⟨fun _ => rfl, nofun⟩ nofun
      | true =>
          simp only [forall_const]
          cases ran : deleteTokensInPlace numTokensToDrop initTokensToRetain cache with
          | mk status left =>
              cases status with
              | error status =>
                  constructor
                  · rintro ⟨kept, -⟩
                    exact ⟨fun _ _ => congrArg Prod.fst (kept nofun), nofun⟩
                  · rintro ⟨kept, -⟩
                    exact ⟨fun _ => congrArg (·, startPosition) (kept status rfl), nofun⟩
              | ok _ =>
                  constructor
                  · rintro ⟨-, shifted⟩
                    exact ⟨nofun, fun _ => (shifted rfl).1⟩
                  · rintro ⟨-, shifted⟩
                    exact ⟨fun differs => absurd rfl differs, fun _ => ⟨shifted rfl, rfl⟩⟩

/-- The deletion of tokens is all or nothing exactly when nothing is to be deleted, or all
buffers suit, or those visited before the first one that does not are their own shift. -/
theorem deleteTokens_allOrNothing_iff {cache : List (CacheInput Scalar)}
    (filled : ∀ input ∈ cache, input.inputBuffer.Filled)
    (numTokensToDrop initTokensToRetain : Int) :
    (AllOrNothing numTokensToDrop initTokensToRetain cache
        (deleteTokensInPlace numTokensToDrop initTokensToRetain cache) ↔
      FailsUnshifted numTokensToDrop initTokensToRetain cache) ∧
    ∀ currentStep startPosition contextSize,
      AllOrNothingIfNeeded numTokensToDrop initTokensToRetain startPosition cache
          (deleteTokensIfNeededInPlace cache numTokensToDrop initTokensToRetain currentStep
            startPosition contextSize) ↔
        (shouldDeleteKVCacheTokens currentStep startPosition contextSize = .ok true →
          FailsUnshifted numTokensToDrop initTokensToRetain cache) :=
  ⟨deleteTokensInPlace_allOrNothing filled,
    deleteTokensIfNeededInPlace_allOrNothing filled⟩

/-- A key buffer with two slots, and a buffer that is neither of keys nor of values. -/
def keysAndMask : List (CacheInput Int) :=
  [⟨cacheKName, .ok (), .ok (), ⟨.int8, [1, 1, 2, 1], [1, 2]⟩⟩,
    ⟨['m', 'a', 's', 'k'], .ok (), .ok (), ⟨.int8, [1], [1]⟩⟩]

theorem deleteTokens_allOrNothing_iff_keysAndMask :
    (AllOrNothing 1 0 keysAndMask (deleteTokensInPlace 1 0 keysAndMask) ↔
      FailsUnshifted 1 0 keysAndMask) ∧
    ∀ currentStep startPosition contextSize,
      AllOrNothingIfNeeded 1 0 startPosition keysAndMask
          (deleteTokensIfNeededInPlace keysAndMask 1 0 currentStep startPosition contextSize) ↔
        (shouldDeleteKVCacheTokens currentStep startPosition contextSize = .ok true →
          FailsUnshifted 1 0 keysAndMask) :=
  deleteTokens_allOrNothing_iff
    (by rintro input (_ | ⟨_, _ | ⟨_, ⟨⟩⟩⟩) <;> rfl) 1 0

/-- The deletion fails at the mask and has shifted the keys. -/
theorem deleteTokens_keysAndMask :
    ∃ status left, deleteTokensInPlace 1 0 keysAndMask = (.error status, left) ∧
      (left.map fun input => input.inputBuffer.data) = [[2, 0], [1]] ∧
      (keysAndMask.map fun input => input.inputBuffer.data) = [[1, 2], [1]] ∧
      ¬AllOrNothing 1 0 keysAndMask (deleteTokensInPlace 1 0 keysAndMask) := by
  refine ⟨.invalidArgumentError "Unsupported input name.", _, rfl, rfl, rfl, ?_⟩
  rintro ⟨kept, -⟩
  have same := congrArg (List.map fun input => input.inputBuffer.data)
    (kept (.invalidArgumentError "Unsupported input name.") rfl)
  exact absurd same (by decide)

end CacheUtils

end LiteRTLM.Executor
