import LiteRTLM.Executor.CacheUtils

/-!
Contract: the shifted KV cache is a sliding window that keeps a prefix.

Owns: the window that a number of tokens leaves in a context, the buffers that hold it, and
the run of an executor that deletes, writes and counts.

Does not own: the loops over the elements of a buffer.
-/

namespace LiteRTLM.Executor

open LiteRTLM.Engine
open LiteRTLM.Library
open LiteRTLM.Util

namespace CacheUtils

/-! ## The window -/

/-- The token in a slot when `count` tokens were counted, the first `retain` of them are
kept, and the later ones start at `start`. -/
def windowToken (retain count start slot : Nat) : Option Nat :=
  if slot < min retain count then some slot
  else if retain ≤ slot ∧ slot < count - start then some (slot + start)
  else none

/-- Dropping `drop` tokens behind the prefix moves the start of the later ones. -/
theorem windowToken_drop {retain count start drop slot : Nat} (started : start ≤ count)
    (room : retain + drop ≤ count - start) :
    windowToken retain count (start + drop) slot =
      if slot < retain then windowToken retain count start slot
      else windowToken retain count start (slot + drop) := by
  simp only [windowToken]
  by_cases kept : slot < retain
  · have inPrefix : slot < min retain count := by omega
    rw [if_pos kept, if_pos inPrefix, if_pos inPrefix]
  · rw [if_neg kept, if_neg (show ¬slot < min retain count by omega),
      if_neg (show ¬slot + drop < min retain count by omega)]
    by_cases held : retain ≤ slot ∧ slot < count - (start + drop)
    · rw [if_pos held, if_pos (by omega)]
      congr 1
      omega
    · rw [if_neg held, if_neg (by omega)]

/-- The next token goes behind the window. -/
theorem windowToken_next {retain count start slot : Nat}
    (filled : start = 0 ∨ retain ≤ count - start) (started : start ≤ count) :
    windowToken retain (count + 1) start slot =
      if slot = count - start then some count else windowToken retain count start slot := by
  simp only [windowToken]
  by_cases here : slot = count - start
  · subst here
    rw [if_pos rfl]
    by_cases inPrefix : count - start < min retain (count + 1)
    · rw [if_pos inPrefix]
      congr 1
      omega
    · rw [if_neg inPrefix, if_pos (by omega)]
      congr 1
      omega
  · rw [if_neg here]
    by_cases inPrefix : slot < min retain count
    · rw [if_pos inPrefix, if_pos (by omega)]
    · rw [if_neg inPrefix, if_neg (by omega)]
      by_cases held : retain ≤ slot ∧ slot < count - start
      · rw [if_pos held, if_pos (by omega)]
      · rw [if_neg held, if_neg (by omega)]

/-! ## Buffers that hold a window -/

variable {Scalar : Type} [Zero Scalar]

/-- The row of a token, or zeros where there is none. -/
def rowOf (rows : TokenRows Scalar) (inputName : Text) (width outer : Nat) :
    Option Nat → List Scalar
  | some token => tokenRow rows inputName width token outer
  | none => List.replicate width 0

/-- A buffer of a K or V cache, of a supported type and with `slots` slots. -/
structure CacheBuffer (slots : Nat) (input : Text × TensorBuffer Scalar) (axis : Nat) : Prop where
  named : contextAxis input.1 = some axis
  supported : input.2.elementType ≠ .other
  shaped : input.2.HasSlots axis slots

/-- A buffer whose slots hold the rows of the given tokens. -/
structure HoldsTokens (rows : TokenRows Scalar) (slots : Nat) (tokenIn : Nat → Option Nat)
    (input : Text × TensorBuffer Scalar) : Prop where
  cache : ∃ axis, CacheBuffer slots input axis
  rowsHeld : ∀ axis, contextAxis input.1 = some axis → ∀ outer slot,
    outer < input.2.prevDimsSize axis → slot < slots →
    input.2.slotRow axis slots outer slot =
      rowOf rows input.1 (input.2.nextDimsSize axis) outer (tokenIn slot)

/-- The name, type and dimensions of a buffer. -/
def layout (input : Text × TensorBuffer Scalar) : Text × ElementType × List Nat :=
  (input.1, input.2.elementType, input.2.dimensions)

/-- A deletion moves the rows as the drop says. -/
theorem deleteFromBuffer_holds {rows : TokenRows Scalar} {slots drop retain : Nat}
    {tokenIn later : Nat → Option Nat} {input : Text × TensorBuffer Scalar}
    (holds : HoldsTokens rows slots tokenIn input) (inside : retain + drop ≤ slots)
    (moved : ∀ slot < slots, later slot =
      if slot < retain then tokenIn slot
      else if slot + drop < slots then tokenIn (slot + drop) else none) :
    ∃ dropped, deleteFromBuffer drop retain input = .ok dropped ∧
      HoldsTokens rows slots later dropped ∧ layout dropped = layout input := by
  obtain ⟨axis, cache⟩ := holds.cache
  obtain ⟨dropped, succeeded, sameType, sameDims, shaped, slotsMoved⟩ :=
    TensorBuffer.dropTokens_slots cache.shaped inside
  have sameWidth : dropped.nextDimsSize axis = input.2.nextDimsSize axis := by
    rw [TensorBuffer.nextDimsSize, sameDims, TensorBuffer.nextDimsSize]
  have sameOuters : dropped.prevDimsSize axis = input.2.prevDimsSize axis := by
    rw [TensorBuffer.prevDimsSize, sameDims, TensorBuffer.prevDimsSize]
  refine ⟨(input.1, dropped), ?_, ⟨⟨axis, cache.named, ?_, shaped⟩, ?_⟩, ?_⟩
  · rw [deleteFromBuffer, cache.named]
    simp only [if_neg cache.supported, succeeded]
    rfl
  · rw [sameType]
    exact cache.supported
  · intro other named outer slot outerBelow slotBelow
    have same : other = axis := by
      rw [cache.named] at named
      exact (Option.some.inj named).symm
    subst same
    rw [sameOuters] at outerBelow
    rw [slotsMoved outer slot outerBelow slotBelow, moved slot slotBelow, sameWidth]
    by_cases kept : slot < retain
    · rw [if_pos kept, if_pos kept]
      exact holds.rowsHeld other cache.named outer slot outerBelow slotBelow
    · rw [if_neg kept, if_neg kept]
      by_cases fits : slot + drop < slots
      · rw [if_pos fits, if_pos fits]
        exact holds.rowsHeld other cache.named outer (slot + drop) outerBelow fits
      · rw [if_neg fits, if_neg fits]
        rfl
  · rw [layout, layout, sameType, sameDims]

/-- The loop of a write, on block numbers. -/
theorem writeRows_blocks {outers slots width slot : Nat} {row : Nat → List Scalar}
    {data : List Scalar} (sized : data.length = outers * slots * width)
    (slotBelow : slot < slots) (rowSized : ∀ outer, (row outer).length = width)
    (rounds : Nat) (few : rounds ≤ outers) :
    (writeRows slots width slot row rounds data).length = outers * slots * width ∧
      ∀ outer other, other < slots →
        Blocks.block width (writeRows slots width slot row rounds data)
            (outer * slots + other) =
          if outer < rounds ∧ other = slot then row outer
          else Blocks.block width data (outer * slots + other) := by
  induction rounds with
  | zero => exact ⟨sized, fun outer other _ => by rw [if_neg (by omega)]; rfl⟩
  | succ rounds ih =>
    obtain ⟨earlierSized, earlierBlocks⟩ := ih (by omega)
    have target : rounds * slots + slot < outers * slots :=
      Blocks.blockIndex_lt (by omega) slotBelow
    rw [writeRows, List.range_succ, List.foldl_append]
    simp only [List.foldl_cons, List.foldl_nil]
    rw [← writeRows]
    generalize writeRows slots width slot row rounds data = earlier
      at earlierSized earlierBlocks ⊢
    refine ⟨Blocks.overwrite_block_length 0 earlierSized target (rowSized rounds), ?_⟩
    intro outer other otherBelow
    rw [Blocks.block_overwrite 0 earlierSized target (rowSized rounds)]
    by_cases here : outer = rounds ∧ other = slot
    · obtain ⟨rfl, rfl⟩ := here
      rw [if_pos rfl, if_pos ⟨by omega, rfl⟩]
    · have apart : outer * slots + other ≠ rounds * slots + slot := by
        intro same
        exact here ((Blocks.blockIndex_inj otherBelow slotBelow).mp same)
      rw [if_neg apart, earlierBlocks outer other otherBelow]
      by_cases before : outer < rounds ∧ other = slot
      · rw [if_pos before, if_pos ⟨by omega, before.2⟩]
      · rw [if_neg before, if_neg]
        intro claimed
        rcases Nat.lt_succ_iff_lt_or_eq.mp claimed.1 with earlierRound | last
        · exact before ⟨earlierRound, claimed.2⟩
        · exact here ⟨last, claimed.2⟩

/-- A write puts its token into one slot. -/
theorem writeToken_holds {rows : TokenRows Scalar} {slots token slot : Nat}
    {tokenIn later : Nat → Option Nat} {input : Text × TensorBuffer Scalar}
    (holds : HoldsTokens rows slots tokenIn input) (slotBelow : slot < slots)
    (written : ∀ other < slots,
      later other = if other = slot then some token else tokenIn other) :
    HoldsTokens rows slots later (writeToken rows token slot input) := by
  obtain ⟨axis, cache⟩ := holds.cache
  have slotsOf : input.2.dimensions.getD axis 0 = slots := by
    rw [List.getD_eq_getElem?_getD, cache.shaped.dimension, Option.getD_some]
  have rowSized : ∀ outer,
      (tokenRow rows input.1 (input.2.nextDimsSize axis) token outer).length =
        input.2.nextDimsSize axis := by
    intro outer
    rw [tokenRow, List.length_map, List.length_range]
  obtain ⟨sized, blocks⟩ := writeRows_blocks cache.shaped.sized slotBelow rowSized
    (input.2.prevDimsSize axis) (Nat.le_refl _)
  rw [writeToken, cache.named]
  simp only [slotsOf]
  refine ⟨⟨axis, cache.named, cache.supported, cache.shaped.dimension, sized⟩, ?_⟩
  intro other named outer next outerBelow nextBelow
  have same : other = axis := by
    rw [cache.named] at named
    exact (Option.some.inj named).symm
  subst same
  refine (blocks outer next nextBelow).trans ?_
  rw [written next nextBelow]
  by_cases here : next = slot
  · rw [if_pos ⟨outerBelow, here⟩, if_pos here]
    rfl
  · rw [if_neg (fun claimed => here claimed.2), if_neg here]
    exact holds.rowsHeld other cache.named outer next outerBelow nextBelow

/-- A write keeps the layout. -/
theorem layout_writeToken (rows : TokenRows Scalar) (token slot : Nat)
    (input : Text × TensorBuffer Scalar) :
    layout (writeToken rows token slot input) = layout input := by
  rw [writeToken]
  cases contextAxis input.1 <;> rfl

/-! ## Runs -/

/-- The given buffers after `count` tokens: each of them is still there, and holds the window
of the counters. -/
structure HoldsWindow (rows : TokenRows Scalar) (given : KvCacheBuffers Scalar)
    (slots retain count : Nat) (cache : ShiftedCache Scalar) : Prop where
  given : cache.buffers.map layout = given.map layout
  counted : cache.currentStep = count
  started : 0 ≤ cache.startPosition ∧ cache.startPosition ≤ count
  occupied : count - cache.startPosition.toNat ≤ slots - 1
  filled : cache.startPosition = 0 ∨ retain ≤ count - cache.startPosition.toNat
  buffers : ∀ input ∈ cache.buffers,
    HoldsTokens rows slots (windowToken retain count cache.startPosition.toNat) input

omit [Zero Scalar] in
/-- A loop over the buffers whose body succeeds on each of them. -/
theorem mapM_holds {body : Text × TensorBuffer Scalar → StatusOr (Text × TensorBuffer Scalar)}
    {before after : Text × TensorBuffer Scalar → Prop}
    (step : ∀ input, before input →
      ∃ result, body input = .ok result ∧ after result ∧ layout result = layout input)
    (inputs : KvCacheBuffers Scalar) (all : ∀ input ∈ inputs, before input) :
    ∃ results, inputs.mapM body = .ok results ∧ (∀ result ∈ results, after result) ∧
      results.map layout = inputs.map layout := by
  induction inputs with
  | nil => exact ⟨[], rfl, by simp, rfl⟩
  | cons input inputs ih =>
    obtain ⟨result, succeeded, held, kept⟩ := step input (all input List.mem_cons_self)
    obtain ⟨results, rest, restHeld, restKept⟩ := ih fun later inRest =>
      all later (List.mem_cons_of_mem input inRest)
    refine ⟨result :: results, ?_, ?_, by rw [List.map_cons, List.map_cons, kept, restKept]⟩
    · rw [List.mapM_cons, succeeded, rest]
      rfl
    · intro other inResults
      rcases List.mem_cons.mp inResults with rfl | later
      · exact held
      · exact restHeld other later

variable {rows : TokenRows Scalar} {given : KvCacheBuffers Scalar} {contextSize : UInt64}
  {drop retain : Nat}

/-- With at least two slots, the unsigned bound is the number of slots less one. -/
theorem contextBound (large : 2 ≤ contextSize.toNat) :
    (contextSize - 1).toNat = contextSize.toNat - 1 := by
  have bounded := contextSize.toNat_lt
  rw [UInt64.toNat_sub]
  simp only [UInt64.toNat_one]
  omega

/-- `DeleteTokensIfNeeded` keeps the window and leaves a slot for the next token. -/
theorem deleteTokensIfNeeded_holds {count : Nat} {cache : ShiftedCache Scalar}
    (large : 2 ≤ contextSize.toNat) (dropping : 1 ≤ drop)
    (inside : retain + drop ≤ contextSize.toNat - 1)
    (holds : HoldsWindow rows given contextSize.toNat retain count cache) :
    ∃ deleted room, deleteTokensIfNeeded cache drop retain contextSize = .ok (deleted, room) ∧
      HoldsWindow rows given contextSize.toNat retain count room ∧
      0 ≤ room.nextSlot ∧ room.nextSlot < contextSize.toNat - 1 := by
  have counted := holds.counted
  have started := holds.started
  have occupied := holds.occupied
  have filled := holds.filled
  rw [deleteTokensIfNeeded, shouldDeleteKVCacheTokens, if_neg (by omega), if_neg (by omega),
    if_neg (by omega)]
  simp only [bind, Except.bind, contextBound large]
  by_cases full : contextSize.toNat - 1 ≤ (cache.currentStep - cache.startPosition).toNat
  · have moved : ∀ slot < contextSize.toNat,
        windowToken retain count (cache.startPosition.toNat + drop) slot =
          if slot < retain then windowToken retain count cache.startPosition.toNat slot
          else if slot + drop < contextSize.toNat then
            windowToken retain count cache.startPosition.toNat (slot + drop)
          else none := by
      intro slot slotBelow
      rw [windowToken_drop (by omega) (by omega)]
      by_cases kept : slot < retain
      · rw [if_pos kept, if_pos kept]
      · rw [if_neg kept, if_neg kept]
        by_cases fits : slot + drop < contextSize.toNat
        · rw [if_pos fits]
        · rw [if_neg fits, windowToken, if_neg (by omega), if_neg (by omega)]
    obtain ⟨buffers, succeeded, held, kept⟩ := mapM_holds
      (fun input (before : HoldsTokens rows contextSize.toNat
        (windowToken retain count cache.startPosition.toNat) input) =>
        deleteFromBuffer_holds before (show retain + drop ≤ _ by omega) moved)
      cache.buffers holds.buffers
    simp only [if_pos (decide_eq_true full), deleteTokensFromKvCache, succeeded]
    refine ⟨true, _, rfl, ⟨kept.trans holds.given, counted, ⟨?_, ?_⟩, ?_, ?_, ?_⟩, ?_, ?_⟩
    · show 0 ≤ cache.startPosition + drop
      omega
    · show cache.startPosition + drop ≤ count
      omega
    · show count - (cache.startPosition + drop).toNat ≤ contextSize.toNat - 1
      omega
    · right
      show retain ≤ count - (cache.startPosition + drop).toNat
      omega
    · intro input inBuffers
      have start : (cache.startPosition + drop).toNat = cache.startPosition.toNat + drop := by
        omega
      show HoldsTokens rows contextSize.toNat
        (windowToken retain count (cache.startPosition + drop).toNat) input
      rw [start]
      exact held input inBuffers
    · show 0 ≤ cache.currentStep - (cache.startPosition + drop)
      omega
    · show cache.currentStep - (cache.startPosition + drop) < _
      omega
  · simp only [if_neg (fun claimed => full (of_decide_eq_true claimed))]
    refine ⟨false, cache, rfl, holds, ?_, ?_⟩
    · rw [ShiftedCache.nextSlot]
      omega
    · rw [ShiftedCache.nextSlot]
      omega

/-- The write of the next token makes the window of one token more. -/
theorem writeNext_holds {count : Nat} {room : ShiftedCache Scalar}
    (holds : HoldsWindow rows given contextSize.toNat retain count room)
    (nonneg : 0 ≤ room.nextSlot) (below : room.nextSlot < contextSize.toNat - 1) :
    HoldsWindow rows given contextSize.toNat retain (count + 1) (room.writeNext rows) := by
  have counted := holds.counted
  have started := holds.started
  have filled := holds.filled
  rw [ShiftedCache.nextSlot] at nonneg below
  have slotIs : room.nextSlot.toNat = count - room.startPosition.toNat := by
    rw [ShiftedCache.nextSlot]
    omega
  have tokenIs : room.currentStep.toNat = count := by omega
  refine ⟨?_, ?_, ?_, ?_, ?_, ?_⟩
  · rw [← holds.given]
    show (room.buffers.map _).map layout = _
    rw [List.map_map]
    exact List.map_congr_left fun input _ => layout_writeToken _ _ _ input
  · show room.currentStep + 1 = _
    omega
  · show 0 ≤ room.startPosition ∧ room.startPosition ≤ _
    omega
  · show count + 1 - room.startPosition.toNat ≤ _
    omega
  · show room.startPosition = 0 ∨ retain ≤ count + 1 - room.startPosition.toNat
    omega
  · intro input inBuffers
    obtain ⟨old, oldIn, rfl⟩ := List.mem_map.mp inBuffers
    have next : ∀ slot < contextSize.toNat,
        windowToken retain (count + 1) room.startPosition.toNat slot =
          if slot = count - room.startPosition.toNat then some count
          else windowToken retain count room.startPosition.toNat slot := by
      intro slot _
      exact windowToken_next (by omega) (by omega)
    rw [tokenIs, slotIs]
    exact writeToken_holds (holds.buffers old oldIn) (by omega) next

/-- A cache without tokens. -/
theorem holdsWindow_initial {buffers : KvCacheBuffers Scalar}
    (large : 2 ≤ contextSize.toNat)
    (caches : ∀ input ∈ buffers, ∃ axis, CacheBuffer contextSize.toNat input axis)
    (zeroed : ∀ input ∈ buffers, ∀ element ∈ input.2.data, element = 0) :
    HoldsWindow rows buffers contextSize.toNat retain 0 ⟨buffers, 0, 0⟩ := by
  refine ⟨rfl, rfl, ⟨le_refl _, le_refl _⟩, ?_, Or.inl rfl, ?_⟩
  · show 0 - _ ≤ _
    omega
  · intro input inBuffers
    refine ⟨caches input inBuffers, fun axis named outer slot outerBelow slotBelow => ?_⟩
    obtain ⟨other, cache⟩ := caches input inBuffers
    have same : axis = other := by
      rw [cache.named] at named
      exact (Option.some.inj named).symm
    subst same
    have zeros : input.2.data = List.replicate
        (input.2.prevDimsSize axis * contextSize.toNat * input.2.nextDimsSize axis) 0 := by
      rw [← cache.shaped.sized]
      exact List.eq_replicate_iff.mpr ⟨rfl, zeroed input inBuffers⟩
    rw [TensorBuffer.slotRow, zeros,
      Blocks.block_replicate 0 (Blocks.blockIndex_lt outerBelow slotBelow), windowToken,
      if_neg (by omega), if_neg (by omega)]
    rfl

/-- Every number of steps succeeds and keeps the given buffers, with the sliding window that
keeps its prefix in each of them; so does the deletion before the next step, and the slot
written then lies in the context. -/
theorem runSteps_window (rows : TokenRows Scalar) (contextSize : UInt64)
    (drop retain : Nat) (buffers : KvCacheBuffers Scalar)
    (large : 2 ≤ contextSize.toNat) (dropping : 1 ≤ drop)
    (inside : retain + drop ≤ contextSize.toNat - 1)
    (caches : ∀ input ∈ buffers, ∃ axis, CacheBuffer contextSize.toNat input axis)
    (zeroed : ∀ input ∈ buffers, ∀ element ∈ input.2.data, element = 0) (steps : Nat) :
    ∃ cache deleted room, runSteps rows drop retain contextSize buffers steps = .ok cache ∧
      HoldsWindow rows buffers contextSize.toNat retain steps cache ∧
      deleteTokensIfNeeded cache drop retain contextSize = .ok (deleted, room) ∧
      HoldsWindow rows buffers contextSize.toNat retain steps room ∧
      0 ≤ room.nextSlot ∧ room.nextSlot < contextSize.toNat := by
  have reached : ∃ cache, runSteps rows drop retain contextSize buffers steps = .ok cache ∧
      HoldsWindow rows buffers contextSize.toNat retain steps cache := by
    induction steps with
    | zero => exact ⟨_, rfl, holdsWindow_initial large caches zeroed⟩
    | succ steps ih =>
      obtain ⟨cache, ran, holds⟩ := ih
      obtain ⟨deleted, room, made, roomHolds, nonneg, below⟩ :=
        deleteTokensIfNeeded_holds large dropping inside holds
      refine ⟨room.writeNext rows, ?_, writeNext_holds roomHolds nonneg below⟩
      rw [runSteps, ran]
      simp only [bind, Except.bind, made]
      rfl
  obtain ⟨cache, ran, holds⟩ := reached
  obtain ⟨deleted, room, made, roomHolds, nonneg, below⟩ :=
    deleteTokensIfNeeded_holds large dropping inside holds
  exact ⟨cache, deleted, room, ran, holds, made, roomHolds, nonneg, by omega⟩

/-- A K and a V buffer with four slots of two elements. -/
def smallBuffers : KvCacheBuffers Int :=
  [(cacheKName ++ ['0'], ⟨.float32, [1, 1, 4, 2], List.replicate 8 0⟩),
    (cacheVName ++ ['0'], ⟨.int8, [1, 1, 2, 4], List.replicate 8 0⟩)]

/-- Six tokens in four slots, with one token kept and one dropped at a time. -/
theorem runSteps_window_smallBuffers :
    ∃ cache deleted room,
      runSteps (fun _ token _ inner => (10 * token + inner + 1 : Int)) (1 : Nat) (1 : Nat) 4
        smallBuffers 6 = .ok cache ∧
      HoldsWindow (fun _ token _ inner => (10 * token + inner + 1 : Int)) smallBuffers
        (UInt64.toNat 4) 1 6 cache ∧
      deleteTokensIfNeeded cache (1 : Nat) (1 : Nat) 4 = .ok (deleted, room) ∧
      HoldsWindow (fun _ token _ inner => (10 * token + inner + 1 : Int)) smallBuffers
        (UInt64.toNat 4) 1 6 room ∧
      0 ≤ room.nextSlot ∧ room.nextSlot < UInt64.toNat 4 :=
  runSteps_window _ 4 1 1 smallBuffers (by decide) (by decide) (by decide)
    (by
      intro input inBuffers
      rcases List.mem_cons.mp inBuffers with rfl | second
      · exact ⟨2, by decide, by decide, rfl, rfl⟩
      · rw [List.mem_singleton] at second
        subst second
        exact ⟨3, by decide, by decide, rfl, rfl⟩)
    (by decide) 6

end CacheUtils

end LiteRTLM.Executor
