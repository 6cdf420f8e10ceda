import LiteRTLM.Executor.KvCaches
import LiteRTLM.Executor.PositionInvariant

/-!
Contract: the input cache holds the rows of the processed tokens.

Owns: what copies and model runs do to the buffers of a map, which candidates the calls
keep, and the invariant that ties the input cache to the token history over all runs.

Does not own: which tokens become pending.
-/

namespace LiteRTLM.Executor.CachedExecutor

open LiteRTLM.Engine
open LiteRTLM.Library
open LiteRTLM.Util

variable {Scalar Row : Type}

/-! ## Maps of buffers -/

section Buffers

variable {names : List Text} {buffers src dst inputs outputs : CacheBuffers}
  {memory after : CacheMemory Row} {name : Text} {buffer : Nat}

theorem mem_of_lookup (found : buffers.lookup name = some buffer) : (name, buffer) ∈ buffers := by
  obtain ⟨front, back, isSplit, -⟩ := List.lookup_eq_some_iff.mp found
  rw [isSplit]
  exact List.mem_append_right _ List.mem_cons_self

/-- A name has one buffer. -/
theorem DistinctBuffers.unique (distinct : DistinctBuffers names buffers) {other : Nat}
    (member : (name, buffer) ∈ buffers) (otherMember : (name, other) ∈ buffers) :
    other = buffer := by
  have noDuplicates : (buffers.map Prod.fst).Nodup := by
    rw [distinct.sameNames]
    exact distinct.noDuplicates
  have same := List.inj_on_of_nodup_map noDuplicates otherMember member rfl
  exact congrArg Prod.snd same

theorem DistinctBuffers.exists_of_name (distinct : DistinctBuffers names buffers)
    (member : name ∈ names) : ∃ buffer, (name, buffer) ∈ buffers := by
  rw [← distinct.sameNames] at member
  obtain ⟨entry, isEntry, rfl⟩ := List.mem_map.mp member
  exact ⟨entry.2, isEntry⟩

theorem DistinctBuffers.name_mem (distinct : DistinctBuffers names buffers)
    (member : (name, buffer) ∈ buffers) : name ∈ names := by
  rw [← distinct.sameNames]
  exact List.mem_map_of_mem member

theorem DistinctBuffers.lookup (distinct : DistinctBuffers names buffers)
    (member : (name, buffer) ∈ buffers) : buffers.lookup name = some buffer := by
  cases found : buffers.lookup name with
  | none =>
      have different := List.lookup_eq_none_iff.mp found _ member
      simp at different
  | some other => rw [distinct.unique member (mem_of_lookup found)]

/-- A write to one buffer of a map is not seen in another. -/
theorem update_other {other : Text} {otherBuffer : Nat} {slices : List (List Row)}
    (apart : (buffers.map Prod.snd).Nodup) (member : (name, buffer) ∈ buffers)
    (otherMember : (other, otherBuffer) ∈ buffers) (different : other ≠ name) :
    Function.update memory buffer slices otherBuffer = memory otherBuffer := by
  apply Function.update_of_ne
  intro same
  have sameEntry := List.inj_on_of_nodup_map apart otherMember member same
  exact different (congrArg Prod.fst sameEntry)

/-- A copy of all buffers: each is copied to that of its name, the others are kept. -/
theorem copyKvCacheBuffers_ok {decodeBatchSize : Nat} {index : Int}
    (noDuplicates : (src.map Prod.fst).Nodup) (apart : (dst.map Prod.snd).Nodup)
    (own : (src.map Prod.snd).Disjoint (dst.map Prod.snd))
    (ok : copyKvCacheBuffers decodeBatchSize index src dst memory = .ok after) :
    (∀ name source, (name, source) ∈ src → ∃ target, (name, target) ∈ dst ∧
      copiedSlices decodeBatchSize index (memory source) (memory target) =
        .ok (after target)) ∧
    ∀ name target, (name, target) ∈ dst → name ∉ src.map Prod.fst →
      after target = memory target := by
  induction src generalizing memory with
  | nil =>
      cases ok
      exact ⟨nofun, fun _ _ _ _ => rfl⟩
  | cons entry rest inductionHypothesis =>
      obtain ⟨first, firstSource⟩ := entry
      rw [copyKvCacheBuffers] at ok
      cases found : dst.lookup first with
      | none =>
          rw [found] at ok
          cases ok
      | some firstTarget =>
          rw [found] at ok
          dsimp only at ok
          rw [except_bind_eq_ok] at ok
          obtain ⟨copied, copies, ok⟩ := ok
          have firstMember := mem_of_lookup found
          rw [List.map_cons, List.nodup_cons] at noDuplicates
          rw [List.map_cons, List.disjoint_cons_left] at own
          obtain ⟨others, kept⟩ := inductionHypothesis noDuplicates.2 own.2 ok
          have sourceKept : ∀ name source, (name, source) ∈ (first, firstSource) :: rest →
              Function.update memory firstTarget copied source = memory source := by
            intro name source member
            apply Function.update_of_ne
            rintro rfl
            have inTargets : source ∈ dst.map Prod.snd := List.mem_map_of_mem firstMember
            rcases List.mem_cons.mp member with isFirst | isLater
            · cases isFirst
              exact own.1 inTargets
            · exact own.2 (List.mem_map_of_mem isLater) inTargets
          constructor
          · intro name source member
            rcases List.mem_cons.mp member with isFirst | isLater
            · cases isFirst
              refine ⟨firstTarget, firstMember, ?_⟩
              rw [kept first firstTarget firstMember noDuplicates.1, Function.update_self]
              exact copies
            · obtain ⟨target, targetMember, copiesLater⟩ := others name source isLater
              have different : name ≠ first := by
                rintro rfl
                exact noDuplicates.1 (List.mem_map.mpr ⟨_, isLater, rfl⟩)
              rw [sourceKept name source member,
                update_other apart firstMember targetMember different] at copiesLater
              exact ⟨target, targetMember, copiesLater⟩
          · intro name target member missing
            rw [List.map_cons, List.mem_cons, not_or] at missing
            rw [kept name target member missing.2,
              update_other apart firstMember member missing.1]

/-- The writes of a model run, one output after the other. -/
theorem runOnCaches_writes {rowOf : Text → Int → Row} {fed : List (List Int)}
    (apart : (outputs.map Prod.snd).Nodup) (earlier : CacheMemory Row) :
    let written := outputs.foldl
      (fun written output =>
        match inputs.lookup output.1 with
        | none => written
        | some input => Function.update written output.2
            (appendedSlices rowOf fed output.1 (memory input))) earlier
    (∀ name target input, (name, target) ∈ outputs → inputs.lookup name = some input →
      written target = appendedSlices rowOf fed name (memory input)) ∧
    ∀ target, target ∉ outputs.map Prod.snd → written target = earlier target := by
  induction outputs generalizing earlier with
  | nil => exact ⟨nofun, fun _ _ => rfl⟩
  | cons output rest inductionHypothesis =>
      obtain ⟨first, firstTarget⟩ := output
      rw [List.map_cons, List.nodup_cons] at apart
      obtain ⟨others, kept⟩ := inductionHypothesis apart.2
        (match inputs.lookup first with
        | none => earlier
        | some input => Function.update earlier firstTarget
            (appendedSlices rowOf fed first (memory input)))
      rw [List.foldl_cons]
      constructor
      · intro name target input member found
        rcases List.mem_cons.mp member with isFirst | isLater
        · cases isFirst
          rw [kept firstTarget apart.1, found]
          exact Function.update_self ..
        · exact others name target input isLater found
      · intro target missing
        rw [List.map_cons, List.mem_cons, not_or] at missing
        rw [kept target missing.2]
        cases inputs.lookup first with
        | none => rfl
        | some input => exact Function.update_of_ne missing.1 ..

/-- The output buffers behind a model run. -/
theorem runOnCaches_at {rowOf : Text → Int → Row} {fed : List (List Int)} {target input : Nat}
    (apart : (outputs.map Prod.snd).Nodup) (member : (name, target) ∈ outputs)
    (found : inputs.lookup name = some input) :
    runOnCaches rowOf fed inputs outputs memory target =
      appendedSlices rowOf fed name (memory input) :=
  (runOnCaches_writes apart memory).1 name target input member found

end Buffers

/-! ## The processed tokens of every candidate -/

section Candidates

variable {before after : CompiledModelExecutor Scalar} {backend : Backend Scalar}
  {processed added : ProcessedTokens Scalar}

def processedIds (processed : ProcessedTokens Scalar) : List (List Int) :=
  processed.tokens.map Tokens.tokenIds

theorem processedIds_of_single (single : processed.tokens.length = 1) :
    processedIds processed = [processed.first.tokenIds] := by
  rw [processedIds, ProcessedTokens.tokens_eq_singleton single, List.map_singleton]

theorem processedIds_addPending {token : List (TokenData Scalar)}
    (adds : processed.addPendingInputToken token = .ok added) :
    processedIds added = processedIds processed := by
  unfold ProcessedTokens.addPendingInputToken at adds
  split at adds
  · cases adds
  · rename_i sized
    have sameLength : token.length = processed.tokens.length := not_not.mp sized
    split at adds
    · cases adds
    · cases adds
      rw [processedIds, processedIds]
      dsimp only
      apply List.ext_getElem
      · simp [sameLength]
      · intro index _ _
        simp

theorem processedIds_mapPending (change : TokenData Scalar → TokenData Scalar) :
    processedIds (processed.mapPendingInputToken change) = processedIds processed := by
  simp [processedIds, ProcessedTokens.mapPendingInputToken, ProcessedTokens.mapTokens]

theorem addInputToken_processedIds {inputs : Option (List Int)}
    (succeeds : Succeeds (CompiledModelExecutor.addInputToken inputs) before () after) :
    processedIds after.processedTokens = processedIds before.processedTokens := by
  simp only [CompiledModelExecutor.addInputToken, succeeds_bind, succeeds_get, and_assoc,
    exists_and_left, exists_eq_left] at succeeds
  split at succeeds
  · simp only [succeeds_bind, CompiledModelExecutor.succeeds_onlyIf, succeeds_modify,
      CompiledModelExecutor.succeeds_retCheck,
      CompiledModelExecutor.succeeds_updateProcessedTokens, and_assoc, exists_and_left,
      exists_eq_left, exists_const] at succeeds
    obtain ⟨-, ⟨-, processed, adds, rfl⟩ | ⟨-, rfl⟩⟩ := succeeds
    · rw [processedIds_addPending adds]
      simp [processedIds, ProcessedTokens.invalidatePendingInputToken, ProcessedTokens.mapTokens]
    · rfl
  · obtain ⟨-, rfl⟩ := (succeeds_pure _).mp succeeds
    rfl

/-- `GetTokenToDecode` changes pending tokens only. -/
theorem getTokenToDecode_processedIds {inputs : Option (List Int)}
    {next : ProcessedTokens.StepAndToken Scalar}
    (succeeds : Succeeds (CompiledModelExecutor.getTokenToDecode backend inputs)
      before next after) :
    processedIds after.processedTokens = processedIds before.processedTokens := by
  simp only [CompiledModelExecutor.getTokenToDecode, succeeds_bind, succeeds_get,
    succeeds_modify, succeeds_pure, CompiledModelExecutor.succeeds_returnIfError, and_assoc,
    exists_and_left, exists_eq_left, exists_const] at succeeds
  obtain ⟨_, between, adds, _, -, -, rfl⟩ := succeeds
  rw [← addInputToken_processedIds adds]
  exact processedIds_mapPending _

/-- The candidates behind `PrepareFirstDecode`: copies of the first, or those there were. -/
theorem prepareFirstDecode_processedIds
    (succeeds : Succeeds (CompiledModelExecutor.prepareFirstDecode backend) before () after) :
    processedIds after.processedTokens =
      if before.ranDecode = false ∧ before.outputBatchSize > 1 then
        List.replicate before.outputBatchSize before.processedTokens.first.tokenIds
      else processedIds before.processedTokens := by
  simp only [CompiledModelExecutor.prepareFirstDecode, succeeds_bind, succeeds_get,
    CompiledModelExecutor.succeeds_onlyIf, succeeds_modify,
    CompiledModelExecutor.succeeds_returnIfError,
    CompiledModelExecutor.succeeds_updateProcessedTokens, and_assoc, exists_and_left,
    exists_eq_left, exists_const] at succeeds
  rcases succeeds with
    ⟨first, ⟨many, _, ⟨processed, broadcasts, rfl⟩, -, rfl⟩ | ⟨one, rfl⟩⟩ | ⟨again, rfl⟩
  · rw [if_pos ⟨by simpa using first, many⟩]
    unfold ProcessedTokens.broadcastTokenCandidates at broadcasts
    split at broadcasts
    · cases broadcasts
    · split at broadcasts
      · cases broadcasts
      · cases broadcasts
        rw [processedIds, List.map_replicate]
  · rw [if_neg fun both => one both.2]
  · rw [if_neg fun both => again (by simp [both.1])]

/-- The consumed tokens are the last processed ones. -/
theorem consume_processedIds {token : List (TokenData Scalar)}
    (pending : before.processedTokens.hasPendingInputToken = true)
    (succeeds : Succeeds (CompiledModelExecutor.consumePendingOrAddProcessedToken token)
      before () after) :
    processedIds after.processedTokens = before.processedTokens.tokens.map Tokens.allIds := by
  simp only [CompiledModelExecutor.consumePendingOrAddProcessedToken, succeeds_bind,
    succeeds_get, and_assoc, exists_and_left, exists_eq_left] at succeeds
  cases marks : before.processedTokens.markPendingInputTokenAsProcessed with
  | error status => simp [ProcessedTokens.markPendingInputTokenAsProcessed, pending] at marks
  | ok processed =>
      simp only [marks, succeeds_modify] at succeeds
      rw [succeeds]
      rw [ProcessedTokens.markPendingInputTokenAsProcessed, if_pos pending] at marks
      cases marks
      simp [processedIds, ProcessedTokens.mapTokens]

end Candidates

/-! ## Rows and tokens -/

/-- The rows of processed ids in the buffer of a name. -/
def rowsOfIds (rowOf : Text → Int → Row) (name : Text) (ids : List (List Int)) :
    List (List Row) :=
  ids.map fun candidate => candidate.map (rowOf name)

/-- Rows of fed tokens behind those of processed ones. -/
theorem appendedSlices_rowsOfIds {rowOf : Text → Int → Row} {name : Text}
    {ids fed : List (List Int)} :
    appendedSlices rowOf fed name (rowsOfIds rowOf name ids) =
      rowsOfIds rowOf name (List.zipWith (· ++ ·) ids fed) := by
  induction ids generalizing fed with
  | nil => rfl
  | cons candidate rest inductionHypothesis =>
      cases fed with
      | nil => rfl
      | cons tokens others =>
          have further := @inductionHypothesis others
          rw [appendedSlices, rowsOfIds] at further ⊢
          rw [List.map_cons, List.zipWith_cons_cons, List.zipWith_cons_cons, further, rowsOfIds,
            rowsOfIds, List.map_cons, List.map_append]

/-- Feeding every candidate its pending token. -/
theorem zipWith_pending {processed : ProcessedTokens Scalar}
    (pending : processed.hasPendingInputToken = true) :
    List.zipWith (· ++ ·) (processedIds processed)
        (processed.getPendingInputToken.map fun token => [token.id]) =
      processed.tokens.map Tokens.allIds := by
  have everyPending : ∀ candidate ∈ processed.tokens,
      candidate.pendingInputToken.isSome = true := fun candidate member =>
    (ProcessedTokens.pendingInputToken_isSome member).trans pending
  unfold processedIds ProcessedTokens.getPendingInputToken
  generalize processed.tokens = tokens at everyPending
  induction tokens with
  | nil => rfl
  | cons candidate rest inductionHypothesis =>
      obtain ⟨token, held⟩ :=
        Option.isSome_iff_exists.mp (everyPending candidate List.mem_cons_self)
      have further := inductionHypothesis
        fun other member => everyPending other (List.mem_cons_of_mem _ member)
      rw [List.filterMap_cons_some held, List.map_cons, List.map_cons, List.zipWith_cons_cons,
        further, List.map_cons, Tokens.allIds.eq_def candidate, held]
      rfl

/-! ## The layout of the caches -/

/-- All maps have the same names, and the decode caches have buffers of their own. -/
structure Layout (names : List Text) (state : CachedExecutor Scalar Row) : Prop where
  first : DistinctBuffers names state.kvCacheBuffers1
  second : DistinctBuffers names state.kvCacheBuffers2
  decode : ∀ buffers ∈ state.decodeKvCacheBuffers1.toList ++ state.decodeKvCacheBuffers2.toList,
    DistinctBuffers names buffers ∧
      (state.kvCacheBuffers1.map Prod.snd).Disjoint (buffers.map Prod.snd) ∧
      (state.kvCacheBuffers2.map Prod.snd).Disjoint (buffers.map Prod.snd)

/-- The pointers are at the caches of one candidate. -/
def AtSingleCaches (state : CachedExecutor Scalar Row) : Prop :=
  (state.inputKvCacheBuffers = .kvCacheBuffers1 ∧
    state.outputKvCacheBuffers = .kvCacheBuffers2) ∨
  (state.inputKvCacheBuffers = .kvCacheBuffers2 ∧ state.outputKvCacheBuffers = .kvCacheBuffers1)

/-- The pointers are at the decode caches, which exist. -/
def AtDecodeCaches (state : CachedExecutor Scalar Row) : Prop :=
  (∃ first, state.decodeKvCacheBuffers1 = some first) ∧
  (∃ second, state.decodeKvCacheBuffers2 = some second) ∧
  ((state.inputKvCacheBuffers = .decodeKvCacheBuffers1 ∧
      state.outputKvCacheBuffers = .decodeKvCacheBuffers2) ∨
    (state.inputKvCacheBuffers = .decodeKvCacheBuffers2 ∧
      state.outputKvCacheBuffers = .decodeKvCacheBuffers1))

/-- The executor decodes several candidates. -/
def Batched (executor : CompiledModelExecutor Scalar) : Prop :=
  executor.ranDecode = true ∧ 1 < executor.outputBatchSize

instance (executor : CompiledModelExecutor Scalar) : Decidable (Batched executor) :=
  inferInstanceAs (Decidable (_ ∧ _))

/-- The pointers are where the candidates are. -/
def PointersMatch (state : CachedExecutor Scalar Row) : Prop :=
  (Batched state.executor → AtDecodeCaches state) ∧
    (¬Batched state.executor → AtSingleCaches state)

/-- The input cache holds the rows of these ids. -/
def HoldsRows (rowOf : Text → Int → Row) (state : CachedExecutor Scalar Row)
    (ids : List (List Int)) : Prop :=
  ∀ name buffer, (name, buffer) ∈ state.inputCache →
    state.memory buffer = rowsOfIds rowOf name ids

/-- The caches and the token history belong together. -/
structure CachesMatch (rowOf : Text → Int → Row) (names : List Text)
    (state : CachedExecutor Scalar Row) : Prop where
  positive : 0 < state.executor.outputBatchSize
  candidates : state.executor.processedTokens.tokens.length = state.executor.candidateCount
  layout : Layout names state
  pointers : PointersMatch state
  rows : HoldsRows rowOf state (processedIds state.executor.processedTokens)

variable {rowOf : Text → Int → Row} {names : List Text} {state final : CachedExecutor Scalar Row}

theorem PointersMatch.distinct (pointers : PointersMatch state) (layout : Layout names state) :
    DistinctBuffers names state.inputCache ∧ DistinctBuffers names state.outputCache := by
  unfold inputCache outputCache
  by_cases batched : Batched state.executor
  · obtain ⟨⟨first, isFirst⟩, ⟨second, isSecond⟩, atFirst | atSecond⟩ := pointers.1 batched
    · rw [atFirst.1, atFirst.2, buffersAt, buffersAt, isFirst, isSecond]
      exact ⟨(layout.decode first (by simp [isFirst])).1,
        (layout.decode second (by simp [isSecond])).1⟩
    · rw [atSecond.1, atSecond.2, buffersAt, buffersAt, isFirst, isSecond]
      exact ⟨(layout.decode second (by simp [isSecond])).1,
        (layout.decode first (by simp [isFirst])).1⟩
  · rcases pointers.2 batched with atFirst | atSecond
    · rw [atFirst.1, atFirst.2]
      exact ⟨layout.first, layout.second⟩
    · rw [atSecond.1, atSecond.2]
      exact ⟨layout.second, layout.first⟩

/-- The decode caches share no buffers with those of one candidate. -/
theorem AtDecodeCaches.own (atDecode : AtDecodeCaches state) (layout : Layout names state) :
    (state.inputCache.map Prod.snd).Disjoint (state.kvCacheBuffers1.map Prod.snd) ∧
      (state.inputCache.map Prod.snd).Disjoint (state.kvCacheBuffers2.map Prod.snd) := by
  obtain ⟨⟨first, isFirst⟩, ⟨second, isSecond⟩, atFirst | atSecond⟩ := atDecode
  · obtain ⟨-, fromFirst, fromSecond⟩ := layout.decode first (by simp [isFirst])
    rw [inputCache, atFirst.1, buffersAt, isFirst]
    exact ⟨fromFirst.symm, fromSecond.symm⟩
  · obtain ⟨-, fromFirst, fromSecond⟩ := layout.decode second (by simp [isSecond])
    rw [inputCache, atSecond.1, buffersAt, isSecond]
    exact ⟨fromFirst.symm, fromSecond.symm⟩

/-- The pointers after a swap. -/
theorem PointersMatch.swap (pointers : PointersMatch state) (memory : CacheMemory Row) :
    PointersMatch { state with
      memory
      inputKvCacheBuffers := state.outputKvCacheBuffers
      outputKvCacheBuffers := state.inputKvCacheBuffers } := by
  refine ⟨fun batched => ?_, fun single => ?_⟩
  · obtain ⟨first, second, atFirst | atSecond⟩ := pointers.1 batched
    · exact ⟨first, second, .inr ⟨atFirst.2, atFirst.1⟩⟩
    · exact ⟨first, second, .inl ⟨atSecond.2, atSecond.1⟩⟩
  · rcases pointers.2 single with atFirst | atSecond
    · exact .inr ⟨atFirst.2, atFirst.1⟩
    · exact .inl ⟨atSecond.2, atSecond.1⟩

/-- A model run: the rows of the fed tokens are behind those the input cache held, and
the pointers have moved on to them. -/
theorem runAndSwap_rows {ids fed : List (List Int)} (layout : Layout names state)
    (pointers : PointersMatch state) (rows : HoldsRows rowOf state ids)
    (succeeds : Succeeds (runAndSwap rowOf fed) state () final) :
    final.executor = state.executor ∧ Layout names final ∧ PointersMatch final ∧
      HoldsRows rowOf final (List.zipWith (· ++ ·) ids fed) := by
  rw [runAndSwap, succeeds_modify] at succeeds
  obtain ⟨inputs, outputs⟩ := pointers.distinct layout
  subst succeeds
  refine ⟨rfl, ⟨layout.first, layout.second, layout.decode⟩, pointers.swap _, ?_⟩
  intro name target member
  obtain ⟨input, isInput⟩ := inputs.exists_of_name (outputs.name_mem member)
  show runOnCaches rowOf fed state.inputCache state.outputCache state.memory target = _
  rw [runOnCaches_at outputs.apart member (inputs.lookup isInput), rows name input isInput,
    appendedSlices_rowsOfIds]

theorem Layout.withExecutor (layout : Layout names state)
    (executor : CompiledModelExecutor Scalar) : Layout names { state with executor } :=
  ⟨layout.first, layout.second, layout.decode⟩

/-- Counters and history that keep the mode leave the pointers where they belong. -/
theorem PointersMatch.withExecutor (pointers : PointersMatch state)
    {executor : CompiledModelExecutor Scalar}
    (sameMode : Batched executor ↔ Batched state.executor) :
    PointersMatch { state with executor } :=
  ⟨fun batched => pointers.1 (sameMode.mp batched),
    fun single => pointers.2 fun batched => single (sameMode.mpr batched)⟩

/-- A change of the pending tokens alone. -/
theorem CachesMatch.withExecutor (caches : CachesMatch rowOf names state)
    {executor : CompiledModelExecutor Scalar} (sameMode : Batched executor ↔ Batched state.executor)
    (sameBatch : executor.outputBatchSize = state.executor.outputBatchSize)
    (sameIds : processedIds executor.processedTokens =
      processedIds state.executor.processedTokens) :
    CachesMatch rowOf names { state with executor } where
  positive := by
    rw [sameBatch]
    exact caches.positive
  candidates := by
    have sameCount := congrArg List.length sameIds
    rw [processedIds, processedIds, List.length_map, List.length_map] at sameCount
    rw [sameCount, caches.candidates]
    exact (if_congr sameMode sameBatch rfl).symm
  layout := caches.layout.withExecutor executor
  pointers := caches.pointers.withExecutor sameMode
  rows := by
    rw [sameIds]
    exact caches.rows

/-- Outside of decodes in a batch there is one candidate. -/
theorem CachesMatch.single (caches : CachesMatch rowOf names state)
    (notBatched : ¬Batched state.executor) :
    state.executor.processedTokens.tokens.length = 1 := by
  rw [caches.candidates]
  exact if_neg notBatched

/-! ## Prefill -/

/-- `PrefillInternal` of the only candidate. -/
theorem prefillInternal_matches {backend : Backend Scalar} {ids : List Int}
    (caches : CachesMatch rowOf names state) (notBatched : ¬Batched state.executor)
    (succeeds : Succeeds (prefillInternal rowOf backend ids) state () final) :
    CachesMatch rowOf names final ∧ ¬Batched final.executor := by
  rw [prefillInternal, succeeds_get_bind] at succeeds
  dsimp only at succeeds
  rw [succeeds_bind] at succeeds
  obtain ⟨_, between, prefills, succeeds⟩ := succeeds
  rw [onExecutor, succeeds_onPart] at prefills
  obtain ⟨executor, prefills, rfl⟩ := prefills
  have single := caches.single notBatched
  have pending := ProcessedTokens.getPendingInputToken_of_single single
  obtain ⟨last, -, ⟨none, one, stored⟩ | ⟨runs, ran⟩⟩ :=
    CompiledModelExecutor.prefillInternal_ok prefills
  · -- the only id is stored, without a run
    have noRun : prefillFed state.executor.processedTokens.getPendingInputToken ids = .none := by
      rw [prefillFed, ProcessedTokens.getPendingInputToken_eq_nil.mpr none]
      exact if_pos ⟨rfl, one⟩
    rw [noRun] at succeeds
    obtain ⟨-, rfl⟩ := (succeeds_pure _).mp succeeds
    have sameMode : Batched executor ↔ Batched state.executor := by
      rw [Batched, Batched, stored.ranDecode, stored.outputBatchSize]
    have afterSingle := stored.candidates.trans single
    refine ⟨caches.withExecutor sameMode stored.outputBatchSize ?_, ?_⟩
    · rw [processedIds_of_single afterSingle, processedIds_of_single single, stored.first]
    · exact fun batched => notBatched (sameMode.mp batched)
  · -- the pending token and all ids but the last are fed
    have fed : prefillFed state.executor.processedTokens.getPendingInputToken ids =
        some [state.executor.processedTokens.getPendingInputToken.map TokenData.id ++
          ids.dropLast] := by
      rw [prefillFed, if_neg]
      rintro ⟨isEmpty, one⟩
      rw [List.isEmpty_iff, ProcessedTokens.getPendingInputToken_eq_nil] at isEmpty
      rcases runs with isPending | more
      · rw [isEmpty] at isPending
        cases isPending
      · exact more one
    rw [fed] at succeeds
    have sameMode : Batched executor ↔ Batched state.executor := by
      rw [Batched, Batched, ran.ranDecode, ran.outputBatchSize]
    have afterSingle := ran.candidates.trans single
    have rowsBefore : HoldsRows rowOf { state with executor }
        (processedIds state.executor.processedTokens) := caches.rows
    have pointersBefore : PointersMatch { state with executor } :=
      caches.pointers.withExecutor sameMode
    obtain ⟨sameExecutor, layout, pointers, rows⟩ :=
      runAndSwap_rows (caches.layout.withExecutor executor) pointersBefore rowsBefore succeeds
    refine ⟨⟨?_, ?_, layout, pointers, ?_⟩, ?_⟩
    · rw [sameExecutor, ran.outputBatchSize]
      exact caches.positive
    · rw [sameExecutor]
      dsimp only
      rw [afterSingle]
      exact (if_neg fun batched => notBatched (sameMode.mp batched)).symm
    · rw [sameExecutor]
      dsimp only
      rw [processedIds_of_single afterSingle, ran.firstIds]
      rw [processedIds_of_single single, pending, List.zipWith_cons_cons, List.zipWith_nil_left,
        ← List.append_assoc] at rows
      rw [Tokens.allIds]
      cases held : state.executor.processedTokens.first.pendingInputToken with
      | none =>
          rw [held] at rows
          exact rows
      | some token =>
          rw [held] at rows
          exact rows
    · rw [sameExecutor]
      exact fun batched => notBatched (sameMode.mp batched)

theorem prefillGroups_matches {workGroups : List (Nat × Backend Scalar)} {ids : List Int}
    (caches : CachesMatch rowOf names state) (notBatched : ¬Batched state.executor)
    (succeeds : Succeeds (prefillGroups rowOf workGroups ids) state () final) :
    CachesMatch rowOf names final := by
  induction workGroups generalizing state ids with
  | nil =>
      rw [prefillGroups, onExecutor, succeeds_onPart] at succeeds
      obtain ⟨executor, checks, rfl⟩ := succeeds
      rw [((CompiledModelExecutor.succeeds_retCheck _ _).mp checks).2]
      exact caches
  | cons group rest inductionHypothesis =>
      rw [prefillGroups, succeeds_bind] at succeeds
      obtain ⟨_, created, creates, succeeds⟩ := succeeds
      rw [onExecutor, succeeds_onPart] at creates
      obtain ⟨executor, creates, rfl⟩ := creates
      rw [((CompiledModelExecutor.succeeds_returnIfError _).mp creates).2, succeeds_bind]
        at succeeds
      obtain ⟨_, between, prefills, succeeds⟩ := succeeds
      obtain ⟨betweenCaches, betweenMode⟩ := prefillInternal_matches caches notBatched prefills
      exact inductionHypothesis betweenCaches betweenMode succeeds

/-! ## The switches between prefill and decode -/

section Copies

variable {decodeBatchSize : Nat} {src dst copied : List (List Row)}

/-- The first prefill after decodes keeps the slice of the first candidate. -/
theorem copiedSlices_reduce (positive : 0 < decodeBatchSize) (sized : src.length = decodeBatchSize)
    (ok : copiedSlices decodeBatchSize 0 src dst = .ok copied) : copied = src.take 1 := by
  unfold copiedSlices at ok
  rw [if_pos (Int.le_refl 0), sized] at ok
  split at ok
  · cases ok
  · rename_i sameSize
    have one : dst.length = 1 := by
      have total : 1 * decodeBatchSize = dst.length * decodeBatchSize := by
        rw [Nat.one_mul]
        exact not_not.mp sameSize
      exact (Nat.eq_of_mul_eq_mul_right positive total).symm
    split at ok
    · cases ok
    · cases ok
      rw [one, Int.toNat_zero, Nat.zero_mul, List.drop_zero]

/-- The first decode gives every candidate the slice of the only one. -/
theorem copiedSlices_broadcast {slice : List Row}
    (ok : copiedSlices decodeBatchSize (-1) [slice] dst = .ok copied) :
    copied = List.replicate decodeBatchSize slice := by
  unfold copiedSlices at ok
  rw [if_neg (by decide)] at ok
  split at ok
  · cases ok
  · cases ok
    rw [List.flatten_replicate_singleton]

end Copies

/-- The target of a switch holds what was copied from the input cache. -/
theorem switchCaches_rows {decodeBatchSize : Nat} {index : Int} {target : CacheBuffers}
    {input output : CachePointer} {ids keptIds : List (List Int)}
    (inputs : DistinctBuffers names state.inputCache) (targets : DistinctBuffers names target)
    (own : (state.inputCache.map Prod.snd).Disjoint (target.map Prod.snd))
    (rows : HoldsRows rowOf state ids)
    (copies : ∀ name (dst copied : List (List Row)),
      copiedSlices decodeBatchSize index (rowsOfIds rowOf name ids) dst = .ok copied →
        copied = rowsOfIds rowOf name keptIds)
    (succeeds : Succeeds (switchCaches decodeBatchSize index target input output)
      state () final) :
    ∃ memory, final = { state with
        memory, inputKvCacheBuffers := input, outputKvCacheBuffers := output } ∧
      ∀ name buffer, (name, buffer) ∈ target → memory buffer = rowsOfIds rowOf name keptIds := by
  rw [switchCaches, succeeds_get_bind] at succeeds
  cases copied : copyKvCacheBuffers decodeBatchSize index state.inputCache target
      state.memory with
  | error status =>
      rw [copied] at succeeds
      exact absurd succeeds (succeeds_throw _)
  | ok memory =>
      rw [copied] at succeeds
      dsimp only at succeeds
      rw [succeeds_modify] at succeeds
      refine ⟨memory, succeeds, ?_⟩
      have noDuplicates : (state.inputCache.map Prod.fst).Nodup := by
        rw [inputs.sameNames]
        exact inputs.noDuplicates
      obtain ⟨copiedAll, -⟩ := copyKvCacheBuffers_ok noDuplicates targets.apart own copied
      intro name buffer member
      obtain ⟨source, isSource⟩ := inputs.exists_of_name (targets.name_mem member)
      obtain ⟨other, isTarget, copiedSlice⟩ := copiedAll name source isSource
      rw [targets.unique member isTarget, rows name source isSource] at copiedSlice
      exact copies name _ _ copiedSlice

/-- The switch from decode back to prefill. -/
theorem reduceToPrefill_matches {backend : Backend Scalar}
    (caches : CachesMatch rowOf names state)
    (succeeds : Succeeds (reduceToPrefill backend) state () final) :
    CachesMatch rowOf names final ∧ ¬Batched final.executor := by
  rw [reduceToPrefill, succeeds_get_bind, succeeds_bind] at succeeds
  obtain ⟨_, between, reduces, succeeds⟩ := succeeds
  rw [onExecutor, succeeds_onPart] at reduces
  obtain ⟨executor, reduces, rfl⟩ := reduces
  obtain ⟨processedTokens, isReduced, first, count⟩ :=
    CompiledModelExecutor.reduceToPrefill_ok reduces
  have notBatched : ¬Batched executor := by
    rw [isReduced]
    exact fun batched => Bool.false_ne_true batched.1
  have sameBatch : executor.outputBatchSize = state.executor.outputBatchSize := by rw [isReduced]
  have single : executor.processedTokens.tokens.length = 1 := by
    rw [isReduced]
    dsimp only
    rw [count, caches.candidates, CompiledModelExecutor.candidateCount]
    by_cases many : state.executor.ranDecode = true ∧ 1 < state.executor.outputBatchSize
    · rw [if_pos many]
    · rw [if_neg many, if_neg many]
  have ids : processedIds executor.processedTokens =
      [state.executor.processedTokens.first.tokenIds] := by
    rw [processedIds_of_single single, isReduced, first]
  by_cases batched : Batched state.executor
  · have batch : state.executor.ranDecode = true ∧ state.executor.outputBatchSize > 1 := batched
    rw [if_pos batch] at succeeds
    have own : (state.inputCache.map Prod.snd).Disjoint (state.kvCacheBuffers1.map Prod.snd) :=
      ((caches.pointers.1 batched).own caches.layout).1
    have copies : ∀ name (dst copied : List (List Row)),
        copiedSlices state.executor.outputBatchSize 0
          (rowsOfIds rowOf name (processedIds state.executor.processedTokens)) dst = .ok copied →
        copied = rowsOfIds rowOf name [state.executor.processedTokens.first.tokenIds] := by
      intro name dst copied ok
      have sized : (rowsOfIds rowOf name (processedIds state.executor.processedTokens)).length =
          state.executor.outputBatchSize := by
        rw [rowsOfIds, List.length_map, processedIds, List.length_map, caches.candidates]
        exact if_pos batched
      rw [copiedSlices_reduce caches.positive sized ok, rowsOfIds, ← List.map_take, processedIds,
        ← List.map_take, List.take_one, List.head?_eq_some_head
          state.executor.processedTokens.nonempty]
      rfl
    have inputs := (caches.pointers.distinct caches.layout).1
    obtain ⟨memory, isFinal, rows⟩ := @switchCaches_rows _ _ rowOf names
      { state with executor } final _ _ _ _ _ _ _ inputs caches.layout.first own caches.rows copies
      succeeds
    subst isFinal
    refine ⟨⟨?_, ?_, ⟨caches.layout.first, caches.layout.second, caches.layout.decode⟩, ?_, ?_⟩,
      notBatched⟩
    · exact sameBatch ▸ caches.positive
    · rw [single]
      exact (if_neg notBatched).symm
    · exact ⟨fun both => absurd both notBatched, fun _ => .inl ⟨rfl, rfl⟩⟩
    · rw [ids]
      exact rows
  · have noBatch : ¬(state.executor.ranDecode = true ∧ state.executor.outputBatchSize > 1) :=
      batched
    rw [if_neg noBatch] at succeeds
    obtain ⟨-, rfl⟩ := (succeeds_pure _).mp succeeds
    refine ⟨caches.withExecutor (iff_of_false notBatched batched) sameBatch ?_, notBatched⟩
    rw [ids, processedIds_of_single (caches.single batched)]

/-- The switch from prefill to decode. -/
theorem prepareFirstDecode_matches {backend : Backend Scalar}
    (caches : CachesMatch rowOf names state)
    (succeeds : Succeeds (prepareFirstDecode backend) state () final) :
    CachesMatch rowOf names final := by
  rw [prepareFirstDecode, succeeds_get_bind, succeeds_bind] at succeeds
  obtain ⟨_, between, prepares, succeeds⟩ := succeeds
  rw [onExecutor, succeeds_onPart] at prepares
  obtain ⟨executor, prepares, rfl⟩ := prepares
  have ids := prepareFirstDecode_processedIds prepares
  obtain ⟨processedTokens, isPrepared, -, -⟩ := CompiledModelExecutor.prepareFirstDecode_ok prepares
  have sameBatch : executor.outputBatchSize = state.executor.outputBatchSize := by
    rw [isPrepared]
  have ranDecode : executor.ranDecode = true := by rw [isPrepared]
  by_cases first : state.executor.ranDecode = false ∧ state.executor.outputBatchSize > 1
  · rw [if_pos first] at succeeds ids
    have notBatched : ¬Batched state.executor := by
      rw [Batched, first.1]
      exact fun batched => Bool.false_ne_true batched.1
    cases isFirst : state.decodeKvCacheBuffers1 with
    | none =>
        rw [isFirst] at succeeds
        exact absurd succeeds (succeeds_throw _)
    | some target =>
        cases isSecond : state.decodeKvCacheBuffers2 with
        | none =>
            rw [isFirst, isSecond] at succeeds
            exact absurd succeeds (succeeds_throw _)
        | some second =>
            rw [isFirst, isSecond] at succeeds
            dsimp only at succeeds
            rw [← isFirst, ← isSecond] at succeeds
            obtain ⟨targets, fromFirst, fromSecond⟩ :=
              caches.layout.decode target (by simp [isFirst])
            have own : (state.inputCache.map Prod.snd).Disjoint (target.map Prod.snd) := by
              rcases caches.pointers.2 notBatched with atFirst | atSecond
              · rw [inputCache, atFirst.1]
                exact fromFirst
              · rw [inputCache, atSecond.1]
                exact fromSecond
            have copies : ∀ name (dst copied : List (List Row)),
                copiedSlices state.executor.outputBatchSize (-1)
                  (rowsOfIds rowOf name (processedIds state.executor.processedTokens)) dst =
                    .ok copied →
                copied = rowsOfIds rowOf name (List.replicate state.executor.outputBatchSize
                  state.executor.processedTokens.first.tokenIds) := by
              intro name dst copied ok
              rw [processedIds_of_single (caches.single notBatched)] at ok
              rw [copiedSlices_broadcast ok, rowsOfIds, List.map_replicate]
            have inputs := (caches.pointers.distinct caches.layout).1
            obtain ⟨memory, isFinal, rows⟩ := @switchCaches_rows _ _ rowOf names
              { state with executor } final _ _ _ _ _ _ _ inputs targets own caches.rows copies
              succeeds
            subst isFinal
            refine ⟨?_, ?_, ⟨caches.layout.first, caches.layout.second, caches.layout.decode⟩,
              ?_, ?_⟩
            · exact sameBatch ▸ caches.positive
            · have count := congrArg List.length ids
              rw [processedIds, List.length_map, List.length_replicate, ← sameBatch] at count
              exact count.trans (if_pos ⟨ranDecode, sameBatch ▸ first.2⟩).symm
            · refine ⟨fun _ => ⟨⟨target, isFirst⟩, ⟨second, isSecond⟩, .inl ⟨rfl, rfl⟩⟩, ?_⟩
              exact fun single => absurd ⟨ranDecode, sameBatch ▸ first.2⟩ single
            · rw [ids]
              intro name buffer member
              rw [inputCache, buffersAt, isFirst] at member
              exact rows name buffer member
  · rw [if_neg first] at succeeds ids
    obtain ⟨-, rfl⟩ := (succeeds_pure _).mp succeeds
    apply caches.withExecutor ?_ sameBatch ids
    rw [Batched, Batched, sameBatch, ranDecode]
    refine ⟨fun batched => ⟨?_, batched.2⟩, fun batched => ⟨rfl, batched.2⟩⟩
    by_contra notYet
    exact first ⟨by simpa using notYet, batched.2⟩

theorem prefill_matches {backend : Backend Scalar} {inputBatchSize : Nat} {tokenIds : List Int}
    {workGroups : List (Nat × Backend Scalar)} (caches : CachesMatch rowOf names state)
    (succeeds : Succeeds (prefill rowOf backend inputBatchSize tokenIds workGroups)
      state () final) : CachesMatch rowOf names final := by
  rw [prefill, succeeds_bind] at succeeds
  obtain ⟨_, reduced, reduces, succeeds⟩ := succeeds
  obtain ⟨reducedCaches, notBatched⟩ := reduceToPrefill_matches caches reduces
  simp only [succeeds_bind, succeeds_get, onExecutor, succeeds_onPart,
    CompiledModelExecutor.succeeds_retCheck, CompiledModelExecutor.succeeds_returnIfError,
    and_assoc, exists_and_left, exists_eq_left, exists_const] at succeeds
  obtain ⟨-, -, _, -, _, between, groups, -, rfl⟩ := succeeds
  exact prefillGroups_matches reducedCaches notBatched groups

/-! ## Decode -/

/-- The part all decodes share: the run puts the rows of the pending tokens behind those
of the processed ones, and the consumption follows. -/
theorem decodeInputs_matches {backend : Backend Scalar} {inputs : Option (List Int)}
    {finish : StatusOr Unit} (caches : CachesMatch rowOf names state)
    (succeeds : Succeeds (decodeInputs rowOf backend inputs finish) state () final) :
    CachesMatch rowOf names final := by
  rw [decodeInputs, succeeds_bind] at succeeds
  obtain ⟨_, prepared, prepares, succeeds⟩ := succeeds
  have preparedCaches := prepareFirstDecode_matches caches prepares
  simp only [succeeds_bind, onExecutor, succeeds_onPart, succeeds_modify,
    CompiledModelExecutor.succeeds_returnIfError] at succeeds
  obtain ⟨next, _, ⟨looked, looks, rfl⟩, _, _, ⟨ran, runs, rfl⟩, _, swapped, swaps, _, _,
    ⟨_, consumes, rfl⟩, _, _, ⟨consumed, ⟨-, rfl⟩, rfl⟩, _, rfl, rfl⟩ := succeeds
  -- up to the run only pending tokens and the log change
  have lookedIds := getTokenToDecode_processedIds looks
  obtain ⟨lookedTokens, isLooked, -, -, isNext⟩ := CompiledModelExecutor.getTokenToDecode_ok looks
  obtain ⟨hasToken, isRan⟩ := CompiledModelExecutor.decodeInternal_ok runs
  have ranTokens : ran.processedTokens = looked.processedTokens := by rw [isRan]
  have ranMode : ran.ranDecode = prepared.executor.ranDecode := by
    rw [isRan]
    dsimp only
    rw [isLooked]
  have ranBatch : ran.outputBatchSize = prepared.executor.outputBatchSize := by
    rw [isRan]
    dsimp only
    rw [isLooked]
  have ranCaches : CachesMatch rowOf names { prepared with executor := ran } := by
    apply preparedCaches.withExecutor ?_ ranBatch (ranTokens ▸ lookedIds)
    rw [Batched, Batched, ranMode, ranBatch]
  have nextTokens : next.token = ran.processedTokens.getPendingInputToken := by
    rw [ranTokens, isLooked, isNext]
    rfl
  have pending : ran.processedTokens.hasPendingInputToken = true := by
    rw [nextTokens] at hasToken
    simpa using hasToken
  -- the run
  obtain ⟨sameExecutor, layout, pointers, rows⟩ :=
    runAndSwap_rows ranCaches.layout ranCaches.pointers ranCaches.rows swaps
  dsimp only at sameExecutor rows
  rw [nextTokens, zipWith_pending pending] at rows
  -- the consumption
  rw [sameExecutor] at consumes
  have consumedIds := consume_processedIds pending consumes
  obtain ⟨consumedTokens, isConsumed, -, -, count⟩ :=
    CompiledModelExecutor.consumePendingOrAddProcessedToken_ok pending consumes
  have sameMode : Batched consumed ↔ Batched ran := by
    rw [Batched, Batched, isConsumed]
  have sameBatch : consumed.outputBatchSize = ran.outputBatchSize := by rw [isConsumed]
  refine ⟨?_, ?_, layout.withExecutor _, ?_, ?_⟩
  · show 0 < consumed.outputBatchSize
    rw [sameBatch]
    exact ranCaches.positive
  · have sameCount := congrArg List.length consumedIds
    rw [processedIds, List.length_map, List.length_map] at sameCount
    refine (sameCount.trans ranCaches.candidates).trans ?_
    exact (if_congr sameMode sameBatch rfl).symm
  · apply pointers.withExecutor
    rw [sameExecutor]
    exact sameMode
  · show HoldsRows rowOf _ (processedIds consumed.processedTokens)
    rw [consumedIds]
    exact rows

/-- A decode with sampling: the sampled tokens become pending only. -/
theorem decode_matches {backend : Backend Scalar} (caches : CachesMatch rowOf names state)
    (succeeds : Succeeds (decode rowOf backend) state () final) :
    CachesMatch rowOf names final := by
  rw [decode, succeeds_bind] at succeeds
  obtain ⟨_, decoded, decodes, samples⟩ := succeeds
  have decodedCaches := decodeInputs_matches caches decodes
  rw [onExecutor, succeeds_onPart] at samples
  obtain ⟨executor, samples, rfl⟩ := samples
  simp only [succeeds_bind, succeeds_get, CompiledModelExecutor.succeeds_returnIfError,
    CompiledModelExecutor.succeeds_retCheck,
    CompiledModelExecutor.succeeds_updateProcessedTokens, and_assoc, exists_and_left,
    exists_eq_left, exists_const] at samples
  obtain ⟨outputTokens, -, -, processed, adds, isSampled⟩ := samples
  rw [isSampled]
  exact decodedCaches.withExecutor Iff.rfl rfl (processedIds_addPending adds)

/-! ## Runs -/

theorem fresh_matches (rowOf : Text → Int → Row) (fresh : Fresh state) :
    ∃ names, CachesMatch rowOf names state := by
  obtain ⟨signatures, outputBatchSize, positive, isInitial⟩ := fresh.executor
  obtain ⟨names, distinct⟩ := fresh.buffers
  refine ⟨names, ?_, ?_, ⟨?_, ?_, ?_⟩, ⟨?_, ?_⟩, ?_⟩
  · rw [isInitial]
    exact positive
  · rw [isInitial]
    rfl
  · exact distinct _ (by simp)
  · exact distinct _ (by simp)
  · intro buffers member
    refine ⟨distinct _ ?_, fresh.ownDecodeBuffers buffers member _ (by simp),
      fresh.ownDecodeBuffers buffers member _ (by simp)⟩
    rw [List.append_assoc]
    exact List.mem_append_right _ member
  · intro batched
    rw [isInitial] at batched
    exact absurd batched.1 Bool.false_ne_true
  · exact fun _ => .inl ⟨fresh.input, fresh.output⟩
  · intro name buffer member
    rw [inputCache, fresh.input] at member
    rw [fresh.empty (name, buffer) member, isInitial]
    rfl

theorem step_matches {call : Call Scalar} (caches : CachesMatch rowOf names state)
    (steps : (machine rowOf).step state call = some final) : CachesMatch rowOf names final := by
  obtain ⟨⟨⟩, succeeds⟩ := stateOnSuccess_eq_some.mp steps
  cases call with
  | prefill backend inputBatchSize tokenIds workGroups => exact prefill_matches caches succeeds
  | decode backend => exact decode_matches caches succeeds
  | decodeLogits backend inputs => exact decodeInputs_matches caches succeeds
  | decodeInputs backend inputs => exact decodeInputs_matches caches succeeds

/-- **The cache rows match the bookkeeping.** After any successful calls of a new executor, the
input cache has the buffers of the caches that were created, and each of them holds for each
candidate exactly the rows of its processed tokens, in order. -/
theorem cacheRows_processed {start : CachedExecutor Scalar Row} {calls : List (Call Scalar)}
    (fresh : Fresh start) (executed : (machine rowOf).execute start calls = some state) :
    state.inputCache.map Prod.fst = start.kvCacheBuffers1.map Prod.fst ∧
    ∀ name buffer, (name, buffer) ∈ state.inputCache →
      state.memory buffer = state.executor.processedTokens.tokens.map
        fun candidate => candidate.tokenIds.map (rowOf name) := by
  obtain ⟨names, initially⟩ := fresh_matches rowOf fresh
  have caches : CachesMatch rowOf names state :=
    Machine.execute_invariant (CachesMatch rowOf names)
      (fun _ _ _ matched _ steps => step_matches matched steps) initially
      (Machine.guardedAlong_true calls start) executed
  constructor
  · rw [(caches.pointers.distinct caches.layout).1.sameNames, initially.layout.first.sameNames]
  · intro name buffer member
    rw [caches.rows name buffer member, rowsOfIds, processedIds, List.map_map]
    rfl

/-! ## Two candidates, and a second turn -/

/-- An executor for two candidates, with keys and values in buffers of their own. -/
def twoCandidates : CachedExecutor Unit Int where
  executor := CompiledModelExecutor.tokenExecutor 2
  memory := fun buffer => if buffer < 4 then [[]] else [[], []]
  kvCacheBuffers1 := [(['k'], 0), (['v'], 1)]
  kvCacheBuffers2 := [(['k'], 2), (['v'], 3)]
  decodeKvCacheBuffers1 := some [(['k'], 4), (['v'], 5)]
  decodeKvCacheBuffers2 := some [(['k'], 6), (['v'], 7)]
  inputKvCacheBuffers := .kvCacheBuffers1
  outputKvCacheBuffers := .kvCacheBuffers2

theorem twoCandidates_fresh : Fresh twoCandidates where
  executor := ⟨_, _, Nat.two_pos, rfl⟩
  buffers := by
    refine ⟨[['k'], ['v']], ?_⟩
    intro buffers member
    simp only [twoCandidates, Option.toList_some, List.cons_append, List.nil_append,
      List.mem_cons, List.not_mem_nil, or_false] at member
    rcases member with rfl | rfl | rfl | rfl <;> exact ⟨rfl, by decide, by decide⟩
  ownDecodeBuffers := by simp [twoCandidates]
  empty := by decide
  input := rfl
  output := rfl

/-- The rows of a token: itself in the keys, its negative in the values. -/
def signedRow (name : Text) (id : Int) : Int :=
  if name = ['k'] then id else -id

def prefillOneGroup (ids : List Int) : Call Unit :=
  .prefill (CompiledModelExecutor.workingBackend []) 1 ids
    [(ids.length, CompiledModelExecutor.workingBackend [])]

/-- A prefill, two decodes of two candidates, a second turn, and its first decode. -/
def switchedTurns : List (Call Unit) :=
  [prefillOneGroup [5, 6], .decode (CompiledModelExecutor.workingBackend [7, 8]),
    .decodeLogits (CompiledModelExecutor.workingBackend []) none, prefillOneGroup [9, 10],
    .decode (CompiledModelExecutor.workingBackend [11, 12])]

theorem cacheRows_processed_switchedTurns :
    ∃ state, (machine signedRow).execute twoCandidates switchedTurns = some state ∧
      state.executor.processedTokens.tokens.map Tokens.tokenIds =
        [[5, 6, 7, 9, 10], [5, 6, 7, 9, 10]] ∧
      state.inputCache.map Prod.fst = [['k'], ['v']] ∧
      ∀ name buffer, (name, buffer) ∈ state.inputCache →
        state.memory buffer = state.executor.processedTokens.tokens.map
          fun candidate => candidate.tokenIds.map (signedRow name) := by
  have runs : ((machine signedRow).execute twoCandidates switchedTurns).map
      (fun state => state.executor.processedTokens.tokens.map Tokens.tokenIds) =
        some [[5, 6, 7, 9, 10], [5, 6, 7, 9, 10]] := by decide +kernel
  obtain ⟨state, executed, ids⟩ := Option.map_eq_some_iff.mp runs
  exact ⟨state, executed, ids, cacheRows_processed twoCandidates_fresh executed⟩

end LiteRTLM.Executor.CachedExecutor
