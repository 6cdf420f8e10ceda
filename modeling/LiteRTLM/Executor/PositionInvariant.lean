import Mathlib
import LiteRTLM.Executor.SuccessfulCalls

/-!
Contract: the positions the executor gives to the tokens it feeds.

Owns: when a run's positions are the indices of its tokens in the history, the
condition on a prefill under which they are, and the invariant over all runs of
successful calls.

Does not own: what a single call does.

A prefill takes the position of the pending token from the token history and
those of its ids from `current_step_`. The two agree only while `current_step_`
is the token count.
-/

namespace LiteRTLM.Executor

open LiteRTLM.Engine
open LiteRTLM.Library

variable {Scalar : Type}

/-- Every row of a run feeds the column of the history at its position. -/
def ModelRun.Exact (run : ModelRun Scalar) : Prop :=
  ∀ row ∈ run.rows,
    row.tokens.map (fun token => some token.id) =
      run.history.map fun ids => ids[row.position]?

namespace CompiledModelExecutor

def positions (runs : List (ModelRun Scalar)) : List Nat :=
  runs.flatMap fun run => run.rows.map InputRow.position

/-- Every token fed since the last reset was given its index in the history, and
the positions fed are all those of the processed tokens, once each and in order. -/
structure PositionsExact (executor : CompiledModelExecutor Scalar) : Prop where
  exact : ∀ run ∈ executor.modelRuns, run.Exact
  gapless : positions executor.modelRuns = List.range executor.processedTokens.getStep

/-- A prefill whose ids are split into these groups keeps the positions exact: no
group has two ids, or the internal step is the token count and the first id of
the prefill is not stored without a run. -/
def Aligned (executor : CompiledModelExecutor Scalar) (groupLengths : List Nat) : Prop :=
  (∀ length ∈ groupLengths, length ≤ 1) ∨
    executor.currentStep = executor.processedTokens.tokenCount ∧
      (executor.processedTokens.hasPendingInputToken = true ∨ groupLengths.head? ≠ some 1)

/-- The guard of a run: every prefill is aligned. -/
def PrefillAligned (executor : CompiledModelExecutor Scalar) : Call Scalar → Prop
  | .prefill _ _ _ workGroups => executor.Aligned (workGroups.map Prod.fst)
  | _ => True

/-- The number of candidates of the history. -/
def candidateCount (executor : CompiledModelExecutor Scalar) : Nat :=
  if executor.ranDecode = true ∧ 1 < executor.outputBatchSize then executor.outputBatchSize else 1

structure PositionInvariant (executor : CompiledModelExecutor Scalar) : Prop where
  candidates : executor.processedTokens.tokens.length = executor.candidateCount
  positions : PositionsExact executor

variable {before after : CompiledModelExecutor Scalar}

/-! ## Decode and reset -/

/-- One more run with exact rows at the next positions. -/
theorem PositionsExact.append (exact : PositionsExact before) {run : ModelRun Scalar}
    (modelRuns : after.modelRuns = before.modelRuns ++ [run]) (runExact : run.Exact)
    (next : run.rows.map InputRow.position =
      List.range' before.processedTokens.getStep run.rows.length)
    (step : after.processedTokens.getStep =
      before.processedTokens.getStep + run.rows.length) : PositionsExact after where
  exact := by
    intro other member
    rw [modelRuns] at member
    rcases List.mem_append.mp member with old | new
    · exact exact.exact other old
    · rw [List.mem_singleton.mp new]
      exact runExact
  gapless := by
    rw [modelRuns, positions, List.flatMap_append, ← positions, exact.gapless, step,
      List.range_eq_range', List.range_eq_range', ← List.range'_append_1, Nat.zero_add]
    simp [next]

/-- Decoding without sampling keeps the positions exact. -/
theorem PositionInvariant.decodeRan (invariant : PositionInvariant before)
    (ran : DecodeRan before after) : PositionInvariant after where
  candidates := by
    rw [ran.candidates, invariant.candidates]
    unfold candidateCount
    rw [ran.outputBatchSize, ran.ranDecode]
    cases before.ranDecode <;> by_cases many : 1 < before.outputBatchSize <;> simp [many]
  positions := by
    obtain ⟨tokens, history, modelRuns, column⟩ := ran.modelRuns
    apply invariant.positions.append modelRuns
    · intro row member
      rw [List.mem_singleton.mp member]
      exact column
    · simp
    · exact ran.step

/-- A change of the pending tokens and of the internal step does not affect the
positions. -/
theorem PositionInvariant.of_same (invariant : PositionInvariant before)
    (outputBatchSize : after.outputBatchSize = before.outputBatchSize)
    (ranDecode : after.ranDecode = before.ranDecode)
    (step : after.processedTokens.getStep = before.processedTokens.getStep)
    (candidates : after.processedTokens.tokens.length = before.processedTokens.tokens.length)
    (modelRuns : after.modelRuns = before.modelRuns) : PositionInvariant after where
  candidates := by
    rw [candidates, invariant.candidates]
    unfold candidateCount
    rw [outputBatchSize, ranDecode]
  positions := ⟨by rw [modelRuns]; exact invariant.positions.exact,
    by rw [modelRuns, step]; exact invariant.positions.gapless⟩

theorem PositionInvariant.reset (invariant : PositionInvariant before)
    (succeeds : Succeeds reset before () after) : PositionInvariant after := by
  obtain ⟨processedTokens, rfl, step, candidates⟩ := reset_ok succeeds
  refine ⟨candidates.trans invariant.candidates, by simp, ?_⟩
  rw [step]
  rfl

/-! ## Prefill -/

/-- The positions of ids fed one after the other. -/
theorem mapIdx_positions (first : Nat) (tokens : List (FedToken Scalar)) :
    (tokens.mapIdx fun index token => InputRow.mk (first + index) [token]).map
        InputRow.position = List.range' first tokens.length := by
  apply List.ext_getElem
  · simp
  · intro index _ _
    simp

/-- The rows of a prefill run on one candidate are consecutive from the current
step when the ids start at the token count. -/
theorem prefillRows_positions {processed : ProcessedTokens Scalar}
    (single : processed.tokens.length = 1) (signatures : ModelSignatures)
    (fedTokens : List (FedToken Scalar)) :
    ((processed.getPendingInputToken.map fun token =>
          InputRow.mk processed.getStep [fedToken signatures token]) ++
        fedTokens.mapIdx fun index token =>
          InputRow.mk (processed.tokenCount + index) [token]).map InputRow.position =
      List.range' processed.getStep
        (processed.getPendingInputToken.length + fedTokens.length) := by
  rw [List.map_append, mapIdx_positions, ProcessedTokens.getPendingInputToken_of_single single,
    ProcessedTokens.tokenCount, ProcessedTokens.hasPendingInputToken]
  cases processed.first.pendingInputToken with
  | none => simp
  | some token =>
      simp only [Option.toList_some, List.map_cons, List.map_nil, Option.isSome_some, if_true,
        List.length_singleton]
      rw [Nat.add_comm 1, List.range'_succ, List.singleton_append]

/-- Aligned prefill runs keep the positions exact. -/
theorem PositionInvariant.prefillRan (invariant : PositionInvariant before)
    (single : before.processedTokens.tokens.length = 1) {front : List Int} {last : Int}
    (aligned : front = [] ∨ before.currentStep = before.processedTokens.tokenCount)
    (ran : PrefillRan before after front last) : PositionInvariant after := by
  obtain ⟨fedTokens, fedIds, modelRuns⟩ := ran.modelRuns
  have sameRows : (fedTokens.mapIdx fun index token =>
        InputRow.mk (before.currentStep + index) [token]) =
      fedTokens.mapIdx fun index token =>
        InputRow.mk (before.processedTokens.tokenCount + index) [token] := by
    rcases aligned with none | atCount
    · rw [none, List.map_eq_nil_iff] at fedIds
      rw [fedIds]
      rfl
    · rw [atCount]
  rw [sameRows] at modelRuns
  have fedLength : fedTokens.length = front.length := by
    rw [← fedIds, List.length_map]
  have next := prefillRows_positions single before.signatures fedTokens
  have afterSingle := ran.candidates.trans single
  obtain ⟨token, pending, lastId⟩ := ran.firstPending
  have history : after.processedTokens.first.allIds =
      before.processedTokens.first.allIds ++ (front ++ [last]) := by
    rw [Tokens.allIds, ran.firstIds, pending]
    simp [lastId]
  refine ⟨?_, invariant.positions.append modelRuns ?_ ?_ ?_⟩
  · rw [ran.candidates, invariant.candidates]
    unfold candidateCount
    rw [ran.outputBatchSize, ran.ranDecode]
  · intro row member
    rw [ProcessedTokens.getCopyOfTokens_of_single afterSingle, history]
    rcases List.mem_append.mp member with isPending | isFed
    · -- the row of the pending token
      rw [ProcessedTokens.getPendingInputToken_of_single single] at isPending
      obtain ⟨token, held, rfl⟩ := List.mem_map.mp isPending
      rw [Option.mem_toList] at held
      have column : (before.processedTokens.first.allIds ++ (front ++ [last]))[
          before.processedTokens.getStep]? = some token.id := by
        simp [Tokens.allIds, held, ProcessedTokens.getStep]
      simp [column, fedToken]
    · -- the row of an id of this prefill
      obtain ⟨index, inBounds, rfl⟩ := List.mem_mapIdx.mp isFed
      have inFront : index < front.length := fedLength ▸ inBounds
      have sameId : fedTokens[index].id = front[index] := by
        simp [← fedIds]
      have column : (before.processedTokens.first.allIds ++ (front ++ [last]))[
          before.processedTokens.first.allIds.length + index]? = some front[index] := by
        rw [List.getElem?_append_right (Nat.le_add_right _ _), Nat.add_sub_cancel_left,
          List.getElem?_append_left inFront, List.getElem?_eq_getElem inFront]
      simp [ProcessedTokens.tokenCount_eq, sameId, column]
  · rw [next, List.length_append, List.length_map, List.length_mapIdx]
  · rw [ProcessedTokens.getStep, ran.firstIds, List.length_append, List.length_append,
      List.length_map, List.length_mapIdx, fedLength, ← ProcessedTokens.tokenCount_eq,
      ProcessedTokens.tokenCount, ProcessedTokens.getPendingInputToken_of_single single,
      ProcessedTokens.hasPendingInputToken]
    cases before.processedTokens.first.pendingInputToken <;> simp [Nat.add_assoc]

/-- Storing a single id leaves no run behind. -/
theorem PositionInvariant.prefillStored (invariant : PositionInvariant before) {last : Int}
    (stored : PrefillStored before after last) : PositionInvariant after := by
  refine invariant.of_same stored.outputBatchSize stored.ranDecode ?_ stored.candidates
    stored.modelRuns
  rw [ProcessedTokens.getStep, stored.first]
  rfl

/-- A run moves the internal step and the token count together. -/
theorem PrefillRan.alignment {front : List Int} {last : Int}
    (ran : PrefillRan before after front last)
    (aligned : before.currentStep = before.processedTokens.tokenCount) :
    after.currentStep = after.processedTokens.tokenCount := by
  obtain ⟨token, pending, -⟩ := ran.firstPending
  rw [ran.currentStep, aligned, ProcessedTokens.tokenCount_eq, ProcessedTokens.tokenCount_eq,
    Tokens.allIds.eq_def after.processedTokens.first, ran.firstIds, pending]
  simp [Nat.add_assoc]

/-- There is no work group left without ids. -/
theorem prefillGroups_nil {workGroups : List (Nat × Backend Scalar)}
    (succeeds : Succeeds (prefillGroups workGroups []) before () after) : workGroups = [] := by
  cases workGroups with
  | nil => rfl
  | cons group rest =>
      simp only [prefillGroups, succeeds_bind, List.take_nil] at succeeds
      obtain ⟨_, _, -, _, _, first, -⟩ := succeeds
      obtain ⟨last, split, -⟩ := prefillInternal_ok first
      simp at split

/-- The first group of an aligned prefill leaves the rest aligned. -/
theorem Aligned.rest {prefillLength : Nat} {lengths : List Nat}
    (aligned : before.Aligned (prefillLength :: lengths))
    (counted : before.currentStep = before.processedTokens.tokenCount →
      after.currentStep = after.processedTokens.tokenCount ∧
        after.processedTokens.hasPendingInputToken = true ∨ lengths = []) :
    after.Aligned lengths := by
  rcases aligned with short | ⟨atCount, -⟩
  · exact .inl fun length member => short length (List.mem_cons_of_mem _ member)
  · rcases counted atCount with ⟨afterCount, pending⟩ | rfl
    · exact .inr ⟨afterCount, .inl pending⟩
    · exact .inl nofun

/-- The loop over the work groups keeps the positions exact from an aligned
state. -/
theorem prefillGroups_invariant {workGroups : List (Nat × Backend Scalar)} {ids : List Int}
    (invariant : PositionInvariant before)
    (single : before.processedTokens.tokens.length = 1)
    (aligned : before.Aligned (workGroups.map Prod.fst))
    (succeeds : Succeeds (prefillGroups workGroups ids) before () after) :
    PositionInvariant after := by
  induction workGroups generalizing before ids with
  | nil =>
      simp only [prefillGroups, succeeds_retCheck] at succeeds
      rw [succeeds.2]
      exact invariant
  | cons group rest hypothesis =>
      obtain ⟨prefillLength, backend⟩ := group
      simp only [prefillGroups, succeeds_bind, succeeds_returnIfError, and_assoc,
        exists_and_left, exists_eq_left] at succeeds
      obtain ⟨_, -, _, between, first, others⟩ := succeeds
      obtain ⟨last, split, ⟨nonePending, one, stored⟩ | ⟨runs, ran⟩⟩ := prefillInternal_ok first
      · -- the only id of the group becomes the pending token
        rw [List.length_take] at one
        refine hypothesis (invariant.prefillStored stored) (stored.candidates.trans single)
          ?_ others
        rcases aligned with short | ⟨atCount, pending | longer⟩
        · exact .inl fun length member => short length (List.mem_cons_of_mem _ member)
        · rw [nonePending] at pending
          cases pending
        · have notOne : prefillLength ≠ 1 := by simpa using longer
          have noneLeft : ids.drop prefillLength = [] := by
            rw [List.drop_eq_nil_iff]
            omega
          rw [noneLeft] at others
          rw [prefillGroups_nil others]
          exact .inl (by intros; contradiction)
      · have atCount : (ids.take prefillLength).dropLast = [] ∨
            before.currentStep = before.processedTokens.tokenCount := by
          rcases aligned with short | ⟨atCount, -⟩
          · left
            have atMostOne := short prefillLength List.mem_cons_self
            rw [← List.length_eq_zero_iff, List.length_dropLast, List.length_take]
            omega
          · exact .inr atCount
        refine hypothesis (invariant.prefillRan single atCount ran) (ran.candidates.trans single)
          (aligned.rest fun counted => .inl ⟨ran.alignment counted, ?_⟩) others
        obtain ⟨token, pending, -⟩ := ran.firstPending
        rw [ProcessedTokens.hasPendingInputToken, pending]
        rfl

theorem PositionInvariant.prefill (invariant : PositionInvariant before)
    {backend : Backend Scalar} {inputBatchSize : Nat} {tokenIds : List Int}
    {workGroups : List (Nat × Backend Scalar)}
    (aligned : before.Aligned (workGroups.map Prod.fst))
    (succeeds : Succeeds (prefill backend inputBatchSize tokenIds workGroups) before () after) :
    PositionInvariant after := by
  simp only [CompiledModelExecutor.prefill, succeeds_bind, succeeds_get, succeeds_retCheck,
    succeeds_returnIfError, and_assoc, exists_and_left, exists_eq_left, exists_const] at succeeds
  obtain ⟨_, reduced, reduces, -, -, _, -, _, between, groups, -, rfl⟩ := succeeds
  obtain ⟨processedTokens, rfl, first, candidates⟩ := reduceToPrefill_ok reduces
  have step : processedTokens.getStep = before.processedTokens.getStep := by
    rw [ProcessedTokens.getStep, first]
    rfl
  have single : processedTokens.tokens.length = 1 := by
    rw [candidates, invariant.candidates, candidateCount]
    by_cases many : before.ranDecode = true ∧ 1 < before.outputBatchSize <;> simp [many]
  have reducedInvariant :
      PositionInvariant { before with ranDecode := false, processedTokens } := by
    refine ⟨?_, invariant.positions.exact, ?_⟩
    · simp [single, candidateCount]
    · rw [invariant.positions.gapless, step]
  apply prefillGroups_invariant reducedInvariant single ?_ groups
  rcases aligned with short | ⟨atCount, start⟩
  · exact .inl short
  · right
    rw [ProcessedTokens.hasPendingInputToken, ← first] at start
    rw [ProcessedTokens.tokenCount_eq, ← first, ← ProcessedTokens.tokenCount_eq] at atCount
    exact ⟨atCount, start⟩

/-! ## Runs -/

theorem initial_positionInvariant (signatures : ModelSignatures) (outputBatchSize : Nat) :
    PositionInvariant (initial signatures outputBatchSize : CompiledModelExecutor Scalar) where
  candidates := by simp [initial, candidateCount, ProcessedTokens.initial]
  positions := ⟨nofun, rfl⟩

theorem step_positionInvariant {call : Call Scalar} (invariant : PositionInvariant before)
    (aligned : before.PrefillAligned call)
    (steps : machine.step before call = some after) : PositionInvariant after := by
  have succeeds : Succeeds call.body before () after := by
    unfold machine at steps
    cases outcome : call.body before with
    | ok result final =>
        simp only [outcome, Option.some.injEq] at steps
        rw [← steps]
        exact outcome
    | error status final => simp [outcome] at steps
  cases call with
  | prefill backend inputBatchSize tokenIds workGroups =>
      exact invariant.prefill aligned succeeds
  | decode backend =>
      obtain ⟨ran, processedTokens, decoded, rfl, step, candidates⟩ := decode_ok succeeds
      exact (invariant.decodeRan decoded).of_same rfl rfl step candidates rfl
  | decodeLogits backend inputs => exact invariant.decodeRan (decodeLogits_ok succeeds)
  | decodeInputs backend inputs => exact invariant.decodeRan (decodeInputs_ok succeeds)
  | reset => exact invariant.reset succeeds

/-- **Positions are history indices.** In every run of successful calls whose
prefills are all aligned, every token fed since the last reset was given its index
in the history of its candidate, and no position is repeated or skipped. -/
theorem positions_exact {executor : CompiledModelExecutor Scalar}
    (reached : machine.ReachableUnder PrefillAligned executor) : PositionsExact executor := by
  have invariant : PositionInvariant executor := by
    apply reached.invariant
    · rintro state ⟨signatures, outputBatchSize, rfl⟩
      exact initial_positionInvariant signatures outputBatchSize
    · intro state call next invariant aligned steps
      exact step_positionInvariant invariant aligned steps
  exact invariant.positions

/-! ## Two turns -/

instance (executor : CompiledModelExecutor Scalar) (groupLengths : List Nat) :
    Decidable (executor.Aligned groupLengths) :=
  inferInstanceAs (Decidable (_ ∨ _ ∧ (_ = true ∨ _)))

instance (executor : CompiledModelExecutor Scalar) (call : Call Scalar) :
    Decidable (executor.PrefillAligned call) :=
  match call with
  | .prefill _ _ _ workGroups =>
      inferInstanceAs (Decidable (executor.Aligned (workGroups.map Prod.fst)))
  | .decode _ | .decodeLogits _ _ | .decodeInputs _ _ | .reset => isTrue trivial

/-- A backend whose operations all succeed and whose sampler returns `ids`. -/
def workingBackend (ids : List Int) : Backend Unit where
  initializeAttentionMask := .ok ()
  fillAttentionMask := fun _ _ => .ok ()
  fillInputBuffer := .ok ()
  updateMultiModalEmbeddings := .ok ()
  createPrefillInputBuffers := .ok ()
  cleanupMultiModalEmbeddings := .ok ()
  embeddingLookup := ⟨fun _ => .ok [], fun _ => .ok [], fun _ => .ok []⟩
  perLayerEmbeddingLookup := ⟨fun _ => .ok [], fun _ => .ok [], fun _ => .ok []⟩
  copyKvCacheBuffers := .ok ()
  compiledModelRun := .ok ()
  maskLogits := .ok ()
  sampleToIds := .ok ids

/-- An executor of a model that takes token ids. -/
def tokenExecutor (outputBatchSize : Nat) : CompiledModelExecutor Unit :=
  initial ⟨true, false, false, false, 1⟩ outputBatchSize

/-- A prefill of these groups of ids. -/
def prefillCall (groups : List (List Int)) : Call Unit :=
  .prefill (workingBackend []) 1 groups.flatten
    (groups.map fun group => (group.length, workingBackend []))

/-- A prefill in two groups, two decoded tokens per candidate, and a second turn
after the last of them was processed. -/
def twoTurns : List (Call Unit) :=
  [prefillCall [[5, 6], [7]], .decode (workingBackend [8, 9]),
    .decodeLogits (workingBackend []) none, prefillCall [[10, 11, 12]]]

theorem positions_exact_twoTurns :
    ∃ executor, machine.execute (tokenExecutor 2) twoTurns = some executor ∧
      positions executor.modelRuns = [0, 1, 2, 3, 4, 5] ∧ PositionsExact executor := by
  have runs : (machine.execute (tokenExecutor 2) twoTurns).isSome = true := by decide +kernel
  obtain ⟨executor, executed⟩ := Option.isSome_iff_exists.mp runs
  have final : (machine.execute (tokenExecutor 2) twoTurns).map
      (fun executor => positions executor.modelRuns) = some [0, 1, 2, 3, 4, 5] := by decide +kernel
  rw [executed, Option.map_some, Option.some.injEq] at final
  have start : machine.ReachableUnder PrefillAligned (tokenExecutor 2) := .initial ⟨_, _, rfl⟩
  exact ⟨executor, executed, final, positions_exact (start.execute (by decide +kernel) executed)⟩

/-- A single id prefilled into an empty history is stored without moving the
internal step, so the next prefill gives its first id the position of the stored
one. -/
theorem positions_not_exact_afterStore :
    ∃ executor : CompiledModelExecutor Unit, machine.Reachable executor ∧
      positions executor.modelRuns = [0, 0] ∧
      executor.processedTokens.getCopyOfTokens = [[5, 6, 7]] ∧ ¬PositionsExact executor := by
  have runs : (machine.execute (tokenExecutor 1)
      [prefillCall [[5]], prefillCall [[6, 7]]]).isSome = true := by decide +kernel
  obtain ⟨executor, executed⟩ := Option.isSome_iff_exists.mp runs
  have final : (machine.execute (tokenExecutor 1) [prefillCall [[5]], prefillCall [[6, 7]]]).map
      (fun executor =>
        (positions executor.modelRuns, executor.processedTokens.getCopyOfTokens)) =
      some ([0, 0], [[5, 6, 7]]) := by decide +kernel
  rw [executed, Option.map_some, Option.some.injEq, Prod.mk.injEq] at final
  refine ⟨executor, Machine.reachable_of_execute ⟨_, _, rfl⟩ executed, final.1, final.2, ?_⟩
  intro exact
  have noDuplicate := List.nodup_range (n := executor.processedTokens.getStep)
  rw [← exact.gapless, final.1] at noDuplicate
  exact absurd noDuplicate (by decide +kernel)

end CompiledModelExecutor

end LiteRTLM.Executor
