import Mathlib
import LiteRTLM.Executor.PositionInvariant
import LiteRTLM.Executor.TextEmbeddings

/-!
Contract: every text token is fed as its embedding.

Owns: when the rows of an embeddings input hold the embeddings of the tokens they stand
for, the condition on a prefill under which they do, and the invariant over all runs of
successful calls.

Does not own: images and audio.

The token a decode samples becomes pending without an embedding, and so does the only id
of a first prefill. A decode looks the embedding up before it feeds the token; a prefill
does not.
-/

namespace LiteRTLM.Executor.EmbeddedExecutor

open LiteRTLM.Engine
open LiteRTLM.Library
open LiteRTLM.Library.ByteImage
open LiteRTLM.Library.Blocks
open LiteRTLM.Components.EmbeddingLookup
open LiteRTLM.Components.EmbeddingLookup.EmbeddingLookupManager
open LiteRTLM.Executor.EmbeddingInputs

variable {Scalar : Type}

/-! ## The invariant -/

variable [Zero Scalar]

def pendingTokens (state : EmbeddedExecutor Scalar) : List (TokenData Scalar) :=
  state.executor.processedTokens.getPendingInputToken

/-- Every run was fed the embeddings of its tokens, and the pending tokens are text. -/
structure TextFed (state : EmbeddedExecutor Scalar) : Prop where
  inputTokens : state.executor.signatures.inputTokens = false
  inputEmbeddings : state.executor.signatures.inputEmbeddings = true
  positive : 0 < state.executor.outputBatchSize
  candidates : state.executor.processedTokens.tokens.length = state.executor.candidateCount
  textOnly : TextOnly state.embeddingLookup
  decodeInput : state.decodeInput.contents.length =
    state.executor.outputBatchSize * state.embeddingLookup.getFloatsPerToken
  pending : ∀ token ∈ pendingTokens state, TextPending state.embeddingLookup token
  inputs : ∀ input ∈ state.inputs, EmbeddingsInput.Exact state.embeddingLookup input

/-- The pending tokens carry their embeddings. -/
def Carried (state : EmbeddedExecutor Scalar) : Prop :=
  ∀ token ∈ pendingTokens state, token.embedding ≠ []

omit [Zero Scalar] in
/-- What a part of a call keeps that changes counters and history only. -/
structure SameSetup (before after : CompiledModelExecutor Scalar) : Prop where
  signatures : after.signatures = before.signatures
  outputBatchSize : after.outputBatchSize = before.outputBatchSize

variable {state final : EmbeddedExecutor Scalar}

/-- A change of counters and history, after which the given tokens are pending. -/
theorem TextFed.withExecutor (fed : TextFed state) {executor : CompiledModelExecutor Scalar}
    (same : SameSetup state.executor executor)
    (candidates : executor.processedTokens.tokens.length = executor.candidateCount)
    (pending : ∀ token ∈ executor.processedTokens.getPendingInputToken,
      TextPending state.embeddingLookup token) :
    TextFed { state with executor } where
  inputTokens := by
    rw [same.signatures]
    exact fed.inputTokens
  inputEmbeddings := by
    rw [same.signatures]
    exact fed.inputEmbeddings
  positive := by
    rw [same.outputBatchSize]
    exact fed.positive
  candidates := candidates
  textOnly := fed.textOnly
  decodeInput := by
    rw [same.outputBatchSize]
    exact fed.decodeInput
  pending := pending
  inputs := fed.inputs

/-- A run with an exact input. -/
theorem TextFed.logInput (fed : TextFed state) {input : EmbeddingsInput Scalar}
    (exact : EmbeddingsInput.Exact state.embeddingLookup input) :
    TextFed { state with inputs := state.inputs ++ [input] } where
  inputTokens := fed.inputTokens
  inputEmbeddings := fed.inputEmbeddings
  positive := fed.positive
  candidates := fed.candidates
  textOnly := fed.textOnly
  decodeInput := fed.decodeInput
  pending := fed.pending
  inputs := by
    intro other member
    rcases List.mem_append.mp member with isEarlier | isNew
    · exact fed.inputs other isEarlier
    · rw [List.mem_singleton.mp isNew]
      exact exact

/-! ## Prefill -/

omit [Zero Scalar] in
theorem prefillInternal_setup {before after : CompiledModelExecutor Scalar}
    {backend : Backend Scalar} {ids : List Int}
    (succeeds : Succeeds (CompiledModelExecutor.prefillInternal backend ids) before () after) :
    after.outputBatchSize = before.outputBatchSize := by
  obtain ⟨last, -, ⟨-, -, stored⟩ | ⟨-, ran⟩⟩ :=
    CompiledModelExecutor.prefillInternal_ok succeeds
  · exact stored.outputBatchSize
  · exact ran.outputBatchSize

omit [Zero Scalar] in
/-- `PrefillInternal` keeps the number of candidates. -/
theorem prefillInternal_candidates {before after : CompiledModelExecutor Scalar}
    {backend : Backend Scalar} {ids : List Int}
    (candidates : before.processedTokens.tokens.length = before.candidateCount)
    (succeeds : Succeeds (CompiledModelExecutor.prefillInternal backend ids) before () after) :
    after.processedTokens.tokens.length = after.candidateCount := by
  have sameCount : after.candidateCount = before.candidateCount := by
    rw [CompiledModelExecutor.candidateCount, CompiledModelExecutor.candidateCount,
      prefillInternal_setup succeeds, CompiledModelExecutor.prefillInternal_ranDecode succeeds]
  rw [sameCount, ← candidates]
  obtain ⟨last, -, ⟨-, -, stored⟩ | ⟨-, ran⟩⟩ :=
    CompiledModelExecutor.prefillInternal_ok succeeds
  · exact stored.candidates
  · exact ran.candidates

/-- What `PrefillInternal` leaves: a text token is pending, with its embedding unless it
is the only id and nothing was pending. -/
structure GroupFed (state final : EmbeddedExecutor Scalar) (ids : List Int) : Prop where
  fed : TextFed final
  embeddingLookup : final.embeddingLookup = state.embeddingLookup
  pending : pendingTokens final ≠ []
  carried : (pendingTokens state = [] ∧ ids.length = 1) ∨ Carried final

theorem prefillInternal_fed {rawId : Int → Scalar} {backend : Backend Scalar} {ids : List Int}
    {input : OutputTensor Scalar} {rows : Nat} (fed : TextFed state) (carried : Carried state)
    (text : ∀ id ∈ ids, 0 ≤ id)
    (conforms : input.Conforms state.embeddingLookup.textEmbeddingLookup.outputDimensions rows)
    (succeeds : Succeeds (prefillInternal rawId backend input ids) state () final) :
    GroupFed state final ids := by
  unfold prefillInternal at succeeds
  rw [succeeds_get_bind] at succeeds
  dsimp only at succeeds
  rw [succeeds_bind] at succeeds
  obtain ⟨group, looked, looks, succeeds⟩ := succeeds
  rw [onLookup, succeeds_onPart] at looks
  obtain ⟨manager, lookups, rfl⟩ := looks
  have lookedUp : ∀ token ∈ state.executor.processedTokens.getPendingInputToken.head?,
      LookedUp state.embeddingLookup token := by
    intro token isHead
    have member : token ∈ pendingTokens state := List.mem_of_mem_head? isHead
    exact (fed.pending token member).embedding (carried token member)
  by_cases stores : pendingTokens state = [] ∧ ids.length = 1
  · -- the only id becomes the pending token
    have nonePending : state.executor.processedTokens.getPendingInputToken = [] := stores.1
    rw [nonePending] at lookups
    obtain ⟨kept, noInput⟩ := prefillInternalEmbeddings_stored stores.2 lookups
    rw [kept, noInput, onExecutor, succeeds_onPart] at succeeds
    obtain ⟨executor, prefills, rfl⟩ := succeeds
    obtain ⟨last, isLast, leaves⟩ := prefillInternal_pending prefills
    have lastText : 0 ≤ last := text last (List.mem_of_getLast? isLast)
    obtain ⟨-, -, pending⟩ | ⟨runs, -⟩ := leaves.pending
    · refine ⟨fed.withExecutor ⟨leaves.signatures, prefillInternal_setup prefills⟩ ?_ ?_, rfl, ?_,
        .inl stores⟩
      · exact prefillInternal_candidates fed.candidates prefills
      · rw [pending]
        intro token isLast
        rw [List.mem_singleton.mp isLast]
        exact textPending_ofId lastText
      · rw [pendingTokens, pending]
        exact List.cons_ne_nil _ _
    · exact absurd stores runs
  · have runs : ¬(state.executor.processedTokens.getPendingInputToken.head?.isNone = true ∧
        ids.length = 1) := by
      rw [Option.isNone_iff_eq_none, List.head?_eq_none_iff]
      exact stores
    obtain ⟨kept, last, tensor, isLast, isGroup, exact⟩ :=
      prefillInternalEmbeddings_text fed.textOnly text lookedUp conforms runs lookups
    rw [kept, isGroup] at succeeds
    dsimp only at succeeds
    rw [succeeds_bind] at succeeds
    obtain ⟨_, prefilled, prefills, logs⟩ := succeeds
    rw [onExecutor, succeeds_onPart] at prefills
    obtain ⟨executor, prefills, rfl⟩ := prefills
    rw [logInput, succeeds_modify] at logs
    obtain ⟨sameLast, isSameLast, leaves⟩ := prefillInternal_pending prefills
    obtain ⟨none, one, -⟩ | ⟨-, token, pending, isId, embedded⟩ := leaves.pending
    · exact absurd ⟨none, one⟩ stores
    · have carries : LookedUp state.embeddingLookup token := by
        have isEmbedding := embedded fed.inputTokens
        rw [isLast] at isSameLast
        cases isSameLast
        refine ⟨?_, ?_⟩
        · rw [isId]
          exact text last (List.mem_of_getLast? isLast)
        · rw [isId]
          exact (Except.ok.inj isEmbedding).symm
      have ranFed : TextFed { state with executor } := by
        apply fed.withExecutor ⟨leaves.signatures, prefillInternal_setup prefills⟩
          (prefillInternal_candidates fed.candidates prefills)
        rw [pending]
        intro other isToken
        rw [List.mem_singleton.mp isToken]
        exact carries.textPending
      rw [logs]
      refine ⟨ranFed.logInput (isGroup ▸ exact), rfl, ?_, .inr ?_⟩
      · rw [pendingTokens, pending]
        exact List.cons_ne_nil _ _
      · rw [Carried, pendingTokens, pending]
        intro other isToken
        rw [List.mem_singleton.mp isToken]
        exact carries.nonempty

/-- The first work group runs the model: a token is pending, or there are more ids, or
nothing follows the only id. -/
def FirstRuns (state : EmbeddedExecutor Scalar) (workGroups : List (PrefillGroup Scalar))
    (ids : List Int) : Prop :=
  pendingTokens state ≠ [] ∨ workGroups.tail = [] ∨
    ∀ group ∈ workGroups.head?, (ids.take group.prefillLength).length ≠ 1

/-- The embeddings buffer of a work group is that of a signature. -/
def Shaped (state : EmbeddedExecutor Scalar) (group : PrefillGroup Scalar) : Prop :=
  ∃ rows, group.input.Conforms state.embeddingLookup.textEmbeddingLookup.outputDimensions rows

/-- The loop over the work groups: behind the first group a token with its embedding is
pending. -/
theorem prefillGroups_fed {rawId : Int → Scalar} {workGroups : List (PrefillGroup Scalar)}
    {ids : List Int} (fed : TextFed state) (carried : Carried state)
    (firstRuns : FirstRuns state workGroups ids) (text : ∀ id ∈ ids, 0 ≤ id)
    (shaped : ∀ group ∈ workGroups, Shaped state group)
    (succeeds : Succeeds (prefillGroups rawId workGroups ids) state () final) :
    TextFed final ∧ final.embeddingLookup = state.embeddingLookup := by
  induction workGroups generalizing state ids with
  | nil =>
      rw [prefillGroups, onExecutor, succeeds_onPart] at succeeds
      obtain ⟨executor, checks, rfl⟩ := succeeds
      rw [((CompiledModelExecutor.succeeds_retCheck _ _).mp checks).2]
      exact ⟨fed, rfl⟩
  | cons group rest inductionHypothesis =>
      rw [prefillGroups, succeeds_bind] at succeeds
      obtain ⟨_, created, creates, succeeds⟩ := succeeds
      rw [onExecutor, succeeds_onPart] at creates
      obtain ⟨executor, creates, rfl⟩ := creates
      rw [((CompiledModelExecutor.succeeds_returnIfError _).mp creates).2, succeeds_bind] at succeeds
      obtain ⟨_, between, prefills, succeeds⟩ := succeeds
      obtain ⟨rows, conforms⟩ := shaped group List.mem_cons_self
      have groupFed := prefillInternal_fed fed carried
        (fun id member => text id (List.mem_of_mem_take member)) conforms prefills
      have restText : ∀ id ∈ ids.drop group.prefillLength, 0 ≤ id :=
        fun id member => text id (List.mem_of_mem_drop member)
      have restShaped : ∀ other ∈ rest, Shaped between other := by
        intro other member
        obtain ⟨otherRows, otherConforms⟩ := shaped other (List.mem_cons_of_mem _ member)
        refine ⟨otherRows, ?_⟩
        rw [groupFed.embeddingLookup]
        exact otherConforms
      cases rest with
      | nil =>
          rw [prefillGroups, onExecutor, succeeds_onPart] at succeeds
          obtain ⟨executor, checks, rfl⟩ := succeeds
          rw [((CompiledModelExecutor.succeeds_retCheck _ _).mp checks).2]
          exact ⟨groupFed.fed, groupFed.embeddingLookup⟩
      | cons next others =>
          have carriedOn : Carried between := by
            rcases groupFed.carried with ⟨none, one⟩ | carriedOn
            · rcases firstRuns with isPending | single | more
              · exact absurd none isPending
              · exact absurd single (List.cons_ne_nil _ _)
              · exact absurd one (more group rfl)
            · exact carriedOn
          obtain ⟨finalFed, same⟩ := inductionHypothesis groupFed.fed carriedOn
            (.inl groupFed.pending) restText restShaped succeeds
          exact ⟨finalFed, same.trans groupFed.embeddingLookup⟩

/-- The switch from decode back to prefill keeps the pending token of the first
candidate. -/
theorem reduceToPrefill_fed {backend : Backend Scalar} (fed : TextFed state)
    {executor : CompiledModelExecutor Scalar}
    (succeeds : Succeeds (CompiledModelExecutor.reduceToPrefill backend) state.executor ()
      executor) :
    TextFed { state with executor } ∧
      executor.processedTokens.getPendingInputToken =
        state.executor.processedTokens.first.pendingInputToken.toList := by
  obtain ⟨processedTokens, isReduced, first, count⟩ :=
    CompiledModelExecutor.reduceToPrefill_ok succeeds
  have single : processedTokens.tokens.length = 1 := by
    rw [count, fed.candidates, CompiledModelExecutor.candidateCount]
    by_cases many : state.executor.ranDecode = true ∧ 1 < state.executor.outputBatchSize <;>
      simp [many]
  have pending : executor.processedTokens.getPendingInputToken =
      state.executor.processedTokens.first.pendingInputToken.toList := by
    rw [isReduced]
    dsimp only
    rw [ProcessedTokens.getPendingInputToken_of_single single, first]
  refine ⟨fed.withExecutor ?_ ?_ ?_, pending⟩
  · rw [isReduced]
    exact ⟨rfl, rfl⟩
  · rw [isReduced]
    simp [single, CompiledModelExecutor.candidateCount]
  · rw [pending]
    intro token held
    apply fed.pending token
    exact List.mem_filterMap.mpr ⟨_, state.executor.processedTokens.first_mem,
      Option.mem_toList.mp held⟩

omit [Zero Scalar] in
/-- A lookup manager of text alone has nothing to update or to clean up. -/
theorem updateMultiModalEmbeddings_text {manager after : EmbeddingLookupManager Scalar}
    (succeeds : Succeeds (updateMultiModalEmbeddings none none) manager () after) :
    after = manager := by
  cases succeeds
  rfl

omit [Zero Scalar] in
theorem cleanupMultiModalEmbeddings_text {manager after : EmbeddingLookupManager Scalar}
    (textOnly : TextOnly manager)
    (succeeds : Succeeds cleanupMultiModalEmbeddings manager () after) : after = manager := by
  rw [cleanupMultiModalEmbeddings, succeeds_modify] at succeeds
  rw [succeeds, ← textOnly.noLookups]

theorem prefillStatic_fed {rawId : Int → Scalar} {backend : Backend Scalar} {inputBatchSize : Nat}
    {tokenIds : List Int} {workGroups : List (PrefillGroup Scalar)} (fed : TextFed state)
    (carried : Carried state)
    (firstRuns : FirstRuns state workGroups (tokenIds.take (tokenIds.length / inputBatchSize)))
    (text : ∀ id ∈ tokenIds, 0 ≤ id) (shaped : ∀ group ∈ workGroups, Shaped state group)
    (succeeds : Succeeds (prefillStatic rawId backend inputBatchSize tokenIds workGroups)
      state () final) : TextFed final := by
  rw [prefillStatic, succeeds_bind] at succeeds
  obtain ⟨_, reduced, reduces, succeeds⟩ := succeeds
  rw [onExecutor, succeeds_onPart] at reduces
  obtain ⟨_, reduces, rfl⟩ := reduces
  obtain ⟨reducedFed, pending⟩ := reduceToPrefill_fed fed reduces
  rw [succeeds_get_bind] at succeeds
  dsimp only at succeeds
  simp only [succeeds_bind, onExecutor, onLookup, succeeds_onPart,
    CompiledModelExecutor.succeeds_retCheck] at succeeds
  obtain ⟨_, _, ⟨_, ⟨-, rfl⟩, rfl⟩, _, _, ⟨kept, ⟨-, rfl⟩, rfl⟩, _, _, ⟨manager, updates, rfl⟩, _,
    between, groups, cleaned, cleans, rfl⟩ := succeeds
  rw [updateMultiModalEmbeddings_text updates] at groups
  have inPending : ∀ token ∈ state.executor.processedTokens.first.pendingInputToken,
      token ∈ pendingTokens state := by
    intro token held
    exact List.mem_filterMap.mpr ⟨_, state.executor.processedTokens.first_mem, held⟩
  have reducedCarried : Carried { state with executor := kept } := by
    rw [Carried, pendingTokens, pending]
    intro token held
    exact carried token (inPending token (Option.mem_toList.mp held))
  have reducedRuns : FirstRuns { state with executor := kept } workGroups
      (tokenIds.take (tokenIds.length / inputBatchSize)) := by
    rcases firstRuns with isPending | single | more
    · left
      rw [pendingTokens, pending]
      rw [pendingTokens, ne_eq, ProcessedTokens.getPendingInputToken_eq_nil,
        Bool.not_eq_false, ProcessedTokens.hasPendingInputToken] at isPending
      obtain ⟨token, held⟩ := Option.isSome_iff_exists.mp isPending
      rw [held]
      exact List.cons_ne_nil _ _
    · exact .inr (.inl single)
    · exact .inr (.inr more)
  obtain ⟨groupsFed, -⟩ := prefillGroups_fed reducedFed reducedCarried reducedRuns
    (fun id member => text id (List.mem_of_mem_take member)) shaped groups
  rw [cleanupMultiModalEmbeddings_text groupsFed.textOnly cleans]
  exact groupsFed

theorem prefillDynamic_fed {rawId : Int → Scalar} {inputBatchSize : Nat} {tokenIds : List Int}
    {group : PrefillGroup Scalar} (fed : TextFed state) (carried : Carried state)
    (text : ∀ id ∈ tokenIds, 0 ≤ id) (shaped : Shaped state group)
    (succeeds : Succeeds (prefillDynamic rawId inputBatchSize tokenIds group) state () final) :
    TextFed final := by
  obtain ⟨rows, conforms⟩ := shaped
  simp only [prefillDynamic, succeeds_bind, succeeds_get, onExecutor, succeeds_onPart,
    CompiledModelExecutor.succeeds_retCheck, and_assoc, exists_and_left, exists_eq_left,
    exists_const] at succeeds
  obtain ⟨-, -, body⟩ := succeeds
  split at body
  · rename_i id none
    rw [succeeds_onPart] at body
    obtain ⟨executor, stores, rfl⟩ := body
    obtain ⟨processed, adds, isStored⟩ :=
      (CompiledModelExecutor.succeeds_updateProcessedTokens _).mp stores
    rw [isStored]
    refine fed.withExecutor ⟨rfl, rfl⟩ ?_ ?_
    · exact (ProcessedTokens.addPendingInputToken_ok adds).2.1.trans fed.candidates
    · rw [CompiledModelExecutor.addPendingInputToken_tokens adds]
      intro token isId
      rw [List.mem_singleton.mp isId]
      exact textPending_ofId (text id List.mem_cons_self)
  · simp only [succeeds_bind, succeeds_onPart,
      CompiledModelExecutor.succeeds_returnIfError] at body
    obtain ⟨_, _, ⟨_, ⟨-, rfl⟩, rfl⟩, prefills⟩ := body
    exact (prefillInternal_fed fed carried text conforms prefills).fed

/-! ## Decode -/

omit [Zero Scalar] in
/-- Behind `PrepareFirstDecode` there are as many candidates as the batch has. -/
theorem prepareFirstDecode_candidates {before after : CompiledModelExecutor Scalar}
    {backend : Backend Scalar} (positive : 0 < before.outputBatchSize)
    (candidates : before.processedTokens.tokens.length = before.candidateCount)
    (succeeds : Succeeds (CompiledModelExecutor.prepareFirstDecode backend) before () after) :
    after.processedTokens.tokens.length = before.outputBatchSize := by
  obtain ⟨processedTokens, rfl, -, count⟩ := CompiledModelExecutor.prepareFirstDecode_ok succeeds
  dsimp only
  rw [count, candidates, CompiledModelExecutor.candidateCount]
  by_cases many : 1 < before.outputBatchSize
  · cases before.ranDecode <;> simp [many]
  · have one : before.outputBatchSize = 1 := by omega
    simp [one]

/-- The part all decodes share: the tokens are fed as their embeddings and consumed. -/
theorem decodeInputs_fed {rawId : Int → Scalar} {backend : Backend Scalar}
    {inputs : Option (List Int)} {finish : StatusOr Unit} (fed : TextFed state)
    (succeeds : Succeeds (decodeInputs rawId backend inputs finish) state () final) :
    TextFed final := by
  simp only [decodeInputs, decodeInternal, onExecutor, onLookup, succeeds_bind, succeeds_get,
    succeeds_onPart, succeeds_modify, logInput, succeeds_returnIfError,
    CompiledModelExecutor.succeeds_returnIfError, and_assoc, exists_and_left,
    exists_eq_left, exists_const] at succeeds
  obtain ⟨_, _, ⟨prepared, prepares, rfl⟩, next, _, ⟨looked, looks, rfl⟩, _,
    ⟨filled, fills, _, _, ⟨ran, runs, rfl⟩, rfl⟩, _, _, ⟨consumed, consumes, rfl⟩, _, -, rfl⟩ :=
    succeeds
  -- the tokens carry their embeddings, one for each candidate
  have lookedUp : ∀ token ∈ next.token, LookedUp state.embeddingLookup token := by
    apply getTokenToDecode_lookedUp ?_ ?_ looks
    · obtain ⟨_, rfl, -⟩ := CompiledModelExecutor.prepareFirstDecode_ok prepares
      exact fed.inputEmbeddings
    · intro token member
      exact fed.pending token (prepareFirstDecode_pending prepares token member)
  have count : next.token.length = state.executor.outputBatchSize := by
    obtain ⟨lookedTokens, isLooked, -, sameCount, isNext⟩ :=
      CompiledModelExecutor.getTokenToDecode_ok looks
    have hasToken := (CompiledModelExecutor.decodeInternal_ok runs).1
    rw [isNext, ProcessedTokens.getNextUnprocessedToken] at hasToken ⊢
    rw [getPendingInputToken_length (by simpa using hasToken), sameCount,
      prepareFirstDecode_candidates fed.positive fed.candidates prepares]
  have sized : state.decodeInput.contents.length =
      next.token.length * state.embeddingLookup.getFloatsPerToken := by
    rw [count]
    exact fed.decodeInput
  obtain ⟨filledSized, exact⟩ := fillInputBufferWithToken_exact lookedUp sized fills
  -- the bookkeeping is that of a decode without embeddings
  have decoded := CompiledModelExecutor.decodeRan_of_parts prepares looks runs consumes
  have signatures : consumed.signatures = state.executor.signatures := by
    obtain ⟨_, rfl, -⟩ := CompiledModelExecutor.prepareFirstDecode_ok prepares
    obtain ⟨_, rfl, -, -, rfl⟩ := CompiledModelExecutor.getTokenToDecode_ok looks
    obtain ⟨hasToken, rfl⟩ := CompiledModelExecutor.decodeInternal_ok runs
    obtain ⟨_, rfl, -⟩ := CompiledModelExecutor.consumePendingOrAddProcessedToken_ok
      (by simpa [ProcessedTokens.getNextUnprocessedToken] using hasToken) consumes
    rfl
  have decodedFed : TextFed { state with
      executor := { consumed with currentStep := next.step + 1 } } := by
    refine fed.withExecutor ⟨signatures, decoded.outputBatchSize⟩ ?_ ?_
    · have ranDecode := decoded.ranDecode
      have outputBatchSize := decoded.outputBatchSize
      rw [decoded.candidates, fed.candidates, CompiledModelExecutor.candidateCount,
        CompiledModelExecutor.candidateCount, ranDecode, outputBatchSize]
      cases state.executor.ranDecode <;>
        by_cases many : 1 < state.executor.outputBatchSize <;> simp [many]
    · have none := ProcessedTokens.getPendingInputToken_eq_nil.mpr decoded.nonePending
      rw [none]
      intros; contradiction
  have filledFed : TextFed { state with
      executor := { consumed with currentStep := next.step + 1 }, decodeInput := filled } := by
    refine ⟨decodedFed.inputTokens, decodedFed.inputEmbeddings, decodedFed.positive,
      decodedFed.candidates, decodedFed.textOnly, ?_, decodedFed.pending, decodedFed.inputs⟩
    have sameBatch := decoded.outputBatchSize
    dsimp only at sameBatch ⊢
    rw [sameBatch, filledSized, count]
  exact filledFed.logInput exact

/-- A decode with sampling: the sampled ids are pending, none with an embedding. -/
theorem decode_fed {rawId : Int → Scalar} {backend : Backend Scalar} (fed : TextFed state)
    (succeeds : Succeeds (decode rawId backend) state () final) : TextFed final := by
  rw [decode, succeeds_bind] at succeeds
  obtain ⟨_, decoded, decodes, samples⟩ := succeeds
  have decodedFed := decodeInputs_fed fed decodes
  rw [onExecutor, succeeds_onPart] at samples
  obtain ⟨executor, samples, rfl⟩ := samples
  simp only [succeeds_bind, succeeds_get, CompiledModelExecutor.succeeds_returnIfError,
    CompiledModelExecutor.succeeds_retCheck,
    CompiledModelExecutor.succeeds_updateProcessedTokens, and_assoc, exists_and_left,
    exists_eq_left, exists_const] at samples
  obtain ⟨outputTokens, -, -, processed, adds, rfl⟩ := samples
  refine decodedFed.withExecutor ⟨rfl, rfl⟩ ?_ ?_
  · exact (ProcessedTokens.addPendingInputToken_ok adds).2.1.trans decodedFed.candidates
  · rw [CompiledModelExecutor.addPendingInputToken_tokens adds]
    intro token member
    obtain ⟨id, -, rfl⟩ := List.mem_map.mp member
    apply textPending_ofId
    unfold CompiledModelExecutor.validToken
    split <;> omega

/-! ## Runs -/

omit [Zero Scalar] in
/-- Prefills of text, with the buffers of the signatures. -/
def IsText (state : EmbeddedExecutor Scalar) : Call Scalar → Prop
  | .prefillStatic _ _ tokenIds workGroups =>
      (∀ id ∈ tokenIds, 0 ≤ id) ∧ ∀ group ∈ workGroups, Shaped state group
  | .prefillDynamic _ tokenIds group => (∀ id ∈ tokenIds, 0 ≤ id) ∧ Shaped state group
  | _ => True

omit [Zero Scalar] in
/-- A prefill starts with a token that carries its embedding, or with a group that runs
when nothing is pending. -/
def StartsEmbedded (state : EmbeddedExecutor Scalar) : Call Scalar → Prop
  | .prefillStatic _ inputBatchSize tokenIds workGroups =>
      Carried state ∧
        FirstRuns state workGroups (tokenIds.take (tokenIds.length / inputBatchSize))
  | .prefillDynamic _ _ _ => Carried state
  | _ => True

theorem fresh_fed (fresh : Fresh state) : TextFed state := by
  obtain ⟨signatures, outputBatchSize, inputTokens, inputEmbeddings, positive, isInitial⟩ :=
    fresh.executor
  have decodeInput := fresh.decodeInput
  refine ⟨?_, ?_, ?_, ?_, ⟨fresh.noLookups, ?_⟩, decodeInput, ?_, ?_⟩
  · rw [isInitial]
    exact inputTokens
  · rw [isInitial]
    exact inputEmbeddings
  · rw [isInitial]
    exact positive
  · rw [isInitial]
    rfl
  · intro lookup member
    rw [fresh.endTokens lookup member]
    decide
  · rw [pendingTokens, isInitial]
    exact nofun
  · rw [fresh.inputs]
    exact nofun

theorem step_fed {rawId : Int → Scalar} {call : Call Scalar} (fed : TextFed state)
    (isText : IsText state call) (startsEmbedded : StartsEmbedded state call)
    (steps : (machine rawId).step state call = some final) : TextFed final := by
  obtain ⟨⟨⟩, succeeds⟩ := stateOnSuccess_eq_some.mp steps
  cases call with
  | prefillStatic backend inputBatchSize tokenIds workGroups =>
      exact prefillStatic_fed fed startsEmbedded.1 startsEmbedded.2 isText.1 isText.2 succeeds
  | prefillDynamic inputBatchSize tokenIds group =>
      exact prefillDynamic_fed fed startsEmbedded isText.1 isText.2 succeeds
  | decode backend => exact decode_fed fed succeeds
  | decodeLogits backend inputs => exact decodeInputs_fed fed succeeds
  | decodeInputs backend inputs => exact decodeInputs_fed fed succeeds

/-- **Every token is fed as its embedding.** In every run of successful text-only calls
whose prefills start with a token that carries its embedding, every row of an embeddings
input that stands for a token holds its embedding, and the rows behind hold the default
embedding or zeros. -/
theorem tokens_embedded {rawId : Int → Scalar}
    (reached : (machine rawId).ReachableUnder
      (fun state call => IsText state call ∧ StartsEmbedded state call) state) :
    ∀ input ∈ state.inputs, EmbeddingsInput.Exact state.embeddingLookup input := by
  have fed : TextFed state := by
    apply reached.invariant
    · exact fun state fresh => fresh_fed fresh
    · intro state call next fed allowed steps
      exact step_fed fed allowed.1 allowed.2 steps
  exact fed.inputs

/-! ## A turn, and a second one -/

/-- A manager whose embeddings are one number, different from the token. -/
def shiftedManager : EmbeddingLookupManager Int where
  textEmbeddingLookup := ⟨[1, 1, 1], fun token => [100 + token], fun _ => rfl, Nat.one_pos⟩
  multiModalEmbeddingLookups := []
  endOfMultiModalEmbeddingLookups := []
  fullySupportsMultiModal := false

/-- A backend whose operations all succeed and whose sampler returns `ids`. -/
def workingEmbeddingsBackend (ids : List Int) : Backend Int where
  initializeAttentionMask := .ok ()
  fillAttentionMask := fun _ _ => .ok ()
  fillInputBuffer := .ok ()
  updateMultiModalEmbeddings := .ok ()
  createPrefillInputBuffers := .ok ()
  cleanupMultiModalEmbeddings := .ok ()
  embeddingLookup := ⟨fun _ => .ok [], fun _ => .ok [], fun _ => .ok []⟩
  perLayerEmbeddingLookup := ⟨fun _ => .ok [], fun _ => .ok [], fun _ => .ok []⟩
  copyKvCacheBuffers := .ok ()
  compiledModelRun := .ok ()
  maskLogits := .ok ()
  sampleToIds := .ok ids

/-- An executor of a model that takes embeddings, without any tokens. -/
def embeddingsExecutor (outputBatchSize : Nat) : EmbeddedExecutor Int where
  executor := .initial ⟨false, true, false, false, 1⟩ outputBatchSize
  embeddingLookup := shiftedManager
  decodeInput := ⟨true, [outputBatchSize, 1, 1], List.replicate outputBatchSize 0⟩
  inputs := []

/-- A work group of so many tokens, in a buffer with a row for each. -/
def oneNumberGroup (prefillLength : Nat) : PrefillGroup Int where
  prefillLength := prefillLength
  backend := workingEmbeddingsBackend []
  input := ⟨true, [1, prefillLength, 1], List.replicate prefillLength 0⟩

/-- A static prefill of these groups of ids. -/
def prefillGroupsCall (groups : List (List Int)) : Call Int :=
  .prefillStatic (workingEmbeddingsBackend []) 1 groups.flatten
    (groups.map fun group => oneNumberGroup group.length)

theorem embeddingsExecutor_fresh {outputBatchSize : Nat} (positive : 0 < outputBatchSize) :
    Fresh (embeddingsExecutor outputBatchSize) where
  executor := ⟨_, _, rfl, rfl, positive, rfl⟩
  noLookups := rfl
  endTokens := nofun
  decodeInput := by
    simp [embeddingsExecutor, CompiledModelExecutor.initial, shiftedManager,
      EmbeddingLookupManager.getFloatsPerToken, EmbeddingLookupText.getFloatsPerToken,
      floatsPerToken]
  inputs := rfl

/-- The buffers of these groups are those of a signature of the manager. -/
theorem prefillGroupsCall_isText {state : EmbeddedExecutor Int} {groups : List (List Int)}
    (dimensions : state.embeddingLookup.textEmbeddingLookup.outputDimensions = [1, 1, 1])
    (text : ∀ id ∈ groups.flatten, 0 ≤ id) : IsText state (prefillGroupsCall groups) := by
  refine ⟨text, ?_⟩
  intro group member
  obtain ⟨ids, -, rfl⟩ := List.mem_map.mp member
  refine ⟨ids.length, ?_⟩
  rw [dimensions]
  exact ⟨rfl, rfl, Nat.le_refl 3, rfl, rfl, rfl, by simp [oneNumberGroup, floatsPerToken]⟩

/-- A prefill in two groups, then two decodes for two candidates. -/
def embeddedTurn : List (Call Int) :=
  [prefillGroupsCall [[5, 6, 7], [8]], .decode (workingEmbeddingsBackend [9, 10]),
    .decodeLogits (workingEmbeddingsBackend []) none]

theorem tokens_embedded_oneTurn :
    ∃ state, (machine id).execute (embeddingsExecutor 2) embeddedTurn = some state ∧
      state.inputs.map (fun input => (input.tokens, input.tensor.contents)) =
        [([5, 6], [105, 106, 100]), ([7], [107]), ([8, 8], [108, 108]), ([9, 10], [109, 110])] ∧
      ∀ input ∈ state.inputs, EmbeddingsInput.Exact state.embeddingLookup input := by
  have runs : ((machine id).execute (embeddingsExecutor 2) embeddedTurn).map
      (fun state => state.inputs.map fun input => (input.tokens, input.tensor.contents)) =
      some [([5, 6], [105, 106, 100]), ([7], [107]), ([8, 8], [108, 108]),
        ([9, 10], [109, 110])] := by decide +kernel
  obtain ⟨state, executed, inputs⟩ := Option.map_eq_some_iff.mp runs
  have guarded : (machine id).GuardedAlong
      (fun state call => IsText state call ∧ StartsEmbedded state call) (embeddingsExecutor 2)
      embeddedTurn := by
    refine ⟨⟨prefillGroupsCall_isText rfl (by decide), nofun, .inr (.inr ?_)⟩, ?_⟩
    · intro group isFirst
      cases isFirst
      decide
    · split
      · trivial
      · refine ⟨⟨trivial, trivial⟩, ?_⟩
        split
        · trivial
        · refine ⟨⟨trivial, trivial⟩, ?_⟩
          split <;> trivial
  exact ⟨state, executed, inputs, tokens_embedded
    ((Machine.ReachableUnder.initial (embeddingsExecutor_fresh Nat.two_pos)).execute guarded
      executed)⟩

/-- The token sampled last has no embedding, so the prefill of a second turn feeds its
id. -/
theorem tokens_not_embedded_secondTurn :
    ∃ state, (machine id).ReachableUnder IsText state ∧
      state.inputs.map (fun input => (input.tokens, input.tensor.contents)) =
        [([5], [105, 100]), ([6], [106]), ([7], [7])] ∧
      ¬∀ input ∈ state.inputs, EmbeddingsInput.Exact state.embeddingLookup input := by
  have firstTurn : ((machine id).execute (embeddingsExecutor 1)
      [prefillGroupsCall [[5, 6]], .decode (workingEmbeddingsBackend [7])]).map
      (fun state => state.embeddingLookup.textEmbeddingLookup.outputDimensions) =
        some [1, 1, 1] := by decide +kernel
  have secondTurn : (((machine id).execute (embeddingsExecutor 1)
      [prefillGroupsCall [[5, 6]], .decode (workingEmbeddingsBackend [7])]).bind
      fun between => (machine id).step between (prefillGroupsCall [[8]])).map
      (fun state => (state.inputs.map fun input => (input.tokens, input.tensor.contents),
        state.embeddingLookup.getFloatsPerToken,
        state.embeddingLookup.textEmbeddingLookup.embedding 7)) =
        some ([([5], [105, 100]), ([6], [106]), ([7], [7])], 1, [107]) := by decide +kernel
  obtain ⟨between, executed, dimensions⟩ := Option.map_eq_some_iff.mp firstTurn
  rw [executed, Option.bind_some] at secondTurn
  obtain ⟨state, steps, observed⟩ := Option.map_eq_some_iff.mp secondTurn
  rw [Prod.mk.injEq, Prod.mk.injEq] at observed
  obtain ⟨inputs, width, embedding⟩ := observed
  have guarded : (machine id).GuardedAlong IsText (embeddingsExecutor 1)
      [prefillGroupsCall [[5, 6]], .decode (workingEmbeddingsBackend [7])] := by
    refine ⟨prefillGroupsCall_isText rfl (by decide), ?_⟩
    split
    · trivial
    · refine ⟨trivial, ?_⟩
      split <;> trivial
  have reached := (Machine.ReachableUnder.initial
    (embeddingsExecutor_fresh Nat.one_pos)).execute guarded executed
  refine ⟨state, .step reached (prefillGroupsCall_isText dimensions (by decide)) steps, inputs, ?_⟩
  intro exact
  obtain ⟨input, member, isLast⟩ :
      ∃ input ∈ state.inputs, (input.tokens, input.tensor.contents) = ([7], [7]) := by
    rw [← List.mem_map, inputs]
    decide
  obtain ⟨tokens, contents⟩ := Prod.mk.injEq .. ▸ isLast
  have row := (exact input member).token 0 (by rw [tokens]; exact Nat.one_pos)
  simp only [tokens, contents, width, List.getElem_cons_zero] at row
  exact absurd (row.trans embedding) (by decide)

end LiteRTLM.Executor.EmbeddedExecutor
