import LiteRTLM.Components.EmbeddingLookup.LookupRows
import LiteRTLM.Executor.EmbeddedExecutor
import LiteRTLM.Executor.MultiModalPrefill

/-!
Contract: the lookups of text alone.

Owns: the rows a span of text is given, the rows of one model run, and the token a
prefill leaves pending with its embedding.

Does not own: sequences of calls.
-/

namespace LiteRTLM.Executor.EmbeddedExecutor

open LiteRTLM.Engine
open LiteRTLM.Library
open LiteRTLM.Library.ByteImage
open LiteRTLM.Library.Blocks
open LiteRTLM.Components.EmbeddingLookup
open LiteRTLM.Components.EmbeddingLookup.EmbeddingLookupManager
open LiteRTLM.Executor.EmbeddingInputs

variable {Scalar : Type}

/-! ## Text tokens alone -/

section TextLookups

variable {manager after : EmbeddingLookupManager Scalar} {tokens : List Int}
  {output written : OutputTensor Scalar} {first rows : Nat}

/-- Without multimodal lookups nothing is asked. -/
theorem succeeds_askMultiModal_nil {Output : Type}
    {ask : Output → EmbeddingLookupMultiModal.LookupM Scalar Output} {output written : Output}
    (noLookups : manager.multiModalEmbeddingLookups = [])
    (succeeds : Succeeds (askMultiModal ask output) manager written after) :
    written = output ∧ after = manager := by
  have asked : Succeeds (askMultiModal ask output) manager output
      { manager with multiModalEmbeddingLookups := [] } :=
    succeeds_askMultiModal (by rw [noLookups]; rfl)
  unfold Succeeds at succeeds asked
  rw [asked] at succeeds
  cases succeeds
  refine ⟨rfl, ?_⟩
  rw [← noLookups]

variable [Zero Scalar]

/-- An end lookup writes nothing for text. -/
theorem endLookup_text {lookup : EndOfMultiModalEmbedding Scalar} {offset : Nat}
    (special : lookup.specialToken < 0) (text : ∀ token ∈ tokens, 0 ≤ token)
    (ok : lookup.lookupPrefillSpan tokens offset output = .ok written) : written = output := by
  have noRows : ∀ row ∈ tokens.map (fun token =>
      if token = lookup.specialToken then some lookup.endOfMultiModalEmbedding else none),
      row = none := by
    intro row member
    obtain ⟨token, isToken, rfl⟩ := List.mem_map.mp member
    have nonnegative := text token isToken
    rw [if_neg (by omega)]
  unfold EndOfMultiModalEmbedding.lookupPrefillSpan at ok
  rw [except_bind_eq_ok] at ok
  obtain ⟨_, -, ok⟩ := ok
  rw [except_bind_eq_ok] at ok
  obtain ⟨_, -, ok⟩ := ok
  rw [except_pure_eq_ok, writeBlocks_of_none _ _ noRows] at ok
  exact ok.symm

/-- The end lookups write nothing for text. -/
theorem endLookups_text {lookups : List (EndOfMultiModalEmbedding Scalar)} {offset : Nat}
    (special : ∀ lookup ∈ lookups, lookup.specialToken < 0) (text : ∀ token ∈ tokens, 0 ≤ token)
    (ok : lookups.foldlM (fun written lookup => lookup.lookupPrefillSpan tokens offset written)
      output = Except.ok written) : written = output := by
  induction lookups generalizing output with
  | nil =>
      cases ok
      rfl
  | cons lookup others inductionHypothesis =>
      rw [List.foldlM_cons, except_bind_eq_ok] at ok
      obtain ⟨between, once, rest⟩ := ok
      rw [inductionHypothesis (fun other member => special other (List.mem_cons_of_mem _ member))
        rest]
      exact endLookup_text (special lookup List.mem_cons_self) text once

/-- A manager that has text lookups only: no multimodal lookups, and end tokens below
every text token. -/
structure TextOnly (manager : EmbeddingLookupManager Scalar) : Prop where
  noLookups : manager.multiModalEmbeddingLookups = []
  endTokens : ∀ lookup ∈ manager.endOfMultiModalEmbeddingLookups, lookup.specialToken < 0

/-- A span that is looked up fits the output. -/
theorem lookupPrefillSpan_fits
    (conforms : output.Conforms manager.textEmbeddingLookup.outputDimensions rows)
    (succeeds : Succeeds (lookupPrefillSpan tokens output first) manager written after) :
    first + tokens.length ≤ rows := by
  have positive : 0 < manager.textEmbeddingLookup.getFloatsPerToken :=
    manager.textEmbeddingLookup.positive
  unfold EmbeddingLookupManager.lookupPrefillSpan at succeeds
  rw [succeeds_get_bind] at succeeds
  dsimp only at succeeds
  rw [succeeds_bind] at succeeds
  obtain ⟨_, _, texts, -⟩ := succeeds
  obtain ⟨looked, -⟩ := (succeeds_returnIfError _).mp texts
  rw [EmbeddingLookupText.lookupPrefillSpan, except_bind_eq_ok] at looked
  obtain ⟨_, -, looked⟩ := looked
  rw [except_bind_eq_ok] at looked
  obtain ⟨_, sizeChecked, -⟩ := looked
  unfold checkPrefillSize at sizeChecked
  dsimp only at sizeChecked
  by_cases tooFar : 4 * output.contents.length <
      4 * (first * manager.getFloatsPerToken) +
        4 * manager.textEmbeddingLookup.getFloatsPerToken * tokens.length
  · rw [if_pos tooFar] at sizeChecked
    cases sizeChecked
  · rw [conforms.sized] at tooFar
    have inside : (first + tokens.length) * manager.textEmbeddingLookup.getFloatsPerToken ≤
        rows * manager.textEmbeddingLookup.getFloatsPerToken := by
      have regrouped : (first + tokens.length) * manager.textEmbeddingLookup.getFloatsPerToken =
          first * manager.textEmbeddingLookup.getFloatsPerToken +
            manager.textEmbeddingLookup.getFloatsPerToken * tokens.length := by ring
      rw [regrouped]
      unfold EmbeddingLookupManager.getFloatsPerToken at tooFar
      unfold EmbeddingLookupText.getFloatsPerToken at tooFar ⊢
      rw [Nat.mul_assoc] at tooFar
      omega
    exact le_of_mul_le_mul_right inside positive

/-- The rows of a span of text. -/
theorem lookupPrefillSpan_text (textOnly : TextOnly manager) (text : ∀ token ∈ tokens, 0 ≤ token)
    (conforms : output.Conforms manager.textEmbeddingLookup.outputDimensions rows)
    (fits : first + tokens.length ≤ rows)
    (succeeds : Succeeds (lookupPrefillSpan tokens output first) manager written after) :
    after = manager ∧ written.Conforms manager.textEmbeddingLookup.outputDimensions rows ∧
      ∀ row, block manager.getFloatsPerToken written.contents row =
        if row < first then block manager.getFloatsPerToken output.contents row
        else if row < rows then
          (tokens.map manager.textEmbeddingLookup.lookupInternal).getD (row - first)
            manager.defaultEmbeddingVector
        else block manager.getFloatsPerToken output.contents row := by
  obtain ⟨texts, found, textConforms, textRows⟩ :=
    manager.textEmbeddingLookup.lookupPrefillSpan_ok conforms fits
  unfold EmbeddingLookupManager.lookupPrefillSpan at succeeds
  rw [succeeds_get_bind] at succeeds
  dsimp only at succeeds
  rw [getFloatsPerToken, found, returnIfError_ok, succeeds_pure_bind] at succeeds
  have filtered : ∀ manager : EmbeddingLookupManager Scalar,
      manager.multiModalEmbeddingLookups = [] → ({ manager with
        multiModalEmbeddingLookups := manager.multiModalEmbeddingLookups.filter
          EmbeddingLookupMultiModal.hasRemainingEmbeddings } : EmbeddingLookupManager Scalar) =
        manager := by
    intro manager noLookups
    rw [noLookups, List.filter_nil, ← noLookups]
  split at succeeds
  · rw [succeeds_bind] at succeeds
    obtain ⟨asked, between, asks, succeeds⟩ := succeeds
    obtain ⟨isText, kept⟩ := succeeds_askMultiModal_nil textOnly.noLookups asks
    rw [isText, kept, succeeds_bind] at succeeds
    obtain ⟨ended, _, ends, succeeds⟩ := succeeds
    rw [askEnds, succeeds_get_bind] at ends
    obtain ⟨endsOk, stillKept⟩ := (succeeds_returnIfError _).mp ends
    rw [stillKept] at succeeds
    have unchanged := endLookups_text textOnly.endTokens text endsOk
    rw [succeeds_bind] at succeeds
    obtain ⟨_, _, removes, succeeds⟩ := succeeds
    obtain ⟨rfl, rfl⟩ := (succeeds_pure _).mp succeeds
    rw [succeeds_modify] at removes
    rw [removes, filtered _ textOnly.noLookups, unchanged]
    exact ⟨rfl, textConforms, textRows⟩
  · rw [succeeds_bind] at succeeds
    obtain ⟨_, _, removes, succeeds⟩ := succeeds
    obtain ⟨rfl, rfl⟩ := (succeeds_pure _).mp succeeds
    rw [succeeds_modify] at removes
    have noRows : ∀ row ∈ tokens.map (fun token =>
        if token ≥ 0 then none else some manager.defaultEmbeddingVector), row = none := by
      intro row member
      obtain ⟨token, isToken, rfl⟩ := List.mem_map.mp member
      exact if_pos (text token isToken)
    rw [removes, filtered _ textOnly.noLookups, writeBlocks_of_none _ _ noRows]
    exact ⟨rfl, textConforms, textRows⟩

/-- The embedding of one text token. -/
theorem lookupPrefillToken_text {token : Int} {embedding : List Scalar} (text : 0 ≤ token)
    (succeeds : Succeeds (lookupPrefillToken token) manager embedding after) :
    after = manager ∧ embedding = manager.textEmbeddingLookup.lookupInternal token := by
  have sized : (List.replicate manager.getFloatsPerToken (0 : Scalar)).length =
      manager.textEmbeddingLookup.getFloatsPerToken := List.length_replicate
  unfold EmbeddingLookupManager.lookupPrefillToken at succeeds
  rw [succeeds_get_bind] at succeeds
  rw [if_pos (show token ≥ 0 from text), EmbeddingLookupText.lookupPrefillToken, sized,
    if_neg (by simp)] at succeeds
  obtain ⟨rfl, rfl⟩ := (succeeds_pure _).mp succeeds
  exact ⟨rfl, rfl⟩

end TextLookups

/-! ## The embeddings input of a run -/

/-- The first rows hold the embeddings of the tokens they stand for; the rows behind
hold the default embedding or zeros. -/
structure EmbeddingsInput.Exact [Zero Scalar] (manager : EmbeddingLookupManager Scalar)
    (input : EmbeddingsInput Scalar) : Prop where
  text : ∀ token ∈ input.tokens, 0 ≤ token
  token : ∀ index (inBounds : index < input.tokens.length),
    block manager.getFloatsPerToken input.tensor.contents index =
      manager.textEmbeddingLookup.embedding input.tokens[index].toNat
  further : ∀ row, input.tokens.length ≤ row →
    row * manager.getFloatsPerToken < input.tensor.contents.length →
    block manager.getFloatsPerToken input.tensor.contents row = manager.defaultEmbeddingVector ∨
      block manager.getFloatsPerToken input.tensor.contents row =
        List.replicate manager.getFloatsPerToken 0

/-- A text token that carries its embedding. -/
structure LookedUp (manager : EmbeddingLookupManager Scalar) (token : TokenData Scalar) :
    Prop where
  text : 0 ≤ token.id
  embedding : token.embedding = manager.textEmbeddingLookup.embedding token.id.toNat

/-- A text token whose embedding is looked up, or not yet. -/
structure TextPending (manager : EmbeddingLookupManager Scalar) (token : TokenData Scalar) :
    Prop where
  text : 0 ≤ token.id
  embedding : token.embedding ≠ [] → LookedUp manager token

variable {manager after : EmbeddingLookupManager Scalar}

theorem lookupInternal_text {token : Int} (text : 0 ≤ token) :
    manager.textEmbeddingLookup.lookupInternal token =
      manager.textEmbeddingLookup.embedding token.toNat := by
  rw [EmbeddingLookupText.lookupInternal, if_neg (by omega)]

theorem LookedUp.length {token : TokenData Scalar} (lookedUp : LookedUp manager token) :
    token.embedding.length = manager.getFloatsPerToken := by
  rw [lookedUp.embedding]
  exact manager.textEmbeddingLookup.sized _

theorem LookedUp.nonempty {token : TokenData Scalar} (lookedUp : LookedUp manager token) :
    token.embedding ≠ [] := by
  have positive : 0 < manager.getFloatsPerToken := manager.textEmbeddingLookup.positive
  have length := lookedUp.length
  rw [← List.length_pos_iff]
  omega

theorem LookedUp.textPending {token : TokenData Scalar} (lookedUp : LookedUp manager token) :
    TextPending manager token :=
  ⟨lookedUp.text, fun _ => lookedUp⟩

/-- A token without an embedding. -/
theorem textPending_ofId {token : Int} (text : 0 ≤ token) :
    TextPending manager (TokenData.ofId token : TokenData Scalar) :=
  ⟨text, fun carries => absurd rfl carries⟩

/-! ## A prefill run -/

section PrefillRows

variable [Zero Scalar]

/-- The rows of a run of `PrefillInternal`: the pending token, then the span. -/
theorem exact_of_span {pending : Option (TokenData Scalar)} {front : List Int} {rows : Nat}
    {filled written : OutputTensor Scalar}
    (lookedUp : ∀ token ∈ pending, LookedUp manager token) (text : ∀ id ∈ front, 0 ≤ id)
    (firstRow : ∀ token ∈ pending,
      block manager.getFloatsPerToken filled.contents 0 = token.embedding)
    (sized : written.contents.length = rows * manager.getFloatsPerToken)
    (spanRows : ∀ row, block manager.getFloatsPerToken written.contents row =
      if row < pending.toList.length then block manager.getFloatsPerToken filled.contents row
      else if row < rows then
        (front.map manager.textEmbeddingLookup.lookupInternal).getD (row - pending.toList.length)
          manager.defaultEmbeddingVector
      else block manager.getFloatsPerToken filled.contents row)
    (fits : pending.toList.length + front.length ≤ rows) :
    EmbeddingsInput.Exact manager
      ⟨(pending.map TokenData.id).toList ++ front, written⟩ := by
  have pendingRows : (pending.map TokenData.id).toList.length = pending.toList.length := by
    cases pending <;> rfl
  constructor
  · intro id member
    rcases List.mem_append.mp member with isPending | isFront
    · obtain ⟨token, held, rfl⟩ := Option.map_eq_some_iff.mp (Option.mem_toList.mp isPending)
      exact (lookedUp token held).text
    · exact text id isFront
  · intro index inBounds
    dsimp only at inBounds ⊢
    rw [spanRows index]
    by_cases isPending : index < pending.toList.length
    · rw [if_pos isPending]
      cases pending with
      | none => exact absurd isPending (Nat.not_lt_zero _)
      | some token =>
          have isFirst : index = 0 := by simpa using isPending
          subst isFirst
          rw [firstRow token rfl, (lookedUp token rfl).embedding]
          rfl
    · have inFront : index - pending.toList.length < front.length := by
        rw [List.length_append, pendingRows] at inBounds
        omega
      rw [if_neg isPending, if_pos (by omega), List.getElem_append_right (by omega),
        ← lookupInternal_text (text _ (List.getElem_mem _)), List.getD_eq_getElem?_getD,
        List.getElem?_map, List.getElem?_eq_getElem inFront]
      simp only [pendingRows, Option.map_some, Option.getD_some]
  · intro row behind inside
    dsimp only at behind inside
    rw [List.length_append, pendingRows] at behind
    have positive : 0 < manager.getFloatsPerToken := manager.textEmbeddingLookup.positive
    have inRows : row < rows := by
      rw [sized] at inside
      exact lt_of_mul_lt_mul_right inside (Nat.zero_le _)
    apply Or.inl
    rw [spanRows row, if_neg (by omega), if_pos inRows, List.getD_eq_getElem?_getD,
      List.getElem?_eq_none (by rw [List.length_map]; omega), Option.getD_none]

/-- A pending token that was looked up fills the first row with its embedding. -/
theorem fillPending_text {rawId : Int → Scalar} {pending : Option (TokenData Scalar)}
    {input filled : OutputTensor Scalar} {rows : Nat}
    (lookedUp : ∀ token ∈ pending, LookedUp manager token)
    (conforms : input.Conforms manager.textEmbeddingLookup.outputDimensions rows)
    (ok : fillPendingInputToken rawId pending input = .ok filled) :
    filled.Conforms manager.textEmbeddingLookup.outputDimensions rows ∧
      ∀ token ∈ pending,
        block manager.getFloatsPerToken filled.contents 0 = token.embedding := by
  cases pending with
  | none =>
      cases ok
      exact ⟨conforms, nofun⟩
  | some token =>
      have carried := lookedUp token rfl
      have room : 0 < rows := by
        by_contra none
        have noRow : input.contents.length = 0 := by
          rw [conforms.sized, Nat.eq_zero_of_not_pos none, Nat.zero_mul]
        rw [fillPendingInputToken, fillInputBufferWithToken, noRow] at ok
        simp [fillValues, carried.nonempty] at ok
      obtain ⟨expected, fills, filledConforms, firstRow⟩ :=
        fillPending_ok rawId (.inr carried.length) conforms room
      rw [fillPendingInputToken, fills] at ok
      cases ok
      refine ⟨filledConforms, ?_⟩
      intro other same
      cases same
      exact firstRow carried.length

/-- The lookups of a run give the pending token and every id but the last its row, and
the last id its embedding. -/
theorem prefillInternalEmbeddings_text {rawId : Int → Scalar}
    {pending : Option (TokenData Scalar)} {ids : List Int} {input : OutputTensor Scalar}
    {rows : Nat} {group : PrefilledGroup Scalar} (textOnly : TextOnly manager)
    (text : ∀ id ∈ ids, 0 ≤ id) (lookedUp : ∀ token ∈ pending, LookedUp manager token)
    (conforms : input.Conforms manager.textEmbeddingLookup.outputDimensions rows)
    (runs : ¬(pending.isNone = true ∧ ids.length = 1))
    (succeeds : Succeeds (prefillInternalEmbeddings rawId pending ids input) manager group after) :
    after = manager ∧ ∃ last tensor, ids.getLast? = some last ∧
      group = ⟨pending, ids, some tensor,
        { TokenData.ofId last with
          embedding := manager.textEmbeddingLookup.embedding last.toNat }⟩ ∧
      EmbeddingsInput.Exact manager ⟨fedTokens group, tensor⟩ := by
  unfold prefillInternalEmbeddings at succeeds
  cases lastId : ids.getLast? with
  | none =>
      rw [lastId] at succeeds
      exact absurd succeeds (succeeds_throw _)
  | some last =>
      rw [lastId] at succeeds
      dsimp only at succeeds
      rw [if_neg runs, succeeds_bind] at succeeds
      obtain ⟨filled, _, fills, succeeds⟩ := succeeds
      obtain ⟨filledOk, kept⟩ := (succeeds_returnIfError _).mp fills
      rw [kept, succeeds_bind] at succeeds
      obtain ⟨written, between, spans, succeeds⟩ := succeeds
      rw [succeeds_bind] at succeeds
      obtain ⟨embedding, _, looks, succeeds⟩ := succeeds
      obtain ⟨rfl, rfl⟩ := (succeeds_pure _).mp succeeds
      have frontText : ∀ id ∈ ids.dropLast, 0 ≤ id :=
        fun id member => text id (List.mem_of_mem_dropLast member)
      have lastText : 0 ≤ last := text last (List.mem_of_getLast? lastId)
      obtain ⟨filledConforms, firstRow⟩ := fillPending_text lookedUp conforms filledOk
      have fits := lookupPrefillSpan_fits filledConforms spans
      obtain ⟨same, writtenConforms, spanRows⟩ :=
        lookupPrefillSpan_text textOnly frontText filledConforms fits spans
      rw [same] at looks
      obtain ⟨stillSame, isEmbedding⟩ := lookupPrefillToken_text lastText looks
      refine ⟨stillSame, last, written, rfl, ?_, ?_⟩
      · rw [isEmbedding, lookupInternal_text lastText]
      · exact exact_of_span lookedUp frontText firstRow writtenConforms.sized spanRows fits

/-- The only id is not looked up when nothing is pending. -/
theorem prefillInternalEmbeddings_stored {rawId : Int → Scalar} {ids : List Int}
    {input : OutputTensor Scalar} {group : PrefilledGroup Scalar} (one : ids.length = 1)
    (succeeds : Succeeds (prefillInternalEmbeddings rawId none ids input) manager group after) :
    after = manager ∧ group.input = none := by
  unfold prefillInternalEmbeddings at succeeds
  cases lastId : ids.getLast? with
  | none =>
      rw [lastId] at succeeds
      exact absurd succeeds (succeeds_throw _)
  | some last =>
      rw [lastId] at succeeds
      dsimp only at succeeds
      rw [if_pos ⟨rfl, one⟩] at succeeds
      obtain ⟨rfl, rfl⟩ := (succeeds_pure _).mp succeeds
      exact ⟨rfl, rfl⟩

end PrefillRows

/-! ## The pending token behind a prefill -/

section PendingToken

variable {before after : CompiledModelExecutor Scalar} {backend : Backend Scalar}

/-- The last token of a span of embeddings. -/
theorem lastInputToken_embedding {signatures : ModelSignatures} {id : Int}
    {token : TokenData Scalar} (embeddings : signatures.inputTokens = false)
    (succeeds : Succeeds (CompiledModelExecutor.lastInputToken backend signatures id)
      before token after) :
    backend.embeddingLookup.lookupPrefill id = .ok token.embedding := by
  unfold CompiledModelExecutor.lastInputToken at succeeds
  rw [embeddings] at succeeds
  simp only [Bool.false_eq_true, if_false, succeeds_bind,
    CompiledModelExecutor.succeeds_returnIfError] at succeeds
  obtain ⟨embedding, _, ⟨looked, -⟩, rest⟩ := succeeds
  rw [looked]
  split at rest
  · rw [succeeds_bind] at rest
    obtain ⟨_, _, -, result⟩ := rest
    rw [((succeeds_pure _).mp result).1]
  · rw [((succeeds_pure _).mp rest).1]

/-- What `PrefillInternal` leaves pending: its last id, with the embedding that was
looked up for it when the model ran. -/
structure LeavesPending (backend : Backend Scalar) (before after : CompiledModelExecutor Scalar)
    (ids : List Int) (last : Int) : Prop where
  signatures : after.signatures = before.signatures
  atMostOne : before.processedTokens.getPendingInputToken.length ≤ 1
  pending : (before.processedTokens.getPendingInputToken = [] ∧ ids.length = 1 ∧
      after.processedTokens.getPendingInputToken = [TokenData.ofId last]) ∨
    (¬(before.processedTokens.getPendingInputToken = [] ∧ ids.length = 1) ∧
      ∃ token, after.processedTokens.getPendingInputToken = [token] ∧ token.id = last ∧
        (before.signatures.inputTokens = false →
          backend.embeddingLookup.lookupPrefill last = .ok token.embedding))

theorem prefillRun_pending {front : List Int} {last : Int}
    (succeeds : Succeeds (CompiledModelExecutor.prefillRun backend front last) before () after) :
    after.signatures = before.signatures ∧
      ∃ token, after.processedTokens.getPendingInputToken = [token] ∧ token.id = last ∧
        (before.signatures.inputTokens = false →
          backend.embeddingLookup.lookupPrefill last = .ok token.embedding) := by
  simp only [CompiledModelExecutor.prefillRun, succeeds_bind, succeeds_get,
    CompiledModelExecutor.succeeds_onlyIf, succeeds_modify,
    CompiledModelExecutor.succeeds_updateProcessedTokens,
    CompiledModelExecutor.succeeds_fillInputBufferWithToken,
    CompiledModelExecutor.succeeds_compiledModelRun,
    CompiledModelExecutor.succeeds_returnIfError, and_assoc, exists_and_left,
    exists_eq_left, exists_const] at succeeds
  obtain ⟨consumed, consumes, fedTokens, spanLooked, span, masked, masks, lastToken, lastLooked,
    lastLookup, added, ⟨processed, addsPending, rfl⟩, -, rfl⟩ := succeeds
  have consumedSignatures : consumed.signatures = before.signatures := by
    rcases consumes with ⟨-, -, -, processedTokens, -, rfl⟩ | ⟨-, rfl⟩ <;> rfl
  have spanKept := (CompiledModelExecutor.lookupPrefillSpan_ok span).2
  have maskKept : masked = spanLooked := by
    rcases masks with ⟨-, -, same⟩ | ⟨-, same⟩ <;> exact same
  obtain ⟨lastId, lastKept⟩ := CompiledModelExecutor.lastInputToken_ok lastLookup
  refine ⟨?_, lastToken, CompiledModelExecutor.addPendingInputToken_tokens addsPending, lastId,
    fun embeddings => lastInputToken_embedding embeddings lastLookup⟩
  show lastLooked.signatures = _
  rw [lastKept, maskKept, spanKept]
  exact consumedSignatures

theorem prefillInternal_pending {ids : List Int}
    (succeeds : Succeeds (CompiledModelExecutor.prefillInternal backend ids) before () after) :
    ∃ last, ids.getLast? = some last ∧ LeavesPending backend before after ids last := by
  simp only [CompiledModelExecutor.prefillInternal, succeeds_bind, succeeds_get,
    CompiledModelExecutor.succeeds_onlyIf, CompiledModelExecutor.succeeds_returnIfError,
    CompiledModelExecutor.succeeds_retCheck, and_assoc, exists_and_left,
    exists_eq_left, exists_const] at succeeds
  obtain ⟨masked, masks, atMostOne, body⟩ := succeeds
  have maskKept : masked = before := by
    rcases masks with ⟨-, -, same⟩ | ⟨-, same⟩ <;> exact same
  subst maskKept
  cases lastId : ids.getLast? with
  | none => simp [lastId] at body
  | some last =>
      refine ⟨last, rfl, ?_⟩
      simp only [lastId, succeeds_ite,
        CompiledModelExecutor.succeeds_updateProcessedTokens] at body
      rcases body with ⟨⟨noToken, single⟩, processed, addsPending, rfl⟩ | ⟨runs, ran⟩
      · exact ⟨rfl, atMostOne, .inl ⟨noToken, single,
          CompiledModelExecutor.addPendingInputToken_tokens addsPending⟩⟩
      · obtain ⟨signatures, pending⟩ := prefillRun_pending ran
        exact ⟨signatures, atMostOne, .inr ⟨runs, pending⟩⟩

end PendingToken

/-! ## The tokens of a decode -/

section DecodeTokens

variable {before after : CompiledModelExecutor Scalar} {backend : Backend Scalar}
  {signatures : ModelSignatures} {processed : ProcessedTokens Scalar}

/-- A change of the pending tokens in place, seen in their list. -/
theorem getPendingInputToken_map (change : TokenData Scalar → TokenData Scalar) :
    (processed.mapPendingInputToken change).getPendingInputToken =
      processed.getPendingInputToken.map change := by
  simp only [ProcessedTokens.getPendingInputToken, ProcessedTokens.mapPendingInputToken,
    ProcessedTokens.mapTokens, List.filterMap_map, List.map_filterMap]
  rfl

/-- Ids given by the caller carry no embeddings. -/
theorem addInputToken_pending {inputs : Option (List Int)}
    (succeeds : Succeeds (CompiledModelExecutor.addInputToken inputs) before () after) :
    ∀ token ∈ after.processedTokens.getPendingInputToken,
      token ∈ before.processedTokens.getPendingInputToken ∨ token.embedding = [] := by
  simp only [CompiledModelExecutor.addInputToken, succeeds_bind, succeeds_get, and_assoc,
    exists_and_left, exists_eq_left] at succeeds
  split at succeeds
  · simp only [succeeds_bind, CompiledModelExecutor.succeeds_onlyIf, succeeds_modify,
      CompiledModelExecutor.succeeds_retCheck,
      CompiledModelExecutor.succeeds_updateProcessedTokens, and_assoc, exists_and_left,
      exists_eq_left, exists_const] at succeeds
    obtain ⟨-, ⟨-, processed, adds, rfl⟩ | ⟨-, rfl⟩⟩ := succeeds
    · intro token member
      rw [CompiledModelExecutor.addPendingInputToken_tokens adds] at member
      obtain ⟨id, -, rfl⟩ := List.mem_map.mp member
      exact .inr rfl
    · exact fun token member => .inl member
  · obtain ⟨-, rfl⟩ := (succeeds_pure _).mp succeeds
    exact fun token member => .inl member

/-- The first decode gives every candidate the pending token of the first. -/
theorem prepareFirstDecode_pending
    (succeeds : Succeeds (CompiledModelExecutor.prepareFirstDecode backend) before () after) :
    ∀ token ∈ after.processedTokens.getPendingInputToken,
      token ∈ before.processedTokens.getPendingInputToken := by
  simp only [CompiledModelExecutor.prepareFirstDecode, succeeds_bind, succeeds_get,
    CompiledModelExecutor.succeeds_onlyIf, succeeds_modify,
    CompiledModelExecutor.succeeds_returnIfError,
    CompiledModelExecutor.succeeds_updateProcessedTokens, and_assoc, exists_and_left,
    exists_eq_left, exists_const] at succeeds
  rcases succeeds with
    ⟨-, ⟨-, _, ⟨processed, broadcasts, rfl⟩, -, rfl⟩ | ⟨-, rfl⟩⟩ | ⟨-, rfl⟩
  · intro token member
    obtain ⟨candidate, isCandidate, held⟩ := List.mem_filterMap.mp member
    unfold ProcessedTokens.broadcastTokenCandidates at broadcasts
    split at broadcasts
    · cases broadcasts
    · split at broadcasts
      · cases broadcasts
      · cases broadcasts
        rw [List.eq_of_mem_replicate isCandidate] at held
        exact List.mem_filterMap.mpr ⟨_, before.processedTokens.first_mem, held⟩
  · exact fun token member => member
  · exact fun token member => member

/-- There is one pending token for each candidate. -/
theorem getPendingInputToken_length (pending : processed.hasPendingInputToken = true) :
    processed.getPendingInputToken.length = processed.tokens.length := by
  have column := congrArg List.length (ProcessedTokens.pending_column pending)
  rw [List.length_map, List.length_map, ProcessedTokens.getCopyOfTokens, List.length_map] at column
  exact column

theorem mapM_ok_of_mem {Error α β : Type} {operation : α → Except Error β} {inputs : List α}
    {outputs : List β} (ok : inputs.mapM operation = .ok outputs) :
    ∀ input ∈ inputs, ∃ output, operation input = .ok output := by
  induction inputs generalizing outputs with
  | nil => exact nofun
  | cons first rest inductionHypothesis =>
      rw [List.mapM_cons, except_bind_eq_ok] at ok
      obtain ⟨output, once, ok⟩ := ok
      rw [except_bind_eq_ok] at ok
      obtain ⟨others, restOk, -⟩ := ok
      intro input member
      rcases List.mem_cons.mp member with isFirst | isLater
      · exact ⟨output, isFirst ▸ once⟩
      · exact inductionHypothesis restOk input isLater

variable [Zero Scalar]

theorem lookupDecode_text {id : Int} {embedding : List Scalar}
    (ok : manager.lookupDecode id = .ok embedding) :
    0 ≤ id ∧ embedding = manager.textEmbeddingLookup.embedding id.toNat := by
  have sized : (List.replicate manager.getFloatsPerToken (0 : Scalar)).length =
      manager.textEmbeddingLookup.getFloatsPerToken := List.length_replicate
  unfold EmbeddingLookupManager.lookupDecode at ok
  by_cases negative : id < 0
  · rw [if_pos negative] at ok
    cases ok
  · have text : 0 ≤ id := by omega
    rw [if_neg negative, EmbeddingLookupText.lookupPrefillToken, sized, if_neg (by simp),
      lookupInternal_text text] at ok
    exact ⟨text, (Except.ok.inj ok).symm⟩

/-- A decode finds the embedding of a pending token that has none. -/
theorem withEmbedding_lookedUp {token found : TokenData Scalar}
    (embeddings : signatures.inputEmbeddings = true)
    (carried : token.embedding ≠ [] → LookedUp manager token)
    (ok : CompiledModelExecutor.lookupDecode (withDecodeEmbeddings backend manager) signatures
      token = .ok found) :
    LookedUp manager (CompiledModelExecutor.withEmbedding (withDecodeEmbeddings backend manager)
      signatures token) := by
  rw [CompiledModelExecutor.withEmbedding, ok]
  dsimp only
  unfold CompiledModelExecutor.lookupDecode at ok
  by_cases none : token.embedding = []
  · rw [if_pos ⟨embeddings, by rw [none]; rfl⟩, except_bind_eq_ok] at ok
    obtain ⟨embedding, looked, rest⟩ := ok
    obtain ⟨text, isEmbedding⟩ := lookupDecode_text looked
    split at rest
    · rw [except_bind_eq_ok] at rest
      obtain ⟨perLayer, -, rest⟩ := rest
      rw [except_pure_eq_ok] at rest
      rw [← rest]
      exact ⟨text, isEmbedding⟩
    · rw [except_pure_eq_ok] at rest
      rw [← rest]
      exact ⟨text, isEmbedding⟩
  · rw [if_neg (fun both => none (List.isEmpty_iff.mp both.2)), except_pure_eq_ok] at ok
    rw [← ok]
    exact carried none

/-- Every token a decode feeds carries its embedding. -/
theorem getTokenToDecode_lookedUp {inputs : Option (List Int)}
    {next : ProcessedTokens.StepAndToken Scalar}
    (embeddings : before.signatures.inputEmbeddings = true)
    (pending : ∀ token ∈ before.processedTokens.getPendingInputToken, TextPending manager token)
    (succeeds : Succeeds (CompiledModelExecutor.getTokenToDecode
      (withDecodeEmbeddings backend manager) inputs) before next after) :
    ∀ token ∈ next.token, LookedUp manager token := by
  simp only [CompiledModelExecutor.getTokenToDecode, succeeds_bind, succeeds_get,
    succeeds_modify, succeeds_pure, CompiledModelExecutor.succeeds_returnIfError, and_assoc,
    exists_and_left, exists_eq_left, exists_const] at succeeds
  obtain ⟨_, between, adds, _, looked, rfl, -⟩ := succeeds
  have sameSignatures : between.signatures = before.signatures := by
    obtain ⟨_, rfl, -⟩ := CompiledModelExecutor.addInputToken_ok adds
    rfl
  intro token member
  rw [ProcessedTokens.getNextUnprocessedToken, getPendingInputToken_map] at member
  obtain ⟨earlier, held, rfl⟩ := List.mem_map.mp member
  obtain ⟨found, foundOk⟩ := mapM_ok_of_mem looked earlier held
  apply withEmbedding_lookedUp (sameSignatures ▸ embeddings) ?_ foundOk
  intro carries
  rcases addInputToken_pending adds earlier held with isPending | none
  · exact (pending earlier isPending).embedding carries
  · exact absurd none carries

/-- The embeddings of the tokens fill a buffer that has a row for each. -/
theorem fillInputBufferWithToken_exact {rawId : Int → Scalar} {tokens : List (TokenData Scalar)}
    {input filled : OutputTensor Scalar} (lookedUp : ∀ token ∈ tokens, LookedUp manager token)
    (sized : input.contents.length = tokens.length * manager.getFloatsPerToken)
    (ok : fillInputBufferWithToken rawId false tokens input = .ok filled) :
    filled.contents.length = tokens.length * manager.getFloatsPerToken ∧
      EmbeddingsInput.Exact manager ⟨tokens.map TokenData.id, filled⟩ := by
  have nonempty : tokens ≠ [] := by
    rintro rfl
    cases ok
  have several : 0 < tokens.length := List.length_pos_iff.mpr nonempty
  have stride : input.contents.length / tokens.length = manager.getFloatsPerToken := by
    rw [sized, Nat.mul_div_cancel_left _ several]
  have values : ∀ token ∈ tokens, fillValues rawId false token = token.embedding := by
    intro token member
    have carries : ¬token.embedding.isEmpty = true := by
      rw [List.isEmpty_iff]
      exact (lookedUp token member).nonempty
    rw [fillValues, if_neg carries, if_neg Bool.false_ne_true]
  have rowSized : ∀ row ∈ tokens.map TokenData.embedding, row.length =
      manager.getFloatsPerToken := by
    intro row member
    obtain ⟨token, isToken, rfl⟩ := List.mem_map.mp member
    exact (lookedUp token isToken).length
  have rows : (tokens.flatMap fun token => fillValues rawId false token ++
      List.replicate (manager.getFloatsPerToken - (fillValues rawId false token).length) 0) =
        (tokens.map TokenData.embedding).flatten := by
    rw [List.flatMap_def]
    congr 1
    apply List.map_congr_left
    intro token member
    rw [values token member, (lookedUp token member).length, Nat.sub_self, List.replicate_zero,
      List.append_nil]
  have joined : (tokens.map TokenData.embedding).flatten.length =
      tokens.length * manager.getFloatsPerToken := by
    rw [length_flatten rowSized, List.length_map]
  have contents : filled.contents = (tokens.map TokenData.embedding).flatten := by
    unfold fillInputBufferWithToken at ok
    dsimp only at ok
    rw [if_neg (by rw [List.isEmpty_iff]; exact nonempty), stride] at ok
    split at ok
    · rw [← Except.ok.inj ok]
      dsimp only
      rw [rows, ← sized, List.drop_length, List.append_nil]
    · cases ok
  refine ⟨by rw [contents, joined], ?_, ?_, ?_⟩
  · intro id member
    obtain ⟨token, isToken, rfl⟩ := List.mem_map.mp member
    exact (lookedUp token isToken).text
  · intro index inBounds
    have inside : index < tokens.length := by simpa using inBounds
    dsimp only
    rw [contents, block_flatten rowSized (by simpa using inside), List.getElem_map,
      List.getElem_map, (lookedUp _ (List.getElem_mem inside)).embedding]
  · intro row behind inside
    dsimp only at behind inside
    rw [contents, joined] at inside
    rw [List.length_map] at behind
    have before : row < tokens.length := lt_of_mul_lt_mul_right inside (Nat.zero_le _)
    omega

end DecodeTokens

end LiteRTLM.Executor.EmbeddedExecutor
