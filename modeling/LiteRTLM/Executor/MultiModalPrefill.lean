import LiteRTLM.Components.EmbeddingLookup.MultiModalOrder
import LiteRTLM.Executor.EmbeddingInputs

/-!
Contract: every token of a multimodal prompt gets its embedding, however the prompt
is split into work groups.

Owns: when the lookups of a prefill give each token its embedding, the condition
under which they do, and the proof by induction on the work groups.

Does not own: the lookups of one group.

A first group of one id without a pending token is stored before any lookup.
-/

namespace LiteRTLM.Executor.EmbeddingInputs

open LiteRTLM.Engine
open LiteRTLM.Library
open LiteRTLM.Library.ByteImage
open LiteRTLM.Library.Blocks
open LiteRTLM.Components.EmbeddingLookup
open LiteRTLM.Components.EmbeddingLookup.EmbeddingLookupManager

variable {Scalar : Type}

/-! ## What a prefill gives its tokens -/

def PrefilledGroup.pendingRows (group : PrefilledGroup Scalar) : Nat :=
  group.pending.toList.length

/-- The embeddings the lookups of a group gave its ids: the rows of the span, and the
embedding kept with the last id. -/
def PrefilledGroup.given (width : Nat) (group : PrefilledGroup Scalar) : List (List Scalar) :=
  match group.input with
  | none => [group.lastInputToken.embedding]
  | some input =>
      (List.range (group.ids.length - 1)).map
        (fun index => block width input.contents (group.pendingRows + index)) ++
        [group.lastInputToken.embedding]

/-- The embeddings that belong to the tokens of a list, where `used` equal tokens
precede each. -/
def embeddingsOf (manager : EmbeddingLookupManager Scalar) (supplied : Int → List Scalar)
    (used : Int → Nat) (tokens : List Int) : List (List Scalar) :=
  tokens.mapIdx fun index token =>
    manager.embeddingOf supplied token (used token + (tokens.take index).count token)

/-- Every token was given its embedding, no row was used otherwise, and a pending token
is fed as the embedding it was given. -/
structure Embedded (manager : EmbeddingLookupManager Scalar) (supplied : Int → List Scalar)
    (used : Int → Nat) (tokens : List Int) (groups : List (PrefilledGroup Scalar)) : Prop where
  given : groups.flatMap (PrefilledGroup.given manager.getFloatsPerToken) =
    embeddingsOf manager supplied used tokens
  unused : ∀ group ∈ groups, ∀ input ∈ group.input, ∀ row,
    group.pendingRows + (group.ids.length - 1) ≤ row →
    row * manager.getFloatsPerToken < input.contents.length →
    block manager.getFloatsPerToken input.contents row = manager.defaultEmbeddingVector
  carried : ∀ group ∈ groups, ∀ input ∈ group.input, ∀ token ∈ group.pending,
    token.embedding.length = manager.getFloatsPerToken →
    block manager.getFloatsPerToken input.contents 0 = token.embedding

/-- A work group with ids and an input that has a row for each. -/
def GroupFits (manager : EmbeddingLookupManager Scalar) (group : List Int × OutputTensor Scalar) :
    Prop :=
  group.1 ≠ [] ∧ ∃ rows,
    group.2.Conforms manager.textEmbeddingLookup.outputDimensions rows ∧ group.1.length ≤ rows

/-- A pending token that was looked up, or not at all. -/
def PendingFits (manager : EmbeddingLookupManager Scalar) (token : TokenData Scalar) : Prop :=
  token.embedding = [] ∨ token.embedding.length = manager.getFloatsPerToken

/-- The first id is not stored without a lookup: a token is pending, or the first
group has more ids. -/
def FirstLookedUp (pending : Option (TokenData Scalar))
    (groups : List (List Int × OutputTensor Scalar)) : Prop :=
  pending.isSome = true ∨ groups.head?.map (fun group => group.1.length) ≠ some 1

variable {manager : EmbeddingLookupManager Scalar} {supplied : Int → List Scalar}
  {used : Int → Nat}

/-- Tokens behind others count these as used. -/
theorem embeddingsOf_append (earlier later : List Int) :
    embeddingsOf manager supplied used (earlier ++ later) =
      embeddingsOf manager supplied used earlier ++
        embeddingsOf manager supplied (fun token => used token + earlier.count token) later := by
  unfold embeddingsOf
  rw [List.mapIdx_append]
  congr 1
  · apply List.ext_getElem
    · simp
    · intro index inBounds _
      have inside : index < earlier.length := by simpa using inBounds
      rw [List.getElem_mapIdx, List.getElem_mapIdx, List.take_append_of_le_length (by omega)]
  · apply List.ext_getElem
    · simp
    · intro index _ _
      rw [List.getElem_mapIdx, List.getElem_mapIdx, Nat.add_comm index, List.take_length_add_append,
        List.count_append, Nat.add_assoc]

theorem embeddingsOf_singleton (token : Int) :
    embeddingsOf manager supplied used [token] =
      [manager.embeddingOf supplied token (used token)] := by
  simp [embeddingsOf]

/-- The rows of a span, read off one by one, are the embeddings of its tokens. -/
theorem SpanRows.given_eq {tokens : List Int} {first rows : Nat}
    {output written : OutputTensor Scalar}
    (spanRows : SpanRows manager supplied used tokens first rows output written) :
    (List.range tokens.length).map
        (fun index => block manager.getFloatsPerToken written.contents (first + index)) =
      embeddingsOf manager supplied used tokens := by
  apply List.ext_getElem
  · simp [embeddingsOf]
  · intro index inBounds _
    have inside : index < tokens.length := by simpa using inBounds
    rw [List.getElem_map, List.getElem_range, spanRows.token index inside]
    simp [embeddingsOf]

/-- An embedding has the numbers of one token. -/
theorem embeddingOf_length (supplied : Int → List Scalar) (ordinal : Nat)
    (multiModal : FullyMultiModal manager) {token : Int}
    (known : Known manager token)
    (enough : IsModality token →
      (ordinal + 1) * manager.getFloatsPerToken ≤ (supplied token).length) :
    (manager.embeddingOf supplied token ordinal).length = manager.getFloatsPerToken := by
  unfold embeddingOf
  by_cases isText : token ≥ 0
  · rw [if_pos isText]
    exact manager.textEmbeddingLookup.lookupInternal_length token
  · rw [if_neg isText]
    by_cases isModality : IsModality token
    · have room := enough isModality
      rw [Nat.succ_mul] at room
      rw [if_pos isModality, block, slice_length]
      omega
    · rw [if_neg isModality, endEmbedding]
      rcases known with text | modality | ⟨lookup, member, special⟩
      · exact absurd text isText
      · exact absurd modality isModality
      · cases found : manager.endOfMultiModalEmbeddingLookups.find? fun lookup =>
            lookup.specialToken = token with
        | none =>
            rw [List.find?_eq_none] at found
            exact absurd special (by simpa using found lookup member)
        | some lookup => exact multiModal.ends.sized (List.mem_of_find?_eq_some found)

/-- Tokens behind others need what is left of the rows. -/
theorem EnoughFor.rest {earlier later : List Int}
    (enough : EnoughFor manager supplied used (earlier ++ later)) :
    EnoughFor manager supplied (fun token => used token + earlier.count token) later := by
  intro token modality
  have bound := enough token modality
  rw [List.count_append, ← Nat.add_assoc] at bound
  exact bound

theorem EnoughFor.front {earlier later : List Int}
    (enough : EnoughFor manager supplied used (earlier ++ later)) :
    EnoughFor manager supplied used earlier := by
  intro token modality
  have bound := enough token modality
  rw [List.count_append] at bound
  exact (Nat.mul_le_mul_right _ (by omega)).trans bound

/-! ## One group -/

variable [Zero Scalar]

/-- The pending token fills the first row; the buffer keeps its shape. -/
theorem fillPending_ok (rawId : Int → Scalar) {token : TokenData Scalar}
    {input : OutputTensor Scalar} {rows : Nat} (fits : PendingFits manager token)
    (conforms : input.Conforms manager.textEmbeddingLookup.outputDimensions rows)
    (room : 0 < rows) :
    ∃ filled, fillInputBufferWithToken rawId false [token] input = .ok filled ∧
      filled.Conforms manager.textEmbeddingLookup.outputDimensions rows ∧
      (token.embedding.length = manager.getFloatsPerToken →
        block manager.getFloatsPerToken filled.contents 0 = token.embedding) := by
  have positive : 0 < manager.getFloatsPerToken := manager.textEmbeddingLookup.positive
  have sized : input.contents.length = rows * manager.getFloatsPerToken := conforms.sized
  have oneRow : manager.getFloatsPerToken ≤ input.contents.length := by
    rw [sized]
    exact Nat.le_mul_of_pos_left _ room
  have short : (fillValues rawId false token).length ≤ input.contents.length := by
    unfold fillValues
    rcases fits with none | looked
    · rw [none, List.isEmpty_nil, if_pos rfl, List.length_singleton]
      omega
    · have nonempty : ¬token.embedding.isEmpty = true := by
        rw [List.isEmpty_iff_length_eq_zero]
        omega
      rw [if_neg nonempty, if_neg Bool.false_ne_true, looked]
      exact oneRow
  refine ⟨{ input with
    contents := fillValues rawId false token ++
      List.replicate (input.contents.length - (fillValues rawId false token).length) 0 },
    ?_, conforms.write ?_, ?_⟩
  · simp [fillInputBufferWithToken, short]
  · rw [List.length_append, List.length_replicate]
    have total := conforms.sized
    omega
  · intro looked
    have nonempty : ¬token.embedding.isEmpty = true := by
      rw [List.isEmpty_iff_length_eq_zero]
      omega
    have values : fillValues rawId false token = token.embedding := by
      rw [fillValues, if_neg nonempty, if_neg Bool.false_ne_true]
    dsimp only
    rw [values, block, slice, Nat.zero_mul, List.drop_zero, Nat.zero_add, Nat.sub_zero, ← looked,
      List.take_left']
    rfl

/-- The lookups of one group that runs: every id is given its embedding. -/
theorem prefillInternal_embedded (rawId : Int → Scalar) {pending : Option (TokenData Scalar)}
    {group : List Int × OutputTensor Scalar} (multiModal : FullyMultiModal manager)
    (serves : Serves manager supplied used) (enough : EnoughFor manager supplied used group.1)
    (known : ∀ token ∈ group.1, Known manager token) (fits : GroupFits manager group)
    (pendingFits : ∀ token ∈ pending, PendingFits manager token)
    (runs : pending.isSome = true ∨ group.1.length ≠ 1) :
    ∃ prefilled lookups,
      Succeeds (prefillInternalEmbeddings rawId pending group.1 group.2) manager prefilled
        { manager with multiModalEmbeddingLookups := lookups } ∧
      Serves { manager with multiModalEmbeddingLookups := lookups } supplied
        (fun token => used token + group.1.count token) ∧
      PendingFits manager prefilled.lastInputToken ∧
      Embedded manager supplied used group.1 [prefilled] := by
  obtain ⟨ids, input⟩ := group
  obtain ⟨nonempty, rows, conforms, short⟩ := fits
  obtain ⟨front, last, rfl⟩ : ∃ front last, ids = front ++ [last] :=
    ⟨ids.dropLast, ids.getLast nonempty, (List.dropLast_append_getLast nonempty).symm⟩
  dsimp only at *
  have short : front.length + 1 ≤ rows := by simpa using short
  have notStored : ¬(pending.isNone = true ∧ (front ++ [last]).length = 1) := by
    rintro ⟨none, one⟩
    rcases runs with isSome | other
    · cases pending <;> simp at none isSome
    · exact other one
  -- the row of the pending token
  obtain ⟨filled, fills, filledConforms, firstRow⟩ : ∃ filled,
      fillPendingInputToken rawId pending input = .ok filled ∧
      filled.Conforms manager.textEmbeddingLookup.outputDimensions rows ∧
      ∀ token ∈ pending, token.embedding.length = manager.getFloatsPerToken →
        block manager.getFloatsPerToken filled.contents 0 = token.embedding := by
    cases pending with
    | none => exact ⟨input, rfl, conforms, nofun⟩
    | some token =>
        obtain ⟨filled, fills, filledConforms, firstRow⟩ :=
          fillPending_ok rawId (pendingFits token rfl) conforms (by omega)
        refine ⟨filled, fills, filledConforms, ?_⟩
        intro other same
        cases same
        exact firstRow
  -- the span of all ids but the last
  have pendingRows : pending.toList.length ≤ 1 := by cases pending <;> simp
  obtain ⟨written, lookups, spans, writtenConforms, spanServes, spanRows⟩ :=
    serves.lookupPrefillSpan multiModal (EnoughFor.front enough)
      (fun token member => known token (List.mem_append_left _ member)) filledConforms
      (show pending.toList.length + front.length ≤ rows by omega)
  -- the last id
  have lastEnough : EnoughFor { manager with multiModalEmbeddingLookups := lookups } supplied
      (fun token => used token + front.count token) [last] := EnoughFor.rest enough
  obtain ⟨finalLookups, looks, lastServes⟩ := spanServes.lookupPrefillToken
    (multiModal.withLookups lookups) lastEnough
    (known last (List.mem_append_right _ List.mem_cons_self))
  have lastLength : (manager.embeddingOf supplied last (used last + front.count last)).length =
      manager.getFloatsPerToken := by
    apply embeddingOf_length supplied _ multiModal
      (known last (List.mem_append_right _ List.mem_cons_self))
    intro modality
    have bound := enough last modality
    rw [List.count_append, List.count_singleton_self, ← Nat.add_assoc] at bound
    exact bound
  refine ⟨⟨pending, front ++ [last], some written,
    { TokenData.ofId last with
      embedding := manager.embeddingOf supplied last (used last + front.count last) }⟩,
    finalLookups, ?_, ?_, .inr lastLength, ?_, ?_, ?_⟩
  · unfold prefillInternalEmbeddings
    rw [List.getLast?_concat]
    dsimp only
    rw [if_neg notStored, List.dropLast_concat, succeeds_bind]
    refine ⟨filled, manager, by rw [fills]; exact (succeeds_pure _).mpr ⟨rfl, rfl⟩, ?_⟩
    rw [succeeds_bind]
    refine ⟨written, _, spans, ?_⟩
    rw [succeeds_bind]
    exact ⟨_, _, looks, (succeeds_pure _).mpr ⟨rfl, rfl⟩⟩
  · have sameCount : (fun token => used token + (front ++ [last]).count token) =
        fun token => used token + front.count token + [last].count token := by
      funext token
      rw [List.count_append, Nat.add_assoc]
    rw [sameCount]
    exact lastServes
  · have frontLength : (front ++ [last]).length - 1 = front.length := by simp
    rw [List.flatMap_singleton, embeddingsOf_append, embeddingsOf_singleton,
      PrefilledGroup.given, frontLength]
    dsimp only [PrefilledGroup.pendingRows]
    rw [SpanRows.given_eq spanRows]
  · intro group member input isInput row behind inside
    rw [List.mem_singleton.mp member] at isInput behind
    cases isInput
    have inRows : row < rows := by
      rw [writtenConforms.sized] at inside
      exact lt_of_mul_lt_mul_right inside (Nat.zero_le _)
    apply spanRows.behind row ?_ inRows
    simpa [PrefilledGroup.pendingRows] using behind
  · intro group member input isInput token isPending looked
    rw [List.mem_singleton.mp member] at isInput isPending
    cases isInput
    have before : 0 < pending.toList.length := by
      rw [Option.mem_def] at isPending
      dsimp only at isPending
      rw [isPending]
      exact Nat.one_pos
    rw [spanRows.front 0 before]
    exact firstRow token isPending looked

/-! ## All groups -/

omit [Zero Scalar] in
/-- The embeddings of one group and of those behind it. -/
theorem Embedded.cons {earlier later : List Int} {group : PrefilledGroup Scalar}
    {groups : List (PrefilledGroup Scalar)}
    (first : Embedded manager supplied used earlier [group])
    (rest : Embedded manager supplied (fun token => used token + earlier.count token) later
      groups) :
    Embedded manager supplied used (earlier ++ later) (group :: groups) where
  given := by
    rw [List.flatMap_cons, rest.given, embeddingsOf_append, ← first.given, List.flatMap_singleton]
  unused := by
    intro other member
    rcases List.mem_cons.mp member with isFirst | isLater
    · exact first.unused other (List.mem_singleton.mpr isFirst)
    · exact rest.unused other isLater
  carried := by
    intro other member
    rcases List.mem_cons.mp member with isFirst | isLater
    · exact first.carried other (List.mem_singleton.mpr isFirst)
    · exact rest.carried other isLater

/-- The lookups of all groups: the invariant carries the order of the multimodal rows
from one group to the next. -/
theorem prefillEmbeddings_embedded (rawId : Int → Scalar)
    {groups : List (List Int × OutputTensor Scalar)} {pending : Option (TokenData Scalar)}
    (multiModal : FullyMultiModal manager) (serves : Serves manager supplied used)
    (enough : EnoughFor manager supplied used (groups.flatMap Prod.fst))
    (known : ∀ token ∈ groups.flatMap Prod.fst, Known manager token)
    (fits : ∀ group ∈ groups, GroupFits manager group)
    (pendingFits : ∀ token ∈ pending, PendingFits manager token)
    (lookedUp : FirstLookedUp pending groups) :
    ∃ results after, Succeeds (prefillEmbeddings rawId pending groups) manager results after ∧
      Embedded manager supplied used (groups.flatMap Prod.fst) results := by
  induction groups generalizing manager used pending with
  | nil =>
      refine ⟨[], manager, (succeeds_pure _).mpr ⟨rfl, rfl⟩, rfl, nofun, nofun⟩
  | cons group rest inductionHypothesis =>
      rw [List.flatMap_cons] at enough known ⊢
      have runs : pending.isSome = true ∨ group.1.length ≠ 1 := by
        rcases lookedUp with isSome | notOne
        · exact .inl isSome
        · exact .inr (by simpa using notOne)
      obtain ⟨prefilled, lookups, succeeds, nextServes, lastFits, embedded⟩ :=
        prefillInternal_embedded rawId multiModal serves (EnoughFor.front enough)
          (fun token member => known token (List.mem_append_left _ member))
          (fits group List.mem_cons_self) pendingFits runs
      obtain ⟨results, after, succeedsRest, embeddedRest⟩ :=
        @inductionHypothesis { manager with multiModalEmbeddingLookups := lookups } _
          (some prefilled.lastInputToken)
          (multiModal.withLookups lookups) nextServes
          (EnoughFor.rest enough)
          (fun token member => known token (List.mem_append_right _ member))
          (fun other member => fits other (List.mem_cons_of_mem _ member))
          (fun token isLast => by cases isLast; exact lastFits) (.inl rfl)
      refine ⟨prefilled :: results, after, ?_, embedded.cons
        ⟨embeddedRest.given, embeddedRest.unused, embeddedRest.carried⟩⟩
      rw [prefillEmbeddings, succeeds_bind]
      refine ⟨prefilled, _, succeeds, ?_⟩
      rw [succeeds_bind]
      exact ⟨results, after, succeedsRest, (succeeds_pure _).mpr ⟨rfl, rfl⟩⟩

/-! ## A prefill -/

/-- A prompt of known tokens in groups that fit, with at least as many rows of each
modality as it has special tokens, for a manager without lookups left over. -/
structure PromptFits (manager : EmbeddingLookupManager Scalar) (vision audio : Option (List Scalar))
    (pending : Option (TokenData Scalar)) (groups : List (List Int × OutputTensor Scalar)) :
    Prop where
  multiModal : FullyMultiModal manager
  noLookups : manager.multiModalEmbeddingLookups = []
  known : ∀ token ∈ groups.flatMap Prod.fst, Known manager token
  enough : EnoughFor manager (suppliedEmbeddings vision audio) (fun _ => 0)
    (groups.flatMap Prod.fst)
  fits : ∀ group ∈ groups, GroupFits manager group
  pendingFits : ∀ token ∈ pending, PendingFits manager token

omit [Zero Scalar] in
/-- The lookups of a prefill start with all rows. -/
theorem updateMultiModalEmbeddings_serves (supports : manager.fullySupportsMultiModal = true)
    (noLookups : manager.multiModalEmbeddingLookups = []) (vision audio : Option (List Scalar)) :
    ∃ lookups, Succeeds (updateMultiModalEmbeddings vision audio) manager ()
        { manager with multiModalEmbeddingLookups := lookups } ∧
      Serves { manager with multiModalEmbeddingLookups := lookups }
        (suppliedEmbeddings vision audio) (fun _ => 0) := by
  refine ⟨(vision.map fun embedding => ⟨embedding, ExecutorVisionData.specialToken⟩).toList ++
    (audio.map fun embedding => ⟨embedding, ExecutorAudioData.specialToken⟩).toList, ?_, ?_⟩
  · obtain ⟨text, lookups, ends, supported⟩ := manager
    cases noLookups
    cases supports
    cases vision <;> cases audio <;> rfl
  · constructor
    · cases vision <;> cases audio <;>
        simp [ExecutorVisionData.specialToken, ExecutorAudioData.specialToken]
    · cases vision <;> cases audio <;> simp [IsModality]
    · cases vision <;> cases audio <;>
        simp [suppliedEmbeddings, ExecutorVisionData.specialToken, ExecutorAudioData.specialToken]
    · intro token missing
      unfold suppliedEmbeddings
      by_cases isVision : token = ExecutorVisionData.specialToken
      · rw [if_pos isVision]
        cases vision with
        | none => simp
        | some embedding => simp [isVision] at missing
      · rw [if_neg isVision]
        by_cases isAudio : token = ExecutorAudioData.specialToken
        · rw [if_pos isAudio]
          cases audio with
          | none => simp
          | some embedding => simp [isAudio] at missing
        · rw [if_neg isAudio]
          exact Nat.zero_le _

/-- The first id of a prefill was looked up if it was given its embedding. -/
theorem firstLookedUp_of_embedded {rawId : Int → Scalar}
    {groups : List (List Int × OutputTensor Scalar)} {pending : Option (TokenData Scalar)}
    {results : List (PrefilledGroup Scalar)} {before after : EmbeddingLookupManager Scalar}
    (multiModal : FullyMultiModal manager)
    (enough : EnoughFor manager supplied (fun _ => 0) (groups.flatMap Prod.fst))
    (known : ∀ token ∈ groups.flatMap Prod.fst, Known manager token)
    (succeeds : Succeeds (prefillEmbeddings rawId pending groups) before results after)
    (embedded : Embedded manager supplied (fun _ => 0) (groups.flatMap Prod.fst) results) :
    FirstLookedUp pending groups := by
  by_contra stored
  unfold FirstLookedUp at stored
  rw [not_or, not_not] at stored
  obtain ⟨notPending, one⟩ := stored
  cases groups with
  | nil => simp at one
  | cons group rest =>
      obtain ⟨token, isOne⟩ := List.length_eq_one_iff.mp (show group.1.length = 1 by simpa using one)
      have none : pending = none := by simpa using notPending
      rw [prefillEmbeddings, succeeds_bind] at succeeds
      obtain ⟨prefilled, between, first, others⟩ := succeeds
      rw [isOne, none] at first
      obtain ⟨rfl, -⟩ := (succeeds_pure _).mp first
      rw [succeeds_bind] at others
      obtain ⟨others, _, -, isResults⟩ := others
      obtain ⟨rfl, -⟩ := (succeeds_pure _).mp isResults
      have given := embedded.given
      have knownToken := known token (by rw [List.flatMap_cons, isOne]; simp)
      rw [List.flatMap_cons, isOne] at enough
      rw [List.flatMap_cons, List.flatMap_cons, isOne, embeddingsOf_append,
        embeddingsOf_singleton] at given
      -- the stored token has no embedding
      have noEmbedding : [] = manager.embeddingOf supplied token 0 :=
        (List.cons.inj given).1
      have length := embeddingOf_length supplied 0 multiModal knownToken
        (by
          intro modality
          have bound := enough token modality
          rw [List.count_append, List.count_singleton_self] at bound
          exact (Nat.mul_le_mul_right _ (by omega)).trans bound)
      rw [← noEmbedding] at length
      have positive : 0 < manager.getFloatsPerToken := manager.textEmbeddingLookup.positive
      rw [List.length_nil] at length
      omega

/-- **Embeddings land on their tokens.** A prefill of a fitting prompt gives every
token its embedding, with the k-th special token of a modality the k-th row supplied,
if and only if its first id is not stored without a lookup. -/
theorem prefill_embedded_iff {vision audio : Option (List Scalar)}
    {pending : Option (TokenData Scalar)} {groups : List (List Int × OutputTensor Scalar)}
    (rawId : Int → Scalar) (prompt : PromptFits manager vision audio pending groups) :
    (∃ results after,
      Succeeds (prefillWithEmbeddings rawId vision audio pending groups) manager results after ∧
        Embedded manager (suppliedEmbeddings vision audio) (fun _ => 0)
          (groups.flatMap Prod.fst) results) ↔
      FirstLookedUp pending groups := by
  obtain ⟨lookups, updates, serves⟩ := updateMultiModalEmbeddings_serves
    prompt.multiModal.supports prompt.noLookups vision audio
  constructor
  · rintro ⟨results, after, succeeds, embedded⟩
    rw [prefillWithEmbeddings, succeeds_bind] at succeeds
    obtain ⟨_, between, -, lookedUp⟩ := succeeds
    exact firstLookedUp_of_embedded prompt.multiModal prompt.enough prompt.known lookedUp embedded
  · intro lookedUp
    obtain ⟨results, after, succeeds, embedded⟩ :=
      prefillEmbeddings_embedded rawId (prompt.multiModal.withLookups lookups) serves
        prompt.enough prompt.known prompt.fits prompt.pendingFits lookedUp
    refine ⟨results, after, ?_, embedded.given, embedded.unused, embedded.carried⟩
    rw [prefillWithEmbeddings, succeeds_bind]
    exact ⟨(), _, updates, succeeds⟩

/-! ## Prompts with images and a clip -/

/-- A manager with embeddings of one number: a text token is its own embedding. -/
def oneNumberManager : EmbeddingLookupManager Int where
  textEmbeddingLookup := ⟨[1, 1, 1], fun token => [token], fun _ => rfl, Nat.one_pos⟩
  multiModalEmbeddingLookups := []
  endOfMultiModalEmbeddingLookups := [⟨ExecutorAudioData.endToken, [1, 1, 1], [99], rfl⟩]
  fullySupportsMultiModal := true

/-- An input with so many rows. -/
def oneNumberInput (rows : Nat) : OutputTensor Int :=
  ⟨true, [1, rows, 1], List.replicate rows 0⟩

theorem oneNumberManager_multiModal : FullyMultiModal oneNumberManager where
  supports := rfl
  ends := ⟨by decide, by simp [oneNumberManager], by simp [oneNumberManager]⟩
  endTokens := by
    simp [oneNumberManager, ExecutorAudioData.endToken, IsModality,
      ExecutorVisionData.specialToken, ExecutorAudioData.specialToken]

theorem oneNumberInput_fits {ids : List Int} (nonempty : ids ≠ []) (rows : Nat)
    (short : ids.length ≤ rows) : GroupFits oneNumberManager (ids, oneNumberInput rows) :=
  ⟨nonempty, rows, ⟨rfl, rfl, by decide, rfl, rfl, rfl, by
    simp [oneNumberInput, oneNumberManager, floatsPerToken]⟩, short⟩

/-- Two images and a clip, in three groups. -/
def mixedGroups : List (List Int × OutputTensor Int) :=
  [([5, -1], oneNumberInput 2), ([-1, -2, 7], oneNumberInput 4), ([-4], oneNumberInput 2)]

theorem mixedGroups_fit :
    PromptFits oneNumberManager (some [71, 72]) (some [81]) none mixedGroups where
  multiModal := oneNumberManager_multiModal
  noLookups := rfl
  known := by
    simp [mixedGroups, Known, IsModality, ExecutorVisionData.specialToken,
      ExecutorAudioData.specialToken, ExecutorAudioData.endToken, oneNumberManager]
  enough := by
    rintro token (rfl | rfl) <;> decide
  fits := by
    intro group member
    simp only [mixedGroups, List.mem_cons, List.not_mem_nil, or_false] at member
    rcases member with rfl | rfl | rfl <;> exact oneNumberInput_fits (by decide) _ (by decide)
  pendingFits := nofun

theorem prefill_embedded_mixedGroups :
    ∃ results after,
      Succeeds (prefillWithEmbeddings id (some [71, 72]) (some [81]) none mixedGroups)
          oneNumberManager results after ∧
        Embedded oneNumberManager (suppliedEmbeddings (some [71, 72]) (some [81])) (fun _ => 0)
          (mixedGroups.flatMap Prod.fst) results :=
  (prefill_embedded_iff id mixedGroups_fit).mpr (.inr (by decide))

/-- A lone image token in front is stored without a lookup, and the row supplied for it
goes to the next one. -/
theorem prefill_not_embedded_loneToken :
    PromptFits oneNumberManager (some [71, 72]) none none
        [([-1], oneNumberInput 1), ([-1, 5], oneNumberInput 2)] ∧
      ¬∃ results after,
        Succeeds (prefillWithEmbeddings id (some [71, 72]) none none
            [([-1], oneNumberInput 1), ([-1, 5], oneNumberInput 2)]) oneNumberManager results
              after ∧
          Embedded oneNumberManager (suppliedEmbeddings (some [71, 72]) none) (fun _ => 0)
            [-1, -1, 5] results := by
  have prompt : PromptFits oneNumberManager (some [71, 72]) none none
      [([-1], oneNumberInput 1), ([-1, 5], oneNumberInput 2)] := by
    refine ⟨oneNumberManager_multiModal, rfl, ?_, ?_, ?_, nofun⟩
    · simp [Known, IsModality, ExecutorVisionData.specialToken]
    · rintro token (rfl | rfl) <;> decide
    · intro group member
      simp only [List.mem_cons, List.not_mem_nil, or_false] at member
      rcases member with rfl | rfl <;> exact oneNumberInput_fits (by decide) _ (by decide)
  refine ⟨prompt, ?_⟩
  rintro ⟨results, after, succeeds, embedded⟩
  rw [prefillWithEmbeddings, succeeds_bind] at succeeds
  obtain ⟨_, between, -, lookedUp⟩ := succeeds
  have first := firstLookedUp_of_embedded prompt.multiModal prompt.enough prompt.known lookedUp
    embedded
  rcases first with pending | longer
  · cases pending
  · exact longer rfl

end LiteRTLM.Executor.EmbeddingInputs
