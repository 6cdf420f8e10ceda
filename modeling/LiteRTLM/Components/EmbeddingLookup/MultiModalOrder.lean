import LiteRTLM.Components.EmbeddingLookup.LookupRows

/-!
Contract: the order in which a manager hands out multimodal embeddings.

Owns: the embedding that belongs to a token, the invariant that ties the multimodal
lookups to the numbers of special tokens looked up so far, and its preservation by the
lookups of a span and of a single token.

Does not own: how a prompt is split into lookups.
-/

namespace LiteRTLM.Components.EmbeddingLookup

open LiteRTLM.Engine
open LiteRTLM.Library
open LiteRTLM.Library.ByteImage
open LiteRTLM.Library.Blocks

variable {Scalar : Type}

namespace EmbeddingLookupManager

open EmbeddingLookupMultiModal

/-! ## What belongs to a token -/

/-- The special tokens that stand for supplied embeddings. -/
def IsModality (token : Int) : Prop :=
  token = ExecutorVisionData.specialToken ∨ token = ExecutorAudioData.specialToken

instance (token : Int) : Decidable (IsModality token) :=
  inferInstanceAs (Decidable (_ ∨ _))

def suppliedEmbeddings (vision audio : Option (List Scalar)) (token : Int) : List Scalar :=
  if token = ExecutorVisionData.specialToken then vision.getD []
  else if token = ExecutorAudioData.specialToken then audio.getD []
  else []

def endEmbedding (manager : EmbeddingLookupManager Scalar) (token : Int) : List Scalar :=
  ((manager.endOfMultiModalEmbeddingLookups.find? fun lookup => lookup.specialToken = token).map
    (·.endOfMultiModalEmbedding)).getD manager.defaultEmbeddingVector

/-- The embedding that belongs to a token which `ordinal` equal tokens precede. -/
def embeddingOf (manager : EmbeddingLookupManager Scalar) (supplied : Int → List Scalar)
    (token : Int) (ordinal : Nat) : List Scalar :=
  if token ≥ 0 then manager.textEmbeddingLookup.lookupInternal token
  else if IsModality token then block manager.getFloatsPerToken (supplied token) ordinal
  else manager.endEmbedding token

/-- A token the manager has an embedding for. -/
def Known (manager : EmbeddingLookupManager Scalar) (token : Int) : Prop :=
  0 ≤ token ∨ IsModality token ∨
    ∃ lookup ∈ manager.endOfMultiModalEmbeddingLookups, lookup.specialToken = token

/-- A manager with multimodal support whose end lookups suit the text lookup and have
special tokens of their own. -/
structure FullyMultiModal (manager : EmbeddingLookupManager Scalar) : Prop where
  supports : manager.fullySupportsMultiModal = true
  ends : EndsConform manager.endOfMultiModalEmbeddingLookups
    manager.textEmbeddingLookup.outputDimensions
  endTokens : ∀ lookup ∈ manager.endOfMultiModalEmbeddingLookups,
    lookup.specialToken < 0 ∧ ¬IsModality lookup.specialToken

/-- Multimodal support does not depend on the lookups that are left. -/
theorem FullyMultiModal.withLookups {manager : EmbeddingLookupManager Scalar}
    (multiModal : FullyMultiModal manager) (lookups : List (EmbeddingLookupMultiModal Scalar)) :
    FullyMultiModal { manager with multiModalEmbeddingLookups := lookups } :=
  ⟨multiModal.supports, multiModal.ends, multiModal.endTokens⟩

/-! ## The invariant -/

/-- The multimodal lookups hold what is left after `used` special tokens of each
kind; a lookup that is missing has nothing left. -/
structure Serves (manager : EmbeddingLookupManager Scalar) (supplied : Int → List Scalar)
    (used : Int → Nat) : Prop where
  apart : (manager.multiModalEmbeddingLookups.map (·.specialToken)).Nodup
  modality : ∀ lookup ∈ manager.multiModalEmbeddingLookups, IsModality lookup.specialToken
  left : ∀ lookup ∈ manager.multiModalEmbeddingLookups, lookup.embedding =
    (supplied lookup.specialToken).drop (used lookup.specialToken * manager.getFloatsPerToken)
  usedUp : ∀ token, token ∉ manager.multiModalEmbeddingLookups.map (·.specialToken) →
    (supplied token).length ≤ used token * manager.getFloatsPerToken

/-- The tokens looked up in addition do not need more rows than there are. -/
def EnoughFor (manager : EmbeddingLookupManager Scalar) (supplied : Int → List Scalar)
    (used : Int → Nat) (tokens : List Int) : Prop :=
  ∀ token, IsModality token →
    (used token + tokens.count token) * manager.getFloatsPerToken ≤ (supplied token).length

variable {manager : EmbeddingLookupManager Scalar} {supplied : Int → List Scalar}
  {used : Int → Nat} {tokens : List Int}

theorem Serves.enough (serves : Serves manager supplied used)
    (enoughFor : EnoughFor manager supplied used tokens)
    {lookup : EmbeddingLookupMultiModal Scalar}
    (member : lookup ∈ manager.multiModalEmbeddingLookups) :
    tokens.count lookup.specialToken * manager.getFloatsPerToken ≤ lookup.embedding.length := by
  have bound := enoughFor lookup.specialToken (serves.modality lookup member)
  rw [Nat.add_mul] at bound
  rw [serves.left lookup member, List.length_drop]
  omega

/-- Using up rows keeps the invariant. -/
theorem Serves.use (serves : Serves manager supplied used) (tokens : List Int) :
    Serves { manager with
        multiModalEmbeddingLookups := manager.multiModalEmbeddingLookups.map
          (advance manager.getFloatsPerToken tokens) } supplied
      (fun token => used token + tokens.count token) := by
  have sameTokens : (manager.multiModalEmbeddingLookups.map
      (advance manager.getFloatsPerToken tokens)).map (·.specialToken) =
        manager.multiModalEmbeddingLookups.map (·.specialToken) := by
    rw [List.map_map]
    rfl
  constructor
  · rw [sameTokens]
    exact serves.apart
  · intro lookup member
    obtain ⟨old, oldMember, rfl⟩ := List.mem_map.mp member
    exact serves.modality old oldMember
  · intro lookup member
    obtain ⟨old, oldMember, rfl⟩ := List.mem_map.mp member
    have kept : (advance manager.getFloatsPerToken tokens old).embedding =
        old.embedding.drop (tokens.count old.specialToken * manager.getFloatsPerToken) := rfl
    rw [kept, serves.left old oldMember, List.drop_drop, ← Nat.add_mul]
    rfl
  · intro token missing
    rw [sameTokens] at missing
    have bound := serves.usedUp token missing
    exact bound.trans (Nat.mul_le_mul_right _ (Nat.le_add_right _ _))

/-- Lookups without remaining embeddings may be removed. -/
theorem Serves.removeUsed (serves : Serves manager supplied used) :
    Serves { manager with
        multiModalEmbeddingLookups := manager.multiModalEmbeddingLookups.filter
          hasRemainingEmbeddings } supplied used := by
  constructor
  · exact serves.apart.sublist (List.Sublist.map _ List.filter_sublist)
  · intro lookup member
    exact serves.modality lookup (List.mem_filter.mp member).1
  · intro lookup member
    exact serves.left lookup (List.mem_filter.mp member).1
  · intro token missing
    by_cases had : token ∈ manager.multiModalEmbeddingLookups.map (·.specialToken)
    · obtain ⟨lookup, member, rfl⟩ := List.mem_map.mp had
      have empty : lookup.embedding = [] := by
        by_contra nonempty
        apply missing
        apply List.mem_map_of_mem
        rw [List.mem_filter]
        exact ⟨member, by simpa [hasRemainingEmbeddings] using nonempty⟩
      rw [serves.left lookup member, List.drop_eq_nil_iff] at empty
      exact empty
    · exact serves.usedUp token had

/-! ## The row of a token -/

/-- The multimodal row of a special token is the next one supplied. -/
theorem Serves.ownRow_eq (serves : Serves manager supplied used)
    (enoughFor : EnoughFor manager supplied used tokens) {index : Nat}
    (inBounds : index < tokens.length) :
    manager.multiModalEmbeddingLookups.findSome?
        (ownRow manager.getFloatsPerToken tokens index) =
      if IsModality tokens[index] then
        some (block manager.getFloatsPerToken (supplied tokens[index])
          (used tokens[index] + (tokens.take index).count tokens[index]))
      else none := by
  have rowOf : ∀ lookup ∈ manager.multiModalEmbeddingLookups, lookup.specialToken = tokens[index] →
      ownRow manager.getFloatsPerToken tokens index lookup =
        some (block manager.getFloatsPerToken (supplied tokens[index])
          (used tokens[index] + (tokens.take index).count tokens[index])) := by
    intro lookup member special
    rw [ownRow, List.getElem?_eq_getElem inBounds, if_pos (by rw [special]),
      serves.left lookup member, block_drop, special]
  cases found : manager.multiModalEmbeddingLookups.findSome?
      (ownRow manager.getFloatsPerToken tokens index) with
  | some row =>
      obtain ⟨lookup, member, isRow⟩ := List.exists_of_findSome?_eq_some found
      have special : lookup.specialToken = tokens[index] := by
        by_contra other
        rw [ownRow, List.getElem?_eq_getElem inBounds, if_neg] at isRow
        · cases isRow
        · intro same
          rw [Option.some.injEq] at same
          exact other same.symm
      rw [rowOf lookup member special] at isRow
      rw [if_pos (special ▸ serves.modality lookup member), isRow]
  | none =>
      rw [List.findSome?_eq_none_iff] at found
      rw [if_neg]
      intro isModality
      -- the rows left for this token are more than those of a missing lookup
      have missing : tokens[index] ∉ manager.multiModalEmbeddingLookups.map (·.specialToken) := by
        intro had
        obtain ⟨lookup, member, special⟩ := List.mem_map.mp had
        have none := found lookup member
        rw [rowOf lookup member special] at none
        cases none
      have bound := enoughFor tokens[index] isModality
      have nothingLeft := serves.usedUp tokens[index] missing
      have once : 0 < tokens.count tokens[index] := List.count_pos_iff.mpr (List.getElem_mem _)
      have positive : 0 < manager.getFloatsPerToken := manager.textEmbeddingLookup.positive
      have rows := Nat.mul_pos once positive
      rw [Nat.add_mul] at bound
      omega

/-- The end row of a token is the embedding of its end lookup. -/
theorem endRow_eq {index : Nat} (inBounds : index < tokens.length)
    (lookups : List (EndOfMultiModalEmbedding Scalar)) :
    lookups.findSome? (endRow tokens index) =
      (lookups.find? fun lookup => lookup.specialToken = tokens[index]).map
        (·.endOfMultiModalEmbedding) := by
  induction lookups with
  | nil => rfl
  | cons lookup others inductionHypothesis =>
      rw [List.findSome?_cons, List.find?_cons, endRow, List.getElem?_eq_getElem inBounds]
      by_cases own : lookup.specialToken = tokens[index]
      · simp [own]
      · rw [if_neg (by rw [Option.some.injEq]; exact fun same => own same.symm),
          inductionHypothesis]
        simp [own]

/-- Of the text, multimodal and end rows the right one remains. -/
theorem Serves.row_eq (serves : Serves manager supplied used)
    (multiModal : FullyMultiModal manager) (enoughFor : EnoughFor manager supplied used tokens)
    {index : Nat} (inBounds : index < tokens.length) (known : Known manager tokens[index])
    (textRow : List Scalar)
    (isText : tokens[index] ≥ 0 →
      textRow = manager.textEmbeddingLookup.lookupInternal tokens[index]) :
    (manager.endOfMultiModalEmbeddingLookups.findSome? (endRow tokens index)).getD
        ((manager.multiModalEmbeddingLookups.findSome?
          (ownRow manager.getFloatsPerToken tokens index)).getD textRow) =
      manager.embeddingOf supplied tokens[index]
        (used tokens[index] + (tokens.take index).count tokens[index]) := by
  rw [serves.ownRow_eq enoughFor inBounds, endRow_eq inBounds, embeddingOf]
  have noEnd : (0 ≤ tokens[index] ∨ IsModality tokens[index]) →
      (manager.endOfMultiModalEmbeddingLookups.find? fun lookup =>
        lookup.specialToken = tokens[index]) = none := by
    intro other
    rw [List.find?_eq_none]
    intro lookup member special
    rw [decide_eq_true_eq] at special
    obtain ⟨negative, noModality⟩ := multiModal.endTokens lookup member
    rw [special] at negative noModality
    rcases other with nonnegative | isModality
    · omega
    · exact noModality isModality
  by_cases nonnegative : tokens[index] ≥ 0
  · have noModality : ¬IsModality tokens[index] := by
      unfold IsModality ExecutorVisionData.specialToken ExecutorAudioData.specialToken
      omega
    rw [noEnd (.inl nonnegative), if_neg noModality, if_pos nonnegative, isText nonnegative]
    rfl
  · rw [if_neg nonnegative]
    by_cases isModality : IsModality tokens[index]
    · rw [noEnd (.inr isModality), if_pos isModality, if_pos isModality]
      rfl
    · rw [if_neg isModality, if_neg isModality, endEmbedding]
      rcases known with text | modality | ⟨lookup, member, special⟩
      · exact absurd text nonnegative
      · exact absurd modality isModality
      · cases found : manager.endOfMultiModalEmbeddingLookups.find? fun lookup =>
            lookup.specialToken = tokens[index] with
        | some found => rfl
        | none =>
            rw [List.find?_eq_none] at found
            exact absurd special (by simpa using found lookup member)

/-! ## Looking up a span -/

theorem succeeds_askMultiModal {Output : Type}
    {ask : Output → EmbeddingLookupMultiModal.LookupM Scalar Output} {output written : Output}
    {lookups : List (EmbeddingLookupMultiModal Scalar)}
    (asked : askEach ask manager.multiModalEmbeddingLookups output = (lookups, .ok written)) :
    Succeeds (askMultiModal ask output) manager written
      { manager with multiModalEmbeddingLookups := lookups } := by
  rw [askMultiModal, succeeds_bind]
  refine ⟨manager, manager, succeeds_get.mpr ⟨rfl, rfl⟩, ?_⟩
  rw [asked, succeeds_bind]
  exact ⟨(), _, (succeeds_modify _).mpr rfl, (succeeds_pure _).mpr ⟨rfl, rfl⟩⟩

theorem succeeds_askEnds {Output : Type}
    {ask : EndOfMultiModalEmbedding Scalar → Output → StatusOr Output} {output written : Output}
    (asked : manager.endOfMultiModalEmbeddingLookups.foldlM
      (fun written lookup => ask lookup written) output = .ok written) :
    Succeeds (askEnds ask output) manager written manager := by
  rw [askEnds, succeeds_bind]
  refine ⟨manager, manager, succeeds_get.mpr ⟨rfl, rfl⟩, ?_⟩
  rw [asked]
  exact (succeeds_pure _).mpr ⟨rfl, rfl⟩

/-- The tensor after the lookup of a span: every token has its row, the rows behind
hold the default embedding, those before are as they were. -/
structure SpanRows (manager : EmbeddingLookupManager Scalar) (supplied : Int → List Scalar)
    (used : Int → Nat) (tokens : List Int) (first rows : Nat)
    (output written : OutputTensor Scalar) : Prop where
  token : ∀ index (inBounds : index < tokens.length),
    block manager.getFloatsPerToken written.contents (first + index) =
      manager.embeddingOf supplied tokens[index]
        (used tokens[index] + (tokens.take index).count tokens[index])
  behind : ∀ row, first + tokens.length ≤ row → row < rows →
    block manager.getFloatsPerToken written.contents row = manager.defaultEmbeddingVector
  front : ∀ row, row < first →
    block manager.getFloatsPerToken written.contents row =
      block manager.getFloatsPerToken output.contents row

variable {output : OutputTensor Scalar} {first rows : Nat}

/-- Behind the span no lookup but the text lookup writes. -/
theorem noRow_behind (manager : EmbeddingLookupManager Scalar) {index : Nat}
    (behind : tokens.length ≤ index) :
    manager.endOfMultiModalEmbeddingLookups.findSome? (endRow tokens index) = none ∧
      manager.multiModalEmbeddingLookups.findSome?
        (ownRow manager.getFloatsPerToken tokens index) = none := by
  have noToken : tokens[index]? = none := List.getElem?_eq_none behind
  constructor
  · rw [List.findSome?_eq_none_iff]
    intro lookup _
    rw [endRow, noToken, if_neg (by simp)]
  · rw [List.findSome?_eq_none_iff]
    intro lookup _
    rw [ownRow, noToken, if_neg (by simp)]

variable [Zero Scalar]

/-- The lookup of a span for which every multimodal lookup has rows enough: the text
rows are overwritten by the multimodal rows, and these by the end rows. -/
theorem succeeds_lookupPrefillSpan (multiModal : FullyMultiModal manager)
    (apart : (manager.multiModalEmbeddingLookups.map (·.specialToken)).Nodup)
    (enough : ∀ lookup ∈ manager.multiModalEmbeddingLookups,
      tokens.count lookup.specialToken * manager.getFloatsPerToken ≤ lookup.embedding.length)
    (conforms : output.Conforms manager.textEmbeddingLookup.outputDimensions rows)
    (fits : first + tokens.length ≤ rows) :
    ∃ text written,
      manager.textEmbeddingLookup.lookupPrefillSpan tokens output
          (first * manager.getFloatsPerToken) = .ok text ∧
      Succeeds (lookupPrefillSpan tokens output first) manager written
        { manager with
          multiModalEmbeddingLookups := (manager.multiModalEmbeddingLookups.map
            (advance manager.getFloatsPerToken tokens)).filter hasRemainingEmbeddings } ∧
      written.Conforms manager.textEmbeddingLookup.outputDimensions rows ∧
      ∀ row, block manager.getFloatsPerToken written.contents row =
        if first ≤ row then
          (manager.endOfMultiModalEmbeddingLookups.findSome? (endRow tokens (row - first))).getD
            ((manager.multiModalEmbeddingLookups.findSome?
              (ownRow manager.getFloatsPerToken tokens (row - first))).getD
                (block manager.getFloatsPerToken text.contents row))
        else block manager.getFloatsPerToken text.contents row := by
  obtain ⟨text, texts, textConforms, -⟩ :=
    manager.textEmbeddingLookup.lookupPrefillSpan_ok conforms fits
  obtain ⟨written, asked, writtenConforms, writtenRows⟩ :=
    askEach_lookupPrefillSpan fits manager.multiModalEmbeddingLookups apart enough textConforms
  obtain ⟨ended, askedEnds, endedConforms, endedRows⟩ :=
    askEnds_lookupPrefillSpan fits multiModal.ends writtenConforms
  refine ⟨text, ended, texts, ?_, endedConforms, ?_⟩
  · have supports := multiModal.supports
    unfold EmbeddingLookupManager.lookupPrefillSpan
    rw [succeeds_bind]
    refine ⟨manager, manager, succeeds_get.mpr ⟨rfl, rfl⟩, ?_⟩
    rw [succeeds_bind]
    refine ⟨text, manager, ?_, ?_⟩
    · rw [getFloatsPerToken, texts]
      exact (succeeds_pure _).mpr ⟨rfl, rfl⟩
    rw [if_pos supports, succeeds_bind]
    refine ⟨written, _, succeeds_askMultiModal asked, ?_⟩
    rw [succeeds_bind]
    refine ⟨ended, _, succeeds_askEnds askedEnds, ?_⟩
    rw [succeeds_bind]
    exact ⟨(), _, (succeeds_modify _).mpr rfl, (succeeds_pure _).mpr ⟨rfl, rfl⟩⟩
  · intro row
    have ends := endedRows row
    have modalities := writtenRows row
    by_cases behind : first ≤ row
    · rw [if_pos behind] at ends modalities ⊢
      rw [modalities] at ends
      exact ends
    · rw [if_neg behind] at ends modalities ⊢
      rw [modalities] at ends
      exact ends

/-- The lookup of a span gives every token its row and uses up as many multimodal
rows as it has special tokens. -/
theorem Serves.lookupPrefillSpan (serves : Serves manager supplied used)
    (multiModal : FullyMultiModal manager) (enoughFor : EnoughFor manager supplied used tokens)
    (known : ∀ token ∈ tokens, Known manager token)
    (conforms : output.Conforms manager.textEmbeddingLookup.outputDimensions rows)
    (fits : first + tokens.length ≤ rows) :
    ∃ written lookups, Succeeds (lookupPrefillSpan tokens output first) manager written
        { manager with multiModalEmbeddingLookups := lookups } ∧
      written.Conforms manager.textEmbeddingLookup.outputDimensions rows ∧
      Serves { manager with multiModalEmbeddingLookups := lookups } supplied
        (fun token => used token + tokens.count token) ∧
      SpanRows manager supplied used tokens first rows output written := by
  obtain ⟨text, written, texts, succeeds, writtenConforms, rowOf⟩ :=
    succeeds_lookupPrefillSpan multiModal serves.apart
      (fun lookup member => serves.enough enoughFor member) conforms fits
  obtain ⟨sameText, textIs, -, textRows⟩ :=
    manager.textEmbeddingLookup.lookupPrefillSpan_ok conforms fits
  obtain rfl : text = sameText := by
    rw [getFloatsPerToken, textIs] at texts
    cases texts
    rfl
  refine ⟨written, _, succeeds, writtenConforms, (serves.use tokens).removeUsed, ?_⟩
  constructor
  · intro index inBounds
    rw [rowOf, if_pos (Nat.le_add_right _ _), Nat.add_sub_cancel_left]
    apply serves.row_eq multiModal enoughFor inBounds (known _ (List.getElem_mem _))
    intro _
    have isRow := textRows (first + index)
    rw [if_neg (by omega), if_pos (by omega), Nat.add_sub_cancel_left] at isRow
    rw [getFloatsPerToken, isRow]
    simp [inBounds]
  · intro row behind inside
    obtain ⟨noEnd, noModality⟩ := noRow_behind manager
      (show tokens.length ≤ row - first by omega)
    have isRow := textRows row
    rw [if_neg (by omega), if_pos inside] at isRow
    rw [rowOf, if_pos (by omega), noEnd, noModality, getFloatsPerToken, Option.getD_none,
      Option.getD_none, isRow, List.getD_eq_getElem?_getD,
      List.getElem?_eq_none (by rw [List.length_map]; omega)]
    rfl
  · intro row before
    have isRow := textRows row
    rw [if_pos before] at isRow
    rw [rowOf, if_neg (by omega)]
    exact isRow

/-! ## Looking up one token -/

omit [Zero Scalar] in
/-- Asking one multimodal lookup for one token. -/
theorem lookupPrefillToken_ok {floats : Nat} (token : Int)
    {lookup : EmbeddingLookupMultiModal Scalar}
    (enough : [token].count lookup.specialToken * floats ≤ lookup.embedding.length)
    {outputVector : List Scalar} (sized : outputVector.length = floats) :
    ∃ written, EmbeddingLookupMultiModal.lookupPrefillToken token outputVector lookup =
        .ok written (advance floats [token] lookup) ∧
      written.length = floats ∧
      written = (ownRow floats [token] 0 lookup).getD outputVector := by
  by_cases own : token = lookup.specialToken
  · rw [own, List.count_singleton_self, Nat.one_mul] at enough
    have takes := takeEmbedding_eq enough
    refine ⟨lookup.embedding.take floats, ?_, ?_, ?_⟩
    · simp only [EmbeddingLookupMultiModal.lookupPrefillToken, bind, EStateM.bind, get, getThe,
        MonadStateOf.get, EStateM.get, own, ne_eq, not_true, if_false, sized, takes, advance,
        List.count_singleton_self, Nat.one_mul]
    · rw [List.length_take]
      omega
    · simp [ownRow, own, block, slice]
  · have noCount : [token].count lookup.specialToken = 0 := by simp [own]
    refine ⟨outputVector, ?_, sized, ?_⟩
    · simp only [EmbeddingLookupMultiModal.lookupPrefillToken, bind, EStateM.bind, get, getThe,
        MonadStateOf.get, EStateM.get, ne_eq, own, not_false_eq_true, if_true, pure,
        EStateM.pure, advance, noCount, Nat.zero_mul, List.drop_zero]
    · simp [ownRow, own]

omit [Zero Scalar] in
/-- Asking all multimodal lookups for one token. -/
theorem askEach_lookupPrefillToken {floats : Nat} (token : Int)
    (lookups : List (EmbeddingLookupMultiModal Scalar))
    (apart : (lookups.map (·.specialToken)).Nodup)
    (enough : ∀ lookup ∈ lookups,
      [token].count lookup.specialToken * floats ≤ lookup.embedding.length)
    {outputVector : List Scalar} (sized : outputVector.length = floats) :
    ∃ written, askEach (EmbeddingLookupMultiModal.lookupPrefillToken token) lookups outputVector =
        (lookups.map (advance floats [token]), .ok written) ∧
      written.length = floats ∧
      written = (lookups.findSome? (ownRow floats [token] 0)).getD outputVector := by
  induction lookups generalizing outputVector with
  | nil => exact ⟨outputVector, rfl, sized, rfl⟩
  | cons lookup others inductionHypothesis =>
      rw [List.map_cons, List.nodup_cons] at apart
      obtain ⟨once, asked, onceSized, isOnce⟩ :=
        lookupPrefillToken_ok token (enough lookup List.mem_cons_self) sized
      obtain ⟨written, askedRest, writtenSized, isWritten⟩ :=
        inductionHypothesis apart.2 (fun other member => enough other (List.mem_cons_of_mem _ member))
          onceSized
      refine ⟨written, ?_, writtenSized, ?_⟩
      · rw [askEach, asked]
        dsimp only
        rw [askedRest]
        rfl
      · rw [isWritten, isOnce, List.findSome?_cons]
        by_cases own : token = lookup.specialToken
        · rw [findSome_ownRow_eq_none (by simp [own]) apart.1]
          simp [ownRow, own]
        · have notOwn : ownRow floats [token] 0 lookup = none := by simp [ownRow, own]
          rw [notOwn, Option.getD_none]

omit [Zero Scalar] in
theorem askEnds_lookupPrefillToken {outputDimensions : List Nat} (token : Int)
    {lookups : List (EndOfMultiModalEmbedding Scalar)}
    (conform : EndsConform lookups outputDimensions)
    {outputVector : List Scalar} (sized : outputVector.length = floatsPerToken outputDimensions) :
    ∃ written, lookups.foldlM (fun written lookup => lookup.lookupPrefillToken token written)
        outputVector = Except.ok written ∧
      written = (lookups.findSome? (endRow [token] 0)).getD outputVector := by
  induction lookups generalizing outputVector with
  | nil => exact ⟨outputVector, rfl, rfl⟩
  | cons lookup others inductionHypothesis =>
      have endSized := conform.sized (List.mem_cons_self (a := lookup))
      by_cases own : token = lookup.specialToken
      · obtain ⟨written, askedRest, isWritten⟩ := inductionHypothesis conform.tailOf endSized
        have asked : lookup.lookupPrefillToken token outputVector =
            .ok lookup.endOfMultiModalEmbedding := by
          simp [EndOfMultiModalEmbedding.lookupPrefillToken, own, sized, endSized]
        refine ⟨written, ?_, ?_⟩
        · rw [List.foldlM_cons, asked]
          exact askedRest
        · have noOther : others.findSome? (endRow [token] 0) = none := by
            rw [List.findSome?_eq_none_iff]
            intro other member
            have apart := (List.nodup_cons.mp conform.apart).1
            rw [endRow, if_neg]
            intro same
            rw [List.getElem?_cons_zero, Option.some.injEq, own] at same
            exact apart (List.mem_map.mpr ⟨other, member, same.symm⟩)
          rw [isWritten, noOther, List.findSome?_cons]
          simp [endRow, own]
      · obtain ⟨written, askedRest, isWritten⟩ := inductionHypothesis conform.tailOf sized
        have asked : lookup.lookupPrefillToken token outputVector = .ok outputVector := by
          simp [EndOfMultiModalEmbedding.lookupPrefillToken, own]
        refine ⟨written, ?_, ?_⟩
        · rw [List.foldlM_cons, asked]
          exact askedRest
        · have notOwn : endRow [token] 0 lookup = none := by simp [endRow, own]
          rw [isWritten, List.findSome?_cons, notOwn]

/-- The lookup of a text token leaves the multimodal lookups alone. -/
theorem succeeds_lookupPrefillToken_text (manager : EmbeddingLookupManager Scalar) {token : Int}
    (isText : token ≥ 0) :
    Succeeds (lookupPrefillToken token) manager (manager.textEmbeddingLookup.lookupInternal token)
      manager := by
  have found : manager.textEmbeddingLookup.lookupPrefillToken token
      (List.replicate manager.getFloatsPerToken 0) =
        .ok (manager.textEmbeddingLookup.lookupInternal token) := by
    rw [EmbeddingLookupText.lookupPrefillToken, List.length_replicate]
    exact if_neg (by simp [getFloatsPerToken])
  unfold EmbeddingLookupManager.lookupPrefillToken
  rw [succeeds_bind]
  refine ⟨manager, manager, succeeds_get.mpr ⟨rfl, rfl⟩, ?_⟩
  rw [if_pos isText, found]
  exact (succeeds_pure _).mpr ⟨rfl, rfl⟩

/-- The lookup of a special token for which every multimodal lookup has a row. -/
theorem succeeds_lookupPrefillToken_special (multiModal : FullyMultiModal manager)
    (apart : (manager.multiModalEmbeddingLookups.map (·.specialToken)).Nodup) {token : Int}
    (enough : ∀ lookup ∈ manager.multiModalEmbeddingLookups,
      [token].count lookup.specialToken * manager.getFloatsPerToken ≤ lookup.embedding.length)
    (isSpecial : ¬token ≥ 0) :
    ∃ written, Succeeds (lookupPrefillToken token) manager written
        { manager with
          multiModalEmbeddingLookups := manager.multiModalEmbeddingLookups.map
            (advance manager.getFloatsPerToken [token]) } ∧
      written.length = manager.getFloatsPerToken ∧
      written = (manager.endOfMultiModalEmbeddingLookups.findSome? (endRow [token] 0)).getD
        ((manager.multiModalEmbeddingLookups.findSome?
          (ownRow manager.getFloatsPerToken [token] 0)).getD
            (List.replicate manager.getFloatsPerToken 0)) := by
  have sized : (List.replicate manager.getFloatsPerToken (0 : Scalar)).length =
      manager.getFloatsPerToken := List.length_replicate
  obtain ⟨written, asked, writtenSized, isWritten⟩ := askEach_lookupPrefillToken token
    manager.multiModalEmbeddingLookups apart enough sized
  obtain ⟨ended, askedEnds, isEnded⟩ :=
    askEnds_lookupPrefillToken token multiModal.ends writtenSized
  refine ⟨ended, ?_, ?_, by rw [isEnded, isWritten]⟩
  · unfold EmbeddingLookupManager.lookupPrefillToken
    rw [succeeds_bind]
    refine ⟨manager, manager, succeeds_get.mpr ⟨rfl, rfl⟩, ?_⟩
    rw [if_neg isSpecial, if_pos multiModal.supports, succeeds_bind]
    exact ⟨written, _, succeeds_askMultiModal asked, succeeds_askEnds askedEnds⟩
  · rw [isEnded]
    cases found : manager.endOfMultiModalEmbeddingLookups.findSome? (endRow [token] 0) with
    | none => exact writtenSized
    | some row =>
        obtain ⟨lookup, member, isRow⟩ := List.exists_of_findSome?_eq_some found
        rw [endRow, Option.ite_none_right_eq_some, Option.some.injEq] at isRow
        rw [Option.getD_some, ← isRow.2]
        exact multiModal.ends.sized member

/-- The lookup of one token gives its embedding and uses up its multimodal row. -/
theorem Serves.lookupPrefillToken (serves : Serves manager supplied used)
    (multiModal : FullyMultiModal manager) {token : Int}
    (enoughFor : EnoughFor manager supplied used [token]) (known : Known manager token) :
    ∃ lookups, Succeeds (lookupPrefillToken token) manager
        (manager.embeddingOf supplied token (used token))
        { manager with multiModalEmbeddingLookups := lookups } ∧
      Serves { manager with multiModalEmbeddingLookups := lookups } supplied
        (fun other => used other + [token].count other) := by
  by_cases isText : token ≥ 0
  · refine ⟨manager.multiModalEmbeddingLookups, ?_, serves.apart, serves.modality, ?_, ?_⟩
    · rw [embeddingOf, if_pos isText]
      exact succeeds_lookupPrefillToken_text manager isText
    · intro lookup member
      have modality := serves.modality lookup member
      have other : token ≠ lookup.specialToken := by
        unfold IsModality ExecutorVisionData.specialToken ExecutorAudioData.specialToken at modality
        omega
      rw [List.count_singleton, beq_eq_false_iff_ne.mpr other]
      exact serves.left lookup member
    · intro other missing
      exact (serves.usedUp other missing).trans (Nat.mul_le_mul_right _ (Nat.le_add_right _ _))
  · obtain ⟨written, succeeds, -, isWritten⟩ := succeeds_lookupPrefillToken_special multiModal
      serves.apart (fun lookup member => serves.enough enoughFor member) isText
    have isEmbedding : written = manager.embeddingOf supplied token (used token) := by
      have row := serves.row_eq multiModal enoughFor
        (show 0 < [token].length from Nat.one_pos) known
        (List.replicate manager.getFloatsPerToken 0) (fun text => absurd text isText)
      rw [isWritten]
      simpa using row
    rw [← isEmbedding]
    exact ⟨_, succeeds, serves.use [token]⟩

end EmbeddingLookupManager

end LiteRTLM.Components.EmbeddingLookup
