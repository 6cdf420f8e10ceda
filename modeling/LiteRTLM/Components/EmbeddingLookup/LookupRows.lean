import Mathlib
import LiteRTLM.Components.EmbeddingLookup.EmbeddingLookupManager

/-!
Contract: the rows of the output tensor after the lookups of a span.

Owns: when an output tensor suits the embedding models, the row of each token after
the text, multimodal and end lookups, the rows behind the span, and how far the
multimodal lookups have been used up.

Does not own: which spans are looked up.
-/

namespace LiteRTLM.Components.EmbeddingLookup

open LiteRTLM.Engine
open LiteRTLM.Library
open LiteRTLM.Library.ByteImage
open LiteRTLM.Library.Blocks

variable {Scalar : Type}

/-! ## Suitable tensors -/

/-- A float tensor of one batch and `rows` rows, shaped as the output of a model with
these dimensions. -/
structure OutputTensor.Conforms (output : OutputTensor Scalar) (outputDimensions : List Nat)
    (rows : Nat) : Prop where
  float32 : output.isFloat32 = true
  rank : output.dimensions.length = outputDimensions.length
  threeDimensions : 3 ≤ outputDimensions.length
  batch : output.dimensions.getD 0 0 = 1
  second : output.dimensions.getD 1 0 = rows
  tail : output.dimensions.drop 2 = outputDimensions.drop 2
  sized : output.contents.length = rows * floatsPerToken outputDimensions

variable {output : OutputTensor Scalar} {outputDimensions : List Nat} {rows : Nat}

/-- New contents of the same size. -/
theorem OutputTensor.Conforms.write (conforms : output.Conforms outputDimensions rows)
    {contents : List Scalar} (sized : contents.length = rows * floatsPerToken outputDimensions) :
    ({ output with contents } : OutputTensor Scalar).Conforms outputDimensions rows :=
  ⟨conforms.float32, conforms.rank, conforms.threeDimensions, conforms.batch, conforms.second,
    conforms.tail, sized⟩

theorem OutputTensor.Conforms.floatsPerToken_eq (conforms : output.Conforms outputDimensions rows) :
    floatsPerToken output.dimensions = floatsPerToken outputDimensions := by
  rw [floatsPerToken, floatsPerToken, conforms.tail]

theorem differentDimension_eq_none {requested output : List Nat}
    (tail : requested.drop 2 = output.drop 2) : differentDimension requested output = none := by
  rw [differentDimension, List.find?_eq_none]
  intro i member
  obtain ⟨offset, isElement⟩ := List.mem_iff_getElem?.mp member
  rw [List.getElem?_drop] at isElement
  have atIndex : i = 2 + offset := by
    rw [List.getElem?_eq_some_iff] at isElement
    obtain ⟨inBounds, value⟩ := isElement
    rw [List.getElem_range] at value
    exact value.symm
  have same : requested[i]? = output[i]? := by
    rw [atIndex, ← List.getElem?_drop, ← List.getElem?_drop, tail]
  simp [List.getD_eq_getElem?_getD, same]

theorem checkPrefillOutput_ok (conforms : output.Conforms outputDimensions rows)
    (model : String) (reported : List Nat) {dimensions : List Nat} {tokenCount : Nat}
    (rank : dimensions.length = outputDimensions.length)
    (tail : dimensions.drop 2 = outputDimensions.drop 2) (fits : tokenCount ≤ rows) :
    checkPrefillOutput model dimensions reported tokenCount output = .ok () := by
  have sameRank : output.dimensions.length = dimensions.length := conforms.rank.trans rank.symm
  have three := conforms.threeDimensions
  unfold checkPrefillOutput
  rw [if_neg (by simpa using sameRank), if_neg (by rw [conforms.rank]; omega),
    if_neg (by rw [rank]; omega), if_neg (by simpa using conforms.batch),
    if_neg (by rw [conforms.second]; omega),
    differentDimension_eq_none (conforms.tail.trans tail.symm)]

theorem checkPrefillSize_ok (conforms : output.Conforms outputDimensions rows)
    {tokenCount first : Nat} (fits : first + tokenCount ≤ rows) :
    checkPrefillSize (floatsPerToken outputDimensions) tokenCount
      (first * floatsPerToken outputDimensions) output = .ok () := by
  have room : (first + tokenCount) * floatsPerToken outputDimensions ≤
      rows * floatsPerToken outputDimensions := Nat.mul_le_mul_right _ fits
  have regroup : 4 * (first * floatsPerToken outputDimensions) +
      4 * floatsPerToken outputDimensions * tokenCount =
        4 * ((first + tokenCount) * floatsPerToken outputDimensions) := by ring
  unfold checkPrefillSize
  rw [conforms.sized, if_neg]
  rw [regroup]
  omega

/-! ## Text -/

namespace EmbeddingLookupText

theorem lookupInternal_length (lookup : EmbeddingLookupText Scalar) (token : Int) :
    (lookup.lookupInternal token).length = lookup.getFloatsPerToken := by
  unfold lookupInternal defaultEmbeddingVector
  split
  · exact lookup.sized 0
  · exact lookup.sized _

variable [Zero Scalar]

/-- A span of text: each token has its row, the rows behind hold the default. -/
theorem lookupPrefillSpan_ok (lookup : EmbeddingLookupText Scalar)
    (conforms : output.Conforms lookup.outputDimensions rows) {tokens : List Int} {first : Nat}
    (fits : first + tokens.length ≤ rows) :
    ∃ written, lookup.lookupPrefillSpan tokens output (first * lookup.getFloatsPerToken) =
        .ok written ∧
      written.Conforms lookup.outputDimensions rows ∧
      ∀ row, block lookup.getFloatsPerToken written.contents row =
        if row < first then block lookup.getFloatsPerToken output.contents row
        else if row < rows then
          (tokens.map lookup.lookupInternal).getD (row - first) lookup.defaultEmbeddingVector
        else block lookup.getFloatsPerToken output.contents row := by
  have positive : 0 < lookup.getFloatsPerToken := lookup.positive
  have checked := checkPrefillOutput_ok conforms "Embedding" lookup.outputDimensions
    rfl rfl (show tokens.length ≤ rows by omega)
  have sizeChecked := checkPrefillSize_ok conforms fits
  have startingToken : first * lookup.getFloatsPerToken / lookup.getFloatsPerToken = first :=
    Nat.mul_div_cancel _ positive
  unfold lookupPrefillSpan
  rw [checked, conforms.second]
  change ∃ written, (do
    checkPrefillSize (floatsPerToken lookup.outputDimensions) tokens.length
      (first * floatsPerToken lookup.outputDimensions) output
    _ : StatusOr (OutputTensor Scalar)) = .ok written ∧ _
  rw [sizeChecked]
  dsimp only [bind, Except.bind, pure, Except.pure]
  rw [startingToken]
  generalize rowsOf : (tokens.map lookup.lookupInternal ++
    List.replicate (rows - (first + tokens.length)) lookup.defaultEmbeddingVector) = texts
  have count : first + (texts.map some).length ≤ rows := by
    rw [List.length_map, ← rowsOf, List.length_append, List.length_map, List.length_replicate]
    omega
  have rowSized : ∀ row, some row ∈ texts.map some → row.length = lookup.getFloatsPerToken := by
    intro row member
    rw [List.mem_map] at member
    obtain ⟨text, isText, same⟩ := member
    cases same
    rw [← rowsOf, List.mem_append] at isText
    rcases isText with ofToken | isDefault
    · obtain ⟨token, -, rfl⟩ := List.mem_map.mp ofToken
      exact lookup.lookupInternal_length token
    · rw [(List.mem_replicate.mp isDefault).2]
      exact lookup.sized 0
  obtain ⟨length, blocks⟩ := block_writeBlocks (0 : Scalar) (texts.map some) rowSized
    conforms.sized count
  refine ⟨_, rfl, conforms.write length, ?_⟩
  intro row
  dsimp only
  rw [blocks]
  by_cases before : row < first
  · rw [if_neg (by omega), if_pos before]
  · rw [if_pos (by omega), if_neg before]
    have column : ∀ index, (texts.map some).getD index none = texts[index]? := by
      intro index
      simp [List.getD_eq_getElem?_getD]
      cases texts[index]? <;> rfl
    rw [column, ← rowsOf]
    by_cases inside : row < rows
    · rw [if_pos inside]
      by_cases ofToken : row - first < tokens.length
      · rw [List.getElem?_append_left (by rw [List.length_map]; exact ofToken)]
        simp [List.getD_eq_getElem?_getD, ofToken]
      · rw [List.getElem?_append_right (by rw [List.length_map]; omega), List.length_map,
          List.getElem?_replicate, if_pos (by omega), Option.getD_some,
          List.getD_eq_getElem?_getD, List.getElem?_eq_none (by rw [List.length_map]; omega),
          Option.getD_none]
    · rw [if_neg inside, List.getElem?_eq_none, Option.getD_none]
      rw [List.length_append, List.length_map, List.length_replicate]
      omega

end EmbeddingLookupText

/-! ## One modality -/

namespace EmbeddingLookupMultiModal

theorem takeEmbedding_eq {floats : Nat} {lookup : EmbeddingLookupMultiModal Scalar}
    (enough : floats ≤ lookup.embedding.length) :
    takeEmbedding floats lookup =
      .ok (lookup.embedding.take floats)
        { lookup with embedding := lookup.embedding.drop floats } := by
  have notShort : ¬lookup.embedding.length < floats := by omega
  simp only [takeEmbedding, bind, EStateM.bind, get, getThe, MonadStateOf.get, EStateM.get]
  rw [if_neg notShort]
  rfl

/-- The rows taken from the embeddings: the special tokens take them in order. -/
structure RowsTaken (floats : Nat) (lookup : EmbeddingLookupMultiModal Scalar)
    (tokens : List Int) (taken : List (Option (List Scalar))) : Prop where
  length : taken.length = tokens.length
  sized : ∀ row, some row ∈ taken → row.length = floats
  row : ∀ index (inBounds : index < tokens.length), taken.getD index none =
    if tokens[index] = lookup.specialToken then
      some (block floats lookup.embedding ((tokens.take index).count lookup.specialToken))
    else none

/-- The blocks behind the first one. -/
theorem block_drop (floats : Nat) (embedding : List Scalar) (used index : Nat) :
    block floats (embedding.drop (used * floats)) index = block floats embedding (used + index) := by
  rw [block, block, slice, slice, List.drop_drop, Nat.add_mul]
  congr 1
  omega

/-- A span takes one row for each special token. -/
theorem takeEmbeddings_ok {floats : Nat} {lookup : EmbeddingLookupMultiModal Scalar}
    {tokens : List Int}
    (enough : tokens.count lookup.specialToken * floats ≤ lookup.embedding.length) :
    ∃ taken, takeEmbeddings floats tokens lookup =
        .ok taken { lookup with
          embedding := lookup.embedding.drop (tokens.count lookup.specialToken * floats) } ∧
      RowsTaken floats lookup tokens taken := by
  induction tokens generalizing lookup with
  | nil => exact ⟨[], by simp [takeEmbeddings, pure, EStateM.pure], rfl, nofun, nofun⟩
  | cons token rest inductionHypothesis =>
      by_cases special : token = lookup.specialToken
      · rw [← special, List.count_cons_self, Nat.succ_mul] at enough
        have first := takeEmbedding_eq (show floats ≤ lookup.embedding.length by omega)
        obtain ⟨taken, others, rows⟩ := @inductionHypothesis
          { lookup with embedding := lookup.embedding.drop floats } (by
            rw [List.length_drop, ← special]
            omega)
        refine ⟨some (lookup.embedding.take floats) :: taken, ?_, ?_⟩
        · simp only [takeEmbeddings, bind, EStateM.bind, get, getThe, MonadStateOf.get, EStateM.get,
            if_pos special, first, others, pure, EStateM.pure]
          rw [List.drop_drop, ← special, List.count_cons_self, Nat.succ_mul, Nat.add_comm]
        · constructor
          · rw [List.length_cons, List.length_cons, rows.length]
          · intro row member
            rcases List.mem_cons.mp member with isFirst | isLater
            · cases isFirst
              rw [List.length_take]
              omega
            · exact rows.sized row isLater
          · intro index inBounds
            cases index with
            | zero =>
                rw [List.getD_cons_zero, List.getElem_cons_zero, if_pos special, List.take_zero,
                  List.count_nil, block, slice]
                simp
            | succ index =>
                rw [List.getD_cons_succ, rows.row index (by simpa using inBounds),
                  List.getElem_cons_succ, List.take_succ_cons, ← special, List.count_cons_self]
                have behind := block_drop floats lookup.embedding 1
                  ((rest.take index).count token)
                rw [Nat.one_mul] at behind
                rw [behind, Nat.add_comm 1]
      · rw [List.count_cons_of_ne special] at enough
        obtain ⟨taken, others, rows⟩ := inductionHypothesis enough
        refine ⟨none :: taken, ?_, ?_⟩
        · simp only [takeEmbeddings, bind, EStateM.bind, get, getThe, MonadStateOf.get, EStateM.get,
            if_neg special, others, pure, EStateM.pure]
          rw [List.count_cons_of_ne special]
        · constructor
          · rw [List.length_cons, List.length_cons, rows.length]
          · intro row member
            rcases List.mem_cons.mp member with isFirst | isLater
            · cases isFirst
            · exact rows.sized row isLater
          · intro index inBounds
            cases index with
            | zero => rw [List.getD_cons_zero, List.getElem_cons_zero, if_neg special]
            | succ index =>
                rw [List.getD_cons_succ, rows.row index (by simpa using inBounds),
                  List.getElem_cons_succ, List.take_succ_cons, List.count_cons_of_ne special]

/-- The row a lookup writes for the token at `index` of a span, if it is special. -/
def ownRow (floats : Nat) (tokens : List Int) (index : Nat)
    (lookup : EmbeddingLookupMultiModal Scalar) : Option (List Scalar) :=
  if tokens[index]? = some lookup.specialToken then
    some (block floats lookup.embedding ((tokens.take index).count lookup.specialToken))
  else
    none

theorem RowsTaken.getD {floats : Nat} {lookup : EmbeddingLookupMultiModal Scalar}
    {tokens : List Int} {taken : List (Option (List Scalar))}
    (rows : RowsTaken floats lookup tokens taken) (index : Nat) :
    taken.getD index none = ownRow floats tokens index lookup := by
  unfold ownRow
  by_cases inBounds : index < tokens.length
  · rw [rows.row index inBounds, List.getElem?_eq_getElem inBounds]
    simp
  · rw [List.getElem?_eq_none (by omega), if_neg (by simp), List.getD_eq_getElem?_getD,
      List.getElem?_eq_none (by rw [rows.length]; omega), Option.getD_none]

variable [Zero Scalar]

/-- The lookup of a span overwrites the rows of its special tokens. -/
theorem lookupPrefillSpan_ok (conforms : output.Conforms outputDimensions rows)
    {tokens : List Int} {first : Nat} (fits : first + tokens.length ≤ rows)
    {lookup : EmbeddingLookupMultiModal Scalar}
    (enough : tokens.count lookup.specialToken * floatsPerToken outputDimensions ≤
      lookup.embedding.length) :
    ∃ written, lookupPrefillSpan tokens (first * floatsPerToken outputDimensions) output lookup =
        .ok written { lookup with
          embedding := lookup.embedding.drop
            (tokens.count lookup.specialToken * floatsPerToken outputDimensions) } ∧
      written.Conforms outputDimensions rows ∧
      ∀ row, block (floatsPerToken outputDimensions) written.contents row =
        if first ≤ row then
          (ownRow (floatsPerToken outputDimensions) tokens (row - first) lookup).getD
            (block (floatsPerToken outputDimensions) output.contents row)
        else block (floatsPerToken outputDimensions) output.contents row := by
  have checked : checkOutput tokens.length (first * floatsPerToken outputDimensions) output =
      .ok () := by
    have rank := conforms.rank
    have three := conforms.threeDimensions
    unfold checkOutput
    rw [if_neg (by simp [conforms.float32]), if_neg (by omega),
      if_neg (by simpa using conforms.batch), if_neg (by rw [conforms.second]; omega),
      conforms.floatsPerToken_eq]
    exact checkPrefillSize_ok conforms fits
  obtain ⟨taken, takes, rowsTaken⟩ := takeEmbeddings_ok enough
  obtain ⟨length, blocks⟩ := block_writeBlocks (0 : Scalar) taken rowsTaken.sized conforms.sized
    (show first + taken.length ≤ rows by rw [rowsTaken.length]; exact fits)
  refine ⟨{ output with
    contents := writeBlocks 0 (floatsPerToken outputDimensions) taken
      (first * floatsPerToken outputDimensions) output.contents }, ?_, conforms.write length, ?_⟩
  · simp only [lookupPrefillSpan, checked, conforms.floatsPerToken_eq, bind, EStateM.bind, takes,
      pure, EStateM.pure]
  · intro row
    rw [blocks]
    simp only [rowsTaken.getD]

end EmbeddingLookupMultiModal

/-! ## All lookups of a manager -/

namespace EmbeddingLookupManager

open EmbeddingLookupMultiModal

/-- A lookup that has used up the rows of a span. -/
def advance (floats : Nat) (tokens : List Int) (lookup : EmbeddingLookupMultiModal Scalar) :
    EmbeddingLookupMultiModal Scalar :=
  { lookup with
    embedding := lookup.embedding.drop (tokens.count lookup.specialToken * floats) }

/-- Lookups of different special tokens write different rows. -/
theorem findSome_ownRow_eq_none {floats index : Nat} {tokens : List Int}
    {lookup : EmbeddingLookupMultiModal Scalar} {others : List (EmbeddingLookupMultiModal Scalar)}
    (own : tokens[index]? = some lookup.specialToken)
    (apart : lookup.specialToken ∉ others.map (·.specialToken)) :
    others.findSome? (ownRow floats tokens index) = none := by
  rw [List.findSome?_eq_none_iff]
  intro other member
  unfold ownRow
  rw [own, if_neg]
  intro same
  rw [Option.some.injEq] at same
  have again : lookup.specialToken ∈ others.map (·.specialToken) := by
    rw [same]
    exact List.mem_map_of_mem member
  exact apart again

section Spans

variable [Zero Scalar]

/-- Asking all multimodal lookups for a span. -/
theorem askEach_lookupPrefillSpan {tokens : List Int} {first : Nat}
    (fits : first + tokens.length ≤ rows) (lookups : List (EmbeddingLookupMultiModal Scalar))
    (apart : (lookups.map (·.specialToken)).Nodup)
    (enough : ∀ lookup ∈ lookups,
      tokens.count lookup.specialToken * floatsPerToken outputDimensions ≤
        lookup.embedding.length)
    {output : OutputTensor Scalar} (conforms : output.Conforms outputDimensions rows) :
    ∃ written, askEach (EmbeddingLookupMultiModal.lookupPrefillSpan tokens
          (first * floatsPerToken outputDimensions)) lookups output =
        (lookups.map (advance (floatsPerToken outputDimensions) tokens), .ok written) ∧
      written.Conforms outputDimensions rows ∧
      ∀ row, block (floatsPerToken outputDimensions) written.contents row =
        if first ≤ row then
          (lookups.findSome?
              (ownRow (floatsPerToken outputDimensions) tokens (row - first))).getD
            (block (floatsPerToken outputDimensions) output.contents row)
        else block (floatsPerToken outputDimensions) output.contents row := by
  induction lookups generalizing output with
  | nil => exact ⟨output, rfl, conforms, by simp⟩
  | cons lookup others inductionHypothesis =>
      rw [List.map_cons, List.nodup_cons] at apart
      obtain ⟨once, asked, onceConforms, onceRows⟩ :=
        EmbeddingLookupMultiModal.lookupPrefillSpan_ok conforms fits
          (enough lookup List.mem_cons_self)
      obtain ⟨written, askedRest, writtenConforms, writtenRows⟩ :=
        inductionHypothesis apart.2 (fun other member => enough other (List.mem_cons_of_mem _ member))
          onceConforms
      refine ⟨written, ?_, writtenConforms, ?_⟩
      · rw [askEach, asked]
        dsimp only
        rw [askedRest]
        rfl
      · intro row
        rw [writtenRows, onceRows, List.findSome?_cons]
        by_cases behind : first ≤ row
        · rw [if_pos behind, if_pos behind, if_pos behind]
          by_cases own : tokens[row - first]? = some lookup.specialToken
          · rw [findSome_ownRow_eq_none own apart.1]
            simp [ownRow, own]
          · have notOwn : ownRow (floatsPerToken outputDimensions) tokens (row - first) lookup =
                none := if_neg own
            rw [notOwn, Option.getD_none]
        · rw [if_neg behind, if_neg behind, if_neg behind]

/-- The row an end lookup writes for the token at `index` of a span. -/
def endRow (tokens : List Int) (index : Nat) (lookup : EndOfMultiModalEmbedding Scalar) :
    Option (List Scalar) :=
  if tokens[index]? = some lookup.specialToken then some lookup.endOfMultiModalEmbedding else none

/-- The end lookups suit a model with these output dimensions, one for each token. -/
structure EndsConform (lookups : List (EndOfMultiModalEmbedding Scalar))
    (outputDimensions : List Nat) : Prop where
  apart : (lookups.map (·.specialToken)).Nodup
  rank : ∀ lookup ∈ lookups, lookup.outputDimensions.length = outputDimensions.length
  tail : ∀ lookup ∈ lookups, lookup.outputDimensions.drop 2 = outputDimensions.drop 2

omit [Zero Scalar] in
theorem EndsConform.sized {lookups : List (EndOfMultiModalEmbedding Scalar)}
    (conform : EndsConform lookups outputDimensions) {lookup : EndOfMultiModalEmbedding Scalar}
    (member : lookup ∈ lookups) :
    lookup.endOfMultiModalEmbedding.length = floatsPerToken outputDimensions := by
  rw [lookup.sized, floatsPerToken, floatsPerToken, conform.tail lookup member]

omit [Zero Scalar] in
theorem EndsConform.tailOf {lookup : EndOfMultiModalEmbedding Scalar}
    {others : List (EndOfMultiModalEmbedding Scalar)}
    (conform : EndsConform (lookup :: others) outputDimensions) :
    EndsConform others outputDimensions :=
  ⟨(List.nodup_cons.mp conform.apart).2,
    fun other member => conform.rank other (List.mem_cons_of_mem _ member),
    fun other member => conform.tail other (List.mem_cons_of_mem _ member)⟩

theorem askEnds_lookupPrefillSpan {tokens : List Int} {first : Nat}
    (fits : first + tokens.length ≤ rows) {lookups : List (EndOfMultiModalEmbedding Scalar)}
    (conform : EndsConform lookups outputDimensions)
    {output : OutputTensor Scalar} (conforms : output.Conforms outputDimensions rows) :
    ∃ written, lookups.foldlM (fun written lookup => lookup.lookupPrefillSpan tokens
          (first * floatsPerToken outputDimensions) written) output = Except.ok written ∧
      written.Conforms outputDimensions rows ∧
      ∀ row, block (floatsPerToken outputDimensions) written.contents row =
        if first ≤ row then
          (lookups.findSome? (endRow tokens (row - first))).getD
            (block (floatsPerToken outputDimensions) output.contents row)
        else block (floatsPerToken outputDimensions) output.contents row := by
  induction lookups generalizing output with
  | nil => exact ⟨output, rfl, conforms, by simp⟩
  | cons lookup others inductionHypothesis =>
      have checked := checkPrefillOutput_ok conforms "EndOfMultiModalEmbedding"
        output.dimensions (conform.rank lookup List.mem_cons_self)
        (conform.tail lookup List.mem_cons_self) (show tokens.length ≤ rows by omega)
      have sizeChecked := checkPrefillSize_ok conforms fits
      have sized := conform.sized (List.mem_cons_self (a := lookup))
      generalize writes : (tokens.map fun token =>
        if token = lookup.specialToken then some lookup.endOfMultiModalEmbedding else none) = ends
      have endsLength : ends.length = tokens.length := by rw [← writes, List.length_map]
      have endsSized : ∀ row, some row ∈ ends → row.length = floatsPerToken outputDimensions := by
        intro row member
        rw [← writes, List.mem_map] at member
        obtain ⟨token, -, isRow⟩ := member
        split at isRow
        · cases isRow
          exact sized
        · cases isRow
      obtain ⟨length, blocks⟩ := block_writeBlocks (0 : Scalar) ends endsSized conforms.sized
        (show first + ends.length ≤ rows by rw [endsLength]; exact fits)
      have once : lookup.lookupPrefillSpan tokens (first * floatsPerToken outputDimensions) output =
          .ok { output with
            contents := writeBlocks 0 (floatsPerToken outputDimensions) ends
              (first * floatsPerToken outputDimensions) output.contents } := by
        unfold EndOfMultiModalEmbedding.lookupPrefillSpan
        rw [checked, sized]
        dsimp only [bind, Except.bind]
        rw [sizeChecked, writes]
        rfl
      have column : ∀ index, ends.getD index none = endRow tokens index lookup := by
        intro index
        rw [← writes, endRow, List.getD_eq_getElem?_getD, List.getElem?_map]
        cases tokens[index]? with
        | none => simp
        | some token => simp
      obtain ⟨written, askedRest, writtenConforms, writtenRows⟩ :=
        inductionHypothesis conform.tailOf (conforms.write length)
      refine ⟨written, ?_, writtenConforms, ?_⟩
      · rw [List.foldlM_cons, once]
        exact askedRest
      · intro row
        rw [writtenRows, List.findSome?_cons]
        dsimp only
        rw [blocks, column]
        by_cases behind : first ≤ row
        · rw [if_pos behind, if_pos behind, if_pos behind]
          by_cases own : tokens[row - first]? = some lookup.specialToken
          · have noOther : others.findSome? (endRow tokens (row - first)) = none := by
              rw [List.findSome?_eq_none_iff]
              intro other member
              rw [endRow, own, if_neg]
              intro same
              rw [Option.some.injEq] at same
              have again : lookup.specialToken ∈ others.map (·.specialToken) := by
                rw [same]
                exact List.mem_map_of_mem member
              exact (List.nodup_cons.mp conform.apart).1 again
            rw [noOther]
            simp [endRow, own]
          · have notOwn : endRow tokens (row - first) lookup = none := if_neg own
            rw [notOwn, Option.getD_none]
        · rw [if_neg behind, if_neg behind, if_neg behind]

end Spans

end EmbeddingLookupManager

end LiteRTLM.Components.EmbeddingLookup
