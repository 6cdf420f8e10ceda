import LiteRTLM.Core.SessionUtils.CombinedContents
import LiteRTLM.Library.Succeeds

/-!
Contract: combined embeddings and the special tokens inserted for them.

Owns: the rows of embeddings, when the rows of a combined tensor belong to the special tokens in
order, and when `CombineExecutorDataImpl` returns such a tensor.

Does not own: what a model does with the rows.
-/

namespace LiteRTLM.Core.SessionUtils

open LiteRTLM.Engine
open LiteRTLM.Executor
open LiteRTLM.Library
open LiteRTLM.Library.Blocks
open LiteRTLM.Util

variable {Scalar : Type}

/-! ## Rows of embeddings -/

/-- The model dimension of a layout: the last one. -/
def modelDimension (dimensions : List Nat) : Nat := dimensions.getLastD 0

/-- The number of rows of a layout. -/
def rowCount (dimensions : List Nat) : Nat := dimensions.dropLast.prod

/-- The rows of a tensor, each of the size of the model dimension. -/
def embeddingRows (tensor : EmbeddingTensor Scalar) : List (List Scalar) :=
  rowsOf (modelDimension tensor.dimensions) (rowCount tensor.dimensions) tensor.data

theorem rowCount_mul_modelDimension {dimensions : List Nat} (someRank : dimensions ≠ []) :
    rowCount dimensions * modelDimension dimensions = dimensions.prod := by
  rcases List.eq_nil_or_concat dimensions with none | ⟨front, last, rfl⟩
  · exact absurd none someRank
  · rw [List.concat_eq_append, rowCount, modelDimension, List.dropLast_concat, List.getLastD_concat, List.prod_append,
      List.prod_singleton]

/-- The embeddings of an item; without rows where there are none. -/
def itemTensor (item : ExecutorData Scalar) : EmbeddingTensor Scalar :=
  item.embeddings.getD ⟨[], []⟩

/-- Embeddings of rank 3 or 4 with as many elements as their layout. -/
def IsEmbedded (item : ExecutorData Scalar) : Prop :=
  ∃ tensor, item.embeddings = some tensor ∧
    (tensor.dimensions.length = 3 ∨ tensor.dimensions.length = 4) ∧
    tensor.data.length = tensor.dimensions.prod

namespace IsEmbedded

variable {item : ExecutorData Scalar}

theorem embeddings_eq (embedded : IsEmbedded item) : item.embeddings = some (itemTensor item) := by
  obtain ⟨tensor, embeddings, _⟩ := embedded
  rw [itemTensor, embeddings, Option.getD_some]

theorem rank (embedded : IsEmbedded item) :
    (itemTensor item).dimensions.length = 3 ∨ (itemTensor item).dimensions.length = 4 := by
  obtain ⟨tensor, embeddings, rank, _⟩ := embedded
  rw [itemTensor, embeddings, Option.getD_some]
  exact rank

theorem packed (embedded : IsEmbedded item) :
    (itemTensor item).data.length = (itemTensor item).dimensions.prod := by
  obtain ⟨tensor, embeddings, _, packed⟩ := embedded
  rw [itemTensor, embeddings, Option.getD_some]
  exact packed

theorem dimensions_ne_nil (embedded : IsEmbedded item) : (itemTensor item).dimensions ≠ [] := by
  apply List.ne_nil_of_length_pos
  rcases embedded.rank with three | four
  · rw [three]
    exact Nat.succ_pos _
  · rw [four]
    exact Nat.succ_pos _

theorem data_length (embedded : IsEmbedded item) :
    (itemTensor item).data.length =
      rowCount (itemTensor item).dimensions * modelDimension (itemTensor item).dimensions := by
  rw [embedded.packed, rowCount_mul_modelDimension embedded.dimensions_ne_nil]

theorem getEmbeddingsPtr (embedded : IsEmbedded item) (modality : Modality) :
    item.getEmbeddingsPtr modality = .ok (itemTensor item) := by
  have embeddings := embedded.embeddings_eq
  cases modality <;> simp only [ExecutorData.getEmbeddingsPtr, embeddings]

end IsEmbedded

/-! ## Special tokens -/

/-- `kSpecialToken`. -/
def specialToken : Modality → Int
  | .vision => visionSpecialToken
  | .audio => audioSpecialToken

/-- The number of special tokens that are inserted for an item. -/
def specialTokens (modality : Modality) (item : ExecutorData Scalar) : Nat :=
  match insertedIds modality item with
  | .ok ids => ids.count (specialToken modality)
  | .error _ => 0

/-- The embeddings of one kind that the loop gathered. -/
def Gathered.items (gathered : Gathered Scalar) : Modality → List (ExecutorData Scalar)
  | .vision => gathered.allImageData
  | .audio => gathered.allAudioData

section Gather

variable {Tensor : Type} {runtime : ContentRuntime Tensor Scalar} {modality : Modality}
  {gathered after : Gathered Scalar}

/-- One content inserts the special tokens of its own embeddings, and no others. -/
theorem count_gatherContent
    (plainText : ∀ tensor ids, runtime.tokenIds tensor = .ok ids → specialToken modality ∉ ids)
    {content : InputData Tensor} (gathers : gatherContent runtime gathered content = .ok after)
    (counted : gathered.combinedTokenIds.count (specialToken modality) =
      ((gathered.items modality).map (specialTokens modality)).sum) :
    after.combinedTokenIds.count (specialToken modality) =
      ((after.items modality).map (specialTokens modality)).sum := by
  have oneMore : ∀ item ids, insertedIds modality item = .ok ids →
      (gathered.combinedTokenIds ++ ids).count (specialToken modality) =
        ((gathered.items modality ++ [item]).map (specialTokens modality)).sum := by
    intro item ids inserted
    rw [List.count_append, counted, List.map_append, List.sum_append, List.map_singleton,
      List.sum_singleton, specialTokens, inserted]
  have noMore : ∀ ids, specialToken modality ∉ ids →
      (gathered.combinedTokenIds ++ ids).count (specialToken modality) =
        ((gathered.items modality).map (specialTokens modality)).sum := by
    intro ids absent
    rw [List.count_append, counted, List.count_eq_zero.mpr absent, Nat.add_zero]
  match content with
  | .text (.raw _) => cases gathers
  | .image (.raw _) => cases gathers
  | .audio (.raw _) => cases gathers
  | .text (.tensorBuffer tensor) =>
      obtain ⟨ids, found, returns⟩ := except_bind_eq_ok.mp gathers
      cases returns
      have same := noMore ids (plainText tensor ids found)
      cases modality with
      | vision => exact same
      | audio => exact same
  | .image (.tensorBuffer tensor) =>
      obtain ⟨item, _, rest⟩ := except_bind_eq_ok.mp gathers
      obtain ⟨ids, inserted, returns⟩ := except_bind_eq_ok.mp rest
      cases returns
      cases modality with
      | vision => exact oneMore item ids inserted
      | audio =>
          apply noMore ids
          obtain ⟨embeddings, _, replicated⟩ := except_bind_eq_ok.mp inserted
          cases replicated
          intro member
          exact absurd (List.eq_of_mem_replicate member) (by decide)
  | .audio (.tensorBuffer tensor) =>
      obtain ⟨item, _, rest⟩ := except_bind_eq_ok.mp gathers
      obtain ⟨ids, inserted, returns⟩ := except_bind_eq_ok.mp rest
      cases returns
      cases modality with
      | audio => exact oneMore item ids inserted
      | vision =>
          apply noMore ids
          cases inserted
          intro member
          rcases List.mem_append.mp member with special | isEnd
          · exact absurd (List.eq_of_mem_replicate special) (by decide)
          · exact absurd (List.mem_singleton.mp isEnd) (by decide)

/-- Where the text has no special tokens of its own, those of the token ids are the ones inserted
for the gathered embeddings. -/
theorem count_gathered
    (plainText : ∀ tensor ids, runtime.tokenIds tensor = .ok ids → specialToken modality ∉ ids)
    {contents : List (InputData Tensor)}
    (gathers : contents.foldlM (gatherContent runtime) gathered = .ok after)
    (counted : gathered.combinedTokenIds.count (specialToken modality) =
      ((gathered.items modality).map (specialTokens modality)).sum) :
    after.combinedTokenIds.count (specialToken modality) =
      ((after.items modality).map (specialTokens modality)).sum := by
  induction contents generalizing gathered with
  | nil =>
      cases gathers
      exact counted
  | cons content rest inductionHypothesis =>
      rw [List.foldlM_cons] at gathers
      obtain ⟨between, first, others⟩ := except_bind_eq_ok.mp gathers
      exact inductionHypothesis others (count_gatherContent plainText first counted)

end Gather

/-! ## Rows that match the special tokens -/

/-- The combined tensor has the elements and the rows of the items in order, and the special
tokens inserted for an item are in the places of its rows. -/
structure RowsMatch (modality : Modality) (items : List (ExecutorData Scalar))
    (combined : ExecutorData Scalar) : Prop where
  elements : (itemTensor combined).dimensions.prod =
    (items.map fun item => (itemTensor item).dimensions.prod).sum
  rows : embeddingRows (itemTensor combined) =
    items.flatMap fun item => embeddingRows (itemTensor item)
  count : rowCount (itemTensor combined).dimensions = (items.map (specialTokens modality)).sum
  aligned : ∀ before item behind, items = before ++ item :: behind →
    ((embeddingRows (itemTensor combined)).drop (before.map (specialTokens modality)).sum).take
        (specialTokens modality item) =
      embeddingRows (itemTensor item)

def combinedLayout (modality : Modality) : List (ExecutorData Scalar) → List Nat
  | [] => []
  | [single] => (itemTensor single).dimensions
  | first :: second :: rest =>
      combinedDimensions modality (itemTensor first).dimensions
        ((first :: second :: rest).map fun item => (itemTensor item).tokenDimension).sum

/-- The layout taken from the first tensor fits all tensors: it has the model dimension of each
tensor with rows, and the rows of all of them; and each tensor has a row for each of its special
tokens. -/
structure RowsFit (modality : Modality) (items : List (ExecutorData Scalar)) : Prop where
  widths : ∀ item ∈ items, rowCount (itemTensor item).dimensions = 0 ∨
    modelDimension (itemTensor item).dimensions = modelDimension (combinedLayout modality items)
  counts : rowCount (combinedLayout modality items) =
    (items.map fun item => rowCount (itemTensor item).dimensions).sum
  tokens : ∀ item ∈ items,
    rowCount (itemTensor item).dimensions = specialTokens modality item

section Layout

variable {modality : Modality} {items : List (ExecutorData Scalar)}
  {combined : ExecutorData Scalar}

theorem embeddingRows_length (tensor : EmbeddingTensor Scalar) :
    (embeddingRows tensor).length = rowCount tensor.dimensions :=
  rowsOf_length _ _ _

/-- Bounds that are attained in sum are attained. -/
theorem eq_of_sum_eq {α : Type} {items : List α} {lower upper : α → Nat}
    (bounded : ∀ item ∈ items, lower item ≤ upper item)
    (sums : (items.map lower).sum = (items.map upper).sum) :
    ∀ item ∈ items, lower item = upper item := by
  intro item member
  by_contra different
  have below : lower item < upper item := lt_of_le_of_ne (bounded item member) different
  have strict := List.sum_lt_sum lower upper bounded ⟨item, member, below⟩
  omega

/-- Where the rows match, the layout fits. -/
theorem RowsMatch.fit (embedded : ∀ item ∈ items, IsEmbedded item)
    (someLayout : combinedLayout modality items ≠ [])
    (embeddings : itemTensor combined =
      ⟨combinedLayout modality items, items.flatMap fun item => (itemTensor item).data⟩)
    (isMatch : RowsMatch modality items combined) : RowsFit modality items := by
  have counts := congrArg List.length isMatch.rows
  rw [embeddingRows_length, List.length_flatMap] at counts
  simp only [embeddingRows_length] at counts
  have packed : (itemTensor combined).data.length =
      rowCount (combinedLayout modality items) *
        modelDimension (combinedLayout modality items) := by
    rw [rowCount_mul_modelDimension someLayout, embeddings, List.length_flatMap]
    have elements := isMatch.elements
    rw [embeddings] at elements
    rw [elements]
    exact congrArg List.sum (List.map_congr_left fun item member => (embedded item member).packed)
  have layout : (itemTensor combined).dimensions = combinedLayout modality items := by
    rw [embeddings]
  constructor
  · intro item member
    by_cases none : rowCount (itemTensor item).dimensions = 0
    · exact Or.inl none
    · right
      obtain ⟨row, inItem⟩ : ∃ row, row ∈ embeddingRows (itemTensor item) := by
        apply List.exists_mem_of_length_pos
        rw [embeddingRows_length]
        omega
      have width := rowsOf_sized (embedded item member).data_length row inItem
      have inCombined : row ∈ embeddingRows (itemTensor combined) := by
        rw [isMatch.rows]
        exact List.mem_flatMap.mpr ⟨item, member, inItem⟩
      rw [embeddingRows, layout] at inCombined
      rw [← width]
      exact rowsOf_sized packed row inCombined
  · rw [← layout]
    exact counts
  · apply eq_of_sum_eq
    · intro item member
      obtain ⟨before, behind, split⟩ := List.append_of_mem member
      have taken := congrArg List.length (isMatch.aligned before item behind split)
      rw [List.length_take, embeddingRows_length] at taken
      omega
    · rw [← counts, isMatch.count]

/-- Where the layout fits, the rows match. -/
theorem RowsFit.rowsMatch (embedded : ∀ item ∈ items, IsEmbedded item)
    (someLayout : combinedLayout modality items ≠ [])
    (embeddings : itemTensor combined =
      ⟨combinedLayout modality items, items.flatMap fun item => (itemTensor item).data⟩)
    (fit : RowsFit modality items) : RowsMatch modality items combined := by
  have layout : (itemTensor combined).dimensions = combinedLayout modality items := by
    rw [embeddings]
  have sized : ∀ row ∈ items.flatMap fun item => embeddingRows (itemTensor item),
      row.length = modelDimension (combinedLayout modality items) := by
    intro row inRows
    obtain ⟨item, member, inItem⟩ := List.mem_flatMap.mp inRows
    have width := rowsOf_sized (embedded item member).data_length row inItem
    rcases fit.widths item member with none | same
    · have length := List.length_pos_of_mem inItem
      rw [embeddingRows_length, none] at length
      exact absurd length (Nat.lt_irrefl 0)
    · rw [width, same]
  have count : (items.flatMap fun item => embeddingRows (itemTensor item)).length =
      rowCount (combinedLayout modality items) := by
    rw [List.length_flatMap, fit.counts]
    simp only [embeddingRows_length]
  have joined : (items.flatMap fun item => embeddingRows (itemTensor item)).flatten =
      items.flatMap fun item => (itemTensor item).data := by
    rw [List.flatMap_def, List.flatMap_def, List.flatten_flatten, List.map_map]
    apply congrArg List.flatten
    apply List.map_congr_left
    intro item member
    exact flatten_rowsOf (embedded item member).data_length
  have rows : embeddingRows (itemTensor combined) =
      items.flatMap fun item => embeddingRows (itemTensor item) := by
    rw [embeddingRows, embeddings, ← joined, ← count]
    exact rowsOf_flatten sized
  have special : ∀ part : List (ExecutorData Scalar), (∀ item ∈ part, item ∈ items) →
      (part.flatMap fun item => embeddingRows (itemTensor item)).length =
        (part.map (specialTokens modality)).sum := by
    intro part within
    rw [List.length_flatMap]
    simp only [embeddingRows_length]
    exact congrArg List.sum
      (List.map_congr_left fun item member => fit.tokens item (within item member))
  constructor
  · rw [layout, ← rowCount_mul_modelDimension someLayout, fit.counts, ← List.sum_map_mul_right]
    apply congrArg List.sum
    apply List.map_congr_left
    intro item member
    rw [← rowCount_mul_modelDimension (embedded item member).dimensions_ne_nil]
    rcases fit.widths item member with none | same
    · rw [none, Nat.zero_mul, Nat.zero_mul]
    · rw [same]
  · exact rows
  · rw [layout, ← count, special items fun _ member => member]
  · intro before item behind split
    have inBefore : ∀ other ∈ before, other ∈ items := by
      intro other member
      rw [split]
      exact List.mem_append_left _ member
    have member : item ∈ items := by
      rw [split]
      exact List.mem_append_right _ List.mem_cons_self
    rw [rows, split, List.flatMap_append, List.flatMap_cons, ← special before inBefore,
      List.drop_left, ← fit.tokens item member, ← embeddingRows_length, List.take_left]

end Layout

/-! ## Combining -/

/-- The buffer for the combined tensor is refused. -/
def BufferRefused (createManagedHostMemory : List Nat → Nat → Option Status) (modality : Modality)
    (items : List (ExecutorData Scalar)) : Prop :=
  2 ≤ items.length ∧
    (createManagedHostMemory (combinedLayout modality items)
      (items.map fun item => (itemTensor item).packedSize).sum).isSome

section Combine

variable {createManagedHostMemory : List Nat → Nat → Option Status} {modality : Modality}
  {items : List (ExecutorData Scalar)}

theorem rankedEmbeddings_eq {item : ExecutorData Scalar} (embedded : IsEmbedded item)
    (modality : Modality) : rankedEmbeddings modality item = .ok (itemTensor item) := by
  have ranked : ¬((itemTensor item).dimensions.length ≠ 3 ∧
      (itemTensor item).dimensions.length ≠ 4) := by
    have rank := embedded.rank
    omega
  rw [rankedEmbeddings, embedded.getEmbeddingsPtr]
  exact if_neg ranked

theorem combinedLayout_ne_nil (someItem : items ≠ [])
    (embedded : ∀ item ∈ items, IsEmbedded item) : combinedLayout modality items ≠ [] := by
  match items with
  | [] => exact absurd rfl someItem
  | [single] => exact (embedded single List.mem_cons_self).dimensions_ne_nil
  | first :: second :: rest =>
      have rank := (embedded first List.mem_cons_self).rank
      cases modality with
      | audio => exact List.cons_ne_nil _ _
      | vision =>
          rw [combinedLayout, combinedDimensions]
          split
          · exact List.cons_ne_nil _ _
          next notThree =>
            rw [if_pos (rank.resolve_left notThree)]
            exact List.cons_ne_nil _ _

/-- Several tensors are joined where the buffer is created. -/
theorem combineExecutorData_several (first second : ExecutorData Scalar)
    (rest : List (ExecutorData Scalar))
    (embedded : ∀ item ∈ first :: second :: rest, IsEmbedded item) :
    combineExecutorData createManagedHostMemory modality (first :: second :: rest) =
      match createManagedHostMemory (combinedLayout modality (first :: second :: rest))
          ((first :: second :: rest).map fun item => (itemTensor item).packedSize).sum with
      | some status => .error status
      | none => .ok {
          embeddings := some {
            dimensions := combinedLayout modality (first :: second :: rest)
            data := (first :: second :: rest).flatMap fun item => (itemTensor item).data }
          validTokens :=
            match modality with
            | .vision => 0
            | .audio => ((first :: second :: rest).map ExecutorData.validTokens).sum } := by
  have tensors := mapM_ok (rankedEmbeddings modality) itemTensor (first :: second :: rest)
    fun item member => rankedEmbeddings_eq (embedded item member) modality
  have data : ((first :: second :: rest).map itemTensor).flatMap
      (fun tensor => tensor.data.take tensor.packedSize) =
      (first :: second :: rest).flatMap fun item => (itemTensor item).data := by
    rw [List.flatMap_map]
    apply List.flatMap_congr
    intro item member
    exact List.take_of_length_le (embedded item member).packed.le
  simp only [combineExecutorData, (embedded first List.mem_cons_self).getEmbeddingsPtr, tensors,
    bind, Except.bind, data, List.map_map]
  rfl

/-- A list is either refused, or combined into the tensor with the layout and all elements. -/
theorem combineExecutorData_cases
    (createManagedHostMemory : List Nat → Nat → Option Status) (modality : Modality)
    (someItem : items ≠ []) (embedded : ∀ item ∈ items, IsEmbedded item) :
    (BufferRefused createManagedHostMemory modality items ∧
      ∃ status, combineExecutorData createManagedHostMemory modality items = .error status) ∨
    (¬BufferRefused createManagedHostMemory modality items ∧
      ∃ combined, combineExecutorData createManagedHostMemory modality items = .ok combined ∧
        itemTensor combined =
          ⟨combinedLayout modality items, items.flatMap fun item => (itemTensor item).data⟩) := by
  match items, embedded with
  | [], _ => exact absurd rfl someItem
  | [single], _ =>
      right
      refine ⟨fun refused => absurd refused.1 (by simp), single, rfl, ?_⟩
      rw [combinedLayout, List.flatMap_singleton]
  | first :: second :: rest, embedded =>
      have several : 2 ≤ (first :: second :: rest).length := by
        simp only [List.length_cons]
        omega
      rw [combineExecutorData_several first second rest embedded]
      cases created : createManagedHostMemory
          (combinedLayout modality (first :: second :: rest))
          ((first :: second :: rest).map fun item => (itemTensor item).packedSize).sum with
      | some status =>
          left
          refine ⟨⟨several, ?_⟩, status, rfl⟩
          rw [created]
          rfl
      | none =>
          right
          refine ⟨fun refused => ?_, _, rfl, rfl⟩
          have isSome := refused.2
          rw [created] at isSome
          cases isSome

/-- The combined rows belong to the special tokens exactly where the layout taken from the first
tensor fits all tensors, or no buffer is created. -/
theorem combineExecutorData_match_iff
    (createManagedHostMemory : List Nat → Nat → Option Status) (modality : Modality)
    {items : List (ExecutorData Scalar)} (someItem : items ≠ [])
    (embedded : ∀ item ∈ items, IsEmbedded item) :
    (∀ combined, combineExecutorData createManagedHostMemory modality items = .ok combined →
        RowsMatch modality items combined) ↔
      BufferRefused createManagedHostMemory modality items ∨ RowsFit modality items := by
  have someLayout : combinedLayout modality items ≠ [] :=
    combinedLayout_ne_nil someItem embedded
  rcases combineExecutorData_cases createManagedHostMemory modality someItem embedded with
    ⟨refused, status, fails⟩ | ⟨accepted, combined, combines, embeddings⟩
  · constructor
    · intro _
      exact Or.inl refused
    · intro _ combined combines
      rw [fails] at combines
      cases combines
  · constructor
    · intro rowsMatch
      exact Or.inr ((rowsMatch combined combines).fit embedded someLayout embeddings)
    · intro cause result combined'
      have fit := cause.resolve_left accepted
      rw [combines] at combined'
      cases combined'
      exact fit.rowsMatch embedded someLayout embeddings

end Combine

/-! ## Examples -/

/-- A buffer is created where it has room for the layout. -/
def createWithRoom (dimensions : List Nat) (size : Nat) : Option Status :=
  if dimensions.prod ≤ size then none
  else some (.internalError "Insufficient buffer size.")

/-- An item with the numbers from `first` on. -/
def countingItem (dimensions : List Nat) (first validTokens : Nat) : ExecutorData Nat :=
  ⟨some ⟨dimensions, (List.range dimensions.prod).map (first + ·)⟩, validTokens⟩

theorem countingItem_embedded {dimensions : List Nat} (first validTokens : Nat)
    (rank : dimensions.length = 3 ∨ dimensions.length = 4) :
    IsEmbedded (countingItem dimensions first validTokens) := by
  refine ⟨_, rfl, rank, ?_⟩
  rw [List.length_map, List.length_range]

/-- Images of rank 3, whose layout fits. -/
theorem combineExecutorData_match_iff_images :
    RowsFit .vision [countingItem [1, 2, 2] 0 0, countingItem [1, 1, 2] 4 0] ∧
    ∃ combined, combineExecutorData createWithRoom .vision
        [countingItem [1, 2, 2] 0 0, countingItem [1, 1, 2] 4 0] = .ok combined ∧
      RowsMatch .vision [countingItem [1, 2, 2] 0 0, countingItem [1, 1, 2] 4 0] combined := by
  have fit : RowsFit .vision [countingItem [1, 2, 2] 0 0, countingItem [1, 1, 2] 4 0] := by
    constructor <;> decide
  refine ⟨fit, _, rfl, ?_⟩
  refine (combineExecutorData_match_iff createWithRoom .vision (List.cons_ne_nil _ _) ?_).mpr
    (Or.inr fit) _ rfl
  intro item member
  rcases List.mem_cons.mp member with rfl | last
  · exact countingItem_embedded 0 0 (Or.inl rfl)
  · rw [List.mem_singleton.mp last]
    exact countingItem_embedded 4 0 (Or.inl rfl)

/-- Audio of rank 4: the layout has the token dimension of the first tensor in place of its
model dimension. -/
theorem combineExecutorData_audio_rank_four :
    combineExecutorData createWithRoom .audio
        [countingItem [1, 1, 2, 3] 0 2, countingItem [1, 1, 2, 3] 6 2] =
      .ok ⟨some ⟨[1, 4, 2], List.range 12⟩, 4⟩ ∧
    ¬RowsMatch .audio [countingItem [1, 1, 2, 3] 0 2, countingItem [1, 1, 2, 3] 6 2]
      ⟨some ⟨[1, 4, 2], List.range 12⟩, 4⟩ := by
  constructor
  · rfl
  · intro rowsMatch
    exact absurd rowsMatch.elements (by decide)

end LiteRTLM.Core.SessionUtils
