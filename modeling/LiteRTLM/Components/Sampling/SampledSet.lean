import Mathlib
import LiteRTLM.Components.Sampling.SamplingCpuUtil
import LiteRTLM.Library.Blocks

/-!
Contract: what `TopKTopPSampling` picks from.

Owns: the rows of `TopKTokenIds` as the largest logits, the rows of `Softmax` as probabilities
that follow the logits, and the sampled id as one from the shortest prefix of these ids.

Does not own: the distribution of the sampled ids.
-/

namespace LiteRTLM.Components.Sampling

open LiteRTLM.Engine
open LiteRTLM.Library.Blocks
open LiteRTLM.Library.CumulativeChoice
open LiteRTLM.Library.PartialSelection

variable {R : Type} [Field R] [LinearOrder R]

/-! ## Rows of ids -/

theorem getD_block {α : Type} {width slot : Nat} (data : List α) (index : Nat) (fill : α)
    (below : slot < width) :
    data.getD (index * width + slot) fill = (block width data index).getD slot fill := by
  rw [List.getD_eq_getElem?_getD, List.getD_eq_getElem?_getD, getElem?_block data index below]

/-- Each row of `TopKTokenIds` holds the ids of the `k` largest logits. -/
theorem topKTokenIds_rows (runtime : SamplingRuntime R) {logits : List R}
    {vocabSize k batchSize : Nat} (sized : logits.length = batchSize * vocabSize)
    (someRow : 0 < batchSize) (someId : 1 ≤ k) (within : k ≤ vocabSize) :
    ∃ ids, topKTokenIds runtime logits k batchSize = .ok ids ∧ ids.length = batchSize * k ∧
      ∀ b < batchSize, IsTop (logitAt logits vocabSize b) vocabSize k (block k ids b) := by
  have multiple : logits.length % batchSize = 0 := by
    rw [sized, Nat.mul_mod_right]
  have width : logits.length / batchSize = vocabSize := by
    rw [sized, Nat.mul_div_cancel_left _ someRow]
  rw [topKTokenIds, if_neg (not_not.mpr multiple), width]
  by_cases greedy : k = 1
  · subst greedy
    rw [if_pos rfl, List.map_eq_flatMap]
    refine ⟨_, rfl, ?_, ?_⟩
    · apply length_flatMap_range
      intro b _
      rfl
    · intro b below
      have single : ∀ row < batchSize,
          [maxElement (logitAt logits vocabSize row) vocabSize].length = 1 := fun _ _ => rfl
      rw [block_flatMap_range single below]
      exact isTop_maxElement _ within
  · rw [if_neg greedy]
    have tops := fun b => isTop_take_nthElement runtime.algorithms
      (logitAt logits vocabSize b) within
    refine ⟨_, rfl, ?_, ?_⟩
    · exact length_flatMap_range fun b _ => (tops b).length_eq
    · intro b below
      rw [block_flatMap_range (fun b _ => (tops b).length_eq) below]
      exact tops b

/-! ## Rows of probabilities -/

section Row

variable (runtime : SamplingRuntime R) (logits : List R) (topkTokenIds : List Nat)
  (temperature : R) (vocabSize k b : Nat)

theorem rowExponentials_length :
    (rowExponentials runtime logits topkTokenIds temperature vocabSize k b).length = k := by
  rw [rowExponentials, List.length_map, List.length_range]

theorem rowProbabilities_length :
    (rowProbabilities runtime logits topkTokenIds temperature vocabSize k b).length = k := by
  rw [rowProbabilities]
  split
  · exact List.length_replicate
  · rw [List.length_map, rowExponentials_length]

/-- The probability of a slot: the uniform one where the exponentials vanish, and the
normalised exponential elsewhere. -/
theorem rowProbabilities_getD {slot : Nat} (below : slot < k) :
    (rowProbabilities runtime logits topkTokenIds temperature vocabSize k b).getD slot 0 =
      if (rowExponentials runtime logits topkTokenIds temperature vocabSize k b).sum ≤
          floatEpsilon then 1 / (k : R)
      else runtime.exp ((slotLogit logits topkTokenIds vocabSize k b slot -
          maxLogitValue logits topkTokenIds vocabSize k b) / currentTemp temperature) *
        (1 / (rowExponentials runtime logits topkTokenIds temperature vocabSize k b).sum) := by
  rw [rowProbabilities, List.getD_eq_getElem?_getD]
  split
  · rw [List.getElem?_replicate, if_pos below, Option.getD_some]
  · rw [rowExponentials, List.map_map, List.getElem?_map, List.getElem?_range below]
    rfl

variable [IsStrictOrderedRing R] {k}

theorem currentTemp_pos : 0 < currentTemp temperature := by
  have positive : (0 : R) < floatEpsilon := by
    unfold floatEpsilon
    positivity
  exact lt_max_of_lt_right positive

theorem sumOfExps_pos (someId : 0 < k) :
    0 < (rowExponentials runtime logits topkTokenIds temperature vocabSize k b).sum := by
  apply List.sum_pos
  · intro exponential member
    obtain ⟨slot, _, rfl⟩ := List.mem_map.mp member
    exact runtime.exp_pos _
  · apply List.ne_nil_of_length_pos
    rw [rowExponentials_length]
    exact someId

theorem rowProbabilities_pos {slot : Nat} (below : slot < k) :
    0 < (rowProbabilities runtime logits topkTokenIds temperature vocabSize k b).getD slot 0 := by
  have someId : 0 < k := by omega
  rw [rowProbabilities_getD _ _ _ _ _ _ _ below]
  split
  · have count : (0 : R) < k := by exact_mod_cast someId
    positivity
  · have sum := sumOfExps_pos runtime logits topkTokenIds temperature vocabSize b someId
    exact mul_pos (runtime.exp_pos _) (one_div_pos.mpr sum)

/-- Where the exponentials do not vanish, a larger probability belongs to a larger logit. -/
theorem slotLogit_le_of_probability_le {first second : Nat} (firstBelow : first < k)
    (secondBelow : second < k)
    (enough : floatEpsilon <
      (rowExponentials runtime logits topkTokenIds temperature vocabSize k b).sum)
    (ordered : (rowProbabilities runtime logits topkTokenIds temperature vocabSize k b).getD
        first 0 ≤
      (rowProbabilities runtime logits topkTokenIds temperature vocabSize k b).getD second 0) :
    slotLogit logits topkTokenIds vocabSize k b first ≤
      slotLogit logits topkTokenIds vocabSize k b second := by
  have someId : 0 < k := by omega
  have sum := sumOfExps_pos runtime logits topkTokenIds temperature vocabSize b someId
  have scale := currentTemp_pos temperature
  rw [rowProbabilities_getD _ _ _ _ _ _ _ firstBelow,
    rowProbabilities_getD _ _ _ _ _ _ _ secondBelow, if_neg (not_le.mpr enough),
    if_neg (not_le.mpr enough)] at ordered
  have exponentials := le_of_mul_le_mul_right ordered (one_div_pos.mpr sum)
  have arguments := runtime.exp_strictMono.le_iff_le.mp exponentials
  have differences := (div_le_div_iff_of_pos_right scale).mp arguments
  exact (sub_le_sub_iff_right _).mp differences

/-- The probabilities of a row sum up to one. -/
theorem rowProbabilities_sum (someId : 0 < k) :
    (rowProbabilities runtime logits topkTokenIds temperature vocabSize k b).sum = 1 := by
  have count : (k : R) ≠ 0 := by
    have positive : (0 : R) < k := by exact_mod_cast someId
    exact positive.ne'
  have sum := sumOfExps_pos runtime logits topkTokenIds temperature vocabSize b someId
  rw [rowProbabilities]
  split
  · rw [List.sum_replicate, nsmul_eq_mul, mul_one_div_cancel count]
  · rw [List.sum_map_mul_right, List.map_id', mul_one_div_cancel sum.ne']

/-- The exponentials do not vanish where `exp` of 0 is not negligible: the largest logit of the
row has the exponent 0. -/
theorem floatEpsilon_lt_sumOfExps (someId : 0 < k) (noticeable : floatEpsilon < runtime.exp 0) :
    floatEpsilon <
      (rowExponentials runtime logits topkTokenIds temperature vocabSize k b).sum := by
  apply lt_of_lt_of_le noticeable
  apply List.single_le_sum
  · intro exponential member
    obtain ⟨slot, _, rfl⟩ := List.mem_map.mp member
    exact (runtime.exp_pos _).le
  · have largest := (maxElement_spec (slotLogit logits topkTokenIds vocabSize k b) someId).1
    apply List.mem_map.mpr
    refine ⟨_, List.mem_range.mpr largest, ?_⟩
    rw [maxLogitValue, sub_self, zero_div]

/-- A probability that no other exceeds is at least the uniform one. -/
theorem uniform_le_of_largest {largest : R} (someId : 0 < k)
    (above : ∀ slot < k,
      (rowProbabilities runtime logits topkTokenIds temperature vocabSize k b).getD slot 0 ≤
        largest) :
    1 / (k : R) ≤ largest := by
  have positive : (0 : R) < k := by exact_mod_cast someId
  have length := rowProbabilities_length runtime logits topkTokenIds temperature vocabSize k b
  have bounded := List.sum_le_card_nsmul
    (rowProbabilities runtime logits topkTokenIds temperature vocabSize k b) largest (by
      intro probability member
      obtain ⟨slot, inBounds, rfl⟩ := List.getElem_of_mem member
      have entry := above slot (by omega)
      rw [List.getD_eq_getElem?_getD, List.getElem?_eq_getElem inBounds] at entry
      exact entry)
  rw [rowProbabilities_sum _ _ _ _ _ _ someId, length, nsmul_eq_mul] at bounded
  rw [div_le_iff₀ positive, mul_comm]
  exact bounded

end Row

/-! ## The sampled slot -/

/-- A sampled id with its score, for a row with the given ids and probabilities: one of the
shortest prefix, in descending order of probability, that reaches `p`. -/
def IsSampled (p : R) (ids : List Nat) (probabilities : List R) (id : Nat) (score : R) : Prop :=
  ∃ order : List Nat, order.Perm (List.range ids.length) ∧
    (order.Pairwise fun before behind =>
      probabilities.getD behind 0 ≤ probabilities.getD before 0) ∧
    ∃ size, IsShortestPrefix p (order.map fun slot => probabilities.getD slot 0) size ∧
      ∃ slot ∈ order.take size, ids[slot]? = some id ∧ probabilities[slot]? = some score

/-- A row with a single id. -/
theorem isSampled_single (p : R) (id : Nat) : IsSampled p [id] [1] id 1 := by
  refine ⟨[0], List.Perm.refl _, List.pairwise_singleton _ _, 1, ?_, 0, ?_, rfl, rfl⟩
  · constructor
    · exact Nat.one_pos
    · exact Nat.le_refl 1
    · intro fewer positive small
      omega
    · exact Or.inr rfl
  · exact List.mem_singleton.mpr rfl

/-- With no bound to reach, the sampled slot has the largest probability. -/
theorem IsSampled.largest {p : R} {ids : List Nat} {probabilities : List R} {id : Nat}
    {score : R} (sampled : IsSampled p ids probabilities id score)
    (reached : ∀ slot < ids.length, p ≤ probabilities.getD slot 0) :
    ∃ slot < ids.length, ids[slot]? = some id ∧
      ∀ other < ids.length, probabilities.getD other 0 ≤ probabilities.getD slot 0 := by
  obtain ⟨order, perm, ordered, size, shortest, slot, inPrefix, idAt, _⟩ := sampled
  cases order with
  | nil =>
      rw [List.take_nil] at inPrefix
      cases inPrefix
  | cons first rest =>
      have firstBelow : first < ids.length :=
        List.mem_range.mp (perm.subset List.mem_cons_self)
      have single : size = 1 := shortest.eq_one rfl (reached first firstBelow)
      rw [single, List.take_succ_cons, List.take_zero, List.mem_singleton] at inPrefix
      subst inPrefix
      refine ⟨slot, firstBelow, idAt, fun other below => ?_⟩
      have member : other ∈ slot :: rest := perm.symm.subset (List.mem_range.mpr below)
      rcases List.mem_cons.mp member with same | behind
      · rw [same]
      · exact (List.pairwise_cons.mp ordered).1 other behind

section Rows

variable (runtime : SamplingRuntime R) {logits : List R} {topkTokenIds : List Nat}
  {vocabSize k batchSize : Nat} {temperature : R}

/-- The rows of `Softmax` for `k` ids a row. -/
theorem softmax_rows (sized : logits.length = batchSize * vocabSize) (someRow : 0 < batchSize)
    (someLogit : 0 < vocabSize) (idCount : topkTokenIds.length = batchSize * k)
    (warm : 0 ≤ temperature) :
    ∃ probabilities maxLogitValues,
      softmax runtime logits topkTokenIds temperature batchSize =
        .ok (probabilities, maxLogitValues) ∧
      ∀ b < batchSize, block k probabilities b =
        rowProbabilities runtime logits topkTokenIds temperature vocabSize k b := by
  have nonempty : logits.isEmpty = false := by
    rw [List.isEmpty_eq_false_iff]
    apply List.ne_nil_of_length_pos
    rw [sized]
    exact Nat.mul_pos someRow someLogit
  have multiple : logits.length % batchSize = 0 := by
    rw [sized, Nat.mul_mod_right]
  have width : logits.length / batchSize = vocabSize := by
    rw [sized, Nat.mul_div_cancel_left _ someRow]
  have slots : topkTokenIds.length / batchSize = k := by
    rw [idCount, Nat.mul_div_cancel_left _ someRow]
  rw [softmax, nonempty, if_neg Bool.false_ne_true, if_neg (not_not.mpr multiple),
    if_neg (not_lt.mpr warm), width, slots]
  refine ⟨_, _, rfl, fun b below => ?_⟩
  exact block_flatMap_range (fun row _ => rowProbabilities_length _ _ _ _ _ _ row) below

/-- The slot of the largest logit of the selected ids has the largest logit of its row. -/
theorem logitAt_le_of_slot {b slot id : Nat}
    (top : IsTop (logitAt logits vocabSize b) vocabSize k (block k topkTokenIds b))
    (inRow : slot < k) (idAt : (block k topkTokenIds b)[slot]? = some id)
    (largest : ∀ other < k, slotLogit logits topkTokenIds vocabSize k b other ≤
      slotLogit logits topkTokenIds vocabSize k b slot) :
    ∀ other < vocabSize, logitAt logits vocabSize b other ≤ logitAt logits vocabSize b id := by
  have logitOf : ∀ place token, (block k topkTokenIds b)[place]? = some token → place < k →
      slotLogit logits topkTokenIds vocabSize k b place = logitAt logits vocabSize b token := by
    intro place token tokenAt below
    rw [slotLogit, getD_block _ _ _ below, List.getD_eq_getElem?_getD, tokenAt,
      Option.getD_some]
  apply top.le_of_largest (List.mem_of_getElem? idAt)
  intro other member
  obtain ⟨place, placeAt⟩ := List.getElem?_of_mem member
  have below : place < k := by
    rw [← top.length_eq]
    exact (List.getElem?_eq_some_iff.mp placeAt).1
  rw [← logitOf place other placeAt below, ← logitOf slot id idAt inRow]
  exact largest place below

end Rows

variable [IsStrictOrderedRing R]

/-- The body of the loop over the rows: where some probability is not negligible, the drawn
value is located in the prefix. -/
theorem isSampled_sampleRow (runtime : SamplingRuntime R) (input : SamplingInput R)
    (draw : Nat → R → R) (previous : R) (b : Nat) {ids : List Nat} {probabilities : List R}
    (idRow : block input.k input.topkTokenIds b = ids) (idCount : ids.length = input.k)
    (probabilityRow : block input.k input.probabilities b = probabilities)
    (probabilityCount : probabilities.length = input.k) (someId : 0 < input.k)
    (nonneg : ∀ slot < input.k, 0 ≤ probabilities.getD slot 0)
    (noticeable : ∀ largest, (∀ slot < input.k, probabilities.getD slot 0 ≤ largest) →
      doubleEpsilon < largest)
    (drawn : ∀ cumulative, 0 ≤ cumulative → draw b cumulative ≤ cumulative) :
    IsSampled input.p ids probabilities (input.sampleRow runtime draw previous b).1
      (input.sampleRow runtime draw previous b).2 := by
  have weak := descending_strictWeak (input.probability b)
  have perm := runtime.algorithms.sort_perm _ weak (List.range input.k)
  have sorted := runtime.algorithms.sort_sorts _ weak (List.range input.k)
  rw [SamplingInput.sampleRow, SamplingInput.indexOfTopk]
  generalize runtime.algorithms.sort (descending (input.probability b))
    (List.range input.k) = order at *
  have below : ∀ slot ∈ order, slot < input.k :=
    fun slot member => List.mem_range.mp (perm.subset member)
  have entry : ∀ slot < input.k, input.probability b slot = probabilities.getD slot 0 := by
    intro slot inRow
    rw [SamplingInput.probability, getD_block _ _ _ inRow, probabilityRow]
  have weights : order.map (input.probability b) =
      order.map fun slot => probabilities.getD slot 0 :=
    List.map_congr_left fun slot member => entry slot (below slot member)
  have ordered : order.Pairwise fun before behind =>
      probabilities.getD behind 0 ≤ probabilities.getD before 0 := by
    apply sorted.imp_of_mem
    intro before behind beforeIn behindIn kept
    rw [← entry before (below before beforeIn), ← entry behind (below behind behindIn)]
    exact descending_eq_false.mp kept
  have someSlot : order ≠ [] := by
    apply List.ne_nil_of_length_pos
    rw [perm.length_eq, List.length_range]
    exact someId
  have someWeight : (order.map fun slot => probabilities.getD slot 0) ≠ [] := by
    simpa using someSlot
  obtain ⟨size, stops, shortest⟩ := reach_shortest input.p someWeight
  rw [weights, stops]
  -- The prefix has at least the largest probability.
  have cumulative : doubleEpsilon <
      ((order.map fun slot => probabilities.getD slot 0).take size).sum := by
    obtain ⟨first, rest, rfl⟩ := List.exists_cons_of_ne_nil someSlot
    have largest : doubleEpsilon < probabilities.getD first 0 := by
      apply noticeable
      intro slot inRow
      have member : slot ∈ first :: rest := perm.symm.subset (List.mem_range.mpr inRow)
      rcases List.mem_cons.mp member with same | behind
      · rw [same]
      · exact (List.pairwise_cons.mp ordered).1 slot behind
    apply lt_of_lt_of_le largest
    apply shortest.head_le_sum _ rfl
    intro weight member
    obtain ⟨slot, inOrder, rfl⟩ := List.mem_map.mp member
    exact nonneg slot (below slot inOrder)
  have negligible : (0 : R) ≤ doubleEpsilon := by
    unfold doubleEpsilon
    positivity
  simp only [if_neg (not_le.mpr cumulative)]
  have somePrefix : (order.map fun slot => probabilities.getD slot 0).take size ≠ [] := by
    intro none
    rw [none, List.sum_nil] at cumulative
    exact absurd negligible (not_le.mpr cumulative)
  have within : draw b ((order.map fun slot => probabilities.getD slot 0).take size).sum ≤
      0 + ((order.map fun slot => probabilities.getD slot 0).take size).sum := by
    rw [zero_add]
    exact drawn _ (le_trans negligible cumulative.le)
  obtain ⟨position, inPrefix, located⟩ := locate_of_le somePrefix within
  rw [located]
  rw [List.length_take, List.length_map] at inPrefix
  have inOrder : position < order.length := by omega
  have slotAt : order.getD position 0 = order[position] := by
    rw [List.getD_eq_getElem?_getD, List.getElem?_eq_getElem inOrder, Option.getD_some]
  have slotBelow : order[position] < input.k := below _ (List.getElem_mem inOrder)
  refine ⟨order, ?_, ordered, size, shortest, order[position], ?_, ?_, ?_⟩
  · rw [idCount]
    exact perm
  · apply List.mem_take_iff_getElem.mpr
    exact ⟨position, by omega, rfl⟩
  · simp only [slotAt]
    rw [SamplingInput.tokenId, getD_block _ _ _ slotBelow, idRow, List.getD_eq_getElem?_getD,
      List.getElem?_eq_getElem (by omega), Option.getD_some]
  · simp only [slotAt]
    rw [entry _ slotBelow, List.getD_eq_getElem?_getD, List.getElem?_eq_getElem (by omega),
      Option.getD_some]

/-! ## The sampled ids -/

/-- One row of the results of `TopKTopPSampling`. -/
structure RowSampled (runtime : SamplingRuntime R) (logits : List R) (ids : List Nat)
    (probabilities : List R) (p temperature : R) (vocabSize k b id : Nat) (score : R) : Prop where
  top : IsTop (logitAt logits vocabSize b) vocabSize k (block k ids b)
  sampled : IsSampled p (block k ids b) (block k probabilities b) id score
  largest : (k = 1 ∨ p = 0 ∧
      floatEpsilon < (rowExponentials runtime logits ids temperature vocabSize k b).sum) →
    ∀ other < vocabSize, logitAt logits vocabSize b other ≤ logitAt logits vocabSize b id

/-- A row that is sampled greedily. -/
theorem rowSampled_greedy (runtime : SamplingRuntime R) {logits : List R} {ids : List Nat}
    {probabilities : List R} (p temperature : R) {vocabSize b id : Nat}
    (idAt : ids[b]? = some id)
    (top : IsTop (logitAt logits vocabSize b) vocabSize 1 (block 1 ids b))
    (probabilityRow : block 1 probabilities b =
      rowProbabilities runtime logits ids temperature vocabSize 1 b) :
    RowSampled runtime logits ids probabilities p temperature vocabSize 1 b id 1 := by
  have idRow : block 1 ids b = [id] := by
    obtain ⟨only, single⟩ := List.length_eq_one_iff.mp top.length_eq
    have first := getElem?_block ids b Nat.one_pos
    rw [single, Nat.mul_one, Nat.add_zero, idAt] at first
    rw [single, Option.some.inj first]
  have certain : block 1 probabilities b = [1] := by
    have length := rowProbabilities_length runtime logits ids temperature vocabSize 1 b
    have sum := rowProbabilities_sum runtime logits ids temperature vocabSize b Nat.one_pos
    obtain ⟨only, single⟩ := List.length_eq_one_iff.mp length
    rw [single, List.sum_singleton] at sum
    rw [probabilityRow, single, sum]
  constructor
  · exact top
  · rw [idRow, certain]
    exact isSampled_single p id
  · intro _
    apply top.le_of_largest
    · rw [idRow]
      exact List.mem_singleton.mpr rfl
    · intro other member
      rw [idRow, List.mem_singleton] at member
      rw [member]

/-- A row that is sampled in the loop. -/
theorem rowSampled_sampleRow (runtime : SamplingRuntime R) (input : SamplingInput R)
    (draw : Nat → R → R) (previous : R) {b : Nat} (someId : 0 < input.k)
    (fewIds : input.k < 2 ^ 31)
    (top : IsTop (logitAt input.logits input.vocabSize b) input.vocabSize input.k
      (block input.k input.topkTokenIds b))
    (probabilityRow : block input.k input.probabilities b =
      rowProbabilities runtime input.logits input.topkTokenIds input.temperature
        input.vocabSize input.k b)
    (several : input.k ≠ 1)
    (drawn : ∀ cumulative, 0 ≤ cumulative → draw b cumulative ≤ cumulative) :
    RowSampled runtime input.logits input.topkTokenIds input.probabilities input.p
      input.temperature input.vocabSize input.k b (input.sampleRow runtime draw previous b).1
      (input.sampleRow runtime draw previous b).2 := by
  have positive : ∀ slot < input.k, 0 < (block input.k input.probabilities b).getD slot 0 := by
    intro slot inRow
    rw [probabilityRow]
    exact rowProbabilities_pos _ _ _ _ _ _ inRow
  have noticeable : ∀ largest,
      (∀ slot < input.k, (block input.k input.probabilities b).getD slot 0 ≤ largest) →
        doubleEpsilon < largest := by
    intro largest above
    rw [probabilityRow] at above
    have uniform := uniform_le_of_largest _ _ _ _ _ _ someId above
    have count : (0 : R) < input.k := by exact_mod_cast someId
    have few : (input.k : R) < 2 ^ 52 := by
      have fewer : input.k < 2 ^ 52 := by omega
      exact_mod_cast fewer
    have epsilon : doubleEpsilon < 1 / (input.k : R) := by
      unfold doubleEpsilon
      exact one_div_lt_one_div_of_lt count few
    exact lt_of_lt_of_le epsilon uniform
  have probabilityCount : (block input.k input.probabilities b).length = input.k := by
    rw [probabilityRow, rowProbabilities_length]
  have sampled := isSampled_sampleRow runtime input draw previous b rfl top.length_eq rfl
    probabilityCount someId (fun slot inRow => (positive slot inRow).le) noticeable drawn
  constructor
  · exact top
  · exact sampled
  · intro cause
    obtain ⟨zero, enough⟩ := cause.resolve_left several
    have reached : ∀ slot < (block input.k input.topkTokenIds b).length,
        input.p ≤ (block input.k input.probabilities b).getD slot 0 := by
      intro slot inRow
      rw [zero]
      exact (positive slot (by rw [← top.length_eq]; exact inRow)).le
    obtain ⟨slot, inRow, idAt, largest⟩ := sampled.largest reached
    rw [top.length_eq] at inRow largest
    apply logitAt_le_of_slot top inRow idAt
    intro other below
    have ordered := largest other below
    rw [probabilityRow] at ordered
    exact slotLogit_le_of_probability_le _ _ _ _ _ _ below inRow enough ordered

/-- Sampling picks, for every row, an id of the shortest prefix of the largest logits that
reaches `p`, with its probability. The largest logit is picked for `k = 1`, and for `p = 0`
where the exponentials do not vanish. -/
theorem topKTopPSampling_picks (runtime : SamplingRuntime R) {logits : List R}
    {vocabSize k batchSize : Nat} {p temperature : R} {draw : Nat → R → R}
    (sampledScores : List R) (sized : logits.length = batchSize * vocabSize)
    (someRow : 0 < batchSize) (someId : 1 ≤ k) (within : k ≤ vocabSize)
    (vocabSizeIsInt : vocabSize < 2 ^ 31) (pNonneg : 0 ≤ p) (pLe : p ≤ 1)
    (warm : 0 ≤ temperature)
    (drawn : ∀ b cumulative, 0 ≤ cumulative →
      0 ≤ draw b cumulative ∧ draw b cumulative ≤ cumulative) :
    ∃ ids probabilities maxLogitValues sampledIds scores,
      topKTokenIds runtime logits k batchSize = .ok ids ∧
      softmax runtime logits ids temperature batchSize = .ok (probabilities, maxLogitValues) ∧
      topKTopPSampling runtime logits k p temperature draw batchSize sampledScores =
        .ok (sampledIds, scores) ∧
      ids.length = batchSize * k ∧ sampledIds.length = batchSize ∧ scores.length = batchSize ∧
      ∀ b < batchSize, ∃ id score, sampledIds[b]? = some id ∧ scores[b]? = some score ∧
        RowSampled runtime logits ids probabilities p temperature vocabSize k b id score := by
  obtain ⟨ids, selected, idCount, tops⟩ :=
    topKTokenIds_rows runtime sized someRow someId within
  obtain ⟨probabilities, maxLogitValues, normalised, probabilityRows⟩ :=
    softmax_rows runtime sized someRow (by omega) idCount warm
  have nonempty : logits.isEmpty = false := by
    rw [List.isEmpty_eq_false_iff]
    apply List.ne_nil_of_length_pos
    rw [sized]
    exact Nat.mul_pos someRow (by omega)
  have multiple : logits.length % batchSize = 0 := by
    rw [sized, Nat.mul_mod_right]
  have width : logits.length / batchSize = vocabSize := by
    rw [sized, Nat.mul_div_cancel_left _ someRow]
  have fewIds : k < 2 ^ 31 := by omega
  have bounded : ¬(p < 0 ∨ p > 1) := not_or.mpr ⟨not_lt.mpr pNonneg, not_lt.mpr pLe⟩
  refine ⟨ids, probabilities, maxLogitValues, ?_⟩
  rw [topKTopPSampling, nonempty, if_neg Bool.false_ne_true, if_neg (not_not.mpr multiple),
    if_neg (by omega), if_neg bounded, width]
  simp only [Nat.min_eq_left within, selected, normalised, bind, Except.bind]
  by_cases greedy : k = 1
  · subst greedy
    rw [if_pos rfl]
    rw [Nat.mul_one] at idCount
    refine ⟨ids, List.replicate batchSize 1, trivial, trivial, rfl, by omega, idCount,
      List.length_replicate, fun b below => ?_⟩
    refine ⟨ids[b], 1, List.getElem?_eq_getElem (by omega), ?_, ?_⟩
    · rw [List.getElem?_replicate, if_pos below]
    · exact rowSampled_greedy runtime p temperature (List.getElem?_eq_getElem (by omega))
        (tops b below) (probabilityRows b below)
  · rw [if_neg greedy]
    refine ⟨_, _, trivial, trivial, rfl, idCount, by simp, by simp, fun b below => ?_⟩
    refine ⟨_, _, ?_, ?_, rowSampled_sampleRow runtime
      { logits, topkTokenIds := ids, probabilities, maxLogitValues, vocabSize, k, p,
        temperature } draw (sampledScores.getD b 0) someId fewIds (tops b below)
      (probabilityRows b below) greedy fun cumulative nonneg => (drawn b cumulative nonneg).2⟩
    · rw [List.map_map, List.getElem?_map, List.getElem?_range below]
      rfl
    · rw [List.map_map, List.getElem?_map, List.getElem?_range below]
      rfl

/-! ## A rational runtime -/

/-- A strictly increasing positive function with the value `scale` at 0. -/
def rationalExp (scale value : ℚ) : ℚ :=
  if value ≤ 0 then scale / (1 - value) else scale * (1 + value)

theorem rationalExp_pos {scale : ℚ} (positive : 0 < scale) (value : ℚ) :
    0 < rationalExp scale value := by
  unfold rationalExp
  split
  next low => exact div_pos positive (by linarith)
  next high => exact mul_pos positive (by linarith)

theorem rationalExp_strictMono {scale : ℚ} (positive : 0 < scale) :
    StrictMono (rationalExp scale) := by
  intro first second increase
  unfold rationalExp
  split
  next firstLow =>
    split
    next secondLow => exact div_lt_div_of_pos_left positive (by linarith) (by linarith)
    next secondHigh =>
      have small : scale / (1 - first) ≤ scale := div_le_self positive.le (by linarith)
      have large : scale < scale * (1 + second) := lt_mul_of_one_lt_right positive (by linarith)
      exact lt_of_le_of_lt small large
  next firstHigh =>
    rw [if_neg (by linarith)]
    exact mul_lt_mul_of_pos_left (by linarith) positive

def rationalRuntime (scale : ℚ) (positive : 0 < scale) : SamplingRuntime ℚ where
  algorithms := insertionAlgorithms Nat
  exp := rationalExp scale
  strCat := toString
  exp_pos := rationalExp_pos positive
  exp_strictMono := rationalExp_strictMono positive

/-- Two rows, each with the ids of two of three logits. -/
theorem topKTopPSampling_picks_two_rows :
    ∃ ids probabilities maxLogitValues sampledIds scores,
      topKTokenIds (rationalRuntime 1 one_pos) [0, 2, 1, 3, 3, 2] 2 2 = .ok ids ∧
      softmax (rationalRuntime 1 one_pos) [0, 2, 1, 3, 3, 2] ids 1 2 =
        .ok (probabilities, maxLogitValues) ∧
      topKTopPSampling (rationalRuntime 1 one_pos) [0, 2, 1, 3, 3, 2] 2 (1 / 2) 1
          (fun _ cumulative => cumulative / 2) 2 [] = .ok (sampledIds, scores) ∧
      ids.length = 2 * 2 ∧ sampledIds.length = 2 ∧ scores.length = 2 ∧
      ∀ b < 2, ∃ id score, sampledIds[b]? = some id ∧ scores[b]? = some score ∧
        RowSampled (rationalRuntime 1 one_pos) [0, 2, 1, 3, 3, 2] ids probabilities (1 / 2) 1
          3 2 b id score :=
  topKTopPSampling_picks (rationalRuntime 1 one_pos) [] rfl (by decide) (by decide) (by decide)
    (by decide) (by norm_num) (by norm_num) (by norm_num) (by
      intro _ cumulative nonneg
      constructor <;> linarith)

/-- Where all exponentials are negligible, the probabilities are uniform, and `p = 0` picks
the first id, whatever its logit. -/
theorem topKTopPSampling_zero_p_not_largest :
    topKTopPSampling (rationalRuntime (1 / 2 ^ 30) (by norm_num)) [0, 1] 2 0 1
        (fun _ cumulative => cumulative / 2) 1 [] = .ok ([0], [1 / 2]) ∧
      ¬ ∀ other < 2, logitAt [0, 1] 2 0 other ≤ (logitAt [0, 1] 2 0 0 : ℚ) := by
  decide +kernel

end LiteRTLM.Components.Sampling
