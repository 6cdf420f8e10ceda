import LiteRTLM.Components.Sampling.FloatSampling
import LiteRTLM.Components.Sampling.SampledSet

/-!
Contract: `ComputeLogLikelihood` of `scoring_cpu_util.cc`.

Owns: the likelihoods of the sampled ids of a batch, their meaning as logarithms of the softmax
over the whole vocabulary in the arithmetic of `float`, and what that softmax is in exact
arithmetic.

Does not own: any rounding.
-/

namespace LiteRTLM.Components.FloatSampling

open LiteRTLM.Engine
open LiteRTLM.Library.Blocks
open LiteRTLM.Components.Sampling (getD_block)
open LiteRTLM.Library.PartialSelection (Algorithms)

variable {F : Type} (floats : FloatOperations F)

def computeLogLikelihood (algorithms : Algorithms Nat) (logits : List F)
    (sampledIds : List Int) (temperature : F) : StatusOr (List F) :=
  let batchSize := sampledIds.length
  let vocabSize := logits.length / batchSize
  match sampledIds.find? fun id => id < 0 ∨ id ≥ (vocabSize : Int) with
  | some id => .error (.invalidArgumentError s!"Invalid sampled id: {id}")
  | none => do
      let allTokenIds ← topKTokenIds floats algorithms logits vocabSize batchSize
      let (allProbabilities, _) ← softmax floats logits allTokenIds temperature batchSize
      return (List.range batchSize).map fun b =>
        let sampledId := sampledIds.getD b 0
        if sampledId ≥ 0 ∧ sampledId < vocabSize then
          floats.log (allProbabilities.getD (b * vocabSize + sampledId.toNat) floats.zero)
        else
          floats.zero

/-! ## Softmax over the vocabulary -/

/-- The softmax of a row of logits, against its first largest logit. -/
def softmaxRow (temperature : F) (row : List F) : List F :=
  let logit := fun id => row.getD id floats.zero
  let largest := maxElement (fun first second => floats.lt (logit first) (logit second)) row.length
  normalize floats largest
    (row.map fun value => floats.exp (floats.div (floats.sub value (logit largest)) temperature))

/-- Partitioning at the end of a range does nothing. -/
def KeepsWhole (algorithms : Algorithms Nat) : Prop :=
  ∀ comparator elements,
    algorithms.nthElement comparator elements.length elements = elements

theorem maxElement_one (less : Nat → Nat → Bool) : maxElement less 1 = 0 :=
  ite_self 0

/-- Only the comparisons of positions in the range count, and the result is one of them. -/
theorem maxElement_congr {less other : Nat → Nat → Bool} {size : Nat} (nonempty : 0 < size)
    (agree : ∀ first < size, ∀ second < size, less first second = other first second) :
    maxElement less size = maxElement other size ∧ maxElement less size < size := by
  have fold : ∀ positions : List Nat, (∀ position ∈ positions, position < size) →
      ∀ largest < size,
        positions.foldl (fun largest position =>
            if less largest position then position else largest) largest =
          positions.foldl (fun largest position =>
            if other largest position then position else largest) largest ∧
        positions.foldl (fun largest position =>
            if less largest position then position else largest) largest < size := by
    intro positions
    induction positions with
    | nil => exact fun _ largest below => ⟨rfl, below⟩
    | cons position rest inductionHypothesis =>
        intro inRange largest below
        have positionBelow := inRange position List.mem_cons_self
        rw [List.foldl_cons, List.foldl_cons, agree largest below position positionBelow]
        apply inductionHypothesis fun later inRest => inRange later (List.mem_cons_of_mem _ inRest)
        split
        · exact positionBelow
        · exact below
  exact fold _ (fun _ member => List.mem_range.mp member) 0 nonempty

/-- With all ids asked for, they come back in the order of the vocabulary. -/
theorem topKTokenIds_whole {algorithms : Algorithms Nat} (keepsWhole : KeepsWhole algorithms)
    {logits : List F} {vocabSize batchSize : Nat}
    (sized : logits.length = batchSize * vocabSize) (someRow : 0 < batchSize) :
    ∃ ids, topKTokenIds floats algorithms logits vocabSize batchSize = .ok ids ∧
      ids.length = batchSize * vocabSize ∧
      ∀ b < batchSize, block vocabSize ids b = List.range vocabSize := by
  have multiple : logits.length % batchSize = 0 := by
    rw [sized, Nat.mul_mod_right]
  have width : logits.length / batchSize = vocabSize := by
    rw [sized, Nat.mul_div_cancel_left _ someRow]
  rw [topKTokenIds, if_neg (not_not.mpr multiple), width]
  by_cases single : vocabSize = 1
  · subst single
    simp only [if_true, maxElement_one]
    rw [List.map_eq_flatMap]
    have only : ∀ b < batchSize, [0].length = 1 := fun _ _ => rfl
    exact ⟨_, rfl, length_flatMap_range only, fun b below => block_flatMap_range only below⟩
  · rw [if_neg single]
    have whole : ∀ comparator, (algorithms.nthElement comparator vocabSize
        (List.range vocabSize)).take vocabSize = List.range vocabSize := by
      intro comparator
      have kept := keepsWhole comparator (List.range vocabSize)
      rw [List.length_range] at kept
      rw [kept, List.take_of_length_le (by rw [List.length_range])]
    simp only [whole]
    have rows : ∀ b < batchSize, (List.range vocabSize).length = vocabSize :=
      fun _ _ => List.length_range
    exact ⟨_, rfl, length_flatMap_range rows, fun b below => block_flatMap_range rows below⟩

/-- The probabilities of a row of all ids are its softmax. -/
theorem rowProbabilities_whole {logits : List F} {ids : List Nat} (temperature : F)
    {vocabSize batchSize b : Nat} (sized : logits.length = batchSize * vocabSize)
    (below : b < batchSize) (someLogit : 0 < vocabSize)
    (whole : block vocabSize ids b = List.range vocabSize) :
    rowProbabilities floats logits ids temperature vocabSize vocabSize b =
      softmaxRow floats (currentTemp floats temperature) (block vocabSize logits b) := by
  have length := block_length sized below
  have logitOf : ∀ slot < vocabSize, slotLogit floats logits ids vocabSize vocabSize b slot =
      (block vocabSize logits b).getD slot floats.zero := by
    intro slot inRow
    have same : ids.getD (b * vocabSize + slot) 0 = slot := by
      rw [getD_block _ _ _ inRow, whole, List.getD_eq_getElem?_getD, List.getElem?_range inRow,
        Option.getD_some]
    rw [slotLogit, same, logitAt, getD_block _ _ _ inRow]
  have agree : ∀ first < vocabSize, ∀ second < vocabSize,
      floats.lt (slotLogit floats logits ids vocabSize vocabSize b first)
          (slotLogit floats logits ids vocabSize vocabSize b second) =
        floats.lt ((block vocabSize logits b).getD first floats.zero)
          ((block vocabSize logits b).getD second floats.zero) := by
    intro first firstIn second secondIn
    rw [logitOf first firstIn, logitOf second secondIn]
  obtain ⟨same, inRow⟩ := maxElement_congr someLogit agree
  rw [rowProbabilities, maxLogitValue, maxLogitIdx, logitOf _ inRow, same, softmaxRow, length]
  congr 1
  apply List.ext_getElem?
  intro slot
  rw [List.getElem?_map, List.getElem?_map]
  by_cases inVocabulary : slot < vocabSize
  · rw [List.getElem?_range inVocabulary, List.getElem?_eq_getElem (by omega), Option.map_some,
      Option.map_some, logitOf slot inVocabulary, List.getD_eq_getElem?_getD,
      List.getElem?_eq_getElem (by omega), Option.getD_some]
  · rw [List.getElem?_eq_none (by rw [List.length_range]; omega),
      List.getElem?_eq_none (by omega)]
    rfl

variable {floats}

theorem length_normalize (largest : Nat) (exponentials : List F) :
    (normalize floats largest exponentials).length = exponentials.length := by
  rw [normalize]
  split
  · exact List.length_replicate
  · split
    · rw [List.length_map, List.length_range]
    · rw [List.length_map]

/-- The rows of `Softmax` for `k` ids a row. -/
theorem softmax_rows {logits : List F} {topkTokenIds : List Nat} {vocabSize k batchSize : Nat}
    {temperature : F} (sized : logits.length = batchSize * vocabSize) (someRow : 0 < batchSize)
    (someLogit : 0 < vocabSize) (idCount : topkTokenIds.length = batchSize * k)
    (warm : floats.lt temperature floats.zero = false) :
    ∃ probabilities maxLogitValues,
      softmax floats logits topkTokenIds temperature batchSize =
        .ok (probabilities, maxLogitValues) ∧
      ∀ b < batchSize, block k probabilities b =
        rowProbabilities floats logits topkTokenIds temperature vocabSize k b := by
  have nonempty : logits.isEmpty = false := by
    rw [List.isEmpty_eq_false_iff]
    apply List.ne_nil_of_length_pos
    rw [sized]
    exact Nat.mul_pos someRow someLogit
  have multiple : logits.length % batchSize = 0 := by
    rw [sized, Nat.mul_mod_right]
  have width : logits.length / batchSize = vocabSize := by
    rw [sized, Nat.mul_div_cancel_left _ someRow]
  have slots : topkTokenIds.length / batchSize = k := by
    rw [idCount, Nat.mul_div_cancel_left _ someRow]
  have rows : ∀ b < batchSize,
      (rowProbabilities floats logits topkTokenIds temperature vocabSize k b).length = k := by
    intro b _
    rw [rowProbabilities, length_normalize, List.length_map, List.length_range]
  rw [softmax, nonempty, if_neg Bool.false_ne_true, if_neg (not_not.mpr multiple), warm,
    if_neg Bool.false_ne_true, width, slots]
  exact ⟨_, _, rfl, fun b below => block_flatMap_range rows below⟩

/-- The likelihoods of ids of the vocabulary. -/
theorem computeLogLikelihood_eq_ok {algorithms : Algorithms Nat}
    (keepsWhole : KeepsWhole algorithms) {logits : List F} {sampledIds : List Int}
    {temperature : F} {vocabSize : Nat} (sized : logits.length = sampledIds.length * vocabSize)
    (someRow : 0 < sampledIds.length) (warm : floats.lt temperature floats.zero = false)
    (inVocabulary : ∀ id ∈ sampledIds, 0 ≤ id ∧ id < vocabSize) :
    ∃ likelihoods,
      computeLogLikelihood floats algorithms logits sampledIds temperature = .ok likelihoods ∧
      ∀ b < sampledIds.length, likelihoods.getD b floats.zero =
        floats.log ((softmaxRow floats (currentTemp floats temperature)
          (block vocabSize logits b)).getD (sampledIds.getD b 0).toNat floats.zero) := by
  have width : logits.length / sampledIds.length = vocabSize := by
    rw [sized, Nat.mul_div_cancel_left _ someRow]
  have someLogit : 0 < vocabSize := by
    have first := inVocabulary sampledIds[0] (List.getElem_mem someRow)
    omega
  have valid : (sampledIds.find? fun id => id < 0 ∨ id ≥ (vocabSize : Int)) = none := by
    apply List.find?_eq_none.mpr
    intro id member
    have bounds := inVocabulary id member
    simp only [decide_eq_true_eq, not_or]
    omega
  obtain ⟨ids, selected, idCount, whole⟩ :=
    topKTokenIds_whole floats keepsWhole sized someRow
  obtain ⟨probabilities, maxLogitValues, normalised, rows⟩ :=
    softmax_rows sized someRow someLogit idCount warm
  simp only [computeLogLikelihood, width, valid, selected, normalised, bind, Except.bind, pure,
    Except.pure]
  refine ⟨_, rfl, fun b below => ?_⟩
  have bounds := inVocabulary sampledIds[b] (List.getElem_mem below)
  have sampledId : sampledIds.getD b 0 = sampledIds[b] := by
    rw [List.getD_eq_getElem?_getD, List.getElem?_eq_getElem below, Option.getD_some]
  have inRow : sampledIds[b].toNat < vocabSize := by omega
  rw [List.getD_eq_getElem?_getD, List.getElem?_map, List.getElem?_range below, Option.map_some,
    Option.getD_some, sampledId, if_pos bounds, getD_block _ _ _ inRow, rows b below,
    rowProbabilities_whole floats temperature sized below someLogit (whole b below)]

/-! ## Exact arithmetic -/

section Exact

open LiteRTLM.Components.Sampling (SamplingRuntime)

variable {R : Type} [Field R] [LinearOrder R]

/-- The softmax of a row of logits at an id. -/
def softmaxAt (exp : R → R) (temperature : R) (row : List R) (id : Nat) : R :=
  exp (row.getD id 0 / temperature) / (row.map fun logit => exp (logit / temperature)).sum

/-- Normalising against the largest logit does not change the softmax. -/
theorem softmaxAt_eq_shifted {exp : R → R} (pos : ∀ value, 0 < exp value)
    (add : ∀ first second, exp (first + second) = exp first * exp second)
    (temperature shift : R) (row : List R) (id : Nat) :
    softmaxAt exp temperature row id =
      exp ((row.getD id 0 - shift) / temperature) *
        (1 / (row.map fun logit => exp ((logit - shift) / temperature)).sum) := by
  have split : ∀ logit, exp (logit / temperature) =
      exp ((logit - shift) / temperature) * exp (shift / temperature) := by
    intro logit
    rw [← add, ← add_div, sub_add_cancel]
  have sum : (row.map fun logit => exp (logit / temperature)).sum =
      (row.map fun logit => exp ((logit - shift) / temperature)).sum *
        exp (shift / temperature) := by
    rw [← List.sum_map_mul_right]
    exact congrArg List.sum (List.map_congr_left fun logit _ => split logit)
  rw [softmaxAt, split, sum, mul_div_mul_right _ _ (pos _).ne', mul_one_div]

variable [IsStrictOrderedRing R]

/-- Without rounding, the softmax of a row is that of exact arithmetic. -/
theorem softmaxRow_exact (runtime : SamplingRuntime R) (log : R → R)
    (add : ∀ first second, runtime.exp (first + second) = runtime.exp first * runtime.exp second)
    (temperature : R) {row : List R} {id : Nat} (inRow : id < row.length) :
    (softmaxRow (exactFloats runtime log) (Sampling.currentTemp temperature) row).getD id 0 =
      softmaxAt runtime.exp (Sampling.currentTemp temperature) row id := by
  have someLogit : 0 < row.length := by omega
  have all : ∀ {α : Type} (data : List α), data.length = row.length →
      block row.length data 0 = data := by
    intro α data length
    simp [block, Library.ByteImage.slice, ← length]
  have logitOf : ∀ slot < row.length,
      Sampling.slotLogit row (List.range row.length) row.length row.length 0 slot =
        row.getD slot 0 := by
    intro slot below
    have same : (List.range row.length).getD slot 0 = slot := by
      rw [List.getD_eq_getElem?_getD, List.getElem?_range below, Option.getD_some]
    rw [Sampling.slotLogit, Sampling.logitAt, Nat.zero_mul, Nat.zero_add, Nat.zero_add, same]
  have whole := rowProbabilities_whole (exactFloats runtime log) temperature
    (Nat.one_mul row.length).symm Nat.one_pos someLogit (all (List.range row.length)
      List.length_range)
  rw [all row rfl, currentTemp_exact, rowProbabilities_exact] at whole
  have one : runtime.exp 0 = 1 := by
    have double := add 0 0
    rw [add_zero] at double
    exact (mul_eq_left₀ (runtime.exp_pos 0).ne').mp double.symm
  have noticeable : Sampling.floatEpsilon < runtime.exp 0 := by
    rw [one]
    unfold Sampling.floatEpsilon
    norm_num
  have enough := Sampling.floatEpsilon_lt_sumOfExps runtime row (List.range row.length)
    temperature row.length 0 someLogit noticeable
  have exponentials : Sampling.rowExponentials runtime row (List.range row.length) temperature
      row.length row.length 0 = row.map fun logit =>
        runtime.exp ((logit - Sampling.maxLogitValue row (List.range row.length) row.length
          row.length 0) / Sampling.currentTemp temperature) := by
    apply List.ext_getElem?
    intro slot
    rw [Sampling.rowExponentials, List.getElem?_map, List.getElem?_map]
    by_cases below : slot < row.length
    · rw [List.getElem?_range below, List.getElem?_eq_getElem below, Option.map_some,
        Option.map_some, logitOf slot below, List.getD_eq_getElem?_getD,
        List.getElem?_eq_getElem below, Option.getD_some]
    · rw [List.getElem?_eq_none (by rw [List.length_range]; omega),
        List.getElem?_eq_none (by omega)]
      rfl
  rw [← whole, Sampling.rowProbabilities_getD _ _ _ _ _ _ _ inRow, if_neg (not_le.mpr enough),
    exponentials, logitOf id inRow, softmaxAt_eq_shifted runtime.exp_pos add]

end Exact

end LiteRTLM.Components.FloatSampling
