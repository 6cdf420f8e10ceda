import LiteRTLM.Library.FirstMaximum
import LiteRTLM.Util.TensorBuffer

/-!
Contract: `ApplyGreedySampling` of the NPU executor.

Owns: the comparison of `float` and `int16_t` logits, the scans over them, and when the index they
return is the first one of a greatest logit.

Does not own: the type of the logits and their copy out of the tensor buffer, either of which may
fail.
-/

namespace LiteRTLM.Executor

open LiteRTLM.Engine
open LiteRTLM.Library
open LiteRTLM.Util

/-! ## Logits -/

/-- The bits of a `float` without the sign. -/
def floatMagnitude (bits : UInt32) : Nat := bits.toNat % 2 ^ 31

def floatIsNaN (bits : UInt32) : Prop := 0x7F800000 < floatMagnitude bits

instance (bits : UInt32) : Decidable (floatIsNaN bits) := Nat.decLt _ _

/-- The place of a `float` in their order; a NaN has none. Both zeros have the same. -/
def floatRank (bits : UInt32) : Option Int :=
  if floatIsNaN bits then none
  else if bits.toNat < 2 ^ 31 then some (floatMagnitude bits)
  else some (-floatMagnitude bits)

/-- `std::numeric_limits<float>::min()`, the smallest positive normal number. -/
def floatMin : UInt32 := 0x00800000

/-- The place of an `int16_t` in their order. -/
def int16Rank (value : Int16) : Option Int := some value.toInt

/-- `std::numeric_limits<int16_t>::min()`. -/
def int16Min : Int16 := Int16.minValue

/-- What the library returns for a tensor buffer with logits: its element type, and its elements
as a vector of one type or the other. -/
structure DecodedLogits where
  elementType : StatusOr ElementType
  copyFloat : StatusOr (List UInt32)
  copyInt16 : StatusOr (List Int16)

/-- A buffer of `float` logits. -/
def DecodedLogits.ofFloats (logits : List UInt32) : DecodedLogits where
  elementType := .ok .float32
  copyFloat := .ok logits
  copyInt16 := .error (.invalidArgumentError "Element type mismatch")

/-- A buffer of `int16_t` logits. -/
def DecodedLogits.ofInt16s (logits : List Int16) : DecodedLogits where
  elementType := .ok .int16
  copyFloat := .error (.invalidArgumentError "Element type mismatch")
  copyInt16 := .ok logits

/-! ## Sampling -/

def applyGreedySampling (decodedLogits : DecodedLogits) : StatusOr Nat := do
  if (← decodedLogits.elementType) = .float32 then
    return firstMaximumFrom floatRank floatMin (← decodedLogits.copyFloat)
  else
    return firstMaximumFrom int16Rank int16Min (← decodedLogits.copyInt16)

theorem applyGreedySampling_ofFloats (logits : List UInt32) :
    applyGreedySampling (.ofFloats logits) = .ok (firstMaximumFrom floatRank floatMin logits) :=
  rfl

theorem applyGreedySampling_ofInt16s (logits : List Int16) :
    applyGreedySampling (.ofInt16s logits) = .ok (firstMaximumFrom int16Rank int16Min logits) :=
  rfl

/-- The first index of a greatest logit is returned. -/
def ReturnsArgmax {Logit : Type} (rank : Logit → Option Int) (logits : List Logit)
    (returned : StatusOr Nat) : Prop :=
  ∃ index, returned = .ok index ∧ IsFirstMaximum rank logits index

/-- The first index of a greatest `float` is returned, and `int16_t` logits with the same order
make the same choice. -/
structure SamplesArgmax (logits : List UInt32) : Prop where
  argmax : ReturnsArgmax floatRank logits (applyGreedySampling (.ofFloats logits))
  sameChoice : ∀ quantized : List Int16, SameOrder floatRank int16Rank logits quantized →
    applyGreedySampling (.ofInt16s quantized) = applyGreedySampling (.ofFloats logits)

/-- Nothing is below the value the scan of `int16_t` logits starts from. -/
theorem int16_reaches_min (value : Int16) : Reaches int16Rank value int16Min :=
  ⟨value.toInt, int16Min.toInt, rfl, rfl, Int16.minValue_le_toInt value⟩

/-- The scan of `int16_t` logits finds the first maximum: if no logit exceeds the value it starts
from, all are equal to it. -/
theorem int16_isFirstMaximum {logits : List Int16} (nonempty : logits ≠ []) :
    IsFirstMaximum int16Rank logits (firstMaximumFrom int16Rank int16Min logits) := by
  rw [firstMaximumFrom_isFirstMaximum_iff]
  by_cases above : ∃ value ∈ logits, Exceeds int16Rank value int16Min
  · exact .inr ⟨fun _ _ => rfl, above⟩
  · left
    obtain ⟨first, rest, rfl⟩ := List.exists_cons_of_ne_nil nonempty
    refine ⟨first, rfl, ?_⟩
    intro other value isValue _
    have notAbove : ¬Exceeds int16Rank value first := by
      intro exceedsFirst
      have exceedsMin : Exceeds int16Rank value int16Min := by
        obtain ⟨upper, middle, isUpper, isMiddle, less⟩ := exceedsFirst
        obtain ⟨middle', lower, isMiddle', isLower, notMore⟩ := int16_reaches_min first
        rw [isMiddle, Option.some.injEq] at isMiddle'
        exact ⟨upper, lower, isUpper, isLower, (isMiddle' ▸ notMore).trans_lt less⟩
      exact above ⟨value, List.mem_of_getElem? isValue, exceedsMin⟩
    exact reaches_of_not_exceeds rfl rfl notAbove

/-- **Greedy sampling.** Of `int16_t` logits it returns the first index of a greatest one. Of
`float` logits it does, and chooses as for `int16_t` logits with the same order, if and only if
the first logit is a greatest one, or none is a NaN and one exceeds the smallest positive normal
number. -/
theorem applyGreedySampling_argmax_iff {int16Logits : List Int16} {logits : List UInt32}
    (int16Nonempty : int16Logits ≠ []) (nonempty : logits ≠ []) :
    ReturnsArgmax int16Rank int16Logits (applyGreedySampling (.ofInt16s int16Logits)) ∧
      (SamplesArgmax logits ↔ IsMaximum floatRank logits 0 ∨
        (∀ logit ∈ logits, ¬floatIsNaN logit) ∧
          ∃ logit ∈ logits, Exceeds floatRank logit floatMin) := by
  have ranked : ∀ logit, (floatRank logit).isSome = true ↔ ¬floatIsNaN logit := by
    intro logit
    unfold floatRank
    by_cases isNaN : floatIsNaN logit
    · simp [isNaN]
    · rw [if_neg isNaN]
      split <;> simp [isNaN]
  constructor
  · exact ⟨_, applyGreedySampling_ofInt16s int16Logits, int16_isFirstMaximum int16Nonempty⟩
  · simp only [← ranked]
    rw [← firstMaximumFrom_isFirstMaximum_iff]
    constructor
    · intro samples
      obtain ⟨index, returned, isFirst⟩ := samples.argmax
      rw [applyGreedySampling_ofFloats, Except.ok.injEq] at returned
      rw [returned]
      exact isFirst
    · intro isFirst
      refine ⟨⟨_, applyGreedySampling_ofFloats logits, isFirst⟩, ?_⟩
      intro quantized same
      have quantizedNonempty : quantized ≠ [] := by
        rw [← List.length_pos_iff, ← same.length, List.length_pos_iff]
        exact nonempty
      have sameFirst := isFirst.of_sameOrder same fun _ _ => rfl
      rw [applyGreedySampling_ofFloats, applyGreedySampling_ofInt16s,
        sameFirst.unique (int16_isFirstMaximum quantizedNonempty)]

/-- Mixed logits, with the greatest one twice, and negative ones behind a greatest one. -/
theorem applyGreedySampling_argmax_examples :
    ReturnsArgmax int16Rank [-3, 5, 5] (applyGreedySampling (.ofInt16s [-3, 5, 5])) ∧
      (SamplesArgmax [0xBF800000, 0xC0000000] ↔
        IsMaximum floatRank [0xBF800000, 0xC0000000] 0 ∨
          (∀ logit ∈ [0xBF800000, 0xC0000000], ¬floatIsNaN logit) ∧
            ∃ logit ∈ [0xBF800000, 0xC0000000], Exceeds floatRank logit floatMin) :=
  applyGreedySampling_argmax_iff (by decide) (by decide)

/-- Of the logits -2 and -1 the first is chosen where they are floats, the second where they are
`int16_t`. -/
theorem applyGreedySampling_negativeFloats :
    applyGreedySampling (.ofFloats [0xC0000000, 0xBF800000]) = .ok 0 ∧
      applyGreedySampling (.ofInt16s [-2, -1]) = .ok 1 ∧
      ¬SamplesArgmax [0xC0000000, 0xBF800000] := by
  have returned : applyGreedySampling (.ofFloats [0xC0000000, 0xBF800000]) = .ok 0 := by
    decide +kernel
  refine ⟨returned, by decide +kernel, ?_⟩
  intro samples
  obtain ⟨index, isIndex, ⟨best, isBest, reaches⟩, -⟩ := samples.argmax
  rw [returned] at isIndex
  cases isIndex
  cases isBest
  obtain ⟨upper, lower, isUpper, isLower, notMore⟩ := reaches 1 0xBF800000 rfl (by decide)
  rw [show floatRank 0xC0000000 = some (-1073741824) by decide] at isUpper
  rw [show floatRank 0xBF800000 = some (-1065353216) by decide] at isLower
  cases isUpper
  cases isLower
  exact absurd notMore (by decide)

end LiteRTLM.Executor
