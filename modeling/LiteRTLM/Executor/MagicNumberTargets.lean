import Mathlib
import LiteRTLM.Executor.MagicNumberConfigs

/-!
Contract: the targets of the magic numbers, against what a best match of batch sizes is.

Owns: when configs are built, when sizes are matched in order to the smallest unused lengths,
that the walk over the prefill lengths does so, and that all targets are valid.

Does not own: the configs' other fields. Lengths are told apart by their indices.
-/

namespace LiteRTLM.Executor

/-! ## Valid targets -/

/-- A target that is positive and at most the magic number. -/
def ValidTarget (magicNumber : Nat) (targetNumber : Int) : Prop :=
  0 < targetNumber ∧ targetNumber ≤ magicNumber

theorem clipToContext_le {contextTarget : Int} (some : 0 < contextTarget) (targetNumber : Int) :
    clipToContext contextTarget targetNumber ≤ contextTarget := by
  unfold clipToContext
  split <;> omega

theorem clipToContext_valid {magicNumber : Nat} {targetNumber : Int}
    (valid : ValidTarget magicNumber targetNumber) (contextTarget : Int) :
    ValidTarget magicNumber (clipToContext contextTarget targetNumber) := by
  unfold ValidTarget clipToContext at *
  split <;> omega

theorem default_valid {magicNumber : Nat} (positive : 0 < magicNumber) :
    ValidTarget magicNumber (getDefaultTargetNumber magicNumber) :=
  ⟨Int.ofNat_lt.mpr (getDefaultTargetNumber_pos positive),
    Int.ofNat_le.mpr (getDefaultTargetNumber_le magicNumber)⟩

/-- Every prefill length has a valid target. -/
theorem prefillTargets_valid (contextTarget : Int) {lengths : List Nat}
    (positive : ∀ length ∈ lengths, 0 < length) (sizes : List Int)
    (sizesPositive : ∀ size ∈ sizes, 0 < size) :
    List.Forall₂ ValidTarget lengths (prefillTargets contextTarget lengths sizes) := by
  induction lengths generalizing sizes with
  | nil => exact .nil
  | cons magicNumber lengths inductionHypothesis =>
      rw [List.forall_mem_cons] at positive
      have defaultValid := clipToContext_valid (default_valid positive.1) contextTarget
      cases sizes with
      | nil => exact .cons defaultValid (inductionHypothesis positive.2 [] sizesPositive)
      | cons size sizes =>
          rw [prefillTargets]
          by_cases tooLarge : magicNumber < size
          · rw [if_pos tooLarge]
            exact .cons defaultValid (inductionHypothesis positive.2 (size :: sizes) sizesPositive)
          · rw [if_neg tooLarge]
            rw [List.forall_mem_cons] at sizesPositive
            have sizeValid : ValidTarget magicNumber size := ⟨sizesPositive.1, by omega⟩
            exact .cons (clipToContext_valid sizeValid contextTarget)
              (inductionHypothesis positive.2 sizes sizesPositive.2)

/-- No prefill target is longer than the target of the context. -/
theorem prefillTargets_le {contextTarget : Int} (some : 0 < contextTarget) (lengths : List Nat)
    (sizes : List Int) : ∀ target ∈ prefillTargets contextTarget lengths sizes,
      target ≤ contextTarget := by
  induction lengths generalizing sizes with
  | nil => exact fun _ impossible => absurd impossible List.not_mem_nil
  | cons magicNumber lengths inductionHypothesis =>
      cases sizes with
      | nil =>
          rw [prefillTargets, List.forall_mem_cons]
          exact ⟨clipToContext_le some _, inductionHypothesis []⟩
      | cons size sizes =>
          rw [prefillTargets]
          by_cases tooLarge : magicNumber < size
          · rw [if_pos tooLarge, List.forall_mem_cons]
            exact ⟨clipToContext_le some _, inductionHypothesis (size :: sizes)⟩
          · rw [if_neg tooLarge, List.forall_mem_cons]
            exact ⟨clipToContext_le some _, inductionHypothesis sizes⟩

/-! ## Matched in order -/

def CanHold (lengths : List Nat) (used : List Nat) (size : Int) (index length : Nat) : Prop :=
  index ∉ used ∧ lengths[index]? = some length ∧ size ≤ length

/-- One after another, each size is matched to the smallest unused length that can hold it, whose
target it becomes, clipped to the context; it is left out only if no unused length can. -/
def MatchedInOrder (lengths : List Nat) (targets : List Int) (contextTarget : Int) :
    List Nat → List Int → Prop
  | _, [] => True
  | used, size :: sizes =>
      (∃ index length, CanHold lengths used size index length ∧
          (∀ other otherLength, CanHold lengths used size other otherLength →
            length ≤ otherLength) ∧
          targets[index]? = some (clipToContext contextTarget size) ∧
          MatchedInOrder lengths targets contextTarget (index :: used) sizes) ∨
        (∀ index length, ¬CanHold lengths used size index length) ∧
          MatchedInOrder lengths targets contextTarget used sizes

variable {contextTarget : Int}

/-- Where no unused length can hold any of the sizes, all are left out. -/
theorem matchedInOrder_leftOut {lengths used : List Nat} {targets sizes : List Int}
    (noneHolds : ∀ size ∈ sizes, ∀ index length, ¬CanHold lengths used size index length) :
    MatchedInOrder lengths targets contextTarget used sizes := by
  induction sizes with
  | nil => exact trivial
  | cons size sizes inductionHypothesis =>
      rw [List.forall_mem_cons] at noneHolds
      exact .inr ⟨noneHolds.1, inductionHypothesis noneHolds.2⟩

/-- The lengths the walk has passed are used or too small for every size that is left. -/
def PassedTooSmall (passed used : List Nat) (sizes : List Int) : Prop :=
  (∀ index ∈ used, index < passed.length) ∧
    ∀ index length : Nat, passed[index]? = some length → index ∉ used →
      ∀ size ∈ sizes, (length : Int) < size

theorem PassedTooSmall.mono {passed used : List Nat} {sizes fewer : List Int}
    (tooSmall : PassedTooSmall passed used sizes) (subset : ∀ size ∈ fewer, size ∈ sizes) :
    PassedTooSmall passed used fewer :=
  ⟨tooSmall.1, fun index length isLength unused size member =>
    tooSmall.2 index length isLength unused size (subset size member)⟩

/-- A length is passed that none of the sizes fits into. -/
theorem PassedTooSmall.skip {passed used : List Nat} {sizes : List Int} {magicNumber : Nat}
    (tooSmall : PassedTooSmall passed used sizes) (small : ∀ size ∈ sizes, magicNumber < size) :
    PassedTooSmall (passed ++ [magicNumber]) used sizes := by
  constructor
  · intro index member
    have before := tooSmall.1 index member
    rw [List.length_append]
    omega
  · intro index length isLength unused
    by_cases before : index < passed.length
    · rw [List.getElem?_append_left before] at isLength
      exact tooSmall.2 index length isLength unused
    · rw [List.getElem?_append_right (Nat.le_of_not_lt before), List.getElem?_singleton] at isLength
      split at isLength
      · cases isLength
        exact small
      · cases isLength

/-- A length is passed and used. -/
theorem PassedTooSmall.use {passed used : List Nat} {sizes : List Int}
    (tooSmall : PassedTooSmall passed used sizes) (magicNumber : Nat) :
    PassedTooSmall (passed ++ [magicNumber]) (passed.length :: used) sizes := by
  constructor
  · rw [List.forall_mem_cons, List.length_append]
    refine ⟨Nat.lt_succ_self _, fun index member => ?_⟩
    have before := tooSmall.1 index member
    omega
  · intro index length isLength unused
    rw [List.mem_cons, not_or] at unused
    have inside := (List.getElem?_eq_some_iff.mp isLength).1
    rw [List.length_append, List.length_singleton] at inside
    have before : index < passed.length := by omega
    rw [List.getElem?_append_left before] at isLength
    exact tooSmall.2 index length isLength unused.2

/-- Nothing that is passed can hold a size. -/
theorem PassedTooSmall.beyond {passed lengths used : List Nat} {sizes : List Int} {size : Int}
    {index length : Nat} (tooSmall : PassedTooSmall passed used sizes) (member : size ∈ sizes)
    (canHold : CanHold (passed ++ lengths) used size index length) :
    ∃ later, index = passed.length + later ∧ lengths[later]? = some length := by
  obtain ⟨unused, isLength, fits⟩ := canHold
  by_cases before : index < passed.length
  · rw [List.getElem?_append_left before] at isLength
    have small := tooSmall.2 index length isLength unused size member
    omega
  · rw [List.getElem?_append_right (Nat.le_of_not_lt before)] at isLength
    exact ⟨index - passed.length, by omega, isLength⟩

/-- The walk matches in order: the sizes that are left against the lengths that are left, behind
lengths that are passed. -/
theorem prefillTargets_matched (lengths passed used : List Nat) (passedTargets sizes : List Int)
    (sameLength : passedTargets.length = passed.length) (increasing : lengths.Pairwise (· < ·))
    (sizesIncreasing : sizes.Pairwise (· < ·)) (tooSmall : PassedTooSmall passed used sizes) :
    MatchedInOrder (passed ++ lengths)
      (passedTargets ++ prefillTargets contextTarget lengths sizes) contextTarget used sizes := by
  induction lengths generalizing passed used passedTargets sizes with
  | nil =>
      apply matchedInOrder_leftOut
      intro size member index length canHold
      obtain ⟨later, -, isLength⟩ := tooSmall.beyond member canHold
      cases isLength
  | cons magicNumber lengths inductionHypothesis =>
      rw [List.pairwise_cons] at increasing
      cases sizes with
      | nil => exact trivial
      | cons size sizes =>
          have regroup : passed ++ magicNumber :: lengths = (passed ++ [magicNumber]) ++ lengths :=
            List.append_cons passed magicNumber lengths
          rw [prefillTargets, regroup]
          by_cases tooLarge : magicNumber < size
          · rw [if_pos tooLarge, List.append_cons passedTargets]
            apply inductionHypothesis
            · rw [List.length_append, List.length_append, sameLength]
              rfl
            · exact increasing.2
            · exact sizesIncreasing
            · apply tooSmall.skip
              rw [List.pairwise_cons] at sizesIncreasing
              rw [List.forall_mem_cons]
              exact ⟨tooLarge, fun later member =>
                Int.lt_trans tooLarge (sizesIncreasing.1 later member)⟩
          · rw [if_neg tooLarge, List.append_cons passedTargets]
            have isLength : ((passed ++ [magicNumber]) ++ lengths)[passed.length]? =
                some magicNumber := by simp
            have isTarget : ((passedTargets ++ [clipToContext contextTarget size]) ++
                prefillTargets contextTarget lengths sizes)[passed.length]? =
                  some (clipToContext contextTarget size) := by simp [← sameLength]
            have unused : passed.length ∉ used := fun member =>
              absurd (tooSmall.1 _ member) (Nat.lt_irrefl _)
            refine .inl ⟨passed.length, magicNumber, ⟨unused, isLength, by omega⟩, ?_, isTarget, ?_⟩
            · -- what can hold the size comes later, and the lengths increase
              intro other otherLength canHold
              rw [← regroup] at canHold
              obtain ⟨later, -, isOther⟩ := tooSmall.beyond List.mem_cons_self canHold
              have member := List.mem_of_getElem? isOther
              rw [List.mem_cons] at member
              rcases member with same | member
              · exact Nat.le_of_eq same.symm
              · exact Nat.le_of_lt (increasing.1 otherLength member)
            · apply inductionHypothesis
              · rw [List.length_append, List.length_append, sameLength]
                rfl
              · exact increasing.2
              · exact (List.pairwise_cons.mp sizesIncreasing).2
              · exact (tooSmall.mono fun _ => List.mem_cons_of_mem size).use magicNumber

/-! ## The configs -/

/-- The configs with these targets: for the context and the candidates, where the model has magic
numbers for them, and for the prefill lengths. -/
def configsWith (magicNumbers : MagicNumbers) (context candidates : Int) (targets : List Int) :
    List MagicNumberConfig :=
  (if 0 < magicNumbers.contextLength then [⟨magicNumbers.contextLength, context, none⟩] else []) ++
    (if 0 < magicNumbers.numOutputCandidates then
      [⟨magicNumbers.numOutputCandidates, candidates, some "decode"⟩] else []) ++
    (magicNumbers.prefillLengths.zip targets).map fun pair => ⟨pair.1, pair.2, some "prefill"⟩

/-- Every magic number has a valid target, no prefill target is longer than that of the context,
and the batch sizes, without the smallest surplus ones, are matched in order. -/
structure TargetsAssigned (magicNumbers : MagicNumbers) (sizes : List Int)
    (context candidates : Int) (targets : List Int) : Prop where
  contextValid : 0 < magicNumbers.contextLength → ValidTarget magicNumbers.contextLength context
  candidatesValid : 0 < magicNumbers.numOutputCandidates →
    ValidTarget magicNumbers.numOutputCandidates candidates
  prefillValid : List.Forall₂ ValidTarget magicNumbers.prefillLengths targets
  withinContext : 0 < magicNumbers.contextLength → ∀ target ∈ targets, target ≤ context
  matched : MatchedInOrder magicNumbers.prefillLengths targets
    (if 0 < magicNumbers.contextLength then context else 0) []
    (sizes.drop (sizes.length - magicNumbers.prefillLengths.length))

theorem skipSurplus_eq (lengths : List Nat) (sizes : List Int) :
    skipSurplus lengths sizes = sizes.drop (sizes.length - lengths.length) := by
  have surplus : (-((lengths.length : Int) - sizes.length)).toNat =
      sizes.length - lengths.length := by omega
  rw [skipSurplus, surplus]

def LlmExecutorSettings.batchSizes (executorSettings : LlmExecutorSettings) : List Int :=
  (executorSettings.advancedSettings.getD {}).prefillBatchSizes.sizes

/-- How many magic numbers a model has. -/
def MagicNumbers.count (magicNumbers : MagicNumbers) : Nat :=
  (if 0 < magicNumbers.contextLength then 1 else 0) +
    (if 0 < magicNumbers.numOutputCandidates then 1 else 0) + magicNumbers.prefillLengths.length

/-- Configs are built for a model with magic numbers, if the library creates so many. -/
theorem getLiteRtEnvOptions_isSome (magicNumbers : MagicNumbers)
    (createMagicNumberConfigs : Nat → Bool) (executorSettings : LlmExecutorSettings) :
    (getLiteRtEnvOptions (some magicNumbers) createMagicNumberConfigs
        executorSettings).isSome = true ↔
      0 < magicNumbers.count ∧ createMagicNumberConfigs magicNumbers.count = true := by
  have size : (contextConfigs magicNumbers executorSettings ++ candidateConfigs magicNumbers
      (executorSettings.advancedSettings.getD {})).length + magicNumbers.prefillLengths.length =
        magicNumbers.count := by
    unfold contextConfigs candidateConfigs MagicNumbers.count
    split <;> split <;> simp
  have none : (magicNumbers.contextLength = 0 ∧ magicNumbers.prefillLengths = [] ∧
      magicNumbers.numOutputCandidates = 0) ↔ magicNumbers.count = 0 := by
    rw [MagicNumbers.count, ← List.length_eq_zero_iff]
    split <;> split <;> omega
  rw [getLiteRtEnvOptions]
  simp only [size, none]
  by_cases empty : magicNumbers.count = 0
  · simp [empty]
  · rw [if_neg empty]
    by_cases creates : createMagicNumberConfigs magicNumbers.count = true
    · simp [creates, Nat.pos_of_ne_zero empty]
    · simp [creates]

/-- **The targets of magic numbers.** Configs are built for a model with magic numbers, if the
library creates so many; and whatever the hints are, they give every magic number a valid target,
within that of the context, and match the batch sizes in order. -/
theorem getLiteRtEnvOptions_targetsAssigned (magicNumbers : MagicNumbers)
    (createMagicNumberConfigs : Nat → Bool) (executorSettings : LlmExecutorSettings)
    (increasing : magicNumbers.prefillLengths.Pairwise (· < ·))
    (lengthsPositive : ∀ length ∈ magicNumbers.prefillLengths, 0 < length)
    (sizesPositive : ∀ size ∈ executorSettings.batchSizes, 0 < size) :
    ((getLiteRtEnvOptions (some magicNumbers) createMagicNumberConfigs
        executorSettings).isSome = true ↔
      0 < magicNumbers.count ∧ createMagicNumberConfigs magicNumbers.count = true) ∧
    ∀ configs, getLiteRtEnvOptions (some magicNumbers) createMagicNumberConfigs
        executorSettings = some configs →
      ∃ context candidates targets,
        configs = configsWith magicNumbers context candidates targets ∧
          TargetsAssigned magicNumbers executorSettings.batchSizes context candidates targets := by
  refine ⟨getLiteRtEnvOptions_isSome _ _ _, fun configs built => ?_⟩
  have context : 0 < magicNumbers.contextLength →
      contextTarget magicNumbers executorSettings =
        getTargetNumber magicNumbers.contextLength executorSettings.maxNumTokens := by
    intro some
    rw [contextTarget, if_pos some]
  have sizesIncreasing := (executorSettings.advancedSettings.getD {}).prefillBatchSizes.increasing
  have keptIncreasing := sizesIncreasing.drop
    (i := executorSettings.batchSizes.length - magicNumbers.prefillLengths.length)
  rw [getLiteRtEnvOptions] at built
  split at built
  · cases built
  dsimp only at built
  split at built
  · cases built
    refine ⟨contextTarget magicNumbers executorSettings,
      getTargetNumber magicNumbers.numOutputCandidates
        (executorSettings.advancedSettings.getD {}).numOutputCandidates, _, rfl, ?_⟩
    rw [skipSurplus_eq]
    constructor
    · intro some
      rw [context some]
      exact ⟨getTargetNumber_pos some _, getTargetNumber_le _ _⟩
    · intro some
      exact ⟨getTargetNumber_pos some _, getTargetNumber_le _ _⟩
    · exact prefillTargets_valid _ lengthsPositive _ fun size member =>
        sizesPositive size (List.mem_of_mem_drop member)
    · intro some
      apply prefillTargets_le
      rw [context some]
      exact getTargetNumber_pos some _
    · have sameContext : (if 0 < magicNumbers.contextLength then
          contextTarget magicNumbers executorSettings else 0) =
            contextTarget magicNumbers executorSettings := by
        unfold contextTarget
        split <;> rfl
      rw [sameContext]
      exact prefillTargets_matched magicNumbers.prefillLengths [] [] [] _ rfl increasing
        keptIncreasing ⟨fun _ impossible => absurd impossible List.not_mem_nil, nofun⟩
  · cases built

def sixBatchSizes : LlmExecutorSettings where
  maxNumTokens := 3072
  advancedSettings := some { prefillBatchSizes := ⟨[32, 128, 256, 512, 1024, 2048], by decide⟩ }

/-- Of six batch sizes for four lengths the two smallest are dropped, the next does not fit into
the smallest length, and the last finds no length. -/
theorem getLiteRtEnvOptions_targetsAssigned_sixBatchSizes :
    ∃ configs, getLiteRtEnvOptions (some ⟨8209, [67, 257, 1031, 4099], 0⟩) (fun _ => true)
        sixBatchSizes = some configs ∧
      configs = [⟨8209, 3072, none⟩, ⟨67, 64, some "prefill"⟩, ⟨257, 256, some "prefill"⟩,
        ⟨1031, 512, some "prefill"⟩, ⟨4099, 1024, some "prefill"⟩] ∧
      ∃ context candidates targets,
        configs = configsWith ⟨8209, [67, 257, 1031, 4099], 0⟩ context candidates targets ∧
        TargetsAssigned ⟨8209, [67, 257, 1031, 4099], 0⟩ sixBatchSizes.batchSizes context
          candidates targets := by
  obtain ⟨built, assigned⟩ := getLiteRtEnvOptions_targetsAssigned
    ⟨8209, [67, 257, 1031, 4099], 0⟩ (fun _ => true) sixBatchSizes (by decide) (by decide)
    (by decide)
  obtain ⟨configs, isBuilt⟩ := Option.isSome_iff_exists.mp (built.mpr ⟨by decide, rfl⟩)
  have values : getLiteRtEnvOptions (some ⟨8209, [67, 257, 1031, 4099], 0⟩) (fun _ => true)
      sixBatchSizes = some [⟨8209, 3072, none⟩, ⟨67, 64, some "prefill"⟩,
        ⟨257, 256, some "prefill"⟩, ⟨1031, 512, some "prefill"⟩,
        ⟨4099, 1024, some "prefill"⟩] := by decide +kernel
  exact ⟨configs, isBuilt, Option.some.inj (isBuilt.symm.trans values), assigned configs isBuilt⟩

end LiteRTLM.Executor
