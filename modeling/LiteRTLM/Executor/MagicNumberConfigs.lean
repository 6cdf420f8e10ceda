import Mathlib.Tactic.Common

/-!
Contract: the targets that `MagicNumberConfigsHelper` assigns to the magic numbers of a model.

Owns: default targets and targets with a hint, the walk that assigns prefill batch sizes to magic
lengths, and the configs built from them.

Does not own: the magic numbers read off the model, which come with the prefill lengths sorted,
and the verification of signatures, which leaves the configs alone. A magic number of zero stands
for none.
-/

namespace LiteRTLM.Executor

/-! ## Data -/

/-- `MagicNumbers`, as they are read off a model. -/
structure MagicNumbers where
  contextLength : Nat := 0
  prefillLengths : List Nat := []
  numOutputCandidates : Nat := 0

/-- A `std::set<int>` of batch sizes, in its order. -/
structure PrefillBatchSizes where
  sizes : List Int
  increasing : sizes.Pairwise (· < ·)

def PrefillBatchSizes.empty : PrefillBatchSizes :=
  ⟨[], .nil⟩

/-- The advanced settings that the targets depend on. -/
structure AdvancedSettings where
  prefillBatchSizes : PrefillBatchSizes := .empty
  numOutputCandidates : Int := 1

/-- The executor settings that the targets depend on. -/
structure LlmExecutorSettings where
  maxNumTokens : Nat
  advancedSettings : Option AdvancedSettings := none

/-- `LiteRtMagicNumberConfig`. -/
structure MagicNumberConfig where
  magicNumber : Nat
  targetNumber : Int
  signaturePrefix : Option String
deriving DecidableEq, Repr

/-! ## Targets -/

/-- `kDefaultTargetNumberBase`. -/
def defaultTargetNumberBase : Nat := 256

/-- The loop that halves a target until it is not larger than the magic number. -/
def halveTarget (magicNumber targetNumber : Nat) : Nat :=
  if magicNumber < targetNumber then halveTarget magicNumber (targetNumber / 2) else targetNumber
termination_by targetNumber

def getDefaultTargetNumber (magicNumber : Nat) : Nat :=
  if defaultTargetNumberBase < magicNumber then
    magicNumber / defaultTargetNumberBase * defaultTargetNumberBase
  else
    halveTarget magicNumber defaultTargetNumberBase

def getTargetNumber (magicNumber : Nat) (targetNumberHint : Int) : Int :=
  if 0 < targetNumberHint ∧ targetNumberHint < magicNumber then targetNumberHint
  else getDefaultTargetNumber magicNumber

/-- A target that is not longer than the target of the context, if there is one. -/
def clipToContext (contextTarget targetNumber : Int) : Int :=
  if 0 < contextTarget ∧ contextTarget < targetNumber then contextTarget else targetNumber

/-- The batch sizes that are left when the smallest surplus ones are skipped. -/
def skipSurplus (prefillLengths : List Nat) (prefillBatchSizes : List Int) : List Int :=
  let extraMagicNumbers : Int := prefillLengths.length - prefillBatchSizes.length
  prefillBatchSizes.drop (-extraMagicNumbers).toNat

/-- The loop over the prefill lengths, with the batch sizes that are not used yet. -/
def prefillTargets (contextTarget : Int) : List Nat → List Int → List Int
  | [], _ => []
  | magicNumber :: lengths, [] =>
      clipToContext contextTarget (getDefaultTargetNumber magicNumber) ::
        prefillTargets contextTarget lengths []
  | magicNumber :: lengths, size :: sizes =>
      if magicNumber < size then
        clipToContext contextTarget (getDefaultTargetNumber magicNumber) ::
          prefillTargets contextTarget lengths (size :: sizes)
      else
        clipToContext contextTarget size :: prefillTargets contextTarget lengths sizes

/-! ## Configs -/

/-- The target of the context length; zero if there is no magic context length. -/
def contextTarget (magicNumbers : MagicNumbers) (executorSettings : LlmExecutorSettings) : Int :=
  if 0 < magicNumbers.contextLength then
    getTargetNumber magicNumbers.contextLength executorSettings.maxNumTokens
  else
    0

def contextConfigs (magicNumbers : MagicNumbers) (executorSettings : LlmExecutorSettings) :
    List MagicNumberConfig :=
  if 0 < magicNumbers.contextLength then
    [⟨magicNumbers.contextLength, contextTarget magicNumbers executorSettings, none⟩]
  else
    []

def candidateConfigs (magicNumbers : MagicNumbers) (advancedSettings : AdvancedSettings) :
    List MagicNumberConfig :=
  if 0 < magicNumbers.numOutputCandidates then
    [⟨magicNumbers.numOutputCandidates,
      getTargetNumber magicNumbers.numOutputCandidates advancedSettings.numOutputCandidates,
      some "decode"⟩]
  else
    []

def prefillConfigs (lengths : List Nat) (targets : List Int) : List MagicNumberConfig :=
  (lengths.zip targets).map fun pair => ⟨pair.1, pair.2, some "prefill"⟩

/-- `GetLiteRtEnvOptions`: the configs it builds, with the magic numbers of the model, if they can
be read, and whether the library creates so many configs. Without configs there are no options. -/
def getLiteRtEnvOptions (magicNumbers : Option MagicNumbers)
    (createMagicNumberConfigs : Nat → Bool) (executorSettings : LlmExecutorSettings) :
    Option (List MagicNumberConfig) :=
  match magicNumbers with
  | none => none
  | some magicNumbers =>
      if magicNumbers.contextLength = 0 ∧ magicNumbers.prefillLengths = [] ∧
          magicNumbers.numOutputCandidates = 0 then
        none
      else
        let advancedSettings := executorSettings.advancedSettings.getD {}
        let first := contextConfigs magicNumbers executorSettings ++
          candidateConfigs magicNumbers advancedSettings
        if createMagicNumberConfigs (first.length + magicNumbers.prefillLengths.length) then
          some (first ++ prefillConfigs magicNumbers.prefillLengths
            (prefillTargets (contextTarget magicNumbers executorSettings)
              magicNumbers.prefillLengths
              (skipSurplus magicNumbers.prefillLengths
                advancedSettings.prefillBatchSizes.sizes)))
        else
          none

/-! ## Default targets -/

theorem halveTarget_le (magicNumber targetNumber : Nat) :
    halveTarget magicNumber targetNumber ≤ magicNumber := by
  fun_induction halveTarget magicNumber targetNumber with
  | case1 targetNumber larger inductionHypothesis => exact inductionHypothesis
  | case2 targetNumber notLarger => exact Nat.le_of_not_lt notLarger

theorem halveTarget_pos {magicNumber targetNumber : Nat} (magicPositive : 0 < magicNumber)
    (targetPositive : 0 < targetNumber) : 0 < halveTarget magicNumber targetNumber := by
  fun_induction halveTarget magicNumber targetNumber with
  | case1 targetNumber larger inductionHypothesis => exact inductionHypothesis (by omega)
  | case2 targetNumber notLarger => exact targetPositive

theorem getDefaultTargetNumber_le (magicNumber : Nat) :
    getDefaultTargetNumber magicNumber ≤ magicNumber := by
  unfold getDefaultTargetNumber
  split
  · exact Nat.div_mul_le_self magicNumber defaultTargetNumberBase
  · exact halveTarget_le magicNumber defaultTargetNumberBase

theorem getDefaultTargetNumber_pos {magicNumber : Nat} (positive : 0 < magicNumber) :
    0 < getDefaultTargetNumber magicNumber := by
  unfold getDefaultTargetNumber defaultTargetNumberBase
  split
  · omega
  · exact halveTarget_pos positive (by omega)

theorem getTargetNumber_le (magicNumber : Nat) (targetNumberHint : Int) :
    getTargetNumber magicNumber targetNumberHint ≤ magicNumber := by
  unfold getTargetNumber
  split
  · omega
  · exact Int.ofNat_le.mpr (getDefaultTargetNumber_le magicNumber)

theorem getTargetNumber_pos {magicNumber : Nat} (positive : 0 < magicNumber)
    (targetNumberHint : Int) : 0 < getTargetNumber magicNumber targetNumberHint := by
  unfold getTargetNumber
  split
  · omega
  · exact Int.ofNat_lt.mpr (getDefaultTargetNumber_pos positive)

end LiteRTLM.Executor
