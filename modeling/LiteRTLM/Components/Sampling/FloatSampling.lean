import LiteRTLM.Components.Sampling.SamplingCpuUtil

/-!
Contract: `TopKTokenIds` and `Softmax` in the arithmetic of `float`.

Owns: the operations of `float` that they use, of which nothing is assumed, the two functions
over them, and that in exact arithmetic they are the functions of `SamplingCpuUtil`.

Does not own: any rounding.
-/

namespace LiteRTLM.Components.FloatSampling

open LiteRTLM.Engine
open LiteRTLM.Components.Sampling (SamplingRuntime sizeError)
open LiteRTLM.Library.PartialSelection (Algorithms)

/-- The operations of `float`. Sums may be infinite, exponentials may vanish, and a value that
is not a number compares false. -/
structure FloatOperations (F : Type) where
  zero : F
  one : F
  /-- `std::numeric_limits<float>::epsilon()`. -/
  epsilon : F
  add : F → F → F
  sub : F → F → F
  mul : F → F → F
  div : F → F → F
  /-- `1.0 / value`, which is rounded from `double`. -/
  inverse : F → F
  /-- `static_cast<float>`. -/
  ofNat : Nat → F
  lt : F → F → Bool
  le : F → F → Bool
  isInf : F → Bool
  exp : F → F
  log : F → F
  /-- `absl::StrCat` of a number. -/
  strCat : F → String

variable {F : Type} (floats : FloatOperations F)

/-- `std::max_element` of the positions below `size`. -/
def maxElement (less : Nat → Nat → Bool) (size : Nat) : Nat :=
  (List.range size).foldl (fun largest position =>
    if less largest position then position else largest) 0

/-- `logits[b * vocab_size + i]`. -/
def logitAt (logits : List F) (vocabSize b i : Nat) : F :=
  logits.getD (b * vocabSize + i) floats.zero

def topKTokenIds (algorithms : Algorithms Nat) (logits : List F) (k batchSize : Nat) :
    StatusOr (List Nat) :=
  if logits.length % batchSize ≠ 0 then
    .error (sizeError logits.length batchSize)
  else
    let vocabSize := logits.length / batchSize
    if k = 1 then
      .ok ((List.range batchSize).map fun b =>
        maxElement (fun first second => floats.lt (logitAt floats logits vocabSize b first)
          (logitAt floats logits vocabSize b second)) vocabSize)
    else
      .ok ((List.range batchSize).flatMap fun b =>
        (algorithms.nthElement (fun first second =>
          floats.lt (logitAt floats logits vocabSize b second)
            (logitAt floats logits vocabSize b first)) k (List.range vocabSize)).take k)

/-! ## Softmax -/

def currentTemp (temperature : F) : F :=
  if floats.lt temperature floats.epsilon then floats.epsilon else temperature

/-- `logits[b * vocab_size + topk_token_ids[b * k + slot]]`. -/
def slotLogit (logits : List F) (topkTokenIds : List Nat) (vocabSize k b slot : Nat) : F :=
  logitAt floats logits vocabSize b (topkTokenIds.getD (b * k + slot) 0)

def maxLogitIdx (logits : List F) (topkTokenIds : List Nat) (vocabSize k b : Nat) : Nat :=
  maxElement (fun first second =>
    floats.lt (slotLogit floats logits topkTokenIds vocabSize k b first)
      (slotLogit floats logits topkTokenIds vocabSize k b second)) k

/-- `max_logit_values[b]`. -/
def maxLogitValue (logits : List F) (topkTokenIds : List Nat) (vocabSize k b : Nat) : F :=
  slotLogit floats logits topkTokenIds vocabSize k b
    (maxLogitIdx floats logits topkTokenIds vocabSize k b)

/-- What becomes of the exponentials of a row: all the same where they vanish, only the one of
the largest logit where their sum is infinite, else their shares. -/
def normalize (maxLogitIdx : Nat) (exponentials : List F) : List F :=
  let sumOfExps := exponentials.foldl floats.add floats.zero
  if floats.le sumOfExps floats.epsilon then
    List.replicate exponentials.length (floats.inverse (floats.ofNat exponentials.length))
  else if floats.isInf sumOfExps then
    (List.range exponentials.length).map fun slot =>
      if slot = maxLogitIdx then floats.one else floats.zero
  else
    let invSum := floats.inverse sumOfExps
    exponentials.map fun exponential => floats.mul exponential invSum

def rowProbabilities (logits : List F) (topkTokenIds : List Nat) (temperature : F)
    (vocabSize k b : Nat) : List F :=
  normalize floats (maxLogitIdx floats logits topkTokenIds vocabSize k b)
    ((List.range k).map fun slot =>
      floats.exp (floats.div (floats.sub (slotLogit floats logits topkTokenIds vocabSize k b slot)
        (maxLogitValue floats logits topkTokenIds vocabSize k b))
        (currentTemp floats temperature)))

/-- `Softmax`: the probabilities and the largest logits of the rows. -/
def softmax (logits : List F) (topkTokenIds : List Nat) (temperature : F) (batchSize : Nat) :
    StatusOr (List F × List F) :=
  if logits.isEmpty then
    .error (.invalidArgumentError "Logits vector cannot be empty.")
  else if logits.length % batchSize ≠ 0 then
    .error (sizeError logits.length batchSize)
  else if floats.lt temperature floats.zero then
    .error (.invalidArgumentError
      ("Temperature must be >= 0, but got " ++ floats.strCat temperature))
  else
    let vocabSize := logits.length / batchSize
    let k := topkTokenIds.length / batchSize
    .ok ((List.range batchSize).flatMap
        (rowProbabilities floats logits topkTokenIds temperature vocabSize k),
      (List.range batchSize).map (maxLogitValue floats logits topkTokenIds vocabSize k))

/-! ## Exact arithmetic -/

section Exact

open LiteRTLM.Library

variable {R : Type} [Field R] [LinearOrder R] (runtime : SamplingRuntime R) (log : R → R)

/-- An ordered field as the numbers, without infinities. -/
def exactFloats : FloatOperations R where
  zero := 0
  one := 1
  epsilon := Sampling.floatEpsilon
  add := (· + ·)
  sub := (· - ·)
  mul := (· * ·)
  div := (· / ·)
  inverse := (1 / ·)
  ofNat := fun count => count
  lt := fun first second => decide (first < second)
  le := fun first second => decide (first ≤ second)
  isInf := fun _ => false
  exp := runtime.exp
  log := log
  strCat := runtime.strCat

omit [Field R] in
/-- Without values that are not numbers, the largest key is found. -/
theorem maxElement_lt (key : Nat → R) (size : Nat) :
    maxElement (fun first second => decide (key first < key second)) size =
      PartialSelection.maxElement key size := by
  have fold : ∀ (positions : List Nat) (largest : Nat), positions.foldl
      (List.argAux fun first second => key second < key first) (some largest) =
      some (positions.foldl (fun largest position =>
        if decide (key largest < key position) then position else largest) largest) := by
    intro positions
    induction positions with
    | nil => exact fun _ => rfl
    | cons position rest inductionHypothesis =>
        intro largest
        rw [List.foldl_cons, List.foldl_cons, ← inductionHypothesis]
        congr 1
        by_cases larger : key largest < key position
        · simp [List.argAux, larger]
        · simp [List.argAux, larger]
  unfold maxElement PartialSelection.maxElement List.argmax
  cases size with
  | zero => rfl
  | succ size =>
      rw [List.range_succ_eq_map, List.foldl_cons, List.foldl_cons]
      rw [show List.argAux (fun first second => key second < key first) none 0 = some 0 from rfl,
        fold, Option.getD_some, ite_self]

theorem topKTokenIds_exact (logits : List R) (k batchSize : Nat) :
    topKTokenIds (exactFloats runtime log) runtime.algorithms logits k batchSize =
      Sampling.topKTokenIds runtime logits k batchSize := by
  have rows : ∀ vocabSize b, logitAt (exactFloats runtime log) logits vocabSize b =
      Sampling.logitAt logits vocabSize b := fun _ _ => rfl
  rw [topKTokenIds, Sampling.topKTokenIds]
  simp only [rows]
  simp only [exactFloats, maxElement_lt]
  rfl

theorem maxLogitValue_exact (logits : List R) (topkTokenIds : List Nat) (vocabSize k b : Nat) :
    maxLogitValue (exactFloats runtime log) logits topkTokenIds vocabSize k b =
      Sampling.maxLogitValue logits topkTokenIds vocabSize k b := by
  rw [Sampling.maxLogitValue, ← maxElement_lt]
  rfl

theorem currentTemp_exact (temperature : R) :
    currentTemp (exactFloats runtime log) temperature = Sampling.currentTemp temperature := by
  rw [currentTemp, Sampling.currentTemp, max_def_lt]
  simp [exactFloats]

theorem rowProbabilities_exact (logits : List R) (topkTokenIds : List Nat) (temperature : R)
    (vocabSize k b : Nat) :
    rowProbabilities (exactFloats runtime log) logits topkTokenIds temperature vocabSize k b =
      Sampling.rowProbabilities runtime logits topkTokenIds temperature vocabSize k b := by
  have row : (List.range k).map (fun slot => (exactFloats runtime log).exp
      ((exactFloats runtime log).div ((exactFloats runtime log).sub
        (slotLogit (exactFloats runtime log) logits topkTokenIds vocabSize k b slot)
        (Sampling.maxLogitValue logits topkTokenIds vocabSize k b))
        (Sampling.currentTemp temperature))) =
      Sampling.rowExponentials runtime logits topkTokenIds temperature vocabSize k b := rfl
  have count : (Sampling.rowExponentials runtime logits topkTokenIds temperature vocabSize k
      b).length = k := by
    rw [Sampling.rowExponentials, List.length_map, List.length_range]
  rw [rowProbabilities, maxLogitValue_exact, currentTemp_exact, row, Sampling.rowProbabilities,
    normalize, count, List.sum_eq_foldl]
  simp [exactFloats]

/-- Without rounding, `Softmax` is the one of exact arithmetic. -/
theorem softmax_exact (logits : List R) (topkTokenIds : List Nat) (temperature : R)
    (batchSize : Nat) :
    softmax (exactFloats runtime log) logits topkTokenIds temperature batchSize =
      Sampling.softmax runtime logits topkTokenIds temperature batchSize := by
  have probabilities : ∀ vocabSize k,
      rowProbabilities (exactFloats runtime log) logits topkTokenIds temperature vocabSize k =
        Sampling.rowProbabilities runtime logits topkTokenIds temperature vocabSize k :=
    fun vocabSize k => funext (rowProbabilities_exact runtime log logits topkTokenIds
      temperature vocabSize k)
  have largest : ∀ vocabSize k,
      maxLogitValue (exactFloats runtime log) logits topkTokenIds vocabSize k =
        Sampling.maxLogitValue logits topkTokenIds vocabSize k :=
    fun vocabSize k => funext (maxLogitValue_exact runtime log logits topkTokenIds vocabSize k)
  rw [softmax, Sampling.softmax]
  simp only [probabilities, largest]
  simp [exactFloats]

end Exact

end LiteRTLM.Components.FloatSampling
