import LiteRTLM.Engine.Status
import LiteRTLM.Library.CumulativeChoice
import LiteRTLM.Library.PartialSelection

/-!
Contract: top-k and top-p sampling on the CPU, `sampling_cpu_util.cc`.

Owns: `TopKTokenIds`, `Softmax` and `TopKTopPSampling`, with their checks and their layout of
rows.

Does not own: partitioning and sorting, the exponential function, and the random numbers, which
are parameters.

Floating-point numbers are elements of an ordered field, so arithmetic is exact and no sum is
infinite. `int` values are natural numbers.
-/

namespace LiteRTLM.Components.Sampling

open LiteRTLM.Engine
open LiteRTLM.Library.CumulativeChoice
open LiteRTLM.Library.PartialSelection

variable {R : Type} [Field R] [LinearOrder R]

/-- What the sampling takes from the libraries of the language: the partitioning and sorting
algorithms, `std::exp`, and `absl::StrCat` of a number. -/
structure SamplingRuntime (R : Type) [Field R] [LinearOrder R] where
  algorithms : Algorithms Nat
  exp : R → R
  strCat : R → String
  exp_pos : ∀ value, 0 < exp value
  exp_strictMono : StrictMono exp

/-- `std::numeric_limits<float>::epsilon()`. -/
def floatEpsilon : R := 1 / 2 ^ 23

/-- `std::numeric_limits<double>::epsilon()`. -/
def doubleEpsilon : R := 1 / 2 ^ 52

/-- `logits[b * vocab_size + i]`. -/
def logitAt (logits : List R) (vocabSize b i : Nat) : R :=
  logits.getD (b * vocabSize + i) 0

def sizeError (size batchSize : Nat) : Status :=
  .invalidArgumentError
    s!"Logits vector size must be a multiple of batch size. But got {size} and {batchSize}."

/-! ## TopKTokenIds -/

def topKTokenIds (runtime : SamplingRuntime R) (logits : List R) (k batchSize : Nat) :
    StatusOr (List Nat) :=
  if logits.length % batchSize ≠ 0 then
    .error (sizeError logits.length batchSize)
  else
    let vocabSize := logits.length / batchSize
    if k = 1 then
      .ok ((List.range batchSize).map fun b => maxElement (logitAt logits vocabSize b) vocabSize)
    else
      .ok ((List.range batchSize).flatMap fun b =>
        (runtime.algorithms.nthElement (descending (logitAt logits vocabSize b)) k
          (List.range vocabSize)).take k)

/-! ## Softmax -/

/-- `logits[b * vocab_size + topk_token_ids[b * k + slot]]`. -/
def slotLogit (logits : List R) (topkTokenIds : List Nat) (vocabSize k b slot : Nat) : R :=
  logitAt logits vocabSize b (topkTokenIds.getD (b * k + slot) 0)

/-- `max_logit_values[b]`. -/
def maxLogitValue (logits : List R) (topkTokenIds : List Nat) (vocabSize k b : Nat) : R :=
  slotLogit logits topkTokenIds vocabSize k b
    (maxElement (slotLogit logits topkTokenIds vocabSize k b) k)

def currentTemp (temperature : R) : R := max temperature floatEpsilon

def rowExponentials (runtime : SamplingRuntime R) (logits : List R) (topkTokenIds : List Nat)
    (temperature : R) (vocabSize k b : Nat) : List R :=
  (List.range k).map fun slot =>
    runtime.exp ((slotLogit logits topkTokenIds vocabSize k b slot -
      maxLogitValue logits topkTokenIds vocabSize k b) / currentTemp temperature)

def rowProbabilities (runtime : SamplingRuntime R) (logits : List R) (topkTokenIds : List Nat)
    (temperature : R) (vocabSize k b : Nat) : List R :=
  let exponentials := rowExponentials runtime logits topkTokenIds temperature vocabSize k b
  let sumOfExps := exponentials.sum
  if sumOfExps ≤ floatEpsilon then
    List.replicate k (1 / (k : R))
  else
    -- The branch for an infinite sum is not reached in exact arithmetic.
    exponentials.map fun exponential => exponential * (1 / sumOfExps)

/-- `Softmax`: the probabilities and the largest logits of the rows. -/
def softmax (runtime : SamplingRuntime R) (logits : List R) (topkTokenIds : List Nat)
    (temperature : R) (batchSize : Nat) : StatusOr (List R × List R) :=
  if logits.isEmpty then
    .error (.invalidArgumentError "Logits vector cannot be empty.")
  else if logits.length % batchSize ≠ 0 then
    .error (sizeError logits.length batchSize)
  else if temperature < 0 then
    .error (.invalidArgumentError
      ("Temperature must be >= 0, but got " ++ runtime.strCat temperature))
  else
    let vocabSize := logits.length / batchSize
    let k := topkTokenIds.length / batchSize
    .ok ((List.range batchSize).flatMap
        (rowProbabilities runtime logits topkTokenIds temperature vocabSize k),
      (List.range batchSize).map (maxLogitValue logits topkTokenIds vocabSize k))

/-! ## TopKTopPSampling -/

/-- What the loop over the rows reads. -/
structure SamplingInput (R : Type) where
  logits : List R
  topkTokenIds : List Nat
  probabilities : List R
  maxLogitValues : List R
  vocabSize : Nat
  k : Nat
  p : R
  temperature : R

/-- `probabilities[b * k + slot]`. -/
def SamplingInput.probability (input : SamplingInput R) (b slot : Nat) : R :=
  input.probabilities.getD (b * input.k + slot) 0

/-- `topk_token_ids[b * k + slot]`. -/
def SamplingInput.tokenId (input : SamplingInput R) (b slot : Nat) : Nat :=
  input.topkTokenIds.getD (b * input.k + slot) 0

/-- `index_of_topk`, sorted. -/
def SamplingInput.indexOfTopk (runtime : SamplingRuntime R) (input : SamplingInput R) (b : Nat) :
    List Nat :=
  runtime.algorithms.sort (descending (input.probability b)) (List.range input.k)

/-- The body of the loop over the rows: the sampled id and its score. `draw` is the value drawn
between 0 and the cumulative probability, `previous` what the results held before. -/
def SamplingInput.sampleRow (runtime : SamplingRuntime R) (input : SamplingInput R)
    (draw : Nat → R → R) (previous : R) (b : Nat) : Nat × R :=
  let indexOfTopk := input.indexOfTopk runtime b
  let weights := indexOfTopk.map (input.probability b)
  let (cumulativeProb, finalSampleSize) := reach input.p weights 0 0
  if cumulativeProb ≤ doubleEpsilon then
    let sampledId := input.tokenId b (indexOfTopk.getD 0 0)
    (sampledId, runtime.exp ((logitAt input.logits input.vocabSize b sampledId -
      input.maxLogitValues.getD b 0) / currentTemp input.temperature))
  else
    match locate (draw b cumulativeProb) (weights.take finalSampleSize) 0 with
    | some i =>
        (input.tokenId b (indexOfTopk.getD i 0), input.probability b (indexOfTopk.getD i 0))
    | none => (0, previous)

/-- `TopKTopPSampling`: the sampled ids, and the scores in place of `sampledScores`. -/
def topKTopPSampling (runtime : SamplingRuntime R) (logits : List R) (k : Nat)
    (p temperature : R) (draw : Nat → R → R) (batchSize : Nat) (sampledScores : List R) :
    StatusOr (List Nat × List R) :=
  if logits.isEmpty then
    .error (.invalidArgumentError "Logits vector cannot be empty.")
  else if logits.length % batchSize ≠ 0 then
    .error (sizeError logits.length batchSize)
  else if k ≤ 0 then
    .error (.invalidArgumentError "k must be greater than 0.")
  else if p < 0 ∨ p > 1 then
    .error (.invalidArgumentError "p must be in the range [0.0, 1.0].")
  else do
    let vocabSize := logits.length / batchSize
    let k := min k vocabSize
    let topkTokenIds ← topKTokenIds runtime logits k batchSize
    let (probabilities, maxLogitValues) ←
      softmax runtime logits topkTokenIds temperature batchSize
    if k = 1 then
      return (topkTokenIds, List.replicate batchSize 1)
    else
      let input : SamplingInput R :=
        { logits, topkTokenIds, probabilities, maxLogitValues, vocabSize, k, p, temperature }
      let sampled := (List.range batchSize).map fun b =>
        input.sampleRow runtime draw (sampledScores.getD b 0) b
      return (sampled.map Prod.fst, sampled.map Prod.snd)

end LiteRTLM.Components.Sampling
