import LiteRTLM.Components.Preprocessor.AudioFraming
import LiteRTLM.Library.SlidingWindows

/-!
Contract: which windows `GetNextWindowOfSamples` finds, and which inputs
`PcmFramesToSpectrogram` accepts.

Owns: the position of the queue in the samples seen, the windows of any splitting of the
samples, and that inputs without a whole window are refused.

Does not own: what is computed from a window.
-/

namespace LiteRTLM.Components.Preprocessor

open LiteRTLM.Engine
open LiteRTLM.Library.SlidingWindows

variable {Sample : Type} {config : FrameConfig}

/-! ## The queue -/

/-- The queue after `produced` windows, at the end of the samples seen: it holds what the
next window takes from them. -/
structure Framed (config : FrameConfig) (seen : List Sample) (produced : Nat)
    (queue : SampleQueue Sample) : Prop where
  position : (seen.length : Int) + queue.samplesToNextStep =
    produced * config.hopLength + config.frameLength
  positive : 0 < queue.samplesToNextStep
  within : 0 < produced → queue.samplesToNextStep ≤ config.hopLength
  suffix : queue.inputQueue <:+ seen
  enough : (config.frameLength : Int) ≤ queue.inputQueue.length + queue.samplesToNextStep

theorem framed_reset : Framed config ([] : List Sample) 0 config.reset where
  position := by simp [FrameConfig.reset]
  positive := by
    have positive := config.frameLength_pos
    simp only [FrameConfig.reset]
    omega
  within := by simp
  suffix := List.suffix_rfl
  enough := by simp [FrameConfig.reset]

section Queue

variable {seen : List Sample} {produced : Nat} {queue : SampleQueue Sample}

/-- The windows produced lie within the samples seen. -/
theorem Framed.there (framed : Framed config seen produced queue) {index : Nat}
    (isProduced : index < produced) :
    index * config.hopLength + config.frameLength ≤ seen.length := by
  have position := framed.position
  have within := framed.within (by omega)
  obtain ⟨more, rfl⟩ := Nat.exists_eq_add_of_lt isProduced
  push_cast at position
  have atLeast : 0 ≤ (more : Int) * config.hopLength := by positivity
  have expanded : ((index : Int) + more + 1) * config.hopLength =
      index * config.hopLength + more * config.hopLength + config.hopLength := by ring
  rw [expanded] at position
  zify
  omega

/-- The next window does not. -/
theorem Framed.notThere (framed : Framed config seen produced queue) :
    seen.length < produced * config.hopLength + config.frameLength := by
  have position := framed.position
  have positive := framed.positive
  zify
  omega

theorem Framed.produced_eq (framed : Framed config seen produced queue) :
    count config.frameLength config.hopLength seen.length = produced :=
  count_eq config.hopLength_pos (fun _ isProduced => framed.there isProduced) framed.notThere

end Queue

/-! ## One call -/

theorem toInt_of_lt {value : Int} (notNegative : 0 ≤ value) (below : value < 2 ^ 31) :
    toInt value = value := by
  unfold toInt
  apply Int.bmod_eq_of_le <;> omega

section Call

variable {seen pcmFrames : List Sample} {produced inputStart : Nat} {queue : SampleQueue Sample}

theorem inputRemaining_eq (short : pcmFrames.length < 2 ^ 31)
    (within : inputStart ≤ pcmFrames.length) :
    toInt (pcmFrames.length - inputStart) = ((pcmFrames.length - inputStart : Nat) : Int) := by
  rw [toInt_of_lt] <;> omega

/-- Without enough samples left the queue takes what there is. -/
theorem getNextWindow_of_short (short : pcmFrames.length < 2 ^ 31)
    (within : inputStart ≤ pcmFrames.length)
    (framed : Framed config (seen ++ pcmFrames.take inputStart) produced queue)
    (notEnough : ((pcmFrames.length - inputStart : Nat) : Int) < queue.samplesToNextStep) :
    ∃ next start, getNextWindowOfSamples config pcmFrames queue inputStart = (false, next, start) ∧
      Framed config (seen ++ pcmFrames) produced next := by
  refine ⟨⟨queue.inputQueue ++ pcmFrames.drop inputStart, queue.samplesToNextStep -
    ((pcmFrames.length - inputStart : Nat) : Int)⟩,
    inputStart + ((pcmFrames.length - inputStart : Nat) : Int), ?_, ?_⟩
  · unfold getNextWindowOfSamples
    rw [inputRemaining_eq short within, if_pos notEnough]
    rfl
  · have position := framed.position
    have enough := framed.enough
    have split : pcmFrames = pcmFrames.take inputStart ++ pcmFrames.drop inputStart :=
      (List.take_append_drop ..).symm
    constructor
    case position =>
      simp only [List.length_append, List.length_take] at position ⊢
      omega
    case positive =>
      simp only
      omega
    case within =>
      intro some
      have := framed.within some
      simp only
      omega
    case suffix =>
      obtain ⟨front, isSeen⟩ := framed.suffix
      refine ⟨front, ?_⟩
      simp only
      rw [← List.append_assoc, isSeen, List.append_assoc, ← split]
    case enough =>
      simp only [List.length_append, List.length_drop]
      omega

/-- The samples the queue takes over are the last ones seen. -/
theorem nextQueue_suffix {step : Nat} (isStep : queue.samplesToNextStep = step)
    (framed : Framed config (seen ++ pcmFrames.take inputStart) produced queue)
    (enough : step ≤ pcmFrames.length - inputStart) {inputQueue : List Sample}
    (isQueue : inputQueue = if queue.samplesToNextStep < config.frameLength then
        queue.inputQueue.drop
            (queue.inputQueue.length - (config.frameLength - queue.samplesToNextStep).toNat) ++
          (pcmFrames.drop inputStart).take step
      else
        (pcmFrames.drop (inputStart + step - config.frameLength)).take config.frameLength) :
    inputQueue.length = config.frameLength ∧
      inputQueue <:+ seen ++ pcmFrames.take (inputStart + step) := by
  have isTaken : pcmFrames.take (inputStart + step) =
      pcmFrames.take inputStart ++ (pcmFrames.drop inputStart).take step := List.take_add
  subst isQueue
  split
  · next overlaps =>
      rw [isStep] at overlaps ⊢
      have holds := framed.enough
      rw [isStep] at holds
      constructor
      · simp only [List.length_append, List.length_drop, List.length_take]
        omega
      · rw [isTaken, ← List.append_assoc]
        exact List.suffix_append_self_iff.mpr ((List.drop_suffix _ _).trans framed.suffix)
  · next apart =>
      rw [isStep] at apart
      constructor
      · simp only [List.length_take, List.length_drop]
        omega
      · have isEnd : pcmFrames.take (inputStart + step) =
            pcmFrames.take (inputStart + step - config.frameLength) ++
              (pcmFrames.drop (inputStart + step - config.frameLength)).take
                config.frameLength := by
          rw [← List.take_add]
          congr 1
          omega
        rw [isEnd, ← List.append_assoc]
        exact List.suffix_append _ _

/-- With enough samples left the queue holds the next window. -/
theorem getNextWindow_of_enough (short : pcmFrames.length < 2 ^ 31)
    (within : inputStart ≤ pcmFrames.length)
    (framed : Framed config (seen ++ pcmFrames.take inputStart) produced queue)
    (enough : queue.samplesToNextStep ≤ ((pcmFrames.length - inputStart : Nat) : Int)) :
    ∃ (start : Nat) (after : SampleQueue Sample),
      getNextWindowOfSamples config pcmFrames queue inputStart = (true, after, (start : Int)) ∧
      inputStart < start ∧ start ≤ pcmFrames.length ∧
      after.inputQueue =
        window config.frameLength config.hopLength produced (seen ++ pcmFrames) ∧
      after.inputQueue.length = config.frameLength ∧
      Framed config (seen ++ pcmFrames.take start) (produced + 1) after := by
  have positive := framed.positive
  obtain ⟨step, isStep⟩ := Int.eq_ofNat_of_zero_le positive.le
  have hopPositive := config.hopLength_pos
  have framePositive := config.frameLength_pos
  rw [isStep] at enough positive
  have called : ∃ inputQueue, getNextWindowOfSamples config pcmFrames queue inputStart =
        (true, ⟨inputQueue, config.hopLength⟩, ((inputStart + step : Nat) : Int)) ∧
      inputQueue = if queue.samplesToNextStep < config.frameLength then
        queue.inputQueue.drop
            (queue.inputQueue.length - (config.frameLength - queue.samplesToNextStep).toNat) ++
          (pcmFrames.drop inputStart).take step
      else
        (pcmFrames.drop (inputStart + step - config.frameLength)).take config.frameLength := by
    refine ⟨_, ?_, rfl⟩
    have isOffset : ((inputStart : Int) + step - config.frameLength).toNat =
        inputStart + step - config.frameLength := by omega
    unfold getNextWindowOfSamples
    rw [inputRemaining_eq short within, if_neg (by omega), isStep, isOffset]
    rfl
  obtain ⟨inputQueue, isCall, isQueue⟩ := called
  obtain ⟨isLength, suffix⟩ := nextQueue_suffix isStep framed (by omega) isQueue
  have position := framed.position
  rw [isStep, List.length_append, List.length_take] at position
  have isEnd : (seen ++ pcmFrames.take (inputStart + step)).length =
      produced * config.hopLength + config.frameLength := by
    rw [List.length_append, List.length_take]
    zify
    omega
  refine ⟨inputStart + step, _, isCall, by omega, by omega, ?_, isLength, ?_⟩
  · have split : seen ++ pcmFrames = (seen ++ pcmFrames.take (inputStart + step)) ++
        pcmFrames.drop (inputStart + step) := by
      rw [List.append_assoc, List.take_append_drop]
    rw [split, window_append _ isEnd.ge, window_of_suffix suffix isLength isEnd]
  · constructor
    case position =>
      rw [isEnd]
      push_cast
      ring
    case positive => simpa using hopPositive
    case within => exact fun _ => le_rfl
    case suffix => exact suffix
    case enough =>
      simp only
      omega

end Call

/-! ## Whole inputs -/

/-- The windows with these indices. -/
def windowsFrom (config : FrameConfig) (first number : Nat) (samples : List Sample) :
    List (List Sample) :=
  (List.range' first number).map fun index =>
    window config.frameLength config.hopLength index samples

theorem windowsFrom_succ (first number : Nat) (samples : List Sample) :
    windowsFrom config first (number + 1) samples =
      window config.frameLength config.hopLength first samples ::
        windowsFrom config (first + 1) number samples := rfl

theorem windowsFrom_append_indices (first number more : Nat) (samples : List Sample) :
    windowsFrom config first (number + more) samples =
      windowsFrom config first number samples ++
        windowsFrom config (first + number) more samples := by
  rw [windowsFrom, windowsFrom, windowsFrom, ← List.map_append, List.range'_append_1]

/-- Windows that lie within the samples are the same with more samples behind. -/
theorem windowsFrom_append {first number : Nat} {samples : List Sample} (more : List Sample)
    (there : ∀ index < first + number,
      index * config.hopLength + config.frameLength ≤ samples.length) :
    windowsFrom config first number (samples ++ more) =
      windowsFrom config first number samples := by
  apply List.map_congr_left
  intro index isIn
  rw [List.mem_range'_1] at isIn
  exact window_append more (there index isIn.2)

/-- Every call on one input that returns true takes samples, so the calls come to an end. -/
theorem drain_eq {pcmFrames : List Sample} (short : pcmFrames.length < 2 ^ 31)
    {calls : Nat} {seen : List Sample} {inputStart produced : Nat} {queue : SampleQueue Sample}
    (within : inputStart ≤ pcmFrames.length)
    (framed : Framed config (seen ++ pcmFrames.take inputStart) produced queue)
    (enoughCalls : pcmFrames.length - inputStart < calls) :
    ∃ number final, drain config pcmFrames calls queue inputStart =
        some (windowsFrom config produced number (seen ++ pcmFrames), final) ∧
      Framed config (seen ++ pcmFrames) (produced + number) final := by
  induction calls generalizing inputStart produced queue with
  | zero => omega
  | succ calls inductionHypothesis =>
      by_cases enough : queue.samplesToNextStep ≤ ((pcmFrames.length - inputStart : Nat) : Int)
      · obtain ⟨start, after, isCall, more, isWithin, isWindow, -, framedAfter⟩ :=
          getNextWindow_of_enough short within framed enough
        obtain ⟨number, final, drained, framedFinal⟩ :=
          inductionHypothesis isWithin framedAfter (by omega)
        refine ⟨number + 1, final, ?_, by rwa [show produced + (number + 1) =
          produced + 1 + number by omega]⟩
        rw [drain, isCall]
        simp only [drained, windowsFrom_succ, ← isWindow]
        rfl
      · obtain ⟨next, start, isCall, framedNext⟩ :=
          getNextWindow_of_short short within framed (not_le.mp enough)
        exact ⟨0, next, by rw [drain, isCall]; rfl, framedNext⟩

/-- Successive inputs are framed like all their samples at once. -/
theorem drainAll_eq {inputs : List (List Sample)} {calls : Nat}
    (short : ∀ pcmFrames ∈ inputs, pcmFrames.length < 2 ^ 31)
    (enoughCalls : ∀ pcmFrames ∈ inputs, pcmFrames.length < calls)
    {seen : List Sample} {produced : Nat} {queue : SampleQueue Sample}
    (framed : Framed config seen produced queue) :
    ∃ number final, drainAll config calls queue inputs =
        some (windowsFrom config produced number (seen ++ inputs.flatten), final) ∧
      Framed config (seen ++ inputs.flatten) (produced + number) final := by
  induction inputs generalizing seen produced queue with
  | nil => exact ⟨0, queue, rfl, by simpa using framed⟩
  | cons pcmFrames rest inductionHypothesis =>
      rw [List.forall_mem_cons] at short enoughCalls
      have framedStart : Framed config (seen ++ pcmFrames.take 0) produced queue := by
        rwa [List.take_zero, List.append_nil]
      obtain ⟨number, next, drained, framedNext⟩ := drain_eq short.1 (Nat.zero_le _) framedStart
        (by simpa using enoughCalls.1)
      obtain ⟨more, final, drainedRest, framedFinal⟩ :=
        inductionHypothesis short.2 enoughCalls.2 framedNext
      rw [List.append_assoc] at drainedRest framedFinal
      refine ⟨number + more, final, ?_, by rwa [List.flatten_cons, ← Nat.add_assoc]⟩
      have same : windowsFrom config produced number (seen ++ (pcmFrames ++ rest.flatten)) =
          windowsFrom config produced number (seen ++ pcmFrames) := by
        rw [← List.append_assoc]
        exact windowsFrom_append _ fun index isProduced => framedNext.there isProduced
      rw [drainAll]
      rw [Nat.cast_zero] at drained
      simp only [drained, Option.bind_eq_bind, Option.bind_some, drainedRest, List.flatten_cons,
        windowsFrom_append_indices, same]
      rfl

/-- The windows of all samples, whatever inputs they are split into. -/
theorem drainAll_reset {inputs : List (List Sample)} {calls : Nat}
    (short : ∀ pcmFrames ∈ inputs, pcmFrames.length < 2 ^ 31)
    (enoughCalls : ∀ pcmFrames ∈ inputs, pcmFrames.length < calls) :
    ∃ final, drainAll config calls config.reset inputs =
      some (windows config.frameLength config.hopLength inputs.flatten, final) := by
  have framedReset : Framed config ([] : List Sample) 0 config.reset := framed_reset
  obtain ⟨number, final, drained, framed⟩ := drainAll_eq short enoughCalls framedReset
  rw [List.nil_append, Nat.zero_add] at framed
  refine ⟨final, ?_⟩
  rw [drained, windows, framed.produced_eq, windowsFrom, List.range_eq_range', List.nil_append]

/-! ## Inputs whose length is not an `int` -/

/-- Where 2^31 samples are left, the calls end before the next window although it is
there. -/
theorem drain_stops {pcmFrames : List Sample} {calls inputStart produced : Nat}
    {queue final : SampleQueue Sample} {found : List (List Sample)}
    (long : inputStart + 2 ^ 31 ≤ pcmFrames.length)
    (positive : 0 < queue.samplesToNextStep) (isInt : queue.samplesToNextStep < 2 ^ 31)
    (position : (inputStart : Int) + queue.samplesToNextStep =
      produced * config.hopLength + config.frameLength)
    (drained : drain config pcmFrames calls queue inputStart = some (found, final)) :
    (produced + found.length) * config.hopLength + config.frameLength ≤ pcmFrames.length := by
  have hopPositive := config.hopLength_pos
  have hopIsInt := config.hopLength_lt
  induction calls generalizing inputStart produced queue found with
  | zero => cases drained
  | succ calls inductionHypothesis =>
      rw [drain, getNextWindowOfSamples] at drained
      by_cases notEnough : queue.samplesToNextStep > toInt (pcmFrames.length - inputStart)
      · simp only [if_pos notEnough] at drained
        cases drained
        rw [List.length_nil, Nat.add_zero]
        zify
        omega
      · -- The length left is beyond 2^32, since its `int` is positive.
        have beyond : (inputStart : Int) + 2 ^ 32 < pcmFrames.length := by
          have wrapped := notEnough
          unfold toInt at wrapped
          by_contra within
          have small : (pcmFrames.length : Int) - inputStart ≤ 2 ^ 32 := by omega
          have isNegative : ((pcmFrames.length : Int) - inputStart).bmod (2 ^ 32) ≤ 0 := by
            rw [Int.bmod_def]
            split <;> omega
          omega
        obtain ⟨step, isStep⟩ := Int.eq_ofNat_of_zero_le positive.le
        simp only [if_neg notEnough] at drained
        rw [isStep] at position positive isInt
        have isStart : (inputStart : Int) + queue.samplesToNextStep =
            ((inputStart + step : Nat) : Int) := by
          rw [isStep]
          rfl
        rw [isStart] at drained
        simp only [Option.bind_eq_bind] at drained
        obtain ⟨⟨others, last⟩, drainedRest, isResult⟩ := Option.bind_eq_some_iff.mp drained
        cases isResult
        have there : (produced + 1 + others.length) * config.hopLength + config.frameLength ≤
            pcmFrames.length :=
          inductionHypothesis (by omega) (by simpa using hopPositive) (by simpa using hopIsInt)
            (by push_cast at position ⊢; linarith) drainedRest
        rwa [List.length_cons, Nat.add_comm others.length 1, ← Nat.add_assoc]

theorem drain_reset_ne {pcmFrames : List Sample} (long : 2 ^ 31 ≤ pcmFrames.length)
    {calls : Nat} {final : SampleQueue Sample} {found : List (List Sample)}
    (drained : drain config pcmFrames calls config.reset 0 = some (found, final)) :
    found ≠ windows config.frameLength config.hopLength pcmFrames := by
  have framePositive := config.frameLength_pos
  have frameIsInt := config.frameLength_lt
  rw [← Nat.cast_zero] at drained
  have there : (0 + found.length) * config.hopLength + config.frameLength ≤ pcmFrames.length :=
    drain_stops (by simpa using long) (by simpa [FrameConfig.reset] using framePositive)
      (by simp only [FrameConfig.reset]; omega) (by simp [FrameConfig.reset]) drained
  rw [Nat.zero_add, ← lt_count_iff config.hopLength_pos] at there
  intro same
  rw [same, length_windows] at there
  exact lt_irrefl _ there

/-! ## Spectrograms -/

/-- The windows found are the frames, when each of them is as long as a frame. -/
theorem windowedSignals_of_drain (arithmetic : SampleArithmetic Sample)
    {pcmFrames : List Sample} {calls : Nat} {queue final : SampleQueue Sample} {inputStart : Int}
    {found : List (List Sample)}
    (drained : drain config pcmFrames calls queue inputStart = some (found, final))
    (isFrame : ∀ frame ∈ found, frame.length = config.frameLength) :
    windowedSignals config arithmetic pcmFrames calls queue inputStart =
      some (.ok (found.map arithmetic.emphasize)) := by
  induction calls generalizing queue inputStart found with
  | zero => cases drained
  | succ calls inductionHypothesis =>
      rw [drain] at drained
      rw [windowedSignals]
      match called : getNextWindowOfSamples config pcmFrames queue inputStart with
      | (false, next, start) =>
          rw [called] at drained
          cases drained
          rfl
      | (true, next, start) =>
          rw [called] at drained
          simp only [Option.bind_eq_bind] at drained
          obtain ⟨⟨others, last⟩, drainedRest, isResult⟩ := Option.bind_eq_some_iff.mp drained
          cases isResult
          rw [List.forall_mem_cons] at isFrame
          simp only [isFrame.1, ne_eq, not_true_eq_false, if_false,
            inductionHypothesis drainedRest isFrame.2]
          rfl

theorem length_of_mem_windows {samples frame : List Sample}
    (isWindow : frame ∈ windows config.frameLength config.hopLength samples) :
    frame.length = config.frameLength := by
  obtain ⟨index, isIndex, rfl⟩ := List.mem_map.mp isWindow
  have there := (lt_count_iff config.hopLength_pos).mp (List.mem_range.mp isIndex)
  simp only [window, List.length_take, List.length_drop]
  omega

/-- With fewer samples than a frame, the unsigned number of frames ends in 32 zero bits. -/
def FrameConfig.wrapsToZero (config : FrameConfig) (numSamples : Nat) : Prop :=
  (1 + (2 ^ 64 - (config.frameLength - numSamples)) / config.hopLength) % 2 ^ 32 = 0

theorem numFrames_eq_count_iff {numSamples : Nat} (short : numSamples < 2 ^ 31) :
    config.numFrames numSamples =
        count config.frameLength config.hopLength numSamples ↔
      config.frameLength ≤ numSamples ∨ config.wrapsToZero numSamples := by
  have hopPositive := config.hopLength_pos
  have framePositive := config.frameLength_pos
  have frameIsInt := config.frameLength_lt
  unfold FrameConfig.numFrames FrameConfig.wrapsToZero count
  by_cases whole : config.frameLength ≤ numSamples
  · rw [if_neg (not_lt.mpr whole)]
    have fits : (numSamples - config.frameLength) / config.hopLength < 2 ^ 31 - 1 := by
      have := Nat.div_le_self (numSamples - config.frameLength) config.hopLength
      omega
    have isDifference : ((numSamples : Int) - config.frameLength) % 2 ^ 64 =
        ((numSamples - config.frameLength : Nat) : Int) := by
      rw [Int.emod_eq_of_lt] <;> omega
    rw [isDifference, ← Int.natCast_ediv]
    simp only [whole, true_or, iff_true]
    generalize (numSamples - config.frameLength) / config.hopLength = hops at fits
    rw [Int.emod_eq_of_lt (by omega) (by omega), toInt_of_lt (by omega) (by omega)]
    push_cast
    ring
  · rw [if_pos (not_le.mp whole)]
    have isDifference : ((numSamples : Int) - config.frameLength) % 2 ^ 64 =
        ((2 ^ 64 - (config.frameLength - numSamples) : Nat) : Int) := by
      omega
    rw [isDifference, ← Int.natCast_ediv]
    simp only [whole, false_or]
    generalize (2 ^ 64 - (config.frameLength - numSamples)) / config.hopLength = number
    unfold toInt
    rw [Int.bmod_def]
    split <;> omega

/-- What `PcmFramesToSpectrogram` should return: the spectra of all windows. -/
def spectraOf (config : FrameConfig) (arithmetic : SampleArithmetic Sample)
    (samples : List Sample) : List (List Sample) :=
  (windows config.frameLength config.hopLength (samples.map arithmetic.scale)).map fun frame =>
    arithmetic.powerSpectrum (arithmetic.applyWindow (arithmetic.emphasize frame))

/-- Accepted are the samples whose number of frames is what the function expects. -/
theorem pcmFramesToSpectrogram_eq (arithmetic : SampleArithmetic Sample) {samples : List Sample}
    (short : samples.length < 2 ^ 31) {calls : Nat} (enoughCalls : samples.length < calls) :
    pcmFramesToSpectrogram config arithmetic calls config.reset samples =
        some (.ok (spectraOf config arithmetic samples)) ↔
      config.numFrames samples.length =
        count config.frameLength config.hopLength samples.length := by
  have framedStart : Framed config ([] ++ (samples.map arithmetic.scale).take 0) 0 config.reset :=
    framed_reset
  obtain ⟨number, final, drained, framed⟩ := drain_eq (by simpa using short) (Nat.zero_le _)
    framedStart (by simpa using enoughCalls)
  rw [List.nil_append, Nat.zero_add] at framed
  have isNumber := framed.produced_eq
  have found : windowsFrom config 0 number (samples.map arithmetic.scale) =
      windows config.frameLength config.hopLength (samples.map arithmetic.scale) := by
    rw [windows, isNumber, windowsFrom, List.range_eq_range']
  rw [List.nil_append, found, Nat.cast_zero] at drained
  have signals := windowedSignals_of_drain arithmetic drained
    fun frame isFound => length_of_mem_windows isFound
  have isCount : ((windows config.frameLength config.hopLength
      (samples.map arithmetic.scale)).map arithmetic.emphasize).length =
        count config.frameLength config.hopLength samples.length := by
    rw [List.length_map, length_windows, List.length_map]
  unfold pcmFramesToSpectrogram spectraOf
  simp only [signals, Option.map_some, isCount]
  split
  · next negative =>
      constructor
      · intro isOk
        cases isOk
      · intro same
        omega
  · split
    · next differs =>
        constructor
        · intro isOk
          cases isOk
        · intro same
          exact absurd same.symm differs
    · next same =>
        rw [not_not] at same
        simp [same, Function.comp_def]

/-! ## Exact framing -/

/-- The samples are framed exactly: any inputs they are split into give all their windows,
and as a whole they are accepted with these. -/
structure FramedExactly (config : FrameConfig) (arithmetic : SampleArithmetic Sample)
    (samples : List Sample) : Prop where
  split : ∀ inputs : List (List Sample), inputs.flatten = samples →
    ∃ bound, ∀ calls ≥ bound, ∃ final, drainAll config calls config.reset inputs =
      some (windows config.frameLength config.hopLength samples, final)
  accepted : ∃ bound, ∀ calls ≥ bound,
    pcmFramesToSpectrogram config arithmetic calls config.reset samples =
      some (.ok (spectraOf config arithmetic samples))

theorem length_le_of_mem_flatten {inputs : List (List Sample)} {pcmFrames : List Sample}
    (isInput : pcmFrames ∈ inputs) : pcmFrames.length ≤ inputs.flatten.length :=
  (List.sublist_flatten_of_mem isInput).length_le

/-- **Exact framing.** Samples are framed exactly if and only if their number is an `int`
and they fill a frame, or the wrapped number of frames happens to be zero. -/
theorem framedExactly_iff (config : FrameConfig) (arithmetic : SampleArithmetic Sample)
    (samples : List Sample) :
    FramedExactly config arithmetic samples ↔
      samples.length < 2 ^ 31 ∧
        (config.frameLength ≤ samples.length ∨ config.wrapsToZero samples.length) := by
  constructor
  · intro framed
    have short : samples.length < 2 ^ 31 := by
      by_contra long
      obtain ⟨bound, drains⟩ := framed.split [samples] (by simp)
      obtain ⟨final, drained⟩ := drains bound le_rfl
      rw [drainAll, Option.bind_eq_bind] at drained
      obtain ⟨⟨found, next⟩, drainedOne, isResult⟩ := Option.bind_eq_some_iff.mp drained
      simp only [drainAll, Option.bind_some, List.append_nil] at isResult
      cases isResult
      exact drain_reset_ne (not_lt.mp long) drainedOne rfl
    obtain ⟨bound, accepts⟩ := framed.accepted
    have isAccepted := accepts (max bound (samples.length + 1)) (le_max_left ..)
    rw [pcmFramesToSpectrogram_eq arithmetic short (by omega)] at isAccepted
    exact ⟨short, (numFrames_eq_count_iff short).mp isAccepted⟩
  · intro ⟨short, fits⟩
    constructor
    case split =>
      rintro inputs rfl
      refine ⟨inputs.flatten.length + 1, fun calls enoughCalls => drainAll_reset ?_ ?_⟩
      · intro pcmFrames isInput
        have := length_le_of_mem_flatten isInput
        omega
      · intro pcmFrames isInput
        have := length_le_of_mem_flatten isInput
        omega
    case accepted =>
      refine ⟨samples.length + 1, fun calls enoughCalls => ?_⟩
      rw [pcmFramesToSpectrogram_eq arithmetic short (by omega)]
      exact (numFrames_eq_count_iff short).mpr fits

/-- The frame and hop lengths of the default USM configuration. -/
def usmFrames : FrameConfig where
  frameLength := 512
  hopLength := 160
  frameLength_pos := by norm_num
  hopLength_pos := by norm_num
  frameLength_lt := by norm_num
  hopLength_lt := by norm_num

/-- Samples that are computed with as they are. -/
def plainArithmetic : SampleArithmetic Int where
  scale sample := sample
  firstEmphasis sample := sample
  preEmphasis sample _ := sample
  applyWindow frame := frame
  powerSpectrum frame := frame

/-- A hundred samples have no window of 512, but some other number of frames is expected. -/
theorem framedExactly_fails_shortClip :
    ¬∀ (config : FrameConfig) (arithmetic : SampleArithmetic Int) (samples : List Int),
      FramedExactly config arithmetic samples := by
  intro framed
  obtain ⟨bound, accepts⟩ :=
    (framed usmFrames plainArithmetic (List.replicate 100 0)).accepted
  have isAccepted := accepts (max bound 101) (le_max_left ..)
  rw [pcmFramesToSpectrogram_eq plainArithmetic (by simp) (by simp)] at isAccepted
  rw [List.length_replicate] at isAccepted
  exact absurd isAccepted (by decide)

end LiteRTLM.Components.Preprocessor
