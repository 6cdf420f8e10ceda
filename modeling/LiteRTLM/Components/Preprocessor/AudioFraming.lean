import LiteRTLM.Engine.Status

/-!
Contract: the framing of audio samples, in `AudioPreprocessorMiniAudio`.

Owns: the queue of samples, `GetNextWindowOfSamples`, and `PcmFramesToSpectrogram`.

Does not own: the decoding of audio, the mel filterbank, and the arithmetic of samples; the
Hanning window and the Fourier transform are parameters.

`int` values are integers, and a value that is converted to `int` is wrapped.
-/

namespace LiteRTLM.Components.Preprocessor

open LiteRTLM.Engine

/-- The framing part of `AudioPreprocessorConfig`: two positive `int` values. -/
structure FrameConfig where
  frameLength : Nat
  hopLength : Nat
  frameLength_pos : 0 < frameLength
  hopLength_pos : 0 < hopLength
  frameLength_lt : frameLength < 2 ^ 31
  hopLength_lt : hopLength < 2 ^ 31
deriving DecidableEq, Repr

variable {Sample : Type}

/-- The state of `AudioPreprocessorMiniAudio`. -/
structure SampleQueue (Sample : Type) where
  inputQueue : List Sample
  samplesToNextStep : Int
deriving DecidableEq, Repr

def FrameConfig.reset (config : FrameConfig) : SampleQueue Sample :=
  ⟨[], config.frameLength⟩

/-- Conversion to `int`. -/
def toInt (value : Int) : Int := value.bmod (2 ^ 32)

/-- `GetNextWindowOfSamples`: whether the queue holds a window now, the state, and the new
`input_start`. -/
def getNextWindowOfSamples (config : FrameConfig) (pcmFrames : List Sample)
    (queue : SampleQueue Sample) (inputStart : Int) : Bool × SampleQueue Sample × Int :=
  let inputRemaining := toInt (pcmFrames.length - inputStart)
  let samplesToNextStep := queue.samplesToNextStep
  if samplesToNextStep > inputRemaining then
    -- The rest of the input is copied, also where its length is not an `int`.
    (false,
      ⟨queue.inputQueue ++ pcmFrames.drop inputStart.toNat, samplesToNextStep - inputRemaining⟩,
      inputStart + inputRemaining)
  else
    let inputQueue :=
      if samplesToNextStep < config.frameLength then
        queue.inputQueue.drop
            (queue.inputQueue.length - (config.frameLength - samplesToNextStep).toNat) ++
          (pcmFrames.drop inputStart.toNat).take samplesToNextStep.toNat
      else
        (pcmFrames.drop (inputStart + samplesToNextStep - config.frameLength).toNat).take
          config.frameLength
    (true, ⟨inputQueue, config.hopLength⟩, inputStart + samplesToNextStep)

/-! ## Repeated calls -/

/-- Calls `GetNextWindowOfSamples` on one input until it returns false: the windows, and the
state after that; `none` when the calls are used up. -/
def drain (config : FrameConfig) (pcmFrames : List Sample) :
    Nat → SampleQueue Sample → Int → Option (List (List Sample) × SampleQueue Sample)
  | 0, _, _ => none
  | calls + 1, queue, inputStart =>
      match getNextWindowOfSamples config pcmFrames queue inputStart with
      | (false, queue, _) => some ([], queue)
      | (true, queue, inputStart) => do
          let (windows, final) ← drain config pcmFrames calls queue inputStart
          return (queue.inputQueue :: windows, final)

/-- The same on successive inputs. -/
def drainAll (config : FrameConfig) (calls : Nat) :
    SampleQueue Sample → List (List Sample) → Option (List (List Sample) × SampleQueue Sample)
  | queue, [] => some ([], queue)
  | queue, pcmFrames :: rest => do
      let (windows, queue) ← drain config pcmFrames calls queue 0
      let (others, final) ← drainAll config calls queue rest
      return (windows ++ others, final)

/-! ## Spectrograms -/

/-- What `PcmFramesToSpectrogram` computes from the samples. -/
structure SampleArithmetic (Sample : Type) where
  scale : Sample → Sample
  firstEmphasis : Sample → Sample
  preEmphasis : Sample → Sample → Sample
  applyWindow : List Sample → List Sample
  powerSpectrum : List Sample → List Sample

/-- The pre-emphasis of a window. -/
def SampleArithmetic.emphasize (arithmetic : SampleArithmetic Sample) :
    List Sample → List Sample
  | [] => []
  | first :: rest =>
      arithmetic.firstEmphasis first ::
        List.zipWith arithmetic.preEmphasis rest (first :: rest)

/-- `num_frames`: computed with 64-bit unsigned numbers and converted to `int`. -/
def FrameConfig.numFrames (config : FrameConfig) (numSamples : Nat) : Int :=
  toInt ((1 + ((numSamples - config.frameLength : Int) % 2 ^ 64) / config.hopLength) % 2 ^ 64)

/-- The loop of `PcmFramesToSpectrogram`. -/
def windowedSignals (config : FrameConfig) (arithmetic : SampleArithmetic Sample)
    (pcmFrames : List Sample) :
    Nat → SampleQueue Sample → Int → Option (StatusOr (List (List Sample)))
  | 0, _, _ => none
  | calls + 1, queue, inputStart =>
      match getNextWindowOfSamples config pcmFrames queue inputStart with
      | (false, _, _) => some (.ok [])
      | (true, queue, inputStart) =>
          if queue.inputQueue.length ≠ config.frameLength then
            some (.error (.internalError ("Input queue size is not equal to frame length: " ++
              toString queue.inputQueue.length ++ " vs " ++ toString config.frameLength)))
          else
            (windowedSignals config arithmetic pcmFrames calls queue inputStart).map
              fun signals => signals.map fun frames =>
                arithmetic.emphasize queue.inputQueue :: frames

/-- `PcmFramesToSpectrogram`, with the power spectrum of each frame; `none` when the loop
has used up its calls. Reserving a negative number of frames throws. -/
def pcmFramesToSpectrogram (config : FrameConfig) (arithmetic : SampleArithmetic Sample)
    (calls : Nat) (queue : SampleQueue Sample) (pcmFrames : List Sample) :
    Option (CallResult (List (List Sample))) :=
  let scaledPcmFrames := pcmFrames.map arithmetic.scale
  let numFrames := config.numFrames pcmFrames.length
  if numFrames < 0 then
    some (.error (.crash .allocation))
  else
    (windowedSignals config arithmetic scaledPcmFrames calls queue 0).map fun signals =>
      match signals with
      | .error status => .error (.status status)
      | .ok frames =>
          if (frames.length : Int) ≠ numFrames then
            .error (.status (.internalError
              ("Windowed signals size is not equal to expected number of frames: " ++
                toString frames.length ++ " vs " ++ toString numFrames)))
          else
            .ok (frames.map fun frame => arithmetic.powerSpectrum (arithmetic.applyWindow frame))

end LiteRTLM.Components.Preprocessor
