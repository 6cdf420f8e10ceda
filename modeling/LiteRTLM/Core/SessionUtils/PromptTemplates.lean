import LiteRTLM.Components.Tokenizer
import LiteRTLM.Library.Frames

/-!
Contract: the contents of a turn, and what a session makes of them before they are
prefilled (`session_utils.cc`).

Owns: input data and its copies, the BOS string, `ApplyPromptTemplates`,
`StringToProcessedInputText` and `PreprocessContents`.

Does not own: the tokenizer and the runtime's tensor buffers, which are parameters. A
copy of a tensor buffer refers to the same data, and is the same buffer here.
-/

namespace LiteRTLM.Core.SessionUtils

open LiteRTLM.Engine
open LiteRTLM.Util
open LiteRTLM.Components
open LiteRTLM.Library

/-! ## Input data -/

/-- What a container holds: a raw string, or a tensor buffer of preprocessed data. -/
inductive Held (Tensor : Type) where
  | raw (text : Text)
  | tensorBuffer (tensor : Tensor)
deriving DecidableEq, Repr

/-- `InputData`: an `InputText`, `InputImage` or `InputAudio`. -/
inductive InputData (Tensor : Type) where
  | text (held : Held Tensor)
  | image (held : Held Tensor)
  | audio (held : Held Tensor)
deriving DecidableEq, Repr

/-- What the runtime does with tensor buffers. A buffer made of token ids holds them. -/
structure TensorRuntime (Tensor : Type) where
  duplicate : Tensor → Option Status
  copyToTensorBuffer : List Int → StatusOr Tensor
  tokenIds : Tensor → List Int
  tokenIds_copy : ∀ ids tensor, copyToTensorBuffer ids = .ok tensor → tokenIds tensor = ids

structure EncodingTokenizer extends Tokenizer where
  textToTokenIds : Text → StatusOr (List Int)

/-- The part of `SessionConfig` that the templates use. -/
structure SessionConfig where
  startTokenId : Int
  userPrefix : Text
  userSuffix : Text
  modelPrefix : Text
  applyPromptTemplateInSession : Bool
deriving DecidableEq, Repr

variable {Tensor : Type}

/-- `CreateCopy` of a container. -/
def Held.createCopy (runtime : TensorRuntime Tensor) : Held Tensor → StatusOr (Held Tensor)
  | .raw text => .ok (.raw text)
  | .tensorBuffer tensor =>
      match runtime.duplicate tensor with
      | some status => .error status
      | none => .ok (.tensorBuffer tensor)

def createInputDataCopy (runtime : TensorRuntime Tensor) :
    InputData Tensor → StatusOr (InputData Tensor)
  | .text held => (held.createCopy runtime).map .text
  | .image held => (held.createCopy runtime).map .image
  | .audio held => (held.createCopy runtime).map .audio

/-- The raw text of a chunk; empty for everything but raw text. -/
def InputData.rawText : InputData Tensor → Text
  | .text (.raw rawText) => rawText
  | _ => []

/-! ## Prompt templates -/

/-- `MaybeGetBosString`: empty for an invalid start token id. -/
def maybeGetBosString (config : SessionConfig) (tokenizer : EncodingTokenizer) : StatusOr Text :=
  if 0 ≤ config.startTokenId then tokenizer.tokenIdsToText [config.startTokenId] else .ok []

/-- The text starts with the BOS string, which is not empty. -/
def startsWithBos (bosString text : Text) : Bool :=
  bosString ≠ [] && bosString.isPrefixOf text

/-- What follows the contents of a turn. -/
def SessionConfig.turnSuffix (config : SessionConfig) : Text :=
  config.userSuffix ++ config.modelPrefix

/-- Functions on a session's `is_first_turn_`. -/
abbrev TurnM := EStateM Status Bool

def returnIfError {α : Type} : StatusOr α → TurnM α
  | .ok value => pure value
  | .error status => throw status

/-- What a session puts before a turn. -/
def sessionPrefix (bosString : Text) (isFirstTurn : Bool) : Text :=
  if isFirstTurn then bosString else ['\n']

/-- Reads what the session puts before the turn; no later turn is the first one. -/
def takeSessionPrefix (bosString : Text) : TurnM Text := do
  let isFirstTurn ← get
  set false
  return sessionPrefix bosString isFirstTurn

/-- One round of the loop of `ApplyPromptTemplates`. -/
def applyToChunk (config : SessionConfig) (runtime : TensorRuntime Tensor) (bosString : Text)
    (isFirstChunk isLastChunk : Bool) (content : InputData Tensor) :
    TurnM (List (InputData Tensor)) := do
  let rawText := content.rawText
  if startsWithBos bosString rawText then
    throw (.invalidArgumentError
      ("Input contains bos control token. Control token should not be " ++
        "included in the input."))
  let turnPrefix ←
    if isFirstChunk then (· ++ config.userPrefix) <$> takeSessionPrefix bosString else pure []
  let turnSuffix := if isLastChunk then config.turnSuffix else []
  if rawText = [] then
    let contentCopy ← returnIfError (createInputDataCopy runtime content)
    return (if turnPrefix = [] then [] else [.text (.raw turnPrefix)]) ++
      contentCopy :: if turnSuffix = [] then [] else [.text (.raw turnSuffix)]
  else
    return [.text (.raw (turnPrefix ++ (rawText ++ turnSuffix)))]

/-- The loop of `ApplyPromptTemplates`. -/
def applyToChunks (config : SessionConfig) (runtime : TensorRuntime Tensor) (bosString : Text) :
    Bool → List (InputData Tensor) → TurnM (List (InputData Tensor))
  | _, [] => return []
  | isFirstChunk, content :: rest => do
      let templated ← applyToChunk config runtime bosString isFirstChunk rest.isEmpty content
      return templated ++ (← applyToChunks config runtime bosString false rest)

def applyPromptTemplates (config : SessionConfig) (tokenizer : EncodingTokenizer)
    (runtime : TensorRuntime Tensor) (contents : List (InputData Tensor)) :
    TurnM (List (InputData Tensor)) := do
  if contents = [] then
    return []
  let bosString ← returnIfError (maybeGetBosString config tokenizer)
  if config.applyPromptTemplateInSession then
    applyToChunks config runtime bosString true contents
  else
    let isFirstTurn ← get
    set false
    let copies ← returnIfError (contents.mapM (createInputDataCopy runtime))
    return (if isFirstTurn ∧ bosString ≠ [] then [.text (.raw bosString)] else []) ++ copies

/-! ## Preprocessing -/

/-- `StringToProcessedInputText`, with the prefill token count of a benchmark; 0 without
one. -/
def stringToProcessedInputText (config : SessionConfig) (tokenizer : EncodingTokenizer)
    (runtime : TensorRuntime Tensor) (benchmarkPrefillTokenCount : Nat) (text : Text) :
    StatusOr (InputData Tensor) := do
  let bosString ← maybeGetBosString config tokenizer
  let bosTokenFound := startsWithBos bosString text
  let ids ← tokenizer.textToTokenIds
    (if bosTokenFound then text.drop bosString.length else text)
  let ids :=
    if 0 < benchmarkPrefillTokenCount then
      ids.take benchmarkPrefillTokenCount ++
        List.replicate (benchmarkPrefillTokenCount - ids.length) 0
    else if bosTokenFound then config.startTokenId :: ids
    else ids
  return .text (.tensorBuffer (← runtime.copyToTensorBuffer ids))

/-- One round of the loop of `PreprocessContents`. -/
def preprocessContent (config : SessionConfig) (tokenizer : EncodingTokenizer)
    (runtime : TensorRuntime Tensor) (benchmarkPrefillTokenCount : Nat) :
    InputData Tensor → StatusOr (InputData Tensor)
  | .text (.tensorBuffer tensor) => ((Held.tensorBuffer tensor).createCopy runtime).map .text
  | .text (.raw text) =>
      stringToProcessedInputText config tokenizer runtime benchmarkPrefillTokenCount text
  | .image (.tensorBuffer tensor) => ((Held.tensorBuffer tensor).createCopy runtime).map .image
  | .image (.raw _) => .error (.internalError
      "Image must be preprocessed before being used in SessionAdvanced.")
  | .audio (.tensorBuffer tensor) => ((Held.tensorBuffer tensor).createCopy runtime).map .audio
  | .audio (.raw _) => .error (.internalError
      "Audio must be preprocessed before being used in SessionAdvanced.")

def preprocessContents (config : SessionConfig) (tokenizer : EncodingTokenizer)
    (runtime : TensorRuntime Tensor) (benchmarkPrefillTokenCount : Nat)
    (contents : List (InputData Tensor)) : StatusOr (List (InputData Tensor)) :=
  contents.mapM (preprocessContent config tokenizer runtime benchmarkPrefillTokenCount)

/-! ## Templates as functions of the contents -/

section Templated

variable {config : SessionConfig} {tokenizer : EncodingTokenizer}
  {runtime : TensorRuntime Tensor} {bosString : Text}

/-- What is made of a chunk between these texts. -/
def templatedChunk (runtime : TensorRuntime Tensor) (bosString before behind : Text)
    (content : InputData Tensor) : StatusOr (List (InputData Tensor)) :=
  if startsWithBos bosString content.rawText then
    .error (.invalidArgumentError
      ("Input contains bos control token. Control token should not be " ++
        "included in the input."))
  else if content.rawText = [] then
    (createInputDataCopy runtime content).map fun contentCopy =>
      (if before = [] then [] else [.text (.raw before)]) ++
        contentCopy :: if behind = [] then [] else [.text (.raw behind)]
  else
    .ok [.text (.raw (before ++ (content.rawText ++ behind)))]

/-- What is made of chunks between these texts. -/
def templatedChunks (runtime : TensorRuntime Tensor) (bosString behind : Text) :
    Text → List (InputData Tensor) → StatusOr (List (InputData Tensor))
  | _, [] => .ok []
  | before, content :: rest => do
      let templated ← templatedChunk runtime bosString before
        (if rest.isEmpty then behind else []) content
      return templated ++ (← templatedChunks runtime bosString behind [] rest)

/-- The outcome of a computation that leaves the state as it is. -/
def keeping {α : Type} (state : Bool) : StatusOr α → EStateM.Result Status Bool α
  | .ok value => .ok value state
  | .error status => .error status state

theorem returnIfError_eq {α : Type} (result : StatusOr α) (state : Bool) :
    returnIfError result state = keeping state result := by
  cases result <;> rfl

theorem applyToChunk_later (isLastChunk : Bool) (content : InputData Tensor) (state : Bool) :
    applyToChunk config runtime bosString false isLastChunk content state =
      keeping state (templatedChunk runtime bosString []
        (if isLastChunk then config.turnSuffix else []) content) := by
  unfold applyToChunk templatedChunk
  by_cases refused : startsWithBos bosString content.rawText = true
  · rw [if_pos refused]
    simp only [refused]
    rfl
  · rw [if_neg refused]
    simp only [refused]
    by_cases empty : content.rawText = []
    · rw [if_pos empty]
      simp only [empty]
      cases createInputDataCopy runtime content <;> rfl
    · rw [if_neg empty]
      simp only [empty]
      rfl

theorem applyToChunk_first (isLastChunk : Bool) (content : InputData Tensor) (state : Bool) :
    applyToChunk config runtime bosString true isLastChunk content state =
      keeping (if startsWithBos bosString content.rawText then state else false)
        (templatedChunk runtime bosString (sessionPrefix bosString state ++ config.userPrefix)
          (if isLastChunk then config.turnSuffix else []) content) := by
  unfold applyToChunk templatedChunk
  by_cases refused : startsWithBos bosString content.rawText = true
  · rw [if_pos refused, if_pos refused]
    simp only [refused]
    rfl
  · rw [if_neg refused, if_neg refused]
    simp only [refused]
    by_cases empty : content.rawText = []
    · rw [if_pos empty]
      simp only [empty]
      cases createInputDataCopy runtime content <;> rfl
    · rw [if_neg empty]
      simp only [empty]
      rfl

theorem applyToChunks_later (contents : List (InputData Tensor)) (state : Bool) :
    applyToChunks config runtime bosString false contents state =
      keeping state (templatedChunks runtime bosString config.turnSuffix [] contents) := by
  induction contents with
  | nil => rfl
  | cons content rest inductionHypothesis =>
      rw [applyToChunks, templatedChunks]
      cases templated : templatedChunk runtime bosString []
          (if rest.isEmpty then config.turnSuffix else []) content with
      | error status =>
          rw [bind_of_error (by rw [applyToChunk_later, templated]; rfl)]
          rfl
      | ok chunk =>
          rw [bind_of_ok (by rw [applyToChunk_later, templated]; rfl)]
          cases remaining : templatedChunks runtime bosString config.turnSuffix [] rest with
          | error status =>
              rw [remaining] at inductionHypothesis
              rw [bind_of_error (by rw [inductionHypothesis]; rfl)]
              rfl
          | ok chunks =>
              rw [remaining] at inductionHypothesis
              rw [bind_of_ok (by rw [inductionHypothesis]; rfl)]
              rfl

/-- The chunks of a turn, and the session's flag: it is cleared unless the first chunk is
refused. -/
theorem applyToChunks_first (content : InputData Tensor) (rest : List (InputData Tensor))
    (state : Bool) :
    applyToChunks config runtime bosString true (content :: rest) state =
      keeping (if startsWithBos bosString content.rawText then state else false)
        (templatedChunks runtime bosString config.turnSuffix
          (sessionPrefix bosString state ++ config.userPrefix) (content :: rest)) := by
  rw [applyToChunks, templatedChunks]
  cases templated : templatedChunk runtime bosString
      (sessionPrefix bosString state ++ config.userPrefix)
      (if rest.isEmpty then config.turnSuffix else []) content with
  | error status =>
      rw [bind_of_error (by rw [applyToChunk_first, templated]; rfl)]
      rfl
  | ok chunk =>
      rw [bind_of_ok (by rw [applyToChunk_first, templated]; rfl)]
      have later : applyToChunks config runtime bosString false rest
          (if startsWithBos bosString content.rawText then state else false) = _ :=
        applyToChunks_later rest _
      cases remaining : templatedChunks runtime bosString config.turnSuffix [] rest with
      | error status =>
          rw [remaining] at later
          rw [bind_of_error (by rw [later]; rfl)]
          rfl
      | ok chunks =>
          rw [remaining] at later
          rw [bind_of_ok (by rw [later]; rfl)]
          rfl

/-! ## Whole turns -/

theorem applyPromptTemplates_nil (state : Bool) :
    applyPromptTemplates config tokenizer runtime [] state = .ok [] state := rfl

theorem applyPromptTemplates_of_noBos {contents : List (InputData Tensor)}
    (notEmpty : contents ≠ []) {status : Status}
    (noBos : maybeGetBosString config tokenizer = .error status) (state : Bool) :
    applyPromptTemplates config tokenizer runtime contents state = .error status state := by
  unfold applyPromptTemplates
  simp only [notEmpty, noBos]
  rfl

theorem applyPromptTemplates_of_enabled (enabled : config.applyPromptTemplateInSession = true)
    (foundBos : maybeGetBosString config tokenizer = .ok bosString) (content : InputData Tensor)
    (rest : List (InputData Tensor)) (state : Bool) :
    applyPromptTemplates config tokenizer runtime (content :: rest) state =
      keeping (if startsWithBos bosString content.rawText then state else false)
        (templatedChunks runtime bosString config.turnSuffix
          (sessionPrefix bosString state ++ config.userPrefix) (content :: rest)) := by
  rw [← applyToChunks_first]
  unfold applyPromptTemplates
  simp only [enabled, foundBos]
  rfl

theorem applyPromptTemplates_of_disabled (disabled : config.applyPromptTemplateInSession = false)
    (foundBos : maybeGetBosString config tokenizer = .ok bosString)
    {contents : List (InputData Tensor)} (notEmpty : contents ≠ []) (state : Bool) :
    applyPromptTemplates config tokenizer runtime contents state =
      keeping false ((contents.mapM (createInputDataCopy runtime)).map fun copies =>
        (if state ∧ bosString ≠ [] then [.text (.raw bosString)] else []) ++ copies) := by
  unfold applyPromptTemplates
  simp only [notEmpty, disabled, foundBos]
  cases copied : contents.mapM (createInputDataCopy runtime) <;> rfl

/-! ## Refused chunks -/

/-- `ApplyPromptTemplates` returns an error at this chunk. -/
def Refused (runtime : TensorRuntime Tensor) (bosString : Text) (content : InputData Tensor) :
    Prop :=
  startsWithBos bosString content.rawText = true ∨
    (createInputDataCopy runtime content).isOk = false

theorem createInputDataCopy_eq_ok {content contentCopy : InputData Tensor}
    (copied : createInputDataCopy runtime content = .ok contentCopy) : contentCopy = content := by
  have sameHeld : ∀ {held heldCopy : Held Tensor},
      held.createCopy runtime = .ok heldCopy → heldCopy = held := by
    intro held heldCopy same
    cases held with
    | raw text =>
        cases same
        rfl
    | tensorBuffer tensor =>
        unfold Held.createCopy at same
        cases fails : runtime.duplicate tensor with
        | some status => simp [fails] at same
        | none =>
            simp only [fails] at same
            cases same
            rfl
  cases content with
  | text held | image held | audio held =>
      unfold createInputDataCopy at copied
      cases result : held.createCopy runtime with
      | error status => simp [result, Except.map] at copied
      | ok heldCopy =>
          simp only [result, Except.map] at copied
          cases copied
          rw [sameHeld result]

/-- Raw text can always be copied. -/
theorem createInputDataCopy_of_rawText {content : InputData Tensor}
    (isText : content.rawText ≠ []) :
    createInputDataCopy runtime content = .ok content := by
  match content with
  | .text (.raw text) => rfl
  | .text (.tensorBuffer _) | .image _ | .audio _ => exact absurd rfl isText

theorem templatedChunk_isOk (before behind : Text) (content : InputData Tensor) :
    (templatedChunk runtime bosString before behind content).isOk = true ↔
      ¬Refused runtime bosString content := by
  unfold templatedChunk Refused
  by_cases startsWith : startsWithBos bosString content.rawText = true
  · rw [if_pos startsWith]
    simp [startsWith, StatusOr.isOk]
  · rw [if_neg startsWith]
    by_cases empty : content.rawText = []
    · rw [if_pos empty]
      cases createInputDataCopy runtime content <;>
        simp [startsWith, StatusOr.isOk, Except.map]
    · rw [if_neg empty, createInputDataCopy_of_rawText empty]
      simp [startsWith, StatusOr.isOk]

/-- The chunks of a turn are accepted when none of them is refused. -/
theorem templatedChunks_isOk (before behind : Text) (contents : List (InputData Tensor)) :
    (templatedChunks runtime bosString behind before contents).isOk = true ↔
      ∀ content ∈ contents, ¬Refused runtime bosString content := by
  induction contents generalizing before with
  | nil => simp [templatedChunks, StatusOr.isOk]
  | cons content rest inductionHypothesis =>
      rw [List.forall_mem_cons, ← inductionHypothesis [],
        ← templatedChunk_isOk before (if rest.isEmpty then behind else []) content]
      rw [templatedChunks]
      cases templatedChunk runtime bosString before (if rest.isEmpty then behind else []) content with
      | error status => simp [StatusOr.isOk, bind, Except.bind]
      | ok chunk =>
          cases templatedChunks runtime bosString behind [] rest with
          | error status => simp [StatusOr.isOk, bind, Except.bind]
          | ok chunks => simp [StatusOr.isOk, bind, Except.bind, pure, Except.pure]

end Templated

end LiteRTLM.Core.SessionUtils
