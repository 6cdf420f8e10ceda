import LiteRTLM.Core.SessionUtils.RejectedTurns

/-!
Contract: what a session prefills for its turns, as text and as tokens.

Owns: the flattened contents of a turn, the tokens of a session, where the BOS string can
come about a second time, and that it does not elsewhere.

Does not own: the encoding of text, which may give the BOS token for any text.
-/

namespace LiteRTLM.Core.SessionUtils

open LiteRTLM.Engine
open LiteRTLM.Util
open LiteRTLM.Library

variable {Tensor : Type} {config : SessionConfig} {tokenizer : EncodingTokenizer}
  {runtime : TensorRuntime Tensor} {bosString : Text}

/-! ## Flattened contents -/

/-- A character of a text, or data that is not raw text. -/
inductive Piece (Tensor : Type) where
  | character (letter : Char)
  | data (content : InputData Tensor)
deriving DecidableEq, Repr

def piecesOf (text : Text) : List (Piece Tensor) := text.map .character

def InputData.pieces : InputData Tensor → List (Piece Tensor)
  | .text (.raw rawText) => piecesOf rawText
  | content => [.data content]

/-- Contents without the boundaries of their text chunks. -/
def flatten (contents : List (InputData Tensor)) : List (Piece Tensor) :=
  contents.flatMap InputData.pieces

@[simp]
theorem flatten_cons (content : InputData Tensor) (rest : List (InputData Tensor)) :
    flatten (content :: rest) = content.pieces ++ flatten rest := List.flatMap_cons ..

@[simp]
theorem flatten_append (front back : List (InputData Tensor)) :
    flatten (front ++ back) = flatten front ++ flatten back := List.flatMap_append

@[simp]
theorem flatten_nil : flatten ([] : List (InputData Tensor)) = [] := rfl

@[simp]
theorem pieces_text (text : Text) :
    (InputData.text (Held.raw text : Held Tensor)).pieces = piecesOf text := rfl

@[simp]
theorem piecesOf_append (front back : Text) :
    (piecesOf (front ++ back) : List (Piece Tensor)) = piecesOf front ++ piecesOf back :=
  List.map_append

@[simp]
theorem piecesOf_nil : (piecesOf [] : List (Piece Tensor)) = [] := rfl

/-- A chunk with raw text is that text. -/
theorem eq_text_of_rawText {content : InputData Tensor} (isText : content.rawText ≠ []) :
    content = .text (.raw content.rawText) := by
  match content with
  | .text (.raw _) => rfl
  | .text (.tensorBuffer _) | .image _ | .audio _ => exact absurd rfl isText

/-- What an accepted chunk becomes. -/
theorem templatedChunk_eq_ok {before behind : Text} {content : InputData Tensor}
    {templated : List (InputData Tensor)}
    (ok : templatedChunk runtime bosString before behind content = .ok templated) :
    startsWithBos bosString content.rawText = false ∧
      ((content.rawText = [] ∧
          templated = (if before = [] then [] else [.text (.raw before)]) ++
            content :: if behind = [] then [] else [.text (.raw behind)]) ∨
        (content.rawText ≠ [] ∧
          templated = [.text (.raw (before ++ (content.rawText ++ behind)))])) := by
  unfold templatedChunk at ok
  by_cases startsWith : startsWithBos bosString content.rawText = true
  · rw [if_pos startsWith] at ok
    cases ok
  · rw [if_neg startsWith] at ok
    refine ⟨by simpa using startsWith, ?_⟩
    by_cases empty : content.rawText = []
    · rw [if_pos empty] at ok
      cases copied : createInputDataCopy runtime content with
      | error status =>
          rw [copied] at ok
          cases ok
      | ok contentCopy =>
          rw [copied] at ok
          cases ok
          exact .inl ⟨empty, by rw [createInputDataCopy_eq_ok copied]⟩
    · rw [if_neg empty] at ok
      cases ok
      exact .inr ⟨empty, rfl⟩

theorem flatten_templatedChunk {before behind : Text} {content : InputData Tensor}
    {templated : List (InputData Tensor)}
    (ok : templatedChunk runtime bosString before behind content = .ok templated) :
    flatten templated = piecesOf before ++ (content.pieces ++ piecesOf behind) := by
  obtain ⟨-, ⟨empty, rfl⟩ | ⟨isText, rfl⟩⟩ := templatedChunk_eq_ok ok
  · by_cases noBefore : before = [] <;> by_cases noBehind : behind = [] <;>
      simp [noBefore, noBehind]
  · rw [eq_text_of_rawText isText]
    simp [InputData.rawText]

/-- Accepted chunks, one after the other. -/
theorem templatedChunks_cons_eq_ok {before behind : Text} {content : InputData Tensor}
    {rest templated : List (InputData Tensor)}
    (ok : templatedChunks runtime bosString behind before (content :: rest) = .ok templated) :
    ∃ chunk chunks, templatedChunk runtime bosString before
        (if rest.isEmpty then behind else []) content = .ok chunk ∧
      templatedChunks runtime bosString behind [] rest = .ok chunks ∧
      templated = chunk ++ chunks := by
  rw [templatedChunks] at ok
  cases first : templatedChunk runtime bosString before (if rest.isEmpty then behind else [])
      content with
  | error status =>
      rw [first] at ok
      cases ok
  | ok chunk =>
      cases others : templatedChunks runtime bosString behind [] rest with
      | error status =>
          rw [first, others] at ok
          cases ok
      | ok chunks =>
          rw [first, others] at ok
          cases ok
          exact ⟨chunk, chunks, rfl, rfl, rfl⟩

theorem flatten_templatedChunks {before behind : Text} {contents : List (InputData Tensor)}
    (notEmpty : contents ≠ []) {templated : List (InputData Tensor)}
    (ok : templatedChunks runtime bosString behind before contents = .ok templated) :
    flatten templated = piecesOf before ++ (flatten contents ++ piecesOf behind) := by
  induction contents generalizing before templated with
  | nil => exact absurd rfl notEmpty
  | cons content rest inductionHypothesis =>
      obtain ⟨chunk, chunks, first, others, rfl⟩ := templatedChunks_cons_eq_ok ok
      rw [flatten_append, flatten_templatedChunk first]
      cases rest with
      | nil =>
          cases others
          simp
      | cons next more =>
          rw [inductionHypothesis (List.cons_ne_nil next more) others]
          simp

theorem copies_eq_ok {contents copies : List (InputData Tensor)}
    (copied : contents.mapM (createInputDataCopy runtime) = .ok copies) : copies = contents := by
  induction contents generalizing copies with
  | nil =>
      cases copied
      rfl
  | cons content rest inductionHypothesis =>
      rw [List.mapM_cons] at copied
      cases first : createInputDataCopy runtime content with
      | error status =>
          rw [first] at copied
          cases copied
      | ok contentCopy =>
          cases others : rest.mapM (createInputDataCopy runtime) with
          | error status =>
              rw [first, others] at copied
              cases copied
          | ok restCopies =>
              rw [first, others] at copied
              cases copied
              rw [createInputDataCopy_eq_ok first, inductionHypothesis others]

def flattenedTurn (config : SessionConfig) (bosString : Text) (isFirstTurn : Bool)
    (contents : List (InputData Tensor)) : List (Piece Tensor) :=
  if config.applyPromptTemplateInSession then
    piecesOf (sessionPrefix bosString isFirstTurn ++ config.userPrefix) ++
      (flatten contents ++ piecesOf (config.userSuffix ++ config.modelPrefix))
  else
    piecesOf (if isFirstTurn then bosString else []) ++ flatten contents

theorem keeping_eq_ok {α : Type} {state after : Bool} {result : StatusOr α} {value : α}
    (ok : keeping state result = .ok value after) : result = .ok value ∧ after = state := by
  cases result with
  | error status => cases ok
  | ok returned =>
      cases ok
      exact ⟨rfl, rfl⟩

theorem flatten_applyPromptTemplates {contents templated : List (InputData Tensor)}
    {isFirstTurn after : Bool} (notEmpty : contents ≠ [])
    (ok : applyPromptTemplates config tokenizer runtime contents isFirstTurn =
      .ok templated after) :
    after = false ∧ ∃ bosString, maybeGetBosString config tokenizer = .ok bosString ∧
      flatten templated = flattenedTurn config bosString isFirstTurn contents := by
  cases foundBos : maybeGetBosString config tokenizer with
  | error status =>
      rw [applyPromptTemplates_of_noBos notEmpty foundBos] at ok
      cases ok
  | ok bosString =>
      unfold flattenedTurn
      cases mode : config.applyPromptTemplateInSession with
      | true =>
          obtain ⟨first, rest, rfl⟩ := List.exists_cons_of_ne_nil notEmpty
          rw [applyPromptTemplates_of_enabled mode foundBos] at ok
          obtain ⟨accepted, isAfter⟩ := keeping_eq_ok ok
          have flattened := flatten_templatedChunks (List.cons_ne_nil first rest) accepted
          obtain ⟨chunk, -, isChunk, -, -⟩ := templatedChunks_cons_eq_ok accepted
          rw [(templatedChunk_eq_ok isChunk).1] at isAfter
          exact ⟨by simpa using isAfter, bosString, rfl, flattened⟩
      | false =>
          rw [applyPromptTemplates_of_disabled mode foundBos notEmpty] at ok
          obtain ⟨accepted, rfl⟩ := keeping_eq_ok ok
          refine ⟨rfl, bosString, rfl, ?_⟩
          cases copied : contents.mapM (createInputDataCopy runtime) with
          | error status =>
              rw [copied] at accepted
              cases accepted
          | ok copies =>
              rw [copied] at accepted
              cases accepted
              rw [copies_eq_ok copied, flatten_append]
              by_cases header : isFirstTurn = true ∧ bosString ≠ []
              · simp [header]
              · rw [if_neg header]
                cases isFirstTurn <;> simp_all

/-! ## Tokens -/

/-- A token, or the place of an image or of audio. -/
inductive StreamPart where
  | token (id : Int)
  | image
  | audio
deriving DecidableEq, Repr

/-- What preprocessed contents are in the stream of a session. -/
def InputData.stream (runtime : TensorRuntime Tensor) : InputData Tensor → List StreamPart
  | .text (.tensorBuffer tensor) => (runtime.tokenIds tensor).map .token
  | .text (.raw _) => []
  | .image _ => [.image]
  | .audio _ => [.audio]

/-- The tokens of preprocessed contents. -/
def streamOf (runtime : TensorRuntime Tensor) (contents : List (InputData Tensor)) :
    List StreamPart :=
  contents.flatMap (InputData.stream runtime)

/-- The token occurs once, at the very start. -/
def OnceAtStart (id : Int) (stream : List StreamPart) : Prop :=
  ∃ rest, stream = .token id :: rest ∧ .token id ∉ rest

/-- The prefill of one turn, as `RunPrefillAsync` prepares it. -/
def prepareTurn (config : SessionConfig) (tokenizer : EncodingTokenizer)
    (runtime : TensorRuntime Tensor) (contents : List (InputData Tensor)) :
    TurnM (List (InputData Tensor)) := do
  let templatedContents ← applyPromptTemplates config tokenizer runtime contents
  returnIfError (preprocessContents config tokenizer runtime 0 templatedContents)

/-- The prefills of a session. -/
def prepareTurns (config : SessionConfig) (tokenizer : EncodingTokenizer)
    (runtime : TensorRuntime Tensor) :
    List (List (InputData Tensor)) → TurnM (List (InputData Tensor))
  | [] => return []
  | contents :: rest => do
      let preprocessed ← prepareTurn config tokenizer runtime contents
      return preprocessed ++ (← prepareTurns config tokenizer runtime rest)

/-- The BOS string is known. -/
structure Valid (config : SessionConfig) (tokenizer : EncodingTokenizer) (bosString : Text) :
    Prop where
  startTokenId : 0 ≤ config.startTokenId
  foundBos : tokenizer.tokenIdsToText [config.startTokenId] = .ok bosString
  notEmpty : bosString ≠ []

/-- A text without the BOS string that it starts with, as it is encoded. -/
def withoutBos (bosString text : Text) : Text :=
  if startsWithBos bosString text then text.drop bosString.length else text

/-- The ids of a text hold the BOS token. -/
def EncodesBos (config : SessionConfig) (tokenizer : EncodingTokenizer)
    (bosString text : Text) : Prop :=
  ∃ ids, tokenizer.textToTokenIds (withoutBos bosString text) = .ok ids ∧
    config.startTokenId ∈ ids

def InputData.rawTexts : InputData Tensor → List Text
  | .text (.raw rawText) => [rawText]
  | _ => []

/-- The BOS token is in what a templated content is preprocessed to, apart from the ids of its
text. -/
def Marked (config : SessionConfig) (runtime : TensorRuntime Tensor) (bosString : Text) :
    InputData Tensor → Prop
  | .text (.raw text) => startsWithBos bosString text = true
  | .text (.tensorBuffer tensor) => config.startTokenId ∈ runtime.tokenIds tensor
  | _ => False

theorem Valid.maybeGetBosString (valid : Valid config tokenizer bosString) :
    maybeGetBosString config tokenizer = .ok bosString := by
  rw [SessionUtils.maybeGetBosString, if_pos valid.startTokenId, valid.foundBos]

/-- The tokens of a text: the BOS token in front of the ids, for a text that starts with the
BOS string. -/
theorem stream_stringToProcessedInputText (valid : Valid config tokenizer bosString)
    {text : Text} {processed : InputData Tensor}
    (ok : stringToProcessedInputText config tokenizer runtime 0 text = .ok processed) :
    ∃ ids, (config.startTokenId ∈ ids ↔ EncodesBos config tokenizer bosString text) ∧
      processed.stream runtime = ((if startsWithBos bosString text then
        config.startTokenId :: ids else ids).map .token) := by
  rw [stringToProcessedInputText, valid.maybeGetBosString] at ok
  simp only [bind, Except.bind, lt_irrefl, if_false] at ok
  rw [← withoutBos] at ok
  cases encoded : tokenizer.textToTokenIds (withoutBos bosString text) with
  | error status =>
      rw [encoded] at ok
      cases ok
  | ok ids =>
      rw [encoded] at ok
      simp only at ok
      cases copied : runtime.copyToTensorBuffer
          (if startsWithBos bosString text then config.startTokenId :: ids else ids) with
      | error status =>
          rw [copied] at ok
          cases ok
      | ok tensor =>
          rw [copied] at ok
          cases ok
          refine ⟨ids, ?_, ?_⟩
          · simp [EncodesBos, encoded]
          · rw [InputData.stream, runtime.tokenIds_copy _ tensor copied]

theorem stream_preprocessContent (valid : Valid config tokenizer bosString)
    {content processed : InputData Tensor}
    (ok : preprocessContent config tokenizer runtime 0 content = .ok processed) :
    .token config.startTokenId ∈ processed.stream runtime ↔
      Marked config runtime bosString content ∨
        ∃ text ∈ content.rawTexts, EncodesBos config tokenizer bosString text := by
  cases content with
  | text held =>
      cases held with
      | raw text =>
          obtain ⟨ids, encodes, isStream⟩ := stream_stringToProcessedInputText valid ok
          rw [isStream, Marked]
          cases startsWithBos bosString text <;> simp [InputData.rawTexts, encodes]
      | tensorBuffer tensor =>
          have isCopy : processed = .text (.tensorBuffer tensor) := createInputDataCopy_eq_ok ok
          simp [isCopy, InputData.stream, InputData.rawTexts, Marked]
  | image held =>
      cases held with
      | raw bytes => cases ok
      | tensorBuffer tensor =>
          have isCopy : processed = .image (.tensorBuffer tensor) := createInputDataCopy_eq_ok ok
          simp [isCopy, InputData.stream, InputData.rawTexts, Marked]
  | audio held =>
      cases held with
      | raw bytes => cases ok
      | tensorBuffer tensor =>
          have isCopy : processed = .audio (.tensorBuffer tensor) := createInputDataCopy_eq_ok ok
          simp [isCopy, InputData.stream, InputData.rawTexts, Marked]

theorem preprocessContents_cons_eq_ok {content : InputData Tensor}
    {rest preprocessed : List (InputData Tensor)}
    (ok : preprocessContents config tokenizer runtime 0 (content :: rest) = .ok preprocessed) :
    ∃ processed others, preprocessContent config tokenizer runtime 0 content = .ok processed ∧
      preprocessContents config tokenizer runtime 0 rest = .ok others ∧
      preprocessed = processed :: others := by
  rw [preprocessContents, List.mapM_cons] at ok
  cases first : preprocessContent config tokenizer runtime 0 content with
  | error status =>
      rw [first] at ok
      cases ok
  | ok processed =>
      cases others : rest.mapM (preprocessContent config tokenizer runtime 0) with
      | error status =>
          rw [first, others] at ok
          cases ok
      | ok processedRest =>
          rw [first, others] at ok
          cases ok
          exact ⟨processed, processedRest, rfl, others, rfl⟩

theorem stream_preprocessContents (valid : Valid config tokenizer bosString)
    {contents preprocessed : List (InputData Tensor)}
    (ok : preprocessContents config tokenizer runtime 0 contents = .ok preprocessed) :
    .token config.startTokenId ∈ streamOf runtime preprocessed ↔
      (∃ content ∈ contents, Marked config runtime bosString content) ∨
        ∃ text ∈ contents.flatMap InputData.rawTexts,
          EncodesBos config tokenizer bosString text := by
  induction contents generalizing preprocessed with
  | nil =>
      cases ok
      simp [streamOf]
  | cons content rest inductionHypothesis =>
      obtain ⟨processed, others, first, isRest, rfl⟩ := preprocessContents_cons_eq_ok ok
      rw [streamOf, List.flatMap_cons, List.mem_append, stream_preprocessContent valid first,
        ← streamOf, inductionHypothesis isRest, List.exists_mem_cons_iff, List.flatMap_cons]
      simp only [List.mem_append, or_and_right, exists_or]
      exact or_or_or_comm

/-! ## Where texts meet -/

/-- The text of the first chunk of a turn with what precedes it. -/
def frontText (before behind : Text) : List (InputData Tensor) → Text
  | [] => []
  | [only] => before ++ if only.rawText = [] then [] else only.rawText ++ behind
  | first :: _ :: _ => before ++ first.rawText

/-- The text of the last chunk with what follows it. -/
def lastText (behind : Text) : List (InputData Tensor) → Text
  | [] => []
  | [last] => last.rawText ++ behind
  | _ :: next :: rest => lastText behind (next :: rest)

/-- The text behind a turn that is not part of its first text. -/
def backText (behind : Text) : List (InputData Tensor) → Text
  | [] => []
  | [only] => if only.rawText = [] then behind else []
  | _ :: next :: rest => lastText behind (next :: rest)

/-- The texts that a chunk and the templates around it are encoded as: around a chunk without
raw text, the templates are texts of their own. -/
def chunkTexts (before behind : Text) (content : InputData Tensor) : List Text :=
  if content.rawText = [] then
    (if before = [] then [] else [before]) ++ content.rawTexts ++
      if behind = [] then [] else [behind]
  else
    [before ++ (content.rawText ++ behind)]

def turnTexts (behind : Text) : Text → List (InputData Tensor) → List Text
  | _, [] => []
  | before, content :: rest =>
      chunkTexts before (if rest.isEmpty then behind else []) content ++
        turnTexts behind [] rest

theorem rawTexts_templatedChunk {before behind : Text} {content : InputData Tensor}
    {templated : List (InputData Tensor)}
    (ok : templatedChunk runtime bosString before behind content = .ok templated) :
    templated.flatMap InputData.rawTexts = chunkTexts before behind content := by
  rw [chunkTexts]
  obtain ⟨-, ⟨empty, rfl⟩ | ⟨isText, rfl⟩⟩ := templatedChunk_eq_ok ok
  · rw [if_pos empty]
    by_cases noBefore : before = [] <;> by_cases noBehind : behind = [] <;>
      simp [noBefore, noBehind, InputData.rawTexts]
  · rw [if_neg isText]
    rfl

/-- The texts of an accepted turn are those of its contents and templates. -/
theorem rawTexts_templatedChunks {before behind : Text} {contents : List (InputData Tensor)}
    {templated : List (InputData Tensor)}
    (ok : templatedChunks runtime bosString behind before contents = .ok templated) :
    templated.flatMap InputData.rawTexts = turnTexts behind before contents := by
  induction contents generalizing before templated with
  | nil =>
      cases ok
      rfl
  | cons content rest inductionHypothesis =>
      obtain ⟨chunk, chunks, first, others, rfl⟩ := templatedChunks_cons_eq_ok ok
      rw [List.flatMap_append, rawTexts_templatedChunk first, inductionHypothesis others,
        turnTexts]

/-- A tensor of token ids holds the BOS token. -/
def TensorMarked (config : SessionConfig) (runtime : TensorRuntime Tensor)
    (contents : List (InputData Tensor)) : Prop :=
  ∃ tensor, .text (.tensorBuffer tensor) ∈ contents ∧
    config.startTokenId ∈ runtime.tokenIds tensor

theorem tensorMarked_cons (content : InputData Tensor) (rest : List (InputData Tensor)) :
    TensorMarked config runtime (content :: rest) ↔
      (content.rawText = [] ∧ Marked config runtime [] content) ∨
        TensorMarked config runtime rest := by
  unfold TensorMarked
  match content with
  | .text (.raw text) => simp [Marked, startsWithBos]
  | .text (.tensorBuffer tensor) =>
      simp only [InputData.rawText, Marked, true_and, List.mem_cons, InputData.text.injEq,
        Held.tensorBuffer.injEq]
      constructor
      · rintro ⟨other, rfl | isIn, marked⟩
        · exact .inl marked
        · exact .inr ⟨other, isIn, marked⟩
      · rintro (marked | ⟨other, isIn, marked⟩)
        · exact ⟨tensor, .inl rfl, marked⟩
        · exact ⟨other, .inr isIn, marked⟩
  | .image held | .audio held => simp [Marked]

/-- Without raw text, only the tokens of a tensor can be marked. -/
theorem marked_of_noText (bosString : Text) {content : InputData Tensor}
    (noText : content.rawText = []) :
    Marked config runtime bosString content ↔
      content.rawText = [] ∧ Marked config runtime [] content := by
  match content with
  | .text (.raw text) =>
      simp only [InputData.rawText] at noText
      subst noText
      cases bosString <;> simp [Marked, startsWithBos, InputData.rawText]
  | .text (.tensorBuffer tensor) => simp [Marked, InputData.rawText]
  | .image held | .audio held => simp [Marked]

@[simp]
theorem startsWithBos_nil (bosString : Text) : startsWithBos bosString [] = false := by
  cases bosString <;> rfl

/-- Around a chunk without raw text, the templates are texts of their own. -/
theorem exists_marked_apart {before behind : Text} {content : InputData Tensor} :
    (∃ templated ∈ (if before = [] then [] else [.text (.raw before)]) ++
        content :: if behind = [] then [] else [.text (.raw behind)],
      Marked config runtime bosString templated) ↔
      startsWithBos bosString before = true ∨ Marked config runtime bosString content ∨
        startsWithBos bosString behind = true := by
  by_cases noBefore : before = [] <;> by_cases noBehind : behind = [] <;>
    simp [noBefore, noBehind, Marked]

/-- In the chunks of a turn behind its first one, the BOS string can come about at the
end. -/
theorem exists_marked_later (config : SessionConfig) {behind : Text}
    {contents templated : List (InputData Tensor)}
    (ok : templatedChunks runtime bosString behind [] contents = .ok templated) :
    (∃ chunk ∈ templated, Marked config runtime bosString chunk) ↔
      startsWithBos bosString (lastText behind contents) = true ∨
        TensorMarked config runtime contents := by
  induction contents generalizing templated with
  | nil =>
      cases ok
      simp [lastText, TensorMarked]
  | cons content rest inductionHypothesis =>
      obtain ⟨chunk, chunks, first, others, rfl⟩ := templatedChunks_cons_eq_ok ok
      have restMarked := inductionHypothesis others
      rw [tensorMarked_cons]
      simp only [List.mem_append, or_and_right, exists_or]
      rw [restMarked]
      obtain ⟨notStart, ⟨empty, rfl⟩ | ⟨isText, rfl⟩⟩ := templatedChunk_eq_ok first
      · rw [exists_marked_apart, ← marked_of_noText bosString empty]
        cases rest with
        | nil =>
            simp only [lastText, empty, List.isEmpty_nil, if_true, List.nil_append,
              startsWithBos_nil]
            tauto
        | cons next more =>
            simp only [lastText, List.isEmpty_cons, startsWithBos_nil, Bool.false_eq_true, if_false]
            tauto
      · cases rest with
        | nil => simp [lastText, isText, Marked]
        | cons next more => simp [lastText, isText, Marked, notStart]

/-- A turn begins with its front text; behind it the BOS string can come about at the end. -/
theorem templatedTurn (config : SessionConfig) {before behind : Text} (notEmpty : before ≠ [])
    {first : InputData Tensor} {rest templated : List (InputData Tensor)}
    (ok : templatedChunks runtime bosString behind before (first :: rest) = .ok templated) :
    ∃ others, templated = .text (.raw (frontText before behind (first :: rest))) :: others ∧
      ((∃ chunk ∈ others, Marked config runtime bosString chunk) ↔
        startsWithBos bosString (backText behind (first :: rest)) = true ∨
          TensorMarked config runtime (first :: rest)) := by
  obtain ⟨chunk, chunks, isFirst, isRest, rfl⟩ := templatedChunks_cons_eq_ok ok
  have restMarked := exists_marked_later config isRest
  rw [tensorMarked_cons]
  obtain ⟨-, ⟨empty, rfl⟩ | ⟨isText, rfl⟩⟩ := templatedChunk_eq_ok isFirst
  · simp only [notEmpty, if_false, List.cons_append, List.nil_append]
    refine ⟨_, congrArg₂ List.cons (by cases rest <;> simp [frontText, empty]) rfl, ?_⟩
    rw [← marked_of_noText bosString empty]
    simp only [List.exists_mem_cons_iff, List.mem_append, or_and_right, exists_or, restMarked]
    cases rest with
    | nil =>
        by_cases noBehind : behind = [] <;> simp [backText, lastText, empty, noBehind, Marked]
        tauto
    | cons next more =>
        simp [backText]
        tauto
  · refine ⟨chunks, congrArg₂ List.cons (by cases rest <;> simp [frontText, isText]) rfl, ?_⟩
    rw [restMarked]
    cases rest with
    | nil => simp [backText, lastText, isText]
    | cons next more => simp [backText, isText]

/-! ## Turns of a session -/

/-- The BOS token comes about in a turn, apart from the start of the first turn: a later
turn begins with the BOS string, or its last text does together with what follows it, or
a tensor of token ids holds the token, or the ids of one of its texts do. -/
def BosInside (config : SessionConfig) (tokenizer : EncodingTokenizer)
    (runtime : TensorRuntime Tensor) (bosString : Text) (isFirstTurn : Bool)
    (contents : List (InputData Tensor)) : Prop :=
  (isFirstTurn = false ∧ startsWithBos bosString
      (frontText ('\n' :: config.userPrefix) config.turnSuffix contents) = true) ∨
    startsWithBos bosString (backText config.turnSuffix contents) = true ∨
      TensorMarked config runtime contents ∨
        ∃ text ∈ turnTexts config.turnSuffix
            (sessionPrefix bosString isFirstTurn ++ config.userPrefix) contents,
          EncodesBos config tokenizer bosString text

/-- An accepted turn, with templates. -/
theorem prepareTurn_eq_ok (valid : Valid config tokenizer bosString)
    (enabled : config.applyPromptTemplateInSession = true)
    {contents preprocessed : List (InputData Tensor)} {isFirstTurn after : Bool}
    (notEmpty : contents ≠ [])
    (ok : prepareTurn config tokenizer runtime contents isFirstTurn = .ok preprocessed after) :
    after = false ∧ ∃ templated,
      templatedChunks runtime bosString config.turnSuffix
        (sessionPrefix bosString isFirstTurn ++ config.userPrefix) contents = .ok templated ∧
      preprocessContents config tokenizer runtime 0 templated = .ok preprocessed := by
  obtain ⟨first, rest, rfl⟩ := List.exists_cons_of_ne_nil notEmpty
  unfold prepareTurn at ok
  cases applied : applyPromptTemplates config tokenizer runtime (first :: rest) isFirstTurn with
  | error status between =>
      rw [bind_of_error applied] at ok
      cases ok
  | ok templated between =>
      rw [bind_of_ok applied, returnIfError_eq] at ok
      obtain ⟨isPreprocessed, rfl⟩ := keeping_eq_ok ok
      obtain ⟨cleared, -⟩ := flatten_applyPromptTemplates (List.cons_ne_nil first rest) applied
      rw [applyPromptTemplates_of_enabled enabled valid.maybeGetBosString] at applied
      exact ⟨cleared, templated, (keeping_eq_ok applied).1, isPreprocessed⟩

theorem prefix_ne_nil (valid : Valid config tokenizer bosString) (isFirstTurn : Bool) :
    sessionPrefix bosString isFirstTurn ++ config.userPrefix ≠ [] := by
  have notEmpty := valid.notEmpty
  cases isFirstTurn <;> simp [sessionPrefix, notEmpty]

/-- The tokens of a turn: those of its front text, then the others, among which the BOS
token comes about as `BosInside` says. -/
theorem stream_prepareTurn (valid : Valid config tokenizer bosString)
    (enabled : config.applyPromptTemplateInSession = true)
    {contents preprocessed : List (InputData Tensor)} {isFirstTurn after : Bool}
    (notEmpty : contents ≠ [])
    (ok : prepareTurn config tokenizer runtime contents isFirstTurn = .ok preprocessed after) :
    after = false ∧
      ∃ ids others, streamOf runtime preprocessed = ((if startsWithBos bosString
            (frontText (sessionPrefix bosString isFirstTurn ++ config.userPrefix)
              config.turnSuffix contents) then
          config.startTokenId :: ids else ids).map .token) ++ others ∧
        (config.startTokenId ∈ ids ∨ .token config.startTokenId ∈ others ↔
          startsWithBos bosString (backText config.turnSuffix contents) = true ∨
            TensorMarked config runtime contents ∨
              ∃ text ∈ turnTexts config.turnSuffix
                  (sessionPrefix bosString isFirstTurn ++ config.userPrefix) contents,
                EncodesBos config tokenizer bosString text) := by
  obtain ⟨cleared, templated, accepted, isPreprocessed⟩ :=
    prepareTurn_eq_ok valid enabled notEmpty ok
  have texts := rawTexts_templatedChunks accepted
  obtain ⟨first, rest, rfl⟩ := List.exists_cons_of_ne_nil notEmpty
  obtain ⟨behindFront, rfl, marked⟩ :=
    templatedTurn config (prefix_ne_nil valid isFirstTurn) accepted
  obtain ⟨processed, others, isFront, isOthers, rfl⟩ := preprocessContents_cons_eq_ok isPreprocessed
  obtain ⟨ids, encodes, isStream⟩ := stream_stringToProcessedInputText valid isFront
  refine ⟨cleared, ids, streamOf runtime others, ?_, ?_⟩
  · rw [streamOf, List.flatMap_cons, isStream]
    rfl
  · rw [stream_preprocessContents valid isOthers, marked, encodes, ← texts, List.flatMap_cons]
    simp only [InputData.rawTexts, List.singleton_append, List.exists_mem_cons_iff]
    tauto

theorem prepareTurns_cons_eq_ok {contents : List (InputData Tensor)}
    {rest : List (List (InputData Tensor))} {prepared : List (InputData Tensor)}
    {isFirstTurn after : Bool}
    (ok : prepareTurns config tokenizer runtime (contents :: rest) isFirstTurn =
      .ok prepared after) :
    ∃ turn others between,
      prepareTurn config tokenizer runtime contents isFirstTurn = .ok turn between ∧
      prepareTurns config tokenizer runtime rest between = .ok others after ∧
      prepared = turn ++ others := by
  rw [prepareTurns] at ok
  cases first : prepareTurn config tokenizer runtime contents isFirstTurn with
  | error status between =>
      rw [bind_of_error first] at ok
      cases ok
  | ok turn between =>
      rw [bind_of_ok first] at ok
      cases later : prepareTurns config tokenizer runtime rest between with
      | error status final =>
          rw [bind_of_error later] at ok
          cases ok
      | ok others final =>
          rw [bind_of_ok later] at ok
          cases ok
          exact ⟨turn, others, between, rfl, later, rfl⟩

/-- In later turns the BOS token comes about exactly as `BosInside` says. -/
theorem stream_laterTurns (valid : Valid config tokenizer bosString)
    (enabled : config.applyPromptTemplateInSession = true)
    {turns : List (List (InputData Tensor))} (notEmpty : ∀ contents ∈ turns, contents ≠ [])
    {prepared : List (InputData Tensor)} {after : Bool}
    (ok : prepareTurns config tokenizer runtime turns false = .ok prepared after) :
    .token config.startTokenId ∈ streamOf runtime prepared ↔
      ∃ contents ∈ turns, BosInside config tokenizer runtime bosString false contents := by
  induction turns generalizing prepared with
  | nil =>
      cases ok
      simp [streamOf]
  | cons contents rest inductionHypothesis =>
      obtain ⟨turn, others, between, isTurn, isOthers, rfl⟩ := prepareTurns_cons_eq_ok ok
      rw [List.forall_mem_cons] at notEmpty
      obtain ⟨rfl, ids, back, isStream, marked⟩ :=
        stream_prepareTurn valid enabled notEmpty.1 isTurn
      have later := inductionHypothesis notEmpty.2 isOthers
      rw [streamOf] at isStream later ⊢
      rw [List.flatMap_append, List.mem_append, isStream, List.exists_mem_cons_iff, later,
        List.mem_append, BosInside, ← marked]
      apply or_congr _ Iff.rfl
      simp only [sessionPrefix, Bool.false_eq_true, if_false, true_and, List.singleton_append]
      split <;> simp_all

/-- In no turn of a session does the BOS token come about apart from its start. -/
def NoBosInside (config : SessionConfig) (tokenizer : EncodingTokenizer)
    (runtime : TensorRuntime Tensor) (bosString : Text) :
    List (List (InputData Tensor)) → Prop
  | [] => True
  | first :: rest => ¬BosInside config tokenizer runtime bosString true first ∧
      ∀ contents ∈ rest, ¬BosInside config tokenizer runtime bosString false contents

theorem onceAtStart_cons (id : Int) (rest : List StreamPart) :
    OnceAtStart id (.token id :: rest) ↔ .token id ∉ rest := by
  simp [OnceAtStart]

/-- The first turn starts with the BOS string. -/
theorem startsWithBos_frontText (valid : Valid config tokenizer bosString) (behind : Text)
    {contents : List (InputData Tensor)} (notEmpty : contents ≠ []) :
    startsWithBos bosString
      (frontText (sessionPrefix bosString true ++ config.userPrefix) behind contents) = true := by
  have bosNotEmpty := valid.notEmpty
  match contents with
  | [only] => simp [frontText, sessionPrefix, startsWithBos, bosNotEmpty]
  | first :: next :: rest => simp [frontText, sessionPrefix, startsWithBos, bosNotEmpty]

theorem onceAtStart_iff (valid : Valid config tokenizer bosString)
    (enabled : config.applyPromptTemplateInSession = true)
    {turns : List (List (InputData Tensor))} (started : turns ≠ [])
    (notEmpty : ∀ contents ∈ turns, contents ≠ [])
    {prepared : List (InputData Tensor)} {after : Bool}
    (ok : prepareTurns config tokenizer runtime turns true = .ok prepared after) :
    OnceAtStart config.startTokenId (streamOf runtime prepared) ↔
      NoBosInside config tokenizer runtime bosString turns := by
  obtain ⟨first, rest, rfl⟩ := List.exists_cons_of_ne_nil started
  obtain ⟨turn, others, between, isTurn, isOthers, rfl⟩ := prepareTurns_cons_eq_ok ok
  rw [List.forall_mem_cons] at notEmpty
  obtain ⟨rfl, ids, back, isStream, marked⟩ :=
    stream_prepareTurn valid enabled notEmpty.1 isTurn
  have later := stream_laterTurns valid enabled notEmpty.2 isOthers
  rw [if_pos (startsWithBos_frontText valid _ notEmpty.1)] at isStream
  rw [streamOf] at isStream later ⊢
  rw [List.flatMap_append, isStream, List.map_cons, List.cons_append, List.cons_append,
    onceAtStart_cons, List.mem_append, List.mem_append, later, NoBosInside, BosInside, ← marked]
  simp [and_assoc]

/-- **Prompt templates.** An accepted turn is flattened to what precedes it in the session,
its contents in order and the templates around them. With templates, the tokens of a session
hold the BOS token once, at the start, if and only if it does not come about inside a turn. -/
theorem promptTemplates_keepTurns (tokenizer : EncodingTokenizer)
    (runtime : TensorRuntime Tensor) (config : SessionConfig) :
    (∀ (contents templated : List (InputData Tensor)) (isFirstTurn after : Bool),
      contents ≠ [] →
      applyPromptTemplates config tokenizer runtime contents isFirstTurn = .ok templated after →
        after = false ∧ ∃ bosString, maybeGetBosString config tokenizer = .ok bosString ∧
          flatten templated = flattenedTurn config bosString isFirstTurn contents) ∧
    ∀ (bosString : Text) (turns : List (List (InputData Tensor)))
      (prepared : List (InputData Tensor)) (after : Bool),
      Valid config tokenizer bosString → config.applyPromptTemplateInSession = true →
      turns ≠ [] → (∀ contents ∈ turns, contents ≠ []) →
      prepareTurns config tokenizer runtime turns true = .ok prepared after →
        (OnceAtStart config.startTokenId (streamOf runtime prepared) ↔
          NoBosInside config tokenizer runtime bosString turns) :=
  ⟨fun _ _ _ _ notEmpty ok => flatten_applyPromptTemplates notEmpty ok,
    fun _ _ _ _ valid enabled started notEmpty ok =>
      onceAtStart_iff valid enabled started notEmpty ok⟩

theorem valid_letterTokenizer (applyPromptTemplateInSession : Bool) :
    Valid (startConfig applyPromptTemplateInSession) letterTokenizer "<s>".toList where
  startTokenId := by simp [startConfig]
  foundBos := rfl
  notEmpty := by simp

/-- Letters are not the BOS token. -/
theorem letterTokenizer_not_encodesBos (applyPromptTemplateInSession : Bool)
    (bosString text : Text) :
    ¬EncodesBos (startConfig applyPromptTemplateInSession) letterTokenizer bosString text := by
  rintro ⟨ids, encoded, holds⟩
  cases encoded
  simp only [startConfig, List.mem_map] at holds
  obtain ⟨letter, -, isStart⟩ := holds
  omega

/-- Two turns of one text each. -/
def plainTurns : List (List (InputData (List Int))) :=
  [[.text (.raw "a".toList)], [.text (.raw "b".toList)]]

theorem promptTemplates_keep_plainTurns :
    ∃ prepared, prepareTurns (startConfig true) letterTokenizer idsRuntime plainTurns true =
        .ok prepared false ∧
      OnceAtStart 2 (streamOf idsRuntime prepared) ∧
      ∃ templated, applyPromptTemplates (startConfig true) letterTokenizer idsRuntime
          [.text (.raw "a".toList)] true = .ok templated false ∧
        flatten templated = flattenedTurn (startConfig true) "<s>".toList true
          [.text (.raw "a".toList)] := by
  have keepTurns := promptTemplates_keepTurns letterTokenizer idsRuntime (startConfig true)
  refine ⟨_, rfl, ?_, _, rfl, ?_⟩
  · refine (keepTurns.2 "<s>".toList plainTurns _ false (valid_letterTokenizer true) rfl
      (List.cons_ne_nil _ _) (by decide) rfl).mpr ⟨?_, ?_⟩
    · simp [BosInside, TensorMarked, backText, InputData.rawText, letterTokenizer_not_encodesBos]
    · simp only [BosInside, letterTokenizer_not_encodesBos]
      simp [TensorMarked, backText, frontText, startConfig, startsWithBos, InputData.rawText]
  · obtain ⟨-, bosString, foundBos, flattened⟩ :=
      keepTurns.1 [.text (.raw "a".toList)] _ true false (List.cons_ne_nil _ _) rfl
    rw [(valid_letterTokenizer true).maybeGetBosString] at foundBos
    cases foundBos
    exact flattened

/-- A suffix that completes the BOS string behind a raw text. -/
def splitConfig : SessionConfig := { startConfig true with userSuffix := "s>".toList }

/-- The raw text `<` and the suffix `s>` make up the BOS string, which is then encoded as a
second BOS token. -/
theorem promptTemplates_repeat_bos :
    ¬∀ (Tensor : Type) (tokenizer : EncodingTokenizer) (runtime : TensorRuntime Tensor)
      (config : SessionConfig) (bosString : Text) (turns : List (List (InputData Tensor)))
      (prepared : List (InputData Tensor)) (after : Bool),
      Valid config tokenizer bosString → config.applyPromptTemplateInSession = true →
      (∀ text ∈ [config.userPrefix, config.userSuffix, config.modelPrefix],
        startsWithBos bosString text = false) →
      (∀ contents ∈ turns, ∀ content ∈ contents,
        startsWithBos bosString content.rawText = false) →
      turns ≠ [] → (∀ contents ∈ turns, contents ≠ []) →
      prepareTurns config tokenizer runtime turns true = .ok prepared after →
        OnceAtStart config.startTokenId (streamOf runtime prepared) := by
  intro once
  obtain ⟨rest, isStream, notIn⟩ := once (List Int) letterTokenizer idsRuntime splitConfig
    "<s>".toList [[.text (.raw "a".toList), .text (.raw "<".toList)]] _ _
    ⟨by decide, rfl, by decide⟩ rfl (by decide)
    (by decide) (List.cons_ne_nil _ _) (by decide) rfl
  cases isStream
  exact notIn (by decide)

end LiteRTLM.Core.SessionUtils
