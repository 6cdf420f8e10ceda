import LiteRTLM.Conversation.Conversation
import LiteRTLM.Conversation.ModelDataProcessor.Gemma3InputData
import Mathlib.Data.List.Forall2

/-!
Contract: the attachments of a turn and the placeholders of its prompt.

Owns: a prompt as characters and placeholders, the input data as characters and attachments, when
the attachments are put in the places of the placeholders, and the turns for which they are.

Does not own: how a prompt is rendered.
-/

namespace LiteRTLM.Conversation.Gemma3Input

open LiteRTLM.Engine
open LiteRTLM.Util
open InputProcessor

variable {Number File Image Audio : Type}

/-! ## Prompts -/

inductive Placeholder where
  | image
  | audio
deriving DecidableEq, Repr

inductive PromptToken where
  | character (symbol : Char)
  | placeholder (kind : Placeholder)
deriving DecidableEq, Repr

def placeholderOf (part : Text) : Placeholder := if isImage part then .image else .audio

/-- A prompt from left to right: its characters and its placeholders. The number counts the
characters that belong to the last placeholder. -/
def promptTokens : Nat → Text → List PromptToken
  | _, [] => []
  | skipped + 1, _ :: text => promptTokens skipped text
  | 0, symbol :: text =>
      match delimiterAt (symbol :: text) with
      | some part => .placeholder (placeholderOf part) :: promptTokens (part.length - 1) text
      | none => .character symbol :: promptTokens 0 text

def placeholderCount (kind : Placeholder) (tokens : List PromptToken) : Nat :=
  tokens.count (.placeholder kind)

theorem promptTokens_skip (skipped : Nat) (text : Text) :
    promptTokens skipped text = promptTokens 0 (text.drop skipped) := by
  induction skipped generalizing text with
  | zero => rw [List.drop_zero]
  | succ skipped inductionHypothesis =>
      cases text with
      | nil => rfl
      | cons symbol text =>
          rw [promptTokens, inductionHypothesis, List.drop_succ_cons]

theorem delimiter_ne_nil {part : Text} (isDelimiter : part ∈ delimiters) : part ≠ [] := by
  rintro rfl
  revert isDelimiter
  decide

theorem delimiterAt_mem {text part : Text} (found : delimiterAt text = some part) :
    part ∈ delimiters :=
  List.mem_of_find?_eq_some found

/-- A prompt without a match has no placeholders. -/
theorem promptTokens_of_none {text : Text} (none : findAndConsume text = none) :
    promptTokens 0 text = text.map PromptToken.character := by
  induction text with
  | nil => rfl
  | cons symbol text inductionHypothesis =>
      rw [findAndConsume] at none
      cases here : delimiterAt (symbol :: text) with
      | some part =>
          rw [here] at none
          exact absurd none nofun
      | none =>
          rw [here] at none
          simp only [Option.map_eq_none_iff] at none
          rw [promptTokens, here]
          simp only [inductionHypothesis none, List.map_cons]

/-- A match is the first placeholder. -/
theorem promptTokens_of_some {text before part rest : Text}
    (found : findAndConsume text = some (before, part, rest)) :
    part ∈ delimiters ∧ rest.length < text.length ∧
      promptTokens 0 text =
        before.map PromptToken.character ++
          .placeholder (placeholderOf part) :: promptTokens 0 rest := by
  induction text generalizing before with
  | nil => exact absurd found nofun
  | cons symbol text inductionHypothesis =>
      rw [findAndConsume] at found
      cases here : delimiterAt (symbol :: text) with
      | some other =>
          rw [here] at found
          simp only [Option.some.injEq, Prod.mk.injEq] at found
          obtain ⟨rfl, rfl, rfl⟩ := found
          have isDelimiter := delimiterAt_mem here
          have positive := List.length_pos_of_ne_nil (delimiter_ne_nil isDelimiter)
          refine ⟨isDelimiter, ?_, ?_⟩
          · rw [List.length_drop, List.length_cons]
            omega
          · rw [promptTokens, here]
            simp only
            rw [promptTokens_skip, List.map_nil, List.nil_append,
              ← List.drop_succ_cons (a := symbol), Nat.sub_add_cancel positive]
      | none =>
          rw [here] at found
          simp only [Option.map_eq_some_iff, Prod.exists, Prod.mk.injEq] at found
          obtain ⟨earlier, _, _, later, rfl, rfl, rfl⟩ := found
          obtain ⟨isDelimiter, shorter, tokens⟩ := inductionHypothesis later
          refine ⟨isDelimiter, Nat.lt_succ_of_lt shorter, ?_⟩
          rw [promptTokens, here]
          simp only
          rw [tokens, List.map_cons, List.cons_append]

/-! ## Input data by characters -/

/-- A text as one text for each character. -/
def InputData.symbols : InputData Image Audio → List (InputData Image Audio)
  | .text content => content.map fun symbol => .text [symbol]
  | .image data => [.image data]
  | .audio data => [.audio data]

/-- The input data as characters, images and audio. -/
def symbolsOf (data : List (InputData Image Audio)) : List (InputData Image Audio) :=
  data.flatMap InputData.symbols

/-- The text of one part; an attachment has none. -/
def InputData.content : InputData Image Audio → Text
  | .text content => content
  | .image _ => []
  | .audio _ => []

/-- The concatenated text parts. -/
def textOf (data : List (InputData Image Audio)) : Text := data.flatMap InputData.content

theorem textOf_append (front back : List (InputData Image Audio)) :
    textOf (front ++ back) = textOf front ++ textOf back :=
  List.flatMap_append

theorem symbolsOf_append (front back : List (InputData Image Audio)) :
    symbolsOf (front ++ back) = symbolsOf front ++ symbolsOf back :=
  List.flatMap_append

theorem textOf_symbols (data : InputData Image Audio) : textOf data.symbols = data.content := by
  cases data with
  | text content =>
      rw [InputData.symbols, textOf, List.flatMap_map]
      exact List.flatMap_singleton' content
  | image image => rfl
  | audio audio => rfl

theorem textOf_symbolsOf (data : List (InputData Image Audio)) :
    textOf (symbolsOf data) = textOf data := by
  induction data with
  | nil => rfl
  | cons first data inductionHypothesis =>
      change textOf (first.symbols ++ symbolsOf data) = first.content ++ textOf data
      rw [textOf_append, textOf_symbols, inductionHypothesis]

namespace InputProcessor

variable (processor : InputProcessor File Image Audio)

/-- The text around an attachment of one kind: in front of it, and behind it. -/
def textBefore : Placeholder → Text
  | .image => "\n\n".toList ++ processor.boiToken
  | .audio => "\n\n".toList ++ processor.boaToken

def textAfter : Text := "\n\n".toList

/-- An attachment with the text around it. -/
def attachment (kind : Placeholder) (data : InputData Image Audio) : List (InputData Image Audio) :=
  symbolsOf [.text (processor.textBefore kind), data, .text textAfter]

/-- The prompt with the attachments in the places of the placeholders, in their order. -/
def filledPrompt : List PromptToken → List Image → List Audio →
    List (InputData Image Audio)
  | .character symbol :: tokens, images, audios =>
      .text [symbol] :: filledPrompt tokens images audios
  | .placeholder .image :: tokens, image :: images, audios =>
      processor.attachment .image (.image image) ++ filledPrompt tokens images audios
  | .placeholder .audio :: tokens, images, audio :: audios =>
      processor.attachment .audio (.audio audio) ++ filledPrompt tokens images audios
  | _, _, _ => []

/-- The prompt with every placeholder replaced by the text around its attachment. -/
def restoredPrompt (tokens : List PromptToken) : Text :=
  tokens.flatMap fun
    | .character symbol => [symbol]
    | .placeholder kind => processor.textBefore kind ++ textAfter

/-- There are as many attachments of each kind as placeholders. -/
def CountsMatch (tokens : List PromptToken) (images : List Image) (audios : List Audio) :
    Prop :=
  placeholderCount .image tokens = images.length ∧ placeholderCount .audio tokens = audios.length

variable {processor} {tokens : List PromptToken} {images : List Image}
  {audios : List Audio}

theorem placeholderCount_character (kind : Placeholder) (symbol : Char) :
    placeholderCount kind (.character symbol :: tokens) = placeholderCount kind tokens := by
  have apart : PromptToken.character symbol ≠ .placeholder kind := nofun
  exact List.count_cons_of_ne apart

theorem placeholderCount_self (kind : Placeholder) :
    placeholderCount kind (.placeholder kind :: tokens) = placeholderCount kind tokens + 1 :=
  List.count_cons_self

theorem placeholderCount_other {kind other : Placeholder} (apart : other ≠ kind) :
    placeholderCount kind (.placeholder other :: tokens) = placeholderCount kind tokens :=
  List.count_cons_of_ne fun same => apart (PromptToken.placeholder.inj same)

theorem placeholderCount_text (kind : Placeholder) (text : Text) :
    placeholderCount kind (text.map PromptToken.character ++ tokens) =
      placeholderCount kind tokens := by
  induction text with
  | nil => rw [List.map_nil, List.nil_append]
  | cons symbol text inductionHypothesis =>
      rw [List.map_cons, List.cons_append, placeholderCount_character, inductionHypothesis]

theorem filledPrompt_text (text : Text) :
    processor.filledPrompt (text.map PromptToken.character ++ tokens) images audios =
      symbolsOf [.text text] ++ processor.filledPrompt tokens images audios := by
  rw [symbolsOf, List.flatMap_singleton, InputData.symbols]
  induction text with
  | nil => rw [List.map_nil, List.map_nil, List.nil_append, List.nil_append]
  | cons symbol text inductionHypothesis =>
      rw [List.map_cons, List.cons_append, filledPrompt, inductionHypothesis, List.map_cons,
        List.cons_append]

theorem textOf_attachment (kind : Placeholder) {data : InputData Image Audio}
    (noText : data.content = []) :
    textOf (processor.attachment kind data) = processor.textBefore kind ++ textAfter := by
  rw [attachment, textOf_symbolsOf]
  simp only [textOf, List.flatMap_cons, List.flatMap_nil, noText, List.nil_append, List.append_nil]
  rfl

theorem restoredPrompt_placeholder (kind : Placeholder) :
    processor.restoredPrompt (.placeholder kind :: tokens) =
      (processor.textBefore kind ++ textAfter) ++ processor.restoredPrompt tokens :=
  List.flatMap_cons

/-- The text of a filled prompt is the restored prompt. -/
theorem textOf_filledPrompt (counts : CountsMatch tokens images audios) :
    textOf (processor.filledPrompt tokens images audios) = processor.restoredPrompt tokens := by
  induction tokens generalizing images audios with
  | nil => rfl
  | cons token tokens inductionHypothesis =>
      obtain ⟨imageCount, audioCount⟩ := counts
      cases token with
      | character symbol =>
          rw [placeholderCount_character] at imageCount audioCount
          rw [filledPrompt]
          change symbol :: textOf _ = symbol :: processor.restoredPrompt tokens
          rw [inductionHypothesis ⟨imageCount, audioCount⟩]
      | placeholder kind =>
          rw [restoredPrompt_placeholder]
          cases kind with
          | image =>
              rw [placeholderCount_self] at imageCount
              rw [placeholderCount_other (by decide)] at audioCount
              cases images with
              | nil => exact absurd imageCount (Nat.succ_ne_zero _)
              | cons image images =>
                  rw [filledPrompt, textOf_append, textOf_attachment .image rfl,
                    inductionHypothesis ⟨Nat.succ.inj imageCount, audioCount⟩]
          | audio =>
              rw [placeholderCount_self] at audioCount
              rw [placeholderCount_other (by decide)] at imageCount
              cases audios with
              | nil => exact absurd audioCount (Nat.succ_ne_zero _)
              | cons audio audios =>
                  rw [filledPrompt, textOf_append, textOf_attachment .audio rfl,
                    inductionHypothesis ⟨imageCount, Nat.succ.inj audioCount⟩]

/-! ## The scan -/

/-- A match is a placeholder of one of the two kinds. -/
theorem delimiter_cases {part : Text} (isDelimiter : part ∈ delimiters) :
    (isImage part = true ∧ placeholderOf part = .image) ∨
      (isImage part = false ∧ isAudio part = true ∧ placeholderOf part = .audio) := by
  revert part
  decide

structure Preprocessed (processor : InputProcessor File Image Audio)
    (state : ScanState File Image Audio) (images : List Image) (audios : List Audio) : Prop where
  images : List.Forall₂ (fun file image => processor.preprocessImageFile file = .ok image)
    state.imageFiles images
  audios : List.Forall₂ (fun file audio => processor.preprocessAudioFile file = .ok audio)
    state.audioFiles audios

section Scan

variable {state : ScanState File Image Audio} (textPart : Text) {part : Text}

/-- An image placeholder takes the first image. -/
theorem replacePlaceholder_image (isImagePart : isImage part = true) {image : Image}
    (preprocessed : Preprocessed processor state (image :: images) audios) :
    ∃ next, processor.replacePlaceholder textPart part state = .ok next ∧
      Preprocessed processor next images audios ∧
      symbolsOf next.inputData = symbolsOf state.inputData ++ (symbolsOf [.text textPart] ++
        processor.attachment .image (.image image)) := by
  obtain ⟨imageFiles, audioFiles⟩ := preprocessed
  cases found : state.imageFiles with
  | nil =>
      rw [found] at imageFiles
      cases imageFiles
  | cons file files =>
      rw [found] at imageFiles
      cases imageFiles with
      | cons first later =>
          rw [replacePlaceholder, if_pos isImagePart, found]
          simp only [first]
          refine ⟨_, rfl, ⟨later, audioFiles⟩, ?_⟩
          simp only [symbolsOf_append, attachment, textBefore, textAfter]
          simp only [symbolsOf, List.flatMap_cons, List.flatMap_nil, InputData.symbols,
            List.map_append, List.append_assoc, List.append_nil]

theorem replacePlaceholder_audio (notImage : isImage part = false)
    (isAudioPart : isAudio part = true)
    {audio : Audio} (preprocessed : Preprocessed processor state images (audio :: audios)) :
    ∃ next, processor.replacePlaceholder textPart part state = .ok next ∧
      Preprocessed processor next images audios ∧
      symbolsOf next.inputData = symbolsOf state.inputData ++ (symbolsOf [.text textPart] ++
        processor.attachment .audio (.audio audio)) := by
  obtain ⟨imageFiles, audioFiles⟩ := preprocessed
  cases found : state.audioFiles with
  | nil =>
      rw [found] at audioFiles
      cases audioFiles
  | cons file files =>
      rw [found] at audioFiles
      cases audioFiles with
      | cons first later =>
          rw [replacePlaceholder, if_neg (by rw [notImage]; exact Bool.false_ne_true),
            if_pos isAudioPart, found]
          simp only [first]
          refine ⟨_, rfl, ⟨imageFiles, later⟩, ?_⟩
          simp only [symbolsOf_append, attachment, textBefore, textAfter]
          simp only [symbolsOf, List.flatMap_cons, List.flatMap_nil, InputData.symbols,
            List.map_append, List.append_assoc, List.append_nil]

/-- Without an image left, an image placeholder is an error. -/
theorem replacePlaceholder_noImage (isImagePart : isImage part = true)
    (preprocessed : Preprocessed processor state [] audios) :
    ∃ failure, processor.replacePlaceholder textPart part state = .error failure := by
  have empty := List.forall₂_nil_right_iff.mp preprocessed.images
  rw [replacePlaceholder, if_pos isImagePart, empty]
  exact ⟨_, rfl⟩

theorem replacePlaceholder_noAudio (notImage : isImage part = false)
    (isAudioPart : isAudio part = true) (preprocessed : Preprocessed processor state images []) :
    ∃ failure, processor.replacePlaceholder textPart part state = .error failure := by
  have empty := List.forall₂_nil_right_iff.mp preprocessed.audios
  rw [replacePlaceholder, if_neg (by rw [notImage]; exact Bool.false_ne_true), if_pos isAudioPart,
    empty]
  exact ⟨_, rfl⟩

/-- What the scan returns: it fails when attachments are missing, and else has filled the prompt
and has the other attachments left. -/
def ScanEnds (processor : InputProcessor File Image Audio) (tokens : List PromptToken)
    (images : List Image) (audios : List Audio) (before : List (InputData Image Audio))
    (outcome : Except InputFailure (ScanState File Image Audio × Text)) : Prop :=
  if placeholderCount .image tokens ≤ images.length ∧
      placeholderCount .audio tokens ≤ audios.length then
    ∃ after rest, outcome = .ok (after, rest) ∧
      symbolsOf (after.inputData ++ [.text rest]) =
        symbolsOf before ++ processor.filledPrompt tokens images audios ∧
      after.imageFiles.length = images.length - placeholderCount .image tokens ∧
      after.audioFiles.length = audios.length - placeholderCount .audio tokens
  else
    ∃ failure, outcome = .error failure

/-- Where no placeholder is left, the scan is done. -/
theorem scanEnds_done {prompt : Text}
    (noPlaceholder : promptTokens 0 prompt = prompt.map PromptToken.character)
    (preprocessed : Preprocessed processor state images audios) :
    ScanEnds processor (promptTokens 0 prompt) images audios state.inputData
      (.ok (state, prompt)) := by
  have none : ∀ kind, placeholderCount kind (promptTokens 0 prompt) = 0 := by
    intro kind
    have counted : placeholderCount kind (prompt.map PromptToken.character ++ []) =
        placeholderCount kind [] := placeholderCount_text kind prompt
    rw [List.append_nil, ← noPlaceholder] at counted
    exact counted
  have filled : processor.filledPrompt (prompt.map PromptToken.character ++ []) images audios =
      symbolsOf [.text prompt] ++ processor.filledPrompt [] images audios :=
    filledPrompt_text prompt
  rw [List.append_nil, ← noPlaceholder] at filled
  rw [ScanEnds, none, none, if_pos ⟨Nat.zero_le _, Nat.zero_le _⟩]
  refine ⟨state, prompt, rfl, ?_, ?_, ?_⟩
  · rw [filled, symbolsOf_append, filledPrompt, List.append_nil]
    · exact nofun
    · exact nofun
    · exact nofun
  · exact preprocessed.images.length_eq
  · exact preprocessed.audios.length_eq

/-- A placeholder that took its attachment, and the scan of the rest. -/
theorem ScanEnds.placeholder {textPart : Text} {before between : List (InputData Image Audio)}
    {kind : Placeholder}
    {images' : List Image} {audios' : List Audio}
    {outcome : Except InputFailure (ScanState File Image Audio × Text)}
    (ends : ScanEnds processor tokens images' audios' between outcome)
    (imagesLeft : images.length = images'.length + placeholderCount .image [.placeholder kind])
    (audiosLeft : audios.length = audios'.length + placeholderCount .audio [.placeholder kind])
    (filled : symbolsOf between ++ processor.filledPrompt tokens images' audios' =
      symbolsOf before ++ processor.filledPrompt (textPart.map PromptToken.character ++
        .placeholder kind :: tokens) images audios) :
    ScanEnds processor (textPart.map PromptToken.character ++ .placeholder kind :: tokens) images
      audios before outcome := by
  have counts : ∀ other, placeholderCount other (textPart.map PromptToken.character ++
      .placeholder kind :: tokens) =
      placeholderCount other [.placeholder kind] + placeholderCount other tokens := by
    intro other
    rw [placeholderCount_text]
    change List.count _ ([.placeholder kind] ++ tokens) = _
    exact List.count_append
  unfold ScanEnds at ends ⊢
  rw [counts, counts, imagesLeft, audiosLeft]
  by_cases enough : placeholderCount .image tokens ≤ images'.length ∧
      placeholderCount .audio tokens ≤ audios'.length
  · rw [if_pos enough] at ends
    rw [if_pos (by omega)]
    obtain ⟨after, rest, returned, symbols, imageFiles, audioFiles⟩ := ends
    refine ⟨after, rest, returned, symbols.trans filled, ?_, ?_⟩
    · omega
    · omega
  · rw [if_neg enough] at ends
    rw [if_neg (by omega)]
    exact ends

/-- A placeholder without an attachment ends the scan. -/
theorem scanEnds_missing {textPart : Text} {before : List (InputData Image Audio)}
    {kind : Placeholder}
    {outcome : Except InputFailure (ScanState File Image Audio × Text)}
    (missing : images.length < placeholderCount .image [.placeholder kind] ∨
      audios.length < placeholderCount .audio [.placeholder kind])
    (fails : ∃ failure, outcome = .error failure) :
    ScanEnds processor (textPart.map PromptToken.character ++ .placeholder kind :: tokens) images
      audios before outcome := by
  have counts : ∀ other, placeholderCount other [.placeholder kind] ≤
      placeholderCount other (textPart.map PromptToken.character ++
        .placeholder kind :: tokens) := by
    intro other
    rw [placeholderCount_text]
    change _ ≤ List.count _ ([.placeholder kind] ++ tokens)
    rw [List.count_append]
    exact Nat.le_add_right _ _
  have imageCount := counts .image
  have audioCount := counts .audio
  rw [ScanEnds, if_neg (by omega)]
  exact fails

/-- The scan fills the prompt, from any state and any position of it. -/
theorem scanEnds_replacePlaceholders {prompt : Text} {steps : Nat} (enough : prompt.length ≤ steps)
    (preprocessed : Preprocessed processor state images audios) :
    ScanEnds processor (promptTokens 0 prompt) images audios state.inputData
      (processor.replacePlaceholders steps prompt state) := by
  induction steps generalizing prompt state images audios with
  | zero =>
      rw [List.length_eq_zero_iff.mp (Nat.le_zero.mp enough)]
      exact scanEnds_done rfl preprocessed
  | succ steps inductionHypothesis =>
      rw [replacePlaceholders]
      cases found : findAndConsume prompt with
      | none => exact scanEnds_done (promptTokens_of_none found) preprocessed
      | some matched =>
          obtain ⟨textPart, part, rest⟩ := matched
          obtain ⟨isDelimiter, shorter, tokens⟩ := promptTokens_of_some found
          have enoughLeft : rest.length ≤ steps := by omega
          rw [tokens]
          simp only
          rcases delimiter_cases isDelimiter with
            ⟨isImagePart, kind⟩ | ⟨notImage, isAudioPart, kind⟩
          · rw [kind]
            cases images with
            | nil =>
                obtain ⟨failure, fails⟩ :=
                  replacePlaceholder_noImage textPart isImagePart preprocessed
                rw [fails]
                exact scanEnds_missing (Or.inl Nat.zero_lt_one) ⟨failure, rfl⟩
            | cons image images =>
                obtain ⟨next, replaced, left, symbols⟩ :=
                  replacePlaceholder_image textPart isImagePart preprocessed
                rw [replaced]
                apply (inductionHypothesis enoughLeft left).placeholder rfl rfl
                rw [filledPrompt_text, filledPrompt, symbols, List.append_assoc, List.append_assoc]
          · rw [kind]
            cases audios with
            | nil =>
                obtain ⟨failure, fails⟩ :=
                  replacePlaceholder_noAudio textPart notImage isAudioPart preprocessed
                rw [fails]
                exact scanEnds_missing (Or.inr Nat.zero_lt_one) ⟨failure, rfl⟩
            | cons audio audios =>
                obtain ⟨next, replaced, left, symbols⟩ :=
                  replacePlaceholder_audio textPart notImage isAudioPart preprocessed
                rw [replaced]
                apply (inductionHypothesis enoughLeft left).placeholder rfl rfl
                rw [filledPrompt_text, filledPrompt, symbols, List.append_assoc, List.append_assoc]

end Scan

/-! ## The files of the messages -/

/-- The items of one type. -/
def mediaOf (type : String) (items : List (Json Number)) : List (Json Number) :=
  items.filter fun item => typeOf item = some type.toList

/-- The items of one type in the messages, in their order. -/
def mediaItems (type : String) (messages : List (Json Number)) : List (Json Number) :=
  mediaOf type (messages.flatMap contentItems)

/-- Every item is loaded, and the images and the audio are preprocessed. -/
structure Prepared (processor : InputProcessor File Image Audio) (messages : List (Json Number))
    (images : List Image) (audios : List Audio) : Prop where
  loads : ∀ item ∈ messages.flatMap contentItems,
    (∃ text, item = .string text) ∨ ∃ file, processor.loadItemData item = .ok file
  images : List.Forall₂ (fun item image => ∃ file, processor.loadItemData item = .ok file ∧
    processor.preprocessImageFile file = .ok image) (mediaItems "image" messages) images
  audios : List.Forall₂ (fun item audio => ∃ file, processor.loadItemData item = .ok file ∧
    processor.preprocessAudioFile file = .ok audio) (mediaItems "audio" messages) audios

/-- The loops over the messages and their items are one loop. -/
theorem collectFiles_eq (messages : List (Json Number)) :
    processor.collectFiles messages =
      (messages.flatMap contentItems).foldlM processor.collectItem {} := by
  unfold collectFiles
  generalize ({} : AttachedFiles File) = files
  induction messages generalizing files with
  | nil => rfl
  | cons message messages inductionHypothesis =>
      rw [List.foldlM_cons, List.flatMap_cons, List.foldlM_append]
      congr 1
      funext between
      exact inductionHypothesis between

/-- The files of some items, appended to others. -/
def FilesAppended (processor : InputProcessor File Image Audio) (items : List (Json Number))
    (before after : List (Option File)) : Prop :=
  ∃ files, after = before ++ files ∧
    List.Forall₂ (fun item file => processor.loadItemData item = .ok file) items files

theorem FilesAppended.append {items later : List (Json Number)}
    {before between after : List (Option File)}
    (first : FilesAppended processor items before between)
    (second : FilesAppended processor later between after) :
    FilesAppended processor (items ++ later) before after := by
  obtain ⟨files, rfl, loaded⟩ := first
  obtain ⟨more, rfl, loadedMore⟩ := second
  exact ⟨files ++ more, List.append_assoc _ _ _, List.rel_append loaded loadedMore⟩

theorem filesAppended_nil (files : List (Option File)) :
    FilesAppended processor ([] : List (Json Number)) files files :=
  ⟨[], (List.append_nil files).symm, .nil⟩

theorem filesAppended_self {type : String} {item : Json Number} {file : Option File}
    (loaded : processor.loadItemData item = .ok file) (hasType : typeOf item = some type.toList)
    (before : List (Option File)) :
    FilesAppended processor (mediaOf type [item]) before (before ++ [file]) := by
  have kept : mediaOf type [item] = [item] := List.filter_cons_of_pos (decide_eq_true hasType)
  rw [kept]
  exact ⟨[file], rfl, .cons loaded .nil⟩

theorem filesAppended_other {type : String} {item : Json Number}
    (otherType : typeOf item ≠ some type.toList) (before : List (Option File)) :
    FilesAppended processor (mediaOf type [item]) before before := by
  have dropped : mediaOf type [item] = [] :=
    List.filter_cons_of_neg fun same => otherType (of_decide_eq_true same)
  rw [dropped]
  exact filesAppended_nil before

/-- The images and the audio among some items. -/
structure Collects (processor : InputProcessor File Image Audio) (items : List (Json Number))
    (before after : AttachedFiles File) : Prop where
  images : FilesAppended processor (mediaOf "image" items) before.imageFiles after.imageFiles
  audios : FilesAppended processor (mediaOf "audio" items) before.audioFiles after.audioFiles

theorem collectItem_loaded {item : Json Number} {file : Option File} (files : AttachedFiles File)
    (loaded : processor.loadItemData item = .ok file) :
    processor.collectItem files item = .ok
      (if typeOf item = some "image".toList then
        { files with imageFiles := files.imageFiles ++ [file] }
      else if typeOf item = some "audio".toList then
        { files with audioFiles := files.audioFiles ++ [file] }
      else files) := by
  have collects : processor.collectItem files item = do
      let file ← processor.loadItemData item
      if typeOf item = some "image".toList then
        return { files with imageFiles := files.imageFiles ++ [file] }
      else if typeOf item = some "audio".toList then
        return { files with audioFiles := files.audioFiles ++ [file] }
      else
        return files := by
    cases item with
    | string text => exact absurd loaded nofun
    | null => rfl
    | boolean value => rfl
    | number value => rfl
    | array items => rfl
    | object members => rfl
  rw [collects, loaded]
  simp only [bind, Except.bind]
  split
  · rfl
  · split <;> rfl

theorem collects_item {item : Json Number} (files : AttachedFiles File)
    (loads : (∃ text, item = .string text) ∨ ∃ file, processor.loadItemData item = .ok file) :
    ∃ after, processor.collectItem files item = .ok after ∧
      Collects processor [item] files after := by
  rcases loads with ⟨text, rfl⟩ | ⟨file, loaded⟩
  · exact ⟨files, rfl, filesAppended_nil _, filesAppended_nil _⟩
  · refine ⟨_, collectItem_loaded files loaded, ?_⟩
    by_cases image : typeOf item = some "image".toList
    · have notAudio : typeOf item ≠ some "audio".toList := by
        rw [image]
        decide
      rw [if_pos image]
      exact ⟨filesAppended_self loaded image _, filesAppended_other notAudio _⟩
    · rw [if_neg image]
      by_cases audio : typeOf item = some "audio".toList
      · rw [if_pos audio]
        exact ⟨filesAppended_other image _, filesAppended_self loaded audio _⟩
      · rw [if_neg audio]
        exact ⟨filesAppended_other image _, filesAppended_other audio _⟩

theorem collects_foldlM {items : List (Json Number)} (files : AttachedFiles File)
    (loads : ∀ item ∈ items,
      (∃ text, item = .string text) ∨ ∃ file, processor.loadItemData item = .ok file) :
    ∃ after, items.foldlM processor.collectItem files = .ok after ∧
      Collects processor items files after := by
  induction items generalizing files with
  | nil => exact ⟨files, rfl, filesAppended_nil _, filesAppended_nil _⟩
  | cons item items inductionHypothesis =>
      obtain ⟨between, collected, first⟩ := collects_item files (loads item List.mem_cons_self)
      obtain ⟨after, rest, later⟩ := inductionHypothesis between fun other inRest =>
        loads other (List.mem_cons_of_mem item inRest)
      rw [List.foldlM_cons, collected, ← List.singleton_append]
      refine ⟨after, rest, ?_, ?_⟩
      · rw [mediaOf, List.filter_append]
        exact first.images.append later.images
      · rw [mediaOf, List.filter_append]
        exact first.audios.append later.audios

/-- The files of the media items are preprocessed as their items are. -/
theorem preprocessed_of_loaded {Media : Type} {preprocess : Option File → Except InputFailure Media}
    {items : List (Json Number)} {files : List (Option File)} {media : List Media}
    (loaded : List.Forall₂ (fun item file => processor.loadItemData item = .ok file) items files)
    (prepared : List.Forall₂ (fun item data => ∃ file, processor.loadItemData item = .ok file ∧
      preprocess file = .ok data) items media) :
    List.Forall₂ (fun file data => preprocess file = .ok data) files media := by
  induction loaded generalizing media with
  | nil =>
      cases prepared
      exact .nil
  | cons loadedFirst _ inductionHypothesis =>
      cases prepared with
      | cons first rest =>
          obtain ⟨file, loadedAgain, preprocessed⟩ := first
          rw [loadedFirst] at loadedAgain
          cases loadedAgain
          exact .cons preprocessed (inductionHypothesis rest)

/-- The loop over the messages finds the files of their attachments. -/
theorem collectFiles_prepared {messages : List (Json Number)}
    (prepared : Prepared processor messages images audios) :
    ∃ files, processor.collectFiles messages = .ok files ∧
      Preprocessed processor ⟨[], files.imageFiles, files.audioFiles⟩ images audios := by
  obtain ⟨files, collected, collects⟩ := collects_foldlM {} prepared.loads
  rw [collectFiles_eq]
  obtain ⟨imageFiles, appendedImages, loadedImages⟩ := collects.images
  obtain ⟨audioFiles, appendedAudios, loadedAudios⟩ := collects.audios
  refine ⟨files, collected, ?_, ?_⟩
  · rw [appendedImages]
    exact preprocessed_of_loaded loadedImages prepared.images
  · rw [appendedAudios]
    exact preprocessed_of_loaded loadedAudios prepared.audios

/-! ## Attachments and placeholders -/

/-- The attachments of the messages are put in the places of the placeholders of the prompt: the
call succeeds when there are as many of each kind, and then the data is the prompt with the
attachments in their order and the text around them. -/
structure AttachmentsMatched (processor : InputProcessor File Image Audio) (prompt : Text)
    (messages : Json Number) (images : List Image) (audios : List Audio) : Prop where
  succeeds : (∃ data, processor.toInputDataVectorImpl prompt messages = .ok data) ↔
    CountsMatch (promptTokens 0 prompt) images audios
  interleaved : ∀ data, processor.toInputDataVectorImpl prompt messages = .ok data →
    symbolsOf data = processor.filledPrompt (promptTokens 0 prompt) images audios
  restored : ∀ data, processor.toInputDataVectorImpl prompt messages = .ok data →
    textOf data = processor.restoredPrompt (promptTokens 0 prompt)

section Match

variable {prompt : Text} {messages : Json Number}

theorem symbolsOf_rest (data : List (InputData Image Audio)) (rest : Text) :
    symbolsOf (data ++ if rest.isEmpty then [] else [.text rest]) =
      symbolsOf (data ++ [.text rest]) := by
  cases rest with
  | nil =>
      rw [symbolsOf_append, symbolsOf_append]
      rfl
  | cons symbol rest => rfl

theorem toInputDataVectorImpl_scanned {files : AttachedFiles File}
    {state : ScanState File Image Audio} {rest : Text}
    (collected : processor.collectFiles (elements messages) = .ok files)
    (scanned : processor.replacePlaceholders prompt.length prompt
      ⟨[], files.imageFiles, files.audioFiles⟩ = .ok (state, rest)) :
    processor.toInputDataVectorImpl prompt messages =
      if state.imageFiles ≠ [] then
        .error (.status (.invalidArgumentError "Provided more images than expected in the prompt."))
      else if state.audioFiles ≠ [] then
        .error (.status (.invalidArgumentError "Provided more audio than expected in the prompt."))
      else
        .ok (state.inputData ++ if rest.isEmpty then [] else [.text rest]) := by
  simp only [toInputDataVectorImpl, collected, scanned, bind, Except.bind]
  by_cases images : state.imageFiles ≠ []
  · rw [if_pos images, if_pos images]
    rfl
  · rw [if_neg images, if_neg images]
    by_cases audios : state.audioFiles ≠ []
    · simp only [if_pos audios]
      rfl
    · simp only [if_neg audios]
      rfl

theorem toInputDataVectorImpl_missing {files : AttachedFiles File}
    {failure : InputFailure}
    (collected : processor.collectFiles (elements messages) = .ok files)
    (scanned : processor.replacePlaceholders prompt.length prompt
      ⟨[], files.imageFiles, files.audioFiles⟩ = .error failure) :
    processor.toInputDataVectorImpl prompt messages = .error failure := by
  simp only [toInputDataVectorImpl, collected, scanned, bind, Except.bind]

/-- The attachments of the messages that are passed are matched to the placeholders. -/
theorem attachmentsMatched_of_prepared
    (prepared : Prepared processor (elements messages) images audios) :
    AttachmentsMatched processor prompt messages images audios := by
  obtain ⟨files, collected, preprocessed⟩ := collectFiles_prepared prepared
  have ends := scanEnds_replacePlaceholders (Nat.le_refl prompt.length) preprocessed
  have outcome : (CountsMatch (promptTokens 0 prompt) images audios ∧
      ∃ data, processor.toInputDataVectorImpl prompt messages = .ok data ∧
        symbolsOf data = processor.filledPrompt (promptTokens 0 prompt) images audios) ∨
      (¬CountsMatch (promptTokens 0 prompt) images audios ∧
        ∃ failure, processor.toInputDataVectorImpl prompt messages = .error failure) := by
    unfold ScanEnds at ends
    by_cases enough : placeholderCount .image (promptTokens 0 prompt) ≤ images.length ∧
        placeholderCount .audio (promptTokens 0 prompt) ≤ audios.length
    · rw [if_pos enough] at ends
      obtain ⟨state, rest, scanned, symbols, imagesLeft, audiosLeft⟩ := ends
      rw [toInputDataVectorImpl_scanned collected scanned]
      by_cases noImages : state.imageFiles = []
      · by_cases noAudios : state.audioFiles = []
        · left
          rw [noImages, List.length_nil] at imagesLeft
          rw [noAudios, List.length_nil] at audiosLeft
          rw [if_neg (not_not.mpr noImages), if_neg (not_not.mpr noAudios)]
          refine ⟨⟨by omega, by omega⟩, _, rfl, ?_⟩
          rw [symbolsOf_rest, symbols]
          rfl
        · right
          have some := List.length_pos_of_ne_nil noAudios
          rw [if_neg (not_not.mpr noImages), if_pos noAudios]
          exact ⟨fun counts => by rw [counts.2] at audiosLeft; omega, _, rfl⟩
      · right
        have some := List.length_pos_of_ne_nil noImages
        rw [if_pos noImages]
        exact ⟨fun counts => by rw [counts.1] at imagesLeft; omega, _, rfl⟩
    · rw [if_neg enough] at ends
      obtain ⟨failure, scanned⟩ := ends
      right
      refine ⟨fun counts => enough ⟨counts.1.le, counts.2.le⟩, failure, ?_⟩
      exact toInputDataVectorImpl_missing collected scanned
  rcases outcome with ⟨counts, data, returned, symbols⟩ | ⟨mismatch, failure, fails⟩
  · constructor
    · exact ⟨fun _ => counts, fun _ => ⟨data, returned⟩⟩
    · intro other same
      rw [returned] at same
      cases same
      exact symbols
    · intro other same
      rw [returned] at same
      cases same
      rw [← textOf_symbolsOf, symbols, textOf_filledPrompt counts]
  · constructor
    · constructor
      · rintro ⟨data, returned⟩
        rw [fails] at returned
        exact absurd returned nofun
      · exact fun counts => absurd counts mismatch
    · intro data returned
      rw [fails] at returned
      exact absurd returned nofun
    · intro data returned
      rw [fails] at returned
      exact absurd returned nofun

/-- An array of messages in an array has no attachments. -/
theorem prepared_nested (inner : List (Json Number)) :
    Prepared processor (elements (.array [.array inner])) [] [] where
  loads _ inItems := absurd inItems List.not_mem_nil
  images := .nil
  audios := .nil

/-- A message is passed in an array of its own. The attachments are matched to the placeholders
exactly if it is not an array of messages itself, or that array has no attachments, or the prompt
has neither their numbers of placeholders nor none. -/
theorem attachmentsMatched_iff (processor : InputProcessor File Image Audio) (prompt : Text)
    (message : Json Number) (images : List Image) (audios : List Audio)
    (prepared : Prepared processor (messagesOf message) images audios) :
    AttachmentsMatched processor prompt (.array [message]) images audios ↔
      (∀ inner, message ≠ .array inner) ∨ (images = [] ∧ audios = []) ∨
        (¬CountsMatch (promptTokens 0 prompt) images audios ∧
          ¬CountsMatch (promptTokens 0 prompt) ([] : List Image) ([] : List Audio)) := by
  by_cases isArray : ∃ inner, message = .array inner
  · obtain ⟨inner, rfl⟩ := isArray
    have nested : AttachmentsMatched processor prompt (.array [.array inner]) [] [] :=
      attachmentsMatched_of_prepared (prepared_nested inner)
    constructor
    · intro matched
      right
      by_cases none : images = [] ∧ audios = []
      · exact Or.inl none
      · have same := matched.succeeds.symm.trans nested.succeeds
        have apart : ¬(CountsMatch (promptTokens 0 prompt) images audios ∧
            CountsMatch (promptTokens 0 prompt) ([] : List Image) ([] : List Audio)) := by
          rintro ⟨⟨imageCount, audioCount⟩, ⟨noImage, noAudio⟩⟩
          exact none ⟨List.length_eq_zero_iff.mp (imageCount.symm.trans noImage),
            List.length_eq_zero_iff.mp (audioCount.symm.trans noAudio)⟩
        exact Or.inr ⟨fun counts => apart ⟨counts, same.mp counts⟩,
          fun counts => apart ⟨same.mpr counts, counts⟩⟩
    · rintro (single | ⟨rfl, rfl⟩ | ⟨mismatch, some⟩)
      · exact absurd rfl (single inner)
      · exact nested
      · have fails : ∀ data,
            processor.toInputDataVectorImpl prompt (.array [.array inner]) ≠ .ok data :=
          fun data returned => some (nested.succeeds.mp ⟨data, returned⟩)
        constructor
        · exact ⟨fun ⟨data, returned⟩ => absurd returned (fails data),
            fun counts => absurd counts mismatch⟩
        · exact fun data returned => absurd returned (fails data)
        · exact fun data returned => absurd returned (fails data)
  · have single : messagesOf message = [message] := by
      cases message with
      | array inner => exact absurd ⟨inner, rfl⟩ isArray
      | null => rfl
      | boolean value => rfl
      | number value => rfl
      | string text => rfl
      | object members => rfl
    rw [single] at prepared
    have matched : AttachmentsMatched processor prompt (.array [message]) images audios :=
      attachmentsMatched_of_prepared prepared
    exact ⟨fun _ => Or.inl fun inner array => isArray ⟨inner, array⟩, fun _ => matched⟩

end Match

/-- A processor whose files are their paths. -/
def pathProcessor : InputProcessor Text Text Text where
  memoryMappedFile := .ok
  inMemoryFile := id
  base64Unescape := some
  preprocessImage _ := .ok
  preprocessAudio := .ok

def imageMessage : Json Nat :=
  .object [("role".toList, .string "user".toList),
    ("content".toList, .array [.object [("type".toList, .string "image".toList),
      ("path".toList, .string "apple.png".toList)]])]

theorem prepared_imageMessage :
    Prepared pathProcessor [imageMessage] ["apple.png".toList] [] where
  loads item inItems := by
    have single : item = _ := List.mem_singleton.mp inItems
    rw [single]
    exact Or.inr ⟨some "apple.png".toList, rfl⟩
  images := by
    have items : mediaItems "image" [imageMessage] =
      [.object [("type".toList, .string "image".toList),
        ("path".toList, .string "apple.png".toList)]] := rfl
    rw [items]
    exact .cons ⟨some "apple.png".toList, rfl, rfl⟩ .nil
  audios := by
    have items : mediaItems "audio" [imageMessage] = [] := rfl
    rw [items]
    exact .nil

/-- The image of a message in an array is not found, and its placeholder is an error. -/
theorem nested_image_missing :
    ¬∀ (processor : InputProcessor Text Text Text) (prompt : Text) (message : Json Nat)
      (images audios : List Text), Prepared processor (messagesOf message) images audios →
      AttachmentsMatched processor prompt (.array [message]) images audios := by
  intro matchesAll
  have matched := matchesAll pathProcessor "<start_of_image>".toList (.array [imageMessage])
    ["apple.png".toList] [] prepared_imageMessage
  have fails : pathProcessor.toInputDataVectorImpl "<start_of_image>".toList
      (.array [.array [imageMessage]]) = .error (.status
        (.invalidArgumentError "Provided less images than expected in the prompt.")) := rfl
  obtain ⟨data, returned⟩ := matched.succeeds.mpr ⟨rfl, rfl⟩
  rw [fails] at returned
  exact absurd returned nofun

/-- The image of a single message is put in the place of its placeholder. -/
theorem attachmentsMatched_iff_single :
    AttachmentsMatched pathProcessor "<start_of_image>".toList (.array [imageMessage])
        ["apple.png".toList] [] ↔
      (∀ inner, imageMessage ≠ .array inner) ∨
        (["apple.png".toList] = ([] : List Text) ∧ ([] : List Text) = []) ∨
        (¬CountsMatch (promptTokens 0 "<start_of_image>".toList) ["apple.png".toList]
            ([] : List Text) ∧
          ¬CountsMatch (promptTokens 0 "<start_of_image>".toList) ([] : List Text)
            ([] : List Text)) :=
  attachmentsMatched_iff pathProcessor _ imageMessage _ [] prepared_imageMessage

end InputProcessor

end LiteRTLM.Conversation.Gemma3Input
