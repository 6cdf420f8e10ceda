import LiteRTLM.Engine.Status
import LiteRTLM.Util.Json

/-!
Contract: `Gemma3DataProcessor::ToInputDataVector`, which puts the images and the audio of the
messages in the places of a rendered prompt.

Owns: the members of a JSON value, `LoadItemData`, the files of the messages, the scan for
placeholders, and the input data.

Does not own: reading a file, decoding a blob, and the two preprocessors.

The regex of the placeholders is an alternation of literals; `findAndConsume` finds its leftmost
match.
-/

namespace LiteRTLM.Conversation.Gemma3Input

open LiteRTLM.Engine
open LiteRTLM.Util

variable {Number File Image Audio : Type}

/-- How `ToInputDataVector` ends that returns no data. -/
inductive InputFailure where
  | status (status : Status)
  /-- A JSON value is missing, or is not of the type it is taken for. -/
  | jsonException
  | nullPointer
deriving DecidableEq, Repr

/-! ## JSON -/

/-- `operator[]` on an object. -/
def member (value : Json Number) (key : String) : Option (Json Number) :=
  match value with
  | .object members => members.lookup key.toList
  | _ => none

/-- The values a range `for` visits. -/
def elements : Json Number → List (Json Number)
  | .null => []
  | .array elements => elements
  | .object members => members.map Prod.snd
  | value => [value]

/-- `item["type"]`, where it is a string. -/
def typeOf (item : Json Number) : Option Text :=
  match member item "type" with
  | some (.string type) => some type
  | _ => none

/-! ## Loading -/

/-- `Gemma3DataProcessorConfig`, and the code that the processor calls. The audio preprocessor is
reset after every clip, so its result depends on the clip alone. -/
structure InputProcessor (File Image Audio : Type) where
  boiToken : Text := "<start_of_image>".toList
  boaToken : Text := "<start_of_audio>".toList
  imageTensorHeight : Nat := 768
  imageTensorWidth : Nat := 768
  memoryMappedFile : Text → StatusOr File
  inMemoryFile : Text → File
  base64Unescape : Text → Option Text
  preprocessImage : List Nat → File → StatusOr Image
  preprocessAudio : File → StatusOr Audio

namespace InputProcessor

variable (processor : InputProcessor File Image Audio)

/-- The file of an image or audio item. -/
def loadMedia (item : Json Number) : Except InputFailure (Option File) :=
  match member item "path", member item "blob" with
  | some (.string path), _ =>
      match processor.memoryMappedFile path with
      | .ok file => .ok (some file)
      | .error status => .error (.status status)
  | some _, _ => .error .jsonException
  | none, some (.string blob) =>
      match processor.base64Unescape blob with
      | some bytes => .ok (some (processor.inMemoryFile bytes))
      | none => .error (.status (.invalidArgumentError "Failed to decode base64 blob."))
  | none, some _ => .error .jsonException
  | none, none =>
      .error (.status (.invalidArgumentError "Audio or image item must contain a path or blob."))

def loadItemData (item : Json Number) : Except InputFailure (Option File) :=
  match member item "type" with
  | none => .error (.status (.invalidArgumentError "Item must contain a type."))
  | some (.string type) =>
      if type = "text".toList then
        match member item "text" with
        | some (.string text) => .ok (some (processor.inMemoryFile text))
        | _ => .error .jsonException
      else if type = "image".toList ∨ type = "audio".toList then processor.loadMedia item
      else if type = "tool_response".toList then .ok none
      else .error (.status
        ⟨.unimplemented, "Unsupported item type: " ++ String.ofList type⟩)
  | some _ => .error .jsonException

/-- `image_files` and `audio_files`. -/
structure AttachedFiles (File : Type) where
  imageFiles : List (Option File) := []
  audioFiles : List (Option File) := []

/-- The body of the loop over the items of a content. -/
def collectItem (files : AttachedFiles File) (item : Json Number) :
    Except InputFailure (AttachedFiles File) :=
  match item with
  | .string _ => .ok files
  | item => do
      let file ← processor.loadItemData item
      if typeOf item = some "image".toList then
        return { files with imageFiles := files.imageFiles ++ [file] }
      else if typeOf item = some "audio".toList then
        return { files with audioFiles := files.audioFiles ++ [file] }
      else
        return files

/-- The items of a message: the elements of its content, where that is an array. -/
def contentItems (message : Json Number) : List (Json Number) :=
  match member message "content" with
  | some (.array items) => items
  | _ => []

/-- All images and audio contained in the messages. -/
def collectFiles (messages : List (Json Number)) : Except InputFailure (AttachedFiles File) :=
  messages.foldlM (fun files message => (contentItems message).foldlM processor.collectItem files)
    {}

/-! ## Placeholders -/

def isImage (part : Text) : Bool :=
  part = "<start_of_image>".toList ∨ part = "<image_soft_token>".toList

def isAudio (part : Text) : Bool :=
  part = "<start_of_audio>".toList ∨ part = "<audio_soft_token>".toList

/-- The alternatives of `re_delimiter`. -/
def delimiters : List Text :=
  ["<start_of_image>".toList, "<image_soft_token>".toList, "<start_of_audio>".toList,
    "<audio_soft_token>".toList]

/-- The alternative that a text begins with. -/
def delimiterAt (text : Text) : Option Text := delimiters.find? fun part => part.isPrefixOf text

/-- `RE2::FindAndConsume`: the text before the leftmost match, the match, and the rest. -/
def findAndConsume : Text → Option (Text × Text × Text)
  | [] => none
  | symbol :: text =>
      match delimiterAt (symbol :: text) with
      | some part => some ([], part, (symbol :: text).drop part.length)
      | none => (findAndConsume text).map fun (before, part, rest) => (symbol :: before, part, rest)

end InputProcessor

/-- `InputText`, `InputImage` and `InputAudio`. -/
inductive InputData (Image Audio : Type) where
  | text (text : Text)
  | image (image : Image)
  | audio (audio : Audio)
deriving DecidableEq, Repr

/-! ## Input data -/

/-- `input_data`, and the files that are left. -/
structure ScanState (File Image Audio : Type) where
  inputData : List (InputData Image Audio)
  imageFiles : List (Option File)
  audioFiles : List (Option File)

namespace InputProcessor

variable (processor : InputProcessor File Image Audio)

def targetDimensions : List Nat :=
  [1, processor.imageTensorHeight, processor.imageTensorWidth, 3]

def preprocessImageFile : Option File → Except InputFailure Image
  | none => .error .nullPointer
  | some file =>
      match processor.preprocessImage processor.targetDimensions file with
      | .ok image => .ok image
      | .error status => .error (.status status)

def preprocessAudioFile : Option File → Except InputFailure Audio
  | none => .error .nullPointer
  | some file =>
      match processor.preprocessAudio file with
      | .ok audio => .ok audio
      | .error status => .error (.status status)

/-- The body of the loop over the placeholders. -/
def replacePlaceholder (textPart part : Text) (state : ScanState File Image Audio) :
    Except InputFailure (ScanState File Image Audio) :=
  if isImage part then
    match state.imageFiles with
    | [] => .error (.status
        (.invalidArgumentError "Provided less images than expected in the prompt."))
    | file :: imageFiles => do
        let image ← processor.preprocessImageFile file
        return { state with
          inputData := state.inputData ++
            [.text (textPart ++ "\n\n".toList ++ processor.boiToken), .image image,
              .text "\n\n".toList]
          imageFiles }
  else if isAudio part then
    match state.audioFiles with
    | [] => .error (.status
        (.invalidArgumentError "Provided less audio than expected in the prompt."))
    | file :: audioFiles => do
        let audio ← processor.preprocessAudioFile file
        return { state with
          inputData := state.inputData ++
            [.text (textPart ++ "\n\n".toList ++ processor.boaToken), .audio audio,
              .text "\n\n".toList]
          audioFiles }
  else
    .ok state

/-- The loop over the placeholders, with what is left of the prompt. A placeholder has at least
one character, so `steps` need not exceed the length of the prompt. -/
def replacePlaceholders : Nat → Text → ScanState File Image Audio →
    Except InputFailure (ScanState File Image Audio × Text)
  | 0, prompt, state => .ok (state, prompt)
  | steps + 1, prompt, state =>
      match findAndConsume prompt with
      | none => .ok (state, prompt)
      | some (textPart, part, rest) => do
          let state ← processor.replacePlaceholder textPart part state
          replacePlaceholders steps rest state

def toInputDataVectorImpl (renderedTemplatePrompt : Text) (messages : Json Number) :
    Except InputFailure (List (InputData Image Audio)) := do
  let files ← processor.collectFiles (elements messages)
  let (state, promptView) ← processor.replacePlaceholders renderedTemplatePrompt.length
    renderedTemplatePrompt ⟨[], files.imageFiles, files.audioFiles⟩
  if state.imageFiles ≠ [] then
    throw (.status (.invalidArgumentError "Provided more images than expected in the prompt."))
  if state.audioFiles ≠ [] then
    throw (.status (.invalidArgumentError "Provided more audio than expected in the prompt."))
  return state.inputData ++ (if promptView.isEmpty then [] else [.text promptView])

end InputProcessor

end LiteRTLM.Conversation.Gemma3Input
