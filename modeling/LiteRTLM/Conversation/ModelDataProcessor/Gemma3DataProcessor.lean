import LiteRTLM.Components.ToolUse.ParserUtils

/-!
Contract: `Gemma3DataProcessor::ToMessage`, which turns the text of a response into a
message.

Owns: the message, the check of the processor's arguments, and the message of a text
with tools configured.

Does not own: the conversion of messages into prompts.
-/

namespace LiteRTLM.Conversation

open LiteRTLM.Engine
open LiteRTLM.Library
open LiteRTLM.Components.ToolUse
open LiteRTLM.Util

/-- The JSON object of an assistant message; a member that is absent is `none`. -/
structure Message (ToolCall : Type) where
  role : String := "assistant"
  content : Option (List Text) := none
  toolCalls : Option (List ToolCall) := none
deriving DecidableEq, Repr

/-- The alternatives of `DataProcessorArguments`. -/
inductive DataProcessorArguments where
  | monostate
  | generic
  | gemma3
  | qwen3
deriving DecidableEq, Repr

/-- What `ToMessage` reads of `Gemma3DataProcessor`; `preface` holds the tools. -/
structure Gemma3DataProcessor (Tool ToolCall : Type) where
  config : ToolCallFormat := {}
  preface : Option (List Tool) := none
  externals : Externals ToolCall

namespace Gemma3DataProcessor

variable {Tool ToolCall : Type} (processor : Gemma3DataProcessor Tool ToolCall)

/-- The preface is there and has tools. -/
def hasTools : Bool :=
  match processor.preface with
  | some tools => !tools.isEmpty
  | none => false

/-- A member of the parsed object, present when its list is not empty. -/
def member {Item : Type} (items : List Item) : Option (List Item) :=
  if items.isEmpty then none else some items

def toMessageImpl (responseText : Text) : Option (StatusOr (Message ToolCall)) :=
  if processor.hasTools then
    (parseTextAndToolCalls processor.externals processor.config responseText).map fun parsed =>
      parsed.map fun contentAndToolCalls =>
        { content := member contentAndToolCalls.content
          toolCalls := member contentAndToolCalls.toolCalls }
  else some (.ok { content := some [responseText] })

/-- `ToMessage`; `none` when the parse does not end. -/
def toMessage (args : DataProcessorArguments) (responseText : Text) :
    Option (StatusOr (Message ToolCall)) :=
  match args with
  | .gemma3 | .monostate => processor.toMessageImpl responseText
  | .generic | .qwen3 => some (.error (Status.invalidArgumentError
      "DataProcessorArguments does not hold the expected type"))

/-! ## The message of a text -/

open FencedText

def toolCallsOf (externals : Externals ToolCall) (format : ToolCallFormat)
    (fences : Fences Char) : List (Piece Char) → StatusOr (List ToolCall)
  | [] => .ok []
  | .text _ :: pieces => toolCallsOf externals format fences pieces
  | .block block :: pieces => do
      let toolCalls ← parseCodeBlock externals format (fences.inside block)
      let later ← toolCallsOf externals format fences pieces
      return toolCalls ++ later

/-- The fold over the pieces collects the texts and the tool calls. -/
theorem foldlM_addPiece (externals : Externals ToolCall) (format : ToolCallFormat)
    (fences : Fences Char) (pieces : List (Piece Char)) (result : TextAndToolCalls ToolCall) :
    pieces.foldlM (addPiece externals format fences) result =
      (toolCallsOf externals format fences pieces).map fun toolCalls =>
        { content := result.content ++ (texts pieces).filter (fun text => text ≠ [])
          toolCalls := result.toolCalls ++ toolCalls } := by
  induction pieces generalizing result with
  | nil => simp [toolCallsOf, texts, pure, Except.pure, Except.map]
  | cons piece pieces hypothesis =>
      rw [List.foldlM_cons]
      cases piece with
      | text symbols =>
          show pieces.foldlM _ (result.addText symbols) = _
          rw [hypothesis]
          cases symbols <;> simp [TextAndToolCalls.addText, texts, toolCallsOf]
      | block block =>
          rw [toolCallsOf, addPiece]
          cases parseCodeBlock externals format (fences.inside block) with
          | error status => rfl
          | ok toolCalls =>
              show pieces.foldlM _ (result.addToolCalls toolCalls) = _
              rw [hypothesis]
              cases toolCallsOf externals format fences pieces with
              | error status => rfl
              | ok later =>
                  simp only [Except.map, TextAndToolCalls.addToolCalls, List.append_assoc, texts]
                  rfl

theorem toolCallsOf_filter_isBlock (externals : Externals ToolCall) (format : ToolCallFormat)
    (fences : Fences Char) (pieces : List (Piece Char)) :
    toolCallsOf externals format fences (pieces.filter Piece.isBlock) =
      toolCallsOf externals format fences pieces := by
  induction pieces with
  | nil => rfl
  | cons piece pieces hypothesis =>
      cases piece with
      | text symbols => exact hypothesis
      | block block =>
          rw [List.filter_cons_of_pos rfl, toolCallsOf, toolCallsOf, hypothesis]

theorem toolCallsOf_mergeText (externals : Externals ToolCall) (format : ToolCallFormat)
    (fences : Fences Char) (pieces : List (Piece Char)) :
    toolCallsOf externals format fences (mergeText pieces) =
      toolCallsOf externals format fences pieces := by
  rw [← toolCallsOf_filter_isBlock, filter_isBlock_mergeText, toolCallsOf_filter_isBlock]

/-- The message of a text with these pieces. -/
def messageOf (externals : Externals ToolCall) (format : ToolCallFormat) (fences : Fences Char)
    (pieces : List (Piece Char)) : StatusOr (Message ToolCall) :=
  (toolCallsOf externals format fences pieces).map fun toolCalls =>
    { content := member (texts pieces), toolCalls := member toolCalls }

section ToMessage

variable (startNonempty : processor.config.codeFenceStart ≠ [])
  (endNonempty : processor.config.codeFenceEnd ≠ [])

/-- The fences of the configuration, when neither is empty. -/
def fences : Fences Char := processor.config.fences startNonempty endNonempty

/-- The arguments are those of this processor, or there are none. -/
def acceptsArguments (args : DataProcessorArguments) : Prop :=
  args = .gemma3 ∨ args = .monostate

/-- With tools and literal fences the message holds the texts around the blocks and the
tool calls inside them. -/
theorem toMessage_eq (hasTools : processor.hasTools = true)
    (escaped : processor.config.escapeFenceStrings = true) {args : DataProcessorArguments}
    (accepted : acceptsArguments args) (responseText : Text) :
    let fences := processor.fences startNonempty endNonempty
    let pieces := mergeText (fences.pieces responseText)
    processor.toMessage args responseText =
      some (messageOf processor.externals processor.config fences pieces) := by
  intro fences pieces
  have parsed := parseTextAndToolCalls_eq processor.externals processor.config startNonempty
    endNonempty escaped responseText
  have impl : processor.toMessage args responseText = processor.toMessageImpl responseText := by
    rcases accepted with rfl | rfl <;> rfl
  rw [impl, toMessageImpl, if_pos hasTools, parsed, foldlM_addPiece]
  show some (Except.map _ (Except.map _ (toolCallsOf _ _ fences (fences.pieces responseText)))) = _
  have sameTexts : texts pieces = _ := fences.texts_mergeText_pieces responseText
  have sameCalls : toolCallsOf processor.externals processor.config fences pieces = _ :=
    toolCallsOf_mergeText _ _ fences (fences.pieces responseText)
  rw [messageOf, sameCalls, sameTexts]
  cases toolCallsOf processor.externals processor.config fences (fences.pieces responseText) with
  | error status => rfl
  | ok toolCalls => rfl

end ToMessage

end Gemma3DataProcessor

end LiteRTLM.Conversation
