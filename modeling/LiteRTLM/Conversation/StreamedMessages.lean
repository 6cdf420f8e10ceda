import LiteRTLM.Conversation.CallbackEffects
import LiteRTLM.Conversation.ModelDataProcessor.Gemma3DataProcessor

/-!
Contract: the messages the user gets while a response arrives say what the complete
message says.

Owns: the message of each piece of a text, and the agreement of the streamed messages
with the complete message for a processor that parses tool calls.

Does not own: the segmentation and the parse, which agree on the blocks of a text.
-/

namespace LiteRTLM.Conversation.Gemma3DataProcessor

open LiteRTLM.Engine
open LiteRTLM.Library.FencedText
open LiteRTLM.Components.ToolUse
open LiteRTLM.Util
open LiteRTLM.Conversation.InternalCallback

variable {Tool ToolCall : Type} (processor : Gemma3DataProcessor Tool ToolCall)

/-- `ToMessage` returns. -/
theorem toMessage_isSome (startNonempty : processor.config.codeFenceStart ≠ [])
    (endNonempty : processor.config.codeFenceEnd ≠ []) (hasTools : processor.hasTools = true)
    (escaped : processor.config.escapeFenceStrings = true) {args : DataProcessorArguments}
    (accepted : acceptsArguments args) (responseText : Text) :
    (processor.toMessage args responseText).isSome = true := by
  rw [processor.toMessage_eq startNonempty endNonempty hasTools escaped accepted]
  rfl

/-- The content and the tool calls of a message as a piece: messages without a content
stand between the texts. -/
def pieceOfMessage (message : Message ToolCall) : Piece Char :=
  match message.content with
  | some content => .text content.flatten
  | none => .block []

/-- The text contents of messages, merged between the messages without a content. -/
def mergedContents (messages : List (Message ToolCall)) : List Text :=
  texts (mergeText (messages.map pieceOfMessage))

def concatenatedToolCalls (messages : List (Message ToolCall)) : List ToolCall :=
  messages.flatMap fun message => message.toolCalls.getD []

theorem getD_member {Item : Type} (items : List Item) : (member items).getD [] = items := by
  cases items <;> rfl

/-- When the tool calls of all pieces are parsed, each piece has a message, and the
messages say together what the pieces say. -/
theorem messages_of_pieces {externals : Externals ToolCall} {format : ToolCallFormat}
    {fences : Fences Char} {pieces : List (Piece Char)} {toolCalls : List ToolCall}
    (parsed : toolCallsOf externals format fences pieces = .ok toolCalls)
    (nonempty : ∀ piece ∈ pieces, piece ≠ .text []) :
    ∃ streamed : List (Message ToolCall),
      pieces.map (fun piece => messageOf externals format fences [piece]) = streamed.map .ok ∧
      concatenatedToolCalls streamed = toolCalls ∧
      streamed.map pieceOfMessage = pieces.map Piece.outline := by
  induction pieces generalizing toolCalls with
  | nil =>
      cases parsed
      exact ⟨[], rfl, rfl, rfl⟩
  | cons piece pieces hypothesis =>
      have nonemptyLater : ∀ piece ∈ pieces, piece ≠ .text [] :=
        fun piece later => nonempty piece (List.mem_cons_of_mem _ later)
      cases piece with
      | text symbols =>
          obtain ⟨streamed, each, calls, contents⟩ := hypothesis parsed nonemptyLater
          refine ⟨{ content := some [symbols] } :: streamed, ?_, calls, ?_⟩
          · rw [List.map_cons, List.map_cons, each]
            rfl
          · rw [List.map_cons, List.map_cons, contents]
            simp [pieceOfMessage, Piece.outline]
      | block block =>
          rw [toolCallsOf] at parsed
          cases here : parseCodeBlock externals format (fences.inside block) with
          | error status =>
              rw [here] at parsed
              cases parsed
          | ok first =>
              cases after : toolCallsOf externals format fences pieces with
              | error status =>
                  rw [here, after] at parsed
                  cases parsed
              | ok later =>
                  rw [here, after] at parsed
                  cases parsed
                  obtain ⟨streamed, each, calls, contents⟩ := hypothesis after nonemptyLater
                  have message : messageOf externals format fences [.block block] =
                      .ok { toolCalls := member first } := by
                    simp [messageOf, toolCallsOf, here, pure, Except.pure, bind, Except.bind,
                      Except.map, texts, member]
                  refine ⟨{ toolCalls := member first } :: streamed, ?_, ?_, ?_⟩
                  · rw [List.map_cons, List.map_cons, each, message]
                  · rw [concatenatedToolCalls, List.flatMap_cons, getD_member]
                    exact congrArg (first ++ ·) calls
                  · rw [List.map_cons, List.map_cons, contents]
                    rfl

section Agreement

variable (startNonempty : processor.config.codeFenceStart ≠ [])
  (endNonempty : processor.config.codeFenceEnd ≠ [])
  (hasTools : processor.hasTools = true)
  (escaped : processor.config.escapeFenceStrings = true)
  {args : DataProcessorArguments} (accepted : acceptsArguments args)
  (hasCancelCallback hasCompleteMessageCallback : Bool)

/-- What `CreateInternalCallback` captures with this processor. -/
def captures : Captures Char (Message ToolCall) where
  toMessage text := (processor.toMessage args text).get
    (processor.toMessage_isSome startNonempty endNonempty hasTools escaped accepted text)
  codeFenceStart := processor.config.codeFenceStart
  codeFenceEnd := processor.config.codeFenceEnd
  hasCancelCallback := hasCancelCallback
  hasCompleteMessageCallback := hasCompleteMessageCallback

theorem captures_toMessage (text : Text) :
    let fences := processor.fences startNonempty endNonempty
    (processor.captures startNonempty endNonempty hasTools escaped accepted hasCancelCallback
        hasCompleteMessageCallback).toMessage text =
      messageOf processor.externals processor.config fences (mergeText (fences.pieces text)) := by
  intro fences
  apply Option.some.inj
  rw [← processor.toMessage_eq startNonempty endNonempty hasTools escaped accepted]
  exact Option.some_get _

/-- When the complete message is parsed, every message streamed before is, and together
they carry its tool calls and its texts. -/
theorem streamed_messages_agree {calls : List (StatusOr (Update Char))}
    (goOn : ∀ responses ∈ calls, completes responses = false)
    {last : StatusOr (Update Char)} (isLast : completes last = true)
    {complete : Message ToolCall}
    (succeeds : processor.toMessage args (calls.flatMap receivedText) = some (.ok complete)) :
    let captures := processor.captures startNonempty endNonempty hasTools escaped accepted
      hasCancelCallback hasCompleteMessageCallback
    ∃ final effects streamed,
      captures.run {} (calls ++ [last]) = some (final, effects) ∧
      streamedResults effects = streamed.map .ok ∧
      concatenatedToolCalls streamed = complete.toolCalls.getD [] ∧
      mergedContents streamed = complete.content.getD [] ∧
      completeMessages effects = if hasCompleteMessageCallback then [complete] else [] := by
  intro captures
  obtain ⟨final, effects, ran, ranLast, sameText, settledCaptures⟩ :=
    run_complete captures startNonempty endNonempty goOn isLast
  have settled : Settled (processor.fences startNonempty endNonempty) (segments effects) final :=
    settledCaptures
  have sameMessage : ∀ text, captures.toMessage text = _ :=
    processor.captures_toMessage startNonempty endNonempty hasTools escaped accepted
      hasCancelCallback hasCompleteMessageCallback
  have stream := streams_run captures goOn ran
  -- The complete message is the message of all pieces, and so of the segments.
  have whole : captures.toMessage final.accumulatedResponseText = .ok complete := by
    apply Option.some.inj
    rw [sameText, ← succeeds]
    exact Option.some_get _
  have wholePieces := whole
  rw [sameMessage, ← settled.mergeText_complete captures, messageOf] at wholePieces
  have results := streamedResults_complete captures stream whole
  have completed := completeMessages_complete captures stream whole
  have alone := settled.alone_complete captures
  generalize segments effects ++ segments (captures.sendCompleteMessage final) = sent at *
  cases parsed : toolCallsOf processor.externals processor.config
      (processor.fences startNonempty endNonempty)
      (sent.map (processor.fences startNonempty endNonempty).asPiece) with
  | error status =>
      rw [toolCallsOf_mergeText, parsed] at wholePieces
      cases wholePieces
  | ok toolCalls =>
      rw [toolCallsOf_mergeText, parsed] at wholePieces
      cases wholePieces
      have nonempty : ∀ piece ∈ sent.map (processor.fences startNonempty endNonempty).asPiece,
          piece ≠ .text [] := by
        intro piece member
        obtain ⟨segment, inSent, rfl⟩ := List.mem_map.mp member
        exact Fences.asPiece_ne_of_alone _ (alone segment inSent)
      obtain ⟨streamed, each, calls, contents⟩ := messages_of_pieces parsed nonempty
      refine ⟨final, _, streamed, ranLast, ?_, ?_, ?_, completed⟩
      · rw [results, ← each, List.map_map]
        apply List.map_congr_left
        intro segment member
        rw [sameMessage, alone segment member]
        rfl
      · rw [calls, getD_member]
      · rw [mergedContents, contents, mergeText_map_outline, texts_map_outline, getD_member]

end Agreement

section Python

/-- A processor with one tool, for responses whose code is `f()`. -/
private def callsF : Gemma3DataProcessor Text Text where
  config := { toolCodeRegex := [] }
  preface := some ["f".toList]
  externals :=
    { partialMatch := fun _ => none
      consumePattern := fun _ => .error "".toList
      parsePythonExpression := fun code =>
        if code = "f()".toList then .ok ["f".toList]
        else .error (Status.invalidArgumentError "Failed to parse.")
      parseJsonExpression := fun _ => .error (Status.invalidArgumentError "Failed to parse.") }

/-- The fence start is split between two responses. -/
private def callsFChunks : List (StatusOr (Update Char)) :=
  [.ok ⟨.processing, ["Hi ```to".toList]⟩, .ok ⟨.processing, ["ol_code\nf()\n```, bye".toList]⟩]

theorem streamed_messages_agree_callsF :
    let captures := callsF.captures (by decide) (by decide) rfl rfl (Or.inr rfl) true true
    ∃ final effects streamed,
      captures.run {} (callsFChunks ++ [.ok ⟨.done, []⟩]) = some (final, effects) ∧
      streamedResults effects = streamed.map .ok ∧
      concatenatedToolCalls streamed = ["f".toList] ∧
      mergedContents streamed = ["Hi ".toList, ", bye".toList] ∧
      completeMessages effects =
        [{ content := some ["Hi ".toList, ", bye".toList], toolCalls := some ["f".toList] }] :=
  callsF.streamed_messages_agree (by decide) (by decide) rfl rfl (Or.inr rfl) true true
    (show ∀ responses ∈ callsFChunks, completes responses = false by decide) rfl rfl

end Python

end LiteRTLM.Conversation.Gemma3DataProcessor
