import LiteRTLM.Engine.Status
import LiteRTLM.Util.Json
import LiteRTLM.Library.LazyPattern

/-!
Contract: `ParseTextAndToolCalls`, which separates the text of a complete response from
the tool calls in its code blocks.

Owns: the regex of a code block, `FilterLines`, the parse of one code block, the loop
over the response, and the parse as a fold over the pieces of the response.

Does not own: the parsers of the two tool-call syntaxes, `tool_code_regex` and fence
strings that are not escaped, which are given.
-/

namespace LiteRTLM.Components.ToolUse

open LiteRTLM.Engine
open LiteRTLM.Library
open LiteRTLM.Util

inductive SyntaxType where
  | unknown
  | python
  | json
deriving DecidableEq, Repr

def getSyntaxType (syntaxType : Text) : SyntaxType :=
  if syntaxType = "python".toList then .python
  else if syntaxType = "json".toList then .json
  else .unknown

/-- The code a parse calls: RE2 on patterns from the configuration, and the parsers of
the two syntaxes. -/
structure Externals (ToolCall : Type) where
  /-- `RE2::PartialMatch(line, regex, &captured_part)`; `none` when the regex is not ok. -/
  partialMatch : Text → Option (Text → Option Text)
  /-- `RE2::Consume` with a pattern that is not made of literals; `regex.error()` when the
  regex is not ok. -/
  consumePattern : Text → Except Text (Text → Option (Text × Text × Text))
  parsePythonExpression : Text → StatusOr (List ToolCall)
  parseJsonExpression : Text → StatusOr (List ToolCall)

/-- The part of a data processor's configuration that a parse reads. -/
structure ToolCallFormat where
  codeFenceStart : Text := "```tool_code\n".toList
  codeFenceEnd : Text := "\n```".toList
  syntaxType : Text := "python".toList
  escapeFenceStrings : Bool := true
  toolCodeRegex : Text := "print\\((?:default_api\\.)?(.+\\(.*\\))\\)".toList

/-- The JSON object a parse builds. Its members `content` and `tool_calls` are created
by their first `push_back`, so a member is there when its list is not empty. -/
structure TextAndToolCalls (ToolCall : Type) where
  content : List Text := []
  toolCalls : List ToolCall := []
deriving DecidableEq, Repr

namespace TextAndToolCalls

variable {ToolCall : Type}

def addText (result : TextAndToolCalls ToolCall) (text : Text) : TextAndToolCalls ToolCall :=
  if text = [] then result else { result with content := result.content ++ [text] }

def addToolCalls (result : TextAndToolCalls ToolCall) (toolCalls : List ToolCall) :
    TextAndToolCalls ToolCall :=
  { result with toolCalls := result.toolCalls ++ toolCalls }

end TextAndToolCalls

/-- Keeps of each line what the regex captures, and the other lines as they are. -/
def filterLines (input : Text) (partialMatch : Text → Option Text) : Text :=
  ['\n'].intercalate ((input.splitOn '\n').map fun line => (partialMatch line).getD line)

section Parse

variable {ToolCall : Type} (externals : Externals ToolCall) (format : ToolCallFormat)

/-- `RE2::Consume(&response_str, TextAndToolCodeRegex(..), &text, &code_block)`: the text,
the code block, and what is left of the response. -/
def consumeTextAndToolCode : StatusOr (Text → Option (Text × Text × Text)) :=
  if format.escapeFenceStrings then
    .ok fun responseStr =>
      match LazyPattern.consume
          (LazyPattern.fencedBlock format.codeFenceStart format.codeFenceEnd) responseStr with
      | some ([text, codeBlock], rest) => some (text, codeBlock, rest)
      | _ => none
  else
    let pattern :=
      "(?ms)(.*?)".toList ++ format.codeFenceStart ++ "(.*?)".toList ++ format.codeFenceEnd
    (externals.consumePattern pattern).mapError fun error => Status.invalidArgumentError
      ("Invalid regex: " ++ String.ofList pattern ++ " error: " ++ String.ofList error)

def parseCodeBlock (codeBlock : Text) : StatusOr (List ToolCall) := do
  let codeBlock ←
    if format.toolCodeRegex = [] then pure codeBlock
    else match externals.partialMatch format.toolCodeRegex with
      | none => throw (Status.invalidArgumentError
          ("Invalid tool_code_regex: " ++ String.ofList format.toolCodeRegex))
      | some partialMatch => pure (filterLines codeBlock partialMatch)
  if codeBlock = [] then return []
  match getSyntaxType format.syntaxType with
  | .python => externals.parsePythonExpression codeBlock
  | .json => externals.parseJsonExpression codeBlock
  | .unknown => throw (Status.invalidArgumentError "Unsupported syntax type.")

/-- The loop over the response, for at most `fuel` calls of `consume`; `none` when it has
not ended by then. -/
def parseBlocks (consume : Text → Option (Text × Text × Text)) :
    Nat → Text → TextAndToolCalls ToolCall → Option (StatusOr (TextAndToolCalls ToolCall))
  | 0, _, _ => none
  | fuel + 1, responseStr, result =>
      match consume responseStr with
      | none => some (.ok (result.addText responseStr))
      | some (text, codeBlock, rest) =>
          match parseCodeBlock externals format codeBlock with
          | .error status => some (.error status)
          | .ok toolCalls =>
              parseBlocks consume fuel rest ((result.addText text).addToolCalls toolCalls)

def parseTextAndToolCalls (responseStr : Text) :
    Option (StatusOr (TextAndToolCalls ToolCall)) :=
  match consumeTextAndToolCode externals format with
  | .error status => some (.error status)
  | .ok consume => parseBlocks externals format consume (responseStr.length + 1) responseStr {}

end Parse

/-! ## The parse as a fold over the pieces -/

section Pieces

open FencedText

variable {ToolCall : Type} (externals : Externals ToolCall) (format : ToolCallFormat)
  (startNonempty : format.codeFenceStart ≠ []) (endNonempty : format.codeFenceEnd ≠ [])

/-- The fences of the configuration, when neither is empty. -/
def ToolCallFormat.fences : Fences Char :=
  ⟨format.codeFenceStart, format.codeFenceEnd, startNonempty, endNonempty⟩

def addPiece (fences : Fences Char) (result : TextAndToolCalls ToolCall) :
    Piece Char → StatusOr (TextAndToolCalls ToolCall)
  | .text text => .ok (result.addText text)
  | .block block =>
      (parseCodeBlock externals format (fences.inside block)).map result.addToolCalls

/-- The regex finds the first block. -/
theorem consumeTextAndToolCode_escaped (escaped : format.escapeFenceStrings = true) :
    let fences := format.fences startNonempty endNonempty
    consumeTextAndToolCode externals format = .ok fun responseStr =>
      (fences.firstBlock responseStr).map fun (start, length) =>
        (responseStr.take start, fences.inside ((responseStr.drop start).take length),
          responseStr.drop (start + length)) := by
  intro fences
  unfold consumeTextAndToolCode
  rw [if_pos escaped]
  congr 1
  funext responseStr
  have found := LazyPattern.consume_fencedBlock fences responseStr
  change LazyPattern.consume
    (LazyPattern.fencedBlock format.codeFenceStart format.codeFenceEnd) responseStr = _ at found
  rw [found]
  cases fences.firstBlock responseStr <;> rfl

theorem parseBlocks_eq {fuel : Nat} {responseStr : Text} (result : TextAndToolCalls ToolCall)
    (enough : responseStr.length < fuel) :
    let fences := format.fences startNonempty endNonempty
    parseBlocks externals format (fun responseStr =>
        (fences.firstBlock responseStr).map fun (start, length) =>
          (responseStr.take start, fences.inside ((responseStr.drop start).take length),
            responseStr.drop (start + length))) fuel responseStr result =
      some ((fences.pieces responseStr).foldlM (addPiece externals format fences) result) := by
  intro fences
  induction fuel generalizing responseStr result with
  | zero => omega
  | succ fuel hypothesis =>
      rw [parseBlocks]
      cases found : fences.firstBlock responseStr with
      | none =>
          rw [fences.pieces_of_none found]
          rfl
      | some block =>
          obtain ⟨start, length⟩ := block
          have bounds := fences.firstBlock_le found
          rw [fences.pieces_of_some found]
          simp only [Option.map_some, List.foldlM_cons, addPiece]
          cases parseCodeBlock externals format
              (fences.inside ((responseStr.drop start).take length)) with
          | error status => rfl
          | ok toolCalls =>
              exact hypothesis _ (by rw [List.length_drop]; omega)

/-- With literal fences that are not empty the parse ends, and it folds over the pieces
of the response. -/
theorem parseTextAndToolCalls_eq (escaped : format.escapeFenceStrings = true)
    (responseStr : Text) :
    let fences := format.fences startNonempty endNonempty
    parseTextAndToolCalls externals format responseStr =
      some ((fences.pieces responseStr).foldlM (addPiece externals format fences) {}) := by
  intro fences
  unfold parseTextAndToolCalls
  rw [consumeTextAndToolCode_escaped externals format startNonempty endNonempty escaped]
  exact parseBlocks_eq externals format startNonempty endNonempty {} (Nat.lt_succ_self _)

end Pieces

end LiteRTLM.Components.ToolUse
