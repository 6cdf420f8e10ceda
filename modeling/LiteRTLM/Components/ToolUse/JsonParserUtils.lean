import LiteRTLM.Components.ToolUse.JsonGrammar
import LiteRTLM.Engine.Status

/-!
Contract: `ParseJsonExpression`, the parser of JSON tool calls.

Owns: the values read off a parse tree, the listener that collects the function calls,
and the parse of a text.

Does not own: lexer and grammar. `absl::SimpleAtod` is a parameter; it refuses a text it
cannot read as a number.
-/

namespace LiteRTLM.Components.ToolUse

open LiteRTLM.Engine
open LiteRTLM.Util
open LiteRTLM.Components.ToolUse.JsonGrammar

def stripQuotes (text : Text) : Text :=
  if text.length < 2 ∨ (text.head? ≠ some '"' ∧ text.head? ≠ some '\'') ∨
      text.getLast? ≠ text.head? then
    text
  else
    (text.drop 1).dropLast

/-! ## Values -/

variable {Number : Type} (simpleAtod : Text → Option Number)

/-- The members of an object, of which one has this key. -/
def containsKey (members : List (Text × Json Number)) (key : Text) : Bool :=
  members.any fun member => member.1 = key

mutual

def parseJsonValue : ValueContext → StatusOr (Json Number)
  | .string text => .ok (.string (stripQuotes text))
  | .number text =>
      match simpleAtod text with
      | none =>
          .error (.invalidArgumentError ("Failed to parse number: " ++ String.ofList text))
      | some value => .ok (.number value)
  | .object pairs => (parseJsonObject [] pairs).map .object
  | .array values => (parseJsonArray values).map .array
  | .boolean text => .ok (.boolean (text = "true".toList))
  | .none => .ok .null

/-- The loop of `ParseJsonArray`. -/
def parseJsonArray : List ValueContext → StatusOr (List (Json Number))
  | [] => .ok []
  | value :: rest => do
      let first ← parseJsonValue value
      return first :: (← parseJsonArray rest)

/-- The loop of `ParseJsonObject`, with the members it has collected. -/
def parseJsonObject (members : List (Text × Json Number)) :
    List (Text × ValueContext) → StatusOr (List (Text × Json Number))
  | [] => .ok members
  | (key, value) :: rest =>
      let keyText := stripQuotes key
      if keyText = [] then
        .error (.invalidArgumentError "JSON object key cannot be empty.")
      else if containsKey members keyText then
        .error (.invalidArgumentError ("Duplicate key in JSON object: " ++ String.ofList keyText))
      else
        match parseJsonValue value with
        | .error status =>
            .error ⟨status.code, "Error parsing value for key '" ++ String.ofList keyText ++ "': " ++
              status.message⟩
        | .ok parsedValue => parseJsonObject (members ++ [(keyText, parsedValue)]) rest

end

/-! ## The listener -/

structure JsonListener (Number : Type) where
  toolCalls : List (Json Number) := []
  status : Bool := false

/-- The entry of a function call. -/
def toolCall (name : Text) (arguments : List (Text × Json Number)) : Json Number :=
  .object [("name".toList, .string (stripQuotes name)), ("arguments".toList, .object arguments)]

namespace JsonListener

def enterFunctionCall (listener : JsonListener Number) :
    FunctionCallContext → JsonListener Number
  | .fullFunctionCall name arguments =>
      match parseJsonObject simpleAtod [] arguments with
      | .error _ => { listener with status := false }
      | .ok parsedArgs => ⟨listener.toolCalls ++ [toolCall name parsedArgs], true⟩
  | .emptyFunctionCall => { listener with status := true }

def enterFunctionCallList (listener : JsonListener Number) (calls : List FunctionCallContext) :
    JsonListener Number :=
  if calls = [] then { listener with status := true } else listener

/-- The walk over a parse tree. -/
def walk : JsonContext → JsonListener Number
  | .functionCall call => enterFunctionCall simpleAtod {} call
  | .functionCallList calls =>
      calls.foldl (enterFunctionCall simpleAtod) (enterFunctionCallList {} calls)

end JsonListener

def parseJsonExpression (text : Text) : StatusOr (List (Json Number)) :=
  match JsonLexer.lex text with
  | none =>
      .error (.invalidArgumentError ("Failed to lexer JSON input." ++ String.ofList text))
  | some tokens =>
      match json tokens with
      | none =>
          .error (.invalidArgumentError ("Failed to parse JSON input." ++ String.ofList text))
      | some (context, _) =>
          let listener := JsonListener.walk simpleAtod context
          if listener.status = false then
            .error (.invalidArgumentError ("Failed to parse tool call" ++ String.ofList text))
          else
            .ok listener.toolCalls

end LiteRTLM.Components.ToolUse
