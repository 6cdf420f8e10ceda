import LiteRTLM.Components.ToolUse.PythonGrammar
import LiteRTLM.Components.ToolUse.JsonParserUtils

/-!
Contract: `ParsePythonExpression`, the parser of Python tool calls.

Owns: the values read off a parse tree, the listener that collects the function calls, and the
parse of a text.

Does not own: lexer and grammar. `absl::SimpleAtod` is a parameter; it refuses a text it cannot
read as a number.
-/

namespace LiteRTLM.Components.ToolUse

open LiteRTLM.Engine
open LiteRTLM.Util
open LiteRTLM.Components.ToolUse.PythonGrammar

/-- A number of a Python call: an `int` or a `double`. -/
inductive PythonNumber (Double : Type) where
  | int (value : Int)
  | double (value : Double)
deriving DecidableEq, Repr

/-- The number that decimal digits denote. -/
def ofDigits (digits : Text) : Nat :=
  digits.foldl (fun value letter => 10 * value + (letter.toNat - '0'.toNat)) 0

/-- The sign in front of a number, and what is behind it. -/
def splitSign : Text → Bool × Text
  | '-' :: digits => (true, digits)
  | '+' :: digits => (false, digits)
  | digits => (false, digits)

/-- `absl::SimpleAtoi` of an `int`, for a text without white space. -/
def simpleAtoi (text : Text) : Option Int :=
  let (negative, digits) := splitSign text
  if digits = [] ∨ ¬digits.all Char.isDigit then
    none
  else
    let value : Int := if negative then -ofDigits digits else ofDigits digits
    if -2 ^ 31 ≤ value ∧ value < 2 ^ 31 then some value else none

/-! ## Values -/

/-- `getText` of a value. -/
def PythonGrammar.ValueContext.text (context : PythonGrammar.ValueContext) : Text :=
  context.tokens.flatMap PythonLexer.Token.text

variable {Double : Type} (simpleAtod : Text → Option Double)

mutual

def parsePythonValue : PythonGrammar.ValueContext → StatusOr (Json (PythonNumber Double))
  | .int text =>
      match simpleAtoi text with
      | none => .error (.invalidArgumentError ("Invalid int: " ++ String.ofList text))
      | some value => .ok (.number (.int value))
  | .float text =>
      match simpleAtod text with
      | none => .error (.invalidArgumentError ("Invalid float: " ++ String.ofList text))
      | some value => .ok (.number (.double value))
  | .string text => .ok (.string (stripQuotes text))
  | .bool text => .ok (.boolean (text = "True".toList))
  | .none => .ok .null
  | .list values => (parsePythonList values).map .array
  | .dict pairs => (parsePythonDict [] pairs).map .object
  | .object name argVals =>
      (parsePythonObject [("__type__".toList, .string name)] argVals).map .object

/-- The loop of `ParsePythonList`. -/
def parsePythonList :
    List PythonGrammar.ValueContext → StatusOr (List (Json (PythonNumber Double)))
  | [] => .ok []
  | value :: rest => do
      let first ← parsePythonValue value
      return first :: (← parsePythonList rest)

/-- The loop of `ParsePythonDict`, with the members it has collected. -/
def parsePythonDict (members : List (Text × Json (PythonNumber Double))) :
    List (Text × PythonGrammar.ValueContext) →
      StatusOr (List (Text × Json (PythonNumber Double)))
  | [] => .ok members
  | (key, value) :: rest =>
      let keyText := stripQuotes key
      if containsKey members keyText then
        .error (.invalidArgumentError ("Duplicate key: " ++ String.ofList keyText))
      else
        match parsePythonValue value with
        | .error status => .error status
        | .ok parsedValue => parsePythonDict (members ++ [(keyText, parsedValue)]) rest

/-- The loop of `ParsePythonObject`, with the members it has collected. -/
def parsePythonObject (members : List (Text × Json (PythonNumber Double))) :
    List (Text × PythonGrammar.ValueContext) →
      StatusOr (List (Text × Json (PythonNumber Double)))
  | [] => .ok members
  | (name, value) :: rest =>
      if name = [] ∨ value.text = [] then
        parsePythonObject members rest
      else if containsKey members name then
        .error (.invalidArgumentError ("Duplicate key: " ++ String.ofList name))
      else
        match parsePythonValue value with
        | .error status => .error status
        | .ok parsedValue => parsePythonObject (members ++ [(name, parsedValue)]) rest

end

/-! ## The listener -/

structure PythonListener (Double : Type) where
  toolCalls : List (Json (PythonNumber Double)) := []
  status : Bool := true

/-- The loop over the arguments of a call, with those it has collected. It gives up at an
argument that cannot be read or has the name of an earlier one. -/
def collectArguments (arguments : List (Text × Json (PythonNumber Double))) :
    List ArgValContext → Option (List (Text × Json (PythonNumber Double)))
  | [] => some arguments
  | (name, value) :: rest =>
      if name = [] ∨ value.text = [] then
        none
      else
        match parsePythonValue simpleAtod value with
        | .error _ => none
        | .ok parsedValue =>
            if containsKey arguments name then
              none
            else
              collectArguments (arguments ++ [(name, parsedValue)]) rest

/-- The entry of a function call. -/
def pythonToolCall (name : Text) (arguments : List (Text × Json (PythonNumber Double))) :
    Json (PythonNumber Double) :=
  .object (("name".toList, .string name) ::
    if arguments = [] then [] else [("arguments".toList, .object arguments)])

namespace PythonListener

def enterFunctionCall (listener : PythonListener Double) :
    PythonGrammar.FunctionCallContext → PythonListener Double
  | .fullFunctionCall name first others =>
      if name = [] then
        { listener with status := false }
      else
        match collectArguments simpleAtod [] (first :: others) with
        | none => { listener with status := false }
        | some arguments => ⟨listener.toolCalls ++ [pythonToolCall name arguments], true⟩
  | .emptyFunctionCall name => ⟨listener.toolCalls ++ [pythonToolCall name []], true⟩

/-- The walk over a parse tree. -/
def walk : ExprContext → PythonListener Double
  | .functionCalls first others => (first :: others).foldl (enterFunctionCall simpleAtod) {}
  | .functionCallList calls => calls.foldl (enterFunctionCall simpleAtod) {}

end PythonListener

def parsePythonExpression (text : Text) : StatusOr (List (Json (PythonNumber Double))) :=
  if text = [] then
    .ok []
  else
    match PythonLexer.lex text with
    | none =>
        .error (.invalidArgumentError "Failed to parse tool call: Lexer reported errors.")
    | some tokens =>
        match main tokens with
        | none =>
            .error (.invalidArgumentError "Failed to parse tool call: Parser reported errors.")
        | some context =>
            let listener := PythonListener.walk simpleAtod context
            if listener.status = false then
              .error
                (.invalidArgumentError "Failed to parse tool call: Listener reported errors.")
            else
              .ok listener.toolCalls

end LiteRTLM.Components.ToolUse
