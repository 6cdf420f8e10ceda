import LiteRTLM.Library.MaximalMunch
import LiteRTLM.Util.Json

/-!
Contract: the lexer of JSON tool calls, `AntlrJsonLexer`.

Owns: the tokens, and the rules of the lexer grammar in their order.

Does not own: how a lexer applies its rules. The keys of a function call are tokens of
their own, which a string of the same text is therefore not.
-/

namespace LiteRTLM.Components.ToolUse.JsonLexer

open LiteRTLM.Library
open LiteRTLM.Library.RegularPattern
open LiteRTLM.Library.MaximalMunch
open LiteRTLM.Util

/-- A token, with its text where the parser reads it. -/
inductive Token where
  | openBrace
  | closeBrace
  | openBracket
  | closeBracket
  | comma
  | colon
  | boolean (text : Text)
  | none
  | functionName
  | functionArguments
  | string (text : Text)
  | number (text : Text)
deriving DecidableEq, Repr

/-- One character of a set. -/
def charIn (accepts : Char → Bool) : RegularPattern Char := .symbol accepts

/-- One of these characters. -/
def charOf (letters : Text) : RegularPattern Char := .symbol fun letter => letter ∈ letters

/-- `[0-9]`. -/
def digit : RegularPattern Char := charIn fun letter => '0' ≤ letter ∧ letter ≤ '9'

def hex : RegularPattern Char :=
  charIn fun letter => ('0' ≤ letter ∧ letter ≤ '9') ∨ ('a' ≤ letter ∧ letter ≤ 'f') ∨
    ('A' ≤ letter ∧ letter ≤ 'F')

def unicode : RegularPattern Char :=
  .sequence (literal ['u']) (.sequence hex (.sequence hex (.sequence hex hex)))

def esc : RegularPattern Char :=
  .sequence (literal ['\\']) (.either (charOf ['"', '\\', '/', 'b', 'f', 'n', 'r', 't']) unicode)

def int : RegularPattern Char :=
  .either (literal ['0'])
    (.sequence (charIn fun letter => '1' ≤ letter ∧ letter ≤ '9') (.many digit))

def frac : RegularPattern Char := .sequence (literal ['.']) (atLeastOne digit)

def exp : RegularPattern Char :=
  .sequence (charOf ['e', 'E']) (.sequence (optional (charOf ['+', '-'])) (atLeastOne digit))

def string : RegularPattern Char :=
  .sequence (literal ['"'])
    (.sequence (.many (.either esc (charIn fun letter => letter ≠ '"' ∧ letter ≠ '\\')))
      (literal ['"']))

def number : RegularPattern Char :=
  oneOf [.sequence (optional (literal ['-'])) (.sequence int (optional (.either frac exp))),
    .sequence (optional (literal ['-'])) frac,
    .sequence (optional (literal ['-'])) exp]

def functionName : RegularPattern Char := literal ['"', 'n', 'a', 'm', 'e', '"']

def functionArguments : RegularPattern Char :=
  .sequence (literal ['"']) (.sequence
    (.either (literal ['a', 'r', 'g', 's'])
      (literal ['a', 'r', 'g', 'u', 'm', 'e', 'n', 't', 's']))
    (literal ['"']))

/-- The rules of the grammar, in its order. -/
def rules : List (LexerRule Char Token) :=
  [⟨literal ['{'], fun _ => some .openBrace⟩,
    ⟨literal ['}'], fun _ => some .closeBrace⟩,
    ⟨literal ['['], fun _ => some .openBracket⟩,
    ⟨literal [']'], fun _ => some .closeBracket⟩,
    ⟨literal [','], fun _ => some .comma⟩,
    ⟨literal [':'], fun _ => some .colon⟩,
    ⟨.either (literal ['t', 'r', 'u', 'e']) (literal ['f', 'a', 'l', 's', 'e']),
      fun text => some (.boolean text)⟩,
    ⟨literal ['n', 'u', 'l', 'l'], fun _ => some .none⟩,
    ⟨functionName, fun _ => some .functionName⟩,
    ⟨functionArguments, fun _ => some .functionArguments⟩,
    ⟨string, fun text => some (.string text)⟩,
    ⟨number, fun text => some (.number text)⟩,
    ⟨atLeastOne (charOf [' ', '\t', '\n', '\r']), fun _ => none⟩]

/-- The tokens of a text; a text with a part that no rule matches has none. -/
def lex (text : Text) : Option (List Token) := tokens rules text

/-- White space is skipped, and a key of a function call is not a string. -/
example : lex ['[', ' ', '"', 'n', 'a', 'm', 'e', '"', ':', '"', 'n', '"', ']'] =
    some [.openBracket, .functionName, .colon, .string ['"', 'n', '"'], .closeBracket] := by
  decide +kernel

end LiteRTLM.Components.ToolUse.JsonLexer
