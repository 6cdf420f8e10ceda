import LiteRTLM.Library.MaximalMunch
import LiteRTLM.Util.Json

/-!
Contract: the lexer of Python tool calls, `AntlrPythonLexer`.

Owns: the tokens with their texts, and the rules of the lexer grammar in their order.

Does not own: how a lexer applies its rules. `True`, `False` and `None` come before the rule
of names, which they match too.
-/

namespace LiteRTLM.Components.ToolUse.PythonLexer

open LiteRTLM.Library
open LiteRTLM.Library.RegularPattern
open LiteRTLM.Library.MaximalMunch
open LiteRTLM.Util

/-- A token, with its text where it is not fixed. -/
inductive Token where
  | eq
  | colon
  | sep
  | openPar
  | closePar
  | openBrace
  | closeBrace
  | listOpen
  | listClose
  | bool (text : Text)
  | int (text : Text)
  | float (text : Text)
  | string (text : Text)
  | none
  | name (text : Text)
deriving DecidableEq, Repr

def Token.text : Token → Text
  | eq => ['=']
  | colon => [':']
  | sep => [',']
  | openPar => ['(']
  | closePar => [')']
  | openBrace => ['{']
  | closeBrace => ['}']
  | listOpen => ['[']
  | listClose => [']']
  | bool text => text
  | int text => text
  | float text => text
  | string text => text
  | none => ['N', 'o', 'n', 'e']
  | name text => text

/-- One character of a set. -/
def charIn (accepts : Char → Bool) : RegularPattern Char := .symbol accepts

/-- `[0-9]`. -/
def digit : RegularPattern Char := charIn fun letter => '0' ≤ letter ∧ letter ≤ '9'

/-- `'-'?`. -/
def sign : RegularPattern Char := optional (literal ['-'])

def bool : RegularPattern Char :=
  .either (literal ['T', 'r', 'u', 'e']) (literal ['F', 'a', 'l', 's', 'e'])

def int : RegularPattern Char := .sequence sign (atLeastOne digit)

def float : RegularPattern Char :=
  .either
    (.sequence sign (.sequence (atLeastOne digit) (.sequence (literal ['.']) (.many digit))))
    (.sequence sign (.sequence (.many digit) (.sequence (literal ['.']) (atLeastOne digit))))

/-- A string between these quotes. -/
def quoted (quote : Char) : RegularPattern Char :=
  .sequence (literal [quote])
    (.sequence
      (.many (.either (charIn fun letter => letter ≠ quote ∧ letter ≠ '\\')
        (.sequence (literal ['\\']) (charIn fun _ => true))))
      (literal [quote]))

def string : RegularPattern Char := .either (quoted '"') (quoted '\'')

/-- A letter or an underscore. -/
def nameStart (letter : Char) : Bool :=
  ('a' ≤ letter ∧ letter ≤ 'z') ∨ ('A' ≤ letter ∧ letter ≤ 'Z') ∨ letter = '_'

/-- A letter, an underscore or a digit. -/
def nameLetter (letter : Char) : Bool :=
  nameStart letter ∨ ('0' ≤ letter ∧ letter ≤ '9')

def name : RegularPattern Char := .sequence (charIn nameStart) (.many (charIn nameLetter))

/-- `WS`. -/
def whitespace : RegularPattern Char :=
  atLeastOne (charIn fun letter => letter ∈ [' ', '\t', '\n', '\r'])

/-- The rules of the grammar, in its order. -/
def rules : List (LexerRule Char Token) :=
  [⟨literal ['='], fun _ => some .eq⟩,
    ⟨literal [':'], fun _ => some .colon⟩,
    ⟨literal [','], fun _ => some .sep⟩,
    ⟨literal ['('], fun _ => some .openPar⟩,
    ⟨literal [')'], fun _ => some .closePar⟩,
    ⟨literal ['{'], fun _ => some .openBrace⟩,
    ⟨literal ['}'], fun _ => some .closeBrace⟩,
    ⟨literal ['['], fun _ => some .listOpen⟩,
    ⟨literal [']'], fun _ => some .listClose⟩,
    ⟨bool, fun text => some (.bool text)⟩,
    ⟨int, fun text => some (.int text)⟩,
    ⟨float, fun text => some (.float text)⟩,
    ⟨string, fun text => some (.string text)⟩,
    ⟨literal ['N', 'o', 'n', 'e'], fun _ => some .none⟩,
    ⟨name, fun text => some (.name text)⟩,
    ⟨whitespace, fun _ => Option.none⟩]

/-- The tokens of a text; a text with a part that no rule matches has none. -/
def lex (text : Text) : Option (List Token) := tokens rules text

/-- A number with a point is one token, and a name that begins like a constant is a name. -/
example : lex "f(x=-1.5, Nones=None)".toList =
    some [.name ['f'], .openPar, .name ['x'], .eq, .float ['-', '1', '.', '5'], .sep,
      .name ['N', 'o', 'n', 'e', 's'], .eq, .none, .closePar] := by
  decide +kernel

end LiteRTLM.Components.ToolUse.PythonLexer
