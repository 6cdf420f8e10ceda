import LiteRTLM.Library.RegularPattern

/-!
Contract: lexers that take the longest match, and of equally long ones the first rule.

Owns: the rules of a lexer, the rule that applies in front of a text, the tokens of a
text, and how the tokens of a text follow from what is in front of it.

Does not own: any particular rules. A text in front of which no rule applies has no tokens.
-/

namespace LiteRTLM.Library.MaximalMunch

universe u v

variable {Symbol : Type u} {Token : Type v}

/-- A rule of a lexer: what it matches, and the token it makes of it, if it does not skip
it. -/
structure LexerRule (Symbol : Type u) (Token : Type v) where
  pattern : RegularPattern Symbol
  emit : List Symbol → Option Token

/-- The rule that applies in front of a text, and how much it takes. -/
def longestRule : List (LexerRule Symbol Token) → List Symbol →
    Option (Nat × LexerRule Symbol Token)
  | [], _ => none
  | rule :: rules, text =>
      match rule.pattern.longestMatch text, longestRule rules text with
      | none, later => later
      | some length, none => some (length, rule)
      | some length, some (longer, later) =>
          if length < longer then some (longer, later) else some (length, rule)

/-- The tokens of a text. A token takes at least one symbol. -/
def tokensFrom (rules : List (LexerRule Symbol Token)) : Nat → List Symbol → Option (List Token)
  | _, [] => some []
  | 0, _ :: _ => none
  | fuel + 1, letter :: rest =>
      match longestRule rules (letter :: rest) with
      | some (length + 1, rule) =>
          (tokensFrom rules fuel (rest.drop length)).map fun tokens =>
            (rule.emit (letter :: rest.take length)).toList ++ tokens
      | _ => none

/-- The tokens of a text, of which each token takes a part. -/
def tokens (rules : List (LexerRule Symbol Token)) (text : List Symbol) : Option (List Token) :=
  tokensFrom rules text.length text

end LiteRTLM.Library.MaximalMunch
