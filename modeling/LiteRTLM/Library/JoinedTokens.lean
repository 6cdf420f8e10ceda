import Mathlib.Data.List.Forall2
import LiteRTLM.Library.SeparatedItems

/-!
Contract: what a lexer makes of a text that is written piece by piece.

A piece is read in front of a text that stops it. A text between brackets has pieces with a
separator between them.

Owns: pieces that are certain tokens, pieces that are recovered from tokens, and both for the
pieces between brackets.

Does not own: any particular lexer, and which texts stop a piece.
-/

namespace LiteRTLM.Library

open LiteRTLM.Library.SeparatedItems

universe u v w

variable {Symbol : Type u} {Token : Type v}

section Pieces

variable (lexer : List Symbol → Option (List Token)) (Stops : List Symbol → Prop)

/-- In front of a text that stops it, the piece is these tokens. -/
def LexesTo (piece : List Symbol) (tokens : List Token) : Prop :=
  ∀ rest, Stops rest → lexer (piece ++ rest) = (lexer rest).map (tokens ++ ·)

/-- Where a text with the piece in front begins with these tokens, the piece is good and ends with
them. -/
def Recovers (piece : List Symbol) (tokens : List Token) (good : Prop) : Prop :=
  ∀ rest more, Stops rest → lexer (piece ++ rest) = some (tokens ++ more) →
    good ∧ lexer rest = some more

/-- A piece that is one token whatever follows, and stops what is in front of it. -/
structure Closes (piece : List Symbol) (token : Token) : Prop where
  lexes : ∀ rest, lexer (piece ++ rest) = (lexer rest).map (token :: ·)
  stops : ∀ rest, Stops (piece ++ rest)

end Pieces

variable {lexer : List Symbol → Option (List Token)} {Stops : List Symbol → Prop}

theorem LexesTo.recovers {piece : List Symbol} {made tokens : List Token}
    (lexes : LexesTo lexer Stops piece made) (sameLength : made.length = tokens.length) :
    Recovers lexer Stops piece tokens (made = tokens) := by
  intro rest more stops lexed
  rw [lexes rest stops] at lexed
  obtain ⟨later, lexedLater, isTokens⟩ := Option.map_eq_some_iff.mp lexed
  obtain ⟨sameTokens, rfl⟩ := List.append_inj isTokens sameLength
  exact ⟨sameTokens, lexedLater⟩

theorem Recovers.mono {piece : List Symbol} {tokens : List Token} {good better : Prop}
    (recovers : Recovers lexer Stops piece tokens good) (implies : good → better) :
    Recovers lexer Stops piece tokens better := by
  intro rest more stops lexed
  obtain ⟨isGood, lexedRest⟩ := recovers rest more stops lexed
  exact ⟨implies isGood, lexedRest⟩

/-- One token in front of what is lexed. -/
theorem of_map_cons {token other : Token} {lexed : Option (List Token)} {more : List Token}
    (isTokens : lexed.map (token :: ·) = some (other :: more)) :
    token = other ∧ lexed = some more := by
  obtain ⟨later, isLater, same⟩ := Option.map_eq_some_iff.mp isTokens
  obtain ⟨sameToken, rfl⟩ := List.cons.inj same
  exact ⟨sameToken, isLater⟩

/-! ## Between brackets -/

section Joined

variable {Item : Type w} {Tree : Type v} {textOf : Item → List Symbol}
  {derivation : Tree → List Token} {separator : List Symbol} {sep : Token}
  {close : List Symbol} {closeToken : Token}

theorem enclosedTokens_cons_cons (first second : Tree) (others : List Tree) :
    enclosedTokens sep closeToken derivation (first :: second :: others) =
      derivation first ++ sep :: enclosedTokens sep closeToken derivation (second :: others) := by
  rw [enclosedTokens, enclosedTokens, separatedTokens, separatedTokens, List.flatMap_cons]
  simp only [List.cons_append, List.append_assoc]

theorem intercalate_cons_cons_append (first second : List Symbol) (others : List (List Symbol))
    (rest : List Symbol) :
    separator.intercalate (first :: second :: others) ++ rest =
      first ++ (separator ++ (separator.intercalate (second :: others) ++ rest)) := by
  rw [List.intercalate_cons_cons, List.append_assoc, List.append_assoc]

/-- Pieces that are the tokens of trees are those of the trees between brackets. -/
theorem lexer_intercalate (separates : Closes lexer Stops separator sep)
    (closes : Closes lexer Stops close closeToken) {items : List Item} {trees : List Tree}
    (lexes : List.Forall₂
      (fun item tree => LexesTo lexer Stops (textOf item) (derivation tree)) items trees)
    (rest : List Symbol) :
    lexer (separator.intercalate (items.map textOf) ++ (close ++ rest)) =
      (lexer rest).map (enclosedTokens sep closeToken derivation trees ++ ·) := by
  induction lexes with
  | nil => exact closes.lexes rest
  | @cons item tree items trees first others inductionHypothesis =>
      cases others with
      | nil =>
          rw [List.map_singleton, List.intercalate_singleton, first _ (closes.stops rest),
            closes.lexes rest, Option.map_map]
          congr 1
          funext later
          simp [enclosedTokens, separatedTokens]
      | cons second more =>
          rw [List.map_cons] at inductionHypothesis ⊢
          rw [List.map_cons, intercalate_cons_cons_append, first _ (separates.stops _),
            separates.lexes, inductionHypothesis, enclosedTokens_cons_cons, Option.map_map,
            Option.map_map]
          congr 1
          funext later
          simp

/-- Pieces that are recovered from the tokens of trees are recovered between brackets. -/
theorem recovers_intercalate (separates : Closes lexer Stops separator sep)
    (closes : Closes lexer Stops close closeToken) {good : Item → Prop}
    {items : List Item} {trees : List Tree}
    (recovers : List.Forall₂
      (fun item tree => Recovers lexer Stops (textOf item) (derivation tree) (good item))
      items trees)
    {rest : List Symbol} {more : List Token}
    (lexed : lexer (separator.intercalate (items.map textOf) ++ (close ++ rest)) =
      some (enclosedTokens sep closeToken derivation trees ++ more)) :
    (∀ item ∈ items, good item) ∧ lexer rest = some more := by
  induction recovers with
  | nil =>
      rw [List.map_nil, List.intercalate_nil, List.nil_append, closes.lexes] at lexed
      exact ⟨fun _ member => (List.not_mem_nil member).elim, (of_map_cons lexed).2⟩
  | @cons item tree items trees first others inductionHypothesis =>
      cases others with
      | nil =>
          rw [List.map_singleton, List.intercalate_singleton, enclosedTokens,
            List.append_assoc] at lexed
          obtain ⟨isGood, lexedRest⟩ := first _ _ (closes.stops rest) lexed
          rw [closes.lexes] at lexedRest
          exact ⟨List.forall_mem_singleton.mpr isGood, (of_map_cons lexedRest).2⟩
      | cons second behind =>
          rw [List.map_cons] at inductionHypothesis
          rw [List.map_cons, List.map_cons, intercalate_cons_cons_append,
            enclosedTokens_cons_cons, List.append_assoc] at lexed
          obtain ⟨isGood, lexedRest⟩ := first _ _ (separates.stops _) lexed
          rw [separates.lexes] at lexedRest
          obtain ⟨areGood, lexedBehind⟩ := inductionHypothesis (of_map_cons lexedRest).2
          exact ⟨List.forall_mem_cons.mpr ⟨isGood, areGood⟩, lexedBehind⟩

end Joined

end LiteRTLM.Library
