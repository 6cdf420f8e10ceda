import Mathlib.Computability.Language

/-!
Contract: regular patterns over sets of symbols, and the longest front of a text that a
pattern matches.

Owns: the patterns, the language of a pattern, its derivative by a symbol, and the search
for the longest match.

Does not own: groups, captures and any preference between matches other than length.
-/

namespace LiteRTLM.Library

open Computability

universe u

inductive RegularPattern (Symbol : Type u) where
  | nothing
  | empty
  | symbol (accepts : Symbol → Bool)
  | either (first second : RegularPattern Symbol)
  | sequence (first second : RegularPattern Symbol)
  | many (body : RegularPattern Symbol)

namespace RegularPattern

variable {Symbol : Type u}

/-! ## Notation of the grammars -/

/-- A fixed text. -/
def literal [DecidableEq Symbol] (text : List Symbol) : RegularPattern Symbol :=
  text.foldr (fun letter rest => .sequence (.symbol fun other => decide (other = letter)) rest)
    .empty

/-- `( a | b | ... )`. -/
def oneOf (patterns : List (RegularPattern Symbol)) : RegularPattern Symbol :=
  patterns.foldr .either .nothing

/-- `a?`. -/
def optional (pattern : RegularPattern Symbol) : RegularPattern Symbol := .either pattern .empty

/-- `a+`. -/
def atLeastOne (pattern : RegularPattern Symbol) : RegularPattern Symbol :=
  .sequence pattern (.many pattern)

/-! ## Languages -/

/-- The texts a pattern matches as a whole. -/
def language : RegularPattern Symbol → Language Symbol
  | nothing => 0
  | empty => 1
  | symbol accepts => {text | ∃ letter, accepts letter = true ∧ text = [letter]}
  | either first second => first.language + second.language
  | sequence first second => first.language * second.language
  | many body => body.language∗

def matchesEmpty : RegularPattern Symbol → Bool
  | nothing => false
  | empty => true
  | symbol _ => false
  | either first second => first.matchesEmpty || second.matchesEmpty
  | sequence first second => first.matchesEmpty && second.matchesEmpty
  | many _ => true

theorem nil_mem_language (pattern : RegularPattern Symbol) :
    [] ∈ pattern.language ↔ pattern.matchesEmpty = true := by
  induction pattern with
  | nothing => simp [language, matchesEmpty]
  | empty => simp [language, matchesEmpty, Language.mem_one]
  | symbol accepts =>
      constructor
      · rintro ⟨letter, -, isNil⟩
        cases isNil
      · intro impossible
        cases impossible
  | either first second firstHypothesis secondHypothesis =>
      rw [language, Language.mem_add, firstHypothesis, secondHypothesis, matchesEmpty,
        Bool.or_eq_true]
  | sequence first second firstHypothesis secondHypothesis =>
      rw [matchesEmpty, Bool.and_eq_true, ← firstHypothesis, ← secondHypothesis, language,
        Language.mem_mul]
      constructor
      · rintro ⟨front, inFirst, rest, inSecond, isNil⟩
        obtain ⟨rfl, rfl⟩ := List.append_eq_nil_iff.mp isNil
        exact ⟨inFirst, inSecond⟩
      · intro ⟨inFirst, inSecond⟩
        exact ⟨[], inFirst, [], inSecond, rfl⟩
  | many body _ => simp [language, matchesEmpty, Language.nil_mem_kstar]

/-! ## Derivatives -/

/-- An alternative, without one that matches nothing. -/
def eitherOf : RegularPattern Symbol → RegularPattern Symbol → RegularPattern Symbol
  | nothing, second => second
  | first, nothing => first
  | first, second => either first second

/-- A sequence, without a part that decides it or adds nothing. -/
def sequenceOf : RegularPattern Symbol → RegularPattern Symbol → RegularPattern Symbol
  | nothing, _ => nothing
  | _, nothing => nothing
  | empty, second => second
  | first, second => sequence first second

theorem language_eitherOf (first second : RegularPattern Symbol) :
    (eitherOf first second).language = first.language + second.language := by
  unfold eitherOf
  split
  · exact (zero_add _).symm
  · exact (add_zero _).symm
  · rfl

theorem language_sequenceOf (first second : RegularPattern Symbol) :
    (sequenceOf first second).language = first.language * second.language := by
  unfold sequenceOf
  split
  · exact (zero_mul _).symm
  · exact (mul_zero _).symm
  · exact (one_mul _).symm
  · rfl

/-- What is left to match after a symbol. -/
def derivative (letter : Symbol) : RegularPattern Symbol → RegularPattern Symbol
  | nothing => nothing
  | empty => nothing
  | symbol accepts => if accepts letter then empty else nothing
  | either first second => eitherOf (first.derivative letter) (second.derivative letter)
  | sequence first second =>
      if first.matchesEmpty then
        eitherOf (sequenceOf (first.derivative letter) second) (second.derivative letter)
      else sequenceOf (first.derivative letter) second
  | many body => sequenceOf (body.derivative letter) (many body)

/-- A text beginning with a symbol matches when the rest matches the derivative. -/
theorem cons_mem_language (letter : Symbol) (text : List Symbol)
    (pattern : RegularPattern Symbol) :
    letter :: text ∈ pattern.language ↔ text ∈ (pattern.derivative letter).language := by
  induction pattern generalizing text with
  | nothing => simp [language, derivative]
  | empty => simp [language, derivative, Language.mem_one]
  | symbol accepts =>
      rw [derivative]
      constructor
      · rintro ⟨other, accepted, isText⟩
        cases isText
        rw [if_pos accepted]
        exact Language.nil_mem_one
      · intro member
        by_cases accepted : accepts letter = true
        · rw [if_pos accepted] at member
          exact ⟨letter, accepted, by rw [(Language.mem_one text).mp member]⟩
        · rw [if_neg accepted] at member
          exact absurd member (Language.notMem_zero text)
  | either first second firstHypothesis secondHypothesis =>
      rw [language, Language.mem_add, derivative, language_eitherOf, Language.mem_add,
        firstHypothesis, secondHypothesis]
  | sequence first second firstHypothesis secondHypothesis =>
      -- either the first part takes the symbol, or it is empty and the second part does
      have split : letter :: text ∈ (sequence first second).language ↔
          text ∈ (first.derivative letter).language * second.language ∨
            first.matchesEmpty = true ∧ text ∈ (second.derivative letter).language := by
        rw [language, Language.mem_mul, Language.mem_mul]
        constructor
        · rintro ⟨front, inFirst, rest, inSecond, isText⟩
          cases front with
          | nil =>
              rw [List.nil_append] at isText
              rw [isText, secondHypothesis] at inSecond
              exact .inr ⟨(nil_mem_language first).mp inFirst, inSecond⟩
          | cons other front =>
              rw [List.cons_append, List.cons.injEq] at isText
              rw [isText.1, firstHypothesis] at inFirst
              exact .inl ⟨front, inFirst, rest, inSecond, isText.2⟩
        · rintro (⟨front, inFirst, rest, inSecond, rfl⟩ | ⟨isEmpty, inSecond⟩)
          · exact ⟨letter :: front, (firstHypothesis front).mpr inFirst, rest, inSecond, rfl⟩
          · exact ⟨[], (nil_mem_language first).mpr isEmpty, letter :: text,
              (secondHypothesis text).mpr inSecond, rfl⟩
      rw [split, derivative]
      by_cases isEmpty : first.matchesEmpty = true
      · rw [if_pos isEmpty, language_eitherOf, Language.mem_add, language_sequenceOf]
        simp [isEmpty]
      · rw [if_neg isEmpty, language_sequenceOf]
        simp [isEmpty]
  | many body bodyHypothesis =>
      rw [derivative, language_sequenceOf, Language.mem_mul, language,
        Language.mem_kstar_iff_exists_nonempty]
      constructor
      · rintro ⟨parts, isText, inBody⟩
        cases parts with
        | nil => cases isText
        | cons part parts =>
            obtain ⟨inFirst, nonempty⟩ := inBody part List.mem_cons_self
            cases part with
            | nil => exact absurd rfl nonempty
            | cons other part =>
                rw [List.flatten_cons, List.cons_append, List.cons.injEq] at isText
                rw [← isText.1, bodyHypothesis] at inFirst
                refine ⟨part, inFirst, parts.flatten, ?_, isText.2.symm⟩
                exact Language.join_mem_kstar fun other member =>
                  (inBody other (List.mem_cons_of_mem _ member)).1
      · rintro ⟨front, inFront, rest, inRest, rfl⟩
        obtain ⟨parts, rfl, inBody⟩ := Language.mem_kstar_iff_exists_nonempty.mp inRest
        refine ⟨(letter :: front) :: parts, rfl, ?_⟩
        intro part member
        rcases List.mem_cons.mp member with rfl | inParts
        · exact ⟨(bodyHypothesis front).mpr inFront, List.cons_ne_nil _ _⟩
        · exact inBody part inParts

/-! ## Longest matches -/

/-- The length of the longest front of a text that a pattern matches. -/
def longestMatch : RegularPattern Symbol → List Symbol → Option Nat
  | nothing, _ => none
  | pattern, [] => if pattern.matchesEmpty then some 0 else none
  | pattern, letter :: rest =>
      match longestMatch (pattern.derivative letter) rest with
      | some length => some (length + 1)
      | none => if pattern.matchesEmpty then some 0 else none

theorem longestMatch_nil (pattern : RegularPattern Symbol) :
    pattern.longestMatch [] = if pattern.matchesEmpty then some 0 else none := by
  cases pattern <;> rfl

theorem longestMatch_cons (pattern : RegularPattern Symbol) (letter : Symbol)
    (rest : List Symbol) :
    pattern.longestMatch (letter :: rest) =
      match (pattern.derivative letter).longestMatch rest with
      | some length => some (length + 1)
      | none => if pattern.matchesEmpty then some 0 else none := by
  cases pattern with
  | nothing =>
      have none : longestMatch (nothing : RegularPattern Symbol) rest = none := by cases rest <;> rfl
      rw [derivative, none]
      rfl
  | empty => rfl
  | symbol accepts => rfl
  | either first second => rfl
  | sequence first second => rfl
  | many body => rfl

/-- A pattern matches this much of the front of a text. -/
def MatchesFront (pattern : RegularPattern Symbol) (text : List Symbol) (length : Nat) : Prop :=
  length ≤ text.length ∧ text.take length ∈ pattern.language

theorem matchesFront_zero (pattern : RegularPattern Symbol) (text : List Symbol) :
    pattern.MatchesFront text 0 ↔ pattern.matchesEmpty = true := by
  rw [MatchesFront, List.take_zero, nil_mem_language]
  exact and_iff_right (Nat.zero_le _)

theorem matchesFront_succ (pattern : RegularPattern Symbol) (letter : Symbol)
    (rest : List Symbol) (length : Nat) :
    pattern.MatchesFront (letter :: rest) (length + 1) ↔
      (pattern.derivative letter).MatchesFront rest length := by
  rw [MatchesFront, List.take_succ_cons, cons_mem_language, List.length_cons,
    Nat.add_le_add_iff_right]
  exact Iff.rfl

/-- Nothing is found exactly when no front matches. -/
theorem longestMatch_eq_none_iff (pattern : RegularPattern Symbol) (text : List Symbol) :
    pattern.longestMatch text = none ↔ ∀ length, ¬pattern.MatchesFront text length := by
  induction text generalizing pattern with
  | nil =>
      rw [longestMatch_nil]
      constructor
      · intro none length matches'
        obtain rfl : length = 0 := Nat.le_zero.mp matches'.1
        rw [matchesFront_zero] at matches'
        simp [matches'] at none
      · intro noMatch
        have notEmpty := noMatch 0
        rw [matchesFront_zero] at notEmpty
        simp [notEmpty]
  | cons letter rest inductionHypothesis =>
      rw [longestMatch_cons]
      constructor
      · intro none length matches'
        cases found : (pattern.derivative letter).longestMatch rest with
        | some longer =>
            rw [found] at none
            cases none
        | none =>
            rw [found] at none
            cases length with
            | zero =>
                rw [matchesFront_zero] at matches'
                simp [matches'] at none
            | succ length =>
                rw [matchesFront_succ] at matches'
                exact (inductionHypothesis _).mp found length matches'
      · intro noMatch
        have notEmpty := noMatch 0
        rw [matchesFront_zero] at notEmpty
        have notLater := (inductionHypothesis (pattern.derivative letter)).mpr fun length matches' =>
          noMatch (length + 1) ((matchesFront_succ pattern letter rest length).mpr matches')
        rw [notLater]
        simp [notEmpty]

/-- What is found is the longest front that matches. -/
theorem longestMatch_eq_some_iff (pattern : RegularPattern Symbol) (text : List Symbol)
    (length : Nat) :
    pattern.longestMatch text = some length ↔
      pattern.MatchesFront text length ∧
        ∀ longer, length < longer → ¬pattern.MatchesFront text longer := by
  induction text generalizing pattern length with
  | nil =>
      rw [longestMatch_nil]
      constructor
      · intro found
        by_cases isEmpty : pattern.matchesEmpty = true
        · rw [if_pos isEmpty, Option.some.injEq] at found
          rw [← found]
          refine ⟨(matchesFront_zero pattern []).mpr isEmpty, ?_⟩
          intro longer isLonger matches'
          have none := matches'.1
          rw [List.length_nil] at none
          omega
        · rw [if_neg isEmpty] at found
          cases found
      · intro ⟨matches', _⟩
        obtain rfl : length = 0 := Nat.le_zero.mp matches'.1
        rw [if_pos ((matchesFront_zero pattern []).mp matches')]
  | cons letter rest inductionHypothesis =>
      rw [longestMatch_cons]
      cases found : (pattern.derivative letter).longestMatch rest with
      | some rest' =>
          obtain ⟨matches', isLongest⟩ := (inductionHypothesis _ _).mp found
          have matchesHere := (matchesFront_succ pattern letter rest rest').mpr matches'
          dsimp only
          rw [Option.some.injEq]
          constructor
          · intro isLength
            rw [← isLength]
            refine ⟨matchesHere, ?_⟩
            intro longer isLonger matchesLonger
            obtain ⟨longer, rfl⟩ : ∃ before, longer = before + 1 := ⟨longer - 1, by omega⟩
            exact isLongest longer (by omega) ((matchesFront_succ pattern letter rest longer).mp
              matchesLonger)
          · intro ⟨matchesLength, noLonger⟩
            by_contra different
            by_cases isLonger : length < rest' + 1
            · exact noLonger (rest' + 1) isLonger matchesHere
            · obtain ⟨before, rfl⟩ : ∃ before, length = before + 1 := ⟨length - 1, by omega⟩
              exact isLongest before (by omega) ((matchesFront_succ pattern letter rest before).mp
                matchesLength)
      | none =>
          have noLater := (longestMatch_eq_none_iff (pattern.derivative letter) rest).mp found
          have notLonger : ∀ longer, 0 < longer → ¬pattern.MatchesFront (letter :: rest) longer := by
            intro longer isLonger matches'
            obtain ⟨before, rfl⟩ : ∃ before, longer = before + 1 := ⟨longer - 1, by omega⟩
            exact noLater before ((matchesFront_succ pattern letter rest before).mp matches')
          dsimp only
          constructor
          · intro isEmpty
            by_cases matchesEmpty : pattern.matchesEmpty = true
            · rw [if_pos matchesEmpty, Option.some.injEq] at isEmpty
              rw [← isEmpty]
              exact ⟨(matchesFront_zero pattern _).mpr matchesEmpty, notLonger⟩
            · rw [if_neg matchesEmpty] at isEmpty
              cases isEmpty
          · intro ⟨matches', _⟩
            obtain rfl : length = 0 := by
              by_contra positive
              exact notLonger length (Nat.pos_of_ne_zero positive) matches'
            rw [if_pos ((matchesFront_zero pattern _).mp matches')]

end RegularPattern

end LiteRTLM.Library
