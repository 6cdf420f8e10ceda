import Mathlib.Tactic.IntervalCases
import LiteRTLM.Library.QuotedText
import LiteRTLM.Library.TokenTexts
import LiteRTLM.Components.ToolUse.PythonLexer

/-!
Contract: what the lexer of Python calls makes of a text that begins with the text of a
token.

Owns: the step over each kind of token and over a space, which strings are one token between
double quotes, and that a text has the letters of its tokens.

Does not own: the values whose texts are read.
-/

namespace LiteRTLM.Components.ToolUse.PythonLexer

open LiteRTLM.Library
open LiteRTLM.Library.RegularPattern
open LiteRTLM.Library.MaximalMunch
open LiteRTLM.Util

/-- A name, a number or a constant ends in front of this text. -/
def Stops (rest : Text) : Prop :=
  ∀ letter ∈ rest.head?, nameLetter letter = false ∧ letter ≠ '.'

theorem rules_notEmpty : ∀ rule ∈ rules, rule.pattern.matchesEmpty = false := by
  decide

/-- Only the rules that may begin with the first letter matter. -/
theorem longestRule_rules (letter : Char) (rest : Text) :
    longestRule rules (letter :: rest) =
      longestRule (startingWith letter rules) (letter :: rest) :=
  longestRule_startingWith rules_notEmpty letter rest

/-! ## Punctuation and spaces -/

theorem lex_eq (rest : Text) : lex ('=' :: rest) = (lex rest).map (.eq :: ·) :=
  tokens_letter rules_notEmpty rfl rest

theorem lex_colon (rest : Text) : lex (':' :: rest) = (lex rest).map (.colon :: ·) :=
  tokens_letter rules_notEmpty rfl rest

theorem lex_sep (rest : Text) : lex (',' :: rest) = (lex rest).map (.sep :: ·) :=
  tokens_letter rules_notEmpty rfl rest

theorem lex_openPar (rest : Text) : lex ('(' :: rest) = (lex rest).map (.openPar :: ·) :=
  tokens_letter rules_notEmpty rfl rest

theorem lex_closePar (rest : Text) : lex (')' :: rest) = (lex rest).map (.closePar :: ·) :=
  tokens_letter rules_notEmpty rfl rest

theorem lex_openBrace (rest : Text) : lex ('{' :: rest) = (lex rest).map (.openBrace :: ·) :=
  tokens_letter rules_notEmpty rfl rest

theorem lex_closeBrace (rest : Text) : lex ('}' :: rest) = (lex rest).map (.closeBrace :: ·) :=
  tokens_letter rules_notEmpty rfl rest

theorem lex_listOpen (rest : Text) : lex ('[' :: rest) = (lex rest).map (.listOpen :: ·) :=
  tokens_letter rules_notEmpty rfl rest

theorem lex_listClose (rest : Text) : lex (']' :: rest) = (lex rest).map (.listClose :: ·) :=
  tokens_letter rules_notEmpty rfl rest

/-- The letters of white space. -/
def isSpace (letter : Char) : Bool := letter ∈ [' ', '\t', '\n', '\r']

/-- White space is skipped as far as it reaches. -/
theorem lex_spaces {letter : Char} (space : isSpace letter = true) (rest : Text) :
    lex (letter :: rest) = lex (rest.dropWhile isSpace) := by
  have only : startingWith letter rules = [⟨whitespace, fun _ => none⟩] := by
    have listed : letter ∈ [' ', '\t', '\n', '\r'] := of_decide_eq_true space
    simp only [List.mem_cons, List.not_mem_nil, or_false] at listed
    rcases listed with rfl | rfl | rfl | rfl <;> rfl
  have isText : letter :: rest =
      letter :: rest.takeWhile isSpace ++ rest.dropWhile isSpace := by
    rw [List.cons_append, List.takeWhile_append_dropWhile]
  have found : whitespace.longestMatch
      (letter :: rest.takeWhile isSpace ++ rest.dropWhile isSpace) =
        some (letter :: rest.takeWhile isSpace).length := by
    refine longestMatch_append ?_ _ ?_
    · refine mem_language_symbol_many.mpr ⟨letter, _, rfl, space, ?_⟩
      exact fun other taken => (List.all_eq_true.mp (List.all_takeWhile) other taken)
    · intro other more isFront member
      obtain ⟨first, others, isSpaces, -, all⟩ := mem_language_symbol_many.mp member
      rw [List.cons_append, List.cons.injEq] at isSpaces
      have otherSpace := all other (by rw [← isSpaces.2]; simp)
      obtain ⟨behind, isRest⟩ := isFront
      have notSpace := List.head?_dropWhile_not isSpace rest
      rw [← isRest, List.cons_append, List.head?_cons] at notSpace
      have isSpaceOther : isSpace other = true := otherSpace
      simp [isSpaceOther] at notSpace
  have applies : longestRule rules
      (letter :: rest.takeWhile isSpace ++ rest.dropWhile isSpace) =
        some ((letter :: rest.takeWhile isSpace).length, ⟨whitespace, fun _ => none⟩) := by
    rw [List.cons_append] at found ⊢
    rw [longestRule_rules, only, longestRule_singleton, found]
    rfl
  have split := tokens_append applies (List.cons_ne_nil _ _)
  rw [← isText] at split
  simpa [lex] using split

/-- A space in front changes nothing. -/
theorem lex_space (rest : Text) : lex (' ' :: rest) = lex rest := by
  rw [lex_spaces (by decide)]
  cases rest with
  | nil => rfl
  | cons letter behind =>
      by_cases space : isSpace letter = true
      · rw [lex_spaces space, List.dropWhile_cons_of_pos space]
      · rw [List.dropWhile_cons_of_neg space]

/-! ## Strings -/

/-- A letter of a string: one that is neither a quote nor a backslash, or a pair. -/
def stringLetter (quote : Char) : RegularPattern Char :=
  .either (charIn fun letter => letter ≠ quote ∧ letter ≠ '\\')
    (.sequence (literal ['\\']) (charIn fun _ => true))

theorem mem_stringLetter {quote : Char} {text : Text} :
    text ∈ (stringLetter quote).language ↔
      (∃ letter, letter ≠ quote ∧ letter ≠ '\\' ∧ text = [letter]) ∨
        ∃ letter, text = ['\\', letter] := by
  rw [stringLetter, language, Language.mem_add, language, Language.mem_mul, language_literal]
  constructor
  · rintro (⟨letter, accepted, rfl⟩ | ⟨front, isBackslash, rest, ⟨letter, -, rfl⟩, rfl⟩)
    · have plain := of_decide_eq_true accepted
      exact Or.inl ⟨letter, plain.1, plain.2, rfl⟩
    · have isFront : front = ['\\'] := isBackslash
      exact Or.inr ⟨letter, by rw [isFront]; rfl⟩
  · rintro (⟨letter, notQuote, notBackslash, rfl⟩ | ⟨letter, rfl⟩)
    · exact Or.inl ⟨letter, decide_eq_true ⟨notQuote, notBackslash⟩, rfl⟩
    · exact Or.inr ⟨['\\'], rfl, [letter], ⟨letter, rfl, rfl⟩, rfl⟩

theorem mem_many_stringLetter {quote : Char} {text : Text} :
    text ∈ (many (stringLetter quote)).language ↔ wellQuoted quote text = true := by
  constructor
  · intro member
    obtain ⟨parts, rfl, inBody⟩ := Language.mem_kstar.mp member
    clear member
    induction parts with
    | nil => rfl
    | cons part parts inductionHypothesis =>
        have others := inductionHypothesis
          fun other later => inBody other (List.mem_cons_of_mem _ later)
        rw [List.flatten_cons]
        rcases mem_stringLetter.mp (inBody part List.mem_cons_self) with
          ⟨letter, notQuote, notBackslash, rfl⟩ | ⟨letter, rfl⟩
        · rw [List.singleton_append, wellQuoted_plain notQuote notBackslash]
          exact others
        · exact others
  · intro well
    fun_induction wellQuoted quote text with
    | case1 => exact Language.nil_mem_kstar _
    | case2 => cases well
    | case3 letter rest inductionHypothesis =>
        obtain ⟨parts, isRest, inBody⟩ := Language.mem_kstar.mp (inductionHypothesis well)
        refine Language.mem_kstar.mpr ⟨['\\', letter] :: parts, by rw [isRest]; rfl, ?_⟩
        intro part member
        cases List.mem_cons.mp member with
        | inl same => exact mem_stringLetter.mpr (Or.inr ⟨letter, same⟩)
        | inr later => exact inBody part later
    | case4 letter rest notSingle notPair inductionHypothesis =>
        rw [Bool.and_eq_true] at well
        have notQuote := of_decide_eq_true well.1
        have notBackslash : letter ≠ '\\' := by
          rintro rfl
          cases rest with
          | nil => exact notSingle rfl rfl
          | cons other behind => exact notPair other behind rfl rfl
        obtain ⟨parts, isRest, inBody⟩ := Language.mem_kstar.mp (inductionHypothesis well.2)
        refine Language.mem_kstar.mpr ⟨[letter] :: parts, by rw [isRest]; rfl, ?_⟩
        intro part member
        cases List.mem_cons.mp member with
        | inl same => exact mem_stringLetter.mpr (Or.inl ⟨letter, notQuote, notBackslash, same⟩)
        | inr later => exact inBody part later

theorem mem_quoted {quote : Char} {text : Text} :
    text ∈ (quoted quote).language ↔
      ∃ content, wellQuoted quote content = true ∧ text = quote :: (content ++ [quote]) := by
  have unfolds : quoted quote = .sequence (literal [quote])
      (.sequence (.many (stringLetter quote)) (literal [quote])) := rfl
  rw [unfolds, language, Language.mem_mul, language, language_literal]
  constructor
  · rintro ⟨front, isFront, rest, inRest, rfl⟩
    obtain ⟨content, inMany, behind, isBehind, rfl⟩ := Language.mem_mul.mp inRest
    have isQuote : front = [quote] := isFront
    have isClosing : behind = [quote] := isBehind
    exact ⟨content, mem_many_stringLetter.mp inMany, by rw [isQuote, isClosing]; rfl⟩
  · rintro ⟨content, well, rfl⟩
    exact ⟨[quote], rfl, content ++ [quote],
      Language.append_mem_mul (mem_many_stringLetter.mpr well) rfl, rfl⟩

/-- A text that begins with a double quote is a string when it is one between these. -/
theorem mem_string_doubleQuote {rest : Text} :
    '"' :: rest ∈ string.language ↔
      ∃ content, wellQuoted '"' content = true ∧ rest = content ++ ['"'] := by
  rw [string, language, Language.mem_add, mem_quoted, mem_quoted]
  constructor
  · rintro (⟨content, well, isText⟩ | ⟨content, -, isText⟩)
    · exact ⟨content, well, (List.cons.inj isText).2⟩
    · exact absurd (List.cons.inj isText).1 (by decide)
  · rintro ⟨content, well, rfl⟩
    exact Or.inl ⟨content, well, rfl⟩

/-- The rule for strings is the only one for a double quote. -/
theorem longestRule_doubleQuote (rest : Text) :
    longestRule rules ('"' :: rest) = (string.longestMatch ('"' :: rest)).map fun length =>
      (length, ⟨string, fun text => some (.string text)⟩) := by
  have only : startingWith '"' rules = [⟨string, fun text => some (.string text)⟩] := rfl
  rw [longestRule_rules, only, longestRule_singleton]

/-- Well quoted text is one token. -/
theorem lex_string {content : Text} (well : wellQuoted '"' content = true) (rest : Text) :
    lex ('"' :: (content ++ '"' :: rest)) =
      (lex rest).map (.string ('"' :: (content ++ ['"'])) :: ·) := by
  have split : '"' :: (content ++ '"' :: rest) = '"' :: (content ++ ['"']) ++ rest := by simp
  have found : string.longestMatch ('"' :: (content ++ ['"']) ++ rest) =
      some ('"' :: (content ++ ['"'])).length := by
    refine longestMatch_append (mem_string_doubleQuote.mpr ⟨content, well, rfl⟩) rest ?_
    intro letter more _ member
    obtain ⟨longer, longerWell, isText⟩ := mem_string_doubleQuote.mp member
    have isLonger : content ++ '"' :: letter :: more = longer ++ '"' :: [] := by
      rw [← isText]
      simp
    exact List.cons_ne_nil _ _ (wellQuoted_closing (by decide) well longerWell isLonger).2
  have applies : longestRule rules ('"' :: (content ++ ['"']) ++ rest) =
      some (('"' :: (content ++ ['"'])).length, ⟨string, fun text => some (.string text)⟩) := by
    rw [List.cons_append] at found ⊢
    rw [longestRule_doubleQuote, found]
    rfl
  rw [split]
  exact tokens_append applies (List.cons_ne_nil _ _)

/-- The token in front of a text that begins with a double quote. -/
theorem lex_doubleQuote {rest : Text} {tokens : List Token}
    (lexed : lex ('"' :: rest) = some tokens) :
    ∃ content after later, wellQuoted '"' content = true ∧ rest = content ++ '"' :: after ∧
      tokens = .string ('"' :: (content ++ ['"'])) :: later ∧ lex after = some later := by
  cases found : string.longestMatch ('"' :: rest) with
  | none =>
      have noRule : longestRule rules ('"' :: rest) = none := by
        rw [longestRule_doubleQuote, found]
        rfl
      rw [lex, tokens_of_longestRule_none noRule (List.cons_ne_nil _ _)] at lexed
      cases lexed
  | some length =>
      obtain ⟨⟨within, member⟩, -⟩ := (longestMatch_eq_some_iff _ _ _).mp found
      cases length with
      | zero =>
          have empty := (nil_mem_language string).mp member
          cases empty
      | succ length =>
          rw [List.take_succ_cons] at member
          obtain ⟨content, well, isContent⟩ := mem_string_doubleQuote.mp member
          have isRest : rest = content ++ '"' :: rest.drop length := by
            calc rest = rest.take length ++ rest.drop length := (List.take_append_drop ..).symm
              _ = content ++ '"' :: rest.drop length := by rw [isContent]; simp
          rw [isRest, lex_string well] at lexed
          obtain ⟨later, lexedLater, rfl⟩ := Option.map_eq_some_iff.mp lexed
          exact ⟨content, rest.drop length, later, well, isRest, rfl, lexedLater⟩

/-! ## Numbers -/

/-- `[0-9]`. -/
def isDigit (letter : Char) : Bool := '0' ≤ letter ∧ letter ≤ '9'

theorem nameLetter_of_isDigit {letter : Char} (digit : isDigit letter = true) :
    nameLetter letter = true := by
  have bounds := of_decide_eq_true digit
  exact decide_eq_true (Or.inr bounds)

theorem mem_sign {text : Text} : text ∈ sign.language ↔ text = ['-'] ∨ text = [] := by
  have unfolds : sign = .either (literal ['-']) .empty := rfl
  rw [unfolds, language, Language.mem_add, language_literal]
  exact Iff.rfl

/-- A sign, if any, and digits. -/
theorem mem_int {text : Text} :
    text ∈ int.language ↔ ∃ digits, (text = digits ∨ text = '-' :: digits) ∧ digits ≠ [] ∧
      ∀ letter ∈ digits, isDigit letter = true := by
  rw [int, language, Language.mem_mul]
  constructor
  · rintro ⟨front, inSign, digits, inDigits, rfl⟩
    obtain ⟨first, others, rfl, isFirst, areOthers⟩ := mem_language_symbol_many.mp inDigits
    refine ⟨first :: others, ?_, List.cons_ne_nil _ _, ?_⟩
    · rcases mem_sign.mp inSign with rfl | rfl
      · exact Or.inr rfl
      · exact Or.inl rfl
    · exact List.forall_mem_cons.mpr ⟨isFirst, areOthers⟩
  · rintro ⟨digits, isText, nonempty, all⟩
    obtain ⟨first, others, rfl⟩ := List.exists_cons_of_ne_nil nonempty
    have inDigits : first :: others ∈ (atLeastOne digit).language :=
      mem_language_symbol_many.mpr ⟨first, others, rfl, List.forall_mem_cons.mp all⟩
    rcases isText with rfl | rfl
    · exact ⟨[], mem_sign.mpr (Or.inr rfl), _, inDigits, rfl⟩
    · exact ⟨['-'], mem_sign.mpr (Or.inl rfl), _, inDigits, rfl⟩

/-- A float has a point, and after its first letter only digits and points. -/
theorem float_letters {text : Text} (member : text ∈ float.language) :
    '.' ∈ text ∧ ∀ letter ∈ text.tail, isDigit letter = true ∨ letter = '.' := by
  have pointed : ∀ (front digits behind : Text), (front = ['-'] ∨ front = []) →
      (∀ letter ∈ digits, isDigit letter = true) → (∀ letter ∈ behind, isDigit letter = true) →
      '.' ∈ front ++ (digits ++ (['.'] ++ behind)) ∧
        ∀ letter ∈ (front ++ (digits ++ (['.'] ++ behind))).tail,
          isDigit letter = true ∨ letter = '.' := by
    intro front digits behind isSign areDigits areBehind
    refine ⟨by simp, ?_⟩
    have all : ∀ letter ∈ digits ++ (['.'] ++ behind), isDigit letter = true ∨ letter = '.' := by
      intro letter inText
      rcases List.mem_append.mp inText with inDigits | inRest
      · exact Or.inl (areDigits letter inDigits)
      · rcases List.mem_append.mp inRest with isPoint | inBehind
        · exact Or.inr (List.mem_singleton.mp isPoint)
        · exact Or.inl (areBehind letter inBehind)
    intro letter inTail
    rcases isSign with rfl | rfl
    · exact all letter inTail
    · exact all letter (List.mem_of_mem_tail inTail)
  rw [float, language, Language.mem_add] at member
  rcases member with member | member
  · obtain ⟨front, inSign, rest, inRest, rfl⟩ := Language.mem_mul.mp member
    obtain ⟨digits, inDigits, behindDigits, inBehind, rfl⟩ := Language.mem_mul.mp inRest
    obtain ⟨point, isPoint, behind, inMany, rfl⟩ := Language.mem_mul.mp inBehind
    rw [language_literal] at isPoint
    obtain ⟨first, others, rfl, isFirst, areOthers⟩ := mem_language_symbol_many.mp inDigits
    have samePoint : point = ['.'] := isPoint
    rw [samePoint]
    exact pointed front _ behind (mem_sign.mp inSign)
      (List.forall_mem_cons.mpr ⟨isFirst, areOthers⟩) (mem_language_many_symbol.mp inMany)
  · obtain ⟨front, inSign, rest, inRest, rfl⟩ := Language.mem_mul.mp member
    obtain ⟨digits, inDigits, behindDigits, inBehind, rfl⟩ := Language.mem_mul.mp inRest
    obtain ⟨point, isPoint, behind, inMany, rfl⟩ := Language.mem_mul.mp inBehind
    rw [language_literal] at isPoint
    obtain ⟨first, others, rfl, isFirst, areOthers⟩ := mem_language_symbol_many.mp inMany
    have samePoint : point = ['.'] := isPoint
    rw [samePoint]
    exact pointed front digits _ (mem_sign.mp inSign) (mem_language_many_symbol.mp inDigits)
      (List.forall_mem_cons.mpr ⟨isFirst, areOthers⟩)

/-- The rules for a text that begins with a digit or a sign. -/
theorem startingWith_number {letter : Char} (isStart : letter = '-' ∨ isDigit letter = true) :
    startingWith letter rules =
      [⟨int, fun text => some (.int text)⟩, ⟨float, fun text => some (.float text)⟩] := by
  have listed : letter ∈ ['-', '0', '1', '2', '3', '4', '5', '6', '7', '8', '9'] := by
    rcases isStart with rfl | digit
    · decide
    · obtain ⟨lower, upper⟩ := of_decide_eq_true digit
      have low : 48 ≤ letter.toNat := lower
      have high : letter.toNat ≤ 57 := upper
      have isChar : letter = Char.ofNat letter.toNat := (Char.ofNat_toNat letter).symm
      generalize letter.toNat = code at low high isChar
      subst isChar
      interval_cases code <;> decide
  simp only [List.mem_cons, List.not_mem_nil, or_false] at listed
  rcases listed with rfl | rfl | rfl | rfl | rfl | rfl | rfl | rfl | rfl | rfl | rfl <;> rfl

/-- An integer in front of a text that stops it is one token. -/
theorem lex_int {front : Text} (member : front ∈ int.language) {rest : Text}
    (stops : Stops rest) : lex (front ++ rest) = (lex rest).map (.int front :: ·) := by
  obtain ⟨digits, isFront, nonempty, areDigits⟩ := mem_int.mp member
  have lettersTail : ∀ {text : Text}, text ∈ int.language →
      ∀ letter ∈ text.tail, isDigit letter = true := by
    intro text inInt letter inTail
    obtain ⟨others, isText, -, areOthers⟩ := mem_int.mp inInt
    rcases isText with rfl | rfl
    · exact areOthers letter (List.mem_of_mem_tail inTail)
    · exact areOthers letter inTail
  have found : int.longestMatch (front ++ rest) = some front.length := by
    refine longestMatch_append member rest ?_
    intro letter more isFirst longer
    obtain ⟨behind, isRest⟩ := isFirst
    have stopped := (stops letter (by rw [← isRest]; rfl)).1
    have nonemptyFront : front ≠ [] := by
      rcases isFront with rfl | rfl
      · exact nonempty
      · exact List.cons_ne_nil _ _
    obtain ⟨first, others, isCons⟩ := List.exists_cons_of_ne_nil nonemptyFront
    have digit := lettersTail longer letter (by rw [isCons]; simp)
    rw [nameLetter_of_isDigit digit] at stopped
    cases stopped
  -- a float would have to reach a point behind the digits
  have noFloat : float.longestMatch (front ++ rest) = none := by
    rw [longestMatch_eq_none_iff]
    rintro length ⟨within, isFloat⟩
    obtain ⟨pointed, letters⟩ := float_letters isFloat
    rw [List.take_append] at pointed letters
    have noPoint : '.' ∉ front := by
      intro inFront
      rcases isFront with rfl | rfl
      · exact absurd (areDigits '.' inFront) (by decide)
      · cases List.mem_cons.mp inFront with
        | inl impossible => cases impossible
        | inr inDigits => exact absurd (areDigits '.' inDigits) (by decide)
    rcases List.mem_append.mp pointed with inFront | inRest
    · exact noPoint (List.mem_of_mem_take inFront)
    · cases rest with
      | nil => simp at inRest
      | cons letter behind =>
          have reaches : 0 < length - front.length := by
            by_contra short
            rw [Nat.le_zero.mp (Nat.not_lt.mp short), List.take_zero] at inRest
            cases inRest
          obtain ⟨more, isMore⟩ := Nat.exists_eq_succ_of_ne_zero (Nat.ne_of_gt reaches)
          have nonemptyFront : front ≠ [] := by
            rcases isFront with rfl | rfl
            · exact nonempty
            · exact List.cons_ne_nil _ _
          obtain ⟨first, others, isCons⟩ := List.exists_cons_of_ne_nil nonemptyFront
          have whole : front.take length = front := List.take_of_length_le (by omega)
          rw [whole, isMore, List.take_succ_cons, isCons] at letters
          have stopped := stops letter rfl
          rcases letters letter (by simp) with digit | isPoint
          · rw [nameLetter_of_isDigit digit] at stopped
            cases stopped.1
          · exact stopped.2 isPoint
  have isStart : ∃ first others, front = first :: others ∧
      (first = '-' ∨ isDigit first = true) := by
    rcases isFront with rfl | rfl
    · obtain ⟨first, others, rfl⟩ := List.exists_cons_of_ne_nil nonempty
      exact ⟨first, others, rfl, Or.inr (areDigits first List.mem_cons_self)⟩
    · exact ⟨'-', digits, rfl, Or.inl rfl⟩
  obtain ⟨first, others, rfl, start⟩ := isStart
  have applies : longestRule rules (first :: others ++ rest) =
      some ((first :: others).length, ⟨int, fun text => some (.int text)⟩) := by
    rw [List.cons_append] at found noFloat ⊢
    rw [longestRule_rules, startingWith_number start]
    exact longestRule_pair found (by rw [noFloat]; exact nofun)
  exact tokens_append applies (List.cons_ne_nil _ _)

/-! ## Names and constants -/

/-- The token of a word: a constant, or a name. -/
def wordToken (word : Text) : Token :=
  if word = ['T', 'r', 'u', 'e'] ∨ word = ['F', 'a', 'l', 's', 'e'] then .bool word
  else if word = ['N', 'o', 'n', 'e'] then .none
  else .name word

def IsName (word : Text) : Prop :=
  ∃ first others, word = first :: others ∧ nameStart first = true ∧
    ∀ letter ∈ others, nameLetter letter = true

theorem mem_name {word : Text} : word ∈ name.language ↔ IsName word := mem_language_symbol_many

theorem mem_bool {word : Text} :
    word ∈ bool.language ↔ word = ['T', 'r', 'u', 'e'] ∨ word = ['F', 'a', 'l', 's', 'e'] := by
  rw [bool, language, Language.mem_add, language_literal, language_literal]
  exact Iff.rfl

/-- Letters of a name that are taken end with the word. -/
theorem taken_within {word rest : Text} (stops : Stops rest) {length : Nat}
    (letters : ∀ letter ∈ (word ++ rest).take length, nameLetter letter = true)
    (within : length ≤ (word ++ rest).length) : length ≤ word.length := by
  by_contra longer
  rw [Nat.not_le] at longer
  cases rest with
  | nil =>
      rw [List.append_nil] at within
      omega
  | cons letter behind =>
      obtain ⟨more, isMore⟩ : ∃ more, length - word.length = more + 1 :=
        ⟨length - word.length - 1, by omega⟩
      rw [List.take_append, isMore, List.take_succ_cons] at letters
      have isLetter := letters letter (by simp)
      rw [(stops letter rfl).1] at isLetter
      cases isLetter

/-- A rule that matches only words takes all of a word that it matches. -/
theorem word_longestMatch {pattern : RegularPattern Char} {word rest : Text}
    (stops : Stops rest)
    (letters : ∀ text ∈ pattern.language, ∀ letter ∈ text, nameLetter letter = true)
    (member : word ∈ pattern.language) :
    pattern.longestMatch (word ++ rest) = some word.length := by
  refine longestMatch_append member rest ?_
  intro letter more isFront longer
  obtain ⟨behind, isRest⟩ := isFront
  have isLetter := letters _ longer letter (by simp)
  rw [(stops letter (by rw [← isRest]; rfl)).1] at isLetter
  cases isLetter

/-- A rule that matches only words takes less than the word it is not. -/
theorem constant_shorter {pattern : RegularPattern Char} {word rest : Text}
    (stops : Stops rest)
    (letters : ∀ text ∈ pattern.language, ∀ letter ∈ text, nameLetter letter = true)
    (other : word ∉ pattern.language) :
    ∀ length ∈ pattern.longestMatch (word ++ rest), length < word.length := by
  intro length found
  obtain ⟨⟨within, taken⟩, -⟩ := (longestMatch_eq_some_iff _ _ _).mp found
  have short := taken_within stops (letters _ taken) within
  refine Nat.lt_of_le_of_ne short ?_
  rintro rfl
  rw [List.take_left] at taken
  exact other taken

theorem nameLetter_of_nameStart {letter : Char} (isStart : nameStart letter = true) :
    nameLetter letter = true :=
  decide_eq_true (Or.inl isStart)

theorem name_letters {text : Text} (isName : text ∈ name.language) :
    ∀ letter ∈ text, nameLetter letter = true := by
  obtain ⟨first, others, rfl, isStart, areLetters⟩ := mem_name.mp isName
  exact List.forall_mem_cons.mpr ⟨nameLetter_of_nameStart isStart, areLetters⟩

/-- The rules for a text that begins like a name. -/
theorem startingWith_word {letter : Char} (isStart : nameStart letter = true) :
    startingWith letter rules =
      if letter = 'T' ∨ letter = 'F' then
        [⟨bool, fun text => some (.bool text)⟩, ⟨name, fun text => some (.name text)⟩]
      else if letter = 'N' then
        [⟨literal ['N', 'o', 'n', 'e'], fun _ => some .none⟩,
          ⟨name, fun text => some (.name text)⟩]
      else
        [⟨name, fun text => some (.name text)⟩] := by
  have isChar : letter = Char.ofNat letter.toNat := (Char.ofNat_toNat letter).symm
  rcases of_decide_eq_true isStart with lowerCase | upperCase | underscore
  · have low : 97 ≤ letter.toNat := lowerCase.1
    have high : letter.toNat ≤ 122 := lowerCase.2
    generalize letter.toNat = code at low high isChar
    subst isChar
    interval_cases code <;> rfl
  · have low : 65 ≤ letter.toNat := upperCase.1
    have high : letter.toNat ≤ 90 := upperCase.2
    generalize letter.toNat = code at low high isChar
    subst isChar
    interval_cases code <;> rfl
  · subst underscore
    rfl

/-- A name or a constant in front of a text that stops it is one token. -/
theorem lex_word {word : Text} (isName : IsName word) {rest : Text} (stops : Stops rest) :
    lex (word ++ rest) = (lex rest).map (wordToken word :: ·) := by
  have found := word_longestMatch stops (fun _ => name_letters) (mem_name.mpr isName)
  have boolLetters : ∀ text ∈ bool.language, ∀ letter ∈ text, nameLetter letter = true := by
    intro text isBool
    rcases mem_bool.mp isBool with rfl | rfl
    · exact List.all_eq_true.mp rfl
    · exact List.all_eq_true.mp rfl
  have noneLetters : ∀ text ∈ (literal ['N', 'o', 'n', 'e']).language,
      ∀ letter ∈ text, nameLetter letter = true := by
    intro text isNone
    rw [language_literal] at isNone
    have same : text = ['N', 'o', 'n', 'e'] := isNone
    rw [same]
    exact List.all_eq_true.mp rfl
  obtain ⟨first, others, rfl, isStart, areLetters⟩ := isName
  have rulesHere := startingWith_word isStart
  have applies : ∃ rule, longestRule rules (first :: others ++ rest) =
      some ((first :: others).length, rule) ∧
        rule.emit (first :: others) = some (wordToken (first :: others)) := by
    rw [List.cons_append] at found ⊢
    rw [longestRule_rules, rulesHere]
    by_cases isBool : first :: others ∈ bool.language
    · have isConstant := mem_bool.mp isBool
      refine ⟨⟨bool, fun text => some (.bool text)⟩, ?_, by rw [wordToken, if_pos isConstant]⟩
      have starts : first = 'T' ∨ first = 'F' :=
        isConstant.imp (fun same => (List.cons.inj same).1) fun same => (List.cons.inj same).1
      rw [if_pos starts]
      refine longestRule_pair (word_longestMatch stops boolLetters isBool) ?_
      intro longer isLonger
      rw [found] at isLonger
      exact Nat.le_of_eq (Option.some.inj isLonger).symm
    have notBool : ¬(first :: others = ['T', 'r', 'u', 'e'] ∨
        first :: others = ['F', 'a', 'l', 's', 'e']) := fun same => isBool (mem_bool.mpr same)
    by_cases isNone : first :: others = ['N', 'o', 'n', 'e']
    · refine ⟨⟨literal ['N', 'o', 'n', 'e'], fun _ => some .none⟩, ?_,
        by rw [wordToken, if_neg notBool, if_pos isNone]⟩
      have isFirst := (List.cons.inj isNone).1
      rw [if_neg (by rw [isFirst]; decide), if_pos isFirst]
      have isLiteral : first :: others ∈ (literal ['N', 'o', 'n', 'e']).language := by
        rw [language_literal]
        exact isNone
      refine longestRule_pair (word_longestMatch stops noneLetters isLiteral) ?_
      intro longer isLonger
      rw [found] at isLonger
      exact Nat.le_of_eq (Option.some.inj isLonger).symm
    · refine ⟨⟨name, fun text => some (.name text)⟩, ?_,
        by rw [wordToken, if_neg notBool, if_neg isNone]⟩
      have notLiteral : first :: others ∉ (literal ['N', 'o', 'n', 'e']).language := by
        rw [language_literal]
        exact isNone
      split_ifs
      · exact longestRule_pair_second found (constant_shorter stops boolLetters isBool)
      · exact longestRule_pair_second found (constant_shorter stops noneLetters notLiteral)
      · rw [longestRule_singleton, found]
        rfl
  obtain ⟨rule, longest, emits⟩ := applies
  have split := tokens_append longest (List.cons_ne_nil _ _)
  rw [emits] at split
  exact split

/-! ## The letters of the tokens -/

/-- Each rule keeps the letters it takes, and white space has no `f`. -/
theorem count_lex {text : Text} {made : List Token} (lexed : lex text = some made) :
    text.count 'f' = (made.flatMap Token.text).count 'f' := by
  refine count_tokens ?_ lexed
  intro rule member front isMatch
  simp only [rules, List.mem_cons, List.not_mem_nil, or_false] at member
  rcases member with rfl | rfl | rfl | rfl | rfl | rfl | rfl | rfl | rfl | rfl | rfl | rfl | rfl |
    rfl | rfl | rfl
  all_goals try (rw [language_literal] at isMatch; cases (show front = _ from isMatch); rfl)
  all_goals try (simp [Token.text]; done)
  obtain ⟨first, others, rfl, isFirst, areOthers⟩ := mem_language_symbol_many.mp isMatch
  rw [List.count_eq_zero.mpr]
  · rfl
  · intro inText
    have space : isSpace 'f' = true := by
      cases List.mem_cons.mp inText with
      | inl same => exact same ▸ isFirst
      | inr later => exact areOthers 'f' later
    cases space

end LiteRTLM.Components.ToolUse.PythonLexer
