import LiteRTLM.Library.MaximalMunch

/-!
Contract: how a lexer reads a text piece by piece.

Owns: which symbols a match may begin with, the rules that are left in front of a text with
a known first symbol, the step from a piece to what follows it, and that a text is made of
the texts of its tokens and of what is skipped.

Does not own: any particular rules.
-/

namespace LiteRTLM.Library

universe u v

namespace RegularPattern

variable {Symbol : Type u}

/-! ## The language of a literal -/

@[simp] theorem language_literal [DecidableEq Symbol] (text : List Symbol) :
    (literal text).language = {text} := by
  induction text with
  | nil => rfl
  | cons letter rest inductionHypothesis =>
      have unfolds : literal (letter :: rest) =
          .sequence (.symbol fun other => decide (other = letter)) (literal rest) := rfl
      ext other
      rw [unfolds, language, inductionHypothesis, Language.mem_mul]
      constructor
      · rintro ⟨front, ⟨first, accepted, rfl⟩, behind, isRest, rfl⟩
        have isLetter := of_decide_eq_true accepted
        have isBehind : behind = rest := isRest
        rw [isLetter, isBehind]
        rfl
      · intro same
        have isText : other = letter :: rest := same
        subst isText
        exact ⟨[letter], ⟨letter, decide_eq_true rfl, rfl⟩, rest, rfl, rfl⟩

/-! ## The symbols of a language -/

/-- Every symbol that the pattern accepts is allowed. -/
def Within (allowed : Symbol → Prop) : RegularPattern Symbol → Prop
  | nothing => True
  | empty => True
  | symbol accepts => ∀ letter, accepts letter = true → allowed letter
  | either first second => first.Within allowed ∧ second.Within allowed
  | sequence first second => first.Within allowed ∧ second.Within allowed
  | many body => body.Within allowed

/-! ## The language of repeated symbols -/

theorem mem_language_many_symbol {accepts : Symbol → Bool} {text : List Symbol} :
    text ∈ (many (symbol accepts)).language ↔ ∀ letter ∈ text, accepts letter = true := by
  constructor
  · intro member
    obtain ⟨parts, rfl, inBody⟩ := Language.mem_kstar.mp member
    intro letter inText
    obtain ⟨part, inParts, inPart⟩ := List.mem_flatten.mp inText
    obtain ⟨only, accepted, rfl⟩ := inBody part inParts
    exact List.mem_singleton.mp inPart ▸ accepted
  · intro accepted
    have isText : (text.map fun letter => [letter]).flatten = text := by
      induction text with
      | nil => rfl
      | cons letter rest inductionHypothesis =>
          rw [List.map_cons, List.flatten_cons,
            inductionHypothesis fun other later => accepted other (List.mem_cons_of_mem _ later)]
          rfl
    rw [← isText]
    apply Language.join_mem_kstar
    intro part inParts
    obtain ⟨letter, inText, rfl⟩ := List.mem_map.mp inParts
    exact ⟨letter, accepted letter inText, rfl⟩

theorem mem_language_symbol_many {first others : Symbol → Bool} {text : List Symbol} :
    text ∈ (sequence (symbol first) (many (symbol others))).language ↔
      ∃ letter rest, text = letter :: rest ∧ first letter = true ∧
        ∀ other ∈ rest, others other = true := by
  rw [language, Language.mem_mul]
  constructor
  · rintro ⟨front, ⟨letter, accepted, rfl⟩, rest, inMany, rfl⟩
    exact ⟨letter, rest, rfl, accepted, mem_language_many_symbol.mp inMany⟩
  · rintro ⟨letter, rest, rfl, accepted, all⟩
    exact ⟨[letter], ⟨letter, accepted, rfl⟩, rest, mem_language_many_symbol.mpr all, rfl⟩

/-! ## First symbols -/

/-- A match that is not empty may begin with this symbol. -/
def startsWith (letter : Symbol) : RegularPattern Symbol → Bool
  | nothing => false
  | empty => false
  | symbol accepts => accepts letter
  | either first second => first.startsWith letter || second.startsWith letter
  | sequence first second =>
      first.startsWith letter || (first.matchesEmpty && second.startsWith letter)
  | many body => body.startsWith letter

theorem startsWith_of_mem {letter : Symbol} {text : List Symbol}
    {pattern : RegularPattern Symbol} (member : letter :: text ∈ pattern.language) :
    pattern.startsWith letter = true := by
  induction pattern generalizing text with
  | nothing => exact absurd member (Language.notMem_zero _)
  | empty => cases (Language.mem_one _).mp member
  | symbol accepts =>
      obtain ⟨other, accepted, isText⟩ := member
      cases isText
      exact accepted
  | either first second firstHypothesis secondHypothesis =>
      rw [startsWith, Bool.or_eq_true]
      exact ((Language.mem_add _ _ _).mp member).imp firstHypothesis secondHypothesis
  | sequence first second firstHypothesis secondHypothesis =>
      obtain ⟨front, inFirst, rest, inSecond, isText⟩ := Language.mem_mul.mp member
      rw [startsWith, Bool.or_eq_true, Bool.and_eq_true]
      cases front with
      | nil =>
          have isRest : rest = letter :: text := isText
          rw [isRest] at inSecond
          exact Or.inr ⟨(nil_mem_language first).mp inFirst, secondHypothesis inSecond⟩
      | cons other front =>
          have same : other = letter := (List.cons.inj isText).1
          rw [same] at inFirst
          exact Or.inl (firstHypothesis inFirst)
  | many body bodyHypothesis =>
      obtain ⟨parts, isText, inBody⟩ := Language.mem_kstar_iff_exists_nonempty.mp member
      cases parts with
      | nil => cases isText
      | cons part parts =>
          obtain ⟨inFirst, nonempty⟩ := inBody part List.mem_cons_self
          cases part with
          | nil => exact absurd rfl nonempty
          | cons other part =>
              have same : letter = other := (List.cons.inj isText).1
              exact bodyHypothesis (same ▸ inFirst)

/-- A pattern that neither begins with the first symbol nor is empty does not match. -/
theorem longestMatch_of_not_startsWith {letter : Symbol} {pattern : RegularPattern Symbol}
    (otherStart : pattern.startsWith letter = false) (notEmpty : pattern.matchesEmpty = false)
    (rest : List Symbol) : pattern.longestMatch (letter :: rest) = none := by
  rw [longestMatch_eq_none_iff]
  rintro (_ | length) found
  · rw [matchesFront_zero, notEmpty] at found
    cases found
  · have starts := startsWith_of_mem found.2
    rw [otherStart] at starts
    cases starts

/-- The longest match of a pattern is a front that no longer match has as a front. -/
theorem longestMatch_append {pattern : RegularPattern Symbol} {front : List Symbol}
    (member : front ∈ pattern.language) (rest : List Symbol)
    (noLonger : ∀ letter more, letter :: more <+: rest →
      front ++ letter :: more ∉ pattern.language) :
    pattern.longestMatch (front ++ rest) = some front.length := by
  rw [longestMatch_eq_some_iff]
  refine ⟨⟨by simp, by simpa using member⟩, ?_⟩
  intro longer isLonger found
  have within := found.1
  rw [List.length_append] at within
  have split : (front ++ rest).take longer = front ++ rest.take (longer - front.length) := by
    rw [List.take_append, List.take_of_length_le (Nat.le_of_lt isLonger)]
  cases more : rest.take (longer - front.length) with
  | nil =>
      have short := congrArg List.length more
      rw [List.length_take, List.length_nil] at short
      omega
  | cons letter others =>
      apply noLonger letter others
      · rw [← more]
        exact List.take_prefix _ _
      · rw [← more, ← split]
        exact found.2

end RegularPattern

namespace MaximalMunch

variable {Symbol : Type u} {Token : Type v}
variable {rules : List (LexerRule Symbol Token)}

/-! ## The rule in front of a text -/

/-- The rules that may begin with this symbol. -/
def startingWith (letter : Symbol) (rules : List (LexerRule Symbol Token)) :
    List (LexerRule Symbol Token) :=
  rules.filter fun rule => rule.pattern.startsWith letter

/-- Only the rules that may begin with the first symbol matter. -/
theorem longestRule_startingWith (notEmpty : ∀ rule ∈ rules, rule.pattern.matchesEmpty = false)
    (letter : Symbol) (rest : List Symbol) :
    longestRule rules (letter :: rest) =
      longestRule (startingWith letter rules) (letter :: rest) := by
  induction rules with
  | nil => rfl
  | cons rule others inductionHypothesis =>
      have later := inductionHypothesis fun other member =>
        notEmpty other (List.mem_cons_of_mem _ member)
      cases starts : rule.pattern.startsWith letter with
      | true =>
          have kept : startingWith letter (rule :: others) =
              rule :: startingWith letter others := by
            rw [startingWith, List.filter_cons, if_pos starts]
            rfl
          rw [kept, longestRule, longestRule, later]
      | false =>
          have dropped : startingWith letter (rule :: others) = startingWith letter others := by
            rw [startingWith, List.filter_cons, if_neg (by simp [starts])]
            rfl
          rw [dropped, longestRule, RegularPattern.longestMatch_of_not_startsWith starts
            (notEmpty rule List.mem_cons_self), ← later]

/-- The only rule left applies as far as it matches. -/
theorem longestRule_singleton (rule : LexerRule Symbol Token) (text : List Symbol) :
    longestRule [rule] text =
      (rule.pattern.longestMatch text).map fun length => (length, rule) := by
  rw [longestRule, longestRule]
  cases rule.pattern.longestMatch text <;> rfl

/-- The first of two rules applies, unless the second matches more. -/
theorem longestRule_pair {first second : LexerRule Symbol Token} {text : List Symbol}
    {length : Nat} (found : first.pattern.longestMatch text = some length)
    (noLonger : ∀ longer ∈ second.pattern.longestMatch text, longer ≤ length) :
    longestRule [first, second] text = some (length, first) := by
  rw [longestRule, longestRule_singleton, found]
  cases other : second.pattern.longestMatch text with
  | none => rfl
  | some longer =>
      have short := noLonger longer other
      dsimp only [Option.map_some]
      rw [if_neg (by omega)]

/-- The second of two rules applies if it matches more. -/
theorem longestRule_pair_second {first second : LexerRule Symbol Token} {text : List Symbol}
    {length : Nat} (found : second.pattern.longestMatch text = some length)
    (shorter : ∀ short ∈ first.pattern.longestMatch text, short < length) :
    longestRule [first, second] text = some (length, second) := by
  rw [longestRule, longestRule_singleton, found]
  cases other : first.pattern.longestMatch text with
  | none => rfl
  | some short =>
      dsimp only [Option.map_some]
      rw [if_pos (shorter short other)]

/-! ## From a piece to what follows it -/

/-- Any fuel of at least one step for each symbol gives the same tokens. -/
theorem tokensFrom_congr (rules : List (LexerRule Symbol Token)) {fuel other : Nat}
    {text : List Symbol} (enough : text.length ≤ fuel) (alsoEnough : text.length ≤ other) :
    tokensFrom rules fuel text = tokensFrom rules other text := by
  induction fuel generalizing other text with
  | zero =>
      obtain rfl := List.length_eq_zero_iff.mp (Nat.le_zero.mp enough)
      cases other <;> rfl
  | succ fuel inductionHypothesis =>
      cases text with
      | nil => cases other <;> rfl
      | cons letter rest =>
          cases other with
          | zero => cases alsoEnough
          | succ other =>
              have below : rest.length ≤ fuel := Nat.le_of_succ_le_succ enough
              have alsoBelow : rest.length ≤ other := Nat.le_of_succ_le_succ alsoEnough
              rw [tokensFrom, tokensFrom]
              split
              next length rule found =>
                have within : (rest.drop length).length ≤ rest.length := by simp
                rw [inductionHypothesis (within.trans below) (within.trans alsoBelow)]
              · rfl

/-- The rule in front makes the first token, and the others are those of what follows. -/
theorem tokens_of_longestRule {text : List Symbol} {length : Nat}
    {rule : LexerRule Symbol Token}
    (found : longestRule rules text = some (length + 1, rule)) (nonempty : text ≠ []) :
    tokens rules text = (tokens rules (text.drop (length + 1))).map fun later =>
      (rule.emit (text.take (length + 1))).toList ++ later := by
  cases text with
  | nil => exact absurd rfl nonempty
  | cons letter rest =>
      have within : (rest.drop length).length ≤ rest.length := by simp
      rw [tokens, List.length_cons, tokensFrom, found]
      dsimp only
      rw [tokensFrom_congr rules within (Nat.le_refl _)]
      rfl

/-- A piece that a rule takes is the first token, or it is skipped. -/
theorem tokens_append {front rest : List Symbol} {rule : LexerRule Symbol Token}
    (found : longestRule rules (front ++ rest) = some (front.length, rule))
    (nonempty : front ≠ []) :
    tokens rules (front ++ rest) = (tokens rules rest).map fun later =>
      (rule.emit front).toList ++ later := by
  obtain ⟨letter, others, rfl⟩ := List.exists_cons_of_ne_nil nonempty
  rw [List.length_cons] at found
  rw [tokens_of_longestRule found (by simp), ← List.length_cons, List.drop_left, List.take_left]

/-- Where no rule applies there are no tokens. -/
theorem tokens_of_longestRule_none {text : List Symbol}
    (noRule : longestRule rules text = none) (nonempty : text ≠ []) :
    tokens rules text = none := by
  cases text with
  | nil => exact absurd rfl nonempty
  | cons letter rest => rw [tokens, List.length_cons, tokensFrom, noRule]

/-- The only rule that may begin with a letter takes its match, if no longer text matches. -/
theorem tokens_only (notEmpty : ∀ rule ∈ rules, rule.pattern.matchesEmpty = false)
    {letter : Symbol} {others rest : List Symbol} {rule : LexerRule Symbol Token}
    (only : startingWith letter rules = [rule])
    (member : letter :: others ∈ rule.pattern.language)
    (noLonger : ∀ other more, other :: more <+: rest →
      letter :: others ++ other :: more ∉ rule.pattern.language) :
    tokens rules (letter :: others ++ rest) = (tokens rules rest).map fun later =>
      (rule.emit (letter :: others)).toList ++ later := by
  have found := RegularPattern.longestMatch_append member rest noLonger
  refine tokens_append ?_ (List.cons_ne_nil _ _)
  rw [List.cons_append] at found ⊢
  rw [longestRule_startingWith notEmpty, only, longestRule_singleton, found]
  rfl

/-- The only rule that may begin with a letter takes a fixed text. -/
theorem tokens_fixed [DecidableEq Symbol]
    (notEmpty : ∀ rule ∈ rules, rule.pattern.matchesEmpty = false) {letter : Symbol}
    {others : List Symbol} {token : Token}
    (only : startingWith letter rules =
      [⟨RegularPattern.literal (letter :: others), fun _ => some token⟩])
    (rest : List Symbol) :
    tokens rules (letter :: others ++ rest) = (tokens rules rest).map (token :: ·) := by
  refine tokens_only notEmpty only (by rw [RegularPattern.language_literal]; rfl) ?_
  intro other more _ longer
  rw [RegularPattern.language_literal] at longer
  have same : letter :: others ++ other :: more = letter :: others := longer
  have lengths := congrArg List.length same
  simp at lengths

/-- One letter that is a token of its own. -/
theorem tokens_letter [DecidableEq Symbol]
    (notEmpty : ∀ rule ∈ rules, rule.pattern.matchesEmpty = false) {letter : Symbol}
    {token : Token}
    (only : startingWith letter rules =
      [⟨RegularPattern.literal [letter], fun _ => some token⟩])
    (rest : List Symbol) : tokens rules (letter :: rest) = (tokens rules rest).map (token :: ·) :=
  tokens_fixed notEmpty only rest

/-! ## The text of the tokens -/

/-- The rule that applies matches what it takes. -/
theorem mem_of_longestRule {text : List Symbol} {length : Nat} {rule : LexerRule Symbol Token}
    (found : longestRule rules text = some (length, rule)) :
    rule ∈ rules ∧ text.take length ∈ rule.pattern.language := by
  induction rules generalizing length rule with
  | nil => cases found
  | cons first others inductionHypothesis =>
      rw [longestRule] at found
      cases here : first.pattern.longestMatch text with
      | none =>
          rw [here] at found
          obtain ⟨member, isMatch⟩ := inductionHypothesis found
          exact ⟨List.mem_cons_of_mem _ member, isMatch⟩
      | some taken =>
          have isMatch := ((RegularPattern.longestMatch_eq_some_iff _ _ _).mp here).1.2
          rw [here] at found
          cases later : longestRule others text with
          | none =>
              rw [later] at found
              cases found
              exact ⟨List.mem_cons_self, isMatch⟩
          | some longer =>
              rw [later] at found
              dsimp only at found
              split at found
              · cases found
                obtain ⟨member, laterMatch⟩ := inductionHypothesis later
                exact ⟨List.mem_cons_of_mem _ member, laterMatch⟩
              · cases found
                exact ⟨List.mem_cons_self, isMatch⟩

/-- Tokens whose rules keep what they take, in their text, have as much of a symbol as the text
they were made of, if what is skipped has none of it. -/
theorem count_tokens [DecidableEq Symbol] {textOf : Token → List Symbol} {symbol : Symbol}
    (keeps : ∀ rule ∈ rules, ∀ front ∈ rule.pattern.language,
      front.count symbol = ((rule.emit front).toList.flatMap textOf).count symbol)
    {text : List Symbol} {made : List Token} (lexed : tokens rules text = some made) :
    text.count symbol = (made.flatMap textOf).count symbol := by
  generalize isSize : text.length = size
  induction size using Nat.strong_induction_on generalizing text made with
  | _ size inductionHypothesis =>
      cases text with
      | nil =>
          cases lexed
          rfl
      | cons letter rest =>
          cases found : longestRule rules (letter :: rest) with
          | none =>
              rw [tokens_of_longestRule_none found (List.cons_ne_nil _ _)] at lexed
              cases lexed
          | some taken =>
              obtain ⟨length, rule⟩ := taken
              cases length with
              | zero =>
                  rw [tokens, List.length_cons, tokensFrom, found] at lexed
                  cases lexed
              | succ length =>
                  rw [tokens_of_longestRule found (List.cons_ne_nil _ _),
                    Option.map_eq_some_iff] at lexed
                  obtain ⟨later, lexedLater, rfl⟩ := lexed
                  obtain ⟨member, isMatch⟩ := mem_of_longestRule found
                  have shorter : ((letter :: rest).drop (length + 1)).length < size := by
                    rw [← isSize, List.length_drop, List.length_cons]
                    omega
                  have counted := inductionHypothesis _ shorter lexedLater rfl
                  rw [List.flatMap_append, List.count_append, ← keeps rule member _ isMatch,
                    ← counted, ← List.count_append, List.take_append_drop]

end MaximalMunch

end LiteRTLM.Library
