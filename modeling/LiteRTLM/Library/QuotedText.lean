/-!
Contract: text between quotes in which a backslash takes the next character.

Owns: which texts stand between quotes as they are, and that the closing quote is the first one
that no backslash takes.

Does not own: what an escaped character stands for.
-/

namespace LiteRTLM.Library

/-- Each quote in the text follows a backslash that no other backslash takes, and no backslash is
left over at the end. -/
def wellQuoted (quote : Char) : List Char → Bool
  | [] => true
  | ['\\'] => false
  | '\\' :: _ :: rest => wellQuoted quote rest
  | letter :: rest => letter ≠ quote && wellQuoted quote rest

theorem wellQuoted_plain {quote letter : Char} (notQuote : letter ≠ quote)
    (notBackslash : letter ≠ '\\') (rest : List Char) :
    wellQuoted quote (letter :: rest) = wellQuoted quote rest := by
  rw [wellQuoted]
  · simp [notQuote]
  · rintro rfl
    exact absurd rfl notBackslash
  · rintro _ _ rfl
    exact absurd rfl notBackslash

/-- A quote that follows well quoted text ends it. -/
theorem wellQuoted_append_quote {quote : Char} (notBackslash : quote ≠ '\\') {text : List Char}
    (well : wellQuoted quote text = true) (rest : List Char) :
    wellQuoted quote (text ++ quote :: rest) = false := by
  fun_induction wellQuoted quote text with
  | case1 =>
      rw [List.nil_append, wellQuoted]
      · simp
      · rintro rfl
        exact absurd rfl notBackslash
      · rintro _ _ rfl
        exact absurd rfl notBackslash
  | case2 => cases well
  | case3 letter behind inductionHypothesis => exact inductionHypothesis well
  | case4 letter behind notSingle notPair inductionHypothesis =>
      rw [Bool.and_eq_true] at well
      have isPlain : letter ≠ '\\' := by
        rintro rfl
        cases behind with
        | nil => exact notSingle rfl rfl
        | cons other more => exact notPair other more rfl rfl
      rw [List.cons_append, wellQuoted_plain (of_decide_eq_true well.1) isPlain]
      exact inductionHypothesis well.2

/-- The closing quote of well quoted text is found in only one way. -/
theorem wellQuoted_closing {quote : Char} (notBackslash : quote ≠ '\\')
    {text other rest otherRest : List Char} (well : wellQuoted quote text = true)
    (otherWell : wellQuoted quote other = true)
    (same : text ++ quote :: rest = other ++ quote :: otherRest) :
    text = other ∧ rest = otherRest := by
  -- a longer text would have the shorter one's closing quote in it
  rcases List.append_eq_append_iff.mp same with
    ⟨between, isOther, isRest⟩ | ⟨between, isText, isRest⟩
  · cases between with
    | nil =>
        rw [List.append_nil] at isOther
        exact ⟨isOther.symm, (List.cons.inj isRest).2⟩
    | cons letter more =>
        obtain rfl : quote = letter := (List.cons.inj isRest).1
        rw [isOther, wellQuoted_append_quote notBackslash well] at otherWell
        cases otherWell
  · cases between with
    | nil =>
        rw [List.append_nil] at isText
        exact ⟨isText, (List.cons.inj isRest).2.symm⟩
    | cons letter more =>
        obtain rfl : quote = letter := (List.cons.inj isRest).1
        rw [isText, wellQuoted_append_quote notBackslash otherWell] at well
        cases well

end LiteRTLM.Library
