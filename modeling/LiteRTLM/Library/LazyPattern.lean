import LiteRTLM.Library.FencedText

/-!
Contract: patterns of literals and non-greedy groups, matched at the front of a text.

A group takes as little as it can; when what follows it does not match there, it takes
one symbol more. The groups to the left decide first.

Owns: the patterns, their matcher, and the pattern of a fenced block: it matches where
scanning from left to right finds the first block.

Does not own: any other construct of regular expressions.
-/

namespace LiteRTLM.Library.LazyPattern

open FencedText

universe u

variable {Symbol : Type u}

inductive Item (Symbol : Type u) where
  | literal (symbols : List Symbol)
  /-- `(.*?)`, where `.` matches any symbol. -/
  | group
deriving DecidableEq, Repr

/-- The shortest front after which the rest of the pattern matches. -/
def lazyGroup {Result : Type u} (matchRest : List Symbol → Option Result) :
    List Symbol → Option (List Symbol × Result)
  | [] => (matchRest []).map fun result => ([], result)
  | symbol :: rest =>
      match matchRest (symbol :: rest) with
      | some result => some ([], result)
      | none => (lazyGroup matchRest rest).map fun (taken, result) => (symbol :: taken, result)

theorem lazyGroup_eq_some {Result : Type u} {matchRest : List Symbol → Option Result}
    {text : List Symbol} {count : Nat} {result : Result} (inText : count ≤ text.length)
    (matches' : matchRest (text.drop count) = some result)
    (notEarlier : ∀ earlier < count, matchRest (text.drop earlier) = none) :
    lazyGroup matchRest text = some (text.take count, result) := by
  induction text generalizing count with
  | nil =>
      obtain rfl : count = 0 := Nat.le_zero.mp inText
      simp only [List.drop_nil] at matches'
      simp [lazyGroup, matches']
  | cons symbol rest hypothesis =>
      cases count with
      | zero =>
          rw [List.drop_zero] at matches'
          simp [lazyGroup, matches']
      | succ count =>
          have notHere : matchRest (symbol :: rest) = none := notEarlier 0 (Nat.succ_pos count)
          have later := hypothesis (Nat.le_of_succ_le_succ inText) matches'
            fun earlier before => notEarlier (earlier + 1) (Nat.succ_lt_succ before)
          simp [lazyGroup, notHere, later]

theorem lazyGroup_eq_none {Result : Type u} {matchRest : List Symbol → Option Result}
    {text : List Symbol} (nowhere : ∀ count ≤ text.length, matchRest (text.drop count) = none) :
    lazyGroup matchRest text = none := by
  induction text with
  | nil => simpa [lazyGroup] using nowhere 0 (Nat.zero_le _)
  | cons symbol rest hypothesis =>
      have notHere : matchRest (symbol :: rest) = none := nowhere 0 (Nat.zero_le _)
      have notLater := hypothesis fun count inText =>
        nowhere (count + 1) (Nat.succ_le_succ inText)
      simp [lazyGroup, notHere, notLater]

variable [DecidableEq Symbol]

/-- Matches the pattern at the front of the text: what the groups took, and what is
left. -/
def consume : List (Item Symbol) → List Symbol → Option (List (List Symbol) × List Symbol)
  | [], text => some ([], text)
  | .literal symbols :: pattern, text =>
      if symbols <+: text then consume pattern (text.drop symbols.length) else none
  | .group :: pattern, text =>
      (lazyGroup (consume pattern) text).map fun (taken, groups, rest) => (taken :: groups, rest)

/-- A group up to a literal takes what stands before its first occurrence. -/
theorem consume_group_literal (symbols text : List Symbol) :
    consume [.group, .literal symbols] text =
      (firstIndex symbols text).map fun index =>
        ([text.take index], text.drop (index + symbols.length)) := by
  have atPosition : ∀ index, consume [.literal symbols] (text.drop index) =
      if symbols <+: text.drop index then some ([], text.drop (index + symbols.length))
      else none := by
    intro index
    simp only [consume, List.drop_drop]
  cases found : firstIndex symbols text with
  | none =>
      have nowhere := firstIndex_eq_none_iff.mp found
      rw [consume, lazyGroup_eq_none]
      · rfl
      · intro count inText
        rw [atPosition, if_neg (nowhere count inText)]
  | some index =>
      obtain ⟨inText, occurs, notEarlier⟩ := firstIndex_eq_some_iff.mp found
      have taken : lazyGroup (consume [.literal symbols]) text =
          some (text.take index, [], text.drop (index + symbols.length)) := by
        apply lazyGroup_eq_some inText
        · rw [atPosition, if_pos occurs]
        · intro earlier before
          rw [atPosition, if_neg (notEarlier earlier before)]
      rw [consume, taken]
      rfl

/-- Text up to the opening fence, the inside of the block, and the closing fence. -/
def fencedBlock (opening closing : List Symbol) : List (Item Symbol) :=
  [.group, .literal opening, .group, .literal closing]

/-- The pattern of a fenced block takes the text before the first block and the inside
of that block. -/
theorem consume_fencedBlock (fences : Fences Symbol) (text : List Symbol) :
    consume (fencedBlock fences.opening fences.closing) text =
      (fences.firstBlock text).map fun (start, length) =>
        ([text.take start, fences.inside ((text.drop start).take length)],
          text.drop (start + length)) := by
  have atPosition : ∀ index,
      consume [.literal fences.opening, .group, .literal fences.closing] (text.drop index) =
        if fences.opening <+: text.drop index then
          (firstIndex fences.closing (text.drop (index + fences.opening.length))).map fun stop =>
            ([(text.drop (index + fences.opening.length)).take stop],
              (text.drop (index + fences.opening.length)).drop (stop + fences.closing.length))
        else none := by
    intro index
    rw [consume, consume_group_literal, List.drop_drop]
  rw [fencedBlock, consume]
  cases opened : firstIndex fences.opening text with
  | none =>
      have nowhere := firstIndex_eq_none_iff.mp opened
      rw [lazyGroup_eq_none, fences.firstBlock_of_unopened opened]
      · rfl
      · intro count inText
        rw [atPosition, if_neg (nowhere count inText)]
  | some start =>
      obtain ⟨inText, occurs, notEarlier⟩ := firstIndex_eq_some_iff.mp opened
      cases closed : firstIndex fences.closing (text.drop (start + fences.opening.length)) with
      | none =>
          have noBlock : fences.firstBlock text = none := by
            simp [Fences.firstBlock, opened, closed]
          rw [lazyGroup_eq_none, noBlock]
          · rfl
          · intro count countInText
            rw [atPosition]
            split
            · -- A later opening fence is not closed either.
              rename_i later
              have notBefore : start ≤ count := by
                by_contra before
                exact notEarlier count (by omega) later
              have fits := later.length_le
              rw [List.length_drop] at fits
              have unclosed := firstIndex_drop_of_none closed
                (show count - start ≤ _ by rw [List.length_drop]; omega)
              rw [List.drop_drop] at unclosed
              rw [show count + fences.opening.length =
                start + fences.opening.length + (count - start) by omega, unclosed]
              rfl
            · rfl
      | some stop =>
          have found : fences.firstBlock text =
              some (start, fences.opening.length + stop + fences.closing.length) :=
            (fences.firstBlock_eq_some_iff).mpr ⟨opened, stop, closed, rfl⟩
          have bounds := fences.firstBlock_le found
          have taken : lazyGroup
              (consume [.literal fences.opening, .group, .literal fences.closing]) text =
                some (text.take start, [(text.drop (start + fences.opening.length)).take stop],
                  (text.drop (start + fences.opening.length)).drop
                    (stop + fences.closing.length)) := by
            apply lazyGroup_eq_some inText
            · rw [atPosition, if_pos occurs, closed]
              rfl
            · intro earlier before
              rw [atPosition, if_neg (notEarlier earlier before)]
          have sameInside : fences.inside ((text.drop start).take
                (fences.opening.length + stop + fences.closing.length)) =
              (text.drop (start + fences.opening.length)).take stop := by
            have blockLength : ((text.drop start).take
                (fences.opening.length + stop + fences.closing.length)).length =
                  fences.opening.length + stop + fences.closing.length := by
              rw [List.length_take_of_le]
              rw [List.length_drop]
              omega
            rw [Fences.inside, blockLength, List.drop_take, List.take_take, List.drop_drop]
            congr 1
            omega
          have sameRest : (text.drop (start + fences.opening.length)).drop
                (stop + fences.closing.length) =
              text.drop (start + (fences.opening.length + stop + fences.closing.length)) := by
            rw [List.drop_drop]
            congr 1
            omega
          rw [taken, found, sameRest]
          simp only [Option.map_some, sameInside]

end LiteRTLM.Library.LazyPattern
