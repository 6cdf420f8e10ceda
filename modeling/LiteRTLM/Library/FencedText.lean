import LiteRTLM.Library.PrefixMatching

/-!
Contract: text with fenced blocks.

A block begins at the first opening fence and ends with the first closing fence
after it. Scanning from left to right cuts a text into blocks and the text around
them; a scanner that sees the text in parts may cut the text around them further,
but it cannot change the blocks.

Owns: the first occurrence of a pattern, the pieces of a text, merging neighbouring
text pieces, and what may be cut off the front of a text that is still growing.

Does not own: any scanner.
-/

namespace LiteRTLM.Library.FencedText

universe u

variable {Symbol : Type u}

/-! ## Occurrences -/

/-- An occurrence in a text is one in every longer text. -/
theorem isPrefix_drop_append {pattern text more : List Symbol} {index : Nat}
    (fits : index + pattern.length ≤ text.length) :
    pattern <+: (text ++ more).drop index ↔ pattern <+: text.drop index := by
  rw [List.drop_append_of_le_length (by omega)]
  constructor
  · intro occurs
    have length : pattern.length ≤ (text.drop index).length := by
      rw [List.length_drop]
      omega
    exact List.prefix_of_prefix_length_le occurs (List.prefix_append _ _) length
  · intro occurs
    exact occurs.trans (List.prefix_append _ _)

section Occurrences

variable [DecidableEq Symbol]

/-- The first position at which the pattern occurs. -/
def firstIndex (pattern : List Symbol) : List Symbol → Option Nat
  | [] => if pattern = [] then some 0 else none
  | symbol :: rest =>
      if pattern <+: symbol :: rest then some 0
      else (firstIndex pattern rest).map (· + 1)

theorem firstIndex_eq_some_iff {pattern text : List Symbol} {index : Nat} :
    firstIndex pattern text = some index ↔
      index ≤ text.length ∧ pattern <+: text.drop index ∧
        ∀ earlier < index, ¬pattern <+: text.drop earlier := by
  induction text generalizing index with
  | nil =>
      cases index with
      | zero => simp [firstIndex, eq_comm]
      | succ index => simp [firstIndex]
  | cons symbol rest hypothesis =>
      by_cases here : pattern <+: symbol :: rest
      · cases index with
        | zero => simp [firstIndex, here]
        | succ index =>
            simp only [firstIndex, here, if_true, Option.some.injEq, Nat.right_eq_add,
              Nat.add_eq_zero_iff, Nat.succ_ne_self, and_false, false_iff, not_and]
            intro _ _ noneEarlier
            exact noneEarlier 0 (Nat.succ_pos index) (by simpa using here)
      · cases index with
        | zero => simp [firstIndex, here]
        | succ index =>
            simp only [firstIndex, here, if_false, Option.map_eq_some_iff, Nat.add_right_cancel_iff,
              exists_eq_right, hypothesis, List.length_cons, Nat.add_le_add_iff_right,
              List.drop_succ_cons]
            apply and_congr_right
            intro _
            apply and_congr_right
            intro _
            constructor
            · intro noneEarlier earlier before
              cases earlier with
              | zero => simpa using here
              | succ earlier => simpa using noneEarlier earlier (by omega)
            · intro noneEarlier earlier before
              simpa using noneEarlier (earlier + 1) (by omega)

theorem firstIndex_eq_none_iff {pattern text : List Symbol} :
    firstIndex pattern text = none ↔ ∀ index ≤ text.length, ¬pattern <+: text.drop index := by
  constructor
  · intro none index inside occurs
    -- The least position of an occurrence would be the first index.
    have exists' : ∃ index, index ≤ text.length ∧ pattern <+: text.drop index :=
      ⟨index, inside, occurs⟩
    have found := Iff.mpr firstIndex_eq_some_iff
      ⟨(Nat.find_spec exists').1, (Nat.find_spec exists').2,
        fun earlier before prefix' => Nat.find_min exists' before
          ⟨(Nat.le_of_lt before).trans (Nat.find_spec exists').1, prefix'⟩⟩
    rw [none] at found
    cases found
  · intro nowhere
    cases found : firstIndex pattern text with
    | none => rfl
    | some index =>
        obtain ⟨inside, occurs, -⟩ := Iff.mp firstIndex_eq_some_iff found
        exact absurd occurs (nowhere index inside)

/-- An occurrence ends inside the text. -/
theorem firstIndex_add_le {pattern text : List Symbol} {index : Nat}
    (found : firstIndex pattern text = some index) : index + pattern.length ≤ text.length := by
  obtain ⟨inside, occurs, -⟩ := Iff.mp firstIndex_eq_some_iff found
  have length := occurs.length_le
  rw [List.length_drop] at length
  omega

/-- The first occurrence does not move when the text grows. -/
theorem firstIndex_append_of_some {pattern text : List Symbol} (more : List Symbol) {index : Nat}
    (found : firstIndex pattern text = some index) :
    firstIndex pattern (text ++ more) = some index := by
  have fits := firstIndex_add_le found
  obtain ⟨inside, occurs, noneEarlier⟩ := Iff.mp firstIndex_eq_some_iff found
  apply Iff.mpr firstIndex_eq_some_iff
  refine ⟨by rw [List.length_append]; omega, (isPrefix_drop_append fits).mpr occurs, ?_⟩
  intro earlier before
  rw [isPrefix_drop_append (by omega)]
  exact noneEarlier earlier before

/-- A text cut off after the first occurrence has it at the same position. -/
theorem firstIndex_take {pattern text : List Symbol} {index length : Nat}
    (found : firstIndex pattern text = some index) (fits : index + pattern.length ≤ length)
    (inText : length ≤ text.length) : firstIndex pattern (text.take length) = some index := by
  obtain ⟨-, occurs, noneEarlier⟩ := Iff.mp firstIndex_eq_some_iff found
  have cutLength : (text.take length).length = length := List.length_take_of_le inText
  rw [← List.take_append_drop length text] at occurs noneEarlier
  apply Iff.mpr firstIndex_eq_some_iff
  refine ⟨by omega, (isPrefix_drop_append (by omega)).mp occurs, ?_⟩
  intro earlier before
  rw [← isPrefix_drop_append (by omega)]
  exact noneEarlier earlier before

/-- What follows in a text without an occurrence has none. -/
theorem firstIndex_drop_of_none {pattern text : List Symbol} {count : Nat}
    (nowhere : firstIndex pattern text = none) (inText : count ≤ text.length) :
    firstIndex pattern (text.drop count) = none := by
  apply firstIndex_eq_none_iff.mpr
  intro index inRest
  rw [List.length_drop] at inRest
  rw [List.drop_drop]
  exact firstIndex_eq_none_iff.mp nowhere (count + index) (by omega)

/-- A front in which no occurrence begins has none. -/
theorem firstIndex_take_of_clear {pattern text : List Symbol} {count : Nat}
    (nonempty : pattern ≠ []) (clear : ∀ index < count, ¬pattern <+: text.drop index) :
    firstIndex pattern (text.take count) = none := by
  apply firstIndex_eq_none_iff.mpr
  intro index inFront occurs
  by_cases before : index < count
  · apply clear index before
    rw [List.drop_take] at occurs
    exact occurs.trans (List.take_prefix _ _)
  · have exhausted : (text.take count).drop index = [] := by
      rw [List.drop_take, Nat.sub_eq_zero_of_le (by omega), List.take_zero]
    rw [exhausted] at occurs
    exact nonempty (List.prefix_nil.mp occurs)

/-- A front in which no occurrence begins shifts the first occurrence. -/
theorem firstIndex_append_of_clear {pattern front back : List Symbol}
    (clear : ∀ index < front.length, ¬pattern <+: (front ++ back).drop index) :
    firstIndex pattern (front ++ back) = (firstIndex pattern back).map (front.length + ·) := by
  induction front with
  | nil => simp
  | cons symbol rest hypothesis =>
      have notHere : ¬pattern <+: symbol :: (rest ++ back) := by
        simpa using clear 0 (by simp)
      have clearRest : ∀ index < rest.length, ¬pattern <+: (rest ++ back).drop index := by
        intro index before
        simpa using clear (index + 1) (by simpa using before)
      rw [List.cons_append, firstIndex, if_neg notHere, hypothesis clearRest, Option.map_map]
      congr 1
      funext index
      simp only [Function.comp_apply, List.length_cons]
      omega

end Occurrences

/-! ## Pieces -/

/-- A part of a text: a complete block, or text outside the blocks. -/
inductive Piece (Symbol : Type u) where
  | text (symbols : List Symbol)
  | block (symbols : List Symbol)
deriving DecidableEq, Repr

def Piece.symbols : Piece Symbol → List Symbol
  | .text symbols | .block symbols => symbols

def Piece.isBlock : Piece Symbol → Bool
  | .text _ => false
  | .block _ => true

/-- A piece in front of others: empty text is dropped and neighbouring text merged. -/
def consPiece : Piece Symbol → List (Piece Symbol) → List (Piece Symbol)
  | .text [], pieces => pieces
  | .text symbols, .text following :: pieces => .text (symbols ++ following) :: pieces
  | piece, pieces => piece :: pieces

def mergeText (pieces : List (Piece Symbol)) : List (Piece Symbol) :=
  pieces.foldr consPiece []

@[simp]
theorem mergeText_nil : mergeText ([] : List (Piece Symbol)) = [] := rfl

@[simp]
theorem mergeText_cons (piece : Piece Symbol) (pieces : List (Piece Symbol)) :
    mergeText (piece :: pieces) = consPiece piece (mergeText pieces) := rfl

theorem consPiece_block (symbols : List Symbol) (pieces : List (Piece Symbol)) :
    consPiece (.block symbols) pieces = .block symbols :: pieces := rfl

theorem consPiece_text_nil (pieces : List (Piece Symbol)) :
    consPiece (.text []) pieces = pieces := rfl

/-- What follows may be merged first. -/
theorem mergeText_append_congr (front : List (Piece Symbol)) {back back' : List (Piece Symbol)}
    (same : mergeText back = mergeText back') :
    mergeText (front ++ back) = mergeText (front ++ back') := by
  unfold mergeText at *
  rw [List.foldr_append, List.foldr_append, same]

/-- Two neighbouring text pieces are one. -/
theorem consPiece_text_append (first second : List Symbol) (pieces : List (Piece Symbol)) :
    consPiece (.text (first ++ second)) pieces =
      consPiece (.text first) (consPiece (.text second) pieces) := by
  cases first with
  | nil => rfl
  | cons symbol rest =>
      cases second with
      | nil => rw [List.append_nil, consPiece_text_nil]
      | cons symbol' rest' =>
          cases pieces with
          | nil => rfl
          | cons piece pieces =>
              cases piece with
              | block symbols => rfl
              | text symbols => simp [consPiece]

/-- Merging keeps the blocks. -/
theorem filter_isBlock_mergeText (pieces : List (Piece Symbol)) :
    (mergeText pieces).filter Piece.isBlock = pieces.filter Piece.isBlock := by
  have consBlocks : ∀ (piece : Piece Symbol) (pieces : List (Piece Symbol)),
      (consPiece piece pieces).filter Piece.isBlock =
        (piece :: pieces).filter Piece.isBlock := by
    intro piece pieces
    match piece, pieces with
    | .block symbols, pieces => rfl
    | .text [], pieces => rfl
    | .text (symbol :: rest), [] => rfl
    | .text (symbol :: rest), .block symbols :: pieces => rfl
    | .text (symbol :: rest), .text symbols :: pieces => rfl
  induction pieces with
  | nil => rfl
  | cons piece pieces hypothesis =>
      rw [mergeText_cons, consBlocks, List.filter_cons, List.filter_cons, hypothesis]

/-! ## The text around the blocks -/

def texts : List (Piece Symbol) → List (List Symbol)
  | [] => []
  | .text symbols :: pieces => symbols :: texts pieces
  | .block _ :: pieces => texts pieces

/-- Where the blocks stand, without what they say. -/
def Piece.outline : Piece Symbol → Piece Symbol
  | .text symbols => .text symbols
  | .block _ => .block []

theorem texts_map_outline (pieces : List (Piece Symbol)) :
    texts (pieces.map Piece.outline) = texts pieces := by
  induction pieces with
  | nil => rfl
  | cons piece pieces hypothesis => cases piece <;> simp [texts, Piece.outline, hypothesis]

theorem mergeText_map_outline (pieces : List (Piece Symbol)) :
    mergeText (pieces.map Piece.outline) = (mergeText pieces).map Piece.outline := by
  have consOutline : ∀ (piece : Piece Symbol) (pieces : List (Piece Symbol)),
      consPiece piece.outline (pieces.map Piece.outline) =
        (consPiece piece pieces).map Piece.outline := by
    intro piece pieces
    match piece, pieces with
    | .block symbols, pieces => rfl
    | .text [], pieces => rfl
    | .text (symbol :: rest), [] => rfl
    | .text (symbol :: rest), .block symbols :: pieces => rfl
    | .text (symbol :: rest), .text symbols :: pieces => rfl
  induction pieces with
  | nil => rfl
  | cons piece pieces hypothesis =>
      rw [List.map_cons, mergeText_cons, mergeText_cons, hypothesis, consOutline]

/-! ## Scanning -/

/-- The two fences; neither is empty. -/
structure Fences (Symbol : Type u) where
  opening : List Symbol
  closing : List Symbol
  opening_nonempty : opening ≠ []
  closing_nonempty : closing ≠ []

namespace Fences

variable [DecidableEq Symbol] (fences : Fences Symbol)

/-- The first block of a text: where it begins and how long it is. -/
def firstBlock (text : List Symbol) : Option (Nat × Nat) := do
  let start ← firstIndex fences.opening text
  let stop ← firstIndex fences.closing (text.drop (start + fences.opening.length))
  return (start, fences.opening.length + stop + fences.closing.length)

theorem firstBlock_eq_some_iff {text : List Symbol} {start length : Nat} :
    fences.firstBlock text = some (start, length) ↔
      firstIndex fences.opening text = some start ∧
        ∃ stop, firstIndex fences.closing (text.drop (start + fences.opening.length)) = some stop ∧
          length = fences.opening.length + stop + fences.closing.length := by
  simp only [firstBlock, Option.bind_eq_bind, Option.bind_eq_some_iff, Option.pure_def,
    Option.some.injEq, Prod.mk.injEq]
  constructor
  · rintro ⟨start, opened, stop, closed, rfl, rfl⟩
    exact ⟨opened, stop, closed, rfl⟩
  · rintro ⟨opened, stop, closed, rfl⟩
    exact ⟨start, opened, stop, closed, rfl, rfl⟩

theorem firstBlock_le {text : List Symbol} {start length : Nat}
    (found : fences.firstBlock text = some (start, length)) :
    start + length ≤ text.length ∧ 0 < length := by
  obtain ⟨opened, stop, closed, rfl⟩ := (fences.firstBlock_eq_some_iff).mp found
  have inText := firstIndex_add_le opened
  have inRest := firstIndex_add_le closed
  rw [List.length_drop] at inRest
  have nonempty := List.length_pos_iff.mpr fences.opening_nonempty
  omega

theorem firstBlock_of_unopened {text : List Symbol}
    (unopened : firstIndex fences.opening text = none) : fences.firstBlock text = none := by
  rw [firstBlock, unopened]
  rfl

/-- An open block that is not closed. -/
theorem firstBlock_of_unclosed {text : List Symbol} (opened : fences.opening <+: text)
    (unclosed : firstIndex fences.closing (text.drop fences.opening.length) = none) :
    fences.firstBlock text = none := by
  have atFront : firstIndex fences.opening text = some 0 :=
    Iff.mpr firstIndex_eq_some_iff ⟨Nat.zero_le _, opened, by simp⟩
  rw [firstBlock, atFront]
  simp [unclosed]

/-- The first block does not change when the text grows. -/
theorem firstBlock_append {text : List Symbol} (more : List Symbol) {start length : Nat}
    (found : fences.firstBlock text = some (start, length)) :
    fences.firstBlock (text ++ more) = some (start, length) := by
  obtain ⟨opened, stop, closed, rfl⟩ := (fences.firstBlock_eq_some_iff).mp found
  have inText := firstIndex_add_le opened
  apply (fences.firstBlock_eq_some_iff).mpr
  refine ⟨firstIndex_append_of_some more opened, stop, ?_, rfl⟩
  rw [List.drop_append_of_le_length inText]
  exact firstIndex_append_of_some more closed

/-- No opening fence begins in the front, whatever follows it. -/
theorem firstBlock_append_of_clear {front back : List Symbol}
    (clear : ∀ index < front.length, ¬fences.opening <+: (front ++ back).drop index) :
    fences.firstBlock (front ++ back) =
      (fences.firstBlock back).map fun block => (front.length + block.1, block.2) := by
  unfold firstBlock
  rw [firstIndex_append_of_clear clear]
  cases firstIndex fences.opening back with
  | none => rfl
  | some start =>
      have sameRest : (front ++ back).drop (front.length + start + fences.opening.length) =
          back.drop (start + fences.opening.length) := by
        rw [Nat.add_assoc, List.drop_length_add_append]
      simp only [Option.map_some, Option.bind_eq_bind, Option.bind_some, sameRest, Option.pure_def,
        Option.map_bind]
      rfl

/-- The pieces of a text, scanned from left to right. -/
def pieces (text : List Symbol) : List (Piece Symbol) :=
  match _found : fences.firstBlock text with
  | none => [.text text]
  | some (start, length) =>
      .text (text.take start) :: .block ((text.drop start).take length) ::
        pieces (text.drop (start + length))
termination_by text.length
decreasing_by
  have bounds := fences.firstBlock_le _found
  rw [List.length_drop]
  omega

theorem pieces_of_none {text : List Symbol} (none : fences.firstBlock text = none) :
    fences.pieces text = [.text text] := by
  rw [pieces]
  split
  · rfl
  · rename_i found
    rw [none] at found
    cases found

theorem pieces_of_some {text : List Symbol} {start length : Nat}
    (found : fences.firstBlock text = some (start, length)) :
    fences.pieces text =
      .text (text.take start) :: .block ((text.drop start).take length) ::
        fences.pieces (text.drop (start + length)) := by
  rw [pieces]
  split
  · rename_i none
    rw [none] at found
    cases found
  · rename_i start' length' found'
    rw [found, Option.some.injEq, Prod.mk.injEq] at found'
    rw [found'.1, found'.2]

/-- Scanning leaves only empty texts to be merged. -/
theorem texts_mergeText_pieces (text : List Symbol) :
    texts (mergeText (fences.pieces text)) =
      (texts (fences.pieces text)).filter (fun symbols => symbols ≠ []) := by
  induction text using pieces.induct fences with
  | case1 text none =>
      rw [fences.pieces_of_none none]
      cases text <;> rfl
  | case2 text start length found hypothesis =>
      rw [fences.pieces_of_some found, mergeText_cons, mergeText_cons, consPiece_block]
      cases text.take start with
      | nil => simpa [consPiece, texts] using hypothesis
      | cons symbol rest => simpa [consPiece, texts] using hypothesis

/-- A front in which no opening fence begins is text of its own. -/
theorem mergeText_pieces_append_of_clear {front back : List Symbol}
    (clear : ∀ index < front.length, ¬fences.opening <+: (front ++ back).drop index) :
    mergeText (fences.pieces (front ++ back)) =
      consPiece (.text front) (mergeText (fences.pieces back)) := by
  have shifted := fences.firstBlock_append_of_clear clear
  cases found : fences.firstBlock back with
  | none =>
      rw [found, Option.map_none] at shifted
      rw [fences.pieces_of_none shifted, fences.pieces_of_none found]
      exact consPiece_text_append front back []
  | some block =>
      rw [found, Option.map_some] at shifted
      rw [fences.pieces_of_some shifted, fences.pieces_of_some found]
      simp only [mergeText_cons, Nat.add_assoc, List.drop_length_add_append,
        List.take_length_add_append]
      exact consPiece_text_append front (back.take block.1) _

/-- A block at the front stays one whatever follows. -/
theorem mergeText_pieces_append_of_block {text : List Symbol} {length : Nat}
    (found : fences.firstBlock text = some (0, length)) (more : List Symbol) :
    mergeText (fences.pieces (text ++ more)) =
      .block (text.take length) :: mergeText (fences.pieces (text.drop length ++ more)) := by
  have bounds := fences.firstBlock_le found
  rw [fences.pieces_of_some (fences.firstBlock_append more found)]
  simp only [mergeText_cons, List.take_zero, List.drop_zero, Nat.zero_add]
  rw [consPiece_text_nil, consPiece_block, List.take_append_of_le_length (by omega),
    List.drop_append_of_le_length (by omega)]

/-- What stands between the fences of a block. -/
def inside (block : List Symbol) : List Symbol :=
  (block.drop fences.opening.length).take
    (block.length - fences.opening.length - fences.closing.length)

/-- How a text by itself is classified: a block when all of it is one block. -/
def asPiece (text : List Symbol) : Piece Symbol :=
  if fences.firstBlock text = some (0, text.length) then .block text else .text text

theorem asPiece_symbols (text : List Symbol) : (fences.asPiece text).symbols = text := by
  unfold asPiece
  split <;> rfl

theorem asPiece_of_none {text : List Symbol} (none : fences.firstBlock text = none) :
    fences.asPiece text = .text text := by
  rw [asPiece, none, if_neg (by simp)]

theorem firstBlock_take {text : List Symbol} {length : Nat}
    (found : fences.firstBlock text = some (0, length)) :
    fences.firstBlock (text.take length) = some (0, length) := by
  have bounds := fences.firstBlock_le found
  obtain ⟨opened, stop, closed, rfl⟩ := (fences.firstBlock_eq_some_iff).mp found
  have inRest := firstIndex_add_le closed
  apply (fences.firstBlock_eq_some_iff).mpr
  refine ⟨firstIndex_take opened (by omega) (by omega), stop, ?_, rfl⟩
  rw [List.drop_take]
  exact firstIndex_take closed (by omega) (by rw [List.length_drop]; omega)

theorem asPiece_take_of_block {text : List Symbol} {length : Nat}
    (found : fences.firstBlock text = some (0, length)) :
    fences.asPiece (text.take length) = .block (text.take length) := by
  have bounds := fences.firstBlock_le found
  rw [asPiece, if_pos]
  rw [List.length_take_of_le (by omega)]
  exact fences.firstBlock_take found

/-- A text without a block is one piece. -/
theorem mergeText_pieces_of_none {text : List Symbol} (none : fences.firstBlock text = none)
    (nonempty : text ≠ []) : mergeText (fences.pieces text) = [fences.asPiece text] := by
  rw [fences.pieces_of_none none, fences.asPiece_of_none none]
  cases text with
  | nil => exact absurd rfl nonempty
  | cons symbol rest => rfl

/-- A block alone is one piece. -/
theorem mergeText_pieces_take_of_block {text : List Symbol} {length : Nat}
    (found : fences.firstBlock text = some (0, length)) :
    mergeText (fences.pieces (text.take length)) = [fences.asPiece (text.take length)] := by
  have bounds := fences.firstBlock_le found
  have alone := fences.mergeText_pieces_append_of_block (fences.firstBlock_take found) []
  have nothingLeft : (text.take length).drop length = [] := by
    rw [List.drop_take, Nat.sub_self, List.take_zero]
  have nothing : fences.firstBlock [] = none :=
    fences.firstBlock_of_unopened (by simp [firstIndex, fences.opening_nonempty])
  rw [List.append_nil, nothingLeft, List.append_nil, fences.pieces_of_none nothing,
    List.take_take, Nat.min_self] at alone
  rw [alone, fences.asPiece_take_of_block found]
  rfl

/-- No piece by itself is an empty text. -/
theorem asPiece_ne_of_alone {text : List Symbol}
    (alone : mergeText (fences.pieces text) = [fences.asPiece text]) :
    fences.asPiece text ≠ .text [] := by
  intro empty
  have noText : text = [] := by
    rw [← fences.asPiece_symbols text, empty]
    rfl
  have nothing : fences.firstBlock [] = none :=
    fences.firstBlock_of_unopened (by simp [firstIndex, fences.opening_nonempty])
  rw [noText, fences.pieces_of_none nothing] at alone
  cases alone

end Fences

/-! ## A text that is still growing -/

section Growing

variable [DecidableEq Symbol]

open PrefixMatching in
/-- Where the pattern may begin once more text arrives: not before the longest
prefix of it that ends the text. -/
theorem not_isPrefix_drop_append_of_lt {pattern text : List Symbol}
    (nowhere : firstIndex pattern text = none) (more : List Symbol) {index : Nat}
    (before : index + longestOverlap pattern text < text.length) :
    ¬pattern <+: (text ++ more).drop index := by
  intro occurs
  by_cases fits : index + pattern.length ≤ text.length
  · exact firstIndex_eq_none_iff.mp nowhere index (by omega)
      ((isPrefix_drop_append fits).mp occurs)
  · -- The part of the occurrence that is already there ends the text.
    rw [List.drop_append_of_le_length (by omega)] at occurs
    have isPrefix : text.drop index <+: pattern :=
      List.prefix_of_prefix_length_le (List.prefix_append _ more) occurs
        (by rw [List.length_drop]; omega)
    have overlap := (EndsWithPrefix.of_prefix isPrefix (List.drop_suffix index text)).le_longestOverlap
    rw [List.length_drop] at overlap
    omega

end Growing

end LiteRTLM.Library.FencedText
