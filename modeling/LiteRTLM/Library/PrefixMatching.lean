import Mathlib.Data.List.Infix
import Mathlib.Data.Nat.Find
import Mathlib.Tactic

/-!
Contract: prefixes of a word that end a stream.

A matcher that reads a stream symbol by symbol wants to know how much of a word
the stream ends with. The exact answer is the longest prefix of the word that is
a suffix of the stream. A matcher without a failure function answers a different
question: it begins an attempt, follows it as far as it goes, and begins the next
attempt only at the symbol that broke the last one.

Owns: prefixes of a word at the end of a stream, the longest one for a word and
for a family of words, common prefixes, and the positions at which attempts
begin.

Does not own: any matcher. A matcher states here which of the two it computes.
-/

namespace LiteRTLM.Library.PrefixMatching

universe u

variable {Symbol : Type u}

/-! ## Prefixes at the end of a stream -/

/-- The stream ends with the first `length` symbols of the word. -/
def EndsWithPrefix (word stream : List Symbol) (length : Nat) : Prop :=
  length ≤ word.length ∧ word.take length <:+ stream

instance [DecidableEq Symbol] (word stream : List Symbol) : DecidablePred (EndsWithPrefix word stream) :=
  fun length => inferInstanceAs (Decidable (length ≤ word.length ∧ _ <:+ _))

theorem endsWithPrefix_zero (word stream : List Symbol) : EndsWithPrefix word stream 0 :=
  ⟨Nat.zero_le _, by simp⟩

theorem EndsWithPrefix.le_stream {word stream : List Symbol} {length : Nat}
    (endsWith : EndsWithPrefix word stream length) : length ≤ stream.length := by
  have suffixLength := endsWith.2.length_le
  rw [List.length_take_of_le endsWith.1] at suffixLength
  exact suffixLength

/-- The whole word ends the stream. -/
theorem endsWithPrefix_length_iff (word stream : List Symbol) :
    EndsWithPrefix word stream word.length ↔ word <:+ stream := by
  simp [EndsWithPrefix]

/-- Any prefix of the word that ends the stream is the one of its length. -/
theorem EndsWithPrefix.of_prefix {word stream front : List Symbol}
    (isPrefix : front <+: word) (isSuffix : front <:+ stream) :
    EndsWithPrefix word stream front.length := by
  refine ⟨isPrefix.length_le, ?_⟩
  rw [← List.prefix_iff_eq_take.mp isPrefix]
  exact isSuffix

variable [DecidableEq Symbol]

/-- The length of the longest prefix of the word that ends the stream. -/
def longestOverlap (word stream : List Symbol) : Nat :=
  Nat.findGreatest (EndsWithPrefix word stream) word.length

theorem longestOverlap_endsWithPrefix (word stream : List Symbol) :
    EndsWithPrefix word stream (longestOverlap word stream) :=
  Nat.findGreatest_spec (Nat.zero_le _) (endsWithPrefix_zero word stream)

theorem EndsWithPrefix.le_longestOverlap {word stream : List Symbol} {length : Nat}
    (endsWith : EndsWithPrefix word stream length) : length ≤ longestOverlap word stream :=
  Nat.le_findGreatest endsWith.1 endsWith

/-- The length of the longest prefix of any of the words that ends the stream;
zero when there are no words. -/
def longestPartial (words : List (List Symbol)) (stream : List Symbol) : Nat :=
  (words.map fun word => longestOverlap word stream).foldr max 0

/-! ## The greatest of finitely many lengths -/

theorem foldr_max_le_iff (lengths : List Nat) (bound : Nat) :
    lengths.foldr max 0 ≤ bound ↔ ∀ length ∈ lengths, length ≤ bound := by
  induction lengths with
  | nil => simp
  | cons length rest hypothesis => simp [hypothesis]

theorem le_foldr_max {lengths : List Nat} {length : Nat} (member : length ∈ lengths) :
    length ≤ lengths.foldr max 0 :=
  (foldr_max_le_iff lengths _).mp le_rfl length member

/-- A positive greatest length is one of the lengths. -/
theorem foldr_max_mem {lengths : List Nat} (positive : 0 < lengths.foldr max 0) :
    lengths.foldr max 0 ∈ lengths := by
  induction lengths with
  | nil => simp at positive
  | cons length rest hypothesis =>
      rw [List.foldr_cons] at positive ⊢
      by_cases larger : rest.foldr max 0 ≤ length
      · rw [max_eq_left larger]
        exact List.mem_cons_self
      · have restLarger : length ≤ rest.foldr max 0 := by omega
        rw [max_eq_right restLarger]
        exact List.mem_cons_of_mem _ (hypothesis (by omega))

theorem EndsWithPrefix.le_longestPartial {words : List (List Symbol)}
    {word stream : List Symbol} {length : Nat} (member : word ∈ words)
    (endsWith : EndsWithPrefix word stream length) : length ≤ longestPartial words stream :=
  endsWith.le_longestOverlap.trans (le_foldr_max (List.mem_map_of_mem member))

/-! ## Common prefixes -/

/-- How many symbols two lists share at their front. -/
def commonPrefixLength : List Symbol → List Symbol → Nat
  | first :: firsts, second :: seconds =>
      if first = second then commonPrefixLength firsts seconds + 1 else 0
  | _, _ => 0

theorem le_commonPrefixLength_iff (word stream : List Symbol) (length : Nat) :
    length ≤ commonPrefixLength word stream ↔
      length ≤ word.length ∧ word.take length <+: stream := by
  induction word generalizing stream length with
  | nil => cases length <;> simp [commonPrefixLength]
  | cons first firsts hypothesis =>
      cases stream with
      | nil => cases length <;> simp [commonPrefixLength]
      | cons second seconds =>
          cases length with
          | zero => simp
          | succ length =>
              by_cases same : first = second
              · simp [commonPrefixLength, same, hypothesis, List.cons_prefix_cons]
              · simp [commonPrefixLength, same, List.cons_prefix_cons]

/-- Below the common length the two lists agree. -/
theorem getElem?_of_lt_commonPrefixLength {word stream : List Symbol} {index : Nat}
    (below : index < commonPrefixLength word stream) : word[index]? = stream[index]? := by
  obtain ⟨inWord, isPrefix⟩ := (le_commonPrefixLength_iff word stream (index + 1)).mp below
  obtain ⟨rest, split⟩ := isPrefix
  rw [← split, List.getElem?_append_left (by rw [List.length_take_of_le inWord]; omega),
    List.getElem?_take_of_lt (Nat.lt_succ_self index)]

/-- At the common length the word is used up or the two lists differ. -/
theorem getElem?_commonPrefixLength {word stream : List Symbol} {symbol : Symbol}
    (read : stream[commonPrefixLength word stream]? = some symbol) :
    word[commonPrefixLength word stream]? ≠ some symbol := by
  induction word generalizing stream with
  | nil => simp
  | cons first firsts hypothesis =>
      cases stream with
      | nil => simp at read
      | cons second seconds =>
          by_cases same : first = second
          · simp only [commonPrefixLength, if_pos same, List.getElem?_cons_succ] at read ⊢
            exact hypothesis read
          · simp only [commonPrefixLength, if_neg same, List.getElem?_cons_zero,
              Option.some.injEq] at read ⊢
            rw [← read]
            intro equal
            exact same (Option.some.inj equal)

/-- Two lists that agree so far agree further when their next symbols do. -/
theorem lt_commonPrefixLength_iff {word stream : List Symbol} {index : Nat} {symbol : Symbol}
    (agree : index ≤ commonPrefixLength word stream) (read : stream[index]? = some symbol) :
    index < commonPrefixLength word stream ↔ word[index]? = some symbol := by
  constructor
  · intro below
    rw [getElem?_of_lt_commonPrefixLength below, read]
  · intro same
    apply lt_of_le_of_ne agree
    intro atEnd
    rw [atEnd] at read same
    exact getElem?_commonPrefixLength read same

/-- A prefix of the word that ends the first `position + length` symbols is the
front of what follows `position`. -/
theorem endsWithPrefix_take_iff {word stream : List Symbol} {position length : Nat}
    (inStream : position + length ≤ stream.length) :
    EndsWithPrefix word (stream.take (position + length)) length ↔
      length ≤ commonPrefixLength word (stream.drop position) := by
  rw [le_commonPrefixLength_iff]
  unfold EndsWithPrefix
  apply and_congr_right
  intro inWord
  rw [List.suffix_iff_eq_drop, List.prefix_iff_eq_take, List.length_take_of_le inWord,
    List.length_take_of_le inStream, Nat.add_sub_cancel, List.drop_take, Nat.add_sub_cancel_left]

/-! ## Attempts

An attempt at a word begins at a position of the stream and lasts while stream
and word agree. The next attempt begins at the symbol that ended it, or one
further when it ended at once. -/

/-- The positions at which a restarting scan begins an attempt at the word. -/
inductive Attempt (word stream : List Symbol) : Nat → Prop where
  | start : Attempt word stream 0
  | next {position : Nat} : Attempt word stream position →
      Attempt word stream (position + max 1 (commonPrefixLength word (stream.drop position)))

end LiteRTLM.Library.PrefixMatching
