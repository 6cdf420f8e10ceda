import LiteRTLM.Conversation.InternalCallback

/-!
Contract: how the callback cuts a response into segments does not depend on how the
response arrives.

Owns: what the segments sent so far say about the text received so far, its
preservation by the loop and by every call, and the segmentation of a whole run.

Does not own: what `ToMessage` makes of a segment.
-/

namespace LiteRTLM.Conversation.InternalCallback

open LiteRTLM.Engine
open LiteRTLM.Library.FencedText
open LiteRTLM.Library.PrefixMatching

variable {Symbol Message : Type} [DecidableEq Symbol]

/-! ## Strings -/

theorem find_eq_some_iff {text pattern : List Symbol} {position found : Nat} :
    find text pattern position = some found ↔
      position ≤ text.length ∧ ∃ offset,
        firstIndex pattern (text.drop position) = some offset ∧ found = position + offset := by
  unfold find
  split
  · rename_i inside
    simp [inside, eq_comm]
  · rename_i outside
    simp [outside]

theorem find_eq_none_iff {text pattern : List Symbol} {position : Nat}
    (inside : position ≤ text.length) :
    find text pattern position = none ↔ firstIndex pattern (text.drop position) = none := by
  simp [find, inside]

theorem overlapFrom_eq {a b : List Symbol} {length : Nat}
    (longest : longestOverlap b a ≤ length) (inA : length ≤ a.length) (inB : length ≤ b.length) :
    overlapFrom a b length = longestOverlap b a := by
  have isSuffixIff : ∀ length ≤ a.length, length ≤ b.length →
      (a.drop (a.length - length) = b.take length ↔ EndsWithPrefix b a length) := by
    intro length inA inB
    rw [EndsWithPrefix, List.suffix_iff_eq_drop, List.length_take_of_le inB]
    simp [inB, eq_comm]
  induction length with
  | zero => simp only [overlapFrom]; omega
  | succ length hypothesis =>
      rw [overlapFrom]
      split
      · rename_i equal
        have endsWith := (isSuffixIff (length + 1) inA inB).mp equal
        exact Nat.le_antisymm endsWith.le_longestOverlap longest
      · rename_i differs
        have shorter := mt (isSuffixIff (length + 1) inA inB).mpr differs
        apply hypothesis _ (by omega) (by omega)
        apply Nat.le_of_lt_succ
        apply lt_of_le_of_ne longest
        intro equal
        rw [← equal] at shorter
        exact shorter (longestOverlap_endsWithPrefix b a)

/-- `SuffixPrefixOverlap` is the longest prefix of the fence that ends the text. -/
theorem suffixPrefixOverlap_eq (a b : List Symbol) :
    suffixPrefixOverlap a b = longestOverlap b a := by
  have endsWith := longestOverlap_endsWithPrefix b a
  have inA := endsWith.le_stream
  have inB := endsWith.1
  unfold suffixPrefixOverlap
  split
  · rename_i empty
    have noLength : min a.length b.length = 0 := by
      rcases empty with rfl | rfl <;> simp
    omega
  · exact overlapFrom_eq (by omega) (by omega) (by omega)

/-! ## Segments sent so far -/

namespace Captures

variable (captures : Captures Symbol Message)

theorem segments_sendMessage (text : List Symbol) :
    segments (captures.sendMessage text) = if text = [] then [] else [text] := by
  unfold sendMessage
  split <;> rfl

/-- The fences of the model data processor, when neither is empty. -/
def fences (startNonempty : captures.codeFenceStart ≠ [])
    (endNonempty : captures.codeFenceEnd ≠ []) : Fences Symbol :=
  ⟨captures.codeFenceStart, captures.codeFenceEnd, startNonempty, endNonempty⟩

end Captures

/-! ## The invariant -/

/-- The text that has been received and not sent. -/
def State.held (state : State Symbol) : List Symbol :=
  state.accumulatedResponseText.drop state.cursor

section

omit [DecidableEq Symbol]

theorem State.length_held (state : State Symbol) :
    state.held.length = state.accumulatedResponseText.length - state.cursor :=
  List.length_drop

/-- The state after `count` more symbols are sent. -/
def State.advance (state : State Symbol) (count : Nat) (insideToolCall : Bool) : State Symbol :=
  { state with cursor := state.cursor + count, insideToolCall := insideToolCall }

theorem State.held_advance (state : State Symbol) (count : Nat) (insideToolCall : Bool) :
    (state.advance count insideToolCall).held = state.held.drop count := by
  simp only [State.held, State.advance, List.drop_drop]

end

/-- The segments sent are the text before the cursor, cut as scanning the whole text
cuts it, whatever arrives later. -/
structure Scanned (fences : Fences Symbol) (sent : List (List Symbol)) (state : State Symbol) :
    Prop where
  cursor_le : state.cursor ≤ state.accumulatedResponseText.length
  sent_flatten : sent.flatten = state.accumulatedResponseText.take state.cursor
  samePieces : ∀ later,
    mergeText (fences.pieces (state.accumulatedResponseText ++ later)) =
      mergeText (sent.map fences.asPiece ++ fences.pieces (state.held ++ later))
  alone : ∀ segment ∈ sent, mergeText (fences.pieces segment) = [fences.asPiece segment]
  inside : state.insideToolCall = true → fences.opening <+: state.held

theorem scanned_start (fences : Fences Symbol) : Scanned fences [] {} where
  cursor_le := Nat.le_refl 0
  sent_flatten := rfl
  samePieces := fun _ => rfl
  alone := by simp
  inside := by simp

namespace Scanned

variable {fences : Fences Symbol} {sent : List (List Symbol)} {state : State Symbol}

/-- What has been sent, after the next `count` symbols. -/
theorem flatten_advance (scanned : Scanned fences sent state) (count : Nat) :
    sent.flatten ++ state.held.take count =
      state.accumulatedResponseText.take (state.cursor + count) := by
  rw [scanned.sent_flatten, State.held, List.take_add]

/-- Text in which no fence start can begin any more is sent. -/
theorem sendText (scanned : Scanned fences sent state) {count : Nat}
    (inHeld : count ≤ state.held.length)
    (clear : ∀ later, ∀ index < count, ¬fences.opening <+: (state.held ++ later).drop index)
    {insideToolCall : Bool}
    (inside : insideToolCall = true → fences.opening <+: state.held.drop count)
    {captures : Captures Symbol Message} :
    Scanned fences (sent ++ segments (captures.sendMessage (state.held.take count)))
      (state.advance count insideToolCall) := by
  have heldLength := state.length_held
  have cursorInside := scanned.cursor_le
  -- A segment by itself holds no fence start, so it is text.
  have noBlock : fences.firstBlock (state.held.take count) = none :=
    fences.firstBlock_of_unopened (firstIndex_take_of_clear fences.opening_nonempty
      (by simpa using clear []))
  refine ⟨?cursor, ?flatten, ?pieces, ?alone, by rw [State.held_advance]; exact inside⟩
  case cursor =>
      show state.cursor + count ≤ state.accumulatedResponseText.length
      omega
  case flatten =>
      show _ = state.accumulatedResponseText.take (state.cursor + count)
      rw [← scanned.flatten_advance, captures.segments_sendMessage]
      split
      · rename_i empty
        simp [empty]
      · simp
  case pieces =>
      intro later
      show mergeText (fences.pieces (state.accumulatedResponseText ++ later)) = _
      rw [scanned.samePieces later, State.held_advance, List.map_append, List.append_assoc]
      apply mergeText_append_congr
      have clearFront : ∀ index < (state.held.take count).length,
          ¬fences.opening <+: (state.held.take count ++ (state.held.drop count ++ later)).drop index := by
        intro index before
        rw [← List.append_assoc, List.take_append_drop]
        exact clear later index (by rw [List.length_take_of_le inHeld] at before; exact before)
      have sameText : state.held ++ later =
          state.held.take count ++ (state.held.drop count ++ later) := by
        rw [← List.append_assoc, List.take_append_drop]
      rw [sameText, fences.mergeText_pieces_append_of_clear clearFront,
        captures.segments_sendMessage]
      split
      · rename_i empty
        rw [empty, consPiece_text_nil]
        rfl
      · rw [List.map_singleton, fences.asPiece_of_none noBlock]
        rfl
  case alone =>
      intro segment member
      rw [captures.segments_sendMessage] at member
      split at member
      · rw [List.append_nil] at member
        exact scanned.alone segment member
      · rename_i nonempty
        cases List.mem_append.mp member with
        | inl before => exact scanned.alone segment before
        | inr new =>
            rw [List.mem_singleton.mp new]
            exact fences.mergeText_pieces_of_none noBlock nonempty

/-- A complete block at the front of the unsent text is sent. -/
theorem sendBlock (scanned : Scanned fences sent state) {length : Nat}
    (found : fences.firstBlock state.held = some (0, length))
    {captures : Captures Symbol Message} :
    Scanned fences (sent ++ segments (captures.sendMessage (state.held.take length)))
      (state.advance length false) := by
  have heldLength := state.length_held
  have cursorInside := scanned.cursor_le
  have bounds := fences.firstBlock_le found
  have nonempty : state.held.take length ≠ [] := by
    intro empty
    have noLength := congrArg List.length empty
    rw [List.length_take_of_le (by omega), List.length_nil] at noLength
    omega
  refine ⟨?cursor, ?flatten, ?pieces, ?alone, fun inside => by cases inside⟩
  case cursor =>
      show state.cursor + length ≤ state.accumulatedResponseText.length
      omega
  case flatten =>
      show _ = state.accumulatedResponseText.take (state.cursor + length)
      rw [← scanned.flatten_advance, captures.segments_sendMessage, if_neg nonempty]
      simp
  case pieces =>
      intro later
      show mergeText (fences.pieces (state.accumulatedResponseText ++ later)) = _
      rw [scanned.samePieces later, State.held_advance, List.map_append, List.append_assoc]
      apply mergeText_append_congr
      rw [fences.mergeText_pieces_append_of_block found, captures.segments_sendMessage,
        if_neg nonempty, List.map_singleton, fences.asPiece_take_of_block found]
      rfl
  case alone =>
      intro segment member
      rw [captures.segments_sendMessage, if_neg nonempty] at member
      cases List.mem_append.mp member with
      | inl before => exact scanned.alone segment before
      | inr new =>
          rw [List.mem_singleton.mp new]
          exact fences.mergeText_pieces_take_of_block found

end Scanned

/-! ## The loop -/

namespace Captures

variable (captures : Captures Symbol Message)

/-- A fence start in the unsent text. -/
theorem lookForFenceStart_of_some {state : State Symbol}
    (cursorInside : state.cursor ≤ state.accumulatedResponseText.length)
    (startNonempty : captures.codeFenceStart ≠ []) {offset : Nat}
    (found : firstIndex captures.codeFenceStart state.held = some offset) :
    captures.lookForFenceStart state =
      (state.advance offset true, captures.sendMessage (state.held.take offset), true) := by
  have atPosition : find state.accumulatedResponseText captures.codeFenceStart state.cursor =
      some (state.cursor + offset) :=
    find_eq_some_iff.mpr ⟨cursorInside, offset, found, rfl⟩
  simp only [lookForFenceStart, if_neg startNonempty, atPosition, Nat.add_sub_cancel_left]
  rfl

/-- No fence start in the unsent text: all of it is sent but a partial match at its end. -/
theorem lookForFenceStart_of_none {state : State Symbol}
    (cursorInside : state.cursor ≤ state.accumulatedResponseText.length)
    (outside : state.insideToolCall = false)
    (nowhere : firstIndex captures.codeFenceStart state.held = none) :
    captures.lookForFenceStart state =
      let kept := longestOverlap captures.codeFenceStart state.held
      (state.advance (state.held.length - kept) false,
        captures.sendMessage (state.held.take (state.held.length - kept)), decide (kept = 0)) := by
  have notFound : find state.accumulatedResponseText captures.codeFenceStart state.cursor = none :=
    (find_eq_none_iff cursorInside).mpr nowhere
  have keptInside := (longestOverlap_endsWithPrefix captures.codeFenceStart state.held).le_stream
  have heldLength := state.length_held
  have noPosition : (if captures.codeFenceStart = [] then none
      else find state.accumulatedResponseText captures.codeFenceStart state.cursor) = none := by
    split
    · rfl
    · exact notFound
  simp only [lookForFenceStart, noPosition, suffixPrefixOverlap_eq]
  show (if longestOverlap captures.codeFenceStart state.held > 0 then _ else _) = _
  split
  · rename_i positive
    have sameCursor : state.cursor +
          (state.held.length - longestOverlap captures.codeFenceStart state.held) =
        state.accumulatedResponseText.length -
          longestOverlap captures.codeFenceStart state.held := by
      omega
    simp only [State.advance, sameCursor, outside]
    have sameCount : state.accumulatedResponseText.length -
          longestOverlap captures.codeFenceStart state.held - state.cursor =
        state.held.length - longestOverlap captures.codeFenceStart state.held := by
      omega
    have notAll : decide (longestOverlap captures.codeFenceStart state.held = 0) = false := by
      simp only [decide_eq_false_iff_not]
      omega
    rw [notAll, ← sameCount]
    rfl
  · rename_i notPositive
    have noneKept : longestOverlap captures.codeFenceStart state.held = 0 := by omega
    have sameCursor : state.cursor + state.held.length = state.accumulatedResponseText.length := by
      omega
    simp only [noneKept, Nat.sub_zero, List.take_length, State.advance, sameCursor, outside]
    rfl

/-- A fence end in the unsent text after the fence start. -/
theorem lookForFenceEnd_of_some {state : State Symbol}
    (fits : captures.codeFenceStart.length ≤ state.held.length)
    (cursorInside : state.cursor ≤ state.accumulatedResponseText.length) {offset : Nat}
    (found : firstIndex captures.codeFenceEnd (state.held.drop captures.codeFenceStart.length) =
      some offset) :
    captures.lookForFenceEnd state =
      let length := captures.codeFenceStart.length + offset + captures.codeFenceEnd.length
      (state.advance length false, captures.sendMessage (state.held.take length), true) := by
  have heldLength := state.length_held
  have atPosition : find state.accumulatedResponseText captures.codeFenceEnd
      (state.cursor + captures.codeFenceStart.length) =
        some (state.cursor + captures.codeFenceStart.length + offset) := by
    apply find_eq_some_iff.mpr
    rw [State.held, List.drop_drop] at found
    exact ⟨by omega, offset, found, rfl⟩
  have sameEnd : state.cursor + captures.codeFenceStart.length + offset +
        captures.codeFenceEnd.length =
      state.cursor + (captures.codeFenceStart.length + offset + captures.codeFenceEnd.length) := by
    omega
  simp only [lookForFenceEnd, atPosition, sameEnd, Nat.add_sub_cancel_left]
  rfl

/-- No fence end yet. -/
theorem lookForFenceEnd_of_none {state : State Symbol}
    (fits : captures.codeFenceStart.length ≤ state.held.length)
    (cursorInside : state.cursor ≤ state.accumulatedResponseText.length)
    (unclosed : firstIndex captures.codeFenceEnd (state.held.drop captures.codeFenceStart.length) =
      none) :
    captures.lookForFenceEnd state = (state, [], false) := by
  have heldLength := state.length_held
  have notFound : find state.accumulatedResponseText captures.codeFenceEnd
      (state.cursor + captures.codeFenceStart.length) = none := by
    apply (find_eq_none_iff (by omega)).mpr
    rw [State.held, List.drop_drop] at unclosed
    exact unclosed
  simp only [lookForFenceEnd, notFound]

end Captures

section Loop

variable (captures : Captures Symbol Message) (startNonempty : captures.codeFenceStart ≠ [])
  (endNonempty : captures.codeFenceEnd ≠ [])

variable {sent : List (List Symbol)} {state : State Symbol}

/-- Everything that can be sent now has been sent: the rest holds no complete block. -/
structure Settled (fences : Fences Symbol) (sent : List (List Symbol)) (state : State Symbol) :
    Prop extends Scanned fences sent state where
  noBlock : fences.firstBlock state.held = none

/-- What an iteration does: it sends segments, and the loop goes on only when less
is left and stops only when no complete block is left. -/
structure Iteration (fences : Fences Symbol) (sent : List (List Symbol)) (state : State Symbol)
    (result : State Symbol × List (Effect Symbol Message) × Bool) : Prop where
  sameText : result.1.accumulatedResponseText = state.accumulatedResponseText
  scanned : Scanned fences (sent ++ segments result.2.1) result.1
  shrinks : result.2.2 = true → result.1.held.length < state.held.length
  settles : result.2.2 = false → fences.firstBlock result.1.held = none

/-- The second half of an iteration sends a block or finds that none is complete. -/
theorem Scanned.lookForFenceEnd
    (scanned : Scanned (captures.fences startNonempty endNonempty) sent state)
    (inside : state.insideToolCall = true) :
    Iteration (captures.fences startNonempty endNonempty) sent state
      (captures.lookForFenceEnd state) := by
  have opened := scanned.inside inside
  have fits : captures.codeFenceStart.length ≤ state.held.length := opened.length_le
  cases closed : firstIndex captures.codeFenceEnd
      (state.held.drop captures.codeFenceStart.length) with
  | some offset =>
      have found : (captures.fences startNonempty endNonempty).firstBlock state.held = some (0,
          captures.codeFenceStart.length + offset + captures.codeFenceEnd.length) := by
        apply (Fences.firstBlock_eq_some_iff _).mpr
        refine ⟨firstIndex_eq_some_iff.mpr ⟨Nat.zero_le _, opened, by simp⟩, offset, ?_, rfl⟩
        rw [Nat.zero_add]
        exact closed
      have bounds := (captures.fences startNonempty endNonempty).firstBlock_le found
      rw [captures.lookForFenceEnd_of_some fits scanned.cursor_le closed]
      refine ⟨rfl, scanned.sendBlock found, fun _ => ?_, by simp⟩
      rw [State.held_advance, List.length_drop]
      omega
  | none =>
      have unclosed := (captures.fences startNonempty endNonempty).firstBlock_of_unclosed opened closed
      rw [captures.lookForFenceEnd_of_none fits scanned.cursor_le closed]
      refine ⟨rfl, ?_, by simp, fun _ => unclosed⟩
      simpa [segments] using scanned

/-- Without a fence start an iteration sends all but what one may still begin with. -/
theorem Scanned.withoutFenceStart
    (scanned : Scanned (captures.fences startNonempty endNonempty) sent state)
    (unsent : state.held ≠ []) (outside : state.insideToolCall = false)
    (nowhere : firstIndex captures.codeFenceStart state.held = none) :
    Iteration (captures.fences startNonempty endNonempty) sent state
      (captures.lookForFenceStart state) := by
  have heldLength : 0 < state.held.length := List.length_pos_iff.mpr unsent
  have keptInside := (longestOverlap_endsWithPrefix captures.codeFenceStart state.held).le_stream
  have clear : ∀ later, ∀ index <
      state.held.length - longestOverlap captures.codeFenceStart state.held,
      ¬captures.codeFenceStart <+: (state.held ++ later).drop index := by
    intro later index before
    exact not_isPrefix_drop_append_of_lt nowhere later (by omega)
  rw [captures.lookForFenceStart_of_none scanned.cursor_le outside nowhere]
  refine ⟨rfl, scanned.sendText (Nat.sub_le _ _) clear (by simp), fun goesOn => ?_, fun _ => ?_⟩
  · rw [State.held_advance, List.length_drop]
    have noneKept := of_decide_eq_true goesOn
    omega
  · rw [State.held_advance]
    exact Fences.firstBlock_of_unopened _ (firstIndex_drop_of_none nowhere (Nat.sub_le _ _))

/-- One iteration. -/
theorem Scanned.scanOnce
    (scanned : Scanned (captures.fences startNonempty endNonempty) sent state)
    (unsent : state.held ≠ []) :
    Iteration (captures.fences startNonempty endNonempty) sent state
      (captures.scanOnce state) := by
  cases mode : state.insideToolCall with
  | true =>
      have second := scanned.lookForFenceEnd captures startNonempty endNonempty mode
      simpa [Captures.scanOnce, mode] using second
  | false =>
      cases found : firstIndex captures.codeFenceStart state.held with
      | none =>
          have first := scanned.withoutFenceStart captures startNonempty endNonempty unsent mode found
          have step := captures.lookForFenceStart_of_none scanned.cursor_le mode found
          rw [step] at first
          simpa [Captures.scanOnce, mode, step, State.advance] using first
      | some offset =>
          have step := captures.lookForFenceStart_of_some scanned.cursor_le startNonempty found
          obtain ⟨inHeld, opened, noneEarlier⟩ := firstIndex_eq_some_iff.mp found
          have clear : ∀ later, ∀ index < offset,
              ¬captures.codeFenceStart <+: (state.held ++ later).drop index := by
            intro later index before
            have still := firstIndex_append_of_some later found
            exact (firstIndex_eq_some_iff.mp still).2.2 index before
          have first : Scanned (captures.fences startNonempty endNonempty)
              (sent ++ segments (captures.sendMessage (state.held.take offset)))
              (state.advance offset true) :=
            scanned.sendText inHeld clear fun _ => opened
          have second := first.lookForFenceEnd captures startNonempty endNonempty rfl
          have shorter : (state.advance offset true).held.length ≤ state.held.length := by
            rw [State.held_advance, List.length_drop]
            omega
          simp only [Captures.scanOnce, mode, Bool.false_eq_true, if_false, step]
          refine ⟨second.sameText, ?_, fun goesOn => ?_, second.settles⟩
          · show Scanned _ (sent ++ segments (_ ++ _)) _
            rw [segments_append, ← List.append_assoc]
            exact second.scanned
          · exact (second.shrinks goesOn).trans_le shorter

theorem Scanned.settled_of_exhausted
    (scanned : Scanned (captures.fences startNonempty endNonempty) sent state)
    (exhausted : state.held = []) :
    Settled (captures.fences startNonempty endNonempty) sent state := by
  refine ⟨scanned, ?_⟩
  rw [exhausted]
  apply Fences.firstBlock_of_unopened
  simp [firstIndex, (captures.fences startNonempty endNonempty).opening_nonempty]

/-- The loop ends, and it leaves nothing that can be sent. -/
theorem Scanned.scan {fuel : Nat}
    (scanned : Scanned (captures.fences startNonempty endNonempty) sent state)
    (enough : state.held.length < fuel) :
    ∃ settledState effects, captures.scan fuel state = some (settledState, effects) ∧
      settledState.accumulatedResponseText = state.accumulatedResponseText ∧
      Settled (captures.fences startNonempty endNonempty) (sent ++ segments effects)
        settledState := by
  induction fuel generalizing sent state with
  | zero => omega
  | succ fuel hypothesis =>
      have heldLength := state.length_held
      unfold Captures.scan
      split
      · have unsent : state.held ≠ [] := by
          intro empty
          rw [empty, List.length_nil] at heldLength
          omega
        have iteration := scanned.scanOnce captures startNonempty endNonempty unsent
        cases once : captures.scanOnce state with
        | mk next rest =>
            obtain ⟨effects, goesOn⟩ := rest
            rw [once] at iteration
            cases goesOn with
            | false =>
                exact ⟨next, effects, rfl, iteration.sameText, iteration.scanned,
                  iteration.settles rfl⟩
            | true =>
                have shrinks : next.held.length < state.held.length := iteration.shrinks rfl
                obtain ⟨settledState, later, ran, sameText, settled⟩ :=
                  hypothesis iteration.scanned (shrinks.trans_le (Nat.le_of_lt_succ enough))
                refine ⟨settledState, effects ++ later, by simp [ran], ?_, ?_⟩
                · rw [sameText]
                  exact iteration.sameText
                · rw [segments_append, ← List.append_assoc]
                  exact settled
      · have exhausted : state.held = [] := List.drop_eq_nil_of_le (by omega)
        refine ⟨state, [], rfl, rfl, ?_⟩
        rw [segments, List.append_nil]
        exact scanned.settled_of_exhausted captures startNonempty endNonempty exhausted

end Loop

/-! ## Calls and runs -/

/-- The text a call adds. -/
def receivedText : StatusOr (Update Symbol) → List Symbol
  | .ok ⟨.processing, text :: _⟩ => text
  | _ => []

/-- The responses that complete the message. -/
def completes : StatusOr (Update Symbol) → Bool
  | .ok ⟨.done, _⟩ | .ok ⟨.maxNumTokensReached, _⟩ => true
  | _ => false

section Run

variable (captures : Captures Symbol Message) (startNonempty : captures.codeFenceStart ≠ [])
  (endNonempty : captures.codeFenceEnd ≠ [])

variable {sent : List (List Symbol)} {state : State Symbol}

/-- More text arrives. -/
theorem Scanned.receive {fences : Fences Symbol} (scanned : Scanned fences sent state)
    (text : List Symbol) :
    Scanned fences sent
      { state with accumulatedResponseText := state.accumulatedResponseText ++ text } := by
  have cursorInside := scanned.cursor_le
  have heldAppend :
      State.held { state with accumulatedResponseText := state.accumulatedResponseText ++ text } =
        state.held ++ text := List.drop_append_of_le_length cursorInside
  refine ⟨?cursor, ?flatten, ?pieces, scanned.alone, ?inside⟩
  case cursor =>
      show state.cursor ≤ (state.accumulatedResponseText ++ text).length
      rw [List.length_append]
      omega
  case flatten =>
      show _ = (state.accumulatedResponseText ++ text).take state.cursor
      rw [List.take_append_of_le_length cursorInside]
      exact scanned.sent_flatten
  case pieces =>
      intro later
      rw [heldAppend, List.append_assoc, List.append_assoc]
      exact scanned.samePieces (text ++ later)
  case inside =>
      intro inside
      rw [heldAppend]
      exact (scanned.inside inside).trans (List.prefix_append _ _)

/-- A call that does not complete the message returns, and it sends all it can. -/
theorem Settled.call (settled : Settled (captures.fences startNonempty endNonempty) sent state)
    {responses : StatusOr (Update Symbol)} (goesOn : completes responses = false) :
    ∃ next effects, captures.call state responses = some (next, effects) ∧
      next.accumulatedResponseText =
        state.accumulatedResponseText ++ receivedText responses ∧
      Settled (captures.fences startNonempty endNonempty) (sent ++ segments effects) next := by
  -- A call that only reports keeps the state and sends nothing.
  have reportOnly : ∀ effects : List (Effect Symbol Message), segments effects = [] →
      captures.call state responses = some (state, effects) → receivedText responses = [] →
      ∃ next effects, captures.call state responses = some (next, effects) ∧
        next.accumulatedResponseText =
          state.accumulatedResponseText ++ receivedText responses ∧
        Settled (captures.fences startNonempty endNonempty) (sent ++ segments effects) next := by
    intro effects noSegments called noText
    refine ⟨state, effects, called, by rw [noText, List.append_nil], ?_⟩
    rw [noSegments, List.append_nil]
    exact settled
  match responses with
  | .error status =>
      apply reportOnly _ _ rfl rfl
      split <;> rfl
  | .ok ⟨.processing, text :: texts⟩ =>
      have received := settled.toScanned.receive text
      apply received.scan captures startNonempty endNonempty
      rw [State.length_held]
      exact Nat.lt_succ_of_le (Nat.sub_le _ _)
  | .ok ⟨.processing, []⟩ | .ok ⟨.unknown, _⟩ | .ok ⟨.created, _⟩ | .ok ⟨.queued, _⟩
  | .ok ⟨.failed, _⟩ | .ok ⟨.dependentTaskFailed, _⟩ => exact reportOnly [] rfl rfl rfl
  | .ok ⟨.done, _⟩ | .ok ⟨.maxNumTokensReached, _⟩ => cases goesOn

/-- The calls of a run up to its completion. -/
theorem Settled.run (settled : Settled (captures.fences startNonempty endNonempty) sent state)
    {calls : List (StatusOr (Update Symbol))}
    (goOn : ∀ responses ∈ calls, completes responses = false) :
    ∃ final effects, captures.run state calls = some (final, effects) ∧
      final.accumulatedResponseText =
        state.accumulatedResponseText ++ calls.flatMap receivedText ∧
      Settled (captures.fences startNonempty endNonempty) (sent ++ segments effects) final := by
  induction calls generalizing sent state with
  | nil => exact ⟨state, [], rfl, by simp, by simpa [segments] using settled⟩
  | cons responses later hypothesis =>
      obtain ⟨next, effects, called, sameText, settledNext⟩ :=
        settled.call captures startNonempty endNonempty (goOn responses List.mem_cons_self)
      obtain ⟨final, effectsLater, ran, sameTextLater, settledFinal⟩ :=
        hypothesis settledNext fun responses member => goOn responses (List.mem_cons_of_mem _ member)
      refine ⟨final, effects ++ effectsLater, by simp [Captures.run, called, ran], ?_, ?_⟩
      · rw [sameTextLater, sameText, List.flatMap_cons, List.append_assoc]
      · rw [segments_append, ← List.append_assoc]
        exact settledFinal

/-- The whole text, once everything that can be sent has been. -/
theorem Settled.mergeText_pieces {fences : Fences Symbol} (settled : Settled fences sent state) :
    mergeText (fences.pieces state.accumulatedResponseText) =
      mergeText (sent.map fences.asPiece ++ [.text state.held]) := by
  have same := settled.samePieces []
  rw [List.append_nil, List.append_nil, fences.pieces_of_none settled.noBlock] at same
  exact same

/-- The blocks sent are the blocks received. -/
theorem Settled.filter_isBlock {fences : Fences Symbol} (settled : Settled fences sent state) :
    (sent.map fences.asPiece).filter Piece.isBlock =
      (fences.pieces state.accumulatedResponseText).filter Piece.isBlock := by
  rw [← filter_isBlock_mergeText (fences.pieces _), settled.mergeText_pieces,
    filter_isBlock_mergeText, List.filter_append]
  exact (List.append_nil _).symm

/-- What is sent when the message is complete: the rest. -/
theorem segments_sendCompleteMessage :
    segments (captures.sendCompleteMessage state) =
      if state.held = [] then [] else [state.held] := by
  have restSent : segments (if state.cursor < state.accumulatedResponseText.length then
      captures.sendMessage (state.accumulatedResponseText.drop state.cursor) else []) =
        if state.held = [] then [] else [state.held] := by
    split
    · exact captures.segments_sendMessage state.held
    · rename_i exhausted
      rw [if_pos (show state.held = [] from List.drop_eq_nil_of_le (by omega))]
      rfl
  unfold Captures.sendCompleteMessage
  cases captures.toMessage state.accumulatedResponseText with
  | error status => simp [restSent, segments]
  | ok message =>
      dsimp only
      split <;> simp [restSent, segments]

theorem call_of_completes {last : StatusOr (Update Symbol)} (isLast : completes last = true) :
    captures.call state last = some (state, captures.sendCompleteMessage state) := by
  match last with
  | .ok ⟨.done, _⟩ | .ok ⟨.maxNumTokensReached, _⟩ => rfl
  | .error _ | .ok ⟨.processing, _⟩ | .ok ⟨.unknown, _⟩ | .ok ⟨.created, _⟩ | .ok ⟨.queued, _⟩
  | .ok ⟨.failed, _⟩ | .ok ⟨.dependentTaskFailed, _⟩ => cases isLast

theorem run_append_singleton {calls : List (StatusOr (Update Symbol))}
    {last : StatusOr (Update Symbol)} {final next : State Symbol}
    {effects effectsLast : List (Effect Symbol Message)}
    (ran : captures.run state calls = some (final, effects))
    (called : captures.call final last = some (next, effectsLast)) :
    captures.run state (calls ++ [last]) = some (next, effects ++ effectsLast) := by
  induction calls generalizing state effects with
  | nil =>
      cases ran
      simp [Captures.run, called]
  | cons responses later hypothesis =>
      simp only [Captures.run, Option.bind_eq_bind, Option.bind_eq_some_iff, Option.pure_def,
        Option.some.injEq, Prod.mk.injEq, Prod.exists] at ran
      obtain ⟨between, effectsFirst, first, final', effectsLater, ranLater, rfl, rfl⟩ := ran
      simp [Captures.run, first, hypothesis ranLater]

/-- The segments of a complete message are the whole text. -/
theorem Settled.flatten_complete {fences : Fences Symbol} (settled : Settled fences sent state) :
    (sent ++ segments (captures.sendCompleteMessage state)).flatten =
      state.accumulatedResponseText := by
  have whole : state.accumulatedResponseText.take state.cursor ++ state.held =
      state.accumulatedResponseText := List.take_append_drop _ _
  rw [List.flatten_append, settled.sent_flatten, segments_sendCompleteMessage]
  split
  · rename_i exhausted
    rw [exhausted] at whole
    exact whole
  · rw [List.flatten_singleton]
    exact whole

/-- Merged, they are the pieces of the whole text. -/
theorem Settled.mergeText_complete {fences : Fences Symbol} (settled : Settled fences sent state) :
    mergeText ((sent ++ segments (captures.sendCompleteMessage state)).map fences.asPiece) =
      mergeText (fences.pieces state.accumulatedResponseText) := by
  rw [settled.mergeText_pieces, List.map_append, segments_sendCompleteMessage]
  apply mergeText_append_congr
  split
  · rename_i exhausted
    rw [exhausted]
    rfl
  · rw [List.map_singleton, fences.asPiece_of_none settled.noBlock]

/-- Each of them is a block alone or text without one. -/
theorem Settled.alone_complete {fences : Fences Symbol} (settled : Settled fences sent state) :
    ∀ segment ∈ sent ++ segments (captures.sendCompleteMessage state),
      mergeText (fences.pieces segment) = [fences.asPiece segment] := by
  intro segment member
  rw [segments_sendCompleteMessage] at member
  cases List.mem_append.mp member with
  | inl before => exact settled.alone segment before
  | inr last =>
      split at last
      · cases last
      · rename_i nonempty
        rw [List.mem_singleton.mp last]
        exact fences.mergeText_pieces_of_none settled.noBlock nonempty

/-- A run up to the end of the message. -/
theorem run_complete {calls : List (StatusOr (Update Symbol))}
    (goOn : ∀ responses ∈ calls, completes responses = false)
    {last : StatusOr (Update Symbol)} (isLast : completes last = true) :
    ∃ final effects,
      captures.run {} calls = some (final, effects) ∧
      captures.run {} (calls ++ [last]) =
        some (final, effects ++ captures.sendCompleteMessage final) ∧
      final.accumulatedResponseText = calls.flatMap receivedText ∧
      Settled (captures.fences startNonempty endNonempty) (segments effects) final := by
  have start : Settled (captures.fences startNonempty endNonempty) [] {} :=
    (scanned_start _).settled_of_exhausted captures startNonempty endNonempty rfl
  obtain ⟨final, effects, ran, sameText, settled⟩ :=
    start.run captures startNonempty endNonempty goOn
  exact ⟨final, effects, ran, run_append_singleton captures ran (call_of_completes captures isLast),
    sameText, settled⟩

/-- The segments of a whole run are the text received, cut into the blocks of that text
and the text around them however the text arrived. Before the end, every block that is
complete has been sent. -/
theorem streaming_segmentation {calls : List (StatusOr (Update Symbol))}
    (goOn : ∀ responses ∈ calls, completes responses = false)
    {last : StatusOr (Update Symbol)} (isLast : completes last = true) :
    let fences := captures.fences startNonempty endNonempty
    let text := calls.flatMap receivedText
    ∃ final effects effectsLast,
      captures.run {} calls = some (final, effects) ∧
      captures.run {} (calls ++ [last]) = some (final, effects ++ effectsLast) ∧
      (segments effects).flatten <+: text ∧
      ((segments effects).map fences.asPiece).filter Piece.isBlock =
        (fences.pieces text).filter Piece.isBlock ∧
      (segments (effects ++ effectsLast)).flatten = text ∧
      (∀ segment ∈ segments (effects ++ effectsLast),
        mergeText (fences.pieces segment) = [fences.asPiece segment]) ∧
      mergeText ((segments (effects ++ effectsLast)).map fences.asPiece) =
        mergeText (fences.pieces text) := by
  intro fences text
  obtain ⟨final, effects, ran, ranLast, sameText, settled⟩ :=
    run_complete captures startNonempty endNonempty goOn isLast
  refine ⟨final, effects, captures.sendCompleteMessage final, ran, ranLast, ?_⟩
  rw [segments_append]
  show _ <+: calls.flatMap receivedText ∧
    _ = (fences.pieces (calls.flatMap receivedText)).filter Piece.isBlock ∧
    _ = calls.flatMap receivedText ∧ _ ∧
    _ = mergeText (fences.pieces (calls.flatMap receivedText))
  rw [← sameText]
  refine ⟨?_, settled.filter_isBlock, settled.flatten_complete captures,
    settled.alone_complete captures, settled.mergeText_complete captures⟩
  rw [settled.sent_flatten]
  exact List.take_prefix _ _

end Run

section Angles

/-- A fence start that overlaps itself. -/
private def angles : Captures Char (List Char) where
  toMessage := .ok
  codeFenceStart := ['<', '<']
  codeFenceEnd := ['>', '>']
  hasCancelCallback := false
  hasCompleteMessageCallback := true

/-- The fence start is split, an empty text comes between, and a block is left open. -/
private def angleChunks : List (StatusOr (Update Char)) :=
  [.ok ⟨.processing, [['a', '<']]⟩, .ok ⟨.processing, []⟩, .ok ⟨.processing, [['<', 'b', '>']]⟩,
    .ok ⟨.processing, [[]]⟩, .ok ⟨.processing, [['>', '<', '<']]⟩]

theorem streaming_segmentation_angles :
    ∃ final effects effectsLast,
      angles.run {} angleChunks = some (final, effects) ∧
      angles.run {} (angleChunks ++ [.ok ⟨.done, []⟩]) = some (final, effects ++ effectsLast) ∧
      (segments effects).flatten <+: "a<<b>><<".toList ∧
      ((segments effects).map (angles.fences (by decide) (by decide)).asPiece).filter
          Piece.isBlock =
        ((angles.fences (by decide) (by decide)).pieces "a<<b>><<".toList).filter Piece.isBlock ∧
      (segments (effects ++ effectsLast)).flatten = "a<<b>><<".toList ∧
      (∀ segment ∈ segments (effects ++ effectsLast),
        mergeText ((angles.fences (by decide) (by decide)).pieces segment) =
          [(angles.fences (by decide) (by decide)).asPiece segment]) ∧
      mergeText ((segments (effects ++ effectsLast)).map
          (angles.fences (by decide) (by decide)).asPiece) =
        mergeText ((angles.fences (by decide) (by decide)).pieces "a<<b>><<".toList) :=
  streaming_segmentation angles (by decide) (by decide) (by decide) rfl

end Angles

end LiteRTLM.Conversation.InternalCallback
