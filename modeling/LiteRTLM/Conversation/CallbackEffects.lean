import LiteRTLM.Conversation.StreamSegmentation

/-!
Contract: what the calls of the callback do to the outside.

Owns: the results of the segments of a run, the effects of calls before and at the end
of a message, and the end of the loop whatever the fences are.

Does not own: the segmentation of the text.
-/

namespace LiteRTLM.Conversation.InternalCallback

open LiteRTLM.Engine
open LiteRTLM.Library.FencedText

variable {Symbol Message : Type}

/-- What `ToMessage` gave for the segments, in order. -/
def streamedResults : List (Effect Symbol Message) → List (StatusOr Message)
  | [] => []
  | .segment _ result :: effects => result :: streamedResults effects
  | _ :: effects => streamedResults effects

/-- The messages passed to `complete_message_callback`. -/
def completeMessages : List (Effect Symbol Message) → List Message
  | [] => []
  | .completeMessageCallback message :: effects => message :: completeMessages effects
  | _ :: effects => completeMessages effects

/-- The effects of the calls before the message is complete. -/
def Captures.Streams (captures : Captures Symbol Message) : Effect Symbol Message → Prop
  | .segment text result => result = captures.toMessage text
  | .userError _ | .cancelCallback => True
  | .completeMessageCallback _ | .inferenceDone => False

theorem streamedResults_eq {captures : Captures Symbol Message}
    {effects : List (Effect Symbol Message)} (stream : ∀ effect ∈ effects, captures.Streams effect) :
    streamedResults effects = (segments effects).map captures.toMessage := by
  induction effects with
  | nil => rfl
  | cons effect effects hypothesis =>
      have later := hypothesis fun effect member => stream effect (List.mem_cons_of_mem _ member)
      have here := stream effect List.mem_cons_self
      cases effect with
      | segment text result =>
          cases here
          simp [streamedResults, segments, later]
      | _ => exact later

theorem completeMessages_eq_nil {captures : Captures Symbol Message}
    {effects : List (Effect Symbol Message)} (stream : ∀ effect ∈ effects, captures.Streams effect) :
    completeMessages effects = [] := by
  induction effects with
  | nil => rfl
  | cons effect effects hypothesis =>
      have later := hypothesis fun effect member => stream effect (List.mem_cons_of_mem _ member)
      have here := stream effect List.mem_cons_self
      cases effect with
      | completeMessageCallback message => exact here.elim
      | _ => exact later

theorem streamedResults_append (first second : List (Effect Symbol Message)) :
    streamedResults (first ++ second) = streamedResults first ++ streamedResults second := by
  induction first with
  | nil => rfl
  | cons effect effects hypothesis => cases effect <;> simp [streamedResults, hypothesis]

theorem completeMessages_append (first second : List (Effect Symbol Message)) :
    completeMessages (first ++ second) = completeMessages first ++ completeMessages second := by
  induction first with
  | nil => rfl
  | cons effect effects hypothesis => cases effect <;> simp [completeMessages, hypothesis]

/-- A segment and what `ToMessage` makes of it. -/
def Captures.IsSegment (captures : Captures Symbol Message) : Effect Symbol Message → Prop
  | .segment text result => result = captures.toMessage text
  | _ => False

theorem Captures.IsSegment.streams {captures : Captures Symbol Message}
    {effect : Effect Symbol Message} (isSegment : captures.IsSegment effect) :
    captures.Streams effect := by
  cases effect with
  | segment text result => exact isSegment
  | _ => exact isSegment.elim

section Segments

variable [DecidableEq Symbol] (captures : Captures Symbol Message)

theorem isSegment_sendMessage (text : List Symbol) :
    ∀ effect ∈ captures.sendMessage text, captures.IsSegment effect := by
  intro effect member
  unfold Captures.sendMessage at member
  split at member
  · cases member
  · rw [List.mem_singleton.mp member]
    exact rfl

theorem isSegment_lookForFenceStart (state : State Symbol) :
    ∀ effect ∈ (captures.lookForFenceStart state).2.1, captures.IsSegment effect := by
  unfold Captures.lookForFenceStart
  dsimp only
  split
  · exact isSegment_sendMessage captures _
  · split
    · exact isSegment_sendMessage captures _
    · exact isSegment_sendMessage captures _

theorem isSegment_lookForFenceEnd (state : State Symbol) :
    ∀ effect ∈ (captures.lookForFenceEnd state).2.1, captures.IsSegment effect := by
  unfold Captures.lookForFenceEnd
  dsimp only
  split
  · exact isSegment_sendMessage captures _
  · simp

theorem isSegment_scanOnce (state : State Symbol) :
    ∀ effect ∈ (captures.scanOnce state).2.1, captures.IsSegment effect := by
  cases mode : state.insideToolCall with
  | true =>
      have second := isSegment_lookForFenceEnd captures state
      simpa [Captures.scanOnce, mode] using second
  | false =>
      have first := isSegment_lookForFenceStart captures state
      have second := isSegment_lookForFenceEnd captures (captures.lookForFenceStart state).1
      simp only [Captures.scanOnce, mode, Bool.false_eq_true, if_false]
      split
      · exact List.forall_mem_append.mpr ⟨first, second⟩
      · exact first

/-- The loop only sends segments. -/
theorem isSegment_scan {fuel : Nat} {state next : State Symbol}
    {effects : List (Effect Symbol Message)}
    (ran : captures.scan fuel state = some (next, effects)) :
    ∀ effect ∈ effects, captures.IsSegment effect := by
  induction fuel generalizing state effects with
  | zero => cases ran
  | succ fuel hypothesis =>
      have once := isSegment_scanOnce captures state
      unfold Captures.scan at ran
      split at ran
      · split at ran
        · rename_i sent found
          rw [found] at once
          cases ran
          exact once
        · rename_i sent found
          rw [found] at once
          obtain ⟨⟨later, sentLater⟩, ranLater, same⟩ := Option.map_eq_some_iff.mp ran
          cases same
          exact List.forall_mem_append.mpr ⟨once, hypothesis ranLater⟩
      · cases ran
        simp

/-- So does a call with responses that do not complete the message. -/
theorem isSegment_call {state next : State Symbol} {update : Update Symbol}
    {effects : List (Effect Symbol Message)} (goesOn : completes (.ok update) = false)
    (called : captures.call state (.ok update) = some (next, effects)) :
    ∀ effect ∈ effects, captures.IsSegment effect := by
  match update with
  | ⟨.processing, text :: texts⟩ => exact isSegment_scan captures called
  | ⟨.processing, []⟩ | ⟨.unknown, _⟩ | ⟨.created, _⟩ | ⟨.queued, _⟩ | ⟨.failed, _⟩
  | ⟨.dependentTaskFailed, _⟩ =>
      cases called
      simp
  | ⟨.done, _⟩ | ⟨.maxNumTokensReached, _⟩ => cases goesOn

end Segments

section Streams

variable [DecidableEq Symbol] (captures : Captures Symbol Message)

theorem streams_call {state next : State Symbol} {responses : StatusOr (Update Symbol)}
    {effects : List (Effect Symbol Message)} (goesOn : completes responses = false)
    (called : captures.call state responses = some (next, effects)) :
    ∀ effect ∈ effects, captures.Streams effect := by
  cases responses with
  | error status =>
      cases called
      rw [List.forall_mem_append]
      constructor
      · split
        · simp [Captures.Streams]
        · simp
      · simp [Captures.Streams]
  | ok update =>
      intro effect member
      exact (isSegment_call captures goesOn called effect member).streams

theorem streams_run {state final : State Symbol} {calls : List (StatusOr (Update Symbol))}
    {effects : List (Effect Symbol Message)}
    (goOn : ∀ responses ∈ calls, completes responses = false)
    (ran : captures.run state calls = some (final, effects)) :
    ∀ effect ∈ effects, captures.Streams effect := by
  induction calls generalizing state effects with
  | nil =>
      cases ran
      simp
  | cons responses later hypothesis =>
      simp only [Captures.run, Option.bind_eq_bind, Option.bind_eq_some_iff, Option.pure_def,
        Option.some.injEq, Prod.mk.injEq, Prod.exists] at ran
      obtain ⟨between, effectsFirst, first, final', effectsLater, ranLater, rfl, rfl⟩ := ran
      rw [List.forall_mem_append]
      constructor
      · exact streams_call captures (goOn responses List.mem_cons_self) first
      · exact hypothesis (fun responses member => goOn responses (List.mem_cons_of_mem _ member))
          ranLater

theorem streams_sendMessage (text : List Symbol) :
    ∀ effect ∈ captures.sendMessage text, captures.Streams effect :=
  fun effect member => (isSegment_sendMessage captures text effect member).streams

/-- The last call, when the complete message is parsed. -/
theorem sendCompleteMessage_of_ok {state : State Symbol} {message : Message}
    (parsed : captures.toMessage state.accumulatedResponseText = .ok message) :
    captures.sendCompleteMessage state =
      captures.sendMessage state.held ++
        ((if captures.hasCompleteMessageCallback then [.completeMessageCallback message] else []) ++
          [.inferenceDone]) := by
  have rest : (if state.cursor < state.accumulatedResponseText.length then
      captures.sendMessage (state.accumulatedResponseText.drop state.cursor) else []) =
        captures.sendMessage state.held := by
    split
    · rfl
    · rename_i exhausted
      rw [show state.held = [] from List.drop_eq_nil_of_le (by omega)]
      rfl
  rw [Captures.sendCompleteMessage, parsed]
  dsimp only
  rw [rest]
  split <;> rfl

/-- All results of a run whose complete message is parsed are those of its segments. -/
theorem streamedResults_complete {state : State Symbol} {message : Message}
    {effects : List (Effect Symbol Message)} (stream : ∀ effect ∈ effects, captures.Streams effect)
    (parsed : captures.toMessage state.accumulatedResponseText = .ok message) :
    streamedResults (effects ++ captures.sendCompleteMessage state) =
      (segments effects ++ segments (captures.sendCompleteMessage state)).map
        captures.toMessage := by
  have sent := streamedResults_eq (List.forall_mem_append.mpr
    ⟨stream, streams_sendMessage captures state.held⟩)
  rw [streamedResults_append, segments_append] at sent
  rw [sendCompleteMessage_of_ok captures parsed, streamedResults_append, streamedResults_append,
    segments_append, ← List.append_assoc, ← List.append_assoc, sent, List.map_append]
  split <;> simp [streamedResults, segments]

/-- The complete message is passed on once. -/
theorem completeMessages_complete {state : State Symbol} {message : Message}
    {effects : List (Effect Symbol Message)} (stream : ∀ effect ∈ effects, captures.Streams effect)
    (parsed : captures.toMessage state.accumulatedResponseText = .ok message) :
    completeMessages (effects ++ captures.sendCompleteMessage state) =
      if captures.hasCompleteMessageCallback then [message] else [] := by
  rw [sendCompleteMessage_of_ok captures parsed, completeMessages_append, completeMessages_append,
    completeMessages_eq_nil stream,
    completeMessages_eq_nil (streams_sendMessage captures state.held)]
  split <;> rfl

end Streams

/-! ## The end of the loop

The loop ends for every fence strings, also for the empty ones of a processor without
tool calls: it enters a tool call only at a fence start that is not empty. -/

section Ends

variable [DecidableEq Symbol] (captures : Captures Symbol Message)

/-- What holds whenever the loop condition is evaluated. -/
structure Reading (state : State Symbol) : Prop where
  cursor_le : state.cursor ≤ state.accumulatedResponseText.length
  startNonempty : state.insideToolCall = true → captures.codeFenceStart ≠ []

/-- An iteration keeps the text, and the loop goes on only when the cursor moved. -/
structure Moves (state : State Symbol)
    (result : State Symbol × List (Effect Symbol Message) × Bool) : Prop where
  reading : Reading captures result.1
  sameText : result.1.accumulatedResponseText = state.accumulatedResponseText
  moves : result.2.2 = true → state.cursor < result.1.cursor

theorem Reading.lookForFenceEnd {state : State Symbol} (reading : Reading captures state)
    (inside : state.insideToolCall = true) :
    Moves captures state (captures.lookForFenceEnd state) := by
  have startLength := List.length_pos_iff.mpr (reading.startNonempty inside)
  unfold Captures.lookForFenceEnd
  dsimp only
  split
  · rename_i codeFenceEndPos found
    obtain ⟨fits, offset, first, rfl⟩ := find_eq_some_iff.mp found
    have inRest := firstIndex_add_le first
    rw [List.length_drop] at inRest
    refine ⟨⟨?_, by simp⟩, rfl, fun _ => ?_⟩
    · dsimp only
      omega
    · dsimp only
      omega
  · exact ⟨reading, rfl, by simp⟩

theorem Reading.scanOnce {state : State Symbol} (reading : Reading captures state)
    (unread : state.cursor < state.accumulatedResponseText.length) :
    Moves captures state (captures.scanOnce state) := by
  cases mode : state.insideToolCall with
  | true =>
      have second := reading.lookForFenceEnd captures mode
      simpa [Captures.scanOnce, mode] using second
  | false =>
      simp only [Captures.scanOnce, mode, Bool.false_eq_true, if_false, Captures.lookForFenceStart]
      split
      · rename_i codeFenceStartPos found
        split at found
        · cases found
        · rename_i startNonempty
          obtain ⟨fits, offset, first, rfl⟩ := find_eq_some_iff.mp found
          have inRest := firstIndex_add_le first
          rw [List.length_drop] at inRest
          have opened : Reading captures
              { state with cursor := state.cursor + offset, insideToolCall := true } :=
            ⟨by dsimp only; omega, fun _ => startNonempty⟩
          have second := opened.lookForFenceEnd captures rfl
          refine ⟨second.reading, second.sameText, fun goesOn => ?_⟩
          exact lt_of_le_of_lt (Nat.le_add_right _ _) (second.moves goesOn)
      · split
        · exact ⟨⟨Nat.sub_le _ _, by simp⟩, rfl, by simp⟩
        · exact ⟨⟨Nat.le_refl _, by simp⟩, rfl, fun _ => unread⟩

theorem Reading.scan {fuel : Nat} {state : State Symbol} (reading : Reading captures state)
    (enough : state.accumulatedResponseText.length - state.cursor < fuel) :
    ∃ next effects, captures.scan fuel state = some (next, effects) ∧ Reading captures next ∧
      next.accumulatedResponseText = state.accumulatedResponseText := by
  induction fuel generalizing state with
  | zero => omega
  | succ fuel hypothesis =>
      unfold Captures.scan
      split
      · rename_i unread
        have once := reading.scanOnce captures unread
        cases iteration : captures.scanOnce state with
        | mk next rest =>
            obtain ⟨effects, goesOn⟩ := rest
            rw [iteration] at once
            cases goesOn with
            | false => exact ⟨next, effects, rfl, once.reading, once.sameText⟩
            | true =>
                have moved : state.cursor < next.cursor := once.moves rfl
                have sameText : next.accumulatedResponseText = state.accumulatedResponseText :=
                  once.sameText
                have readingNext : Reading captures next := once.reading
                obtain ⟨final, later, ran, readingFinal, sameFinal⟩ :=
                  hypothesis readingNext (by rw [sameText]; omega)
                exact ⟨final, effects ++ later, by simp [ran], readingFinal,
                  sameFinal.trans sameText⟩
      · exact ⟨state, [], rfl, reading, rfl⟩

/-- A call with responses that do not complete the message returns. -/
theorem Reading.call {state : State Symbol} (reading : Reading captures state)
    {update : Update Symbol} (goesOn : completes (.ok update) = false) :
    ∃ next effects, captures.call state (.ok update) = some (next, effects) ∧
      Reading captures next ∧
      next.accumulatedResponseText =
        state.accumulatedResponseText ++ receivedText (.ok update) := by
  match update with
  | ⟨.processing, text :: texts⟩ =>
      have cursorInside := reading.cursor_le
      have received : Reading captures
          { state with accumulatedResponseText := state.accumulatedResponseText ++ text } :=
        ⟨by dsimp only; rw [List.length_append]; omega, reading.startNonempty⟩
      exact received.scan captures (by dsimp only; omega)
  | ⟨.processing, []⟩ | ⟨.unknown, _⟩ | ⟨.created, _⟩ | ⟨.queued, _⟩ | ⟨.failed, _⟩
  | ⟨.dependentTaskFailed, _⟩ => exact ⟨state, [], rfl, reading, (List.append_nil _).symm⟩
  | ⟨.done, _⟩ | ⟨.maxNumTokensReached, _⟩ => cases goesOn

omit [DecidableEq Symbol] in
theorem reading_start : Reading captures {} := ⟨Nat.le_refl 0, by simp⟩

/-- So does a run of such calls, and it only sends segments. -/
theorem Reading.run {state : State Symbol} (reading : Reading captures state)
    {updates : List (Update Symbol)} (goOn : ∀ update ∈ updates, completes (.ok update) = false) :
    ∃ final effects, captures.run state (updates.map .ok) = some (final, effects) ∧
      final.accumulatedResponseText =
        state.accumulatedResponseText ++ (updates.map .ok).flatMap receivedText ∧
      ∀ effect ∈ effects, captures.IsSegment effect := by
  induction updates generalizing state with
  | nil => exact ⟨state, [], rfl, (List.append_nil _).symm, by simp⟩
  | cons update later hypothesis =>
      obtain ⟨next, effects, called, readingNext, sameText⟩ :=
        reading.call captures (goOn update List.mem_cons_self)
      obtain ⟨final, effectsLater, ran, sameLater, onlySegments⟩ :=
        hypothesis readingNext fun update member => goOn update (List.mem_cons_of_mem _ member)
      refine ⟨final, effects ++ effectsLater, by simp [Captures.run, called, ran], ?_, ?_⟩
      · rw [sameLater, sameText, List.map_cons, List.flatMap_cons, List.append_assoc]
      · exact List.forall_mem_append.mpr
          ⟨isSegment_call captures (goOn update List.mem_cons_self) called, onlySegments⟩

end Ends

end LiteRTLM.Conversation.InternalCallback

