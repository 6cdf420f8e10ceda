import LiteRTLM.Engine.IoTypes
import LiteRTLM.Library.FencedText

/-!
Contract: `CreateInternalCallback`, which turns the responses of a session into the
messages of a conversation while they arrive.

Owns: the state the callback captures, `SuffixPrefixOverlap`, `SendMessage`,
`SendCompleteMessage`, the loop over the unsent text, and a run of the callback.

Does not own: `ToMessage`, and what the user, cancel and complete-message callbacks
do; a call of one of them is an effect.
-/

namespace LiteRTLM.Conversation.InternalCallback

open LiteRTLM.Engine
open LiteRTLM.Library.FencedText

variable {Symbol Message : Type}

/-- What the callback reads of `Responses`; a text is the sequence of its bytes. -/
structure Update (Symbol : Type) where
  taskState : TaskState
  texts : List (List Symbol) := []
deriving DecidableEq, Repr

/-- What the callback is created with. `toMessage text` is
`ToMessage(Responses(kProcessing, {text}), processor_args)`. -/
structure Captures (Symbol Message : Type) where
  toMessage : List Symbol → StatusOr Message
  codeFenceStart : List Symbol
  codeFenceEnd : List Symbol
  hasCancelCallback : Bool
  hasCompleteMessageCallback : Bool

/-- The variables that live from one call to the next. -/
structure State (Symbol : Type) where
  accumulatedResponseText : List Symbol := []
  cursor : Nat := 0
  insideToolCall : Bool := false
deriving DecidableEq, Repr

/-- What a call does to the outside. -/
inductive Effect (Symbol Message : Type) where
  /-- A segment is handed to `ToMessage` and the user gets the result. -/
  | segment (text : List Symbol) (result : StatusOr Message)
  | userError (status : Status)
  | cancelCallback
  | completeMessageCallback (message : Message)
  /-- `user_callback(Message(JsonMessage()))`. -/
  | inferenceDone

/-- The segments handed to `ToMessage`, in order. -/
def segments : List (Effect Symbol Message) → List (List Symbol)
  | [] => []
  | .segment text _ :: effects => text :: segments effects
  | _ :: effects => segments effects

@[simp]
theorem segments_append (first second : List (Effect Symbol Message)) :
    segments (first ++ second) = segments first ++ segments second := by
  induction first with
  | nil => rfl
  | cons effect effects hypothesis => cases effect <;> simp [segments, hypothesis]

section Strings

variable [DecidableEq Symbol]

def find (text pattern : List Symbol) (position : Nat) : Option Nat :=
  if position ≤ text.length then
    (firstIndex pattern (text.drop position)).map (position + ·)
  else none

def substr (text : List Symbol) (position count : Nat) : List Symbol :=
  (text.drop position).take count

/-- The loop of `SuffixPrefixOverlap`, from `length` downwards. -/
def overlapFrom (a b : List Symbol) : Nat → Nat
  | 0 => 0
  | length + 1 =>
      if a.drop (a.length - (length + 1)) = b.take (length + 1) then length + 1
      else overlapFrom a b length

/-- The number of overlapping symbols between the suffix of `a` and the prefix of `b`. -/
def suffixPrefixOverlap (a b : List Symbol) : Nat :=
  if a = [] ∨ b = [] then 0 else overlapFrom a b (min a.length b.length)

end Strings

namespace Captures

variable (captures : Captures Symbol Message)

def sendMessage [DecidableEq Symbol] (text : List Symbol) : List (Effect Symbol Message) :=
  if text = [] then [] else [.segment text (captures.toMessage text)]

def sendCompleteMessage [DecidableEq Symbol] (state : State Symbol) :
    List (Effect Symbol Message) :=
  let rest :=
    if state.cursor < state.accumulatedResponseText.length then
      captures.sendMessage (state.accumulatedResponseText.drop state.cursor)
    else []
  match captures.toMessage state.accumulatedResponseText with
  | .error status => rest ++ [.userError status]
  | .ok message =>
      if captures.hasCompleteMessageCallback then
        rest ++ [.completeMessageCallback message, .inferenceDone]
      else rest ++ [.inferenceDone]

variable [DecidableEq Symbol]

/-- Outside a tool call: the text up to the next fence start is sent. The flag says
that the loop goes on. -/
def lookForFenceStart (state : State Symbol) :
    State Symbol × List (Effect Symbol Message) × Bool :=
  let text := state.accumulatedResponseText
  match if captures.codeFenceStart = [] then none
    else find text captures.codeFenceStart state.cursor with
  | some codeFenceStartPos =>
      ({ state with cursor := codeFenceStartPos, insideToolCall := true },
        captures.sendMessage (substr text state.cursor (codeFenceStartPos - state.cursor)), true)
  | none =>
      let overlap := suffixPrefixOverlap (text.drop state.cursor) captures.codeFenceStart
      if overlap > 0 then
        let possibleStartPos := text.length - overlap
        ({ state with cursor := possibleStartPos },
          captures.sendMessage (substr text state.cursor (possibleStartPos - state.cursor)), false)
      else
        ({ state with cursor := text.length },
          captures.sendMessage (text.drop state.cursor), true)

/-- Inside a tool call: the block is sent once its fence end is there. -/
def lookForFenceEnd (state : State Symbol) :
    State Symbol × List (Effect Symbol Message) × Bool :=
  let text := state.accumulatedResponseText
  match find text captures.codeFenceEnd (state.cursor + captures.codeFenceStart.length) with
  | some codeFenceEndPos =>
      let blockEnd := codeFenceEndPos + captures.codeFenceEnd.length
      ({ state with cursor := blockEnd, insideToolCall := false },
        captures.sendMessage (substr text state.cursor (blockEnd - state.cursor)), true)
  | none => (state, [], false)

/-- The body of the loop. -/
def scanOnce (state : State Symbol) : State Symbol × List (Effect Symbol Message) × Bool :=
  let (state, sent, goesOn) :=
    if state.insideToolCall then (state, [], true) else captures.lookForFenceStart state
  if goesOn && state.insideToolCall then
    let (state, block, goesOn) := captures.lookForFenceEnd state
    (state, sent ++ block, goesOn)
  else (state, sent, goesOn)

/-- The loop, for at most `fuel` evaluations of its condition; `none` when it has not
ended by then. -/
def scan : Nat → State Symbol → Option (State Symbol × List (Effect Symbol Message))
  | 0, _ => none
  | fuel + 1, state =>
      if state.cursor < state.accumulatedResponseText.length then
        match captures.scanOnce state with
        | (state, sent, false) => some (state, sent)
        | (state, sent, true) =>
            (scan fuel state).map fun (state, sentLater) => (state, sent ++ sentLater)
      else some (state, [])

/-- One call of the callback. The loop has to end within one evaluation of its condition
for each symbol and one more. -/
def call (state : State Symbol) (responses : StatusOr (Update Symbol)) :
    Option (State Symbol × List (Effect Symbol Message)) :=
  match responses with
  | .error status =>
      let cancelled :=
        if captures.hasCancelCallback ∧ status.code = .cancelled then [.cancelCallback] else []
      some (state, cancelled ++ [.userError status])
  | .ok update =>
      match update.taskState with
      | .done | .maxNumTokensReached => some (state, captures.sendCompleteMessage state)
      | .processing =>
          match update.texts with
          | [] => some (state, [])
          | text :: _ =>
              let accumulated := state.accumulatedResponseText ++ text
              captures.scan (accumulated.length + 1)
                { state with accumulatedResponseText := accumulated }
      | _ => some (state, [])

/-- The calls of a whole run. -/
def run (state : State Symbol) : List (StatusOr (Update Symbol)) →
    Option (State Symbol × List (Effect Symbol Message))
  | [] => some (state, [])
  | responses :: later => do
      let (state, effects) ← captures.call state responses
      let (state, effectsLater) ← run state later
      return (state, effects ++ effectsLater)

end Captures

end LiteRTLM.Conversation.InternalCallback
