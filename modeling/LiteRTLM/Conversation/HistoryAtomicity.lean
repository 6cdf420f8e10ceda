import LiteRTLM.Conversation.CallbackEffects
import LiteRTLM.Conversation.Conversation
import LiteRTLM.Library.Outcome

/-!
Contract: a turn changes the history as a whole or not at all, exactly when none of its
steps fails after its messages are in the history.

Owns: how the two entry points and the responses of an asynchronous turn end, and the
condition under which each leaves the history as a turn should.

Does not own: turns of one conversation that overlap.
-/

namespace LiteRTLM.Conversation

open LiteRTLM.Engine
open LiteRTLM.Library
open LiteRTLM.Util
open LiteRTLM.Conversation.InternalCallback

variable {Number Inputs Constraint : Type}

@[simp]
theorem ends_assignOrReturn {α : Type} (answer : StatusOr α)
    {before : ConversationState Number Constraint}
    {returned : α → ConversationState Number Constraint → Prop}
    {failed : Status → ConversationState Number Constraint → Prop} :
    Ends (assignOrReturn answer) before returned failed ↔
      match answer with
      | .ok value => returned value before
      | .error status => failed status before := by
  cases answer <;> exact Iff.rfl

section Turns

variable (members : ConversationMembers Number Inputs Constraint)
  (conversation : ConversationState Number Constraint) (message : Json Number)
  (args : Option DataProcessorArguments)

/-- The rendering of the message fails, before anything is changed. -/
def RenderingFails : Prop :=
  ∃ status, members.getSingleTurnText conversation.history message = .error status

/-- The message is rendered and its input data are made. -/
def Begins (inputs : Inputs) : Prop :=
  ∃ text, members.getSingleTurnText conversation.history message = .ok text ∧
    members.toInputDataVector text (.array [message]) (args.getD .monostate) = .ok inputs

/-- Every step of `SendMessage` succeeds, with this answer. -/
def Answers (assistantMessage : Json Number) : Prop :=
  ∃ inputs decodeConfig responses,
    Begins members conversation message args inputs ∧
      members.runPrefill inputs = .ok () ∧
      members.decodeConstraint conversation.constraint = .ok decodeConfig ∧
      members.runDecode decodeConfig = .ok responses ∧
      members.toMessage responses (args.getD .monostate) = .ok assistantMessage

/-- Every step of `SendMessageAsync` succeeds. -/
def Starts : Prop :=
  ∃ inputs decodeConfig,
    Begins members conversation message args inputs ∧
      members.decodeConstraint conversation.constraint = .ok decodeConfig ∧
      members.generateContentStream inputs decodeConfig = .ok ()

/-- A turn that fails leaves the history and a turn that succeeds adds its messages and
the answer. -/
def SendMessageAtomic : Prop :=
  Ends (members.sendMessage message args) conversation
    (fun assistantMessage after =>
      after.history = conversation.history ++ messagesOf message ++ [assistantMessage])
    (fun _ after => after.history = conversation.history)

theorem sendMessageAtomic_iff :
    SendMessageAtomic members conversation message args ↔
      RenderingFails members conversation message ∨ messagesOf message = [] ∨
        ∃ assistantMessage, Answers members conversation message args assistantMessage := by
  unfold SendMessageAtomic RenderingFails Answers Begins ConversationMembers.sendMessage
    ConversationMembers.beginTurn ConversationMembers.createDecodeConfig
  simp only [ends_bind, ends_get, ends_assignOrReturn, ends_modify, ends_pure]
  cases members.getSingleTurnText conversation.history message with
  | error status => simp
  | ok text =>
      cases made : members.toInputDataVector text (.array [message]) (args.getD .monostate) with
      | error status => simp [made]
      | ok inputs =>
          cases prefilled : members.runPrefill inputs with
          | error status => simp [made, prefilled]
          | ok =>
              cases configured : members.decodeConstraint conversation.constraint with
              | error status => simp [made, prefilled]
              | ok decodeConfig =>
                  cases decoded : members.runDecode decodeConfig with
                  | error status => simp [made, prefilled, decoded]
                  | ok responses =>
                      cases answered : members.toMessage responses (args.getD .monostate) with
                      | error status => simp [made, prefilled, decoded, answered]
                      | ok assistantMessage => simp [made, prefilled, decoded, answered]

/-! ## Asynchronous turns -/

/-- The last response of a turn: an error, the end of the decoding or a failed task. -/
def endsTurn : StatusOr (Update Char) → Bool
  | .error _ => true
  | .ok update => isTaskEndState update.taskState

/-- `absl::IsCancelled` on a response. -/
def isCancelled : StatusOr (Update Char) → Bool
  | .error status => status.code = .cancelled
  | .ok _ => false

/-- The answer with which the turn succeeds: the message of the whole text, once the
decoding has ended. -/
def answerOf (text : Text) (last : StatusOr (Update Char)) : Option (Json Number) :=
  if completes last then
    match members.toMessage ⟨.processing, [text]⟩ (args.getD .monostate) with
    | .ok assistantMessage => some assistantMessage
    | .error _ => none
  else none

/-- The history a turn should leave: what it was, with the messages and the answer when
the turn succeeds. -/
def atomicHistory (history messages : List (Json Number)) :
    Option (Json Number) → List (Json Number)
  | some assistantMessage => history ++ messages ++ [assistantMessage]
  | none => history

/-- What an asynchronous turn should do to the history, when its callback gets these
responses and then the last one. -/
def SendMessageAsyncAtomic (updates : List (Update Char)) (last : StatusOr (Update Char)) : Prop :=
  match members.sendMessageAsync message args conversation with
  | .error _ after => after.history = conversation.history
  | .ok _ _ =>
      members.historyAfterAsync conversation message args (updates.map .ok ++ [last]) =
        some (atomicHistory conversation.history (messagesOf message)
          (answerOf members args ((updates.map .ok).flatMap receivedText) last))

/-- What the last response does to the history. -/
def historyAfterLast (last : StatusOr (Update Char)) (answer : Option (Json Number))
    (history : List (Json Number)) : Option (List (Json Number)) :=
  if isCancelled last then
    if history.isEmpty then none else some history.dropLast
  else some (history ++ answer.toList)

theorem applyEffects_of_isSegment {captures : Captures Char (Json Number)}
    {effects : List (Effect Char (Json Number))}
    (onlySegments : ∀ effect ∈ effects, captures.IsSegment effect) (history : List (Json Number))
    (later : List (Effect Char (Json Number))) :
    applyEffects history (effects ++ later) = applyEffects history later := by
  induction effects with
  | nil => rfl
  | cons effect effects hypothesis =>
      have here := onlySegments effect List.mem_cons_self
      have after := hypothesis fun effect member => onlySegments effect (List.mem_cons_of_mem _ member)
      cases effect with
      | segment text result => exact after
      | _ => exact here.elim

/-- What completing the message does to the history. -/
theorem applyEffects_sendCompleteMessage (state : State Char) (history : List (Json Number)) :
    applyEffects history ((members.captures args).sendCompleteMessage state) =
      some (match members.toMessage ⟨.processing, [state.accumulatedResponseText]⟩
          (args.getD .monostate) with
        | .ok assistantMessage => history ++ [assistantMessage]
        | .error _ => history) := by
  have rest : ∀ later, applyEffects history
      ((if state.cursor < state.accumulatedResponseText.length then
        (members.captures args).sendMessage (state.accumulatedResponseText.drop state.cursor)
        else []) ++ later) = applyEffects history later := by
    intro later
    split
    · exact applyEffects_of_isSegment (isSegment_sendMessage _ _) history later
    · rfl
  have sameMessage : (members.captures args).toMessage state.accumulatedResponseText =
      members.toMessage ⟨.processing, [state.accumulatedResponseText]⟩ (args.getD .monostate) :=
    rfl
  unfold Captures.sendCompleteMessage
  rw [sameMessage]
  cases members.toMessage ⟨.processing, [state.accumulatedResponseText]⟩
      (args.getD .monostate) with
  | error status => exact rest _
  | ok assistantMessage => exact rest _

/-- What the last call does to the history. -/
theorem applyEffects_last (state : State Char) (history : List (Json Number))
    {last : StatusOr (Update Char)} (ends : endsTurn last = true) :
    ∃ effects, (members.captures args).call state last = some (state, effects) ∧
      applyEffects history effects =
        historyAfterLast last (answerOf members args state.accumulatedResponseText last)
          history := by
  match last with
  | .error status =>
      refine ⟨_, rfl, ?_⟩
      by_cases cancelled : status.code = .cancelled
      · simp [ConversationMembers.captures, isCancelled, cancelled, applyEffects,
          historyAfterLast]
      · simp [ConversationMembers.captures, isCancelled, cancelled, applyEffects, answerOf,
          completes, historyAfterLast]
  | .ok ⟨.done, texts⟩ | .ok ⟨.maxNumTokensReached, texts⟩ =>
      refine ⟨_, rfl, ?_⟩
      rw [applyEffects_sendCompleteMessage]
      simp only [isCancelled, answerOf, completes, historyAfterLast, Bool.false_eq_true, if_false,
        if_true]
      cases members.toMessage ⟨.processing, [state.accumulatedResponseText]⟩
        (args.getD .monostate) <;> simp
  | .ok ⟨.failed, texts⟩ | .ok ⟨.dependentTaskFailed, texts⟩ =>
      exact ⟨[], rfl, by simp [applyEffects, historyAfterLast, isCancelled, answerOf, completes]⟩
  | .ok ⟨.unknown, _⟩ | .ok ⟨.created, _⟩ | .ok ⟨.queued, _⟩ | .ok ⟨.processing, _⟩ => cases ends

/-- The history after the calls of a turn that has begun. -/
theorem applyEffects_run (history : List (Json Number)) {updates : List (Update Char)}
    (goOn : ∀ update ∈ updates, endsTurn (.ok update) = false)
    {last : StatusOr (Update Char)} (ends : endsTurn last = true) :
    ∃ final effects,
      (members.captures args).run {} (updates.map .ok ++ [last]) = some (final, effects) ∧
      applyEffects history effects =
        historyAfterLast last
          (answerOf members args ((updates.map .ok).flatMap receivedText) last) history := by
  have incomplete : ∀ update ∈ updates, completes (.ok update) = false := by
    intro update member
    have notEnded := goOn update member
    match update with
    | ⟨.done, _⟩ | ⟨.maxNumTokensReached, _⟩ => cases notEnded
    | ⟨.unknown, _⟩ | ⟨.created, _⟩ | ⟨.queued, _⟩ | ⟨.processing, _⟩ | ⟨.failed, _⟩
    | ⟨.dependentTaskFailed, _⟩ => rfl
  obtain ⟨final, effects, ran, sameText, onlySegments⟩ :=
    (reading_start (members.captures args)).run (members.captures args) incomplete
  obtain ⟨effectsLast, called, applied⟩ := applyEffects_last members args final history ends
  refine ⟨final, effects ++ effectsLast, run_append_singleton _ ran called, ?_⟩
  rw [applyEffects_of_isSegment onlySegments, applied, sameText]
  rfl

/-- The condition on an asynchronous turn: nothing fails once its messages are in the
history, or there are none; a cancelled turn has exactly one. -/
def LeavesHistoryAtomic (updates : List (Update Char)) (last : StatusOr (Update Char)) : Prop :=
  RenderingFails members conversation message ∨
    (¬Starts members conversation message args ∧ messagesOf message = []) ∨
      (Starts members conversation message args ∧
        if isCancelled last then (messagesOf message).length = 1
        else messagesOf message = [] ∨
          (answerOf members args ((updates.map .ok).flatMap receivedText) last).isSome)

/-- The history when `SendMessageAsync` returns. -/
theorem ends_sendMessageAsync (returned failed : List (Json Number) → Prop) :
    Ends (members.sendMessageAsync message args) conversation
        (fun _ after => returned after.history) (fun _ after => failed after.history) ↔
      (RenderingFails members conversation message → failed conversation.history) ∧
        (¬RenderingFails members conversation message →
          ¬Starts members conversation message args →
            failed (conversation.history ++ messagesOf message)) ∧
        (Starts members conversation message args →
          returned (conversation.history ++ messagesOf message)) := by
  unfold RenderingFails Starts Begins ConversationMembers.sendMessageAsync
    ConversationMembers.beginTurn ConversationMembers.createDecodeConfig
  simp only [ends_bind, ends_get, ends_assignOrReturn, ends_modify, ends_pure]
  cases members.getSingleTurnText conversation.history message with
  | error status => simp
  | ok text =>
      cases made : members.toInputDataVector text (.array [message]) (args.getD .monostate) with
      | error status => simp [made]
      | ok inputs =>
          cases configured : members.decodeConstraint conversation.constraint with
          | error status => simp [made]
          | ok decodeConfig =>
              cases started : members.generateContentStream inputs decodeConfig with
              | error status => simp [made, started]
              | ok => simp [made, started]

/-- What the last response should leave is left exactly when one message was sent and the
turn is cancelled, or when it is not cancelled and nothing was sent or it succeeds. -/
theorem historyAfterLast_eq_iff (history messages : List (Json Number)) (text : Text)
    (last : StatusOr (Update Char)) :
    historyAfterLast last (answerOf members args text last) (history ++ messages) =
        some (atomicHistory history messages (answerOf members args text last)) ↔
      if isCancelled last then messages.length = 1
      else messages = [] ∨ (answerOf members args text last).isSome = true := by
  by_cases cancelled : isCancelled last = true
  · have noAnswer : answerOf members args text last = none := by
      cases last with
      | error status => rfl
      | ok update => cases cancelled
    simp only [historyAfterLast, cancelled, noAnswer, atomicHistory, if_true]
    cases messages using List.reverseRecOn with
    | nil =>
        -- With nothing sent, an older message is taken away.
        have shorter : history ≠ [] → history.dropLast ≠ history := by
          intro nonempty same
          have length := congrArg List.length same
          rw [List.length_dropLast] at length
          have positive := List.length_pos_iff.mpr nonempty
          omega
        by_cases empty : history = []
        · simp [empty]
        · simp [empty, shorter empty]
    | append_singleton front message =>
        rw [← List.append_assoc]
        simp
  · simp only [historyAfterLast, cancelled]
    cases answerOf members args text last <;> simp [atomicHistory]

theorem Starts.not_renderingFails (starts : Starts members conversation message args) :
    ¬RenderingFails members conversation message := by
  obtain ⟨inputs, decodeConfig, ⟨text, rendered, made⟩, configured, started⟩ := starts
  rintro ⟨status, failed⟩
  rw [rendered] at failed
  cases failed

theorem sendMessageAsyncAtomic_iff {updates : List (Update Char)}
    (goOn : ∀ update ∈ updates, endsTurn (.ok update) = false)
    {last : StatusOr (Update Char)} (ends : endsTurn last = true) :
    SendMessageAsyncAtomic members conversation message args updates last ↔
      LeavesHistoryAtomic members conversation message args updates last := by
  -- The calls change the history that `SendMessageAsync` leaves as the last one does.
  have asEnds : SendMessageAsyncAtomic members conversation message args updates last ↔
      Ends (members.sendMessageAsync message args) conversation
        (fun _ after =>
          historyAfterLast last
              (answerOf members args ((updates.map .ok).flatMap receivedText) last) after.history =
            some (atomicHistory conversation.history (messagesOf message)
              (answerOf members args ((updates.map .ok).flatMap receivedText) last)))
        (fun _ after => after.history = conversation.history) := by
    unfold SendMessageAsyncAtomic ConversationMembers.historyAfterAsync Ends
    cases members.sendMessageAsync message args conversation with
    | error status after => exact Iff.rfl
    | ok started after =>
        obtain ⟨final, effects, ran, applied⟩ :=
          applyEffects_run members args after.history goOn ends
        simp only [ran, Option.bind_eq_bind, Option.bind_some, applied]
  rw [asEnds, ends_sendMessageAsync members conversation message args
    (fun history => historyAfterLast last _ history = _) (fun history => history = _),
    historyAfterLast_eq_iff]
  unfold LeavesHistoryAtomic
  by_cases fails : RenderingFails members conversation message
  · have notStarted : ¬Starts members conversation message args :=
      fun starts => starts.not_renderingFails members conversation message args fails
    simp [fails, notStarted]
  · by_cases starts : Starts members conversation message args
    · simp [fails, starts]
    · simp [fails, starts]

/-- Each entry point changes the history as a whole or not at all exactly on its
condition. -/
theorem history_atomic_iff {updates : List (Update Char)}
    (goOn : ∀ update ∈ updates, endsTurn (.ok update) = false)
    {last : StatusOr (Update Char)} (ends : endsTurn last = true) :
    (SendMessageAtomic members conversation message args ↔
      RenderingFails members conversation message ∨ messagesOf message = [] ∨
        ∃ assistantMessage, Answers members conversation message args assistantMessage) ∧
    (SendMessageAsyncAtomic members conversation message args updates last ↔
      LeavesHistoryAtomic members conversation message args updates last) :=
  ⟨sendMessageAtomic_iff members conversation message args,
    sendMessageAsyncAtomic_iff members conversation message args goOn ends⟩

end Turns

section Examples

/-- A model that answers every prompt, with a session whose prefill fails on request. -/
private def echo (prefill : StatusOr Unit) : ConversationMembers Int Text Unit where
  preface := {}
  constrainedDecodingEnabled := false
  codeFenceStart := []
  codeFenceEnd := []
  messageToTemplateInput := .ok
  formatTools := .ok
  createConstraint := fun _ => .error ⟨.unimplemented, "CreateConstraint is not implemented."⟩
  toInputDataVector := fun text _ _ => .ok text
  toMessage := fun update _ => .ok (.string update.texts.flatten)
  applyPromptTemplate := fun input => .ok (List.replicate input.messages.length 'm')
  runPrefill := fun _ => prefill
  runDecode := fun _ => .ok ⟨.done, ["Hello".toList]⟩
  generateContentStream := fun _ _ => .ok ()

private def cancelledLast : StatusOr (Update Char) := .error (Status.cancelledError "Cancelled.")

theorem history_atomic_iff_cancelled :
    (SendMessageAtomic (echo (.ok ())) {} (.string "Hi".toList) none ↔
      RenderingFails (echo (.ok ())) {} (.string "Hi".toList) ∨
        messagesOf (.string "Hi".toList : Json Int) = [] ∨
          ∃ assistantMessage,
            Answers (echo (.ok ())) {} (.string "Hi".toList) none assistantMessage) ∧
    (SendMessageAsyncAtomic (echo (.ok ())) {} (.string "Hi".toList) none
        [⟨.processing, ["He".toList]⟩] cancelledLast ↔
      LeavesHistoryAtomic (echo (.ok ())) {} (.string "Hi".toList) none
        [⟨.processing, ["He".toList]⟩] cancelledLast) :=
  history_atomic_iff (echo (.ok ())) {} (.string "Hi".toList) none (by decide) rfl

/-- A failed prefill leaves the message of the user in the history, and a cancelled turn
with two messages leaves the first of them. -/
theorem history_not_atomic :
    ¬SendMessageAtomic (echo (.error (Status.internalError "Prefill failed."))) {}
        (.string "Hi".toList) none ∧
      ¬SendMessageAsyncAtomic (echo (.ok ())) {}
        (.array [.string "Hi".toList, .string "there".toList]) none
        [⟨.processing, ["He".toList]⟩] cancelledLast := by
  constructor
  · intro atomic
    cases atomic
  · intro atomic
    cases atomic

end Examples

end LiteRTLM.Conversation
