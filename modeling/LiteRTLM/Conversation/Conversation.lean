import LiteRTLM.Conversation.InternalCallback
import LiteRTLM.Conversation.ModelDataProcessor.Gemma3DataProcessor

/-!
Contract: `Conversation`, which renders each turn of a conversation into a prompt and
keeps the history of its messages.

Owns: the history and the constraint of a conversation, the text of a single turn,
`SendMessage`, `SendMessageAsync`, and what the callbacks of an asynchronous turn do to
the history.

Does not own: the model data processor, the prompt template and the session, whose
answers are given.
-/

namespace LiteRTLM.Conversation

open LiteRTLM.Engine
open LiteRTLM.Util
open LiteRTLM.Conversation.InternalCallback

variable {Number Inputs Constraint : Type}

/-- The initial messages, tools and extra context of a conversation. -/
structure JsonPreface (Number : Type) where
  messages : Json Number := .null
  tools : Json Number := .null
  extraContext : Json Number := .null

structure PromptTemplateInput (Number : Type) where
  messages : List (Json Number) := []
  tools : Json Number := .null
  extraContext : Json Number := .null
  addGenerationPrompt : Bool := true

/-- What does not change while a conversation lasts, and the answers of the model data
processor, the prompt template and the session in a turn. `Update` is what is read of
`Responses`. -/
structure ConversationMembers (Number Inputs Constraint : Type) where
  preface : JsonPreface Number
  constrainedDecodingEnabled : Bool
  codeFenceStart : Text
  codeFenceEnd : Text
  messageToTemplateInput : Json Number → StatusOr (Json Number)
  formatTools : Json Number → StatusOr (Json Number)
  createConstraint : Json Number → StatusOr Constraint
  toInputDataVector : Text → Json Number → DataProcessorArguments → StatusOr Inputs
  toMessage : Update Char → DataProcessorArguments → StatusOr (Json Number)
  applyPromptTemplate : PromptTemplateInput Number → StatusOr Text
  runPrefill : Inputs → StatusOr Unit
  runDecode : Option Constraint → StatusOr (Update Char)
  generateContentStream : Inputs → Option Constraint → StatusOr Unit

/-- `history_` and `constraint_`. -/
structure ConversationState (Number Constraint : Type) where
  history : List (Json Number) := []
  constraint : Option Constraint := none

abbrev ConversationM (Number Constraint : Type) := EStateM Status (ConversationState Number Constraint)

/-- `ASSIGN_OR_RETURN` and `RETURN_IF_ERROR`. -/
def assignOrReturn {α : Type} : StatusOr α → ConversationM Number Constraint α
  | .ok value => pure value
  | .error status => throw status

/-- The messages that are sent: the elements of an array, or the one message. -/
def messagesOf : Json Number → List (Json Number)
  | .array messages => messages
  | message => [message]

namespace ConversationMembers

variable (members : ConversationMembers Number Inputs Constraint)

def messagesToTemplateInput (messages : List (Json Number)) : StatusOr (List (Json Number)) :=
  messages.mapM members.messageToTemplateInput

def prefaceTemplateInput : StatusOr (PromptTemplateInput Number) := do
  let messages ← match members.preface.messages with
    | .array messages => members.messagesToTemplateInput messages
    | _ => pure []
  let tools ← match members.preface.tools with
    | .null => pure .null
    | tools => members.formatTools tools
  return { messages, tools, extraContext := members.preface.extraContext }

/-- The part of the rendered conversation that the message adds to the history. -/
def getSingleTurnText (history : List (Json Number)) (message : Json Number) : StatusOr Text := do
  let preface ← members.prefaceTemplateInput
  let oldMessages ← members.messagesToTemplateInput history
  let oldTmplInput := { preface with messages := preface.messages ++ oldMessages }
  if history.isEmpty then
    let newMessages ← members.messagesToTemplateInput (messagesOf message)
    members.applyPromptTemplate
      { oldTmplInput with
        messages := oldTmplInput.messages ++ newMessages, addGenerationPrompt := true }
  else
    let oldString ← members.applyPromptTemplate { oldTmplInput with addGenerationPrompt := false }
    let newMessages ← members.messagesToTemplateInput (messagesOf message)
    let newString ← members.applyPromptTemplate
      { oldTmplInput with
        messages := oldTmplInput.messages ++ newMessages, addGenerationPrompt := true }
    if newString.take oldString.length ≠ oldString then
      throw (Status.internalError
        ("The new rendered template string does not start with the previous rendered template " ++
          "string. \nold_string: " ++ String.ofList oldString ++
          "\nnew_string: " ++ String.ofList newString))
    return newString.drop oldString.length

/-- The constraint after `CreateDecodeConfig`. -/
def decodeConstraint (constraint : Option Constraint) : StatusOr (Option Constraint) :=
  if members.constrainedDecodingEnabled ∧ constraint.isNone then
    match members.preface.tools with
    | .null => .ok constraint
    | tools =>
        match members.createConstraint tools with
        | .ok constraint => .ok (some constraint)
        | .error status =>
            if status.code = .unimplemented then .ok constraint else .error status
  else .ok constraint

/-- Creates a constraint from the tools of the preface, if there are any. -/
def createDecodeConfig : ConversationM Number Constraint (Option Constraint) := do
  let constraint ← assignOrReturn (members.decodeConstraint (← get).constraint)
  modify fun conversation => { conversation with constraint := constraint }
  return constraint

/-- What both entry points do first: the message is rendered and put into the history. -/
def beginTurn (message : Json Number) (args : Option DataProcessorArguments) :
    ConversationM Number Constraint Inputs := do
  let singleTurnText ← assignOrReturn (members.getSingleTurnText (← get).history message)
  modify fun conversation =>
    { conversation with history := conversation.history ++ messagesOf message }
  assignOrReturn
    (members.toInputDataVector singleTurnText (.array [message]) (args.getD .monostate))

def sendMessage (message : Json Number) (args : Option DataProcessorArguments) :
    ConversationM Number Constraint (Json Number) := do
  let sessionInputs ← members.beginTurn message args
  assignOrReturn (members.runPrefill sessionInputs)
  let decodeConfig ← members.createDecodeConfig
  let responses ← assignOrReturn (members.runDecode decodeConfig)
  let assistantMessage ← assignOrReturn (members.toMessage responses (args.getD .monostate))
  modify fun conversation =>
    { conversation with history := conversation.history ++ [assistantMessage] }
  return assistantMessage

/-- What the internal callback of an asynchronous turn captures. -/
def captures (args : Option DataProcessorArguments) : Captures Char (Json Number) where
  toMessage text := members.toMessage ⟨.processing, [text]⟩ (args.getD .monostate)
  codeFenceStart := members.codeFenceStart
  codeFenceEnd := members.codeFenceEnd
  hasCancelCallback := true
  hasCompleteMessageCallback := true

def sendMessageAsync (message : Json Number) (args : Option DataProcessorArguments) :
    ConversationM Number Constraint Unit := do
  let sessionInputs ← members.beginTurn message args
  let decodeConfig ← members.createDecodeConfig
  assignOrReturn (members.generateContentStream sessionInputs decodeConfig)

end ConversationMembers

/-- The history after the effects of the internal callback: `complete_message_callback`
appends and `cancel_callback` calls `pop_back`, which is undefined on an empty vector. -/
def applyEffects : List (Json Number) → List (Effect Char (Json Number)) →
    Option (List (Json Number))
  | history, [] => some history
  | history, .completeMessageCallback message :: effects =>
      applyEffects (history ++ [message]) effects
  | history, .cancelCallback :: effects =>
      if history.isEmpty then none else applyEffects history.dropLast effects
  | history, _ :: effects => applyEffects history effects

/-- The history after an asynchronous turn whose internal callback is called with these
responses; `none` when it is undefined. -/
def ConversationMembers.historyAfterAsync (members : ConversationMembers Number Inputs Constraint)
    (conversation : ConversationState Number Constraint) (message : Json Number)
    (args : Option DataProcessorArguments) (calls : List (StatusOr (Update Char))) :
    Option (List (Json Number)) :=
  match members.sendMessageAsync message args conversation with
  | .error _ after => some after.history
  | .ok _ after => do
      let (_, effects) ← (members.captures args).run {} calls
      applyEffects after.history effects

end LiteRTLM.Conversation
