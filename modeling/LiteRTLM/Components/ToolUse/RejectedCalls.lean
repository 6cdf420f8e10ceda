import LiteRTLM.Components.ToolUse.PythonCalls
import LiteRTLM.Components.ToolUse.WholeToolCalls

/-!
Contract: what becomes of tool calls that the listener rejects.

Owns: when a parse takes all calls of a text or none, and that in both syntaxes it does so
exactly where the last call is not accepted in place of a rejected one.

Does not own: which calls are rejected. The listeners overwrite their status at every call.
-/

namespace LiteRTLM.Components.ToolUse

open LiteRTLM.Engine
open LiteRTLM.Library
open LiteRTLM.Util

/-! ## All or nothing -/

section AllOrNothing

variable {Call Entry : Type} {accepted : Call → Prop} {nonEmpty : Call → Bool}
  {contribution : Call → Option (List Entry)} {calls : List Call} {result : StatusOr (List Entry)}

/-- A text with a rejected call is refused, and otherwise there is one entry for every call that
is not empty, in order. -/
structure AllOrNothing (accepted : Call → Prop) (nonEmpty : Call → Bool)
    (contribution : Call → Option (List Entry)) (calls : List Call)
    (result : StatusOr (List Entry)) : Prop where
  refuses : (∃ call ∈ calls, ¬accepted call) → StatusOr.isOk result = false
  oneEntryEach : ∀ entries, result = .ok entries →
    List.Forall₂ (fun call entry => contribution call = some [entry]) (calls.filter nonEmpty)
      entries

/-- A call that is not empty contributes one entry if it is accepted, an empty one none. -/
structure ContributesOne (accepted : Call → Prop) (nonEmpty : Call → Bool)
    (contribution : Call → Option (List Entry)) : Prop where
  one : ∀ call, nonEmpty call = true → accepted call → ∃ entry, contribution call = some [entry]
  none : ∀ call, nonEmpty call = false → accepted call → contribution call = some []

/-- If every call is accepted, their entries are those of the calls that are not empty. -/
theorem ContributesOne.entries (contributes : ContributesOne accepted nonEmpty contribution)
    (allAccepted : ∀ call ∈ calls, accepted call) :
    List.Forall₂ (fun call entry => contribution call = some [entry]) (calls.filter nonEmpty)
      (calls.flatMap fun call => (contribution call).getD []) := by
  induction calls with
  | nil => exact .nil
  | cons call rest inductionHypothesis =>
      have others := inductionHypothesis fun other member =>
        allAccepted other (List.mem_cons_of_mem call member)
      have isAccepted := allAccepted call List.mem_cons_self
      rw [List.flatMap_cons]
      cases empty : nonEmpty call with
      | false =>
          rw [List.filter_cons_of_neg (by simp [empty]), contributes.none call empty isAccepted]
          exact others
      | true =>
          obtain ⟨entry, isEntry⟩ := contributes.one call empty isAccepted
          rw [List.filter_cons_of_pos empty, isEntry]
          exact .cons isEntry others

/-- A parse whose status is that of the last call takes all calls or none exactly when the last
call is rejected or none is. -/
theorem allOrNothing_iff (contributes : ContributesOne accepted nonEmpty contribution)
    (isResult : ∀ entries, result = .ok entries ↔ (∀ call ∈ calls.getLast?, accepted call) ∧
      entries = calls.flatMap fun call => (contribution call).getD []) :
    AllOrNothing accepted nonEmpty contribution calls result ↔
      ((∀ call ∈ calls.getLast?, accepted call) → ∀ call ∈ calls, accepted call) := by
  constructor
  · intro whole lastAccepted call member
    have isOk := (isResult _).mpr ⟨lastAccepted, rfl⟩
    by_contra rejected
    have refused := whole.refuses ⟨call, member, rejected⟩
    rw [isOk] at refused
    cases refused
  · intro condition
    constructor
    · rintro ⟨call, member, rejected⟩
      cases parsed : result with
      | error status => rfl
      | ok entries =>
          have lastAccepted := ((isResult entries).mp parsed).1
          exact absurd (condition lastAccepted call member) rejected
    · intro entries parsed
      obtain ⟨lastAccepted, rfl⟩ := (isResult entries).mp parsed
      exact contributes.entries (condition lastAccepted)

end AllOrNothing

/-! ## Both syntaxes -/

section Syntaxes

variable {Double : Type} (simpleAtod : Text → Option Double)

/-- A parse of Python calls takes all or none. Every call has an entry, also one without
arguments. -/
def PythonAllOrNothing (text : Text) (context : PythonGrammar.ExprContext) : Prop :=
  AllOrNothing (PythonCalls.CallReadable simpleAtod) (fun _ => true)
    (PythonCalls.entriesOf simpleAtod) (PythonCalls.callsOf context)
    (parsePythonExpression simpleAtod text)

def isFullCall : JsonGrammar.FunctionCallContext → Bool
  | .fullFunctionCall _ _ => true
  | .emptyFunctionCall => false

/-- A parse of JSON calls takes all or none. -/
def JsonAllOrNothing (text : Text) (context : JsonGrammar.JsonContext) : Prop :=
  AllOrNothing (CallReadable simpleAtod) isFullCall (entriesOf simpleAtod) (callsOf context)
    (parseJsonExpression simpleAtod text)

theorem pythonCalls_contributeOne :
    ContributesOne (PythonCalls.CallReadable simpleAtod) (fun _ => true)
      (PythonCalls.entriesOf simpleAtod) := by
  constructor
  · intro call _ readable
    have isSome := (PythonCalls.entriesOf_isSome simpleAtod call).mpr readable
    obtain ⟨entries, isEntries⟩ := Option.isSome_iff_exists.mp isSome
    obtain ⟨entry, rfl⟩ := PythonCalls.entriesOf_single simpleAtod isEntries
    exact ⟨entry, isEntries⟩
  · intro call impossible
    cases impossible

theorem jsonCalls_contributeOne :
    ContributesOne (CallReadable simpleAtod) isFullCall (entriesOf simpleAtod) := by
  constructor
  · intro call full readable
    have isSome := (entriesOf_isSome simpleAtod call).mpr readable
    obtain ⟨entries, isEntries⟩ := Option.isSome_iff_exists.mp isSome
    cases call with
    | emptyFunctionCall => cases full
    | fullFunctionCall name arguments =>
        rw [entriesOf] at isEntries ⊢
        split at isEntries
        · cases isEntries
        · exact ⟨_, rfl⟩
  · intro call empty _
    cases call with
    | emptyFunctionCall => rfl
    | fullFunctionCall name arguments => cases empty

theorem pythonAllOrNothing_iff {text : Text} {context : PythonGrammar.ExprContext}
    (lexed : PythonLexer.lex text = some context.tokens) :
    PythonAllOrNothing simpleAtod text context ↔ (PythonCalls.LastReadable simpleAtod context →
      ∀ call ∈ PythonCalls.callsOf context, PythonCalls.CallReadable simpleAtod call) :=
  allOrNothing_iff (pythonCalls_contributeOne simpleAtod)
    (PythonCalls.parsePythonExpression_eq_ok_iff simpleAtod lexed)

theorem jsonAllOrNothing_iff {text : Text} {context : JsonGrammar.JsonContext}
    (lexed : JsonLexer.lex text = some context.tokens) :
    JsonAllOrNothing simpleAtod text context ↔ (LastReadable simpleAtod context →
      ∀ call ∈ callsOf context, CallReadable simpleAtod call) := by
  apply allOrNothing_iff (jsonCalls_contributeOne simpleAtod)
  intro entries
  rw [parseJsonExpression_eq_ok_iff]
  constructor
  · rintro ⟨other, rest, isText, readable, isEntries⟩
    rw [lexed, Option.some.injEq, ← List.append_nil context.tokens] at isText
    obtain ⟨rfl, -⟩ := JsonGrammar.json_tokens_injective isText
    exact ⟨readable, isEntries⟩
  · intro ⟨readable, isEntries⟩
    exact ⟨context, [], by rw [lexed, List.append_nil], readable, isEntries⟩

/-- **All or nothing.** In either syntax, a parse of a list of calls refuses a list with a
rejected call, and has one entry for each call otherwise, if and only if the last call is
rejected or no call is. -/
theorem toolCalls_allOrNothing_iff :
    (∀ text context, PythonLexer.lex text = some context.tokens →
      (PythonAllOrNothing simpleAtod text context ↔ (PythonCalls.LastReadable simpleAtod context →
        ∀ call ∈ PythonCalls.callsOf context, PythonCalls.CallReadable simpleAtod call))) ∧
    ∀ text context, JsonLexer.lex text = some context.tokens →
      (JsonAllOrNothing simpleAtod text context ↔ (LastReadable simpleAtod context →
        ∀ call ∈ callsOf context, CallReadable simpleAtod call)) :=
  ⟨fun _ _ lexed => pythonAllOrNothing_iff simpleAtod lexed,
    fun _ _ lexed => jsonAllOrNothing_iff simpleAtod lexed⟩

end Syntaxes

/-! ## A rejected call in front of an accepted one -/

/-- A Python call with a duplicate argument, and one without arguments. -/
def duplicateThenPlain : Text := "[f(a=1, a=2), g()]".toList

def duplicateThenPlainTree : PythonGrammar.ExprContext :=
  .functionCallList [.fullFunctionCall ['f'] (['a'], .int ['1']) [(['a'], .int ['2'])],
    .emptyFunctionCall ['g']]

theorem lex_duplicateThenPlain :
    PythonLexer.lex duplicateThenPlain = some duplicateThenPlainTree.tokens := by
  have lexed : PythonLexer.lex duplicateThenPlain =
      some [.listOpen, .name ['f'], .openPar, .name ['a'], .eq, .int ['1'], .sep, .name ['a'], .eq,
        .int ['2'], .closePar, .sep, .name ['g'], .openPar, .closePar, .listClose] := by
    decide +kernel
  rw [lexed]
  rfl

/-- A JSON call with a duplicate key, and one without arguments. -/
def duplicateThenPlainJson : Text :=
  ("[\x7b\"name\":\"f\",\"arguments\":\x7b\"a\":1,\"a\":2\x7d\x7d," ++
    "\x7b\"name\":\"g\",\"arguments\":\x7b\x7d\x7d]").toList

def duplicateThenPlainJsonTree : JsonGrammar.JsonContext :=
  .functionCallList [.fullFunctionCall "\"f\"".toList
      [("\"a\"".toList, .number ['1']), ("\"a\"".toList, .number ['2'])],
    .fullFunctionCall "\"g\"".toList []]

theorem lex_duplicateThenPlainJson :
    JsonLexer.lex duplicateThenPlainJson = some duplicateThenPlainJsonTree.tokens := by
  decide +kernel

/-- The last calls are accepted here, the first are not. -/
theorem toolCalls_allOrNothing_duplicateThenPlain :
    (PythonAllOrNothing (fun _ => some (0 : Nat)) duplicateThenPlain duplicateThenPlainTree ↔
      (PythonCalls.LastReadable (fun _ => some (0 : Nat)) duplicateThenPlainTree →
        ∀ call ∈ PythonCalls.callsOf duplicateThenPlainTree,
          PythonCalls.CallReadable (fun _ => some (0 : Nat)) call)) ∧
    (JsonAllOrNothing (fun _ => some (0 : Nat)) duplicateThenPlainJson
        duplicateThenPlainJsonTree ↔
      (LastReadable (fun _ => some (0 : Nat)) duplicateThenPlainJsonTree →
        ∀ call ∈ callsOf duplicateThenPlainJsonTree,
          CallReadable (fun _ => some (0 : Nat)) call)) :=
  ⟨(toolCalls_allOrNothing_iff _).1 _ _ lex_duplicateThenPlain,
    (toolCalls_allOrNothing_iff _).2 _ _ lex_duplicateThenPlainJson⟩

/-- In both syntaxes the call with the duplicate is silently dropped. -/
theorem parses_drop_rejectedCall :
    (parsePythonExpression (fun _ => some (0 : Nat)) duplicateThenPlain =
        .ok [pythonToolCall ['g'] []] ∧
      ¬PythonAllOrNothing (fun _ => some (0 : Nat)) duplicateThenPlain duplicateThenPlainTree) ∧
    parseJsonExpression (fun _ => some (0 : Nat)) duplicateThenPlainJson =
        .ok [toolCall "\"g\"".toList []] ∧
      ¬JsonAllOrNothing (fun _ => some (0 : Nat)) duplicateThenPlainJson
        duplicateThenPlainJsonTree := by
  have python := (PythonCalls.parsePythonExpression_eq_ok_iff (fun _ => some (0 : Nat))
    lex_duplicateThenPlain [pythonToolCall ['g'] []]).mpr (by
      refine ⟨?_, rfl⟩
      intro call isLast
      cases isLast
      exact trivial)
  have json := (parseJsonExpression_eq_ok_iff (fun _ => some (0 : Nat)) duplicateThenPlainJson
    [toolCall "\"g\"".toList []]).mpr (by
      refine ⟨duplicateThenPlainJsonTree, [], ?_, ?_, rfl⟩
      · rw [lex_duplicateThenPlainJson, List.append_nil]
      · intro call isLast
        cases isLast
        exact trivial)
  refine ⟨⟨python, ?_⟩, json, ?_⟩
  · intro whole
    have refused := whole.refuses ⟨_, List.mem_cons_self, by
      rintro ⟨-, -, duplicate, -⟩
      exact duplicate List.mem_cons_self⟩
    rw [python] at refused
    cases refused
  · intro whole
    have refused := whole.refuses ⟨_, List.mem_cons_self, by
      rintro ⟨-, duplicate, -⟩
      exact duplicate List.mem_cons_self⟩
    rw [json] at refused
    cases refused

end LiteRTLM.Components.ToolUse
