import LiteRTLM.Components.ToolUse.JsonParserUtils

/-!
Contract: which parts of a text a successful JSON parse accounts for.

Owns: when the arguments of a call can be read, what a call contributes to the result,
the result and the status after a walk, and when a parse that returns OK has read the
text as a whole.

Does not own: lexer, grammar and the values read.
-/

namespace LiteRTLM.Components.ToolUse

open LiteRTLM.Engine
open LiteRTLM.Util
open LiteRTLM.Components.ToolUse.JsonLexer
open LiteRTLM.Components.ToolUse.JsonGrammar

variable {Number : Type} (simpleAtod : Text → Option Number)

/-! ## Readable arguments -/

/-- The keys of pairs, as they are stored. -/
def keysOf (pairs : List (Text × ValueContext)) : List Text :=
  pairs.map fun pair => stripQuotes pair.1

mutual

/-- A value whose numbers are read, and whose objects have different keys, none empty. -/
def ValueReadable : ValueContext → Prop
  | .string _ => True
  | .number text => (simpleAtod text).isSome = true
  | .object pairs => PairsReadable pairs
  | .array values => ValuesReadable values
  | .boolean _ => True
  | .none => True

/-- The pairs of such an object. -/
def PairsReadable : List (Text × ValueContext) → Prop
  | [] => True
  | (key, value) :: rest =>
      stripQuotes key ≠ [] ∧ stripQuotes key ∉ keysOf rest ∧ ValueReadable value ∧
        PairsReadable rest

/-- The values of such an array. -/
def ValuesReadable : List ValueContext → Prop
  | [] => True
  | value :: rest => ValueReadable value ∧ ValuesReadable rest

end

/-- A call without arguments, or with readable ones. -/
def CallReadable : FunctionCallContext → Prop
  | .fullFunctionCall _ arguments => PairsReadable simpleAtod arguments
  | .emptyFunctionCall => True

theorem containsKey_append (members : List (Text × Json Number)) (key other : Text)
    (value : Json Number) :
    containsKey (members ++ [(key, value)]) other = true ↔
      containsKey members other = true ∨ key = other := by
  simp [containsKey]

mutual

/-- A value is parsed exactly when it is readable. -/
theorem parseJsonValue_isOk (context : ValueContext) :
    StatusOr.isOk (parseJsonValue simpleAtod context) = true ↔
      ValueReadable simpleAtod context := by
  match context with
  | .string text => simp [parseJsonValue, ValueReadable, StatusOr.isOk]
  | .boolean text => simp [parseJsonValue, ValueReadable, StatusOr.isOk]
  | .none => simp [parseJsonValue, ValueReadable, StatusOr.isOk]
  | .number text =>
      rw [parseJsonValue, ValueReadable]
      cases simpleAtod text <;> simp [StatusOr.isOk]
  | .object pairs =>
      rw [parseJsonValue, ValueReadable, isOk_map, parseJsonObject_isOk pairs []]
      simp [containsKey]
  | .array values =>
      rw [parseJsonValue, ValueReadable, isOk_map]
      exact parseJsonArray_isOk values

theorem parseJsonArray_isOk (values : List ValueContext) :
    StatusOr.isOk (parseJsonArray simpleAtod values) = true ↔
      ValuesReadable simpleAtod values := by
  match values with
  | [] => simp [parseJsonArray, ValuesReadable, StatusOr.isOk]
  | value :: rest =>
      rw [parseJsonArray, ValuesReadable, ← parseJsonValue_isOk value,
        ← parseJsonArray_isOk rest]
      cases parseJsonValue simpleAtod value with
      | error status => simp [bind, Except.bind, StatusOr.isOk]
      | ok first =>
          cases parseJsonArray simpleAtod rest <;>
            simp [bind, Except.bind, pure, Except.pure, StatusOr.isOk]

theorem parseJsonObject_isOk (pairs : List (Text × ValueContext))
    (members : List (Text × Json Number)) :
    StatusOr.isOk (parseJsonObject simpleAtod members pairs) = true ↔
      PairsReadable simpleAtod pairs ∧ ∀ key ∈ keysOf pairs, containsKey members key = false := by
  match pairs with
  | [] => simp [parseJsonObject, PairsReadable, StatusOr.isOk, keysOf]
  | (key, value) :: rest =>
      have first := parseJsonValue_isOk value
      have keys : keysOf ((key, value) :: rest) = stripQuotes key :: keysOf rest := rfl
      rw [parseJsonObject, PairsReadable, keys, List.forall_mem_cons, ← first]
      by_cases empty : stripQuotes key = []
      · simp [empty, StatusOr.isOk]
      rw [if_neg empty]
      by_cases duplicate : containsKey members (stripQuotes key) = true
      · simp [duplicate, StatusOr.isOk]
      rw [if_neg duplicate]
      cases parseJsonValue simpleAtod value with
      | error status => simp [StatusOr.isOk]
      | ok parsedValue =>
          have others := parseJsonObject_isOk rest (members ++ [(stripQuotes key, parsedValue)])
          -- a later key differs from the members so far and from this key
          have apart : (∀ other ∈ keysOf rest,
              containsKey (members ++ [(stripQuotes key, parsedValue)]) other = false) ↔
                stripQuotes key ∉ keysOf rest ∧
                  ∀ other ∈ keysOf rest, containsKey members other = false := by
            simp only [← Bool.not_eq_true, containsKey_append, not_or, forall_and]
            constructor
            · intro ⟨notMember, notKey⟩
              exact ⟨fun again => notKey _ again rfl, notMember⟩
            · intro ⟨notLater, notMember⟩
              refine ⟨notMember, ?_⟩
              intro other later same
              exact notLater (same ▸ later)
          rw [Bool.not_eq_true] at duplicate
          rw [others, apart]
          simp only [duplicate, StatusOr.isOk]
          tauto

end

/-! ## The walk -/

/-- What a call contributes: a full call its entry, if its arguments can be read. -/
def entriesOf : FunctionCallContext → Option (List (Json Number))
  | .fullFunctionCall name arguments =>
      match parseJsonObject simpleAtod [] arguments with
      | .error _ => none
      | .ok parsedArgs => some [toolCall name parsedArgs]
  | .emptyFunctionCall => some []

/-- The calls of a parse tree. -/
def callsOf : JsonContext → List FunctionCallContext
  | .functionCall call => [call]
  | .functionCallList calls => calls

theorem entriesOf_isSome (call : FunctionCallContext) :
    (entriesOf simpleAtod call).isSome = true ↔ CallReadable simpleAtod call := by
  cases call with
  | emptyFunctionCall => simp [entriesOf, CallReadable]
  | fullFunctionCall name arguments =>
      have readable := parseJsonObject_isOk simpleAtod arguments []
      rw [entriesOf, CallReadable]
      cases parsed : parseJsonObject simpleAtod [] arguments with
      | error status =>
          rw [parsed] at readable
          simpa [StatusOr.isOk, containsKey] using readable
      | ok parsedArgs =>
          rw [parsed] at readable
          simpa [StatusOr.isOk, containsKey] using readable

/-- One call: it adds what it contributes, and the status says whether it could be
read. -/
theorem enterFunctionCall_eq (listener : JsonListener Number) (call : FunctionCallContext) :
    listener.enterFunctionCall simpleAtod call =
      ⟨listener.toolCalls ++ (entriesOf simpleAtod call).getD [],
        (entriesOf simpleAtod call).isSome⟩ := by
  cases call with
  | emptyFunctionCall => simp [JsonListener.enterFunctionCall, entriesOf]
  | fullFunctionCall name arguments =>
      rw [JsonListener.enterFunctionCall, entriesOf]
      cases parseJsonObject simpleAtod [] arguments <;> simp

/-- All calls: the status is that of the last one. -/
theorem foldl_enterFunctionCall (calls : List FunctionCallContext)
    (listener : JsonListener Number) :
    calls.foldl (JsonListener.enterFunctionCall simpleAtod) listener =
      ⟨listener.toolCalls ++ calls.flatMap fun call => (entriesOf simpleAtod call).getD [],
        (calls.getLast?.map fun call => (entriesOf simpleAtod call).isSome).getD
          listener.status⟩ := by
  induction calls generalizing listener with
  | nil => simp
  | cons call rest inductionHypothesis =>
      rw [List.foldl_cons, inductionHypothesis, enterFunctionCall_eq]
      cases rest with
      | nil => simp
      | cons next others =>
          have last := List.getLast?_eq_some_getLast (List.cons_ne_nil next others)
          rw [List.getLast?_cons_cons, last]
          simp

/-- The walk collects what the calls contribute, and its status is that of the last
call. -/
theorem walk_eq (context : JsonContext) :
    JsonListener.walk simpleAtod context =
      ⟨(callsOf context).flatMap fun call => (entriesOf simpleAtod call).getD [],
        ((callsOf context).getLast?.map fun call => (entriesOf simpleAtod call).isSome).getD
          true⟩ := by
  cases context with
  | functionCall call =>
      rw [JsonListener.walk, enterFunctionCall_eq]
      simp [callsOf]
  | functionCallList calls =>
      rw [JsonListener.walk, foldl_enterFunctionCall, callsOf, JsonListener.enterFunctionCallList]
      cases calls with
      | nil => simp
      | cons call rest => simp [List.getLast?_cons]

/-! ## The whole text -/

/-- The last call of a tree can be read; a tree without calls has none to read. -/
def LastReadable (context : JsonContext) : Prop :=
  ∀ call ∈ (callsOf context).getLast?, CallReadable simpleAtod call

theorem parseJsonExpression_eq_ok_iff (text : Text) (toolCalls : List (Json Number)) :
    parseJsonExpression simpleAtod text = .ok toolCalls ↔
      ∃ context rest, lex text = some (context.tokens ++ rest) ∧
        LastReadable simpleAtod context ∧
        toolCalls = (callsOf context).flatMap fun call => (entriesOf simpleAtod call).getD [] := by
  have status : ∀ context : JsonContext,
      (JsonListener.walk simpleAtod context).status = true ↔ LastReadable simpleAtod context := by
    intro context
    rw [walk_eq, LastReadable]
    cases (callsOf context).getLast? with
    | none => simp
    | some call => simp [entriesOf_isSome]
  unfold parseJsonExpression
  cases lexed : lex text with
  | none => simp
  | some tokens =>
      dsimp only
      cases parsed : json tokens with
      | none =>
          constructor
          · intro impossible
            cases impossible
          · rintro ⟨context, rest, isTokens, -⟩
            rw [Option.some.injEq] at isTokens
            rw [(json_eq_some_iff context tokens rest).mpr isTokens] at parsed
            cases parsed
      | some found =>
          obtain ⟨context, rest⟩ := found
          have isTokens := (json_eq_some_iff context tokens rest).mp parsed
          dsimp only
          constructor
          · intro isOk
            by_cases failed : (JsonListener.walk simpleAtod context).status = false
            · rw [if_pos failed] at isOk
              cases isOk
            · rw [if_neg failed, walk_eq] at isOk
              rw [Bool.not_eq_false, status] at failed
              cases isOk
              exact ⟨context, rest, by rw [isTokens], failed, rfl⟩
          · rintro ⟨other, behind, sameTokens, readable, rfl⟩
            rw [Option.some.injEq, isTokens] at sameTokens
            obtain ⟨rfl, -⟩ := json_tokens_injective sameTokens
            rw [← status] at readable
            rw [if_neg (by rw [readable]; exact Bool.noConfusion), walk_eq]

/-- A result that accounts for a text as a whole: the tokens are derived from `json`, and
every call contributes its entry, in order. -/
def ReadAsWhole (text : Text) (toolCalls : List (Json Number)) : Prop :=
  ∃ context contributed, lex text = some context.tokens ∧
    List.Forall₂ (fun call entries => entriesOf simpleAtod call = some entries)
      (callsOf context) contributed ∧
    toolCalls = contributed.flatten

/-- **Read as a whole.** A parse that returns OK accounts for the whole text if and only
if, where a derivation is in front of the tokens and its last call can be read, no token
follows it and its other calls can be read too. -/
theorem parseJsonExpression_whole_iff (text : Text) :
    (∀ toolCalls, parseJsonExpression simpleAtod text = .ok toolCalls →
        ReadAsWhole simpleAtod text toolCalls) ↔
      ∀ context rest, lex text = some (context.tokens ++ rest) →
        LastReadable simpleAtod context →
          rest = [] ∧ ∀ call ∈ callsOf context, CallReadable simpleAtod call := by
  constructor
  · intro whole context rest isText readable
    obtain ⟨other, contributed, sameText, contributes, -⟩ := whole _
      ((parseJsonExpression_eq_ok_iff simpleAtod text _).mpr
        ⟨context, rest, isText, readable, rfl⟩)
    rw [isText, Option.some.injEq, ← List.append_nil other.tokens] at sameText
    obtain ⟨rfl, nothingLeft⟩ := json_tokens_injective sameText
    have readables : List.Forall₂ (fun call entries => CallReadable simpleAtod call ∧
        entriesOf simpleAtod call = some entries) (callsOf context) contributed := by
      apply contributes.imp
      intro call entries isEntries
      rw [← entriesOf_isSome, isEntries]
      exact ⟨rfl, rfl⟩
    exact ⟨nothingLeft, ((List.forall₂_and_left _ _).mp readables).1⟩
  · intro condition toolCalls isOk
    obtain ⟨context, rest, isText, readable, isResult⟩ :=
      (parseJsonExpression_eq_ok_iff simpleAtod text toolCalls).mp isOk
    obtain ⟨rfl, allReadable⟩ := condition context rest isText readable
    refine ⟨context, (callsOf context).map fun call => (entriesOf simpleAtod call).getD [],
      by rw [isText, List.append_nil], ?_, by rw [isResult, List.flatMap_def]⟩
    rw [List.forall₂_map_right_iff, List.forall₂_same]
    intro call member
    have isSome := (entriesOf_isSome simpleAtod call).mpr (allReadable call member)
    obtain ⟨entries, isEntries⟩ := Option.isSome_iff_exists.mp isSome
    rw [isEntries]
    rfl

/-- Two calls, one behind the other. -/
def twoCalls : Text :=
  ("\x7b\"name\":\"f\",\"arguments\":\x7b\x7d\x7d " ++
    "\x7b\"name\":\"g\",\"arguments\":\x7b\x7d\x7d").toList

/-- The call of a function without arguments. -/
def plainCall (name : Text) : FunctionCallContext := .fullFunctionCall name []

/-- The second of two calls is silently ignored. -/
theorem parseJsonExpression_ignores_secondCall :
    parseJsonExpression (fun _ => some (0 : Nat)) twoCalls = .ok [toolCall "\"f\"".toList []] ∧
      ¬ReadAsWhole (fun _ => some (0 : Nat)) twoCalls [toolCall "\"f\"".toList []] := by
  have lexed : lex twoCalls = some ((JsonContext.functionCall (plainCall "\"f\"".toList)).tokens ++
      (plainCall "\"g\"".toList).tokens) := by decide +kernel
  constructor
  · rw [parseJsonExpression_eq_ok_iff]
    refine ⟨_, _, lexed, ?_, rfl⟩
    intro call isLast
    cases isLast
    exact trivial
  · rintro ⟨context, contributed, isText, -, -⟩
    rw [lexed, Option.some.injEq, ← List.append_nil context.tokens] at isText
    have nothingLeft := (json_tokens_injective isText).2
    cases nothingLeft

end LiteRTLM.Components.ToolUse
