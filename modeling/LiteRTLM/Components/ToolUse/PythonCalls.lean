import LiteRTLM.Library.LatestStatus
import LiteRTLM.Components.ToolUse.PythonParserUtils

/-!
Contract: which Python calls the listener accepts, and what a parse returns.

Owns: when the arguments of a call can be read, what a call contributes to the result, the result
and the status after a walk, and when a parse returns OK.

Does not own: lexer, grammar and the values read.
-/

namespace LiteRTLM.Components.ToolUse.PythonCalls

open LiteRTLM.Engine
open LiteRTLM.Library
open LiteRTLM.Util
open LiteRTLM.Components.ToolUse.PythonGrammar

variable {Double : Type} (simpleAtod : Text → Option Double)

/-! ## Readable arguments -/

/-- The keys of pairs, as they are stored. -/
def keysOf (pairs : List (Text × ValueContext)) : List Text :=
  pairs.map fun pair => stripQuotes pair.1

def namesOf (argVals : List ArgValContext) : List Text := argVals.map Prod.fst

/-- An argument with a name and a value. -/
def IsHeld (argVal : ArgValContext) : Prop := ¬(argVal.1 = [] ∨ argVal.2.text = [])

instance (argVal : ArgValContext) : Decidable (IsHeld argVal) := instDecidableNot

/-- The names of the arguments of an object that are held. -/
def heldNames (argVals : List ArgValContext) : List Text :=
  namesOf (argVals.filter fun argVal => IsHeld argVal)

mutual

/-- A value whose numbers are read, and whose keys are different. -/
def ValueReadable : ValueContext → Prop
  | .int text => (simpleAtoi text).isSome = true
  | .float text => (simpleAtod text).isSome = true
  | .bool _ => True
  | .string _ => True
  | .none => True
  | .list values => ValuesReadable values
  | .dict pairs => PairsReadable pairs
  | .object _ argVals => "__type__".toList ∉ heldNames argVals ∧ HeldReadable argVals

def ValuesReadable : List ValueContext → Prop
  | [] => True
  | value :: rest => ValueReadable value ∧ ValuesReadable rest

/-- The pairs of such a dict. -/
def PairsReadable : List (Text × ValueContext) → Prop
  | [] => True
  | (key, value) :: rest =>
      stripQuotes key ∉ keysOf rest ∧ ValueReadable value ∧ PairsReadable rest

/-- The arguments of such an object. -/
def HeldReadable : List (Text × ValueContext) → Prop
  | [] => True
  | (name, value) :: rest =>
      (IsHeld (name, value) → name ∉ heldNames rest ∧ ValueReadable value) ∧ HeldReadable rest

end

/-- The arguments of a call: each is held, and the names are different. -/
def ArgValsReadable : List ArgValContext → Prop
  | [] => True
  | argVal :: rest =>
      IsHeld argVal ∧ argVal.1 ∉ namesOf rest ∧ ValueReadable simpleAtod argVal.2 ∧
        ArgValsReadable rest

/-- A call without arguments, or with a name and readable arguments. -/
def CallReadable : FunctionCallContext → Prop
  | .fullFunctionCall name first others =>
      name ≠ [] ∧ ArgValsReadable simpleAtod (first :: others)
  | .emptyFunctionCall _ => True

/-! ## What is parsed -/

/-- No member has one of these keys. -/
def FreeKeys (members : List (Text × Json (PythonNumber Double))) (keys : List Text) : Prop :=
  ∀ key ∈ keys, containsKey members key = false

theorem freeKeys_nil (keys : List Text) :
    FreeKeys ([] : List (Text × Json (PythonNumber Double))) keys :=
  fun _ _ => rfl

theorem freeKeys_cons (members : List (Text × Json (PythonNumber Double))) (key : Text)
    (keys : List Text) :
    FreeKeys members (key :: keys) ↔ containsKey members key = false ∧ FreeKeys members keys :=
  List.forall_mem_cons

/-- Later keys differ from the members so far and from this key. -/
theorem freeKeys_append (members : List (Text × Json (PythonNumber Double))) (key : Text)
    (value : Json (PythonNumber Double)) (keys : List Text) :
    FreeKeys (members ++ [(key, value)]) keys ↔ key ∉ keys ∧ FreeKeys members keys := by
  simp only [FreeKeys, containsKey, List.any_append, List.any_cons, List.any_nil, Bool.or_false,
    Bool.or_eq_false_iff, decide_eq_false_iff_not]
  constructor
  · intro free
    refine ⟨?_, fun other member => (free other member).1⟩
    intro member
    exact (free key member).2 rfl
  · intro ⟨absent, free⟩ other member
    refine ⟨free other member, ?_⟩
    intro same
    exact absent (same ▸ member)

theorem namesOf_cons (argVal : ArgValContext) (rest : List ArgValContext) :
    namesOf (argVal :: rest) = argVal.1 :: namesOf rest := rfl

theorem heldNames_of_held {argVal : ArgValContext} (held : IsHeld argVal)
    (rest : List ArgValContext) : heldNames (argVal :: rest) = argVal.1 :: heldNames rest := by
  rw [heldNames, List.filter_cons, if_pos (decide_eq_true held)]
  rfl

theorem heldNames_of_notHeld {argVal : ArgValContext} (notHeld : ¬IsHeld argVal)
    (rest : List ArgValContext) : heldNames (argVal :: rest) = heldNames rest := by
  rw [heldNames, List.filter_cons, if_neg (by simpa using notHeld)]
  rfl

mutual

/-- A value is parsed exactly when it is readable. -/
theorem parsePythonValue_isOk (context : ValueContext) :
    StatusOr.isOk (parsePythonValue simpleAtod context) = true ↔
      ValueReadable simpleAtod context := by
  match context with
  | .int text =>
      rw [parsePythonValue, ValueReadable]
      cases simpleAtoi text <;> simp [StatusOr.isOk]
  | .float text =>
      rw [parsePythonValue, ValueReadable]
      cases simpleAtod text <;> simp [StatusOr.isOk]
  | .bool text => simp [parsePythonValue, ValueReadable, StatusOr.isOk]
  | .string text => simp [parsePythonValue, ValueReadable, StatusOr.isOk]
  | .none => simp [parsePythonValue, ValueReadable, StatusOr.isOk]
  | .list values =>
      rw [parsePythonValue, ValueReadable, isOk_map]
      exact parsePythonList_isOk values
  | .dict pairs =>
      rw [parsePythonValue, ValueReadable, isOk_map, parsePythonDict_isOk pairs []]
      exact and_iff_left (freeKeys_nil _)
  | .object name argVals =>
      rw [parsePythonValue, ValueReadable, isOk_map,
        parsePythonObject_isOk argVals [("__type__".toList, .string name)]]
      have apart := freeKeys_append [] "__type__".toList
        (.string name : Json (PythonNumber Double)) (heldNames argVals)
      rw [List.nil_append] at apart
      rw [apart, and_iff_left (freeKeys_nil _)]
      exact and_comm

theorem parsePythonList_isOk (values : List ValueContext) :
    StatusOr.isOk (parsePythonList simpleAtod values) = true ↔
      ValuesReadable simpleAtod values := by
  match values with
  | [] => simp [parsePythonList, ValuesReadable, StatusOr.isOk]
  | value :: rest =>
      rw [parsePythonList, ValuesReadable, ← parsePythonValue_isOk value,
        ← parsePythonList_isOk rest]
      cases parsePythonValue simpleAtod value with
      | error status => simp [bind, Except.bind, StatusOr.isOk]
      | ok first =>
          cases parsePythonList simpleAtod rest <;>
            simp [bind, Except.bind, pure, Except.pure, StatusOr.isOk]

theorem parsePythonDict_isOk (pairs : List (Text × ValueContext))
    (members : List (Text × Json (PythonNumber Double))) :
    StatusOr.isOk (parsePythonDict simpleAtod members pairs) = true ↔
      PairsReadable simpleAtod pairs ∧ FreeKeys members (keysOf pairs) := by
  match pairs with
  | [] => simp [parsePythonDict, PairsReadable, StatusOr.isOk, keysOf, FreeKeys]
  | (key, value) :: rest =>
      have first := parsePythonValue_isOk value
      have keys : keysOf ((key, value) :: rest) = stripQuotes key :: keysOf rest := rfl
      rw [parsePythonDict, PairsReadable, keys, freeKeys_cons, ← first]
      by_cases duplicate : containsKey members (stripQuotes key) = true
      · simp [duplicate, StatusOr.isOk]
      rw [if_neg duplicate]
      rw [Bool.not_eq_true] at duplicate
      cases parsePythonValue simpleAtod value with
      | error status => simp [StatusOr.isOk]
      | ok parsedValue =>
          dsimp only
          rw [parsePythonDict_isOk rest, freeKeys_append]
          simp only [duplicate, StatusOr.isOk]
          tauto

theorem parsePythonObject_isOk (argVals : List (Text × ValueContext))
    (members : List (Text × Json (PythonNumber Double))) :
    StatusOr.isOk (parsePythonObject simpleAtod members argVals) = true ↔
      HeldReadable simpleAtod argVals ∧ FreeKeys members (heldNames argVals) := by
  match argVals with
  | [] => simp [parsePythonObject, HeldReadable, StatusOr.isOk, heldNames, namesOf, FreeKeys]
  | (name, value) :: rest =>
      have first := parsePythonValue_isOk value
      rw [parsePythonObject, HeldReadable]
      by_cases notHeld : name = [] ∨ value.text = []
      · have passedOver : ¬IsHeld (name, value) := fun held => held notHeld
        rw [if_pos notHeld, heldNames_of_notHeld passedOver, parsePythonObject_isOk rest members]
        simp only [passedOver]
        tauto
      have held : IsHeld (name, value) := notHeld
      rw [if_neg notHeld, heldNames_of_held held, freeKeys_cons, ← first]
      by_cases duplicate : containsKey members name = true
      · simp [duplicate, StatusOr.isOk]
      rw [if_neg duplicate]
      rw [Bool.not_eq_true] at duplicate
      cases parsePythonValue simpleAtod value with
      | error status => simp [StatusOr.isOk, held]
      | ok parsedValue =>
          dsimp only
          rw [parsePythonObject_isOk rest, freeKeys_append]
          simp only [duplicate, held, StatusOr.isOk]
          tauto

end

/-- The arguments of a call are collected exactly when they are readable and new. -/
theorem collectArguments_isSome (argVals : List ArgValContext)
    (arguments : List (Text × Json (PythonNumber Double))) :
    (collectArguments simpleAtod arguments argVals).isSome = true ↔
      ArgValsReadable simpleAtod argVals ∧ FreeKeys arguments (namesOf argVals) := by
  induction argVals generalizing arguments with
  | nil => simp [collectArguments, ArgValsReadable, namesOf, FreeKeys]
  | cons argVal rest inductionHypothesis =>
      obtain ⟨name, value⟩ := argVal
      rw [collectArguments, ArgValsReadable, namesOf_cons, freeKeys_cons]
      by_cases notHeld : name = [] ∨ value.text = []
      · have passedOver : ¬IsHeld (name, value) := fun held => held notHeld
        rw [if_pos notHeld]
        simp [passedOver]
      have held : IsHeld (name, value) := notHeld
      rw [if_neg notHeld, ← parsePythonValue_isOk]
      cases parsePythonValue simpleAtod value with
      | error status => simp [StatusOr.isOk]
      | ok parsedValue =>
          dsimp only
          by_cases duplicate : containsKey arguments name = true
          · simp [duplicate]
          rw [if_neg duplicate, inductionHypothesis, freeKeys_append]
          rw [Bool.not_eq_true] at duplicate
          simp only [duplicate, held, StatusOr.isOk]
          tauto

/-! ## The walk -/

/-- What a call contributes: its entry, if its arguments can be read. -/
def entriesOf : FunctionCallContext → Option (List (Json (PythonNumber Double)))
  | .fullFunctionCall name first others =>
      if name = [] then
        none
      else
        (collectArguments simpleAtod [] (first :: others)).map fun arguments =>
          [pythonToolCall name arguments]
  | .emptyFunctionCall name => some [pythonToolCall name []]

/-- The calls of a parse tree. -/
def callsOf : ExprContext → List FunctionCallContext
  | .functionCalls first others => first :: others
  | .functionCallList calls => calls

theorem entriesOf_isSome (call : FunctionCallContext) :
    (entriesOf simpleAtod call).isSome = true ↔ CallReadable simpleAtod call := by
  cases call with
  | emptyFunctionCall name => simp [entriesOf, CallReadable]
  | fullFunctionCall name first others =>
      rw [entriesOf, CallReadable]
      by_cases unnamed : name = []
      · simp [unnamed]
      · rw [if_neg unnamed, Option.isSome_map, collectArguments_isSome,
          and_iff_left (freeKeys_nil _), and_iff_right unnamed]

/-- Every call has one entry at most. -/
theorem entriesOf_single {call : FunctionCallContext} {entries : List (Json (PythonNumber Double))}
    (contributes : entriesOf simpleAtod call = some entries) : ∃ entry, entries = [entry] := by
  cases call with
  | emptyFunctionCall name =>
      cases contributes
      exact ⟨_, rfl⟩
  | fullFunctionCall name first others =>
      rw [entriesOf] at contributes
      by_cases unnamed : name = []
      · rw [if_pos unnamed] at contributes
        cases contributes
      · rw [if_neg unnamed, Option.map_eq_some_iff] at contributes
        obtain ⟨arguments, -, isEntries⟩ := contributes
        exact ⟨_, isEntries.symm⟩

/-- One call: it adds what it contributes, and the status says whether it could be read. -/
theorem enterFunctionCall_collects :
    Collects (PythonListener.enterFunctionCall simpleAtod) PythonListener.toolCalls
      PythonListener.status (entriesOf simpleAtod) := by
  constructor
  · intro listener call
    cases call with
    | emptyFunctionCall name => rfl
    | fullFunctionCall name first others =>
        rw [PythonListener.enterFunctionCall, entriesOf]
        by_cases unnamed : name = []
        · simp [unnamed]
        · rw [if_neg unnamed, if_neg unnamed]
          cases collectArguments simpleAtod [] (first :: others) <;> simp
  · intro listener call
    cases call with
    | emptyFunctionCall name => rfl
    | fullFunctionCall name first others =>
        rw [PythonListener.enterFunctionCall, entriesOf]
        by_cases unnamed : name = []
        · simp [unnamed]
        · rw [if_neg unnamed, if_neg unnamed]
          cases collectArguments simpleAtod [] (first :: others) <;> rfl

theorem walk_eq_foldl (context : ExprContext) :
    PythonListener.walk simpleAtod context =
      (callsOf context).foldl (PythonListener.enterFunctionCall simpleAtod) {} := by
  cases context <;> rfl

/-- The last call of a tree can be read; a tree without calls has none to read. -/
def LastReadable (context : ExprContext) : Prop :=
  ∀ call ∈ (callsOf context).getLast?, CallReadable simpleAtod call

theorem walk_toolCalls (context : ExprContext) :
    (PythonListener.walk simpleAtod context).toolCalls =
      (callsOf context).flatMap fun call => (entriesOf simpleAtod call).getD [] := by
  rw [walk_eq_foldl, (enterFunctionCall_collects simpleAtod).entries_foldl, List.nil_append]

theorem walk_status (context : ExprContext) :
    (PythonListener.walk simpleAtod context).status = true ↔ LastReadable simpleAtod context := by
  rw [walk_eq_foldl, (enterFunctionCall_collects simpleAtod).status_foldl, LastReadable]
  cases (callsOf context).getLast? with
  | none => simp
  | some call => simp [entriesOf_isSome]

/-! ## The parse -/

/-- No derivation is empty. -/
theorem tokens_ne_nil (context : ExprContext) : context.tokens ≠ [] := by
  cases context <;> exact List.cons_ne_nil _ _

/-- The parse of a derivation returns the entries of its calls, if the last call can be
read. -/
theorem parsePythonExpression_eq_ok_iff {text : Text} {context : ExprContext}
    (lexed : PythonLexer.lex text = some context.tokens)
    (toolCalls : List (Json (PythonNumber Double))) :
    parsePythonExpression simpleAtod text = .ok toolCalls ↔
      LastReadable simpleAtod context ∧
        toolCalls = (callsOf context).flatMap fun call => (entriesOf simpleAtod call).getD [] := by
  have notEmpty : text ≠ [] := by
    rintro rfl
    rw [show PythonLexer.lex [] = some [] from rfl, Option.some.injEq] at lexed
    exact tokens_ne_nil context lexed.symm
  unfold parsePythonExpression
  rw [if_neg notEmpty, lexed, ← walk_status, ← walk_toolCalls]
  dsimp only
  rw [main_reads]
  dsimp only
  cases (PythonListener.walk simpleAtod context).status with
  | false => simp
  | true =>
      rw [if_neg Bool.noConfusion, Except.ok.injEq, and_iff_right rfl]
      exact eq_comm

end LiteRTLM.Components.ToolUse.PythonCalls
