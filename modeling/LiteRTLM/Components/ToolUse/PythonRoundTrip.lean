import Mathlib.Algebra.Order.BigOperators.Group.List
import LiteRTLM.Components.ToolUse.PythonValueTexts

/-!
Contract: a value that `FormatValueAsPython` writes, parsed again as the argument of a call.

Owns: that a tree has the letters of the value read from it, and which values are returned by
`ParsePythonExpression` as they were written.

Does not own: the trees of single values.
-/

namespace LiteRTLM.Components.ToolUse.PythonCalls

open LiteRTLM.Engine
open LiteRTLM.Library.SeparatedItems
open LiteRTLM.Util
open LiteRTLM.Components.ToolUse.PythonGrammar
open LiteRTLM.Components.ToolUse.PythonLexer

variable {Double : Type} {simpleAtod : Text → Option Double} {dumpDouble : Double → Text}

/-! ## The letters of a value -/

/-- The letters `f` of a text. The call has one more than its argument, so no call in front of
another that returns the argument has room. -/
def weight (text : Text) : Nat := text.count 'f'

theorem weight_append (front rest : Text) : weight (front ++ rest) = weight front + weight rest :=
  List.count_append

theorem weight_cons {letter : Char} (other : letter ≠ 'f') (rest : Text) :
    weight (letter :: rest) = weight rest :=
  List.count_cons_of_ne other

def tokensWeight (tokens : List Token) : Nat := weight (tokens.flatMap Token.text)

theorem tokensWeight_cons (token : Token) (rest : List Token) :
    tokensWeight (token :: rest) = weight token.text + tokensWeight rest := by
  rw [tokensWeight, List.flatMap_cons, weight_append]
  rfl

theorem tokensWeight_append (front rest : List Token) :
    tokensWeight (front ++ rest) = tokensWeight front + tokensWeight rest := by
  rw [tokensWeight, List.flatMap_append, weight_append]
  rfl

theorem weight_inQuotes (text : Text) : weight (inQuotes text) = weight text := by
  rw [inQuotes, weight_cons (by decide), weight_append]
  rfl

theorem weight_joinItems (items : List Text) :
    weight (joinItems items) = (items.map weight).sum := by
  induction items with
  | nil => rfl
  | cons item rest inductionHypothesis =>
      rw [List.map_cons, List.sum_cons]
      cases rest with
      | nil =>
          rw [joinItems, List.intercalate_singleton]
          rfl
      | cons second others =>
          have separator : weight [',', ' '] = 0 := rfl
          rw [joinItems] at inductionHypothesis ⊢
          rw [List.intercalate_cons_cons, weight_append, weight_append, inductionHypothesis,
            separator, Nat.add_zero]

theorem tokensWeight_enclosed {Tree : Type} {derivation : Tree → List Token} {close : Token}
    (closeWeight : weight close.text = 0) (trees : List Tree) :
    tokensWeight (enclosedTokens .sep close derivation trees) =
      (trees.map fun tree => tokensWeight (derivation tree)).sum := by
  have closing : tokensWeight [close] = 0 := by
    rw [tokensWeight_cons, closeWeight]
    rfl
  have separated : ∀ others : List Tree, tokensWeight (separatedTokens .sep derivation others) =
      (others.map fun tree => tokensWeight (derivation tree)).sum := by
    intro others
    induction others with
    | nil => rfl
    | cons tree rest inductionHypothesis =>
        have split : separatedTokens Token.sep derivation (tree :: rest) =
            .sep :: (derivation tree ++ separatedTokens .sep derivation rest) := rfl
        rw [split, tokensWeight_cons, tokensWeight_append, inductionHypothesis, List.map_cons,
          List.sum_cons]
        exact Nat.zero_add _
  cases trees with
  | nil => exact closing
  | cons first others =>
      rw [enclosedTokens, tokensWeight_append, tokensWeight_append, separated, closing,
        List.map_cons, List.sum_cons, Nat.add_zero]

theorem stripQuotes_sublist (text : Text) : (stripQuotes text).Sublist text := by
  rw [stripQuotes]
  split
  · exact List.Sublist.refl _
  · exact (List.dropLast_sublist _).trans (List.drop_sublist 1 text)

theorem weight_dumpInt (value : Int) : weight (dumpInt value) = 0 := by
  refine List.count_eq_zero.mpr fun member => ?_
  obtain ⟨digits, isText, -, areDigits⟩ := mem_int.mp (dumpInt_mem value)
  have letters : ∀ letter ∈ dumpInt value, letter = '-' ∨ PythonLexer.isDigit letter = true := by
    rcases isText with isText | isText
    · rw [isText]
      exact fun letter inText => Or.inr (areDigits letter inText)
    · rw [isText]
      exact List.forall_mem_cons.mpr
        ⟨Or.inl rfl, fun letter inText => Or.inr (areDigits letter inText)⟩
  rcases letters 'f' member with impossible | impossible
  · cases impossible
  · cases impossible

/-- The letters of a member in a tree. -/
def memberWeight (dumpDouble : Double → Text) (member : Text × Json (PythonNumber Double)) : Nat :=
  weight member.1 + weight (formatValueAsPython dumpDouble member.2)

/-- What is kept of a list weighs no more than the list without something dropped. -/
theorem sum_filter_add_le {Item : Type} (weightOf : Item → Nat) (kept : Item → Bool)
    {items : List Item} {dropped : Item} (member : dropped ∈ items)
    (isDropped : kept dropped = false) :
    weightOf dropped + ((items.filter kept).map weightOf).sum ≤ (items.map weightOf).sum := by
  induction items with
  | nil => cases member
  | cons item rest inductionHypothesis =>
      rw [List.map_cons, List.sum_cons]
      cases List.mem_cons.mp member with
      | inl same =>
          subst same
          rw [List.filter_cons_of_neg (by simp [isDropped])]
          have fewer : ((rest.filter kept).map weightOf).sum ≤ (rest.map weightOf).sum :=
            (List.filter_sublist.map weightOf).sum_le_sum fun _ _ => Nat.zero_le _
          omega
      | inr later =>
          have others := inductionHypothesis later
          by_cases isKept : kept item = true
          · rw [List.filter_cons_of_pos isKept, List.map_cons, List.sum_cons]
            omega
          · rw [List.filter_cons_of_neg isKept]
            omega

theorem mem_of_instanceType {Number : Type} {name : Text} {members : List (Text × Json Number)}
    (isInstance : instanceType members = some name) : (typeKey, .string name) ∈ members := by
  rw [instanceType] at isInstance
  split at isInstance
  · rename_i key _ found
    cases isInstance
    have accepted := List.find?_some found
    have isKey : key = typeKey := of_decide_eq_true accepted
    exact isKey ▸ List.mem_of_find?_eq_some found
  · cases isInstance

/-- An object is written with the letters of its members at most. -/
theorem weight_format_object (members : List (Text × Json (PythonNumber Double))) :
    weight (formatValueAsPython dumpDouble (.object members)) ≤
      (members.map (memberWeight dumpDouble)).sum := by
  cases isInstance : instanceType members with
  | none =>
      have split : formatValueAsPython dumpDouble (.object members) ++ [] = _ :=
        format_dict isInstance []
      rw [List.append_nil] at split
      rw [split, weight_cons (by decide), weight_append, weight_joinItems, List.map_map]
      have closing : weight (['}'] ++ []) = 0 := rfl
      rw [closing, Nat.add_zero]
      refine Nat.le_of_eq (congrArg List.sum (List.map_congr_left fun member _ => ?_))
      rw [Function.comp_apply, memberText, weight_append, weight_append, weight_inQuotes]
      have separator : weight [':', ' '] = 0 := rfl
      rw [separator, Nat.zero_add]
      rfl
  | some name =>
      have split : formatValueAsPython dumpDouble (.object members) ++ [] = _ :=
        format_instance isInstance []
      rw [List.append_nil] at split
      have opening : weight ['('] = 0 := rfl
      have closing : weight [')'] = 0 := rfl
      have fewer := sum_filter_add_le (memberWeight dumpDouble)
        (fun member => member.1 ≠ typeKey) (mem_of_instanceType isInstance) (by simp)
      have isType : memberWeight dumpDouble (typeKey, .string name) = weight name := by
        rw [memberWeight, formatValueAsPython, weight_inQuotes]
        exact Nat.zero_add _
      have inside : weight (kwargsText (members.map fun member =>
          (member.1, formatValueAsPython dumpDouble member.2))) =
            ((members.filter fun member => member.1 ≠ typeKey).map
              (memberWeight dumpDouble)).sum := by
        rw [kwargsText, weight_joinItems, List.map_map, List.filter_map, List.map_map]
        refine congrArg List.sum (List.map_congr_left fun member _ => ?_)
        rw [Function.comp_apply, Function.comp_apply, weight_append, weight_cons (by decide)]
        rfl
      rw [split, weight_append, weight_cons (by decide), weight_append, inside, closing]
      omega

/-- Related items weigh no more. -/
theorem sum_le_sum_of_forall₂ {Item Tree : Type} {related : Item → Tree → Prop}
    {itemWeight : Item → Nat} {treeWeight : Tree → Nat} {items : List Item} {trees : List Tree}
    (lighter : ∀ item ∈ items, ∀ tree, related item tree → itemWeight item ≤ treeWeight tree)
    (each : List.Forall₂ related items trees) :
    (items.map itemWeight).sum ≤ (trees.map treeWeight).sum := by
  have weights := forall₂_of_mem lighter each
  exact List.Forall₂.sum_le_sum
    (List.forall₂_map_left_iff.mpr (List.forall₂_map_right_iff.mpr weights))

/-- **A tree has the letters of its value.** What is read from a tree is written with no more
letters `f` than the tree has. -/
theorem weight_format_le {isType : Text → Prop} {value : Json (PythonNumber Double)}
    (written : Written isType value) {context : ValueContext}
    (read : ReadFrom simpleAtod value context) :
    weight (formatValueAsPython dumpDouble value) ≤ tokensWeight context.tokens := by
  induction written generalizing context with
  | null =>
      rw [formatValueAsPython]
      exact Nat.zero_le _
  | boolean truth =>
      rw [formatValueAsPython]
      cases truth <;> exact Nat.zero_le _
  | @int number low high =>
      have noLetters : weight (dumpNumber dumpDouble (.int number)) = 0 := weight_dumpInt number
      rw [formatValueAsPython, noLetters]
      exact Nat.zero_le _
  | string text =>
      generalize isValue : Json.string text = value at read
      cases readFrom_shape read with
      | string quoted =>
          obtain rfl := Json.string.inj isValue
          have sameWeight : tokensWeight (ValueContext.string quoted).tokens = weight quoted := by
            rw [ValueContext.tokens, tokensWeight_cons]
            rfl
          rw [formatValueAsPython, weight_inQuotes, sameWeight]
          exact (stripQuotes_sublist quoted).count_le 'f'
      | _ => cases isValue
  | @array elements parts inductionHypothesis =>
      cases readFrom_shape read with
      | @list _ contexts reads =>
          have split : formatValueAsPython dumpDouble (.array elements) ++ [] = _ :=
            format_array elements []
          rw [List.append_nil] at split
          have closing : weight ([']'] ++ []) = 0 := rfl
          have opening : weight Token.listOpen.text = 0 := rfl
          rw [split, weight_cons (by decide), weight_append, weight_joinItems, List.map_map,
            closing, list_tokens, tokensWeight_cons, tokensWeight_enclosed rfl, opening,
            Nat.zero_add, Nat.add_zero]
          exact sum_le_sum_of_forall₂
            (fun element member tree found => inductionHypothesis element member found) reads
  | @object members distinct typed parts inductionHypothesis =>
      refine (weight_format_object members).trans ?_
      cases readFrom_shape read with
      | @dict _ pairs reads =>
          have opening : weight Token.openBrace.text = 0 := rfl
          rw [dict_tokens, tokensWeight_cons, tokensWeight_enclosed rfl, opening, Nat.zero_add]
          refine sum_le_sum_of_forall₂ (fun member isMember pair found => ?_) reads
          have value := inductionHypothesis member isMember found.2
          have key : weight member.1 ≤ weight pair.1 := by
            rw [← found.1]
            exact (stripQuotes_sublist pair.1).count_le 'f'
          have colon : weight Token.colon.text = 0 := rfl
          rw [memberWeight, pairTokens, tokensWeight_cons, tokensWeight_cons, colon]
          have string : weight (Token.string pair.1).text = weight pair.1 := rfl
          omega
      | @object name argVals _ reads =>
          obtain ⟨held, added, isHeld, rfl, each⟩ := parsePythonObject_ok reads
          have opening : weight Token.openPar.text = 0 := rfl
          have isName : weight (Token.name name).text = weight name := rfl
          have isTag : memberWeight dumpDouble ("__type__".toList, .string name) = weight name := by
            rw [memberWeight, formatValueAsPython, weight_inQuotes]
            exact Nat.zero_add _
          have values : (added.map (memberWeight dumpDouble)).sum ≤
              (held.map fun argVal => tokensWeight (argValTokens argVal)).sum := by
            refine sum_le_sum_of_forall₂ (fun member isMember argVal found => ?_) each
            have value := inductionHypothesis member
              (List.mem_append_right _ isMember) found.2
            have equals : weight Token.eq.text = 0 := rfl
            have isArgName : weight (Token.name argVal.1).text = weight member.1 :=
              congrArg weight found.1
            rw [memberWeight, argValTokens, tokensWeight_cons, tokensWeight_cons, equals,
              isArgName]
            omega
          have fewer : (held.map fun argVal => tokensWeight (argValTokens argVal)).sum ≤
              (argVals.map fun argVal => tokensWeight (argValTokens argVal)).sum :=
            (isHeld.map _).sum_le_sum fun _ _ => Nat.zero_le _
          rw [object_tokens, tokensWeight_cons, tokensWeight_cons, tokensWeight_enclosed rfl,
            opening, isName, List.singleton_append, List.map_cons, List.sum_cons, isTag]
          omega

/-! ## The call around a value -/

def callText (dumpDouble : Double → Text) (value : Json (PythonNumber Double)) : Text :=
  ['f', '(', 'x', '='] ++ (formatValueAsPython dumpDouble value ++ [')'])

/-- The text is parsed as one call whose argument is the value. -/
def RoundTrips (simpleAtod : Text → Option Double) (dumpDouble : Double → Text)
    (value : Json (PythonNumber Double)) : Prop :=
  parsePythonExpression simpleAtod (callText dumpDouble value) =
    .ok [pythonToolCall ['f'] [(['x'], value)]]

theorem callText_ne_nil (value : Json (PythonNumber Double)) : callText dumpDouble value ≠ [] :=
  List.cons_ne_nil _ _

/-- The tokens of a call up to its argument. -/
theorem lex_callText (value : Json (PythonNumber Double)) :
    lex (callText dumpDouble value) =
      (lex (formatValueAsPython dumpDouble value ++ [')'])).map fun later =>
        .name ['f'] :: .openPar :: .name ['x'] :: .eq :: later := by
  have isFunction : IsName ['f'] := ⟨'f', [], rfl, rfl, nofun⟩
  have isArgument : IsName ['x'] := ⟨'x', [], rfl, rfl, nofun⟩
  have function := lexesTo_word isFunction
    ('(' :: 'x' :: '=' :: (formatValueAsPython dumpDouble value ++ [')']))
    (stops_openPar _)
  have argument := lexesTo_word isArgument
    ('=' :: (formatValueAsPython dumpDouble value ++ [')'])) (stops_eq _)
  have split : callText dumpDouble value = ['f'] ++ '(' :: 'x' :: '=' ::
      (formatValueAsPython dumpDouble value ++ [')']) := rfl
  rw [split, function, lex_openPar]
  rw [List.singleton_append] at argument
  rw [argument, lex_eq, Option.map_map, Option.map_map, Option.map_map]
  rfl

/-- The tree of such a call. -/
def callContext (context : ValueContext) : FunctionCallContext :=
  .fullFunctionCall ['f'] (['x'], context) []

theorem callContext_tokens (context : ValueContext) :
    (callContext context).tokens =
      .name ['f'] :: .openPar :: .name ['x'] :: .eq :: (context.tokens ++ [.closePar]) := rfl

/-- A value that survives is returned. -/
theorem roundTrips_of_survives {isType : Text → Prop} {value : Json (PythonNumber Double)}
    (written : Written isType value) (survive : survives value = true) :
    RoundTrips simpleAtod dumpDouble value := by
  obtain ⟨context, read, lexes, hasText⟩ := exists_context written survive
  have lexed : lex (callText dumpDouble value) =
      some (ExprContext.functionCalls (callContext context) []).tokens := by
    have stops : Stops [')'] := closes_closePar.stops []
    have behind : lex [')'] = some [.closePar] := rfl
    rw [lex_callText, lexes _ stops, behind, ExprContext.tokens,
      List.flatMap_singleton, callContext_tokens]
    rfl
  have collected : collectArguments simpleAtod [] [(['x'], context)] = some [(['x'], value)] := by
    have parses : parsePythonValue simpleAtod context = .ok value := read
    rw [collectArguments, if_neg (by simp [hasText]), parses]
    rfl
  have entry : entriesOf simpleAtod (callContext context) =
      some [pythonToolCall ['f'] [(['x'], value)]] := by
    rw [callContext, entriesOf, if_neg (List.cons_ne_nil _ _), collected]
    rfl
  refine (parsePythonExpression_eq_ok_iff simpleAtod lexed _).mpr ⟨?_, ?_⟩
  · intro call isLast
    have isCall : callContext context = call := Option.some.inj isLast
    rw [← isCall, ← entriesOf_isSome, entry]
    rfl
  · rw [callsOf, List.flatMap_cons, entry]
    rfl

/-- What a parse returns OK is lexed and has a tree. -/
theorem exists_tree_of_ok {text : Text} {toolCalls : List (Json (PythonNumber Double))}
    (nonempty : text ≠ []) (parses : parsePythonExpression simpleAtod text = .ok toolCalls) :
    ∃ context : ExprContext, lex text = some context.tokens := by
  rw [parsePythonExpression, if_neg nonempty] at parses
  cases lexed : lex text with
  | none =>
      rw [lexed] at parses
      cases parses
  | some tokens =>
      rw [lexed] at parses
      dsimp only at parses
      cases read : main tokens with
      | none =>
          rw [read] at parses
          cases parses
      | some context => exact ⟨context, by rw [main_derives read]⟩

theorem pythonToolCall_inj {name other : Text}
    {arguments others : List (Text × Json (PythonNumber Double))}
    (same : pythonToolCall name arguments = pythonToolCall other others) :
    name = other ∧ arguments = others := by
  have members := Json.object.inj same
  rw [List.cons.injEq, Prod.mk.injEq, Json.string.injEq] at members
  obtain ⟨⟨-, sameName⟩, rest⟩ := members
  refine ⟨sameName, ?_⟩
  split_ifs at rest with empty otherEmpty otherEmpty
  · rw [empty, otherEmpty]
  · rw [List.cons.injEq, Prod.mk.injEq, Json.object.injEq] at rest
    exact rest.1.2

/-- The only call that has this entry. -/
theorem call_of_entry {call : FunctionCallContext} {value : Json (PythonNumber Double)}
    (contributes : pythonToolCall ['f'] [(['x'], value)] ∈ (entriesOf simpleAtod call).getD []) :
    ∃ context, call = callContext context ∧ ReadFrom simpleAtod value context := by
  cases call with
  | emptyFunctionCall name =>
      have same := List.mem_singleton.mp contributes
      cases (pythonToolCall_inj same).2
  | fullFunctionCall name first others =>
      rw [entriesOf] at contributes
      split_ifs at contributes with unnamed
      · cases contributes
      · cases collected : collectArguments simpleAtod [] (first :: others) with
        | none =>
            rw [collected] at contributes
            cases contributes
        | some arguments =>
            rw [collected] at contributes
            have same := List.mem_singleton.mp contributes
            obtain ⟨rfl, rfl⟩ := pythonToolCall_inj same
            obtain ⟨added, isAdded, each⟩ := collectArguments_ok collected
            rw [List.nil_append] at isAdded
            subst isAdded
            cases each with
            | cons isFirst isOthers =>
                cases isOthers
                obtain ⟨argName, context⟩ := first
                obtain ⟨sameName, read⟩ := isFirst
                obtain rfl : argName = ['x'] := sameName
                exact ⟨context, rfl, read⟩

/-- The letters of the text, which has one `f` in front of the value. -/
theorem weight_callText (value : Json (PythonNumber Double)) :
    weight (callText dumpDouble value) = weight (formatValueAsPython dumpDouble value) + 1 := by
  have front : weight ['f', '(', 'x', '='] = 1 := rfl
  have closing : weight [')'] = 0 := rfl
  rw [callText, weight_append, weight_append, front, closing]
  omega

theorem tokensWeight_callContext (context : ValueContext) :
    tokensWeight (callContext context).tokens = tokensWeight context.tokens + 1 := by
  have function : weight (Token.name ['f']).text = 1 := rfl
  have opening : weight Token.openPar.text = 0 := rfl
  have argument : weight (Token.name ['x']).text = 0 := rfl
  have equals : weight Token.eq.text = 0 := rfl
  have closing : tokensWeight [.closePar] = 0 := rfl
  rw [callContext_tokens, tokensWeight_cons, tokensWeight_cons, tokensWeight_cons,
    tokensWeight_cons, tokensWeight_append, function, opening, argument, equals, closing]
  omega

/-- A call weighs no more than the calls it is one of. -/
theorem tokensWeight_le_of_mem {call : FunctionCallContext} {calls : List FunctionCallContext}
    (member : call ∈ calls) :
    tokensWeight call.tokens ≤ tokensWeight (calls.flatMap FunctionCallContext.tokens) := by
  obtain ⟨before, after, rfl⟩ := List.append_of_mem member
  rw [List.flatMap_append, List.flatMap_cons, tokensWeight_append, tokensWeight_append]
  omega

/-- A value that is returned survives. -/
theorem survives_of_roundTrips {value : Json (PythonNumber Double)}
    (written : Written IsName value) (returned : RoundTrips simpleAtod dumpDouble value) :
    survives value = true := by
  obtain ⟨tree, lexed⟩ := exists_tree_of_ok (callText_ne_nil value) returned
  obtain ⟨-, isEntry⟩ := (parsePythonExpression_eq_ok_iff simpleAtod lexed _).mp returned
  have letters : weight (callText dumpDouble value) = tokensWeight tree.tokens := count_lex lexed
  rw [lex_callText] at lexed
  obtain ⟨later, lexedValue, isTokens⟩ := Option.map_eq_some_iff.mp lexed
  cases tree with
  | functionCallList calls => cases (List.cons.inj isTokens).1
  | functionCalls first others =>
      rw [callsOf] at isEntry
      have inCalls : pythonToolCall ['f'] [(['x'], value)] ∈
          (first :: others).flatMap fun call => (entriesOf simpleAtod call).getD [] := by
        rw [← isEntry]
        exact List.mem_singleton_self _
      obtain ⟨call, isCall, inEntries⟩ := List.mem_flatMap.mp inCalls
      obtain ⟨context, rfl, read⟩ := call_of_entry inEntries
      rw [ExprContext.tokens, List.flatMap_cons] at isTokens letters
      cases List.mem_cons.mp isCall with
      | inl isFirst =>
          rw [← isFirst, callContext_tokens] at isTokens
          simp only [List.cons_append, List.append_assoc, List.cons.injEq, true_and] at isTokens
          rw [isTokens] at lexedValue
          exact (recovers_value written read _ _ (closes_closePar.stops _) lexedValue).1
      | inr behind =>
          -- the call in front has the first `f`, and this one has all the others
          have isName : first.name = ['f'] := by
            rw [FunctionCallContext.tokens, List.cons_append] at isTokens
            exact (Token.name.inj (List.cons.inj isTokens).1).symm
          have front : 1 ≤ tokensWeight first.tokens := by
            have function : weight (Token.name ['f']).text = 1 := rfl
            rw [FunctionCallContext.tokens, tokensWeight_cons, isName, function]
            omega
          have lighter : weight (formatValueAsPython dumpDouble value) ≤ _ :=
            weight_format_le written read
          have part := tokensWeight_le_of_mem behind
          rw [weight_callText, tokensWeight_append] at letters
          rw [tokensWeight_callContext] at part
          omega

/-- **Writing and parsing a value.** A value is returned as it was written if every string and
every key in it is one string between quotes and no object in it is an instance. Where the types
of instances are names, only these values are. -/
theorem roundTrips_iff_survives (simpleAtod : Text → Option Double) (dumpDouble : Double → Text)
    (value : Json (PythonNumber Double)) :
    (Written (fun _ => True) value → survives value = true →
      RoundTrips simpleAtod dumpDouble value) ∧
    (Written IsName value → (RoundTrips simpleAtod dumpDouble value ↔ survives value = true)) :=
  ⟨roundTrips_of_survives,
    fun written => ⟨survives_of_roundTrips written, roundTrips_of_survives written⟩⟩

/-- A dict with a list. -/
def nestedValue : Json (PythonNumber Nat) :=
  .object [("it's".toList, .array [.number (.int (-12)), .null]), (['s'], .string "ok".toList)]

theorem nestedValue_written (isType : Text → Prop) : Written isType nestedValue := by
  refine .object (by decide) nofun ?_
  rintro member (_ | ⟨_, _ | ⟨_, ⟨⟩⟩⟩)
  · refine .array ?_
    rintro element (_ | ⟨_, _ | ⟨_, ⟨⟩⟩⟩)
    · exact .int (by decide) (by decide)
    · exact .null
  · exact .string _

/-- It is returned. -/
theorem roundTrips_nestedValue :
    (Written (fun _ => True) nestedValue ∧ survives nestedValue = true ∧
      RoundTrips (fun _ => none) (fun _ => []) nestedValue) ∧
    Written IsName nestedValue ∧
      (RoundTrips (fun _ => none) (fun _ => []) nestedValue ↔ survives nestedValue = true) :=
  ⟨⟨nestedValue_written _, rfl,
      (roundTrips_iff_survives _ _ nestedValue).1 (nestedValue_written _) rfl⟩,
    nestedValue_written _, (roundTrips_iff_survives _ _ nestedValue).2 (nestedValue_written _)⟩

/-- A string with a quote in it. -/
def quotedValue : Json (PythonNumber Nat) := .string ['a', '"', 'b']

def instanceValue : Json (PythonNumber Nat) :=
  .object [(typeKey, .string ['T']), (['a'], .boolean true)]

/-- The tokens of a call with that instance. -/
theorem lex_instanceValue : lex (callText (fun _ => []) instanceValue) =
    some (ExprContext.functionCalls
      (callContext (.object ['T'] [(['a'], .bool ['T', 'r', 'u', 'e'])])) []).tokens := by
  have lexed : lex (callText (fun _ => []) instanceValue) =
      some [.name ['f'], .openPar, .name ['x'], .eq, .name ['T'], .openPar, .name ['a'], .eq,
        .bool ['T', 'r', 'u', 'e'], .closePar, .closePar] := by
    decide +kernel
  rw [lexed]
  rfl

/-- The lexer refuses a string with a quote in it, and an instance comes back with its type
under another key. -/
theorem roundTrips_fails_quote_instance :
    (Written IsName quotedValue ∧
      parsePythonExpression (fun _ => none) (callText (fun _ => []) quotedValue) =
        (.error (.invalidArgumentError "Failed to parse tool call: Lexer reported errors.") :
          StatusOr (List (Json (PythonNumber Nat)))) ∧
      ¬RoundTrips (fun _ => none) (fun _ => []) quotedValue) ∧
    Written IsName instanceValue ∧
      parsePythonExpression (fun _ => none) (callText (fun _ => []) instanceValue) =
        (.ok [pythonToolCall ['f'] [(['x'],
          .object [("__type__".toList, .string ['T']), (['a'], .boolean true)])]] :
            StatusOr (List (Json (PythonNumber Nat)))) ∧
      ¬RoundTrips (fun _ => none) (fun _ => []) instanceValue := by
  have quoted : parsePythonExpression (fun _ => none) (callText (fun _ => []) quotedValue) =
      (.error (.invalidArgumentError "Failed to parse tool call: Lexer reported errors.") :
        StatusOr (List (Json (PythonNumber Nat)))) := by
    have refused : lex (callText (fun _ => []) quotedValue) = none := by decide +kernel
    rw [parsePythonExpression, if_neg (callText_ne_nil _), refused]
  have instantiated : parsePythonExpression (fun _ => none)
      (callText (fun _ => []) instanceValue) =
        (.ok [pythonToolCall ['f'] [(['x'],
          .object [("__type__".toList, .string ['T']), (['a'], .boolean true)])]] :
            StatusOr (List (Json (PythonNumber Nat)))) := by
    refine (parsePythonExpression_eq_ok_iff _ lex_instanceValue _).mpr ⟨?_, rfl⟩
    intro call isLast
    cases isLast
    rw [← entriesOf_isSome]
    rfl
  refine ⟨⟨.string _, quoted, ?_⟩, ?_, instantiated, ?_⟩
  · intro returned
    rw [RoundTrips, quoted] at returned
    cases returned
  · refine .object (by decide) ?_ ?_
    · intro name isType
      obtain rfl := Option.some.inj isType
      exact ⟨'T', [], rfl, rfl, nofun⟩
    · rintro member (_ | ⟨_, _ | ⟨_, ⟨⟩⟩⟩)
      · exact .string _
      · exact .boolean _
  · intro returned
    rw [RoundTrips, instantiated] at returned
    cases returned

end LiteRTLM.Components.ToolUse.PythonCalls
