import LiteRTLM.Library.SeparatedItems
import LiteRTLM.Components.ToolUse.PythonLexer

/-!
Contract: the grammar of Python tool calls, `AntlrPythonParser`.

Owns: the parse trees of the grammar with the tokens each is derived from, the parser, and that
it finds the tree of exactly those tokens which are a derivation.

Does not own: what is read off a tree.
-/

namespace LiteRTLM.Components.ToolUse.PythonGrammar

open LiteRTLM.Components.ToolUse.PythonLexer
open LiteRTLM.Library.SeparatedItems
open LiteRTLM.Util

/-! ## Parse trees -/

/-- `value`, with `list`, `dict` and `object`. A pair of a dict has the text of its key, an
`argVal` that of its name. -/
inductive ValueContext where
  | int (text : Text)
  | float (text : Text)
  | bool (text : Text)
  | string (text : Text)
  | none
  | list (values : List ValueContext)
  | dict (pairs : List (Text × ValueContext))
  | object (name : Text) (argVals : List (Text × ValueContext))

abbrev ArgValContext := Text × ValueContext

/-- `functionCall`: a full call with its first argument and the others, or an empty one. -/
inductive FunctionCallContext where
  | fullFunctionCall (name : Text) (first : ArgValContext) (others : List ArgValContext)
  | emptyFunctionCall (name : Text)

/-- `expr`: calls one after another, or a `functionCallList`. -/
inductive ExprContext where
  | functionCalls (first : FunctionCallContext) (others : List FunctionCallContext)
  | functionCallList (calls : List FunctionCallContext)

/-! ## Derivations -/

mutual

def ValueContext.tokens : ValueContext → List Token
  | .int text => [.int text]
  | .float text => [.float text]
  | .bool text => [.bool text]
  | .string text => [.string text]
  | .none => [.none]
  | .list [] => [.listOpen, .listClose]
  | .list (first :: others) => .listOpen :: (first.tokens ++ (moreValues others ++ [.listClose]))
  | .dict [] => [.openBrace, .closeBrace]
  | .dict ((key, value) :: others) =>
      .openBrace :: .string key :: .colon ::
        (value.tokens ++ (morePairs others ++ [.closeBrace]))
  | .object name [] => [.name name, .openPar, .closePar]
  | .object name ((argName, value) :: others) =>
      .name name :: .openPar :: .name argName :: .eq ::
        (value.tokens ++ (moreArgVals others ++ [.closePar]))

/-- The tokens of `( SEP value )*`. -/
def moreValues : List ValueContext → List Token
  | [] => []
  | value :: others => .sep :: (value.tokens ++ moreValues others)

/-- The tokens of `( SEP STRING COLON value )*`. -/
def morePairs : List (Text × ValueContext) → List Token
  | [] => []
  | (key, value) :: others => .sep :: .string key :: .colon :: (value.tokens ++ morePairs others)

/-- The tokens of `( SEP argVal )*`. -/
def moreArgVals : List (Text × ValueContext) → List Token
  | [] => []
  | (name, value) :: others => .sep :: .name name :: .eq :: (value.tokens ++ moreArgVals others)

end

/-- The tokens of `STRING COLON value`. -/
def pairTokens (pair : Text × ValueContext) : List Token :=
  .string pair.1 :: .colon :: pair.2.tokens

def argValTokens (argVal : ArgValContext) : List Token :=
  .name argVal.1 :: .eq :: argVal.2.tokens

def FunctionCallContext.argVals : FunctionCallContext → List ArgValContext
  | fullFunctionCall _ first others => first :: others
  | emptyFunctionCall _ => []

def FunctionCallContext.name : FunctionCallContext → Text
  | fullFunctionCall name _ _ => name
  | emptyFunctionCall name => name

def FunctionCallContext.tokens (call : FunctionCallContext) : List Token :=
  .name call.name :: .openPar :: enclosedTokens .sep .closePar argValTokens call.argVals

def ExprContext.tokens : ExprContext → List Token
  | functionCalls first others => (first :: others).flatMap FunctionCallContext.tokens
  | functionCallList calls =>
      .listOpen :: enclosedTokens .sep .listClose FunctionCallContext.tokens calls

/-! ## The parser -/

/-- `STRING COLON value`. -/
def pair (value : Parser Token ValueContext) : Parser Token (Text × ValueContext)
  | .string key :: .colon :: tokens => do
      let (read, rest) ← value tokens
      return ((key, read), rest)
  | _ => none

def argVal (value : Parser Token ValueContext) : Parser Token ArgValContext
  | .name name :: .eq :: tokens => do
      let (read, rest) ← value tokens
      return ((name, read), rest)
  | _ => none

/-- `value()`, with `list()`, `dict()` and `object()`. -/
def value : Nat → Parser Token ValueContext
  | 0 => fun _ => none
  | fuel + 1 => fun tokens =>
      match tokens with
      | .int text :: rest => some (.int text, rest)
      | .float text :: rest => some (.float text, rest)
      | .bool text :: rest => some (.bool text, rest)
      | .string text :: rest => some (.string text, rest)
      | .none :: rest => some (.none, rest)
      | .listOpen :: rest => do
          let (values, rest) ← enclosedItems .sep .listClose (value fuel) rest
          return (.list values, rest)
      | .openBrace :: rest => do
          let (pairs, rest) ← enclosedItems .sep .closeBrace (pair (value fuel)) rest
          return (.dict pairs, rest)
      | .name name :: .openPar :: rest => do
          let (argVals, rest) ← enclosedItems .sep .closePar (argVal (value fuel)) rest
          return (.object name argVals, rest)
      | _ => none

/-- `functionCall()`, with the rules of its parts. -/
def functionCall (fuel : Nat) : Parser Token FunctionCallContext
  | .name name :: .openPar :: rest => do
      let (argVals, rest) ← enclosedItems .sep .closePar (argVal (value fuel)) rest
      match argVals with
      | [] => return (.emptyFunctionCall name, rest)
      | first :: others => return (.fullFunctionCall name first others, rest)
  | _ => none

/-- `main()`, with `expr()`. -/
def main (tokens : List Token) : Option ExprContext :=
  let fuel := tokens.length
  match tokens with
  | .listOpen :: rest => do
      let (calls, rest) ← enclosedItems .sep .listClose (functionCall fuel) rest
      match rest with
      | [] => return .functionCallList calls
      | _ => none
  | _ => do
      let calls ← itemsToEnd (functionCall fuel) fuel tokens
      match calls with
      | [] => none
      | first :: others => return .functionCalls first others

/-! ## The tokens of the parts -/

theorem moreValues_eq (values : List ValueContext) :
    moreValues values = separatedTokens .sep ValueContext.tokens values := by
  induction values with
  | nil => rw [moreValues, separatedTokens, List.flatMap_nil]
  | cons value others inductionHypothesis =>
      rw [moreValues, inductionHypothesis, separatedTokens, separatedTokens, List.flatMap_cons]
      rfl

theorem morePairs_eq (pairs : List (Text × ValueContext)) :
    morePairs pairs = separatedTokens .sep pairTokens pairs := by
  induction pairs with
  | nil => rw [morePairs, separatedTokens, List.flatMap_nil]
  | cons pair others inductionHypothesis =>
      rw [morePairs, inductionHypothesis, separatedTokens, separatedTokens, List.flatMap_cons]
      rfl

theorem moreArgVals_eq (argVals : List ArgValContext) :
    moreArgVals argVals = separatedTokens .sep argValTokens argVals := by
  induction argVals with
  | nil => rw [moreArgVals, separatedTokens, List.flatMap_nil]
  | cons argVal others inductionHypothesis =>
      rw [moreArgVals, inductionHypothesis, separatedTokens, separatedTokens, List.flatMap_cons]
      rfl

theorem list_tokens (values : List ValueContext) :
    (ValueContext.list values).tokens =
      .listOpen :: enclosedTokens .sep .listClose ValueContext.tokens values := by
  cases values with
  | nil => rw [ValueContext.tokens, enclosedTokens]
  | cons first others => rw [ValueContext.tokens, moreValues_eq, enclosedTokens]

theorem dict_tokens (pairs : List (Text × ValueContext)) :
    (ValueContext.dict pairs).tokens =
      .openBrace :: enclosedTokens .sep .closeBrace pairTokens pairs := by
  cases pairs with
  | nil => rw [ValueContext.tokens, enclosedTokens]
  | cons first others =>
      rw [ValueContext.tokens, morePairs_eq, enclosedTokens]
      rfl

theorem object_tokens (name : Text) (argVals : List ArgValContext) :
    (ValueContext.object name argVals).tokens =
      .name name :: .openPar :: enclosedTokens .sep .closePar argValTokens argVals := by
  cases argVals with
  | nil => rw [ValueContext.tokens, enclosedTokens]
  | cons first others =>
      rw [ValueContext.tokens, moreArgVals_eq, enclosedTokens]
      rfl

/-! ## What is read is derived -/

section Derived

variable {parser : Parser Token ValueContext}

theorem pair_readsDerivations (reads : ReadsDerivations parser ValueContext.tokens) :
    ReadsDerivations (pair parser) pairTokens := by
  intro tokens tree rest read
  unfold pair at read
  split at read
  · rw [Option.bind_eq_bind, Option.bind_eq_some_iff] at read
    obtain ⟨⟨context, behind⟩, readValue, isRead⟩ := read
    cases isRead
    rw [reads readValue]
    rfl
  · cases read

theorem argVal_readsDerivations (reads : ReadsDerivations parser ValueContext.tokens) :
    ReadsDerivations (argVal parser) argValTokens := by
  intro tokens tree rest read
  unfold argVal at read
  split at read
  · rw [Option.bind_eq_bind, Option.bind_eq_some_iff] at read
    obtain ⟨⟨context, behind⟩, readValue, isRead⟩ := read
    cases isRead
    rw [reads readValue]
    rfl
  · cases read

end Derived

theorem value_readsDerivations (fuel : Nat) :
    ReadsDerivations (value fuel) ValueContext.tokens := by
  induction fuel with
  | zero =>
      intro tokens tree rest read
      cases read
  | succ fuel inductionHypothesis =>
      intro tokens tree rest read
      simp only [value] at read
      split at read
      · cases read
        rfl
      · cases read
        rfl
      · cases read
        rfl
      · cases read
        rfl
      · cases read
        rfl
      · rw [Option.bind_eq_bind, Option.bind_eq_some_iff] at read
        obtain ⟨⟨values, behind⟩, readValues, isRead⟩ := read
        cases isRead
        rw [enclosedItems_readsDerivations inductionHypothesis readValues, list_tokens]
        rfl
      · rw [Option.bind_eq_bind, Option.bind_eq_some_iff] at read
        obtain ⟨⟨pairs, behind⟩, readPairs, isRead⟩ := read
        cases isRead
        rw [enclosedItems_readsDerivations (pair_readsDerivations inductionHypothesis) readPairs,
          dict_tokens]
        rfl
      · rw [Option.bind_eq_bind, Option.bind_eq_some_iff] at read
        obtain ⟨⟨argVals, behind⟩, readArgVals, isRead⟩ := read
        cases isRead
        rw [enclosedItems_readsDerivations (argVal_readsDerivations inductionHypothesis)
          readArgVals, object_tokens]
        rfl
      · cases read

theorem functionCall_readsDerivations (fuel : Nat) :
    ReadsDerivations (functionCall fuel) FunctionCallContext.tokens := by
  intro tokens call rest read
  unfold functionCall at read
  split at read
  · rw [Option.bind_eq_bind, Option.bind_eq_some_iff] at read
    obtain ⟨⟨argVals, behind⟩, readArgVals, isRead⟩ := read
    rw [enclosedItems_readsDerivations (argVal_readsDerivations (value_readsDerivations fuel))
      readArgVals]
    cases argVals with
    | nil =>
        cases isRead
        rfl
    | cons first others =>
        cases isRead
        rfl
  · cases read

/-! ## What is derived is read -/

/-- No value begins with a closing bracket. -/
theorem value_tokens_cons (context : ValueContext) :
    ∃ token behind, context.tokens = token :: behind ∧ token ≠ .listClose := by
  cases context with
  | int text => exact ⟨.int text, [], by rw [ValueContext.tokens], nofun⟩
  | float text => exact ⟨.float text, [], by rw [ValueContext.tokens], nofun⟩
  | bool text => exact ⟨.bool text, [], by rw [ValueContext.tokens], nofun⟩
  | string text => exact ⟨.string text, [], by rw [ValueContext.tokens], nofun⟩
  | none => exact ⟨.none, [], by rw [ValueContext.tokens], nofun⟩
  | list values => exact ⟨_, _, list_tokens values, nofun⟩
  | dict pairs => exact ⟨_, _, dict_tokens pairs, nofun⟩
  | object name argVals => exact ⟨_, _, object_tokens name argVals, nofun⟩

section Read

variable {parser : Parser Token ValueContext}

theorem pair_reads (read : Text × ValueContext)
    (valueReads : Reads parser ValueContext.tokens read.2) :
    Reads (pair parser) pairTokens read := by
  intro rest
  show pair parser (.string read.1 :: .colon :: (read.2.tokens ++ rest)) = some (read, rest)
  rw [pair, valueReads rest]
  rfl

theorem argVal_reads (read : ArgValContext)
    (valueReads : Reads parser ValueContext.tokens read.2) :
    Reads (argVal parser) argValTokens read := by
  intro rest
  show argVal parser (.name read.1 :: .eq :: (read.2.tokens ++ rest)) = some (read, rest)
  rw [argVal, valueReads rest]
  rfl

/-- Arguments are read, if the shorter values are. -/
theorem argVals_read (argVals : List ArgValContext)
    (shorterRead : ∀ context : ValueContext,
      context.tokens.length < (enclosedTokens .sep .closePar argValTokens argVals).length →
        Reads parser ValueContext.tokens context) :
    ∀ tree ∈ argVals, Reads (argVal parser) argValTokens tree := by
  intro tree member
  have shorter := length_lt_enclosedTokens .sep .closePar argValTokens member
  rw [argValTokens, List.length_cons, List.length_cons] at shorter
  exact argVal_reads tree (shorterRead tree.2 (by omega))

end Read

/-- One for each token is fuel enough. -/
theorem value_reads (fuel : Nat) (context : ValueContext)
    (enough : context.tokens.length ≤ fuel) : Reads (value fuel) ValueContext.tokens context := by
  induction fuel generalizing context with
  | zero =>
      obtain ⟨token, behind, isTokens, -⟩ := value_tokens_cons context
      rw [isTokens, List.length_cons] at enough
      omega
  | succ fuel inductionHypothesis =>
      intro rest
      cases context with
      | int text => rw [ValueContext.tokens]; rfl
      | float text => rw [ValueContext.tokens]; rfl
      | bool text => rw [ValueContext.tokens]; rfl
      | string text => rw [ValueContext.tokens]; rfl
      | none => rw [ValueContext.tokens]; rfl
      | list values =>
          have parts : ∀ tree ∈ values, Reads (value fuel) ValueContext.tokens tree := by
            intro tree member
            have shorter := length_lt_enclosedTokens .sep .listClose ValueContext.tokens member
            rw [list_tokens, List.length_cons] at enough
            exact inductionHypothesis tree (by omega)
          have read := enclosedItems_reads (show Token.sep ≠ .listClose by decide) values parts
            (fun tree _ => value_tokens_cons tree) rest
          rw [list_tokens, List.cons_append, value]
          dsimp only
          rw [read]
          rfl
      | dict pairs =>
          have parts : ∀ tree ∈ pairs, Reads (pair (value fuel)) pairTokens tree := by
            intro tree member
            have shorter := length_lt_enclosedTokens .sep .closeBrace pairTokens member
            rw [pairTokens, List.length_cons, List.length_cons] at shorter
            rw [dict_tokens, List.length_cons] at enough
            exact pair_reads tree (inductionHypothesis tree.2 (by omega))
          have read := enclosedItems_reads (show Token.sep ≠ .closeBrace by decide) pairs parts
            (fun tree _ => ⟨_, _, rfl, nofun⟩) rest
          rw [dict_tokens, List.cons_append, value]
          dsimp only
          rw [read]
          rfl
      | object name argVals =>
          rw [object_tokens, List.length_cons, List.length_cons] at enough
          have parts := argVals_read argVals fun tree shorter =>
            inductionHypothesis tree (Nat.le_of_lt (by omega))
          have read := enclosedItems_reads (show Token.sep ≠ .closePar by decide) argVals parts
            (fun tree _ => ⟨_, _, rfl, nofun⟩) rest
          rw [object_tokens, List.cons_append, List.cons_append, value]
          dsimp only
          rw [read]
          rfl

theorem functionCall_reads (fuel : Nat) (call : FunctionCallContext)
    (enough : call.tokens.length ≤ fuel) :
    Reads (functionCall fuel) FunctionCallContext.tokens call := by
  intro rest
  rw [FunctionCallContext.tokens, List.length_cons, List.length_cons] at enough
  have parts := argVals_read call.argVals fun tree shorter =>
    value_reads fuel tree (by omega)
  have read := enclosedItems_reads (show Token.sep ≠ .closePar by decide) call.argVals parts
    (fun tree _ => ⟨_, _, rfl, nofun⟩) rest
  rw [FunctionCallContext.tokens, List.cons_append, List.cons_append, functionCall, read]
  cases call with
  | fullFunctionCall name first others => rfl
  | emptyFunctionCall name => rfl

theorem main_derives {tokens : List Token} {context : ExprContext}
    (read : main tokens = some context) : tokens = context.tokens := by
  unfold main at read
  split at read
  · rw [Option.bind_eq_bind, Option.bind_eq_some_iff] at read
    obtain ⟨⟨calls, behind⟩, readCalls, isRead⟩ := read
    dsimp only at isRead
    split at isRead
    · cases isRead
      rw [enclosedItems_readsDerivations (functionCall_readsDerivations _) readCalls,
        List.append_nil]
      rfl
    · cases isRead
  · rw [Option.bind_eq_bind, Option.bind_eq_some_iff] at read
    obtain ⟨calls, readCalls, isRead⟩ := read
    split at isRead
    · cases isRead
    · cases isRead
      exact itemsToEnd_derives (functionCall_readsDerivations _) _ readCalls

theorem main_reads (context : ExprContext) : main context.tokens = some context := by
  cases context with
  | functionCalls first others =>
      have longer : (first :: others).length ≤
          ((first :: others).flatMap FunctionCallContext.tokens).length :=
        length_le_length_flatMap _ fun call _ => ⟨_, _, rfl⟩
      have parts : ∀ call ∈ first :: others, Reads
          (functionCall ((first :: others).flatMap FunctionCallContext.tokens).length)
          FunctionCallContext.tokens call := by
        intro call member
        apply functionCall_reads
        rw [List.flatMap_def]
        exact (List.sublist_flatten_of_mem (List.mem_map_of_mem member)).length_le
      have read := itemsToEnd_reads (first :: others) parts
        (fun call _ => ⟨_, _, rfl⟩) _ longer
      rw [ExprContext.tokens]
      unfold main
      split
      · rename_i isList
        cases isList
      · dsimp only
        rw [read]
        rfl
  | functionCallList calls =>
      have parts : ∀ call ∈ calls, Reads
          (functionCall (ExprContext.functionCallList calls).tokens.length)
          FunctionCallContext.tokens call := by
        intro call member
        apply functionCall_reads
        have shorter := length_lt_enclosedTokens .sep .listClose FunctionCallContext.tokens member
        rw [ExprContext.tokens, List.length_cons]
        omega
      have read := enclosedItems_reads (show Token.sep ≠ .listClose by decide) calls parts
        (fun call _ => ⟨_, _, rfl, nofun⟩) []
      rw [List.append_nil] at read
      rw [ExprContext.tokens] at read ⊢
      unfold main
      dsimp only
      rw [read]
      rfl

/-- **The parser reads derivations.** It finds a tree exactly when the tokens are those of the
tree. -/
theorem main_eq_some_iff (tokens : List Token) (context : ExprContext) :
    main tokens = some context ↔ tokens = context.tokens := by
  constructor
  · exact main_derives
  · rintro rfl
    exact main_reads context

end LiteRTLM.Components.ToolUse.PythonGrammar
