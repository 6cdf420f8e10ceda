import LiteRTLM.Components.ToolUse.JsonLexer

/-!
Contract: the grammar of JSON tool calls, `AntlrJsonParser`.

Owns: the parse trees of the grammar with the tokens each is derived from, the parser,
and that it finds the tree of exactly those tokens which begin with a derivation.

Does not own: what is read off a tree. The rule `json` does not ask for the end of the
tokens: what follows a derivation is left.
-/

namespace LiteRTLM.Components.ToolUse.JsonGrammar

open LiteRTLM.Components.ToolUse.JsonLexer
open LiteRTLM.Util

/-! ## Parse trees -/

/-- `value`, with `object` and `array`. A pair has the text of its key. -/
inductive ValueContext where
  | string (text : Text)
  | number (text : Text)
  | object (pairs : List (Text × ValueContext))
  | array (values : List ValueContext)
  | boolean (text : Text)
  | none

abbrev ObjectContext := List (Text × ValueContext)

/-- `functionCall`: a full call with the text of its name and its arguments, or an empty
one. -/
inductive FunctionCallContext where
  | fullFunctionCall (name : Text) (arguments : ObjectContext)
  | emptyFunctionCall

inductive JsonContext where
  | functionCall (call : FunctionCallContext)
  | functionCallList (calls : List FunctionCallContext)

/-! ## Derivations -/

mutual

def ValueContext.tokens : ValueContext → List Token
  | .string text => [.string text]
  | .number text => [.number text]
  | .object pairs => objectTokens pairs
  | .array values => arrayTokens values
  | .boolean text => [.boolean text]
  | .none => [.none]

def objectTokens : List (Text × ValueContext) → List Token
  | [] => [.openBrace, .closeBrace]
  | (key, value) :: rest =>
      .openBrace :: .string key :: .colon :: (value.tokens ++ (morePairs rest ++ [.closeBrace]))

/-- The tokens of `( COMMA pair )*`. -/
def morePairs : List (Text × ValueContext) → List Token
  | [] => []
  | (key, value) :: rest => .comma :: .string key :: .colon :: (value.tokens ++ morePairs rest)

def arrayTokens : List ValueContext → List Token
  | [] => [.openBracket, .closeBracket]
  | value :: rest => .openBracket :: (value.tokens ++ (moreValues rest ++ [.closeBracket]))

/-- The tokens of `( COMMA value )*`. -/
def moreValues : List ValueContext → List Token
  | [] => []
  | value :: rest => .comma :: (value.tokens ++ moreValues rest)

end

def FunctionCallContext.tokens : FunctionCallContext → List Token
  | fullFunctionCall name arguments =>
      .openBrace :: .functionName :: .colon :: .string name :: .comma :: .functionArguments ::
        .colon :: (objectTokens arguments ++ [.closeBrace])
  | emptyFunctionCall => [.openBrace, .closeBrace]

/-- The tokens of `( COMMA functionCall )*`. -/
def moreCalls (calls : List FunctionCallContext) : List Token :=
  calls.flatMap fun call => .comma :: call.tokens

/-- The tokens of `json`, with `functionCallList`. -/
def JsonContext.tokens : JsonContext → List Token
  | functionCall call => call.tokens
  | functionCallList [] => [.openBracket, .closeBracket]
  | functionCallList (call :: rest) =>
      .openBracket :: (call.tokens ++ (moreCalls rest ++ [.closeBracket]))

/-! ## The parser -/

mutual

/-- `value()`. Each of these functions returns the tokens behind the part it has read;
`none` is a syntax error. -/
def value : Nat → List Token → Option (ValueContext × List Token)
  | fuel + 1, tokens =>
      match tokens with
      | .string text :: rest => some (.string text, rest)
      | .number text :: rest => some (.number text, rest)
      | .openBrace :: rest => do
          let (pairs, rest) ← object fuel (.openBrace :: rest)
          return (.object pairs, rest)
      | .openBracket :: rest => do
          let (values, rest) ← array fuel (.openBracket :: rest)
          return (.array values, rest)
      | .boolean text :: rest => some (.boolean text, rest)
      | .none :: rest => some (.none, rest)
      | _ => none
  | 0, _ => none

def object : Nat → List Token → Option (List (Text × ValueContext) × List Token)
  | fuel + 1, tokens =>
      match tokens with
      | .openBrace :: .closeBrace :: rest => some ([], rest)
      | .openBrace :: rest => do
          let (first, rest) ← pair fuel rest
          let (others, rest) ← pairLoop fuel rest
          match rest with
          | .closeBrace :: rest => some (first :: others, rest)
          | _ => none
      | _ => none
  | 0, _ => none

def pair : Nat → List Token → Option ((Text × ValueContext) × List Token)
  | fuel + 1, tokens =>
      match tokens with
      | .string key :: .colon :: rest => do
          let (read, rest) ← value fuel rest
          return ((key, read), rest)
      | _ => none
  | 0, _ => none

/-- The loop of `object()`. -/
def pairLoop : Nat → List Token → Option (List (Text × ValueContext) × List Token)
  | fuel + 1, tokens =>
      match tokens with
      | .comma :: rest => do
          let (first, rest) ← pair fuel rest
          let (others, rest) ← pairLoop fuel rest
          return (first :: others, rest)
      | _ => some ([], tokens)
  | 0, _ => none

def array : Nat → List Token → Option (List ValueContext × List Token)
  | fuel + 1, tokens =>
      match tokens with
      | .openBracket :: .closeBracket :: rest => some ([], rest)
      | .openBracket :: rest => do
          let (first, rest) ← value fuel rest
          let (others, rest) ← valueLoop fuel rest
          match rest with
          | .closeBracket :: rest => some (first :: others, rest)
          | _ => none
      | _ => none
  | 0, _ => none

/-- The loop of `array()`. -/
def valueLoop : Nat → List Token → Option (List ValueContext × List Token)
  | fuel + 1, tokens =>
      match tokens with
      | .comma :: rest => do
          let (first, rest) ← value fuel rest
          let (others, rest) ← valueLoop fuel rest
          return (first :: others, rest)
      | _ => some ([], tokens)
  | 0, _ => none

end

/-- `functionCall()`, with the rules of its parts. -/
def functionCall (fuel : Nat) (tokens : List Token) :
    Option (FunctionCallContext × List Token) :=
  match tokens with
  | .openBrace :: .closeBrace :: rest => some (.emptyFunctionCall, rest)
  | .openBrace :: .functionName :: .colon :: .string name :: .comma :: .functionArguments ::
      .colon :: rest => do
      let (arguments, rest) ← object fuel rest
      match rest with
      | .closeBrace :: rest => some (.fullFunctionCall name arguments, rest)
      | _ => none
  | _ => none

/-- The loop of `functionCallList()`. -/
def callLoop : Nat → List Token → Option (List FunctionCallContext × List Token)
  | fuel + 1, tokens =>
      match tokens with
      | .comma :: rest => do
          let (first, rest) ← functionCall fuel rest
          let (others, rest) ← callLoop fuel rest
          return (first :: others, rest)
      | _ => some ([], tokens)
  | 0, _ => none

def functionCallList (fuel : Nat) (tokens : List Token) :
    Option (List FunctionCallContext × List Token) :=
  match tokens with
  | .openBracket :: .closeBracket :: rest => some ([], rest)
  | .openBracket :: rest => do
      let (first, rest) ← functionCall fuel rest
      let (others, rest) ← callLoop fuel rest
      match rest with
      | .closeBracket :: rest => some (first :: others, rest)
      | _ => none
  | _ => none

def json (tokens : List Token) : Option (JsonContext × List Token) :=
  let fuel := 2 * tokens.length
  match tokens with
  | .openBrace :: _ => do
      let (call, rest) ← functionCall fuel tokens
      return (.functionCall call, rest)
  | .openBracket :: _ => do
      let (calls, rest) ← functionCallList fuel tokens
      return (.functionCallList calls, rest)
  | _ => none

/-! ## What is read is derived -/

/-- The functions of the parser with so much fuel read derivations. -/
structure ReadsDerivations (fuel : Nat) : Prop where
  value : ∀ {tokens context rest}, value fuel tokens = some (context, rest) →
    tokens = context.tokens ++ rest
  object : ∀ {tokens pairs rest}, object fuel tokens = some (pairs, rest) →
    tokens = objectTokens pairs ++ rest
  pair : ∀ {tokens key context rest}, pair fuel tokens = some ((key, context), rest) →
    tokens = .string key :: .colon :: (context.tokens ++ rest)
  pairLoop : ∀ {tokens pairs rest}, pairLoop fuel tokens = some (pairs, rest) →
    tokens = morePairs pairs ++ rest
  array : ∀ {tokens values rest}, array fuel tokens = some (values, rest) →
    tokens = arrayTokens values ++ rest
  valueLoop : ∀ {tokens values rest}, valueLoop fuel tokens = some (values, rest) →
    tokens = moreValues values ++ rest

variable {fuel : Nat} {tokens rest : List Token}

theorem value_derives (below : ReadsDerivations fuel) {context : ValueContext}
    (read : value (fuel + 1) tokens = some (context, rest)) :
    tokens = context.tokens ++ rest := by
  unfold value at read
  split at read
  · cases read
    rfl
  · cases read
    rfl
  · rw [Option.bind_eq_bind, Option.bind_eq_some_iff] at read
    obtain ⟨⟨pairs, behind⟩, readObject, isRead⟩ := read
    cases isRead
    exact below.object readObject
  · rw [Option.bind_eq_bind, Option.bind_eq_some_iff] at read
    obtain ⟨⟨values, behind⟩, readArray, isRead⟩ := read
    cases isRead
    exact below.array readArray
  · cases read
    rfl
  · cases read
    rfl
  · cases read

theorem pair_derives (below : ReadsDerivations fuel) {key : Text} {context : ValueContext}
    (read : pair (fuel + 1) tokens = some ((key, context), rest)) :
    tokens = .string key :: .colon :: (context.tokens ++ rest) := by
  unfold pair at read
  split at read
  · rw [Option.bind_eq_bind, Option.bind_eq_some_iff] at read
    obtain ⟨⟨readContext, behind⟩, readValue, isRead⟩ := read
    cases isRead
    rw [below.value readValue]
  · cases read

theorem pairLoop_derives (below : ReadsDerivations fuel) {pairs : List (Text × ValueContext)}
    (read : pairLoop (fuel + 1) tokens = some (pairs, rest)) :
    tokens = morePairs pairs ++ rest := by
  unfold pairLoop at read
  split at read
  · rw [Option.bind_eq_bind, Option.bind_eq_some_iff] at read
    obtain ⟨⟨⟨key, context⟩, behind⟩, readPair, read⟩ := read
    rw [Option.bind_eq_bind, Option.bind_eq_some_iff] at read
    obtain ⟨⟨others, behindAll⟩, readOthers, isRead⟩ := read
    cases isRead
    rw [below.pair readPair, below.pairLoop readOthers, morePairs]
    simp
  · cases read
    rfl

theorem object_derives (below : ReadsDerivations fuel) {pairs : List (Text × ValueContext)}
    (read : object (fuel + 1) tokens = some (pairs, rest)) :
    tokens = objectTokens pairs ++ rest := by
  unfold object at read
  split at read
  · cases read
    rfl
  · rw [Option.bind_eq_bind, Option.bind_eq_some_iff] at read
    obtain ⟨⟨⟨key, context⟩, behind⟩, readPair, read⟩ := read
    rw [Option.bind_eq_bind, Option.bind_eq_some_iff] at read
    obtain ⟨⟨others, behindAll⟩, readOthers, isRead⟩ := read
    dsimp only at isRead
    split at isRead
    · cases isRead
      rw [below.pair readPair, below.pairLoop readOthers, objectTokens]
      simp
    · cases isRead
  · cases read

theorem valueLoop_derives (below : ReadsDerivations fuel) {values : List ValueContext}
    (read : valueLoop (fuel + 1) tokens = some (values, rest)) :
    tokens = moreValues values ++ rest := by
  unfold valueLoop at read
  split at read
  · rw [Option.bind_eq_bind, Option.bind_eq_some_iff] at read
    obtain ⟨⟨context, behind⟩, readValue, read⟩ := read
    rw [Option.bind_eq_bind, Option.bind_eq_some_iff] at read
    obtain ⟨⟨others, behindAll⟩, readOthers, isRead⟩ := read
    cases isRead
    rw [below.value readValue, below.valueLoop readOthers, moreValues]
    simp
  · cases read
    rfl

theorem array_derives (below : ReadsDerivations fuel) {values : List ValueContext}
    (read : array (fuel + 1) tokens = some (values, rest)) :
    tokens = arrayTokens values ++ rest := by
  unfold array at read
  split at read
  · cases read
    rfl
  · rw [Option.bind_eq_bind, Option.bind_eq_some_iff] at read
    obtain ⟨⟨context, behind⟩, readValue, read⟩ := read
    rw [Option.bind_eq_bind, Option.bind_eq_some_iff] at read
    obtain ⟨⟨others, behindAll⟩, readOthers, isRead⟩ := read
    dsimp only at isRead
    split at isRead
    · cases isRead
      rw [below.value readValue, below.valueLoop readOthers, arrayTokens]
      simp
    · cases isRead
  · cases read

/-- By induction on the fuel, as every function calls the others with less. -/
theorem readsDerivations (fuel : Nat) : ReadsDerivations fuel := by
  induction fuel with
  | zero =>
      constructor <;> intros <;> rename_i read
      · rw [value] at read
        cases read
      · rw [object] at read
        cases read
      · rw [pair] at read
        cases read
      · rw [pairLoop] at read
        cases read
      · rw [array] at read
        cases read
      · rw [valueLoop] at read
        cases read
  | succ fuel below =>
      exact ⟨value_derives below, object_derives below, pair_derives below,
        pairLoop_derives below, array_derives below, valueLoop_derives below⟩

/-! ## What is derived is read -/

/-- No further pair, value or call follows. -/
def NoComma (tokens : List Token) : Prop := ∀ rest, tokens ≠ .comma :: rest

theorem noComma_cons {token : Token} (other : token ≠ .comma) (rest : List Token) :
    NoComma (token :: rest) := by
  intro behind same
  rw [List.cons.injEq] at same
  exact other same.1

theorem pairLoop_stops (fuel : Nat) {tokens : List Token} (stops : NoComma tokens) :
    pairLoop (fuel + 1) tokens = some ([], tokens) := by
  unfold pairLoop
  split
  · exact absurd rfl (stops _)
  · rfl

theorem valueLoop_stops (fuel : Nat) {tokens : List Token} (stops : NoComma tokens) :
    valueLoop (fuel + 1) tokens = some ([], tokens) := by
  unfold valueLoop
  split
  · exact absurd rfl (stops _)
  · rfl

theorem objectTokens_cons (pairs : List (Text × ValueContext)) :
    ∃ behind, objectTokens pairs = .openBrace :: behind := by
  cases pairs <;> exact ⟨_, rfl⟩

theorem arrayTokens_cons (values : List ValueContext) :
    ∃ behind, arrayTokens values = .openBracket :: behind := by
  cases values <;> exact ⟨_, rfl⟩

/-- A value has a token, and it is none that stands behind a value. -/
theorem tokens_cases (context : ValueContext) :
    ∃ token rest, context.tokens = token :: rest ∧ token ≠ .closeBracket := by
  cases context with
  | string text => exact ⟨_, _, rfl, nofun⟩
  | number text => exact ⟨_, _, rfl, nofun⟩
  | object pairs =>
      cases pairs with
      | nil => exact ⟨_, _, rfl, nofun⟩
      | cons pair others => exact ⟨_, _, rfl, nofun⟩
  | array values =>
      cases values with
      | nil => exact ⟨_, _, rfl, nofun⟩
      | cons first others => exact ⟨_, _, rfl, nofun⟩
  | boolean text => exact ⟨_, _, rfl, nofun⟩
  | none => exact ⟨_, _, rfl, nofun⟩

theorem pair_of_value (key : Text) {fuel : Nat} {tokens rest : List Token}
    {context : ValueContext} (read : value fuel tokens = some (context, rest)) :
    pair (fuel + 1) (.string key :: .colon :: tokens) = some ((key, context), rest) := by
  unfold pair
  simp [read]

theorem pairLoop_of_parts {fuel : Nat} {tokens between rest : List Token}
    {first : Text × ValueContext} {others : List (Text × ValueContext)}
    (readFirst : pair fuel tokens = some (first, between))
    (readOthers : pairLoop fuel between = some (others, rest)) :
    pairLoop (fuel + 1) (.comma :: tokens) = some (first :: others, rest) := by
  unfold pairLoop
  simp [readFirst, readOthers]

theorem object_of_parts {fuel : Nat} {key : Text} {tokens between rest : List Token}
    {first : Text × ValueContext} {others : List (Text × ValueContext)}
    (readFirst : pair fuel (.string key :: tokens) = some (first, between))
    (readOthers : pairLoop fuel between = some (others, .closeBrace :: rest)) :
    object (fuel + 1) (.openBrace :: .string key :: tokens) = some (first :: others, rest) := by
  unfold object
  simp [readFirst, readOthers]

theorem valueLoop_of_parts {fuel : Nat} {tokens between rest : List Token}
    {first : ValueContext} {others : List ValueContext}
    (readFirst : value fuel tokens = some (first, between))
    (readOthers : valueLoop fuel between = some (others, rest)) :
    valueLoop (fuel + 1) (.comma :: tokens) = some (first :: others, rest) := by
  unfold valueLoop
  simp [readFirst, readOthers]

theorem array_of_parts {fuel : Nat} {token : Token} {tokens between rest : List Token}
    {first : ValueContext} {others : List ValueContext} (notClosed : token ≠ .closeBracket)
    (readFirst : value fuel (token :: tokens) = some (first, between))
    (readOthers : valueLoop fuel between = some (others, .closeBracket :: rest)) :
    array (fuel + 1) (.openBracket :: token :: tokens) = some (first :: others, rest) := by
  unfold array
  split
  · rename_i same
    cases same
    exact absurd rfl notClosed
  · rename_i same
    cases same
    simp [readFirst, readOthers]
  · rename_i noBracket
    exact absurd rfl (noBracket _)

mutual

/-- Two for each token are fuel enough. -/
theorem value_reads (context : ValueContext) (fuel : Nat) (rest : List Token)
    (enough : 2 * context.tokens.length ≤ fuel) :
    value fuel (context.tokens ++ rest) = some (context, rest) := by
  match context, fuel with
  | .string text, fuel + 1 => rfl
  | .number text, fuel + 1 => rfl
  | .boolean text, fuel + 1 => rfl
  | .none, fuel + 1 => rfl
  | .object pairs, fuel + 1 =>
      rw [ValueContext.tokens] at enough ⊢
      have read := object_reads pairs fuel rest enough
      obtain ⟨behind, isTokens⟩ := objectTokens_cons pairs
      rw [isTokens, List.cons_append] at read ⊢
      unfold value
      simp [read]
  | .array values, fuel + 1 =>
      rw [ValueContext.tokens] at enough ⊢
      have read := array_reads values fuel rest enough
      obtain ⟨behind, isTokens⟩ := arrayTokens_cons values
      rw [isTokens, List.cons_append] at read ⊢
      unfold value
      simp [read]
  | context, 0 =>
      obtain ⟨token, behind, isTokens, -⟩ := tokens_cases context
      rw [isTokens, List.length_cons] at enough
      omega

theorem object_reads (pairs : List (Text × ValueContext)) (fuel : Nat) (rest : List Token)
    (enough : 2 * (objectTokens pairs).length ≤ fuel + 1) :
    object fuel (objectTokens pairs ++ rest) = some (pairs, rest) := by
  match pairs, fuel with
  | [], fuel + 1 => rfl
  | (key, context) :: others, fuel + 2 =>
      have length : (objectTokens ((key, context) :: others)).length =
          context.tokens.length + (morePairs others).length + 4 := by
        simp [objectTokens]
        omega
      have readValue := value_reads context fuel (morePairs others ++ (.closeBrace :: rest))
        (by omega)
      have readOthers := pairLoop_reads others (fuel + 1) (.closeBrace :: rest)
        (noComma_cons Token.noConfusion rest) (by omega)
      have read := object_of_parts (pair_of_value key readValue) readOthers
      simpa [objectTokens] using read
  | [], 0 => simp [objectTokens] at enough
  | (key, context) :: others, 0 =>
      simp only [objectTokens, List.length_cons] at enough
      omega
  | (key, context) :: others, 1 =>
      simp only [objectTokens, List.length_cons] at enough
      omega

theorem pairLoop_reads (pairs : List (Text × ValueContext)) (fuel : Nat) (rest : List Token)
    (stops : NoComma rest) (enough : 2 * (morePairs pairs).length + 1 ≤ fuel) :
    pairLoop fuel (morePairs pairs ++ rest) = some (pairs, rest) := by
  match pairs, fuel with
  | [], fuel + 1 => exact pairLoop_stops fuel stops
  | (key, context) :: others, fuel + 2 =>
      have length : (morePairs ((key, context) :: others)).length =
          context.tokens.length + (morePairs others).length + 3 := by
        simp [morePairs]
      have readValue := value_reads context fuel (morePairs others ++ rest) (by omega)
      have readOthers := pairLoop_reads others (fuel + 1) rest stops (by omega)
      have read := pairLoop_of_parts (pair_of_value key readValue) readOthers
      simpa [morePairs] using read
  | [], 0 => simp at enough
  | (key, context) :: others, 0 => simp [morePairs] at enough
  | (key, context) :: others, 1 => simp [morePairs] at enough

theorem array_reads (values : List ValueContext) (fuel : Nat) (rest : List Token)
    (enough : 2 * (arrayTokens values).length ≤ fuel + 1) :
    array fuel (arrayTokens values ++ rest) = some (values, rest) := by
  match values, fuel with
  | [], fuel + 1 => rfl
  | context :: others, fuel + 1 =>
      have length : (arrayTokens (context :: others)).length =
          context.tokens.length + (moreValues others).length + 2 := by
        simp [arrayTokens]
        omega
      have readValue := value_reads context fuel (moreValues others ++ (.closeBracket :: rest))
        (by omega)
      have readOthers := valueLoop_reads others fuel (.closeBracket :: rest)
        (noComma_cons Token.noConfusion rest) (by omega)
      obtain ⟨token, behind, isTokens, notClosed⟩ := tokens_cases context
      rw [isTokens, List.cons_append] at readValue
      have read := array_of_parts notClosed readValue readOthers
      rw [arrayTokens, isTokens]
      simpa using read
  | [], 0 => simp [arrayTokens] at enough
  | context :: others, 0 =>
      simp only [arrayTokens, List.length_cons] at enough
      omega

theorem valueLoop_reads (values : List ValueContext) (fuel : Nat) (rest : List Token)
    (stops : NoComma rest) (enough : 2 * (moreValues values).length + 1 ≤ fuel) :
    valueLoop fuel (moreValues values ++ rest) = some (values, rest) := by
  match values, fuel with
  | [], fuel + 1 => exact valueLoop_stops fuel stops
  | context :: others, fuel + 1 =>
      have length : (moreValues (context :: others)).length =
          context.tokens.length + (moreValues others).length + 1 := by
        simp [moreValues]
      have readValue := value_reads context fuel (moreValues others ++ rest) (by omega)
      have readOthers := valueLoop_reads others fuel rest stops (by omega)
      have read := valueLoop_of_parts readValue readOthers
      simpa [moreValues] using read
  | [], 0 => simp at enough
  | context :: others, 0 => simp [moreValues] at enough

end

/-! ## Function calls -/

theorem functionCall_derives {call : FunctionCallContext}
    (read : functionCall fuel tokens = some (call, rest)) : tokens = call.tokens ++ rest := by
  unfold functionCall at read
  split at read
  · cases read
    rfl
  · rw [Option.bind_eq_bind, Option.bind_eq_some_iff] at read
    obtain ⟨⟨arguments, behind⟩, readArguments, isRead⟩ := read
    dsimp only at isRead
    split at isRead
    · cases isRead
      rw [(readsDerivations fuel).object readArguments, FunctionCallContext.tokens]
      simp
    · cases isRead
  · cases read

theorem callLoop_derives {calls : List FunctionCallContext}
    (read : callLoop fuel tokens = some (calls, rest)) : tokens = moreCalls calls ++ rest := by
  induction fuel generalizing tokens calls rest with
  | zero =>
      unfold callLoop at read
      cases read
  | succ fuel inductionHypothesis =>
      unfold callLoop at read
      split at read
      · rw [Option.bind_eq_bind, Option.bind_eq_some_iff] at read
        obtain ⟨⟨first, behind⟩, readFirst, read⟩ := read
        rw [Option.bind_eq_bind, Option.bind_eq_some_iff] at read
        obtain ⟨⟨others, behindAll⟩, readOthers, isRead⟩ := read
        cases isRead
        rw [functionCall_derives readFirst, inductionHypothesis readOthers, moreCalls, moreCalls,
          List.flatMap_cons]
        simp
      · cases read
        rfl

theorem functionCallList_derives {calls : List FunctionCallContext}
    (read : functionCallList fuel tokens = some (calls, rest)) :
    tokens = (JsonContext.functionCallList calls).tokens ++ rest := by
  unfold functionCallList at read
  split at read
  · cases read
    rfl
  · rw [Option.bind_eq_bind, Option.bind_eq_some_iff] at read
    obtain ⟨⟨first, behind⟩, readFirst, read⟩ := read
    rw [Option.bind_eq_bind, Option.bind_eq_some_iff] at read
    obtain ⟨⟨others, behindAll⟩, readOthers, isRead⟩ := read
    dsimp only at isRead
    split at isRead
    · cases isRead
      rw [functionCall_derives readFirst, callLoop_derives readOthers, JsonContext.tokens]
      simp
    · cases isRead
  · cases read

theorem functionCall_reads (call : FunctionCallContext) (fuel : Nat) (rest : List Token)
    (enough : 2 * call.tokens.length ≤ fuel) :
    functionCall fuel (call.tokens ++ rest) = some (call, rest) := by
  cases call with
  | emptyFunctionCall => rfl
  | fullFunctionCall name arguments =>
      have length : (FunctionCallContext.fullFunctionCall name arguments).tokens.length =
          (objectTokens arguments).length + 8 := by simp [FunctionCallContext.tokens]
      have read := object_reads arguments fuel (.closeBrace :: rest) (by omega)
      unfold functionCall
      simp [FunctionCallContext.tokens, read]

/-- A call begins with a brace. -/
theorem functionCall_tokens_cons (call : FunctionCallContext) :
    ∃ behind, call.tokens = .openBrace :: behind := by
  cases call <;> exact ⟨_, rfl⟩

/-- A list begins with a bracket. -/
theorem functionCallList_tokens_cons (calls : List FunctionCallContext) :
    ∃ behind, (JsonContext.functionCallList calls).tokens = .openBracket :: behind := by
  cases calls <;> exact ⟨_, rfl⟩

theorem callLoop_reads (calls : List FunctionCallContext) (fuel : Nat) (rest : List Token)
    (stops : NoComma rest) (enough : 2 * (moreCalls calls).length + 1 ≤ fuel) :
    callLoop fuel (moreCalls calls ++ rest) = some (calls, rest) := by
  induction calls generalizing fuel with
  | nil =>
      obtain ⟨fuel, rfl⟩ : ∃ below, fuel = below + 1 := ⟨fuel - 1, by omega⟩
      rw [moreCalls, List.flatMap_nil, List.nil_append]
      unfold callLoop
      split
      · exact absurd rfl (stops _)
      · rfl
  | cons call others inductionHypothesis =>
      obtain ⟨fuel, rfl⟩ : ∃ below, fuel = below + 1 := ⟨fuel - 1, by omega⟩
      have split : moreCalls (call :: others) = .comma :: (call.tokens ++ moreCalls others) := by
        rw [moreCalls, List.flatMap_cons]
        rfl
      rw [split, List.length_cons, List.length_append] at enough
      have readCall := functionCall_reads call fuel (moreCalls others ++ rest) (by omega)
      have readOthers := inductionHypothesis fuel (by omega)
      rw [split, List.cons_append, List.append_assoc]
      unfold callLoop
      simp [readCall, readOthers]

theorem functionCallList_reads (calls : List FunctionCallContext) (fuel : Nat)
    (rest : List Token)
    (enough : 2 * (JsonContext.functionCallList calls).tokens.length ≤ fuel) :
    functionCallList fuel ((JsonContext.functionCallList calls).tokens ++ rest) =
      some (calls, rest) := by
  cases calls with
  | nil => rfl
  | cons call others =>
      have length : (JsonContext.functionCallList (call :: others)).tokens.length =
          call.tokens.length + (moreCalls others).length + 2 := by
        simp only [JsonContext.tokens, List.length_cons, List.length_append, List.length_nil]
        omega
      have readCall := functionCall_reads call fuel (moreCalls others ++ (.closeBracket :: rest))
        (by omega)
      have readOthers := callLoop_reads others fuel (.closeBracket :: rest)
        (noComma_cons Token.noConfusion rest) (by omega)
      obtain ⟨behind, isTokens⟩ := functionCall_tokens_cons call
      rw [isTokens, List.cons_append] at readCall
      rw [JsonContext.tokens, isTokens]
      unfold functionCallList
      simp [readCall, readOthers]

/-- **The parser reads derivations.** It finds a tree and what is left exactly when the
tokens are those of the tree, followed by what is left. -/
theorem json_eq_some_iff (context : JsonContext) (tokens rest : List Token) :
    json tokens = some (context, rest) ↔ tokens = context.tokens ++ rest := by
  constructor
  · intro read
    unfold json at read
    split at read
    · rw [Option.bind_eq_bind, Option.bind_eq_some_iff] at read
      obtain ⟨⟨call, behind⟩, readCall, isRead⟩ := read
      cases isRead
      exact functionCall_derives readCall
    · rw [Option.bind_eq_bind, Option.bind_eq_some_iff] at read
      obtain ⟨⟨calls, behind⟩, readCalls, isRead⟩ := read
      cases isRead
      exact functionCallList_derives readCalls
    · cases read
  · intro isTokens
    have length : context.tokens.length ≤ tokens.length := by
      rw [isTokens, List.length_append]
      omega
    unfold json
    cases context with
    | functionCall call =>
        have read := functionCall_reads call (2 * tokens.length) rest
          (Nat.mul_le_mul_left 2 length)
        obtain ⟨behind, isCall⟩ := functionCall_tokens_cons call
        rw [JsonContext.tokens] at isTokens
        rw [← isTokens] at read
        rw [isCall, List.cons_append] at isTokens
        rw [isTokens] at read ⊢
        dsimp only
        rw [read]
        rfl
    | functionCallList calls =>
        have read := functionCallList_reads calls (2 * tokens.length) rest
          (Nat.mul_le_mul_left 2 length)
        rw [← isTokens] at read
        obtain ⟨behind, isList⟩ := functionCallList_tokens_cons calls
        rw [isList, List.cons_append] at isTokens
        rw [isTokens] at read ⊢
        dsimp only
        rw [read]
        rfl

/-- The grammar is unambiguous, also where something follows. -/
theorem json_tokens_injective {context other : JsonContext} {rest otherRest : List Token}
    (same : context.tokens ++ rest = other.tokens ++ otherRest) :
    context = other ∧ rest = otherRest := by
  have first := (json_eq_some_iff context (context.tokens ++ rest) rest).mpr rfl
  have second := (json_eq_some_iff other (context.tokens ++ rest) otherRest).mpr same
  rw [first, Option.some.injEq, Prod.mk.injEq] at second
  exact second

end LiteRTLM.Components.ToolUse.JsonGrammar
