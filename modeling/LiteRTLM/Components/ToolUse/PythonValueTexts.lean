import LiteRTLM.Library.JoinedTokens
import LiteRTLM.Components.ToolUse.PythonToolFormatUtils
import LiteRTLM.Components.ToolUse.PythonTokenTexts
import LiteRTLM.Components.ToolUse.PythonValues

/-!
Contract: which values are read back from the text that `FormatValueAsPython` writes.

Owns: texts that are certain tokens in front of what stops them, such texts between brackets,
the values whose text is that of a tree they are read from, and that a value with another text
is read from no tree of it.

Does not own: the call around the value.
-/

namespace LiteRTLM.Components.ToolUse.PythonCalls

open LiteRTLM.Engine
open LiteRTLM.Library
open LiteRTLM.Library.SeparatedItems
open LiteRTLM.Util
open LiteRTLM.Components.ToolUse.PythonGrammar
open LiteRTLM.Components.ToolUse.PythonLexer

variable {Double : Type} {simpleAtod : Text → Option Double}

/-! ## Separators and brackets -/

/-- Only the first letter matters to what is in front of it. -/
theorem stops_cons {letter : Char} (notName : nameLetter letter = false) (notPoint : letter ≠ '.')
    (rest : Text) : Stops (letter :: rest) := by
  intro other isFirst
  obtain rfl := Option.some.inj isFirst
  exact ⟨notName, notPoint⟩

theorem closes_sep : Closes lex Stops [',', ' '] .sep := by
  refine ⟨fun rest => ?_, stops_cons rfl (by decide)⟩
  rw [List.cons_append, lex_sep, List.singleton_append, lex_space]

theorem closes_colon : Closes lex Stops [':', ' '] .colon := by
  refine ⟨fun rest => ?_, stops_cons rfl (by decide)⟩
  rw [List.cons_append, lex_colon, List.singleton_append, lex_space]

theorem stops_eq (rest : Text) : Stops ('=' :: rest) := stops_cons rfl (by decide) rest

theorem stops_openPar (rest : Text) : Stops ('(' :: rest) := stops_cons rfl (by decide) rest

theorem closes_closePar : Closes lex Stops [')'] .closePar :=
  ⟨lex_closePar, stops_cons rfl (by decide)⟩

theorem closes_closeBrace : Closes lex Stops ['}'] .closeBrace :=
  ⟨lex_closeBrace, stops_cons rfl (by decide)⟩

theorem closes_listClose : Closes lex Stops [']'] .listClose :=
  ⟨lex_listClose, stops_cons rfl (by decide)⟩

/-! ## Quotes and digits -/

theorem stripQuotes_inQuotes (text : Text) : stripQuotes (inQuotes text) = text := by
  have isLast : (inQuotes text).getLast? = some '"' := by
    rw [inQuotes, ← List.cons_append, List.getLast?_concat]
  rw [stripQuotes, if_neg]
  · rw [inQuotes, List.drop_succ_cons, List.drop_zero, List.dropLast_concat]
  · rw [isLast]
    simp [inQuotes]

theorem lexesTo_inQuotes {text : Text} (well : wellQuoted '"' text = true) :
    LexesTo lex Stops (inQuotes text) [.string (inQuotes text)] := by
  intro rest _
  have split : inQuotes text ++ rest = '"' :: (text ++ '"' :: rest) := by simp [inQuotes]
  rw [split, lex_string well]
  rfl

/-- A text between quotes is read back only when it is one string. -/
theorem recovers_inQuotes {text read : Text} (isText : stripQuotes read = text) :
    Recovers lex Stops (inQuotes text) [.string read] (wellQuoted '"' text = true) := by
  intro rest more _ lexed
  have split : inQuotes text ++ rest = '"' :: (text ++ '"' :: rest) := by simp [inQuotes]
  rw [split] at lexed
  obtain ⟨content, after, later, well, isContent, isTokens, lexedAfter⟩ := lex_doubleQuote lexed
  obtain ⟨sameToken, rfl⟩ := List.cons.inj isTokens
  obtain rfl : read = inQuotes content := Token.string.inj sameToken
  rw [stripQuotes_inQuotes] at isText
  subst isText
  have sameRest := List.append_cancel_left isContent
  rw [List.cons.injEq] at sameRest
  rw [sameRest.2]
  exact ⟨well, lexedAfter⟩

theorem dumpInt_mem (value : Int) : dumpInt value ∈ int.language := by
  refine mem_int.mpr ⟨Nat.toDigits 10 value.natAbs, ?_, Nat.toDigits_ne_nil, ?_⟩
  · rw [dumpInt]
    split
    · exact Or.inr rfl
    · exact Or.inl rfl
  · intro letter member
    have digit := isDigit_of_mem_toDigits member
    rw [Char.isDigit, Bool.and_eq_true] at digit
    exact decide_eq_true ⟨of_decide_eq_true digit.1, of_decide_eq_true digit.2⟩

theorem ofDigits_toDigits (value : Nat) : ofDigits (Nat.toDigits 10 value) = value := by
  have digits := Nat.ofDigitChars_toDigits (b := 10) (n := value) (by decide) (by decide)
  rw [Nat.ofDigitChars_eq_foldl] at digits
  exact digits

/-- An integer of 32 bits is read as it is written. -/
theorem simpleAtoi_dumpInt {value : Int} (low : -2 ^ 31 ≤ value) (high : value < 2 ^ 31) :
    simpleAtoi (dumpInt value) = some value := by
  have nonempty : Nat.toDigits 10 value.natAbs ≠ [] := Nat.toDigits_ne_nil
  have areDigits : (Nat.toDigits 10 value.natAbs).all Char.isDigit = true :=
    List.all_eq_true.mpr fun _ member => isDigit_of_mem_toDigits member
  have split : splitSign (dumpInt value) = (decide (value < 0), Nat.toDigits 10 value.natAbs) := by
    rw [dumpInt]
    by_cases negative : value < 0
    · rw [if_pos negative, splitSign, decide_eq_true negative]
    · rw [if_neg negative, decide_eq_false negative]
      rw [splitSign]
      · rintro digits isSigned
        have member : '-' ∈ Nat.toDigits 10 value.natAbs := isSigned ▸ List.mem_cons_self
        cases isDigit_of_mem_toDigits member
      · rintro digits isSigned
        have member : '+' ∈ Nat.toDigits 10 value.natAbs := isSigned ▸ List.mem_cons_self
        cases isDigit_of_mem_toDigits member
  have isValue : (if decide (value < 0) = true then -(value.natAbs : Int) else value.natAbs) =
      value := by
    split
    · have negative := of_decide_eq_true ‹_›
      omega
    · have positive : ¬value < 0 := fun negative => ‹¬_› (decide_eq_true negative)
      omega
  rw [simpleAtoi, split]
  dsimp only
  rw [if_neg (by simp [nonempty, areDigits]), ofDigits_toDigits, isValue, if_pos ⟨low, high⟩]

theorem lexesTo_dumpInt (value : Int) : LexesTo lex Stops (dumpInt value) [.int (dumpInt value)] :=
  fun _ stops => lex_int (dumpInt_mem value) stops

theorem lexesTo_word {word : Text} (isName : IsName word) : LexesTo lex Stops word [wordToken word] :=
  fun _ stops => lex_word isName stops

/-- A word of the grammar: its first letter starts a name, the others belong to one. -/
theorem isName_of_letters {first : Char} {others : Text} (isStart : nameStart first = true)
    (areLetters : others.all nameLetter = true) : IsName (first :: others) :=
  ⟨first, others, rfl, isStart, List.all_eq_true.mp areLetters⟩

theorem isName_boolean (value : Bool) :
    IsName (if value then ['T', 'r', 'u', 'e'] else ['F', 'a', 'l', 's', 'e']) := by
  cases value with
  | false => exact isName_of_letters rfl rfl
  | true => exact isName_of_letters rfl rfl

/-! ## Which values survive -/

mutual

/-- The values of which every string and every key is one string between quotes, and no object
is written as an instance. -/
def survives : Json (PythonNumber Double) → Bool
  | .null => true
  | .boolean _ => true
  | .number _ => true
  | .string text => wellQuoted '"' text
  | .array elements => elementsSurvive elements
  | .object members => (instanceType members).isNone && membersSurvive members

def elementsSurvive : List (Json (PythonNumber Double)) → Bool
  | [] => true
  | element :: rest => survives element && elementsSurvive rest

def membersSurvive : List (Text × Json (PythonNumber Double)) → Bool
  | [] => true
  | (key, value) :: rest => wellQuoted '"' key && survives value && membersSurvive rest

end

/-- A member whose key is one string, and whose value survives. -/
def MemberSurvives (member : Text × Json (PythonNumber Double)) : Prop :=
  wellQuoted '"' member.1 = true ∧ survives member.2 = true

theorem elementsSurvive_iff {elements : List (Json (PythonNumber Double))} :
    elementsSurvive elements = true ↔ ∀ element ∈ elements, survives element = true := by
  induction elements with
  | nil => simp [elementsSurvive]
  | cons element rest inductionHypothesis =>
      rw [elementsSurvive, Bool.and_eq_true, inductionHypothesis, List.forall_mem_cons]

theorem membersSurvive_iff {members : List (Text × Json (PythonNumber Double))} :
    membersSurvive members = true ↔ ∀ member ∈ members, MemberSurvives member := by
  induction members with
  | nil => simp [membersSurvive]
  | cons member rest inductionHypothesis =>
      rw [membersSurvive, Bool.and_eq_true, Bool.and_eq_true, inductionHypothesis,
        List.forall_mem_cons]
      rfl

/-- Values of null, booleans, integers of 32 bits, strings, arrays and objects with different
keys, whose instances have such a type. -/
inductive Written (isType : Text → Prop) : Json (PythonNumber Double) → Prop where
  | null : Written isType .null
  | boolean (value : Bool) : Written isType (.boolean value)
  | int {value : Int} (low : -2 ^ 31 ≤ value) (high : value < 2 ^ 31) :
      Written isType (.number (.int value))
  | string (text : Text) : Written isType (.string text)
  | array {elements : List (Json (PythonNumber Double))}
      (parts : ∀ element ∈ elements, Written isType element) : Written isType (.array elements)
  | object {members : List (Text × Json (PythonNumber Double))}
      (distinct : (members.map Prod.fst).Nodup)
      (typed : ∀ name ∈ instanceType members, isType name)
      (parts : ∀ member ∈ members, Written isType member.2) : Written isType (.object members)

/-! ## What survives is read back -/

variable {dumpDouble : Double → Text}

def memberText (dumpDouble : Double → Text) (member : Text × Json (PythonNumber Double)) : Text :=
  inQuotes member.1 ++ ([':', ' '] ++ formatValueAsPython dumpDouble member.2)

theorem format_array (elements : List (Json (PythonNumber Double))) (rest : Text) :
    formatValueAsPython dumpDouble (.array elements) ++ rest =
      '[' :: (joinItems (elements.map (formatValueAsPython dumpDouble)) ++ ([']'] ++ rest)) := by
  rw [formatValueAsPython, formatArrayAsPython, formatElements_eq_map]
  simp

theorem format_dict {members : List (Text × Json (PythonNumber Double))}
    (noInstance : instanceType members = none) (rest : Text) :
    formatValueAsPython dumpDouble (.object members) ++ rest =
      '{' :: (joinItems (members.map (memberText dumpDouble)) ++ (['}'] ++ rest)) := by
  rw [formatValueAsPython, noInstance]
  dsimp only
  rw [formatObjectAsPythonDict, formatMembers_eq_map, List.map_map]
  simp only [List.cons_append, List.nil_append, List.append_assoc]
  rfl

/-- The text of the arguments of an instance. -/
def kwargsText (members : List (Text × Text)) : Text :=
  joinItems ((members.filter fun member => member.1 ≠ typeKey).map fun member =>
    member.1 ++ '=' :: member.2)

theorem format_instance {name : Text} {members : List (Text × Json (PythonNumber Double))}
    (isInstance : instanceType members = some name) (rest : Text) :
    formatValueAsPython dumpDouble (.object members) ++ rest =
      name ++ '(' :: (kwargsText (members.map fun member =>
        (member.1, formatValueAsPython dumpDouble member.2)) ++ ')' :: rest) := by
  rw [formatValueAsPython, isInstance]
  dsimp only
  rw [formatObjectAsPythonInstance, formatMembers_eq_map, kwargsText]
  simp only [List.cons_append, List.nil_append, List.append_assoc]

/-- The text of a member, before its value. -/
theorem memberText_append (member : Text × Json (PythonNumber Double)) (rest : Text) :
    memberText dumpDouble member ++ rest =
      inQuotes member.1 ++ ([':', ' '] ++ (formatValueAsPython dumpDouble member.2 ++ rest)) := by
  simp [memberText]

theorem lexesTo_memberText {member : Text × Json (PythonNumber Double)} {context : ValueContext}
    (well : wellQuoted '"' member.1 = true)
    (lexes : LexesTo lex Stops (formatValueAsPython dumpDouble member.2) context.tokens) :
    LexesTo lex Stops (memberText dumpDouble member) (pairTokens (inQuotes member.1, context)) := by
  intro rest stops
  rw [memberText_append, lexesTo_inQuotes well _ (closes_colon.stops _), closes_colon.lexes,
    lexes rest stops, Option.map_map, Option.map_map]
  rfl

theorem recovers_memberText {member : Text × Json (PythonNumber Double)}
    {pair : Text × ValueContext} (isKey : stripQuotes pair.1 = member.1)
    (recovers : Recovers lex Stops (formatValueAsPython dumpDouble member.2) pair.2.tokens
      (survives member.2 = true)) :
    Recovers lex Stops (memberText dumpDouble member) (pairTokens pair) (MemberSurvives member) := by
  intro rest more stops lexed
  rw [memberText_append] at lexed
  obtain ⟨well, lexedColon⟩ := recovers_inQuotes isKey _ _ (closes_colon.stops _) lexed
  rw [closes_colon.lexes] at lexedColon
  obtain ⟨isGood, lexedRest⟩ := recovers rest more stops (of_map_cons lexedColon).2
  exact ⟨⟨well, isGood⟩, lexedRest⟩

/-- A tree for each of them. -/
theorem exists_forall₂ {Item Tree : Type} {related : Item → Tree → Prop} {items : List Item}
    (each : ∀ item ∈ items, ∃ tree, related item tree) :
    ∃ trees, List.Forall₂ related items trees := by
  induction items with
  | nil => exact ⟨[], .nil⟩
  | cons item rest inductionHypothesis =>
      obtain ⟨tree, isRelated⟩ := each item List.mem_cons_self
      obtain ⟨trees, others⟩ := inductionHypothesis
        fun other member => each other (List.mem_cons_of_mem _ member)
      exact ⟨tree :: trees, .cons isRelated others⟩

/-- The text of a tree begins with that of its first token. -/
theorem text_ne_nil_of_tokens {context : ValueContext} {token : Token} {behind : List Token}
    (isTokens : context.tokens = token :: behind) (nonempty : token.text ≠ []) :
    context.text ≠ [] := by
  rw [ValueContext.text, isTokens, List.flatMap_cons]
  exact List.append_ne_nil_of_left_ne_nil nonempty _

/-- **What survives is read back.** The text of such a value is that of a tree from which the
value is read. -/
theorem exists_context {isType : Text → Prop} {value : Json (PythonNumber Double)}
    (written : Written isType value) (survive : survives value = true) :
    ∃ context, ReadFrom simpleAtod value context ∧
      LexesTo lex Stops (formatValueAsPython dumpDouble value) context.tokens ∧ context.text ≠ [] := by
  induction written with
  | null =>
      refine ⟨.none, rfl, ?_, text_ne_nil_of_tokens rfl nofun⟩
      rw [formatValueAsPython]
      exact lexesTo_word (isName_of_letters rfl rfl)
  | boolean truth =>
      cases truth with
      | false =>
          refine ⟨.bool ['F', 'a', 'l', 's', 'e'], rfl, ?_, text_ne_nil_of_tokens rfl nofun⟩
          rw [formatValueAsPython]
          exact lexesTo_word (isName_boolean false)
      | true =>
          refine ⟨.bool ['T', 'r', 'u', 'e'], rfl, ?_, text_ne_nil_of_tokens rfl nofun⟩
          rw [formatValueAsPython]
          exact lexesTo_word (isName_boolean true)
  | @int number low high =>
      have nonempty : dumpInt number ≠ [] := by
        rw [dumpInt]
        split
        · exact List.cons_ne_nil _ _
        · exact Nat.toDigits_ne_nil
      refine ⟨.int (dumpInt number), ?_, ?_, text_ne_nil_of_tokens rfl nonempty⟩
      · rw [ReadFrom, parsePythonValue, simpleAtoi_dumpInt low high]
      · rw [formatValueAsPython]
        exact lexesTo_dumpInt number
  | string text =>
      rw [survives] at survive
      refine ⟨.string (inQuotes text), ?_, ?_, text_ne_nil_of_tokens rfl nofun⟩
      · rw [ReadFrom, parsePythonValue, stripQuotes_inQuotes]
      · rw [formatValueAsPython]
        exact lexesTo_inQuotes survive
  | @array elements parts inductionHypothesis =>
      rw [survives, elementsSurvive_iff] at survive
      obtain ⟨contexts, each⟩ := exists_forall₂ fun element member =>
        inductionHypothesis element member (survive element member)
      refine ⟨.list contexts, ?_, ?_, text_ne_nil_of_tokens (list_tokens contexts) nofun⟩
      · rw [ReadFrom, parsePythonValue,
          parsePythonList_ok_iff.mpr (each.imp fun _ _ found => found.1)]
        rfl
      · intro rest _
        rw [format_array, lex_listOpen, joinItems,
          lexer_intercalate closes_sep closes_listClose (each.imp fun _ _ found => found.2.1), list_tokens,
          Option.map_map]
        rfl
  | @object members distinct typed parts inductionHypothesis =>
      rw [survives, Bool.and_eq_true, Option.isNone_iff_eq_none, membersSurvive_iff] at survive
      obtain ⟨noInstance, surviving⟩ := survive
      have eachMember : ∀ member ∈ members, ∃ pair : Text × ValueContext,
          PairReadFrom simpleAtod member pair ∧
            LexesTo lex Stops (memberText dumpDouble member) (pairTokens pair) := by
        intro member isMember
        obtain ⟨well, valueSurvives⟩ := surviving member isMember
        obtain ⟨context, read, lexes, -⟩ := inductionHypothesis member isMember valueSurvives
        exact ⟨(inQuotes member.1, context), ⟨stripQuotes_inQuotes _, read⟩,
          lexesTo_memberText well lexes⟩
      obtain ⟨pairs, each⟩ := exists_forall₂ eachMember
      refine ⟨.dict pairs, ?_, ?_, text_ne_nil_of_tokens (dict_tokens pairs) nofun⟩
      · rw [ReadFrom, parsePythonValue, parsePythonDict_of_forall₂
          (each.imp fun _ _ found => found.1) distinct (freeKeys_nil _)]
        rfl
      · intro rest _
        rw [format_dict noInstance, lex_openBrace, joinItems,
          lexer_intercalate closes_sep closes_closeBrace (each.imp fun _ _ found => found.2), dict_tokens,
          Option.map_map]
        rfl

/-! ## What is read back survives -/

/-- A relation of the items of a list that implies another. -/
theorem forall₂_of_mem {Item Tree : Type} {related other : Item → Tree → Prop}
    {items : List Item} {trees : List Tree}
    (implies : ∀ item ∈ items, ∀ tree, related item tree → other item tree)
    (each : List.Forall₂ related items trees) : List.Forall₂ other items trees := by
  induction each with
  | nil => exact .nil
  | cons first others inductionHypothesis =>
      obtain ⟨here, later⟩ := List.forall_mem_cons.mp implies
      exact .cons (here _ first) (inductionHypothesis later)

theorem isName_typeTag : IsName "__type__".toList :=
  ⟨'_', ['_', 't', 'y', 'p', 'e', '_', '_'], rfl, rfl, List.all_eq_true.mp rfl⟩

/-- The text of a loop begins with its first round. -/
theorem joinItems_cons (first : Text) (others : List Text) :
    ∃ tail, joinItems (first :: others) = first ++ tail := by
  cases others with
  | nil => exact ⟨[], by rw [joinItems, List.intercalate_singleton, List.append_nil]⟩
  | cons second more =>
      refine ⟨[',', ' '] ++ joinItems (second :: more), ?_⟩
      rw [joinItems, List.intercalate_cons_cons, List.append_assoc]
      rfl

/-- The arguments begin with the first member, if that is not the type. -/
theorem kwargsText_cons {key : Text} (isKept : decide (key ≠ typeKey) = true) (text : Text)
    (members : List (Text × Text)) :
    ∃ tail, kwargsText ((key, text) :: members) = key ++ '=' :: (text ++ tail) := by
  rw [kwargsText, List.filter_cons]
  dsimp only
  rw [if_pos isKept, List.map_cons]
  obtain ⟨tail, isJoined⟩ := joinItems_cons (key ++ '=' :: text) _
  exact ⟨tail, isJoined.trans (by simp)⟩

/-- No instance is read back: its tree would hold the name of the type under a key that the
text has among the arguments too. -/
theorem instance_not_recovered {name : Text}
    {members : List (Text × Json (PythonNumber Double))}
    (isInstance : instanceType members = some name) (isName : IsName name) {context : ValueContext}
    (read : ReadFrom simpleAtod (.object members) context) :
    Recovers lex Stops (formatValueAsPython dumpDouble (.object members)) context.tokens False := by
  intro rest more _ lexed
  rw [format_instance isInstance, lex_word isName (stops_openPar _)] at lexed
  cases readFrom_shape read with
  | dict reads =>
      rw [dict_tokens, List.cons_append] at lexed
      have sameToken := (of_map_cons lexed).1
      rw [wordToken] at sameToken
      split_ifs at sameToken
  | @object objectName argVals _ reads =>
      obtain ⟨held, added, -, isMembers, -⟩ := parsePythonObject_ok reads
      rw [object_tokens, List.cons_append, List.cons_append] at lexed
      have behindName := (of_map_cons lexed).2
      rw [lex_openPar] at behindName
      have inside := (of_map_cons behindName).2
      -- the first argument of the text is the type of the tree
      have isKept : decide ("__type__".toList ≠ typeKey) = true := by decide
      obtain ⟨tail, isText⟩ := kwargsText_cons isKept
        (formatValueAsPython dumpDouble (.string objectName))
        (added.map fun member => (member.1, formatValueAsPython dumpDouble member.2))
      have isQuoted : formatValueAsPython dumpDouble (.string objectName) ++
          (tail ++ ')' :: rest) = '"' :: (objectName ++ '"' :: (tail ++ ')' :: rest)) := by
        rw [formatValueAsPython, inQuotes]
        simp
      rw [isMembers, List.singleton_append, List.map_cons] at inside
      rw [isText] at inside
      simp only [List.append_assoc, List.cons_append] at inside
      rw [isQuoted] at inside
      rw [lex_word isName_typeTag (stops_eq _)] at inside
      cases argVals with
      | nil => cases (of_map_cons inside).1
      | cons argVal others =>
          obtain ⟨argName, argValue⟩ := argVal
          have unfolds : enclosedTokens Token.sep .closePar argValTokens
              ((argName, argValue) :: others) ++ more = .name argName :: .eq ::
                (argValue.tokens ++ (separatedTokens .sep argValTokens others ++
                  [Token.closePar] ++ more)) := by
            rw [enclosedTokens, argValTokens]
            simp
          rw [unfolds] at inside
          obtain ⟨sameName, behindArgName⟩ := of_map_cons inside
          have isArgName : argName = "__type__".toList := (Token.name.inj sameName).symm
          rw [lex_eq] at behindArgName
          obtain ⟨content, after, later, -, -, isTokens, -⟩ :=
            lex_doubleQuote (of_map_cons behindArgName).2
          obtain ⟨token, behind, isValue, -⟩ := value_tokens_cons argValue
          rw [isValue, List.cons_append, List.cons.injEq] at isTokens
          have hasText : argValue.text ≠ [] :=
            text_ne_nil_of_tokens isValue (by rw [isTokens.1]; exact List.cons_ne_nil _ _)
          rw [parsePythonObject, isArgName, if_neg (by simp [hasText]),
            if_pos (by simp [containsKey])] at reads
          cases reads

/-- **What is read back survives.** Where the text of a value is followed by what stops it, and
begins with the tokens of a tree from which the value is read, the value survives. -/
theorem recovers_value {value : Json (PythonNumber Double)} (written : Written IsName value)
    {context : ValueContext} (read : ReadFrom simpleAtod value context) :
    Recovers lex Stops (formatValueAsPython dumpDouble value) context.tokens (survives value = true) := by
  induction written generalizing context with
  | null =>
      cases readFrom_shape read
      rw [formatValueAsPython]
      exact (lexesTo_word (isName_of_letters rfl rfl)).recovers rfl |>.mono fun _ => rfl
  | boolean truth =>
      generalize isValue : Json.boolean truth = value at read
      cases readFrom_shape read with
      | bool text =>
          rw [formatValueAsPython]
          refine Recovers.mono (LexesTo.recovers (lexesTo_word (isName_boolean _)) ?_) fun _ => ?_
          · rfl
          · rw [survives]
      | _ => cases isValue
  | @int number low high =>
      cases readFrom_shape read
      rw [formatValueAsPython]
      refine Recovers.mono (LexesTo.recovers (lexesTo_dumpInt number) ?_) fun _ => ?_
      · rfl
      · rw [survives]
  | string text =>
      generalize isValue : Json.string text = value at read
      cases readFrom_shape read with
      | string read =>
          obtain rfl := Json.string.inj isValue
          rw [formatValueAsPython, survives]
          exact recovers_inQuotes rfl
      | _ => cases isValue
  | @array elements parts inductionHypothesis =>
      cases readFrom_shape read with
      | @list _ contexts reads =>
          intro rest more stops lexed
          rw [format_array, list_tokens, List.cons_append, lex_listOpen] at lexed
          have each : List.Forall₂ (fun element tree =>
              Recovers lex Stops (formatValueAsPython dumpDouble element) tree.tokens
                (survives element = true)) elements contexts :=
            forall₂_of_mem (fun element member _ => inductionHypothesis element member) reads
          rw [survives, elementsSurvive_iff]
          exact recovers_intercalate closes_sep closes_listClose each (of_map_cons lexed).2
  | @object members distinct typed parts inductionHypothesis =>
      cases isInstance : instanceType members with
      | some name =>
          exact (instance_not_recovered isInstance (typed name isInstance) read).mono False.elim
      | none =>
          intro rest more stops lexed
          rw [format_dict isInstance, lex_openBrace] at lexed
          cases readFrom_shape read with
          | object reads =>
              rw [object_tokens] at lexed
              cases (of_map_cons lexed).1
          | @dict _ pairs reads =>
              rw [dict_tokens, List.cons_append] at lexed
              have each : List.Forall₂ (fun member pair =>
                  Recovers lex Stops (memberText dumpDouble member) (pairTokens pair)
                    (MemberSurvives member)) members pairs :=
                forall₂_of_mem (fun member isMember _ reads =>
                  recovers_memberText reads.1 (inductionHypothesis member isMember reads.2)) reads
              rw [survives, isInstance, Option.isNone_none, Bool.true_and, membersSurvive_iff]
              obtain ⟨surviving, lexedRest⟩ :=
                recovers_intercalate closes_sep closes_closeBrace each (of_map_cons lexed).2
              exact ⟨surviving, lexedRest⟩

end LiteRTLM.Components.ToolUse.PythonCalls
