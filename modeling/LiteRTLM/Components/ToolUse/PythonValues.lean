import LiteRTLM.Components.ToolUse.PythonCalls

/-!
Contract: the trees that a value can have been read from.

Owns: the tree of a value of each kind, the parts of a list, a dict, an object and a call with
their values, and when a dict is read from its pairs.

Does not own: the texts of the trees.
-/

namespace LiteRTLM.Components.ToolUse.PythonCalls

open LiteRTLM.Engine
open LiteRTLM.Util
open LiteRTLM.Components.ToolUse.PythonGrammar

variable {Double : Type} {simpleAtod : Text → Option Double}

def ReadFrom (simpleAtod : Text → Option Double) (value : Json (PythonNumber Double))
    (context : ValueContext) : Prop :=
  parsePythonValue simpleAtod context = .ok value

def PairReadFrom (simpleAtod : Text → Option Double)
    (member : Text × Json (PythonNumber Double)) (pair : Text × ValueContext) : Prop :=
  stripQuotes pair.1 = member.1 ∧ ReadFrom simpleAtod member.2 pair.2

def ArgReadFrom (simpleAtod : Text → Option Double)
    (member : Text × Json (PythonNumber Double)) (argVal : ArgValContext) : Prop :=
  argVal.1 = member.1 ∧ ReadFrom simpleAtod member.2 argVal.2

/-! ## Lists and objects -/

theorem parsePythonList_ok_iff {contexts : List ValueContext}
    {values : List (Json (PythonNumber Double))} :
    parsePythonList simpleAtod contexts = .ok values ↔
      List.Forall₂ (ReadFrom simpleAtod) values contexts := by
  induction contexts generalizing values with
  | nil =>
      rw [parsePythonList, Except.ok.injEq, List.forall₂_nil_right_iff]
      exact eq_comm
  | cons context rest inductionHypothesis =>
      rw [parsePythonList]
      constructor
      · intro parses
        cases first : parsePythonValue simpleAtod context with
        | error status => simp [first, bind, Except.bind] at parses
        | ok value =>
            cases others : parsePythonList simpleAtod rest with
            | error status => simp [first, others, bind, Except.bind] at parses
            | ok behind =>
                simp only [first, others, bind, Except.bind, pure, Except.pure,
                  Except.ok.injEq] at parses
                subst parses
                exact .cons first (inductionHypothesis.mp others)
      · intro read
        cases read with
        | cons first others =>
            have firstParses : parsePythonValue simpleAtod context = _ := first
            rw [firstParses, inductionHypothesis.mpr others]
            rfl

/-- What is read from a dict comes behind the members so far, one from each pair. -/
theorem parsePythonDict_ok {pairs : List (Text × ValueContext)}
    {members result : List (Text × Json (PythonNumber Double))}
    (parses : parsePythonDict simpleAtod members pairs = .ok result) :
    ∃ added, result = members ++ added ∧
      List.Forall₂ (PairReadFrom simpleAtod) added pairs := by
  induction pairs generalizing members with
  | nil =>
      rw [parsePythonDict, Except.ok.injEq] at parses
      exact ⟨[], by rw [parses, List.append_nil], .nil⟩
  | cons pair rest inductionHypothesis =>
      obtain ⟨key, context⟩ := pair
      rw [parsePythonDict] at parses
      split at parses
      · cases parses
      · cases first : parsePythonValue simpleAtod context with
        | error status =>
            rw [first] at parses
            cases parses
        | ok value =>
            rw [first] at parses
            obtain ⟨added, isResult, read⟩ := inductionHypothesis parses
            refine ⟨(stripQuotes key, value) :: added, ?_, .cons ⟨rfl, first⟩ read⟩
            rw [isResult, List.append_assoc]
            rfl

/-- A dict is read from pairs with values whose keys are new and different. -/
theorem parsePythonDict_of_forall₂ {pairs : List (Text × ValueContext)}
    {members added : List (Text × Json (PythonNumber Double))}
    (read : List.Forall₂ (PairReadFrom simpleAtod) added pairs)
    (distinct : (added.map Prod.fst).Nodup) (free : FreeKeys members (added.map Prod.fst)) :
    parsePythonDict simpleAtod members pairs = .ok (members ++ added) := by
  induction read generalizing members with
  | nil => rw [parsePythonDict, List.append_nil]
  | @cons member pair added pairs first others inductionHypothesis =>
      obtain ⟨name, value⟩ := member
      obtain ⟨key, context⟩ := pair
      obtain ⟨isName, readValue⟩ := first
      have isKey : stripQuotes key = name := isName
      have parses : parsePythonValue simpleAtod context = .ok value := readValue
      rw [List.map_cons, List.nodup_cons] at distinct
      rw [List.map_cons, freeKeys_cons] at free
      have laterFree : FreeKeys (members ++ [(name, value)]) (added.map Prod.fst) :=
        (freeKeys_append members name value _).mpr ⟨distinct.1, free.2⟩
      rw [parsePythonDict]
      rw [isKey, if_neg (by rw [free.1]; exact Bool.noConfusion), parses]
      dsimp only
      rw [inductionHypothesis distinct.2 laterFree, List.append_assoc]
      rfl

/-- What is read from an object comes behind the members so far, one from each argument that
is held. -/
theorem parsePythonObject_ok {argVals : List ArgValContext}
    {members result : List (Text × Json (PythonNumber Double))}
    (parses : parsePythonObject simpleAtod members argVals = .ok result) :
    ∃ held added, held.Sublist argVals ∧ result = members ++ added ∧
      List.Forall₂ (ArgReadFrom simpleAtod) added held := by
  induction argVals generalizing members with
  | nil =>
      rw [parsePythonObject, Except.ok.injEq] at parses
      exact ⟨[], [], .slnil, by rw [parses, List.append_nil], .nil⟩
  | cons argVal rest inductionHypothesis =>
      obtain ⟨name, context⟩ := argVal
      rw [parsePythonObject] at parses
      split at parses
      · obtain ⟨held, added, isHeld, isResult, read⟩ := inductionHypothesis parses
        exact ⟨held, added, isHeld.cons _, isResult, read⟩
      · split at parses
        · cases parses
        · cases first : parsePythonValue simpleAtod context with
          | error status =>
              rw [first] at parses
              cases parses
          | ok value =>
              rw [first] at parses
              obtain ⟨held, added, isHeld, isResult, read⟩ := inductionHypothesis parses
              refine ⟨(name, context) :: held, (name, value) :: added, isHeld.cons_cons _, ?_,
                .cons ⟨rfl, first⟩ read⟩
              rw [isResult, List.append_assoc]
              rfl

/-- The arguments that are collected are behind those so far, one from each. -/
theorem collectArguments_ok {argVals : List ArgValContext}
    {arguments result : List (Text × Json (PythonNumber Double))}
    (collects : collectArguments simpleAtod arguments argVals = some result) :
    ∃ added, result = arguments ++ added ∧
      List.Forall₂ (ArgReadFrom simpleAtod) added argVals := by
  induction argVals generalizing arguments with
  | nil =>
      rw [collectArguments, Option.some.injEq] at collects
      exact ⟨[], by rw [collects, List.append_nil], .nil⟩
  | cons argVal rest inductionHypothesis =>
      obtain ⟨name, context⟩ := argVal
      rw [collectArguments] at collects
      split at collects
      · cases collects
      · cases first : parsePythonValue simpleAtod context with
        | error status =>
            rw [first] at collects
            cases collects
        | ok value =>
            rw [first] at collects
            dsimp only at collects
            split at collects
            · cases collects
            · obtain ⟨added, isResult, read⟩ := inductionHypothesis collects
              refine ⟨(name, value) :: added, ?_, .cons ⟨rfl, first⟩ read⟩
              rw [isResult, List.append_assoc]
              rfl

/-! ## The tree of a value -/

/-- A value of each kind, and what it is read from. -/
inductive Shape (simpleAtod : Text → Option Double) :
    Json (PythonNumber Double) → ValueContext → Prop where
  | int {text : Text} {value : Int} (reads : simpleAtoi text = some value) :
      Shape simpleAtod (.number (.int value)) (.int text)
  | float {text : Text} {value : Double} (reads : simpleAtod text = some value) :
      Shape simpleAtod (.number (.double value)) (.float text)
  | string (text : Text) : Shape simpleAtod (.string (stripQuotes text)) (.string text)
  | bool (text : Text) : Shape simpleAtod (.boolean (text = "True".toList)) (.bool text)
  | none : Shape simpleAtod .null .none
  | list {elements : List (Json (PythonNumber Double))} {contexts : List ValueContext}
      (reads : List.Forall₂ (ReadFrom simpleAtod) elements contexts) :
      Shape simpleAtod (.array elements) (.list contexts)
  | dict {members : List (Text × Json (PythonNumber Double))}
      {pairs : List (Text × ValueContext)}
      (reads : List.Forall₂ (PairReadFrom simpleAtod) members pairs) :
      Shape simpleAtod (.object members) (.dict pairs)
  | object {name : Text} {argVals : List ArgValContext}
      {members : List (Text × Json (PythonNumber Double))}
      (reads : parsePythonObject simpleAtod [("__type__".toList, .string name)] argVals =
        .ok members) :
      Shape simpleAtod (.object members) (.object name argVals)

/-- A value that is read has the shape of its tree. -/
theorem readFrom_shape {value : Json (PythonNumber Double)} {context : ValueContext}
    (read : ReadFrom simpleAtod value context) : Shape simpleAtod value context := by
  unfold ReadFrom at read
  cases context with
  | int text =>
      rw [parsePythonValue] at read
      split at read
      · cases read
      · rename_i found
        cases read
        exact .int found
  | float text =>
      rw [parsePythonValue] at read
      split at read
      · cases read
      · rename_i found
        cases read
        exact .float found
  | bool text =>
      rw [parsePythonValue] at read
      cases read
      exact .bool text
  | string text =>
      rw [parsePythonValue] at read
      cases read
      exact .string text
  | none =>
      rw [parsePythonValue] at read
      cases read
      exact .none
  | list contexts =>
      rw [parsePythonValue] at read
      cases parsed : parsePythonList simpleAtod contexts with
      | error status =>
          rw [parsed] at read
          cases read
      | ok elements =>
          rw [parsed] at read
          cases read
          exact .list (parsePythonList_ok_iff.mp parsed)
  | dict pairs =>
      rw [parsePythonValue] at read
      cases parsed : parsePythonDict simpleAtod [] pairs with
      | error status =>
          rw [parsed] at read
          cases read
      | ok members =>
          rw [parsed] at read
          cases read
          obtain ⟨added, isMembers, reads⟩ := parsePythonDict_ok parsed
          rw [List.nil_append] at isMembers
          exact .dict (isMembers ▸ reads)
  | object name argVals =>
      rw [parsePythonValue] at read
      cases parsed : parsePythonObject simpleAtod [("__type__".toList, .string name)] argVals with
      | error status =>
          rw [parsed] at read
          cases read
      | ok members =>
          rw [parsed] at read
          cases read
          exact .object parsed

end LiteRTLM.Components.ToolUse.PythonCalls
