import Mathlib.Tactic

/-!
Contract: successful executions of stateful programs with errors.

A program of type `EStateM` either returns a value and a state or stops with an
error and the state it had reached. What a successful execution did is read off
step by step.

Owns: the success relation, its rules for sequencing, reading, writing, errors and
branches, and the same rules for programs without state.

Does not own: any particular program.
-/

namespace LiteRTLM.Library

variable {Error State α β : Type}

/-- The program started in `before` returns `value` in `after`. -/
def Succeeds (program : EStateM Error State α) (before : State) (value : α) (after : State) :
    Prop :=
  program before = .ok value after

variable {before after : State} {value : α}

@[simp]
theorem succeeds_pure (result : α) :
    Succeeds (pure result : EStateM Error State α) before value after ↔
      value = result ∧ after = before := by
  constructor
  · intro succeeds
    cases succeeds
    exact ⟨rfl, rfl⟩
  · rintro ⟨rfl, rfl⟩
    rfl

@[simp]
theorem succeeds_throw (error : Error) :
    ¬Succeeds (throw error : EStateM Error State α) before value after := nofun

/-- A sequence succeeds when its parts do, one after the other. -/
@[simp]
theorem succeeds_bind (first : EStateM Error State β) (rest : β → EStateM Error State α) :
    Succeeds (first >>= rest) before value after ↔
      ∃ result between, Succeeds first before result between ∧
        Succeeds (rest result) between value after := by
  have unfolded : (first >>= rest) before =
      match first before with
      | .ok result between => rest result between
      | .error error between => .error error between := rfl
  unfold Succeeds
  rw [unfolded]
  cases outcome : first before with
  | ok result between => simp
  | error error between => simp

@[simp]
theorem succeeds_get {value : State} :
    Succeeds (get : EStateM Error State State) before value after ↔
      value = before ∧ after = before := by
  constructor
  · intro succeeds
    cases succeeds
    exact ⟨rfl, rfl⟩
  · rintro ⟨rfl, rfl⟩
    rfl

/-- What follows a read is given the state. -/
theorem succeeds_get_bind (rest : State → EStateM Error State α) :
    Succeeds (get >>= rest) before value after ↔ Succeeds (rest before) before value after :=
  Iff.rfl

/-- What follows a value is given the value. -/
theorem succeeds_pure_bind (result : β) (rest : β → EStateM Error State α) :
    Succeeds (pure result >>= rest) before value after ↔ Succeeds (rest result) before value after :=
  Iff.rfl

@[simp]
theorem succeeds_modify (change : State → State) {value : Unit} :
    Succeeds (modify change : EStateM Error State Unit) before value after ↔
      after = change before := by
  constructor
  · intro succeeds
    cases succeeds
    rfl
  · rintro rfl
    rfl

/-- A branch succeeds when the program it selects does. -/
theorem succeeds_ite (condition : Prop) [Decidable condition]
    (yes no : EStateM Error State α) :
    Succeeds (if condition then yes else no) before value after ↔
      (condition ∧ Succeeds yes before value after) ∨
        (¬condition ∧ Succeeds no before value after) := by
  by_cases holds : condition <;> simp [holds]

/-- The state a successful execution ends in. -/
def stateOnSuccess (program : EStateM Error State α) (before : State) : Option State :=
  match program before with
  | .ok _ after => some after
  | .error _ _ => none

theorem stateOnSuccess_eq_some {program : EStateM Error State α} :
    stateOnSuccess program before = some after ↔ ∃ value, Succeeds program before value after := by
  unfold stateOnSuccess Succeeds
  cases outcome : program before with
  | ok result state => simp
  | error error state => simp

/-! ## Programs without state -/

/-- A sequence of fallible computations returns a value when its parts do. -/
theorem except_bind_eq_ok {first : Except Error β} {rest : β → Except Error α} :
    first >>= rest = .ok value ↔ ∃ result, first = .ok result ∧ rest result = .ok value := by
  cases first with
  | ok result => simp [bind, Except.bind]
  | error error => simp [bind, Except.bind]

/-- A loop whose body succeeds for every item. -/
theorem mapM_ok (body : α → Except Error β) (result : α → β) (items : List α)
    (succeeds : ∀ item ∈ items, body item = .ok (result item)) :
    items.mapM body = .ok (items.map result) := by
  induction items with
  | nil => rfl
  | cons item items inductionHypothesis =>
      have rest := inductionHypothesis fun later inRest =>
        succeeds later (List.mem_cons_of_mem item inRest)
      rw [List.mapM_cons, succeeds item List.mem_cons_self, rest]
      rfl

theorem except_pure_eq_ok {result : α} :
    (pure result : Except Error α) = .ok value ↔ result = value := by
  simp [pure, Except.pure]

end LiteRTLM.Library
