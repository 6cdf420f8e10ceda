import LiteRTLM.Library.Succeeds

/-!
Contract: how an execution of a stateful program with errors ends.

An execution always ends in a state, with a value or with an error. A condition on
how it ends has a part for each, and is computed backwards through the program.

Owns: the ending of an execution, its final state, and the rules for sequencing,
reading, writing, errors and branches.

Does not own: any particular program.
-/

namespace LiteRTLM.Library

variable {Error State α β : Type}

/-- The program started in `before` returns a value as `returned` says or stops
with an error as `failed` says. -/
def Ends (program : EStateM Error State α) (before : State)
    (returned : α → State → Prop) (failed : Error → State → Prop) : Prop :=
  match program before with
  | .ok value after => returned value after
  | .error error after => failed error after

/-- The state in which an execution ends. -/
def finalState (program : EStateM Error State α) (before : State) : State :=
  match program before with
  | .ok _ after => after
  | .error _ after => after

variable {before : State} {returned : α → State → Prop} {failed : Error → State → Prop}

/-- A condition on the state alone. -/
theorem ends_finalState_iff (program : EStateM Error State α) (condition : State → Prop) :
    Ends program before (fun _ => condition) (fun _ => condition) ↔
      condition (finalState program before) := by
  unfold Ends finalState
  cases program before <;> exact Iff.rfl

/-- A program that does not fail ends in a state as it returns it. -/
theorem Ends.finalState {program : EStateM Error State α} {condition : State → Prop}
    (ends : Ends program before (fun _ => condition) (fun _ _ => False)) :
    condition (Library.finalState program before) := by
  unfold Ends at ends
  unfold Library.finalState
  cases outcome : program before with
  | ok value after =>
      rw [outcome] at ends
      exact ends
  | error error after =>
      rw [outcome] at ends
      exact ends.elim

/-- A weaker condition holds as well. -/
theorem Ends.mono {program : EStateM Error State α} {returned' : α → State → Prop}
    {failed' : Error → State → Prop} (ends : Ends program before returned failed)
    (onReturn : ∀ value after, returned value after → returned' value after)
    (onFailure : ∀ error after, failed error after → failed' error after) :
    Ends program before returned' failed' := by
  unfold Ends at ends ⊢
  cases outcome : program before with
  | ok value after =>
      rw [outcome] at ends
      exact onReturn value after ends
  | error error after =>
      rw [outcome] at ends
      exact onFailure error after ends

/-- Two conditions hold together. -/
theorem Ends.and {program : EStateM Error State α} {returned' : α → State → Prop}
    {failed' : Error → State → Prop} (ends : Ends program before returned failed)
    (others : Ends program before returned' failed') :
    Ends program before (fun value after => returned value after ∧ returned' value after)
      (fun error after => failed error after ∧ failed' error after) := by
  unfold Ends at ends others ⊢
  cases outcome : program before with
  | ok value after =>
      rw [outcome] at ends others
      exact ⟨ends, others⟩
  | error error after =>
      rw [outcome] at ends others
      exact ⟨ends, others⟩

@[simp]
theorem ends_pure (value : α) :
    Ends (pure value : EStateM Error State α) before returned failed ↔ returned value before :=
  Iff.rfl

@[simp]
theorem ends_throw (error : Error) :
    Ends (throw error : EStateM Error State α) before returned failed ↔ failed error before :=
  Iff.rfl

/-- A sequence ends as its second part does, or where its first part fails. -/
@[simp]
theorem ends_bind (first : EStateM Error State β) (rest : β → EStateM Error State α) :
    Ends (first >>= rest) before returned failed ↔
      Ends first before (fun result between => Ends (rest result) between returned failed)
        failed := by
  have unfolded : (first >>= rest) before =
      match first before with
      | .ok result between => rest result between
      | .error error between => .error error between := rfl
  unfold Ends
  rw [unfolded]
  cases first before <;> exact Iff.rfl

@[simp]
theorem ends_map (transform : β → α) (program : EStateM Error State β) :
    Ends (transform <$> program) before returned failed ↔
      Ends program before (fun result => returned (transform result)) failed := by
  rw [map_eq_pure_bind, ends_bind]
  exact Iff.rfl

@[simp]
theorem ends_get {returned : State → State → Prop} :
    Ends (get : EStateM Error State State) before returned failed ↔ returned before before :=
  Iff.rfl

@[simp]
theorem ends_modify (change : State → State) {returned : Unit → State → Prop} :
    Ends (modify change : EStateM Error State Unit) before returned failed ↔
      returned () (change before) :=
  Iff.rfl

/-- A branch ends as the program it selects does. -/
theorem ends_ite (condition : Prop) [Decidable condition] (yes no : EStateM Error State α) :
    Ends (if condition then yes else no) before returned failed ↔
      (condition → Ends yes before returned failed) ∧
        (¬condition → Ends no before returned failed) := by
  by_cases holds : condition <;> simp [holds]

end LiteRTLM.Library
