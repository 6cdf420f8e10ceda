import LiteRTLM.Library.Succeeds

/-!
Contract: programs that run on a part of a larger state.

Owns: the lifting of a stateful program to a state that holds its state as a part,
and the rule for its success.

Does not own: any particular state.
-/

namespace LiteRTLM.Library

variable {Error State Part α : Type}

/-- The program runs on the part; the rest of the state is kept, also when it fails. -/
def onPart (read : State → Part) (write : State → Part → State)
    (program : EStateM Error Part α) : EStateM Error State α := fun state =>
  match program (read state) with
  | .ok value part => .ok value (write state part)
  | .error error part => .error error (write state part)

@[simp]
theorem succeeds_onPart (read : State → Part) (write : State → Part → State)
    (program : EStateM Error Part α) {before after : State} {value : α} :
    Succeeds (onPart read write program) before value after ↔
      ∃ part, Succeeds program (read before) value part ∧ after = write before part := by
  unfold Succeeds onPart
  cases outcome : program (read before) with
  | ok result part =>
      constructor
      · intro same
        cases same
        exact ⟨part, rfl, rfl⟩
      · rintro ⟨other, same, rfl⟩
        cases same
        rfl
  | error error part => simp

end LiteRTLM.Library
