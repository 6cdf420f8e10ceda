import LiteRTLM.Library.Outcome

/-!
Contract: pairs of runs of stateful programs with errors.

Two runs agree when they return the same value or stop with the same error, in states of a
relation. With equality and a predicate as the relation this is an invariant of one program.

Owns: the agreement of results and of programs, its rules for sequencing, reading and branches,
and the value and the state of a result.

Does not own: any particular program or relation.
-/

namespace LiteRTLM.Library

variable {Error State α β : Type} {related : State → State → Prop}

/-- The same value or the same error, in related states. -/
def ResultsAgree (related : State → State → Prop) :
    EStateM.Result Error State α → EStateM.Result Error State α → Prop
  | .ok first before, .ok second after => first = second ∧ related before after
  | .error first before, .error second after => first = second ∧ related before after
  | _, _ => False

/-- Started in related states, two programs end in results that agree. -/
def RunsAgree (related : State → State → Prop) (first second : EStateM Error State α) : Prop :=
  ∀ before after, related before after → ResultsAgree related (first before) (second after)

theorem runsAgree_pure (value : α) :
    RunsAgree related (pure value : EStateM Error State α) (pure value) :=
  fun _ _ states => ⟨rfl, states⟩

theorem resultsAgree_refl (reflexive : ∀ state, related state state)
    (result : EStateM.Result Error State α) : ResultsAgree related result result := by
  cases result with
  | ok value state => exact ⟨rfl, reflexive state⟩
  | error error state => exact ⟨rfl, reflexive state⟩

/-- Programs that agree, followed by programs that agree. -/
theorem ResultsAgree.bind {middle : State → State → Prop} {first second : EStateM Error State β}
    {rest rest' : β → EStateM Error State α} {before after : State}
    (agree : ResultsAgree middle (first before) (second after))
    (weaker : ∀ before after, middle before after → related before after)
    (restAgree : ∀ value before after, middle before after →
      ResultsAgree related (rest value before) (rest' value after)) :
    ResultsAgree related ((first >>= rest) before) ((second >>= rest') after) := by
  simp only [Bind.bind, EStateM.bind]
  cases left : first before with
  | ok value between =>
      cases right : second after with
      | ok value' between' =>
          rw [left, right] at agree
          obtain ⟨rfl, states⟩ := agree
          exact restAgree value between between' states
      | error error' between' =>
          rw [left, right] at agree
          exact agree.elim
  | error error between =>
      cases right : second after with
      | ok value' between' =>
          rw [left, right] at agree
          exact agree.elim
      | error error' between' =>
          rw [left, right] at agree
          exact ⟨agree.1, weaker between between' agree.2⟩

theorem RunsAgree.bind {first second : EStateM Error State β}
    {rest rest' : β → EStateM Error State α} (agree : RunsAgree related first second)
    (restAgree : ∀ value, RunsAgree related (rest value) (rest' value)) :
    RunsAgree related (first >>= rest) (second >>= rest') :=
  fun before after states =>
    (agree before after states).bind (fun _ _ states => states) restAgree

/-- What follows a read is given the two states. -/
theorem runsAgree_get_bind {rest rest' : State → EStateM Error State α}
    (agree : ∀ before after, related before after →
      ResultsAgree related (rest before before) (rest' after after)) :
    RunsAgree related (get >>= rest) (get >>= rest') := agree

/-- A branch that both programs take. -/
theorem runsAgree_ite {condition : Prop} [Decidable condition]
    {yes no yes' no' : EStateM Error State α} (yesAgree : RunsAgree related yes yes')
    (noAgree : RunsAgree related no no') :
    RunsAgree related (if condition then yes else no) (if condition then yes' else no') := by
  by_cases holds : condition
  · rw [if_pos holds, if_pos holds]
    exact yesAgree
  · rw [if_neg holds, if_neg holds]
    exact noAgree

/-- The value or the error of a result. -/
def outcome : EStateM.Result Error State α → Except Error α
  | .ok value _ => .ok value
  | .error error _ => .error error

/-- The state in which a program stops. -/
def stoppedIn : EStateM.Result Error State α → State
  | .ok _ state => state
  | .error _ state => state

theorem ResultsAgree.outcome_eq {first second : EStateM.Result Error State α}
    (agree : ResultsAgree related first second) : outcome first = outcome second := by
  cases first with
  | ok value before =>
      cases second with
      | ok value' after => exact congrArg Except.ok agree.1
      | error error' after => exact agree.elim
  | error error before =>
      cases second with
      | ok value' after => exact agree.elim
      | error error' after => exact congrArg Except.error agree.1

/-- A condition on the state in which a program stops. -/
theorem ends_stoppedIn_iff (program : EStateM Error State α) (before : State)
    (condition : State → Prop) :
    Ends program before (fun _ => condition) (fun _ => condition) ↔
      condition (stoppedIn (program before)) := by
  unfold Ends
  cases program before with
  | ok value after => exact Iff.rfl
  | error error after => exact Iff.rfl

end LiteRTLM.Library
