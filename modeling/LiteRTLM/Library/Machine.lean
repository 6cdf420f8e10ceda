import Mathlib.Data.List.Basic

/-!
Contract: state machines given by a partial step function, and induction over
their runs.

A machine steps on a labelled action; `none` means that the action is not
enabled. Every nondeterministic choice of the modelled program (a scheduling
decision, an outcome, an iteration order) is part of the action, so one step
stays executable and a run is a list of actions.

Owns: execution of an action list, reachability under a guard on the steps
taken, the invariant rule, and properties that hold along a run.

Does not own: any particular machine.
-/

namespace LiteRTLM.Library

universe u v

/-- A partial step function together with the states a run may start from. -/
structure Machine (State : Type u) (Action : Type v) where
  Initial : State → Prop
  step : State → Action → Option State

namespace Machine

variable {State : Type u} {Action : Type v} (machine : Machine State Action)

/-- Execute a list of actions, oldest first. -/
def execute : State → List Action → Option State
  | state, [] => some state
  | state, action :: rest =>
      match machine.step state action with
      | none => none
      | some next => execute next rest

/-- States reached by steps that all meet `guard` in the state they start
from. -/
inductive ReachableUnder (guard : State → Action → Prop) : State → Prop where
  | initial {state : State} (starts : machine.Initial state) :
      ReachableUnder guard state
  | step {state next : State} {action : Action}
      (reached : ReachableUnder guard state) (allowed : guard state action)
      (steps : machine.step state action = some next) :
      ReachableUnder guard next

/-- States reached by any steps at all. -/
abbrev Reachable : State → Prop :=
  machine.ReachableUnder (fun _ _ => True)

variable {machine}

/-- The invariant rule: what holds initially and is preserved by every allowed
step holds in every state reached. -/
theorem ReachableUnder.invariant {guard : State → Action → Prop}
    (Invariant : State → Prop)
    (initially : ∀ state, machine.Initial state → Invariant state)
    (preserved : ∀ state action next, Invariant state → guard state action →
      machine.step state action = some next → Invariant next)
    {state : State} (reached : machine.ReachableUnder guard state) :
    Invariant state := by
  induction reached with
  | initial starts => exact initially _ starts
  | step _ allowed steps inductionHypothesis =>
      exact preserved _ _ _ inductionHypothesis allowed steps

/-- A weaker guard reaches at least as much. -/
theorem ReachableUnder.mono {strong weak : State → Action → Prop}
    (implied : ∀ state action, strong state action → weak state action)
    {state : State} (reached : machine.ReachableUnder strong state) :
    machine.ReachableUnder weak state := by
  induction reached with
  | initial starts => exact .initial starts
  | step _ allowed steps inductionHypothesis =>
      exact .step inductionHypothesis (implied _ _ allowed) steps

/-- The actions of a list meet `guard` one after the other. -/
def GuardedAlong (machine : Machine State Action)
    (guard : State → Action → Prop) : State → List Action → Prop
  | _, [] => True
  | state, action :: rest =>
      guard state action ∧
        match machine.step state action with
        | none => True
        | some next => GuardedAlong machine guard next rest

instance decidableGuardedAlong (guard : State → Action → Prop)
    [∀ state action, Decidable (guard state action)] :
    ∀ (state : State) (actions : List Action),
      Decidable (machine.GuardedAlong guard state actions)
  | _, [] => isTrue trivial
  | state, action :: rest =>
      @instDecidableAnd _ _ _ <|
        match machine.step state action with
        | none => isTrue trivial
        | some next => decidableGuardedAlong guard next rest

/-- Every action of a guarded list meets the guard where it is taken. -/
theorem GuardedAlong.at_split {guard : State → Action → Prop} {earlier later : List Action}
    {action : Action} {state between : State}
    (guarded : machine.GuardedAlong guard state (earlier ++ action :: later))
    (executed : machine.execute state earlier = some between) :
    guard between action := by
  induction earlier generalizing state with
  | nil =>
      cases executed
      exact guarded.1
  | cons first rest inductionHypothesis =>
      simp only [Machine.execute] at executed
      cases stepped : machine.step state first with
      | none => simp [stepped] at executed
      | some next =>
          rw [stepped] at executed
          simp only [List.cons_append, GuardedAlong, stepped] at guarded
          exact inductionHypothesis guarded.2 executed

theorem GuardedAlong.left {guard : State → Action → Prop} {earlier later : List Action}
    {state : State} (guarded : machine.GuardedAlong guard state (earlier ++ later)) :
    machine.GuardedAlong guard state earlier := by
  induction earlier generalizing state with
  | nil => trivial
  | cons first rest inductionHypothesis =>
      refine ⟨guarded.1, ?_⟩
      have others := guarded.2
      cases stepped : machine.step state first with
      | none => trivial
      | some next =>
          rw [stepped] at others
          exact inductionHypothesis others

/-- Executing a guarded action list from a reached state reaches its result. -/
theorem ReachableUnder.execute {guard : State → Action → Prop}
    {actions : List Action} {state final : State}
    (reached : machine.ReachableUnder guard state)
    (guarded : machine.GuardedAlong guard state actions)
    (executed : machine.execute state actions = some final) :
    machine.ReachableUnder guard final := by
  induction actions generalizing state with
  | nil =>
      cases executed
      exact reached
  | cons action rest inductionHypothesis =>
      simp only [Machine.execute] at executed
      cases stepped : machine.step state action with
      | none => simp [stepped] at executed
      | some next =>
          rw [stepped] at executed
          simp only [GuardedAlong, stepped] at guarded
          exact inductionHypothesis (.step reached guarded.1 stepped)
            guarded.2 executed

/-- What every step of a list of actions preserves holds where it ends. -/
theorem execute_invariant {guard : State → Action → Prop} (Invariant : State → Prop)
    (preserved : ∀ state action next, Invariant state → guard state action →
      machine.step state action = some next → Invariant next)
    {actions : List Action} {state final : State} (initially : Invariant state)
    (guarded : machine.GuardedAlong guard state actions)
    (executed : machine.execute state actions = some final) : Invariant final := by
  induction actions generalizing state with
  | nil =>
      cases executed
      exact initially
  | cons action rest inductionHypothesis =>
      simp only [Machine.execute] at executed
      cases stepped : machine.step state action with
      | none => simp [stepped] at executed
      | some next =>
          rw [stepped] at executed
          simp only [GuardedAlong, stepped] at guarded
          exact inductionHypothesis (preserved _ _ _ initially guarded.1 stepped) guarded.2
            executed

/-- What holds only behind an execution begins to hold at one of its steps. -/
theorem exists_step_of_execute (Property : State → Prop) {actions : List Action}
    {state final : State} (executed : machine.execute state actions = some final)
    (before : ¬ Property state) (behind : Property final) :
    ∃ earlier action later between next, actions = earlier ++ action :: later ∧
      machine.execute state earlier = some between ∧
      machine.step between action = some next ∧ ¬ Property between ∧ Property next := by
  induction actions generalizing state with
  | nil =>
      cases executed
      exact absurd behind before
  | cons action rest inductionHypothesis =>
      simp only [Machine.execute] at executed
      cases stepped : machine.step state action with
      | none => simp [stepped] at executed
      | some next =>
          rw [stepped] at executed
          by_cases begins : Property next
          · exact ⟨[], action, rest, state, next, rfl, rfl, stepped, before, begins⟩
          · obtain ⟨earlier, other, later, between, after, split, reached, taken⟩ :=
              inductionHypothesis executed begins
            refine ⟨action :: earlier, other, later, between, after, by rw [split]; rfl, ?_,
              taken⟩
            simp only [execute, stepped]
            exact reached

/-- One more step at the end of an execution. -/
theorem execute_concat {actions : List Action} {action : Action} {state middle next : State}
    (executed : machine.execute state actions = some middle)
    (stepped : machine.step middle action = some next) :
    machine.execute state (actions ++ [action]) = some next := by
  induction actions generalizing state with
  | nil =>
      cases executed
      simp only [List.nil_append, execute, stepped]
  | cons first rest inductionHypothesis =>
      simp only [execute, List.cons_append] at executed ⊢
      cases taken : machine.step state first with
      | none => simp [taken] at executed
      | some after =>
          rw [taken] at executed
          exact inductionHypothesis executed

/-- The bisimulation rule: states that step alike run alike. -/
theorem execute_rel {Related : State → State → Prop}
    (step_rel : ∀ left right action, Related left right →
      Option.Rel Related (machine.step left action) (machine.step right action))
    {left right : State} (related : Related left right) (actions : List Action) :
    Option.Rel Related (machine.execute left actions) (machine.execute right actions) := by
  induction actions generalizing left right with
  | nil => exact .some related
  | cons action rest inductionHypothesis =>
      have stepped := step_rel left right action related
      unfold execute
      cases leftStep : machine.step left action with
      | none =>
          cases rightStep : machine.step right action with
          | none => exact .none
          | some rightNext =>
              rw [leftStep, rightStep] at stepped
              cases stepped
      | some leftNext =>
          cases rightStep : machine.step right action with
          | none =>
              rw [leftStep, rightStep] at stepped
              cases stepped
          | some rightNext =>
              rw [leftStep, rightStep] at stepped
              cases stepped with
              | some relatedNext => exact inductionHypothesis relatedNext

/-- Without a guard every list of actions is allowed. -/
theorem guardedAlong_true (actions : List Action) (state : State) :
    machine.GuardedAlong (fun _ _ => True) state actions := by
  induction actions generalizing state with
  | nil => trivial
  | cons action rest inductionHypothesis =>
      refine ⟨trivial, ?_⟩
      cases machine.step state action with
      | none => trivial
      | some next => exact inductionHypothesis next

/-- Without a guard every execution from an initial state is a run. -/
theorem reachable_of_execute {actions : List Action} {state final : State}
    (starts : machine.Initial state)
    (executed : machine.execute state actions = some final) :
    machine.Reachable final :=
  (ReachableUnder.initial starts).execute (guardedAlong_true actions state) executed

end Machine

end LiteRTLM.Library
