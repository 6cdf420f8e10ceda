import Mathlib
import LiteRTLM.Library.Outcome
import LiteRTLM.Library.Parts

/-!
Contract: what an execution of a stateful program keeps, and how far it raises a
measure, however it ends.

Owns: the two notions, their rules for sequencing, reading, writing and errors, and the
end of a program that runs on a part of a state.

Does not own: any particular program.
-/

namespace LiteRTLM.Library

variable {Error State Part α β Kept : Type}

/-! ## Ends of programs -/

/-- A sequence continues where its first part succeeds. -/
theorem bind_of_ok {first : EStateM Error State β} {before between : State} {value : β}
    (ok : first before = .ok value between) (rest : β → EStateM Error State α) :
    (first >>= rest) before = rest value between := by
  change EStateM.bind first rest before = _
  rw [EStateM.bind, ok]

/-- A sequence ends where its first part fails. -/
theorem bind_of_error {first : EStateM Error State β} {before between : State} {error : Error}
    (failed : first before = .error error between) (rest : β → EStateM Error State α) :
    (first >>= rest) before = .error error between := by
  change EStateM.bind first rest before = _
  rw [EStateM.bind, failed]

@[simp]
theorem finalState_pure (value : α) (before : State) :
    finalState (pure value : EStateM Error State α) before = before := rfl

@[simp]
theorem finalState_throw (error : Error) (before : State) :
    finalState (throw error : EStateM Error State α) before = before := rfl

@[simp]
theorem finalState_modify (change : State → State) (before : State) :
    finalState (modify change : EStateM Error State Unit) before = change before := rfl

/-- A program on a part ends as the part does; the rest of the state is kept. -/
@[simp]
theorem ends_onPart (read : State → Part) (write : State → Part → State)
    (program : EStateM Error Part α) {before : State} {returned : α → State → Prop}
    {failed : Error → State → Prop} :
    Ends (onPart read write program) before returned failed ↔
      Ends program (read before) (fun value part => returned value (write before part))
        (fun error part => failed error (write before part)) := by
  unfold Ends onPart
  cases program (read before) <;> exact Iff.rfl

theorem ends_iff_of_ok {program : EStateM Error State α} {before after : State} {value : α}
    {returned : α → State → Prop} {failed : Error → State → Prop}
    (ok : program before = .ok value after) :
    Ends program before returned failed ↔ returned value after := by
  unfold Ends
  rw [ok]

theorem ends_iff_of_error {program : EStateM Error State α} {before after : State}
    {error : Error} {returned : α → State → Prop} {failed : Error → State → Prop}
    (stopped : program before = .error error after) :
    Ends program before returned failed ↔ failed error after := by
  unfold Ends
  rw [stopped]

/-- What holds of every end in a state holds of each kind of end. -/
theorem ends_of_finalState {program : EStateM Error State α} {before : State}
    {condition : State → Prop} (holds : condition (finalState program before)) :
    Ends program before (fun _ => condition) (fun _ => condition) :=
  (ends_finalState_iff program condition).mpr holds

theorem finalState_get_bind (rest : State → EStateM Error State α) (before : State) :
    finalState ((get : EStateM Error State State) >>= rest) before =
      finalState (rest before) before := rfl

theorem finalState_modify_bind (change : State → State) (rest : Unit → EStateM Error State α)
    (before : State) :
    finalState ((modify change : EStateM Error State Unit) >>= rest) before =
      finalState (rest ()) (change before) := rfl

/-! ## What is kept -/

/-- The program started in `before` leaves what `read` reads as it is. -/
def Keeps (read : State → Kept) (program : EStateM Error State α) (before : State) : Prop :=
  read (finalState program before) = read before

variable {read : State → Kept} {before : State}

theorem Keeps.ends {program : EStateM Error State α} (keeps : Keeps read program before) :
    Ends program before (fun _ after => read after = read before)
      (fun _ after => read after = read before) :=
  ends_of_finalState keeps

theorem keeps_pure (value : α) :
    Keeps read (pure value : EStateM Error State α) before := rfl

theorem keeps_throw (error : Error) :
    Keeps read (throw error : EStateM Error State α) before := rfl

theorem Keeps.bind {first : EStateM Error State β} {rest : β → EStateM Error State α}
    (keeps : Keeps read first before)
    (further : ∀ value between, Keeps read (rest value) between) :
    Keeps read (first >>= rest) before := by
  apply (ends_finalState_iff _ fun after => read after = read before).mp
  rw [ends_bind]
  exact keeps.ends.mono
    (fun value between same => ends_of_finalState ((further value between).trans same))
    (fun _ _ same => same)

theorem Keeps.get_bind {rest : State → EStateM Error State α}
    (keeps : Keeps read (rest before) before) :
    Keeps read ((get : EStateM Error State State) >>= rest) before :=
  keeps

theorem Keeps.ite {condition : Prop} [Decidable condition] {yes no : EStateM Error State α}
    (ifYes : condition → Keeps read yes before) (ifNo : ¬condition → Keeps read no before) :
    Keeps read (if condition then yes else no) before := by
  by_cases holds : condition
  · rw [if_pos holds]
    exact ifYes holds
  · rw [if_neg holds]
    exact ifNo holds

/-! ## How far a measure is raised -/

/-- The program started in `before` raises the measure by at most `amount`. -/
def RaisesAtMost (measure : State → Nat) (amount : Nat) (program : EStateM Error State α)
    (before : State) : Prop :=
  measure (finalState program before) ≤ measure before + amount

variable {measure : State → Nat} {amount more : Nat}

theorem Keeps.raisesAtMost {program : EStateM Error State α}
    (keeps : Keeps measure program before) (amount : Nat) :
    RaisesAtMost measure amount program before := by
  unfold RaisesAtMost
  rw [keeps]
  exact Nat.le_add_right _ _

theorem RaisesAtMost.mono {program : EStateM Error State α}
    (raises : RaisesAtMost measure amount program before) (above : amount ≤ more) :
    RaisesAtMost measure more program before :=
  Nat.le_trans raises (Nat.add_le_add_left above _)

theorem RaisesAtMost.bind {first : EStateM Error State β}
    {rest : β → EStateM Error State α} (raises : RaisesAtMost measure amount first before)
    (further : ∀ value between, RaisesAtMost measure more (rest value) between) :
    RaisesAtMost measure (amount + more) (first >>= rest) before := by
  apply (ends_finalState_iff _ fun after => measure after ≤ measure before + (amount + more)).mp
  rw [ends_bind]
  have firstEnds : Ends first before (fun _ between => measure between ≤ measure before + amount)
      (fun _ between => measure between ≤ measure before + amount) := ends_of_finalState raises
  exact firstEnds.mono
    (fun value between low => ends_of_finalState (by
      have high := further value between
      unfold RaisesAtMost at high
      omega))
    (fun _ _ low => by omega)

theorem RaisesAtMost.ite {condition : Prop} [Decidable condition]
    {yes no : EStateM Error State α}
    (ifYes : condition → RaisesAtMost measure amount yes before)
    (ifNo : ¬condition → RaisesAtMost measure amount no before) :
    RaisesAtMost measure amount (if condition then yes else no) before := by
  by_cases holds : condition
  · rw [if_pos holds]
    exact ifYes holds
  · rw [if_neg holds]
    exact ifNo holds

/-- A first part that changes nothing. -/
theorem RaisesAtMost.bind_of_keeps {first : EStateM Error State β}
    {rest : β → EStateM Error State α} (keeps : Keeps id first before)
    (further : ∀ value, RaisesAtMost measure amount (rest value) before) :
    RaisesAtMost measure amount (first >>= rest) before := by
  apply (ends_finalState_iff _ fun after => measure after ≤ measure before + amount).mp
  rw [ends_bind]
  apply keeps.ends.mono
  · intro value between same
    rw [show between = before from same]
    exact ends_of_finalState (further value)
  · intro _ between same
    rw [show between = before from same]
    exact Nat.le_add_right _ _

theorem RaisesAtMost.get_bind {rest : State → EStateM Error State α}
    (raises : RaisesAtMost measure amount (rest before) before) :
    RaisesAtMost measure amount ((get : EStateM Error State State) >>= rest) before :=
  raises

end LiteRTLM.Library
