import LiteRTLM.Engine.Status
import Mathlib.Logic.Function.Basic

/-!
Contract: the turns that `BenchmarkInfo` times.

Owns: the names of the phases with a start time, the start and the end of a prefill or decode
turn, and what a start or an end does to the turns of either kind.

Does not own: the times, the phases of the initialization and the marks. The phases of the
initialization share the table of start times with the turns.
-/

namespace LiteRTLM.Engine

/-- A prefill or a decode. -/
inductive TurnKind where
  | prefill
  | decode
deriving DecidableEq, Repr

/-- What the names of the phases of a kind begin with. -/
def TurnKind.label : TurnKind → String
  | prefill => "prefill:"
  | decode => "decode:"

/-- What the errors of a kind begin with. -/
def TurnKind.title : TurnKind → String
  | prefill => "Prefill turn "
  | decode => "Decode turn "

/-- The turns of one kind: the index of the current one, and the numbers of tokens of those that
ended. -/
structure TurnLog where
  turnIndex : Nat := 0
  turns : List Nat := []
deriving DecidableEq, Repr

/-- `BenchmarkInfo`, with the number of decode steps of its parameters. -/
structure BenchmarkInfo where
  numDecodeTokens : Nat := 0
  startTimeMap : List String := []
  log : TurnKind → TurnLog := fun _ => {}

namespace BenchmarkInfo

def phaseName (kind : TurnKind) (index : Nat) : String := kind.label ++ toString index

def currentPhase (info : BenchmarkInfo) (kind : TurnKind) : String :=
  phaseName kind (info.log kind).turnIndex

def timeTurnStart (kind : TurnKind) (info : BenchmarkInfo) : StatusOr BenchmarkInfo :=
  if info.currentPhase kind ∈ info.startTimeMap then
    .error (.internalError (kind.title ++ info.currentPhase kind ++ " already started."))
  else
    .ok { info with startTimeMap := info.currentPhase kind :: info.startTimeMap }

def timeTurnEnd (kind : TurnKind) (numTokens : Nat) (info : BenchmarkInfo) :
    StatusOr BenchmarkInfo :=
  if info.currentPhase kind ∉ info.startTimeMap then
    .error (.internalError (kind.title ++ info.currentPhase kind ++ " not started."))
  else
    .ok { info with
      log := Function.update info.log kind
        { turnIndex := (info.log kind).turnIndex + 1
          turns := (info.log kind).turns ++ [numTokens] } }

def timePrefillTurnStart : BenchmarkInfo → StatusOr BenchmarkInfo := timeTurnStart .prefill

def timePrefillTurnEnd : Nat → BenchmarkInfo → StatusOr BenchmarkInfo := timeTurnEnd .prefill

def timeDecodeTurnStart : BenchmarkInfo → StatusOr BenchmarkInfo := timeTurnStart .decode

def timeDecodeTurnEnd : Nat → BenchmarkInfo → StatusOr BenchmarkInfo := timeTurnEnd .decode

/-! ## Names -/

/-- A phase name tells the kind and the index of its turn. -/
theorem phaseName_injective {kind other : TurnKind} {index otherIndex : Nat}
    (same : phaseName kind index = phaseName other otherIndex) :
    kind = other ∧ index = otherIndex := by
  have characters := congrArg String.toList same
  simp only [phaseName, String.toList_append] at characters
  have sameKind : kind = other := by
    cases kind with
    | prefill =>
        cases other with
        | prefill => rfl
        | decode => cases characters
    | decode =>
        cases other with
        | prefill => cases characters
        | decode => rfl
  subst sameKind
  refine ⟨rfl, ?_⟩
  have digits := List.append_cancel_left characters
  rw [Nat.toString_eq_ofList_toDigits, Nat.toString_eq_ofList_toDigits, String.toList_ofList,
    String.toList_ofList] at digits
  have values := congrArg (fun text => Nat.ofDigitChars 10 text 0) digits
  rw [Nat.ofDigitChars_ten_toDigits, Nat.ofDigitChars_ten_toDigits] at values
  exact values

/-! ## Turns -/

/-- The info once the current turn has started. -/
def started (info : BenchmarkInfo) (kind : TurnKind) : BenchmarkInfo :=
  { info with startTimeMap := info.currentPhase kind :: info.startTimeMap }

/-- The info once a started turn has ended. -/
def ended (info : BenchmarkInfo) (kind : TurnKind) (numTokens : Nat) : BenchmarkInfo :=
  { info with
    log := Function.update info.log kind
      { turnIndex := (info.log kind).turnIndex + 1
        turns := (info.log kind).turns ++ [numTokens] } }

/-- The info after a whole turn. -/
def recorded (info : BenchmarkInfo) (kind : TurnKind) (numTokens : Nat) : BenchmarkInfo :=
  (info.started kind).ended kind numTokens

/-- A turn can be started exactly when the current one was not. -/
theorem timeTurnStart_isOk (kind : TurnKind) (info : BenchmarkInfo) :
    StatusOr.isOk (timeTurnStart kind info) = true ↔
      info.currentPhase kind ∉ info.startTimeMap := by
  unfold timeTurnStart
  split <;> simp_all [StatusOr.isOk]

theorem timeTurnStart_started {info : BenchmarkInfo} {kind : TurnKind}
    (notStarted : info.currentPhase kind ∉ info.startTimeMap) :
    timeTurnStart kind info = .ok (info.started kind) := by
  unfold timeTurnStart
  rw [if_neg notStarted]
  rfl

theorem currentPhase_started (info : BenchmarkInfo) (kind : TurnKind) :
    (info.started kind).currentPhase kind ∈ (info.started kind).startTimeMap :=
  List.mem_cons_self

theorem timeTurnEnd_ended (info : BenchmarkInfo) (kind : TurnKind) (numTokens : Nat) :
    timeTurnEnd kind numTokens (info.started kind) = .ok (info.recorded kind numTokens) := by
  unfold timeTurnEnd
  rw [if_neg (not_not.mpr (currentPhase_started info kind))]
  rfl

/-- A turn that was started and did not end lets no other turn of its kind start. -/
theorem started_blocks (info : BenchmarkInfo) (kind : TurnKind) :
    StatusOr.isOk (timeTurnStart kind (info.started kind)) = false := by
  rw [Bool.eq_false_iff]
  intro starts
  exact (timeTurnStart_isOk kind _).mp starts (currentPhase_started info kind)

/-- No turn is open, and none of a later index was started. -/
def NoneOpen (info : BenchmarkInfo) : Prop :=
  ∀ kind index, (info.log kind).turnIndex ≤ index → phaseName kind index ∉ info.startTimeMap

theorem NoneOpen.notStarted {info : BenchmarkInfo} (noneOpen : info.NoneOpen)
    (kind : TurnKind) : info.currentPhase kind ∉ info.startTimeMap :=
  noneOpen kind _ (Nat.le_refl _)

/-- The turns of a kind after a whole turn. -/
theorem turns_recorded (info : BenchmarkInfo) (kind other : TurnKind) (numTokens : Nat) :
    ((info.recorded kind numTokens).log other).turns =
      (info.log other).turns ++ if other = kind then [numTokens] else [] := by
  show (Function.update info.log kind _ other).turns = _
  by_cases same : other = kind
  · subst same
    rw [Function.update_self, if_pos rfl]
    rfl
  · rw [Function.update_of_ne same, if_neg same, List.append_nil]

/-- A whole turn leaves none open. -/
theorem NoneOpen.recorded {info : BenchmarkInfo} (noneOpen : info.NoneOpen) (kind : TurnKind)
    (numTokens : Nat) : (info.recorded kind numTokens).NoneOpen := by
  intro other index notEarlier inMap
  have notEarlier : (Function.update info.log kind
      { turnIndex := (info.log kind).turnIndex + 1
        turns := (info.log kind).turns ++ [numTokens] } other).turnIndex ≤ index := notEarlier
  cases List.mem_cons.mp inMap with
  | inl current =>
      obtain ⟨sameKind, sameIndex⟩ := phaseName_injective current
      subst sameKind
      rw [Function.update_self] at notEarlier
      have notEarlier : (info.log other).turnIndex + 1 ≤ index := notEarlier
      omega
  | inr earlier =>
      refine noneOpen other index ?_ earlier
      by_cases same : other = kind
      · subst same
        rw [Function.update_self] at notEarlier
        exact Nat.le_of_succ_le notEarlier
      · rwa [Function.update_of_ne same] at notEarlier

/-- None is open as long as no turn was started. -/
theorem noneOpen_of_noTurn {info : BenchmarkInfo}
    (noTurn : ∀ kind index, phaseName kind index ∉ info.startTimeMap) : info.NoneOpen :=
  fun kind index _ => noTurn kind index

end BenchmarkInfo

end LiteRTLM.Engine
