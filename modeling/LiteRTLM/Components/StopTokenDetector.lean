import LiteRTLM.Engine.Status
import LiteRTLM.Library.PrefixMatching

/-!
Contract: `StopTokenDetector`.

Owns: the stop sequences and per-item match progress, the detector's operations,
what the matcher computes for one sequence, and exactly when the detector
reports stop sequences and partial matches as they occur.

Does not own: what a decode loop does with the reported lengths.

The parallel vectors of the source, one entry per batch item, are one list of
records here. That stop sequences are never empty, and that every item tracks
every sequence, are fields of the detector.
-/

namespace LiteRTLM.Components

open LiteRTLM.Engine
open LiteRTLM.Library.PrefixMatching

structure BatchItem where
  matchProgress : List Nat
  maxMatchProgress : Nat
  stopTokenFound : Bool
  matchedStopSequenceLength : Nat
deriving DecidableEq, Repr

namespace BatchItem

/-- A batch item before any token. -/
def initial (sequenceCount : Nat) : BatchItem where
  matchProgress := List.replicate sequenceCount 0
  maxMatchProgress := 0
  stopTokenFound := false
  matchedStopSequenceLength := 0

/-- The match length of one stop sequence after the current token. -/
def advance (stopSequence : List Int) (currentMatchLength : Nat) (currentTokenId : Int) : Nat :=
  if stopSequence[currentMatchLength]? = some currentTokenId then
    currentMatchLength + 1
  else if stopSequence.head? = some currentTokenId then
    1
  else
    0

/-- The whole stop sequence is matched. -/
def Completed (stopSequence : List Int) (matchLength : Nat) : Prop :=
  0 < matchLength ∧ matchLength = stopSequence.length

instance (stopSequence : List Int) (matchLength : Nat) :
    Decidable (Completed stopSequence matchLength) :=
  inferInstanceAs (Decidable (0 < matchLength ∧ _ = _))

/-- The body of the loop over the stop sequences. The progress of the sequences
already visited is in `matchProgress`. -/
def matchSequence (currentTokenId : Int) (item : BatchItem)
    (sequenceAndProgress : List Int × Nat) : BatchItem :=
  let stopSequence := sequenceAndProgress.1
  let matchLength := advance stopSequence sequenceAndProgress.2 currentTokenId
  { matchProgress := item.matchProgress ++ [matchLength]
    maxMatchProgress := max item.maxMatchProgress matchLength
    stopTokenFound :=
      if Completed stopSequence matchLength then true else item.stopTokenFound
    matchedStopSequenceLength :=
      if Completed stopSequence matchLength then stopSequence.length
      else item.matchedStopSequenceLength }

/-- The body of the loop over the batch items. -/
def processToken (stopSequences : List (List Int)) (item : BatchItem)
    (latestToken : Int) : BatchItem :=
  if item.stopTokenFound then
    { item with matchedStopSequenceLength := item.matchedStopSequenceLength + 1 }
  else
    (stopSequences.zip item.matchProgress).foldl (matchSequence latestToken)
      { item with matchProgress := [], maxMatchProgress := 0 }

/-! ### One token -/

theorem foldl_matchSequence_matchProgress (token : Int) (pairs : List (List Int × Nat))
    (item : BatchItem) :
    (pairs.foldl (matchSequence token) item).matchProgress =
      item.matchProgress ++ pairs.map fun pair => advance pair.1 pair.2 token := by
  induction pairs generalizing item with
  | nil => simp
  | cons pair rest hypothesis =>
      rw [List.foldl_cons, hypothesis]
      simp [matchSequence]

theorem foldl_matchSequence_maxMatchProgress (token : Int) (pairs : List (List Int × Nat))
    (item : BatchItem) :
    (pairs.foldl (matchSequence token) item).maxMatchProgress =
      max item.maxMatchProgress
        ((pairs.map fun pair => advance pair.1 pair.2 token).foldr max 0) := by
  induction pairs generalizing item with
  | nil => simp
  | cons pair rest hypothesis =>
      rw [List.foldl_cons, hypothesis]
      simp [matchSequence, max_assoc]

/-- The item stops at this token exactly when some sequence is completed. -/
theorem foldl_matchSequence_stopTokenFound (token : Int) (pairs : List (List Int × Nat))
    (item : BatchItem) :
    (pairs.foldl (matchSequence token) item).stopTokenFound = true ↔
      item.stopTokenFound = true ∨
        ∃ pair ∈ pairs, Completed pair.1 (advance pair.1 pair.2 token) := by
  induction pairs generalizing item with
  | nil => simp
  | cons pair rest hypothesis =>
      have stops : (matchSequence token item pair).stopTokenFound = true ↔
          item.stopTokenFound = true ∨ Completed pair.1 (advance pair.1 pair.2 token) := by
        by_cases completed : Completed pair.1 (advance pair.1 pair.2 token) <;>
          simp [matchSequence, completed]
      rw [List.foldl_cons, hypothesis, stops, or_assoc]
      simp only [List.mem_cons, exists_eq_or_imp]

/-- The matched length is the length of a sequence completed at this token, if
there is one. -/
theorem foldl_matchSequence_matchedLength (token : Int) (pairs : List (List Int × Nat))
    (item : BatchItem) :
    (pairs.foldl (matchSequence token) item).matchedStopSequenceLength =
        item.matchedStopSequenceLength ∧
      (∀ pair ∈ pairs, ¬Completed pair.1 (advance pair.1 pair.2 token)) ∨
    ∃ pair ∈ pairs, Completed pair.1 (advance pair.1 pair.2 token) ∧
      (pairs.foldl (matchSequence token) item).matchedStopSequenceLength = pair.1.length := by
  induction pairs generalizing item with
  | nil => simp
  | cons pair rest hypothesis =>
      rw [List.foldl_cons]
      rcases hypothesis (matchSequence token item pair) with ⟨untouched, noneCompleted⟩ | matched
      · by_cases completed : Completed pair.1 (advance pair.1 pair.2 token)
        · right
          refine ⟨pair, List.mem_cons_self, completed, ?_⟩
          rw [untouched]
          exact if_pos completed
        · left
          refine ⟨?_, ?_⟩
          · rw [untouched]
            exact if_neg completed
          · intro other member
            rcases List.mem_cons.mp member with rfl | inRest
            · exact completed
            · exact noneCompleted other inRest
      · obtain ⟨other, inRest, completed, length⟩ := matched
        exact .inr ⟨other, List.mem_cons_of_mem _ inRest, completed, length⟩

theorem processToken_matchProgress_length (stopSequences : List (List Int)) (item : BatchItem)
    (token : Int) (tracked : item.matchProgress.length = stopSequences.length) :
    (processToken stopSequences item token).matchProgress.length = stopSequences.length := by
  unfold processToken
  split
  · exact tracked
  · simp [foldl_matchSequence_matchProgress, tracked]

end BatchItem

structure StopTokenDetector where
  stopSequencesStorage : List (List Int)
  batchItems : List BatchItem
  nonempty : ∀ stopSequence ∈ stopSequencesStorage, stopSequence ≠ []
  tracked : ∀ item ∈ batchItems, item.matchProgress.length = stopSequencesStorage.length

namespace StopTokenDetector

/-! ## Operations -/

def batchSize (detector : StopTokenDetector) : Nat :=
  detector.batchItems.length

/-- `ResetBatch`; zero keeps the batch size. -/
def resetBatch (detector : StopTokenDetector) (batchSize : Nat) : StopTokenDetector where
  stopSequencesStorage := detector.stopSequencesStorage
  batchItems :=
    let newBatchSize := if batchSize = 0 then detector.batchSize else batchSize
    List.replicate newBatchSize (BatchItem.initial detector.stopSequencesStorage.length)
  nonempty := detector.nonempty
  tracked := by
    intro item member
    rw [List.eq_of_mem_replicate member]
    simp [BatchItem.initial]

/-- The constructor. A batch size of zero fails its check, so it is excluded. -/
def create (batchSize : Nat) (_positive : 0 < batchSize) : StopTokenDetector :=
  resetBatch ⟨[], [], nofun, nofun⟩ batchSize

/-- A detector of one stop token, before its first batch. -/
def ofStopToken (token : Int) : StopTokenDetector :=
  ⟨[[token]], [], by simp, by simp⟩

/-- `AddStopTokenSequence`. A sequence added before is skipped. -/
def addStopTokenSequence (detector : StopTokenDetector) (stopSequence : List Int) :
    StatusOr StopTokenDetector :=
  if empty : stopSequence = [] then
    .error (.invalidArgumentError "Cannot add an empty stop token sequence.")
  else if stopSequence ∈ detector.stopSequencesStorage then
    .ok detector
  else
    .ok {
      stopSequencesStorage := detector.stopSequencesStorage ++ [stopSequence]
      batchItems := detector.batchItems.map fun item =>
        { item with matchProgress := item.matchProgress ++ [0] }
      nonempty := by
        intro other member
        rcases List.mem_append.mp member with old | new
        · exact detector.nonempty other old
        · rw [List.mem_singleton.mp new]
          exact empty
      tracked := by
        intro item member
        obtain ⟨old, oldMember, rfl⟩ := List.mem_map.mp member
        simp [detector.tracked old oldMember] }

/-- `ProcessTokens` past its argument checks. -/
def processItems (detector : StopTokenDetector) (latestTokens : List Int) :
    StopTokenDetector where
  stopSequencesStorage := detector.stopSequencesStorage
  batchItems := List.zipWith (BatchItem.processToken detector.stopSequencesStorage)
    detector.batchItems latestTokens
  nonempty := detector.nonempty
  tracked := by
    intro item member
    obtain ⟨index, inBounds, rfl⟩ := List.getElem_of_mem member
    rw [List.getElem_zipWith]
    exact BatchItem.processToken_matchProgress_length _ _ _
      (detector.tracked _ (List.getElem_mem _))

def processTokens (detector : StopTokenDetector) (latestTokens : List Int) :
    StatusOr StopTokenDetector :=
  if latestTokens.length ≠ detector.batchSize then
    .error (.invalidArgumentError
      s!"Size of latest_tokens ({latestTokens.length}) does not match configured batch size ({detector.batchSize}).")
  else if detector.stopSequencesStorage.isEmpty then
    .error (.invalidArgumentError
      ("No stop sequences to check against. Did you forget to call " ++
        "AddStopTokenSequence()?"))
  else
    .ok (detector.processItems latestTokens)

def getStepsBeforeStopTokens (detector : StopTokenDetector) : List Nat :=
  detector.batchItems.map BatchItem.matchedStopSequenceLength

def getStopTokensFound (detector : StopTokenDetector) : List Bool :=
  detector.batchItems.map BatchItem.stopTokenFound

/-- `MaxPartialStopTokenLength`; no value outside the batch. -/
def maxPartialStopTokenLength (detector : StopTokenDetector) (index : Nat) : Option Nat :=
  detector.batchItems[index]?.map BatchItem.maxMatchProgress

def allDone (detector : StopTokenDetector) : StatusOr Bool :=
  if detector.batchItems.isEmpty then
    .error (.failedPreconditionError
      ("The Detector is not initialized with non-zero batch size. Did you " ++
        "forget to call ResetBatch() or AddStopTokenSequence() ??"))
  else
    .ok (detector.batchItems.all BatchItem.stopTokenFound)

end StopTokenDetector

end LiteRTLM.Components
