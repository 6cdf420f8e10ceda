import LiteRTLM.Framework.ResourceManager.Isolation

/-!
Contract: prefill through the locked executor against prefill of the full inputs.

Owns: what the removal of matching tokens returns, the entries a prefill leaves in
front of the executor's step, and when they are those of the plain prefill.

Does not own: the other handlers.
-/

namespace LiteRTLM.Framework

open LiteRTLM.Engine
open LiteRTLM.Executor
open LiteRTLM.Library
open LiteRTLM.Library.PrefixMatching

variable {State Row Config : Type}

/-! ## Matching tokens -/

/-- How many input ids repeat the processed tokens from `step` on. -/
def matchingTokens (processedTokens inputIds : List Int) (step : Nat) : Nat :=
  commonPrefixLength inputIds (processedTokens.drop step)

theorem matchingTokens_le_inputs (processedTokens inputIds : List Int) (step : Nat) :
    matchingTokens processedTokens inputIds step ≤ inputIds.length :=
  ((le_commonPrefixLength_iff _ _ _).mp le_rfl).1

theorem matchingTokens_le_processed (processedTokens inputIds : List Int) (step : Nat) :
    matchingTokens processedTokens inputIds step ≤ processedTokens.length - step := by
  have isPrefix := ((le_commonPrefixLength_iff inputIds (processedTokens.drop step) _).mp le_rfl).2
  have length := isPrefix.length_le
  rw [List.length_take, List.length_drop] at length
  have inInputs := matchingTokens_le_inputs processedTokens inputIds step
  unfold matchingTokens at *
  omega

/-- Comparing only as far as both lists reach finds the same common prefix. -/
theorem commonPrefixLength_take_min (word stream : List Int) :
    commonPrefixLength (word.take (min word.length stream.length)) stream =
      commonPrefixLength word stream := by
  apply eq_of_forall_le_iff
  intro length
  rw [le_commonPrefixLength_iff, le_commonPrefixLength_iff, List.length_take, List.take_take]
  constructor
  · rintro ⟨inBoth, isPrefix⟩
    have shorter : min length (min word.length stream.length) = length := by omega
    rw [shorter] at isPrefix
    exact ⟨by omega, isPrefix⟩
  · rintro ⟨inWord, isPrefix⟩
    have inStream := isPrefix.length_le
    rw [List.length_take_of_le inWord] at inStream
    have shorter : min length (min word.length stream.length) = length := by omega
    rw [shorter]
    exact ⟨by omega, isPrefix⟩

/-- Inside the processed tokens `RemoveMatchingTokens` succeeds and drops exactly the
matching tokens. -/
theorem removeMatchingTokens_eq {processedTokens : List Int} (inputIds : List Int) {step : Nat}
    (inside : step ≤ processedTokens.length) :
    removeMatchingTokens processedTokens inputIds step =
      .ok (inputIds.drop (matchingTokens processedTokens inputIds step),
        (step + matchingTokens processedTokens inputIds step : Nat)) := by
  have nonnegative : ¬(step : Int) < 0 := by omega
  have notBeyond : ¬(processedTokens.length : Int) < step := by omega
  have compared : processedTokens.length - step = (processedTokens.drop step).length := by
    rw [List.length_drop]
  simp only [removeMatchingTokens, nonnegative, notBeyond, if_false, Int.toNat_natCast, compared,
    commonPrefixLength_take_min, Int.natCast_add, matchingTokens]

namespace ResourceManager

variable {executor : LlmExecutor State Row Config} {manager : ResourceManager State Row Config}

/-! ## The entries in front of the step -/

/-- The first `current_step` entries of the executor. -/
def currentEntries (executor : LlmExecutor State Row Config) (executorState : State) :
    List (Entry Row) :=
  (executor.getProcessedTokens executorState).take (executor.getCurrentStep executorState)

theorem currentEntries_appends {step : Nat} {appended : List (Entry Row)} {before after : State}
    (appends : executor.AppendsAt step appended before after)
    (inside : step ≤ (executor.getProcessedTokens before).length) :
    currentEntries executor after =
      (executor.getProcessedTokens before).take step ++ appended := by
  rw [currentEntries, appends.tokens, appends.step, Int.toNat_natCast]
  apply List.take_of_length_le
  rw [List.length_append, List.length_take_of_le inside]

/-- Setting the step and prefilling the full inputs puts their entries after the step. -/
theorem currentEntries_plainPrefill (assumed : executor.Assumed) (state : State)
    (inputs : ExecutorInputs Row) (prefillParams : ExecutorPrefillParams) {step : Nat}
    (atStep : prefillParams.stepFrom (executor.getCurrentStep state) = step)
    (inside : step ≤ (executor.getProcessedTokens state).length) :
    currentEntries executor
        (executor.prefill inputs prefillParams (executor.setCurrentStep step state)) =
      (executor.getProcessedTokens state).take step ++ inputs.entries := by
  have appends := assumed.prefill_appends inputs prefillParams (executor.setCurrentStep step state)
  have sameStep : prefillParams.stepFrom step = step := by
    unfold ExecutorPrefillParams.stepFrom at atStep ⊢
    split at atStep
    · next given => rw [if_pos given, atStep]
    · next default => rw [if_neg default]
  rw [assumed.setCurrentStep_step, Int.toNat_natCast, sameStep] at appends
  rw [currentEntries_appends (appendsAt_after_setCurrentStep assumed rfl appends) inside]

/-- Text without vision or audio data. -/
theorem entries_ofTokenIds (ids : List Int) :
    (ExecutorInputs.ofTokenIds ids : ExecutorInputs Row).entries = ids.map fun id => ⟨id, none⟩ := by
  have textOnly : ∀ ids : List Int,
      entriesOf ids ([] : List Row) [] = ids.map fun id => ⟨id, none⟩ := by
    intro ids
    induction ids with
    | nil => rfl
    | cons id rest hypothesis => simp [entriesOf, hypothesis]
  exact textOnly ids

theorem entriesOf_map_id (ids : List Int) (visionRows audioRows : List Row) :
    (entriesOf ids visionRows audioRows).map Entry.id = ids := by
  induction ids generalizing visionRows audioRows with
  | nil => rfl
  | cons id rest hypothesis =>
      unfold entriesOf
      split
      · simp [hypothesis]
      · split <;> simp [hypothesis]

/-- What a prefill through the locked executor leaves in front of the step. -/
theorem currentEntries_prefillRemaining (assumed : executor.Assumed)
    (consistent : manager.Consistent) {handler : Nat}
    (current : manager.currentHandler = some handler) (remainingIds : List Int) {step : Nat}
    (inside : step ≤ (executor.getProcessedTokens manager.executorState).length) :
    Ends (prefillRemaining executor {} handler remainingIds step) manager
      (fun _ after => currentEntries executor after.executorState =
        (executor.getProcessedTokens manager.executorState).take step ++
          (ExecutorInputs.ofTokenIds remainingIds).entries)
      (fun _ _ => False) := by
  have appends : ∀ state, executor.AppendsAt step
      (ExecutorInputs.ofTokenIds remainingIds : ExecutorInputs Row).entries state
        (executor.prefill (.ofTokenIds remainingIds) ⟨step⟩ state) := by
    intro state
    have notDefault : (step : Int) ≠ -1 := by omega
    have appends := assumed.prefill_appends (.ofTokenIds remainingIds) ⟨step⟩ state
    rwa [ExecutorPrefillParams.stepFrom, if_pos notDefault] at appends
  unfold prefillRemaining
  split
  · next empty =>
      rw [ends_runExecutor, empty, entries_ofTokenIds]
      simp [operate, currentEntries, assumed.setCurrentStep_tokens, assumed.setCurrentStep_step]
  · simp only [ends_bind, ends_askExecutor]
    split
    · rw [ends_runExecutor]
      exact currentEntries_appends (appends manager.executorState) inside
    · simp only [ends_bind, ends_runExecutor]
      apply (separated_separateUnlessLongest assumed consistent current step).mono
      · intro _ between separated
        have appends' := appendsAt_after_setCurrentStep assumed rfl
          (appends (executor.setCurrentStep step between.executorState))
        rw [separated.executorState] at appends'
        simp only [operate, separated.executorState]
        exact currentEntries_appends appends' inside
      · exact fun _ _ => False.elim

/-- What a prefill through the locked executor leaves in front of the step. -/
theorem currentEntries_prefill (assumed : executor.Assumed)
    (consistent : manager.Consistent) {handler : Nat}
    (current : manager.currentHandler = some handler) {inputs : ExecutorInputs Row}
    {ids : List Int} (text : inputs.textData = some ⟨1, ids⟩)
    {prefillParams : ExecutorPrefillParams} {step : Nat}
    (atStep : prefillParams.stepFrom (executor.getCurrentStep manager.executorState) = step)
    (inside : step ≤ (executor.getProcessedTokens manager.executorState).length) :
    Ends (prefill executor {} (some handler) inputs prefillParams) manager
      (fun _ after => currentEntries executor after.executorState =
        if ids = [] then currentEntries executor manager.executorState
        else if (executor.getProcessedTokens manager.executorState).length = step then
          executor.getProcessedTokens manager.executorState ++ inputs.entries
        else
          let matched := matchingTokens
            ((executor.getProcessedTokens manager.executorState).map Entry.id) ids step
          (executor.getProcessedTokens manager.executorState).take (step + matched) ++
            (ids.drop matched).map fun id => ⟨id, none⟩)
      (fun _ _ => False) := by
  simp only [prefill, ends_bind, ExecutorInputs.getTextTokenIds, text, ends_returnIfError_ok,
    ends_retCheck, true_implies, not_true_eq_false, false_implies, and_true]
  by_cases noIds : ids = []
  · simp only [noIds, if_true, ends_pure]
  · simp only [noIds, if_false, ends_bind, ends_askExecutor, atStep, Int.natCast_inj]
    by_cases atEnd : (executor.getProcessedTokens manager.executorState).length = step
    · have appends := assumed.prefill_appends inputs prefillParams manager.executorState
      rw [atStep] at appends
      simp only [atEnd, if_true, ends_runExecutor, operate]
      rw [currentEntries_appends appends inside, List.take_of_length_le atEnd.le]
    · simp only [atEnd, if_false, ends_bind]
      rw [removeMatchingTokens_eq ids (by simpa using inside), ends_returnIfError_ok]
      have matched := matchingTokens_le_processed
        ((executor.getProcessedTokens manager.executorState).map Entry.id) ids step
      rw [List.length_map] at matched
      apply (currentEntries_prefillRemaining assumed consistent current _ (by omega)).mono
      · intro _ after entries
        rw [entries, entries_ofTokenIds]
      · exact fun _ _ => False.elim

/-! ## Agreement with the plain prefill -/

/-- The matched tokens stand for what they stand for in the inputs, and no token after
them has vision or audio data. -/
def MatchesContent (processed inputs : List (Entry Row)) (step : Nat) : Prop :=
  let matched := matchingTokens (processed.map Entry.id) (inputs.map Entry.id) step
  (processed.drop step).take matched = inputs.take matched ∧
    ∀ entry ∈ inputs.drop matched, entry.row = none

instance [DecidableEq Row] (processed inputs : List (Entry Row)) (step : Nat) :
    Decidable (MatchesContent processed inputs step) :=
  inferInstanceAs (Decidable (_ ∧ _))

/-- Skipping the matched tokens changes nothing exactly when they match in content and
the others are text. -/
theorem skipped_eq_iff (processed inputs : List (Entry Row)) (step : Nat) :
    processed.take (step + matchingTokens (processed.map Entry.id) (inputs.map Entry.id) step) ++
        ((inputs.map Entry.id).drop (matchingTokens (processed.map Entry.id)
          (inputs.map Entry.id) step)).map (fun id => (⟨id, none⟩ : Entry Row)) =
      processed.take step ++ inputs ↔ MatchesContent processed inputs step := by
  have inProcessed := matchingTokens_le_processed (processed.map Entry.id) (inputs.map Entry.id) step
  have inInputs := matchingTokens_le_inputs (processed.map Entry.id) (inputs.map Entry.id) step
  unfold MatchesContent
  generalize matchingTokens (processed.map Entry.id) (inputs.map Entry.id) step = matched at *
  rw [List.length_map] at inProcessed inInputs
  have textOnly : ∀ entries : List (Entry Row),
      (entries.map Entry.id).map (fun id => (⟨id, none⟩ : Entry Row)) = entries ↔
        ∀ entry ∈ entries, entry.row = none := by
    intro entries
    rw [List.map_map]
    conv_lhs => rhs; rw [← List.map_id entries]
    rw [List.map_inj_left]
    apply forall₂_congr
    rintro ⟨id, row⟩ -
    simp [eq_comm]
  have sameLength : ((processed.drop step).take matched).length = (inputs.take matched).length := by
    rw [List.length_take, List.length_take, List.length_drop]
    omega
  rw [List.take_add, List.append_assoc, List.append_cancel_left_eq]
  conv_lhs => rhs; rw [← List.take_append_drop matched inputs]
  rw [← List.map_drop]
  constructor
  · intro equal
    obtain ⟨sameMatched, sameRest⟩ := List.append_inj equal sameLength
    exact ⟨sameMatched, (textOnly _).mp sameRest⟩
  · rintro ⟨sameMatched, noRows⟩
    rw [sameMatched, (textOnly _).mpr noRows]

/-- The prefill through the locked executor leaves in front of the step what setting the
step and prefilling the full inputs does. -/
def PrefillEquivalent (executor : LlmExecutor State Row Config)
    (manager : ResourceManager State Row Config) (inputs : ExecutorInputs Row)
    (prefillParams : ExecutorPrefillParams) (step : Nat) : Prop :=
  currentEntries executor
      (finalState (prefill executor {} manager.currentHandler inputs prefillParams)
        manager).executorState =
    currentEntries executor
      (executor.prefill inputs prefillParams (executor.setCurrentStep step manager.executorState))

/-- When the two prefills agree: without ids the step is not moved; otherwise nothing is
skipped, or what is skipped and what is rebuilt has the content of the inputs. -/
def SkipsSameContent (executor : LlmExecutor State Row Config)
    (manager : ResourceManager State Row Config) (inputs : ExecutorInputs Row) (ids : List Int)
    (step : Nat) : Prop :=
  if ids = [] then
    executor.getCurrentStep manager.executorState = step
  else
    (executor.getProcessedTokens manager.executorState).length = step ∨
      MatchesContent (executor.getProcessedTokens manager.executorState) inputs.entries step

theorem prefill_equivalent_iff (assumed : executor.Assumed)
    (reached : (machine executor).Reachable manager) {handler : Nat}
    (current : manager.currentHandler = some handler)
    (executorInside : executor.getCurrentStep manager.executorState ≤
      (executor.getProcessedTokens manager.executorState).length)
    {inputs : ExecutorInputs Row} {ids : List Int} (text : inputs.textData = some ⟨1, ids⟩)
    {prefillParams : ExecutorPrefillParams} {step : Nat}
    (atStep : prefillParams.stepFrom (executor.getCurrentStep manager.executorState) = step)
    (inside : step ≤ (executor.getProcessedTokens manager.executorState).length) :
    PrefillEquivalent executor manager inputs prefillParams step ↔
      SkipsSameContent executor manager inputs ids step := by
  have consistent := consistent_of_reachable assumed reached
  have final := (currentEntries_prefill assumed consistent current text atStep inside).finalState
  have ids_eq : inputs.entries.map Entry.id = ids := by
    rw [ExecutorInputs.entries, text]
    exact entriesOf_map_id _ _ _
  rw [PrefillEquivalent, current, final,
    currentEntries_plainPrefill assumed manager.executorState inputs prefillParams atStep inside]
  unfold SkipsSameContent
  by_cases noIds : ids = []
  · have noEntries : inputs.entries = [] := by
      rw [noIds] at ids_eq
      exact List.map_eq_nil_iff.mp ids_eq
    rw [if_pos noIds, if_pos noIds, noEntries, List.append_nil, currentEntries]
    constructor
    · intro equal
      have lengths := congrArg List.length equal
      rwa [List.length_take_of_le executorInside, List.length_take_of_le inside] at lengths
    · intro equal
      rw [equal]
  · rw [if_neg noIds, if_neg noIds]
    by_cases atEnd : (executor.getProcessedTokens manager.executorState).length = step
    · simp only [atEnd, if_true, true_or, iff_true]
      rw [List.take_of_length_le atEnd.le]
    · simp only [atEnd, if_false, false_or]
      rw [← skipped_eq_iff, ids_eq]

/-! A handler that has processed one image, whose row is 7. -/

def imageInputs (row : Nat) : ExecutorInputs Nat :=
  ⟨some ⟨1, [visionSpecialToken]⟩, some [row], none⟩

def imageCalls : List (Call Nat Unit) :=
  [.createContextHandler (), .acquireExecutorWithContextHandler 0, .prefill (imageInputs 7) ⟨-1⟩]

def imageManager : ResourceManager (LlmExecutor.TokenState Nat) Nat Unit where
  handlers := [⟨0, none, none⟩]
  contexts := [⟨[0], none⟩]
  currentHandler := some 0
  executorState := ⟨[⟨visionSpecialToken, some 7⟩], 1⟩

theorem reachable_imageManager :
    (machine (LlmExecutor.tokenExecutor Nat)).Reachable imageManager :=
  Machine.reachable_of_execute initial_emptyManager
    (show (machine (LlmExecutor.tokenExecutor Nat)).execute emptyManager imageCalls = _ from rfl)

/-- Prefilling the same image again from step 0 skips it and keeps its content. -/
theorem prefill_equivalent_sameImage :
    PrefillEquivalent (LlmExecutor.tokenExecutor Nat) imageManager (imageInputs 7) ⟨0⟩ 0 :=
  (prefill_equivalent_iff (LlmExecutor.tokenExecutor_assumed Nat) reachable_imageManager rfl
    (by decide) rfl rfl (by decide)).mpr (by unfold SkipsSameContent; decide)

/-- Prefilling another image from step 0 keeps the row of the first. -/
theorem prefill_not_equivalent_otherImage :
    ¬∀ (State Row Config : Type) (executor : LlmExecutor State Row Config), executor.Assumed →
      ∀ (manager : ResourceManager State Row Config) (handler : Nat)
        (inputs : ExecutorInputs Row) (ids : List Int) (prefillParams : ExecutorPrefillParams)
        (step : Nat), (machine executor).Reachable manager →
      manager.currentHandler = some handler →
      executor.getCurrentStep manager.executorState ≤
        (executor.getProcessedTokens manager.executorState).length →
      inputs.textData = some ⟨1, ids⟩ →
      prefillParams.stepFrom (executor.getCurrentStep manager.executorState) = step →
      step ≤ (executor.getProcessedTokens manager.executorState).length →
        PrefillEquivalent executor manager inputs prefillParams step := by
  intro equivalent
  have same := equivalent _ _ _ _ (LlmExecutor.tokenExecutor_assumed Nat) imageManager 0
    (imageInputs 8) _ ⟨0⟩ 0 reachable_imageManager rfl (by decide) rfl rfl (by decide)
  have different : ¬PrefillEquivalent (LlmExecutor.tokenExecutor Nat) imageManager (imageInputs 8)
      ⟨0⟩ 0 := by
    unfold PrefillEquivalent
    decide
  exact different same

end ResourceManager

end LiteRTLM.Framework
