import LiteRTLM.Core.SessionUtils.PromptTemplates

/-!
Contract: what a rejected turn leaves of the session's first turn.

Owns: the turns that are rejected after the flag has been cleared, and that exactly these
lose the first turn.

Does not own: what is made of an accepted turn.
-/

namespace LiteRTLM.Core.SessionUtils

open LiteRTLM.Engine
open LiteRTLM.Util

variable {Tensor : Type} {config : SessionConfig} {tokenizer : EncodingTokenizer}
  {runtime : TensorRuntime Tensor} {bosString : Text}

/-! ## Copies of contents -/

theorem copies_isOk (runtime : TensorRuntime Tensor) (contents : List (InputData Tensor)) :
    (contents.mapM (createInputDataCopy runtime)).isOk = true ↔
      ∀ content ∈ contents, (createInputDataCopy runtime content).isOk = true := by
  induction contents with
  | nil => simp [StatusOr.isOk, pure, Except.pure]
  | cons content rest inductionHypothesis =>
      rw [List.forall_mem_cons, ← inductionHypothesis, List.mapM_cons]
      cases createInputDataCopy runtime content with
      | error status => simp [StatusOr.isOk, bind, Except.bind]
      | ok contentCopy =>
          cases rest.mapM (createInputDataCopy runtime) with
          | error status => simp [StatusOr.isOk, bind, Except.bind]
          | ok copies => simp [StatusOr.isOk, bind, Except.bind, pure, Except.pure]

theorem copies_isOk_eq_false_iff (runtime : TensorRuntime Tensor)
    (contents : List (InputData Tensor)) :
    (contents.mapM (createInputDataCopy runtime)).isOk = false ↔
      ∃ content ∈ contents, (createInputDataCopy runtime content).isOk = false := by
  rw [← Bool.not_eq_true, copies_isOk]
  simp

/-! ## Rejections -/

/-- The turn is rejected at a chunk, and with templates not because its first chunk starts
with the BOS string. -/
def RejectedLate (config : SessionConfig) (tokenizer : EncodingTokenizer)
    (runtime : TensorRuntime Tensor) (contents : List (InputData Tensor)) : Prop :=
  ∃ bosString, maybeGetBosString config tokenizer = .ok bosString ∧
    if config.applyPromptTemplateInSession then
      (∀ first ∈ contents.head?, startsWithBos bosString first.rawText = false) ∧
        ∃ content ∈ contents, Refused runtime bosString content
    else
      ∃ content ∈ contents, (createInputDataCopy runtime content).isOk = false

/-- A rejected turn leaves the flag as it is. -/
def KeepsFirstTurn (config : SessionConfig) (tokenizer : EncodingTokenizer)
    (runtime : TensorRuntime Tensor) (contents : List (InputData Tensor)) (isFirstTurn : Bool) :
    Prop :=
  ∀ status after, applyPromptTemplates config tokenizer runtime contents isFirstTurn =
    .error status after → after = isFirstTurn

/-- Where the flag goes to `state` whatever the outcome, it is kept if there is no error or
if it was the same before. -/
theorem keeping_keeps_iff {α : Type} (result : StatusOr α) (state before : Bool) :
    (∀ status after, keeping state result = .error status after → after = before) ↔
      (result.isOk = false → state = before) := by
  cases result with
  | ok value => simp [keeping, StatusOr.isOk]
  | error status =>
      constructor
      · intro keeps _
        exact keeps status state rfl
      · intro same other after isError
        cases isError
        exact same rfl

theorem templated_isOk_eq_false_iff (before behind : Text) (contents : List (InputData Tensor)) :
    (templatedChunks runtime bosString behind before contents).isOk = false ↔
      ∃ content ∈ contents, Refused runtime bosString content := by
  rw [← Bool.not_eq_true, templatedChunks_isOk]
  push Not
  rfl

/-- **Rejected turns.** A rejected turn does not count as the first turn if and only if it is
not the first turn anyway, or is not rejected late. -/
theorem rejectedTurn_keepsFirstTurn_iff (config : SessionConfig) (tokenizer : EncodingTokenizer)
    (runtime : TensorRuntime Tensor) (contents : List (InputData Tensor)) (isFirstTurn : Bool) :
    KeepsFirstTurn config tokenizer runtime contents isFirstTurn ↔
      isFirstTurn = false ∨ ¬RejectedLate config tokenizer runtime contents := by
  unfold KeepsFirstTurn RejectedLate
  cases contents with
  | nil =>
      rw [applyPromptTemplates_nil]
      simp
  | cons first rest =>
      cases foundBos : maybeGetBosString config tokenizer with
      | error status =>
          rw [applyPromptTemplates_of_noBos (List.cons_ne_nil first rest) foundBos]
          simp
      | ok bosString =>
          cases mode : config.applyPromptTemplateInSession with
          | true =>
              rw [applyPromptTemplates_of_enabled mode foundBos, keeping_keeps_iff,
                templated_isOk_eq_false_iff]
              cases startsWith : startsWithBos bosString first.rawText <;>
                cases isFirstTurn <;> simp [startsWith]
          | false =>
              rw [applyPromptTemplates_of_disabled mode foundBos (List.cons_ne_nil first rest),
                keeping_keeps_iff, isOk_map, copies_isOk_eq_false_iff]
              cases isFirstTurn <;> simp

/-! A session whose BOS string is `<s>`, and texts that are tokens as a whole. -/

def startConfig (applyPromptTemplateInSession : Bool) : SessionConfig :=
  ⟨2, "user:".toList, ";".toList, "model:".toList, applyPromptTemplateInSession⟩

/-- Token 2 is the BOS string; every character of another text is a token. -/
def letterTokenizer : EncodingTokenizer where
  tokenIdsToText ids := .ok (if ids = [2] then "<s>".toList else [])
  textToTokenIds text := .ok (text.map fun letter => 1000 + (letter.toNat : Int))

/-- Tensor buffers that are their token ids, and can be copied. -/
def idsRuntime : TensorRuntime (List Int) where
  duplicate _ := none
  copyToTensorBuffer ids := .ok ids
  tokenIds tensor := tensor
  tokenIds_copy _ _ isCopy := (Except.ok.inj isCopy).symm

/-- The second chunk starts with the BOS string, and the flag has already been cleared. -/
theorem rejectedTurn_losesFirstTurn :
    ¬∀ (Tensor : Type) (config : SessionConfig) (tokenizer : EncodingTokenizer)
      (runtime : TensorRuntime Tensor) (contents : List (InputData Tensor)) (isFirstTurn : Bool),
      KeepsFirstTurn config tokenizer runtime contents isFirstTurn := by
  intro keeps
  have same := keeps (List Int) (startConfig true) letterTokenizer idsRuntime
    [.text (.raw "a".toList), .text (.raw "<s>b".toList)] true _ false rfl
  cases same

end LiteRTLM.Core.SessionUtils
