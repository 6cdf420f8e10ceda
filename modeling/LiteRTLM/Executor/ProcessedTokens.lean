import LiteRTLM.Engine.Status

/-!
Contract: `ProcessedTokens`, the token history of an executor.

Owns: the processed ids of each candidate, the optional pending column, the
operations on both, and what each operation does to the number of processed ids,
to the pending tokens and to the copied history.

Does not own: when an executor appends, consumes or rolls back.

That there is at least one candidate, and that all candidates have equally many
processed ids and agree on having a pending token, are fields of the history.
The numeric type of embeddings is a parameter.
-/

namespace LiteRTLM.Executor

open LiteRTLM.Engine

variable {Scalar : Type}

structure TokenData (Scalar : Type) where
  id : Int
  embedding : List Scalar
  perLayerEmbedding : List Scalar

/-- `TokenData(token_id)`: a token without embeddings. -/
def TokenData.ofId (tokenId : Int) : TokenData Scalar :=
  ⟨tokenId, [], []⟩

/-- `ProcessedTokens::Tokens`, one candidate. -/
structure Tokens (Scalar : Type) where
  tokenIds : List Int
  pendingInputToken : Option (TokenData Scalar)

/-- One candidate's ids, inclusive of its pending token. -/
def Tokens.allIds (candidate : Tokens Scalar) : List Int :=
  candidate.tokenIds ++ (candidate.pendingInputToken.map TokenData.id).toList

/-- All candidates have equally many ids, and all or none have a pending token. -/
structure Tokens.Uniform (tokens : List (Tokens Scalar)) : Prop where
  sameStep : ∀ first ∈ tokens, ∀ second ∈ tokens,
    first.tokenIds.length = second.tokenIds.length
  samePending : ∀ first ∈ tokens, ∀ second ∈ tokens,
    first.pendingInputToken.isSome = second.pendingInputToken.isSome

namespace Tokens.Uniform

variable {tokens : List (Tokens Scalar)}

/-- A change that treats every candidate alike keeps the candidates alike. -/
theorem map (uniform : Uniform tokens) (change : Tokens Scalar → Tokens Scalar)
    (step : ∀ first second : Tokens Scalar,
      first.tokenIds.length = second.tokenIds.length →
      first.pendingInputToken.isSome = second.pendingInputToken.isSome →
      (change first).tokenIds.length = (change second).tokenIds.length ∧
        (change first).pendingInputToken.isSome = (change second).pendingInputToken.isSome) :
    Uniform (tokens.map change) := by
  have alike : ∀ first ∈ tokens.map change, ∀ second ∈ tokens.map change,
      first.tokenIds.length = second.tokenIds.length ∧
        first.pendingInputToken.isSome = second.pendingInputToken.isSome := by
    intro first firstMember second secondMember
    obtain ⟨oldFirst, oldFirstMember, rfl⟩ := List.mem_map.mp firstMember
    obtain ⟨oldSecond, oldSecondMember, rfl⟩ := List.mem_map.mp secondMember
    exact step oldFirst oldSecond (uniform.sameStep _ oldFirstMember _ oldSecondMember)
      (uniform.samePending _ oldFirstMember _ oldSecondMember)
  exact ⟨fun first firstMember second secondMember =>
      (alike first firstMember second secondMember).1,
    fun first firstMember second secondMember =>
      (alike first firstMember second secondMember).2⟩

theorem subset (uniform : Uniform tokens) {fewer : List (Tokens Scalar)}
    (included : ∀ candidate ∈ fewer, candidate ∈ tokens) : Uniform fewer :=
  ⟨fun first firstMember second secondMember =>
      uniform.sameStep first (included first firstMember) second (included second secondMember),
    fun first firstMember second secondMember =>
      uniform.samePending first (included first firstMember) second
        (included second secondMember)⟩

end Tokens.Uniform

structure ProcessedTokens (Scalar : Type) where
  tokens : List (Tokens Scalar)
  nonempty : tokens ≠ []
  uniform : Tokens.Uniform tokens

namespace ProcessedTokens

/-! ## Queries -/

/-- `tokens_[0]`. -/
def first (processed : ProcessedTokens Scalar) : Tokens Scalar :=
  processed.tokens.head processed.nonempty

def getStep (processed : ProcessedTokens Scalar) : Nat :=
  processed.first.tokenIds.length

def hasPendingInputToken (processed : ProcessedTokens Scalar) : Bool :=
  processed.first.pendingInputToken.isSome

def tokenCount (processed : ProcessedTokens Scalar) : Nat :=
  processed.getStep + if processed.hasPendingInputToken then 1 else 0

/-- `GetPendingInputToken`: one token per candidate, or none. -/
def getPendingInputToken (processed : ProcessedTokens Scalar) : List (TokenData Scalar) :=
  processed.tokens.filterMap Tokens.pendingInputToken

structure StepAndToken (Scalar : Type) where
  step : Nat
  token : List (TokenData Scalar)

def getNextUnprocessedToken (processed : ProcessedTokens Scalar) : StepAndToken Scalar :=
  ⟨processed.getStep, processed.getPendingInputToken⟩

def getCopyOfTokens (processed : ProcessedTokens Scalar) : List (List Int) :=
  processed.tokens.map Tokens.allIds

def getTokenAtStep (processed : ProcessedTokens Scalar) (step : Int) : List Int :=
  if step < 0 ∨ step ≥ processed.tokenCount then
    []
  else if step = processed.getStep ∧ processed.hasPendingInputToken then
    processed.getPendingInputToken.map TokenData.id
  else
    processed.tokens.filterMap fun candidate => candidate.tokenIds[step.toNat]?

/-- `GetTokensUnsafe`; its check fails when a token is pending. -/
def getTokensUnsafe (processed : ProcessedTokens Scalar) : Option (List Int) :=
  if processed.hasPendingInputToken then none else some processed.first.tokenIds

/-! ## Operations -/

/-- The constructor: one candidate without tokens. -/
def initial : ProcessedTokens Scalar where
  tokens := [⟨[], none⟩]
  nonempty := by simp
  uniform := ⟨by simp, by simp⟩

def reduceTokenCandidates (processed : ProcessedTokens Scalar) (index : Nat) :
    StatusOr (ProcessedTokens Scalar) :=
  if inBounds : index < processed.tokens.length then
    .ok {
      tokens := [processed.tokens[index]]
      nonempty := by simp
      uniform := processed.uniform.subset (by simp) }
  else
    .error (.outOfRangeError
      s!"index must be less than tokens_.size(), got {index} vs {processed.tokens.length}")

def broadcastTokenCandidates (processed : ProcessedTokens Scalar) (size : Nat) :
    StatusOr (ProcessedTokens Scalar) :=
  if processed.tokens.length ≠ 1 then
    .error (.failedPreconditionError
      "ExpandTokenCandidates called with tokens_.size() != 1.")
  else if tooSmall : size < processed.tokens.length then
    .error (.invalidArgumentError
      s!"size must be greater than or equal to 1, got {size}")
  else
    .ok {
      tokens := List.replicate size processed.first
      nonempty := by
        have positive := List.length_pos_iff.mpr processed.nonempty
        simp only [ne_eq, List.replicate_eq_nil_iff]
        omega
      uniform := processed.uniform.subset (by
        intro candidate member
        rw [List.eq_of_mem_replicate member]
        exact List.head_mem processed.nonempty) }

/-- A change that treats every candidate alike. -/
def mapTokens (processed : ProcessedTokens Scalar) (change : Tokens Scalar → Tokens Scalar)
    (alike : ∀ first second : Tokens Scalar,
      first.tokenIds.length = second.tokenIds.length →
      first.pendingInputToken.isSome = second.pendingInputToken.isSome →
      (change first).tokenIds.length = (change second).tokenIds.length ∧
        (change first).pendingInputToken.isSome = (change second).pendingInputToken.isSome) :
    ProcessedTokens Scalar where
  tokens := processed.tokens.map change
  nonempty := by simpa using processed.nonempty
  uniform := processed.uniform.map change alike

def addProcessedTokens (processed : ProcessedTokens Scalar) (tokenIds : List Int) :
    ProcessedTokens Scalar :=
  processed.mapTokens
    (fun candidate => { candidate with tokenIds := candidate.tokenIds ++ tokenIds })
    (by simp +contextual)

def addPendingInputToken (processed : ProcessedTokens Scalar) (token : List (TokenData Scalar)) :
    StatusOr (ProcessedTokens Scalar) :=
  if sized : token.length ≠ processed.tokens.length then
    .error (.invalidArgumentError
      s!"Token size must be equal to tokens_.size(), got {token.length} vs {processed.tokens.length}")
  else if processed.hasPendingInputToken then
    .error ⟨.alreadyExists, "AddPendingInputToken called with an existing pending token."⟩
  else
    .ok {
      tokens := List.zipWith
        (fun candidate pending => { candidate with pendingInputToken := some pending })
        processed.tokens token
      nonempty := by
        have positive := List.length_pos_iff.mpr processed.nonempty
        rw [← List.length_pos_iff, List.length_zipWith]
        omega
      uniform := by
        have same := processed.uniform.sameStep
        constructor
        · intro first firstMember second secondMember
          obtain ⟨i, _, rfl⟩ := List.getElem_of_mem firstMember
          obtain ⟨j, _, rfl⟩ := List.getElem_of_mem secondMember
          simp only [List.getElem_zipWith]
          exact same _ (List.getElem_mem _) _ (List.getElem_mem _)
        · intro first firstMember second secondMember
          obtain ⟨i, _, rfl⟩ := List.getElem_of_mem firstMember
          obtain ⟨j, _, rfl⟩ := List.getElem_of_mem secondMember
          simp only [List.getElem_zipWith, Option.isSome_some] }

def invalidatePendingInputToken (processed : ProcessedTokens Scalar) : ProcessedTokens Scalar :=
  processed.mapTokens (fun candidate => { candidate with pendingInputToken := none })
    (by simp +contextual)

def markPendingInputTokenAsProcessed (processed : ProcessedTokens Scalar) :
    StatusOr (ProcessedTokens Scalar) :=
  if processed.hasPendingInputToken then
    .ok (processed.mapTokens
      (fun candidate => { tokenIds := candidate.allIds, pendingInputToken := none })
      (by
        intro first second sameStep samePending
        cases firstPending : first.pendingInputToken <;>
          cases secondPending : second.pendingInputToken <;>
          simp_all [Tokens.allIds]))
  else
    .error (.notFoundError
      "MarkPendingInputTokenAsProcessed called with no pending token.")

def rollBackToStep (processed : ProcessedTokens Scalar) (newStep : Int) :
    StatusOr (ProcessedTokens Scalar) :=
  if newStep < 0 then
    .error (.internalError s!"new_step must be non-negative, got {newStep}")
  else if newStep > processed.tokenCount then
    .error (.internalError
      s!"new_step must be less than or equal to TokenCount(), got {newStep} vs {processed.tokenCount}")
  else if newStep = processed.tokenCount then
    .ok processed
  else
    .ok (processed.mapTokens
      (fun candidate =>
        { tokenIds := candidate.tokenIds.take newStep.toNat, pendingInputToken := none })
      (by simp +contextual))

/-- A change of the pending tokens in place, through the pointers all copies of
a pending token share. -/
def mapPendingInputToken (processed : ProcessedTokens Scalar)
    (change : TokenData Scalar → TokenData Scalar) : ProcessedTokens Scalar :=
  processed.mapTokens
    (fun candidate =>
      { candidate with pendingInputToken := candidate.pendingInputToken.map change })
    (by simp +contextual)

/-! ## What the operations keep -/

section Facts

variable {processed after : ProcessedTokens Scalar}

theorem first_mem (processed : ProcessedTokens Scalar) : processed.first ∈ processed.tokens :=
  List.head_mem processed.nonempty

theorem tokenIds_length {candidate : Tokens Scalar} (member : candidate ∈ processed.tokens) :
    candidate.tokenIds.length = processed.getStep :=
  processed.uniform.sameStep candidate member _ processed.first_mem

theorem pendingInputToken_isSome {candidate : Tokens Scalar}
    (member : candidate ∈ processed.tokens) :
    candidate.pendingInputToken.isSome = processed.hasPendingInputToken :=
  processed.uniform.samePending candidate member _ processed.first_mem

/-- A history of one candidate is its first. -/
theorem tokens_eq_singleton (single : processed.tokens.length = 1) :
    processed.tokens = [processed.first] := by
  obtain ⟨candidate, tokens⟩ := List.length_eq_one_iff.mp single
  have isFirst : processed.first = candidate := by simp [first, tokens]
  rw [isFirst, tokens]

/-- The pending token of a history of one candidate. -/
theorem getPendingInputToken_of_single (single : processed.tokens.length = 1) :
    processed.getPendingInputToken = processed.first.pendingInputToken.toList := by
  rw [getPendingInputToken, tokens_eq_singleton single]
  cases pending : processed.first.pendingInputToken <;> simp [pending]

theorem getCopyOfTokens_of_single (single : processed.tokens.length = 1) :
    processed.getCopyOfTokens = [processed.first.allIds] := by
  rw [getCopyOfTokens, tokens_eq_singleton single, List.map_singleton]

/-- The token count is the length of a copied history. -/
theorem tokenCount_eq (processed : ProcessedTokens Scalar) :
    processed.tokenCount = processed.first.allIds.length := by
  unfold tokenCount getStep hasPendingInputToken Tokens.allIds
  cases processed.first.pendingInputToken <;> simp

@[simp]
theorem getPendingInputToken_eq_nil :
    processed.getPendingInputToken = [] ↔ processed.hasPendingInputToken = false := by
  rw [getPendingInputToken, List.filterMap_eq_nil_iff]
  constructor
  · intro none
    simp [hasPendingInputToken, none _ processed.first_mem]
  · intro none candidate member
    rw [← Option.not_isSome_iff_eq_none, pendingInputToken_isSome member, none]
    exact Bool.false_ne_true

/-- Without a pending token the first candidate is its processed ids. -/
theorem first_of_not_pending (none : processed.hasPendingInputToken = false) :
    processed.first = { tokenIds := processed.first.allIds, pendingInputToken := .none } := by
  unfold hasPendingInputToken at none
  generalize processed.first = candidate at none ⊢
  obtain ⟨tokenIds, pending⟩ := candidate
  cases pending with
  | none => simp [Tokens.allIds]
  | some token => simp at none

@[simp]
theorem first_mapTokens (change : Tokens Scalar → Tokens Scalar)
    (alike : ∀ first second : Tokens Scalar,
      first.tokenIds.length = second.tokenIds.length →
      first.pendingInputToken.isSome = second.pendingInputToken.isSome →
      (change first).tokenIds.length = (change second).tokenIds.length ∧
        (change first).pendingInputToken.isSome = (change second).pendingInputToken.isSome) :
    (processed.mapTokens change alike).first = change processed.first :=
  List.head_map ..

/-- The pending tokens are the column of the copied history at the current step. -/
theorem pending_column (pending : processed.hasPendingInputToken) :
    processed.getPendingInputToken.map (fun token => some token.id) =
      processed.getCopyOfTokens.map fun ids => ids[processed.getStep]? := by
  have everyPending : ∀ candidate ∈ processed.tokens,
      candidate.pendingInputToken.isSome = true ∧
        candidate.tokenIds.length = processed.getStep := fun candidate member =>
    ⟨(pendingInputToken_isSome member).trans pending, tokenIds_length member⟩
  unfold getPendingInputToken getCopyOfTokens
  generalize processed.tokens = tokens at everyPending
  generalize processed.getStep = step at everyPending
  induction tokens with
  | nil => rfl
  | cons candidate rest hypothesis =>
      obtain ⟨isPending, length⟩ := everyPending candidate List.mem_cons_self
      obtain ⟨token, held⟩ := Option.isSome_iff_exists.mp isPending
      have tail := hypothesis fun other member =>
        everyPending other (List.mem_cons_of_mem _ member)
      simp [held, Tokens.allIds, ← length, tail]

theorem reduceTokenCandidates_zero_ok
    (ok : processed.reduceTokenCandidates 0 = .ok after) :
    after.tokens.length = 1 ∧ after.first = processed.first := by
  have positive := List.length_pos_iff.mpr processed.nonempty
  rw [reduceTokenCandidates, dif_pos positive] at ok
  cases ok
  refine ⟨rfl, ?_⟩
  exact (List.head_eq_getElem processed.nonempty).symm

theorem broadcastTokenCandidates_ok {size : Nat}
    (ok : processed.broadcastTokenCandidates size = .ok after) :
    after.tokens.length = size ∧ after.first = processed.first := by
  unfold broadcastTokenCandidates at ok
  split at ok
  · cases ok
  · split at ok
    · cases ok
    · cases ok
      refine ⟨List.length_replicate, ?_⟩
      exact List.head_replicate _

theorem addPendingInputToken_ok {token : List (TokenData Scalar)}
    (ok : processed.addPendingInputToken token = .ok after) :
    processed.hasPendingInputToken = false ∧
      after.tokens.length = processed.tokens.length ∧
      after.first = { processed.first with pendingInputToken := token.head? } := by
  unfold addPendingInputToken at ok
  split at ok
  · cases ok
  · rename_i sized
    split at ok
    · cases ok
    · rename_i noPending
      cases ok
      refine ⟨by simpa using noPending, by simp; omega, ?_⟩
      obtain ⟨tokens, nonempty, uniform⟩ := processed
      cases tokens with
      | nil => exact absurd rfl nonempty
      | cons candidate candidates =>
          cases token with
          | nil => simp at sized
          | cons pending pendings => rfl

theorem markPendingInputTokenAsProcessed_ok
    (ok : processed.markPendingInputTokenAsProcessed = .ok after) :
    processed.hasPendingInputToken = true ∧
      after.tokens.length = processed.tokens.length ∧
      after.first = { tokenIds := processed.first.allIds, pendingInputToken := none } := by
  unfold markPendingInputTokenAsProcessed at ok
  split at ok
  · rename_i pending
    cases ok
    exact ⟨pending, by simp [mapTokens], by simp⟩
  · cases ok

theorem rollBackToStep_zero_ok (ok : processed.rollBackToStep 0 = .ok after) :
    after.tokens.length = processed.tokens.length ∧ after.getStep = 0 := by
  unfold rollBackToStep at ok
  simp only [lt_irrefl, if_false, gt_iff_lt] at ok
  split at ok
  · omega
  · split at ok
    · rename_i atStep
      cases ok
      refine ⟨rfl, ?_⟩
      unfold tokenCount at atStep
      omega
    · cases ok
      exact ⟨by simp [mapTokens], by simp [getStep]⟩

/-- Rolling back to the start leaves no token, processed or pending. -/
theorem rollBackToStep_zero_tokenCount (ok : processed.rollBackToStep 0 = .ok after) :
    after.tokenCount = 0 := by
  unfold rollBackToStep at ok
  simp only [lt_irrefl, if_false, gt_iff_lt] at ok
  split at ok
  · omega
  · split at ok
    · rename_i atStep
      cases ok
      omega
    · cases ok
      simp [tokenCount, getStep, hasPendingInputToken]

end Facts

end ProcessedTokens

end LiteRTLM.Executor
