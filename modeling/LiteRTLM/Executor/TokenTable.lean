import LiteRTLM.Executor.TokenOperations

/-!
Contract: what `ProcessedTokens` stands for, a table of histories.

Owns: tables of histories of one length with an optional column of pending tokens, the
operations on them, and that the operations on `tokens_` carry these out.

Does not own: how the vector is read and written.
-/

namespace LiteRTLM.Executor

open LiteRTLM.Engine

variable {Scalar : Type}

/-- A history of `step` ids for each candidate, and perhaps a pending token for each. -/
structure TokenTable (Scalar : Type) where
  step : Nat
  rows : List (List Int)
  pending : Option (List (TokenData Scalar))
  nonempty : rows ≠ []
  sameLength : ∀ row ∈ rows, row.length = step
  onePerRow : ∀ column, pending = some column → column.length = rows.length

namespace TokenTable

variable (table : TokenTable Scalar)

/-! ## Operations -/

def initial : TokenTable Scalar where
  step := 0
  rows := [[]]
  pending := none
  nonempty := List.cons_ne_nil _ _
  sameLength := by simp
  onePerRow := by simp

/-- The number of tokens of a candidate. -/
def columns : Nat :=
  table.step + if table.pending.isSome then 1 else 0

/-- The histories with their pending tokens. -/
def whole : List (List Int) :=
  match table.pending with
  | none => table.rows
  | some column => List.zipWith (fun row token => row ++ [token.id]) table.rows column

/-- Only the candidate with this index. -/
def keepRow (index : Nat) (inside : index < table.rows.length) : TokenTable Scalar where
  step := table.step
  rows := [table.rows[index]]
  pending := table.pending.map fun column => column[index]?.toList
  nonempty := List.cons_ne_nil _ _
  sameLength := by
    intro row member
    rw [List.mem_singleton.mp member]
    exact table.sameLength _ (List.getElem_mem inside)
  onePerRow := by
    intro column isColumn
    obtain ⟨whole, isWhole, rfl⟩ := Option.map_eq_some_iff.mp isColumn
    have inColumn : index < whole.length := by
      rw [table.onePerRow whole isWhole]
      exact inside
    simp [inColumn]

def copies (size : Nat) (single : table.rows.length = 1) (some : 1 ≤ size) :
    TokenTable Scalar where
  step := table.step
  rows := List.replicate size (table.rows.head table.nonempty)
  pending := table.pending.map fun column => (List.replicate size column).flatten
  nonempty := by
    rw [ne_eq, List.replicate_eq_nil_iff]
    omega
  sameLength := by
    intro row member
    rw [List.eq_of_mem_replicate member]
    exact table.sameLength _ (List.head_mem table.nonempty)
  onePerRow := by
    intro column isColumn
    obtain ⟨whole, isWhole, rfl⟩ := Option.map_eq_some_iff.mp isColumn
    simp [table.onePerRow whole isWhole, single]

def appendIds (tokenIds : List Int) : TokenTable Scalar where
  step := table.step + tokenIds.length
  rows := table.rows.map (· ++ tokenIds)
  pending := table.pending
  nonempty := by simpa using table.nonempty
  sameLength := by
    intro row member
    obtain ⟨earlier, isRow, rfl⟩ := List.mem_map.mp member
    rw [List.length_append, table.sameLength earlier isRow]
  onePerRow := by
    intro column isColumn
    rw [List.length_map, table.onePerRow column isColumn]

def withPending (token : List (TokenData Scalar)) (sized : token.length = table.rows.length) :
    TokenTable Scalar :=
  { table with
    pending := some token
    onePerRow := by
      intro column isColumn
      rw [← Option.some.inj isColumn, sized] }

def withoutPending : TokenTable Scalar :=
  { table with
    pending := none
    onePerRow := by
      intro column isColumn
      cases isColumn }

/-- The first ids of each candidate. -/
def truncate (size : Nat) (within : size ≤ table.step) : TokenTable Scalar where
  step := size
  rows := table.rows.map (List.take size)
  pending := none
  nonempty := by simpa using table.nonempty
  sameLength := by
    intro row member
    obtain ⟨earlier, isRow, rfl⟩ := List.mem_map.mp member
    rw [List.length_take, table.sameLength earlier isRow, Nat.min_eq_left within]
  onePerRow := by
    intro column isColumn
    cases isColumn

theorem length_whole : table.whole.length = table.rows.length := by
  rw [whole]
  cases isPending : table.pending with
  | none => rfl
  | some column => simp [table.onePerRow column isPending]

theorem length_of_mem_whole {row : List Int} (member : row ∈ table.whole) :
    row.length = table.columns := by
  rw [whole] at member
  rw [columns]
  cases isPending : table.pending with
  | none =>
    rw [isPending] at member
    exact table.sameLength row member
  | some column =>
    rw [isPending] at member
    obtain ⟨index, inside, rfl⟩ := List.getElem_of_mem member
    simp only [List.getElem_zipWith, List.length_append, List.length_singleton]
    rw [table.sameLength _ (List.getElem_mem _)]
    rfl

/-- The pending tokens become ids. -/
def settle : TokenTable Scalar where
  step := table.columns
  rows := table.whole
  pending := none
  nonempty := by
    rw [ne_eq, ← List.length_eq_zero_iff, length_whole, List.length_eq_zero_iff]
    exact table.nonempty
  sameLength := fun _ member => table.length_of_mem_whole member
  onePerRow := by
    intro column isColumn
    cases isColumn

open TokensVector in
/-- What an operation makes of a table; nothing where it is refused. -/
def operate : Operation Scalar → Option (TokenTable Scalar)
  | .reduceTokenCandidates index =>
    if inside : index < table.rows.length then some (table.keepRow index inside) else none
  | .broadcastTokenCandidates size =>
    if possible : table.rows.length = 1 ∧ 1 ≤ size then
      some (table.copies size possible.1 possible.2)
    else none
  | .addProcessedTokens tokenIds => some (table.appendIds tokenIds)
  | .addPendingInputToken token =>
    if possible : token.length = table.rows.length ∧ table.pending.isNone then
      some (table.withPending token possible.1)
    else none
  | .rollBackToStep newStep =>
    if newStep = table.columns then some table
    else if before : 0 ≤ newStep ∧ newStep.toNat ≤ table.step then
      some (table.truncate newStep.toNat before.2)
    else none
  | .markPendingInputTokenAsProcessed => if table.pending.isSome then some table.settle else none
  | .invalidatePendingInputToken => some table.withoutPending

/-- The table after a sequence of operations, where refused ones do nothing. -/
def operateAll (operations : List (TokensVector.Operation Scalar)) : TokenTable Scalar :=
  operations.foldl (fun table operation => (table.operate operation).getD table) table

/-! ## Tables as vectors -/

/-- The pending pointer of each candidate. -/
def pointers : List (Option (TokenData Scalar)) :=
  match table.pending with
  | none => List.replicate table.rows.length none
  | some column => column.map some

/-- The vector that stands for a table. -/
def candidates : TokensVector Scalar :=
  List.zipWith Tokens.mk table.rows table.pointers

theorem length_pointers : table.pointers.length = table.rows.length := by
  rw [pointers]
  cases isPending : table.pending with
  | none => exact List.length_replicate
  | some column =>
    rw [List.length_map]
    exact table.onePerRow column isPending

theorem length_candidates : table.candidates.length = table.rows.length := by
  rw [candidates, List.length_zipWith, length_pointers, Nat.min_self]

theorem map_tokenIds_candidates : table.candidates.map Tokens.tokenIds = table.rows := by
  rw [candidates, List.map_zipWith]
  apply List.ext_getElem
  · rw [List.length_zipWith, length_pointers, Nat.min_self]
  · intro index _ _
    rw [List.getElem_zipWith]

theorem map_pendingInputToken_candidates :
    table.candidates.map Tokens.pendingInputToken = table.pointers := by
  rw [candidates, List.map_zipWith]
  apply List.ext_getElem
  · rw [List.length_zipWith, length_pointers, Nat.min_self]
  · intro index _ _
    rw [List.getElem_zipWith]

/-- A vector with the rows and the pointers of a table stands for it. -/
theorem eq_candidates {tokens : TokensVector Scalar}
    (rows : tokens.map Tokens.tokenIds = table.rows)
    (pointers : tokens.map Tokens.pendingInputToken = table.pointers) :
    tokens = table.candidates := by
  rw [candidates, ← rows, ← pointers, List.zipWith_map, List.zipWith_self, List.map_id']

theorem length_tokenIds {candidate : Tokens Scalar} (member : candidate ∈ table.candidates) :
    candidate.tokenIds.length = table.step := by
  apply table.sameLength
  rw [← map_tokenIds_candidates]
  exact List.mem_map_of_mem member

theorem isSome_pendingInputToken {candidate : Tokens Scalar}
    (member : candidate ∈ table.candidates) :
    candidate.pendingInputToken.isSome = table.pending.isSome := by
  have isPointer : candidate.pendingInputToken ∈ table.pointers := by
    rw [← map_pendingInputToken_candidates]
    exact List.mem_map_of_mem member
  rw [pointers] at isPointer
  cases isPending : table.pending with
  | none =>
    rw [isPending] at isPointer
    rw [List.eq_of_mem_replicate isPointer]
    rfl
  | some column =>
    rw [isPending] at isPointer
    obtain ⟨token, -, isToken⟩ := List.mem_map.mp isPointer
    rw [← isToken]
    rfl

variable {table} in
theorem pointers_of_none (nothing : table.pending = none) :
    table.pointers = List.replicate table.rows.length none := by
  rw [pointers, nothing]

/-- A change that clears the pointers. -/
theorem map_none_candidates {change : Tokens Scalar → Tokens Scalar}
    (clears : ∀ candidate, (change candidate).pendingInputToken = none) :
    (table.candidates.map change).map Tokens.pendingInputToken =
      List.replicate table.rows.length none := by
  rw [List.map_map, ← length_candidates, ← List.map_const']
  exact List.map_congr_left fun candidate _ => clears candidate

/-- The history of the vector. -/
def processed : ProcessedTokens Scalar where
  tokens := table.candidates
  nonempty := by
    rw [ne_eq, ← List.length_eq_zero_iff, length_candidates, List.length_eq_zero_iff]
    exact table.nonempty
  uniform :=
    ⟨fun _ isFirst _ isSecond =>
        (table.length_tokenIds isFirst).trans (table.length_tokenIds isSecond).symm,
      fun _ isFirst _ isSecond => (table.isSome_pendingInputToken isFirst).trans
        (table.isSome_pendingInputToken isSecond).symm⟩

@[simp]
theorem tokens_processed : table.processed.tokens = table.candidates := rfl

@[simp]
theorem getStep_processed : table.processed.getStep = table.step :=
  table.length_tokenIds table.processed.first_mem

@[simp]
theorem hasPendingInputToken_processed :
    table.processed.hasPendingInputToken = table.pending.isSome :=
  table.isSome_pendingInputToken table.processed.first_mem

@[simp]
theorem tokenCount_processed : table.processed.tokenCount = table.columns := by
  rw [ProcessedTokens.tokenCount, getStep_processed, hasPendingInputToken_processed, columns]

/-- The ids of each candidate with its pending token are its whole history. -/
theorem map_allIds_candidates : table.candidates.map Tokens.allIds = table.whole := by
  have rows := table.map_tokenIds_candidates
  have pointers := table.map_pendingInputToken_candidates
  rw [whole]
  rw [TokenTable.pointers] at pointers
  cases isPending : table.pending with
  | none =>
    rw [isPending] at pointers
    rw [← rows]
    refine List.map_congr_left fun candidate member => ?_
    have nothing := table.isSome_pendingInputToken member
    rw [isPending, Option.isSome_none, Option.isSome_eq_false_iff, Option.isNone_iff_eq_none]
      at nothing
    rw [Tokens.allIds, nothing, Option.map_none, Option.toList_none, List.append_nil]
  | some column =>
    apply List.ext_getElem
    · simp [length_candidates, table.onePerRow column isPending]
    · intro index _ _
      simp [candidates, TokenTable.pointers, isPending, Tokens.allIds]

/-! ## The operations on the vector -/

open TokensVector in
/-- The reply of an operation on the vector of a table: the vector of the table that the
operation makes, or an error and the vector as it was. -/
def Answers (reply : Reply Scalar) : Option (TokenTable Scalar) → Prop
  | some after => reply = (after.candidates, .ok ())
  | none => reply.1 = table.candidates ∧ ∃ status, reply.2 = .error status

section Answers

open TokensVector

variable {table} {after : TokenTable Scalar} {processed : ProcessedTokens Scalar}

/-- An operation that succeeds, by the rows and the pointers that it leaves. -/
theorem answers_of_ok {result : StatusOr (ProcessedTokens Scalar)} (ok : result = .ok processed)
    (rows : processed.tokens.map Tokens.tokenIds = after.rows)
    (pointers : processed.tokens.map Tokens.pendingInputToken = after.pointers) :
    table.Answers (replyOf table.processed result) (some after) := by
  rw [ok, Answers, replyOf, after.eq_candidates rows pointers]

theorem answers_of_error {result : StatusOr (ProcessedTokens Scalar)} {status : Status}
    (refused : result = .error status) :
    table.Answers (replyOf table.processed result) none := by
  rw [refused]
  exact ⟨rfl, status, rfl⟩

end Answers

theorem keepRow_answers (index : Nat) :
    table.Answers (TokensVector.replyOf table.processed
        (table.processed.reduceTokenCandidates index))
      (table.operate (.reduceTokenCandidates index)) := by
  rw [operate]
  by_cases inside : index < table.rows.length
  · have inVector : index < table.processed.tokens.length := by
      rw [tokens_processed, length_candidates]
      exact inside
    rw [dif_pos inside]
    refine answers_of_ok (by rw [ProcessedTokens.reduceTokenCandidates, dif_pos inVector]) ?_ ?_
    · simp [candidates, keepRow]
    · cases isPending : table.pending with
      | none => simp [candidates, keepRow, pointers, isPending]
      | some column =>
        have inColumn : index < column.length := by
          rw [table.onePerRow column isPending]
          exact inside
        simp [candidates, keepRow, pointers, isPending, inColumn]
  · rw [dif_neg inside]
    have outside : ¬index < table.processed.tokens.length := by
      rw [tokens_processed, length_candidates]
      exact inside
    exact answers_of_error (by rw [ProcessedTokens.reduceTokenCandidates, dif_neg outside])

theorem copies_answers (size : Nat) :
    table.Answers (TokensVector.replyOf table.processed
        (table.processed.broadcastTokenCandidates size))
      (table.operate (.broadcastTokenCandidates size)) := by
  rw [operate, ProcessedTokens.broadcastTokenCandidates]
  have sized : table.processed.tokens.length = table.rows.length := table.length_candidates
  by_cases single : table.rows.length = 1
  · rw [if_neg (not_not.mpr (sized.trans single))]
    by_cases large : 1 ≤ size
    · rw [dif_neg (by omega), dif_pos ⟨single, large⟩]
      obtain ⟨row, isRow⟩ := List.length_eq_one_iff.mp single
      refine answers_of_ok rfl ?_ ?_
      · simp [copies, ProcessedTokens.first, candidates, List.head_zipWith]
      · cases isPending : table.pending with
        | none => simp [copies, ProcessedTokens.first, candidates, pointers, isPending, isRow]
        | some column =>
          have one := (table.onePerRow column isPending).trans single
          obtain ⟨token, rfl⟩ := List.length_eq_one_iff.mp one
          simp [copies, ProcessedTokens.first, candidates, pointers, isPending, isRow]
    · rw [dif_pos (by omega), dif_neg (fun possible => large possible.2)]
      exact answers_of_error rfl
  · rw [if_pos (fun same => single (sized.symm.trans same)),
      dif_neg (fun possible => single possible.1)]
    exact answers_of_error rfl

theorem appendIds_answers (tokenIds : List Int) :
    table.Answers (TokensVector.replyOf table.processed
        (.ok (table.processed.addProcessedTokens tokenIds)))
      (table.operate (.addProcessedTokens tokenIds)) := by
  rw [operate]
  refine answers_of_ok rfl ?_ ?_
  · change (table.candidates.map _).map Tokens.tokenIds = table.rows.map _
    rw [← map_tokenIds_candidates, List.map_map, List.map_map]
    rfl
  · have kept : (table.appendIds tokenIds).pointers = table.pointers := by
      simp only [pointers, appendIds, List.length_map]
    change (table.candidates.map _).map Tokens.pendingInputToken = _
    rw [kept, ← map_pendingInputToken_candidates, List.map_map]
    rfl

theorem withPending_answers (token : List (TokenData Scalar)) :
    table.Answers (TokensVector.replyOf table.processed
        (table.processed.addPendingInputToken token))
      (table.operate (.addPendingInputToken token)) := by
  rw [operate, ProcessedTokens.addPendingInputToken]
  have sized : table.processed.tokens.length = table.rows.length := table.length_candidates
  by_cases fits : token.length = table.rows.length
  · rw [dif_neg (not_not.mpr (fits.trans sized.symm)), hasPendingInputToken_processed]
    by_cases isPending : table.pending.isSome = true
    · rw [if_pos isPending, dif_neg (by simp [Option.isSome_iff_ne_none.mp isPending])]
      exact answers_of_error rfl
    · rw [if_neg isPending, dif_pos ⟨fits, by simpa using isPending⟩]
      refine answers_of_ok rfl ?_ ?_
      · refine Eq.trans ?_ table.map_tokenIds_candidates
        rw [List.map_zipWith]
        apply List.ext_getElem
        · simp [length_candidates, fits]
        · intro index _ _
          simp
      · change _ = token.map some
        rw [List.map_zipWith]
        apply List.ext_getElem
        · simp [length_candidates, fits]
        · intro index _ _
          simp
  · rw [dif_pos (fun same => fits (same.trans sized)), dif_neg (fun possible => fits possible.1)]
    exact answers_of_error rfl

theorem truncate_answers (newStep : Int) :
    table.Answers (TokensVector.replyOf table.processed (table.processed.rollBackToStep newStep))
      (table.operate (.rollBackToStep newStep)) := by
  rw [operate, ProcessedTokens.rollBackToStep, tokenCount_processed]
  have counted : table.step ≤ table.columns ∧ table.columns ≤ table.step + 1 := by
    rw [columns]
    split <;> omega
  by_cases all : newStep = table.columns
  · rw [if_neg (by omega), if_neg (by omega), if_pos all, if_pos all]
    exact rfl
  · by_cases before : 0 ≤ newStep ∧ newStep.toNat ≤ table.step
    · rw [if_neg (by omega), if_neg (by omega), if_neg all, if_neg all, dif_pos before]
      refine answers_of_ok rfl ?_ ?_
      · change (table.candidates.map _).map Tokens.tokenIds = table.rows.map _
        rw [← map_tokenIds_candidates, List.map_map, List.map_map]
        rfl
      · rw [pointers_of_none rfl, truncate, List.length_map]
        exact table.map_none_candidates fun _ => rfl
    · by_cases negative : newStep < 0
      · rw [if_pos negative, if_neg all, dif_neg before]
        exact answers_of_error rfl
      · rw [if_neg negative, if_pos (by omega), if_neg all, dif_neg before]
        exact answers_of_error rfl

theorem settle_answers :
    table.Answers (TokensVector.replyOf table.processed
        table.processed.markPendingInputTokenAsProcessed)
      (table.operate .markPendingInputTokenAsProcessed) := by
  rw [operate, ProcessedTokens.markPendingInputTokenAsProcessed, hasPendingInputToken_processed]
  by_cases isPending : table.pending.isSome = true
  · rw [if_pos isPending, if_pos isPending]
    refine answers_of_ok rfl ?_ ?_
    · change (table.candidates.map _).map Tokens.tokenIds = table.whole
      rw [← map_allIds_candidates, List.map_map]
      rfl
    · rw [pointers_of_none rfl, settle, length_whole]
      exact table.map_none_candidates fun _ => rfl
  · rw [if_neg isPending, if_neg isPending]
    exact answers_of_error rfl

theorem withoutPending_answers :
    table.Answers (TokensVector.replyOf table.processed
        (.ok table.processed.invalidatePendingInputToken))
      (table.operate .invalidatePendingInputToken) := by
  rw [operate]
  refine answers_of_ok rfl ?_ ?_
  · change (table.candidates.map _).map Tokens.tokenIds = table.rows
    rw [← map_tokenIds_candidates, List.map_map]
    rfl
  · rw [pointers_of_none rfl]
    exact table.map_none_candidates fun _ => rfl

/-- Every operation on the vector carries out the operation on the table. -/
theorem apply_answers (operation : TokensVector.Operation Scalar) :
    ∃ reply, TokensVector.apply table.candidates operation = .ok reply ∧
      table.Answers reply (table.operate operation) := by
  refine ⟨_, TokensVector.apply_refines table.processed operation, ?_⟩
  cases operation with
  | reduceTokenCandidates index => exact table.keepRow_answers index
  | broadcastTokenCandidates size => exact table.copies_answers size
  | addProcessedTokens tokenIds => exact table.appendIds_answers tokenIds
  | addPendingInputToken token => exact table.withPending_answers token
  | rollBackToStep newStep => exact table.truncate_answers newStep
  | markPendingInputTokenAsProcessed => exact table.settle_answers
  | invalidatePendingInputToken => exact table.withoutPending_answers

/-- So does every sequence of operations. -/
theorem run_candidates (operations : List (TokensVector.Operation Scalar)) :
    TokensVector.run table.candidates operations =
      .ok (table.operateAll operations).candidates := by
  induction operations generalizing table with
  | nil => rfl
  | cons operation later inductionHypothesis =>
    obtain ⟨reply, applied, answers⟩ := table.apply_answers operation
    rw [TokensVector.run, applied, operateAll, List.foldl_cons, ← operateAll]
    change TokensVector.run reply.1 later = _
    cases made : table.operate operation with
    | none =>
      rw [made] at answers
      rw [answers.1, inductionHypothesis]
      rfl
    | some after =>
      rw [made] at answers
      rw [show reply = (after.candidates, .ok ()) from answers, inductionHypothesis]
      rfl

end TokenTable

end LiteRTLM.Executor
