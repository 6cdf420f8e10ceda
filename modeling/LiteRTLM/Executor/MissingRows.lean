import Mathlib
import LiteRTLM.Components.EmbeddingLookup.LookupShortage
import LiteRTLM.Executor.MultiModalPrefill

/-!
Contract: prompts with more special tokens than rows were supplied for them.

Owns: the lookups the groups of a prefill make, when one of them asks a multimodal lookup
for more than is left, and that the prefill fails exactly then.

Does not own: the single lookups. A lookup that a span has used up is removed, and with
it the check that would report the next special token.
-/

namespace LiteRTLM.Executor.EmbeddingInputs

open LiteRTLM.Engine
open LiteRTLM.Library
open LiteRTLM.Library.Blocks
open LiteRTLM.Components.EmbeddingLookup
open LiteRTLM.Components.EmbeddingLookup.EmbeddingLookupManager
open LiteRTLM.Components.EmbeddingLookup.EmbeddingLookupMultiModal

variable {Scalar : Type}

/-! ## The lookups of a prefill -/

/-- A lookup of a span, or of a single token. -/
inductive LookupCall where
  | span (tokens : List Int)
  | single (token : Int)

def LookupCall.tokens : LookupCall → List Int
  | span tokens => tokens
  | single token => [token]

def tokensOf (calls : List LookupCall) : List Int := calls.flatMap LookupCall.tokens

/-- The lookups of a group. A single id is stored without one when no token is
pending. -/
def groupCalls (isPending : Bool) (ids : List Int) : List LookupCall :=
  match ids.getLast? with
  | none => []
  | some last =>
      if isPending = false ∧ ids.length = 1 then []
      else [.span ids.dropLast, .single last]

/-- The lookups of the groups of a prefill: behind the first a token is pending. -/
def lookupCalls (isPending : Bool) : List (List Int × OutputTensor Scalar) → List LookupCall
  | [] => []
  | group :: rest => groupCalls isPending group.1 ++ lookupCalls true rest

/-- The multimodal lookups of a prefill, one for each modality that was supplied. -/
def suppliedLookups (vision audio : Option (List Scalar)) :
    List (EmbeddingLookupMultiModal Scalar) :=
  (vision.map fun embedding => ⟨embedding, ExecutorVisionData.specialToken⟩).toList ++
    (audio.map fun embedding => ⟨embedding, ExecutorAudioData.specialToken⟩).toList

/-! ## Running short -/

/-- Of so many numbers for a special token more are asked than there are: a lookup needs
more than all of them, and no span before it has used up the last one. -/
def AskedForMore (floats : Nat) (specialToken : Int) (numbers : Nat)
    (calls : List LookupCall) : Prop :=
  ∃ earlier call later, calls = earlier ++ call :: later ∧
    numbers < (tokensOf (earlier ++ [call])).count specialToken * floats ∧
    ∀ front span between, earlier = front ++ .span span :: between →
      (tokensOf (front ++ [.span span])).count specialToken * floats < numbers

/-- A supplied modality is asked for more than was supplied. -/
def RunsShort (floats : Nat) (vision audio : Option (List Scalar)) (calls : List LookupCall) :
    Prop :=
  ∃ lookup ∈ suppliedLookups vision audio,
    AskedForMore floats lookup.specialToken lookup.embedding.length calls

/-- A prompt has more special tokens of a modality than rows were supplied for it. -/
def MissingRows (manager : EmbeddingLookupManager Scalar) (vision audio : Option (List Scalar))
    (tokens : List Int) : Prop :=
  ∃ token, IsModality token ∧
    (suppliedEmbeddings vision audio token).length <
      tokens.count token * manager.getFloatsPerToken

/-- The multimodal lookups after a lookup that did not fail. -/
def afterCall (floats : Nat) (lookups : List (EmbeddingLookupMultiModal Scalar)) :
    LookupCall → List (EmbeddingLookupMultiModal Scalar)
  | .span tokens => (lookups.map (advance floats tokens)).filter hasRemainingEmbeddings
  | .single token => lookups.map (advance floats [token])

/-- The multimodal lookups after several. -/
def afterCalls (floats : Nat) (lookups : List (EmbeddingLookupMultiModal Scalar))
    (calls : List LookupCall) : List (EmbeddingLookupMultiModal Scalar) :=
  calls.foldl (afterCall floats) lookups

/-- One of the calls finds a multimodal lookup short of rows. -/
def Refused (floats : Nat) :
    List (EmbeddingLookupMultiModal Scalar) → List LookupCall → Prop
  | _, [] => False
  | lookups, call :: later =>
      (∃ lookup ∈ lookups, ShortOf floats call.tokens lookup) ∨
        Refused floats (afterCall floats lookups call) later

variable {floats : Nat} {lookups : List (EmbeddingLookupMultiModal Scalar)}

theorem refused_append (earlier later : List LookupCall) :
    Refused floats lookups (earlier ++ later) ↔
      Refused floats lookups earlier ∨ Refused floats (afterCalls floats lookups earlier) later := by
  induction earlier generalizing lookups with
  | nil => simp [Refused, afterCalls]
  | cons call others inductionHypothesis =>
      rw [List.cons_append, Refused, Refused, inductionHypothesis, or_assoc]
      exact Iff.rfl

theorem afterCalls_append (earlier later : List LookupCall) :
    afterCalls floats lookups (earlier ++ later) =
      afterCalls floats (afterCalls floats lookups earlier) later :=
  List.foldl_append

theorem afterCall_apart (apart : Apart lookups) (call : LookupCall) :
    Apart (afterCall floats lookups call) := by
  cases call with
  | span tokens => exact (apart.advance floats tokens).filter _
  | single token => exact apart.advance floats [token]

theorem afterCalls_apart (apart : Apart lookups) (calls : List LookupCall) :
    Apart (afterCalls floats lookups calls) := by
  induction calls generalizing lookups with
  | nil => exact apart
  | cons call later inductionHypothesis => exact inductionHypothesis (afterCall_apart apart call)

theorem not_askedForMore_nil (specialToken : Int) (numbers : Nat) :
    ¬AskedForMore floats specialToken numbers [] := by
  rintro ⟨earlier, call, later, isSplit, -⟩
  simp at isSplit

/-- More is asked by the first lookup, or by the others of what it leaves. -/
theorem askedForMore_cons {specialToken : Int} {numbers : Nat} (call : LookupCall)
    (later : List LookupCall) :
    AskedForMore floats specialToken numbers (call :: later) ↔
      numbers < call.tokens.count specialToken * floats ∨
        (∀ span, call = .span span → span.count specialToken * floats < numbers) ∧
          AskedForMore floats specialToken
            (numbers - call.tokens.count specialToken * floats) later := by
  have countCons : ∀ others, (tokensOf (call :: others)).count specialToken * floats =
      call.tokens.count specialToken * floats + (tokensOf others).count specialToken * floats := by
    intro others
    rw [tokensOf, List.flatMap_cons, List.count_append, Nat.add_mul]
    rfl
  constructor
  · rintro ⟨earlier, asking, others, isSplit, needed, spans⟩
    by_cases here : numbers < call.tokens.count specialToken * floats
    · exact .inl here
    · cases earlier with
      | nil =>
          rw [List.nil_append, List.cons.injEq] at isSplit
          rw [← isSplit.1, List.nil_append, tokensOf, List.flatMap_singleton] at needed
          exact .inl needed
      | cons first earlier =>
          rw [List.cons_append, List.cons.injEq] at isSplit
          obtain ⟨rfl, isSplit⟩ := isSplit
          rw [List.cons_append, countCons] at needed
          refine .inr ⟨?_, earlier, asking, others, isSplit, by omega, ?_⟩
          · intro span isSpan
            have notAll := spans [] span earlier (by rw [isSpan]; rfl)
            rw [List.nil_append, tokensOf, List.flatMap_singleton] at notAll
            exact notAll
          · intro front span between isEarlier
            have notAll := spans (call :: front) span between (by rw [isEarlier]; rfl)
            rw [List.cons_append, countCons] at notAll
            omega
  · rintro (needed | ⟨isLeft, earlier, asking, others, isSplit, needed, spans⟩)
    · refine ⟨[], call, later, rfl, ?_, ?_⟩
      · rw [List.nil_append, tokensOf, List.flatMap_singleton]
        exact needed
      · intro front span between isEarlier
        simp at isEarlier
    · refine ⟨call :: earlier, asking, others, by rw [isSplit]; rfl, ?_, ?_⟩
      · rw [List.cons_append, countCons]
        omega
      · intro front span between isEarlier
        cases front with
        | nil =>
            rw [List.nil_append, List.cons.injEq] at isEarlier
            have notAll := isLeft span isEarlier.1
            rw [List.nil_append, tokensOf, List.flatMap_singleton]
            exact notAll
        | cons first front =>
            rw [List.cons_append, List.cons.injEq] at isEarlier
            obtain ⟨rfl, isEarlier⟩ := isEarlier
            have notAll := spans front span between isEarlier
            rw [List.cons_append, countCons]
            omega

/-- What a lookup that did not fail leaves of each of the others. -/
theorem mem_afterCall {call : LookupCall} {left : EmbeddingLookupMultiModal Scalar} :
    left ∈ afterCall floats lookups call ↔
      ∃ lookup ∈ lookups, advance floats call.tokens lookup = left ∧
        ∀ span, call = .span span →
          span.count lookup.specialToken * floats < lookup.embedding.length := by
  have remaining : ∀ (tokens : List Int) (lookup : EmbeddingLookupMultiModal Scalar),
      hasRemainingEmbeddings (advance floats tokens lookup) = true ↔
        tokens.count lookup.specialToken * floats < lookup.embedding.length := by
    intro tokens lookup
    simp [hasRemainingEmbeddings, advance]
  cases call with
  | span tokens =>
      rw [afterCall, List.mem_filter, List.mem_map]
      constructor
      · rintro ⟨⟨lookup, member, rfl⟩, isLeft⟩
        refine ⟨lookup, member, rfl, ?_⟩
        rintro span ⟨⟩
        exact (remaining tokens lookup).mp isLeft
      · rintro ⟨lookup, member, rfl, isLeft⟩
        exact ⟨⟨lookup, member, rfl⟩, (remaining tokens lookup).mpr (isLeft tokens rfl)⟩
  | single token =>
      rw [afterCall, List.mem_map]
      constructor
      · rintro ⟨lookup, member, rfl⟩
        exact ⟨lookup, member, rfl, by intros; contradiction⟩
      · rintro ⟨lookup, member, rfl, -⟩
        exact ⟨lookup, member, rfl⟩

/-- Calls are refused exactly when one of the lookups is asked for more than it has. -/
theorem refused_iff (calls : List LookupCall) :
    Refused floats lookups calls ↔
      ∃ lookup ∈ lookups,
        AskedForMore floats lookup.specialToken lookup.embedding.length calls := by
  induction calls generalizing lookups with
  | nil =>
      constructor
      · intro impossible
        exact impossible.elim
      · rintro ⟨lookup, -, asked⟩
        exact not_askedForMore_nil _ _ asked
  | cons call later inductionHypothesis =>
      rw [Refused, inductionHypothesis]
      constructor
      · rintro (⟨lookup, member, short⟩ | ⟨left, isAfter, asked⟩)
        · exact ⟨lookup, member, (askedForMore_cons call later).mpr (.inl short)⟩
        · obtain ⟨lookup, member, rfl, isLeft⟩ := mem_afterCall.mp isAfter
          refine ⟨lookup, member, (askedForMore_cons call later).mpr (.inr ⟨isLeft, ?_⟩)⟩
          rw [← List.length_drop]
          exact asked
      · rintro ⟨lookup, member, asked⟩
        rcases (askedForMore_cons call later).mp asked with short | ⟨isLeft, askedLater⟩
        · exact .inl ⟨lookup, member, short⟩
        · refine .inr ⟨_, mem_afterCall.mpr ⟨lookup, member, rfl, isLeft⟩, ?_⟩
          rw [← List.length_drop] at askedLater
          exact askedLater

/-! ## A prefill runs short -/

variable [Zero Scalar] {manager : EmbeddingLookupManager Scalar}

/-- The lookups of one group. -/
theorem prefillInternalEmbeddings_answers (rawId : Int → Scalar)
    {pending : Option (TokenData Scalar)} {group : List Int × OutputTensor Scalar}
    (multiModal : FullyMultiModal manager) (apart : Apart manager.multiModalEmbeddingLookups)
    (fits : GroupFits manager group) (pendingFits : ∀ token ∈ pending, PendingFits manager token) :
    Answers (prefillInternalEmbeddings rawId pending group.1 group.2) manager
      (Refused manager.getFloatsPerToken manager.multiModalEmbeddingLookups
        (groupCalls pending.isSome group.1))
      (fun prefilled => PendingFits manager prefilled.lastInputToken)
      (afterCalls manager.getFloatsPerToken manager.multiModalEmbeddingLookups
        (groupCalls pending.isSome group.1)) := by
  obtain ⟨ids, input⟩ := group
  obtain ⟨nonempty, rows, conforms, short⟩ := fits
  dsimp only at *
  have last := List.getLast?_eq_some_getLast nonempty
  have notPending : pending.isNone = true ↔ pending.isSome = false := by cases pending <;> simp
  unfold prefillInternalEmbeddings groupCalls
  rw [last]
  simp only [notPending]
  by_cases stored : pending.isSome = false ∧ ids.length = 1
  · rw [if_pos stored, if_pos stored]
    exact answers_pure (.inl rfl)
  · rw [if_neg stored, if_neg stored]
    obtain ⟨filled, fills, filledConforms⟩ : ∃ filled,
        fillPendingInputToken rawId pending input = .ok filled ∧
        filled.Conforms manager.textEmbeddingLookup.outputDimensions rows := by
      cases pending with
      | none => exact ⟨input, rfl, conforms⟩
      | some token =>
          have positive := List.length_pos_of_ne_nil nonempty
          obtain ⟨filled, fills, filledConforms, -⟩ :=
            fillPending_ok rawId (pendingFits token rfl) conforms (by omega)
          exact ⟨filled, fills, filledConforms⟩
    rw [fills, returnIfError_ok, pure_bind]
    have room : pending.toList.length + ids.dropLast.length ≤ rows := by
      have pendingRows : pending.toList.length ≤ 1 := by cases pending <;> simp
      have positive := List.length_pos_of_ne_nil nonempty
      rw [List.length_dropLast]
      omega
    apply (lookupPrefillSpan_answers multiModal apart filledConforms room).bind
    intro written _
    apply Answers.bind (lookupPrefillToken_answers (multiModal.withLookups _)
      (afterCall_apart apart (.span ids.dropLast)) (ids.getLast nonempty))
    intro embedding sized
    exact answers_pure (.inr sized)

/-- The lookups of all groups: a call is refused in the group that makes it, or in one
behind it. -/
theorem prefillEmbeddings_answers (rawId : Int → Scalar)
    {groups : List (List Int × OutputTensor Scalar)} {pending : Option (TokenData Scalar)}
    (multiModal : FullyMultiModal manager) (apart : Apart manager.multiModalEmbeddingLookups)
    (fits : ∀ group ∈ groups, GroupFits manager group)
    (pendingFits : ∀ token ∈ pending, PendingFits manager token) :
    Answers (prefillEmbeddings rawId pending groups) manager
      (Refused manager.getFloatsPerToken manager.multiModalEmbeddingLookups
        (lookupCalls pending.isSome groups))
      (fun _ => True)
      (afterCalls manager.getFloatsPerToken manager.multiModalEmbeddingLookups
        (lookupCalls pending.isSome groups)) := by
  induction groups generalizing manager pending with
  | nil => exact answers_pure trivial
  | cons group rest inductionHypothesis =>
      rw [lookupCalls, refused_append, afterCalls_append]
      apply (prefillInternalEmbeddings_answers rawId multiModal apart
        (fits group List.mem_cons_self) pendingFits).bind
      intro prefilled lastFits
      have others := @inductionHypothesis
        { manager with
          multiModalEmbeddingLookups := afterCalls manager.getFloatsPerToken
            manager.multiModalEmbeddingLookups (groupCalls pending.isSome group.1) }
        (some prefilled.lastInputToken)
        (multiModal.withLookups _)
        (afterCalls_apart apart _)
        (fun other member => fits other (List.mem_cons_of_mem _ member))
        (fun token isLast => by cases isLast; exact lastFits)
      exact others.map fun _ _ => trivial

/-! ## A prefill that runs short -/

omit [Zero Scalar] in
/-- The lookups of a prefill are those of the modalities that were supplied. -/
theorem updateMultiModalEmbeddings_supplied (supports : manager.fullySupportsMultiModal = true)
    (noLookups : manager.multiModalEmbeddingLookups = []) (vision audio : Option (List Scalar)) :
    Succeeds (updateMultiModalEmbeddings vision audio) manager ()
      { manager with multiModalEmbeddingLookups := suppliedLookups vision audio } := by
  obtain ⟨text, lookups, ends, supported⟩ := manager
  cases noLookups
  cases supports
  cases vision <;> cases audio <;> rfl

omit [Zero Scalar] in
theorem suppliedLookups_apart (vision audio : Option (List Scalar)) :
    Apart (suppliedLookups vision audio) := by
  constructor <;> cases vision <;> cases audio <;>
    simp [suppliedLookups, ExecutorVisionData.specialToken, ExecutorAudioData.specialToken]

/-- A prefill fails exactly when it asks a supplied modality for more than was
supplied. -/
theorem prefill_error_iff (rawId : Int → Scalar) (vision audio : Option (List Scalar))
    (pending : Option (TokenData Scalar)) (groups : List (List Int × OutputTensor Scalar))
    (multiModal : FullyMultiModal manager) (noLookups : manager.multiModalEmbeddingLookups = [])
    (fits : ∀ group ∈ groups, GroupFits manager group)
    (pendingFits : ∀ token ∈ pending, PendingFits manager token) :
    (∃ status after, prefillWithEmbeddings rawId vision audio pending groups manager =
        .error status after) ↔
      RunsShort manager.getFloatsPerToken vision audio (lookupCalls pending.isSome groups) := by
  have updates := updateMultiModalEmbeddings_supplied multiModal.supports noLookups vision audio
  have answers := prefillEmbeddings_answers rawId
    (multiModal.withLookups (suppliedLookups vision audio)) (suppliedLookups_apart vision audio)
    fits pendingFits
  have same : prefillWithEmbeddings rawId vision audio pending groups manager =
      prefillEmbeddings rawId pending groups
        { manager with multiModalEmbeddingLookups := suppliedLookups vision audio } := by
    unfold Succeeds at updates
    simp only [prefillWithEmbeddings, bind, EStateM.bind, updates]
  rw [same, RunsShort, ← refused_iff]
  unfold Answers Ends at answers
  constructor
  · rintro ⟨status, after, failed⟩
    rw [failed] at answers
    exact answers
  · intro refused
    cases outcome : prefillEmbeddings rawId pending groups
        { manager with multiModalEmbeddingLookups := suppliedLookups vision audio } with
    | error status after => exact ⟨status, after, rfl⟩
    | ok results after =>
        rw [outcome] at answers
        exact absurd refused answers.1

/-- **Missing rows are reported.** A prompt with more special tokens of a modality than
rows makes its prefill fail if and only if it has no such token, or a lookup asks a supplied
modality for more than it was given before a span has used up the last row. -/
theorem missingRows_reported_iff (rawId : Int → Scalar) (vision audio : Option (List Scalar))
    (pending : Option (TokenData Scalar)) (groups : List (List Int × OutputTensor Scalar))
    (multiModal : FullyMultiModal manager) (noLookups : manager.multiModalEmbeddingLookups = [])
    (fits : ∀ group ∈ groups, GroupFits manager group)
    (pendingFits : ∀ token ∈ pending, PendingFits manager token) :
    (MissingRows manager vision audio (groups.flatMap Prod.fst) →
        ∃ status after, prefillWithEmbeddings rawId vision audio pending groups manager =
          .error status after) ↔
      (MissingRows manager vision audio (groups.flatMap Prod.fst) →
        RunsShort manager.getFloatsPerToken vision audio
          (lookupCalls pending.isSome groups)) := by
  have failure := prefill_error_iff rawId vision audio pending groups multiModal noLookups fits
    pendingFits
  rw [failure]

/-- One row for two image tokens, each in the span of its own group. -/
def oneRowGroups : List (List Int × OutputTensor Int) :=
  [([-1, 5], oneNumberInput 2), ([-1, 6], oneNumberInput 2)]

/-- The second image token silently takes the embedding of token 0. -/
theorem missingRow_unreported :
    MissingRows oneNumberManager (some [71]) none (oneRowGroups.flatMap Prod.fst) ∧
      ∃ first second after,
        prefillWithEmbeddings id (some [71]) none none oneRowGroups oneNumberManager =
          .ok [first, second] after ∧
        second.ids = [-1, 6] ∧ second.input.map (·.contents) = some [5, 0] := by
  refine ⟨⟨-1, .inl rfl, by decide⟩, ?_⟩
  exact ⟨_, _, _, rfl, rfl, rfl⟩

/-- Both image tokens in one span: the second is missed. -/
def oneSpanGroups : List (List Int × OutputTensor Int) := [([-1, -1, 6], oneNumberInput 3)]

theorem missingRow_reported :
    MissingRows oneNumberManager (some [71]) none (oneSpanGroups.flatMap Prod.fst) ∧
      ∃ status after, prefillWithEmbeddings id (some [71]) none none oneSpanGroups
        oneNumberManager = .error status after := by
  have missing : MissingRows oneNumberManager (some [71]) none (oneSpanGroups.flatMap Prod.fst) :=
    ⟨-1, .inl rfl, by decide⟩
  have fits : ∀ group ∈ oneSpanGroups, GroupFits oneNumberManager group := by
    intro group member
    rw [List.mem_singleton.mp member]
    exact oneNumberInput_fits (by decide) _ (by decide)
  have runsShort : RunsShort oneNumberManager.getFloatsPerToken (some [(71 : Int)]) none
      (lookupCalls false oneSpanGroups) := by
    refine ⟨_, List.mem_cons_self, [], .span [-1, -1], [.single 6], rfl, by decide, ?_⟩
    intro front span between isEmpty
    simp at isEmpty
  have reported := missingRows_reported_iff id (some [71]) none none oneSpanGroups
    oneNumberManager_multiModal rfl fits (fun _ isPending => by cases isPending)
  exact ⟨missing, reported.mpr (fun _ => runsShort) missing⟩

end LiteRTLM.Executor.EmbeddingInputs
