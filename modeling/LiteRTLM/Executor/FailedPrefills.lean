import Mathlib
import LiteRTLM.Executor.PrefillStops

/-!
Contract: prefills behind prefills that failed.

Owns: runs of prefills, some of which fail; the run without those; and that nothing of the
failed ones reaches a later prefill when none of them stops while it creates buffers, leaves
a lookup, or leaves the first pending token.

Does not own: where a prefill stops.
-/

namespace LiteRTLM.Executor.FalliblePrefill

open LiteRTLM.Engine
open LiteRTLM.Library
open LiteRTLM.Components.EmbeddingLookup
open LiteRTLM.Components.EmbeddingLookup.EmbeddingLookupManager
open LiteRTLM.Executor.EmbeddingInputs
open LiteRTLM.Executor.PrefillWorkGroups

variable {Scalar : Type}

/-! ## Single ids with a row more -/

section Singles

variable {floats : Nat} {fewer more : List (EmbeddingLookupMultiModal Scalar)}

/-- Each lookup holds whole rows, or some rows more than one of the others. -/
def Covers (floats : Nat) (fewer more : List (EmbeddingLookupMultiModal Scalar)) : Prop :=
  ∀ lookup ∈ more, floats ∣ lookup.embedding.length ∨
    ∃ other ∈ fewer, other.specialToken = lookup.specialToken ∧
      ∃ rows, lookup.embedding.length = other.embedding.length + rows * floats

/-- What the lookups of a single id leave. -/
theorem mem_afterSingle {id : Int} {left : EmbeddingLookupMultiModal Scalar}
    {lookups : List (EmbeddingLookupMultiModal Scalar)} :
    left ∈ afterCalls floats lookups [.span [], .single id] ↔
      ∃ lookup ∈ lookups, lookup.embedding.length ≠ 0 ∧ advance floats [id] lookup = left := by
  have unchanged : ∀ lookup : EmbeddingLookupMultiModal Scalar,
      advance floats [] lookup = lookup := by
    intro lookup
    rw [advance, List.count_nil, Nat.zero_mul, List.drop_zero]
  change left ∈ afterCall floats (afterCall floats lookups (.span [])) (.single id) ↔ _
  rw [mem_afterCall]
  constructor
  · rintro ⟨behind, member, isLeft, _⟩
    obtain ⟨lookup, isLookup, same, some⟩ := mem_afterCall.mp member
    have nonempty := some [] rfl
    rw [List.count_nil, Nat.zero_mul] at nonempty
    change advance floats [] lookup = behind at same
    rw [unchanged] at same
    rw [← same] at isLeft
    exact ⟨lookup, isLookup, nonempty.ne', isLeft⟩
  · rintro ⟨lookup, isLookup, nonempty, isLeft⟩
    refine ⟨lookup, mem_afterCall.mpr ⟨lookup, isLookup, unchanged lookup, ?_⟩, isLeft,
      fun span isSpan => by cases isSpan⟩
    intro span isSpan
    cases isSpan
    rw [List.count_nil, Nat.zero_mul]
    exact Nat.pos_of_ne_zero nonempty

/-- A lookup is not short of rows for a single id. -/
def Enough (floats : Nat) (id : Int) (lookups : List (EmbeddingLookupMultiModal Scalar)) : Prop :=
  ∀ lookup ∈ lookups, lookup.embedding.length ≠ 0 →
    [id].count lookup.specialToken * floats ≤ lookup.embedding.length

theorem length_advance (tokens : List Int) (lookup : EmbeddingLookupMultiModal Scalar) :
    (advance floats tokens lookup).embedding.length =
      lookup.embedding.length - tokens.count lookup.specialToken * floats :=
  List.length_drop

/-- The lookups before an id cover those behind it. -/
theorem covers_afterSingle {id : Int} (enough : Enough floats id more) :
    Covers floats (afterCalls floats more [.span [], .single id]) more := by
  intro lookup member
  by_cases whole : floats ∣ lookup.embedding.length
  · exact .inl whole
  · have nonempty : lookup.embedding.length ≠ 0 := by
      intro none
      rw [none] at whole
      exact whole (Nat.dvd_zero floats)
    refine .inr ⟨advance floats [id] lookup, mem_afterSingle.mpr ⟨lookup, member, nonempty, rfl⟩,
      rfl, [id].count lookup.specialToken, ?_⟩
    have needed := enough lookup member nonempty
    rw [length_advance]
    omega

/-- With more rows there are enough as well. -/
theorem Covers.enough {id : Int} (covers : Covers floats fewer more)
    (enough : Enough floats id fewer) : Enough floats id more := by
  intro lookup member nonempty
  have atMostOne : [id].count lookup.specialToken ≤ 1 := List.count_le_length
  have atMostRow : [id].count lookup.specialToken * floats ≤ floats := by
    calc [id].count lookup.specialToken * floats ≤ 1 * floats :=
          Nat.mul_le_mul_right floats atMostOne
      _ = floats := Nat.one_mul floats
  rcases covers lookup member with whole | ⟨other, isOther, sameToken, rows, isMore⟩
  · exact atMostRow.trans (Nat.le_of_dvd (Nat.pos_of_ne_zero nonempty) whole)
  · by_cases otherEmpty : other.embedding.length = 0
    · have whole : floats ∣ lookup.embedding.length := by
        rw [isMore, otherEmpty, Nat.zero_add]
        exact Nat.dvd_mul_left floats rows
      exact atMostRow.trans (Nat.le_of_dvd (Nat.pos_of_ne_zero nonempty) whole)
    · have needed := enough other isOther otherEmpty
      rw [sameToken] at needed
      omega

/-- The rows more are still there behind an id. -/
theorem Covers.afterSingle {id : Int} (covers : Covers floats fewer more)
    (enough : Enough floats id fewer) :
    Covers floats (afterCalls floats fewer [.span [], .single id])
      (afterCalls floats more [.span [], .single id]) := by
  intro left member
  obtain ⟨lookup, isLookup, nonempty, rfl⟩ := mem_afterSingle.mp member
  rw [length_advance]
  have wholeRows : floats ∣ [id].count lookup.specialToken * floats := Nat.dvd_mul_left _ _
  rcases covers lookup isLookup with whole | ⟨other, isOther, sameToken, rows, isMore⟩
  · exact .inl (Nat.dvd_sub whole wholeRows)
  · by_cases otherEmpty : other.embedding.length = 0
    · refine .inl (Nat.dvd_sub ?_ wholeRows)
      rw [isMore, otherEmpty, Nat.zero_add]
      exact Nat.dvd_mul_left floats rows
    · have needed := enough other isOther otherEmpty
      rw [sameToken] at needed
      refine .inr ⟨advance floats [id] other,
        mem_afterSingle.mpr ⟨other, isOther, otherEmpty, rfl⟩, sameToken, rows, ?_⟩
      rw [length_advance, sameToken]
      omega

end Singles

/-! ## A call that goes on -/

section GoesOn

variable {floats : Nat} {fewer more lookups : List (EmbeddingLookupMultiModal Scalar)}
  {isCreated laterCreated : String → Bool} {group : WorkGroup Scalar}
  {groups : List (WorkGroup Scalar)}

/-- A group that does not stop goes on wherever its signature's buffers are created, its
lookups go on, and a token is pending only if one was. -/
theorem groupStop_goesOn {created laterCreated isPending laterPending : Bool}
    (goesOn : groupStop floats created isPending fewer group = none)
    (stillCreated : created = true → laterCreated = true)
    (stillPending : laterPending = true → isPending = true)
    (lookUp : ¬(isPending = false ∧ group.ids.length = 1) →
      lookUpStop floats fewer group = none → lookUpStop floats more group = none) :
    groupStop floats laterCreated laterPending more group = none := by
  unfold groupStop at goesOn ⊢
  by_cases creating : created = false ∧ ¬group.outcomes.createPrefillInputBuffers.isOk
  · rw [if_pos creating] at goesOn
    cases goesOn
  · rw [if_neg creating] at goesOn
    have creates : ¬(laterCreated = false ∧ ¬group.outcomes.createPrefillInputBuffers.isOk) := by
      intro fails
      have notCreated : created = false := by
        cases created with
        | false => rfl
        | true =>
            rw [stillCreated rfl] at fails
            exact absurd fails.1.symm Bool.false_ne_true
      exact creating ⟨notCreated, fails.2⟩
    rw [if_neg creates]
    by_cases opens : ¬group.outcomes.inputPositions.isOk
    · rw [if_pos opens] at goesOn
      cases goesOn
    · rw [if_neg opens] at goesOn ⊢
      by_cases stored : laterPending = false ∧ group.ids.length = 1
      · rw [if_pos stored]
      · have runs : ¬(isPending = false ∧ group.ids.length = 1) := by
          intro early
          apply stored
          refine ⟨?_, early.2⟩
          cases laterPending with
          | false => rfl
          | true =>
              rw [stillPending rfl] at early
              exact absurd early.1.symm Bool.false_ne_true
        rw [if_neg runs] at goesOn
        rw [if_neg stored]
        by_cases fills : isPending = true ∧ ¬group.outcomes.fillInputBuffer.isOk
        · rw [if_pos fills] at goesOn
          cases goesOn
        · rw [if_neg fills] at goesOn
          rw [if_neg fun fails => fills ⟨stillPending fails.1, fails.2⟩]
          exact lookUp runs goesOn

theorem update_still (prefillSignature : String)
    (stillCreated : ∀ other, isCreated other = true → laterCreated other = true) (other : String) :
    Function.update isCreated prefillSignature true other = true →
      Function.update laterCreated prefillSignature true other = true := by
  rw [Function.update_apply, Function.update_apply]
  by_cases same : other = prefillSignature
  · rw [if_pos same, if_pos same]
    exact id
  · rw [if_neg same, if_neg same]
    exact stillCreated other

theorem groupsStop_cons_eq_none {isPending : Bool} :
    groupsStop floats isCreated isPending lookups (group :: groups) = none ↔
      groupStop floats (isCreated group.prefillSignature) isPending lookups group = none ∧
        groupsStop floats (Function.update isCreated group.prefillSignature true) true
          (afterCalls floats lookups (groupCalls isPending group.ids)) groups = none := by
  rw [groupsStop]
  cases stopped : groupStop floats (isCreated group.prefillSignature) isPending lookups group with
  | none => simp
  | some stop => simp

/-- Groups that go on do so with more buffers created. -/
theorem groupsStop_created {isPending : Bool}
    (stillCreated : ∀ other, isCreated other = true → laterCreated other = true)
    (goesOn : groupsStop floats isCreated isPending lookups groups = none) :
    groupsStop floats laterCreated isPending lookups groups = none := by
  induction groups generalizing isCreated laterCreated isPending lookups with
  | nil => rfl
  | cons group rest inductionHypothesis =>
      rw [groupsStop_cons_eq_none] at goesOn ⊢
      constructor
      · exact groupStop_goesOn goesOn.1 (stillCreated _) id (fun _ lookUp => lookUp)
      · exact inductionHypothesis (update_still _ stillCreated) goesOn.2

/-- The lookups of a single id go on where none is short. -/
theorem lookUpStop_single {id : Int} (single : group.ids = [id]) :
    lookUpStop floats lookups group = none ↔
      group.outcomes.inputEmbeddings.isOk ∧ group.outcomes.fillAttentionMask.isOk ∧
        group.outcomes.perLayerEmbedding.isOk ∧ group.outcomes.compiledModelRun.isOk ∧
          Enough floats id lookups := by
  have neverShort : ¬∃ lookup ∈ lookups, ShortOf floats [] lookup := by
    rintro ⟨lookup, _, short⟩
    rw [ShortOf, List.count_nil, Nat.zero_mul] at short
    exact absurd short (Nat.not_lt_zero _)
  have remaining : (∃ lookup ∈ afterCall floats lookups (.span []), ShortOf floats [id] lookup) ↔
      ¬Enough floats id lookups := by
    constructor
    · rintro ⟨behind, member, short⟩ enough
      obtain ⟨lookup, isLookup, same, some⟩ := mem_afterCall.mp member
      have nonempty := some [] rfl
      rw [List.count_nil, Nat.zero_mul] at nonempty
      have sameLength : behind.embedding.length = lookup.embedding.length := by
        rw [← same, length_advance, LookupCall.tokens, List.count_nil, Nat.zero_mul, Nat.sub_zero]
      have sameToken : behind.specialToken = lookup.specialToken := by
        rw [← same]
        rfl
      rw [ShortOf, sameLength, sameToken] at short
      exact Nat.lt_irrefl _ (short.trans_le (enough lookup isLookup nonempty.ne'))
    · intro missing
      unfold Enough at missing
      push Not at missing
      obtain ⟨lookup, isLookup, nonempty, short⟩ := missing
      refine ⟨advance floats [] lookup, mem_afterCall.mpr ⟨lookup, isLookup, rfl, ?_⟩, ?_⟩
      · intro span isSpan
        cases isSpan
        rw [List.count_nil, Nat.zero_mul]
        exact Nat.pos_of_ne_zero nonempty
      · rw [ShortOf, length_advance, List.count_nil, Nat.zero_mul, Nat.sub_zero]
        exact short
  have lastOnly : group.ids.getLast?.toList = [id] := by
    rw [single]
    rfl
  have noFront : group.ids.dropLast = [] := by
    rw [single]
    rfl
  unfold lookUpStop
  rw [lastOnly, noFront]
  dsimp only
  split
  · rename_i stops
    have noLock := stops.resolve_right neverShort
    constructor
    · intro impossible
      cases impossible
    · intro outcomes
      exact absurd outcomes.1 noLock
  · rename_i front
    have lock := not_not.mp (not_or.mp front).1
    split
    · rename_i stops
      rw [remaining] at stops
      constructor
      · intro impossible
        cases impossible
      · rintro ⟨_, mask, perLayer, _, enough⟩
        exact absurd stops (by tauto)
    · rename_i last
      rw [remaining] at last
      split
      · rename_i stops
        constructor
        · intro impossible
          cases impossible
        · rintro ⟨_, _, _, run, _⟩
          exact absurd run stops
      · rename_i run
        exact ⟨fun _ => by tauto, fun _ => rfl⟩

/-- The lookups of a group that goes on go on. -/
theorem lookUpStop_of_groupStop {created : Bool}
    (goesOn : groupStop floats created true lookups group = none) :
    lookUpStop floats lookups group = none := by
  unfold groupStop at goesOn
  split at goesOn
  · cases goesOn
  · split at goesOn
    · cases goesOn
    · split at goesOn
      · rename_i early
        exact absurd early.1.symm Bool.false_ne_true
      · split at goesOn
        · cases goesOn
        · exact goesOn

theorem groupCalls_single {id : Int} {ids : List Int} (single : ids = [id]) :
    groupCalls true ids = [.span [], .single id] := by
  rw [single]
  rfl

/-- Groups of single ids go on with some rows more. -/
theorem groupsStop_singles
    (stillCreated : ∀ other, isCreated other = true → laterCreated other = true)
    (singles : ∀ group ∈ groups, group.ids.length = 1) (covers : Covers floats fewer more)
    (goesOn : groupsStop floats isCreated true fewer groups = none) :
    groupsStop floats laterCreated true more groups = none := by
  induction groups generalizing isCreated laterCreated fewer more with
  | nil => rfl
  | cons group rest inductionHypothesis =>
      obtain ⟨id, single⟩ := List.length_eq_one_iff.mp (singles group List.mem_cons_self)
      rw [groupsStop_cons_eq_none] at goesOn ⊢
      rw [groupCalls_single single] at goesOn ⊢
      have enough := ((lookUpStop_single single).mp (lookUpStop_of_groupStop goesOn.1)).2.2.2.2
      constructor
      · apply groupStop_goesOn goesOn.1 (stillCreated _) (fun isPending => isPending)
        intro _ lookUp
        obtain ⟨embeddings, mask, perLayer, runs, -⟩ := (lookUpStop_single single).mp lookUp
        exact (lookUpStop_single single).mpr
          ⟨embeddings, mask, perLayer, runs, covers.enough enough⟩
      · exact inductionHypothesis (update_still _ stillCreated)
          (fun other member => singles other (List.mem_cons_of_mem _ member))
          (covers.afterSingle enough) goesOn.2

/-- Groups that go on do so with more buffers created, and also when the pending token was
lost. -/
theorem groupsStop_goesOn {isPending laterPending : Bool} (alike : SinglesAlike groups)
    (stillCreated : ∀ other, isCreated other = true → laterCreated other = true)
    (stillPending : laterPending = true → isPending = true)
    (goesOn : groupsStop floats isCreated isPending lookups groups = none) :
    groupsStop floats laterCreated laterPending lookups groups = none := by
  by_cases lost : isPending = true ∧ laterPending = false
  · rw [lost.1] at goesOn
    rw [lost.2]
    cases groups with
    | nil => rfl
    | cons group rest =>
        rw [groupsStop_cons_eq_none] at goesOn ⊢
        constructor
        · exact groupStop_goesOn goesOn.1 (stillCreated _)
            (fun isTrue => absurd isTrue Bool.false_ne_true) (fun _ lookUp => lookUp)
        · by_cases single : group.ids.length = 1
          · obtain ⟨id, isSingle⟩ := List.length_eq_one_iff.mp single
            have enough :=
              ((lookUpStop_single isSingle).mp (lookUpStop_of_groupStop goesOn.1)).2.2.2.2
            have noCalls : groupCalls false group.ids = [] := by
              rw [isSingle]
              rfl
            rw [groupCalls_single isSingle] at goesOn
            rw [noCalls]
            exact groupsStop_singles (update_still _ stillCreated)
              (alike group rest rfl single) (covers_afterSingle enough) goesOn.2
          · have sameCalls : groupCalls false group.ids = groupCalls true group.ids := by
              rw [groupCalls, groupCalls]
              cases group.ids.getLast? with
              | none => rfl
              | some last =>
                  dsimp only
                  rw [if_neg fun early => single early.2,
                    if_neg fun early => Bool.false_ne_true early.1.symm]
            rw [sameCalls]
            exact groupsStop_created (update_still _ stillCreated) goesOn.2
  · have same : laterPending = isPending := by
      cases isPending <;> cases laterPending <;> simp_all
    rw [same]
    exact groupsStop_created stillCreated goesOn

end GoesOn

/-! ## With and without the failed prefills -/

/-- An executor follows another one that made fewer calls: what the other has, it has as
well, and it has no pending token of its own. -/
structure Follows (reference executor : PrefillExecutor Scalar) : Prop where
  soundReference : Sound reference
  sound : Sound executor
  sameModel : SameModel reference executor
  reduces : executor.ranDecode = true → reference.ranDecode = true
  pending : executor.isPending = true → reference.isPending = true
  created : ∀ prefillSignature, reference.isCreated prefillSignature = true →
    executor.isCreated prefillSignature = true

variable {reference executor after : PrefillExecutor Scalar} {call : Call Scalar}

theorem Follows.refl (sound : Sound executor) : Follows executor executor :=
  ⟨sound, sound, .refl _, id, id, fun _ => id⟩

theorem SameModel.floats {before after : PrefillExecutor Scalar} (same : SameModel before after) :
    after.embeddingLookup.getFloatsPerToken = before.embeddingLookup.getFloatsPerToken := by
  rw [same.embeddingLookup]
  rfl

theorem SameModel.symm {before after : PrefillExecutor Scalar} (same : SameModel before after) :
    SameModel after before := by
  refine ⟨same.prefillSignatureMap.symm, same.outputBatchSize.symm, ?_⟩
  rw [same.embeddingLookup]
  rfl

theorem SameModel.shaped {before after : PrefillExecutor Scalar} (same : SameModel before after)
    (shaped : call.Shaped before) : call.Shaped after := by
  rw [Call.Shaped, same.prefillSignatureMap, same.embeddingLookup]
  exact shaped

/-- A call that goes on there goes on here. -/
theorem Follows.goesOn (follows : Follows reference executor) (shaped : call.Shaped reference)
    (goesOn : callStop reference call = none) : callStop executor call = none := by
  unfold callStop at goesOn ⊢
  rw [follows.sameModel.outputBatchSize, follows.sameModel.prefillSignatureMap,
    follows.sameModel.floats]
  split at goesOn
  · cases goesOn
  · rename_i reduces
    have stillReduces : ¬(executor.Reduces ∧ ¬call.copyKvCacheBuffers.isOk) := by
      intro fails
      apply reduces
      refine ⟨⟨follows.reduces fails.1.1, ?_⟩, fails.2⟩
      rw [← follows.sameModel.outputBatchSize]
      exact fails.1.2
    rw [if_neg stillReduces]
    split at goesOn
    · cases goesOn
    · rename_i accepted
      rw [if_neg accepted]
      split at goesOn
      · cases goesOn
      · rename_i refers
        rw [if_neg refers]
        have isAccepted := not_not.mp (not_or.mp accepted).1
        obtain ⟨groups, areGroups, -, alike, -⟩ := call.workGroups_fit
          follows.soundReference.signatures follows.soundReference.lengths shaped isAccepted
        rw [areGroups] at goesOn ⊢
        exact groupsStop_goesOn alike follows.created follows.pending goesOn

variable [Zero Scalar]

/-! ## Runs -/

/-- The call returns without an error. -/
def completes (rawId : Int → Scalar) (executor : PrefillExecutor Scalar) (call : Call Scalar) :
    Bool :=
  match prefill rawId call executor with
  | .ok _ _ => true
  | .error _ _ => false

/-- The executor after calls, whether they fail or not. -/
def afterRun (rawId : Int → Scalar) (executor : PrefillExecutor Scalar)
    (calls : List (Call Scalar)) : PrefillExecutor Scalar :=
  calls.foldl (fun state call => finalState (prefill rawId call) state) executor

/-- The calls of a run that did not fail. -/
def completedCalls (rawId : Int → Scalar) :
    PrefillExecutor Scalar → List (Call Scalar) → List (Call Scalar)
  | _, [] => []
  | executor, call :: rest =>
      let others := completedCalls rawId (finalState (prefill rawId call) executor) rest
      if completes rawId executor call then call :: others else others

/-- All calls of a run return without an error. -/
def AllComplete (rawId : Int → Scalar) : PrefillExecutor Scalar → List (Call Scalar) → Prop
  | _, [] => True
  | executor, call :: rest =>
      completes rawId executor call = true ∧
        AllComplete rawId (finalState (prefill rawId call) executor) rest

/-- A call stops harmlessly: not while it creates buffers, without a lookup left, and with a
pending token only where one waits anyhow. -/
def Harmless (isWaiting : Bool) : Option (Stop Scalar) → Prop
  | none => True
  | some .creating => False
  | some (.leaving left isPending) => left = [] ∧ (isPending = true → isWaiting = true)

/-- All calls of a run that stop do so harmlessly. A token waits anyhow when one did at the
start, or when an earlier call was completed. -/
def StopHarmlessly (rawId : Int → Scalar) :
    Bool → PrefillExecutor Scalar → List (Call Scalar) → Prop
  | _, _, [] => True
  | isWaiting, executor, call :: rest =>
      Harmless isWaiting (callStop executor call) ∧
        StopHarmlessly rawId (isWaiting || (callStop executor call).isNone)
          (finalState (prefill rawId call) executor) rest

/-- The lookups from which the call reads rows hold the embeddings it supplies itself. -/
def ReadsOwnRows (executor : PrefillExecutor Scalar) (call : Call Scalar) : Prop :=
  ∀ manager, Succeeds (updateCreatedEmbeddings call) executor.embeddingLookup () manager →
    manager.multiModalEmbeddingLookups = call.ownLookups

/-! ## The invariant -/

/-- A call returns exactly when it does not stop. -/
theorem completes_iff (rawId : Int → Scalar) (sound : Sound executor)
    (shaped : call.Shaped executor) :
    completes rawId executor call = true ↔ callStop executor call = none := by
  have ends := prefill_ends rawId call sound shaped
  unfold Ends at ends
  unfold completes
  cases outcome : prefill rawId call executor with
  | ok prefilled after =>
      rw [outcome] at ends
      exact ⟨fun _ => ends.1, fun _ => rfl⟩
  | error status after =>
      rw [outcome] at ends
      obtain ⟨stop, stops, -⟩ := ends
      rw [stops]
      exact ⟨fun impossible => absurd impossible Bool.false_ne_true,
        fun impossible => by cases impossible⟩

/-- What a call that does not stop leaves. -/
theorem succeeded_of_callStop (rawId : Int → Scalar) (sound : Sound executor)
    (shaped : call.Shaped executor) (goesOn : callStop executor call = none) :
    ∃ groups, call.workGroups executor.prefillSignatureMap = some (groups, []) ∧
      Succeeded executor (finalState (prefill rawId call) executor) groups := by
  have ends := prefill_ends rawId call sound shaped
  unfold Ends at ends
  unfold finalState
  cases outcome : prefill rawId call executor with
  | ok prefilled after =>
      rw [outcome] at ends
      exact ends.2
  | error status after =>
      rw [outcome] at ends
      obtain ⟨stop, stops, -⟩ := ends
      rw [goesOn] at stops
      cases stops

theorem stopLeaves_of_callStop (rawId : Int → Scalar) (sound : Sound executor)
    (shaped : call.Shaped executor) {stop : Stop Scalar}
    (stops : callStop executor call = some stop) :
    StopLeaves executor (finalState (prefill rawId call) executor) stop := by
  have ends := prefill_ends rawId call sound shaped
  unfold Ends at ends
  unfold finalState
  cases outcome : prefill rawId call executor with
  | ok prefilled after =>
      rw [outcome, stops] at ends
      cases ends.1
  | error status after =>
      rw [outcome] at ends
      obtain ⟨other, isOther, leaves⟩ := ends
      rw [stops] at isOther
      cases isOther
      exact leaves

/-- A harmless stop leaves the executor as between two calls. -/
theorem sound_of_harmless (rawId : Int → Scalar) (sound : Sound executor)
    (shaped : call.Shaped executor) {isWaiting : Bool}
    (harmless : Harmless isWaiting (callStop executor call)) :
    Sound (finalState (prefill rawId call) executor) ∧
      SameModel executor (finalState (prefill rawId call) executor) := by
  cases stops : callStop executor call with
  | none =>
      obtain ⟨groups, -, succeeded⟩ := succeeded_of_callStop rawId sound shaped stops
      exact ⟨succeeded.sound, succeeded.sameModel⟩
  | some stop =>
      have leaves := stopLeaves_of_callStop rawId sound shaped stops
      rw [stops] at harmless
      cases stop with
      | creating => exact harmless.elim
      | leaving left isPending => exact ⟨leaves.2.2.2.1 harmless.1, leaves.1⟩

/-- A call that is not made there and stops harmlessly here. -/
theorem Follows.stopped (follows : Follows reference executor) (rawId : Int → Scalar)
    (shaped : call.Shaped executor) {isWaiting : Bool}
    (waits : isWaiting = true → reference.isPending = true) {stop : Stop Scalar}
    (stops : callStop executor call = some stop) (harmless : Harmless isWaiting (some stop)) :
    Follows reference (finalState (prefill rawId call) executor) := by
  have leaves := stopLeaves_of_callStop rawId follows.sound shaped stops
  cases stop with
  | creating => exact harmless.elim
  | leaving left isPending =>
      obtain ⟨sameModel, prefilling, pending, sound, created⟩ := leaves
      refine ⟨follows.soundReference, sound harmless.1, follows.sameModel.trans sameModel,
        fun ranDecode => ?_, fun isPendingAfter => ?_, fun prefillSignature isCreated => ?_⟩
      · rw [prefilling] at ranDecode
        exact absurd ranDecode Bool.false_ne_true
      · rw [pending] at isPendingAfter
        exact waits (harmless.2 isPendingAfter)
      · exact created _ (follows.created _ isCreated)

/-- A call that goes on there and here. -/
theorem Follows.completed (follows : Follows reference executor) (rawId : Int → Scalar)
    (shaped : call.Shaped reference) (goesOn : callStop reference call = none) :
    Follows (finalState (prefill rawId call) reference)
      (finalState (prefill rawId call) executor) := by
  obtain ⟨groups, areGroups, there⟩ :=
    succeeded_of_callStop rawId follows.soundReference shaped goesOn
  obtain ⟨others, areOthers, here⟩ := succeeded_of_callStop rawId follows.sound
    (follows.sameModel.shaped shaped) (follows.goesOn shaped goesOn)
  rw [follows.sameModel.prefillSignatureMap, areGroups] at areOthers
  cases areOthers
  have sameModel := (there.sameModel.symm.trans follows.sameModel).trans here.sameModel
  refine ⟨there.sound, here.sound, sameModel, fun ranDecode => ?_,
    fun _ => there.isPending, fun prefillSignature isCreated => ?_⟩
  · rw [here.prefilling] at ranDecode
    exact absurd ranDecode Bool.false_ne_true
  · rw [here.created]
    exact ((there.created _).mp isCreated).imp_left (follows.created _)

theorem sound_afterRun (rawId : Int → Scalar) {calls : List (Call Scalar)} {isWaiting : Bool}
    (sound : Sound executor) (shaped : ∀ call ∈ calls, call.Shaped executor)
    (harmless : StopHarmlessly rawId isWaiting executor calls) :
    Sound (afterRun rawId executor calls) ∧
      SameModel executor (afterRun rawId executor calls) := by
  induction calls generalizing executor isWaiting with
  | nil => exact ⟨sound, .refl executor⟩
  | cons call rest inductionHypothesis =>
      obtain ⟨soundAfter, sameAfter⟩ :=
        sound_of_harmless rawId sound (shaped call List.mem_cons_self) harmless.1
      obtain ⟨soundRest, sameRest⟩ := inductionHypothesis soundAfter
        (fun other member => sameAfter.shaped (shaped other (List.mem_cons_of_mem _ member)))
        harmless.2
      exact ⟨soundRest, sameAfter.trans sameRest⟩

/-- After a run whose calls stop harmlessly the executor follows one that made the
completed calls only. -/
theorem follows_afterRun (rawId : Int → Scalar) {calls : List (Call Scalar)} {isWaiting : Bool}
    (follows : Follows reference executor) (waits : isWaiting = true → reference.isPending = true)
    (shaped : ∀ call ∈ calls, call.Shaped reference)
    (harmless : StopHarmlessly rawId isWaiting executor calls)
    (allComplete : AllComplete rawId reference (completedCalls rawId executor calls)) :
    Follows (afterRun rawId reference (completedCalls rawId executor calls))
      (afterRun rawId executor calls) := by
  induction calls generalizing reference executor isWaiting with
  | nil => exact follows
  | cons call rest inductionHypothesis =>
      have shapedThere := shaped call List.mem_cons_self
      have shapedHere := follows.sameModel.shaped shapedThere
      have shapedRest : ∀ other ∈ rest, other.Shaped reference :=
        fun other member => shaped other (List.mem_cons_of_mem _ member)
      have returns := completes_iff rawId follows.sound shapedHere
      rw [completedCalls] at allComplete ⊢
      cases stops : callStop executor call with
      | none =>
          rw [StopHarmlessly, stops] at harmless
          rw [returns.mpr stops, if_pos rfl] at allComplete ⊢
          have goesOn := (completes_iff rawId follows.soundReference shapedThere).mp allComplete.1
          obtain ⟨groups, -, there⟩ :=
            succeeded_of_callStop rawId follows.soundReference shapedThere goesOn
          exact inductionHypothesis (follows.completed rawId shapedThere goesOn)
            (fun _ => there.isPending)
            (fun other member => there.sameModel.shaped (shapedRest other member))
            harmless.2 allComplete.2
      | some stop =>
          have fails : ¬completes rawId executor call = true := by
            rw [returns, stops]
            exact fun impossible => by cases impossible
          rw [StopHarmlessly, stops, Option.isNone_some, Bool.or_false] at harmless
          rw [if_neg fails] at allComplete ⊢
          exact inductionHypothesis
            (follows.stopped rawId shapedHere waits stops harmless.1) waits shapedRest
            harmless.2 allComplete

/-- An executor with one signature of three ids. -/
def oneNumberExecutor : PrefillExecutor Int where
  prefillSignatureMap := ⟨[(3, "prefill_3")], by decide⟩
  outputBatchSize := 1
  ranDecode := false
  currentStep := 0
  processedTokens := .initial
  embeddingLookup := oneNumberManager
  prefillInputBuffers := fun _ => none

/-- Outcomes without an error, but for the run. -/
def outcomesWithRun (compiledModelRun : StatusOr Unit) : GroupOutcomes Int where
  createPrefillInputBuffers := .ok ()
  emptyBuffers := .internalError "empty"
  inputPositions := .ok ()
  fillInputBuffer := .ok ()
  inputEmbeddings := .ok ()
  fillAttentionMask := .ok ()
  perLayerEmbedding := .ok []
  compiledModelRun := compiledModelRun

def promptCall (tokenIds : List Int) (image : Option (List Int))
    (compiledModelRun : StatusOr Unit) : Call Int where
  inputBatchSize := 1
  tokenIds := tokenIds
  vision := image.map .ok
  audio := none
  copyKvCacheBuffers := .ok ()
  referTokenIds := .ok ()
  input := fun _ => oneNumberInput 3
  outcomes := fun _ => outcomesWithRun compiledModelRun

/-- A prefill with an image whose run fails. -/
def failedCall : Call Int := promptCall [5, 6] (some [71]) (.error (.internalError "run"))

theorem oneNumberExecutor_sound : Sound oneNumberExecutor where
  multiModal := oneNumberManager_multiModal
  noLookups := rfl
  single := fun _ => rfl
  pendingFits := fun token isPending => by cases isPending
  created := fun _ => by simp [oneNumberExecutor]
  signatures := by simp [oneNumberExecutor]
  lengths := by simp [oneNumberExecutor]

theorem promptCall_shaped (tokenIds : List Int) (image : Option (List Int))
    (compiledModelRun : StatusOr Unit) :
    (promptCall tokenIds image compiledModelRun).Shaped oneNumberExecutor := by
  intro entry member
  rw [List.mem_singleton.mp member]
  exact ⟨rfl, rfl, by decide, rfl, rfl, rfl, rfl⟩

/-- A prefill without embeddings whose positions cannot be locked. -/
def unlockedCall : Call Int :=
  { promptCall [5, 6] none (.ok ()) with
    outcomes := fun _ => { outcomesWithRun (.ok ()) with
      inputPositions := .error (.internalError "lock") } }

end LiteRTLM.Executor.FalliblePrefill
