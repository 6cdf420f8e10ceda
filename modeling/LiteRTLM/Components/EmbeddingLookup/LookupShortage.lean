import LiteRTLM.Components.EmbeddingLookup.MultiModalOrder
import LiteRTLM.Library.Frames

/-!
Contract: lookups that ask for more multimodal rows than are left.

Owns: the calls a prefill makes on a manager, what a call asks of a lookup, what is left
of the lookups after it, and that a call fails exactly when it asks one of them for more
than is left. A call that fails removes none of them.

Does not own: the rows a call writes, and which calls a prefill makes.
-/

namespace LiteRTLM.Components.EmbeddingLookup

open LiteRTLM.Engine
open LiteRTLM.Library
open LiteRTLM.Library.ByteImage
open LiteRTLM.Library.Blocks

variable {Scalar : Type}

/-! ## One lookup -/

namespace EmbeddingLookupMultiModal

/-- A result without a value. -/
def Refused {Output : Type}
    (result : EStateM.Result Status (EmbeddingLookupMultiModal Scalar) Output) : Prop :=
  ∃ status after, result = .error status after

theorem takeEmbedding_refused {floats : Nat} {lookup : EmbeddingLookupMultiModal Scalar}
    (short : lookup.embedding.length < floats) : Refused (takeEmbedding floats lookup) := by
  unfold takeEmbedding
  simp only [bind, EStateM.bind, get, getThe, MonadStateOf.get, EStateM.get, if_pos short]
  exact ⟨_, _, rfl⟩

/-- A span with more special tokens than rows is refused. -/
theorem takeEmbeddings_refused {floats : Nat} {lookup : EmbeddingLookupMultiModal Scalar}
    {tokens : List Int}
    (short : lookup.embedding.length < tokens.count lookup.specialToken * floats) :
    Refused (takeEmbeddings floats tokens lookup) := by
  induction tokens generalizing lookup with
  | nil => simp at short
  | cons token rest inductionHypothesis =>
      by_cases special : token = lookup.specialToken
      · by_cases room : floats ≤ lookup.embedding.length
        · -- the first row is there; one of the others is missing
          have taken := takeEmbedding_eq room
          rw [← special, List.count_cons_self, Nat.succ_mul] at short
          obtain ⟨status, after, refused⟩ := @inductionHypothesis
            { lookup with embedding := lookup.embedding.drop floats } (by
              rw [List.length_drop, ← special]
              omega)
          refine ⟨status, after, ?_⟩
          simp only [takeEmbeddings, bind, EStateM.bind, get, getThe, MonadStateOf.get, EStateM.get,
            if_pos special, taken, refused]
        · obtain ⟨status, after, refused⟩ := takeEmbedding_refused (Nat.lt_of_not_le room)
          refine ⟨status, after, ?_⟩
          simp only [takeEmbeddings, bind, EStateM.bind, get, getThe, MonadStateOf.get, EStateM.get,
            if_pos special, refused]
      · rw [List.count_cons_of_ne special] at short
        obtain ⟨status, after, refused⟩ := inductionHypothesis short
        refine ⟨status, after, ?_⟩
        simp only [takeEmbeddings, bind, EStateM.bind, get, getThe, MonadStateOf.get, EStateM.get,
          if_neg special, refused]

theorem lookupPrefillSpan_refused [Zero Scalar] {tokens : List Int} {offset : Nat}
    {output : OutputTensor Scalar} {lookup : EmbeddingLookupMultiModal Scalar}
    (short : lookup.embedding.length <
      tokens.count lookup.specialToken * EmbeddingLookup.floatsPerToken output.dimensions) :
    Refused (lookupPrefillSpan tokens offset output lookup) := by
  unfold lookupPrefillSpan
  cases checkOutput tokens.length offset output with
  | error status => exact ⟨status, lookup, rfl⟩
  | ok checked =>
      obtain ⟨status, after, refused⟩ := takeEmbeddings_refused short
      refine ⟨status, after, ?_⟩
      simp only [bind, EStateM.bind, refused]

theorem lookupPrefillToken_refused {token : Int} {outputVector : List Scalar}
    {lookup : EmbeddingLookupMultiModal Scalar}
    (short : lookup.embedding.length < [token].count lookup.specialToken * outputVector.length) :
    Refused (lookupPrefillToken token outputVector lookup) := by
  have special : token = lookup.specialToken := by
    by_contra other
    rw [List.count_singleton, beq_eq_false_iff_ne.mpr other] at short
    simp at short
  rw [special, List.count_singleton_self, Nat.one_mul] at short
  obtain ⟨status, after, refused⟩ := takeEmbedding_refused short
  refine ⟨status, after, ?_⟩
  unfold lookupPrefillToken
  simp only [bind, EStateM.bind, get, getThe, MonadStateOf.get, EStateM.get, special, ne_eq,
    not_true, if_false, refused]

end EmbeddingLookupMultiModal

namespace EmbeddingLookupManager

open EmbeddingLookupMultiModal

/-! ## All lookups -/

/-- A lookup has fewer numbers left than its special tokens among these need. -/
def ShortOf (floats : Nat) (tokens : List Int) (lookup : EmbeddingLookupMultiModal Scalar) : Prop :=
  lookup.embedding.length < tokens.count lookup.specialToken * floats

/-- Lookups of different special tokens, none of which is a text token. -/
structure Apart (lookups : List (EmbeddingLookupMultiModal Scalar)) : Prop where
  different : (lookups.map (·.specialToken)).Nodup
  negative : ∀ lookup ∈ lookups, lookup.specialToken < 0

variable {lookups : List (EmbeddingLookupMultiModal Scalar)}

theorem Apart.advance (apart : Apart lookups) (floats : Nat) (tokens : List Int) :
    Apart (lookups.map (advance floats tokens)) := by
  constructor
  · rw [List.map_map]
    exact apart.different
  · intro lookup member
    obtain ⟨old, oldMember, rfl⟩ := List.mem_map.mp member
    exact apart.negative old oldMember

theorem Apart.filter (apart : Apart lookups)
    (kept : EmbeddingLookupMultiModal Scalar → Bool) : Apart (lookups.filter kept) := by
  constructor
  · exact apart.different.sublist (List.Sublist.map _ List.filter_sublist)
  · intro lookup member
    exact apart.negative lookup (List.mem_filter.mp member).1

/-- No lookup stands for a text token. -/
theorem Apart.count_text (apart : Apart lookups) {token : Int} (isText : token ≥ 0)
    {lookup : EmbeddingLookupMultiModal Scalar} (member : lookup ∈ lookups) :
    [token].count lookup.specialToken = 0 := by
  have negative := apart.negative lookup member
  apply List.count_eq_zero_of_not_mem
  rw [List.mem_singleton]
  omega

/-- A text token uses up no row. -/
theorem Apart.advance_text (apart : Apart lookups) (floats : Nat) {token : Int}
    (isText : token ≥ 0) :
    lookups.map (EmbeddingLookupManager.advance floats [token]) = lookups := by
  apply List.map_congr_left (g := id) _ |>.trans (List.map_id _)
  intro lookup member
  rw [EmbeddingLookupManager.advance, apart.count_text isText member, Nat.zero_mul,
    List.drop_zero]
  rfl

/-- A call that a lookup refuses is refused by the manager: it reaches that lookup or
an earlier one that refuses. -/
theorem askEach_refused {Output : Type} (sizedOutput : Output → Prop)
    {ask : Output → EmbeddingLookupMultiModal.LookupM Scalar Output}
    (isShort : EmbeddingLookupMultiModal Scalar → Prop)
    (refuses : ∀ output lookup, sizedOutput output → isShort lookup → Refused (ask output lookup))
    (answers : ∀ output lookup, sizedOutput output → ¬isShort lookup →
      ∃ written after, ask output lookup = .ok written after ∧ sizedOutput written)
    (short : ∃ lookup ∈ lookups, isShort lookup) {output : Output} (sized : sizedOutput output) :
    ∃ status, (askEach ask lookups output).2 = .error status := by
  induction lookups generalizing output with
  | nil =>
      obtain ⟨lookup, member, -⟩ := short
      cases member
  | cons lookup others inductionHypothesis =>
      by_cases here : isShort lookup
      · obtain ⟨status, after, refused⟩ := refuses output lookup sized here
        refine ⟨status, ?_⟩
        rw [askEach, refused]
      · obtain ⟨written, after, answered, writtenSized⟩ := answers output lookup sized here
        have later : ∃ other ∈ others, isShort other := by
          obtain ⟨other, member, isShort⟩ := short
          rcases List.mem_cons.mp member with rfl | isLater
          · exact absurd isShort here
          · exact ⟨other, isLater, isShort⟩
        obtain ⟨status, refused⟩ := inductionHypothesis later writtenSized
        refine ⟨status, ?_⟩
        rw [askEach, answered]
        exact refused

/-- Asking a manager one of whose lookups refuses ends with an error. -/
theorem ends_askMultiModal_refused {Output : Type} {manager : EmbeddingLookupManager Scalar}
    {ask : Output → EmbeddingLookupMultiModal.LookupM Scalar Output} {output : Output}
    {status : Status} (refused :
      (askEach ask manager.multiModalEmbeddingLookups output).2 = .error status) :
    Ends (askMultiModal ask output) manager (fun _ _ => False) (fun _ _ => True) := by
  rw [askMultiModal, ends_bind, ends_get, ends_bind, ends_modify, refused]
  exact trivial

/-! ## One call -/

variable {manager : EmbeddingLookupManager Scalar} {tokens : List Int}

/-- Whether a call fails is decided by `short`; one that succeeds leaves `after`. -/
def Answers {α : Type} (program : ManagerM Scalar α) (manager : EmbeddingLookupManager Scalar)
    (short : Prop) (value : α → Prop) (after : List (EmbeddingLookupMultiModal Scalar)) : Prop :=
  Ends program manager
    (fun returned final => ¬short ∧ value returned ∧
      final = { manager with multiModalEmbeddingLookups := after })
    (fun _ _ => short)

theorem Answers.of_succeeds {α : Type} {program : ManagerM Scalar α} {short : Prop}
    {value : α → Prop} {after : List (EmbeddingLookupMultiModal Scalar)} {returned : α}
    (enough : ¬short) (holds : value returned)
    (succeeds : Succeeds program manager returned
      { manager with multiModalEmbeddingLookups := after }) :
    Answers program manager short value after := by
  unfold Succeeds at succeeds
  unfold Answers Ends
  rw [succeeds]
  exact ⟨enough, holds, rfl⟩

theorem answers_pure {α : Type} {value : α → Prop} {returned : α} (holds : value returned) :
    Answers (pure returned) manager False value manager.multiModalEmbeddingLookups :=
  ⟨id, holds, rfl⟩

/-- One call after another: the second meets what the first left. -/
theorem Answers.bind {α β : Type} {program : ManagerM Scalar α} {rest : α → ManagerM Scalar β}
    {short shortRest : Prop} {value : α → Prop} {valueRest : β → Prop}
    {between after : List (EmbeddingLookupMultiModal Scalar)}
    (first : Answers program manager short value between)
    (second : ∀ returned, value returned → Answers (rest returned)
      { manager with multiModalEmbeddingLookups := between } shortRest valueRest after) :
    Answers (program >>= rest) manager (short ∨ shortRest) valueRest after := by
  rw [Answers, ends_bind]
  apply first.mono
  · intro returned final ⟨enough, holds, isFinal⟩
    rw [isFinal]
    apply (second returned holds).mono
    · intro returnedRest _ ⟨enoughRest, holdsRest, isAfter⟩
      exact ⟨not_or.mpr ⟨enough, enoughRest⟩, holdsRest, isAfter⟩
    · intro _ _ failed
      exact .inr failed
  · intro _ _ failed
    exact .inl failed

/-- A call whose result is only passed on. -/
theorem Answers.map {α β : Type} {program : ManagerM Scalar α} {transform : α → β} {short : Prop}
    {value : α → Prop} {valueMapped : β → Prop} {after : List (EmbeddingLookupMultiModal Scalar)}
    (answers : Answers program manager short value after)
    (maps : ∀ returned, value returned → valueMapped (transform returned)) :
    Answers (program >>= fun returned => pure (transform returned)) manager short valueMapped
      after := by
  rw [Answers, ends_bind]
  apply answers.mono
  · intro returned final ⟨enough, holds, isFinal⟩
    exact ⟨enough, maps returned holds, isFinal⟩
  · intro _ _ failed
    exact failed

theorem not_shortOf {floats : Nat}
    (enough : ¬∃ lookup ∈ lookups, ShortOf floats tokens lookup)
    (lookup : EmbeddingLookupMultiModal Scalar) (member : lookup ∈ lookups) :
    tokens.count lookup.specialToken * floats ≤ lookup.embedding.length := by
  apply Nat.le_of_not_lt
  intro short
  exact enough ⟨lookup, member, short⟩

variable [Zero Scalar]

/-- A span fails when a lookup is short of rows for it; otherwise the lookups advance,
and those used up are removed. -/
theorem lookupPrefillSpan_answers {output : OutputTensor Scalar} {first rows : Nat}
    (multiModal : FullyMultiModal manager) (apart : Apart manager.multiModalEmbeddingLookups)
    (conforms : output.Conforms manager.textEmbeddingLookup.outputDimensions rows)
    (fits : first + tokens.length ≤ rows) :
    Answers (lookupPrefillSpan tokens output first) manager
      (∃ lookup ∈ manager.multiModalEmbeddingLookups,
        ShortOf manager.getFloatsPerToken tokens lookup)
      (fun written => written.Conforms manager.textEmbeddingLookup.outputDimensions rows)
      ((manager.multiModalEmbeddingLookups.map (EmbeddingLookupManager.advance
        manager.getFloatsPerToken tokens)).filter hasRemainingEmbeddings) := by
  by_cases short : ∃ lookup ∈ manager.multiModalEmbeddingLookups,
      ShortOf manager.getFloatsPerToken tokens lookup
  · obtain ⟨text, texts, textConforms, -⟩ :=
      manager.textEmbeddingLookup.lookupPrefillSpan_ok conforms fits
    obtain ⟨status, refused⟩ : ∃ status, (askEach
        (EmbeddingLookupMultiModal.lookupPrefillSpan tokens (first * manager.getFloatsPerToken))
        manager.multiModalEmbeddingLookups text).2 = .error status := by
      apply askEach_refused (fun output : OutputTensor Scalar =>
        output.Conforms manager.textEmbeddingLookup.outputDimensions rows)
        (ShortOf manager.getFloatsPerToken tokens) _ _ short textConforms
      · intro output lookup outputConforms isShort
        apply lookupPrefillSpan_refused
        rw [outputConforms.floatsPerToken_eq]
        exact isShort
      · intro output lookup outputConforms enough
        obtain ⟨written, asked, writtenConforms, -⟩ :=
          EmbeddingLookupMultiModal.lookupPrefillSpan_ok outputConforms fits
            (Nat.le_of_not_lt enough)
        exact ⟨written, _, asked, writtenConforms⟩
    unfold Answers EmbeddingLookupManager.lookupPrefillSpan
    rw [ends_bind, ends_get, ends_bind, getFloatsPerToken, texts, returnIfError_ok, ends_pure,
      if_pos multiModal.supports, ends_bind]
    apply (ends_askMultiModal_refused refused).mono
    · intro _ _ impossible
      exact impossible.elim
    · intro _ _ _
      exact short
  · obtain ⟨text, written, -, succeeds, writtenConforms, -⟩ :=
      succeeds_lookupPrefillSpan multiModal apart.different (not_shortOf short) conforms fits
    exact .of_succeeds short writtenConforms succeeds

/-- A single token fails when its lookup has no row left; otherwise the lookups
advance. -/
theorem lookupPrefillToken_answers (multiModal : FullyMultiModal manager)
    (apart : Apart manager.multiModalEmbeddingLookups) (token : Int) :
    Answers (lookupPrefillToken token) manager
      (∃ lookup ∈ manager.multiModalEmbeddingLookups,
        ShortOf manager.getFloatsPerToken [token] lookup)
      (fun written => written.length = manager.getFloatsPerToken)
      (manager.multiModalEmbeddingLookups.map (EmbeddingLookupManager.advance
        manager.getFloatsPerToken [token])) := by
  by_cases isText : token ≥ 0
  · have enough : ¬∃ lookup ∈ manager.multiModalEmbeddingLookups,
        ShortOf manager.getFloatsPerToken [token] lookup := by
      rintro ⟨lookup, member, short⟩
      rw [ShortOf, apart.count_text isText member] at short
      omega
    rw [apart.advance_text _ isText]
    exact .of_succeeds enough (manager.textEmbeddingLookup.lookupInternal_length token)
      (succeeds_lookupPrefillToken_text manager isText)
  · by_cases short : ∃ lookup ∈ manager.multiModalEmbeddingLookups,
        ShortOf manager.getFloatsPerToken [token] lookup
    · obtain ⟨status, refused⟩ : ∃ status, (askEach
          (EmbeddingLookupMultiModal.lookupPrefillToken token) manager.multiModalEmbeddingLookups
          (List.replicate manager.getFloatsPerToken (0 : Scalar))).2 = .error status := by
        apply askEach_refused (fun output : List Scalar =>
          output.length = manager.getFloatsPerToken)
          (ShortOf manager.getFloatsPerToken [token]) _ _ short List.length_replicate
        · intro output lookup sized isShort
          apply lookupPrefillToken_refused
          rw [sized]
          exact isShort
        · intro output lookup sized enough
          obtain ⟨written, asked, writtenSized, -⟩ :=
            lookupPrefillToken_ok token (Nat.le_of_not_lt enough) sized
          exact ⟨written, _, asked, writtenSized⟩
      unfold Answers EmbeddingLookupManager.lookupPrefillToken
      rw [ends_bind, ends_get, if_neg isText, if_pos multiModal.supports, ends_bind]
      apply (ends_askMultiModal_refused refused).mono
      · intro _ _ impossible
        exact impossible.elim
      · intro _ _ _
        exact short
    · obtain ⟨written, succeeds, sized, -⟩ := succeeds_lookupPrefillToken_special multiModal
        apart.different (not_shortOf short) isText
      exact .of_succeeds short sized succeeds

/-! ## What a failing call leaves -/

/-- A lookup keeps its special token. -/
abbrev KeepsToken {α : Type} (program : EmbeddingLookupMultiModal.LookupM Scalar α) : Prop :=
  ∀ lookup, Keeps (·.specialToken) program lookup

omit [Zero Scalar] in
theorem keepsToken_takeEmbedding (floats : Nat) :
    KeepsToken (takeEmbedding floats : EmbeddingLookupMultiModal.LookupM Scalar (List Scalar)) := by
  intro lookup
  apply Keeps.get_bind
  exact Keeps.ite (fun _ => keeps_throw _) (fun _ => rfl)

omit [Zero Scalar] in
theorem keepsToken_takeEmbeddings (floats : Nat) (tokens : List Int) :
    KeepsToken (takeEmbeddings floats tokens :
      EmbeddingLookupMultiModal.LookupM Scalar (List (Option (List Scalar)))) := by
  induction tokens with
  | nil => exact fun _ => keeps_pure _
  | cons token rest inductionHypothesis =>
      intro lookup
      apply Keeps.get_bind
      apply Keeps.ite
      · intro _
        apply (keepsToken_takeEmbedding floats lookup).bind
        intro row between
        exact (inductionHypothesis between).bind fun _ _ => keeps_pure _
      · intro _
        exact (inductionHypothesis lookup).bind fun _ _ => keeps_pure _

theorem keepsToken_lookupPrefillSpan (tokens : List Int) (offset : Nat)
    (output : OutputTensor Scalar) :
    KeepsToken (EmbeddingLookupMultiModal.lookupPrefillSpan tokens offset output) := by
  intro lookup
  unfold EmbeddingLookupMultiModal.lookupPrefillSpan
  cases checkOutput tokens.length offset output with
  | error status => exact keeps_throw _
  | ok checked => exact (keepsToken_takeEmbeddings _ tokens lookup).bind fun _ _ => keeps_pure _

omit [Zero Scalar] in
theorem keepsToken_lookupPrefillToken (token : Int) (outputVector : List Scalar) :
    KeepsToken (EmbeddingLookupMultiModal.lookupPrefillToken token outputVector) := by
  intro lookup
  apply Keeps.get_bind
  exact Keeps.ite (fun _ => keeps_pure _) (fun _ => keepsToken_takeEmbedding _ lookup)

/-- Lookups with the same special tokens as before, whatever is left of them. -/
def Remains (before after : EmbeddingLookupManager Scalar) : Prop :=
  ∃ left : List (EmbeddingLookupMultiModal Scalar),
    left.map (·.specialToken) = before.multiModalEmbeddingLookups.map (·.specialToken) ∧
      after = { before with multiModalEmbeddingLookups := left }

omit [Zero Scalar] in
theorem Remains.refl (manager : EmbeddingLookupManager Scalar) : Remains manager manager :=
  ⟨manager.multiModalEmbeddingLookups, rfl, rfl⟩

omit [Zero Scalar] in
theorem askEach_specialTokens {Output : Type}
    {ask : Output → EmbeddingLookupMultiModal.LookupM Scalar Output}
    (keeps : ∀ output, KeepsToken (ask output)) (output : Output) :
    (askEach ask lookups output).1.map (·.specialToken) = lookups.map (·.specialToken) := by
  induction lookups generalizing output with
  | nil => rfl
  | cons lookup rest inductionHypothesis =>
      have kept := keeps output lookup
      unfold Keeps finalState at kept
      rw [askEach]
      cases asked : ask output lookup with
      | error status after =>
          rw [asked] at kept
          dsimp only at kept
          rw [List.map_cons, List.map_cons, kept]
      | ok written after =>
          rw [asked] at kept
          dsimp only at kept
          rw [List.map_cons, List.map_cons, kept, inductionHypothesis]

omit [Zero Scalar] in
theorem ends_returnIfError {α : Type} (status : StatusOr α)
    {returned : α → EmbeddingLookupManager Scalar → Prop}
    {failed : Status → EmbeddingLookupManager Scalar → Prop} :
    Ends (EmbeddingLookupManager.returnIfError status) manager returned failed ↔
      (∀ value, status = .ok value → returned value manager) ∧
        ∀ error, status = .error error → failed error manager := by
  cases status with
  | ok value => simp
  | error error => simp [EmbeddingLookupManager.returnIfError]

omit [Zero Scalar] in
theorem askMultiModal_remains {Output : Type}
    {ask : Output → EmbeddingLookupMultiModal.LookupM Scalar Output}
    (keeps : ∀ output, KeepsToken (ask output)) (output : Output) :
    Ends (askMultiModal ask output) manager (fun _ => Remains manager)
      (fun _ => Remains manager) := by
  rw [askMultiModal, ends_bind, ends_get, ends_bind, ends_modify, ends_returnIfError]
  have remains : Remains manager { manager with
      multiModalEmbeddingLookups :=
        (askEach ask manager.multiModalEmbeddingLookups output).1 } :=
    ⟨_, askEach_specialTokens keeps output, rfl⟩
  exact ⟨fun _ _ => remains, fun _ _ => remains⟩

omit [Zero Scalar] in
theorem askEnds_remains {Output : Type} {before : EmbeddingLookupManager Scalar}
    (remains : Remains before manager)
    (ask : EndOfMultiModalEmbedding Scalar → Output → StatusOr Output) (output : Output) :
    Ends (askEnds ask output) manager (fun _ => Remains before) (fun _ => Remains before) := by
  rw [askEnds, ends_bind, ends_get, ends_returnIfError]
  exact ⟨fun _ _ => remains, fun _ _ => remains⟩

/-- A span that fails removes no lookup. -/
theorem lookupPrefillSpan_remains (output : OutputTensor Scalar) (first : Nat) :
    Ends (lookupPrefillSpan tokens output first) manager (fun _ _ => True)
      (fun _ => Remains manager) := by
  rw [EmbeddingLookupManager.lookupPrefillSpan, ends_bind, ends_get, ends_bind,
    ends_returnIfError]
  refine ⟨fun text _ => ?_, fun _ _ => .refl manager⟩
  rw [ends_ite]
  refine ⟨fun _ => ?_, fun _ => trivial⟩
  rw [ends_bind]
  apply (askMultiModal_remains (keepsToken_lookupPrefillSpan tokens _) text).mono
  · intro written between remains
    rw [ends_bind]
    exact (askEnds_remains remains _ written).mono (fun _ _ _ => trivial) (fun _ _ left => left)
  · exact fun _ _ left => left

/-- A single token that fails removes no lookup. -/
theorem lookupPrefillToken_remains (token : Int) :
    Ends (lookupPrefillToken token) manager (fun _ _ => True) (fun _ => Remains manager) := by
  rw [EmbeddingLookupManager.lookupPrefillToken, ends_bind, ends_get, ends_ite]
  refine ⟨fun _ => ?_, fun _ => ?_⟩
  · rw [ends_returnIfError]
    exact ⟨fun _ _ => trivial, fun _ _ => .refl manager⟩
  · rw [ends_ite]
    refine ⟨fun _ => ?_, fun _ => trivial⟩
    rw [ends_bind]
    apply (askMultiModal_remains (keepsToken_lookupPrefillToken token) _).mono
    · intro written between remains
      exact (askEnds_remains remains _ written).mono (fun _ _ _ => trivial) (fun _ _ left => left)
    · exact fun _ _ left => left

end EmbeddingLookupManager

end LiteRTLM.Components.EmbeddingLookup
