import LiteRTLM.Components.StopDetection
import LiteRTLM.Core.Tasks.CandidateTexts
import LiteRTLM.Library.HeldBack

/-!
Contract: the texts that one candidate emits for its tokens.

Owns: the complete groups of tokens that the tokenizer decodes, the run of one candidate over its
tokens, and which groups have been emitted before a stop sequence and at the end.

Does not own: the other candidates, and the loop of the decode.
-/

namespace LiteRTLM.Core.Tasks

open LiteRTLM.Components
open LiteRTLM.Components.BatchItem
open LiteRTLM.Engine
open LiteRTLM.Library
open LiteRTLM.Library.HeldBack
open LiteRTLM.Library.PrefixMatching
open LiteRTLM.Util

/-! ## Complete groups -/

/-- Tokens that the tokenizer decodes together: how many have been read at their end, and their
text. -/
structure TokenGroup where
  tokensRead : Nat
  text : Text
deriving DecidableEq, Repr

/-- The tokens read so far, in complete groups and an incomplete one. -/
structure Grouping where
  tokensRead : Nat
  incomplete : List Int
  groups : List TokenGroup

/-- One more token. -/
def Grouping.read (tokenizer : Tokenizer) (grouping : Grouping) (token : Int) : Grouping :=
  match tokenizer.tokenIdsToText (grouping.incomplete ++ [token]) with
  | .ok text =>
      ⟨grouping.tokensRead + 1, [], grouping.groups ++ [⟨grouping.tokensRead + 1, text⟩]⟩
  | .error _ => ⟨grouping.tokensRead + 1, grouping.incomplete ++ [token], grouping.groups⟩

def grouping (tokenizer : Tokenizer) (tokens : List Int) : Grouping :=
  tokens.foldl (Grouping.read tokenizer) ⟨0, [], []⟩

/-- The complete groups of a sequence of tokens. -/
def groups (tokenizer : Tokenizer) (tokens : List Int) : List TokenGroup :=
  (grouping tokenizer tokens).groups

/-- The decoded text of the complete groups of the tokens. -/
def completeText (tokenizer : Tokenizer) (tokens : List Int) : Text :=
  ((groups tokenizer tokens).map TokenGroup.text).flatten

/-! ## The run of one candidate -/

/-- What the stop token detector and the step keep for one candidate. -/
structure CandidateRun where
  item : BatchItem
  candidate : Candidate

/-- The candidate before its first token. -/
def CandidateRun.initial (stopSequences : List (List Int)) : CandidateRun :=
  ⟨BatchItem.initial stopSequences.length, Candidate.initial⟩

def CandidateRun.step (stopSequences : List (List Int)) (tokenizer : Tokenizer)
    (run : CandidateRun) (token : Int) : StatusOr CandidateRun := do
  let item := run.item.processToken stopSequences token
  let tokenIds := run.candidate.bpePartialTokenIds ++ [token]
  let candidate ← run.candidate.processDecoded tokenIds (tokenizer.tokenIdsToText tokenIds)
    item.stopTokenFound item.maxMatchProgress
  return ⟨item, candidate⟩

/-- The tokens of the candidate, one after the other: the texts it emitted and what is left. -/
inductive CandidateRuns (stopSequences : List (List Int)) (tokenizer : Tokenizer) :
    List Int → List Text → CandidateRun → Prop where
  | start : CandidateRuns stopSequences tokenizer [] [] (.initial stopSequences)
  | token {tokens : List Int} {texts : List Text} {run next : CandidateRun} {token : Int} :
      CandidateRuns stopSequences tokenizer tokens texts run →
      run.step stopSequences tokenizer token = .ok next →
      CandidateRuns stopSequences tokenizer (tokens ++ [token])
        (texts ++ [next.candidate.resultText]) next

/-! ## Groups -/

section Groups

variable (tokenizer : Tokenizer)

theorem grouping_concat (tokens : List Int) (token : Int) :
    grouping tokenizer (tokens ++ [token]) = (grouping tokenizer tokens).read tokenizer token := by
  simp [grouping]

theorem grouping_tokensRead (tokens : List Int) :
    (grouping tokenizer tokens).tokensRead = tokens.length := by
  induction tokens using List.reverseRecOn with
  | nil => rfl
  | append_singleton tokens token inductionHypothesis =>
      rw [grouping_concat, List.length_append, List.length_singleton, ← inductionHypothesis]
      unfold Grouping.read
      split <;> rfl

def completedGroup (tokens : List Int) (token : Int) : List TokenGroup :=
  match tokenizer.tokenIdsToText ((grouping tokenizer tokens).incomplete ++ [token]) with
  | .ok text => [⟨tokens.length + 1, text⟩]
  | .error _ => []

theorem groups_concat (tokens : List Int) (token : Int) :
    groups tokenizer (tokens ++ [token]) =
      groups tokenizer tokens ++ completedGroup tokenizer tokens token := by
  unfold groups completedGroup
  rw [grouping_concat, ← grouping_tokensRead tokenizer tokens, Grouping.read]
  split
  · rfl
  · exact (List.append_nil _).symm

/-- A group ends within the tokens. -/
theorem groups_tokensRead_le {tokens : List Int} {group : TokenGroup}
    (member : group ∈ groups tokenizer tokens) : group.tokensRead ≤ tokens.length := by
  induction tokens using List.reverseRecOn with
  | nil => cases member
  | append_singleton tokens token inductionHypothesis =>
      rw [groups_concat] at member
      rw [List.length_append, List.length_singleton]
      cases List.mem_append.mp member with
      | inl earlier => exact Nat.le_succ_of_le (inductionHypothesis earlier)
      | inr last =>
          unfold completedGroup at last
          split at last
          · rw [List.mem_singleton.mp last]
          · cases last

/-- The groups of the first tokens are the groups that end within them. -/
theorem groups_take (tokens : List Int) (count : Nat) :
    groups tokenizer (tokens.take count) =
      (groups tokenizer tokens).filter fun group => group.tokensRead ≤ count := by
  induction tokens using List.reverseRecOn with
  | nil => simp [groups, grouping]
  | append_singleton tokens token inductionHypothesis =>
      rw [groups_concat, List.filter_append, ← inductionHypothesis]
      by_cases inside : count ≤ tokens.length
      · rw [List.take_append_of_le_length inside]
        unfold completedGroup
        split
        · simp [Nat.lt_succ_of_le inside]
        · simp
      · have whole : (tokens ++ [token]).take count = tokens ++ [token] :=
          List.take_of_length_le (by rw [List.length_append, List.length_singleton]; omega)
        rw [whole, List.take_of_length_le (by omega), groups_concat]
        unfold completedGroup
        have ends : tokens.length + 1 ≤ count := by omega
        split
        · simp [ends]
        · simp

/-- The groups end one after the other. -/
theorem groups_sorted (tokens : List Int) :
    (groups tokenizer tokens).Pairwise fun first second =>
      first.tokensRead < second.tokensRead := by
  induction tokens using List.reverseRecOn with
  | nil => exact List.Pairwise.nil
  | append_singleton tokens token inductionHypothesis =>
      rw [groups_concat, List.pairwise_append]
      refine ⟨inductionHypothesis, ?_, ?_⟩
      · unfold completedGroup
        split
        · exact List.pairwise_singleton _ _
        · exact List.Pairwise.nil
      · intro first member second last
        have inside := groups_tokensRead_le tokenizer member
        unfold completedGroup at last
        split at last
        · rw [List.mem_singleton.mp last]
          exact Nat.lt_succ_of_le inside
        · cases last

end Groups

/-! ## Emitted texts -/

section Emitted

variable (stopSequences : List (List Int)) (tokenizer : Tokenizer)

/-- The partial lengths that the detector reports at the ends of the groups. -/
def reportedLengths (tokens : List Int) : List Nat :=
  (groups tokenizer tokens).map fun group =>
    (readStream stopSequences (tokens.take group.tokensRead)).maxMatchProgress

/-- How many groups a candidate that has not stopped has emitted. -/
def emittedCount (tokens : List Int) : Nat :=
  (groups tokenizer tokens).length - heldCount (reportedLengths stopSequences tokenizer tokens)

def groupTexts (tokens : List Int) : List Text :=
  (groups tokenizer tokens).map TokenGroup.text

/-- What a candidate that has not stopped has emitted, and what it keeps. -/
structure Follows (tokens : List Int) (texts : List Text) (run : CandidateRun) : Prop where
  item : run.item = readStream stopSequences tokens
  incomplete : run.candidate.bpePartialTokenIds = (grouping tokenizer tokens).incomplete
  pending : run.candidate.pendingStopTokens =
    (groupTexts tokenizer tokens).drop (emittedCount stopSequences tokenizer tokens)
  emitted : texts.flatten =
    ((groupTexts tokenizer tokens).take (emittedCount stopSequences tokenizer tokens)).flatten

/-- The loop that releases texts keeps the latest ones. -/
theorem releasePending_eq (maxLength : Nat) (pending : List Text) :
    Candidate.releasePending maxLength pending =
      ((pending.take (pending.length - maxLength)).flatten,
        pending.drop (pending.length - maxLength)) := by
  induction pending with
  | nil => simp [Candidate.releasePending]
  | cons front rest inductionHypothesis =>
      rw [Candidate.releasePending]
      by_cases more : (front :: rest).length > maxLength
      · rw [List.length_cons] at more
        have counted : (front :: rest).length - maxLength = rest.length - maxLength + 1 := by
          rw [List.length_cons]
          omega
        rw [if_pos (by rw [List.length_cons]; exact more), inductionHypothesis, counted,
          List.take_succ_cons, List.drop_succ_cons, List.flatten_cons]
      · have counted : (front :: rest).length - maxLength = 0 := by omega
        rw [if_neg more, counted]
        rfl

/-- A piece joins the texts that are held, and the oldest ones are released. -/
theorem addPiece_eq (candidate : Candidate) (maxLength : Nat) (piece : Text) :
    candidate.addPiece maxLength piece =
      { bpePartialTokenIds := []
        pendingStopTokens := (candidate.pendingStopTokens ++ [piece]).drop
          (candidate.pendingStopTokens.length + 1 - maxLength)
        resultText := ((candidate.pendingStopTokens ++ [piece]).take
          (candidate.pendingStopTokens.length + 1 - maxLength)).flatten } := by
  unfold Candidate.addPiece
  cases maxLength with
  | zero =>
      simp [releasePending_eq, List.take_of_length_le, List.drop_of_length_le]
  | succ maxLength =>
      simp [releasePending_eq]

theorem emittedCount_le (tokens : List Int) :
    emittedCount stopSequences tokenizer tokens ≤ (groupTexts tokenizer tokens).length := by
  rw [emittedCount, groupTexts, List.length_map]
  exact Nat.sub_le _ _

theorem reportedLengths_concat (tokens : List Int) (token : Int) :
    reportedLengths stopSequences tokenizer (tokens ++ [token]) =
      reportedLengths stopSequences tokenizer tokens ++
        (completedGroup tokenizer tokens token).map fun _ =>
          (readStream stopSequences (tokens ++ [token])).maxMatchProgress := by
  unfold reportedLengths
  rw [groups_concat, List.map_append]
  congr 1
  · apply List.map_congr_left
    intro group member
    rw [List.take_append_of_le_length (groups_tokensRead_le tokenizer member)]
  · unfold completedGroup
    split
    · simp [List.take_of_length_le]
    · rfl

variable {stopSequences tokenizer}

theorem follows_initial : Follows stopSequences tokenizer [] [] (.initial stopSequences) :=
  ⟨rfl, rfl, rfl, rfl⟩

/-- A token that does not complete a group emits nothing. -/
theorem Follows.incomplete_token {tokens : List Int} {texts : List Text}
    {run : CandidateRun} (follows : Follows stopSequences tokenizer tokens texts run)
    {token : Int} {status : Status}
    (isIncomplete : tokenizer.tokenIdsToText ((grouping tokenizer tokens).incomplete ++ [token]) =
      .error status) :
    Follows stopSequences tokenizer (tokens ++ [token]) (texts ++ [[]])
      ⟨readStream stopSequences (tokens ++ [token]),
        { run.candidate with
          resultText := []
          bpePartialTokenIds := (grouping tokenizer tokens).incomplete ++ [token] }⟩ := by
  have noGroup : completedGroup tokenizer tokens token = [] := by
    rw [completedGroup, isIncomplete]
  have sameTexts : groupTexts tokenizer (tokens ++ [token]) = groupTexts tokenizer tokens := by
    rw [groupTexts, groups_concat, noGroup, List.append_nil, groupTexts]
  have sameCount : emittedCount stopSequences tokenizer (tokens ++ [token]) =
      emittedCount stopSequences tokenizer tokens := by
    rw [emittedCount, reportedLengths_concat, noGroup, List.map_nil, List.append_nil,
      groups_concat, noGroup, List.append_nil, emittedCount]
  constructor
  · rfl
  · rw [grouping_concat, Grouping.read, isIncomplete]
  · rw [sameTexts, sameCount]
    exact follows.pending
  · rw [sameTexts, sameCount, List.flatten_append, follows.emitted]
    simp

/-- A token that completes a group emits the texts that are not held any more. -/
theorem Follows.complete_token {tokens : List Int} {texts : List Text} {run : CandidateRun}
    (follows : Follows stopSequences tokenizer tokens texts run) {token : Int} {text : Text}
    (isText : tokenizer.tokenIdsToText ((grouping tokenizer tokens).incomplete ++ [token]) =
      .ok text) :
    Follows stopSequences tokenizer (tokens ++ [token])
      (texts ++ [(run.candidate.addPiece
        (readStream stopSequences (tokens ++ [token])).maxMatchProgress text).resultText])
      ⟨readStream stopSequences (tokens ++ [token]),
        run.candidate.addPiece
          (readStream stopSequences (tokens ++ [token])).maxMatchProgress text⟩ := by
  have oneGroup : completedGroup tokenizer tokens token = [⟨tokens.length + 1, text⟩] := by
    rw [completedGroup, isText]
  have moreTexts : groupTexts tokenizer (tokens ++ [token]) =
      groupTexts tokenizer tokens ++ [text] := by
    rw [groupTexts, groups_concat, oneGroup, List.map_append]
    rfl
  generalize length : (readStream stopSequences (tokens ++ [token])).maxMatchProgress = maxLength
  have held := heldCount_le_length (reportedLengths stopSequences tokenizer tokens)
  have sameLength : (reportedLengths stopSequences tokenizer tokens).length =
      (groupTexts tokenizer tokens).length := by
    simp [reportedLengths, groupTexts]
  have count : emittedCount stopSequences tokenizer tokens =
      (groupTexts tokenizer tokens).length -
        heldCount (reportedLengths stopSequences tokenizer tokens) := by
    rw [emittedCount, groupTexts, List.length_map]
  have moreCount : emittedCount stopSequences tokenizer (tokens ++ [token]) =
      (groupTexts tokenizer tokens).length + 1 -
        min maxLength (heldCount (reportedLengths stopSequences tokenizer tokens) + 1) := by
    rw [emittedCount, reportedLengths_concat, oneGroup, List.map_singleton, length,
      heldCount_concat, groups_concat, oneGroup, List.length_append, groupTexts, List.length_map]
    rfl
  have inside := emittedCount_le stopSequences tokenizer tokens
  have released : emittedCount stopSequences tokenizer tokens +
      (run.candidate.pendingStopTokens.length + 1 - maxLength) =
        emittedCount stopSequences tokenizer (tokens ++ [token]) := by
    rw [follows.pending, List.length_drop, moreCount, count]
    omega
  have pendingAppend : run.candidate.pendingStopTokens ++ [text] =
      (groupTexts tokenizer (tokens ++ [token])).drop
        (emittedCount stopSequences tokenizer tokens) := by
    rw [moreTexts, List.drop_append_of_le_length inside, follows.pending]
  rw [addPiece_eq, pendingAppend]
  constructor
  · rfl
  · rw [grouping_concat, Grouping.read, isText]
  · rw [List.drop_drop, released]
  · rw [List.flatten_append, follows.emitted, ← released, List.flatten_singleton, List.take_add,
      List.flatten_append, moreTexts, List.take_append_of_le_length inside]

/-- A token that does not stop the candidate. -/
theorem Follows.step {tokens : List Int} {texts : List Text} {run next : CandidateRun}
    (follows : Follows stopSequences tokenizer tokens texts run) {token : Int}
    (steps : run.step stopSequences tokenizer token = .ok next)
    (running : (readStream stopSequences (tokens ++ [token])).stopTokenFound = false) :
    Follows stopSequences tokenizer (tokens ++ [token]) (texts ++ [next.candidate.resultText])
      next := by
  simp only [CandidateRun.step, follows.item, follows.incomplete, ← readStream_concat, running,
    Candidate.processDecoded] at steps
  cases decoded : tokenizer.tokenIdsToText ((grouping tokenizer tokens).incomplete ++ [token]) with
  | ok text =>
      rw [decoded] at steps
      cases steps
      exact follows.complete_token decoded
  | error status =>
      rw [decoded] at steps
      by_cases dataLoss : Tokenizer.isIncompleteBpeSequence (.error status : StatusOr Text)
      · rw [if_pos dataLoss] at steps
        cases steps
        exact follows.incomplete_token decoded
      · rw [if_neg dataLoss] at steps
        cases steps

theorem found_mono {front tokens : List Int} (isPrefix : front <+: tokens)
    (found : (readStream stopSequences front).stopTokenFound = true) :
    (readStream stopSequences tokens).stopTokenFound = true := by
  rw [readStream_stopTokenFound] at found ⊢
  obtain ⟨completed, isFront, completes⟩ := found
  exact ⟨completed, isFront.trans isPrefix, completes⟩

/-- What a candidate has emitted in the end: nothing since its first stop. -/
theorem CandidateRuns.spec {tokens : List Int} {texts : List Text} {run : CandidateRun}
    (runs : CandidateRuns stopSequences tokenizer tokens texts run) :
    run.item = readStream stopSequences tokens ∧
    ((readStream stopSequences tokens).stopTokenFound = false →
      Follows stopSequences tokenizer tokens texts run) ∧
    ∀ count < tokens.length,
      (readStream stopSequences (tokens.take count)).stopTokenFound = false →
      (readStream stopSequences (tokens.take (count + 1))).stopTokenFound = true →
      texts.flatten = ((groupTexts tokenizer (tokens.take count)).take
        (emittedCount stopSequences tokenizer (tokens.take count))).flatten := by
  induction runs with
  | start => exact ⟨rfl, fun _ => follows_initial, fun count below => nomatch below⟩
  | @token tokens texts run next token _ steps inductionHypothesis =>
      obtain ⟨item, follows, stopped⟩ := inductionHypothesis
      have silent : (readStream stopSequences (tokens ++ [token])).stopTokenFound = true →
          next.candidate.resultText = [] := by
        intro found
        simp only [CandidateRun.step, item, ← readStream_concat, found, except_bind_eq_ok,
          except_pure_eq_ok] at steps
        obtain ⟨candidate, processed, rfl⟩ := steps
        exact Candidate.processDecoded_found processed
      have running : (readStream stopSequences (tokens ++ [token])).stopTokenFound = false →
          (readStream stopSequences tokens).stopTokenFound = false := by
        intro notFound
        rw [Bool.eq_false_iff] at notFound ⊢
        exact fun found => notFound (found_mono (List.prefix_append tokens [token]) found)
      refine ⟨?_, ?_, ?_⟩
      · simp only [CandidateRun.step, item, ← readStream_concat, except_bind_eq_ok,
          except_pure_eq_ok] at steps
        obtain ⟨candidate, -, rfl⟩ := steps
        rfl
      · intro notFound
        exact (follows (running notFound)).step steps notFound
      · intro count below notFound found
        have stays := silent (found_mono (List.take_prefix (count + 1) (tokens ++ [token])) found)
        rw [stays, List.flatten_append, List.flatten_singleton, List.append_nil]
        rw [List.length_append, List.length_singleton] at below
        by_cases earlier : count < tokens.length
        · rw [List.take_append_of_le_length earlier.le] at notFound ⊢
          rw [List.take_append_of_le_length earlier] at found
          exact stopped count earlier notFound found
        · have whole : (tokens ++ [token]).take count = tokens := by
            rw [show count = tokens.length by omega, List.take_left']
            rfl
          rw [whole] at notFound ⊢
          exact (follows notFound).emitted

end Emitted

/-! ## Texts that are not held back -/

section Held

variable (stopSequences : List (List Int)) (tokenizer : Tokenizer)

/-- The first stop sequence ends with the token after the first `count`. -/
structure FirstStop (tokens : List Int) (count : Nat) : Prop where
  inBounds : count < tokens.length
  before : ¬Occurs stopSequences (tokens.take count)
  after : Occurs stopSequences (tokens.take (count + 1))

/-- The text of a candidate: that before a stop sequence that ended it first, and all of it when
no stop sequence has occurred. -/
structure EmitsItsText (tokens : List Int) (emitted : Text) : Prop where
  stopped : ∀ count, FirstStop stopSequences tokens count →
    ∃ stopSequence ∈ stopSequences, stopSequence <:+ tokens.take (count + 1) ∧
      emitted = completeText tokenizer (tokens.take (count + 1 - stopSequence.length))
  unstopped : ¬Occurs stopSequences tokens → emitted = completeText tokenizer tokens

/-- The longest partial matches of a stop sequence at the ends of the groups. -/
def partialLengths (tokens : List Int) : List Nat :=
  (groups tokenizer tokens).map fun group =>
    longestPartial stopSequences (tokens.take group.tokensRead)

/-- For each complete group with text within the first `boundary` tokens there is a later group, or
the same, at whose end the longest partial match has no more tokens than groups have been completed
since. -/
def ReleasesText (tokens : List Int) (boundary : Nat) : Prop :=
  ∀ (index : Nat) group, (groups tokenizer tokens)[index]? = some group →
    group.tokensRead ≤ boundary → group.text ≠ [] →
    Released (partialLengths stopSequences tokenizer tokens) index

/-- No text is held back at the first stop, or at the end of tokens without a stop sequence. -/
structure HoldsNothingBack (tokens : List Int) : Prop where
  stopped : ∀ count, FirstStop stopSequences tokens count →
    ∃ stopSequence ∈ stopSequences, stopSequence <:+ tokens.take (count + 1) ∧
      ReleasesText stopSequences tokenizer (tokens.take count)
        (count + 1 - stopSequence.length)
  unstopped : ¬Occurs stopSequences tokens →
    ReleasesText stopSequences tokenizer tokens tokens.length

variable {stopSequences tokenizer}

/-- Exact reports are the longest partial matches, while no stop sequence has occurred. -/
theorem reportedLengths_eq {tokens : List Int} (noStop : ¬Occurs stopSequences tokens)
    (exact : ∀ count ≤ tokens.length, ReportsExactly stopSequences (tokens.take count)) :
    reportedLengths stopSequences tokenizer tokens =
      partialLengths stopSequences tokenizer tokens := by
  apply List.map_congr_left
  intro group member
  have inside := groups_tokensRead_le tokenizer member
  apply (exact group.tokensRead inside).partialLength
  rw [Bool.eq_false_iff]
  intro found
  exact noStop (((exact group.tokensRead inside).found.mp found).mono (List.take_prefix _ _))

/-- The groups within the first `boundary` tokens come first. -/
theorem filter_eq_take_of_sorted {groups : List TokenGroup}
    (sorted : groups.Pairwise fun first second => first.tokensRead < second.tokensRead)
    (boundary : Nat) :
    (groups.filter fun group => group.tokensRead ≤ boundary) =
      groups.take (groups.countP fun group => group.tokensRead ≤ boundary) := by
  induction groups with
  | nil => rfl
  | cons group groups inductionHypothesis =>
      obtain ⟨first, rest⟩ := List.pairwise_cons.mp sorted
      by_cases inside : group.tokensRead ≤ boundary
      · rw [List.filter_cons_of_pos (by simpa using inside),
          List.countP_cons_of_pos (by simpa using inside), List.take_succ_cons,
          inductionHypothesis rest]
      · have noneInside : ∀ other ∈ groups, ¬other.tokensRead ≤ boundary := by
          intro other member
          have later := first other member
          omega
        rw [List.filter_cons_of_neg (by simpa using inside),
          List.countP_cons_of_neg (by simpa using inside),
          List.filter_eq_nil_iff.mpr (by simpa using noneInside),
          List.countP_eq_zero.mpr (by simpa using noneInside), List.take_zero]

/-- Which groups end within the first `boundary` tokens. -/
theorem tokensRead_le_iff {groups : List TokenGroup}
    (sorted : groups.Pairwise fun first second => first.tokensRead < second.tokensRead)
    (boundary : Nat) {index : Nat} {group : TokenGroup} (isGroup : groups[index]? = some group) :
    group.tokensRead ≤ boundary ↔
      index < groups.countP fun group => group.tokensRead ≤ boundary := by
  induction groups generalizing index with
  | nil => simp at isGroup
  | cons first groups inductionHypothesis =>
      obtain ⟨before, rest⟩ := List.pairwise_cons.mp sorted
      cases index with
      | zero =>
          cases isGroup
          by_cases inside : group.tokensRead ≤ boundary
          · rw [List.countP_cons_of_pos (by simpa using inside)]
            exact iff_of_true inside (Nat.succ_pos _)
          · have noneInside : ∀ other ∈ groups, ¬other.tokensRead ≤ boundary := by
              intro other member
              have later := before other member
              omega
            rw [List.countP_cons_of_neg (by simpa using inside),
              List.countP_eq_zero.mpr (by simpa using noneInside)]
            exact iff_of_false inside (Nat.lt_irrefl 0)
      | succ index =>
          have isGroup : groups[index]? = some group := isGroup
          have later := before group (List.mem_of_getElem? isGroup)
          rw [inductionHypothesis rest isGroup]
          by_cases inside : first.tokensRead ≤ boundary
          · rw [List.countP_cons_of_pos (by simpa using inside), Nat.succ_lt_succ_iff]
          · have noneInside : ∀ other ∈ groups, ¬other.tokensRead ≤ boundary := by
              intro other member
              have later := before other member
              omega
            rw [List.countP_cons_of_neg (by simpa using inside),
              List.countP_eq_zero.mpr (by simpa using noneInside)]
            exact iff_of_false (Nat.not_lt_zero _) (Nat.not_lt_zero _)

/-- Groups end at least as far apart as there are groups between them. -/
theorem tokensRead_add_le {groups : List TokenGroup}
    (sorted : groups.Pairwise fun first second => first.tokensRead < second.tokensRead)
    {index distance : Nat} {first second : TokenGroup} (isFirst : groups[index]? = some first)
    (isSecond : groups[index + distance]? = some second) :
    first.tokensRead + distance ≤ second.tokensRead := by
  induction distance generalizing second with
  | zero =>
      rw [Nat.add_zero, isFirst] at isSecond
      cases isSecond
      exact Nat.le_refl _
  | succ distance inductionHypothesis =>
      have inBounds := (List.getElem?_eq_some_iff.mp isSecond).1
      have isMiddle := List.getElem?_eq_getElem (show index + distance < groups.length by omega)
      have earlier := inductionHypothesis isMiddle
      have next := List.pairwise_iff_getElem.mp sorted (index + distance)
        (index + (distance + 1)) (by omega) inBounds (by omega)
      rw [← (List.getElem?_eq_some_iff.mp isSecond).2]
      omega

/-- None of the groups of the stop sequence is emitted before it. -/
theorem emittedCount_le_of_stop {tokens : List Int} {count : Nat} {stopSequence : List Int}
    (inBounds : count < tokens.length) (member : stopSequence ∈ stopSequences)
    (isSuffix : stopSequence <:+ tokens.take (count + 1))
    (reports : reportedLengths stopSequences tokenizer (tokens.take count) =
      partialLengths stopSequences tokenizer (tokens.take count)) :
    emittedCount stopSequences tokenizer (tokens.take count) ≤
      (groups tokenizer (tokens.take count)).countP fun group =>
        group.tokensRead ≤ count + 1 - stopSequence.length := by
  have sorted := groups_sorted tokenizer (tokens.take count)
  generalize within : ((groups tokenizer (tokens.take count)).countP fun group =>
    group.tokensRead ≤ count + 1 - stopSequence.length) = inside
  by_contra more
  have released : Released (partialLengths stopSequences tokenizer (tokens.take count)) inside := by
    rw [released_iff, ← reports]
    have lengths : (reportedLengths stopSequences tokenizer (tokens.take count)).length =
        (groups tokenizer (tokens.take count)).length := List.length_map _
    rw [lengths]
    exact not_le.mp more
  obtain ⟨arrival, bound, isBound, enough⟩ := released
  rw [partialLengths, List.getElem?_map, Option.map_eq_some_iff] at isBound
  obtain ⟨last, isLast, rfl⟩ := isBound
  have arrivalInBounds := (List.getElem?_eq_some_iff.mp isLast).1
  have isFirst := List.getElem?_eq_getElem (show inside <
    (groups tokenizer (tokens.take count)).length by omega)
  generalize (groups tokenizer (tokens.take count))[inside] = first at isFirst
  have afterBoundary : ¬first.tokensRead ≤ count + 1 - stopSequence.length := by
    rw [tokensRead_le_iff sorted _ isFirst, within]
    exact Nat.lt_irrefl inside
  have apart := tokensRead_add_le sorted isFirst
    (show (groups tokenizer (tokens.take count))[inside + (arrival - inside)]? = some last by
      rw [Nat.add_sub_cancel' (by omega), isLast])
  have lastInside := groups_tokensRead_le tokenizer (List.mem_of_getElem? isLast)
  rw [List.length_take_of_le inBounds.le] at lastInside
  have stopLength : stopSequence.length ≤ count + 1 := by
    have inTake := isSuffix.length_le
    rwa [List.length_take_of_le inBounds] at inTake
  -- The part of the stop sequence that has been read is a partial match.
  have wholeStop : stopSequence.length ≤ commonPrefixLength stopSequence
      (tokens.drop (count + 1 - stopSequence.length)) := by
    have ends := (endsWithPrefix_length_iff stopSequence (tokens.take (count + 1))).mpr isSuffix
    rw [← Nat.sub_add_cancel stopLength] at ends
    exact (endsWithPrefix_take_iff (by omega)).mp ends
  have readStop : EndsWithPrefix stopSequence (tokens.take last.tokensRead)
      (last.tokensRead - (count + 1 - stopSequence.length)) := by
    have ends : EndsWithPrefix stopSequence
        (tokens.take (count + 1 - stopSequence.length +
          (last.tokensRead - (count + 1 - stopSequence.length))))
        (last.tokensRead - (count + 1 - stopSequence.length)) :=
      (endsWithPrefix_take_iff (by omega)).mpr (by omega)
    rwa [Nat.add_sub_cancel' (by omega)] at ends
  have partialLength := readStop.le_longestPartial member
  rw [List.take_take, Nat.min_eq_left lastInside] at enough
  omega

/-- What has been emitted is the text within the boundary exactly when no such text is held back,
provided that nothing beyond the boundary has been emitted. -/
theorem emitted_eq_completeText_iff {tokens : List Int} {boundary : Nat}
    (reports : reportedLengths stopSequences tokenizer tokens =
      partialLengths stopSequences tokenizer tokens)
    (notBeyond : emittedCount stopSequences tokenizer tokens ≤
      (groups tokenizer tokens).countP fun group => group.tokensRead ≤ boundary) :
    ((groupTexts tokenizer tokens).take (emittedCount stopSequences tokenizer tokens)).flatten =
        completeText tokenizer (tokens.take boundary) ↔
      ReleasesText stopSequences tokenizer tokens boundary := by
  have sorted := groups_sorted tokenizer tokens
  have isExpected : completeText tokenizer (tokens.take boundary) =
      ((groupTexts tokenizer tokens).take
        ((groups tokenizer tokens).countP fun group => group.tokensRead ≤ boundary)).flatten := by
    rw [completeText, groups_take, filter_eq_take_of_sorted sorted, groupTexts, List.map_take]
  have released : ∀ index, Released (partialLengths stopSequences tokenizer tokens) index ↔
      index < emittedCount stopSequences tokenizer tokens := by
    intro index
    rw [released_iff, ← reports, emittedCount]
    simp [reportedLengths]
  rw [isExpected, flatten_take_eq_iff _ notBeyond]
  unfold ReleasesText
  simp only [released]
  constructor
  · intro empty index group isGroup inside hasText
    by_contra notEmitted
    apply hasText
    apply empty index group.text
    · rw [groupTexts, List.getElem?_map, isGroup]
      rfl
    · omega
    · exact (tokensRead_le_iff sorted boundary isGroup).mp inside
  · intro emitted index text isText notEmitted inside
    rw [groupTexts, List.getElem?_map, Option.map_eq_some_iff] at isText
    obtain ⟨group, isGroup, rfl⟩ := isText
    by_contra hasText
    have below := emitted index group isGroup
      ((tokensRead_le_iff sorted boundary isGroup).mpr inside) hasText
    omega

/-- **The text of a candidate.** When the detector's reports are exact, a candidate emits the text
before the stop sequence that ends it, or all of its text, if and only if none of it is held
back. -/
theorem emitsItsText_iff {tokens : List Int} {texts : List Text} {run : CandidateRun}
    (nonempty : ∀ stopSequence ∈ stopSequences, stopSequence ≠ [])
    (exact : ∀ count ≤ tokens.length, ReportsExactly stopSequences (tokens.take count))
    (runs : CandidateRuns stopSequences tokenizer tokens texts run) :
    EmitsItsText stopSequences tokenizer tokens texts.flatten ↔
      HoldsNothingBack stopSequences tokenizer tokens := by
  obtain ⟨-, follows, stopped⟩ := runs.spec
  have notFound : ∀ count ≤ tokens.length, ¬Occurs stopSequences (tokens.take count) →
      (readStream stopSequences (tokens.take count)).stopTokenFound = false := by
    intro count inside noStop
    rw [Bool.eq_false_iff]
    exact fun found => noStop ((exact count inside).found.mp found)
  have atStop : ∀ count, FirstStop stopSequences tokens count →
      ∀ stopSequence ∈ stopSequences, stopSequence <:+ tokens.take (count + 1) →
      (texts.flatten =
          completeText tokenizer (tokens.take (count + 1 - stopSequence.length)) ↔
        ReleasesText stopSequences tokenizer (tokens.take count)
          (count + 1 - stopSequence.length)) := by
    intro count first stopSequence member isSuffix
    have reports : reportedLengths stopSequences tokenizer (tokens.take count) =
        partialLengths stopSequences tokenizer (tokens.take count) := by
      apply reportedLengths_eq first.before
      intro shorter inside
      rw [List.length_take_of_le first.inBounds.le] at inside
      rw [List.take_take, Nat.min_eq_left inside]
      exact exact shorter (inside.trans first.inBounds.le)
    have positive := List.length_pos_iff.mpr (nonempty stopSequence member)
    rw [stopped count first.inBounds (notFound count first.inBounds.le first.before)
        ((exact (count + 1) first.inBounds).found.mpr first.after),
      ← emitted_eq_completeText_iff reports
        (emittedCount_le_of_stop first.inBounds member isSuffix reports),
      List.take_take, Nat.min_eq_left (by omega)]
  have atEnd : ¬Occurs stopSequences tokens →
      (texts.flatten = completeText tokenizer tokens ↔
        ReleasesText stopSequences tokenizer tokens tokens.length) := by
    intro noStop
    have notStopped := notFound tokens.length (Nat.le_refl _) (by rwa [List.take_length])
    rw [List.take_length] at notStopped
    have allInside : ((groups tokenizer tokens).countP fun group =>
        group.tokensRead ≤ tokens.length) = (groups tokenizer tokens).length := by
      rw [List.countP_eq_length]
      intro group member
      exact decide_eq_true (groups_tokensRead_le tokenizer member)
    rw [(follows notStopped).emitted, ← emitted_eq_completeText_iff
      (reportedLengths_eq noStop exact) (by rw [allInside]; exact Nat.sub_le _ _),
      List.take_length]
  constructor
  · intro emits
    constructor
    · intro count first
      obtain ⟨stopSequence, member, isSuffix, text⟩ := emits.stopped count first
      exact ⟨stopSequence, member, isSuffix,
        (atStop count first stopSequence member isSuffix).mp text⟩
    · intro noStop
      exact (atEnd noStop).mp (emits.unstopped noStop)
  · intro holds
    constructor
    · intro count first
      obtain ⟨stopSequence, member, isSuffix, releases⟩ := holds.stopped count first
      exact ⟨stopSequence, member, isSuffix,
        (atStop count first stopSequence member isSuffix).mpr releases⟩
    · intro noStop
      exact (atEnd noStop).mpr (holds.unstopped noStop)

end Held

end LiteRTLM.Core.Tasks
