import LiteRTLM.Components.StopTokenDetector

/-!
Contract: exactness of stop-sequence detection.

Owns: what the matcher's progress on one sequence means in terms of attempts,
what a batch item reports for its stream, and the exact condition on streams
under which the reports are the ones the detector documents.

Does not own: the detector's operations.

The matcher keeps one attempt per sequence and, on a mismatch, looks at the
current token only. It therefore never sees a prefix that begins inside an
earlier attempt, and that is the only way its reports can be wrong.
-/

namespace LiteRTLM.Components

open LiteRTLM.Engine
open LiteRTLM.Library.PrefixMatching

namespace BatchItem

/-! ## The matcher on one sequence -/

/-- The match length of one stop sequence after a whole stream. -/
def matchLength (stopSequence stream : List Int) : Nat :=
  stream.foldl (advance stopSequence) 0

theorem matchLength_concat (stopSequence stream : List Int) (token : Int) :
    matchLength stopSequence (stream ++ [token]) =
      advance stopSequence (matchLength stopSequence stream) token := by
  simp [matchLength]

theorem matchLength_take_succ {stopSequence stream : List Int} {count : Nat}
    (inStream : count < stream.length) :
    matchLength stopSequence (stream.take (count + 1)) =
      advance stopSequence (matchLength stopSequence (stream.take count)) stream[count] := by
  rw [List.take_succ_eq_append_getElem inStream, matchLength_concat]

theorem advance_of_match {stopSequence : List Int} {currentMatchLength : Nat} {token : Int}
    (same : stopSequence[currentMatchLength]? = some token) :
    advance stopSequence currentMatchLength token = currentMatchLength + 1 :=
  if_pos same

/-- After a mismatch the matcher behaves as at the start of a stream. -/
theorem advance_of_mismatch {stopSequence : List Int} {currentMatchLength : Nat} {token : Int}
    (differ : stopSequence[currentMatchLength]? ≠ some token) :
    advance stopSequence currentMatchLength token = advance stopSequence 0 token := by
  unfold advance
  rw [if_neg differ, List.head?_eq_getElem?]
  by_cases first : stopSequence[0]? = some token <;> simp [first]

theorem advance_zero_of_mismatch {stopSequence : List Int} {token : Int}
    (differ : stopSequence[0]? ≠ some token) : advance stopSequence 0 token = 0 := by
  rw [advance, if_neg differ, List.head?_eq_getElem?, if_neg differ]

/-- The progress is always that of an attempt still alive. -/
theorem matchLength_attempt (stopSequence stream : List Int) {count : Nat}
    (inStream : count ≤ stream.length) :
    ∃ position, position + matchLength stopSequence (stream.take count) = count ∧
      Attempt stopSequence stream position ∧
      matchLength stopSequence (stream.take count) ≤
        commonPrefixLength stopSequence (stream.drop position) := by
  induction count with
  | zero => exact ⟨0, by simp [matchLength], .start, by simp [matchLength]⟩
  | succ count hypothesis =>
      obtain ⟨position, reached, attempt, alive⟩ := hypothesis (by omega)
      have inBounds : count < stream.length := by omega
      rw [matchLength_take_succ inBounds]
      generalize matchLength stopSequence (stream.take count) = progress at reached alive ⊢
      have read : (stream.drop position)[progress]? = some stream[count] := by
        rw [List.getElem?_drop, reached, List.getElem?_eq_getElem inBounds]
      by_cases same : stopSequence[progress]? = some stream[count]
      · rw [advance_of_match same]
        have longer := (lt_commonPrefixLength_iff alive read).mpr same
        exact ⟨position, by omega, attempt, longer⟩
      · -- the attempt ends here, and the next one begins at this token
        have ended : progress = commonPrefixLength stopSequence (stream.drop position) :=
          le_antisymm alive (not_lt.mp fun goesOn =>
            same ((lt_commonPrefixLength_iff alive read).mp goesOn))
        have fresh : Attempt stopSequence stream count := by
          by_cases atOnce : progress = 0
          · have samePosition : position = count := by omega
            rwa [← samePosition]
          · have next := attempt.next
            rw [← ended, max_eq_right (by omega), reached] at next
            exact next
        have readFirst : (stream.drop count)[0]? = some stream[count] := by
          rw [List.getElem?_drop, Nat.add_zero, List.getElem?_eq_getElem inBounds]
        have begins := lt_commonPrefixLength_iff
          (Nat.zero_le (commonPrefixLength stopSequence (stream.drop count))) readFirst
        rw [advance_of_mismatch same]
        by_cases first : stopSequence[0]? = some stream[count]
        · rw [advance_of_match first]
          exact ⟨count, rfl, fresh, begins.mpr first⟩
        · have none := Nat.eq_zero_of_not_pos (mt begins.mp first)
          have next := fresh.next
          rw [none] at next
          rw [advance_zero_of_mismatch first]
          exact ⟨count + 1, rfl, next, Nat.zero_le _⟩

/-- Once the first token of an attempt is read afresh, the rest follows token by
token. -/
theorem matchLength_along {stopSequence stream : List Int} {position : Nat}
    (fresh : ∀ inBounds : position < stream.length,
      matchLength stopSequence (stream.take (position + 1)) =
        advance stopSequence 0 stream[position])
    {length : Nat} (positive : 0 < length) (inStream : position + length ≤ stream.length)
    (shared : length ≤ commonPrefixLength stopSequence (stream.drop position)) :
    matchLength stopSequence (stream.take (position + length)) = length := by
  induction length with
  | zero => omega
  | succ length hypothesis =>
      have inBounds : position + length < stream.length := by omega
      have read : (stream.drop position)[length]? = some stream[position + length] := by
        rw [List.getElem?_drop, List.getElem?_eq_getElem inBounds]
      have same := (lt_commonPrefixLength_iff (by omega) read).mp shared
      rcases Nat.eq_zero_or_pos length with rfl | before
      · rw [Nat.zero_add, fresh inBounds]
        exact advance_of_match same
      · rw [← Nat.add_assoc, matchLength_take_succ inBounds,
          hypothesis before (by omega) (by omega)]
        exact advance_of_match same

/-- An attempt is not affected by the progress the matcher had before it. -/
theorem matchLength_at_attempt {stopSequence stream : List Int} {position : Nat}
    (attempt : Attempt stopSequence stream position) (inBounds : position < stream.length) :
    matchLength stopSequence (stream.take (position + 1)) =
      advance stopSequence 0 stream[position] := by
  induction attempt with
  | start =>
      rw [matchLength_take_succ inBounds]
      simp [matchLength]
  | @next position attempt fresh =>
      rw [matchLength_take_succ inBounds]
      generalize shared : commonPrefixLength stopSequence (stream.drop position) = length
        at inBounds ⊢
      rcases Nat.eq_zero_or_pos length with rfl | positive
      · have here : position < stream.length := by omega
        have readFirst : (stream.drop position)[0]? = some stream[position] := by
          rw [List.getElem?_drop, Nat.add_zero, List.getElem?_eq_getElem here]
        have first : stopSequence[0]? ≠ some stream[position] :=
          mt (lt_commonPrefixLength_iff (Nat.zero_le _) readFirst).mpr (by omega)
        have nothing : matchLength stopSequence (stream.take (position + 1)) = 0 := by
          rw [fresh here, advance_zero_of_mismatch first]
        simp [nothing]
      · have reached : max 1 length = length := by omega
        simp only [reached] at inBounds ⊢
        have read : (stream.drop position)[length]? = some stream[position + length] := by
          rw [List.getElem?_drop, List.getElem?_eq_getElem inBounds]
        have differ := mt (lt_commonPrefixLength_iff shared.ge read).mpr (by omega)
        rw [matchLength_along fresh positive (by omega) shared.ge, advance_of_mismatch differ]

/-- The progress is positive exactly while an attempt is alive, and then it is
the length of that attempt so far. -/
theorem matchLength_eq_iff {stopSequence stream : List Int} {count length : Nat}
    (inStream : count ≤ stream.length) (positive : 0 < length) :
    matchLength stopSequence (stream.take count) = length ↔
      EndsWithPrefix stopSequence (stream.take count) length ∧
        Attempt stopSequence stream (count - length) := by
  constructor
  · intro progress
    obtain ⟨position, reached, attempt, alive⟩ :=
      matchLength_attempt stopSequence stream inStream
    rw [progress] at reached alive
    subst reached
    rw [Nat.add_sub_cancel]
    exact ⟨(endsWithPrefix_take_iff inStream).mpr alive, attempt⟩
  · rintro ⟨endsWith, attempt⟩
    have fits : length ≤ count := by
      have inTake := endsWith.le_stream
      rw [List.length_take_of_le inStream] at inTake
      exact inTake
    obtain ⟨position, reached⟩ : ∃ position, position + length = count :=
      ⟨count - length, by omega⟩
    subst reached
    rw [Nat.add_sub_cancel] at attempt
    exact matchLength_along (matchLength_at_attempt attempt) positive inStream
      ((endsWithPrefix_take_iff inStream).mp endsWith)

/-- A completed sequence ends the stream. -/
theorem Completed.suffix {stopSequence stream : List Int}
    (completed : Completed stopSequence (matchLength stopSequence stream)) :
    stopSequence <:+ stream := by
  have whole := (matchLength_eq_iff (stream.length.le_refl) completed.1).mp
    (congrArg (matchLength stopSequence) stream.take_length)
  rw [completed.2, List.take_length] at whole
  exact (endsWithPrefix_length_iff stopSequence stream).mp whole.1

/-! ## One batch item -/

/-- A batch item after a whole stream. -/
def readStream (stopSequences : List (List Int)) (stream : List Int) : BatchItem :=
  stream.foldl (processToken stopSequences) (initial stopSequences.length)

theorem readStream_concat (stopSequences : List (List Int)) (stream : List Int) (token : Int) :
    readStream stopSequences (stream ++ [token]) =
      processToken stopSequences (readStream stopSequences stream) token := by
  simp [readStream]

/-- Some stop sequence has been completed by the matcher. -/
def CompletedIn (stopSequences : List (List Int)) (stream : List Int) : Prop :=
  ∃ front, front <+: stream ∧ ∃ stopSequence ∈ stopSequences,
    Completed stopSequence (matchLength stopSequence front)

theorem completedIn_concat (stopSequences : List (List Int)) (stream : List Int) (token : Int) :
    CompletedIn stopSequences (stream ++ [token]) ↔
      CompletedIn stopSequences stream ∨ ∃ stopSequence ∈ stopSequences,
        Completed stopSequence (matchLength stopSequence (stream ++ [token])) := by
  unfold CompletedIn
  simp only [List.prefix_concat_iff, or_and_right, exists_or, exists_eq_left]
  rw [or_comm]

/-- The item's progress is the matcher's on every sequence, and nothing is found. -/
structure Tracks (stopSequences : List (List Int)) (stream : List Int) (item : BatchItem) :
    Prop where
  matchProgress : item.matchProgress =
    stopSequences.map fun stopSequence => matchLength stopSequence stream
  maxMatchProgress : item.maxMatchProgress =
    (stopSequences.map fun stopSequence => matchLength stopSequence stream).foldr max 0
  notFound : item.stopTokenFound = false

theorem initial_tracks (stopSequences : List (List Int)) :
    Tracks stopSequences [] (initial stopSequences.length) where
  matchProgress := by simp [initial, matchLength]
  maxMatchProgress := by
    apply Eq.symm
    apply Nat.eq_zero_of_le_zero
    rw [foldr_max_le_iff]
    intro length member
    obtain ⟨_, _, rfl⟩ := List.mem_map.mp member
    exact le_rfl
  notFound := rfl

section Tracking

variable {stopSequences : List (List Int)} {stream : List Int} {item : BatchItem}

/-- The sequences paired with the progress of a tracking item. -/
theorem Tracks.zip (tracks : Tracks stopSequences stream item) :
    stopSequences.zip item.matchProgress =
      stopSequences.map fun stopSequence => (stopSequence, matchLength stopSequence stream) := by
  rw [tracks.matchProgress]
  apply List.ext_getElem
  · simp
  · intro index _ _
    simp

theorem Tracks.processToken_eq (tracks : Tracks stopSequences stream item) (token : Int) :
    processToken stopSequences item token =
      (stopSequences.map fun stopSequence =>
          (stopSequence, matchLength stopSequence stream)).foldl (matchSequence token)
        { item with matchProgress := [], maxMatchProgress := 0 } := by
  have running : ¬item.stopTokenFound = true := by simp [tracks.notFound]
  rw [processToken, if_neg running, tracks.zip]

/-- A tracking item stops at a token exactly when some sequence is completed. -/
theorem Tracks.stopTokenFound_iff (tracks : Tracks stopSequences stream item) (token : Int) :
    (processToken stopSequences item token).stopTokenFound = true ↔
      ∃ stopSequence ∈ stopSequences,
        Completed stopSequence (matchLength stopSequence (stream ++ [token])) := by
  rw [tracks.processToken_eq, foldl_matchSequence_stopTokenFound]
  simp [tracks.notFound, matchLength_concat]

/-- Otherwise it keeps tracking. -/
theorem Tracks.concat (tracks : Tracks stopSequences stream item) {token : Int}
    (noneCompleted : ¬∃ stopSequence ∈ stopSequences,
      Completed stopSequence (matchLength stopSequence (stream ++ [token]))) :
    Tracks stopSequences (stream ++ [token]) (processToken stopSequences item token) where
  matchProgress := by
    rw [tracks.processToken_eq, foldl_matchSequence_matchProgress]
    simp [matchLength_concat, Function.comp_def]
  maxMatchProgress := by
    rw [tracks.processToken_eq, foldl_matchSequence_maxMatchProgress]
    simp [matchLength_concat, Function.comp_def]
  notFound := by
    rw [← Bool.not_eq_true, tracks.stopTokenFound_iff]
    exact noneCompleted

/-- The matched length after the stop is that of a sequence completed there. -/
theorem Tracks.matchedLength (tracks : Tracks stopSequences stream item) {token : Int}
    (found : (processToken stopSequences item token).stopTokenFound = true) :
    ∃ stopSequence ∈ stopSequences,
      Completed stopSequence (matchLength stopSequence (stream ++ [token])) ∧
      (processToken stopSequences item token).matchedStopSequenceLength =
        stopSequence.length := by
  obtain ⟨completedSequence, member, completed⟩ := (tracks.stopTokenFound_iff token).mp found
  rw [tracks.processToken_eq]
  rcases foldl_matchSequence_matchedLength token
      (stopSequences.map fun stopSequence => (stopSequence, matchLength stopSequence stream))
      { item with matchProgress := [], maxMatchProgress := 0 } with
    ⟨_, noneCompleted⟩ | ⟨pair, pairMember, pairCompleted, length⟩
  · exfalso
    apply noneCompleted (completedSequence, matchLength completedSequence stream)
    · exact List.mem_map.mpr ⟨completedSequence, member, rfl⟩
    · rw [matchLength_concat] at completed
      exact completed
  · obtain ⟨stopSequence, sequenceMember, rfl⟩ := List.mem_map.mp pairMember
    refine ⟨stopSequence, sequenceMember, ?_, length⟩
    rw [matchLength_concat]
    exact pairCompleted

end Tracking

/-- An item has stopped exactly when the matcher completed a sequence, and tracks
the matcher until then. -/
theorem readStream_spec (stopSequences : List (List Int)) (stream : List Int) :
    ((readStream stopSequences stream).stopTokenFound = true ↔
      CompletedIn stopSequences stream) ∧
    (¬CompletedIn stopSequences stream →
      Tracks stopSequences stream (readStream stopSequences stream)) := by
  induction stream using List.reverseRecOn with
  | nil =>
      refine ⟨?_, fun _ => initial_tracks stopSequences⟩
      have nothing : ¬CompletedIn stopSequences [] := by
        rintro ⟨front, isPrefix, stopSequence, -, completed⟩
        rw [List.prefix_nil.mp isPrefix] at completed
        exact absurd completed.1 (by simp [matchLength])
      simp [readStream, initial, nothing]
  | append_singleton stream token hypothesis =>
      obtain ⟨foundIff, tracks⟩ := hypothesis
      rw [readStream_concat, completedIn_concat]
      by_cases before : CompletedIn stopSequences stream
      · have found := foundIff.mpr before
        have stays : (processToken stopSequences (readStream stopSequences stream)
            token).stopTokenFound = true := by
          rw [processToken, if_pos found]
          exact found
        exact ⟨iff_of_true stays (.inl before), fun none => absurd (.inl before) none⟩
      · refine ⟨?_, fun none => (tracks before).concat fun completed =>
          none (.inr completed)⟩
        rw [(tracks before).stopTokenFound_iff token]
        simp [before]

theorem readStream_stopTokenFound (stopSequences : List (List Int)) (stream : List Int) :
    (readStream stopSequences stream).stopTokenFound = true ↔ CompletedIn stopSequences stream :=
  (readStream_spec stopSequences stream).1

theorem readStream_tracks {stopSequences : List (List Int)} {stream : List Int}
    (running : ¬CompletedIn stopSequences stream) :
    Tracks stopSequences stream (readStream stopSequences stream) :=
  (readStream_spec stopSequences stream).2 running

/-- At the token where an item stops, its matched length is the length of a stop
sequence ending there. -/
theorem readStream_first {stopSequences : List (List Int)} {stream : List Int} {token : Int}
    (running : (readStream stopSequences stream).stopTokenFound = false)
    (found : (readStream stopSequences (stream ++ [token])).stopTokenFound = true) :
    ∃ stopSequence ∈ stopSequences, stopSequence <:+ stream ++ [token] ∧
      (readStream stopSequences (stream ++ [token])).matchedStopSequenceLength =
        stopSequence.length := by
  have notCompleted : ¬CompletedIn stopSequences stream := by
    rw [← readStream_stopTokenFound, running]
    exact Bool.false_ne_true
  rw [readStream_concat] at found ⊢
  obtain ⟨stopSequence, member, completed, length⟩ :=
    (readStream_tracks notCompleted).matchedLength found
  exact ⟨stopSequence, member, completed.suffix, length⟩

/-- Afterwards its matched length grows by one per token. -/
theorem readStream_later {stopSequences : List (List Int)} {stream : List Int} (token : Int)
    (found : (readStream stopSequences stream).stopTokenFound = true) :
    (readStream stopSequences (stream ++ [token])).matchedStopSequenceLength =
      (readStream stopSequences stream).matchedStopSequenceLength + 1 := by
  rw [readStream_concat, processToken, if_pos found]

/-! ## Exactness of one item -/

/-- Some stop sequence occurs in the stream. -/
def Occurs (stopSequences : List (List Int)) (stream : List Int) : Prop :=
  ∃ stopSequence ∈ stopSequences, stopSequence <:+: stream

theorem Occurs.mono {stopSequences : List (List Int)} {front stream : List Int}
    (occurs : Occurs stopSequences front) (isPrefix : front <+: stream) :
    Occurs stopSequences stream := by
  obtain ⟨stopSequence, member, occurrence⟩ := occurs
  exact ⟨stopSequence, member, occurrence.trans isPrefix.isInfix⟩

theorem CompletedIn.occurs {stopSequences : List (List Int)} {stream : List Int}
    (completedIn : CompletedIn stopSequences stream) : Occurs stopSequences stream := by
  obtain ⟨front, isPrefix, stopSequence, member, completed⟩ := completedIn
  exact ⟨stopSequence, member, completed.suffix.isInfix.trans isPrefix.isInfix⟩

/-- The item reports what its stream holds. -/
structure ReportsExactly (stopSequences : List (List Int)) (stream : List Int) : Prop where
  found : (readStream stopSequences stream).stopTokenFound = true ↔ Occurs stopSequences stream
  partialLength : (readStream stopSequences stream).stopTokenFound = false →
    (readStream stopSequences stream).maxMatchProgress = longestPartial stopSequences stream

/-- Up to the first stop, a longest stop-sequence prefix that ends the stream
begins where the scan for its sequence begins an attempt, and so does some
sequence that ends at the first stop. -/
structure BegunAtAttempts (stopSequences : List (List Int)) (stream : List Int) : Prop where
  partials : ∀ count ≤ stream.length, ¬Occurs stopSequences (stream.take count) →
    0 < longestPartial stopSequences (stream.take count) →
    ∃ stopSequence ∈ stopSequences,
      EndsWithPrefix stopSequence (stream.take count)
        (longestPartial stopSequences (stream.take count)) ∧
      Attempt stopSequence stream (count - longestPartial stopSequences (stream.take count))
  firstStop : ∀ count < stream.length, ¬Occurs stopSequences (stream.take count) →
    Occurs stopSequences (stream.take (count + 1)) →
    ∃ stopSequence ∈ stopSequences, stopSequence <:+ stream.take (count + 1) ∧
      Attempt stopSequence stream (count + 1 - stopSequence.length)

/-- The completed sequence of an item that has just stopped. -/
theorem completed_of_completedIn {stopSequences : List (List Int)} {stream : List Int}
    {count : Nat} (inBounds : count < stream.length)
    (before : ¬CompletedIn stopSequences (stream.take count))
    (after : CompletedIn stopSequences (stream.take (count + 1))) :
    ∃ stopSequence ∈ stopSequences,
      Completed stopSequence (matchLength stopSequence (stream.take (count + 1))) := by
  rw [List.take_succ_eq_append_getElem inBounds] at after ⊢
  exact ((completedIn_concat _ _ _).mp after).resolve_left before

/-- Exact reports make every longest prefix begin at an attempt. -/
theorem begunAtAttempts_of_reportsExactly {stopSequences : List (List Int)} {stream : List Int}
    (exact : ∀ count ≤ stream.length, ReportsExactly stopSequences (stream.take count)) :
    BegunAtAttempts stopSequences stream where
  partials := by
    intro count inStream noOccurrence positive
    have running : ¬CompletedIn stopSequences (stream.take count) :=
      fun completedIn => noOccurrence completedIn.occurs
    have tracks := readStream_tracks running
    have reported := (exact count inStream).partialLength tracks.notFound
    rw [tracks.maxMatchProgress] at reported
    rw [← reported] at positive ⊢
    obtain ⟨stopSequence, member, progress⟩ := List.mem_map.mp (foldr_max_mem positive)
    have begun := (matchLength_eq_iff inStream positive).mp progress
    exact ⟨stopSequence, member, begun.1, begun.2⟩
  firstStop := by
    intro count inBounds noOccurrence occurs
    have running : ¬CompletedIn stopSequences (stream.take count) :=
      fun completedIn => noOccurrence completedIn.occurs
    have stopped := (exact (count + 1) inBounds).found.mpr occurs
    rw [readStream_stopTokenFound] at stopped
    obtain ⟨stopSequence, member, completed⟩ :=
      completed_of_completedIn inBounds running stopped
    have begun := (matchLength_eq_iff inBounds completed.1).mp rfl
    rw [completed.2] at begun
    exact ⟨stopSequence, member, completed.suffix, begun.2⟩

/-- When every longest prefix begins at an attempt, the matcher completes a
sequence as soon as one occurs. -/
theorem completedIn_of_occurs {stopSequences : List (List Int)} {stream : List Int}
    (nonempty : ∀ stopSequence ∈ stopSequences, stopSequence ≠ [])
    (begun : BegunAtAttempts stopSequences stream) {count : Nat}
    (inStream : count ≤ stream.length) (occurs : Occurs stopSequences (stream.take count)) :
    CompletedIn stopSequences (stream.take count) := by
  induction count with
  | zero =>
      obtain ⟨stopSequence, member, occurrence⟩ := occurs
      rw [List.take_zero, List.infix_nil] at occurrence
      exact absurd occurrence (nonempty stopSequence member)
  | succ count hypothesis =>
      have inBounds : count < stream.length := inStream
      by_cases before : Occurs stopSequences (stream.take count)
      · rw [List.take_succ_eq_append_getElem inBounds, completedIn_concat]
        exact .inl (hypothesis inBounds.le before)
      · obtain ⟨stopSequence, member, isSuffix, attempt⟩ :=
          begun.firstStop count inBounds before occurs
        have positive := List.length_pos_iff.mpr (nonempty stopSequence member)
        have progress := (matchLength_eq_iff inStream positive).mpr
          ⟨(endsWithPrefix_length_iff _ _).mpr isSuffix, attempt⟩
        exact ⟨_, List.prefix_rfl, stopSequence, member, progress ▸ positive, progress⟩

/-- The matcher's progress never exceeds the longest prefix that ends the stream. -/
theorem matchLength_le_longestPartial {stopSequences : List (List Int)} {stream : List Int}
    {stopSequence : List Int} (member : stopSequence ∈ stopSequences) :
    matchLength stopSequence stream ≤ longestPartial stopSequences stream := by
  rcases Nat.eq_zero_or_pos (matchLength stopSequence stream) with zero | positive
  · omega
  · have alive := (matchLength_eq_iff (stream.length.le_refl) positive).mp
      (congrArg (matchLength stopSequence) stream.take_length)
    rw [List.take_length] at alive
    exact alive.1.le_longestPartial member

/-- When every longest prefix begins at an attempt, the reports are exact. -/
theorem reportsExactly_of_begunAtAttempts {stopSequences : List (List Int)}
    {stream : List Int} (nonempty : ∀ stopSequence ∈ stopSequences, stopSequence ≠ [])
    (begun : BegunAtAttempts stopSequences stream) {count : Nat}
    (inStream : count ≤ stream.length) :
    ReportsExactly stopSequences (stream.take count) where
  found := by
    rw [readStream_stopTokenFound]
    exact ⟨fun completedIn => completedIn.occurs,
      fun occurs => completedIn_of_occurs nonempty begun inStream occurs⟩
  partialLength := by
    intro notFound
    have running : ¬CompletedIn stopSequences (stream.take count) := by
      rw [← readStream_stopTokenFound, notFound]
      exact Bool.false_ne_true
    have noOccurrence : ¬Occurs stopSequences (stream.take count) :=
      fun occurs => running (completedIn_of_occurs nonempty begun inStream occurs)
    rw [(readStream_tracks running).maxMatchProgress]
    apply le_antisymm
    · rw [foldr_max_le_iff]
      intro length member
      obtain ⟨stopSequence, sequenceMember, rfl⟩ := List.mem_map.mp member
      exact matchLength_le_longestPartial sequenceMember
    · rcases Nat.eq_zero_or_pos (longestPartial stopSequences (stream.take count)) with
        zero | positive
      · omega
      · obtain ⟨stopSequence, member, endsWith, attempt⟩ :=
          begun.partials count inStream noOccurrence positive
        have progress := (matchLength_eq_iff inStream positive).mpr ⟨endsWith, attempt⟩
        apply le_foldr_max
        exact List.mem_map.mpr ⟨stopSequence, member, progress⟩

end BatchItem

namespace StopTokenDetector

open BatchItem

/-! ## The detector on a stream of batches -/

/-- The detector after a call of `ProcessTokens`; a failed call leaves it as it
was. -/
def feed (detector : StopTokenDetector) (latestTokens : List Int) : StopTokenDetector :=
  match detector.processTokens latestTokens with
  | .ok processed => processed
  | .error _ => detector

/-- The detector after a sequence of calls. -/
def feedAll (detector : StopTokenDetector) (batches : List (List Int)) : StopTokenDetector :=
  batches.foldl feed detector

def itemStream (batches : List (List Int)) (index : Nat) : List Int :=
  batches.filterMap fun batch => batch[index]?

theorem feed_stopSequencesStorage (detector : StopTokenDetector) (latestTokens : List Int) :
    (detector.feed latestTokens).stopSequencesStorage = detector.stopSequencesStorage := by
  unfold feed
  cases result : detector.processTokens latestTokens with
  | error _ => rfl
  | ok processed =>
      unfold processTokens at result
      split at result
      · cases result
      · split at result
        · cases result
        · rw [← Except.ok.inj result]
          rfl

/-- Without stop sequences every call fails. -/
theorem feed_of_no_sequences {detector : StopTokenDetector} (latestTokens : List Int)
    (none : detector.stopSequencesStorage = []) : detector.feed latestTokens = detector := by
  unfold feed processTokens
  by_cases sized : latestTokens.length = detector.batchSize <;> simp [none, sized]

/-- With stop sequences a call of the configured size succeeds. -/
theorem feed_of_sequences {detector : StopTokenDetector} {latestTokens : List Int}
    (some : detector.stopSequencesStorage ≠ [])
    (sized : latestTokens.length = detector.batchSize) :
    detector.feed latestTokens = detector.processItems latestTokens := by
  simp [feed, processTokens, sized, some]

theorem readStream_of_no_sequences (stream : List Int) : readStream [] stream = initial 0 := by
  induction stream using List.reverseRecOn with
  | nil => rfl
  | append_singleton stream token hypothesis =>
      rw [readStream_concat, hypothesis]
      rfl

theorem itemStream_concat (batches : List (List Int)) {batch : List Int} {index : Nat}
    (inBounds : index < batch.length) :
    itemStream (batches ++ [batch]) index = itemStream batches index ++ [batch[index]] := by
  simp [itemStream, inBounds]

/-- Every item of a detector that was reset reads its own stream. -/
theorem feedAll_resetBatch (detector : StopTokenDetector) (batchSize : Nat)
    (batches : List (List Int))
    (sized : ∀ batch ∈ batches, batch.length = (detector.resetBatch batchSize).batchSize) :
    ((detector.resetBatch batchSize).feedAll batches).stopSequencesStorage =
        detector.stopSequencesStorage ∧
      ((detector.resetBatch batchSize).feedAll batches).batchItems =
        (List.range (detector.resetBatch batchSize).batchSize).map fun index =>
          readStream detector.stopSequencesStorage (itemStream batches index) := by
  induction batches using List.reverseRecOn with
  | nil =>
      refine ⟨rfl, ?_⟩
      have size : (detector.resetBatch batchSize).batchSize =
          if batchSize = 0 then detector.batchSize else batchSize := by
        rw [StopTokenDetector.batchSize, resetBatch, List.length_replicate]
      rw [size]
      simp [feedAll, resetBatch, itemStream, readStream, List.map_const']
  | append_singleton batches batch hypothesis =>
      obtain ⟨storage, items⟩ := hypothesis fun other member =>
        sized other (List.mem_append_left _ member)
      have batchSized := sized batch (by simp)
      have step : (detector.resetBatch batchSize).feedAll (batches ++ [batch]) =
          ((detector.resetBatch batchSize).feedAll batches).feed batch := by
        simp [feedAll]
      rw [step]
      refine ⟨by rw [feed_stopSequencesStorage, storage], ?_⟩
      by_cases none : detector.stopSequencesStorage = []
      · rw [feed_of_no_sequences batch (storage.trans none), items]
        simp only [none, readStream_of_no_sequences]
      · have sameSize : batch.length =
            ((detector.resetBatch batchSize).feedAll batches).batchSize := by
          have itemCount := congrArg List.length items
          rw [List.length_map, List.length_range] at itemCount
          rw [batchSized]
          exact itemCount.symm
        rw [feed_of_sequences (by rwa [storage]) sameSize]
        apply List.ext_getElem
        · simp [processItems, items, batchSized]
        · intro index inItems inRange
          have inBatch : index < batch.length := by simpa [batchSized] using inRange
          simp [processItems, items, storage, itemStream_concat batches inBatch,
            readStream_concat]

/-- The stop-detection contract over a whole stream of batches: after every number
of batches an item is stopped exactly when a stop sequence has occurred, at the
stop its matched length is that of a stop sequence ending there, the length then
grows by one per batch, and before the stop the partial length is that of the
longest stop-sequence prefix that ends the item's stream. -/
structure DetectsExactly (detector : StopTokenDetector) (batches : List (List Int)) :
    Prop where
  found : ∀ count ≤ batches.length, ∀ index < detector.batchSize,
    (detector.feedAll (batches.take count)).getStopTokensFound[index]? = some true ↔
      Occurs detector.stopSequencesStorage (itemStream (batches.take count) index)
  atStop : ∀ count < batches.length, ∀ index < detector.batchSize,
    (detector.feedAll (batches.take count)).getStopTokensFound[index]? = some false →
    (detector.feedAll (batches.take (count + 1))).getStopTokensFound[index]? = some true →
    ∃ stopSequence ∈ detector.stopSequencesStorage,
      stopSequence <:+ itemStream (batches.take (count + 1)) index ∧
      (detector.feedAll (batches.take (count + 1))).getStepsBeforeStopTokens[index]? =
        some stopSequence.length
  afterStop : ∀ count < batches.length, ∀ index < detector.batchSize,
    (detector.feedAll (batches.take count)).getStopTokensFound[index]? = some true →
    (detector.feedAll (batches.take (count + 1))).getStepsBeforeStopTokens[index]? =
      (detector.feedAll (batches.take count)).getStepsBeforeStopTokens[index]?.map (· + 1)
  partialLength : ∀ count ≤ batches.length, ∀ index < detector.batchSize,
    (detector.feedAll (batches.take count)).getStopTokensFound[index]? = some false →
    (detector.feedAll (batches.take count)).maxPartialStopTokenLength index =
      some (longestPartial detector.stopSequencesStorage
        (itemStream (batches.take count) index))

theorem itemStream_take {batches : List (List Int)} {index : Nat}
    (inBatches : ∀ batch ∈ batches, index < batch.length) (count : Nat) :
    itemStream (batches.take count) index = (itemStream batches index).take count := by
  induction batches generalizing count with
  | nil => simp [itemStream]
  | cons batch rest hypothesis =>
      have inBatch := inBatches batch List.mem_cons_self
      have inRest : ∀ other ∈ rest, index < other.length :=
        fun other member => inBatches other (List.mem_cons_of_mem _ member)
      have split : ∀ others : List (List Int),
          itemStream (batch :: others) index = batch[index] :: itemStream others index := by
        intro others
        simp [itemStream, inBatch]
      cases count with
      | zero => rfl
      | succ count => rw [List.take_succ_cons, split, split, List.take_succ_cons,
          hypothesis inRest]

theorem itemStream_length {batches : List (List Int)} {index : Nat}
    (inBatches : ∀ batch ∈ batches, index < batch.length) :
    (itemStream batches index).length = batches.length := by
  induction batches with
  | nil => rfl
  | cons batch rest hypothesis =>
      have inBatch := inBatches batch List.mem_cons_self
      have tail := hypothesis fun other member => inBatches other (List.mem_cons_of_mem _ member)
      simpa [itemStream, inBatch] using tail

section Reports

variable {detector : StopTokenDetector} {batchSize : Nat} {batches : List (List Int)}

theorem feedAll_take_item
    (sized : ∀ batch ∈ batches, batch.length = (detector.resetBatch batchSize).batchSize)
    (count : Nat) {index : Nat} (inBatch : index < (detector.resetBatch batchSize).batchSize) :
    ((detector.resetBatch batchSize).feedAll (batches.take count)).batchItems[index]? =
      some (readStream detector.stopSequencesStorage
        ((itemStream batches index).take count)) := by
  have spec := feedAll_resetBatch detector batchSize (batches.take count)
    fun batch member => sized batch (List.mem_of_mem_take member)
  have inBatches : ∀ batch ∈ batches, index < batch.length := by
    intro batch member
    rw [sized batch member]
    exact inBatch
  rw [spec.2, List.getElem?_map, List.getElem?_range inBatch, Option.map_some,
    itemStream_take inBatches]

/-- **Exactness of stop detection.** After a reset, the detector meets its contract
on a stream of batches exactly when in every item's stream, up to its first stop,
the longest stop-sequence prefixes begin at attempts. -/
theorem detectsExactly_iff (detector : StopTokenDetector) (batchSize : Nat)
    (batches : List (List Int))
    (sized : ∀ batch ∈ batches, batch.length = (detector.resetBatch batchSize).batchSize) :
    DetectsExactly (detector.resetBatch batchSize) batches ↔
      ∀ index < (detector.resetBatch batchSize).batchSize,
        BegunAtAttempts detector.stopSequencesStorage (itemStream batches index) := by
  have inBatches : ∀ index < (detector.resetBatch batchSize).batchSize,
      ∀ batch ∈ batches, index < batch.length := by
    intro index inBatch batch member
    rw [sized batch member]
    exact inBatch
  have storage : (detector.resetBatch batchSize).stopSequencesStorage =
      detector.stopSequencesStorage := rfl
  constructor
  · intro exact index inBatch
    apply begunAtAttempts_of_reportsExactly
    intro count inStream
    rw [itemStream_length (inBatches index inBatch)] at inStream
    have item := feedAll_take_item sized count inBatch
    have found := exact.found count inStream index inBatch
    have partialLength := exact.partialLength count inStream index inBatch
    rw [itemStream_take (inBatches index inBatch), storage] at found partialLength
    constructor
    · simpa [getStopTokensFound, item] using found
    · simpa [getStopTokensFound, maxPartialStopTokenLength, item] using partialLength
  · intro begun
    constructor
    · intro count inStream index inBatch
      rw [← itemStream_length (inBatches index inBatch)] at inStream
      have reports := reportsExactly_of_begunAtAttempts detector.nonempty
        (begun index inBatch) inStream
      rw [itemStream_take (inBatches index inBatch), storage]
      simpa [getStopTokensFound, feedAll_take_item sized count inBatch] using reports.found
    · intro count inBounds index inBatch running stopped
      have inStream := inBounds
      rw [← itemStream_length (inBatches index inBatch)] at inStream
      simp only [getStopTokensFound, getStepsBeforeStopTokens, List.getElem?_map,
        feedAll_take_item sized _ inBatch, Option.map_some, Option.some.injEq] at running stopped ⊢
      rw [itemStream_take (inBatches index inBatch)]
      rw [List.take_succ_eq_append_getElem inStream] at stopped ⊢
      exact readStream_first running stopped
    · intro count inBounds index inBatch stopped
      have inStream := inBounds
      rw [← itemStream_length (inBatches index inBatch)] at inStream
      simp only [getStopTokensFound, getStepsBeforeStopTokens, List.getElem?_map,
        feedAll_take_item sized _ inBatch, Option.map_some, Option.some.injEq] at stopped ⊢
      rw [List.take_succ_eq_append_getElem inStream]
      exact readStream_later _ stopped
    · intro count inStream index inBatch running
      rw [← itemStream_length (inBatches index inBatch)] at inStream
      have reports := reportsExactly_of_begunAtAttempts detector.nonempty
        (begun index inBatch) inStream
      rw [itemStream_take (inBatches index inBatch), storage]
      simp only [getStopTokensFound, maxPartialStopTokenLength, List.getElem?_map,
        feedAll_take_item sized count inBatch, Option.map_some, Option.some.injEq] at running ⊢
      exact reports.partialLength running

end Reports

/-- The detector of one item for one stop sequence that repeats its first token. -/
def repeatedPrefixDetector : StopTokenDetector where
  stopSequencesStorage := [[1, 1, 2]]
  batchItems := [BatchItem.initial 1]
  nonempty := by simp
  tracked := by simp [BatchItem.initial]

example : (create 1 Nat.one_pos).addStopTokenSequence [1, 1, 2] =
    .ok repeatedPrefixDetector := rfl

theorem detectsExactly_iff_repeatedPrefix :
    (∀ batch ∈ [[1], [1], [2]], batch.length = 1) ∧
    (DetectsExactly (repeatedPrefixDetector.resetBatch 1) [[1], [1], [2]] ↔
      ∀ index < 1, BegunAtAttempts [[1, 1, 2]] (itemStream [[1], [1], [2]] index)) :=
  ⟨by decide, detectsExactly_iff repeatedPrefixDetector 1 [[1], [1], [2]] (by decide)⟩

/-- After a third 1 the matcher restarts from that token and misses the stop
sequence that began one token earlier. -/
theorem detectsExactly_fails_repeatedPrefix :
    ¬DetectsExactly (repeatedPrefixDetector.resetBatch 1) [[1], [1], [1], [2]] := by
  intro exact
  have occurs : Occurs [[1, 1, 2]] (itemStream [[1], [1], [1], [2]] 0) :=
    ⟨[1, 1, 2], by decide, [1], [], by decide⟩
  have found := (exact.found 4 (by decide) 0 (by decide)).mpr occurs
  exact absurd found (by decide)

end StopTokenDetector

end LiteRTLM.Components
