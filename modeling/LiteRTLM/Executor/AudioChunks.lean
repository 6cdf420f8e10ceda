import Mathlib
import LiteRTLM.Executor.AudioExecutor
import LiteRTLM.Library.RelatedRuns

/-!
Contract: where the rows of the chunks of a spectrogram end up.

Owns: the state of `Encode` in front of each chunk, when the result is the rows of the chunks in
their order, and the numbers of valid rows for which it is.

Does not own: the encoder of a chunk.
-/

namespace LiteRTLM.Executor.Audio

open LiteRTLM.Engine
open LiteRTLM.Library
open LiteRTLM.Library.ByteImage

variable {Frame Row Encoder : Type}

/-! ## Chunks -/

/-- The chunks start at the multiples of the sequence length below the valid timestamps. -/
def chunkCount (executor : AudioExecutor Row) (mask : List Bool) : Nat :=
  (getValidCount mask + executor.geometry.sequenceLength - 1) / executor.geometry.sequenceLength

/-- The position behind a chunk. -/
def chunkStop (executor : AudioExecutor Row) (mask : List Bool) (chunk : Nat) : Nat :=
  min (chunk * executor.geometry.sequenceLength + executor.geometry.sequenceLength)
    (getValidCount mask)

/-- The slice of the embeddings for a chunk. -/
def chunkSlot (executor : AudioExecutor Row) (mask : List Bool) (chunk : Nat) :
    Except EncodeFailure (Nat × Nat) :=
  chunkSlice executor (getValidCount mask) (chunk * executor.geometry.sequenceLength)
    (chunkStop executor mask chunk)

/-- The valid rows of the chunks in front of a chunk. -/
def rowsBefore (valid : Nat → Nat) (chunk : Nat) : Nat :=
  ((List.range chunk).map valid).sum

theorem rowsBefore_succ (valid : Nat → Nat) (chunk : Nat) :
    rowsBefore valid (chunk + 1) = rowsBefore valid chunk + valid chunk := by
  simp only [rowsBefore, List.range_succ, List.map_append, List.map_singleton, List.sum_append,
    List.sum_singleton]

theorem lt_chunkCount {executor : AudioExecutor Row} {mask : List Bool} {chunk : Nat} :
    chunk < chunkCount executor mask ↔
      chunk * executor.geometry.sequenceLength < getValidCount mask := by
  have positive := executor.geometry.sequenceLength_pos
  rw [chunkCount, ← Nat.succ_le_iff, Nat.le_div_iff_mul_le positive, Nat.succ_mul]
  omega

theorem getValidCount_le (mask : List Bool) : getValidCount mask ≤ mask.length := by
  have shorter :=
    (List.dropWhile_sublist (fun entry => entry = false) (l := mask.reverse)).length_le
  rw [List.length_reverse] at shorter
  exact shorter

theorem le_chunkCount_mul (executor : AudioExecutor Row) (mask : List Bool) :
    getValidCount mask ≤ chunkCount executor mask * executor.geometry.sequenceLength := by
  have last : ¬chunkCount executor mask < chunkCount executor mask := Nat.lt_irrefl _
  rw [lt_chunkCount] at last
  omega

/-! ## Slices -/

theorem embeddingsSlice_inside {size : Nat} {position length : Int} {first many : Nat}
    (slice : embeddingsSlice size position length = .ok (first, many)) : first + many ≤ size := by
  unfold embeddingsSlice at slice
  by_cases inside : 0 ≤ position ∧ position ≤ size
  · rw [if_pos inside] at slice
    simp only [Except.ok.injEq, Prod.mk.injEq] at slice
    obtain ⟨rfl, rfl⟩ := slice
    split <;> omega
  · rw [if_neg inside] at slice
    exact absurd slice nofun

theorem chunkSlot_inside {executor : AudioExecutor Row} {mask : List Bool} {chunk : Nat}
    {position reserved : Nat}
    (slot : chunkSlot executor mask chunk = .ok (position, reserved)) :
    position + reserved ≤ getValidCount mask := by
  unfold chunkSlot chunkSlice at slot
  cases start : ceilIntDiv (chunk * executor.geometry.sequenceLength : Nat)
      executor.encoderShrinkingFactor with
  | error failure =>
      rw [start] at slot
      exact absurd slot nofun
  | ok first =>
      cases size : ceilIntDiv (chunkStop executor mask chunk -
          chunk * executor.geometry.sequenceLength : Nat) executor.encoderShrinkingFactor with
      | error failure =>
          rw [start, size] at slot
          exact absurd slot nofun
      | ok many =>
          rw [start, size] at slot
          exact embeddingsSlice_inside slot

/-- A slice that cannot be formed is a crash. -/
theorem chunkSlot_crash {executor : AudioExecutor Row} {mask : List Bool} {chunk : Nat}
    {failure : EncodeFailure} (slot : chunkSlot executor mask chunk = .error failure)
    (status : Status) : failure ≠ .status status := by
  have division : ∀ first second : Int, ∀ failure : EncodeFailure,
      ceilIntDiv first second = .error failure → failure ≠ .status status := by
    intro first second failure fails
    unfold ceilIntDiv at fails
    split at fails
    · cases fails
      nofun
    · exact absurd fails nofun
  unfold chunkSlot chunkSlice at slot
  cases start : ceilIntDiv (chunk * executor.geometry.sequenceLength : Nat)
      executor.encoderShrinkingFactor with
  | error earlier =>
      rw [start] at slot
      cases slot
      exact division _ _ _ start
  | ok first =>
      cases size : ceilIntDiv (chunkStop executor mask chunk -
          chunk * executor.geometry.sequenceLength : Nat) executor.encoderShrinkingFactor with
      | error earlier =>
          rw [start, size] at slot
          cases slot
          exact division _ _ _ size
      | ok many =>
          rw [start, size] at slot
          change embeddingsSlice _ _ _ = _ at slot
          unfold embeddingsSlice at slot
          split at slot
          · exact absurd slot nofun
          · cases slot
            nofun

/-- The frames of a chunk are in the spectrogram, and its valid rows fit in its slice. -/
structure ChunkFits (executor : AudioExecutor Row) (spectrogram : List Frame) (mask : List Bool)
    (valid : Nat → Nat) (chunk : Nat) : Prop where
  framesInside : chunk * executor.geometry.sequenceLength ≤ spectrogram.length
  rowsReserved : ∃ position reserved,
    chunkSlot executor mask chunk = .ok (position, reserved) ∧ valid chunk ≤ reserved

/-- The rows of a chunk belong where its slice starts; a chunk without rows belongs anywhere. -/
def ChunkFollows (executor : AudioExecutor Row) (mask : List Bool) (valid : Nat → Nat)
    (chunk : Nat) : Prop :=
  valid chunk = 0 ∨
    ∃ reserved, chunkSlot executor mask chunk = .ok (rowsBefore valid chunk, reserved)

/-! ## What Encode should return -/

def chunkOf {α : Type} (executor : AudioExecutor Row) (mask : List Bool) (span : List α)
    (chunk : Nat) : List α :=
  (span.drop (chunk * executor.geometry.sequenceLength)).take
    (chunkStop executor mask chunk - chunk * executor.geometry.sequenceLength)

/-- The encoder returns the given rows for each chunk, whatever it carries from one to the next. -/
def AnswersChunks (executor : AudioExecutor Row) (encodeInternal : ChunkEncoder Frame Row Encoder)
    (spectrogram : List Frame) (mask : List Bool) (states : Nat → Encoder)
    (rows : Nat → List Row) : Prop :=
  ∀ chunk, chunk < chunkCount executor mask →
    encodeInternal (chunkOf executor mask spectrogram chunk) (chunkOf executor mask mask chunk)
      (states chunk) = .ok (rows chunk) (states (chunk + 1))

/-- The outcome of an `Encode` whose chunks have the given rows: no crash, no row behind a
reserved slice, and the rows of all chunks in their order. -/
structure EncodedInOrder (count : Nat) (rows : Nat → List Row)
    (outcome : EStateM.Result EncodeFailure (EncodeState Encoder Row) (AudioData Row)) : Prop where
  refused : ∀ failure state, outcome = .error failure state → ∃ status, failure = .status status
  insideReserved : ∀ write ∈ (stoppedIn outcome).writes, write.written ≤ write.reserved
  embeddings : ∀ data state, outcome = .ok data state →
    data.embeddings = (List.range count).flatMap rows
  validTokens : ∀ data state, outcome = .ok data state →
    data.validTokens = rowsBefore (fun chunk => (rows chunk).length) count

/-- Whatever rows the chunks have, as long as they are that many. -/
def EncodesInOrder (executor : AudioExecutor Row) (spectrogram : List Frame) (mask : List Bool)
    (valid : Nat → Nat) : Prop :=
  ∀ (Encoder : Type) (encodeInternal : ChunkEncoder Frame Row Encoder) (states : Nat → Encoder)
    (rows : Nat → List Row), (∀ chunk, (rows chunk).length = valid chunk) →
    AnswersChunks executor encodeInternal spectrogram mask states rows →
    EncodedInOrder (chunkCount executor mask) rows
      (encodeMasked executor encodeInternal spectrogram mask (states 0))

/-! ## The state in front of a chunk -/

section Prefix

variable (executor : AudioExecutor Row) (encodeInternal : ChunkEncoder Frame Row Encoder)
  (spectrogram : List Frame) (mask : List Bool) (states : Nat → Encoder) (rows : Nat → List Row)

/-- The slice of a chunk, where it has one. -/
def slotOf (chunk : Nat) : Nat × Nat := ((chunkSlot executor mask chunk).toOption).getD (0, 0)

/-- The state in front of a chunk, when the chunks before it were encoded. -/
def stateBefore : Nat → EncodeState Encoder Row
  | 0 => ⟨states 0, List.replicate (getValidCount mask) executor.zeroRow, 0, []⟩
  | chunk + 1 =>
      let before := stateBefore chunk
      let slot := slotOf executor mask chunk
      {
        encoder          := states (chunk + 1)
        audioEmbeddings  :=
          overwrite executor.zeroRow before.audioEmbeddings slot.1 (rows chunk)
        totalValidTokens := before.totalValidTokens + (rows chunk).length
        writes           := before.writes ++ [⟨slot.1, slot.2, (rows chunk).length⟩]
      }

variable {executor encodeInternal spectrogram mask rows} {chunk : Nat}

theorem slotOf_eq {position reserved : Nat}
    (slot : chunkSlot executor mask chunk = .ok (position, reserved)) :
    slotOf executor mask chunk = (position, reserved) := by
  rw [slotOf, slot]
  rfl

theorem stateBefore_encoder (chunk : Nat) :
    (stateBefore executor mask states rows chunk).encoder = states chunk := by
  cases chunk <;> rfl

theorem stateBefore_totalValidTokens (chunk : Nat) :
    (stateBefore executor mask states rows chunk).totalValidTokens =
      rowsBefore (fun index => (rows index).length) chunk := by
  induction chunk with
  | zero => rfl
  | succ chunk inductionHypothesis =>
      rw [rowsBefore_succ, ← inductionHypothesis]
      rfl

/-- Chunks that fit keep the number of embeddings. -/
theorem stateBefore_length
    (fits : ∀ earlier, earlier < chunk →
      ChunkFits executor spectrogram mask (fun index => (rows index).length) earlier) :
    (stateBefore executor mask states rows chunk).audioEmbeddings.length = getValidCount mask := by
  induction chunk with
  | zero => exact List.length_replicate
  | succ chunk inductionHypothesis =>
      obtain ⟨position, reserved, slot, enough⟩ :=
        (fits chunk (Nat.lt_succ_self chunk)).rowsReserved
      have before := inductionHypothesis fun earlier below => fits earlier (by omega)
      have inside := chunkSlot_inside slot
      rw [stateBefore, overwrite_length, before, slotOf_eq slot]
      simp only at enough ⊢
      omega

theorem stateBefore_writes
    (fits : ∀ earlier, earlier < chunk →
      ChunkFits executor spectrogram mask (fun index => (rows index).length) earlier) :
    ∀ write ∈ (stateBefore executor mask states rows chunk).writes,
      write.written ≤ write.reserved := by
  induction chunk with
  | zero =>
      intro write written
      exact absurd written List.not_mem_nil
  | succ chunk inductionHypothesis =>
      intro write written
      obtain ⟨position, reserved, slot, enough⟩ :=
        (fits chunk (Nat.lt_succ_self chunk)).rowsReserved
      rcases List.mem_append.mp written with earlier | last
      · exact inductionHypothesis (fun index below => fits index (by omega)) write earlier
      · rw [List.mem_singleton.mp last, slotOf_eq slot]
        exact enough

/-! ## One chunk -/

theorem subspan_chunk {α : Type} {span : List α}
    (inside : chunk * executor.geometry.sequenceLength ≤ span.length) :
    subspan span (chunk * executor.geometry.sequenceLength)
        (chunkStop executor mask chunk - chunk * executor.geometry.sequenceLength) =
      .ok (chunkOf executor mask span chunk) := by
  rw [subspan, if_pos inside]
  rfl

theorem subspan_mask (below : chunk < chunkCount executor mask) :
    subspan mask (chunk * executor.geometry.sequenceLength)
        (chunkStop executor mask chunk - chunk * executor.geometry.sequenceLength) =
      .ok (chunkOf executor mask mask chunk) := by
  apply subspan_chunk
  have start := lt_chunkCount.mp below
  have whole := getValidCount_le mask
  omega

/-- A chunk that has a slice is encoded, and its rows are written at the start of the slice. -/
theorem encodeChunk_eq (below : chunk < chunkCount executor mask)
    (answers : AnswersChunks executor encodeInternal spectrogram mask states rows)
    (framesInside : chunk * executor.geometry.sequenceLength ≤ spectrogram.length)
    {position reserved : Nat}
    (slot : chunkSlot executor mask chunk = .ok (position, reserved))
    {state : EncodeState Encoder Row} (sized : state.audioEmbeddings.length = getValidCount mask)
    (carries : state.encoder = states chunk) :
    encodeChunk executor encodeInternal spectrogram mask
        (chunk * executor.geometry.sequenceLength) (chunkStop executor mask chunk) state =
      writeRows executor position reserved (rows chunk)
        { state with encoder := states (chunk + 1) } := by
  have frames : subspan spectrogram (chunk * executor.geometry.sequenceLength)
      (chunkStop executor mask chunk - chunk * executor.geometry.sequenceLength) =
        .ok (chunkOf executor mask spectrogram chunk) := subspan_chunk framesInside
  have flags := subspan_mask below
  have answer := answers chunk below
  rw [chunkSlot] at slot
  simp only [encodeChunk, orEnd, frames, flags, callEncoder, bind, EStateM.bind, pure, EStateM.pure,
    get, getThe, MonadStateOf.get, EStateM.get, sized, slot, carries, answer]

/-- A chunk whose rows fit leads to the next chunk. -/
theorem encodeChunk_fits (below : chunk < chunkCount executor mask)
    (answers : AnswersChunks executor encodeInternal spectrogram mask states rows)
    (fits : ∀ earlier, earlier ≤ chunk →
      ChunkFits executor spectrogram mask (fun index => (rows index).length) earlier) :
    encodeChunk executor encodeInternal spectrogram mask
        (chunk * executor.geometry.sequenceLength) (chunkStop executor mask chunk)
        (stateBefore executor mask states rows chunk) =
      .ok () (stateBefore executor mask states rows (chunk + 1)) := by
  have fitsHere := fits chunk (Nat.le_refl chunk)
  obtain ⟨position, reserved, slot, enough⟩ := fitsHere.rowsReserved
  have sized := stateBefore_length states fun earlier before =>
    fits earlier (Nat.le_of_lt before)
  have inside := chunkSlot_inside slot
  rw [encodeChunk_eq states below answers fitsHere.framesInside slot sized
      (stateBefore_encoder states chunk),
    writeRows, if_pos (by simp only [sized] at enough ⊢; omega), stateBefore, slotOf_eq slot]

/-! ## The chunks in front of a chunk -/

theorem chunkStop_eq (chunk : Nat) :
    chunkStop executor mask chunk =
      min ((chunk + 1) * executor.geometry.sequenceLength) (getValidCount mask) := by
  rw [chunkStop, Nat.succ_mul]

/-- One round of the loop. -/
theorem encodeLoop_chunk (below : chunk < chunkCount executor mask) (steps : Nat) :
    encodeLoop executor encodeInternal spectrogram mask (getValidCount mask) (steps + 1)
        (min (chunk * executor.geometry.sequenceLength) (getValidCount mask)) =
      (encodeChunk executor encodeInternal spectrogram mask
          (chunk * executor.geometry.sequenceLength) (chunkStop executor mask chunk) >>= fun _ =>
        encodeLoop executor encodeInternal spectrogram mask (getValidCount mask) steps
          (min ((chunk + 1) * executor.geometry.sequenceLength) (getValidCount mask))) := by
  have start := lt_chunkCount.mp below
  rw [Nat.min_eq_left (Nat.le_of_lt start), encodeLoop, if_pos start, ← chunkStop_eq]
  rfl

theorem lt_validCount_of_lt_chunkCount (below : chunk < chunkCount executor mask) :
    chunk < getValidCount mask := by
  have start := lt_chunkCount.mp below
  have grows := Nat.le_mul_of_pos_right chunk executor.geometry.sequenceLength_pos
  omega

/-- The loop reaches a chunk when the chunks in front of it fit. -/
theorem encodeLoop_reaches
    (answers : AnswersChunks executor encodeInternal spectrogram mask states rows)
    (reached : chunk ≤ chunkCount executor mask)
    (fits : ∀ earlier, earlier < chunk →
      ChunkFits executor spectrogram mask (fun index => (rows index).length) earlier) :
    encodeLoop executor encodeInternal spectrogram mask (getValidCount mask) (getValidCount mask) 0
        (stateBefore executor mask states rows 0) =
      encodeLoop executor encodeInternal spectrogram mask (getValidCount mask)
        (getValidCount mask - chunk)
        (min (chunk * executor.geometry.sequenceLength) (getValidCount mask))
        (stateBefore executor mask states rows chunk) := by
  induction chunk with
  | zero => rw [Nat.zero_mul, Nat.zero_min, Nat.sub_zero]
  | succ chunk inductionHypothesis =>
      have below : chunk < chunkCount executor mask := reached
      have some := lt_validCount_of_lt_chunkCount below
      have encoded := encodeChunk_fits states below answers fun earlier before =>
        fits earlier (by omega)
      rw [inductionHypothesis (by omega) fun earlier before => fits earlier (by omega),
        show getValidCount mask - chunk = getValidCount mask - (chunk + 1) + 1 by omega,
        encodeLoop_chunk below]
      simp only [bind, EStateM.bind, encoded]

/-- Chunks that all fit are all encoded. -/
theorem encodeLoop_fits
    (answers : AnswersChunks executor encodeInternal spectrogram mask states rows)
    (fits : ∀ earlier, earlier < chunkCount executor mask →
      ChunkFits executor spectrogram mask (fun index => (rows index).length) earlier) :
    encodeLoop executor encodeInternal spectrogram mask (getValidCount mask) (getValidCount mask) 0
        (stateBefore executor mask states rows 0) =
      .ok () (stateBefore executor mask states rows (chunkCount executor mask)) := by
  rw [encodeLoop_reaches states answers (Nat.le_refl _) fits,
    Nat.min_eq_right (le_chunkCount_mul executor mask)]
  cases getValidCount mask - chunkCount executor mask with
  | zero => rfl
  | succ steps =>
      rw [encodeLoop, if_neg (Nat.lt_irrefl _)]
      rfl

/-! ## The embeddings -/

theorem length_flatMap_rows (rows : Nat → List Row) (chunk : Nat) :
    ((List.range chunk).flatMap rows).length =
      rowsBefore (fun index => (rows index).length) chunk :=
  List.length_flatMap

/-- Chunks that fit and follow one another fill the embeddings from the start. -/
theorem stateBefore_audioEmbeddings
    (fits : ∀ earlier, earlier < chunk →
      ChunkFits executor spectrogram mask (fun index => (rows index).length) earlier)
    (follows : ∀ earlier, earlier < chunk →
      ChunkFollows executor mask (fun index => (rows index).length) earlier) :
    ∃ unused, (stateBefore executor mask states rows chunk).audioEmbeddings =
      (List.range chunk).flatMap rows ++ List.replicate unused executor.zeroRow := by
  induction chunk with
  | zero => exact ⟨getValidCount mask, rfl⟩
  | succ chunk inductionHypothesis =>
      obtain ⟨unused, before⟩ := inductionHypothesis (fun earlier below => fits earlier (by omega))
        (fun earlier below => follows earlier (by omega))
      obtain ⟨position, reserved, slot, enough⟩ :=
        (fits chunk (Nat.lt_succ_self chunk)).rowsReserved
      have sized := stateBefore_length states fun earlier below =>
        fits earlier (Nat.lt_succ_of_lt below)
      have inside := chunkSlot_inside slot
      rw [List.range_succ, List.flatMap_append, List.flatMap_singleton, stateBefore, slotOf_eq slot]
      simp only at enough ⊢
      rcases follows chunk (Nat.lt_succ_self chunk) with none | ⟨many, starts⟩
      · rw [List.length_eq_zero_iff.mp none, overwrite_nothing _ (by omega), List.append_nil]
        exact ⟨unused, before⟩
      · rw [slot] at starts
        simp only [Except.ok.injEq, Prod.mk.injEq] at starts
        obtain ⟨rfl, rfl⟩ := starts
        rw [before, List.length_append, length_flatMap_rows, List.length_replicate] at sized
        rw [before, ← length_flatMap_rows, overwrite_unused]
        exact ⟨unused - (rows chunk).length, rfl⟩

/-- Where one chunk has the only row that is not zero, that row is at the start of its slice. -/
theorem stateBefore_label {special count : Nat} {label : Row} (nonzero : label ≠ executor.zeroRow)
    (fits : ∀ earlier, earlier < count →
      ChunkFits executor spectrogram mask (fun index => (rows index).length) earlier)
    (first : ∀ place, (rows special)[place]? = some label → place = 0)
    (others : ∀ chunk, chunk ≠ special → label ∉ rows chunk) {place : Nat}
    (found : (stateBefore executor mask states rows count).audioEmbeddings[place]? = some label) :
    place = (slotOf executor mask special).1 := by
  induction count with
  | zero =>
      have zero := List.eq_of_mem_replicate (List.mem_of_getElem? found)
      exact absurd zero nonzero
  | succ chunk inductionHypothesis =>
      have fitsBefore : ∀ earlier, earlier < chunk → ChunkFits executor spectrogram mask
          (fun index => (rows index).length) earlier := fun earlier below => fits earlier (by omega)
      obtain ⟨position, reserved, slot, _⟩ :=
        (fits chunk (Nat.lt_succ_self chunk)).rowsReserved
      have inside := chunkSlot_inside slot
      have sized := stateBefore_length states fitsBefore
      rw [stateBefore, slotOf_eq slot] at found
      simp only at found
      rw [getElem?_overwrite _ _ _ _ (by omega)] at found
      by_cases written : position ≤ place ∧ place < position + (rows chunk).length
      · rw [if_pos written] at found
        by_cases here : chunk = special
        · rw [here] at found slot
          have start := first _ found
          rw [slotOf_eq slot]
          simp only
          omega
        · exact absurd (List.mem_of_getElem? found) (others chunk here)
      · rw [if_neg written] at found
        exact inductionHypothesis fitsBefore found

end Prefix

/-! ## The end of the loop -/

section Writes

variable {executor : AudioExecutor Row} {write : ChunkWrite}

/-- A program does not forget a write. -/
def KeepsWrite {α : Type} (write : ChunkWrite) (program : EncodeM Encoder Row α) : Prop :=
  ∀ state, write ∈ state.writes → write ∈ (stoppedIn (program state)).writes

theorem KeepsWrite.bind {α β : Type} {first : EncodeM Encoder Row α}
    {rest : α → EncodeM Encoder Row β} (keepsFirst : KeepsWrite write first)
    (keepsRest : ∀ value, KeepsWrite write (rest value)) : KeepsWrite write (first >>= rest) := by
  intro state written
  have kept := keepsFirst state written
  simp only [Bind.bind, EStateM.bind]
  cases outcome : first state with
  | ok value next =>
      rw [outcome] at kept
      exact keepsRest value next kept
  | error failure next =>
      rw [outcome] at kept
      exact kept

theorem keepsWrite_pure {α : Type} (value : α) :
    KeepsWrite write (pure value : EncodeM Encoder Row α) := fun _ written => written

theorem keepsWrite_get : KeepsWrite write (get : EncodeM Encoder Row _) := fun _ written => written

theorem keepsWrite_orEnd {α : Type} (outcome : Except EncodeFailure α) :
    KeepsWrite write (orEnd outcome : EncodeM Encoder Row α) := by
  intro state written
  cases outcome <;> exact written

theorem keepsWrite_callEncoder (encodeInternal : ChunkEncoder Frame Row Encoder)
    (frames : List Frame) (mask : List Bool) :
    KeepsWrite write (callEncoder encodeInternal frames mask) := by
  intro state written
  unfold callEncoder
  cases encodeInternal frames mask state.encoder <;> exact written

theorem keepsWrite_writeRows (position reserved : Nat) (rows : List Row) :
    KeepsWrite write (writeRows executor position reserved rows : EncodeM Encoder Row Unit) := by
  intro state written
  unfold writeRows
  split <;> exact List.mem_append_left _ written

theorem keepsWrite_encodeChunk (encodeInternal : ChunkEncoder Frame Row Encoder)
    (spectrogram : List Frame) (mask : List Bool) (pos stop : Nat) :
    KeepsWrite write (encodeChunk executor encodeInternal spectrogram mask pos stop) := by
  apply KeepsWrite.bind (keepsWrite_orEnd _)
  intro frames
  apply KeepsWrite.bind (keepsWrite_orEnd _)
  intro flags
  apply KeepsWrite.bind keepsWrite_get
  intro state
  apply KeepsWrite.bind (keepsWrite_orEnd _)
  intro slot
  apply KeepsWrite.bind (keepsWrite_callEncoder encodeInternal frames flags)
  intro rows
  exact keepsWrite_writeRows _ _ rows

theorem keepsWrite_encodeLoop (encodeInternal : ChunkEncoder Frame Row Encoder)
    (spectrogram : List Frame) (mask : List Bool) (inputSequenceLength steps pos : Nat) :
    KeepsWrite write (encodeLoop executor encodeInternal spectrogram mask inputSequenceLength steps
      pos) := by
  induction steps generalizing pos with
  | zero => exact keepsWrite_pure ()
  | succ steps inductionHypothesis =>
      unfold encodeLoop
      split
      · apply KeepsWrite.bind (keepsWrite_encodeChunk encodeInternal spectrogram mask _ _)
        intro _
        exact inductionHypothesis _
      · exact keepsWrite_pure ()

theorem keepsWrite_finishEncode :
    KeepsWrite write (finishEncode executor : EncodeM Encoder Row (AudioData Row)) := by
  intro state written
  simp only [finishEncode, bind, EStateM.bind, get, getThe, MonadStateOf.get, EStateM.get]
  cases executor.createManaged [1, state.totalValidTokens] state.audioEmbeddings.length with
  | none => exact written
  | some status => exact written

end Writes

/-! ## When the rows are in order -/

section Order

variable {executor : AudioExecutor Row} {encodeInternal : ChunkEncoder Frame Row Encoder}
  {spectrogram : List Frame} {mask : List Bool} {states : Nat → Encoder} {rows : Nat → List Row}
  {valid : Nat → Nat} {chunk : Nat}

/-- Chunks that all fit leave the result to the creation of its tensor. -/
theorem encodeMasked_fits
    (answers : AnswersChunks executor encodeInternal spectrogram mask states rows)
    (fits : ∀ earlier, earlier < chunkCount executor mask →
      ChunkFits executor spectrogram mask (fun index => (rows index).length) earlier) :
    encodeMasked executor encodeInternal spectrogram mask (states 0) =
      finishEncode executor
        (stateBefore executor mask states rows (chunkCount executor mask)) := by
  have whole := encodeLoop_fits states answers fits
  rw [stateBefore] at whole
  simp only [encodeMasked, bind, EStateM.bind, whole]

theorem finishEncode_refused {state : EncodeState Encoder Row} {status : Status}
    (refuses : executor.createManaged [1, state.totalValidTokens] state.audioEmbeddings.length =
      some status) :
    finishEncode executor state = .error (.status status) state := by
  simp only [finishEncode, bind, EStateM.bind, get, getThe, MonadStateOf.get, EStateM.get, refuses]
  rfl

theorem finishEncode_created {state : EncodeState Encoder Row}
    (creates : executor.createManaged [1, state.totalValidTokens] state.audioEmbeddings.length =
      none) :
    finishEncode executor state =
      .ok ⟨state.audioEmbeddings.take state.totalValidTokens, state.totalValidTokens⟩ state := by
  simp only [finishEncode, bind, EStateM.bind, get, getThe, MonadStateOf.get, EStateM.get, creates]
  rfl

/-- Rows that fit and follow one another are returned in order. -/
theorem encodedInOrder_of_follows
    (answers : AnswersChunks executor encodeInternal spectrogram mask states rows)
    (fits : ∀ earlier, earlier < chunkCount executor mask →
      ChunkFits executor spectrogram mask (fun index => (rows index).length) earlier)
    (follows : executor.createManaged
        [1, rowsBefore (fun index => (rows index).length) (chunkCount executor mask)]
        (getValidCount mask) ≠ none ∨
      ∀ earlier, earlier < chunkCount executor mask →
        ChunkFollows executor mask (fun index => (rows index).length) earlier) :
    EncodedInOrder (chunkCount executor mask) rows
      (encodeMasked executor encodeInternal spectrogram mask (states 0)) := by
  have total : (stateBefore executor mask states rows
      (chunkCount executor mask)).totalValidTokens = _ := stateBefore_totalValidTokens states _
  have sized := stateBefore_length states fits
  have inside := stateBefore_writes states fits
  rw [encodeMasked_fits answers fits]
  cases creation : executor.createManaged
      [1, rowsBefore (fun index => (rows index).length) (chunkCount executor mask)]
      (getValidCount mask) with
  | some status =>
      rw [finishEncode_refused (by rw [total, sized]; exact creation)]
      exact {
        refused       := fun failure state stops => by
          cases stops
          exact ⟨status, rfl⟩
        insideReserved := inside
        embeddings    := nofun
        validTokens   := nofun
      }
  | none =>
      have inOrder := follows.resolve_left fun refuses => refuses creation
      obtain ⟨unused, filled⟩ := stateBefore_audioEmbeddings states fits inOrder
      rw [finishEncode_created (by rw [total, sized]; exact creation)]
      exact {
        refused       := nofun
        insideReserved := inside
        embeddings    := fun data state returns => by
          cases returns
          rw [total, filled, ← length_flatMap_rows, List.take_left]
        validTokens   := fun data state returns => by
          cases returns
          exact total
      }

/-- Where the chunks in front of a chunk fit, `Encode` comes to the chunk. -/
theorem encodeMasked_reaches
    (answers : AnswersChunks executor encodeInternal spectrogram mask states rows)
    (below : chunk < chunkCount executor mask)
    (fits : ∀ earlier, earlier < chunk →
      ChunkFits executor spectrogram mask (fun index => (rows index).length) earlier) :
    ∃ rest : EncodeM Encoder Row (AudioData Row), (∀ write, KeepsWrite write rest) ∧
      encodeMasked executor encodeInternal spectrogram mask (states 0) =
        (encodeChunk executor encodeInternal spectrogram mask
          (chunk * executor.geometry.sequenceLength) (chunkStop executor mask chunk) >>=
            fun _ => rest) (stateBefore executor mask states rows chunk) := by
  have some := lt_validCount_of_lt_chunkCount below
  have reaches := encodeLoop_reaches states answers (Nat.le_of_lt below) fits
  rw [show getValidCount mask - chunk = getValidCount mask - (chunk + 1) + 1 by omega,
    encodeLoop_chunk below, stateBefore] at reaches
  let later := encodeLoop executor encodeInternal spectrogram mask (getValidCount mask)
    (getValidCount mask - (chunk + 1))
    (min ((chunk + 1) * executor.geometry.sequenceLength) (getValidCount mask))
  refine ⟨later >>= fun _ => finishEncode executor, ?_, ?_⟩
  · intro write
    exact (keepsWrite_encodeLoop encodeInternal spectrogram mask _ _ _).bind
      fun _ => keepsWrite_finishEncode
  · simp only [encodeMasked, bind, EStateM.bind, reaches]
    cases encodeChunk executor encodeInternal spectrogram mask
        (chunk * executor.geometry.sequenceLength) (chunkStop executor mask chunk)
        (stateBefore executor mask states rows chunk) <;> rfl

/-- A failure of a chunk is the failure of the `Encode`. -/
theorem bind_error {α β : Type} {first : EncodeM Encoder Row α} {rest : α → EncodeM Encoder Row β}
    {state stopped : EncodeState Encoder Row} {failure : EncodeFailure}
    (fails : first state = .error failure stopped) :
    (first >>= rest) state = .error failure stopped := by
  simp only [bind, EStateM.bind, fails]

/-- A chunk behind the end of the spectrogram crashes. -/
theorem encodeChunk_outside
    (outside : ¬chunk * executor.geometry.sequenceLength ≤ spectrogram.length)
    (state : EncodeState Encoder Row) :
    encodeChunk executor encodeInternal spectrogram mask
        (chunk * executor.geometry.sequenceLength) (chunkStop executor mask chunk) state =
      .error .outOfRange state := by
  simp only [encodeChunk, subspan, if_neg outside, orEnd, bind, EStateM.bind]
  rfl

/-- A chunk without a slice crashes. -/
theorem encodeChunk_unslotted (below : chunk < chunkCount executor mask)
    (framesInside : chunk * executor.geometry.sequenceLength ≤ spectrogram.length)
    {failure : EncodeFailure} (slot : chunkSlot executor mask chunk = .error failure)
    {state : EncodeState Encoder Row} (sized : state.audioEmbeddings.length = getValidCount mask) :
    encodeChunk executor encodeInternal spectrogram mask
        (chunk * executor.geometry.sequenceLength) (chunkStop executor mask chunk) state =
      .error failure state := by
  have frames : subspan spectrogram (chunk * executor.geometry.sequenceLength)
      (chunkStop executor mask chunk - chunk * executor.geometry.sequenceLength) =
        .ok (chunkOf executor mask spectrogram chunk) := subspan_chunk framesInside
  have flags := subspan_mask below
  rw [chunkSlot] at slot
  simp only [encodeChunk, orEnd, frames, flags, bind, EStateM.bind, pure, EStateM.pure, get, getThe,
    MonadStateOf.get, EStateM.get, sized, slot]
  rfl

/-- The write of a chunk is in the log, also when it is behind the end of the embeddings. -/
theorem mem_writes_writeRows (executor : AudioExecutor Row) (position reserved : Nat)
    (written : List Row) (state : EncodeState Encoder Row) :
    (⟨position, reserved, written.length⟩ : ChunkWrite) ∈
      (stoppedIn (writeRows executor position reserved written state)).writes := by
  unfold writeRows
  split <;> exact List.mem_append_right _ List.mem_cons_self

/-- The first chunk that does not fit spoils the result. -/
theorem fits_of_encodedInOrder
    (answers : AnswersChunks executor encodeInternal spectrogram mask states rows)
    (inOrder : EncodedInOrder (chunkCount executor mask) rows
      (encodeMasked executor encodeInternal spectrogram mask (states 0))) :
    ∀ chunk, chunk < chunkCount executor mask →
      ChunkFits executor spectrogram mask (fun index => (rows index).length) chunk := by
  intro chunk
  induction chunk using Nat.strong_induction_on with
  | h chunk inductionHypothesis =>
      intro below
      have fits : ∀ earlier, earlier < chunk → ChunkFits executor spectrogram mask
          (fun index => (rows index).length) earlier := fun earlier before =>
        inductionHypothesis earlier before (by omega)
      have sized := stateBefore_length states fits
      obtain ⟨rest, keeps, reaches⟩ := encodeMasked_reaches answers below fits
      rw [reaches] at inOrder
      have framesInside : chunk * executor.geometry.sequenceLength ≤ spectrogram.length := by
        by_contra outside
        obtain ⟨status, refused⟩ := inOrder.refused _ _ (bind_error (encodeChunk_outside outside _))
        exact absurd refused nofun
      cases slot : chunkSlot executor mask chunk with
      | error failure =>
          obtain ⟨status, refused⟩ := inOrder.refused _ _
            (bind_error (encodeChunk_unslotted below framesInside slot sized))
          exact absurd refused (chunkSlot_crash slot status)
      | ok place =>
          obtain ⟨position, reserved⟩ := place
          refine ⟨framesInside, position, reserved, slot, ?_⟩
          have writes := encodeChunk_eq states below answers framesInside slot sized
            (stateBefore_encoder states chunk)
          have logged : KeepsWrite ⟨position, reserved, (rows chunk).length⟩ rest := keeps _
          have kept : (⟨position, reserved, (rows chunk).length⟩ : ChunkWrite) ∈ (stoppedIn
              ((encodeChunk executor encodeInternal spectrogram mask
                (chunk * executor.geometry.sequenceLength) (chunkStop executor mask chunk) >>=
                  fun _ => rest) (stateBefore executor mask states rows chunk))).writes := by
            have written := mem_writes_writeRows executor position reserved (rows chunk)
              { stateBefore executor mask states rows chunk with
                encoder := states (chunk + 1) }
            rw [← writes] at written
            simp only [bind, EStateM.bind]
            cases outcome : encodeChunk executor encodeInternal spectrogram mask
                (chunk * executor.geometry.sequenceLength) (chunkStop executor mask chunk)
                (stateBefore executor mask states rows chunk) with
            | ok value next =>
                rw [outcome] at written
                exact logged next written
            | error failure next =>
                rw [outcome] at written
                exact written
          exact inOrder.insideReserved _ kept

/-- Rows in order are what the embeddings begin with. -/
theorem take_of_encodedInOrder
    (answers : AnswersChunks executor encodeInternal spectrogram mask states rows)
    (fits : ∀ earlier, earlier < chunkCount executor mask →
      ChunkFits executor spectrogram mask (fun index => (rows index).length) earlier)
    (creates : executor.createManaged
      [1, rowsBefore (fun index => (rows index).length) (chunkCount executor mask)]
      (getValidCount mask) = none)
    (inOrder : EncodedInOrder (chunkCount executor mask) rows
      (encodeMasked executor encodeInternal spectrogram mask (states 0))) :
    (stateBefore executor mask states rows (chunkCount executor mask)).audioEmbeddings.take
        (rowsBefore (fun index => (rows index).length) (chunkCount executor mask)) =
      (List.range (chunkCount executor mask)).flatMap rows := by
  have total : (stateBefore executor mask states rows
      (chunkCount executor mask)).totalValidTokens = _ := stateBefore_totalValidTokens states _
  have sized := stateBefore_length states fits
  have returned := encodeMasked_fits answers fits
  rw [finishEncode_created (by rw [total, sized]; exact creates), total] at returned
  exact inOrder.embeddings _ _ returned

end Order

/-! ## Where the rows of one chunk are -/

theorem getElem?_flatMap_rows (rows : Nat → List Row) {chunk count : Nat} (below : chunk < count)
    (some : 0 < (rows chunk).length) :
    ((List.range count).flatMap rows)[rowsBefore (fun index => (rows index).length) chunk]? =
      (rows chunk)[0]? := by
  have whole : count = (chunk + 1) + (count - (chunk + 1)) := by omega
  rw [whole, List.range_add, List.flatMap_append, List.getElem?_append_left, List.range_succ,
    List.flatMap_append, List.flatMap_singleton, List.getElem?_append_right, length_flatMap_rows,
    Nat.sub_self]
  · rw [length_flatMap_rows]
  · rw [length_flatMap_rows, rowsBefore_succ]
    omega

section Label

variable (executor : AudioExecutor Row) (valid : Nat → Nat) (special : Nat) (label : Row)

/-- Rows of zeros, and one label at the start of a chunk. -/
def labelled (chunk : Nat) : List Row :=
  if chunk = special then
    (List.replicate (valid chunk) executor.zeroRow).set 0 label
  else
    List.replicate (valid chunk) executor.zeroRow

theorem labelled_length (chunk : Nat) :
    (labelled executor valid special label chunk).length = valid chunk := by
  unfold labelled
  split
  · rw [List.length_set, List.length_replicate]
  · exact List.length_replicate

variable {executor valid special label}

theorem labelled_first (nonzero : label ≠ executor.zeroRow) {place : Nat}
    (found : (labelled executor valid special label special)[place]? = some label) : place = 0 := by
  by_contra later
  rw [labelled, if_pos rfl, List.getElem?_set_ne (fun same => later same.symm)] at found
  exact nonzero (List.eq_of_mem_replicate (List.mem_of_getElem? found))

theorem labelled_others (nonzero : label ≠ executor.zeroRow) (chunk : Nat)
    (other : chunk ≠ special) : label ∉ labelled executor valid special label chunk := by
  rw [labelled, if_neg other]
  exact fun labelIn => nonzero (List.eq_of_mem_replicate labelIn)

end Label

/-- An encoder that counts the chunks, and returns for each its rows. -/
def scripted (rows : Nat → List Row) : ChunkEncoder Frame Row Nat := fun _ _ chunk =>
  .ok (rows chunk) (chunk + 1)

theorem scripted_answers (executor : AudioExecutor Row) (spectrogram : List Frame)
    (mask : List Bool) (rows : Nat → List Row) :
    AnswersChunks executor (scripted rows) spectrogram mask (fun chunk => chunk) rows :=
  fun _ _ => rfl

/-- A labelled row that is returned in order starts the slice of its chunk. -/
theorem slot_of_labelled {executor : AudioExecutor Row} {spectrogram : List Frame}
    {mask : List Bool} {valid : Nat → Nat} {special : Nat} {label : Row}
    (nonzero : label ≠ executor.zeroRow) (below : special < chunkCount executor mask)
    (some : valid special ≠ 0)
    (fits : ∀ chunk, chunk < chunkCount executor mask →
      ChunkFits executor spectrogram mask valid chunk)
    (creates : executor.createManaged [1, rowsBefore valid (chunkCount executor mask)]
      (getValidCount mask) = none)
    (inOrder : EncodedInOrder (chunkCount executor mask) (labelled executor valid special label)
      (encodeMasked executor (scripted (labelled executor valid special label)) spectrogram
        mask 0)) :
    ∃ reserved, chunkSlot executor mask special = .ok (rowsBefore valid special, reserved) := by
  have answers := scripted_answers executor spectrogram mask (labelled executor valid special label)
  have counted := labelled_length executor valid special label
  have lengths : (fun chunk => (labelled executor valid special label chunk).length) = valid :=
    funext counted
  obtain ⟨position, reserved, slot, _⟩ := (fits special below).rowsReserved
  have nonempty : 0 < (labelled executor valid special label special).length := by
    rw [counted]
    exact Nat.pos_of_ne_zero some
  have start : (labelled executor valid special label special)[0]? = .some label := by
    rw [labelled, if_pos rfl, List.getElem?_set_self (by rw [List.length_replicate]; omega)]
  have expected := getElem?_flatMap_rows (labelled executor valid special label) below nonempty
  rw [← lengths] at fits creates
  rw [← take_of_encodedInOrder answers fits creates inOrder, start,
    List.getElem?_take, Option.ite_none_right_eq_some] at expected
  have place := stateBefore_label _ nonzero fits (fun _ found => labelled_first nonzero found)
    (labelled_others nonzero) expected.2
  rw [slotOf_eq slot, lengths] at place
  simp only at place
  rw [place]
  exact ⟨reserved, slot⟩

/-- `Encode` returns the rows of the chunks in their order, whatever they are, exactly if the rows
of every chunk fit in its slice, and, unless no tensor is created, every slice with rows starts
behind the rows before it. -/
theorem encodesInOrder_iff [Nontrivial Row] (executor : AudioExecutor Row)
    (spectrogram : List Frame) (mask : List Bool) (valid : Nat → Nat) :
    EncodesInOrder executor spectrogram mask valid ↔
      (∀ chunk, chunk < chunkCount executor mask →
        ChunkFits executor spectrogram mask valid chunk) ∧
      (executor.createManaged [1, rowsBefore valid (chunkCount executor mask)]
          (getValidCount mask) ≠ none ∨
        ∀ chunk, chunk < chunkCount executor mask →
          ChunkFollows executor mask valid chunk) := by
  constructor
  · intro encodes
    obtain ⟨label, nonzero⟩ := exists_ne executor.zeroRow
    have run : ∀ special, EncodedInOrder (chunkCount executor mask)
        (labelled executor valid special label)
        (encodeMasked executor (scripted (labelled executor valid special label)) spectrogram
          mask 0) := fun special =>
      encodes Nat (scripted (labelled executor valid special label)) (fun chunk => chunk) _
        (labelled_length executor valid special label)
        (scripted_answers executor spectrogram mask _)
    have counted : ∀ special, (fun chunk => (labelled executor valid special label chunk).length) =
        valid := fun special => funext (labelled_length executor valid special label)
    have fits : ∀ chunk, chunk < chunkCount executor mask →
        ChunkFits executor spectrogram mask valid chunk := by
      have answers := scripted_answers executor spectrogram mask
        (labelled executor valid 0 label)
      have all := fits_of_encodedInOrder answers (run 0)
      rw [counted] at all
      exact all
    refine ⟨fits, ?_⟩
    by_cases created : executor.createManaged
        [1, rowsBefore valid (chunkCount executor mask)] (getValidCount mask) = none
    · right
      intro special below
      by_cases empty : valid special = 0
      · exact Or.inl empty
      · right
        exact slot_of_labelled nonzero below empty fits created (run special)
    · exact Or.inl created
  · rintro ⟨fits, follows⟩ Encoder encodeInternal states rows counted answers
    have lengths : (fun chunk => (rows chunk).length) = valid := funext counted
    apply encodedInOrder_of_follows answers
    · rw [lengths]
      exact fits
    · rw [lengths]
      exact follows

/-- A streaming encoder of three timestamps with an overlap of one, and an adapter of one row: the
shrinking factor is two. -/
def overlappingExecutor : AudioExecutor Nat where
  geometry := {
    sequenceLength           := 3
    outputSequenceLength     := 1
    isStreaming              := true
    overlapSize              := 1
    sequenceLength_pos       := by decide
    outputSequenceLength_pos := by decide
  }
  encoderShrinkingFactor := 2
  created := rfl
  zeroRow := 0
  createManaged := fun _ _ => none

/-- The row of the second chunk is written behind a row of zeros, and is not returned. -/
theorem overlapping_loses_row :
    ¬∀ (executor : AudioExecutor Nat) (spectrogram : List Nat) (mask : List Bool)
      (valid : Nat → Nat), spectrogram.length = mask.length →
      (∀ chunk, valid chunk ≤ executor.geometry.outputSequenceLength) →
      EncodesInOrder executor spectrogram mask valid := by
  intro concatenates
  have inOrder := concatenates overlappingExecutor (List.replicate 6 0) (List.replicate 6 true)
    (fun _ => 1) rfl (fun _ => Nat.le_refl 1) Nat (scripted fun chunk => [chunk + 1])
    (fun chunk => chunk) (fun chunk => [chunk + 1]) (fun _ => rfl) (scripted_answers _ _ _ _)
  have returned : encodeMasked overlappingExecutor (scripted fun chunk => [chunk + 1])
      (List.replicate 6 0) (List.replicate 6 true) 0 =
        .ok ⟨[1, 0], 2⟩ ⟨2, [1, 0, 2, 0, 0, 0], 2, [⟨0, 2, 1⟩, ⟨2, 2, 1⟩]⟩ := rfl
  exact absurd (inOrder.embeddings _ _ returned) (by decide)

/-- A static encoder of four timestamps, and an adapter of two rows. -/
def staticExecutor : AudioExecutor Nat where
  geometry := {
    sequenceLength           := 4
    outputSequenceLength     := 2
    isStreaming              := false
    overlapSize              := 0
    sequenceLength_pos       := by decide
    outputSequenceLength_pos := by decide
  }
  encoderShrinkingFactor := 2
  created := rfl
  zeroRow := 0
  createManaged := fun _ _ => none

/-- The two rows of a whole chunk and the one row of half a chunk are in order. -/
theorem encodesInOrder_iff_twoChunks :
    chunkCount staticExecutor (List.replicate 6 true) = 2 ∧
      EncodesInOrder staticExecutor (List.replicate 6 0) (List.replicate 6 true)
        fun chunk => 2 - chunk := by
  refine ⟨by decide, (encodesInOrder_iff _ _ _ _).mpr ⟨?_, Or.inr ?_⟩⟩
  · intro chunk below
    change chunk < 2 at below
    interval_cases chunk
    · exact ⟨by decide, 0, _, rfl, by decide⟩
    · exact ⟨by decide, 2, _, rfl, by decide⟩
  · intro chunk below
    change chunk < 2 at below
    interval_cases chunk
    · exact Or.inr ⟨_, rfl⟩
    · exact Or.inr ⟨_, rfl⟩

/-! ## Shrinking factors -/

theorem ceilIntDiv_nat (first : Nat) {factor : Nat} (positive : 0 < factor) :
    ceilIntDiv first factor = .ok ((first + factor - 1) / factor : Nat) := by
  have sum : (first : Int) + factor - 1 = (first + factor - 1 : Nat) := by omega
  rw [ceilIntDiv, if_neg (by omega), sum, Int.ofNat_tdiv]

/-- The slice of a chunk starts at its first timestamp, divided by the factor and rounded up. -/
theorem chunkSlot_eq {executor : AudioExecutor Row} {mask : List Bool} {chunk factor : Nat}
    (shrinks : executor.encoderShrinkingFactor = factor) (positive : 0 < factor)
    (below : chunk < chunkCount executor mask) :
    ∃ reserved, chunkSlot executor mask chunk =
      .ok ((chunk * executor.geometry.sequenceLength + factor - 1) / factor, reserved) := by
  have start := lt_chunkCount.mp below
  have inside : (chunk * executor.geometry.sequenceLength + factor - 1) / factor ≤
      getValidCount mask := by
    apply Nat.div_le_of_le_mul
    have grows := Nat.le_mul_of_pos_left (getValidCount mask - 1) positive
    rw [Nat.mul_sub_one] at grows
    have wider := Nat.le_mul_of_pos_right factor (Nat.lt_of_le_of_lt (Nat.zero_le _) start)
    omega
  rw [chunkSlot, chunkSlice, shrinks, ceilIntDiv_nat _ positive, ceilIntDiv_nat _ positive]
  change ∃ reserved, embeddingsSlice _ _ _ = _
  rw [embeddingsSlice, if_pos ⟨Int.natCast_nonneg _, Int.ofNat_le.mpr inside⟩]
  exact ⟨_, rfl⟩

/-- The slices of a static encoder start at the multiples of the adapter's output length. -/
theorem chunkSlot_static {executor : AudioExecutor Row} {mask : List Bool} {chunk : Nat}
    (static : executor.geometry.isStreaming = false) (below : chunk < chunkCount executor mask) :
    ∃ reserved, chunkSlot executor mask chunk =
      .ok (chunk * executor.geometry.outputSequenceLength, reserved) := by
  have created := executor.created
  unfold EncoderGeometry.create at created
  by_cases divides :
      executor.geometry.sequenceLength % executor.geometry.outputSequenceLength ≠ 0
  · rw [if_pos divides] at created
    exact absurd created nofun
  · rw [if_neg divides, if_neg (by rw [static]; exact Bool.false_ne_true)] at created
    simp only [Except.ok.injEq] at created
    have product := Nat.div_mul_cancel (Nat.dvd_of_mod_eq_zero (not_not.mp divides))
    have positive : 0 < executor.geometry.sequenceLength /
        executor.geometry.outputSequenceLength := by
      apply Nat.pos_of_ne_zero
      intro zero
      have some := executor.geometry.sequenceLength_pos
      rw [zero, Nat.zero_mul] at product
      omega
    obtain ⟨reserved, slot⟩ := chunkSlot_eq created.symm positive below
    refine ⟨reserved, ?_⟩
    rw [slot]
    generalize executor.geometry.sequenceLength / executor.geometry.outputSequenceLength =
      factor at product positive
    have exact : chunk * executor.geometry.sequenceLength =
        factor * (chunk * executor.geometry.outputSequenceLength) := by
      rw [← product]
      ring
    rw [exact, Nat.add_sub_assoc positive, Nat.mul_add_div positive,
      Nat.div_eq_of_lt (Nat.sub_one_lt_of_lt positive), Nat.add_zero]

end LiteRTLM.Executor.Audio
