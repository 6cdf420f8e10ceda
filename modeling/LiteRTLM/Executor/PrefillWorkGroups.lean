import Mathlib.Algebra.BigOperators.Group.List.Basic
import LiteRTLM.Engine.Status

/-!
Contract: how a prefill's ids are split over the model's prefill signatures.

Owns: `SortedPrefillSignatureMap`, `GetOptimizedPrefillWorkGroups`, the spans that
`Prefill` hands to the groups, and that the groups partition the input.

Does not own: what a group's run does with its ids.

The loop that uses the longest signature runs on fuel, and the theorem says that the
input's length is enough. Lengths are unbounded integers.
-/

namespace LiteRTLM.Executor

open LiteRTLM.Engine

/-- `SortedPrefillSignatureMap`: the names of the signatures by their sequence lengths, in
descending order. -/
structure SortedPrefillSignatureMap where
  entries : List (Int × String)
  descending : entries.Pairwise fun longer shorter => shorter.1 < longer.1

namespace PrefillWorkGroups

/-! ## The groups -/

/-- The loop that uses the longest signature while the rest of the input fills it. -/
def useLongest (longest : Int × String) :
    Nat → Int → List (String × Int) → Option (Int × List (String × Int))
  | 0, _, _ => none
  | fuel + 1, inputLength, workGroups =>
      if inputLength ≥ longest.1 then
        useLongest longest fuel (inputLength - longest.1) (workGroups ++ [(longest.2, longest.1)])
      else
        some (inputLength, workGroups)

/-- The loop that finishes the rest with one signature: it skips those whose next smaller
one can handle the rest. -/
def finishRest (inputLength : Int) : List (Int × String) → List (String × Int)
  | [] => []
  | [entry] => [(entry.2, inputLength)]
  | entry :: next :: rest =>
      if next.1 ≥ inputLength then finishRest inputLength (next :: rest)
      else [(entry.2, inputLength)]

/-- `GetOptimizedPrefillWorkGroups`. `none` stands for a read through `begin()` of an empty
map, and for a loop that is still running. -/
def getOptimizedPrefillWorkGroups (fuel : Nat) (prefillRunnerSet : SortedPrefillSignatureMap)
    (inputLength : Int) : Option (List (String × Int)) := do
  let longest ← prefillRunnerSet.entries.head?
  let (rest, workGroups) ← useLongest longest fuel inputLength []
  return if rest > 0 then workGroups ++ finishRest rest prefillRunnerSet.entries
    else workGroups

/-! ## The spans of the groups -/

/-- `Span::subspan` from a position to the end; `none` is the program's end when the position
is behind the end. -/
def subspanFrom {α : Type} (ids : List α) (pos : Nat) : Option (List α) :=
  if pos ≤ ids.length then some (ids.drop pos) else none

/-- The loop of `Prefill`: the ids of each group, and what is left behind the last one. -/
def prefillSpans {α : Type} :
    List (String × Int) → List α → Option (List (String × List α) × List α)
  | [], ids => some ([], ids)
  | (prefillSignature, prefillLength) :: workGroups, ids => do
      let span := ids.take prefillLength.toNat
      let behind ← subspanFrom ids prefillLength.toNat
      let (spans, left) ← prefillSpans workGroups behind
      return ((prefillSignature, span) :: spans, left)

/-! ## The partition -/

/-- The shortest signature that can hold a number of ids. -/
structure ShortestFor (prefillRunnerSet : SortedPrefillSignatureMap) (inputLength : Int)
    (entry : Int × String) : Prop where
  isEntry : entry ∈ prefillRunnerSet.entries
  holds : inputLength ≤ entry.1
  shortest : ∀ other ∈ prefillRunnerSet.entries, inputLength ≤ other.1 → entry.1 ≤ other.1

/-- All groups use the longest signature at full length, but for a last one that is shorter
and uses the shortest signature that can hold it. -/
def FullButLast (prefillRunnerSet : SortedPrefillSignatureMap) (workGroups : List (String × Int)) :
    Prop :=
  ∃ longest full, prefillRunnerSet.entries.head? = some longest ∧
    (workGroups = List.replicate full (longest.2, longest.1) ∨
      ∃ rest entry, 0 < rest ∧ rest < longest.1 ∧ ShortestFor prefillRunnerSet rest entry ∧
        workGroups = List.replicate full (longest.2, longest.1) ++ [(entry.2, rest)])

/-- The work groups of an input. -/
structure Partition (prefillRunnerSet : SortedPrefillSignatureMap) (inputLength : Int)
    (workGroups : List (String × Int)) : Prop where
  positive : ∀ group ∈ workGroups, 0 < group.2
  total : (workGroups.map Prod.snd).sum = inputLength
  fits : ∀ group ∈ workGroups, ∃ entry ∈ prefillRunnerSet.entries,
    entry.2 = group.1 ∧ group.2 ≤ entry.1
  full : FullButLast prefillRunnerSet workGroups

/-- The loop of the longest signature takes its length as often as it fits. -/
theorem useLongest_eq {longest : Int × String} {rest : Int} (positive : 0 < longest.1)
    (nonneg : 0 ≤ rest) (short : rest < longest.1) (full fuel : Nat) (enough : full < fuel)
    (workGroups : List (String × Int)) :
    useLongest longest fuel (full * longest.1 + rest) workGroups =
      some (rest, workGroups ++ List.replicate full (longest.2, longest.1)) := by
  induction full generalizing fuel workGroups with
  | zero =>
      obtain ⟨fuel, rfl⟩ : ∃ less, fuel = less + 1 := ⟨fuel - 1, by omega⟩
      have isRest : ((0 : Nat) : Int) * longest.1 + rest = rest := by simp
      rw [isRest, useLongest, if_neg (by omega), List.replicate_zero, List.append_nil]
  | succ full inductionHypothesis =>
      obtain ⟨fuel, rfl⟩ : ∃ less, fuel = less + 1 := ⟨fuel - 1, by omega⟩
      have oneLess : ((full + 1 : Nat) : Int) * longest.1 + rest - longest.1 =
          full * longest.1 + rest := by
        push_cast
        ring
      have fills : ((full + 1 : Nat) : Int) * longest.1 + rest ≥ longest.1 := by
        have more : 0 ≤ (full : Int) * longest.1 :=
          Int.mul_nonneg (Int.natCast_nonneg full) positive.le
        omega
      rw [useLongest, if_pos fills, oneLess, inductionHypothesis fuel (by omega),
        List.append_assoc, List.replicate_succ, List.singleton_append]

/-- The search over a descending map finds the shortest signature that can hold the rest. -/
theorem finishRest_shortest {inputLength : Int} {longest : Int × String}
    {entries : List (Int × String)}
    (descending : (longest :: entries).Pairwise fun longer shorter => shorter.1 < longer.1)
    (holds : inputLength ≤ longest.1) :
    ∃ entry ∈ longest :: entries, finishRest inputLength (longest :: entries) =
        [(entry.2, inputLength)] ∧ inputLength ≤ entry.1 ∧
      ∀ other ∈ longest :: entries, inputLength ≤ other.1 → entry.1 ≤ other.1 := by
  induction entries generalizing longest with
  | nil =>
      refine ⟨longest, List.mem_singleton_self longest, rfl, holds, fun other member _ => ?_⟩
      rw [List.mem_singleton.mp member]
  | cons next rest inductionHypothesis =>
      rw [List.pairwise_cons] at descending
      obtain ⟨shorter, restDescending⟩ := descending
      by_cases nextHolds : next.1 ≥ inputLength
      · obtain ⟨entry, member, found, entryHolds, shortest⟩ :=
          inductionHypothesis restDescending nextHolds
        refine ⟨entry, List.mem_cons_of_mem _ member, ?_, entryHolds, fun other inside fits => ?_⟩
        · rw [finishRest, if_pos nextHolds, found]
        · rcases List.mem_cons.mp inside with rfl | behind
          · exact (shorter entry member).le
          · exact shortest other behind fits
      · refine ⟨longest, List.mem_cons_self, ?_, holds, fun other inside fits => ?_⟩
        · rw [finishRest, if_neg nextHolds]
        · rcases List.mem_cons.mp inside with rfl | behind
          · exact Int.le_refl _
          · have tooShort : other.1 ≤ next.1 := by
              rcases List.mem_cons.mp behind with rfl | further
              · exact Int.le_refl _
              · exact ((List.pairwise_cons.mp restDescending).1 other further).le
            omega

/-- A partition's groups take the ids apart without a gap and leave none. -/
theorem prefillSpans_of_sum {α : Type} {workGroups : List (String × Int)} {ids : List α}
    (positive : ∀ group ∈ workGroups, 0 < group.2)
    (total : (workGroups.map Prod.snd).sum = ids.length) :
    ∃ spans, prefillSpans workGroups ids = some (spans, []) ∧
      spans.map (fun span => (span.1, (span.2.length : Int))) = workGroups ∧
      spans.flatMap Prod.snd = ids := by
  induction workGroups generalizing ids with
  | nil =>
      have empty : ids = [] := by
        rw [List.map_nil, List.sum_nil] at total
        exact List.eq_nil_of_length_eq_zero (by omega)
      subst empty
      exact ⟨[], rfl, rfl, rfl⟩
  | cons group rest inductionHypothesis =>
      obtain ⟨prefillSignature, prefillLength⟩ := group
      have lengthPositive : 0 < prefillLength := positive _ List.mem_cons_self
      rw [List.map_cons, List.sum_cons] at total
      have restNonneg : 0 ≤ (rest.map Prod.snd).sum := by
        apply List.sum_nonneg
        intro length member
        obtain ⟨other, inside, rfl⟩ := List.mem_map.mp member
        exact (positive other (List.mem_cons_of_mem _ inside)).le
      simp only at total
      have inside : prefillLength.toNat ≤ ids.length := by omega
      have restTotal : (rest.map Prod.snd).sum = (ids.drop prefillLength.toNat).length := by
        rw [List.length_drop]
        omega
      obtain ⟨spans, ran, lengths, joined⟩ := inductionHypothesis
        (fun other member => positive other (List.mem_cons_of_mem _ member)) restTotal
      refine ⟨(prefillSignature, ids.take prefillLength.toNat) :: spans, ?_, ?_, ?_⟩
      · simp only [prefillSpans, subspanFrom, if_pos inside]
        change (do
          let (spans, left) ← prefillSpans rest (ids.drop prefillLength.toNat)
          return ((prefillSignature, ids.take prefillLength.toNat) :: spans, left) :
            Option (List (String × List α) × List α)) = _
        rw [ran]
        rfl
      · rw [List.map_cons, lengths, List.length_take, Nat.min_eq_left inside]
        congr 2
        omega
      · rw [List.flatMap_cons, joined, List.take_append_drop]

/-- The search returns a partition of the input, whatever more fuel it has. -/
theorem getOptimizedPrefillWorkGroups_partition {prefillRunnerSet : SortedPrefillSignatureMap}
    (nonempty : prefillRunnerSet.entries ≠ [])
    (positive : ∀ entry ∈ prefillRunnerSet.entries, 0 < entry.1) {inputLength : Int}
    (nonneg : 0 ≤ inputLength) :
    ∃ workGroups,
      (∀ fuel, inputLength.toNat < fuel →
        getOptimizedPrefillWorkGroups fuel prefillRunnerSet inputLength = some workGroups) ∧
      Partition prefillRunnerSet inputLength workGroups := by
  obtain ⟨longest, entries, listed⟩ := List.exists_cons_of_ne_nil nonempty
  have longestPositive : 0 < longest.1 := positive longest (by rw [listed]; exact List.mem_cons_self)
  have restNonneg : 0 ≤ inputLength % longest.1 := Int.emod_nonneg _ longestPositive.ne'
  have restShort : inputLength % longest.1 < longest.1 := Int.emod_lt_of_pos _ longestPositive
  have fullNonneg : 0 ≤ inputLength / longest.1 := Int.ediv_nonneg nonneg longestPositive.le
  obtain ⟨full, isFull⟩ := Int.eq_ofNat_of_zero_le fullNonneg
  have split : (full : Int) * longest.1 + inputLength % longest.1 = inputLength := by
    rw [← isFull, Int.mul_comm]
    exact Int.mul_ediv_add_emod inputLength longest.1
  have few : full ≤ inputLength.toNat := by
    have atLeast : (full : Int) * 1 ≤ full * longest.1 :=
      Int.mul_le_mul_of_nonneg_left longestPositive (Int.natCast_nonneg full)
    omega
  generalize inputLength % longest.1 = rest at restNonneg restShort split
  have isHead : prefillRunnerSet.entries.head? = some longest := by rw [listed]; rfl
  have ran : ∀ fuel, inputLength.toNat < fuel →
      getOptimizedPrefillWorkGroups fuel prefillRunnerSet inputLength =
        some (if rest > 0 then List.replicate full (longest.2, longest.1) ++
          finishRest rest prefillRunnerSet.entries
        else List.replicate full (longest.2, longest.1)) := by
    intro fuel enough
    have looped := useLongest_eq longestPositive restNonneg restShort full fuel (by omega) []
    rw [split, List.nil_append] at looped
    unfold getOptimizedPrefillWorkGroups
    rw [isHead]
    change (do
      let (rest, workGroups) ← useLongest longest fuel inputLength []
      return if rest > 0 then workGroups ++ finishRest rest prefillRunnerSet.entries
        else workGroups : Option (List (String × Int))) = _
    rw [looped]
    rfl
  have longestEntry : longest ∈ prefillRunnerSet.entries := by
    rw [listed]
    exact List.mem_cons_self
  have partition : Partition prefillRunnerSet inputLength
      (if rest > 0 then List.replicate full (longest.2, longest.1) ++
          finishRest rest prefillRunnerSet.entries
        else List.replicate full (longest.2, longest.1)) := by
    by_cases more : rest > 0
    · have descending := prefillRunnerSet.descending
      rw [listed] at descending
      obtain ⟨entry, member, found, holds, shortest⟩ :=
        finishRest_shortest descending restShort.le
      rw [← listed] at member found shortest
      rw [if_pos more, found]
      refine { positive := ?_, total := ?_, fits := ?_, full := ?_ }
      · intro group inside
        rcases List.mem_append.mp inside with front | last
        · rw [List.eq_of_mem_replicate front]
          exact longestPositive
        · rw [List.mem_singleton.mp last]
          exact more
      · simp only [List.map_append, List.map_replicate, List.map_cons, List.map_nil,
          List.sum_append, List.sum_replicate, List.sum_cons, List.sum_nil, add_zero,
          nsmul_eq_mul]
        exact split
      · intro group inside
        rcases List.mem_append.mp inside with front | last
        · rw [List.eq_of_mem_replicate front]
          exact ⟨longest, longestEntry, rfl, Int.le_refl _⟩
        · rw [List.mem_singleton.mp last]
          exact ⟨entry, member, rfl, holds⟩
      · exact ⟨longest, full, isHead,
          Or.inr ⟨rest, entry, more, restShort, ⟨member, holds, shortest⟩, rfl⟩⟩
    · have none : rest = 0 := by omega
      rw [if_neg more]
      refine { positive := ?_, total := ?_, fits := ?_, full := ?_ }
      · intro group inside
        rw [List.eq_of_mem_replicate inside]
        exact longestPositive
      · simp only [List.map_replicate, List.sum_replicate, nsmul_eq_mul]
        rw [none, add_zero] at split
        exact split
      · intro group inside
        rw [List.eq_of_mem_replicate inside]
        exact ⟨longest, longestEntry, rfl, Int.le_refl _⟩
      · exact ⟨longest, full, isHead, Or.inl rfl⟩
  exact ⟨_, ran, partition⟩

/-- The work groups partition the input: for every non-empty map of positive lengths and
every length there are groups that the search returns whatever more fuel it has, and the
loop of `Prefill` takes exactly these spans of its ids and leaves none. -/
theorem workGroups_partition {prefillRunnerSet : SortedPrefillSignatureMap}
    (nonempty : prefillRunnerSet.entries ≠ [])
    (positive : ∀ entry ∈ prefillRunnerSet.entries, 0 < entry.1) {inputLength : Int}
    (nonneg : 0 ≤ inputLength) :
    ∃ workGroups,
      (∀ fuel, inputLength.toNat < fuel →
        getOptimizedPrefillWorkGroups fuel prefillRunnerSet inputLength = some workGroups) ∧
      Partition prefillRunnerSet inputLength workGroups ∧
      ∀ (ids : List Int), ids.length = inputLength →
        ∃ spans, prefillSpans workGroups ids = some (spans, []) ∧
          spans.map (fun span => (span.1, (span.2.length : Int))) = workGroups ∧
          spans.flatMap Prod.snd = ids := by
  obtain ⟨workGroups, ran, partition⟩ :=
    getOptimizedPrefillWorkGroups_partition nonempty positive nonneg
  refine ⟨workGroups, ran, partition, fun ids sized => ?_⟩
  exact prefillSpans_of_sum partition.positive (partition.total.trans sized.symm)

/-- The three signatures of the source's tests. -/
def threeSignatures : SortedPrefillSignatureMap where
  entries := [(1024, "prefill_1024"), (512, "prefill_512"), (128, "prefill_128")]
  descending := by decide

/-- An input of 1100 ids. -/
theorem workGroups_partition_threeSignatures :
    ∃ workGroups,
      (∀ fuel, (1100 : Int).toNat < fuel →
        getOptimizedPrefillWorkGroups fuel threeSignatures 1100 = some workGroups) ∧
      Partition threeSignatures 1100 workGroups ∧
      ∀ (ids : List Int), (ids.length : Int) = 1100 →
        ∃ spans, prefillSpans workGroups ids = some (spans, []) ∧
          spans.map (fun span => (span.1, (span.2.length : Int))) = workGroups ∧
          spans.flatMap Prod.snd = ids :=
  workGroups_partition (by decide) (by decide) (by decide)

end PrefillWorkGroups

end LiteRTLM.Executor
