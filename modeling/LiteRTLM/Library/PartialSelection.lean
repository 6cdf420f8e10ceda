import Mathlib.Data.List.MinMax
import Mathlib.Data.List.Perm.Basic
import Mathlib.Data.List.Sort

/-!
Contract: partitioning and sorting algorithms that take a comparator.

Owns: what such algorithms promise for a strict weak ordering, the comparator that puts the
largest keys first, and what the front of a partitioned range of positions holds.

Does not own: what the positions stand for.
-/

namespace LiteRTLM.Library.PartialSelection

variable {α β : Type}

/-- A strict weak ordering, as it is asked of a comparator. -/
structure StrictWeak (comparator : α → α → Bool) : Prop where
  irreflexive : ∀ first, comparator first first = false
  transitive : ∀ first second third, comparator first second = true →
    comparator second third = true → comparator first third = true
  incomparable : ∀ first second third, comparator first second = false →
    comparator second third = false → comparator first third = false

/-- The elements with the larger keys come first. -/
def descending [LinearOrder β] (key : α → β) (first second : α) : Bool :=
  decide (key second < key first)

theorem descending_eq_false [LinearOrder β] {key : α → β} {first second : α} :
    descending key first second = false ↔ key first ≤ key second := by
  rw [descending, decide_eq_false_iff_not, not_lt]

theorem descending_strictWeak [LinearOrder β] (key : α → β) : StrictWeak (descending key) where
  irreflexive := fun first => descending_eq_false.mpr (le_refl (key first))
  transitive := by
    intro first second third before after
    have above := of_decide_eq_true before
    have below := of_decide_eq_true after
    exact decide_eq_true (lt_trans below above)
  incomparable := by
    intro first second third before after
    rw [descending_eq_false] at before after ⊢
    exact le_trans before after

/-- Partitioning at a position, and sorting. -/
structure Algorithms (α : Type) where
  nthElement : (α → α → Bool) → Nat → List α → List α
  sort : (α → α → Bool) → List α → List α
  nthElement_perm : ∀ comparator, StrictWeak comparator → ∀ nth elements,
    nth ≤ elements.length → (nthElement comparator nth elements).Perm elements
  /-- Nothing behind the position precedes something in front of it. -/
  nthElement_partitions : ∀ comparator, StrictWeak comparator → ∀ nth elements,
    nth ≤ elements.length →
    ∀ front ∈ (nthElement comparator nth elements).take nth,
      ∀ back ∈ (nthElement comparator nth elements).drop nth, comparator back front = false
  sort_perm : ∀ comparator, StrictWeak comparator → ∀ elements,
    (sort comparator elements).Perm elements
  sort_sorts : ∀ comparator, StrictWeak comparator → ∀ elements,
    (sort comparator elements).Pairwise fun before behind => comparator behind before = false

/-! ## The front of a partitioned range -/

/-- Positions below `size` whose keys no position left out exceeds. -/
structure IsTop [LinearOrder β] (key : Nat → β) (size count : Nat) (positions : List Nat) :
    Prop where
  length_eq : positions.length = count
  distinct : positions.Nodup
  inRange : ∀ position ∈ positions, position < size
  largest : ∀ position ∈ positions, ∀ other < size, other ∉ positions →
    key other ≤ key position

/-- The front that partitioning a range by descending keys leaves. -/
theorem isTop_take_nthElement [LinearOrder β] (algorithms : Algorithms Nat) (key : Nat → β)
    {size count : Nat} (within : count ≤ size) :
    IsTop key size count
      ((algorithms.nthElement (descending key) count (List.range size)).take count) := by
  have enough : count ≤ (List.range size).length := by
    rw [List.length_range]
    exact within
  have weak := descending_strictWeak key
  have perm := algorithms.nthElement_perm _ weak count _ enough
  have partitioned := algorithms.nthElement_partitions _ weak count _ enough
  generalize algorithms.nthElement (descending key) count (List.range size) = arranged at *
  have nodup : arranged.Nodup := perm.symm.nodup List.nodup_range
  constructor
  · rw [List.length_take, perm.length_eq, List.length_range]
    omega
  · exact nodup.sublist (List.take_sublist count arranged)
  · intro position selected
    have member : position ∈ List.range size := perm.subset (List.mem_of_mem_take selected)
    exact List.mem_range.mp member
  · intro position selected other below unselected
    have member : other ∈ arranged.take count ++ arranged.drop count := by
      rw [List.take_append_drop]
      exact perm.symm.subset (List.mem_range.mpr below)
    have behind : other ∈ arranged.drop count :=
      (List.mem_append.mp member).resolve_left unselected
    exact descending_eq_false.mp (partitioned position selected other behind)

/-- The largest of the selected keys is the largest of all. -/
theorem IsTop.le_of_largest [LinearOrder β] {key : Nat → β} {size count : Nat}
    {positions : List Nat} (top : IsTop key size count positions) {position : Nat}
    (selected : position ∈ positions)
    (largest : ∀ other ∈ positions, key other ≤ key position) :
    ∀ other < size, key other ≤ key position := by
  intro other below
  by_cases member : other ∈ positions
  · exact largest other member
  · exact top.largest position selected other below member

/-- The position of the first largest key below `size`; 0 in an empty range. -/
def maxElement [LinearOrder β] (key : Nat → β) (size : Nat) : Nat :=
  ((List.range size).argmax key).getD 0

theorem maxElement_spec [LinearOrder β] (key : Nat → β) {size : Nat} (nonempty : 0 < size) :
    maxElement key size < size ∧ ∀ other < size, key other ≤ key (maxElement key size) := by
  unfold maxElement
  cases found : (List.range size).argmax key with
  | none =>
      rw [List.argmax_eq_none, List.range_eq_nil] at found
      omega
  | some position =>
      rw [Option.getD_some]
      constructor
      · exact List.mem_range.mp (List.argmax_mem found)
      · intro other below
        exact List.le_of_mem_argmax (List.mem_range.mpr below) found

/-- A single largest position. -/
theorem isTop_maxElement [LinearOrder β] (key : Nat → β) {size : Nat} (nonempty : 0 < size) :
    IsTop key size 1 [maxElement key size] where
  length_eq := rfl
  distinct := List.nodup_singleton _
  inRange := by
    intro position selected
    rw [List.mem_singleton.mp selected]
    exact (maxElement_spec key nonempty).1
  largest := by
    intro position selected other below _
    rw [List.mem_singleton.mp selected]
    exact (maxElement_spec key nonempty).2 other below

/-! ## Insertion sort -/

/-- One choice of the algorithms: insertion sort, where partitioning at the end of the range
does nothing. -/
def insertionAlgorithms (α : Type) : Algorithms α :=
  let sort := fun (comparator : α → α → Bool) elements =>
    List.insertionSort (fun first second => comparator second first = false) elements
  have sorts : ∀ comparator : α → α → Bool, StrictWeak comparator → ∀ elements,
      (sort comparator elements).Pairwise fun before behind =>
        comparator behind before = false := by
    intro comparator weak elements
    have total : Std.Total fun first second => comparator second first = false := by
      constructor
      intro first second
      by_contra neither
      have both : comparator second first = true ∧ comparator first second = true := by
        simpa using neither
      have itself := weak.transitive first second first both.2 both.1
      rw [weak.irreflexive] at itself
      cases itself
    have trans : IsTrans α fun first second => comparator second first = false :=
      ⟨fun first second third before after =>
        weak.incomparable third second first after before⟩
    exact List.pairwise_insertionSort _ elements
  { nthElement := fun comparator nth elements =>
      if nth = elements.length then elements else sort comparator elements
    sort := sort
    nthElement_perm := by
      intro comparator _ nth elements _
      split
      · exact List.Perm.refl _
      · exact List.perm_insertionSort _ _
    nthElement_partitions := by
      intro comparator weak nth elements within front inFront back behind
      split at inFront
      next atEnd =>
        rw [if_pos atEnd, atEnd, List.drop_length] at behind
        cases behind
      next before =>
        rw [if_neg before] at behind
        have ordered := sorts comparator weak elements
        rw [← List.take_append_drop nth (sort comparator elements)] at ordered
        exact (List.pairwise_append.mp ordered).2.2 front inFront back behind
    sort_perm := fun comparator _ elements => List.perm_insertionSort _ _
    sort_sorts := sorts }

end LiteRTLM.Library.PartialSelection
