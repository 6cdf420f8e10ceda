import Mathlib

/-!
Contract: scans for the first maximum of values, some of which may be incomparable.

A value has a rank or, where it compares with nothing, none. A scan keeps the greatest value so
far and its index, and starts from a value that need not be in the list.

Owns: the scan, first maxima, what a scan returns, and when that is the first maximum.

Does not own: any particular type of values.
-/

namespace LiteRTLM.Library

universe u v

variable {Value : Type u} {Rank : Type v} [LinearOrder Rank] (rank : Value → Option Rank)

/-! ## Comparisons -/

/-- `value > other`, which is false where one of them has no rank. -/
def Exceeds (value other : Value) : Prop :=
  ∃ upper lower, rank value = some upper ∧ rank other = some lower ∧ lower < upper

/-- `value >= other`, which is false where one of them has no rank. -/
def Reaches (value other : Value) : Prop :=
  ∃ upper lower, rank value = some upper ∧ rank other = some lower ∧ lower ≤ upper

/-- Whether `value > other`. -/
def exceeds (value other : Value) : Bool :=
  match rank value, rank other with
  | some upper, some lower => decide (lower < upper)
  | _, _ => false

variable {rank}

theorem exceeds_iff {value other : Value} :
    exceeds rank value other = true ↔ Exceeds rank value other := by
  unfold exceeds Exceeds
  cases rank value with
  | none => simp
  | some upper =>
      cases rank other with
      | none => simp
      | some lower => simp

theorem Exceeds.irrefl (value : Value) : ¬Exceeds rank value value := by
  rintro ⟨upper, lower, isUpper, isLower, less⟩
  rw [isUpper, Option.some.injEq] at isLower
  exact absurd isLower less.ne'

theorem Exceeds.trans {first second third : Value} (above : Exceeds rank first second)
    (below : Exceeds rank second third) : Exceeds rank first third := by
  obtain ⟨upper, middle, isUpper, isMiddle, less⟩ := above
  obtain ⟨middle', lower, isMiddle', isLower, less'⟩ := below
  rw [isMiddle, Option.some.injEq] at isMiddle'
  rw [← isMiddle'] at less'
  exact ⟨upper, lower, isUpper, isLower, less'.trans less⟩

/-- What reaches a value exceeds everything that value exceeds. -/
theorem Reaches.exceeds {first second third : Value} (above : Reaches rank first second)
    (below : Exceeds rank second third) : Exceeds rank first third := by
  obtain ⟨upper, middle, isUpper, isMiddle, notMore⟩ := above
  obtain ⟨middle', lower, isMiddle', isLower, less⟩ := below
  rw [isMiddle, Option.some.injEq] at isMiddle'
  rw [← isMiddle'] at less
  exact ⟨upper, lower, isUpper, isLower, less.trans_le notMore⟩

theorem Exceeds.not_reaches {value other : Value} (above : Exceeds rank value other) :
    ¬Reaches rank other value := by
  intro reaches
  exact Exceeds.irrefl other (reaches.exceeds above)

theorem Exceeds.reaches {value other : Value} (above : Exceeds rank value other) :
    Reaches rank value other := by
  obtain ⟨upper, lower, isUpper, isLower, less⟩ := above
  exact ⟨upper, lower, isUpper, isLower, less.le⟩

/-- Of two values with ranks, one that is not exceeded reaches the other. -/
theorem reaches_of_not_exceeds {value other : Value} (ranked : (rank value).isSome = true)
    (otherRanked : (rank other).isSome = true) (notAbove : ¬Exceeds rank other value) :
    Reaches rank value other := by
  obtain ⟨upper, isUpper⟩ := Option.isSome_iff_exists.mp ranked
  obtain ⟨lower, isLower⟩ := Option.isSome_iff_exists.mp otherRanked
  refine ⟨upper, lower, isUpper, isLower, ?_⟩
  by_contra less
  exact notAbove ⟨lower, upper, isLower, isUpper, not_le.mp less⟩

/-! ## Maxima -/

variable (rank) in
/-- The value at the index reaches every other value. -/
def IsMaximum (values : List Value) (index : Nat) : Prop :=
  ∃ best, values[index]? = some best ∧ ∀ other value, values[other]? = some value →
    other ≠ index → Reaches rank best value

variable (rank) in
/-- The first index of such a value. -/
def IsFirstMaximum (values : List Value) (index : Nat) : Prop :=
  IsMaximum rank values index ∧ ∀ earlier < index, ¬IsMaximum rank values earlier

/-- There is one first maximum at most. -/
theorem IsFirstMaximum.unique {values : List Value} {index other : Nat}
    (isFirst : IsFirstMaximum rank values index) (otherFirst : IsFirstMaximum rank values other) :
    index = other := by
  rcases Nat.lt_trichotomy index other with less | same | less
  · exact absurd isFirst.1 (otherFirst.2 index less)
  · exact same
  · exact absurd otherFirst.1 (isFirst.2 other less)

/-- A maximum reaches every value with a rank. -/
theorem IsMaximum.reaches {values : List Value} {index : Nat} {best value : Value}
    (isMaximum : IsMaximum rank values index) (isBest : values[index]? = some best)
    (member : value ∈ values) (ranked : (rank value).isSome = true) :
    Reaches rank best value := by
  obtain ⟨held, isHeld, reaches⟩ := isMaximum
  rw [isBest, Option.some.injEq] at isHeld
  obtain ⟨other, isOther⟩ := List.mem_iff_getElem?.mp member
  by_cases same : other = index
  · rw [same, isBest, Option.some.injEq] at isOther
    obtain ⟨upper, isUpper⟩ := Option.isSome_iff_exists.mp ranked
    exact ⟨upper, upper, by rw [isOther, isUpper], isUpper, le_rfl⟩
  · rw [isHeld]
    exact reaches other value isOther same

/-- With a maximum that has a rank all values have ranks. -/
theorem IsMaximum.ranked {values : List Value} {index : Nat} {best : Value}
    (isMaximum : IsMaximum rank values index) (isBest : values[index]? = some best)
    (ranked : (rank best).isSome = true) : ∀ value ∈ values, (rank value).isSome = true := by
  intro value member
  obtain ⟨held, isHeld, reaches⟩ := isMaximum
  obtain ⟨other, isOther⟩ := List.mem_iff_getElem?.mp member
  by_cases same : other = index
  · rw [same, isBest, Option.some.injEq] at isOther
    exact isOther ▸ ranked
  · obtain ⟨upper, lower, -, isLower, -⟩ := reaches other value isOther same
    rw [isLower]
    rfl

/-! ## The scan -/

variable (rank)

/-- The loop: the maximum so far and its index, and the index of the next value. -/
def scanFrom : Value → Nat → Nat → List Value → Nat
  | _, maxIndex, _, [] => maxIndex
  | maxValue, maxIndex, index, value :: rest =>
      if exceeds rank value maxValue then scanFrom value index (index + 1) rest
      else scanFrom maxValue maxIndex (index + 1) rest

/-- The index a scan from this value finds. -/
def firstMaximumFrom (start : Value) (values : List Value) : Nat := scanFrom rank start 0 0 values

/-- The first of the greatest values that exceed `start`, at this position of the list. -/
structure IsFirstAbove (start : Value) (values : List Value) (position : Nat) (best : Value) :
    Prop where
  held : values[position]? = some best
  above : Exceeds rank best start
  greatest : ∀ value ∈ values, ¬Exceeds rank value best
  first : ∀ earlier < position, ∀ value, values[earlier]? = some value → ¬Reaches rank value best

variable {rank}

theorem IsFirstAbove.cons_start {start value : Value} {rest : List Value}
    (above : Exceeds rank value start) (notAbove : ∀ other ∈ rest, ¬Exceeds rank other value) :
    IsFirstAbove rank start (value :: rest) 0 value := by
  refine ⟨rfl, above, ?_, fun earlier impossible => absurd impossible (Nat.not_lt_zero _)⟩
  rw [List.forall_mem_cons]
  exact ⟨Exceeds.irrefl value, notAbove⟩

theorem IsFirstAbove.cons_later {start value best : Value} {rest : List Value} {position : Nat}
    (later : IsFirstAbove rank start rest position best) (behind : ¬Reaches rank value best) :
    IsFirstAbove rank start (value :: rest) (position + 1) best := by
  constructor
  · exact later.held
  · exact later.above
  · rw [List.forall_mem_cons]
    exact ⟨fun above => behind above.reaches, later.greatest⟩
  · intro earlier before other isOther
    cases earlier with
    | zero =>
        rw [List.getElem?_cons_zero, Option.some.injEq] at isOther
        exact isOther ▸ behind
    | succ earlier => exact later.first earlier (Nat.lt_of_succ_lt_succ before) other isOther

variable (rank) in
/-- The loop keeps its index where nothing exceeds the maximum so far, and otherwise returns the
first of the greatest values. -/
theorem scanFrom_cases (values : List Value) (maxValue : Value) (maxIndex index : Nat) :
    (∀ value ∈ values, ¬Exceeds rank value maxValue) ∧
        scanFrom rank maxValue maxIndex index values = maxIndex ∨
      ∃ position best, IsFirstAbove rank maxValue values position best ∧
        scanFrom rank maxValue maxIndex index values = index + position := by
  induction values generalizing maxValue maxIndex index with
  | nil => exact .inl ⟨fun _ impossible => absurd impossible List.not_mem_nil, rfl⟩
  | cons value rest inductionHypothesis =>
      by_cases above : Exceeds rank value maxValue
      · rw [scanFrom, if_pos (exceeds_iff.mpr above)]
        rcases inductionHypothesis value index (index + 1) with ⟨notAbove, isIndex⟩ | found
        · exact .inr ⟨0, value, .cons_start above notAbove, isIndex⟩
        · obtain ⟨position, best, isFirst, isIndex⟩ := found
          have later : IsFirstAbove rank maxValue rest position best :=
            ⟨isFirst.held, isFirst.above.trans above, isFirst.greatest, isFirst.first⟩
          refine .inr ⟨position + 1, best, later.cons_later isFirst.above.not_reaches, ?_⟩
          rw [isIndex]
          omega
      · rw [scanFrom, if_neg (fun holds => above (exceeds_iff.mp holds))]
        rcases inductionHypothesis maxValue maxIndex (index + 1) with ⟨notAbove, isIndex⟩ | found
        · refine .inl ⟨?_, isIndex⟩
          rw [List.forall_mem_cons]
          exact ⟨above, notAbove⟩
        · obtain ⟨position, best, isFirst, isIndex⟩ := found
          refine .inr ⟨position + 1, best, isFirst.cons_later ?_, ?_⟩
          · intro reaches
            exact above (reaches.exceeds isFirst.above)
          · rw [isIndex]
            omega

/-- Where all values have ranks, the first of the greatest is the first maximum. -/
theorem IsFirstAbove.isFirstMaximum {start best : Value} {values : List Value} {position : Nat}
    (isFirst : IsFirstAbove rank start values position best)
    (ranked : ∀ value ∈ values, (rank value).isSome = true) :
    IsFirstMaximum rank values position := by
  have bestMember := List.mem_of_getElem? isFirst.held
  constructor
  · refine ⟨best, isFirst.held, ?_⟩
    intro other value isValue _
    have member := List.mem_of_getElem? isValue
    exact reaches_of_not_exceeds (ranked best bestMember) (ranked value member)
      (isFirst.greatest value member)
  · intro earlier before isMaximum
    obtain ⟨held, isHeld, -⟩ := id isMaximum
    exact isFirst.first earlier before held isHeld
      (isMaximum.reaches isHeld bestMember (ranked best bestMember))

/-- **The first maximum.** The scan finds it if and only if the first value is a maximum, or all
values have ranks and one exceeds the value the scan starts from. -/
theorem firstMaximumFrom_isFirstMaximum_iff {start : Value} {values : List Value} :
    IsFirstMaximum rank values (firstMaximumFrom rank start values) ↔
      IsMaximum rank values 0 ∨ (∀ value ∈ values, (rank value).isSome = true) ∧
        ∃ value ∈ values, Exceeds rank value start := by
  have zeroFirst : IsMaximum rank values 0 → IsFirstMaximum rank values 0 := fun isMaximum =>
    ⟨isMaximum, fun earlier impossible => absurd impossible (Nat.not_lt_zero _)⟩
  rcases scanFrom_cases rank values start 0 0 with ⟨notAbove, isIndex⟩ | found
  · rw [firstMaximumFrom, isIndex]
    constructor
    · intro isFirst
      exact .inl isFirst.1
    · rintro (isMaximum | ⟨-, value, member, above⟩)
      · exact zeroFirst isMaximum
      · exact absurd above (notAbove value member)
  · obtain ⟨position, best, isFirst, isIndex⟩ := found
    rw [firstMaximumFrom, isIndex, Nat.zero_add]
    have bestMember := List.mem_of_getElem? isFirst.held
    have bestRanked : (rank best).isSome = true := by
      obtain ⟨upper, -, isUpper, -⟩ := isFirst.above
      rw [isUpper]
      rfl
    constructor
    · intro firstMaximum
      exact .inr ⟨firstMaximum.1.ranked isFirst.held bestRanked, best, bestMember, isFirst.above⟩
    · rintro (isMaximum | ⟨ranked, -⟩)
      · obtain ⟨held, isHeld, -⟩ := id isMaximum
        have reaches := isMaximum.reaches isHeld bestMember bestRanked
        cases position with
        | zero => exact zeroFirst isMaximum
        | succ before => exact absurd reaches (isFirst.first 0 (Nat.succ_pos before) held isHeld)
      · exact isFirst.isFirstMaximum ranked

/-! ## Lists with the same order -/

section SameOrder

universe w x

variable {Other : Type w} {OtherRank : Type x} [LinearOrder OtherRank]
  {otherRank : Other → Option OtherRank}

/-- Two lists of one length, in which the same indices hold greater values. -/
structure SameOrder (rank : Value → Option Rank) (otherRank : Other → Option OtherRank)
    (values : List Value) (others : List Other) : Prop where
  length : values.length = others.length
  exceeds : ∀ {index index' : Nat} {value value' : Value} {other other' : Other},
    values[index]? = some value → values[index']? = some value' →
      others[index]? = some other → others[index']? = some other' →
        (Exceeds rank value value' ↔ Exceeds otherRank other other')

theorem SameOrder.symm {values : List Value} {others : List Other}
    (same : SameOrder rank otherRank values others) : SameOrder otherRank rank others values :=
  ⟨same.length.symm, fun isOther isOther' isValue isValue' =>
    (same.exceeds isValue isValue' isOther isOther').symm⟩

/-- An index that holds a value of one list holds one of the other. -/
theorem SameOrder.getElem? {values : List Value} {others : List Other}
    (same : SameOrder rank otherRank values others) {index : Nat} {other : Other}
    (isOther : others[index]? = some other) : ∃ value, values[index]? = some value := by
  obtain ⟨inside, -⟩ := List.getElem?_eq_some_iff.mp isOther
  rw [← same.length] at inside
  exact ⟨_, List.getElem?_eq_getElem inside⟩

/-- A maximum of one list is one of the other, if there are ranks. -/
theorem IsMaximum.of_sameOrder {values : List Value} {others : List Other} {index : Nat}
    (isMaximum : IsMaximum rank values index) (same : SameOrder rank otherRank values others)
    (ranked : ∀ other ∈ others, (otherRank other).isSome = true) :
    IsMaximum otherRank others index := by
  obtain ⟨best, isBest, reaches⟩ := isMaximum
  obtain ⟨held, isHeld⟩ := same.symm.getElem? isBest
  refine ⟨held, isHeld, ?_⟩
  intro index' other isOther apart
  obtain ⟨value, isValue⟩ := same.getElem? isOther
  have notAbove : ¬Exceeds otherRank other held := by
    rw [← same.exceeds isValue isBest isOther isHeld]
    intro above
    exact above.not_reaches (reaches index' value isValue apart)
  exact reaches_of_not_exceeds (ranked held (List.mem_of_getElem? isHeld))
    (ranked other (List.mem_of_getElem? isOther)) notAbove

/-- The first maximum of one list is that of the other. -/
theorem IsFirstMaximum.of_sameOrder {values : List Value} {others : List Other} {index : Nat}
    (isFirst : IsFirstMaximum rank values index) (same : SameOrder rank otherRank values others)
    (ranked : ∀ other ∈ others, (otherRank other).isSome = true) :
    IsFirstMaximum otherRank others index := by
  refine ⟨isFirst.1.of_sameOrder same ranked, ?_⟩
  intro earlier before earlierMaximum
  obtain ⟨best, isBest, reaches⟩ := id isFirst.1
  -- there are two values, so the maximum has a rank
  obtain ⟨held, isHeld, -⟩ := id earlierMaximum
  obtain ⟨value, isValue⟩ := same.getElem? isHeld
  obtain ⟨upper, -, isUpper, -⟩ := reaches earlier value isValue (Nat.ne_of_lt before)
  have valuesRanked := isFirst.1.ranked isBest (by rw [isUpper]; rfl)
  exact isFirst.2 earlier before (earlierMaximum.of_sameOrder same.symm valuesRanked)

end SameOrder

end LiteRTLM.Library
