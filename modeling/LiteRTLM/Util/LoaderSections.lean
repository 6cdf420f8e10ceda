import Mathlib.Data.List.Basic
import LiteRTLM.Util.LitertLmLoader
import LiteRTLM.Schema.Core.HeaderReading

/-!
Contract: what `Initialize` records of the sections of a header and what `GetSectionBuffer`
makes of it.

Owns: the sections whose items can be read, the section that a key finds, the loader after
the loop over the sections, and the results of every run of `GetSectionBuffer` calls.

Does not own: which files are safe to load.
-/

namespace LiteRTLM.Util

open LiteRTLM.Engine
open LiteRTLM.Library
open LiteRTLM.Schema

/-! ## Readable items -/

/-- The string of an item that is found under a name. -/
def itemNamed (name : Text) (item : KeyValuePair) : Option Text :=
  if itemHasKey item name then item.value.text else none

/-- The model type that the items name, which is the last one. -/
def namedModelType (items : List KeyValuePair) : Option Text :=
  (items.filterMap (itemNamed modelTypeKey)).getLast?

/-- An item whose value is a string, if `Initialize` looks at it. -/
def ItemReadable (item : KeyValuePair) : Prop :=
  itemHasKey item modelTypeKey ∨ itemHasKey item backendConstraintKey →
    item.value.text.isSome

/-- A section of a type without model types, or one whose items are there, hold strings
where strings are read, and name no model type that is unknown. -/
def SectionReadable (object : SectionObject) : Prop :=
  object.dataType.hasModelType →
    ∃ items, object.items = some items ∧ (∀ item ∈ items, ItemReadable item) ∧
      ∀ name, namedModelType items = some name → ∃ modelType, stringToModelType name = .ok modelType

theorem itemString_some {item : KeyValuePair} {text : Text} (held : item.value.text = some text) :
    itemString item = .ok text := by
  rw [itemString, held]

theorem itemString_none {item : KeyValuePair} (missing : item.value.text = none) :
    itemString item = .error (.crash .nullPointer) := by
  rw [itemString, missing]

/-- One item moves the scan when it is readable, and ends the process otherwise. -/
theorem ItemScan.step_readable (scan : ItemScan) {item : KeyValuePair}
    (readable : ItemReadable item) :
    ∃ next, scan.step item = .ok next ∧
      next.modelType = (itemNamed modelTypeKey item).or scan.modelType := by
  rw [ItemScan.step, itemNamed]
  by_cases model : itemHasKey item modelTypeKey
  · obtain ⟨text, held⟩ := Option.isSome_iff_exists.mp (readable (Or.inl model))
    rw [if_pos model, if_pos model, itemString_some held, held]
    exact ⟨_, rfl, rfl⟩
  rw [if_neg model, if_neg model]
  by_cases constraint : itemHasKey item backendConstraintKey
  · obtain ⟨text, held⟩ := Option.isSome_iff_exists.mp (readable (Or.inr constraint))
    rw [if_pos constraint, itemString_some held]
    exact ⟨_, rfl, rfl⟩
  · rw [if_neg constraint]
    exact ⟨scan, rfl, rfl⟩

theorem ItemScan.step_unreadable (scan : ItemScan) {item : KeyValuePair}
    (unreadable : ¬ItemReadable item) :
    scan.step item = .error (.crash .nullPointer) := by
  rw [ItemReadable, Classical.not_imp, Option.not_isSome_iff_eq_none] at unreadable
  obtain ⟨read, missing⟩ := unreadable
  rw [ItemScan.step]
  by_cases model : itemHasKey item modelTypeKey
  · rw [if_pos model, itemString_none missing]
    rfl
  · have constraint : itemHasKey item backendConstraintKey := by
      apply read.resolve_left model
    rw [if_neg model, if_pos constraint, itemString_none missing]
    rfl

/-- The scan of readable items ends with the model type they name. -/
theorem scan_readable (items : List KeyValuePair) (scan : ItemScan)
    (readable : ∀ item ∈ items, ItemReadable item) :
    ∃ final, items.foldlM ItemScan.step scan = .ok final ∧
      final.modelType = (namedModelType items).or scan.modelType := by
  induction items generalizing scan with
  | nil => exact ⟨scan, rfl, rfl⟩
  | cons item items ih =>
    obtain ⟨next, moved, nextType⟩ := scan.step_readable (readable item (by simp))
    obtain ⟨final, rest, finalType⟩ := ih next fun later inRest => readable later (by simp [inRest])
    refine ⟨final, ?_, ?_⟩
    · rw [List.foldlM_cons, moved]
      exact rest
    · rw [finalType, nextType, namedModelType, namedModelType]
      cases named : itemNamed modelTypeKey item with
      | none => rw [List.filterMap_cons_none named, Option.none_or]
      | some name =>
        rw [List.filterMap_cons_some named, List.getLast?_cons]
        cases (items.filterMap (itemNamed modelTypeKey)).getLast? <;> rfl

theorem scan_unreadable (items : List KeyValuePair) (scan : ItemScan)
    (unreadable : ¬∀ item ∈ items, ItemReadable item) :
    items.foldlM ItemScan.step scan = .error (.crash .nullPointer) := by
  induction items generalizing scan with
  | nil => exact absurd (by simp) unreadable
  | cons item items ih =>
    by_cases first : ItemReadable item
    · obtain ⟨next, moved, -⟩ := scan.step_readable first
      rw [List.foldlM_cons, moved]
      apply ih next
      intro rest
      exact unreadable (by simpa [first] using rest)
    · rw [List.foldlM_cons, scan.step_unreadable first]
      rfl

/-! ## The key of a section -/

/-- The key of a readable section. -/
theorem bufferKeyOf_readable {object : SectionObject} (readable : SectionReadable object) :
    ∃ key, bufferKeyOf object = .ok key := by
  rw [bufferKeyOf]
  by_cases hasModelType : object.dataType.hasModelType
  swap
  · rw [dif_neg hasModelType]
    exact ⟨_, rfl⟩
  rw [dif_pos hasModelType]
  obtain ⟨items, held, strings, known⟩ := readable hasModelType
  obtain ⟨final, scanned, finalType⟩ := scan_readable items {} strings
  rw [held]
  simp only [Except.bind, bind, scanned]
  cases named : final.modelType with
  | none => exact ⟨_, rfl⟩
  | some name =>
    rw [named, Option.or_none] at finalType
    obtain ⟨modelType, converted⟩ := known name finalType.symm
    simp only [converted]
    exact ⟨_, rfl⟩

/-- A section that is not readable ends the process. -/
theorem bufferKeyOf_unreadable {object : SectionObject} (unreadable : ¬SectionReadable object) :
    ∃ cause, bufferKeyOf object = .error (.crash cause) := by
  rw [SectionReadable, Classical.not_imp] at unreadable
  obtain ⟨hasModelType, unread⟩ := unreadable
  rw [bufferKeyOf, dif_pos hasModelType]
  cases held : object.items with
  | none => exact ⟨_, rfl⟩
  | some items =>
    simp only [Except.bind, bind]
    by_cases strings : ∀ item ∈ items, ItemReadable item
    swap
    · rw [scan_unreadable items {} strings]
      exact ⟨_, rfl⟩
    obtain ⟨final, scanned, finalType⟩ := scan_readable items {} strings
    rw [scanned]
    cases named : final.modelType with
    | none =>
      refine absurd ⟨items, held, strings, fun name found => ?_⟩ unread
      rw [named, found] at finalType
      cases finalType
    | some name =>
      simp only [named]
      cases converted : stringToModelType name with
      | error status => exact ⟨_, rfl⟩
      | ok modelType =>
        refine absurd ⟨items, held, strings, fun other found => ?_⟩ unread
        rw [named, found, Option.some_or] at finalType
        cases finalType
        exact ⟨modelType, converted⟩

/-! ## The recorded sections -/

/-- Whether the loader files a section under a key. -/
def isKeyedBy (key : BufferKey) (object : SectionObject) : Bool :=
  match bufferKeyOf object with
  | .ok (bufferKey, _) => bufferKey == key
  | .error _ => false

/-- The section that a key finds, which is the last one filed under it. -/
def sectionWithKey (sections : List SectionObject) (key : BufferKey) : Option SectionObject :=
  (sections.filter (isKeyedBy key)).getLast?

/-- The range of a section, as the loader stores it. -/
def sectionLocation (object : SectionObject) : UInt64 × UInt64 :=
  (object.beginOffset, object.endOffset)

namespace LitertLmLoader

/-- The loader that the loop over the sections makes of another one. -/
structure Records (sections : List SectionObject) (before after : LitertLmLoader) : Prop where
  header : after.header = before.header
  buffers : after.sectionBuffers = before.sectionBuffers
  locations : ∀ key, after.sectionLocations key =
    ((sectionWithKey sections key).map sectionLocation).or (before.sectionLocations key)

theorem recordSections_readable (sections : List SectionObject) (loader : LitertLmLoader)
    (readable : ∀ object ∈ sections, SectionReadable object) :
    ∃ final, sections.foldlM recordSection loader = .ok final ∧
      Records sections loader final := by
  induction sections generalizing loader with
  | nil => exact ⟨loader, rfl, rfl, rfl, fun _ => rfl⟩
  | cons object sections ih =>
    obtain ⟨⟨bufferKey, constraint⟩, keyed⟩ := bufferKeyOf_readable (readable object (by simp))
    rw [List.foldlM_cons, recordSection, keyed]
    obtain ⟨final, rest, records⟩ := ih _ fun later inRest => readable later (by simp [inRest])
    refine ⟨final, rest, records.header, records.buffers, fun key => ?_⟩
    rw [records.locations key, sectionWithKey, sectionWithKey]
    dsimp only
    by_cases same : bufferKey = key
    · subst same
      have first : isKeyedBy bufferKey object = true := by
        simp [isKeyedBy, keyed]
      rw [List.filter_cons_of_pos first, List.getLast?_cons, Function.update_self]
      cases (sections.filter (isKeyedBy bufferKey)).getLast? <;> rfl
    · have first : ¬isKeyedBy key object = true := by
        simp [isKeyedBy, keyed, same]
      rw [List.filter_cons_of_neg first, Function.update_of_ne (Ne.symm same)]

theorem recordSections_unreadable (sections : List SectionObject) (loader : LitertLmLoader)
    (unreadable : ¬∀ object ∈ sections, SectionReadable object) :
    ∃ cause, sections.foldlM recordSection loader = .error (.crash cause) := by
  induction sections generalizing loader with
  | nil => exact absurd (by simp) unreadable
  | cons object sections ih =>
    by_cases first : SectionReadable object
    · obtain ⟨⟨bufferKey, constraint⟩, keyed⟩ := bufferKeyOf_readable first
      rw [List.foldlM_cons, recordSection, keyed]
      apply ih
      intro rest
      exact unreadable (by simpa [first] using rest)
    · obtain ⟨cause, crashed⟩ := bufferKeyOf_unreadable first
      rw [List.foldlM_cons, recordSection, crashed]
      exact ⟨cause, rfl⟩

/-! ## Runs of `GetSectionBuffer` -/

variable (platform : Platform) (file : ModelFile) (source : ModelSource)

/-- What a first look-up of a recorded range returns. -/
def bufferAt (location : Option (UInt64 × UInt64)) : Option BufferRef :=
  match location with
  | none => none
  | some (beginOffset, endOffset) =>
    match mapRange platform file source beginOffset endOffset with
    | .ok (_, buffer) => some buffer
    | .error _ => none

/-- Every stored buffer is the one its recorded range gives. -/
def BuffersMatch (loader : LitertLmLoader) : Prop :=
  ∀ key buffer, loader.sectionBuffers key = some buffer →
    bufferAt platform file source (loader.sectionLocations key) = some buffer

/-- One look-up returns the buffer of the recorded range, whether it was stored or not. -/
theorem getSectionBuffer_spec {loader : LitertLmLoader}
    (stored : BuffersMatch platform file source loader) (key : BufferKey) :
    (getSectionBuffer platform file source loader key).1 =
        bufferAt platform file source (loader.sectionLocations key) ∧
      (getSectionBuffer platform file source loader key).2.sectionLocations =
        loader.sectionLocations ∧
      BuffersMatch platform file source
        (getSectionBuffer platform file source loader key).2 := by
  rw [getSectionBuffer]
  cases located : loader.sectionLocations key with
  | none => exact ⟨rfl, rfl, stored⟩
  | some location =>
    obtain ⟨beginOffset, endOffset⟩ := location
    cases held : loader.sectionBuffers key with
    | some buffer =>
      have fresh := stored key buffer held
      rw [located] at fresh
      exact ⟨fresh.symm, rfl, stored⟩
    | none =>
      simp only [mapSection, bufferAt]
      cases mapped : mapRange platform file source beginOffset endOffset with
      | error status => exact ⟨rfl, rfl, stored⟩
      | ok result =>
        refine ⟨?_, rfl, ?_⟩
        · exact Function.update_self key (some result.2) loader.sectionBuffers
        · intro other buffer found
          replace found : Function.update loader.sectionBuffers key (some result.2) other =
            some buffer := found
          show bufferAt platform file source (loader.sectionLocations other) = some buffer
          by_cases same : other = key
          · subst same
            rw [Function.update_self] at found
            rw [located, bufferAt, mapped]
            exact found
          · rw [Function.update_of_ne same] at found
            exact stored other buffer found

/-- In a run of look-ups, every result depends on its key alone. -/
theorem getSectionBuffers_eq {loader : LitertLmLoader}
    (stored : BuffersMatch platform file source loader) (keys : List BufferKey) :
    getSectionBuffers platform file source loader keys =
      keys.map fun key => bufferAt platform file source (loader.sectionLocations key) := by
  induction keys generalizing loader with
  | nil => rfl
  | cons key keys ih =>
    obtain ⟨result, locations, next⟩ := getSectionBuffer_spec platform file source stored key
    rw [getSectionBuffers, List.map_cons]
    dsimp only
    rw [ih next, result, locations]

end LitertLmLoader

end LiteRTLM.Util
