import LiteRTLM.Util.ModelFileSafety

/-!
Contract: the backend constraints that `Initialize` records beside the section locations.

Owns: the constraint of a section, the constraint recorded for a key, and when everything that is
recorded for a key comes from one section.

Does not own: which headers are read. A later section with a key replaces the location of an
earlier one.
-/

namespace LiteRTLM.Util

open LiteRTLM.Engine
open LiteRTLM.Schema

/-! ## The constraint of a section -/

/-- The backend constraint that the items name, which is the last one. -/
def namedConstraint (items : List KeyValuePair) : Option Text :=
  (items.filterMap (itemNamed backendConstraintKey)).getLast?

/-- The backend constraint of a section; one without text is none. -/
def sectionConstraint (object : SectionObject) : Option Text :=
  if object.dataType.hasModelType then
    (object.items.bind namedConstraint).filter fun text => text ≠ []
  else
    none

/-- No item has both keys. -/
theorem not_constraintKey {item : KeyValuePair} (model : itemHasKey item modelTypeKey = true) :
    ¬itemHasKey item backendConstraintKey = true := by
  intro constraint
  rw [itemHasKey, beq_iff_eq] at model constraint
  rw [model] at constraint
  exact absurd constraint (by decide)

theorem ItemScan.step_constraint {scan next : ItemScan} {item : KeyValuePair}
    (moved : scan.step item = .ok next) :
    next.backendConstraint =
      (itemNamed backendConstraintKey item).getD scan.backendConstraint := by
  rw [ItemScan.step] at moved
  rw [itemNamed]
  by_cases model : itemHasKey item modelTypeKey = true
  · rw [if_pos model] at moved
    rw [if_neg (not_constraintKey model)]
    cases held : item.value.text with
    | none =>
        rw [itemString_none held] at moved
        cases moved
    | some text =>
        rw [itemString_some held] at moved
        cases moved
        rfl
  rw [if_neg model] at moved
  by_cases constraint : itemHasKey item backendConstraintKey = true
  · rw [if_pos constraint] at moved
    rw [if_pos constraint]
    cases held : item.value.text with
    | none =>
        rw [itemString_none held] at moved
        cases moved
    | some text =>
        rw [itemString_some held] at moved
        cases moved
        rfl
  · rw [if_neg constraint] at moved
    rw [if_neg constraint]
    cases moved
    rfl

/-- A scan ends with the last backend constraint of the items. -/
theorem scan_constraint (items : List KeyValuePair) {scan final : ItemScan}
    (scanned : items.foldlM ItemScan.step scan = .ok final) :
    final.backendConstraint = (namedConstraint items).getD scan.backendConstraint := by
  induction items generalizing scan with
  | nil =>
      cases scanned
      rfl
  | cons item items inductionHypothesis =>
      rw [List.foldlM_cons] at scanned
      cases moved : scan.step item with
      | error failure =>
          rw [moved] at scanned
          cases scanned
      | ok next =>
          rw [moved] at scanned
          rw [inductionHypothesis scanned, ItemScan.step_constraint moved, namedConstraint,
            namedConstraint]
          cases named : itemNamed backendConstraintKey item with
          | none => rw [List.filterMap_cons_none named, Option.getD_none]
          | some text =>
              rw [List.filterMap_cons_some named, List.getLast?_cons]
              rfl

/-- The constraint that is found with the key of a section. -/
theorem bufferKeyOf_constraint {object : SectionObject} {key : BufferKey} {text : Text}
    (keyed : bufferKeyOf object = .ok (key, text)) :
    sectionConstraint object = if text.isEmpty then none else some text := by
  rw [bufferKeyOf] at keyed
  rw [sectionConstraint]
  by_cases hasModelType : object.dataType.hasModelType
  swap
  · rw [dif_neg hasModelType] at keyed
    rw [if_neg hasModelType]
    cases keyed
    rfl
  rw [dif_pos hasModelType] at keyed
  rw [if_pos hasModelType]
  cases held : object.items with
  | none =>
      rw [held] at keyed
      cases keyed
  | some items =>
      rw [held] at keyed
      simp only [bind, Except.bind] at keyed
      cases scanned : items.foldlM ItemScan.step {} with
      | error failure =>
          rw [scanned] at keyed
          cases keyed
      | ok scan =>
          have isText : scan.backendConstraint = text := by
            rw [scanned] at keyed
            simp only at keyed
            split at keyed
            · split at keyed
              · cases keyed
              · cases keyed
                rfl
            · cases keyed
              rfl
          rw [← isText, scan_constraint items scanned, Option.bind_some]
          cases namedConstraint items with
          | none => rfl
          | some named => cases named <;> rfl

/-! ## The recorded constraints -/

namespace LitertLmLoader

/-- The constraint recorded for a key is that of the last section with the key that has one. -/
theorem recordSections_constraints (sections : List SectionObject)
    {loader final : LitertLmLoader}
    (recorded : sections.foldlM recordSection loader = .ok final) (key : BufferKey) :
    final.sectionBackendConstraint key =
      ((sections.filter (isKeyedBy key)).filterMap sectionConstraint).getLast?.or
        (loader.sectionBackendConstraint key) := by
  induction sections generalizing loader with
  | nil =>
      cases recorded
      rfl
  | cons object sections inductionHypothesis =>
      rw [List.foldlM_cons] at recorded
      cases keyed : bufferKeyOf object with
      | error failure =>
          rw [recordSection, keyed] at recorded
          cases recorded
      | ok found =>
          obtain ⟨bufferKey, text⟩ := found
          have constraint := bufferKeyOf_constraint keyed
          rw [recordSection, keyed] at recorded
          rw [inductionHypothesis recorded]
          dsimp only
          by_cases same : bufferKey = key
          · subst same
            have first : isKeyedBy bufferKey object = true := by simp [isKeyedBy, keyed]
            rw [List.filter_cons_of_pos first]
            by_cases empty : text.isEmpty = true
            · rw [if_pos empty] at constraint ⊢
              rw [List.filterMap_cons_none constraint]
            · rw [if_neg empty] at constraint ⊢
              rw [List.filterMap_cons_some constraint, List.getLast?_cons, Function.update_self]
              cases ((sections.filter (isKeyedBy bufferKey)).filterMap
                sectionConstraint).getLast? <;> rfl
          · have first : ¬isKeyedBy key object = true := by simp [isKeyedBy, keyed, same]
            rw [List.filter_cons_of_neg first]
            by_cases empty : text.isEmpty = true
            · rw [if_pos empty]
            · rw [if_neg empty, Function.update_of_ne (Ne.symm same)]

/-! ## One section for each key -/

variable (platform : Platform) (libraries : ReaderLibraries) (file : ModelFile)
  (source : ModelSource)

/-- Everything that is recorded for a key, and every buffer returned for it in a run of look-ups,
is that of one section: the last one with the key. -/
structure OneSectionPerKey (sections : List SectionObject) (loader : LitertLmLoader) : Prop where
  located : ∀ key, loader.sectionLocations key =
    (sectionWithKey sections key).map sectionLocation
  constrained : ∀ key, loader.sectionBackendConstraint key =
    (sectionWithKey sections key).bind sectionConstraint
  served : ∀ keys, getSectionBuffers platform file source loader keys =
    keys.map fun key =>
      bufferAt platform file source ((sectionWithKey sections key).map sectionLocation)

/-- If the last section with a key has no backend constraint, no other section with the key has
one. -/
def ConstraintsOfLast (sections : List SectionObject) : Prop :=
  ∀ key object, sectionWithKey sections key = some object → sectionConstraint object = none →
    ∀ other ∈ sections, isKeyedBy key other = true → sectionConstraint other = none

/-- The last of the values that there are is that of the last item, unless that has none and
another item has one. -/
theorem getLast?_filterMap_eq_iff {Item Value : Type} (value : Item → Option Value)
    (items : List Item) :
    (items.filterMap value).getLast? = items.getLast?.bind value ↔
      ∀ last, items.getLast? = some last → value last = none →
        ∀ item ∈ items, value item = none := by
  rcases List.eq_nil_or_concat items with rfl | ⟨front, last, rfl⟩
  · exact ⟨fun _ _ _ _ _ impossible => absurd impossible List.not_mem_nil, fun _ => rfl⟩
  rw [List.concat_eq_append, List.filterMap_append, List.getLast?_concat, Option.bind_some]
  cases isValue : value last with
  | some held =>
      rw [List.filterMap_cons_some isValue, List.filterMap_nil, List.getLast?_concat]
      constructor
      · rintro - _ isLast missing
        cases isLast
        rw [isValue] at missing
        cases missing
      · exact fun _ => rfl
  | none =>
      rw [List.filterMap_cons_none isValue, List.filterMap_nil, List.append_nil,
        List.getLast?_eq_none_iff, List.filterMap_eq_nil_iff]
      constructor
      · rintro frontMissing _ - - item member
        rw [List.mem_append, List.mem_singleton] at member
        rcases member with inFront | rfl
        · exact frontMissing item inFront
        · exact isValue
      · intro missing item inFront
        exact missing last rfl isValue item (by simp [inFront])

/-- An initialized loader has recorded the sections of its header. -/
theorem initializeLoader_recorded {loader : LitertLmLoader} {sections : List SectionObject}
    (loaded : initializeLoader platform libraries file source = .ok loader)
    (listed : loader.header.sections = .ok sections) :
    Records sections { header := loader.header } loader ∧
      sections.foldlM recordSection { header := loader.header } = .ok loader := by
  rw [initializeLoader] at loaded
  cases streamed : (headerData platform file source).orReturn with
  | error failure =>
      rw [streamed] at loaded
      cases loaded
  | ok stream =>
      rw [streamed] at loaded
      simp only [bind, Except.bind] at loaded
      cases read : readHeaderFromLiteRTLM platform libraries stream with
      | error failure =>
          rw [read] at loaded
          cases loaded
      | ok header =>
          rw [read] at loaded
          simp only at loaded
          cases held : header.sections with
          | error failure =>
              rw [held] at loaded
              cases loaded
          | ok recordedSections =>
              rw [held] at loaded
              simp only at loaded
              have readable : ∀ object ∈ recordedSections, SectionReadable object := by
                by_contra unreadable
                obtain ⟨cause, crashed⟩ := recordSections_unreadable recordedSections
                  { header := header } unreadable
                rw [crashed] at loaded
                cases loaded
              obtain ⟨final, recorded, records⟩ :=
                recordSections_readable recordedSections { header := header } readable
              rw [recorded, Except.ok.injEq] at loaded
              subst loaded
              have sameHeader : final.header = header := records.header
              rw [sameHeader, held, Except.ok.injEq] at listed
              subst listed
              rw [sameHeader]
              exact ⟨records, recorded⟩

/-- **One section for each key.** After `Initialize`, all that is recorded for a key and returned
for it comes from the last section with the key, if and only if no earlier section with the key
has a backend constraint where the last one has none. -/
theorem initializeLoader_oneSectionPerKey_iff {loader : LitertLmLoader}
    {sections : List SectionObject}
    (loaded : initializeLoader platform libraries file source = .ok loader)
    (listed : loader.header.sections = .ok sections) :
    OneSectionPerKey platform file source sections loader ↔ ConstraintsOfLast sections := by
  obtain ⟨records, recorded⟩ :=
    initializeLoader_recorded platform libraries file source loaded listed
  have located : ∀ key, loader.sectionLocations key =
      (sectionWithKey sections key).map sectionLocation := by
    intro key
    rw [records.locations key, Option.or_none]
  have constraints : ∀ key, loader.sectionBackendConstraint key =
      ((sections.filter (isKeyedBy key)).filterMap sectionConstraint).getLast? := by
    intro key
    rw [recordSections_constraints sections recorded key, Option.or_none]
  have constrained : (∀ key, loader.sectionBackendConstraint key =
      (sectionWithKey sections key).bind sectionConstraint) ↔ ConstraintsOfLast sections := by
    apply forall_congr'
    intro key
    rw [constraints key, sectionWithKey, getLast?_filterMap_eq_iff]
    simp only [List.mem_filter, and_imp]
  rw [← constrained]
  constructor
  · exact fun one => one.constrained
  · intro sameConstraints
    refine ⟨located, sameConstraints, fun keys => ?_⟩
    have noBuffers : BuffersMatch platform file source loader := by
      intro key buffer held
      rw [records.buffers] at held
      cases held
    rw [getSectionBuffers_eq platform file source noBuffers keys]
    simp only [located]

end LitertLmLoader

/-! ## Two models with one key -/

/-- A model for the GPU only. -/
def constrainedModel : SectionObject where
  items := some [⟨backendConstraintKey, .stringValue (some ['g', 'p', 'u'])⟩]
  beginOffset := 264
  endOffset := 272
  dataType := .tfLiteModel

def unconstrainedModel : SectionObject where
  items := some []
  beginOffset := 272
  endOffset := 280
  dataType := .tfLiteModel

/-- A header that lists both. -/
def twoModels : LiteRTLMMetaData where
  systemMetadata := some []
  sectionMetadata := some [constrainedModel, unconstrainedModel]

/-- The flatbuffer of `twoModels`. -/
def twoModelsTable : List UInt8 :=
    [16, 0, 0, 0, 0, 0, 0, 0, 8, 0, 12, 0, 4, 0, 8, 0, 8, 0, 0, 0, 124, 0, 0, 0, 4, 0, 0, 0,
     98, 255, 255, 255, 4, 0, 0, 0, 2, 0, 0, 0, 68, 0, 0, 0, 16, 0, 0, 0, 12, 0, 32, 0, 8, 0,
     12, 0, 20, 0, 7, 0, 12, 0, 0, 0, 0, 0, 0, 3, 24, 0, 0, 0, 16, 1, 0, 0, 0, 0, 0, 0, 24, 1,
     0, 0, 0, 0, 0, 0, 0, 0, 0, 0, 0, 0, 0, 0, 12, 0, 28, 0, 8, 0, 12, 0, 20, 0, 7, 0, 12, 0,
     0, 0, 0, 0, 0, 3, 20, 0, 0, 0, 8, 1, 0, 0, 0, 0, 0, 0, 16, 1, 0, 0, 0, 0, 0, 0, 1, 0, 0,
     0, 28, 0, 0, 0, 214, 255, 255, 255, 4, 0, 0, 0, 0, 0, 0, 0, 0, 0, 10, 0, 18, 0, 12, 0, 7,
     0, 8, 0, 10, 0, 0, 0, 0, 0, 0, 9, 16, 0, 0, 0, 28, 0, 0, 0, 0, 0, 6, 0, 8, 0, 4, 0, 6, 0,
     0, 0, 4, 0, 0, 0, 3, 0, 0, 0, 103, 112, 117, 0, 18, 0, 0, 0, 98, 97, 99, 107, 101, 110,
     100, 95, 99, 111, 110, 115, 116, 114, 97, 105, 110, 116, 0, 0]

def twoModelsFile : ModelFile where
  bytes := filePrefix 264 ++ twoModelsTable ++ List.replicate 8 7 ++ List.replicate 8 9
  size_lt := by decide +kernel

def prefillDecodeKey : BufferKey := .ofModelType .tfLiteModel rfl .tfLitePrefillDecode

theorem twoModelsFile_loads (source : ModelSource) : ∃ loader,
    LitertLmLoader.initializeLoader linux (librariesFor twoModelsTable twoModels) twoModelsFile
        source = .ok loader ∧
      loader.header.sections = .ok [constrainedModel, unconstrainedModel] := by
  have holds : HoldsHeader (librariesFor twoModelsTable twoModels)
      (firstBlock twoModelsFile.bytes) twoModels :=
    ⟨⟨by decide +kernel, by decide +kernel, by decide +kernel, by decide +kernel⟩,
      by decide +kernel, by decide +kernel⟩
  have readable : ∀ object ∈ [constrainedModel, unconstrainedModel], SectionReadable object := by
    intro object member typed
    rw [List.mem_pair] at member
    rcases member with rfl | rfl
    · exact ⟨_, rfl, by simp [ItemReadable, VData.text], fun name named => by cases named⟩
    · exact ⟨_, rfl, by simp, fun name named => by cases named⟩
  obtain ⟨loader, loaded, records⟩ := LitertLmLoader.initializeLoader_loadable linux
    (librariesFor twoModelsTable twoModels) twoModelsFile
    ⟨holds, by decide +kernel, rfl, readable⟩
  refine ⟨loader, loaded source, ?_⟩
  rw [records.header]
  rfl

theorem twoModelsFile_oneSectionPerKey_iff : ∃ loader,
    LitertLmLoader.initializeLoader linux (librariesFor twoModelsTable twoModels) twoModelsFile
        .memoryMappedFile = .ok loader ∧
      (LitertLmLoader.OneSectionPerKey linux twoModelsFile .memoryMappedFile
          [constrainedModel, unconstrainedModel] loader ↔
        LitertLmLoader.ConstraintsOfLast [constrainedModel, unconstrainedModel]) := by
  obtain ⟨loader, loaded, listed⟩ := twoModelsFile_loads .memoryMappedFile
  exact ⟨loader, loaded, LitertLmLoader.initializeLoader_oneSectionPerKey_iff linux
    (librariesFor twoModelsTable twoModels) twoModelsFile .memoryMappedFile loaded listed⟩

/-- The location is that of the second model, the constraint that of the first. -/
theorem twoModelsFile_mixesSections : ∃ loader,
    LitertLmLoader.initializeLoader linux (librariesFor twoModelsTable twoModels) twoModelsFile
        .memoryMappedFile = .ok loader ∧
      loader.sectionLocations prefillDecodeKey = some (sectionLocation unconstrainedModel) ∧
      loader.sectionBackendConstraint prefillDecodeKey = some ['g', 'p', 'u'] ∧
      sectionConstraint unconstrainedModel = none ∧
      ¬LitertLmLoader.OneSectionPerKey linux twoModelsFile .memoryMappedFile
        [constrainedModel, unconstrainedModel] loader := by
  obtain ⟨loader, loaded, listed⟩ := twoModelsFile_loads .memoryMappedFile
  obtain ⟨records, recorded⟩ := LitertLmLoader.initializeLoader_recorded linux
    (librariesFor twoModelsTable twoModels) twoModelsFile .memoryMappedFile loaded listed
  have lastSection : sectionWithKey [constrainedModel, unconstrainedModel] prefillDecodeKey =
      some unconstrainedModel := by decide +kernel
  have located : loader.sectionLocations prefillDecodeKey =
      some (sectionLocation unconstrainedModel) := by
    rw [records.locations, lastSection]
    rfl
  have constrained : loader.sectionBackendConstraint prefillDecodeKey = some ['g', 'p', 'u'] := by
    have lastConstraint : (([constrainedModel, unconstrainedModel].filter
        (isKeyedBy prefillDecodeKey)).filterMap sectionConstraint).getLast? =
          some ['g', 'p', 'u'] := by decide +kernel
    rw [LitertLmLoader.recordSections_constraints _ recorded, lastConstraint]
    rfl
  have unconstrained : sectionConstraint unconstrainedModel = none := by decide +kernel
  refine ⟨loader, loaded, located, constrained, unconstrained, fun one => ?_⟩
  have sameSection := one.constrained prefillDecodeKey
  rw [constrained, lastSection, Option.bind_some, unconstrained] at sameSection
  cases sameSection

end LiteRTLM.Util
