import Mathlib
import LiteRTLM.Schema.Py.LitertlmBuilder
import LiteRTLM.Util.WrittenModelFiles

/-!
Contract: what the loader finds in a file that was built by a run of builder calls.

Owns: the section that each accepted call adds, the image that `build` writes, the keys that
calls declare, the exact condition under which a section is filed under its declared key, and
the files of whole runs.

Does not own: the layout of the image and its readers.
-/

namespace LiteRTLM.Schema.Py

open LiteRTLM.Engine
open LiteRTLM.Library
open LiteRTLM.Util

variable (libraries : BuilderLibraries)

/-! ## Model types -/

/-- The model type of the loader that a model type of the builder stands for. -/
def TfLiteModelType.toModelType : TfLiteModelType → ModelType
  | .prefillDecode => .tfLitePrefillDecode
  | .embedder => .tfLiteEmbedder
  | .perLayerEmbedder => .tfLitePerLayerEmbedder
  | .aux => .tfLiteAux
  | .audioFrontend => .tfLiteAudioFrontend
  | .audioEncoderHw => .tfLiteAudioEncoderHw
  | .audioAdapter => .tfLiteAudioAdapter
  | .endOfAudio => .tfLiteEndOfAudio
  | .visionEncoder => .tfLiteVisionEncoder
  | .visionAdapter => .tfLiteVisionAdapter
  | .artisanTextDecoder => .artisanTextDecoder

/-- Texts are looked up as the strings they are made of. -/
theorem lookup_toList (entries : List (String × ModelType)) (name : String) :
    (entries.map fun entry => (entry.1.toList, entry.2)).lookup name.toList =
      entries.lookup name := by
  induction entries with
  | nil => rfl
  | cons entry rest inductionHypothesis =>
    have sameKey : (name.toList == entry.1.toList) = (name == entry.1) := by
      rw [Bool.eq_iff_iff, beq_iff_eq, beq_iff_eq, String.toList_inj]
    rw [List.map_cons, List.lookup_cons, List.lookup_cons, sameKey, inductionHypothesis]

/-- The names that the loader knows, as strings, which are compared faster than texts. -/
def modelTypeStrings : List (String × ModelType) :=
  [("tf_lite_prefill_decode", .tfLitePrefillDecode),
    ("tf_lite_embedder", .tfLiteEmbedder),
    ("tf_lite_per_layer_embedder", .tfLitePerLayerEmbedder),
    ("tf_lite_aux", .tfLiteAux),
    ("tf_lite_audio_frontend", .tfLiteAudioFrontend),
    ("tf_lite_audio_encoder_hw", .tfLiteAudioEncoderHw),
    ("tf_lite_audio_adapter", .tfLiteAudioAdapter),
    ("tf_lite_end_of_audio", .tfLiteEndOfAudio),
    ("tf_lite_vision_adapter", .tfLiteVisionAdapter),
    ("tf_lite_vision_encoder", .tfLiteVisionEncoder),
    ("tf_lite_artisan_text_decoder", .artisanTextDecoder)]

theorem modelTypeNames_eq :
    modelTypeNames = modelTypeStrings.map fun entry => (entry.1.toList, entry.2) :=
  rfl

theorem lookup_value (modelType : TfLiteModelType) :
    modelTypeNames.lookup modelType.value = some modelType.toModelType := by
  rw [modelTypeNames_eq]
  cases modelType <;> exact (lookup_toList modelTypeStrings _).trans (by decide)

theorem asciiStrToLower_value (modelType : TfLiteModelType) :
    asciiStrToLower modelType.value = modelType.value := by
  cases modelType <;> decide

/-- The loader knows every model type that the builder names. -/
theorem stringToModelType_value (modelType : TfLiteModelType) :
    stringToModelType modelType.value = .ok modelType.toModelType := by
  rw [stringToModelType, asciiStrToLower_value, lookup_value]

/-! ## The section of a call -/

/-- The item that a backend constraint is stored in. -/
def constraintItems : Option Text → List Metadata
  | none => []
  | some [] => []
  | some constraint => [stringMetadata backendConstraintKey (libraries.lower constraint)]

/-- The section that a call adds, with how the metadata of the model is stored. -/
def BuilderCall.added (isBinary : Bool) : BuilderCall → Option BuilderSection
  | .addSystemMetadata _ => none
  | .addLlmMetadata path additional =>
    some ⟨additional, .llmMetadataProto, if isBinary then .file path else .textProto path⟩
  | .addTfliteModel path modelType constraint additional =>
    some ⟨stringMetadata modelTypeKey modelType.value :: constraintItems libraries constraint ++
      additional, .tfLiteModel, .file path⟩
  | .addTfliteWeights path modelType additional =>
    some ⟨stringMetadata modelTypeKey modelType.value :: additional, .tfLiteWeights, .file path⟩
  | .addSentencepieceTokenizer path additional => some ⟨additional, .spTokenizer, .file path⟩
  | .addHfTokenizer path additional => some ⟨additional, .hfTokenizerZlib, .compressed path⟩

/-- What a call does to the sections, whether it is accepted or raises. -/
def AddsSection (call : BuilderCall) (before : LitertLmFileBuilder) :
    EStateM.Result PyError LitertLmFileBuilder Unit → Prop
  | .ok _ after => ∃ isBinary,
      after.sections = before.sections ++ (call.added libraries isBinary).toList
  | .error _ after => after.sections = before.sections

theorem rejectOverrides_cases (additional : List Metadata) (builder : LitertLmFileBuilder) :
    rejectOverrides additional builder = .ok () builder ∨
      ∃ exception, rejectOverrides additional builder = .error exception builder := by
  induction additional with
  | nil => exact Or.inl rfl
  | cons item rest inductionHypothesis =>
    simp only [rejectOverrides, bind]
    by_cases typed : item.key = modelTypeKey
    · exact Or.inr ⟨_, by rw [if_pos typed]; rfl⟩
    · by_cases constrained : item.key = backendConstraintKey
      · exact Or.inr ⟨_, by rw [if_neg typed, if_pos constrained]; rfl⟩
      · rw [if_neg typed, if_neg constrained]
        exact inductionHypothesis

theorem addSystemMetadata_adds (metadata : Metadata) (builder : LitertLmFileBuilder) :
    AddsSection libraries (.addSystemMetadata metadata) builder
      (addSystemMetadata metadata builder) := by
  simp only [addSystemMetadata, bind, EStateM.bind, get, getThe, MonadStateOf.get, EStateM.get]
  by_cases known : builder.systemMetadata.any fun existing => existing.key == metadata.key
  · rw [if_pos known]
    rfl
  · rw [if_neg known]
    exact ⟨true, (List.append_nil _).symm⟩

theorem addTokenizer_adds (call : BuilderCall) {section_ : BuilderSection}
    (adds : call.added libraries true = some section_) (files : FileSystem) (path : Text)
    (missing : String) (builder : LitertLmFileBuilder) :
    AddsSection libraries call builder (addTokenizer files path missing section_ builder) := by
  simp only [addTokenizer, bind, EStateM.bind, get, getThe, MonadStateOf.get, EStateM.get]
  by_cases second : builder.hasTokenizer = true
  · rw [if_pos second]
    rfl
  rw [if_neg second]
  by_cases absent : (files path).isNone = true
  · simp only [if_pos absent]
    rfl
  · simp only [if_neg absent]
    exact ⟨true, by rw [adds]; rfl⟩

theorem addTfliteWeights_adds (files : FileSystem) (path : Text) (modelType : TfLiteModelType)
    (additional : List Metadata) (builder : LitertLmFileBuilder) :
    AddsSection libraries (.addTfliteWeights path modelType additional) builder
      (addTfliteWeights files path modelType additional builder) := by
  simp only [addTfliteWeights, bind]
  by_cases absent : (files path).isNone = true
  · rw [if_pos absent]
    rfl
  rw [if_neg absent]
  by_cases overridden : additional.any fun item => item.key == modelTypeKey
  · simp only [rejectOverride, if_pos overridden]
    rfl
  · simp only [rejectOverride, if_neg overridden]
    exact ⟨true, rfl⟩

theorem addLlmMetadata_adds (files : FileSystem) (path : Text) (additional : List Metadata)
    (builder : LitertLmFileBuilder) :
    AddsSection libraries (.addLlmMetadata path additional) builder
      (addLlmMetadata libraries files path additional builder) := by
  simp only [addLlmMetadata, bind, EStateM.bind, get, getThe, MonadStateOf.get, EStateM.get]
  by_cases second : builder.hasLlmMetadata = true
  · rw [if_pos second]
    rfl
  rw [if_neg second]
  by_cases absent : (files path).isNone = true
  · simp only [if_pos absent]
    rfl
  simp only [if_neg absent]
  cases read : isBinaryProto libraries files path with
  | error exception => rfl
  | ok isBinary => exact ⟨isBinary, rfl⟩

theorem addTfliteModel_adds (files : FileSystem) (path : Text) (modelType : TfLiteModelType)
    (constraint : Option Text) (additional : List Metadata) (builder : LitertLmFileBuilder) :
    AddsSection libraries (.addTfliteModel path modelType constraint additional) builder
      (addTfliteModel libraries files path modelType constraint additional builder) := by
  simp only [addTfliteModel, bind]
  by_cases absent : (files path).isNone = true
  · rw [if_pos absent]
    rfl
  rw [if_neg absent]
  -- The end of the call, once the items that it sets itself are known.
  have finish : ∀ items, items = constraintItems libraries constraint → AddsSection libraries
      (.addTfliteModel path modelType constraint additional) builder
      ((rejectOverrides additional).bind (fun _ => appendSection
        ⟨stringMetadata modelTypeKey modelType.value :: items ++ additional, .tfLiteModel,
          .file path⟩) builder) := by
    intro items kept
    rcases rejectOverrides_cases additional builder with passes | ⟨exception, raises⟩
    · simp only [EStateM.bind, passes]
      exact ⟨true, by rw [BuilderCall.added, ← kept]; rfl⟩
    · simp only [EStateM.bind, raises]
      rfl
  cases constraint with
  | none => exact finish [] rfl
  | some text =>
    cases text with
    | nil => exact finish [] rfl
    | cons letter text =>
      cases valid : validateBackendConstraints libraries (letter :: text) with
      | error exception =>
        simp only [EStateM.bind, raise, valid]
        rfl
      | ok checked =>
        have ended := finish [stringMetadata backendConstraintKey
          (libraries.lower (letter :: text))] rfl
        simp only [EStateM.bind, raise, valid]
        exact ended

/-- Every call adds its section or, when it raises, none. -/
theorem perform_adds (files : FileSystem) (call : BuilderCall)
    (builder : LitertLmFileBuilder) :
    AddsSection libraries call builder (call.perform libraries files builder) := by
  cases call with
  | addSystemMetadata metadata => exact addSystemMetadata_adds libraries metadata builder
  | addLlmMetadata path additional =>
    exact addLlmMetadata_adds libraries files path additional builder
  | addTfliteModel path modelType constraint additional =>
    exact addTfliteModel_adds libraries files path modelType constraint additional builder
  | addTfliteWeights path modelType additional =>
    exact addTfliteWeights_adds libraries files path modelType additional builder
  | addSentencepieceTokenizer path additional =>
    exact addTokenizer_adds libraries _ rfl files path _ builder
  | addHfTokenizer path additional =>
    exact addTokenizer_adds libraries _ rfl files path _ builder

/-! ## Runs of calls -/

/-- A run of calls, each with the files it finds: the builder after it, and the calls that were
accepted. An exception is caught and the run goes on. -/
def performAll : List (FileSystem × BuilderCall) → LitertLmFileBuilder →
    LitertLmFileBuilder × List BuilderCall
  | [], builder => (builder, [])
  | (files, call) :: calls, builder =>
    match call.perform libraries files builder with
    | .ok _ after =>
      let (final, accepted) := performAll calls after
      (final, call :: accepted)
    | .error _ after => performAll calls after

/-- A call that adds the given section. -/
def AddedBy (call : BuilderCall) (section_ : BuilderSection) : Prop :=
  ∃ isBinary, call.added libraries isBinary = some section_

theorem tfLiteModel_hasModelType : AnySectionDataType.tfLiteModel.hasModelType = true :=
  rfl

theorem tfLiteWeights_hasModelType : AnySectionDataType.tfLiteWeights.hasModelType = true :=
  rfl

/-- The key under which a call declares its section. -/
def BuilderCall.declaredKey : BuilderCall → Option BufferKey
  | .addSystemMetadata _ => none
  | .addLlmMetadata _ _ => some (.ofDataType .llmMetadataProto)
  | .addTfliteModel _ modelType _ _ =>
    some (.ofModelType .tfLiteModel tfLiteModel_hasModelType modelType.toModelType)
  | .addTfliteWeights _ modelType _ =>
    some (.ofModelType .tfLiteWeights tfLiteWeights_hasModelType modelType.toModelType)
  | .addSentencepieceTokenizer _ _ => some (.ofDataType .spTokenizer)
  | .addHfTokenizer _ _ => some (.ofDataType .hfTokenizerZlib)

def addingCalls (calls : List BuilderCall) : List BuilderCall :=
  calls.filter fun call => call.declaredKey.isSome

/-- A run adds the sections of its accepted calls, in their order. -/
theorem performAll_sections (calls : List (FileSystem × BuilderCall))
    (builder : LitertLmFileBuilder) :
    ∃ sections, (performAll libraries calls builder).1.sections = builder.sections ++ sections ∧
      List.Forall₂ (AddedBy libraries) (addingCalls (performAll libraries calls builder).2)
        sections := by
  induction calls generalizing builder with
  | nil => exact ⟨[], (List.append_nil _).symm, .nil⟩
  | cons first calls inductionHypothesis =>
    obtain ⟨files, call⟩ := first
    have adds := perform_adds libraries files call builder
    rw [performAll]
    cases performed : call.perform libraries files builder with
    | error exception after =>
      rw [performed] at adds
      obtain ⟨sections, appended, added⟩ := inductionHypothesis after
      exact ⟨sections, by rw [appended, adds], added⟩
    | ok result after =>
      rw [performed] at adds
      obtain ⟨isBinary, grown⟩ := adds
      obtain ⟨sections, appended, added⟩ := inductionHypothesis after
      refine ⟨(call.added libraries isBinary).toList ++ sections, ?_, ?_⟩
      · rw [appended, grown, List.append_assoc]
      · cases call with
        | addSystemMetadata metadata => exact added
        | addLlmMetadata path additional => exact .cons ⟨isBinary, rfl⟩ added
        | addTfliteModel path modelType constraint additional => exact .cons ⟨isBinary, rfl⟩ added
        | addTfliteWeights path modelType additional => exact .cons ⟨isBinary, rfl⟩ added
        | addSentencepieceTokenizer path additional => exact .cons ⟨isBinary, rfl⟩ added
        | addHfTokenizer path additional => exact .cons ⟨isBinary, rfl⟩ added

/-! ## Filing under the declared key -/

theorem name_of_modelType (modelType : TfLiteModelType) :
    ∀ entry ∈ modelTypeNames, entry.2 = modelType.toModelType → entry.1 = modelType.value := by
  cases modelType <;> decide

/-- A name is converted to a model type when it is the name of that type, up to the case of its
letters. -/
theorem stringToModelType_eq_iff (name : Text) (modelType : TfLiteModelType) :
    stringToModelType name = .ok modelType.toModelType ↔
      asciiStrToLower name = modelType.value := by
  have known := stringToModelType_value modelType
  rw [stringToModelType, asciiStrToLower_value] at known
  rw [stringToModelType]
  constructor
  · intro converted
    cases found : modelTypeNames.lookup (asciiStrToLower name) with
    | none =>
      rw [found] at converted
      cases converted
    | some other =>
      rw [found] at converted
      obtain ⟨front, back, listed, -⟩ := List.lookup_eq_some_iff.mp found
      apply name_of_modelType modelType (asciiStrToLower name, other)
      · rw [listed]
        exact List.mem_append_right _ List.mem_cons_self
      · exact Except.ok.inj converted
  · intro same
    rw [same]
    cases found : modelTypeNames.lookup modelType.value with
    | none =>
      rw [found] at known
      cases known
    | some other =>
      rw [found] at known
      exact known

/-- The additional metadata of a call leaves the key alone that the call declares: the loader
can read it, and names no other model type in it. -/
def BuilderCall.KeepsKey : BuilderCall → Prop
  | .addTfliteModel _ modelType _ additional => KeepsModelType modelType additional
  | .addTfliteWeights _ modelType additional => KeepsModelType modelType additional
  | _ => True
where
  KeepsModelType (modelType : TfLiteModelType) (additional : List Metadata) : Prop :=
    (∀ item ∈ additional, ItemReadable item) ∧
      ∀ name, namedModelType additional = some name → asciiStrToLower name = modelType.value

theorem itemNamed_modelType (value : Text) :
    itemNamed modelTypeKey (stringMetadata modelTypeKey value) = some value := by
  have keyed : itemHasKey (stringMetadata modelTypeKey value) modelTypeKey = true := by
    show (asciiStrToLower modelTypeKey == modelTypeKey) = true
    decide
  rw [itemNamed, if_pos keyed]
  rfl

theorem itemNamed_constraint (value : Text) :
    itemNamed modelTypeKey (stringMetadata backendConstraintKey value) = none := by
  have keyed : ¬itemHasKey (stringMetadata backendConstraintKey value) modelTypeKey = true := by
    show ¬(asciiStrToLower backendConstraintKey == modelTypeKey) = true
    decide
  rw [itemNamed, if_neg keyed]

/-- The items that a call sets itself are readable, and name its model type. -/
theorem ownItems_readable (modelType : TfLiteModelType) (constraint : Option Text) :
    ∀ item ∈ stringMetadata modelTypeKey modelType.value :: constraintItems libraries constraint,
      ItemReadable item := by
  intro item member
  rcases List.mem_cons.mp member with rfl | later
  · exact fun _ => rfl
  · cases constraint with
    | none => cases later
    | some text =>
      cases text with
      | nil => cases later
      | cons letter text =>
        rw [List.mem_singleton.mp later]
        exact fun _ => rfl

theorem namedModelType_items (modelType : TfLiteModelType) (constraint : Option Text)
    (additional : List Metadata) :
    namedModelType (stringMetadata modelTypeKey modelType.value ::
        constraintItems libraries constraint ++ additional) =
      (namedModelType additional).or (some modelType.value) := by
  have own : (stringMetadata modelTypeKey modelType.value ::
      constraintItems libraries constraint).filterMap (itemNamed modelTypeKey) =
      [modelType.value] := by
    rw [List.filterMap_cons_some (itemNamed_modelType modelType.value)]
    cases constraint with
    | none => rfl
    | some text =>
      cases text with
      | nil => rfl
      | cons letter text =>
        exact congrArg (modelType.value :: ·)
          (List.filterMap_cons_none (itemNamed_constraint (libraries.lower (letter :: text))))
  rw [namedModelType, List.filterMap_append, own, List.getLast?_append, namedModelType]
  rfl

/-- The key of a section whose items name a model type. -/
theorem bufferKeyOf_named {object : SectionObject} (hasModelType : object.dataType.hasModelType)
    {items : List Metadata} (held : object.items = some items)
    (readable : ∀ item ∈ items, ItemReadable item) {name : Text}
    (named : namedModelType items = some name) :
    ∃ constraint, bufferKeyOf object = match stringToModelType name with
      | .ok modelType => .ok (.ofModelType object.dataType hasModelType modelType, constraint)
      | .error _ => .error (.crash .badStatusOrAccess) := by
  obtain ⟨final, scanned, finalType⟩ := scan_readable items {} readable
  rw [named, Option.some_or] at finalType
  rw [bufferKeyOf, dif_pos hasModelType, held]
  simp only [Except.bind, bind, scanned, finalType]
  refine ⟨final.backendConstraint, ?_⟩
  cases stringToModelType name <;> rfl

/-- A model or its weights are filed under the declared key exactly when the additional
metadata leaves the key alone. -/
theorem modelType_keyed_iff {dataType : AnySectionDataType} (hasModelType : dataType.hasModelType)
    (modelType : TfLiteModelType) (constraint : Option Text) (additional : List Metadata)
    (content : List UInt8) :
    WrittenSection.isKeyedBy (.ofModelType dataType hasModelType modelType.toModelType)
        ⟨stringMetadata modelTypeKey modelType.value :: constraintItems libraries constraint ++
          additional, dataType, content⟩ = true ↔
      BuilderCall.KeepsKey.KeepsModelType modelType additional := by
  have own := ownItems_readable libraries modelType constraint
  have names := namedModelType_items libraries modelType constraint additional
  generalize stringMetadata modelTypeKey modelType.value ::
    constraintItems libraries constraint = ownItems at own names ⊢
  by_cases readable : ∀ item ∈ additional, ItemReadable item
  swap
  · have unreadable : ¬SectionReadable (WrittenSection.objectAt
        ⟨ownItems ++ additional, dataType, content⟩ (0, 0)) := by
      intro claimed
      obtain ⟨items, held, all, -⟩ := claimed hasModelType
      cases held
      exact readable fun item member => all item (List.mem_append_right _ member)
    obtain ⟨cause, crashed⟩ := bufferKeyOf_unreadable unreadable
    rw [WrittenSection.isKeyedBy, isKeyedBy, crashed]
    exact ⟨fun impossible => absurd impossible Bool.false_ne_true,
      fun kept => absurd kept.1 readable⟩
  have all : ∀ item ∈ ownItems ++ additional, ItemReadable item := by
    intro item member
    rcases List.mem_append.mp member with first | second
    · exact own item first
    · exact readable item second
  -- The last name that the items hold decides.
  have decided : ∀ name, namedModelType (ownItems ++ additional) = some name →
      (WrittenSection.isKeyedBy (.ofModelType dataType hasModelType modelType.toModelType)
          ⟨ownItems ++ additional, dataType, content⟩ = true ↔
        asciiStrToLower name = modelType.value) := by
    intro name named
    obtain ⟨constraint, keyed⟩ : ∃ constraint, bufferKeyOf
        (WrittenSection.objectAt ⟨ownItems ++ additional, dataType, content⟩ (0, 0)) = _ :=
      bufferKeyOf_named hasModelType rfl all named
    rw [WrittenSection.isKeyedBy, isKeyedBy, keyed, ← stringToModelType_eq_iff]
    cases converted : stringToModelType name with
    | error status =>
      exact ⟨fun impossible => absurd impossible Bool.false_ne_true,
        fun impossible => by cases impossible⟩
    | ok other =>
      simp only [beq_iff_eq, Except.ok.injEq, WrittenSection.objectAt]
      constructor
      · intro same
        exact Option.some.inj (congrArg BufferKey.modelType same)
      · intro same
        rw [same]
  cases named : namedModelType additional with
  | none =>
    rw [named, Option.none_or] at names
    rw [decided modelType.value names]
    refine ⟨fun _ => ⟨readable, fun name found => ?_⟩, fun _ => ?_⟩
    · rw [named] at found
      cases found
    · exact (stringToModelType_eq_iff _ _).mp (stringToModelType_value modelType)
  | some name =>
    rw [named, Option.some_or] at names
    rw [decided name names]
    refine ⟨fun same => ⟨readable, fun other found => ?_⟩, fun kept => kept.2 name named⟩
    rw [named] at found
    cases found
    exact same

/-- The section that an accepted call adds is filed under the key that the call declares exactly
when the additional metadata leaves the key alone. -/
theorem keyed_iff {call : BuilderCall} {section_ : BuilderSection}
    (added : AddedBy libraries call section_) {key : BufferKey}
    (declared : call.declaredKey = some key) (content : List UInt8) :
    WrittenSection.isKeyedBy key ⟨section_.metadata, section_.dataType, content⟩ = true ↔
      call.KeepsKey := by
  obtain ⟨isBinary, added⟩ := added
  cases call with
  | addSystemMetadata metadata => cases declared
  | addTfliteModel path modelType constraint additional =>
    cases added
    cases declared
    exact modelType_keyed_iff libraries rfl modelType constraint additional content
  | addTfliteWeights path modelType additional =>
    cases added
    cases declared
    exact modelType_keyed_iff libraries rfl modelType none additional content
  | addLlmMetadata path additional =>
    cases added
    cases declared
    exact ⟨fun _ => trivial, fun _ => beq_self_eq_true _⟩
  | addSentencepieceTokenizer path additional =>
    cases added
    cases declared
    exact ⟨fun _ => trivial, fun _ => beq_self_eq_true _⟩
  | addHfTokenizer path additional =>
    cases added
    cases declared
    exact ⟨fun _ => trivial, fun _ => beq_self_eq_true _⟩

/-! ## The image of `build` -/

namespace BinaryStream

def ofImage (image : List UInt8) : BinaryStream where
  image := image
  position := image.length

@[simp]
theorem ofImage_position (image : List UInt8) : (ofImage image).position = image.length := rfl

theorem write_ofImage (image data : List UInt8) :
    (ofImage image).write data = ofImage (image ++ data) := by
  simp [ofImage, write, ByteImage.overwrite_at_end]

theorem writePadding_ofImage (image : List UInt8) (blockSize : Nat) :
    (ofImage image).writePadding blockSize =
      ofImage (PaddedParts.padded 0 blockSize image) := by
  rw [writePadding, PaddedParts.padded, PaddedParts.padding]
  by_cases needed : 0 < (blockSize - (ofImage image).position % blockSize) % blockSize
  · simp only [if_pos needed, write_ofImage]
    rfl
  · simp only [if_neg needed]
    rw [show (blockSize - image.length % blockSize) % blockSize = 0 from
      Nat.eq_zero_of_not_pos needed, List.replicate_zero, List.append_nil]

/-- A write into the unused part behind a front. -/
theorem write_front (front data rest : List UInt8) {unused : Nat}
    (fits : data.length ≤ unused) :
    BinaryStream.write ⟨front ++ List.replicate unused 0 ++ rest, front.length⟩ data =
      ⟨(front ++ data) ++ List.replicate (unused - data.length) 0 ++ rest,
        (front ++ data).length⟩ := by
  have inside : front.length + data.length ≤
      (front ++ List.replicate unused (0 : UInt8)).length := by
    rw [List.length_append, List.length_replicate]
    omega
  rw [write, ByteImage.overwrite_append 0 _ _ inside, ByteImage.overwrite_unused,
    List.length_append]

end BinaryStream

open BinaryStream

variable (files : FileSystem)

/-- Sections whose data can be read, with what they hold. -/
def Read (sections : List BuilderSection) (contents : List (List UInt8)) : Prop :=
  List.Forall₂ (fun section_ content => section_.dataReader.read libraries files = .ok content)
    sections contents

theorem writeBuilderSections_ofImage {sections : List BuilderSection}
    {contents : List (List UInt8)} (read : Read libraries files sections contents)
    (image : List UInt8) :
    writeBuilderSections libraries files (ofImage image) sections =
      .ok (ofImage (PaddedParts.appendParts 0 blockSize image contents),
        PaddedParts.partSpans blockSize image.length contents) := by
  induction read generalizing image with
  | nil => rfl
  | @cons section_ content sections contents held read inductionHypothesis =>
    have rest := inductionHypothesis (PaddedParts.padded 0 blockSize (image ++ content))
    rw [PaddedParts.padded_length, List.length_append] at rest
    simp only [writeBuilderSections, held, write_ofImage, writePadding_ofImage, rest, bind,
      Except.bind, pure, Except.pure, PaddedParts.appendParts, PaddedParts.partSpans,
      ofImage_position, List.length_append]

/-- A loop that ends has read every section. -/
theorem read_of_writeBuilderSections {sections : List BuilderSection} {stream : BinaryStream}
    {result : BinaryStream × List (Nat × Nat)}
    (ended : writeBuilderSections libraries files stream sections = .ok result) :
    ∃ contents, Read libraries files sections contents := by
  induction sections generalizing stream result with
  | nil => exact ⟨[], .nil⟩
  | cons section_ sections inductionHypothesis =>
    simp only [writeBuilderSections, bind, Except.bind] at ended
    cases held : section_.dataReader.read libraries files with
    | error exception =>
      rw [held] at ended
      cases ended
    | ok content =>
      rw [held] at ended
      dsimp only at ended
      cases rest : writeBuilderSections libraries files
          ((stream.write content).writePadding blockSize) sections with
      | error exception =>
        rw [rest] at ended
        cases ended
      | ok final =>
        obtain ⟨contents, read⟩ := inductionHypothesis rest
        exact ⟨content :: contents, .cons held read⟩

/-- The sections of a builder with what they hold. -/
def builtSections (sections : List BuilderSection) (contents : List (List UInt8)) :
    List WrittenSection :=
  List.zipWith (fun section_ content => ⟨section_.metadata, section_.dataType, content⟩)
    sections contents

/-- The header that `build` writes for sections with the given bytes. -/
def builtHeader (builder : LitertLmFileBuilder) (contents : List (List UInt8)) : List UInt8 :=
  libraries.getHeaderData
    (getHeaderTable builder (PaddedParts.partSpans blockSize blockSize contents))

/-- The preamble is written in front of what is there. -/
theorem versioned_eq (rest : List UInt8) :
    (((((BinaryStream.mk (List.replicate blockSize 0 ++ rest) 0).write magicNumber).write
        (ByteImage.littleEndian 4 litertlmMajorVersion)).write
        (ByteImage.littleEndian 4 litertlmMinorVersion)).write
        (ByteImage.littleEndian 4 litertlmPatchVersion)).writePadding headerBeginByteOffset =
      ⟨PaddedParts.padded 0 blockSize filePreamble ++ rest, headerBeginByteOffset⟩ := by
  have written : (((((BinaryStream.mk (List.replicate blockSize 0 ++ rest) 0).write
      magicNumber).write (ByteImage.littleEndian 4 litertlmMajorVersion)).write
      (ByteImage.littleEndian 4 litertlmMinorVersion)).write
      (ByteImage.littleEndian 4 litertlmPatchVersion)) =
      ⟨filePreamble ++ List.replicate 16364 0 ++ rest, filePreamble.length⟩ := by
    rw [show BinaryStream.mk (List.replicate blockSize 0 ++ rest) 0 =
      ⟨[] ++ List.replicate blockSize 0 ++ rest, ([] : List UInt8).length⟩ from rfl,
      write_front _ _ _ (by decide), write_front _ _ _ (by decide),
      write_front _ _ _ (by decide), write_front _ _ _ (by decide)]
    rfl
  have needed : (headerBeginByteOffset - filePreamble.length % headerBeginByteOffset) %
      headerBeginByteOffset = 12 := by
    rw [filePreamble_length]
    rfl
  rw [written, writePadding]
  simp only [needed, if_pos (show 0 < 12 by decide)]
  rw [write_front _ _ _ (by decide), PaddedParts.padded, List.append_assoc filePreamble,
    List.length_replicate, List.replicate_append_replicate, List.length_append,
    filePreamble_length, List.length_replicate]
  rfl

/-- The end of `build`, behind the loop over the sections. -/
theorem writeBuilderHeader_eq (builder : LitertLmFileBuilder) (contents : List (List UInt8)) :
    writeBuilderHeader libraries builder
        (ofImage (PaddedParts.appendParts 0 blockSize (List.replicate blockSize 0) contents))
        (PaddedParts.partSpans blockSize blockSize contents) =
      if builder.systemMetadata.isEmpty then .error (.assertionError "System metadata is empty.")
      else if blockSize < headerBeginByteOffset + (builtHeader libraries builder contents).length
      then .error (.valueError "Header size exceeds 16KB limit.")
      else .ok ⟨modelFileImage (builtHeader libraries builder contents) contents,
        headerEndLocationByteOffset + 8⟩ := by
  obtain ⟨rest, appended⟩ := PaddedParts.exists_appendParts (0 : UInt8) blockSize blockSize contents
  have image := appended (List.replicate blockSize 0) List.length_replicate
  have sections := appended (PaddedParts.padded 0 blockSize filePreamble) paddedPreamble_length
  rw [writeBuilderHeader, image, seek]
  simp only [ofImage, versioned_eq]
  rw [← sections]
  by_cases empty : builder.systemMetadata.isEmpty = true
  · rw [if_pos empty, if_pos empty]
    rfl
  rw [if_neg empty, if_neg empty]
  have position : (BinaryStream.write ⟨PaddedParts.appendParts 0 blockSize
      (PaddedParts.padded 0 blockSize filePreamble) contents, headerBeginByteOffset⟩
      (libraries.getHeaderData (getHeaderTable builder
        (PaddedParts.partSpans blockSize blockSize contents)))).position =
      headerBeginByteOffset + (builtHeader libraries builder contents).length := rfl
  simp only [position]
  by_cases large :
      blockSize < headerBeginByteOffset + (builtHeader libraries builder contents).length
  · rw [if_pos large, if_pos large]
    rfl
  · rw [if_neg large, if_neg large]
    simp only [write, seek, modelFileImage, sectionsImage, ByteImage.littleEndian_length, pure,
      Except.pure, builtHeader]

/-- `build` succeeds exactly when the data of every section can be read,
there is system metadata, and the header fits in the first block; the stream then holds the
image of that header and these sections. -/
theorem build_eq_ok_iff (builder : LitertLmFileBuilder) {bytes : List UInt8} :
    build libraries files builder = .ok bytes ↔
      ∃ contents, Read libraries files builder.sections contents ∧
        builder.systemMetadata ≠ [] ∧
        headerBeginByteOffset + (builtHeader libraries builder contents).length ≤ blockSize ∧
        bytes = modelFileImage (builtHeader libraries builder contents) contents := by
  have begins : BinaryStream.write {} (List.replicate blockSize 0) =
      ofImage (List.replicate blockSize 0) := write_ofImage [] _
  have ended : ∀ contents, Read libraries files builder.sections contents →
      build libraries files builder = (writeBuilderHeader libraries builder
        (ofImage (PaddedParts.appendParts 0 blockSize (List.replicate blockSize 0) contents))
        (PaddedParts.partSpans blockSize blockSize contents)).map BinaryStream.image := by
    intro contents read
    have looped := writeBuilderSections_ofImage libraries files read (List.replicate blockSize 0)
    rw [List.length_replicate] at looped
    simp only [build, begins, looped, bind, Except.bind]
    cases writeBuilderHeader libraries builder
      (ofImage (PaddedParts.appendParts 0 blockSize (List.replicate blockSize 0) contents))
      (PaddedParts.partSpans blockSize blockSize contents) <;> rfl
  constructor
  · intro built
    have looped : ∃ result, writeBuilderSections libraries files
        (ofImage (List.replicate blockSize 0)) builder.sections = .ok result := by
      cases ends : writeBuilderSections libraries files
          (ofImage (List.replicate blockSize 0)) builder.sections with
      | ok result => exact ⟨result, rfl⟩
      | error exception =>
        simp only [build, begins, ends, bind, Except.bind] at built
        cases built
    obtain ⟨result, looped⟩ := looped
    obtain ⟨contents, read⟩ := read_of_writeBuilderSections libraries files looped
    rw [ended contents read, writeBuilderHeader_eq] at built
    by_cases empty : builder.systemMetadata.isEmpty = true
    · rw [if_pos empty] at built
      cases built
    rw [if_neg empty] at built
    by_cases large :
        blockSize < headerBeginByteOffset + (builtHeader libraries builder contents).length
    · rw [if_pos large] at built
      cases built
    · rw [if_neg large] at built
      cases built
      exact ⟨contents, read, by simpa using empty, by omega, rfl⟩
  · rintro ⟨contents, read, filled, fits, rfl⟩
    rw [ended contents read, writeBuilderHeader_eq,
      if_neg (by simpa using filled), if_neg (by omega)]
    rfl

/-! ## Built files -/

theorem builtSections_contents {sections : List BuilderSection} {contents : List (List UInt8)}
    (read : Read libraries files sections contents) :
    (builtSections sections contents).map WrittenSection.content = contents :=
  map_zipWith_of_forall₂ (fun _ _ _ => rfl) read

/-- The table of the header lists the sections. -/
theorem getHeaderTable_eq (builder : LitertLmFileBuilder) {contents : List (List UInt8)}
    (read : Read libraries files builder.sections contents) :
    getHeaderTable builder (PaddedParts.partSpans blockSize blockSize contents) =
      ⟨some builder.systemMetadata,
        some (writtenObjects (builtSections builder.sections contents))⟩ := by
  have entries : ∀ (sections : List BuilderSection) (contents : List (List UInt8))
      (spans : List (Nat × Nat)), Read libraries files sections contents →
      contents.length = spans.length →
      List.zipWith (fun (added : BuilderSection) (offset : Nat × Nat) =>
          (⟨some added.metadata, UInt64.ofNat offset.1, UInt64.ofNat offset.2,
            added.dataType⟩ : SectionObject)) sections spans =
        List.zipWith WrittenSection.objectAt (builtSections sections contents) spans := by
    intro sections contents spans read sized
    induction read generalizing spans with
    | nil => rfl
    | cons held read inductionHypothesis =>
      obtain ⟨span, rest, rfl⟩ := List.exists_cons_of_length_eq_add_one sized.symm
      exact congrArg _ (inductionHypothesis rest (Nat.succ.inj sized))
  rw [getHeaderTable, writtenObjects, builtSections_contents libraries files read,
    entries _ contents _ read (PaddedParts.partSpans_length _ _ _).symm]

/-- What a call declares: the bytes of the last accepted call that declares the key. -/
def declaredContent (accepted : List BuilderCall) (contents : List (List UInt8))
    (key : BufferKey) : Option (List UInt8) :=
  ((((addingCalls accepted).zip contents).filter fun entry =>
    decide (entry.1.declaredKey = some key)).getLast?).map Prod.snd

/-- The loader opens the file from both sources and finds every section under the key that its
call has declared. -/
def LoadsAsDeclared (platform : Platform) (readers : ReaderLibraries) (file : ModelFile)
    (accepted : List BuilderCall) (contents : List (List UInt8)) : Prop :=
  ∃ loader, (∀ source,
      LitertLmLoader.initializeLoader platform readers file source = .ok loader) ∧
    ∀ source keys, List.Forall₂ (Serves file) (keys.map (declaredContent accepted contents))
      (LitertLmLoader.getSectionBuffers platform file source loader keys)

/-- A section that is filed under the key that its call declares. -/
def FiledAsDeclared (call : BuilderCall) (written : WrittenSection) : Prop :=
  ∀ key, call.declaredKey = some key → written.isKeyedBy key = true

theorem bufferKeyOf_of_isKeyedBy {object : SectionObject} {key : BufferKey}
    (keyed : isKeyedBy key object = true) :
    ∃ constraint, bufferKeyOf object = .ok (key, constraint) := by
  rw [isKeyedBy] at keyed
  cases found : bufferKeyOf object with
  | error failure =>
    rw [found] at keyed
    cases keyed
  | ok result =>
    rw [found] at keyed
    exact ⟨result.2, by rw [← beq_iff_eq.mp keyed]⟩

/-- A section that is filed as declared is readable, and is filed under no other key. -/
theorem FiledAsDeclared.spec {call : BuilderCall} {written : WrittenSection}
    (filed : FiledAsDeclared call written) {declared : BufferKey}
    (declares : call.declaredKey = some declared) :
    written.Readable ∧ ∀ key, written.isKeyedBy key = decide (call.declaredKey = some key) := by
  obtain ⟨constraint, found⟩ := bufferKeyOf_of_isKeyedBy (filed declared declares)
  constructor
  · by_contra unreadable
    obtain ⟨cause, crashed⟩ := bufferKeyOf_unreadable unreadable
    rw [found] at crashed
    cases crashed
  · intro key
    rw [WrittenSection.isKeyedBy, isKeyedBy, found, declares]
    simp only [Option.some.injEq, Bool.beq_eq_decide_eq]

/-- A call, the data of its section, and the section as it is written. -/
def BuiltFrom (call : BuilderCall) (content : List UInt8) (written : WrittenSection) : Prop :=
  ∃ section_, AddedBy libraries call section_ ∧
    section_.dataReader.read libraries files = .ok content ∧
    written = ⟨section_.metadata, section_.dataType, content⟩

theorem AddedBy.declares {call : BuilderCall} {section_ : BuilderSection}
    (added : AddedBy libraries call section_) : ∃ key, call.declaredKey = some key := by
  obtain ⟨isBinary, added⟩ := added
  cases call with
  | addSystemMetadata metadata => cases added
  | _ => exact ⟨_, rfl⟩

theorem builtFrom_zip {calls : List BuilderCall} {sections : List BuilderSection}
    {contents : List (List UInt8)} (added : List.Forall₂ (AddedBy libraries) calls sections)
    (read : Read libraries files sections contents) :
    List.Forall₂ (fun entry => BuiltFrom libraries files entry.1 entry.2) (calls.zip contents)
      (builtSections sections contents) := by
  induction added generalizing contents with
  | nil => exact .nil
  | cons first _ inductionHypothesis =>
    cases read with
    | cons held read => exact .cons ⟨_, first, held, rfl⟩ (inductionHypothesis read)

theorem builtFrom_calls {calls : List BuilderCall} {sections : List BuilderSection}
    {contents : List (List UInt8)} (added : List.Forall₂ (AddedBy libraries) calls sections)
    (read : Read libraries files sections contents) :
    List.Forall₂ (fun call written => ∃ content, BuiltFrom libraries files call content written)
      calls (builtSections sections contents) := by
  induction added generalizing contents with
  | nil =>
    cases read
    exact .nil
  | cons first _ inductionHypothesis =>
    cases read with
    | cons held read => exact .cons ⟨_, _, first, held, rfl⟩ (inductionHypothesis read)

theorem BuiltFrom.filed_iff {call : BuilderCall} {content : List UInt8}
    {written : WrittenSection} (builtFrom : BuiltFrom libraries files call content written) :
    FiledAsDeclared call written ↔ call.KeepsKey := by
  obtain ⟨section_, added, -, rfl⟩ := builtFrom
  obtain ⟨declared, declares⟩ := added.declares
  constructor
  · intro filed
    exact (keyed_iff libraries added declares content).mp (filed declared declares)
  · intro keeps key found
    exact (keyed_iff libraries added found content).mpr keeps

/-- Sections are filed as declared exactly when no additional metadata takes a key away. -/
theorem filedAsDeclared_iff {accepted : List BuilderCall} {written : List WrittenSection}
    (built : List.Forall₂
      (fun call written => ∃ content, BuiltFrom libraries files call content written)
      (addingCalls accepted) written) :
    List.Forall₂ FiledAsDeclared (addingCalls accepted) written ↔
      ∀ call ∈ accepted, call.KeepsKey := by
  have keeps : (∀ call ∈ accepted, call.KeepsKey) ↔
      ∀ call ∈ addingCalls accepted, call.KeepsKey := by
    refine ⟨fun all call member => all call (List.mem_of_mem_filter member),
      fun all call member => ?_⟩
    by_cases adds : call.declaredKey.isSome = true
    · exact all call (List.mem_filter.mpr ⟨member, adds⟩)
    · cases call with
      | addSystemMetadata metadata => trivial
      | _ => exact absurd rfl adds
  rw [keeps]
  constructor
  · intro filed
    have both := List.Forall₂.mp (S := fun call _ => call.KeepsKey ∧ True)
      (fun call written filed ⟨content, builtFrom⟩ => ⟨builtFrom.filed_iff.mp filed, trivial⟩)
      filed built
    exact ((List.forall₂_and_left _ _).mp both).1
  · intro all
    refine ((List.forall₂_and_left _ _).mpr ⟨all, built⟩).imp ?_
    intro call written kept
    obtain ⟨keeps, content, builtFrom⟩ := kept
    exact builtFrom.filed_iff.mpr keeps

/-- What is found by the keys of the loader is what the calls declare. -/
theorem keyedContent_eq {accepted : List BuilderCall} {contents : List (List UInt8)}
    {written : List WrittenSection}
    (built : List.Forall₂ (fun entry => BuiltFrom libraries files entry.1 entry.2)
      ((addingCalls accepted).zip contents) written)
    (filed : ∀ entry ∈ (addingCalls accepted).zip contents, entry.1.KeepsKey) (key : BufferKey) :
    keyedContent written key = declaredContent accepted contents key := by
  have kept := (List.forall₂_and_left _ _).mpr ⟨filed, built⟩
  have same : List.Forall₂
      (fun (entry : BuilderCall × List UInt8) written => entry.2 = written.content)
      (((addingCalls accepted).zip contents).filter fun entry =>
        decide (entry.1.declaredKey = some key))
      (written.filter (WrittenSection.isKeyedBy key)) := by
    refine (List.rel_filter (fun entry written both => ?_) kept).imp ?_
    · obtain ⟨keeps, builtFrom⟩ := both
      have filedHere := builtFrom.filed_iff.mpr keeps
      obtain ⟨section_, added, -, -⟩ := builtFrom
      obtain ⟨declared, declares⟩ := added.declares
      simp only [(filedHere.spec declares).2 key]
    · rintro entry written ⟨-, section_, -, -, rfl⟩
      rfl
  have last := rel_getLast? same
  rw [keyedContent, declaredContent]
  generalize (written.filter (WrittenSection.isKeyedBy key)).getLast? = found at last ⊢
  generalize (((addingCalls accepted).zip contents).filter fun entry =>
    decide (entry.1.declaredKey = some key)).getLast? = declared at last ⊢
  cases last with
  | none => rfl
  | some contentIs => exact congrArg some contentIs.symm

/-- **Files of builder runs.** Whatever calls a new builder is given, in any order, with
exceptions caught on the way: a file that `build` writes then holds the data of the accepted
calls in their order and reads back; its sections are filed under the keys that the calls
declare exactly when no additional metadata takes a key away, and then the loader finds, under
every key, the data of the last call that declares it. -/
theorem build_loadsAsDeclared (platform : Platform) (readers : ReaderLibraries)
    (calls : List (FileSystem × BuilderCall)) (memory : blockSize ≤ platform.maxAllocation)
    (decodes : ∀ contents,
      Read libraries files (performAll libraries calls {}).1.sections contents →
      readers.getLiteRTLMMetaData (builtHeader libraries (performAll libraries calls {}).1
          contents) =
        some (getHeaderTable (performAll libraries calls {}).1
          (PaddedParts.partSpans blockSize blockSize contents)))
    (file : ModelFile)
    (built : build libraries files (performAll libraries calls {}).1 = .ok file.bytes) :
    ∃ contents, Read libraries files (performAll libraries calls {}).1.sections contents ∧
      ReadsBack platform readers file (performAll libraries calls {}).1.systemMetadata
        (builtSections (performAll libraries calls {}).1.sections contents) ∧
      (List.Forall₂ FiledAsDeclared (addingCalls (performAll libraries calls {}).2)
          (builtSections (performAll libraries calls {}).1.sections contents) ↔
        ∀ call ∈ (performAll libraries calls {}).2, call.KeepsKey) ∧
      ((∀ call ∈ (performAll libraries calls {}).2, call.KeepsKey) →
        LoadsAsDeclared platform readers file (performAll libraries calls {}).2 contents) := by
  obtain ⟨sections, appended, added⟩ := performAll_sections libraries calls {}
  rw [List.nil_append] at appended
  rw [← appended] at added
  generalize performAll libraries calls {} = run at *
  obtain ⟨contents, read, -, fits, image⟩ := (build_eq_ok_iff libraries files run.1).mp built
  have written : WrittenFile readers file run.1.systemMetadata
      (builtSections run.1.sections contents) (builtHeader libraries run.1 contents) := by
    refine ⟨?_, fits, ?_⟩
    · rw [builtSections_contents libraries files read]
      exact image
    · rw [decodes contents read, getHeaderTable_eq libraries files run.1 read]
  have readsBack := written.readsBack platform memory
  have filed := filedAsDeclared_iff libraries files (builtFrom_calls libraries files added read)
  refine ⟨contents, read, readsBack, filed, fun keeps => ?_⟩
  have readable : ∀ section_ ∈ builtSections run.1.sections contents, section_.Readable := by
    intro section_ member
    obtain ⟨call, -, filedHere, content, builtFrom⟩ := exists_of_mem_right
      (List.Forall₂.mp (S := fun call written => FiledAsDeclared call written ∧
        ∃ content, BuiltFrom libraries files call content written)
        (fun _ _ filed builtFrom => ⟨filed, builtFrom⟩) (filed.mpr keeps)
        (builtFrom_calls libraries files added read)) member
    obtain ⟨added_, addedBy, -, -⟩ := builtFrom
    obtain ⟨declared, declares⟩ := addedBy.declares
    exact (filedHere.spec declares).1
  obtain ⟨loader, loaded, served⟩ := readsBack.loads readable
  refine ⟨loader, loaded, fun source keys => ?_⟩
  have contentIs : keyedContent (builtSections run.1.sections contents) =
      declaredContent run.2 contents := by
    funext key
    refine keyedContent_eq libraries files (builtFrom_zip libraries files added read)
      (fun entry member => ?_) key
    exact keeps entry.1 (List.mem_of_mem_filter (List.of_mem_zip member).1)
  rw [← contentIs]
  exact served source keys

/-! ## A run with an exception -/

/-- Packages of which only the flatbuffers are used. -/
def builderFor (metadata : LiteRTLMMetaData) (table : List UInt8) : BuilderLibraries where
  getHeaderData := fun written => if written = metadata then table else []
  parseFromString := fun _ => none
  textFormatParse := fun _ => none
  zlibCompress := fun data => data
  lower := asciiStrToLower
  strip := fun text => text

/-- A model, a tokenizer whose file is missing, and the author. -/
def modelCalls : List BuilderCall :=
  [.addTfliteModel "m.tflite".toList .prefillDecode none [],
    .addSentencepieceTokenizer "t.spm".toList [],
    .addSystemMetadata (stringMetadata "author".toList "me".toList)]

def modelDirectory : FileSystem := fun path =>
  if path = "m.tflite".toList then some (List.replicate 16 7) else none

def modelMetadata : LiteRTLMMetaData where
  systemMetadata := some [stringMetadata "author".toList "me".toList]
  sectionMetadata := some
    [⟨some [stringMetadata modelTypeKey TfLiteModelType.prefillDecode.value], 16384, 16400,
      .tfLiteModel⟩]

/-- The flatbuffer of `modelMetadata`. -/
def modelTable : List UInt8 :=
    [16, 0, 0, 0, 0, 0, 0, 0, 8, 0, 12, 0, 8, 0, 4, 0, 8, 0, 0, 0, 8, 0, 0, 0, 152, 0, 0, 0, 62,
     255, 255, 255, 4, 0, 0, 0, 1, 0, 0, 0, 16, 0, 0, 0, 12, 0, 32, 0, 28, 0, 16, 0, 8, 0, 7, 0,
     12, 0, 0, 0, 0, 0, 0, 3, 16, 64, 0, 0, 0, 0, 0, 0, 0, 64, 0, 0, 0, 0, 0, 0, 0, 0, 0, 0, 4,
     0, 0, 0, 1, 0, 0, 0, 16, 0, 0, 0, 0, 0, 10, 0, 16, 0, 12, 0, 11, 0, 4, 0, 10, 0, 0, 0, 12,
     0, 0, 0, 0, 0, 0, 9, 40, 0, 0, 0, 158, 255, 255, 255, 4, 0, 0, 0, 22, 0, 0, 0, 116, 102, 95,
     108, 105, 116, 101, 95, 112, 114, 101, 102, 105, 108, 108, 95, 100, 101, 99, 111, 100, 101,
     0, 0, 10, 0, 0, 0, 109, 111, 100, 101, 108, 95, 116, 121, 112, 101, 0, 0, 210, 255, 255,
     255, 4, 0, 0, 0, 1, 0, 0, 0, 16, 0, 0, 0, 0, 0, 10, 0, 18, 0, 12, 0, 11, 0, 4, 0, 10, 0, 0,
     0, 20, 0, 0, 0, 0, 0, 0, 9, 28, 0, 0, 0, 0, 0, 6, 0, 8, 0, 4, 0, 6, 0, 0, 0, 4, 0, 0, 0, 2,
     0, 0, 0, 109, 101, 0, 0, 6, 0, 0, 0, 97, 117, 116, 104, 111, 114, 0, 0]

/-- The builder after the calls, and those that it accepted. -/
def modelRun : LitertLmFileBuilder × List BuilderCall :=
  performAll (builderFor modelMetadata modelTable)
    (modelCalls.map fun call => (modelDirectory, call)) {}

theorem modelRun_sections : modelRun.1.sections =
    [⟨[stringMetadata modelTypeKey TfLiteModelType.prefillDecode.value], .tfLiteModel,
      .file "m.tflite".toList⟩] :=
  rfl

/-- The model is the only section that is read. -/
theorem modelRun_read {contents : List (List UInt8)}
    (read : Read (builderFor modelMetadata modelTable) modelDirectory modelRun.1.sections
      contents) : contents = [List.replicate 16 7] := by
  rw [modelRun_sections] at read
  cases read with
  | cons first rest =>
    cases rest
    cases first
    rfl

set_option maxRecDepth 20000 in
theorem modelRun_header : builtHeader (builderFor modelMetadata modelTable) modelRun.1
    [List.replicate 16 7] = modelTable := by
  decide

set_option maxRecDepth 20000 in
/-- The model that was added before an exception is found again. -/
theorem build_loadsAsDeclared_oneModel :
    ∃ file : ModelFile, build (builderFor modelMetadata modelTable) modelDirectory modelRun.1 =
        .ok file.bytes ∧
      LoadsAsDeclared linux (librariesFor modelTable modelMetadata) file modelRun.2
        [List.replicate 16 7] := by
  have held : Read (builderFor modelMetadata modelTable) modelDirectory modelRun.1.sections
      [List.replicate 16 7] := by
    rw [modelRun_sections]
    exact .cons rfl .nil
  have fits : headerBeginByteOffset + modelTable.length ≤ blockSize := by decide
  have small : (modelFileImage modelTable [List.replicate 16 7]).length < 2 ^ 63 := by
    rw [modelFileImage_length fits, oneSectionImage_length]
    decide
  have built : build (builderFor modelMetadata modelTable) modelDirectory modelRun.1 =
      .ok (modelFileImage modelTable [List.replicate 16 7]) := by
    refine (build_eq_ok_iff _ _ _).mpr ⟨_, held, by decide, ?_⟩
    rw [modelRun_header]
    exact ⟨fits, rfl⟩
  refine ⟨⟨_, small⟩, built, ?_⟩
  obtain ⟨contents, read, -, -, loads⟩ := build_loadsAsDeclared
    (builderFor modelMetadata modelTable) modelDirectory linux
    (librariesFor modelTable modelMetadata)
    (modelCalls.map fun call => (modelDirectory, call)) (by decide)
    (fun contents read => by
      rw [modelRun_read read]
      decide) ⟨_, small⟩ built
  rw [modelRun_read read] at loads
  refine loads fun call accepted => ?_
  have each : modelRun.2 = [.addTfliteModel "m.tflite".toList .prefillDecode none [],
      .addSystemMetadata (stringMetadata "author".toList "me".toList)] := by
    rfl
  change call ∈ modelRun.2 at accepted
  rw [each] at accepted
  simp only [List.mem_cons, List.not_mem_nil, or_false] at accepted
  rcases accepted with rfl | rfl
  · have none : BuilderCall.KeepsKey.KeepsModelType .prefillDecode [] :=
      ⟨fun item member => absurd member List.not_mem_nil, fun name named => by cases named⟩
    exact none
  · trivial

end LiteRTLM.Schema.Py
