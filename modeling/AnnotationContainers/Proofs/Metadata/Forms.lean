import AnnotationContainers.Proofs.Metadata.Objects

/-! # Forms of metadata

Besides the object that is written of it, a record may be given as an array of its fields in the
order in which they are declared. Fields at the end may be left out if they have their default
values, in each record independently. What is decoded is the record, whichever of these forms it
has, so what is written tells apart exactly the documents that are different.
-/

namespace AnnotationContainers

open Outcomes Decoding

namespace Positional

variable {α : Type}

/-! ### Fields in order -/

/-- The value is decoded from each of its forms. -/
def Reads (decode : Decoder α) (form : α → Json → Prop) : Prop :=
  ∀ value json, form value json → decode json = .ok value

/-- The form that is written, and no other. -/
def Written (encode : α → Json) (value : α) (json : Json) : Prop := json = encode value

def ListForm (form : α → Json → Prop) (values : List α) (json : Json) : Prop :=
  ∃ items, json = .array items ∧ List.Forall₂ form values items

theorem reads_written {decode : Decoder α} {encode : α → Json}
    (inverse : ∀ value, decode (encode value) = .ok value) : Reads decode (Written encode) := by
  rintro value _ rfl
  exact inverse value

theorem reads_list {decode : Decoder α} {form : α → Json → Prop} (reads : Reads decode form) :
    Reads (list decode) (ListForm form) := by
  rintro values _ ⟨items, rfl, forms⟩
  exact mapM_eq_ok_iff.2 (forms.flip.imp fun json value => reads value json)

theorem listForm_map {form : α → Json → Prop} {encode : α → Json}
    (each : ∀ value, form value (encode value)) (values : List α) :
    ListForm form values (.array (values.map encode)) :=
  ⟨_, rfl, List.forall₂_map_right_iff.2 (List.forall₂_same.2 fun value _ => each value)⟩

theorem listForm_written (encode : α → Json) (values : List α) :
    ListForm (Written encode) values (.array (values.map encode)) := by
  have each : ∀ value, Written encode value (encode value) := fun _ => rfl
  exact listForm_map each values

/-- A field of a record: what may stand for its value, and whether it may be left out. -/
structure Slot where
  form : Json → Prop
  omissible : Prop

def Slot.required (form : α → Json → Prop) (value : α) : Slot := ⟨form value, False⟩

def Slot.defaulted (form : α → Json → Prop) (default value : α) : Slot :=
  ⟨form value, value = default⟩

/-- The items stand for the fields in order. Where the items end, all fields that are left may be
left out. -/
inductive Listed : List Slot → List Json → Prop
  | omitted {slots : List Slot} (rest : ∀ slot ∈ slots, slot.omissible) : Listed slots []
  | given {slot : Slot} {slots : List Slot} {item : Json} {items : List Json}
      (form : slot.form item) (rest : Listed slots items) : Listed (slot :: slots) (item :: items)

def RecordForm (slots : List Slot) (json : Json) : Prop :=
  ∃ items, json = .array items ∧ Listed slots items

namespace Listed

variable {slots : List Slot} {items : List Json} {decode : Decoder α} {form : α → Json → Prop}
  {value : α}

theorem nil : Listed [] [] := .omitted (List.forall_mem_nil _)

theorem length_le (listed : Listed slots items) : items.length ≤ slots.length := by
  induction listed with
  | omitted => exact Nat.zero_le _
  | given _ _ ih => exact Nat.succ_le_succ ih

theorem checkLength {record : Record} (listed : Listed slots items)
    (size : slots.length = record.size) : checkLength record items = .ok () :=
  if_pos (size ▸ listed.length_le)

theorem item (listed : Listed slots items) {index : Nat} {slot : Slot}
    (field : slots[index]? = some slot) :
    (∃ item, items[index]? = some item ∧ slot.form item) ∨
      items[index]? = none ∧ slot.omissible := by
  induction listed generalizing index with
  | omitted rest => exact .inr ⟨rfl, rest slot (List.mem_of_getElem? field)⟩
  | given form _ ih =>
    cases index with
    | zero =>
      cases field
      exact .inl ⟨_, rfl, form⟩
    | succ index => exact ih field

theorem element {record : Record} (listed : Listed slots items) (index : Nat)
    (reads : Reads decode form) (field : slots[index]? = some (.required form value)) :
    element record items index decode = .ok value := by
  rcases listed.item field with ⟨item, present, given⟩ | ⟨-, omissible⟩
  · rw [Decoding.element, present]
    exact reads value item given
  · cases omissible

theorem element? {default : α} (listed : Listed slots items) (index : Nat)
    (reads : Reads decode form) (field : slots[index]? = some (.defaulted form default value)) :
    ∃ found, element? items index decode = .ok found ∧ found.getD default = value := by
  rcases listed.item field with ⟨item, present, given⟩ | ⟨absent, omissible⟩
  · refine ⟨some value, ?_, rfl⟩
    rw [Decoding.element?, present]
    exact map_eq_ok_iff.2 ⟨value, reads value item given, rfl⟩
  · refine ⟨none, ?_, omissible.symm⟩
    rw [Decoding.element?, absent]

end Listed

/-! ### Records in full -/

def attrName (name : AttrName) : Json := .string name.text

/-- Between other fields, a container that is not given is `null`. -/
def container : Option TypeId → Json
  | some id => Encoding.typeId id
  | none => .null

def attr (decl : AttrDecl) : Json := .array [attrName decl.name, Encoding.attrType decl.type]

def type (decl : TypeDecl) : Json :=
  .array [Encoding.typeId decl.id, .array (decl.attributes.map attr), container decl.container,
    .array (decl.supertypes.map Encoding.typeId)]

def mapping (decl : MappingDecl) : Json :=
  .array [Encoding.typeId decl.repeatable, container decl.container]

def containerConfig (config : ContainerConfig) : Json :=
  .array [Encoding.base config.base, .array (config.mappings.map mapping)]

def metadata (document : Metadata) : Json :=
  .array [.array (document.types.map type), containerConfig document.containers]

/-! ### Records without defaults at the end -/

def AttrForm (decl : AttrDecl) : Json → Prop :=
  RecordForm [.required (Written attrName) decl.name,
    .required (Written Encoding.attrType) decl.type]

def TypeForm (decl : TypeDecl) : Json → Prop :=
  RecordForm [.required (Written Encoding.typeId) decl.id,
    .defaulted (ListForm AttrForm) [] decl.attributes,
    .defaulted (Written container) none decl.container,
    .defaulted (ListForm (Written Encoding.typeId)) [] decl.supertypes]

def MappingForm (decl : MappingDecl) : Json → Prop :=
  RecordForm [.required (Written Encoding.typeId) decl.repeatable,
    .defaulted (Written container) none decl.container]

def ContainerConfigForm (config : ContainerConfig) : Json → Prop :=
  RecordForm [.defaulted (Written Encoding.base) .standard config.base,
    .defaulted (ListForm MappingForm) [] config.mappings]

def MetadataForm (document : Metadata) : Json → Prop :=
  RecordForm [.defaulted (ListForm TypeForm) [] document.types,
    .defaulted ContainerConfigForm {} document.containers]

theorem attrForm_attr (decl : AttrDecl) : AttrForm decl (attr decl) :=
  ⟨_, rfl, .given rfl (.given rfl .nil)⟩

theorem typeForm_type (decl : TypeDecl) : TypeForm decl (type decl) := by
  have attributes := listForm_map attrForm_attr decl.attributes
  have supertypes := listForm_written Encoding.typeId decl.supertypes
  exact ⟨_, rfl, .given rfl (.given attributes (.given rfl (.given supertypes .nil)))⟩

theorem mappingForm_mapping (decl : MappingDecl) : MappingForm decl (mapping decl) :=
  ⟨_, rfl, .given rfl (.given rfl .nil)⟩

theorem containerConfigForm_containerConfig (config : ContainerConfig) :
    ContainerConfigForm config (containerConfig config) :=
  ⟨_, rfl, .given rfl (.given (listForm_map mappingForm_mapping config.mappings) .nil)⟩

theorem metadataForm_metadata (document : Metadata) :
    MetadataForm document (metadata document) := by
  have types := listForm_map typeForm_type document.types
  have containers := containerConfigForm_containerConfig document.containers
  exact ⟨_, rfl, .given types (.given containers .nil)⟩

/-! ### Decoding -/

theorem optional_container (id : Option TypeId) :
    optional Decoding.typeId (container id) = .ok id := by
  cases id with
  | none => rfl
  | some id => exact optional_encoding id

theorem reads_attr : Reads Decoding.attr AttrForm := by
  rintro decl _ ⟨items, rfl, listed⟩
  have name : element .attr items 0 Decoding.attrName = .ok decl.name :=
    listed.element 0 (reads_written attrName_string) rfl
  have type : element .attr items 1 attrType = .ok decl.type :=
    listed.element 1 (reads_written attrType_encoding) rfl
  have size : checkLength .attr items = .ok () := listed.checkLength rfl
  simp [Decoding.attr, name, type, size]

theorem reads_type : Reads Decoding.type TypeForm := by
  rintro decl _ ⟨items, rfl, listed⟩
  have id : element .type items 0 typeId = .ok decl.id :=
    listed.element 0 (reads_written typeId_encoding) rfl
  obtain ⟨attributes, attributesRead, declared⟩ :=
    listed.element? 1 (reads_list reads_attr) rfl
  obtain ⟨container, containerRead, gathered⟩ :=
    listed.element? 2 (reads_written optional_container) rfl
  obtain ⟨supertypes, supertypesRead, above⟩ :=
    listed.element? 3 (reads_list (reads_written typeId_encoding)) rfl
  have size : checkLength .type items = .ok () := listed.checkLength rfl
  simp [Decoding.type, id, attributesRead, containerRead, supertypesRead, size, declared, gathered,
    above]

theorem reads_mapping : Reads Decoding.mapping MappingForm := by
  rintro decl _ ⟨items, rfl, listed⟩
  have repeatable : element .mapping items 0 typeId = .ok decl.repeatable :=
    listed.element 0 (reads_written typeId_encoding) rfl
  obtain ⟨container, containerRead, gathered⟩ :=
    listed.element? 1 (reads_written optional_container) rfl
  have size : checkLength .mapping items = .ok () := listed.checkLength rfl
  simp [Decoding.mapping, repeatable, containerRead, size, gathered]

theorem reads_containerConfig : Reads Decoding.containerConfig ContainerConfigForm := by
  rintro config _ ⟨items, rfl, listed⟩
  obtain ⟨base, baseRead, strategy⟩ :=
    listed.element? 0 (reads_written base_encoding) rfl
  obtain ⟨mappings, mappingsRead, configured⟩ :=
    listed.element? 1 (reads_list reads_mapping) rfl
  have size : checkLength .containerConfig items = .ok () := listed.checkLength rfl
  simp [Decoding.containerConfig, baseRead, mappingsRead, size, strategy, configured]

theorem reads_metadata : Reads Decoding.metadata MetadataForm := by
  rintro document _ ⟨items, rfl, listed⟩
  obtain ⟨types, typesRead, declared⟩ :=
    listed.element? 0 (reads_list reads_type) rfl
  obtain ⟨containers, containersRead, configured⟩ :=
    listed.element? 1 reads_containerConfig rfl
  have size : checkLength .metadata items = .ok () := listed.checkLength rfl
  simp [Decoding.metadata, typesRead, containersRead, size, declared, configured]

end Positional

open Positional

/-- What is written of metadata is ordered, as what is read is, and the metadata is decoded from it,
although a container that is not given and an empty list of supertypes are left out. It is decoded
also from its positional forms: with all fields, or without some at the end that have their
defaults. So two values are decoded to the same metadata exactly if the same is written of what they
are decoded to. -/
theorem Metadata.decoding_forms :
    (∀ document, (Encoding.metadata document).Ordered ∧
        Decoding.metadata (Encoding.metadata document) = .ok document) ∧
      (∀ decl : TypeDecl,
        ((Encoding.type decl).field? "repeatable_container" = none ↔ decl.container = none) ∧
        ((Encoding.type decl).field? "extends" = none ↔ decl.supertypes = [])) ∧
      (∀ decl : MappingDecl,
        (Encoding.mapping decl).field? "container" = none ↔ decl.container = none) ∧
      (∀ document, Decoding.metadata (Positional.metadata document) = .ok document) ∧
      (∀ document json, MetadataForm document json → Decoding.metadata json = .ok document) ∧
      ∀ json other document second, Decoding.metadata json = .ok document →
        Decoding.metadata other = .ok second →
        (document = second ↔ Encoding.metadata document = Encoding.metadata second) := by
  refine ⟨fun document => ⟨Encoding.ordered_metadata document, metadata_encoding document⟩,
    fun decl => ⟨?_, ?_⟩, fun decl => ?_, fun document => ?_, reads_metadata,
    fun json other document second _ _ => ⟨congrArg _, fun same => ?_⟩⟩
  · rw [Encoding.type_container, Option.map_eq_none_iff]
  · rw [Encoding.type_supertypes, ite_eq_left_iff]
    simp
  · rw [Encoding.mapping_container, Option.map_eq_none_iff]
  · exact reads_metadata document _ (metadataForm_metadata document)
  · -- The same value is decoded to both.
    have back := metadata_encoding document
    rw [same, metadata_encoding second] at back
    exact (Except.ok.inj back).symm

namespace Sample

def sheet : TypeId := ⟨"a.Sheet", by decide⟩
def leaflet : TypeId := ⟨"a.Leaflet", by decide⟩
def binder : TypeId := ⟨"a.Binder", by decide⟩

def leafletType : TypeDecl where
  id := leaflet
  attributes := [⟨⟨"sheets", by decide⟩, .array (.nested sheet)⟩]
  container := some binder

/-- Leaflets are declared before their sheets, and are mapped to their own container. -/
def leaflets : Metadata where
  types := [leafletType, { id := sheet }]
  containers := { base := .disabled, mappings := [{ repeatable := leaflet }] }

/-- No type has an item for its supertypes, sheets have only their name, and the mapping has no item
for its container. -/
def leafletsForm : Json :=
  .array [.array [
      .array [.string "a.Leaflet",
        .array [.array [.string "sheets",
          .object [("array", .object [("annotation", .string "a.Sheet")])]]],
        .string "a.Binder"],
      .array [.string "a.Sheet"]],
    .array [.string "none", .array [.array [.string "a.Leaflet"]]]]

theorem metadataForm_leaflets : MetadataForm leaflets leafletsForm := by
  have sheets : ListForm AttrForm leafletType.attributes _ := listForm_map attrForm_attr _
  have leafletForm : TypeForm leafletType _ :=
    ⟨_, rfl, .given rfl (.given sheets (.given rfl (.omitted (List.forall_mem_singleton.2 rfl))))⟩
  have sheetForm : TypeForm { id := sheet } _ :=
    ⟨_, rfl, .given rfl (.omitted (by simp [Slot.defaulted]))⟩
  have mappingForm : MappingForm { repeatable := leaflet } _ :=
    ⟨_, rfl, .given rfl (.omitted (List.forall_mem_singleton.2 rfl))⟩
  have containers : ContainerConfigForm leaflets.containers _ :=
    ⟨_, rfl, .given rfl (.given ⟨_, rfl, .cons mappingForm .nil⟩ .nil)⟩
  exact ⟨_, rfl, .given ⟨_, rfl, .cons leafletForm (.cons sheetForm .nil)⟩
    (.given containers .nil)⟩

end Sample

/-- A document of leaflets is told apart from an empty one. -/
theorem Metadata.decoding_forms_leaflets :
    MetadataForm Sample.leaflets Sample.leafletsForm ∧
      Decoding.metadata Sample.leafletsForm = .ok Sample.leaflets ∧
      Decoding.metadata (.array []) = .ok {} ∧
      (Sample.leaflets = {} ↔ Encoding.metadata Sample.leaflets = Encoding.metadata {}) := by
  obtain ⟨-, -, -, -, forms, same⟩ := Metadata.decoding_forms
  have read := forms _ _ Sample.metadataForm_leaflets
  have empty : Decoding.metadata (.array []) = .ok {} := rfl
  exact ⟨Sample.metadataForm_leaflets, read, empty, same _ _ _ _ read empty⟩

end AnnotationContainers
