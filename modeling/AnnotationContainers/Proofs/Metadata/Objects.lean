import AnnotationContainers.Metadata.Decoding
import AnnotationContainers.Metadata.Encoding
import AnnotationContainers.Proofs.Instance.Documents

/-! # Metadata as an object

Every part of a metadata document is decoded from what is written of it: a field that is left out
has the value that its decoder takes in its absence.
-/

namespace AnnotationContainers

open Outcomes

namespace Decoding

@[simp] theorem typeId_encoding (id : TypeId) : typeId (Encoding.typeId id) = .ok id := by
  simp [typeId, Encoding.typeId, string, pure, Except.pure]

@[simp] theorem attrName_string (name : AttrName) : attrName (.string name.text) = .ok name := by
  simp [attrName, string, pure, Except.pure]

@[simp] theorem attrType_encoding (type : AttrType) :
    attrType (Encoding.attrType type) = .ok type := by
  induction type with
  | array component ih => simp [attrType, Encoding.attrType, ih]
  | nested id => simp [attrType, Encoding.attrType]
  | enumeration name => simp [attrType, Encoding.attrType, string]
  | _ => rfl

@[simp] theorem base_encoding (strategy : BaseStrategy) :
    base (Encoding.base strategy) = .ok strategy := by
  cases strategy <;> rfl

@[simp] theorem optional_encoding (id : TypeId) :
    optional typeId (Encoding.typeId id) = .ok (some id) :=
  map_eq_ok_iff.2 ⟨id, typeId_encoding id, rfl⟩

theorem list_map {α : Type} {decode : Decoder α} {encode : α → Json}
    (inverse : ∀ value, decode (encode value) = .ok value) (values : List α) :
    list decode (.array (values.map encode)) = .ok values :=
  mapM_eq_ok_iff.2 (List.forall₂_map_left_iff.2 (List.forall₂_same.2 fun value _ => inverse value))

theorem attr_encoding (decl : AttrDecl) : attr (Encoding.attr decl) = .ok decl := by
  simp [attr, Encoding.attr, field?, Entries.get?_cons, required]

theorem type_encoding (decl : TypeDecl) : type (Encoding.type decl) = .ok decl := by
  obtain ⟨id, attributes, container, supertypes⟩ := decl
  have attributesRead := list_map attr_encoding attributes
  have supertypesRead := list_map typeId_encoding supertypes
  -- Which keys are there depends on the two fields that may be left out.
  by_cases empty : supertypes = [] <;> cases container <;>
    simp [type, Encoding.type, Encoding.optionalField, field?, Entries.get?_cons, required,
      attributesRead, supertypesRead, empty]

theorem mapping_encoding (decl : MappingDecl) : mapping (Encoding.mapping decl) = .ok decl := by
  obtain ⟨repeatable, container⟩ := decl
  cases container <;>
    simp [mapping, Encoding.mapping, Encoding.optionalField, field?, Entries.get?_cons, required]

theorem containerConfig_encoding (config : ContainerConfig) :
    containerConfig (Encoding.containerConfig config) = .ok config := by
  have mappingsRead := list_map mapping_encoding config.mappings
  simp [containerConfig, Encoding.containerConfig, field?, Entries.get?_cons, mappingsRead]

theorem metadata_encoding (document : Metadata) :
    metadata (Encoding.metadata document) = .ok document := by
  have typesRead := list_map type_encoding document.types
  have containersRead := containerConfig_encoding document.containers
  simp [metadata, Encoding.metadata, field?, Entries.get?_cons, typesRead, containersRead]

end Decoding

/-! ### What is written -/

namespace Encoding

theorem ordered_typeId (id : TypeId) : (typeId id).Ordered := trivial

theorem ordered_list {α : Type} {encode : α → Json} (each : ∀ value, (encode value).Ordered)
    (values : List α) : (Json.array (values.map encode)).Ordered :=
  Json.ordered_array_iff.2 (List.forall_mem_map.2 fun value _ => each value)

theorem ordered_object {fields : List (String × Json)}
    (keys : (fields.map (·.1)).Pairwise (· < ·)) (values : ∀ field ∈ fields, field.2.Ordered) :
    (Json.object fields).Ordered :=
  Json.ordered_object_iff.2 ⟨List.pairwise_map.1 keys, values⟩

theorem ordered_attrType (type : AttrType) : (attrType type).Ordered := by
  induction type with
  | array component ih =>
    exact ordered_object (List.pairwise_singleton _ "array") (List.forall_mem_singleton.2 ih)
  | nested id =>
    exact ordered_object (List.pairwise_singleton _ "annotation")
      (List.forall_mem_singleton.2 trivial)
  | enumeration name =>
    exact ordered_object (List.pairwise_singleton _ "enum") (List.forall_mem_singleton.2 trivial)
  | _ => trivial

theorem ordered_base (strategy : BaseStrategy) : (base strategy).Ordered := by
  cases strategy <;> trivial

theorem ordered_attr (decl : AttrDecl) : (attr decl).Ordered := by
  have keys : ["name", "return_type"].Pairwise (· < ·) := by decide
  refine ordered_object keys ?_
  simp [Json.Ordered, ordered_attrType]

theorem ordered_optionalField {name : String} {id : Option TypeId} :
    ∀ field ∈ optionalField name id, field.2.Ordered := by
  cases id with
  | none => exact List.forall_mem_nil _
  | some id => exact List.forall_mem_singleton.2 trivial

theorem ordered_type (decl : TypeDecl) : (type decl).Ordered := by
  have keys : ["attributes", "extends", "id", "repeatable_container"].Pairwise (· < ·) := by decide
  have attributes := ordered_list ordered_attr decl.attributes
  have supertypes := ordered_list ordered_typeId decl.supertypes
  refine ordered_object (keys.sublist ?_) ?_
  · by_cases empty : decl.supertypes = [] <;> cases decl.container <;>
      simp [optionalField, empty]
  · simp only [List.forall_mem_append, List.forall_mem_singleton]
    refine ⟨⟨⟨attributes, ?_⟩, trivial⟩, ordered_optionalField⟩
    split
    · exact List.forall_mem_nil _
    · exact List.forall_mem_singleton.2 supertypes

theorem ordered_mapping (decl : MappingDecl) : (mapping decl).Ordered := by
  have keys : ["container", "repeatable"].Pairwise (· < ·) := by decide
  refine ordered_object (keys.sublist ?_) ?_
  · cases decl.container <;> simp [optionalField]
  · rw [List.forall_mem_append]
    exact ⟨ordered_optionalField, List.forall_mem_singleton.2 trivial⟩

/-- The keys of every object that is written ascend, as those of an object that is read do. -/
theorem ordered_metadata (document : Metadata) : (metadata document).Ordered := by
  have types := ordered_list ordered_type document.types
  have mappings := ordered_list ordered_mapping document.containers.mappings
  have configKeys : ["explicit", "mode"].Pairwise (· < ·) := by decide
  have containers : (containerConfig document.containers).Ordered :=
    ordered_object configKeys (by simp [mappings, ordered_base])
  have keys : ["annotation_types", "repeatable_containers"].Pairwise (· < ·) := by decide
  exact ordered_object keys (by simp [types, containers])

theorem type_container (decl : TypeDecl) :
    (type decl).field? "repeatable_container" = decl.container.map typeId := by
  by_cases empty : decl.supertypes = [] <;> cases container : decl.container <;>
    simp [type, optionalField, Json.field?, Entries.get?_cons, empty, container]

theorem type_supertypes (decl : TypeDecl) :
    (type decl).field? "extends" =
      if decl.supertypes = [] then none else some (.array (decl.supertypes.map typeId)) := by
  by_cases empty : decl.supertypes = [] <;> cases container : decl.container <;>
    simp [type, optionalField, Json.field?, Entries.get?_cons, empty, container]

theorem mapping_container (decl : MappingDecl) :
    (mapping decl).field? "container" = decl.container.map typeId := by
  cases container : decl.container <;>
    simp [mapping, optionalField, Json.field?, Entries.get?_cons, container]

end Encoding

end AnnotationContainers
