import AnnotationContainers.Proofs.Instance.Documents
import AnnotationContainers.Proofs.Instance.Traversal
import Mathlib.Data.List.Nodup

/-! # One level of a rendered record

What rendering makes of a record of a registered type, with the values of its attributes left to
`renderValue`: a document of the type that gives each rendered value to its attribute. Whatever is
rendered, of a registered type or not, is in ascending key order throughout.
-/

namespace AnnotationContainers

open Outcomes

theorem Registry.distinct_texts {r : Registry} {decl : TypeDecl}
    (registered : r.get? decl.id = some decl) : (decl.attributes.map (·.name.text)).Nodup := by
  have texts : decl.attributes.map (·.name.text) = decl.attributeNames.map (·.text) :=
    List.map_map.symm
  rw [texts]
  exact (r.distinct decl (mem_of_get? registered)).map fun _ _ => AttrName.eq_of_text_eq

theorem Registry.distinct_texts_attributes (r : Registry) (type : TypeId) :
    ((r.attributes type).map (·.name.text)).Nodup := by
  rw [attributes]
  split
  next decl registered =>
    rw [← get?_id registered] at registered
    exact distinct_texts registered
  · exact List.nodup_nil

namespace Instance

variable {r : Registry} {decl : TypeDecl} {attributes : List (AttrName × Value Instance)}

/-- The document with nothing but a registered type and values for exactly its attributes. -/
theorem DocumentOf.of_keys (registered : r.get? decl.id = some decl)
    {values : List (String × Json)} (keys : KeysOf decl values) :
    DocumentOf r decl [("attributes", .object values), ("type", .string decl.id.text)] values where
  type := by simp [Entries.get?_cons]
  registered
  given := .inl (by simp [Entries.get?_cons])
  keys

section Writing

variable {type : TypeId} {write : AttrDecl → Except ReadError Json}
  {fields others : List (String × Json)}

/-- What is written of the declared attributes of a type, each under the name of its attribute. -/
structure WrittenFields (r : Registry) (type : TypeId) (write : AttrDecl → Except ReadError Json)
    (fields : List (String × Json)) : Prop where
  ascending : Ascending fields
  keys : ∀ key, (Entries.get? fields key).isSome ↔
    ∃ attr ∈ r.attributes type, attr.name.text = key
  values : ∀ attr ∈ r.attributes type, ∃ raw, Entries.get? fields attr.name.text = some raw ∧
    write attr = .ok raw

theorem WrittenFields.unique (written : WrittenFields r type write fields)
    (writtenOthers : WrittenFields r type write others) : fields = others := by
  apply Entries.eq_of_keys written.ascending writtenOthers.ascending
  · intro key
    rw [written.keys, writtenOthers.keys]
  · intro key raw other stored storedOther
    obtain ⟨attr, declared, rfl⟩ := (written.keys key).1 (Option.isSome_iff_exists.2 ⟨raw, stored⟩)
    obtain ⟨raw', stored', outcome⟩ := written.values attr declared
    obtain ⟨other', storedOther', outcomeOther⟩ := writtenOthers.values attr declared
    cases stored.symm.trans stored'
    cases storedOther.symm.trans storedOther'
    cases outcome.symm.trans outcomeOther
    rfl

/-- A document of declared attributes, with their values left to `write`. -/
theorem document_eq_ok_iff {json : Json} :
    (do let fields ← (r.attributes type).mapM fun attr => do
          let raw ← write attr
          .ok (attr.name.text, raw)
        .ok (document type fields)) = .ok json ↔
      ∃ fields, WrittenFields r type write fields ∧
        json = .object [("attributes", .object fields), ("type", .string type.text)] := by
  have written {pairs : List (String × Json)} (collected : ((r.attributes type).mapM fun attr => do
      let raw ← write attr
      .ok (attr.name.text, raw)) = .ok pairs) :
      WrittenFields r type write (Entries.ofList pairs) := by
    obtain ⟨keys, found⟩ := get?_ofList_of_mapM (r.distinct_texts_attributes type) collected
    exact ⟨Entries.ascending_ofList pairs, fun key => (keys key).trans List.mem_map, found⟩
  rw [bind_eq_ok_iff]
  constructor
  · rintro ⟨pairs, collected, same⟩
    cases same
    exact ⟨_, written collected, rfl⟩
  · rintro ⟨fields, writtenFields, rfl⟩
    obtain ⟨pairs, collected⟩ := exists_mapM_eq_ok_iff.2 fun attr declared => by
      obtain ⟨raw, -, outcome⟩ := writtenFields.values attr declared
      exact ⟨(attr.name.text, raw), bind_eq_ok_iff.2 ⟨raw, outcome, rfl⟩⟩
    exact ⟨pairs, collected, by rw [document, (written collected).unique writtenFields]⟩

end Writing

/-- The rendered values of the declared attributes, each under the name of its attribute. -/
structure RenderedFields (r : Registry) (decl : TypeDecl)
    (attributes : List (AttrName × Value Instance)) (fields : List (String × Json)) : Prop where
  ascending : Ascending fields
  keys : KeysOf decl fields
  values : ∀ attr ∈ decl.attributes, ∀ value raw,
    Entries.get? attributes attr.name = some value →
    Entries.get? fields attr.name.text = some raw → renderValue r value = .ok raw

theorem exists_render_record (registered : r.get? decl.id = some decl)
    (map : AttributesOf decl attributes)
    (each : ∀ attr ∈ decl.attributes, ∀ value, Entries.get? attributes attr.name = some value →
      ∃ raw, renderValue r value = .ok raw) :
    ∃ fields, RenderedFields r decl attributes fields ∧
      (Instance.record decl.id attributes).render r =
        .ok (.object [("attributes", .object fields), ("type", .string decl.id.text)]) := by
  have read : ∀ (attr : AttrDecl) value, Entries.get? attributes attr.name = some value →
      renderAttribute r decl.id attr.name attributes = renderValue r value := by
    intro attr value stored
    rw [renderAttribute_eq, Instance.read, stored]
    rfl
  have declared : r.attributes decl.id = decl.attributes := by
    rw [Registry.attributes, registered]
  have success : ∀ attr ∈ r.attributes decl.id, ∃ pair : String × Json,
      (do let raw ← renderAttribute r decl.id attr.name attributes
          Except.ok (attr.name.text, raw)) = .ok pair := by
    intro attr member
    rw [declared] at member
    obtain ⟨value, stored⟩ := map.value member
    obtain ⟨raw, rendered⟩ := each attr member value stored
    rw [read attr value stored, rendered]
    exact ⟨(attr.name.text, raw), rfl⟩
  obtain ⟨pairs, collected⟩ := exists_mapM_eq_ok_iff.2 success
  have rendered : (Instance.record decl.id attributes).render r = .ok (document decl.id pairs) := by
    rw [Instance.render, collected]
    rfl
  obtain ⟨fields, written, same⟩ := document_eq_ok_iff.1 rendered
  rw [same] at rendered
  refine ⟨fields, ⟨written.ascending, ?_, ?_⟩, rendered⟩
  · intro key
    rw [written.keys, declared]
  · intro attr member value raw stored found
    obtain ⟨other, foundOther, outcome⟩ := written.values attr (declared ▸ member)
    cases found.symm.trans foundOther
    rw [← outcome, read attr value stored]

private theorem ordered_document (type : TypeId) {pairs : List (String × Json)}
    (each : ∀ pair ∈ pairs, pair.2.Ordered) : (document type pairs).Ordered := by
  have attributes : (Json.object (Entries.ofList pairs)).Ordered :=
    Json.ordered_object_iff.2 ⟨Entries.ascending_ofList pairs, fun field member =>
      each field (Entries.mem_ofList member)⟩
  refine Json.ordered_object_iff.2 ⟨?ascending, ?fields⟩
  case ascending =>
    refine List.pairwise_cons.2 ⟨fun later member => ?_, List.pairwise_singleton _ _⟩
    rw [List.mem_singleton.1 member]
    change "attributes" < "type"
    decide
  case fields =>
    simp only [List.forall_mem_cons]
    exact ⟨attributes, trivial, nofun⟩

theorem ordered_render (r : Registry) :
    ∀ (a : Instance) (json : Json), a.render r = .ok json → json.Ordered := by
  apply read_induction
  case Q => exact fun value => ∀ json, renderValue r value = .ok json → json.Ordered
  case whole =>
    intro a ih json rendered
    rw [render_eq, bind_eq_ok_iff] at rendered
    obtain ⟨pairs, collected, same⟩ := rendered
    cases same
    apply ordered_document
    refine forall_mem_of_mapM collected fun attr _ pair written => ?_
    obtain ⟨value, outcome, written⟩ := bind_eq_ok_iff.1 written
    obtain ⟨raw, rendered, same⟩ := bind_eq_ok_iff.1 written
    cases same
    exact ih attr.name value outcome raw rendered
  case parts =>
    intro value annotations items json rendered
    cases value with
    | nested a => exact annotations a rfl json rendered
    | array values =>
      rw [renderValue_array, bind_eq_ok_iff] at rendered
      obtain ⟨shown, collected, same⟩ := rendered
      cases same
      exact Json.ordered_array_iff.2 (forall_mem_of_mapM collected (items values rfl))
    | float x =>
      cases rendered
      cases Number.ofDouble? x <;> trivial
    | _ =>
      cases rendered
      trivial

end Instance

end AnnotationContainers
