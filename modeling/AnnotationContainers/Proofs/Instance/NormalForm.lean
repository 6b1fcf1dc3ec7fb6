import AnnotationContainers.Proofs.Instance.Conformity
import AnnotationContainers.Proofs.Instance.Records
import AnnotationContainers.Proofs.Registry.Listing

/-! # The normal form of a document

A document in normal form has nothing but a type and attributes, and its numbers are doubles
wherever a double is declared. An instance is rendered to the normal form of every document that
describes it, and the normal form describes the instance again.
-/

namespace AnnotationContainers

/-- An integer as the nearest double; a double stays as it is. -/
def Number.asDouble : Number → Number
  | .int n range => .float (.ofInt n) (Double.isFinite_ofInt range.1 range.2)
  | .float x finite => .float x finite

theorem Number.asDouble_eq (n : Number) : n.asDouble = .float n.toDouble n.isFinite_toDouble := by
  cases n <;> rfl

@[simp] theorem Number.toDouble_asDouble (n : Number) : n.asDouble.toDouble = n.toDouble := by
  cases n <;> rfl

namespace Instance

def declaredAttributes (r : Registry) (fields : List (String × Json)) : List AttrDecl :=
  match declaredType r fields with
  | .ok decl => decl.attributes
  | .error _ => []

/-- The document of the same type with these attributes and nothing else. -/
def withAttributes (fields attributes : List (String × Json)) : Json :=
  .object [("attributes", .object attributes), ("type", (Entries.get? fields "type").getD .null)]

mutual

def normalForm (r : Registry) : Json → Json
  | .object fields =>
    withAttributes fields (normalAttributes r (declaredAttributes r fields) fields)
  | json => json

def normalValue (r : Registry) : Json → AttrType → Json
  | .number n, .float => .number n.asDouble
  | .object fields, .nested _ =>
    withAttributes fields (normalAttributes r (declaredAttributes r fields) fields)
  | .array items, .array component => .array (normalItems r component items)
  | json, _ => json

def normalItems (r : Registry) (component : AttrType) : List Json → List Json
  | [] => []
  | item :: rest => normalValue r item component :: normalItems r component rest

def normalAttributes (r : Registry) (attributes : List AttrDecl) :
    List (String × Json) → List (String × Json)
  | [] => []
  | (key, .object values) :: rest =>
    if key = "attributes" then normalValues r attributes values
    else normalAttributes r attributes rest
  | _ :: rest => normalAttributes r attributes rest

/-- The values in normal form, each by the type that is declared for its key. -/
def normalValues (r : Registry) (attributes : List AttrDecl) :
    List (String × Json) → List (String × Json)
  | [] => []
  | (key, value) :: rest =>
    (key, match attributes.find? (·.name.text = key) with
      | some attr => normalValue r value attr.type
      | none => value) :: normalValues r attributes rest

end

variable {r : Registry} {decl : TypeDecl} {fields values : List (String × Json)}

theorem normalValue_nested (json : Json) (expected : TypeId) :
    normalValue r json (.nested expected) = normalForm r json := by
  cases json <;> rfl

theorem get?_normalValues (attributes : List AttrDecl) (key : String) :
    Entries.get? (normalValues r attributes values) key =
      (Entries.get? values key).map fun value =>
        match attributes.find? (·.name.text = key) with
        | some attr => normalValue r value attr.type
        | none => value := by
  induction values with
  | nil => rfl
  | cons field rest ih =>
    obtain ⟨other, value⟩ := field
    rw [normalValues, Entries.get?_cons, Entries.get?_cons, ih]
    by_cases same : other = key
    · rw [if_pos same, if_pos same, same, Option.map_some]
    · rw [if_neg same, if_neg same]

theorem map_fst_normalValues (attributes : List AttrDecl) :
    (normalValues r attributes values).map (·.1) = values.map (·.1) := by
  induction values with
  | nil => rfl
  | cons field rest ih => rw [normalValues, List.map_cons, ih, List.map_cons]

theorem ascending_normalValues (attributes : List AttrDecl) (ascending : Ascending values) :
    Ascending (normalValues r attributes values) := by
  rw [Ascending, ← List.pairwise_map] at ascending ⊢
  rwa [map_fst_normalValues]

theorem normalAttributes_eq (attributes : List AttrDecl)
    (given : Gives fields values) :
    normalAttributes r attributes fields = normalValues r attributes values := by
  induction fields with
  | nil =>
    rcases given with given | ⟨-, rfl⟩
    · cases given
    · rfl
  | cons field rest ih =>
    obtain ⟨key, value⟩ := field
    rw [Gives, Entries.get?_cons] at given
    by_cases same : key = "attributes"
    · rw [if_pos same] at given
      rcases given with given | ⟨given, -⟩
      · cases given
        rw [normalAttributes, if_pos same]
      · cases given
    · rw [if_neg same] at given
      cases value <;> simp only [normalAttributes, if_neg same, ih given]

namespace DocumentOf

theorem normalForm_eq (document : DocumentOf r decl fields values) :
    normalForm r (.object fields) =
      .object [("attributes", .object (normalValues r decl.attributes values)),
        ("type", .string decl.id.text)] := by
  have named : declaredType r fields = .ok decl :=
    declaredType_eq_ok_iff.2 ⟨document.type, document.registered⟩
  rw [normalForm, declaredAttributes, named, normalAttributes_eq decl.attributes document.given,
    withAttributes, document.type, Option.getD_some]

theorem get?_normalValues (document : DocumentOf r decl fields values) {attr : AttrDecl}
    (declared : attr ∈ decl.attributes) :
    Entries.get? (normalValues r decl.attributes values) attr.name.text =
      (Entries.get? values attr.name.text).map (normalValue r · attr.type) := by
  have texts := Registry.distinct_texts document.registered
  rw [Instance.get?_normalValues, (find?_eq_some_iff_of_nodup texts).2 ⟨declared, rfl⟩]

theorem normal (document : DocumentOf r decl fields values) :
    DocumentOf r decl [("attributes", .object (normalValues r decl.attributes values)),
      ("type", .string decl.id.text)] (normalValues r decl.attributes values) := by
  apply DocumentOf.of_keys document.registered
  intro key
  rw [← document.keys key, Entries.isSome_get?_iff, map_fst_normalValues, Entries.isSome_get?_iff]

end DocumentOf

mutual

theorem Describes.normal {document : Json} {a : Instance} :
    Describes r document a → Describes r (normalForm r document) a
  | .record document map holds => by
    rw [document.normalForm_eq]
    apply Describes.record document.normal map
    intro attr declared raw value given stored
    rw [document.get?_normalValues declared, Option.map_eq_some_iff] at given
    obtain ⟨raw, given, rfl⟩ := given
    exact (holds attr declared raw value given stored).normal

theorem Holds.normal {json : Json} {type : AttrType} {value : Value Instance} :
    Holds r type json value → Holds r type (normalValue r json type) value
  | .boolean value => .boolean value
  | .integer value => .integer value
  | .float n => by
    rw [← n.toDouble_asDouble]
    exact .float n.asDouble
  | .string text => .string text
  | .classRef name => .classRef name
  | .enumeration type constant => .enumeration type constant
  | .nested describes subtype => by
    rw [normalValue_nested]
    exact .nested describes.normal subtype
  | .array each => .array each.normal

theorem HoldItems.normal {component : AttrType} {items : List Json}
    {values : List (Value Instance)} :
    HoldItems r component items values →
      HoldItems r component (normalItems r component items) values
  | .nil => .nil
  | .cons head tail => .cons head.normal tail.normal

end

theorem DocumentOf.render (document : DocumentOf r decl fields values)
    {attributes : List (AttrName × Value Instance)} (map : AttributesOf decl attributes)
    (ascending : Ascending values)
    (each : ∀ attr ∈ decl.attributes, ∀ raw value,
      Entries.get? values attr.name.text = some raw →
      Entries.get? attributes attr.name = some value →
      renderValue r value = .ok (normalValue r raw attr.type)) :
    (Instance.record decl.id attributes).render r = .ok (normalForm r (.object fields)) := by
  obtain ⟨written, rendered, success⟩ :=
    exists_render_record document.registered map fun attr declared value stored => by
      obtain ⟨raw, given⟩ := document.keys.value declared
      exact ⟨_, each attr declared raw value given stored⟩
  have same : written = normalValues r decl.attributes values := by
    apply Entries.eq_of_keys rendered.ascending (ascending_normalValues decl.attributes ascending)
    · intro key
      rw [rendered.keys, document.normal.keys]
    · intro key writtenRaw normalRaw stored normal
      obtain ⟨attr, declared, rfl⟩ := (document.normal.keys key).1 (by simp [normal])
      obtain ⟨raw, given⟩ := document.keys.value declared
      obtain ⟨value, storedValue⟩ := map.value declared
      rw [document.get?_normalValues declared, given, Option.map_some, Option.some.injEq] at normal
      have outcome := rendered.values attr declared value writtenRaw storedValue stored
      rw [each attr declared raw value given storedValue, normal, Except.ok.injEq] at outcome
      exact outcome.symm
  rw [success, document.normalForm_eq, same]

mutual

/-- An instance is rendered to the normal form of every document that describes it. -/
theorem Describes.render {document : Json} {a : Instance} :
    Describes r document a → document.Ordered → a.render r = .ok (normalForm r document)
  | .record document map holds, ordered => by
    have values := document.given.ordered ordered
    apply document.render map values.1
    intro attr declared raw value given stored
    have inner := values.2 _ (Entries.mem_of_get? given)
    exact (holds attr declared raw value given stored).render inner

theorem Holds.render {json : Json} {type : AttrType} {value : Value Instance} :
    Holds r type json value → json.Ordered → renderValue r value = .ok (normalValue r json type)
  | .boolean _, _ => rfl
  | .integer _, _ => rfl
  | .float n, _ => by
    rw [renderValue, Number.ofDouble?, dif_pos n.isFinite_toDouble, normalValue, n.asDouble_eq]
    rfl
  | .string _, _ => rfl
  | .classRef _, _ => rfl
  | .enumeration .., _ => rfl
  | .nested describes _, ordered => by
    rw [normalValue_nested]
    exact describes.render ordered
  | .array each, ordered => by
    rw [renderValue, each.render (Json.ordered_array_iff.1 ordered)]
    rfl

theorem HoldItems.render {component : AttrType} {items : List Json}
    {values : List (Value Instance)} :
    HoldItems r component items values → (∀ item ∈ items, item.Ordered) →
      renderItems r values = .ok (normalItems r component items)
  | .nil, _ => rfl
  | .cons head tail, ordered => by
    obtain ⟨first, others⟩ := List.forall_mem_cons.1 ordered
    rw [renderItems, head.render first, tail.render others]
    rfl

end

end Instance

end AnnotationContainers
