import AnnotationContainers.Instance.Synthesis
import AnnotationContainers.Proofs.Outcomes

/-! # One level of a document

What synthesis asks of the fields of a document, and which record it makes of them, with the values
of the attributes left to `convert`. The type must be registered, and the attributes must be given
values exactly as it declares them; the record then holds one converted value for each.
-/

namespace AnnotationContainers

def Json.field? : Json → String → Option Json
  | .object fields, key => Entries.get? fields key
  | _, _ => none

theorem Json.ordered_field? {json value : Json} {key : String} (ordered : json.Ordered)
    (h : json.field? key = some value) : value.Ordered := by
  cases json with
  | object fields => exact (ordered_object_iff.1 ordered).2 _ (Entries.mem_of_get? h)
  | _ => cases h

namespace Instance

open Outcomes

/-- The values that a document with these fields gives to attributes: none without `attributes`. -/
def Gives (fields values : List (String × Json)) : Prop :=
  Entries.get? fields "attributes" = some (.object values) ∨
    Entries.get? fields "attributes" = none ∧ values = []

/-- The keys are the names that the type itself declares. -/
def KeysOf (decl : TypeDecl) (values : List (String × Json)) : Prop :=
  ∀ key, (Entries.get? values key).isSome ↔ ∃ attr ∈ decl.attributes, attr.name.text = key

/-- The fields of a document of the registered type `decl` that gives `values` to its attributes. -/
structure DocumentOf (r : Registry) (decl : TypeDecl) (fields values : List (String × Json)) :
    Prop where
  type : Entries.get? fields "type" = some (.string decl.id.text)
  registered : r.get? decl.id = some decl
  given : Gives fields values
  keys : KeysOf decl values

/-- A finite map with a value for each declared attribute and no others. -/
structure AttributesOf (decl : TypeDecl) (attributes : List (AttrName × Value Instance)) :
    Prop where
  ascending : Ascending attributes
  names : ∀ name, (Entries.get? attributes name).isSome ↔ name ∈ decl.attributeNames

/-- What is stored for a declared attribute is what the value given for it converts to. -/
def Converted (r : Registry) (decl : TypeDecl) (values : List (String × Json))
    (attributes : List (AttrName × Value Instance)) : Prop :=
  ∀ attr ∈ decl.attributes, ∀ raw value, Entries.get? values attr.name.text = some raw →
    Entries.get? attributes attr.name = some value →
    convert r decl.id attr.name raw attr.type = .ok value

variable {r : Registry} {decl : TypeDecl} {fields values : List (String × Json)}
  {attributes : List (AttrName × Value Instance)}

/-- Values lie two levels inside their document. -/
theorem Gives.sizeOf_lt (given : Gives fields values) {key : String} {raw : Json}
    (h : Entries.get? values key = some raw) : sizeOf raw < sizeOf (Json.object fields) := by
  rcases given with given | ⟨-, rfl⟩
  · have inner := Json.sizeOf_value_lt (Entries.mem_of_get? h)
    have outer := Json.sizeOf_value_lt (Entries.mem_of_get? given)
    omega
  · cases h

theorem Gives.ordered (given : Gives fields values) (ordered : (Json.object fields).Ordered) :
    Ascending values ∧ ∀ field ∈ values, field.2.Ordered := by
  rcases given with given | ⟨-, rfl⟩
  · have inner := (Json.ordered_object_iff.1 ordered).2 _ (Entries.mem_of_get? given)
    exact Json.ordered_object_iff.1 inner
  · exact ⟨.nil, by simp⟩

theorem KeysOf.value (keys : KeysOf decl values) {attr : AttrDecl}
    (declared : attr ∈ decl.attributes) : ∃ raw, Entries.get? values attr.name.text = some raw :=
  Option.isSome_iff_exists.1 ((keys attr.name.text).2 ⟨attr, declared, rfl⟩)

namespace DocumentOf

theorem distinct (document : DocumentOf r decl fields values) : decl.attributeNames.Nodup :=
  r.distinct decl (Registry.mem_of_get? document.registered)

theorem field? (document : DocumentOf r decl fields values) {key : String} {raw : Json}
    (h : Entries.get? values key = some raw) :
    ((Json.object fields).field? "attributes").bind (·.field? key) = some raw := by
  rcases document.given with given | ⟨-, rfl⟩
  · rw [Json.field?, given]
    exact h
  · cases h

end DocumentOf

namespace AttributesOf

theorem value (map : AttributesOf decl attributes) {attr : AttrDecl}
    (declared : attr ∈ decl.attributes) :
    ∃ value, Entries.get? attributes attr.name = some value :=
  Option.isSome_iff_exists.1 ((map.names attr.name).2 (List.mem_map_of_mem declared))

theorem ext {others : List (AttrName × Value Instance)} (map : AttributesOf decl attributes)
    (mapOthers : AttributesOf decl others)
    (same : ∀ attr ∈ decl.attributes, ∀ value other,
      Entries.get? attributes attr.name = some value →
      Entries.get? others attr.name = some other → value = other) : attributes = others := by
  apply Entries.eq_of_keys map.ascending mapOthers.ascending
  · intro name
    rw [map.names, mapOthers.names]
  · intro name value other stored storedOther
    have declared : name ∈ decl.attributeNames :=
      (map.names name).1 (Option.isSome_iff_exists.2 ⟨value, stored⟩)
    obtain ⟨attr, member, rfl⟩ := List.mem_map.1 declared
    exact same attr member value other stored storedOther

end AttributesOf

theorem declaredType_eq_ok_iff :
    declaredType r fields = .ok decl ↔
      Entries.get? fields "type" = some (.string decl.id.text) ∧ r.get? decl.id = some decl := by
  constructor
  · intro h
    unfold declaredType at h
    split at h
    next text type =>
      split at h
      · cases h
      next id named =>
        split at h
        · cases h
        next found registered =>
          cases h
          have hid := Registry.get?_id registered
          rw [TypeId.ofText?_eq_some_iff, ← hid] at named
          rw [type, named, hid]
          exact ⟨rfl, registered⟩
    · cases h
  · rintro ⟨type, registered⟩
    simp only [declaredType, type, TypeId.ofText?_text, registered]

theorem checkKeys_eq_ok_iff {done : Unit} :
    checkKeys decl values = .ok done ↔
      ∀ key, (Entries.get? values key).isSome → ∃ attr ∈ decl.attributes, attr.name.text = key := by
  have undeclared : checkKeys decl values = .ok done ↔
      values.find? (fun field => decl.attributes.all (·.name.text ≠ field.1)) = none := by
    unfold checkKeys
    cases values.find? fun field => decl.attributes.all (·.name.text ≠ field.1) <;> simp
  rw [undeclared, List.find?_eq_none]
  simp only [Entries.isSome_get?_iff, List.mem_map, List.all_eq_true, decide_eq_true_eq,
    not_forall, not_not, exists_prop, forall_exists_index, and_imp, forall_apply_eq_imp_iff₂]

def convertGiven (r : Registry) (decl : TypeDecl) (values : List (String × Json)) :
    Except SynthesisError (List (AttrName × Value Instance)) := do
  checkKeys decl values
  let converted ← decl.attributes.mapM fun attr => do
    let value ← convertField r decl.id attr values
    .ok (attr.name, value)
  .ok (Entries.ofList converted)

theorem convertGiven_nil : convertGiven r decl [] = noAttributes decl := by
  unfold convertGiven noAttributes
  cases decl.attributes with
  | nil => rfl
  | cons first rest => rw [List.mapM_cons]; rfl

theorem convertAttributes_eq :
    convertAttributes r decl fields =
      match Entries.get? fields "attributes" with
      | none => convertGiven r decl []
      | some (.object values) => convertGiven r decl values
      | some _ => .error (.malformed .attributesNotAnObject) := by
  induction fields with
  | nil => rw [convertAttributes, Entries.get?_nil, convertGiven_nil]
  | cons field rest ih =>
    obtain ⟨key, value⟩ := field
    rw [Entries.get?_cons]
    by_cases same : key = "attributes"
    · rw [if_pos same]
      cases value <;> simp only [convertAttributes, if_pos same]
      rfl
    · rw [if_neg same, ← ih]
      cases value <;> simp only [convertAttributes, if_neg same]

theorem convertAttributes_eq_ok_iff :
    convertAttributes r decl fields = .ok attributes ↔
      ∃ values, Gives fields values ∧ convertGiven r decl values = .ok attributes := by
  simp only [convertAttributes_eq, Gives]
  cases Entries.get? fields "attributes" with
  | none => simp
  | some given => cases given <;> simp

theorem convertField_eq_ok_iff {owner : TypeId} {attr : AttrDecl} {value : Value Instance} :
    convertField r owner attr values = .ok value ↔
      ∃ raw, Entries.get? values attr.name.text = some raw ∧
        convert r owner attr.name raw attr.type = .ok value := by
  rw [convertField_eq]
  cases Entries.get? values attr.name.text <;> simp

theorem of_convertGiven_eq_ok (distinct : decl.attributeNames.Nodup)
    (h : convertGiven r decl values = .ok attributes) :
    KeysOf decl values ∧ AttributesOf decl attributes ∧ Converted r decl values attributes := by
  simp only [convertGiven, bind_eq_ok_iff, checkKeys_eq_ok_iff, Except.ok.injEq] at h
  obtain ⟨-, declared, pairs, converted, rfl⟩ := h
  obtain ⟨names, found⟩ := get?_ofList_of_mapM distinct converted
  refine ⟨fun key => ⟨declared key, ?_⟩, ⟨Entries.ascending_ofList pairs, names⟩, ?_⟩
  · -- A declared attribute has been converted, so a value was given for it.
    rintro ⟨attr, member, rfl⟩
    obtain ⟨value, -, outcome⟩ := found attr member
    obtain ⟨raw, given, -⟩ := convertField_eq_ok_iff.1 outcome
    exact Option.isSome_iff_exists.2 ⟨raw, given⟩
  · intro attr member raw value given stored
    obtain ⟨other, storedOther, outcome⟩ := found attr member
    obtain ⟨same, givenOther, outcome⟩ := convertField_eq_ok_iff.1 outcome
    cases given.symm.trans givenOther
    cases stored.symm.trans storedOther
    exact outcome

theorem exists_convertGiven_eq_ok (keys : KeysOf decl values)
    (each : ∀ attr ∈ decl.attributes, ∀ raw, Entries.get? values attr.name.text = some raw →
      ∃ value, convert r decl.id attr.name raw attr.type = .ok value) :
    ∃ attributes, convertGiven r decl values = .ok attributes := by
  have checked : checkKeys decl values = .ok () :=
    checkKeys_eq_ok_iff.2 fun key => (keys key).1
  have pair : ∀ attr ∈ decl.attributes, ∃ pair : AttrName × Value Instance,
      (do let value ← convertField r decl.id attr values
          Except.ok (attr.name, value)) = .ok pair := by
    intro attr member
    obtain ⟨raw, given⟩ := keys.value member
    obtain ⟨value, outcome⟩ := each attr member raw given
    rw [convertField_eq_ok_iff.2 ⟨raw, given, outcome⟩]
    exact ⟨(attr.name, value), rfl⟩
  obtain ⟨pairs, converted⟩ := exists_mapM_eq_ok_iff.2 pair
  refine ⟨Entries.ofList pairs, ?_⟩
  rw [convertGiven, checked, converted]
  rfl

/-- The conversion succeeds exactly if the declared attributes, and only these, are given values
that convert, and then it gives the map of the converted values. -/
theorem convertGiven_eq_ok_iff (distinct : decl.attributeNames.Nodup) :
    convertGiven r decl values = .ok attributes ↔
      KeysOf decl values ∧ AttributesOf decl attributes ∧ Converted r decl values attributes := by
  constructor
  · exact of_convertGiven_eq_ok distinct
  rintro ⟨keys, map, holds⟩
  have each : ∀ attr ∈ decl.attributes, ∀ raw, Entries.get? values attr.name.text = some raw →
      ∃ value, convert r decl.id attr.name raw attr.type = .ok value := by
    intro attr member raw given
    obtain ⟨value, stored⟩ := map.value member
    exact ⟨value, holds attr member raw value given stored⟩
  obtain ⟨converted, success⟩ := exists_convertGiven_eq_ok keys each
  obtain ⟨-, convertedMap, convertedHolds⟩ := of_convertGiven_eq_ok distinct success
  have same : converted = attributes := by
    apply convertedMap.ext map
    intro attr member other value storedOther stored
    obtain ⟨raw, given⟩ := keys.value member
    have outcome := holds attr member raw value given stored
    have outcomeOther := convertedHolds attr member raw other given storedOther
    cases outcomeOther.symm.trans outcome
    rfl
  rw [success, same]

/-- A document is accepted exactly if its fields are those of a registered type and the values of
its attributes convert; the instance is the record of the converted values. -/
theorem synthesize_object_eq_ok_iff {a : Instance} :
    synthesize r (.object fields) = .ok a ↔
      ∃ decl values attributes, a = .record decl.id attributes ∧
        DocumentOf r decl fields values ∧ AttributesOf decl attributes ∧
          Converted r decl values attributes := by
  simp only [synthesize, bind_eq_ok_iff, declaredType_eq_ok_iff, convertAttributes_eq_ok_iff,
    Except.ok.injEq]
  constructor
  · rintro ⟨decl, ⟨type, registered⟩, attributes, ⟨values, given, success⟩, rfl⟩
    have distinct := r.distinct decl (Registry.mem_of_get? registered)
    obtain ⟨keys, map, holds⟩ := of_convertGiven_eq_ok distinct success
    exact ⟨decl, values, attributes, rfl, ⟨type, registered, given, keys⟩, map, holds⟩
  · rintro ⟨decl, values, attributes, rfl, document, map, holds⟩
    have success := (convertGiven_eq_ok_iff document.distinct).2 ⟨document.keys, map, holds⟩
    exact ⟨decl, ⟨document.type, document.registered⟩, attributes,
      ⟨values, document.given, success⟩, rfl⟩

theorem exists_synthesize_object_eq_ok (document : DocumentOf r decl fields values)
    (each : ∀ attr ∈ decl.attributes, ∀ raw, Entries.get? values attr.name.text = some raw →
      ∃ value, convert r decl.id attr.name raw attr.type = .ok value) :
    ∃ attributes, synthesize r (.object fields) = .ok (.record decl.id attributes) := by
  obtain ⟨attributes, success⟩ := exists_convertGiven_eq_ok document.keys each
  refine ⟨attributes, ?_⟩
  simp only [synthesize, bind_eq_ok_iff, declaredType_eq_ok_iff, convertAttributes_eq_ok_iff]
  exact ⟨decl, ⟨document.type, document.registered⟩, attributes,
    ⟨values, document.given, success⟩, rfl⟩

end Instance

end AnnotationContainers
