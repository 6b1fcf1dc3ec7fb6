import AnnotationContainers.Proofs.Instance.Documents

/-! # Which documents are accepted

Conformity is a relation between documents and types, stated without reference to conversion: a
document names a registered type and gives each declared attribute a value that fits its type.
Synthesis accepts exactly the conforming documents, and the instance describes the document down to
the last value. The induction is on the size of a document, since an annotation in the place of a
value is a document of its own.
-/

namespace AnnotationContainers

namespace Number

theorem eq_ofInt64 {n : Int} {range : -0x8000000000000000 ≤ n ∧ n < 0x10000000000000000}
    (signed : n < 0x8000000000000000) : Number.int n range = ofInt64 (Int64.ofInt n) := by
  have same : (Int64.ofInt n).toInt = n := Int64.toInt_ofInt_of_le range.1 signed
  simp only [ofInt64, same]

theorem toInt64?_eq_some_iff {n : Number} {value : Int64} :
    n.toInt64? = some value ↔ n = ofInt64 value := by
  constructor
  · intro h
    cases n with
    | int n range =>
      simp only [toInt64?, Option.ite_none_right_eq_some, Option.some.injEq] at h
      obtain ⟨signed, rfl⟩ := h
      exact eq_ofInt64 signed
    | float x finite => cases h
  · rintro rfl
    exact toInt64?_ofInt64 value

end Number

namespace Instance

open Outcomes

mutual

/-- A document of the type `id`. -/
inductive Conforms (r : Registry) : TypeId → Json → Prop
  | document {fields values : List (String × Json)} {decl : TypeDecl}
      (document : DocumentOf r decl fields values)
      (fits : ∀ attr ∈ decl.attributes, ∀ raw, Entries.get? values attr.name.text = some raw →
        Fits r attr.type raw) : Conforms r decl.id (.object fields)

inductive Fits (r : Registry) : AttrType → Json → Prop
  | boolean (value : Bool) : Fits r .boolean (.bool value)
  /-- A JSON integer, at most the largest signed one. -/
  | integer {n : Int} {range : -0x8000000000000000 ≤ n ∧ n < 0x10000000000000000}
      (signed : n < 0x8000000000000000) : Fits r .integer (.number (.int n range))
  | float (n : Number) : Fits r .float (.number n)
  | string (text : String) : Fits r .string (.string text)
  | classRef (name : String) : Fits r .classRef (.string name)
  | enumeration (type constant : String) : Fits r (.enumeration type) (.string constant)
  | nested {id expected : TypeId} {document : Json} (conforms : Conforms r id document)
      (subtype : r.isSubtype id expected) : Fits r (.nested expected) document
  | array {component : AttrType} {items : List Json}
      (each : ∀ item ∈ items, Fits r component item) : Fits r (.array component) (.array items)

end

mutual

/-- The document says of an instance what the instance is. -/
inductive Describes (r : Registry) : Json → Instance → Prop
  | record {fields values : List (String × Json)} {decl : TypeDecl}
      {attributes : List (AttrName × Value Instance)} (document : DocumentOf r decl fields values)
      (map : AttributesOf decl attributes)
      (holds : ∀ attr ∈ decl.attributes, ∀ raw value,
        Entries.get? values attr.name.text = some raw →
        Entries.get? attributes attr.name = some value → Holds r attr.type raw value) :
      Describes r (.object fields) (.record decl.id attributes)

/-- The JSON value stands for a value of the declared type. -/
inductive Holds (r : Registry) : AttrType → Json → Value Instance → Prop
  | boolean (value : Bool) : Holds r .boolean (.bool value) (.boolean value)
  | integer (value : Int64) : Holds r .integer (.number (.ofInt64 value)) (.integer value)
  | float (n : Number) : Holds r .float (.number n) (.float n.toDouble)
  | string (text : String) : Holds r .string (.string text) (.string text)
  | classRef (name : String) : Holds r .classRef (.string name) (.classRef name)
  | enumeration (type constant : String) :
      Holds r (.enumeration type) (.string constant) (.enumeration type constant)
  | nested {expected : TypeId} {document : Json} {a : Instance} (describes : Describes r document a)
      (subtype : r.isSubtype a.type expected) : Holds r (.nested expected) document (.nested a)
  | array {component : AttrType} {items : List Json} {values : List (Value Instance)}
      (each : HoldItems r component items values) :
      Holds r (.array component) (.array items) (.array values)

inductive HoldItems (r : Registry) : AttrType → List Json → List (Value Instance) → Prop
  | nil {component : AttrType} : HoldItems r component [] []
  | cons {component : AttrType} {item : Json} {value : Value Instance} {items : List Json}
      {values : List (Value Instance)} (head : Holds r component item value)
      (tail : HoldItems r component items values) :
      HoldItems r component (item :: items) (value :: values)

end

variable {r : Registry} {owner : TypeId} {name : AttrName}

theorem holdItems_iff {component : AttrType} {items : List Json} {values : List (Value Instance)} :
    HoldItems r component items values ↔ List.Forall₂ (Holds r component) items values := by
  constructor
  · intro h
    induction items generalizing values with
    | nil =>
      cases h
      exact .nil
    | cons item items ih =>
      cases h with
      | cons head tail => exact .cons head (ih tail)
  · intro h
    induction h with
    | nil => exact .nil
    | cons head _ ih => exact .cons head ih

/-- Whatever the instance answers for an attribute, the document holds a value that stands for it
among its attributes. -/
theorem Describes.read {document : Json} {a : Instance} (describes : Describes r document a)
    {value : Value Instance} (h : a.read name = .ok value) :
    ∃ raw type, (document.field? "attributes").bind (·.field? name.text) = some raw ∧
      Holds r type raw value := by
  cases describes with
  | @record fields values decl attributes document map holds =>
    have stored : Entries.get? attributes name = some value := by
      simp only [Instance.read] at h
      split at h <;> cases h
      assumption
    have declared : name ∈ decl.attributeNames := (map.names name).1 (by simp [stored])
    obtain ⟨attr, member, rfl⟩ := List.mem_map.1 declared
    obtain ⟨raw, given⟩ := document.keys.value member
    exact ⟨raw, attr.type, document.field? given, holds attr member raw value given stored⟩

/-- An array of annotations stands for an array of documents, one for each. -/
theorem Holds.annotations {type : AttrType} {raw : Json} {xs : List Instance}
    (h : Holds r type raw (.array (xs.map .nested))) :
    ∃ items, raw = .array items ∧ List.Forall₂ (Describes r) items xs := by
  cases h with
  | @array component items _ each =>
    refine ⟨items, rfl, ?_⟩
    have related := List.forall₂_map_right_iff.1 (holdItems_iff.1 each)
    apply related.imp
    intro item x held
    cases held with
    | nested describes _ => exact describes

theorem convert_integer_eq_ok_iff {json : Json} {value : Value Instance} :
    convert r owner name json .integer = .ok value ↔
      ∃ n, json = .number (.ofInt64 n) ∧ value = .integer n := by
  cases json with
  | number n =>
    simp only [convert, Json.number.injEq, ← Number.toInt64?_eq_some_iff]
    cases n.toInt64? <;> simp [eq_comm]
  | _ => simp [convert]

theorem convert_nested_eq_ok_iff {json : Json} {expected : TypeId} {value : Value Instance} :
    convert r owner name json (.nested expected) = .ok value ↔
      ∃ a, synthesize r json = .ok a ∧ r.isSubtype a.type expected ∧ value = .nested a := by
  rw [convert_nested, bind_eq_ok_iff]
  apply exists_congr
  intro a
  apply and_congr_right
  intro _
  by_cases subtype : r.isSubtype a.type expected
  · simp [subtype, eq_comm]
  · simp [subtype]

theorem convert_array_eq_ok_iff {json : Json} {component : AttrType} {value : Value Instance} :
    convert r owner name json (.array component) = .ok value ↔
      ∃ items values, json = .array items ∧ value = .array values ∧
        List.Forall₂ (fun item value => convert r owner name item component = .ok value)
          items values := by
  cases json with
  | array items =>
    simp only [convert, convertItems_eq_mapM, bind_eq_ok_iff, mapM_eq_ok_iff, Except.ok.injEq,
      Json.array.injEq]
    constructor
    · rintro ⟨values, each, rfl⟩
      exact ⟨items, values, rfl, rfl, each⟩
    · rintro ⟨_, values, rfl, rfl, each⟩
      exact ⟨values, each, rfl⟩
  | _ => simp [convert]

mutual

theorem Describes.synthesized {document : Json} {a : Instance} :
    Describes r document a → synthesize r document = .ok a
  | .record document map holds => by
    rw [synthesize_object_eq_ok_iff]
    refine ⟨_, _, _, rfl, document, map, ?_⟩
    intro attr declared raw value given stored
    exact (holds attr declared raw value given stored).converted _ attr.name

theorem Holds.converted {json : Json} {type : AttrType} {value : Value Instance} :
    Holds r type json value → ∀ owner name, convert r owner name json type = .ok value
  | .boolean _, _, _ | .float _, _, _ | .string _, _, _ | .classRef _, _, _
  | .enumeration .., _, _ => rfl
  | .integer value, _, _ => convert_integer_eq_ok_iff.2 ⟨value, rfl, rfl⟩
  | .nested describes subtype, _, _ =>
    convert_nested_eq_ok_iff.2 ⟨_, describes.synthesized, subtype, rfl⟩
  | .array each, owner, name =>
    convert_array_eq_ok_iff.2 ⟨_, _, rfl, rfl, each.converted owner name⟩

theorem HoldItems.converted {component : AttrType} {items : List Json}
    {values : List (Value Instance)} :
    HoldItems r component items values → ∀ owner name,
      List.Forall₂ (fun item value => convert r owner name item component = .ok value) items values
  | .nil, _, _ => .nil
  | .cons head tail, owner, name =>
    .cons (head.converted owner name) (tail.converted owner name)

end

/-- What synthesis and conversion make of a value is described by it. The induction is on the size
of the value: neither function recurs on the declared types. -/
private theorem described (json : Json) :
    (∀ a, synthesize r json = .ok a → Describes r json a) ∧
      ∀ owner name type value,
        convert r owner name json type = .ok value → Holds r type json value := by
  induction json using Json.size_induction with
  | step json ih =>
    have whole : ∀ a, synthesize r json = .ok a → Describes r json a := by
      intro a success
      cases json with
      | object fields =>
        obtain ⟨decl, values, attributes, rfl, document, map, converted⟩ :=
          synthesize_object_eq_ok_iff.1 success
        apply Describes.record document map
        intro attr declared raw value given stored
        have outcome := converted attr declared raw value given stored
        exact (ih raw (document.given.sizeOf_lt given)).2 decl.id attr.name attr.type value outcome
      | _ => cases success
    constructor
    · exact whole
    intro owner name type value success
    cases type with
    | integer =>
      obtain ⟨n, rfl, rfl⟩ := convert_integer_eq_ok_iff.1 success
      exact .integer n
    | nested expected =>
      obtain ⟨a, synthesized, subtype, rfl⟩ := convert_nested_eq_ok_iff.1 success
      exact .nested (whole a synthesized) subtype
    | array component =>
      obtain ⟨items, values, rfl, rfl, each⟩ := convert_array_eq_ok_iff.1 success
      have held : List.Forall₂ (Holds r component) items values :=
        forall₂_imp_of_mem each fun item member value =>
          (ih item (Json.sizeOf_item_lt member)).2 owner name component value
      exact .array (holdItems_iff.2 held)
    | boolean | float | string | classRef | enumeration =>
      cases json <;> cases success
      constructor

theorem synthesize_eq_ok_iff {json : Json} {a : Instance} :
    synthesize r json = .ok a ↔ Describes r json a :=
  ⟨(described json).1 a, Describes.synthesized⟩

theorem convert_eq_ok_iff {json : Json} {type : AttrType} {value : Value Instance} :
    convert r owner name json type = .ok value ↔ Holds r type json value :=
  ⟨(described json).2 owner name type value, fun holds => holds.converted owner name⟩

mutual

theorem Conforms.accepted {id : TypeId} {document : Json} :
    Conforms r id document → ∃ a, synthesize r document = .ok a ∧ a.type = id
  | @Conforms.document _ fields values decl document fits => by
    have each : ∀ attr ∈ decl.attributes, ∀ raw, Entries.get? values attr.name.text = some raw →
        ∃ value, convert r decl.id attr.name raw attr.type = .ok value := by
      intro attr declared raw given
      exact (fits attr declared raw given).accepted decl.id attr.name
    obtain ⟨attributes, success⟩ := exists_synthesize_object_eq_ok document each
    exact ⟨_, success, rfl⟩

theorem Fits.accepted {type : AttrType} {json : Json} :
    Fits r type json → ∀ owner name, ∃ value, convert r owner name json type = .ok value
  | .boolean _, _, _ | .float _, _, _ | .string _, _, _ | .classRef _, _, _
  | .enumeration .., _, _ => ⟨_, rfl⟩
  | @Fits.integer _ n range signed, _, _ => by
    have written : Number.int n range = .ofInt64 (Int64.ofInt n) := Number.eq_ofInt64 signed
    exact ⟨_, convert_integer_eq_ok_iff.2 ⟨_, congrArg Json.number written, rfl⟩⟩
  | .nested conforms subtype, _, _ => by
    obtain ⟨a, success, rfl⟩ := conforms.accepted
    exact ⟨_, convert_nested_eq_ok_iff.2 ⟨a, success, subtype, rfl⟩⟩
  | .array each, owner, name => by
    obtain ⟨values, success⟩ := exists_mapM_eq_ok_iff.2 fun item member =>
      (each item member).accepted owner name
    exact ⟨_, convert_array_eq_ok_iff.2 ⟨_, values, rfl, rfl, mapM_eq_ok_iff.1 success⟩⟩

end

mutual

theorem Describes.conforms {document : Json} {a : Instance} :
    Describes r document a → Conforms r a.type document
  | .record document map holds => by
    apply Conforms.document document
    intro attr declared raw given
    obtain ⟨value, stored⟩ := map.value declared
    exact (holds attr declared raw value given stored).fits

theorem Holds.fits {json : Json} {type : AttrType} {value : Value Instance} :
    Holds r type json value → Fits r type json
  | .boolean value => .boolean value
  | .integer value => .integer (Int64.toInt_lt value)
  | .float n => .float n
  | .string text => .string text
  | .classRef name => .classRef name
  | .enumeration type constant => .enumeration type constant
  | .nested describes subtype => .nested describes.conforms subtype
  | .array each => .array each.fits

theorem HoldItems.fits {component : AttrType} {items : List Json} {values : List (Value Instance)} :
    HoldItems r component items values → ∀ item ∈ items, Fits r component item
  | .nil => nofun
  | .cons head tail => List.forall_mem_cons.2 ⟨head.fits, tail.fits⟩

end

/-- Synthesis accepts exactly the conforming documents. What it gives is of the type to which the
document conforms, and is the instance that the document describes, value by value. -/
theorem synthesize_iff_conforms (r : Registry) (document : Json) :
    ((∃ a, synthesize r document = .ok a) ↔ ∃ id, Conforms r id document) ∧
      ∀ a, synthesize r document = .ok a ↔
        Conforms r a.type document ∧ Describes r document a := by
  refine ⟨⟨?_, ?_⟩, fun a => ⟨?_, ?_⟩⟩
  · rintro ⟨a, success⟩
    exact ⟨a.type, (synthesize_eq_ok_iff.1 success).conforms⟩
  · rintro ⟨id, conforms⟩
    obtain ⟨a, success, -⟩ := conforms.accepted
    exact ⟨a, success⟩
  · intro success
    have describes := synthesize_eq_ok_iff.1 success
    exact ⟨describes.conforms, describes⟩
  · rintro ⟨-, describes⟩
    exact describes.synthesized

end Instance

end AnnotationContainers
