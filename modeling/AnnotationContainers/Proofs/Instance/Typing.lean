import AnnotationContainers.Proofs.Instance.Conformity

/-! # Well-typed instances

Typing is a relation between instances and declarations, without any document: a record of a
registered type has a value for each declared attribute, and each value has the declared form. What
synthesis accepts is well-typed. What reading a well-typed instance comes to can be told from the
declaration of its type.
-/

namespace AnnotationContainers

namespace Instance

mutual

/-- A record of a registered type with a value of the declared type for each attribute that the
type declares, and for no others. -/
inductive WellTyped (r : Registry) : Instance → Prop
  | record {decl : TypeDecl} {attributes : List (AttrName × Value Instance)}
      (registered : r.get? decl.id = some decl) (map : AttributesOf decl attributes)
      (typed : ∀ attr ∈ decl.attributes, ∀ value, Entries.get? attributes attr.name = some value →
        HasType r attr.type value) : WellTyped r (.record decl.id attributes)

inductive HasType (r : Registry) : AttrType → Value Instance → Prop
  | boolean (value : Bool) : HasType r .boolean (.boolean value)
  | integer (value : Int64) : HasType r .integer (.integer value)
  | float {value : Double} (finite : value.isFinite) : HasType r .float (.float value)
  | string (value : String) : HasType r .string (.string value)
  | classRef (name : String) : HasType r .classRef (.classRef name)
  | enumeration (type constant : String) :
      HasType r (.enumeration type) (.enumeration type constant)
  | nested {expected : TypeId} {a : Instance} (typed : WellTyped r a)
      (subtype : r.isSubtype a.type expected) : HasType r (.nested expected) (.nested a)
  | array {component : AttrType} {items : List (Value Instance)}
      (each : ∀ item ∈ items, HasType r component item) :
      HasType r (.array component) (.array items)

end

variable {r : Registry} {decl : TypeDecl} {a : Instance} {name : AttrName}

mutual

theorem Describes.wellTyped {document : Json} {a : Instance} :
    Describes r document a → WellTyped r a
  | .record document map holds => by
    apply WellTyped.record document.registered map
    intro attr declared value stored
    obtain ⟨raw, given⟩ := document.keys.value declared
    exact (holds attr declared raw value given stored).hasType

theorem Holds.hasType {json : Json} {type : AttrType} {value : Value Instance} :
    Holds r type json value → HasType r type value
  | .boolean value => .boolean value
  | .integer value => .integer value
  | .float n => .float n.isFinite_toDouble
  | .string text => .string text
  | .classRef name => .classRef name
  | .enumeration type constant => .enumeration type constant
  | .nested describes subtype => .nested describes.wellTyped subtype
  | .array each => .array each.hasType

theorem HoldItems.hasType {component : AttrType} {items : List Json}
    {values : List (Value Instance)} :
    HoldItems r component items values → ∀ value ∈ values, HasType r component value
  | .nil => nofun
  | .cons head tail => List.forall_mem_cons.2 ⟨head.hasType, tail.hasType⟩

end

namespace WellTyped

theorem registered (typed : WellTyped r a) : ∃ decl, r.get? a.type = some decl := by
  cases typed with
  | record registered _ _ => exact ⟨_, registered⟩

theorem read_undeclared (typed : WellTyped r a) (registered : r.get? a.type = some decl)
    (undeclared : decl.attribute? name = none) : a.read name = .error (.missing a.type name) := by
  cases typed with
  | @record _ attributes own map _ =>
    cases registered.symm.trans own
    have unstored : Entries.get? attributes name = none := by
      rw [← Option.not_isSome_iff_eq_none, map.names, ← TypeDecl.attribute?_eq_none_iff]
      exact undeclared
    rw [Instance.read, unstored]
    rfl

/-- A declared attribute is read as a value of its type. -/
theorem read_declared (typed : WellTyped r a) (registered : r.get? a.type = some decl)
    {attr : AttrDecl} (declared : decl.attribute? name = some attr) :
    ∃ value, a.read name = .ok value ∧ HasType r attr.type value := by
  cases typed with
  | record own map typed =>
    cases registered.symm.trans own
    obtain rfl := TypeDecl.attribute?_name declared
    have member : attr ∈ decl.attributes := List.mem_of_find?_eq_some declared
    obtain ⟨value, stored⟩ := map.value member
    refine ⟨value, ?_, typed attr member value stored⟩
    rw [Instance.read, stored]

end WellTyped

/-- Well-typed annotations of the type `element` or of subtypes. -/
def AnnotationsOf (r : Registry) (element : TypeId) (xs : List Instance) : Prop :=
  ∀ x ∈ xs, WellTyped r x ∧ r.isSubtype x.type element

namespace HasType

theorem items {component : AttrType} {value : Value Instance}
    (h : HasType r (.array component) value) :
    ∃ items, value = .array items ∧ ∀ item ∈ items, HasType r component item := by
  cases h with
  | array each => exact ⟨_, rfl, each⟩

theorem nested?_eq_none {type : AttrType} {value : Value Instance} (h : HasType r type value)
    (plain : type.nested? = none) : value.nested? = none := by
  cases h with
  | nested => cases plain
  | _ => rfl

/-- An array of an annotation type holds nothing but annotations of subtypes. -/
theorem annotations {element : TypeId} {value : Value Instance}
    (h : HasType r (.array (.nested element)) value) :
    ∃ xs, value = .array (xs.map .nested) ∧ AnnotationsOf r element xs := by
  obtain ⟨items, rfl, each⟩ := h.items
  clear h
  induction items with
  | nil => exact ⟨[], rfl, nofun⟩
  | cons item rest ih =>
    obtain ⟨first, others⟩ := List.forall_mem_cons.1 each
    cases first with
    | @nested _ x typed subtype =>
      obtain ⟨xs, same, eachOther⟩ := ih others
      cases same
      exact ⟨x :: xs, rfl, List.forall_mem_cons.2 ⟨⟨typed, subtype⟩, eachOther⟩⟩

end HasType

end Instance

end AnnotationContainers
