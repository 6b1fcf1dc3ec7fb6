import AnnotationContainers.Name

/-! # Declarations of annotation types

A type declares its attributes in order, the container into which its annotations are gathered
when they are repeated, and the types above it. Other types are referred to by name, so that a
type and its container can refer to each other.
-/

namespace AnnotationContainers

inductive AttrType where
  | boolean
  | integer
  | float
  | string
  /-- The name of a class. -/
  | classRef
  /-- A constant of the enumeration with this name. -/
  | enumeration (name : String)
  /-- An annotation of this type or of a subtype. -/
  | nested (type : TypeId)
  | array (component : AttrType)
deriving DecidableEq

namespace AttrType

def text : AttrType → String
  | .boolean => "boolean"
  | .integer => "integer"
  | .float => "float"
  | .string => "string"
  | .classRef => "class"
  | .enumeration name => "enum " ++ name
  | .nested type => "@" ++ type.text
  | .array component => component.text ++ "[]"

def component? : AttrType → Option AttrType
  | .array component => some component
  | _ => none

def nested? : AttrType → Option TypeId
  | .nested type => some type
  | _ => none

/-- The type of the annotations in an array of annotations. -/
def element? (type : AttrType) : Option TypeId := type.component?.bind nested?

theorem element?_eq_some_iff {type : AttrType} {element : TypeId} :
    type.element? = some element ↔ type = .array (.nested element) := by
  cases type with
  | array component => cases component <;> simp [element?, component?, nested?]
  | _ => simp [element?, component?]

end AttrType

structure AttrDecl where
  name : AttrName
  type : AttrType
deriving DecidableEq

structure TypeDecl where
  id : TypeId
  attributes : List AttrDecl := []
  container : Option TypeId := none
  supertypes : List TypeId := []
deriving DecidableEq

namespace TypeDecl

/-- Repeated annotations of this type are gathered in a container. -/
def isRepeatable (decl : TypeDecl) : Bool := decl.container.isSome

def attribute? (decl : TypeDecl) (name : AttrName) : Option AttrDecl :=
  decl.attributes.find? (·.name = name)

def attributeNames (decl : TypeDecl) : List AttrName := decl.attributes.map (·.name)

/-- The only attribute, if it is named `value`. -/
def soleValue? (decl : TypeDecl) : Option AttrDecl :=
  match decl.attributes with
  | [sole] => if sole.name = .value then some sole else none
  | _ => none

theorem attribute?_name {decl : TypeDecl} {name : AttrName} {attr : AttrDecl}
    (h : decl.attribute? name = some attr) : attr.name = name := by
  simpa using List.find?_some h

theorem attribute?_eq_none_iff {decl : TypeDecl} {name : AttrName} :
    decl.attribute? name = none ↔ name ∉ decl.attributeNames := by
  simp [attribute?, attributeNames]

theorem soleValue?_eq_some_iff {decl : TypeDecl} {attr : AttrDecl} :
    decl.soleValue? = some attr ↔ decl.attributes = [attr] ∧ attr.name = .value := by
  unfold soleValue?
  split
  next sole h =>
    rw [h]
    by_cases name : sole.name = .value
    · simp only [name, if_true, Option.some.injEq, List.cons.injEq, and_true]
      exact ⟨fun same => ⟨same, same ▸ name⟩, fun same => same.1⟩
    · simp only [name, if_false, reduceCtorEq, List.cons.injEq, and_true, false_iff]
      rintro ⟨rfl, value⟩
      exact name value
  next h =>
    simp only [reduceCtorEq, false_iff]
    exact fun single => h attr single.1

def withAttribute (decl : TypeDecl) (name : AttrName) (type : AttrType) : TypeDecl :=
  { decl with attributes := decl.attributes ++ [⟨name, type⟩] }

def repeatableIn (decl : TypeDecl) (container : TypeId) : TypeDecl :=
  { decl with container := some container }

def withSupertype (decl : TypeDecl) (supertype : TypeId) : TypeDecl :=
  { decl with supertypes := decl.supertypes ++ [supertype] }

end TypeDecl

end AnnotationContainers
