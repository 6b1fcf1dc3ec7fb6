import AnnotationContainers.Json.Basic
import AnnotationContainers.Metadata.Basic

/-! # Metadata as JSON

Records are written as objects with their keys in ascending order. A container that is not given and
an empty list of supertypes are left out; every other field is written.
-/

namespace AnnotationContainers

namespace Encoding

def typeId (id : TypeId) : Json := .string id.text

def optionalField (name : String) (id : Option TypeId) : List (String × Json) :=
  match id with
  | some id => [(name, typeId id)]
  | none => []

def attrType : AttrType → Json
  | .boolean => .string "boolean"
  | .integer => .string "integer"
  | .float => .string "float"
  | .string => .string "string"
  | .classRef => .string "class"
  | .enumeration name => .object [("enum", .string name)]
  | .nested type => .object [("annotation", typeId type)]
  | .array component => .object [("array", attrType component)]

def attr (attr : AttrDecl) : Json :=
  .object [("name", .string attr.name.text), ("return_type", attrType attr.type)]

def type (decl : TypeDecl) : Json :=
  let supertypes := if decl.supertypes.isEmpty then []
    else [("extends", .array (decl.supertypes.map typeId))]
  .object ([("attributes", .array (decl.attributes.map attr))] ++ supertypes
    ++ [("id", typeId decl.id)] ++ optionalField "repeatable_container" decl.container)

def base : BaseStrategy → Json
  | .standard => .string "standard"
  | .disabled => .string "none"

def mapping (mapping : MappingDecl) : Json :=
  .object (optionalField "container" mapping.container
    ++ [("repeatable", typeId mapping.repeatable)])

def containerConfig (config : ContainerConfig) : Json :=
  .object [("explicit", .array (config.mappings.map mapping)), ("mode", base config.base)]

def metadata (metadata : Metadata) : Json :=
  .object [("annotation_types", .array (metadata.types.map type)),
    ("repeatable_containers", containerConfig metadata.containers)]

end Encoding

end AnnotationContainers
