import AnnotationContainers.Chain.Basic
import AnnotationContainers.Text.Quoted

/-! # Texts of chains

Reports show a chain by the names of its strategies in the order in which they are asked. The
detailed text also gives the accessor of each mapping.
-/

namespace AnnotationContainers

def Strategy.text : Strategy → String
  | .standard => "standard"
  | .explicit mapping =>
    "explicit(" ++ mapping.container.text ++ " -> " ++ mapping.repeatable.text ++ ")"
  | .disabled => "none"

def Chain.text (chain : Chain) : String := " -> ".intercalate (chain.strategies.map (·.text))

private def withFields (name : String) (fields : List (String × String)) : String :=
  let parts := fields.map fun field => field.1 ++ ": " ++ field.2
  name ++ " \x7b " ++ ", ".intercalate parts ++ " \x7d"

def TypeId.detail (id : TypeId) : String := "AnnotationTypeId(" ++ Text.quoted id.text ++ ")"

def AttrName.detail (name : AttrName) : String := "AttributeName(" ++ Text.quoted name.text ++ ")"

def AttrType.detail : AttrType → String
  | .boolean => "Boolean"
  | .integer => "Integer"
  | .float => "Float"
  | .string => "String"
  | .classRef => "Class"
  | .enumeration name => "Enum(" ++ Text.quoted name ++ ")"
  | .nested type => "Annotation(" ++ type.detail ++ ")"
  | .array component => "Array(" ++ component.detail ++ ")"

def AttrDecl.detail (attr : AttrDecl) : String :=
  withFields "AttributeMethod" [("name", attr.name.detail), ("return_type", attr.type.detail)]

def Strategy.detail : Strategy → String
  | .standard => "Standard"
  | .explicit mapping =>
    "Explicit(" ++ withFields "ExplicitContainer"
      [("repeatable", mapping.repeatable.detail), ("container", mapping.container.detail),
        ("value_attribute", mapping.accessor.detail)] ++ ")"
  | .disabled => "Disabled"

def Chain.detail (chain : Chain) : String :=
  "[" ++ ", ".intercalate (chain.strategies.map (·.detail)) ++ "]"

end AnnotationContainers
