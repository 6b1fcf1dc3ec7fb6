import AnnotationContainers.Double.Basic
import AnnotationContainers.Name

/-! # Annotations and their values

An annotation is anything that has a type and answers, for an attribute name, with a value or an
error. Values may hold annotations again, so `Value` takes the kind of annotation as a parameter.
Reading the annotations of an attribute succeeds exactly if its value is an array of nothing but
annotations.
-/

namespace AnnotationContainers

universe u

inductive Value (α : Type u) where
  | boolean (value : Bool)
  | integer (value : Int64)
  | float (value : Double)
  | string (value : String)
  | classRef (name : String)
  | enumeration (type constant : String)
  | nested (value : α)
  | array (items : List (Value α))

namespace Value

variable {α : Type u}

def string? : Value α → Option String
  | .string value => some value
  | _ => none

def integer? : Value α → Option Int64
  | .integer value => some value
  | _ => none

def nested? : Value α → Option α
  | .nested value => some value
  | _ => none

def items? : Value α → Option (List (Value α))
  | .array items => some items
  | _ => none

/-- The annotations of an array that holds nothing else. -/
def annotations? (value : Value α) : Option (List α) := do
  (← value.items?).mapM nested?

theorem annotations?_eq_some_iff {value : Value α} {xs : List α} :
    value.annotations? = some xs ↔ value = .array (xs.map .nested) := by
  cases value with
  | array items =>
    simp only [annotations?, items?, Option.bind_eq_bind, Option.bind_some, Value.array.injEq]
    induction items generalizing xs with
    | nil => cases xs <;> simp
    | cons item rest ih =>
      cases item with
      | nested value =>
        cases xs with
        | nil => simp [nested?, List.mapM_cons, Option.bind_eq_some_iff]
        | cons x xs =>
          simp only [List.mapM_cons, nested?, Option.bind_eq_bind, Option.bind_some,
            Option.bind_eq_some_iff, Option.pure_def, Option.some.injEq, List.cons.injEq, ih,
            List.map_cons, Value.nested.injEq]
          exact ⟨fun ⟨_, rest, same, tail⟩ => ⟨same, tail ▸ rest⟩,
            fun ⟨same, rest⟩ => ⟨xs, rest, same, rfl⟩⟩
      | _ => cases xs <;> simp [nested?, List.mapM_cons]
  | _ => simp [annotations?, items?]

end Value

inductive ReadError where
  | missing (type : TypeId) (name : AttrName)
  | failed (type : TypeId) (name : AttrName) (reason : String)
  /-- The value is not what was expected, as an array of annotations is of a container. -/
  | notAnnotations (type : TypeId) (name : AttrName) (expected : String)
deriving DecidableEq

def ReadError.message : ReadError → String
  | .missing type name => "Annotation [" ++ type.text ++ "] has no attribute '" ++ name.text ++ "'"
  | .failed type name reason =>
    "Failed to invoke attribute '" ++ name.text ++ "' on [" ++ type.text ++ "]: " ++ reason
  | .notAnnotations type name expected =>
    "Attribute '" ++ name.text ++ "' on [" ++ type.text ++ "] did not return " ++ expected

/-- The annotations in what reading the attribute `name` came to. It must hold an array of them. -/
def annotationsRead {α : Type u} (type : TypeId) (name : AttrName)
    (outcome : Except ReadError (Value α)) : Except ReadError (List α) := do
  match (← outcome).annotations? with
  | some xs => return xs
  | none => throw (.notAnnotations type name "an array of annotations")

class Attributed (α : Type u) where
  type : α → TypeId
  read : α → AttrName → Except ReadError (Value α)

end AnnotationContainers
