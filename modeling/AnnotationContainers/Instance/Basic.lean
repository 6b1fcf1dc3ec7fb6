import AnnotationContainers.Entries
import AnnotationContainers.Value

/-! # Annotation instances

The annotations of this library: records of attribute values, as synthesis gives them, and
annotations that answer each read as they like, with a value or any error. A record keeps its
attributes in ascending order of their names.
-/

namespace AnnotationContainers

inductive Instance where
  | record (type : TypeId) (attributes : List (AttrName × Value Instance))
  | answering (type : TypeId) (answer : AttrName → Except ReadError (Value Instance))

namespace Instance

def type : Instance → TypeId
  | .record type _ | .answering type _ => type

def read : Instance → AttrName → Except ReadError (Value Instance)
  | .record type attributes, name =>
    match Entries.get? attributes name with
    | some value => .ok value
    | none => .error (.missing type name)
  | .answering _ answer, name => answer name

def failing (type : TypeId) (reason : String) : Instance :=
  .answering type fun name => .error (.failed type name reason)

/-- The record with the given attributes; of two with the same name the later one counts. -/
def ofAttributes (type : TypeId) (attributes : List (AttrName × Value Instance)) : Instance :=
  .record type (Entries.ofList attributes)

instance : Attributed Instance := ⟨type, read⟩

end Instance

end AnnotationContainers
