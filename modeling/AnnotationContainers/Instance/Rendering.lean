import AnnotationContainers.Instance.Basic
import AnnotationContainers.Json.Basic
import AnnotationContainers.Registry.Basic

/-! # Documents of instances

An instance is written as an object with its `type` and the `attributes` that the registry declares
for it, read in declaration order; an unregistered type is written with none. The first read that
fails, in depth-first order, is the error of the whole.
-/

namespace AnnotationContainers

namespace Instance

def document (type : TypeId) (fields : List (String × Json)) : Json :=
  .object [("attributes", .object (Entries.ofList fields)), ("type", .string type.text)]

mutual

def render (r : Registry) : Instance → Except ReadError Json
  | .record type attributes => do
    let fields ← (r.attributes type).mapM fun attr => do
      let value ← renderAttribute r type attr.name attributes
      .ok (attr.name.text, value)
    .ok (document type fields)
  | .answering type answer => do
    let fields ← (r.attributes type).mapM fun attr => do
      let value ← renderOutcome r (answer attr.name)
      .ok (attr.name.text, value)
    .ok (document type fields)

/-- Infinities and NaNs are written as `null`, enumeration constants without their type. -/
def renderValue (r : Registry) : Value Instance → Except ReadError Json
  | .boolean value => .ok (.bool value)
  | .integer value => .ok (.number (.ofInt64 value))
  | .float value => .ok (((Number.ofDouble? value).map Json.number).getD .null)
  | .string value => .ok (.string value)
  | .classRef name => .ok (.string name)
  | .enumeration _ constant => .ok (.string constant)
  | .nested value => render r value
  | .array items => do
    let rendered ← renderItems r items
    .ok (.array rendered)

def renderItems (r : Registry) : List (Value Instance) → Except ReadError (List Json)
  | [] => .ok []
  | item :: rest => do
    let first ← renderValue r item
    let others ← renderItems r rest
    .ok (first :: others)

def renderAttribute (r : Registry) (type : TypeId) (name : AttrName) :
    List (AttrName × Value Instance) → Except ReadError Json
  | [] => .error (.missing type name)
  | (stored, value) :: rest =>
    if stored = name then renderValue r value else renderAttribute r type name rest

def renderOutcome (r : Registry) : Except ReadError (Value Instance) → Except ReadError Json
  | .ok value => renderValue r value
  | .error fault => .error fault

end

theorem renderItems_eq_mapM (r : Registry) (items : List (Value Instance)) :
    renderItems r items = items.mapM (renderValue r) := by
  induction items with
  | nil => rfl
  | cons item rest ih => rw [renderItems, ih, List.mapM_cons]; rfl

theorem renderAttribute_eq (r : Registry) (type : TypeId) (name : AttrName)
    (attributes : List (AttrName × Value Instance)) :
    renderAttribute r type name attributes =
      (Instance.record type attributes).read name >>= renderValue r := by
  induction attributes with
  | nil => rfl
  | cons entry rest ih =>
    obtain ⟨stored, value⟩ := entry
    simp only [renderAttribute, read, Entries.get?_cons] at ih ⊢
    split
    · rfl
    · exact ih

theorem renderOutcome_eq (r : Registry) (outcome : Except ReadError (Value Instance)) :
    renderOutcome r outcome = outcome >>= renderValue r := by
  cases outcome <;> rfl

/-- Rendering reads the declared attributes and writes each value. -/
theorem render_eq (r : Registry) (a : Instance) :
    a.render r = (do
      let fields ← (r.attributes a.type).mapM fun attr => do
        let value ← a.read attr.name
        let rendered ← renderValue r value
        .ok (attr.name.text, rendered)
      .ok (document a.type fields)) := by
  cases a with
  | record type attributes =>
    simp only [render, renderAttribute_eq, Instance.type, bind_assoc]
  | answering type answer =>
    simp only [render, renderOutcome_eq, Instance.type, Instance.read, bind_assoc]

end Instance

end AnnotationContainers
