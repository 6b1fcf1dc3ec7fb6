import AnnotationContainers.Instance.Basic
import AnnotationContainers.Json.Basic
import AnnotationContainers.Registry.Subtype

/-! # Instances from documents

An annotation document is an object with a string `type` and, unless the type declares no
attribute, an object `attributes`. It is accepted if its type is registered, its attributes are
exactly the declared ones, and each value fits the declared type; an annotation in the place of a
value is a document of the same form whose type is a subtype of the declared one. The declared
attributes are converted in their order, and the first fault is reported.
-/

namespace AnnotationContainers

inductive Malformation where
  | notAnObject
  | typeNotAString
  | typeEmpty
  | attributesNotAnObject
deriving DecidableEq

def Malformation.message : Malformation → String
  | .notAnObject => "annotation document must be an object"
  | .typeNotAString => "annotation document needs a string `type`"
  | .typeEmpty => "annotation `type` must not be empty"
  | .attributesNotAnObject => "annotation `attributes` must be an object"

inductive SynthesisError where
  | malformed (reason : Malformation)
  | unknownType (type : TypeId)
  | unknownAttribute (type : TypeId) (key : String)
  | missingAttribute (type : TypeId) (name : AttrName)
  | typeMismatch (type : TypeId) (name : AttrName) (expected : AttrType)
deriving DecidableEq

def SynthesisError.message : SynthesisError → String
  | .malformed reason => "Malformed annotation document: " ++ reason.message
  | .unknownType type => "Annotation type [" ++ type.text ++ "] is not registered"
  | .unknownAttribute type key =>
    "Annotation type [" ++ type.text ++ "] declares no attribute '" ++ key ++ "'"
  | .missingAttribute type name =>
    "Annotation [" ++ type.text ++ "] is missing a value for attribute '" ++ name.text ++ "'"
  | .typeMismatch type name expected =>
    "Attribute '" ++ name.text ++ "' on [" ++ type.text ++ "] expects " ++ expected.text

namespace Instance

def declaredType (r : Registry) (fields : List (String × Json)) :
    Except SynthesisError TypeDecl :=
  match Entries.get? fields "type" with
  | some (.string text) =>
    match TypeId.ofText? text with
    | none => .error (.malformed .typeEmpty)
    | some id =>
      match r.get? id with
      | none => .error (.unknownType id)
      | some decl => .ok decl
  | _ => .error (.malformed .typeNotAString)

def checkKeys (decl : TypeDecl) (values : List (String × Json)) : Except SynthesisError Unit :=
  match values.find? fun field => decl.attributes.all (·.name.text ≠ field.1) with
  | some (key, _) => .error (.unknownAttribute decl.id key)
  | none => .ok ()

/-- Without attributes in the document, the first declared one is missing. -/
def noAttributes (decl : TypeDecl) : Except SynthesisError (List (AttrName × Value Instance)) :=
  match decl.attributes with
  | [] => .ok []
  | first :: _ => .error (.missingAttribute decl.id first.name)

mutual

/-- Convert a value for an attribute of `owner`. Mismatches name that attribute, also inside arrays;
an annotation inside the value reports the faults of its own document first. -/
def convert (r : Registry) (owner : TypeId) (name : AttrName) :
    Json → AttrType → Except SynthesisError (Value Instance)
  | .bool value, .boolean => .ok (.boolean value)
  | .number n, .integer =>
    match n.toInt64? with
    | some value => .ok (.integer value)
    | none => .error (.typeMismatch owner name .integer)
  | .number n, .float => .ok (.float n.toDouble)
  | .string value, .string => .ok (.string value)
  | .string value, .classRef => .ok (.classRef value)
  | .string value, .enumeration type => .ok (.enumeration type value)
  | .object fields, .nested expected => do
    let decl ← declaredType r fields
    let attributes ← convertAttributes r decl fields
    if r.isSubtype decl.id expected then
      .ok (.nested (.record decl.id attributes))
    else .error (.typeMismatch owner name (.nested expected))
  | _, .nested _ => .error (.malformed .notAnObject)
  | .array items, .array component => do
    let values ← convertItems r owner name component items
    .ok (.array values)
  | _, expected => .error (.typeMismatch owner name expected)

def convertItems (r : Registry) (owner : TypeId) (name : AttrName) (component : AttrType) :
    List Json → Except SynthesisError (List (Value Instance))
  | [] => .ok []
  | item :: rest => do
    let value ← convert r owner name item component
    let values ← convertItems r owner name component rest
    .ok (value :: values)

def convertAttributes (r : Registry) (decl : TypeDecl) :
    List (String × Json) → Except SynthesisError (List (AttrName × Value Instance))
  | [] => noAttributes decl
  | (key, .object values) :: rest =>
    if key = "attributes" then do
      checkKeys decl values
      let converted ← decl.attributes.mapM fun attr => do
        let value ← convertField r decl.id attr values
        .ok (attr.name, value)
      .ok (Entries.ofList converted)
    else convertAttributes r decl rest
  | (key, _) :: rest =>
    if key = "attributes" then .error (.malformed .attributesNotAnObject)
    else convertAttributes r decl rest

def convertField (r : Registry) (owner : TypeId) (attr : AttrDecl) :
    List (String × Json) → Except SynthesisError (Value Instance)
  | [] => .error (.missingAttribute owner attr.name)
  | (key, value) :: rest =>
    if key = attr.name.text then convert r owner attr.name value attr.type
    else convertField r owner attr rest

end

def synthesize (r : Registry) : Json → Except SynthesisError Instance
  | .object fields => do
    let decl ← declaredType r fields
    let attributes ← convertAttributes r decl fields
    .ok (.record decl.id attributes)
  | _ => .error (.malformed .notAnObject)

/-- An annotation in the place of a value is synthesized before its type is compared. -/
theorem convert_nested (r : Registry) (owner : TypeId) (name : AttrName) (document : Json)
    (expected : TypeId) :
    convert r owner name document (.nested expected) = (do
      let nested ← synthesize r document
      if r.isSubtype nested.type expected then .ok (.nested nested)
      else .error (.typeMismatch owner name (.nested expected))) := by
  cases document with
  | object fields =>
    simp only [convert, synthesize, bind, Except.bind]
    cases declaredType r fields with
    | error fault => rfl
    | ok decl =>
      dsimp only
      cases convertAttributes r decl fields <;> rfl
  | _ => rfl

theorem convertItems_eq_mapM (r : Registry) (owner : TypeId) (name : AttrName)
    (component : AttrType) (items : List Json) :
    convertItems r owner name component items =
      items.mapM fun item => convert r owner name item component := by
  induction items with
  | nil => rfl
  | cons item rest ih => rw [convertItems, ih, List.mapM_cons]; rfl

theorem convertField_eq (r : Registry) (owner : TypeId) (attr : AttrDecl)
    (fields : List (String × Json)) :
    convertField r owner attr fields =
      match Entries.get? fields attr.name.text with
      | some value => convert r owner attr.name value attr.type
      | none => .error (.missingAttribute owner attr.name) := by
  induction fields with
  | nil => rfl
  | cons field rest ih =>
    obtain ⟨key, value⟩ := field
    simp only [convertField, Entries.get?_cons]
    split <;> simp_all

end Instance

end AnnotationContainers
