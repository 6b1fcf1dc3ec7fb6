import AnnotationContainers.Json.Writer
import AnnotationContainers.Metadata.Basic
import AnnotationContainers.Text.Quoted

/-! # Metadata from JSON

A record is an object of its fields or an array of them in a fixed order; a choice is a string or an
object with one key. In an object, the fields that are present are decoded in the order of their
keys, and only then is a missing one reported. Unknown fields are ignored.
-/

namespace AnnotationContainers

namespace Decoding

inductive Record where
  | metadata
  | containerConfig
  | mapping
  | type
  | attr
deriving DecidableEq

def Record.name : Record → String
  | .metadata => "MetadataDocument"
  | .containerConfig => "RepeatableContainersConfig"
  | .mapping => "ExplicitMapping"
  | .type => "AnnotationType"
  | .attr => "AttributeMethod"

def Record.size : Record → Nat
  | .metadata => 2
  | .containerConfig => 2
  | .mapping => 2
  | .type => 4
  | .attr => 2

inductive Expected where
  | string
  | sequence
  | record (kind : Record)
  | stringOrMap
  | unit
deriving DecidableEq

def Expected.text : Expected → String
  | .string => "a string"
  | .sequence => "a sequence"
  | .record kind => "struct " ++ kind.name
  | .stringOrMap => "string or map"
  | .unit => "unit"

def describe : Json → String
  | .null => "null"
  | .bool b => "boolean `" ++ (if b then "true" else "false") ++ "`"
  | .number n@(.int ..) => "integer `" ++ Json.numberText n ++ "`"
  | .number n@(.float ..) => "floating point `" ++ Json.numberText n ++ "`"
  | .string s => "string " ++ Text.quoted s
  | .array _ => "sequence"
  | .object _ => "map"

end Decoding

open Decoding in
inductive DecodeError where
  | invalidType (found : Json) (expected : Expected)
  /-- A choice with a payload is given without one. -/
  | payloadMissing
  /-- A choice is an object without exactly one key. -/
  | notSingleKey
  | unknownVariant (name : String) (known : List String)
  | missingField (name : String)
  | emptyName (kind : EmptyName)
  /-- An array ends before a required field. -/
  | arrayTooShort (length : Nat) (record : Record)
  | arrayTooLong (length : Nat)

namespace DecodeError

private def inBackticks (name : String) : String := "`" ++ name ++ "`"

private def alternatives : List String → String
  | [a, b] => inBackticks a ++ " or " ++ inBackticks b
  | names => "one of " ++ ", ".intercalate (names.map inBackticks)

def message : DecodeError → String
  | .invalidType found expected =>
    "invalid type: " ++ Decoding.describe found ++ ", expected " ++ expected.text
  | .payloadMissing => "invalid type: unit variant, expected newtype variant"
  | .notSingleKey => "invalid value: map, expected map with a single key"
  | .unknownVariant name known =>
    "unknown variant " ++ inBackticks name ++ ", expected " ++ alternatives known
  | .missingField name => "missing field " ++ inBackticks name
  | .emptyName kind => kind.message
  | .arrayTooShort length record =>
    "invalid length " ++ toString length ++ ", expected struct " ++ record.name ++ " with "
      ++ toString record.size ++ " elements"
  | .arrayTooLong length =>
    "invalid length " ++ toString length ++ ", expected fewer elements in array"

end DecodeError

namespace Decoding

abbrev Decoder (α : Type) := Json → Except DecodeError α

variable {α : Type}

def string : Decoder String
  | .string s => .ok s
  | found => .error (.invalidType found .string)

def list (item : Decoder α) : Decoder (List α)
  | .array items => items.mapM item
  | found => .error (.invalidType found .sequence)

/-- Read `null` as no value. -/
def optional (item : Decoder α) : Decoder (Option α)
  | .null => .ok none
  | value => some <$> item value

def unit : Decoder Unit
  | .null => .ok ()
  | found => .error (.invalidType found .unit)

def typeId : Decoder TypeId := fun value => do
  match TypeId.ofText? (← string value) with
  | some id => return id
  | none => throw (.emptyName .typeId)

def attrName : Decoder AttrName := fun value => do
  match AttrName.ofText? (← string value) with
  | some name => return name
  | none => throw (.emptyName .attrName)

def field? (fields : List (String × Json)) (name : String) (decode : Decoder α) :
    Except DecodeError (Option α) :=
  match Entries.get? fields name with
  | some value => some <$> decode value
  | none => .ok none

def required (name : String) : Option α → Except DecodeError α
  | some value => .ok value
  | none => .error (.missingField name)

def element? (items : List Json) (index : Nat) (decode : Decoder α) :
    Except DecodeError (Option α) :=
  match items[index]? with
  | some value => some <$> decode value
  | none => .ok none

def element (record : Record) (items : List Json) (index : Nat) (decode : Decoder α) :
    Except DecodeError α :=
  match items[index]? with
  | some value => decode value
  | none => .error (.arrayTooShort index record)

def checkLength (record : Record) (items : List Json) : Except DecodeError Unit :=
  if items.length ≤ record.size then .ok () else .error (.arrayTooLong items.length)

def attrTypeNames : List String :=
  ["boolean", "integer", "float", "string", "class", "enum", "annotation", "array"]

def namedType (name : String) : Except DecodeError AttrType :=
  match name with
  | "boolean" => .ok .boolean
  | "integer" => .ok .integer
  | "float" => .ok .float
  | "string" => .ok .string
  | "class" => .ok .classRef
  | "enum" | "annotation" | "array" => .error .payloadMissing
  | _ => .error (.unknownVariant name attrTypeNames)

def attrType : Decoder AttrType
  | .string name => namedType name
  | .object [(name, payload)] =>
    if name = "array" then do
      let component ← attrType payload
      .ok (.array component)
    else if name = "annotation" then .nested <$> typeId payload
    else if name = "enum" then .enumeration <$> string payload
    else do
      let type ← namedType name
      unit payload
      .ok type
  | .object _ => .error .notSingleKey
  | found => .error (.invalidType found .stringOrMap)

def namedBase (name : String) : Except DecodeError BaseStrategy :=
  match name with
  | "standard" => .ok .standard
  | "none" => .ok .disabled
  | _ => .error (.unknownVariant name ["standard", "none"])

def base : Decoder BaseStrategy
  | .string name => namedBase name
  | .object [(name, payload)] => do
    let strategy ← namedBase name
    unit payload
    .ok strategy
  | .object _ => .error .notSingleKey
  | found => .error (.invalidType found .stringOrMap)

def attr : Decoder AttrDecl
  | .object fields => do
    let name ← field? fields "name" attrName
    let type ← field? fields "return_type" attrType
    return ⟨← required "name" name, ← required "return_type" type⟩
  | .array items => do
    let name ← element .attr items 0 attrName
    let type ← element .attr items 1 attrType
    checkLength .attr items
    return ⟨name, type⟩
  | found => .error (.invalidType found (.record .attr))

def type : Decoder TypeDecl
  | .object fields => do
    let attributes ← field? fields "attributes" (list attr)
    let supertypes ← field? fields "extends" (list typeId)
    let id ← field? fields "id" typeId
    let container ← field? fields "repeatable_container" (optional typeId)
    return ⟨← required "id" id, attributes.getD [], container.getD none, supertypes.getD []⟩
  | .array items => do
    let id ← element .type items 0 typeId
    let attributes ← element? items 1 (list attr)
    let container ← element? items 2 (optional typeId)
    let supertypes ← element? items 3 (list typeId)
    checkLength .type items
    return ⟨id, attributes.getD [], container.getD none, supertypes.getD []⟩
  | found => .error (.invalidType found (.record .type))

def mapping : Decoder MappingDecl
  | .object fields => do
    let container ← field? fields "container" (optional typeId)
    let repeatable ← field? fields "repeatable" typeId
    return ⟨← required "repeatable" repeatable, container.getD none⟩
  | .array items => do
    let repeatable ← element .mapping items 0 typeId
    let container ← element? items 1 (optional typeId)
    checkLength .mapping items
    return ⟨repeatable, container.getD none⟩
  | found => .error (.invalidType found (.record .mapping))

def containerConfig : Decoder ContainerConfig
  | .object fields => do
    let mappings ← field? fields "explicit" (list mapping)
    let base ← field? fields "mode" base
    return ⟨base.getD .standard, mappings.getD []⟩
  | .array items => do
    let base ← element? items 0 base
    let mappings ← element? items 1 (list mapping)
    checkLength .containerConfig items
    return ⟨base.getD .standard, mappings.getD []⟩
  | found => .error (.invalidType found (.record .containerConfig))

def metadata : Decoder Metadata
  | .object fields => do
    let types ← field? fields "annotation_types" (list type)
    let containers ← field? fields "repeatable_containers" containerConfig
    return ⟨types.getD [], containers.getD {}⟩
  | .array items => do
    let types ← element? items 0 (list type)
    let containers ← element? items 1 containerConfig
    checkLength .metadata items
    return ⟨types.getD [], containers.getD {}⟩
  | found => .error (.invalidType found (.record .metadata))

end Decoding

end AnnotationContainers
