import AnnotationContainers.Double.Basic
import AnnotationContainers.Entries

/-! # JSON values

Integers of 64 bits, signed or unsigned, are kept apart from doubles, and a double in a document
is finite. An object is a list of fields; `Json.Ordered` holds of the values whose objects list
their fields in ascending key order, as everything read from text does.
-/

namespace AnnotationContainers

/-- A JSON number: an integer of 64 bits, signed or unsigned, or a finite double. -/
inductive Number where
  | int (value : Int) (range : -0x8000000000000000 ≤ value ∧ value < 0x10000000000000000)
  | float (value : Double) (finite : value.isFinite)
deriving DecidableEq

namespace Number

def ofInt64 (n : Int64) : Number :=
  .int n.toInt ⟨Int64.le_toInt n, Int.lt_trans (Int64.toInt_lt n) (by decide)⟩

/-- A count. Counts beyond 64 bits, which nothing reaches, are cut off. -/
def ofNat (n : Nat) : Number := .int (min n 0xFFFFFFFFFFFFFFFF) (by omega)

def ofDouble? (x : Double) : Option Number :=
  if finite : x.isFinite then some (.float x finite) else none

/-- The signed 64-bit integer that a number is. A double is never one, whatever its value. -/
def toInt64? : Number → Option Int64
  | .int n _ => if n < 0x8000000000000000 then some (Int64.ofInt n) else none
  | .float _ _ => none

def toDouble : Number → Double
  | .int n _ => Double.ofInt n
  | .float x _ => x

theorem isFinite_toDouble (n : Number) : n.toDouble.isFinite := by
  cases n with
  | int n range => exact Double.isFinite_ofInt range.1 range.2
  | float x finite => exact finite

theorem toInt64?_ofInt64 (n : Int64) : (ofInt64 n).toInt64? = some n := by
  simpa [ofInt64, toInt64?] using Int64.toInt_lt n

end Number

inductive Json where
  | null
  | bool (value : Bool)
  | number (value : Number)
  | string (value : String)
  | array (items : List Json)
  | object (fields : List (String × Json))
deriving Inhabited

namespace Json

/-- What holds of a value as soon as it holds of all smaller ones, such as the values inside it,
holds of every value. -/
theorem size_induction {P : Json → Prop}
    (step : ∀ json, (∀ smaller : Json, sizeOf smaller < sizeOf json → P smaller) → P json)
    (json : Json) : P json :=
  (measure sizeOf).wf.induction json step

theorem sizeOf_item_lt {items : List Json} {item : Json} (h : item ∈ items) :
    sizeOf item < sizeOf (array items) := by
  have := List.sizeOf_lt_of_mem h
  simp only [array.sizeOf_spec]
  omega

theorem sizeOf_value_lt {fields : List (String × Json)} {key : String} {value : Json}
    (h : (key, value) ∈ fields) : sizeOf value < sizeOf (object fields) := by
  have := List.sizeOf_lt_of_mem h
  simp only [object.sizeOf_spec, Prod.mk.sizeOf_spec] at *
  omega

mutual

/-- The fields of every object, at any depth, are in ascending key order. -/
def Ordered : Json → Prop
  | .array items => OrderedItems items
  | .object fields => Ascending fields ∧ OrderedFields fields
  | _ => True

def OrderedItems : List Json → Prop
  | [] => True
  | item :: rest => item.Ordered ∧ OrderedItems rest

def OrderedFields : List (String × Json) → Prop
  | [] => True
  | (_, value) :: rest => value.Ordered ∧ OrderedFields rest

end

theorem orderedItems_iff {items : List Json} :
    OrderedItems items ↔ ∀ item ∈ items, item.Ordered := by
  induction items with
  | nil => simp [OrderedItems]
  | cons item rest ih => simp [OrderedItems, ih]

theorem orderedFields_iff {fields : List (String × Json)} :
    OrderedFields fields ↔ ∀ field ∈ fields, field.2.Ordered := by
  induction fields with
  | nil => simp [OrderedFields]
  | cons field rest ih => simp [OrderedFields, ih]

theorem ordered_array_iff {items : List Json} :
    (array items).Ordered ↔ ∀ item ∈ items, item.Ordered := by
  rw [Ordered, orderedItems_iff]

theorem ordered_object_iff {fields : List (String × Json)} :
    (object fields).Ordered ↔ Ascending fields ∧ ∀ field ∈ fields, field.2.Ordered := by
  rw [Ordered, orderedFields_iff]

end Json

end AnnotationContainers
