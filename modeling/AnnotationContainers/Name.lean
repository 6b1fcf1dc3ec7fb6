import AnnotationContainers.Entries

/-! # Names

Annotation types and their attributes are named by nonempty texts, ordered by code point. A type
is never confused with an attribute: the two are types of their own.
-/

namespace AnnotationContainers

structure TypeId where
  text : String
  text_ne : text ≠ ""
deriving DecidableEq

structure AttrName where
  text : String
  text_ne : text ≠ ""
deriving DecidableEq

inductive EmptyName where
  | typeId
  | attrName
deriving DecidableEq

def EmptyName.message : EmptyName → String
  | .typeId => "AnnotationTypeId must not be empty"
  | .attrName => "AttributeName must not be empty"

namespace TypeId

def ofText? (text : String) : Option TypeId :=
  if h : text = "" then none else some ⟨text, h⟩

instance : LT TypeId := ⟨fun a b => a.text < b.text⟩

instance : DecidableLT TypeId := fun a b => inferInstanceAs (Decidable (a.text < b.text))

instance : KeyOrder TypeId where
  irrefl a := KeyOrder.irrefl a.text
  trans := KeyOrder.trans (κ := String)
  connected {a b} less ne :=
    KeyOrder.connected (κ := String) less fun same => ne (by cases a; cases b; cases same; rfl)

@[simp] theorem ofText?_text (a : TypeId) : ofText? a.text = some a := by
  simp [ofText?, a.text_ne]

theorem ofText?_eq_none_iff {text : String} : ofText? text = none ↔ text = "" := by
  simp [ofText?]

theorem ofText?_eq_some_iff {text : String} {a : TypeId} :
    ofText? text = some a ↔ a.text = text := by
  constructor
  · intro h
    unfold ofText? at h
    split at h <;> cases h
    rfl
  · rintro rfl
    exact ofText?_text a

end TypeId

namespace AttrName

def ofText? (text : String) : Option AttrName :=
  if h : text = "" then none else some ⟨text, h⟩

instance : LT AttrName := ⟨fun a b => a.text < b.text⟩

instance : DecidableLT AttrName := fun a b => inferInstanceAs (Decidable (a.text < b.text))

instance : KeyOrder AttrName where
  irrefl a := KeyOrder.irrefl a.text
  trans := KeyOrder.trans (κ := String)
  connected {a b} less ne :=
    KeyOrder.connected (κ := String) less fun same => ne (by cases a; cases b; cases same; rfl)

theorem eq_of_text_eq {a b : AttrName} (h : a.text = b.text) : a = b := by
  cases a
  cases b
  cases h
  rfl

/-- The attribute that holds the annotations of a container. -/
def value : AttrName := ⟨"value", by decide⟩

@[simp] theorem ofText?_text (a : AttrName) : ofText? a.text = some a := by
  simp [ofText?, a.text_ne]

end AttrName

end AnnotationContainers
