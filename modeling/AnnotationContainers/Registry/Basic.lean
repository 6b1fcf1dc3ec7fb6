import AnnotationContainers.Declaration

/-! # The registry of annotation types

The declared types in ascending order of their names. A registry never holds two types of one name,
nor a type with two attributes of one name; `Registry.ofList` refuses the lists that would need
one. Two registries are equal exactly if they hold the same declarations.
-/

namespace AnnotationContainers

inductive ConfigError where
  | unknownType (type : TypeId)
  | duplicateType (type : TypeId)
  | duplicateAttribute (type : TypeId) (name : AttrName)
  /-- No container is given, and the type declares none. -/
  | notRepeatable (repeatable : TypeId)
  | containerNotRegistered (container repeatable : TypeId)
  | containerWithoutValue (container repeatable : TypeId)
  /-- The container's `value` is no array of the repeatable type. -/
  | valueMismatch (container repeatable : TypeId)
deriving DecidableEq

namespace ConfigError

private def invalidContainer (container repeatable : TypeId) (reason : String) : String :=
  "Invalid declaration of container type [" ++ container.text ++ "] for repeatable annotation ["
    ++ repeatable.text ++ "]: " ++ reason

def message : ConfigError → String
  | .unknownType type => "Annotation type [" ++ type.text ++ "] is not registered"
  | .duplicateType type => "Annotation type [" ++ type.text ++ "] is registered more than once"
  | .duplicateAttribute type name =>
    "Annotation type [" ++ type.text ++ "] declares attribute '" ++ name.text
      ++ "' more than once"
  | .notRepeatable repeatable =>
    "Annotation type must be a repeatable annotation: failed to resolve container type for "
      ++ repeatable.text
  | .containerNotRegistered container repeatable =>
    invalidContainer container repeatable "container type is not registered"
  | .containerWithoutValue container repeatable =>
    invalidContainer container repeatable "no value attribute found"
  | .valueMismatch container repeatable =>
    "Container type [" ++ container.text
      ++ "] must declare a 'value' attribute for an array of type [" ++ repeatable.text ++ "]"

end ConfigError

/-- Declared types in ascending order of their names. -/
structure Registry where
  types : List TypeDecl
  ascending : types.Pairwise fun a b => a.id < b.id
  distinct : ∀ decl ∈ types, decl.attributeNames.Nodup

namespace Registry

instance : DecidableEq Registry := fun a b =>
  decidable_of_iff (a.types = b.types) ⟨fun h => by cases a; cases b; cases h; rfl, congrArg _⟩

def empty : Registry := ⟨[], .nil, by simp⟩

def get? (r : Registry) (id : TypeId) : Option TypeDecl := r.types.find? (·.id = id)

theorem get?_id {r : Registry} {id : TypeId} {decl : TypeDecl} (h : r.get? id = some decl) :
    decl.id = id := by
  simpa using List.find?_some h

theorem mem_of_get? {r : Registry} {id : TypeId} {decl : TypeDecl} (h : r.get? id = some decl) :
    decl ∈ r.types := List.mem_of_find?_eq_some h

def contains (r : Registry) (id : TypeId) : Bool := (r.get? id).isSome

def size (r : Registry) : Nat := r.types.length

/-- The attributes declared for a type, none if it is not registered. -/
def attributes (r : Registry) (id : TypeId) : List AttrDecl :=
  match r.get? id with
  | some decl => decl.attributes
  | none => []

def isRepeatable (r : Registry) (id : TypeId) : Bool := (r.get? id).any (·.isRepeatable)

/-- The first attribute whose name stands before it, or in `seen`. -/
def repeatedName? (seen : List AttrName) : List AttrDecl → Option AttrName
  | [] => none
  | decl :: rest =>
    if decl.name ∈ seen then some decl.name else repeatedName? (decl.name :: seen) rest

theorem repeatedName?_eq_none_iff {seen : List AttrName} {attributes : List AttrDecl} :
    repeatedName? seen attributes = none ↔
      (attributes.map (·.name)).Nodup ∧ ∀ name ∈ attributes.map (·.name), name ∉ seen := by
  induction attributes generalizing seen with
  | nil => simp [repeatedName?]
  | cons decl rest ih =>
    simp only [repeatedName?, List.map_cons, List.nodup_cons, List.mem_cons, forall_eq_or_imp]
    by_cases old : decl.name ∈ seen
    · simp [old]
    · rw [if_neg old, ih]
      constructor
      · rintro ⟨nodup, apart⟩
        exact ⟨⟨fun again => apart _ again List.mem_cons_self, nodup⟩, old,
          fun name member seen => apart name member (List.mem_cons_of_mem _ seen)⟩
      · rintro ⟨⟨fresh, nodup⟩, -, apart⟩
        refine ⟨nodup, fun name member again => ?_⟩
        rcases List.mem_cons.1 again with rfl | again
        · exact fresh member
        · exact apart name member again

/-- Put a declaration before the first one with a larger name. -/
def place (decl : TypeDecl) : List TypeDecl → List TypeDecl
  | [] => [decl]
  | first :: rest =>
    if decl.id < first.id then decl :: first :: rest else first :: place decl rest

theorem mem_place {decl other : TypeDecl} {types : List TypeDecl} :
    other ∈ place decl types ↔ other = decl ∨ other ∈ types := by
  induction types with
  | nil => simp [place]
  | cons first rest ih =>
    simp only [place]
    split
    · simp
    · simp only [List.mem_cons, ih]
      exact or_left_comm

private theorem ascending_place {decl : TypeDecl} {types : List TypeDecl}
    (ascending : types.Pairwise fun a b => a.id < b.id)
    (fresh : ∀ other ∈ types, other.id ≠ decl.id) :
    (place decl types).Pairwise fun a b => a.id < b.id := by
  induction types with
  | nil => simp [place]
  | cons first rest ih =>
    obtain ⟨least, later⟩ := List.pairwise_cons.1 ascending
    simp only [place]
    split
    next less =>
      refine List.pairwise_cons.2 ⟨fun other member => ?_, ascending⟩
      rcases List.mem_cons.1 member with rfl | member
      · exact less
      · exact KeyOrder.trans less (least other member)
    next notLess =>
      refine List.pairwise_cons.2 ⟨fun other member => ?_,
        ih later fun other member => fresh other (List.mem_cons_of_mem _ member)⟩
      rcases mem_place.1 member with rfl | member
      · exact KeyOrder.connected notLess (Ne.symm (fresh first List.mem_cons_self))
      · exact least other member

/-- Add a type. A repeated attribute name is reported before a repeated type. -/
def register (r : Registry) (decl : TypeDecl) : Except ConfigError Registry :=
  match repeated : repeatedName? [] decl.attributes with
  | some name => .error (.duplicateAttribute decl.id name)
  | none =>
    match known : r.get? decl.id with
    | some _ => .error (.duplicateType decl.id)
    | none => .ok {
        types := place decl r.types
        ascending := ascending_place r.ascending fun other member => by
          simpa using List.find?_eq_none.1 known other member
        distinct := fun other member => by
          rcases mem_place.1 member with rfl | member
          · exact (repeatedName?_eq_none_iff.1 repeated).1
          · exact r.distinct other member }

/-- The registry of the listed types, or the fault of the first type that cannot be added. -/
def ofList (types : List TypeDecl) : Except ConfigError Registry := types.foldlM register empty

end Registry

end AnnotationContainers
