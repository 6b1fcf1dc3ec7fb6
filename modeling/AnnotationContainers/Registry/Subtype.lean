import AnnotationContainers.Registry.Basic

/-! # Subtypes

A type is a subtype of itself and of every type that its chain of declared supertypes reaches.
Unregistered types have no supertypes, and declarations may form cycles: the walk expands each
type once. It takes no more steps than one and the number of declared supertypes together, and
`Registry.walkBound` steps always reach an answer.
-/

namespace AnnotationContainers

/-- A walk along supertypes: the types looked at so far and those still to be looked at, the next
one first. -/
structure Walk where
  expanded : List TypeId
  pending : List TypeId

inductive Walk.Progress where
  | answer (found : Bool)
  | more (walk : Walk)

namespace Registry

def supertypes (r : Registry) (id : TypeId) : List TypeId :=
  match r.get? id with
  | some decl => decl.supertypes
  | none => []

/-- Take the next pending type. Its supertypes are pending from now on, the last one first, unless
the target is one of them. -/
def walkStep (r : Registry) (target : TypeId) (walk : Walk) : Walk.Progress :=
  match walk.pending with
  | [] => .answer false
  | next :: rest =>
    if next ∈ walk.expanded then .more ⟨walk.expanded, rest⟩
    else if target ∈ r.supertypes next then .answer true
    else .more ⟨next :: walk.expanded, (r.supertypes next).reverse ++ rest⟩

/-- The answer of a walk that takes at most `fuel` types, or `none` if it needs more. -/
def walkAnswer? (r : Registry) (target : TypeId) : Nat → Walk → Option Bool
  | 0, walk => if walk.pending.isEmpty then some false else none
  | fuel + 1, walk =>
    match r.walkStep target walk with
    | .answer found => some found
    | .more walk => walkAnswer? r target fuel walk

/-- How many types a walk takes at most: the first one, and each declared supertype once. -/
def walkBound (r : Registry) : Nat :=
  1 + r.types.foldr (fun decl total => decl.supertypes.length + total) 0

/-- An annotation of type `candidate` can stand where `target` is declared. -/
def isSubtype (r : Registry) (candidate target : TypeId) : Bool :=
  candidate = target || (r.walkAnswer? target r.walkBound ⟨[], [candidate]⟩).getD false

@[simp] theorem isSubtype_self (r : Registry) (id : TypeId) : r.isSubtype id id := by
  simp [isSubtype]

end Registry

end AnnotationContainers
