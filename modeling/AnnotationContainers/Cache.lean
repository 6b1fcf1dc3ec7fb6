import AnnotationContainers.Registry.Basic

/-! # Native containers and the cache of answers

A type is a native container if its only attribute is `value`, an array of annotations of a type
that is registered with a container. The answer for a type is worked out once and kept: entries of
a cache are added and never changed, so the first answer for a type stands.
-/

namespace AnnotationContainers

/-- How the annotations of a native container are read, if the type is one. -/
inductive NativeAccess where
  | eligible (accessor : AttrDecl)
  | notApplicable
deriving DecidableEq

def Registry.nativeAccess (r : Registry) (id : TypeId) : NativeAccess :=
  match (r.get? id).bind (·.soleValue?) with
  | none => .notApplicable
  | some accessor =>
    match accessor.type.element? with
    | none => .notApplicable
    | some element => if r.isRepeatable element then .eligible accessor else .notApplicable

theorem Registry.nativeAccess_eq_eligible_iff {r : Registry} {id : TypeId} {accessor : AttrDecl} :
    r.nativeAccess id = .eligible accessor ↔
      (∃ decl, r.get? id = some decl ∧ decl.attributes = [accessor]) ∧ accessor.name = .value ∧
        ∃ element, accessor.type = .array (.nested element) ∧ r.isRepeatable element := by
  constructor
  · intro h
    unfold nativeAccess at h
    split at h
    · cases h
    next sole found =>
      split at h
      · cases h
      next element holds =>
        split at h
        next repeatable =>
          cases h
          obtain ⟨decl, registered, only⟩ := Option.bind_eq_some_iff.1 found
          obtain ⟨attributes, name⟩ := TypeDecl.soleValue?_eq_some_iff.1 only
          exact ⟨⟨decl, registered, attributes⟩, name, element,
            AttrType.element?_eq_some_iff.1 holds, repeatable⟩
        · cases h
  · rintro ⟨⟨decl, registered, attributes⟩, name, element, type, repeatable⟩
    have found : (r.get? id).bind (·.soleValue?) = some accessor := by
      rw [registered]
      exact TypeDecl.soleValue?_eq_some_iff.2 ⟨attributes, name⟩
    have holds : accessor.type.element? = some element := AttrType.element?_eq_some_iff.2 type
    simp [nativeAccess, found, holds, repeatable]

/-- The answers given so far, in ascending order of the types. -/
structure Cache where
  entries : List (TypeId × NativeAccess)
  ascending : Ascending entries

namespace Cache

instance : DecidableEq Cache := fun a b =>
  decidable_of_iff (a.entries = b.entries) ⟨fun h => by cases a; cases b; cases h; rfl, congrArg _⟩

def empty : Cache := ⟨[], .nil⟩

def get? (cache : Cache) (id : TypeId) : Option NativeAccess := Entries.get? cache.entries id

theorem ext {a b : Cache} (same : ∀ id, a.get? id = b.get? id) : a = b := by
  have entries := Entries.eq_of_get?_eq a.ascending b.ascending same
  cases a
  cases b
  cases entries
  rfl

def size (cache : Cache) : Nat := cache.entries.length

/-- The kept answer for a type; without one, `compute` gives the answer to keep. -/
def getOrCompute (cache : Cache) (id : TypeId) (compute : Unit → NativeAccess) :
    NativeAccess × Cache :=
  match cache.get? id with
  | some known => (known, cache)
  | none =>
    let answer := compute ()
    (answer, ⟨Entries.insert cache.entries id answer, Entries.ascending_insert cache.ascending ..⟩)

theorem getOrCompute_of_get? {cache : Cache} {id : TypeId} {known : NativeAccess}
    (h : cache.get? id = some known) (compute : Unit → NativeAccess) :
    cache.getOrCompute id compute = (known, cache) := by
  simp [getOrCompute, h]

/-- The answer is in the cache afterwards, and no other entry has changed. -/
theorem get?_getOrCompute (cache : Cache) (id other : TypeId) (compute : Unit → NativeAccess) :
    (cache.getOrCompute id compute).2.get? other =
      if id = other then some (cache.getOrCompute id compute).1 else cache.get? other := by
  unfold getOrCompute
  split
  next known h =>
    split
    next same => rw [← same, h]
    next => rfl
  next => exact Entries.get?_insert ..

end Cache

end AnnotationContainers
