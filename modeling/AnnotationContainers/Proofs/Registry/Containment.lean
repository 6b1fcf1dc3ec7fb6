import AnnotationContainers.Proofs.Chain.Construction
import AnnotationContainers.Proofs.Registry.Subtypes

/-! # Registries that contain others

A registry contains another one if it declares all its types, in whatever order their attributes and
supertypes are listed. Whatever holds of the types of a registry by their declarations then holds in
the larger one: subtypes remain subtypes, and accepted mappings are accepted.
-/

namespace AnnotationContainers

/-- The same type, up to the order of its attributes and of its supertypes. -/
structure TypeDecl.Reordered (decl other : TypeDecl) : Prop where
  id : other.id = decl.id
  container : other.container = decl.container
  attributes : decl.attributes.Perm other.attributes
  supertypes : decl.supertypes.Perm other.supertypes

/-- Every type of `r` is a type of `s`, up to the order of its attributes and supertypes. -/
def Registry.ContainedIn (r s : Registry) : Prop :=
  ∀ id decl, r.get? id = some decl → ∃ other, s.get? id = some other ∧ decl.Reordered other

namespace TypeDecl.Reordered

variable {decl other : TypeDecl}

theorem symm (h : decl.Reordered other) : other.Reordered decl :=
  ⟨h.id.symm, h.container.symm, h.attributes.symm, h.supertypes.symm⟩

theorem attributeNames (h : decl.Reordered other) :
    decl.attributeNames.Perm other.attributeNames := h.attributes.map AttrDecl.name

theorem attribute? (h : decl.Reordered other) (distinct : decl.attributeNames.Nodup)
    (name : AttrName) : other.attribute? name = decl.attribute? name := by
  apply Option.ext
  intro attr
  have distinctOther : other.attributeNames.Nodup := h.attributeNames.nodup_iff.1 distinct
  rw [TypeDecl.attribute?, TypeDecl.attribute?, find?_eq_some_iff_of_nodup distinctOther,
    find?_eq_some_iff_of_nodup distinct, h.attributes.mem_iff]

end TypeDecl.Reordered

namespace Registry.ContainedIn

variable {r s : Registry}

theorem declares (contained : r.ContainedIn s) {id supertype : TypeId}
    (h : r.Declares id supertype) : s.Declares id supertype := by
  obtain ⟨decl, registered, declared⟩ := h
  obtain ⟨other, found, reordered⟩ := contained id decl registered
  exact ⟨other, found, reordered.supertypes.mem_iff.1 declared⟩

theorem isSubtype (contained : r.ContainedIn s) {candidate target : TypeId}
    (h : r.isSubtype candidate target) : s.isSubtype candidate target := by
  rw [isSubtype_iff] at h ⊢
  exact Relation.ReflTransGen.mono (fun _ _ => contained.declares) _ _ h

theorem isRepeatable (contained : r.ContainedIn s) {id : TypeId} (h : r.isRepeatable id) :
    s.isRepeatable id := by
  rw [Registry.isRepeatable, Option.any_eq_true] at h ⊢
  obtain ⟨decl, registered, repeatable⟩ := h
  obtain ⟨other, found, reordered⟩ := contained id decl registered
  refine ⟨other, found, ?_⟩
  rw [TypeDecl.isRepeatable, reordered.container]
  exact repeatable

/-- A mapping that one registry accepts is accepted by the larger one, with the same container. -/
theorem mapping (contained : r.ContainedIn s) {repeatable : TypeId} {container : Option TypeId}
    {mapping : Mapping} (accepted : Mapping.of r repeatable container = .ok mapping) :
    Mapping.of s repeatable container = .ok mapping := by
  obtain ⟨repeated, id, decl, known, chosen, registered, declared, rfl⟩ :=
    Mapping.of_eq_ok_iff.1 accepted
  obtain ⟨repeatedOther, knownOther, reorderedRepeated⟩ := contained repeatable repeated known
  obtain ⟨other, registeredOther, reordered⟩ := contained id decl registered
  refine Mapping.of_eq_ok_iff.2
    ⟨repeatedOther, id, other, knownOther, ?_, registeredOther, ?_, rfl⟩
  · rw [reorderedRepeated.container, chosen]
  · rw [reordered.attribute? (r.distinct decl (mem_of_get? registered)), declared]

end Registry.ContainedIn

end AnnotationContainers
