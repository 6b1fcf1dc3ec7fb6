import AnnotationContainers.Proofs.Outcomes
import AnnotationContainers.Proofs.Registry.Listing

/-! # Lists of types that are refused

A list is refused at its first type that repeats a name: that of a type before it, or that of one of
its own attributes. An attribute is reported rather than the type, and among the attributes the
first whose name stands before it. All other lists become registries, and a registry says of its
list everything but the order: `Registry.ofList_consistent`.
-/

namespace AnnotationContainers

open Outcomes

namespace Registry

/-- No two types of the list share a name, and none of them has two attributes of one name. -/
structure Consistent (types : List TypeDecl) : Prop where
  ids : (types.map (·.id)).Nodup
  names : ∀ decl ∈ types, decl.attributeNames.Nodup

/-- What is wrong with a type that follows the types `before`. -/
inductive Refuses (before : List TypeDecl) (decl : TypeDecl) : ConfigError → Prop
  /-- The attribute is the first one whose name stands before it. -/
  | repeatedAttribute {earlier later : List AttrDecl} {attr : AttrDecl}
      (attributes : decl.attributes = earlier ++ attr :: later)
      (distinct : (earlier.map (·.name)).Nodup) (again : attr.name ∈ earlier.map (·.name)) :
      Refuses before decl (.duplicateAttribute decl.id attr.name)
  | repeatedType (distinct : decl.attributeNames.Nodup) (again : decl.id ∈ before.map (·.id)) :
      Refuses before decl (.duplicateType decl.id)

variable {r : Registry} {decl : TypeDecl} {types : List TypeDecl} {fault : ConfigError}

theorem exists_ofList_iff_consistent : (∃ r, ofList types = .ok r) ↔ Consistent types :=
  exists_ofList_eq_ok_iff.trans ⟨fun ⟨ids, names⟩ => ⟨ids, names⟩, fun h => ⟨h.ids, h.names⟩⟩

/-- The attributes before the one whose name is found to be repeated repeat none. -/
theorem repeatedName?_eq_some_iff {seen : List AttrName} {attributes : List AttrDecl}
    {name : AttrName} :
    repeatedName? seen attributes = some name ↔
      ∃ earlier attr later, attributes = earlier ++ attr :: later ∧ attr.name = name ∧
        repeatedName? seen earlier = none ∧ (name ∈ seen ∨ name ∈ earlier.map (·.name)) := by
  induction attributes generalizing seen with
  | nil => simp [repeatedName?]
  | cons first rest ih =>
    rw [repeatedName?]
    by_cases old : first.name ∈ seen
    · rw [if_pos old, Option.some.injEq]
      constructor
      · rintro rfl
        exact ⟨[], first, rest, rfl, rfl, rfl, .inl old⟩
      · rintro ⟨earlier, attr, later, split, rfl, fresh, -⟩
        cases earlier with
        | nil =>
          cases split
          rfl
        | cons other earlier =>
          cases split
          rw [repeatedName?, if_pos old] at fresh
          cases fresh
    · rw [if_neg old, ih]
      constructor
      · rintro ⟨earlier, attr, later, rfl, rfl, fresh, again⟩
        refine ⟨first :: earlier, attr, later, rfl, rfl, ?_, ?_⟩
        · rw [repeatedName?, if_neg old]
          exact fresh
        · simp only [List.mem_cons, List.map_cons] at again ⊢
          tauto
      · rintro ⟨earlier, attr, later, split, rfl, fresh, again⟩
        cases earlier with
        | nil =>
          cases split
          simp [old] at again
        | cons other earlier =>
          cases split
          rw [repeatedName?, if_neg old] at fresh
          refine ⟨earlier, attr, later, rfl, rfl, fresh, ?_⟩
          simp only [List.mem_cons, List.map_cons] at again ⊢
          tauto

theorem refuses_of_register_eq_error (failed : r.register decl = .error fault) :
    Refuses r.types decl fault := by
  unfold register at failed
  split at failed
  next name repeated =>
    cases failed
    obtain ⟨earlier, attr, later, attributes, rfl, fresh, again⟩ :=
      repeatedName?_eq_some_iff.1 repeated
    refine .repeatedAttribute attributes (repeatedName?_eq_none_iff.1 fresh).1 ?_
    simpa using again
  next unrepeated =>
    split at failed
    next other known =>
      cases failed
      refine .repeatedType (repeatedName?_eq_none_iff.1 unrepeated).1 ?_
      obtain ⟨member, same⟩ := get?_eq_some_iff.1 known
      exact List.mem_map.2 ⟨other, member, same⟩
    · cases failed

theorem Refuses.register_eq_error (refused : Refuses r.types decl fault) :
    r.register decl = .error fault := by
  unfold register
  cases refused with
  | @repeatedAttribute earlier later attr attributes distinct again =>
    have repeated : repeatedName? [] decl.attributes = some attr.name :=
      repeatedName?_eq_some_iff.2 ⟨earlier, attr, later, attributes, rfl,
        repeatedName?_eq_none_iff.2 ⟨distinct, by simp⟩, .inr again⟩
    split
    next name found =>
      cases repeated.symm.trans found
      rfl
    next unrepeated => cases repeated.symm.trans unrepeated
  | repeatedType distinct again =>
    have unrepeated : repeatedName? [] decl.attributes = none :=
      repeatedName?_eq_none_iff.2 ⟨distinct, by simp⟩
    split
    next repeated => cases unrepeated.symm.trans repeated
    · split
      · rfl
      next absent => exact (get?_eq_none_iff.1 absent again).elim

/-- Only the names of the types before it matter to what is wrong with a type. -/
theorem Refuses.of_perm {before others : List TypeDecl} (perm : before.Perm others)
    (refused : Refuses before decl fault) : Refuses others decl fault := by
  cases refused with
  | repeatedAttribute attributes distinct again =>
    exact .repeatedAttribute attributes distinct again
  | repeatedType distinct again =>
    exact .repeatedType distinct ((perm.map (·.id)).mem_iff.1 again)

theorem ofList_eq_error_iff :
    ofList types = .error fault ↔
      ∃ before decl after, types = before ++ decl :: after ∧ Consistent before ∧
        Refuses before decl fault := by
  rw [ofList, foldlM_eq_error_iff]
  constructor
  · rintro ⟨before, decl, after, r, rfl, reached, refused⟩
    have success : ofList before = .ok r := reached
    exact ⟨before, decl, after, rfl, exists_ofList_iff_consistent.1 ⟨r, success⟩,
      (refuses_of_register_eq_error refused).of_perm (perm_of_ofList_eq_ok success)⟩
  · rintro ⟨before, decl, after, rfl, consistent, refused⟩
    obtain ⟨r, success⟩ := exists_ofList_iff_consistent.2 consistent
    exact ⟨before, decl, after, r, rfl, success,
      (refused.of_perm (perm_of_ofList_eq_ok success).symm).register_eq_error⟩

/-- A list becomes a registry exactly if it repeats no name. The registry then finds each type of
the list by its name, unchanged, and nothing else, and lists them in ascending order, so that two
lists give the same registry exactly if they differ in their order only. Any other list is refused
for the first type that repeats a name, and for its first attribute that does so before the type
itself. -/
theorem ofList_consistent (types : List TypeDecl) :
    ((∃ r, ofList types = .ok r) ↔ Consistent types) ∧
      (∀ r, ofList types = .ok r →
        (∀ id decl, r.get? id = some decl ↔ decl ∈ types ∧ decl.id = id) ∧
        (∀ id, r.get? id = none ↔ ∀ decl ∈ types, decl.id ≠ id) ∧
        r.size = types.length ∧ r.types.Perm types ∧
        r.types.Pairwise fun a b => a.id < b.id) ∧
      (∀ others r s, ofList types = .ok r → ofList others = .ok s →
        (r = s ↔ types.Perm others)) ∧
      ∀ fault, ofList types = .error fault ↔
        ∃ before decl after, types = before ++ decl :: after ∧ Consistent before ∧
          Refuses before decl fault := by
  refine ⟨exists_ofList_iff_consistent, ?_, ?_, fun fault => ofList_eq_error_iff⟩
  · intro r success
    have perm := perm_of_ofList_eq_ok success
    refine ⟨fun id decl => ?_, fun id => ?_, perm.length_eq, perm, r.ascending⟩
    · rw [get?_eq_some_iff, perm.mem_iff]
    · simp [get?_eq_none_iff, (perm.map (·.id)).mem_iff]
  · intro others r s success successOther
    have perm := ofList_eq_ok_iff.1 success
    constructor
    · rintro rfl
      exact perm.symm.trans (ofList_eq_ok_iff.1 successOther)
    · intro reordered
      have again : ofList others = .ok r := ofList_eq_ok_iff.2 (perm.trans reordered)
      exact Except.ok.inj (again.symm.trans successOther)

end Registry

namespace Sample

def city : TypeId := ⟨"a.City", by decide⟩
def river : TypeId := ⟨"a.River", by decide⟩
def ocean : TypeId := ⟨"a.Ocean", by decide⟩

def span : AttrName := ⟨"span", by decide⟩

def places : List TypeDecl :=
  [{ id := river, attributes := [⟨.value, .string⟩, ⟨span, .integer⟩], supertypes := [city] },
    { id := city, attributes := [⟨.value, .string⟩] }]

/-- Another declaration of rivers, in which two attributes are repeated. -/
def otherRiver : TypeDecl where
  id := river
  attributes := [⟨.value, .string⟩, ⟨span, .integer⟩, ⟨span, .float⟩, ⟨.value, .string⟩]

/-- Rivers are declared again, and so are cities. -/
def atlas : List TypeDecl := places ++ otherRiver :: [{ id := city }]

end Sample

/-- Of all faults the first repeated attribute of the second river is reported. Without that river
and what follows it, the order of the places does not matter. -/
theorem Registry.ofList_consistent_places :
    ofList Sample.atlas = .error (.duplicateAttribute Sample.river Sample.span) ∧
      ∃ r, ofList Sample.places = .ok r ∧ ofList Sample.places.reverse = .ok r ∧
        (∃ decl, r.get? Sample.river = some decl ∧ decl.supertypes = [Sample.city]) ∧
        r.get? Sample.ocean = none := by
  have consistent : Consistent Sample.places := ⟨by decide, by decide⟩
  have reversed : Consistent Sample.places.reverse := ⟨by decide, by decide⟩
  obtain ⟨accepted, kept, same, -⟩ := ofList_consistent Sample.places
  obtain ⟨r, success⟩ := accepted.2 consistent
  obtain ⟨s, successReversed⟩ := (ofList_consistent Sample.places.reverse).1.2 reversed
  have equal : r = s :=
    (same _ r s success successReversed).2 (List.reverse_perm Sample.places).symm
  have refused : Refuses Sample.places Sample.otherRiver
      (.duplicateAttribute Sample.river Sample.span) :=
    .repeatedAttribute (show Sample.otherRiver.attributes =
        [⟨.value, .string⟩, ⟨Sample.span, .integer⟩] ++ ⟨Sample.span, .float⟩ :: _ from rfl)
      (by decide) (by decide)
  refine ⟨?_, r, success, equal ▸ successReversed, ?_⟩
  · exact ((ofList_consistent Sample.atlas).2.2.2 _).2
      ⟨Sample.places, Sample.otherRiver, _, rfl, consistent, refused⟩
  · obtain ⟨found, absent, -⟩ := kept r success
    exact ⟨⟨_, (found Sample.river _).2 ⟨List.mem_cons_self, rfl⟩, rfl⟩,
      (absent Sample.ocean).2 (by decide)⟩

end AnnotationContainers
