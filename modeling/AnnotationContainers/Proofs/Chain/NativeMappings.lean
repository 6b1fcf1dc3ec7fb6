import AnnotationContainers.Proofs.Chain.Equality
import AnnotationContainers.Proofs.Instance.Resolution

/-! # Native containers and mappings

Two rules recognise containers. A native container is told by the only attribute that it declares,
and any repeatable type will do as its element; a mapping is told by the attribute `value` among
any others, and by the container that is given for the repeatable type or that the type declares
itself. The rules agree up to this difference, and where both apply they find the same annotations.
-/

namespace AnnotationContainers

universe u v

variable {r : Registry} {id element repeatable container : TypeId} {decl : TypeDecl}

theorem TypeDecl.attributes_eq_of_length_eq_one {accessor : AttrDecl} {name : AttrName}
    (single : decl.attributes.length = 1) (declared : decl.attribute? name = some accessor) :
    decl.attributes = [accessor] := by
  obtain ⟨only, attributes⟩ := List.length_eq_one_iff.1 single
  have member : accessor ∈ decl.attributes := List.mem_of_find?_eq_some declared
  rw [attributes, List.mem_singleton] at member
  rw [attributes, member]

namespace Chain

theorem exists_of_eq_ok_iff :
    (∃ chain, Chain.of r repeatable (some container) = .ok chain) ↔
      r.contains repeatable ∧
        (r.get? container).bind (·.attribute? .value) = some (.valueOf repeatable) := by
  simp only [of_eq_ok_iff, Mapping.of_eq_ok_iff, Registry.contains, Option.isSome_iff_exists,
    Option.bind_eq_some_iff]
  constructor
  · rintro ⟨chain, mapping, ⟨repeated, id, decl, known, chosen, registered, declared, -⟩, -⟩
    cases chosen
    exact ⟨⟨repeated, known⟩, decl, registered, declared⟩
  · rintro ⟨⟨repeated, known⟩, decl, registered, declared⟩
    exact ⟨_, _, ⟨repeated, container, decl, known, rfl, registered, declared, rfl⟩, rfl⟩

theorem eq_of_of_eq_ok {chain : Chain}
    (accepted : Chain.of r repeatable (some container) = .ok chain) :
    chain = ⟨.explicit ⟨repeatable, container, .valueOf repeatable⟩, []⟩ := by
  obtain ⟨mapping, valid, rfl⟩ := of_eq_ok_iff.1 accepted
  obtain ⟨repeated, id, decl, -, chosen, -, -, rfl⟩ := Mapping.of_eq_ok_iff.1 valid
  cases chosen
  rfl

end Chain

namespace Registry

/-- A native container is a type with a single attribute to which a repeatable type can be
mapped. -/
theorem gathers_iff_mapping :
    r.Gathers id element ↔
      (∃ decl, r.get? id = some decl ∧ decl.attributes.length = 1) ∧ r.isRepeatable element ∧
        ∃ chain, Chain.of r element (some id) = .ok chain := by
  rw [Chain.exists_of_eq_ok_iff]
  constructor
  · intro gathers
    have declared := gathers.declared
    obtain ⟨⟨decl, registered, attributes⟩, repeatable⟩ := gathers
    obtain ⟨repeated, known, -⟩ := (Option.any_eq_true _ _).1 repeatable
    have contained : r.contains element := by
      rw [contains, known]
      rfl
    exact ⟨⟨decl, registered, by rw [attributes]; rfl⟩, repeatable, contained, declared⟩
  · rintro ⟨⟨decl, registered, single⟩, repeatable, -, declared⟩
    rw [registered, Option.bind_some] at declared
    exact ⟨⟨decl, registered, decl.attributes_eq_of_length_eq_one single declared⟩, repeatable⟩

/-- Where `value` is an array of a repeatable type, only further attributes keep the type from being
a native container. -/
theorem exists_gathers_iff (registered : r.get? id = some decl)
    (declared : decl.attribute? .value = some (.valueOf element))
    (repeatable : r.isRepeatable element) :
    (∃ other, r.Gathers id other) ↔ decl.attributes.length = 1 := by
  constructor
  · rintro ⟨other, ⟨same, registeredSame, attributes⟩, -⟩
    cases registered.symm.trans registeredSame
    rw [attributes]
    rfl
  · intro single
    exact ⟨element, ⟨decl, registered, decl.attributes_eq_of_length_eq_one single declared⟩,
      repeatable⟩

theorem Gathers.resolve_eq {α : Type u} [Attributed α] {a : α}
    (gathers : r.Gathers (Attributed.type a) element) {chain : Chain}
    (accepted : Chain.of r element (some (Attributed.type a)) = .ok chain) {cache : Cache}
    (consistent : cache.Consistent r) (other : Cache) :
    (Chain.standard.resolve r a cache).1 = (chain.resolve r a other).1 := by
  apply Chain.resolve_eq_of_accessor?_eq
  rw [consistent.answer, nativeAccess_eq_iff.2 ⟨element, rfl, gathers⟩,
    Chain.eq_of_of_eq_ok accepted]
  simp [Chain.accessor?, Chain.standard, Chain.strategies, Strategy.accessor?,
    NativeAccess.accessor?]

theorem exists_container_of_of_eq_ok {chain : Chain}
    (accepted : Chain.of r repeatable none = .ok chain) :
    ∃ container decl, (r.get? repeatable).bind (·.container) = some container ∧
      r.get? container = some decl ∧ decl.attribute? .value = some (.valueOf repeatable) ∧
      r.isRepeatable repeatable ∧
      chain = ⟨.explicit ⟨repeatable, container, .valueOf repeatable⟩, []⟩ := by
  obtain ⟨mapping, valid, rfl⟩ := Chain.of_eq_ok_iff.1 accepted
  obtain ⟨repeated, id, decl, known, deduced, registered, declared, rfl⟩ :=
    Mapping.of_eq_ok_iff.1 valid
  have container : repeated.container = some id := deduced
  refine ⟨id, decl, ?_, registered, declared, ?_, rfl⟩
  · rw [known, Option.bind_some, container]
  · rw [isRepeatable, known, Option.any_some, TypeDecl.isRepeatable, container, Option.isSome_some]

/-- The two rules that recognise containers agree. A type is a native container exactly if it has a
single attribute and the mapping of a repeatable type to it is accepted, whichever container that
type declares itself; no other type can then be mapped to it, and native containers and the mapping
come to the same for every annotation of the container. The container that is deduced for a mapping
is a native one exactly if it has a single attribute. -/
theorem nativeAccess_iff_mapping (r : Registry) :
    (∀ id, (∃ accessor, r.nativeAccess id = .eligible accessor) ↔
        (∃ decl, r.get? id = some decl ∧ decl.attributes.length = 1) ∧
          ∃ element, r.isRepeatable element ∧
            ∃ chain, Chain.of r element (some id) = .ok chain) ∧
      (∀ id element other chain chainOther, Chain.of r element (some id) = .ok chain →
        Chain.of r other (some id) = .ok chainOther → other = element) ∧
      (∀ id accessor element chain, r.nativeAccess id = .eligible accessor →
        Chain.of r element (some id) = .ok chain →
        ∀ {α : Type u} [Attributed α] (a : α), Attributed.type a = id →
          ∀ cache other, Cache.FilledBy.{v} r cache →
            (Chain.standard.resolve r a cache).1 = (chain.resolve r a other).1) ∧
      ∀ repeatable chain, Chain.of r repeatable none = .ok chain →
        ∃ container decl, (r.get? repeatable).bind (·.container) = some container ∧
          chain.pairs = [(container, repeatable)] ∧ r.get? container = some decl ∧
          ((∃ accessor, r.nativeAccess container = .eligible accessor) ↔
            decl.attributes.length = 1) := by
  refine ⟨fun id => ?_, ?_, ?_, ?_⟩
  · rw [exists_nativeAccess_eq_iff, ← exists_and_left]
    exact exists_congr fun element => gathers_iff_mapping
  · intro id element other chain chainOther accepted acceptedOther
    have declared := (Chain.exists_of_eq_ok_iff.1 ⟨chain, accepted⟩).2
    have declaredOther := (Chain.exists_of_eq_ok_iff.1 ⟨chainOther, acceptedOther⟩).2
    rw [declared] at declaredOther
    cases declaredOther
    rfl
  · rintro id accessor element chain eligible accepted α _ a rfl cache other filled
    obtain ⟨gathered, rfl, gathers⟩ := nativeAccess_eq_iff.1 eligible
    have declared := (Chain.exists_of_eq_ok_iff.1 ⟨chain, accepted⟩).2
    rw [gathers.declared] at declared
    cases declared
    exact gathers.resolve_eq accepted filled.consistent other
  · intro repeatable chain accepted
    obtain ⟨container, decl, deduced, registered, declared, repeats, rfl⟩ :=
      exists_container_of_of_eq_ok accepted
    refine ⟨container, decl, deduced, rfl, registered, ?_⟩
    rw [exists_nativeAccess_eq_iff, exists_gathers_iff registered declared repeats]

end Registry

namespace Sample

def shelf : TypeId := ⟨"a.Shelf", by decide⟩

/-- Tags declare another container than the shelf, which gathers them all the same. -/
def shelving : Registry where
  types := [
    { id := shelf, attributes := [.valueOf tag] },
    { id := tag, container := some tags, supertypes := [shelf] }]
  ascending := by decide
  distinct := by decide

end Sample

/-- A shelf is a native container, though its tags declare a container that is not even registered.
The container that is deduced for bundled tags is none, as bundles have a size. -/
theorem Registry.nativeAccess_iff_mapping_shelf :
    (∃ chain, Chain.of Sample.shelving Sample.tag (some Sample.shelf) = .ok chain ∧
      (∃ accessor, Sample.shelving.nativeAccess Sample.shelf = .eligible accessor) ∧
      (Chain.standard.resolve Sample.shelving (Sample.gathered Sample.shelf ["fast"]) .empty).1 =
        (chain.resolve Sample.shelving (Sample.gathered Sample.shelf ["fast"]) .empty).1) ∧
      (∃ chain, Chain.of Sample.bundling Sample.tag none = .ok chain ∧
        chain.pairs = [(Sample.bundles, Sample.tag)]) ∧
      ¬ ∃ accessor, Sample.bundling.nativeAccess Sample.bundles = .eligible accessor := by
  obtain ⟨native, -, same, -⟩ := nativeAccess_iff_mapping.{0, 0} Sample.shelving
  obtain ⟨-, -, -, deduced⟩ := nativeAccess_iff_mapping.{0, 0} Sample.bundling
  obtain ⟨chain, accepted⟩ :
      ∃ chain, Chain.of Sample.shelving Sample.tag (some Sample.shelf) = .ok chain := ⟨_, rfl⟩
  obtain ⟨bundled, acceptedBundled⟩ :
      ∃ chain, Chain.of Sample.bundling Sample.tag none = .ok chain := ⟨_, rfl⟩
  obtain ⟨accessor, eligible⟩ := (native Sample.shelf).2
    ⟨⟨_, rfl, rfl⟩, Sample.tag, by decide, chain, accepted⟩
  obtain ⟨container, decl, declared, pairs, registered, meaning⟩ :=
    deduced Sample.tag bundled acceptedBundled
  cases declared
  cases registered
  refine ⟨⟨chain, accepted, ⟨accessor, eligible⟩, ?_⟩, ⟨bundled, acceptedBundled, pairs⟩, ?_⟩
  · exact same Sample.shelf accessor Sample.tag chain eligible accepted
      (Sample.gathered Sample.shelf ["fast"]) rfl .empty .empty .empty
  · rw [meaning]
    decide

end AnnotationContainers
