import AnnotationContainers.Proofs.Instance.Resolution
import AnnotationContainers.Proofs.Instance.RoundTrip
import AnnotationContainers.Proofs.Registry.Containment

/-! # Instances under larger registries

What a document describes by the declarations of a registry, it describes by those of every registry
that contains it, and a well-typed instance is rendered the same way by both. A container remains
one, so that chains which recognise the same types under two registries find the same annotations.
-/

namespace AnnotationContainers

open Outcomes

variable {r s : Registry} {decl other : TypeDecl}

namespace Instance

theorem KeysOf.reordered {values : List (String × Json)} (keys : KeysOf decl values)
    (reordered : decl.Reordered other) : KeysOf other values := by
  intro key
  simp only [keys key, reordered.attributes.mem_iff]

theorem AttributesOf.reordered {attributes : List (AttrName × Value Instance)}
    (map : AttributesOf decl attributes) (reordered : decl.Reordered other) :
    AttributesOf other attributes where
  ascending := map.ascending
  names name := by rw [map.names, reordered.attributeNames.mem_iff]

theorem DocumentOf.reordered {fields values : List (String × Json)}
    (document : DocumentOf r decl fields values) (reordered : decl.Reordered other)
    (registered : s.get? decl.id = some other) : DocumentOf s other fields values where
  type := by rw [reordered.id, document.type]
  registered := by rw [reordered.id, registered]
  given := document.given
  keys := document.keys.reordered reordered

mutual

theorem Describes.mono (contained : r.ContainedIn s) {document : Json} {a : Instance} :
    Describes r document a → Describes s document a
  | .record document map holds => by
    obtain ⟨other, registered, reordered⟩ := contained _ _ document.registered
    rw [← reordered.id]
    apply Describes.record (document.reordered reordered registered) (map.reordered reordered)
    intro attr declared raw value given stored
    have member := reordered.attributes.mem_iff.2 declared
    exact (holds attr member raw value given stored).mono contained

theorem Holds.mono (contained : r.ContainedIn s) {type : AttrType} {json : Json}
    {value : Value Instance} : Holds r type json value → Holds s type json value
  | .boolean value => .boolean value
  | .integer value => .integer value
  | .float n => .float n
  | .string text => .string text
  | .classRef name => .classRef name
  | .enumeration type constant => .enumeration type constant
  | .nested describes subtype =>
    .nested (describes.mono contained) (contained.isSubtype subtype)
  | .array each => .array (each.mono contained)

theorem HoldItems.mono (contained : r.ContainedIn s) {component : AttrType} {items : List Json}
    {values : List (Value Instance)} :
    HoldItems r component items values → HoldItems s component items values
  | .nil => .nil
  | .cons head tail => .cons (head.mono contained) (tail.mono contained)

end

/-- A record is rendered to the fields of its declared attributes, in whatever order these are
declared. -/
theorem RenderedFields.eq_of_reordered {attributes : List (AttrName × Value Instance)}
    {fields others : List (String × Json)} (rendered : RenderedFields r decl attributes fields)
    (renderedOther : RenderedFields s other attributes others) (reordered : decl.Reordered other)
    (map : AttributesOf decl attributes)
    (each : ∀ attr ∈ decl.attributes, ∀ value, Entries.get? attributes attr.name = some value →
      renderValue s value = renderValue r value) : others = fields := by
  apply Entries.eq_of_keys renderedOther.ascending rendered.ascending
  · intro key
    rw [renderedOther.keys, rendered.keys.reordered reordered key]
  · intro key raw rawOther written writtenOther
    obtain ⟨attr, declaredOther, rfl⟩ := (renderedOther.keys key).1 (by simp [written])
    have declared := reordered.attributes.mem_iff.2 declaredOther
    obtain ⟨value, stored⟩ := map.value declared
    have success := rendered.values attr declared value rawOther stored writtenOther
    have successOther := renderedOther.values attr declaredOther value raw stored written
    rw [each attr declared value stored, success] at successOther
    exact (Except.ok.inj successOther).symm

mutual

theorem WellTyped.render_eq (contained : r.ContainedIn s) {a : Instance} :
    WellTyped r a → a.render s = a.render r
  | @WellTyped.record _ decl attributes registered map typed => by
    have written : ∀ attr ∈ decl.attributes, ∀ value,
        Entries.get? attributes attr.name = some value → ∃ raw, renderValue r value = .ok raw := by
      intro attr declared value stored
      obtain ⟨raw, success, -⟩ := (typed attr declared value stored).rendered
      exact ⟨raw, success⟩
    have each : ∀ attr ∈ decl.attributes, ∀ value, Entries.get? attributes attr.name = some value →
        renderValue s value = renderValue r value := by
      intro attr declared value stored
      exact (typed attr declared value stored).renderValue_eq contained
    obtain ⟨other, registeredOther, reordered⟩ := contained _ _ registered
    rw [← reordered.id] at registeredOther
    obtain ⟨fields, rendered, success⟩ := exists_render_record registered map written
    obtain ⟨others, renderedOther, successOther⟩ :=
      exists_render_record registeredOther (map.reordered reordered)
        fun attr declaredOther value stored => by
          have declared := reordered.attributes.mem_iff.2 declaredOther
          rw [each attr declared value stored]
          exact written attr declared value stored
    have same : others = fields := rendered.eq_of_reordered renderedOther reordered map each
    rw [reordered.id] at successOther
    rw [success, successOther, same]

theorem HasType.renderValue_eq (contained : r.ContainedIn s) {type : AttrType}
    {value : Value Instance} : HasType r type value → renderValue s value = renderValue r value
  | .boolean _ | .integer _ | .float _ | .string _ | .classRef _ | .enumeration .. => rfl
  | .nested typed _ => typed.render_eq contained
  | .array each => by
    simp only [renderValue, renderItems_eq_mapM]
    rw [mapM_congr fun item member => (each item member).renderValue_eq contained]

end

end Instance

/-- A document is accepted under the larger registry as the same instance, which is rendered the
same. -/
theorem Registry.ContainedIn.synthesize (contained : r.ContainedIn s) {document : Json}
    {a : Instance} (accepted : Instance.synthesize r document = .ok a) :
    Instance.synthesize s document = .ok a ∧ a.render s = a.render r := by
  have describes := Instance.synthesize_eq_ok_iff.1 accepted
  exact ⟨(describes.mono contained).synthesized, describes.wellTyped.render_eq contained⟩

theorem Registry.Gathers.mono (contained : r.ContainedIn s) {id element : TypeId}
    (gathers : r.Gathers id element) : s.Gathers id element := by
  obtain ⟨⟨decl, registered, attributes⟩, repeatable⟩ := gathers
  obtain ⟨other, found, reordered⟩ := contained id decl registered
  refine ⟨⟨other, found, ?_⟩, contained.isRepeatable repeatable⟩
  rw [← List.perm_singleton, ← attributes]
  exact reordered.attributes.symm

namespace Chain

variable {chain larger : Chain} {id : TypeId} {a : Instance}

/-- What a chain recognises, every chain does that has its strategies, wherever they stand. -/
theorem RecognisesIn.mono (contained : r.ContainedIn s)
    (included : chain.strategies ⊆ larger.strategies) (recognised : chain.RecognisesIn r id) :
    larger.RecognisesIn s id := by
  rcases recognised with ⟨mapping, member, subtype⟩ | ⟨member, element, gathers⟩
  · exact .inl ⟨mapping, included member, contained.isSubtype subtype⟩
  · exact .inr ⟨included member, element, gathers.mono contained⟩

theorem Built.resolve_congr (built : chain.Built) (builtOther : larger.Built)
    (same : chain.RecognisesIn r a.type ↔ larger.RecognisesIn s a.type) :
    (chain.resolve r a .empty).1 = (larger.resolve s a .empty).1 := by
  have here := built.resolve_cases (r := r) (a := a) .empty rfl
  have there := builtOther.resolve_cases (r := s) (a := a) .empty rfl
  by_cases recognised : chain.RecognisesIn r a.type
  · rw [here.1 recognised, there.1 (same.1 recognised)]
  · rw [here.2 recognised, there.2 (mt same.2 recognised)]

end Chain

end AnnotationContainers
