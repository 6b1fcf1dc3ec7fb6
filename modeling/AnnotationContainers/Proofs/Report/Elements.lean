import AnnotationContainers.Proofs.Instance.NormalForm
import AnnotationContainers.Proofs.Instance.Resolution
import AnnotationContainers.Report

/-! # The elements of a report

A report lists the annotations of a container as documents in normal form, in the order of the
array under `value`. They were synthesized with their container, so rendering them cannot fail.
-/

namespace AnnotationContainers

open Outcomes

namespace Metadata

variable (metadata : Metadata) (base : Option BaseStrategy)

theorem setup_cases :
    (∃ failure, metadata.setup base = .error failure ∧ ∀ cause, failure ≠ .rendering cause) ∨
      ∃ r chain, metadata.registry = .ok r ∧ Chain.Built chain ∧
        metadata.setup base = .ok (r, chain) := by
  rw [setup]
  cases metadata.registry with
  | error fault => exact .inl ⟨.types fault, rfl, nofun⟩
  | ok r =>
    cases accepted : ContainerConfig.chain
        { metadata.containers with base := base.getD metadata.containers.base } r with
    | error fault =>
      refine .inl ⟨.containers fault, ?_, nofun⟩
      simp [bind, Except.bind, Except.mapError, accepted]
    | ok chain =>
      refine .inr ⟨r, chain, rfl, .configured accepted, ?_⟩
      simp [bind, Except.bind, Except.mapError, accepted, pure, Except.pure]

/-- A resolution either fails before it renders anything, or it has found the annotations that the
chain sees in the instance of the document, and it is left to render them. -/
theorem resolve_cases (document : Json) :
    (∃ failure, metadata.resolve document base = .error failure ∧
        ∀ cause, failure ≠ .rendering cause) ∨
      ∃ (r : Registry) (chain : Chain) (a : Instance) (repeated : Option (List Instance)),
        metadata.registry = .ok r ∧ chain.Built ∧ Instance.synthesize r document = .ok a ∧
        (chain.resolve r a .empty).1 = .ok repeated ∧
        metadata.resolve document base = (do
          let elements ← ((repeated.getD []).mapM (Instance.render r)).mapError .rendering
          return {
            type := a.type
            chain := chain.text
            container := repeated.isSome
            elements }) := by
  rw [resolve]
  rcases metadata.setup_cases base with ⟨failure, failed, early⟩ | ⟨r, chain, types, built, ready⟩
  · rw [failed]
    exact .inl ⟨failure, rfl, early⟩
  rw [ready]
  cases synthesized : Instance.synthesize r document with
  | error fault =>
    refine .inl ⟨.synthesis fault, ?_, nofun⟩
    simp only [bind, Except.bind, Except.mapError, synthesized]
  | ok a =>
    cases found : (chain.resolve r a .empty).1 with
    | error fault =>
      refine .inl ⟨.reading fault, ?_, nofun⟩
      simp only [bind, Except.bind, Except.mapError, synthesized, found]
    | ok repeated =>
      refine .inr ⟨r, chain, a, repeated, types, built, synthesized, found, ?_⟩
      simp only [bind, Except.bind, Except.mapError, synthesized, found]

end Metadata

namespace Chain

/-- What a chain finds in the instance of a document is described by the documents in the array
under `value`, one for one. -/
theorem Built.elements {chain : Chain} (built : chain.Built) {r : Registry} {document : Json}
    {a : Instance} (describes : Instance.Describes r document a) {repeated : Option (List Instance)}
    (found : (chain.resolve r a .empty).1 = .ok repeated) :
    repeated = none ∨ ∃ xs items, repeated = some xs ∧
      (document.field? "attributes").bind (·.field? "value") = some (.array items) ∧
      List.Forall₂ (Instance.Describes r) items xs := by
  obtain ⟨contained, unrecognised⟩ := built.resolve_cases .empty found
  by_cases recognised : chain.RecognisesIn r a.type
  · obtain ⟨xs, rfl, read⟩ := contents_eq_ok_iff.1 (contained recognised).symm
    obtain ⟨raw, type, given, holds⟩ := describes.read read
    obtain ⟨items, rfl, each⟩ := holds.annotations
    exact .inr ⟨xs, items, rfl, given, each⟩
  · cases unrecognised recognised
    exact .inl rfl

end Chain

theorem Instance.mapM_render {r : Registry} {items : List Json} {xs : List Instance}
    (each : List.Forall₂ (Describes r) items xs) (ordered : ∀ item ∈ items, item.Ordered) :
    xs.mapM (render r) = .ok (items.map (normalForm r)) := by
  induction each with
  | nil => rfl
  | cons head _ ih =>
    obtain ⟨first, others⟩ := List.forall_mem_cons.1 ordered
    rw [List.mapM_cons, head.render first, ih others]
    rfl

/-- A container is reported with the normal forms of the documents in its `value`, in their order,
and anything else without elements. Each element is accepted again and rendered to itself, and
rendering never fails. Documents that are read from text are ordered: `Json.ordered_of_ofText?`. -/
theorem Metadata.resolve_normalForm (metadata : Metadata) (base : Option BaseStrategy)
    {document : Json} (ordered : document.Ordered) :
    (∀ report, metadata.resolve document base = .ok report →
      ∃ r, metadata.registry = .ok r ∧
        (report.container = true →
          ∃ items, (document.field? "attributes").bind (·.field? "value") = some (.array items) ∧
            report.elements = items.map (Instance.normalForm r)) ∧
        (report.container = false → report.elements = []) ∧
        ∀ element ∈ report.elements,
          ∃ a, Instance.synthesize r element = .ok a ∧ a.render r = .ok element) ∧
      ∀ cause, metadata.resolve document base ≠ .error (.rendering cause) := by
  rcases metadata.resolve_cases base document with
    ⟨failure, failed, early⟩ | ⟨r, chain, a, repeated, types, built, synthesized, found, outcome⟩
  · rw [failed]
    exact ⟨nofun, fun cause same => early cause (Except.error.inj same)⟩
  have describes := Instance.synthesize_eq_ok_iff.1 synthesized
  rcases built.elements describes found with rfl | ⟨xs, items, rfl, given, each⟩
  · rw [outcome]
    refine ⟨fun report reported => ?_, nofun⟩
    cases reported
    exact ⟨r, types, nofun, fun _ => rfl, nofun⟩
  · have orderedItems : ∀ item ∈ items, item.Ordered := by
      obtain ⟨attributes, outer, inner⟩ := Option.bind_eq_some_iff.1 given
      exact Json.ordered_array_iff.1 (Json.ordered_field? (Json.ordered_field? ordered outer) inner)
    have accepted : ∀ item ∈ items, ∃ x, Instance.synthesize r item = .ok x :=
      exists_mapM_eq_ok_iff.1
        ⟨xs, mapM_eq_ok_iff.2 (each.imp fun _ _ => Instance.synthesize_eq_ok_iff.2)⟩
    have rendered := Instance.mapM_render each orderedItems
    rw [outcome, Option.getD_some, rendered]
    refine ⟨fun report reported => ?_, nofun⟩
    cases reported
    refine ⟨r, types, fun _ => ⟨items, given, rfl⟩, nofun, fun element member => ?_⟩
    obtain ⟨item, itemMember, rfl⟩ := List.mem_map.1 member
    obtain ⟨x, success⟩ := accepted item itemMember
    have described := Instance.synthesize_eq_ok_iff.1 success
    exact ⟨x, Instance.synthesize_eq_ok_iff.2 described.normal,
      described.render (orderedItems item itemMember)⟩

namespace Sample

def reading : TypeId := ⟨"a.Reading", by decide⟩
def readings : TypeId := ⟨"a.Readings", by decide⟩

/-- Readings are lists of doubles, and they are gathered in a native container. -/
def metadata : Metadata where
  types := [
    { id := reading, attributes := [⟨⟨"celsius", by decide⟩, .array .float⟩],
      container := some readings },
    { id := readings, attributes := [.valueOf reading] }]

def readingDocument (n : Number) : Json :=
  .object [("attributes", .object [("celsius", .array [.number n])]),
    ("type", .string reading.text)]

def readingsDocument (n : Number) : Json :=
  .object [("attributes", .object [("value", .array [readingDocument n])]),
    ("type", .string readings.text)]

end Sample

/-- A reading given as an integer is reported as a double, twenty by the bits of 20.0. -/
theorem Metadata.resolve_normalForm_readings :
    (Sample.readingsDocument (.ofNat 20)).Ordered ∧
      ∃ report, Sample.metadata.resolve (Sample.readingsDocument (.ofNat 20)) none = .ok report ∧
        report.container = true ∧
        report.elements = [Sample.readingDocument
          (.float ⟨false, 0x4034000000000000, by decide⟩ (by decide))] := by
  have ordered : (Sample.readingsDocument (.ofNat 20)).Ordered := by
    simp only [Sample.readingsDocument, Sample.readingDocument, Json.Ordered, Json.OrderedFields,
      Json.OrderedItems]
    decide
  have twenty : (Number.ofNat 20).asDouble =
      .float ⟨false, 0x4034000000000000, by decide⟩ (by decide) := by decide +kernel
  rw [← twenty]
  refine ⟨ordered, _, rfl, rfl, ?_⟩
  obtain ⟨r, types, container, -⟩ := (resolve_normalForm Sample.metadata none ordered).1 _ rfl
  obtain ⟨items, given, elements⟩ := container rfl
  cases types
  cases given
  rw [elements]
  rfl

end AnnotationContainers
