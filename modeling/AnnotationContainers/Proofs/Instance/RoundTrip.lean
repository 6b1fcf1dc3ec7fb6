import AnnotationContainers.Proofs.Instance.NormalForm
import AnnotationContainers.Proofs.Instance.Typing

/-! # Instances and their documents

Rendering and synthesis undo each other. From the rendered document of an instance synthesis gives
the instance back, exactly if the instance is well-typed: the declared types restore what strings
and numbers do not tell. From the instance of a document rendering gives the document back in normal
form, and a document in normal form unchanged.
-/

namespace AnnotationContainers

namespace Instance

open Outcomes

variable {r : Registry}

mutual

theorem WellTyped.rendered {a : Instance} :
    WellTyped r a → ∃ document, a.render r = .ok document ∧ Describes r document a
  | @WellTyped.record _ decl attributes registered map typed => by
    have each : ∀ attr ∈ decl.attributes, ∀ value, Entries.get? attributes attr.name = some value →
        ∃ raw, renderValue r value = .ok raw ∧ Holds r attr.type raw value := by
      intro attr declared value stored
      exact (typed attr declared value stored).rendered
    obtain ⟨fields, rendered, success⟩ :=
      exists_render_record registered map fun attr declared value stored => by
        obtain ⟨raw, written, -⟩ := each attr declared value stored
        exact ⟨raw, written⟩
    refine ⟨_, success, .record (.of_keys registered rendered.keys) map ?_⟩
    intro attr declared raw value given stored
    obtain ⟨other, written, holds⟩ := each attr declared value stored
    cases written.symm.trans (rendered.values attr declared value raw stored given)
    exact holds

theorem HasType.rendered {type : AttrType} {value : Value Instance} :
    HasType r type value → ∃ raw, renderValue r value = .ok raw ∧ Holds r type raw value
  | .boolean value => ⟨_, rfl, .boolean value⟩
  | .integer value => ⟨_, rfl, .integer value⟩
  | @HasType.float _ x finite => by
    refine ⟨.number (.float x finite), ?_, .float (.float x finite)⟩
    rw [renderValue, Number.ofDouble?, dif_pos finite]
    rfl
  | .string value => ⟨_, rfl, .string value⟩
  | .classRef name => ⟨_, rfl, .classRef name⟩
  | .enumeration type constant => ⟨_, rfl, .enumeration type constant⟩
  | .nested typed subtype => by
    obtain ⟨document, success, describes⟩ := typed.rendered
    exact ⟨document, success, .nested describes subtype⟩
  | @HasType.array _ component items each => by
    have written : ∀ item ∈ items, ∃ raw,
        renderValue r item = .ok raw ∧ Holds r component raw item :=
      fun item member => (each item member).rendered
    obtain ⟨rendered, success⟩ := exists_mapM_eq_ok_iff.2 fun item member => by
      obtain ⟨raw, success, -⟩ := written item member
      exact ⟨raw, success⟩
    have held : List.Forall₂ (fun item raw => Holds r component raw item) items rendered :=
      forall₂_imp_of_mem (mapM_eq_ok_iff.1 success) fun item member raw outcome => by
        obtain ⟨other, success, holds⟩ := written item member
        cases success.symm.trans outcome
        exact holds
    refine ⟨.array rendered, ?_, .array (holdItems_iff.2 held.flip)⟩
    rw [renderValue, renderItems_eq_mapM, success]
    rfl

end

/-- Exactly the well-typed instances can be rendered and then synthesized again as they were, down
to the last nested value. -/
theorem wellTyped_iff_synthesize_render (r : Registry) (a : Instance) :
    WellTyped r a ↔ ∃ document, a.render r = .ok document ∧ synthesize r document = .ok a := by
  constructor
  · intro typed
    obtain ⟨document, success, describes⟩ := typed.rendered
    exact ⟨document, success, describes.synthesized⟩
  · rintro ⟨document, -, success⟩
    exact (synthesize_eq_ok_iff.1 success).wellTyped

/-- The normal form of an accepted document is again a document in normal form. -/
theorem Describes.normalForm_normalForm {document : Json} {a : Instance}
    (describes : Describes r document a) (ordered : document.Ordered) :
    normalForm r (normalForm r document) = normalForm r document := by
  have once := describes.render ordered
  have twice := describes.normal.render (ordered_render r a _ once)
  exact Except.ok.inj (twice.symm.trans once)

/-- An accepted document is rendered to its normal form. The normal form is accepted as the same
instance, and nothing in it changes when it is normalized again. -/
theorem render_synthesize {document : Json} (ordered : document.Ordered) {a : Instance}
    (accepted : synthesize r document = .ok a) :
    a.render r = .ok (normalForm r document) ∧
      synthesize r (normalForm r document) = .ok a ∧
      normalForm r (normalForm r document) = normalForm r document := by
  have describes := synthesize_eq_ok_iff.1 accepted
  exact ⟨describes.render ordered, describes.normal.synthesized,
    describes.normalForm_normalForm ordered⟩

end Instance

namespace Sample

def grid : TypeId := ⟨"a.Grid", by decide⟩
def origin : TypeId := ⟨"a.Origin", by decide⟩

/-- Grids have rows of doubles, and an origin without attributes. -/
def grids : Registry where
  types := [
    { id := grid, attributes := [⟨⟨"rows", by decide⟩, .array (.array .float)⟩,
      ⟨⟨"origin", by decide⟩, .nested origin⟩] },
    { id := origin }]
  ascending := by decide
  distinct := by decide

/-- A grid of the single cell `n`, with these fields in the document of its origin and these
comments beside its attributes. -/
def gridDocument (n : Number) (originFields comments : List (String × Json)) : Json :=
  let attributes := .object [
    ("origin", .object (originFields ++ [("type", .string origin.text)])),
    ("rows", .array [.array [.number n]])]
  .object ([("attributes", attributes)] ++ comments ++ [("type", .string grid.text)])

end Sample

/-- An integer in a row becomes a double, one by the bits of 1.0, comments are dropped, and the
origin is given the attributes that it left out. -/
theorem Instance.render_synthesize_grid :
    (Sample.gridDocument (.ofNat 1) [] [("note", .null)]).Ordered ∧
      ∃ a, synthesize Sample.grids (Sample.gridDocument (.ofNat 1) [] [("note", .null)]) = .ok a ∧
        a.render Sample.grids = .ok (Sample.gridDocument
          (.float ⟨false, 0x3FF0000000000000, by decide⟩ (by decide))
          [("attributes", .object [])] []) := by
  have ordered : (Sample.gridDocument (.ofNat 1) [] [("note", .null)]).Ordered := by
    simp only [Sample.gridDocument, Json.Ordered, Json.OrderedFields, Json.OrderedItems,
      List.nil_append, List.cons_append]
    decide
  have one : (Number.ofNat 1).asDouble =
      .float ⟨false, 0x3FF0000000000000, by decide⟩ (by decide) := by decide +kernel
  rw [← one]
  refine ⟨ordered, _, rfl, ?_⟩
  exact (render_synthesize ordered rfl).1

end AnnotationContainers
