import AnnotationContainers.Proofs.Report.Agreement

/-! # The order of declarations

Metadata may list its types, the attributes and supertypes of each of them, and its mappings in any
order. Two orders of the same types give registries that contain each other, and two orders of the
same mappings give chains that recognise the same types; the answer for a document is then the same.
Only the fault that a refusal reports, and the text of the chain, tell the orders apart.
-/

namespace AnnotationContainers

open Outcomes Instance

/-- The same metadata, up to the order of the types, of the attributes and supertypes of each type,
and of the mappings. -/
structure Metadata.Reordered (a b : Metadata) : Prop where
  types : ∃ types, a.types.Perm types ∧ List.Forall₂ TypeDecl.Reordered types b.types
  base : b.containers.base = a.containers.base
  mappings : a.containers.mappings.Perm b.containers.mappings

namespace Metadata

variable {a b : Metadata} {base : Option BaseStrategy} {r s : Registry}
  {mappings : List Mapping}

namespace Reordered

theorem symm (h : a.Reordered b) : b.Reordered a := by
  obtain ⟨⟨types, perm, each⟩, base, mappings⟩ := h
  obtain ⟨others, eachOther, permOther⟩ := List.perm_comp_forall₂ perm each
  refine ⟨⟨others, permOther.symm, ?_⟩, base.symm, mappings.symm⟩
  exact eachOther.flip.imp fun _ _ => TypeDecl.Reordered.symm

theorem exists_mem (h : a.Reordered b) {decl : TypeDecl} (member : decl ∈ a.types) :
    ∃ other ∈ b.types, decl.Reordered other := by
  obtain ⟨types, perm, each⟩ := h.types
  exact exists_of_mem_of_forall₂ each (perm.mem_iff.1 member)

theorem ids_perm (h : a.Reordered b) : (a.types.map (·.id)).Perm (b.types.map (·.id)) := by
  obtain ⟨types, perm, each⟩ := h.types
  have same : types.map (·.id) = b.types.map (·.id) := by
    rw [← List.forall₂_eq_eq_eq, List.forall₂_map_left_iff, List.forall₂_map_right_iff]
    exact each.imp fun _ _ reordered => reordered.id.symm
  rw [← same]
  exact perm.map TypeDecl.id

theorem exists_registry (h : a.Reordered b) (registered : a.registry = .ok r) :
    ∃ s, b.registry = .ok s := by
  obtain ⟨ids, distinct⟩ := Registry.exists_ofList_eq_ok_iff.1 ⟨r, registered⟩
  refine Registry.exists_ofList_eq_ok_iff.2 ⟨h.ids_perm.nodup_iff.1 ids, fun other member => ?_⟩
  obtain ⟨decl, memberDecl, reordered⟩ := h.symm.exists_mem member
  exact reordered.attributeNames.nodup_iff.2 (distinct decl memberDecl)

theorem containedIn (h : a.Reordered b) (registered : a.registry = .ok r)
    (registeredOther : b.registry = .ok s) : r.ContainedIn s := by
  intro id decl found
  obtain ⟨member, rfl⟩ := Registry.get?_eq_some_iff.1 found
  obtain ⟨other, memberOther, reordered⟩ :=
    h.exists_mem ((Registry.perm_of_ofList_eq_ok registered).mem_iff.1 member)
  refine ⟨other, Registry.get?_eq_some_iff.2 ⟨?_, reordered.id⟩, reordered⟩
  exact (Registry.perm_of_ofList_eq_ok registeredOther).mem_iff.2 memberOther

/-- What is accepted in one order is accepted in the other, mapping by mapping. -/
theorem accepted (h : a.Reordered b) (success : a.accepted = .ok (r, mappings)) :
    ∃ s others, b.accepted = .ok (s, others) ∧ r.ContainedIn s ∧ s.ContainedIn r ∧
      mappings.Perm others ∧
      (a.containers.mappings = b.containers.mappings → others = mappings) := by
  obtain ⟨registered, checked⟩ := accepted_eq_ok_iff.1 success
  obtain ⟨s, registeredOther⟩ := h.exists_registry registered
  have contained := h.containedIn registered registeredOther
  have each : List.Forall₂ (fun decl mapping => decl.mapping s = .ok mapping)
      a.containers.mappings mappings :=
    (mapM_eq_ok_iff.1 checked).imp fun _ _ => contained.mapping
  obtain ⟨others, eachOther, perm⟩ := List.perm_comp_forall₂ h.mappings.symm each
  have checkedOther := mapM_eq_ok_iff.2 eachOther
  refine ⟨s, others, accepted_eq_ok_iff.2 ⟨registeredOther, checkedOther⟩, contained,
    h.symm.containedIn registeredOther registered, perm.symm, fun same => ?_⟩
  rw [← same, mapM_eq_ok_iff.2 each] at checkedOther
  exact (Except.ok.inj checkedOther).symm

theorem accepted_error (h : a.Reordered b) {failure : Failure}
    (failed : a.accepted = .error failure) :
    ∃ other, b.accepted = .error other ∧ other.context = failure.context := by
  cases outcome : b.accepted with
  | ok found =>
    obtain ⟨r, mappings, success, -⟩ := h.symm.accepted outcome
    cases failed.symm.trans success
  | error other =>
    refine ⟨other, rfl, ?_⟩
    rcases error_of_accepted failed with ⟨cause, rfl, refused⟩ | ⟨cause, rfl, r, registered⟩ <;>
      rcases error_of_accepted outcome with ⟨causeOther, rfl, refusedOther⟩ |
        ⟨causeOther, rfl, s, registeredOther⟩
    · rfl
    · obtain ⟨r, registered⟩ := h.symm.exists_registry registeredOther
      cases refused.symm.trans registered
    · obtain ⟨s, registeredOther⟩ := h.exists_registry registered
      cases refusedOther.symm.trans registeredOther
    · rfl

theorem setup (h : a.Reordered b) {chain : Chain} (ready : a.setup base = .ok (r, chain)) :
    ∃ s other, b.setup base = .ok (s, other) ∧ r.ContainedIn s ∧ s.ContainedIn r ∧
      (∀ strategy, strategy ∈ other.strategies ↔ strategy ∈ chain.strategies) ∧
      (a.containers.mappings = b.containers.mappings → other = chain) := by
  rw [setup_eq, map_eq_ok_iff] at ready
  obtain ⟨⟨r, mappings⟩, success, same⟩ := ready
  cases same
  obtain ⟨s, others, successOther, contained, containing, perm, unmoved⟩ := h.accepted success
  refine ⟨s, (base.getD a.containers.base).chain.withMappings others, ?_, contained, containing,
    fun strategy => ?_, fun same => ?_⟩
  · rw [setup_eq, successOther, h.base]
    rfl
  · simp only [Chain.strategies_withMappings, List.mem_append, List.mem_map, List.mem_reverse,
      perm.mem_iff]
  · rw [unmoved same]

theorem setup_error (h : a.Reordered b) {failure : Failure}
    (failed : a.setup base = .error failure) :
    ∃ other, b.setup base = .error other ∧ other.context = failure.context := by
  rw [setup_eq, map_eq_error_iff] at failed
  obtain ⟨other, failedOther, context⟩ := h.accepted_error failed
  exact ⟨other, by rw [setup_eq, failedOther]; rfl, context⟩

end Reordered

/-- Registries that contain each other give the same answer by chains with the same strategies. -/
theorem resolve_congr (document : Json) {chain other : Chain}
    (ready : a.setup base = .ok (r, chain))
    (readyOther : b.setup base = .ok (s, other)) (contained : r.ContainedIn s)
    (containing : s.ContainedIn r)
    (same : ∀ strategy, strategy ∈ other.strategies ↔ strategy ∈ chain.strategies) :
    (∀ report, a.resolve document base = .ok report → report.chain = chain.text ∧
        b.resolve document base = .ok { report with chain := other.text }) ∧
      ∀ failure, a.resolve document base = .error failure →
        ∃ fault, b.resolve document base = .error fault ∧ fault.context = failure.context := by
  cases synthesized : synthesize r document with
  | error fault =>
    rw [resolve_of_setup ready, resolve_of_setup readyOther, synthesized]
    refine ⟨nofun, fun failure failed => ?_⟩
    cases failed
    cases synthesizedOther : synthesize s document with
    | error faultOther => exact ⟨.synthesis faultOther, rfl, rfl⟩
    | ok x => cases synthesized.symm.trans (containing.synthesize synthesizedOther).1
  | ok x =>
    have recognised : chain.RecognisesIn r x.type ↔ other.RecognisesIn s x.type :=
      ⟨.mono contained fun _ => (same _).2, .mono containing fun _ => (same _).1⟩
    have built := built_of_setup ready
    have found := built.resolve_congr (built_of_setup readyOther) recognised
    rw [resolve_of_synthesized readyOther (contained.synthesize synthesized).1,
      resolve_of_synthesized ready synthesized, ← found,
      reported_congr contained other.text x fun repeated => built.wellTyped synthesized,
      reported_text chain.text other.text]
    refine ⟨fun report success => ?_, fun failure failed => ?_⟩
    · rw [success]
      exact ⟨chain_of_reported success, rfl⟩
    · rw [failed]
      exact ⟨failure, rfl, rfl⟩

/-- Whatever the order in which metadata lists its types, the attributes and supertypes of each, and
its mappings, a document is resolved to the same report, or refused in the same stage. The text of
the chain alone shows the order of the mappings. -/
theorem resolve_reordered (reordered : a.Reordered b) (document : Json)
    (base : Option BaseStrategy) :
    (∀ report, a.resolve document base = .ok report →
        ∃ text, b.resolve document base = .ok { report with chain := text } ∧
          (a.containers.mappings = b.containers.mappings → text = report.chain)) ∧
      ∀ failure, a.resolve document base = .error failure →
        ∃ other, b.resolve document base = .error other ∧ other.context = failure.context := by
  cases ready : a.setup base with
  | error fault =>
    obtain ⟨other, failedOther, context⟩ := reordered.setup_error ready
    simp only [resolve, ready, failedOther]
    constructor
    · intro report success
      cases success
    · intro failure failed
      cases failed
      exact ⟨other, rfl, context⟩
  | ok found =>
    obtain ⟨r, chain⟩ := found
    obtain ⟨s, other, readyOther, contained, containing, strategies, unmoved⟩ :=
      reordered.setup ready
    obtain ⟨reports, failures⟩ :=
      resolve_congr document ready readyOther contained containing strategies
    refine ⟨fun report success => ?_, failures⟩
    obtain ⟨text, successOther⟩ := reports report success
    exact ⟨other.text, successOther, fun same => by rw [unmoved same, text]⟩

end Metadata

namespace Sample

def review : TypeId := ⟨"a.Review", by decide⟩
def reviews : TypeId := ⟨"a.Reviews", by decide⟩
def digest : TypeId := ⟨"a.Digest", by decide⟩

/-- Readings and reviews are gathered in containers of their own. A digest is a subtype of both
containers, and holds reviews. -/
def magazine : Metadata where
  types := metadata.types ++ [
    { id := review, container := some reviews,
      attributes := [⟨⟨"author", by decide⟩, .string⟩, ⟨⟨"stars", by decide⟩, .integer⟩] },
    { id := reviews, attributes := [.valueOf review] },
    { id := digest, attributes := [.valueOf review], supertypes := [reviews, readings] }]
  containers := { mappings := [{ repeatable := review }, { repeatable := reading }] }

/-- All that metadata lists, in the opposite order. -/
def reversed (metadata : Metadata) : Metadata where
  types := metadata.types.reverse.map fun decl =>
    { decl with attributes := decl.attributes.reverse, supertypes := decl.supertypes.reverse }
  containers := { metadata.containers with mappings := metadata.containers.mappings.reverse }

theorem reordered_reversed (metadata : Metadata) : metadata.Reordered (reversed metadata) where
  types := by
    refine ⟨metadata.types.reverse, (List.reverse_perm _).symm, ?_⟩
    rw [reversed, List.forall₂_map_right_iff, List.forall₂_same]
    intro decl _
    exact ⟨rfl, rfl, (List.reverse_perm _).symm, (List.reverse_perm _).symm⟩
  base := rfl
  mappings := (List.reverse_perm _).symm

def reviewDocument : Json :=
  .object [("attributes", .object [("author", .string "Ann"), ("stars", .number (.ofInt64 5))]),
    ("type", .string review.text)]

def digestDocument : Json :=
  .object [("attributes", .object [("value", .array [reviewDocument])]),
    ("type", .string digest.text)]

end Sample

/-- A digest is recognised by the mapping of readings or by that of reviews, whichever comes last,
and its reviews are reported all the same. -/
theorem Metadata.resolve_reordered_digest :
    Sample.magazine.Reordered (Sample.reversed Sample.magazine) ∧
      ∃ report text, Sample.magazine.resolve Sample.digestDocument none = .ok report ∧
        (Sample.reversed Sample.magazine).resolve Sample.digestDocument none =
          .ok { report with chain := text } ∧
        report.container = true ∧ report.elements = [Sample.reviewDocument] := by
  have reordered := Sample.reordered_reversed Sample.magazine
  obtain ⟨text, success, -⟩ := (resolve_reordered reordered Sample.digestDocument none).1 _ rfl
  exact ⟨reordered, _, text, rfl, success, rfl, rfl⟩

end AnnotationContainers
