import AnnotationContainers.Proofs.Report.Agreement

/-! # Further types

Metadata may gain types without losing an answer. The names that dangled before may then be those of
supertypes, containers and elements, so that more types are recognised, and the first strategy to
recognise one may be another. But what was accepted is accepted, and what was found is found.
-/

namespace AnnotationContainers

open Outcomes Instance

/-- The same containers, and all the types, unchanged, with any further ones. -/
structure Metadata.ExtendedBy (a b : Metadata) : Prop where
  types : a.types ⊆ b.types
  containers : b.containers = a.containers

variable {r s : Registry}

theorem Registry.containedIn_of_subset {types others : List TypeDecl}
    (registered : ofList types = .ok r) (registeredOthers : ofList others = .ok s)
    (included : types ⊆ others) : r.ContainedIn s := by
  intro id decl found
  obtain ⟨member, rfl⟩ := get?_eq_some_iff.1 found
  have listed := included ((perm_of_ofList_eq_ok registered).mem_iff.1 member)
  have memberOther := (perm_of_ofList_eq_ok registeredOthers).mem_iff.2 listed
  exact ⟨decl, get?_eq_some_iff.2 ⟨memberOther, rfl⟩, rfl, rfl, .refl _, .refl _⟩

namespace Registry.ContainedIn

theorem nativeAccess (contained : r.ContainedIn s) {id : TypeId} {accessor : AttrDecl}
    (eligible : r.nativeAccess id = .eligible accessor) :
    s.nativeAccess id = .eligible accessor := by
  obtain ⟨element, rfl, gathers⟩ := nativeAccess_eq_iff.1 eligible
  exact nativeAccess_eq_iff.2 ⟨element, rfl, gathers.mono contained⟩

theorem chain_of (contained : r.ContainedIn s) {repeatable : TypeId} {container : Option TypeId}
    {chain : Chain} (accepted : Chain.of r repeatable container = .ok chain) :
    Chain.of s repeatable container = .ok chain := by
  rw [Chain.of_eq_ok_iff] at accepted ⊢
  obtain ⟨mapping, valid, rfl⟩ := accepted
  exact ⟨mapping, contained.mapping valid, rfl⟩

theorem chain_extend (contained : r.ContainedIn s) {base chain : Chain} {repeatable : TypeId}
    {container : Option TypeId} (accepted : base.extend r repeatable container = .ok chain) :
    base.extend s repeatable container = .ok chain := by
  rw [Chain.extend_eq_ok_iff] at accepted ⊢
  obtain ⟨mapping, valid, rfl⟩ := accepted
  exact ⟨mapping, contained.mapping valid, rfl⟩

end Registry.ContainedIn

namespace Metadata

variable {a b : Metadata} {base : Option BaseStrategy} {chain : Chain} {document : Json}

/-- The mappings that were accepted are accepted among further types, and make the same chain. -/
theorem ExtendedBy.setup (extended : a.ExtendedBy b) (registered : b.registry = .ok s)
    (ready : a.setup base = .ok (r, chain)) :
    r.ContainedIn s ∧ b.setup base = .ok (s, chain) := by
  have contained : r.ContainedIn s :=
    Registry.containedIn_of_subset (registry_of_setup ready) registered extended.types
  refine ⟨contained, ?_⟩
  rw [setup_eq, map_eq_ok_iff] at ready ⊢
  obtain ⟨⟨r, mappings⟩, success, same⟩ := ready
  cases same
  obtain ⟨-, checked⟩ := accepted_eq_ok_iff.1 success
  refine ⟨(s, mappings), accepted_eq_ok_iff.2 ⟨registered, ?_⟩, ?_⟩
  · rw [extended.containers, mapM_eq_ok_iff] at *
    exact checked.imp fun _ _ => contained.mapping
  · rw [extended.containers]

/-- The outcome of a resolution in which the chain has recognised the instance: it is a container,
or its `value` cannot be read. -/
def Recognised : Except Failure ResolveReport → Prop
  | .ok report => report.container = true
  | .error failure => failure.context = "failed to read container attributes"

theorem exists_of_recognised (recognised : Recognised (a.resolve document base)) :
    ∃ r chain x, a.setup base = .ok (r, chain) ∧ synthesize r document = .ok x ∧
      chain.RecognisesIn r x.type := by
  cases ready : a.setup base with
  | error failure =>
    rw [resolve, ready] at recognised
    rw [setup_eq, map_eq_error_iff] at ready
    rcases error_of_accepted ready with ⟨cause, rfl, -⟩ | ⟨cause, rfl, -⟩ <;>
      simp [Recognised, bind, Except.bind, Failure.context] at recognised
  | ok found =>
    obtain ⟨r, chain⟩ := found
    cases synthesized : synthesize r document with
    | error fault =>
      rw [resolve_of_setup ready, synthesized] at recognised
      simp [Recognised, bind, Except.bind, Except.mapError, Failure.context] at recognised
    | ok x =>
      refine ⟨r, chain, x, rfl, synthesized, ?_⟩
      by_contra unrecognised
      have nothing := ((built_of_setup ready).resolve_cases (a := x) .empty rfl).2 unrecognised
      rw [resolve_of_synthesized ready synthesized, nothing] at recognised
      cases recognised

/-- What the chain recognises is resolved to the same among further types. -/
theorem ExtendedBy.resolve_eq (extended : a.ExtendedBy b) (registered : b.registry = .ok s)
    (recognised : Recognised (a.resolve document base)) :
    b.resolve document base = a.resolve document base := by
  obtain ⟨r, chain, x, ready, synthesized, recognises⟩ := exists_of_recognised recognised
  obtain ⟨contained, readyOther⟩ := extended.setup registered ready
  have built := built_of_setup ready
  have found : (chain.resolve r x .empty).1 = (chain.resolve s x .empty).1 :=
    built.resolve_congr built ⟨.mono contained (List.Subset.refl _), fun _ => recognises⟩
  rw [resolve_of_synthesized readyOther (contained.synthesize synthesized).1,
    resolve_of_synthesized ready synthesized, ← found]
  exact reported_congr contained chain.text x fun repeated => built.wellTyped synthesized

/-- Among further types a container is reported as before, and a container whose `value` cannot be
read fails as before. Whatever the metadata accepted it accepts still: documents give the same
instances and these the same documents, mappings give the same chains, and subtypes and native
containers remain what they are. -/
theorem resolve_extended (extended : a.ExtendedBy b) (registered : b.registry = .ok s) :
    (∀ document base report, a.resolve document base = .ok report → report.container = true →
        b.resolve document base = .ok report) ∧
      (∀ document base failure, a.resolve document base = .error failure →
        failure.context = "failed to read container attributes" →
          b.resolve document base = .error failure) ∧
      ∀ r, a.registry = .ok r →
        (∀ document x, synthesize r document = .ok x →
          synthesize s document = .ok x ∧ x.render s = x.render r) ∧
        (∀ repeatable container chain, Chain.of r repeatable container = .ok chain →
          Chain.of s repeatable container = .ok chain) ∧
        (∀ (base chain : Chain) repeatable container,
          base.extend r repeatable container = .ok chain →
            base.extend s repeatable container = .ok chain) ∧
        (∀ candidate target, r.isSubtype candidate target = true →
          s.isSubtype candidate target = true) ∧
        ∀ id accessor, r.nativeAccess id = .eligible accessor →
          s.nativeAccess id = .eligible accessor := by
  refine ⟨fun document base report success container => ?_,
    fun document base failure failed context => ?_, fun r registeredBefore => ?_⟩
  · have recognised : Recognised (a.resolve document base) := by
      rw [success]
      exact container
    rw [extended.resolve_eq registered recognised, success]
  · have recognised : Recognised (a.resolve document base) := by
      rw [failed]
      exact context
    rw [extended.resolve_eq registered recognised, failed]
  · have contained : r.ContainedIn s :=
      Registry.containedIn_of_subset registeredBefore registered extended.types
    exact ⟨fun _ _ => contained.synthesize, fun _ _ _ => contained.chain_of,
      fun _ _ _ _ => contained.chain_extend, fun _ _ => contained.isSubtype,
      fun _ _ => contained.nativeAccess⟩

end Metadata

namespace Sample

def photo : TypeId := ⟨"a.Photo", by decide⟩
def photos : TypeId := ⟨"a.Photos", by decide⟩
def journal : TypeId := ⟨"a.Journal", by decide⟩
def scrapbook : TypeId := ⟨"a.Scrapbook", by decide⟩
def poster : TypeId := ⟨"a.Poster", by decide⟩

def title : AttrDecl := ⟨⟨"title", by decide⟩, .string⟩

/-- Photos and readings are mapped to their containers. Journals are not declared, but scrapbooks
are journals of photos. A poster is a container without a `value`. -/
def album : Metadata where
  types := metadata.types ++ [
    { id := photo, container := some photos },
    { id := photos, attributes := [.valueOf photo] },
    { id := scrapbook, attributes := [title, .valueOf photo], supertypes := [journal, photos] },
    { id := poster, supertypes := [photos] }]
  containers := { mappings := [{ repeatable := photo }, { repeatable := reading }] }

/-- Journals are declared as containers of readings, which are looked for before photos. -/
def albumWithJournals : Metadata :=
  { album with types := { id := journal, supertypes := [readings] } :: album.types }

def scrapbookDocument : Json :=
  .object [("attributes", .object [("title", .string "2020"),
    ("value", .array [.object [("type", .string photo.text)]])]), ("type", .string scrapbook.text)]

def posterDocument : Json := .object [("type", .string poster.text)]

end Sample

/-- A scrapbook is recognised by another mapping once journals are declared, and is reported as
before. A poster fails as before. -/
theorem Metadata.resolve_extended_album :
    Sample.album.ExtendedBy Sample.albumWithJournals ∧
      (∃ s, Sample.albumWithJournals.registry = .ok s) ∧
      (∃ report, Sample.album.resolve Sample.scrapbookDocument none = .ok report ∧
        report.container = true ∧
        Sample.albumWithJournals.resolve Sample.scrapbookDocument none = .ok report) ∧
      Sample.albumWithJournals.resolve Sample.posterDocument none =
        .error (.reading (.missing Sample.poster .value)) := by
  have extended : Sample.album.ExtendedBy Sample.albumWithJournals :=
    ⟨List.subset_cons_self _ _, rfl⟩
  obtain ⟨s, registered⟩ : ∃ s, Sample.albumWithJournals.registry = .ok s := ⟨_, rfl⟩
  obtain ⟨reports, failures, -⟩ := resolve_extended extended registered
  refine ⟨extended, ⟨s, registered⟩, ⟨_, rfl, rfl, reports _ _ _ rfl rfl⟩, ?_⟩
  exact failures Sample.posterDocument none _ rfl rfl

end AnnotationContainers
