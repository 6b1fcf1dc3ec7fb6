import AnnotationContainers.Proofs.Chain.Configuration
import AnnotationContainers.Proofs.Instance.Containment
import AnnotationContainers.Proofs.Registry.Listing
import AnnotationContainers.Proofs.Report.Elements

/-! # Checks and resolutions agree

Both begin with the metadata alone: the registry, and the mappings checked against it. The base
strategy plays no part in this, so that a fault found by a check is the fault of every resolution,
and a resolution of checked metadata fails over its instance only: over its document, or over the
`value` that is read.
-/

namespace AnnotationContainers

open Outcomes Instance

theorem Chain.Built.wellTyped {chain : Chain} (built : chain.Built) {r : Registry} {document : Json}
    {a : Instance} (synthesized : synthesize r document = .ok a)
    {repeated : Option (List Instance)} (found : (chain.resolve r a .empty).1 = .ok repeated) :
    ∀ x ∈ repeated.getD [], WellTyped r x := by
  rcases built.elements (synthesize_eq_ok_iff.1 synthesized) found with
    rfl | ⟨xs, items, rfl, -, each⟩
  · nofun
  · clear found
    rw [Option.getD_some]
    induction each with
    | nil => nofun
    | cons head _ ih => exact List.forall_mem_cons.2 ⟨head.wellTyped, ih⟩

namespace Metadata

variable {metadata : Metadata} {base : Option BaseStrategy} {r : Registry} {chain : Chain}
  {document : Json} {failure : Failure}

/-- The registry and the accepted mappings, to which the base strategy makes no difference. -/
def accepted (metadata : Metadata) : Except Failure (Registry × List Mapping) := do
  let r ← metadata.registry.mapError .types
  let mappings ← (metadata.containers.mappings.mapM (MappingDecl.mapping r)).mapError .containers
  return (r, mappings)

theorem accepted_eq_ok_iff {mappings : List Mapping} :
    metadata.accepted = .ok (r, mappings) ↔
      metadata.registry = .ok r ∧
        metadata.containers.mappings.mapM (MappingDecl.mapping r) = .ok mappings := by
  simp only [accepted, bind_eq_ok_iff, mapError_eq_ok_iff, pure, Except.pure, Except.ok.injEq,
    Prod.mk.injEq]
  constructor
  · rintro ⟨_, registered, _, success, rfl, rfl⟩
    exact ⟨registered, success⟩
  · rintro ⟨registered, success⟩
    exact ⟨r, registered, mappings, success, rfl, rfl⟩

theorem setup_eq (metadata : Metadata) (base : Option BaseStrategy) :
    metadata.setup base = (fun (r, mappings) =>
      (r, (base.getD metadata.containers.base).chain.withMappings mappings)) <$>
        metadata.accepted := by
  rw [setup, accepted]
  cases metadata.registry with
  | error fault => rfl
  | ok r =>
    simp only [ContainerConfig.chain_eq, Except.mapError, bind, Except.bind]
    cases metadata.containers.mappings.mapM (MappingDecl.mapping r) <;> rfl

theorem error_of_accepted (failed : metadata.accepted = .error failure) :
    (∃ cause, failure = .types cause ∧ metadata.registry = .error cause) ∨
      ∃ cause, failure = .containers cause ∧ ∃ r, metadata.registry = .ok r := by
  rcases bind_eq_error_iff.1 failed with failed | ⟨r, registered, failed⟩
  · obtain ⟨cause, refused, rfl⟩ := mapError_eq_error_iff.1 failed
    exact .inl ⟨cause, rfl, refused⟩
  rcases bind_eq_error_iff.1 failed with failed | ⟨mappings, -, failed⟩
  · obtain ⟨cause, -, rfl⟩ := mapError_eq_error_iff.1 failed
    exact .inr ⟨cause, rfl, r, mapError_eq_ok_iff.1 registered⟩
  · cases failed

theorem setup_error (failed : metadata.setup base = .error failure) (other : Option BaseStrategy) :
    metadata.setup other = .error failure := by
  rw [setup_eq, map_eq_error_iff] at failed ⊢
  exact failed

theorem exists_setup (ready : metadata.setup base = .ok (r, chain)) (other : Option BaseStrategy) :
    ∃ chain, metadata.setup other = .ok (r, chain) := by
  rw [setup_eq, map_eq_ok_iff] at ready
  obtain ⟨⟨s, mappings⟩, outcome, same⟩ := ready
  cases same
  exact ⟨_, by rw [setup_eq, outcome]; rfl⟩

theorem registry_of_setup (ready : metadata.setup base = .ok (r, chain)) :
    metadata.registry = .ok r := by
  rw [setup_eq, map_eq_ok_iff] at ready
  obtain ⟨⟨s, mappings⟩, success, same⟩ := ready
  cases same
  exact (accepted_eq_ok_iff.1 success).1

theorem built_of_setup (ready : metadata.setup base = .ok (r, chain)) : chain.Built := by
  rcases metadata.setup_cases base with ⟨failure, failed, -⟩ | ⟨s, other, -, built, same⟩
  · cases failed.symm.trans ready
  · cases same.symm.trans ready
    exact built

/-- The report on an instance in which the chain with this text has found `found`. -/
def reported (r : Registry) (text : String) (a : Instance)
    (found : Except ReadError (Option (List Instance))) : Except Failure ResolveReport := do
  let repeated ← found.mapError .reading
  let elements ← ((repeated.getD []).mapM (render r)).mapError .rendering
  return {
    type := a.type
    chain := text
    container := repeated.isSome
    elements }

theorem resolve_of_setup (ready : metadata.setup base = .ok (r, chain)) (document : Json) :
    metadata.resolve document base = (do
      let a ← (synthesize r document).mapError .synthesis
      reported r chain.text a (chain.resolve r a .empty).1) := by
  rw [resolve, ready]
  rfl

theorem resolve_of_synthesized (ready : metadata.setup base = .ok (r, chain)) {a : Instance}
    (synthesized : synthesize r document = .ok a) :
    metadata.resolve document base = reported r chain.text a (chain.resolve r a .empty).1 := by
  rw [resolve_of_setup ready, synthesized]
  rfl

/-- The text of the chain is all that a report shows of it. -/
theorem reported_text (text other : String) (a : Instance)
    (found : Except ReadError (Option (List Instance))) :
    reported r other a found =
      (fun report => { report with chain := other }) <$> reported r text a found := by
  cases found with
  | error fault => rfl
  | ok repeated =>
    simp only [reported, Except.mapError, ok_bind]
    cases (repeated.getD []).mapM (render r) <;> rfl

theorem chain_of_reported {text : String} {a : Instance}
    {found : Except ReadError (Option (List Instance))} {report : ResolveReport}
    (success : reported r text a found = .ok report) : report.chain = text := by
  rw [reported_text text text] at success
  obtain ⟨_, -, rfl⟩ := map_eq_ok_iff.1 success
  rfl

theorem reported_congr {s : Registry} (contained : r.ContainedIn s) (text : String) (x : Instance)
    {found : Except ReadError (Option (List Instance))}
    (typed : ∀ repeated, found = .ok repeated → ∀ y ∈ repeated.getD [], WellTyped r y) :
    reported s text x found = reported r text x found := by
  cases found with
  | error fault => rfl
  | ok repeated =>
    have rendered : (repeated.getD []).mapM (render s) = (repeated.getD []).mapM (render r) :=
      mapM_congr fun y member => (typed repeated rfl y member).render_eq contained
    simp only [reported, Except.mapError, bind, Except.bind, rendered]

/-- Once the metadata has been accepted, only the document and the read of its instance can fail. -/
theorem failure_of_setup (ready : metadata.setup base = .ok (r, chain))
    (failed : metadata.resolve document base = .error failure) :
    (∃ cause, failure = .synthesis cause) ∨ ∃ cause, failure = .reading cause := by
  rw [resolve_of_setup ready] at failed
  rcases bind_eq_error_iff.1 failed with failed | ⟨a, synthesized, failed⟩
  · obtain ⟨cause, -, rfl⟩ := mapError_eq_error_iff.1 failed
    exact .inl ⟨cause, rfl⟩
  rcases bind_eq_error_iff.1 failed with failed | ⟨repeated, found, failed⟩
  · obtain ⟨cause, -, rfl⟩ := mapError_eq_error_iff.1 failed
    exact .inr ⟨cause, rfl⟩
  have typed := (built_of_setup ready).wellTyped (mapError_eq_ok_iff.1 synthesized)
    (mapError_eq_ok_iff.1 found)
  obtain ⟨elements, rendered⟩ : ∃ elements, (repeated.getD []).mapM (render r) = .ok elements :=
    exists_mapM_eq_ok_iff.2 fun x member => by
      obtain ⟨json, success, -⟩ := (typed x member).rendered
      exact ⟨json, success⟩
  rw [rendered] at failed
  cases failed

theorem setup_of_check_eq_error (h : metadata.check = .error failure) :
    metadata.setup none = .error failure := by
  rcases bind_eq_error_iff.1 h with failed | ⟨found, -, h⟩
  · exact failed
  · cases h

/-- The types that a check reports are those of the registry that declare a container. -/
theorem of_check_eq_ok {report : CheckReport} (h : metadata.check = .ok report) :
    ∃ r chain, metadata.setup none = .ok (r, chain) ∧ report.types = r.types.length ∧
      report.repeatable = (r.types.filter (·.isRepeatable)).map (·.id) ∧
      report.chain = chain.text := by
  rw [check, bind_eq_ok_iff] at h
  obtain ⟨⟨r, chain⟩, ready, same⟩ := h
  cases same
  exact ⟨r, chain, ready, rfl, rfl, rfl⟩

/-- What fails a check fails every resolution in the same way, whatever the instance. After a check
that succeeds a resolution fails over its instance only, and it reports the chain that the check
reports. The check counts the types and names the repeatable ones in ascending order, each once. To
replace the base strategy in a resolution is to replace it in the metadata. -/
theorem check_agrees_resolve (metadata : Metadata) :
    (∀ failure, metadata.check = .error failure →
        ∀ document base, metadata.resolve document base = .error failure) ∧
      (∀ report, metadata.check = .ok report →
        (∀ document base failure, metadata.resolve document base = .error failure →
          failure.context = "invalid annotation" ∨
            failure.context = "failed to read container attributes") ∧
        (∀ document resolved, metadata.resolve document none = .ok resolved →
          resolved.chain = report.chain) ∧
        report.types = metadata.types.length ∧
        report.repeatable.Pairwise (· < ·) ∧
        ∀ id, id ∈ report.repeatable ↔
          ∃ decl ∈ metadata.types, decl.id = id ∧ decl.container.isSome) ∧
      ∀ document base, metadata.resolve document (some base) =
        { metadata with containers := { metadata.containers with base := base } }.resolve
          document none := by
  refine ⟨?_, ?_, fun document base => rfl⟩
  · intro failure failed document base
    rw [resolve, setup_error (setup_of_check_eq_error failed) base]
    rfl
  · intro report checked
    obtain ⟨r, chain, ready, types, repeatable, text⟩ := of_check_eq_ok checked
    have perm : r.types.Perm metadata.types :=
      Registry.perm_of_ofList_eq_ok (registry_of_setup ready)
    refine ⟨?_, ?_, types.trans perm.length_eq, ?_, ?_⟩
    · intro document base failure failed
      obtain ⟨based, readyHere⟩ := exists_setup ready base
      rcases failure_of_setup readyHere failed with ⟨cause, rfl⟩ | ⟨cause, rfl⟩
      · exact .inl rfl
      · exact .inr rfl
    · intro document resolved success
      obtain ⟨⟨s, other⟩, again, success⟩ := bind_eq_ok_iff.1 success
      cases ready.symm.trans again
      obtain ⟨a, -, success⟩ := bind_eq_ok_iff.1 success
      obtain ⟨repeated, -, success⟩ := bind_eq_ok_iff.1 success
      obtain ⟨elements, -, same⟩ := bind_eq_ok_iff.1 success
      cases same
      exact text.symm
    · rw [repeatable, List.pairwise_map]
      exact r.ascending.filter _
    · intro id
      rw [repeatable]
      simp only [List.mem_map, List.mem_filter, perm.mem_iff, TypeDecl.isRepeatable]
      apply exists_congr
      intro decl
      rw [and_assoc, and_comm (a := decl.id = id)]

end Metadata

/-- Readings are gathered in a container, but the container is not gathered in one itself. -/
def Sample.misconfigured : Metadata :=
  { metadata with containers := { mappings := [{ repeatable := readings }] } }

/-- A mapping without a container fails the check, and the resolution of what is no document. -/
theorem Metadata.check_agrees_resolve_readings :
    (Sample.misconfigured.check = .error (.containers (.notRepeatable Sample.readings)) ∧
        Sample.misconfigured.resolve .null (some .disabled) =
          .error (.containers (.notRepeatable Sample.readings))) ∧
      ∃ report, Sample.metadata.check = .ok report ∧ report.types = 2 ∧
        Sample.reading ∈ report.repeatable := by
  have refused : Sample.misconfigured.check =
      .error (.containers (.notRepeatable Sample.readings)) := rfl
  obtain ⟨report, checked⟩ : ∃ report, Sample.metadata.check = .ok report := ⟨_, rfl⟩
  obtain ⟨-, -, types, -, repeatable⟩ := (check_agrees_resolve Sample.metadata).2.1 report checked
  exact ⟨⟨refused, (check_agrees_resolve Sample.misconfigured).1 _ refused _ _⟩, report, checked,
    types, (repeatable Sample.reading).2 ⟨_, List.mem_cons_self, rfl, rfl⟩⟩

end AnnotationContainers
