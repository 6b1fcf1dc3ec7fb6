import AnnotationContainers.Proofs.Chain.Recognition
import Mathlib.Data.List.Induction

/-! # Histories of chains

A history is a sequence of constructor calls, each against a registry of its own and each free to
extend any chain made before it. The chains of all histories are the built ones. Every one of them
is a list of mappings over at most one root, and every mapping is valid in the registry against
which it was made; resolution relies on this and never checks it again.
-/

namespace AnnotationContainers

open Outcomes

namespace Chain

inductive Construction where
  | standard
  | disabled
  | of (r : Registry) (repeatable : TypeId) (container : Option TypeId)
  /-- Extend a chain made before, `0` being the first that was made. -/
  | extend (base : Nat) (r : Registry) (container repeatable : TypeId)
  | configured (r : Registry) (config : ContainerConfig)

namespace Construction

/-- What a call comes to when the chains `made` are there; `none` if it would extend one that is
not. -/
def perform (made : List Made) : Construction → Option (Except ConfigError Made)
  | .standard => some (.ok ⟨.standard, []⟩)
  | .disabled => some (.ok ⟨.disabled, []⟩)
  | .of r repeatable container => some do
    let chain ← Chain.of r repeatable container
    return ⟨chain, [r]⟩
  | .extend base r container repeatable => do
    let base ← made[base]?
    return do
      let chain ← base.chain.extend r repeatable (some container)
      return ⟨chain, r :: base.registries⟩
  | .configured r config => some do
    let chain ← config.chain r
    return ⟨chain, List.replicate config.mappings.length r⟩

def after (made : List Made) (call : Construction) : List Made :=
  match call.perform made with
  | some (.ok next) => made ++ [next]
  | _ => made

def run (calls : List Construction) : List Made := calls.foldl after []

variable {made : List Made} {call : Construction} {next : Made}

theorem after_of_perform (h : call.perform made = some (.ok next)) :
    after made call = made ++ [next] := by
  rw [after, h]

theorem after_of_error {fault : ConfigError} (h : call.perform made = some (.error fault)) :
    after made call = made := by
  rw [after, h]

theorem run_concat (calls : List Construction) (call : Construction) :
    run (calls ++ [call]) = after (run calls) call := by
  rw [run, List.foldl_append]
  rfl

theorem of_perform_eq_ok (h : call.perform made = some (.ok next)) :
    match call with
    | .standard => next = ⟨.standard, []⟩
    | .disabled => next = ⟨.disabled, []⟩
    | .of r repeatable container =>
      Chain.of r repeatable container = .ok next.chain ∧ next.registries = [r]
    | .extend _ r container repeatable => ∃ base ∈ made,
      base.chain.extend r repeatable (some container) = .ok next.chain ∧
        next.registries = r :: base.registries
    | .configured r config => config.chain r = .ok next.chain ∧
      next.registries = List.replicate config.mappings.length r := by
  cases call with
  | standard | disabled =>
    cases h
    rfl
  | of r repeatable container | configured r config =>
    obtain ⟨chain, accepted, same⟩ := bind_eq_ok_iff.1 (Option.some.inj h)
    cases same
    exact ⟨accepted, rfl⟩
  | extend index r container repeatable =>
    obtain ⟨base, there, h⟩ := Option.bind_eq_some_iff.1 h
    obtain ⟨chain, accepted, same⟩ := bind_eq_ok_iff.1 (Option.some.inj h)
    cases same
    exact ⟨base, List.mem_of_getElem? there, accepted, rfl⟩

/-- What holds of the roots, and is kept when a mapping that some registry accepts comes first,
holds of what a call makes if it holds of the chains that are there. -/
theorem perform_induction {P : Made → Prop} (root : ∀ base : BaseStrategy, P ⟨base.chain, []⟩)
    (single : ∀ {r repeatable container mapping}, Mapping.of r repeatable container = .ok mapping →
      P ⟨⟨.explicit mapping, []⟩, [r]⟩)
    (extend : ∀ base : Made, ∀ {r repeatable container mapping},
      Mapping.of r repeatable container = .ok mapping → P base → P (base.withMapping r mapping))
    (before : ∀ base ∈ made, P base) (h : call.perform made = some (.ok next)) : P next := by
  have done := of_perform_eq_ok h
  obtain ⟨chain, registries⟩ := next
  cases call with
  | standard =>
    cases done
    exact root .standard
  | disabled =>
    cases done
    exact root .disabled
  | of r repeatable container =>
    obtain ⟨accepted, rfl⟩ := done
    obtain ⟨mapping, valid, rfl⟩ := of_eq_ok_iff.1 accepted
    exact single valid
  | extend _ r container repeatable =>
    obtain ⟨base, there, accepted, rfl⟩ := done
    obtain ⟨mapping, valid, rfl⟩ := extend_eq_ok_iff.1 accepted
    exact extend base valid (before base there)
  | configured r config =>
    obtain ⟨accepted, rfl⟩ := done
    have whole := configured_induction (fun base => extend base) config.mappings
      ⟨config.base.chain, []⟩ (root config.base) accepted
    rwa [List.append_nil] at whole

theorem run_induction {P : Made → Prop}
    (step : ∀ (made : List Made) (call : Construction) (next : Made), (∀ base ∈ made, P base) →
      call.perform made = some (.ok next) → P next)
    (calls : List Construction) : ∀ made ∈ run calls, P made := by
  induction calls using List.reverseRecOn with
  | nil => nofun
  | append_singleton calls call ih =>
    rw [run_concat, after]
    split
    next next performed =>
      simp only [List.mem_append, List.mem_singleton]
      rintro made (earlier | rfl)
      · exact ih made earlier
      · exact step (run calls) call made ih performed
    next => exact ih

end Construction

/-- Mappings that are valid in their registries, over at most one root. The root is the last
strategy; where there is none, the last strategy is a mapping. -/
def Made.WellFormed (made : Made) : Prop :=
  ∃ (mappings : List Mapping) (root : Option BaseStrategy),
    made.chain.strategies = mappings.map .explicit ++ root.elim [] (·.chain.strategies) ∧
      (root = none → mappings ≠ []) ∧ List.Forall₂ Mapping.ValidIn mappings made.registries

namespace Made.WellFormed

variable {made : Made} {r : Registry} {mapping : Mapping}

theorem withMapping (wellFormed : made.WellFormed) (valid : mapping.ValidIn r) :
    (made.withMapping r mapping).WellFormed := by
  obtain ⟨mappings, root, strategies, -, each⟩ := wellFormed
  refine ⟨mapping :: mappings, root, ?_, fun _ => List.cons_ne_nil _ _, .cons valid each⟩
  simp only [Made.withMapping, Chain.strategies, List.map_cons, List.cons_append] at strategies ⊢
  rw [strategies]

theorem validIn (wellFormed : made.WellFormed) (against : ∀ s ∈ made.registries, s = r)
    (member : .explicit mapping ∈ made.chain.strategies) : mapping.ValidIn r := by
  obtain ⟨mappings, root, strategies, -, each⟩ := wellFormed
  have listed : mapping ∈ mappings := by
    rw [strategies, List.mem_append] at member
    rcases member with member | member
    · simpa using member
    · cases root with
      | none => cases member
      | some root => cases root <;> simp [BaseStrategy.chain, Chain.standard, Chain.disabled,
          Chain.strategies] at member
  clear member strategies
  generalize made.registries = registries at each against
  induction each with
  | nil => cases listed
  | cons valid _ ih =>
    obtain ⟨rfl, others⟩ := List.forall_mem_cons.1 against
    rcases List.mem_cons.1 listed with rfl | listed
    · exact valid
    · exact ih listed others

end Made.WellFormed

namespace Construction

variable {made : Made}

theorem mem_run_concat (calls : List Construction) (call : Construction) {next : Made}
    (performed : call.perform (run calls) = some (.ok next)) : next ∈ run (calls ++ [call]) := by
  rw [run_concat, after_of_perform performed]
  exact List.mem_concat_self

theorem built_of_mem_run {calls : List Construction} (member : made ∈ run calls) :
    made.chain.Built := by
  refine run_induction (P := (·.chain.Built)) ?_ calls made member
  intro made call next before performed
  have done := of_perform_eq_ok performed
  cases call with
  | standard => exact done ▸ .standard
  | disabled => exact done ▸ .disabled
  | of => exact .of done.1
  | extend =>
    obtain ⟨base, there, accepted, -⟩ := done
    exact .extend (before base there) accepted
  | configured => exact .configured done.1

/-- The chains of all histories are the built ones. -/
theorem built_iff_mem_run {chain : Chain} :
    chain.Built ↔ ∃ calls, ∃ made ∈ run calls, made.chain = chain := by
  constructor
  · intro built
    induction built with
    | standard => exact ⟨_, ⟨_, []⟩, mem_run_concat [] .standard rfl, rfl⟩
    | disabled => exact ⟨_, ⟨_, []⟩, mem_run_concat [] .disabled rfl, rfl⟩
    | @of r repeatable container chain accepted =>
      refine ⟨_, ⟨chain, [r]⟩, mem_run_concat [] (.of r repeatable container) ?_, rfl⟩
      rw [perform, accepted]
      rfl
    | @extend base chain r container repeatable _ accepted ih =>
      obtain ⟨calls, made, member, rfl⟩ := ih
      obtain ⟨index, there⟩ := List.getElem?_of_mem member
      refine ⟨_, ⟨chain, r :: made.registries⟩,
        mem_run_concat calls (.extend index r container repeatable) ?_, rfl⟩
      rw [perform, there, Option.bind_eq_bind, Option.bind_some, accepted]
      rfl
    | @configured config r chain accepted =>
      refine ⟨_, ⟨chain, List.replicate config.mappings.length r⟩,
        mem_run_concat [] (.configured r config) ?_, rfl⟩
      rw [perform, accepted]
      rfl
  · rintro ⟨calls, made, member, rfl⟩
    exact built_of_mem_run member

theorem wellFormed_of_mem_run {calls : List Construction} (member : made ∈ run calls) :
    made.WellFormed := by
  refine run_induction (P := Made.WellFormed) ?_ calls made member
  intro made call next before performed
  refine perform_induction ?_ ?_ ?_ before performed
  · intro base
    exact ⟨[], some base, rfl, nofun, .nil⟩
  · intro r repeatable container mapping accepted
    exact ⟨[mapping], none, rfl, fun _ => List.cons_ne_nil _ _,
      .cons (Mapping.validIn_of_of accepted) .nil⟩
  · intro base r repeatable container mapping accepted wellFormed
    exact wellFormed.withMapping (Mapping.validIn_of_of accepted)

/-- Every chain of a history is well-formed, whatever registries the calls were made against, and a
call that fails makes no chain. -/
theorem run_wellFormed (calls : List Construction) :
    (∀ made ∈ run calls, made.WellFormed) ∧
      ∀ (call : Construction) (fault : ConfigError),
        call.perform (run calls) = some (.error fault) → run (calls ++ [call]) = run calls := by
  refine ⟨fun made => wellFormed_of_mem_run, fun call fault failed => ?_⟩
  rw [run_concat, after_of_error failed]

end Construction

end Chain

namespace Sample

def bundles : TypeId := ⟨"a.Bundles", by decide⟩

/-- Another registry, in which tags are gathered in bundles. -/
def bundling : Registry where
  types := [
    { id := bundles, attributes := [⟨⟨"size", by decide⟩, .integer⟩, .valueOf tag] },
    { id := tag, container := some bundles }]
  ascending := by decide
  distinct := by decide

/-- Containers of two registries are mapped one after the other. -/
def history : List Chain.Construction :=
  [.standard, .extend 0 registry tags tag, .of bundling tag none, .extend 1 bundling bundles tag]

end Sample

/-- The last chain of a history that spans two registries. A further call would map tags as their
own container, and fails. -/
theorem Chain.Construction.run_wellFormed_history :
    (∃ made ∈ run Sample.history, made.registries = [Sample.bundling, Sample.registry] ∧
      made.WellFormed) ∧
      perform (run Sample.history) (.extend 3 Sample.registry Sample.tag Sample.tag) =
        some (.error (.valueMismatch Sample.tag Sample.tag)) ∧
      run (Sample.history ++ [.extend 3 Sample.registry Sample.tag Sample.tag]) =
        run Sample.history := by
  obtain ⟨wellFormed, failed⟩ := run_wellFormed Sample.history
  have last : ⟨_, [Sample.bundling, Sample.registry]⟩ ∈ run Sample.history :=
    List.mem_of_getElem? (show (run Sample.history)[3]? = some _ from rfl)
  exact ⟨⟨_, last, rfl, wellFormed _ last⟩, rfl, failed _ _ rfl⟩

end AnnotationContainers
