import AnnotationContainers.Proofs.Chain.Configuration
import AnnotationContainers.Proofs.Chain.Recognition
import AnnotationContainers.Proofs.Chain.Validation

/-! # Configured chains, mapping by mapping

A configuration stands for a chain that is extended by hand: the base strategy first, then one
mapping after the other, each with the container that it names or that its repeatable type declares.
Each mapping is accepted or refused as it is on its own, and every accepted one, also a repeated
one, is asked at its place.
-/

namespace AnnotationContainers

open Outcomes

variable {r : Registry} {decl : MappingDecl} {decls : List MappingDecl} {fault : ConfigError}

/-- Extend a chain by one mapping after the other, each given by its container and its repeatable
type. -/
def Chain.extendAll (base : Chain) (r : Registry) (pairs : List (TypeId × TypeId)) :
    Except ConfigError Chain :=
  pairs.foldlM (fun chain pair => chain.extend r pair.2 (some pair.1)) base

namespace MappingDecl

/-- The container and the repeatable type that a configured mapping stands for. -/
def StandsFor (r : Registry) (decl : MappingDecl) (pair : TypeId × TypeId) : Prop :=
  pair.2 = decl.repeatable ∧ r.Selects decl.repeatable decl.container pair.1

def Accepted (r : Registry) (decl : MappingDecl) : Prop :=
  ∃ single, Chain.of r decl.repeatable decl.container = .ok single

theorem accepted_iff : decl.Accepted r ↔ ∃ mapping, decl.mapping r = .ok mapping := by
  simp only [Accepted, Chain.of_eq_ok_iff, mapping]
  constructor
  · rintro ⟨-, mapping, valid, -⟩
    exact ⟨mapping, valid⟩
  · rintro ⟨mapping, valid⟩
    exact ⟨_, mapping, valid, rfl⟩

theorem mapping_eq_error_iff :
    decl.mapping r = .error fault ↔
      Chain.of r decl.repeatable decl.container = .error fault := by
  rw [Chain.of_eq_error_iff, mapping, Mapping.of_eq_error_iff]

theorem exists_standsFor {mapping : Mapping} (valid : decl.mapping r = .ok mapping) :
    ∃ pair, decl.StandsFor r pair ∧ mapping = ⟨pair.2, pair.1, .valueOf pair.2⟩ ∧
      Mapping.of r pair.2 (some pair.1) = .ok mapping := by
  obtain ⟨id, container, selected, registered, declared, rfl⟩ :=
    Mapping.of_eq_ok_iff_selects.1 valid
  obtain ⟨repeated, known, -⟩ := Registry.selects_iff.1 selected
  have given : r.Selects decl.repeatable (some id) id :=
    .given (Option.isSome_iff_exists.2 ⟨repeated, known⟩) id
  exact ⟨(id, decl.repeatable), ⟨rfl, selected⟩, rfl,
    Mapping.of_eq_ok_iff_selects.2 ⟨id, container, given, registered, declared, rfl⟩⟩

end MappingDecl

/-- Accepted mappings extend every chain as their pairs of types do, one by one. -/
theorem Chain.exists_extendAll {mappings : List Mapping}
    (valid : List.Forall₂ (fun decl mapping => MappingDecl.mapping r decl = .ok mapping) decls
      mappings) :
    ∃ pairs, List.Forall₂ (MappingDecl.StandsFor r) decls pairs ∧
      mappings = pairs.map (fun pair => ⟨pair.2, pair.1, .valueOf pair.2⟩) ∧
      ∀ base : Chain, base.extendAll r pairs = .ok (base.withMappings mappings) := by
  induction valid with
  | nil => exact ⟨[], .nil, rfl, fun base => rfl⟩
  | @cons decl mapping decls mappings head _ ih =>
    obtain ⟨pair, standsFor, same, spelled⟩ := MappingDecl.exists_standsFor head
    obtain ⟨pairs, each, sames, extended⟩ := ih
    refine ⟨pair :: pairs, .cons standsFor each, by rw [List.map_cons, ← same, ← sames],
      fun base => ?_⟩
    have first : base.extend r pair.2 (some pair.1) = .ok ⟨.explicit mapping, base.strategies⟩ :=
      extend_eq_ok_iff.2 ⟨mapping, spelled, rfl⟩
    rw [extendAll, List.foldlM_cons, first]
    exact extended _

namespace ContainerConfig

/-- A configuration is accepted exactly if each of its mappings is, on its own, and otherwise it is
refused as the first mapping is that is not. The chain asks the mappings from the last to the first,
every one of them, and the base strategy at last: it is the chain that extends the base by the
mappings in turn. Further mappings extend the chain of those before them. -/
theorem chain_mappings (config : ContainerConfig) (r : Registry) :
    ((∃ chain, config.chain r = .ok chain) ↔ ∀ decl ∈ config.mappings, decl.Accepted r) ∧
      (∀ fault, config.chain r = .error fault ↔
        ∃ before decl after, config.mappings = before ++ decl :: after ∧
          (∀ earlier ∈ before, earlier.Accepted r) ∧
          Chain.of r decl.repeatable decl.container = .error fault) ∧
      (∀ chain, config.chain r = .ok chain →
        ∃ pairs, List.Forall₂ (MappingDecl.StandsFor r) config.mappings pairs ∧
          chain.strategies =
            pairs.reverse.map (fun pair => .explicit ⟨pair.2, pair.1, .valueOf pair.2⟩) ++
              [config.base.chain.newest] ∧
          config.base.chain.extendAll r pairs = .ok chain) ∧
      ∀ more, { config with mappings := config.mappings ++ more }.chain r = (do
        let chain ← config.chain r
        more.foldlM (fun chain decl => chain.extend r decl.repeatable decl.container) chain) := by
  refine ⟨?_, fun fault => ?_, fun chain success => ?_, fun more => List.foldlM_append⟩
  · simp only [chain_eq, map_eq_ok_iff, MappingDecl.accepted_iff, ← exists_mapM_eq_ok_iff]
    exact ⟨fun ⟨_, mappings, valid, _⟩ => ⟨mappings, valid⟩,
      fun ⟨mappings, valid⟩ => ⟨_, mappings, valid, rfl⟩⟩
  · simp only [chain_eq, map_eq_error_iff, mapM_eq_error_iff, MappingDecl.accepted_iff,
      MappingDecl.mapping_eq_error_iff]
  · rw [chain_eq, map_eq_ok_iff] at success
    obtain ⟨mappings, valid, rfl⟩ := success
    obtain ⟨pairs, each, rfl, extended⟩ := Chain.exists_extendAll (mapM_eq_ok_iff.1 valid)
    have base : config.base.chain.strategies = [config.base.chain.newest] := by
      cases config.base <;> rfl
    refine ⟨pairs, each, ?_, extended _⟩
    rw [Chain.strategies_withMappings, base, ← List.map_reverse, List.map_map]
    rfl

end ContainerConfig

/-- Tags are mapped to their own container, to a subtype of it, and to their own container again. -/
def Sample.repeated : ContainerConfig where
  base := .disabled
  mappings := [{ repeatable := tag }, { repeatable := tag, container := some labels },
    { repeatable := tag, container := some tags }]

/-- A mapping that is repeated is asked as often as it is listed. -/
theorem ContainerConfig.chain_mappings_repeated :
    ∃ chain pairs, Sample.repeated.chain Sample.registry = .ok chain ∧
      Chain.disabled.extendAll Sample.registry pairs = .ok chain ∧ pairs.length = 3 ∧
      chain.strategies.length = 4 := by
  obtain ⟨accepted, -, built, -⟩ := chain_mappings Sample.repeated Sample.registry
  have each : ∀ decl ∈ Sample.repeated.mappings, decl.Accepted Sample.registry := by
    simp only [Sample.repeated, List.forall_mem_cons, List.not_mem_nil, false_imp_iff,
      implies_true, and_true]
    exact ⟨⟨_, rfl⟩, ⟨_, rfl⟩, ⟨_, rfl⟩⟩
  obtain ⟨chain, success⟩ := accepted.2 each
  obtain ⟨pairs, standFor, strategies, extended⟩ := built chain success
  have length : pairs.length = 3 := standFor.length_eq.symm
  refine ⟨chain, pairs, success, extended, length, ?_⟩
  rw [strategies, List.length_append, List.length_map, List.length_reverse, length]
  rfl

end AnnotationContainers
