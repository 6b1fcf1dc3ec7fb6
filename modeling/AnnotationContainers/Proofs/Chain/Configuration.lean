import AnnotationContainers.Proofs.Chain.Construction

/-! # Configured chains

A configuration is accepted if each of its mappings is, whatever the base strategy and the other
mappings are. The chain asks the accepted mappings from the last to the first, and then the base.
-/

namespace AnnotationContainers

open Outcomes

/-- The configured mapping, checked against the registry. -/
def MappingDecl.mapping (r : Registry) (decl : MappingDecl) : Except ConfigError Mapping :=
  Mapping.of r decl.repeatable decl.container

namespace Chain

/-- The chain with the mappings asked before it, the last one of the list first. -/
def withMappings (base : Chain) (mappings : List Mapping) : Chain :=
  mappings.foldl (fun chain mapping => ⟨.explicit mapping, chain.strategies⟩) base

theorem strategies_withMappings (base : Chain) (mappings : List Mapping) :
    (base.withMappings mappings).strategies =
      mappings.reverse.map .explicit ++ base.strategies := by
  induction mappings generalizing base with
  | nil => rfl
  | cons first rest ih =>
    have later : base.withMappings (first :: rest) =
        withMappings ⟨.explicit first, base.strategies⟩ rest := rfl
    rw [later, ih, List.reverse_cons, List.map_append, List.append_assoc]
    rfl

end Chain

namespace ContainerConfig

/-- Checking the mappings one after the other on the growing chain comes to checking all of them
first and then building the chain. -/
theorem chain_eq (config : ContainerConfig) (r : Registry) :
    config.chain r =
      config.base.chain.withMappings <$> config.mappings.mapM (MappingDecl.mapping r) := by
  rw [chain]
  generalize config.base.chain = base
  induction config.mappings generalizing base with
  | nil => rfl
  | cons first rest ih =>
    rw [List.foldlM_cons, List.mapM_cons]
    have extended : base.extend r first.repeatable first.container = (do
        let mapping ← first.mapping r
        return ⟨.explicit mapping, base.strategies⟩) := rfl
    rw [extended]
    cases first.mapping r with
    | error fault => rfl
    | ok mapping =>
      refine (ih ⟨.explicit mapping, base.strategies⟩).trans ?_
      cases rest.mapM (MappingDecl.mapping r) <;> rfl

end ContainerConfig

end AnnotationContainers
