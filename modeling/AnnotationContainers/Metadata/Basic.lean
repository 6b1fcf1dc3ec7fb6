import AnnotationContainers.Chain.Basic

/-! # Metadata documents

What an application states about its annotations: the types, and how containers are recognised.
The configured mappings are laid over the base strategy in the order of the list, so a later one
is asked before an earlier one.
-/

namespace AnnotationContainers

inductive BaseStrategy where
  | standard
  | disabled
deriving DecidableEq

def BaseStrategy.chain : BaseStrategy → Chain
  | .standard => .standard
  | .disabled => .disabled

/-- A configured mapping; without a container, the repeatable type's own is taken. -/
structure MappingDecl where
  repeatable : TypeId
  container : Option TypeId := none
deriving DecidableEq

structure ContainerConfig where
  base : BaseStrategy := .standard
  mappings : List MappingDecl := []
deriving DecidableEq

namespace ContainerConfig

/-- The configured chain, or the fault of the first mapping that is refused. -/
def chain (config : ContainerConfig) (r : Registry) : Except ConfigError Chain :=
  config.mappings.foldlM (fun chain mapping => chain.extend r mapping.repeatable mapping.container)
    config.base.chain

end ContainerConfig

structure Metadata where
  types : List TypeDecl := []
  containers : ContainerConfig := {}
deriving DecidableEq

def Metadata.registry (metadata : Metadata) : Except ConfigError Registry :=
  Registry.ofList metadata.types

end AnnotationContainers
