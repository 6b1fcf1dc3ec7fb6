import AnnotationContainers.Chain.Resolution
import AnnotationContainers.Chain.Text
import AnnotationContainers.Instance.Rendering
import AnnotationContainers.Instance.Synthesis
import AnnotationContainers.Metadata.Basic

/-! # Reports on metadata and instances

`Metadata.check` builds the registry and the configured chain; `Metadata.resolve` goes on to read
an instance and write the annotations that it contains. Both start with `Metadata.setup`, so every
fault of the metadata comes before any fault of the instance, and is the same for both.
-/

namespace AnnotationContainers

inductive Failure where
  | types (cause : ConfigError)
  | containers (cause : ConfigError)
  | synthesis (cause : SynthesisError)
  | reading (cause : ReadError)
  | rendering (cause : ReadError)
deriving DecidableEq

namespace Failure

def context : Failure → String
  | .types _ => "invalid annotation types"
  | .containers _ => "invalid repeatable container configuration"
  | .synthesis _ => "invalid annotation"
  | .reading _ => "failed to read container attributes"
  | .rendering _ => "failed to render contained annotations"

def cause : Failure → String
  | .types cause | .containers cause => cause.message
  | .synthesis cause => cause.message
  | .reading cause | .rendering cause => cause.message

/-- Context and cause on one line, for callers of the library. The command line sets them apart. -/
def message (failure : Failure) : String := failure.context ++ ": " ++ failure.cause

end Failure

structure CheckReport where
  types : Nat
  repeatable : List TypeId
  chain : String
deriving DecidableEq

structure ResolveReport where
  type : TypeId
  chain : String
  container : Bool
  elements : List Json

/-- The fields stand in the order in which the report lists them. -/
def CheckReport.toJson (report : CheckReport) : Json :=
  .object [("annotation_types", .number (.ofNat report.types)),
    ("repeatable_types", .array (report.repeatable.map (.string ·.text))),
    ("chain", .string report.chain)]

def ResolveReport.toJson (report : ResolveReport) : Json :=
  .object [("annotation_type", .string report.type.text), ("chain", .string report.chain),
    ("container", .bool report.container), ("elements", .array report.elements)]

namespace Metadata

/-- The registry and the chain; `base` takes the place of the configured base strategy. -/
def setup (metadata : Metadata) (base : Option BaseStrategy) :
    Except Failure (Registry × Chain) := do
  let r ← metadata.registry.mapError .types
  let config := { metadata.containers with base := base.getD metadata.containers.base }
  let chain ← (config.chain r).mapError .containers
  return (r, chain)

def check (metadata : Metadata) : Except Failure CheckReport := do
  let (r, chain) ← metadata.setup none
  return {
    types := r.size
    repeatable := (r.types.filter (·.isRepeatable)).map (·.id)
    chain := chain.text }

def resolve (metadata : Metadata) (document : Json) (base : Option BaseStrategy) :
    Except Failure ResolveReport := do
  let (r, chain) ← metadata.setup base
  let a ← (Instance.synthesize r document).mapError .synthesis
  let repeated ← (chain.resolve r a .empty).1.mapError .reading
  let elements ← ((repeated.getD []).mapM (Instance.render r)).mapError .rendering
  return {
    type := a.type
    chain := chain.text
    container := repeated.isSome
    elements }

end Metadata

end AnnotationContainers
