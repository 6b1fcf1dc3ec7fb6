import AnnotationContainers.Cache
import AnnotationContainers.Chain.Basic
import AnnotationContainers.Registry.Subtype
import AnnotationContainers.Value

/-! # Resolution of repeated annotations

The strategies of a chain are asked in turn, by the type of an annotation alone, for the attribute
that holds its repeated annotations. Only when one of them recognises the type is that attribute
read, once. Asking may add an answer to the cache, whatever the read comes to.
-/

namespace AnnotationContainers

universe u v

/-- The attribute in which the first strategy that recognises the type looks. -/
def Strategy.consult (r : Registry) (id : TypeId) : List Strategy → Cache → Option AttrDecl × Cache
  | [], cache => (none, cache)
  | .standard :: rest, cache =>
    match cache.getOrCompute id fun _ => r.nativeAccess id with
    | (.eligible accessor, cache) => (some accessor, cache)
    | (.notApplicable, cache) => consult r id rest cache
  | .explicit mapping :: rest, cache =>
    if r.isSubtype id mapping.container then (some mapping.accessor, cache)
    else consult r id rest cache
  | .disabled :: rest, cache => consult r id rest cache

namespace Chain

def consult (chain : Chain) (r : Registry) (id : TypeId) (cache : Cache) :
    Option AttrDecl × Cache :=
  Strategy.consult r id chain.strategies cache

/-- The resolution of an annotation of type `id` whose attributes are read by `read`, in any monad:
the action that gives the repeated annotations, `none` if no strategy recognises the type, and the
cache when it runs. -/
def resolveWith {m : Type u → Type v} [Monad m] {α : Type u} (chain : Chain) (r : Registry)
    (id : TypeId) (read : AttrName → m (Except ReadError (Value α))) (cache : Cache) :
    m (Except ReadError (Option (List α))) × Cache :=
  match chain.consult r id cache with
  | (none, cache) => (pure (.ok none), cache)
  | (some accessor, cache) =>
    (do return some <$> annotationsRead id accessor.name (← read accessor.name), cache)

/-- The repeated annotations that `a` holds, `none` if no strategy recognises its type, and the
cache afterwards. -/
def resolve {α : Type u} [Attributed α] (chain : Chain) (r : Registry) (a : α) (cache : Cache) :
    Except ReadError (Option (List α)) × Cache :=
  resolveWith (m := Id) chain r (Attributed.type a) (Attributed.read a) cache

end Chain

end AnnotationContainers
