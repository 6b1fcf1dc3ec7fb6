import AnnotationContainers.Registry.Basic

/-! # Chains of strategies

A chain lists the strategies that look for repeated annotations, the one added last first. A
mapping names a container type and the type of the annotations in it, and is accepted only against
a registry in which the container's `value` is an array of exactly that type. Chains are compared
by their strategies and the types of their mappings; the accessor of a mapping follows from these.
-/

namespace AnnotationContainers

/-- A container type, the type of the annotations in it, and the attribute that holds them. -/
structure Mapping where
  repeatable : TypeId
  container : TypeId
  accessor : AttrDecl

/-- The mapping of a repeatable type to a container, by default the one that the type declares. -/
def Mapping.of (r : Registry) (repeatable : TypeId) (container : Option TypeId) :
    Except ConfigError Mapping :=
  match r.get? repeatable with
  | none => .error (.unknownType repeatable)
  | some repeated =>
    match container <|> repeated.container with
    | none => .error (.notRepeatable repeatable)
    | some id =>
      match r.get? id with
      | none => .error (.containerNotRegistered id repeatable)
      | some decl =>
        match decl.attribute? .value with
        | none => .error (.containerWithoutValue id repeatable)
        | some accessor =>
          if accessor.type.element? = some repeatable then .ok ⟨repeatable, id, accessor⟩
          else .error (.valueMismatch id repeatable)

/-- A value that is fed to a hasher: the index of an alternative, or the text of a name. -/
inductive HashInput where
  | index (position : Nat)
  | text (value : String)
deriving DecidableEq, Hashable

inductive Strategy where
  /-- Native containers are containers. -/
  | standard
  /-- The container type of a mapping and its subtypes are containers. -/
  | explicit (mapping : Mapping)
  /-- Nothing is a container. -/
  | disabled

namespace Strategy

/-- What strategies are compared by. -/
inductive Key where
  | standard
  | explicit (container repeatable : TypeId)
  | disabled
deriving DecidableEq

def key : Strategy → Key
  | .standard => .standard
  | .explicit mapping => .explicit mapping.container mapping.repeatable
  | .disabled => .disabled

/-- A mapping is hashed by its two types, the container first. -/
def hashInput : Strategy → List HashInput
  | .standard => [.index 0]
  | .explicit mapping => [.index 1, .text mapping.container.text, .text mapping.repeatable.text]
  | .disabled => [.index 2]

end Strategy

/-- A chain of strategies, the one added last first. -/
structure Chain where
  newest : Strategy
  older : List Strategy

namespace Chain

/-- The strategies in the order in which they are asked. -/
def strategies (chain : Chain) : List Strategy := chain.newest :: chain.older

def key (chain : Chain) : List Strategy.Key := chain.strategies.map (·.key)

instance : BEq Chain := ⟨fun a b => a.key = b.key⟩

/-- What the strategies under another one feed to a hasher: whether there are any, and then each of
them, the oldest first. -/
def olderHashInput : List Strategy → List HashInput
  | [] => [.index 0]
  | newest :: older => .index 1 :: (olderHashInput older ++ newest.hashInput)

def hashInput (chain : Chain) : List HashInput :=
  olderHashInput chain.older ++ chain.newest.hashInput

instance : Hashable Chain := ⟨fun chain => hash chain.hashInput⟩

def standard : Chain := ⟨.standard, []⟩

def disabled : Chain := ⟨.disabled, []⟩

def of (r : Registry) (repeatable : TypeId) (container : Option TypeId) :
    Except ConfigError Chain := do
  let mapping ← Mapping.of r repeatable container
  return ⟨.explicit mapping, []⟩

/-- Ask a mapping before all the strategies of the chain. -/
def extend (chain : Chain) (r : Registry) (repeatable : TypeId) (container : Option TypeId) :
    Except ConfigError Chain := do
  let mapping ← Mapping.of r repeatable container
  return ⟨.explicit mapping, chain.strategies⟩

theorem beq_iff {a b : Chain} : (a == b) = true ↔ a.key = b.key := decide_eq_true_iff

end Chain

end AnnotationContainers
