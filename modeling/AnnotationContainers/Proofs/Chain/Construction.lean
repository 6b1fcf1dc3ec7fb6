import AnnotationContainers.Metadata.Basic
import AnnotationContainers.Proofs.Outcomes

/-! # How chains are built

A chain arises from the two roots, from single mappings, from extensions of other chains and from
configurations, each against a registry of its own. `Chain.Built.induction` reduces what holds of
all of them to roots and accepted mappings. A mapping is accepted only with the accessor that its
repeatable type determines, so that every accessor in a chain reads `value`.
-/

namespace AnnotationContainers

open Outcomes

/-- The attribute that holds the annotations of type `element` in a container. -/
def AttrDecl.valueOf (element : TypeId) : AttrDecl := ⟨.value, .array (.nested element)⟩

/-- What makes a mapping right for a registry: both of its types are registered, and its accessor is
the attribute `value` that the container declares, an array of exactly the repeatable type. -/
structure Mapping.ValidIn (mapping : Mapping) (r : Registry) : Prop where
  accessor : mapping.accessor = .valueOf mapping.repeatable
  repeatable : r.contains mapping.repeatable
  container : ∃ decl, r.get? mapping.container = some decl ∧
    decl.attribute? .value = some mapping.accessor

/-- What a mapping is checked for, and which mapping it then is. -/
theorem Mapping.of_eq_ok_iff {r : Registry} {repeatable : TypeId} {container : Option TypeId}
    {mapping : Mapping} :
    Mapping.of r repeatable container = .ok mapping ↔
      ∃ repeated id decl, r.get? repeatable = some repeated ∧
        (container <|> repeated.container) = some id ∧ r.get? id = some decl ∧
        decl.attribute? .value = some (.valueOf repeatable) ∧
        mapping = ⟨repeatable, id, .valueOf repeatable⟩ := by
  constructor
  · intro h
    unfold Mapping.of at h
    split at h
    · cases h
    next repeated known =>
      split at h
      · cases h
      next id chosen =>
        split at h
        · cases h
        next decl registered =>
          split at h
          · cases h
          next accessor declared =>
            split at h
            next element =>
              have named := TypeDecl.attribute?_name declared
              have typed := AttrType.element?_eq_some_iff.1 element
              obtain rfl : accessor = .valueOf repeatable := by
                calc accessor = ⟨accessor.name, accessor.type⟩ := rfl
                  _ = .valueOf repeatable := by rw [named, typed, AttrDecl.valueOf]
              cases h
              exact ⟨repeated, id, decl, known, chosen, registered, declared, rfl⟩
            · cases h
  · rintro ⟨repeated, id, decl, known, chosen, registered, declared, rfl⟩
    have element : (AttrDecl.valueOf repeatable).type.element? = some repeatable := rfl
    simp only [Mapping.of, known, chosen, registered, declared, element, if_true]

theorem Mapping.validIn_of_of {r : Registry} {repeatable : TypeId} {container : Option TypeId}
    {mapping : Mapping} (h : Mapping.of r repeatable container = .ok mapping) :
    mapping.ValidIn r := by
  obtain ⟨repeated, id, decl, known, -, registered, declared, rfl⟩ := of_eq_ok_iff.1 h
  refine ⟨rfl, ?_, decl, registered, declared⟩
  rw [Registry.contains, known]
  rfl

/-- A mapping with a deduced container is the one with that container spelled out. -/
theorem Mapping.of_deduced {r : Registry} {repeatable : TypeId} {mapping : Mapping}
    (accepted : Mapping.of r repeatable none = .ok mapping) :
    ∃ decl container, r.get? repeatable = some decl ∧ decl.container = some container ∧
      Mapping.of r repeatable (some container) = .ok mapping := by
  obtain ⟨repeated, id, decl, known, deduced, rest⟩ := of_eq_ok_iff.1 accepted
  exact ⟨repeated, id, known, deduced, of_eq_ok_iff.2 ⟨repeated, id, decl, known, rfl, rest⟩⟩

namespace Chain

theorem of_eq_ok_iff {r : Registry} {repeatable : TypeId} {container : Option TypeId}
    {chain : Chain} :
    Chain.of r repeatable container = .ok chain ↔
      ∃ mapping, Mapping.of r repeatable container = .ok mapping ∧
        chain = ⟨.explicit mapping, []⟩ := by
  simp only [Chain.of, bind_eq_ok_iff, pure, Except.pure, Except.ok.injEq, @eq_comm _ _ chain]

theorem extend_eq_ok_iff {base chain : Chain} {r : Registry} {repeatable : TypeId}
    {container : Option TypeId} :
    base.extend r repeatable container = .ok chain ↔
      ∃ mapping, Mapping.of r repeatable container = .ok mapping ∧
        chain = ⟨.explicit mapping, base.strategies⟩ := by
  simp only [Chain.extend, bind_eq_ok_iff, pure, Except.pure, Except.ok.injEq, @eq_comm _ _ chain]

/-- The chains that constructor calls lead to, whatever the registries they are made against. -/
inductive Built : Chain → Prop
  | standard : Built .standard
  | disabled : Built .disabled
  | of {r : Registry} {repeatable : TypeId} {container : Option TypeId} {chain : Chain}
      (accepted : Chain.of r repeatable container = .ok chain) : Built chain
  | extend {base chain : Chain} {r : Registry} {container repeatable : TypeId} (built : Built base)
      (accepted : base.extend r repeatable (some container) = .ok chain) : Built chain
  | configured {config : ContainerConfig} {r : Registry} {chain : Chain}
      (accepted : config.chain r = .ok chain) : Built chain

/-- A chain with the registries against which its mappings were made, in lookup order. -/
structure Made where
  chain : Chain
  registries : List Registry

def Made.withMapping (made : Made) (r : Registry) (mapping : Mapping) : Made where
  chain := ⟨.explicit mapping, made.chain.strategies⟩
  registries := r :: made.registries

/-- A configuration extends its base strategy by one mapping after the other. -/
theorem configured_induction {P : Made → Prop} {r : Registry}
    (extend : ∀ base : Made, ∀ {repeatable container mapping},
      Mapping.of r repeatable container = .ok mapping → P base → P (base.withMapping r mapping))
    (mappings : List MappingDecl) (base : Made) {chain : Chain} (start : P base)
    (accepted : mappings.foldlM (fun chain (mapping : MappingDecl) =>
      chain.extend r mapping.repeatable mapping.container) base.chain = .ok chain) :
    P ⟨chain, List.replicate mappings.length r ++ base.registries⟩ := by
  induction mappings generalizing base with
  | nil =>
    cases accepted
    exact start
  | cons first rest ih =>
    rw [List.foldlM_cons, bind_eq_ok_iff] at accepted
    obtain ⟨next, extended, accepted⟩ := accepted
    obtain ⟨mapping, valid, rfl⟩ := extend_eq_ok_iff.1 extended
    have later := ih (base.withMapping r mapping) (extend base valid start) accepted
    rwa [Made.withMapping, List.append_cons, ← List.replicate_succ'] at later

/-- What holds of the roots and is kept when an accepted mapping comes first holds of every
chain. -/
@[elab_as_elim]
theorem Built.induction {P : Chain → Prop} (standard : P .standard) (disabled : P .disabled)
    (single : ∀ {r repeatable container mapping},
      Mapping.of r repeatable container = .ok mapping → P ⟨.explicit mapping, []⟩)
    (extend : ∀ base : Chain, ∀ {r repeatable container mapping},
      Mapping.of r repeatable container = .ok mapping → P base →
        P ⟨.explicit mapping, base.strategies⟩)
    {chain : Chain} (built : chain.Built) : P chain := by
  induction built with
  | standard => exact standard
  | disabled => exact disabled
  | of accepted =>
    obtain ⟨mapping, valid, rfl⟩ := of_eq_ok_iff.1 accepted
    exact single valid
  | @extend base _ _ _ _ _ accepted ih =>
    obtain ⟨mapping, valid, rfl⟩ := extend_eq_ok_iff.1 accepted
    exact extend base valid ih
  | @configured config _ _ accepted =>
    refine configured_induction (P := fun made => P made.chain) (fun base => extend base.chain)
      config.mappings ⟨config.base.chain, []⟩ ?_ accepted
    cases config.base with
    | standard => exact standard
    | disabled => exact disabled

theorem Built.accessor {chain : Chain} (built : chain.Built) :
    ∀ mapping, .explicit mapping ∈ chain.strategies →
      mapping.accessor = .valueOf mapping.repeatable := by
  refine Built.induction ?_ ?_ ?_ ?_ built
  · simp [strategies, Chain.standard]
  · simp [strategies, Chain.disabled]
  · intro r repeatable container only valid mapping member
    simp only [strategies, List.mem_singleton, Strategy.explicit.injEq] at member
    exact member ▸ (Mapping.validIn_of_of valid).accessor
  · intro base r repeatable container newest valid ih mapping member
    simp only [strategies, List.mem_cons, Strategy.explicit.injEq] at member ih
    rcases member with rfl | member
    · exact (Mapping.validIn_of_of valid).accessor
    · exact ih mapping member

end Chain

end AnnotationContainers
