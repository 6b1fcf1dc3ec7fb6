import AnnotationContainers.Chain.Text
import AnnotationContainers.Proofs.Chain.Recognition

/-! # Equality of chains

Chains are compared without the accessors of their mappings. Among the chains that constructors
build nothing is lost by it: the accessor is determined by the repeatable type of its mapping, so
that equal chains agree strategy by strategy, and no text, hash or resolution tells them apart.
Each of these chains is determined by its root and the pairs of types that are mapped over it.
-/

namespace AnnotationContainers

open Outcomes

universe u

namespace Strategy

/-- The only strategy with this key in a chain that constructors build. -/
def ofKey : Key → Strategy
  | .standard => .standard
  | .explicit container repeatable => .explicit ⟨repeatable, container, .valueOf repeatable⟩
  | .disabled => .disabled

def root? : Strategy → Option BaseStrategy
  | .standard => some .standard
  | .explicit _ => none
  | .disabled => some .disabled

def pair? : Strategy → Option (TypeId × TypeId)
  | .explicit mapping => some (mapping.container, mapping.repeatable)
  | .standard | .disabled => none

theorem ofKey_key {strategy : Strategy}
    (determined : ∀ mapping, strategy = .explicit mapping →
      mapping.accessor = .valueOf mapping.repeatable) : ofKey strategy.key = strategy := by
  cases strategy with
  | standard => rfl
  | explicit mapping =>
    have accessor := determined mapping rfl
    rw [key, ofKey, ← accessor]
  | disabled => rfl

end Strategy

namespace Chain

/-- The strategy under all mappings, if it is none of them. -/
def root? (chain : Chain) : Option BaseStrategy := chain.strategies.getLast?.bind Strategy.root?

def pairs (chain : Chain) : List (TypeId × TypeId) := chain.strategies.filterMap Strategy.pair?

variable {a b chain : Chain}

theorem eq_of_strategies_eq (same : a.strategies = b.strategies) : a = b := by
  cases a
  cases b
  cases same
  rfl

namespace Built

theorem strategies_eq (built : chain.Built) : chain.strategies = chain.key.map Strategy.ofKey := by
  have each : ∀ strategy ∈ chain.strategies, Strategy.ofKey strategy.key = strategy := by
    intro strategy member
    apply Strategy.ofKey_key
    rintro mapping rfl
    exact built.accessor mapping member
  calc chain.strategies = chain.strategies.map id := (List.map_id _).symm
    _ = chain.strategies.map fun strategy => Strategy.ofKey strategy.key :=
      List.map_congr_left fun strategy member => (each strategy member).symm
    _ = chain.key.map Strategy.ofKey := by
      rw [key, List.map_map]
      rfl

theorem eq_of_key_eq (ha : a.Built) (hb : b.Built) (same : a.key = b.key) : a = b := by
  apply eq_of_strategies_eq
  rw [ha.strategies_eq, hb.strategies_eq, same]

theorem key_eq (built : chain.Built) :
    chain.key = chain.pairs.map (fun pair => .explicit pair.1 pair.2) ++
      chain.root?.elim [] (·.chain.key) := by
  refine Built.induction rfl rfl (fun _ => rfl) ?_ built
  intro base r repeatable container mapping _ ih
  have root : root? ⟨.explicit mapping, base.strategies⟩ = base.root? := by
    simp only [root?, strategies, List.getLast?_cons_cons]
  rw [root]
  exact congrArg (_ :: ·) ih

end Built

/-- Equality of chains is sound and complete, whatever registries they were built against: equal
chains have the same root and the same pairs, and this is enough for them to agree in everything,
the accessors that are not compared included. A deduced container makes no difference, a root
does. -/
theorem beq_iff_agree (ha : a.Built) (hb : b.Built) :
    ((a == b) = true ↔ a.root? = b.root? ∧ a.pairs = b.pairs) ∧
      ((a == b) = true ↔ a.strategies = b.strategies) ∧
      ((a == b) = true → a.hashInput = b.hashInput ∧ a.text = b.text ∧ a.detail = b.detail ∧
        ∀ {α : Type u} [Attributed α] (r : Registry) (x : α) (cache : Cache),
          a.resolve r x cache = b.resolve r x cache) ∧
      (∀ (r : Registry) (repeatable : TypeId) (deduced : Chain),
        Chain.of r repeatable none = .ok deduced →
          ∃ decl container spelled, r.get? repeatable = some decl ∧
            decl.container = some container ∧
            Chain.of r repeatable (some container) = .ok spelled ∧ (deduced == spelled) = true) ∧
      ∀ (r : Registry) (repeatable : TypeId) (container : Option TypeId) (single : Chain),
        Chain.of r repeatable container = .ok single →
          ∃ rooted, Chain.disabled.extend r repeatable container = .ok rooted ∧
            (single == rooted) = false := by
  have agree : (a == b) = true → a = b := fun equal => ha.eq_of_key_eq hb (beq_iff.1 equal)
  have reflexive : ∀ c : Chain, (c == c) = true := fun c => beq_iff.2 rfl
  refine ⟨⟨?_, ?_⟩, ⟨?_, ?_⟩, ?_, ?_, ?_⟩
  · intro equal
    rw [agree equal]
    exact ⟨rfl, rfl⟩
  · rintro ⟨root, pairs⟩
    rw [beq_iff, ha.key_eq, hb.key_eq, root, pairs]
  · intro equal
    rw [agree equal]
  · intro same
    rw [eq_of_strategies_eq same]
    exact reflexive b
  · intro equal
    cases agree equal
    exact ⟨rfl, rfl, rfl, fun _ _ _ => rfl⟩
  · intro r repeatable deduced accepted
    obtain ⟨mapping, valid, rfl⟩ := of_eq_ok_iff.1 accepted
    obtain ⟨decl, container, registered, declared, spelled⟩ := Mapping.of_deduced valid
    exact ⟨decl, container, _, registered, declared, of_eq_ok_iff.2 ⟨mapping, spelled, rfl⟩,
      reflexive _⟩
  · intro r repeatable container single accepted
    obtain ⟨mapping, valid, rfl⟩ := of_eq_ok_iff.1 accepted
    refine ⟨_, extend_eq_ok_iff.2 ⟨mapping, valid, rfl⟩, ?_⟩
    -- One of the chains has a strategy more than the other.
    rw [← Bool.not_eq_true, beq_iff]
    simp [key, strategies, Chain.disabled]

end Chain

/-- Another registry with a container of tags, which tags do not declare themselves. -/
def Sample.tagging : Registry where
  types := [
    { id := tag },
    { id := tags, attributes := [⟨⟨"limit", by decide⟩, .integer⟩, .valueOf tag] }]
  ascending := by decide
  distinct := by decide

/-- The container is deduced against one registry and spelled out against another. -/
theorem Chain.beq_iff_agree_tags :
    ∃ a b : Chain, Chain.of Sample.registry Sample.tag none = .ok a ∧
      Chain.of Sample.tagging Sample.tag (some Sample.tags) = .ok b ∧ a.Built ∧ b.Built ∧
      (a == b) = true ∧ a.hashInput = b.hashInput ∧ a.detail = b.detail := by
  obtain ⟨a, deduced⟩ : ∃ a, Chain.of Sample.registry Sample.tag none = .ok a := ⟨_, rfl⟩
  obtain ⟨b, spelled⟩ : ∃ b, Chain.of Sample.tagging Sample.tag (some Sample.tags) = .ok b :=
    ⟨_, rfl⟩
  have builtA : a.Built := .of deduced
  have builtB : b.Built := .of spelled
  obtain ⟨pairs, -, alike, -⟩ := beq_iff_agree.{0} builtA builtB
  have equal : (a == b) = true := by
    apply pairs.2
    cases deduced
    cases spelled
    exact ⟨rfl, rfl⟩
  obtain ⟨hashed, -, detailed, -⟩ := alike equal
  exact ⟨a, b, deduced, spelled, builtA, builtB, equal, hashed, detailed⟩

end AnnotationContainers
