import AnnotationContainers.Proofs.Cache.Transparency
import AnnotationContainers.Proofs.Chain.Histories

/-! # What resolutions leave in a cache

A resolution adds at most one entry to its cache, the answer of its registry for the type of its
annotation, and it does so exactly if native containers are asked about a type without an entry.
What reading the annotation comes to plays no part. Entries therefore stand: where calls over
several registries share a cache, the first call that asks about a type settles the answer for all
of them.
-/

namespace AnnotationContainers

universe u

namespace Cache

variable {cache : Cache} {id : TypeId}

def insert (cache : Cache) (id : TypeId) (native : NativeAccess) : Cache where
  entries := Entries.insert cache.entries id native
  ascending := Entries.ascending_insert cache.ascending id native

theorem get?_insert (native : NativeAccess) (other : TypeId) :
    (cache.insert id native).get? other = if id = other then some native else cache.get? other :=
  Entries.get?_insert cache.entries id native other

theorem learn_of_absent (r : Registry) (absent : cache.get? id = none) :
    cache.learn r id = cache.insert id (r.nativeAccess id) := by
  apply ext
  intro other
  rw [get?_learn, get?_insert, answer, absent, Option.getD_none]

end Cache

namespace Chain

variable {chain : Chain} {r : Registry} {id : TypeId}

/-- Native containers are among the strategies, and no mapping recognises the type. -/
def AsksStandard (chain : Chain) (r : Registry) (id : TypeId) : Prop :=
  .standard ∈ chain.strategies ∧
    ∀ mapping, .explicit mapping ∈ chain.strategies → ¬ r.isSubtype id mapping.container

/-- In a chain that constructors build, all mappings stand before native containers. -/
theorem Built.reachesStandard_iff (built : chain.Built) :
    chain.reachesStandard r id ↔ chain.AsksStandard r id := by
  refine Built.induction ?_ ?_ ?_ ?_ built
  · simp [reachesStandard, AsksStandard, strategies, Chain.standard, Strategy.reachesStandard]
  · simp [reachesStandard, AsksStandard, strategies, Chain.disabled, Strategy.reachesStandard]
  · intro s repeatable container mapping _
    simp [reachesStandard, AsksStandard, strategies, Strategy.reachesStandard]
  · intro base s repeatable container mapping _ ih
    have step : reachesStandard ⟨.explicit mapping, base.strategies⟩ r id =
        (!r.isSubtype id mapping.container && base.reachesStandard r id) := rfl
    have strategies : strategies ⟨.explicit mapping, base.strategies⟩ =
        .explicit mapping :: base.strategies := rfl
    rw [step, Bool.and_eq_true, ih, AsksStandard, AsksStandard, strategies]
    simp only [List.mem_cons, reduceCtorEq, false_or, Strategy.explicit.injEq,
      forall_eq_or_imp, Bool.not_eq_true', Bool.not_eq_true]
    exact and_left_comm

end Chain

namespace Call

variable {α : Type u} [Attributed α] {cache : Cache}

def AsksStandard (call : Call α) : Prop := call.chain.AsksStandard call.registry call.type

theorem asksNative_iff {call : Call α} (built : call.chain.Built) :
    call.AsksNative ↔ call.AsksStandard := built.reachesStandard_iff

theorem run_append (earlier later : List (Call α)) (cache : Cache) :
    (run (earlier ++ later) cache).2 = (run later (run earlier cache).2).2 := by
  induction earlier generalizing cache with
  | nil => rfl
  | cons call rest ih => exact ih (call.perform cache).2

theorem get?_run_of_get? {calls : List (Call α)} {id : TypeId} {native : NativeAccess}
    (kept : cache.get? id = some native) : (run calls cache).2.get? id = some native := by
  induction calls generalizing cache with
  | nil => exact kept
  | cons call rest ih =>
    apply ih
    rw [get?_perform_or, kept, Option.some_or]

theorem get?_run_of_unasked {calls : List (Call α)} {id : TypeId}
    (unasked : ∀ call ∈ calls, call.type = id → ¬ call.AsksNative) :
    (run calls cache).2.get? id = cache.get? id := by
  induction calls generalizing cache with
  | nil => rfl
  | cons call rest ih =>
    obtain ⟨first, others⟩ := List.forall_mem_cons.1 unasked
    have step : (call.perform cache).2.get? id = cache.get? id := by
      rw [get?_perform_or, if_neg fun asks => first asks.1 asks.2, Option.or_none]
    rw [run, ih others, step]

/-- The first call that asks about a type without an entry settles its entry. -/
theorem get?_run_of_first {before after : List (Call α)} {call : Call α}
    (absent : cache.get? call.type = none)
    (unasked : ∀ earlier ∈ before, earlier.type = call.type → ¬ earlier.AsksNative)
    (asks : call.AsksNative) :
    (run (before ++ call :: after) cache).2.get? call.type =
      some (call.registry.nativeAccess call.type) := by
  have settled : (call.perform (run before cache).2).2.get? call.type =
      some (call.registry.nativeAccess call.type) := by
    rw [get?_perform_or, get?_run_of_unasked unasked, absent, if_pos ⟨rfl, asks⟩, Option.none_or]
  rw [run_append, run]
  exact get?_run_of_get? settled

theorem perform_cache_eq {call : Call α} (built : call.chain.Built) (cache : Cache) :
    (call.AsksStandard ∧ cache.get? call.type = none →
        (call.perform cache).2 =
          cache.insert call.type (call.registry.nativeAccess call.type)) ∧
      (¬ (call.AsksStandard ∧ cache.get? call.type = none) → (call.perform cache).2 = cache) := by
  rw [perform_cache, ← asksNative_iff built]
  constructor
  · rintro ⟨asks, absent⟩
    rw [if_pos asks, Cache.learn_of_absent call.registry absent]
  · intro settled
    by_cases asks : call.AsksNative
    · cases known : cache.get? call.type with
      | none => exact absurd ⟨asks, known⟩ settled
      | some native => rw [if_pos asks, Cache.learn_of_get? known]
    · rw [if_neg asks]

/-- What calls leave in a cache that they share, each with a chain and a registry of its own. One
call adds the answer of its registry for its type, if it asks native containers about a type
without an entry, and nothing otherwise. However many calls are made, no entry changes, a type that
none of them asks about gains none, and the entry of any other type is the answer that the registry
of the first call asking about it gives. -/
theorem run_firstAnswers (cache : Cache) :
    (∀ call : Call α, call.chain.Built →
        (call.AsksStandard ∧ cache.get? call.type = none →
          (call.perform cache).2 =
            cache.insert call.type (call.registry.nativeAccess call.type)) ∧
        (¬ (call.AsksStandard ∧ cache.get? call.type = none) →
          (call.perform cache).2 = cache)) ∧
      (∀ (earlier later : List (Call α)) (id : TypeId) (native : NativeAccess),
        (run earlier cache).2.get? id = some native →
          (run (earlier ++ later) cache).2.get? id = some native) ∧
      (∀ (calls : List (Call α)) (id : TypeId), (∀ call ∈ calls, call.chain.Built) →
        (∀ call ∈ calls, call.type = id → ¬ call.AsksStandard) →
          (run calls cache).2.get? id = cache.get? id) ∧
      ∀ (before after : List (Call α)) (call : Call α),
        (∀ other ∈ before ++ [call], other.chain.Built) → cache.get? call.type = none →
        (∀ earlier ∈ before, earlier.type = call.type → ¬ earlier.AsksStandard) →
        call.AsksStandard →
          (run (before ++ call :: after) cache).2.get? call.type =
            some (call.registry.nativeAccess call.type) := by
  have native : ∀ (calls : List (Call α)) (id : TypeId), (∀ call ∈ calls, call.chain.Built) →
      (∀ call ∈ calls, call.type = id → ¬ call.AsksStandard) →
      ∀ call ∈ calls, call.type = id → ¬ call.AsksNative := by
    intro calls id built unasked call member same
    rw [asksNative_iff (built call member)]
    exact unasked call member same
  refine ⟨fun call built => perform_cache_eq built cache, ?_, ?_, ?_⟩
  · intro earlier later id native kept
    rw [run_append]
    exact get?_run_of_get? kept
  · intro calls id built unasked
    exact get?_run_of_unasked (native calls id built unasked)
  · intro before after call built absent unasked asks
    obtain ⟨builtBefore, builtCall⟩ := List.forall_mem_append.1 built
    have asksNative : call.AsksNative :=
      (asksNative_iff (builtCall call List.mem_cons_self)).2 asks
    exact get?_run_of_first absent (native before call.type builtBefore unasked) asksNative

end Call

namespace Sample

/-- A mapping recognises tags here, and native containers are not asked. -/
def mapped : Call Instance := ⟨registry, chain, gathered tags []⟩

/-- Tags are no container in this registry, where they are not declared. -/
def unregistered : Call Instance := ⟨bundling, .standard, .failing tags "down"⟩

/-- Tags are a native container in this registry. -/
def registered : Call Instance := ⟨registry, .standard, gathered tags ["fast"]⟩

def disagreeing : List (Call Instance) := [mapped, unregistered, registered]

end Sample

/-- The answer of another registry stands where tags are a native container. -/
theorem Call.run_firstAnswers_tags :
    (run Sample.disagreeing .empty).1 = [.ok (some []), .ok none, .ok none] ∧
      (run Sample.disagreeing .empty).2.get? Sample.tags = some .notApplicable ∧
      Sample.registry.nativeAccess Sample.tags = .eligible (.valueOf Sample.tag) := by
  obtain ⟨-, -, -, first⟩ := run_firstAnswers (α := Instance) .empty
  have mapped : Sample.mapped.chain.Built :=
    .extend .standard (show Chain.standard.extend Sample.registry Sample.tag (some Sample.tags) =
      .ok Sample.chain from rfl)
  have entry := first [Sample.mapped] [Sample.registered] Sample.unregistered
    (List.forall_mem_cons.2 ⟨mapped, List.forall_mem_singleton.2 .standard⟩) rfl
    (List.forall_mem_singleton.2 fun _ asks =>
      asks.2 _ List.mem_cons_self (Registry.isSubtype_self _ _))
    ⟨List.mem_cons_self, by simp [Sample.unregistered, Chain.standard, Chain.strategies]⟩
  exact ⟨rfl, entry, rfl⟩

end AnnotationContainers
