import AnnotationContainers.Proofs.Chain.Recognition

/-! # Calls that share a cache

Resolutions against one registry, made one after the other with a shared cache, come to what they
come to alone: the cache only ever keeps the answers that the registry gives. It keeps one for each
type that some call asks native containers about, so that neither the answers nor the cache in the
end depend on the order of the calls.
-/

namespace AnnotationContainers

universe u

/-- The cache keeps no answer but those of the registry. -/
def Cache.Consistent (cache : Cache) (r : Registry) : Prop :=
  ∀ id native, cache.get? id = some native → native = r.nativeAccess id

namespace Cache.Consistent

variable {cache : Cache} {r : Registry}

theorem empty (r : Registry) : Cache.empty.Consistent r := by
  intro id native h
  cases h

theorem answer (consistent : cache.Consistent r) (id : TypeId) :
    cache.answer r id = r.nativeAccess id := by
  unfold Cache.answer
  cases known : cache.get? id with
  | some native => exact consistent id native known
  | none => rfl

theorem learn (consistent : cache.Consistent r) (id : TypeId) :
    (cache.learn r id).Consistent r := by
  intro other native h
  rw [get?_learn] at h
  split at h
  next same =>
    cases h
    rw [← same, consistent.answer]
  next => exact consistent other native h

end Cache.Consistent

/-- The caches that only resolutions against `r` have filled, whatever the chains and
annotations. -/
inductive Cache.FilledBy (r : Registry) : Cache → Prop
  | empty : FilledBy r .empty
  | resolve {α : Type u} [Attributed α] {cache : Cache} (filled : FilledBy r cache) (chain : Chain)
      (a : α) : FilledBy r (chain.resolve r a cache).2

namespace Cache.FilledBy

variable {cache : Cache} {r : Registry}

theorem filled (h : FilledBy.{u} r cache) : Filled.{u} cache := by
  induction h with
  | empty => exact .empty
  | resolve _ chain a ih => exact .resolve ih chain r a

theorem consistent (h : FilledBy.{u} r cache) : cache.Consistent r := by
  induction h with
  | empty => exact .empty r
  | resolve _ chain a ih =>
    rw [Chain.resolve_cache]
    split
    · exact ih.learn _
    · exact ih

end Cache.FilledBy

structure Call (α : Type u) where
  registry : Registry
  chain : Chain
  annotation : α

namespace Call

variable {α : Type u} [Attributed α]

def type (call : Call α) : TypeId := Attributed.type call.annotation

def perform (call : Call α) (cache : Cache) : Except ReadError (Option (List α)) × Cache :=
  call.chain.resolve call.registry call.annotation cache

/-- The call asks whether its type is a native container. -/
def AsksNative (call : Call α) : Prop := call.chain.reachesStandard call.registry call.type

instance (call : Call α) : Decidable call.AsksNative :=
  inferInstanceAs (Decidable (_ = true))

/-- The answers of calls made one after the other, each with the cache that the call before it
leaves, and the cache in the end. -/
def run : List (Call α) → Cache → List (Except ReadError (Option (List α))) × Cache
  | [], cache => ([], cache)
  | call :: rest, cache =>
    let first := call.perform cache
    let others := run rest first.2
    (first.1 :: others.1, others.2)

theorem perform_cache (call : Call α) (cache : Cache) :
    (call.perform cache).2 =
      if call.AsksNative then cache.learn call.registry call.type else cache :=
  call.chain.resolve_cache call.registry call.annotation cache

/-- A call keeps every entry, and gives one to its own type if it asks and there is none. -/
theorem get?_perform_or (call : Call α) (cache : Cache) (id : TypeId) :
    (call.perform cache).2.get? id =
      (cache.get? id).or
        (if call.type = id ∧ call.AsksNative then some (call.registry.nativeAccess id)
        else none) := by
  rw [perform_cache]
  by_cases asks : call.AsksNative
  · by_cases same : call.type = id
    · rw [if_pos asks, if_pos ⟨same, asks⟩, Cache.get?_learn, if_pos same, same, Cache.answer]
      cases cache.get? id <;> rfl
    · simp [asks, same]
  · simp [asks]

/-- Of the cache only the answer for its own type matters to a call. -/
theorem perform_answer_congr (call : Call α) {a b : Cache}
    (same : a.answer call.registry call.type = b.answer call.registry call.type) :
    (call.perform a).1 = (call.perform b).1 := by
  apply Chain.resolve_eq_of_accessor?_eq
  simp only [type] at same
  rw [same]

section OneRegistry

variable {r : Registry} {cache : Cache}

theorem consistent_perform {call : Call α} (against : call.registry = r)
    (consistent : cache.Consistent r) : (call.perform cache).2.Consistent r := by
  rw [perform_cache, against]
  split
  · exact consistent.learn call.type
  · exact consistent

theorem consistent_run {calls : List (Call α)} (against : ∀ call ∈ calls, call.registry = r)
    (consistent : cache.Consistent r) : (run calls cache).2.Consistent r := by
  induction calls generalizing cache with
  | nil => exact consistent
  | cons call rest ih =>
    obtain ⟨here, later⟩ := List.forall_mem_cons.1 against
    exact ih later (consistent_perform here consistent)

theorem answers_run {calls : List (Call α)} (against : ∀ call ∈ calls, call.registry = r)
    (consistent : cache.Consistent r) :
    (run calls cache).1 = calls.map fun call => (call.perform .empty).1 := by
  induction calls generalizing cache with
  | nil => rfl
  | cons call rest ih =>
    obtain ⟨here, later⟩ := List.forall_mem_cons.1 against
    have alone : (call.perform cache).1 = (call.perform .empty).1 := by
      apply perform_answer_congr
      rw [here, consistent.answer, (Cache.Consistent.empty r).answer]
    rw [run, List.map_cons, alone, ih later (consistent_perform here consistent)]

theorem get?_perform {call : Call α} (against : call.registry = r) (consistent : cache.Consistent r)
    (id : TypeId) :
    (call.perform cache).2.get? id =
      if call.type = id ∧ call.AsksNative then some (r.nativeAccess id) else cache.get? id := by
  rw [get?_perform_or, against]
  cases known : cache.get? id with
  | some native => rw [consistent id native known, Option.some_or, ite_self]
  | none => exact Option.none_or

/-- After a run the cache keeps an answer for each type that some call asked native containers
about, besides those it kept before. -/
theorem get?_run {calls : List (Call α)} (against : ∀ call ∈ calls, call.registry = r)
    (consistent : cache.Consistent r) (id : TypeId) :
    (run calls cache).2.get? id =
      if ∃ call ∈ calls, call.type = id ∧ call.AsksNative then some (r.nativeAccess id)
      else cache.get? id := by
  induction calls generalizing cache with
  | nil => simp [run]
  | cons call rest ih =>
    obtain ⟨here, later⟩ := List.forall_mem_cons.1 against
    have step := ih later (consistent_perform here consistent)
    rw [run, step, get?_perform here consistent]
    by_cases first : call.type = id ∧ call.AsksNative
    · simp [first]
    · simp [first]

end OneRegistry

/-- Sharing a cache that starts empty shows in no answer. After any number of the calls every entry
is what the registry answers; each call answers as with a cache of its own; and the calls made in
another order answer the same, each of them, and leave the same cache. -/
theorem run_transparent {r : Registry} {calls : List (Call α)}
    (against : ∀ call ∈ calls, call.registry = r) :
    (∀ n id native, (run (calls.take n) .empty).2.get? id = some native →
        native = r.nativeAccess id) ∧
      (run calls .empty).1 = calls.map (fun call => (call.perform .empty).1) ∧
      ∀ reordered : List (Call α), reordered.Perm calls →
        (∀ i j : Nat, reordered[i]? = calls[j]? →
          (run reordered .empty).1[i]? = (run calls .empty).1[j]?) ∧
        (run reordered .empty).2 = (run calls .empty).2 := by
  have fresh := Cache.Consistent.empty r
  refine ⟨fun n => ?_, answers_run against fresh, fun reordered perm => ?_⟩
  · exact consistent_run (fun call member => against call (List.mem_of_mem_take member)) fresh
  · have againstReordered : ∀ call ∈ reordered, call.registry = r :=
      fun call member => against call (perm.mem_iff.1 member)
    constructor
    · intro i j same
      rw [answers_run againstReordered fresh, answers_run against fresh, List.getElem?_map,
        List.getElem?_map, same]
    · apply Cache.ext
      intro id
      simp only [get?_run againstReordered fresh, get?_run against fresh, perm.mem_iff]

end Call

/-- Hits, misses and a failing read, of a native container, a mapped subtype and neither. -/
def Sample.calls : List (Call Instance) :=
  [⟨registry, .standard, gathered tags ["fast"]⟩, ⟨registry, .standard, .failing tags "down"⟩,
    ⟨registry, chain, gathered labels []⟩, ⟨registry, .standard, annotation "fast"⟩]

theorem Call.run_transparent_calls :
    (∀ call ∈ Sample.calls, call.registry = Sample.registry) ∧
      (run Sample.calls .empty).1 =
        [.ok (some [Sample.annotation "fast"]), .error (.failed Sample.tags .value "down"),
          .ok (some []), .ok none] ∧
      (run Sample.calls.reverse .empty).2 = (run Sample.calls .empty).2 := by
  have against : ∀ call ∈ Sample.calls, call.registry = Sample.registry := by
    simp [Sample.calls]
  obtain ⟨-, answers, reordered⟩ := run_transparent against
  exact ⟨against, answers.trans rfl, (reordered _ (List.reverse_perm _)).2⟩

end AnnotationContainers
