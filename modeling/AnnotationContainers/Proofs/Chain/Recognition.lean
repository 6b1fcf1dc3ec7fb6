import AnnotationContainers.Instance.Basic
import AnnotationContainers.Proofs.Chain.Construction
import AnnotationContainers.Proofs.Chain.Consultation

/-! # Which annotations a chain recognises

The order of the strategies plays no part in what a resolution comes to. A chain recognises a type
if one of its mappings does, or if native containers are among its strategies and the type is one;
`resolve_eq_contents` then gives the outcome by reading `value` alone, and nothing is read of an
annotation of any other type. What makes this so is that every accessor of a built chain, and every
accessor that resolutions leave in a cache, has the name `value`.
-/

namespace AnnotationContainers

open Outcomes

universe u v

/-- The caches that only resolutions have filled, whatever the chains, registries and
annotations. -/
inductive Cache.Filled : Cache → Prop
  | empty : Filled .empty
  | resolve {α : Type u} [Attributed α] {cache : Cache} (filled : Filled cache) (chain : Chain)
      (r : Registry) (a : α) : Filled (chain.resolve r a cache).2

namespace Chain

variable {chain : Chain} {r : Registry} {cache : Cache} {id : TypeId}

/-- A mapping recognises the type, wherever it stands in the chain, or native containers are
recognised and the type is one. -/
def Recognises (chain : Chain) (r : Registry) (cache : Cache) (id : TypeId) : Prop :=
  (∃ mapping, .explicit mapping ∈ chain.strategies ∧ r.isSubtype id mapping.container) ∨
    .standard ∈ chain.strategies ∧ ∃ accessor, cache.answer r id = .eligible accessor

theorem isSome_accessor?_iff :
    (chain.accessor? r id (cache.answer r id)).isSome ↔ chain.Recognises r cache id := by
  rw [accessor?, List.findSome?_isSome_iff, Recognises]
  constructor
  · rintro ⟨strategy, member, found⟩
    cases strategy with
    | standard =>
      cases answer : cache.answer r id with
      | eligible accessor => exact .inr ⟨member, accessor, rfl⟩
      | notApplicable => simp [Strategy.accessor?, answer, NativeAccess.accessor?] at found
    | explicit mapping =>
      by_cases subtype : r.isSubtype id mapping.container
      · exact .inl ⟨mapping, member, subtype⟩
      · simp [Strategy.accessor?, subtype] at found
    | disabled => simp [Strategy.accessor?] at found
  · rintro (⟨mapping, member, subtype⟩ | ⟨member, accessor, eligible⟩)
    · exact ⟨.explicit mapping, member, by simp [Strategy.accessor?, subtype]⟩
    · exact ⟨.standard, member, by simp [Strategy.accessor?, eligible, NativeAccess.accessor?]⟩

instance : Decidable (chain.Recognises r cache id) := decidable_of_iff _ isSome_accessor?_iff

/-- What a resolution comes to depends on the accessor alone that the strategies find. -/
theorem resolve_eq_of_accessor?_eq {α : Type u} [Attributed α] {chain other : Chain}
    {r s : Registry} {a : α} {cache otherCache : Cache}
    (same : chain.accessor? r (Attributed.type a) (cache.answer r (Attributed.type a)) =
      other.accessor? s (Attributed.type a) (otherCache.answer s (Attributed.type a))) :
    (chain.resolve r a cache).1 = (other.resolve s a otherCache).1 := by
  simp only [resolve, resolveWith, consult_eq, same]
  cases other.accessor? s (Attributed.type a) (otherCache.answer s (Attributed.type a)) <;> rfl

theorem resolve_cache {α : Type u} [Attributed α] (chain : Chain) (r : Registry) (a : α)
    (cache : Cache) :
    (chain.resolve r a cache).2 =
      if chain.reachesStandard r (Attributed.type a) then cache.learn r (Attributed.type a)
      else cache := by
  simp only [resolve, resolveWith, consult_eq]
  cases chain.accessor? r (Attributed.type a) (cache.answer r (Attributed.type a)) <;> rfl

end Chain

theorem Registry.nativeAccess_name {r : Registry} {id : TypeId} {accessor : AttrDecl}
    (h : r.nativeAccess id = .eligible accessor) : accessor.name = .value :=
  (nativeAccess_eq_eligible_iff.1 h).2.1

namespace Cache

variable {cache : Cache} {r : Registry} {id : TypeId} {accessor : AttrDecl}

theorem answer_name
    (kept : ∀ id accessor, cache.get? id = some (.eligible accessor) → accessor.name = .value)
    (h : cache.answer r id = .eligible accessor) : accessor.name = .value := by
  unfold answer at h
  cases known : cache.get? id with
  | some native =>
    rw [known, Option.getD_some] at h
    exact kept id accessor (known.trans (congrArg some h))
  | none =>
    rw [known, Option.getD_none] at h
    exact Registry.nativeAccess_name h

theorem Filled.name (filled : Filled.{u} cache) :
    ∀ id accessor, cache.get? id = some (.eligible accessor) → accessor.name = .value := by
  induction filled with
  | empty =>
    intro id accessor h
    cases h
  | @resolve α _ cache _ chain r a ih =>
    rw [Chain.resolve_cache]
    split
    · intro id accessor h
      rw [get?_learn] at h
      split at h
      · exact answer_name ih (Option.some.inj h)
      · exact ih id accessor h
    · exact ih

end Cache

namespace Chain

variable {chain : Chain} {r : Registry} {cache : Cache} {id : TypeId}

theorem accessor?_name (built : chain.Built) (filled : Cache.Filled.{u} cache) {accessor : AttrDecl}
    (h : chain.accessor? r id (cache.answer r id) = some accessor) : accessor.name = .value := by
  obtain ⟨strategy, member, found⟩ := List.exists_of_findSome?_eq_some h
  cases strategy with
  | standard =>
    cases answer : cache.answer r id with
    | eligible native =>
      simp only [Strategy.accessor?, answer, NativeAccess.accessor?, Option.some.injEq] at found
      exact found ▸ Cache.answer_name filled.name answer
    | notApplicable => simp [Strategy.accessor?, answer, NativeAccess.accessor?] at found
  | explicit mapping =>
    simp only [Strategy.accessor?, Option.ite_none_right_eq_some, Option.some.injEq] at found
    rw [← found.2, built.accessor mapping member, AttrDecl.valueOf]
  | disabled => simp [Strategy.accessor?] at found

end Chain

/-- What a container of type `id` holds, by the outcome of reading its `value`: a failed read
fails, an array of nothing but annotations gives these, and anything else is refused. -/
def contents {α : Type u} (id : TypeId) :
    Except ReadError (Value α) → Except ReadError (Option (List α))
  | .error fault => .error fault
  | .ok (.array items) =>
    if items.all (·.nested?.isSome) then .ok (some (items.filterMap (·.nested?)))
    else .error (.notAnnotations id .value "an array of annotations")
  | .ok _ => .error (.notAnnotations id .value "an array of annotations")

private theorem mapM_nested? {α : Type u} (items : List (Value α)) :
    items.mapM Value.nested? =
      if items.all (·.nested?.isSome) then some (items.filterMap (·.nested?)) else none := by
  induction items with
  | nil => rfl
  | cons item rest ih =>
    rw [List.mapM_cons, ih, List.all_cons, List.filterMap_cons]
    cases item with
    | nested a => cases rest.all (·.nested?.isSome) <;> rfl
    | _ => rfl

theorem annotationsRead_value {α : Type u} (id : TypeId) (outcome : Except ReadError (Value α)) :
    some <$> annotationsRead id .value outcome = contents id outcome := by
  cases outcome with
  | error fault => rfl
  | ok value =>
    cases value with
    | array items =>
      have annotations : (Value.array items).annotations? = items.mapM Value.nested? := rfl
      simp only [annotationsRead, bind, Except.bind, annotations, mapM_nested?, contents]
      cases items.all (·.nested?.isSome) <;> rfl
    | _ => rfl

theorem annotationsRead_eq_ok_iff {α : Type u} {id : TypeId} {name : AttrName}
    {outcome : Except ReadError (Value α)} {xs : List α} :
    annotationsRead id name outcome = .ok xs ↔ outcome = .ok (.array (xs.map .nested)) := by
  cases outcome with
  | error fault => simp [annotationsRead, bind, Except.bind]
  | ok value =>
    rw [Except.ok.injEq, ← Value.annotations?_eq_some_iff]
    simp only [annotationsRead, bind, Except.bind]
    cases value.annotations? <;> simp [pure, Except.pure, throw, throwThe, MonadExceptOf.throw]

theorem contents_eq_ok_iff {α : Type u} {id : TypeId} {outcome : Except ReadError (Value α)}
    {repeated : Option (List α)} :
    contents id outcome = .ok repeated ↔
      ∃ xs, repeated = some xs ∧ outcome = .ok (.array (xs.map .nested)) := by
  rw [← annotationsRead_value, map_eq_ok_iff]
  apply exists_congr
  intro xs
  rw [annotationsRead_eq_ok_iff, and_comm, eq_comm]

namespace Chain

variable {α : Type u} {chain : Chain} {cache : Cache} {m : Type u → Type v} [Monad m]

theorem resolveWith_eq (built : chain.Built) (filled : Cache.Filled.{u} cache) (r : Registry)
    (id : TypeId) (read : AttrName → m (Except ReadError (Value α))) :
    (chain.resolveWith r id read cache).1 =
      if chain.Recognises r cache id then do return contents id (← read .value)
      else pure (.ok none) := by
  rw [resolveWith, consult_eq]
  cases found : chain.accessor? r id (cache.answer r id) with
  | none =>
    have unrecognised : ¬ chain.Recognises r cache id := by
      simp [← isSome_accessor?_iff, found]
    rw [if_neg unrecognised]
  | some accessor =>
    have recognised : chain.Recognises r cache id := by
      simp [← isSome_accessor?_iff, found]
    rw [if_pos recognised]
    simp only [accessor?_name built filled found, annotationsRead_value]

end Chain

/-- A resolution has an order-free meaning: if the chain recognises the type, it is the contents of
`value`, and otherwise there are none. The second part observes the reads, as actions of any monad:
`value` is read once for a recognised type, and nothing is read for another. -/
theorem resolve_eq_contents {α : Type u} [Attributed α] {chain : Chain} (built : chain.Built)
    {cache : Cache} (filled : Cache.Filled.{u} cache) (r : Registry) (a : α) :
    (chain.resolve r a cache).1 =
        (if chain.Recognises r cache (Attributed.type a) then
          contents (Attributed.type a) (Attributed.read a .value)
        else .ok none) ∧
      ∀ {m : Type u → Type v} [Monad m] (read : AttrName → m (Except ReadError (Value α))),
        (chain.resolveWith r (Attributed.type a) read cache).1 =
          if chain.Recognises r cache (Attributed.type a) then do
            return contents (Attributed.type a) (← read .value)
          else pure (.ok none) := by
  exact ⟨Chain.resolveWith_eq (m := Id) built filled r _ (Attributed.read a),
    fun read => Chain.resolveWith_eq built filled r _ read⟩

namespace Sample

def tag : TypeId := ⟨"a.Tag", by decide⟩
def tags : TypeId := ⟨"a.Tags", by decide⟩
def labels : TypeId := ⟨"a.Labels", by decide⟩

/-- Tags are gathered in a native container, and a subtype of it declares a further attribute. -/
def registry : Registry where
  types := [
    { id := labels, supertypes := [tags],
      attributes := [⟨⟨"colour", by decide⟩, .string⟩, .valueOf tag] },
    { id := tag, attributes := [⟨.value, .string⟩], container := some tags },
    { id := tags, attributes := [.valueOf tag] }]
  ascending := by decide
  distinct := by decide

def annotation (text : String) : Instance := .record tag [(.value, .string text)]

def gathered (type : TypeId) (texts : List String) : Instance :=
  .record type [(.value, .array (texts.map (.nested <| annotation ·)))]

/-- The container mapped explicitly, before native containers. -/
def chain : Chain := ⟨.explicit ⟨tag, tags, .valueOf tag⟩, [.standard]⟩

/-- What a cache holds after native containers have been asked for `tags`. -/
def cache : Cache := (Chain.standard.resolve registry (gathered tags ["fast"]) .empty).2

end Sample

/-- A subtype that is no native container is recognised through the mapping of its supertype. -/
theorem resolve_eq_contents_labels :
    Sample.chain.Built ∧ Cache.Filled.{0} Sample.cache ∧
      (Sample.chain.resolve Sample.registry (Sample.gathered Sample.labels ["fast", "slow"])
        Sample.cache).1 = .ok (some [Sample.annotation "fast", Sample.annotation "slow"]) := by
  have built : Sample.chain.Built :=
    .extend .standard (show Chain.standard.extend Sample.registry Sample.tag (some Sample.tags) =
      .ok Sample.chain from rfl)
  have filled : Cache.Filled.{0} Sample.cache := .resolve .empty _ _ _
  refine ⟨built, filled, ?_⟩
  rw [(resolve_eq_contents.{0, 0} built filled _ _).1, if_pos (by decide)]
  rfl

end AnnotationContainers
