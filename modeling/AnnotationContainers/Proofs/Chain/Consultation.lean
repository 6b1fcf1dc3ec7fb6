import AnnotationContainers.Chain.Resolution

/-! # What consulting a chain comes to

Asking the strategies in turn threads the cache through them, up to the first one that recognises
the type. What comes of it does not depend on the threading: the accessor is that of this strategy,
with one answer on native containers throughout, and the cache gains at most that answer. It does
exactly if no mapping recognises the type before native containers are looked at.
-/

namespace AnnotationContainers

namespace NativeAccess

def accessor? : NativeAccess → Option AttrDecl
  | .eligible accessor => some accessor
  | .notApplicable => none

end NativeAccess

namespace Cache

variable {cache : Cache} {r : Registry} {id : TypeId}

def answer (cache : Cache) (r : Registry) (id : TypeId) : NativeAccess :=
  (cache.get? id).getD (r.nativeAccess id)

def learn (cache : Cache) (r : Registry) (id : TypeId) : Cache :=
  (cache.getOrCompute id fun _ => r.nativeAccess id).2

theorem getOrCompute_nativeAccess (cache : Cache) (r : Registry) (id : TypeId) :
    cache.getOrCompute id (fun _ => r.nativeAccess id) = (cache.answer r id, cache.learn r id) := by
  apply Prod.ext
  · unfold answer getOrCompute
    split <;> simp [*]
  · rfl

@[simp] theorem get?_learn (other : TypeId) :
    (cache.learn r id).get? other =
      if id = other then some (cache.answer r id) else cache.get? other := by
  rw [learn, get?_getOrCompute, getOrCompute_nativeAccess]

@[simp] theorem answer_learn : (cache.learn r id).answer r id = cache.answer r id := by
  simp [answer]

theorem learn_of_get? {known : NativeAccess} (h : cache.get? id = some known) :
    cache.learn r id = cache := by
  rw [learn, getOrCompute_of_get? h]

@[simp] theorem learn_learn : (cache.learn r id).learn r id = cache.learn r id :=
  learn_of_get? (by rw [get?_learn, if_pos rfl])

end Cache

namespace Strategy

/-- Where a strategy finds the annotations of a container of type `id`, given the answer on native
containers. -/
def accessor? (r : Registry) (id : TypeId) (native : NativeAccess) : Strategy → Option AttrDecl
  | .standard => native.accessor?
  | .explicit mapping => if r.isSubtype id mapping.container then some mapping.accessor else none
  | .disabled => none

/-- No mapping recognises the type before native containers are looked at. -/
def reachesStandard (r : Registry) (id : TypeId) : List Strategy → Bool
  | [] => false
  | .standard :: _ => true
  | .explicit mapping :: rest => !r.isSubtype id mapping.container && reachesStandard r id rest
  | .disabled :: rest => reachesStandard r id rest

section Asked

variable (r : Registry) (id : TypeId)

/-- The strategies that are asked about a type before one of them recognises it, and this one. Each
is asked with the cache that the one before it left. -/
def asked : List Strategy → Cache → List Strategy
  | [], _ => []
  | strategy :: rest, cache =>
    match consult r id [strategy] cache with
    | (some _, _) => [strategy]
    | (none, cache) => strategy :: asked rest cache

theorem consult_cons (strategy : Strategy) (rest : List Strategy) (cache : Cache) :
    consult r id (strategy :: rest) cache =
      match consult r id [strategy] cache with
      | (some accessor, cache) => (some accessor, cache)
      | (none, cache) => consult r id rest cache := by
  cases strategy with
  | standard =>
    simp only [consult]
    cases cache.getOrCompute id fun _ => r.nativeAccess id with
    | mk native cache => cases native <;> rfl
  | explicit mapping =>
    simp only [consult]
    split <;> rfl
  | disabled => rfl

theorem consult_asked (strategies : List Strategy) (cache : Cache) :
    consult r id (asked r id strategies cache) cache = consult r id strategies cache := by
  induction strategies generalizing cache with
  | nil => rfl
  | cons strategy rest ih =>
    rw [consult_cons r id strategy rest, asked]
    cases answer : consult r id [strategy] cache with
    | mk accessor? left =>
      cases accessor? with
      | some accessor => exact answer
      | none =>
        simp only
        rw [consult_cons, answer]
        exact ih left

/-- A strategy is asked exactly if none before it recognises the type. -/
theorem getElem?_asked (strategies : List Strategy) (cache : Cache) (k : Nat) :
    (asked r id strategies cache)[k]? =
      if (consult r id (strategies.take k) cache).1 = none then strategies[k]? else none := by
  induction strategies generalizing cache k with
  | nil => simp [asked]
  | cons strategy rest ih =>
    cases k with
    | zero =>
      rw [asked, List.take_zero, if_pos (by rfl)]
      split <;> rfl
    | succ k =>
      rw [asked, List.take_succ_cons, consult_cons r id strategy (rest.take k)]
      cases consult r id [strategy] cache with
      | mk accessor? left =>
        cases accessor? with
        | some accessor => simp
        | none => exact ih left k

end Asked

theorem consult_eq (r : Registry) (id : TypeId) (strategies : List Strategy) (cache : Cache) :
    consult r id strategies cache =
      (strategies.findSome? (accessor? r id (cache.answer r id)),
        if reachesStandard r id strategies then cache.learn r id else cache) := by
  induction strategies generalizing cache with
  | nil => rfl
  | cons strategy rest ih =>
    cases strategy with
    | standard =>
      rw [consult, Cache.getOrCompute_nativeAccess, List.findSome?_cons, accessor?]
      cases answer : cache.answer r id with
      | eligible accessor => rfl
      | notApplicable =>
        -- Whatever the rest asks of the cache, this answer is kept already.
        simp only [NativeAccess.accessor?, ih, Cache.answer_learn, Cache.learn_learn, answer,
          reachesStandard, if_true, ite_self]
    | explicit mapping =>
      rw [consult, List.findSome?_cons, accessor?]
      by_cases recognised : r.isSubtype id mapping.container
      · simp [recognised, reachesStandard]
      · simp [recognised, reachesStandard, ih]
    | disabled => exact ih cache

end Strategy

namespace Chain

variable (chain : Chain) (r : Registry) (id : TypeId) (cache : Cache)

def accessor? (native : NativeAccess) : Option AttrDecl :=
  chain.strategies.findSome? (Strategy.accessor? r id native)

def reachesStandard : Bool := Strategy.reachesStandard r id chain.strategies

def asked : List Strategy := Strategy.asked r id chain.strategies cache

theorem consult_eq :
    chain.consult r id cache =
      (chain.accessor? r id (cache.answer r id),
        if chain.reachesStandard r id then cache.learn r id else cache) :=
  Strategy.consult_eq r id chain.strategies cache

end Chain

end AnnotationContainers
