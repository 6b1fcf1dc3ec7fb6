import AnnotationContainers.Proofs.Registry.Listing
import AnnotationContainers.Registry.Subtype
import Mathlib.Algebra.BigOperators.Group.Finset.Basic
import Mathlib.Logic.Relation

/-! # Subtypes and declared supertypes

The walk that decides subtyping finds exactly the types that declared supertypes lead to. What is
expanded leads only to what is expanded or pending, so that a walk that has nothing pending has seen
everything; and each step lowers the cost of the walk by one, so that it ends within its bound.
-/

namespace AnnotationContainers

open Relation

namespace Registry

def Declares (r : Registry) (id supertype : TypeId) : Prop :=
  ∃ decl, r.get? id = some decl ∧ supertype ∈ decl.supertypes

theorem declares_iff {r : Registry} {id supertype : TypeId} :
    r.Declares id supertype ↔ supertype ∈ r.supertypes id := by
  rw [Declares, supertypes]
  cases r.get? id <;> simp

/-- What a step of a walk to `target` can be. -/
inductive Steps (r : Registry) (target : TypeId) : Walk → Walk.Progress → Prop
  | ended {expanded : List TypeId} : Steps r target ⟨expanded, []⟩ (.answer false)
  | skipped {expanded rest : List TypeId} {next : TypeId} (old : next ∈ expanded) :
      Steps r target ⟨expanded, next :: rest⟩ (.more ⟨expanded, rest⟩)
  | found {expanded rest : List TypeId} {next : TypeId} (fresh : next ∉ expanded)
      (declared : r.Declares next target) :
      Steps r target ⟨expanded, next :: rest⟩ (.answer true)
  | expanded {expanded rest : List TypeId} {next : TypeId} (fresh : next ∉ expanded)
      (undeclared : ¬ r.Declares next target) :
      Steps r target ⟨expanded, next :: rest⟩
        (.more ⟨next :: expanded, (r.supertypes next).reverse ++ rest⟩)

theorem steps_walkStep (r : Registry) (target : TypeId) (walk : Walk) :
    Steps r target walk (r.walkStep target walk) := by
  obtain ⟨expanded, pending⟩ := walk
  cases pending with
  | nil => exact .ended
  | cons next rest =>
    by_cases old : next ∈ expanded
    · simp only [walkStep, if_pos old]
      exact .skipped old
    · by_cases declared : target ∈ r.supertypes next
      · simp only [walkStep, if_neg old, if_pos declared]
        exact .found old (declares_iff.2 declared)
      · simp only [walkStep, if_neg old, if_neg declared]
        exact .expanded old (mt declares_iff.1 declared)

def ids (r : Registry) : Finset TypeId := (r.types.map (·.id)).toFinset

/-- How many supertypes are declared by the types that are not expanded yet. -/
def unexpanded (r : Registry) (expanded : List TypeId) : Nat :=
  ∑ id ∈ r.ids \ expanded.toFinset, (r.supertypes id).length

/-- The steps that a walk has left at most: what is pending, and what may become so. -/
def cost (r : Registry) (walk : Walk) : Nat := walk.pending.length + r.unexpanded walk.expanded

variable {r : Registry} {candidate target : TypeId} {walk : Walk}

theorem supertypes_of_mem {decl : TypeDecl} (member : decl ∈ r.types) :
    r.supertypes decl.id = decl.supertypes := by
  rw [supertypes, get?_eq_some_iff.2 ⟨member, rfl⟩]

theorem supertypes_of_not_mem_ids {id : TypeId} (unregistered : id ∉ r.ids) :
    r.supertypes id = [] := by
  rw [ids, List.mem_toFinset, ← get?_eq_none_iff] at unregistered
  rw [supertypes, unregistered]

theorem unexpanded_cons {next : TypeId} {expanded : List TypeId} (fresh : next ∉ expanded) :
    (r.supertypes next).length + r.unexpanded (next :: expanded) = r.unexpanded expanded := by
  unfold unexpanded
  rw [List.toFinset_cons, Finset.sdiff_insert]
  by_cases registered : next ∈ r.ids
  · apply Finset.add_sum_erase _ fun id => (r.supertypes id).length
    simp [registered, fresh]
  · rw [supertypes_of_not_mem_ids registered, List.length_nil, Nat.zero_add]
    apply Finset.sum_erase
    rw [supertypes_of_not_mem_ids registered, List.length_nil]

theorem cost_start (r : Registry) (candidate : TypeId) :
    r.cost ⟨[], [candidate]⟩ = r.walkBound := by
  have lengths : ∀ types : List TypeDecl, (∀ decl ∈ types, decl ∈ r.types) →
      (types.map fun decl => (r.supertypes decl.id).length).sum =
        types.foldr (fun decl total => decl.supertypes.length + total) 0 := by
    intro types registered
    induction types with
    | nil => rfl
    | cons decl rest ih =>
      obtain ⟨here, later⟩ := List.forall_mem_cons.1 registered
      rw [List.map_cons, List.sum_cons, ih later, supertypes_of_mem here, List.foldr_cons]
  have total : r.unexpanded [] = (r.types.map fun decl => (r.supertypes decl.id).length).sum := by
    rw [unexpanded, List.toFinset_nil, Finset.sdiff_empty, ids,
      List.sum_toFinset (fun id => (r.supertypes id).length) r.nodup_ids, List.map_map]
    rfl
  rw [cost, total, lengths r.types fun _ member => member, walkBound]
  rfl

theorem Steps.cost_more {next : Walk} (step : Steps r target walk (.more next)) :
    r.cost next + 1 = r.cost walk := by
  cases step with
  | skipped => simp only [cost, List.length_cons]; omega
  | @expanded expanded rest next fresh _ =>
    have drop := r.unexpanded_cons fresh
    simp only [cost, List.length_append, List.length_reverse, List.length_cons]
    omega

/-- What a walk from `candidate` to `target` has established so far. -/
structure Explores (r : Registry) (candidate target : TypeId) (walk : Walk) : Prop where
  start : candidate ∈ walk.expanded ∨ candidate ∈ walk.pending
  reached : ∀ id ∈ walk.pending, ReflTransGen r.Declares candidate id
  closed : ∀ id ∈ walk.expanded, ∀ supertype, r.Declares id supertype →
    supertype ∈ walk.expanded ∨ supertype ∈ walk.pending
  missed : ∀ id ∈ walk.expanded, ¬ r.Declares id target

theorem explores_start (r : Registry) (candidate target : TypeId) :
    Explores r candidate target ⟨[], [candidate]⟩ where
  start := by simp
  reached := by simpa using ReflTransGen.refl
  closed := nofun
  missed := nofun

theorem Explores.step {next : Walk} (explores : Explores r candidate target walk)
    (step : Steps r target walk (.more next)) : Explores r candidate target next := by
  obtain ⟨start, reached, closed, missed⟩ := explores
  cases step with
  | @skipped expanded rest next old =>
    -- What was pending is pending still, but for `next`, which is expanded.
    have known : ∀ id, id ∈ expanded ∨ id ∈ next :: rest → id ∈ expanded ∨ id ∈ rest := by
      rintro id (done | waiting)
      · exact .inl done
      · rcases List.mem_cons.1 waiting with rfl | waiting
        · exact .inl old
        · exact .inr waiting
    exact ⟨known candidate start, (List.forall_mem_cons.1 reached).2,
      fun id done supertype declared => known supertype (closed id done supertype declared), missed⟩
  | @expanded expanded rest next fresh undeclared =>
    obtain ⟨here, later⟩ := List.forall_mem_cons.1 reached
    have known : ∀ id, id ∈ expanded ∨ id ∈ next :: rest →
        id ∈ next :: expanded ∨ id ∈ (r.supertypes next).reverse ++ rest := by
      rintro id (done | waiting)
      · exact .inl (List.mem_cons_of_mem _ done)
      · rcases List.mem_cons.1 waiting with rfl | waiting
        · exact .inl List.mem_cons_self
        · exact .inr (List.mem_append_right _ waiting)
    refine ⟨known candidate start, ?_, ?_, List.forall_mem_cons.2 ⟨undeclared, missed⟩⟩
    · intro id waiting
      rcases List.mem_append.1 waiting with declared | waiting
      · exact here.tail (declares_iff.2 (List.mem_reverse.1 declared))
      · exact later id waiting
    · intro id done supertype declared
      rcases List.mem_cons.1 done with rfl | done
      · exact .inr (List.mem_append_left _ (List.mem_reverse.2 (declares_iff.1 declared)))
      · exact known supertype (closed id done supertype declared)

/-- A walk that ends has found the target exactly if declared supertypes lead to it. -/
theorem Explores.answer {found : Bool} (explores : Explores r candidate target walk)
    (step : Steps r target walk (.answer found)) :
    found = true ↔ TransGen r.Declares candidate target := by
  obtain ⟨start, reached, closed, missed⟩ := explores
  cases step with
  | @ended expanded =>
    have seen : ∀ id, ReflTransGen r.Declares candidate id → id ∈ expanded := by
      intro id path
      induction path with
      | refl => simpa using start
      | tail _ declared ih => simpa using closed _ ih _ declared
    refine ⟨nofun, fun path => ?_⟩
    obtain ⟨last, path, declared⟩ := TransGen.tail'_iff.1 path
    exact (missed last (seen last path) declared).elim
  | found _ declared =>
    refine ⟨fun _ => ?_, fun _ => rfl⟩
    exact TransGen.tail' (reached _ List.mem_cons_self) declared

theorem Explores.walkAnswer? {fuel : Nat} (explores : Explores r candidate target walk)
    (enough : r.cost walk ≤ fuel) :
    ∃ found, r.walkAnswer? target fuel walk = some found ∧
      (found = true ↔ TransGen r.Declares candidate target) := by
  induction fuel generalizing walk with
  | zero =>
    obtain ⟨expanded, pending⟩ := walk
    obtain rfl : pending = [] := by
      rw [← List.length_eq_zero_iff]
      simp only [cost] at enough
      omega
    exact ⟨false, rfl, explores.answer .ended⟩
  | succ fuel ih =>
    have step := r.steps_walkStep target walk
    rw [Registry.walkAnswer?]
    cases progress : r.walkStep target walk with
    | answer found =>
      rw [progress] at step
      exact ⟨found, rfl, explores.answer step⟩
    | more next =>
      rw [progress] at step
      have drop := step.cost_more
      exact ih (explores.step step) (by omega)

/-- Subtypes are the types from which declared supertypes lead to the type. -/
theorem isSubtype_iff :
    r.isSubtype candidate target ↔ ReflTransGen r.Declares candidate target := by
  obtain ⟨found, answer, meaning⟩ :=
    (explores_start r candidate target).walkAnswer? (r.cost_start candidate).le
  rw [reflTransGen_iff_eq_or_transGen, ← meaning, isSubtype, answer, Option.getD_some,
    Bool.or_eq_true, decide_eq_true_iff, eq_comm]

end Registry

end AnnotationContainers
