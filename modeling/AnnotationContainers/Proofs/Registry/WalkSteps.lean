import AnnotationContainers.Proofs.Registry.Reachability
import Mathlib.Algebra.GroupWithZero.Nat

/-! # The steps of walks

A step of a walk takes a pending type, and looks at its supertypes unless the type is expanded
already. No type is looked at twice, so that no more types become pending than supertypes are
declared. This bounds the types that a walk takes, whatever cycles and repetitions the declarations
contain, and walks with a larger bound on their steps give the same answer.
-/

namespace AnnotationContainers

namespace Walk

def taken (walk : Walk) : List TypeId := walk.pending.take 1

/-- The type whose supertypes a step looks at: the one that it takes, unless that is expanded. -/
def scanned (walk : Walk) : List TypeId := walk.taken.filter (· ∉ walk.expanded)

theorem length_taken_le (walk : Walk) : walk.taken.length ≤ 1 := List.length_take_le 1 walk.pending

theorem nodup_scanned (walk : Walk) : walk.scanned.Nodup := by
  apply List.Nodup.filter
  obtain ⟨expanded, pending⟩ := walk
  cases pending with
  | nil => exact List.nodup_nil
  | cons id rest => exact List.nodup_singleton id

theorem not_mem_expanded {walk : Walk} {id : TypeId} (member : id ∈ walk.scanned) :
    id ∉ walk.expanded := by
  simpa using (List.mem_filter.1 member).2

end Walk

namespace Registry

/-- The walk, continued without any bound, comes to an end with the answer `found`. On the way its
steps take the types `taken` and look at the supertypes of the types `scanned`, in this order. -/
inductive WalkRuns (r : Registry) (target : TypeId) :
    Walk → List TypeId → List TypeId → Bool → Prop
  | answer {walk : Walk} {found : Bool} (step : r.walkStep target walk = .answer found) :
      WalkRuns r target walk walk.taken walk.scanned found
  | more {walk next : Walk} {taken scanned : List TypeId} {found : Bool}
      (step : r.walkStep target walk = .more next)
      (later : WalkRuns r target next taken scanned found) :
      WalkRuns r target walk (walk.taken ++ taken) (walk.scanned ++ scanned) found

variable {r s : Registry} {target : TypeId} {walk next : Walk} {taken scanned : List TypeId}
  {found : Bool}

theorem WalkEnds.exists_walkRuns (ends : r.WalkEnds target walk found) :
    ∃ taken scanned, r.WalkRuns target walk taken scanned found := by
  induction ends with
  | answer step => exact ⟨_, _, .answer step⟩
  | more step _ ih =>
    obtain ⟨taken, scanned, later⟩ := ih
    exact ⟨_, _, .more step later⟩

theorem walkStep_congr (same : ∀ id ∈ walk.scanned, r.supertypes id = s.supertypes id) :
    r.walkStep target walk = s.walkStep target walk := by
  obtain ⟨expanded, pending⟩ := walk
  cases pending with
  | nil => rfl
  | cons id rest =>
    by_cases old : id ∈ expanded
    · simp only [walkStep, if_pos old]
    · have declared : r.supertypes id = s.supertypes id :=
        same id (by simp [Walk.scanned, Walk.taken, old])
      simp only [walkStep, declared]

namespace Steps

/-- Only after it has taken a type does a walk go on. -/
theorem length_taken (step : Steps r target walk (.more next)) : walk.taken.length = 1 := by
  cases step <;> rfl

theorem expanded_eq (step : Steps r target walk (.more next)) :
    next.expanded = walk.scanned ++ walk.expanded := by
  cases step with
  | skipped old => simp [Walk.scanned, Walk.taken, old]
  | expanded fresh _ => simp [Walk.scanned, Walk.taken, fresh]

end Steps

theorem length_taken_le_cost (r : Registry) (walk : Walk) : walk.taken.length ≤ r.cost walk := by
  have pending : walk.taken.length ≤ walk.pending.length := List.length_take_le' 1 walk.pending
  rw [cost]
  omega

namespace WalkRuns

/-- What a walk looks at is not expanded yet, and is looked at once. -/
theorem nodup_scanned (runs : r.WalkRuns target walk taken scanned found) :
    scanned.Nodup ∧ ∀ id ∈ scanned, id ∉ walk.expanded := by
  induction runs with
  | @answer walk _ _ => exact ⟨walk.nodup_scanned, fun _ => Walk.not_mem_expanded⟩
  | @more walk next _ later _ step _ ih =>
    have stepped := r.steps_walkStep target walk
    rw [step] at stepped
    obtain ⟨once, fresh⟩ := ih
    rw [stepped.expanded_eq] at fresh
    refine ⟨List.nodup_append'.2 ⟨walk.nodup_scanned, once, ?_⟩, ?_⟩
    · intro id here again
      exact fresh id again (List.mem_append_left _ here)
    · intro id member
      rcases List.mem_append.1 member with here | again
      · exact Walk.not_mem_expanded here
      · exact fun old => fresh id again (List.mem_append_right _ old)

theorem length_le_cost (runs : r.WalkRuns target walk taken scanned found) :
    taken.length ≤ r.cost walk := by
  induction runs with
  | @answer walk _ _ => exact r.length_taken_le_cost walk
  | @more walk _ _ _ _ step _ ih =>
    have stepped := r.steps_walkStep target walk
    rw [step] at stepped
    have one := stepped.length_taken
    have drop := stepped.cost_more
    rw [List.length_append]
    omega

/-- A bound that the walk keeps to makes no difference, and a smaller one leaves no answer. -/
theorem walkAnswer?_eq (runs : r.WalkRuns target walk taken scanned found) (fuel : Nat) :
    r.walkAnswer? target fuel walk = if taken.length ≤ fuel then some found else none := by
  induction runs generalizing fuel with
  | @answer walk found step =>
    have stepped := r.steps_walkStep target walk
    rw [step] at stepped
    cases fuel with
    | zero =>
      cases stepped <;> rfl
    | succ fuel =>
      have short : walk.taken.length ≤ fuel + 1 := by
        have one := walk.length_taken_le
        omega
      rw [walkAnswer?, step, if_pos short]
  | @more walk next taken scanned found step _ ih =>
    have stepped := r.steps_walkStep target walk
    rw [step] at stepped
    have one := stepped.length_taken
    cases fuel with
    | zero =>
      have long : ¬ (walk.taken ++ taken).length ≤ 0 := by
        rw [List.length_append]
        omega
      rw [if_neg long]
      cases stepped <;> rfl
    | succ fuel =>
      have shift : (walk.taken ++ taken).length ≤ fuel + 1 ↔ taken.length ≤ fuel := by
        rw [List.length_append]
        omega
      simp only [walkAnswer?, step, ih, shift]

/-- A walk runs the same in every registry that declares the same supertypes of what it looks at. -/
theorem congr (runs : r.WalkRuns target walk taken scanned found)
    (same : ∀ id ∈ scanned, r.supertypes id = s.supertypes id) :
    s.WalkRuns target walk taken scanned found := by
  induction runs with
  | answer step => exact .answer ((walkStep_congr same).symm.trans step)
  | more step _ ih =>
    obtain ⟨here, later⟩ := List.forall_mem_append.1 same
    exact .more ((walkStep_congr here).symm.trans step) (ih later)

end WalkRuns

theorem walkBound_eq (r : Registry) :
    r.walkBound = 1 + (r.types.map (·.supertypes.length)).sum := by
  rw [walkBound, List.sum_eq_foldr, List.foldr_map]

/-- The walk from a candidate comes to an end by itself. However it runs, it looks at the supertypes
of no type twice, and takes one type and as many more as supertypes are declared at most. A bound on
its steps makes a difference to the answer only if the walk takes more types than the bound allows,
so that none does from that number on. What a run looks at is all that it depends on. -/
theorem walk_bounded (r : Registry) (candidate target : TypeId) :
    (∃ taken scanned found, r.WalkRuns target ⟨[], [candidate]⟩ taken scanned found) ∧
      ∀ taken scanned found, r.WalkRuns target ⟨[], [candidate]⟩ taken scanned found →
        scanned.Nodup ∧
        taken.length ≤ 1 + (r.types.map (·.supertypes.length)).sum ∧
        (∀ fuel, r.walkAnswer? target fuel ⟨[], [candidate]⟩ =
          if taken.length ≤ fuel then some found else none) ∧
        (∀ fuel, 1 + (r.types.map (·.supertypes.length)).sum ≤ fuel →
          r.walkAnswer? target fuel ⟨[], [candidate]⟩ =
            r.walkAnswer? target (1 + (r.types.map (·.supertypes.length)).sum)
              ⟨[], [candidate]⟩) ∧
        r.isSubtype candidate target = (decide (candidate = target) || found) ∧
        ∀ s : Registry, (∀ id ∈ scanned, r.supertypes id = s.supertypes id) →
          s.WalkRuns target ⟨[], [candidate]⟩ taken scanned found := by
  refine ⟨?_, fun taken scanned found runs => ?_⟩
  · obtain ⟨found, ends, -⟩ := r.exists_walkEnds candidate target
    obtain ⟨taken, scanned, runs⟩ := ends.exists_walkRuns
    exact ⟨taken, scanned, found, runs⟩
  have bound : taken.length ≤ 1 + (r.types.map (·.supertypes.length)).sum := by
    rw [← walkBound_eq, ← cost_start r candidate]
    exact runs.length_le_cost
  refine ⟨runs.nodup_scanned.1, bound, runs.walkAnswer?_eq, ?_, ?_, fun s => runs.congr⟩
  · intro fuel enough
    rw [runs.walkAnswer?_eq, runs.walkAnswer?_eq, if_pos bound, if_pos (Nat.le_trans bound enough)]
  · rw [isSubtype, walkBound_eq, runs.walkAnswer?_eq, if_pos bound, Option.getD_some]

end Registry

/-- A type that no draft leads to. -/
def Sample.cover : TypeId := ⟨"a.Cover", by decide⟩

/-- The walk from drafts to a type out of reach takes every type that becomes pending, which is as
many as can be: notes, pages and drafts come up again, and archives declare nothing. -/
theorem Registry.walk_bounded_papers :
    ∃ taken scanned,
      Sample.papers.WalkRuns Sample.cover ⟨[], [Sample.draft]⟩ taken scanned false ∧
        scanned.Nodup ∧ taken.length = 8 ∧
        1 + (Sample.papers.types.map (·.supertypes.length)).sum = 8 ∧
        Sample.papers.walkAnswer? Sample.cover 7 ⟨[], [Sample.draft]⟩ = none ∧
        Sample.papers.walkAnswer? Sample.cover 100 ⟨[], [Sample.draft]⟩ = some false := by
  obtain ⟨⟨taken, scanned, found, runs⟩, each⟩ :=
    walk_bounded Sample.papers Sample.draft Sample.cover
  obtain ⟨once, bound, answers, more, -⟩ := each taken scanned found runs
  have cutOff : Sample.papers.walkAnswer? Sample.cover 7 ⟨[], [Sample.draft]⟩ = none := by decide
  have answer : Sample.papers.walkAnswer? Sample.cover 8 ⟨[], [Sample.draft]⟩ = some false := by
    decide
  have long : ¬ taken.length ≤ 7 := by
    intro short
    rw [answers 7, if_pos short] at cutOff
    cases cutOff
  have total : 1 + (Sample.papers.types.map (·.supertypes.length)).sum = 8 := by decide
  rw [total] at bound more
  have length : taken.length = 8 := by omega
  obtain rfl : found = false := by
    rw [answers 8, if_pos bound] at answer
    exact Option.some.inj answer
  exact ⟨taken, scanned, runs, once, length, total, cutOff, (more 100 (by decide)).trans answer⟩

end AnnotationContainers
