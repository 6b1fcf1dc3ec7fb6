import AnnotationContainers.Entries
import Mathlib.Data.List.Forall2

/-! # Outcomes of several steps

A sequence of steps that may fail gives a result exactly if every step does. `mapM` over a list
relates the results to the items one for one, and results that are stored under keys of the items
are found under these keys.
-/

namespace AnnotationContainers.Outcomes

universe u v w

variable {ε δ : Type u} {α β : Type v}

@[simp] theorem ok_bind (a : α) (f : α → Except ε β) : (Except.ok a >>= f) = f a := rfl

theorem bind_eq_ok_iff {x : Except ε α} {f : α → Except ε β} {b : β} :
    (x >>= f) = .ok b ↔ ∃ a, x = .ok a ∧ f a = .ok b := by
  cases x <;> simp [bind, Except.bind]

theorem map_eq_ok_iff {x : Except ε α} {f : α → β} {b : β} :
    (f <$> x) = .ok b ↔ ∃ a, x = .ok a ∧ f a = b := by
  cases x <;> simp [Functor.map, Except.map]

theorem bind_eq_error_iff {x : Except ε α} {f : α → Except ε β} {fault : ε} :
    (x >>= f) = .error fault ↔ x = .error fault ∨ ∃ a, x = .ok a ∧ f a = .error fault := by
  cases x <;> simp [bind, Except.bind]

theorem map_eq_error_iff {x : Except ε α} {f : α → β} {fault : ε} :
    (f <$> x) = .error fault ↔ x = .error fault := by
  cases x <;> simp [Functor.map, Except.map]

theorem mapError_eq_ok_iff {f : ε → δ} {x : Except ε α} {a : α} :
    x.mapError f = .ok a ↔ x = .ok a := by
  cases x <;> simp [Except.mapError]

theorem mapError_eq_error_iff {f : ε → δ} {x : Except ε α} {fault : δ} :
    x.mapError f = .error fault ↔ ∃ cause, x = .error cause ∧ f cause = fault := by
  cases x <;> simp [Except.mapError]

def fault? : Except ε α → Option ε
  | .ok _ => none
  | .error fault => some fault

theorem fault?_eq_some_iff {x : Except ε α} {fault : ε} :
    fault? x = some fault ↔ x = .error fault := by
  cases x <;> simp [fault?]

theorem fault?_eq_none_iff {x : Except ε α} : fault? x = none ↔ ∃ a, x = .ok a := by
  cases x <;> simp [fault?]

theorem fault?_bind_ok (x : Except ε α) (f : α → β) :
    fault? (do let a ← x; .ok (f a)) = fault? x := by
  cases x <;> rfl

theorem fault?_bind_bind_ok {η : Type v} (x : Except ε α) (y : Except ε β) (f : α → β → η) :
    fault? (do let a ← x; let b ← y; .ok (f a b)) = (fault? x).or (fault? y) := by
  cases x <;> cases y <;> rfl

section Lists

variable {γ : Type w} {f : γ → Except ε α}

theorem fault?_mapM (xs : List γ) : fault? (xs.mapM f) = xs.findSome? fun x => fault? (f x) := by
  induction xs with
  | nil => rfl
  | cons x xs ih =>
    rw [List.mapM_cons, List.findSome?_cons, ← ih]
    refine (fault?_bind_bind_ok (f x) (xs.mapM f) List.cons).trans ?_
    cases fault? (f x) <;> rfl

/-- If each step consists of parts, the first fault of the steps is the first one of their parts. -/
theorem findSome?_flatMap_of_eq {step : γ → Option ε} {parts : γ → List δ} {part : δ → Option ε}
    {xs : List γ} (same : ∀ x ∈ xs, step x = (parts x).findSome? part) :
    xs.findSome? step = (xs.flatMap parts).findSome? part := by
  induction xs with
  | nil => rfl
  | cons x rest ih =>
    obtain ⟨first, later⟩ := List.forall_mem_cons.1 same
    rw [List.flatMap_cons, List.findSome?_append, ← ih later, ← first, List.findSome?_cons]
    cases step x <;> rfl

theorem mapM_eq_ok_iff {xs : List γ} {ys : List α} :
    xs.mapM f = .ok ys ↔ List.Forall₂ (fun x y => f x = .ok y) xs ys := by
  induction xs generalizing ys with
  | nil => simp [pure, Except.pure, eq_comm]
  | cons x xs ih =>
    simp only [List.mapM_cons, bind_eq_ok_iff, ih, pure, Except.pure, Except.ok.injEq,
      List.forall₂_cons_left_iff]
    constructor
    · rintro ⟨y, head, ys, tail, rfl⟩
      exact ⟨y, ys, head, tail, rfl⟩
    · rintro ⟨y, ys, head, tail, rfl⟩
      exact ⟨y, head, ys, tail, rfl⟩

theorem forall₂_imp_of_mem {R S : γ → α → Prop} {xs : List γ} {ys : List α}
    (h : List.Forall₂ R xs ys) (imp : ∀ x ∈ xs, ∀ y, R x y → S x y) : List.Forall₂ S xs ys := by
  induction h with
  | nil => exact .nil
  | cons head _ ih =>
    obtain ⟨first, later⟩ := List.forall_mem_cons.1 imp
    exact .cons (first _ head) (ih later)

theorem exists_of_mem_of_forall₂ {R : γ → α → Prop} {xs : List γ} {ys : List α}
    (h : List.Forall₂ R xs ys) {x : γ} (member : x ∈ xs) : ∃ y ∈ ys, R x y := by
  induction h with
  | nil => cases member
  | cons head _ ih =>
    rcases List.mem_cons.1 member with rfl | member
    · exact ⟨_, List.mem_cons_self, head⟩
    · obtain ⟨y, found, related⟩ := ih member
      exact ⟨y, List.mem_cons_of_mem _ found, related⟩

theorem mapM_congr {g : γ → Except ε α} {xs : List γ} (same : ∀ x ∈ xs, f x = g x) :
    xs.mapM f = xs.mapM g := by
  induction xs with
  | nil => rfl
  | cons x xs ih =>
    obtain ⟨first, later⟩ := List.forall_mem_cons.1 same
    rw [List.mapM_cons, List.mapM_cons, first, ih later]

theorem forall_mem_of_mapM {P : α → Prop} {xs : List γ} {ys : List α} (h : xs.mapM f = .ok ys)
    (each : ∀ x ∈ xs, ∀ y, f x = .ok y → P y) : ∀ y ∈ ys, P y := by
  have related := forall₂_imp_of_mem (S := fun _ y => P y) (mapM_eq_ok_iff.1 h) each
  clear h each
  induction related with
  | nil => nofun
  | cons head _ ih => exact List.forall_mem_cons.2 ⟨head, ih⟩

theorem exists_mapM_eq_ok_iff {xs : List γ} :
    (∃ ys, xs.mapM f = .ok ys) ↔ ∀ x ∈ xs, ∃ y, f x = .ok y := by
  induction xs with
  | nil => simp [pure, Except.pure]
  | cons x xs ih =>
    rw [List.forall_mem_cons, ← ih]
    simp only [List.mapM_cons, bind_eq_ok_iff, pure, Except.pure, Except.ok.injEq]
    constructor
    · rintro ⟨_, y, head, ys, tail, -⟩
      exact ⟨⟨y, head⟩, ys, tail⟩
    · rintro ⟨⟨y, head⟩, ys, tail⟩
      exact ⟨y :: ys, y, head, ys, tail, rfl⟩

/-- The first item for which the step fails decides the error of the whole. -/
theorem mapM_eq_error_iff {xs : List γ} {fault : ε} :
    xs.mapM f = .error fault ↔
      ∃ before x after, xs = before ++ x :: after ∧ (∀ y ∈ before, ∃ z, f y = .ok z) ∧
        f x = .error fault := by
  induction xs with
  | nil => simp [pure, Except.pure]
  | cons head rest ih =>
    simp only [List.mapM_cons, bind_eq_error_iff, ih, pure, Except.pure, reduceCtorEq, and_false,
      exists_false, or_false]
    constructor
    · rintro (failed | ⟨y, success, before, x, after, rfl, earlier, failed⟩)
      · exact ⟨[], head, rest, rfl, nofun, failed⟩
      · exact ⟨head :: before, x, after, rfl, List.forall_mem_cons.2 ⟨⟨y, success⟩, earlier⟩,
          failed⟩
    · rintro ⟨before, x, after, split, earlier, failed⟩
      cases before with
      | nil =>
        cases split
        exact .inl failed
      | cons first before =>
        cases split
        obtain ⟨⟨y, success⟩, earlier⟩ := List.forall_mem_cons.1 earlier
        exact .inr ⟨y, success, before, x, after, rfl, earlier, failed⟩

/-- The same for steps that take a state: those before the failing one have led to a state. -/
theorem foldlM_eq_error_iff {step : α → γ → Except ε α} {xs : List γ} {start : α} {fault : ε} :
    xs.foldlM step start = .error fault ↔
      ∃ before x after state, xs = before ++ x :: after ∧ before.foldlM step start = .ok state ∧
        step state x = .error fault := by
  induction xs generalizing start with
  | nil => simp [pure, Except.pure]
  | cons head rest ih =>
    simp only [List.foldlM_cons, bind_eq_error_iff, ih]
    constructor
    · rintro (failed | ⟨next, success, before, x, after, state, rfl, reached, failed⟩)
      · exact ⟨[], head, rest, start, rfl, rfl, failed⟩
      · refine ⟨head :: before, x, after, state, rfl, ?_, failed⟩
        rw [List.foldlM_cons, success]
        exact reached
    · rintro ⟨before, x, after, state, split, reached, failed⟩
      cases before with
      | nil =>
        cases split
        cases reached
        exact .inl failed
      | cons first before =>
        cases split
        rw [List.foldlM_cons, bind_eq_ok_iff] at reached
        obtain ⟨next, success, reached⟩ := reached
        exact .inr ⟨next, success, before, x, after, state, rfl, reached, failed⟩

/-- Results stored under distinct keys of the items: each is found under its own, and there are no
others. -/
theorem get?_ofList_of_mapM {κ : Type v} [LT κ] [DecidableLT κ] [DecidableEq κ] {key : γ → κ}
    {xs : List γ} {pairs : List (κ × α)} (distinct : (xs.map key).Nodup)
    (h : (xs.mapM fun x => do
      let y ← f x
      .ok (key x, y)) = .ok pairs) :
    (∀ k, (Entries.get? (Entries.ofList pairs) k).isSome ↔ k ∈ xs.map key) ∧
      ∀ x ∈ xs, ∃ y, Entries.get? (Entries.ofList pairs) (key x) = some y ∧ f x = .ok y := by
  have related := mapM_eq_ok_iff.1 h
  simp only [bind_eq_ok_iff, Except.ok.injEq] at related
  have keys : pairs.map (·.1) = xs.map key := by
    clear h distinct
    induction related with
    | nil => rfl
    | cons head _ ih =>
      obtain ⟨y, -, rfl⟩ := head
      rw [List.map_cons, List.map_cons, ih]
  have found : ∀ x ∈ xs, ∃ y, (key x, y) ∈ pairs ∧ f x = .ok y := by
    clear h distinct keys
    induction related with
    | nil => simp
    | cons head _ ih =>
      obtain ⟨y, converted, rfl⟩ := head
      refine List.forall_mem_cons.2 ⟨⟨y, List.mem_cons_self, converted⟩, fun x member => ?_⟩
      obtain ⟨z, stored, outcome⟩ := ih x member
      exact ⟨z, List.mem_cons_of_mem _ stored, outcome⟩
  rw [← keys] at distinct
  simp only [Entries.get?_ofList distinct, Entries.isSome_get?_iff, keys,
    Entries.get?_eq_some_iff distinct]
  exact ⟨fun _ => trivial, found⟩

end Lists

end AnnotationContainers.Outcomes
