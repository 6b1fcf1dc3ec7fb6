import AnnotationContainers.Proofs.Registry.Subtypes
import Mathlib.Data.List.Chain

/-! # Subtypes and paths

The walk along supertypes comes to an end by itself, whatever cycles, loops and dangling names the
declarations contain: the bound on its steps never cuts it off. Its answer is whether a path of
declarations leads from the candidate to the target.
-/

namespace AnnotationContainers

open Relation

universe u

/-- What leads to an element in one or more steps does so along a list of elements between. -/
theorem transGen_iff_exists_isChain {α : Type u} {R : α → α → Prop} {a b : α} :
    TransGen R a b ↔ ∃ between, List.IsChain R (a :: between ++ [b]) := by
  constructor
  · intro path
    induction path using TransGen.head_induction_on with
    | single step => exact ⟨[], List.isChain_pair.2 step⟩
    | @head a c step _ ih =>
      obtain ⟨between, chain⟩ := ih
      exact ⟨c :: between, chain.cons_cons step⟩
  · rintro ⟨between, chain⟩
    induction between generalizing a with
    | nil => exact .single (List.isChain_pair.1 chain)
    | cons c rest ih =>
      obtain ⟨step, later⟩ := List.isChain_cons_cons.1 chain
      exact .head step (ih later)

namespace Registry

/-- The walk, continued without any bound, comes to an end with the answer `found`. -/
inductive WalkEnds (r : Registry) (target : TypeId) : Walk → Bool → Prop
  | answer {walk : Walk} {found : Bool} (step : r.walkStep target walk = .answer found) :
      WalkEnds r target walk found
  | more {walk next : Walk} {found : Bool} (step : r.walkStep target walk = .more next)
      (later : WalkEnds r target next found) : WalkEnds r target walk found

variable {r s : Registry} {candidate target : TypeId} {walk : Walk}

theorem walkEnds_of_walkAnswer? {fuel : Nat} {found : Bool}
    (answer : r.walkAnswer? target fuel walk = some found) : r.WalkEnds target walk found := by
  induction fuel generalizing walk with
  | zero =>
    obtain ⟨expanded, pending⟩ := walk
    cases pending with
    | nil =>
      cases answer
      exact .answer rfl
    | cons next rest => cases answer
  | succ fuel ih =>
    rw [walkAnswer?] at answer
    split at answer
    next found step =>
      cases answer
      exact .answer step
    next later step => exact .more step (ih answer)

theorem WalkEnds.unique {a b : Bool} (ha : r.WalkEnds target walk a)
    (hb : r.WalkEnds target walk b) : a = b := by
  induction ha with
  | answer step =>
    cases hb with
    | answer other => exact Walk.Progress.answer.inj (step.symm.trans other)
    | more other _ => cases step.symm.trans other
  | more step _ ih =>
    cases hb with
    | answer other => cases step.symm.trans other
    | more other later =>
      cases step.symm.trans other
      exact ih later

/-- The walk from a candidate ends, and tells whether declared supertypes lead to the target. -/
theorem exists_walkEnds (r : Registry) (candidate target : TypeId) :
    ∃ found, r.WalkEnds target ⟨[], [candidate]⟩ found ∧
      (found = true ↔ TransGen r.Declares candidate target) := by
  obtain ⟨found, answer, meaning⟩ :=
    (explores_start r candidate target).walkAnswer? (r.cost_start candidate).le
  exact ⟨found, walkEnds_of_walkAnswer? answer, meaning⟩

/-- Subtyping depends on which supertypes each type declares, not on their order or number. -/
theorem isSubtype_congr (same : ∀ id next, next ∈ r.supertypes id ↔ next ∈ s.supertypes id)
    (candidate target : TypeId) : r.isSubtype candidate target = s.isSubtype candidate target := by
  have declared : r.Declares = s.Declares := by
    funext id next
    rw [declares_iff, declares_iff, same]
  rw [Bool.eq_iff_iff, isSubtype_iff, isSubtype_iff, declared]

/-- The subtypes of a type are itself and the types from which a path leads to it: each type of the
path is registered and names the next one, and only the last need not be registered. The walk that
looks for a path always ends. So subtyping is reflexive and transitive, and the order of supertypes
does not matter to it. -/
theorem isSubtype_iff_path (r : Registry) :
    (∀ candidate target,
      (∃ found, r.WalkEnds target ⟨[], [candidate]⟩ found) ∧
        (∀ found, r.WalkEnds target ⟨[], [candidate]⟩ found →
          r.isSubtype candidate target = (decide (candidate = target) || found)) ∧
        (r.isSubtype candidate target = true ↔
          candidate = target ∨
            ∃ between, List.IsChain r.Declares (candidate :: between ++ [target]))) ∧
      (∀ id, r.isSubtype id id = true) ∧
      (∀ a b c, r.isSubtype a b = true → r.isSubtype b c = true → r.isSubtype a c = true) ∧
      ∀ s : Registry, (∀ id next, next ∈ r.supertypes id ↔ next ∈ s.supertypes id) →
        ∀ candidate target, r.isSubtype candidate target = s.isSubtype candidate target := by
  refine ⟨fun candidate target => ?_, isSubtype_self r, fun a b c ab bc => ?_,
    fun s same => isSubtype_congr same⟩
  · obtain ⟨found, ends, meaning⟩ := r.exists_walkEnds candidate target
    refine ⟨⟨found, ends⟩, fun other endsOther => ?_, ?_⟩
    · rw [endsOther.unique ends, Bool.eq_iff_iff, isSubtype_iff, reflTransGen_iff_eq_or_transGen,
        Bool.or_eq_true, decide_eq_true_iff, meaning, eq_comm]
    · rw [isSubtype_iff, reflTransGen_iff_eq_or_transGen, transGen_iff_exists_isChain, eq_comm]
  · rw [isSubtype_iff] at ab bc ⊢
    exact ab.trans bc

end Registry

namespace Sample

def archive : TypeId := ⟨"a.Archive", by decide⟩
def draft : TypeId := ⟨"a.Draft", by decide⟩
def note : TypeId := ⟨"a.Note", by decide⟩
def page : TypeId := ⟨"a.Page", by decide⟩

/-- A draft is its own supertype, notes and pages are supertypes of each other, and archives are not
registered. -/
def papers : Registry where
  types := [
    { id := draft, supertypes := [draft, note] },
    { id := note, supertypes := [draft, page, page] },
    { id := page, supertypes := [note, archive] }]
  ascending := by decide
  distinct := by decide

/-- The same supertypes in another order, each once. -/
def sortedPapers : Registry where
  types := [
    { id := draft, supertypes := [note, draft] },
    { id := note, supertypes := [page, draft] },
    { id := page, supertypes := [archive, note] }]
  ascending := by decide
  distinct := by decide

end Sample

/-- Drafts are archives by way of notes and pages, in either order of the supertypes. -/
theorem Registry.isSubtype_iff_path_papers :
    List.IsChain Sample.papers.Declares [Sample.draft, Sample.note, Sample.page, Sample.archive] ∧
      Sample.papers.isSubtype Sample.draft Sample.archive = true ∧
      Sample.sortedPapers.isSubtype Sample.draft Sample.archive = true ∧
      Sample.papers.isSubtype Sample.archive Sample.draft = false := by
  obtain ⟨walks, -, -, order⟩ := isSubtype_iff_path Sample.papers
  have path : List.IsChain Sample.papers.Declares
      [Sample.draft, Sample.note, Sample.page, Sample.archive] :=
    .cons_cons ⟨_, rfl, by decide⟩ <| .cons_cons ⟨_, rfl, by decide⟩ <|
      .cons_cons ⟨_, rfl, by decide⟩ <| .singleton _
  have archived : Sample.papers.isSubtype Sample.draft Sample.archive = true :=
    (walks Sample.draft Sample.archive).2.2.2 (.inr ⟨[Sample.note, Sample.page], path⟩)
  have reordered : ∀ id next,
      next ∈ Sample.papers.supertypes id ↔ next ∈ Sample.sortedPapers.supertypes id := by
    intro id next
    simp only [supertypes, get?, Sample.papers, Sample.sortedPapers, List.find?_cons]
    cases decide (Sample.draft = id) <;> cases decide (Sample.note = id) <;>
      cases decide (Sample.page = id) <;> simp [or_comm]
  refine ⟨path, archived, ?_, ?_⟩
  · rw [← order Sample.sortedPapers reordered, archived]
  · decide

end AnnotationContainers
