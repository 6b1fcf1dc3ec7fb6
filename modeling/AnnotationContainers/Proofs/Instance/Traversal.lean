import AnnotationContainers.Instance.Rendering
import AnnotationContainers.Proofs.Outcomes

/-! # Reads of a rendering

Rendering an instance reads the attributes that the registry declares, depth first: after an
attribute what is in its value, the items of arrays from left to right. Nothing is assumed of the
instance. Rendering succeeds if every read does, and the first read that fails decides the error of
the whole.
-/

namespace AnnotationContainers

open Outcomes

namespace Instance

structure Read where
  holder : Instance
  name : AttrName

namespace Read

def outcome (read : Read) : Except ReadError (Value Instance) := read.holder.read read.name

def Succeeds (read : Read) : Prop := ∃ value, read.outcome = .ok value

end Read

mutual

/-- The reads of a rendering in order, with those that are left out if an earlier one fails. -/
def reads (r : Registry) : Instance → List Read
  | .record type attributes =>
    (r.attributes type).flatMap fun attr =>
      ⟨.record type attributes, attr.name⟩ :: readsStored r attr.name attributes
  | .answering type answer =>
    (r.attributes type).flatMap fun attr =>
      ⟨.answering type answer, attr.name⟩ :: readsOutcome r (answer attr.name)

def readsIn (r : Registry) : Value Instance → List Read
  | .nested a => reads r a
  | .array items => readsItems r items
  | .boolean _ | .integer _ | .float _ | .string _ | .classRef _ | .enumeration .. => []

def readsItems (r : Registry) : List (Value Instance) → List Read
  | [] => []
  | item :: rest => readsIn r item ++ readsItems r rest

def readsStored (r : Registry) (name : AttrName) : List (AttrName × Value Instance) → List Read
  | [] => []
  | (stored, value) :: rest =>
    if stored = name then readsIn r value else readsStored r name rest

def readsOutcome (r : Registry) : Except ReadError (Value Instance) → List Read
  | .ok value => readsIn r value
  | .error _ => []

end

section Induction

variable {P : Instance → Prop} {Q : Value Instance → Prop}

/-- The steps of an induction on what can be read of an annotation, and on the parts of values. -/
structure ReadSteps (P : Instance → Prop) (Q : Value Instance → Prop) : Prop where
  whole : ∀ a, (∀ name value, a.read name = .ok value → Q value) → P a
  parts : ∀ value, (∀ a, value = .nested a → P a) →
    (∀ items, value = .array items → ∀ item ∈ items, Q item) → Q value

namespace ReadSteps

-- What an annotation answers is no part of its size, so the recursion is on its structure, with the
-- entries of a record and the outcomes of reads as kinds of their own.
mutual

theorem instances (steps : ReadSteps P Q) : ∀ a : Instance, P a
  | .record type attributes => by
    apply steps.whole
    intro name value read
    rw [Instance.read] at read
    split at read
    next stored =>
      cases read
      exact steps.stored name attributes value stored
    · cases read
  | .answering type answer => steps.whole _ fun name => steps.outcomes (answer name)

theorem values (steps : ReadSteps P Q) : ∀ value : Value Instance, Q value
  | .nested a => steps.parts _ (fun | _, rfl => steps.instances a) nofun
  | .array items => steps.parts _ nofun fun | _, rfl => steps.items items
  | .boolean _ | .integer _ | .float _ | .string _ | .classRef _ | .enumeration .. =>
    steps.parts _ nofun nofun

theorem items (steps : ReadSteps P Q) : ∀ items : List (Value Instance), ∀ item ∈ items, Q item
  | [] => nofun
  | first :: rest => List.forall_mem_cons.2 ⟨steps.values first, steps.items rest⟩

theorem stored (steps : ReadSteps P Q) (name : AttrName) :
    ∀ attributes : List (AttrName × Value Instance),
      ∀ value, Entries.get? attributes name = some value → Q value
  | [], _, found => by cases found
  | (key, first) :: rest, value, found => by
    have holds : Q first := steps.values first
    rw [Entries.get?_cons] at found
    split at found
    · exact Option.some.inj found ▸ holds
    · exact steps.stored name rest value found

theorem outcomes (steps : ReadSteps P Q) :
    ∀ outcome : Except ReadError (Value Instance), ∀ value, outcome = .ok value → Q value
  | .ok first, _, same => Except.ok.inj same ▸ steps.values first
  | .error _, _, same => by cases same

end

end ReadSteps

theorem read_induction (whole : ∀ a, (∀ name value, a.read name = .ok value → Q value) → P a)
    (parts : ∀ value, (∀ a, value = .nested a → P a) →
      (∀ items, value = .array items → ∀ item ∈ items, Q item) → Q value) (a : Instance) : P a :=
  ReadSteps.instances ⟨whole, parts⟩ a

end Induction

variable {r : Registry} {a : Instance}

theorem readsStored_eq (name : AttrName) (attributes : List (AttrName × Value Instance)) :
    readsStored r name attributes =
      match Entries.get? attributes name with
      | some value => readsIn r value
      | none => [] := by
  induction attributes with
  | nil => rfl
  | cons entry rest ih =>
    obtain ⟨stored, value⟩ := entry
    rw [readsStored, Entries.get?_cons]
    split
    · rfl
    · exact ih

/-- Each declared attribute is read in turn, and after it what is in its value. -/
theorem reads_eq (r : Registry) (a : Instance) :
    a.reads r = (r.attributes a.type).flatMap fun attr =>
      ⟨a, attr.name⟩ ::
        match a.read attr.name with
        | .ok value => readsIn r value
        | .error _ => [] := by
  cases a with
  | record type attributes =>
    simp only [reads, readsStored_eq, Instance.type, Instance.read]
    congr
    funext attr
    cases Entries.get? attributes attr.name <;> rfl
  | answering type answer =>
    simp only [reads, Instance.type, Instance.read]
    congr
    funext attr
    cases answer attr.name <;> rfl

theorem readsIn_array (r : Registry) (items : List (Value Instance)) :
    readsIn r (.array items) = items.flatMap (readsIn r) := by
  rw [readsIn]
  induction items with
  | nil => rfl
  | cons item rest ih => rw [readsItems, List.flatMap_cons, ih]

theorem renderValue_array (r : Registry) (items : List (Value Instance)) :
    renderValue r (.array items) = (do
      let shown ← items.mapM (renderValue r)
      .ok (.array shown)) := by
  rw [renderValue, renderItems_eq_mapM]

theorem declared_of_mem_reads (r : Registry) :
    ∀ a : Instance, ∀ read ∈ a.reads r,
      ∃ attr ∈ r.attributes read.holder.type, attr.name = read.name := by
  apply read_induction
  case Q =>
    exact fun value => ∀ read ∈ readsIn r value,
      ∃ attr ∈ r.attributes read.holder.type, attr.name = read.name
  case whole =>
    intro a ih read member
    rw [reads_eq, List.mem_flatMap] at member
    obtain ⟨attr, declared, member⟩ := member
    rcases List.mem_cons.1 member with rfl | member
    · exact ⟨attr, declared, rfl⟩
    · split at member
      next value outcome => exact ih attr.name value outcome read member
      · cases member
  case parts =>
    intro value annotations items read member
    cases value with
    | nested a => exact annotations a rfl read member
    | array values =>
      rw [readsIn_array, List.mem_flatMap] at member
      obtain ⟨item, listed, member⟩ := member
      exact items values rfl item listed read member
    | _ => cases member

/-- The first read that fails decides the error. -/
theorem fault?_render (r : Registry) :
    ∀ a : Instance, fault? (a.render r) = (a.reads r).findSome? (fault? ·.outcome) := by
  apply read_induction
  case Q =>
    exact fun value => fault? (renderValue r value) =
      (readsIn r value).findSome? (fault? ·.outcome)
  case whole =>
    intro a ih
    rw [render_eq, fault?_bind_ok, fault?_mapM, reads_eq]
    apply findSome?_flatMap_of_eq
    intro attr _
    rw [List.findSome?_cons, Read.outcome]
    cases outcome : a.read attr.name with
    | ok value => exact (fault?_bind_ok _ _).trans (ih attr.name value outcome)
    | error fault => rfl
  case parts =>
    intro value annotations items
    cases value with
    | nested a => exact annotations a rfl
    | array values =>
      rw [renderValue_array, fault?_bind_ok, fault?_mapM, readsIn_array]
      exact findSome?_flatMap_of_eq (items values rfl)
    | _ => rfl

theorem exists_render_eq_ok_iff :
    (∃ json, a.render r = .ok json) ↔ ∀ read ∈ a.reads r, read.Succeeds := by
  rw [← fault?_eq_none_iff, fault?_render, List.findSome?_eq_none_iff]
  simp only [fault?_eq_none_iff, Read.Succeeds]

theorem render_eq_error_iff {fault : ReadError} :
    a.render r = .error fault ↔
      ∃ before read after, a.reads r = before ++ read :: after ∧
        (∀ earlier ∈ before, earlier.Succeeds) ∧ read.outcome = .error fault := by
  rw [← fault?_eq_some_iff, fault?_render, List.findSome?_eq_some_iff]
  simp only [fault?_eq_none_iff, fault?_eq_some_iff, Read.Succeeds, and_comm]

end Instance

end AnnotationContainers
