import AnnotationContainers.Proofs.Cache.Transparency
import AnnotationContainers.Proofs.Chain.Histories
import AnnotationContainers.Proofs.Instance.Typing

/-! # Resolution of accepted instances

A mapping is checked against the `value` of its container, but it recognises every subtype of the
container as well, and a subtype declares a `value` of its own, or none. What resolving a
recognised instance comes to is decided by that declaration. A container for which a mapping was
made, and a native container, always give annotations of the type that they gather.
-/

namespace AnnotationContainers

open Outcomes

/-- The type is a native container of annotations of the type `element`: it declares nothing but
`value`, an array of these, and `element` is repeatable. -/
def Registry.Gathers (r : Registry) (id element : TypeId) : Prop :=
  (∃ decl, r.get? id = some decl ∧ decl.attributes = [.valueOf element]) ∧ r.isRepeatable element

theorem Registry.nativeAccess_eq_iff {r : Registry} {id : TypeId} {accessor : AttrDecl} :
    r.nativeAccess id = .eligible accessor ↔
      ∃ element, accessor = .valueOf element ∧ r.Gathers id element := by
  obtain ⟨name, type⟩ := accessor
  simp only [nativeAccess_eq_eligible_iff, Gathers, AttrDecl.valueOf, AttrDecl.mk.injEq]
  constructor
  · rintro ⟨declared, rfl, element, rfl, repeatable⟩
    exact ⟨element, ⟨rfl, rfl⟩, declared, repeatable⟩
  · rintro ⟨element, ⟨rfl, rfl⟩, declared, repeatable⟩
    exact ⟨declared, rfl, element, rfl, repeatable⟩

theorem Registry.exists_nativeAccess_eq_iff {r : Registry} {id : TypeId} :
    (∃ accessor, r.nativeAccess id = .eligible accessor) ↔ ∃ element, r.Gathers id element := by
  simp only [nativeAccess_eq_iff]
  constructor
  · rintro ⟨accessor, element, -, gathers⟩
    exact ⟨element, gathers⟩
  · rintro ⟨element, gathers⟩
    exact ⟨_, element, rfl, gathers⟩

/-- A container of one of the mappings is a supertype, or native containers are recognised and the
type is one. -/
def Chain.RecognisesIn (chain : Chain) (r : Registry) (id : TypeId) : Prop :=
  (∃ mapping, .explicit mapping ∈ chain.strategies ∧ r.isSubtype id mapping.container) ∨
    .standard ∈ chain.strategies ∧ ∃ element, r.Gathers id element

/-- A cache that the registry has filled makes no difference to what is recognised. -/
theorem Cache.Consistent.recognises_iff {cache : Cache} {r : Registry}
    (consistent : cache.Consistent r) {chain : Chain} {id : TypeId} :
    chain.Recognises r cache id ↔ chain.RecognisesIn r id := by
  rw [Chain.Recognises, Chain.RecognisesIn, consistent.answer, Registry.exists_nativeAccess_eq_iff]

namespace Instance

variable {r : Registry} {decl : TypeDecl} {a : Instance}
  {outcome : Except ReadError (Option (List Instance))}

/-- What resolving a recognised instance comes to, by the type that its own type declares for
`value`. An array of anything but annotations passes for one of annotations while it is empty. -/
def DecidedBy (r : Registry) (a : Instance) (outcome : Except ReadError (Option (List Instance))) :
    Option AttrType → Prop
  | none => outcome = .error (.missing a.type .value)
  | some (.array (.nested element)) => ∃ xs, a.read .value = .ok (.array (xs.map .nested)) ∧
      outcome = .ok (some xs) ∧ AnnotationsOf r element xs
  | some (.array _) => ∃ items, a.read .value = .ok (.array items) ∧
      outcome = if items.isEmpty then .ok (some [])
        else .error (.notAnnotations a.type .value "an array of annotations")
  | some _ => outcome = .error (.notAnnotations a.type .value "an array of annotations")

theorem DecidedBy.ne_failed {type : Option AttrType} (decided : DecidedBy r a outcome type)
    {owner : TypeId} {name : AttrName} {reason : String} :
    outcome ≠ .error (.failed owner name reason) := by
  unfold DecidedBy at decided
  split at decided
  · rw [decided]
    nofun
  · obtain ⟨xs, -, found, -⟩ := decided
    rw [found]
    nofun
  · obtain ⟨items, -, found⟩ := decided
    rw [found]
    split <;> nofun
  · rw [decided]
    nofun

/-- Items of a plain type are no annotations, so that only an empty array of them is read as one. -/
theorem contents_of_plain {id : TypeId} {component : AttrType} (plain : component.nested? = none)
    {items : List (Value Instance)} (each : ∀ item ∈ items, HasType r component item) :
    contents id (.ok (.array items)) =
      if items.isEmpty then .ok (some [])
      else .error (.notAnnotations id .value "an array of annotations") := by
  cases items with
  | nil => rfl
  | cons item rest =>
    have first : item.nested? = none := (each item List.mem_cons_self).nested?_eq_none plain
    simp [contents, first]

theorem WellTyped.decidedBy (typed : WellTyped r a) (registered : r.get? a.type = some decl) :
    DecidedBy r a (contents a.type (a.read .value)) ((decl.attribute? .value).map (·.type)) := by
  cases declared : decl.attribute? .value with
  | none =>
    rw [typed.read_undeclared registered declared]
    rfl
  | some attr =>
    obtain ⟨value, read, hasType⟩ := typed.read_declared registered declared
    rw [Option.map_some]
    generalize attr.type = type at hasType
    cases type with
    | array component =>
      cases component with
      | nested element =>
        obtain ⟨xs, rfl, annotations⟩ := hasType.annotations
        exact ⟨xs, read, contents_eq_ok_iff.2 ⟨xs, rfl, read⟩, annotations⟩
      | _ =>
        obtain ⟨items, rfl, each⟩ := hasType.items
        refine ⟨items, read, ?_⟩
        rw [read, contents_of_plain rfl each]
    | _ =>
      cases hasType
      rw [read]
      rfl

end Instance

open Instance

section Accepted

variable {r : Registry} {chain : Chain} {cache : Cache} {a : Instance}
  {outcome : Except ReadError (Option (List Instance))}

/-- With a cache that the registry has filled, a resolution comes to the contents of `value` if the
type is recognised, and to nothing otherwise. -/
theorem Chain.Built.resolve_cases (built : chain.Built) (filled : Cache.FilledBy.{0} r cache)
    (resolved : (chain.resolve r a cache).1 = outcome) :
    (chain.RecognisesIn r a.type → outcome = contents a.type (a.read .value)) ∧
      (¬ chain.RecognisesIn r a.type → outcome = .ok none) := by
  have meaning : (chain.resolve r a cache).1 =
      if chain.Recognises r cache a.type then contents a.type (a.read .value) else .ok none :=
    resolveWith_eq (m := Id) built filled.filled r a.type a.read
  rw [← resolved, meaning, ← filled.consistent.recognises_iff]
  exact ⟨fun recognised => if_pos recognised, fun unrecognised => if_neg unrecognised⟩

theorem Registry.Gathers.declared {id element : TypeId} (gathers : r.Gathers id element) :
    (r.get? id).bind (·.attribute? .value) = some (.valueOf element) := by
  obtain ⟨⟨decl, registered, attributes⟩, -⟩ := gathers
  rw [registered, Option.bind_some, TypeDecl.attribute?, attributes]
  rfl

theorem Mapping.ValidIn.declared {mapping : Mapping} (valid : mapping.ValidIn r) :
    (r.get? mapping.container).bind (·.attribute? .value) = some (.valueOf mapping.repeatable) := by
  obtain ⟨decl, registered, declared⟩ := valid.container
  rw [registered, Option.bind_some, declared, valid.accessor]

theorem Instance.DecidedBy.annotations {element : TypeId}
    (declared : (r.get? a.type).bind (·.attribute? .value) = some (.valueOf element))
    (decided : DecidedBy r a outcome
      (((r.get? a.type).bind (·.attribute? .value)).map (·.type))) :
    ∃ xs, outcome = .ok (some xs) ∧ AnnotationsOf r element xs := by
  rw [declared] at decided
  obtain ⟨xs, -, found, annotations⟩ := decided
  exact ⟨xs, found, annotations⟩

end Accepted

/-- What resolving an accepted instance comes to, by a chain and with a cache that were made against
the registry of the instance alone. A recognised instance is decided by the `value` that its type
declares, and no read of it fails but for a missing attribute. The container of a mapping gives
annotations of the mapped type; a native container gives, where it is recognised, annotations of
the type that it gathers. -/
theorem Chain.resolve_accepted {r : Registry} {calls : List Construction} {made : Made}
    (member : made ∈ Construction.run calls) (against : ∀ s ∈ made.registries, s = r)
    {cache : Cache} (filled : Cache.FilledBy.{0} r cache) {document : Json} {a : Instance}
    (accepted : synthesize r document = .ok a)
    {outcome : Except ReadError (Option (List Instance))}
    (resolved : (made.chain.resolve r a cache).1 = outcome) :
    (made.chain.RecognisesIn r a.type →
        DecidedBy r a outcome (((r.get? a.type).bind (·.attribute? .value)).map (·.type))) ∧
      (¬ made.chain.RecognisesIn r a.type → outcome = .ok none) ∧
      (∀ owner name reason, outcome ≠ .error (.failed owner name reason)) ∧
      (∀ mapping, .explicit mapping ∈ made.chain.strategies → mapping.container = a.type →
        ∃ xs, outcome = .ok (some xs) ∧ AnnotationsOf r mapping.repeatable xs) ∧
      ∀ element, r.Gathers a.type element →
        outcome = .ok none ∨ ∃ xs, outcome = .ok (some xs) ∧ AnnotationsOf r element xs := by
  have typed := (synthesize_eq_ok_iff.1 accepted).wellTyped
  have built := Construction.built_of_mem_run member
  obtain ⟨contained, unrecognised⟩ := built.resolve_cases filled resolved
  have decided : made.chain.RecognisesIn r a.type →
      DecidedBy r a outcome (((r.get? a.type).bind (·.attribute? .value)).map (·.type)) := by
    intro recognised
    obtain ⟨decl, registered⟩ := typed.registered
    rw [contained recognised, registered]
    exact typed.decidedBy registered
  refine ⟨decided, unrecognised, ?_, ?_, ?_⟩
  · intro owner name reason
    by_cases recognised : made.chain.RecognisesIn r a.type
    · exact (decided recognised).ne_failed
    · rw [unrecognised recognised]
      nofun
  · intro mapping listed container
    have valid := (Construction.wellFormed_of_mem_run member).validIn against listed
    have recognised : made.chain.RecognisesIn r a.type := by
      refine .inl ⟨mapping, listed, ?_⟩
      rw [container, Registry.isSubtype_self]
    exact (decided recognised).annotations (container ▸ valid.declared)
  · intro element gathers
    by_cases recognised : made.chain.RecognisesIn r a.type
    · exact .inr ((decided recognised).annotations gathers.declared)
    · exact .inl (unrecognised recognised)

namespace Sample

def counts : TypeId := ⟨"a.Counts", by decide⟩

/-- A subtype of the container of tags declares integers in the place of tags. -/
def counting : Registry where
  types := [
    { id := counts, supertypes := [tags], attributes := [⟨.value, .array .integer⟩] },
    { id := tag, attributes := [⟨.value, .string⟩], container := some tags },
    { id := tags, attributes := [.valueOf tag] }]
  ascending := by decide
  distinct := by decide

def countsDocument (items : List Json) : Json :=
  .object [("attributes", .object [("value", .array items)]), ("type", .string counts.text)]

def counted : Instance := .record counts [(.value, .array [.integer 1])]

end Sample

/-- The mapping of tags recognises counts, and finds integers where it looks for tags. -/
theorem Chain.resolve_accepted_counts :
    ∃ made ∈ Construction.run [.disabled, .extend 0 Sample.counting Sample.tags Sample.tag],
      (∀ s ∈ made.registries, s = Sample.counting) ∧
      Cache.FilledBy.{0} Sample.counting
        (Chain.standard.resolve Sample.counting Sample.counted .empty).2 ∧
      synthesize Sample.counting (Sample.countsDocument [.number (.ofInt64 1)]) =
        .ok Sample.counted ∧
      (made.chain.resolve Sample.counting Sample.counted
        (Chain.standard.resolve Sample.counting Sample.counted .empty).2).1 =
        .error (.notAnnotations Sample.counts .value "an array of annotations") := by
  let made : Made := ⟨⟨.explicit ⟨Sample.tag, Sample.tags, .valueOf Sample.tag⟩, [.disabled]⟩,
    [Sample.counting]⟩
  have member :
      made ∈ Construction.run [.disabled, .extend 0 Sample.counting Sample.tags Sample.tag] :=
    List.mem_of_getElem? (show _[1]? = some made from rfl)
  have against : ∀ s ∈ made.registries, s = Sample.counting := by simp [made]
  have filled : Cache.FilledBy.{0} Sample.counting
      (Chain.standard.resolve Sample.counting Sample.counted .empty).2 := .resolve .empty _ _
  have accepted : synthesize Sample.counting (Sample.countsDocument [.number (.ofInt64 1)]) =
      .ok Sample.counted := rfl
  refine ⟨made, member, against, filled, accepted, ?_⟩
  have recognised : made.chain.RecognisesIn Sample.counting Sample.counts :=
    .inl ⟨_, List.mem_cons_self, by decide⟩
  obtain ⟨items, read, outcome⟩ :=
    (resolve_accepted member against filled accepted rfl).1 recognised
  cases read
  exact outcome

end AnnotationContainers
