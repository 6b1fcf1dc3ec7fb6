import AnnotationContainers.Proofs.Chain.Construction
import AnnotationContainers.Proofs.Registry.Listing

/-! # Which mappings are accepted

A mapping asks for a registered repeatable type, a registered container, and an attribute `value` of
the container that is an array of exactly the repeatable type. What else the container declares does
not matter, nor does the chain that the mapping is to extend. The first of these conditions that
fails is reported.
-/

namespace AnnotationContainers

open Outcomes

variable {r : Registry} {repeatable id : TypeId} {container : Option TypeId} {fault : ConfigError}

theorem AttrDecl.valueOf_mem_iff {attributes : List AttrDecl} :
    .valueOf repeatable ∈ attributes ↔
      ∃ attr ∈ attributes, attr.name = .value ∧ attr.type = .array (.nested repeatable) := by
  constructor
  · intro member
    exact ⟨_, member, rfl, rfl⟩
  · rintro ⟨⟨name, type⟩, member, rfl, rfl⟩
    exact member

namespace Registry

/-- The container `id` goes with a registered repeatable type: it is the given one or, if none is
given, the one that the type declares. -/
inductive Selects (r : Registry) (repeatable : TypeId) : Option TypeId → TypeId → Prop
  | given (registered : r.contains repeatable) (id : TypeId) : Selects r repeatable (some id) id
  | declared {decl : TypeDecl} {id : TypeId} (registered : r.get? repeatable = some decl)
      (declared : decl.container = some id) : Selects r repeatable none id

theorem selects_iff :
    r.Selects repeatable container id ↔
      ∃ decl, r.get? repeatable = some decl ∧ (container <|> decl.container) = some id := by
  constructor
  · intro selected
    cases selected with
    | given registered =>
      obtain ⟨decl, found⟩ := Option.isSome_iff_exists.1 registered
      exact ⟨decl, found, rfl⟩
    | @declared decl _ registered declared => exact ⟨decl, registered, declared⟩
  · rintro ⟨decl, found, chosen⟩
    cases container with
    | none => exact .declared found chosen
    | some other =>
      cases chosen
      exact .given (Option.isSome_iff_exists.2 ⟨decl, found⟩) id

theorem attribute?_eq_some_iff {decl : TypeDecl} {name : AttrName} {attr : AttrDecl}
    (registered : r.get? id = some decl) :
    decl.attribute? name = some attr ↔ attr ∈ decl.attributes ∧ attr.name = name :=
  find?_eq_some_iff_of_nodup (r.distinct decl (mem_of_get? registered))

end Registry

namespace Mapping

/-- Why a mapping is refused. Every condition but the first presupposes those before it. -/
inductive Refused (r : Registry) (repeatable : TypeId) (container : Option TypeId) :
    ConfigError → Prop
  | unknownType (unregistered : r.get? repeatable = none) :
      Refused r repeatable container (.unknownType repeatable)
  | notRepeatable {decl : TypeDecl} (registered : r.get? repeatable = some decl)
      (notGiven : container = none) (undeclared : decl.container = none) :
      Refused r repeatable container (.notRepeatable repeatable)
  | containerNotRegistered {id : TypeId} (selected : r.Selects repeatable container id)
      (unregistered : r.get? id = none) :
      Refused r repeatable container (.containerNotRegistered id repeatable)
  | containerWithoutValue {id : TypeId} {decl : TypeDecl}
      (selected : r.Selects repeatable container id) (registered : r.get? id = some decl)
      (without : ∀ attr ∈ decl.attributes, attr.name ≠ .value) :
      Refused r repeatable container (.containerWithoutValue id repeatable)
  | valueMismatch {id : TypeId} {decl : TypeDecl} {attr : AttrDecl}
      (selected : r.Selects repeatable container id) (registered : r.get? id = some decl)
      (declared : attr ∈ decl.attributes) (name : attr.name = .value)
      (other : attr.type ≠ .array (.nested repeatable)) :
      Refused r repeatable container (.valueMismatch id repeatable)

theorem of_eq_ok_iff_selects {mapping : Mapping} :
    Mapping.of r repeatable container = .ok mapping ↔
      ∃ id decl, r.Selects repeatable container id ∧ r.get? id = some decl ∧
        .valueOf repeatable ∈ decl.attributes ∧
        mapping = ⟨repeatable, id, .valueOf repeatable⟩ := by
  rw [of_eq_ok_iff]
  constructor
  · rintro ⟨repeated, id, decl, known, chosen, registered, declared, rfl⟩
    exact ⟨id, decl, Registry.selects_iff.2 ⟨repeated, known, chosen⟩, registered,
      ((Registry.attribute?_eq_some_iff registered).1 declared).1, rfl⟩
  · rintro ⟨id, decl, selected, registered, declared, rfl⟩
    obtain ⟨repeated, known, chosen⟩ := Registry.selects_iff.1 selected
    exact ⟨repeated, id, decl, known, chosen, registered,
      (Registry.attribute?_eq_some_iff registered).2 ⟨declared, rfl⟩, rfl⟩

theorem refused_of_of_eq_error (failed : Mapping.of r repeatable container = .error fault) :
    Refused r repeatable container fault := by
  unfold Mapping.of at failed
  split at failed
  next unregistered =>
    cases failed
    exact .unknownType unregistered
  next repeated known =>
    split at failed
    next absent =>
      cases failed
      obtain ⟨notGiven, undeclared⟩ : container = none ∧ repeated.container = none := by
        simpa using absent
      exact .notRepeatable known notGiven undeclared
    next id chosen =>
      have selected : r.Selects repeatable container id :=
        Registry.selects_iff.2 ⟨repeated, known, chosen⟩
      split at failed
      next unregistered =>
        cases failed
        exact .containerNotRegistered selected unregistered
      next decl registered =>
        split at failed
        next absent =>
          cases failed
          refine .containerWithoutValue selected registered fun attr declared name => ?_
          exact TypeDecl.attribute?_eq_none_iff.1 absent (List.mem_map.2 ⟨attr, declared, name⟩)
        next attr found =>
          obtain ⟨declared, name⟩ := (Registry.attribute?_eq_some_iff registered).1 found
          split at failed
          · cases failed
          next other =>
            cases failed
            refine .valueMismatch selected registered declared name fun type => ?_
            exact other (AttrType.element?_eq_some_iff.2 type)

theorem Refused.of_eq_error (refused : Refused r repeatable container fault) :
    Mapping.of r repeatable container = .error fault := by
  cases refused with
  | unknownType unregistered => simp only [Mapping.of, unregistered]
  | notRepeatable registered notGiven undeclared =>
    simp only [Mapping.of, registered, notGiven, undeclared]
    rfl
  | containerNotRegistered selected unregistered =>
    obtain ⟨repeated, known, chosen⟩ := Registry.selects_iff.1 selected
    simp only [Mapping.of, known, chosen, unregistered]
  | @containerWithoutValue _ decl selected registered without =>
    obtain ⟨repeated, known, chosen⟩ := Registry.selects_iff.1 selected
    have absent : decl.attribute? .value = none := by
      rw [TypeDecl.attribute?_eq_none_iff, TypeDecl.attributeNames, List.mem_map]
      rintro ⟨attr, declared, name⟩
      exact without attr declared name
    simp only [Mapping.of, known, chosen, registered, absent]
  | valueMismatch selected registered declared name other =>
    obtain ⟨repeated, known, chosen⟩ := Registry.selects_iff.1 selected
    have found := (Registry.attribute?_eq_some_iff registered).2 ⟨declared, name⟩
    simp only [Mapping.of, known, chosen, registered, found, AttrType.element?_eq_some_iff,
      if_neg other]

theorem of_eq_error_iff :
    Mapping.of r repeatable container = .error fault ↔ Refused r repeatable container fault :=
  ⟨refused_of_of_eq_error, Refused.of_eq_error⟩

end Mapping

namespace Chain

theorem of_eq_error_iff :
    Chain.of r repeatable container = .error fault ↔
      Mapping.Refused r repeatable container fault := by
  rw [← Mapping.of_eq_error_iff, Chain.of, bind_eq_error_iff]
  simp [pure, Except.pure]

/-- Whatever chain a mapping extends, it is checked as it is on its own. -/
theorem extend_eq (base : Chain) (r : Registry) (repeatable : TypeId)
    (container : Option TypeId) :
    base.extend r repeatable container =
      (fun single => ⟨single.newest, base.strategies⟩) <$> Chain.of r repeatable container := by
  rw [extend, Chain.of]
  cases Mapping.of r repeatable container <;> rfl

/-- A mapping is accepted exactly if its container, the given one or else that of the repeatable
type, is registered and has a `value` that is an array of the repeatable type, which must be
registered itself. Otherwise the first condition that fails is reported. To extend a chain by a
mapping is to check the mapping alone and to ask it first. -/
theorem of_validated (r : Registry) (repeatable : TypeId) (container : Option TypeId) :
    (∀ chain, Chain.of r repeatable container = .ok chain ↔
        ∃ id decl, r.Selects repeatable container id ∧ r.get? id = some decl ∧
          (∃ attr ∈ decl.attributes, attr.name = .value ∧
            attr.type = .array (.nested repeatable)) ∧
          chain = ⟨.explicit ⟨repeatable, id, .valueOf repeatable⟩, []⟩) ∧
      (∀ fault, Chain.of r repeatable container = .error fault ↔
        Mapping.Refused r repeatable container fault) ∧
      ∀ (base : Chain) id,
        (∀ chain, base.extend r repeatable (some id) = .ok chain ↔
          ∃ single, Chain.of r repeatable (some id) = .ok single ∧
            chain = ⟨single.newest, base.strategies⟩) ∧
        ∀ fault, base.extend r repeatable (some id) = .error fault ↔
          Chain.of r repeatable (some id) = .error fault := by
  refine ⟨fun chain => ?_, fun fault => of_eq_error_iff, fun base id => ⟨fun chain => ?_,
    fun fault => ?_⟩⟩
  · simp only [of_eq_ok_iff, Mapping.of_eq_ok_iff_selects, AttrDecl.valueOf_mem_iff]
    constructor
    · rintro ⟨mapping, ⟨id, decl, selected, registered, value, rfl⟩, rfl⟩
      exact ⟨id, decl, selected, registered, value, rfl⟩
    · rintro ⟨id, decl, selected, registered, value, rfl⟩
      exact ⟨_, ⟨id, decl, selected, registered, value, rfl⟩, rfl⟩
  · simp only [extend_eq, map_eq_ok_iff, @eq_comm _ _ chain]
  · rw [extend_eq, map_eq_error_iff]

end Chain

namespace Sample

def card : TypeId := ⟨"a.Card", by decide⟩
def cards : TypeId := ⟨"a.Cards", by decide⟩
def postcard : TypeId := ⟨"a.Postcard", by decide⟩

/-- Postcards are cards. The container that cards declare counts postcards and holds these only. -/
def cardFile : Registry where
  types := [
    { id := card, container := some cards },
    { id := cards, attributes := [⟨⟨"count", by decide⟩, .integer⟩, .valueOf postcard] },
    { id := postcard, supertypes := [card] }]
  ascending := by decide
  distinct := by decide

end Sample

/-- An array of postcards is none of cards, though postcards are cards. Postcards can be mapped to
it, alone or before other strategies. -/
theorem Chain.of_validated_postcards :
    Chain.of Sample.cardFile Sample.card none = .error (.valueMismatch Sample.cards Sample.card) ∧
      ∃ single extended, Chain.of Sample.cardFile Sample.postcard (some Sample.cards) =
          .ok single ∧
        Chain.standard.extend Sample.cardFile Sample.postcard (some Sample.cards) =
          .ok extended ∧
        extended.strategies = single.strategies ++ [.standard] := by
  obtain ⟨-, refused, -⟩ := of_validated Sample.cardFile Sample.card none
  obtain ⟨accepted, -, extended⟩ :=
    of_validated Sample.cardFile Sample.postcard (some Sample.cards)
  have success := (accepted _).2 ⟨Sample.cards, _, .given (by decide) _, rfl,
    ⟨.valueOf Sample.postcard, by decide, rfl, rfl⟩, rfl⟩
  have selected : Sample.cardFile.Selects Sample.card none Sample.cards :=
    .declared (show _ = some ⟨Sample.card, [], some Sample.cards, []⟩ from rfl) rfl
  refine ⟨(refused _).2 ?_, _, _, success, ((extended _ _).1 _).2 ⟨_, success, rfl⟩, rfl⟩
  exact .valueMismatch selected rfl (show AttrDecl.valueOf Sample.postcard ∈ _ by decide) rfl (by decide)

end AnnotationContainers
