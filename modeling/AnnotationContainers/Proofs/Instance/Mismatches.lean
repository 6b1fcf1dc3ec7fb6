import AnnotationContainers.Proofs.Instance.Conformity

/-! # Values that do not convert

A value fails at one place: the first item, down through the arrays that its type declares, that is
no value of the type that is left there. Either the item itself is at fault, or it stands for an
annotation and the fault is one of its own document.
-/

namespace AnnotationContainers.Instance

open Outcomes

/-- The value itself is none of this type, whatever is inside it: a nested document is one of another
type, and in the place of an array there is no array. -/
inductive Mismatches (r : Registry) : AttrType → Json → Prop
  | plain {type : AttrType} {json : Json} (component : type.component? = none)
      (nested : type.nested? = none) (unfit : ¬ Fits r type json) : Mismatches r type json
  | nested {id expected : TypeId} {document : Json} (conforms : Conforms r id document)
      (other : ¬ r.isSubtype id expected) : Mismatches r (.nested expected) document
  | array {component : AttrType} {json : Json} (other : ∀ items, json ≠ .array items) :
      Mismatches r (.array component) json

/-- Down through arrays, where all items before are of the type declared for them, `item` stands in
the place of a value of the type `inner`. -/
inductive Reaches (r : Registry) : AttrType → Json → AttrType → Json → Prop
  | here (type : AttrType) (json : Json) : Reaches r type json type json
  | deeper {component inner : AttrType} {before after : List Json} {json item : Json}
      (earlier : ∀ other ∈ before, Fits r component other)
      (rest : Reaches r component json inner item) :
      Reaches r (.array component) (.array (before ++ json :: after)) inner item

variable {r : Registry} {owner id : TypeId} {name : AttrName} {type inner : AttrType}
  {json item : Json} {fault : SynthesisError}

/-- The declared types alone decide which values convert. -/
theorem fits_iff (owner : TypeId) (name : AttrName) :
    Fits r type json ↔ ∃ value, convert r owner name json type = .ok value :=
  ⟨fun fits => fits.accepted owner name, fun ⟨_, success⟩ => (convert_eq_ok_iff.1 success).fits⟩

theorem conforms_iff : Conforms r id json ↔ ∃ a, synthesize r json = .ok a ∧ a.type = id := by
  constructor
  · exact Conforms.accepted
  · rintro ⟨a, success, rfl⟩
    exact (synthesize_eq_ok_iff.1 success).conforms

theorem Mismatches.not_fits (mismatch : Mismatches r type json) : ¬ Fits r type json := by
  cases mismatch with
  | plain _ _ unfit => exact unfit
  | nested conforms other =>
    intro fits
    cases fits with
    | nested conformsOther subtype =>
      obtain ⟨a, success, rfl⟩ := conforms_iff.1 conforms
      obtain ⟨b, successOther, rfl⟩ := conforms_iff.1 conformsOther
      cases success.symm.trans successOther
      exact other subtype
  | array other =>
    intro fits
    cases fits with
    | array => exact other _ rfl

theorem Reaches.sizeOf_le (reached : Reaches r type json inner item) :
    sizeOf item ≤ sizeOf json := by
  induction reached with
  | here => exact Nat.le_refl _
  | @deeper _ _ before after json item _ _ ih =>
    have member : json ∈ before ++ json :: after := by simp
    exact Nat.le_trans ih (Nat.le_of_lt (Json.sizeOf_item_lt member))

theorem Reaches.ordered (reached : Reaches r type json inner item) (ordered : json.Ordered) :
    item.Ordered := by
  induction reached with
  | here => exact ordered
  | deeper _ _ ih => exact ih (Json.ordered_array_iff.1 ordered _ (by simp))

theorem convert_plain_eq_error (component : type.component? = none) (nested : type.nested? = none)
    (failed : convert r owner name json type = .error fault) :
    fault = .typeMismatch owner name type := by
  cases type with
  | nested => cases nested
  | array => cases component
  | integer =>
    cases json with
    | number n =>
      rw [convert] at failed
      split at failed <;> cases failed
      rfl
    | _ =>
      cases failed
      rfl
  | boolean | float | string | classRef | enumeration =>
    cases json <;> cases failed <;> rfl

theorem convert_plain_eq_error_iff (component : type.component? = none)
    (nested : type.nested? = none) :
    convert r owner name json type = .error fault ↔
      ¬ Fits r type json ∧ fault = .typeMismatch owner name type := by
  rw [fits_iff owner name]
  constructor
  · intro failed
    refine ⟨?_, convert_plain_eq_error component nested failed⟩
    rintro ⟨value, success⟩
    cases failed.symm.trans success
  · rintro ⟨unfit, rfl⟩
    cases outcome : convert r owner name json type with
    | ok value => exact (unfit ⟨value, outcome⟩).elim
    | error other => rw [convert_plain_eq_error component nested outcome]

theorem convert_nested_eq_error_iff {expected : TypeId} :
    convert r owner name json (.nested expected) = .error fault ↔
      synthesize r json = .error fault ∨
        Mismatches r (.nested expected) json ∧
          fault = .typeMismatch owner name (.nested expected) := by
  rw [convert_nested, bind_eq_error_iff]
  refine or_congr_right ⟨?_, ?_⟩
  · rintro ⟨a, success, failed⟩
    split at failed
    · cases failed
    next other =>
      cases failed
      exact ⟨.nested (conforms_iff.2 ⟨a, success, rfl⟩) other, rfl⟩
  · rintro ⟨mismatch, rfl⟩
    cases mismatch with
    | plain _ nested => cases nested
    | nested conforms other =>
      obtain ⟨a, success, rfl⟩ := conforms_iff.1 conforms
      exact ⟨a, success, if_neg other⟩

theorem convert_array_eq_error_iff {component : AttrType} :
    convert r owner name json (.array component) = .error fault ↔
      Mismatches r (.array component) json ∧ fault = .typeMismatch owner name (.array component) ∨
        ∃ before item after, json = .array (before ++ item :: after) ∧
          (∀ other ∈ before, Fits r component other) ∧
          convert r owner name item component = .error fault := by
  cases json with
  | array items =>
    have noMismatch : ¬ Mismatches r (.array component) (.array items) := by
      intro mismatch
      cases mismatch with
      | plain component => cases component
      | array other => exact other items rfl
    simp only [convert, convertItems_eq_mapM, bind_eq_error_iff, mapM_eq_error_iff,
      fits_iff owner name, noMismatch, Json.array.injEq, reduceCtorEq,
      and_false, exists_false, or_false, false_and, false_or]
  | _ =>
    simp only [convert, Except.error.injEq, reduceCtorEq, false_and, exists_false, or_false]
    constructor
    · intro same
      refine ⟨.array ?_, same.symm⟩
      intro items array
      cases array
    · intro reported
      exact reported.2.symm

/-- A value fails to convert at the first item that is reached through arrays and does not convert
for itself. -/
theorem convert_eq_error_iff :
    convert r owner name json type = .error fault ↔
      (∃ inner item, Reaches r type json inner item ∧ Mismatches r inner item ∧
          fault = .typeMismatch owner name inner) ∨
        ∃ expected document, Reaches r type json (.nested expected) document ∧
          synthesize r document = .error fault := by
  induction type generalizing json with
  | array component ih =>
    rw [convert_array_eq_error_iff]
    simp only [ih]
    constructor
    · rintro (⟨mismatch, rfl⟩ | ⟨before, json, after, rfl, earlier, ⟨inner, item, reached, rest⟩ |
        ⟨expected, document, reached, failed⟩⟩)
      · exact .inl ⟨_, _, .here _ _, mismatch, rfl⟩
      · exact .inl ⟨inner, item, .deeper earlier reached, rest⟩
      · exact .inr ⟨expected, document, .deeper earlier reached, failed⟩
    · rintro (⟨inner, item, reached, mismatch, rfl⟩ | ⟨expected, document, reached, failed⟩)
      · cases reached with
        | here => exact .inl ⟨mismatch, rfl⟩
        | deeper earlier rest =>
          exact .inr ⟨_, _, _, rfl, earlier, .inl ⟨inner, item, rest, mismatch, rfl⟩⟩
      · cases reached with
        | deeper earlier rest =>
          exact .inr ⟨_, _, _, rfl, earlier, .inr ⟨expected, document, rest, failed⟩⟩
  | nested expected =>
    rw [convert_nested_eq_error_iff]
    constructor
    · rintro (failed | ⟨mismatch, rfl⟩)
      · exact .inr ⟨expected, json, .here _ _, failed⟩
      · exact .inl ⟨_, json, .here _ _, mismatch, rfl⟩
    · rintro (⟨_, _, reached, mismatch, rfl⟩ | ⟨_, document, reached, failed⟩)
      · cases reached
        exact .inr ⟨mismatch, rfl⟩
      · cases reached
        exact .inl failed
  | boolean | integer | float | string | classRef | enumeration =>
    rw [convert_plain_eq_error_iff rfl rfl]
    constructor
    · rintro ⟨unfit, rfl⟩
      exact .inl ⟨_, json, .here _ _, .plain rfl rfl unfit, rfl⟩
    · rintro (⟨_, _, reached, mismatch, rfl⟩ | ⟨_, document, reached, failed⟩)
      · cases reached
        exact ⟨mismatch.not_fits, rfl⟩
      · cases reached

end AnnotationContainers.Instance
