import AnnotationContainers.Proofs.Instance.Mismatches
import Mathlib.Logic.Relation

/-! # Faults of documents

A document that is refused has a fault at one place: in itself or in an annotation document inside
it, with everything in order that synthesis looks at before. `FaultIn` says what each error claims
of the document that it is about, `Inside` which documents synthesis gets to, and synthesis reports
exactly the faults that are found this way.
-/

namespace AnnotationContainers

namespace Instance

open Outcomes

def Undeclared (decl : TypeDecl) (values : List (String × Json)) (key : String) : Prop :=
  (Entries.get? values key).isSome ∧ ∀ attr ∈ decl.attributes, attr.name.text ≠ key

/-- The fields of a document of the registered type `decl` that gives `values` to attributes of the
type only, whether or not to all of them and of the right types. -/
structure DraftOf (r : Registry) (decl : TypeDecl) (fields values : List (String × Json)) :
    Prop where
  type : Entries.get? fields "type" = some (.string decl.id.text)
  registered : r.get? decl.id = some decl
  given : Gives fields values
  declared : ∀ key, ¬ Undeclared decl values key

/-- The attribute is declared, and those declared before it are given values of their types. -/
def FitsBefore (r : Registry) (decl : TypeDecl) (values : List (String × Json))
    (attr : AttrDecl) : Prop :=
  ∃ before after, decl.attributes = before ++ attr :: after ∧
    ∀ other ∈ before, ∃ raw, Entries.get? values other.name.text = some raw ∧
      Fits r other.type raw

/-- The fault is one of the document itself, and not of another one inside it. -/
inductive FaultIn (r : Registry) : Json → SynthesisError → Prop
  | notAnObject {json : Json} (other : ∀ fields, json ≠ .object fields) :
      FaultIn r json (.malformed .notAnObject)
  | typeNotAString {fields : List (String × Json)}
      (other : ∀ text, Entries.get? fields "type" ≠ some (.string text)) :
      FaultIn r (.object fields) (.malformed .typeNotAString)
  | typeEmpty {fields : List (String × Json)}
      (empty : Entries.get? fields "type" = some (.string "")) :
      FaultIn r (.object fields) (.malformed .typeEmpty)
  | unknownType {fields : List (String × Json)} {id : TypeId}
      (type : Entries.get? fields "type" = some (.string id.text))
      (unregistered : r.get? id = none) : FaultIn r (.object fields) (.unknownType id)
  | attributesNotAnObject {fields : List (String × Json)} {decl : TypeDecl} {given : Json}
      (type : Entries.get? fields "type" = some (.string decl.id.text))
      (registered : r.get? decl.id = some decl)
      (present : Entries.get? fields "attributes" = some given)
      (other : ∀ values, given ≠ .object values) :
      FaultIn r (.object fields) (.malformed .attributesNotAnObject)
  | unknownAttribute {fields values : List (String × Json)} {decl : TypeDecl} {key : String}
      (type : Entries.get? fields "type" = some (.string decl.id.text))
      (registered : r.get? decl.id = some decl) (given : Gives fields values)
      (undeclared : Undeclared decl values key)
      (least : ∀ other, Undeclared decl values other → key ≤ other) :
      FaultIn r (.object fields) (.unknownAttribute decl.id key)
  | missingAttribute {fields values : List (String × Json)} {decl : TypeDecl} {attr : AttrDecl}
      (draft : DraftOf r decl fields values) (earlier : FitsBefore r decl values attr)
      (absent : Entries.get? values attr.name.text = none) :
      FaultIn r (.object fields) (.missingAttribute decl.id attr.name)
  | typeMismatch {fields values : List (String × Json)} {decl : TypeDecl} {attr : AttrDecl}
      {raw item : Json} {expected : AttrType} (draft : DraftOf r decl fields values)
      (earlier : FitsBefore r decl values attr)
      (present : Entries.get? values attr.name.text = some raw)
      (reached : Reaches r attr.type raw expected item) (mismatch : Mismatches r expected item) :
      FaultIn r (.object fields) (.typeMismatch decl.id attr.name expected)

/-- In the first document a declared attribute leads to the second one, which stands in the place of
an annotation. -/
inductive Inside (r : Registry) : Json → Json → Prop
  | value {fields values : List (String × Json)} {decl : TypeDecl} {attr : AttrDecl}
      {raw document : Json} {expected : TypeId} (draft : DraftOf r decl fields values)
      (earlier : FitsBefore r decl values attr)
      (present : Entries.get? values attr.name.text = some raw)
      (reached : Reaches r attr.type raw (.nested expected) document) :
      Inside r (.object fields) document

variable {r : Registry} {decl : TypeDecl} {fields values : List (String × Json)}
  {json document : Json} {fault : SynthesisError}

theorem Inside.sizeOf_lt (inside : Inside r json document) : sizeOf document < sizeOf json := by
  cases inside with
  | value draft _ present reached =>
    exact Nat.lt_of_le_of_lt reached.sizeOf_le (draft.given.sizeOf_lt present)

theorem Inside.ordered (inside : Inside r json document) (ordered : json.Ordered) :
    document.Ordered := by
  cases inside with
  | value draft _ present reached =>
    exact reached.ordered ((draft.given.ordered ordered).2 _ (Entries.mem_of_get? present))

theorem declaredType_eq_error_iff :
    declaredType r fields = .error fault ↔
      (∀ text, Entries.get? fields "type" ≠ some (.string text)) ∧
          fault = .malformed .typeNotAString ∨
        Entries.get? fields "type" = some (.string "") ∧ fault = .malformed .typeEmpty ∨
        ∃ id, Entries.get? fields "type" = some (.string id.text) ∧ r.get? id = none ∧
          fault = .unknownType id := by
  constructor
  · intro failed
    unfold declaredType at failed
    split at failed
    next text type =>
      split at failed
      next empty =>
        cases failed
        rw [TypeId.ofText?_eq_none_iff.1 empty] at type
        exact .inr (.inl ⟨type, rfl⟩)
      next id named =>
        split at failed
        next unregistered =>
          cases failed
          rw [← TypeId.ofText?_eq_some_iff.1 named] at type
          exact .inr (.inr ⟨id, type, unregistered, rfl⟩)
        · cases failed
    next other =>
      cases failed
      exact .inl ⟨other, rfl⟩
  · rintro (⟨other, rfl⟩ | ⟨type, rfl⟩ | ⟨id, type, unregistered, rfl⟩)
    · unfold declaredType
      split
      next text type => exact (other text type).elim
      · rfl
    · simp only [declaredType, type, TypeId.ofText?_eq_none_iff.2]
    · simp only [declaredType, type, TypeId.ofText?_text, unregistered]

theorem undeclared_iff {key : String} :
    Undeclared decl values key ↔
      ∃ raw, (key, raw) ∈ values ∧ decl.attributes.all (·.name.text ≠ key) := by
  simp [Undeclared, Entries.isSome_get?_iff]

/-- In ascending order the first undeclared key is the smallest one. -/
theorem undeclared_of_find? (ascending : Ascending values) {field : String × Json}
    (found : values.find? (fun field => decl.attributes.all (·.name.text ≠ field.1)) =
      some field) :
    Undeclared decl values field.1 ∧ ∀ other, Undeclared decl values other → field.1 ≤ other := by
  obtain ⟨undeclared, before, after, rfl, declared⟩ := List.find?_eq_some_iff_append.1 found
  refine ⟨undeclared_iff.2 ⟨field.2, by simp, undeclared⟩, fun other undeclaredOther => ?_⟩
  obtain ⟨raw, member, all⟩ := undeclared_iff.1 undeclaredOther
  rcases List.mem_append.1 member with earlier | later
  · have known := declared _ earlier
    rw [all] at known
    cases known
  · rcases List.mem_cons.1 later with rfl | later
    · exact String.le_refl _
    · have less : field.1 < other :=
        (List.pairwise_cons.1 (List.pairwise_append.1 ascending).2.1).1 _ later
      exact String.not_lt.1 fun back => KeyOrder.irrefl _ (KeyOrder.trans less back)

theorem checkKeys_eq_error_iff (ascending : Ascending values) :
    checkKeys decl values = .error fault ↔
      ∃ key, Undeclared decl values key ∧ (∀ other, Undeclared decl values other → key ≤ other) ∧
        fault = .unknownAttribute decl.id key := by
  unfold checkKeys
  cases found : values.find? fun field => decl.attributes.all (·.name.text ≠ field.1) with
  | none =>
    simp only [reduceCtorEq, false_iff]
    rintro ⟨key, undeclared, -⟩
    obtain ⟨raw, member, all⟩ := undeclared_iff.1 undeclared
    exact List.find?_eq_none.1 found _ member all
  | some field =>
    obtain ⟨undeclared, least⟩ := undeclared_of_find? ascending found
    constructor
    · intro same
      cases same
      exact ⟨field.1, undeclared, least, rfl⟩
    · rintro ⟨key, undeclaredKey, leastKey, rfl⟩
      rw [String.le_antisymm (leastKey _ undeclared) (least _ undeclaredKey)]

theorem convertField_eq_error_iff {owner : TypeId} {attr : AttrDecl} :
    convertField r owner attr values = .error fault ↔
      Entries.get? values attr.name.text = none ∧ fault = .missingAttribute owner attr.name ∨
        ∃ raw, Entries.get? values attr.name.text = some raw ∧
          convert r owner attr.name raw attr.type = .error fault := by
  rw [convertField_eq]
  cases Entries.get? values attr.name.text <;> simp [eq_comm]

/-- The keys are checked first, and then the declared attributes are converted in their order. -/
theorem convertGiven_eq_error_iff :
    convertGiven r decl values = .error fault ↔
      checkKeys decl values = .error fault ∨
        (∀ key, ¬ Undeclared decl values key) ∧ ∃ attr, FitsBefore r decl values attr ∧
          convertField r decl.id attr values = .error fault := by
  have checked : (∃ done, checkKeys decl values = .ok done) ↔
      ∀ key, ¬ Undeclared decl values key := by
    simp [checkKeys_eq_ok_iff, Undeclared]
  have fits (attr : AttrDecl) : (∃ pair : AttrName × Value Instance,
      (do let value ← convertField r decl.id attr values
          Except.ok (attr.name, value)) = .ok pair) ↔
        ∃ raw, Entries.get? values attr.name.text = some raw ∧ Fits r attr.type raw := by
    simp only [bind_eq_ok_iff, convertField_eq_ok_iff, fits_iff decl.id attr.name]
    constructor
    · rintro ⟨_, value, ⟨raw, present, success⟩, -⟩
      exact ⟨raw, present, value, success⟩
    · rintro ⟨raw, present, value, success⟩
      exact ⟨_, value, ⟨raw, present, success⟩, rfl⟩
  rw [convertGiven, bind_eq_error_iff, ← checked]
  simp only [bind_eq_error_iff, mapM_eq_error_iff, fits, reduceCtorEq, and_false, exists_false,
    or_false, exists_and_right, FitsBefore]
  refine or_congr_right (and_congr_right fun _ => ⟨?_, ?_⟩)
  · rintro ⟨before, attr, split, earlier, failed⟩
    exact ⟨attr, ⟨before, split, earlier⟩, failed⟩
  · rintro ⟨attr, ⟨before, split, earlier⟩, failed⟩
    exact ⟨before, attr, split, earlier, failed⟩

theorem convertAttributes_eq_error_iff :
    convertAttributes r decl fields = .error fault ↔
      (∃ given, Entries.get? fields "attributes" = some given ∧ (∀ values, given ≠ .object values) ∧
          fault = .malformed .attributesNotAnObject) ∨
        ∃ values, Gives fields values ∧ convertGiven r decl values = .error fault := by
  rw [convertAttributes_eq]
  simp only [Gives]
  cases Entries.get? fields "attributes" with
  | none => simp
  | some given => cases given <;> simp [eq_comm]

theorem synthesize_object_eq_error_iff :
    synthesize r (.object fields) = .error fault ↔
      declaredType r fields = .error fault ∨
        ∃ decl, (Entries.get? fields "type" = some (.string decl.id.text) ∧
            r.get? decl.id = some decl) ∧ convertAttributes r decl fields = .error fault := by
  simp only [synthesize, bind_eq_error_iff, declaredType_eq_ok_iff, reduceCtorEq, and_false,
    exists_false, or_false]

/-- An attribute whose value is missing or does not convert is reported if all before it is in
order. -/
theorem DraftOf.synthesize_eq_error (draft : DraftOf r decl fields values) {attr : AttrDecl}
    (earlier : FitsBefore r decl values attr)
    (failed : convertField r decl.id attr values = .error fault) :
    synthesize r (.object fields) = .error fault := by
  have refused : convertGiven r decl values = .error fault :=
    convertGiven_eq_error_iff.2 (.inr ⟨draft.declared, attr, earlier, failed⟩)
  exact synthesize_object_eq_error_iff.2 (.inr ⟨decl, ⟨draft.type, draft.registered⟩,
    convertAttributes_eq_error_iff.2 (.inr ⟨values, draft.given, refused⟩)⟩)

theorem FaultIn.synthesize_eq_error (here : FaultIn r json fault) (ordered : json.Ordered) :
    synthesize r json = .error fault := by
  cases here with
  | notAnObject other =>
    cases json with
    | object fields => exact (other fields rfl).elim
    | _ => rfl
  | typeNotAString other =>
    exact synthesize_object_eq_error_iff.2 (.inl (declaredType_eq_error_iff.2 (.inl ⟨other, rfl⟩)))
  | typeEmpty empty =>
    exact synthesize_object_eq_error_iff.2
      (.inl (declaredType_eq_error_iff.2 (.inr (.inl ⟨empty, rfl⟩))))
  | unknownType type unregistered =>
    exact synthesize_object_eq_error_iff.2
      (.inl (declaredType_eq_error_iff.2 (.inr (.inr ⟨_, type, unregistered, rfl⟩))))
  | attributesNotAnObject type registered present other =>
    exact synthesize_object_eq_error_iff.2 (.inr ⟨_, ⟨type, registered⟩,
      convertAttributes_eq_error_iff.2 (.inl ⟨_, present, other, rfl⟩)⟩)
  | @unknownAttribute _ values decl key type registered given undeclared least =>
    have refused : checkKeys decl values = .error (.unknownAttribute decl.id key) :=
      (checkKeys_eq_error_iff (given.ordered ordered).1).2 ⟨key, undeclared, least, rfl⟩
    exact synthesize_object_eq_error_iff.2 (.inr ⟨decl, ⟨type, registered⟩,
      convertAttributes_eq_error_iff.2
        (.inr ⟨values, given, convertGiven_eq_error_iff.2 (.inl refused)⟩)⟩)
  | missingAttribute draft earlier absent =>
    exact draft.synthesize_eq_error earlier (convertField_eq_error_iff.2 (.inl ⟨absent, rfl⟩))
  | typeMismatch draft earlier present reached mismatch =>
    exact draft.synthesize_eq_error earlier (convertField_eq_error_iff.2
      (.inr ⟨_, present, convert_eq_error_iff.2 (.inl ⟨_, _, reached, mismatch, rfl⟩)⟩))

theorem Inside.synthesize_eq_error (inside : Inside r json document)
    (failed : synthesize r document = .error fault) : synthesize r json = .error fault := by
  cases inside with
  | value draft earlier present reached =>
    exact draft.synthesize_eq_error earlier (convertField_eq_error_iff.2
      (.inr ⟨_, present, convert_eq_error_iff.2 (.inr ⟨_, _, reached, failed⟩)⟩))

/-- What synthesis reports is a fault of the document itself, or it is what synthesis reports of a
document inside it. -/
theorem faultIn_or_inside (ordered : json.Ordered) (failed : synthesize r json = .error fault) :
    FaultIn r json fault ∨
      ∃ document, Inside r json document ∧ synthesize r document = .error fault := by
  cases json with
  | object fields =>
    rcases synthesize_object_eq_error_iff.1 failed with failed | ⟨decl, ⟨type, registered⟩, failed⟩
    · rcases declaredType_eq_error_iff.1 failed with
        ⟨other, rfl⟩ | ⟨empty, rfl⟩ | ⟨id, type, unregistered, rfl⟩
      · exact .inl (.typeNotAString other)
      · exact .inl (.typeEmpty empty)
      · exact .inl (.unknownType type unregistered)
    rcases convertAttributes_eq_error_iff.1 failed with
      ⟨given, present, other, rfl⟩ | ⟨values, given, failed⟩
    · exact .inl (.attributesNotAnObject type registered present other)
    rcases convertGiven_eq_error_iff.1 failed with failed | ⟨declared, attr, earlier, failed⟩
    · obtain ⟨key, undeclared, least, rfl⟩ :=
        (checkKeys_eq_error_iff (given.ordered ordered).1).1 failed
      exact .inl (.unknownAttribute type registered given undeclared least)
    have draft : DraftOf r decl fields values := ⟨type, registered, given, declared⟩
    rcases convertField_eq_error_iff.1 failed with ⟨absent, rfl⟩ | ⟨raw, present, failed⟩
    · exact .inl (.missingAttribute draft earlier absent)
    rcases convert_eq_error_iff.1 failed with
      ⟨expected, item, reached, mismatch, rfl⟩ | ⟨expected, document, reached, failed⟩
    · exact .inl (.typeMismatch draft earlier present reached mismatch)
    · exact .inr ⟨document, .value draft earlier present reached, failed⟩
  | _ =>
    cases failed
    exact .inl (.notAnObject nofun)

/-- Synthesis reports a fault exactly if some document has it: the document that is read, or one to
which declared attributes lead through annotations and items of arrays. What synthesis looks at
before that place is in order, so that a document has a single fault that is reported. -/
theorem synthesize_fault_within (r : Registry) {json : Json} (ordered : json.Ordered)
    (fault : SynthesisError) :
    synthesize r json = .error fault ↔
      ∃ document, Relation.ReflTransGen (Inside r) json document ∧ FaultIn r document fault := by
  constructor
  · induction json using Json.size_induction with
    | step json ih =>
      intro failed
      rcases faultIn_or_inside ordered failed with here | ⟨inner, inside, failed⟩
      · exact ⟨json, .refl, here⟩
      · obtain ⟨document, within, there⟩ :=
          ih inner inside.sizeOf_lt (inside.ordered ordered) failed
        exact ⟨document, .head inside within, there⟩
  · rintro ⟨document, within, here⟩
    induction within using Relation.ReflTransGen.head_induction_on with
    | refl => exact here.synthesize_eq_error ordered
    | head inside _ ih => exact inside.synthesize_eq_error (ih (inside.ordered ordered))

end Instance

namespace Sample

def letter : TypeId := ⟨"a.Letter", by decide⟩
def stamp : TypeId := ⟨"a.Stamp", by decide⟩

def price : AttrName := ⟨"price", by decide⟩

/-- Letters bear rows of stamps. -/
def post : Registry where
  types := [
    { id := letter, attributes := [⟨.value, .array (.array (.nested stamp))⟩] },
    { id := stamp, attributes := [⟨price, .integer⟩, ⟨⟨"year", by decide⟩, .integer⟩] }]
  ascending := by decide
  distinct := by decide

def stampDocument (attributes : List (String × Json)) : Json :=
  .object [("attributes", .object attributes), ("type", .string stamp.text)]

/-- In the second row the first stamp is in order, the second one is priced in words and bears no
year, and the third one is not even an object. -/
def letterDocument : Json :=
  .object [("attributes", .object [("value", .array [.array [], .array [
      stampDocument [("price", .number (.ofInt64 2)), ("year", .number (.ofInt64 1840))],
      stampDocument [("price", .string "two")], .null]])]),
    ("type", .string letter.text)]

end Sample

/-- The stamp that is priced in words has the fault that is reported of the letter. -/
theorem Instance.synthesize_fault_within_letter :
    Sample.letterDocument.Ordered ∧
      synthesize Sample.post Sample.letterDocument =
        .error (.typeMismatch Sample.stamp Sample.price .integer) ∧
      ∃ document, Relation.ReflTransGen (Inside Sample.post) Sample.letterDocument document ∧
        FaultIn Sample.post document (.typeMismatch Sample.stamp Sample.price .integer) := by
  have ordered : Sample.letterDocument.Ordered := by
    simp only [Sample.letterDocument, Sample.stampDocument, Json.Ordered, Json.OrderedFields,
      Json.OrderedItems]
    decide
  have failed : synthesize Sample.post Sample.letterDocument =
      .error (.typeMismatch Sample.stamp Sample.price .integer) := rfl
  exact ⟨ordered, failed, (synthesize_fault_within Sample.post ordered _).1 failed⟩

end AnnotationContainers
