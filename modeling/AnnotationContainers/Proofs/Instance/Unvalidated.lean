import AnnotationContainers.Proofs.Instance.Records
import AnnotationContainers.Proofs.Instance.Traversal

/-! # Rendering without validation

What rendering makes of an instance of which nothing is known. `Shows` says what the document is, an
annotation or a value at a time, and there is a document exactly if no read fails. What is stored in
attributes that the registry does not declare makes no difference to any of it.
-/

namespace AnnotationContainers

open Outcomes

namespace Instance

mutual

/-- The document of an annotation: nothing but its type and its attributes, these in key order and
exactly those that the registry declares, each with what reading it has given. -/
inductive Shows (r : Registry) : Instance → Json → Prop
  | document {a : Instance} {fields : List (String × Json)} (ascending : Ascending fields)
      (keys : ∀ key, (Entries.get? fields key).isSome ↔
        ∃ attr ∈ r.attributes a.type, attr.name.text = key)
      (read : ∀ attr ∈ r.attributes a.type, ∃ value, a.read attr.name = .ok value)
      (values : ∀ attr ∈ r.attributes a.type, ∀ value shown, a.read attr.name = .ok value →
        Entries.get? fields attr.name.text = some shown → ShowsValue r value shown) :
      Shows r a (.object [("attributes", .object fields), ("type", .string a.type.text)])

inductive ShowsValue (r : Registry) : Value Instance → Json → Prop
  | boolean (value : Bool) : ShowsValue r (.boolean value) (.bool value)
  | integer (value : Int64) : ShowsValue r (.integer value) (.number (.ofInt64 value))
  | float {value : Double} {number : Number} (finite : Number.ofDouble? value = some number) :
      ShowsValue r (.float value) (.number number)
  | notFinite {value : Double} (notFinite : Number.ofDouble? value = none) :
      ShowsValue r (.float value) .null
  | string (value : String) : ShowsValue r (.string value) (.string value)
  | classRef (name : String) : ShowsValue r (.classRef name) (.string name)
  | enumeration (type constant : String) :
      ShowsValue r (.enumeration type constant) (.string constant)
  | nested {a : Instance} {json : Json} (shows : Shows r a json) : ShowsValue r (.nested a) json
  | array {items : List (Value Instance)} {shown : List Json}
      (each : List.Forall₂ (ShowsValue r) items shown) : ShowsValue r (.array items) (.array shown)

end

variable {r : Registry} {a : Instance} {json : Json}

theorem render_eq_write (r : Registry) (a : Instance) :
    a.render r = (do
      let fields ← (r.attributes a.type).mapM fun attr => do
        let shown ← a.read attr.name >>= renderValue r
        .ok (attr.name.text, shown)
      .ok (document a.type fields)) := by
  simp only [render_eq, bind_assoc]

theorem showsValue_float_iff {x : Double} :
    ShowsValue r (.float x) json ↔ json = ((Number.ofDouble? x).map Json.number).getD .null := by
  constructor
  · intro shows
    cases shows with
    | float finite => rw [finite, Option.map_some, Option.getD_some]
    | notFinite notFinite => rw [notFinite, Option.map_none, Option.getD_none]
  · rintro rfl
    cases outcome : Number.ofDouble? x with
    | some number => exact .float outcome
    | none => exact .notFinite outcome

/-- An annotation is shown as it should be if the values that are read of it are. -/
theorem render_eq_ok_iff_of_values
    (each : ∀ name value, a.read name = .ok value →
      ∀ shown, renderValue r value = .ok shown ↔ ShowsValue r value shown) :
    a.render r = .ok json ↔ Shows r a json := by
  rw [render_eq_write, document_eq_ok_iff]
  constructor
  · rintro ⟨fields, written, rfl⟩
    refine .document written.ascending written.keys (fun attr declared => ?read)
      fun attr declared value shown outcome stored => ?values
    case read =>
      obtain ⟨shown, -, rendered⟩ := written.values attr declared
      obtain ⟨value, outcome, -⟩ := bind_eq_ok_iff.1 rendered
      exact ⟨value, outcome⟩
    case values =>
      obtain ⟨other, storedOther, rendered⟩ := written.values attr declared
      cases stored.symm.trans storedOther
      rw [outcome] at rendered
      exact (each attr.name value outcome shown).1 rendered
  · intro shows
    cases shows with
    | document ascending keys read values =>
      refine ⟨_, ⟨ascending, keys, fun attr declared => ?_⟩, rfl⟩
      obtain ⟨shown, stored⟩ := Option.isSome_iff_exists.1 ((keys _).2 ⟨attr, declared, rfl⟩)
      obtain ⟨value, outcome⟩ := read attr declared
      refine ⟨shown, stored, ?_⟩
      rw [outcome]
      exact (each attr.name value outcome shown).2 (values attr declared value shown outcome stored)

theorem renderValue_array_eq_ok_iff {items : List (Value Instance)}
    (each : ∀ item ∈ items, ∀ shown, renderValue r item = .ok shown ↔ ShowsValue r item shown) :
    renderValue r (.array items) = .ok json ↔ ShowsValue r (.array items) json := by
  have related (shown : List Json) :
      items.mapM (renderValue r) = .ok shown ↔ List.Forall₂ (ShowsValue r) items shown := by
    rw [mapM_eq_ok_iff]
    constructor <;> intro related <;> apply forall₂_imp_of_mem related
    · exact fun item member shown => (each item member shown).1
    · exact fun item member shown => (each item member shown).2
  rw [renderValue_array]
  simp only [bind_eq_ok_iff, related, Except.ok.injEq]
  constructor
  · rintro ⟨shown, shows, rfl⟩
    exact .array shows
  · intro shows
    cases shows with
    | array shows => exact ⟨_, shows, rfl⟩

/-- The document is what it should be, and there is no other one. -/
theorem render_eq_ok_iff (r : Registry) :
    ∀ (a : Instance) (json : Json), a.render r = .ok json ↔ Shows r a json := by
  apply read_induction
  case Q => exact fun value => ∀ json, renderValue r value = .ok json ↔ ShowsValue r value json
  case whole =>
    intro a each json
    exact render_eq_ok_iff_of_values each
  case parts =>
    intro value annotations items json
    cases value with
    | nested a =>
      refine (annotations a rfl json).trans ⟨.nested, fun shows => ?_⟩
      cases shows with
      | nested shows => exact shows
    | array values => exact renderValue_array_eq_ok_iff (items values rfl)
    | float x => rw [renderValue, Except.ok.injEq, showsValue_float_iff, eq_comm]
    | _ =>
      constructor
      · intro same
        cases same
        constructor
      · intro shows
        cases shows
        rfl

mutual

/-- What is left of an annotation without the attributes that the registry does not declare, of it
or of the annotations in it. -/
def declaredPart (r : Registry) : Instance → Instance
  | .record type attributes => .record type (declaredStored r (r.attributes type) attributes)
  | .answering type answer =>
    .answering type fun name =>
      if (r.attributes type).any (·.name = name) then declaredOutcome r (answer name)
      else .error (.missing type name)

def declaredValue (r : Registry) : Value Instance → Value Instance
  | .nested a => .nested (declaredPart r a)
  | .array items => .array (declaredItems r items)
  | .boolean value => .boolean value
  | .integer value => .integer value
  | .float value => .float value
  | .string value => .string value
  | .classRef name => .classRef name
  | .enumeration type constant => .enumeration type constant

def declaredItems (r : Registry) : List (Value Instance) → List (Value Instance)
  | [] => []
  | item :: rest => declaredValue r item :: declaredItems r rest

def declaredStored (r : Registry) (declared : List AttrDecl) :
    List (AttrName × Value Instance) → List (AttrName × Value Instance)
  | [] => []
  | (name, value) :: rest =>
    if declared.any (·.name = name) then
      (name, declaredValue r value) :: declaredStored r declared rest
    else declaredStored r declared rest

def declaredOutcome (r : Registry) :
    Except ReadError (Value Instance) → Except ReadError (Value Instance)
  | .ok value => .ok (declaredValue r value)
  | .error fault => .error fault

end

@[simp] theorem type_declaredPart (r : Registry) (a : Instance) :
    (a.declaredPart r).type = a.type := by
  cases a <;> rfl

theorem declaredItems_eq_map (r : Registry) (items : List (Value Instance)) :
    declaredItems r items = items.map (declaredValue r) := by
  induction items with
  | nil => rfl
  | cons item rest ih => rw [declaredItems, List.map_cons, ih]

theorem get?_declaredStored {declared : List AttrDecl} {attr : AttrDecl} (member : attr ∈ declared)
    (attributes : List (AttrName × Value Instance)) :
    Entries.get? (declaredStored r declared attributes) attr.name =
      (Entries.get? attributes attr.name).map (declaredValue r) := by
  induction attributes with
  | nil => rfl
  | cons entry rest ih =>
    obtain ⟨name, value⟩ := entry
    rw [declaredStored, Entries.get?_cons]
    by_cases same : name = attr.name
    · have kept : declared.any (·.name = name) := List.any_eq_true.2 ⟨attr, member, by simp [same]⟩
      rw [if_pos kept, Entries.get?_cons, if_pos same, if_pos same, Option.map_some]
    · rw [if_neg same, ← ih]
      split
      · rw [Entries.get?_cons, if_neg same]
      · rfl

theorem read_declaredPart {attr : AttrDecl} (declared : attr ∈ r.attributes a.type) :
    (a.declaredPart r).read attr.name = declaredValue r <$> a.read attr.name := by
  cases a with
  | record type attributes =>
    have named : attr ∈ r.attributes type := declared
    rw [declaredPart, Instance.read, Instance.read, get?_declaredStored named]
    cases Entries.get? attributes attr.name <;> rfl
  | answering type answer =>
    have named : (r.attributes type).any (·.name = attr.name) :=
      List.any_eq_true.2 ⟨attr, declared, decide_eq_true rfl⟩
    rw [declaredPart, Instance.read, Instance.read, if_pos named]
    cases answer attr.name <;> rfl

/-- What is stored in undeclared attributes makes no difference, faults in it included. -/
theorem render_declaredPart (r : Registry) :
    ∀ a : Instance, (a.declaredPart r).render r = a.render r := by
  apply read_induction
  case Q => exact fun value => renderValue r (declaredValue r value) = renderValue r value
  case whole =>
    intro a ih
    have same : ∀ attr ∈ r.attributes a.type,
        ((a.declaredPart r).read attr.name >>= renderValue r) =
          (a.read attr.name >>= renderValue r) := by
      intro attr declared
      rw [read_declaredPart declared]
      cases outcome : a.read attr.name with
      | ok value => exact ih attr.name value outcome
      | error fault => rfl
    rw [render_eq_write, render_eq_write, type_declaredPart]
    congr 1
    apply mapM_congr
    intro attr declared
    rw [same attr declared]
  case parts =>
    intro value annotations items
    cases value with
    | nested a => exact annotations a rfl
    | array values =>
      rw [declaredValue, declaredItems_eq_map, renderValue_array, renderValue_array, List.mapM_map]
      congr 1
      exact mapM_congr (items values rfl)
    | _ => rfl

/-- Rendering is a depth-first traversal of the declared attributes, whatever the instance. It
succeeds if every read does, and fails with the error of the first read that does not; the document
shows each annotation with exactly the attributes that are declared for its type. Nothing else is
read, and nothing that is stored elsewhere makes a difference. -/
theorem render_traversal (r : Registry) (a : Instance) :
    ((∃ json, a.render r = .ok json) ↔ ∀ read ∈ a.reads r, read.Succeeds) ∧
      (∀ fault, a.render r = .error fault ↔
        ∃ before read after, a.reads r = before ++ read :: after ∧
          (∀ earlier ∈ before, earlier.Succeeds) ∧ read.outcome = .error fault) ∧
      (∀ json, a.render r = .ok json ↔ Shows r a json) ∧
      (∀ read ∈ a.reads r, ∃ attr ∈ r.attributes read.holder.type, attr.name = read.name) ∧
      (a.declaredPart r).render r = a.render r :=
  ⟨exists_render_eq_ok_iff, fun _ => render_eq_error_iff, render_eq_ok_iff r a,
    declared_of_mem_reads r a, render_declaredPart r a⟩

end Instance

namespace Sample

def parcel : TypeId := ⟨"a.Parcel", by decide⟩
def goods : TypeId := ⟨"a.Goods", by decide⟩

def weight : AttrName := ⟨"weight", by decide⟩
def fragile : AttrName := ⟨"fragile", by decide⟩
def remark : AttrName := ⟨"remark", by decide⟩

/-- Parcels hold layers of goods. -/
def freight : Registry where
  types := [
    { id := goods, attributes := [⟨weight, .integer⟩, ⟨fragile, .boolean⟩] },
    { id := parcel, attributes := [⟨.value, .array (.array (.nested goods))⟩] }]
  ascending := by decide
  distinct := by decide

/-- No type of the registry. -/
def customsSeal : TypeId := ⟨"a.Seal", by decide⟩

/-- Goods with values of the wrong types. -/
def mislabelled : Instance := .record goods [(fragile, .string "yes"), (weight, .string "heavy")]

/-- Goods whose weight can be read, and nothing else. -/
def unmarked : Instance :=
  .answering goods fun name =>
    if name = weight then .ok (.integer 3) else .error (.notAnnotations goods name "a mark")

/-- A layer of goods between an empty layer and a seal, which is no layer. The goods in the remark
and the seal cannot be read. -/
def parcelOf (layer : List Instance) : Instance :=
  .record parcel [(remark, .nested (.failing goods "faded")),
    (.value, .array [.array [], .array (layer.map .nested),
      .nested (.failing customsSeal "broken")])]

end Sample

/-- Lost goods after others are reported, and goods that answer one read and not the next one.
Without them the parcel is rendered: its remark is not declared and the type of the seal is not
registered, so that nothing of them is read. -/
theorem Instance.render_traversal_parcel :
    (Sample.parcelOf [Sample.mislabelled, .failing Sample.goods "lost"]).render Sample.freight =
        .error (.failed Sample.goods Sample.weight "lost") ∧
      (Sample.parcelOf [Sample.unmarked, Sample.mislabelled]).render Sample.freight =
        .error (.notAnnotations Sample.goods Sample.fragile "a mark") ∧
      ∃ json, (Sample.parcelOf [Sample.mislabelled]).render Sample.freight = .ok json ∧
        Shows Sample.freight (Sample.parcelOf [Sample.mislabelled]) json := by
  obtain ⟨-, fails, -⟩ := render_traversal Sample.freight
    (Sample.parcelOf [Sample.mislabelled, .failing Sample.goods "lost"])
  obtain ⟨-, stops, -⟩ := render_traversal Sample.freight
    (Sample.parcelOf [Sample.unmarked, Sample.mislabelled])
  obtain ⟨succeeds, -, shows, -⟩ :=
    render_traversal Sample.freight (Sample.parcelOf [Sample.mislabelled])
  refine ⟨?lost, ?unmarked, ?rendered⟩
  case lost =>
    apply (fails _).2
    refine ⟨[⟨_, .value⟩, ⟨_, Sample.weight⟩, ⟨_, Sample.fragile⟩],
      ⟨.failing Sample.goods "lost", Sample.weight⟩, _, rfl, ?_, rfl⟩
    simp only [List.forall_mem_cons]
    exact ⟨⟨_, rfl⟩, ⟨_, rfl⟩, ⟨_, rfl⟩, nofun⟩
  case unmarked =>
    apply (stops _).2
    refine ⟨[⟨_, .value⟩, ⟨_, Sample.weight⟩], ⟨Sample.unmarked, Sample.fragile⟩, _, rfl, ?_, rfl⟩
    simp only [List.forall_mem_cons]
    exact ⟨⟨_, rfl⟩, ⟨_, rfl⟩, nofun⟩
  case rendered =>
    have reads : (Sample.parcelOf [Sample.mislabelled]).reads Sample.freight =
        [⟨Sample.parcelOf [Sample.mislabelled], .value⟩, ⟨Sample.mislabelled, Sample.weight⟩,
          ⟨Sample.mislabelled, Sample.fragile⟩] := rfl
    have all : ∀ read ∈ (Sample.parcelOf [Sample.mislabelled]).reads Sample.freight,
        read.Succeeds := by
      rw [reads]
      simp only [List.forall_mem_cons]
      exact ⟨⟨_, rfl⟩, ⟨_, rfl⟩, ⟨_, rfl⟩, nofun⟩
    obtain ⟨json, rendered⟩ := succeeds.2 all
    exact ⟨json, rendered, (shows json).1 rendered⟩

end AnnotationContainers
