import AnnotationContainers.Json.Reader

/-! # Order of what is read

Every value read from text has its fields in ascending key order: a finished field is inserted at
its place, and nothing else adds a field to an open object.
-/

namespace AnnotationContainers.Json

/-- The part of an array or object that has been read is ordered. -/
def Frame.Ordered : Frame → Prop
  | .array items => (Json.array items).Ordered
  | .object fields _ => (Json.object fields).Ordered

def State.Ordered : State → Prop
  | .value stack | .firstItem stack | .firstKey stack => ∀ frame ∈ stack, frame.Ordered
  | .afterItem items stack => (Json.array items).Ordered ∧ ∀ frame ∈ stack, frame.Ordered
  | .key fields stack | .colon fields _ stack | .afterField fields stack =>
    (Json.object fields).Ordered ∧ ∀ frame ∈ stack, frame.Ordered
  | .finished json => json.Ordered

theorem ordered_insert {fields : List (String × Json)} (h : (Json.object fields).Ordered)
    (key : String) {value : Json} (hv : value.Ordered) :
    (Json.object (Entries.insert fields key value)).Ordered := by
  obtain ⟨ascending, inner⟩ := ordered_object_iff.1 h
  refine ordered_object_iff.2 ⟨Entries.ascending_insert ascending key value, ?_⟩
  intro field member
  rcases Entries.mem_insert member with rfl | member
  · exact hv
  · exact inner field member

namespace State

private theorem ordered_empty_array : (Json.array []).Ordered := ordered_array_iff.2 (by simp)

private theorem ordered_empty_object : (Json.object []).Ordered :=
  ordered_object_iff.2 ⟨.nil, by simp⟩

private theorem ordered_complete (json : Json) (h : json.Ordered) {stack : List Frame}
    (outer : ∀ frame ∈ stack, frame.Ordered) : (complete json stack).Ordered := by
  cases stack with
  | nil => exact h
  | cons frame stack =>
    obtain ⟨inner, rest⟩ := List.forall_mem_cons.1 outer
    cases frame with
    | array items =>
      exact ⟨ordered_array_iff.2 (List.forall_mem_cons.2 ⟨h, ordered_array_iff.1 inner⟩), rest⟩
    | object fields name => exact ⟨ordered_insert inner name h, rest⟩

private theorem ordered_value? {token : Token} {json : Json} (h : token.value? = some json) :
    json.Ordered := by
  cases token <;> simp only [Token.value?, Option.some.injEq, reduceCtorEq] at h
  all_goals
    subst h
    simp [Json.Ordered]

private theorem ordered_start {stack : List Frame} (outer : ∀ frame ∈ stack, frame.Ordered)
    {token : Token} {next : State} (h : start stack token = some next) : next.Ordered := by
  unfold start at h
  split at h
  · split at h <;> cases h
    exact outer
  · split at h <;> cases h
    exact outer
  · obtain ⟨json, value, rfl⟩ := Option.map_eq_some_iff.1 h
    exact ordered_complete json (ordered_value? value) outer

theorem ordered_step {state next : State} (h : state.Ordered) {token : Token}
    (stepped : state.step token = some next) : next.Ordered := by
  unfold step at stepped
  split at stepped
  case h_1 => exact ordered_start h stepped
  case h_3 =>
    refine ordered_start ?_ stepped
    exact List.forall_mem_cons.2 ⟨ordered_empty_array, h⟩
  all_goals cases stepped
  case h_2 => exact ordered_complete _ ordered_empty_array h
  case h_4 => exact List.forall_mem_cons.2 h
  case h_5 =>
    refine ordered_complete _ (ordered_array_iff.2 fun item member => ?_) h.2
    exact ordered_array_iff.1 h.1 item (List.mem_reverse.1 member)
  case h_6 => exact ordered_complete _ ordered_empty_object h
  case h_7 => exact ⟨ordered_empty_object, h⟩
  case h_8 => exact h
  case h_9 => exact List.forall_mem_cons.2 h
  case h_10 => exact h
  case h_11 => exact ordered_complete _ h.1 h.2

private theorem ordered_run {tokens : List Token} {state last : State} (h : state.Ordered)
    (run : tokens.foldlM step state = some last) : last.Ordered := by
  induction tokens generalizing state with
  | nil =>
    cases run
    exact h
  | cons token rest ih =>
    obtain ⟨next, stepped, run⟩ := Option.bind_eq_some_iff.1 run
    exact ih (ordered_step h stepped) run

end State

/-- What is read from text is ordered. -/
theorem ordered_of_ofText? {text : String} {value : Json} (h : ofText? text = some value) :
    value.Ordered := by
  obtain ⟨tokens, _, h⟩ := Option.bind_eq_some_iff.1 h
  obtain ⟨last, run, h⟩ := Option.bind_eq_some_iff.1 h
  have ordered : last.Ordered := State.ordered_run (by simp [State.Ordered]) run
  cases last <;> cases h
  exact ordered

end AnnotationContainers.Json
