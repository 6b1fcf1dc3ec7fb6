import AnnotationContainers.Registry.Basic
import Mathlib.Data.List.Nodup

/-! # Registries and the lists they are built from

A list of types is registered exactly if no two types share a name and no type has two attributes of
one name. The registry then holds the types of the list and nothing else, so that the order of the
list plays no part: `Registry.ofList_eq_ok_iff`.
-/

namespace AnnotationContainers

universe u v

/-- In a list with distinct keys, the first item with a key is the only one. -/
theorem find?_eq_some_iff_of_nodup {α : Type u} {κ : Type v} [DecidableEq κ] {key : α → κ}
    {xs : List α} (distinct : (xs.map key).Nodup) {k : κ} {x : α} :
    xs.find? (key · = k) = some x ↔ x ∈ xs ∧ key x = k := by
  constructor
  · intro found
    exact ⟨List.mem_of_find?_eq_some found, by simpa using List.find?_some found⟩
  · rintro ⟨member, rfl⟩
    have present : (xs.find? (key · = key x)).isSome :=
      List.find?_isSome.2 ⟨x, member, decide_eq_true rfl⟩
    obtain ⟨other, first⟩ := Option.isSome_iff_exists.1 present
    have same : key other = key x := by simpa using List.find?_some first
    rw [first, List.inj_on_of_nodup_map distinct (List.mem_of_find?_eq_some first) member same]

namespace Registry

variable {r s : Registry} {id : TypeId} {decl : TypeDecl} {types : List TypeDecl}

theorem nodup_ids (r : Registry) : (r.types.map (·.id)).Nodup := by
  rw [List.Nodup, List.pairwise_map]
  apply r.ascending.imp
  intro a b less same
  rw [same] at less
  exact KeyOrder.irrefl b.id less

theorem get?_eq_some_iff : r.get? id = some decl ↔ decl ∈ r.types ∧ decl.id = id :=
  find?_eq_some_iff_of_nodup r.nodup_ids

theorem get?_eq_none_iff : r.get? id = none ↔ id ∉ r.types.map (·.id) := by
  simp [get?]

theorem eq_of_perm (perm : r.types.Perm s.types) : r = s := by
  have same : r.types = s.types := by
    refine List.Perm.eq_of_pairwise (fun a b _ _ ab ba => ?_) r.ascending s.ascending perm
    exact (KeyOrder.irrefl a.id (KeyOrder.trans ab ba)).elim
  cases r
  cases s
  cases same
  rfl

theorem place_perm (decl : TypeDecl) (types : List TypeDecl) :
    (place decl types).Perm (decl :: types) := by
  induction types with
  | nil => exact .refl _
  | cons first rest ih =>
    rw [place]
    split
    · exact .refl _
    · exact (ih.cons first).trans (.swap decl first rest)

theorem of_register_eq_ok (h : r.register decl = .ok s) : s.types.Perm (decl :: r.types) := by
  unfold register at h
  split at h
  · cases h
  · split at h
    · cases h
    · cases h
      exact place_perm decl r.types

theorem append_perm_of_register (h : r.register decl = .ok s) (rest : List TypeDecl) :
    (rest ++ s.types).Perm (decl :: rest ++ r.types) :=
  ((of_register_eq_ok h).append_left rest).trans List.perm_middle

theorem exists_register_eq_ok (distinct : decl.attributeNames.Nodup)
    (fresh : r.get? decl.id = none) : ∃ s, r.register decl = .ok s := by
  have unrepeated : repeatedName? [] decl.attributes = none :=
    repeatedName?_eq_none_iff.2 ⟨distinct, by simp⟩
  unfold register
  split
  next repeated => cases unrepeated.symm.trans repeated
  · split
    next known => cases fresh.symm.trans known
    · exact ⟨_, rfl⟩

theorem of_foldlM_register_eq_ok (h : types.foldlM register r = .ok s) :
    s.types.Perm (types ++ r.types) := by
  induction types generalizing r with
  | nil =>
    cases h
    exact .refl _
  | cons decl rest ih =>
    rw [List.foldlM_cons] at h
    cases step : r.register decl with
    | error fault =>
      rw [step] at h
      cases h
    | ok next =>
      rw [step] at h
      exact (ih h).trans (append_perm_of_register step rest)

/-- Types with distinct names, none of them registered yet, are all added. -/
theorem exists_foldlM_register_eq_ok (distinct : ∀ decl ∈ types, decl.attributeNames.Nodup)
    (fresh : ((types ++ r.types).map (·.id)).Nodup) : ∃ s, types.foldlM register r = .ok s := by
  induction types generalizing r with
  | nil => exact ⟨r, rfl⟩
  | cons decl rest ih =>
    obtain ⟨here, later⟩ := List.forall_mem_cons.1 distinct
    rw [List.cons_append, List.map_cons, List.nodup_cons] at fresh
    have unregistered : r.get? decl.id = none := by
      rw [get?_eq_none_iff]
      intro known
      apply fresh.1
      rw [List.map_append]
      exact List.mem_append_right _ known
    obtain ⟨next, step⟩ := exists_register_eq_ok here unregistered
    have freshNext : ((rest ++ next.types).map (·.id)).Nodup := by
      rw [((append_perm_of_register step rest).map (·.id)).nodup_iff, List.cons_append,
        List.map_cons, List.nodup_cons]
      exact fresh
    obtain ⟨s, success⟩ := ih later freshNext
    refine ⟨s, ?_⟩
    rw [List.foldlM_cons, step]
    exact success

theorem perm_of_ofList_eq_ok (h : ofList types = .ok r) : r.types.Perm types := by
  simpa [empty] using of_foldlM_register_eq_ok h

theorem exists_ofList_eq_ok_iff :
    (∃ r, ofList types = .ok r) ↔
      (types.map (·.id)).Nodup ∧ ∀ decl ∈ types, decl.attributeNames.Nodup := by
  constructor
  · rintro ⟨r, success⟩
    have perm := perm_of_ofList_eq_ok success
    refine ⟨(perm.map (·.id)).nodup_iff.1 r.nodup_ids, fun decl member => ?_⟩
    exact r.distinct decl (perm.mem_iff.2 member)
  · rintro ⟨ids, distinct⟩
    exact exists_foldlM_register_eq_ok distinct (by simpa [empty] using ids)

/-- A list gives the registry with the types of the list, whatever their order in it. -/
theorem ofList_eq_ok_iff : ofList types = .ok r ↔ r.types.Perm types := by
  constructor
  · exact perm_of_ofList_eq_ok
  · intro perm
    have ids : (types.map (·.id)).Nodup := (perm.map (·.id)).nodup_iff.1 r.nodup_ids
    obtain ⟨s, success⟩ := exists_ofList_eq_ok_iff.2
      ⟨ids, fun decl member => r.distinct decl (perm.mem_iff.2 member)⟩
    have same : r = s := eq_of_perm (perm.trans (perm_of_ofList_eq_ok success).symm)
    rw [success, same]

end Registry

end AnnotationContainers
