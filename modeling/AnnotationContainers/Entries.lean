/-! # Entries in key order

Finite maps as association lists whose keys ascend strictly. Insertion keeps the order and
replaces an entry with the same key, so two lists that agree under `get?` are equal: equality of
entries is equality of maps.
-/

namespace AnnotationContainers

universe u v

/-- A strict order in which any two different keys are comparable. -/
class KeyOrder (κ : Type u) [LT κ] : Prop where
  irrefl (a : κ) : ¬ a < a
  trans {a b c : κ} : a < b → b < c → a < c
  connected {a b : κ} : ¬ a < b → a ≠ b → b < a

instance : KeyOrder String where
  irrefl := String.lt_irrefl
  trans := String.lt_trans
  connected h ne := Std.lt_of_le_of_ne (String.not_lt.1 h) (Ne.symm ne)

/-- Every key is smaller than all keys after it. -/
def Ascending {κ : Type u} {α : Type v} [LT κ] (entries : List (κ × α)) : Prop :=
  entries.Pairwise fun a b => a.1 < b.1

theorem Ascending.nodup_keys {κ : Type u} {α : Type v} [LT κ] [KeyOrder κ] {entries : List (κ × α)}
    (h : Ascending entries) : (entries.map (·.1)).Nodup := by
  rw [List.Nodup, List.pairwise_map]
  apply h.imp
  intro a b less same
  rw [same] at less
  exact KeyOrder.irrefl b.1 less

theorem Ascending.nodup {κ : Type u} {α : Type v} [LT κ] [KeyOrder κ] {entries : List (κ × α)}
    (h : Ascending entries) : entries.Nodup :=
  List.Pairwise.of_map (·.1) (fun _ _ different same => different (congrArg (·.1) same))
    h.nodup_keys

namespace Entries

variable {κ : Type u} {α : Type v} [LT κ] [DecidableLT κ] [DecidableEq κ]

instance (entries : List (κ × α)) : Decidable (Ascending entries) :=
  inferInstanceAs (Decidable (List.Pairwise _ _))

omit [LT κ] [DecidableLT κ] in
def get? : List (κ × α) → κ → Option α
  | [], _ => none
  | (k, v) :: rest, key => if k = key then some v else get? rest key

def insert : List (κ × α) → κ → α → List (κ × α)
  | [], key, value => [(key, value)]
  | (k, v) :: rest, key, value =>
    if key < k then (key, value) :: (k, v) :: rest
    else if key = k then (key, value) :: rest
    else (k, v) :: insert rest key value

/-- Store all pairs in turn: of pairs with the same key the last one counts. -/
def ofList (pairs : List (κ × α)) : List (κ × α) :=
  pairs.foldl (fun entries p => insert entries p.1 p.2) []

omit [LT κ] [DecidableLT κ] in
@[simp] theorem get?_nil (key : κ) : get? ([] : List (κ × α)) key = none := rfl

omit [LT κ] [DecidableLT κ] in
theorem get?_cons (k key : κ) (v : α) (rest : List (κ × α)) :
    get? ((k, v) :: rest) key = if k = key then some v else get? rest key := rfl

omit [LT κ] [DecidableLT κ] in
theorem mem_of_get? {entries : List (κ × α)} {key : κ} {value : α}
    (h : get? entries key = some value) : (key, value) ∈ entries := by
  induction entries with
  | nil => cases h
  | cons head rest ih =>
    obtain ⟨k, v⟩ := head
    rw [get?_cons] at h
    split at h
    next same =>
      cases h
      exact same ▸ List.mem_cons_self
    next => exact List.mem_cons_of_mem _ (ih h)

omit [LT κ] [DecidableLT κ] in
theorem isSome_get?_iff {entries : List (κ × α)} {key : κ} :
    (get? entries key).isSome ↔ key ∈ entries.map (·.1) := by
  induction entries with
  | nil => simp
  | cons head rest ih =>
    obtain ⟨k, v⟩ := head
    by_cases same : k = key
    · simp [get?_cons, same]
    · simp [get?_cons, same, ih, Ne.symm same]

omit [LT κ] [DecidableLT κ] in
theorem get?_eq_some_iff {entries : List (κ × α)} (distinct : (entries.map (·.1)).Nodup) {key : κ}
    {value : α} : get? entries key = some value ↔ (key, value) ∈ entries := by
  constructor
  · exact mem_of_get?
  intro member
  induction entries with
  | nil => cases member
  | cons head rest ih =>
    obtain ⟨k, v⟩ := head
    obtain ⟨fresh, later⟩ := List.nodup_cons.1 distinct
    rw [get?_cons]
    rcases List.mem_cons.1 member with same | member
    · cases same
      exact if_pos rfl
    · rw [if_neg fun same => fresh (List.mem_map.2 ⟨_, member, same.symm⟩)]
      exact ih later member

omit [DecidableLT κ] in
theorem eq_of_get?_eq [KeyOrder κ] {a b : List (κ × α)} (ha : Ascending a) (hb : Ascending b)
    (same : ∀ key, get? a key = get? b key) : a = b := by
  have perm : a.Perm b := by
    rw [List.perm_ext_iff_of_nodup ha.nodup hb.nodup]
    intro p
    rw [← get?_eq_some_iff ha.nodup_keys, ← get?_eq_some_iff hb.nodup_keys, same]
  refine List.Perm.eq_of_pairwise (fun p q _ _ pq qp => ?_) ha hb perm
  exact (KeyOrder.irrefl p.1 (KeyOrder.trans pq qp)).elim

omit [DecidableLT κ] in
theorem eq_of_keys [KeyOrder κ] {a b : List (κ × α)} (ha : Ascending a) (hb : Ascending b)
    (keys : ∀ key, (get? a key).isSome ↔ (get? b key).isSome)
    (same : ∀ key v w, get? a key = some v → get? b key = some w → v = w) : a = b := by
  apply eq_of_get?_eq ha hb
  intro key
  have presence := keys key
  cases first : get? a key with
  | none =>
    have absent : get? b key = none := by simpa [first] using presence
    rw [absent]
  | some v =>
    rw [first, Option.isSome_some] at presence
    obtain ⟨w, second⟩ := Option.isSome_iff_exists.1 (presence.1 rfl)
    rw [second, same key v w first second]

theorem mem_insert {entries : List (κ × α)} {key : κ} {value : α} {p : κ × α}
    (h : p ∈ insert entries key value) : p = (key, value) ∨ p ∈ entries := by
  induction entries with
  | nil => simpa [insert] using h
  | cons head rest ih =>
    simp only [insert] at h
    split at h
    · simpa using h
    · split at h
      · rcases List.mem_cons.1 h with h | h
        · exact .inl h
        · exact .inr (List.mem_cons_of_mem _ h)
      · rcases List.mem_cons.1 h with h | h
        · exact .inr (h ▸ List.mem_cons_self)
        · exact (ih h).imp_right (List.mem_cons_of_mem _)

theorem mem_ofList {pairs : List (κ × α)} {p : κ × α} (h : p ∈ ofList pairs) : p ∈ pairs := by
  suffices ∀ entries, p ∈ pairs.foldl (fun entries q => insert entries q.1 q.2) entries →
      p ∈ pairs ∨ p ∈ entries by
    simpa using this [] h
  clear h
  induction pairs with
  | nil => exact fun entries h => .inr h
  | cons q pairs ih =>
    intro entries h
    rcases ih _ h with later | h
    · exact .inl (List.mem_cons_of_mem _ later)
    · rcases mem_insert h with rfl | kept
      · exact .inl List.mem_cons_self
      · exact .inr kept

theorem ascending_insert [KeyOrder κ] {entries : List (κ × α)} (h : Ascending entries)
    (key : κ) (value : α) : Ascending (insert entries key value) := by
  induction entries with
  | nil => simp [insert, Ascending]
  | cons head rest ih =>
    obtain ⟨first, later⟩ := List.pairwise_cons.1 h
    simp only [insert]
    split
    next less =>
      refine List.pairwise_cons.2 ⟨fun p hp => ?_, h⟩
      rcases List.mem_cons.1 hp with rfl | hp
      · exact less
      · exact KeyOrder.trans less (first p hp)
    next notLess =>
      split
      next same => exact List.pairwise_cons.2 ⟨fun p hp => same ▸ first p hp, later⟩
      next different =>
        refine List.pairwise_cons.2 ⟨fun p hp => ?_, ih later⟩
        rcases mem_insert hp with rfl | hp
        · exact KeyOrder.connected notLess different
        · exact first p hp

theorem get?_insert (entries : List (κ × α)) (key : κ) (value : α) (other : κ) :
    get? (insert entries key value) other =
      if key = other then some value else get? entries other := by
  induction entries with
  | nil => rfl
  | cons head rest ih =>
    obtain ⟨k, v⟩ := head
    simp only [insert]
    split
    · rfl
    · split
      next same => subst same; simp only [get?_cons]; split <;> rfl
      next different =>
        simp only [get?_cons, ih]
        split <;> split <;> simp_all

theorem ascending_ofList [KeyOrder κ] (pairs : List (κ × α)) : Ascending (ofList pairs) := by
  suffices ∀ entries, Ascending entries →
      Ascending (pairs.foldl (fun entries p => insert entries p.1 p.2) entries) from
    this [] List.Pairwise.nil
  induction pairs with
  | nil => exact fun _ h => h
  | cons p pairs ih => exact fun entries h => ih _ (ascending_insert h p.1 p.2)

theorem get?_ofList {pairs : List (κ × α)} (distinct : (pairs.map (·.1)).Nodup) (key : κ) :
    get? (ofList pairs) key = get? pairs key := by
  suffices ∀ entries, get? (pairs.foldl (fun entries p => insert entries p.1 p.2) entries) key =
      (get? pairs key).or (get? entries key) by
    simpa [ofList] using this []
  induction pairs with
  | nil => simp
  | cons p pairs ih =>
    intro entries
    obtain ⟨k, v⟩ := p
    obtain ⟨fresh, later⟩ := List.nodup_cons.1 distinct
    rw [List.foldl_cons, ih later, get?_insert, get?_cons]
    by_cases same : k = key
    · have absent : get? pairs key = none := by
        rw [← Option.not_isSome_iff_eq_none, isSome_get?_iff]
        exact same ▸ fresh
      simp [same, absent]
    · simp [same]

end Entries

end AnnotationContainers
