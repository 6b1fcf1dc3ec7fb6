import AnnotationContainers.Proofs.Chain.Equality

/-! # Reading the texts of chains

Arrows stand between the strategies of a chain's text and also between the two types of a mapping.
If no type has a space in its name, the text can nevertheless be read in one way only, whatever else
the names contain: arrows are the words at odd places, and the word after an arrow tells whether a
mapping begins there. So chains with the same text are equal, and the text lists the strategies in
the order in which they are asked.
-/

namespace AnnotationContainers

open Outcomes

namespace Strategy

/-- What stands between arrows in the text of a strategy: a mapping has two parts. -/
def parts : Strategy → List String
  | .standard => ["standard"]
  | .explicit mapping =>
    ["explicit(" ++ mapping.container.text, mapping.repeatable.text ++ ")"]
  | .disabled => ["none"]

/-- Neither type of a mapping has a space in its name. -/
def Spaceless : Strategy → Prop
  | .explicit mapping =>
    ' ' ∉ mapping.container.text.toList ∧ ' ' ∉ mapping.repeatable.text.toList
  | .standard | .disabled => True

instance : DecidablePred Spaceless
  | .explicit _ => inferInstanceAs (Decidable (_ ∧ _))
  | .standard | .disabled => .isTrue trivial

namespace Key

def ofWord? (word : List Char) : Option Key :=
  if word = "standard".toList then some .standard
  else if word = "none".toList then some .disabled
  else none

def ofPair? (opening closing : List Char) : Option Key := do
  let container ← TypeId.ofText? (String.ofList (← opening.dropPrefix? "explicit(".toList))
  let repeatable ← TypeId.ofText? (String.ofList (← closing.dropSuffix? ")".toList))
  some (.explicit container repeatable)

def ofParts? : List (List Char) → Option (List Key)
  | [] => some []
  | part :: rest =>
    match ofWord? part, rest with
    | some key, rest => (key :: ·) <$> ofParts? rest
    | none, closing :: rest => do
      let key ← ofPair? part closing
      (key :: ·) <$> ofParts? rest
    | none, [] => none

/-- The words at even places, if those at odd places are arrows. -/
def betweenArrows? : List (List Char) → Option (List (List Char))
  | [] => none
  | [word] => some [word]
  | word :: arrow :: rest =>
    if arrow = "->".toList then (word :: ·) <$> betweenArrows? rest else none

/-- The strategies that a text lists, if it is a text of strategies. -/
def listed? (text : String) : Option (List Key) := do
  ofParts? (← betweenArrows? (text.toList.splitOn ' '))

end Key

theorem parts_ne_nil (strategy : Strategy) : strategy.parts ≠ [] := by
  cases strategy <;> exact List.cons_ne_nil _ _

theorem text_eq (strategy : Strategy) : strategy.text = " -> ".intercalate strategy.parts := by
  cases strategy with
  | standard | disabled => rfl
  | explicit mapping => simp [text, parts, String.append_assoc]

theorem intercalate_text (strategies : List Strategy) :
    " -> ".intercalate (strategies.map (·.text)) =
      " -> ".intercalate (strategies.flatMap parts) := by
  induction strategies with
  | nil => rfl
  | cons strategy rest ih =>
    cases rest with
    | nil => simp [text_eq]
    | cons next rest =>
      have more : (next :: rest).flatMap parts ≠ [] := by simp [parts_ne_nil]
      rw [List.flatMap_cons, String.intercalate_append_of_ne_nil strategy.parts_ne_nil more, ← ih,
        ← text_eq]
      simp

theorem spaceless_parts {strategy : Strategy} (spaceless : strategy.Spaceless) :
    ∀ part ∈ strategy.parts, ' ' ∉ part.toList := by
  cases strategy with
  | standard | disabled => decide
  | explicit mapping =>
    obtain ⟨container, repeatable⟩ := spaceless
    simp [parts, container, repeatable]

end Strategy

theorem intercalate_arrow (parts : List (List Char)) :
    " -> ".toList.intercalate parts = [' '].intercalate (parts.intersperse "->".toList) := by
  induction parts with
  | nil => rfl
  | cons part rest ih =>
    cases rest with
    | nil => simp
    | cons next rest =>
      rw [List.intercalate_cons_cons, ih]
      cases rest <;> simp

theorem mem_intersperse {α : Type*} {separator x : α} {xs : List α}
    (member : x ∈ xs.intersperse separator) : x = separator ∨ x ∈ xs := by
  induction xs with
  | nil => exact .inr member
  | cons y rest ih =>
    cases rest with
    | nil => exact .inr member
    | cons z rest =>
      rw [List.intersperse_cons_cons, List.mem_cons, List.mem_cons] at member
      rcases member with rfl | rfl | member
      · exact .inr List.mem_cons_self
      · exact .inl rfl
      · exact (ih member).imp_right (List.mem_cons_of_mem _)

namespace Strategy.Key

theorem betweenArrows?_intersperse {parts : List (List Char)} (nonempty : parts ≠ []) :
    betweenArrows? (parts.intersperse "->".toList) = some parts := by
  induction parts with
  | nil => exact (nonempty rfl).elim
  | cons part rest ih =>
    cases rest with
    | nil => rfl
    | cons next rest =>
      rw [List.intersperse_cons_cons, betweenArrows?, if_pos rfl, ih (List.cons_ne_nil _ _)]
      rfl

theorem ofWord?_explicit (container : TypeId) :
    ofWord? ("explicit(" ++ container.text).toList = none := by
  simp [ofWord?]

theorem ofPair?_parts (container repeatable : TypeId) :
    ofPair? ("explicit(" ++ container.text).toList (repeatable.text ++ ")").toList =
      some (.explicit container repeatable) := by
  have opening : ("explicit(" ++ container.text).toList.dropPrefix? "explicit(".toList =
      some container.text.toList :=
    List.dropPrefix?_eq_some_iff.2 ⟨_, String.toList_append, beq_self_eq_true _⟩
  have closing : (repeatable.text ++ ")").toList.dropSuffix? ")".toList =
      some repeatable.text.toList :=
    List.dropSuffix?_eq_some_iff.2 ⟨_, String.toList_append, beq_self_eq_true _⟩
  rw [ofPair?, opening, Option.bind_eq_bind, Option.bind_some, String.ofList_toList,
    TypeId.ofText?_text, closing]
  simp

theorem ofParts?_word {part : List Char} {rest : List (List Char)} {key : Key}
    (word : ofWord? part = some key) : ofParts? (part :: rest) = (key :: ·) <$> ofParts? rest := by
  -- The equation for `part :: rest` would ask for the form of the rest.
  rw [ofParts?.eq_def]
  simp only [word]

theorem ofParts?_pair (container repeatable : TypeId) (rest : List (List Char)) :
    ofParts? (("explicit(" ++ container.text).toList :: (repeatable.text ++ ")").toList :: rest) =
      (.explicit container repeatable :: ·) <$> ofParts? rest := by
  rw [ofParts?.eq_def]
  simp only [ofWord?_explicit, ofPair?_parts]
  rfl

theorem ofParts?_parts (strategies : List Strategy) :
    ofParts? ((strategies.flatMap parts).map String.toList) = some (strategies.map (·.key)) := by
  induction strategies with
  | nil => rfl
  | cons strategy rest ih =>
    rw [List.flatMap_cons, List.map_append, List.map_cons]
    cases strategy with
    | standard | disabled => exact (ofParts?_word rfl).trans (congrArg (_ <$> ·) ih)
    | explicit mapping => exact (ofParts?_pair _ _ _).trans (congrArg (_ <$> ·) ih)

/-- A text of strategies without spaces in their names lists these, whatever else the names are. -/
theorem listed?_text {strategies : List Strategy} (nonempty : strategies ≠ [])
    (spaceless : ∀ strategy ∈ strategies, strategy.Spaceless) :
    listed? (" -> ".intercalate (strategies.map (·.text))) = some (strategies.map (·.key)) := by
  have parted : (strategies.flatMap parts).map String.toList ≠ [] := by
    obtain ⟨strategy, rest, rfl⟩ := List.exists_cons_of_ne_nil nonempty
    simp [parts_ne_nil]
  have read := betweenArrows?_intersperse parted
  have worded : ((strategies.flatMap parts).map String.toList).intersperse "->".toList ≠ [] := by
    intro empty
    rw [empty] at read
    cases read
  have plain : ∀ word ∈ ((strategies.flatMap parts).map String.toList).intersperse "->".toList,
      ' ' ∉ word := by
    intro word member
    rcases mem_intersperse member with rfl | member
    · decide
    · obtain ⟨part, listed, rfl⟩ := List.mem_map.1 member
      obtain ⟨strategy, asked, part⟩ := List.mem_flatMap.1 listed
      exact spaceless_parts (spaceless strategy asked) _ part
  rw [intercalate_text, listed?, String.toList_intercalate, intercalate_arrow,
    List.splitOn_intercalate ' ' plain worded, Option.bind_eq_bind,
    read, Option.bind_some, ofParts?_parts]

end Strategy.Key

namespace Chain

variable {a b chain : Chain}

def Spaceless (chain : Chain) : Prop := ∀ strategy ∈ chain.strategies, strategy.Spaceless

instance : Decidable chain.Spaceless := inferInstanceAs (Decidable (∀ _ ∈ _, _))

theorem listed?_text (spaceless : chain.Spaceless) :
    Strategy.Key.listed? chain.text = some chain.key :=
  Strategy.Key.listed?_text (List.cons_ne_nil _ _) spaceless

/-- A text does not show the accessors of mappings. -/
theorem text_eq_of_key_eq (same : a.key = b.key) : a.text = b.text := by
  have keyed : ∀ chain : Chain, chain.strategies.map (·.text) =
      chain.key.map fun key => (Strategy.ofKey key).text := by
    intro chain
    rw [key, List.map_map]
    apply List.map_congr_left
    intro strategy _
    cases strategy <;> rfl
  rw [text, text, keyed, keyed, same]

theorem text_eq_iff_key_eq (ha : a.Spaceless) (hb : b.Spaceless) :
    a.text = b.text ↔ a.key = b.key := by
  refine ⟨fun same => ?_, text_eq_of_key_eq⟩
  have read := listed?_text ha
  rw [same, listed?_text hb] at read
  exact (Option.some.inj read).symm

theorem getElem?_asked_key (chain : Chain) (r : Registry) (id : TypeId) (cache : Cache) (k : Nat) :
    ((chain.asked r id cache)[k]?).map (·.key) =
      if (Strategy.consult r id (chain.strategies.take k) cache).1 = none then chain.key[k]?
      else none := by
  rw [asked, Strategy.getElem?_asked, key, List.getElem?_map]
  split <;> rfl

/-- The text of a chain identifies it, and lists the strategies in the order in which they are
asked: the one at a place of the text is asked exactly if none before it recognises the type, no
others are asked, and asking these is all that consulting the chain comes to. -/
theorem text_identifies (ha : a.Spaceless) (hb : b.Spaceless) :
    (a.text = b.text ↔ (a == b) = true) ∧
      (a.Built → b.Built → (a.text = b.text ↔ a = b)) ∧
      ∃ keys, Strategy.Key.listed? a.text = some keys ∧
        ∀ (r : Registry) (id : TypeId) (cache : Cache),
          (∀ k, ((a.asked r id cache)[k]?).map (·.key) =
            if (Strategy.consult r id (a.strategies.take k) cache).1 = none then keys[k]?
            else none) ∧
          Strategy.consult r id (a.asked r id cache) cache = a.consult r id cache := by
  refine ⟨?_, fun builtA builtB => ?_, a.key, listed?_text ha, fun r id cache => ⟨?_, ?_⟩⟩
  · rw [beq_iff, text_eq_iff_key_eq ha hb]
  · rw [text_eq_iff_key_eq ha hb]
    exact ⟨builtA.eq_of_key_eq builtB, congrArg key⟩
  · exact a.getElem?_asked_key r id cache
  · exact Strategy.consult_asked r id a.strategies cache

end Chain

namespace Sample

def arrow : TypeId := ⟨"->", by decide⟩
def opened : TypeId := ⟨"explicit(->", by decide⟩
def closed : TypeId := ⟨"none)", by decide⟩
def standard : TypeId := ⟨"standard", by decide⟩

/-- Containers whose names, and those of what they hold, look like pieces of a text. -/
def lookalikes : Registry where
  types := [
    { id := arrow, attributes := [.valueOf opened] },
    { id := opened },
    { id := closed },
    { id := standard, attributes := [.valueOf closed] }]
  ascending := by decide
  distinct := by decide

/-- The two containers are mapped over native containers, the standard one first. -/
def standardFirst : Chain :=
  ⟨.explicit ⟨closed, standard, .valueOf closed⟩,
    [.explicit ⟨opened, arrow, .valueOf opened⟩, .standard]⟩

/-- The same, the arrow first. -/
def arrowFirst : Chain :=
  ⟨.explicit ⟨opened, arrow, .valueOf opened⟩,
    [.explicit ⟨closed, standard, .valueOf closed⟩, .standard]⟩

end Sample

/-- Two orders of the same mappings show in the text. The second mapping of one of them is asked
about the arrow, which it recognises, and native containers are not asked any more. -/
theorem Chain.text_identifies_lookalikes :
    Sample.standardFirst.Built ∧ Sample.arrowFirst.Built ∧
      Sample.standardFirst.Spaceless ∧ Sample.arrowFirst.Spaceless ∧
      (Sample.standardFirst.text = Sample.arrowFirst.text ↔
        Sample.standardFirst = Sample.arrowFirst) ∧
      Sample.standardFirst.text ≠ Sample.arrowFirst.text ∧
      ∃ keys, Strategy.Key.listed? Sample.standardFirst.text = some keys ∧
        ((Sample.standardFirst.asked Sample.lookalikes Sample.arrow .empty)[1]?).map (·.key) =
          keys[1]? ∧
        ((Sample.standardFirst.asked Sample.lookalikes Sample.arrow .empty)[2]?).map (·.key) =
          none := by
  have builtA : Sample.standardFirst.Built :=
    .extend (.extend .standard (show Chain.standard.extend Sample.lookalikes Sample.opened
        (some Sample.arrow) = .ok ⟨_, _⟩ from rfl))
      (show Chain.extend _ Sample.lookalikes Sample.closed (some Sample.standard) =
        .ok Sample.standardFirst from rfl)
  have builtB : Sample.arrowFirst.Built :=
    .extend (.extend .standard (show Chain.standard.extend Sample.lookalikes Sample.closed
        (some Sample.standard) = .ok ⟨_, _⟩ from rfl))
      (show Chain.extend _ Sample.lookalikes Sample.opened (some Sample.arrow) =
        .ok Sample.arrowFirst from rfl)
  have spacelessA : Sample.standardFirst.Spaceless := by decide
  have spacelessB : Sample.arrowFirst.Spaceless := by decide
  have differ : ¬ (Sample.standardFirst == Sample.arrowFirst) = true := by decide
  obtain ⟨equal, identical, keys, listed, order⟩ := text_identifies spacelessA spacelessB
  obtain ⟨places, -⟩ := order Sample.lookalikes Sample.arrow .empty
  exact ⟨builtA, builtB, spacelessA, spacelessB, identical builtA builtB,
    fun same => differ (equal.1 same), keys, listed,
    (places 1).trans (if_pos rfl), (places 2).trans (if_neg nofun)⟩

namespace Sample

def left : TypeId := ⟨"a", by decide⟩
def leftHeld : TypeId := ⟨"b", by decide⟩
def right : TypeId := ⟨"c", by decide⟩
def rightHeld : TypeId := ⟨"d", by decide⟩

/-- A name with spaces, in which one mapping ends and another begins. -/
def both : TypeId := ⟨"a -> b) -> explicit(c", by decide⟩

def spaced : Registry where
  types := [
    { id := left, attributes := [.valueOf leftHeld] },
    { id := both, attributes := [.valueOf rightHeld] },
    { id := leftHeld },
    { id := right, attributes := [.valueOf rightHeld] },
    { id := rightHeld }]
  ascending := by decide
  distinct := by decide

end Sample

/-- With spaces in names, one mapping may have the text of two. -/
theorem Chain.exists_text_eq_of_spaces :
    ∃ one two : Chain, one.Built ∧ two.Built ∧ one.text = two.text ∧ ¬ (one == two) = true := by
  obtain ⟨one, single⟩ : ∃ one, Chain.of Sample.spaced Sample.rightHeld (some Sample.both) =
    .ok one := ⟨_, rfl⟩
  obtain ⟨base, mapped⟩ : ∃ base, Chain.of Sample.spaced Sample.rightHeld (some Sample.right) =
    .ok base := ⟨_, rfl⟩
  obtain ⟨two, extended⟩ : ∃ two, base.extend Sample.spaced Sample.leftHeld (some Sample.left) =
    .ok two := ⟨_, rfl⟩
  refine ⟨one, two, .of single, .extend (.of mapped) extended, ?_, ?_⟩
  all_goals
    cases single
    cases mapped
    cases extended
    decide

end AnnotationContainers
