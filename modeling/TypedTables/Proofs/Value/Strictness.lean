import TypedTables.Proofs.Value.Merging

/-!
# Equality that tells truth values from numbers

Truth values count as one and zero where values are compared. Strict equality keeps truth values and
numbers apart, in a value itself and at every depth inside lists, tuples and mappings. It is
equality where no truth value is compared with a value of another kind: two values that are equal,
but not strictly, have a truth value and a number in one place.
-/

namespace TypedTables.Value

mutual

/-- Equality in which a truth value equals only a truth value, also inside lists, tuples and
mappings. -/
def equalsStrictly (left right : Value) : Bool :=
  left.isBoolean == right.isBoolean &&
    match left with
    | .list items => match right with
        | .list others => listsStrictly items others
        | _ => false
    | .tuple items => match right with
        | .tuple others => listsStrictly items others
        | _ => false
    | .mapping entries | .frozenMapping entries => match right.entries? with
        | some others => entries.length == others.length && entriesStrictly entries others
        | none => false
    | _ => equals left right

/-- Strict equality inside containers: strictly equal, or the same not-a-number. -/
def alikeStrictly (left right : Value) : Bool :=
  sameNotANumber left right || equalsStrictly left right

def listsStrictly : List Value → List Value → Bool
  | [], [] => true
  | left :: leftRest, right :: rightRest =>
      alikeStrictly left right && listsStrictly leftRest rightRest
  | _, _ => false

/-- Every entry stands under a strictly alike key with a strictly alike item among the others. -/
def entriesStrictly : List (Value × Value) → List (Value × Value) → Bool
  | [], _ => true
  | (key, item) :: rest, others =>
      others.any (fun other => alikeStrictly key other.1 && alikeStrictly item other.2) &&
        entriesStrictly rest others

end

/-- A truth value stands in one of the values where the other has a value of another kind: the two
values themselves, two items at one place, two keys that are alike, or two items under such keys. -/
inductive Mixes : Value → Value → Prop where
  | here {left right : Value} (differ : left.isBoolean ≠ right.isBoolean) : Mixes left right
  | item {left right item other : Value} {items others : List Value}
      (isItems : left.items? = some items) (isOthers : right.items? = some others)
      (together : (item, other) ∈ items.zip others) (mixes : Mixes item other) : Mixes left right
  | key {left right : Value} {entries others : List (Value × Value)} {entry other : Value × Value}
      (isEntries : left.entries? = some entries) (isOthers : right.entries? = some others)
      (isEntry : entry ∈ entries) (isOther : other ∈ others)
      (same : alike entry.1 other.1 = true) (mixes : Mixes entry.1 other.1) : Mixes left right
  | entry {left right : Value} {entries others : List (Value × Value)} {entry other : Value × Value}
      (isEntries : left.entries? = some entries) (isOthers : right.entries? = some others)
      (isEntry : entry ∈ entries) (isOther : other ∈ others)
      (same : alike entry.1 other.1 = true) (mixes : Mixes entry.2 other.2) : Mixes left right

section Mixing

variable {left right : Value}

theorem mixes_iff_of_no_parts (noItems : left.items? = none) (noEntries : left.entries? = none) :
    Mixes left right ↔ left.isBoolean ≠ right.isBoolean := by
  refine ⟨fun mixes => ?_, .here⟩
  cases mixes with
  | here differ => exact differ
  | item isItems => cases noItems.symm.trans isItems
  | key isEntries | entry isEntries => cases noEntries.symm.trans isEntries

theorem isBoolean_of_items? {items : List Value} (isItems : left.items? = some items) :
    left.isBoolean = false ∧ left.entries? = none := by
  cases left with
  | list | tuple => exact ⟨rfl, rfl⟩
  | _ => cases isItems

theorem isBoolean_of_entries? {entries : List (Value × Value)}
    (isEntries : left.entries? = some entries) : left.isBoolean = false ∧ left.items? = none := by
  cases left with
  | mapping | frozenMapping => exact ⟨rfl, rfl⟩
  | _ => cases isEntries

theorem not_mixes_items_iff {items others : List Value} (isItems : left.items? = some items)
    (isOthers : right.items? = some others) :
    ¬Mixes left right ↔ ∀ pair ∈ items.zip others, ¬Mixes pair.1 pair.2 := by
  refine ⟨fun apart pair together mixes => apart (.item isItems isOthers together mixes), ?_⟩
  intro apart mixes
  obtain ⟨leftKind, noEntries⟩ := isBoolean_of_items? isItems
  obtain ⟨rightKind, -⟩ := isBoolean_of_items? isOthers
  cases mixes with
  | here differ => exact differ (leftKind.trans rightKind.symm)
  | item isLeft isRight together mixes =>
      cases isItems.symm.trans isLeft
      cases isOthers.symm.trans isRight
      exact apart _ together mixes
  | key isEntries | entry isEntries => cases noEntries.symm.trans isEntries

theorem not_mixes_entries_iff {entries others : List (Value × Value)}
    (isEntries : left.entries? = some entries) (isOthers : right.entries? = some others) :
    ¬Mixes left right ↔ ∀ entry ∈ entries, ∀ other ∈ others, alike entry.1 other.1 = true →
      ¬Mixes entry.1 other.1 ∧ ¬Mixes entry.2 other.2 := by
  constructor
  · intro apart entry isEntry other isOther same
    exact ⟨fun mixes => apart (.key isEntries isOthers isEntry isOther same mixes),
      fun mixes => apart (.entry isEntries isOthers isEntry isOther same mixes)⟩
  · intro apart mixes
    obtain ⟨leftKind, noItems⟩ := isBoolean_of_entries? isEntries
    obtain ⟨rightKind, -⟩ := isBoolean_of_entries? isOthers
    cases mixes with
    | here differ => exact differ (leftKind.trans rightKind.symm)
    | item isItems => cases noItems.symm.trans isItems
    | key isLeft isRight isEntry isOther same mixes =>
        cases isEntries.symm.trans isLeft
        cases isOthers.symm.trans isRight
        exact (apart _ isEntry _ isOther same).1 mixes
    | entry isLeft isRight isEntry isOther same mixes =>
        cases isEntries.symm.trans isLeft
        cases isOthers.symm.trans isRight
        exact (apart _ isEntry _ isOther same).2 mixes

theorem not_mixes_of_sameNotANumber (same : sameNotANumber left right = true) :
    ¬Mixes left right := by
  cases eq_of_sameNotANumber same
  have noParts : left.items? = none ∧ left.entries? = none := by
    cases left with
    | notANumber | decimal => exact ⟨rfl, rfl⟩
    | _ => cases same
  rw [mixes_iff_of_no_parts noParts.1 noParts.2]
  exact fun differ => differ rfl

end Mixing

theorem listsStrictly_iff (items others : List Value) :
    listsStrictly items others = true ↔
      List.Forall₂ (fun item other => alikeStrictly item other = true) items others := by
  induction items generalizing others with
  | nil => cases others <;> simp [listsStrictly]
  | cons item rest ih => cases others <;> simp [listsStrictly, ih]

theorem entriesStrictly_iff (entries others : List (Value × Value)) :
    entriesStrictly entries others = true ↔
      ∀ entry ∈ entries, ∃ other ∈ others,
        alikeStrictly entry.1 other.1 = true ∧ alikeStrictly entry.2 other.2 = true := by
  induction entries with
  | nil => simp [entriesStrictly]
  | cons entry rest ih =>
      rcases entry with ⟨key, item⟩
      rw [entriesStrictly, Bool.and_eq_true, ih, List.any_eq_true, List.forall_mem_cons]
      simp only [Bool.and_eq_true]

/-- Strict equality is equality without mixing, for these two values. -/
def IsStrict (left right : Value) : Prop :=
  alikeStrictly left right = true ↔ alike left right = true ∧ ¬Mixes left right

theorem isStrict_of_equals {left right : Value}
    (equal : equalsStrictly left right = true ↔ equals left right = true ∧ ¬Mixes left right) :
    IsStrict left right := by
  rw [IsStrict, alikeStrictly, alike, Bool.or_eq_true, Bool.or_eq_true, equal]
  cases same : sameNotANumber left right with
  | true => simp [not_mixes_of_sameNotANumber same]
  | false => simp

theorem listsStrictly_iff_alikeLists {items others : List Value}
    (each : ∀ pair ∈ items.zip others, IsStrict pair.1 pair.2) :
    listsStrictly items others = true ↔
      alikeLists items others = true ∧ ∀ pair ∈ items.zip others, ¬Mixes pair.1 pair.2 := by
  rw [listsStrictly_iff, alikeLists_iff, List.forall₂_iff_zip, List.forall₂_iff_zip]
  constructor
  · rintro ⟨sameLength, strict⟩
    have both (pair : Value × Value) (together : pair ∈ items.zip others) :=
      (each pair together).mp (strict together)
    exact ⟨⟨sameLength, fun together => (both _ together).1⟩,
      fun pair together => (both pair together).2⟩
  · rintro ⟨⟨sameLength, alikes⟩, apart⟩
    exact ⟨sameLength, fun together => (each _ together).mpr ⟨alikes together, apart _ together⟩⟩

/-- Keys that are alike to one key are one, so an entry has one partner only: strictness there is
strictness wherever the entry is compared. -/
theorem entriesStrictly_iff_entriesWithin {entries others : List (Value × Value)}
    (keysFormed : ∀ entry ∈ entries, entry.1.IsWellFormed)
    (othersFormed : ∀ other ∈ others, other.1.IsWellFormed)
    (distinct : Distinct (others.map Prod.fst))
    (each : ∀ entry ∈ entries, ∀ other ∈ others,
      IsStrict entry.1 other.1 ∧ IsStrict entry.2 other.2) :
    entriesStrictly entries others = true ↔
      entriesWithin entries others = true ∧
        ∀ entry ∈ entries, ∀ other ∈ others, alike entry.1 other.1 = true →
          ¬Mixes entry.1 other.1 ∧ ¬Mixes entry.2 other.2 := by
  rw [entriesStrictly_iff, entriesWithin_iff]
  constructor
  · intro strict
    refine ⟨fun entry isEntry => ?_, fun entry isEntry next isNext same => ?_⟩
    · obtain ⟨other, isOther, ofKey, ofItem⟩ := strict entry isEntry
      obtain ⟨strictKey, strictItem⟩ := each entry isEntry other isOther
      exact ⟨other, isOther, (strictKey.mp ofKey).1, (strictItem.mp ofItem).1⟩
    · obtain ⟨other, isOther, ofKey, ofItem⟩ := strict entry isEntry
      obtain ⟨strictKey, strictItem⟩ := each entry isEntry other isOther
      have sameKeys := alike_trans
        ((keysFormed entry isEntry).alike_symm same) (strictKey.mp ofKey).1
      cases eq_of_alike_keys distinct othersFormed isNext isOther sameKeys
      exact ⟨(strictKey.mp ofKey).2, (strictItem.mp ofItem).2⟩
  · rintro ⟨within, apart⟩ entry isEntry
    obtain ⟨other, isOther, sameKey, sameItem⟩ := within entry isEntry
    obtain ⟨strictKey, strictItem⟩ := each entry isEntry other isOther
    obtain ⟨apartKeys, apartItems⟩ := apart entry isEntry other isOther sameKey
    exact ⟨other, isOther, strictKey.mpr ⟨sameKey, apartKeys⟩,
      strictItem.mpr ⟨sameItem, apartItems⟩⟩

/-- Well-formed values are strictly equal when they are equal and nowhere mix a truth value with a
value of another kind. The induction is on the parts of the first. -/
theorem equalsStrictly_iff {left right : Value} (leftFormed : left.IsWellFormed)
    (rightFormed : right.IsWellFormed) :
    equalsStrictly left right = true ↔ equals left right = true ∧ ¬Mixes left right := by
  induction left using inductionOnParts generalizing right with
  | step left ih =>
  have strict (part : Value) (isPart : part ∈ left.parts) (other : Value)
      (otherFormed : other.IsWellFormed) : IsStrict part other :=
    isStrict_of_equals (ih part isPart (leftFormed.part isPart) otherFormed)
  have strictItems {items others : List Value} (isItems : left.items? = some items)
      (isOthers : right.items? = some others) :
      ∀ pair ∈ items.zip others, IsStrict pair.1 pair.2 := by
    intro pair together
    obtain ⟨isItem, isOther⟩ := List.of_mem_zip together
    exact strict _ (mem_parts_of_items? isItems isItem) _ (rightFormed.items isOthers _ isOther)
  have sameKind {entries others : List (Value × Value)} (isEntries : left.entries? = some entries)
      (isOthers : right.entries? = some others) : (left.isBoolean == right.isBoolean) = true := by
    rw [(isBoolean_of_entries? isEntries).1, (isBoolean_of_entries? isOthers).1]
    rfl
  have strictEntries {entries others : List (Value × Value)}
      (isEntries : left.entries? = some entries) (isOthers : right.entries? = some others) :
      entriesStrictly entries others = true ↔
        entriesWithin entries others = true ∧ ¬Mixes left right := by
    rw [not_mixes_entries_iff isEntries isOthers]
    refine entriesStrictly_iff_entriesWithin
      (fun entry isEntry => (leftFormed.entries isEntries entry isEntry).1)
      (fun other isOther => (rightFormed.entries isOthers other isOther).1)
      (rightFormed.keys isOthers) fun entry isEntry other isOther => ?_
    obtain ⟨keyFormed, itemFormed⟩ := rightFormed.entries isOthers other isOther
    exact ⟨strict _ (key_mem_parts isEntries isEntry) _ keyFormed,
      strict _ (item_mem_parts isEntries isEntry) _ itemFormed⟩
  cases left with
  | list items =>
      cases right with
      | list others =>
          rw [not_mixes_items_iff rfl rfl, equals,
            ← listsStrictly_iff_alikeLists (strictItems rfl rfl)]
          simp [equalsStrictly, isBoolean]
      | _ => simp [equalsStrictly, equals]
  | tuple items =>
      cases right with
      | tuple others =>
          rw [not_mixes_items_iff rfl rfl, equals,
            ← listsStrictly_iff_alikeLists (strictItems rfl rfl)]
          simp [equalsStrictly, isBoolean]
      | _ => simp [equalsStrictly, equals]
  | mapping entries | frozenMapping entries =>
      cases isOthers : right.entries? with
      | none => simp [equalsStrictly, equals, isOthers]
      | some others =>
          rw [equalsStrictly, sameKind rfl isOthers, Bool.true_and, equals]
          simp only [isOthers, Bool.and_eq_true, strictEntries rfl isOthers, and_assoc]
  | _ =>
      rw [mixes_iff_of_no_parts rfl rfl]
      simp [equalsStrictly, and_comm]

/-- Of the same kind, truth values or not, but with a truth value in one of them where the other has
a value of another kind. -/
def MixesInside (left right : Value) : Prop := left.isBoolean = right.isBoolean ∧ Mixes left right

theorem sameLiteral_iff {expected value : Value} (expectedFormed : expected.IsWellFormed)
    (formed : value.IsWellFormed) :
    sameLiteral expected value = true ↔ equalsStrictly expected value = true ∨
      equals expected value = true ∧ MixesInside expected value := by
  have compared : sameLiteral expected value = true ↔
      equals expected value = true ∧ expected.isBoolean = value.isBoolean := by
    unfold sameLiteral
    cases expected.isBoolean <;> cases value.isBoolean <;> simp
  rw [compared, equalsStrictly_iff expectedFormed formed]
  constructor
  · rintro ⟨equal, sameKind⟩
    by_cases mixes : Mixes expected value
    · exact .inr ⟨equal, sameKind, mixes⟩
    · exact .inl ⟨equal, mixes⟩
  · rintro (⟨equal, apart⟩ | ⟨equal, sameKind, -⟩)
    · exact ⟨equal, by_contra fun differ => apart (.here differ)⟩
    · exact ⟨equal, sameKind⟩

/-- An enum member stands for its value, and any other value for itself. -/
def represented : Value → Value
  | .member _ value => value
  | value => value

theorem isWellFormed_represented {value : Value} (formed : value.IsWellFormed) :
    value.represented.IsWellFormed := by
  cases value with
  | member token inner => exact formed.part (List.mem_singleton_self _)
  | _ => exact formed

end TypedTables.Value
