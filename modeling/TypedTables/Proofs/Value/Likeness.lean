import TypedTables.Value.Equality

/-!
# Values that are alike

Every value is alike to itself, whatever it holds, and a text is alike to that text only. The keys of
a mapping and the members of a set are distinct: none is alike to one before it. Putting entries
and adding members keep that, and where keys are distinct every item is found under its key.
-/

namespace TypedTables.Value

theorem sameMagnitude_self {value : Value} {size : Magnitude} (sized : value.magnitude? = some size) :
    sameMagnitude value value = true := by
  rw [sameMagnitude, sized]
  exact beq_self_eq_true size

theorem alike_of_equals {left right : Value} (equal : equals left right = true) :
    alike left right = true := by
  rw [alike, equal, Bool.or_true]

theorem alike_float_self (number : Binary64) : alike (.float number) (.float number) = true := by
  apply alike_of_equals
  rw [equals]
  cases number <;> exact sameMagnitude_self rfl

theorem alike_decimal_self (number : Decimal) :
    alike (.decimal number) (.decimal number) = true := by
  cases number with
  | notANumber token => simp [alike, sameNotANumber]
  | finite negative coefficient exponent | infinite negative =>
      apply alike_of_equals
      rw [equals]
      exact sameMagnitude_self rfl

theorem sameInstant_self (moment : Timestamp) : moment.sameInstant moment = true := by
  unfold Timestamp.sameInstant
  cases moment.offset <;> simp

mutual

/-- Every value is alike to itself. The induction is on the value; mappings and sets compare each
of their parts with all of them, of which it is one. -/
theorem alike_self (value : Value) : alike value value = true := by
  cases value with
  | float number => exact alike_float_self number
  | decimal number => exact alike_decimal_self number
  | notANumber token => simp [alike, sameNotANumber]
  | boolean | integer =>
      apply alike_of_equals
      rw [equals]
      exact sameMagnitude_self rfl
  | list items | tuple items =>
      apply alike_of_equals
      rw [equals]
      exact alikeLists_self items
  | mapping entries | frozenMapping entries =>
      apply alike_of_equals
      simp [equals, entries?, entriesWithin_of_subset entries entries (List.Subset.refl entries)]
  | set members | frozenSet members =>
      apply alike_of_equals
      simp [equals, members?, membersWithin_of_subset members members (List.Subset.refl members)]
  | record table identifier =>
      apply alike_of_equals
      simp [equals, alike_self identifier]
  | timestamp moment =>
      apply alike_of_equals
      rw [equals]
      exact sameInstant_self moment
  | _ =>
      apply alike_of_equals
      simp [equals, isNull, isUndefined]
termination_by structural value

theorem alikeLists_self (items : List Value) : alikeLists items items = true := by
  cases items with
  | nil => rw [alikeLists]
  | cons item rest => rw [alikeLists, alike_self item, alikeLists_self rest, Bool.and_true]
termination_by structural items

theorem entriesWithin_of_subset (entries others : List (Value × Value))
    (among : entries ⊆ others) : entriesWithin entries others = true := by
  cases entries with
  | nil => rw [entriesWithin]
  | cons entry rest =>
      rcases entry with ⟨key, item⟩
      have present : others.any (fun other => alike key other.1 && alike item other.2) = true :=
        List.any_eq_true.mpr ⟨(key, item), among (by simp), by
          rw [alike_self key, alike_self item, Bool.and_true]⟩
      rw [entriesWithin, present, Bool.true_and]
      exact entriesWithin_of_subset rest others fun other member => among (by simp [member])
termination_by structural entries

theorem membersWithin_of_subset (members others : List Value) (among : members ⊆ others) :
    membersWithin members others = true := by
  cases members with
  | nil => rw [membersWithin]
  | cons member rest =>
      have present : others.any (fun other => alike member other) = true :=
        List.any_eq_true.mpr ⟨member, among (by simp), alike_self member⟩
      rw [membersWithin, present, Bool.true_and]
      exact membersWithin_of_subset rest others fun other isMember => among (by simp [isMember])
termination_by structural members

end

/-- Keys and items after putting one are the new ones or earlier ones. -/
theorem mem_put {key item : Value} {entries : List (Value × Value)} {entry : Value × Value}
    (member : entry ∈ put key item entries) :
    (entry.1 = key ∨ entry.1 ∈ entries.map Prod.fst) ∧
      (entry.2 = item ∨ entry.2 ∈ entries.map Prod.snd) := by
  induction entries with
  | nil =>
      rw [put, List.mem_singleton] at member
      subst member
      exact ⟨Or.inl rfl, Or.inl rfl⟩
  | cons first rest ih =>
      rcases first with ⟨present, old⟩
      by_cases same : alike key present = true
      · rw [put, if_pos same, List.mem_cons] at member
        rcases member with rfl | later
        · exact ⟨Or.inr (by simp), Or.inl rfl⟩
        · exact ⟨Or.inr (List.mem_cons_of_mem _ (List.mem_map_of_mem later)),
            Or.inr (List.mem_cons_of_mem _ (List.mem_map_of_mem later))⟩
      · rw [put, if_neg same, List.mem_cons] at member
        rcases member with rfl | later
        · exact ⟨Or.inr (by simp), Or.inr (by simp)⟩
        · obtain ⟨keys, items⟩ := ih later
          exact ⟨keys.imp_right (List.mem_cons_of_mem _), items.imp_right (List.mem_cons_of_mem _)⟩

/-- What holds of a key and an item, and of the earlier ones, holds of all after putting them. -/
theorem forall_put {property : Value → Prop} {key item : Value} {entries : List (Value × Value)}
    (ofKey : property key) (ofItem : property item)
    (each : ∀ entry ∈ entries, property entry.1 ∧ property entry.2) :
    ∀ entry ∈ put key item entries, property entry.1 ∧ property entry.2 := by
  intro entry member
  obtain ⟨keys, items⟩ := mem_put member
  constructor
  · rcases keys with equal | earlier
    · rw [equal]
      exact ofKey
    · obtain ⟨other, found, equal⟩ := List.mem_map.mp earlier
      rw [← equal]
      exact (each other found).1
  · rcases items with equal | earlier
    · rw [equal]
      exact ofItem
    · obtain ⟨other, found, equal⟩ := List.mem_map.mp earlier
      rw [← equal]
      exact (each other found).2

theorem mem_of_find? {key item : Value} {entries : List (Value × Value)}
    (found : find? key entries = some item) : ∃ entry ∈ entries, entry.2 = item := by
  unfold find? at found
  obtain ⟨entry, first, equal⟩ := Option.map_eq_some_iff.mp found
  exact ⟨entry, List.mem_of_find?_eq_some first, equal⟩

theorem alike_text_iff (name : String) (key : Value) :
    alike (.text name) key = true ↔ key = .text name := by
  constructor
  · intro same
    cases key with
    | text other =>
        have equal : name = other := by simpa [alike, sameNotANumber, equals] using same
        rw [equal]
    | _ => simp [alike, sameNotANumber, equals] at same
  · rintro rfl
    exact alike_self _

theorem find?_text_cons_self (name : String) (item : Value) (rest : List (Value × Value)) :
    find? (.text name) ((.text name, item) :: rest) = some item := by
  simp [find?, alike_self]

theorem find?_text_cons_of_ne {name : String} {entry : Value × Value}
    (other : entry.1 ≠ .text name) (rest : List (Value × Value)) :
    find? (.text name) (entry :: rest) = find? (.text name) rest := by
  rw [find?, List.find?_cons_of_neg]
  · rfl
  · rw [alike_text_iff]
    exact other

theorem find?_text_eq_none {name : String} {entries : List (Value × Value)}
    (others : ∀ entry ∈ entries, entry.1 ≠ .text name) : find? (.text name) entries = none := by
  rw [find?, Option.map_eq_none_iff, List.find?_eq_none]
  intro entry member
  rw [alike_text_iff]
  exact others entry member

/-- No value is alike to one before it. -/
def Distinct (values : List Value) : Prop :=
  values.Pairwise fun earlier later => alike later earlier = false

theorem distinct_append_singleton_iff (values : List Value) (last : Value) :
    Distinct (values ++ [last]) ↔
      Distinct values ∧ ∀ value ∈ values, alike last value = false := by
  simp [Distinct, List.pairwise_append]

/-- The keys after putting an item: a key that is alike to none before it comes last. -/
theorem map_fst_put (key item : Value) (entries : List (Value × Value)) :
    (put key item entries).map Prod.fst =
      if hasKey key entries then entries.map Prod.fst else entries.map Prod.fst ++ [key] := by
  induction entries with
  | nil => simp [put, hasKey]
  | cons entry rest ih =>
      rcases entry with ⟨present, old⟩
      cases same : alike key present with
      | true => simp [put, hasKey, same]
      | false =>
          have later : hasKey key ((present, old) :: rest) = hasKey key rest := by
            simp [hasKey, same]
          rw [put, if_neg (by simp [same]), List.map_cons, ih, later]
          split <;> simp

theorem unlike_of_hasKey {key : Value} {entries : List (Value × Value)}
    (absent : hasKey key entries = false) :
    ∀ present ∈ entries.map Prod.fst, alike key present = false := by
  intro present member
  obtain ⟨entry, isEntry, rfl⟩ := List.mem_map.mp member
  simpa using List.any_eq_false.mp absent entry isEntry

theorem distinct_put {entries : List (Value × Value)} (key item : Value)
    (distinct : Distinct (entries.map Prod.fst)) :
    Distinct ((put key item entries).map Prod.fst) := by
  rw [map_fst_put]
  cases absent : hasKey key entries with
  | true => exact distinct
  | false => exact (distinct_append_singleton_iff _ _).mpr ⟨distinct, unlike_of_hasKey absent⟩

theorem put_of_unlike {key item : Value} {entries : List (Value × Value)}
    (unlike : ∀ present ∈ entries.map Prod.fst, alike key present = false) :
    put key item entries = entries ++ [(key, item)] := by
  induction entries with
  | nil => rfl
  | cons entry rest ih =>
      have other : alike key entry.1 = false := unlike entry.1 (by simp)
      rw [put, if_neg (by simp [other]), List.cons_append,
        ih fun present member => unlike present (List.mem_cons_of_mem _ member)]

theorem distinct_addMember {members : List Value} (member : Value) (distinct : Distinct members) :
    Distinct (addMember member members) := by
  unfold addMember
  split
  · exact distinct
  · rename_i absent
    refine (distinct_append_singleton_iff _ _).mpr ⟨distinct, fun value isMember => ?_⟩
    simpa using List.any_eq_false.mp (Bool.not_eq_true _ ▸ absent) value isMember

theorem addMember_of_unlike {member : Value} {members : List Value}
    (unlike : ∀ value ∈ members, alike member value = false) :
    addMember member members = members ++ [member] := by
  unfold addMember
  rw [if_neg]
  simpa using unlike

theorem find?_of_mem {entries : List (Value × Value)} (distinct : Distinct (entries.map Prod.fst))
    {entry : Value × Value} (member : entry ∈ entries) : find? entry.1 entries = some entry.2 := by
  induction entries with
  | nil => cases member
  | cons first rest ih =>
      obtain ⟨unlike, distinctRest⟩ := List.pairwise_cons.mp distinct
      rcases List.mem_cons.mp member with rfl | later
      · simp [find?, alike_self]
      · have other : alike entry.1 first.1 = false := unlike _ (List.mem_map_of_mem later)
        rw [find?, List.find?_cons_of_neg (by simp [other])]
        exact ih distinctRest later

end TypedTables.Value
