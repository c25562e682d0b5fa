import Mathlib.Data.List.Forall2
import TypedTables.Proofs.Value.Likeness

/-!
# Being alike is an equivalence

Numbers are alike when they have the same size, some values are alike to themselves only, and
containers go by their parts. It follows that being alike is transitive. It is symmetric where the
keys of mappings and the members of sets are distinct, as they are in every value that a program can
build: then two mappings of one size cannot have two keys of the first answered by one key of the
second.
-/

namespace TypedTables

/-! ## Partners -/

/-- Where each of several values has a partner and no two share one, their partners, in the same
order, can be taken out of the others. -/
theorem exists_partners {α β : Type} {related : α → β → Prop} {lefts : List α} {rights : List β}
    (partner : ∀ left ∈ lefts, ∃ right ∈ rights, related left right)
    (apart : lefts.Pairwise fun left other =>
      ∀ right ∈ rights, related left right → ¬related other right) :
    ∃ chosen others, rights.Perm (chosen ++ others) ∧ List.Forall₂ related lefts chosen := by
  induction lefts generalizing rights with
  | nil => exact ⟨[], rights, .refl _, .nil⟩
  | cons left rest ih =>
      obtain ⟨right, isRight, matched⟩ := partner left (by simp)
      obtain ⟨before, after, rfl⟩ := List.append_of_mem isRight
      obtain ⟨unshared, apartRest⟩ := List.pairwise_cons.mp apart
      have remaining : ∀ other ∈ rest, ∃ next ∈ before ++ after, related other next := by
        intro other isOther
        obtain ⟨next, isNext, matchedNext⟩ := partner other (by simp [isOther])
        have notTaken : next ≠ right := by
          rintro rfl
          exact unshared other isOther next isRight matched matchedNext
        exact ⟨next, by simpa [notTaken] using isNext, matchedNext⟩
      have stillApart := apartRest.imp fun {other further} unsharedNext next
          (isNext : next ∈ before ++ after) =>
        unsharedNext next (by
          rcases List.mem_append.mp isNext with earlier | later
          · exact List.mem_append_left _ earlier
          · exact List.mem_append_right _ (List.mem_cons_of_mem _ later))
      obtain ⟨chosen, others, same, paired⟩ := ih remaining stillApart
      exact ⟨right :: chosen, others, List.perm_middle.trans (same.cons right), .cons matched paired⟩

theorem length_le_of_partners {α β : Type} {related : α → β → Prop} {lefts : List α}
    {rights : List β} (partner : ∀ left ∈ lefts, ∃ right ∈ rights, related left right)
    (apart : lefts.Pairwise fun left other =>
      ∀ right ∈ rights, related left right → ¬related other right) :
    lefts.length ≤ rights.length := by
  obtain ⟨chosen, others, same, paired⟩ := exists_partners partner apart
  rw [same.length_eq, List.length_append, paired.length_eq]
  exact Nat.le_add_right _ _

/-- Among partners that are not shared and not more, each is someone's partner. -/
theorem exists_partner_of_length_le {α β : Type} {related : α → β → Prop} {lefts : List α}
    {rights : List β} (partner : ∀ left ∈ lefts, ∃ right ∈ rights, related left right)
    (apart : lefts.Pairwise fun left other =>
      ∀ right ∈ rights, related left right → ¬related other right)
    (notMore : rights.length ≤ lefts.length) {right : β} (isRight : right ∈ rights) :
    ∃ left ∈ lefts, related left right := by
  obtain ⟨chosen, others, same, paired⟩ := exists_partners partner apart
  have none : others = [] := by
    rw [same.length_eq, List.length_append, paired.length_eq] at notMore
    exact List.length_eq_zero_iff.mp (by omega)
  rw [none, List.append_nil] at same
  obtain ⟨index, within, rfl⟩ := List.mem_iff_getElem.mp (same.mem_iff.mp isRight)
  have inLefts : index < lefts.length := paired.length_eq ▸ within
  exact ⟨lefts[index], List.getElem_mem _, List.forall₂_iff_get.mp paired |>.2 index inLefts within⟩

/-! ## Lists item by item -/

section Pairs

variable {α β γ : Type} {near : α → β → Prop}

theorem forall₂_imp_of_mem {weaker : α → β → Prop} {items : List α} {others : List β}
    (paired : List.Forall₂ near items others)
    (each : ∀ item ∈ items, ∀ other, near item other → weaker item other) :
    List.Forall₂ weaker items others :=
  ((List.forall₂_and_left _ _).mpr ⟨each, paired⟩).imp fun _ other both => both.1 other both.2

theorem forall₂_trans_of_mem {far : β → γ → Prop} {through : α → γ → Prop} {items : List α}
    {others : List β} {further : List γ}
    (paired : List.Forall₂ near items others) (next : List.Forall₂ far others further)
    (each : ∀ item ∈ items, ∀ other next, near item other → far other next → through item next) :
    List.Forall₂ through items further := by
  induction paired generalizing further with
  | nil =>
      cases next
      exact .nil
  | cons first _ ih =>
      cases next with
      | cons second rest =>
          exact .cons (each _ List.mem_cons_self _ _ first second)
            (ih rest fun item member => each item (List.mem_cons_of_mem _ member))

end Pairs

/-! ## Points in time -/

namespace Timestamp

/-- What a point in time is compared by: whether it has an offset, and the clock or the instant. -/
def instant (moment : Timestamp) : Bool × Int :=
  match moment.offset with
  | none => (false, moment.clockMicroseconds)
  | some offset => (true, moment.clockMicroseconds - offset.microseconds)

theorem sameInstant_iff (left right : Timestamp) :
    left.sameInstant right = true ↔ left.instant = right.instant := by
  unfold sameInstant instant
  cases left.offset <;> cases right.offset <;> simp

end Timestamp

namespace Value

/-! ## Parts -/

/-- The values that stand directly inside a value. -/
def parts : Value → List Value
  | .list items | .tuple items => items
  | .set members | .frozenSet members => members
  | .mapping entries | .frozenMapping entries => entries.map Prod.fst ++ entries.map Prod.snd
  | .record _ identifier => [identifier]
  | .member _ value => [value]
  | .supplier _ (.ok result) | .awaitable _ (.ok result) => [result]
  | _ => []

theorem sizeOf_lt_of_mem_parts {value part : Value} (member : part ∈ value.parts) :
    sizeOf part < sizeOf value := by
  cases value with
  | list items | tuple items | set items | frozenSet items =>
      have inside := List.sizeOf_lt_of_mem (show part ∈ items from member)
      simp only [list.sizeOf_spec, tuple.sizeOf_spec, set.sizeOf_spec, frozenSet.sizeOf_spec]
      omega
  | mapping entries | frozenMapping entries =>
      have inside : ∃ entry ∈ entries, part = entry.1 ∨ part = entry.2 := by
        rcases List.mem_append.mp member with isKey | isItem
        · obtain ⟨entry, present, rfl⟩ := List.mem_map.mp isKey
          exact ⟨entry, present, .inl rfl⟩
        · obtain ⟨entry, present, rfl⟩ := List.mem_map.mp isItem
          exact ⟨entry, present, .inr rfl⟩
      obtain ⟨⟨key, item⟩, present, either⟩ := inside
      have smaller := List.sizeOf_lt_of_mem present
      simp only [Prod.mk.sizeOf_spec] at smaller
      simp only [mapping.sizeOf_spec, frozenMapping.sizeOf_spec]
      rcases either with rfl | rfl <;> omega
  | record table identifier =>
      rw [List.mem_singleton.mp member, record.sizeOf_spec]
      omega
  | member token value =>
      rw [List.mem_singleton.mp member, Value.member.sizeOf_spec]
      omega
  | supplier token outcome =>
      cases outcome with
      | error cause => cases member
      | ok result =>
          rw [List.mem_singleton.mp member, supplier.sizeOf_spec, Except.ok.sizeOf_spec]
          omega
  | awaitable token outcome =>
      cases outcome with
      | error cause => cases member
      | ok result =>
          rw [List.mem_singleton.mp member, awaitable.sizeOf_spec, Except.ok.sizeOf_spec]
          omega
  | _ => cases member

theorem inductionOnParts {motive : Value → Prop}
    (step : ∀ value, (∀ part ∈ value.parts, motive part) → motive value) (value : Value) :
    motive value := by
  generalize size : sizeOf value = bound
  induction bound using Nat.strongRecOn generalizing value with
  | ind bound smaller =>
      exact step value fun part member =>
        smaller (sizeOf part) (size ▸ sizeOf_lt_of_mem_parts member) part rfl

/-- The keys of every mapping and the members of every set in the value are distinct. -/
inductive IsWellFormed : Value → Prop where
  | intro {value : Value}
      (keys : ∀ entries, value.entries? = some entries → Distinct (entries.map Prod.fst))
      (members : ∀ members, value.members? = some members → Distinct members)
      (parts : ∀ part ∈ value.parts, part.IsWellFormed) : value.IsWellFormed

section Entries

variable {value : Value} {entries : List (Value × Value)} {entry : Value × Value}

theorem key_mem_parts (isEntries : value.entries? = some entries) (member : entry ∈ entries) :
    entry.1 ∈ value.parts := by
  cases value with
  | mapping | frozenMapping =>
      cases isEntries
      exact List.mem_append_left _ (List.mem_map_of_mem member)
  | _ => cases isEntries

theorem item_mem_parts (isEntries : value.entries? = some entries) (member : entry ∈ entries) :
    entry.2 ∈ value.parts := by
  cases value with
  | mapping | frozenMapping =>
      cases isEntries
      exact List.mem_append_right _ (List.mem_map_of_mem member)
  | _ => cases isEntries

end Entries

theorem mem_parts_of_items? {value item : Value} {items : List Value}
    (isItems : value.items? = some items) (member : item ∈ items) : item ∈ value.parts := by
  cases value with
  | list | tuple =>
      cases isItems
      exact member
  | _ => cases isItems

theorem IsWellFormed.keys {value : Value} (wellFormed : value.IsWellFormed)
    {entries : List (Value × Value)} (isEntries : value.entries? = some entries) :
    Distinct (entries.map Prod.fst) := by
  cases wellFormed with
  | intro keys members parts => exact keys entries isEntries

theorem IsWellFormed.part {value part : Value} (wellFormed : value.IsWellFormed)
    (member : part ∈ value.parts) : part.IsWellFormed := by
  cases wellFormed with
  | intro keys members parts => exact parts part member

theorem IsWellFormed.items {value : Value} {items : List Value} (wellFormed : value.IsWellFormed)
    (isItems : value.items? = some items) : ∀ item ∈ items, item.IsWellFormed := fun _ member =>
  wellFormed.part (mem_parts_of_items? isItems member)

theorem IsWellFormed.members {value : Value} {members : List Value}
    (wellFormed : value.IsWellFormed) (isMembers : value.members? = some members) :
    ∀ member ∈ members, member.IsWellFormed := by
  cases value with
  | set | frozenSet =>
      cases isMembers
      exact fun _ => wellFormed.part
  | _ => cases isMembers

theorem IsWellFormed.entries {value : Value} {entries : List (Value × Value)}
    (wellFormed : value.IsWellFormed) (isEntries : value.entries? = some entries) :
    ∀ entry ∈ entries, entry.1.IsWellFormed ∧ entry.2.IsWellFormed := fun _ member =>
  ⟨wellFormed.part (key_mem_parts isEntries member),
    wellFormed.part (item_mem_parts isEntries member)⟩

theorem isWellFormed_of_no_parts {value : Value} (noEntries : value.entries? = none)
    (noMembers : value.members? = none) (noParts : value.parts = []) : value.IsWellFormed :=
  .intro (by simp [noEntries]) (by simp [noMembers]) (by simp [noParts])

theorem isWellFormed_text (text : String) : (Value.text text).IsWellFormed :=
  isWellFormed_of_no_parts rfl rfl rfl

theorem distinct_texts {names : List String} (different : names.Nodup) :
    Distinct (names.map .text) := by
  refine List.pairwise_map.mpr (different.imp fun {earlier later} differs => ?_)
  cases same : alike (.text later) (.text earlier) with
  | false => rfl
  | true => exact absurd (Value.text.inj ((alike_text_iff later _).mp same)) differs

theorem isWellFormed_list {items : List Value} (each : ∀ item ∈ items, item.IsWellFormed) :
    (Value.list items).IsWellFormed :=
  .intro (fun _ isEntries => by cases isEntries) (fun _ isMembers => by cases isMembers) each

theorem isWellFormed_mapping {entries : List (Value × Value)}
    (keys : Distinct (entries.map Prod.fst))
    (each : ∀ entry ∈ entries, entry.1.IsWellFormed ∧ entry.2.IsWellFormed) :
    (Value.mapping entries).IsWellFormed := by
  refine .intro (fun _ isEntries => ?_) (fun _ isMembers => by cases isMembers) fun part member => ?_
  · cases isEntries
    exact keys
  · rcases List.mem_append.mp member with isKey | isItem
    · obtain ⟨entry, present, rfl⟩ := List.mem_map.mp isKey
      exact (each entry present).1
    · obtain ⟨entry, present, rfl⟩ := List.mem_map.mp isItem
      exact (each entry present).2

/-! ## What is alike to a value -/

theorem eq_of_sameNotANumber {left right : Value} (same : sameNotANumber left right = true) :
    right = left := by
  unfold sameNotANumber at same
  split at same
  · rw [eq_of_beq same]
  · rw [eq_of_beq same]
  · cases same

theorem eq_or_equals_of_alike {left right : Value} (same : alike left right = true) :
    right = left ∨ equals left right = true := by
  rw [alike, Bool.or_eq_true] at same
  exact same.imp_left eq_of_sameNotANumber

/-- Values that are alike to themselves only. -/
def ComparesExactly : Value → Prop
  | .null | .undefined | .text _ | .bytes _ | .date _ | .uuid _ | .function _ | .issue ..
  | .notANumber _ | .decimal (.notANumber _) => True
  | _ => False

theorem alike_iff_of_comparesExactly {left : Value} (exact : left.ComparesExactly) (right : Value) :
    alike left right = true ↔ right = left := by
  constructor
  · intro same
    rcases eq_or_equals_of_alike same with rfl | equal
    · rfl
    · unfold ComparesExactly at exact
      split at exact
      case h_11 => exact exact.elim
      all_goals
        cases right <;>
          simp_all [equals, isNull, isUndefined, sameMagnitude, magnitude?, Decimal.toRat?]
  · rintro rfl
    exact alike_self _

theorem alike_iff_of_magnitude {left : Value} {size : Magnitude}
    (sized : left.magnitude? = some size) (right : Value) :
    alike left right = true ↔ right.magnitude? = some size := by
  have compared : equals left right = sameMagnitude left right := by
    cases left with
    | boolean | integer | float | decimal => rw [equals]
    | _ => cases sized
  have sizes : sameMagnitude left right = true ↔ right.magnitude? = some size := by
    rw [sameMagnitude, sized]
    cases right.magnitude? with
    | none => simp
    | some other =>
        constructor
        · intro same
          rw [eq_of_beq same]
        · intro same
          rw [Option.some.inj same]
          exact beq_self_eq_true size
  rw [← sizes, ← compared]
  constructor
  · intro same
    rcases eq_or_equals_of_alike same with rfl | equal
    · rw [compared]
      exact sameMagnitude_self sized
    · exact equal
  · exact alike_of_equals

theorem alikeLists_iff (items others : List Value) :
    alikeLists items others = true ↔
      List.Forall₂ (fun item other => alike item other = true) items others := by
  induction items generalizing others with
  | nil => cases others <;> simp [alikeLists]
  | cons item rest ih => cases others <;> simp [alikeLists, ih]

theorem entriesWithin_iff (entries others : List (Value × Value)) :
    entriesWithin entries others = true ↔
      ∀ entry ∈ entries, ∃ other ∈ others,
        alike entry.1 other.1 = true ∧ alike entry.2 other.2 = true := by
  induction entries with
  | nil => simp [entriesWithin]
  | cons entry rest ih =>
      rcases entry with ⟨key, item⟩
      rw [entriesWithin, Bool.and_eq_true, ih, List.any_eq_true, List.forall_mem_cons]
      simp only [Bool.and_eq_true]

theorem membersWithin_iff (members others : List Value) :
    membersWithin members others = true ↔
      ∀ member ∈ members, ∃ other ∈ others, alike member other = true := by
  induction members with
  | nil => simp [membersWithin]
  | cons member rest ih => simp [membersWithin, ih]

theorem alike_list_iff (items : List Value) (right : Value) :
    alike (.list items) right = true ↔
      ∃ others, right = .list others ∧
        List.Forall₂ (fun item other => alike item other = true) items others := by
  simp only [← alikeLists_iff]
  cases right <;> simp [alike, sameNotANumber, equals]

theorem alike_tuple_iff (items : List Value) (right : Value) :
    alike (.tuple items) right = true ↔
      ∃ others, right = .tuple others ∧
        List.Forall₂ (fun item other => alike item other = true) items others := by
  simp only [← alikeLists_iff]
  cases right <;> simp [alike, sameNotANumber, equals]

/-- Mappings of either kind are alike when they have as many entries and each entry of the one
stands in the other. -/
theorem alike_mapping_iff {left : Value} {entries : List (Value × Value)}
    (isEntries : left.entries? = some entries) (right : Value) :
    alike left right = true ↔
      ∃ others, right.entries? = some others ∧ entries.length = others.length ∧
        ∀ entry ∈ entries, ∃ other ∈ others,
          alike entry.1 other.1 = true ∧ alike entry.2 other.2 = true := by
  simp only [← entriesWithin_iff]
  cases left with
  | mapping | frozenMapping =>
      cases isEntries
      cases right <;> simp [alike, sameNotANumber, equals, entries?]
  | _ => cases isEntries

theorem alike_set_iff {left : Value} {members : List Value}
    (isMembers : left.members? = some members) (right : Value) :
    alike left right = true ↔
      ∃ others, right.members? = some others ∧ members.length = others.length ∧
        ∀ member ∈ members, ∃ other ∈ others, alike member other = true := by
  simp only [← membersWithin_iff]
  cases left with
  | set | frozenSet =>
      cases isMembers
      cases right <;> simp [alike, sameNotANumber, equals, members?]
  | _ => cases isMembers

theorem alike_record_iff (table : String) (identifier right : Value) :
    alike (.record table identifier) right = true ↔
      ∃ other, right = .record table other ∧ alike identifier other = true := by
  constructor
  · intro same
    cases right with
    | record otherTable other =>
        have parts : table = otherTable ∧ alike identifier other = true := by
          simpa [alike.eq_def (.record table identifier), sameNotANumber, equals] using same
        exact ⟨other, by rw [parts.1], parts.2⟩
    | _ => simp [alike, sameNotANumber, equals] at same
  · rintro ⟨other, rfl, same⟩
    apply alike_of_equals
    simp [equals, same]

theorem alike_timestamp_iff (moment : Timestamp) (right : Value) :
    alike (.timestamp moment) right = true ↔
      ∃ other, right = .timestamp other ∧ moment.instant = other.instant := by
  simp only [← Timestamp.sameInstant_iff]
  cases right <;> simp [alike, sameNotANumber, equals]

theorem alike_member_iff (token : Nat) (value right : Value) :
    alike (.member token value) right = true ↔ ∃ other, right = .member token other := by
  cases right <;> simp [alike, sameNotANumber, equals, eq_comm (a := token)]

theorem alike_symbol_iff (token : Nat) (description : Option String) (right : Value) :
    alike (.symbol token description) right = true ↔ ∃ other, right = .symbol token other := by
  cases right <;> simp [alike, sameNotANumber, equals, eq_comm (a := token)]

theorem alike_supplier_iff (token : Nat) (outcome : Except Fault Value) (right : Value) :
    alike (.supplier token outcome) right = true ↔ ∃ other, right = .supplier token other := by
  cases right <;> simp [alike, sameNotANumber, equals, eq_comm (a := token)]

theorem alike_awaitable_iff (token : Nat) (outcome : Except Fault Value) (right : Value) :
    alike (.awaitable token outcome) right = true ↔ ∃ other, right = .awaitable token other := by
  cases right <;> simp [alike, sameNotANumber, equals, eq_comm (a := token)]

/-! ## Transitivity -/

/-- Being alike is transitive. -/
theorem alike_trans {first second third : Value} (near : alike first second = true)
    (far : alike second third = true) : alike first third = true := by
  induction first using inductionOnParts generalizing second third with
  | step first ih =>
  by_cases exact : first.ComparesExactly
  · rw [(alike_iff_of_comparesExactly exact second).mp near] at far
    exact far
  cases sized : first.magnitude? with
  | some size =>
      have sameSize := (alike_iff_of_magnitude sized second).mp near
      exact (alike_iff_of_magnitude sized third).mpr ((alike_iff_of_magnitude sameSize third).mp far)
  | none =>
    cases first with
    | list items =>
        obtain ⟨others, rfl, paired⟩ := (alike_list_iff _ _).mp near
        obtain ⟨further, rfl, next⟩ := (alike_list_iff _ _).mp far
        exact (alike_list_iff _ _).mpr ⟨further, rfl, forall₂_trans_of_mem paired next
          fun item member _ _ => ih item member⟩
    | tuple items =>
        obtain ⟨others, rfl, paired⟩ := (alike_tuple_iff _ _).mp near
        obtain ⟨further, rfl, next⟩ := (alike_tuple_iff _ _).mp far
        exact (alike_tuple_iff _ _).mpr ⟨further, rfl, forall₂_trans_of_mem paired next
          fun item member _ _ => ih item member⟩
    | mapping entries | frozenMapping entries =>
        obtain ⟨others, isOthers, size, within⟩ := (alike_mapping_iff rfl _).mp near
        obtain ⟨further, isFurther, nextSize, nextWithin⟩ := (alike_mapping_iff isOthers _).mp far
        refine (alike_mapping_iff rfl _).mpr ⟨further, isFurther, size.trans nextSize, ?_⟩
        intro entry member
        obtain ⟨other, isOther, sameKey, sameItem⟩ := within entry member
        obtain ⟨last, isLast, nextKey, nextItem⟩ := nextWithin other isOther
        exact ⟨last, isLast, ih entry.1 (key_mem_parts rfl member) sameKey nextKey,
          ih entry.2 (item_mem_parts rfl member) sameItem nextItem⟩
    | set members | frozenSet members =>
        obtain ⟨others, isOthers, size, within⟩ := (alike_set_iff rfl _).mp near
        obtain ⟨further, isFurther, nextSize, nextWithin⟩ := (alike_set_iff isOthers _).mp far
        refine (alike_set_iff rfl _).mpr ⟨further, isFurther, size.trans nextSize, ?_⟩
        intro member isMember
        obtain ⟨other, isOther, same⟩ := within member isMember
        obtain ⟨last, isLast, next⟩ := nextWithin other isOther
        exact ⟨last, isLast, ih member isMember same next⟩
    | record table identifier =>
        obtain ⟨other, rfl, same⟩ := (alike_record_iff _ _ _).mp near
        obtain ⟨last, rfl, next⟩ := (alike_record_iff _ _ _).mp far
        exact (alike_record_iff _ _ _).mpr
          ⟨last, rfl, ih identifier (List.mem_singleton_self _) same next⟩
    | timestamp moment =>
        obtain ⟨other, rfl, same⟩ := (alike_timestamp_iff _ _).mp near
        obtain ⟨last, rfl, next⟩ := (alike_timestamp_iff _ _).mp far
        exact (alike_timestamp_iff _ _).mpr ⟨last, rfl, same.trans next⟩
    | member token value =>
        obtain ⟨other, rfl⟩ := (alike_member_iff _ _ _).mp near
        exact (alike_member_iff _ _ _).mpr ((alike_member_iff _ _ _).mp far)
    | symbol token description =>
        obtain ⟨other, rfl⟩ := (alike_symbol_iff _ _ _).mp near
        exact (alike_symbol_iff _ _ _).mpr ((alike_symbol_iff _ _ _).mp far)
    | supplier token outcome =>
        obtain ⟨other, rfl⟩ := (alike_supplier_iff _ _ _).mp near
        exact (alike_supplier_iff _ _ _).mpr ((alike_supplier_iff _ _ _).mp far)
    | awaitable token outcome =>
        obtain ⟨other, rfl⟩ := (alike_awaitable_iff _ _ _).mp near
        exact (alike_awaitable_iff _ _ _).mpr ((alike_awaitable_iff _ _ _).mp far)
    | decimal number =>
        cases number with
        | notANumber token => exact absurd trivial exact
        | _ => cases sized
    | float number => cases number <;> cases sized
    | boolean | integer => cases sized
    | _ => exact absurd trivial exact

/-! ## Symmetry -/

theorem Distinct.pairwise_unshared {values : List Value} (distinct : Distinct values)
    (symm : ∀ value ∈ values, ∀ other : Value, alike value other = true → alike other value = true) :
    values.Pairwise fun value next =>
      ∀ other, alike value other = true → ¬alike next other = true := by
  refine distinct.imp_of_mem fun {value next} isValue _ unlike other same sameNext => ?_
  rw [alike_trans sameNext (symm value isValue other same)] at unlike
  cases unlike

theorem IsWellFormed.alike_symm {left right : Value} (wellFormed : left.IsWellFormed)
    (same : alike left right = true) : alike right left = true := by
  induction wellFormed generalizing right with
  | @intro left distinctKeys distinctMembers _ ih =>
  by_cases exact : left.ComparesExactly
  · rw [(alike_iff_of_comparesExactly exact right).mp same]
    exact alike_self left
  cases sized : left.magnitude? with
  | some size =>
      exact (alike_iff_of_magnitude ((alike_iff_of_magnitude sized right).mp same) left).mpr sized
  | none =>
    cases left with
    | list items =>
        obtain ⟨others, rfl, paired⟩ := (alike_list_iff _ _).mp same
        exact (alike_list_iff _ _).mpr ⟨items, rfl, List.Forall₂.flip
          (forall₂_imp_of_mem paired fun item member _ => ih item member)⟩
    | tuple items =>
        obtain ⟨others, rfl, paired⟩ := (alike_tuple_iff _ _).mp same
        exact (alike_tuple_iff _ _).mpr ⟨items, rfl, List.Forall₂.flip
          (forall₂_imp_of_mem paired fun item member _ => ih item member)⟩
    | mapping entries | frozenMapping entries =>
        obtain ⟨others, isOthers, size, within⟩ := (alike_mapping_iff rfl _).mp same
        refine (alike_mapping_iff isOthers _).mpr ⟨entries, rfl, size.symm, fun other isOther => ?_⟩
        have unshared := List.pairwise_map.mp
          ((distinctKeys entries rfl).pairwise_unshared fun key isKey next =>
            ih key (List.mem_append_left _ isKey))
        obtain ⟨entry, member, sameKey, sameItem⟩ := exists_partner_of_length_le within
          (unshared.imp fun apart next _ same sameNext => apart next.1 same.1 sameNext.1)
          (Nat.le_of_eq size.symm) isOther
        exact ⟨entry, member, ih entry.1 (key_mem_parts rfl member) sameKey,
          ih entry.2 (item_mem_parts rfl member) sameItem⟩
    | set members | frozenSet members =>
        obtain ⟨others, isOthers, size, within⟩ := (alike_set_iff rfl _).mp same
        refine (alike_set_iff isOthers _).mpr ⟨members, rfl, size.symm, fun other isOther => ?_⟩
        have unshared := (distinctMembers members rfl).pairwise_unshared fun member isMember next =>
          ih member isMember
        obtain ⟨member, isMember, sameMember⟩ := exists_partner_of_length_le within
          (unshared.imp fun apart next _ => apart next) (Nat.le_of_eq size.symm) isOther
        exact ⟨member, isMember, ih member isMember sameMember⟩
    | record table identifier =>
        obtain ⟨other, rfl, sameInside⟩ := (alike_record_iff _ _ _).mp same
        exact (alike_record_iff _ _ _).mpr
          ⟨identifier, rfl, ih identifier (List.mem_singleton_self _) sameInside⟩
    | timestamp moment =>
        obtain ⟨other, rfl, sameInside⟩ := (alike_timestamp_iff _ _).mp same
        exact (alike_timestamp_iff _ _).mpr ⟨moment, rfl, sameInside.symm⟩
    | member token value =>
        obtain ⟨other, rfl⟩ := (alike_member_iff _ _ _).mp same
        exact (alike_member_iff _ _ _).mpr ⟨value, rfl⟩
    | symbol token description =>
        obtain ⟨other, rfl⟩ := (alike_symbol_iff _ _ _).mp same
        exact (alike_symbol_iff _ _ _).mpr ⟨description, rfl⟩
    | supplier token outcome =>
        obtain ⟨other, rfl⟩ := (alike_supplier_iff _ _ _).mp same
        exact (alike_supplier_iff _ _ _).mpr ⟨outcome, rfl⟩
    | awaitable token outcome =>
        obtain ⟨other, rfl⟩ := (alike_awaitable_iff _ _ _).mp same
        exact (alike_awaitable_iff _ _ _).mpr ⟨outcome, rfl⟩
    | decimal number =>
        cases number with
        | notANumber token => exact absurd trivial exact
        | _ => cases sized
    | float number => cases number <;> cases sized
    | boolean | integer => cases sized
    | _ => exact absurd trivial exact

end Value
end TypedTables
