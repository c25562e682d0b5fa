import TypedTables.Proofs.Value.Equivalence
import TypedTables.Validation.Merge

/-!
# Merging is joining

One value fits into another when nothing is missing of it: under each of its keys stands an item
into which its item fits, lists are of one length and fit item by item, and anything else is alike.
Fitting is an order on well-formed values, up to being alike, and a merged value is the least into
which both sides fit. Whatever two values both fit into, they can be merged. So merging does not
depend on the order or the grouping of what is merged, and whether it succeeds does not either.
-/

namespace TypedTables.Value

/-! ## Fitting -/

mutual

/-- Nothing is missing of the first value in the second. -/
def FitsIn (left right : Value) : Prop :=
  match left with
  | .list items => ∃ others, right = .list others ∧ ItemsFitIn items others
  | .mapping entries | .frozenMapping entries =>
      ∃ others, right.entries? = some others ∧ EntriesFitIn entries others
  | left => alike left right = true

def ItemsFitIn : List Value → List Value → Prop
  | [], [] => True
  | item :: rest, other :: others => item.FitsIn other ∧ ItemsFitIn rest others
  | _, _ => False

/-- Every item fits into one that stands under an alike key. -/
def EntriesFitIn : List (Value × Value) → List (Value × Value) → Prop
  | [], _ => True
  | (key, item) :: rest, others =>
      (∃ other ∈ others, alike key other.1 = true ∧ item.FitsIn other.2) ∧
        EntriesFitIn rest others

end

theorem itemsFitIn_iff (items others : List Value) :
    ItemsFitIn items others ↔ List.Forall₂ FitsIn items others := by
  induction items generalizing others with
  | nil => cases others <;> simp [ItemsFitIn]
  | cons item rest ih => cases others <;> simp [ItemsFitIn, ih]

theorem entriesFitIn_iff (entries others : List (Value × Value)) :
    EntriesFitIn entries others ↔
      ∀ entry ∈ entries, ∃ other ∈ others,
        alike entry.1 other.1 = true ∧ entry.2.FitsIn other.2 := by
  induction entries with
  | nil => simp [EntriesFitIn]
  | cons entry rest ih => rw [EntriesFitIn, ih, List.forall_mem_cons]

theorem fitsIn_list_iff (items : List Value) (right : Value) :
    (Value.list items).FitsIn right ↔
      ∃ others, right = .list others ∧ List.Forall₂ FitsIn items others := by
  simp only [FitsIn, itemsFitIn_iff]

theorem fitsIn_mapping_iff {left : Value} {entries : List (Value × Value)}
    (isEntries : left.entries? = some entries) (right : Value) :
    left.FitsIn right ↔
      ∃ others, right.entries? = some others ∧
        ∀ entry ∈ entries, ∃ other ∈ others,
          alike entry.1 other.1 = true ∧ entry.2.FitsIn other.2 := by
  cases left with
  | mapping | frozenMapping =>
      cases isEntries
      simp only [FitsIn, entriesFitIn_iff]
  | _ => cases isEntries

/-- Values that merging does not take apart: anything but lists and mappings. -/
def IsWhole (value : Value) : Prop := value.entries? = none ∧ ∀ items, value ≠ .list items

theorem fitsIn_iff_of_isWhole {left : Value} (whole : left.IsWhole) (right : Value) :
    left.FitsIn right ↔ alike left right = true := by
  cases left with
  | list items => exact absurd rfl (whole.2 items)
  | mapping | frozenMapping => cases whole.1
  | _ => simp [FitsIn]

theorem isWhole_of_alike {left right : Value} (whole : left.IsWhole)
    (same : alike left right = true) : right.IsWhole := by
  cases right with
  | list | mapping | frozenMapping =>
      exfalso
      cases left with
      | list items => exact whole.2 items rfl
      | mapping | frozenMapping => cases whole.1
      | _ => simp [alike, sameNotANumber, equals, sameMagnitude, magnitude?, isNull, isUndefined,
          members?] at same
  | _ => exact ⟨rfl, by simp⟩

theorem fitsIn_of_alike {left right : Value} (same : alike left right = true) :
    left.FitsIn right := by
  induction left using inductionOnParts generalizing right with
  | step left ih =>
  cases left with
  | list items =>
      obtain ⟨others, rfl, paired⟩ := (alike_list_iff _ _).mp same
      exact (fitsIn_list_iff _ _).mpr
        ⟨others, rfl, forall₂_imp_of_mem paired fun item member _ => ih item member⟩
  | mapping entries | frozenMapping entries =>
      obtain ⟨others, isOthers, -, within⟩ := (alike_mapping_iff rfl _).mp same
      refine (fitsIn_mapping_iff rfl _).mpr ⟨others, isOthers, fun entry member => ?_⟩
      obtain ⟨other, isOther, sameKey, sameItem⟩ := within entry member
      exact ⟨other, isOther, sameKey, ih entry.2 (item_mem_parts rfl member) sameItem⟩
  | _ => exact (fitsIn_iff_of_isWhole ⟨rfl, by simp⟩ _).mpr same

theorem exists_list_of_fitsIn {left : Value} {others : List Value}
    (fits : left.FitsIn (.list others)) :
    ∃ items, left = .list items ∧ List.Forall₂ FitsIn items others := by
  cases left with
  | list items =>
      obtain ⟨_, isList, paired⟩ := (fitsIn_list_iff _ _).mp fits
      cases isList
      exact ⟨items, rfl, paired⟩
  | mapping | frozenMapping =>
      obtain ⟨_, isEntries, -⟩ := (fitsIn_mapping_iff rfl _).mp fits
      cases isEntries
  | _ =>
      have same := (fitsIn_iff_of_isWhole ⟨rfl, by simp⟩ _).mp fits
      exact absurd rfl ((isWhole_of_alike ⟨rfl, by simp⟩ same).2 others)

theorem exists_entries_of_fitsIn {left right : Value} {others : List (Value × Value)}
    (isOthers : right.entries? = some others) (fits : left.FitsIn right) :
    ∃ entries, left.entries? = some entries ∧
      ∀ entry ∈ entries, ∃ other ∈ others,
        alike entry.1 other.1 = true ∧ entry.2.FitsIn other.2 := by
  cases left with
  | list items =>
      obtain ⟨_, rfl, -⟩ := (fitsIn_list_iff _ _).mp fits
      cases isOthers
  | mapping entries | frozenMapping entries =>
      obtain ⟨_, isEntries, within⟩ := (fitsIn_mapping_iff rfl _).mp fits
      cases isOthers.symm.trans isEntries
      exact ⟨entries, rfl, within⟩
  | _ =>
      have same := (fitsIn_iff_of_isWhole ⟨rfl, by simp⟩ _).mp fits
      cases isOthers.symm.trans (isWhole_of_alike ⟨rfl, by simp⟩ same).1

theorem alike_of_fitsIn_whole {left right : Value} (whole : right.IsWhole)
    (fits : left.FitsIn right) : alike left right = true := by
  cases left with
  | list items =>
      obtain ⟨others, rfl, -⟩ := (fitsIn_list_iff _ _).mp fits
      exact absurd rfl (whole.2 others)
  | mapping entries | frozenMapping entries =>
      obtain ⟨_, isEntries, -⟩ := (fitsIn_mapping_iff rfl _).mp fits
      cases whole.1.symm.trans isEntries
  | _ => exact (fitsIn_iff_of_isWhole ⟨rfl, by simp⟩ _).mp fits

theorem FitsIn.refl (value : Value) : value.FitsIn value := fitsIn_of_alike (alike_self value)

/-- Fitting is transitive. -/
theorem FitsIn.trans {first second third : Value} (near : first.FitsIn second)
    (far : second.FitsIn third) : first.FitsIn third := by
  induction first using inductionOnParts generalizing second third with
  | step first ih =>
  cases first with
  | list items =>
      obtain ⟨others, rfl, paired⟩ := (fitsIn_list_iff _ _).mp near
      obtain ⟨further, rfl, next⟩ := (fitsIn_list_iff _ _).mp far
      exact (fitsIn_list_iff _ _).mpr ⟨further, rfl, forall₂_trans_of_mem paired next
        fun item member _ _ => ih item member⟩
  | mapping entries | frozenMapping entries =>
      obtain ⟨others, isOthers, within⟩ := (fitsIn_mapping_iff rfl _).mp near
      obtain ⟨further, isFurther, nextWithin⟩ := (fitsIn_mapping_iff isOthers _).mp far
      refine (fitsIn_mapping_iff rfl _).mpr ⟨further, isFurther, fun entry member => ?_⟩
      obtain ⟨other, isOther, sameKey, fits⟩ := within entry member
      obtain ⟨last, isLast, nextKey, nextFits⟩ := nextWithin other isOther
      exact ⟨last, isLast, alike_trans sameKey nextKey,
        ih entry.2 (item_mem_parts rfl member) fits nextFits⟩
  | _ =>
      have same := (fitsIn_iff_of_isWhole ⟨rfl, by simp⟩ _).mp near
      have next := (fitsIn_iff_of_isWhole (isWhole_of_alike ⟨rfl, by simp⟩ same) _).mp far
      exact (fitsIn_iff_of_isWhole ⟨rfl, by simp⟩ _).mpr (alike_trans same next)

/-! ## Entries under alike keys -/

theorem eq_of_alike_keys {entries : List (Value × Value)}
    (distinct : Distinct (entries.map Prod.fst))
    (wellFormed : ∀ entry ∈ entries, entry.1.IsWellFormed) {first second : Value × Value}
    (isFirst : first ∈ entries) (isSecond : second ∈ entries)
    (same : alike first.1 second.1 = true) : first = second := by
  have apart := List.pairwise_map.mp distinct
  have symm := (wellFormed first isFirst).alike_symm same
  induction entries with
  | nil => cases isFirst
  | cons head rest ih =>
      obtain ⟨unlike, apartRest⟩ := List.pairwise_cons.mp apart
      rcases List.mem_cons.mp isFirst with rfl | firstLater
      · rcases List.mem_cons.mp isSecond with rfl | secondLater
        · rfl
        · rw [unlike second secondLater] at symm
          cases symm
      · rcases List.mem_cons.mp isSecond with rfl | secondLater
        · rw [unlike first firstLater] at same
          cases same
        · exact ih (List.pairwise_map.mpr apartRest)
            (fun entry member => wellFormed entry (List.mem_cons_of_mem _ member)) firstLater
            secondLater apartRest

theorem find?_of_alike {entries : List (Value × Value)} (distinct : Distinct (entries.map Prod.fst))
    (wellFormed : ∀ entry ∈ entries, entry.1.IsWellFormed) {key : Value} {entry : Value × Value}
    (keyWellFormed : key.IsWellFormed) (member : entry ∈ entries) (same : alike key entry.1 = true) :
    find? key entries = some entry.2 := by
  have present : (entries.find? fun other => alike key other.1).isSome :=
    List.find?_isSome.mpr ⟨entry, member, same⟩
  obtain ⟨other, found⟩ := Option.isSome_iff_exists.mp present
  have isOther := List.mem_of_find?_eq_some found
  have sameOther : alike key other.1 = true := by simpa using List.find?_some found
  have symm := keyWellFormed.alike_symm sameOther
  rw [find?, found, eq_of_alike_keys distinct wellFormed isOther member (alike_trans symm same)]
  rfl

theorem exists_alike_of_find? {key item : Value} {entries : List (Value × Value)}
    (found : find? key entries = some item) :
    ∃ entry ∈ entries, alike key entry.1 = true ∧ entry.2 = item := by
  unfold find? at found
  obtain ⟨entry, first, equal⟩ := Option.map_eq_some_iff.mp found
  exact ⟨entry, List.mem_of_find?_eq_some first, by simpa using List.find?_some first, equal⟩

theorem length_le_of_within {entries others : List (Value × Value)}
    (distinct : Distinct (entries.map Prod.fst))
    (wellFormed : ∀ entry ∈ entries, entry.1.IsWellFormed)
    (within : ∀ entry ∈ entries, ∃ other ∈ others,
      alike entry.1 other.1 = true ∧ entry.2.FitsIn other.2) :
    entries.length ≤ others.length := by
  have unshared := List.pairwise_map.mp (distinct.pairwise_unshared fun key isKey next same => by
    obtain ⟨entry, member, rfl⟩ := List.mem_map.mp isKey
    exact (wellFormed entry member).alike_symm same)
  exact length_le_of_partners within
    (unshared.imp fun apart next _ fits fitsNext => apart next.1 fits.1 fitsNext.1)

/-- Values that fit into each other are alike. -/
theorem FitsIn.antisymm {left right : Value} (leftWellFormed : left.IsWellFormed)
    (rightWellFormed : right.IsWellFormed) (fits : left.FitsIn right) (back : right.FitsIn left) :
    alike left right = true := by
  induction left using inductionOnParts generalizing right with
  | step left ih =>
  cases left with
  | list items =>
      obtain ⟨others, rfl, paired⟩ := (fitsIn_list_iff _ _).mp fits
      obtain ⟨_, isList, next⟩ := (fitsIn_list_iff _ _).mp back
      cases isList
      refine (alike_list_iff _ _).mpr ⟨others, rfl, List.forall₂_iff_get.mpr
        ⟨paired.length_eq, fun index inItems inOthers => ?_⟩⟩
      exact ih _ (List.get_mem _ _) (leftWellFormed.part (List.get_mem _ _))
        (rightWellFormed.part (List.get_mem _ _)) (paired.get inItems inOthers)
        (next.get inOthers inItems)
  | mapping entries | frozenMapping entries =>
      obtain ⟨others, isOthers, within⟩ := (fitsIn_mapping_iff rfl _).mp fits
      obtain ⟨_, isEntries, backWithin⟩ := (fitsIn_mapping_iff isOthers _).mp back
      cases isEntries
      have keys (entry : Value × Value) (member : entry ∈ entries) : entry.1.IsWellFormed :=
        leftWellFormed.part (key_mem_parts rfl member)
      have otherKeys (other : Value × Value) (member : other ∈ others) : other.1.IsWellFormed :=
        rightWellFormed.part (key_mem_parts isOthers member)
      have size : entries.length = others.length :=
        Nat.le_antisymm (length_le_of_within (leftWellFormed.keys rfl) keys within)
          (length_le_of_within (rightWellFormed.keys isOthers) otherKeys backWithin)
      refine (alike_mapping_iff rfl _).mpr ⟨others, isOthers, size, fun entry member => ?_⟩
      obtain ⟨other, isOther, sameKey, fitsItem⟩ := within entry member
      obtain ⟨again, isAgain, backKey, backItem⟩ := backWithin other isOther
      -- the way back leads to the entry itself, since no other key is alike to its own
      have itself := eq_of_alike_keys (leftWellFormed.keys rfl) keys member isAgain
        (alike_trans sameKey backKey)
      rw [← itself] at backItem
      exact ⟨other, isOther, sameKey, ih entry.2 (item_mem_parts rfl member)
        (leftWellFormed.part (item_mem_parts rfl member))
        (rightWellFormed.part (item_mem_parts isOthers isOther)) fitsItem backItem⟩
  | _ => exact (fitsIn_iff_of_isWhole ⟨rfl, by simp⟩ _).mp fits

/-! ## What is merged -/

/-- What becomes of an entry when it is merged with the item under its key among others. -/
def mergeEntry (others : List (Value × Value)) (entry : Value × Value) : Option (Value × Value) :=
  match find? entry.1 others with
  | none => some entry
  | some other => (merge entry.2 other).map fun merged => (entry.1, merged)

/-- A merged entry keeps its key; its item is merged with the one under an alike key, if there is
one. -/
theorem mergeEntry_eq_some_iff (others : List (Value × Value)) (entry result : Value × Value) :
    mergeEntry others entry = some result ↔
      result.1 = entry.1 ∧
        (find? entry.1 others = none ∧ result.2 = entry.2 ∨
          ∃ other, find? entry.1 others = some other ∧ merge entry.2 other = some result.2) := by
  rcases entry with ⟨key, item⟩
  rcases result with ⟨resultKey, merged⟩
  rw [mergeEntry]
  cases find? key others with
  | none => simp [eq_comm (a := resultKey), eq_comm (a := merged)]
  | some other => simp [eq_comm (a := resultKey), and_comm]

theorem mergeEntries_cons (entry : Value × Value) (rest others : List (Value × Value)) :
    mergeEntries (entry :: rest) others =
      (mergeEntry others entry).bind fun first => (mergeEntries rest others).map (first :: ·) := by
  rcases entry with ⟨key, item⟩
  rw [mergeEntries, mergeEntry]
  cases find? key others with
  | none => rfl
  | some other =>
      dsimp only
      cases merge item other <;> rfl

theorem mergeEntries_eq_some_iff (entries others merged : List (Value × Value)) :
    mergeEntries entries others = some merged ↔
      entries.map (mergeEntry others) = merged.map some := by
  induction entries generalizing merged with
  | nil => cases merged <;> simp [mergeEntries]
  | cons entry rest ih =>
      cases merged with
      | nil => simp [mergeEntries_cons, Option.bind_eq_some_iff]
      | cons first more => simp [mergeEntries_cons, Option.bind_eq_some_iff, ih]

theorem merge_of_alike {left right : Value} (same : alike left right = true) :
    merge left right = some left := by
  rw [merge.eq_def, if_pos same]

/-- Mappings that are not alike are merged entry by entry; what only the second has comes last. -/
theorem merge_mapping_iff {left right : Value} {entries : List (Value × Value)}
    (isEntries : left.entries? = some entries) (unlike : alike left right = false) (merged : Value) :
    merge left right = some merged ↔
      ∃ others results, right.entries? = some others ∧
        entries.map (mergeEntry others) = results.map some ∧
        merged = .mapping (results ++ entriesOutside entries others) := by
  simp only [← mergeEntries_eq_some_iff]
  rw [merge.eq_def, if_neg (by simp [unlike])]
  cases left with
  | mapping | frozenMapping =>
      cases isEntries
      cases right.entries? with
      | none => simp
      | some others => simp [eq_comm (a := merged)]
  | _ => cases isEntries

theorem merge_list_iff {items : List Value} {right : Value}
    (unlike : alike (.list items) right = false) (merged : Value) :
    merge (.list items) right = some merged ↔
      ∃ others results, right = .list others ∧ mergeItems items others = some results ∧
        merged = .list results := by
  rw [merge.eq_def, if_neg (by simp [unlike])]
  cases right <;> simp [eq_comm (a := merged)]

theorem merge_eq_none_of_isWhole {left right : Value} (whole : left.IsWhole)
    (unlike : alike left right = false) : merge left right = none := by
  rw [merge.eq_def, if_neg (by simp [unlike])]
  cases left with
  | list items => exact absurd rfl (whole.2 items)
  | mapping | frozenMapping => cases whole.1
  | _ => rfl

theorem find?_eq_none_iff (key : Value) (entries : List (Value × Value)) :
    find? key entries = none ↔ hasKey key entries = false := by
  simp [find?, hasKey]

/-- Mappings without a key in common are merged to the entries of both. -/
theorem merge_of_apart {entries others : List (Value × Value)}
    (apart : ∀ entry ∈ entries, hasKey entry.1 others = false)
    (back : ∀ other ∈ others, hasKey other.1 entries = false) :
    merge (.mapping entries) (.mapping others) = some (.mapping (entries ++ others)) := by
  cases same : alike (.mapping entries) (.mapping others) with
  | true =>
      obtain ⟨_, isOthers, size, within⟩ := (alike_mapping_iff rfl _).mp same
      cases isOthers
      cases entries with
      | nil =>
          rw [List.length_eq_zero_iff.mp size.symm]
          exact merge_of_alike (alike_self _)
      | cons entry rest =>
          obtain ⟨other, isOther, sameKey, -⟩ := within entry (by simp)
          have shared : hasKey entry.1 others = true := List.any_eq_true.mpr ⟨other, isOther, sameKey⟩
          rw [apart entry (by simp)] at shared
          cases shared
  | false =>
      have kept : entriesOutside entries others = others :=
        List.filter_eq_self.mpr fun other isOther => by rw [back other isOther, Bool.not_false]
      refine (merge_mapping_iff rfl same _).mpr ⟨others, entries, rfl, ?_, by rw [kept]⟩
      refine List.map_congr_left fun entry member => (mergeEntry_eq_some_iff _ _ _).mpr ⟨rfl, .inl ?_⟩
      exact ⟨(find?_eq_none_iff _ _).mpr (apart entry member), rfl⟩

theorem mem_results_iff {α β : Type} {action : α → Option β} {items : List α} {results : List β}
    (each : items.map action = results.map some) (result : β) :
    result ∈ results ↔ ∃ item ∈ items, action item = some result := by
  rw [← List.mem_map, each]
  simp

theorem forall₂_of_mergeItems {near far : Value → Value → Prop} {items others results : List Value}
    (merges : mergeItems items others = some results)
    (each : ∀ item ∈ items, ∀ other ∈ others, ∀ merged, merge item other = some merged →
      near item merged ∧ far other merged) :
    List.Forall₂ near items results ∧ List.Forall₂ far others results := by
  induction items generalizing others results with
  | nil =>
      cases others with
      | nil =>
          cases merges
          exact ⟨.nil, .nil⟩
      | cons => cases merges
  | cons item rest ih =>
      cases others with
      | nil => cases merges
      | cons other otherRest =>
          rw [mergeItems] at merges
          obtain ⟨merged, mergesItem, remaining⟩ := Option.bind_eq_some_iff.mp merges
          obtain ⟨more, mergesRest, rfl⟩ := Option.map_eq_some_iff.mp remaining
          obtain ⟨first, second⟩ := each item (by simp) other (by simp) merged mergesItem
          obtain ⟨firsts, seconds⟩ := ih mergesRest fun next isNext another isAnother =>
            each next (by simp [isNext]) another (by simp [isAnother])
          exact ⟨.cons first firsts, .cons second seconds⟩

/-! ## Above both sides -/

section Entries

variable {entries others results : List (Value × Value)}

theorem within_of_mergeEntry (merged : entries.map (mergeEntry others) = results.map some)
    (each : ∀ entry ∈ entries, ∀ other ∈ others, ∀ item, merge entry.2 other.2 = some item →
      entry.2.FitsIn item) :
    ∀ entry ∈ entries, ∃ result ∈ results,
      alike entry.1 result.1 = true ∧ entry.2.FitsIn result.2 := by
  intro entry member
  have present : mergeEntry others entry ∈ results.map some := merged ▸ List.mem_map_of_mem member
  obtain ⟨result, isResult, equal⟩ := List.mem_map.mp present
  obtain ⟨sameKey, absent | found⟩ := (mergeEntry_eq_some_iff _ _ _).mp equal.symm
  · exact ⟨result, isResult, sameKey ▸ alike_self entry.1, absent.2 ▸ .refl entry.2⟩
  · obtain ⟨other, isFound, mergesItem⟩ := found
    obtain ⟨otherEntry, isOther, rfl⟩ := mem_of_find? isFound
    exact ⟨result, isResult, sameKey ▸ alike_self entry.1,
      each entry member otherEntry isOther result.2 mergesItem⟩

theorem others_within_of_mergeEntry (merged : entries.map (mergeEntry others) = results.map some)
    (keys : ∀ entry ∈ entries, entry.1.IsWellFormed)
    (distinct : Distinct (others.map Prod.fst))
    (otherKeys : ∀ other ∈ others, other.1.IsWellFormed)
    (each : ∀ entry ∈ entries, ∀ other ∈ others, ∀ item, merge entry.2 other.2 = some item →
      other.2.FitsIn item) :
    ∀ other ∈ others, ∃ result ∈ results ++ entriesOutside entries others,
      alike other.1 result.1 = true ∧ other.2.FitsIn result.2 := by
  intro other isOther
  cases shared : hasKey other.1 entries with
  | false =>
      have outside : other ∈ entriesOutside entries others :=
        List.mem_filter.mpr ⟨isOther, by simp [shared]⟩
      exact ⟨other, List.mem_append_right _ outside, alike_self other.1, .refl other.2⟩
  | true =>
      obtain ⟨entry, member, same⟩ := List.any_eq_true.mp shared
      have found : find? entry.1 others = some other.2 :=
        find?_of_alike distinct otherKeys (keys entry member) isOther
          ((otherKeys other isOther).alike_symm same)
      have present : mergeEntry others entry ∈ results.map some :=
        merged ▸ List.mem_map_of_mem member
      obtain ⟨result, isResult, equal⟩ := List.mem_map.mp present
      obtain ⟨sameKey, absent | ⟨item, isFound, mergesItem⟩⟩ :=
        (mergeEntry_eq_some_iff _ _ _).mp equal.symm
      · rw [found] at absent
        cases absent.1
      · rw [found] at isFound
        cases isFound
        exact ⟨result, List.mem_append_left _ isResult, sameKey ▸ same,
          each entry member other isOther result.2 mergesItem⟩

end Entries

/-- Both sides fit into what they are merged to. -/
theorem fitsIn_merge {left right merged : Value} (leftWellFormed : left.IsWellFormed)
    (rightWellFormed : right.IsWellFormed) (merges : merge left right = some merged) :
    left.FitsIn merged ∧ right.FitsIn merged := by
  induction left using inductionOnParts generalizing right merged with
  | step left ih =>
  cases same : alike left right with
  | true =>
      rw [merge_of_alike same] at merges
      cases merges
      exact ⟨.refl left, fitsIn_of_alike (leftWellFormed.alike_symm same)⟩
  | false =>
    cases left with
    | list items =>
        obtain ⟨others, results, rfl, mergesItems, rfl⟩ := (merge_list_iff same _).mp merges
        have each : ∀ item ∈ items, ∀ other ∈ others, ∀ merged, merge item other = some merged →
            item.FitsIn merged ∧ other.FitsIn merged := fun item isItem other isOther _ mergesItem =>
          ih item isItem (leftWellFormed.part isItem) (rightWellFormed.part isOther) mergesItem
        obtain ⟨lefts, rights⟩ := forall₂_of_mergeItems mergesItems each
        exact ⟨(fitsIn_list_iff _ _).mpr ⟨results, rfl, lefts⟩,
          (fitsIn_list_iff _ _).mpr ⟨results, rfl, rights⟩⟩
    | mapping entries | frozenMapping entries =>
        obtain ⟨others, results, isOthers, merged, rfl⟩ := (merge_mapping_iff rfl same _).mp merges
        have each : ∀ entry ∈ entries, ∀ other ∈ others, ∀ item,
            merge entry.2 other.2 = some item → entry.2.FitsIn item ∧ other.2.FitsIn item :=
          fun entry member other isOther _ mergesItem =>
            ih entry.2 (item_mem_parts rfl member)
              (leftWellFormed.part (item_mem_parts rfl member))
              (rightWellFormed.part (item_mem_parts isOthers isOther)) mergesItem
        constructor
        · refine (fitsIn_mapping_iff rfl _).mpr ⟨_, rfl, fun entry member => ?_⟩
          obtain ⟨result, isResult, fits⟩ := within_of_mergeEntry merged
            (fun entry member other isOther item mergesItem =>
              (each entry member other isOther item mergesItem).1) entry member
          exact ⟨result, List.mem_append_left _ isResult, fits⟩
        · exact (fitsIn_mapping_iff isOthers _).mpr ⟨_, rfl, others_within_of_mergeEntry merged
            (fun entry member => leftWellFormed.part (key_mem_parts rfl member))
            (rightWellFormed.keys isOthers)
            (fun other isOther => rightWellFormed.part (key_mem_parts isOthers isOther))
            fun entry member other isOther item mergesItem =>
              (each entry member other isOther item mergesItem).2⟩
    | _ =>
        rw [merge_eq_none_of_isWhole ⟨rfl, by simp⟩ same] at merges
        cases merges

/-! ## Below everything else -/

theorem exists_mergeItems {items others bounds : List Value}
    (lefts : List.Forall₂ FitsIn items bounds) (rights : List.Forall₂ FitsIn others bounds)
    (each : ∀ item ∈ items, ∀ other ∈ others, ∀ bound ∈ bounds, item.FitsIn bound →
      other.FitsIn bound → ∃ merged, merge item other = some merged ∧ merged.FitsIn bound) :
    ∃ results, mergeItems items others = some results ∧ List.Forall₂ FitsIn results bounds := by
  induction lefts generalizing others with
  | nil =>
      cases rights
      exact ⟨[], rfl, .nil⟩
  | @cons item bound rest moreBounds fits _ ih =>
      cases rights with
      | @cons other _ otherRest _ otherFits otherRests =>
          obtain ⟨merged, merges, mergedFits⟩ :=
            each item (by simp) other (by simp) bound (by simp) fits otherFits
          obtain ⟨results, mergesRest, resultsFit⟩ := ih otherRests
            fun item isItem other isOther bound isBound =>
              each item (by simp [isItem]) other (by simp [isOther]) bound (by simp [isBound])
          exact ⟨merged :: results, by rw [mergeItems, merges, mergesRest]; rfl,
            .cons mergedFits resultsFit⟩

theorem exists_map_eq_map_some {α β : Type} {action : α → Option β} {items : List α}
    (each : ∀ item ∈ items, ∃ result, action item = some result) :
    ∃ results : List β, items.map action = results.map some := by
  induction items with
  | nil => exact ⟨[], rfl⟩
  | cons item rest ih =>
      obtain ⟨result, first⟩ := each item (by simp)
      obtain ⟨results, others⟩ := ih fun next member => each next (by simp [member])
      exact ⟨result :: results, by simp [first, others]⟩

/-- Entries that fit into others together with further ones can be merged with these, each to an
entry that fits. -/
theorem exists_mergeEntry_of_within {entries others bounds : List (Value × Value)}
    (keys : ∀ entry ∈ entries, entry.1.IsWellFormed)
    (distinct : Distinct (bounds.map Prod.fst))
    (boundKeys : ∀ bound ∈ bounds, bound.1.IsWellFormed)
    (within : ∀ entry ∈ entries, ∃ bound ∈ bounds,
      alike entry.1 bound.1 = true ∧ entry.2.FitsIn bound.2)
    (othersWithin : ∀ other ∈ others, ∃ bound ∈ bounds,
      alike other.1 bound.1 = true ∧ other.2.FitsIn bound.2)
    (each : ∀ entry ∈ entries, ∀ other ∈ others, ∀ bound ∈ bounds, entry.2.FitsIn bound.2 →
      other.2.FitsIn bound.2 → ∃ merged, merge entry.2 other.2 = some merged ∧ merged.FitsIn bound.2)
    {entry : Value × Value} (member : entry ∈ entries) :
    ∃ result, mergeEntry others entry = some result ∧
      ∃ bound ∈ bounds, alike result.1 bound.1 = true ∧ result.2.FitsIn bound.2 := by
  obtain ⟨bound, isBound, sameKey, fits⟩ := within entry member
  cases found : find? entry.1 others with
  | none =>
      exact ⟨entry, (mergeEntry_eq_some_iff _ _ _).mpr ⟨rfl, .inl ⟨found, rfl⟩⟩,
        bound, isBound, sameKey, fits⟩
  | some item =>
      obtain ⟨other, isOther, sameOther, rfl⟩ := exists_alike_of_find? found
      obtain ⟨otherBound, isOtherBound, boundKey, otherFits⟩ := othersWithin other isOther
      -- both items fit into the one under the key that they share
      have one : bound = otherBound :=
        eq_of_alike_keys distinct boundKeys isBound isOtherBound
          (alike_trans ((keys entry member).alike_symm sameKey) (alike_trans sameOther boundKey))
      obtain ⟨merged, merges, mergedFits⟩ :=
        each entry member other isOther bound isBound fits (one ▸ otherFits)
      exact ⟨(entry.1, merged),
        (mergeEntry_eq_some_iff _ _ _).mpr ⟨rfl, .inr ⟨other.2, found, merges⟩⟩,
        bound, isBound, sameKey, mergedFits⟩

/-- Two values that fit into a third can be merged, and what they are merged to fits into it too. -/
theorem exists_merge_of_fitsIn {left right bound : Value} (leftWellFormed : left.IsWellFormed)
    (rightWellFormed : right.IsWellFormed) (boundWellFormed : bound.IsWellFormed)
    (leftFits : left.FitsIn bound) (rightFits : right.FitsIn bound) :
    ∃ merged, merge left right = some merged ∧ merged.FitsIn bound := by
  induction left using inductionOnParts generalizing right bound with
  | step left ih =>
  cases same : alike left right with
  | true => exact ⟨left, merge_of_alike same, leftFits⟩
  | false =>
    cases left with
    | list items =>
        obtain ⟨bounds, rfl, lefts⟩ := (fitsIn_list_iff _ _).mp leftFits
        obtain ⟨others, rfl, rights⟩ := exists_list_of_fitsIn rightFits
        obtain ⟨results, merges, fits⟩ := exists_mergeItems lefts rights
          fun item isItem other isOther bound isBound =>
            ih item isItem (leftWellFormed.part isItem) (rightWellFormed.part isOther)
              (boundWellFormed.part isBound)
        exact ⟨_, (merge_list_iff same _).mpr ⟨others, results, rfl, merges, rfl⟩,
          (fitsIn_list_iff _ _).mpr ⟨bounds, rfl, fits⟩⟩
    | mapping entries | frozenMapping entries =>
        obtain ⟨bounds, isBounds, within⟩ := (fitsIn_mapping_iff rfl _).mp leftFits
        obtain ⟨others, isOthers, othersWithin⟩ := exists_entries_of_fitsIn isBounds rightFits
        have merges (entry : Value × Value) (member : entry ∈ entries) :=
          exists_mergeEntry_of_within
            (fun entry member => leftWellFormed.part (key_mem_parts rfl member))
            (boundWellFormed.keys isBounds)
            (fun bound isBound => boundWellFormed.part (key_mem_parts isBounds isBound)) within
            othersWithin
            (fun entry member other isOther bound isBound =>
              ih entry.2 (item_mem_parts rfl member)
                (leftWellFormed.part (item_mem_parts rfl member))
                (rightWellFormed.part (item_mem_parts isOthers isOther))
                (boundWellFormed.part (item_mem_parts isBounds isBound))) member
        obtain ⟨results, merged⟩ := exists_map_eq_map_some fun entry member =>
          (merges entry member).imp fun _ both => both.1
        refine ⟨_, (merge_mapping_iff rfl same _).mpr ⟨others, results, isOthers, merged, rfl⟩,
          (fitsIn_mapping_iff rfl _).mpr ⟨bounds, isBounds, fun result isResult => ?_⟩⟩
        rcases List.mem_append.mp isResult with inResults | outside
        · obtain ⟨entry, member, equal⟩ := (mem_results_iff merged result).mp inResults
          obtain ⟨_, again, fits⟩ := merges entry member
          cases equal.symm.trans again
          exact fits
        · exact othersWithin result (List.mem_filter.mp outside).1
    | _ =>
        have alikeBound := (fitsIn_iff_of_isWhole ⟨rfl, by simp⟩ _).mp leftFits
        have boundIsWhole := isWhole_of_alike ⟨rfl, by simp⟩ alikeBound
        have rightAlike := alike_of_fitsIn_whole boundIsWhole rightFits
        rw [alike_trans alikeBound (rightWellFormed.alike_symm rightAlike)] at same
        cases same

/-! ## Well-formed results -/

theorem map_fst_of_mergeEntry {entries others results : List (Value × Value)}
    (merged : entries.map (mergeEntry others) = results.map some) :
    results.map Prod.fst = entries.map Prod.fst := by
  induction entries generalizing results with
  | nil => rw [List.map_eq_nil_iff.mp merged.symm]
  | cons entry rest ih =>
      cases results with
      | nil => cases merged
      | cons result more =>
          rw [List.map_cons, List.map_cons, List.cons.injEq] at merged
          rw [List.map_cons, List.map_cons, ih merged.2,
            ((mergeEntry_eq_some_iff _ _ _).mp merged.1).1]

theorem distinct_merged {entries others results : List (Value × Value)}
    (merged : entries.map (mergeEntry others) = results.map some)
    (distinct : Distinct (entries.map Prod.fst)) (othersDistinct : Distinct (others.map Prod.fst)) :
    Distinct ((results ++ entriesOutside entries others).map Prod.fst) := by
  rw [List.map_append, map_fst_of_mergeEntry merged]
  refine List.pairwise_append.mpr
    ⟨distinct, othersDistinct.sublist (List.filter_sublist.map Prod.fst),
      fun key isKey later isLater => ?_⟩
  obtain ⟨other, outside, rfl⟩ := List.mem_map.mp isLater
  exact unlike_of_hasKey (by simpa using (List.mem_filter.mp outside).2) key isKey

/-- Well-formed values merge to a well-formed value. -/
theorem IsWellFormed.merge {left right merged : Value} (leftWellFormed : left.IsWellFormed)
    (rightWellFormed : right.IsWellFormed) (merges : merge left right = some merged) :
    merged.IsWellFormed := by
  induction left using inductionOnParts generalizing right merged with
  | step left ih =>
  cases same : alike left right with
  | true =>
      rw [merge_of_alike same] at merges
      cases merges
      exact leftWellFormed
  | false =>
    cases left with
    | list items =>
        obtain ⟨others, results, rfl, mergesItems, rfl⟩ := (merge_list_iff same _).mp merges
        have paired : List.Forall₂ (fun _ result => result.IsWellFormed ∧ True) items results ∧
            List.Forall₂ (fun _ _ => True) others results :=
          forall₂_of_mergeItems mergesItems fun item isItem other isOther _ mergesItem =>
            ⟨⟨ih item isItem (leftWellFormed.part isItem) (rightWellFormed.part isOther) mergesItem,
              trivial⟩, trivial⟩
        exact isWellFormed_list ((List.forall₂_and_left _ _).mp (List.Forall₂.flip paired.1)).1
    | mapping entries | frozenMapping entries =>
        obtain ⟨others, results, isOthers, merged, rfl⟩ := (merge_mapping_iff rfl same _).mp merges
        refine isWellFormed_mapping (distinct_merged merged (leftWellFormed.keys rfl)
          (rightWellFormed.keys isOthers)) fun result isResult => ?_
        rcases List.mem_append.mp isResult with inResults | outside
        · obtain ⟨entry, member, equal⟩ := (mem_results_iff merged result).mp inResults
          obtain ⟨sameKey, absent | ⟨item, isFound, mergesItem⟩⟩ :=
            (mergeEntry_eq_some_iff _ _ _).mp equal
          · rw [sameKey, absent.2]
            exact ⟨leftWellFormed.part (key_mem_parts rfl member),
              leftWellFormed.part (item_mem_parts rfl member)⟩
          · obtain ⟨other, isOther, rfl⟩ := mem_of_find? isFound
            rw [sameKey]
            exact ⟨leftWellFormed.part (key_mem_parts rfl member),
              ih entry.2 (item_mem_parts rfl member)
                (leftWellFormed.part (item_mem_parts rfl member))
                (rightWellFormed.part (item_mem_parts isOthers isOther)) mergesItem⟩
        · have isOther := (List.mem_filter.mp outside).1
          exact ⟨rightWellFormed.part (key_mem_parts isOthers isOther),
            rightWellFormed.part (item_mem_parts isOthers isOther)⟩
    | _ =>
        rw [merge_eq_none_of_isWhole ⟨rfl, by simp⟩ same] at merges
        cases merges

/-! ## Merging as a join -/

/-- A merged value is the least into which both sides fit. -/
structure IsJoin (left right joined : Value) : Prop where
  wellFormed : joined.IsWellFormed
  left_fits : left.FitsIn joined
  right_fits : right.FitsIn joined
  least : ∀ bound : Value, bound.IsWellFormed → left.FitsIn bound → right.FitsIn bound →
    joined.FitsIn bound

theorem isJoin_merge {left right merged : Value} (leftWellFormed : left.IsWellFormed)
    (rightWellFormed : right.IsWellFormed) (merges : merge left right = some merged) :
    IsJoin left right merged := by
  obtain ⟨leftFits, rightFits⟩ := fitsIn_merge leftWellFormed rightWellFormed merges
  refine ⟨leftWellFormed.merge rightWellFormed merges, leftFits, rightFits, ?_⟩
  intro bound boundWellFormed leftBelow rightBelow
  obtain ⟨again, mergesAgain, fits⟩ :=
    exists_merge_of_fitsIn leftWellFormed rightWellFormed boundWellFormed leftBelow rightBelow
  cases merges.symm.trans mergesAgain
  exact fits

theorem exists_merge_swap {left right merged : Value} (leftWellFormed : left.IsWellFormed)
    (rightWellFormed : right.IsWellFormed) (merges : merge left right = some merged) :
    ∃ swapped, merge right left = some swapped ∧ alike merged swapped = true := by
  have joins := isJoin_merge leftWellFormed rightWellFormed merges
  obtain ⟨swapped, mergesBack, fits⟩ := exists_merge_of_fitsIn rightWellFormed leftWellFormed
    joins.wellFormed joins.right_fits joins.left_fits
  have joinsBack := isJoin_merge rightWellFormed leftWellFormed mergesBack
  exact ⟨swapped, mergesBack, FitsIn.antisymm joins.wellFormed joinsBack.wellFormed
    (joins.least swapped joinsBack.wellFormed joinsBack.right_fits joinsBack.left_fits) fits⟩

/-- Three values that merge from the right merge from the left too, to alike values. -/
theorem exists_merge_left {first second third inner outer : Value}
    (firstWellFormed : first.IsWellFormed) (secondWellFormed : second.IsWellFormed)
    (thirdWellFormed : third.IsWellFormed) (mergesInner : merge second third = some inner)
    (mergesOuter : merge first inner = some outer) :
    ∃ front whole, merge first second = some front ∧ merge front third = some whole ∧
      alike outer whole = true := by
  have joinsInner := isJoin_merge secondWellFormed thirdWellFormed mergesInner
  have joinsOuter := isJoin_merge firstWellFormed joinsInner.wellFormed mergesOuter
  have secondFits := joinsInner.left_fits.trans joinsOuter.right_fits
  have thirdFits := joinsInner.right_fits.trans joinsOuter.right_fits
  obtain ⟨front, mergesFront, frontFits⟩ := exists_merge_of_fitsIn firstWellFormed secondWellFormed
    joinsOuter.wellFormed joinsOuter.left_fits secondFits
  have joinsFront := isJoin_merge firstWellFormed secondWellFormed mergesFront
  obtain ⟨whole, mergesWhole, wholeFits⟩ := exists_merge_of_fitsIn joinsFront.wellFormed
    thirdWellFormed joinsOuter.wellFormed frontFits thirdFits
  have joinsWhole := isJoin_merge joinsFront.wellFormed thirdWellFormed mergesWhole
  have innerFits := joinsInner.least whole joinsWhole.wellFormed
    (joinsFront.right_fits.trans joinsWhole.left_fits) joinsWhole.right_fits
  have outerFits := joinsOuter.least whole joinsWhole.wellFormed
    (joinsFront.left_fits.trans joinsWhole.left_fits) innerFits
  exact ⟨front, whole, mergesFront, mergesWhole,
    FitsIn.antisymm joinsOuter.wellFormed joinsWhole.wellFormed outerFits wholeFits⟩

/-- Three values that merge from the left merge from the right too, to alike values. -/
theorem exists_merge_right {first second third front whole : Value}
    (firstWellFormed : first.IsWellFormed) (secondWellFormed : second.IsWellFormed)
    (thirdWellFormed : third.IsWellFormed) (mergesFront : merge first second = some front)
    (mergesWhole : merge front third = some whole) :
    ∃ inner outer, merge second third = some inner ∧ merge first inner = some outer ∧
      alike whole outer = true := by
  have joinsFront := isJoin_merge firstWellFormed secondWellFormed mergesFront
  have joinsWhole := isJoin_merge joinsFront.wellFormed thirdWellFormed mergesWhole
  have firstFits := joinsFront.left_fits.trans joinsWhole.left_fits
  have secondFits := joinsFront.right_fits.trans joinsWhole.left_fits
  obtain ⟨inner, mergesInner, innerFits⟩ := exists_merge_of_fitsIn secondWellFormed thirdWellFormed
    joinsWhole.wellFormed secondFits joinsWhole.right_fits
  have joinsInner := isJoin_merge secondWellFormed thirdWellFormed mergesInner
  obtain ⟨outer, mergesOuter, -⟩ := exists_merge_of_fitsIn firstWellFormed joinsInner.wellFormed
    joinsWhole.wellFormed firstFits innerFits
  obtain ⟨_, _, again, wholeAgain, same⟩ := exists_merge_left firstWellFormed secondWellFormed
    thirdWellFormed mergesInner mergesOuter
  cases mergesFront.symm.trans again
  cases mergesWhole.symm.trans wholeAgain
  have joinsOuter := isJoin_merge firstWellFormed joinsInner.wellFormed mergesOuter
  exact ⟨inner, outer, mergesInner, mergesOuter, joinsOuter.wellFormed.alike_symm same⟩

end TypedTables.Value
