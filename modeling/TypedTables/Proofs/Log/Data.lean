import TypedTables.Proofs.Log.Blocks
import TypedTables.Proofs.Text.Names
import TypedTables.Proofs.Value.Data

/-!
# Log data in data notation

Null, truth values, whole numbers, texts, lists and mappings under names are written with printing
characters only, whatever their texts hold, so that nothing in them ends the line. Where no high half
stands directly before a low one in any of their texts, they are read back from what is written.
-/

namespace TypedTables

/-- All characters are printing ASCII characters, of which none ends a line. -/
def Text.IsPrinting (characters : List Char) : Prop :=
  ∀ character ∈ characters, ' ' ≤ character ∧ character ≤ '~'

namespace Text.IsPrinting

variable {first second : List Char}

theorem of_all {characters : List Char}
    (all : characters.all (fun character => ' ' ≤ character && character ≤ '~') = true) :
    IsPrinting characters := by
  intro character member
  simpa using List.all_eq_true.mp all character member

theorem append (ofFirst : IsPrinting first) (ofSecond : IsPrinting second) :
    IsPrinting (first ++ second) := by
  intro character member
  rcases List.mem_append.mp member with among | among
  · exact ofFirst character among
  · exact ofSecond character among

theorem flatMap {α : Type} {items : List α} {write : α → List Char}
    (each : ∀ item ∈ items, IsPrinting (write item)) : IsPrinting (items.flatMap write) := by
  intro character member
  obtain ⟨item, isItem, among⟩ := List.mem_flatMap.mp member
  exact each item isItem character among

end Text.IsPrinting

open Text (IsPrinting isNumeral)

namespace Json

theorem isPrinting_unitEscape (unit : Nat) : IsPrinting (unitEscape unit) := by
  have digits : ∀ digit < 16, ' ' ≤ Nat.digitChar digit ∧ Nat.digitChar digit ≤ '~' := by
    decide
  intro character member
  rcases List.mem_cons.mp member with rfl | afterMark
  · decide
  · rcases List.mem_cons.mp afterMark with rfl | isDigit
    · decide
    · obtain ⟨place, -, rfl⟩ := List.mem_map.mp isDigit
      exact digits _ (Nat.mod_lt _ (by decide))

theorem isPrinting_quotedCharacter (character : Char) :
    IsPrinting (quotedCharacter true character) := by
  unfold quotedCharacter
  repeat
    split
    · exact .of_all rfl
  split
  · exact .flatMap fun unit _ => isPrinting_unitEscape unit
  · rename_i inside
    intro other member
    rw [List.mem_singleton.mp member]
    simp only [Bool.true_and, Bool.or_eq_true, decide_eq_true_eq, not_or, Nat.not_lt] at inside
    exact inside

theorem isPrinting_quotedPoints (points : List Point) :
    IsPrinting (quotedPoints points).toList := by
  have mark : IsPrinting ['\x22'] := .of_all rfl
  have body : IsPrinting (points.flatMap quotedPoint) := .flatMap fun point _ => by
    cases point with
    | character character => exact isPrinting_quotedCharacter character
    | half half => exact isPrinting_unitEscape half.unit
  rw [quotedPoints, String.toList_ofList]
  exact mark.append (body.append mark)

theorem quoted_eq_quotedPoints (text : String) :
    quoted true text = quotedPoints (Point.ofText text) := by
  have points : (Point.ofText text).flatMap quotedPoint =
      text.toList.flatMap (quotedCharacter true) := by
    rw [Point.ofText, Point.ofCharacters, List.flatMap_map]
    rfl
  rw [quoted, quotedCharacters, quotedPoints, points]

end Json

theorem Written.isPrinting_of_isLiteralMark {character : Char}
    (mark : isLiteralMark character = true) : ' ' ≤ character ∧ character ≤ '~' := by
  have between {first last : Char} (low : ' ' ≤ first) (high : last ≤ '~')
      (inside : first ≤ character ∧ character ≤ last) : ' ' ≤ character ∧ character ≤ '~' :=
    ⟨Char.le_trans low inside.1, Char.le_trans inside.2 high⟩
  simp only [isLiteralMark, isNumeral, Identifier.isDigit_iff, Identifier.isAlpha_iff,
    Bool.or_eq_true, beq_iff_eq, List.contains_eq_mem, decide_eq_true_eq, List.mem_cons,
    List.not_mem_nil, or_false] at mark
  rcases mark with (((((digit | rfl) | rfl) | rfl) | rfl) | upper | lower) | punctuation
  case inr => rcases punctuation with rfl | rfl | rfl | rfl | rfl | rfl | rfl <;> decide
  · exact between (by decide) (by decide) digit
  · decide
  · decide
  · decide
  · decide
  · exact between (by decide) (by decide) upper
  · exact between (by decide) (by decide) lower

theorem Written.composable_isPrinting : Composable .log IsPrinting where
  append _ _ := .append
  plain _ plain character member :=
    isPrinting_of_isLiteralMark (List.all_eq_true.mp plain character member)
  quoted text := by
    change IsPrinting (Json.quoted true text).toList
    rw [Json.quoted_eq_quotedPoints]
    exact Json.isPrinting_quotedPoints _

namespace Datum

/-- The data that data notation has, without its numbers with a fraction. Items of lists and
mappings are such data again. -/
inductive IsData : Datum → Prop where
  | null : IsData .null
  | boolean (value : Bool) : IsData (.other (.boolean value))
  | integer (number : Int) : IsData (.other (.integer number))
  | text (points : List Point) : IsData (.text points)
  | list {items : List Datum} (each : ∀ item ∈ items, IsData item) : IsData (.list items)
  | mapping {entries : List (List Point × Datum)} (different : (entries.map Prod.fst).Nodup)
      (each : ∀ entry ∈ entries, IsData entry.2) : IsData (.mapping (underNames entries))

mutual

/-- In no text of the datum, names among them, a high half stands directly before a low one. -/
def Unpaired : Datum → Prop
  | .text points => Point.Unpaired points
  | .list items => UnpairedItems items
  | .mapping entries => UnpairedEntries entries
  | .other _ => True

def UnpairedItems : List Datum → Prop
  | [] => True
  | item :: rest => Unpaired item ∧ UnpairedItems rest

def UnpairedEntries : List (Datum × Datum) → Prop
  | [] => True
  | (key, item) :: rest => Unpaired key ∧ Unpaired item ∧ UnpairedEntries rest

end

theorem unpaired_ofText (text : String) : (ofText text).Unpaired := by
  rw [ofText, Unpaired]
  exact Point.unpaired_ofCharacters text.toList

theorem unpaired_mapping_underNames (fields : List (List Point × Datum)) :
    (mapping (underNames fields)).Unpaired ↔
      ∀ field ∈ fields, Point.Unpaired field.1 ∧ field.2.Unpaired := by
  rw [Unpaired]
  induction fields with
  | nil => simp [underNames, UnpairedEntries]
  | cons field rest ih =>
      change UnpairedEntries ((.text field.1, field.2) :: underNames rest) ↔ _
      rw [UnpairedEntries, Unpaired, ih, List.forall_mem_cons, and_assoc]

open Json

theorem exists_writeItems {items : List Datum} (each : ∀ item ∈ items, ∃ text,
      write item = .ok text ∧ IsPrinting text.toList ∧
        (item.Unpaired → Reads readDatum? text.toList item)) :
    ∃ texts, writeItems items = .ok texts ∧ (∀ text ∈ texts, IsPrinting text.toList) ∧
      (UnpairedItems items →
        List.Forall₂ (fun text item => Reads readDatum? text.toList item) texts items) := by
  induction items with
  | nil => exact ⟨[], by rw [writeItems], by simp, fun _ => .nil⟩
  | cons item rest ih =>
      obtain ⟨text, writes, prints, reads⟩ := each item (by simp)
      obtain ⟨others, writesOthers, printsOthers, readsOthers⟩ :=
        ih fun next member => each next (by simp [member])
      refine ⟨text :: others, by rw [writeItems, writes, writesOthers]; rfl,
        List.forall_mem_cons.mpr ⟨prints, printsOthers⟩, fun unpaired => ?_⟩
      rw [UnpairedItems] at unpaired
      exact .cons (reads unpaired.1) (readsOthers unpaired.2)

theorem exists_writeEntries {entries : List (List Point × Datum)} (each : ∀ entry ∈ entries,
      ∃ text, write entry.2 = .ok text ∧ IsPrinting text.toList ∧
        (entry.2.Unpaired → Reads readDatum? text.toList entry.2)) :
    ∃ texts, writeEntries (underNames entries) = .ok texts ∧
      (∀ text ∈ texts, IsPrinting text.toList) ∧
      (UnpairedEntries (underNames entries) → List.Forall₂
        (fun text entry => Reads (fun depth => readNamed? (readDatum? depth)) text.toList entry)
        texts entries) := by
  induction entries with
  | nil => exact ⟨[], by rw [underNames, List.map_nil, writeEntries], by simp, fun _ => .nil⟩
  | cons entry rest ih =>
      obtain ⟨text, writes, prints, reads⟩ := each entry (by simp)
      obtain ⟨others, writesOthers, printsOthers, readsOthers⟩ :=
        ih fun next member => each next (by simp [member])
      have characters : s!"{quotedPoints entry.1}: {text}".toList =
          (quotedPoints entry.1).toList ++ ':' :: ' ' :: text.toList := by
        simp [toString]
      have printsColon : IsPrinting [':', ' '] := .of_all rfl
      refine ⟨s!"{quotedPoints entry.1}: {text}" :: others, ?_,
        List.forall_mem_cons.mpr ⟨?_, printsOthers⟩, fun unpaired => ?_⟩
      · change writeEntries ((.text entry.1, entry.2) :: underNames rest) = _
        rw [writeEntries, writes, writesOthers]
        rfl
      · rw [characters]
        exact (isPrinting_quotedPoints entry.1).append (printsColon.append prints)
      · change UnpairedEntries ((.text entry.1, entry.2) :: underNames rest) at unpaired
        rw [UnpairedEntries, Unpaired] at unpaired
        obtain ⟨name, item, more⟩ := unpaired
        refine .cons ?_ (readsOthers more)
        rw [characters]
        exact reads_named (readText?_quotedPoints name) (reads item)

/-- Every such datum is written on one line, and is read back from it unless there is a high half
directly before a low one. -/
theorem IsData.exists_write {datum : Datum} (data : datum.IsData) : ∃ text,
    datum.write = .ok text ∧ IsPrinting text.toList ∧
      (datum.Unpaired → Reads readDatum? text.toList datum) := by
  have prints := Written.composable_isPrinting
  induction data with
  | null =>
      exact ⟨"null", by rw [Datum.null, write, Written.write], .of_all rfl, fun _ => reads_null⟩
  | boolean value =>
      exact ⟨Written.truthWord value, by rw [write, Written.write], prints.truthWord value,
        fun _ => reads_truthWord value⟩
  | integer number =>
      exact ⟨toString number, by rw [write, Written.write], prints.integer number,
        fun _ => reads_integer number⟩
  | text points =>
      refine ⟨quotedPoints points, by rw [write], isPrinting_quotedPoints points, fun unpaired => ?_⟩
      rw [Unpaired] at unpaired
      exact reads_quotedPoints unpaired
  | list each ih =>
      obtain ⟨texts, writes, all, reads⟩ := exists_writeItems ih
      refine ⟨Written.arrayText texts, by rw [write, writes]; rfl, prints.arrayText all,
        fun unpaired => ?_⟩
      rw [Unpaired] at unpaired
      exact reads_arrayText (reads unpaired)
  | mapping different each ih =>
      obtain ⟨texts, writes, all, reads⟩ := exists_writeEntries ih
      refine ⟨Written.objectText texts, by rw [write, writes]; rfl, prints.objectText all,
        fun unpaired => ?_⟩
      rw [Unpaired] at unpaired
      exact reads_objectText different (reads unpaired)

theorem putAll_nil_underNames {fields : List (List Point × Datum)}
    (different : (fields.map Prod.fst).Nodup) :
    putAll [] (underNames fields) = underNames fields := by
  rw [putAll, underNames, List.foldl_map]
  exact foldl_put_of_nodup different (by simp)

theorem exists_put_underNames (name : List Point) (item : Datum)
    {fields : List (List Point × Datum)} (different : (fields.map Prod.fst).Nodup) :
    ∃ others, put (.text name) item (underNames fields) = underNames others ∧
      (others.map Prod.fst).Nodup ∧ ∀ field ∈ others, field = (name, item) ∨ field ∈ fields := by
  induction fields with
  | nil => exact ⟨[(name, item)], rfl, by simp, by simp⟩
  | cons field rest ih =>
      obtain ⟨absent, differentRest⟩ := List.nodup_cons.mp different
      change ∃ others, put (.text name) item ((.text field.1, field.2) :: underNames rest) = _ ∧ _
      by_cases same : field.1 = name
      · refine ⟨(field.1, item) :: rest, ?_, different, ?_⟩
        · rw [put, if_pos ((alike_text_iff _ _).mpr (by rw [same]))]
          rfl
        · rw [same]
          exact List.forall_mem_cons.mpr
            ⟨.inl rfl, fun next member => .inr (List.mem_cons_of_mem _ member)⟩
      · obtain ⟨others, puts, differentOthers, among⟩ := ih differentRest
        have unlike : ¬ alike (.text name) (.text field.1) = true := by
          rw [alike_text_iff, text.injEq]
          exact same
        refine ⟨field :: others, ?_, List.nodup_cons.mpr ⟨fun present => ?_, differentOthers⟩, ?_⟩
        · rw [put, if_neg unlike, puts]
          rfl
        · obtain ⟨next, member, equal⟩ := List.mem_map.mp present
          rcases among next member with rfl | old
          · exact same equal.symm
          · exact absent (List.mem_map.mpr ⟨next, old, equal⟩)
        · exact List.forall_mem_cons.mpr ⟨.inr List.mem_cons_self, fun next member =>
            (among next member).imp_right (List.mem_cons_of_mem _)⟩

/-- Entries under names put after others are entries under names again, taken from both. -/
theorem exists_putAll_underNames {fields : List (List Point × Datum)}
    (different : (fields.map Prod.fst).Nodup) (added : List (List Point × Datum)) :
    ∃ others, putAll (underNames fields) (underNames added) = underNames others ∧
      (others.map Prod.fst).Nodup ∧ ∀ field ∈ others, field ∈ added ∨ field ∈ fields := by
  induction added generalizing fields with
  | nil => exact ⟨fields, rfl, different, fun _ => .inr⟩
  | cons first rest ih =>
      obtain ⟨middle, puts, differentMiddle, fromMiddle⟩ :=
        exists_put_underNames first.1 first.2 different
      obtain ⟨others, putsRest, differentOthers, fromOthers⟩ := ih differentMiddle
      refine ⟨others, ?_, differentOthers, fun field member => ?_⟩
      · change putAll (put (.text first.1) first.2 (underNames fields)) (underNames rest) = _
        rw [puts, putsRest]
      · rcases fromOthers field member with later | earlier
        · exact .inl (List.mem_cons_of_mem _ later)
        · rcases fromMiddle field earlier with rfl | old
          · exact .inl List.mem_cons_self
          · exact .inr old

theorem find?_underNames (name : List Point) (fields : List (List Point × Datum)) :
    find? (.text name) (underNames fields) = fields.lookup name := by
  induction fields with
  | nil => rfl
  | cons field rest ih =>
      change find? (.text name) ((.text field.1, field.2) :: underNames rest) = _
      rw [find?_cons, List.lookup_cons, ih]
      by_cases same : name = field.1
      · rw [if_pos ((alike_text_iff _ _).mpr (by rw [same])), beq_iff_eq.mpr same]
      · have other : ¬ alike (.text name) (.text field.1) = true := by
          rw [alike_text_iff, text.injEq]
          exact Ne.symm same
        rw [if_neg other, beq_eq_false_iff_ne.mpr same]

theorem IsData.unfolded {datum : Datum} (data : datum.IsData) : datum.unfolded = .ok datum := by
  induction data with
  | null | boolean value | integer number | text points => rfl
  | @list items each ih =>
      have all : unfoldedItems items = .ok items := by
        clear each
        induction items with
        | nil => rfl
        | cons item rest restIH =>
            rw [unfoldedItems, ih item (by simp),
              restIH fun next member => ih next (by simp [member])]
            rfl
      rw [Datum.unfolded, all]
      rfl
  | @mapping entries different each ih =>
      have all : unfoldedEntries (underNames entries) = .ok (underNames entries) := by
        clear different each
        induction entries with
        | nil => rfl
        | cons entry rest restIH =>
            change unfoldedEntries ((.text entry.1, entry.2) :: underNames rest) = _
            rw [unfoldedEntries, ih entry (by simp),
              restIH fun next member => ih next (by simp [member])]
            rfl
      have hashable : (underNames entries).findSome? (fun entry => unhashableClass? entry.1) =
          none := by
        rw [List.findSome?_eq_none_iff]
        intro present member
        obtain ⟨entry, -, rfl⟩ := List.mem_map.mp member
        rfl
      rw [Datum.unfolded, all]
      change mappingOf (underNames entries) = _
      rw [mappingOf, hashable, putAll_nil_underNames different]

end Datum
end TypedTables
