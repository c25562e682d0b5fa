import Mathlib.Data.List.Nodup
import TypedTables.Proofs.Json.RoundTrip

/-!
# Values of data notation

Null, truth values, whole numbers, texts, lists of such values and mappings with them under names
are written in either style, and what is written is read back. The literal of such a value stands for
it alone, and the literal of a text ends where the text does, whatever is put after it.
-/

namespace TypedTables

def Value.underNames (entries : List (String × Value)) : List (Value × Value) :=
  entries.map fun entry => (.text entry.1, entry.2)

/-- The values that data notation has, without its numbers with a fraction. Items of lists and
mappings are such values again. -/
inductive Value.IsData : Value → Prop where
  | null : IsData .null
  | boolean (value : Bool) : IsData (.boolean value)
  | integer (number : Int) : IsData (.integer number)
  | text (text : String) : IsData (.text text)
  | list {items : List Value} (each : ∀ item ∈ items, IsData item) : IsData (.list items)
  | mapping {entries : List (String × Value)} (different : (entries.map Prod.fst).Nodup)
      (each : ∀ entry ∈ entries, IsData entry.2) : IsData (.mapping (Value.underNames entries))

namespace Point

theorem text?_ofText (text : String) : text? (ofText text) = some text := by
  have all (characters : List Char) :
      (ofCharacters characters).mapM character? = some characters := by
    induction characters with
    | nil => rfl
    | cons first rest ih =>
        rw [ofCharacters, List.map_cons, List.mapM_cons]
        change (some first).bind _ = _
        simp only [ofCharacters] at ih
        simp [ih]
  rw [text?, ofText, all, Option.map_some, String.ofList_toList]

theorem ofText_injective : Function.Injective ofText := by
  intro first second same
  have texts := congrArg text? same
  rwa [text?_ofText, text?_ofText, Option.some.injEq] at texts

end Point

namespace Datum

mutual

/-- A value is found again in its datum. -/
theorem value?_ofValue (value : Value) : (ofValue value).value? = some value := by
  cases value with
  | text characters => rw [ofValue, ofText, value?, Point.text?_ofText, Option.map_some]
  | list items => rw [ofValue, value?, values?_ofValues items, Option.map_some]
  | mapping entries => rw [ofValue, value?, valueEntries?_ofEntries entries, Option.map_some]
  | _ => simp only [ofValue, value?]
termination_by structural value

theorem values?_ofValues (items : List Value) : values? (ofValues items) = some items := by
  cases items with
  | nil => rw [ofValues, values?]
  | cons item rest =>
      rw [ofValues, values?, value?_ofValue item, values?_ofValues rest]
      rfl
termination_by structural items

theorem valueEntries?_ofEntries (entries : List (Value × Value)) :
    valueEntries? (ofEntries entries) = some entries := by
  cases entries with
  | nil => rw [ofEntries, valueEntries?]
  | cons entry rest =>
      rcases entry with ⟨key, item⟩
      rw [ofEntries, valueEntries?, value?_ofValue key, value?_ofValue item,
        valueEntries?_ofEntries rest]
      rfl
termination_by structural entries

end

def named (entries : List (String × Value)) : List (List Point × Datum) :=
  entries.map fun entry => (Point.ofText entry.1, ofValue entry.2)

theorem ofEntries_underNames (entries : List (String × Value)) :
    ofEntries (Value.underNames entries) = underNames (named entries) := by
  induction entries with
  | nil => rfl
  | cons entry rest ih =>
      change (ofText entry.1, ofValue entry.2) :: ofEntries (Value.underNames rest) = _
      rw [ih]
      rfl

theorem nodup_named {entries : List (String × Value)} (different : (entries.map Prod.fst).Nodup) :
    ((named entries).map Prod.fst).Nodup := by
  have names : (named entries).map Prod.fst = (entries.map Prod.fst).map Point.ofText := by
    simp [named]
  rw [names]
  exact List.Nodup.map Point.ofText_injective different

end Datum

namespace Written

open Json

variable {style : WritingStyle}

theorem exists_writeItems {items : List Value}
    (each : ∀ item ∈ items, ∃ text,
      write style item = .ok text ∧ Reads readDatum? text.toList (.ofValue item)) :
    ∃ texts, writeItems style items = .ok texts ∧
      List.Forall₂ (fun text item => Reads readDatum? text.toList item) texts
        (Datum.ofValues items) := by
  induction items with
  | nil => exact ⟨[], by rw [writeItems], .nil⟩
  | cons item rest ih =>
      obtain ⟨text, writes, reads⟩ := each item (by simp)
      obtain ⟨others, writesOthers, readsOthers⟩ := ih fun next member => each next (by simp [member])
      refine ⟨text :: others, ?_, .cons reads readsOthers⟩
      rw [writeItems, writes, writesOthers]
      rfl

theorem exists_writeEntries {entries : List (String × Value)}
    (each : ∀ entry ∈ entries, ∃ text,
      write style entry.2 = .ok text ∧ Reads readDatum? text.toList (.ofValue entry.2)) :
    ∃ texts, writeEntries style (Value.underNames entries) = .ok texts ∧
      List.Forall₂
        (fun text entry => Reads (fun depth => readNamed? (readDatum? depth)) text.toList entry)
        texts (Datum.named entries) := by
  induction entries with
  | nil => exact ⟨[], by rw [Value.underNames, List.map_nil, writeEntries], .nil⟩
  | cons entry rest ih =>
      obtain ⟨text, writes, reads⟩ := each entry (by simp)
      obtain ⟨others, writesOthers, readsOthers⟩ := ih fun next member => each next (by simp [member])
      refine ⟨s!"{quoted style.asciiOnly entry.1}: {text}" :: others, ?_, .cons ?_ readsOthers⟩
      · show writeEntries style ((.text entry.1, entry.2) :: Value.underNames rest) = _
        rw [writeEntries, writes, writesOthers]
        rfl
      · have characters : s!"{quoted style.asciiOnly entry.1}: {text}".toList =
            (quoted style.asciiOnly entry.1).toList ++ ':' :: ' ' :: text.toList := by
          simp [toString]
        rw [characters]
        exact reads_named (readText?_quoted style.asciiOnly entry.1) reads

theorem exists_write (style : WritingStyle) {value : Value} (data : value.IsData) :
    ∃ text, write style value = .ok text ∧ Reads readDatum? text.toList (.ofValue value) := by
  induction data with
  | null => exact ⟨"null", by rw [write], reads_null⟩
  | boolean value => exact ⟨truthWord value, by rw [write], reads_truthWord value⟩
  | integer number => exact ⟨toString number, by rw [write], reads_integer number⟩
  | text text =>
      exact ⟨quoted style.asciiOnly text, by rw [write], reads_quoted style.asciiOnly text⟩
  | list each ih =>
      obtain ⟨texts, writes, reads⟩ := exists_writeItems ih
      exact ⟨arrayText texts, by rw [write, writes]; rfl, reads_arrayText reads⟩
  | mapping different each ih =>
      obtain ⟨texts, writes, reads⟩ := exists_writeEntries ih
      refine ⟨objectText texts, by rw [write, writes]; rfl, ?_⟩
      rw [Datum.ofValue, Datum.ofEntries_underNames]
      exact reads_objectText (Datum.nodup_named different) reads

end Written

theorem Json.decode?_of_reads {text : String} {datum : Datum}
    (reads : Json.Reads Json.readDatum? text.toList datum) : Json.decode? text = some datum := by
  have takes := reads text.toList.length (Nat.le_refl _)
  have solid := Json.skipBlanks_append takes.opens []
  have whole := takes.reads [] Json.endsNumber_nil
  rw [List.append_nil] at solid whole
  simp only [Json.decode?, solid, whole]
  rfl

namespace Value

/-- The value of a literal; null alone stands in capitals. -/
def ofLiteral? (text : String) : Option Value :=
  if text = "NULL" then some .null else (Json.decode? text).bind Datum.value?

theorem exists_literal {value : Value} (data : value.IsData) :
    ∃ written, value.literal = .ok written ∧ ofLiteral? written = some value := by
  cases null : value.isNull with
  | true =>
      cases value with
      | null => exact ⟨"NULL", rfl, rfl⟩
      | _ => cases null
  | false =>
      obtain ⟨written, writes, reads⟩ := Written.exists_write .literal data
      have decodes := Json.decode?_of_reads reads
      have lower : written ≠ "NULL" := by
        rintro rfl
        have refused : (Json.decode? "NULL").isNone = true := by decide
        rw [decodes] at refused
        cases refused
      refine ⟨written, ?_, ?_⟩
      · rw [literal, null]
        exact writes
      · rw [ofLiteral?, if_neg lower, decodes, Option.bind_some, Datum.value?_ofValue]

theorem readFront?_quoted (text : String) (rest : List Char) :
    Json.readFront? ((Json.quoted false text).toList ++ rest) = some (.text text, rest) := by
  obtain ⟨body, quote, reads⟩ := Json.readText?_quoted false text rest
  rw [quote, List.cons_append, Json.readFront?, List.length_cons, Json.readDatum?, if_pos rfl,
    reads]
  simp [Datum.value?, Point.text?_ofText]

/-- The literal of a value is read back as the value, stands for no other, and, where it is the
literal of a text, ends nowhere before its own end. -/
theorem ofLiteral?_literal {value : Value} (data : value.IsData) :
    ∃ written, value.literal = .ok written ∧ ofLiteral? written = some value ∧
      (∀ other : Value, other.IsData → other.literal = .ok written → other = value) ∧
      (value.isText = true → ∀ rest : List Char,
        Json.readFront? (written.toList ++ rest) = some (value, rest)) := by
  obtain ⟨written, writes, reads⟩ := exists_literal data
  refine ⟨written, writes, reads, fun other otherData otherWrites => ?_, fun isText rest => ?_⟩
  · obtain ⟨again, writesAgain, readsAgain⟩ := exists_literal otherData
    have same : again = written := Except.ok.inj (writesAgain.symm.trans otherWrites)
    rw [same, reads] at readsAgain
    exact (Option.some.inj readsAgain).symm
  · cases value with
    | text text =>
        have quote : (Value.text text).literal = .ok (Json.quoted false text) := by
          simp [literal, isNull, Written.write, WritingStyle.asciiOnly]
        have same : Json.quoted false text = written := Except.ok.inj (quote.symm.trans writes)
        rw [← same]
        exact readFront?_quoted text rest
    | _ => cases isText

/-- Marks, a line end and null inside a mapping. -/
def nestedData : Value :=
  .mapping (underNames
    [("a\"b\n", .list [.null, .boolean true, .integer (-12)]), ("", .text "é\\\x00")])

theorem isData_nestedData : nestedData.IsData := by
  refine .mapping (by decide) ?_
  simp only [List.forall_mem_cons]
  refine ⟨.list ?_, .text _, nofun⟩
  simp only [List.forall_mem_cons]
  exact ⟨.null, .boolean true, .integer (-12), nofun⟩

theorem ofLiteral?_literal_nestedData :
    (∃ written, nestedData.literal = .ok written ∧ ofLiteral? written = some nestedData) ∧
      ∃ written, (Value.text "\"\n").literal = .ok written ∧
        Json.readFront? (written.toList ++ ['\x22']) = some (.text "\"\n", ['\x22']) := by
  obtain ⟨written, writes, reads, -, -⟩ := ofLiteral?_literal isData_nestedData
  obtain ⟨quoted, quotes, -, -, front⟩ := ofLiteral?_literal (.text "\"\n")
  exact ⟨⟨written, writes, reads⟩, quoted, quotes, front rfl ['\x22']⟩

end Value
end TypedTables
