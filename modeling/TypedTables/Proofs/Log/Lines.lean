import TypedTables.Log.Line
import TypedTables.Proofs.Log.Data

/-!
# Lines of data

A line of data holds one object of data notation, written with printing characters only. Whatever
the message, the names and the entries hold, nothing in them ends the line or passes for a part of
it. Where no high half stands directly before a low one, the line is read back as its parts, each
under its own name; two such halves are read as the one character that they are the halves of.
-/

namespace TypedTables

open Datum (underNames)
open Text (IsPrinting)

structure DataFields (fields : List (List Point × Datum)) : Prop where
  different : (fields.map Prod.fst).Nodup
  each : ∀ field ∈ fields, field.2.IsData

theorem DataFields.isData {fields : List (List Point × Datum)} (data : DataFields fields) :
    (Datum.mapping (underNames fields)).IsData :=
  .mapping data.different data.each

/-! ## Parts that are there -/

namespace Log

theorem mem_map_fst_presentFields {name : List Point} {fields : List (List Point × Option Datum)}
    (member : name ∈ (presentFields fields).map Prod.fst) : name ∈ fields.map Prod.fst := by
  obtain ⟨field, present, rfl⟩ := List.mem_map.mp member
  obtain ⟨⟨other, part⟩, among, brings⟩ := List.mem_filterMap.mp present
  obtain ⟨datum, -, rfl⟩ := Option.map_eq_some_iff.mp brings
  exact List.mem_map.mpr ⟨_, among, rfl⟩

/-- The names of the parts that are there are among all names, in the same order. -/
theorem map_fst_presentFields_sublist (fields : List (List Point × Option Datum)) :
    ((presentFields fields).map Prod.fst).Sublist (fields.map Prod.fst) := by
  induction fields with
  | nil => exact .slnil
  | cons field rest ih =>
      rcases field with ⟨name, none | datum⟩
      · exact ih.cons name
      · exact ih.cons_cons name

theorem lookup_presentFields {fields : List (List Point × Option Datum)}
    (different : (fields.map Prod.fst).Nodup) (name : List Point) :
    (presentFields fields).lookup name = (fields.lookup name).join := by
  induction fields with
  | nil => rfl
  | cons field rest ih =>
      obtain ⟨absent, differentRest⟩ := List.nodup_cons.mp different
      have later := ih differentRest
      rcases field with ⟨first, none | datum⟩
      · change (presentFields rest).lookup name = _
        by_cases same : name = first
        · subst same
          rw [List.lookup_cons_self]
          apply List.lookup_eq_none_iff.mpr
          intro entry member
          rw [bne_iff_ne]
          rintro rfl
          exact absent (mem_map_fst_presentFields (List.mem_map_of_mem member))
        · rw [List.lookup_cons, beq_eq_false_iff_ne.mpr same, later]
      · change List.lookup name ((first, datum) :: presentFields rest) = _
        by_cases same : name = first
        · subst same
          rw [List.lookup_cons_self, List.lookup_cons_self]
          rfl
        · rw [List.lookup_cons, List.lookup_cons, beq_eq_false_iff_ne.mpr same]
          exact later

theorem mem_of_mem_presentFields {fields : List (List Point × Option Datum)}
    {field : List Point × Datum} (member : field ∈ presentFields fields) :
    (field.1, some field.2) ∈ fields := by
  obtain ⟨⟨name, part⟩, among, brings⟩ := List.mem_filterMap.mp member
  obtain ⟨datum, there, rfl⟩ := Option.map_eq_some_iff.mp brings
  change part = some datum at there
  rw [there] at among
  exact among

theorem dataFields_presentFields {fields : List (List Point × Option Datum)}
    (different : (fields.map Prod.fst).Nodup)
    (each : ∀ field ∈ fields, ∀ datum, field.2 = some datum → datum.IsData) :
    DataFields (presentFields fields) where
  different := different.sublist (map_fst_presentFields_sublist fields)
  each _ member := each _ (mem_of_mem_presentFields member) _ rfl

end Log

/-! ## Contexts -/

/-- Null or a text. -/
def Datum.IsTextOrNull (datum : Datum) : Prop := datum = .null ∨ ∃ points, datum = .text points

/-- A datum that is there. -/
def Datum.unlessNull (datum : Datum) : Option Datum := if datum.isNull then none else some datum

namespace LogContext

structure IsPlain (context : LogContext) (extra : List (List Point × Datum)) : Prop where
  parts : ∀ part ∈ context.parts, part.2.IsTextOrNull
  adds : context.extra = underNames extra
  data : DataFields extra

/-- In no text of the context a high half stands directly before a low one. -/
structure Unpaired (context : LogContext) : Prop where
  parts : ∀ part ∈ context.parts, part.2.Unpaired
  extra : (Datum.mapping context.extra).Unpaired

/-- What a context says under a name: the further entry of the name, else the part of the name. -/
def item? (context : LogContext) (name : List Point) : Option Datum :=
  (Datum.find? (.text name) context.extra).or
    ((context.parts.lookup name).bind Datum.unlessNull)

/-- The parts, each if it is there. -/
def partFields (parts : List (List Point × Datum)) : List (List Point × Option Datum) :=
  parts.map fun (name, datum) => (name, datum.unlessNull)

theorem presentParts_eq {parts : List (List Point × Datum)}
    (plain : ∀ part ∈ parts, part.2.IsTextOrNull) :
    presentParts parts = .ok (underNames (Log.presentFields (partFields parts))) := by
  induction parts with
  | nil => rfl
  | cons part rest ih =>
      have others := ih fun next member => plain next (List.mem_cons_of_mem _ member)
      rcases part with ⟨name, datum⟩
      rcases plain (name, datum) List.mem_cons_self with null | ⟨points, isText⟩
      · cases null
        rw [presentParts, others]
        rfl
      · cases isText
        rw [presentParts, others]
        rfl

theorem lookup_partFields (parts : List (List Point × Datum)) (name : List Point) :
    (partFields parts).lookup name = (parts.lookup name).map Datum.unlessNull := by
  induction parts with
  | nil => rfl
  | cons part rest ih =>
      change List.lookup name ((part.1, part.2.unlessNull) :: partFields rest) = _
      rw [List.lookup_cons, List.lookup_cons, ih]
      cases name == part.1 <;> rfl

theorem map_fst_partFields (context : LogContext) : (partFields context.parts).map Prod.fst =
    ["table", "field", "statement", "component", "operation"].map Point.ofText := rfl

theorem nodup_partFields (context : LogContext) :
    ((partFields context.parts).map Prod.fst).Nodup := by
  rw [map_fst_partFields]
  exact List.Nodup.map Point.ofText_injective (by decide)

theorem exists_part {context : LogContext} {extra : List (List Point × Datum)}
    (plain : context.IsPlain extra) {name : List Point} {datum : Datum}
    (member : (name, some datum) ∈ partFields context.parts) :
    (name, datum) ∈ context.parts ∧ ∃ points, datum = .text points := by
  obtain ⟨⟨other, part⟩, among, same⟩ := List.mem_map.mp member
  obtain ⟨rfl, there⟩ := Prod.mk.injEq .. ▸ same
  rcases plain.parts _ among with null | ⟨points, isText⟩
  · change part = .null at null
    rw [null] at there
    cases there
  · change part = .text points at isText
    rw [isText] at there among
    cases there
    exact ⟨among, points, rfl⟩

theorem exists_entries {context : LogContext} {extra : List (List Point × Datum)}
    (plain : context.IsPlain extra) :
    ∃ fields, context.entries = .ok (underNames fields) ∧ DataFields fields ∧
      (context.Unpaired → (Datum.mapping (underNames fields)).Unpaired) ∧
      ∀ name, fields.lookup name = context.item? name := by
  have different := nodup_partFields context
  have named : DataFields (Log.presentFields (partFields context.parts)) :=
    Log.dataFields_presentFields different fun field member datum there => by
      rcases field with ⟨name, part⟩
      cases there
      obtain ⟨-, points, rfl⟩ := exists_part plain member
      exact .text points
  obtain ⟨fields, merged, differentFields, among⟩ :=
    Datum.exists_putAll_underNames named.different extra
  have data : DataFields fields := ⟨differentFields, fun field member =>
    (among field member).elim (plain.data.each field) (named.each field)⟩
  refine ⟨fields, ?_, data, fun unpaired => ?_, fun name => ?_⟩
  · have unfolds : (Datum.mapping context.extra).unfolded = .ok (.mapping context.extra) := by
      rw [plain.adds]
      exact plain.data.isData.unfolded
    rw [entries, presentParts_eq plain.parts, unfolds, plain.adds, ← merged]
    rfl
  · have added := unpaired.extra
    rw [plain.adds, Datum.unpaired_mapping_underNames] at added
    refine (Datum.unpaired_mapping_underNames fields).mpr fun field member => ?_
    rcases among field member with ofExtra | ofParts
    · exact added field ofExtra
    · have there := Log.mem_of_mem_presentFields ofParts
      have isName := List.mem_map_of_mem (f := Prod.fst) there
      rw [map_fst_partFields] at isName
      exact ⟨Point.unpaired_of_mem_map_ofText isName,
        unpaired.parts _ (exists_part plain there).1⟩
  · -- The further entries have distinct names, so that the last of a name is the first.
    have last := Datum.find?_text_putAll name [] (underNames extra)
    rw [Datum.putAll_nil_underNames plain.data.different] at last
    rw [← Datum.find?_underNames, ← merged, Datum.find?_text_putAll, item?, plain.adds, last,
      Datum.find?_underNames _ (Log.presentFields _), Log.lookup_presentFields different,
      lookup_partFields]
    cases context.parts.lookup name <;> simp [Datum.find?]

end LogContext

/-! ## Lines -/

namespace Log

/-- What the record tells: this message, no failure, and these attached entries. No entries may be
attached as an empty mapping or not at all. -/
structure Record.Tells (record : Record) (message : List Point)
    (attached : List (List Point × Datum)) : Prop where
  message : record.message.text = .ok message
  failure : record.failure = none
  attaches : record.attached = some (.mapping (underNames attached)) ∨
    record.attached = none ∧ attached = []
  data : DataFields attached

/-- In no text of what is written a high half stands directly before a low one. -/
structure Unpaired (level : List Point) (context : LogContext) (record : Record)
    (message : List Point) (attached : List (List Point × Datum)) : Prop where
  level : Point.Unpaired level
  logger : Point.Unpaired record.logger
  message : Point.Unpaired message
  context : context.Unpaired
  attached : (Datum.mapping (underNames attached)).Unpaired

/-- What can be found in the object of a line: nothing but its own parts, each at most once, with
the message, the level, the logger, the context and the attached entries as they were given. -/
structure LineTells (parts : LineParts) (moment : Timestamp) (level : List Point)
    (context : LogContext) (record : Record) (message : List Point)
    (attached : List (List Point × Datum)) (entries : List (Datum × Datum)) : Prop where
  names : (entries.map Prod.fst).Sublist (["timestamp", "level", "logger", "message", "context",
    "data", "exception", "source"].map .ofText)
  moment : Datum.find? (.ofText "timestamp") entries =
    if parts.moment then some (.ofText (momentText moment)) else none
  level : Datum.find? (.ofText "level") entries = if parts.level then some (.text level) else none
  logger : Datum.find? (.ofText "logger") entries =
    if parts.logger then some (.text record.logger) else none
  message : Datum.find? (.ofText "message") entries = some (.text message)
  context_iff : (Datum.find? (.ofText "context") entries).isSome = true ↔
    parts.context = true ∧ ∃ name datum, context.item? name = some datum
  context_eq (shown : Datum) (found : Datum.find? (.ofText "context") entries = some shown) :
    ∃ fields, shown = .mapping (underNames fields) ∧ (fields.map Prod.fst).Nodup ∧
      ∀ name, fields.lookup name = context.item? name
  data : Datum.find? (.ofText "data") entries =
    if attached.isEmpty then none else some (.mapping (underNames attached))
  failure : Datum.find? (.ofText "exception") entries = none
  source : Datum.find? (.ofText "source") entries = some (sourcePart record)

section Line

variable {parts : LineParts} {moment : Timestamp} {level message : List Point}
  {context : LogContext} {record : Record} {extra attached fields : List (List Point × Datum)}

theorem Record.Tells.attachment?_eq (tells : record.Tells message attached) :
    record.attachment? =
      if attached.isEmpty then none else some (.mapping (underNames attached)) := by
  rw [attachment?]
  rcases tells.attaches with some | ⟨none, empty⟩
  · rw [some]
    cases attached <;> rfl
  · rw [none, empty]
    rfl

theorem eq_of_partWhen {isWritten : Bool} {part datum : Datum}
    (written : partWhen isWritten part = some datum) : datum = part := by
  cases isWritten with
  | false => cases written
  | true =>
      cases written
      rfl

theorem sourcePart_eq (record : Record) : sourcePart record =
    .mapping (underNames [(Point.ofText "file", .ofText record.fileName),
      (Point.ofText "line", .other (.integer record.line)),
      (Point.ofText "function", textOrNull record.function)]) := rfl

theorem isData_sourcePart (record : Record) : (sourcePart record).IsData := by
  have function : (textOrNull record.function).IsData := by
    cases record.function with
    | none => exact .null
    | some name => exact .text _
  rw [sourcePart_eq]
  refine .mapping ?_ ?_
  · change (["file", "line", "function"].map Point.ofText).Nodup
    exact List.Nodup.map Point.ofText_injective (by decide)
  · simp only [List.forall_mem_cons]
    exact ⟨.text _, .integer _, function, nofun⟩

theorem unpaired_sourcePart (record : Record) : (sourcePart record).Unpaired := by
  have name (text : String) : Point.Unpaired (Point.ofText text) :=
    Point.unpaired_ofCharacters text.toList
  have function : (textOrNull record.function).Unpaired := by
    cases record.function with
    | none => trivial
    | some text => exact Datum.unpaired_ofText text
  rw [sourcePart_eq, Datum.unpaired_mapping_underNames]
  simp only [List.forall_mem_cons]
  exact ⟨⟨name _, Datum.unpaired_ofText _⟩, ⟨name _, trivial⟩, ⟨name _, function⟩, nofun⟩

theorem isData_of_mem_dataFields (shown : DataFields fields)
    (tells : record.Tells message attached) :
    ∀ field ∈ dataFields parts moment level (underNames fields) message record,
      ∀ datum, field.2 = some datum → datum.IsData := by
  simp only [dataFields, List.forall_mem_cons, tells.failure, tells.attachment?_eq]
  refine ⟨fun _ written => ?_, fun _ written => ?_, fun _ written => ?_, ?_,
    fun _ written => ?_, ?_, nofun, ?_, nofun⟩
  · exact eq_of_partWhen written ▸ .text _
  · exact eq_of_partWhen written ▸ .text _
  · exact eq_of_partWhen written ▸ .text _
  · rintro datum ⟨⟩
    exact .text _
  · exact eq_of_partWhen written ▸ shown.isData
  · intro datum written
    split at written
    · cases written
    · cases written
      exact tells.data.isData
  · rintro datum ⟨⟩
    exact isData_sourcePart record

theorem unpaired_of_mem_dataFields (shown : (Datum.mapping (underNames fields)).Unpaired)
    (tells : record.Tells message attached)
    (unpaired : Unpaired level context record message attached) :
    ∀ field ∈ dataFields parts moment level (underNames fields) message record,
      ∀ datum, field.2 = some datum → datum.Unpaired := by
  have text {points : List Point} (single : Point.Unpaired points) :
      (Datum.text points).Unpaired := by
    rw [Datum.Unpaired]
    exact single
  simp only [dataFields, List.forall_mem_cons, tells.failure, tells.attachment?_eq]
  refine ⟨fun _ written => ?_, fun _ written => ?_, fun _ written => ?_, fun _ written => ?_,
    fun _ written => ?_, fun _ written => ?_, fun _ none => (by cases none), fun _ written => ?_,
    fun _ none => by cases none⟩
  · exact eq_of_partWhen written ▸ Datum.unpaired_ofText _
  · exact eq_of_partWhen written ▸ text unpaired.level
  · exact eq_of_partWhen written ▸ text unpaired.logger
  · cases written
    exact text unpaired.message
  · exact eq_of_partWhen written ▸ shown
  · split at written
    · cases written
    · cases written
      exact unpaired.attached
  · cases written
    exact unpaired_sourcePart record

theorem map_fst_dataFields (entries : List (Datum × Datum)) :
    (dataFields parts moment level entries message record).map Prod.fst =
      ["timestamp", "level", "logger", "message", "context", "data", "exception", "source"].map
        Point.ofText := rfl

theorem nodup_dataFields (entries : List (Datum × Datum)) :
    ((dataFields parts moment level entries message record).map Prod.fst).Nodup := by
  rw [map_fst_dataFields]
  exact List.Nodup.map Point.ofText_injective (by decide)

theorem find?_dataParts (entries : List (Datum × Datum)) (name : String) :
    Datum.find? (.ofText name) (dataParts parts moment level entries message record) =
      ((dataFields parts moment level entries message record).lookup (Point.ofText name)).join := by
  rw [← lookup_presentFields (nodup_dataFields entries), ← Datum.find?_underNames]
  rfl

/-- A line holds no halves that would be joined, when what is written holds none. -/
theorem unpaired_dataParts (shown : (Datum.mapping (underNames fields)).Unpaired)
    (tells : record.Tells message attached)
    (unpaired : Unpaired level context record message attached) :
    (Datum.mapping
      (dataParts parts moment level (underNames fields) message record)).Unpaired := by
  refine (Datum.unpaired_mapping_underNames _).mpr fun field member => ?_
  have there := mem_of_mem_presentFields member
  have isName := List.mem_map_of_mem (f := Prod.fst) there
  rw [map_fst_dataFields] at isName
  exact ⟨Point.unpaired_of_mem_map_ofText isName,
    unpaired_of_mem_dataFields shown tells unpaired _ there _ rfl⟩

theorem exists_lookup_iff (fields : List (List Point × Datum)) :
    (∃ name datum, fields.lookup name = some datum) ↔ fields.isEmpty = false := by
  cases fields with
  | nil => simp
  | cons field rest => exact ⟨fun _ => rfl, fun _ => ⟨_, _, List.lookup_cons_self⟩⟩

theorem find?_context_dataParts (fields : List (List Point × Datum)) :
    Datum.find? (.ofText "context") (dataParts parts moment level
      (if parts.context then underNames fields else []) message record) =
        if parts.context && !fields.isEmpty then some (.mapping (underNames fields)) else none := by
  rw [find?_dataParts]
  change (some (partWhen (parts.context && _) _)).join = _
  cases parts.context with
  | false => rfl
  | true => cases fields <;> rfl

/-- What the fields of a line tell, when they are written with the entries of the context. -/
theorem lineTells_dataParts (tells : record.Tells message attached)
    (finds : ∀ name, fields.lookup name = context.item? name)
    (different : (fields.map Prod.fst).Nodup) :
    LineTells parts moment level context record message attached
      (dataParts parts moment level (if parts.context then underNames fields else []) message
        record) where
  names := by
    have texts := (map_fst_presentFields_sublist (dataFields parts moment level
      (if parts.context then underNames fields else []) message record)).map Datum.text
    rw [List.map_map, map_fst_dataFields, List.map_map] at texts
    rw [dataParts, List.map_map]
    exact texts
  moment := by
    rw [find?_dataParts]
    rfl
  level := by
    rw [find?_dataParts]
    rfl
  logger := by
    rw [find?_dataParts]
    rfl
  message := by
    rw [find?_dataParts]
    rfl
  context_iff := by
    simp only [← finds]
    rw [find?_context_dataParts, exists_lookup_iff]
    cases parts.context <;> cases fields.isEmpty <;> simp
  context_eq written found := by
    rw [find?_context_dataParts] at found
    split at found
    · cases found
      exact ⟨fields, rfl, different, finds⟩
    · cases found
  data := by
    rw [find?_dataParts, ← tells.attachment?_eq]
    rfl
  failure := by
    rw [find?_dataParts]
    change (some (record.failure.map _)).join = _
    rw [tells.failure]
    rfl
  source := by
    rw [find?_dataParts]
    rfl

/-- A line of data is one line of printing ASCII characters, whatever the message, the level, the
names and the entries hold. Where in no text of them a high half stands directly before a low one,
it is read back as an object of its parts: the message, the level, the logger, what the context says
under each name, and the attached entries, as they were given. -/
theorem dataLineOf_reads_back (parts : LineParts) (moment : Timestamp) (level : List Point)
    (plain : context.IsPlain extra) (tells : record.Tells message attached) :
    ∃ line, dataLineOf parts moment level context record = .ok line ∧ IsPrinting line.toList ∧
      (Unpaired level context record message attached →
        ∃ entries, Json.decode? line = some (.mapping entries) ∧
          LineTells parts moment level context record message attached entries) := by
  obtain ⟨fields, gives, shown, unpairedFields, finds⟩ := LogContext.exists_entries plain
  have named : (if parts.context then underNames fields else []) =
      underNames (if parts.context then fields else []) := by
    cases parts.context <;> rfl
  have written : DataFields (if parts.context then fields else []) := by
    cases parts.context with
    | false => exact ⟨.nil, by simp⟩
    | true => exact shown
  have entries : (if parts.context then context.entries else .ok []) =
      .ok (if parts.context then underNames fields else []) := by
    rw [gives]
    cases parts.context <;> rfl
  have data : (Datum.mapping (dataParts parts moment level
      (underNames (if parts.context then fields else [])) message record)).IsData :=
    (dataFields_presentFields (nodup_dataFields _) (isData_of_mem_dataFields written tells)).isData
  obtain ⟨line, writes, prints, reads⟩ := data.exists_write
  refine ⟨line, ?_, prints, fun unpaired => ⟨_, Json.decode?_of_reads (reads ?_), ?_⟩⟩
  · rw [dataLineOf, tells.message]
    simp only [Except.bind, entries, named]
    exact writes
  · refine unpaired_dataParts ?_ tells unpaired
    cases parts.context with
    | false => trivial
    | true => exact unpairedFields unpaired.context
  · rw [← named]
    exact lineTells_dataParts tells finds shown.different

end Line

/-- A record without a context, whose message is made of two code units by their numbers. -/
def halvesRecord : Record :=
  { logger := Point.ofText "t", level := 20, file := "dir/a.py", line := 1
    message := .filled "%c%c" [.integer 0xd83d, .integer 0xde00]
    function := none, attached := none, failure := none }

/-- The character that the two code units are the halves of. -/
def wholeRecord : Record :=
  { halvesRecord with message := .filled "%c" [.integer 0x1f600] }

theorem dataLine_halvesRecord (moment : Timestamp) :
    dataLine .all moment .empty halvesRecord = dataLine .all moment .empty wholeRecord := rfl

/-- A high half before a low one does not come back: a line that has them in its message has the one
character too, and cannot be read back as both. -/
theorem not_dataLineOf_reads_back :
    ¬∀ (parts : LineParts) (moment : Timestamp) (level : List Point) (context : LogContext)
      (extra : List (List Point × Datum)) (record : Record) (message : List Point)
      (attached : List (List Point × Datum)),
      context.IsPlain extra → record.Tells message attached →
        ∃ line entries, dataLineOf parts moment level context record = .ok line ∧
          IsPrinting line.toList ∧ Json.decode? line = some (.mapping entries) ∧
          LineTells parts moment level context record message attached entries := by
  intro claim
  have plain : LogContext.empty.IsPlain [] := by
    refine ⟨?_, rfl, .nil, nofun⟩
    simp only [LogContext.empty, LogContext.parts, List.forall_mem_cons]
    exact ⟨.inl rfl, .inl rfl, .inl rfl, .inl rfl, .inl rfl, nofun⟩
  have halves : halvesRecord.Tells [Point.ofNat 0xd83d, Point.ofNat 0xde00] [] :=
    ⟨rfl, rfl, .inr ⟨rfl, rfl⟩, .nil, nofun⟩
  have whole : wholeRecord.Tells [Point.ofNat 0x1f600] [] :=
    ⟨rfl, rfl, .inr ⟨rfl, rfl⟩, .nil, nofun⟩
  obtain ⟨line, entries, writes, -, reads, tells⟩ :=
    claim .all ⟨⟨2024, 1, 2⟩, 3, 4, 5, 0, none⟩ (Point.ofText (levelName 20)) _ [] _ _ [] plain halves
  obtain ⟨again, others, writesAgain, -, readsAgain, tellsAgain⟩ :=
    claim .all ⟨⟨2024, 1, 2⟩, 3, 4, 5, 0, none⟩ (Point.ofText (levelName 20)) _ [] _ _ [] plain whole
  have same : line = again :=
    Except.ok.inj (writes.symm.trans ((dataLine_halvesRecord _).trans writesAgain))
  rw [same, readsAgain] at reads
  cases reads
  have message := tells.message.symm.trans tellsAgain.message
  rw [Option.some.injEq, Datum.text.injEq] at message
  exact absurd message (by decide)

/-- A context with a part that a further entry of the same name replaces. -/
def crowdedContext : LogContext :=
  { LogContext.empty with
    table := .ofText "user\n", operation := .ofText ""
    extra := underNames [(Point.ofText "table", .other (.integer 7)), (Point.ofText "note", .null)] }

/-- What is attached to the record has a list with a low half under a name with a mark. -/
def crowdedEntries : List (List Point × Datum) :=
  [(Point.ofText "é\\", .list [.other (.boolean true), .text [.ofNat 0xde00, .character '\r']])]

/-- Marks, line ends, characters of all planes, and a low half before a high one. -/
def crowdedMessage : List Point :=
  Point.ofText "\", \"level\": \"X\n\u2028\x7f𝄞" ++ [.ofNat 0xde00, .ofNat 0xd83d]

def crowdedRecord : Record :=
  { logger := Point.ofText "a\"b", level := 20, file := "dir/a.py", line := 1
    message := .plain crowdedMessage
    function := none
    attached := some (.mapping (underNames crowdedEntries))
    failure := none }

theorem isPlain_crowdedContext : crowdedContext.IsPlain
    [(Point.ofText "table", .other (.integer 7)), (Point.ofText "note", .null)] where
  parts := by
    simp only [crowdedContext, LogContext.parts, LogContext.empty, List.forall_mem_cons]
    exact ⟨.inr ⟨_, rfl⟩, .inl rfl, .inl rfl, .inl rfl, .inr ⟨_, rfl⟩, nofun⟩
  adds := rfl
  data := by
    refine ⟨by decide, ?_⟩
    simp only [List.forall_mem_cons]
    exact ⟨.integer 7, .null, nofun⟩

theorem tells_crowdedRecord : crowdedRecord.Tells crowdedMessage crowdedEntries where
  message := rfl
  failure := rfl
  attaches := .inl rfl
  data := by
    refine ⟨by decide, ?_⟩
    simp only [crowdedEntries, List.forall_mem_cons]
    refine ⟨.list ?_, nofun⟩
    simp only [List.forall_mem_cons]
    exact ⟨.boolean true, .text _, nofun⟩

theorem unpaired_crowdedRecord : Unpaired (Point.ofText "INFO") crowdedContext crowdedRecord
    crowdedMessage crowdedEntries where
  level := Point.unpaired_ofCharacters _
  logger := Point.unpaired_ofCharacters _
  message := by
    rw [Point.Unpaired]
    decide
  context := by
    constructor
    · simp only [crowdedContext, LogContext.parts, LogContext.empty, List.forall_mem_cons]
      exact ⟨Datum.unpaired_ofText _, trivial, trivial, trivial, Datum.unpaired_ofText _, nofun⟩
    · refine (Datum.unpaired_mapping_underNames _).mpr ?_
      simp only [List.forall_mem_cons]
      exact ⟨⟨Point.unpaired_ofCharacters _, trivial⟩, ⟨Point.unpaired_ofCharacters _, trivial⟩,
        nofun⟩
  attached := by
    refine (Datum.unpaired_mapping_underNames _).mpr ?_
    simp only [crowdedEntries, List.forall_mem_cons]
    refine ⟨⟨Point.unpaired_ofCharacters _, trivial, ?_, trivial⟩, nofun⟩
    rw [Datum.Unpaired, Point.Unpaired]
    decide

/-- The message comes back whole and forges no level, and the further entry stands for the table. -/
theorem dataLineOf_reads_back_crowded :
    ∃ line entries fields,
      dataLineOf .all ⟨⟨2024, 1, 2⟩, 3, 4, 5, 0, none⟩ (Point.ofText "INFO") crowdedContext
        crowdedRecord = .ok line ∧
      IsPrinting line.toList ∧ Json.decode? line = some (.mapping entries) ∧
      Datum.find? (.ofText "message") entries = some (.text crowdedMessage) ∧
      Datum.find? (.ofText "level") entries = some (.ofText "INFO") ∧
      Datum.find? (.ofText "context") entries = some (.mapping (underNames fields)) ∧
      fields.lookup (Point.ofText "table") = some (.other (.integer 7)) := by
  obtain ⟨line, writes, printing, comesBack⟩ := dataLineOf_reads_back .all
    ⟨⟨2024, 1, 2⟩, 3, 4, 5, 0, none⟩ (Point.ofText "INFO") isPlain_crowdedContext
    tells_crowdedRecord
  obtain ⟨entries, reads, tells⟩ := comesBack unpaired_crowdedRecord
  have said : crowdedContext.item? (Point.ofText "table") = some (.other (.integer 7)) := by
    rw [LogContext.item?, isPlain_crowdedContext.adds, Datum.find?_underNames]
    rfl
  obtain ⟨shown, found⟩ := Option.isSome_iff_exists.mp
    (tells.context_iff.mpr ⟨rfl, Point.ofText "table", _, said⟩)
  obtain ⟨fields, rfl, -, finds⟩ := tells.context_eq shown found
  exact ⟨line, entries, fields, writes, printing, reads, tells.message, tells.level, found,
    (finds _).trans said⟩

end Log
end TypedTables
