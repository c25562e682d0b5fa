import TypedTables.Proofs.Json.RoundTrip
import TypedTables.Proofs.Statement.Texts
import TypedTables.RecordText

/-!
# Reading records back

A record is written as its table, a colon and its identifier, each escaped where it is more than a
word. Reading takes marks off but no escapes, and a table in backticks ends at the first backtick.
So a record with a text for its identifier is read back as it was exactly when neither its table
nor its identifier holds a backtick or a backslash.

The text still tells which record it is: the colon after the table is bare, and a number is written
like no name. So different records have different texts, as long as identifiers are texts or whole
numbers; the text `a:NULL` is that of null and of a name.
-/

namespace TypedTables

namespace Identifier

/-- The name holds no character that is escaped between backticks. -/
def NeedsNoEscape (name : List Char) : Prop :=
  ∀ character ∈ name, character ≠ '\x60' ∧ character ≠ '\x5c'

theorem needsNoEscape_of_isPlain {name : List Char} (plain : isPlain name = true) :
    NeedsNoEscape name := by
  intro character member
  rcases isPart_of_isPlain plain character member with part | rfl
  · constructor
    · rintro rfl
      exact absurd part (by decide)
    · rintro rfl
      exact absurd part (by decide)
  · decide

theorem not_mem_escapeBody {name : List Char} (noBacktick : '\x60' ∉ name) :
    '\x60' ∉ escapeBody name := by
  induction name with
  | nil => exact List.not_mem_nil
  | cons character rest ih =>
      rw [List.mem_cons, not_or] at noBacktick
      rw [escapeBody]
      split
      · simp [noBacktick.1, ih noBacktick.2]
      · simp [noBacktick.1, ih noBacktick.2]

theorem escapeBody_eq_self_iff (name : List Char) :
    escapeBody name = name ↔ NeedsNoEscape name := by
  induction name with
  | nil => simp [escapeBody, NeedsNoEscape]
  | cons character rest ih =>
      by_cases special : character = '\x60' ∨ character = '\x5c'
      · have longer := length_le_length_escapeBody rest
        rw [escapeBody, if_pos (by simpa using special)]
        constructor
        · intro same
          have lengths := congrArg List.length same
          simp only [List.length_cons] at lengths
          omega
        · intro unmarked
          obtain ⟨backtick, backslash⟩ := unmarked character (by simp)
          exact absurd special (by simp [backtick, backslash])
      · rw [escapeBody, if_neg (by simpa using special), List.cons.injEq, ih]
        simpa [NeedsNoEscape] using fun _ => special

end Identifier

namespace RecordText

open Identifier

/-- Marks around a text are taken off together. -/
theorem unmark_marked (opening closing : Char) (body : List Char) :
    unmark opening closing (opening :: (body ++ [closing])) = some body := by
  have last : (opening :: (body ++ [closing])).getLast? = some closing := by
    rw [← List.cons_append, List.getLast?_concat]
  simp [unmark, last]

theorem unmark_eq_none {opening closing first : Char} {rest : List Char}
    (other : first ≠ opening) : unmark opening closing (first :: rest) = none := by
  simp [unmark, other]

/-- The identifier that is read from a written name: a word as it is, and what stands between
backticks with its escapes. -/
theorem unquoteIdentifier_escape (name : List Char) :
    unquoteIdentifier (escape name) = if isPlain name then name else escapeBody name := by
  unfold escape
  split
  · rename_i plain
    obtain ⟨first, rest, rfl, start⟩ := exists_isStart_of_isPlain plain
    have noBacktick : first ≠ '\x60' := by
      rintro rfl
      exact absurd start (by decide)
    have noAngle : first ≠ '\u27e8' := by
      rintro rfl
      exact absurd start (by decide)
    simp [unquoteIdentifier, unmark_eq_none noBacktick, unmark_eq_none noAngle]
  · simp [unquoteIdentifier, unmark_marked]

theorem unquoteIdentifier_escape_eq_iff (name : List Char) :
    unquoteIdentifier (escape name) = name ↔ NeedsNoEscape name := by
  rw [unquoteIdentifier_escape]
  split
  · rename_i plain
    exact iff_of_true rfl (needsNoEscape_of_isPlain plain)
  · exact escapeBody_eq_self_iff name

/-- A prefix without a character ends where the character comes first. -/
theorem takeWhile_ne_append {mark : Char} {text : List Char} (absent : mark ∉ text)
    (rest : List Char) :
    (text ++ mark :: rest).takeWhile (· != mark) = text ∧
      (text ++ mark :: rest).dropWhile (· != mark) = mark :: rest := by
  have passes : ∀ character ∈ text, (character != mark) = true := by
    intro character member
    rw [bne_iff_ne]
    rintro rfl
    exact absent member
  rw [List.takeWhile_append_of_pos passes, List.dropWhile_append_of_pos passes]
  simp

theorem split?_plain {table : List Char} (plain : isPlain table = true) (rest : List Char) :
    split? (table ++ ':' :: rest) = some (table, rest) := by
  have noColon : ':' ∉ table := by
    intro member
    rcases isPart_of_isPlain plain ':' member with part | equal
    · exact absurd part (by decide)
    · exact absurd equal (by decide)
  obtain ⟨taken, dropped⟩ := takeWhile_ne_append noColon rest
  obtain ⟨first, others, rfl, start⟩ := exists_isStart_of_isPlain plain
  have noBacktick : first ≠ '\x60' := by
    rintro rfl
    exact absurd start (by decide)
  rw [List.cons_append] at taken dropped ⊢
  rw [split?]
  · simp [taken, dropped]
  · simp [noBacktick]

theorem split?_quoted {body : List Char} (noBacktick : '\x60' ∉ body) (rest : List Char) :
    split? ('\x60' :: (body ++ ['\x60'] ++ ':' :: rest)) = some (body, rest) := by
  obtain ⟨taken, dropped⟩ := takeWhile_ne_append noBacktick (':' :: rest)
  rw [List.append_assoc, List.singleton_append, split?]
  simp [taken, dropped]

theorem not_mem_of_split?_quoted {characters table identifier : List Char}
    (splits : split? ('\x60' :: characters) = some (table, identifier)) : '\x60' ∉ table := by
  rw [split?] at splits
  split at splits
  · cases splits
    intro member
    have passes := List.all_eq_true.mp (List.all_takeWhile (p := (· != '\x60'))) _ member
    simp at passes
  · cases splits

/-- Two written names with a colon between them are read back exactly when both need no escape. -/
theorem read?_escape_eq_iff (table identifier : List Char) :
    read? (escape table ++ ':' :: escape identifier) = some (table, identifier) ↔
      NeedsNoEscape table ∧ NeedsNoEscape identifier := by
  rw [read?]
  by_cases plain : isPlain table = true
  · rw [escape, if_pos plain, split?_plain plain]
    simp [unquoteIdentifier_escape_eq_iff, needsNoEscape_of_isPlain plain]
  · rw [escape, if_neg plain, List.cons_append]
    constructor
    · intro reads
      obtain ⟨⟨first, second⟩, splits, parts⟩ := Option.map_eq_some_iff.mp reads
      obtain ⟨sameTable, unquoted⟩ := Prod.mk.inj parts
      have noBacktick := not_mem_of_split?_quoted splits
      rw [sameTable] at noBacktick
      rw [split?_quoted (not_mem_escapeBody noBacktick)] at splits
      cases splits
      exact ⟨(escapeBody_eq_self_iff table).mp sameTable,
        (unquoteIdentifier_escape_eq_iff identifier).mp unquoted⟩
    · rintro ⟨unmarked, unmarkedIdentifier⟩
      have noBacktick : '\x60' ∉ table := fun member => (unmarked _ member).1 rfl
      rw [(escapeBody_eq_self_iff table).mpr unmarked, split?_quoted noBacktick]
      simp [(unquoteIdentifier_escape_eq_iff identifier).mpr unmarkedIdentifier]

theorem ofText_eq_record_iff (text table identifier : String) :
    ofText text = .ok (.record table (.text identifier)) ↔
      read? text.toList = some (table.toList, identifier.toList) := by
  rw [ofText]
  split
  · rename_i first second reads
    have ofList_iff : ∀ (characters : List Char) (written : String),
        String.ofList characters = written ↔ characters = written.toList := by
      intro characters written
      rw [← String.toList_inj, String.toList_ofList]
    simp [reads, ofList_iff]
  · rename_i unread
    simp [unread]

/-- The text of a record whose identifier is a text is read back as that record exactly when no
character of its table and of its identifier is a backtick or a backslash. -/
theorem ofText_plain_record_iff (table identifier : String) :
    ∃ written, (Value.record table (.text identifier)).plain = .ok written ∧
      (ofText written = .ok (.record table (.text identifier)) ↔
        ∀ character ∈ table.toList ++ identifier.toList,
          character ≠ '\x60' ∧ character ≠ '\x5c') := by
  refine ⟨_, by rw [Value.plain, Written.recordText], ?_⟩
  rw [ofText_eq_record_iff]
  have characters : (s!"{escapeText table}:{escapeText identifier}").toList =
      escape table.toList ++ ':' :: escape identifier.toList := by
    rw [String.toList_append, String.toList_append]
    show (escapeText table).toList ++ [':'] ++ (escapeText identifier).toList = _
    simp [escapeText]
  rw [characters, read?_escape_eq_iff]
  simp only [List.forall_mem_append, NeedsNoEscape]

/-- A table with a backtick ends at that backtick when its record is read, and no colon follows. -/
theorem not_ofText_plain_record :
    (Value.record "a\x60b" (.text "x")).plain = .ok "\x60a\\\x60b\x60:x" ∧
      ofText "\x60a\\\x60b\x60:x" = .error (.malformedRecordText "'\x60a\\\\\x60b\x60:x'") := by
  constructor
  · rw [Value.plain, Written.recordText]
    rfl
  · rfl

/-- An identifier that is a text or a whole number. -/
inductive RecordKey where
  | name (text : String)
  | number (value : Int)

namespace RecordKey

def value : RecordKey → Value
  | .name text => .text text
  | .number value => .integer value

def written : RecordKey → List Char
  | .name text => escape text.toList
  | .number value => (toString value).toList

theorem written_name_ne_written_number (text : String) (number : Int) :
    written (.name text) ≠ written (.number number) := by
  intro same
  have numerals (character : Char) (member : character ∈ escape text.toList) :
      character.isDigit = true ∨ character = '-' := by
    rw [show escape text.toList = (toString number).toList from same] at member
    exact Text.isDigit_integer member
  unfold escape at numerals
  split at numerals
  · rename_i plain
    obtain ⟨first, rest, isName, start⟩ := exists_isStart_of_isPlain plain
    rcases numerals first (by simp [isName]) with digit | rfl
    · rw [isDigit_eq_false_of_isStart start] at digit
      cases digit
    · exact absurd start (by decide)
  · rcases numerals '\x60' (by simp) with digit | sign
    · exact absurd digit (by decide)
    · exact absurd sign (by decide)

theorem written_injective : Function.Injective written := by
  intro first second same
  cases first with
  | name text =>
      cases second with
      | name other => rw [String.toList_injective (escape_injective same)]
      | number other => exact absurd same (written_name_ne_written_number text other)
  | number number =>
      cases second with
      | name other => exact absurd same.symm (written_name_ne_written_number other number)
      | number other =>
          have texts : (toString number).toList = (toString other).toList := same
          have reads := Json.readNumber?_integer number Json.endsNumber_nil
          rw [texts, Json.readNumber?_integer other Json.endsNumber_nil] at reads
          cases reads
          rfl

end RecordKey

theorem exists_plain_record (table : String) (key : RecordKey) :
    ∃ text, (Value.record table key.value).plain = .ok text ∧
      text.toList = escape table.toList ++ ([':'] ++ key.written) := by
  cases key with
  | name text =>
      refine ⟨_, by rw [RecordKey.value, Value.plain, Written.recordText], ?_⟩
      show (escapeText table ++ ":" ++ escapeText text).toList = _
      simp [escapeText, RecordKey.written]
  | number value =>
      refine ⟨_, by rw [RecordKey.value, Value.plain, Written.recordText], ?_⟩
      show (escapeText table ++ ":" ++ toString value).toList = _
      simp [escapeText, RecordKey.written]

/-- Two records whose identifiers are texts or whole numbers have one text only if they have the
same table and the same identifier. -/
theorem plain_record_eq_iff (table other : String) (key otherKey : RecordKey) :
    ∃ text otherText, (Value.record table key.value).plain = .ok text ∧
      (Value.record other otherKey.value).plain = .ok otherText ∧
        (text = otherText ↔ table = other ∧ key = otherKey) := by
  obtain ⟨text, writes, characters⟩ := exists_plain_record table key
  obtain ⟨otherText, writesOther, otherCharacters⟩ := exists_plain_record other otherKey
  refine ⟨text, otherText, writes, writesOther, ?_⟩
  have passes (name : String) : Text.Passes ':' .outside (escape name.toList) := by
    have hides := hides_escapeText (by decide : Text.isSeparator ':' = true) name
    rwa [Text.Hides, escapeText, String.toList_ofList] at hides
  constructor
  · rintro rfl
    rw [characters] at otherCharacters
    obtain ⟨tables, keys⟩ :=
      Text.Passes.separates.eq_of_append (passes table) (passes other) otherCharacters
    exact ⟨String.toList_injective (escape_injective tables), RecordKey.written_injective keys⟩
  · rintro ⟨rfl, rfl⟩
    rw [← String.toList_inj, characters, otherCharacters]

end RecordText
end TypedTables
