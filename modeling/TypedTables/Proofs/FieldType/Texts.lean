import Mathlib.Data.List.Nodup
import TypedTables.Proofs.Text.Names
import TypedTables.Proofs.Value.Literals

/-!
# Texts of types

The written form of an alternative says what the alternative is. Names of types, literals,
containers and record types are told apart by how they begin and by their brackets; table names are
escaped, so that no name can be taken for several; and the alternatives of an element type are told
apart because their texts are sealed. Alternatives that schemas are lowered to have such texts.
-/

namespace TypedTables

namespace Identifier

open Text Text.ReadingState

theorem isUnmarked_of_isPart {character : Char} (part : isPart character = true) :
    isUnmarked character = true := by
  cases marked : isUnmarked character with
  | true => rfl
  | false =>
      have marks : (['\x22', '\x60', '<', '>', '|'].all fun mark => !isPart mark) = true := by
        decide
      have isMark : character ∈ ['\x22', '\x60', '<', '>', '|'] := by
        simp only [isUnmarked, Bool.and_eq_false_iff, bne_eq_false_iff_eq] at marked
        simpa [or_assoc] using marked
      have apart := List.all_eq_true.mp marks character isMark
      simp [part] at apart

theorem isUnmarked_of_isPlain {name : List Char} (plain : isPlain name = true) :
    ∀ character ∈ name, isUnmarked character = true := by
  intro character member
  rcases isPart_of_isPlain plain character member with part | rfl
  · exact isUnmarked_of_isPart part
  · decide

/-- An escaped name never ends the quoted part that it stands in. -/
theorem read_escapeBody (depth : Nat) (name : List Char) :
    read ⟨.inside '\x60', depth⟩ (escapeBody name) = some ⟨.inside '\x60', depth⟩ := by
  induction name with
  | nil => rfl
  | cons character rest ih =>
      by_cases special : character = '\x60' ∨ character = '\x5c'
      · have escapes : step ⟨.inside '\x60', depth⟩ '\x5c' = some ⟨.escaped '\x60', depth⟩ := rfl
        have returns : step ⟨.escaped '\x60', depth⟩ character = some ⟨.inside '\x60', depth⟩ := rfl
        rw [escapeBody, if_pos (by simpa using special), read_cons, escapes, Option.bind_some,
          read_cons, returns]
        exact ih
      · obtain ⟨backtick, backslash⟩ := not_or.mp special
        have stays : step ⟨.inside '\x60', depth⟩ character = some ⟨.inside '\x60', depth⟩ := by
          simp [step, backtick, backslash]
        rw [escapeBody, if_neg (by simpa using special), read_cons, stays]
        exact ih

theorem isSealed_escape (name : List Char) : IsSealed (escape name) := by
  unfold escape
  split
  · rename_i plain
    exact .of_unmarked (isUnmarked_of_isPlain plain)
  · have opens : start.step '\x60' = some ⟨.inside '\x60', 0⟩ := rfl
    rw [IsSealed, read_cons, opens, Option.bind_some, read_append, read_escapeBody]
    rfl

end Identifier

namespace FieldType

open Text

theorem toList_bars (texts : List String) :
    (" | ".intercalate texts).toList = [' ', '|', ' '].intercalate (texts.map String.toList) := by
  rw [String.toList_intercalate]
  rfl

theorem isSealed_tableName {tables : List String} :
    ∀ text ∈ (tables.map Identifier.escapeText).map String.toList, IsSealed text := by
  intro text member
  simp only [List.map_map, List.mem_map, Function.comp_apply] at member
  obtain ⟨table, -, rfl⟩ := member
  rw [Identifier.escapeText, String.toList_ofList]
  exact Identifier.isSealed_escape table.toList

/-- The tables of a record type are known from its text. -/
theorem tableNames_injective {first second : List String} (someFirst : first ≠ [])
    (someSecond : second ≠ []) (same : tableNames first = tableNames second) :
    first = second := by
  have joined := congrArg String.toList same
  rw [tableNames, tableNames, toList_bars, toList_bars] at joined
  have texts := IsSealed.separates_bar.intercalate_injective isSealed_tableName isSealed_tableName
    (by simpa using someFirst) (by simpa using someSecond) joined
  rw [List.map_map, List.map_map] at texts
  refine (List.map_inj_right ?_).mp texts
  intro left right equal
  simp only [Function.comp_apply, Identifier.escapeText, String.toList_ofList] at equal
  exact String.toList_injective (Identifier.escape_injective equal)

end FieldType

namespace TypeAtom

open FieldType

/-- The alternatives that are written as a name alone. -/
def names : List TypeAtom :=
  [.any, .none, .null, .bool, .string, .number, .int, .float, .datetime, .uuid, .record, .object,
    .array]

/-- The alternative is known from its text: a name, a literal of a value that has one, a container
of elements that are not just anything, or a record of listed tables. -/
inductive IsReadable : TypeAtom → Prop
  | name {atom : TypeAtom} (listed : atom ∈ names) : IsReadable atom
  | literal {value : Value} {text : String} (writes : value.literal = .ok text) :
      IsReadable (.literal value)
  | arrayOf {element : FieldType} (closed : element.isOpen = false)
      (each : ∀ atom ∈ element, IsReadable atom) : IsReadable (.arrayOf element)
  | recordOf {tables : List String} (present : tables ≠ []) : IsReadable (.recordOf tables)

/-- What a text can be the text of. -/
inductive TextShape where
  | name
  | literal
  | array
  | record
  deriving DecidableEq

/-- What begins like no name is a literal; brackets after a name tell containers and records. -/
def TextShape.ofCharacters (characters : List Char) : TextShape :=
  if characters = "false".toList ∨ characters.head?.any Written.opensName = false then .literal
  else if '<' ∈ characters then
    if characters.head? = some 'a' then .array else .record
  else .name

def shape : TypeAtom → TextShape
  | .literal _ => .literal
  | .arrayOf _ => .array
  | .recordOf _ => .record
  | _ => .name

theorem toList_arrayOf (element : FieldType) :
    (atomText (.arrayOf element)).toList =
      "array".toList ++ '<' :: ((text element).toList ++ ['>']) := by
  rw [atomText, String.toList_append, String.toList_append, text]
  rfl

theorem toList_recordOf (tables : List String) :
    (atomText (.recordOf tables)).toList =
      "record".toList ++ '<' :: ((tableNames tables).toList ++ ['>']) := by
  rw [atomText, String.toList_append, String.toList_append]
  rfl

theorem atomText_literal {value : Value} {text : String} (writes : value.literal = .ok text) :
    atomText (.literal value) = text := by
  rw [atomText, literalText, writes]

theorem ofCharacters_atomText {atom : TypeAtom} (readable : atom.IsReadable) :
    TextShape.ofCharacters (atomText atom).toList = atom.shape := by
  cases readable with
  | name listed =>
      revert atom
      decide
  | literal writes =>
      rw [atomText_literal writes, TextShape.ofCharacters, if_pos]
      · rfl
      · rcases Value.isNameless_literal writes with rfl | nameless
        · exact Or.inl rfl
        · right
          cases first : (String.toList _).head? with
          | none => rfl
          | some character => simpa using nameless character first
  | arrayOf closed each =>
      rw [toList_arrayOf, TextShape.ofCharacters]
      simp [Written.opensName, shape]
  | recordOf present =>
      rw [toList_recordOf, TextShape.ofCharacters]
      simp [Written.opensName, shape]

theorem atomText_injective_names {first second : TypeAtom} (listedFirst : first ∈ names)
    (listedSecond : second ∈ names) (same : atomText first = atomText second) :
    first = second :=
  List.inj_on_of_nodup_map (by decide : (names.map atomText).Nodup) listedFirst listedSecond same

theorem text_of_closed {type : FieldType} (closed : type.isOpen = false) :
    atomTexts type ≠ [] ∧ text type = " | ".intercalate (atomTexts type) := by
  by_cases opens : ((atomTexts type).isEmpty || (atomTexts type).contains anyText) = true
  · have everything : type.isOpen = true := by
      simp only [isOpen, text, joined, opens, if_true, beq_self_eq_true]
    rw [everything] at closed
    cases closed
  · refine ⟨?_, by rw [text, joined, if_neg opens]⟩
    intro none
    simp [none] at opens

theorem toList_text_of_closed {type : FieldType} (closed : type.isOpen = false) :
    (text type).toList =
      [' ', '|', ' '].intercalate ((atomTexts type).map String.toList) := by
  rw [(text_of_closed closed).2, toList_bars]

theorem isSealed_atomText {atom : TypeAtom} (readable : atom.IsReadable) :
    Text.IsSealed (atomText atom).toList := by
  induction readable with
  | name listed =>
      rename_i atom
      revert atom
      decide
  | literal writes =>
      rw [atomText_literal writes]
      exact Value.isSealed_literal writes
  | arrayOf closed each ih =>
      rw [toList_arrayOf, toList_text_of_closed closed]
      refine .append (by decide) (.of_brackets (Text.IsSealed.read_joined ?_))
      intro characters member
      simp only [atomTexts_eq_map, List.map_map, List.mem_map, Function.comp_apply] at member
      obtain ⟨atom, present, rfl⟩ := member
      exact ih atom present
  | recordOf present =>
      rw [toList_recordOf, tableNames, toList_bars]
      exact .append (by decide) (.of_brackets (Text.IsSealed.read_joined isSealed_tableName))

theorem atomTexts_eq_of_arrayOf {first second : FieldType}
    (readableFirst : IsReadable (.arrayOf first)) (readableSecond : IsReadable (.arrayOf second))
    (same : atomText (.arrayOf first) = atomText (.arrayOf second)) :
    atomTexts first = atomTexts second := by
  have sealedTexts {type : FieldType} (each : ∀ atom ∈ type, IsReadable atom) :
      ∀ characters ∈ (atomTexts type).map String.toList, Text.IsSealed characters := by
    intro characters member
    simp only [atomTexts_eq_map, List.map_map, List.mem_map, Function.comp_apply] at member
    obtain ⟨atom, present, rfl⟩ := member
    exact isSealed_atomText (each atom present)
  cases readableFirst with
  | name listed => simp [names] at listed
  | arrayOf closedFirst eachFirst =>
      cases readableSecond with
      | name listed => simp [names] at listed
      | arrayOf closedSecond eachSecond =>
          have characters := congrArg String.toList same
          rw [toList_arrayOf, toList_arrayOf, List.append_cancel_left_eq, List.cons.injEq,
            List.append_cancel_right_eq, toList_text_of_closed closedFirst,
            toList_text_of_closed closedSecond] at characters
          have texts := Text.IsSealed.separates_bar.intercalate_injective (sealedTexts eachFirst)
            (sealedTexts eachSecond) (by simpa using (text_of_closed closedFirst).1)
            (by simpa using (text_of_closed closedSecond).1) characters.2
          exact (List.map_inj_right fun _ _ equal => String.toList_injective equal).mp texts

/-- Record types with one text list the same tables. -/
theorem eq_of_recordOf {first second : List String} (readableFirst : IsReadable (.recordOf first))
    (readableSecond : IsReadable (.recordOf second))
    (same : atomText (.recordOf first) = atomText (.recordOf second)) : first = second := by
  cases readableFirst with
  | name listed => simp [names] at listed
  | recordOf presentFirst =>
      cases readableSecond with
      | name listed => simp [names] at listed
      | recordOf presentSecond =>
          have characters := congrArg String.toList same
          rw [toList_recordOf, toList_recordOf, List.append_cancel_left_eq, List.cons.injEq,
            List.append_cancel_right_eq] at characters
          exact tableNames_injective presentFirst presentSecond
            (String.toList_injective characters.2)

end TypeAtom
end TypedTables
