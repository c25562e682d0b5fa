import TypedTables.Proofs.FieldType.Independence
import TypedTables.Proofs.FieldType.Keys
import TypedTables.Proofs.FieldType.Texts

/-!
# Types of keys

A record or map can be lowered where its key can be lowered on its own, to a type that is written as
texts, numbers and literals of such with bars between them, or to a type without alternatives. The
latter is written like a type that permits everything, and alone of all types that are written so it
is taken for a type of keys.
-/

namespace TypedTables

namespace Text.Separates

variable {α : Type} {separator : List α} {kind marked : List α → Prop}

/-- Texts of a kind that are joined like others, which are of the kind or marked, are these others:
a mark would show at the beginning of what is joined. -/
theorem eq_of_intercalate_eq (separates : Separates separator kind)
    (shows : ∀ text rest, marked text → marked (text ++ rest))
    (hides : ∀ text rest, kind text → ¬marked text → ¬marked (text ++ (separator ++ rest)))
    {first second : List (List α)} (allFirst : ∀ text ∈ first, kind text ∨ marked text)
    (allSecond : ∀ text ∈ second, kind text ∧ ¬marked text) (someFirst : first ≠ [])
    (someSecond : second ≠ [])
    (same : separator.intercalate first = separator.intercalate second) : first = second := by
  refine separates.intercalate_injective ?_ (fun text member => (allSecond text member).1) someFirst
    someSecond same
  -- At each place what is joined there goes on without a mark, so it is of the kind.
  induction first generalizing second with
  | nil => exact absurd rfl someFirst
  | cons text rest ih =>
      match second, someSecond with
      | other :: others, _ =>
          obtain ⟨isOther, unmarked⟩ := allSecond other (by simp)
          have unmarkedJoined : ¬marked (separator.intercalate (other :: others)) := by
            cases others with
            | nil => simpa using unmarked
            | cons next more =>
                rw [List.intercalate_cons_cons, List.append_assoc]
                exact hides other _ isOther unmarked
          rw [← same] at unmarkedJoined
          have isText : kind text := by
            refine (allFirst text (by simp)).resolve_right fun isMarked => unmarkedJoined ?_
            cases rest with
            | nil => simpa using isMarked
            | cons next more =>
                rw [List.intercalate_cons_cons, List.append_assoc]
                exact shows text _ isMarked
          intro item member
          rcases List.mem_cons.mp member with rfl | later
          · exact isText
          · cases rest with
            | nil => cases later
            | cons next more =>
                cases others with
                | nil =>
                    rw [List.intercalate_singleton, List.intercalate_cons_cons,
                      List.append_assoc] at same
                    rw [← same] at isOther
                    exact absurd isOther (separates.alone text _ isText)
                | cons otherNext otherMore =>
                    rw [List.intercalate_cons_cons, List.intercalate_cons_cons, List.append_assoc,
                      List.append_assoc] at same
                    obtain ⟨-, tails⟩ := separates.eq_of_append isText isOther same
                    exact ih (fun text isLater => allFirst text (List.mem_cons_of_mem _ isLater))
                      (fun text isLater => allSecond text (List.mem_cons_of_mem _ isLater))
                      (List.cons_ne_nil _ _) (List.cons_ne_nil _ _) tails item later

end Text.Separates

namespace FieldType

/-! ## What keys are written as -/

def keyNames : List String := ["string", "number", "int", "float"]

/-- A type of texts or numbers, or a literal of one: a quoted text or a written number. -/
inductive IsKeyAtom : String → Prop
  | name {text : String} (listed : text ∈ keyNames) : IsKeyAtom text
  | text (characters : String) : IsKeyAtom (Json.quoted false characters)
  | integer (number : Int) : IsKeyAtom (toString number)
  | float (number : Binary64) : IsKeyAtom (dataFloat.write number)
  | notANumber : IsKeyAtom "NaN"

/-- One or more of these, with bars between them. -/
def IsKeyExpression (text : String) : Prop :=
  ∃ atoms : List String,
    atoms ≠ [] ∧ (∀ atom ∈ atoms, IsKeyAtom atom) ∧ text = " | ".intercalate atoms

/-- A character that a quoted text or a written number begins with. -/
def opensKey (character : Char) : Bool :=
  Text.isNumeral character || character == '\x22' || character == 'I'

variable {text : String}

theorem opensKey_of_isKeyAtom (isKey : IsKeyAtom text) :
    text ∈ "NaN" :: keyNames ∨ ∀ character ∈ text.toList.head?, opensKey character = true := by
  have ofNumerals {written : String}
      (numerals : ∀ character ∈ written.toList, Text.isNumeral character = true) :
      ∀ character ∈ written.toList.head?, opensKey character = true := by
    intro character first
    simp [opensKey, numerals character (List.mem_of_mem_head? first)]
  cases isKey with
  | name listed => exact .inl (List.mem_cons_of_mem _ listed)
  | text characters =>
      right
      rw [Json.quoted, String.toList_ofList]
      rintro character ⟨⟩
      rfl
  | integer number => exact .inr (ofNumerals fun _ member => Text.isNumeral_integer member)
  | float number =>
      right
      cases number with
      | infinite negative =>
          cases negative <;>
            · rintro character ⟨⟩
              decide
      | finite negative significand exponent =>
          exact ofNumerals (dataFloat.isNumeral_write negative significand exponent)
  | notANumber => exact .inl List.mem_cons_self

theorem not_isKeyAtom {character : Char} {rest : List Char}
    (begins : text.toList = character :: rest) (other : opensKey character = false)
    (unlisted : ∀ name ∈ "NaN" :: keyNames, text ≠ name) :
    ¬IsKeyAtom text := by
  intro isKey
  rcases opensKey_of_isKeyAtom isKey with listed | opens
  · exact unlisted text listed rfl
  · have opened := opens character (by rw [begins]; rfl)
    rw [other] at opened
    cases opened

theorem ne_of_begins {character : Char} {rest : List Char}
    (begins : text.toList = character :: rest) {names : List String}
    (apart : ∀ name ∈ names, name.toList.head? ≠ some character) :
    ∀ name ∈ names, text ≠ name := by
  rintro name member rfl
  exact apart text member (by rw [begins]; rfl)

theorem isSealed_of_isKeyAtom (isKey : IsKeyAtom text) : Text.IsSealed text.toList := by
  cases isKey with
  | name listed =>
      revert text
      decide
  | text characters => exact Json.isSealed_quoted false characters
  | integer number => exact (Written.composable_isSealed .literal).integer number
  | float number => exact (Written.composable_isSealed .literal).float number
  | notANumber => decide

theorem not_isContainerText_of_isKeyAtom (isKey : IsKeyAtom text) : ¬IsContainerText text := by
  cases isKey with
  | name listed =>
      simp only [keyNames, List.mem_cons, List.not_mem_nil, or_false] at listed
      rcases listed with rfl | rfl | rfl | rfl <;>
        exact not_isContainerText_of_cons rfl (by decide)
  | text characters => exact not_isContainerText_quoted false characters
  | integer number =>
      exact not_isContainerText_of_numerals fun _ member => Text.isNumeral_integer member
  | float number => exact not_isContainerText_float number
  | notANumber => exact not_isContainerText_of_cons rfl (by decide)

end FieldType

/-! ## Alternatives that lowering makes -/

def TypeAtom.IsWritten : TypeAtom → Prop
  | .literal value => ∃ text, value.literal = .ok text
  | .verbatim _ => False
  | _ => True

namespace FieldType

open TypeAtom

theorem not_isKeyAtom_of_container {text : String} {character : Char} {rest : List Char}
    (begins : text.toList = character :: rest) (opens : character ∈ ['[', '\x7b']) :
    ¬IsKeyAtom text := by
  obtain ⟨other, unlisted⟩ : opensKey character = false ∧
      ∀ name ∈ "NaN" :: keyNames, name.toList.head? ≠ some character := by
    simp only [List.mem_cons, List.not_mem_nil, or_false] at opens
    rcases opens with rfl | rfl
    all_goals decide
  exact not_isKeyAtom begins other (ne_of_begins begins unlisted)

theorem not_isKeyAtom_arrayText (items : List String) : ¬IsKeyAtom (Written.arrayText items) := by
  have begins : (Written.arrayText items).toList =
      '[' :: ((", ".intercalate items).toList ++ [']']) := by
    rw [Written.arrayText, String.toList_append, String.toList_append]
    rfl
  exact not_isKeyAtom_of_container begins (by decide)

theorem not_isKeyAtom_objectText (entries : List String) :
    ¬IsKeyAtom (Written.objectText entries) := by
  have begins : (Written.objectText entries).toList =
      '\x7b' :: ((", ".intercalate entries).toList ++ ['\x7d']) := by
    rw [Written.objectText, String.toList_append, String.toList_append]
    rfl
  exact not_isKeyAtom_of_container begins (by decide)

theorem permitsKey_literal_iff {value : Value} {text : String} (writes : value.literal = .ok text) :
    permitsKey (.literal value) = true ↔ IsKeyAtom text := by
  by_cases isNull : value.isNull = true
  · rw [Value.literal, if_pos isNull, Except.ok.injEq] at writes
    subst writes
    have unnamed : permitsKey (.literal value) = false := by
      cases value <;> first | rfl | cases isNull
    rw [unnamed]
    exact iff_of_false Bool.false_ne_true (not_isKeyAtom rfl (by decide) (by decide))
  rw [Value.literal, if_neg isNull] at writes
  cases value with
  | null => exact absurd rfl isNull
  | boolean truth =>
      rw [Written.write, Except.ok.injEq] at writes
      subst writes
      cases truth <;>
        exact iff_of_false Bool.false_ne_true (not_isKeyAtom rfl (by decide) (by decide))
  | integer number =>
      rw [Written.write, Except.ok.injEq] at writes
      subst writes
      exact iff_of_true rfl (.integer number)
  | float number =>
      rw [Written.write, Except.ok.injEq] at writes
      subst writes
      exact iff_of_true rfl (.float number)
  | notANumber token =>
      rw [Written.write, Except.ok.injEq] at writes
      subst writes
      exact iff_of_true rfl .notANumber
  | text characters =>
      rw [Written.write, Except.ok.injEq] at writes
      subst writes
      exact iff_of_true rfl (.text characters)
  | timestamp moment | date day | uuid identifier =>
      simp only [Written.write, Written.otherText, Except.ok.injEq] at writes
      subst writes
      exact iff_of_true rfl (.text _)
  | record table identifier =>
      rw [Written.write] at writes
      obtain ⟨characters, -, rfl⟩ := (except_map_eq_ok_iff _ _ _).mp writes
      exact iff_of_true rfl (.text characters)
  | decimal number =>
      simp only [Written.write, Written.otherText, Except.ok.injEq] at writes
      subst writes
      cases number.toBinary64? with
      | none => exact iff_of_true rfl .notANumber
      | some rounded => exact iff_of_true rfl (.float rounded)
  | list items | tuple items | set items | frozenSet items =>
      rw [Written.write] at writes
      obtain ⟨texts, -, rfl⟩ := (except_map_eq_ok_iff _ _ _).mp writes
      exact iff_of_false Bool.false_ne_true (not_isKeyAtom_arrayText texts)
  | mapping entries =>
      rw [Written.write] at writes
      obtain ⟨texts, -, rfl⟩ := (except_map_eq_ok_iff _ _ _).mp writes
      exact iff_of_false Bool.false_ne_true (not_isKeyAtom_objectText texts)
  | _ =>
      simp only [Written.write, Written.otherText] at writes
      cases writes

theorem permitsKey_iff_isKeyAtom {atom : TypeAtom} (written : atom.IsWritten) :
    permitsKey atom = true ↔ IsKeyAtom (atomText atom) := by
  cases atom with
  | string | number | int | float => exact iff_of_true rfl (.name (by decide))
  | literal value =>
      obtain ⟨text, writes⟩ := written
      rw [atomText_literal writes]
      exact permitsKey_literal_iff writes
  | arrayOf element =>
      exact iff_of_false Bool.false_ne_true fun isKey =>
        not_isContainerText_of_isKeyAtom isKey (isContainerText_arrayOf element)
  | tupleOf elements =>
      exact iff_of_false Bool.false_ne_true fun isKey =>
        not_isContainerText_of_isKeyAtom isKey (isContainerText_tupleOf elements)
  | recordOf tables =>
      exact iff_of_false Bool.false_ne_true
        (not_isKeyAtom (toList_recordOf tables) (by decide)
          (ne_of_begins (toList_recordOf tables) (by decide)))
  | verbatim text => exact written.elim
  | _ => exact iff_of_false Bool.false_ne_true (not_isKeyAtom rfl (by decide) (by decide))

/-- Bars cannot be mistaken in the text of an alternative, unless it begins like a container. -/
theorem isSealed_or_isContainerText {atom : TypeAtom} (written : atom.IsWritten) :
    Text.IsSealed (atomText atom).toList ∨ IsContainerText (atomText atom) := by
  cases atom with
  | literal value =>
      obtain ⟨text, writes⟩ := written
      rw [atomText_literal writes]
      exact .inl (Value.isSealed_literal writes)
  | arrayOf element => exact .inr (isContainerText_arrayOf element)
  | tupleOf elements => exact .inr (isContainerText_tupleOf elements)
  | recordOf tables =>
      left
      rw [toList_recordOf, tableNames, toList_bars]
      exact .append (by decide) (.of_brackets (Text.IsSealed.read_joined isSealed_tableName))
  | verbatim text => exact written.elim
  | _ => exact .inl (by decide)

/-! ## Types of keys -/

/-- The characters begin like those of an object, an array or a tuple. -/
def BeginsContainer (characters : List Char) : Prop :=
  ∃ character ∈ characters.head?, opensContainer character = true

theorem BeginsContainer.append {characters : List Char} (begins : BeginsContainer characters)
    (rest : List Char) : BeginsContainer (characters ++ rest) := by
  obtain ⟨character, first, opens⟩ := begins
  exact ⟨character, by simp [Option.mem_def.mp first], opens⟩

theorem not_beginsContainer_append_bar {characters : List Char}
    (other : ¬BeginsContainer characters) (rest : List Char) :
    ¬BeginsContainer (characters ++ ([' ', '|', ' '] ++ rest)) := by
  rintro ⟨character, first, opens⟩
  cases characters with
  | nil =>
      cases first
      cases opens
  | cons initial more => exact other ⟨character, first, opens⟩

/-- Key texts with bars between them are known among alternatives that lowering makes. -/
theorem atomTexts_eq_of_bars {type : FieldType} (written : ∀ atom ∈ type, atom.IsWritten)
    (some : atomTexts type ≠ []) {atoms : List String} (present : atoms ≠ [])
    (keys : ∀ atom ∈ atoms, IsKeyAtom atom)
    (same : " | ".intercalate (atomTexts type) = " | ".intercalate atoms) :
    atomTexts type = atoms := by
  have joined := congrArg String.toList same
  rw [toList_bars, toList_bars] at joined
  have texts : (atomTexts type).map String.toList = atoms.map String.toList := by
    have shows (text rest : List Char) : BeginsContainer text → BeginsContainer (text ++ rest) :=
      fun begins => begins.append rest
    refine Text.IsSealed.separates_bar.eq_of_intercalate_eq shows
      (fun _ rest _ other => not_beginsContainer_append_bar other rest) ?_ ?_
      (by simpa using some) (by simpa using present) joined
    · intro characters member
      simp only [atomTexts_eq_map, List.map_map, List.mem_map, Function.comp_apply] at member
      obtain ⟨atom, isAtom, rfl⟩ := member
      exact isSealed_or_isContainerText (written atom isAtom)
    · intro characters member
      obtain ⟨text, isText, rfl⟩ := List.mem_map.mp member
      have isKey := keys text isText
      exact ⟨isSealed_of_isKeyAtom isKey, not_isContainerText_of_isKeyAtom isKey⟩
  exact (List.map_inj_right fun _ _ equal => String.toList_injective equal).mp texts

theorem not_isKeyAtom_any : ¬IsKeyAtom anyText := not_isKeyAtom rfl (by decide) (by decide)

theorem not_isKeyExpression_any : ¬IsKeyExpression anyText := by
  rintro ⟨atoms, present, keys, same⟩
  have written : ∀ atom ∈ [TypeAtom.any], atom.IsWritten := by
    intro atom member
    rw [List.mem_singleton.mp member]
    trivial
  have equal : atomTexts [.any] = atoms :=
    atomTexts_eq_of_bars written (by decide) present keys same
  exact not_isKeyAtom_any (keys _ (equal ▸ List.mem_singleton_self _))

/-- A type is written as keys are when it has alternatives and all of them permit keys. -/
theorem isKeyExpression_text_iff {type : FieldType} (written : ∀ atom ∈ type, atom.IsWritten) :
    IsKeyExpression type.text ↔ type ≠ [] ∧ type.all permitsKey = true := by
  constructor
  · intro isKeys
    have closed : type.isOpen = false := by
      cases opens : type.isOpen with
      | false => rfl
      | true => exact absurd (beq_iff_eq.mp opens ▸ isKeys) not_isKeyExpression_any
    obtain ⟨atoms, present, keys, same⟩ := isKeys
    obtain ⟨some, joined⟩ := text_of_closed closed
    have equal := atomTexts_eq_of_bars written some present keys (joined.symm.trans same)
    refine ⟨?_, List.all_eq_true.mpr fun atom member => ?_⟩
    · rintro rfl
      exact some rfl
    · refine (permitsKey_iff_isKeyAtom (written atom member)).mpr (keys _ ?_)
      rw [← equal, atomTexts_eq_map]
      exact List.mem_map_of_mem member
  · rintro ⟨present, permits⟩
    have keys : ∀ text ∈ atomTexts type, IsKeyAtom text := by
      intro text member
      rw [atomTexts_eq_map] at member
      obtain ⟨atom, isAtom, rfl⟩ := List.mem_map.mp member
      exact (permitsKey_iff_isKeyAtom (written atom isAtom)).mp
        (List.all_eq_true.mp permits atom isAtom)
    have some : atomTexts type ≠ [] := by
      rw [atomTexts_eq_map]
      simpa using present
    have closed : anyText ∉ atomTexts type := fun member => not_isKeyAtom_any (keys _ member)
    refine ⟨atomTexts type, some, keys, ?_⟩
    rw [text, joined, if_neg (by simp [some, closed])]

end FieldType

/-! ## Lowering keys -/

/-- The alternatives that lowering makes have texts of their own. -/
def LoweringTerms.written : LoweringTerms := ⟨fun _ => True, TypeAtom.IsWritten, fun _ => True⟩

theorem LoweringTerms.allowsAtoms_written : LoweringTerms.written.AllowsAtoms where
  name := by
    intro atom isName
    cases atom <;> trivial
  literal value text writes := ⟨text, writes⟩
  array _ _ := trivial
  tuple _ _ := trivial
  tables _ := trivial

theorem Schema.isWritten_of_lowered {schema : Schema} {scope : LoweringScope}
    {ancestors : List Ancestor} {field : LoweredField}
    (lowers : (schema.lowered scope ancestors).outcome = .ok field) :
    ∀ atom ∈ field.type, atom.IsWritten := by
  have ends : EndsIn _ _ (schema.lowered scope ancestors).outcome := Schema.endsIn_lowered
    (Lowering.abides_run_of_atoms LoweringTerms.allowsAtoms_written (fun _ => trivial)
      (fun _ => trivial) (scope.environment.budget schema) scope schema)
  rw [lowers] at ends
  exact ends.1

namespace Lowering

variable {scope : LoweringScope} {schema key value : Schema} {state : LoweringState}

def keyOutcome (own : Except Fault LoweredField) : Except Fault Unit :=
  own.bind fun field =>
    if field.type.all FieldType.permitsKey then .ok ()
    else .error (.lowering (.unsupportedKey field.type.text) none)

theorem outcome_keyed (lower : Lowerer) (scope : LoweringScope) (key value : Schema)
    (state : LoweringState) :
    (keyed lower scope key value state).1 =
      keyOutcome (((lower { scope with openTables := [] } key) (.ofField state.ancestors)).1.map
        fun _ => .ofState ((lower { scope with openTables := [] } key)
          (.ofField state.ancestors)).2) := by
  simp only [keyed, apart, Bind.bind, ExceptT.bind, ExceptT.mk, StateT.bind]
  rcases lower { scope with openTables := [] } key (.ofField state.ancestors) with ⟨outcome, final⟩
  cases outcome with
  | error cause => rfl
  | ok done =>
      simp only [Except.map, keyOutcome, Except.bind, LoweredField.ofState, ExceptT.bindCont]
      by_cases permits : final.context.type.all FieldType.permitsKey = true
      · rw [if_pos permits, if_pos permits]
        rfl
      · rw [if_neg permits, if_neg permits]
        rfl

theorem outcome_enter_keyed (identified : scope.environment.IsIdentified)
    (isKeyed : schema.form = .record key value ∨ schema.form = .map key value)
    (isNew : state.isOpen schema = false) :
    (enter scope schema state).1 =
      keyOutcome (key.lowered ⟨scope.environment, []⟩
        (schema.identity :: state.ancestors)).outcome := by
  have isPart : key ∈ schema.form.lowered := by
    rcases isKeyed with isForm | isForm <;>
      · rw [isForm]
        exact List.mem_cons_self
  have isLower := Schema.height_lt_of_mem_lowered isPart
  have alone : run (schema.height + scope.environment.height) ⟨scope.environment, []⟩ key =
      enter ⟨scope.environment, []⟩ key := by
    refine run_eq_enter identified ?_
    change key.height + scope.environment.height + 1 ≤ _
    omega
  have keyedForm (lower : Lowerer) :
      form lower scope schema.form = keyed lower scope key value := by
    rcases isKeyed with isForm | isForm <;>
      · rw [isForm]
        rfl
  rw [enter, Environment.budget, run_of_isNew isNew, keyedForm]
  refine (outcome_keyed _ scope key value _).trans ?_
  rw [alone]
  rfl

/-- A record or map is lowered just when it is not under way and its key, on its own, is lowered to
a type that is written as keys are, or to a type without alternatives; where the key has another
type, that type is refused, and a fault of the key is a fault of the record. -/
theorem enter_keyed_iff (identified : scope.environment.IsIdentified)
    (isKeyed : schema.form = .record key value ∨ schema.form = .map key value)
    (state : LoweringState) :
    let own := (key.lowered ⟨scope.environment, []⟩ (schema.identity :: state.ancestors)).outcome
    ((enter scope schema state).1 = .ok () ↔
        state.isOpen schema = false ∧ ∃ field, own = .ok field ∧
          (FieldType.IsKeyExpression field.type.text ∨ field.type = [])) ∧
      (state.isOpen schema = false →
        (∀ field, own = .ok field → field.type ≠ [] →
          ¬FieldType.IsKeyExpression field.type.text →
            (enter scope schema state).1 =
              .error (.lowering (.unsupportedKey field.type.text) none)) ∧
        ∀ cause, own = .error cause → (enter scope schema state).1 = .error cause) := by
  intro own
  have permits {field : LoweredField} (lowers : own = .ok field) :
      field.type.all FieldType.permitsKey = true ↔
        FieldType.IsKeyExpression field.type.text ∨ field.type = [] := by
    rw [FieldType.isKeyExpression_text_iff (Schema.isWritten_of_lowered lowers)]
    by_cases none : field.type = []
    · rw [none]
      simp
    · simp [none]
  cases isOpen : state.isOpen schema with
  | true =>
      have fails : enter scope schema state =
          (.error (.lowering (.recursive schema.kind.name) none), state) :=
        @enter_of_isOpen state.place scope schema isOpen state.collected
      rw [fails]
      simp
  | false =>
      have isOwn : (enter scope schema state).1 = keyOutcome own :=
        outcome_enter_keyed identified isKeyed isOpen
      rw [isOwn]
      refine ⟨⟨fun succeeds => ⟨rfl, ?_⟩, ?_⟩, fun _ => ⟨fun field lowers some other => ?_, ?_⟩⟩
      · obtain ⟨field, lowers, permitted⟩ := (except_bind_eq_ok_iff _ _ _).mp succeeds
        refine ⟨field, lowers, (permits lowers).mp ?_⟩
        by_contra refused
        rw [if_neg refused] at permitted
        cases permitted
      · rintro ⟨-, field, lowers, isKey⟩
        rw [lowers, keyOutcome, Except.bind, if_pos ((permits lowers).mpr isKey)]
      · have refused : ¬field.type.all FieldType.permitsKey = true := by
          rw [permits lowers]
          exact not_or.mpr ⟨other, some⟩
        rw [lowers, keyOutcome, Except.bind, if_neg refused]
      · intro cause fails
        rw [fails, keyOutcome, Except.bind]

/-- Texts and whole numbers are keys, and truth values are not. -/
theorem enter_keyed_counting :
    let scope : LoweringScope := ⟨⟨[], none⟩, []⟩
    let keyedBy (key : Schema) := Schema.anonymous (.record key (.anonymous .any))
    let counting : Schema :=
      .anonymous (.union [.anonymous (.text Schema.freeText), .anonymous (.bigint none)])
    (counting.lowered scope [none]).outcome = .ok ⟨[.string, .int], false, .undefined, []⟩ ∧
      (enter scope (keyedBy counting) (.ofField [])).1 = .ok () ∧
      (enter scope (keyedBy (.anonymous .boolean)) (.ofField [])).1 =
        .error (.lowering (.unsupportedKey "bool") none) := by
  intro scope keyedBy counting
  have identified : scope.environment.IsIdentified := by simp [scope, Environment.IsIdentified]
  have lowers : (counting.lowered scope [none]).outcome =
      .ok ⟨[.string, .int], false, .undefined, []⟩ := rfl
  have isKeys : FieldType.IsKeyExpression (FieldType.text [.string, .int]) := by
    refine ⟨["string", "int"], by simp, fun atom member => .name ?_, rfl⟩
    revert atom
    decide
  have isBoolean : ¬FieldType.IsKeyExpression (FieldType.text [.bool]) := fun isKeys =>
    absurd ((FieldType.isKeyExpression_text_iff (by simp [TypeAtom.IsWritten])).mp isKeys).2
      (by decide)
  exact ⟨lowers,
    (enter_keyed_iff identified (.inl rfl) (.ofField [])).1.mpr ⟨rfl, _, lowers, .inl isKeys⟩,
    ((enter_keyed_iff identified (.inl rfl) (.ofField [])).2 rfl).1
      ⟨[.bool], false, .undefined, []⟩ rfl (by simp) isBoolean⟩

/-- A key without alternatives is written as any, which no keys are, and is not refused. -/
theorem not_enter_keyed_iff :
    let scope : LoweringScope := ⟨⟨[], none⟩, []⟩
    let key : Schema := .anonymous (.enumeration [])
    (key.lowered scope [none]).outcome = .ok ⟨[], false, .undefined, []⟩ ∧
      FieldType.text [] = "any" ∧ ¬FieldType.IsKeyExpression "any" ∧
        (enter scope (.anonymous (.record key (.anonymous .any))) (.ofField [])).1 = .ok () :=
  ⟨rfl, rfl, FieldType.not_isKeyExpression_any, rfl⟩

end Lowering

end TypedTables
