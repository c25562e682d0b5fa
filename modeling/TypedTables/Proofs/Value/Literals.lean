import TypedTables.Proofs.Effect.Settling
import TypedTables.Proofs.Text.Sealing

/-!
# Texts of literals

A literal is a quoted text, an array, an object, a number or one of a few words. Numbers and words
show no marks, quoted texts hide theirs, so literals are sealed: a bar in a literal is inside quotes.
No literal reads like the name of a type.
-/

namespace TypedTables

namespace Text

open ReadingState

/-! ## Texts without marks -/

/-- A character that starts no quoted part and is no bracket or bar. -/
def isUnmarked (character : Char) : Bool :=
  character != '\x22' && character != '\x60' && character != '<' && character != '>' &&
    character != '|'

theorem step_unmarked {depth : Nat} {character : Char} (unmarked : isUnmarked character = true) :
    step ⟨.outside, depth⟩ character = some ⟨.outside, depth⟩ := by
  simp only [isUnmarked, Bool.and_eq_true, bne_iff_ne, ne_eq] at unmarked
  simp [step, unmarked]

theorem read_unmarked {depth : Nat} {characters : List Char}
    (unmarked : ∀ character ∈ characters, isUnmarked character = true) :
    read ⟨.outside, depth⟩ characters = some ⟨.outside, depth⟩ := by
  induction characters with
  | nil => rfl
  | cons character rest ih =>
      rw [read_cons, step_unmarked (unmarked character (by simp))]
      exact ih fun next member => unmarked next (by simp [member])

theorem IsSealed.of_unmarked {characters : List Char}
    (unmarked : ∀ character ∈ characters, isUnmarked character = true) : IsSealed characters :=
  read_unmarked unmarked

/-! ## Numbers -/

def isNumeral (character : Char) : Bool :=
  character.isDigit || character == '-' || character == '+' || character == '.' ||
    character == 'e'

theorem isNumeral_of_isDigit {character : Char} (digit : character.isDigit = true) :
    isNumeral character = true := by
  simp [isNumeral, digit]

theorem isNumeral_toDigits {number : Nat} {character : Char}
    (member : character ∈ Nat.toDigits 10 number) : isNumeral character = true :=
  isNumeral_of_isDigit (Nat.isDigit_of_mem_toDigits (by decide) (by decide) member)

/-- A whole number is written with digits and at most a minus sign. -/
theorem isDigit_integer {number : Int} {character : Char}
    (member : character ∈ (toString number).toList) :
    character.isDigit = true ∨ character = '-' := by
  have digit {size : Nat} (among : character ∈ Nat.toDigits 10 size) : character.isDigit = true :=
    Nat.isDigit_of_mem_toDigits (by decide) (by decide) among
  rw [Int.toString_eq_repr, Int.repr_eq_if] at member
  split at member
  · rw [Nat.toList_repr] at member
    exact Or.inl (digit member)
  · rw [String.toList_append, Nat.toList_repr] at member
    rcases List.mem_append.mp member with sign | among
    · exact Or.inr (List.mem_singleton.mp sign)
    · exact Or.inl (digit among)

theorem isNumeral_integer {number : Int} {character : Char}
    (member : character ∈ (toString number).toList) : isNumeral character = true := by
  rcases isDigit_integer member with digit | rfl
  · exact isNumeral_of_isDigit digit
  · decide

end Text

open Text (isNumeral isNumeral_of_isDigit isNumeral_toDigits)

theorem DecimalDigits.isNumeral_ofNat {digits : Nat} {exponent : Int} {character : Char}
    (member : character ∈ (ofNat digits exponent).digits) : isNumeral character = true := by
  unfold ofNat at member
  have kept := List.dropWhile_subset _ (List.mem_reverse.mp member)
  exact isNumeral_toDigits (List.mem_reverse.mp kept)

theorem DecimalDigits.candidate?_eq_ofNat {interval : RoundingInterval} {value : Quotient}
    {place : Int} {found : DecimalDigits} (finds : candidate? interval value place = some found) :
    ∃ digits exponent, found = ofNat digits exponent := by
  unfold candidate? at finds
  simp only at finds
  split at finds
  · cases finds
  · exact ⟨_, _, (Option.some.inj finds).symm⟩
  · exact ⟨_, _, (Option.some.inj finds).symm⟩
  · split at finds
    · exact ⟨_, _, (Option.some.inj finds).symm⟩
    · exact ⟨_, _, (Option.some.inj finds).symm⟩

theorem DecimalDigits.isNumeral_shortest {significand : Nat} {exponent : Int} {character : Char}
    (member : character ∈ (shortest significand exponent).digits) : isNumeral character = true := by
  unfold shortest at member
  simp only at member
  cases found : List.findSome? (candidate? (.around significand exponent)
      (.ofBinary significand exponent)) ((List.range 17).map fun count =>
        (Quotient.ofBinary significand exponent).pointPosition - 1 - Int.ofNat count) with
  | none =>
      rw [found] at member
      exact isNumeral_ofNat member
  | some decimal =>
      rw [found] at member
      obtain ⟨place, -, finds⟩ := List.exists_of_findSome?_eq_some found
      obtain ⟨digits, power, rfl⟩ := candidate?_eq_ofNat finds
      exact isNumeral_ofNat member

namespace FloatLayout

theorem isNumeral_exponentText (layout : FloatLayout) {exponent : Int} {character : Char}
    (member : character ∈ layout.exponentText exponent) : isNumeral character = true := by
  unfold exponentText at member
  rcases List.mem_cons.mp member with rfl | afterMark
  · decide
  · rcases List.mem_cons.mp afterMark with sign | afterSign
    · rw [sign]
      split <;> decide
    · rcases List.mem_append.mp afterSign with padding | digit
      · rw [List.eq_of_mem_replicate padding]
        decide
      · exact isNumeral_toDigits digit

theorem isNumeral_scientific (layout : FloatLayout) {decimal : DecimalDigits}
    (digits : ∀ character ∈ decimal.digits, isNumeral character = true) :
    ∀ character ∈ layout.scientific decimal, isNumeral character = true := by
  intro character member
  unfold scientific at member
  split at member
  · rw [List.mem_singleton.mp member]
    decide
  · rename_i lead only
    rcases List.mem_cons.mp member with rfl | inExponent
    · exact digits _ (by simp [only])
    · exact layout.isNumeral_exponentText inExponent
  · rename_i lead rest _ whole
    rcases List.mem_cons.mp member with rfl | afterLead
    · exact digits _ (by simp [whole])
    · rcases List.mem_cons.mp afterLead with rfl | afterPoint
      · decide
      · rcases List.mem_append.mp afterPoint with digit | inExponent
        · exact digits _ (by simp [whole, digit])
        · exact layout.isNumeral_exponentText inExponent

theorem isNumeral_positional {decimal : DecimalDigits}
    (digits : ∀ character ∈ decimal.digits, isNumeral character = true) :
    ∀ character ∈ positional decimal, isNumeral character = true := by
  have zero : isNumeral '0' = true := by decide
  have point : isNumeral '.' = true := by decide
  intro character member
  unfold positional at member
  split at member
  · rcases List.mem_cons.mp member with rfl | afterZero
    · exact zero
    · rcases List.mem_cons.mp afterZero with rfl | afterPoint
      · exact point
      · rcases List.mem_append.mp afterPoint with padding | digit
        · rw [List.eq_of_mem_replicate padding]
          exact zero
        · exact digits character digit
  · simp only [List.append_assoc] at member
    rcases List.mem_append.mp member with whole | remaining
    · exact digits character (List.mem_of_mem_take whole)
    · rcases List.mem_append.mp remaining with padding | afterWhole
      · rw [List.eq_of_mem_replicate padding]
        exact zero
      · rcases List.mem_cons.mp afterWhole with rfl | fraction
        · exact point
        · split at fraction
          · rw [List.mem_singleton.mp fraction]
            exact zero
          · exact digits character (List.mem_of_mem_drop fraction)

/-- A finite number is written with digits, signs, a point and the mark of an exponent. -/
theorem isNumeral_write (layout : FloatLayout) (negative : Bool) (significand : Nat)
    (exponent : Int) :
    ∀ character ∈ (layout.write (.finite negative significand exponent)).toList,
      isNumeral character = true := by
  have digits : ∀ character ∈ (DecimalDigits.shortest significand exponent).digits,
      isNumeral character = true := fun _ member => DecimalDigits.isNumeral_shortest member
  have body : ∀ character ∈ (if significand = 0 then ['0', '.', '0']
      else
        let decimal := DecimalDigits.shortest significand exponent
        if layout.leastPositional ≤ decimal.point - 1 &&
            decimal.point - 1 < layout.firstScientific then positional decimal
        else layout.scientific decimal), isNumeral character = true := by
    intro character member
    split at member
    · simp only [List.mem_cons, List.not_mem_nil, or_false] at member
      rcases member with rfl | rfl | rfl <;> decide
    · simp only at member
      split at member
      · exact isNumeral_positional digits character member
      · exact layout.isNumeral_scientific digits character member
  intro character member
  simp only [write, String.toList_ofList] at member
  split at member
  · rcases List.mem_cons.mp member with rfl | inBody
    · decide
    · exact body character inBody
  · exact body character member

end FloatLayout
/-! ## Quoted texts -/

namespace Json

open Text Text.ReadingState

theorem read_inside {mark : Char} {depth : Nat} {characters : List Char}
    (plain : ∀ character ∈ characters, character ≠ '\x5c' ∧ character ≠ mark) :
    read ⟨.inside mark, depth⟩ characters = some ⟨.inside mark, depth⟩ := by
  induction characters with
  | nil => rfl
  | cons character rest ih =>
      obtain ⟨backslash, quote⟩ := plain character (by simp)
      have stays : step ⟨.inside mark, depth⟩ character = some ⟨.inside mark, depth⟩ := by
        simp [step, backslash, quote]
      rw [read_cons, stays]
      exact ih fun next member => plain next (by simp [member])

theorem plain_hexDigits {count value : Nat} :
    ∀ character ∈ Uuid.hexDigits count value, character ≠ '\x5c' ∧ character ≠ '\x22' := by
  intro character member
  obtain ⟨place, -, rfl⟩ := List.mem_map.mp member
  have digits : ∀ digit < 16, Nat.digitChar digit ≠ '\x5c' ∧ Nat.digitChar digit ≠ '\x22' := by
    decide
  exact digits _ (Nat.mod_lt _ (by decide))

theorem read_unitEscape (depth unit : Nat) :
    read ⟨.inside '\x22', depth⟩ (unitEscape unit) = some ⟨.inside '\x22', depth⟩ := by
  have escapes : step ⟨.inside '\x22', depth⟩ '\x5c' = some ⟨.escaped '\x22', depth⟩ := rfl
  have letter : step ⟨.escaped '\x22', depth⟩ 'u' = some ⟨.inside '\x22', depth⟩ := rfl
  rw [unitEscape, read_cons, escapes, Option.bind_some, read_cons, letter, Option.bind_some]
  exact read_inside plain_hexDigits

theorem read_flatMap {α : Type} {state : ReadingState} {items : List α} {write : α → List Char}
    (each : ∀ item ∈ items, state.read (write item) = some state) :
    state.read (items.flatMap write) = some state := by
  induction items with
  | nil => rfl
  | cons item rest ih =>
      rw [List.flatMap_cons, read_append, each item (by simp), Option.bind_some]
      exact ih fun next member => each next (by simp [member])

/-- One quoted character leaves a reader between the quotation marks. -/
theorem read_quotedCharacter (asciiOnly : Bool) (depth : Nat) (character : Char) :
    read ⟨.inside '\x22', depth⟩ (quotedCharacter asciiOnly character) =
      some ⟨.inside '\x22', depth⟩ := by
  unfold quotedCharacter
  split
  · rfl
  · rename_i quote
    split
    · rfl
    · rename_i backslash
      repeat
        split
        · rfl
      split
      · exact read_flatMap fun unit _ => read_unitEscape depth unit
      · exact read_inside (by simp [quote, backslash])

theorem isSealed_quoted (asciiOnly : Bool) (text : String) :
    IsSealed (quoted asciiOnly text).toList := by
  have opens : start.step '\x22' = some ⟨.inside '\x22', 0⟩ := rfl
  rw [quoted, String.toList_ofList, quotedCharacters, IsSealed, read_cons, opens,
    Option.bind_some, read_append,
    read_flatMap fun character _ => read_quotedCharacter asciiOnly 0 character]
  rfl

end Json

/-! ## Written values -/

namespace Written

open Text

/-- A character of numbers, words and the punctuation of containers. -/
def isLiteralMark (character : Char) : Bool :=
  isNumeral character || character.isAlpha ||
    [',', ':', ' ', '[', ']', '\x7b', '\x7d'].contains character

theorem isUnmarked_of_isLiteralMark {character : Char} (mark : isLiteralMark character = true) :
    isUnmarked character = true := by
  have apart : (['\x22', '\x60', '<', '>', '|'].all fun other => !isLiteralMark other) = true := by
    decide
  cases unmarked : isUnmarked character with
  | true => rfl
  | false =>
      have isMark : character ∈ ['\x22', '\x60', '<', '>', '|'] := by
        simp only [isUnmarked, Bool.and_eq_false_iff, bne_eq_false_iff_eq] at unmarked
        simpa [or_assoc] using unmarked
      have none := List.all_eq_true.mp apart character isMark
      simp [mark] at none

/-- A property of texts that numbers, words, punctuation and the quoted texts of a style have, and
texts that are put together from such. -/
structure Composable (style : WritingStyle) (holds : List Char → Prop) : Prop where
  append : ∀ first second, holds first → holds second → holds (first ++ second)
  plain : ∀ text : List Char, text.all isLiteralMark = true → holds text
  quoted : ∀ text, holds (Json.quoted style.asciiOnly text).toList

namespace Composable

variable {style : WritingStyle} {holds : List Char → Prop}

theorem integer (composable : Composable style holds) (number : Int) :
    holds (toString number).toList :=
  composable.plain _ (List.all_eq_true.mpr fun _ member => by
    simp [isLiteralMark, isNumeral_integer member])

theorem truthWord (composable : Composable style holds) (value : Bool) :
    holds (truthWord value).toList := by
  cases value <;> exact composable.plain _ (by decide)

theorem float (composable : Composable style holds) (number : Binary64) :
    holds (dataFloat.write number).toList := by
  cases number with
  | infinite negative => cases negative <;> exact composable.plain _ (by decide)
  | finite negative significand exponent =>
      refine composable.plain _ (List.all_eq_true.mpr fun character member => ?_)
      simp [isLiteralMark, dataFloat.isNumeral_write negative significand exponent character member]

theorem commas (composable : Composable style holds) {texts : List String}
    (all : ∀ text ∈ texts, holds text.toList) : holds (", ".intercalate texts).toList := by
  induction texts with
  | nil => exact composable.plain _ (by decide)
  | cons text rest ih =>
      have first := all text (by simp)
      have others := ih fun next member => all next (by simp [member])
      cases rest with
      | nil => simpa using first
      | cons next more =>
          rw [String.intercalate_cons_cons, String.toList_append, String.toList_append]
          exact composable.append _ _ (composable.append _ _ first (composable.plain _ (by decide)))
            others

theorem between (composable : Composable style holds) {opening body closing : String}
    (opens : opening.toList.all isLiteralMark = true) (inner : holds body.toList)
    (closes : closing.toList.all isLiteralMark = true) :
    holds (opening ++ body ++ closing).toList := by
  rw [String.toList_append, String.toList_append]
  exact composable.append _ _ (composable.append _ _ (composable.plain _ opens) inner)
    (composable.plain _ closes)

theorem arrayText (composable : Composable style holds) {items : List String}
    (all : ∀ item ∈ items, holds item.toList) : holds (arrayText items).toList :=
  composable.between (by decide) (composable.commas all) (by decide)

theorem objectText (composable : Composable style holds) {entries : List String}
    (all : ∀ entry ∈ entries, holds entry.toList) : holds (objectText entries).toList :=
  composable.between (by decide) (composable.commas all) (by decide)

theorem otherText (composable : Composable style holds) {value : Value} {text : String}
    (writes : otherText style value = .ok text) : holds text.toList := by
  cases style with
  | log =>
      cases writes
      exact composable.quoted _
  | literal =>
      cases value with
      | timestamp moment | date day | uuid identifier =>
          rw [Written.otherText, Except.ok.injEq] at writes
          subst writes
          exact composable.quoted _
      | decimal number =>
          rw [Written.otherText, Except.ok.injEq] at writes
          subst writes
          cases number.toBinary64? with
          | none => exact composable.plain _ (by decide)
          | some rounded => exact composable.float rounded
      | _ => cases writes

mutual

/-- Written values are put together from numbers, words, punctuation and quoted texts. -/
theorem write {style : WritingStyle} (composable : Composable style holds) (value : Value)
    {text : String} (writes : Written.write style value = .ok text) : holds text.toList := by
  cases value with
  | null =>
      rw [Written.write, Except.ok.injEq] at writes
      subst writes
      exact composable.plain _ (by decide)
  | boolean truth =>
      rw [Written.write, Except.ok.injEq] at writes
      subst writes
      exact composable.truthWord truth
  | integer number =>
      rw [Written.write, Except.ok.injEq] at writes
      subst writes
      exact composable.integer number
  | float number =>
      rw [Written.write, Except.ok.injEq] at writes
      subst writes
      exact composable.float number
  | notANumber token =>
      rw [Written.write, Except.ok.injEq] at writes
      subst writes
      exact composable.plain _ (by decide)
  | text characters =>
      rw [Written.write, Except.ok.injEq] at writes
      subst writes
      exact composable.quoted _
  | list items =>
      rw [Written.write] at writes
      obtain ⟨texts, written, rfl⟩ := (except_map_eq_ok_iff _ _ _).mp writes
      exact composable.arrayText (writeItems composable items written)
  | tuple items =>
      rw [Written.write] at writes
      obtain ⟨texts, written, rfl⟩ := (except_map_eq_ok_iff _ _ _).mp writes
      exact composable.arrayText (writeItems composable items written)
  | mapping entries =>
      rw [Written.write] at writes
      obtain ⟨texts, written, rfl⟩ := (except_map_eq_ok_iff _ _ _).mp writes
      exact composable.objectText (writeEntries composable entries written)
  | set members =>
      cases style with
      | log =>
          rw [Written.write] at writes
          exact composable.otherText writes
      | literal =>
          rw [Written.write] at writes
          obtain ⟨texts, written, rfl⟩ := (except_map_eq_ok_iff _ _ _).mp writes
          exact composable.arrayText (writeItems composable members written)
  | frozenSet members =>
      cases style with
      | log =>
          rw [Written.write] at writes
          exact composable.otherText writes
      | literal =>
          rw [Written.write] at writes
          obtain ⟨texts, written, rfl⟩ := (except_map_eq_ok_iff _ _ _).mp writes
          exact composable.arrayText (writeItems composable members written)
  | record table identifier =>
      rw [Written.write] at writes
      obtain ⟨written, -, rfl⟩ := (except_map_eq_ok_iff _ _ _).mp writes
      exact composable.quoted _
  | _ =>
      simp only [Written.write] at writes
      exact composable.otherText writes
termination_by structural value

theorem writeItems {style : WritingStyle} (composable : Composable style holds) (items : List Value)
    {texts : List String} (writes : Written.writeItems style items = .ok texts) :
    ∀ text ∈ texts, holds text.toList := by
  cases items with
  | nil =>
      rw [Written.writeItems, Except.ok.injEq] at writes
      simp [← writes]
  | cons item rest =>
      rw [Written.writeItems] at writes
      obtain ⟨first, writesFirst, remaining⟩ := (except_bind_eq_ok_iff _ _ _).mp writes
      obtain ⟨others, writesOthers, rfl⟩ := (except_map_eq_ok_iff _ _ _).mp remaining
      intro text member
      rcases List.mem_cons.mp member with rfl | later
      · exact write composable item writesFirst
      · exact writeItems composable rest writesOthers text later
termination_by structural items

theorem writeEntries {style : WritingStyle} (composable : Composable style holds)
    (entries : List (Value × Value)) {texts : List String}
    (writes : Written.writeEntries style entries = .ok texts) :
    ∀ text ∈ texts, holds text.toList := by
  cases entries with
  | nil =>
      rw [Written.writeEntries, Except.ok.injEq] at writes
      simp [← writes]
  | cons entry rest =>
      rcases entry with ⟨key, item⟩
      rw [Written.writeEntries] at writes
      obtain ⟨keyWritten, -, afterKey⟩ := (except_bind_eq_ok_iff _ _ _).mp writes
      obtain ⟨itemWritten, writesItem, remaining⟩ := (except_bind_eq_ok_iff _ _ _).mp afterKey
      obtain ⟨others, writesOthers, rfl⟩ := (except_map_eq_ok_iff _ _ _).mp remaining
      intro text member
      rcases List.mem_cons.mp member with rfl | later
      · have whole := composable.append _ _ (composable.append _ _
          (composable.quoted keyWritten) (composable.plain ": ".toList (by decide)))
          (write composable item writesItem)
        simpa [toString] using whole
      · exact writeEntries composable rest writesOthers text later
termination_by structural entries

end

theorem literal (composable : Composable .literal holds) {value : Value} {text : String}
    (writes : value.literal = .ok text) : holds text.toList := by
  unfold Value.literal at writes
  split at writes
  · cases writes
    exact composable.plain _ (by decide)
  · exact composable.write value writes

end Composable

theorem composable_isSealed (style : WritingStyle) : Composable style IsSealed where
  append _ _ := .append
  plain _ plain := .of_unmarked fun character member =>
    isUnmarked_of_isLiteralMark (List.all_eq_true.mp plain character member)
  quoted := Json.isSealed_quoted style.asciiOnly

/-! ## Literals and the names of types -/

/-- A character that the name of a type begins with. -/
def opensName (character : Char) : Bool :=
  ['a', 'b', 'd', 'f', 'i', 'n', 'o', 'r', 's', 'u'].contains character

/-- The text begins like no name of a type. -/
def IsNameless (characters : List Char) : Prop :=
  ∀ character ∈ characters.head?, opensName character = false

theorem IsNameless.of_numerals {characters : List Char}
    (numerals : ∀ character ∈ characters, isNumeral character = true) : IsNameless characters := by
  have apart : ∀ character, opensName character = true → isNumeral character = false := by
    intro character opens
    simp only [opensName, List.contains_eq_mem, decide_eq_true_eq, List.mem_cons,
      List.not_mem_nil, or_false] at opens
    rcases opens with rfl | rfl | rfl | rfl | rfl | rfl | rfl | rfl | rfl | rfl <;> decide
  intro character first
  have numeral := numerals character (List.mem_of_mem_head? first)
  cases opens : opensName character with
  | false => rfl
  | true => simp [apart character opens] at numeral

theorem IsNameless.of_cons {character : Char} (rest : List Char)
    (apart : opensName character = false) : IsNameless (character :: rest) := by
  intro first isFirst
  cases isFirst
  exact apart

theorem isNameless_quoted (asciiOnly : Bool) (text : String) :
    IsNameless (Json.quoted asciiOnly text).toList := by
  rw [Json.quoted, String.toList_ofList]
  exact .of_cons _ rfl

theorem isNameless_arrayText (items : List String) : IsNameless (arrayText items).toList := by
  rw [arrayText, String.toList_append, String.toList_append]
  exact .of_cons _ rfl

theorem isNameless_objectText (entries : List String) :
    IsNameless (objectText entries).toList := by
  rw [objectText, String.toList_append, String.toList_append]
  exact .of_cons _ rfl

theorem isNameless_float (number : Binary64) : IsNameless (dataFloat.write number).toList := by
  cases number with
  | infinite negative => cases negative <;> exact .of_cons _ (by decide)
  | finite negative significand exponent =>
      exact .of_numerals (dataFloat.isNumeral_write negative significand exponent)

theorem isNameless_otherText {value : Value} {text : String}
    (writes : otherText .literal value = .ok text) : IsNameless text.toList := by
  cases value with
  | timestamp moment | date day | uuid identifier =>
      rw [otherText, Except.ok.injEq] at writes
      subst writes
      exact isNameless_quoted _ _
  | decimal number =>
      rw [otherText, Except.ok.injEq] at writes
      subst writes
      cases number.toBinary64? with
      | none => exact .of_cons _ (by decide)
      | some rounded => exact isNameless_float rounded
  | _ => cases writes

/-- A literal begins like no name of a type, but for one word. -/
theorem isNameless_write {value : Value} {text : String} (present : value.isNull = false)
    (writes : write .literal value = .ok text) : text = "false" ∨ IsNameless text.toList := by
  cases value with
  | null => cases present
  | boolean truth =>
      rw [write, Except.ok.injEq] at writes
      subst writes
      cases truth with
      | false => exact Or.inl rfl
      | true => exact Or.inr (.of_cons _ (by decide))
  | integer number =>
      rw [write, Except.ok.injEq] at writes
      subst writes
      exact Or.inr (.of_numerals fun _ member => isNumeral_integer member)
  | float number =>
      rw [write, Except.ok.injEq] at writes
      subst writes
      exact Or.inr (isNameless_float number)
  | notANumber token =>
      rw [write, Except.ok.injEq] at writes
      subst writes
      exact Or.inr (.of_cons _ (by decide))
  | text characters =>
      rw [write, Except.ok.injEq] at writes
      subst writes
      exact Or.inr (isNameless_quoted _ _)
  | list items | tuple items | set items | frozenSet items =>
      rw [write] at writes
      obtain ⟨texts, -, rfl⟩ := (except_map_eq_ok_iff _ _ _).mp writes
      exact Or.inr (isNameless_arrayText texts)
  | mapping entries =>
      rw [write] at writes
      obtain ⟨texts, -, rfl⟩ := (except_map_eq_ok_iff _ _ _).mp writes
      exact Or.inr (isNameless_objectText texts)
  | record table identifier =>
      rw [write] at writes
      obtain ⟨written, -, rfl⟩ := (except_map_eq_ok_iff _ _ _).mp writes
      exact Or.inr (isNameless_quoted _ _)
  | _ =>
      simp only [write] at writes
      exact Or.inr (isNameless_otherText writes)

end Written

namespace Value

theorem isSealed_literal {value : Value} {text : String} (writes : value.literal = .ok text) :
    Text.IsSealed text.toList :=
  (Written.composable_isSealed .literal).literal writes

theorem isNameless_literal {value : Value} {text : String} (writes : value.literal = .ok text) :
    text = "false" ∨ Written.IsNameless text.toList := by
  unfold literal at writes
  split at writes
  · cases writes
    exact Or.inr (.of_cons _ (by decide))
  · rename_i present
    exact Written.isNameless_write (by simpa using present) writes

end Value
end TypedTables
