import Mathlib.Data.List.Chain
import Mathlib.Data.List.Forall2
import TypedTables.Proofs.Json.Reading
import TypedTables.Proofs.Value.Likeness
import TypedTables.Proofs.Value.Literals

/-!
# Written data are read back

Null, truth values, whole numbers, texts, lists and mappings under names are written so that a reader
of data notation takes exactly their text and gives the datum back, whatever comes after it; only a
number needs to be followed by what goes on with no number. In a text no high half may stand
directly before a low one: the two are written as the character that they are the halves of, and
are read as that character.
-/

namespace TypedTables

namespace Point

def isHigh : Point → Bool
  | .half unit => unit.unit < 0xdc00
  | .character _ => false

def isLow : Point → Bool
  | .half unit => 0xdc00 ≤ unit.unit
  | .character _ => false

/-- No high half stands directly before a low one. -/
def Unpaired (points : List Point) : Prop :=
  points.IsChain fun first second => (first.isHigh && second.isLow) = false

theorem unpaired_ofCharacters (characters : List Char) : Unpaired (ofCharacters characters) := by
  induction characters with
  | nil => exact .nil
  | cons first rest ih => exact List.isChain_cons.mpr ⟨fun _ _ => rfl, ih⟩

theorem unpaired_of_mem_map_ofText {texts : List String} {points : List Point}
    (member : points ∈ texts.map ofText) : Unpaired points := by
  obtain ⟨text, -, rfl⟩ := List.mem_map.mp member
  exact unpaired_ofCharacters text.toList

end Point

namespace Json

/-! ## Code points -/

def beginsLow : List Piece → Bool
  | .unit unit :: _ => isLowHalf unit
  | _ => false

/-- The pieces are joined to the point, unless it is a high half and a low one follows. -/
structure StandFor (pieces : List Piece) (point : Point) : Prop where
  joined (others : List Piece) (apart : (point.isHigh && beginsLow others) = false) :
    joined (pieces ++ others) = point :: joined others
  beginsLow (others : List Piece) : beginsLow (pieces ++ others) = point.isLow

/-- The text is read as pieces that stand for the point, and what follows it as it would be read
without it. -/
def ReadsAs (written : List Char) (point : Point) : Prop :=
  ∃ pieces, StandFor pieces point ∧ ∀ rest, readPieces? (written ++ rest) =
    (readPieces? rest).map fun (others, remaining) => (pieces ++ others, remaining)

theorem joined_unit {unit : Nat} {others : List Piece}
    (apart : (isHighHalf unit && beginsLow others) = false) :
    joined (.unit unit :: others) = Point.ofNat unit :: joined others := by
  cases others with
  | nil => rfl
  | cons piece more =>
      cases piece with
      | character character => rfl
      | unit low =>
          have single : ¬(isHighHalf unit && isLowHalf low) = true := by
            rw [Bool.not_eq_true]
            exact apart
          rw [joined, if_neg single]

theorem standFor_character (character : Char) :
    StandFor [.character character] (.character character) where
  joined _ _ := rfl
  beginsLow _ := rfl

theorem readsAs_named {mark character : Char}
    (isNamed : namedEscapes.lookup mark = some character) :
    ReadsAs ['\x5c', mark] (.character character) := by
  have noNumber : mark ≠ 'u' := by
    rintro rfl
    cases isNamed
  refine ⟨[.character character], standFor_character character, fun rest => ?_⟩
  rw [List.cons_append, List.singleton_append, readPieces?, isNamed]
  · rfl
  · simp [noNumber]

theorem readsAs_bare {character : Char} (noQuote : character ≠ '\x22')
    (noBackslash : character ≠ '\x5c') (noControl : ¬character.toNat < 0x20) :
    ReadsAs [character] (.character character) := by
  refine ⟨[.character character], standFor_character character, fun rest => ?_⟩
  rw [List.singleton_append, readPieces?, if_neg noControl]
  · rfl
  · exact noQuote
  · simp [noBackslash]
  · simp [noBackslash]

theorem hexDigit?_digitChar : ∀ digit < 16, Uuid.hexDigit? (Nat.digitChar digit) = some digit := by
  decide

theorem hexDigits_four (unit : Nat) :
    Uuid.hexDigits 4 unit = [Nat.digitChar (unit / 4096 % 16), Nat.digitChar (unit / 256 % 16),
      Nat.digitChar (unit / 16 % 16), Nat.digitChar (unit / 1 % 16)] := rfl

theorem hexValue?_hexDigits {unit : Nat} (small : unit < 0x10000) :
    Uuid.hexValue? (Uuid.hexDigits 4 unit) = some unit := by
  have digit (size : Nat) : Uuid.hexDigit? (Nat.digitChar (size % 16)) = some (size % 16) :=
    hexDigit?_digitChar _ (Nat.mod_lt _ (by decide))
  rw [hexDigits_four, Uuid.hexValue?]
  simp only [List.foldlM_cons, List.foldlM_nil, digit]
  show some ((((0 * 16 + unit / 4096 % 16) * 16 + unit / 256 % 16) * 16 + unit / 16 % 16) * 16 +
    unit / 1 % 16) = some unit
  congr 1
  omega

theorem readPieces?_unitEscape {unit : Nat} (small : unit < 0x10000) (rest : List Char) :
    readPieces? (unitEscape unit ++ rest) =
      (readPieces? rest).map fun (others, remaining) => (.unit unit :: others, remaining) := by
  have digits := hexValue?_hexDigits small
  rw [hexDigits_four] at digits
  rw [unitEscape, hexDigits_four]
  simp only [List.cons_append, List.nil_append]
  rw [readPieces?, digits]
  rfl

theorem readsAs_unitEscape {unit : Nat} {point : Point} (small : unit < 0x10000)
    (isPoint : Point.ofNat unit = point) (high : isHighHalf unit = point.isHigh)
    (low : isLowHalf unit = point.isLow) : ReadsAs (unitEscape unit) point := by
  refine ⟨[.unit unit], ⟨fun others apart => ?_, fun others => low⟩, readPieces?_unitEscape small⟩
  rw [List.singleton_append, joined_unit (by rw [high, apart]), isPoint]

theorem readsAs_half (half : Half) : ReadsAs (unitEscape half.unit) (.half half) := by
  obtain ⟨least, less⟩ := half.isHalf
  refine readsAs_unitEscape (by omega) ?_ ?_ ?_
  · rw [Point.ofNat, dif_pos half.isHalf]
  · simp [isHighHalf, Point.isHigh, least]
  · simp [isLowHalf, Point.isLow, less]

theorem readsAs_codeUnits (character : Char) :
    ReadsAs ((codeUnits character).flatMap unitEscape) (.character character) := by
  have valid : character.toNat < 0xd800 ∨ 0xdfff < character.toNat ∧ character.toNat < 0x110000 :=
    character.valid
  by_cases single : character.toNat < 0x10000
  · have units : codeUnits character = [character.toNat] := by simp [codeUnits, single]
    rw [units, List.flatMap_singleton]
    refine readsAs_unitEscape single ?_ ?_ ?_
    · rw [Point.ofNat, dif_neg (by omega), Char.ofNat_toNat]
    · grind [isHighHalf, Point.isHigh]
    · grind [isLowHalf, Point.isLow]
  · obtain ⟨high, low, units, isHigh, isLow, together⟩ : ∃ high low,
        codeUnits character = [high, low] ∧ isHighHalf high = true ∧ isLowHalf low = true ∧
          joinHalves high low = character := by
      refine ⟨_, _, by rw [codeUnits, if_neg single], ?_, ?_, ?_⟩
      · grind [isHighHalf]
      · grind [isLowHalf]
      · have whole : 0x10000 + (0xd800 + (character.toNat - 0x10000) / 0x400 - 0xd800) * 0x400 +
            (0xdc00 + (character.toNat - 0x10000) % 0x400 - 0xdc00) = character.toNat := by omega
        rw [joinHalves, whole, Char.ofNat_toNat]
    have smallHigh : high < 0x10000 := by grind [isHighHalf]
    have smallLow : low < 0x10000 := by grind [isLowHalf]
    refine ⟨[.unit high, .unit low], ⟨fun others _ => ?_, fun others => ?_⟩, fun rest => ?_⟩
    · rw [List.cons_append, List.singleton_append, joined, isHigh, isLow, together]
      rfl
    · change isLowHalf high = false
      grind [isHighHalf, isLowHalf]
    · rw [units, List.flatMap_cons, List.flatMap_singleton, List.append_assoc,
        readPieces?_unitEscape smallHigh, readPieces?_unitEscape smallLow, Option.map_map]
      rfl

theorem readsAs_quotedCharacter (asciiOnly : Bool) (character : Char) :
    ReadsAs (quotedCharacter asciiOnly character) (.character character) := by
  unfold quotedCharacter
  split
  · rename_i quote
    subst quote
    exact readsAs_named rfl
  · rename_i noQuote
    split
    · rename_i backslash
      subst backslash
      exact readsAs_named rfl
    · rename_i noBackslash
      -- The line end, the return, the tab, the form feed and the backspace.
      repeat
        split
        · rename_i named
          subst named
          exact readsAs_named rfl
      split
      · exact readsAs_codeUnits character
      · rename_i noEscape
        exact readsAs_bare noQuote noBackslash fun control => noEscape (by simp [control])

theorem readsAs_quotedPoint (point : Point) : ReadsAs (quotedPoint point) point := by
  cases point with
  | character character => exact readsAs_quotedCharacter true character
  | half half => exact readsAs_half half

/-! ## Quoted texts -/

section

variable {α : Type} {write : α → List Char} {point : α → Point} {items : List α}

/-- The pieces of a text begin with a low half where the text does. -/
theorem exists_readPieces? (each : ∀ item, ReadsAs (write item) (point item))
    (unpaired : Point.Unpaired (items.map point)) :
    ∃ pieces, joined pieces = items.map point ∧
      beginsLow pieces = (items.map point).head?.any Point.isLow ∧
      ∀ rest, readPieces? (items.flatMap write ++ '\x22' :: rest) = some (pieces, rest) := by
  induction items with
  | nil => exact ⟨[], rfl, rfl, fun rest => by rw [List.flatMap_nil, List.nil_append, readPieces?]⟩
  | cons item more ih =>
      obtain ⟨next, unpairedMore⟩ := List.isChain_cons.mp unpaired
      obtain ⟨others, joinedOthers, begins, reads⟩ := ih unpairedMore
      obtain ⟨pieces, stand, readsFirst⟩ := each item
      have apart : ((point item).isHigh && beginsLow others) = false := by
        rw [begins]
        cases first : (more.map point).head? with
        | none => exact Bool.and_false _
        | some second => exact next second first
      refine ⟨pieces ++ others, ?_, ?_, fun rest => ?_⟩
      · rw [stand.joined others apart, joinedOthers, List.map_cons]
      · rw [stand.beginsLow, List.map_cons, List.head?_cons, Option.any_some]
      · rw [List.flatMap_cons, List.append_assoc, readsFirst, reads]
        rfl

/-- A quoted text ends at its own quotation mark and nowhere before. -/
theorem readText?_quotedItems (each : ∀ item, ReadsAs (write item) (point item))
    (unpaired : Point.Unpaired (items.map point)) (rest : List Char) :
    readText? (items.flatMap write ++ ['\x22'] ++ rest) = some (items.map point, rest) := by
  obtain ⟨pieces, same, -, reads⟩ := exists_readPieces? each unpaired
  rw [List.append_assoc, List.singleton_append, readText?, reads, ← same]
  rfl

end

theorem readText?_quoted (asciiOnly : Bool) (text : String) (rest : List Char) :
    ∃ body, (quoted asciiOnly text).toList = '\x22' :: body ∧
      readText? (body ++ rest) = some (Point.ofText text, rest) := by
  refine ⟨text.toList.flatMap (quotedCharacter asciiOnly) ++ ['\x22'], ?_, ?_⟩
  · rw [quoted, String.toList_ofList, quotedCharacters]
  · exact readText?_quotedItems (readsAs_quotedCharacter asciiOnly)
      (Point.unpaired_ofCharacters text.toList) rest

theorem readText?_quotedPoints {points : List Point} (unpaired : Point.Unpaired points)
    (rest : List Char) : ∃ body, (quotedPoints points).toList = '\x22' :: body ∧
      readText? (body ++ rest) = some (points, rest) := by
  refine ⟨points.flatMap quotedPoint ++ ['\x22'], by rw [quotedPoints, String.toList_ofList], ?_⟩
  have same : points.map (fun point => point) = points := List.map_id' points
  have reads := readText?_quotedItems readsAs_quotedPoint (by rwa [same]) rest
  rwa [same] at reads

/-! ## Numbers -/

/-- What follows does not go on with a number. -/
def EndsNumber (rest : List Char) : Prop :=
  ∀ character ∈ rest.head?,
    character.isDigit = false ∧ character ≠ '.' ∧ character ≠ 'e' ∧ character ≠ 'E'

theorem endsNumber_nil : EndsNumber [] := nofun

theorem endsNumber_cons {first : Char} (rest : List Char)
    (other : first.isDigit = false ∧ first ≠ '.' ∧ first ≠ 'e' ∧ first ≠ 'E') :
    EndsNumber (first :: rest) := by
  intro character isFirst
  cases isFirst
  exact other

theorem leadingDigits_append {digits rest : List Char}
    (all : ∀ character ∈ digits, character.isDigit = true) (ends : EndsNumber rest) :
    Decimal.leadingDigits (digits ++ rest) = (digits, rest) := by
  have stops : rest.takeWhile Char.isDigit = [] ∧ rest.dropWhile Char.isDigit = rest := by
    cases rest with
    | nil => exact ⟨rfl, rfl⟩
    | cons first others =>
        have noDigit : ¬first.isDigit = true := by simp [(ends first rfl).1]
        rw [List.takeWhile_cons_of_neg noDigit, List.dropWhile_cons_of_neg noDigit]
        exact ⟨rfl, rfl⟩
  rw [Decimal.leadingDigits, List.takeWhile_append_of_pos all, List.dropWhile_append_of_pos all,
    stops.1, stops.2, List.append_nil]

theorem readFraction?_of_ends {rest : List Char} (ends : EndsNumber rest) :
    readFraction? rest = some ([], rest) := by
  cases rest with
  | nil => rfl
  | cons first others =>
      rw [readFraction?]
      simp [(ends first rfl).2.1]

theorem readExponent?_of_ends {rest : List Char} (ends : EndsNumber rest) :
    readExponent? rest = some (none, rest) := by
  cases rest with
  | nil => rfl
  | cons first others =>
      have noMark := (ends first rfl).2.2
      simp [readExponent?, noMark]

theorem digitsValue_toDigits (size : Nat) : Decimal.digitsValue (Nat.toDigits 10 size) = size := by
  have reads : Nat.ofDigitChars 10 (Nat.toDigits 10 size) 0 = size := Nat.ofDigitChars_ten_toDigits
  simpa only [Decimal.digitsValue, Nat.ofDigitChars, Nat.mul_comm] using reads

theorem isWhole_toDigits (size : Nat) : isWhole (Nat.toDigits 10 size) = true := by
  have positive (number : Nat) : 0 < number → (Nat.toDigits 10 number).head? ≠ some '0' := by
    induction number using Nat.strongRecOn with
    | ind number ih =>
        intro present
        by_cases small : number < 10
        · rw [Nat.toDigits_of_lt_base small]
          have digit : ∀ digit < 10, 0 < digit → Nat.digitChar digit ≠ '0' := by decide
          simpa using digit number small present
        · have fewer := ih (number / 10) (by omega) (by omega)
          rw [Nat.toDigits_of_base_le (by decide) (by omega)]
          cases digits : Nat.toDigits 10 (number / 10) with
          | nil => exact absurd digits Nat.toDigits_ne_nil
          | cons first rest =>
              rw [digits] at fewer
              simpa using fewer
  by_cases zero : size = 0
  · subst zero
    rfl
  · have head := positive size (by omega)
    cases digits : Nat.toDigits 10 size with
    | nil => exact absurd digits Nat.toDigits_ne_nil
    | cons first rest =>
        rw [digits] at head
        cases rest with
        | nil => rfl
        | cons next more => simpa [isWhole] using head

theorem readUnsigned?_toDigits (negative : Bool) (size : Nat) {rest : List Char}
    (ends : EndsNumber rest) :
    readUnsigned? negative (Nat.toDigits 10 size ++ rest) =
      some (.other (.integer (if negative then -Int.ofNat size else Int.ofNat size)), rest) := by
  have digits : ∀ character ∈ Nat.toDigits 10 size, character.isDigit = true := fun _ member =>
    Nat.isDigit_of_mem_toDigits (by decide) (by decide) member
  rw [readUnsigned?, leadingDigits_append digits ends]
  simp [isWhole_toDigits, readFraction?_of_ends ends, readExponent?_of_ends ends, numberOf,
    digitsValue_toDigits]

theorem readNumber?_integer (number : Int) {rest : List Char} (ends : EndsNumber rest) :
    readNumber? ((toString number).toList ++ rest) = some (.other (.integer number), rest) := by
  rw [Int.toString_eq_repr, Int.repr_eq_if]
  split
  · rename_i positive
    have value := readUnsigned?_toDigits false number.toNat ends
    have whole : Int.ofNat number.toNat = number := Int.toNat_of_nonneg positive
    rw [Nat.toList_repr, readNumber?, value, whole]
    · rfl
    · intro unsigned same
      have digits : ∀ character ∈ Nat.toDigits 10 number.toNat, character.isDigit = true :=
        fun _ member => Nat.isDigit_of_mem_toDigits (by decide) (by decide) member
      cases first : Nat.toDigits 10 number.toNat with
      | nil => exact Nat.toDigits_ne_nil first
      | cons character others =>
          rw [first, List.cons_append, List.cons.injEq] at same
          have digit := digits character (by simp [first])
          rw [same.1] at digit
          exact absurd digit (by decide)
  · rename_i negative
    have value := readUnsigned?_toDigits true (-number).toNat ends
    have whole : -Int.ofNat (-number).toNat = number := by
      rw [Int.ofNat_eq_natCast, Int.toNat_of_nonneg (by omega), Int.neg_neg]
    rw [String.toList_append, Nat.toList_repr]
    show readUnsigned? true (Nat.toDigits 10 (-number).toNat ++ rest) = _
    rw [value, if_pos rfl, whole]

/-! ## Values -/

/-- The text can stand for an item: it begins with no blank and with no mark that ends a container. -/
def opens (text : List Char) : Bool :=
  text.head?.any fun first => !isBlank first && first != ']' && first != '\x7d'

/-- The reader takes the item from the front of a text that begins with its written form. -/
structure Takes {α : Type} (read? : List Char → Option (α × List Char)) (written : List Char)
    (item : α) : Prop where
  opens : opens written = true
  reads : ∀ rest, EndsNumber rest → read? (written ++ rest) = some (item, rest)

/-- Every reader that is not less deep than the text is long takes the item. -/
def Reads {α : Type} (read? : Nat → List Char → Option (α × List Char)) (written : List Char)
    (item : α) : Prop :=
  ∀ depth, written.length ≤ depth → Takes (read? depth) written item

/-- What a number begins with is no blank and no mark of a text or a container. -/
theorem not_mark_of_numeral {first : Char} (numeral : first.isDigit = true ∨ first = '-') :
    first ∉ [' ', '\t', '\n', '\r', '\x22', '[', ']', '\x7b', '\x7d'] := by
  intro mark
  simp only [List.mem_cons, List.not_mem_nil, or_false] at mark
  rcases mark with rfl | rfl | rfl | rfl | rfl | rfl | rfl | rfl | rfl
  all_goals
    revert numeral
    decide

theorem readDatum?_number {first : Char} (numeral : first.isDigit = true ∨ first = '-')
    (depth : Nat) (rest : List Char) :
    readDatum? (depth + 1) (first :: rest) = readNumber? (first :: rest) := by
  have noMark := not_mark_of_numeral numeral
  simp only [List.mem_cons, List.not_mem_nil, or_false, not_or] at noMark
  obtain ⟨-, -, -, -, noQuote, noBracket, -, noBrace, -⟩ := noMark
  rw [readDatum?, if_neg noQuote, if_neg noBracket, if_neg noBrace, if_pos (by simpa using numeral)]

theorem Reads.of_succ {written : List Char} {datum : Datum} (begins : opens written = true)
    (reads : ∀ depth rest, written.length ≤ depth + 1 → EndsNumber rest →
      readDatum? (depth + 1) (written ++ rest) = some (datum, rest)) :
    Reads readDatum? written datum := by
  intro depth enough
  refine ⟨begins, fun rest ends => ?_⟩
  cases depth with
  | zero =>
      rw [List.eq_nil_of_length_eq_zero (Nat.le_zero.mp enough)] at begins
      cases begins
  | succ depth => exact reads depth rest enough ends

theorem reads_integer (number : Int) :
    Reads readDatum? (toString number).toList (.other (.integer number)) := by
  have numerals : ∀ character ∈ (toString number).toList,
      character.isDigit = true ∨ character = '-' := fun _ member => Text.isDigit_integer member
  have value (rest : List Char) (ends : EndsNumber rest) := readNumber?_integer number ends
  cases written : (toString number).toList with
  | nil =>
      rw [Int.toString_eq_repr, Int.repr_eq_if] at written
      split at written
      · exact absurd written (by simp [Nat.toList_repr, Nat.toDigits_ne_nil])
      · exact absurd written (by simp)
  | cons first others =>
      rw [written] at numerals value
      have numeral := numerals first (by simp)
      refine .of_succ ?_ fun depth rest _ ends => ?_
      · have noMark := not_mark_of_numeral numeral
        simp only [List.mem_cons, List.not_mem_nil, or_false, not_or] at noMark
        simp [opens, isBlank, noMark]
      · rw [List.cons_append, readDatum?_number numeral]
        exact value rest ends

theorem reads_text {written : List Char} {points : List Point}
    (reads : ∀ rest, ∃ body, written = '\x22' :: body ∧
      readText? (body ++ rest) = some (points, rest)) :
    Reads readDatum? written (.text points) := by
  obtain ⟨body, rfl, -⟩ := reads []
  refine .of_succ rfl fun depth rest _ _ => ?_
  obtain ⟨_, same, taken⟩ := reads rest
  cases same
  rw [List.cons_append, readDatum?, if_pos rfl, taken]
  rfl

theorem reads_quoted (asciiOnly : Bool) (text : String) :
    Reads readDatum? (quoted asciiOnly text).toList (.ofText text) :=
  reads_text (readText?_quoted asciiOnly text)

theorem reads_quotedPoints {points : List Point} (unpaired : Point.Unpaired points) :
    Reads readDatum? (quotedPoints points).toList (.text points) :=
  reads_text (readText?_quotedPoints unpaired)

theorem reads_null : Reads readDatum? ['n', 'u', 'l', 'l'] Datum.null :=
  .of_succ rfl fun _ _ _ _ => rfl

theorem reads_truthWord (value : Bool) :
    Reads readDatum? (Written.truthWord value).toList (.other (.boolean value)) := by
  cases value
  · exact .of_succ rfl fun _ _ _ _ => rfl
  · exact .of_succ rfl fun _ _ _ _ => rfl

/-! ## Containers -/

section

variable {α : Type} {read? : List Char → Option (α × List Char)} {closing : Char}
  {texts : List (List Char)} {items : List α}

theorem exists_first_of_opens {text : List Char} (begins : opens text = true) :
    ∃ first others, text = first :: others ∧ isBlank first = false ∧ first ≠ ']' ∧
      first ≠ '\x7d' := by
  cases text with
  | nil => cases begins
  | cons first others => exact ⟨first, others, rfl, by simpa [opens, and_assoc] using begins⟩

theorem skipBlanks_append {text : List Char} (begins : opens text = true) (rest : List Char) :
    skipBlanks (text ++ rest) = text ++ rest := by
  obtain ⟨first, others, rfl, solid, -, -⟩ := exists_first_of_opens begins
  simp [skipBlanks, solid]

theorem opens_joined {text : List Char} (begins : opens text = true) (others : List (List Char)) :
    opens ([',', ' '].intercalate (text :: others)) = true := by
  cases text with
  | nil => cases begins
  | cons first more =>
      cases others with
      | nil => simpa using begins
      | cons next rest =>
          rw [List.intercalate_cons_cons]
          exact begins

theorem following?_closing (ends : closing = ']' ∨ closing = '\x7d') (rest : List Char) :
    following? closing (closing :: rest) = some (.closed rest) := by
  rcases ends with rfl | rfl <;> rfl

theorem following?_comma (ends : closing = ']' ∨ closing = '\x7d') {text : List Char}
    (begins : opens text = true) (rest : List Char) :
    following? closing (',' :: ' ' :: (text ++ rest)) = some (.item (text ++ rest)) := by
  have other : closing ≠ ',' := by rcases ends with rfl | rfl <;> decide
  show (if ',' = closing then _ else some (Following.item (skipBlanks (text ++ rest)))) = _
  rw [if_neg other.symm, skipBlanks_append begins]

/-- Items with commas between them are read up to the mark that ends their container. -/
theorem readItems?_joined (ends : closing = ']' ∨ closing = '\x7d')
    (each : List.Forall₂ (Takes read?) texts items) (present : texts ≠ []) {fuel : Nat}
    (enough : texts.length ≤ fuel) (rest : List Char) :
    readItems? read? closing fuel ([',', ' '].intercalate texts ++ closing :: rest) =
      some (items, rest) := by
  induction each generalizing fuel with
  | nil => exact absurd rfl present
  | @cons text item others more takes takesOthers ih =>
      cases fuel with
      | zero => simp at enough
      | succ fuel =>
          -- The last item stands before the closing mark, any other before a comma; neither goes on
          -- with a number.
          cases takesOthers with
          | nil =>
              have reads := takes.reads (closing :: rest)
                (endsNumber_cons rest (by rcases ends with rfl | rfl <;> decide))
              have last := following?_closing ends rest
              rw [List.intercalate_singleton, readItems?, reads]
              simp only [Option.bind_some, last]
          | @cons next _ later _ takesNext _ =>
              have remaining := ih (by simp) (by simpa using enough)
              have further := following?_comma ends (opens_joined takesNext.opens later)
                (closing :: rest)
              have reads := takes.reads (',' :: ' ' ::
                ([',', ' '].intercalate (next :: later) ++ closing :: rest))
                (endsNumber_cons _ (by decide))
              rw [List.intercalate_cons_cons, List.append_assoc, List.append_assoc,
                List.cons_append, List.cons_append, List.nil_append, readItems?, reads]
              simp only [Option.bind_some, further, remaining, Option.map_some]

theorem length_le_joined {text : List Char} (member : text ∈ texts) :
    text.length ≤ ([',', ' '].intercalate texts).length := by
  induction texts with
  | nil => cases member
  | cons first rest ih =>
      cases rest with
      | nil => simp [List.mem_singleton.mp member]
      | cons next more =>
          rw [List.intercalate_cons_cons]
          simp only [List.length_append]
          rcases List.mem_cons.mp member with rfl | later
          · omega
          · have shorter := ih later
            omega

theorem length_le_length_joined (each : List.Forall₂ (Takes read?) texts items) :
    texts.length ≤ ([',', ' '].intercalate texts).length := by
  induction each with
  | nil => simp
  | @cons text item others more takes takesOthers ih =>
      obtain ⟨first, rest, rfl, -⟩ := exists_first_of_opens takes.opens
      cases others with
      | nil =>
          rw [List.intercalate_singleton, List.length_singleton, List.length_cons]
          omega
      | cons next later =>
          rw [List.intercalate_cons_cons]
          simp only [List.length_append, List.length_cons] at ih ⊢
          omega

/-- What is between the marks of a container is read, however many items it has. -/
theorem readContents?_joined (ends : closing = ']' ∨ closing = '\x7d')
    (each : List.Forall₂ (Takes read?) texts items) (rest : List Char) :
    readContents? read? closing ([',', ' '].intercalate texts ++ closing :: rest) =
      some (items, rest) := by
  cases each with
  | nil => rcases ends with rfl | rfl <;> rfl
  | @cons text item others more takes takesOthers =>
      have begins := opens_joined takes.opens others
      have fewer := length_le_length_joined (.cons takes takesOthers)
      have present : text :: others ≠ [] := List.cons_ne_nil text others
      have reads (fuel : Nat) (enough : (text :: others).length ≤ fuel) :=
        readItems?_joined ends (.cons takes takesOthers) present enough rest
      rw [readContents?, skipBlanks_append begins]
      obtain ⟨first, more, joined, -, noBracket, noBrace⟩ := exists_first_of_opens begins
      rw [joined, List.cons_append] at reads ⊢
      rw [joined] at fewer
      have goesOn : ¬first = closing := by
        rcases ends with rfl | rfl
        · exact noBracket
        · exact noBrace
      have enough : (text :: others).length ≤ (first :: (more ++ closing :: rest)).length := by
        simp only [List.length_cons, List.length_append] at fewer ⊢
        omega
      simp only [if_neg goesOn]
      exact reads _ enough

/-- A container is read by readers of its items that are one less deep than its own. -/
theorem reads_container {read? : Nat → List Char → Option (α × List Char)} {opening : Char}
    {build : List α → Datum} (begins : opens [opening] = true)
    (ends : closing = ']' ∨ closing = '\x7d')
    (step : ∀ depth rest, readDatum? (depth + 1) (opening :: rest) =
      (readContents? (read? depth) closing rest).map
        fun (items, remaining) => (build items, remaining))
    (each : List.Forall₂ (Reads read?) texts items) :
    Reads readDatum? (opening :: ([',', ' '].intercalate texts ++ [closing])) (build items) := by
  refine .of_succ begins fun depth rest enough _ => ?_
  -- The marks of the container make every item shorter than the container.
  have short : ∀ text ∈ texts, text.length ≤ depth := by
    intro text member
    have shorter := length_le_joined member
    simp only [List.length_cons, List.length_append] at enough
    omega
  have takes : List.Forall₂ (Takes (read? depth)) texts items :=
    ((List.forall₂_and_left _ _).mpr ⟨short, each⟩).imp fun _ _ both => both.2 depth both.1
  rw [List.cons_append, List.append_assoc, List.singleton_append, step,
    readContents?_joined ends takes rest]
  rfl

end

theorem reads_arrayText {texts : List String} {items : List Datum}
    (each : List.Forall₂ (fun text item => Reads readDatum? text.toList item) texts items) :
    Reads readDatum? (Written.arrayText texts).toList (.list items) := by
  have characters : (Written.arrayText texts).toList =
      '[' :: ([',', ' '].intercalate (texts.map String.toList) ++ [']']) := by
    simp [Written.arrayText, String.toList_append, String.toList_intercalate]
  rw [characters]
  exact reads_container rfl (.inl rfl) (fun _ _ => rfl) (List.forall₂_map_left_iff.mpr each)

theorem reads_named {quote written : List Char} {name : List Point} {item : Datum}
    (readsName : ∀ rest, ∃ body, quote = '\x22' :: body ∧
      readText? (body ++ rest) = some (name, rest))
    (reads : Reads readDatum? written item) :
    Reads (fun depth => readNamed? (readDatum? depth)) (quote ++ ':' :: ' ' :: written)
      (name, item) := by
  intro depth enough
  have short : written.length ≤ depth := by
    simp only [List.length_append, List.length_cons] at enough
    omega
  have takes := reads depth short
  constructor
  · obtain ⟨body, rfl, -⟩ := readsName []
    rfl
  · intro rest ends
    obtain ⟨body, rfl, taken⟩ := readsName (':' :: ' ' :: (written ++ rest))
    have blank : skipBlanks (' ' :: (written ++ rest)) = written ++ rest :=
      skipBlanks_append takes.opens rest
    have colon : skipBlanks (':' :: ' ' :: (written ++ rest)) = ':' :: ' ' :: (written ++ rest) :=
      rfl
    show readNamed? (readDatum? depth) _ = _
    rw [List.cons_append, List.cons_append, List.append_assoc, List.cons_append,
      List.cons_append, readNamed?, taken]
    simp only [Option.bind_some, colon, blank, takes.reads rest ends, Option.map_some]

end Json

namespace Datum

def underNames (entries : List (List Point × Datum)) : List (Datum × Datum) :=
  entries.map fun entry => (.text entry.1, entry.2)

theorem put_of_unlike {key item : Datum} {entries : List (Datum × Datum)}
    (unlike : ∀ present ∈ entries.map Prod.fst, alike key present = false) :
    put key item entries = entries ++ [(key, item)] := by
  induction entries with
  | nil => rfl
  | cons entry rest ih =>
      rw [put, unlike entry.1 (by simp), if_neg Bool.false_ne_true,
        ih fun present member => unlike present (by simp [member])]
      rfl

theorem foldl_put_of_nodup {entries : List (List Point × Datum)} {kept : List (Datum × Datum)}
    (different : (entries.map Prod.fst).Nodup)
    (fresh : ∀ entry ∈ entries, Datum.text entry.1 ∉ kept.map Prod.fst) :
    entries.foldl (fun kept entry => put (.text entry.1) entry.2 kept) kept =
      kept ++ underNames entries := by
  induction entries generalizing kept with
  | nil => simp [underNames]
  | cons first rest ih =>
      obtain ⟨absent, differentRest⟩ := List.nodup_cons.mp different
      have unlike : ∀ key ∈ kept.map Prod.fst, alike (.text first.1) key = false := by
        intro key member
        rw [Bool.eq_false_iff]
        intro same
        rw [(alike_text_iff first.1 key).mp same] at member
        exact fresh first (by simp) member
      have freshRest : ∀ entry ∈ rest,
          Datum.text entry.1 ∉ (kept ++ [(Datum.text first.1, first.2)]).map Prod.fst := by
        intro entry member
        have old := fresh entry (List.mem_cons_of_mem _ member)
        have other : entry.1 ≠ first.1 := fun same => absent (List.mem_map.mpr ⟨entry, member, same⟩)
        simpa [other] using old
      rw [List.foldl_cons, put_of_unlike unlike, ih differentRest freshRest,
        List.append_assoc, List.singleton_append]
      rfl

end Datum

namespace Json

open Datum (underNames)

theorem mappingOf_of_nodup {entries : List (List Point × Datum)}
    (different : (entries.map Prod.fst).Nodup) :
    mappingOf entries = .mapping (underNames entries) := by
  rw [mappingOf, Datum.foldl_put_of_nodup different (by simp), List.nil_append]

theorem reads_objectText {texts : List String} {entries : List (List Point × Datum)}
    (different : (entries.map Prod.fst).Nodup)
    (each : List.Forall₂
      (fun text entry => Reads (fun depth => readNamed? (readDatum? depth)) text.toList entry)
      texts entries) :
    Reads readDatum? (Written.objectText texts).toList (.mapping (underNames entries)) := by
  have characters : (Written.objectText texts).toList =
      '\x7b' :: ([',', ' '].intercalate (texts.map String.toList) ++ ['\x7d']) := by
    simp [Written.objectText, String.toList_append, String.toList_intercalate]
  rw [characters, ← mappingOf_of_nodup different]
  exact reads_container rfl (.inr rfl) (fun _ _ => rfl) (List.forall₂_map_left_iff.mpr each)

end Json
end TypedTables
