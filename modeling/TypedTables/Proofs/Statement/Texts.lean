import TypedTables.Proofs.FieldType.Texts
import TypedTables.Proofs.Text.Quoting

/-!
# What written parts hide

Names and literals are written so that nothing they hold is bare: a name that is more than a word
stands between backticks, a text between quotation marks, and the marks inside are escaped. So names,
literals and everything put together from them hide the characters that statements are told apart
by.
-/

namespace TypedTables

namespace Text

/-- Nothing of the text shows the character bare, whatever is written before or after it. -/
def Hides (wanted : Char) (text : String) : Prop := Passes wanted .outside text.toList

instance (wanted : Char) (text : String) : Decidable (Hides wanted text) :=
  inferInstanceAs (Decidable (Passes _ _ _))

namespace Hides

variable {wanted : Char} {first second : String}

theorem append (hidesFirst : Hides wanted first) (hidesSecond : Hides wanted second) :
    Hides wanted (first ++ second) := by
  rw [Hides, String.toList_append]
  exact Passes.append hidesFirst hidesSecond

theorem intercalate {separator : String} {texts : List String} (between : Hides wanted separator)
    (all : ∀ text ∈ texts, Hides wanted text) : Hides wanted (separator.intercalate texts) := by
  induction texts with
  | nil =>
      rw [String.intercalate_nil]
      exact Passes.nil
  | cons text rest ih =>
      have others := ih fun next member => all next (by simp [member])
      cases rest with
      | nil =>
          rw [String.intercalate_singleton]
          exact all text (by simp)
      | cons next more =>
          rw [String.intercalate_cons_cons]
          exact ((all text (by simp)).append between).append others

end Hides

/-- A character that is no part of plain names and opens no quoted part: quoting hides it. -/
def isSeparator (character : Char) : Bool :=
  !Identifier.isPart character && character != '\n' && character != '\x22' && character != '\x60'

end Text

open Text

namespace Identifier

theorem passes_escapeBody (wanted : Char) (name : List Char) :
    Passes wanted (.inside '\x60') (escapeBody name) := by
  induction name with
  | nil => exact .nil
  | cons character rest ih =>
      by_cases special : character = '\x60' ∨ character = '\x5c'
      · rw [escapeBody, if_pos (by simpa using special)]
        exact (Passes.of_escape character).append ih
      · obtain ⟨backtick, backslash⟩ := not_or.mp special
        have passes : Passes wanted (.inside '\x60') [character] :=
          .of_unescaped (by simp [backtick, backslash])
        rw [escapeBody, if_neg (by simpa using special)]
        exact passes.append ih

variable {wanted : Char}

theorem hides_escapeText (separator : isSeparator wanted = true) (name : String) :
    Hides wanted (escapeText name) := by
  simp only [isSeparator, Bool.and_eq_true, Bool.not_eq_true', bne_iff_ne, ne_eq] at separator
  obtain ⟨⟨⟨noPart, noLineEnd⟩, noQuote⟩, noBacktick⟩ := separator
  rw [Hides, escapeText, String.toList_ofList, escape]
  split
  · rename_i plain
    refine .of_plain fun character member => ?_
    rcases isPart_of_isPlain plain character member with part | rfl
    · refine ⟨?_, ?_, ?_⟩
      · rintro rfl
        exact absurd part (by decide)
      · rintro rfl
        exact absurd part (by decide)
      · rintro rfl
        rw [noPart] at part
        cases part
    · exact ⟨by decide, by decide, fun same => noLineEnd same.symm⟩
  · exact .quoted (Or.inr rfl) (fun same => noBacktick same.symm) (passes_escapeBody wanted _)

theorem hides_segment (separator : isSeparator wanted = true) (other : wanted ≠ '*')
    (name : String) : Hides wanted (segment name) := by
  unfold segment
  split
  · exact Passes.of_plain (by simp [Ne.symm other])
  · exact hides_escapeText separator name

end Identifier

namespace Json

theorem passes_quotedCharacter (wanted : Char) (asciiOnly : Bool) (character : Char) :
    Passes wanted (.inside '\x22') (quotedCharacter asciiOnly character) := by
  unfold quotedCharacter
  split
  · exact .of_escape _
  · rename_i quote
    split
    · exact .of_escape _
    · rename_i backslash
      repeat
        split
        · exact .of_escape _
      split
      · refine .flatMap fun unit _ => ?_
        exact (Passes.of_escape 'u').append (.of_unescaped plain_hexDigits)
      · exact .of_unescaped (by simp [quote, backslash])

theorem hides_quoted {wanted : Char} (other : '\x22' ≠ wanted) (asciiOnly : Bool) (text : String) :
    Hides wanted (quoted asciiOnly text) := by
  rw [Hides, quoted, String.toList_ofList]
  exact .quoted (Or.inl rfl) other (.flatMap fun character _ =>
    passes_quotedCharacter wanted asciiOnly character)

end Json

/-- A character that no number, word or punctuation of a literal has is hidden in all literals. -/
theorem Written.composable_passes {wanted : Char} (noMark : isLiteralMark wanted = false)
    (other : '\x22' ≠ wanted) : Composable .literal (Passes wanted .outside) where
  append _ _ := .append
  plain text marks := by
    refine .of_plain fun character member => ?_
    have mark := List.all_eq_true.mp marks character member
    refine ⟨?_, ?_, ?_⟩
    · rintro rfl
      exact absurd mark (by decide)
    · rintro rfl
      exact absurd mark (by decide)
    · rintro rfl
      rw [noMark] at mark
      cases mark
  quoted := Json.hides_quoted other false

theorem Value.hides_literal {value : Value} {text : String} (writes : value.literal = .ok text) :
    Hides ';' text :=
  (Written.composable_passes (by decide) (by decide)).literal writes

namespace FieldType

theorem mem_of_mem_distinct {types : List FieldType} {type : FieldType}
    (member : type ∈ distinct types) : type ∈ types := by
  -- Over any start, as the fold carries what it has kept so far.
  have kept (collected : List FieldType) (isKept : type ∈ types.foldl (fun kept next =>
      if (kept.map text).contains next.text then kept else kept ++ [next]) collected) :
      type ∈ collected ∨ type ∈ types := by
    clear member
    induction types generalizing collected with
    | nil => exact Or.inl isKept
    | cons next rest ih =>
        rcases ih _ isKept with early | late
        · beta_reduce at early
          split at early
          · exact Or.inl early
          · rcases List.mem_append.mp early with before | added
            · exact Or.inl before
            · exact Or.inr (by simp [List.mem_singleton.mp added])
        · exact Or.inr (List.mem_cons_of_mem _ late)
  exact (kept [] member).resolve_left (by simp)

theorem hides_text {type : FieldType} (all : ∀ atom ∈ type, Hides ';' (atomText atom)) :
    Hides ';' type.text := by
  unfold text joined
  split
  · decide
  · refine .intercalate (by decide) fun written member => ?_
    rw [atomTexts_eq_map] at member
    obtain ⟨atom, present, rfl⟩ := List.mem_map.mp member
    exact all atom present

theorem hides_tableNames (tables : List String) : Hides ';' (tableNames tables) := by
  refine .intercalate (by decide) fun written member => ?_
  obtain ⟨table, -, rfl⟩ := List.mem_map.mp member
  exact Identifier.hides_escapeText (by decide) table

end FieldType
end TypedTables
