import TypedTables.Identifier

/-!
# Written names

A name is written as it is, or between backticks with a backslash before every backtick and
backslash in it, and either form gives the name back. One word needs no backticks. A word with a
line end after it is more than a word and is still left bare, and these are the only names whose
written form is neither a word nor a quoted name.
-/

namespace TypedTables.Identifier

theorem isPart_of_isStart {character : Char} (start : isStart character = true) :
    isPart character = true := by
  simp only [isStart, Bool.or_eq_true] at start
  simp only [isPart, Char.isAlphanum, Bool.or_eq_true]
  exact start.imp_left Or.inl

theorem isPart_of_isWord {name : List Char} (word : isWord name = true) :
    ∀ character ∈ name, isPart character = true := by
  cases name with
  | nil => simp
  | cons first rest =>
      simp only [isWord, Bool.and_eq_true, List.all_eq_true] at word
      intro character member
      rcases List.mem_cons.mp member with rfl | later
      · exact isPart_of_isStart word.1
      · exact word.2 character later

theorem isPlain_iff_isWord (name : List Char) :
    isPlain name = true ↔
      isWord name = true ∨ ∃ word, isWord word = true ∧ name = word ++ ['\n'] := by
  simp only [isPlain, Bool.or_eq_true, Bool.and_eq_true, beq_iff_eq]
  refine or_congr_right ⟨?_, ?_⟩
  · rintro ⟨last, word⟩
    obtain ⟨start, rfl⟩ := List.getLast?_eq_some_iff.mp last
    rw [List.dropLast_concat] at word
    exact ⟨start, word, rfl⟩
  · rintro ⟨word, isWord, rfl⟩
    rw [List.getLast?_concat, List.dropLast_concat]
    exact ⟨rfl, isWord⟩

theorem isPart_of_isPlain {name : List Char} (plain : isPlain name = true) :
    ∀ character ∈ name, isPart character = true ∨ character = '\n' := by
  intro character member
  rcases (isPlain_iff_isWord name).mp plain with word | ⟨word, isWord, rfl⟩
  · exact Or.inl (isPart_of_isWord word character member)
  · rcases List.mem_append.mp member with inWord | lineEnd
    · exact Or.inl (isPart_of_isWord isWord character inWord)
    · exact Or.inr (List.mem_singleton.mp lineEnd)

theorem exists_isStart_of_isPlain {name : List Char} (plain : isPlain name = true) :
    ∃ first rest, name = first :: rest ∧ isStart first = true := by
  have starts {word : List Char} (isWord : isWord word = true) :
      ∃ first rest, word = first :: rest ∧ isStart first = true := by
    cases word with
    | nil => cases isWord
    | cons first rest => exact ⟨first, rest, rfl, (Bool.and_eq_true _ _ ▸ isWord).1⟩
  rcases (isPlain_iff_isWord name).mp plain with word | ⟨word, isWord, rfl⟩
  · exact starts word
  · obtain ⟨first, rest, rfl, start⟩ := starts isWord
    exact ⟨first, rest ++ ['\n'], rfl, start⟩

theorem ne_quoted_of_isPlain {name : List Char} (plain : isPlain name = true) (rest : List Char) :
    name ≠ '\x60' :: rest := by
  obtain ⟨first, others, rfl, start⟩ := exists_isStart_of_isPlain plain
  intro same
  rw [(List.cons.inj same).1] at start
  exact absurd start (by decide)

theorem length_le_length_escapeBody (name : List Char) :
    name.length ≤ (escapeBody name).length := by
  induction name with
  | nil => exact Nat.le_refl _
  | cons character rest ih =>
      rw [escapeBody]
      split
      · simp only [List.length_cons]
        omega
      · simpa using ih

/-- Plain names are left as they are, and quoting makes any other name longer. -/
theorem escape_eq_self_iff (name : List Char) : escape name = name ↔ isPlain name = true := by
  unfold escape
  split
  · rename_i plain
    exact iff_of_true rfl plain
  · rename_i notPlain
    refine iff_of_false (fun same => ?_) notPlain
    have longer := length_le_length_escapeBody name
    have lengths := congrArg List.length same
    simp only [List.length_cons, List.length_append, List.length_nil] at lengths
    omega

theorem escape_injective : Function.Injective escape := by
  intro first second same
  unfold escape at same
  split at same
  · rename_i plainFirst
    split at same
    · exact same
    · exact absurd same (ne_quoted_of_isPlain plainFirst _)
  · split at same
    · rename_i plainSecond
      exact absurd same.symm (ne_quoted_of_isPlain plainSecond _)
    · have bodies : escapeBody first = escapeBody second :=
        List.append_cancel_right (List.cons.inj same).2
      rw [← unescapeBody_escapeBody first, bodies, unescapeBody_escapeBody]

theorem escapeText_injective : Function.Injective escapeText := by
  intro first second same
  simp only [escapeText, String.ofList_inj] at same
  exact String.toList_injective (escape_injective same)

theorem segment_injective : Function.Injective segment := by
  have star {name : String} (equal : escapeText name = "*") : name = "*" := by
    have characters : escape name.toList = ['*'] := by
      simpa [escapeText] using congrArg String.toList equal
    unfold escape at characters
    split at characters
    · exact String.toList_injective characters
    · simp at characters
  intro first second same
  unfold segment at same
  split at same
  · rename_i isFirst
    split at same
    · rename_i isSecond
      rw [isFirst, isSecond]
    · rw [isFirst, star same.symm]
  · split at same
    · rename_i isSecond
      rw [isSecond, star same]
    · exact escapeText_injective same

theorem escape_ne_nil (name : List Char) : escape name ≠ [] := by
  unfold escape
  split
  · rename_i plain
    obtain ⟨first, rest, rfl, -⟩ := exists_isStart_of_isPlain plain
    simp
  · simp

theorem segment_ne_empty (name : String) : segment name ≠ "" := by
  unfold segment
  split
  · decide
  · intro empty
    have characters := congrArg String.toList empty
    rw [escapeText, String.toList_ofList] at characters
    exact escape_ne_nil _ characters

/-- A letter of the English alphabet or an underscore. -/
def BeginsWord (character : Char) : Prop :=
  ('A' ≤ character ∧ character ≤ 'Z') ∨ ('a' ≤ character ∧ character ≤ 'z') ∨ character = '_'

/-- The name is a letter or underscore with letters, digits and underscores after it, and nothing
else. -/
inductive IsOneWord : List Char → Prop
  | intro {first : Char} {rest : List Char} (begins : BeginsWord first)
      (continues : ∀ character ∈ rest,
        BeginsWord character ∨ ('0' ≤ character ∧ character ≤ '9')) :
      IsOneWord (first :: rest)

/-- The body has the characters of the name in their order, and just before each backtick and each
backslash of the name a backslash of its own. -/
inductive EscapesInto : List Char → List Char → Prop
  | nil : EscapesInto [] []
  | marked {character : Char} {name body : List Char}
      (isMark : character = '\x60' ∨ character = '\x5c') (rest : EscapesInto name body) :
      EscapesInto (character :: name) ('\x5c' :: character :: body)
  | bare {character : Char} {name body : List Char} (noBacktick : character ≠ '\x60')
      (noBackslash : character ≠ '\x5c') (rest : EscapesInto name body) :
      EscapesInto (character :: name) (character :: body)

/-- The text is the name itself, which is then one word, or the name between backticks with its
marks escaped, which gives the name back. -/
inductive IsSoundForm (name : List Char) : List Char → Prop
  | word (isWord : IsOneWord name) : IsSoundForm name name
  | quoted {body : List Char} (escapes : EscapesInto name body)
      (reads : unescapeBody body = name) : IsSoundForm name ('\x60' :: (body ++ ['\x60']))

theorem isAlpha_iff (character : Char) : character.isAlpha = true ↔
    ('A' ≤ character ∧ character ≤ 'Z') ∨ ('a' ≤ character ∧ character ≤ 'z') := by
  have upper : character.isUpper = true ↔ 'A' ≤ character ∧ character ≤ 'Z' := by
    show decide ('A'.val ≤ character.val ∧ character.val ≤ 'Z'.val) = true ↔ _
    exact decide_eq_true_iff
  have lower : character.isLower = true ↔ 'a' ≤ character ∧ character ≤ 'z' := by
    show (decide ('a'.val ≤ character.val) && decide (character.val ≤ 'z'.val)) = true ↔ _
    rw [Bool.and_eq_true, decide_eq_true_eq, decide_eq_true_eq]
    rfl
  have alpha : character.isAlpha = (character.isUpper || character.isLower) := rfl
  rw [alpha, Bool.or_eq_true, upper, lower]

theorem isDigit_iff (character : Char) :
    character.isDigit = true ↔ '0' ≤ character ∧ character ≤ '9' := by
  simp only [Char.isDigit, Bool.and_eq_true, decide_eq_true_eq]
  rfl

theorem isStart_iff (character : Char) : isStart character = true ↔ BeginsWord character := by
  simp only [isStart, isAlpha_iff, BeginsWord, Bool.or_eq_true, beq_iff_eq, or_assoc]

theorem isDigit_eq_false_of_isStart {character : Char} (start : isStart character = true) :
    character.isDigit = false := by
  have digitsFirst : '9'.val < 'A'.val ∧ '9'.val < 'a'.val := by decide
  cases digit : character.isDigit with
  | false => rfl
  | true =>
      rcases (isStart_iff character).mp start with ⟨least, -⟩ | ⟨least, -⟩ | rfl
      all_goals grind [Char.isDigit, Char.le_def]

theorem isPart_iff (character : Char) :
    isPart character = true ↔
      BeginsWord character ∨ ('0' ≤ character ∧ character ≤ '9') := by
  rw [← isStart_iff, ← isDigit_iff]
  simp only [isPart, isStart, Char.isAlphanum, Bool.or_eq_true]
  exact or_right_comm

theorem isWord_iff (name : List Char) : isWord name = true ↔ IsOneWord name := by
  cases name with
  | nil => exact iff_of_false (by decide) nofun
  | cons first rest =>
      rw [isWord, Bool.and_eq_true, List.all_eq_true, isStart_iff]
      constructor
      · rintro ⟨begins, continues⟩
        exact .intro begins fun character member =>
          (isPart_iff character).mp (continues character member)
      · rintro ⟨begins, continues⟩
        exact ⟨begins, fun character member =>
          (isPart_iff character).mpr (continues character member)⟩

theorem escapesInto_escapeBody (name : List Char) : EscapesInto name (escapeBody name) := by
  induction name with
  | nil => exact .nil
  | cons character rest ih =>
      by_cases mark : character = '\x60' ∨ character = '\x5c'
      · rw [escapeBody, if_pos (by simpa using mark)]
        exact .marked mark ih
      · obtain ⟨noBacktick, noBackslash⟩ := not_or.mp mark
        rw [escapeBody, if_neg (by simpa using mark)]
        exact .bare noBacktick noBackslash ih

theorem IsSoundForm.isOneWord {name written : List Char} (sound : IsSoundForm name written)
    (plain : isPlain written = true) : IsOneWord name := by
  cases sound with
  | word isWord => exact isWord
  | quoted escapes reads => exact absurd rfl (ne_quoted_of_isPlain plain _)

def IsWordLine (name : List Char) : Prop := ∃ word, IsOneWord word ∧ name = word ++ ['\n']

theorem isPlain_iff (name : List Char) :
    isPlain name = true ↔ IsOneWord name ∨ IsWordLine name := by
  simp only [isPlain_iff_isWord, isWord_iff, IsWordLine]

theorem IsWordLine.not_isOneWord {name : List Char} (line : IsWordLine name) :
    ¬IsOneWord name := by
  obtain ⟨word, -, rfl⟩ := line
  intro whole
  have part := isPart_of_isWord ((isWord_iff _).mpr whole) '\n' (by simp)
  exact absurd part (by decide)

/-- The written form of a name is the name where it is one word, and else the name between
backticks with its marks escaped, exactly where the name is not one word and a line end; such a name
is left as it is, like a word and no other name. -/
theorem isSoundForm_escapeText_iff (name : String) :
    (IsSoundForm name.toList (escapeText name).toList ↔ ¬IsWordLine name.toList) ∧
      (escapeText name = name ↔ IsOneWord name.toList ∨ IsWordLine name.toList) := by
  rw [← isPlain_iff, ← escape_eq_self_iff, escapeText, String.toList_ofList, ← String.toList_inj,
    String.toList_ofList]
  refine ⟨⟨?_, ?_⟩, Iff.rfl⟩
  · intro sound line
    have plain := (isPlain_iff _).mpr (Or.inr line)
    rw [(escape_eq_self_iff _).mpr plain] at sound
    exact line.not_isOneWord (sound.isOneWord plain)
  · intro noLine
    unfold escape
    split
    · rename_i plain
      exact .word (((isPlain_iff _).mp plain).resolve_right noLine)
    · exact .quoted (escapesInto_escapeBody _) (unescapeBody_escapeBody _)

/-- A word and a line end are left bare, although they are more than a word. -/
theorem not_isSoundForm_lineEnd :
    escapeText "user\n" = "user\n" ∧
      ¬IsSoundForm "user\n".toList (escapeText "user\n").toList := by
  have line : IsWordLine "user\n".toList :=
    ⟨"user".toList, (isWord_iff _).mp (by decide), by decide⟩
  have bare : escapeText "user\n" = "user\n" := by decide +kernel
  refine ⟨bare, fun sound => ?_⟩
  rw [bare] at sound
  exact line.not_isOneWord (sound.isOneWord (by decide))

end TypedTables.Identifier
