import TypedTables.Email
import TypedTables.Pattern.Reading
import TypedTables.Proofs.Pattern.Taking
import TypedTables.Proofs.Text.Names
import TypedTables.Proofs.Validation.Intersections

/-!
# Addresses

The pattern of addresses takes what a grammar describes: a local part, an at sign, and a domain of
labels and a top level, without two dots side by side. Its end stands before a final line end as
well, so a text is accepted that is an address or an address and one line end, and no other.
-/

namespace TypedTables

namespace Email

/-- Letters, digits and `_ ' + - .`, where a dot or an apostrophe does not end the part and a dot
does not begin it. -/
structure IsLocalPart (part : List Char) : Prop where
  nonempty : part ≠ []
  characters : ∀ character ∈ part,
    character.isAlphanum = true ∨ character ∈ ['_', '\x27', '+', '-', '.']
  first : part.head? ≠ some '.'
  last : part.getLast? ≠ some '.' ∧ part.getLast? ≠ some '\x27'

/-- A letter or digit, and then letters, digits and hyphens. -/
def IsLabel (label : List Char) : Prop :=
  ∃ first rest, label = first :: rest ∧ first.isAlphanum = true ∧
    ∀ character ∈ rest, character.isAlphanum = true ∨ character = '-'

/-- Labels that are each followed by a dot, and two or more letters. -/
def IsDomain (domain : List Char) : Prop :=
  ∃ labels top, domain = (labels.flatMap fun label => label ++ ['.']) ++ top ∧ labels ≠ [] ∧
    (∀ label ∈ labels, IsLabel label) ∧ 2 ≤ top.length ∧
    ∀ character ∈ top, character.isAlpha = true

/-- A local part, an at sign and a domain, and nowhere two dots side by side. -/
structure IsAddress (address : List Char) : Prop where
  parts : ∃ part domain, address = part ++ '@' :: domain ∧ IsLocalPart part ∧ IsDomain domain
  noDoubleDot : ¬ ['.', '.'] <:+: address

/-- The pattern is what its text is read as. -/
theorem ofText_written : Pattern.ofText written = .ok pattern := by decide +kernel

theorem isPlain_pattern : pattern.isPlain = true := by decide

section Characters

variable {character : Char}

theorem holds_append (items more : List CharacterItem) :
    (charactersOf (items ++ more)).holds character = true ↔
      (charactersOf items).holds character = true ∨ (charactersOf more).holds character = true := by
  simp [charactersOf, CharacterSet.holds, CharacterSet.itemHolds]

theorem holds_letters :
    (charactersOf letters).holds character = true ↔ character.isAlpha = true := by
  rw [Identifier.isAlpha_iff]
  change _ ↔ (0x41 ≤ character.toNat ∧ character.toNat ≤ 0x5a) ∨
    (0x61 ≤ character.toNat ∧ character.toNat ≤ 0x7a)
  simp [charactersOf, letters, CharacterSet.holds, CharacterSet.itemHolds]

theorem holds_alphanumerics :
    (charactersOf alphanumerics).holds character = true ↔ character.isAlphanum = true := by
  rw [alphanumerics, holds_append, holds_letters, Char.isAlphanum, Bool.or_eq_true,
    Identifier.isDigit_iff]
  change _ ↔ _ ∨ (0x30 ≤ character.toNat ∧ character.toNat ≤ 0x39)
  simp [charactersOf, CharacterSet.holds, CharacterSet.itemHolds]

theorem holds_singles (characters : List Char) :
    (charactersOf (characters.map fun single => .single single.toNat)).holds character = true ↔
      character ∈ characters := by
  simp [charactersOf, CharacterSet.holds, CharacterSet.itemHolds, Char.toNat_inj]

theorem holds_localItems : (charactersOf localItems).holds character = true ↔
    character.isAlphanum = true ∨ character ∈ ['_', '\x27', '+', '-', '.'] := by
  rw [localItems, holds_append, holds_alphanumerics]
  exact or_congr_right (holds_singles ['_', '\x27', '+', '-', '.'])

theorem holds_localEndItems : (charactersOf localEndItems).holds character = true ↔
    (charactersOf localItems).holds character = true ∧ character ≠ '.' ∧ character ≠ '\x27' := by
  rw [holds_localItems, localEndItems, holds_append, holds_alphanumerics]
  refine (or_congr_right (holds_singles ['_', '+', '-'])).trans ⟨?_, ?_⟩
  · rintro (isAlphanumeric | listed)
    · refine ⟨.inl isAlphanumeric, ?_, ?_⟩
      all_goals
        rintro rfl
        revert isAlphanumeric
        decide
    · refine ⟨.inr ?_, ?_⟩
      all_goals
        simp only [List.mem_cons, List.not_mem_nil, or_false] at listed
        rcases listed with rfl | rfl | rfl
        all_goals decide
  · rintro ⟨isAlphanumeric | listed, noDot, noApostrophe⟩
    · exact .inl isAlphanumeric
    · exact .inr (by simpa [noDot, noApostrophe] using listed)

theorem holds_labelItems : (charactersOf labelItems).holds character = true ↔
    character.isAlphanum = true ∨ character = '-' := by
  rw [labelItems, holds_append, holds_alphanumerics]
  exact or_congr_right ((holds_singles ['-']).trans List.mem_singleton)

end Characters

section Parts

variable {before taken after : List Char}

theorem takes_exactly_iff {character : Char} :
    (exactly character).Takes before taken after ↔ taken = [character] := by
  have holds (other : Char) :
      (charactersOf [.range character.toNat character.toNat]).holds other = true ↔
        other = character := by
    rw [← Char.toNat_inj, Nat.le_antisymm_iff, and_comm]
    simp [charactersOf, CharacterSet.holds, CharacterSet.itemHolds]
  constructor
  · rintro ⟨other, held, rfl⟩
    rw [(holds other).mp held]
  · rintro rfl
    exact ⟨character, (holds character).mpr rfl, rfl⟩

theorem leads_exactly_iff {character : Char} :
    (exactly character).Takes.leads (fun _ _ => True) before after ↔
      after.head? = some character := by
  constructor
  · rintro ⟨_, rest, rfl, takes, -⟩
    rw [takes_exactly_iff.mp takes]
    rfl
  · intro begins
    obtain ⟨rest, rfl⟩ := List.head?_eq_some_iff.mp begins
    exact ⟨[character], rest, rfl, takes_exactly_iff.mpr rfl, trivial⟩

theorem takes_label_iff :
    label.Takes before taken after ↔ ∃ piece, taken = piece ++ ['.'] ∧ IsLabel piece := by
  constructor
  · rintro ⟨_, _, rfl, ⟨first, isFirst, rfl⟩, rest, _, rfl, takesRest, takesDot⟩
    obtain rfl := takes_exactly_iff.mp takesDot
    have ofRest := (Pattern.takes_characters_iff.mp takesRest).2
    refine ⟨first :: rest, rfl, first, rest, rfl, holds_alphanumerics.mp isFirst, ?_⟩
    exact fun character member => holds_labelItems.mp (ofRest character member)
  · rintro ⟨_, rfl, first, rest, rfl, isFirst, ofRest⟩
    refine ⟨[first], rest ++ ['.'], by simp, ⟨first, holds_alphanumerics.mpr isFirst, rfl⟩, rest,
      ['.'], rfl, ?_, takes_exactly_iff.mpr rfl⟩
    exact Pattern.takes_characters_iff.mpr ⟨Nat.zero_le _,
      fun character member => holds_labelItems.mpr (ofRest character member)⟩

/-- What the pattern takes for a domain. -/
theorem takes_domain_iff :
    ((atLeast 1 (.group (some 2) label)).Takes.andThen (atLeast 2 (oneOf letters)).Takes)
        before taken after ↔ IsDomain taken := by
  have wherever (before taken after : List Char) :
      (Pattern.group (some 2) label).Takes before taken after ↔
        ∃ piece, taken = piece ++ ['.'] ∧ IsLabel piece := takes_label_iff
  constructor
  · rintro ⟨_, top, rfl, takesLabels, takesTop⟩
    obtain ⟨pieces, isLong, ofPieces, rfl⟩ := (Pattern.takes_repetition_iff wherever).mp takesLabels
    obtain ⟨topLong, ofTop⟩ := Pattern.takes_characters_iff.mp takesTop
    choose! labelOf isPiece isLabel using ofPieces
    refine ⟨pieces.map labelOf, top, ?_, ?_, List.forall_mem_map.mpr isLabel, topLong,
      fun character member => holds_letters.mp (ofTop character member)⟩
    · rw [List.flatMap_map, ← List.flatMap_congr isPiece, List.flatMap_id']
    · simpa [Nat.one_le_iff_ne_zero] using isLong
  · rintro ⟨labels, top, rfl, some, ofLabels, topLong, ofTop⟩
    refine ⟨_, top, rfl, (Pattern.takes_repetition_iff wherever).mpr
      ⟨labels.map fun label => label ++ ['.'], ?_, ?_, rfl⟩, ?_⟩
    · simpa [Nat.one_le_iff_ne_zero] using some
    · exact List.forall_mem_map.mpr fun label member => ⟨label, rfl, ofLabels label member⟩
    · exact Pattern.takes_characters_iff.mpr ⟨topLong,
        fun character member => holds_letters.mpr (ofTop character member)⟩

/-- What the pattern takes for a local part; what it looked for ahead says that no dot begins
it. -/
theorem takes_localPart_iff (first : taken.head? ≠ some '.') :
    ((Pattern.group (some 1) (atLeast 0 (oneOf localItems))).Takes.andThen
        (oneOf localEndItems).Takes) before taken after ↔ IsLocalPart taken := by
  have takesMost_iff {most rest : List Char} :
      (Pattern.group (some 1) (atLeast 0 (oneOf localItems))).Takes before most rest ↔
        0 ≤ most.length ∧
          ∀ character ∈ most, (charactersOf localItems).holds character = true :=
    @Pattern.takes_characters_iff .greedy _ _ _ _ _
  constructor
  · rintro ⟨most, _, rfl, takesMost, last, isLast, rfl⟩
    obtain ⟨isLocal, noDot, noApostrophe⟩ := holds_localEndItems.mp isLast
    refine ⟨by simp, fun character member => holds_localItems.mp ?_, first, ?_⟩
    · rcases List.mem_append.mp member with member | member
      · exact (takesMost_iff.mp takesMost).2 character member
      · rw [List.mem_singleton.mp member]
        exact isLocal
    · rw [List.getLast?_concat]
      exact ⟨fun same => noDot (Option.some.inj same),
        fun same => noApostrophe (Option.some.inj same)⟩
  · intro isLocal
    obtain ⟨most, last, rfl⟩ := (List.eq_nil_or_concat taken).resolve_left isLocal.nonempty
    obtain ⟨noDot, noApostrophe⟩ := isLocal.last
    rw [List.concat_eq_append, List.getLast?_concat] at noDot noApostrophe
    have ofMost (character : Char) (member : character ∈ most) :=
      holds_localItems.mpr (isLocal.characters character (by simp [member]))
    have ofLast := holds_localItems.mpr (isLocal.characters last (by simp))
    exact ⟨most, [last], List.concat_eq_append, takesMost_iff.mpr ⟨Nat.zero_le _, ofMost⟩, last,
      holds_localEndItems.mpr ⟨ofLast, fun same => noDot (congrArg some same),
        fun same => noApostrophe (congrArg some same)⟩, rfl⟩

/-- What the parts take, to the end of the text or to a final line end. -/
theorem takes_parts_iff (first : taken.head? ≠ some '.') :
    parts.Takes before taken after ↔
      (∃ part domain, taken = part ++ '@' :: domain ∧ IsLocalPart part ∧ IsDomain domain) ∧
        (after = [] ∨ after = ['\n']) := by
  have grouped : parts.Takes =
      ((Pattern.group (some 1) (atLeast 0 (oneOf localItems))).Takes.andThen
        (oneOf localEndItems).Takes).andThen ((exactly '@').Takes.andThen
          (((atLeast 1 (.group (some 2) label)).Takes.andThen
            (atLeast 2 (oneOf letters)).Takes).andThen (Pattern.finish false).Takes)) := by
    simp only [Taking.andThen_assoc]
    rfl
  rw [grouped]
  constructor
  · rintro ⟨part, _, rfl, takesPart, _, domain, rfl, takesSign, takesRest⟩
    obtain rfl := takes_exactly_iff.mp takesSign
    obtain ⟨takesDomain, ends⟩ := Taking.andThen_place.mp takesRest
    refine ⟨⟨part, domain, rfl, (takes_localPart_iff ?_).mp takesPart,
      takes_domain_iff.mp takesDomain⟩, by simpa using ends⟩
    exact fun same => first (by simp [same])
  · rintro ⟨⟨part, domain, rfl, isLocal, isDomain⟩, ends⟩
    exact ⟨part, _, rfl, (takes_localPart_iff isLocal.first).mpr isLocal, ['@'], domain, rfl,
      takes_exactly_iff.mpr rfl,
      Taking.andThen_place.mpr ⟨takes_domain_iff.mpr isDomain, by simpa using ends⟩⟩

theorem leads_doubleDot_iff :
    doubleDot.Takes.leads (fun _ _ => True) before after ↔
      ∃ line rest, after = line ++ '.' :: '.' :: rest ∧ '\n' ∉ line := by
  have wildcard (character : Char) :
      (CharacterSet.wildcard false).holds character = true ↔ character ≠ '\n' := by
    rw [ne_comm, Ne, ← Char.toNat_inj]
    simp [CharacterSet.wildcard, CharacterSet.holds, CharacterSet.itemHolds]
  have takesLine_iff {before line rest : List Char} :
      (atLeast 0 (.oneOf (.wildcard false))).Takes before line rest ↔ '\n' ∉ line := by
    refine Pattern.takes_characters_iff.trans ((and_iff_right (Nat.zero_le _)).trans ?_)
    simp only [wildcard]
    exact List.forall_mem_ne'
  constructor
  · rintro ⟨_, rest, rfl, ⟨line, _, rfl, takesLine, _, _, rfl, takesDot, takesNext⟩, -⟩
    obtain rfl := takes_exactly_iff.mp takesDot
    obtain rfl := takes_exactly_iff.mp takesNext
    exact ⟨line, rest, by simp, takesLine_iff.mp takesLine⟩
  · rintro ⟨line, rest, rfl, oneLine⟩
    refine ⟨line ++ (['.'] ++ ['.']), rest, by simp, ⟨line, _, rfl, ?_, ['.'], ['.'], rfl, ?_, ?_⟩,
      trivial⟩
    · exact takesLine_iff.mpr oneLine
    all_goals exact takes_exactly_iff.mpr rfl

theorem oneLine_of_parts {part domain : List Char} (isLocal : IsLocalPart part)
    (isDomain : IsDomain domain) : '\n' ∉ part ++ '@' :: domain := by
  have ofPart : '\n' ∉ part := fun member => by simpa using isLocal.characters _ member
  obtain ⟨labels, top, rfl, -, ofLabels, -, ofTop⟩ := isDomain
  have ofEnd : '\n' ∉ top := fun member => by simpa using ofTop _ member
  have ofLabel (label) (member : label ∈ labels) : '\n' ∉ label := by
    obtain ⟨first, rest, rfl, isFirst, ofRest⟩ := ofLabels label member
    rintro (_ | ⟨_, inRest⟩)
    · cases isFirst
    · simpa using ofRest _ inRest
  simpa [ofPart, ofEnd] using ofLabel

/-- In what is one line, and perhaps its end, two dots are side by side just where the line has
them. -/
theorem doubleDot_before_iff {line after : List Char} (oneLine : '\n' ∉ line)
    (ends : after = [] ∨ after = ['\n']) :
    (∃ start rest, line ++ after = start ++ '.' :: '.' :: rest ∧ '\n' ∉ start) ↔
      ['.', '.'] <:+: line := by
  constructor
  · rintro ⟨start, rest, same, -⟩
    have within : ['.', '.'] <:+: line ++ after := ⟨start, rest, by simp [same]⟩
    rcases ends with rfl | rfl
    · simpa using within
    · -- Two dots do not end in a line end.
      refine (List.infix_concat_iff.mp within).resolve_left fun atEnd => ?_
      obtain none | ⟨initial, same, -⟩ := List.suffix_concat_iff.mp atEnd
      · cases none
      · simpa using congrArg List.getLast? same
  · rintro ⟨start, rest, rfl⟩
    exact ⟨start, rest ++ after, by simp, fun member => oneLine (by simp [member])⟩

/-- The pattern takes an address, to the end of the text or to a final line end. -/
theorem takes_pattern_iff :
    pattern.Takes [] taken after ↔ IsAddress taken ∧ (after = [] ∨ after = ['\n']) := by
  have looks : pattern.Takes [] taken after ↔
      (taken ++ after).head? ≠ some '.' ∧
        (¬ ∃ line rest, taken ++ after = line ++ '.' :: '.' :: rest ∧ '\n' ∉ line) ∧
          parts.Takes [] taken after := by
    rw [Ne, ← @leads_exactly_iff [], ← @leads_doubleDot_iff []]
    refine Taking.place_andThen.trans ((and_iff_right (.inl rfl)).trans ?_)
    refine Taking.place_andThen.trans (and_congr (by simp) ?_)
    exact Taking.place_andThen.trans (and_congr_left' (by simp))
  rw [looks]
  constructor
  · rintro ⟨noDot, noDoubleDot, takesParts⟩
    have first : taken.head? ≠ some '.' := fun same => noDot (by simp [same])
    obtain ⟨⟨part, domain, rfl, isLocal, isDomain⟩, ends⟩ := (takes_parts_iff first).mp takesParts
    rw [doubleDot_before_iff (oneLine_of_parts isLocal isDomain) ends] at noDoubleDot
    exact ⟨⟨⟨part, domain, rfl, isLocal, isDomain⟩, noDoubleDot⟩, ends⟩
  · rintro ⟨⟨⟨part, domain, rfl, isLocal, isDomain⟩, noDoubleDot⟩, ends⟩
    have first (rest : List Char) : (part ++ rest).head? ≠ some '.' := by
      rw [List.head?_append_of_ne_nil _ isLocal.nonempty]
      exact isLocal.first
    rw [doubleDot_before_iff (oneLine_of_parts isLocal isDomain) ends]
    exact ⟨by simpa using first ('@' :: (domain ++ after)), noDoubleDot,
      (takes_parts_iff (first _)).mpr ⟨⟨part, domain, rfl, isLocal, isDomain⟩, ends⟩⟩

end Parts

/-- An address is recognised, and an address with one line end after it. -/
theorem isAddress_iff {characters : List Char} :
    isAddress characters = true ↔
      IsAddress characters ∨
        ∃ address, characters = address ++ ['\n'] ∧ IsAddress address := by
  refine (@Pattern.isSome_run_iff characters.toArray _ isPlain_pattern [] characters rfl).trans ?_
  simp only [takes_pattern_iff]
  constructor
  · rintro ⟨address, _, rfl, isAddress, rfl | rfl⟩
    · exact .inl (by simpa using isAddress)
    · exact .inr ⟨address, rfl, isAddress⟩
  · rintro (isAddress | ⟨address, rfl, isAddress⟩)
    · exact ⟨characters, [], by simp, isAddress, .inl rfl⟩
    · exact ⟨address, _, rfl, isAddress, .inr rfl⟩

end Email

namespace Validation

variable {scope : ParseScope} {limit : Nat}

/-- An address leaf without bounds or a pattern. -/
structure AsksForAddress (schema : Schema) : Prop where
  form : ∃ coerce, schema.form = .text ⟨.email, none, none, none, coerce⟩
  unrefined : schema.refinements = []

theorem alone_of_asksForAddress (scope : ParseScope) (limit : Nat) {schema : Schema}
    (asks : AsksForAddress schema) (text : String) :
    (run scope (limit + 1)).alone schema (.text text) =
      .ok (Leaf.checkFormat .email text) := by
  obtain ⟨coerce, isText⟩ := asks.form
  rw [alone_of_unrefined asks.unrefined, isText]
  cases coerce <;> rfl

theorem accepted_of_asksForAddress (scope : ParseScope) (limit : Nat) {schema : Schema}
    (asks : AsksForAddress schema) (text : String) :
    (run scope (limit + 1)).accepted schema (.text text) =
      if Email.isAddress text.toList then some (.text text) else none := by
  rw [Validator.accepted, alone_of_asksForAddress scope limit asks, Leaf.checkFormat]
  cases Email.isAddress text.toList <;> rfl

/-- An address leaf accepts, as they are, the texts that are an address or an address and one line
end. It rejects all other texts, with one issue. -/
theorem accepts_address_iff {schema : Schema} (asks : AsksForAddress schema) (text : String) :
    (∀ output, (run scope (limit + 1)).accepted schema (.text text) = some output ↔
      output = .text text ∧
        (Email.IsAddress text.toList ∨
          ∃ address, text.toList = address ++ ['\n'] ∧ Email.IsAddress address)) ∧
      ((run scope (limit + 1)).accepted schema (.text text) = none →
        (run scope (limit + 1)).alone schema (.text text) = .ok (.reject (.text text)
          (Issue.plain .invalidFormat "Invalid email address" (.text text)))) := by
  rw [← Email.isAddress_iff, accepted_of_asksForAddress scope limit asks,
    alone_of_asksForAddress scope limit asks, Leaf.checkFormat]
  cases Email.isAddress text.toList with
  | true => simp [eq_comm]
  | false => simp

def addresses : Schema := .anonymous (.text ⟨.email, none, none, none, false⟩)

theorem asksForAddress_addresses : AsksForAddress addresses := ⟨⟨false, rfl⟩, rfl⟩

theorem isAddress_short : Email.IsAddress "o'b.c@d-4.e.fg".toList := by
  have spelled : "o'b.c@d-4.e.fg".toList = ['o', '\x27', 'b', '.', 'c'] ++ '@' ::
      (([['d', '-', '4'], ['e']].flatMap fun label => label ++ ['.']) ++ ['f', 'g']) := by
    decide +kernel
  rw [spelled]
  have isLocal : Email.IsLocalPart ['o', '\x27', 'b', '.', 'c'] :=
    ⟨by decide, by simp, by decide, by decide⟩
  refine ⟨⟨_, _, rfl, isLocal, _, _, rfl, by decide, ?_, by decide, by simp⟩, by decide⟩
  simp only [List.forall_mem_cons]
  exact ⟨⟨'d', _, rfl, by decide, by simp⟩, ⟨'e', _, rfl, by decide, by simp⟩, by simp⟩

/-- An address is accepted, and a text without an at sign is not. -/
theorem accepts_address_short :
    (run ⟨⟨[], none⟩, .synchronous⟩ 1).accepted addresses (.text "o'b.c@d-4.e.fg") =
        some (.text "o'b.c@d-4.e.fg") ∧
      (run ⟨⟨[], none⟩, .synchronous⟩ 1).alone addresses (.text "none") =
        .ok (.reject (.text "none")
          (Issue.plain .invalidFormat "Invalid email address" (.text "none"))) := by
  have unrecognised : Email.isAddress "none".toList = false := by decide +kernel
  have asks := asksForAddress_addresses
  refine ⟨((accepts_address_iff asks _).1 _).mpr ⟨rfl, .inl isAddress_short⟩,
    (accepts_address_iff asks _).2 ?_⟩
  rw [accepted_of_asksForAddress _ _ asks, unrecognised]
  rfl

/-- An address with a line end after it is accepted, and it is no address. -/
theorem not_accepts_address_iff :
    (run ⟨⟨[], none⟩, .synchronous⟩ 1).accepted addresses (.text "a@b.co\n") =
        some (.text "a@b.co\n") ∧
      ¬ Email.IsAddress "a@b.co\n".toList := by
  constructor
  · have recognised : Email.isAddress "a@b.co\n".toList = true := by decide +kernel
    rw [accepted_of_asksForAddress _ _ asksForAddress_addresses, recognised]
    rfl
  · rintro ⟨⟨part, domain, same, isLocal, isDomain⟩, -⟩
    exact Email.oneLine_of_parts isLocal isDomain (by rw [← same]; decide)

end Validation
end TypedTables
