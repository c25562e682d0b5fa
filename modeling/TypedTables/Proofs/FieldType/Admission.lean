import TypedTables.Proofs.FieldType.Texts
import TypedTables.Proofs.Validation.Leaves

/-!
# Values of a type

What a field type permits, alternative by alternative. Literals are written without the values
that they were written for, so what a literal permits is said by the values that were listed: those
that equal a listed value with the same written form.

Adding an alternative whose text is there changes nothing, because readable alternatives with one
text permit the same values.
-/

namespace TypedTables

namespace Value

/-- The items of a list or tuple, or the members of a set of either kind. -/
def elements? (value : Value) : Option (List Value) :=
  match value.items? with
  | some items => some items
  | none => value.members?

/-- The value equals a listed value that has the same literal as a given one. -/
def EqualsListed (listed : Value → Prop) (value written : Value) : Prop :=
  ∃ expected, listed expected ∧ (∃ text, expected.literal = .ok text ∧ written.literal = .ok text) ∧
    sameLiteral expected value = true

end Value

mutual

/-- The values that an alternative permits, given the values that were listed. -/
def TypeAtom.Admits (listed : Value → Prop) : TypeAtom → Value → Prop
  | .any, _ => True
  | .none, value => value.isUndefined = true
  | .null, value => value.isNull = true
  | .bool, value => value.isBoolean = true
  | .string, value => value.isText = true
  | .number, value | .float, value => value.isFiniteNumber = true
  | .int, value => Leaf.isWhole value = true
  | .datetime, value => ∃ moment, value = .timestamp moment
  | .uuid, value => ∃ identifier, value = .uuid identifier
  | .record, value => ∃ table identifier, value = .record table identifier
  | .object, value => value.entries?.isSome = true
  | .array, value => value.elements?.isSome = true
  | .literal written, value => value.EqualsListed listed written
  | .arrayOf element, value =>
      ∃ elements, value.elements? = some elements ∧
        ∀ item ∈ elements, FieldType.isOpen element = true ∨ FieldType.AdmitsSome listed element item
  | .recordOf tables, value => ∃ table identifier, value = .record table identifier ∧ table ∈ tables
  | .tupleOf _, _ | .verbatim _, _ => False

/-- The values that one of several alternatives permits. -/
def FieldType.AdmitsSome (listed : Value → Prop) : List TypeAtom → Value → Prop
  | [], _ => False
  | atom :: rest, value => atom.Admits listed value ∨ FieldType.AdmitsSome listed rest value

end

namespace FieldType

/-- The values that a type permits: every value, or those of its alternatives. -/
def Admits (listed : Value → Prop) (type : FieldType) (value : Value) : Prop :=
  type.isOpen = true ∨ ∃ atom ∈ type, atom.Admits listed value

theorem admitsSome_iff {listed : Value → Prop} {type : FieldType} {value : Value} :
    AdmitsSome listed type value ↔ ∃ atom ∈ type, atom.Admits listed value := by
  induction type with
  | nil => exact iff_of_false id (by simp)
  | cons atom rest ih =>
      change atom.Admits listed value ∨ AdmitsSome listed rest value ↔ _
      rw [ih]
      simp

end FieldType

namespace TypeAtom

open FieldType

variable {own listed more : Value → Prop} {value : Value}

theorem admits_arrayOf {element : FieldType} :
    (arrayOf element).Admits listed value ↔
      ∃ elements, value.elements? = some elements ∧
        ∀ item ∈ elements, element.Admits listed item := by
  change (∃ elements, _ ∧ ∀ item ∈ elements,
    element.isOpen = true ∨ AdmitsSome listed element item) ↔ _
  simp only [admitsSome_iff, FieldType.Admits]

theorem equalsListed_mono {written : Value} (larger : ∀ expected, listed expected → more expected)
    (equals : value.EqualsListed listed written) : value.EqualsListed more written := by
  obtain ⟨expected, isListed, writes, same⟩ := equals
  exact ⟨expected, larger expected isListed, writes, same⟩

/-- More listed values can only add to what an alternative permits. -/
theorem admits_mono {atom : TypeAtom} (readable : atom.IsReadable)
    (larger : ∀ expected, listed expected → more expected) (admits : atom.Admits listed value) :
    atom.Admits more value := by
  induction readable generalizing value with
  | name isName =>
      rename_i atom
      cases atom with
      | literal _ | arrayOf _ | tupleOf _ | recordOf _ | verbatim _ => simp [names] at isName
      | _ => exact admits
  | literal writes => exact equalsListed_mono larger admits
  | arrayOf closed each ih =>
      obtain ⟨elements, holds, permitted⟩ := admits_arrayOf.mp admits
      refine admits_arrayOf.mpr ⟨elements, holds, ?_⟩
      intro item member
      refine (permitted item member).imp_right ?_
      rintro ⟨atom, present, admitsItem⟩
      exact ⟨atom, present, ih atom present admitsItem⟩
  | recordOf present => exact admits

theorem shape_of_mem_names {atom : TypeAtom} (isName : atom ∈ names) : atom.shape = .name := by
  revert atom
  decide

theorem admits_of_atomText_eq {first second : TypeAtom} (readableFirst : first.IsReadable)
    (readableSecond : second.IsReadable) (same : atomText first = atomText second)
    (admits : first.Admits listed value) : second.Admits listed value := by
  induction readableFirst generalizing second value with
  | name isName =>
      have shapes := ofCharacters_atomText (.name isName)
      rw [same, ofCharacters_atomText readableSecond, shape_of_mem_names isName] at shapes
      cases readableSecond with
      | name other => rwa [← atomText_injective_names isName other same]
      | _ => cases shapes
  | literal writes =>
      have shapes := ofCharacters_atomText (.literal writes)
      rw [same, ofCharacters_atomText readableSecond] at shapes
      cases readableSecond with
      | name other =>
          rw [shape_of_mem_names other] at shapes
          cases shapes
      | literal otherWrites =>
          rw [atomText_literal writes, atomText_literal otherWrites] at same
          subst same
          obtain ⟨expected, isListed, ⟨text, writesExpected, writesText⟩, equal⟩ := admits
          rw [writes] at writesText
          rw [← Except.ok.inj writesText] at writesExpected
          exact ⟨expected, isListed, ⟨_, writesExpected, otherWrites⟩, equal⟩
      | _ => cases shapes
  | arrayOf closed each ih =>
      have readable := IsReadable.arrayOf closed each
      have shapes := ofCharacters_atomText readable
      rw [same, ofCharacters_atomText readableSecond] at shapes
      cases readableSecond with
      | name other =>
          rw [shape_of_mem_names other] at shapes
          cases shapes
      | arrayOf otherClosed otherEach =>
          have texts := atomTexts_eq_of_arrayOf readable (.arrayOf otherClosed otherEach) same
          obtain ⟨elements, holds, permitted⟩ := admits_arrayOf.mp admits
          refine admits_arrayOf.mpr ⟨elements, holds, ?_⟩
          intro item member
          rcases permitted item member with isOpen | ⟨atom, present, admitsItem⟩
          · rw [closed] at isOpen
            cases isOpen
          · have written := List.mem_map_of_mem (f := atomText) present
            rw [← atomTexts_eq_map, texts, atomTexts_eq_map] at written
            obtain ⟨other, otherPresent, otherText⟩ := List.mem_map.mp written
            exact Or.inr ⟨other, otherPresent,
              ih atom present (otherEach other otherPresent) otherText.symm admitsItem⟩
      | _ => cases shapes
  | recordOf present =>
      have readable := IsReadable.recordOf present
      have shapes := ofCharacters_atomText readable
      rw [same, ofCharacters_atomText readableSecond] at shapes
      cases readableSecond with
      | name other =>
          rw [shape_of_mem_names other] at shapes
          cases shapes
      | recordOf otherPresent =>
          rwa [← eq_of_recordOf readable (.recordOf otherPresent) same]
      | _ => cases shapes

/-- What an alternative permits when literals of the type itself stand for some listed values, and
literals in its element types for others. -/
def AdmitsOf (own listed : Value → Prop) (atom : TypeAtom) (value : Value) : Prop :=
  match atom with
  | .literal written => value.EqualsListed own written
  | other => other.Admits listed value

theorem admitsOf_iff {atom : TypeAtom} :
    atom.AdmitsOf own listed value ↔
      (atom.shape = .literal ∧ atom.Admits own value) ∨
        (atom.shape ≠ .literal ∧ atom.Admits listed value) := by
  cases atom with
  | literal written =>
      simp only [AdmitsOf, shape, true_and, ne_eq, not_true_eq_false, false_and, or_false]
      exact Iff.rfl
  | _ => simp [AdmitsOf, shape]

theorem admitsOf_mono {ownMore : Value → Prop} {atom : TypeAtom} (readable : atom.IsReadable)
    (ownLarger : ∀ expected, own expected → ownMore expected)
    (larger : ∀ expected, listed expected → more expected)
    (admits : atom.AdmitsOf own listed value) : atom.AdmitsOf ownMore more value := by
  rw [admitsOf_iff] at admits ⊢
  rcases admits with ⟨isLiteral, admits⟩ | ⟨noLiteral, admits⟩
  · exact Or.inl ⟨isLiteral, admits_mono readable ownLarger admits⟩
  · exact Or.inr ⟨noLiteral, admits_mono readable larger admits⟩

theorem admits_of_admitsOf {atom : TypeAtom} (readable : atom.IsReadable)
    (within : ∀ expected, own expected → listed expected)
    (admits : atom.AdmitsOf own listed value) : atom.Admits listed value := by
  rcases admitsOf_iff.mp admits with ⟨-, admits⟩ | ⟨-, admits⟩
  · exact admits_mono readable within admits
  · exact admits

theorem admitsOf_of_atomText_eq {first second : TypeAtom} (readableFirst : first.IsReadable)
    (readableSecond : second.IsReadable) (same : atomText first = atomText second)
    (admits : first.AdmitsOf own listed value) : second.AdmitsOf own listed value := by
  have shapes := ofCharacters_atomText readableFirst
  rw [same, ofCharacters_atomText readableSecond] at shapes
  rw [admitsOf_iff] at admits ⊢
  rw [shapes]
  exact admits.imp (And.imp_right (admits_of_atomText_eq readableFirst readableSecond same))
    (And.imp_right (admits_of_atomText_eq readableFirst readableSecond same))

theorem eq_none_of_atomText {atom : TypeAtom} (readable : atom.IsReadable)
    (same : atomText atom = "none") : atom = .none := by
  have shapes := ofCharacters_atomText readable
  have isName : TextShape.ofCharacters "none".toList = .name := by decide
  rw [same, isName] at shapes
  cases readable with
  | name isName => exact atomText_injective_names isName (by simp [names]) same
  | _ => cases shapes

end TypeAtom

namespace FieldType

variable {own listed : Value → Prop} {value : Value}

/-- All alternatives are known from their texts. -/
def IsReadable (type : FieldType) : Prop := ∀ atom ∈ type, atom.IsReadable

/-- Some alternative permits the value. -/
def AdmitsOf (own listed : Value → Prop) (type : FieldType) (value : Value) : Prop :=
  ∃ atom ∈ type, atom.AdmitsOf own listed value

theorem admitsOf_of_subset {type larger : FieldType} (subset : type ⊆ larger)
    (admits : type.AdmitsOf own listed value) : larger.AdmitsOf own listed value := by
  obtain ⟨atom, member, admitsAtom⟩ := admits
  exact ⟨atom, subset member, admitsAtom⟩

theorem subset_add (atom : TypeAtom) (type : FieldType) : type ⊆ add atom type := by
  unfold add
  split
  · exact List.Subset.refl type
  · exact List.subset_append_left type [atom]

theorem isReadable_add {atom : TypeAtom} {type : FieldType} (readableAtom : atom.IsReadable)
    (readable : type.IsReadable) : (add atom type).IsReadable := by
  unfold add
  split
  · exact readable
  · intro other member
    rcases List.mem_append.mp member with present | added
    · exact readable other present
    · rw [List.mem_singleton.mp added]
      exact readableAtom

theorem admitsOf_add {atom : TypeAtom} {type : FieldType} (readableAtom : atom.IsReadable)
    (readable : type.IsReadable) (admits : atom.AdmitsOf own listed value) :
    (add atom type).AdmitsOf own listed value := by
  unfold add
  split
  · rename_i present
    rw [List.contains_iff_mem, atomTexts_eq_map] at present
    obtain ⟨other, member, sameText⟩ := List.mem_map.mp present
    exact ⟨other, member, TypeAtom.admitsOf_of_atomText_eq readableAtom (readable other member)
      sameText.symm admits⟩
  · exact ⟨atom, by simp, admits⟩

theorem subset_addAll (atoms : List TypeAtom) (type : FieldType) : type ⊆ addAll atoms type := by
  induction atoms generalizing type with
  | nil => exact List.Subset.refl type
  | cons atom rest ih => exact List.Subset.trans (subset_add atom type) (ih (add atom type))

theorem atomTexts_subset_add (atom : TypeAtom) (type : FieldType) :
    atomTexts type ⊆ atomTexts (add atom type) := by
  simpa only [atomTexts_eq_map] using List.map_subset atomText (subset_add atom type)

theorem atomTexts_subset_addAll (atoms : List TypeAtom) (type : FieldType) :
    atomTexts type ⊆ atomTexts (addAll atoms type) := by
  simpa only [atomTexts_eq_map] using List.map_subset atomText (subset_addAll atoms type)

theorem mem_atomTexts_add (atom : TypeAtom) (type : FieldType) :
    atomText atom ∈ atomTexts (add atom type) := by
  rw [atomTexts_add]
  split
  · assumption
  · simp

theorem mem_atomTexts_addAll {atoms : List TypeAtom} {atom : TypeAtom} (member : atom ∈ atoms)
    (type : FieldType) : atomText atom ∈ atomTexts (addAll atoms type) := by
  induction atoms generalizing type with
  | nil => cases member
  | cons next rest ih =>
      rcases List.mem_cons.mp member with rfl | later
      · exact atomTexts_subset_addAll rest _ (mem_atomTexts_add atom type)
      · exact ih later _

theorem isReadable_addAll {atoms type : FieldType} (readableAtoms : atoms.IsReadable)
    (readable : type.IsReadable) : (addAll atoms type).IsReadable := by
  induction atoms generalizing type with
  | nil => exact readable
  | cons atom rest ih =>
      exact ih (fun other member => readableAtoms other (by simp [member]))
        (isReadable_add (readableAtoms atom (by simp)) readable)

theorem admitsOf_addAll {atoms type : FieldType} (readableAtoms : atoms.IsReadable)
    (readable : type.IsReadable) (admits : atoms.AdmitsOf own listed value) :
    (addAll atoms type).AdmitsOf own listed value := by
  induction atoms generalizing type with
  | nil =>
      obtain ⟨atom, member, -⟩ := admits
      cases member
  | cons atom rest ih =>
      have readableAtom := readableAtoms atom (by simp)
      have readableRest : FieldType.IsReadable rest :=
        fun other member => readableAtoms other (by simp [member])
      obtain ⟨chosen, member, admitsChosen⟩ := admits
      rcases List.mem_cons.mp member with rfl | later
      · exact admitsOf_of_subset (subset_addAll rest _)
          (admitsOf_add readableAtom readable admitsChosen)
      · exact ih readableRest (isReadable_add readableAtom readable) ⟨chosen, later, admitsChosen⟩

theorem isReadable_withoutAbsence {type : FieldType} (readable : type.IsReadable) :
    type.withoutAbsence.IsReadable := by
  unfold withoutAbsence
  split
  · exact fun atom member => readable atom (List.mem_filter.mp member).1
  · exact readable

theorem admitsOf_withoutAbsence {type : FieldType} (readable : type.IsReadable)
    (present : value.isUndefined = false) (admits : type.AdmitsOf own listed value) :
    type.withoutAbsence.AdmitsOf own listed value := by
  unfold withoutAbsence
  split
  · obtain ⟨atom, member, admitsAtom⟩ := admits
    refine ⟨atom, List.mem_filter.mpr ⟨member, ?_⟩, admitsAtom⟩
    rw [bne_iff_ne]
    intro isNone
    rw [TypeAtom.eq_none_of_atomText (readable atom member) isNone] at admitsAtom
    exact absurd (present.symm.trans admitsAtom) (by decide)
  · exact admits

/-- A readable type permits what one of its alternatives permits. -/
theorem admits_of_admitsOf {type : FieldType} (readable : type.IsReadable)
    (within : ∀ expected, own expected → listed expected)
    (admits : type.AdmitsOf own listed value) : type.Admits listed value := by
  obtain ⟨atom, member, admitsAtom⟩ := admits
  exact Or.inr ⟨atom, member, TypeAtom.admits_of_admitsOf (readable atom member) within admitsAtom⟩

end FieldType
end TypedTables
