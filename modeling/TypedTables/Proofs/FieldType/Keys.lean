import TypedTables.Proofs.FieldType.Children

/-!
# Keys leave no children

The key of a record is lowered apart from the field, and the children it would leave are lost with the
rest. None are lost of a type that permits keys: what leaves children, in whatever place of a type, also
leaves an alternative that begins like an object, an array or a tuple, and no key is one.
-/

namespace TypedTables

namespace FieldType

def opensContainer (character : Char) : Bool := ['o', 'a', '['].contains character

def IsContainerText (text : String) : Prop :=
  ∃ character ∈ text.toList.head?, opensContainer character = true

/-- Some alternative is an object, an array or a tuple, or is written like one. -/
def IsMarked (type : FieldType) : Prop := ∃ text ∈ atomTexts type, IsContainerText text

theorem not_isContainerText_of_cons {character : Char} {rest : List Char} {text : String}
    (begins : text.toList = character :: rest) (other : opensContainer character = false) :
    ¬IsContainerText text := by
  rintro ⟨first, isFirst, opens⟩
  rw [begins] at isFirst
  cases isFirst
  rw [other] at opens
  cases opens

theorem not_isContainerText_of_numerals {text : String}
    (numerals : ∀ character ∈ text.toList, Text.isNumeral character = true) :
    ¬IsContainerText text := by
  rintro ⟨first, isFirst, opens⟩
  have numeral := numerals first (List.mem_of_mem_head? isFirst)
  simp only [opensContainer, List.contains_eq_mem, decide_eq_true_eq, List.mem_cons,
    List.not_mem_nil, or_false] at opens
  rcases opens with rfl | rfl | rfl <;> exact absurd numeral (by decide)

theorem not_isContainerText_quoted (asciiOnly : Bool) (text : String) :
    ¬IsContainerText (Json.quoted asciiOnly text) := by
  have begins : (Json.quoted asciiOnly text).toList =
      '\x22' :: (text.toList.flatMap (Json.quotedCharacter asciiOnly) ++ ['\x22']) := by
    rw [Json.quoted, String.toList_ofList]
    rfl
  exact not_isContainerText_of_cons begins (by decide)

theorem not_isContainerText_float (number : Binary64) :
    ¬IsContainerText (dataFloat.write number) := by
  cases number with
  | infinite negative =>
      cases negative with
      | true => exact not_isContainerText_of_cons rfl (by decide)
      | false => exact not_isContainerText_of_cons rfl (by decide)
  | finite negative significand exponent =>
      exact not_isContainerText_of_numerals (dataFloat.isNumeral_write negative significand exponent)

theorem not_isContainerText_literal {value : Value} {text : String}
    (permits : permitsKey (.literal value) = true) (writes : value.literal = .ok text) :
    ¬IsContainerText text := by
  have written : Written.write .literal value = .ok text := by
    unfold Value.literal at writes
    split at writes
    · cases value <;> contradiction
    · exact writes
  cases value with
  | text characters =>
      rw [Written.write, Except.ok.injEq] at written
      subst written
      exact not_isContainerText_quoted _ _
  | timestamp moment | date day | uuid identifier =>
      simp only [Written.write, Written.otherText, Except.ok.injEq] at written
      subst written
      exact not_isContainerText_quoted _ _
  | record table identifier =>
      rw [Written.write] at written
      obtain ⟨characters, -, rfl⟩ := (except_map_eq_ok_iff _ _ _).mp written
      exact not_isContainerText_quoted _ _
  | integer number =>
      rw [Written.write, Except.ok.injEq] at written
      subst written
      exact not_isContainerText_of_numerals fun _ member => Text.isNumeral_integer member
  | float number =>
      rw [Written.write, Except.ok.injEq] at written
      subst written
      exact not_isContainerText_float number
  | notANumber token =>
      rw [Written.write, Except.ok.injEq] at written
      subst written
      exact not_isContainerText_of_cons rfl (by decide)
  | decimal number =>
      simp only [Written.write, Written.otherText, Except.ok.injEq] at written
      subst written
      cases number.toBinary64? with
      | none => exact not_isContainerText_of_cons rfl (by decide)
      | some rounded => exact not_isContainerText_float rounded
  | _ => cases permits

/-- No alternative that permits keys is written like an object, an array or a tuple. -/
theorem not_isContainerText_of_permitsKey {atom : TypeAtom} (permits : permitsKey atom = true) :
    ¬IsContainerText (atomText atom) := by
  cases atom with
  | literal value =>
      rw [atomText, literalText]
      cases writes : value.literal with
      | ok text => exact not_isContainerText_literal permits writes
      | error cause =>
          rintro ⟨first, isFirst, -⟩
          cases isFirst
  | string | number | int | float => exact not_isContainerText_of_cons rfl (by decide)
  | _ => cases permits

theorem not_isMarked_of_permitsKey {type : FieldType} (permits : type.all permitsKey = true) :
    ¬type.IsMarked := by
  rintro ⟨text, member, isContainer⟩
  rw [atomTexts_eq_map] at member
  obtain ⟨atom, present, rfl⟩ := List.mem_map.mp member
  exact not_isContainerText_of_permitsKey (List.all_eq_true.mp permits atom present) isContainer

end FieldType

namespace LoweringState

/-- From one state to another no alternative was lost, and where children were kept for later some
alternative is written like an object, an array or a tuple. -/
structure Marks (before after : LoweringState) : Prop where
  texts : FieldType.atomTexts before.context.type ⊆ FieldType.atomTexts after.context.type
  marked : after.children = before.children ∨ after.context.type.IsMarked

namespace Marks

variable {first second third : LoweringState}

theorem refl (state : LoweringState) : state.Marks state := ⟨List.Subset.refl _, Or.inl rfl⟩

theorem trans (marks : first.Marks second) (further : second.Marks third) : first.Marks third := by
  refine ⟨List.Subset.trans marks.texts further.texts, ?_⟩
  rcases further.marked with same | marked
  · rcases marks.marked with sameBefore | ⟨text, member, isContainer⟩
    · exact Or.inl (same.trans sameBefore)
    · exact Or.inr ⟨text, further.texts member, isContainer⟩
  · exact Or.inr marked

end Marks
end LoweringState

namespace FieldType

theorem isContainerText_arrayOf (element : FieldType) :
    IsContainerText (atomText (.arrayOf element)) := by
  refine ⟨'a', ?_, rfl⟩
  rw [atomText, String.toList_append, String.toList_append]
  rfl

theorem isContainerText_tupleOf (elements : List FieldType) :
    IsContainerText (atomText (.tupleOf elements)) := by
  refine ⟨'[', ?_, rfl⟩
  rw [atomText, String.toList_append, String.toList_append]
  rfl

theorem isMarked_addAll_withoutAbsence {type : FieldType} (marked : type.IsMarked)
    (before : FieldType) : (before.addAll type.withoutAbsence).IsMarked := by
  obtain ⟨text, member, isContainer⟩ := marked
  rw [atomTexts_eq_map] at member
  obtain ⟨atom, present, rfl⟩ := List.mem_map.mp member
  refine ⟨atomText atom, mem_atomTexts_addAll ?_ before, isContainer⟩
  unfold withoutAbsence
  split
  · refine List.mem_filter.mpr ⟨present, ?_⟩
    rw [bne_iff_ne]
    intro absence
    rw [absence] at isContainer
    exact not_isContainerText_of_cons rfl (by decide) isContainer
  · exact present

end FieldType

namespace Lowering

variable {α β : Type}

theorem LeavesType.inFresh (segment : Option String) (action : Lowering Unit) :
    LeavesType (inFresh segment action) := by
  intro state final context ends
  rw [context_of_inFresh ends]

theorem LeavesType.elementType {lower : Lowerer} {scope : LoweringScope} (element : Schema) :
    LeavesType (elementType lower scope element) :=
  (LeavesType.inFresh _ _).bind fun _ => Links.of_result fun _ => rfl

/-- A step that ends well loses no alternative, and marks the type if it keeps children. -/
abbrev Marks (action : Lowering α) : Prop := Links LoweringState.Marks action

/-- A step that ends well loses no alternative, and marks the type. -/
def Marking (action : Lowering α) : Prop :=
  ∀ state final value, action state = (.ok value, final) →
    FieldType.atomTexts state.context.type ⊆ FieldType.atomTexts final.context.type ∧
      final.context.type.IsMarked

namespace Marking

theorem marks {action : Lowering α} (marking : Marking action) : Marks action :=
  fun state final value ends =>
    ⟨(marking state final value ends).1, Or.inr (marking state final value ends).2⟩

theorem addAtom {atom : TypeAtom} (isContainer : FieldType.IsContainerText (FieldType.atomText atom)) :
    Marking (addAtom atom) := by
  intro state final value ends
  obtain ⟨-, rfl⟩ := Prod.mk.inj ends
  exact ⟨FieldType.atomTexts_subset_add atom _, _, FieldType.mem_atomTexts_add atom _, isContainer⟩

theorem after {first : Lowering α} {next : α → Lowering β} (leaves : LeavesType first)
    (marking : ∀ value, Marking (next value)) : Marking (first >>= next) := by
  intro state final result ends
  obtain ⟨value, middle, endsFirst, endsNext⟩ := bind_eq_ok ends
  rw [← leaves state middle value endsFirst]
  exact marking value middle final result endsNext

theorem before {first : Lowering α} {next : α → Lowering β} (marking : Marking first)
    (leaves : ∀ value, LeavesType (next value)) : Marking (first >>= next) := by
  intro state final result ends
  obtain ⟨value, middle, endsFirst, endsNext⟩ := bind_eq_ok ends
  rw [leaves value middle final result endsNext]
  exact marking state middle value endsFirst

end Marking

namespace Marks

theorem bind {first : Lowering α} {next : α → Lowering β} (marks : Marks first)
    (marksNext : ∀ value, Marks (next value)) : Marks (first >>= next) :=
  Links.bind .trans marks marksNext

theorem throw (cause : Fault) : Marks (MonadExcept.throw cause : Lowering α) :=
  Links.of_result .refl

theorem get : Marks (MonadState.get : Lowering LoweringState) := by
  intro state final value ends
  obtain ⟨-, rfl⟩ := Prod.mk.inj ends
  exact .refl _

theorem addAtom (atom : TypeAtom) : Marks (addAtom atom) :=
  Links.modify fun _ => ⟨FieldType.atomTexts_subset_add atom _, Or.inl rfl⟩

theorem notify (notice : Notice) : Marks (notify notice) :=
  Links.modify fun _ => ⟨List.Subset.refl _, Or.inl rfl⟩

theorem keepDefault (value : Value) : Marks (keepDefault value) := by
  refine Links.modify fun state => ?_
  split
  · exact ⟨List.Subset.refl _, Or.inl rfl⟩
  · exact .refl _

theorem given {outcome : Except Fault α} {next : α → Lowering β}
    (marks : ∀ value, outcome = .ok value → Marks (next value)) :
    Marks (Lowering.given outcome >>= next) := by
  intro state final result ends
  obtain ⟨value, isValue, endsNext⟩ := given_bind_eq_ok ends
  exact marks value isValue state final result endsNext

theorem apart (action : Lowering Unit) : Marks (apart action) := by
  intro state final type ends
  obtain ⟨-, rfl⟩ := Prod.mk.inj ends
  exact ⟨List.Subset.refl _, Or.inl rfl⟩

theorem inside {schema : Schema} {action : Lowering Unit} (marks : Marks action) :
    Marks (inside schema action) := by
  intro state final value ends
  obtain ⟨inner, runs, rfl⟩ := inside_eq_ok ends
  obtain ⟨texts, marked⟩ := marks _ inner value runs
  exact ⟨texts, marked⟩

variable {lower : Lowerer} {scope : LoweringScope}

theorem container (element : Schema) : Marks (container lower scope element) := by
  refine (Marking.after (LeavesType.elementType element) fun type => ?_).marks
  split
  · exact .addAtom ⟨'a', rfl, rfl⟩
  · exact .addAtom (FieldType.isContainerText_arrayOf type)

theorem tuple (items : List Schema) :
    Marks (do
      let types ← items.mapM (elementType lower scope)
      Lowering.addAtom (.tupleOf (FieldType.distinct types))) := by
  have leaves : LeavesType (items.mapM (elementType lower scope)) :=
    Links.mapM (fun _ => rfl) (fun same further => further.trans same)
      fun item _ => LeavesType.elementType item
  exact (Marking.after leaves fun types => .addAtom (FieldType.isContainerText_tupleOf _)).marks

theorem keyed (key value : Schema) : Marks (keyed lower scope key value) := by
  refine bind (apart _) fun keyType => ?_
  split
  · exact (Marking.before (.addAtom ⟨'o', rfl, rfl⟩) fun _ => .addChild "*" value).marks
  · exact throw _

theorem object (shape : List (String × Schema)) (catchall : Option Schema) :
    Marks (Lowering.form lower scope (.object shape catchall)) := by
  refine (Marking.before (.addAtom ⟨'o', rfl, rfl⟩) fun _ => ?_).marks
  split
  · exact .bind .markFlexible fun _ => .addChildren shape
  · exact .addChildren shape

theorem present {action : Lowering Unit} (marks : Marks action) :
    Marks (do
      let context ← inFresh none action
      addAtoms context.type.withoutAbsence) := by
  intro state final value ends
  obtain ⟨context, middle, endsInner, adds⟩ := bind_eq_ok ends
  obtain ⟨inner, runs, rfl, rfl⟩ := inFresh_eq_ok endsInner
  obtain ⟨-, rfl⟩ := Prod.mk.inj adds
  refine ⟨FieldType.atomTexts_subset_addAll _ _, ?_⟩
  rcases (marks _ inner () runs).marked with same | marked
  · exact Or.inl same
  · exact Or.inr (FieldType.isMarked_addAll_withoutAbsence marked _)

theorem resolved {target : Schema} (marks : Marks (lower scope target)) :
    Marks (resolved lower scope target) := by
  have cut (notice : Notice) : Marks (do Lowering.notify notice; Lowering.addAtom .any) :=
    bind (notify notice) fun _ => addAtom .any
  refine bind get fun state => ?_
  split
  · exact cut _
  · cases target.table? with
    | none => exact marks
    | some table =>
        simp only
        split
        · exact cut _
        · exact marks

/-- A form marks the type if it keeps children, when the schemas that it is made of do. -/
theorem form {form : Form Schema} (parts : ∀ part ∈ form.entered, Marks (lower scope part))
    (resolves : ∀ target schema, form = .lazily target →
      scope.environment.resolve target = .ok schema → Marks (lower scope schema)) :
    Marks (Lowering.form lower scope form) := by
  cases form with
  | promise inner => exact throw _
  | function => exact throw _
  | custom check message => exact throw _
  | symbol => exact throw _
  | table described => exact throw _
  | number rules => exact given fun atom _ => addAtom atom
  | bigint format => exact given fun atom _ => addAtom atom
  | optional inner | nullable inner =>
      exact bind (parts inner (by simp [Form.entered, Form.lowered])) fun _ => addAtom _
  | nonoptional inner => exact present (parts inner (by simp [Form.entered, Form.lowered]))
  | default inner value | prefault inner value =>
      exact bind (keepDefault value) fun _ => parts inner (by simp [Form.entered, Form.lowered])
  | fallback inner value | readonly inner =>
      exact parts inner (by simp [Form.entered, Form.lowered])
  | pipe source target =>
      simp only [Lowering.form]
      split
      · exact parts target (by simp [Form.entered, Form.lowered])
      · exact parts source (by simp [Form.entered, Form.lowered])
  | object shape catchall => exact object shape catchall
  | array element least most | set element least most => exact container element
  | record key value | map key value => exact keyed key value
  | tuple items rest =>
      cases rest with
      | some rest => exact addAtom _
      | none => exact tuple items
  | union options =>
      exact Links.forM .refl .trans fun option member => parts option member
  | enumeration values | literal values =>
      exact Links.forM .refl .trans fun value _ => given fun _ _ => addAtom _
  | lazily target => exact given fun schema resolved => .resolved (resolves target schema rfl resolved)
  | reference tables identifier =>
      cases tables with
      | none => exact addAtom _
      | some names => cases names <;> exact addAtom _
  | any | unknown | never | undefined | void | null | boolean | text rules | uuid format
  | date coerce | transform change | intersection left right => exact addAtom _

theorem run (budget : Nat) (scope : LoweringScope) (schema : Schema) :
    Marks (Lowering.run budget scope schema) := by
  induction budget generalizing schema with
  | zero => exact throw _
  | succ budget ih =>
      refine bind get fun state => ?_
      split
      · exact throw _
      · exact inside (form (fun part _ => ih part) fun _ other _ _ => ih other)

end Marks

theorem children_eq_nil_of_permitsKey {budget : Nat} {scope : LoweringScope} {schema : Schema}
    {ancestors : List Ancestor} {final : LoweringState}
    (ends : run budget scope schema (.ofField ancestors) = (.ok (), final))
    (permits : final.context.type.all FieldType.permitsKey = true) : final.children = [] := by
  rcases (Marks.run budget scope schema _ final () ends).marked with same | marked
  · exact same
  · exact absurd marked (FieldType.not_isMarked_of_permitsKey permits)

end Lowering

end TypedTables
