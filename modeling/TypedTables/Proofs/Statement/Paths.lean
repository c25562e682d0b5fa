import Mathlib.Data.List.Forall2
import TypedTables.Proofs.FieldType.Children
import TypedTables.Proofs.Statement.Fields
import TypedTables.Proofs.Statement.Texts

/-!
# Paths of fields

Each field is defined at its own path, and everything below it at a longer one. Where every schema
has one source of children, the children of a field are apart, so the trees of definitions below
them have no path in common, and neither have the names: a path is read back from its name. With two
sources of children a path can come twice, and the field is defined twice.
-/

namespace TypedTables

open Text

namespace Identifier

theorem fieldPath_injective {first second : List String} (someFirst : first ≠ [])
    (someSecond : second ≠ []) (same : fieldPath first = fieldPath second) : first = second := by
  have passes (path : List String) :
      ∀ text ∈ path.map (String.toList ∘ segment), Passes '.' .outside text := by
    intro text member
    obtain ⟨name, -, rfl⟩ := List.mem_map.mp member
    exact hides_segment (by decide) (by decide) name
  have characters := congrArg String.toList same
  simp only [fieldPath, String.toList_intercalate, List.map_map] at characters
  have equal := Passes.separates.intercalate_injective (passes first) (passes second) (by simpa)
    (by simpa) characters
  have injective : Function.Injective (String.toList ∘ segment) :=
    fun left right sameSegment => segment_injective (String.toList_injective sameSegment)
  exact List.map_injective_iff.mpr injective equal

theorem fieldPath_ne_empty {segments : List String} (present : segments ≠ []) :
    fieldPath segments ≠ "" := by
  intro empty
  have characters := congrArg String.toList empty
  simp only [fieldPath, String.toList_intercalate, List.map_map] at characters
  cases segments with
  | nil => exact present rfl
  | cons name rest =>
      have first : (segment name).toList = [] := by
        cases rest with
        | nil => simpa using characters
        | cons next more =>
            rw [List.map_cons, List.map_cons, List.intercalate_cons_cons] at characters
            simp at characters
      exact segment_ne_empty name (String.toList_injective first)

/-- Two paths have one text only if they are the same sequence of segments, whatever characters the
segments hold. -/
theorem fieldPath_eq_iff (first second : List String) :
    fieldPath first = fieldPath second ↔ first = second := by
  refine ⟨fun same => ?_, fun same => congrArg fieldPath same⟩
  by_cases noneFirst : first = []
  · subst noneFirst
    by_contra differ
    exact fieldPath_ne_empty (Ne.symm differ) same.symm
  · by_cases noneSecond : second = []
    · subst noneSecond
      exact absurd same (fieldPath_ne_empty noneFirst)
    · exact fieldPath_injective noneFirst noneSecond same

end Identifier

/-- The paths of the definitions differ, and all of them begin with one path. -/
def IsTreeAt (path : List String) (definitions : List FieldDefinition) : Prop :=
  (definitions.map FieldDefinition.path).Nodup ∧
    ∀ definition ∈ definitions, path <+: definition.path

section

variable {starts : List (List String)} {trees : List (List FieldDefinition)}

theorem exists_start_of_mem_flatten (each : List.Forall₂ IsTreeAt starts trees)
    {definition : FieldDefinition} (member : definition ∈ trees.flatten) :
    ∃ start ∈ starts, start <+: definition.path := by
  induction each with
  | nil => cases member
  | @cons start tree _ _ isTree _ ih =>
      rw [List.flatten_cons, List.mem_append] at member
      rcases member with here | later
      · exact ⟨start, by simp, isTree.2 definition here⟩
      · obtain ⟨other, isStart, begins⟩ := ih later
        exact ⟨other, by simp [isStart], begins⟩

theorem nodup_paths_flatten {length : Nat} (distinct : starts.Nodup)
    (equal : ∀ start ∈ starts, start.length = length) (each : List.Forall₂ IsTreeAt starts trees) :
    (trees.flatten.map FieldDefinition.path).Nodup := by
  induction each with
  | nil => exact List.nodup_nil
  | @cons start tree starts trees isTree isTrees ih =>
      obtain ⟨isFirst, others⟩ := List.nodup_cons.mp distinct
      rw [List.flatten_cons, List.map_append, List.nodup_append]
      refine ⟨isTree.1, ih others fun next member => equal next (by simp [member]), ?_⟩
      intro path inTree other inTrees same
      obtain ⟨definition, member, rfl⟩ := List.mem_map.mp inTree
      obtain ⟨later, memberLater, rfl⟩ := List.mem_map.mp inTrees
      obtain ⟨next, isNext, begins⟩ := exists_start_of_mem_flatten isTrees memberLater
      -- Of two prefixes of one path that are of one length, neither is longer than the other.
      have lengths : start.length = next.length :=
        (equal start (by simp)).trans (equal next (by simp [isNext])).symm
      rw [← same] at begins
      have sameStart := (List.prefix_of_prefix_length_le (isTree.2 definition member) begins
        (Nat.le_of_eq lengths)).eq_of_length lengths
      exact isFirst (sameStart ▸ isNext)

end

theorem EndsIn.mapM_forall₂ {ε α β : Type} {fault : ε → Prop} {related : α → β → Prop}
    {action : α → Except ε β} {items : List α}
    (each : ∀ item ∈ items, EndsIn fault (related item) (action item)) :
    EndsIn fault (List.Forall₂ related items) (items.mapM action) := by
  induction items with
  | nil => exact .nil
  | cons item rest ih =>
      rw [List.mapM_cons]
      refine (each item (by simp)).bind fun value _ isRelated => ?_
      exact (ih fun next member => each next (by simp [member])).bind fun values _ areRelated =>
        .cons isRelated areRelated

namespace Generator

variable (generator : Generator)

theorem isTreeAt_fieldDefinitions (table : String) (choices : DefineChoices) {levels : Nat}
    {path : List String} {ancestors : List Ancestor} {schema : Schema}
    (sources : schema.Everywhere generator.environment fun reached =>
      reached.form.HasOneSource generator.environment) :
    EndsIn (fun _ => True) (IsTreeAt path)
      (generator.fieldDefinitions table choices levels path schema ancestors).outcome := by
  induction levels generalizing path ancestors schema with
  | zero => trivial
  | succ levels ih =>
      rw [outcome_fieldDefinitions]
      refine (sources.lowered [table] ancestors).bind fun lowered lowers inherited => ?_
      obtain ⟨distinct, depth, lengths⟩ := Schema.areApart_of_lowered sources lowers
      refine (EndsIn.anyhow _).bind fun _ _ _ => ?_
      have below : EndsIn (fun _ => True)
          (List.Forall₂ (fun child tree => IsTreeAt (path ++ child.path) tree) lowered.children)
          (lowered.children.mapM fun child => (generator.fieldDefinitions table choices levels
            (path ++ child.path) child.schema child.ancestors).outcome) :=
        .mapM_forall₂ fun child member => ih (inherited child member)
      refine below.map fun trees isTrees => ?_
      have starts : List.Forall₂ IsTreeAt
          (lowered.children.map fun child => path ++ child.path) trees :=
        List.forall₂_map_left_iff.mpr isTrees
      have isStart {start : List String}
          (member : start ∈ lowered.children.map fun child => path ++ child.path) :
          path <+: start ∧ start.length = path.length + (depth + 1) := by
        obtain ⟨child, isChild, rfl⟩ := List.mem_map.mp member
        exact ⟨List.prefix_append _ _, by rw [List.length_append, lengths child isChild]⟩
      have different : (lowered.children.map fun child => path ++ child.path).Nodup := by
        have paths : (lowered.children.map fun child => path ++ child.path) =
            (lowered.children.map ChildField.path).map fun below => path ++ below := by simp
        rw [paths]
        exact distinct.map fun first second same => List.append_cancel_left same
      have begins {definition : FieldDefinition} (member : definition ∈ trees.flatten) :
          path <+: definition.path ∧ path.length < definition.path.length := by
        obtain ⟨start, member, begins⟩ := exists_start_of_mem_flatten starts member
        obtain ⟨above, long⟩ := isStart member
        have shorter := begins.length_le
        exact ⟨above.trans begins, by omega⟩
      refine ⟨?_, ?_⟩
      · rw [List.map_cons, List.nodup_cons]
        refine ⟨fun member => ?_, nodup_paths_flatten different (fun _ => (isStart · |>.2)) starts⟩
        obtain ⟨definition, isBelow, same⟩ := List.mem_map.mp member
        have longer := (begins isBelow).2
        rw [same] at longer
        exact absurd longer (Nat.lt_irrefl _)
      · intro definition member
        rcases List.mem_cons.mp member with rfl | isBelow
        · exact List.prefix_refl _
        · exact (begins isBelow).1

end Generator

theorem Table.nodup_names_shape {table : Table Schema}
    (distinct : (table.declared.map Prod.fst).Nodup) : (table.shape.map Prod.fst).Nodup := by
  unfold Table.shape Table.shape?
  cases table.identifierField with
  | error cause => exact List.nodup_nil
  | ok identifier =>
      have own : (table.ownFields.map Prod.fst).Nodup :=
        distinct.sublist (List.Sublist.map Prod.fst List.filter_sublist)
      have free {name : String} (member : name ∈ table.ownFields.map Prod.fst) :
          name ∉ table.reservedNames := by
        obtain ⟨field, isOwn, rfl⟩ := List.mem_map.mp member
        simpa using (List.mem_filter.mp isOwn).2
      by_cases relation : table.mode = .relation
      · simp only [Table.reservedNames, if_pos relation] at free
        simp only [Except.map, Table.endFields, if_pos relation, List.map_cons, List.cons_append,
          List.nil_append, List.nodup_cons]
        refine ⟨fun member => ?_, fun member => ?_, fun member => free member (by simp), own⟩
        · simp only [List.mem_cons] at member
          rcases member with equal | equal | member
          · exact absurd equal (by decide)
          · exact absurd equal (by decide)
          · exact free member (by simp)
        · rcases List.mem_cons.mp member with equal | member
          · exact absurd equal (by decide)
          · exact free member (by simp)
      · simp only [Table.reservedNames, if_neg relation] at free
        simp only [Except.map, Table.endFields, if_neg relation, List.map_cons, List.nil_append,
          List.nodup_cons]
        exact ⟨fun member => free member (by simp), own⟩

namespace Generator

variable (generator : Generator)

theorem nodup_paths_tableFields (table : Table Schema) (choices : DefineChoices)
    (distinct : (table.declared.map Prod.fst).Nodup)
    (sources : ∀ field ∈ table.shape, field.2.Everywhere generator.environment fun reached =>
      reached.form.HasOneSource generator.environment) :
    EndsIn (fun _ => True)
      (fun definitions => (definitions.map FieldDefinition.path).Nodup ∧
        ∀ definition ∈ definitions, definition.path ≠ [])
      (generator.tableFields table choices).outcome := by
  have trees : EndsIn (fun _ => True)
      (List.Forall₂ (fun field tree => IsTreeAt [field.1] tree) table.shape)
      (table.shape.mapM fun field => (generator.fieldTree table.name choices field).outcome) :=
    .mapM_forall₂ fun field member => generator.isTreeAt_fieldDefinitions table.name choices
      ((sources field member).of_holds (holds_fieldSchema field))
  rw [outcome_tableFields]
  refine trees.map fun found areTrees => ?_
  have starts : List.Forall₂ IsTreeAt (table.shape.map fun field => [field.1]) found :=
    List.forall₂_map_left_iff.mpr areTrees
  have isName {start : List String} (member : start ∈ table.shape.map fun field => [field.1]) :
      start.length = 1 := by
    obtain ⟨field, -, rfl⟩ := List.mem_map.mp member
    rfl
  refine ⟨nodup_paths_flatten ?_ (fun _ => isName) starts, fun definition member => ?_⟩
  · have names : (table.shape.map fun field => [field.1]) =
        (table.shape.map Prod.fst).map fun name => [name] := by simp
    rw [names]
    exact (Table.nodup_names_shape distinct).map fun first second same => by simpa using same
  · obtain ⟨start, isStart, begins⟩ := exists_start_of_mem_flatten starts member
    have long := begins.length_le
    rw [isName isStart] at long
    exact List.ne_nil_of_length_pos long

/-- No field of a table is defined twice where every schema has one source of children: the
statements that are written define fields with different names. -/
theorem nodup_names_of_hasOneSource (table : Table Schema) (options : Option DefineOptions)
    (overrides : GivenOptions) (distinct : (table.declared.map Prod.fst).Nodup)
    (sources : ∀ field ∈ table.shape, field.2.Everywhere generator.environment fun reached =>
      reached.form.HasOneSource generator.environment) :
    EndsIn (fun _ => True)
      (fun texts => ∃ definitions : List FieldDefinition,
        definitions.mapM FieldDefinition.text = .ok texts ∧
          (definitions.map FieldDefinition.name).Nodup)
      (generator.defineFields table options overrides).outcome := by
  have chosen : EndsIn (fun _ => True) (fun _ => True)
      (generator.defineChoices options overrides) := by
    cases generator.defineChoices options overrides <;> trivial
  simp only [defineFields, Traced.bind_eq, Traced.outcome_andThen]
  refine chosen.bind fun choices _ _ => ?_
  refine (generator.nodup_paths_tableFields table choices distinct sources).bind
    fun definitions _ apart => ?_
  have texts : (written (definitions.map .defineField)).outcome =
      definitions.mapM FieldDefinition.text := List.mapM_map ..
  rw [texts]
  cases writes : definitions.mapM FieldDefinition.text with
  | error cause => trivial
  | ok texts =>
      refine ⟨definitions, writes, ?_⟩
      have names : definitions.map FieldDefinition.name =
          (definitions.map FieldDefinition.path).map Identifier.fieldPath := by
        simp [FieldDefinition.name]
      rw [names]
      refine apart.1.map_on fun first isFirst second isSecond same => ?_
      obtain ⟨left, isLeft, rfl⟩ := List.mem_map.mp isFirst
      obtain ⟨right, isRight, rfl⟩ := List.mem_map.mp isSecond
      exact Identifier.fieldPath_injective (apart.2 left isLeft) (apart.2 right isRight) same

/-- A generator without definitions, registered tables or defaults of its own. -/
def plain : Generator := ⟨⟨[], none⟩, .builtIn⟩

def addressSchema (street : Schema) : Schema := .anonymous (.object [("street", street)] none)

def personTable (address : Schema) : Table Schema :=
  { Table.named "person" .normal with declared := [("address", address)] }

/-- An address has one source of children. -/
theorem nodup_names_personTable :
    EndsIn (fun _ => True)
      (fun texts => ∃ definitions : List FieldDefinition,
        definitions.mapM FieldDefinition.text = .ok texts ∧
          (definitions.map FieldDefinition.name).Nodup)
      (plain.defineFields (personTable (addressSchema (.anonymous (.text Schema.freeText)))) none
        []).outcome := by
  refine plain.nodup_names_of_hasOneSource _ none [] (by decide) fun field member => ?_
  have shape : (personTable (addressSchema (.anonymous (.text Schema.freeText)))).shape =
      [("id", Schema.referenceTo (some ["person"])),
        ("address", addressSchema (.anonymous (.text Schema.freeText)))] := rfl
  rw [shape] at member
  rcases List.mem_pair.mp member with rfl | rfl
  · refine .of_parts trivial (by intro; simp [Schema.referenceTo, Schema.anonymous])
      fun part isPart => ?_
    rw [List.mem_singleton.mp isPart]
    exact .of_leaf trivial rfl (by intro; simp [Schema.anonymous])
  · refine .of_parts (List.nodup_singleton _) (by intro; simp [addressSchema, Schema.anonymous])
      fun part isPart => ?_
    rw [List.mem_singleton.mp isPart]
    exact .of_leaf trivial rfl (by intro; simp [Schema.anonymous])

/-- A union of two addresses has two sources of children, and the street is defined twice. -/
theorem defineFields_twice :
    (plain.defineFields (personTable (.anonymous (.union
      [addressSchema (.anonymous (.text Schema.freeText)),
        addressSchema (.anonymous (.number Schema.anyNumber))]))) none []).outcome =
      .ok ["DEFINE FIELD id ON TABLE person TYPE any;",
        "DEFINE FIELD address ON TABLE person TYPE object;",
        "DEFINE FIELD address.street ON TABLE person TYPE string;",
        "DEFINE FIELD address.street ON TABLE person TYPE number;"] := by
  decide +kernel

end Generator
end TypedTables
