import TypedTables.Proofs.FieldType.Sharing
import TypedTables.Proofs.Statement.Faults

/-!
# Sharing in the fields of a table

Trees that are built alike are lowered alike, whichever schemas they share: the type, the default and
the fields that are left for later are the same, or the fault is. The statements that define the
fields of a table are the same as well. A schema that stands in several places of a tree is never
taken for one that lies in itself.
-/

namespace TypedTables

/-- Running over items that are read off others is running over those. -/
theorem Traced.forEach_map {α β γ : Type} {items : List α} {read : α → β} {first : α → Traced γ}
    {second : β → Traced γ} (each : ∀ item ∈ items, second (read item) = first item) :
    forEach (items.map read) second = forEach items first := by
  induction items with
  | nil => rfl
  | cons item rest ih =>
      rw [List.map_cons, forEach, forEach, each item (by simp),
        ih fun next member => each next (by simp [member])]

namespace Schema

theorem describedIdentifier_unidentified (schema : Schema) :
    schema.unidentified.describedIdentifier = schema.describedIdentifier.unidentified := by
  fun_induction describedIdentifier schema with
  | case1 identity refinements description inner ih => exact ih
  | case2 => rfl
  | case3 schema notOptional notReference =>
      rcases schema with ⟨identity, refinements, description, form⟩
      cases form with
      | optional inner => exact absurd rfl (notOptional identity refinements description inner)
      | reference tables identifier =>
          exact absurd rfl (notReference identity refinements description tables identifier)
      | _ => rfl

end Schema

namespace Generator

variable (generator : Generator)

theorem fieldSchema_unidentified (field : String × Schema) :
    fieldSchema (field.1, field.2.unidentified) = (fieldSchema field).unidentified := by
  unfold fieldSchema
  split
  · exact field.2.describedIdentifier_unidentified
  · rfl

theorem fieldDefinitions_unidentified (table : String) (choices : DefineChoices) (levels : Nat)
    (path : List String) {schema : Schema} {ancestors : List Ancestor}
    (tree : schema.IsTreeBelow ancestors) :
    generator.fieldDefinitions table choices levels path schema.unidentified
        (ancestors.map fun _ => none) =
      generator.fieldDefinitions table choices levels path schema ancestors := by
  -- Children lie below more ancestors, and are trees below these.
  induction levels generalizing path schema ancestors with
  | zero => rfl
  | succ levels ih =>
      have kept := tree.endsIn_lowered ⟨generator.environment, [table]⟩
      rw [fieldDefinitions, fieldDefinitions, tree.lowered_unidentified]
      rcases runs : schema.lowered ⟨generator.environment, [table]⟩ ancestors with
        ⟨events, outcome⟩
      rw [runs] at kept
      cases outcome with
      | error cause => rfl
      | ok lowered =>
          have below : Traced.forEach lowered.unidentified.children (fun child =>
                generator.fieldDefinitions table choices levels (path ++ child.path) child.schema
                  child.ancestors) =
              Traced.forEach lowered.children fun child =>
                generator.fieldDefinitions table choices levels (path ++ child.path) child.schema
                  child.ancestors :=
            Traced.forEach_map fun child member => ih (path ++ child.path) (kept child member).1
          have same : fieldDefinition table choices path schema.unidentified lowered.unidentified =
              fieldDefinition table choices path schema lowered := by
            unfold fieldDefinition
            rw [schema.description_unidentified]
            rfl
          simp only [Traced.inBlock, Except.map, Traced.bind_eq, Traced.andThen_ok, same, below]

theorem fieldTree_unidentified (table : String) (choices : DefineChoices)
    {field : String × Schema} (isTree : field.2.IsTree) :
    generator.fieldTree table choices (field.1, field.2.unidentified) =
      generator.fieldTree table choices field := by
  change generator.fieldDefinitions table choices
      (generator.environment.budget (fieldSchema (field.1, field.2.unidentified))) [field.1]
      (fieldSchema (field.1, field.2.unidentified)) [] =
    generator.fieldDefinitions table choices
      (generator.environment.budget (fieldSchema field)) [field.1] (fieldSchema field) []
  rw [fieldSchema_unidentified, Environment.budget_unidentified]
  exact generator.fieldDefinitions_unidentified table choices _ [field.1]
    (isTree.of_holds (holds_fieldSchema field)).belowNone

theorem forEach_fieldTree_unidentified (table : String) (choices : DefineChoices)
    {fields : List (String × Schema)} (areTrees : ∀ field ∈ fields, field.2.IsTree) :
    Traced.forEach (Unidentified.ofFields fields) (generator.fieldTree table choices) =
      Traced.forEach fields (generator.fieldTree table choices) := by
  rw [Unidentified.ofFields_eq_map]
  exact Traced.forEach_map fun field member =>
    generator.fieldTree_unidentified table choices (areTrees field member)

theorem endsIn_fieldDefinitions_of_tree (table : String) (choices : DefineChoices) {levels : Nat}
    {path : List String} {schema : Schema} {ancestors : List Ancestor}
    (tree : schema.IsTreeBelow ancestors) (fits : schema.height ≤ levels) :
    EndsIn Fault.IsOfTree (fun _ => True)
      (generator.fieldDefinitions table choices levels path schema ancestors).outcome := by
  have whole : EndsIn Fault.IsOfTree (fun definitions => ∀ _ ∈ definitions, True)
      (generator.fieldDefinitions table choices levels path schema ancestors).outcome := by
    refine generator.endsIn_fieldDefinitions table choices
      (fun levels _ ancestors schema => schema.IsTreeBelow ancestors ∧ schema.height ≤ levels)
      ?_ ?_ ?_ ⟨tree, fits⟩
    · rintro path ancestors schema ⟨-, none⟩
      exact absurd schema.height_pos (Nat.not_lt.mpr none)
    · intro definition cause fails
      have refuses := definition.endsIn_text
      rw [fails] at refuses
      exact Fault.isOfTree_of_isOfForm (Fault.isOfForm_of_isRefusal refuses)
    · rintro levels path ancestors schema ⟨held, low⟩
      refine (held.endsIn_lowered _).mono (fun _ => id) fun lowered kept =>
        ⟨trivial, fun child member => ?_⟩
      obtain ⟨below, lower⟩ := kept child member
      exact ⟨below, by omega⟩
  exact whole.mono (fun _ => id) fun _ _ => trivial

theorem endsIn_defineFields_of_trees {table : Table Schema}
    (areTrees : ∀ field ∈ table.shape, field.2.IsTree) (options : Option DefineOptions)
    (overrides : GivenOptions) :
    EndsIn Fault.IsOfTree (fun _ => True)
      (generator.defineFields table options overrides).outcome := by
  refine generator.endsIn_defineFields
    (fun _ refuses => Fault.isOfTree_of_isOfForm (Fault.isOfForm_of_isRefusal refuses))
    ⟨by simp, by simp⟩ table options overrides fun choices field member => ?_
  have fits : (fieldSchema field).height ≤ generator.environment.budget (fieldSchema field) := by
    unfold Environment.budget
    omega
  exact generator.endsIn_fieldDefinitions_of_tree table.name choices
    ((areTrees field member).of_holds (holds_fieldSchema field)).belowNone fits

theorem defineFields_eq_of_alike {first second : Table Schema} (sameName : first.name = second.name)
    (alike : Unidentified.ofFields first.shape = Unidentified.ofFields second.shape)
    (firstTrees : ∀ field ∈ first.shape, field.2.IsTree)
    (secondTrees : ∀ field ∈ second.shape, field.2.IsTree)
    (options : Option DefineOptions) (overrides : GivenOptions) :
    generator.defineFields first options overrides =
      generator.defineFields second options overrides := by
  have sameFields (choices : DefineChoices) :
      generator.tableFields first choices = generator.tableFields second choices := by
    unfold tableFields
    rw [sameName, ← generator.forEach_fieldTree_unidentified second.name choices firstTrees, alike,
      generator.forEach_fieldTree_unidentified second.name choices secondTrees]
  simp only [defineFields, sameFields]

/-- Lowering goes by what a schema is like, not by which schema it is. Two trees that are the same
without identities, whichever schemas each of them holds in several places, give the same: the events
on the way, the type, whether the field is open to further properties, the default, and the paths of
the fields that are left for later, or the fault. Tables of one name with such fields have the same
statements for their fields. No tree is taken for one in which a schema lies in itself. -/
theorem lowering_ignores_sharing :
    (∀ (first second : Schema) (openTables : List String) (ancestors : List Ancestor),
      first.IsTreeBelow ancestors → second.IsTreeBelow ancestors →
      first.unidentified = second.unidentified →
      (first.lowered ⟨generator.environment, openTables⟩ ancestors).events =
        (second.lowered ⟨generator.environment, openTables⟩ ancestors).events ∧
      (first.lowered ⟨generator.environment, openTables⟩ ancestors).outcome.map
          LoweredField.unidentified =
        (second.lowered ⟨generator.environment, openTables⟩ ancestors).outcome.map
          LoweredField.unidentified ∧
      ∀ cause, (first.lowered ⟨generator.environment, openTables⟩ ancestors).outcome =
        .error cause → cause.IsOfTree) ∧
    (∀ first second : Table Schema, first.name = second.name →
      Unidentified.ofFields first.shape = Unidentified.ofFields second.shape →
      (∀ field ∈ first.shape, field.2.IsTree) → (∀ field ∈ second.shape, field.2.IsTree) →
      ∀ options overrides,
        generator.defineFields first options overrides =
          generator.defineFields second options overrides ∧
        ∀ cause, (generator.defineFields first options overrides).outcome = .error cause →
          cause.IsOfTree) := by
  refine ⟨?_, ?_⟩
  · intro first second openTables ancestors firstTree secondTree alike
    have firstBare := firstTree.lowered_unidentified ⟨generator.environment, openTables⟩
    have secondBare := secondTree.lowered_unidentified ⟨generator.environment, openTables⟩
    rw [alike] at firstBare
    have same := firstBare.symm.trans secondBare
    obtain ⟨sameEvents, sameOutcome⟩ := Traced.mk.inj same
    refine ⟨sameEvents, sameOutcome, fun cause fails => ?_⟩
    have ends := firstTree.endsIn_lowered ⟨generator.environment, openTables⟩
    rw [fails] at ends
    exact ends
  · intro first second sameName alike firstTrees secondTrees options overrides
    refine ⟨generator.defineFields_eq_of_alike sameName alike firstTrees secondTrees options
      overrides, fun cause fails => ?_⟩
    have ends := generator.endsIn_defineFields_of_trees firstTrees options overrides
    rw [fails] at ends
    exact ends

end Generator

namespace Schema

def line (identity : Nat) : Schema := ⟨some identity, [], .null, .text freeText⟩

def lines (identity ofLine : Nat) : Schema :=
  ⟨some identity, [], .null, .array (line ofLine) none none⟩

def page (text notes note : Schema) : Schema :=
  .anonymous (.object [("lines", text), ("notes", .anonymous (.union [notes, note]))] none)

def bookTable (page : Schema) : Table Schema :=
  { Table.named "book" .normal with declared := [("page", page)] }

theorem isTree_line (identity : Nat) : (line identity).IsTree :=
  isTree_iff.mpr ⟨by simp [line], by simp [line, Form.parts]⟩

theorem isTree_lines {identity ofLine : Nat} (differ : identity ≠ ofLine) :
    (lines identity ofLine).IsTree := by
  refine isTree_iff.mpr ⟨by simp [lines], fun part member => ?_⟩
  rw [List.mem_singleton.mp member]
  refine ⟨isTree_line ofLine, forall_holds_iff.mpr ⟨?_, by simp [line, Form.parts]⟩⟩
  simpa [isSame, lines, line] using differ

theorem isTree_page {text notes note : Schema} (ofText : text.IsTree) (ofNotes : notes.IsTree)
    (ofNote : note.IsTree) : (page text notes note).IsTree := by
  have either : (anonymous (.union [notes, note])).IsTree :=
    isTree_of_anonymous rfl (by simp [anonymous])
      (List.forall_mem_cons.mpr ⟨ofNotes, List.forall_mem_singleton.mpr ofNote⟩)
  exact isTree_of_anonymous rfl (by simp [page, anonymous])
    (List.forall_mem_cons.mpr ⟨ofText, List.forall_mem_singleton.mpr either⟩)

theorem isTree_of_mem_bookTable {page : Schema} (ofPage : page.IsTree) :
    ∀ field ∈ (bookTable page).shape, field.2.IsTree := by
  have any : (anonymous .any).IsTree :=
    isTree_of_anonymous rfl (by simp [anonymous]) (List.forall_mem_nil _)
  have reference : (referenceTo (some ["book"])).IsTree :=
    isTree_of_anonymous rfl (by simp [referenceTo, anonymous])
      (List.forall_mem_singleton.mpr any)
  have fields : (bookTable page).shape =
      [("id", referenceTo (some ["book"])), ("page", page)] := rfl
  rw [fields]
  exact List.forall_mem_cons.mpr ⟨reference, List.forall_mem_singleton.mpr ofPage⟩

/-- A page whose notes are its lines, and whose single note is each of them. -/
def sharingPage : Schema := page (lines 1 0) (lines 1 0) (line 0)

def separatePage : Schema := page (lines 1 0) (lines 2 3) (line 4)

theorem isTree_sharingPage : sharingPage.IsTree :=
  isTree_page (isTree_lines (by decide)) (isTree_lines (by decide)) (isTree_line 0)

theorem isTree_separatePage : separatePage.IsTree :=
  isTree_page (isTree_lines (by decide)) (isTree_lines (by decide)) (isTree_line 4)

end Schema

/-- Both pages are lowered alike, and give a book the same statements. -/
theorem Generator.lowering_ignores_sharing_of_lines :
    let generator : Generator := ⟨⟨[], none⟩, .builtIn⟩
    (Schema.sharingPage.lowered ⟨generator.environment, ["book"]⟩ []).outcome.map
        LoweredField.unidentified =
      (Schema.separatePage.lowered ⟨generator.environment, ["book"]⟩ []).outcome.map
        LoweredField.unidentified ∧
    generator.defineFields (Schema.bookTable Schema.sharingPage) none [] =
      generator.defineFields (Schema.bookTable Schema.separatePage) none [] := by
  intro generator
  obtain ⟨lowered, defined⟩ := generator.lowering_ignores_sharing
  have alike := lowered Schema.sharingPage Schema.separatePage ["book"] []
    Schema.isTree_sharingPage.belowNone Schema.isTree_separatePage.belowNone rfl
  have same := defined (Schema.bookTable Schema.sharingPage)
    (Schema.bookTable Schema.separatePage) rfl rfl
    (Schema.isTree_of_mem_bookTable Schema.isTree_sharingPage)
    (Schema.isTree_of_mem_bookTable Schema.isTree_separatePage) none []
  exact ⟨alike.2.1, same.1⟩

end TypedTables
