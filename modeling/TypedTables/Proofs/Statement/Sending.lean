import TypedTables.Proofs.Statement.Batches
import TypedTables.Proofs.Statement.Termination

/-!
# What is sent

Generating statements sends nothing, so that what keeps a batch from being generated keeps all of
it from the database: overrides that cannot be read, a comment without a literal, and, where fields
are chosen, a field at any depth of any table that cannot be lowered or written. Otherwise the
statements of the batch are sent in order, each of them once, up to the first one that is refused.
-/

namespace TypedTables

/-! ## What a computation sends -/

def Event.statement? : Event → Option String
  | .sent statement => some statement
  | _ => none

namespace Traced

variable {α β : Type}

/-- The statements that a computation sent, in order. -/
def sent (computation : Traced α) : List String := computation.events.filterMap Event.statement?

theorem sent_inBlock (change : ContextChange) (work : Traced α) :
    (inBlock change work).sent = work.sent := by
  rw [sent, inBlock, List.filterMap_cons_none rfl, List.filterMap_append]
  exact List.append_nil _

theorem sent_andThen_of_ok {first : Traced α} {value : α} (succeeds : first.outcome = .ok value)
    (next : α → Traced β) : (first.andThen next).sent = first.sent ++ (next value).sent := by
  rw [andThen, succeeds]
  exact List.filterMap_append

theorem sent_andThen_of_error {first : Traced α} {cause : Fault}
    (fails : first.outcome = .error cause) (next : α → Traced β) :
    (first.andThen next).sent = first.sent := by
  rw [andThen, fails]
  rfl

/-- What goes on with nothing that sends, and sends nothing itself, has sent nothing. -/
theorem sent_andThen_eq_nil {first : Traced α} {next : α → Traced β} (silent : first.sent = [])
    (further : ∀ value, (next value).sent = []) : (first.andThen next).sent = [] := by
  cases ends : first.outcome with
  | error cause => rw [sent_andThen_of_error ends, silent]
  | ok value => rw [sent_andThen_of_ok ends, silent, further, List.append_nil]

theorem sent_forEach_eq_nil {items : List α} {action : α → Traced β}
    (silent : ∀ item ∈ items, (action item).sent = []) : (forEach items action).sent = [] := by
  induction items with
  | nil => rfl
  | cons item rest ih =>
      refine sent_andThen_eq_nil (silent item List.mem_cons_self) fun first => ?_
      exact sent_andThen_eq_nil (ih fun next member => silent next (List.mem_cons_of_mem _ member))
        fun others => rfl

end Traced

/-! ## Connections -/

namespace Connection

variable (connection : Connection)

/-- A connection takes every statement, whatever was sent before. -/
def TakesAll : Prop := ∀ earlier statement, connection.answer earlier statement = .ok ()

theorem takesAll_reliable : reliable.TakesAll := fun _ _ => rfl

theorem send_cons (earlier : List String) (statement : String) (rest : List String) :
    connection.send earlier (statement :: rest) =
      (Traced.emit (.sent statement)).andThen fun _ =>
        (Traced.ofExcept (connection.answer earlier statement)).andThen fun _ =>
          connection.send (earlier ++ [statement]) rest := rfl

/-- Statements are sent in order, from the first on, each of them once. -/
theorem sent_send_isPrefix (earlier statements : List String) :
    (connection.send earlier statements).sent <+: statements := by
  induction statements generalizing earlier with
  | nil => exact List.nil_prefix
  | cons statement rest ih =>
      rw [send_cons, Traced.sent_andThen_of_ok (Traced.outcome_emit _)]
      refine (List.prefix_append_right_inj [statement]).mpr ?_
      cases answers : connection.answer earlier statement with
      | error cause =>
          rw [Traced.sent_andThen_of_error (Traced.outcome_ofExcept _)]
          exact List.nil_prefix
      | ok taken =>
          rw [Traced.sent_andThen_of_ok (Traced.outcome_ofExcept _)]
          exact ih _

/-- A connection that takes every statement is sent all of them. -/
theorem sent_send_of_takesAll {connection : Connection} (takes : connection.TakesAll)
    (earlier statements : List String) :
    (connection.send earlier statements).outcome = .ok () ∧
      (connection.send earlier statements).sent = statements := by
  induction statements generalizing earlier with
  | nil => exact ⟨rfl, rfl⟩
  | cons statement rest ih =>
      obtain ⟨ends, sends⟩ := ih (earlier ++ [statement])
      rw [send_cons, takes earlier statement]
      refine ⟨ends, ?_⟩
      rw [Traced.sent_andThen_of_ok (Traced.outcome_emit _),
        Traced.sent_andThen_of_ok (Traced.outcome_ofExcept _), sends]
      rfl

end Connection

namespace Generator

variable (generator : Generator)

/-! ## Generating sends nothing -/

theorem sent_lowered (schema : Schema) (scope : LoweringScope) (ancestors : List Ancestor) :
    (schema.lowered scope ancestors).sent = [] := by
  have notices : (schema.lowered scope ancestors).events =
      (Lowering.enter scope schema (.ofField ancestors)).2.notices.map .noticed := rfl
  rw [Traced.sent, notices, List.filterMap_map, List.filterMap_eq_nil_iff]
  exact fun notice _ => rfl

theorem sent_fieldDefinitions (table : String) (choices : DefineChoices) (levels : Nat)
    (path : List String) (schema : Schema) (ancestors : List Ancestor) :
    (generator.fieldDefinitions table choices levels path schema ancestors).sent = [] := by
  induction levels generalizing path schema ancestors with
  | zero => rfl
  | succ levels ih =>
      refine Traced.sent_andThen_eq_nil ?_ fun lowered => ?_
      · rw [Traced.sent_inBlock, sent_lowered]
      · refine Traced.sent_andThen_eq_nil rfl fun text => ?_
        refine Traced.sent_andThen_eq_nil rfl fun noticed => ?_
        exact Traced.sent_andThen_eq_nil (Traced.sent_forEach_eq_nil fun child member => ih ..)
          fun below => rfl

theorem sent_tableFields (table : Table Schema) (choices : DefineChoices) :
    (generator.tableFields table choices).sent = [] :=
  Traced.sent_andThen_eq_nil
    (Traced.sent_forEach_eq_nil fun _ _ => generator.sent_fieldDefinitions ..) fun _ => rfl

theorem sent_tableStatements (table : Table Schema) (choices : DefineChoices) :
    (generator.tableStatements table choices).sent = [] := by
  rw [tableStatements, Traced.sent_inBlock]
  refine Traced.sent_andThen_eq_nil rfl fun head => ?_
  have afterwards (fields : List FieldDefinition) :
      ((written (fields.map .defineField)).andThen fun statements =>
        (Traced.notify (.tableStatements (head ++ statements).length table.name)).andThen fun _ =>
          Traced.result (head ++ statements)).sent = [] :=
    Traced.sent_andThen_eq_nil rfl fun statements => Traced.sent_andThen_eq_nil rfl fun _ => rfl
  cases choices.fields with
  | false => exact afterwards []
  | true => exact Traced.sent_andThen_eq_nil (generator.sent_tableFields table choices) afterwards

theorem sent_defineAll (tables : Option (List (Table Schema))) (options : Option DefineOptions)
    (overrides : GivenOptions) : (generator.defineAll tables options overrides).sent = [] := by
  refine Traced.sent_andThen_eq_nil (Traced.sent_forEach_eq_nil fun table _ => ?_) fun each => ?_
  · exact Traced.sent_andThen_eq_nil rfl fun choices =>
      generator.sent_tableStatements table choices
  · exact Traced.sent_andThen_eq_nil rfl fun noticed => rfl

/-! ## Fields that fail -/

/-- A field cannot be lowered, or cannot be written, or this is so of one of the fields below it. -/
inductive FieldFails (table : String) (choices : DefineChoices) :
    List String → Schema → List Ancestor → Prop
  | unlowered {path : List String} {schema : Schema} {ancestors : List Ancestor} {cause : Fault}
      (fails : (schema.lowered ⟨generator.environment, [table]⟩ ancestors).outcome = .error cause) :
      FieldFails table choices path schema ancestors
  | unwritten {path : List String} {schema : Schema} {ancestors : List Ancestor}
      {lowered : LoweredField} {cause : Fault}
      (lowers : (schema.lowered ⟨generator.environment, [table]⟩ ancestors).outcome = .ok lowered)
      (fails : (fieldDefinition table choices path schema lowered).text = .error cause) :
      FieldFails table choices path schema ancestors
  | further {path : List String} {schema : Schema} {ancestors : List Ancestor}
      {lowered : LoweredField} {child : ChildField}
      (lowers : (schema.lowered ⟨generator.environment, [table]⟩ ancestors).outcome = .ok lowered)
      (member : child ∈ lowered.children)
      (fails : FieldFails table choices (path ++ child.path) child.schema child.ancestors) :
      FieldFails table choices path schema ancestors

/-- One of the fields of a table fails, at any depth. -/
def HasFailingField (table : Table Schema) (choices : DefineChoices) : Prop :=
  ∃ field ∈ table.shape,
    generator.FieldFails table.name choices [field.1] (fieldSchema field) []

variable {generator} {choices : DefineChoices}

theorem FieldFails.exists_error {table : String} {path : List String} {schema : Schema}
    {ancestors : List Ancestor} (fails : generator.FieldFails table choices path schema ancestors)
    (levels : Nat) : ∃ cause,
      (generator.fieldDefinitions table choices levels path schema ancestors).outcome =
        .error cause := by
  induction fails generalizing levels with
  | unlowered fails =>
      cases levels with
      | zero => exact ⟨_, rfl⟩
      | succ levels => exact ⟨_, by rw [outcome_fieldDefinitions, fails]; rfl⟩
  | @unwritten path schema ancestors lowered cause lowers fails =>
      cases levels with
      | zero => exact ⟨_, rfl⟩
      | succ levels =>
          exact ⟨cause, by rw [outcome_fieldDefinitions, lowers]; simp only [Except.bind, fails]⟩
  | @further path schema ancestors lowered child lowers member fails ih =>
      cases levels with
      | zero => exact ⟨_, rfl⟩
      | succ levels =>
          obtain ⟨cause, failsBelow⟩ := ih levels
          obtain ⟨other, failsAmong⟩ : ∃ other, (lowered.children.mapM fun child =>
              (generator.fieldDefinitions table choices levels (path ++ child.path) child.schema
                child.ancestors).outcome) = .error other :=
            exists_mapM_eq_error member failsBelow
          rw [outcome_fieldDefinitions, lowers]
          simp only [Except.bind]
          cases (fieldDefinition table choices path schema lowered).text with
          | error unwritten => exact ⟨unwritten, rfl⟩
          | ok text => exact ⟨other, by simp only [failsAmong]; rfl⟩

/-- Where a field cannot be defined, it fails, or lies too deep. -/
theorem fieldFails_of_error {table : String} {levels : Nat} {path : List String} {schema : Schema}
    {ancestors : List Ancestor} {cause : Fault}
    (fails : (generator.fieldDefinitions table choices levels path schema ancestors).outcome =
      .error cause) (inTime : cause ≠ .tooDeep) :
    generator.FieldFails table choices path schema ancestors := by
  induction levels generalizing path schema ancestors with
  | zero => exact absurd (Except.error.inj fails).symm inTime
  | succ levels ih =>
      rw [outcome_fieldDefinitions] at fails
      rcases (except_bind_eq_error_iff _ _ _).mp fails with unlowered | ⟨lowered, lowers, further⟩
      · exact .unlowered unlowered
      · rcases (except_bind_eq_error_iff _ _ _).mp further with unwritten | ⟨text, -, among⟩
        · exact .unwritten lowers unwritten
        · obtain ⟨child, member, failsBelow⟩ :=
            exists_of_mapM_eq_error ((except_map_eq_error_iff _ _ _).mp among)
          exact .further lowers member (ih failsBelow)

theorem exists_text_of_mem_fieldDefinitions {table : String} {levels : Nat} {path : List String}
    {schema : Schema} {ancestors : List Ancestor} {definitions : List FieldDefinition}
    (defines : (generator.fieldDefinitions table choices levels path schema ancestors).outcome =
      .ok definitions) : ∀ definition ∈ definitions, ∃ text, definition.text = .ok text := by
  induction levels generalizing path schema ancestors definitions with
  | zero => cases defines
  | succ levels ih =>
      rw [outcome_fieldDefinitions, except_bind_eq_ok_iff] at defines
      obtain ⟨lowered, lowers, continues⟩ := defines
      obtain ⟨text, writes, finishes⟩ := (except_bind_eq_ok_iff _ _ _).mp continues
      obtain ⟨below, each, rfl⟩ := (except_map_eq_ok_iff _ _ _).mp finishes
      intro definition member
      rcases List.mem_cons.mp member with rfl | isBelow
      · exact ⟨text, writes⟩
      · obtain ⟨tree, isTree, inTree⟩ := List.mem_flatten.mp isBelow
        obtain ⟨child, -, defined⟩ := exists_mem_of_mapM_eq_ok each isTree
        exact ih defined definition inTree

/-! ## Batches that fail -/

theorem exists_text_of_mem_tableFields {table : Table Schema} {definitions : List FieldDefinition}
    (defines : (generator.tableFields table choices).outcome = .ok definitions) :
    ∀ definition ∈ definitions, ∃ text, definition.text = .ok text := by
  rw [outcome_tableFields] at defines
  obtain ⟨trees, each, rfl⟩ := (except_map_eq_ok_iff _ _ _).mp defines
  intro definition member
  obtain ⟨tree, isTree, inTree⟩ := List.mem_flatten.mp member
  obtain ⟨field, -, defined⟩ := exists_mem_of_mapM_eq_ok each isTree
  exact exists_text_of_mem_fieldDefinitions defined definition inTree

variable (generator) in
/-- A field, or a field somewhere below it, leads from schema to schema without end. -/
def DescendsForever (table : Table Schema) : Prop :=
  ∃ field ∈ table.shape,
    ∀ length, ¬(fieldSchema field).EndsWithin generator.environment length []

theorem outcome_defineFields_asOptions (table : Table Schema) :
    (generator.defineFields table (some choices.asOptions) []).outcome =
      (generator.tableFields table choices).outcome.bind fun definitions =>
        definitions.mapM FieldDefinition.text := by
  rw [outcome_defineFields, choices.defineChoices_asOptions]
  rfl

theorem HasFailingField.exists_error {table : Table Schema}
    (fails : generator.HasFailingField table choices) :
    ∃ cause, (generator.defineFields table (some choices.asOptions) []).outcome =
      .error cause := by
  obtain ⟨field, member, failing⟩ := fails
  obtain ⟨cause, failsTree⟩ :=
    failing.exists_error (generator.environment.budget (fieldSchema field))
  obtain ⟨other, among⟩ : ∃ other, (table.shape.mapM fun field =>
      (generator.fieldTree table.name choices field).outcome) = .error other :=
    exists_mapM_eq_error member failsTree
  refine ⟨other, ?_⟩
  rw [outcome_defineFields_asOptions, outcome_tableFields, among]
  rfl

theorem hasFailingField_of_error (identified : generator.environment.IsIdentified)
    {table : Table Schema} {cause : Fault}
    (fails : (generator.defineFields table (some choices.asOptions) []).outcome = .error cause) :
    generator.HasFailingField table choices ∨ generator.DescendsForever table := by
  rw [outcome_defineFields_asOptions] at fails
  rcases (except_bind_eq_error_iff _ _ _).mp fails with undefined | ⟨definitions, defines, late⟩
  · rw [outcome_tableFields] at undefined
    obtain ⟨field, member, failsTree⟩ :=
      exists_of_mapM_eq_error ((except_map_eq_error_iff _ _ _).mp undefined)
    by_cases bounded : ∃ length, (fieldSchema field).EndsWithin generator.environment length []
    · obtain ⟨length, within⟩ := bounded
      have ends : EndsIn (· ≠ .tooDeep) (fun _ => True)
          (generator.fieldTree table.name choices field).outcome :=
        generator.endsIn_fieldDefinitions_of_endsWithin identified table.name choices
          (within.within_budget identified)
      have inTime : cause ≠ .tooDeep := by
        rw [failsTree] at ends
        exact ends
      exact .inl ⟨field, member, fieldFails_of_error failsTree inTime⟩
    · exact .inr ⟨field, member, fun length within => bounded ⟨length, within⟩⟩
  · -- What cannot be written is not among what was defined.
    obtain ⟨definition, member, unwritten⟩ := exists_of_mapM_eq_error late
    obtain ⟨text, writes⟩ := exists_text_of_mem_tableFields defines definition member
    rw [writes] at unwritten
    cases unwritten

variable (generator) in
/-- What keeps a table from being defined: overrides that cannot be read, a comment without a
literal, and, where fields are chosen, a field that fails. -/
def Obstructs (options : Option DefineOptions) (overrides : GivenOptions) (table : Table Schema) :
    Prop :=
  (∃ cause, DefineOptions.ofGiven overrides = .error cause) ∨
    (∃ cause, Clause.comment table.comment = .error cause) ∨
      ∃ given, DefineOptions.ofGiven overrides = .ok given ∧
        (generator.batchChoices options overrides given).fields = true ∧
          generator.HasFailingField table (generator.batchChoices options overrides given)

theorem exists_error_of_obstructs {options : Option DefineOptions} {overrides : GivenOptions}
    {table : Table Schema} (obstructs : generator.Obstructs options overrides table) :
    ∃ cause, ((DefineOptions.ofGiven overrides).bind fun given =>
      (generator.tableStatements table (generator.batchChoices options overrides given)).outcome) =
        .error cause := by
  cases reads : DefineOptions.ofGiven overrides with
  | error cause => exact ⟨cause, rfl⟩
  | ok given =>
      simp only [Except.bind, outcome_tableStatements]
      rcases obstructs with ⟨cause, unread⟩ | ⟨cause, uncommented⟩ | ⟨_, readsToo, chosen, fails⟩
      · rw [reads] at unread
        cases unread
      · exact ⟨cause, by simp only [TableDefinition.text, tableDefinition, uncommented]; rfl⟩
      · cases reads.symm.trans readsToo
        obtain ⟨cause, failsFields⟩ := fails.exists_error
        simp only [chosen, if_true, failsFields]
        cases (tableDefinition table
          (generator.batchChoices options overrides given).existing).text with
        | error unwritten => exact ⟨unwritten, rfl⟩
        | ok head => exact ⟨cause, rfl⟩

/-- A table cannot be defined where something obstructs it, and only there, unless its fields never
end. -/
theorem obstructs_of_error (identified : generator.environment.IsIdentified)
    {options : Option DefineOptions} {overrides : GivenOptions} {table : Table Schema}
    {cause : Fault}
    (fails : ((DefineOptions.ofGiven overrides).bind fun given =>
      (generator.tableStatements table (generator.batchChoices options overrides given)).outcome) =
        .error cause) :
    generator.Obstructs options overrides table ∨ generator.DescendsForever table := by
  rcases (except_bind_eq_error_iff _ _ _).mp fails with unread | ⟨given, reads, failsTable⟩
  · exact .inl (.inl ⟨cause, unread⟩)
  rw [outcome_tableStatements] at failsTable
  rcases (except_bind_eq_error_iff _ _ _).mp failsTable with unwritten | ⟨head, -, failsFields⟩
  · exact .inl (.inr (.inl ⟨cause, (except_map_eq_error_iff _ _ _).mp unwritten⟩))
  have ofFields := (except_map_eq_error_iff _ _ _).mp failsFields
  cases chosen : (generator.batchChoices options overrides given).fields with
  | false =>
      rw [chosen] at ofFields
      cases ofFields
  | true =>
      rw [chosen, if_pos rfl] at ofFields
      exact (hasFailingField_of_error identified ofFields).imp_left fun failing =>
        .inr (.inr ⟨given, reads, chosen, failing⟩)

/-! ## All or nothing -/

variable (generator)

/-- What keeps a batch from being generated ends its execution, and nothing has been sent then. -/
theorem executeOn_of_error {connection : Connection} {tables : Option (List (Table Schema))}
    {rehearsing : Bool} {options : Option DefineOptions} {overrides : GivenOptions} {cause : Fault}
    (fails : (generator.defineAll tables options overrides).outcome = .error cause) :
    (generator.executeOn connection tables rehearsing options overrides).outcome = .error cause ∧
      (generator.executeOn connection tables rehearsing options overrides).sent = [] := by
  constructor
  · rw [executeOn, Traced.bind_eq, Traced.outcome_andThen, fails]
    rfl
  · rw [executeOn, Traced.bind_eq, Traced.sent_andThen_of_error fails, sent_defineAll]

theorem rehearsal_of_ok {connection : Connection} {tables : Option (List (Table Schema))}
    {options : Option DefineOptions} {overrides : GivenOptions} {statements : List String}
    (defines : (generator.defineAll tables options overrides).outcome = .ok statements) :
    (generator.executeOn connection tables true options overrides).outcome =
        .ok statements.length ∧
      (generator.executeOn connection tables true options overrides).sent = [] := by
  have rehearsal : generator.executeOn connection tables true options overrides =
      (generator.defineAll tables options overrides).andThen fun all =>
        (Traced.forEach all fun statement => Traced.notify (.dryRun statement)).andThen fun _ =>
          Traced.result all.length := rfl
  have notices : (Traced.forEach statements fun statement =>
      Traced.notify (.dryRun statement)).outcome = .ok (statements.map fun _ => ()) := by
    rw [Traced.outcome_forEach, mapM_eq_ok_iff, List.map_map]
    rfl
  rw [rehearsal]
  constructor
  · rw [Traced.outcome_andThen, defines]
    simp only [Except.bind, Traced.outcome_andThen, notices]
    rfl
  · rw [Traced.sent_andThen_of_ok defines, sent_defineAll]
    exact Traced.sent_andThen_eq_nil (Traced.sent_forEach_eq_nil fun _ _ => rfl) fun _ => rfl

/-- The statements of a batch are sent in order, as far as the connection takes them. -/
theorem executeOn_of_ok {connection : Connection} {tables : Option (List (Table Schema))}
    {options : Option DefineOptions} {overrides : GivenOptions} {statements : List String}
    (defines : (generator.defineAll tables options overrides).outcome = .ok statements) :
    (generator.executeOn connection tables false options overrides).sent <+: statements ∧
      (connection.TakesAll →
        (generator.executeOn connection tables false options overrides).outcome =
            .ok statements.length ∧
          (generator.executeOn connection tables false options overrides).sent = statements) := by
  have execution : generator.executeOn connection tables false options overrides =
      (generator.defineAll tables options overrides).andThen fun all =>
        (connection.send [] all).andThen fun _ =>
          (Traced.notify (.executed all.length)).andThen fun _ => Traced.result all.length := rfl
  have sends : (generator.executeOn connection tables false options overrides).sent =
      (connection.send [] statements).sent := by
    rw [execution, Traced.sent_andThen_of_ok defines, sent_defineAll, List.nil_append]
    cases ends : (connection.send [] statements).outcome with
    | error cause => rw [Traced.sent_andThen_of_error ends]
    | ok taken => rw [Traced.sent_andThen_of_ok ends]; exact List.append_nil _
  refine ⟨sends ▸ connection.sent_send_isPrefix [] statements, fun takes => ?_⟩
  obtain ⟨ends, all⟩ := Connection.sent_send_of_takesAll takes [] statements
  refine ⟨?_, sends.trans all⟩
  rw [execution, Traced.outcome_andThen, defines]
  simp only [Except.bind, Traced.outcome_andThen, ends]
  rfl

/-- Execution is all or nothing. A batch cannot be generated where overrides cannot be read, or a
comment has no literal, or fields are chosen and one of them fails, at any depth of any table; where
nothing of this is so, and the fields end, it can. What keeps the batch from being generated ends
the execution, and nothing has been sent then. Of a batch that was generated, a rehearsal sends no
statement, and a connection that takes all is sent each of them once and in order; both count
them. -/
theorem executeOn_all_or_nothing (identified : generator.environment.IsIdentified)
    (connection : Connection) (tables : Option (List (Table Schema))) (rehearsing : Bool)
    (options : Option DefineOptions) (overrides : GivenOptions) :
    let defined := tables.getD generator.registeredTables
    let generation := generator.defineAll tables options overrides
    let execution := generator.executeOn connection tables rehearsing options overrides
    ((∃ table ∈ defined, generator.Obstructs options overrides table) →
        ∃ cause, generation.outcome = .error cause) ∧
      ((∀ table ∈ defined, ¬generator.Obstructs options overrides table ∧
          ¬generator.DescendsForever table) →
        ∃ statements, generation.outcome = .ok statements) ∧
      (∀ cause, generation.outcome = .error cause →
        execution.outcome = .error cause ∧ execution.sent = []) ∧
      ∀ statements, generation.outcome = .ok statements →
        (rehearsing = true →
          execution.outcome = .ok statements.length ∧ execution.sent = []) ∧
        (rehearsing = false →
          execution.sent <+: statements ∧
            (connection.TakesAll →
              execution.outcome = .ok statements.length ∧ execution.sent = statements)) := by
  intro defined generation execution
  refine ⟨?_, fun free => ?_, fun cause fails => generator.executeOn_of_error fails,
    fun statements defines => ⟨?_, ?_⟩⟩
  · rintro ⟨table, member, obstructs⟩
    obtain ⟨cause, fails⟩ := exists_error_of_obstructs obstructs
    obtain ⟨other, among⟩ : ∃ other, (defined.mapM fun table =>
        (DefineOptions.ofGiven overrides).bind fun given =>
          (generator.tableStatements table
            (generator.batchChoices options overrides given)).outcome) = .error other :=
      exists_mapM_eq_error member fails
    refine ⟨other, ?_⟩
    rw [outcome_defineAll, among]
    rfl
  · cases defines : generation.outcome with
    | ok statements => exact ⟨statements, rfl⟩
    | error cause =>
        rw [outcome_defineAll] at defines
        obtain ⟨table, member, fails⟩ :=
          exists_of_mapM_eq_error ((except_map_eq_error_iff _ _ _).mp defines)
        rcases obstructs_of_error identified fails with obstructs | endless
        · exact absurd obstructs (free table member).1
        · exact absurd endless (free table member).2
  · rintro rfl
    exact generator.rehearsal_of_ok defines
  · rintro rfl
    exact generator.executeOn_of_ok defines

/-- A table with a field that cannot be lowered. -/
def waitingTable : Table Schema :=
  { Table.named "user" .any with
    declared := [("later", .anonymous (.promise (.anonymous (.text Schema.freeText))))] }

/-- A table with a field that cannot be lowered inside of one that can. -/
def deeplyWaitingTable : Table Schema :=
  { Table.named "post" .any with
    declared := [("profile", .anonymous (.object waitingTable.declared none))] }

/-- The last field of the last table fails, and nothing is sent of the first table either. -/
theorem executeOn_all_or_nothing_deeplyWaiting :
    let generator : Generator := ⟨⟨[], none⟩, .builtIn⟩
    let first := Table.named "likes" .relation
    (∃ cause, (generator.executeOn .reliable (some [first, deeplyWaitingTable]) false none
        []).outcome = .error cause) ∧
      (generator.executeOn .reliable (some [first, deeplyWaitingTable]) false none []).sent = [] ∧
      (generator.executeOn .reliable (some [first]) false none []).sent =
        ["DEFINE TABLE likes TYPE RELATION SCHEMALESS;",
          "DEFINE FIELD id ON TABLE likes TYPE any;",
          "DEFINE FIELD in ON TABLE likes TYPE record;",
          "DEFINE FIELD out ON TABLE likes TYPE record;"] := by
  intro generator first
  have identified : generator.environment.IsIdentified := by
    simp [generator, Environment.IsIdentified]
  have fails : generator.HasFailingField deeplyWaitingTable ⟨.refuse, true, true⟩ :=
    ⟨_, List.mem_cons_of_mem _ List.mem_cons_self,
      .further rfl List.mem_cons_self (.unlowered rfl)⟩
  have obstructs : generator.Obstructs none [] deeplyWaitingTable :=
    .inr (.inr ⟨.unset, rfl, rfl, fails⟩)
  obtain ⟨fault, -, nothing, -⟩ := generator.executeOn_all_or_nothing identified .reliable
    (some [first, deeplyWaitingTable]) false none []
  obtain ⟨cause, undefined⟩ := fault ⟨_, by simp, obstructs⟩
  obtain ⟨-, -, -, all⟩ := generator.executeOn_all_or_nothing identified .reliable
    (some [first]) false none []
  have defines : (generator.defineAll (some [first]) none []).outcome = .ok
      ["DEFINE TABLE likes TYPE RELATION SCHEMALESS;",
        "DEFINE FIELD id ON TABLE likes TYPE any;",
        "DEFINE FIELD in ON TABLE likes TYPE record;",
        "DEFINE FIELD out ON TABLE likes TYPE record;"] := by
    decide +kernel
  exact ⟨⟨cause, (nothing cause undefined).1⟩, (nothing cause undefined).2,
    (((all _ defines).2 rfl).2 Connection.takesAll_reliable).2⟩

/-- A field that fails does not matter where overrides choose against fields. -/
theorem not_executeOn_fails_with_fields :
    let generator : Generator := ⟨⟨[], none⟩, .builtIn⟩
    let execution := generator.executeOn .reliable (some [waitingTable]) false none
      [("fields", .boolean false)]
    (∀ choices, generator.HasFailingField waitingTable choices) ∧ execution.outcome = .ok 1 ∧
      execution.sent = ["DEFINE TABLE user TYPE ANY SCHEMALESS;"] := by
  refine ⟨fun choices => ?_, ?_⟩
  · exact ⟨_, List.mem_cons_of_mem _ List.mem_cons_self, .unlowered rfl⟩
  · decide +kernel

end Generator
end TypedTables
