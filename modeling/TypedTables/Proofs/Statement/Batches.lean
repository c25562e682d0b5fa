import TypedTables.Proofs.Statement.Fields

/-!
# Options of batches

The tables of a batch are defined one after another, each with the same choices. A choice is made at
the first level that specifies it: among the overrides, in the options, or by default; null
specifies nothing. A batch asks for fields in its overrides unless a choice of fields is given
there, so that the options have no say in it, and null among the overrides leaves the choice to the
defaults of single tables. Everything else is chosen as specified.
-/

namespace TypedTables

/-- What the first level that specifies a choice says, or else the default. -/
def firstSpecified {α : Type} (levels : List (Option α)) (default : α) : α :=
  (levels.findSome? id).getD default

theorem firstSpecified_pair {α : Type} (first second : Option α) (default : α) :
    firstSpecified [first, second] default = (first <|> second).getD default := by
  cases first <;> cases second <;> rfl

namespace DefineChoices

def asOptions (choices : DefineChoices) : DefineOptions :=
  ⟨some choices.existing, some choices.fields, some choices.defaults⟩

/-- What leaves nothing open is chosen, whatever the defaults are. -/
theorem defineChoices_asOptions (generator : Generator) (choices : DefineChoices) :
    generator.defineChoices (some choices.asOptions) [] = .ok choices := rfl

end DefineChoices

namespace GivenOptions

variable {α : Type} {given : GivenOptions} {name : String}

theorem read_append_of_ne {other : String} (different : name ≠ other) (ofValue? : Value → Option α)
    (value : Value) :
    GivenOptions.read name ofValue? (given ++ [(other, value)]) =
      given.read name ofValue? := by
  have apart : List.lookup name [(other, value)] = none := by
    rw [List.lookup_cons, beq_false_of_ne different]
    rfl
  rw [read, read, List.lookup_append, apart, Option.or_none]

theorem read_of_absent (absent : given.lookup name = none) (ofValue? : Value → Option α) :
    given.read name ofValue? = .ok none := by
  rw [read, absent]

theorem read_of_null (isNull : given.lookup name = some .null) (ofValue? : Value → Option α) :
    given.read name ofValue? = .ok none := by
  rw [read, isNull]

theorem exists_read_of_present {value : Value} {ofValue? : Value → Option α} {choice : Option α}
    (present : given.lookup name = some value) (specifies : value ≠ .null)
    (reads : given.read name ofValue? = .ok choice) : ∃ chosen, choice = some chosen := by
  unfold read at reads
  split at reads
  · rename_i absent
    rw [present] at absent
    cases absent
  · rename_i isNull
    rw [present] at isNull
    exact absurd (Option.some.inj isNull) specifies
  · split at reads
    · exact ⟨_, (Except.ok.inj reads).symm⟩
    · cases reads

end GivenOptions

namespace DefineOptions

variable {overrides : GivenOptions} {given : DefineOptions}

theorem read_fields_of_ofGiven (reads : ofGiven overrides = .ok given) :
    overrides.read "fields" GivenOptions.truth? = .ok given.fields := by
  obtain ⟨-, -, reads⟩ := (except_bind_eq_ok_iff _ _ _).mp reads
  obtain ⟨existing, -, reads⟩ := (except_bind_eq_ok_iff _ _ _).mp reads
  obtain ⟨fields, readsFields, reads⟩ := (except_bind_eq_ok_iff _ _ _).mp reads
  obtain ⟨defaults, -, reads⟩ := (except_bind_eq_ok_iff _ _ _).mp reads
  cases reads
  exact readsFields

/-- Where no choice of fields is given, asking for fields adds just that choice. -/
theorem ofGiven_append_fields (absent : overrides.lookup "fields" = none) :
    ofGiven (overrides ++ [("fields", Value.boolean true)]) =
      (ofGiven overrides).map fun given => { given with fields := some true } := by
  have names : GivenOptions.checkNames ["exists", "fields", "emit_defaults"]
      (overrides ++ [("fields", Value.boolean true)]) =
        overrides.checkNames ["exists", "fields", "emit_defaults"] := by
    have known : (["exists", "fields", "emit_defaults"].contains "fields" && true) = true := by
      decide
    rw [GivenOptions.checkNames, GivenOptions.checkNames, List.all_append, List.all_cons,
      List.all_nil, known, Bool.and_true]
  have asks : GivenOptions.read "fields" GivenOptions.truth?
      (overrides ++ [("fields", Value.boolean true)]) = .ok (some true) := by
    rw [GivenOptions.read, List.lookup_append, absent]
    rfl
  simp only [ofGiven, names, asks, GivenOptions.read_of_absent absent,
    GivenOptions.read_append_of_ne (show "exists" ≠ "fields" by decide),
    GivenOptions.read_append_of_ne (show "emit_defaults" ≠ "fields" by decide)]
  cases overrides.checkNames ["exists", "fields", "emit_defaults"] with
  | error cause => rfl
  | ok checked =>
      cases overrides.read "exists" (GivenOptions.named? ExistingPolicy.ofName?) with
      | error cause => rfl
      | ok existing =>
          cases overrides.read "emit_defaults" GivenOptions.truth? with
          | error cause => rfl
          | ok defaults => rfl

end DefineOptions

theorem map_flatten_mapM_singleton {ε α β : Type} (action : α → Except ε β) (items : List α) :
    (items.mapM fun item => (action item).map fun result => [result]).map List.flatten =
      items.mapM action := by
  induction items with
  | nil => rfl
  | cons item rest ih =>
      rw [List.mapM_cons, List.mapM_cons, ← ih]
      cases action item with
      | error cause => rfl
      | ok result =>
          cases rest.mapM fun item => (action item).map fun result => [result] <;> rfl

namespace Generator

variable (generator : Generator) (options : Option DefineOptions) (overrides : GivenOptions)

/-- The choices that are specified for a batch, where fields are to be defined by default. -/
def specifiedChoices (given : DefineOptions) : DefineChoices where
  existing :=
    firstSpecified [given.existing, options.bind DefineOptions.existing] generator.defaults.existing
  fields := firstSpecified [given.fields, options.bind DefineOptions.fields] true
  defaults :=
    firstSpecified [given.defaults, options.bind DefineOptions.defaults] generator.defaults.defaults

/-- The choices that a batch is defined with: fields are chosen as for a single table where the
overrides mention them, and otherwise they are defined. -/
def batchChoices (given : DefineOptions) : DefineChoices :=
  { generator.specifiedChoices options given with
    fields :=
      if (overrides.lookup "fields").isSome then
        firstSpecified [given.fields, options.bind DefineOptions.fields] generator.defaults.fields
      else true }

theorem defineChoices_askingForFields :
    generator.defineChoices options (askingForFields overrides) =
      (DefineOptions.ofGiven overrides).map (generator.batchChoices options overrides) := by
  have same (given : DefineOptions) (fields : Bool) :
      { (given.overridden (options.getD .unset)).choices generator.defaults with fields } =
        ({ generator.specifiedChoices options given with fields } : DefineChoices) := by
    simp only [specifiedChoices, firstSpecified_pair]
    cases options <;> rfl
  have chosen (given : DefineOptions) :
      (given.overridden (options.getD .unset)).fields.getD generator.defaults.fields =
        firstSpecified [given.fields, options.bind DefineOptions.fields]
          generator.defaults.fields := by
    rw [firstSpecified_pair]
    cases options <;> rfl
  cases asks : overrides.lookup "fields" with
  | some value =>
      have kept : askingForFields overrides = overrides := by simp [askingForFields, asks]
      rw [defineChoices, kept]
      refine congrArg (fun change => (DefineOptions.ofGiven overrides).map change) ?_
      funext given
      rw [batchChoices, asks, ← same given, ← chosen given]
      rfl
  | none =>
      have added : askingForFields overrides = overrides ++ [("fields", .boolean true)] := by
        simp [askingForFields, asks]
      rw [defineChoices, added, DefineOptions.ofGiven_append_fields asks]
      cases DefineOptions.ofGiven overrides with
      | error cause => rfl
      | ok given =>
          refine congrArg Except.ok ?_
          rw [batchChoices, asks, ← same given]
          rfl

/-- The choices of a batch are those that are specified, unless the options alone choose against
fields, or null among the overrides leaves the choice to defaults that are against them. -/
theorem batchChoices_eq_specifiedChoices_iff {given : DefineOptions}
    (reads : DefineOptions.ofGiven overrides = .ok given) :
    generator.batchChoices options overrides given = generator.specifiedChoices options given ↔
      (overrides.lookup "fields" = none → options.bind DefineOptions.fields ≠ some false) ∧
        (overrides.lookup "fields" = some .null → options.bind DefineOptions.fields = none →
          generator.defaults.fields = true) := by
  have readsFields := DefineOptions.read_fields_of_ofGiven reads
  have onFields (fields : Bool) :
      ({ generator.specifiedChoices options given with fields } : DefineChoices) =
        generator.specifiedChoices options given ↔
          fields = firstSpecified [given.fields, options.bind DefineOptions.fields] true := by
    simp [specifiedChoices]
  rw [batchChoices, onFields]
  cases asks : overrides.lookup "fields" with
  | none =>
      rw [GivenOptions.read_of_absent asks, Except.ok.injEq] at readsFields
      rw [← readsFields]
      rcases options.bind DefineOptions.fields with _ | _ | _ <;> simp [firstSpecified]
  | some value =>
      by_cases isNull : value = .null
      · rw [isNull] at asks ⊢
        rw [GivenOptions.read_of_null asks, Except.ok.injEq] at readsFields
        rw [← readsFields]
        rcases options.bind DefineOptions.fields with _ | fields <;> simp [firstSpecified]
      · obtain ⟨fields, isSome⟩ := GivenOptions.exists_read_of_present asks isNull readsFields
        rw [isSome]
        simp [firstSpecified, isNull]

theorem outcome_tableStatements (table : Table Schema) (choices : DefineChoices) :
    (generator.tableStatements table choices).outcome =
      (tableDefinition table choices.existing).text.bind fun head =>
        (if choices.fields then
            (generator.defineFields table (some choices.asOptions) []).outcome
          else .ok []).map fun fields => head :: fields := by
  have texts (definitions : List FieldDefinition) :
      (written (definitions.map .defineField)).outcome =
        definitions.mapM FieldDefinition.text := List.mapM_map ..
  have ofHead : (written [.defineTable (tableDefinition table choices.existing)]).outcome =
      (tableDefinition table choices.existing).text.map fun head => [head] := by
    change [Statement.defineTable (tableDefinition table choices.existing)].mapM Statement.text = _
    rw [List.mapM_cons, Statement.text]
    cases (tableDefinition table choices.existing).text <;> rfl
  rw [outcome_defineFields, choices.defineChoices_asOptions]
  simp only [tableStatements, Traced.outcome_inBlock, Traced.bind_eq, Traced.outcome_andThen,
    ofHead]
  cases (tableDefinition table choices.existing).text with
  | error cause => rfl
  | ok head =>
      cases choices.fields with
      | false => rfl
      | true =>
          simp only [Except.map, Except.bind, if_true, texts, Traced.notify, Traced.outcome_andThen,
            Traced.outcome_emit]
          cases (generator.tableFields table choices).outcome with
          | error cause => rfl
          | ok definitions => cases definitions.mapM FieldDefinition.text <;> rfl

theorem outcome_defineTable_asOptions (table : Table Schema) (choices : DefineChoices) :
    (generator.defineTable table (some choices.asOptions) []).outcome =
      (generator.tableStatements table choices).outcome := by
  rw [defineTable, choices.defineChoices_asOptions]
  rfl

/-- The tables of a batch are defined one after another with the choices of the batch. -/
theorem outcome_defineAll (tables : Option (List (Table Schema))) :
    (generator.defineAll tables options overrides).outcome =
      ((tables.getD generator.registeredTables).mapM fun table =>
        (DefineOptions.ofGiven overrides).bind fun given =>
          (generator.tableStatements table
            (generator.batchChoices options overrides given)).outcome).map List.flatten := by
  have each (table : Table Schema) :
      (generator.defineTable table options (askingForFields overrides)).outcome =
        (DefineOptions.ofGiven overrides).bind fun given =>
          (generator.tableStatements table
            (generator.batchChoices options overrides given)).outcome := by
    rw [defineTable, defineChoices_askingForFields]
    cases DefineOptions.ofGiven overrides <;> rfl
  simp only [defineAll, Traced.bind_eq, Traced.outcome_andThen, Traced.outcome_forEach, each]
  rfl

/-- A batch gives the statements of each table, one after another, as the table is defined with
options that make the choices of the batch. These are the specified choices unless the options alone
choose against fields, or null among the overrides leaves the choice to defaults that are against
them; and where they are against fields, each table has exactly one statement. -/
theorem defineAll_honours_options_iff (tables : Option (List (Table Schema))) :
    (generator.defineAll tables options overrides).outcome =
        ((tables.getD generator.registeredTables).mapM fun table =>
          (DefineOptions.ofGiven overrides).bind fun given =>
            (generator.defineTable table
              (some (generator.batchChoices options overrides given).asOptions) []).outcome).map
          List.flatten ∧
      ∀ given, DefineOptions.ofGiven overrides = .ok given →
        (generator.batchChoices options overrides given = generator.specifiedChoices options given ↔
          (overrides.lookup "fields" = none → options.bind DefineOptions.fields ≠ some false) ∧
            (overrides.lookup "fields" = some .null → options.bind DefineOptions.fields = none →
              generator.defaults.fields = true)) ∧
        ((generator.batchChoices options overrides given).fields = false →
          (generator.defineAll tables options overrides).outcome =
            (tables.getD generator.registeredTables).mapM fun table =>
              (tableDefinition table
                (generator.batchChoices options overrides given).existing).text) := by
  refine ⟨?_, fun given reads => ⟨?_, fun withoutFields => ?_⟩⟩
  · simp only [outcome_defineTable_asOptions]
    exact generator.outcome_defineAll options overrides tables
  · exact generator.batchChoices_eq_specifiedChoices_iff options overrides reads
  · have alone (table : Table Schema) :
        (generator.tableStatements table (generator.batchChoices options overrides given)).outcome =
          (tableDefinition table (generator.batchChoices options overrides given).existing).text.map
            fun head => [head] := by
      rw [outcome_tableStatements, withoutFields]
      rfl
    rw [outcome_defineAll, reads]
    simp only [Except.bind, alone]
    exact map_flatten_mapM_singleton ..

/-- A batch of two tables that overrides the policy and the choice of fields. -/
def twoTables : List (Table Schema) := [Table.named "user" .any, Table.named "likes" .relation]

/-- What the overrides specify comes before the options, and each table has one statement. -/
theorem defineAll_honours_options_twoTables :
    let generator : Generator := ⟨⟨[], none⟩, .builtIn⟩
    let options : DefineOptions := ⟨some .keep, some true, none⟩
    let overrides : GivenOptions := [("exists", .text "overwrite"), ("fields", .boolean false)]
    generator.specifiedChoices options ⟨some .overwrite, some false, none⟩ =
        ⟨.overwrite, false, true⟩ ∧
      generator.batchChoices options overrides ⟨some .overwrite, some false, none⟩ =
        ⟨.overwrite, false, true⟩ ∧
      (generator.defineAll (some twoTables) options overrides).outcome =
        .ok ["DEFINE TABLE OVERWRITE user TYPE ANY SCHEMALESS;",
          "DEFINE TABLE OVERWRITE likes TYPE RELATION SCHEMALESS;"] := by
  intro generator options overrides
  have reads : DefineOptions.ofGiven overrides = .ok ⟨some .overwrite, some false, none⟩ := rfl
  have specified : generator.specifiedChoices options ⟨some .overwrite, some false, none⟩ =
      ⟨.overwrite, false, true⟩ := rfl
  obtain ⟨-, chosen⟩ := generator.defineAll_honours_options_iff options overrides (some twoTables)
  obtain ⟨asSpecified, alone⟩ := chosen _ reads
  have given : overrides.lookup "fields" = some (.boolean false) := rfl
  have isSpecified := asSpecified.mpr
    ⟨by simp [given], by simp [given]⟩
  refine ⟨specified, isSpecified.trans specified, (alone rfl).trans ?_⟩
  decide +kernel

/-- Options against fields are not honoured where the overrides do not mention fields. -/
theorem not_defineAll_honours_options :
    let generator : Generator := ⟨⟨[], none⟩, .builtIn⟩
    let options : DefineOptions := ⟨none, some false, none⟩
    let specified := generator.specifiedChoices options .unset
    (generator.defineAll (some [Table.named "user" .any]) options []).outcome =
        .ok ["DEFINE TABLE user TYPE ANY SCHEMALESS;",
          "DEFINE FIELD id ON TABLE user TYPE any;"] ∧
      specified.fields = false ∧
      (generator.defineTable (Table.named "user" .any) (some specified.asOptions) []).outcome =
        .ok ["DEFINE TABLE user TYPE ANY SCHEMALESS;"] := by
  decide +kernel

end Generator
end TypedTables
