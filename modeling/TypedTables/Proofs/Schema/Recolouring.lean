import TypedTables.Proofs.Schema.Reach

/-!
# Recolouring user functions

The functions that a schema refines, transforms and checks with may be deferred or not. Recolouring
makes all of them compute at once and leaves everything else as it is: kinds, shapes and identities
stay. Two schemas that are recoloured to the same schema differ only in which of these functions
are deferred.
-/

namespace TypedTables

def UserFunction.atOnce {α : Type} (function : UserFunction α) : UserFunction α :=
  { function with deferred := false }

def Refinement.atOnce (refinement : Refinement) : Refinement :=
  { refinement with check := refinement.check.atOnce }

namespace Recolouring

mutual

def ofSchema : Schema → Schema
  | ⟨identity, refinements, description, form⟩ =>
      ⟨identity, refinements.map Refinement.atOnce, description, ofForm form⟩

/-- A form whose functions compute at once; a form without functions and parts stays. -/
def ofForm : Form Schema → Form Schema
  | .promise inner => .promise (ofSchema inner)
  | .custom check message => .custom (check.map UserFunction.atOnce) message
  | .object shape catchall => .object (ofFields shape) (ofOption catchall)
  | .array element least most => .array (ofSchema element) least most
  | .set element least most => .set (ofSchema element) least most
  | .tuple items rest => .tuple (ofSchemas items) (ofOption rest)
  | .record key value => .record (ofSchema key) (ofSchema value)
  | .map key value => .map (ofSchema key) (ofSchema value)
  | .union options => .union (ofSchemas options)
  | .intersection left right => .intersection (ofSchema left) (ofSchema right)
  | .optional inner => .optional (ofSchema inner)
  | .nullable inner => .nullable (ofSchema inner)
  | .nonoptional inner => .nonoptional (ofSchema inner)
  | .default inner value => .default (ofSchema inner) value
  | .prefault inner value => .prefault (ofSchema inner) value
  | .fallback inner replacement => .fallback (ofSchema inner) replacement
  | .readonly inner => .readonly (ofSchema inner)
  | .transform function => .transform function.atOnce
  | .pipe source target => .pipe (ofSchema source) (ofSchema target)
  | .lazily target => .lazily (ofTarget target)
  | .reference tables identifier => .reference tables (ofSchema identifier)
  | .table table => .table (ofTable table)
  | leaf => leaf

def ofSchemas : List Schema → List Schema
  | [] => []
  | schema :: rest => ofSchema schema :: ofSchemas rest

def ofFields : List (String × Schema) → List (String × Schema)
  | [] => []
  | (name, schema) :: rest => (name, ofSchema schema) :: ofFields rest

def ofOption : Option Schema → Option Schema
  | none => none
  | some schema => some (ofSchema schema)

def ofTable : Table Schema → Table Schema
  | ⟨name, declared, catchall, mode, source, target, drops, comment, isDraft⟩ =>
      ⟨name, ofFields declared, ofSchema catchall, mode, ofOption source, ofOption target, drops,
        comment, isDraft⟩

def ofTarget : LazyTarget Schema → LazyTarget Schema
  | .template schema => .template (ofSchema schema)
  | .table name => .table name
  | .definition name => .definition name
  | .unbuildable cause => .unbuildable cause

end

theorem ofSchemas_eq_map (schemas : List Schema) : ofSchemas schemas = schemas.map ofSchema := by
  induction schemas with
  | nil => rfl
  | cons schema rest ih =>
      rw [List.map_cons, ← ih]
      rfl

theorem ofFields_eq_map (fields : List (String × Schema)) :
    ofFields fields = fields.map fun field => (field.1, ofSchema field.2) := by
  induction fields with
  | nil => rfl
  | cons field rest ih =>
      rw [List.map_cons, ← ih]
      rfl

theorem ofOption_eq_map (schema : Option Schema) : ofOption schema = schema.map ofSchema := by
  cases schema <;> rfl

@[simp] theorem form_ofSchema (schema : Schema) : (ofSchema schema).form = ofForm schema.form := by
  cases schema
  rfl

@[simp] theorem refinements_ofSchema (schema : Schema) :
    (ofSchema schema).refinements = schema.refinements.map Refinement.atOnce := by
  cases schema
  rfl

theorem kind_ofForm (form : Form Schema) : (ofForm form).kind = form.kind := by
  cases form <;> rfl

@[simp] theorem kind_ofSchema (schema : Schema) : (ofSchema schema).kind = schema.kind := by
  simp [Schema.kind, kind_ofForm]

theorem fieldNamed?_ofFields (name : String) (fields : List (String × Schema)) :
    fieldNamed? name (ofFields fields) = (fieldNamed? name fields).map ofSchema := by
  rw [ofFields_eq_map]
  induction fields with
  | nil => rfl
  | cons field rest ih =>
      rcases field with ⟨present, schema⟩
      by_cases same : (name == present) = true
      · simp [fieldNamed?, List.lookup_cons, same]
      · simpa [fieldNamed?, List.lookup_cons, same] using ih

theorem ofSchema_referenceTo (tables : Option (List String)) :
    ofSchema (Schema.referenceTo tables) = Schema.referenceTo tables :=
  rfl

theorem ofSchema_withTables (tables : Option (List String)) (schema : Schema) :
    ofSchema (schema.withTables tables) = (ofSchema schema).withTables tables := by
  rcases schema with ⟨identity, refinements, description, form⟩
  cases form <;> rfl

theorem withIdentifier_ofSchema (identifier : Schema) (tables : Option (List String)) :
    (ofSchema identifier).withIdentifier (Schema.referenceTo tables) =
      (identifier.withIdentifier (Schema.referenceTo tables)).map ofSchema := by
  unfold Schema.withIdentifier
  rw [kind_ofSchema]
  cases identifier.kind.describesIdentifier with
  | false => rfl
  | true => rfl

@[simp] theorem declared_ofTable (table : Table Schema) :
    (ofTable table).declared = ofFields table.declared := by
  cases table
  rfl

@[simp] theorem catchall_ofTable (table : Table Schema) :
    (ofTable table).catchall = ofSchema table.catchall := by
  cases table
  rfl

@[simp] theorem name_ofTable (table : Table Schema) : (ofTable table).name = table.name := by
  cases table
  rfl

@[simp] theorem mode_ofTable (table : Table Schema) : (ofTable table).mode = table.mode := by
  cases table
  rfl

@[simp] theorem isDraft_ofTable (table : Table Schema) :
    (ofTable table).isDraft = table.isDraft := by
  cases table
  rfl

@[simp] theorem source_ofTable (table : Table Schema) :
    (ofTable table).source = ofOption table.source := by
  cases table
  rfl

@[simp] theorem target_ofTable (table : Table Schema) :
    (ofTable table).target = ofOption table.target := by
  cases table
  rfl

theorem recordReference_ofTable (table : Table Schema) :
    (ofTable table).recordReference = table.recordReference.map ofSchema := by
  simp only [Table.recordReference, declared_ofTable, name_ofTable, fieldNamed?_ofFields]
  cases fieldNamed? "id" table.declared with
  | none => simp [Except.map, ofSchema_referenceTo]
  | some schema =>
      by_cases reference : schema.kind = .reference
      · simp [reference, Except.map, ofSchema_withTables]
      · simp [reference, withIdentifier_ofSchema]

theorem endField_ofTable (table : Table Schema) (name : String) (endpoint : Option Schema) :
    (ofTable table).endField name (ofOption endpoint) = ofSchema (table.endField name endpoint) := by
  cases endpoint with
  | some reference => rfl
  | none =>
      simp only [Table.endField, ofOption_eq_map, Option.map_none, declared_ofTable,
        fieldNamed?_ofFields]
      cases fieldNamed? name table.declared with
      | none => simp [ofSchema_referenceTo]
      | some schema =>
          by_cases reference : schema.kind = .reference <;>
            simp [reference, ofSchema_referenceTo]

theorem identifierField_ofTable (table : Table Schema) :
    (ofTable table).identifierField = table.identifierField.map ofSchema := by
  rw [Table.identifierField, recordReference_ofTable, Table.identifierField, isDraft_ofTable]
  cases table.recordReference with
  | error cause => rfl
  | ok reference => cases table.isDraft <;> rfl

theorem endFields_ofTable (table : Table Schema) :
    (ofTable table).endFields = ofFields table.endFields := by
  rw [Table.endFields, Table.endFields, mode_ofTable, source_ofTable, target_ofTable,
    endField_ofTable, endField_ofTable]
  by_cases relation : table.mode = .relation
  · rw [if_pos relation, if_pos relation]
    rfl
  · rw [if_neg relation, if_neg relation]
    rfl

theorem ownFields_ofTable (table : Table Schema) :
    (ofTable table).ownFields = ofFields table.ownFields := by
  simp only [Table.ownFields, Table.reservedNames, declared_ofTable, mode_ofTable,
    ofFields_eq_map, List.filter_map]
  rfl

theorem shape_ofTable (table : Table Schema) : (ofTable table).shape = ofFields table.shape := by
  rw [Table.shape, Table.shape?, identifierField_ofTable, endFields_ofTable, ownFields_ofTable,
    Table.shape, Table.shape?]
  cases table.identifierField with
  | error cause => rfl
  | ok identifier => simp [Except.map, ofFields_eq_map]

end Recolouring

def Schema.atOnce (schema : Schema) : Schema := Recolouring.ofSchema schema

def TableSchema.atOnce (table : TableSchema) : TableSchema :=
  { table with
    refinements := table.refinements.map Refinement.atOnce
    table := Recolouring.ofTable table.table }

/-- The same environment with functions that compute at once, in definitions and tables. -/
def Environment.atOnce (environment : Environment) : Environment where
  definitions := Recolouring.ofFields environment.definitions
  registry := environment.registry.map fun registry => ⟨registry.tables.map TableSchema.atOnce⟩

namespace Recolouring

theorem name_atOnce (table : TableSchema) : table.atOnce.name = table.name :=
  name_ofTable table.table

theorem get_atOnce (tables : List TableSchema) (name : String) :
    Registry.get ⟨tables.map TableSchema.atOnce⟩ name =
      (Registry.get ⟨tables⟩ name).map TableSchema.atOnce := by
  have found : (tables.map TableSchema.atOnce).find? (fun table => table.name == name) =
      (tables.find? fun table => table.name == name).map TableSchema.atOnce := by
    rw [List.find?_map]
    congr 2
    funext table
    simp [name_atOnce]
  rw [Registry.get, Registry.get, found]
  cases tables.find? fun table => table.name == name <;> rfl

theorem resolve_atOnce (environment : Environment) (target : LazyTarget Schema) :
    environment.atOnce.resolve (ofTarget target) = (environment.resolve target).map ofSchema := by
  cases target with
  | template schema => rfl
  | unbuildable cause => rfl
  | definition name =>
      change environment.atOnce.resolve (.definition name) = _
      simp only [Environment.resolve, Environment.atOnce, fieldNamed?_ofFields]
      cases fieldNamed? name environment.definitions <;> rfl
  | table name =>
      change environment.atOnce.resolve (.table name) = _
      simp only [Environment.resolve, Environment.atOnce]
      cases environment.registry with
      | none => rfl
      | some registry =>
          simp only [Option.map_some, get_atOnce]
          cases registry.get name <;> rfl

theorem parts_ofForm (form : Form Schema) :
    (ofForm form).parts = form.parts.map ofSchema := by
  cases form with
  | object shape catchall =>
      change (ofFields shape).map Prod.snd ++ (ofOption catchall).toList = _
      simp [Form.parts, ofFields_eq_map, ofOption_eq_map, Option.toList_map]
  | tuple items rest =>
      change ofSchemas items ++ (ofOption rest).toList = _
      simp [Form.parts, ofSchemas_eq_map, ofOption_eq_map, Option.toList_map]
  | union options => exact ofSchemas_eq_map options
  | table described =>
      change (ofTable described).shape.map Prod.snd ++ [(ofTable described).catchall] = _
      simp [Form.parts, shape_ofTable, ofFields_eq_map]
  | _ => rfl

theorem lazily_of_ofForm {form : Form Schema} {target : LazyTarget Schema}
    (recoloured : ofForm form = .lazily target) :
    ∃ original, form = .lazily original ∧ ofTarget original = target := by
  cases form with
  | lazily original => exact ⟨original, rfl, Form.lazily.inj recoloured⟩
  | _ => cases recoloured

theorem reaches_atOnce {environment : Environment} {schema target : Schema}
    (reaches : schema.Reaches environment target) :
    (ofSchema schema).Reaches environment.atOnce (ofSchema target) := by
  induction reaches with
  | self schema => exact .self _
  | part member further ih =>
      refine .part ?_ ih
      rw [form_ofSchema, parts_ofForm]
      exact List.mem_map_of_mem member
  | resolved isLazy resolves further ih =>
      have recoloured := congrArg ofForm isLazy
      rw [← form_ofSchema, ofForm] at recoloured
      refine .resolved recoloured ?_ ih
      rw [resolve_atOnce, resolves]
      rfl

theorem exists_of_reaches_atOnce {environment : Environment} {schema target : Schema}
    (reaches : (ofSchema schema).Reaches environment.atOnce target) :
    ∃ original, schema.Reaches environment original ∧ ofSchema original = target := by
  generalize recoloured : ofSchema schema = start at reaches
  induction reaches generalizing schema with
  | self start => exact ⟨schema, .self schema, recoloured⟩
  | part member further ih =>
      subst recoloured
      rw [form_ofSchema, parts_ofForm] at member
      obtain ⟨part, present, equal⟩ := List.mem_map.mp member
      obtain ⟨original, reached, same⟩ := ih equal
      exact ⟨original, .part present reached, same⟩
  | resolved isLazy resolves further ih =>
      subst recoloured
      rw [form_ofSchema] at isLazy
      obtain ⟨target, formed, rfl⟩ := lazily_of_ofForm isLazy
      rw [resolve_atOnce] at resolves
      cases found : environment.resolve target with
      | error cause => simp [found, Except.map] at resolves
      | ok schema =>
          rw [found] at resolves
          have equal := Except.ok.inj resolves
          obtain ⟨original, reached, same⟩ := ih equal
          exact ⟨original, .resolved formed found reached, same⟩

end Recolouring
end TypedTables
