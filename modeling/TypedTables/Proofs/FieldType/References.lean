import TypedTables.Proofs.FieldType.Terms
import TypedTables.Proofs.Table.Building
import TypedTables.Proofs.Validation.Jobs

/-!
# Tables of references

What tables a reference is to is kept in three ways: in the schema, where there may be no restriction
or a list of names, in the type that the schema is lowered to, where the names are escaped and have bars
between them, and in the refusal of records of other tables. The type and the refusal agree on every
table, whatever the names are, unless the list of names is empty: then the type permits all records, and
all records are refused.
-/

namespace TypedTables

/-- The methods that say which records a reference is to. -/
def Method.IsOfReferences : Method → Prop
  | .tables _ | .anytable | .identifiedBy _ => True
  | _ => False

/-- The references that building reaches: a new one, and what the methods of references make of one
that was reached. -/
inductive Schema.IsBuiltReference : Schema → Prop
  | new {tables : List String} {supply remaining : IdentitySupply} {schema : Schema}
      (builds : Builder.reference tables supply = .ok (schema, remaining)) : IsBuiltReference schema
  | next {method : Method} {supply remaining : IdentitySupply} {schema result : Schema}
      (isBuilt : IsBuiltReference schema) (isOfReferences : method.IsOfReferences)
      (builds : method.apply schema supply = .ok (result, remaining)) : IsBuiltReference result

theorem Schema.IsBuiltReference.exists_form {reference : Schema}
    (isBuilt : reference.IsBuiltReference) :
    ∃ permitted identifier, reference.form = .reference permitted identifier ∧
      reference.refinements = [] := by
  induction isBuilt with
  | new builds =>
      obtain ⟨identity, rfl⟩ := Builder.exists_identity builds
      exact ⟨_, _, rfl, rfl⟩
  | @next method supply remaining schema result _ isOfReferences builds ih =>
      obtain ⟨permitted, identifier, isReference, plain⟩ := ih
      have reshaped {form : Form Schema}
          (builds : Builder.reshape schema form supply = .ok (result, remaining)) :
          result.form = form ∧ result.refinements = [] := by
        obtain ⟨identity, rfl⟩ := Builder.exists_identity builds
        exact ⟨rfl, plain⟩
      cases method with
      | tables | anytable =>
          simp only [Method.apply, isReference] at builds
          exact ⟨_, _, reshaped builds⟩
      | identifiedBy described =>
          simp only [Method.apply, isReference] at builds
          split at builds
          · exact ⟨_, _, reshaped builds⟩
          · cases builds
      | _ => exact isOfReferences.elim

namespace FieldType

def PermitsRecord (text table : String) : Prop :=
  text = "record" ∨ ∃ names, text = "record<" ++ tableNames names ++ ">" ∧ table ∈ names

theorem text_singleton (atom : TypeAtom) : text [atom] = atomText atom := by
  simp only [text, joined, atomTexts, List.isEmpty_cons, Bool.false_or]
  split
  · rename_i isAny
    exact (by simpa using isAny : anyText = atomText atom)
  · rw [String.intercalate_singleton]

theorem permitsRecord_record (table : String) : PermitsRecord (atomText .record) table :=
  .inl rfl

/-- The names in the text of a record type are those that it was written with, as their escaped forms
are told apart. -/
theorem permitsRecord_recordOf_iff {names : List String} (listed : names ≠ []) (table : String) :
    PermitsRecord (atomText (.recordOf names)) table ↔ table ∈ names := by
  refine ⟨?_, fun member => .inr ⟨names, rfl, member⟩⟩
  rintro (bare | ⟨others, same, member⟩)
  · have characters := congrArg String.toList bare
    rw [TypeAtom.toList_recordOf] at characters
    cases characters
  · have listedOthers : others ≠ [] := List.ne_nil_of_mem member
    rw [TypeAtom.eq_of_recordOf (.recordOf listed) (.recordOf listedOthers) same]
    exact member

end FieldType

namespace Schema

variable {reference identifier : Schema} {permitted : Option (List String)}

/-- A reference on its own is lowered to a record type. The type permits the records of the tables that
are named, or of all tables when none is. -/
theorem exists_lowered_reference (isReference : reference.form = .reference permitted identifier)
    (scope : LoweringScope) :
    ∃ field, (reference.lowered scope []).outcome = .ok field ∧ ∀ table,
      FieldType.PermitsRecord field.type.text table ↔
        ∀ names, permitted = some names → names ≠ [] → table ∈ names := by
  have isNew : (LoweringState.ofField []).isOpen reference = false := by
    unfold LoweringState.isOpen
    split <;> rfl
  have lowers (atom : TypeAtom)
      (adds : ∀ lower, Lowering.form lower scope reference.form = Lowering.addAtom atom) :
      (reference.lowered scope []).outcome = .ok ⟨[atom], false, .undefined, []⟩ := by
    rw [lowered, Lowering.enter, Environment.budget, Lowering.run_of_isNew isNew, adds]
    rfl
  match permitted with
  | none | some [] =>
      refine ⟨_, lowers .record fun lower => by rw [isReference]; rfl, fun table => ?_⟩
      rw [FieldType.text_singleton]
      exact iff_of_true (FieldType.permitsRecord_record table) (by simp)
  | some (name :: rest) =>
      refine ⟨_, lowers (.recordOf (name :: rest)) fun lower => by rw [isReference]; rfl,
        fun table => ?_⟩
      rw [FieldType.text_singleton, FieldType.permitsRecord_recordOf_iff (List.cons_ne_nil _ _)]
      simp

/-- A reference without checks takes over what comes of the identifier of a record, unless the table
of the record is not one of those listed. -/
theorem alone_reference (isReference : reference.form = .reference permitted identifier)
    (plain : reference.refinements = []) (scope : ParseScope) (limit : Nat) (table : String)
    (value : Value) :
    (Validation.run scope (limit + 1)).alone reference (.record table value) =
      match permitted.filter fun names => !names.contains table with
      | some names => .ok (.reject (.record table value)
          (Wrapper.foreignTable names table (.record table value)))
      | none => ((Validation.run scope limit).alone identifier value).map
          (Wrapper.rebuildRecord table (.record table value)) := by
  simp only [Validator.alone, Validation.run, Validation.runSchema, plain, List.isEmpty_nil, if_true,
    isReference, Validation.runForm, Wrapper.reference]
  cases permitted.filter fun names => !names.contains table with
  | some names => rfl
  | none =>
      simp only [Wrapper.afterwards, Traced.settled_andThen_andThen]
      cases (Validation.run scope limit identifier value).settled <;> rfl

/-- A record with a suitable identifier is accepted by a reference just when its type permits the
table of the record, unless the reference was left with an empty list of tables; otherwise the record
is rejected. -/
theorem accepts_record_iff_permits (isBuilt : reference.IsBuiltReference)
    (lowering : LoweringScope) :
    ∃ permitted identifier field, reference.form = .reference permitted identifier ∧
      (reference.lowered lowering []).outcome = .ok field ∧
      ∀ (scope : ParseScope) (limit : Nat) (table : String) (value data : Value),
        (Validation.run scope limit).alone identifier value = .ok (.accept data) →
        ((Validation.run scope (limit + 1)).alone reference (.record table value) =
            .ok (.accept (.record table data)) ↔
          permitted ≠ some [] ∧ FieldType.PermitsRecord field.type.text table) ∧
        (¬(permitted ≠ some [] ∧ FieldType.PermitsRecord field.type.text table) →
          ∃ issue, (Validation.run scope (limit + 1)).alone reference (.record table value) =
            .ok (.reject (.record table value) issue)) := by
  obtain ⟨permitted, identifier, isReference, plain⟩ := isBuilt.exists_form
  obtain ⟨field, lowers, permits⟩ := exists_lowered_reference isReference lowering
  refine ⟨permitted, identifier, field, isReference, lowers, ?_⟩
  intro scope limit table value data accepts
  have runs := alone_reference isReference plain scope limit table value
  have lists : (permitted ≠ some [] ∧ FieldType.PermitsRecord field.type.text table) ↔
      ∀ names, permitted = some names → table ∈ names := by
    rw [permits]
    constructor
    · rintro ⟨someListed, member⟩ names rfl
      exact member names rfl fun empty => someListed (by rw [empty])
    · intro member
      refine ⟨fun empty => ?_, fun names isListed _ => member names isListed⟩
      cases member [] empty
  rw [lists]
  cases foreign : permitted.filter fun names => !names.contains table with
  | none =>
      have member : ∀ names, permitted = some names → table ∈ names := by
        simpa [Option.filter_eq_none_iff] using foreign
      rw [runs, foreign, accepts]
      exact ⟨iff_of_true rfl member, fun missing => absurd member missing⟩
  | some names =>
      obtain ⟨isListed, missing⟩ := Option.filter_eq_some_iff.mp foreign
      have noMember : ¬∀ names, permitted = some names → table ∈ names := by
        intro member
        simp [member names isListed] at missing
      rw [runs, foreign]
      refine ⟨iff_of_false (fun same => ?_) noMember, fun _ => ⟨_, rfl⟩⟩
      cases same

/-- A reference to users and to the table of a name with a bar in it. -/
def usersAndStaff : Schema :=
  ⟨some 0, [], .null, .reference (some ["user", "guest | staff"]) (.anonymous .any)⟩

theorem isBuiltReference_usersAndStaff : usersAndStaff.IsBuiltReference :=
  .new (show Builder.reference ["user", "guest | staff"] ⟨0, true⟩ =
    .ok (usersAndStaff, ⟨1, true⟩) from rfl)

/-- A name with a bar in it is one name, in the type as in the refusal. -/
theorem accepts_record_usersAndStaff :
    ∃ field, (usersAndStaff.lowered ⟨⟨[], none⟩, []⟩ []).outcome = .ok field ∧
      field.type.text = "record<user | \x60guest | staff\x60>" ∧
      (Validation.run ⟨⟨[], none⟩, .synchronous⟩ 2).alone usersAndStaff
        (.record "guest | staff" (.text "a")) =
          .ok (.accept (.record "guest | staff" (.text "a"))) ∧
      ∃ issue, (Validation.run ⟨⟨[], none⟩, .synchronous⟩ 2).alone usersAndStaff
        (.record "staff" (.text "a")) = .ok (.reject (.record "staff" (.text "a")) issue) := by
  obtain ⟨permitted, identifier, field, isReference, lowers, records⟩ :=
    accepts_record_iff_permits isBuiltReference_usersAndStaff ⟨⟨[], none⟩, []⟩
  cases isReference
  have isField : (usersAndStaff.lowered ⟨⟨[], none⟩, []⟩ []).outcome =
      .ok ⟨[.recordOf ["user", "guest | staff"]], false, .undefined, []⟩ := rfl
  cases lowers.symm.trans isField
  have permits (table : String) := FieldType.permitsRecord_recordOf_iff
    (List.cons_ne_nil "user" ["guest | staff"]) table
  have fares (table : String) :=
    records ⟨⟨[], none⟩, .synchronous⟩ 1 table (.text "a") (.text "a") rfl
  refine ⟨_, isField, by decide +kernel, (fares "guest | staff").1.mpr ⟨by simp, ?_⟩,
    (fares "staff").2 ?_⟩
  · rw [FieldType.text_singleton, permits]
    decide
  · rw [FieldType.text_singleton, permits]
    decide

def toNoTable : Schema := ⟨some 1, [], .null, .reference (some []) (.anonymous .any)⟩

/-- The type of a reference with an empty list of tables permits users, and a user with a suitable
identifier is rejected. -/
theorem not_accepts_record_toNoTable :
    toNoTable.IsBuiltReference ∧
      ∃ field, (toNoTable.lowered ⟨⟨[], none⟩, []⟩ []).outcome = .ok field ∧
        field.type.text = "record" ∧ FieldType.PermitsRecord field.type.text "user" ∧
        (Validation.run ⟨⟨[], none⟩, .synchronous⟩ 1).alone (.anonymous .any) (.text "a") =
          .ok (.accept (.text "a")) ∧
        ∃ issue, (Validation.run ⟨⟨[], none⟩, .synchronous⟩ 2).alone toNoTable
          (.record "user" (.text "a")) = .ok (.reject (.record "user" (.text "a")) issue) := by
  have begins : Builder.reference [] ⟨0, true⟩ =
      .ok (⟨some 0, [], .null, .reference none (.anonymous .any)⟩, ⟨1, true⟩) := rfl
  have restricts : (Method.tables []).apply
      ⟨some 0, [], .null, .reference none (.anonymous .any)⟩ ⟨1, true⟩ =
        .ok (toNoTable, ⟨2, true⟩) := rfl
  have isBuilt : toNoTable.IsBuiltReference :=
    .next (.new begins) (show (Method.tables []).IsOfReferences from trivial) restricts
  exact ⟨isBuilt, ⟨[.record], false, .undefined, []⟩, rfl, rfl, .inl rfl, rfl, _, rfl⟩

end Schema
end TypedTables
