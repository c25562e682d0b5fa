import TypedTables.Proofs.Statement.Endpoints
import TypedTables.Proofs.Table.LastWrites
import TypedTables.Proofs.Validation.Rekeying
import TypedTables.Proofs.Validation.Splitting

/-!
# Records at the ends of a relation

What a table accepts has been accepted field by field, so every accepted edge of a relation holds a
record at each of its ends. Where no endpoint was set, a reference that was declared under the name
of the end is the field there, and has accepted the record. What else was declared under the name
takes no part: the field is then a reference to the records of every table.
-/

namespace TypedTables

namespace Container

theorem accepts_fields_of_object {validate : Validator} {shape : List (String × Schema)}
    {catchall : Option Schema} {input output : Value}
    (accepts : (object validate shape catchall input).settled = .ok (.accept output)) :
    ∃ entries, input.entries? = some entries ∧ ∀ field ∈ shape, ∃ fieldOutput,
      validate.accepted field.2 (inputAt entries field.1) = some fieldOutput := by
  cases mapping : input.entries? with
  | none =>
      rw [object, mapping] at accepts
      cases accepts
  | some entries =>
      obtain ⟨result, outputs, issues, alone, -, accepted⟩ :=
        (evaluated_object_eq_ok_iff validate.alone shape catchall mapping _).mp
          ((settled_object_eq_ok_iff shape catchall input _).mp accepts)
      have none := List.append_eq_nil_iff.mp (congrArg Payload.issues accepted).symm
      refine ⟨entries, rfl, fun field member => ⟨(result field).value, ?_⟩⟩
      have clean := (fieldIssues_eq_nil_iff shape result).mp none.1 field member
      rw [Validator.accepted_eq_some_iff, alone field member, ← Payload.eq_accept clean]

end Container

namespace Validation

variable {scope : ParseScope} {limit : Nat} {input output : Value}

theorem exists_record_of_accepted {reference : Schema} (isReference : reference.kind = .reference)
    (accepts : (run scope limit).accepted reference input = some output) :
    ∃ owner identifier, input = .record owner identifier := by
  cases limit with
  | zero => cases accepts
  | succ limit =>
      have formed := settled_form_of_accepted accepts
      obtain ⟨tables, described, isForm⟩ := Schema.form_of_kind_eq_reference isReference
      rw [isForm] at formed
      cases input with
      | record owner identifier => exact ⟨owner, identifier, rfl⟩
      | _ => cases formed

end Validation

namespace Table

open Container Validation

variable {scope : ParseScope} {limit : Nat} {input output : Value}

theorem find?_of_inputAt_eq_record {entries : List (Value × Value)} {name owner : String}
    {identifier : Value} (isRecord : inputAt entries name = .record owner identifier) :
    Value.find? (.text name) entries = some (.record owner identifier) := by
  unfold inputAt at isRecord
  cases found : Value.find? (.text name) entries with
  | none =>
      rw [found] at isRecord
      cases isRecord
  | some item =>
      rw [found] at isRecord
      exact congrArg some isRecord

/-- What a relation that was built accepts holds a record at an end where no endpoint was set. A
reference that was declared there is the field of the end and has accepted the record. Where
something else was declared, the field is a reference to the records of every table. -/
theorem accepts_declared_end {schema declared : Schema} {table : Table Schema} {name : String}
    (isBuilt : schema.IsBuiltTable) (isTable : schema.form = .table table)
    (isRelation : table.mode = .relation)
    (unset : name = "in" ∧ table.source = none ∨ name = "out" ∧ table.target = none)
    (isDeclared : fieldNamed? name table.declared = some declared)
    (accepts : (run scope (limit + 1)).accepted schema input = some output) :
    ∃ entries owner identifier, input.entries? = some entries ∧
      Value.find? (.text name) entries = some (.record owner identifier) ∧
      (declared.kind = .reference →
        fieldNamed? name table.shape = some declared ∧
          ∃ accepted, (run scope limit).accepted declared (.record owner identifier) =
            some accepted) ∧
      (declared.kind ≠ .reference →
        fieldNamed? name table.shape = some (Schema.referenceTo none)) := by
  have isSound := isBuilt.isSound isTable
  have isField : fieldNamed? name table.shape = some (table.endField name none) := by
    obtain ⟨hasIn, hasOut⟩ := isSound.fieldNamed?_ends isRelation
    rcases unset with ⟨rfl, noSource⟩ | ⟨rfl, noTarget⟩
    · rw [hasIn, noSource]
    · rw [hasOut, noTarget]
  have isReference : (table.endField name none).kind = .reference :=
    kind_endField fun _ isSet => by cases isSet
  have formed := settled_form_of_accepted accepts
  rw [isTable] at formed
  obtain ⟨entries, mapping, fields⟩ := accepts_fields_of_object formed
  obtain ⟨before, after, isShape, -⟩ := List.lookup_eq_some_iff.mp isField
  obtain ⟨accepted, acceptsEnd⟩ := fields (name, table.endField name none) (by simp [isShape])
  obtain ⟨owner, identifier, isRecord⟩ := exists_record_of_accepted isReference acceptsEnd
  refine ⟨entries, owner, identifier, mapping, find?_of_inputAt_eq_record isRecord, ?_, ?_⟩
  · intro refers
    have same : table.endField name none = declared := by
      simp only [endField, isDeclared, refers, if_true]
    rw [same] at isField acceptsEnd
    exact ⟨isField, accepted, isRecord ▸ acceptsEnd⟩
  · intro other
    rw [isField]
    simp only [endField, isDeclared, other, if_false]

open Generator

def toUser : Schema := Schema.referenceTo (some ["user"])

def edgeFrom (table : String) : Value :=
  .mapping [(.text "id", .record "likes" (.text "a")), (.text "in", .record table (.text "b")),
    (.text "out", .record "user" (.text "c"))]

theorem isBuiltTable_declaring (field : String × Schema)
    (builds : (Method.fields [field]).apply (builtSchema 0 likes) ⟨1, true⟩ =
      .ok (builtSchema 1 { likes with declared := [field] }, ⟨2, true⟩)) :
    (builtSchema 1 { likes with declared := [field] }).IsBuiltTable :=
  isBuiltTable_of_likes (show (Method.fields [field]).TakesReference from trivial) builds

/-- A table of edges accepts an edge when it accepts the fields of its shape. -/
theorem accepted_edgeFrom {field : String × Schema} (start : Schema) {owner : String}
    (isShape : { likes with declared := [field] }.shape =
      [("id", Schema.referenceTo (some ["likes"])), ("in", start), ("out", Schema.referenceTo none)])
    (accepts : (object (run ⟨⟨[], none⟩, .synchronous⟩ (limit + 1))
      [("id", Schema.referenceTo (some ["likes"])), ("in", start), ("out", Schema.referenceTo none)]
      (some likes.catchall) (edgeFrom owner)).settled = .ok (.accept (edgeFrom owner))) :
    (run ⟨⟨[], none⟩, .synchronous⟩ (limit + 2)).accepted
      (builtSchema 1 { likes with declared := [field] }) (edgeFrom owner) =
        some (edgeFrom owner) := by
  rw [Validator.accepted_eq_some_iff, alone_of_unrefined rfl]
  rw [← isShape] at accepts
  exact accepts

/-- An edge from a user, where a reference to users is declared. -/
theorem accepts_declared_end_toUser :
    ∃ entries owner identifier, (edgeFrom "user").entries? = some entries ∧
      Value.find? (.text "in") entries = some (.record owner identifier) ∧
      ∃ accepted, (run ⟨⟨[], none⟩, .synchronous⟩ 2).accepted toUser (.record owner identifier) =
        some accepted := by
  have accepts : (run ⟨⟨[], none⟩, .synchronous⟩ 3).accepted
      (builtSchema 1 { likes with declared := [("in", toUser)] }) (edgeFrom "user") =
        some (edgeFrom "user") := accepted_edgeFrom toUser rfl (by cbv)
  obtain ⟨entries, owner, identifier, mapping, found, ofReference, -⟩ :=
    accepts_declared_end (isBuiltTable_declaring ("in", toUser) rfl) rfl rfl (.inl ⟨rfl, rfl⟩)
      rfl accepts
  exact ⟨entries, owner, identifier, mapping, found, (ofReference rfl).2⟩

/-- Where an optional reference to users is declared, an edge from a post is accepted, and what is
declared rejects the post. -/
theorem not_accepts_declared_end :
    ¬∀ (scope : ParseScope) (limit : Nat) (schema declared : Schema) (table : Table Schema)
        (input output : Value), schema.IsBuiltTable → schema.form = .table table →
      table.mode = .relation → table.source = none →
      fieldNamed? "in" table.declared = some declared →
      (run scope (limit + 1)).accepted schema input = some output →
      ∃ entries item accepted, input.entries? = some entries ∧
        Value.find? (.text "in") entries = some item ∧
        (run scope limit).accepted declared item = some accepted := by
  intro holds
  have accepts : (run ⟨⟨[], none⟩, .synchronous⟩ 4).accepted
      (builtSchema 1 { likes with declared := [("in", .anonymous (.optional toUser))] })
      (edgeFrom "post") = some (edgeFrom "post") :=
    accepted_edgeFrom (Schema.referenceTo none) rfl (by cbv)
  obtain ⟨entries, item, accepted, mapping, found, taken⟩ := holds _ _ _ _ _ _ _
    (isBuiltTable_declaring ("in", .anonymous (.optional toUser)) rfl) rfl rfl rfl rfl accepts
  cases mapping
  have isPost : Value.find? (.text "in")
      [(.text "id", .record "likes" (.text "a")), (.text "in", .record "post" (.text "b")),
        (.text "out", .record "user" (.text "c"))] = some (.record "post" (.text "b")) := by cbv
  cases found.symm.trans isPost
  have refused : (run ⟨⟨[], none⟩, .synchronous⟩ 3).accepted (.anonymous (.optional toUser))
      (.record "post" (.text "b")) = none := by cbv
  cases refused.symm.trans taken

end Table
end TypedTables
