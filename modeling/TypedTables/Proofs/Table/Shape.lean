import Mathlib.Data.List.Basic
import TypedTables.Proofs.Schema.Wraps

/-!
# The fields of a table

Where each field of a table comes from. The identifier is a reference to a record of the table; it
keeps what a declared reference says about the identifier, or holds what was declared itself. An end
of a relation is the endpoint that was set, a declared reference, or a reference to any record. Every
other field was declared.
-/

namespace TypedTables

namespace Table

variable {table : Table Schema}

theorem mem_declared_of_fieldNamed? {name : String} {schema : Schema}
    (named : fieldNamed? name table.declared = some schema) :
    schema ∈ table.declared.map Prod.snd := by
  obtain ⟨before, after, equal, -⟩ := List.lookup_eq_some_iff.mp named
  simp [equal]

/-- The reference to a record of a table holds what is known about the identifier: nothing, what a
declared reference says about it, or what is declared. -/
theorem recordReference_eq_ok {reference : Schema}
    (refers : table.recordReference = .ok reference) :
    ∃ identifier, reference.form = .reference (some [table.name]) identifier ∧
      (identifier = .anonymous .any ∨ identifier ∈ table.declared.map Prod.snd ∨
        ∃ declared ∈ table.declared.map Prod.snd, ∃ tables,
          declared.form = .reference tables identifier) := by
  unfold recordReference at refers
  split at refers
  · cases refers
    exact ⟨_, rfl, Or.inl rfl⟩
  · rename_i declared named
    have present := mem_declared_of_fieldNamed? named
    split at refers
    · rename_i isReference
      obtain ⟨tables, identifier, isForm⟩ := Schema.form_of_kind_eq_reference isReference
      rw [Schema.withTables, isForm] at refers
      cases refers
      exact ⟨identifier, rfl, Or.inr (Or.inr ⟨declared, present, tables, isForm⟩)⟩
    · unfold Schema.withIdentifier at refers
      split at refers
      · cases refers
        exact ⟨declared, rfl, Or.inr (Or.inl present)⟩
      · cases refers

theorem endField_cases (table : Table Schema) (name : String) (endpoint : Option Schema) :
    table.endField name endpoint ∈ endpoint ∨
      table.endField name endpoint ∈ table.declared.map Prod.snd ∨
      table.endField name endpoint = Schema.referenceTo none := by
  unfold endField
  split
  · exact Or.inl rfl
  · split
    · rename_i declared named
      split
      · exact Or.inr (Or.inl (mem_declared_of_fieldNamed? named))
      · exact Or.inr (Or.inr rfl)
    · exact Or.inr (Or.inr rfl)

theorem mem_shape_cases {field : String × Schema} (member : field ∈ table.shape) :
    (field.1 = "id" ∧ ∃ reference, table.recordReference = .ok reference ∧
      (field.2 = reference ∨ field.2 = .anonymous (.optional reference))) ∨
    (field.1 ≠ "id" ∧ (field.2 ∈ table.source ∨ field.2 ∈ table.target ∨
      field.2 ∈ table.declared.map Prod.snd ∨ field.2 = Schema.referenceTo none)) := by
  cases refers : table.recordReference with
  | error cause => simp [shape, shape?, identifierField, refers, Except.map] at member
  | ok reference =>
      simp only [shape, shape?, identifierField, refers, Except.map, List.mem_cons,
        List.mem_append] at member
      rcases member with rfl | atEnd | own
      · refine Or.inl ⟨rfl, reference, rfl, ?_⟩
        cases table.isDraft with
        | true => exact Or.inr rfl
        | false => exact Or.inl rfl
      · right
        unfold endFields at atEnd
        split at atEnd
        · rcases List.mem_pair.mp atEnd with rfl | rfl
          · exact ⟨by simp, (table.endField_cases "in" table.source).imp_right Or.inr⟩
          · exact ⟨by simp, Or.inr (table.endField_cases "out" table.target)⟩
        · cases atEnd
      · obtain ⟨present, free⟩ := List.mem_filter.mp own
        refine Or.inr ⟨?_, Or.inr (Or.inr (Or.inl (List.mem_map_of_mem present)))⟩
        rintro same
        unfold reservedNames at free
        split at free <;> simp [same] at free

end Table
end TypedTables
