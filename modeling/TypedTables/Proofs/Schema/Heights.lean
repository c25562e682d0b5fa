import Mathlib.Data.List.Basic
import TypedTables.Proofs.Schema.Reach
import TypedTables.Schema.Height

/-!
# Heights of parts

A part of a schema is less high than the schema, and so is the template of a lazy one. A table is
higher than what was declared for it; its own fields are made of that.
-/

namespace TypedTables

namespace Height

theorem le_ofSchemas {schema : Schema} {schemas : List Schema} (member : schema ∈ schemas) :
    schema.height ≤ ofSchemas schemas := by
  induction schemas with
  | nil => cases member
  | cons first rest ih =>
      rw [ofSchemas]
      rcases List.mem_cons.mp member with rfl | later
      · exact Nat.le_max_left _ _
      · exact Nat.le_trans (ih later) (Nat.le_max_right _ _)

theorem le_ofFields {schema : Schema} {fields : List (String × Schema)}
    (member : schema ∈ fields.map Prod.snd) : schema.height ≤ ofFields fields := by
  induction fields with
  | nil => cases member
  | cons first rest ih =>
      rcases first with ⟨name, described⟩
      rw [ofFields]
      rcases List.mem_cons.mp member with rfl | later
      · exact Nat.le_max_left _ _
      · exact Nat.le_trans (ih later) (Nat.le_max_right _ _)

theorem le_ofOption {schema : Schema} {schema? : Option Schema} (member : schema ∈ schema?) :
    schema.height ≤ ofOption schema? := by
  rw [Option.mem_def.mp member, ofOption]
  exact Nat.le_refl _

theorem le_ofTable {schema : Schema} {table : Table Schema}
    (member : schema ∈ table.declared.map Prod.snd ∨ schema = table.catchall ∨
      schema ∈ table.source ∨ schema ∈ table.target) : schema.height ≤ ofTable table := by
  rcases table with ⟨name, declared, catchall, mode, source, target, drops, comment, isDraft⟩
  rw [ofTable]
  rcases member with own | rfl | ofSource | ofTarget
  · exact Nat.le_trans (le_ofFields own) (Nat.le_trans (Nat.le_max_left _ _) (Nat.le_max_left _ _))
  · exact Nat.le_trans (Nat.le_max_right _ _) (Nat.le_max_left _ _)
  · exact Nat.le_trans (le_ofOption ofSource)
      (Nat.le_trans (Nat.le_max_left _ _) (Nat.le_max_right _ _))
  · exact Nat.le_trans (le_ofOption ofTarget)
      (Nat.le_trans (Nat.le_max_right _ _) (Nat.le_max_right _ _))

theorem le_ofForm {schema : Schema} {form : Form Schema} (noTable : ∀ table, form ≠ .table table)
    (member : schema ∈ form.parts) : schema.height ≤ ofForm form := by
  cases form with
  | promise inner | array inner least most | set inner least most | optional inner | nullable inner
  | nonoptional inner | default inner value | prefault inner value | fallback inner value
  | readonly inner | reference tables inner =>
      rw [List.mem_singleton.mp member, ofForm]
      exact Nat.le_refl _
  | object shape catchall =>
      rw [ofForm]
      rcases List.mem_append.mp member with field | other
      · exact Nat.le_trans (le_ofFields field) (Nat.le_max_left _ _)
      · exact Nat.le_trans (le_ofOption (Option.mem_toList.mp other)) (Nat.le_max_right _ _)
  | tuple items rest =>
      rw [ofForm]
      rcases List.mem_append.mp member with item | other
      · exact Nat.le_trans (le_ofSchemas item) (Nat.le_max_left _ _)
      · exact Nat.le_trans (le_ofOption (Option.mem_toList.mp other)) (Nat.le_max_right _ _)
  | pipe first second | record first second | map first second | intersection first second =>
      rw [ofForm]
      rcases List.mem_pair.mp member with rfl | rfl
      · exact Nat.le_max_left _ _
      · exact Nat.le_max_right _ _
  | union options =>
      rw [ofForm]
      exact le_ofSchemas member
  | table described => exact absurd rfl (noTable described)
  | _ => cases member

end Height

namespace Schema

variable {schema : Schema}

theorem height_eq (schema : Schema) : schema.height = Height.ofForm schema.form + 1 := by
  rcases schema with ⟨identity, refinements, description, form⟩
  rw [height, Height.ofSchema]

theorem height_pos (schema : Schema) : 0 < schema.height := by
  rw [schema.height_eq]
  exact Nat.succ_pos _

theorem height_lt_of_mem_parts {part : Schema} (noTable : ∀ table, schema.form ≠ .table table)
    (member : part ∈ schema.form.parts) : part.height < schema.height := by
  rw [schema.height_eq]
  exact Nat.lt_succ_of_le (Height.le_ofForm noTable member)

theorem height_lt_of_table {inner : Schema} {table : Table Schema}
    (isTable : schema.form = .table table)
    (member : inner ∈ table.declared.map Prod.snd ∨ inner = table.catchall ∨
      inner ∈ table.source ∨ inner ∈ table.target) : inner.height < schema.height := by
  rw [schema.height_eq, isTable, Height.ofForm]
  exact Nat.lt_succ_of_le (Height.le_ofTable member)

theorem height_lt_of_template {template : Schema}
    (isLazy : schema.form = .lazily (.template template)) : template.height < schema.height := by
  rw [schema.height_eq, isLazy, Height.ofForm, Height.ofTarget]
  exact Nat.lt_succ_self _

end Schema
end TypedTables
