import Mathlib.Data.Fin.VecNotation
import Mathlib.Tactic.FinCases
import TypedTables.Proofs.Schema.Graph
import TypedTables.Proofs.Statement.Faults
import TypedTables.Proofs.Table.Shape

/-!
# Generation ends

The fields of a table over a graph of schemas are defined in finitely many steps, however the graph
leads back to itself: no field is lowered, and no level of fields reached, beyond the budget that a
schema comes with, and no view of the graph is looked at where it is cut off.
-/

namespace TypedTables

theorem Fault.ne_tooDeep_of_isRefusal {cause : Fault} (refuses : cause.IsRefusal) :
    cause ≠ .tooDeep := by
  rintro rfl
  exact refuses

/-- What is lowered for a field of a table: one of the schemas that the table holds, what describes
the identifier of a declared reference, or a plain reference. -/
theorem Table.fieldSchema_of_mem_shape {holds : Schema → Prop} {table : Table Schema}
    (declared : ∀ schema ∈ table.declared.map Prod.snd, holds schema)
    (identifiers : ∀ schema ∈ table.declared.map Prod.snd, ∀ tables identifier,
      schema.form = .reference tables identifier → holds identifier)
    (source : ∀ schema ∈ table.source, holds schema)
    (target : ∀ schema ∈ table.target, holds schema)
    (any : holds (Schema.anonymous .any)) (reference : holds (Schema.referenceTo none))
    {field : String × Schema} (member : field ∈ table.shape) :
    holds (Generator.fieldSchema field) := by
  unfold Generator.fieldSchema
  rcases Table.mem_shape_cases member with
    ⟨isIdentifier, reference, refers, either⟩ | ⟨other, ofSource | ofTarget | own | plain⟩
  · obtain ⟨identifier, isReference, origin⟩ := Table.recordReference_eq_ok refers
    have described : field.2.describedIdentifier = identifier := by
      rcases reference with ⟨identity, refinements, description, form⟩
      cases isReference
      rcases either with same | same <;> rw [same] <;> rfl
    rw [if_pos isIdentifier, described]
    rcases origin with rfl | own | ⟨referring, own, tables, isForm⟩
    · exact any
    · exact declared identifier own
    · exact identifiers referring own tables identifier isForm
  · rw [if_neg other]
    exact source field.2 ofSource
  · rw [if_neg other]
    exact target field.2 ofTarget
  · rw [if_neg other]
    exact declared field.2 own
  · rw [if_neg other, plain]
    exact reference

namespace Generator

variable (generator : Generator)

/-- Where the chains of a schema are bounded, all levels of fields below it are defined. -/
theorem endsIn_fieldDefinitions_of_endsWithin (identified : generator.environment.IsIdentified)
    (table : String) (choices : DefineChoices) {length : Nat} {path : List String}
    {ancestors : List Ancestor} {schema : Schema}
    (ends : schema.EndsWithin generator.environment length ancestors) :
    EndsIn (· ≠ .tooDeep) (fun _ => True)
      (generator.fieldDefinitions table choices length path schema ancestors).outcome := by
  have whole : EndsIn (· ≠ .tooDeep) (fun definitions => ∀ _ ∈ definitions, True)
      (generator.fieldDefinitions table choices length path schema ancestors).outcome := by
    refine generator.endsIn_fieldDefinitions table choices
      (fun levels _ ancestors schema => schema.EndsWithin generator.environment levels ancestors)
      (fun _ _ _ held => held.elim) ?_ ?_ ends
    · intro definition cause fails
      have refuses := definition.endsIn_text
      rw [fails] at refuses
      exact Fault.ne_tooDeep_of_isRefusal refuses
    · intro levels path ancestors schema held
      refine (held.endsIn_lowered identified [table]).mono (fun _ => id) fun lowered kept =>
        ⟨trivial, fun child member => ?_⟩
      obtain ⟨shorter, fewer, further⟩ := kept child member
      exact further.mono (by omega)
  exact whole.mono (fun _ => id) fun _ _ => trivial

theorem endsIn_defineFields_of_endsWithin (identified : generator.environment.IsIdentified)
    (table : Table Schema) (options : Option DefineOptions) (overrides : GivenOptions)
    (ends : ∀ field ∈ table.shape,
      ∃ length, (fieldSchema field).EndsWithin generator.environment length []) :
    EndsIn (· ≠ .tooDeep) (fun _ => True)
      (generator.defineFields table options overrides).outcome := by
  refine generator.endsIn_defineFields (fun _ => Fault.ne_tooDeep_of_isRefusal) (by simp) table
    options overrides fun choices field member => ?_
  obtain ⟨length, within⟩ := ends field member
  exact generator.endsIn_fieldDefinitions_of_endsWithin identified table.name choices
    (within.within_budget identified)

end Generator

namespace SchemaGraph

variable {count : Nat} (graph : SchemaGraph count)

/-- Every chain from a node is bounded, in every view that is deep enough. -/
theorem endsWithin_longest {whole depth : Nat} (registry : Option Registry)
    (isDeep : longest count ≤ whole) (isDeepHere : longest count ≤ depth)
    (ancestors : List Ancestor) (place : Fin count) :
    (graph.view depth place).EndsWithin (graph.environment whole registry) (longest count)
      ancestors :=
  graph.endsWithin_view isDeep (graph.span_le_longest ancestors place)
    ((graph.span_le_longest ancestors place).trans isDeepHere)

/-- What is lowered for a field of a table over the graph has bounded chains. -/
theorem endsWithin_of_mem_shape {depth : Nat} (registry : Option Registry)
    (isDeep : longest count < depth) (table : Table (Fin count)) {field : String × Schema}
    (member : field ∈ (table.mapSchemas (graph.view depth)).shape) :
    (Generator.fieldSchema field).EndsWithin (graph.environment depth registry) (longest count)
      [] := by
  have node (place : Fin count) := graph.endsWithin_longest registry isDeep.le isDeep.le [] place
  have long : 0 < longest count := Nat.succ_pos _
  have listed {schema : Schema}
      (declared : schema ∈ (table.mapSchemas (graph.view depth)).declared.map Prod.snd) :
      ∃ place, graph.view depth place = schema := by
    simp only [Table.mapSchemas, List.map_map, List.mem_map, Function.comp_apply] at declared
    obtain ⟨named, -, equal⟩ := declared
    exact ⟨named.2, equal⟩
  refine Table.fieldSchema_of_mem_shape ?_ ?_ ?_ ?_
    (.of_leaf rfl (by intro; simp [Schema.anonymous]) long)
    (.of_leaf rfl (by intro; simp [Schema.referenceTo, Schema.anonymous]) long) member
  · intro schema declared
    obtain ⟨place, rfl⟩ := listed declared
    exact node place
  · intro schema declared tables identifier isForm
    obtain ⟨place, rfl⟩ := listed declared
    obtain ⟨below, rfl⟩ : ∃ below, depth = below + 1 := ⟨depth - 1, by omega⟩
    obtain ⟨original, rfl⟩ := Form.mapParts_eq_reference isForm
    exact graph.endsWithin_longest registry isDeep.le (Nat.le_of_lt_succ isDeep) [] original
  · intro schema isSource
    obtain ⟨place, -, rfl⟩ := Option.mem_map.mp isSource
    exact node place
  · intro schema isTarget
    obtain ⟨place, -, rfl⟩ := Option.mem_map.mp isTarget
    exact node place

/-- Lowering a node of a graph, and defining the fields of a table over it, end in every view that
is deep enough: no budget runs out, at most so many schemas are lowered one inside another however
deep the view is, and what is lowered inside of a schema, or left by it for later, has more
ancestors than the schema. -/
theorem generation_ends (registry : Option Registry) {depth : Nat}
    (isDeep : longest count < depth) :
    (∀ place openTables ancestors,
      ((graph.view depth place).lowered ⟨graph.environment depth registry, openTables⟩
        ancestors).outcome ≠ .error .tooDeep) ∧
    (∀ (table : Table (Fin count)) defaults options overrides,
      (Generator.defineFields ⟨graph.environment depth registry, defaults⟩
        (table.mapSchemas (graph.view depth)) options overrides).outcome ≠ .error .tooDeep) ∧
    (∀ place openTables,
      Lowering.run (longest count) ⟨graph.environment depth registry, openTables⟩
          (graph.view depth place) =
        Lowering.enter ⟨graph.environment depth registry, openTables⟩ (graph.view depth place)) ∧
    (∀ place openTables alarm,
      Lowering.watchedRun alarm (longest count) ⟨graph.environment depth registry, openTables⟩
          (graph.view depth place) =
        Lowering.enter ⟨graph.environment depth registry, openTables⟩ (graph.view depth place)) ∧
    (∀ place openTables ancestors field,
      ((graph.view depth place).lowered ⟨graph.environment depth registry, openTables⟩
        ancestors).outcome = .ok field →
      ∀ child ∈ field.children,
        Relation.TransGen (fun before after => isOneMore before after = true) ancestors
          child.ancestors) := by
  have identified : (graph.environment depth registry).IsIdentified := by
    obtain ⟨below, rfl⟩ : ∃ below, depth = below + 1 := ⟨depth - 1, by omega⟩
    exact graph.isIdentified_environment below registry
  have within (ancestors : List Ancestor) (place : Fin count) :=
    graph.endsWithin_longest registry isDeep.le isDeep.le ancestors place
  have bounded (place : Fin count) (openTables : List String) :
      Lowering.run (longest count) ⟨graph.environment depth registry, openTables⟩
          (graph.view depth place) =
        Lowering.enter ⟨graph.environment depth registry, openTables⟩ (graph.view depth place) := by
    funext state
    -- Either budget may be the smaller one, and the smaller one suffices.
    have bound := within state.ancestors place
    have own := bound.within_budget identified
    rcases Nat.le_total (longest count)
      ((graph.environment depth registry).budget (graph.view depth place)) with fewer | more
    · exact (bound.agreeBelow_run fewer openTables state rfl).1
    · exact (own.agreeBelow_run more openTables state rfl).1.symm
  refine ⟨?_, ?_, bounded, ?_, ?_⟩
  · intro place openTables ancestors fails
    have ends := (within ancestors place).endsIn_lowered identified openTables
    rw [fails] at ends
    exact ends rfl
  · intro table defaults options overrides fails
    have ends := Generator.endsIn_defineFields_of_endsWithin
      ⟨graph.environment depth registry, defaults⟩ identified
      (table.mapSchemas (graph.view depth)) options overrides fun field member =>
        ⟨longest count, graph.endsWithin_of_mem_shape registry isDeep table member⟩
    rw [fails] at ends
    exact ends rfl
  · intro place openTables alarm
    rw [Lowering.watchedRun_eq_run, bounded]
  · intro place openTables ancestors field lowers
    have ends := (graph.view depth place).endsIn_lowered_isOneMore
      ⟨graph.environment depth registry, openTables⟩ ancestors
    rw [lowers] at ends
    exact ends

/-- A union that is one of its own options. Its other option is an object, and a lazy schema in the
object builds anew what may be that object. -/
def selfReferring : SchemaGraph 4 where
  node := ![⟨true, [], .null, .optional 1⟩,
    ⟨false, [], .null, .object [("next", 2)] none⟩,
    ⟨false, [], .null, .lazily (.template 0)⟩,
    ⟨false, [], .null, .union [1, 3]⟩]
  definitions := [("union", 3)]
  descends := by
    intro outer inner isFresh isFreshInner leads
    fin_cases outer <;> fin_cases inner <;> simp_all [Form.lowered]
  isOnce := by simp
  builds := by
    intro place
    fin_cases place <;> simp

theorem lowered_selfReferring_ne_tooDeep :
    longest 4 < 26 ∧
      ((selfReferring.view 26 3).lowered ⟨selfReferring.environment 26 none, []⟩ []).outcome ≠
        .error .tooDeep :=
  ⟨by decide, (selfReferring.generation_ends none (by decide : longest 4 < 26)).1 3 [] []⟩

end SchemaGraph
end TypedTables
