import Mathlib.Data.Set.Finite.Lattice
import Mathlib.Logic.Relation
import Mathlib.Order.WellFounded
import TypedTables.Proofs.Effect.Settling
import TypedTables.Proofs.Schema.Heights
import TypedTables.Proofs.Schema.Reach
import TypedTables.Proofs.Table.Shape

/-!
# Cycles of schemas

A schema uses its parts, and a lazy schema uses what it is resolved to. Schemas are finite trees and
an environment names finitely many, so that only finitely many schemas are reached from a schema, and
what goes on without end goes round in a cycle. A cycle is harmless where it goes down into the value
that is validated.
-/

namespace TypedTables

open Relation (ReflTransGen TransGen)

namespace Form

variable {σ : Type}

/-- The form runs its parts on what it finds in a value, or on absence where it finds nothing. -/
def descends : Form σ → Bool
  | .object .. | .table _ | .array .. | .set .. | .tuple .. | .record .. | .map ..
  | .reference .. => true
  | _ => false

/-- The form may run a part on a value that is neither its own nor found in it. -/
def renews : Form σ → Bool
  | .pipe .. | .prefault .. | .promise _ => true
  | _ => false

/-- The values that a form may run a part on, given its own value. -/
def Hands (form : Form σ) (input value : Value) : Prop :=
  if form.renews then True
  else if form.descends then sizeOf value < sizeOf input
  else value = input

end Form

/-- In a finite region without cycles a property goes up along steps. -/
theorem induction_of_acyclic {α : Type} (step : α → α → Prop) (holds : α → Prop) {region : Set α}
    (finite : region.Finite)
    (closed : ∀ first ∈ region, ∀ second, step first second → second ∈ region)
    (acyclic : ∀ place ∈ region, ¬TransGen step place place)
    (each : ∀ place ∈ region, (∀ next, step place next → holds next) → holds place)
    {place : α} (inside : place ∈ region) : holds place := by
  have : Finite region := finite
  let after (second first : region) : Prop := TransGen step first.1 second.1
  have : IsTrans region after := ⟨fun _ _ _ later earlier => TransGen.trans earlier later⟩
  have : Std.Irrefl after := ⟨fun place cycle => acyclic place place.2 cycle⟩
  have descends : WellFounded after := Finite.wellFounded_of_trans_of_irrefl after
  have all (place : region) : holds place.1 := by
    induction place using descends.induction with
    | _ place ih =>
        refine each place place.2 fun next steps => ?_
        exact ih ⟨next, closed place place.2 next steps⟩ (.single steps)
  exact all ⟨place, inside⟩

namespace Schema

variable {environment : Environment} {schema : Schema}

/-- A schema uses its parts and what it is resolved to. -/
inductive Uses (environment : Environment) (schema : Schema) : Schema → Prop
  | part {part : Schema} (member : part ∈ schema.form.parts) : Uses environment schema part
  | resolved {resolved : Schema} {lazyTarget : LazyTarget Schema}
      (isLazy : schema.form = .lazily lazyTarget)
      (resolves : environment.resolve lazyTarget = .ok resolved) : Uses environment schema resolved

/-- A schema passes a value on: it uses another schema without going down into the value. -/
def Passes (environment : Environment) (schema next : Schema) : Prop :=
  schema.form.descends = false ∧ schema.Uses environment next

theorem reaches_iff {target : Schema} :
    schema.Reaches environment target ↔ ReflTransGen (Uses environment) schema target := by
  constructor
  · intro reaches
    induction reaches with
    | self => exact .refl
    | part member _ ih => exact .head (.part member) ih
    | resolved isLazy resolves _ ih => exact .head (.resolved isLazy resolves) ih
  · intro path
    induction path using ReflTransGen.head_induction_on with
    | refl => exact .self target
    | head uses _ ih =>
        cases uses with
        | part member => exact .part member ih
        | resolved isLazy resolves => exact .resolved isLazy resolves ih

theorem Everywhere.of_uses {property : Schema → Prop} (here : property schema)
    (uses : ∀ outer inner, property outer → outer.Uses environment inner → property inner) :
    schema.Everywhere environment property := by
  intro target reaches
  have path := reaches_iff.mp reaches
  induction path with
  | refl => exact here
  | tail before last ih => exact uses _ _ (ih (reaches_iff.mpr before)) last

theorem finite_uses (environment : Environment) (schema : Schema) :
    {next | schema.Uses environment next}.Finite := by
  have single : {resolved | ∃ target, schema.form = .lazily target ∧
      environment.resolve target = .ok resolved}.Subsingleton := by
    rintro first ⟨target, isLazy, resolves⟩ second ⟨other, isLazyOther, resolvesOther⟩
    rw [isLazy] at isLazyOther
    cases isLazyOther
    rw [resolves] at resolvesOther
    exact Except.ok.inj resolvesOther
  refine (schema.form.parts.finite_toSet.union single.finite).subset fun next uses => ?_
  cases uses with
  | part member => exact Or.inl member
  | resolved isLazy resolves => exact Or.inr ⟨_, isLazy, resolves⟩

theorem finite_reaches_of_uses
    (inside : ∀ next, schema.Uses environment next → {target | next.Reaches environment target}.Finite) :
    {target | schema.Reaches environment target}.Finite := by
  refine ((Set.finite_singleton schema).union
    ((finite_uses environment schema).biUnion inside)).subset fun target reaches => ?_
  cases reaches with
  | self => exact Or.inl rfl
  | part member further => exact Or.inr (Set.mem_biUnion (.part member) further)
  | resolved isLazy resolves further =>
      exact Or.inr (Set.mem_biUnion (.resolved isLazy resolves) further)

theorem finite_reaches_of_used {next : Schema} (uses : schema.Uses environment next)
    (finite : {target | schema.Reaches environment target}.Finite) :
    {target | next.Reaches environment target}.Finite :=
  finite.subset fun _ reaches => reaches_iff.mpr (.head uses (reaches_iff.mp reaches))

end Schema

/-- What every schema that a table runs its fields with satisfies: a property of the schemas that the
table is made of that goes down along uses, and back up where it holds of all that is used. -/
theorem Table.of_mem_shape (environment : Environment) {holds : Schema → Prop}
    {table : Table Schema}
    (down : ∀ schema next, holds schema → schema.Uses environment next → holds next)
    (up : ∀ schema, (∀ next, schema.Uses environment next → holds next) → holds schema)
    (declared : ∀ schema ∈ table.declared.map Prod.snd, holds schema)
    (source : ∀ schema ∈ table.source, holds schema)
    (target : ∀ schema ∈ table.target, holds schema)
    {schema : Schema} (member : schema ∈ table.shape.map Prod.snd) : holds schema := by
  have leaf {plain : Schema} (isLeaf : plain.form.parts = [])
      (eager : ∀ target, plain.form ≠ .lazily target) : holds plain := by
    refine up plain fun next uses => ?_
    cases uses with
    | part used => simp [isLeaf] at used
    | resolved isLazy => exact absurd isLazy (eager _)
  have around {outer inner : Schema} (isOnly : outer.form.parts = [inner])
      (eager : ∀ target, outer.form ≠ .lazily target) (inside : holds inner) : holds outer := by
    refine up outer fun next uses => ?_
    cases uses with
    | part used =>
        rw [isOnly] at used
        rw [List.mem_singleton.mp used]
        exact inside
    | resolved isLazy => exact absurd isLazy (eager _)
  have any : holds (Schema.anonymous .any) := leaf rfl fun _ isLazy => by cases isLazy
  obtain ⟨field, among, rfl⟩ := List.mem_map.mp member
  rcases Table.mem_shape_cases among with
    ⟨-, reference, refers, either⟩ | ⟨-, ofSource | ofTarget | own | plain⟩
  · obtain ⟨identifier, isReference, origin⟩ := Table.recordReference_eq_ok refers
    have inside : holds identifier := by
      rcases origin with rfl | own | ⟨referring, own, tables, isForm⟩
      · exact any
      · exact declared identifier own
      · refine down referring identifier (declared referring own) (.part ?_)
        rw [isForm]
        exact List.mem_singleton_self _
    have ofReference : holds reference :=
      around (by rw [isReference]; rfl) (by simp [isReference]) inside
    rcases either with same | same
    · rw [same]
      exact ofReference
    · rw [same]
      exact around rfl (fun _ isLazy => by cases isLazy) ofReference
  · exact source field.2 ofSource
  · exact target field.2 ofTarget
  · exact declared field.2 own
  · rw [plain]
    exact around rfl (fun _ isLazy => by cases isLazy) any

def Environment.named (environment : Environment) : List Schema :=
  environment.definitions.map Prod.snd ++
    match environment.registry with
    | none => []
    | some registry => registry.tables.map TableSchema.toSchema

theorem Environment.template_or_named {environment : Environment} {lazyTarget : LazyTarget Schema} {resolved : Schema}
    (resolves : environment.resolve lazyTarget = .ok resolved) :
    lazyTarget = .template resolved ∨ resolved ∈ environment.named := by
  unfold named
  cases lazyTarget with
  | template built =>
      cases resolves
      exact Or.inl rfl
  | unbuildable cause => cases resolves
  | definition name =>
      right
      simp only [resolve] at resolves
      split at resolves
      · rename_i schema found
        cases resolves
        obtain ⟨before, after, equal, -⟩ := List.lookup_eq_some_iff.mp found
        simp [equal]
      · cases resolves
  | table name =>
      right
      cases registered : environment.registry with
      | none => simp [resolve, registered] at resolves
      | some registry =>
          simp only [resolve, registered, Registry.get] at resolves
          obtain ⟨table, got, rfl⟩ := (except_map_eq_ok_iff _ _ _).mp resolves
          split at got
          · rename_i found
            cases got
            exact List.mem_append_right _
              (List.mem_map_of_mem (List.mem_of_find?_eq_some found))
          · cases got

namespace Schema

variable {environment : Environment} {schema : Schema}

/-- Without definitions and tables a lazy schema leads into its template only, so that all that is
reached is part of the schema itself. -/
theorem finite_reaches_templates (schema : Schema) :
    {target | schema.Reaches ⟨[], none⟩ target}.Finite := by
  generalize size : schema.height = height
  induction height using Nat.strong_induction_on generalizing schema with
  | _ height ih =>
      have lower {inner : Schema} (isLower : inner.height < schema.height) :=
        ih inner.height (size ▸ isLower) inner rfl
      refine finite_reaches_of_uses fun next uses => ?_
      cases uses with
      | resolved isLazy resolves =>
          rename_i target
          cases target with
          | template built =>
              cases resolves
              exact lower (height_lt_of_template isLazy)
          | _ => cases resolves
      | part member =>
          cases isTable : schema.table? with
          | none =>
              refine lower (height_lt_of_mem_parts (fun table isForm => ?_) member)
              simp [table?, isForm] at isTable
          | some table =>
              have isForm := form_of_table? isTable
              have made {inner : Schema} := @height_lt_of_table schema inner table isForm
              rw [isForm] at member
              rcases List.mem_append.mp member with field | catchall
              · exact Table.of_mem_shape ⟨[], none⟩
                  (fun _ _ finite uses => finite_reaches_of_used uses finite)
                  (fun _ => finite_reaches_of_uses)
                  (fun inner among => lower (made (Or.inl among)))
                  (fun inner among => lower (made (Or.inr (Or.inr (Or.inl among)))))
                  (fun inner among => lower (made (Or.inr (Or.inr (Or.inr among))))) field
              · exact lower (made (Or.inr (Or.inl (List.mem_singleton.mp catchall))))

/-- Finitely many schemas are reached from a schema: each of them is part of the schema itself or of
one that the environment names. -/
theorem finite_reaches (environment : Environment) (schema : Schema) :
    {target | schema.Reaches environment target}.Finite := by
  refine ((schema :: environment.named).finite_toSet.biUnion fun start _ =>
    finite_reaches_templates start).subset fun target reaches => ?_
  have path := reaches_iff.mp reaches
  induction path with
  | refl => exact Set.mem_biUnion (List.mem_cons_self) (.self schema)
  | tail before last ih =>
      obtain ⟨start, among, inside⟩ := Set.mem_iUnion₂.mp (ih (reaches_iff.mpr before))
      have further {next : Schema} (uses : Uses ⟨[], none⟩ _ next) :
          start.Reaches ⟨[], none⟩ next :=
        reaches_iff.mpr ((reaches_iff.mp inside).tail uses)
      cases last with
      | part member => exact Set.mem_biUnion among (further (.part member))
      | resolved isLazy resolves =>
          rcases Environment.template_or_named resolves with rfl | isNamed
          · exact Set.mem_biUnion among (further (.resolved isLazy rfl))
          · exact Set.mem_biUnion (List.mem_cons_of_mem _ isNamed) (.self _)

/-- Every cycle among the schemas that are reached goes down into the value, and none goes through a
schema that may run a part on another value. -/
structure IsGuarded (environment : Environment) (schema : Schema) : Prop where
  descends : schema.Everywhere environment fun target =>
    ¬TransGen (Passes environment) target target
  renews : schema.Everywhere environment fun target => target.form.renews = true →
    ¬TransGen (Uses environment) target target

/-- Schemas are guarded where none runs a part on another value and a rank decreases whenever a value
is passed on. -/
theorem IsGuarded.of_rank (rank : Schema → Nat)
    (decreases : schema.Everywhere environment fun outer =>
      ∀ inner, outer.Passes environment inner → rank inner < rank outer)
    (keeps : schema.Everywhere environment fun target => target.form.renews = false) :
    schema.IsGuarded environment where
  descends := by
    intro target reaches cycle
    have lower {last : Schema} (path : TransGen (Passes environment) target last) :
        schema.Reaches environment last ∧ rank last < rank target := by
      have onward {outer inner : Schema} (reached : schema.Reaches environment outer)
          (passes : outer.Passes environment inner) : schema.Reaches environment inner :=
        reaches_iff.mpr ((reaches_iff.mp reached).tail passes.2)
      induction path with
      | single passes => exact ⟨onward reaches passes, decreases target reaches _ passes⟩
      | tail _ passes ih =>
          exact ⟨onward ih.1 passes, Nat.lt_trans (decreases _ ih.1 _ passes) ih.2⟩
    exact Nat.lt_irrefl _ (lower cycle).2
  renews := by
    intro target reaches renews
    simp [keeps target reaches] at renews

/-- A schema comes after another one that may run a part on another value. -/
def Renews (environment : Environment) (schema next : Schema) : Prop :=
  ∃ source, ReflTransGen (Uses environment) schema source ∧ source.form.renews = true ∧
    TransGen (Uses environment) source next

theorem Renews.trans {middle last : Schema} (first : schema.Renews environment middle)
    (second : middle.Renews environment last) : schema.Renews environment last := by
  obtain ⟨source, before, renews, between⟩ := first
  obtain ⟨later, further, -, after⟩ := second
  exact ⟨source, before, renews, (between.trans_left further).trans after⟩

/-- What holds of every guarded schema on every value: what follows for a schema and a value from
its uses, on any value where the schema may run a part on another one, on smaller values where it
goes down, and on the same value otherwise. The induction is on what comes after schemas of the first
kind, then on the size of the value, then on what is passed the same value. -/
theorem IsGuarded.induction (holds : Schema → Value → Prop)
    (each : ∀ target, schema.Reaches environment target → ∀ input,
      (∀ next value, target.Uses environment next → target.form.Hands input value →
        holds next value) → holds target input)
    (guarded : schema.IsGuarded environment) (input : Value) : holds schema input := by
  have finite := finite_reaches environment schema
  have onward {first second : Schema} (reaches : schema.Reaches environment first)
      (path : ReflTransGen (Uses environment) first second) : schema.Reaches environment second :=
    reaches_iff.mpr ((reaches_iff.mp reaches).trans path)
  refine induction_of_acyclic (Renews environment) (fun target => ∀ value, holds target value)
    finite ?_ ?_ ?_ (.self schema) input
  · rintro target reaches next ⟨source, before, -, after⟩
    exact onward reaches (before.trans after.to_reflTransGen)
  · intro target reaches cycle
    have : IsTrans Schema (Renews environment) := ⟨fun _ _ _ => Renews.trans⟩
    rw [Relation.transGen_eq_self] at cycle
    obtain ⟨source, before, renews, after⟩ := cycle
    exact guarded.renews source (onward reaches before) renews (after.trans_left before)
  · intro start reaches renewed
    -- What is used from here on, on ever smaller values, is still before those schemas.
    have inside (value : Value) : ∀ target, ReflTransGen (Uses environment) start target →
        holds target value := by
      generalize size : sizeOf value = bound
      induction bound using Nat.strong_induction_on generalizing value with
      | _ bound smaller =>
          intro target path
          have below : {other | ReflTransGen (Uses environment) start other}.Finite :=
            finite.subset fun _ further => onward reaches further
          refine induction_of_acyclic (Passes environment) (fun target => holds target value) below
            ?_ ?_ ?_ path
          · rintro outer further next ⟨-, uses⟩
            exact further.tail uses
          · exact fun outer further => guarded.descends outer (onward reaches further)
          · intro outer further passed
            refine each outer (onward reaches further) value fun next other uses hands => ?_
            unfold Form.Hands at hands
            split at hands
            · rename_i renews
              exact renewed next ⟨outer, further, renews, .single uses⟩ other
            · split at hands
              · exact smaller (sizeOf other) (size ▸ hands) other rfl next (further.tail uses)
              · rename_i passes
                rw [hands]
                exact passed next ⟨by simpa using passes, uses⟩
    exact fun value => inside value start .refl

end Schema
end TypedTables
