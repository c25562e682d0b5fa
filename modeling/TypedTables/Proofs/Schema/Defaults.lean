import TypedTables.FieldType.Lowering
import TypedTables.Proofs.Schema.Wraps

/-!
# The way to a default

The default of a field is looked for where the type of the field itself is made: in the schema of the
field, in the schemas that it wraps, one after another, and in what lazy schemas stand for unless that
is being lowered. It is the first one found there that is not to be computed. The way to it passes
schemas that are around it, and options of unions that come before it.
-/

namespace TypedTables

/-- The value that the form has for an absent one, unless that is to be computed. -/
def Form.staticDefault? : Form Schema → Option Value
  | .default _ value => if value.isCallable || value.isUndefined then none else some value
  | _ => none

theorem Form.staticDefault?_eq_some {form : Form Schema} {value : Value}
    (static : form.staticDefault? = some value) :
    ∃ inner, form = .default inner value ∧ value.isCallable = false ∧ value.isUndefined = false := by
  unfold staticDefault? at static
  split at static
  · rename_i inner own
    split at static
    · cases static
    · rename_i given
      cases static
      exact ⟨inner, rfl, by simpa using given⟩
  · cases static

/-- No default is found in a schema that is lowered below some ancestors. -/
inductive Schema.Bare (environment : Environment) : List Ancestor → Schema → Prop
  | intro {ancestors : List Ancestor} {schema : Schema}
      (none : schema.form.staticDefault? = none)
      (wrapped : ∀ inner ∈ schema.form.wrapped,
        Bare environment (schema.identity :: ancestors) inner)
      (resolved : ∀ target resolved, schema.form = .lazily target →
        environment.resolve target = .ok resolved →
          (LoweringState.ofField (schema.identity :: ancestors)).isOpen resolved = false →
            Bare environment (schema.identity :: ancestors) resolved) :
      Bare environment ancestors schema

/-- A schema that is lowered below some ancestors leads to the default of its field, through the
schemas around the default and past the options before it. -/
inductive Schema.LeadsTo (environment : Environment) (value : Value) :
    List Ancestor → Schema → List Schema → List Schema → Prop
  | here {ancestors : List Ancestor} {schema : Schema}
      (static : schema.form.staticDefault? = some value) :
      LeadsTo environment value ancestors schema [schema] []
  | wrapped {ancestors : List Ancestor} {schema inner : Schema}
      {earlier later around before : List Schema} (none : schema.form.staticDefault? = none)
      (parts : schema.form.wrapped = earlier ++ inner :: later)
      (bare : ∀ option ∈ earlier, option.Bare environment (schema.identity :: ancestors))
      (further : LeadsTo environment value (schema.identity :: ancestors) inner around before) :
      LeadsTo environment value ancestors schema (schema :: around) (earlier ++ before)
  | resolved {ancestors : List Ancestor} {schema resolved : Schema} {target : LazyTarget Schema}
      {around before : List Schema} (isLazy : schema.form = .lazily target)
      (resolves : environment.resolve target = .ok resolved)
      (closed : (LoweringState.ofField (schema.identity :: ancestors)).isOpen resolved = false)
      (further : LeadsTo environment value (schema.identity :: ancestors) resolved around before) :
      LeadsTo environment value ancestors schema (schema :: around) before

namespace Schema

variable {environment : Environment} {ancestors : List Ancestor} {schema : Schema} {value : Value}

theorem Bare.of_leaf (none : schema.form.staticDefault? = none) (leaf : schema.form.wrapped = [])
    (eager : ∀ target, schema.form ≠ .lazily target) : schema.Bare environment ancestors := by
  refine .intro none (fun inner member => ?_) fun target _ isLazy _ _ => absurd isLazy (eager target)
  rw [leaf] at member
  cases member

theorem Bare.of_resolved {target : LazyTarget Schema} (isLazy : schema.form = .lazily target)
    (bare : ∀ resolved, environment.resolve target = .ok resolved →
      (LoweringState.ofField (schema.identity :: ancestors)).isOpen resolved = false →
        resolved.Bare environment (schema.identity :: ancestors)) :
    schema.Bare environment ancestors := by
  refine .intro (by rw [isLazy]; rfl) (fun inner member => ?_) fun other resolved isLazyAlso => ?_
  · rw [isLazy] at member
    cases member
  · cases isLazy.symm.trans isLazyAlso
    exact bare resolved

namespace LeadsTo

variable {around before : List Schema}

theorem not_bare (leads : schema.LeadsTo environment value ancestors around before) :
    ¬schema.Bare environment ancestors := by
  induction leads with
  | here static =>
      rintro ⟨none, -, -⟩
      cases none.symm.trans static
  | wrapped none parts bare further ih =>
      rintro ⟨-, wrapped, -⟩
      exact ih (wrapped _ (by simp [parts]))
  | resolved isLazy resolves closed further ih =>
      rintro ⟨-, -, resolved⟩
      exact ih (resolved _ _ isLazy resolves closed)

theorem isUndefined_eq_false (leads : schema.LeadsTo environment value ancestors around before) :
    value.isUndefined = false := by
  induction leads with
  | here static =>
      obtain ⟨-, -, -, present⟩ := Form.staticDefault?_eq_some static
      exact present
  | wrapped _ _ _ _ ih => exact ih
  | resolved _ _ _ _ ih => exact ih

theorem split_unique {first second : Schema} {earlier later others rest : List Schema}
    (same : earlier ++ first :: later = others ++ second :: rest)
    (bare : ∀ option ∈ earlier, option.Bare environment ancestors)
    (bareOthers : ∀ option ∈ others, option.Bare environment ancestors)
    (found : ¬first.Bare environment ancestors) (foundOther : ¬second.Bare environment ancestors) :
    earlier = others ∧ first = second := by
  induction earlier generalizing others with
  | nil =>
      cases others with
      | nil => exact ⟨rfl, (List.cons.inj same).1⟩
      | cons other more =>
          obtain ⟨rfl, -⟩ := List.cons.inj same
          exact absurd (bareOthers first (by simp)) found
  | cons option more ih =>
      cases others with
      | nil =>
          obtain ⟨rfl, -⟩ := List.cons.inj same
          exact absurd (bare option (by simp)) foundOther
      | cons other most =>
          obtain ⟨rfl, tails⟩ := List.cons.inj same
          obtain ⟨rfl, equal⟩ := ih tails (fun option member => bare option (by simp [member]))
            fun option member => bareOthers option (by simp [member])
          exact ⟨rfl, equal⟩

/-- There is one default at most that a schema leads to, and one way to it. -/
theorem unique {other : Value} {surrounding preceding : List Schema}
    (leads : schema.LeadsTo environment value ancestors around before)
    (leadsAlso : schema.LeadsTo environment other ancestors surrounding preceding) :
    value = other ∧ around = surrounding ∧ before = preceding := by
  induction leads generalizing surrounding preceding with
  | here static =>
      cases leadsAlso with
      | here staticAlso => exact ⟨Option.some.inj (static.symm.trans staticAlso), rfl, rfl⟩
      | wrapped none parts bare further => cases none.symm.trans static
      | resolved isLazy resolves closed further =>
          rw [isLazy] at static
          cases static
  | wrapped none parts bare further ih =>
      cases leadsAlso with
      | here staticAlso => cases none.symm.trans staticAlso
      | wrapped noneAlso partsAlso bareAlso furtherAlso =>
          obtain ⟨rfl, rfl⟩ := split_unique (parts.symm.trans partsAlso) bare bareAlso
            further.not_bare furtherAlso.not_bare
          obtain ⟨rfl, rfl, rfl⟩ := ih furtherAlso
          exact ⟨rfl, rfl, rfl⟩
      | resolved isLazy resolves closed furtherAlso =>
          rw [isLazy] at parts
          cases List.append_eq_nil_iff.mp parts.symm |>.2
  | resolved isLazy resolves closed further ih =>
      cases leadsAlso with
      | here staticAlso =>
          rw [isLazy] at staticAlso
          cases staticAlso
      | wrapped noneAlso partsAlso bareAlso furtherAlso =>
          rw [isLazy] at partsAlso
          cases List.append_eq_nil_iff.mp partsAlso.symm |>.2
      | resolved isLazyAlso resolvesAlso closedAlso furtherAlso =>
          cases isLazy.symm.trans isLazyAlso
          cases resolves.symm.trans resolvesAlso
          obtain ⟨rfl, rfl, rfl⟩ := ih furtherAlso
          exact ⟨rfl, rfl, rfl⟩

end LeadsTo

/-- What is found in a schema that is lowered below some ancestors: nothing, or the default that the
schema leads to. -/
def Finds (environment : Environment) (ancestors : List Ancestor) (schema : Schema)
    (default : Value) : Prop :=
  default = .undefined ∧ schema.Bare environment ancestors ∨
    ∃ around before, schema.LeadsTo environment default ancestors around before

/-- What is found in schemas that are lowered one after another: nothing, or the default that the
first of them leads to that is not bare. -/
def FindsAmong (environment : Environment) (ancestors : List Ancestor) (schemas : List Schema)
    (default : Value) : Prop :=
  default = .undefined ∧ (∀ schema ∈ schemas, schema.Bare environment ancestors) ∨
    ∃ earlier schema later around before, schemas = earlier ++ schema :: later ∧
      (∀ option ∈ earlier, option.Bare environment ancestors) ∧
        schema.LeadsTo environment default ancestors around before

theorem Finds.among (finds : schema.Finds environment ancestors value) :
    FindsAmong environment ancestors [schema] value := by
  rcases finds with ⟨absent, bare⟩ | ⟨around, before, leads⟩
  · exact Or.inl ⟨absent, by simpa using bare⟩
  · exact Or.inr ⟨[], schema, [], around, before, rfl, by simp, leads⟩

theorem FindsAmong.cons {schemas : List Schema} (bare : schema.Bare environment ancestors)
    (finds : FindsAmong environment ancestors schemas value) :
    FindsAmong environment ancestors (schema :: schemas) value := by
  rcases finds with ⟨absent, others⟩ | ⟨earlier, found, later, around, before, rfl, others, leads⟩
  · exact Or.inl ⟨absent, List.forall_mem_cons.mpr ⟨bare, others⟩⟩
  · exact Or.inr ⟨schema :: earlier, found, later, around, before, rfl,
      List.forall_mem_cons.mpr ⟨bare, others⟩, leads⟩

theorem finds_of_wrapped (none : schema.form.staticDefault? = none)
    (eager : ∀ target, schema.form ≠ .lazily target)
    (finds : FindsAmong environment (schema.identity :: ancestors) schema.form.wrapped value) :
    schema.Finds environment ancestors value := by
  rcases finds with ⟨absent, bare⟩ | ⟨earlier, inner, later, around, before, parts, bare, leads⟩
  · exact Or.inl ⟨absent, .intro none bare fun target _ isLazy => absurd isLazy (eager target)⟩
  · exact Or.inr ⟨_, _, .wrapped none parts bare leads⟩

theorem Finds.resolved {resolved : Schema} {target : LazyTarget Schema}
    (isLazy : schema.form = .lazily target) (resolves : environment.resolve target = .ok resolved)
    (closed : (LoweringState.ofField (schema.identity :: ancestors)).isOpen resolved = false)
    (finds : resolved.Finds environment (schema.identity :: ancestors) value) :
    schema.Finds environment ancestors value := by
  rcases finds with ⟨absent, bare⟩ | ⟨around, before, leads⟩
  · refine Or.inl ⟨absent, .of_resolved isLazy fun other resolvesAlso _ => ?_⟩
    cases resolves.symm.trans resolvesAlso
    exact bare
  · exact Or.inr ⟨_, _, .resolved isLazy resolves closed leads⟩

end Schema
end TypedTables
