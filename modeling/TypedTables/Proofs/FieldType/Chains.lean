import TypedTables.Proofs.FieldType.Watching

/-!
# Chains of schemas

A chain goes from a schema to what is lowered inside of it. A bound on the chains that start at a
schema bounds the schemas that are lowered one inside another, and the fields one below another.
Where definitions have identities, a schema whose chains are bounded at all is lowered within its
own budget: each definition is on a chain once, and between definitions heights decrease.
-/

namespace TypedTables

/-- Every chain that starts at a schema below some ancestors ends after so many schemas, at one
that is its own ancestor, leads no further, or cannot be resolved. -/
def Schema.EndsWithin (environment : Environment) : Nat → List Ancestor → Schema → Prop
  | 0, _, _ => False
  | length + 1, ancestors, schema =>
      (LoweringState.ofField ancestors).isOpen schema = true ∨
        (∀ part ∈ schema.form.lowered,
          EndsWithin environment length (schema.identity :: ancestors) part) ∧
        ∀ target, schema.form = .lazily target →
          EndsIn (· ≠ .tooDeep)
            (fun other =>
              (LoweringState.ofField (schema.identity :: ancestors)).isOpen other = true ∨
                EndsWithin environment length (schema.identity :: ancestors) other)
            (environment.resolve target)

namespace Schema.EndsWithin

variable {environment : Environment} {length more : Nat} {ancestors : List Ancestor}
  {schema other : Schema} {target : LazyTarget Schema}

theorem part (ends : schema.EndsWithin environment (length + 1) ancestors)
    (isNew : (LoweringState.ofField ancestors).isOpen schema = false)
    (member : other ∈ schema.form.lowered) :
    other.EndsWithin environment length (schema.identity :: ancestors) := by
  rcases ends with isOpen | ⟨parts, -⟩
  · simp [isNew] at isOpen
  · exact parts other member

theorem resolved (ends : schema.EndsWithin environment (length + 1) ancestors)
    (isNew : (LoweringState.ofField ancestors).isOpen schema = false)
    (isLazy : schema.form = .lazily target) (resolves : environment.resolve target = .ok other)
    (isNewOther : (LoweringState.ofField (schema.identity :: ancestors)).isOpen other = false) :
    other.EndsWithin environment length (schema.identity :: ancestors) := by
  rcases ends with isOpen | ⟨-, targets⟩
  · simp [isNew] at isOpen
  · have found := targets target isLazy
    rw [resolves] at found
    rcases found with isOpen | further
    · simp [isNewOther] at isOpen
    · exact further

theorem unresolved (ends : schema.EndsWithin environment (length + 1) ancestors)
    (isNew : (LoweringState.ofField ancestors).isOpen schema = false)
    (isLazy : schema.form = .lazily target) {cause : Fault}
    (fails : environment.resolve target = .error cause) : cause ≠ .tooDeep := by
  rcases ends with isOpen | ⟨-, targets⟩
  · simp [isNew] at isOpen
  · have found := targets target isLazy
    rw [fails] at found
    exact found

theorem mono (ends : schema.EndsWithin environment length ancestors) (fewer : length ≤ more) :
    schema.EndsWithin environment more ancestors := by
  induction length generalizing ancestors schema more with
  | zero => exact ends.elim
  | succ length ih =>
      obtain ⟨rest, rfl⟩ : ∃ rest, more = rest + 1 := ⟨more - 1, by omega⟩
      rcases ends with isOpen | ⟨parts, targets⟩
      · exact Or.inl isOpen
      · refine Or.inr ⟨fun part member => ih (parts part member) (by omega), ?_⟩
        intro target isLazy
        exact (targets target isLazy).mono (fun _ => id) fun other found =>
          found.imp_right fun further => ih further (by omega)

/-- Budgets that suffice for the chains of a schema make no difference. -/
theorem agreeBelow_run (ends : schema.EndsWithin environment length ancestors)
    (fewer : length ≤ more) (openTables : List String) :
    Lowering.AgreeBelow ancestors (Lowering.run length ⟨environment, openTables⟩ schema)
      (Lowering.run more ⟨environment, openTables⟩ schema) := by
  induction length generalizing ancestors schema more openTables with
  | zero => exact ends.elim
  | succ length ih =>
      obtain ⟨rest, rfl⟩ : ∃ rest, more = rest + 1 := ⟨more - 1, by omega⟩
      refine .get fun state below => ?_
      rw [LoweringState.isOpen_eq below]
      split
      · exact .of_step (.throw trivial)
      · rename_i notOpen
        have isNew : (LoweringState.ofField ancestors).isOpen schema = false := by
          simpa using notOpen
        refine .inside (.form ?_ ?_)
        · exact fun part member tables => ih (ends.part isNew member) (by omega) tables
        · intro target other isLazy resolves isNewOther
          exact ih (ends.resolved isNew isLazy resolves isNewOther) (by omega) openTables

theorem of_leaf (isLeaf : schema.form.lowered = []) (eager : ∀ target, schema.form ≠ .lazily target)
    (isSome : 0 < length) : schema.EndsWithin environment length ancestors := by
  obtain ⟨rest, rfl⟩ : ∃ rest, length = rest + 1 := ⟨length - 1, by omega⟩
  refine Or.inr ⟨fun part member => ?_, fun target isLazy => absurd isLazy (eager target)⟩
  rw [isLeaf] at member
  cases member

end Schema.EndsWithin

/-- What cannot be resolved fails by running too deep only where it cannot be built for that. -/
theorem Environment.ne_tooDeep_of_unresolved {environment : Environment}
    {target : LazyTarget Schema} {cause : Fault} (fails : environment.resolve target = .error cause)
    (builds : target ≠ .unbuildable .tooDeep) : cause ≠ .tooDeep := by
  rintro rfl
  cases target with
  | table name =>
      simp only [resolve] at fails
      split at fails
      · cases fails
      · rename_i registry found
        cases got : registry.get name with
        | ok table => simp [got, Except.map] at fails
        | error cause =>
            unfold Registry.get at got
            split at got <;> cases got
            simp [Registry.get, *, Except.map] at fails
  | definition name =>
      simp only [resolve] at fails
      split at fails <;> cases fails
  | template built => cases fails
  | unbuildable cause =>
      cases fails
      exact builds rfl

theorem Environment.resolved_cases {environment : Environment} {target : LazyTarget Schema}
    {schema : Schema} (resolves : environment.resolve target = .ok schema) :
    (∃ table : TableSchema, schema = table.toSchema) ∨
      schema ∈ environment.definitions.map Prod.snd ∨ target = .template schema := by
  cases target with
  | table name =>
      simp only [resolve] at resolves
      split at resolves
      · cases resolves
      · obtain ⟨table, -, rfl⟩ := (except_map_eq_ok_iff _ _ _).mp resolves
        exact Or.inl ⟨table, rfl⟩
  | definition name =>
      simp only [resolve] at resolves
      split at resolves
      · rename_i found
        cases resolves
        obtain ⟨before, after, equal, -⟩ := List.lookup_eq_some_iff.mp found
        exact Or.inr (Or.inl (by simp [equal]))
      · cases resolves
  | template built =>
      cases resolves
      exact Or.inr (Or.inr rfl)
  | unbuildable cause => cases resolves

def Environment.IsIdentified (environment : Environment) : Prop :=
  ∀ schema ∈ environment.definitions.map Prod.snd, ∃ identity, schema.identity = some identity

namespace Schema

variable {ancestors : List Ancestor} {schema : Schema}

theorem isOpen_cons_of_isOpen (newest : Ancestor)
    (isOpen : (LoweringState.ofField ancestors).isOpen schema = true) :
    (LoweringState.ofField (newest :: ancestors)).isOpen schema = true := by
  obtain ⟨own, identity, member⟩ := isOpen_iff.mp isOpen
  exact isOpen_iff.mpr ⟨own, identity, List.mem_cons_of_mem newest member⟩

theorem isOpen_cons_self {own : Nat} (identity : schema.identity = some own) :
    (LoweringState.ofField (schema.identity :: ancestors)).isOpen schema = true :=
  isOpen_iff.mpr ⟨own, identity, by simp [identity]⟩

def heightBelow (ancestors : List Ancestor) (schema : Schema) : Nat :=
  if (LoweringState.ofField ancestors).isOpen schema then 0 else schema.height

theorem heightBelow_le (ancestors : List Ancestor) (schema : Schema) :
    schema.heightBelow ancestors ≤ schema.height := by
  unfold heightBelow
  split <;> simp

theorem heightBelow_cons_le (newest : Ancestor) (ancestors : List Ancestor) (schema : Schema) :
    schema.heightBelow (newest :: ancestors) ≤ schema.heightBelow ancestors := by
  unfold heightBelow
  cases isOpen : (LoweringState.ofField ancestors).isOpen schema with
  | true => simp [isOpen_cons_of_isOpen newest isOpen]
  | false => split <;> simp

end Schema

def remainingHeight (ancestors : List Ancestor) (definitions : List (String × Schema)) : Nat :=
  (definitions.map fun definition => definition.2.heightBelow ancestors).foldr (· + ·) 0

@[simp] theorem remainingHeight_cons (ancestors : List Ancestor) (definition : String × Schema)
    (definitions : List (String × Schema)) :
    remainingHeight ancestors (definition :: definitions) =
      definition.2.heightBelow ancestors + remainingHeight ancestors definitions := rfl

theorem remainingHeight_le (ancestors : List Ancestor) (definitions : List (String × Schema)) :
    remainingHeight ancestors definitions ≤
      (definitions.map fun definition => definition.2.height).foldr (· + ·) 0 := by
  induction definitions with
  | nil => exact Nat.le_refl _
  | cons definition rest ih => exact Nat.add_le_add (definition.2.heightBelow_le ancestors) ih

theorem remainingHeight_cons_le (newest : Ancestor) (ancestors : List Ancestor)
    (definitions : List (String × Schema)) :
    remainingHeight (newest :: ancestors) definitions ≤ remainingHeight ancestors definitions := by
  induction definitions with
  | nil => exact Nat.le_refl _
  | cons definition rest ih =>
      exact Nat.add_le_add (definition.2.heightBelow_cons_le newest ancestors) ih

theorem remainingHeight_cons_add_height_le {ancestors : List Ancestor}
    {definitions : List (String × Schema)} {schema : Schema}
    (member : schema ∈ definitions.map Prod.snd) {own : Nat} (identity : schema.identity = some own)
    (isNew : (LoweringState.ofField ancestors).isOpen schema = false) :
    remainingHeight (schema.identity :: ancestors) definitions + schema.height ≤
      remainingHeight ancestors definitions := by
  induction definitions with
  | nil => cases member
  | cons first rest ih =>
      rw [remainingHeight_cons, remainingHeight_cons]
      rcases List.mem_cons.mp member with rfl | later
      · have less := remainingHeight_cons_le first.2.identity ancestors rest
        have now : first.2.heightBelow (first.2.identity :: ancestors) = 0 := by
          simp [Schema.heightBelow, Schema.isOpen_cons_self identity]
        have before : first.2.heightBelow ancestors = first.2.height := by
          simp [Schema.heightBelow, isNew]
        omega
      · have less := ih later
        have head := first.2.heightBelow_cons_le schema.identity ancestors
        omega

/-- A schema whose chains are bounded has no chain that is longer than its height together with
what remains of the definitions. -/
theorem Schema.EndsWithin.of_height {environment : Environment} {length more : Nat}
    {ancestors : List Ancestor} {schema : Schema} (identified : environment.IsIdentified)
    (ends : schema.EndsWithin environment length ancestors)
    (enough : schema.height +
      remainingHeight (schema.identity :: ancestors) environment.definitions < more) :
    schema.EndsWithin environment more ancestors := by
  induction more generalizing length ancestors schema with
  | zero => omega
  | succ more ih =>
      cases length with
      | zero => exact ends.elim
      | succ length =>
          have isHigh := schema.height_pos
          -- Anything less high fits, as no definition more remains below it.
          have fits {inner : Schema} (lower : inner.height < schema.height)
              (further : inner.EndsWithin environment length (schema.identity :: ancestors)) :
              inner.EndsWithin environment more (schema.identity :: ancestors) := by
            have less := remainingHeight_cons_le inner.identity (schema.identity :: ancestors)
              environment.definitions
            exact ih further (by omega)
          rcases ends with isOpen | ⟨parts, targets⟩
          · exact Or.inl isOpen
          refine Or.inr ⟨fun part member =>
            fits (height_lt_of_mem_lowered member) (parts part member), ?_⟩
          intro target isLazy
          have found := targets target isLazy
          cases resolves : environment.resolve target with
          | error cause =>
              rw [resolves] at found
              exact found
          | ok other =>
              rw [resolves] at found
              refine found.elim Or.inl fun further => ?_
              rcases Environment.resolved_cases resolves with ⟨table, rfl⟩ | isDefinition | rfl
              · exact Or.inr (of_leaf rfl (by intro; simp [TableSchema.toSchema]) (by omega))
              · cases isOpen :
                    (LoweringState.ofField (schema.identity :: ancestors)).isOpen other with
                | true => exact Or.inl isOpen
                | false =>
                    obtain ⟨own, identity⟩ := identified other isDefinition
                    have less := remainingHeight_cons_add_height_le isDefinition identity isOpen
                    exact Or.inr (ih further (by omega))
              · exact Or.inr (fits (height_lt_of_template isLazy) further)

theorem Schema.EndsWithin.within_budget {environment : Environment} {length : Nat}
    {ancestors : List Ancestor} {schema : Schema} (identified : environment.IsIdentified)
    (ends : schema.EndsWithin environment length ancestors) :
    schema.EndsWithin environment (environment.budget schema) ancestors := by
  refine ends.of_height identified ?_
  have less := remainingHeight_le (schema.identity :: ancestors) environment.definitions
  unfold Environment.budget Environment.height
  omega

/-- A schema whose chains are bounded is lowered within its own budget, and the chains of the
fields that it leaves are shorter. -/
theorem Schema.EndsWithin.endsIn_lowered {environment : Environment} {length : Nat}
    {ancestors : List Ancestor} {schema : Schema} (identified : environment.IsIdentified)
    (ends : schema.EndsWithin environment length ancestors) (openTables : List String) :
    EndsIn (· ≠ .tooDeep)
      (fun field => ∀ child ∈ field.children,
        ∃ shorter < length, child.schema.EndsWithin environment shorter child.ancestors)
      (schema.lowered ⟨environment, openTables⟩ ancestors).outcome := by
  have abides : Lowering.Abides
      (.untyped (· ≠ .tooDeep) fun child =>
        ∃ shorter < length, child.schema.EndsWithin environment shorter child.ancestors)
      ancestors Lowering.anyResult (Lowering.enter ⟨environment, openTables⟩ schema) := by
    refine Lowering.abides_run
      (fun budget inner other => other.EndsWithin environment budget inner ∧
        ∃ shorter ≤ length, other.EndsWithin environment shorter inner)
      (.of_isOfForm ?_) LoweringTerms.allowsAtoms_untyped ?_ ?_ ?_ ?_ ?_
      ⟨ends.within_budget identified, length, Nat.le_refl _, ends⟩ openTables
    · rintro cause isOfForm rfl
      exact isOfForm
    · exact fun _ _ held => held.1.elim
    · rintro budget inner other - - ⟨⟩
    · rintro budget inner other ⟨within, shorter, fewer, also⟩ isNew part member
      cases shorter with
      | zero => exact also.elim
      | succ shorter =>
          have below := also.part isNew member
          exact ⟨⟨within.part isNew member, shorter, by omega, below⟩,
            fun _ => ⟨shorter, by omega, below⟩⟩
    · rintro budget inner other ⟨within, -⟩ isNew target cause isLazy fails
      exact within.unresolved isNew isLazy fails
    · rintro budget inner other ⟨within, shorter, fewer, also⟩ isNew target next isLazy resolves
        isNewNext
      cases shorter with
      | zero => exact also.elim
      | succ shorter =>
          exact ⟨within.resolved isNew isLazy resolves isNewNext, shorter, by omega,
            also.resolved isNew isLazy resolves isNewNext⟩
  exact (Schema.endsIn_lowered abides).mono (fun _ => id) fun _ kept => kept.2

end TypedTables
