import TypedTables.Proofs.FieldType.Steps
import TypedTables.Proofs.Schema.Wraps
import TypedTables.Proofs.Validation.Accepted
import TypedTables.Proofs.Value.Freezing

/-!
# Validation and lowering agree

What a schema accepts is permitted by the type that the schema is lowered to. Both recursions go
through the forms of schemas, the one over values and the other over the type of a context. Form by
form, the step of lowering covers what the form accepts when the steps for its parts do.

A literal stands for the values that schemas list. A schema that makes a value unchangeable turns a
listed list into a tuple, which is written like the list but does not equal it; so the tuple counts
as listed there as well.
-/

namespace TypedTables

/-! ## Listed values -/

namespace Form

/-- The parts whose accepted values a form accepts itself. -/
def carried : Form Schema → List Schema
  | .optional inner | .nullable inner | .nonoptional inner | .prefault inner _
  | .readonly inner => [inner]
  | .union options => options
  | _ => []

/-- The form brings no values but those of the type it is lowered to. Substituted values, values
that are mapped to others, and closed tuples may lie outside of it. -/
def IsDirect : Form Schema → Prop
  | .default .. | .fallback .. | .transform _ | .pipe .. => False
  | .tuple _ rest => rest.isSome = true
  | _ => True

end Form

/-- A value that literals of the type of a schema stand for: a value that the schema lists or
carries, or the unchangeable form of a list among them. -/
inductive Schema.Offers (environment : Environment) : Schema → Value → Prop
  | listed {schema : Schema} {value : Value} (member : value ∈ schema.form.listed) :
      Offers environment schema value
  | carried {schema part : Schema} {value : Value} (member : part ∈ schema.form.carried)
      (further : Offers environment part value) : Offers environment schema value
  | resolved {schema resolved : Schema} {target : LazyTarget Schema} {value : Value}
      (isLazy : schema.form = .lazily target) (resolves : environment.resolve target = .ok resolved)
      (further : Offers environment resolved value) : Offers environment schema value
  | frozen {schema inner : Schema} {items : List Value} (isReadonly : schema.form = .readonly inner)
      (further : Offers environment inner (.list items)) : Offers environment schema (.tuple items)

/-- A value that some schema offers that is reached. -/
def Schema.Lists (environment : Environment) (schema : Schema) (value : Value) : Prop :=
  ∃ target, schema.Reaches environment target ∧ target.Offers environment value

namespace Schema

variable {environment : Environment} {schema : Schema} {value : Value}

theorem lists_of_offers (offers : schema.Offers environment value) :
    schema.Lists environment value :=
  ⟨schema, .self schema, offers⟩

theorem lists_of_part {part : Schema} (member : part ∈ schema.form.parts)
    (lists : part.Lists environment value) : schema.Lists environment value := by
  obtain ⟨target, reaches, offers⟩ := lists
  exact ⟨target, .part member reaches, offers⟩

theorem lists_of_resolved {resolved : Schema} {target : LazyTarget Schema}
    (isLazy : schema.form = .lazily target) (resolves : environment.resolve target = .ok resolved)
    (lists : resolved.Lists environment value) : schema.Lists environment value := by
  obtain ⟨further, reaches, offers⟩ := lists
  exact ⟨further, .resolved isLazy resolves reaches, offers⟩

end Schema

/-- The environment without its tables: what lazy schemas stand for by name or by template. -/
def Environment.withoutTables (environment : Environment) : Environment :=
  { environment with registry := none }

theorem Environment.resolve_withoutTables {environment : Environment}
    {target : LazyTarget Schema} {resolved : Schema}
    (resolves : environment.resolve target = .ok resolved) (noTable : resolved.table? = none) :
    environment.withoutTables.resolve target = .ok resolved := by
  cases target with
  | table name =>
      unfold resolve at resolves
      cases found : environment.registry with
      | none => simp [found] at resolves
      | some registry =>
          rw [found] at resolves
          obtain ⟨table, -, rfl⟩ := (except_map_eq_ok_iff _ _ _).mp resolves
          cases noTable
  | _ => exact resolves

/-! ## Unchangeable values -/

namespace Value

theorem literal_tuple (items : List Value) : (tuple items).literal = (list items).literal := by
  simp only [literal, isNull, Written.write]

/-- Making a value unchangeable keeps it equal to what it equals, but for a list, which becomes a
tuple. -/
theorem equalsListed_freeze {own frozen : Value → Prop} {value written : Value}
    (larger : ∀ expected, own expected → frozen expected)
    (tuples : ∀ items, own (.list items) → frozen (.tuple items))
    (equalsListed : value.EqualsListed own written) :
    (Wrapper.freeze value).EqualsListed frozen written := by
  obtain ⟨expected, isOwn, ⟨text, writes, writesText⟩, same⟩ := equalsListed
  cases value with
  | list items =>
      obtain ⟨others, rfl⟩ := exists_list_of_sameLiteral same
      rw [← literal_tuple] at writes
      refine ⟨.tuple others, tuples others isOwn, ⟨text, writes, writesText⟩, ?_⟩
      simpa [sameLiteral, equals, isBoolean, Wrapper.freeze] using same
  | mapping entries =>
      refine ⟨expected, larger expected isOwn, ⟨text, writes, writesText⟩, ?_⟩
      rw [Wrapper.freeze, sameLiteral_frozenMapping]
      exact same
  | set members =>
      refine ⟨expected, larger expected isOwn, ⟨text, writes, writesText⟩, ?_⟩
      rw [Wrapper.freeze, sameLiteral_frozenSet]
      exact same
  | _ => exact ⟨expected, larger expected isOwn, ⟨text, writes, writesText⟩, same⟩

theorem elements?_freeze (value : Value) : (Wrapper.freeze value).elements? = value.elements? := by
  cases value <;> rfl

end Value

/-- What an alternative permits, it permits unchangeable as well. -/
theorem TypeAtom.admitsOf_freeze {own frozen listed : Value → Prop} {atom : TypeAtom}
    {value : Value} (larger : ∀ expected, own expected → frozen expected)
    (tuples : ∀ items, own (.list items) → frozen (.tuple items))
    (admits : atom.AdmitsOf own listed value) :
    atom.AdmitsOf frozen listed (Wrapper.freeze value) := by
  cases atom with
  | literal written => exact Value.equalsListed_freeze larger tuples admits
  | array => exact (congrArg Option.isSome (Value.elements?_freeze value)).trans admits
  | arrayOf element =>
      obtain ⟨elements, holds, each⟩ := admits
      exact ⟨elements, (Value.elements?_freeze value).trans holds, each⟩
  | datetime | uuid =>
      obtain ⟨content, rfl⟩ := admits
      exact ⟨content, rfl⟩
  | record =>
      obtain ⟨table, identifier, rfl⟩ := admits
      exact ⟨table, identifier, rfl⟩
  | recordOf tables =>
      obtain ⟨table, identifier, rfl, member⟩ := admits
      exact ⟨table, identifier, rfl, member⟩
  | _ => cases value <;> exact admits

/-! ## Forms -/

namespace Lowering

/-- A way to lower that never ends well on a table, whose fields belong to a definition of their
own. -/
def Lowerer.RefusesTables (lower : Lowerer) (scope : LoweringScope) : Prop :=
  ∀ schema table, schema.table? = some table → ∀ state final, lower scope schema state ≠ (.ok (), final)

/-- A way to lower whose steps cover what schemas accept. -/
def Lowerer.CoversDirect (lower : Lowerer) (scope : LoweringScope) : Prop :=
  ∀ schema : Schema,
    schema.Everywhere scope.environment.withoutTables (fun target => target.form.IsDirect) →
      Covers (schema.Offers scope.environment.withoutTables)
        (schema.Lists scope.environment.withoutTables) (schema.Accepts scope.environment)
        (lower scope schema)

variable {lower : Lowerer} {scope : LoweringScope} {schema : Schema}

theorem covers_ownType {own listed : Value → Prop} {form : Form Schema}
    (isLeaf : ∀ input, (Leaf.payload? form input).isSome = true)
    (isName : form.kind.ownType ∈ TypeAtom.names)
    (permits : ∀ input payload, Leaf.payload? form input = some (.ok payload) →
      payload.isClean = true → form.kind.ownType.Admits listed payload.value) :
    Covers own listed (form.Accepts scope.environment) (addAtom form.kind.ownType) := by
  refine .addName isName ?_
  intro value accepts
  obtain ⟨input, payload, brings, clean, rfl⟩ := accepts.leaf isLeaf
  exact permits input payload brings clean

theorem ofNumberFormat?_eq_some {format : Option String} {atom : TypeAtom}
    (isAtom : FieldType.ofNumberFormat? format = some atom) :
    atom = .number ∨ atom = .float ∨
      atom = .int ∧ ∃ range, format.bind Leaf.numberRange? = some range ∧ range.whole = true := by
  unfold FieldType.ofNumberFormat? at isAtom
  split at isAtom
  · exact Or.inl (Option.some.inj isAtom).symm
  · exact Or.inr (Or.inr ⟨(Option.some.inj isAtom).symm, _, rfl, rfl⟩)
  · exact Or.inr (Or.inr ⟨(Option.some.inj isAtom).symm, _, rfl, rfl⟩)
  · exact Or.inr (Or.inr ⟨(Option.some.inj isAtom).symm, _, rfl, rfl⟩)
  · exact Or.inr (Or.inl (Option.some.inj isAtom).symm)
  · exact Or.inr (Or.inl (Option.some.inj isAtom).symm)
  · cases isAtom

theorem covers_number {own listed : Value → Prop} {rules : NumberRules} :
    Covers own listed ((Form.number rules).Accepts scope.environment)
      (given (FieldType.ofNumeric "number" rules.format) >>= addAtom) := by
  apply Covers.given
  intro atom lowers
  have isAtom : FieldType.ofNumberFormat? rules.format = some atom := by
    unfold FieldType.ofNumeric at lowers
    rw [if_neg (by decide)] at lowers
    split at lowers
    · rename_i found
      rw [found, Except.ok.inj lowers]
    · cases lowers
  have isNumber {value : Value} (accepts : (Form.number rules).Accepts scope.environment value) :
      value.isFiniteNumber = true ∧
        ∀ range, rules.format.bind Leaf.numberRange? = some range → range.whole = true →
          Leaf.isWhole value = true := by
    obtain ⟨input, payload, brings, clean, rfl⟩ := accepts.leaf fun _ => rfl
    exact Leaf.number_clean (Option.some.inj brings) clean
  rcases ofNumberFormat?_eq_some isAtom with rfl | rfl | ⟨rfl, range, found, whole⟩
  · exact .addName (by simp [TypeAtom.names]) fun _ accepts => (isNumber accepts).1
  · exact .addName (by simp [TypeAtom.names]) fun _ accepts => (isNumber accepts).1
  · exact .addName (by simp [TypeAtom.names]) fun _ accepts =>
      (isNumber accepts).2 range found whole

theorem covers_bigint {own listed : Value → Prop} {format : Option String} :
    Covers own listed ((Form.bigint format).Accepts scope.environment)
      (given (FieldType.ofNumeric "bigint" format) >>= addAtom) := by
  apply Covers.given
  intro atom lowers
  have isInt : atom = .int := by
    unfold FieldType.ofNumeric FieldType.ofWholeFormat? at lowers
    rw [if_pos rfl] at lowers
    split at lowers
    · rename_i found
      split at found <;> cases found <;> exact (Except.ok.inj lowers).symm
    · cases lowers
  subst isInt
  refine .addName (by simp [TypeAtom.names]) fun value accepts => ?_
  obtain ⟨input, payload, brings, clean, rfl⟩ := accepts.leaf fun _ => rfl
  cases brings
  exact Leaf.bigint_clean clean

section Parts

variable {own listed : Value → Prop} {inner : Schema}

theorem covers_optional
    (covers : Covers own listed (inner.Accepts scope.environment) (lower scope inner)) :
    Covers own listed ((Form.optional inner).Accepts scope.environment)
      (form lower scope (.optional inner)) := by
  have absent : Covers own listed (fun value => value.isUndefined = true) (addAtom .none) :=
    .addName (by simp [TypeAtom.names]) fun _ isAbsent => isAbsent
  exact (covers.both absent).mono (fun _ => id) (fun _ => id) fun _ accepts => accepts.optional.symm

theorem covers_nullable
    (covers : Covers own listed (inner.Accepts scope.environment) (lower scope inner)) :
    Covers own listed ((Form.nullable inner).Accepts scope.environment)
      (form lower scope (.nullable inner)) := by
  have null : Covers own listed (fun value => value.isNull = true) (addAtom .null) :=
    .addName (by simp [TypeAtom.names]) fun _ isNull => isNull
  exact (covers.both null).mono (fun _ => id) (fun _ => id) fun _ accepts => accepts.nullable.symm

/-- A schema that must be present is lowered in a context of its own, where the alternative for
absence can be told from those that were there before. -/
theorem covers_nonoptional
    (covers : Covers own listed (inner.Accepts scope.environment) (lower scope inner)) :
    Covers own listed ((Form.nonoptional inner).Accepts scope.environment)
      (form lower scope (.nonoptional inner)) := by
  intro state final ends readable
  obtain ⟨context, middle, runs, adds⟩ := bind_eq_ok ends
  have grows := covers.grows_inFresh runs
  rw [← context_of_inFresh runs] at readable ⊢
  refine Covers.addAtoms (FieldType.isReadable_withoutAbsence grows.readable) ?_ middle final adds
    readable
  intro value accepts
  obtain ⟨present, acceptsInner⟩ := accepts.nonoptional
  exact FieldType.admitsOf_withoutAbsence grows.readable present (grows.permits value acceptsInner)

theorem covers_prefault {value : Value}
    (covers : Covers own listed (inner.Accepts scope.environment) (lower scope inner)) :
    Covers own listed ((Form.prefault inner value).Accepts scope.environment)
      (form lower scope (.prefault inner value)) := by
  refine Covers.after (.keepDefault value) fun _ _ _ _ => ?_
  exact covers.mono (fun _ => id) (fun _ => id) fun _ accepts => accepts.prefault

/-- Lowering a schema that makes values unchangeable is lowering the schema inside it. -/
theorem covers_readonly {frozen : Value → Prop}
    (larger : ∀ expected, own expected → frozen expected)
    (tuples : ∀ items, own (.list items) → frozen (.tuple items))
    (covers : Covers own listed (inner.Accepts scope.environment) (lower scope inner)) :
    Covers frozen listed ((Form.readonly inner).Accepts scope.environment)
      (form lower scope (.readonly inner)) := by
  intro state final ends readable
  have grows := covers state final ends readable
  refine ⟨grows.readable, grows.keeps, ?_⟩
  intro value accepts
  obtain ⟨thawed, acceptsInner, rfl⟩ := accepts.readonly
  obtain ⟨atom, member, admits⟩ := grows.permits thawed acceptsInner
  exact ⟨atom, member, TypeAtom.admitsOf_freeze larger tuples admits⟩

theorem covers_union {options : List Schema}
    (covers : ∀ option ∈ options,
      Covers own listed (option.Accepts scope.environment) (lower scope option)) :
    Covers own listed ((Form.union options).Accepts scope.environment)
      (form lower scope (.union options)) :=
  (Covers.forM covers).mono (fun _ => id) (fun _ => id) fun _ accepts => accepts.union

/-- What a lazy schema stands for is either a table or something that needs no registry. -/
theorem covers_lazily {target : LazyTarget Schema} (refuses : lower.RefusesTables scope)
    (covers : ∀ resolved, scope.environment.withoutTables.resolve target = .ok resolved →
      Covers own listed (resolved.Accepts scope.environment) (lower scope resolved)) :
    Covers own listed ((Form.lazily target).Accepts scope.environment)
      (form lower scope (.lazily target)) := by
  apply Covers.given
  intro resolved resolves
  have accepted : Covers own listed (resolved.Accepts scope.environment) (lower scope resolved) := by
    cases isTable : resolved.table? with
    | some table => exact .of_fault (refuses resolved table isTable)
    | none => exact covers resolved (Environment.resolve_withoutTables resolves isTable)
  refine (Covers.resolved accepted).mono (fun _ => id) (fun _ => id) ?_
  intro value accepts
  obtain ⟨other, same, acceptsOther⟩ := accepts.lazily
  rw [resolves] at same
  cases same
  exact acceptsOther

theorem covers_array {ownElement : Value → Prop} {least most : Option Value}
    (within : ∀ expected, ownElement expected → listed expected)
    (covers : Covers ownElement listed (inner.Accepts scope.environment) (lower scope inner)) :
    Covers own listed ((Form.array inner least most).Accepts scope.environment)
      (form lower scope (.array inner least most)) := by
  refine (Covers.container covers within).mono (fun _ => id) (fun _ => id) ?_
  intro value accepts
  obtain ⟨items, rfl, each⟩ := accepts.array
  exact ⟨items, rfl, each⟩

theorem covers_set {ownElement : Value → Prop} {least most : Option Value}
    (within : ∀ expected, ownElement expected → listed expected)
    (covers : Covers ownElement listed (inner.Accepts scope.environment) (lower scope inner)) :
    Covers own listed ((Form.set inner least most).Accepts scope.environment)
      (form lower scope (.set inner least most)) := by
  refine (Covers.container covers within).mono (fun _ => id) (fun _ => id) ?_
  intro value accepts
  obtain ⟨members, rfl, each⟩ := accepts.set
  exact ⟨members, rfl, each⟩

theorem covers_tuple {items : List Schema} {rest : Schema} :
    Covers own listed ((Form.tuple items (some rest)).Accepts scope.environment)
      (form lower scope (.tuple items (some rest))) := by
  refine .addName (by simp [TypeAtom.names]) fun value accepts => ?_
  obtain ⟨values, rfl⟩ := accepts.tuple
  rfl

theorem covers_object {shape : List (String × Schema)} {catchall : Option Schema} :
    Covers own listed ((Form.object shape catchall).Accepts scope.environment)
      (form lower scope (.object shape catchall)) := by
  apply Covers.before
  · refine .addName (by simp [TypeAtom.names]) fun value accepts => ?_
    obtain ⟨entries, rfl⟩ := accepts.object
    rfl
  · by_cases flexible : catchall.map Schema.kind = some .unknown
    · simp only [flexible, if_true]
      exact .bind .markFlexible fun _ => .addChildren shape
    · simp only [flexible, if_false]
      exact .addChildren shape

theorem covers_reference {tables : Option (List String)} {identifier : Schema} :
    Covers own listed ((Form.reference tables identifier).Accepts scope.environment)
      (form lower scope (.reference tables identifier)) := by
  have anyRecord : Covers own listed ((Form.reference tables identifier).Accepts scope.environment)
      (addAtom .record) := by
    refine .addName (by simp [TypeAtom.names]) fun value accepts => ?_
    obtain ⟨table, content, rfl, -⟩ := accepts.reference
    exact ⟨table, content, rfl⟩
  cases tables with
  | none => exact anyRecord
  | some names =>
      cases names with
      | nil => exact anyRecord
      | cons name rest =>
          refine .addAtom (.recordOf (by simp)) fun value accepts => ?_
          obtain ⟨table, content, rfl, permitted⟩ := accepts.reference
          exact ⟨table, content, rfl, permitted _ rfl⟩

end Parts

/-- Lowering a form covers what the form accepts, when lowering covers what its parts accept. -/
theorem covers_form (refuses : lower.RefusesTables scope) (covers : lower.CoversDirect scope)
    (direct : schema.Everywhere scope.environment.withoutTables fun target =>
      target.form.IsDirect) :
    Covers (schema.Offers scope.environment.withoutTables)
      (schema.Lists scope.environment.withoutTables) (schema.form.Accepts scope.environment)
      (form lower scope schema.form) := by
  -- A part whose values are elements of the values here, and a part whose values are the values here.
  have element {inner : Schema} (member : inner ∈ schema.form.parts) :
      Covers (inner.Offers scope.environment.withoutTables)
        (schema.Lists scope.environment.withoutTables) (inner.Accepts scope.environment)
        (lower scope inner) :=
    (covers inner (direct.part member)).mono (fun _ => id) (fun _ => Schema.lists_of_part member)
      fun _ => id
  have part {inner : Schema} (member : inner ∈ schema.form.parts)
      (carried : inner ∈ schema.form.carried) :
      Covers (schema.Offers scope.environment.withoutTables)
        (schema.Lists scope.environment.withoutTables) (inner.Accepts scope.environment)
        (lower scope inner) :=
    (element member).mono (fun _ => .carried carried) (fun _ => id) fun _ => id
  have within {inner : Schema} (member : inner ∈ schema.form.parts) (expected : Value)
      (offers : inner.Offers scope.environment.withoutTables expected) :
      schema.Lists scope.environment.withoutTables expected :=
    Schema.lists_of_part member (Schema.lists_of_offers offers)
  have isDirect := direct.here
  cases isForm : schema.form with
  | promise inner => exact .refuse "Promise"
  | function => exact .refuse "Function"
  | custom check message => exact .refuse "Custom"
  | symbol => exact .refuse "Symbol"
  | table described => exact .refuse "Table"
  | default inner value | fallback inner value | transform function | pipe source target =>
      simp [isForm, Form.IsDirect] at isDirect
  | number rules => exact covers_number
  | bigint format => exact covers_bigint
  | optional inner =>
      exact covers_optional (part (by simp [isForm, Form.parts]) (by simp [isForm, Form.carried]))
  | nullable inner =>
      exact covers_nullable (part (by simp [isForm, Form.parts]) (by simp [isForm, Form.carried]))
  | nonoptional inner =>
      exact covers_nonoptional
        (part (by simp [isForm, Form.parts]) (by simp [isForm, Form.carried]))
  | prefault inner value =>
      exact covers_prefault (part (by simp [isForm, Form.parts]) (by simp [isForm, Form.carried]))
  | readonly inner =>
      exact covers_readonly (fun _ => .carried (by simp [isForm, Form.carried]))
        (fun _ => .frozen isForm) (element (by simp [isForm, Form.parts]))
  | union options =>
      exact covers_union fun option member =>
        part (by simpa [isForm, Form.parts] using member)
          (by simpa [isForm, Form.carried] using member)
  | lazily target =>
      exact covers_lazily refuses fun resolved resolves =>
        (covers resolved (direct.resolved isForm resolves)).mono (fun _ => .resolved isForm resolves)
          (fun _ => Schema.lists_of_resolved isForm resolves) fun _ => id
  | array inner least most =>
      exact covers_array (within (by simp [isForm, Form.parts]))
        (element (by simp [isForm, Form.parts]))
  | set inner least most =>
      exact covers_set (within (by simp [isForm, Form.parts]))
        (element (by simp [isForm, Form.parts]))
  | tuple items rest =>
      cases rest with
      | none => simp [isForm, Form.IsDirect] at isDirect
      | some schema => exact covers_tuple
  | object shape catchall => exact covers_object
  | record key value => exact Covers.keyed.mono (fun _ => id) (fun _ => id) fun _ => Form.Accepts.record
  | map key value => exact Covers.keyed.mono (fun _ => id) (fun _ => id) fun _ => Form.Accepts.map
  | reference tables identifier => exact covers_reference
  | enumeration values =>
      have offered : ∀ expected ∈ values,
          schema.Offers scope.environment.withoutTables expected :=
        fun expected member => .listed (by simpa [isForm, Form.listed] using member)
      refine (Covers.literals offered).mono (fun _ => id) (fun _ => id) ?_
      intro value accepts
      obtain ⟨input, payload, brings, clean, rfl⟩ := accepts.leaf fun _ => rfl
      cases brings
      exact Leaf.enumeration_clean clean
  | literal values =>
      have offered : ∀ expected ∈ values,
          schema.Offers scope.environment.withoutTables expected :=
        fun expected member => .listed (by simpa [isForm, Form.listed] using member)
      refine (Covers.literals offered).mono (fun _ => id) (fun _ => id) ?_
      intro value accepts
      obtain ⟨input, payload, brings, clean, rfl⟩ := accepts.leaf fun _ => rfl
      cases brings
      exact Leaf.literal_clean clean
  | any | unknown | intersection left right =>
      exact .addAny
  | never =>
      refine covers_ownType (fun _ => rfl) (by simp [TypeAtom.names, Form.kind, Kind.ownType]) ?_
      intro input payload brings clean
      cases brings
      cases clean
  | undefined | void =>
      refine covers_ownType (fun _ => rfl) (by simp [TypeAtom.names, Form.kind, Kind.ownType]) ?_
      intro input payload brings clean
      cases brings
      obtain ⟨passes, same⟩ := Leaf.ofKind_clean clean
      exact (congrArg Value.isUndefined same).trans passes
  | null =>
      refine covers_ownType (fun _ => rfl) (by simp [TypeAtom.names, Form.kind, Kind.ownType]) ?_
      intro input payload brings clean
      cases brings
      obtain ⟨passes, same⟩ := Leaf.ofKind_clean clean
      exact (congrArg Value.isNull same).trans passes
  | boolean =>
      refine covers_ownType (fun _ => rfl) (by simp [TypeAtom.names, Form.kind, Kind.ownType]) ?_
      intro input payload brings clean
      cases brings
      obtain ⟨passes, same⟩ := Leaf.ofKind_clean clean
      exact (congrArg Value.isBoolean same).trans passes
  | text rules =>
      have isString : (Form.text (σ := Schema) rules).kind.ownType = .string := by
        rw [Form.kind]
        cases rules.format <;> rfl
      refine covers_ownType (fun _ => rfl) (by simp [isString, TypeAtom.names]) ?_
      intro input payload brings clean
      rw [isString]
      exact Leaf.text_clean (Option.some.inj brings) clean
  | uuid format =>
      refine covers_ownType (fun _ => rfl) (by simp [TypeAtom.names, Form.kind, Kind.ownType]) ?_
      intro input payload brings clean
      cases brings
      exact Leaf.uuid_clean clean
  | date coerce =>
      refine covers_ownType (fun _ => rfl) (by simp [TypeAtom.names, Form.kind, Kind.ownType]) ?_
      intro input payload brings clean
      cases brings
      exact Leaf.date_clean clean

/-! ## Schemas -/

theorem refusesTables_run (budget : Nat) (scope : LoweringScope) :
    Lowerer.RefusesTables (run budget) scope := by
  intro schema table isTable state final ends
  cases budget with
  | zero => exact absurd ends throw_ne_ok
  | succ budget =>
      obtain ⟨current, middle, -, runs⟩ := bind_eq_ok ends
      split at runs
      · exact absurd runs throw_ne_ok
      · obtain ⟨inner, refuses, -⟩ := inside_eq_ok runs
        rw [Schema.form_of_table? isTable] at refuses
        exact absurd refuses throw_ne_ok

theorem coversDirect_run (budget : Nat) (scope : LoweringScope) :
    Lowerer.CoversDirect (run budget) scope := by
  induction budget with
  | zero =>
      intro schema direct
      exact .of_fault fun _ _ => throw_ne_ok
  | succ budget ih =>
      intro schema direct
      refine Covers.after .get fun _ _ state _ => ?_
      by_cases isOpen : state.isOpen schema = true
      · simp only [isOpen, if_true]
        exact .of_fault fun _ _ => throw_ne_ok
      · simp only [isOpen]
        have covers := covers_form (refusesTables_run budget scope) ih direct
        exact covers.inside.mono (fun _ => id) (fun _ => id) fun _ accepts => accepts.form

end Lowering

theorem Schema.accepts_of_safeParseWithin {limit : Nat} {schema : Schema}
    {environment : Environment} {input data : Value}
    (accepted : (schema.safeParseWithin limit environment input).outcome = .ok (.accepted data)) :
    schema.Accepts environment data :=
  ⟨limit, input, _, safeParseWithin_eq_accepted_iff.mp accepted, rfl, rfl⟩

/-- What validation accepts lies in the type that lowering finds: for schemas without substituted or
mapped values and closed tuples, whatever tables are registered or being defined, the data that a
value is accepted as is permitted by the type of the field. -/
theorem Schema.admits_accepted_of_lowered {schema : Schema} {scope : LoweringScope}
    {ancestors : List Ancestor} {field : LoweredField} {limit : Nat} {input data : Value}
    (direct : schema.Everywhere scope.environment.withoutTables fun target =>
      target.form.IsDirect)
    (lowers : (schema.lowered scope ancestors).outcome = .ok field)
    (accepted : (schema.safeParseWithin limit scope.environment input).outcome =
      .ok (.accepted data)) :
    field.type.Admits (schema.Lists scope.environment.withoutTables) data := by
  unfold Schema.lowered at lowers
  rcases runs : Lowering.enter scope schema (.ofField ancestors) with ⟨outcome, final⟩
  simp only [runs] at lowers
  cases outcome with
  | error cause => cases lowers
  | ok done =>
      cases lowers
      have empty : FieldType.IsReadable (LoweringState.ofField ancestors).context.type := by
        intro atom member
        cases member
      have grows := Lowering.coversDirect_run _ scope schema direct _ final runs empty
      exact FieldType.admits_of_admitsOf grows.readable (fun _ => Schema.lists_of_offers)
        (grows.permits data (Schema.accepts_of_safeParseWithin accepted))

theorem Lowering.literals_singleton {value : Value} {written : String}
    (writes : value.literal = .ok written) :
    Lowering.literals [value] = addAtom (.literal value) := by
  funext state
  change ((given value.literal >>= fun _ => addAtom (.literal value)) >>= fun _ => pure ()) state = _
  rw [writes]
  rfl

namespace Schema

variable {value : Value}

theorem isDirect_frozen :
    (anonymous (.readonly (anonymous (.literal [value])))).Everywhere
      (Environment.withoutTables ⟨[], none⟩) fun target => target.form.IsDirect := by
  refine .of_parts trivial (fun target isLazy => by cases isLazy) fun part member => ?_
  rw [List.mem_singleton.mp member]
  exact .of_parts trivial (fun target isLazy => by cases isLazy) fun part member => by cases member

theorem outcome_lowered_frozen {written : String} (writes : value.literal = .ok written) :
    ((anonymous (.readonly (anonymous (.literal [value])))).lowered ⟨⟨[], none⟩, []⟩ []).outcome =
      .ok ⟨[.literal value], false, .undefined, []⟩ := by
  let frozen : Schema := anonymous (.readonly (anonymous (.literal [value])))
  have enters : Lowering.enter ⟨⟨[], none⟩, []⟩ frozen =
      Lowering.inside frozen (Lowering.inside frozen (Lowering.literals [value])) := rfl
  rw [lowered, enters, Lowering.literals_singleton writes]
  rfl

end Schema

/-- The tuple that an unchangeable list becomes lies in the type of the list. -/
theorem Schema.admits_frozen_literal :
    let pair : Value := .list [.integer 1, .integer 2]
    let frozen : Schema := .anonymous (.readonly (.anonymous (.literal [pair])))
    FieldType.Admits (frozen.Lists ⟨[], none⟩) [.literal pair]
      (.tuple [.integer 1, .integer 2]) := by
  intro pair frozen
  have written : pair.literal = .ok "[1, 2]" := by cbv
  have accepted : (frozen.safeParseWithin 3 ⟨[], none⟩ pair).outcome =
      .ok (.accepted (.tuple [.integer 1, .integer 2])) := by cbv
  exact Schema.admits_accepted_of_lowered Schema.isDirect_frozen
    (Schema.outcome_lowered_frozen written) accepted

/-- A tuple that a listed list becomes equals no listed value, so the type of the field permits it
only because it counts as listed. -/
theorem Schema.not_admits_listed_only :
    ¬∀ (schema : Schema) (scope : LoweringScope) (field : LoweredField) (limit : Nat)
      (input data : Value),
      (schema.Everywhere scope.environment.withoutTables fun target => target.form.IsDirect) →
      (schema.lowered scope []).outcome = .ok field →
      (schema.safeParseWithin limit scope.environment input).outcome = .ok (.accepted data) →
      field.type.Admits (fun value => ∃ target, schema.Reaches scope.environment target ∧
        value ∈ target.form.listed) data := by
  intro admits
  let pair : Value := .list [.integer 1, .integer 2]
  let frozen : Schema := .anonymous (.readonly (.anonymous (.literal [pair])))
  have written : pair.literal = .ok "[1, 2]" := by cbv
  have accepted : (frozen.safeParseWithin 3 ⟨[], none⟩ pair).outcome =
      .ok (.accepted (.tuple [.integer 1, .integer 2])) := by cbv
  have admitted := admits frozen ⟨⟨[], none⟩, []⟩ _ 3 pair _ Schema.isDirect_frozen
    (Schema.outcome_lowered_frozen written) accepted
  have closed : FieldType.isOpen [.literal pair] = false := by cbv
  have differs : Value.sameLiteral pair (.tuple [.integer 1, .integer 2]) = false := by cbv
  rcases admitted with isOpen | ⟨atom, member, admitsAtom⟩
  · exact absurd (closed.symm.trans isOpen) (by decide)
  · rw [List.mem_singleton.mp member] at admitsAtom
    obtain ⟨expected, ⟨target, reaches, listed⟩, -, same⟩ := admitsAtom
    cases reaches with
    | self => cases listed
    | resolved isLazy => cases isLazy
    | part isPart further =>
        rw [List.mem_singleton.mp isPart] at further
        cases further with
        | part isPart => cases isPart
        | resolved isLazy => cases isLazy
        | self =>
            rw [List.mem_singleton.mp listed] at same
            exact absurd (differs.symm.trans same) (by decide)

end TypedTables
