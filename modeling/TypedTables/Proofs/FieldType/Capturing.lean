import TypedTables.Proofs.FieldType.Terms
import TypedTables.Proofs.Schema.Defaults

/-!
# Capturing a default

Lowering captures the default of a field while it goes through the schemas in the place of the field.
Once a default is captured it stays, and so it does while the elements of a container are lowered. So
the default of a lowered field is the one that its schema leads to.
-/

namespace TypedTables

theorem Value.eq_undefined {value : Value} (absent : value.isUndefined = true) :
    value = .undefined := by
  cases value with
  | undefined => rfl
  | _ => cases absent

namespace LoweringState

/-- No default can be captured any more. -/
def IsSettled (state : LoweringState) : Prop :=
  state.context.isRoot = true → state.default.isUndefined = false

/-- From one state to another the ancestors and the place stay the same. So does the default: where a
default is searched for only a settled one, elsewhere any. -/
structure Retains (searching : Prop) (before after : LoweringState) : Prop where
  ancestors : after.ancestors = before.ancestors
  isRoot : after.context.isRoot = before.context.isRoot
  default : (searching → before.IsSettled) → after.default = before.default

namespace Retains

variable {searching : Prop} {first second third : LoweringState}

theorem refl (state : LoweringState) : state.Retains searching state := ⟨rfl, rfl, fun _ => rfl⟩

theorem trans (retains : first.Retains searching second) (further : second.Retains searching third) :
    first.Retains searching third := by
  refine ⟨further.ancestors.trans retains.ancestors, further.isRoot.trans retains.isRoot, ?_⟩
  intro settled
  have same := retains.default settled
  refine (further.default fun search => ?_).trans same
  unfold IsSettled
  rw [same, retains.isRoot]
  exact settled search

end Retains
end LoweringState

/-- Nothing in the form is mapped, and no value is put in place of absence to be validated. -/
def Form.IsUnmapped : Form Schema → Prop
  | .pipe .. | .transform _ | .prefault .. => False
  | _ => True

namespace Lowering

variable {α β : Type} {searching : Prop}

abbrev Retains (searching : Prop) (action : Lowering α) : Prop :=
  Links (LoweringState.Retains searching) action

namespace Retains

theorem bind {first : Lowering α} {next : α → Lowering β} (retains : Retains searching first)
    (retainsNext : ∀ value, Retains searching (next value)) : Retains searching (first >>= next) :=
  Links.bind .trans retains retainsNext

theorem forM {items : List α} {action : α → Lowering PUnit}
    (retains : ∀ item ∈ items, Retains searching (action item)) :
    Retains searching (items.forM action) :=
  Links.forM .refl .trans retains

theorem mapM {items : List α} {action : α → Lowering β}
    (retains : ∀ item ∈ items, Retains searching (action item)) :
    Retains searching (items.mapM action) :=
  Links.mapM .refl .trans retains

theorem pure (value : α) : Retains searching (Pure.pure value : Lowering α) :=
  Links.of_result .refl

theorem throw (cause : Fault) : Retains searching (MonadExcept.throw cause : Lowering α) :=
  Links.of_result .refl

theorem given (outcome : Except Fault α) : Retains searching (Lowering.given outcome) :=
  Links.of_result .refl

theorem get : Retains searching (MonadState.get : Lowering LoweringState) := by
  intro state final value ends
  obtain ⟨-, rfl⟩ := Prod.mk.inj ends
  exact .refl _

theorem addAtom (atom : TypeAtom) : Retains searching (addAtom atom) :=
  Links.modify fun _ => ⟨rfl, rfl, fun _ => rfl⟩

theorem addAtoms (atoms : List TypeAtom) : Retains searching (addAtoms atoms) :=
  Links.modify fun _ => ⟨rfl, rfl, fun _ => rfl⟩

theorem notify (notice : Notice) : Retains searching (notify notice) :=
  Links.modify fun _ => ⟨rfl, rfl, fun _ => rfl⟩

theorem addChild (name : String) (schema : Schema) : Retains searching (addChild name schema) :=
  Links.modify fun _ => ⟨rfl, rfl, fun _ => rfl⟩

theorem addChildren (shape : List (String × Schema)) :
    Retains searching (shape.forM fun (name, schema) => Lowering.addChild name schema) :=
  forM fun field _ => addChild field.1 field.2

theorem markFlexible : Retains searching markFlexible := by
  refine Links.modify fun state => ?_
  split
  · exact ⟨rfl, rfl, fun _ => rfl⟩
  · exact .refl _

theorem keepDefault (value : Value) : Retains True (keepDefault value) := by
  refine Links.modify fun state => ?_
  split
  · rename_i captures
    refine ⟨rfl, rfl, fun settled => ?_⟩
    simp only [Bool.and_eq_true] at captures
    obtain ⟨⟨isRoot, absent⟩, -⟩ := captures
    rw [settled trivial isRoot] at absent
    cases absent
  · exact .refl _

theorem keepDefault_computed {inner : Schema} {value : Value}
    (computed : (Form.default inner value).staticDefault? = none) :
    Retains searching (Lowering.keepDefault value) := by
  refine Links.modify fun state => ?_
  split
  · rename_i captures
    refine ⟨rfl, rfl, fun _ => ?_⟩
    obtain ⟨⟨-, absent⟩, given⟩ : (state.context.isRoot = true ∧ state.default.isUndefined = true) ∧
        value.isCallable = false := by simpa using captures
    have absentToo : value.isUndefined = true := by
      simpa [Form.staticDefault?, given] using computed
    exact (Value.eq_undefined absentToo).trans (Value.eq_undefined absent).symm
  · exact .refl _

theorem apart (action : Lowering Unit) : Retains searching (apart action) := by
  intro state final value ends
  unfold Lowering.apart at ends
  obtain ⟨-, rfl⟩ := Prod.mk.inj ends
  exact ⟨rfl, rfl, fun _ => rfl⟩

theorem inside {schema : Schema} {action : Lowering Unit} (retains : Retains searching action) :
    Retains searching (inside schema action) := by
  intro state final value ends
  obtain ⟨inner, runs, rfl⟩ := inside_eq_ok ends
  obtain ⟨ancestors, isRoot, default⟩ := retains _ inner value runs
  exact ⟨by rw [ancestors]; rfl, isRoot, default⟩

/-- In a context further down no default is captured, whatever is lowered there. -/
theorem inFresh {segment : Option String} {action : Lowering Unit} (retains : Retains True action)
    (search : segment = none → searching) : Retains searching (inFresh segment action) := by
  intro state final context ends
  obtain ⟨inner, runs, -, rfl⟩ := inFresh_eq_ok ends
  obtain ⟨ancestors, -, default⟩ := retains _ inner () runs
  refine ⟨ancestors, rfl, fun settled => default fun _ isRoot => ?_⟩
  cases segment with
  | none => exact settled (search rfl) isRoot
  | some name => cases isRoot

/-! ## Forms -/

variable {lower : Lowerer} {scope : LoweringScope}

theorem elementType {element : Schema} (retains : Retains True (lower scope element)) :
    Retains searching (elementType lower scope element) :=
  bind (inFresh retains nofun) fun _ => pure _

theorem container {element : Schema} (retains : Retains True (lower scope element)) :
    Retains searching (container lower scope element) :=
  bind (elementType retains) fun _ => addAtom _

theorem keyed (key value : Schema) : Retains searching (keyed lower scope key value) := by
  refine bind (apart _) fun keyType => ?_
  split
  · exact bind (addAtom _) fun _ => addChild "*" value
  · exact throw _

theorem literals (values : List Value) : Retains searching (literals values) :=
  forM fun _ _ => bind (given _) fun _ => addAtom _

theorem resolved {target : Schema} (retains : Retains searching (lower scope target)) :
    Retains searching (resolved lower scope target) := by
  have cut (notice : Notice) :
      Retains searching (do Lowering.notify notice; Lowering.addAtom .any) :=
    bind (notify notice) fun _ => addAtom .any
  refine bind get fun state => ?_
  split
  · exact cut _
  · split
    · split
      · exact cut _
      · exact retains
    · exact retains

theorem form_leaf {form : Form Schema} (retains : ∀ schema, Retains True (lower scope schema))
    (unmapped : form.IsUnmapped) (leaf : form.wrapped = []) (eager : ∀ target, form ≠ .lazily target) :
    Retains searching (Lowering.form lower scope form) := by
  cases form with
  | optional | nullable | nonoptional | default | fallback | readonly => cases leaf
  | prefault | pipe | transform => exact unmapped.elim
  | lazily target => exact absurd rfl (eager target)
  | promise | function | custom | symbol | table => exact throw _
  | number | bigint => exact bind (given _) fun _ => addAtom _
  | union options =>
      have none : options = [] := leaf
      rw [none]
      exact pure _
  | object shape catchall =>
      refine bind (addAtom _) fun _ => ?_
      split
      · exact bind markFlexible fun _ => addChildren shape
      · exact addChildren shape
  | array element least most | set element least most => exact container (retains element)
  | record key value | map key value => exact keyed key value
  | tuple items rest =>
      simp only [Lowering.form]
      split
      · exact addAtom _
      · exact bind (mapM fun item _ => elementType (retains item)) fun _ => addAtom _
  | enumeration values | literal values => exact literals values
  | reference tables identifier =>
      simp only [Lowering.form]
      split <;> exact addAtom _
  | _ => exact addAtom _

theorem form {form : Form Schema} (retains : ∀ schema, Retains True (lower scope schema)) :
    Retains True (Lowering.form lower scope form) := by
  cases isForm : form with
  | optional inner | nullable inner => exact bind (retains inner) fun _ => addAtom _
  | nonoptional inner =>
      exact bind (inFresh (retains inner) fun _ => trivial) fun context => addAtoms _
  | default inner value | prefault inner value =>
      exact bind (keepDefault value) fun _ => retains inner
  | fallback inner value => exact retains inner
  | readonly inner => exact retains inner
  | pipe source target =>
      simp only [Lowering.form]
      split
      · exact retains target
      · exact retains source
  | transform function => exact addAtom _
  | union options => exact forM fun option _ => retains option
  | lazily target => exact bind (given _) fun schema => resolved (retains schema)
  | _ => exact form_leaf retains trivial rfl fun target isLazy => by cases isLazy

theorem run (budget : Nat) (scope : LoweringScope) (schema : Schema) :
    Retains True (run budget scope schema) := by
  induction budget generalizing schema with
  | zero => exact throw _
  | succ budget ih =>
      refine bind get fun state => ?_
      split
      · exact throw _
      · exact inside (form ih)

end Retains

/-! ## Searching for a default -/

/-- A step at the root, below the ancestors and without a default so far, that ends well, brings a
default of a kind. -/
def Searches (ancestors : List Ancestor) (brings : Value → Prop) (action : Lowering α) : Prop :=
  ∀ state final value, state.ancestors = ancestors → state.context.isRoot = true →
    state.default = .undefined → action state = (.ok value, final) → brings final.default

namespace Searches

variable {ancestors : List Ancestor} {brings : Value → Prop}

/-- A step that captures nothing may come first. -/
theorem after {first : Lowering α} {next : α → Lowering β} (retains : Retains False first)
    (searches : ∀ value, Searches ancestors brings (next value)) :
    Searches ancestors brings (first >>= next) := by
  intro state final result below isRoot absent ends
  obtain ⟨value, middle, endsFirst, endsNext⟩ := bind_eq_ok ends
  have kept := retains state middle value endsFirst
  exact searches value middle final result (kept.ancestors.trans below) (kept.isRoot.trans isRoot)
    ((kept.default False.elim).trans absent) endsNext

/-- A step that captures nothing may come afterwards. -/
theorem before {first : Lowering α} {next : α → Lowering β}
    (searches : Searches ancestors brings first) (retains : ∀ value, Retains False (next value)) :
    Searches ancestors brings (first >>= next) := by
  intro state final result below isRoot absent ends
  obtain ⟨value, middle, endsFirst, endsNext⟩ := bind_eq_ok ends
  have kept := retains value middle final result endsNext
  rw [kept.default False.elim]
  exact searches state middle value below isRoot absent endsFirst

theorem mono {more : Value → Prop} {action : Lowering α} (searches : Searches ancestors brings action)
    (further : ∀ default, brings default → more default) : Searches ancestors more action :=
  fun state final value below isRoot absent ends =>
    further _ (searches state final value below isRoot absent ends)

theorem of_retains {action : Lowering α} (retains : Retains False action)
    (brought : brings .undefined) : Searches ancestors brings action := by
  intro state final value _ _ absent ends
  rw [(retains state final value ends).default False.elim, absent]
  exact brought

theorem throw (cause : Fault) :
    Searches ancestors brings (MonadExcept.throw cause : Lowering α) :=
  fun _ _ _ _ _ _ ends => absurd ends throw_ne_ok

theorem given {outcome : Except Fault α} {next : α → Lowering β}
    (searches : ∀ value, outcome = .ok value → Searches ancestors brings (next value)) :
    Searches ancestors brings (Lowering.given outcome >>= next) := by
  intro state final result below isRoot absent ends
  obtain ⟨value, isValue, endsNext⟩ := given_bind_eq_ok ends
  exact searches value isValue state final result below isRoot absent endsNext

theorem get {next : LoweringState → Lowering β}
    (searches : ∀ state, state.ancestors = ancestors → Searches ancestors brings (next state)) :
    Searches ancestors brings (MonadState.get >>= next) :=
  fun state final result below => searches state below state final result below

theorem inside {schema : Schema} {action : Lowering Unit}
    (searches : Searches (schema.identity :: ancestors) brings action) :
    Searches ancestors brings (inside schema action) := by
  intro state final value below isRoot absent ends
  obtain ⟨inner, runs, rfl⟩ := inside_eq_ok ends
  exact searches { state with ancestors := schema.identity :: state.ancestors } inner value
    (by rw [← below]) isRoot absent runs

theorem inFresh {action : Lowering Unit} (searches : Searches ancestors brings action) :
    Searches ancestors brings (inFresh none action) := by
  intro state final context below isRoot absent ends
  obtain ⟨inner, runs, -, rfl⟩ := inFresh_eq_ok ends
  exact searches { state with context := state.context.fresh none } inner () below isRoot absent runs

theorem keepDefault {inner : Schema} {value static : Value} {next : Lowering β}
    (isStatic : (Form.default inner value).staticDefault? = some static)
    (retains : Retains True next) (brought : brings static) :
    Searches ancestors brings (Lowering.keepDefault value >>= fun _ => next) := by
  intro state final result below isRoot absent ends
  obtain ⟨done, middle, captures, endsNext⟩ := bind_eq_ok ends
  obtain ⟨_, isDefault, given, present⟩ := Form.staticDefault?_eq_some isStatic
  cases isDefault
  obtain ⟨-, rfl⟩ := Prod.mk.inj captures
  have captured : (state.context.isRoot && state.default.isUndefined && !value.isCallable) = true := by
    rw [isRoot, absent, given]
    rfl
  beta_reduce at endsNext
  rw [if_pos captured] at endsNext
  have stays := (retains _ final result endsNext).default fun _ _ => present
  rw [stays]
  exact brought

variable {environment : Environment} {lower : Lowerer} {scope : LoweringScope}

/-- Schemas that are lowered one after another: the first default that is captured stays. -/
theorem forM {schemas : List Schema} (retains : ∀ schema, Retains True (lower scope schema))
    (searches : ∀ schema ∈ schemas,
      Searches ancestors (schema.Finds environment ancestors) (lower scope schema)) :
    Searches ancestors (Schema.FindsAmong environment ancestors schemas)
      (schemas.forM (lower scope)) := by
  induction schemas with
  | nil =>
      exact of_retains (.pure _) (Or.inl ⟨rfl, fun _ member => by cases member⟩)
  | cons schema rest ih =>
      intro state final value below isRoot absent ends
      obtain ⟨done, middle, endsFirst, endsRest⟩ := bind_eq_ok ends
      have kept := retains schema state middle done endsFirst
      have ofRest : Retains True (rest.forM (lower scope)) := .forM fun other _ => retains other
      rcases searches schema (by simp) state middle done below isRoot absent endsFirst with
        ⟨absentStill, bare⟩ | ⟨around, before, leads⟩
      · exact .cons bare (ih (fun other member => searches other (by simp [member])) middle final value
          (kept.ancestors.trans below) (kept.isRoot.trans isRoot) absentStill endsRest)
      · have stays := (ofRest middle final value endsRest).default fun _ _ => leads.isUndefined_eq_false
        rw [stays]
        exact Or.inr ⟨[], schema, rest, around, before, rfl, by simp, leads⟩

theorem resolved {schema resolved : Schema} {target : LazyTarget Schema}
    (isLazy : schema.form = .lazily target) (resolves : environment.resolve target = .ok resolved)
    (searches : Searches (schema.identity :: ancestors)
      (resolved.Finds environment (schema.identity :: ancestors)) (lower scope resolved)) :
    Searches (schema.identity :: ancestors) (schema.Finds environment ancestors)
      (Lowering.resolved lower scope resolved) := by
  have cut (notice : Notice) (bare : schema.Bare environment ancestors) :
      Searches (schema.identity :: ancestors) (schema.Finds environment ancestors)
        (do Lowering.notify notice; Lowering.addAtom .any) :=
    of_retains (.bind (.notify notice) fun _ => .addAtom .any) (Or.inl ⟨rfl, bare⟩)
  refine get fun state below => ?_
  rw [LoweringState.isOpen_eq below]
  split
  · rename_i isOpen
    refine cut _ (.of_resolved isLazy fun other resolvesAlso closed => ?_)
    cases resolves.symm.trans resolvesAlso
    rw [isOpen] at closed
    cases closed
  · rename_i notOpen
    have closed : (LoweringState.ofField (schema.identity :: ancestors)).isOpen resolved = false := by
      simpa using notOpen
    have further : Searches (schema.identity :: ancestors) (schema.Finds environment ancestors)
        (lower scope resolved) :=
      searches.mono fun default => .resolved isLazy resolves closed
    cases isTable : resolved.table? with
    | none => exact further
    | some table =>
        simp only
        split
        · refine cut _ (.of_resolved isLazy fun other resolvesAlso _ => ?_)
          cases resolves.symm.trans resolvesAlso
          have isForm := Schema.form_of_table? isTable
          exact .of_leaf (by rw [isForm]; rfl) (by rw [isForm]; rfl) (by simp [isForm])
        · exact further

theorem form {schema : Schema} (retains : ∀ schema, Retains True (lower scope schema))
    (unmapped : schema.form.IsUnmapped)
    (wrapped : ∀ inner ∈ schema.form.wrapped, Searches (schema.identity :: ancestors)
      (inner.Finds scope.environment (schema.identity :: ancestors)) (lower scope inner))
    (lazily : ∀ target resolved, schema.form = .lazily target →
      scope.environment.resolve target = .ok resolved → Searches (schema.identity :: ancestors)
        (resolved.Finds scope.environment (schema.identity :: ancestors)) (lower scope resolved)) :
    Searches (schema.identity :: ancestors) (schema.Finds scope.environment ancestors)
      (Lowering.form lower scope schema.form) := by
  -- A wrapper without a default of its own finds what the schema inside finds.
  have around {inner : Schema} (none : schema.form.staticDefault? = none)
      (wraps : schema.form.wrapped = [inner]) (eager : ∀ target, schema.form ≠ .lazily target) :
      Searches (schema.identity :: ancestors) (schema.Finds scope.environment ancestors)
        (lower scope inner) := by
    refine (wrapped inner (by simp [wraps])).mono fun default finds => ?_
    exact Schema.finds_of_wrapped none eager (wraps ▸ finds.among)
  cases isForm : schema.form with
  | optional inner | nullable inner =>
      exact before (around (by rw [isForm]; rfl) (by rw [isForm]; rfl) (by simp [isForm]))
        fun _ => .addAtom _
  | nonoptional inner =>
      exact before (inFresh (around (by rw [isForm]; rfl) (by rw [isForm]; rfl) (by simp [isForm])))
        fun context => .addAtoms _
  | fallback inner value | readonly inner =>
      exact around (by rw [isForm]; rfl) (by rw [isForm]; rfl) (by simp [isForm])
  | default inner value =>
      cases static : (Form.default inner value).staticDefault? with
      | some found =>
          exact keepDefault static (retains inner)
            (Or.inr ⟨_, _, .here (by rw [isForm]; exact static)⟩)
      | none =>
          exact after (.keepDefault_computed static) fun _ =>
            around (by rw [isForm]; exact static) (by rw [isForm]; rfl) (by simp [isForm])
  | union options =>
      refine (forM retains fun option member => wrapped option (by rw [isForm]; exact member)).mono
        fun default finds => ?_
      exact Schema.finds_of_wrapped (by rw [isForm]; rfl) (by simp [isForm]) (by rw [isForm]; exact finds)
  | lazily target =>
      exact given fun resolved resolves =>
        Searches.resolved isForm resolves (lazily target resolved isForm resolves)
  | prefault | pipe | transform =>
      rw [isForm] at unmapped
      exact unmapped.elim
  | _ =>
      refine of_retains (.form_leaf retains trivial rfl fun target isLazy => by cases isLazy) ?_
      exact Or.inl ⟨rfl, .of_leaf (by rw [isForm]; rfl) (by rw [isForm]; rfl) (by simp [isForm])⟩

end Searches

/-- Lowering a schema in the place of the field finds what the schema leads to. The induction is on
the budget, for all ancestors, because each schema on the way is one for those inside. -/
theorem searches_run (budget : Nat) (scope : LoweringScope) {schema : Schema}
    {ancestors : List Ancestor}
    (unmapped : schema.WrapsOnly scope.environment fun target => target.form.IsUnmapped) :
    Searches ancestors (schema.Finds scope.environment ancestors) (run budget scope schema) := by
  induction budget generalizing schema ancestors with
  | zero => exact .throw _
  | succ budget ih =>
      refine .get fun state _ => ?_
      split
      · exact .throw _
      · exact .inside (.form (Retains.run budget scope) unmapped.here
          (fun inner member => ih (unmapped.wrapped member))
          fun target resolved isLazy resolves => ih (unmapped.resolved isLazy resolves))

end Lowering

/-- The default of a lowered field is the one that its schema leads to. -/
theorem Schema.exists_leadsTo_of_lowered {schema : Schema} {scope : LoweringScope}
    {ancestors : List Ancestor} {field : LoweredField}
    (unmapped : schema.WrapsOnly scope.environment fun target => target.form.IsUnmapped)
    (lowers : (schema.lowered scope ancestors).outcome = .ok field)
    (hasDefault : field.hasDefault = true) :
    ∃ around before, schema.LeadsTo scope.environment field.default ancestors around before := by
  unfold Schema.lowered at lowers
  rcases runs : Lowering.enter scope schema (.ofField ancestors) with ⟨outcome, final⟩
  simp only [runs] at lowers
  cases outcome with
  | error cause => cases lowers
  | ok done =>
      cases lowers
      rcases Lowering.searches_run _ scope unmapped _ final done rfl rfl rfl runs with
        ⟨absent, -⟩ | leads
      · rw [LoweredField.hasDefault, LoweredField.ofState, absent] at hasDefault
        cases hasDefault
      · exact leads

end TypedTables
