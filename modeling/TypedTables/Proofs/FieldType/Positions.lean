import TypedTables.Proofs.FieldType.Keys

/-!
# Positions that lowering looks at

The schemas that the type of a field is made from: the field itself, what a schema at a position is
lowered to or leaves for later, and what a lazy schema stands for, unless that is under way or is a
table whose fields are being defined. Lowering a field that ends well has looked at every position, those
below the children that it left aside; so a kind that lowering refuses is at none of them, once the
children are lowered well too.
-/

namespace TypedTables

def Kind.isRefused : Kind → Bool
  | .promise | .function | .custom | .symbol | .table => true
  | _ => false

/-- The schemas that lowering a form goes on with, at once or later: of a pipe the source, or the
target when the source is a transform. -/
def Form.loweredParts : Form Schema → List Schema
  | .pipe source target => if source.kind = .transform then [target] else [source]
  | form => form.lowered

/-- The second schema is at a position below the first, at which lowering looks below the ancestors
while the fields of some tables are being defined. A lazy schema does not lead to a schema with the
identity of one that is under way, the lazy schema itself among them, nor to one of these tables. -/
inductive Schema.Lowers (environment : Environment) (openTables : List String) :
    List Ancestor → Schema → Schema → Prop
  | here {ancestors : List Ancestor} {schema : Schema} :
      Lowers environment openTables ancestors schema schema
  | part {ancestors : List Ancestor} {schema part target : Schema}
      (member : part ∈ schema.form.loweredParts)
      (below : Lowers environment openTables (schema.identity :: ancestors) part target) :
      Lowers environment openTables ancestors schema target
  | resolved {ancestors : List Ancestor} {schema resolved target : Schema}
      {lazyTarget : LazyTarget Schema} (isLazy : schema.form = .lazily lazyTarget)
      (resolves : environment.resolve lazyTarget = .ok resolved)
      (notUnderWay :
        (LoweringState.ofField (schema.identity :: ancestors)).isOpen resolved = false)
      (notDefined : ∀ table, resolved.table? = some table → table.name ∉ openTables)
      (below : Lowers environment openTables (schema.identity :: ancestors) resolved target) :
      Lowers environment openTables ancestors schema target

namespace Schema

variable {environment : Environment} {openTables : List String} {ancestors : List Ancestor}
  {schema : Schema}

/-- No schema at a position is of a kind that is refused. -/
def IsAdmitted (environment : Environment) (openTables : List String) (ancestors : List Ancestor)
    (schema : Schema) : Prop :=
  ∀ target, schema.Lowers environment openTables ancestors target → target.kind.isRefused = false

theorem Lowers.mono {target : Schema} {fewer : List String} (subset : fewer ⊆ openTables)
    (lowers : schema.Lowers environment openTables ancestors target) :
    schema.Lowers environment fewer ancestors target := by
  induction lowers with
  | here => exact .here
  | part member _ ih => exact .part member ih
  | resolved isLazy resolves notUnderWay notDefined _ ih =>
      exact .resolved isLazy resolves notUnderWay
        (fun table isTable member => notDefined table isTable (subset member)) ih

theorem IsAdmitted.mono {fewer : List String} (subset : fewer ⊆ openTables)
    (admitted : schema.IsAdmitted environment fewer ancestors) :
    schema.IsAdmitted environment openTables ancestors :=
  fun target lowers => admitted target (lowers.mono subset)

end Schema

/-- Below the ancestors, the form is of no refused kind, and neither is anything at a position below
it. -/
structure Form.IsAdmitted (environment : Environment) (openTables : List String)
    (ancestors : List Ancestor) (form : Form Schema) : Prop where
  kind : form.kind.isRefused = false
  parts : ∀ part ∈ form.loweredParts, part.IsAdmitted environment openTables ancestors
  resolved : ∀ target other, form = .lazily target → environment.resolve target = .ok other →
    (LoweringState.ofField ancestors).isOpen other = false →
      (∀ table, other.table? = some table → table.name ∉ openTables) →
        other.IsAdmitted environment openTables ancestors

theorem Form.IsAdmitted.schema {environment : Environment} {openTables : List String}
    {ancestors : List Ancestor} {schema : Schema}
    (admitted : schema.form.IsAdmitted environment openTables (schema.identity :: ancestors)) :
    schema.IsAdmitted environment openTables ancestors := by
  intro target lowers
  cases lowers with
  | here => exact admitted.kind
  | part member below => exact admitted.parts _ member target below
  | resolved isLazy resolves notUnderWay notDefined below =>
      exact admitted.resolved _ _ isLazy resolves notUnderWay notDefined target below

namespace Lowering

variable {α β : Type} {environment : Environment} {openTables : List String}
  {ancestors : List Ancestor} {shown : α → Prop} {further : β → Prop}

/-- Below the ancestors, a step that ends well shows something, provided that the children it leaves
are admitted; the children that were there before are among them. -/
def Shows (environment : Environment) (openTables : List String) (ancestors : List Ancestor)
    (shown : α → Prop) (action : Lowering α) : Prop :=
  ∀ state value final, state.ancestors = ancestors → action state = (.ok value, final) →
    final.ancestors = ancestors ∧
      ((∀ child ∈ final.children,
          child.schema.IsAdmitted environment openTables child.ancestors) →
        (∀ child ∈ state.children,
          child.schema.IsAdmitted environment openTables child.ancestors) ∧ shown value)

namespace Shows

theorem mono {weaker : α → Prop} {action : Lowering α}
    (shows : Shows environment openTables ancestors shown action)
    (implies : ∀ value, shown value → weaker value) :
    Shows environment openTables ancestors weaker action := by
  intro state value final below ends
  obtain ⟨same, admits⟩ := shows state value final below ends
  exact ⟨same, fun admitted => ⟨(admits admitted).1, implies value (admits admitted).2⟩⟩

theorem bind {action : Lowering α} {next : α → Lowering β}
    (first : Shows environment openTables ancestors shown action)
    (second : ∀ value, Shows environment openTables ancestors
      (fun result => shown value → further result) (next value)) :
    Shows environment openTables ancestors further (action >>= next) := by
  intro state result final below ends
  obtain ⟨value, middle, endsFirst, endsNext⟩ := bind_eq_ok ends
  obtain ⟨sameMiddle, admitsFirst⟩ := first state value middle below endsFirst
  obtain ⟨sameFinal, admitsNext⟩ := second value middle result final sameMiddle endsNext
  refine ⟨sameFinal, fun admitted => ?_⟩
  obtain ⟨middleAdmitted, next⟩ := admitsNext admitted
  obtain ⟨stateAdmitted, shownValue⟩ := admitsFirst middleAdmitted
  exact ⟨stateAdmitted, next shownValue⟩

/-- A step that leaves the ancestors and the children as they are shows what is known anyway. -/
theorem of_same {action : Lowering α}
    (same : ∀ state value final, action state = (.ok value, final) →
      final.ancestors = state.ancestors ∧ final.children = state.children)
    (known : ∀ value, shown value) : Shows environment openTables ancestors shown action := by
  intro state value final below ends
  obtain ⟨ancestors, children⟩ := same state value final ends
  exact ⟨ancestors.trans below, fun admitted => ⟨by rwa [← children], known value⟩⟩

theorem pure {value : α} (known : shown value) :
    Shows environment openTables ancestors shown (Pure.pure value : Lowering α) := by
  intro state result final below ends
  obtain ⟨isValue, rfl⟩ := Prod.mk.inj ends
  cases isValue
  exact ⟨below, fun admitted => ⟨admitted, known⟩⟩

theorem throw (cause : Fault) :
    Shows environment openTables ancestors shown (MonadExcept.throw cause : Lowering α) :=
  fun _ _ _ _ ends => absurd ends throw_ne_ok

theorem modify {change : LoweringState → LoweringState} {known : Prop} (holds : known)
    (same : ∀ state, (change state).ancestors = state.ancestors ∧
      (change state).children = state.children) :
    Shows environment openTables ancestors (fun _ => known) (modify change : Lowering PUnit) :=
  of_same (fun state value final ends => by
    obtain ⟨-, rfl⟩ := Prod.mk.inj ends
    exact same state) fun _ => holds

theorem given {outcome : Except Fault α} {next : α → Lowering β}
    (shows : ∀ value, outcome = .ok value →
      Shows environment openTables ancestors further (next value)) :
    Shows environment openTables ancestors further (Lowering.given outcome >>= next) := by
  intro state result final below ends
  obtain ⟨value, isValue, endsNext⟩ := given_bind_eq_ok ends
  exact shows value isValue state result final below endsNext

theorem get {next : LoweringState → Lowering β}
    (shows : ∀ state, state.ancestors = ancestors →
      Shows environment openTables ancestors further (next state)) :
    Shows environment openTables ancestors further (MonadState.get >>= next) :=
  fun state result final below ends => shows state below state result final below ends

theorem forM {items : List α} {action : α → Lowering PUnit} {each : α → Prop}
    (shows : ∀ item ∈ items,
      Shows environment openTables ancestors (fun _ => each item) (action item)) :
    Shows environment openTables ancestors (fun _ => ∀ item ∈ items, each item)
      (items.forM action) := by
  induction items with
  | nil => exact pure (by simp)
  | cons item rest ih =>
      refine bind (shows item (by simp)) fun _ =>
        (ih fun next member => shows next (by simp [member])).mono fun _ others isFirst => ?_
      simpa using ⟨isFirst, others⟩

theorem mapM {items : List α} {action : α → Lowering β} {each : α → Prop}
    (shows : ∀ item ∈ items,
      Shows environment openTables ancestors (fun _ => each item) (action item)) :
    Shows environment openTables ancestors (fun _ => ∀ item ∈ items, each item)
      (items.mapM action) := by
  induction items with
  | nil => exact pure (by simp)
  | cons item rest ih =>
      rw [List.mapM_cons]
      refine bind (shows item (by simp)) fun value =>
        bind (ih fun next member => shows next (by simp [member])) fun values =>
          pure fun others isFirst => ?_
      simpa using ⟨isFirst, others⟩

variable {known : Prop}

theorem addAtom (atom : TypeAtom) (holds : known) :
    Shows environment openTables ancestors (fun _ => known) (addAtom atom) :=
  modify holds fun _ => ⟨rfl, rfl⟩

theorem addAtoms (atoms : List TypeAtom) (holds : known) :
    Shows environment openTables ancestors (fun _ => known) (addAtoms atoms) :=
  modify holds fun _ => ⟨rfl, rfl⟩

theorem notify (notice : Notice) (holds : known) :
    Shows environment openTables ancestors (fun _ => known) (notify notice) :=
  modify holds fun _ => ⟨rfl, rfl⟩

theorem keepDefault (value : Value) (holds : known) :
    Shows environment openTables ancestors (fun _ => known) (keepDefault value) := by
  refine modify holds fun state => ?_
  split <;> exact ⟨rfl, rfl⟩

theorem markFlexible (holds : known) :
    Shows environment openTables ancestors (fun _ => known) markFlexible := by
  refine modify holds fun state => ?_
  split <;> exact ⟨rfl, rfl⟩

theorem addChild (name : String) (schema : Schema) :
    Shows environment openTables ancestors
      (fun _ => schema.IsAdmitted environment openTables ancestors) (addChild name schema) := by
  intro state value final below ends
  obtain ⟨-, rfl⟩ := Prod.mk.inj ends
  refine ⟨below, fun admitted => ⟨fun child member => admitted child (by simp [member]), ?_⟩⟩
  have isAdmitted := admitted ⟨state.context.path ++ [name], schema, state.ancestors⟩ (by simp)
  rwa [below] at isAdmitted

theorem inFresh {segment : Option String} {action : Lowering Unit}
    (shows : Shows environment openTables ancestors (fun _ => known) action) :
    Shows environment openTables ancestors (fun _ => known) (inFresh segment action) := by
  intro state context final below ends
  obtain ⟨inner, runs, -, rfl⟩ := inFresh_eq_ok ends
  exact shows { state with context := state.context.fresh segment } () inner below runs

theorem inside {schema : Schema} {action : Lowering Unit}
    (shows : Shows environment openTables (schema.identity :: ancestors) (fun _ => known) action) :
    Shows environment openTables ancestors (fun _ => known) (inside schema action) := by
  intro state value final below ends
  obtain ⟨inner, runs, rfl⟩ := inside_eq_ok ends
  obtain ⟨same, admits⟩ := shows { state with ancestors := schema.identity :: state.ancestors } ()
    inner (by rw [← below]) runs
  exact ⟨by rw [same]; rfl, admits⟩

/-- What is lowered through at most so many schemas is admitted, whatever tables are being defined. -/
def Admits (environment : Environment) (budget : Nat) : Prop :=
  ∀ (openTables : List String) (ancestors : List Ancestor) (schema : Schema),
    Shows environment openTables ancestors
      (fun _ => schema.IsAdmitted environment openTables ancestors)
      (run budget ⟨environment, openTables⟩ schema)

variable {budget : Nat}

theorem elementType (admits : Admits environment budget) (element : Schema) :
    Shows environment openTables ancestors
      (fun _ => element.IsAdmitted environment openTables ancestors)
      (elementType (run budget) ⟨environment, openTables⟩ element) :=
  bind (inFresh (admits openTables ancestors element)) fun _ => pure id

theorem container (admits : Admits environment budget) (element : Schema) :
    Shows environment openTables ancestors
      (fun _ => element.IsAdmitted environment openTables ancestors)
      (container (run budget) ⟨environment, openTables⟩ element) :=
  bind (elementType admits element) fun _ =>
    (addAtom _ trivial).mono fun _ _ isAdmitted => isAdmitted

/-- A key that is lowered to a type of keys leaves no children, so nothing about it is put off. -/
theorem apart (admits : Admits environment budget) (key : Schema) :
    Shows environment openTables ancestors
      (fun type => type.all FieldType.permitsKey = true →
        key.IsAdmitted environment openTables ancestors)
      (apart (run budget ⟨environment, []⟩ key)) := by
  intro state type final below ends
  unfold Lowering.apart at ends
  rcases runs : run budget ⟨environment, []⟩ key (.ofField state.ancestors) with ⟨outcome, inner⟩
  rw [runs] at ends
  obtain ⟨maps, rfl⟩ := Prod.mk.inj ends
  cases outcome with
  | error cause => cases maps
  | ok done =>
      cases maps
      refine ⟨below, fun admitted => ⟨admitted, fun permits => ?_⟩⟩
      have none := children_eq_nil_of_permitsKey runs permits
      obtain ⟨-, shows⟩ := admits [] ancestors key (.ofField state.ancestors) () inner below runs
      exact (shows (by simp [none])).2.mono (List.nil_subset _)

theorem keyed (admits : Admits environment budget) (key value : Schema) :
    Shows environment openTables ancestors
      (fun _ => ∀ part ∈ [key, value], part.IsAdmitted environment openTables ancestors)
      (keyed (run budget) ⟨environment, openTables⟩ key value) := by
  refine bind (apart admits key) fun type => ?_
  split
  · rename_i permits
    refine bind (addAtom .object trivial) fun _ =>
      (addChild "*" value).mono fun _ valueAdmitted _ keyAdmitted => ?_
    simpa using ⟨keyAdmitted permits, valueAdmitted⟩
  · exact throw _

theorem addChildren (shape : List (String × Schema)) :
    Shows environment openTables ancestors
      (fun _ => ∀ field ∈ shape, field.2.IsAdmitted environment openTables ancestors)
      (shape.forM fun (name, schema) => Lowering.addChild name schema) :=
  forM fun field _ => addChild field.1 field.2

theorem object (shape : List (String × Schema)) (catchall : Option Schema) :
    Shows environment openTables ancestors
      (fun _ => ∀ field ∈ shape, field.2.IsAdmitted environment openTables ancestors)
      (form (run budget) ⟨environment, openTables⟩ (.object shape catchall)) := by
  refine bind (addAtom .object trivial) fun _ => ?_
  split
  · exact bind (markFlexible trivial) fun _ => (addChildren shape).mono fun _ each _ _ => each
  · exact (addChildren shape).mono fun _ each _ => each

/-- A lazy schema that is not cut off shows that what it stands for is admitted. -/
theorem resolved (admits : Admits environment budget) (other : Schema) :
    Shows environment openTables ancestors
      (fun _ => (LoweringState.ofField ancestors).isOpen other = false →
        (∀ table, other.table? = some table → table.name ∉ openTables) →
          other.IsAdmitted environment openTables ancestors)
      (resolved (run budget) ⟨environment, openTables⟩ other) := by
  refine get fun state below => ?_
  rw [LoweringState.isOpen_eq below]
  split
  · rename_i isOpen
    refine bind (notify _ trivial) fun _ => addAtom .any fun _ notUnderWay => ?_
    rw [isOpen] at notUnderWay
    cases notUnderWay
  · have lowers := (admits openTables ancestors other).mono fun _ admitted
      (_ : (LoweringState.ofField ancestors).isOpen other = false)
      (_ : ∀ table, other.table? = some table → table.name ∉ openTables) => admitted
    cases isTable : other.table? with
    | none => simpa only [isTable] using lowers
    | some table =>
        simp only
        split
        · rename_i isDefined
          refine bind (notify _ trivial) fun _ => addAtom .any fun _ _ notDefined => ?_
          exact absurd (by simpa using isDefined) (notDefined table rfl)
        · simpa only [isTable] using lowers

theorem form (admits : Admits environment budget) (form : Form Schema) :
    Shows environment openTables ancestors
      (fun _ => form.IsAdmitted environment openTables ancestors)
      (Lowering.form (run budget) ⟨environment, openTables⟩ form) := by
  have leaf {atom : TypeAtom} (admitted : form.kind.isRefused = false)
      (none : form.loweredParts = []) (eager : ∀ target, form ≠ .lazily target) :
      Shows environment openTables ancestors
        (fun _ => form.IsAdmitted environment openTables ancestors) (Lowering.addAtom atom) :=
    addAtom atom ⟨admitted, by simp [none], fun target _ isLazy => absurd isLazy (eager target)⟩
  have single {inner : Schema} (admitted : form.kind.isRefused = false)
      (one : form.loweredParts = [inner]) (eager : ∀ target, form ≠ .lazily target)
      (isAdmitted : inner.IsAdmitted environment openTables ancestors) :
      form.IsAdmitted environment openTables ancestors :=
    ⟨admitted, by simpa [one] using isAdmitted, fun target _ isLazy => absurd isLazy (eager target)⟩
  cases form with
  | promise inner => exact throw _
  | function => exact throw _
  | custom check message => exact throw _
  | symbol => exact throw _
  | table described => exact throw _
  | number rules => exact given fun atom _ => leaf rfl rfl (by simp)
  | bigint format => exact given fun atom _ => leaf rfl rfl (by simp)
  | optional inner | nullable inner =>
      exact bind (admits openTables ancestors inner) fun _ =>
        addAtom _ (single rfl rfl (by simp))
  | nonoptional inner =>
      exact bind (inFresh (admits openTables ancestors inner)) fun _ =>
        addAtoms _ (single rfl rfl (by simp))
  | default inner value | prefault inner value =>
      exact bind (keepDefault value trivial) fun _ =>
        (admits openTables ancestors inner).mono fun _ admitted _ => single rfl rfl (by simp) admitted
  | fallback inner value | readonly inner =>
      exact (admits openTables ancestors inner).mono fun _ => single rfl rfl (by simp)
  | pipe source target =>
      simp only [Lowering.form]
      split
      · rename_i isTransform
        exact (admits openTables ancestors target).mono fun _ =>
          single rfl (if_pos isTransform) (by simp)
      · rename_i notTransform
        exact (admits openTables ancestors source).mono fun _ =>
          single rfl (if_neg notTransform) (by simp)
  | object shape catchall =>
      refine (object shape catchall).mono fun _ each => ⟨rfl, fun part member => ?_, by simp⟩
      obtain ⟨field, isField, rfl⟩ := List.mem_map.mp member
      exact each field isField
  | array element least most | set element least most =>
      exact (container admits element).mono fun _ => single rfl rfl (by simp)
  | record key value | map key value =>
      exact (keyed admits key value).mono fun _ each => ⟨rfl, each, by simp⟩
  | tuple items rest =>
      cases rest with
      | some rest => exact leaf rfl rfl (by simp)
      | none =>
          exact bind (mapM fun item _ => elementType admits item) fun types =>
            addAtom _ fun each => ⟨rfl, each, by simp⟩
  | union options =>
      exact (forM fun option _ => admits openTables ancestors option).mono fun _ each =>
        ⟨rfl, each, by simp⟩
  | enumeration values | literal values =>
      exact (forM fun value _ => given fun _ _ => addAtom _ trivial).mono fun _ _ =>
        ⟨rfl, by simp [Form.loweredParts, Form.lowered], by simp⟩
  | lazily target =>
      refine given fun other resolves => (resolved admits other).mono fun _ admitted => ?_
      refine ⟨rfl, by simp [Form.loweredParts, Form.lowered], ?_⟩
      rintro sameTarget same ⟨⟩ resolvesToo
      cases resolves.symm.trans resolvesToo
      exact admitted
  | reference tables identifier =>
      cases tables with
      | none => exact leaf rfl rfl (by simp)
      | some names => cases names <;> exact leaf rfl rfl (by simp)
  | any | unknown | never | undefined | void | null | boolean | uuid format
  | date coerce | transform change | intersection left right => exact leaf rfl rfl (by simp)
  | text rules =>
      refine leaf ?_ rfl (by simp)
      cases format : rules.format <;> simp [Form.kind, format, Kind.isRefused]

/-- A schema that is lowered well is admitted when its children are. -/
theorem run (environment : Environment) (budget : Nat) : Admits environment budget := by
  induction budget with
  | zero => exact fun _ _ _ => throw _
  | succ budget ih =>
      intro openTables ancestors schema
      refine get fun state _ => ?_
      split
      · exact throw _
      · exact inside ((form ih schema.form).mono fun _ admitted => admitted.schema)

end Shows
end Lowering

/-- A schema that is lowered well is admitted when its children are. -/
theorem Schema.isAdmitted_of_lowered {environment : Environment} {openTables : List String}
    {ancestors : List Ancestor} {schema : Schema} {field : LoweredField}
    (lowers : (schema.lowered ⟨environment, openTables⟩ ancestors).outcome = .ok field)
    (children : ∀ child ∈ field.children,
      child.schema.IsAdmitted environment openTables child.ancestors) :
    schema.IsAdmitted environment openTables ancestors := by
  unfold lowered at lowers
  rcases runs : Lowering.enter ⟨environment, openTables⟩ schema (.ofField ancestors) with
    ⟨outcome, final⟩
  rw [runs] at lowers
  obtain ⟨done, rfl, rfl⟩ := (except_map_eq_ok_iff _ _ _).mp lowers
  exact ((Lowering.Shows.run environment _ openTables ancestors schema _ done final rfl runs).2
    children).2

end TypedTables
