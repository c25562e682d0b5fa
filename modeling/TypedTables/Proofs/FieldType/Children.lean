import TypedTables.Proofs.FieldType.Terms

/-!
# Children of a field

Objects and records keep children for later, and whatever a schema lowers in its own place, or as
an element, keeps its children for the same field. A field has one source of children when, of the
options of each union and of the items of each tuple, at most one brings any. Then no two children
of the field have the same path, and all their paths are of one length.
-/

namespace TypedTables

/-- The schemas that lowering a form may lower as part of the same field, and whose children are
children of the field. -/
def Form.entered {σ : Type} : Form σ → List σ
  | .object .. | .record .. | .map .. => []
  | form => form.lowered

theorem Form.mem_lowered_of_mem_entered {σ : Type} {form : Form σ} {part : σ}
    (member : part ∈ form.entered) : part ∈ form.lowered := by
  cases form with
  | object shape catchall | record key value | map key value => cases member
  | _ => exact member

/-- Lowering the schema can leave children for later. -/
inductive Schema.BringsChildren (environment : Environment) : Schema → Prop
  | object {schema : Schema} {field : String × Schema} {shape : List (String × Schema)}
      {catchall : Option Schema} (isObject : schema.form = .object shape catchall)
      (member : field ∈ shape) : BringsChildren environment schema
  | keyed {schema key value : Schema}
      (isKeyed : schema.form = .record key value ∨ schema.form = .map key value) :
      BringsChildren environment schema
  | entered {schema part : Schema} (member : part ∈ schema.form.entered)
      (brings : BringsChildren environment part) : BringsChildren environment schema
  | resolved {schema other : Schema} {target : LazyTarget Schema}
      (isLazy : schema.form = .lazily target) (resolves : environment.resolve target = .ok other)
      (brings : BringsChildren environment other) : BringsChildren environment schema

def Schema.OneBrings (environment : Environment) (schemas : List Schema) : Prop :=
  schemas.Pairwise fun first second =>
    ¬(first.BringsChildren environment ∧ second.BringsChildren environment)

/-- Of what the form lowers for one field at most one brings children, each under its own name. -/
def Form.HasOneSource (environment : Environment) : Form Schema → Prop
  | .union options => Schema.OneBrings environment options
  | .tuple items none => Schema.OneBrings environment items
  | .object shape _ => (shape.map Prod.fst).Nodup
  | _ => True

/-- The paths of children differ, and have one length. -/
def AreApart (children : List ChildField) : Prop :=
  (children.map ChildField.path).Nodup ∧
    ∃ depth, ∀ child ∈ children, child.path.length = depth + 1

theorem areApart_nil : AreApart [] := ⟨List.nodup_nil, 0, by simp⟩

namespace Lowering

variable {α β : Type} {brings further : Prop}

/-- A step that ends well keeps children that are apart, and only if it brings any. -/
def Keeps (brings : Prop) (action : Lowering α) : Prop :=
  ∀ state value final, action state = (.ok value, final) →
    ∃ kept, final.children = state.children ++ kept ∧ AreApart kept ∧ (¬brings → kept = [])

namespace Keeps

theorem mono {action : Lowering α} (keeps : Keeps brings action) (more : brings → further) :
    Keeps further action := by
  intro state value final ends
  obtain ⟨kept, grows, apart, none⟩ := keeps state value final ends
  exact ⟨kept, grows, apart, fun not => none fun brought => not (more brought)⟩

theorem of_same {action : Lowering α}
    (same : ∀ state value final, action state = (.ok value, final) →
      final.children = state.children) : Keeps brings action := by
  intro state value final ends
  exact ⟨[], by simp [same state value final ends], areApart_nil, fun _ => rfl⟩

theorem pure (value : α) : Keeps brings (Pure.pure value : Lowering α) :=
  of_same fun state result final ends => by
    obtain ⟨-, rfl⟩ := Prod.mk.inj ends
    rfl

theorem throw (cause : Fault) : Keeps brings (MonadExcept.throw cause : Lowering α) :=
  fun _ _ _ ends => absurd ends throw_ne_ok

theorem modify {change : LoweringState → LoweringState}
    (same : ∀ state, (change state).children = state.children) :
    Keeps brings (modify change : Lowering PUnit) :=
  of_same fun state value final ends => by
    obtain ⟨-, rfl⟩ := Prod.mk.inj ends
    exact same state

theorem bind {first : Lowering α} {next : α → Lowering β} (keeps : Keeps brings first)
    (keepsNext : ∀ value, Keeps further (next value)) (one : ¬(brings ∧ further)) :
    Keeps (brings ∨ further) (first >>= next) := by
  intro state result final ends
  obtain ⟨value, middle, endsFirst, endsNext⟩ := bind_eq_ok ends
  obtain ⟨kept, grows, apart, none⟩ := keeps state value middle endsFirst
  obtain ⟨more, growsMore, apartMore, noneMore⟩ := keepsNext value middle result final endsNext
  by_cases brought : brings
  · have nothing := noneMore fun also => one ⟨brought, also⟩
    subst nothing
    exact ⟨kept, by simpa [growsMore] using grows, apart, fun not => absurd (Or.inl brought) not⟩
  · have nothing := none brought
    subst nothing
    refine ⟨more, by simpa [grows] using growsMore, apartMore, fun not => ?_⟩
    exact noneMore fun also => not (Or.inr also)

/-- A step that brings none can come before. -/
theorem after {first : Lowering α} {next : α → Lowering β} (keeps : Keeps False first)
    (keepsNext : ∀ value, Keeps further (next value)) : Keeps further (first >>= next) :=
  (bind keeps keepsNext (by simp)).mono (by simp)

/-- A step that brings none can come afterwards. -/
theorem before {first : Lowering α} {next : α → Lowering β} (keeps : Keeps brings first)
    (keepsNext : ∀ value, Keeps False (next value)) : Keeps brings (first >>= next) :=
  (bind keeps keepsNext (by simp)).mono (by simp)

theorem forM {items : List α} {action : α → Lowering PUnit} {each : α → Prop}
    (keeps : ∀ item ∈ items, Keeps (each item) (action item))
    (one : items.Pairwise fun first second => ¬(each first ∧ each second)) :
    Keeps (∃ item ∈ items, each item) (items.forM action) := by
  induction items with
  | nil => exact pure _
  | cons item rest ih =>
      obtain ⟨apart, others⟩ := List.pairwise_cons.mp one
      refine (bind (keeps item (by simp))
        (fun _ => ih (fun next member => keeps next (by simp [member])) others) ?_).mono (by simp)
      rintro ⟨brought, next, member, also⟩
      exact apart next member ⟨brought, also⟩

theorem mapM {items : List α} {action : α → Lowering β} {each : α → Prop}
    (keeps : ∀ item ∈ items, Keeps (each item) (action item))
    (one : items.Pairwise fun first second => ¬(each first ∧ each second)) :
    Keeps (∃ item ∈ items, each item) (items.mapM action) := by
  induction items with
  | nil => exact pure _
  | cons item rest ih =>
      obtain ⟨apart, others⟩ := List.pairwise_cons.mp one
      rw [List.mapM_cons]
      refine (bind (keeps item (by simp)) (fun value => before
        (ih (fun next member => keeps next (by simp [member])) others)
        fun values => pure (value :: values)) ?_).mono (by simp)
      rintro ⟨brought, next, member, also⟩
      exact apart next member ⟨brought, also⟩

theorem given {outcome : Except Fault α} {next : α → Lowering β}
    (keeps : ∀ value, outcome = .ok value → Keeps brings (next value)) :
    Keeps brings (Lowering.given outcome >>= next) := by
  intro state result final ends
  obtain ⟨value, isValue, endsNext⟩ := given_bind_eq_ok ends
  exact keeps value isValue state result final endsNext

theorem inFresh {segment : Option String} {action : Lowering Unit} (keeps : Keeps brings action) :
    Keeps brings (inFresh segment action) := by
  intro state context final ends
  obtain ⟨inner, runs, -, rfl⟩ := inFresh_eq_ok ends
  exact keeps { state with context := state.context.fresh segment } () inner runs

theorem apart (action : Lowering Unit) : Keeps brings (apart action) :=
  of_same fun state type final ends => by
    obtain ⟨-, rfl⟩ := Prod.mk.inj ends
    rfl

theorem inside {schema : Schema} {action : Lowering Unit} (keeps : Keeps brings action) :
    Keeps brings (inside schema action) := by
  intro state value final ends
  obtain ⟨inner, runs, rfl⟩ := inside_eq_ok ends
  exact keeps { state with ancestors := schema.identity :: state.ancestors } () inner runs

theorem addAtom (atom : TypeAtom) : Keeps brings (addAtom atom) := modify fun _ => rfl

theorem addAtoms (atoms : List TypeAtom) : Keeps brings (addAtoms atoms) := modify fun _ => rfl

theorem notify (notice : Notice) : Keeps brings (notify notice) := modify fun _ => rfl

theorem keepDefault (value : Value) : Keeps brings (keepDefault value) := by
  refine modify fun state => ?_
  split <;> rfl

theorem markFlexible : Keeps brings markFlexible := by
  refine modify fun state => ?_
  split <;> rfl

variable {environment : Environment} {lower : Lowerer} {scope : LoweringScope}

theorem elementType {element : Schema} (keeps : Keeps brings (lower scope element)) :
    Keeps brings (elementType lower scope element) :=
  before (inFresh keeps) fun _ => pure _

theorem container {element : Schema} (keeps : Keeps brings (lower scope element)) :
    Keeps brings (container lower scope element) :=
  before (elementType keeps) fun _ => addAtom _

theorem literals (values : List Value) : Keeps brings (literals values) := by
  have each : ∀ value ∈ values, Keeps False (do
      let _ ← Lowering.given value.literal
      Lowering.addAtom (.literal value)) :=
    fun value _ => given fun _ _ => addAtom _
  refine (forM each (List.pairwise_of_forall (by simp))).mono ?_
  rintro ⟨_, _, ⟨⟩⟩

theorem addChild (name : String) (schema : Schema) (brought : brings) :
    Keeps brings (addChild name schema) := by
  intro state value final ends
  obtain ⟨-, rfl⟩ := Prod.mk.inj ends
  refine ⟨[_], rfl, ⟨List.nodup_singleton _, state.context.path.length, ?_⟩, absurd brought⟩
  simp

theorem forM_addChild (shape : List (String × Schema)) (state : LoweringState) :
    (shape.forM fun (name, schema) => Lowering.addChild name schema) state =
      (.ok ⟨⟩, { state with children := state.children ++ shape.map fun field =>
        (⟨state.context.path ++ [field.1], field.2, state.ancestors⟩ : ChildField) }) := by
  induction shape generalizing state with
  | nil =>
      rw [List.map_nil, List.append_nil]
      rfl
  | cons field rest ih =>
      change (rest.forM fun (name, schema) => Lowering.addChild name schema)
        { state with children := state.children ++
          [(⟨state.context.path ++ [field.1], field.2, state.ancestors⟩ : ChildField)] } = _
      rw [ih]
      simp

theorem addChildren {shape : List (String × Schema)} (distinct : (shape.map Prod.fst).Nodup)
    (brought : ∀ field ∈ shape, brings) :
    Keeps brings (shape.forM fun (name, schema) => Lowering.addChild name schema) := by
  intro state value final ends
  rw [forM_addChild] at ends
  obtain ⟨-, rfl⟩ := Prod.mk.inj ends
  refine ⟨_, rfl, ⟨?_, state.context.path.length, fun child member => ?_⟩, fun not => ?_⟩
  · have paths : (shape.map fun field => state.context.path ++ [field.1]) =
        (shape.map Prod.fst).map fun name => state.context.path ++ [name] := by simp
    simp only [List.map_map, Function.comp_def]
    rw [paths]
    exact distinct.map fun first second equal => by simpa using equal
  · obtain ⟨field, -, rfl⟩ := List.mem_map.mp member
    simp
  · cases shape with
    | nil => rfl
    | cons field rest => exact absurd (brought field (by simp)) not

theorem keyed {key value : Schema} (brought : brings) :
    Keeps brings (keyed lower scope key value) := by
  refine after (apart _) fun keyType => ?_
  split
  · exact after (addAtom _) fun _ => addChild "*" value brought
  · exact throw _

theorem resolved {target : Schema} (keeps : Keeps brings (lower scope target)) :
    Keeps brings (resolved lower scope target) := by
  have cut (notice : Notice) :
      Keeps brings (do Lowering.notify notice; Lowering.addAtom .any) :=
    after (notify notice) fun _ => addAtom .any
  refine after (of_same fun state value final ends => by
    obtain ⟨-, rfl⟩ := Prod.mk.inj ends
    rfl) fun state => ?_
  split
  · exact cut _
  · cases target.table? with
    | none => exact keeps
    | some table =>
        simp only
        split
        · exact cut _
        · exact keeps

theorem form {schema : Schema} (source : schema.form.HasOneSource environment)
    (entered : ∀ part ∈ schema.form.entered,
      Keeps (part.BringsChildren environment) (lower scope part))
    (resolves : ∀ target other, schema.form = .lazily target →
      scope.environment.resolve target = .ok other →
        Keeps (other.BringsChildren environment) (lower scope other))
    (same : scope.environment = environment) :
    Keeps (schema.BringsChildren environment) (Lowering.form lower scope schema.form) := by
  have part {inner : Schema} (member : inner ∈ schema.form.entered) :
      Keeps (schema.BringsChildren environment) (lower scope inner) :=
    (entered inner member).mono fun brings => .entered member brings
  cases isForm : schema.form with
  | promise inner => exact throw _
  | function => exact throw _
  | custom check message => exact throw _
  | symbol => exact throw _
  | table described => exact throw _
  | number rules => exact given fun atom _ => addAtom atom
  | bigint format => exact given fun atom _ => addAtom atom
  | optional inner | nullable inner =>
      exact before (part (by simp [isForm, Form.entered, Form.lowered])) fun _ => addAtom _
  | nonoptional inner =>
      exact before (inFresh (part (by simp [isForm, Form.entered, Form.lowered]))) fun _ =>
        addAtoms _
  | default inner value | prefault inner value =>
      exact after (keepDefault value) fun _ => part (by simp [isForm, Form.entered, Form.lowered])
  | fallback inner value | readonly inner =>
      exact part (by simp [isForm, Form.entered, Form.lowered])
  | pipe first second =>
      simp only [Lowering.form]
      split
      · exact part (by simp [isForm, Form.entered, Form.lowered])
      · exact part (by simp [isForm, Form.entered, Form.lowered])
  | object shape catchall =>
      rw [isForm] at source
      have kept : Keeps (schema.BringsChildren environment)
          (shape.forM fun (name, schema) => Lowering.addChild name schema) :=
        addChildren source fun field member => .object isForm member
      refine after (addAtom _) fun _ => ?_
      split
      · exact after markFlexible fun _ => kept
      · exact kept
  | array element least most | set element least most =>
      exact container (part (by simp [isForm, Form.entered, Form.lowered]))
  | record key value => exact keyed (.keyed (Or.inl isForm))
  | map key value => exact keyed (.keyed (Or.inr isForm))
  | tuple items rest =>
      cases rest with
      | some rest => exact addAtom _
      | none =>
          rw [isForm] at source
          have isPart {item : Schema} (member : item ∈ items) : item ∈ schema.form.entered := by
            simpa [isForm, Form.entered, Form.lowered] using member
          refine (before (mapM (fun item member => elementType (entered item (isPart member)))
            source) fun types => addAtom _).mono ?_
          rintro ⟨item, member, brings⟩
          exact .entered (isPart member) brings
  | union options =>
      rw [isForm] at source
      have isPart {option : Schema} (member : option ∈ options) : option ∈ schema.form.entered := by
        simpa [isForm, Form.entered, Form.lowered] using member
      refine (forM (fun option member => entered option (isPart member)) source).mono ?_
      rintro ⟨option, member, brings⟩
      exact .entered (isPart member) brings
  | enumeration values | literal values => exact literals values
  | lazily target =>
      refine given fun other resolved => .resolved ?_
      exact (resolves target other isForm resolved).mono fun brings =>
        .resolved isForm (by rwa [← same]) brings
  | reference tables identifier =>
      cases tables with
      | none => exact addAtom _
      | some names => cases names <;> exact addAtom _
  | any | unknown | never | undefined | void | null | boolean | text rules | uuid format
  | date coerce | transform change | intersection left right => exact addAtom _

/-- Lowering a schema keeps children that are apart when everything that is reached from it has one
source of children. -/
theorem run {budget : Nat} {openTables : List String} {schema : Schema}
    (sources : schema.Everywhere environment fun reached => reached.form.HasOneSource environment) :
    Keeps (schema.BringsChildren environment)
      (Lowering.run budget ⟨environment, openTables⟩ schema) := by
  induction budget generalizing schema openTables with
  | zero => exact throw _
  | succ budget ih =>
      refine after (of_same fun state value final ends => by
        obtain ⟨-, rfl⟩ := Prod.mk.inj ends
        rfl) fun state => ?_
      split
      · exact throw _
      · refine inside (form sources.here ?_ ?_ rfl)
        · intro part member
          exact ih (sources.part
            (Form.mem_parts_of_mem_lowered (Form.mem_lowered_of_mem_entered member)))
        · intro target other isLazy resolves
          exact ih (sources.resolved isLazy resolves)

end Keeps
end Lowering

namespace Schema

variable {environment : Environment} {schema : Schema}

theorem Everywhere.lowered {property : Schema → Prop}
    (everywhere : schema.Everywhere environment property) (openTables : List String)
    (ancestors : List Ancestor) :
    EndsIn (fun _ => True)
      (fun field => ∀ child ∈ field.children, child.schema.Everywhere environment property)
      (schema.lowered ⟨environment, openTables⟩ ancestors).outcome := by
  have abides : Lowering.Abides
      (.untyped (fun _ => True) fun child => child.schema.Everywhere environment property)
      ancestors Lowering.anyResult (Lowering.enter ⟨environment, openTables⟩ schema) := by
    refine Lowering.abides_run (fun _ _ reached => reached.Everywhere environment property)
      (.of_isOfForm fun _ _ => trivial) LoweringTerms.allowsAtoms_untyped ?_ ?_ ?_ ?_ ?_ everywhere
      openTables
    · exact fun _ _ _ => trivial
    · exact fun _ _ _ _ _ => trivial
    · intro budget inner reached held _ part member
      have further := held.part (Form.mem_parts_of_mem_lowered member)
      exact ⟨further, fun _ => further⟩
    · exact fun _ _ _ _ _ _ _ _ _ => trivial
    · exact fun budget inner reached held _ target other isLazy resolves _ =>
        held.resolved isLazy resolves
  exact (endsIn_lowered abides).mono (fun _ => id) fun _ kept => kept.2

/-- The children of a field are apart. -/
theorem areApart_of_lowered
    (sources : schema.Everywhere environment fun reached => reached.form.HasOneSource environment)
    {openTables : List String} {ancestors : List Ancestor} {field : LoweredField}
    (lowers : (schema.lowered ⟨environment, openTables⟩ ancestors).outcome = .ok field) :
    AreApart field.children := by
  unfold lowered at lowers
  rcases runs : Lowering.enter ⟨environment, openTables⟩ schema (.ofField ancestors) with
    ⟨outcome, final⟩
  rw [runs] at lowers
  obtain ⟨done, rfl, rfl⟩ := (except_map_eq_ok_iff _ _ _).mp lowers
  obtain ⟨kept, grows, apart, -⟩ := Lowering.Keeps.run sources (.ofField ancestors) done final runs
  have same : final.children = kept := by simpa [LoweringState.ofField] using grows
  rw [← same] at apart
  exact apart

end Schema
end TypedTables
