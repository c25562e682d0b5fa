import Mathlib.Logic.Relation
import TypedTables.Proofs.FieldType.Terms

/-!
# Growing ancestors

Whatever is lowered inside of a schema is lowered below one more ancestor, which is like none
before it, and so are the fields that lowering leaves for later.
-/

namespace TypedTables

def isOneMore (before after : List Ancestor) : Bool :=
  match after with
  | [] => false
  | newest :: earlier => decide (earlier = before) && (newest.isNone || !before.contains newest)

theorem isOneMore_of_isOpen_eq_false {schema : Schema} {ancestors : List Ancestor}
    (isNew : (LoweringState.ofField ancestors).isOpen schema = false) :
    isOneMore ancestors (schema.identity :: ancestors) = true := by
  unfold isOneMore
  cases identity : schema.identity with
  | none => simp
  | some own =>
      have absent : some own ∉ ancestors := fun member => by
        simp [Schema.isOpen_iff.mpr ⟨own, identity, member⟩] at isNew
      simpa using absent

namespace Lowering

variable {α β : Type} {ancestors : List Ancestor}

/-- Below the ancestors two steps do the same, and leave the ancestors as they are. -/
def AgreeBelow (ancestors : List Ancestor) (first second : Lowering α) : Prop :=
  ∀ state, state.ancestors = ancestors →
    first state = second state ∧
      ∀ value final, second state = (.ok value, final) → final.ancestors = ancestors

namespace AgreeBelow

theorem of_abides {terms : LoweringTerms} {gives : α → Prop} {action : Lowering α}
    (abides : Abides terms ancestors gives action) : AgreeBelow ancestors action action := by
  refine fun state below => ⟨rfl, fun value final ends => ?_⟩
  obtain ⟨-, same, -⟩ := abides state _ final below ends
  exact same.trans below

theorem pure (value : α) : AgreeBelow ancestors (Pure.pure value : Lowering α) (Pure.pure value) :=
  fun state below => ⟨rfl, fun result final ends => by
    obtain ⟨-, rfl⟩ := Prod.mk.inj ends
    exact below⟩

theorem bind {first second : Lowering α} {next others : α → Lowering β}
    (agree : AgreeBelow ancestors first second)
    (further : ∀ value, AgreeBelow ancestors (next value) (others value)) :
    AgreeBelow ancestors (first >>= next) (second >>= others) := by
  intro state below
  obtain ⟨same, keeps⟩ := agree state below
  simp only [Bind.bind, ExceptT.bind, ExceptT.mk, StateT.bind, same]
  rcases runs : second state with ⟨outcome, middle⟩
  cases outcome with
  | error cause => exact ⟨rfl, fun value final ends => by cases ends⟩
  | ok value => exact further value middle (keeps value middle runs)

theorem given {outcome : Except Fault α} {next others : α → Lowering β}
    (further : ∀ value, outcome = .ok value → AgreeBelow ancestors (next value) (others value)) :
    AgreeBelow ancestors (Lowering.given outcome >>= next) (Lowering.given outcome >>= others) := by
  cases outcome with
  | error cause => exact fun state below => ⟨rfl, fun value final ends => by cases ends⟩
  | ok value => exact fun state below => further value rfl state below

theorem get {next others : LoweringState → Lowering β}
    (further : ∀ state, state.ancestors = ancestors →
      AgreeBelow ancestors (next state) (others state)) :
    AgreeBelow ancestors (MonadState.get >>= next) (MonadState.get >>= others) :=
  fun state below => further state below state below

theorem forM {items : List α} {first second : α → Lowering PUnit}
    (each : ∀ item ∈ items, AgreeBelow ancestors (first item) (second item)) :
    AgreeBelow ancestors (items.forM first) (items.forM second) := by
  induction items with
  | nil => exact pure _
  | cons item rest ih =>
      exact bind (each item (by simp)) fun _ => ih fun next member => each next (by simp [member])

theorem mapM {items : List α} {first second : α → Lowering β}
    (each : ∀ item ∈ items, AgreeBelow ancestors (first item) (second item)) :
    AgreeBelow ancestors (items.mapM first) (items.mapM second) := by
  induction items with
  | nil => exact pure _
  | cons item rest ih =>
      rw [List.mapM_cons, List.mapM_cons]
      refine bind (each item (by simp)) fun value => ?_
      exact bind (ih fun next member => each next (by simp [member])) fun values =>
        pure (value :: values)

theorem inFresh {segment : Option String} {first second : Lowering Unit}
    (agree : AgreeBelow ancestors first second) :
    AgreeBelow ancestors (inFresh segment first) (inFresh segment second) := by
  intro state below
  obtain ⟨same, keeps⟩ := agree { state with context := state.context.fresh segment } below
  unfold Lowering.inFresh
  rw [same]
  refine ⟨rfl, fun value final ends => ?_⟩
  rcases runs : second { state with context := state.context.fresh segment } with ⟨outcome, inner⟩
  simp only [runs] at ends
  obtain ⟨maps, rfl⟩ := Prod.mk.inj ends
  cases outcome with
  | error cause => cases maps
  | ok done => exact keeps done inner runs

theorem apart {first second : Lowering Unit} (agree : AgreeBelow ancestors first second) :
    AgreeBelow ancestors (apart first) (apart second) := by
  intro state below
  obtain ⟨same, -⟩ := agree (.ofField state.ancestors) below
  unfold Lowering.apart
  rw [same]
  refine ⟨rfl, fun value final ends => ?_⟩
  obtain ⟨-, rfl⟩ := Prod.mk.inj ends
  exact below

theorem inside {schema : Schema} {first second : Lowering Unit}
    (agree : AgreeBelow (schema.identity :: ancestors) first second) :
    AgreeBelow ancestors (inside schema first) (inside schema second) := by
  intro state below
  obtain ⟨same, keeps⟩ := agree { state with ancestors := schema.identity :: state.ancestors }
    (by rw [← below])
  unfold Lowering.inside
  rw [same]
  refine ⟨rfl, fun value final ends => ?_⟩
  rcases runs : second { state with ancestors := schema.identity :: state.ancestors } with
    ⟨outcome, inner⟩
  simp only [runs] at ends
  obtain ⟨rfl, rfl⟩ := Prod.mk.inj ends
  rw [keeps value inner runs]
  rfl

variable {first second : Lowerer} {scope : LoweringScope}

theorem of_step {action : Lowering α}
    (abides : Abides (.untyped (fun _ => True) fun _ => True) ancestors anyResult action) :
    AgreeBelow ancestors action action := of_abides abides

theorem addChildren (shape : List (String × Schema)) :
    AgreeBelow ancestors (shape.forM fun (name, schema) => Lowering.addChild name schema)
      (shape.forM fun (name, schema) => Lowering.addChild name schema) :=
  forM fun _ _ => of_step (.addChild fun _ => trivial)

theorem elementType {element : Schema}
    (agree : AgreeBelow ancestors (first scope element) (second scope element)) :
    AgreeBelow ancestors (elementType first scope element) (elementType second scope element) :=
  bind (inFresh agree) fun _ => pure _

theorem container {element : Schema}
    (agree : AgreeBelow ancestors (first scope element) (second scope element)) :
    AgreeBelow ancestors (container first scope element) (container second scope element) :=
  bind (elementType agree) fun _ => of_step (.addAtom trivial)

theorem keyed {key value : Schema}
    (agree : AgreeBelow ancestors (first { scope with openTables := [] } key)
      (second { scope with openTables := [] } key)) :
    AgreeBelow ancestors (keyed first scope key value) (keyed second scope key value) := by
  refine bind (apart agree) fun keyType => ?_
  split
  · exact bind (of_step (.addAtom trivial)) fun _ => of_step (.addChild fun _ => trivial)
  · exact of_step (.throw trivial)

theorem resolved {target : Schema}
    (agree : (LoweringState.ofField ancestors).isOpen target = false →
      AgreeBelow ancestors (first scope target) (second scope target)) :
    AgreeBelow ancestors (resolved first scope target) (resolved second scope target) := by
  refine get fun state below => ?_
  have cut (notice : Notice) : AgreeBelow ancestors
      (do Lowering.notify notice; Lowering.addAtom .any)
      (do Lowering.notify notice; Lowering.addAtom .any) :=
    bind (of_step (.notify notice)) fun _ => of_step (.addAtom trivial)
  rw [LoweringState.isOpen_eq below]
  split
  · exact cut _
  · rename_i isClosed
    have enters := agree (by simpa using isClosed)
    cases target.table? with
    | none => exact enters
    | some table =>
        simp only
        split
        · exact cut _
        · exact enters

/-- A form is lowered in the same way when the schemas that it is made of are, and what a lazy
schema stands for is where it is not under way. -/
theorem form {form : Form Schema}
    (parts : ∀ part ∈ form.lowered, ∀ openTables,
      AgreeBelow ancestors (first { scope with openTables } part)
        (second { scope with openTables } part))
    (resolves : ∀ target schema, form = .lazily target →
      scope.environment.resolve target = .ok schema →
        (LoweringState.ofField ancestors).isOpen schema = false →
          AgreeBelow ancestors (first scope schema) (second scope schema)) :
    AgreeBelow ancestors (Lowering.form first scope form) (Lowering.form second scope form) := by
  have part {inner : Schema} (member : inner ∈ form.lowered) :
      AgreeBelow ancestors (first scope inner) (second scope inner) :=
    parts inner member scope.openTables
  have leaf (isLeaf : form.lowered = []) (eager : ∀ target, form ≠ .lazily target) :
      AgreeBelow ancestors (Lowering.form second scope form) (Lowering.form second scope form) := by
    refine of_step (abides_form (.of_isOfForm fun _ _ => trivial)
      LoweringTerms.allowsAtoms_untyped ?_ ?_ ?_ ?_)
    · intro inner member
      rw [isLeaf] at member
      cases member
    · intro inner member
      rw [isLeaf] at member
      cases member
    · exact fun target _ isLazy => absurd isLazy (eager target)
    · exact fun target _ isLazy => absurd isLazy (eager target)
  cases form with
  | optional inner | nullable inner =>
      exact bind (part (by simp [Form.lowered])) fun _ => of_step (.addAtom trivial)
  | nonoptional inner =>
      exact bind (inFresh (part (by simp [Form.lowered]))) fun _ =>
        of_step (.addAtoms fun _ _ => trivial)
  | default inner value | prefault inner value =>
      exact bind (of_step (.keepDefault value)) fun _ => part (by simp [Form.lowered])
  | fallback inner value | readonly inner => exact part (by simp [Form.lowered])
  | pipe source target =>
      simp only [Lowering.form]
      split
      · exact part (by simp [Form.lowered])
      · exact part (by simp [Form.lowered])
  | array element least most | set element least most =>
      exact container (part (by simp [Form.lowered]))
  | record key value | map key value => exact keyed (parts key (by simp [Form.lowered]) [])
  | tuple items rest =>
      cases rest with
      | some schema => exact leaf rfl (by simp)
      | none =>
          exact bind (mapM fun item member => elementType (part member)) fun _ =>
            of_step (.addAtom trivial)
  | union options => exact forM fun option member => part member
  | lazily target =>
      exact given fun schema resolved => .resolved (resolves target schema rfl resolved)
  | object shape catchall =>
      refine bind (of_step (.addAtom trivial)) fun _ => ?_
      split
      · exact bind (of_step .markFlexible) fun _ => addChildren shape
      · exact addChildren shape
  | _ => exact leaf rfl (by simp)

end AgreeBelow

/-- Lowers a schema, but ends in an alarm when it is not lowered below one more ancestor, which is
like none before it. -/
def watching (alarm : Fault) (before : List Ancestor) (lower : Lowerer) : Lowerer :=
  fun scope schema => get >>= fun state =>
    if isOneMore before state.ancestors then lower scope schema else throw alarm

/-- Lowers a schema, and watches whatever is lowered inside of it. -/
def watchedRun (alarm : Fault) : Nat → Lowerer
  | 0 => fun _ _ => throw .tooDeep
  | budget + 1 => fun scope schema =>
      get >>= fun state =>
        if state.isOpen schema then throw (.lowering (.recursive schema.kind.name) none)
        else inside schema
          (form (watching alarm state.ancestors (watchedRun alarm budget)) scope schema.form)

theorem AgreeBelow.run (budget : Nat) (scope : LoweringScope) (schema : Schema) :
    AgreeBelow ancestors (run budget scope schema) (run budget scope schema) :=
  of_step (abides_run_of_atoms LoweringTerms.allowsAtoms_untyped (fun _ => trivial)
    (fun _ => trivial) budget scope schema)

theorem AgreeBelow.watching {alarm : Fault} {before : List Ancestor} {lower : Lowerer}
    {scope : LoweringScope} {schema : Schema} (isMore : isOneMore before ancestors = true)
    (agree : AgreeBelow ancestors (lower scope schema) (lower scope schema)) :
    AgreeBelow ancestors (watching alarm before lower scope schema) (lower scope schema) := by
  refine fun state below => ⟨?_, (agree state below).2⟩
  change (if isOneMore before state.ancestors then lower scope schema else throw alarm) state = _
  rw [below, if_pos isMore]

/-- The alarm is never given: whatever is lowered inside of a schema has one more ancestor, which is
like none before it. -/
theorem watchedRun_eq_run (alarm : Fault) (budget : Nat) :
    watchedRun alarm budget = run budget := by
  induction budget with
  | zero => rfl
  | succ budget ih =>
      funext scope schema state
      rw [watchedRun, ih]
      change (if state.isOpen schema then _ else inside schema _) state =
        (if state.isOpen schema then _ else inside schema _) state
      split
      · rfl
      · rename_i notOpen
        have isNew : (LoweringState.ofField state.ancestors).isOpen schema = false := by
          rw [← LoweringState.isOpen_eq rfl]
          simpa using notOpen
        have isMore := isOneMore_of_isOpen_eq_false isNew
        -- The form is lowered below the schema, where the watch compares with the state before.
        exact (AgreeBelow.inside (.form
          (fun part _ _ => .watching isMore (.run budget _ part))
          (fun _ other _ _ _ => .watching isMore (.run budget scope other))) state rfl).1

end Lowering

/-- Whatever a field leaves for later has more ancestors than the field, each like none before. -/
theorem Schema.endsIn_lowered_isOneMore (schema : Schema) (scope : LoweringScope)
    (ancestors : List Ancestor) :
    EndsIn (fun _ => True)
      (fun field => ∀ child ∈ field.children,
        Relation.TransGen (fun before after => isOneMore before after = true) ancestors
          child.ancestors)
      (schema.lowered scope ancestors).outcome := by
  have abides : Lowering.Abides
      (.untyped (fun _ => True) fun child =>
        Relation.TransGen (fun before after => isOneMore before after = true) ancestors
          child.ancestors)
      ancestors Lowering.anyResult (Lowering.enter scope schema) := by
    refine Lowering.abides_run
      (fun _ inner _ =>
        Relation.ReflTransGen (fun before after => isOneMore before after = true) ancestors inner)
      (.of_isOfForm fun _ _ => trivial) LoweringTerms.allowsAtoms_untyped ?_ ?_ ?_ ?_ ?_ .refl
      scope.openTables
    · exact fun _ _ _ => trivial
    · exact fun _ _ _ _ _ => trivial
    · intro budget inner schema grown isNew part _
      have further := Relation.TransGen.tail' grown (isOneMore_of_isOpen_eq_false isNew)
      exact ⟨further.to_reflTransGen, fun _ => further⟩
    · exact fun _ _ _ _ _ _ _ _ _ => trivial
    · intro budget inner schema grown isNew _ _ _ _ _
      exact grown.tail (isOneMore_of_isOpen_eq_false isNew)
  exact (Schema.endsIn_lowered abides).mono (fun _ => id) fun _ kept => kept.2

end TypedTables
