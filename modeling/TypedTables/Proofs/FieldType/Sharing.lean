import TypedTables.Proofs.FieldType.Recursion
import TypedTables.Proofs.Schema.Identities

/-!
# Shared schemas

Lowering tells schemas apart by their identities only to notice that one lies in itself. In a tree
none does, in whichever places the tree holds the same schemas. So lowering a tree does the same with
the identities and without them, step by step, and what it leaves for later is the same but for the
identities.
-/

namespace TypedTables

def ChildField.unidentified (child : ChildField) : ChildField :=
  ⟨child.path, child.schema.unidentified, child.ancestors.map fun _ => none⟩

/-- The state without identities. -/
def LoweringState.unidentified (state : LoweringState) : LoweringState :=
  { state with
    ancestors := state.ancestors.map fun _ => none
    children := state.children.map ChildField.unidentified }

/-- The field without the identities of what it leaves for later. -/
def LoweredField.unidentified (field : LoweredField) : LoweredField :=
  { field with children := field.children.map ChildField.unidentified }

theorem LoweringState.isOpen_unidentified (state : LoweringState) (schema : Schema) :
    state.isOpen schema.unidentified = false := by
  unfold isOpen
  rw [schema.identity_unidentified]

namespace Lowering

variable {α β γ : Type} {ancestors : List Ancestor}

/-- Below the ancestors a step does the same as another one does without identities, and leaves the
ancestors as they are. -/
def Commutes (ancestors : List Ancestor) (action bare : Lowering α) : Prop :=
  ∀ state, state.ancestors = ancestors →
    bare state.unidentified = ((action state).1, (action state).2.unidentified) ∧
      (action state).2.ancestors = ancestors

namespace Commutes

theorem pure (value : α) : Commutes ancestors (Pure.pure value : Lowering α) (Pure.pure value) :=
  fun _ below => ⟨rfl, below⟩

theorem throw (cause : Fault) :
    Commutes ancestors (MonadExcept.throw cause : Lowering α) (MonadExcept.throw cause) :=
  fun _ below => ⟨rfl, below⟩

theorem given (outcome : Except Fault α) :
    Commutes ancestors (Lowering.given outcome) (Lowering.given outcome) :=
  fun _ below => ⟨rfl, below⟩

theorem modify {change changed : LoweringState → LoweringState}
    (same : ∀ state, changed state.unidentified = (change state).unidentified)
    (keeps : ∀ state, (change state).ancestors = state.ancestors) :
    Commutes ancestors (modify change : Lowering PUnit) (modify changed) :=
  fun state below => ⟨by
    change (Except.ok PUnit.unit, changed state.unidentified) = _
    rw [same]
    rfl, (keeps state).trans below⟩

theorem bind {action bare : Lowering α} {next others : α → Lowering β}
    (commutes : Commutes ancestors action bare)
    (further : ∀ value, Commutes ancestors (next value) (others value)) :
    Commutes ancestors (action >>= next) (bare >>= others) := by
  intro state below
  obtain ⟨same, keeps⟩ := commutes state below
  simp only [Bind.bind, ExceptT.bind, ExceptT.mk, StateT.bind, same]
  rcases runs : action state with ⟨outcome, middle⟩
  rw [runs] at keeps
  cases outcome with
  | error cause => exact ⟨rfl, keeps⟩
  | ok value => exact further value middle keeps

theorem forM {items : List α} {read : α → β} {first : α → Lowering PUnit}
    {second : β → Lowering PUnit}
    (each : ∀ item ∈ items, Commutes ancestors (first item) (second (read item))) :
    Commutes ancestors (items.forM first) ((items.map read).forM second) := by
  induction items with
  | nil => exact pure _
  | cons item rest ih =>
      exact bind (each item (by simp)) fun _ => ih fun next member => each next (by simp [member])

theorem mapM {items : List α} {read : α → β} {first : α → Lowering γ} {second : β → Lowering γ}
    (each : ∀ item ∈ items, Commutes ancestors (first item) (second (read item))) :
    Commutes ancestors (items.mapM first) ((items.map read).mapM second) := by
  induction items with
  | nil => exact pure _
  | cons item rest ih =>
      rw [List.map_cons, List.mapM_cons, List.mapM_cons]
      refine bind (each item (by simp)) fun value => ?_
      exact bind (ih fun next member => each next (by simp [member])) fun values =>
        pure (value :: values)

theorem inFresh {segment : Option String} {action bare : Lowering Unit}
    (commutes : Commutes ancestors action bare) :
    Commutes ancestors (inFresh segment action) (inFresh segment bare) := by
  intro state below
  obtain ⟨same, keeps⟩ := commutes { state with context := state.context.fresh segment } below
  have start : { state.unidentified with context := state.unidentified.context.fresh segment } =
      ({ state with context := state.context.fresh segment } : LoweringState).unidentified := rfl
  unfold Lowering.inFresh
  rw [start, same]
  exact ⟨rfl, keeps⟩

theorem apart {action bare : Lowering Unit} (commutes : Commutes ancestors action bare) :
    Commutes ancestors (apart action) (apart bare) := by
  intro state below
  obtain ⟨same, -⟩ := commutes (.ofField state.ancestors) below
  have start : LoweringState.ofField state.unidentified.ancestors =
      (LoweringState.ofField state.ancestors).unidentified := rfl
  unfold Lowering.apart
  rw [start, same]
  exact ⟨rfl, below⟩

theorem inside {schema : Schema} {action bare : Lowering Unit}
    (commutes : Commutes (schema.identity :: ancestors) action bare) :
    Commutes ancestors (inside schema action) (inside schema.unidentified bare) := by
  intro state below
  obtain ⟨same, keeps⟩ := commutes { state with ancestors := schema.identity :: state.ancestors }
    (by rw [← below])
  have start : { state.unidentified with ancestors := none :: state.unidentified.ancestors } =
      ({ state with ancestors := schema.identity :: state.ancestors } : LoweringState).unidentified :=
    rfl
  unfold Lowering.inside
  rw [schema.identity_unidentified, start, same]
  rcases runs : action { state with ancestors := schema.identity :: state.ancestors } with
    ⟨outcome, final⟩
  rw [runs] at keeps
  refine ⟨?_, congrArg List.tail keeps⟩
  simp only [LoweringState.unidentified, List.map_tail]

theorem addAtom (atom : TypeAtom) :
    Commutes ancestors (addAtom atom) (Lowering.addAtom atom) :=
  modify (fun _ => rfl) fun _ => rfl

theorem addAtoms (atoms : List TypeAtom) :
    Commutes ancestors (addAtoms atoms) (Lowering.addAtoms atoms) :=
  modify (fun _ => rfl) fun _ => rfl

theorem addChild (name : String) (schema : Schema) :
    Commutes ancestors (addChild name schema) (Lowering.addChild name schema.unidentified) :=
  modify (fun state => by simp [LoweringState.unidentified, ChildField.unidentified]) fun _ => rfl

theorem addChildren (shape : List (String × Schema)) :
    Commutes ancestors (shape.forM fun (name, schema) => Lowering.addChild name schema)
      ((Unidentified.ofFields shape).forM fun (name, schema) => Lowering.addChild name schema) := by
  rw [Unidentified.ofFields_eq_map]
  exact forM fun field _ => addChild field.1 field.2

theorem keepDefault (value : Value) :
    Commutes ancestors (keepDefault value) (Lowering.keepDefault value) :=
  modify (fun state => by rw [apply_ite LoweringState.unidentified]; rfl)
    fun state => by split <;> rfl

theorem markFlexible : Commutes ancestors markFlexible Lowering.markFlexible :=
  modify (fun state => by rw [apply_ite LoweringState.unidentified]; rfl)
    fun state => by split <;> rfl

variable {first second : Lowerer} {scope : LoweringScope}

theorem elementType {element : Schema}
    (commutes : Commutes ancestors (first scope element) (second scope element.unidentified)) :
    Commutes ancestors (elementType first scope element)
      (Lowering.elementType second scope element.unidentified) :=
  bind (inFresh commutes) fun _ => pure _

theorem container {element : Schema}
    (commutes : Commutes ancestors (first scope element) (second scope element.unidentified)) :
    Commutes ancestors (container first scope element)
      (Lowering.container second scope element.unidentified) :=
  bind (elementType commutes) fun _ => addAtom _

theorem keyed {key value : Schema}
    (commutes : Commutes ancestors (first { scope with openTables := [] } key)
      (second { scope with openTables := [] } key.unidentified)) :
    Commutes ancestors (keyed first scope key value)
      (Lowering.keyed second scope key.unidentified value.unidentified) := by
  refine bind (apart commutes) fun keyType => ?_
  split
  · exact bind (addAtom _) fun _ => addChild "*" value
  · exact throw _

theorem literals (values : List Value) :
    Commutes ancestors (literals values) (Lowering.literals values) := by
  have each : Commutes ancestors (Lowering.literals values)
      ((values.map id).forM fun value => do
        let _ ← Lowering.given value.literal
        Lowering.addAtom (.literal value)) :=
    forM fun value _ => bind (given _) fun _ => addAtom _
  rwa [List.map_id] at each

theorem form {form : Form Schema} (eager : ∀ target, form ≠ .lazily target)
    (parts : ∀ part ∈ form.lowered, ∀ openTables,
      Commutes ancestors (first { scope with openTables } part)
        (second { scope with openTables } part.unidentified)) :
    Commutes ancestors (Lowering.form first scope form)
      (Lowering.form second scope (Unidentified.ofForm form)) := by
  have part {inner : Schema} (member : inner ∈ form.lowered) :
      Commutes ancestors (first scope inner) (second scope inner.unidentified) :=
    parts inner member scope.openTables
  cases form with
  | promise inner | function | custom accepts message | symbol | table described => exact throw _
  | number rules | bigint format => exact bind (given _) fun atom => addAtom atom
  | optional inner | nullable inner =>
      exact bind (part (by simp [Form.lowered])) fun _ => addAtom _
  | nonoptional inner =>
      exact bind (inFresh (part (by simp [Form.lowered]))) fun _ => addAtoms _
  | default inner value | prefault inner value =>
      exact bind (keepDefault value) fun _ => part (by simp [Form.lowered])
  | fallback inner value | readonly inner => exact part (by simp [Form.lowered])
  | pipe source target =>
      simp only [Lowering.form, Unidentified.ofForm]
      change Commutes ancestors _ (if source.unidentified.kind = .transform then
        second scope target.unidentified else second scope source.unidentified)
      rw [source.kind_unidentified]
      split
      · exact part (by simp [Form.lowered])
      · exact part (by simp [Form.lowered])
  | object shape catchall =>
      have sameKind : (Unidentified.ofOption catchall).map Schema.kind =
          catchall.map Schema.kind := by
        cases catchall with
        | none => rfl
        | some schema => exact congrArg some schema.kind_unidentified
      refine bind (addAtom _) fun _ => ?_
      rw [sameKind]
      split
      · exact bind markFlexible fun _ => addChildren shape
      · exact addChildren shape
  | array element least most | set element least most =>
      exact container (part (by simp [Form.lowered]))
  | record key value | map key value => exact keyed (parts key (by simp [Form.lowered]) [])
  | tuple items rest =>
      cases rest with
      | some schema => exact addAtom _
      | none =>
          change Commutes ancestors _ (do
            let types ← (Unidentified.ofSchemas items).mapM (Lowering.elementType second scope)
            Lowering.addAtom (.tupleOf (FieldType.distinct types)))
          rw [Unidentified.ofSchemas_eq_map]
          exact bind (mapM fun item member => elementType (part member)) fun _ => addAtom _
  | union options =>
      change Commutes ancestors _ ((Unidentified.ofSchemas options).forM (second scope))
      rw [Unidentified.ofSchemas_eq_map]
      exact forM fun option member => part member
  | enumeration values | literal values => exact literals values
  | lazily target => exact absurd rfl (eager target)
  | reference tables identifier =>
      cases tables with
      | none => exact addAtom _
      | some names => cases names <;> exact addAtom _
  | _ => exact addAtom _

end Commutes
end Lowering

namespace Schema

variable {schema : Schema} {ancestors : List Ancestor}

/-- A tree that holds none of the ancestors. -/
structure IsTreeBelow (schema : Schema) (ancestors : List Ancestor) : Prop extends
    schema.IsTree where
  isNew : ∀ inner, schema.Holds inner → (LoweringState.ofField ancestors).isOpen inner = false

theorem IsTree.belowNone (isTree : schema.IsTree) : schema.IsTreeBelow [] where
  toIsTree := isTree
  isNew := fun inner _ => by
    rw [Bool.eq_false_iff, Ne, isOpen_iff]
    simp

/-- A part of a tree is a tree below the whole: whatever it holds lies in the whole, and is another
schema. -/
theorem IsTreeBelow.part (tree : schema.IsTreeBelow ancestors) {part : Schema}
    (member : part ∈ schema.form.parts) : part.IsTreeBelow (schema.identity :: ancestors) where
  toIsTree := tree.toIsTree.part member
  isNew := fun inner holds => by
    by_contra returned
    obtain ⟨identity, ofInner, isAncestor⟩ := isOpen_iff.mp (by simpa using returned)
    rcases List.mem_cons.mp isAncestor with newest | earlier
    · have same : schema.isSame inner = true := isSame_iff.mpr ⟨identity, newest.symm, ofInner⟩
      simp [tree.apart schema .refl inner (.head' member holds)] at same
    · have isOpen := isOpen_iff.mpr ⟨identity, ofInner, earlier⟩
      simp [tree.isNew inner (.head member holds)] at isOpen

theorem IsTreeBelow.lowered (tree : schema.IsTreeBelow ancestors) {part : Schema}
    (member : part ∈ schema.form.lowered) : part.IsTreeBelow (schema.identity :: ancestors) :=
  tree.part (Form.mem_parts_of_mem_lowered member)

end Schema

namespace Lowering

/-- A tree is lowered in the same way without identities: no schema in it is under way when it is
entered, so that none is refused with its identity either. -/
theorem Commutes.run {schema : Schema} {ancestors : List Ancestor}
    (tree : schema.IsTreeBelow ancestors) (budget : Nat) (scope : LoweringScope) :
    Commutes ancestors (run budget scope schema) (run budget scope schema.unidentified) := by
  induction budget generalizing schema ancestors scope with
  | zero => exact throw _
  | succ budget ih =>
      intro state below
      have isNew : state.isOpen schema = false := by
        rw [LoweringState.isOpen_eq below, tree.isNew schema .refl]
      rw [run_of_isNew isNew, run_of_isNew (state.unidentified.isOpen_unidentified schema),
        schema.form_unidentified]
      refine inside (form (tree.eager schema .refl) fun part member _ => ?_) state below
      exact ih (tree.lowered member) _

end Lowering

/-- A fault that a tree may end in: no recursion, and none of lowering too deep. -/
def Fault.IsOfTree (cause : Fault) : Prop :=
  cause ≠ .tooDeep ∧ ∀ kind place, cause ≠ .lowering (.recursive kind) place

theorem Fault.isOfTree_of_isOfForm {cause : Fault} (isOfForm : cause.IsOfForm) :
    cause.IsOfTree := by
  refine ⟨?_, ?_⟩
  · rintro rfl
    exact isOfForm
  · rintro kind place rfl
    cases place <;> exact isOfForm

namespace Schema.IsTreeBelow

variable {schema : Schema} {ancestors : List Ancestor}

/-- Lowering a tree gives the same with identities and without. -/
theorem lowered_unidentified (tree : schema.IsTreeBelow ancestors) (scope : LoweringScope) :
    schema.unidentified.lowered scope (ancestors.map fun _ => none) =
      ⟨(schema.lowered scope ancestors).events,
        (schema.lowered scope ancestors).outcome.map LoweredField.unidentified⟩ := by
  obtain ⟨same, -⟩ := Lowering.Commutes.run tree (scope.environment.budget schema) scope
    (.ofField ancestors) rfl
  have bareStart : (LoweringState.ofField ancestors).unidentified =
      .ofField (ancestors.map fun _ => none) := rfl
  unfold Schema.lowered Lowering.enter
  rw [Environment.budget_unidentified, ← bareStart, same]
  rcases Lowering.run (scope.environment.budget schema) scope schema (.ofField ancestors) with
    ⟨outcome, state⟩
  cases outcome <;> rfl

/-- Lowering a tree ends in no recursion and is not too deep, and leaves trees for later that are
less high. -/
theorem endsIn_lowered (tree : schema.IsTreeBelow ancestors) (scope : LoweringScope) :
    EndsIn Fault.IsOfTree
      (fun field => ∀ child ∈ field.children,
        child.schema.IsTreeBelow child.ancestors ∧ child.schema.height < schema.height)
      (schema.lowered scope ancestors).outcome := by
  have abides : Lowering.Abides
      (.untyped Fault.IsOfTree fun child =>
        child.schema.IsTreeBelow child.ancestors ∧ child.schema.height < schema.height)
      ancestors Lowering.anyResult (Lowering.enter scope schema) := by
    refine Lowering.abides_run
      (fun budget ancestors inner =>
        inner.IsTreeBelow ancestors ∧ inner.height ≤ budget ∧ inner.height ≤ schema.height)
      (.of_isOfForm ?_) LoweringTerms.allowsAtoms_untyped ?_ ?_ ?_ ?_ ?_
      ⟨tree, ?_, Nat.le_refl _⟩ scope.openTables
    · exact fun _ => Fault.isOfTree_of_isOfForm
    · rintro below inner ⟨-, fits, -⟩
      exact absurd inner.height_pos (Nat.not_lt.mpr fits)
    · rintro budget below inner ⟨held, -⟩ isOpen
      simp [held.isNew _ .refl] at isOpen
    · rintro budget below inner ⟨held, fits, low⟩ - part member
      have lower := height_lt_of_mem_lowered member
      exact ⟨⟨held.lowered member, by omega, by omega⟩,
        fun _ => ⟨held.lowered member, Nat.lt_of_lt_of_le lower low⟩⟩
    · rintro budget below inner ⟨held, -⟩ - target cause isLazy
      exact absurd isLazy (held.eager _ .refl target)
    · rintro budget below inner ⟨held, -⟩ - target other isLazy
      exact absurd isLazy (held.eager _ .refl target)
    · unfold Environment.budget
      omega
  exact (Schema.endsIn_lowered abides).mono (fun _ => id) fun _ kept => kept.2

end Schema.IsTreeBelow
end TypedTables
