import TypedTables.Proofs.FieldType.Sharing

/-!
# Lowering below other ancestors

Lowering reads the ancestors of a schema for one purpose: to notice that the schema is one of them.
A tree that holds none of the ancestors, and none of some others either, is lowered below the ones
as it is below the others, step by step. What it leaves for later lies below the ancestors that it
was lowered below, and is the same in everything else.
-/

namespace TypedTables

variable {ends : List Ancestor → List Ancestor → Prop}

/-- Ancestors that are the same up to some last ones. -/
def EndIn (ends : List Ancestor → List Ancestor → Prop) (first second : List Ancestor) : Prop :=
  ∃ shared above otherAbove, ends above otherAbove ∧ first = shared ++ above ∧
    second = shared ++ otherAbove

theorem EndIn.of_ends {first second : List Ancestor} (last : ends first second) :
    EndIn ends first second :=
  ⟨[], first, second, last, rfl, rfl⟩

theorem EndIn.cons {first second : List Ancestor} (newest : Ancestor)
    (alike : EndIn ends first second) : EndIn ends (newest :: first) (newest :: second) := by
  obtain ⟨shared, above, otherAbove, last, rfl, rfl⟩ := alike
  exact ⟨newest :: shared, above, otherAbove, last, rfl, rfl⟩

/-- The children are one property: they have one path and one schema, which holds none of its
ancestors on either side. The ancestors are the same up to the last ones. -/
structure ChildField.Matches (ends : List Ancestor → List Ancestor → Prop)
    (child other : ChildField) : Prop where
  path : child.path = other.path
  schema : child.schema = other.schema
  ancestors : EndIn ends child.ancestors other.ancestors
  tree : child.schema.IsTreeBelow child.ancestors
  otherTree : other.schema.IsTreeBelow other.ancestors

structure LoweredField.Matches (ends : List Ancestor → List Ancestor → Prop)
    (field other : LoweredField) : Prop where
  type : field.type = other.type
  isFlexible : field.isFlexible = other.isFlexible
  default : field.default = other.default
  children : List.Forall₂ (ChildField.Matches ends) field.children other.children

/-- A state below some ancestors and one below others that differ in no more than that. -/
structure LoweringState.Resembles (ends : List Ancestor → List Ancestor → Prop)
    (first second : List Ancestor) (here there : LoweringState) : Prop where
  ancestors : here.ancestors = first
  otherAncestors : there.ancestors = second
  context : here.context = there.context
  children : List.Forall₂ (ChildField.Matches ends) here.children there.children
  default : here.default = there.default
  isFlexible : here.isFlexible = there.isFlexible
  notices : here.notices = there.notices

namespace LoweringState.Resembles

variable {first second : List Ancestor} {here there : LoweringState}

theorem ofField (first second : List Ancestor) :
    (LoweringState.ofField first).Resembles ends first second (.ofField second) :=
  ⟨rfl, rfl, rfl, .nil, rfl, rfl, rfl⟩

theorem matches_ofState (alike : here.Resembles ends first second there) :
    (LoweredField.ofState here).Matches ends (.ofState there) where
  type := congrArg LoweringContext.type alike.context
  isFlexible := alike.isFlexible
  default := alike.default
  children := alike.children

end LoweringState.Resembles

namespace Lowering

variable {α β : Type} {first second : List Ancestor}

/-- From states that resemble each other two steps end in the same way, and in states that resemble
each other. -/
def Resembles (ends : List Ancestor → List Ancestor → Prop) (first second : List Ancestor)
    (action other : Lowering α) : Prop :=
  ∀ here there, here.Resembles ends first second there →
    (action here).1 = (other there).1 ∧
      (action here).2.Resembles ends first second (other there).2

namespace Resembles

theorem pure (value : α) :
    Resembles ends first second (Pure.pure value : Lowering α) (Pure.pure value) :=
  fun _ _ below => ⟨rfl, below⟩

theorem throw (cause : Fault) :
    Resembles ends first second (MonadExcept.throw cause : Lowering α) (MonadExcept.throw cause) :=
  fun _ _ below => ⟨rfl, below⟩

theorem given (outcome : Except Fault α) :
    Resembles ends first second (Lowering.given outcome) (Lowering.given outcome) :=
  fun _ _ below => ⟨rfl, below⟩

theorem modify {change : LoweringState → LoweringState}
    (changes : ∀ here there, here.Resembles ends first second there →
      (change here).Resembles ends first second (change there)) :
    Resembles ends first second (modify change : Lowering PUnit) (modify change) :=
  fun here there below => ⟨rfl, changes here there below⟩

theorem bind {action other : Lowering α} {next others : α → Lowering β}
    (alike : Resembles ends first second action other)
    (further : ∀ value, Resembles ends first second (next value) (others value)) :
    Resembles ends first second (action >>= next) (other >>= others) := by
  intro here there below
  obtain ⟨same, middleAlike⟩ := alike here there below
  simp only [Bind.bind, ExceptT.bind, ExceptT.mk, StateT.bind]
  rcases runs : action here with ⟨outcome, middle⟩
  rcases runsThere : other there with ⟨outcomeThere, middleThere⟩
  rw [runs, runsThere] at same middleAlike
  cases same
  cases outcome with
  | error cause => exact ⟨rfl, middleAlike⟩
  | ok value => exact further value middle middleThere middleAlike

theorem forM {items : List α} {action other : α → Lowering PUnit}
    (each : ∀ item ∈ items, Resembles ends first second (action item) (other item)) :
    Resembles ends first second (items.forM action) (items.forM other) := by
  induction items with
  | nil => exact pure _
  | cons item rest ih =>
      exact bind (each item (by simp)) fun _ => ih fun next member => each next (by simp [member])

theorem mapM {items : List α} {action other : α → Lowering β}
    (each : ∀ item ∈ items, Resembles ends first second (action item) (other item)) :
    Resembles ends first second (items.mapM action) (items.mapM other) := by
  induction items with
  | nil => exact pure _
  | cons item rest ih =>
      rw [List.mapM_cons, List.mapM_cons]
      refine bind (each item (by simp)) fun value => ?_
      exact bind (ih fun next member => each next (by simp [member])) fun values =>
        pure (value :: values)

theorem inFresh {segment : Option String} {action other : Lowering Unit}
    (alike : Resembles ends first second action other) :
    Resembles ends first second (inFresh segment action) (inFresh segment other) := by
  intro here there below
  have starts : LoweringState.Resembles ends first second
      { here with context := here.context.fresh segment }
      { there with context := there.context.fresh segment } :=
    { below with context := by rw [below.context] }
  obtain ⟨same, final⟩ := alike _ _ starts
  refine ⟨?_, { final with context := below.context }⟩
  change Except.map (fun _ => (action _).2.context) (action _).1 =
    Except.map (fun _ => (other _).2.context) (other _).1
  rw [same, final.context]

theorem apart {action other : Lowering Unit} (alike : Resembles ends first second action other) :
    Resembles ends first second (apart action) (apart other) := by
  intro here there below
  obtain ⟨same, final⟩ := alike _ _ (.ofField first second)
  rw [← below.ancestors, ← below.otherAncestors] at same final
  refine ⟨?_, { below with notices := congrArg₂ (· ++ ·) below.notices final.notices }⟩
  change Except.map (fun _ => (action _).2.context.type) (action _).1 =
    Except.map (fun _ => (other _).2.context.type) (other _).1
  rw [same, final.context]

theorem insideHere {schema : Schema} {action other : Lowering Unit}
    (alike : Resembles ends (schema.identity :: first) second action other) :
    Resembles ends first second (inside schema action) other := by
  intro here there below
  have starts : LoweringState.Resembles ends (schema.identity :: first) second
      { here with ancestors := schema.identity :: here.ancestors } there :=
    { below with ancestors := by rw [below.ancestors] }
  obtain ⟨same, final⟩ := alike _ _ starts
  exact ⟨same, { final with ancestors := congrArg List.tail final.ancestors }⟩

theorem insideThere {schema : Schema} {action other : Lowering Unit}
    (alike : Resembles ends first (schema.identity :: second) action other) :
    Resembles ends first second action (inside schema other) := by
  intro here there below
  have starts : LoweringState.Resembles ends first (schema.identity :: second) here
      { there with ancestors := schema.identity :: there.ancestors } :=
    { below with otherAncestors := by rw [below.otherAncestors] }
  obtain ⟨same, final⟩ := alike _ _ starts
  exact ⟨same, { final with otherAncestors := congrArg List.tail final.otherAncestors }⟩

theorem enterHere {schema : Schema} (tree : schema.IsTreeBelow first) {budget : Nat}
    {scope : LoweringScope} {other : Lowering Unit}
    (alike : Resembles ends (schema.identity :: first) second
      (Lowering.form (run budget) scope schema.form) other) :
    Resembles ends first second (run (budget + 1) scope schema) other := by
  intro here there below
  have isNew : here.isOpen schema = false := by
    rw [LoweringState.isOpen_eq below.ancestors, tree.isNew schema .refl]
  rw [run_of_isNew isNew]
  exact insideHere alike here there below

theorem enterThere {schema : Schema} (tree : schema.IsTreeBelow second) {budget : Nat}
    {scope : LoweringScope} {action : Lowering Unit}
    (alike : Resembles ends first (schema.identity :: second) action
      (Lowering.form (run budget) scope schema.form)) :
    Resembles ends first second action (run (budget + 1) scope schema) := by
  intro here there below
  have isNew : there.isOpen schema = false := by
    rw [LoweringState.isOpen_eq below.otherAncestors, tree.isNew schema .refl]
  rw [run_of_isNew isNew]
  exact insideThere alike here there below

theorem addAtom (atom : TypeAtom) :
    Resembles ends first second (addAtom atom) (Lowering.addAtom atom) :=
  modify fun _ _ below => { below with context := by rw [below.context] }

theorem addAtoms (atoms : List TypeAtom) :
    Resembles ends first second (addAtoms atoms) (Lowering.addAtoms atoms) :=
  modify fun _ _ below => { below with context := by rw [below.context] }

theorem addChild (shared : EndIn ends first second) (name : String) {schema : Schema}
    (tree : schema.IsTreeBelow first) (otherTree : schema.IsTreeBelow second) :
    Resembles ends first second (addChild name schema) (Lowering.addChild name schema) :=
  modify fun here there below => { below with
    children := by
      rw [below.ancestors, below.otherAncestors]
      have samePath := congrArg (·.path ++ [name]) below.context
      exact List.rel_append below.children (.cons ⟨samePath, rfl, shared, tree, otherTree⟩ .nil) }

theorem addChildren (shared : EndIn ends first second) {shape : List (String × Schema)}
    (trees : ∀ schema ∈ shape.map Prod.snd, schema.IsTreeBelow first ∧ schema.IsTreeBelow second) :
    Resembles ends first second (shape.forM fun (name, schema) => Lowering.addChild name schema)
      (shape.forM fun (name, schema) => Lowering.addChild name schema) :=
  forM fun field member => by
    obtain ⟨tree, otherTree⟩ := trees field.2 (List.mem_map_of_mem member)
    exact addChild shared field.1 tree otherTree

theorem keepDefault (value : Value) :
    Resembles ends first second (keepDefault value) (Lowering.keepDefault value) :=
  modify fun here there below => by
    have sameCase : (here.context.isRoot && here.default.isUndefined && !value.isCallable) =
        (there.context.isRoot && there.default.isUndefined && !value.isCallable) := by
      rw [below.context, below.default]
    rw [sameCase]
    split
    · exact { below with default := rfl }
    · exact below

theorem markFlexible : Resembles ends first second markFlexible Lowering.markFlexible :=
  modify fun here there below => by
    have sameCase : here.context.isRoot = there.context.isRoot := by rw [below.context]
    rw [sameCase]
    split
    · exact { below with isFlexible := rfl }
    · exact below

variable {lower other : Lowerer} {scope : LoweringScope}

theorem elementType {element : Schema}
    (alike : Resembles ends first second (lower scope element) (other scope element)) :
    Resembles ends first second (elementType lower scope element)
      (Lowering.elementType other scope element) :=
  bind (inFresh alike) fun _ => pure _

theorem container {element : Schema}
    (alike : Resembles ends first second (lower scope element) (other scope element)) :
    Resembles ends first second (container lower scope element)
      (Lowering.container other scope element) :=
  bind (elementType alike) fun _ => addAtom _

theorem keyed (shared : EndIn ends first second) {key value : Schema}
    (tree : value.IsTreeBelow first) (otherTree : value.IsTreeBelow second)
    (alike : Resembles ends first second (lower { scope with openTables := [] } key)
      (other { scope with openTables := [] } key)) :
    Resembles ends first second (keyed lower scope key value)
      (Lowering.keyed other scope key value) := by
  refine bind (apart alike) fun keyType => ?_
  split
  · exact bind (addAtom _) fun _ => addChild shared "*" tree otherTree
  · exact throw _

theorem literals (values : List Value) :
    Resembles ends first second (literals values) (Lowering.literals values) :=
  forM fun _ _ => bind (given _) fun _ => addAtom _

theorem form (shared : EndIn ends first second) {form : Form Schema}
    (eager : ∀ target, form ≠ .lazily target)
    (trees : ∀ part ∈ form.lowered, part.IsTreeBelow first ∧ part.IsTreeBelow second)
    (parts : ∀ part ∈ form.lowered, ∀ openTables,
      Resembles ends first second (lower { scope with openTables } part)
        (other { scope with openTables } part)) :
    Resembles ends first second (Lowering.form lower scope form)
      (Lowering.form other scope form) := by
  have part {inner : Schema} (member : inner ∈ form.lowered) :
      Resembles ends first second (lower scope inner) (other scope inner) :=
    parts inner member scope.openTables
  cases form with
  | promise inner | function | custom accepts message | symbol | table described => exact throw _
  | number rules | bigint format => exact bind (given _) fun atom => addAtom atom
  | optional inner | nullable inner =>
      exact bind (part (by simp [Form.lowered])) fun _ => addAtom _
  | nonoptional inner =>
      exact bind (inFresh (part (by simp [Form.lowered]))) fun _ => addAtoms _
  | default inner value | prefault inner value =>
      exact bind (keepDefault value) fun _ => part (by simp [Form.lowered])
  | fallback inner value | readonly inner => exact part (by simp [Form.lowered])
  | pipe source target =>
      simp only [Lowering.form]
      split
      · exact part (by simp [Form.lowered])
      · exact part (by simp [Form.lowered])
  | object shape catchall =>
      refine bind (addAtom _) fun _ => ?_
      split
      · exact bind markFlexible fun _ => addChildren shared trees
      · exact addChildren shared trees
  | array element least most | set element least most =>
      exact container (part (by simp [Form.lowered]))
  | record key value | map key value =>
      obtain ⟨tree, otherTree⟩ := trees value (by simp [Form.lowered])
      exact keyed shared tree otherTree (parts key (by simp [Form.lowered]) [])
  | tuple items rest =>
      cases rest with
      | some schema => exact addAtom _
      | none => exact bind (mapM fun item member => elementType (part member)) fun _ => addAtom _
  | union options => exact forM fun option member => part member
  | enumeration values | literal values => exact literals values
  | lazily target => exact absurd rfl (eager target)
  | reference tables identifier =>
      cases tables with
      | none => exact addAtom _
      | some names => cases names <;> exact addAtom _
  | _ => exact addAtom _

/-- A tree is lowered below ancestors that it does not hold as it is below others, with whatever
budgets exceed its height. The induction is on the budget below the first ones. -/
theorem run (shared : EndIn ends first second) {schema : Schema} (tree : schema.IsTreeBelow first)
    (otherTree : schema.IsTreeBelow second) {budget more : Nat} (enough : schema.height ≤ budget)
    (enoughThere : schema.height ≤ more) (scope : LoweringScope) :
    Resembles ends first second (run budget scope schema) (Lowering.run more scope schema) := by
  induction budget generalizing schema first second more scope with
  | zero => exact absurd schema.height_pos (Nat.not_lt.mpr enough)
  | succ budget ih =>
      have isHigh := schema.height_pos
      obtain ⟨more, rfl⟩ : ∃ less, more = less + 1 := ⟨more - 1, by omega⟩
      refine enterHere tree (enterThere otherTree ?_)
      refine form (shared.cons schema.identity) (tree.eager schema .refl)
        (fun part member => ⟨tree.lowered member, otherTree.lowered member⟩) ?_
      intro part member openTables
      have lower := Schema.height_lt_of_mem_lowered member
      exact ih (shared.cons schema.identity) (tree.lowered member) (otherTree.lowered member)
        (by omega) (by omega) _

theorem run_part {owner other part : Schema}
    (shared : EndIn ends (owner.identity :: first) (other.identity :: second))
    (tree : owner.IsTreeBelow first) (otherTree : other.IsTreeBelow second)
    (member : part ∈ owner.form.lowered) (otherMember : part ∈ other.form.lowered)
    {budget more : Nat} (enough : owner.height ≤ budget + 1) (enoughThere : other.height ≤ more + 1)
    (scope : LoweringScope) :
    Resembles ends (owner.identity :: first) (other.identity :: second)
      (Lowering.run budget scope part) (Lowering.run more scope part) := by
  have lower := Schema.height_lt_of_mem_lowered member
  have lowerThere := Schema.height_lt_of_mem_lowered otherMember
  exact run shared (tree.lowered member) (otherTree.lowered otherMember) (by omega) (by omega) scope

end Resembles
end Lowering

/-- Both outcomes are fields that are the same but for the last ancestors of their children, or both
are one fault. -/
inductive MatchingOutcomes (ends : List Ancestor → List Ancestor → Prop) :
    Except Fault LoweredField → Except Fault LoweredField → Prop
  | fields {field other : LoweredField} (alike : field.Matches ends other) :
      MatchingOutcomes ends (.ok field) (.ok other)
  | faults (cause : Fault) : MatchingOutcomes ends (.error cause) (.error cause)

theorem Schema.matching_lowered {schema other : Schema} {scope : LoweringScope}
    {ancestors : List Ancestor}
    (alike : Lowering.Resembles ends ancestors ancestors (Lowering.enter scope schema)
      (Lowering.enter scope other)) :
    (schema.lowered scope ancestors).events = (other.lowered scope ancestors).events ∧
      MatchingOutcomes ends (schema.lowered scope ancestors).outcome
        (other.lowered scope ancestors).outcome := by
  obtain ⟨same, final⟩ := alike _ _ (.ofField ancestors ancestors)
  unfold Schema.lowered
  rcases runs : Lowering.enter scope schema (.ofField ancestors) with ⟨outcome, state⟩
  rcases runsOther : Lowering.enter scope other (.ofField ancestors) with ⟨outcomeOther, stateOther⟩
  rw [runs, runsOther] at same final
  cases same
  refine ⟨congrArg (List.map Event.noticed) final.notices, ?_⟩
  cases outcome with
  | error cause => exact .faults cause
  | ok done => exact .fields final.matches_ofState

end TypedTables
