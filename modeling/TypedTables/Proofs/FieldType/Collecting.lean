import TypedTables.Proofs.FieldType.Capturing

/-!
# What lowering collects

A schema is lowered at a place: below some ancestors, at a path, at the root of the field or not. What
was collected at that place before has no part in how lowering ends or in what it adds, and the place
is the same afterwards, also after a fault. So whatever a step of lowering does at a place is an
outcome and what it adds: alternatives that are not there yet, further children, a default where none
was captured, openness to further properties, and notices.
-/

namespace TypedTables

namespace FieldType

theorem addAll_add (atom : TypeAtom) (atoms type : FieldType) :
    addAll (add atom atoms) type = add atom (addAll atoms type) := by
  by_cases present : atomText atom ∈ atomTexts atoms
  · have kept : add atom atoms = atoms := by simp [add, present]
    rw [atomTexts_eq_map] at present
    obtain ⟨same, member, equal⟩ := List.mem_map.mp present
    have listed : atomText atom ∈ atomTexts (addAll atoms type) :=
      equal ▸ mem_atomTexts_addAll member type
    rw [kept]
    simp [add, listed]
  · have grown : add atom atoms = atoms ++ [atom] := by simp [add, present]
    rw [grown, addAll, List.foldl_append]
    rfl

/-- Alternatives add the same whether or not they come without repetitions. -/
theorem addAll_addAll (atoms : List TypeAtom) (first second : FieldType) :
    addAll (addAll atoms first) second = addAll atoms (addAll first second) := by
  induction atoms generalizing first with
  | nil => rfl
  | cons atom rest ih =>
      change addAll (addAll rest (add atom first)) second = addAll rest (add atom (addAll first second))
      rw [ih, addAll_add]

end FieldType

/-- A value, or another one in place of absence. -/
def Value.orElse (value other : Value) : Value := if value.isUndefined then other else value

@[simp] theorem Value.orElse_undefined (value : Value) : value.orElse .undefined = value := by
  unfold orElse
  split
  · rename_i absent
    exact (eq_undefined absent).symm
  · rfl

theorem Value.orElse_assoc (first second third : Value) :
    (first.orElse second).orElse third = first.orElse (second.orElse third) := by
  unfold orElse
  cases absent : first.isUndefined <;> simp [absent]

/-- Where a schema is lowered. -/
structure LoweringPlace where
  ancestors : List Ancestor
  path : List String
  isRoot : Bool

/-- What was collected at a place. -/
structure Collected where
  type : FieldType
  children : List ChildField
  /-- The value for an absent field; absent where there is none. -/
  default : Value
  isFlexible : Bool
  notices : List Notice

namespace Collected

def nothing : Collected := ⟨[], [], .undefined, false, []⟩

/-- What is found is added to what was there: alternatives that are not there yet, children and notices
after those before, and a default where there was none. -/
def adding (held found : Collected) : Collected where
  type := held.type.addAll found.type
  children := held.children ++ found.children
  default := held.default.orElse found.default
  isFlexible := held.isFlexible || found.isFlexible
  notices := held.notices ++ found.notices

@[simp] theorem adding_nothing (held : Collected) : held.adding nothing = held := by
  simp [adding, nothing, FieldType.addAll]

theorem adding_adding (held found more : Collected) :
    (held.adding found).adding more = held.adding (found.adding more) := by
  simp only [adding, FieldType.addAll_addAll, List.append_assoc, Bool.or_assoc, Value.orElse_assoc]

theorem type_foldl_adding (founds : List Collected) (held : Collected) :
    (founds.foldl adding held).type = held.type.addAll (founds.flatMap Collected.type) := by
  induction founds generalizing held with
  | nil => rfl
  | cons found rest ih =>
      rw [List.foldl_cons, ih, List.flatMap_cons]
      simp only [adding, FieldType.addAll, List.foldl_append]

def LiesBelow (path : List String) (found : Collected) : Prop :=
  ∀ child ∈ found.children, ∃ name rest, child.path = path ++ name :: rest

theorem LiesBelow.nothing (path : List String) : nothing.LiesBelow path := by
  intro child member
  cases member

theorem LiesBelow.adding {path : List String} {found more : Collected} (below : found.LiesBelow path)
    (moreBelow : more.LiesBelow path) : (found.adding more).LiesBelow path := by
  intro child member
  rcases List.mem_append.mp member with early | late
  · exact below child early
  · exact moreBelow child late

end Collected

namespace LoweringPlace

def holding (place : LoweringPlace) (held : Collected) : LoweringState :=
  ⟨place.ancestors, ⟨place.path, place.isRoot, held.type⟩, held.children, held.default,
    held.isFlexible, held.notices⟩

/-- The place of a context of its own, one segment further down where a segment is given. -/
def fresh (segment : Option String) (place : LoweringPlace) : LoweringPlace :=
  match segment with
  | none => place
  | some name => { place with path := place.path ++ [name], isRoot := false }

def inside (schema : Schema) (place : LoweringPlace) : LoweringPlace :=
  { place with ancestors := schema.identity :: place.ancestors }

def isOpen (place : LoweringPlace) (schema : Schema) : Bool :=
  (LoweringState.ofField place.ancestors).isOpen schema

theorem exists_path_fresh (segment : Option String) (place : LoweringPlace) :
    ∃ further, (place.fresh segment).path = place.path ++ further := by
  cases segment with
  | none => exact ⟨[], by simp [fresh]⟩
  | some name => exact ⟨[name], rfl⟩

end LoweringPlace

namespace LoweringState

def place (state : LoweringState) : LoweringPlace :=
  ⟨state.ancestors, state.context.path, state.context.isRoot⟩

def collected (state : LoweringState) : Collected :=
  ⟨state.context.type, state.children, state.default, state.isFlexible, state.notices⟩

/-- A state is nothing but its place and what was collected there. -/
theorem holding_collected (state : LoweringState) :
    state.place.holding state.collected = state := rfl

end LoweringState

namespace Lowering

variable {α β : Type} {place : LoweringPlace}

/-- Whatever was collected at the place, a step ends in the same way, adds the same to it, and leaves
the place as it is; children that it adds belong below the place. -/
def Collects (place : LoweringPlace) (action : Lowering α) : Prop :=
  ∃ outcome found, found.LiesBelow place.path ∧
    ∀ held, action (place.holding held) = (outcome, place.holding (held.adding found))

namespace Collects

/-- A step that adds nothing. -/
theorem of_outcome (outcome : Except Fault α) :
    Collects place (fun state => (outcome, state) : Lowering α) :=
  ⟨outcome, .nothing, .nothing _, fun held => by rw [Collected.adding_nothing]⟩

theorem bind {first : Lowering α} {next : α → Lowering β} (collects : Collects place first)
    (collectsNext : ∀ value, Collects place (next value)) : Collects place (first >>= next) := by
  obtain ⟨outcome, found, below, same⟩ := collects
  cases outcome with
  | error cause =>
      refine ⟨.error cause, found, below, fun held => ?_⟩
      simp only [Bind.bind, ExceptT.bind, ExceptT.mk, StateT.bind, same]
      rfl
  | ok value =>
      obtain ⟨ended, more, moreBelow, sameNext⟩ := collectsNext value
      refine ⟨ended, found.adding more, below.adding moreBelow, fun held => ?_⟩
      simp only [Bind.bind, ExceptT.bind, ExceptT.mk, StateT.bind, same]
      exact (sameNext (held.adding found)).trans (by rw [Collected.adding_adding])

/-- What a step does with the state may depend on the place alone. -/
theorem get {next : LoweringState → Lowering β}
    (same : ∀ held, next (place.holding held) = next (place.holding .nothing))
    (collects : Collects place (next (place.holding .nothing))) :
    Collects place (MonadState.get >>= next) := by
  obtain ⟨outcome, found, below, ends⟩ := collects
  refine ⟨outcome, found, below, fun held => ?_⟩
  change next (place.holding held) (place.holding held) = _
  rw [same, ends]

theorem forM {items : List α} {action : α → Lowering PUnit}
    (collects : ∀ item ∈ items, Collects place (action item)) :
    Collects place (items.forM action) := by
  induction items with
  | nil => exact of_outcome (.ok ())
  | cons item rest ih =>
      exact bind (collects item (by simp)) fun _ =>
        ih fun next member => collects next (by simp [member])

theorem mapM {items : List α} {action : α → Lowering β}
    (collects : ∀ item ∈ items, Collects place (action item)) :
    Collects place (items.mapM action) := by
  induction items with
  | nil => exact of_outcome (.ok [])
  | cons item rest ih =>
      rw [List.mapM_cons]
      refine bind (collects item (by simp)) fun value => ?_
      exact bind (ih fun next member => collects next (by simp [member])) fun values =>
        of_outcome (.ok (value :: values))

theorem modify {change : LoweringState → LoweringState} (found : Collected)
    (below : found.LiesBelow place.path)
    (adds : ∀ held, change (place.holding held) = place.holding (held.adding found)) :
    Collects place (modify change : Lowering PUnit) :=
  ⟨.ok (), found, below, fun held => congrArg (Prod.mk _) (adds held)⟩

theorem addAtoms (atoms : List TypeAtom) : Collects place (addAtoms atoms) := by
  refine modify { Collected.nothing with type := atoms } (.nothing _) fun held => ?_
  simp [Collected.adding, Collected.nothing, LoweringPlace.holding]

theorem addAtom (atom : TypeAtom) : Collects place (addAtom atom) := addAtoms [atom]

theorem notify (notice : Notice) : Collects place (notify notice) := by
  refine modify { Collected.nothing with notices := [notice] } (.nothing _) fun held => ?_
  simp [Collected.adding, Collected.nothing, LoweringPlace.holding, FieldType.addAll]

theorem addChild (name : String) (schema : Schema) : Collects place (addChild name schema) := by
  refine modify { Collected.nothing with
    children := [⟨place.path ++ [name], schema, place.ancestors⟩] } ?_ fun held => ?_
  · intro child member
    rw [List.mem_singleton.mp member]
    exact ⟨name, [], rfl⟩
  · simp [Collected.adding, Collected.nothing, LoweringPlace.holding, FieldType.addAll]

theorem addChildren (shape : List (String × Schema)) :
    Collects place (shape.forM fun (name, schema) => Lowering.addChild name schema) :=
  forM fun field _ => addChild field.1 field.2

theorem keepDefault (value : Value) : Collects place (keepDefault value) := by
  by_cases static : (place.isRoot && !value.isCallable) = true
  · refine modify { Collected.nothing with default := value } (.nothing _) fun held => ?_
    rw [Bool.and_eq_true] at static
    cases absent : held.default.isUndefined <;>
      simp [Collected.adding, Collected.nothing, LoweringPlace.holding, FieldType.addAll, static.1,
        static.2, absent, Value.orElse]
  · refine modify .nothing (.nothing _) fun held => ?_
    have computed : ¬(place.isRoot && held.default.isUndefined && !value.isCallable) = true := by
      simp only [Bool.and_eq_true] at static ⊢
      exact fun captures => static ⟨captures.1.1, captures.2⟩
    rw [Collected.adding_nothing]
    exact if_neg computed

theorem markFlexible : Collects place markFlexible := by
  refine modify { Collected.nothing with isFlexible := place.isRoot } (.nothing _) ?_
  intro held
  cases isRoot : place.isRoot <;>
    simp [Collected.adding, Collected.nothing, LoweringPlace.holding, FieldType.addAll, isRoot]

theorem inFresh {segment : Option String} {action : Lowering Unit}
    (collects : Collects (place.fresh segment) action) :
    Collects place (inFresh segment action) := by
  obtain ⟨outcome, found, below, same⟩ := collects
  refine ⟨outcome.map fun _ => ⟨(place.fresh segment).path, (place.fresh segment).isRoot,
    FieldType.addAll found.type []⟩, { found with type := [] }, ?_, fun held => ?_⟩
  · obtain ⟨further, longer⟩ := place.exists_path_fresh segment
    intro child member
    obtain ⟨name, rest, path⟩ := below child member
    rw [longer, List.append_assoc] at path
    cases further with
    | nil => exact ⟨name, rest, path⟩
    | cons first others => exact ⟨first, others ++ name :: rest, path⟩
  · have start : { place.holding held with context := (place.holding held).context.fresh segment } =
        (place.fresh segment).holding { held with type := [] } := by
      cases segment <;> rfl
    unfold Lowering.inFresh
    rw [start, same]
    cases segment <;> rfl

theorem apart (action : Lowering Unit) : Collects place (apart action) := by
  rcases runs : action (.ofField place.ancestors) with ⟨outcome, final⟩
  refine ⟨outcome.map fun _ => final.context.type,
    { Collected.nothing with notices := final.notices }, .nothing _, fun held => ?_⟩
  have start : LoweringState.ofField (place.holding held).ancestors = .ofField place.ancestors := rfl
  unfold Lowering.apart
  rw [start, runs]
  simp [Collected.adding, Collected.nothing, LoweringPlace.holding, FieldType.addAll]

theorem inside {schema : Schema} {action : Lowering Unit}
    (collects : Collects (place.inside schema) action) : Collects place (inside schema action) := by
  obtain ⟨outcome, found, below, same⟩ := collects
  refine ⟨outcome, found, below, fun held => ?_⟩
  have start : { place.holding held with
      ancestors := schema.identity :: (place.holding held).ancestors } =
        (place.inside schema).holding held := rfl
  unfold Lowering.inside
  rw [start, same]
  rfl

variable {lower : Lowerer} {scope : LoweringScope}

theorem elementType {element : Schema}
    (collects : ∀ place, Collects place (lower scope element)) :
    Collects place (elementType lower scope element) :=
  bind (inFresh (collects _)) fun context => of_outcome (.ok context.type)

theorem container {element : Schema} (collects : ∀ place, Collects place (lower scope element)) :
    Collects place (container lower scope element) :=
  bind (elementType collects) fun _ => addAtom _

theorem keyed (key value : Schema) : Collects place (keyed lower scope key value) := by
  refine bind (apart _) fun keyType => ?_
  split
  · exact bind (addAtom _) fun _ => addChild "*" value
  · exact of_outcome _

theorem literals (values : List Value) : Collects place (literals values) :=
  forM fun value _ => bind (of_outcome value.literal) fun _ => addAtom _

theorem resolved {target : Schema} (collects : Collects place (lower scope target)) :
    Collects place (resolved lower scope target) := by
  have cut (notice : Notice) :
      Collects place (do Lowering.notify notice; Lowering.addAtom .any) :=
    bind (notify notice) fun _ => addAtom _
  refine get (fun held => rfl) ?_
  split
  · exact cut _
  · split
    · split
      · exact cut _
      · exact collects
    · exact collects

/-- Lowering a form adds the same whatever was collected before, when lowering any schema does. -/
theorem form (form : Form Schema)
    (collects : ∀ schema place, Collects place (lower scope schema)) :
    Collects place (Lowering.form lower scope form) := by
  cases form with
  | promise inner | function | custom accepts message | symbol | table described =>
      exact of_outcome _
  | number rules | bigint format => exact bind (of_outcome _) fun atom => addAtom atom
  | optional inner | nullable inner => exact bind (collects inner _) fun _ => addAtom _
  | nonoptional inner => exact bind (inFresh (collects inner _)) fun _ => addAtoms _
  | default inner value | prefault inner value =>
      exact bind (keepDefault value) fun _ => collects inner _
  | fallback inner value => exact collects inner _
  | readonly inner => exact collects inner _
  | pipe source target =>
      simp only [Lowering.form]
      split
      · exact collects target _
      · exact collects source _
  | object shape catchall =>
      refine bind (addAtom _) fun _ => ?_
      split
      · exact bind markFlexible fun _ => addChildren shape
      · exact addChildren shape
  | array element least most | set element least most => exact container (collects element)
  | record key value | map key value => exact keyed key value
  | tuple items rest =>
      simp only [Lowering.form]
      split
      · exact addAtom _
      · exact bind (mapM fun item _ => elementType (collects item)) fun _ => addAtom _
  | union options => exact forM fun option _ => collects option _
  | enumeration values | literal values => exact literals values
  | lazily target => exact bind (of_outcome _) fun schema => resolved (collects schema _)
  | reference tables identifier =>
      simp only [Lowering.form]
      split <;> exact addAtom _
  | _ => exact addAtom _

/-- Lowering a schema adds the same whatever was collected before. The induction is on the budget, for
all places, because containers lower their elements at places of their own. -/
theorem run (budget : Nat) (scope : LoweringScope) (schema : Schema) (place : LoweringPlace) :
    Collects place (run budget scope schema) := by
  induction budget generalizing schema place with
  | zero => exact of_outcome _
  | succ budget ih =>
      refine get (fun held => rfl) ?_
      split
      · exact of_outcome _
      · exact inside (form schema.form ih)

theorem enter (scope : LoweringScope) (schema : Schema) (place : LoweringPlace) :
    Collects place (enter scope schema) := run _ scope schema place

end Collects
end Lowering
end TypedTables
