import TypedTables.Proofs.FieldType.Steps
import TypedTables.Proofs.Schema.Heights
import TypedTables.Proofs.Value.Refusals

/-!
# Terms of lowering

Lowering can be held to terms: the faults that it may end in, the alternatives that it may add to a
type, and the properties that it may keep for later. A form keeps to the terms when the schemas that
it is made of do; what it adds and keeps itself depends on the form alone.

A step that ends well leaves the ancestors as they were, so every schema of a form is lowered below
the same ancestors.
-/

namespace TypedTables

/-- The schemas that lowering a form may lower, or keep for later. -/
def Form.lowered {σ : Type} : Form σ → List σ
  | .optional inner | .nullable inner | .nonoptional inner | .default inner _ | .prefault inner _
  | .fallback inner _ | .readonly inner | .array inner _ _ | .set inner _ _ => [inner]
  | .pipe source target => [source, target]
  | .object shape _ => shape.map Prod.snd
  | .record key value | .map key value => [key, value]
  | .tuple items none => items
  | .union options => options
  | _ => []

theorem Form.mem_parts_of_mem_lowered {form : Form Schema} {part : Schema}
    (member : part ∈ form.lowered) : part ∈ form.parts := by
  cases form with
  | object shape catchall => exact List.mem_append_left _ member
  | tuple items rest =>
      cases rest with
      | none => exact List.mem_append_left _ member
      | some schema => cases member
  | _ => first | exact member | cases member

theorem Schema.height_lt_of_mem_lowered {schema part : Schema}
    (member : part ∈ schema.form.lowered) : part.height < schema.height := by
  refine height_lt_of_mem_parts (fun table isTable => ?_) (Form.mem_parts_of_mem_lowered member)
  rw [isTable] at member
  cases member

/-- The faults that lowering a form can make itself. -/
def Fault.IsOfForm : Fault → Prop
  | .lowering (.unsupportedField _) none | .lowering (.unsupportedFormat _ _) none
  | .lowering (.unsupportedKey _) none => True
  | cause => cause.IsRefusal

theorem Fault.isOfForm_of_isRefusal {cause : Fault} (refuses : cause.IsRefusal) :
    cause.IsOfForm := by
  cases cause <;> first | exact refuses | cases refuses

/-- What lowering is held to. -/
structure LoweringTerms where
  fault : Fault → Prop
  atom : TypeAtom → Prop
  child : ChildField → Prop

namespace LoweringTerms

/-- The faults that lowering a form makes itself. -/
structure AllowsFaults (terms : LoweringTerms) : Prop where
  construct : ∀ construct, terms.fault (.lowering (.unsupportedField construct) none)
  format : ∀ kind format, terms.fault (.lowering (.unsupportedFormat kind format) none)
  key : ∀ keyType, terms.fault (.lowering (.unsupportedKey keyType) none)
  literal : ∀ (value : Value) cause, value.literal = .error cause → terms.fault cause

theorem AllowsFaults.of_isOfForm {terms : LoweringTerms}
    (allowed : ∀ cause : Fault, cause.IsOfForm → terms.fault cause) : terms.AllowsFaults := by
  refine ⟨fun _ => allowed _ trivial, fun _ _ => allowed _ trivial, fun _ => allowed _ trivial, ?_⟩
  intro value cause fails
  exact allowed cause (Fault.isOfForm_of_isRefusal (Value.isRefusal_of_literal fails))

/-- The alternatives that lowering a form makes from those of its parts. -/
structure AllowsAtoms (terms : LoweringTerms) : Prop where
  name : ∀ atom ∈ TypeAtom.names, terms.atom atom
  literal : ∀ (value : Value) text, value.literal = .ok text → terms.atom (.literal value)
  array : ∀ type : FieldType, (∀ atom ∈ type, terms.atom atom) → terms.atom (.arrayOf type)
  tuple : ∀ types : List FieldType, (∀ type ∈ types, ∀ atom ∈ type, terms.atom atom) →
    terms.atom (.tupleOf (FieldType.distinct types))
  tables : ∀ tables, terms.atom (.recordOf tables)

/-- Terms that say nothing about types. -/
def untyped (fault : Fault → Prop) (child : ChildField → Prop) : LoweringTerms :=
  ⟨fault, fun _ => True, child⟩

theorem allowsAtoms_untyped {fault : Fault → Prop} {child : ChildField → Prop} :
    (untyped fault child).AllowsAtoms :=
  ⟨fun _ _ => trivial, fun _ _ _ => trivial, fun _ _ => trivial, fun _ _ => trivial,
    fun _ => trivial⟩

/-- From one state to another, nothing has happened that the terms do not allow. -/
structure Allow (terms : LoweringTerms) (before after : LoweringState) : Prop where
  ancestors : after.ancestors = before.ancestors
  atoms : (∀ atom ∈ before.context.type, terms.atom atom) →
    ∀ atom ∈ after.context.type, terms.atom atom
  children : ∃ kept, after.children = before.children ++ kept ∧ ∀ child ∈ kept, terms.child child

namespace Allow

variable {terms : LoweringTerms} {first second third : LoweringState}

theorem refl (state : LoweringState) : terms.Allow state state :=
  ⟨rfl, fun atoms => atoms, [], by simp, by simp⟩

theorem trans (allowed : terms.Allow first second) (further : terms.Allow second third) :
    terms.Allow first third := by
  obtain ⟨kept, children, keeps⟩ := allowed.children
  obtain ⟨more, moreChildren, keepsMore⟩ := further.children
  refine ⟨further.ancestors.trans allowed.ancestors,
    fun atoms => further.atoms (allowed.atoms atoms), kept ++ more, ?_, ?_⟩
  · rw [moreChildren, children, List.append_assoc]
  · intro child member
    rcases List.mem_append.mp member with early | late
    · exact keeps child early
    · exact keepsMore child late

end Allow
end LoweringTerms

theorem LoweringState.isOpen_eq {state : LoweringState} {ancestors : List Ancestor}
    (below : state.ancestors = ancestors) (schema : Schema) :
    state.isOpen schema = (ofField ancestors).isOpen schema := by
  simp only [isOpen, below, ofField]

theorem Schema.isOpen_iff {schema : Schema} {ancestors : List Ancestor} :
    (LoweringState.ofField ancestors).isOpen schema = true ↔
      ∃ identity, schema.identity = some identity ∧ some identity ∈ ancestors := by
  unfold LoweringState.isOpen LoweringState.ofField
  cases schema.identity with
  | none => simp
  | some identity => simp

namespace Lowering

variable {terms : LoweringTerms} {ancestors : List Ancestor} {α β : Type}

/-- Below the ancestors, a step ends in a result of a kind or in a fault of the terms, and does
nothing else but what they allow. -/
def Abides (terms : LoweringTerms) (ancestors : List Ancestor) (gives : α → Prop)
    (action : Lowering α) : Prop :=
  ∀ state outcome final, state.ancestors = ancestors → action state = (outcome, final) →
    EndsIn terms.fault (fun value => gives value ∧ terms.Allow state final) outcome

def anyResult : α → Prop := fun _ => True

namespace Abides

variable {gives : α → Prop} {results : β → Prop}

/-! ## Steps in sequence -/

theorem bind {action : Lowering α} {next : α → Lowering β}
    (first : Abides terms ancestors gives action)
    (second : ∀ value, gives value → Abides terms ancestors results (next value)) :
    Abides terms ancestors results (action >>= next) := by
  intro state outcome final below runs
  rcases started : action state with ⟨middleOutcome, middle⟩
  simp only [Bind.bind, ExceptT.bind, ExceptT.mk, StateT.bind, started] at runs
  have kept := first state middleOutcome middle below started
  cases middleOutcome with
  | error cause =>
      obtain ⟨rfl, rfl⟩ := Prod.mk.inj runs
      exact kept
  | ok value =>
      obtain ⟨given, allowed⟩ := kept
      have further := second value given middle outcome final (allowed.ancestors.trans below) runs
      cases outcome with
      | error cause => exact further
      | ok result => exact ⟨further.1, allowed.trans further.2⟩

theorem pure {value : α} (given : gives value) :
    Abides terms ancestors gives (Pure.pure value : Lowering α) := by
  intro state outcome final below runs
  obtain ⟨rfl, rfl⟩ := Prod.mk.inj runs
  exact ⟨given, .refl _⟩

theorem forM {items : List α} {action : α → Lowering PUnit}
    (each : ∀ item ∈ items, Abides terms ancestors anyResult (action item)) :
    Abides terms ancestors anyResult (items.forM action) := by
  induction items with
  | nil => exact pure trivial
  | cons item rest ih =>
      exact bind (each item (by simp)) fun _ _ =>
        ih fun next member => each next (by simp [member])

theorem mapM {items : List α} {action : α → Lowering β}
    (each : ∀ item ∈ items, Abides terms ancestors results (action item)) :
    Abides terms ancestors (fun values => ∀ value ∈ values, results value)
      (items.mapM action) := by
  induction items with
  | nil => exact pure (by simp)
  | cons item rest ih =>
      rw [List.mapM_cons]
      refine bind (each item (by simp)) fun value given => ?_
      refine bind (ih fun next member => each next (by simp [member])) fun values others => ?_
      refine pure fun result member => ?_
      rcases List.mem_cons.mp member with rfl | later
      · exact given
      · exact others result later

theorem throw {cause : Fault} (allowed : terms.fault cause) :
    Abides terms ancestors gives (MonadExcept.throw cause : Lowering α) := by
  intro state outcome final below runs
  obtain ⟨rfl, -⟩ := Prod.mk.inj runs
  exact allowed

theorem given {outcome : Except Fault α} {next : α → Lowering β}
    (faults : ∀ cause, outcome = .error cause → terms.fault cause)
    (further : ∀ value, outcome = .ok value → Abides terms ancestors results (next value)) :
    Abides terms ancestors results (Lowering.given outcome >>= next) := by
  cases outcome with
  | error cause =>
      intro state ended final below runs
      obtain ⟨rfl, -⟩ := Prod.mk.inj runs
      exact faults cause rfl
  | ok value =>
      exact fun state ended final below runs => further value rfl state ended final below runs

theorem get : Abides terms ancestors (fun state => state.ancestors = ancestors)
    (MonadState.get : Lowering LoweringState) := by
  intro state outcome final below runs
  obtain ⟨rfl, rfl⟩ := Prod.mk.inj runs
  exact ⟨below, .refl _⟩

theorem modify {change : LoweringState → LoweringState}
    (allowed : ∀ state, state.ancestors = ancestors → terms.Allow state (change state)) :
    Abides terms ancestors anyResult (modify change : Lowering PUnit) := by
  intro state outcome final below runs
  obtain ⟨rfl, rfl⟩ := Prod.mk.inj runs
  exact ⟨trivial, allowed state below⟩

/-! ## Single steps -/

theorem addAtom {atom : TypeAtom} (allowed : terms.atom atom) :
    Abides terms ancestors anyResult (addAtom atom) := by
  refine modify fun state _ => ⟨rfl, fun atoms other member => ?_, [], by simp, by simp⟩
  simp only [FieldType.add] at member
  split at member
  · exact atoms other member
  · rcases List.mem_append.mp member with present | added
    · exact atoms other present
    · rw [List.mem_singleton.mp added]
      exact allowed

theorem addAtoms {added : FieldType} (allowed : ∀ atom ∈ added, terms.atom atom) :
    Abides terms ancestors anyResult (addAtoms added) := by
  refine modify fun state _ => ⟨rfl, fun atoms => ?_, [], by simp, by simp⟩
  simp only
  generalize state.context.type = type at atoms
  induction added generalizing type with
  | nil => exact atoms
  | cons atom rest ih =>
      refine ih (fun other member => allowed other (by simp [member])) (type.add atom) ?_
      intro other member
      unfold FieldType.add at member
      split at member
      · exact atoms other member
      · rcases List.mem_append.mp member with present | single
        · exact atoms other present
        · rw [List.mem_singleton.mp single]
          exact allowed atom (by simp)

theorem notify (notice : Notice) : Abides terms ancestors anyResult (notify notice) :=
  modify fun _ _ => ⟨rfl, fun atoms => atoms, [], by simp, by simp⟩

theorem keepDefault (value : Value) : Abides terms ancestors anyResult (keepDefault value) := by
  refine modify fun state _ => ?_
  split
  · exact ⟨rfl, fun atoms => atoms, [], by simp, by simp⟩
  · exact .refl state

theorem markFlexible : Abides terms ancestors anyResult markFlexible := by
  refine modify fun state _ => ?_
  split
  · exact ⟨rfl, fun atoms => atoms, [], by simp, by simp⟩
  · exact .refl state

theorem addChild {name : String} {schema : Schema}
    (allowed : ∀ path, terms.child ⟨path, schema, ancestors⟩) :
    Abides terms ancestors anyResult (addChild name schema) := by
  refine modify fun state below => ⟨rfl, fun atoms => atoms, [_], rfl, ?_⟩
  intro child member
  rw [List.mem_singleton.mp member, below]
  exact allowed _

theorem addChildren {shape : List (String × Schema)}
    (allowed : ∀ field ∈ shape, ∀ path, terms.child ⟨path, field.2, ancestors⟩) :
    Abides terms ancestors anyResult
      (shape.forM fun (name, schema) => Lowering.addChild name schema) :=
  .forM fun field member => .addChild (allowed field member)

/-! ## Contexts of their own -/

theorem inFresh {segment : Option String} {action : Lowering Unit}
    (abides : Abides terms ancestors anyResult action) :
    Abides terms ancestors (fun context => ∀ atom ∈ context.type, terms.atom atom)
      (inFresh segment action) := by
  intro state outcome final below runs
  unfold Lowering.inFresh at runs
  rcases inner : action { state with context := state.context.fresh segment } with ⟨ended, left⟩
  simp only [inner] at runs
  obtain ⟨rfl, rfl⟩ := Prod.mk.inj runs
  have kept := abides _ ended left (by exact below) inner
  cases ended with
  | error cause => exact kept
  | ok done =>
      obtain ⟨-, same, atoms, added, grows, keeps⟩ := kept
      refine ⟨atoms ?_, same, fun atoms => atoms, added, grows, keeps⟩
      intro atom member
      rw [type_fresh] at member
      cases member

theorem apart {action : Lowering Unit} (abides : Abides terms ancestors anyResult action) :
    Abides terms ancestors (fun type => ∀ atom ∈ type, terms.atom atom) (apart action) := by
  intro state outcome final below runs
  unfold Lowering.apart at runs
  rcases inner : action (.ofField state.ancestors) with ⟨ended, left⟩
  simp only [inner] at runs
  obtain ⟨rfl, rfl⟩ := Prod.mk.inj runs
  have kept := abides _ ended left (by exact below) inner
  cases ended with
  | error cause => exact kept
  | ok done =>
      obtain ⟨-, -, atoms, -⟩ := kept
      refine ⟨atoms ?_, rfl, fun atoms => atoms, [], by simp, by simp⟩
      intro atom member
      cases member

theorem inside {schema : Schema} {action : Lowering Unit}
    (abides : Abides terms (schema.identity :: ancestors) anyResult action) :
    Abides terms ancestors anyResult (inside schema action) := by
  intro state outcome final below runs
  unfold Lowering.inside at runs
  rcases inner : action { state with ancestors := schema.identity :: state.ancestors } with
    ⟨ended, left⟩
  simp only [inner] at runs
  obtain ⟨rfl, rfl⟩ := Prod.mk.inj runs
  have kept := abides _ ended left (by rw [← below]) inner
  cases ended with
  | error cause => exact kept
  | ok done =>
      obtain ⟨-, same, atoms, added, grows, keeps⟩ := kept
      refine ⟨trivial, ?_, atoms, added, grows, keeps⟩
      rw [same]
      rfl

/-! ## Forms -/

variable {lower : Lowerer} {scope : LoweringScope}

theorem elementType {element : Schema}
    (abides : Abides terms ancestors anyResult (lower scope element)) :
    Abides terms ancestors (fun type => ∀ atom ∈ type, terms.atom atom)
      (elementType lower scope element) :=
  bind (inFresh abides) fun _ atoms => pure atoms

theorem container {element : Schema} (atoms : terms.AllowsAtoms)
    (abides : Abides terms ancestors anyResult (lower scope element)) :
    Abides terms ancestors anyResult (container lower scope element) := by
  refine bind (elementType abides) fun type typed => addAtom ?_
  split
  · exact atoms.name _ (by simp [TypeAtom.names])
  · exact atoms.array type typed

theorem keyed {key value : Schema} (faults : terms.AllowsFaults) (atoms : terms.AllowsAtoms)
    (abides : Abides terms ancestors anyResult (lower { scope with openTables := [] } key))
    (child : ∀ path, terms.child ⟨path, value, ancestors⟩) :
    Abides terms ancestors anyResult (keyed lower scope key value) := by
  refine bind (apart abides) fun keyType _ => ?_
  split
  · exact bind (addAtom (atoms.name _ (by simp [TypeAtom.names]))) fun _ _ => addChild child
  · exact throw (faults.key _)

theorem literals {values : List Value} (faults : terms.AllowsFaults) (atoms : terms.AllowsAtoms) :
    Abides terms ancestors anyResult (literals values) := by
  refine forM fun value _ => given (fun cause => faults.literal value cause) fun text writes => ?_
  exact addAtom (atoms.literal value text writes)

theorem resolved {target : Schema} (atoms : terms.AllowsAtoms)
    (abides : (LoweringState.ofField ancestors).isOpen target = false →
      Abides terms ancestors anyResult (lower scope target)) :
    Abides terms ancestors anyResult (resolved lower scope target) := by
  have openEnds (notice : Notice) :
      Abides terms ancestors anyResult (do Lowering.notify notice; Lowering.addAtom .any) :=
    bind (notify _) fun _ _ => addAtom (atoms.name _ (by simp [TypeAtom.names]))
  refine bind get fun state below => ?_
  rw [LoweringState.isOpen_eq below]
  split
  · exact openEnds _
  · rename_i closed
    have enters := abides (by simpa using closed)
    cases target.table? with
    | none => exact enters
    | some table =>
        simp only
        split
        · exact openEnds _
        · exact enters

theorem ofNumeric {kind : String} {format : Option String} (faults : terms.AllowsFaults)
    (atoms : terms.AllowsAtoms) :
    Abides terms ancestors anyResult
      (Lowering.given (FieldType.ofNumeric kind format) >>= Lowering.addAtom) := by
  refine given ?_ ?_
  · intro cause fails
    unfold FieldType.ofNumeric at fails
    split at fails
    · cases fails
    · cases fails
      exact faults.format _ _
  · intro atom lowers
    refine addAtom (atoms.name atom ?_)
    unfold FieldType.ofNumeric at lowers
    split at lowers
    · rename_i found
      cases lowers
      split at found
      · unfold FieldType.ofWholeFormat? at found
        split at found <;> cases found <;> simp [TypeAtom.names]
      · unfold FieldType.ofNumberFormat? at found
        split at found <;> cases found <;> simp [TypeAtom.names]
    · cases lowers

end Abides

theorem ownType_mem_names (kind : Kind) : kind.ownType ∈ TypeAtom.names := by
  cases kind <;> simp [Kind.ownType, TypeAtom.names]

/-- A form keeps to the terms when the schemas that it is made of do, and what a lazy schema stands
for does where it is not under way. -/
theorem abides_form {lower : Lowerer} {scope : LoweringScope} {form : Form Schema}
    (faults : terms.AllowsFaults) (atoms : terms.AllowsAtoms)
    (parts : ∀ part ∈ form.lowered, ∀ openTables,
      Abides terms ancestors anyResult (lower { scope with openTables } part))
    (children : ∀ part ∈ form.lowered, ∀ path, terms.child ⟨path, part, ancestors⟩)
    (unresolved : ∀ target cause, form = .lazily target →
      scope.environment.resolve target = .error cause → terms.fault cause)
    (resolved : ∀ target schema, form = .lazily target →
      scope.environment.resolve target = .ok schema →
        (LoweringState.ofField ancestors).isOpen schema = false →
          Abides terms ancestors anyResult (lower scope schema)) :
    Abides terms ancestors anyResult (Lowering.form lower scope form) := by
  have named {atom : TypeAtom} (isName : atom ∈ TypeAtom.names) :
      Abides terms ancestors anyResult (Lowering.addAtom atom) := .addAtom (atoms.name atom isName)
  have part {inner : Schema} (member : inner ∈ form.lowered) :
      Abides terms ancestors anyResult (lower scope inner) := parts inner member scope.openTables
  cases form with
  | promise inner => exact .throw (faults.construct "Promise")
  | function => exact .throw (faults.construct "Function")
  | custom check message => exact .throw (faults.construct "Custom")
  | symbol => exact .throw (faults.construct "Symbol")
  | table described => exact .throw (faults.construct "Table")
  | number rules => exact .ofNumeric faults atoms
  | bigint format => exact .ofNumeric faults atoms
  | optional inner =>
      exact .bind (part (by simp [Form.lowered])) fun _ _ => named (by simp [TypeAtom.names])
  | nullable inner =>
      exact .bind (part (by simp [Form.lowered])) fun _ _ => named (by simp [TypeAtom.names])
  | nonoptional inner =>
      refine .bind (.inFresh (part (by simp [Form.lowered]))) fun context typed => .addAtoms ?_
      intro atom member
      unfold FieldType.withoutAbsence at member
      split at member
      · exact typed atom (List.mem_filter.mp member).1
      · exact typed atom member
  | default inner value | prefault inner value =>
      exact .bind (.keepDefault value) fun _ _ => part (by simp [Form.lowered])
  | fallback inner value => exact part (by simp [Form.lowered])
  | readonly inner => exact part (by simp [Form.lowered])
  | pipe source target =>
      simp only [Lowering.form]
      split
      · exact part (by simp [Form.lowered])
      · exact part (by simp [Form.lowered])
  | object shape catchall =>
      have kept := Abides.addChildren fun field member =>
        children field.2 (List.mem_map_of_mem (f := Prod.snd) member)
      refine .bind (named (by simp [TypeAtom.names])) fun _ _ => ?_
      split
      · exact .bind .markFlexible fun _ _ => kept
      · exact kept
  | array element least most | set element least most =>
      exact .container atoms (part (by simp [Form.lowered]))
  | record key value | map key value =>
      exact .keyed faults atoms (parts key (by simp [Form.lowered]) [])
        (children value (by simp [Form.lowered]))
  | tuple items rest =>
      cases rest with
      | some schema => exact named (by simp [TypeAtom.names])
      | none =>
          exact .bind (.mapM fun item member => .elementType (part member)) fun types typed =>
            .addAtom (atoms.tuple types typed)
  | union options => exact .forM fun option member => part member
  | enumeration values | literal values => exact .literals faults atoms
  | lazily target =>
      refine .given (fun cause => unresolved target cause rfl) fun schema resolves => ?_
      exact .resolved atoms (resolved target schema rfl resolves)
  | reference tables identifier =>
      cases tables with
      | none => exact named (by simp [TypeAtom.names])
      | some names =>
          cases names with
          | nil => exact named (by simp [TypeAtom.names])
          | cons name rest => exact .addAtom (atoms.tables _)
  | any | unknown | never | undefined | void | null | boolean | text rules | uuid format
  | date coerce | transform function | intersection left right =>
      exact named (ownType_mem_names _)

/-! ## Schemas -/

/-- A schema that is not under way is lowered as its form is. -/
theorem run_of_isNew {state : LoweringState} {schema : Schema} (isNew : state.isOpen schema = false)
    (budget : Nat) (scope : LoweringScope) :
    run (budget + 1) scope schema state =
      inside schema (form (run budget) scope schema.form) state := by
  change (if state.isOpen schema then _ else inside schema _) state = _
  rw [isNew]
  rfl

/-- Lowering a schema keeps to the terms when something holds of each call that every call inside it
inherits: of the calls for the schemas that its form is made of, and of the call for what a lazy
schema stands for where that is not under way. -/
theorem abides_run {environment : Environment} (held : Nat → List Ancestor → Schema → Prop)
    (faults : terms.AllowsFaults) (atoms : terms.AllowsAtoms)
    (exhausted : ∀ ancestors schema, held 0 ancestors schema → terms.fault .tooDeep)
    (returned : ∀ budget ancestors schema, held (budget + 1) ancestors schema →
      (LoweringState.ofField ancestors).isOpen schema = true →
        terms.fault (.lowering (.recursive schema.kind.name) none))
    (parts : ∀ budget ancestors schema, held (budget + 1) ancestors schema →
      (LoweringState.ofField ancestors).isOpen schema = false → ∀ part ∈ schema.form.lowered,
        held budget (schema.identity :: ancestors) part ∧
          ∀ path, terms.child ⟨path, part, schema.identity :: ancestors⟩)
    (unresolved : ∀ budget ancestors schema, held (budget + 1) ancestors schema →
      (LoweringState.ofField ancestors).isOpen schema = false →
        ∀ target cause, schema.form = .lazily target → environment.resolve target = .error cause →
          terms.fault cause)
    (resolved : ∀ budget ancestors schema, held (budget + 1) ancestors schema →
      (LoweringState.ofField ancestors).isOpen schema = false →
        ∀ target other, schema.form = .lazily target → environment.resolve target = .ok other →
          (LoweringState.ofField (schema.identity :: ancestors)).isOpen other = false →
            held budget (schema.identity :: ancestors) other)
    {budget : Nat} {ancestors : List Ancestor} {schema : Schema}
    (holds : held budget ancestors schema) (openTables : List String) :
    Abides terms ancestors anyResult (run budget ⟨environment, openTables⟩ schema) := by
  induction budget generalizing ancestors schema openTables with
  | zero => exact .throw (exhausted ancestors schema holds)
  | succ budget ih =>
      refine .bind .get fun state below => ?_
      rw [LoweringState.isOpen_eq below]
      split
      · rename_i isOpen
        exact .throw (returned budget ancestors schema holds isOpen)
      · rename_i notOpen
        have isClosed : (LoweringState.ofField ancestors).isOpen schema = false := by
          simpa using notOpen
        have inherited := parts budget ancestors schema holds isClosed
        refine .inside (abides_form faults atoms
          (fun part member tables => ih (inherited part member).1 tables)
          (fun part member => (inherited part member).2)
          (unresolved budget ancestors schema holds isClosed) ?_)
        intro target other isLazy resolves otherClosed
        exact ih (resolved budget ancestors schema holds isClosed target other isLazy resolves
          otherClosed) openTables

theorem abides_run_of_atoms (atoms : terms.AllowsAtoms) (faults : ∀ cause, terms.fault cause)
    (children : ∀ child, terms.child child) (budget : Nat) (scope : LoweringScope)
    (schema : Schema) : Abides terms ancestors anyResult (run budget scope schema) :=
  abides_run (fun _ _ _ => True) (.of_isOfForm fun cause _ => faults cause) atoms
    (fun _ _ _ => faults _) (fun _ _ _ _ _ => faults _)
    (fun _ _ _ _ _ _ _ => ⟨trivial, fun _ => children _⟩)
    (fun _ _ _ _ _ _ cause _ _ => faults cause)
    (fun _ _ _ _ _ _ _ _ _ _ => trivial) trivial scope.openTables

end Lowering

theorem Schema.endsIn_lowered {terms : LoweringTerms} {schema : Schema} {scope : LoweringScope}
    {ancestors : List Ancestor}
    (abides : Lowering.Abides terms ancestors Lowering.anyResult (Lowering.enter scope schema)) :
    EndsIn terms.fault
      (fun field => (∀ atom ∈ field.type, terms.atom atom) ∧
        ∀ child ∈ field.children, terms.child child)
      (schema.lowered scope ancestors).outcome := by
  unfold Schema.lowered
  rcases runs : Lowering.enter scope schema (.ofField ancestors) with ⟨outcome, final⟩
  have kept := abides (.ofField ancestors) outcome final rfl runs
  refine kept.map fun _ given => ?_
  obtain ⟨-, -, atoms, added, grows, keeps⟩ := given
  refine ⟨atoms fun atom member => (by cases member), ?_⟩
  intro child member
  have isAdded : child ∈ added := by
    have grown : final.children = added := by simpa [LoweringState.ofField] using grows
    rw [← grown]
    exact member
  exact keeps child isAdded

end TypedTables
