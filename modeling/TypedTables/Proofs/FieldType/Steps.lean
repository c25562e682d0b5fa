import TypedTables.FieldType.Lowering
import TypedTables.Proofs.FieldType.Admission

/-!
# Steps of lowering

What a step of lowering makes of the type of its context. The type stays readable, keeps the
alternatives it has, and permits the values that the step is for. Steps one after another permit
what each of them permits, because no step takes an alternative away.
-/

namespace TypedTables

/-- A type grew from another: its alternatives can be read, none was lost, and it permits the
accepted values. -/
structure FieldType.Grows (own listed accepted : Value → Prop) (before after : FieldType) :
    Prop where
  readable : after.IsReadable
  keeps : before ⊆ after
  permits : ∀ value, accepted value → after.AdmitsOf own listed value

/-- A step that ends well makes the type of its context permit the accepted values. -/
def Lowering.Covers (own listed accepted : Value → Prop) (action : Lowering Unit) : Prop :=
  ∀ state final, action state = (.ok (), final) → state.context.type.IsReadable →
    FieldType.Grows own listed accepted state.context.type final.context.type

/-- A step that ends well leaves the type of its context as it is. -/
def Lowering.LeavesType {α : Type} (action : Lowering α) : Prop :=
  ∀ state final value, action state = (.ok value, final) →
    final.context.type = state.context.type

namespace Lowering

variable {own listed accepted : Value → Prop} {α β : Type}

theorem bind_eq_ok {first : Lowering α} {next : α → Lowering β} {state final : LoweringState}
    {result : β} (ends : (first >>= next) state = (.ok result, final)) :
    ∃ value middle, first state = (.ok value, middle) ∧
      next value middle = (.ok result, final) := by
  rcases runs : first state with ⟨outcome, middle⟩
  simp only [bind, ExceptT.bind, ExceptT.mk, StateT.bind, runs] at ends
  cases outcome with
  | error cause => cases ends
  | ok value => exact ⟨value, middle, rfl, ends⟩

theorem throw_ne_ok {fault : Fault} {value : α} {state final : LoweringState} :
    (throw fault : Lowering α) state ≠ (.ok value, final) := by
  intro ends
  cases (Prod.mk.inj ends).1

theorem given_bind_eq_ok {outcome : Except Fault α} {next : α → Lowering β}
    {state final : LoweringState} {result : β}
    (ends : (Lowering.given outcome >>= next) state = (.ok result, final)) :
    ∃ value, outcome = .ok value ∧ next value state = (.ok result, final) := by
  obtain ⟨value, middle, endsFirst, endsNext⟩ := bind_eq_ok ends
  obtain ⟨isValue, rfl⟩ := Prod.mk.inj endsFirst
  exact ⟨value, isValue, endsNext⟩

theorem inFresh_eq_ok {segment : Option String} {action : Lowering Unit}
    {state final : LoweringState} {context : LoweringContext}
    (ends : inFresh segment action state = (.ok context, final)) :
    ∃ inner, action { state with context := state.context.fresh segment } = (.ok (), inner) ∧
      context = inner.context ∧ final = { inner with context := state.context } := by
  unfold inFresh at ends
  rcases runs : action { state with context := state.context.fresh segment } with ⟨outcome, inner⟩
  simp only [runs] at ends
  obtain ⟨maps, rfl⟩ := Prod.mk.inj ends
  cases outcome with
  | error cause => cases maps
  | ok done =>
      cases maps
      exact ⟨inner, rfl, rfl, rfl⟩

theorem inside_eq_ok {schema : Schema} {action : Lowering Unit} {state final : LoweringState}
    (ends : inside schema action state = (.ok (), final)) :
    ∃ inner, action { state with ancestors := schema.identity :: state.ancestors } =
      (.ok (), inner) ∧ final = { inner with ancestors := inner.ancestors.tail } := by
  unfold inside at ends
  rcases runs : action { state with ancestors := schema.identity :: state.ancestors } with
    ⟨outcome, inner⟩
  simp only [runs] at ends
  obtain ⟨rfl, rfl⟩ := Prod.mk.inj ends
  exact ⟨inner, rfl, rfl⟩

/-- A step that ends well leads from every state to a related one. -/
def Links (related : LoweringState → LoweringState → Prop) (action : Lowering α) : Prop :=
  ∀ state final value, action state = (.ok value, final) → related state final

namespace Links

variable {related : LoweringState → LoweringState → Prop}

theorem of_result {outcome : Except Fault α} (refl : ∀ state, related state state) :
    Links related (fun state => (outcome, state) : Lowering α) := by
  intro state final value ends
  obtain ⟨-, rfl⟩ := Prod.mk.inj ends
  exact refl state

theorem modify {change : LoweringState → LoweringState}
    (links : ∀ state, related state (change state)) :
    Links related (modify change : Lowering PUnit) := by
  intro state final value ends
  obtain ⟨-, rfl⟩ := Prod.mk.inj ends
  exact links state

theorem bind {first : Lowering α} {next : α → Lowering β}
    (trans : ∀ {first second third}, related first second → related second third →
      related first third)
    (links : Links related first) (linksNext : ∀ value, Links related (next value)) :
    Links related (first >>= next) := by
  intro state final result ends
  obtain ⟨value, middle, endsFirst, endsNext⟩ := bind_eq_ok ends
  exact trans (links state middle value endsFirst) (linksNext value middle final result endsNext)

theorem forM {items : List α} {action : α → Lowering PUnit}
    (refl : ∀ state, related state state)
    (trans : ∀ {first second third}, related first second → related second third →
      related first third)
    (links : ∀ item ∈ items, Links related (action item)) : Links related (items.forM action) := by
  induction items with
  | nil => exact of_result refl
  | cons item rest ih =>
      exact bind trans (links item (by simp)) fun _ => ih fun next member => links next (by simp [member])

theorem mapM {items : List α} {action : α → Lowering β} (refl : ∀ state, related state state)
    (trans : ∀ {first second third}, related first second → related second third →
      related first third)
    (links : ∀ item ∈ items, Links related (action item)) : Links related (items.mapM action) := by
  induction items with
  | nil => exact of_result refl
  | cons item rest ih =>
      rw [List.mapM_cons]
      exact bind trans (links item (by simp)) fun value => bind trans
        (ih fun next member => links next (by simp [member])) fun values => of_result refl

end Links

namespace LeavesType

theorem bind {first : Lowering α} {next : α → Lowering β} (leavesFirst : LeavesType first)
    (leavesNext : ∀ value, LeavesType (next value)) : LeavesType (first >>= next) :=
  Links.bind (fun same further => further.trans same) leavesFirst leavesNext

theorem forM {items : List α} {action : α → Lowering Unit}
    (leaves : ∀ item ∈ items, LeavesType (action item)) : LeavesType (items.forM action) :=
  Links.forM (fun _ => rfl) (fun same further => further.trans same) leaves

theorem given (outcome : Except Fault α) : LeavesType (Lowering.given outcome) :=
  Links.of_result fun _ => rfl

theorem get : LeavesType (get : Lowering LoweringState) := by
  intro state final value ends
  rw [← (Prod.mk.inj ends).2]

theorem notify (notice : Notice) : LeavesType (notify notice) := Links.modify fun _ => rfl

theorem addChild (name : String) (schema : Schema) : LeavesType (addChild name schema) :=
  Links.modify fun _ => rfl

theorem addChildren (shape : List (String × Schema)) :
    LeavesType (shape.forM fun (name, schema) => Lowering.addChild name schema) :=
  forM fun field _ => addChild field.1 field.2

theorem keepDefault (supplied : Value) : LeavesType (keepDefault supplied) := by
  refine Links.modify fun state => ?_
  split <;> rfl

theorem markFlexible : LeavesType markFlexible := by
  refine Links.modify fun state => ?_
  split <;> rfl

theorem apart (action : Lowering Unit) : LeavesType (apart action) := by
  intro state final value ends
  unfold Lowering.apart at ends
  rw [← (Prod.mk.inj ends).2]

end LeavesType

namespace Covers

theorem mono {ownMore listedMore fewer : Value → Prop} {action : Lowering Unit}
    (covers : Covers own listed accepted action)
    (ownLarger : ∀ expected, own expected → ownMore expected)
    (listedLarger : ∀ expected, listed expected → listedMore expected)
    (smaller : ∀ value, fewer value → accepted value) :
    Covers ownMore listedMore fewer action := by
  intro state final ends readable
  have grows := covers state final ends readable
  refine ⟨grows.readable, grows.keeps, ?_⟩
  intro value isAccepted
  obtain ⟨atom, member, admits⟩ := grows.permits value (smaller value isAccepted)
  exact ⟨atom, member,
    TypeAtom.admitsOf_mono (grows.readable atom member) ownLarger listedLarger admits⟩

theorem both {second : Value → Prop} {action : Lowering Unit} {next : Unit → Lowering Unit}
    (covers : Covers own listed accepted action) (coversNext : Covers own listed second (next ())) :
    Covers own listed (fun value => accepted value ∨ second value) (action >>= next) := by
  intro state final ends readable
  obtain ⟨⟨⟩, middle, endsFirst, endsNext⟩ := bind_eq_ok ends
  have grows := covers state middle endsFirst readable
  have growsNext := coversNext middle final endsNext grows.readable
  refine ⟨growsNext.readable, List.Subset.trans grows.keeps growsNext.keeps, ?_⟩
  rintro value (isAccepted | isSecond)
  · exact FieldType.admitsOf_of_subset growsNext.keeps (grows.permits value isAccepted)
  · exact growsNext.permits value isSecond

theorem after {action : Lowering α} {next : α → Lowering Unit} (leaves : LeavesType action)
    (covers : ∀ state middle value, action state = (.ok value, middle) →
      Covers own listed accepted (next value)) :
    Covers own listed accepted (action >>= next) := by
  intro state final ends readable
  obtain ⟨value, middle, endsFirst, endsNext⟩ := bind_eq_ok ends
  rw [← leaves state middle value endsFirst] at readable ⊢
  exact covers state middle value endsFirst middle final endsNext readable

theorem before {action : Lowering Unit} {next : Unit → Lowering Unit}
    (covers : Covers own listed accepted action) (leaves : LeavesType (next ())) :
    Covers own listed accepted (action >>= next) := by
  intro state final ends readable
  obtain ⟨⟨⟩, middle, endsFirst, endsNext⟩ := bind_eq_ok ends
  rw [leaves middle final () endsNext]
  exact covers state middle endsFirst readable

theorem of_fault {action : Lowering Unit}
    (fails : ∀ state final, action state ≠ (.ok (), final)) : Covers own listed accepted action :=
  fun state final ends _ => absurd ends (fails state final)

theorem refuse (construct : String) : Covers own listed accepted (refuse construct) :=
  of_fault fun _ _ => throw_ne_ok

theorem given {outcome : Except Fault α} {next : α → Lowering Unit}
    (covers : ∀ value, outcome = .ok value → Covers own listed accepted (next value)) :
    Covers own listed accepted (Lowering.given outcome >>= next) :=
  after (.given outcome) fun _ _ value ends => covers value (Prod.mk.inj ends).1

theorem forM {items : List α} {action : α → Lowering Unit} {accepts : α → Value → Prop}
    (covers : ∀ item ∈ items, Covers own listed (accepts item) (action item)) :
    Covers own listed (fun value => ∃ item ∈ items, accepts item value) (items.forM action) := by
  induction items with
  | nil =>
      intro state final ends readable
      rw [← (Prod.mk.inj ends).2]
      refine ⟨readable, List.Subset.refl _, ?_⟩
      rintro value ⟨item, member, -⟩
      cases member
  | cons item rest ih =>
      have further := ih fun next member => covers next (by simp [member])
      change Covers own listed _ (action item >>= fun _ => rest.forM action)
      refine mono (both (covers item (by simp)) further) (fun _ => id) (fun _ => id) ?_
      rintro value ⟨chosen, member, isAccepted⟩
      rcases List.mem_cons.mp member with rfl | later
      · exact Or.inl isAccepted
      · exact Or.inr ⟨chosen, later, isAccepted⟩

theorem inside {schema : Schema} {action : Lowering Unit}
    (covers : Covers own listed accepted action) :
    Covers own listed accepted (Lowering.inside schema action) := by
  intro state final ends readable
  obtain ⟨inner, runs, rfl⟩ := inside_eq_ok ends
  exact covers { state with ancestors := schema.identity :: state.ancestors } inner runs readable

theorem addAtom {atom : TypeAtom} (readableAtom : atom.IsReadable)
    (permits : ∀ value, accepted value → atom.AdmitsOf own listed value) :
    Covers own listed accepted (addAtom atom) := by
  intro state final ends readable
  rw [← (Prod.mk.inj ends).2]
  exact ⟨FieldType.isReadable_add readableAtom readable, FieldType.subset_add atom _,
    fun value isAccepted => FieldType.admitsOf_add readableAtom readable (permits value isAccepted)⟩

theorem addAtoms {atoms : FieldType} (readableAtoms : atoms.IsReadable)
    (permits : ∀ value, accepted value → atoms.AdmitsOf own listed value) :
    Covers own listed accepted (addAtoms atoms) := by
  intro state final ends readable
  rw [← (Prod.mk.inj ends).2]
  exact ⟨FieldType.isReadable_addAll readableAtoms readable, FieldType.subset_addAll atoms _,
    fun value isAccepted =>
      FieldType.admitsOf_addAll readableAtoms readable (permits value isAccepted)⟩

theorem addAny : Covers own listed accepted (Lowering.addAtom .any) :=
  addAtom (.name (by simp [TypeAtom.names])) fun _ _ => trivial

end Covers

theorem context_of_inFresh {segment : Option String} {action : Lowering Unit}
    {state final : LoweringState} {context : LoweringContext}
    (ends : inFresh segment action state = (.ok context, final)) : final.context = state.context := by
  obtain ⟨inner, -, -, rfl⟩ := inFresh_eq_ok ends
  rfl

theorem type_fresh (segment : Option String) (context : LoweringContext) :
    (context.fresh segment).type = [] := by
  cases segment <;> rfl

theorem Covers.grows_inFresh {segment : Option String} {action : Lowering Unit}
    {state final : LoweringState} {context : LoweringContext}
    (covers : Covers own listed accepted action)
    (ends : inFresh segment action state = (.ok context, final)) :
    FieldType.Grows own listed accepted [] context.type := by
  obtain ⟨inner, runs, rfl, -⟩ := inFresh_eq_ok ends
  have grows := covers _ inner runs (by simp [type_fresh, FieldType.IsReadable])
  simpa only [type_fresh] using grows

theorem elementType_eq_ok {lower : Lowerer} {scope : LoweringScope} {element : Schema}
    {state final : LoweringState} {type : FieldType}
    (ends : elementType lower scope element state = (.ok type, final)) :
    ∃ context, inFresh (some "*") (lower scope element) state = (.ok context, final) ∧
      type = context.type := by
  obtain ⟨context, middle, runs, returns⟩ := bind_eq_ok ends
  obtain ⟨equal, rfl⟩ := Prod.mk.inj returns
  exact ⟨context, runs, (Except.ok.inj equal).symm⟩

namespace Covers

variable {lower : Lowerer} {scope : LoweringScope}

theorem addName {atom : TypeAtom} (isName : atom ∈ TypeAtom.names)
    (permits : ∀ value, accepted value → atom.Admits listed value) :
    Covers own listed accepted (Lowering.addAtom atom) := by
  refine addAtom (.name isName) fun value isAccepted => TypeAtom.admitsOf_iff.mpr (Or.inr ⟨?_, ?_⟩)
  · rw [TypeAtom.shape_of_mem_names isName]
    decide
  · exact permits value isAccepted

theorem literals {values : List Value} (offered : ∀ expected ∈ values, own expected) :
    Covers own listed (fun value => ∃ expected ∈ values, Value.sameLiteral expected value = true)
      (Lowering.literals values) := by
  apply forM
  intro expected member
  apply given
  intro text writes
  refine addAtom (.literal writes) fun value same => ?_
  exact ⟨expected, offered expected member, ⟨text, writes, writes⟩, same⟩

theorem container {element : Schema} {ownElement : Value → Prop}
    (covers : Covers ownElement listed accepted (lower scope element))
    (within : ∀ expected, ownElement expected → listed expected) :
    Covers own listed
      (fun value => ∃ elements, value.elements? = some elements ∧ ∀ item ∈ elements, accepted item)
      (Lowering.container lower scope element) := by
  intro state final ends readable
  obtain ⟨type, middle, endsElement, adds⟩ := bind_eq_ok ends
  obtain ⟨context, runs, rfl⟩ := elementType_eq_ok endsElement
  have grows := covers.grows_inFresh runs
  have sameContext := context_of_inFresh runs
  rw [← sameContext] at readable ⊢
  cases isOpen : context.type.isOpen with
  | true =>
      rw [isOpen, if_pos rfl] at adds
      refine addName (by simp [TypeAtom.names]) ?_ middle final adds readable
      rintro value ⟨elements, holds, -⟩
      exact Option.isSome_iff_exists.mpr ⟨elements, holds⟩
  | false =>
      rw [isOpen, if_neg (by decide)] at adds
      refine addAtom (.arrayOf isOpen grows.readable) ?_ middle final adds readable
      rintro value ⟨elements, holds, each⟩
      refine TypeAtom.admits_arrayOf.mpr ⟨elements, holds, ?_⟩
      intro item member
      exact FieldType.admits_of_admitsOf grows.readable within (grows.permits item (each item member))

/-- Objects with keys of a kind; the schemas of keys and values have no part in the type. -/
theorem keyed {key value : Schema} :
    Covers own listed (fun data => ∃ entries, data = .mapping entries)
      (Lowering.keyed lower scope key value) := by
  refine after (.apart _) fun _ _ type _ => ?_
  by_cases permitted : type.all FieldType.permitsKey = true
  · simp only [permitted, if_true]
    refine before (addName (by simp [TypeAtom.names]) ?_) (.addChild "*" value)
    rintro data ⟨entries, rfl⟩
    rfl
  · simp only [permitted]
    exact of_fault fun _ _ => throw_ne_ok

/-- Where a schema leads back to one that is being lowered, or to a table that is being defined,
everything is permitted. -/
theorem resolved {target : Schema} (covers : Covers own listed accepted (lower scope target)) :
    Covers own listed accepted (Lowering.resolved lower scope target) := by
  refine after .get fun _ _ state _ => ?_
  by_cases isOpen : state.isOpen target = true
  · simp only [isOpen, if_true]
    exact after (.notify _) fun _ _ _ _ => addAny
  · simp only [isOpen]
    cases target.table? with
    | none => exact covers
    | some table =>
        simp only
        by_cases seen : scope.openTables.contains table.name = true
        · simp only [seen, if_true]
          exact after (.notify _) fun _ _ _ _ => addAny
        · simp only [seen]
          exact covers

end Covers

end Lowering
end TypedTables
