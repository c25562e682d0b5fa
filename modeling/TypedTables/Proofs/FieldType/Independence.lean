import TypedTables.Proofs.FieldType.Chains
import TypedTables.Proofs.FieldType.Collecting
import TypedTables.Proofs.Schema.Identities

/-!
# Lowering without regard to what was collected

A schema is lowered in the same way whatever was collected before it, and a fault at any depth leaves
the place as it was. So the alternatives of a union are those of its options, each lowered on its own,
one after another and without repetitions; and whatever is lowered later ends as it would have ended
without what came before.
-/

namespace TypedTables

/-- Where definitions have identities, budgets beyond the height of a schema and what remains of the
definitions make no difference. -/
theorem Lowering.AgreeBelow.run_of_height {environment : Environment} {first second : Nat}
    {ancestors : List Ancestor} {schema : Schema} (identified : environment.IsIdentified)
    (enough : schema.height +
      remainingHeight (schema.identity :: ancestors) environment.definitions < first)
    (enoughAlso : schema.height +
      remainingHeight (schema.identity :: ancestors) environment.definitions < second)
    (openTables : List String) :
    AgreeBelow ancestors (Lowering.run first ⟨environment, openTables⟩ schema)
      (Lowering.run second ⟨environment, openTables⟩ schema) := by
  induction first generalizing second ancestors schema openTables with
  | zero => omega
  | succ first ih =>
      obtain ⟨second, rfl⟩ : ∃ less, second = less + 1 := ⟨second - 1, by omega⟩
      have isHigh := schema.height_pos
      -- Anything less high fits, as no definition more remains below it.
      have fits {inner : Schema} (lower : inner.height < schema.height) (tables : List String) :
          AgreeBelow (schema.identity :: ancestors)
            (Lowering.run first ⟨environment, tables⟩ inner)
            (Lowering.run second ⟨environment, tables⟩ inner) := by
        have less := remainingHeight_cons_le inner.identity (schema.identity :: ancestors)
          environment.definitions
        exact ih (by omega) (by omega) tables
      refine .get fun state below => ?_
      rw [LoweringState.isOpen_eq below]
      split
      · exact .of_step (.throw trivial)
      refine .inside (.form (fun part member tables =>
        fits (Schema.height_lt_of_mem_lowered member) tables) ?_)
      intro target other isLazy resolves isNew
      replace resolves : environment.resolve target = .ok other := resolves
      rcases Environment.resolved_cases resolves with
        ⟨table, rfl⟩ | isDefinition | rfl
      · have ends : table.toSchema.EndsWithin environment 1 (schema.identity :: ancestors) :=
          .of_leaf rfl (by intro; simp [TableSchema.toSchema]) Nat.one_pos
        intro state below
        have same := ends.agreeBelow_run (show 1 ≤ first by omega) openTables state below
        have sameAlso := ends.agreeBelow_run (show 1 ≤ second by omega) openTables state below
        exact ⟨same.1.symm.trans sameAlso.1, sameAlso.2⟩
      · obtain ⟨own, identity⟩ := identified other isDefinition
        have less := remainingHeight_cons_add_height_le isDefinition identity isNew
        exact ih (by omega) (by omega) openTables
      · exact fits (Schema.height_lt_of_template isLazy) openTables

/-- Where definitions have identities, a budget that exceeds the one of a schema makes no
difference. -/
theorem Lowering.run_eq_enter {scope : LoweringScope} {budget : Nat} {schema : Schema}
    (identified : scope.environment.IsIdentified)
    (enough : scope.environment.budget schema ≤ budget) :
    run budget scope schema = enter scope schema := by
  funext state
  have less := remainingHeight_le (schema.identity :: state.ancestors) scope.environment.definitions
  have fits : schema.height + remainingHeight (schema.identity :: state.ancestors)
      scope.environment.definitions < scope.environment.budget schema := by
    unfold Environment.budget Environment.height
    omega
  exact (AgreeBelow.run_of_height identified (by omega) fits scope.openTables state rfl).1

namespace Lowering

variable {α : Type} {place : LoweringPlace}

/-- Steps one after another end well when each of them does on its own, and add what each of them adds
on its own. -/
theorem Collects.forM_eq_ok_iff {items : List α} {action : α → Lowering PUnit}
    (collects : ∀ item ∈ items, Collects place (action item)) (held : Collected)
    (final : LoweringState) :
    items.forM action (place.holding held) = (.ok (), final) ↔
      ∃ founds, List.Forall₂
          (fun item found => action item (place.holding .nothing) = (.ok (), place.holding found))
          items founds ∧
        final = place.holding (founds.foldl Collected.adding held) := by
  induction items generalizing held with
  | nil =>
      constructor
      · intro ends
        exact ⟨[], .nil, (Prod.mk.inj ends).2.symm⟩
      · rintro ⟨founds, alone, rfl⟩
        cases alone
        rfl
  | cons item rest ih =>
      obtain ⟨outcome, found, -, same⟩ := collects item (by simp)
      have further := ih (fun next member => collects next (by simp [member]))
        (held.adding found)
      change (action item >>= fun _ => rest.forM action) (place.holding held) = _ ↔ _
      constructor
      · intro ends
        obtain ⟨done, middle, endsFirst, endsRest⟩ := bind_eq_ok ends
        obtain ⟨rfl, rfl⟩ := Prod.mk.inj ((same held).symm.trans endsFirst)
        obtain ⟨founds, alone, rfl⟩ := further.mp endsRest
        refine ⟨Collected.nothing.adding found :: founds, .cons (same .nothing) alone, ?_⟩
        rw [List.foldl_cons, ← Collected.adding_adding, Collected.adding_nothing]
      · rintro ⟨founds, alone, rfl⟩
        cases alone with
        | @cons _ own _ others first alone =>
            obtain ⟨rfl, equal⟩ := Prod.mk.inj ((same .nothing).symm.trans first)
            have isOwn : Collected.nothing.adding found = own :=
              congrArg LoweringState.collected equal
            simp only [Bind.bind, ExceptT.bind, ExceptT.mk, StateT.bind, same held]
            refine further.mpr ⟨others, alone, ?_⟩
            rw [List.foldl_cons, ← isOwn, ← Collected.adding_adding, Collected.adding_nothing]

theorem forM_congr {items : List α} {first second : α → Lowering PUnit}
    (same : ∀ item ∈ items, first item = second item) : items.forM first = items.forM second := by
  induction items with
  | nil => rfl
  | cons item rest ih =>
      change (first item >>= fun _ => rest.forM first) = (second item >>= fun _ => rest.forM second)
      rw [same item (by simp), ih fun next member => same next (by simp [member])]

theorem enter_of_isOpen {scope : LoweringScope} {schema : Schema} (isOpen : place.isOpen schema = true)
    (held : Collected) :
    enter scope schema (place.holding held) =
      (.error (.lowering (.recursive schema.kind.name) none), place.holding held) := by
  change (if place.isOpen schema then _ else inside schema _) (place.holding held) = _
  rw [isOpen]
  rfl

theorem enter_union {scope : LoweringScope} {schema : Schema} {options : List Schema}
    (identified : scope.environment.IsIdentified) (isUnion : schema.form = .union options)
    (isNew : place.isOpen schema = false) (held : Collected) :
    enter scope schema (place.holding held) =
      inside schema (options.forM (enter scope)) (place.holding held) := by
  have isNewThere : (place.holding held).isOpen schema = false := isNew
  have alone (option : Schema) (member : option ∈ options) :
      run (schema.height + scope.environment.height) scope option = enter scope option := by
    have lower : option.height < schema.height :=
      Schema.height_lt_of_mem_lowered (by rw [isUnion]; exact member)
    refine run_eq_enter identified ?_
    unfold Environment.budget
    omega
  rw [enter, Environment.budget, run_of_isNew isNewThere, isUnion]
  exact congrArg (fun action => inside schema action (place.holding held)) (forM_congr alone)

/-- A union ends well when each of its options does on its own, and adds what each of them adds on its
own. -/
theorem enter_union_eq_ok_iff {scope : LoweringScope} {schema : Schema} {options : List Schema}
    (identified : scope.environment.IsIdentified) (isUnion : schema.form = .union options)
    (held : Collected) (final : LoweringState) :
    enter scope schema (place.holding held) = (.ok (), final) ↔
      place.isOpen schema = false ∧
        ∃ founds, List.Forall₂
            (fun option found => enter scope option ((place.inside schema).holding .nothing) =
              (.ok (), (place.inside schema).holding found)) options founds ∧
          final = place.holding (founds.foldl Collected.adding held) := by
  cases isOpen : place.isOpen schema with
  | true =>
      rw [enter_of_isOpen isOpen]
      exact iff_of_false (fun ends => by cases (Prod.mk.inj ends).1) (by simp)
  | false =>
      have each := Collects.forM_eq_ok_iff
        (fun option (_ : option ∈ options) => Collects.enter scope option (place.inside schema)) held
      rw [enter_union identified isUnion isOpen, eq_self, true_and]
      constructor
      · intro ends
        obtain ⟨inner, runs, rfl⟩ := inside_eq_ok ends
        obtain ⟨founds, alone, rfl⟩ := (each inner).mp runs
        exact ⟨founds, alone, rfl⟩
      · rintro ⟨founds, alone, rfl⟩
        have runs := (each _).mpr ⟨founds, alone, rfl⟩
        have start : { place.holding held with
            ancestors := schema.identity :: (place.holding held).ancestors } =
              (place.inside schema).holding held := rfl
        unfold inside
        rw [start, runs]
        rfl

/-- Lowering a schema has no regard to what was collected before: at a place it always ends in the
same way, and adds the same to whatever is there. So a union adds the alternatives of its options, each
lowered on its own, one after another and without repetitions; definitions must have identities for
that, as those without one could go round in a circle unnoticed. -/
theorem enter_ignores_collected (scope : LoweringScope) (schema : Schema) (place : LoweringPlace) :
    (∃ outcome found, ∀ held,
      enter scope schema (place.holding held) = (outcome, place.holding (held.adding found))) ∧
    ∀ options held final, schema.form = .union options → scope.environment.IsIdentified →
      (enter scope schema (place.holding held) = (.ok (), final) ↔
        place.isOpen schema = false ∧
          ∃ founds, List.Forall₂
              (fun option found => enter scope option ((place.inside schema).holding .nothing) =
                (.ok (), (place.inside schema).holding found)) options founds ∧
            final = place.holding (founds.foldl Collected.adding held) ∧
            final.context.type = held.type.addAll (founds.flatMap Collected.type)) := by
  constructor
  · obtain ⟨outcome, found, -, same⟩ := Collects.enter scope schema place
    exact ⟨outcome, found, same⟩
  · intro options held final isUnion identified
    rw [enter_union_eq_ok_iff identified isUnion]
    refine and_congr_right fun _ => exists_congr fun founds => and_congr_right fun _ => ?_
    refine ⟨?_, And.left⟩
    rintro rfl
    exact ⟨rfl, Collected.type_foldl_adding founds held⟩

def repeatedChoice : Schema :=
  .anonymous (.union [.anonymous (.text Schema.freeText), .anonymous (.number Schema.anyNumber),
    .anonymous (.text Schema.freeText)])

/-- In a place that permits numbers already the choice adds texts, and those once. -/
theorem enter_ignores_collected_choice :
    let scope : LoweringScope := ⟨⟨[], none⟩, []⟩
    let place : LoweringPlace := ⟨[some 0], ["tags", "*"], false⟩
    let held : Collected := { Collected.nothing with type := [.number] }
    scope.environment.IsIdentified ∧
      enter scope repeatedChoice (place.holding held) =
        (.ok (), place.holding { held with type := [.number, .string] }) := by
  intro scope place held
  have identified : scope.environment.IsIdentified := by simp [scope, Environment.IsIdentified]
  refine ⟨identified, ?_⟩
  refine ((enter_ignores_collected scope repeatedChoice place).2 _ held _ rfl identified).mpr
    ⟨rfl, [{ Collected.nothing with type := [.string] }, { Collected.nothing with type := [.number] },
      { Collected.nothing with type := [.string] }], ?_, rfl, rfl⟩
  exact .cons rfl (.cons rfl (.cons rfl .nil))

def backOption : Schema :=
  { identity := some 1, refinements := [], description := .null
    form := .lazily (.definition "choice") }

def circularChoice : Schema :=
  { identity := some 0, refinements := [], description := .null
    form := .union [.anonymous (.text Schema.freeText), backOption] }

/-- A lazy schema whose target is a text that is built with an identity. -/
def lateText (identity : Option Nat) : Schema :=
  .anonymous (.lazily (.template
    { identity, refinements := [], description := .null, form := .text Schema.freeText }))

/-- An option that leads back to its union cannot be lowered apart from the union. And a lazy schema
depends on the identity that its target is given: it can be the identity of an ancestor that is gone,
or another one. -/
theorem not_enter_apart :
    (¬∀ (scope : LoweringScope) (place : LoweringPlace) (schema : Schema) (options : List Schema),
      schema.form = .union options → scope.environment.IsIdentified →
        (enter scope schema (place.holding .nothing)).1 = .ok () →
          ∀ option ∈ options, (enter scope option (place.holding .nothing)).1 = .ok ()) ∧
    ¬∀ (scope : LoweringScope) (place : LoweringPlace) (held : Collected) (first second : Schema),
      first.identity = second.identity → first.unidentified = second.unidentified →
        enter scope first (place.holding held) = enter scope second (place.holding held) := by
  constructor
  · intro apart
    have identified : (⟨[("choice", circularChoice)], none⟩ : Environment).IsIdentified := by
      simp [Environment.IsIdentified, circularChoice]
    have fails := apart ⟨⟨[("choice", circularChoice)], none⟩, []⟩ ⟨[], [], true⟩ circularChoice _ rfl
      identified rfl backOption (by simp)
    cases fails
  · intro same
    have types := congrArg (fun ends => ends.2.context.type) (same ⟨⟨[], none⟩, []⟩
      ⟨[some 7], [], true⟩ .nothing (lateText (some 7)) (lateText none) rfl rfl)
    cases types

end Lowering

/-- After a step the state stands where it stood, and keeps the children that it had. -/
structure LoweringState.IsUnwound (before after : LoweringState) : Prop where
  ancestors : after.ancestors = before.ancestors
  path : after.context.path = before.context.path
  isRoot : after.context.isRoot = before.context.isRoot
  children : before.children <+: after.children

theorem LoweringState.IsUnwound.place_eq {before after : LoweringState}
    (unwound : before.IsUnwound after) : after.place = before.place := by
  simp only [LoweringState.place, unwound.ancestors, unwound.path, unwound.isRoot]

namespace Lowering

variable {α : Type} {state : LoweringState} {action : Lowering α}

theorem Collects.isUnwound (collects : Collects state.place action) :
    state.IsUnwound (action state).2 := by
  obtain ⟨outcome, found, -, same⟩ := collects
  have ends := same state.collected
  rw [state.holding_collected] at ends
  rw [ends]
  exact ⟨rfl, rfl, rfl, List.prefix_append _ _⟩

/-- A step ends in the same way in every state that stands where the state stood. -/
theorem Collects.outcome_eq {after : LoweringState} (unwound : state.IsUnwound after)
    (collects : Collects state.place action) : (action after).1 = (action state).1 := by
  obtain ⟨outcome, found, -, same⟩ := collects
  have ends := same state.collected
  have endsAfter := same after.collected
  rw [state.holding_collected] at ends
  rw [← unwound.place_eq, after.holding_collected] at endsAfter
  rw [ends, endsAfter]

/-- However lowering a schema ends, in the context or in a fresh one, and at whatever depth a fault
comes from: the ancestors and the place of the context are as they were, and so are the children that
were kept before. A fresh context leaves the context itself as it was. Whatever is lowered later, with
whatever is resolved and being defined, ends as it would have ended without the call. -/
theorem enter_unwinds (scope : LoweringScope) (schema : Schema) (segment : Option String)
    (state : LoweringState) :
    state.IsUnwound (enter scope schema state).2 ∧
    state.IsUnwound (enterFresh scope segment schema state).2 ∧
    (enterFresh scope segment schema state).2.context = state.context ∧
    ∀ laterScope later,
      (enter laterScope later (enter scope schema state).2).1 = (enter laterScope later state).1 ∧
      (enter laterScope later (enterFresh scope segment schema state).2).1 =
        (enter laterScope later state).1 := by
  have entered : state.IsUnwound (enter scope schema state).2 :=
    Collects.isUnwound (.enter scope schema _)
  have enteredFresh : state.IsUnwound (enterFresh scope segment schema state).2 :=
    Collects.isUnwound (.inFresh (.enter scope schema _))
  refine ⟨entered, enteredFresh, rfl, fun laterScope later => ⟨?_, ?_⟩⟩
  · exact Collects.outcome_eq entered (.enter laterScope later _)
  · exact Collects.outcome_eq enteredFresh (.enter laterScope later _)

end Lowering
end TypedTables
