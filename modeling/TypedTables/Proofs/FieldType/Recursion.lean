import Mathlib.Logic.Relation
import TypedTables.Proofs.FieldType.Terms

/-!
# Recursion

A schema that is its own ancestor is a fault, unless it is what a lazy schema stands for. A lazy
schema, and whatever lies between it and where the recursion was entered, is an ancestor like any
other, so a lazy schema on every cycle does not rule the fault out: it depends on where a cycle is
entered. Where no schema is shared, every cycle is entered and closed through lazy schemas, and the
fault does not occur.
-/

namespace TypedTables

namespace Schema

variable {environment : Environment} {start schema inner other : Schema}

namespace Reaches

theorem trans (first : Reaches environment start schema)
    (second : Reaches environment schema other) : Reaches environment start other := by
  induction first with
  | self => exact second
  | part member _ ih => exact .part member (ih second)
  | resolved isLazy resolves _ ih => exact .resolved isLazy resolves (ih second)

theorem lowered (reached : Reaches environment start schema)
    (member : inner ∈ schema.form.lowered) : Reaches environment start inner :=
  reached.trans (.part (Form.mem_parts_of_mem_lowered member) (.self inner))

theorem target (reached : Reaches environment start schema) {target : LazyTarget Schema}
    (isLazy : schema.form = .lazily target) (resolves : environment.resolve target = .ok other) :
    Reaches environment start other :=
  reached.trans (.resolved isLazy resolves (.self other))

theorem of_closed (reached : Reaches environment start other) (property : Schema → Prop)
    (parts : ∀ schema, property schema → ∀ part ∈ schema.form.parts, property part)
    (targets : ∀ schema, property schema → ∀ target resolved, schema.form = .lazily target →
      environment.resolve target = .ok resolved → property resolved)
    (holds : property start) : property other := by
  induction reached with
  | self => exact holds
  | part member _ ih => exact ih (parts _ holds _ member)
  | resolved isLazy resolves _ ih => exact ih (targets _ holds _ _ isLazy resolves)

end Reaches

/-- No schema is shared: the start is part of no schema, a schema is part of one schema at most, and
what a lazy schema stands for is part of none. -/
structure IsUnshared (environment : Environment) (start : Schema) : Prop where
  root : ∀ owner, start.Reaches environment owner → ∀ part ∈ owner.form.lowered,
    part.isSame start = false
  owner : ∀ first second, start.Reaches environment first → start.Reaches environment second →
    ∀ part ∈ first.form.lowered, ∀ other ∈ second.form.lowered, part.isSame other = true →
      first.isSame second = true
  target : ∀ owner outer, start.Reaches environment owner → start.Reaches environment outer →
    ∀ target resolved, outer.form = .lazily target → environment.resolve target = .ok resolved →
      ∀ part ∈ owner.form.lowered, part.isSame resolved = false

/-- A schema is the start, part of an ancestor, or what a lazy schema stands for. -/
inductive IsEntered (environment : Environment) (start : Schema) (ancestors : List Ancestor) :
    Schema → Prop
  | start : IsEntered environment start ancestors start
  | part {owner part : Schema} (reached : start.Reaches environment owner)
      (passed : owner.identity ∈ ancestors) (member : part ∈ owner.form.lowered) :
      IsEntered environment start ancestors part
  | resolved {outer other : Schema} {target : LazyTarget Schema}
      (reached : start.Reaches environment outer) (isLazy : outer.form = .lazily target)
      (resolves : environment.resolve target = .ok other) :
      IsEntered environment start ancestors other

theorem IsEntered.cons {ancestors : List Ancestor}
    (entered : IsEntered environment start ancestors schema) (newest : Ancestor) :
    IsEntered environment start (newest :: ancestors) schema := by
  cases entered with
  | start => exact .start
  | part reached passed member => exact .part reached (List.mem_cons_of_mem _ passed) member
  | resolved reached isLazy resolves => exact .resolved reached isLazy resolves

/-- On the way to a schema, it and all its ancestors were entered, and it is none of them. -/
structure IsUnderWay (environment : Environment) (start : Schema) (ancestors : List Ancestor)
    (schema : Schema) : Prop where
  reached : start.Reaches environment schema
  isNew : (LoweringState.ofField ancestors).isOpen schema = false
  entered : IsEntered environment start ancestors schema
  passed : ∀ identity, some identity ∈ ancestors →
    ∃ ancestor, ancestor.identity = some identity ∧ IsEntered environment start ancestors ancestor

theorem isSame_iff : schema.isSame other = true ↔
    ∃ identity, schema.identity = some identity ∧ other.identity = some identity := by
  unfold isSame
  cases schema.identity with
  | none => simp
  | some first =>
      cases other.identity with
      | none => simp
      | some second => simpa using eq_comm

namespace IsUnderWay

variable {ancestors : List Ancestor}

theorem ofStart : IsUnderWay environment start [] start :=
  ⟨.self start, by rw [Bool.eq_false_iff, Ne, isOpen_iff]; simp, .start, by simp⟩

theorem passed_cons (underWay : IsUnderWay environment start ancestors schema) {identity : Nat}
    (isAncestor : some identity ∈ schema.identity :: ancestors) :
    ∃ ancestor, ancestor.identity = some identity ∧
      IsEntered environment start ancestors ancestor := by
  rcases List.mem_cons.mp isAncestor with newest | earlier
  · exact ⟨schema, newest.symm, underWay.entered⟩
  · exact underWay.passed identity earlier

theorem further (underWay : IsUnderWay environment start ancestors schema)
    (reached : start.Reaches environment other)
    (isNew : (LoweringState.ofField (schema.identity :: ancestors)).isOpen other = false)
    (entered : IsEntered environment start (schema.identity :: ancestors) other) :
    IsUnderWay environment start (schema.identity :: ancestors) other := by
  refine ⟨reached, isNew, entered, fun identity isAncestor => ?_⟩
  obtain ⟨ancestor, identified, before⟩ := underWay.passed_cons isAncestor
  exact ⟨ancestor, identified, before.cons _⟩

/-- A part of a schema on the way is none of its ancestors where no schema is shared: an ancestor
that is the same schema was entered in one of three ways, and each of them would be shared. -/
theorem part (underWay : IsUnderWay environment start ancestors schema)
    (unshared : IsUnshared environment start) (member : inner ∈ schema.form.lowered) :
    IsUnderWay environment start (schema.identity :: ancestors) inner := by
  refine underWay.further (underWay.reached.lowered member) ?_
    (.part underWay.reached (by simp) member)
  by_contra returned
  obtain ⟨identity, ofInner, isAncestor⟩ := isOpen_iff.mp (by simpa using returned)
  obtain ⟨ancestor, ofAncestor, entered⟩ := underWay.passed_cons isAncestor
  have same : inner.isSame ancestor = true := isSame_iff.mpr ⟨identity, ofInner, ofAncestor⟩
  cases entered with
  | start => simp [unshared.root schema underWay.reached inner member] at same
  | part reached passed isPart =>
      -- Both are part of one schema, which would have been under way before.
      have sameOwner := unshared.owner schema _ underWay.reached reached inner member _ isPart same
      obtain ⟨own, ofSchema, ofOwner⟩ := isSame_iff.mp sameOwner
      have isOpen := isOpen_iff.mpr ⟨own, ofSchema, by rwa [← ofOwner]⟩
      simp [underWay.isNew] at isOpen
  | resolved reached isLazy resolves =>
      simp [unshared.target schema _ underWay.reached reached _ _ isLazy resolves inner member]
        at same

end IsUnderWay

/-- A lazy schema never fails to be built because of a recursion. -/
def BuildsWithoutRecursion (environment : Environment) (start : Schema) : Prop :=
  ∀ schema, start.Reaches environment schema → ∀ target cause, schema.form = .lazily target →
    environment.resolve target = .error cause → ∀ kind, cause ≠ .lowering (.recursive kind) none

/-- A schema on the way keeps to the terms. -/
theorem IsUnderWay.endsIn_lowered {ancestors : List Ancestor}
    (underWay : IsUnderWay environment start ancestors schema)
    (unshared : IsUnshared environment start) (builds : start.BuildsWithoutRecursion environment)
    (openTables : List String) :
    EndsIn (fun cause => ∀ kind, cause ≠ .lowering (.recursive kind) none)
      (fun field => ∀ child ∈ field.children,
        IsUnderWay environment start child.ancestors child.schema)
      (schema.lowered ⟨environment, openTables⟩ ancestors).outcome := by
  have abides : Lowering.Abides
      (.untyped (fun cause => ∀ kind, cause ≠ .lowering (.recursive kind) none)
        fun child => IsUnderWay environment start child.ancestors child.schema)
      ancestors Lowering.anyResult (Lowering.enter ⟨environment, openTables⟩ schema) := by
    refine Lowering.abides_run (fun _ => IsUnderWay environment start) (.of_isOfForm ?_)
      LoweringTerms.allowsAtoms_untyped ?_ ?_ ?_ ?_ ?_ underWay openTables
    · rintro cause isOfForm kind rfl
      exact isOfForm
    · rintro below passed - kind ⟨⟩
    · intro budget below passed held isOpen
      simp [held.isNew] at isOpen
    · intro budget below passed held _ part member
      exact ⟨held.part unshared member, fun _ => held.part unshared member⟩
    · intro budget below passed held _
      exact builds _ held.reached
    · intro budget below passed held _ target other isLazy resolves isNew
      exact held.further (held.reached.target isLazy resolves) isNew
        (.resolved held.reached isLazy resolves)
  exact (Schema.endsIn_lowered abides).mono (fun _ => id) fun _ kept => kept.2

/-- The fields that are lowered on from a field: the field itself, below no ancestors, and the
children that each of them keeps, below the ancestors that they were kept with. -/
inductive IsFieldOf (environment : Environment) (openTables : List String) (start : Schema) :
    List Ancestor → Schema → Prop
  | start : IsFieldOf environment openTables start [] start
  | child {ancestors : List Ancestor} {schema : Schema} {field : LoweredField} {child : ChildField}
      (above : IsFieldOf environment openTables start ancestors schema)
      (lowers : (schema.lowered ⟨environment, openTables⟩ ancestors).outcome = .ok field)
      (kept : child ∈ field.children) :
      IsFieldOf environment openTables start child.ancestors child.schema

theorem IsFieldOf.isUnderWay {openTables : List String} {ancestors : List Ancestor}
    (isField : IsFieldOf environment openTables start ancestors schema)
    (unshared : IsUnshared environment start) (builds : start.BuildsWithoutRecursion environment) :
    IsUnderWay environment start ancestors schema := by
  induction isField with
  | start => exact .ofStart
  | child above lowers kept ih =>
      have ends := ih.endsIn_lowered unshared builds openTables
      rw [lowers] at ends
      exact ends _ kept

/-- Recursion is not rejected where no schema is shared: neither the field nor any field below it
ends in a recursion, through whichever lazy schemas it leads back to itself. -/
theorem lowered_ne_recursive_of_isUnshared {openTables : List String} {ancestors : List Ancestor}
    (unshared : IsUnshared environment start) (builds : start.BuildsWithoutRecursion environment)
    (isField : IsFieldOf environment openTables start ancestors schema) (kind : String) :
    (schema.lowered ⟨environment, openTables⟩ ancestors).outcome ≠
      .error (.lowering (.recursive kind) none) := by
  intro fails
  have ends := (isField.isUnderWay unshared builds).endsIn_lowered unshared builds openTables
  rw [fails] at ends
  exact ends kind rfl

def lazyTree : Schema := ⟨some 0, [], .null, .lazily (.definition "tree")⟩

def listOfTrees : Schema := ⟨some 1, [], .null, .array lazyTree none none⟩

def tree : Schema := ⟨some 2, [], .null, .object [("children", listOfTrees)] none⟩

def treeEnvironment : Environment := ⟨[("tree", tree)], none⟩

theorem reaches_of_tree (reached : tree.Reaches treeEnvironment schema) :
    schema = tree ∨ schema = listOfTrees ∨ schema = lazyTree := by
  refine reached.of_closed (fun other => other = tree ∨ other = listOfTrees ∨ other = lazyTree)
    ?_ ?_ (Or.inl rfl)
  · rintro other (rfl | rfl | rfl) part member
    · exact Or.inr (Or.inl (List.mem_singleton.mp member))
    · exact Or.inr (Or.inr (List.mem_singleton.mp member))
    · cases member
  · rintro other (rfl | rfl | rfl) target resolved isLazy resolves
    · cases isLazy
    · cases isLazy
    · cases isLazy
      cases resolves
      exact Or.inl rfl

theorem isUnshared_tree : IsUnshared treeEnvironment tree := by
  have onlyParts {owner part : Schema} (reached : tree.Reaches treeEnvironment owner)
      (member : part ∈ owner.form.lowered) :
      owner = tree ∧ part = listOfTrees ∨ owner = listOfTrees ∧ part = lazyTree := by
    rcases reaches_of_tree reached with rfl | rfl | rfl
    · exact Or.inl ⟨rfl, List.mem_singleton.mp member⟩
    · exact Or.inr ⟨rfl, List.mem_singleton.mp member⟩
    · cases member
  refine ⟨?_, ?_, ?_⟩
  · intro owner reached part member
    rcases onlyParts reached member with ⟨rfl, rfl⟩ | ⟨rfl, rfl⟩ <;> rfl
  · intro first second reached reachedSecond part member other otherMember same
    rcases onlyParts reached member with ⟨rfl, rfl⟩ | ⟨rfl, rfl⟩ <;>
      rcases onlyParts reachedSecond otherMember with ⟨rfl, rfl⟩ | ⟨rfl, rfl⟩ <;>
        first | rfl | cases same
  · intro owner outer reached reachedOuter target resolved isLazy resolves part member
    have isTree : resolved = tree := by
      rcases reaches_of_tree reachedOuter with rfl | rfl | rfl
      · cases isLazy
      · cases isLazy
      · cases isLazy
        cases resolves
        rfl
    subst isTree
    rcases onlyParts reached member with ⟨rfl, rfl⟩ | ⟨rfl, rfl⟩ <;> rfl

theorem buildsWithoutRecursion_tree : tree.BuildsWithoutRecursion treeEnvironment := by
  intro schema reached target cause isLazy fails
  rcases reaches_of_tree reached with rfl | rfl | rfl
  · cases isLazy
  · cases isLazy
  · cases isLazy
    cases fails

/-- The list of trees in a tree is lowered below the tree. -/
theorem lowered_listOfTrees_ne_recursive :
    IsFieldOf treeEnvironment [] tree [some 2] listOfTrees ∧
      (listOfTrees.lowered ⟨treeEnvironment, []⟩ [some 2]).outcome ≠
        .error (.lowering (.recursive "array") none) := by
  let child : ChildField := ⟨["children"], listOfTrees, [some 2]⟩
  have lowers : (tree.lowered ⟨treeEnvironment, []⟩ []).outcome =
      .ok ⟨[.object], false, .undefined, [child]⟩ := rfl
  have kept : IsFieldOf treeEnvironment [] tree [some 2] listOfTrees :=
    .child .start lowers (List.mem_singleton.mpr rfl : child ∈ [child])
  exact ⟨kept, lowered_ne_recursive_of_isUnshared isUnshared_tree buildsWithoutRecursion_tree kept
    "array"⟩

/-- No schema that is reached lies in itself: every way back to it leads through a lazy schema. -/
def CyclesAreLazy (environment : Environment) (start : Schema) : Prop :=
  ∀ schema, start.Reaches environment schema → ∀ inner,
    Relation.TransGen (fun outer part => part ∈ outer.form.lowered) schema inner →
      schema.isSame inner = false

def lazyElement : Schema := ⟨some 0, [], .null, .lazily (.definition "element")⟩

def nestedList : Schema := ⟨some 1, [], .null, .array lazyElement none none⟩

def nestedElement : Schema := ⟨some 2, [], .null, .optional nestedList⟩

def nestedEnvironment : Environment := ⟨[("element", nestedElement)], none⟩

theorem reaches_of_nestedList (reached : nestedList.Reaches nestedEnvironment schema) :
    schema = nestedList ∨ schema = lazyElement ∨ schema = nestedElement := by
  refine reached.of_closed
    (fun other => other = nestedList ∨ other = lazyElement ∨ other = nestedElement) ?_ ?_
    (Or.inl rfl)
  · rintro other (rfl | rfl | rfl) part member
    · exact Or.inr (Or.inl (List.mem_singleton.mp member))
    · cases member
    · exact Or.inl (List.mem_singleton.mp member)
  · rintro other (rfl | rfl | rfl) target resolved isLazy resolves
    · cases isLazy
    · cases isLazy
      cases resolves
      exact Or.inr (Or.inr rfl)
    · cases isLazy

theorem cyclesAreLazy_nestedList : CyclesAreLazy nestedEnvironment nestedList := by
  intro schema reached inner below
  -- What lies in a schema is less high, and these three are told apart by their identities.
  have further : nestedList.Reaches nestedEnvironment inner ∧ inner.height < schema.height := by
    induction below with
    | single member => exact ⟨reached.lowered member, height_lt_of_mem_lowered member⟩
    | tail _ member ih =>
        exact ⟨ih.1.lowered member, Nat.lt_trans (height_lt_of_mem_lowered member) ih.2⟩
  obtain ⟨reachedInner, lower⟩ := further
  rcases reaches_of_nestedList reached with rfl | rfl | rfl <;>
    rcases reaches_of_nestedList reachedInner with rfl | rfl | rfl <;>
      first | rfl | exact absurd lower (Nat.lt_irrefl _)

/-- Every cycle leads through a lazy schema, and still the list is rejected: the element is no
ancestor of the list, so it is entered, and the list in it is an ancestor. -/
theorem cyclesAreLazy_and_recursive_nestedList :
    CyclesAreLazy nestedEnvironment nestedList ∧
      (nestedList.lowered ⟨nestedEnvironment, []⟩ []).outcome =
        .error (.lowering (.recursive "array") none) :=
  ⟨cyclesAreLazy_nestedList, rfl⟩

end Schema
end TypedTables
