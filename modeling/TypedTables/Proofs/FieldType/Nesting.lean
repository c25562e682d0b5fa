import TypedTables.Proofs.FieldType.Independence
import TypedTables.Proofs.FieldType.Resemblance
import TypedTables.Proofs.Validation.Intersections
import TypedTables.Proofs.Validation.Unions

/-!
# Unions in unions

A union that is an option of a union may be replaced by its options. Where all options settle, a
union accepts what the first of its options accepts that accepts anything, and the first of several
lists is the first of all of them. Lowered, a union adds the alternatives of its options one after
another; that one union lies in the other shows in the ancestors of the options, which a tree does
not depend on.
-/

namespace TypedTables

/-- The options of a nested union are some, a plain inner union, and some more; the flat union has
the options of the inner one in its place. Else the two are alike. -/
structure Schema.IsNesting (before within after : List Schema) (inner nested flat : Schema) :
    Prop where
  innerForm : inner.form = .union within
  plain : inner.refinements = []
  nestedForm : nested.form = .union (before ++ inner :: after)
  flatForm : flat.form = .union (before ++ within ++ after)
  refinements : nested.refinements = flat.refinements

/-- Where an option of the nested union lies in it, or in the inner union in it, it lies in the flat
union instead. -/
inductive Schema.UnionsAbove (inner nested flat : Schema) (ancestors : List Ancestor) :
    List Ancestor → List Ancestor → Prop
  | outer : UnionsAbove inner nested flat ancestors (nested.identity :: ancestors)
      (flat.identity :: ancestors)
  | inner : UnionsAbove inner nested flat ancestors
      (inner.identity :: nested.identity :: ancestors) (flat.identity :: ancestors)

def Payload.output? (payload : Payload) : Option Value :=
  if payload.isClean then some payload.value else none

theorem Validator.accepted_of_alone {validate : Validator} {schema : Schema} {input : Value}
    {payload : Payload} (settles : validate.alone schema input = .ok payload) :
    validate.accepted schema input = payload.output? := by
  rw [Validator.accepted, settles]
  rfl

namespace Combination

variable {validate : Validator} {input : Value}

/-- The choice among answers brings what the first of them brings that has no issues. -/
theorem output?_choose (entries : List (Entry Payload)) :
    (choose input entries).output? = entries.findSome? fun entry => entry.result.output? := by
  have found : (choose input entries).output? =
      (entries.find? fun entry => entry.result.isClean).map fun entry => entry.result.value := by
    unfold choose
    cases entries.find? fun entry => entry.result.isClean <;> rfl
  rw [found]
  clear found
  induction entries with
  | nil => rfl
  | cons entry rest ih =>
      rw [List.find?_cons, List.findSome?_cons, Payload.output?]
      cases entry.result.isClean with
      | true => rfl
      | false => exact ih

/-- What the answers of options bring does not depend on where they are numbered from. -/
theorem findSome?_optionEntries (index : Nat) (payloads : List Payload) :
    (optionEntries index payloads).findSome? (fun entry => entry.result.output?) =
      payloads.findSome? Payload.output? := by
  induction payloads generalizing index with
  | nil => rfl
  | cons payload rest ih => rw [optionEntries, List.findSome?_cons, List.findSome?_cons, ih]; rfl

theorem findSome?_of_alone {options : List Schema} {payloads : List Payload}
    (alone : options.map (validate.alone · input) = payloads.map .ok) :
    payloads.findSome? Payload.output? = options.findSome? (validate.accepted · input) := by
  induction options generalizing payloads with
  | nil =>
      rw [List.map_eq_nil_iff.mp alone.symm]
      rfl
  | cons option rest ih =>
      cases payloads with
      | nil => simp at alone
      | cons payload others =>
          simp only [List.map_cons, List.cons.injEq] at alone
          rw [List.findSome?_cons, List.findSome?_cons, validate.accepted_of_alone alone.1,
            ih alone.2]

/-- Where all options settle, the union settles, and brings what the first of its options accepts
that accepts anything. -/
theorem exists_settled_union {options : List Schema}
    (settle : ∀ option ∈ options, ∃ payload, validate.alone option input = .ok payload) :
    ∃ payload, (union validate options input).settled = .ok payload ∧
      payload.output? = options.findSome? (validate.accepted · input) := by
  obtain ⟨payloads, alone⟩ := (exists_payloads_iff options).mpr settle
  refine ⟨_, settled_tryOptions_of_settled .nil alone 0, ?_⟩
  rw [List.nil_append, output?_choose, findSome?_optionEntries, findSome?_of_alone alone]

end Combination

namespace Validation

variable {scope : ParseScope} {limit : Nat} {input : Value}

/-- What the checks of a schema let an output through as, if they do. -/
def refined (mode : ParseMode) (refinements : List Refinement) (output : Value) : Option Value :=
  if refinements.isEmpty then some output
  else
    match (Wrapper.refine mode refinements (.accept output)).settled with
    | .ok payload => payload.output?
    | .error _ => none

theorem refined_nil (mode : ParseMode) : refined mode [] = some := rfl

theorem accepted_of_settled {schema : Schema} {payload : Payload}
    (settles : (runForm scope (run scope limit) schema.form input).settled = .ok payload) :
    (run scope (limit + 1)).accepted schema input =
      payload.output?.bind (refined scope.mode schema.refinements) := by
  unfold refined
  by_cases unrefined : schema.refinements.isEmpty
  · have alone : (run scope (limit + 1)).alone schema input = .ok payload := by
      rw [alone_of_unrefined (List.isEmpty_iff.mp unrefined), settles]
    simp [Validator.accepted_of_alone alone, unrefined]
  · have alone : (run scope (limit + 1)).alone schema input =
        (Wrapper.refine scope.mode schema.refinements payload).settled := by
      change (runSchema scope (run scope limit) schema input).settled = _
      unfold runSchema
      rw [if_neg unrefined, Traced.settled_andThen_andThen, settles]
      rfl
    cases clean : payload.isClean with
    | true =>
        have brings : payload.output? = some payload.value := if_pos clean
        rw [Payload.eq_accept clean] at alone
        rw [Validator.accepted, alone, brings, Option.bind_some, if_neg unrefined]
        rfl
    | false =>
        rw [Wrapper.refine, if_pos (by simp [clean])] at alone
        rw [Validator.accepted_of_alone alone]
        simp [Payload.output?, clean]

/-- A union whose options settle accepts what the first of them accepts that accepts anything, where
the checks of the union let it through. -/
theorem accepted_union {schema : Schema} {options : List Schema}
    (isUnion : schema.form = .union options)
    (settle : ∀ option ∈ options, ∃ payload, (run scope limit).alone option input = .ok payload) :
    (run scope (limit + 1)).accepted schema input =
      (options.findSome? ((run scope limit).accepted · input)).bind
        (refined scope.mode schema.refinements) := by
  obtain ⟨payload, settles, brings⟩ := Combination.exists_settled_union settle
  rw [← brings, accepted_of_settled]
  rw [isUnion]
  exact settles

theorem accepted_of_nesting {before within after : List Schema} {inner nested flat : Schema}
    (nesting : Schema.IsNesting before within after inner nested flat)
    (settle : ∀ option ∈ before ++ within ++ after,
      ∃ payload, (run scope limit).alone option input = .ok payload) :
    (run scope (limit + 2)).accepted nested input =
      (run scope (limit + 2)).accepted flat input := by
  have settleDeeper : ∀ option ∈ before ++ within ++ after,
      ∃ payload, (run scope (limit + 1)).alone option input = .ok payload := fun option member =>
    (settle option member).imp fun _ => alone_of_deeper (Nat.le_succ limit)
  have settleWithin : ∀ option ∈ within,
      ∃ payload, (run scope limit).alone option input = .ok payload := fun option member =>
    settle option (by simp [member])
  obtain ⟨answer, innerSettles⟩ :
      ∃ payload, (run scope (limit + 1)).alone inner input = .ok payload := by
    obtain ⟨payload, settles, -⟩ := Combination.exists_settled_union settleWithin
    refine ⟨payload, ?_⟩
    rw [alone_of_unrefined nesting.plain, nesting.innerForm]
    exact settles
  -- The inner union is run one level above its options, and brings there what it would below.
  have ofInner : (run scope (limit + 1)).accepted inner input =
      within.findSome? ((run scope (limit + 1)).accepted · input) := by
    have raised := accepted_union nesting.innerForm
      fun option (member : option ∈ within) => settleDeeper option (by simp [member])
    rw [← accepted_of_deeper (Nat.le_succ (limit + 1)) innerSettles, raised, nesting.plain,
      refined_nil, Option.bind_fun_some]
  have settleNested : ∀ option ∈ before ++ inner :: after,
      ∃ payload, (run scope (limit + 1)).alone option input = .ok payload := by
    intro option member
    rcases List.mem_append.mp member with early | late
    · exact settleDeeper option (by simp [early])
    · rcases List.mem_cons.mp late with rfl | later
      · exact ⟨answer, innerSettles⟩
      · exact settleDeeper option (by simp [later])
  rw [accepted_union nesting.nestedForm settleNested, accepted_union nesting.flatForm settleDeeper,
    nesting.refinements, List.findSome?_append, List.findSome?_append, List.findSome?_append,
    List.findSome?_cons, ofInner, Option.or_assoc]
  cases within.findSome? ((run scope (limit + 1)).accepted · input) <;> rfl

end Validation

namespace Lowering

theorem forM_append (options further : List Schema) (action : Schema → Lowering PUnit) :
    (options ++ further).forM action = (options.forM action >>= fun _ => further.forM action) := by
  simp only [List.forM_eq_forM, List.forM_append]

/-- A nested tree is lowered as the flat one is: the options have the unions as further ancestors,
and hold none of them. -/
theorem Resembles.run_nesting {before within after : List Schema} {inner nested flat : Schema}
    {ancestors : List Ancestor} (nesting : Schema.IsNesting before within after inner nested flat)
    (nestedTree : nested.IsTreeBelow ancestors) (flatTree : flat.IsTreeBelow ancestors)
    {budget more : Nat} (enough : nested.height ≤ budget) (enoughFlat : flat.height ≤ more)
    (scope : LoweringScope) :
    Resembles (Schema.UnionsAbove inner nested flat ancestors) ancestors ancestors
      (Lowering.run budget scope nested) (Lowering.run more scope flat) := by
  have inNested {part : Schema} (member : part ∈ before ++ inner :: after) :
      part ∈ nested.form.lowered := by rwa [nesting.nestedForm]
  have inFlat {part : Schema} (member : part ∈ before ++ (within ++ after)) :
      part ∈ flat.form.lowered := by rwa [nesting.flatForm, List.append_assoc]
  have innerIsHigh := inner.height_pos
  have innerIsLower := Schema.height_lt_of_mem_lowered (inNested (by simp : inner ∈ _))
  have flatIsHigh := flat.height_pos
  obtain ⟨budget, rfl⟩ : ∃ less, budget = less + 2 := ⟨budget - 2, by omega⟩
  obtain ⟨more, rfl⟩ : ∃ less, more = less + 1 := ⟨more - 1, by omega⟩
  refine enterHere nestedTree (enterThere flatTree ?_)
  rw [nesting.nestedForm, nesting.flatForm, List.append_assoc]
  change Resembles _ _ _ ((before ++ inner :: after).forM (Lowering.run (budget + 1) scope))
    ((before ++ (within ++ after)).forM (Lowering.run more scope))
  rw [forM_append, forM_append before, forM_append within]
  refine bind (forM fun part member => ?early) fun _ => bind ?inner fun _ =>
    forM fun part member => ?late
  case early =>
    exact run_part (.of_ends .outer) nestedTree flatTree (inNested (by simp [member]))
      (inFlat (by simp [member])) enough enoughFlat scope
  case late =>
    exact run_part (.of_ends .outer) nestedTree flatTree (inNested (by simp [member]))
      (inFlat (by simp [member])) enough enoughFlat scope
  case inner =>
    have innerTree := nestedTree.lowered (inNested (by simp : inner ∈ _))
    refine enterHere innerTree ?_
    rw [nesting.innerForm]
    refine forM fun part member => run_part (.of_ends .inner) innerTree flatTree ?_
      (inFlat (by simp [member])) (by omega) enoughFlat scope
    rwa [nesting.innerForm]

end Lowering

namespace Schema

/-- Nested unions flatten. A value on which all options settle is accepted by the nested union when
it is by the flat one, with the same output, whether awaiting is allowed or not; the limit on the
depth has to leave room for the unions. And where the unions are trees, without lazy schemas, they
are lowered to the same type, the same openness and the same default, with the same properties kept
for later, or end in the same fault; that properties lie in one union or in two shows in nothing but
their ancestors. -/
theorem nested_unions_flatten {before within after : List Schema} {inner nested flat : Schema}
    (nesting : IsNesting before within after inner nested flat) :
    (∀ (scope : ParseScope) (limit depth : Nat) (input : Value), limit + 2 ≤ depth →
      (∀ option ∈ before ++ within ++ after,
        ∃ payload, (Validation.run scope limit).alone option input = .ok payload) →
      (Validation.run scope depth).accepted nested input =
        (Validation.run scope depth).accepted flat input) ∧
    ∀ (scope : LoweringScope) (ancestors : List Ancestor),
      nested.IsTreeBelow ancestors → flat.IsTreeBelow ancestors →
        (nested.lowered scope ancestors).events = (flat.lowered scope ancestors).events ∧
          MatchingOutcomes (UnionsAbove inner nested flat ancestors)
            (nested.lowered scope ancestors).outcome (flat.lowered scope ancestors).outcome := by
  constructor
  · intro scope limit depth input deep settle
    obtain ⟨deeper, rfl⟩ : ∃ deeper, depth = limit + deeper + 2 := ⟨depth - limit - 2, by omega⟩
    exact Validation.accepted_of_nesting nesting fun option member =>
      (settle option member).imp fun _ => Validation.alone_of_deeper (Nat.le_add_right limit deeper)
  · intro scope ancestors nestedTree flatTree
    refine matching_lowered (.run_nesting nesting nestedTree flatTree ?_ ?_ scope)
    · unfold Environment.budget
      omega
    · unfold Environment.budget
      omega

def choice (options : List Schema) : Schema := .anonymous (.union options)

theorem isTree_choice {options : List Schema} (trees : ∀ option ∈ options, option.IsTree) :
    (choice options).IsTree :=
  isTree_of_anonymous rfl (by simp [choice, anonymous]) trees

theorem isTree_leaf {form : Form Schema} (eager : ∀ target, form ≠ .lazily target)
    (isLeaf : form.parts = []) : (anonymous form).IsTree :=
  isTree_of_anonymous rfl eager (by simp [anonymous, isLeaf])

def title : Schema := .anonymous (.default (.anonymous (.text freeText)) (.text "untitled"))

theorem isTree_title : title.IsTree :=
  isTree_of_anonymous rfl (by simp [title, anonymous])
    (List.forall_mem_singleton.mpr (isTree_leaf (by simp) rfl))

theorem isTree_holding_name : (Validation.holding ["name"]).IsTree :=
  isTree_of_anonymous rfl (by simp [Validation.holding, anonymous])
    (List.forall_mem_singleton.mpr (isTree_leaf (by simp) rfl))

def heading : Schema := choice [title, Validation.holding ["name"]]

theorem isTree_heading : heading.IsTree :=
  isTree_choice (by simpa using ⟨isTree_title, isTree_holding_name⟩)

def entry : Schema :=
  choice [.anonymous (.number anyNumber), title, Validation.holding ["name"], .anonymous .null]

/-- What each option of an entry adds, it adds to what the options before it do. -/
theorem outcome_lowered_entry :
    (entry.lowered ⟨⟨[], none⟩, []⟩ []).outcome =
      .ok ⟨[.number, .string, .object, .null], false, .text "untitled",
        [⟨["name"], .anonymous .any, [none, none]⟩]⟩ := by
  let place : LoweringPlace := ⟨[], [], true⟩
  let found (type : FieldType) : Collected := { Collected.nothing with type }
  have start : LoweringState.ofField [] = place.holding .nothing := rfl
  have ends : Lowering.enter ⟨⟨[], none⟩, []⟩ entry (place.holding .nothing) =
      (.ok (), place.holding
        ⟨[.number, .string, .object, .null], [⟨["name"], .anonymous .any, [none, none]⟩],
          .text "untitled", false, []⟩) := by
    refine (Lowering.enter_union_eq_ok_iff (by simp [Environment.IsIdentified]) rfl _ _).mpr
      ⟨rfl, [found [.number], { found [.string] with default := .text "untitled" },
        { found [.object] with children := [⟨["name"], .anonymous .any, [none, none]⟩] },
        found [.null]], ?_, rfl⟩
    exact .cons rfl (.cons rfl (.cons rfl (.cons rfl .nil)))
  rw [Schema.lowered, start, ends]
  rfl

/-- One choice among four schemas, and the same with the middle two in a choice of their own. -/
theorem nested_unions_flatten_entry :
    let nested := choice [.anonymous (.number anyNumber), heading, .anonymous .null]
    (Validation.run ⟨⟨[], none⟩, .asynchronous⟩ 4).accepted nested (.text "x") = some (.text "x") ∧
      MatchingOutcomes (UnionsAbove heading nested entry [])
        (nested.lowered ⟨⟨[], none⟩, []⟩ []).outcome
        (.ok ⟨[.number, .string, .object, .null], false, .text "untitled",
          [⟨["name"], .anonymous .any, [none, none]⟩]⟩) := by
  intro nested
  have nesting : IsNesting [.anonymous (.number anyNumber)] [title, Validation.holding ["name"]]
      [.anonymous .null] heading nested entry := ⟨rfl, rfl, rfl, rfl, rfl⟩
  have ofNumber : (anonymous (.number anyNumber)).IsTree := isTree_leaf (by simp) rfl
  have ofNull : (anonymous .null).IsTree := isTree_leaf (by simp) rfl
  have nestedTree : nested.IsTree :=
    isTree_choice (by simpa using ⟨ofNumber, isTree_heading, ofNull⟩)
  have flatTree : entry.IsTree :=
    isTree_choice (by simpa using ⟨ofNumber, isTree_title, isTree_holding_name, ofNull⟩)
  obtain ⟨accepted, lowered⟩ := nested_unions_flatten nesting
  constructor
  · rw [accepted ⟨⟨[], none⟩, .asynchronous⟩ 2 4 (.text "x") (by decide)]
    · rfl
    · simp only [List.nil_append, List.cons_append, List.forall_mem_cons]
      exact ⟨⟨_, rfl⟩, ⟨_, rfl⟩, ⟨_, rfl⟩, ⟨_, rfl⟩, by simp⟩
  · rw [← outcome_lowered_entry]
    exact (lowered ⟨⟨[], none⟩, []⟩ [] nestedTree.belowNone flatTree.belowNone).2

end Schema
end TypedTables
