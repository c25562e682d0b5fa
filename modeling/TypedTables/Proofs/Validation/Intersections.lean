import TypedTables.Proofs.Table.Building
import TypedTables.Proofs.Validation.Deepening
import TypedTables.Proofs.Validation.WellFormedness

/-!
# Intersections in any order and grouping

An intersection accepts what both sides accept, merged, where it can be merged. Merging is a join,
so the order and the grouping of several intersected schemas make no difference to what is accepted,
and none to the outputs as far as equality can tell. A value that is not a number is left out: it is
not equal to itself.
-/

namespace TypedTables

namespace Value

/-- A value that is not equal to itself, and alike to itself only. -/
def IsNotANumber (value : Value) : Prop := sameNotANumber value value = true

theorem equals_of_alike {left right : Value} (number : ¬left.IsNotANumber)
    (same : alike left right = true) : equals left right = true := by
  rw [alike, Bool.or_eq_true] at same
  refine same.resolve_left fun token => number ?_
  rw [eq_of_sameNotANumber token] at token
  exact token

theorem not_isNotANumber_merge {left right merged : Value} (number : ¬left.IsNotANumber)
    (merges : merge left right = some merged) : ¬merged.IsNotANumber := by
  cases same : alike left right with
  | true =>
      rw [merge_of_alike same] at merges
      cases merges
      exact number
  | false =>
      cases left with
      | list =>
          obtain ⟨_, _, -, -, rfl⟩ := (merge_list_iff same _).mp merges
          simp [IsNotANumber, sameNotANumber]
      | mapping | frozenMapping =>
          obtain ⟨_, _, -, -, rfl⟩ := (merge_mapping_iff rfl same _).mp merges
          simp [IsNotANumber, sameNotANumber]
      | _ =>
          rw [merge_eq_none_of_isWhole ⟨rfl, by simp⟩ same] at merges
          cases merges

/-- Well formed, and not a not-a-number. -/
structure IsComparable (value : Value) : Prop where
  wellFormed : value.IsWellFormed
  number : ¬value.IsNotANumber

/-- Both are missing, or both are there and equal. -/
def SameIfAny (first second : Option Value) : Prop :=
  Option.Rel (fun left right => equals left right = true) first second

theorem merge_comm {left right : Value} (leftComparable : left.IsComparable)
    (rightComparable : right.IsComparable) : SameIfAny (merge left right) (merge right left) := by
  cases merges : merge left right with
  | some merged =>
      obtain ⟨swapped, mergesBack, same⟩ :=
        exists_merge_swap leftComparable.wellFormed rightComparable.wellFormed merges
      rw [mergesBack]
      exact .some (equals_of_alike (not_isNotANumber_merge leftComparable.number merges) same)
  | none =>
      cases mergesBack : merge right left with
      | none => exact .none
      | some swapped =>
          obtain ⟨merged, again, -⟩ :=
            exists_merge_swap rightComparable.wellFormed leftComparable.wellFormed mergesBack
          cases merges.symm.trans again

theorem merge_assoc {first second third : Value} (firstComparable : first.IsComparable)
    (secondComparable : second.IsComparable) (thirdComparable : third.IsComparable) :
    SameIfAny ((merge second third).bind (merge first))
      ((merge first second).bind (merge · third)) := by
  cases merges : (merge second third).bind (merge first) with
  | some outer =>
      obtain ⟨inner, mergesInner, mergesOuter⟩ := Option.bind_eq_some_iff.mp merges
      obtain ⟨front, whole, mergesFront, mergesWhole, same⟩ :=
        exists_merge_left firstComparable.wellFormed secondComparable.wellFormed
          thirdComparable.wellFormed mergesInner mergesOuter
      rw [mergesFront, Option.bind_some, mergesWhole]
      exact .some (equals_of_alike (not_isNotANumber_merge firstComparable.number mergesOuter) same)
  | none =>
      cases fromLeft : (merge first second).bind (merge · third) with
      | none => exact .none
      | some whole =>
          obtain ⟨front, mergesFront, mergesWhole⟩ := Option.bind_eq_some_iff.mp fromLeft
          obtain ⟨inner, outer, mergesInner, mergesOuter, -⟩ :=
            exists_merge_right firstComparable.wellFormed secondComparable.wellFormed
              thirdComparable.wellFormed mergesFront mergesWhole
          rw [mergesInner, Option.bind_some, mergesOuter] at merges
          cases merges

/-- Merging as a partial join: a value merges to itself, a merged value is the least that nothing of
either side is missing in, and neither the order nor the grouping makes a difference. -/
structure MergesAsJoin (first second third : Value) : Prop where
  idempotent : merge first first = some first
  joins : ∀ merged, merge first second = some merged → IsJoin first second merged
  comm : SameIfAny (merge first second) (merge second first)
  assoc : SameIfAny ((merge second third).bind (merge first))
    ((merge first second).bind (merge · third))

theorem mergesAsJoin {first second third : Value} (firstComparable : first.IsComparable)
    (secondComparable : second.IsComparable) (thirdComparable : third.IsComparable) :
    MergesAsJoin first second third where
  idempotent := merge_of_alike (alike_self first)
  joins _ := isJoin_merge firstComparable.wellFormed secondComparable.wellFormed
  comm := merge_comm firstComparable secondComparable
  assoc := merge_assoc firstComparable secondComparable thirdComparable

end Value

/-- What a schema accepts a value as, if it accepts it. -/
def Validator.accepted (validate : Validator) (schema : Schema) (input : Value) : Option Value :=
  match validate.alone schema input with
  | .ok payload => if payload.isClean then some payload.value else none
  | .error _ => none

theorem Validator.accepted_eq_some_iff (validate : Validator) (schema : Schema)
    (input output : Value) :
    validate.accepted schema input = some output ↔
      validate.alone schema input = .ok (.accept output) := by
  unfold Validator.accepted
  cases validate.alone schema input with
  | error cause => simp
  | ok payload =>
      rcases payload with ⟨value, issues⟩
      cases issues <;> simp [Payload.isClean, Payload.accept]

namespace Combination

theorem settled_intersection_eq_ok_iff (validate : Validator) (left right : Schema) (input : Value)
    (payload : Payload) :
    (intersection validate left right input).settled = .ok payload ↔
      ∃ leftPayload rightPayload, validate.alone left input = .ok leftPayload ∧
        validate.alone right input = .ok rightPayload ∧
        payload = assembleIntersection input
          [⟨.text "left", true, leftPayload⟩, ⟨.text "right", true, rightPayload⟩] := by
  have joins : (intersection validate left right input).settled = .ok payload ↔ _ :=
    settled_fanOut_joinEntries_eq_ok_iff
      [⟨.text "left", true, left, input⟩, ⟨.text "right", true, right, input⟩]
      (fun done => .ok (assembleIntersection input done)) payload
  refine joins.trans ?_
  constructor
  · rintro ⟨done, evaluated, equal⟩
    obtain ⟨leftPayload, others, ofLeft, later, rfl⟩ :=
      (Evaluation.parts_cons_eq_ok_iff _ _ _).mp evaluated
    obtain ⟨rightPayload, none, ofRight, last, rfl⟩ :=
      (Evaluation.parts_cons_eq_ok_iff _ _ _).mp later
    cases last
    exact ⟨leftPayload, rightPayload, ofLeft, ofRight, (Except.ok.inj equal).symm⟩
  · rintro ⟨leftPayload, rightPayload, ofLeft, ofRight, rfl⟩
    exact ⟨_, (Evaluation.parts_cons_eq_ok_iff _ _ _).mpr ⟨leftPayload, _, ofLeft,
      (Evaluation.parts_cons_eq_ok_iff _ _ _).mpr ⟨rightPayload, [], ofRight, rfl, rfl⟩, rfl⟩, rfl⟩

/-- Two answers are accepted together when neither has issues and their values can be merged. -/
theorem assembleIntersection_eq_accept_iff (input output : Value) (left right : Payload) :
    assembleIntersection input [⟨.text "left", true, left⟩, ⟨.text "right", true, right⟩] =
        .accept output ↔
      left.isClean = true ∧ right.isClean = true ∧
        Value.merge left.value right.value = some output := by
  rcases left with ⟨leftValue, leftIssues⟩
  rcases right with ⟨rightValue, rightIssues⟩
  cases leftIssues with
  | cons issue others => simp [assembleIntersection, Payload.accept, Payload.isClean]
  | nil =>
      cases rightIssues with
      | cons issue others => simp [assembleIntersection, Payload.accept, Payload.isClean]
      | nil =>
          cases merges : Value.merge leftValue rightValue <;>
            simp [assembleIntersection, merges, Payload.accept, Payload.reject, Payload.isClean]

end Combination

/-- A schema that is the intersection of two others, and nothing more. -/
structure Schema.IsIntersection (schema left right : Schema) : Prop where
  form : schema.form = .intersection left right
  unrefined : schema.refinements = []

/-- A step of building makes a schema, whatever identities it draws. -/
def Method.Makes (method : Method) (schema built : Schema) : Prop :=
  ∃ supply remaining, method.apply schema supply = .ok (built, remaining)

theorem Schema.isIntersection_of_makes {left right built : Schema}
    (makes : (Method.and right).Makes left built) : built.IsIntersection left right := by
  obtain ⟨supply, remaining, builds⟩ := makes
  obtain ⟨identity, rfl⟩ := Builder.exists_identity builds
  exact ⟨rfl, rfl⟩

namespace Validation

variable {scope : ParseScope} {limit depth : Nat} {input : Value}

theorem alone_of_unrefined {schema : Schema} (unrefined : schema.refinements = []) :
    (run scope (limit + 1)).alone schema input =
      (runForm scope (run scope limit) schema.form input).settled := by
  change (runSchema scope (run scope limit) schema input).settled = _
  simp [runSchema, unrefined]

theorem accepted_intersection {schema left right : Schema}
    (intersects : schema.IsIntersection left right) :
    (run scope (limit + 1)).accepted schema input =
      ((run scope limit).accepted left input).bind fun leftOutput =>
        ((run scope limit).accepted right input).bind (Value.merge leftOutput) := by
  refine Option.ext fun output => ?_
  rw [Validator.accepted_eq_some_iff, alone_of_unrefined intersects.unrefined, intersects.form]
  simp only [Option.bind_eq_some_iff, Validator.accepted_eq_some_iff]
  change (Combination.intersection (run scope limit) left right input).settled = _ ↔ _
  rw [Combination.settled_intersection_eq_ok_iff]
  constructor
  · rintro ⟨leftPayload, rightPayload, ofLeft, ofRight, equal⟩
    obtain ⟨leftClean, rightClean, merges⟩ :=
      (Combination.assembleIntersection_eq_accept_iff _ _ _ _).mp equal.symm
    rw [Payload.eq_accept leftClean] at ofLeft
    rw [Payload.eq_accept rightClean] at ofRight
    exact ⟨_, ofLeft, _, ofRight, merges⟩
  · rintro ⟨leftOutput, ofLeft, rightOutput, ofRight, merges⟩
    exact ⟨_, _, ofLeft, ofRight, ((Combination.assembleIntersection_eq_accept_iff _ _ _ _).mpr
      ⟨rfl, rfl, merges⟩).symm⟩

theorem accepted_of_deeper (deeper : limit ≤ depth) {schema : Schema} {payload : Payload}
    (settles : (run scope limit).alone schema input = .ok payload) :
    (run scope depth).accepted schema input = (run scope limit).accepted schema input := by
  unfold Validator.accepted
  rw [alone_of_deeper deeper settles, settles]

theorem isWellFormed_of_accepted {schema : Schema} {output : Value}
    (isFormed : schema.IsWellFormed scope.environment) (wellFormed : input.IsWellFormed)
    (accepts : (run scope limit).accepted schema input = some output) : output.IsWellFormed :=
  run_keepsWellFormed scope limit isFormed input (.accept output) wellFormed
    ((Validator.accepted_eq_some_iff _ _ _ _).mp accepts)

/-- The schema settles on the value, and what it accepts it as can be compared. -/
structure SettlesComparably (validate : Validator) (input : Value) (schema : Schema) : Prop where
  settles : ∃ payload, validate.alone schema input = .ok payload
  comparable : ∀ output, validate.accepted schema input = some output → output.IsComparable

variable {first second third forth back inner fromRight fromLeft : Schema}

theorem sameIfAny_of_swapped (firstSettles : SettlesComparably (run scope limit) input first)
    (secondSettles : SettlesComparably (run scope limit) input second)
    (deeper : limit ≤ depth) (isForth : forth.IsIntersection first second)
    (isBack : back.IsIntersection second first) :
    Value.SameIfAny ((run scope (depth + 1)).accepted forth input)
      ((run scope (depth + 1)).accepted back input) := by
  obtain ⟨⟨firstPayload, ofFirst⟩, firstComparable⟩ := firstSettles
  obtain ⟨⟨secondPayload, ofSecond⟩, secondComparable⟩ := secondSettles
  rw [accepted_intersection isForth, accepted_intersection isBack,
    accepted_of_deeper deeper ofFirst, accepted_of_deeper deeper ofSecond]
  cases acceptsFirst : (run scope limit).accepted first input with
  | none => cases (run scope limit).accepted second input <;> exact .none
  | some firstOutput =>
      cases acceptsSecond : (run scope limit).accepted second input with
      | none => exact .none
      | some secondOutput =>
          exact Value.merge_comm (firstComparable _ acceptsFirst) (secondComparable _ acceptsSecond)

theorem sameIfAny_of_regrouped (firstSettles : SettlesComparably (run scope limit) input first)
    (secondSettles : SettlesComparably (run scope limit) input second)
    (thirdSettles : SettlesComparably (run scope limit) input third)
    (deeper : limit ≤ depth) (isInner : inner.IsIntersection second third)
    (isForth : forth.IsIntersection first second)
    (isFromRight : fromRight.IsIntersection first inner)
    (isFromLeft : fromLeft.IsIntersection forth third) :
    Value.SameIfAny ((run scope (depth + 2)).accepted fromRight input)
      ((run scope (depth + 2)).accepted fromLeft input) := by
  obtain ⟨⟨firstPayload, ofFirst⟩, firstComparable⟩ := firstSettles
  obtain ⟨⟨secondPayload, ofSecond⟩, secondComparable⟩ := secondSettles
  obtain ⟨⟨thirdPayload, ofThird⟩, thirdComparable⟩ := thirdSettles
  have deeperStill : limit ≤ depth + 1 := Nat.le_succ_of_le deeper
  rw [accepted_intersection isFromRight, accepted_intersection isFromLeft,
    accepted_intersection isInner, accepted_intersection isForth,
    accepted_of_deeper deeperStill ofFirst, accepted_of_deeper deeper ofFirst,
    accepted_of_deeper deeper ofSecond, accepted_of_deeper deeper ofThird,
    accepted_of_deeper deeperStill ofThird]
  cases acceptsFirst : (run scope limit).accepted first input with
  | none => exact .none
  | some firstOutput =>
      cases acceptsSecond : (run scope limit).accepted second input with
      | none => exact .none
      | some secondOutput =>
          cases acceptsThird : (run scope limit).accepted third input with
          | none =>
              have missing : ((some firstOutput).bind fun output =>
                  (some secondOutput).bind (Value.merge output)).bind (fun _ => none) =
                    (none : Option Value) := by
                cases (some firstOutput).bind _ <;> rfl
              exact missing.symm ▸ .none
          | some thirdOutput =>
              exact Value.merge_assoc (firstComparable _ acceptsFirst)
                (secondComparable _ acceptsSecond) (thirdComparable _ acceptsThird)

/-- Intersection is commutative and associative. Let three well-formed schemas settle on a
well-formed value, none of them to something that is not a number. Then their intersections, once
the limit on the depth leaves room for them, accept the value in one order or grouping when they do
in the other, with equal outputs. The reason lies in the values: merging them is a partial join. -/
theorem intersections_accept_alike (deep : limit + 2 ≤ depth) (wellFormed : input.IsWellFormed)
    (areFormed : ∀ schema ∈ [first, second, third], schema.IsWellFormed scope.environment)
    (settle : ∀ schema ∈ [first, second, third],
      ∃ payload, (run scope limit).alone schema input = .ok payload)
    (numbers : ∀ schema ∈ [first, second, third], ∀ output : Value,
      (run scope limit).accepted schema input = some output → ¬output.IsNotANumber)
    (makesForth : (Method.and second).Makes first forth)
    (makesBack : (Method.and first).Makes second back)
    (makesInner : (Method.and third).Makes second inner)
    (makesFromRight : (Method.and inner).Makes first fromRight)
    (makesFromLeft : (Method.and third).Makes forth fromLeft) :
    Value.SameIfAny ((run scope depth).accepted forth input)
        ((run scope depth).accepted back input) ∧
      Value.SameIfAny ((run scope depth).accepted fromRight input)
        ((run scope depth).accepted fromLeft input) ∧
      ∀ left middle right : Value, left.IsComparable → middle.IsComparable → right.IsComparable →
        Value.MergesAsJoin left middle right := by
  obtain ⟨extra, rfl⟩ : ∃ extra, depth = limit + extra + 2 := ⟨depth - limit - 2, by omega⟩
  have comparably (schema : Schema) (isOne : schema ∈ [first, second, third]) :
      SettlesComparably (run scope limit) input schema :=
    ⟨settle schema isOne, fun output accepts =>
      ⟨isWellFormed_of_accepted (areFormed schema isOne) wellFormed accepts,
        numbers schema isOne output accepts⟩⟩
  simp only [List.forall_mem_cons] at comparably
  obtain ⟨firstSettles, secondSettles, thirdSettles, -⟩ := comparably
  have isForth := Schema.isIntersection_of_makes makesForth
  refine ⟨?_, ?_, fun _ _ _ => Value.mergesAsJoin⟩
  · exact sameIfAny_of_swapped firstSettles secondSettles (by omega) isForth
      (Schema.isIntersection_of_makes makesBack)
  · exact sameIfAny_of_regrouped firstSettles secondSettles thirdSettles (Nat.le_add_right _ _)
      (Schema.isIntersection_of_makes makesInner) isForth
      (Schema.isIntersection_of_makes makesFromRight) (Schema.isIntersection_of_makes makesFromLeft)

/-- An intersection of two schemas, as building it without identities makes it. -/
def intersected (left right : Schema) : Schema := .anonymous (.intersection left right)

theorem makes_intersected (left right : Schema) :
    (Method.and right).Makes left (intersected left right) :=
  ⟨⟨0, false⟩, _, rfl⟩

def holding (names : List String) : Schema :=
  .anonymous (.object (names.map fun name => (name, .anonymous .any)) none)

def boxEntries : List (Value × Value) :=
  [(.text "size", .integer 1), (.text "contents", .list [.null])]

theorem isWellFormed_boxEntries : (Value.mapping boxEntries).IsWellFormed := by
  refine Value.isWellFormed_mapping
    (Value.distinct_texts (show ["size", "contents"].Nodup by decide)) ?_
  simp only [boxEntries, List.forall_mem_cons]
  refine ⟨⟨Value.isWellFormed_text _, ?_⟩, ⟨Value.isWellFormed_text _, ?_⟩, by simp⟩
  · exact Value.isWellFormed_of_no_parts rfl rfl rfl
  · exact Value.isWellFormed_list (List.forall_mem_singleton.mpr
      (Value.isWellFormed_of_no_parts rfl rfl rfl))

theorem isWellFormed_holding {names : List String} (different : names.Nodup)
    (environment : Environment) : (holding names).IsWellFormed environment := by
  refine .of_parts ?_ (fun target isLazy => by cases isLazy) fun part member => ?_
  · change ((names.map fun name => (name, Schema.anonymous .any)).map Prod.fst).Nodup
    simpa [Function.comp_def] using different
  · change part ∈ (names.map fun name => (name, Schema.anonymous .any)).map Prod.snd ++ [] at member
    obtain ⟨-, rfl⟩ : (∃ name, name ∈ names) ∧ Schema.anonymous .any = part := by
      simpa using member
    exact .of_leaf trivial rfl fun target isLazy => by cases isLazy

theorem not_isNotANumber_of_accepts {validate : Validator} {schema : Schema}
    {entries : List (Value × Value)}
    (accepts : validate.alone schema input = .ok (.accept (.mapping entries))) :
    ∀ output, validate.accepted schema input = some output → ¬output.IsNotANumber := by
  intro output again
  cases ((validate.accepted_eq_some_iff schema input output).mp again).symm.trans accepts
  simp [Value.IsNotANumber, Value.sameNotANumber]

/-- Three objects of which each has a field in common with another. -/
theorem intersections_accept_alike_box :
    let size := holding ["size"]
    let contents := holding ["contents"]
    let whole := holding ["size", "contents"]
    let accepted (schema : Schema) : Option Value :=
      (run ⟨⟨[], none⟩, .synchronous⟩ 4).accepted schema (.mapping boxEntries)
    Value.SameIfAny (accepted (intersected size whole)) (accepted (intersected whole size)) ∧
      Value.SameIfAny (accepted (intersected size (intersected whole contents)))
        (accepted (intersected (intersected size whole) contents)) := by
  intro size contents whole accepted
  have ofSize : (run ⟨⟨[], none⟩, .synchronous⟩ 2).alone size (.mapping boxEntries) =
      .ok (.accept (.mapping [(.text "size", .integer 1)])) := by cbv
  have ofWhole : (run ⟨⟨[], none⟩, .synchronous⟩ 2).alone whole (.mapping boxEntries) =
      .ok (.accept (.mapping boxEntries)) := by cbv
  have ofContents : (run ⟨⟨[], none⟩, .synchronous⟩ 2).alone contents (.mapping boxEntries) =
      .ok (.accept (.mapping [(.text "contents", .list [.null])])) := by cbv
  have areFormed : ∀ schema ∈ [size, whole, contents], schema.IsWellFormed ⟨[], none⟩ := by
    simp only [List.forall_mem_cons]
    exact ⟨isWellFormed_holding (by decide) _, isWellFormed_holding (by decide) _,
      isWellFormed_holding (by decide) _, by simp⟩
  have settle : ∀ schema ∈ [size, whole, contents], ∃ payload,
      (run ⟨⟨[], none⟩, .synchronous⟩ 2).alone schema (.mapping boxEntries) = .ok payload := by
    simp only [List.forall_mem_cons]
    exact ⟨⟨_, ofSize⟩, ⟨_, ofWhole⟩, ⟨_, ofContents⟩, by simp⟩
  have numbers : ∀ schema ∈ [size, whole, contents], ∀ output : Value,
      (run ⟨⟨[], none⟩, .synchronous⟩ 2).accepted schema (.mapping boxEntries) = some output →
        ¬output.IsNotANumber := by
    simp only [List.forall_mem_cons]
    exact ⟨not_isNotANumber_of_accepts ofSize, not_isNotANumber_of_accepts ofWhole,
      not_isNotANumber_of_accepts ofContents, by simp⟩
  have both := intersections_accept_alike (show 2 + 2 ≤ 4 by decide) isWellFormed_boxEntries
    areFormed settle numbers
    (makes_intersected size whole) (makes_intersected whole size) (makes_intersected whole contents)
    (makes_intersected size (intersected whole contents))
    (makes_intersected (intersected size whole) contents)
  exact ⟨both.1, both.2.1⟩

end Validation
end TypedTables
