import TypedTables.Proofs.Validation.Rekeying
import TypedTables.Proofs.Validation.Repeating

/-!
# Sizes of sets

The size of a set is held against its bounds before its members are run. What members are accepted
as may be alike, and is then one member of the output. So an output is never larger than the input,
and keeps the upper bound; it keeps the lower bound where its members stay apart.
-/

namespace TypedTables

namespace Leaf

/-- The size is not below the bound. A bound that is no number bounds nothing. -/
def IsAtLeast (size : Nat) (bound : Option Value) : Prop :=
  ∀ limit ∈ bound, ∀ least, limit.magnitude? = some least →
    Magnitude.less (.finite size) least = false

def IsAtMost (size : Nat) (bound : Option Value) : Prop :=
  ∀ limit ∈ bound, ∀ most, limit.magnitude? = some most →
    Magnitude.less most (.finite size) = false

theorem isAtLeast_integer_iff (size : Nat) (least : Int) :
    IsAtLeast size (some (.integer least)) ↔ least ≤ size := by
  simp only [IsAtLeast, Option.mem_def, Option.some.injEq, forall_eq', Value.magnitude?,
    Magnitude.less, decide_eq_false_iff_not, Rat.not_lt]
  exact Rat.intCast_le_intCast

theorem isAtMost_integer_iff (size : Nat) (most : Int) :
    IsAtMost size (some (.integer most)) ↔ (size : Int) ≤ most := by
  simp only [IsAtMost, Option.mem_def, Option.some.injEq, forall_eq', Value.magnitude?,
    Magnitude.less, decide_eq_false_iff_not, Rat.not_lt]
  exact Rat.intCast_le_intCast

theorem IsAtMost.mono {size smaller : Nat} {bound : Option Value} (atMost : IsAtMost size bound)
    (fewer : smaller ≤ size) : IsAtMost smaller bound := by
  intro limit isLimit most sized
  have kept := atMost limit isLimit most sized
  cases most with
  | finite value =>
      simp only [Magnitude.less, decide_eq_false_iff_not, Rat.not_lt] at kept ⊢
      exact Rat.le_trans (Rat.natCast_le_natCast.mpr fewer) kept
  | infinite negative =>
      cases negative with
      | true => cases kept
      | false => rfl

theorem holds_eq_false_of_sizeIssue {comparison : Comparison} {code : IssueCode} {size : Nat}
    {limit : Value} {message : String → String} {input : Value} {bound : Magnitude}
    (none : sizeIssue comparison code size (some limit) message input = .ok [])
    (sized : limit.magnitude? = some bound) :
    comparison.holds (.finite size) bound = false := by
  obtain ⟨broken, compares, remaining⟩ := (except_bind_eq_ok_iff _ _ _).mp none
  have number : (Value.integer (Int.ofNat size)).magnitude? = some (.finite size) := rfl
  simp only [compareNumbers, number, sized] at compares
  cases broken with
  | false => exact Except.ok.inj compares
  | true =>
      obtain ⟨text, -, reported⟩ := (except_map_eq_ok_iff _ _ _).mp remaining
      cases reported

theorem within_of_boundIssues {label unit : String} {size : Nat} {least most : Option Value}
    {input : Value} (none : boundIssues label unit size least most input = .ok []) :
    IsAtLeast size least ∧ IsAtMost size most := by
  obtain ⟨below, ofLeast, remaining⟩ := (except_bind_eq_ok_iff _ _ _).mp none
  obtain ⟨above, ofMost, together⟩ := (except_map_eq_ok_iff _ _ _).mp remaining
  obtain ⟨rfl, rfl⟩ := List.append_eq_nil_iff.mp together
  constructor
  · rintro limit rfl bound sized
    exact holds_eq_false_of_sizeIssue ofLeast sized
  · rintro limit rfl bound sized
    exact holds_eq_false_of_sizeIssue ofMost sized

end Leaf

namespace Container

structure IsSetOf (members values : List Value) : Prop where
  distinct : Value.Distinct members
  within : ∀ member ∈ members, member ∈ values
  covers : ∀ value ∈ values, ∃ member ∈ members, Value.alike value member = true

end Container

namespace Value

theorem prefix_addMember (member : Value) (members : List Value) :
    members <+: addMember member members := by
  unfold addMember
  split
  · exact List.prefix_rfl
  · exact List.prefix_append members [member]

theorem exists_alike_addMember (member : Value) (members : List Value) :
    ∃ kept ∈ addMember member members, alike member kept = true := by
  unfold addMember
  split
  · rename_i present
    exact List.any_eq_true.mp present
  · exact ⟨member, by simp, alike_self member⟩

theorem length_addMember_le (member : Value) (members : List Value) :
    (addMember member members).length ≤ members.length + 1 := by
  unfold addMember
  split <;> simp

end Value

namespace Container

theorem prefix_of_collectMembers {values members collected : List Value}
    (collects : collectMembers values members = .ok collected) : members <+: collected := by
  induction values generalizing members with
  | nil =>
      cases collects
      exact List.prefix_rfl
  | cons added rest ih =>
      rw [collectMembers] at collects
      split at collects
      · cases collects
      · exact (Value.prefix_addMember added members).trans (ih collects)

theorem exists_alike_of_collectMembers {values members collected : List Value}
    (collects : collectMembers values members = .ok collected) :
    ∀ value ∈ values, ∃ member ∈ collected, Value.alike value member = true := by
  induction values generalizing members with
  | nil => exact fun _ member => absurd member List.not_mem_nil
  | cons added rest ih =>
      rw [collectMembers] at collects
      split at collects
      · cases collects
      · obtain ⟨member, isMember, same⟩ := Value.exists_alike_addMember added members
        exact List.forall_mem_cons.mpr
          ⟨⟨member, (prefix_of_collectMembers collects).subset isMember, same⟩, ih collects⟩

theorem length_le_of_collectMembers {values members collected : List Value}
    (collects : collectMembers values members = .ok collected) :
    collected.length ≤ members.length + values.length := by
  induction values generalizing members with
  | nil =>
      cases collects
      exact Nat.le_refl _
  | cons added rest ih =>
      rw [collectMembers] at collects
      split at collects
      · cases collects
      · have later := ih collects
        have here := Value.length_addMember_le added members
        rw [List.length_cons]
        omega

theorem hashable_of_collectMembers {values members collected : List Value}
    (collects : collectMembers values members = .ok collected) :
    ∀ value ∈ values, value.unhashableClass? = none := by
  induction values generalizing members with
  | nil => exact fun _ member => absurd member List.not_mem_nil
  | cons added rest ih =>
      rw [collectMembers] at collects
      split at collects
      · cases collects
      · rename_i hashable
        exact List.forall_mem_cons.mpr ⟨hashable, ih collects⟩

theorem isSetOf_of_collectMembers {values collected : List Value}
    (collects : collectMembers values [] = .ok collected) : IsSetOf collected values where
  distinct := (distinct_of_collectMembers collects .nil
    fun _ member => absurd member List.not_mem_nil).1
  within _ isMember := (mem_of_collectMembers collects isMember).resolve_right List.not_mem_nil
  covers := exists_alike_of_collectMembers collects

theorem eq_of_collectMembers_of_distinct {values collected : List Value}
    (collects : collectMembers values [] = .ok collected) (distinct : Value.Distinct values) :
    collected = values := by
  have again := collectMembers_of_distinct (List.nil_append values ▸ distinct)
    (hashable_of_collectMembers collects)
  exact Except.ok.inj (collects.symm.trans again)

def memberOutputs (validate : Validator) (element : Schema) (members : List Value) : List Value :=
  members.filterMap (validate.accepted element)

end Container

namespace Validation

open Container

variable {scope : ParseScope} {limit : Nat} {input output : Value}

theorem settled_set_eq_ok_iff {validate : Validator} (element : Schema) (least most : Option Value)
    (input : Value) (payload : Payload) :
    (Container.set validate element least most input).settled = .ok payload ↔
      Evaluation.set validate.alone element least most input = .ok payload := by
  unfold Container.set Evaluation.set
  cases input.members? with
  | none => exact Iff.rfl
  | some members =>
      simp only [Traced.settled_andThen _ (fun sizes => (fanOut validate _).andThen _),
        Traced.outcome_ofExcept, except_bind_eq_ok_iff, settled_fanOut_joinEntries_eq_ok_iff]

/-- What a set accepts: a set whose size is within the bounds and whose members are all accepted.
The output has the members that these are accepted as, each of those that are alike once. It is not
larger than the input, so it is within the upper bound. Where the members stay apart it is as large
as the input, and within the lower bound as well. -/
theorem set_within_bounds {schema element : Schema} {least most : Option Value}
    (isSet : schema.form = .set element least most)
    (accepts : (run scope (limit + 1)).accepted schema input = some output) :
    ∃ members outputs, input.members? = some members ∧ output = .set outputs ∧
      (∀ member ∈ members, ((run scope limit).accepted element member).isSome = true) ∧
      IsSetOf outputs (memberOutputs (run scope limit) element members) ∧
      Leaf.IsAtLeast members.length least ∧ Leaf.IsAtMost members.length most ∧
      outputs.length ≤ members.length ∧ Leaf.IsAtMost outputs.length most ∧
      (Value.Distinct (memberOutputs (run scope limit) element members) →
        outputs.length = members.length ∧ Leaf.IsAtLeast outputs.length least) := by
  have settles := settled_form_of_accepted accepts
  rw [isSet] at settles
  obtain ⟨members, outputs, isMembers, bounded, each, collects, rfl⟩ :=
    Evaluation.collected_of_set ((settled_set_eq_ok_iff element least most input _).mp settles)
  obtain ⟨atLeast, atMost⟩ := Leaf.within_of_boundIssues bounded
  have accepted (member : Value) (present : member ∈ members) :
      (run scope limit).accepted element member =
        some (Evaluation.valueOf (run scope limit).alone (Evaluation.memberJob element member)) :=
    (Validator.accepted_eq_some_iff _ _ _ _).mpr (each member present)
  have brought : memberOutputs (run scope limit) element members = members.map fun member =>
      Evaluation.valueOf (run scope limit).alone (Evaluation.memberJob element member) := by
    rw [memberOutputs, List.filterMap_congr accepted, List.filterMap_eq_map']
  rw [← brought] at collects
  have sameLength : (memberOutputs (run scope limit) element members).length = members.length := by
    rw [brought, List.length_map]
  have fewer : outputs.length ≤ members.length := by
    simpa [sameLength] using length_le_of_collectMembers collects
  refine ⟨members, outputs, isMembers, rfl, ?_, isSetOf_of_collectMembers collects, atLeast, atMost,
    fewer, atMost.mono fewer, fun distinct => ?_⟩
  · intro member present
    rw [accepted member present]
    rfl
  · have same : outputs.length = members.length := by
      rw [eq_of_collectMembers_of_distinct collects distinct, sameLength]
    exact ⟨same, same ▸ atLeast⟩

/-- Two texts or more, or what is written as one, and not more than two. -/
def twoTexts : Schema := .anonymous (.set coercedText (some (.integer 2)) (some (.integer 2)))

theorem accepted_twoTexts {second : String} {members : List Value}
    (collects : collectMembers [.text "null", .text second] [] = .ok members) :
    (run ⟨⟨[], none⟩, .synchronous⟩ 2).accepted twoTexts (.set [.null, .text second]) =
      some (.set members) := by
  refine (Validator.accepted_eq_some_iff _ _ _ _).mpr ((alone_of_unrefined rfl).trans ?_)
  have isMembers : (Value.set [.null, .text second]).members? = some [.null, .text second] := rfl
  refine (settled_set_eq_ok_iff _ _ _ _ _).mpr
    (Evaluation.set_of_collected isMembers rfl ?_ collects)
  simp only [List.forall_mem_cons]
  exact ⟨rfl, rfl, by simp⟩

/-- Two members that stay apart are two members of the output. -/
theorem set_within_bounds_twoTexts :
    ∃ outputs, Value.set [.text "null", .text "2"] = .set outputs ∧
      2 ≤ (outputs.length : Int) ∧ (outputs.length : Int) ≤ 2 := by
  have brought : memberOutputs (run ⟨⟨[], none⟩, .synchronous⟩ 1) coercedText
      [.null, .text "2"] = [.text "null", .text "2"] := by cbv
  have collects : collectMembers [.text "null", .text "2"] [] = .ok [.text "null", .text "2"] := by
    cbv
  obtain ⟨members, outputs, isMembers, same, -, -, -, -, -, atMost, apart⟩ :=
    set_within_bounds rfl (accepted_twoTexts collects)
  cases isMembers
  rw [brought] at apart
  have distinct : Value.Distinct [.text "null", .text "2"] :=
    List.pairwise_pair.mpr (Bool.eq_false_iff.mpr fun alike =>
      absurd ((Value.alike_text_iff _ _).mp alike) (by simp))
  exact ⟨outputs, same, (Leaf.isAtLeast_integer_iff _ _).mp (apart distinct).2,
    (Leaf.isAtMost_integer_iff _ _).mp atMost⟩

/-- Where members become alike, the output can be smaller than the lower bound. -/
theorem not_set_within_bounds :
    ¬∀ (scope : ParseScope) (limit : Nat) (element : Schema) (least : Int) (most : Option Value)
        (input output : Value),
      (run scope (limit + 1)).accepted (.anonymous (.set element (some (.integer least)) most))
          input = some output →
      ∃ outputs, output = .set outputs ∧ least ≤ outputs.length := by
  intro bounded
  have collects : collectMembers [.text "null", .text "null"] [] = .ok [.text "null"] := by cbv
  obtain ⟨outputs, same, enough⟩ := bounded _ _ _ _ _ _ _ (accepted_twoTexts collects)
  cases same
  exact absurd enough (by decide)

end Validation
end TypedTables
