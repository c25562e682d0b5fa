import TypedTables.Proofs.Effect.Spending
import TypedTables.Proofs.Validation.Awaitables
import TypedTables.Proofs.Validation.Recoloured
import TypedTables.Proofs.Validation.Shown

/-!
# What validating with awaiting settles to

A validation with awaiting runs the same parts as an evaluation, some of them awaited together, and
settles to what the evaluation brings when no function is deferred. This holds as long as awaitable
values come from deferred functions only: neither the input holds one, nor what absence, a fallback
or a function brings in its place.
-/

namespace TypedTables

/-- Given a value without awaitables, the function answers with nothing to be awaited. -/
def UserFunction.AnswersAtOnce (function : UserFunction Value) : Prop :=
  ∀ argument answer, argument.HoldsNoAwaitable → function.compute argument = .ok answer →
    answer.isAwaitable = false

/-- Given a value without awaitables, the function brings none. -/
def UserFunction.BringsNoAwaitable (function : UserFunction Value) : Prop :=
  ∀ argument answer, argument.HoldsNoAwaitable → function.compute argument = .ok answer →
    answer.HoldsNoAwaitable

theorem UserFunction.BringsNoAwaitable.answersAtOnce {function : UserFunction Value}
    (brings : function.BringsNoAwaitable) : function.AnswersAtOnce :=
  fun argument answer holds computes => (brings argument answer holds computes).isAwaitable

theorem UserFunction.bringsNoAwaitable_onValues (function : NamedFunction) :
    (onValues function).BringsNoAwaitable :=
  fun _ _ holds computes => Operation.holdsNoAwaitable_apply holds computes

def Form.BringsNoAwaitable : Form Schema → Prop
  | .default _ value | .prefault _ value =>
      ∀ answer, (Wrapper.supplied value).outcome = .ok answer → answer.HoldsNoAwaitable
  | .fallback _ replacement =>
      ∀ (issues : List Issue) answer,
        (∀ issue ∈ issues, issue.ShowsOnly Value.HoldsNoAwaitable fun _ => True) →
        (Wrapper.replaced replacement issues).outcome = .ok answer → answer.HoldsNoAwaitable
  | .transform mapped => mapped.BringsNoAwaitable
  | .custom check _ => ∀ checked ∈ check, checked.AnswersAtOnce
  | _ => True

structure Schema.BringsNoAwaitable (schema : Schema) : Prop where
  form : schema.form.BringsNoAwaitable
  refinements : ∀ refinement ∈ schema.refinements, refinement.check.AnswersAtOnce

theorem Value.isInherited_holdsNoAwaitable : Value.IsInherited Value.HoldsNoAwaitable where
  simple {value} noParts plain := by
    cases value with
    | awaitable => cases plain
    | record | member => cases noParts
    | list | tuple | set | frozenSet =>
        cases noParts
        trivial
    | mapping entries | frozenMapping entries =>
        cases entries with
        | nil => trivial
        | cons entry rest => cases noParts
    | _ => trivial
  items := HoldsNoAwaitable.items
  members := HoldsNoAwaitable.members
  entries := HoldsNoAwaitable.entries
  identifier holds := holds
  awaited holds brings := by
    rw [awaited_of_not_awaitable holds.isAwaitable] at brings
    cases brings
    exact holds

/-! ## Parts -/

/-- A validator that settles, on schemas of a kind and values without awaitables, to what an
evaluator brings, and to values without awaitables. -/
def Validator.SettlesTo (validate : Validator) (evaluate : Evaluator) (kind : Schema → Prop) :
    Prop :=
  ∀ schema, kind schema → ∀ input payload, input.HoldsNoAwaitable →
    (validate schema input).settled = .ok payload →
      evaluate schema input = .ok payload ∧ payload.value.HoldsNoAwaitable

section Settles

variable {validate : Validator} {evaluate : Evaluator} {kind : Schema → Prop}

theorem parts_of_settlesTo (settles : validate.SettlesTo evaluate kind) {jobs : List Job}
    (kinds : ∀ job ∈ jobs, kind job.schema) (holds : ∀ job ∈ jobs, job.Shows Value.HoldsNoAwaitable)
    {done : List (Entry Payload)} (alone : Evaluation.parts validate.alone jobs = .ok done) :
    Evaluation.parts evaluate jobs = .ok done ∧ ∀ entry ∈ done, entry.HoldsNoAwaitable := by
  induction jobs generalizing done with
  | nil =>
      cases alone
      exact ⟨rfl, by simp⟩
  | cons job rest ih =>
      obtain ⟨payload, others, comes, later, rfl⟩ :=
        (Evaluation.parts_cons_eq_ok_iff _ _ _).mp alone
      obtain ⟨evaluated, holdsPayload⟩ := settles job.schema (kinds job (by simp)) job.input
        payload (holds job (by simp)).2 comes
      obtain ⟨tail, holdsTail⟩ := ih (fun next member => kinds next (by simp [member]))
        (fun next member => holds next (by simp [member])) later
      refine ⟨(Evaluation.parts_cons_eq_ok_iff _ _ _).mpr
        ⟨payload, others, evaluated, tail, rfl⟩, ?_⟩
      intro entry member
      rcases List.mem_cons.mp member with rfl | isOther
      · exact ⟨(holds job (by simp)).1, holdsPayload⟩
      · exact holdsTail entry isOther

/-- Parts that are run and joined settle to what assembling makes of the evaluated parts. -/
theorem settled_fanOut_join (settles : validate.SettlesTo evaluate kind) {jobs : List Job}
    (kinds : ∀ job ∈ jobs, kind job.schema) (holds : ∀ job ∈ jobs, job.Shows Value.HoldsNoAwaitable)
    {assemble : List (Entry Payload) → Except Fault Payload} {payload : Payload}
    (comes : ((fanOut validate jobs).andThen fun results =>
      joinEntries results assemble).settled = .ok payload) :
    ∃ done, Evaluation.parts evaluate jobs = .ok done ∧
      (∀ entry ∈ done, entry.HoldsNoAwaitable) ∧ assemble done = .ok payload := by
  obtain ⟨done, alone, assembled⟩ :=
    (settled_fanOut_joinEntries_eq_ok_iff jobs assemble payload).mp comes
  obtain ⟨evaluated, holdsDone⟩ := parts_of_settlesTo settles kinds holds alone
  exact ⟨done, evaluated, holdsDone, assembled⟩

/-! ## Containers -/

theorem settled_object (settles : validate.SettlesTo evaluate kind)
    {shape : List (String × Schema)} {catchall : Option Schema}
    (kinds : ∀ part ∈ shape.map Prod.snd ++ catchall.toList, kind part) {input : Value}
    {payload : Payload} (holds : input.HoldsNoAwaitable)
    (comes : (Container.object validate shape catchall input).settled = .ok payload) :
    Evaluation.object evaluate shape catchall input = .ok payload ∧
      payload.value.HoldsNoAwaitable := by
  rw [settled_object_eq_ok_iff] at comes
  unfold Evaluation.object at comes ⊢
  cases found : input.entries? with
  | none =>
      rw [found] at comes
      cases comes
      exact ⟨rfl, holds⟩
  | some entries =>
      have holdsEntries := holds.entries found
      simp only [found] at comes ⊢
      obtain ⟨done, alone, assembled⟩ := (except_bind_eq_ok_iff _ _ _).mp comes
      obtain ⟨evaluated, holdsDone⟩ := parts_of_settlesTo settles
        (fun job member => kinds _ (Container.schema_of_mem_objectJobs member))
        (shows_objectJobs Value.isInherited_holdsNoAwaitable shape (.ofCatchall catchall)
          holdsEntries) alone
      rw [evaluated]
      refine ⟨assembled, ?_⟩
      cases extraKeys : Container.ExtraKeys.ofCatchall catchall with
      | dropped | validated schema =>
          rw [extraKeys] at assembled
          cases assembled
          exact Container.holdsNoAwaitable_assembleObject _ _ holdsDone
      | refused =>
          rw [extraKeys] at assembled
          obtain ⟨refused, -, rfl⟩ := (except_map_eq_ok_iff _ _ _).mp assembled
          exact Container.holdsNoAwaitable_assembleObject _ _ holdsDone
      | kept =>
          rw [extraKeys] at assembled
          cases assembled
          refine Container.holdsNoAwaitable_assembleObject _ _ ?_
          intro entry member
          rcases List.mem_append.mp member with ofPart | ofExtra
          · exact holdsDone entry ofPart
          · obtain ⟨extra, present, rfl⟩ := List.mem_map.mp ofExtra
            exact holdsEntries extra (List.mem_filter.mp present).1

theorem settled_list (settles : validate.SettlesTo evaluate kind) {schemaAt : Nat → Schema}
    {items : List Value} (issues : List Issue)
    (kinds : ∀ job ∈ Container.indexedJobs schemaAt items, kind job.schema)
    (holds : ∀ item ∈ items, item.HoldsNoAwaitable) {payload : Payload}
    (comes : ((fanOut validate (Container.indexedJobs schemaAt items)).andThen fun results =>
      joinEntries results fun done => .ok (Container.assembleList issues done)).settled =
        .ok payload) :
    (Evaluation.parts evaluate (Container.indexedJobs schemaAt items)).map
        (Container.assembleList issues) = .ok payload ∧
      payload.value.HoldsNoAwaitable := by
  obtain ⟨done, evaluated, holdsDone, assembled⟩ :=
    settled_fanOut_join settles kinds
      (shows_indexedJobs Value.isInherited_holdsNoAwaitable holds) comes
  rw [evaluated]
  cases assembled
  exact ⟨rfl, Container.holdsNoAwaitable_assembleList issues holdsDone⟩

theorem settled_array (settles : validate.SettlesTo evaluate kind) {element : Schema}
    (kinds : kind element) {least most : Option Value} {input : Value} {payload : Payload}
    (holds : input.HoldsNoAwaitable)
    (comes : (Container.array validate element least most input).settled = .ok payload) :
    Evaluation.array evaluate element least most input = .ok payload ∧
      payload.value.HoldsNoAwaitable := by
  unfold Container.array at comes
  unfold Evaluation.array
  cases found : input.items? with
  | none =>
      rw [found] at comes
      cases comes
      exact ⟨rfl, holds⟩
  | some items =>
      simp only [found, Traced.settled_andThen _ (fun sizes => (fanOut validate _).andThen _),
        Traced.outcome_ofExcept] at comes ⊢
      obtain ⟨sizes, bounded, joined⟩ := (except_bind_eq_ok_iff _ _ _).mp comes
      rw [bounded]
      apply settled_list settles sizes _ (holds.items found) joined
      intro job member
      obtain ⟨index, item, -, rfl⟩ := Container.mem_indexedJobs member
      exact kinds

theorem settled_tuple (settles : validate.SettlesTo evaluate kind) {items : List Schema}
    {rest : Option Schema} (kinds : ∀ part ∈ items ++ rest.toList, kind part) {input : Value}
    {payload : Payload} (holds : input.HoldsNoAwaitable)
    (comes : (Container.tuple validate items rest input).settled = .ok payload) :
    Evaluation.tuple evaluate items rest input = .ok payload ∧
      payload.value.HoldsNoAwaitable := by
  unfold Container.tuple at comes
  unfold Evaluation.tuple
  cases found : input.items? with
  | none =>
      rw [found] at comes
      cases comes
      exact ⟨rfl, holds⟩
  | some values =>
      simp only [found] at comes ⊢
      by_cases short : values.length < Container.requiredCount items
      · simp only [short, if_true] at comes ⊢
        cases comes
        exact ⟨rfl, holds⟩
      · by_cases fits : (rest.isNone && decide (items.length < values.length)) = true
        · simp only [short, if_false, fits, if_true] at comes ⊢
          cases comes
          exact ⟨rfl, holds⟩
        · simp only [short, if_false, fits] at comes ⊢
          apply settled_list settles [] _ (holds.items found) comes
          exact fun job member => kinds _ (Container.schema_of_mem_indexedJobs fits member)

theorem settled_set (settles : validate.SettlesTo evaluate kind) {element : Schema}
    (kinds : kind element) {least most : Option Value} {input : Value} {payload : Payload}
    (holds : input.HoldsNoAwaitable)
    (comes : (Container.set validate element least most input).settled = .ok payload) :
    Evaluation.set evaluate element least most input = .ok payload ∧
      payload.value.HoldsNoAwaitable := by
  unfold Container.set at comes
  unfold Evaluation.set
  cases found : input.members? with
  | none =>
      rw [found] at comes
      cases comes
      exact ⟨rfl, holds⟩
  | some members =>
      simp only [found, Traced.settled_andThen _ (fun sizes => (fanOut validate _).andThen _),
        Traced.outcome_ofExcept] at comes ⊢
      obtain ⟨sizes, bounded, joined⟩ := (except_bind_eq_ok_iff _ _ _).mp comes
      have ofMember (job : Job)
          (present : job ∈ members.map fun member => (⟨.null, true, element, member⟩ : Job)) :
          kind job.schema ∧ job.Shows Value.HoldsNoAwaitable := by
        obtain ⟨member, within, rfl⟩ := List.mem_map.mp present
        exact ⟨kinds, trivial, holds.members found member within⟩
      obtain ⟨done, evaluated, holdsDone, assembled⟩ := settled_fanOut_join settles
        (fun job member => (ofMember job member).1) (fun job member => (ofMember job member).2)
        joined
      simp only [bounded, Except.bind, evaluated]
      exact ⟨assembled, Container.holdsNoAwaitable_assembleSet holdsDone assembled⟩

theorem settled_keyed (settles : validate.SettlesTo evaluate kind) {label : String}
    {key value : Schema} (kindKey : kind key) (kindValue : kind value) {input : Value}
    {payload : Payload} (holds : input.HoldsNoAwaitable)
    (comes : (Container.keyed validate label key value input).settled = .ok payload) :
    Evaluation.keyed evaluate label key value input = .ok payload ∧
      payload.value.HoldsNoAwaitable := by
  unfold Container.keyed at comes
  unfold Evaluation.keyed
  cases found : input.entries? with
  | none =>
      rw [found] at comes
      cases comes
      exact ⟨rfl, holds⟩
  | some entries =>
      have ofEntry (job : Job) (member : job ∈ Container.keyedJobs key value entries) :
          kind job.schema ∧ job.Shows Value.HoldsNoAwaitable := by
        obtain ⟨entry, present, rfl | rfl⟩ := Container.mem_keyedJobs member
        · exact ⟨kindKey, (holds.entries found entry present).1,
            (holds.entries found entry present).1⟩
        · exact ⟨kindValue, holds.entries found entry present⟩
      simp only [found] at comes ⊢
      obtain ⟨done, evaluated, holdsDone, assembled⟩ := settled_fanOut_join settles
        (fun job member => (ofEntry job member).1) (fun job member => (ofEntry job member).2) comes
      rw [evaluated]
      refine ⟨assembled, Container.holdsNoAwaitable_assembleKeyed holdsDone ?_ assembled⟩
      exact Value.holdsNoAwaitable_mapping (by simp)

theorem settled_intersection (settles : validate.SettlesTo evaluate kind) {left right : Schema}
    (kindLeft : kind left) (kindRight : kind right) {input : Value} {payload : Payload}
    (holds : input.HoldsNoAwaitable)
    (comes : (Combination.intersection validate left right input).settled = .ok payload) :
    Evaluation.intersection evaluate left right input = .ok payload ∧
      payload.value.HoldsNoAwaitable := by
  unfold Combination.intersection at comes
  unfold Evaluation.intersection
  have ofSide (job : Job) (member : job ∈
      ([⟨.text "left", true, left, input⟩, ⟨.text "right", true, right, input⟩] : List Job)) :
      kind job.schema ∧ job.Shows Value.HoldsNoAwaitable := by
    simp only [List.mem_cons, List.not_mem_nil, or_false] at member
    rcases member with rfl | rfl
    · exact ⟨kindLeft, trivial, holds⟩
    · exact ⟨kindRight, trivial, holds⟩
  obtain ⟨done, evaluated, holdsDone, assembled⟩ := settled_fanOut_join settles
    (fun job member => (ofSide job member).1) (fun job member => (ofSide job member).2) comes
  rw [evaluated]
  cases assembled
  exact ⟨rfl, Combination.holdsNoAwaitable_assembleIntersection holds holdsDone⟩

/-! ## Unions -/

theorem firstAccepting_of_settlesTo (settles : validate.SettlesTo evaluate kind) {input : Value}
    (holds : input.HoldsNoAwaitable) {options : List Schema}
    (kinds : ∀ option ∈ options, kind option) {refusals : List (List Issue)} {payload : Payload}
    (alone : Evaluation.firstAccepting validate.alone input options refusals = .ok payload) :
    Evaluation.firstAccepting evaluate input options refusals = .ok payload ∧
      payload.value.HoldsNoAwaitable := by
  induction options generalizing refusals with
  | nil =>
      cases alone
      exact ⟨rfl, holds⟩
  | cons option rest ih =>
      rw [Evaluation.firstAccepting] at alone ⊢
      obtain ⟨result, comes, remaining⟩ := (except_bind_eq_ok_iff _ _ _).mp alone
      obtain ⟨evaluated, holdsResult⟩ :=
        settles option (kinds option (by simp)) input result holds comes
      rw [evaluated]
      cases clean : result.isClean with
      | true =>
          rw [if_pos clean] at remaining
          cases remaining
          exact ⟨by simp [Except.bind, clean], holdsResult⟩
      | false =>
          rw [if_neg (by simp [clean])] at remaining
          have further := ih (fun next member => kinds next (by simp [member])) remaining
          simpa [Except.bind, clean] using further

theorem settled_union (settles : validate.SettlesTo evaluate kind) {input : Value}
    (holds : input.HoldsNoAwaitable) {options : List Schema}
    (kinds : ∀ option ∈ options, kind option) {payload : Payload}
    (comes : (Combination.union validate options input).settled = .ok payload) :
    Evaluation.firstAccepting evaluate input options [] = .ok payload ∧
      payload.value.HoldsNoAwaitable :=
  firstAccepting_of_settlesTo settles holds kinds
    (Combination.firstAccepting_of_settled .nil comes)

/-! ## Wrappers and functions -/

theorem settled_reference (settles : validate.SettlesTo evaluate kind)
    {tables : Option (List String)} {identifier : Schema} (kinds : kind identifier) {input : Value}
    {payload : Payload} (holds : input.HoldsNoAwaitable)
    (comes : (Wrapper.reference validate tables identifier input).settled = .ok payload) :
    Evaluation.reference evaluate tables identifier input = .ok payload ∧
      payload.value.HoldsNoAwaitable := by
  unfold Wrapper.reference at comes
  unfold Evaluation.reference
  cases input with
  | record table value =>
      simp only at comes ⊢
      cases foreign : tables.filter fun permitted => !permitted.contains table with
      | some permitted =>
          rw [foreign] at comes
          cases comes
          exact ⟨rfl, holds⟩
      | none =>
          rw [foreign] at comes
          obtain ⟨result, settled, equal⟩ := settled_afterwards comes
          cases equal
          obtain ⟨evaluated, holdsResult⟩ := settles identifier kinds value result holds settled
          rw [evaluated]
          refine ⟨rfl, ?_⟩
          unfold Wrapper.rebuildRecord
          split
          · exact holdsResult
          · exact holds
  | _ =>
      cases comes
      exact ⟨rfl, holds⟩

end Settles

theorem settled_call_withAnswer {function : UserFunction Value} (answers : function.AnswersAtOnce)
    {argument : Value} (holds : argument.HoldsNoAwaitable) (next : Value → Payload) :
    ((function.call argument).andThen fun answer =>
      Wrapper.withAnswer .asynchronous answer next).settled =
        (function.compute argument).map next := by
  rw [Traced.settled_andThen, outcome_call]
  cases function.deferred with
  | true =>
      simp [Except.bind, Wrapper.withAnswer, ParseMode.allow, Value.isAwaitable, Value.awaited,
        Except.map]
  | false =>
      cases computed : function.compute argument with
      | error cause => rfl
      | ok result =>
          have plain := answers argument result holds computed
          simp [Except.bind, Except.map, Wrapper.withAnswer, ParseMode.allow, plain]

theorem answer_atOnce {function : UserFunction Value} (answers : function.AnswersAtOnce)
    {argument : Value} (holds : argument.HoldsNoAwaitable) :
    Evaluation.answer function.atOnce argument = function.compute argument := by
  simp only [Evaluation.answer, UserFunction.atOnce, Bool.false_eq_true, if_false]
  cases computed : function.compute argument with
  | error cause => rfl
  | ok result =>
      have plain := answers argument result holds computed
      simp [Except.bind, plain]

/-! ## Refinements -/

theorem awaited_of_call {function : UserFunction Value} (answers : function.AnswersAtOnce)
    {argument answer : Value} (holds : argument.HoldsNoAwaitable)
    (calls : (function.call argument).outcome = .ok answer) :
    answer.awaited.outcome = function.compute argument := by
  rw [outcome_call] at calls
  split at calls
  · cases calls
    rfl
  · have plain := answers argument answer holds calls
    rw [Value.awaited_of_not_awaitable plain, calls]
    rfl

theorem judge_atOnce (refinements : List Refinement) (value : Value) (verdicts : List Value) :
    Wrapper.judge (refinements.map Refinement.atOnce) value verdicts =
      Wrapper.judge refinements value verdicts := by
  simp only [Wrapper.judge, List.zip_map_left, List.filterMap_map]
  rfl

theorem settled_refine {refinements : List Refinement} {payload final : Payload}
    (atOnce : ∀ refinement ∈ refinements, refinement.check.AnswersAtOnce)
    (holds : payload.value.HoldsNoAwaitable)
    (comes : (Wrapper.refine .asynchronous refinements payload).settled = .ok final) :
    Evaluation.refine (refinements.map Refinement.atOnce) payload = .ok final ∧
      final.value.HoldsNoAwaitable := by
  unfold Wrapper.refine at comes
  unfold Evaluation.refine
  by_cases skipped : (!payload.isClean || payload.value.isUndefined) = true
  · rw [if_pos skipped] at comes ⊢
    cases comes
    exact ⟨rfl, holds⟩
  · rw [if_neg skipped] at comes ⊢
    rw [Traced.settled_andThen] at comes
    obtain ⟨answers, called, remaining⟩ := (except_bind_eq_ok_iff _ _ _).mp comes
    rw [Wrapper.callChecks, Traced.outcome_forEach, mapM_eq_ok_iff] at called
    have turnsOut : answers.map (fun answer => answer.awaited.outcome) =
        refinements.map fun refinement => refinement.check.compute payload.value := by
      clear remaining comes
      induction refinements generalizing answers with
      | nil => cases answers <;> simp at called ⊢
      | cons refinement rest ih =>
          cases answers with
          | nil => simp at called
          | cons answer others =>
              simp only [List.map_cons, List.cons.injEq] at called ⊢
              refine ⟨?_, ih (fun later member => atOnce later (by simp [member])) _ called.2⟩
              have call := called.1
              rw [Traced.outcome_andThen] at call
              obtain ⟨result, answered, allowed⟩ := (except_bind_eq_ok_iff _ _ _).mp call
              cases allowed
              exact awaited_of_call (atOnce refinement (by simp)) holds answered
    obtain ⟨verdicts, computed, rfl⟩ : ∃ verdicts : List Value,
        (refinements.map fun refinement => refinement.check.compute payload.value) =
            verdicts.map .ok ∧
          Wrapper.judge refinements payload.value verdicts = final := by
      cases awaits : answers.any Value.isAwaitable with
      | true =>
          simp only [awaits, if_true, Traced.settled_result, Progress.settled_pending,
            Deferred.outcome_map, Traced.outcome_result] at remaining
          obtain ⟨verdicts, waited, judged⟩ := (except_bind_eq_ok_iff _ _ _).mp remaining
          rw [Deferred.outcome_all_eq_ok_iff, Value.outcomes_awaitedTogether] at waited
          exact ⟨verdicts, turnsOut.symm.trans waited, Except.ok.inj judged⟩
      | false =>
          rw [awaits] at remaining
          refine ⟨answers, turnsOut.symm.trans ?_, Except.ok.inj remaining⟩
          apply List.map_congr_left
          intro answer member
          have plain : answer.isAwaitable = false := by
            simpa using List.any_eq_false.mp awaits answer member
          rw [Value.awaited_of_not_awaitable plain]
          rfl
    have answered : ((refinements.map Refinement.atOnce).mapM fun refinement =>
        Evaluation.answer refinement.check payload.value) = .ok verdicts := by
      rw [mapM_eq_ok_iff, List.map_map, ← computed]
      exact List.map_congr_left fun refinement member =>
        answer_atOnce (atOnce refinement member) holds
    rw [answered]
    exact ⟨congrArg Except.ok (judge_atOnce refinements payload.value verdicts), holds⟩

/-! ## Forms and schemas -/

theorem settled_leaf {validate : Validator} {evaluate : Evaluator} {environment : Environment}
    {form : Form Schema} {input : Value} {outcome : Except Fault Payload} {payload : Payload}
    (leaf : Leaf.payload? form input = some outcome) (holds : input.HoldsNoAwaitable)
    (comes : (Validation.runForm ⟨environment, .asynchronous⟩ validate form input).settled =
      .ok payload) :
    Evaluation.form environment evaluate form.callsAtOnce input = .ok payload ∧
      payload.value.HoldsNoAwaitable := by
  have own : form.callsAtOnce = form := by
    cases form <;> first | rfl | cases leaf
  rw [Validation.runForm_leaf leaf] at comes
  cases outcome with
  | error cause => cases comes
  | ok result =>
      cases comes
      rw [own]
      exact ⟨Evaluation.form_leaf leaf, Leaf.holdsNoAwaitable_payload holds leaf⟩

theorem settled_runForm {validate : Validator} {evaluate : Evaluator} {kind : Schema → Prop}
    (settles : validate.SettlesTo evaluate kind) {environment : Environment} {form : Form Schema}
    (kinds : ∀ part ∈ form.parts, kind part)
    (resolved : ∀ target schema, form = .lazily target → environment.resolve target = .ok schema →
      kind schema)
    (brings : form.BringsNoAwaitable)
    (shows : ∀ part ∈ form.parts,
      validate.ShowsOnly Value.HoldsNoAwaitable (fun _ => True) part)
    {input : Value} {payload : Payload} (holds : input.HoldsNoAwaitable)
    (comes : (Validation.runForm ⟨environment, .asynchronous⟩ validate form input).settled =
      .ok payload) :
    Evaluation.form environment evaluate form.callsAtOnce input = .ok payload ∧
      payload.value.HoldsNoAwaitable := by
  cases form with
  | object shape catchall => exact settled_object settles kinds holds comes
  | table described =>
      exact settled_object settles (by simpa [Form.parts] using kinds) holds comes
  | array element least most =>
      exact settled_array settles (kinds element (by simp [Form.parts])) holds comes
  | set element least most =>
      exact settled_set settles (kinds element (by simp [Form.parts])) holds comes
  | tuple items rest => exact settled_tuple settles kinds holds comes
  | record key value | map key value =>
      exact settled_keyed settles (kinds key (by simp [Form.parts]))
        (kinds value (by simp [Form.parts])) holds comes
  | union options =>
      exact settled_union settles holds kinds comes
  | intersection left right =>
      exact settled_intersection settles (kinds left (by simp [Form.parts]))
        (kinds right (by simp [Form.parts])) holds comes
  | reference tables identifier =>
      exact settled_reference settles (kinds identifier (by simp [Form.parts])) holds comes
  | optional inner =>
      have inside := settles inner (kinds inner (by simp [Form.parts])) input payload holds
      simp only [Validation.runForm] at comes
      simp only [Form.callsAtOnce, Evaluation.form]
      split
      · rename_i absent
        rw [if_pos absent] at comes
        cases comes
        exact ⟨rfl, holds⟩
      · rename_i present
        rw [if_neg present] at comes
        exact inside comes
  | nullable inner =>
      have inside := settles inner (kinds inner (by simp [Form.parts])) input payload holds
      simp only [Validation.runForm] at comes
      simp only [Form.callsAtOnce, Evaluation.form]
      split
      · rename_i null
        rw [if_pos null] at comes
        cases comes
        exact ⟨rfl, holds⟩
      · rename_i other
        rw [if_neg other] at comes
        exact inside comes
  | nonoptional inner =>
      obtain ⟨result, settled, equal⟩ := settled_afterwards comes
      obtain ⟨evaluated, holdsResult⟩ :=
        settles inner (kinds inner (by simp [Form.parts])) input result holds settled
      cases equal
      refine ⟨by simp [Form.callsAtOnce, Evaluation.form, evaluated, Except.map], ?_⟩
      unfold Wrapper.demandPresent
      split <;> exact holdsResult
  | default inner value =>
      have inside := settles inner (kinds inner (by simp [Form.parts])) input payload holds
      simp only [Validation.runForm] at comes
      simp only [Form.callsAtOnce, Evaluation.form]
      split
      · rename_i absent
        rw [if_pos absent, Traced.settled_andThen] at comes
        obtain ⟨answer, supplied, equal⟩ := (except_bind_eq_ok_iff _ _ _).mp comes
        cases equal
        rw [supplied]
        exact ⟨rfl, brings answer supplied⟩
      · rename_i present
        rw [if_neg present] at comes
        exact inside comes
  | prefault inner value =>
      have inside := settles inner (kinds inner (by simp [Form.parts]))
      simp only [Validation.runForm] at comes
      simp only [Form.callsAtOnce, Evaluation.form]
      split
      · rename_i absent
        rw [if_pos absent, Traced.settled_andThen] at comes
        obtain ⟨answer, supplied, settled⟩ := (except_bind_eq_ok_iff _ _ _).mp comes
        rw [supplied]
        exact inside answer payload (brings answer supplied) settled
      · rename_i present
        rw [if_neg present] at comes
        exact inside input payload holds comes
  | fallback inner replacement =>
      obtain ⟨result, settled, recovered⟩ := settled_afterwards comes
      obtain ⟨evaluated, holdsResult⟩ :=
        settles inner (kinds inner (by simp [Form.parts])) input result holds settled
      refine ⟨by simp [Form.callsAtOnce, Evaluation.form, evaluated, Except.bind, recovered], ?_⟩
      unfold Wrapper.recover at recovered
      split at recovered
      · cases recovered
        exact holdsResult
      · rw [Traced.outcome_andThen] at recovered
        obtain ⟨answer, replaced, equal⟩ := (except_bind_eq_ok_iff _ _ _).mp recovered
        cases equal
        have ofInner := shows inner (by simp [Form.parts]) input result holds settled
        exact brings _ answer ofInner.issues replaced
  | readonly inner =>
      obtain ⟨result, settled, equal⟩ := settled_afterwards comes
      obtain ⟨evaluated, holdsResult⟩ :=
        settles inner (kinds inner (by simp [Form.parts])) input result holds settled
      cases equal
      exact ⟨by simp [Form.callsAtOnce, Evaluation.form, evaluated, Except.map],
        Wrapper.holdsNoAwaitable_freezeClean holdsResult⟩
  | pipe source target =>
      simp only [Validation.runForm] at comes
      rw [Traced.settled_andThen_andThen] at comes
      obtain ⟨result, settled, continued⟩ := (except_bind_eq_ok_iff _ _ _).mp comes
      obtain ⟨evaluated, holdsResult⟩ :=
        settles source (kinds source (by simp [Form.parts])) input result holds settled
      simp only [Form.callsAtOnce, Evaluation.form, evaluated, Except.bind]
      split
      · rename_i clean
        rw [if_pos clean] at continued
        exact settles target (kinds target (by simp [Form.parts])) result.value payload holdsResult
          continued
      · rename_i refused
        rw [if_neg refused] at continued
        cases continued
        exact ⟨rfl, holdsResult⟩
  | transform mapped =>
      have computed := comes
      simp only [Validation.runForm, Wrapper.transform,
        settled_call_withAnswer brings.answersAtOnce holds] at computed
      obtain ⟨result, applied, equal⟩ := (except_map_eq_ok_iff _ _ _).mp computed
      cases equal
      refine ⟨?_, brings input result holds applied⟩
      simp [Form.callsAtOnce, Evaluation.form, answer_atOnce brings.answersAtOnce holds, applied,
        Except.map]
  | custom check message =>
      cases check with
      | none =>
          cases comes
          exact ⟨rfl, holds⟩
      | some checked =>
          have atOnce := brings checked rfl
          have computed := comes
          simp only [Validation.runForm, Wrapper.custom, settled_call_withAnswer atOnce holds]
            at computed
          obtain ⟨verdict, applied, equal⟩ := (except_map_eq_ok_iff _ _ _).mp computed
          subst equal
          constructor
          · simp [Form.callsAtOnce, Evaluation.form, answer_atOnce atOnce holds, applied,
              Except.map]
          · split <;> exact holds
  | promise inner =>
      have plain := holds.isAwaitable
      simp only [Validation.runForm, Wrapper.promise, plain, Bool.false_eq_true, if_false] at comes
      simp only [Form.callsAtOnce, Evaluation.form, plain, Bool.false_eq_true, if_false]
      exact settles inner (kinds inner (by simp [Form.parts])) input payload holds comes
  | lazily target =>
      simp only [Validation.runForm] at comes
      rw [Traced.settled_andThen, Traced.outcome_ofExcept] at comes
      obtain ⟨schema, resolves, settled⟩ := (except_bind_eq_ok_iff _ _ _).mp comes
      simp only [Form.callsAtOnce, Evaluation.form, resolves]
      exact settles schema (resolved target schema rfl resolves) input payload holds settled
  | _ => exact settled_leaf rfl holds comes

/-! ## Whole validations -/

theorem Schema.Everywhere.kinds {environment : Environment} {property : Schema → Prop}
    {schema : Schema} (everywhere : schema.Everywhere environment property) :
    (∀ part ∈ schema.form.parts, part.Everywhere environment property) ∧
      ∀ target resolved, schema.form = .lazily target →
        environment.resolve target = .ok resolved → resolved.Everywhere environment property :=
  ⟨fun _ member => everywhere.part member,
    fun _ _ isLazy resolves => everywhere.resolved isLazy resolves⟩

/-- One schema settles to the evaluation of the recoloured one, and its issues show no awaitable,
when this holds of the schemas that it runs. -/
theorem settled_runSchema {environment : Environment} {limit : Nat} {validate : Validator}
    (settles : validate.SettlesTo (Evaluation.within environment.atOnce limit).atOnce
      fun schema => schema.Everywhere environment Schema.BringsNoAwaitable)
    (shows : ∀ schema : Schema, schema.Everywhere environment Schema.BringsNoAwaitable →
      validate.ShowsOnly Value.HoldsNoAwaitable (fun _ => True) schema)
    {schema : Schema} (brings : schema.Everywhere environment Schema.BringsNoAwaitable)
    {input : Value} {payload : Payload} (holds : input.HoldsNoAwaitable)
    (comes : (Validation.runSchema ⟨environment, .asynchronous⟩ validate schema input).settled =
      .ok payload) :
    (Evaluation.within environment.atOnce (limit + 1)).atOnce schema input = .ok payload ∧
      payload.ShowsOnly Value.HoldsNoAwaitable fun _ => True := by
  obtain ⟨formed, settled, refined⟩ := Validation.exists_formed_of_settled comes
  obtain ⟨evaluated, holdsFormed⟩ := settled_runForm settles brings.kinds.1 brings.kinds.2
    brings.here.form (fun part member => shows part (brings.part member)) holds settled
  obtain ⟨judged, -⟩ := settled_refine brings.here.refinements holdsFormed refined
  constructor
  · change Evaluation.schema environment.atOnce _ schema.atOnce input = _
    rw [Evaluation.schema, Schema.atOnce, Recolouring.form_ofSchema, Recolouring.form_atOnce,
      Recolouring.refinements_ofSchema, evaluated]
    exact judged
  · refine Wrapper.showsOnly_refine ⟨holdsFormed, ?_⟩ refined
    refine Validation.showsOnly_runForm Value.isInherited_holdsNoAwaitable (fun _ => trivial)
      (fun _ _ => trivial) ?_ (fun part member => shows part (brings.part member))
      (fun target resolved isLazy resolves => shows resolved (brings.resolved isLazy resolves))
      holds settled
    intro inner value answer isPrefault supplied
    have ofPrefault := brings.here.form
    rw [isPrefault] at ofPrefault
    exact ofPrefault answer supplied

/-- To any depth, a run with awaiting settles to the evaluation of the recoloured schema. What a
fallback brings depends on the issues it is given, so the induction carries what these show. -/
theorem settled_run (environment : Environment) (limit : Nat) :
    ((Validation.run ⟨environment, .asynchronous⟩ limit).SettlesTo
      (Evaluation.within environment.atOnce limit).atOnce
      fun schema => schema.Everywhere environment Schema.BringsNoAwaitable) ∧
    ∀ schema : Schema, schema.Everywhere environment Schema.BringsNoAwaitable →
      (Validation.run ⟨environment, .asynchronous⟩ limit).ShowsOnly Value.HoldsNoAwaitable
        (fun _ => True) schema := by
  induction limit with
  | zero =>
      constructor
      · intro schema brings input payload holds comes
        cases comes
      · intro schema brings input payload holds comes
        cases comes
  | succ limit ih =>
      obtain ⟨settles, shows⟩ := ih
      constructor
      · intro schema brings input payload holds comes
        obtain ⟨evaluated, ofPayload⟩ := settled_runSchema settles shows brings holds comes
        exact ⟨evaluated, ofPayload.value⟩
      · intro schema brings input payload holds comes
        exact (settled_runSchema settles shows brings holds comes).2

/-- Validating with awaiting reports what the run concludes with. -/
theorem outcome_safeParseAsyncWithin (limit : Nat) (schema : Schema) (environment : Environment)
    (input : Value) :
    (schema.safeParseAsyncWithin limit environment input).outcome =
      (Validation.run ⟨environment, .asynchronous⟩ limit schema input).concluded.bind
        ParseResult.ofPayload := by
  rw [Schema.safeParseAsyncWithin, Traced.outcome_andThen, Traced.concluded]
  cases (Validation.run ⟨environment, .asynchronous⟩ limit schema input).outcome with
  | error cause => rfl
  | ok progress =>
      cases progress with
      | ready payload => rfl
      | pending deferred => exact deferred.once.outcome_map _

/-- Where nothing is awaited twice, that is what the run settles to. -/
theorem outcome_safeParseAsyncWithin_of_settled {limit : Nat} {schema : Schema}
    {environment : Environment} {input : Value} {payload : Payload}
    (settles : (Validation.run ⟨environment, .asynchronous⟩ limit schema input).settled =
      .ok payload)
    (nodup : (Validation.run ⟨environment, .asynchronous⟩ limit schema input).awaits.Nodup) :
    (schema.safeParseAsyncWithin limit environment input).outcome =
      ParseResult.ofPayload payload := by
  rw [outcome_safeParseAsyncWithin, Traced.concluded_of_settled settles nodup]
  rfl

theorem Form.bringsNoAwaitable_ofForm (form : Form Schema) :
    (Recolouring.ofForm form).BringsNoAwaitable ↔ form.BringsNoAwaitable := by
  cases form with
  | custom check message =>
      cases check <;> simp [Recolouring.ofForm, BringsNoAwaitable, UserFunction.atOnce,
        UserFunction.AnswersAtOnce]
  | _ => simp [Recolouring.ofForm, BringsNoAwaitable, UserFunction.atOnce,
      UserFunction.BringsNoAwaitable]

theorem Schema.bringsNoAwaitable_atOnce (schema : Schema) :
    schema.atOnce.BringsNoAwaitable ↔ schema.BringsNoAwaitable := by
  have forms := Form.bringsNoAwaitable_ofForm schema.form
  rw [← Recolouring.form_ofSchema] at forms
  constructor
  · rintro ⟨form, refinements⟩
    rw [atOnce, Recolouring.refinements_ofSchema, List.forall_mem_map] at refinements
    exact ⟨forms.mp form, refinements⟩
  · rintro ⟨form, refinements⟩
    refine ⟨forms.mpr form, ?_⟩
    rw [atOnce, Recolouring.refinements_ofSchema, List.forall_mem_map]
    exact refinements

/-- Awaiting is transparent. Let some of the functions of a schema be deferred that computes at
once everywhere, in the schema itself or behind its lazy schemas. When the awaited validation of
a value without awaitables returns a result, then validating with the schema itself, without
awaiting, returns the same result; what absence and fallbacks bring must hold no awaitable. -/
theorem safeParse_eq_of_safeParseAsync_deferred {limit : Nat} {variant schema : Schema}
    {variantEnvironment environment : Environment} {input : Value} {result : ParseResult}
    (recoloured : variant.atOnce = schema.atOnce)
    (recolouredEnvironment : variantEnvironment.atOnce = environment.atOnce)
    (computes : schema.Everywhere environment Schema.ComputesAtOnce)
    (brings : schema.Everywhere environment Schema.BringsNoAwaitable)
    (holds : input.HoldsNoAwaitable)
    (returns : (variant.safeParseAsyncWithin limit variantEnvironment input).outcome = .ok result) :
    (schema.safeParseWithin limit environment input).outcome = .ok result := by
  have bringsVariant : variant.Everywhere variantEnvironment Schema.BringsNoAwaitable := by
    intro target reaches
    have reached := Recolouring.reaches_atOnce reaches
    change variant.atOnce.Reaches _ _ at reached
    rw [recoloured, recolouredEnvironment] at reached
    obtain ⟨original, reachesOriginal, same⟩ := Recolouring.exists_of_reaches_atOnce reached
    have known := original.bringsNoAwaitable_atOnce.mpr (brings original reachesOriginal)
    rw [Schema.atOnce, same] at known
    exact target.bringsNoAwaitable_atOnce.mp known
  rw [outcome_safeParseAsyncWithin] at returns
  obtain ⟨payload, concluded, reported⟩ := (except_bind_eq_ok_iff _ _ _).mp returns
  obtain ⟨evaluated, -⟩ := (settled_run variantEnvironment limit).1 variant bringsVariant input
    payload holds (Traced.settled_of_concluded concluded)
  rw [Evaluator.atOnce, recoloured, recolouredEnvironment,
    within_atOnce environment limit schema input computes] at evaluated
  rw [outcome_safeParseWithin, evaluated]
  exact reported

/-- A text whose check is deferred, and the text whose check computes at once. -/
theorem safeParse_text_of_deferred_check :
    let text (deferred : Bool) : Schema :=
      ⟨none, [⟨.onValues ⟨.long, deferred⟩, "too short"⟩], .null, .text Schema.freeText⟩
    ((text false).safeParse ⟨[], none⟩ (.text "abc")).outcome = .ok (.accepted (.text "abc")) := by
  intro text
  have leaf (property : Schema → Prop) (here : property (text false)) :
      (text false).Everywhere ⟨[], none⟩ property :=
    .of_parts here (fun target isLazy => by cases isLazy) fun part member => by cases member
  have computes : (text false).ComputesAtOnce :=
    ⟨List.forall_mem_singleton.mpr rfl, rfl⟩
  have brings : (text false).BringsNoAwaitable :=
    ⟨trivial, List.forall_mem_singleton.mpr
      (UserFunction.bringsNoAwaitable_onValues _).answersAtOnce⟩
  have returns : ((text true).safeParseAsync ⟨[], none⟩ (.text "abc")).outcome =
      .ok (.accepted (.text "abc")) :=
    @outcome_safeParseAsyncWithin_of_settled _ _ _ _ (.accept (.text "abc")) rfl List.nodup_nil
  exact @safeParse_eq_of_safeParseAsync_deferred Schema.depthLimit (text true) (text false)
    ⟨[], none⟩ ⟨[], none⟩ (.text "abc") (.accepted (.text "abc")) rfl rfl (leaf _ computes)
    (leaf _ brings) trivial returns

/-- An awaitable value that stands in for absence is awaited in one validation and a fault in the
other, where no function is deferred at all. -/
theorem not_safeParse_eq_of_safeParseAsync_prefault :
    ¬∀ (limit : Nat) (variant schema : Schema) (variantEnvironment environment : Environment)
      (input : Value) (result : ParseResult),
      variant.atOnce = schema.atOnce → variantEnvironment.atOnce = environment.atOnce →
      schema.Everywhere environment Schema.ComputesAtOnce → input.HoldsNoAwaitable →
      (variant.safeParseAsyncWithin limit variantEnvironment input).outcome = .ok result →
      (schema.safeParseWithin limit environment input).outcome = .ok result := by
  intro transparent
  let inner : Schema := .anonymous (.text Schema.freeText)
  let promise : Schema := .anonymous (.promise inner)
  let schema : Schema := .anonymous (.prefault promise (.awaitable 0 (.ok (.text "x"))))
  have inInner : inner.Everywhere ⟨[], none⟩ Schema.ComputesAtOnce :=
    .of_parts ⟨by simp [inner, Schema.anonymous], rfl⟩ (fun target isLazy => by cases isLazy)
      fun part member => by cases member
  have inPromise : promise.Everywhere ⟨[], none⟩ Schema.ComputesAtOnce :=
    .of_parts ⟨by simp [promise, Schema.anonymous], rfl⟩ (fun target isLazy => by cases isLazy)
      fun part member => by rwa [List.mem_singleton.mp member]
  have computes : schema.Everywhere ⟨[], none⟩ Schema.ComputesAtOnce :=
    .of_parts ⟨by simp [schema, Schema.anonymous], rfl⟩ (fun target isLazy => by cases isLazy)
      fun part member => by rwa [List.mem_singleton.mp member]
  have returns : (schema.safeParseAsync ⟨[], none⟩ .undefined).outcome =
      .ok (.accepted (.text "x")) :=
    @outcome_safeParseAsyncWithin_of_settled _ _ _ _ (.accept (.text "x")) rfl List.nodup_nil
  have same := transparent Schema.depthLimit schema schema ⟨[], none⟩ ⟨[], none⟩ .undefined
    (.accepted (.text "x")) rfl rfl computes trivial returns
  have stops : (schema.safeParseWithin Schema.depthLimit ⟨[], none⟩ .undefined).outcome =
      .error .asynchronous := rfl
  rw [stops] at same
  cases same

end TypedTables
