import TypedTables.Proofs.Validation.Evaluation

/-!
# Validating with and without awaiting

The two ways to validate share every step but one: where an answer is awaitable, validating
without awaiting ends in a fault of its own. So a validation without awaiting either ends in that
fault or is, event by event, the validation with awaiting, in which nothing was then awaited.
-/

namespace TypedTables

/-- The strict computation ends in the fault of an awaitable answer, or is the other one. -/
def Traced.StopsOrEquals {α : Type} (strict lenient : Traced α) : Prop :=
  strict.outcome = .error .asynchronous ∨ strict = lenient

namespace Traced.StopsOrEquals

variable {α β : Type}

theorem refl (computation : Traced α) : computation.StopsOrEquals computation := Or.inr rfl

/-- One computation after another keeps the relation, when what comes after does so for every
result that the first one brings. -/
theorem andThen {strict lenient : Traced α} {strictNext lenientNext : α → Traced β}
    (first : strict.StopsOrEquals lenient)
    (next : ∀ value, strict.outcome = .ok value →
      (strictNext value).StopsOrEquals (lenientNext value)) :
    (strict.andThen strictNext).StopsOrEquals (lenient.andThen lenientNext) := by
  rcases first with stops | rfl
  · left
    rw [Traced.outcome_andThen, stops]
    rfl
  · rcases strict with ⟨events, outcome⟩
    cases outcome with
    | error cause => exact refl _
    | ok value =>
        rcases next value rfl with stops | same
        · left
          rw [Traced.outcome_andThen]
          exact stops
        · right
          rw [Traced.andThen_ok, Traced.andThen_ok, same]

theorem forEach (items : List α) {strictAction lenientAction : α → Traced β}
    (each : ∀ item, (strictAction item).StopsOrEquals (lenientAction item)) :
    (Traced.forEach items strictAction).StopsOrEquals (Traced.forEach items lenientAction) := by
  induction items with
  | nil => exact refl _
  | cons item rest ih =>
      exact andThen (each item) fun first _ => andThen ih fun others _ => refl _

end Traced.StopsOrEquals

open Traced (StopsOrEquals)

theorem allow_stopsOrEquals (answer : Value) :
    (ParseMode.synchronous.allow answer).StopsOrEquals (ParseMode.asynchronous.allow answer) := by
  cases awaitable : answer.isAwaitable with
  | true =>
      left
      simp [ParseMode.allow, awaitable]
  | false =>
      right
      simp [ParseMode.allow, awaitable]

theorem withAnswer_stopsOrEquals (answer : Value) (next : Value → Payload) :
    (Wrapper.withAnswer .synchronous answer next).StopsOrEquals
      (Wrapper.withAnswer .asynchronous answer next) :=
  (allow_stopsOrEquals answer).andThen fun _ _ => .refl _

theorem refine_stopsOrEquals (refinements : List Refinement) (payload : Payload) :
    (Wrapper.refine .synchronous refinements payload).StopsOrEquals
      (Wrapper.refine .asynchronous refinements payload) := by
  unfold Wrapper.refine
  by_cases skipped : (!payload.isClean || payload.value.isUndefined) = true
  · rw [if_pos skipped, if_pos skipped]
    exact .refl _
  · rw [if_neg skipped, if_neg skipped]
    apply StopsOrEquals.andThen
    · apply StopsOrEquals.forEach
      intro refinement
      apply (StopsOrEquals.refl (refinement.check.call payload.value)).andThen
      intro answer _
      exact (allow_stopsOrEquals answer).andThen fun _ _ => .refl _
    · exact fun answers _ => .refl _

section Parts

variable {strict lenient : Validator} {evaluate : Evaluator}

/-- A validator that brings its results at once, and stops or equals another one. -/
structure Validator.Restricts (strict lenient : Validator) (evaluate : Evaluator) : Prop where
  computes : strict.Computes evaluate
  stopsOrEquals : ∀ schema input, (strict schema input).StopsOrEquals (lenient schema input)

theorem Validator.Restricts.isReady (restricts : strict.Restricts lenient evaluate)
    {schema : Schema} {input : Value} {progress : Progress Payload}
    (brings : (strict schema input).outcome = .ok progress) :
    ∃ payload, progress = .ready payload := by
  rw [restricts.computes schema input, except_map_eq_ok_iff] at brings
  obtain ⟨payload, -, same⟩ := brings
  exact ⟨payload, same.symm⟩

theorem fanOut_stopsOrEquals (restricts : strict.Restricts lenient evaluate) (jobs : List Job) :
    (fanOut strict jobs).StopsOrEquals (fanOut lenient jobs) :=
  .forEach jobs fun job =>
    (restricts.stopsOrEquals job.schema job.input).andThen fun _ _ => .refl _

theorem object_stopsOrEquals (restricts : strict.Restricts lenient evaluate)
    (shape : List (String × Schema)) (catchall : Option Schema) (input : Value) :
    (Container.object strict shape catchall input).StopsOrEquals
      (Container.object lenient shape catchall input) := by
  unfold Container.object
  cases input.entries? with
  | none => exact .refl _
  | some entries => exact (fanOut_stopsOrEquals restricts _).andThen fun _ _ => .refl _

theorem array_stopsOrEquals (restricts : strict.Restricts lenient evaluate) (element : Schema)
    (least most : Option Value) (input : Value) :
    (Container.array strict element least most input).StopsOrEquals
      (Container.array lenient element least most input) := by
  unfold Container.array
  cases input.items? with
  | none => exact .refl _
  | some items =>
      apply (StopsOrEquals.refl _).andThen
      intro sizes _
      exact (fanOut_stopsOrEquals restricts _).andThen fun _ _ => .refl _

theorem tuple_stopsOrEquals (restricts : strict.Restricts lenient evaluate) (items : List Schema)
    (rest : Option Schema) (input : Value) :
    (Container.tuple strict items rest input).StopsOrEquals
      (Container.tuple lenient items rest input) := by
  unfold Container.tuple
  cases input.items? with
  | none => exact .refl _
  | some values =>
      by_cases short : values.length < Container.requiredCount items
      · simp only [short, if_true]
        exact .refl _
      · by_cases long : (rest.isNone && decide (items.length < values.length)) = true
        · simp only [short, if_false, long, if_true]
          exact .refl _
        · simp only [short, if_false, long]
          exact (fanOut_stopsOrEquals restricts _).andThen fun _ _ => .refl _

theorem set_stopsOrEquals (restricts : strict.Restricts lenient evaluate) (element : Schema)
    (least most : Option Value) (input : Value) :
    (Container.set strict element least most input).StopsOrEquals
      (Container.set lenient element least most input) := by
  unfold Container.set
  cases input.members? with
  | none => exact .refl _
  | some members =>
      apply (StopsOrEquals.refl _).andThen
      intro sizes _
      exact (fanOut_stopsOrEquals restricts _).andThen fun _ _ => .refl _

theorem keyed_stopsOrEquals (restricts : strict.Restricts lenient evaluate) (label : String)
    (key value : Schema) (input : Value) :
    (Container.keyed strict label key value input).StopsOrEquals
      (Container.keyed lenient label key value input) := by
  unfold Container.keyed
  cases input.entries? with
  | none => exact .refl _
  | some entries => exact (fanOut_stopsOrEquals restricts _).andThen fun _ _ => .refl _

theorem tryOptions_stopsOrEquals (restricts : strict.Restricts lenient evaluate) (input : Value)
    (options : List Schema) (index : Nat) (answers : List (Entry (Progress Payload))) :
    (Combination.tryOptions strict input options index answers).StopsOrEquals
      (Combination.tryOptions lenient input options index answers) := by
  induction options generalizing index answers with
  | nil => exact .refl _
  | cons option rest ih =>
      apply (restricts.stopsOrEquals option input).andThen
      intro answer brings
      obtain ⟨payload, rfl⟩ := restricts.isReady brings
      by_cases chosen :
          (payload.isClean && !answers.any fun earlier => earlier.result.isPending) = true
      · simp only [chosen, if_true]
        exact .refl _
      · simp only [chosen]
        exact ih _ _

theorem afterwards_stopsOrEquals {first other : Traced (Progress Payload)}
    (related : first.StopsOrEquals other) (next : Payload → Traced Payload) :
    (Wrapper.afterwards first next).StopsOrEquals (Wrapper.afterwards other next) :=
  related.andThen fun _ _ => .refl _

theorem reference_stopsOrEquals (restricts : strict.Restricts lenient evaluate)
    (tables : Option (List String)) (identifier : Schema) (input : Value) :
    (Wrapper.reference strict tables identifier input).StopsOrEquals
      (Wrapper.reference lenient tables identifier input) := by
  unfold Wrapper.reference
  cases input with
  | record table value =>
      simp only
      cases tables.filter fun permitted => !permitted.contains table with
      | some permitted => exact .refl _
      | none => exact afterwards_stopsOrEquals (restricts.stopsOrEquals identifier value) _
  | _ => exact .refl _

/-- One form: a case for each way in which parts are run or functions are called. -/
theorem runForm_stopsOrEquals (restricts : strict.Restricts lenient evaluate)
    (environment : Environment) (form : Form Schema) (input : Value) :
    (Validation.runForm ⟨environment, .synchronous⟩ strict form input).StopsOrEquals
      (Validation.runForm ⟨environment, .asynchronous⟩ lenient form input) := by
  have part := restricts.stopsOrEquals
  cases form with
  | object shape catchall => exact object_stopsOrEquals restricts shape catchall input
  | table table => exact object_stopsOrEquals restricts table.shape (some table.catchall) input
  | array element least most => exact array_stopsOrEquals restricts element least most input
  | set element least most => exact set_stopsOrEquals restricts element least most input
  | tuple items rest => exact tuple_stopsOrEquals restricts items rest input
  | record key value => exact keyed_stopsOrEquals restricts "record" key value input
  | map key value => exact keyed_stopsOrEquals restricts "map" key value input
  | union options => exact tryOptions_stopsOrEquals restricts input options 0 []
  | intersection left right =>
      exact (fanOut_stopsOrEquals restricts _).andThen fun _ _ => .refl _
  | optional inner =>
      simp only [Validation.runForm]
      split
      · exact .refl _
      · exact part inner input
  | nullable inner =>
      simp only [Validation.runForm]
      split
      · exact .refl _
      · exact part inner input
  | nonoptional inner => exact afterwards_stopsOrEquals (part inner input) _
  | default inner value =>
      simp only [Validation.runForm]
      split
      · exact .refl _
      · exact part inner input
  | prefault inner value =>
      simp only [Validation.runForm]
      split
      · exact (StopsOrEquals.refl _).andThen fun answer _ => part inner answer
      · exact part inner input
  | fallback inner value => exact afterwards_stopsOrEquals (part inner input) _
  | readonly inner => exact afterwards_stopsOrEquals (part inner input) _
  | pipe source target =>
      apply (part source input).andThen
      intro progress brings
      obtain ⟨payload, rfl⟩ := restricts.isReady brings
      simp only [Progress.andThen]
      split
      · exact part target payload.value
      · exact .refl _
  | transform function =>
      exact (StopsOrEquals.refl _).andThen fun answer _ => withAnswer_stopsOrEquals answer _
  | custom check message =>
      cases check with
      | none => exact .refl _
      | some function =>
          exact (StopsOrEquals.refl _).andThen fun answer _ => withAnswer_stopsOrEquals answer _
  | promise inner =>
      simp only [Validation.runForm, Wrapper.promise]
      cases awaitable : input.isAwaitable with
      | true =>
          left
          simp [ParseMode.allow, awaitable, Except.bind]
      | false => exact part inner input
  | lazily target => exact (StopsOrEquals.refl _).andThen fun resolved _ => part resolved input
  | reference tables identifier =>
      exact reference_stopsOrEquals restricts tables identifier input
  | _ => exact .refl _

end Parts

/-- To any depth, a run without awaiting stops at an awaitable answer or is the run with
awaiting. -/
theorem run_restricts (environment : Environment) (limit : Nat) :
    (Validation.run ⟨environment, .synchronous⟩ limit).Restricts
      (Validation.run ⟨environment, .asynchronous⟩ limit)
      (Evaluation.within environment limit) := by
  induction limit with
  | zero => exact ⟨run_computes environment 0, fun _ _ => .refl _⟩
  | succ limit ih =>
      refine ⟨run_computes environment (limit + 1), ?_⟩
      intro schema input
      have formed := runForm_stopsOrEquals ih environment schema.form input
      change (Validation.runSchema _ _ schema input).StopsOrEquals
        (Validation.runSchema _ _ schema input)
      unfold Validation.runSchema
      by_cases plain : schema.refinements.isEmpty = true
      · simp only [plain, if_true]
        exact formed
      · simp only [plain]
        apply formed.andThen
        intro progress brings
        rw [outcome_runForm ih.computes, except_map_eq_ok_iff] at brings
        obtain ⟨payload, -, rfl⟩ := brings
        exact refine_stopsOrEquals schema.refinements payload

/-- Validating without awaiting ends in the fault of an awaitable answer, or it is the validation
with awaiting in all that can be seen of it: the same events, and the same data, issues or fault.
Without awaiting no schema leaves anything to be awaited. -/
theorem safeParse_stopsOrEquals_safeParseAsync (limit : Nat) (schema : Schema)
    (environment : Environment) (input : Value) :
    ((schema.safeParseWithin limit environment input).outcome = .error .asynchronous ∨
      schema.safeParseWithin limit environment input =
        schema.safeParseAsyncWithin limit environment input) ∧
    ∀ part value deferred,
      (Validation.run ⟨environment, .synchronous⟩ limit part value).outcome ≠
        .ok (.pending deferred) := by
  have restricts := run_restricts environment limit
  constructor
  · apply (restricts.stopsOrEquals schema input).andThen
    intro progress brings
    obtain ⟨payload, rfl⟩ := restricts.isReady brings
    exact .refl _
  · intro part value deferred brings
    obtain ⟨payload, same⟩ := restricts.isReady brings
    cases same

end TypedTables
