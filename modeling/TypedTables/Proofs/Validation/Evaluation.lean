import TypedTables.Proofs.Validation.Joining
import TypedTables.Validation.Run

/-!
# Evaluation without awaiting

Where awaiting is not allowed a validation is a plain evaluation: parts are evaluated in order,
the first fault ends it, and an awaitable answer is a fault. This file says so form by form and
proves that a synchronous run brings what the evaluation brings, at once and never awaited.
-/

namespace TypedTables

/-- How a schema is evaluated on a value without awaiting anything. -/
abbrev Evaluator := Schema → Value → Except Fault Payload

namespace Evaluation

/-! ## Evaluating parts -/

def parts (evaluate : Evaluator) (jobs : List Job) : Except Fault (List (Entry Payload)) :=
  jobs.mapM fun job =>
    (evaluate job.schema job.input).map fun payload => ⟨job.key, job.present, payload⟩

/-- An object: its parts, then the keys that are no fields. -/
def object (evaluate : Evaluator) (shape : List (String × Schema)) (catchall : Option Schema)
    (input : Value) : Except Fault Payload :=
  match input.entries? with
  | none => .ok (.wrongKind "object" input)
  | some entries =>
      let extraKeys := Container.ExtraKeys.ofCatchall catchall
      let extra := Container.extraEntries shape entries
      (parts evaluate (Container.objectJobs shape extraKeys entries)).bind fun done =>
        match extraKeys with
        | .refused =>
            ((extra.map Prod.fst).mapM Value.plain).map fun refused =>
              Container.assembleObject input refused done
        | .kept =>
            .ok (Container.assembleObject input []
              (done ++ extra.map fun entry => ⟨entry.1, true, .accept entry.2⟩))
        | .validated _ | .dropped => .ok (Container.assembleObject input [] done)

def array (evaluate : Evaluator) (element : Schema) (least most : Option Value)
    (input : Value) : Except Fault Payload :=
  match input.items? with
  | none => .ok (.wrongKind "array" input)
  | some items =>
      (Leaf.boundIssues "Array" "element(s)" items.length least most input).bind fun sizes =>
        (parts evaluate (Container.indexedJobs (fun _ => element) items)).map
          (Container.assembleList sizes)

def schemaAt (items : List Schema) (rest : Option Schema) (index : Nat) : Schema :=
  match items[index]?, rest with
  | some schema, _ => schema
  | none, some schema => schema
  | none, none => Schema.anonymous .any

def tuple (evaluate : Evaluator) (items : List Schema) (rest : Option Schema) (input : Value) :
    Except Fault Payload :=
  match input.items? with
  | none => .ok (.wrongKind "tuple" input)
  | some values =>
      let required := Container.requiredCount items
      if values.length < required then
        .ok (.reject input (Issue.plain .tooSmall
          s!"Tuple must contain at least {required} element(s)" input))
      else if rest.isNone && items.length < values.length then
        .ok (.reject input (Issue.plain .tooBig
          s!"Tuple must contain at most {items.length} element(s)" input))
      else
        (parts evaluate (Container.indexedJobs (schemaAt items rest) values)).map
          (Container.assembleList [])

def set (evaluate : Evaluator) (element : Schema) (least most : Option Value) (input : Value) :
    Except Fault Payload :=
  match input.members? with
  | none => .ok (.wrongKind "set" input)
  | some members =>
      (Leaf.boundIssues "Set" "element(s)" members.length least most input).bind fun sizes =>
        (parts evaluate (members.map fun member => ⟨.null, true, element, member⟩)).bind
          (Container.assembleSet sizes)

def keyed (evaluate : Evaluator) (label : String) (key value : Schema) (input : Value) :
    Except Fault Payload :=
  match input.entries? with
  | none => .ok (.wrongKind label input)
  | some entries =>
      (parts evaluate (Container.keyedJobs key value entries)).bind fun done =>
        Container.assembleKeyed label done (.accept (.mapping []))

/-- The first accepting option, after options that were refused with the given issues. -/
def firstAccepting (evaluate : Evaluator) (input : Value) :
    List Schema → List (List Issue) → Except Fault Payload
  | [], refusals =>
      .ok (.reject input
        { Issue.plain .invalidUnion "Invalid input" input with errors := some refusals })
  | option :: rest, refusals =>
      (evaluate option input).bind fun payload =>
        if payload.isClean then .ok (.accept payload.value)
        else firstAccepting evaluate input rest (refusals ++ [payload.issues])

def intersection (evaluate : Evaluator) (left right : Schema) (input : Value) :
    Except Fault Payload :=
  (parts evaluate [⟨.text "left", true, left, input⟩, ⟨.text "right", true, right, input⟩]).map
    (Combination.assembleIntersection input)

def reference (evaluate : Evaluator) (tables : Option (List String)) (identifier : Schema)
    (input : Value) : Except Fault Payload :=
  match input with
  | .record table value =>
      match tables.filter fun permitted => !permitted.contains table with
      | some permitted => .ok (.reject input (Wrapper.foreignTable permitted table input))
      | none => (evaluate identifier value).map (Wrapper.rebuildRecord table input)
  | _ => .ok (.wrongKind "RecordId" input)

/-! ## Evaluating user functions -/

/-- The answer of a user function; an awaitable one is a fault. -/
def answer (function : UserFunction Value) (argument : Value) : Except Fault Value :=
  if function.deferred then .error .asynchronous
  else
    (function.compute argument).bind fun result =>
      if result.isAwaitable then .error .asynchronous else .ok result

/-- The payload of a value that passed the form of a schema, after the checks of the schema. -/
def refine (refinements : List Refinement) (payload : Payload) : Except Fault Payload :=
  if !payload.isClean || payload.value.isUndefined then .ok payload
  else
    (refinements.mapM fun refinement => answer refinement.check payload.value).map
      (Wrapper.judge refinements payload.value)

/-! ## Evaluating schemas -/

/-- Evaluates a form, given how its parts are evaluated. -/
def form (environment : Environment) (evaluate : Evaluator) (form : Form Schema) (input : Value) :
    Except Fault Payload :=
  match form with
  | .object shape catchall => object evaluate shape catchall input
  | .table table => object evaluate table.shape (some table.catchall) input
  | .array element least most => array evaluate element least most input
  | .set element least most => set evaluate element least most input
  | .tuple items rest => tuple evaluate items rest input
  | .record key value => keyed evaluate "record" key value input
  | .map key value => keyed evaluate "map" key value input
  | .union options => firstAccepting evaluate input options []
  | .intersection left right => intersection evaluate left right input
  | .optional inner => if input.isUndefined then .ok (.accept input) else evaluate inner input
  | .nullable inner => if input.isNull then .ok (.accept input) else evaluate inner input
  | .nonoptional inner => (evaluate inner input).map Wrapper.demandPresent
  | .default inner value =>
      if input.isUndefined then (Wrapper.supplied value).outcome.map .accept
      else evaluate inner input
  | .prefault inner value =>
      if input.isUndefined then (Wrapper.supplied value).outcome.bind (evaluate inner)
      else evaluate inner input
  | .fallback inner replacement =>
      (evaluate inner input).bind fun payload => (Wrapper.recover replacement payload).outcome
  | .readonly inner => (evaluate inner input).map Wrapper.freezeClean
  | .pipe source target =>
      (evaluate source input).bind fun payload =>
        if payload.isClean then evaluate target payload.value else .ok payload
  | .transform function => (answer function input).map .accept
  | .custom none _ => .ok (.accept input)
  | .custom (some function) message =>
      (answer function input).map fun verdict =>
        if verdict.isTruthy then .accept input
        else .reject input (Wrapper.refusedByCheck message input)
  | .promise inner =>
      if input.isAwaitable then .error .asynchronous else evaluate inner input
  | .lazily target => (environment.resolve target).bind fun resolved => evaluate resolved input
  | .reference tables identifier => reference evaluate tables identifier input
  | leaf => (Leaf.payload? leaf input).getD (.ok (.accept input))

/-- Evaluates a schema, given how its parts are evaluated: the form, then the refinements. -/
def schema (environment : Environment) (evaluate : Evaluator) (schema : Schema) (input : Value) :
    Except Fault Payload :=
  (form environment evaluate schema.form input).bind (refine schema.refinements)

/-- Evaluates a schema to a depth of at most `limit`. -/
def within (environment : Environment) : Nat → Evaluator
  | 0 => fun _ _ => .error .tooDeep
  | limit + 1 => schema environment (within environment limit)

end Evaluation

/-! ## Synchronous runs are evaluations -/

/-- A validator that brings at once what an evaluator brings. -/
def Validator.Computes (validate : Validator) (evaluate : Evaluator) : Prop :=
  ∀ schema input, (validate schema input).outcome = (evaluate schema input).map .ready

section Computes

variable {validate : Validator} {evaluate : Evaluator}

theorem mapM_map {ε α β γ : Type} (items : List α) (action : α → Except ε β) (next : β → γ) :
    (items.mapM fun item => (action item).map next) = (items.mapM action).map (List.map next) := by
  induction items with
  | nil => rfl
  | cons item rest ih =>
      rw [List.mapM_cons, List.mapM_cons, ih]
      cases action item with
      | error cause => rfl
      | ok first => cases rest.mapM action <;> rfl

theorem outcome_fanOut (computes : validate.Computes evaluate) (jobs : List Job) :
    (fanOut validate jobs).outcome =
      (Evaluation.parts evaluate jobs).map (List.map Entry.atOnce) := by
  rw [fanOut, Traced.outcome_forEach, Evaluation.parts, ← mapM_map]
  congr 1
  funext job
  rw [Traced.outcome_andThen, computes job.schema job.input]
  cases evaluate job.schema job.input <;> rfl

/-- Parts that are run and joined bring what assembling the evaluated parts brings. -/
theorem outcome_fanOut_andThen (computes : validate.Computes evaluate) (jobs : List Job)
    (next : List (Entry (Progress Payload)) → Traced (Progress Payload))
    (assemble : List (Entry Payload) → Except Fault Payload)
    (joins : ∀ done : List (Entry Payload),
      (next (done.map Entry.atOnce)).outcome = (assemble done).map .ready) :
    ((fanOut validate jobs).andThen next).outcome =
      ((Evaluation.parts evaluate jobs).bind assemble).map .ready := by
  rw [Traced.outcome_andThen, outcome_fanOut computes]
  cases Evaluation.parts evaluate jobs with
  | error cause => rfl
  | ok done => exact joins done

theorem outcome_joinEntries_atOnce (assemble : List (Entry Payload) → Except Fault Payload)
    (done : List (Entry Payload)) :
    (joinEntries (done.map Entry.atOnce) assemble).outcome = (assemble done).map .ready := by
  rw [joinEntries_atOnce, Traced.outcome_ofExcept]

theorem outcome_fanOut_join (computes : validate.Computes evaluate) (jobs : List Job)
    (assemble : List (Entry Payload) → Except Fault Payload) :
    ((fanOut validate jobs).andThen fun results => joinEntries results assemble).outcome =
      ((Evaluation.parts evaluate jobs).bind assemble).map .ready :=
  outcome_fanOut_andThen computes jobs _ assemble (outcome_joinEntries_atOnce assemble)

theorem outcome_fanOut_assemble (computes : validate.Computes evaluate) (jobs : List Job)
    (assemble : List (Entry Payload) → Payload) :
    ((fanOut validate jobs).andThen fun results =>
        joinEntries results fun done => .ok (assemble done)).outcome =
      ((Evaluation.parts evaluate jobs).map assemble).map .ready := by
  rw [outcome_fanOut_join computes]
  cases Evaluation.parts evaluate jobs <;> rfl

theorem outcome_object (computes : validate.Computes evaluate) (shape : List (String × Schema))
    (catchall : Option Schema) (input : Value) :
    (Container.object validate shape catchall input).outcome =
      (Evaluation.object evaluate shape catchall input).map .ready := by
  unfold Container.object Evaluation.object
  cases input.entries? with
  | none => rfl
  | some entries =>
      apply outcome_fanOut_andThen computes
      intro done
      cases Container.ExtraKeys.ofCatchall catchall with
      | dropped =>
          by_cases none : (Container.extraEntries shape entries).isEmpty = true <;>
            simp [none, Except.bind, joinEntries_atOnce]
      | refused =>
          rw [Traced.outcome_andThen, Traced.outcome_ofExcept]
          cases ((Container.extraEntries shape entries).map Prod.fst).mapM Value.plain with
          | error cause => rfl
          | ok refused => exact outcome_joinEntries_atOnce _ done
      | kept =>
          have together : done.map Entry.atOnce ++ (Container.extraEntries shape entries).map
              (fun entry => (⟨entry.1, true, .ready (.accept entry.2)⟩ : Entry (Progress Payload))) =
              (done ++ (Container.extraEntries shape entries).map fun entry =>
                (⟨entry.1, true, .accept entry.2⟩ : Entry Payload)).map Entry.atOnce := by
            simp [Entry.atOnce, Entry.withResult, Function.comp_def]
          simp only [together]
          exact outcome_joinEntries_atOnce _ _
      | validated schema => exact outcome_joinEntries_atOnce _ done

theorem outcome_array (computes : validate.Computes evaluate) (element : Schema)
    (least most : Option Value) (input : Value) :
    (Container.array validate element least most input).outcome =
      (Evaluation.array evaluate element least most input).map .ready := by
  unfold Container.array Evaluation.array
  cases input.items? with
  | none => rfl
  | some items =>
      simp only [Traced.outcome_andThen, Traced.outcome_ofExcept]
      cases Leaf.boundIssues "Array" "element(s)" items.length least most input with
      | error cause => rfl
      | ok sizes =>
          have joined := outcome_fanOut_assemble computes
            (Container.indexedJobs (fun _ => element) items) (Container.assembleList sizes)
          rw [Traced.outcome_andThen] at joined
          exact joined

theorem outcome_tuple (computes : validate.Computes evaluate) (items : List Schema)
    (rest : Option Schema) (input : Value) :
    (Container.tuple validate items rest input).outcome =
      (Evaluation.tuple evaluate items rest input).map .ready := by
  unfold Container.tuple Evaluation.tuple
  cases input.items? with
  | none => rfl
  | some values =>
      by_cases short : values.length < Container.requiredCount items
      · simp [short, Except.map]
      · by_cases long : (rest.isNone && decide (items.length < values.length)) = true
        · simp [short, long, Except.map]
        · simp only [short, if_false, long]
          exact outcome_fanOut_assemble computes
            (Container.indexedJobs (Evaluation.schemaAt items rest) values)
            (Container.assembleList [])

theorem outcome_set (computes : validate.Computes evaluate) (element : Schema)
    (least most : Option Value) (input : Value) :
    (Container.set validate element least most input).outcome =
      (Evaluation.set evaluate element least most input).map .ready := by
  unfold Container.set Evaluation.set
  cases input.members? with
  | none => rfl
  | some members =>
      simp only [Traced.outcome_andThen, Traced.outcome_ofExcept]
      cases Leaf.boundIssues "Set" "element(s)" members.length least most input with
      | error cause => rfl
      | ok sizes =>
          have joined := outcome_fanOut_join computes
            (members.map fun member => ⟨.null, true, element, member⟩)
            (Container.assembleSet sizes)
          rw [Traced.outcome_andThen] at joined
          exact joined

theorem outcome_keyed (computes : validate.Computes evaluate) (label : String)
    (key value : Schema) (input : Value) :
    (Container.keyed validate label key value input).outcome =
      (Evaluation.keyed evaluate label key value input).map .ready := by
  unfold Container.keyed Evaluation.keyed
  cases input.entries? with
  | none => rfl
  | some entries =>
      exact outcome_fanOut_join computes (Container.keyedJobs key value entries)
        fun done => Container.assembleKeyed label done (.accept (.mapping []))

theorem outcome_intersection (computes : validate.Computes evaluate) (left right : Schema)
    (input : Value) :
    (Combination.intersection validate left right input).outcome =
      (Evaluation.intersection evaluate left right input).map .ready :=
  outcome_fanOut_assemble computes
    [⟨.text "left", true, left, input⟩, ⟨.text "right", true, right, input⟩]
    (Combination.assembleIntersection input)

/-- Trying options after refused ones brings the first accepting option, or one issue with the
issues of all. The induction is on the options that are left. -/
theorem outcome_tryOptions (computes : validate.Computes evaluate) (input : Value)
    (options : List Schema) (index : Nat) (refused : List (Entry Payload))
    (allRefused : ∀ entry ∈ refused, entry.result.isClean = false) :
    (Combination.tryOptions validate input options index (refused.map Entry.atOnce)).outcome =
      (Evaluation.firstAccepting evaluate input options
        (refused.map fun entry => entry.result.issues)).map .ready := by
  induction options generalizing index refused with
  | nil =>
      have notFound : refused.find? (fun entry => entry.result.isClean) = none := by
        simpa using allRefused
      rw [Combination.tryOptions, joinEntries_atOnce, Combination.choose, notFound]
      rfl
  | cons option rest ih =>
      rw [Combination.tryOptions, Evaluation.firstAccepting, Traced.outcome_andThen,
        computes option input]
      cases evaluate option input with
      | error cause => rfl
      | ok payload =>
          have waiting : ((refused.map Entry.atOnce).any fun earlier =>
              earlier.result.isPending) = false := by
            simp [Entry.atOnce, Entry.withResult, Progress.isPending]
          cases clean : payload.isClean with
          | true => simp [Except.map, Except.bind, clean, waiting]
          | false =>
              have further := ih (index + 1)
                (refused ++ [⟨.integer (Int.ofNat index), true, payload⟩]) (by
                  intro entry member
                  rcases List.mem_append.mp member with earlier | last
                  · exact allRefused entry earlier
                  · rw [List.mem_singleton.mp last]
                    exact clean)
              simpa [Except.map, Except.bind, clean, Entry.atOnce, Entry.withResult] using further

theorem outcome_union (computes : validate.Computes evaluate) (options : List Schema)
    (input : Value) :
    (Combination.union validate options input).outcome =
      (Evaluation.firstAccepting evaluate input options []).map .ready :=
  outcome_tryOptions computes input options 0 [] (by simp)

theorem outcome_afterwards {result : Traced (Progress Payload)} {evaluated : Except Fault Payload}
    (brings : result.outcome = evaluated.map .ready) (next : Payload → Traced Payload) :
    (Wrapper.afterwards result next).outcome =
      (evaluated.bind fun payload => (next payload).outcome).map .ready := by
  rw [Wrapper.afterwards, Traced.outcome_andThen, brings]
  cases evaluated with
  | error cause => rfl
  | ok payload =>
      change ((next payload).andThen fun final => Traced.result (Progress.ready final)).outcome = _
      rw [Traced.outcome_andThen]
      cases outcome : (next payload).outcome <;> simp [Except.map, Except.bind, outcome]

theorem outcome_reference (computes : validate.Computes evaluate) (tables : Option (List String))
    (identifier : Schema) (input : Value) :
    (Wrapper.reference validate tables identifier input).outcome =
      (Evaluation.reference evaluate tables identifier input).map .ready := by
  unfold Wrapper.reference Evaluation.reference
  cases input with
  | record table value =>
      simp only
      cases tables.filter fun permitted => !permitted.contains table with
      | some permitted => rfl
      | none =>
          simp only
          rw [outcome_afterwards (computes identifier value)]
          cases evaluate identifier value <;> rfl
  | _ => rfl

end Computes

/-! ## User functions in synchronous runs -/

theorem outcome_callAs {α : Type} (function : UserFunction α) (shown : Value) (argument : α) :
    (function.callAs shown argument).outcome =
      if function.deferred then .ok (.awaitable 0 (function.compute argument))
      else function.compute argument := by
  rw [UserFunction.callAs, Traced.outcome_andThen]
  cases function.deferred <;> rfl

theorem outcome_call (function : UserFunction Value) (argument : Value) :
    (function.call argument).outcome =
      if function.deferred then .ok (.awaitable 0 (function.compute argument))
      else function.compute argument :=
  outcome_callAs function argument argument

theorem outcome_call_allow (function : UserFunction Value) (argument : Value) :
    ((function.call argument).andThen fun answer =>
      (ParseMode.synchronous.allow answer).andThen fun _ => .result answer).outcome =
        Evaluation.answer function argument := by
  rw [Traced.outcome_andThen, outcome_call, Evaluation.answer]
  cases function.deferred with
  | true => rfl
  | false =>
      cases function.compute argument with
      | error cause => rfl
      | ok result =>
          cases awaitable : result.isAwaitable <;>
            simp [Except.bind, ParseMode.allow, awaitable]

theorem not_awaitable_of_answer {function : UserFunction Value} {argument result : Value}
    (answers : Evaluation.answer function argument = .ok result) : result.isAwaitable = false := by
  unfold Evaluation.answer at answers
  cases deferred : function.deferred with
  | true => simp [deferred] at answers
  | false =>
      cases applied : function.compute argument with
      | error cause => simp [deferred, applied, Except.bind] at answers
      | ok other =>
          cases awaitable : other.isAwaitable with
          | true => simp [deferred, applied, Except.bind, awaitable] at answers
          | false =>
              simp only [deferred, Bool.false_eq_true, if_false, applied, Except.bind, awaitable,
                Except.ok.injEq] at answers
              rw [← answers]
              exact awaitable

theorem outcome_call_withAnswer (function : UserFunction Value) (argument : Value)
    (next : Value → Payload) :
    ((function.call argument).andThen fun answer =>
      Wrapper.withAnswer .synchronous answer next).outcome =
        ((Evaluation.answer function argument).map next).map .ready := by
  rw [Traced.outcome_andThen, outcome_call, Evaluation.answer]
  cases function.deferred with
  | true => rfl
  | false =>
      cases function.compute argument with
      | error cause => rfl
      | ok result =>
          cases awaitable : result.isAwaitable <;>
            simp [Except.bind, Except.map, Wrapper.withAnswer, ParseMode.allow, awaitable]

theorem outcome_callChecks (refinements : List Refinement) (value : Value) :
    (Wrapper.callChecks .synchronous refinements value).outcome =
      refinements.mapM fun refinement => Evaluation.answer refinement.check value := by
  rw [Wrapper.callChecks, Traced.outcome_forEach]
  congr 1
  funext refinement
  exact outcome_call_allow refinement.check value

theorem outcome_refine (refinements : List Refinement) (payload : Payload) :
    (Wrapper.refine .synchronous refinements payload).outcome =
      (Evaluation.refine refinements payload).map .ready := by
  unfold Wrapper.refine Evaluation.refine
  by_cases skipped : (!payload.isClean || payload.value.isUndefined) = true
  · simp [skipped, Except.map]
  · rw [if_neg skipped, if_neg skipped, Traced.outcome_andThen, outcome_callChecks]
    cases answered : refinements.mapM fun refinement =>
        Evaluation.answer refinement.check payload.value with
    | error cause => rfl
    | ok answers =>
        have none : answers.any Value.isAwaitable = false := by
          rw [List.any_eq_false]
          intro result member
          obtain ⟨refinement, -, answers⟩ := exists_mem_of_mapM_eq_ok answered member
          simp [not_awaitable_of_answer answers]
        simp [Except.bind, Except.map, none]

theorem refine_nil (payload : Payload) : Evaluation.refine [] payload = .ok payload := by
  rcases payload with ⟨value, issues⟩
  cases issues with
  | cons issue rest => rfl
  | nil => cases absent : value.isUndefined <;> simp [Evaluation.refine, absent, Wrapper.judge,
      Payload.isClean, pure, Except.pure, Except.map]

/-! ## Leaves -/

theorem Evaluation.form_leaf {environment : Environment} {evaluate : Evaluator}
    {form : Form Schema} {input : Value} {outcome : Except Fault Payload}
    (leaf : Leaf.payload? form input = some outcome) :
    Evaluation.form environment evaluate form input = outcome := by
  cases form <;> first | (cases leaf; rfl) | cases leaf

theorem Validation.runForm_leaf {scope : ParseScope} {validate : Validator} {form : Form Schema}
    {input : Value} {outcome : Except Fault Payload}
    (leaf : Leaf.payload? form input = some outcome) :
    Validation.runForm scope validate form input = .ofExcept (outcome.map .ready) := by
  cases form <;> first | (cases leaf; rfl) | cases leaf

/-! ## Synchronous runs -/

theorem outcome_runForm {validate : Validator} {evaluate : Evaluator}
    (computes : validate.Computes evaluate) (environment : Environment) (form : Form Schema)
    (input : Value) :
    (Validation.runForm ⟨environment, .synchronous⟩ validate form input).outcome =
      (Evaluation.form environment evaluate form input).map .ready := by
  cases form with
  | object shape catchall => exact outcome_object computes shape catchall input
  | table table => exact outcome_object computes table.shape (some table.catchall) input
  | array element least most => exact outcome_array computes element least most input
  | set element least most => exact outcome_set computes element least most input
  | tuple items rest => exact outcome_tuple computes items rest input
  | record key value => exact outcome_keyed computes "record" key value input
  | map key value => exact outcome_keyed computes "map" key value input
  | union options => exact outcome_union computes options input
  | intersection left right => exact outcome_intersection computes left right input
  | optional inner =>
      cases absent : input.isUndefined <;>
        simp [Validation.runForm, Evaluation.form, absent, computes inner input, Except.map]
  | nullable inner =>
      cases null : input.isNull <;>
        simp [Validation.runForm, Evaluation.form, null, computes inner input, Except.map]
  | nonoptional inner =>
      rw [Validation.runForm, outcome_afterwards (computes inner input), Evaluation.form]
      cases evaluate inner input <;> rfl
  | default inner value =>
      cases absent : input.isUndefined with
      | false => simp [Validation.runForm, Evaluation.form, absent, computes inner input]
      | true =>
          simp only [Validation.runForm, Evaluation.form, absent, if_true, Traced.outcome_andThen]
          cases (Wrapper.supplied value).outcome <;> rfl
  | prefault inner value =>
      cases absent : input.isUndefined with
      | false => simp [Validation.runForm, Evaluation.form, absent, computes inner input]
      | true =>
          simp only [Validation.runForm, Evaluation.form, absent, if_true, Traced.outcome_andThen]
          cases (Wrapper.supplied value).outcome with
          | error cause => rfl
          | ok answer => exact computes inner answer
  | fallback inner replacement =>
      exact outcome_afterwards (computes inner input) (Wrapper.recover replacement)
  | readonly inner =>
      rw [Validation.runForm, outcome_afterwards (computes inner input), Evaluation.form]
      cases evaluate inner input <;> rfl
  | pipe source target =>
      rw [Validation.runForm, Evaluation.form, Traced.outcome_andThen, computes source input]
      cases evaluate source input with
      | error cause => rfl
      | ok payload =>
          cases clean : payload.isClean <;>
            simp [Except.map, Except.bind, Progress.andThen, clean, computes target payload.value]
  | transform function => exact outcome_call_withAnswer function input Payload.accept
  | custom check message =>
      cases check with
      | none => rfl
      | some function => exact outcome_call_withAnswer function input _
  | promise inner =>
      cases awaitable : input.isAwaitable <;>
        simp [Validation.runForm, Evaluation.form, Wrapper.promise, ParseMode.allow, awaitable,
          computes inner input, Except.map, Except.bind]
  | lazily target =>
      rw [Validation.runForm, Evaluation.form, Traced.outcome_andThen, Traced.outcome_ofExcept]
      cases environment.resolve target with
      | error cause => rfl
      | ok resolved => exact computes resolved input
  | reference tables identifier => exact outcome_reference computes tables identifier input
  | _ => rfl

/-- A synchronous run brings at once what the evaluation brings; nothing in it is awaited. -/
theorem run_computes (environment : Environment) (limit : Nat) :
    (Validation.run ⟨environment, .synchronous⟩ limit).Computes
      (Evaluation.within environment limit) := by
  induction limit with
  | zero => exact fun _ _ => rfl
  | succ limit ih =>
      intro schema input
      change (Validation.runSchema _ _ schema input).outcome =
        (Evaluation.schema environment _ schema input).map .ready
      have formed := outcome_runForm ih environment schema.form input
      unfold Validation.runSchema Evaluation.schema
      by_cases plain : schema.refinements.isEmpty = true
      · rw [if_pos plain, formed, List.isEmpty_iff.mp plain]
        cases Evaluation.form environment (Evaluation.within environment limit) schema.form input with
        | error cause => rfl
        | ok payload => exact congrArg (Except.map Progress.ready) (refine_nil payload).symm
      · rw [if_neg plain, Traced.outcome_andThen, formed]
        cases Evaluation.form environment (Evaluation.within environment limit) schema.form input with
        | error cause => rfl
        | ok payload => exact outcome_refine schema.refinements payload

/-- Validating without awaiting reports what the evaluation brings. -/
theorem outcome_safeParseWithin (limit : Nat) (schema : Schema) (environment : Environment)
    (input : Value) :
    (schema.safeParseWithin limit environment input).outcome =
      (Evaluation.within environment limit schema input).bind ParseResult.ofPayload := by
  rw [Schema.safeParseWithin, Traced.outcome_andThen, run_computes environment limit schema input]
  cases Evaluation.within environment limit schema input <;> rfl

theorem Payload.eq_accept {payload : Payload} (clean : payload.isClean = true) :
    payload = .accept payload.value := by
  rcases payload with ⟨value, issues⟩
  rw [show issues = [] from List.isEmpty_iff.mp clean]
  rfl

theorem Payload.accept_inj {first second : Value} (same : accept first = accept second) :
    first = second :=
  congrArg Payload.value same

theorem safeParseWithin_eq_accepted_iff {limit : Nat} {schema : Schema} {environment : Environment}
    {input data : Value} :
    (schema.safeParseWithin limit environment input).outcome = .ok (.accepted data) ↔
      Evaluation.within environment limit schema input = .ok (.accept data) := by
  rw [outcome_safeParseWithin, except_bind_eq_ok_iff]
  constructor
  · rintro ⟨payload, evaluates, results⟩
    unfold ParseResult.ofPayload at results
    split at results
    · rename_i clean
      cases results
      rw [evaluates, ← Payload.eq_accept clean]
    · obtain ⟨written, -, rejected⟩ := (except_map_eq_ok_iff _ _ _).mp results
      cases rejected
  · intro evaluates
    exact ⟨_, evaluates, rfl⟩

theorem exists_within_of_rejected {limit : Nat} {schema : Schema} {environment : Environment}
    {input : Value} {issues : List Issue} {message : String}
    (rejects : (schema.safeParseWithin limit environment input).outcome =
      .ok (.rejected issues message)) :
    ∃ payload, Evaluation.within environment limit schema input = .ok payload ∧
      payload.isClean = false ∧ payload.issues = issues := by
  rw [outcome_safeParseWithin, except_bind_eq_ok_iff] at rejects
  obtain ⟨payload, evaluates, results⟩ := rejects
  unfold ParseResult.ofPayload at results
  split at results
  · cases results
  · rename_i refused
    obtain ⟨written, -, same⟩ := (except_map_eq_ok_iff _ _ _).mp results
    cases same
    exact ⟨payload, evaluates, by simpa using refused, rfl⟩

end TypedTables
