import TypedTables.Proofs.FieldType.Chains
import TypedTables.Proofs.Validation.Runs
import TypedTables.Proofs.Value.Templates

/-!
# Faults of depth

Validating goes too deep only where the run of a part does. Leaves, user functions that end, and
putting together what the parts bring end in results or in other faults.
-/

namespace TypedTables

namespace Leaf

theorem inTime_compareNumbers (comparison : Comparison) (left right : Value) :
    InTime (compareNumbers comparison left right) := by
  unfold compareNumbers
  split
  · simp
  · split <;> simp
  · simp

theorem inTime_sizeIssue (comparison : Comparison) (code : IssueCode) (size : Nat)
    (bound : Option Value) (message : String → String) (value : Value) :
    InTime (sizeIssue comparison code size bound message value) := by
  unfold sizeIssue
  split
  · simp
  · rename_i limit
    refine (inTime_compareNumbers _ _ _).bind fun broken _ => ?_
    split
    · exact limit.inTime_plain.map _
    · simp

theorem inTime_boundIssues (label unit : String) (size : Nat) (least most : Option Value)
    (value : Value) : InTime (boundIssues label unit size least most value) :=
  (inTime_sizeIssue _ _ _ _ _ _).bind fun _ _ => (inTime_sizeIssue _ _ _ _ _ _).map _

theorem inTime_coerceText (value : Value) : InTime (coerceText value) := by
  unfold coerceText
  split
  · simp
  · simp
  · simp
  · exact value.inTime_plain.map _

theorem inTime_patternIssues (pattern : Option String) (text : String) :
    InTime (patternIssues pattern text) := by
  unfold patternIssues
  split
  · simp
  · split <;> simp

theorem inTime_text (rules : TextRules) (input : Value) : InTime (text rules input) := by
  unfold text
  refine InTime.bind ?_ fun value _ => ?_
  · split
    · exact inTime_coerceText input
    · simp
  · split
    · exact (inTime_boundIssues _ _ _ _ _ _).bind fun _ _ => (inTime_patternIssues _ _).map _
    · simp

theorem inTime_numberIssue (comparison : Comparison) (code : IssueCode) (relation : String)
    (limit value : Value) : InTime (numberIssue comparison code relation limit value) := by
  refine (inTime_compareNumbers _ _ _).bind fun holds _ => ?_
  split
  · simp
  · exact limit.inTime_plain.map _

theorem inTime_numberBoundIssues (rules : NumberRules) (value : Value) :
    InTime (numberBoundIssues rules value) := by
  refine InTime.bind ?_ fun below _ => InTime.map _ ?_
  all_goals
    split
    · simp
    · exact inTime_numberIssue _ _ _ _ _
    · exact inTime_numberIssue _ _ _ _ _

theorem inTime_rangeIssues (range : NumberRange) (value : Value) :
    InTime (rangeIssues range value) :=
  (inTime_numberIssue _ _ _ _ _).bind fun _ _ => (inTime_numberIssue _ _ _ _ _).map _

theorem inTime_number (rules : NumberRules) (input : Value) : InTime (number rules input) := by
  unfold number
  extract_lets value isFinite
  split
  · simp
  · split
    · split
      · simp
      · exact (inTime_rangeIssues _ _).bind fun _ _ => (inTime_numberBoundIssues _ _).map _
    · exact (inTime_numberBoundIssues _ _).map _

end Leaf

namespace Operation

theorem inTime_sizeOf (value : Value) : InTime (sizeOf value) := by
  unfold sizeOf
  split <;> simp

theorem inTime_isEven (value : Value) : InTime (isEven value) := by
  unfold isEven
  split
  case h_6 => exact (Template.inTime_format _ _).map _
  all_goals simp [unsupported]

theorem inTime_ofIssues (wanted : String) (part : IssueCode → String → String) (value : Value) :
    InTime (ofIssues wanted part value) := by
  refine InTime.bind ?_ fun items _ => InTime.bind (InTime.mapM fun item _ => ?_) fun _ _ => ?_
  · unfold iterated
    split <;> simp
  · split <;> simp
  · simp [pure, Except.pure]

/-- The functions known by name do not go too deep. -/
theorem inTime_apply (operation : Operation) (value : Value) : InTime (operation.apply value) := by
  cases operation with
  | even => exact (inTime_isEven value).map _
  | long => exact (inTime_sizeOf value).map _
  | length => exact (inTime_sizeOf value).map _
  | codes => exact inTime_ofIssues _ _ _
  | messages => exact inTime_ofIssues _ _ _
  | upper =>
      rw [apply]
      unfold upperCase
      split <;> simp
  | double =>
      rw [apply]
      unfold doubled
      split <;> simp [unsupported]
  | _ => simp [apply]

end Operation

/-- The function ends on every argument, in an answer or in a fault of its own. -/
def UserFunction.Ends {α : Type} (function : UserFunction α) : Prop :=
  ∀ argument, InTime (function.compute argument)

def Replacement.Ends : Replacement → Prop
  | .value _ => True
  | .computed function => function.Ends

def Value.Ends : Value → Prop
  | .supplier _ outcome => InTime outcome
  | _ => True

/-- The functions that the form calls end, and so does building its target where it is lazy. -/
def Form.EndsAlone : Form Schema → Prop
  | .default _ value | .prefault _ value => value.Ends
  | .transform mapped => mapped.Ends
  | .custom check _ => ∀ function ∈ check, function.Ends
  | .fallback _ replacement => replacement.Ends
  | .lazily target => target ≠ .unbuildable .tooDeep
  | _ => True

/-- Everything that the schema does besides running parts ends. -/
structure Schema.EndsAlone (schema : Schema) : Prop where
  form : schema.form.EndsAlone
  refinements : ∀ refinement ∈ schema.refinements, refinement.check.Ends

namespace UserFunction

variable {α : Type} {function : UserFunction α}

theorem ends_onIssues (function : NamedFunction) : (onIssues function).Ends :=
  fun _ => Operation.inTime_apply _ _

theorem inTime_callAs (ends : function.Ends) (shown : Value) (argument : α) :
    InTime (function.callAs shown argument).outcome := by
  rw [outcome_callAs]
  split
  · simp
  · exact ends argument

end UserFunction

namespace Wrapper

theorem inTime_supplied {value : Value} (ends : value.Ends) : InTime (supplied value).outcome := by
  cases value with
  | supplier token outcome => exact ends
  | _ => simp [supplied, Value.isCallable, Value.supply]

theorem inTime_replaced {replacement : Replacement} (ends : replacement.Ends)
    (issues : List Issue) : InTime (replaced replacement issues).outcome := by
  unfold replaced
  split
  · exact UserFunction.inTime_callAs ends _ _
  · exact UserFunction.inTime_callAs (UserFunction.ends_onIssues _) _ _
  · simp
  · simp

theorem inTime_recover {replacement : Replacement} (ends : replacement.Ends) (payload : Payload) :
    InTime (recover replacement payload).outcome := by
  unfold recover
  split
  · simp
  · rw [Traced.outcome_andThen]
    exact (inTime_replaced ends _).bind fun _ _ => by simp

end Wrapper

namespace Container

theorem inTime_collectMembers (values members : List Value) :
    InTime (collectMembers values members) := by
  induction values generalizing members with
  | nil => simp [collectMembers]
  | cons value rest ih =>
      unfold collectMembers
      split
      · simp
      · exact ih _

theorem inTime_pathKey (key : Value) : InTime (pathKey key) := by
  unfold pathKey
  extract_lets plainKey
  have plain (value : Value) : InTime (plainKey value) := by
    unfold plainKey
    split
    · simp
    · simp
    · simp
    · split
      · split <;> simp
      · simp
    · split
      · split <;> simp
      · simp
    · split <;> simp
    · simp
  split
  · exact plain _
  · exact plain _

theorem inTime_assembleKeyed (label : String) (entries : List (Entry Payload)) (start : Payload) :
    InTime (assembleKeyed label entries start) := by
  fun_induction assembleKeyed label entries start with
  | case1 keyEntry valueEntry rest start refused ih =>
      exact ((inTime_pathKey _).map _).bind fun issue _ => ih issue
  | case2 keyEntry valueEntry rest start accepted issues absent ih => exact ih
  | case3 => simp
  | case4 keyEntry valueEntry rest start accepted issues present hashable output ih => exact ih
  | case5 => simp

end Container

namespace Evaluation

variable {environment : Environment} {evaluate : Evaluator}

theorem inTime_answer {function : UserFunction Value} (ends : function.Ends) (argument : Value) :
    InTime (answer function argument) := by
  unfold answer
  split
  · simp
  · refine (ends argument).bind fun result _ => ?_
    split <;> simp

theorem inTime_refine {refinements : List Refinement}
    (ends : ∀ refinement ∈ refinements, refinement.check.Ends) (payload : Payload) :
    InTime (refine refinements payload) := by
  unfold refine
  split
  · simp
  · exact (InTime.mapM fun refinement member => inTime_answer (ends refinement member) _).map _

theorem inTime_parts {jobs : List Job}
    (each : ∀ job ∈ jobs, InTime (evaluate job.schema job.input)) : InTime (parts evaluate jobs) :=
  InTime.mapM fun job member => (each job member).map _

theorem inTime_object {shape : List (String × Schema)} {catchall : Option Schema} {input : Value}
    (each : ∀ job ∈ objectRuns shape catchall input, InTime (evaluate job.schema job.input)) :
    InTime (object evaluate shape catchall input) := by
  unfold objectRuns at each
  unfold object
  cases found : input.entries? with
  | none => simp
  | some entries =>
      rw [found] at each
      refine (inTime_parts each).bind fun done _ => ?_
      split
      · exact (InTime.mapM fun key _ => key.inTime_plain).map _
      · simp
      · simp
      · simp

theorem inTime_firstAccepting {options : List Schema} {input : Value}
    (each : ∀ option ∈ tried evaluate input options, InTime (evaluate option input))
    (refusals : List (List Issue)) : InTime (firstAccepting evaluate input options refusals) := by
  induction options generalizing refusals with
  | nil => simp [firstAccepting]
  | cons option rest ih =>
      refine (each option (by simp [tried])).bind fun payload brought => ?_
      cases clean : payload.isClean with
      | true => simp
      | false => exact ih (fun next member => each next (by simp [tried, brought, clean, member])) _

/-- A form goes too deep only where something that it runs does. -/
theorem inTime_form {form : Form Schema} {input : Value} (ends : form.EndsAlone)
    (each : ∀ run ∈ runs environment evaluate form input, InTime (evaluate run.1 run.2)) :
    InTime (Evaluation.form environment evaluate form input) := by
  have ofJobs (jobs : List Job)
      (inTime : ∀ run ∈ jobs.map fun job => (job.schema, job.input),
        InTime (evaluate run.1 run.2)) : InTime (parts evaluate jobs) :=
    inTime_parts fun job member => inTime _ (List.mem_map_of_mem member)
  cases form with
  | object shape catchall =>
      exact inTime_object fun job member => each _ (List.mem_map_of_mem member)
  | table described =>
      exact inTime_object fun job member => each _ (List.mem_map_of_mem member)
  | array element least most =>
      simp only [Evaluation.form, array]
      cases found : input.items? with
      | none => simp
      | some items =>
          simp only [runs, found, Option.getD_some] at each
          exact (Leaf.inTime_boundIssues _ _ _ _ _ _).bind fun _ _ => (ofJobs _ each).map _
  | set element least most =>
      simp only [Evaluation.form, Evaluation.set]
      cases found : input.members? with
      | none => simp
      | some members =>
          simp only [runs, found, Option.getD_some] at each
          refine (Leaf.inTime_boundIssues _ _ _ _ _ _).bind fun _ _ => ?_
          refine InTime.bind (ofJobs _ (by simpa using each)) fun done _ => ?_
          exact (Container.inTime_collectMembers _ _).map _
  | tuple items rest =>
      simp only [Evaluation.form, tuple]
      cases found : input.items? with
      | none => simp
      | some values =>
          simp only [runs, found, Option.getD_some] at each
          split at each
          · rename_i outside
            dsimp only
            split
            · simp
            · rename_i enough
              rw [if_pos (by simpa [enough] using outside)]
              simp
          · rename_i size
            simp only [Bool.or_eq_true, not_or, decide_eq_true_eq] at size
            simp only [size.1, if_false, size.2]
            exact (ofJobs _ each).map _
  | record key value | map key value =>
      simp only [Evaluation.form, keyed]
      cases found : input.entries? with
      | none => simp
      | some entries =>
          simp only [runs, found, Option.getD_some] at each
          exact (ofJobs _ each).bind fun done _ => Container.inTime_assembleKeyed _ _ _
  | union options =>
      exact inTime_firstAccepting
        (fun option member => each (option, input) (List.mem_map_of_mem member)) []
  | intersection left right =>
      exact (ofJobs [⟨.text "left", true, left, input⟩, ⟨.text "right", true, right, input⟩]
        each).map _
  | optional inner | default inner value | nullable inner | promise inner =>
      simp only [runs] at each
      simp only [Evaluation.form]
      split at each
      · rename_i answered
        rw [if_pos answered]
        first
          | exact (Wrapper.inTime_supplied ends).map _
          | simp
      · rename_i present
        rw [if_neg present]
        exact each _ (List.mem_singleton_self _)
  | prefault inner value =>
      simp only [Evaluation.form]
      split
      · rename_i absent
        refine (Wrapper.inTime_supplied ends).bind fun answer supplied => ?_
        exact each (inner, answer) (by simp [runs, absent, supplied])
      · rename_i present
        exact each (inner, input) (by simp [runs, present])
  | nonoptional inner | readonly inner => exact (each _ (List.mem_singleton_self _)).map _
  | fallback inner replacement =>
      exact (each _ (List.mem_singleton_self _)).bind fun _ _ => Wrapper.inTime_recover ends _
  | pipe source target =>
      refine (each _ List.mem_cons_self).bind fun payload brought => ?_
      split
      · rename_i clean
        exact each (target, payload.value) (by simp [runs, brought, clean])
      · simp
  | transform mapped => exact (inTime_answer ends _).map _
  | custom check message =>
      cases check with
      | none => exact .of_ok _
      | some called => exact (inTime_answer (ends called rfl) _).map _
  | lazily target =>
      simp only [Evaluation.form]
      cases resolves : environment.resolve target with
      | error cause =>
          exact Environment.ne_tooDeep_of_unresolved resolves ends
      | ok resolved => exact each (resolved, input) (by simp [runs, resolves])
  | reference tables identifier =>
      simp only [Evaluation.form, reference]
      cases input with
      | record table value =>
          cases foreign : tables.filter fun permitted => !permitted.contains table with
          | some permitted =>
              simp only [foreign]
              exact .of_ok _
          | none =>
              simp only [foreign]
              refine InTime.map _ (each (identifier, value) ?_)
              simp only [runs, foreign, Option.isSome_none, Bool.false_eq_true, if_false]
              exact List.mem_singleton_self _
      | _ => simp
  | text rules => exact Leaf.inTime_text rules input
  | number rules => exact Leaf.inTime_number rules input
  | _ => exact .of_ok _

/-- A schema goes too deep only where something that its form runs does. -/
theorem inTime_schema {schema : Schema} {input : Value} (ends : schema.EndsAlone)
    (each : ∀ run ∈ runs environment evaluate schema.form input, InTime (evaluate run.1 run.2)) :
    InTime (Evaluation.schema environment evaluate schema input) :=
  (inTime_form ends.form each).bind fun _ _ => inTime_refine ends.refinements _

end Evaluation

theorem ParseResult.inTime_ofPayload (payload : Payload) : InTime (ofPayload payload) := by
  unfold ofPayload
  split
  · simp
  · refine InTime.map _ (InTime.map _ (InTime.mapM fun issue _ => InTime.map _ (InTime.map _ ?_)))
    exact InTime.mapM fun segment _ => segment.inTime_plain

end TypedTables
