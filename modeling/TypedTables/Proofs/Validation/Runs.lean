import TypedTables.Proofs.Validation.Jobs

/-!
# What a form runs

On a given value a form runs some of its parts, or what it is resolved to, each on a value of its
own. Which ones these are may depend on how earlier ones turn out: a union tries its options up to
the first that accepts, and a pipe goes on only with what its source accepts. The evaluation of a
form depends on what it runs, and on nothing else.
-/

namespace TypedTables

namespace Evaluation

variable {evaluate other : Evaluator}

/-- The options of a union that are tried: all up to the first that accepts. -/
def tried (evaluate : Evaluator) (input : Value) : List Schema → List Schema
  | [] => []
  | option :: rest =>
      option :: match evaluate option input with
        | .ok payload => if payload.isClean then [] else tried evaluate input rest
        | .error _ => []

def objectRuns (shape : List (String × Schema)) (catchall : Option Schema) (input : Value) :
    List Job :=
  match input.entries? with
  | none => []
  | some entries => Container.objectJobs shape (.ofCatchall catchall) entries

def runs (environment : Environment) (evaluate : Evaluator) (form : Form Schema) (input : Value) :
    List (Schema × Value) :=
  let ofJobs (jobs : List Job) := jobs.map fun job => (job.schema, job.input)
  match form with
  | .object shape catchall => ofJobs (objectRuns shape catchall input)
  | .table described => ofJobs (objectRuns described.shape (some described.catchall) input)
  | .array element _ _ =>
      ofJobs (Container.indexedJobs (fun _ => element) (input.items?.getD []))
  | .set element _ _ => (input.members?.getD []).map fun member => (element, member)
  | .tuple items rest =>
      let values := input.items?.getD []
      if values.length < Container.requiredCount items ||
          rest.isNone && items.length < values.length then []
      else ofJobs (Container.indexedJobs (schemaAt items rest) values)
  | .record key value | .map key value =>
      ofJobs (Container.keyedJobs key value (input.entries?.getD []))
  | .union options => (tried evaluate input options).map fun option => (option, input)
  | .intersection left right => [(left, input), (right, input)]
  | .optional inner | .default inner _ => if input.isUndefined then [] else [(inner, input)]
  | .nullable inner => if input.isNull then [] else [(inner, input)]
  | .nonoptional inner | .fallback inner _ | .readonly inner => [(inner, input)]
  | .prefault inner value =>
      if input.isUndefined then
        match (Wrapper.supplied value).outcome with
        | .ok answer => [(inner, answer)]
        | .error _ => []
      else [(inner, input)]
  | .pipe source target =>
      (source, input) :: match evaluate source input with
        | .ok payload => if payload.isClean then [(target, payload.value)] else []
        | .error _ => []
  | .promise inner => if input.isAwaitable then [] else [(inner, input)]
  | .lazily target =>
      match environment.resolve target with
      | .ok resolved => [(resolved, input)]
      | .error _ => []
  | .reference tables identifier =>
      match input with
      | .record table value =>
          if (tables.filter fun permitted => !permitted.contains table).isSome then []
          else [(identifier, value)]
      | _ => []
  | _ => []

theorem mem_of_mem_tried {input : Value} {options : List Schema} {option : Schema}
    (member : option ∈ tried evaluate input options) : option ∈ options := by
  induction options with
  | nil => simp [tried] at member
  | cons first rest ih =>
      simp only [tried, List.mem_cons] at member
      rcases member with rfl | later
      · exact List.mem_cons_self
      · cases brought : evaluate first input with
        | error cause => simp [brought] at later
        | ok payload =>
            cases clean : payload.isClean with
            | true => simp [brought, clean] at later
            | false =>
                simp only [brought, clean, Bool.false_eq_true, if_false] at later
                exact List.mem_cons_of_mem _ (ih later)

theorem part_or_resolved_of_mem_runs {environment : Environment} {form : Form Schema}
    {input : Value} {run : Schema × Value} (member : run ∈ runs environment evaluate form input) :
    run.1 ∈ form.parts ∨
      ∃ target, form = .lazily target ∧ environment.resolve target = .ok run.1 := by
  have ofObject {shape : List (String × Schema)} {catchall : Option Schema}
      (among : run ∈ (objectRuns shape catchall input).map fun job => (job.schema, job.input)) :
      run.1 ∈ shape.map Prod.snd ++ catchall.toList := by
    obtain ⟨job, present, rfl⟩ := List.mem_map.mp among
    unfold objectRuns at present
    cases found : input.entries? with
    | none => simp [found] at present
    | some entries =>
        rw [found] at present
        exact Container.schema_of_mem_objectJobs present
  cases form with
  | object shape catchall => exact Or.inl (ofObject member)
  | table described => exact Or.inl (ofObject member)
  | array element least most =>
      obtain ⟨job, present, rfl⟩ := List.mem_map.mp member
      obtain ⟨index, item, -, rfl⟩ := Container.mem_indexedJobs present
      exact Or.inl (List.mem_singleton_self _)
  | set element least most =>
      obtain ⟨item, -, rfl⟩ := List.mem_map.mp member
      exact Or.inl (List.mem_singleton_self _)
  | tuple items rest =>
      simp only [runs] at member
      split at member
      · cases member
      · rename_i size
        simp only [Bool.or_eq_true, not_or] at size
        obtain ⟨job, present, rfl⟩ := List.mem_map.mp member
        exact Or.inl (Container.schema_of_mem_indexedJobs size.2 present)
  | record key value | map key value =>
      obtain ⟨job, present, rfl⟩ := List.mem_map.mp member
      obtain ⟨entry, -, rfl | rfl⟩ := Container.mem_keyedJobs present
      · exact Or.inl (by simp [Form.parts])
      · exact Or.inl (by simp [Form.parts])
  | union options =>
      obtain ⟨option, among, rfl⟩ := List.mem_map.mp member
      exact Or.inl (mem_of_mem_tried among)
  | intersection left right =>
      simp only [runs, List.mem_cons, List.not_mem_nil, or_false] at member
      rcases member with rfl | rfl
      · exact Or.inl (by simp [Form.parts])
      · exact Or.inl (by simp [Form.parts])
  | optional inner | default inner value | nullable inner | promise inner =>
      simp only [runs] at member
      split at member
      · cases member
      · rw [List.mem_singleton.mp member]
        exact Or.inl (List.mem_singleton_self _)
  | prefault inner value =>
      simp only [runs] at member
      split at member
      · cases supplied : (Wrapper.supplied value).outcome with
        | error other => simp [supplied] at member
        | ok answer =>
            simp only [supplied] at member
            rw [List.mem_singleton.mp member]
            exact Or.inl (List.mem_singleton_self _)
      · rw [List.mem_singleton.mp member]
        exact Or.inl (List.mem_singleton_self _)
  | nonoptional inner | readonly inner | fallback inner value =>
      rw [List.mem_singleton.mp member]
      exact Or.inl (List.mem_singleton_self _)
  | pipe source target =>
      simp only [runs, List.mem_cons] at member
      rcases member with rfl | inTarget
      · exact Or.inl (by simp [Form.parts])
      · cases brought : evaluate source input with
        | error other => simp [brought] at inTarget
        | ok payload =>
            cases clean : payload.isClean with
            | false => simp [brought, clean] at inTarget
            | true =>
                simp only [brought, clean, if_true] at inTarget
                rw [List.mem_singleton.mp inTarget]
                exact Or.inl (by simp [Form.parts])
  | lazily target =>
      cases resolves : environment.resolve target with
      | error other => simp [runs, resolves] at member
      | ok resolved =>
          simp only [runs, resolves] at member
          rw [List.mem_singleton.mp member]
          exact Or.inr ⟨target, rfl, resolves⟩
  | reference tables identifier =>
      cases input with
      | record table value =>
          simp only [runs] at member
          split at member
          · cases member
          · rw [List.mem_singleton.mp member]
            exact Or.inl (List.mem_singleton_self _)
      | _ => cases member
  | _ => cases member

theorem everywhere_of_mem_runs {environment : Environment} {property : Schema → Prop}
    {schema : Schema} {input : Value} {run : Schema × Value}
    (everywhere : schema.Everywhere environment property)
    (member : run ∈ runs environment evaluate schema.form input) :
    run.1.Everywhere environment property := by
  rcases part_or_resolved_of_mem_runs member with part | ⟨target, isLazy, resolves⟩
  · exact everywhere.part part
  · exact everywhere.resolved isLazy resolves

theorem object_eq_of_runs {shape : List (String × Schema)} {catchall : Option Schema}
    {input : Value}
    (agree : ∀ job ∈ objectRuns shape catchall input,
      evaluate job.schema job.input = other job.schema job.input) :
    object evaluate shape catchall input = object other shape catchall input := by
  unfold objectRuns at agree
  unfold object
  cases found : input.entries? with
  | none => rfl
  | some entries =>
      rw [found] at agree
      simp only [parts_congr agree]

theorem firstAccepting_eq_of_tried {options : List Schema} {input : Value}
    (agree : ∀ option ∈ tried evaluate input options, evaluate option input = other option input)
    (refusals : List (List Issue)) :
    firstAccepting evaluate input options refusals =
      firstAccepting other input options refusals := by
  induction options generalizing refusals with
  | nil => rfl
  | cons option rest ih =>
      have head := agree option (by simp [tried])
      simp only [firstAccepting, ← head]
      cases brought : evaluate option input with
      | error cause => rfl
      | ok payload =>
          cases clean : payload.isClean with
          | true => simp [Except.bind, clean]
          | false =>
              have further := ih fun next member =>
                agree next (by simp [tried, brought, clean, member])
              simp [Except.bind, clean, further]

/-- Two ways to evaluate that agree on what a form runs agree on the form. -/
theorem form_eq_of_runs {environment : Environment} {form : Form Schema} {input : Value}
    (agree : ∀ run ∈ runs environment evaluate form input,
      evaluate run.1 run.2 = other run.1 run.2) :
    Evaluation.form environment evaluate form input =
      Evaluation.form environment other form input := by
  have ofJobs (jobs : List Job)
      (same : ∀ run ∈ jobs.map fun job => (job.schema, job.input),
        evaluate run.1 run.2 = other run.1 run.2) :
      parts evaluate jobs = parts other jobs :=
    parts_congr fun job member => same _ (List.mem_map_of_mem member)
  cases form with
  | object shape catchall =>
      exact object_eq_of_runs fun job member => agree _ (List.mem_map_of_mem member)
  | table described =>
      exact object_eq_of_runs fun job member => agree _ (List.mem_map_of_mem member)
  | array element least most =>
      simp only [Evaluation.form, array]
      cases found : input.items? with
      | none => rfl
      | some items =>
          simp only [runs, found, Option.getD_some] at agree
          simp only [ofJobs _ agree]
  | set element least most =>
      simp only [Evaluation.form, Evaluation.set]
      cases found : input.members? with
      | none => rfl
      | some members =>
          simp only [runs, found, Option.getD_some] at agree
          have same := ofJobs (members.map fun member => ⟨.null, true, element, member⟩)
            (by simpa using agree)
          simp only [same]
  | tuple items rest =>
      simp only [Evaluation.form, tuple]
      cases found : input.items? with
      | none => rfl
      | some values =>
          simp only [runs, found, Option.getD_some] at agree
          by_cases few : values.length < Container.requiredCount items
          · simp only [few, if_true]
          · by_cases fits : (rest.isNone && decide (items.length < values.length)) = true
            · simp [fits]
            · simp only [few, decide_false, Bool.false_or, fits, Bool.false_eq_true, if_false]
                at agree
              simp only [ofJobs _ agree]
  | record key value | map key value =>
      simp only [Evaluation.form, keyed]
      cases found : input.entries? with
      | none => rfl
      | some entries =>
          simp only [runs, found, Option.getD_some] at agree
          simp only [ofJobs _ agree]
  | union options =>
      exact firstAccepting_eq_of_tried
        (fun option member => agree (option, input) (List.mem_map_of_mem member)) []
  | intersection left right =>
      have same := ofJobs
        [⟨.text "left", true, left, input⟩, ⟨.text "right", true, right, input⟩] agree
      simp only [Evaluation.form, intersection, same]
  | optional inner | default inner value =>
      simp only [Evaluation.form]
      split
      · rfl
      · rename_i present
        exact agree (inner, input) (by simp [runs, present])
  | nullable inner =>
      simp only [Evaluation.form]
      split
      · rfl
      · rename_i present
        exact agree (inner, input) (by simp [runs, present])
  | promise inner =>
      simp only [Evaluation.form]
      split
      · rfl
      · rename_i plain
        exact agree (inner, input) (by simp [runs, plain])
  | nonoptional inner | fallback inner value | readonly inner =>
      have same := agree (inner, input) (List.mem_singleton_self _)
      simp only at same
      simp only [Evaluation.form, same]
  | prefault inner value =>
      simp only [Evaluation.form]
      split
      · rename_i absent
        cases supplied : (Wrapper.supplied value).outcome with
        | error cause => rfl
        | ok answer => exact agree (inner, answer) (by simp [runs, absent, supplied])
      · rename_i present
        exact agree (inner, input) (by simp [runs, present])
  | pipe source target =>
      have same := agree (source, input) List.mem_cons_self
      simp only [Evaluation.form]
      rw [← same]
      cases brought : evaluate source input with
      | error cause => rfl
      | ok payload =>
          cases clean : payload.isClean with
          | false => simp [Except.bind, clean]
          | true =>
              have further := agree (target, payload.value) (by simp [runs, brought, clean])
              simpa [Except.bind, clean] using further
  | lazily target =>
      simp only [Evaluation.form]
      cases resolves : environment.resolve target with
      | error cause => rfl
      | ok resolved => exact agree (resolved, input) (by simp [runs, resolves])
  | reference tables identifier =>
      simp only [Evaluation.form, reference]
      cases input with
      | record table value =>
          cases foreign : tables.filter fun permitted => !permitted.contains table with
          | some permitted => simp only [foreign]
          | none =>
              have same := agree (identifier, value) (by
                simp only [runs, foreign, Option.isSome_none, Bool.false_eq_true, if_false]
                exact List.mem_singleton_self _)
              simp only at same
              simp only [foreign, same]
      | _ => rfl
  | custom check message => cases check <;> rfl
  | _ => rfl

end Evaluation
end TypedTables
