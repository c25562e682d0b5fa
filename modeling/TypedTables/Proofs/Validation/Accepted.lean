import TypedTables.Proofs.Validation.Jobs
import TypedTables.Proofs.Validation.Leaves

/-!
# What schemas accept

The data that a schema brings without issues, for whatever input and to whatever depth. What a form
accepts is said by what its parts accept; the refinements of a schema never change it.
-/

namespace TypedTables

/-- Some evaluation of the schema brings the data without issues. -/
def Schema.Accepts (environment : Environment) (schema : Schema) (data : Value) : Prop :=
  ∃ limit input payload, Evaluation.within environment limit schema input = .ok payload ∧
    payload.isClean = true ∧ payload.value = data

/-- Some evaluation of the form brings the data without issues. -/
def Form.Accepts (environment : Environment) (form : Form Schema) (data : Value) : Prop :=
  ∃ limit input payload,
    Evaluation.form environment (Evaluation.within environment limit) form input = .ok payload ∧
      payload.isClean = true ∧ payload.value = data

theorem Evaluation.refine_clean {refinements : List Refinement} {payload final : Payload}
    (refines : Evaluation.refine refinements payload = .ok final) (clean : final.isClean = true) :
    payload.isClean = true ∧ final.value = payload.value := by
  unfold Evaluation.refine at refines
  split at refines
  · cases refines
    exact ⟨clean, rfl⟩
  · rename_i checked
    obtain ⟨verdicts, -, rfl⟩ := (except_map_eq_ok_iff _ _ _).mp refines
    rw [Bool.or_eq_true, not_or] at checked
    exact ⟨by simpa using checked.1, rfl⟩

theorem Schema.Accepts.form {environment : Environment} {schema : Schema} {data : Value}
    (accepts : schema.Accepts environment data) : schema.form.Accepts environment data := by
  obtain ⟨limit, input, final, evaluates, clean, rfl⟩ := accepts
  cases limit with
  | zero => cases evaluates
  | succ limit =>
      obtain ⟨payload, formed, refines⟩ := (except_bind_eq_ok_iff _ _ _).mp evaluates
      obtain ⟨cleanForm, same⟩ := Evaluation.refine_clean refines clean
      exact ⟨limit, input, payload, formed, cleanForm, same.symm⟩

namespace Form.Accepts

variable {environment : Environment} {data : Value} {inner element : Schema}

theorem optional (accepts : (Form.optional inner).Accepts environment data) :
    data.isUndefined = true ∨ inner.Accepts environment data := by
  obtain ⟨limit, input, payload, evaluates, clean, rfl⟩ := accepts
  change (if input.isUndefined then .ok (.accept input)
    else Evaluation.within environment limit inner input) = .ok payload at evaluates
  split at evaluates
  · rename_i absent
    cases evaluates
    exact Or.inl absent
  · exact Or.inr ⟨limit, input, payload, evaluates, clean, rfl⟩

theorem nullable (accepts : (Form.nullable inner).Accepts environment data) :
    data.isNull = true ∨ inner.Accepts environment data := by
  obtain ⟨limit, input, payload, evaluates, clean, rfl⟩ := accepts
  change (if input.isNull then .ok (.accept input)
    else Evaluation.within environment limit inner input) = .ok payload at evaluates
  split at evaluates
  · rename_i null
    cases evaluates
    exact Or.inl null
  · exact Or.inr ⟨limit, input, payload, evaluates, clean, rfl⟩

theorem nonoptional (accepts : (Form.nonoptional inner).Accepts environment data) :
    data.isUndefined = false ∧ inner.Accepts environment data := by
  obtain ⟨limit, input, final, evaluates, clean, rfl⟩ := accepts
  obtain ⟨payload, evaluatesInner, rfl⟩ := (except_map_eq_ok_iff _ _ _).mp evaluates
  unfold Wrapper.demandPresent at clean ⊢
  split at clean
  · cases clean
  · rename_i present
    rw [if_neg present]
    have isPresent : payload.value.isUndefined = false := by simpa [clean] using present
    exact ⟨isPresent, limit, input, payload, evaluatesInner, clean, rfl⟩

theorem prefault {value : Value} (accepts : (Form.prefault inner value).Accepts environment data) :
    inner.Accepts environment data := by
  obtain ⟨limit, input, payload, evaluates, clean, rfl⟩ := accepts
  change (if input.isUndefined then (Wrapper.supplied value).outcome.bind
      (Evaluation.within environment limit inner)
    else Evaluation.within environment limit inner input) = .ok payload at evaluates
  split at evaluates
  · obtain ⟨answer, -, evaluatesInner⟩ := (except_bind_eq_ok_iff _ _ _).mp evaluates
    exact ⟨limit, answer, payload, evaluatesInner, clean, rfl⟩
  · exact ⟨limit, input, payload, evaluates, clean, rfl⟩

theorem readonly (accepts : (Form.readonly inner).Accepts environment data) :
    ∃ thawed, inner.Accepts environment thawed ∧ data = Wrapper.freeze thawed := by
  obtain ⟨limit, input, final, evaluates, clean, rfl⟩ := accepts
  obtain ⟨payload, evaluatesInner, rfl⟩ := (except_map_eq_ok_iff _ _ _).mp evaluates
  unfold Wrapper.freezeClean at clean ⊢
  by_cases cleanInner : payload.isClean = true
  · rw [if_pos cleanInner]
    exact ⟨payload.value, ⟨limit, input, payload, evaluatesInner, cleanInner, rfl⟩, rfl⟩
  · rw [if_neg cleanInner] at clean
    exact absurd clean cleanInner

theorem lazily {target : LazyTarget Schema}
    (accepts : (Form.lazily target).Accepts environment data) :
    ∃ resolved, environment.resolve target = .ok resolved ∧ resolved.Accepts environment data := by
  obtain ⟨limit, input, payload, evaluates, clean, rfl⟩ := accepts
  obtain ⟨resolved, resolves, evaluatesResolved⟩ := (except_bind_eq_ok_iff _ _ _).mp evaluates
  exact ⟨resolved, resolves, limit, input, payload, evaluatesResolved, clean, rfl⟩

theorem firstAccepting {evaluate : Evaluator} {input : Value} {options : List Schema}
    {refusals : List (List Issue)} {payload : Payload}
    (evaluates : Evaluation.firstAccepting evaluate input options refusals = .ok payload)
    (clean : payload.isClean = true) :
    ∃ option ∈ options, ∃ accepted, evaluate option input = .ok accepted ∧
      accepted.isClean = true ∧ accepted.value = payload.value := by
  induction options generalizing refusals with
  | nil =>
      cases evaluates
      cases clean
  | cons option rest ih =>
      rw [Evaluation.firstAccepting] at evaluates
      obtain ⟨accepted, evaluatesOption, further⟩ := (except_bind_eq_ok_iff _ _ _).mp evaluates
      split at further
      · rename_i cleanOption
        cases further
        exact ⟨option, by simp, accepted, evaluatesOption, cleanOption, rfl⟩
      · obtain ⟨later, member, found⟩ := ih further
        exact ⟨later, by simp [member], found⟩

theorem union {options : List Schema} (accepts : (Form.union options).Accepts environment data) :
    ∃ option ∈ options, option.Accepts environment data := by
  obtain ⟨limit, input, payload, evaluates, clean, rfl⟩ := accepts
  obtain ⟨option, member, accepted, found⟩ := firstAccepting evaluates clean
  exact ⟨option, member, limit, input, accepted, found⟩

theorem result_clean_of_issuesUnderKeys {entries : List (Entry Payload)} {entry : Entry Payload}
    (none : Container.issuesUnderKeys entries = []) (member : entry ∈ entries) :
    entry.result.isClean = true := by
  rw [Container.issuesUnderKeys, List.flatMap_eq_nil_iff] at none
  exact List.isEmpty_iff.mpr (List.map_eq_nil_iff.mp (none entry member))

theorem array {least most : Option Value}
    (accepts : (Form.array element least most).Accepts environment data) :
    ∃ items, data = .list items ∧ ∀ item ∈ items, element.Accepts environment item := by
  obtain ⟨limit, input, payload, evaluates, clean, rfl⟩ := accepts
  change Evaluation.array _ element least most input = .ok payload at evaluates
  unfold Evaluation.array at evaluates
  split at evaluates
  · cases evaluates
    cases clean
  · obtain ⟨sizes, -, remaining⟩ := (except_bind_eq_ok_iff _ _ _).mp evaluates
    obtain ⟨done, evaluated, rfl⟩ := (except_map_eq_ok_iff _ _ _).mp remaining
    refine ⟨_, rfl, ?_⟩
    intro item member
    obtain ⟨entry, present, rfl⟩ := List.mem_map.mp member
    obtain ⟨job, isJob, comes, -⟩ := Evaluation.mem_of_parts evaluated present
    obtain ⟨index, value, -, rfl⟩ := Container.mem_indexedJobs isJob
    have none := List.append_eq_nil_iff.mp (List.isEmpty_iff.mp clean)
    exact ⟨limit, value, entry.result, comes, result_clean_of_issuesUnderKeys none.2 present, rfl⟩

theorem set {least most : Option Value}
    (accepts : (Form.set element least most).Accepts environment data) :
    ∃ members, data = .set members ∧ ∀ member ∈ members, element.Accepts environment member := by
  obtain ⟨limit, input, payload, evaluates, clean, rfl⟩ := accepts
  change Evaluation.set _ element least most input = .ok payload at evaluates
  unfold Evaluation.set at evaluates
  split at evaluates
  · cases evaluates
    cases clean
  · obtain ⟨sizes, -, remaining⟩ := (except_bind_eq_ok_iff _ _ _).mp evaluates
    obtain ⟨done, evaluated, assembles⟩ := (except_bind_eq_ok_iff _ _ _).mp remaining
    obtain ⟨members, collects, rfl⟩ := (except_map_eq_ok_iff _ _ _).mp assembles
    refine ⟨members, rfl, ?_⟩
    intro member collected
    rcases Container.mem_of_collectMembers collects collected with brought | present
    · obtain ⟨entry, isDone, rfl⟩ := List.mem_map.mp brought
      obtain ⟨job, isJob, comes, -⟩ := Evaluation.mem_of_parts evaluated isDone
      obtain ⟨value, -, rfl⟩ := List.mem_map.mp isJob
      have none := (List.append_eq_nil_iff.mp (List.isEmpty_iff.mp clean)).2
      have noneHere := List.flatMap_eq_nil_iff.mp none entry isDone
      exact ⟨limit, value, entry.result, comes, List.isEmpty_iff.mpr noneHere, rfl⟩
    · cases present

theorem tuple {items : List Schema} {rest : Option Schema}
    (accepts : (Form.tuple items rest).Accepts environment data) :
    ∃ values, data = .list values := by
  obtain ⟨limit, input, payload, evaluates, clean, rfl⟩ := accepts
  change Evaluation.tuple _ items rest input = .ok payload at evaluates
  unfold Evaluation.tuple at evaluates
  split at evaluates
  · cases evaluates
    cases clean
  · simp only at evaluates
    split at evaluates
    · cases evaluates
      cases clean
    · split at evaluates
      · cases evaluates
        cases clean
      · obtain ⟨done, -, rfl⟩ := (except_map_eq_ok_iff _ _ _).mp evaluates
        exact ⟨_, rfl⟩

theorem object {shape : List (String × Schema)} {catchall : Option Schema}
    (accepts : (Form.object shape catchall).Accepts environment data) :
    ∃ entries, data = .mapping entries := by
  obtain ⟨limit, input, payload, evaluates, clean, rfl⟩ := accepts
  change Evaluation.object _ shape catchall input = .ok payload at evaluates
  unfold Evaluation.object at evaluates
  split at evaluates
  · cases evaluates
    cases clean
  · obtain ⟨done, -, assembles⟩ := (except_bind_eq_ok_iff _ _ _).mp evaluates
    split at assembles
    · obtain ⟨refused, -, rfl⟩ := (except_map_eq_ok_iff _ _ _).mp assembles
      exact ⟨_, rfl⟩
    all_goals
      cases assembles
      exact ⟨_, rfl⟩

theorem keyed {label : String} {key value : Schema} {evaluate : Evaluator} {input : Value}
    {payload : Payload} (evaluates : Evaluation.keyed evaluate label key value input = .ok payload)
    (clean : payload.isClean = true) : ∃ entries, payload.value = .mapping entries := by
  unfold Evaluation.keyed at evaluates
  split at evaluates
  · cases evaluates
    cases clean
  · obtain ⟨done, -, assembles⟩ := (except_bind_eq_ok_iff _ _ _).mp evaluates
    exact Container.value_of_assembleKeyed (fun value => ∃ entries, value = .mapping entries)
      (fun _ _ _ _ _ _ => ⟨_, rfl⟩) ⟨_, rfl⟩ assembles

theorem record {key value : Schema} (accepts : (Form.record key value).Accepts environment data) :
    ∃ entries, data = .mapping entries := by
  obtain ⟨limit, input, payload, evaluates, clean, rfl⟩ := accepts
  exact keyed evaluates clean

theorem map {key value : Schema} (accepts : (Form.map key value).Accepts environment data) :
    ∃ entries, data = .mapping entries := by
  obtain ⟨limit, input, payload, evaluates, clean, rfl⟩ := accepts
  exact keyed evaluates clean

theorem reference {tables : Option (List String)} {identifier : Schema}
    (accepts : (Form.reference tables identifier).Accepts environment data) :
    ∃ table value, data = .record table value ∧
      ∀ permitted, tables = some permitted → table ∈ permitted := by
  obtain ⟨limit, input, payload, evaluates, clean, rfl⟩ := accepts
  change Evaluation.reference _ tables identifier input = .ok payload at evaluates
  unfold Evaluation.reference at evaluates
  cases input with
  | record table value =>
      simp only at evaluates
      split at evaluates
      · cases evaluates
        cases clean
      · rename_i permits
        obtain ⟨brought, -, rfl⟩ := (except_map_eq_ok_iff _ _ _).mp evaluates
        unfold Wrapper.rebuildRecord at clean ⊢
        by_cases cleanIdentifier : brought.isClean = true
        · rw [if_pos cleanIdentifier]
          refine ⟨table, brought.value, rfl, ?_⟩
          rintro permitted rfl
          simpa using permits
        · rw [if_neg cleanIdentifier] at clean
          simp only [Payload.isClean, List.isEmpty_map] at clean
          exact absurd clean cleanIdentifier
  | _ =>
      cases evaluates
      cases clean

theorem leaf {form : Form Schema} (isLeaf : ∀ input, (Leaf.payload? form input).isSome = true)
    (accepts : form.Accepts environment data) :
    ∃ input payload, Leaf.payload? form input = some (.ok payload) ∧ payload.isClean = true ∧
      payload.value = data := by
  obtain ⟨limit, input, payload, evaluates, found⟩ := accepts
  obtain ⟨outcome, brings⟩ := Option.isSome_iff_exists.mp (isLeaf input)
  rw [Evaluation.form_leaf brings] at evaluates
  rw [evaluates] at brings
  exact ⟨input, payload, brings, found⟩

end Form.Accepts
end TypedTables
