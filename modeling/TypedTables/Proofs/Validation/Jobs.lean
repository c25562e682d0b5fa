import TypedTables.Proofs.Schema.Reach
import TypedTables.Proofs.Validation.Evaluation

/-!
# The parts that containers run

Every job of a container runs one of the parts of its form, on absence or on something that the
input holds, under a key that is a name, an index or a key of the input. The results of several
jobs depend on how the schema of each is evaluated on its input, and on nothing else: jobs that are
run together settle to what each of them settles to on its own. So do wrappers, which go on with
what a part settles to.
-/

namespace TypedTables

namespace Container

theorem schema_fieldJob (entries : List (Value × Value)) (field : String × Schema) :
    (fieldJob entries field).schema = field.2 := by
  unfold fieldJob
  cases Value.find? (.text field.1) entries <;> rfl

theorem key_fieldJob (entries : List (Value × Value)) (field : String × Schema) :
    (fieldJob entries field).key = .text field.1 := by
  unfold fieldJob
  cases Value.find? (.text field.1) entries <;> rfl

theorem input_fieldJob (entries : List (Value × Value)) (field : String × Schema) :
    (fieldJob entries field).input = .undefined ∨
      ∃ entry ∈ entries, entry.2 = (fieldJob entries field).input := by
  unfold fieldJob
  cases found : Value.find? (.text field.1) entries with
  | none => exact Or.inl rfl
  | some item =>
      obtain ⟨entry, first, equal⟩ := Option.map_eq_some_iff.mp found
      exact Or.inr ⟨entry, List.mem_of_find?_eq_some first, equal⟩

theorem mem_objectJobs {shape : List (String × Schema)} {extraKeys : ExtraKeys}
    {entries : List (Value × Value)} {job : Job} (member : job ∈ objectJobs shape extraKeys entries) :
    (∃ field ∈ shape, job = fieldJob entries field) ∨
      ∃ schema entry, extraKeys = .validated schema ∧ entry ∈ entries ∧
        job = ⟨entry.1, true, schema, entry.2⟩ := by
  rcases List.mem_append.mp member with ofField | ofExtra
  · obtain ⟨field, present, rfl⟩ := List.mem_map.mp ofField
    exact Or.inl ⟨field, present, rfl⟩
  · cases extraKeys with
    | validated schema =>
        obtain ⟨entry, extra, rfl⟩ := List.mem_map.mp ofExtra
        exact Or.inr ⟨schema, entry, rfl, (List.mem_filter.mp extra).1, rfl⟩
    | _ => simp at ofExtra

theorem catchall_of_validated {catchall : Option Schema} {schema : Schema}
    (validated : ExtraKeys.ofCatchall catchall = .validated schema) : catchall = some schema := by
  cases catchall with
  | none => cases validated
  | some declared =>
      unfold ExtraKeys.ofCatchall at validated
      cases kind : declared.kind <;> simp [kind] at validated <;> rw [validated]

theorem schema_of_mem_objectJobs {shape : List (String × Schema)} {catchall : Option Schema}
    {entries : List (Value × Value)} {job : Job}
    (member : job ∈ objectJobs shape (.ofCatchall catchall) entries) :
    job.schema ∈ shape.map Prod.snd ++ catchall.toList := by
  rcases mem_objectJobs member with ⟨field, present, rfl⟩ | ⟨schema, entry, validated, -, rfl⟩
  · rw [schema_fieldJob]
    exact List.mem_append_left _ (List.mem_map_of_mem present)
  · rw [catchall_of_validated validated]
    exact List.mem_append_right _ (by simp)

theorem mem_indexedJobs {schemaAt : Nat → Schema} {items : List Value} {job : Job}
    (member : job ∈ indexedJobs schemaAt items) :
    ∃ index item, items[index]? = some item ∧
      job = ⟨.integer (Int.ofNat index), true, schemaAt index, item⟩ := by
  obtain ⟨⟨item, index⟩, present, rfl⟩ := List.mem_map.mp member
  exact ⟨index, item, List.mem_zipIdx_iff_getElem?.mp present, rfl⟩

/-- The schema at a place of a tuple is one of its parts, as long as the place is not beyond a
tuple that ends. -/
theorem schemaAt_mem {items : List Schema} {rest : Option Schema} {index size : Nat}
    (within : index < size) (fits : ¬(rest.isNone && decide (items.length < size)) = true) :
    Evaluation.schemaAt items rest index ∈ items ++ rest.toList := by
  unfold Evaluation.schemaAt
  cases found : items[index]? with
  | some schema => exact List.mem_append_left _ (List.mem_of_getElem? found)
  | none =>
      cases rest with
      | some schema => exact List.mem_append_right _ (by simp)
      | none =>
          have beyond := List.getElem?_eq_none_iff.mp found
          simp at fits
          omega

theorem schema_of_mem_indexedJobs {items : List Schema} {rest : Option Schema}
    {values : List Value} {job : Job}
    (fits : ¬(rest.isNone && decide (items.length < values.length)) = true)
    (member : job ∈ indexedJobs (Evaluation.schemaAt items rest) values) :
    job.schema ∈ items ++ rest.toList := by
  obtain ⟨index, item, present, rfl⟩ := mem_indexedJobs member
  obtain ⟨within, -⟩ := List.getElem?_eq_some_iff.mp present
  exact schemaAt_mem within fits

theorem mem_keyedJobs {key value : Schema} {entries : List (Value × Value)} {job : Job}
    (member : job ∈ keyedJobs key value entries) :
    ∃ entry ∈ entries,
      job = ⟨entry.1, true, key, entry.1⟩ ∨ job = ⟨entry.1, true, value, entry.2⟩ := by
  obtain ⟨entry, present, either⟩ := List.mem_flatMap.mp member
  exact ⟨entry, present, by simpa using either⟩

/-- The entries of the output that extra entries make when they are run. -/
def extraOutputs (extra : List (Value × Value)) (result : Value × Value → Payload) :
    List (Value × Value) :=
  extra.map fun entry => (entry.1, (result entry).value)

/-- The issues of extra entries that are run, each under its key. -/
def extraIssues (extra : List (Value × Value)) (result : Value × Value → Payload) : List Issue :=
  extra.flatMap fun entry => (result entry).issues.map (Issue.within entry.1)

def extraEntry (result : Value × Value → Payload) (entry : Value × Value) : Entry Payload :=
  ⟨entry.1, true, result entry⟩

theorem outputEntries_append_extraEntry (done : List (Entry Payload)) (extra : List (Value × Value))
    (result : Value × Value → Payload) :
    outputEntries (done ++ extra.map (extraEntry result)) =
      outputEntries done ++ extraOutputs extra result := by
  rw [outputEntries, List.filterMap_append, List.filterMap_map]
  simp [outputEntries, extraOutputs, extraEntry, Function.comp_def]

theorem issuesUnderKeys_append_extraEntry (done : List (Entry Payload))
    (extra : List (Value × Value)) (result : Value × Value → Payload) :
    issuesUnderKeys (done ++ extra.map (extraEntry result)) =
      issuesUnderKeys done ++ extraIssues extra result := by
  rw [issuesUnderKeys, List.flatMap_append, List.flatMap_map]
  rfl

/-- What an extra entry brings that is copied without being run. -/
def copied (entry : Value × Value) : Payload := .accept entry.2

@[simp] theorem extraOutputs_copied (extra : List (Value × Value)) :
    extraOutputs extra copied = extra := by
  simp [extraOutputs, copied, Payload.accept]

@[simp] theorem extraIssues_copied (extra : List (Value × Value)) :
    extraIssues extra copied = [] := by
  simp [extraIssues, copied, Payload.accept]

theorem issuesUnderKeys_append_kept (done : List (Entry Payload)) (kept : List (Value × Value)) :
    issuesUnderKeys (done ++ kept.map fun entry => ⟨entry.1, true, .accept entry.2⟩) =
      issuesUnderKeys done :=
  (issuesUnderKeys_append_extraEntry done kept copied).trans (by simp)

theorem outputEntries_append_kept (done : List (Entry Payload)) (kept : List (Value × Value)) :
    outputEntries (done ++ kept.map fun entry => ⟨entry.1, true, .accept entry.2⟩) =
      outputEntries done ++ kept :=
  (outputEntries_append_extraEntry done kept copied).trans (by simp)

theorem mem_of_collectMembers {values members collected : List Value} {value : Value}
    (collects : collectMembers values members = .ok collected) (member : value ∈ collected) :
    value ∈ values ∨ value ∈ members := by
  induction values generalizing members with
  | nil =>
      cases collects
      exact Or.inr member
  | cons added rest ih =>
      rw [collectMembers] at collects
      cases unhashable : added.unhashableClass? with
      | some className => simp [unhashable] at collects
      | none =>
          rw [unhashable] at collects
          rcases ih collects with later | present
          · exact Or.inl (by simp [later])
          · unfold Value.addMember at present
            split at present
            · exact Or.inr present
            · rcases List.mem_append.mp present with before | single
              · exact Or.inr before
              · exact Or.inl (by simp [List.mem_singleton.mp single])

/-- What holds of the collection at the start, and is kept when a result is put under another, holds
of the collection in the end. -/
theorem value_of_assembleKeyed (property : Value → Prop) {label : String}
    {entries : List (Entry Payload)} {start payload : Payload}
    (puts : ∀ keyEntry ∈ entries, ∀ valueEntry ∈ entries, ∀ current, property current →
      property (.mapping (Value.put keyEntry.result.value valueEntry.result.value
        (current.entries?.getD []))))
    (starts : property start.value)
    (assembles : assembleKeyed label entries start = .ok payload) : property payload.value := by
  fun_induction assembleKeyed label entries start with
  | case1 keyEntry valueEntry rest start refused ih =>
      obtain ⟨issue, -, remaining⟩ := (except_bind_eq_ok_iff _ _ _).mp assembles
      exact ih issue (fun key isKey value isValue => puts key (by simp [isKey]) value (by simp [isValue]))
        starts remaining
  | case2 keyEntry valueEntry rest start accepted issues absent ih =>
      exact ih (fun key isKey value isValue => puts key (by simp [isKey]) value (by simp [isValue]))
        starts assembles
  | case3 => cases assembles
  | case4 keyEntry valueEntry rest start accepted issues present hashable output ih =>
      exact ih (fun key isKey value isValue => puts key (by simp [isKey]) value (by simp [isValue]))
        (puts keyEntry (by simp) valueEntry (by simp) _ starts) assembles
  | case5 =>
      cases assembles
      exact starts

end Container

namespace Evaluation

variable {evaluate other : Evaluator}

theorem mem_of_parts {jobs : List Job} {done : List (Entry Payload)} {entry : Entry Payload}
    (evaluated : parts evaluate jobs = .ok done) (member : entry ∈ done) :
    ∃ job ∈ jobs, evaluate job.schema job.input = .ok entry.result ∧ entry.key = job.key := by
  obtain ⟨job, present, equal⟩ := exists_mem_of_mapM_eq_ok evaluated member
  obtain ⟨payload, comes, rfl⟩ := (except_map_eq_ok_iff _ _ _).mp equal
  exact ⟨job, present, comes, rfl⟩

theorem parts_cons_eq_ok_iff (job : Job) (rest : List Job) (done : List (Entry Payload)) :
    parts evaluate (job :: rest) = .ok done ↔
      ∃ payload others, evaluate job.schema job.input = .ok payload ∧
        parts evaluate rest = .ok others ∧ done = ⟨job.key, job.present, payload⟩ :: others := by
  rw [parts, List.mapM_cons]
  constructor
  · intro evaluated
    obtain ⟨entry, first, remaining⟩ := (except_bind_eq_ok_iff _ _ _).mp evaluated
    obtain ⟨payload, comes, rfl⟩ := (except_map_eq_ok_iff _ _ _).mp first
    obtain ⟨others, later, equal⟩ := (except_bind_eq_ok_iff _ _ _).mp remaining
    exact ⟨payload, others, comes, later, (Except.ok.inj equal).symm⟩
  · rintro ⟨payload, others, comes, later, rfl⟩
    rw [parts] at later
    rw [comes, later]
    rfl

theorem parts_keyedJobs_cons_eq_ok_iff (key value : Schema) (entry : Value × Value)
    (rest : List (Value × Value)) (done : List (Entry Payload)) :
    parts evaluate (Container.keyedJobs key value (entry :: rest)) = .ok done ↔
      ∃ keyPayload payload others, evaluate key entry.1 = .ok keyPayload ∧
        evaluate value entry.2 = .ok payload ∧
        parts evaluate (Container.keyedJobs key value rest) = .ok others ∧
        done = ⟨entry.1, true, keyPayload⟩ :: ⟨entry.1, true, payload⟩ :: others := by
  change parts evaluate (⟨entry.1, true, key, entry.1⟩ :: ⟨entry.1, true, value, entry.2⟩ ::
    Container.keyedJobs key value rest) = .ok done ↔ _
  rw [parts_cons_eq_ok_iff]
  constructor
  · rintro ⟨keyPayload, results, ofKey, others, rfl⟩
    obtain ⟨payload, later, ofValue, further, rfl⟩ := (parts_cons_eq_ok_iff _ _ _).mp others
    exact ⟨keyPayload, payload, later, ofKey, ofValue, further, rfl⟩
  · rintro ⟨keyPayload, payload, others, ofKey, ofValue, further, rfl⟩
    exact ⟨keyPayload, _, ofKey, (parts_cons_eq_ok_iff _ _ _).mpr
      ⟨payload, others, ofValue, further, rfl⟩, rfl⟩

theorem parts_map_eq_ok_iff {α : Type} (jobOf : α → Job) (items : List α)
    (done : List (Entry Payload)) :
    parts evaluate (items.map jobOf) = .ok done ↔
      ∃ result : α → Payload,
        (∀ item ∈ items, evaluate (jobOf item).schema (jobOf item).input = .ok (result item)) ∧
        done = items.map fun item => ⟨(jobOf item).key, (jobOf item).present, result item⟩ := by
  constructor
  · intro evaluated
    let result (item : α) : Payload :=
      (evaluate (jobOf item).schema (jobOf item).input).toOption.getD (.accept .undefined)
    have brings (item : α) (member : item ∈ items) :
        evaluate (jobOf item).schema (jobOf item).input = .ok (result item) := by
      obtain ⟨entry, succeeds⟩ := exists_ok_of_mapM_eq_ok evaluated (List.mem_map_of_mem member)
      obtain ⟨payload, comes, -⟩ := (except_map_eq_ok_iff _ _ _).mp succeeds
      simp [result, comes, Except.toOption]
    refine ⟨result, brings, map_ok_injective (ε := Fault) ?_⟩
    rw [parts, mapM_eq_ok_iff, List.map_map] at evaluated
    rw [← evaluated, List.map_map]
    exact List.map_congr_left fun item member => by simp [brings item member, Except.map]
  · rintro ⟨result, brings, rfl⟩
    rw [parts, mapM_eq_ok_iff, List.map_map, List.map_map]
    exact List.map_congr_left fun item member => by simp [brings item member, Except.map]

theorem parts_append_eq_ok_iff (first second : List Job) (done : List (Entry Payload)) :
    parts evaluate (first ++ second) = .ok done ↔
      ∃ earlier later, done = earlier ++ later ∧ parts evaluate first = .ok earlier ∧
        parts evaluate second = .ok later := by
  simp only [parts, mapM_eq_ok_iff, List.map_append]
  constructor
  · intro evaluated
    obtain ⟨earlier, later, same, ofFirst, ofSecond⟩ := List.append_eq_map_iff.mp evaluated
    exact ⟨earlier, later, same, ofFirst.symm, ofSecond.symm⟩
  · rintro ⟨earlier, later, rfl, ofFirst, ofSecond⟩
    rw [ofFirst, ofSecond, List.map_append]

theorem parts_congr {jobs : List Job}
    (agree : ∀ job ∈ jobs, evaluate job.schema job.input = other job.schema job.input) :
    parts evaluate jobs = parts other jobs := by
  induction jobs with
  | nil => rfl
  | cons job rest ih =>
      have head := agree job (by simp)
      have tail := ih fun next member => agree next (by simp [member])
      unfold parts at tail ⊢
      rw [List.mapM_cons, List.mapM_cons, head, tail]

end Evaluation

/-- What a schema settles to when it is run on a value on its own. -/
def Validator.alone (validate : Validator) : Evaluator := fun schema input =>
  (validate schema input).settled

section Alone

variable {validate : Validator}

/-- Parts that have been run settle to what each of them settles to on its own, under its own
key. -/
theorem exists_settled_fanOut_iff (jobs : List Job) (done : List (Entry Payload)) :
    (∃ results, (fanOut validate jobs).outcome = .ok results ∧
        results.map Entry.settled = done.map .ok) ↔
      Evaluation.parts validate.alone jobs = .ok done := by
  rw [fanOut, Traced.outcome_forEach, ← mapM_bind_eq_ok_iff, Evaluation.parts]
  have same (job : Job) :
      ((validate job.schema job.input).andThen fun result =>
          .result (⟨job.key, job.present, result⟩ : Entry (Progress Payload))).outcome.bind
            Entry.settled =
        (validate.alone job.schema job.input).map fun payload =>
          ⟨job.key, job.present, payload⟩ := by
    rw [Traced.outcome_andThen, Validator.alone, Traced.settled]
    cases (validate job.schema job.input).outcome <;> rfl
  simp only [same]

/-- Parts that are run before something goes on with their results. What goes on may join them,
with other entries beside, as long as it settles to what `assemble` makes of the settled parts. -/
theorem settled_fanOut_andThen_eq_ok_iff (jobs : List Job)
    {next : List (Entry (Progress Payload)) → Traced (Progress Payload)}
    {assemble : List (Entry Payload) → Except Fault Payload}
    (joins : ∀ results payload, (next results).settled = .ok payload ↔
      ∃ done, results.map Entry.settled = done.map .ok ∧ assemble done = .ok payload)
    (payload : Payload) :
    ((fanOut validate jobs).andThen next).settled = .ok payload ↔
      (Evaluation.parts validate.alone jobs).bind assemble = .ok payload := by
  rw [Traced.settled_andThen, except_bind_eq_ok_iff, except_bind_eq_ok_iff]
  constructor
  · rintro ⟨results, runs, joined⟩
    obtain ⟨done, settled, assembled⟩ := (joins results payload).mp joined
    exact ⟨done, (exists_settled_fanOut_iff jobs done).mp ⟨results, runs, settled⟩, assembled⟩
  · rintro ⟨done, evaluated, assembled⟩
    obtain ⟨results, runs, settled⟩ := (exists_settled_fanOut_iff jobs done).mpr evaluated
    exact ⟨results, runs, (joins results payload).mpr ⟨done, settled, assembled⟩⟩

theorem settled_fanOut_joinEntries_eq_ok_iff (jobs : List Job)
    (assemble : List (Entry Payload) → Except Fault Payload) (payload : Payload) :
    ((fanOut validate jobs).andThen fun results => joinEntries results assemble).settled =
        .ok payload ↔
      ∃ done, Evaluation.parts validate.alone jobs = .ok done ∧ assemble done = .ok payload := by
  rw [settled_fanOut_andThen_eq_ok_iff jobs fun results final =>
    settled_joinEntries_eq_ok_iff results assemble final]
  exact except_bind_eq_ok_iff _ _ _

end Alone

theorem exists_settled_of_andThen {first : Traced (Progress Payload)}
    {next : Payload → Traced (Progress Payload)} {payload : Payload}
    (settles : (first.andThen fun progress => progress.andThen next).settled = .ok payload) :
    ∃ result, first.settled = .ok result ∧ (next result).settled = .ok payload := by
  rw [Traced.settled_andThen_andThen] at settles
  exact (except_bind_eq_ok_iff _ _ _).mp settles

theorem settled_afterwards {first : Traced (Progress Payload)} {next : Payload → Traced Payload}
    {payload : Payload} (comes : (Wrapper.afterwards first next).settled = .ok payload) :
    ∃ result, first.settled = .ok result ∧ (next result).outcome = .ok payload := by
  rw [Wrapper.afterwards, Traced.settled_andThen_andThen] at comes
  obtain ⟨result, settled, continued⟩ := (except_bind_eq_ok_iff _ _ _).mp comes
  rw [Traced.settled_andThen] at continued
  obtain ⟨final, brought, equal⟩ := (except_bind_eq_ok_iff _ _ _).mp continued
  cases equal
  exact ⟨result, settled, brought⟩

theorem Value.awaited_of_not_awaitable {value : Value} (plain : value.isAwaitable = false) :
    value.awaited = .now (.ok value) := by
  cases value with
  | awaitable token outcome => cases plain
  | _ => rfl

theorem Value.outcome_awaited_awaitable (token : Nat) (outcome : Except Fault Value) :
    (awaitable token outcome).awaited.outcome = outcome := by
  rw [awaited]
  split <;> rfl

theorem Value.outcomes_awaitedTogether (spent : List Nat) (values : List Value) :
    (awaitedTogether spent values).map Deferred.outcome =
      values.map fun value => value.awaited.outcome := by
  induction values generalizing spent with
  | nil => rfl
  | cons value rest ih =>
      cases value with
      | awaitable token outcome =>
          simp only [awaitedTogether, List.map_cons, ih, List.cons.injEq, and_true,
            outcome_awaited_awaitable]
          split
          · rfl
          · exact outcome_awaited_awaitable token outcome
      | _ => simp only [awaitedTogether, List.map_cons, ih]

namespace Wrapper

/-- Where an answer is awaited if it has to be, something goes on with what awaiting it brings. -/
theorem exists_answer_of_settled {mode : ParseMode} {answer : Value} {next : Value → Payload}
    {payload : Payload} (settles : (withAnswer mode answer next).settled = .ok payload) :
    ∃ result : Value, answer.awaited.outcome = .ok result ∧ payload = next result := by
  unfold withAnswer at settles
  rw [Traced.settled_andThen] at settles
  obtain ⟨_, -, remaining⟩ := (except_bind_eq_ok_iff _ _ _).mp settles
  split at remaining
  · rw [Traced.settled_result, Progress.settled_pending, Deferred.outcome_map] at remaining
    obtain ⟨result, brings, equal⟩ := (except_bind_eq_ok_iff _ _ _).mp remaining
    cases equal
    exact ⟨result, brings, rfl⟩
  · rename_i plain
    cases remaining
    rw [Value.awaited_of_not_awaitable (Bool.eq_false_iff.mpr plain)]
    exact ⟨answer, rfl, rfl⟩

theorem eq_or_judge_of_settled_refine {mode : ParseMode} {refinements : List Refinement}
    {payload answer : Payload}
    (settled : (refine mode refinements payload).settled = .ok answer) :
    answer = payload ∨ ∃ verdicts, answer = judge refinements payload.value verdicts := by
  unfold refine at settled
  split at settled
  · cases settled
    exact Or.inl rfl
  · rw [Traced.settled_andThen] at settled
    obtain ⟨answers, -, judged⟩ := (except_bind_eq_ok_iff _ _ _).mp settled
    split at judged
    · rw [Traced.settled_result, Progress.settled_pending, Deferred.outcome_map] at judged
      obtain ⟨verdicts, -, equal⟩ := (except_bind_eq_ok_iff _ _ _).mp judged
      exact Or.inr ⟨verdicts, (Except.ok.inj equal).symm⟩
    · exact Or.inr ⟨answers, (Except.ok.inj judged).symm⟩

end Wrapper

theorem settled_refine_nil {mode : ParseMode} (payload : Payload) :
    (Wrapper.refine mode [] payload).settled = .ok payload := by
  rcases payload with ⟨value, issues⟩
  unfold Wrapper.refine
  split
  · rfl
  · rename_i clean
    cases issues with
    | nil => rfl
    | cons issue rest => simp [Payload.isClean] at clean

/-- A schema settles to what its refinements make of what its form settles to. -/
theorem Validation.exists_formed_of_settled {scope : ParseScope} {validate : Validator}
    {schema : Schema} {input : Value} {payload : Payload}
    (settles : (runSchema scope validate schema input).settled = .ok payload) :
    ∃ formed, (runForm scope validate schema.form input).settled = .ok formed ∧
      (Wrapper.refine scope.mode schema.refinements formed).settled = .ok payload := by
  unfold runSchema at settles
  by_cases plain : schema.refinements.isEmpty = true
  · rw [if_pos plain] at settles
    rw [List.isEmpty_iff.mp plain]
    exact ⟨payload, settles, settled_refine_nil payload⟩
  · rw [if_neg plain] at settles
    exact exists_settled_of_andThen settles

theorem value_of_settled_refine {mode : ParseMode} {refinements : List Refinement}
    {payload answer : Payload}
    (settled : (Wrapper.refine mode refinements payload).settled = .ok answer) :
    answer.value = payload.value := by
  rcases Wrapper.eq_or_judge_of_settled_refine settled with rfl | ⟨verdicts, rfl⟩ <;> rfl

end TypedTables
