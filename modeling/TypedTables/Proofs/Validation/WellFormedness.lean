import TypedTables.Proofs.Validation.Catchalls
import TypedTables.Proofs.Validation.Repeating
import TypedTables.Proofs.Validation.Shown
import TypedTables.Proofs.Value.Merging

/-!
# Well-formed outputs

From well-formed values a run makes well-formed values: the keys of each mapping that it puts
together are distinct, and so are the members of each set. This holds in a schema whose objects have
different field names, whose stand-ins for absent and for refused values are well formed, and whose
user functions make well-formed values.
-/

namespace TypedTables

/-! ## Values -/

namespace Value

variable {value : Value}

/-- A value that is neither a mapping nor a set is well formed when the values inside it are. -/
theorem isWellFormed_of_parts (noEntries : value.entries? = none)
    (noMembers : value.members? = none) (each : ∀ part ∈ value.parts, part.IsWellFormed) : value.IsWellFormed :=
  .intro (by simp [noEntries]) (by simp [noMembers]) each

theorem isWellFormed_set {members : List Value} (distinct : Distinct members)
    (each : ∀ member ∈ members, member.IsWellFormed) : (Value.set members).IsWellFormed := by
  refine .intro (fun _ isEntries => by cases isEntries) (fun _ isMembers => ?_) each
  cases isMembers
  exact distinct

theorem isWellFormed_freeze (wellFormed : value.IsWellFormed) :
    (Wrapper.freeze value).IsWellFormed := by
  cases wellFormed with
  | intro keys members parts => cases value <;> exact .intro keys members parts

end Value

/-! ## User functions -/

namespace Operation

open Value

theorem isWellFormed_apply {operation : Operation} {value answer : Value}
    (wellFormed : value.IsWellFormed) (applies : operation.apply value = .ok answer) :
    answer.IsWellFormed := by
  cases operation with
  | same =>
      cases applies
      exact wellFormed
  | wrap =>
      cases applies
      exact isWellFormed_list (by simpa using wellFormed)
  | double =>
      cases value with
      | list items | tuple items =>
          cases applies
          refine isWellFormed_of_parts rfl rfl fun item member => wellFormed.part ?_
          exact (List.mem_append.mp member).elim id id
      | _ =>
          cases applies
          try exact isWellFormed_of_no_parts rfl rfl rfl
  | even | long | length =>
      obtain ⟨result, -, rfl⟩ := (except_map_eq_ok_iff _ _ _).mp applies
      exact isWellFormed_of_no_parts rfl rfl rfl
  | upper =>
      cases value <;> cases applies
      all_goals exact isWellFormed_of_no_parts rfl rfl rfl
  | codes | messages =>
      obtain ⟨items, -, remaining⟩ := (except_bind_eq_ok_iff _ _ _).mp applies
      obtain ⟨parts, traversed, equal⟩ := (except_bind_eq_ok_iff _ _ _).mp remaining
      cases equal
      refine isWellFormed_list fun text member => ?_
      obtain ⟨item, -, shown⟩ := exists_mem_of_mapM_eq_ok traversed member
      cases item with
      | issue code message =>
          cases shown
          exact isWellFormed_text _
      | _ => cases shown
  | fail => cases applies
  | _ =>
      cases applies
      exact isWellFormed_of_no_parts rfl rfl rfl

end Operation

namespace Value

theorem isWellFormed_awaited {value answer : Value} (wellFormed : value.IsWellFormed)
    (brings : value.awaited.outcome = .ok answer) : answer.IsWellFormed := by
  cases value with
  | awaitable token outcome =>
      rw [outcome_awaited_awaitable] at brings
      cases brings
      exact wellFormed.part (List.mem_singleton_self _)
  | _ =>
      cases brings
      exact wellFormed

theorem isInherited_isWellFormed : IsInherited IsWellFormed where
  simple {value} noParts _ := by
    refine .intro (fun entries isEntries => ?_) (fun members isMembers => ?_) (by simp [noParts])
    · cases value with
      | mapping | frozenMapping =>
          cases isEntries
          have noEntries : entries = [] := by simpa [parts] using noParts
          rw [noEntries]
          exact .nil
      | _ => cases isEntries
    · cases value with
      | set | frozenSet =>
          cases isMembers
          cases noParts
          exact .nil
      | _ => cases isMembers
  items := IsWellFormed.items
  members := IsWellFormed.members
  entries := IsWellFormed.entries
  identifier wellFormed := wellFormed.part (List.mem_singleton_self _)
  awaited := isWellFormed_awaited

end Value

namespace UserFunction

/-- What the function makes of an argument is well formed. -/
def MakesWellFormed {α : Type} (function : UserFunction α) (argument : α) : Prop :=
  ∀ answer, function.compute argument = .ok answer → answer.IsWellFormed

theorem isWellFormed_callAs {α : Type} {function : UserFunction α} {argument : α} {answer : Value}
    (makes : function.MakesWellFormed argument) (shown : Value)
    (calls : (function.callAs shown argument).outcome = .ok answer) : answer.IsWellFormed := by
  rw [outcome_callAs] at calls
  split at calls
  · cases calls
    refine Value.isWellFormed_of_parts rfl rfl fun part member => ?_
    cases computed : function.compute argument with
    | error cause =>
        rw [computed] at member
        cases member
    | ok result =>
        rw [computed] at member
        rw [List.mem_singleton.mp member]
        exact makes result computed
  · exact makes answer calls

theorem makesWellFormed_onIssues (function : NamedFunction) (issues : List Issue) :
    (onIssues function).MakesWellFormed issues := by
  refine fun answer computes => Operation.isWellFormed_apply ?_ computes
  refine Value.isWellFormed_list fun item member => ?_
  obtain ⟨issue, -, rfl⟩ := List.mem_map.mp member
  exact Value.isWellFormed_of_no_parts rfl rfl rfl

end UserFunction

def Replacement.IsWellFormed : Replacement → Prop
  | .value held => held.IsWellFormed
  | .computed function => ∀ issues : List Issue,
      (∀ issue ∈ issues, issue.ShowsOnly Value.IsWellFormed Value.IsWellFormed) →
      function.MakesWellFormed issues

namespace Wrapper

theorem isWellFormed_supplied {value answer : Value} (wellFormed : value.IsWellFormed)
    (supplies : (supplied value).outcome = .ok answer) : answer.IsWellFormed := by
  cases value with
  | supplier token outcome =>
      cases outcome with
      | error cause => cases supplies
      | ok result =>
          cases supplies
          exact wellFormed.part (List.mem_singleton_self _)
  | function => cases supplies
  | _ =>
      cases supplies
      exact wellFormed

theorem isWellFormed_replaced {replacement : Replacement} {answer : Value} {issues : List Issue}
    (wellFormed : replacement.IsWellFormed)
    (shows : ∀ issue ∈ issues, issue.ShowsOnly Value.IsWellFormed Value.IsWellFormed)
    (replaces : (replaced replacement issues).outcome = .ok answer) : answer.IsWellFormed := by
  cases replacement with
  | computed function =>
      exact UserFunction.isWellFormed_callAs (wellFormed issues shows) _ replaces
  | value held =>
      cases held with
      | function function =>
          exact UserFunction.isWellFormed_callAs
            (UserFunction.makesWellFormed_onIssues function issues) _ replaces
      | supplier => cases replaces
      | _ =>
          cases replaces
          exact wellFormed

end Wrapper

/-! ## Leaves -/

theorem Leaf.isWellFormed_payload {form : Form Schema} {input : Value} {payload : Payload}
    (wellFormed : input.IsWellFormed) (brings : payload? form input = some (.ok payload)) :
    payload.value.IsWellFormed := by
  cases form with
  | text rules =>
      simp only [payload?, Option.some.injEq] at brings
      rcases text_eq_ok brings with ⟨written, equal⟩ | rfl
      · rw [equal]
        exact Value.isWellFormed_text written
      · exact wellFormed
  | number rules =>
      simp only [payload?, Option.some.injEq] at brings
      rw [value_number brings]
      split
      · unfold coerceNumber
        split
        · split
          · exact Value.isWellFormed_of_no_parts rfl rfl rfl
          · exact Value.isWellFormed_of_no_parts rfl rfl rfl
          · exact wellFormed
        · exact wellFormed
      · exact wellFormed
  | uuid format =>
      simp only [payload?, Option.some.injEq, Except.ok.injEq] at brings
      subst brings
      have checked (identifier : Uuid) :
          (checkUuid format identifier input).value.IsWellFormed := by
        unfold checkUuid
        simp only
        repeat' split
        all_goals first
          | exact wellFormed
          | exact Value.isWellFormed_of_no_parts rfl rfl rfl
      cases input with
      | uuid identifier => exact checked identifier
      | text written =>
          simp only [uuid]
          cases Uuid.ofText? written with
          | none => exact wellFormed
          | some identifier => exact checked identifier
      | _ => exact wellFormed
  | bigint format =>
      simp only [payload?, Option.some.injEq, Except.ok.injEq] at brings
      subst brings
      unfold bigint
      repeat' split
      all_goals exact wellFormed
  | date coerce =>
      simp only [payload?, Option.some.injEq, Except.ok.injEq] at brings
      subst brings
      unfold date
      repeat' split
      all_goals first
        | exact wellFormed
        | exact Value.isWellFormed_of_no_parts rfl rfl rfl
  | enumeration values =>
      simp only [payload?, Option.some.injEq, Except.ok.injEq] at brings
      subst brings
      cases input with
      | member token value =>
          simp only [enumeration]
          split
          · exact wellFormed.part (List.mem_singleton_self _)
          · exact wellFormed
      | _ =>
          simp only [enumeration]
          split <;> exact wellFormed
  | literal values =>
      simp only [payload?, Option.some.injEq, Except.ok.injEq] at brings
      subst brings
      unfold literal
      split <;> exact wellFormed
  | undefined | void | null | boolean | symbol | function =>
      simp only [payload?, Option.some.injEq, Except.ok.injEq] at brings
      subst brings
      unfold ofKind
      split <;> exact wellFormed
  | any | unknown | never =>
      simp only [payload?, Option.some.injEq, Except.ok.injEq] at brings
      subst brings
      exact wellFormed
  | _ => simp [payload?] at brings

/-! ## Parts -/

/-- From well-formed values the schema settles to well-formed values. -/
def Validator.KeepsWellFormed (validate : Validator) (schema : Schema) : Prop :=
  ∀ input payload, input.IsWellFormed → validate.alone schema input = .ok payload →
    payload.value.IsWellFormed

theorem Validator.ShowsOnly.keepsWellFormed {listed : Value → Prop} {validate : Validator}
    {schema : Schema} (shows : validate.ShowsOnly Value.IsWellFormed listed schema) :
    validate.KeepsWellFormed schema :=
  fun input payload wellFormed settles => (shows input payload wellFormed settles).value

section Keeping

variable {validate : Validator} {input : Value} {payload : Payload}

namespace Container

theorem forall_of_bringsExtras {extra outputs : List (Value × Value)} {catchall : Option Schema}
    {issues : List Issue} (keeps : ∀ schema ∈ catchall, validate.KeepsWellFormed schema)
    (formed : ∀ entry ∈ extra, entry.1.IsWellFormed ∧ entry.2.IsWellFormed)
    (brings : BringsExtras validate.alone input extra catchall outputs issues) :
    (outputs.map Prod.fst).Sublist (extra.map Prod.fst) ∧
      ∀ output ∈ outputs, output.1.IsWellFormed ∧ output.2.IsWellFormed := by
  cases brings with
  | dropped | noneRefused | refused => exact ⟨List.nil_sublist _, by simp⟩
  | kept => exact ⟨.refl _, formed⟩
  | @validated catchall result _ alone =>
      have sameKeys : (extraOutputs extra result).map Prod.fst = extra.map Prod.fst := by
        simp [extraOutputs]
      refine ⟨sameKeys ▸ .refl _, fun output member => ?_⟩
      obtain ⟨entry, isExtra, rfl⟩ := List.mem_map.mp member
      exact ⟨(formed entry isExtra).1,
        keeps catchall rfl entry.2 _ (formed entry isExtra).2 (alone entry isExtra)⟩

/-- Field names that differ and extra keys are distinct keys. -/
theorem distinct_outputs {shape : List (String × Schema)} {entries outputs : List (Value × Value)}
    (different : (shape.map Prod.fst).Nodup) (distinct : Value.Distinct (entries.map Prod.fst))
    (formed : ∀ entry ∈ entries, entry.1.IsWellFormed) (result : String × Schema → Payload)
    (sublist : (outputs.map Prod.fst).Sublist ((extraEntries shape entries).map Prod.fst)) :
    Value.Distinct ((fieldOutputs entries shape result ++ outputs).map Prod.fst) := by
  have names : ((fieldOutputs entries shape result).map Prod.fst).Sublist
      ((shape.map Prod.fst).map .text) := by
    rw [fieldOutputs, List.map_map, List.map_map]
    exact List.filter_sublist.map _
  rw [List.map_append]
  refine List.pairwise_append.mpr ⟨(Value.distinct_texts different).sublist names,
    (distinct.sublist (List.filter_sublist.map Prod.fst)).sublist sublist, ?_⟩
  intro name isName key isKey
  obtain ⟨_, isField, rfl⟩ := List.mem_map.mp (names.subset isName)
  obtain ⟨field, present, rfl⟩ := List.mem_map.mp isField
  obtain ⟨entry, isExtra, rfl⟩ := List.mem_map.mp (sublist.subset isKey)
  obtain ⟨isEntry, outside⟩ := List.mem_filter.mp isExtra
  by_contra same
  have isText := (Value.alike_text_iff _ _).mp
    ((formed entry isEntry).alike_symm (by simpa using same))
  rw [isText, isFieldName_of_mem present] at outside
  cases outside

theorem isWellFormed_object {shape : List (String × Schema)} {catchall : Option Schema}
    (different : (shape.map Prod.fst).Nodup)
    (keeps : ∀ part ∈ shape.map Prod.snd ++ catchall.toList, validate.KeepsWellFormed part)
    (wellFormed : input.IsWellFormed)
    (settles : (object validate shape catchall input).settled = .ok payload) :
    payload.value.IsWellFormed := by
  cases mapping : input.entries? with
  | none =>
      rw [object, mapping] at settles
      cases settles
      exact wellFormed
  | some entries =>
      obtain ⟨result, outputs, issues, alone, brings, rfl⟩ :=
        (evaluated_object_eq_ok_iff validate.alone shape catchall mapping payload).mp
          ((settled_object_eq_ok_iff shape catchall input payload).mp settles)
      have formed := wellFormed.entries mapping
      obtain ⟨sublist, extras⟩ := forall_of_bringsExtras
        (fun schema isCatchall => keeps schema (by simp [Option.mem_def.mp isCatchall]))
        (fun entry isExtra => formed entry (List.mem_of_mem_filter isExtra)) brings
      refine Value.isWellFormed_mapping (distinct_outputs different (wellFormed.keys mapping)
        (fun entry member => (formed entry member).1) result sublist) fun output member => ?_
      rcases List.mem_append.mp member with ofField | ofExtra
      · obtain ⟨field, isField, rfl⟩ := List.mem_map.mp ofField
        have present := List.mem_of_mem_filter isField
        refine ⟨Value.isWellFormed_text _, ?_⟩
        refine keeps field.2 (by simp [List.mem_map_of_mem present]) _ _ ?_ (alone field present)
        unfold inputAt
        cases found : Value.find? (.text field.1) entries with
        | none => exact Value.isWellFormed_of_no_parts rfl rfl rfl
        | some item =>
            obtain ⟨entry, isEntry, rfl⟩ := Value.mem_of_find? found
            exact (formed entry isEntry).2
      · exact extras output ofExtra

theorem isWellFormed_of_mem_parts {jobs : List Job} {done : List (Entry Payload)}
    (keeps : ∀ job ∈ jobs, validate.KeepsWellFormed job.schema ∧ job.input.IsWellFormed)
    (alone : Evaluation.parts validate.alone jobs = .ok done) :
    ∀ entry ∈ done, entry.result.value.IsWellFormed := by
  intro entry member
  obtain ⟨job, isJob, settles, -⟩ := Evaluation.mem_of_parts alone member
  exact (keeps job isJob).1 job.input entry.result (keeps job isJob).2 settles

theorem isWellFormed_items {schemaAt : Nat → Schema} {items : List Value} {issues : List Issue}
    (keeps : ∀ job ∈ indexedJobs schemaAt items, validate.KeepsWellFormed job.schema)
    (formed : ∀ item ∈ items, item.IsWellFormed)
    (settles : ((fanOut validate (indexedJobs schemaAt items)).andThen fun results =>
      joinEntries results fun done => .ok (assembleList issues done)).settled = .ok payload) :
    payload.value.IsWellFormed := by
  obtain ⟨done, alone, assembled⟩ := (settled_fanOut_joinEntries_eq_ok_iff _ _ _).mp settles
  cases assembled
  refine Value.isWellFormed_list fun item member => ?_
  obtain ⟨entry, isDone, rfl⟩ := List.mem_map.mp member
  refine isWellFormed_of_mem_parts (fun job isJob => ⟨keeps job isJob, ?_⟩) alone entry isDone
  obtain ⟨index, item, present, rfl⟩ := mem_indexedJobs isJob
  exact formed item (List.mem_of_getElem? present)

theorem isWellFormed_array {element : Schema} {least most : Option Value}
    (keeps : validate.KeepsWellFormed element) (wellFormed : input.IsWellFormed)
    (settles : (array validate element least most input).settled = .ok payload) :
    payload.value.IsWellFormed := by
  unfold array at settles
  cases isItems : input.items? with
  | none =>
      rw [isItems] at settles
      cases settles
      exact wellFormed
  | some items =>
      simp only [isItems, Traced.settled_andThen _ (fun sizes => (fanOut validate _).andThen _)]
        at settles
      obtain ⟨sizes, -, joined⟩ := (except_bind_eq_ok_iff _ _ _).mp settles
      refine isWellFormed_items (fun job isJob => ?_) (wellFormed.items isItems) joined
      obtain ⟨index, item, -, rfl⟩ := mem_indexedJobs isJob
      exact keeps

theorem isWellFormed_tuple {items : List Schema} {rest : Option Schema}
    (keeps : ∀ part ∈ items ++ rest.toList, validate.KeepsWellFormed part)
    (wellFormed : input.IsWellFormed)
    (settles : (tuple validate items rest input).settled = .ok payload) :
    payload.value.IsWellFormed := by
  unfold tuple at settles
  cases isItems : input.items? with
  | none =>
      rw [isItems] at settles
      cases settles
      exact wellFormed
  | some values =>
      simp only [isItems] at settles
      split at settles
      · cases settles
        exact wellFormed
      · split at settles
        · cases settles
          exact wellFormed
        · rename_i fits
          exact isWellFormed_items (fun job isJob => keeps _ (schema_of_mem_indexedJobs fits isJob))
            (wellFormed.items isItems) settles

theorem isWellFormed_set {element : Schema} {least most : Option Value}
    (keeps : validate.KeepsWellFormed element) (wellFormed : input.IsWellFormed)
    (settles : (set validate element least most input).settled = .ok payload) :
    payload.value.IsWellFormed := by
  unfold set at settles
  cases isMembers : input.members? with
  | none =>
      rw [isMembers] at settles
      cases settles
      exact wellFormed
  | some members =>
      simp only [isMembers, Traced.settled_andThen _ (fun sizes => (fanOut validate _).andThen _)]
        at settles
      obtain ⟨sizes, -, joined⟩ := (except_bind_eq_ok_iff _ _ _).mp settles
      obtain ⟨done, alone, assembled⟩ := (settled_fanOut_joinEntries_eq_ok_iff _ _ _).mp joined
      obtain ⟨collected, collects, rfl⟩ := (except_map_eq_ok_iff _ _ _).mp assembled
      have distinct := (distinct_of_collectMembers collects .nil (by simp)).1
      refine Value.isWellFormed_set distinct fun member isCollected => ?_
      rcases mem_of_collectMembers collects isCollected with brought | present
      · obtain ⟨entry, isDone, rfl⟩ := List.mem_map.mp brought
        refine isWellFormed_of_mem_parts (fun job isJob => ?_) alone entry isDone
        obtain ⟨given, isGiven, rfl⟩ := List.mem_map.mp isJob
        exact ⟨keeps, wellFormed.members isMembers given isGiven⟩
      · cases present

theorem isWellFormed_keyed {label : String} {key value : Schema}
    (keepsKey : validate.KeepsWellFormed key) (keepsValue : validate.KeepsWellFormed value)
    (wellFormed : input.IsWellFormed)
    (settles : (keyed validate label key value input).settled = .ok payload) :
    payload.value.IsWellFormed := by
  unfold keyed at settles
  cases isEntries : input.entries? with
  | none =>
      rw [isEntries] at settles
      cases settles
      exact wellFormed
  | some entries =>
      simp only [isEntries] at settles
      obtain ⟨done, alone, assembled⟩ := (settled_fanOut_joinEntries_eq_ok_iff _ _ _).mp settles
      have formed := isWellFormed_of_mem_parts (fun job isJob => by
        obtain ⟨entry, isEntry, rfl | rfl⟩ := mem_keyedJobs isJob
        · exact ⟨keepsKey, (wellFormed.entries isEntries entry isEntry).1⟩
        · exact ⟨keepsValue, (wellFormed.entries isEntries entry isEntry).2⟩) alone
      refine value_of_assembleKeyed Value.IsWellFormed ?_ ?_ assembled
      · intro keyEntry isKey valueEntry isValue current currentFormed
        have before : Value.Distinct ((current.entries?.getD []).map Prod.fst) ∧
            ∀ entry ∈ current.entries?.getD [], entry.1.IsWellFormed ∧ entry.2.IsWellFormed := by
          cases isMapping : current.entries? with
          | none => exact ⟨.nil, by simp⟩
          | some others => exact ⟨currentFormed.keys isMapping, currentFormed.entries isMapping⟩
        exact Value.isWellFormed_mapping (Value.distinct_put _ _ before.1)
          (Value.forall_put (formed keyEntry isKey) (formed valueEntry isValue) before.2)
      · exact Value.isWellFormed_mapping .nil (by simp)

end Container

namespace Combination

theorem isWellFormed_union {options : List Schema}
    (keeps : ∀ option ∈ options, validate.KeepsWellFormed option) (wellFormed : input.IsWellFormed)
    (settles : (union validate options input).settled = .ok payload) :
    payload.value.IsWellFormed := by
  have evaluated : Evaluation.firstAccepting validate.alone input options [] = .ok payload :=
    firstAccepting_of_settled .nil settles
  clear settles
  generalize ([] : List (List Issue)) = refusals at evaluated
  induction options generalizing refusals with
  | nil =>
      cases evaluated
      exact wellFormed
  | cons option rest ih =>
      rw [Evaluation.firstAccepting] at evaluated
      obtain ⟨result, alone, remaining⟩ := (except_bind_eq_ok_iff _ _ _).mp evaluated
      split at remaining
      · cases remaining
        exact keeps option (by simp) input result wellFormed alone
      · exact ih (fun next member => keeps next (by simp [member])) _ remaining

theorem isWellFormed_intersection {left right : Schema} (keepsLeft : validate.KeepsWellFormed left)
    (keepsRight : validate.KeepsWellFormed right) (wellFormed : input.IsWellFormed)
    (settles : (intersection validate left right input).settled = .ok payload) :
    payload.value.IsWellFormed := by
  obtain ⟨done, alone, assembled⟩ := (settled_fanOut_joinEntries_eq_ok_iff _ _ _).mp settles
  have formed := Container.isWellFormed_of_mem_parts (fun job isJob => by
    simp only [List.mem_cons, List.not_mem_nil, or_false] at isJob
    rcases isJob with rfl | rfl
    · exact ⟨keepsLeft, wellFormed⟩
    · exact ⟨keepsRight, wellFormed⟩) alone
  cases assembled
  unfold assembleIntersection
  simp only
  split
  · exact wellFormed
  · split
    · rename_i left right _
      cases merges : Value.merge left.result.value right.result.value with
      | none => exact wellFormed
      | some merged => exact (formed left (by simp)).merge (formed right (by simp)) merges
    · exact wellFormed

end Combination

/-! ## Schemas -/

/-- What a form brings in on its own is well formed: an object has different field names, listed
values and what stands in for an absent or a refused value are well formed, and so is what a
function makes of a well-formed value. -/
def Form.IsWellFormed : Form Schema → Prop
  | .object shape _ => (shape.map Prod.fst).Nodup
  | .table described => (described.shape.map Prod.fst).Nodup
  | .enumeration values | .literal values => ∀ value ∈ values, value.IsWellFormed
  | .default _ value | .prefault _ value => value.IsWellFormed
  | .fallback _ replacement => replacement.IsWellFormed
  | .transform mapped => ∀ value, value.IsWellFormed → mapped.MakesWellFormed value
  | _ => True

theorem Form.IsWellFormed.listed {form : Form Schema} (isFormed : form.IsWellFormed) :
    ∀ value ∈ form.listed, value.IsWellFormed := by
  cases form with
  | enumeration values | literal values => exact isFormed
  | _ => exact List.forall_mem_nil _

/-- The schema and everything that it reaches are well formed. -/
def Schema.IsWellFormed (environment : Environment) (schema : Schema) : Prop :=
  schema.Everywhere environment fun part => part.form.IsWellFormed

theorem Wrapper.isWellFormed_reference {tables : Option (List String)} {identifier : Schema}
    (keeps : validate.KeepsWellFormed identifier) (wellFormed : input.IsWellFormed)
    (settles : (reference validate tables identifier input).settled = .ok payload) :
    payload.value.IsWellFormed := by
  unfold reference at settles
  cases input with
  | record table value =>
      simp only at settles
      split at settles
      · cases settles
        exact wellFormed
      · obtain ⟨result, alone, equal⟩ := settled_afterwards settles
        cases equal
        have formed := keeps value result (wellFormed.part (List.mem_singleton_self _)) alone
        unfold rebuildRecord
        split
        · exact Value.isWellFormed_of_parts rfl rfl (List.forall_mem_singleton.mpr formed)
        · exact wellFormed
  | _ =>
      cases settles
      exact wellFormed

theorem Validation.isWellFormed_leaf {scope : ParseScope} {form : Form Schema}
    {outcome : Except Fault Payload} (leaf : Leaf.payload? form input = some outcome)
    (wellFormed : input.IsWellFormed)
    (settles : (runForm scope validate form input).settled = .ok payload) :
    payload.value.IsWellFormed := by
  rw [runForm_leaf leaf] at settles
  cases outcome with
  | error cause => cases settles
  | ok result =>
      cases settles
      exact Leaf.isWellFormed_payload wellFormed leaf

/-- A form keeps values well formed when its parts do, and what it is resolved to. A fallback may
bring what the issues of its inner schema show. -/
theorem Validation.isWellFormed_runForm {scope : ParseScope} {form : Form Schema}
    (isFormed : form.IsWellFormed)
    (shows : ∀ part ∈ form.parts,
      validate.ShowsOnly Value.IsWellFormed Value.IsWellFormed part)
    (resolved : ∀ target schema, form = .lazily target →
      scope.environment.resolve target = .ok schema → validate.KeepsWellFormed schema)
    (wellFormed : input.IsWellFormed)
    (settles : (runForm scope validate form input).settled = .ok payload) :
    payload.value.IsWellFormed := by
  have keeps (part : Schema) (member : part ∈ form.parts) : validate.KeepsWellFormed part :=
    (shows part member).keepsWellFormed
  cases form with
  | object shape catchall =>
      exact Container.isWellFormed_object isFormed keeps wellFormed settles
  | table described =>
      exact Container.isWellFormed_object isFormed (by simpa [Form.parts] using keeps) wellFormed
        settles
  | array element least most =>
      exact Container.isWellFormed_array (keeps element (by simp [Form.parts])) wellFormed settles
  | set element least most =>
      exact Container.isWellFormed_set (keeps element (by simp [Form.parts])) wellFormed settles
  | tuple items rest => exact Container.isWellFormed_tuple keeps wellFormed settles
  | record key value | map key value =>
      exact Container.isWellFormed_keyed (keeps key (by simp [Form.parts]))
        (keeps value (by simp [Form.parts])) wellFormed settles
  | union options => exact Combination.isWellFormed_union keeps wellFormed settles
  | intersection left right =>
      exact Combination.isWellFormed_intersection (keeps left (by simp [Form.parts]))
        (keeps right (by simp [Form.parts])) wellFormed settles
  | reference tables identifier =>
      exact Wrapper.isWellFormed_reference (keeps identifier (by simp [Form.parts])) wellFormed
        settles
  | optional inner | nullable inner =>
      simp only [runForm] at settles
      split at settles
      · cases settles
        exact wellFormed
      · exact keeps inner (by simp [Form.parts]) input payload wellFormed settles
  | nonoptional inner =>
      obtain ⟨result, alone, equal⟩ := settled_afterwards settles
      cases equal
      have formed := keeps inner (by simp [Form.parts]) input result wellFormed alone
      unfold Wrapper.demandPresent
      split <;> exact formed
  | default inner value =>
      simp only [runForm] at settles
      split at settles
      · rw [Traced.settled_andThen] at settles
        obtain ⟨answer, supplies, equal⟩ := (except_bind_eq_ok_iff _ _ _).mp settles
        cases equal
        exact Wrapper.isWellFormed_supplied isFormed supplies
      · exact keeps inner (by simp [Form.parts]) input payload wellFormed settles
  | prefault inner value =>
      simp only [runForm] at settles
      split at settles
      · rw [Traced.settled_andThen] at settles
        obtain ⟨answer, supplies, alone⟩ := (except_bind_eq_ok_iff _ _ _).mp settles
        exact keeps inner (by simp [Form.parts]) answer payload
          (Wrapper.isWellFormed_supplied isFormed supplies) alone
      · exact keeps inner (by simp [Form.parts]) input payload wellFormed settles
  | fallback inner replacement =>
      obtain ⟨result, alone, recovered⟩ := settled_afterwards settles
      have ofInner := shows inner (by simp [Form.parts]) input result wellFormed alone
      unfold Wrapper.recover at recovered
      split at recovered
      · cases recovered
        exact ofInner.value
      · rw [Traced.outcome_andThen] at recovered
        obtain ⟨answer, replaces, equal⟩ := (except_bind_eq_ok_iff _ _ _).mp recovered
        cases equal
        exact Wrapper.isWellFormed_replaced isFormed ofInner.issues replaces
  | readonly inner =>
      obtain ⟨result, alone, equal⟩ := settled_afterwards settles
      cases equal
      have formed := keeps inner (by simp [Form.parts]) input result wellFormed alone
      unfold Wrapper.freezeClean
      split
      · exact Value.isWellFormed_freeze formed
      · exact formed
  | pipe source target =>
      obtain ⟨result, alone, continued⟩ := exists_settled_of_andThen settles
      have formed := keeps source (by simp [Form.parts]) input result wellFormed alone
      split at continued
      · exact keeps target (by simp [Form.parts]) result.value payload formed continued
      · cases continued
        exact formed
  | transform mapped =>
      simp only [runForm, Wrapper.transform, Traced.settled_andThen] at settles
      obtain ⟨answer, calls, remaining⟩ := (except_bind_eq_ok_iff _ _ _).mp settles
      have formed := UserFunction.isWellFormed_callAs (isFormed input wellFormed) _ calls
      obtain ⟨result, brings, rfl⟩ := Wrapper.exists_answer_of_settled remaining
      exact Value.isWellFormed_awaited formed brings
  | custom check message =>
      cases check with
      | none =>
          cases settles
          exact wellFormed
      | some checked =>
          simp only [runForm, Wrapper.custom, Traced.settled_andThen] at settles
          obtain ⟨answer, -, remaining⟩ := (except_bind_eq_ok_iff _ _ _).mp settles
          obtain ⟨verdict, -, rfl⟩ := Wrapper.exists_answer_of_settled remaining
          split <;> exact wellFormed
  | promise inner =>
      have inside := keeps inner (by simp [Form.parts])
      simp only [runForm, Wrapper.promise] at settles
      split at settles
      · rw [Traced.settled_andThen] at settles
        obtain ⟨_, -, remaining⟩ := (except_bind_eq_ok_iff _ _ _).mp settles
        rw [Progress.settled_andThen] at remaining
        obtain ⟨answer, brings, alone⟩ := (except_bind_eq_ok_iff _ _ _).mp remaining
        exact inside answer payload (Value.isWellFormed_awaited wellFormed brings) alone
      · exact inside input payload wellFormed settles
  | lazily target =>
      simp only [runForm] at settles
      rw [Traced.settled_andThen, Traced.outcome_ofExcept] at settles
      obtain ⟨schema, resolves, alone⟩ := (except_bind_eq_ok_iff _ _ _).mp settles
      exact resolved target schema rfl resolves input payload wellFormed alone
  | _ => exact isWellFormed_leaf rfl wellFormed settles

end Keeping

namespace Validation

/-- A run of a well-formed schema makes well-formed values of well-formed ones, and its issues show
no others, to any depth. The induction is on the limit of the depth. -/
theorem run_showsWellFormed (scope : ParseScope) (limit : Nat) {schema : Schema}
    (isFormed : schema.IsWellFormed scope.environment) :
    (run scope limit).ShowsOnly Value.IsWellFormed Value.IsWellFormed schema := by
  induction limit generalizing schema with
  | zero =>
      intro input payload wellFormed settles
      cases settles
  | succ limit ih =>
      intro input payload wellFormed settles
      obtain ⟨formed, formSettles, refined⟩ := exists_formed_of_settled settles
      have resolved (target : LazyTarget Schema) (resolved : Schema)
          (isLazy : schema.form = .lazily target)
          (resolves : scope.environment.resolve target = .ok resolved) :=
        ih (isFormed.resolved isLazy resolves)
      refine Wrapper.showsOnly_refine ⟨?_, ?_⟩ refined
      · exact isWellFormed_runForm isFormed.here (fun part member => ih (isFormed.part member))
          (fun target schema isLazy resolves =>
            (resolved target schema isLazy resolves).keepsWellFormed) wellFormed formSettles
      · refine showsOnly_runForm Value.isInherited_isWellFormed Value.isWellFormed_text
          isFormed.here.listed ?_ (fun part member => ih (isFormed.part member)) resolved
          wellFormed formSettles
        intro inner value answer isPrefault supplies
        have ofPrefault := isFormed.here
        rw [isPrefault] at ofPrefault
        exact Wrapper.isWellFormed_supplied ofPrefault supplies

theorem run_keepsWellFormed (scope : ParseScope) (limit : Nat) {schema : Schema}
    (isFormed : schema.IsWellFormed scope.environment) :
    (run scope limit).KeepsWellFormed schema :=
  (run_showsWellFormed scope limit isFormed).keepsWellFormed

end Validation
end TypedTables
