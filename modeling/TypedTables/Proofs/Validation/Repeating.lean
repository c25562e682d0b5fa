import Mathlib.Data.List.Basic
import TypedTables.Proofs.Validation.Accepted
import TypedTables.Proofs.Value.Freezing
import TypedTables.Proofs.Value.Likeness

/-!
# Containers that are validated again

What a part brings is kept when the part is given it once more. Then so is what the container brings:
a list of such items, a set of such members, a mapping of such entries. The keys and members that
were put together are distinct, so putting them together again changes nothing; the fields of an
object are found again under their names, and what was dropped stays away.

Unchangeable kinds of containers have the same items, members and entries, so they bring the same.
-/

namespace TypedTables

namespace Evaluator

def Keeps (evaluate : Evaluator) (schema : Schema) (value : Value) : Prop :=
  evaluate schema value = .ok (.accept value)

def Repeats (evaluate : Evaluator) (schema : Schema) : Prop :=
  ∀ input data, evaluate schema input = .ok (.accept data) → evaluate.Keeps schema data

end Evaluator

/-! ## Parts -/

namespace Evaluation

variable {evaluate : Evaluator}

def valueOf (evaluate : Evaluator) (job : Job) : Value :=
  match evaluate job.schema job.input with
  | .ok payload => payload.value
  | .error _ => .undefined

/-- The part brings a value without issues. -/
def Accepts (evaluate : Evaluator) (job : Job) : Prop :=
  evaluate job.schema job.input = .ok (.accept (valueOf evaluate job))

theorem accepts_of_clean {job : Job} {payload : Payload}
    (comes : evaluate job.schema job.input = .ok payload) (clean : payload.isClean = true) :
    Accepts evaluate job ∧ payload = .accept (valueOf evaluate job) := by
  have value : valueOf evaluate job = payload.value := by rw [valueOf, comes]
  rw [Accepts, value, comes, ← Payload.eq_accept clean]
  exact ⟨rfl, rfl⟩

theorem parts_clean {jobs : List Job} {done : List (Entry Payload)}
    (evaluated : parts evaluate jobs = .ok done)
    (clean : ∀ entry ∈ done, entry.result.isClean = true) :
    (∀ job ∈ jobs, Accepts evaluate job) ∧
      done = jobs.map fun job => ⟨job.key, job.present, .accept (valueOf evaluate job)⟩ := by
  induction jobs generalizing done with
  | nil =>
      cases evaluated
      exact ⟨fun _ member => absurd member List.not_mem_nil, rfl⟩
  | cons job rest ih =>
      obtain ⟨payload, others, comes, later, rfl⟩ := (parts_cons_eq_ok_iff _ _ _).mp evaluated
      obtain ⟨accepts, same⟩ := accepts_of_clean comes (clean _ (List.mem_cons_self ..))
      obtain ⟨acceptsRest, sameRest⟩ :=
        ih later fun entry member => clean entry (List.mem_cons_of_mem _ member)
      refine ⟨List.forall_mem_cons.mpr ⟨accepts, acceptsRest⟩, ?_⟩
      rw [same, sameRest, List.map_cons]

theorem parts_of_accepts {jobs : List Job} {value : Job → Value}
    (accepts : ∀ job ∈ jobs, evaluate job.schema job.input = .ok (.accept (value job))) :
    parts evaluate jobs =
      .ok (jobs.map fun job => ⟨job.key, job.present, .accept (value job)⟩) := by
  induction jobs with
  | nil => rfl
  | cons job rest ih =>
      obtain ⟨here, later⟩ := List.forall_mem_cons.mp accepts
      exact (parts_cons_eq_ok_iff _ _ _).mpr ⟨_, _, here, ih later, rfl⟩

theorem issuesUnderKeys_accepted (jobs : List Job) (value : Job → Value) :
    Container.issuesUnderKeys (jobs.map fun job =>
      (⟨job.key, job.present, .accept (value job)⟩ : Entry Payload)) = [] := by
  rw [Container.issuesUnderKeys, List.flatMap_eq_nil_iff]
  intro entry member
  obtain ⟨job, -, rfl⟩ := List.mem_map.mp member
  rfl

/-! ## Lists -/

theorem getElem?_indexedJobs (schemaAt : Nat → Schema) (items : List Value) (index : Nat) :
    (Container.indexedJobs schemaAt items)[index]? = items[index]?.map fun item =>
      ⟨.integer (Int.ofNat index), true, schemaAt index, item⟩ := by
  simp [Container.indexedJobs, List.getElem?_zipIdx, Function.comp_def]

theorem map_input_indexedJobs (schemaAt : Nat → Schema) (items : List Value) :
    (Container.indexedJobs schemaAt items).map Job.input = items := by
  simp [Container.indexedJobs, Function.comp_def]

theorem keeps_of_indexedJobs {schemaAt : Nat → Schema} {items : List Value}
    (repeats : ∀ job ∈ Container.indexedJobs schemaAt items, evaluate.Repeats job.schema)
    (accepts : ∀ job ∈ Container.indexedJobs schemaAt items, Accepts evaluate job) :
    ∀ job ∈ Container.indexedJobs schemaAt
        ((Container.indexedJobs schemaAt items).map (valueOf evaluate)),
      evaluate.Keeps job.schema job.input := by
  intro job member
  obtain ⟨index, item, isItem, rfl⟩ := Container.mem_indexedJobs member
  rw [List.getElem?_map, getElem?_indexedJobs] at isItem
  obtain ⟨before, found, rfl⟩ := Option.map_eq_some_iff.mp isItem
  obtain ⟨original, -, rfl⟩ := Option.map_eq_some_iff.mp found
  have isJob := List.mem_of_getElem? ((getElem?_indexedJobs schemaAt items index).trans found)
  exact repeats _ isJob _ _ (accepts _ isJob)

theorem assembleList_again {schemaAt : Nat → Schema} {items : List Value} {sizes : List Issue}
    {done : List (Entry Payload)} {data : Value}
    (repeats : ∀ job ∈ Container.indexedJobs schemaAt items, evaluate.Repeats job.schema)
    (evaluated : parts evaluate (Container.indexedJobs schemaAt items) = .ok done)
    (accepted : Container.assembleList sizes done = .accept data) :
    sizes = [] ∧ ∃ again : List Value, data = .list again ∧ again.length = items.length ∧
      (parts evaluate (Container.indexedJobs schemaAt again)).map (Container.assembleList []) =
        .ok (.accept (.list again)) := by
  have noIssues := List.append_eq_nil_iff.mp (congrArg Payload.issues accepted)
  obtain ⟨accepts, rfl⟩ := parts_clean evaluated fun entry member =>
    Form.Accepts.result_clean_of_issuesUnderKeys noIssues.2 member
  refine ⟨noIssues.1, (Container.indexedJobs schemaAt items).map (valueOf evaluate), ?_, ?_, ?_⟩
  · refine (congrArg Payload.value accepted).symm.trans ?_
    simp [Container.assembleList, Payload.accept, Function.comp_def]
  · simp [Container.indexedJobs]
  · rw [parts_of_accepts (keeps_of_indexedJobs repeats accepts)]
    simp only [Except.map, Container.assembleList, issuesUnderKeys_accepted, List.append_nil,
      List.map_map, Function.comp_def]
    have items := map_input_indexedJobs schemaAt
      ((Container.indexedJobs schemaAt items).map (valueOf evaluate))
    exact congrArg (fun values => Except.ok (Payload.accept (.list values))) items

end Evaluation

namespace Leaf

theorem sizeIssue_eq_ok_nil {comparison : Comparison} {code : IssueCode} {size : Nat}
    {bound : Option Value} {message : String → String} {input : Value}
    (holds : sizeIssue comparison code size bound message input = .ok []) (value : Value) :
    sizeIssue comparison code size bound message value = .ok [] := by
  cases bound with
  | none => rfl
  | some limit =>
      obtain ⟨broken, compares, remaining⟩ := (except_bind_eq_ok_iff _ _ _).mp holds
      cases broken with
      | false => exact (except_bind_eq_ok_iff _ _ _).mpr ⟨false, compares, rfl⟩
      | true =>
          obtain ⟨text, -, reported⟩ := (except_map_eq_ok_iff _ _ _).mp remaining
          cases reported

theorem boundIssues_eq_ok_nil {label unit : String} {size : Nat} {least most : Option Value}
    {input : Value} (holds : boundIssues label unit size least most input = .ok [])
    (value : Value) : boundIssues label unit size least most value = .ok [] := by
  obtain ⟨below, holdsBelow, remaining⟩ := (except_bind_eq_ok_iff _ _ _).mp holds
  obtain ⟨above, holdsAbove, none⟩ := (except_map_eq_ok_iff _ _ _).mp remaining
  obtain ⟨rfl, rfl⟩ := List.append_eq_nil_iff.mp none
  rw [boundIssues, sizeIssue_eq_ok_nil holdsBelow value]
  exact (except_map_eq_ok_iff _ _ _).mpr ⟨[], sizeIssue_eq_ok_nil holdsAbove value, rfl⟩

end Leaf

namespace Evaluation

variable {evaluate : Evaluator} {input data : Value}

theorem array_again {element : Schema} {least most : Option Value}
    (repeats : evaluate.Repeats element)
    (accepted : array evaluate element least most input = .ok (.accept data)) :
    ∃ items, data = .list items ∧ ∀ value : Value, value.items? = some items →
      array evaluate element least most value = .ok (.accept (.list items)) := by
  unfold array at accepted
  cases isItems : input.items? with
  | none =>
      rw [isItems] at accepted
      cases accepted
  | some items =>
      rw [isItems] at accepted
      obtain ⟨sizes, bounded, remaining⟩ := (except_bind_eq_ok_iff _ _ _).mp accepted
      obtain ⟨done, evaluated, assembles⟩ := (except_map_eq_ok_iff _ _ _).mp remaining
      have repeatsJobs : ∀ job ∈ Container.indexedJobs (fun _ => element) items,
          evaluate.Repeats job.schema := by
        intro job member
        obtain ⟨index, item, -, rfl⟩ := Container.mem_indexedJobs member
        exact repeats
      obtain ⟨rfl, again, rfl, size, assemblesAgain⟩ :=
        assembleList_again repeatsJobs evaluated assembles
      refine ⟨again, rfl, fun value isAgain => ?_⟩
      rw [array, isAgain]
      simp only [size, Leaf.boundIssues_eq_ok_nil bounded value]
      exact assemblesAgain

theorem tuple_again {items : List Schema} {rest : Option Schema}
    (repeats : ∀ part ∈ items ++ rest.toList, evaluate.Repeats part)
    (accepted : tuple evaluate items rest input = .ok (.accept data)) :
    ∃ values, data = .list values ∧ ∀ value : Value, value.items? = some values →
      tuple evaluate items rest value = .ok (.accept (.list values)) := by
  unfold tuple at accepted
  cases isItems : input.items? with
  | none =>
      rw [isItems] at accepted
      cases accepted
  | some values =>
      rw [isItems] at accepted
      simp only at accepted
      split at accepted
      · cases accepted
      · split at accepted
        · cases accepted
        · rename_i enough fits
          obtain ⟨done, evaluated, assembles⟩ := (except_map_eq_ok_iff _ _ _).mp accepted
          obtain ⟨-, again, rfl, size, assemblesAgain⟩ := assembleList_again
            (fun job member => repeats _ (Container.schema_of_mem_indexedJobs fits member))
            evaluated assembles
          refine ⟨again, rfl, fun value isAgain => ?_⟩
          rw [tuple, isAgain]
          simp only [size]
          rw [if_neg enough, if_neg fits]
          exact assemblesAgain

/-! ## Sets -/

end Evaluation

namespace Container

theorem distinct_of_collectMembers {values members collected : List Value}
    (collects : collectMembers values members = .ok collected) (distinct : Value.Distinct members)
    (hashable : ∀ member ∈ members, member.unhashableClass? = none) :
    Value.Distinct collected ∧ ∀ member ∈ collected, member.unhashableClass? = none := by
  induction values generalizing members with
  | nil =>
      cases collects
      exact ⟨distinct, hashable⟩
  | cons added rest ih =>
      rw [collectMembers] at collects
      cases unhashable : added.unhashableClass? with
      | some className => simp [unhashable] at collects
      | none =>
          rw [unhashable] at collects
          refine ih collects (Value.distinct_addMember added distinct) fun member present => ?_
          unfold Value.addMember at present
          split at present
          · exact hashable member present
          · rcases List.mem_append.mp present with before | single
            · exact hashable member before
            · rw [List.mem_singleton.mp single]
              exact unhashable

theorem collectMembers_of_distinct {values members : List Value}
    (distinct : Value.Distinct (members ++ values))
    (hashable : ∀ value ∈ values, value.unhashableClass? = none) :
    collectMembers values members = .ok (members ++ values) := by
  induction values generalizing members with
  | nil => rw [List.append_nil, collectMembers]
  | cons value rest ih =>
      obtain ⟨here, later⟩ := List.forall_mem_cons.mp hashable
      have together : members ++ value :: rest = members ++ [value] ++ rest := by simp
      rw [together] at distinct ⊢
      have unlike := ((Value.distinct_append_singleton_iff members value).mp
        (List.pairwise_append.mp distinct).1).2
      rw [collectMembers, here, Value.addMember_of_unlike unlike]
      exact ih distinct later

end Container

namespace Evaluation

variable {evaluate : Evaluator} {input data : Value}

abbrev memberJob (element : Schema) (member : Value) : Job := ⟨.null, true, element, member⟩

/-- An accepted set has a size within its bounds and members that are all accepted, and brings the
collection of what these are accepted as. -/
theorem collected_of_set {element : Schema} {least most : Option Value}
    (accepted : Evaluation.set evaluate element least most input = .ok (.accept data)) :
    ∃ given members, input.members? = some given ∧
      Leaf.boundIssues "Set" "element(s)" given.length least most input = .ok [] ∧
      (∀ member ∈ given, Accepts evaluate (memberJob element member)) ∧
      Container.collectMembers (given.map fun member => valueOf evaluate (memberJob element member))
        [] = .ok members ∧
      data = .set members := by
  unfold Evaluation.set at accepted
  cases isMembers : input.members? with
  | none =>
      rw [isMembers] at accepted
      cases accepted
  | some given =>
      rw [isMembers] at accepted
      obtain ⟨sizes, bounded, remaining⟩ := (except_bind_eq_ok_iff _ _ _).mp accepted
      obtain ⟨done, evaluated, assembles⟩ := (except_bind_eq_ok_iff _ _ _).mp remaining
      obtain ⟨members, collects, assembled⟩ := (except_map_eq_ok_iff _ _ _).mp assembles
      obtain ⟨rfl, noIssues⟩ := List.append_eq_nil_iff.mp (congrArg Payload.issues assembled)
      obtain ⟨accepts, rfl⟩ := parts_clean evaluated fun entry member =>
        List.isEmpty_iff.mpr (List.flatMap_eq_nil_iff.mp noIssues entry member)
      rw [List.map_map, List.map_map] at collects
      exact ⟨given, members, rfl, bounded, List.forall_mem_map.mp accepts, collects,
        (congrArg Payload.value assembled).symm⟩

theorem set_of_collected {element : Schema} {least most : Option Value} {given members : List Value}
    (isMembers : input.members? = some given)
    (bounded : Leaf.boundIssues "Set" "element(s)" given.length least most input = .ok [])
    (accepts : ∀ member ∈ given, Accepts evaluate (memberJob element member))
    (collects : Container.collectMembers
      (given.map fun member => valueOf evaluate (memberJob element member)) [] = .ok members) :
    Evaluation.set evaluate element least most input = .ok (.accept (.set members)) := by
  have evaluated := parts_of_accepts (List.forall_mem_map.mpr accepts)
  simp only [Evaluation.set, isMembers, bounded, evaluated, Except.bind]
  simp [Container.assembleSet, Payload.accept, Function.comp_def, collects, Except.map]

theorem set_again {element : Schema} (repeats : evaluate.Repeats element)
    (accepted : Evaluation.set evaluate element none none input = .ok (.accept data)) :
    ∃ members, data = .set members ∧ ∀ value : Value, value.members? = some members →
      Evaluation.set evaluate element none none value = .ok (.accept (.set members)) := by
  obtain ⟨given, members, -, -, accepts, collects, rfl⟩ := collected_of_set accepted
  obtain ⟨distinct, hashable⟩ := Container.distinct_of_collectMembers collects .nil
    fun _ member => absurd member List.not_mem_nil
  have keeps : ∀ member ∈ members, evaluate.Keeps element member := by
    intro member present
    rcases Container.mem_of_collectMembers collects present with brought | before
    · obtain ⟨original, isOriginal, rfl⟩ := List.mem_map.mp brought
      exact repeats _ _ (accepts _ isOriginal)
    · cases before
  have same (member : Value) (present : member ∈ members) :
      valueOf evaluate (memberJob element member) = member := by
    rw [valueOf, keeps member present]
    rfl
  refine ⟨members, rfl, fun value isAgain => set_of_collected isAgain rfl ?_ ?_⟩
  · intro member present
    rw [Accepts, same member present]
    exact keeps member present
  · rw [List.map_congr_left same, List.map_id']
    exact Container.collectMembers_of_distinct (List.nil_append members ▸ distinct) hashable

/-! ## Keyed collections -/

end Evaluation

theorem Container.prefix_of_assembleKeyed {label : String} {done : List (Entry Payload)}
    {start payload : Payload} (assembles : assembleKeyed label done start = .ok payload) :
    start.issues <+: payload.issues := by
  fun_induction assembleKeyed label done start with
  | case1 keyEntry valueEntry rest start refused ih =>
      obtain ⟨issue, -, remaining⟩ := (except_bind_eq_ok_iff _ _ _).mp assembles
      exact (List.prefix_append _ _).trans (ih issue remaining)
  | case2 keyEntry valueEntry rest start accepted issues absent ih =>
      exact (List.prefix_append _ _).trans (ih assembles)
  | case3 => cases assembles
  | case4 keyEntry valueEntry rest start accepted issues present hashable output ih =>
      exact (List.prefix_append _ _).trans (ih assembles)
  | case5 =>
      cases assembles
      exact List.prefix_refl _

theorem Container.issues_eq_nil_of_assembleKeyed {label : String} {done : List (Entry Payload)}
    {start : Payload} {data : Value}
    (assembles : assembleKeyed label done start = .ok (.accept data)) : start.issues = [] :=
  List.prefix_nil.mp (prefix_of_assembleKeyed assembles)

namespace Evaluation

variable {evaluate : Evaluator} {input data : Value}

/-- Entries as a keyed collection brings them: the keys are distinct and hashable, no item is absent,
and both schemas keep what they are given. -/
structure KeepsEntries (evaluate : Evaluator) (key value : Schema)
    (entries : List (Value × Value)) : Prop where
  distinct : Value.Distinct (entries.map Prod.fst)
  keys : ∀ present ∈ entries.map Prod.fst,
    evaluate.Keeps key present ∧ present.unhashableClass? = none
  items : ∀ item ∈ entries.map Prod.snd, evaluate.Keeps value item ∧ item.isUndefined = false

theorem KeepsEntries.put {key value : Schema} {entries : List (Value × Value)} {present item : Value}
    (keeps : KeepsEntries evaluate key value entries)
    (keepsKey : evaluate.Keeps key present ∧ present.unhashableClass? = none)
    (keepsItem : evaluate.Keeps value item ∧ item.isUndefined = false) :
    KeepsEntries evaluate key value (Value.put present item entries) where
  distinct := Value.distinct_put present item keeps.distinct
  keys other member := by
    obtain ⟨entry, isEntry, rfl⟩ := List.mem_map.mp member
    rcases (Value.mem_put isEntry).1 with same | before
    · rw [same]
      exact keepsKey
    · exact keeps.keys _ before
  items other member := by
    obtain ⟨entry, isEntry, rfl⟩ := List.mem_map.mp member
    rcases (Value.mem_put isEntry).2 with same | before
    · rw [same]
      exact keepsItem
    · exact keeps.items _ before

/-- A keyed collection that is assembled without issues holds entries that are kept. The induction is
on the entries of the input, whose results are put under the ones before. -/
theorem keepsEntries_of_assembleKeyed {label : String} {key value : Schema}
    {given before : List (Value × Value)} {done : List (Entry Payload)}
    (repeatsKey : evaluate.Repeats key) (repeatsValue : evaluate.Repeats value)
    (evaluated : parts evaluate (Container.keyedJobs key value given) = .ok done)
    (keeps : KeepsEntries evaluate key value before)
    (assembles : Container.assembleKeyed label done (.accept (.mapping before)) =
      .ok (.accept data)) :
    ∃ entries, data = .mapping entries ∧ KeepsEntries evaluate key value entries := by
  induction given generalizing before done with
  | nil =>
      cases evaluated
      cases assembles
      exact ⟨before, rfl, keeps⟩
  | cons entry rest ih =>
      obtain ⟨keyPayload, payload, others, ofKey, ofValue, further, rfl⟩ :=
        (parts_keyedJobs_cons_eq_ok_iff _ _ _ _ _).mp evaluated
      rw [Container.assembleKeyed] at assembles
      split at assembles
      · obtain ⟨issue, -, remaining⟩ := (except_bind_eq_ok_iff _ _ _).mp assembles
        cases Container.issues_eq_nil_of_assembleKeyed remaining
      · rename_i refused
        have cleanKey : keyPayload.isClean = true := by simpa using refused
        simp only [Payload.accept, List.nil_append] at assembles
        split at assembles
        · have none := Container.issues_eq_nil_of_assembleKeyed assembles
          simp only at none
          rw [none] at assembles
          exact ih further keeps assembles
        · rename_i absent
          split at assembles
          · cases assembles
          · rename_i hashable
            have none := Container.issues_eq_nil_of_assembleKeyed assembles
            simp only at none
            have cleanValue : payload.isClean = true :=
              List.isEmpty_iff.mpr (List.map_eq_nil_iff.mp none)
            rw [Payload.eq_accept cleanKey] at ofKey
            rw [Payload.eq_accept cleanValue] at ofValue
            rw [none] at assembles
            exact ih further (keeps.put ⟨repeatsKey _ _ ofKey, hashable⟩
              ⟨repeatsValue _ _ ofValue, by simpa using absent⟩) assembles

theorem assembleKeyed_of_keepsEntries (label : String) {key value : Schema}
    {before entries : List (Value × Value)}
    (keeps : KeepsEntries evaluate key value (before ++ entries)) :
    ∃ done, parts evaluate (Container.keyedJobs key value entries) = .ok done ∧
      Container.assembleKeyed label done (.accept (.mapping before)) =
        .ok (.accept (.mapping (before ++ entries))) := by
  induction entries generalizing before with
  | nil =>
      rw [List.append_nil]
      exact ⟨[], rfl, rfl⟩
  | cons entry rest ih =>
      have together : before ++ entry :: rest = before ++ [entry] ++ rest := by simp
      rw [together] at keeps ⊢
      obtain ⟨keepsKey, hashable⟩ := keeps.keys entry.1 (by simp)
      obtain ⟨keepsItem, isPresent⟩ := keeps.items entry.2 (by simp)
      have unlike : ∀ present ∈ before.map Prod.fst, Value.alike entry.1 present = false := by
        have distinct := keeps.distinct
        rw [List.map_append, List.map_append, List.map_singleton] at distinct
        exact ((Value.distinct_append_singleton_iff _ _).mp (List.pairwise_append.mp distinct).1).2
      obtain ⟨others, evaluated, assembles⟩ := ih keeps
      refine ⟨_, (parts_keyedJobs_cons_eq_ok_iff _ _ _ _ _).mpr
        ⟨_, _, others, keepsKey, keepsItem, evaluated, rfl⟩, ?_⟩
      rw [Container.assembleKeyed]
      simp only [Bool.false_eq_true, if_false, Payload.accept, isPresent, hashable,
        Value.entries?, Option.getD_some, Value.put_of_unlike unlike]
      exact assembles

theorem keyed_again {label : String} {key value : Schema}
    (repeatsKey : evaluate.Repeats key) (repeatsValue : evaluate.Repeats value)
    (accepted : keyed evaluate label key value input = .ok (.accept data)) :
    ∃ entries, data = .mapping entries ∧ ∀ again : Value, again.entries? = some entries →
      keyed evaluate label key value again = .ok (.accept (.mapping entries)) := by
  unfold keyed at accepted
  cases isEntries : input.entries? with
  | none =>
      rw [isEntries] at accepted
      cases accepted
  | some given =>
      rw [isEntries] at accepted
      obtain ⟨done, evaluated, assembles⟩ := (except_bind_eq_ok_iff _ _ _).mp accepted
      have empty : KeepsEntries evaluate key value [] :=
        ⟨.nil, fun _ member => absurd member List.not_mem_nil,
          fun _ member => absurd member List.not_mem_nil⟩
      obtain ⟨entries, rfl, keeps⟩ :=
        keepsEntries_of_assembleKeyed repeatsKey repeatsValue evaluated empty assembles
      refine ⟨entries, rfl, fun again isAgain => ?_⟩
      obtain ⟨doneAgain, evaluatedAgain, assemblesAgain⟩ :=
        assembleKeyed_of_keepsEntries label (List.nil_append entries ▸ keeps)
      rw [keyed, isAgain]
      simp only [evaluatedAgain, Except.bind]
      exact assemblesAgain

/-! ## Objects -/

end Evaluation

namespace Container

/-- The entry of the output that a part makes when it brings a value: none for an absent value
under an absent key. -/
def outputOf (value : Job → Value) (job : Job) : Option (Value × Value) :=
  if (value job).isUndefined && !job.present then none else some (job.key, value job)

theorem outputEntries_accepted (jobs : List Job) (value : Job → Value) :
    outputEntries (jobs.map fun job => ⟨job.key, job.present, .accept (value job)⟩) =
      jobs.filterMap (outputOf value) := by
  rw [outputEntries, List.filterMap_map]
  rfl

theorem key_of_outputOf {value : Job → Value} {entries : List (Value × Value)}
    {field : String × Schema} {output : Value × Value}
    (isOutput : outputOf value (fieldJob entries field) = some output) :
    output.1 = .text field.1 := by
  unfold outputOf at isOutput
  split at isOutput
  · cases isOutput
  · cases isOutput
    exact key_fieldJob entries field

theorem find?_outputs {shape : List (String × Schema)} {entries extra : List (Value × Value)}
    {value : Job → Value} (distinct : (shape.map Prod.fst).Nodup)
    (outside : ∀ field ∈ shape, ∀ entry ∈ extra, entry.1 ≠ .text field.1)
    {field : String × Schema} (member : field ∈ shape) :
    Value.find? (.text field.1)
        ((shape.map (fieldJob entries)).filterMap (outputOf value) ++ extra) =
      (outputOf value (fieldJob entries field)).map Prod.snd := by
  induction shape with
  | nil => cases member
  | cons first rest ih =>
      obtain ⟨unlike, distinctRest⟩ := List.nodup_cons.mp distinct
      obtain ⟨outsideFirst, outsideRest⟩ := List.forall_mem_cons.mp outside
      have others : ∀ entry ∈ (rest.map (fieldJob entries)).filterMap (outputOf value) ++ extra,
          entry.1 ≠ .text first.1 := by
        intro entry isEntry same
        rcases List.mem_append.mp isEntry with isOutput | isExtra
        · obtain ⟨job, isJob, output⟩ := List.mem_filterMap.mp isOutput
          obtain ⟨other, isOther, rfl⟩ := List.mem_map.mp isJob
          rw [key_of_outputOf output] at same
          exact unlike (List.mem_map.mpr ⟨other, isOther, Value.text.inj same⟩)
        · exact outsideFirst entry isExtra same
      rw [List.map_cons]
      rcases List.mem_cons.mp member with rfl | later
      · cases output : outputOf value (fieldJob entries field) with
        | none =>
            rw [List.filterMap_cons_none output]
            exact Value.find?_text_eq_none others
        | some entry =>
            have key := key_of_outputOf output
            rw [List.filterMap_cons_some output, List.cons_append]
            rcases entry with ⟨present, item⟩
            cases key
            exact Value.find?_text_cons_self _ _ _
      · have differs : field.1 ≠ first.1 := fun same =>
          unlike (List.mem_map.mpr ⟨field, later, same⟩)
        rw [← ih distinctRest outsideRest later]
        cases output : outputOf value (fieldJob entries first) with
        | none => rw [List.filterMap_cons_none output]
        | some entry =>
            rw [List.filterMap_cons_some output, List.cons_append]
            refine Value.find?_text_cons_of_ne ?_ _
            rw [key_of_outputOf output]
            exact fun same => differs (Value.text.inj same).symm

theorem isFieldName_of_mem {shape : List (String × Schema)} {field : String × Schema}
    (member : field ∈ shape) : isFieldName shape (.text field.1) = true :=
  List.any_eq_true.mpr ⟨field, member, beq_self_eq_true _⟩

theorem extraEntries_outputs {shape : List (String × Schema)} {entries extra : List (Value × Value)}
    {value : Job → Value} (outside : ∀ entry ∈ extra, isFieldName shape entry.1 = false) :
    extraEntries shape ((shape.map (fieldJob entries)).filterMap (outputOf value) ++ extra) =
      extra := by
  have noField : extraEntries shape ((shape.map (fieldJob entries)).filterMap (outputOf value)) =
      [] := by
    rw [extraEntries, List.filter_eq_nil_iff]
    intro entry member
    obtain ⟨job, isJob, output⟩ := List.mem_filterMap.mp member
    obtain ⟨field, isField, rfl⟩ := List.mem_map.mp isJob
    rw [key_of_outputOf output, isFieldName_of_mem isField]
    decide
  have allExtra : extraEntries shape extra = extra := by
    rw [extraEntries, List.filter_eq_self]
    intro entry member
    rw [outside entry member]
    rfl
  rw [extraEntries] at noField allExtra ⊢
  rw [List.filter_append, noField, allExtra, List.nil_append]

end Container

namespace Evaluation

variable {evaluate : Evaluator} {input data : Value}

/-- A field of an output keeps what it is given there, and makes the same entry again. An item that
was left out is absent again, and absence was accepted for it. -/
theorem keeps_fieldJob {entries outputs : List (Value × Value)} {field : String × Schema}
    (repeats : evaluate.Repeats field.2)
    (accepts : Accepts evaluate (Container.fieldJob entries field))
    (found : Value.find? (.text field.1) outputs =
      (Container.outputOf (valueOf evaluate) (Container.fieldJob entries field)).map Prod.snd) :
    evaluate.Keeps (Container.fieldJob outputs field).schema
        (Container.fieldJob outputs field).input ∧
      Container.outputOf Job.input (Container.fieldJob outputs field) =
        Container.outputOf (valueOf evaluate) (Container.fieldJob entries field) := by
  rw [Accepts, Container.schema_fieldJob] at accepts
  have keeps := repeats _ _ accepts
  cases output : Container.outputOf (valueOf evaluate) (Container.fieldJob entries field) with
  | some entry =>
      rw [output] at found
      have isOutput := output
      unfold Container.outputOf at isOutput
      split at isOutput
      · cases isOutput
      · cases isOutput
        rw [Container.key_fieldJob] at found ⊢
        have again : Container.fieldJob outputs field = ⟨.text field.1, true, field.2,
            valueOf evaluate (Container.fieldJob entries field)⟩ := by
          rw [Container.fieldJob, found]
          rfl
        rw [again]
        exact ⟨keeps, by simp [Container.outputOf]⟩
  | none =>
      rw [output] at found
      have again : Container.fieldJob outputs field =
          ⟨.text field.1, false, field.2, .undefined⟩ := by
        rw [Container.fieldJob, found]
        rfl
      unfold Container.outputOf at output
      split at output
      · rename_i leftOut
        obtain ⟨absent, -⟩ := Bool.and_eq_true_iff.mp leftOut
        have same : valueOf evaluate (Container.fieldJob entries field) = .undefined := by
          cases value : valueOf evaluate (Container.fieldJob entries field) with
          | undefined => rfl
          | _ => rw [value] at absent; cases absent
        rw [same] at keeps
        rw [again]
        exact ⟨keeps, rfl⟩
      · cases output

/-- What follows the fields of an object, when its parts bring the given values. -/
def extraOutputs (value : Job → Value) (shape : List (String × Schema))
    (extraKeys : Container.ExtraKeys) (entries : List (Value × Value)) : List (Value × Value) :=
  match extraKeys with
  | .kept => Container.extraEntries shape entries
  | .validated schema => (Container.extraEntries shape entries).map fun entry =>
      (entry.1, value ⟨entry.1, true, schema, entry.2⟩)
  | .dropped | .refused => []

/-- The entries of an object, when its parts bring the given values. -/
def objectOutputs (value : Job → Value) (shape : List (String × Schema))
    (extraKeys : Container.ExtraKeys) (entries : List (Value × Value)) : List (Value × Value) :=
  (shape.map (Container.fieldJob entries)).filterMap (Container.outputOf value) ++
    extraOutputs value shape extraKeys entries

theorem filterMap_objectJobs (value : Job → Value) (shape : List (String × Schema))
    (extraKeys : Container.ExtraKeys) (entries : List (Value × Value)) :
    (Container.objectJobs shape extraKeys entries).filterMap (Container.outputOf value) ++
        (match extraKeys with
          | .kept => Container.extraEntries shape entries
          | _ => []) =
      objectOutputs value shape extraKeys entries := by
  cases extraKeys with
  | validated schema =>
      have all (entry : Value × Value) : Container.outputOf value ⟨entry.1, true, schema, entry.2⟩ =
          some (entry.1, value ⟨entry.1, true, schema, entry.2⟩) := by
        simp [Container.outputOf]
      simp [Container.objectJobs, objectOutputs, extraOutputs, all]
  | dropped | refused | kept => simp [Container.objectJobs, objectOutputs, extraOutputs]

variable {shape : List (String × Schema)} {catchall : Option Schema}
  {entries : List (Value × Value)}

theorem object_of_accepts {value : Job → Value} (isEntries : input.entries? = some entries)
    (accepts : ∀ job ∈ Container.objectJobs shape (.ofCatchall catchall) entries,
      evaluate job.schema job.input = .ok (.accept (value job)))
    (noneRefused : Container.ExtraKeys.ofCatchall catchall = .refused →
      Container.extraEntries shape entries = []) :
    object evaluate shape catchall input =
      .ok (.accept (.mapping (objectOutputs value shape (.ofCatchall catchall) entries))) := by
  rw [object, isEntries, ← filterMap_objectJobs]
  simp only [parts_of_accepts accepts, Except.bind]
  cases extraKeys : Container.ExtraKeys.ofCatchall catchall with
  | kept =>
      simp only [Container.assembleObject, Container.issuesUnderKeys_append_kept,
        issuesUnderKeys_accepted, Container.outputEntries_append_kept,
        Container.outputEntries_accepted]
      rfl
  | refused =>
      rw [noneRefused extraKeys]
      simp only [Container.assembleObject, issuesUnderKeys_accepted,
        Container.outputEntries_accepted, List.append_nil]
      rfl
  | dropped | validated =>
      simp only [Container.assembleObject, issuesUnderKeys_accepted,
        Container.outputEntries_accepted, List.append_nil]
      rfl

theorem accepts_of_object (isEntries : input.entries? = some entries)
    (accepted : object evaluate shape catchall input = .ok (.accept data)) :
    (∀ job ∈ Container.objectJobs shape (.ofCatchall catchall) entries, Accepts evaluate job) ∧
      (Container.ExtraKeys.ofCatchall catchall = .refused →
        Container.extraEntries shape entries = []) := by
  rw [object, isEntries] at accepted
  obtain ⟨done, evaluated, assembles⟩ := (except_bind_eq_ok_iff _ _ _).mp accepted
  have acceptsParts (none : Container.issuesUnderKeys done = []) :=
    (parts_clean evaluated fun entry member =>
      Form.Accepts.result_clean_of_issuesUnderKeys none member).1
  cases extraKeys : Container.ExtraKeys.ofCatchall catchall with
  | refused =>
      rw [extraKeys] at assembles acceptsParts
      obtain ⟨refused, writes, assembled⟩ := (except_map_eq_ok_iff _ _ _).mp assembles
      obtain ⟨none, noKeys⟩ := List.append_eq_nil_iff.mp (congrArg Payload.issues assembled)
      refine ⟨acceptsParts none, fun _ => ?_⟩
      split at noKeys
      · rename_i isEmpty
        rw [List.isEmpty_iff.mp isEmpty] at writes
        have same := (mapM_eq_ok_iff _ _ _).mp writes
        simpa using same
      · cases noKeys
  | kept =>
      rw [extraKeys] at assembles acceptsParts
      have none := congrArg Payload.issues (Except.ok.inj assembles)
      simp only [Container.assembleObject, Container.issuesUnderKeys_append_kept] at none
      exact ⟨acceptsParts (List.append_eq_nil_iff.mp none).1, fun refused => by cases refused⟩
  | dropped | validated =>
      rw [extraKeys] at assembles acceptsParts
      have none := congrArg Payload.issues (Except.ok.inj assembles)
      exact ⟨acceptsParts (List.append_eq_nil_iff.mp none).1, fun refused => by cases refused⟩

theorem isFieldName_extraOutputs (value : Job → Value) (shape : List (String × Schema))
    (extraKeys : Container.ExtraKeys) (entries : List (Value × Value)) :
    ∀ entry ∈ extraOutputs value shape extraKeys entries,
      Container.isFieldName shape entry.1 = false := by
  have ofExtra : ∀ entry ∈ Container.extraEntries shape entries,
      Container.isFieldName shape entry.1 = false := by
    intro entry member
    simpa using (List.mem_filter.mp member).2
  intro entry member
  cases extraKeys with
  | kept => exact ofExtra entry member
  | validated schema =>
      obtain ⟨original, isExtra, rfl⟩ := List.mem_map.mp member
      exact ofExtra original isExtra
  | dropped | refused => cases member

/-- The entries that follow the fields of an object are the extra entries of its output, and stay
after the fields. -/
theorem extraOutputs_again {fields : List (Value × Value)} {value : Job → Value}
    {extraKeys : Container.ExtraKeys}
    (extra : Container.extraEntries shape (fields ++ extraOutputs value shape extraKeys entries) =
      extraOutputs value shape extraKeys entries) :
    extraOutputs Job.input shape extraKeys
        (fields ++ extraOutputs value shape extraKeys entries) =
      extraOutputs value shape extraKeys entries := by
  cases extraKeys with
  | kept => exact extra
  | validated schema =>
      change (Container.extraEntries shape (fields ++ _)).map
        (fun entry => (entry.1, entry.2)) = _
      rw [extra]
      exact List.map_id _
  | dropped | refused => rfl

/-- The fields of an output keep what stands under their names, and make the same entries again. -/
theorem fields_again {extra : List (Value × Value)} (distinct : (shape.map Prod.fst).Nodup)
    (repeats : ∀ part ∈ shape.map Prod.snd, evaluate.Repeats part)
    (accepts : ∀ field ∈ shape, Accepts evaluate (Container.fieldJob entries field))
    (outside : ∀ entry ∈ extra, Container.isFieldName shape entry.1 = false) :
    let outputs := (shape.map (Container.fieldJob entries)).filterMap
      (Container.outputOf (valueOf evaluate)) ++ extra
    (∀ field ∈ shape, evaluate.Keeps (Container.fieldJob outputs field).schema
        (Container.fieldJob outputs field).input) ∧
      (shape.map (Container.fieldJob outputs)).filterMap (Container.outputOf Job.input) =
        (shape.map (Container.fieldJob entries)).filterMap
          (Container.outputOf (valueOf evaluate)) := by
  intro outputs
  have noName : ∀ field ∈ shape, ∀ entry ∈ extra, entry.1 ≠ .text field.1 := by
    intro field isField entry isExtra same
    have isName := Container.isFieldName_of_mem isField
    rw [← same, outside entry isExtra] at isName
    cases isName
  have again (field : String × Schema) (member : field ∈ shape) :=
    keeps_fieldJob (repeats field.2 (List.mem_map_of_mem member)) (accepts field member)
      (Container.find?_outputs distinct noName member)
  refine ⟨fun field member => (again field member).1, ?_⟩
  rw [List.filterMap_map, List.filterMap_map]
  exact List.filterMap_congr fun field member => (again field member).2

theorem keeps_extraJobs {outputs : List (Value × Value)}
    (repeats : ∀ part ∈ shape.map Prod.snd ++ catchall.toList, evaluate.Repeats part)
    (accepts : ∀ job ∈ Container.objectJobs shape (.ofCatchall catchall) entries,
      Accepts evaluate job)
    (extra : Container.extraEntries shape outputs =
      extraOutputs (valueOf evaluate) shape (.ofCatchall catchall) entries) {job : Job}
    (member : job ∈ (match Container.ExtraKeys.ofCatchall catchall with
      | .validated schema =>
          (Container.extraEntries shape outputs).map fun entry => ⟨entry.1, true, schema, entry.2⟩
      | _ => [] : List Job)) :
    evaluate.Keeps job.schema job.input := by
  cases extraKeys : Container.ExtraKeys.ofCatchall catchall with
  | validated schema =>
      rw [extraKeys] at member extra accepts
      obtain ⟨entry, isExtra, rfl⟩ := List.mem_map.mp member
      rw [extra] at isExtra
      obtain ⟨original, isOriginal, rfl⟩ := List.mem_map.mp isExtra
      have isPart : schema ∈ shape.map Prod.snd ++ catchall.toList := by
        rw [Container.catchall_of_validated extraKeys]
        exact List.mem_append_right _ (by simp)
      exact repeats schema isPart _ _
        (accepts _ (List.mem_append_right _ (List.mem_map_of_mem isOriginal)))
  | _ =>
      rw [extraKeys] at member
      cases member

/-- What an object brings is kept by it: every field is found again, and every extra entry. -/
theorem object_again (distinct : (shape.map Prod.fst).Nodup)
    (repeats : ∀ part ∈ shape.map Prod.snd ++ catchall.toList, evaluate.Repeats part)
    (accepted : object evaluate shape catchall input = .ok (.accept data)) :
    ∃ outputs, data = .mapping outputs ∧ ∀ again : Value, again.entries? = some outputs →
      object evaluate shape catchall again = .ok (.accept (.mapping outputs)) := by
  cases isEntries : input.entries? with
  | none =>
      rw [object, isEntries] at accepted
      cases accepted
  | some entries =>
      obtain ⟨accepts, noneRefused⟩ := accepts_of_object isEntries accepted
      rw [object_of_accepts isEntries accepts noneRefused] at accepted
      refine ⟨_, (Payload.accept_inj (Except.ok.inj accepted)).symm, fun again isAgain => ?_⟩
      have outside := isFieldName_extraOutputs (valueOf evaluate) shape (.ofCatchall catchall) entries
      have extra : Container.extraEntries shape
          (objectOutputs (valueOf evaluate) shape (.ofCatchall catchall) entries) =
            extraOutputs (valueOf evaluate) shape (.ofCatchall catchall) entries :=
        Container.extraEntries_outputs outside
      obtain ⟨keepsFields, sameFields⟩ := fields_again distinct
        (fun part member => repeats part (List.mem_append_left _ member))
        (fun field member => accepts _ (List.mem_append_left _ (List.mem_map_of_mem member))) outside
      have keeps : ∀ job ∈ Container.objectJobs shape (.ofCatchall catchall)
          (objectOutputs (valueOf evaluate) shape (.ofCatchall catchall) entries),
          evaluate.Keeps job.schema job.input := by
        intro job member
        rcases List.mem_append.mp member with ofField | ofExtra
        · obtain ⟨field, isField, rfl⟩ := List.mem_map.mp ofField
          exact keepsFields field isField
        · exact keeps_extraJobs repeats accepts extra ofExtra
      rw [object_of_accepts isAgain keeps]
      · rw [objectOutputs, objectOutputs, sameFields, extraOutputs_again extra]
      · intro refused
        rw [extra, refused]
        rfl

end Evaluation
end TypedTables
