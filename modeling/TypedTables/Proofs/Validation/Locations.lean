import Mathlib.Data.List.Permutation
import TypedTables.Proofs.Validation.Accepted
import TypedTables.Proofs.Value.Freezing
import TypedTables.Proofs.Value.Walking

/-!
# Where issues are

An issue tells a path and the value it is about. As long as no schema changes a value before another
one sees it, the path leads from the whole input to that value. Containers put the key of a part in
front of the path, and the part stands under that key; every other schema hands its input on. The
issue of a refused key is the exception: it is about the key and not about what stands under it.
-/

namespace TypedTables

/-! ## Issues and payloads in their places -/

/-- The path of the issue leads to what it is about, unless it is about a key. -/
def Issue.IsFoundIn (input : Value) (issue : Issue) : Prop :=
  issue.code ≠ .invalidKey → input.walk? issue.path = some issue.input

/-- The issues are found in the input, and absence comes from absence. -/
structure Payload.LiesIn (input : Value) (payload : Payload) : Prop where
  found : ∀ issue ∈ payload.issues, issue.IsFoundIn input
  present : payload.isClean = true → payload.value.isUndefined = true → input.isUndefined = true

/-- Evaluating the schema keeps issues in their places. -/
def Evaluator.Locates (evaluate : Evaluator) (schema : Schema) : Prop :=
  ∀ input payload, input.HasDistinctKeys → evaluate schema input = .ok payload →
    payload.LiesIn input

namespace Issue.IsFoundIn

variable {input part segment : Value} {issue : Issue}

theorem of_root (root : issue.path = []) (same : issue.input = input) : issue.IsFoundIn input := by
  intro _
  rw [root, same]
  rfl

theorem within (leads : input.step? segment = some part) (found : issue.IsFoundIn part) :
    (issue.within segment).IsFoundIn input := by
  intro notKey
  rw [Issue.within_path, Value.walk?_cons leads]
  exact found notKey

end Issue.IsFoundIn

namespace Payload.LiesIn

variable {input : Value}

theorem accept (input : Value) : (Payload.accept input).LiesIn input where
  found _ member := absurd member List.not_mem_nil
  present _ absent := absent

theorem accept_present {value : Value} (isPresent : value.isUndefined = false) :
    (Payload.accept value).LiesIn input where
  found _ member := absurd member List.not_mem_nil
  present _ absent := absurd (isPresent.symm.trans absent) Bool.false_ne_true

theorem reject {value : Value} {issue : Issue} (root : issue.path = [])
    (same : issue.input = input) : (Payload.reject value issue).LiesIn input where
  found other member := by
    rw [List.mem_singleton.mp member]
    exact .of_root root same
  present clean := absurd clean Bool.false_ne_true

theorem wrongKind (expected : String) (input : Value) :
    (Payload.wrongKind expected input).LiesIn input :=
  reject rfl rfl

theorem of_issues {payload : Payload} (isPresent : payload.value.isUndefined = false)
    (found : ∀ issue ∈ payload.issues, issue.IsFoundIn input) : payload.LiesIn input where
  found := found
  present _ absent := absurd (isPresent.symm.trans absent) Bool.false_ne_true

end Payload.LiesIn

/-! ## Leaves -/

namespace Leaf

open Payload

variable {input : Value}

theorem AllAbout.found {issues : List Issue} (about : AllAbout input issues) :
    ∀ issue ∈ issues, issue.IsFoundIn input := by
  intro issue member
  obtain ⟨code, message, rfl⟩ := about issue member
  exact .of_root rfl rfl

theorem AllAbout.liesIn {payload : Payload} (same : payload.value = input)
    (about : AllAbout input payload.issues) : payload.LiesIn input where
  found := about.found
  present _ absent := same ▸ absent

theorem liesIn_text {rules : TextRules} {payload : Payload} (uncoerced : rules.coerce = false)
    (brings : text rules input = .ok payload) : payload.LiesIn input := by
  cases input with
  | text characters =>
      refine .of_issues ?_ (allAbout_text brings).found
      rcases text_eq_ok brings with ⟨written, isText⟩ | refused
      · rw [isText]
        rfl
      · rw [refused]
        rfl
  | _ =>
      rw [text, if_neg (by simp [uncoerced])] at brings
      cases brings
      exact .wrongKind _ _

theorem liesIn_number {rules : NumberRules} {payload : Payload} (uncoerced : rules.coerce = false)
    (brings : number rules input = .ok payload) : payload.LiesIn input := by
  have same : payload.value = input := by simpa [uncoerced] using value_number brings
  rcases allAbout_number brings with ⟨expected, refused⟩ | about
  · rw [refused, same]
    exact .wrongKind _ _
  · rw [same] at about
    exact about.liesIn same

theorem liesIn_bigint (format : Option String) (input : Value) :
    (bigint format input).LiesIn input := by
  unfold bigint
  cases input with
  | integer number =>
      simp only
      split
      · exact .accept _
      · split
        · exact .reject rfl rfl
        · split
          · exact .reject rfl rfl
          · exact .accept _
  | _ => exact .wrongKind _ _

theorem liesIn_checkUuid (format : String) (identifier : Uuid) (input : Value) :
    (checkUuid format identifier input).LiesIn input := by
  unfold checkUuid
  simp only
  split
  · exact .accept_present rfl
  · split
    · exact .reject rfl rfl
    · split
      · exact .accept_present rfl
      · split
        · exact .accept_present rfl
        · exact .reject rfl rfl

theorem liesIn_uuid (format : String) (input : Value) : (uuid format input).LiesIn input := by
  unfold uuid
  cases input with
  | uuid identifier => exact liesIn_checkUuid _ _ _
  | text written =>
      simp only
      split
      · exact liesIn_checkUuid _ _ _
      · exact .reject rfl rfl
  | _ => exact .wrongKind _ _

theorem liesIn_date (input : Value) : (date false input).LiesIn input := by
  unfold date
  cases input with
  | timestamp moment => exact .accept _
  | _ => exact .wrongKind _ _

theorem liesIn_ofKind (expected : String) (passes : Value → Bool) (input : Value) :
    (ofKind expected passes input).LiesIn input := by
  unfold ofKind
  split
  · exact .accept _
  · exact .wrongKind _ _

theorem liesIn_literal (values : List Value) (input : Value) :
    (literal values input).LiesIn input := by
  unfold literal
  split
  · exact .accept _
  · exact .reject rfl rfl

end Leaf

theorem Leaf.liesIn_listed {values : List Value} {input value : Value} {issue : Issue}
    (listed : ∀ expected ∈ values, expected.isUndefined = false) (root : issue.path = [])
    (same : issue.input = input) :
    (if values.any fun expected => Value.sameLiteral expected value then Payload.accept value
      else Payload.reject input issue).LiesIn input := by
  split
  · rename_i found
    obtain ⟨expected, member, equal⟩ := List.any_eq_true.mp found
    cases absent : value.isUndefined with
    | false => exact .accept_present absent
    | true =>
        have undefinedListed := Value.isUndefined_of_sameLiteral equal absent
        rw [listed expected member] at undefinedListed
        cases undefinedListed
  · exact .reject root same

/-! ## Forms that keep places -/

namespace Form

/-- The form hands values on as they are: it coerces nothing, supplies nothing, and takes nothing
apart that has no paths. -/
def KeepsPlaces : Form Schema → Prop
  | .text rules => rules.coerce = false
  | .number rules => rules.coerce = false
  | .date coerce => coerce = false
  | .enumeration values => ∀ value ∈ values, value.isUndefined = false
  | .set .. | .default .. | .prefault .. | .fallback .. | .transform _ | .pipe .. => False
  | _ => True

end Form

/-- The form of the schema keeps places, and nothing is checked after it. -/
def Schema.KeepsPlaces (schema : Schema) : Prop :=
  schema.refinements = [] ∧ schema.form.KeepsPlaces

theorem Leaf.liesIn_payload {form : Form Schema} {input : Value} {payload : Payload}
    (keeps : form.KeepsPlaces) (brings : payload? form input = some (.ok payload)) :
    payload.LiesIn input := by
  cases form with
  | any | unknown =>
      cases brings
      exact .accept _
  | never =>
      cases brings
      exact .wrongKind _ _
  | undefined | void | null | boolean | symbol | function =>
      cases brings
      exact liesIn_ofKind _ _ _
  | text rules => exact liesIn_text keeps (Option.some.inj brings)
  | uuid format =>
      cases brings
      exact liesIn_uuid _ _
  | number rules => exact liesIn_number keeps (Option.some.inj brings)
  | bigint format =>
      cases brings
      exact liesIn_bigint _ _
  | date coerce =>
      cases brings
      rw [show coerce = false from keeps]
      exact liesIn_date _
  | enumeration values =>
      cases brings
      exact liesIn_listed keeps rfl rfl
  | literal values =>
      cases brings
      exact liesIn_literal _ _
  | _ => cases brings

/-! ## Containers -/

namespace Evaluation

variable {evaluate : Evaluator} {input : Value}

theorem found_of_issuesUnderKeys {jobs : List Job} {done : List (Entry Payload)}
    (evaluated : parts evaluate jobs = .ok done)
    (distinct : input.HasDistinctKeys)
    (leads : ∀ job ∈ jobs, input.step? job.key = some job.input)
    (locates : ∀ job ∈ jobs, evaluate.Locates job.schema) :
    ∀ issue ∈ Container.issuesUnderKeys done, issue.IsFoundIn input := by
  intro issue member
  obtain ⟨entry, isEntry, ofEntry⟩ := List.mem_flatMap.mp member
  obtain ⟨inner, isInner, rfl⟩ := List.mem_map.mp ofEntry
  obtain ⟨job, isJob, comes, sameKey⟩ := mem_of_parts evaluated isEntry
  have step := leads job isJob
  have lies := locates job isJob job.input entry.result (distinct.step step) comes
  rw [sameKey]
  exact (lies.found inner isInner).within step

theorem step?_of_mem_objectJobs {shape : List (String × Schema)}
    {extraKeys : Container.ExtraKeys} {entries : List (Value × Value)} {job : Job}
    (isEntries : input.entries? = some entries) (distinct : Value.Distinct (entries.map Prod.fst))
    (member : job ∈ Container.objectJobs shape extraKeys entries) :
    input.step? job.key = some job.input := by
  rcases Container.mem_objectJobs member with ⟨field, -, rfl⟩ | ⟨schema, entry, -, isEntry, rfl⟩
  · rw [Container.key_fieldJob, Value.step?_of_entries isEntries, Container.fieldJob]
    cases Value.find? (.text field.1) entries <;> rfl
  · exact Value.step?_of_mem isEntries distinct isEntry

theorem liesIn_object {shape : List (String × Schema)} {catchall : Option Schema}
    {payload : Payload} (distinct : input.HasDistinctKeys)
    (locates : ∀ part ∈ shape.map Prod.snd ++ catchall.toList, evaluate.Locates part)
    (evaluates : object evaluate shape catchall input = .ok payload) : payload.LiesIn input := by
  unfold object at evaluates
  cases isEntries : input.entries? with
  | none =>
      rw [isEntries] at evaluates
      cases evaluates
      exact .wrongKind _ _
  | some entries =>
      rw [isEntries] at evaluates
      obtain ⟨done, evaluated, assembles⟩ := (except_bind_eq_ok_iff _ _ _).mp evaluates
      have found := found_of_issuesUnderKeys evaluated distinct
        (fun job member => step?_of_mem_objectJobs isEntries (distinct.entries isEntries) member)
        (fun job member => locates _ (Container.schema_of_mem_objectJobs member))
      have assembled (refused : List String) (results : List (Entry Payload))
          (same : Container.issuesUnderKeys results = Container.issuesUnderKeys done) :
          (Container.assembleObject input refused results).LiesIn input := by
        refine .of_issues rfl fun issue member => ?_
        rcases List.mem_append.mp member with ofPart | ofKeys
        · exact found issue (same ▸ ofPart)
        · split at ofKeys
          · cases ofKeys
          · rw [List.mem_singleton.mp ofKeys]
            exact .of_root rfl rfl
      split at assembles
      · obtain ⟨refused, -, rfl⟩ := (except_map_eq_ok_iff _ _ _).mp assembles
        exact assembled refused done rfl
      · cases assembles
        exact assembled [] _ (Container.issuesUnderKeys_append_kept done _)
      all_goals
        cases assembles
        exact assembled [] done rfl

theorem liesIn_list {schemaAt : Nat → Schema} {items : List Value} {sizes : List Issue}
    {done : List (Entry Payload)} (isItems : input.items? = some items)
    (distinct : input.HasDistinctKeys)
    (locates : ∀ job ∈ Container.indexedJobs schemaAt items, evaluate.Locates job.schema)
    (about : Leaf.AllAbout input sizes)
    (evaluated : parts evaluate (Container.indexedJobs schemaAt items) = .ok done) :
    (Container.assembleList sizes done).LiesIn input := by
  have leads : ∀ job ∈ Container.indexedJobs schemaAt items,
      input.step? job.key = some job.input := by
    intro job member
    obtain ⟨index, item, isItem, rfl⟩ := Container.mem_indexedJobs member
    rw [Value.step?_of_items isItems, isItem]
  refine .of_issues rfl fun issue member => ?_
  rcases List.mem_append.mp member with ofSize | ofPart
  · exact about.found issue ofSize
  · exact found_of_issuesUnderKeys evaluated distinct leads locates issue ofPart

theorem liesIn_array {element : Schema} {least most : Option Value} {payload : Payload}
    (distinct : input.HasDistinctKeys) (locates : evaluate.Locates element)
    (evaluates : array evaluate element least most input = .ok payload) : payload.LiesIn input := by
  unfold array at evaluates
  cases isItems : input.items? with
  | none =>
      rw [isItems] at evaluates
      cases evaluates
      exact .wrongKind _ _
  | some items =>
      rw [isItems] at evaluates
      obtain ⟨sizes, bounded, remaining⟩ := (except_bind_eq_ok_iff _ _ _).mp evaluates
      obtain ⟨done, evaluated, rfl⟩ := (except_map_eq_ok_iff _ _ _).mp remaining
      refine liesIn_list isItems distinct ?_ (Leaf.allAbout_boundIssues bounded) evaluated
      intro job member
      obtain ⟨index, item, -, rfl⟩ := Container.mem_indexedJobs member
      exact locates

theorem liesIn_tuple {items : List Schema} {rest : Option Schema} {payload : Payload}
    (distinct : input.HasDistinctKeys)
    (locates : ∀ part ∈ items ++ rest.toList, evaluate.Locates part)
    (evaluates : tuple evaluate items rest input = .ok payload) : payload.LiesIn input := by
  unfold tuple at evaluates
  cases isItems : input.items? with
  | none =>
      rw [isItems] at evaluates
      cases evaluates
      exact .wrongKind _ _
  | some values =>
      rw [isItems] at evaluates
      simp only at evaluates
      split at evaluates
      · cases evaluates
        exact .reject rfl rfl
      · split at evaluates
        · cases evaluates
          exact .reject rfl rfl
        · rename_i fits
          obtain ⟨done, evaluated, rfl⟩ := (except_map_eq_ok_iff _ _ _).mp evaluates
          exact liesIn_list isItems distinct
            (fun job member => locates _ (Container.schema_of_mem_indexedJobs fits member))
            Leaf.allAbout_nil evaluated

/-- Assembling a keyed collection keeps issues in their places. The induction is on the entries that
are left: the first two results are those of a key and of the value under it. -/
theorem liesIn_assembleKeyed {label : String} {key value : Schema}
    {entries : List (Value × Value)} {done : List (Entry Payload)} {start payload : Payload}
    (distinct : input.HasDistinctKeys)
    (leads : ∀ entry ∈ entries, input.step? entry.1 = some entry.2)
    (locates : evaluate.Locates value)
    (evaluated : parts evaluate (Container.keyedJobs key value entries) = .ok done)
    (starts : start.value.isUndefined = false)
    (found : ∀ issue ∈ start.issues, issue.IsFoundIn input)
    (assembles : Container.assembleKeyed label done start = .ok payload) :
    payload.LiesIn input := by
  induction entries generalizing done start with
  | nil =>
      cases evaluated
      cases assembles
      exact .of_issues starts found
  | cons entry rest ih =>
      obtain ⟨keyPayload, valuePayload, others, -, ofValue, further, rfl⟩ :=
        (parts_keyedJobs_cons_eq_ok_iff _ _ _ _ _).mp evaluated
      have leadsRest : ∀ other ∈ rest, input.step? other.1 = some other.2 :=
        fun other member => leads other (List.mem_cons_of_mem _ member)
      have step := leads entry (by simp)
      have lies := locates entry.2 valuePayload (distinct.step step) ofValue
      have foundValue : ∀ issue ∈ start.issues ++ valuePayload.issues.map (Issue.within entry.1),
          issue.IsFoundIn input := by
        intro issue member
        rcases List.mem_append.mp member with before | here
        · exact found issue before
        · obtain ⟨inner, isInner, rfl⟩ := List.mem_map.mp here
          exact (lies.found inner isInner).within step
      rw [Container.assembleKeyed] at assembles
      split at assembles
      · obtain ⟨issue, refused, remaining⟩ := (except_bind_eq_ok_iff _ _ _).mp assembles
        refine ih leadsRest further ?_ ?_ remaining
        · exact starts
        intro other member
        rcases List.mem_append.mp member with before | here
        · exact found other before
        · obtain ⟨segment, -, rfl⟩ := (except_map_eq_ok_iff _ _ _).mp refused
          rw [List.mem_singleton.mp here]
          exact fun notKey => absurd rfl notKey
      · split at assembles
        · refine ih leadsRest further ?_ ?_ assembles
          · exact starts
          · exact foundValue
        · split at assembles
          · cases assembles
          · exact ih leadsRest further rfl foundValue assembles

theorem liesIn_keyed {label : String} {key value : Schema} {payload : Payload}
    (distinct : input.HasDistinctKeys) (locates : evaluate.Locates value)
    (evaluates : keyed evaluate label key value input = .ok payload) : payload.LiesIn input := by
  unfold keyed at evaluates
  cases isEntries : input.entries? with
  | none =>
      rw [isEntries] at evaluates
      cases evaluates
      exact .wrongKind _ _
  | some entries =>
      rw [isEntries] at evaluates
      obtain ⟨done, evaluated, assembles⟩ := (except_bind_eq_ok_iff _ _ _).mp evaluates
      have leads : ∀ entry ∈ entries, input.step? entry.1 = some entry.2 :=
        fun entry member => Value.step?_of_mem isEntries (distinct.entries isEntries) member
      exact liesIn_assembleKeyed distinct leads locates evaluated rfl
        (fun _ member => absurd member List.not_mem_nil) assembles

/-! ## Unions and intersections -/

theorem liesIn_firstAccepting {options : List Schema} {refusals : List (List Issue)}
    {payload : Payload} (distinct : input.HasDistinctKeys)
    (locates : ∀ option ∈ options, evaluate.Locates option)
    (evaluates : firstAccepting evaluate input options refusals = .ok payload) :
    payload.LiesIn input := by
  induction options generalizing refusals with
  | nil =>
      cases evaluates
      exact .reject rfl rfl
  | cons option rest ih =>
      obtain ⟨answer, ofOption, remaining⟩ := (except_bind_eq_ok_iff _ _ _).mp evaluates
      have lies := locates option (by simp) input answer distinct ofOption
      split at remaining
      · rename_i clean
        cases remaining
        exact ⟨fun _ member => absurd member List.not_mem_nil, fun _ => lies.present clean⟩
      · exact ih (fun next member => locates next (List.mem_cons_of_mem _ member)) remaining

end Evaluation

theorem Value.isUndefined_of_merge {left right merged : Value}
    (merges : merge left right = some merged) (absent : merged.isUndefined = true) :
    left.isUndefined = true := by
  rw [merge.eq_def] at merges
  split at merges
  · cases merges
    exact absent
  · cases left with
    | mapping entries | frozenMapping entries =>
        simp only at merges
        split at merges
        · obtain ⟨entries, -, rfl⟩ := Option.map_eq_some_iff.mp merges
          cases absent
        · cases merges
    | list items =>
        simp only at merges
        split at merges
        · obtain ⟨items, -, rfl⟩ := Option.map_eq_some_iff.mp merges
          cases absent
        · cases merges
    | _ => cases merges

theorem Combination.liesIn_assembleIntersection {input : Value} {done : List (Entry Payload)}
    (lies : ∀ entry ∈ done, entry.result.LiesIn input) :
    (assembleIntersection input done).LiesIn input := by
  unfold assembleIntersection
  simp only
  split
  · rename_i refused
    constructor
    · intro issue member
      obtain ⟨entry, isEntry, ofEntry⟩ := List.mem_flatMap.mp member
      exact (lies entry isEntry).found issue ofEntry
    · intro clean
      rw [Payload.isClean] at clean
      rw [clean] at refused
      cases refused
  · rename_i accepted
    have noIssues : done.flatMap (fun entry => entry.result.issues) = [] := by
      simpa using accepted
    split
    · rename_i left right
      split
      · rename_i merged merges
        have leftClean : left.result.isClean = true :=
          List.isEmpty_iff.mpr (List.flatMap_eq_nil_iff.mp noIssues left (by simp))
        refine ⟨fun _ member => absurd member List.not_mem_nil, fun _ absent => ?_⟩
        exact (lies left (by simp)).present leftClean (Value.isUndefined_of_merge merges absent)
      · exact .reject rfl rfl
    · exact .accept _

/-! ## Schemas that keep places -/

namespace Evaluation

variable {environment : Environment} {evaluate : Evaluator} {input : Value} {payload : Payload}

theorem liesIn_intersection {left right : Schema} (distinct : input.HasDistinctKeys)
    (locatesLeft : evaluate.Locates left) (locatesRight : evaluate.Locates right)
    (evaluates : intersection evaluate left right input = .ok payload) : payload.LiesIn input := by
  obtain ⟨done, evaluated, rfl⟩ := (except_map_eq_ok_iff _ _ _).mp evaluates
  apply Combination.liesIn_assembleIntersection
  intro entry member
  obtain ⟨job, isJob, comes, -⟩ := mem_of_parts evaluated member
  simp only [List.mem_cons, List.not_mem_nil, or_false] at isJob
  rcases isJob with rfl | rfl
  · exact locatesLeft input entry.result distinct comes
  · exact locatesRight input entry.result distinct comes

theorem liesIn_reference {tables : Option (List String)} {identifier : Schema}
    (distinct : input.HasDistinctKeys) (locates : evaluate.Locates identifier)
    (evaluates : reference evaluate tables identifier input = .ok payload) :
    payload.LiesIn input := by
  unfold reference at evaluates
  cases input with
  | record table value =>
      simp only at evaluates
      split at evaluates
      · cases evaluates
        exact .reject rfl rfl
      · obtain ⟨brought, ofIdentifier, rfl⟩ := (except_map_eq_ok_iff _ _ _).mp evaluates
        have step : (Value.record table value).step? (.text "id") = some value := rfl
        have lies := locates value brought (distinct.step step) ofIdentifier
        unfold Wrapper.rebuildRecord
        split
        · exact .accept_present rfl
        · refine .of_issues rfl fun issue member => ?_
          obtain ⟨inner, isInner, rfl⟩ := List.mem_map.mp member
          exact (lies.found inner isInner).within step
  | _ =>
      cases evaluates
      exact .wrongKind _ _

theorem liesIn_demandPresent (lies : payload.LiesIn input) :
    (Wrapper.demandPresent payload).LiesIn input := by
  unfold Wrapper.demandPresent
  split
  · rename_i absent
    obtain ⟨clean, isAbsent⟩ := Bool.and_eq_true_iff.mp absent
    have absentInput := lies.present clean isAbsent
    refine .reject rfl ?_
    cases input with
    | undefined =>
        cases value : payload.value with
        | undefined => rfl
        | _ => rw [value] at isAbsent; cases isAbsent
    | _ => cases absentInput
  · exact lies

theorem liesIn_freezeClean (lies : payload.LiesIn input) :
    (Wrapper.freezeClean payload).LiesIn input := by
  unfold Wrapper.freezeClean
  split
  · rename_i clean
    refine ⟨lies.found, fun _ absent => lies.present clean ?_⟩
    cases value : payload.value with
    | undefined => rfl
    | _ => simp [value, Wrapper.freeze, Value.isUndefined] at absent
  · exact lies

/-- A form keeps places when its parts, and what it is resolved to, do. -/
theorem liesIn_form {form : Form Schema} (keeps : form.KeepsPlaces)
    (distinct : input.HasDistinctKeys) (locates : ∀ part ∈ form.parts, evaluate.Locates part)
    (resolved : ∀ target schema, form = .lazily target → environment.resolve target = .ok schema →
      evaluate.Locates schema)
    (evaluates : Evaluation.form environment evaluate form input = .ok payload) :
    payload.LiesIn input := by
  cases form with
  | object shape catchall => exact liesIn_object distinct locates evaluates
  | table described =>
      exact liesIn_object distinct (by simpa [Form.parts] using locates) evaluates
  | array element least most =>
      exact liesIn_array distinct (locates element (by simp [Form.parts])) evaluates
  | tuple items rest => exact liesIn_tuple distinct locates evaluates
  | record key value | map key value =>
      exact liesIn_keyed distinct (locates value (by simp [Form.parts])) evaluates
  | union options => exact liesIn_firstAccepting distinct locates evaluates
  | intersection left right =>
      exact liesIn_intersection distinct (locates left (by simp [Form.parts]))
        (locates right (by simp [Form.parts])) evaluates
  | optional inner =>
      rw [Evaluation.form] at evaluates
      split at evaluates
      · cases evaluates
        exact .accept _
      · exact locates inner (by simp [Form.parts]) input payload distinct evaluates
  | nullable inner =>
      rw [Evaluation.form] at evaluates
      split at evaluates
      · cases evaluates
        exact .accept _
      · exact locates inner (by simp [Form.parts]) input payload distinct evaluates
  | nonoptional inner =>
      obtain ⟨brought, comes, rfl⟩ := (except_map_eq_ok_iff _ _ _).mp evaluates
      exact liesIn_demandPresent (locates inner (by simp [Form.parts]) input brought distinct comes)
  | readonly inner =>
      obtain ⟨brought, comes, rfl⟩ := (except_map_eq_ok_iff _ _ _).mp evaluates
      exact liesIn_freezeClean (locates inner (by simp [Form.parts]) input brought distinct comes)
  | promise inner =>
      rw [Evaluation.form] at evaluates
      split at evaluates
      · cases evaluates
      · exact locates inner (by simp [Form.parts]) input payload distinct evaluates
  | lazily target =>
      obtain ⟨schema, resolves, comes⟩ := (except_bind_eq_ok_iff _ _ _).mp evaluates
      exact resolved target schema rfl resolves input payload distinct comes
  | reference tables identifier =>
      exact liesIn_reference distinct (locates identifier (by simp [Form.parts])) evaluates
  | custom check message =>
      cases check with
      | none =>
          cases evaluates
          exact .accept _
      | some function =>
          obtain ⟨verdict, -, rfl⟩ := (except_map_eq_ok_iff _ _ _).mp evaluates
          split
          · exact .accept _
          · exact .reject rfl rfl
  | set | default | prefault | fallback | transform | pipe => exact keeps.elim
  | _ => exact Leaf.liesIn_payload keeps (congrArg some evaluates)

/-- Evaluating to any depth keeps issues in their places. The induction is on the depth. -/
theorem locates_within {schema : Schema}
    (keeps : schema.Everywhere environment Schema.KeepsPlaces) (limit : Nat) :
    (within environment limit).Locates schema := by
  induction limit generalizing schema with
  | zero =>
      intro input payload distinct evaluates
      cases evaluates
  | succ limit ih =>
      intro input payload distinct evaluates
      obtain ⟨unchecked, keepsForm⟩ := keeps.here
      obtain ⟨formed, evaluatesForm, refines⟩ := (except_bind_eq_ok_iff _ _ _).mp evaluates
      rw [unchecked, refine_nil] at refines
      cases refines
      exact liesIn_form keepsForm distinct (fun part member => ih (keeps.part member))
        (fun target resolved isLazy resolves => ih (keeps.resolved isLazy resolves)) evaluatesForm

end Evaluation

/-- The path of every reported issue leads from the input to the value that the issue is about,
unless it is about a refused key: in a schema that hands values on as they are, on an input whose
mappings have distinct keys. -/
theorem walk?_path_of_rejected {limit : Nat} {schema : Schema} {environment : Environment}
    {input : Value} {issues : List Issue} {message : String}
    (keeps : schema.Everywhere environment Schema.KeepsPlaces)
    (distinct : input.HasDistinctKeys)
    (rejects : (schema.safeParseWithin limit environment input).outcome =
      .ok (.rejected issues message)) :
    ∀ issue ∈ issues, issue.code ≠ .invalidKey → input.walk? issue.path = some issue.input := by
  obtain ⟨payload, evaluates, -, rfl⟩ := exists_within_of_rejected rejects
  exact (Evaluation.locates_within keeps limit input payload distinct evaluates).found

/-- A person without a name, and with a tag that is no text. -/
theorem walk?_path_of_rejected_person :
    let text : Schema := .anonymous (.text Schema.freeText)
    let person : Schema :=
      .anonymous (.object [("name", text), ("tags", .anonymous (.array text none none))] none)
    let input : Value := .mapping [(.text "tags", .list [.text "a", .null])]
    let missing : Issue := (Issue.wrongKind "string" .undefined).within (.text "name")
    let wrong : Issue := ((Issue.wrongKind "string" .null).within (.integer 1)).within (.text "tags")
    ∃ message, (person.safeParseWithin 3 ⟨[], none⟩ input).outcome =
        .ok (.rejected [missing, wrong] message) ∧
      ∀ issue ∈ [missing, wrong], issue.code ≠ .invalidKey →
        input.walk? issue.path = some issue.input := by
  intro text person input missing wrong
  have keepsText : text.Everywhere ⟨[], none⟩ Schema.KeepsPlaces :=
    .of_leaf ⟨rfl, rfl⟩ rfl fun target isLazy => by cases isLazy
  have keeps : person.Everywhere ⟨[], none⟩ Schema.KeepsPlaces := by
    refine .of_parts ⟨rfl, trivial⟩ (fun target isLazy => by cases isLazy) fun part member => ?_
    rcases List.mem_cons.mp member with rfl | isTags
    · exact keepsText
    · rw [List.mem_singleton.mp isTags]
      exact .of_single ⟨rfl, trivial⟩ rfl (fun target isLazy => by cases isLazy) keepsText
  have distinct : input.HasDistinctKeys := by
    refine .mapping (List.pairwise_singleton _ _) fun entry member => ?_
    rw [List.mem_singleton.mp member]
    refine .list fun item isItem => ?_
    rcases List.mem_cons.mp isItem with rfl | isNull
    · exact .of_no_step fun _ => rfl
    · rw [List.mem_singleton.mp isNull]
      exact .of_no_step fun _ => rfl
  have evaluated : Evaluation.within ⟨[], none⟩ 3 person input =
      .ok ⟨input, [missing, wrong]⟩ := by cbv
  have reports : ∃ message, Issue.report [missing, wrong] = .ok message := ⟨_, rfl⟩
  obtain ⟨message, reported⟩ := reports
  have rejects : (person.safeParseWithin 3 ⟨[], none⟩ input).outcome =
      .ok (.rejected [missing, wrong] message) := by
    rw [outcome_safeParseWithin, evaluated]
    change (Issue.report [missing, wrong]).map _ = _
    rw [reported]
    rfl
  exact ⟨message, rejects, walk?_path_of_rejected keeps distinct rejects⟩

end TypedTables
