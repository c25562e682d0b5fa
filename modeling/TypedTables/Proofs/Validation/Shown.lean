import TypedTables.Proofs.Schema.Wraps
import TypedTables.Proofs.Validation.Objects
import TypedTables.Proofs.Validation.Unions
import TypedTables.Proofs.Validation.Leaves
import TypedTables.Proofs.Value.Equivalence

/-!
# What issues show

An issue shows the value it is about, the keys and indices on the way to it, and the issues of the
options and keys that were refused; some issues show what a schema lists. All of this stands in the
input, or in what schemas bring on the way. A property that a value hands on to what stands inside
it therefore holds of everything that the issues show, as long as the parts of a schema keep it.
-/

namespace TypedTables

/-- A property of values with nothing inside, which a value hands on to what stands inside it and to
what awaiting it brings. -/
structure Value.IsInherited (property : Value → Prop) : Prop where
  simple {value : Value} : value.parts = [] → value.isAwaitable = false → property value
  items {value : Value} {items : List Value} : property value → value.items? = some items →
    ∀ item ∈ items, property item
  members {value : Value} {members : List Value} : property value → value.members? = some members →
    ∀ member ∈ members, property member
  entries {value : Value} {entries : List (Value × Value)} : property value →
    value.entries? = some entries → ∀ entry ∈ entries, property entry.1 ∧ property entry.2
  identifier {table : String} {value : Value} : property (.record table value) → property value
  awaited {value answer : Value} : property value → value.awaited.outcome = .ok answer →
    property answer

/-- Everything that an issue shows has a property, and what it lists another. -/
inductive Issue.ShowsOnly (shown listed : Value → Prop) : Issue → Prop where
  | intro {issue : Issue} (input : shown issue.input)
      (path : ∀ segment ∈ issue.path, shown segment)
      (values : ∀ values ∈ issue.values, ∀ value ∈ values, listed value)
      (errors : ∀ refusals ∈ issue.errors, ∀ issues ∈ refusals, ∀ inner ∈ issues,
        inner.ShowsOnly shown listed) : issue.ShowsOnly shown listed

structure Payload.ShowsOnly (shown listed : Value → Prop) (payload : Payload) : Prop where
  value : shown payload.value
  issues : ∀ issue ∈ payload.issues, issue.ShowsOnly shown listed

/-- From values with a property the schema settles to payloads that show nothing else. -/
def Validator.ShowsOnly (shown listed : Value → Prop) (validate : Validator) (schema : Schema) :
    Prop :=
  ∀ input payload, shown input → validate.alone schema input = .ok payload →
    payload.ShowsOnly shown listed

def Job.Shows (shown : Value → Prop) (job : Job) : Prop :=
  shown job.key ∧ shown job.input

variable {shown listed : Value → Prop}

/-! ## Jobs -/

theorem shows_objectJobs (inherited : Value.IsInherited shown) (shape : List (String × Schema))
    (extraKeys : Container.ExtraKeys) {entries : List (Value × Value)}
    (inside : ∀ entry ∈ entries, shown entry.1 ∧ shown entry.2) :
    ∀ job ∈ Container.objectJobs shape extraKeys entries, job.Shows shown := by
  intro job member
  rcases Container.mem_objectJobs member with ⟨field, -, rfl⟩ | ⟨schema, entry, -, present, rfl⟩
  · constructor
    · rw [Container.key_fieldJob]
      exact inherited.simple rfl rfl
    · rcases Container.input_fieldJob entries field with absent | ⟨entry, present, equal⟩
      · rw [absent]
        exact inherited.simple rfl rfl
      · rw [← equal]
        exact (inside entry present).2
  · exact inside entry present

theorem shows_indexedJobs (inherited : Value.IsInherited shown) {schemaAt : Nat → Schema}
    {items : List Value} (inside : ∀ item ∈ items, shown item) :
    ∀ job ∈ Container.indexedJobs schemaAt items, job.Shows shown := by
  intro job member
  obtain ⟨index, item, present, rfl⟩ := Container.mem_indexedJobs member
  exact ⟨inherited.simple rfl rfl, inside item (List.mem_of_getElem? present)⟩

/-! ## Issues -/

namespace Issue

theorem showsOnly_plain {code : IssueCode} {message : String} {input : Value} (here : shown input) :
    (plain code message input).ShowsOnly shown listed :=
  .intro here (by simp [plain]) (by simp [plain]) (by simp [plain])

theorem showsOnly_wrongKind {expected : String} {input : Value} (here : shown input) :
    (wrongKind expected input).ShowsOnly shown listed :=
  .intro here (by simp [wrongKind, plain]) (by simp [wrongKind, plain]) (by simp [wrongKind, plain])

theorem ShowsOnly.within {segment : Value} {issue : Issue} (shows : issue.ShowsOnly shown listed)
    (step : shown segment) : (issue.within segment).ShowsOnly shown listed := by
  cases shows with
  | intro input path values errors =>
      exact .intro input (List.forall_mem_cons.mpr ⟨step, path⟩) values errors

end Issue

theorem forall_mem_reject {property : Issue → Prop} {value : Value} {issue : Issue}
    (holds : property issue) : ∀ other ∈ (Payload.reject value issue).issues, property other :=
  List.forall_mem_singleton.mpr holds

/-! ## Leaves -/

theorem Leaf.AllAbout.showsOnly {input : Value} {issues : List Issue}
    (about : Leaf.AllAbout input issues) (here : shown input) :
    ∀ issue ∈ issues, issue.ShowsOnly shown listed := by
  intro issue member
  obtain ⟨code, message, rfl⟩ := about issue member
  exact Issue.showsOnly_plain here

theorem Leaf.showsOnly_payload (inherited : Value.IsInherited shown) {form : Form Schema}
    {input : Value} {payload : Payload} (here : shown input)
    (lists : ∀ value ∈ form.listed, listed value)
    (brings : payload? form input = some (.ok payload)) :
    ∀ issue ∈ payload.issues, issue.ShowsOnly shown listed := by
  have accepted (value : Value) :
      ∀ issue ∈ (Payload.accept value).issues, issue.ShowsOnly shown listed :=
    List.forall_mem_nil _
  have refused (expected : String) :
      ∀ issue ∈ (Payload.wrongKind expected input).issues, issue.ShowsOnly shown listed :=
    forall_mem_reject (Issue.showsOnly_wrongKind here)
  have rejected (code : IssueCode) (message : String) :
      ∀ issue ∈ (Payload.reject input (Issue.plain code message input)).issues,
        issue.ShowsOnly shown listed :=
    forall_mem_reject (Issue.showsOnly_plain here)
  have unlistedOnly (message : String) (values : List Value) (each : ∀ value ∈ values, listed value) :
      ∀ issue ∈ (Payload.reject input (unlisted values message input)).issues,
        issue.ShowsOnly shown listed :=
    forall_mem_reject (.intro here (by simp [unlisted, Issue.plain])
      (by simpa [unlisted] using each) (by simp [unlisted, Issue.plain]))
  cases form with
  | any | unknown =>
      cases brings
      exact accepted input
  | never =>
      cases brings
      exact refused "never"
  | undefined | void | null | boolean | symbol | function =>
      cases brings
      unfold ofKind
      split
      · exact accepted input
      · exact refused _
  | text rules =>
      rcases exists_text_of_eq_ok (Option.some.inj brings) with ⟨written, bringsText⟩ | rfl
      · exact (allAbout_text bringsText).showsOnly (inherited.simple rfl rfl)
      · exact refused "string"
  | number rules =>
      have number := Option.some.inj brings
      have coerced : shown payload.value := by
        rw [value_number number]
        split
        · unfold coerceNumber
          split
          · split
            · exact inherited.simple rfl rfl
            · exact inherited.simple rfl rfl
            · exact here
          · exact here
        · exact here
      rcases allAbout_number number with ⟨expected, equal⟩ | about
      · rw [equal]
        exact forall_mem_reject (Issue.showsOnly_wrongKind coerced)
      · exact about.showsOnly coerced
  | uuid format =>
      cases brings
      have checked (identifier : Uuid) : ∀ issue ∈ (checkUuid format identifier input).issues,
          issue.ShowsOnly shown listed := by
        unfold checkUuid
        simp only
        repeat' split
        all_goals first
          | exact accepted _
          | exact rejected _ _
      unfold uuid
      split
      · exact checked _
      · split
        · exact checked _
        · exact rejected _ _
      · exact refused "uuid"
  | bigint format =>
      cases brings
      unfold bigint
      repeat' split
      all_goals first
        | exact accepted _
        | exact rejected _ _
        | exact refused _
  | date coerce =>
      cases brings
      unfold date
      repeat' split
      all_goals first
        | exact accepted _
        | exact rejected _ _
        | exact refused _
  | enumeration values =>
      cases brings
      unfold enumeration
      extract_lets value
      split
      · exact accepted value
      · exact unlistedOnly _ values lists
  | literal values =>
      cases brings
      unfold literal
      split
      · exact accepted _
      · exact unlistedOnly _ values lists
  | _ => cases brings

/-! ## Parts -/

section Parts

variable {validate : Validator} {input : Value} {payload : Payload}

theorem showsOnly_of_mem_parts {jobs : List Job} {done : List (Entry Payload)}
    (shows : ∀ job ∈ jobs, validate.ShowsOnly shown listed job.schema ∧ job.Shows shown)
    (alone : Evaluation.parts validate.alone jobs = .ok done) :
    ∀ entry ∈ done, shown entry.key ∧ entry.result.ShowsOnly shown listed := by
  intro entry member
  obtain ⟨job, isJob, comes, sameKey⟩ := Evaluation.mem_of_parts alone member
  obtain ⟨ofSchema, key, here⟩ := shows job isJob
  exact ⟨sameKey ▸ key, ofSchema job.input entry.result here comes⟩

theorem showsOnly_under {issues : List Issue} {segment : Value} (step : shown segment)
    (shows : ∀ issue ∈ issues, issue.ShowsOnly shown listed) :
    ∀ issue ∈ issues.map (Issue.within segment), issue.ShowsOnly shown listed :=
  List.forall_mem_map.mpr fun issue member => (shows issue member).within step

namespace Container

theorem showsOnly_issuesUnderKeys {done : List (Entry Payload)}
    (shows : ∀ entry ∈ done, shown entry.key ∧ entry.result.ShowsOnly shown listed) :
    ∀ issue ∈ issuesUnderKeys done, issue.ShowsOnly shown listed := by
  intro issue member
  obtain ⟨entry, isEntry, ofEntry⟩ := List.mem_flatMap.mp member
  exact showsOnly_under (shows entry isEntry).1 (shows entry isEntry).2.issues issue ofEntry

theorem showsOnly_refusedKeys {keys : List String} (here : shown input) :
    (refusedKeys keys input).ShowsOnly shown listed :=
  .intro here (by simp [refusedKeys, Issue.plain]) (by simp [refusedKeys, Issue.plain])
    (by simp [refusedKeys, Issue.plain])

theorem showsOnly_object (inherited : Value.IsInherited shown) {shape : List (String × Schema)}
    {catchall : Option Schema}
    (shows : ∀ part ∈ shape.map Prod.snd ++ catchall.toList, validate.ShowsOnly shown listed part)
    (here : shown input) (settles : (object validate shape catchall input).settled = .ok payload) :
    ∀ issue ∈ payload.issues, issue.ShowsOnly shown listed := by
  rw [settled_object_eq_ok_iff] at settles
  unfold Evaluation.object at settles
  cases isEntries : input.entries? with
  | none =>
      rw [isEntries] at settles
      cases settles
      exact forall_mem_reject (Issue.showsOnly_wrongKind here)
  | some entries =>
      rw [isEntries] at settles
      obtain ⟨done, alone, assembles⟩ := (except_bind_eq_ok_iff _ _ _).mp settles
      have inside := inherited.entries here isEntries
      have underKeys := showsOnly_issuesUnderKeys (showsOnly_of_mem_parts (fun job isJob =>
        ⟨shows _ (schema_of_mem_objectJobs isJob),
          shows_objectJobs inherited shape (.ofCatchall catchall) inside job isJob⟩) alone)
      have assembled (refused : List String) (results : List (Entry Payload))
          (same : issuesUnderKeys results = issuesUnderKeys done) :
          ∀ issue ∈ (assembleObject input refused results).issues,
            issue.ShowsOnly shown listed := by
        intro issue member
        rcases List.mem_append.mp member with ofPart | ofKeys
        · exact underKeys issue (same ▸ ofPart)
        · split at ofKeys
          · cases ofKeys
          · rw [List.mem_singleton.mp ofKeys]
            exact showsOnly_refusedKeys here
      split at assembles
      · obtain ⟨refused, -, rfl⟩ := (except_map_eq_ok_iff _ _ _).mp assembles
        exact assembled refused done rfl
      · cases assembles
        exact assembled [] _ (issuesUnderKeys_append_kept done _)
      all_goals
        cases assembles
        exact assembled [] done rfl

theorem showsOnly_list (inherited : Value.IsInherited shown) {schemaAt : Nat → Schema}
    {items : List Value} {sizes : List Issue}
    (shows : ∀ job ∈ indexedJobs schemaAt items, validate.ShowsOnly shown listed job.schema)
    (isItems : input.items? = some items) (here : shown input) (about : Leaf.AllAbout input sizes)
    (settles : ((fanOut validate (indexedJobs schemaAt items)).andThen fun results =>
      joinEntries results fun done => .ok (assembleList sizes done)).settled = .ok payload) :
    ∀ issue ∈ payload.issues, issue.ShowsOnly shown listed := by
  obtain ⟨done, alone, equal⟩ := (settled_fanOut_joinEntries_eq_ok_iff _ _ _).mp settles
  cases equal
  have underKeys := showsOnly_issuesUnderKeys (showsOnly_of_mem_parts (fun job isJob =>
    ⟨shows job isJob, shows_indexedJobs inherited (inherited.items here isItems) job isJob⟩) alone)
  exact List.forall_mem_append.mpr ⟨about.showsOnly here, underKeys⟩

theorem showsOnly_array (inherited : Value.IsInherited shown) {element : Schema}
    {least most : Option Value} (shows : validate.ShowsOnly shown listed element)
    (here : shown input)
    (settles : (array validate element least most input).settled = .ok payload) :
    ∀ issue ∈ payload.issues, issue.ShowsOnly shown listed := by
  unfold array at settles
  cases isItems : input.items? with
  | none =>
      rw [isItems] at settles
      cases settles
      exact forall_mem_reject (Issue.showsOnly_wrongKind here)
  | some items =>
      simp only [isItems, Traced.settled_andThen _ (fun sizes => (fanOut validate _).andThen _),
        Traced.outcome_ofExcept] at settles
      obtain ⟨sizes, bounded, joined⟩ := (except_bind_eq_ok_iff _ _ _).mp settles
      refine showsOnly_list inherited (fun job isJob => ?_) isItems here
        (Leaf.allAbout_boundIssues bounded) joined
      obtain ⟨index, item, -, rfl⟩ := mem_indexedJobs isJob
      exact shows

theorem showsOnly_tuple (inherited : Value.IsInherited shown) {items : List Schema}
    {rest : Option Schema}
    (shows : ∀ part ∈ items ++ rest.toList, validate.ShowsOnly shown listed part)
    (here : shown input) (settles : (tuple validate items rest input).settled = .ok payload) :
    ∀ issue ∈ payload.issues, issue.ShowsOnly shown listed := by
  unfold tuple at settles
  cases isItems : input.items? with
  | none =>
      rw [isItems] at settles
      cases settles
      exact forall_mem_reject (Issue.showsOnly_wrongKind here)
  | some values =>
      simp only [isItems] at settles
      split at settles
      · cases settles
        exact forall_mem_reject (Issue.showsOnly_plain here)
      · split at settles
        · cases settles
          exact forall_mem_reject (Issue.showsOnly_plain here)
        · rename_i fits
          exact showsOnly_list inherited
            (fun job isJob => shows _ (schema_of_mem_indexedJobs fits isJob)) isItems here
            Leaf.allAbout_nil settles

theorem showsOnly_set (inherited : Value.IsInherited shown) {element : Schema}
    {least most : Option Value} (shows : validate.ShowsOnly shown listed element)
    (here : shown input) (settles : (set validate element least most input).settled = .ok payload) :
    ∀ issue ∈ payload.issues, issue.ShowsOnly shown listed := by
  unfold set at settles
  cases isMembers : input.members? with
  | none =>
      rw [isMembers] at settles
      cases settles
      exact forall_mem_reject (Issue.showsOnly_wrongKind here)
  | some members =>
      simp only [isMembers, Traced.settled_andThen _ (fun sizes => (fanOut validate _).andThen _),
        Traced.outcome_ofExcept] at settles
      obtain ⟨sizes, bounded, joined⟩ := (except_bind_eq_ok_iff _ _ _).mp settles
      obtain ⟨done, alone, assembled⟩ := (settled_fanOut_joinEntries_eq_ok_iff _ _ _).mp joined
      obtain ⟨collected, -, rfl⟩ := (except_map_eq_ok_iff _ _ _).mp assembled
      have ofParts := showsOnly_of_mem_parts (fun job isJob => by
        obtain ⟨member, isMember, rfl⟩ := List.mem_map.mp isJob
        exact ⟨shows, inherited.simple rfl rfl,
          inherited.members here isMembers member isMember⟩) alone
      refine List.forall_mem_append.mpr
        ⟨(Leaf.allAbout_boundIssues bounded).showsOnly here, fun issue member => ?_⟩
      obtain ⟨entry, isEntry, ofEntry⟩ := List.mem_flatMap.mp member
      exact (ofParts entry isEntry).2.issues issue ofEntry

theorem shown_pathKey (inherited : Value.IsInherited shown) {key segment : Value}
    (locates : pathKey key = .ok segment) : shown segment := by
  unfold pathKey at locates
  simp only at locates
  repeat' split at locates
  all_goals
    cases locates
    try exact inherited.simple rfl rfl

theorem showsOnly_invalidKey (inherited : Value.IsInherited shown) {label : String} {key : Value}
    {issues : List Issue} {issue : Issue} (here : shown key)
    (shows : ∀ inner ∈ issues, inner.ShowsOnly shown listed)
    (refuses : invalidKey label key issues = .ok issue) : issue.ShowsOnly shown listed := by
  obtain ⟨segment, locates, rfl⟩ := (except_map_eq_ok_iff _ _ _).mp refuses
  exact .intro here (List.forall_mem_singleton.mpr (shown_pathKey inherited locates))
    (by simp [Issue.plain]) (by simpa using shows)

/-- Assembling a keyed collection adds the issue of a refused key, or the issues of a value under
its key. The induction follows the entries, two at a time. -/
theorem showsOnly_assembleKeyed (inherited : Value.IsInherited shown) {label : String}
    {done : List (Entry Payload)} {start : Payload}
    (shows : ∀ entry ∈ done, shown entry.key ∧ entry.result.ShowsOnly shown listed)
    (starts : ∀ issue ∈ start.issues, issue.ShowsOnly shown listed)
    (assembles : assembleKeyed label done start = .ok payload) :
    ∀ issue ∈ payload.issues, issue.ShowsOnly shown listed := by
  fun_induction assembleKeyed label done start with
  | case1 keyEntry valueEntry rest start refused ih =>
      obtain ⟨issue, refuses, remaining⟩ := (except_bind_eq_ok_iff _ _ _).mp assembles
      obtain ⟨key, ofKey⟩ := shows keyEntry (by simp)
      refine ih issue (fun entry member => shows entry (by simp [member])) ?_ remaining
      exact List.forall_mem_append.mpr ⟨starts,
        List.forall_mem_singleton.mpr (showsOnly_invalidKey inherited key ofKey.issues refuses)⟩
  | case2 keyEntry valueEntry rest start accepted issues absent ih =>
      exact ih (fun entry member => shows entry (by simp [member]))
        (List.forall_mem_append.mpr ⟨starts, showsOnly_under (shows keyEntry (by simp)).1
          (shows valueEntry (by simp)).2.issues⟩) assembles
  | case3 => cases assembles
  | case4 keyEntry valueEntry rest start accepted issues present hashable output ih =>
      exact ih (fun entry member => shows entry (by simp [member]))
        (List.forall_mem_append.mpr ⟨starts, showsOnly_under (shows keyEntry (by simp)).1
          (shows valueEntry (by simp)).2.issues⟩) assembles
  | case5 =>
      cases assembles
      exact starts

theorem showsOnly_keyed (inherited : Value.IsInherited shown) {label : String} {key value : Schema}
    (showsKey : validate.ShowsOnly shown listed key)
    (showsValue : validate.ShowsOnly shown listed value) (here : shown input)
    (settles : (keyed validate label key value input).settled = .ok payload) :
    ∀ issue ∈ payload.issues, issue.ShowsOnly shown listed := by
  unfold keyed at settles
  cases isEntries : input.entries? with
  | none =>
      rw [isEntries] at settles
      cases settles
      exact forall_mem_reject (Issue.showsOnly_wrongKind here)
  | some entries =>
      simp only [isEntries] at settles
      obtain ⟨done, alone, assembled⟩ := (settled_fanOut_joinEntries_eq_ok_iff _ _ _).mp settles
      refine showsOnly_assembleKeyed inherited (showsOnly_of_mem_parts (fun job isJob => ?_) alone)
        (List.forall_mem_nil _) assembled
      obtain ⟨entry, isEntry, rfl | rfl⟩ := mem_keyedJobs isJob
      · obtain ⟨ofKey, -⟩ := inherited.entries here isEntries entry isEntry
        exact ⟨showsKey, ofKey, ofKey⟩
      · exact ⟨showsValue, inherited.entries here isEntries entry isEntry⟩

end Container

/-! ## Unions, intersections and references -/

namespace Combination

theorem showsOnly_union {options : List Schema}
    (shows : ∀ option ∈ options, validate.ShowsOnly shown listed option) (here : shown input)
    (settles : (union validate options input).settled = .ok payload) :
    ∀ issue ∈ payload.issues, issue.ShowsOnly shown listed := by
  have evaluated : Evaluation.firstAccepting validate.alone input options [] = .ok payload :=
    firstAccepting_of_settled .nil settles
  clear settles
  have refused : ∀ issues ∈ ([] : List (List Issue)), ∀ inner ∈ issues,
      inner.ShowsOnly shown listed := List.forall_mem_nil _
  generalize ([] : List (List Issue)) = refusals at evaluated refused
  induction options generalizing refusals with
  | nil =>
      cases evaluated
      exact forall_mem_reject
        (.intro here (by simp [Issue.plain]) (by simp [Issue.plain]) (by simpa using refused))
  | cons option rest ih =>
      obtain ⟨answer, ofOption, remaining⟩ := (except_bind_eq_ok_iff _ _ _).mp evaluated
      split at remaining
      · cases remaining
        exact List.forall_mem_nil _
      · exact ih (fun next member => shows next (List.mem_cons_of_mem _ member)) _ remaining
          (List.forall_mem_append.mpr ⟨refused, List.forall_mem_singleton.mpr
            (shows option (by simp) input answer here ofOption).issues⟩)

theorem showsOnly_intersection (inherited : Value.IsInherited shown) {left right : Schema}
    (showsLeft : validate.ShowsOnly shown listed left)
    (showsRight : validate.ShowsOnly shown listed right) (here : shown input)
    (settles : (intersection validate left right input).settled = .ok payload) :
    ∀ issue ∈ payload.issues, issue.ShowsOnly shown listed := by
  obtain ⟨done, alone, assembled⟩ := (settled_fanOut_joinEntries_eq_ok_iff _ _ _).mp settles
  have ofSides := showsOnly_of_mem_parts (fun job isJob => by
    simp only [List.mem_cons, List.not_mem_nil, or_false] at isJob
    rcases isJob with rfl | rfl
    · exact ⟨showsLeft, inherited.simple rfl rfl, here⟩
    · exact ⟨showsRight, inherited.simple rfl rfl, here⟩) alone
  cases assembled
  unfold assembleIntersection
  simp only
  split
  · intro issue member
    obtain ⟨entry, isEntry, ofEntry⟩ := List.mem_flatMap.mp member
    exact (ofSides entry isEntry).2.issues issue ofEntry
  · split
    · split
      · exact List.forall_mem_nil _
      · exact forall_mem_reject (Issue.showsOnly_plain here)
    · exact List.forall_mem_nil _

end Combination

namespace Wrapper

theorem showsOnly_foreignTable (names : ∀ name, listed (.text name)) (permitted : List String)
    (table : String) (here : shown input) :
    (foreignTable permitted table input).ShowsOnly shown listed :=
  .intro here (by simp [foreignTable, Issue.plain])
    (by simpa [foreignTable] using fun name _ => names name) (by simp [foreignTable, Issue.plain])

theorem showsOnly_reference (inherited : Value.IsInherited shown)
    (names : ∀ name, listed (.text name)) {tables : Option (List String)} {identifier : Schema}
    (shows : validate.ShowsOnly shown listed identifier) (here : shown input)
    (settles : (reference validate tables identifier input).settled = .ok payload) :
    ∀ issue ∈ payload.issues, issue.ShowsOnly shown listed := by
  unfold reference at settles
  cases input with
  | record table value =>
      simp only at settles
      split at settles
      · cases settles
        exact forall_mem_reject (showsOnly_foreignTable names _ table here)
      · obtain ⟨result, alone, equal⟩ := settled_afterwards settles
        cases equal
        unfold rebuildRecord
        split
        · exact List.forall_mem_nil _
        · exact showsOnly_under (inherited.simple rfl rfl)
            (shows value result (inherited.identifier here) alone).issues
  | _ =>
      cases settles
      exact forall_mem_reject (Issue.showsOnly_wrongKind here)

theorem showsOnly_refine {mode : ParseMode} {refinements : List Refinement} {final : Payload}
    (shows : payload.ShowsOnly shown listed)
    (settles : (refine mode refinements payload).settled = .ok final) :
    final.ShowsOnly shown listed := by
  rcases eq_or_judge_of_settled_refine settles with rfl | ⟨verdicts, rfl⟩
  · exact shows
  · refine ⟨shows.value, fun issue member => ?_⟩
    obtain ⟨⟨refinement, verdict⟩, -, judged⟩ := List.mem_filterMap.mp member
    by_cases truthy : verdict.isTruthy = true
    · simp [truthy] at judged
    · have issued : some (refusedByCheck refinement.message payload.value) = some issue := by
        simpa [truthy] using judged
      rw [← Option.some.inj issued]
      exact Issue.showsOnly_plain shows.value

end Wrapper

/-! ## Forms -/

theorem Validation.showsOnly_leaf (inherited : Value.IsInherited shown) {scope : ParseScope}
    {form : Form Schema} {outcome : Except Fault Payload}
    (leaf : Leaf.payload? form input = some outcome)
    (lists : ∀ value ∈ form.listed, listed value) (here : shown input)
    (settles : (runForm scope validate form input).settled = .ok payload) :
    ∀ issue ∈ payload.issues, issue.ShowsOnly shown listed := by
  rw [runForm_leaf leaf] at settles
  cases outcome with
  | error cause => cases settles
  | ok result =>
      cases settles
      exact Leaf.showsOnly_payload inherited here lists leaf

/-- The issues of a form show what stands in its input and what it brings for an absent one, when its
parts and what it is resolved to show nothing else. -/
theorem Validation.showsOnly_runForm (inherited : Value.IsInherited shown)
    (names : ∀ name, listed (.text name)) {scope : ParseScope} {form : Form Schema}
    (lists : ∀ value ∈ form.listed, listed value)
    (supplies : ∀ inner value answer, form = .prefault inner value →
      (Wrapper.supplied value).outcome = .ok answer → shown answer)
    (shows : ∀ part ∈ form.parts, validate.ShowsOnly shown listed part)
    (resolved : ∀ target schema, form = .lazily target →
      scope.environment.resolve target = .ok schema → validate.ShowsOnly shown listed schema)
    (here : shown input) (settles : (runForm scope validate form input).settled = .ok payload) :
    ∀ issue ∈ payload.issues, issue.ShowsOnly shown listed := by
  have accepted (value : Value) :
      ∀ issue ∈ (Payload.accept value).issues, issue.ShowsOnly shown listed :=
    List.forall_mem_nil _
  cases form with
  | object shape catchall => exact Container.showsOnly_object inherited shows here settles
  | table described =>
      exact Container.showsOnly_object inherited (by simpa [Form.parts] using shows) here settles
  | array element least most =>
      exact Container.showsOnly_array inherited (shows element (by simp [Form.parts])) here settles
  | set element least most =>
      exact Container.showsOnly_set inherited (shows element (by simp [Form.parts])) here settles
  | tuple items rest => exact Container.showsOnly_tuple inherited shows here settles
  | record key value | map key value =>
      exact Container.showsOnly_keyed inherited (shows key (by simp [Form.parts]))
        (shows value (by simp [Form.parts])) here settles
  | union options => exact Combination.showsOnly_union shows here settles
  | intersection left right =>
      exact Combination.showsOnly_intersection inherited (shows left (by simp [Form.parts]))
        (shows right (by simp [Form.parts])) here settles
  | reference tables identifier =>
      exact Wrapper.showsOnly_reference inherited names (shows identifier (by simp [Form.parts]))
        here settles
  | optional inner | nullable inner =>
      simp only [runForm] at settles
      split at settles
      · cases settles
        exact accepted input
      · exact (shows inner (by simp [Form.parts]) input payload here settles).issues
  | nonoptional inner =>
      obtain ⟨result, alone, equal⟩ := settled_afterwards settles
      cases equal
      have ofInner := shows inner (by simp [Form.parts]) input result here alone
      unfold Wrapper.demandPresent
      split
      · exact forall_mem_reject (Issue.showsOnly_wrongKind ofInner.value)
      · exact ofInner.issues
  | default inner value =>
      simp only [runForm] at settles
      split at settles
      · rw [Traced.settled_andThen] at settles
        obtain ⟨answer, -, equal⟩ := (except_bind_eq_ok_iff _ _ _).mp settles
        cases equal
        exact accepted answer
      · exact (shows inner (by simp [Form.parts]) input payload here settles).issues
  | prefault inner value =>
      simp only [runForm] at settles
      split at settles
      · rw [Traced.settled_andThen] at settles
        obtain ⟨answer, brings, alone⟩ := (except_bind_eq_ok_iff _ _ _).mp settles
        exact (shows inner (by simp [Form.parts]) answer payload
          (supplies inner value answer rfl brings) alone).issues
      · exact (shows inner (by simp [Form.parts]) input payload here settles).issues
  | fallback inner replacement =>
      obtain ⟨result, alone, recovered⟩ := settled_afterwards settles
      unfold Wrapper.recover at recovered
      split at recovered
      · cases recovered
        exact (shows inner (by simp [Form.parts]) input _ here alone).issues
      · rw [Traced.outcome_andThen] at recovered
        obtain ⟨answer, -, equal⟩ := (except_bind_eq_ok_iff _ _ _).mp recovered
        cases equal
        exact accepted answer
  | readonly inner =>
      obtain ⟨result, alone, equal⟩ := settled_afterwards settles
      cases equal
      have ofInner := shows inner (by simp [Form.parts]) input result here alone
      unfold Wrapper.freezeClean
      split <;> exact ofInner.issues
  | pipe source target =>
      obtain ⟨result, alone, continued⟩ := exists_settled_of_andThen settles
      have ofSource := shows source (by simp [Form.parts]) input result here alone
      split at continued
      · exact (shows target (by simp [Form.parts]) result.value payload ofSource.value
          continued).issues
      · cases continued
        exact ofSource.issues
  | transform mapped =>
      simp only [runForm, Wrapper.transform, Traced.settled_andThen] at settles
      obtain ⟨answer, -, remaining⟩ := (except_bind_eq_ok_iff _ _ _).mp settles
      obtain ⟨result, -, rfl⟩ := Wrapper.exists_answer_of_settled remaining
      exact accepted result
  | custom check message =>
      cases check with
      | none =>
          cases settles
          exact accepted input
      | some checked =>
          simp only [runForm, Wrapper.custom, Traced.settled_andThen] at settles
          obtain ⟨answer, -, remaining⟩ := (except_bind_eq_ok_iff _ _ _).mp settles
          obtain ⟨verdict, -, rfl⟩ := Wrapper.exists_answer_of_settled remaining
          split
          · exact accepted input
          · exact forall_mem_reject (Issue.showsOnly_plain here)
  | promise inner =>
      have ofInner := shows inner (by simp [Form.parts])
      simp only [runForm, Wrapper.promise] at settles
      split at settles
      · rw [Traced.settled_andThen] at settles
        obtain ⟨_, -, remaining⟩ := (except_bind_eq_ok_iff _ _ _).mp settles
        rw [Progress.settled_andThen] at remaining
        obtain ⟨answer, brings, alone⟩ := (except_bind_eq_ok_iff _ _ _).mp remaining
        exact (ofInner answer payload (inherited.awaited here brings) alone).issues
      · exact (ofInner input payload here settles).issues
  | lazily target =>
      simp only [runForm] at settles
      rw [Traced.settled_andThen, Traced.outcome_ofExcept] at settles
      obtain ⟨schema, resolves, alone⟩ := (except_bind_eq_ok_iff _ _ _).mp settles
      exact (resolved target schema rfl resolves input payload here alone).issues
  | _ => exact showsOnly_leaf inherited rfl lists here settles

end Parts

end TypedTables
