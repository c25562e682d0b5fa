import Mathlib.Data.List.Forall2
import TypedTables.Proofs.Validation.Obstacles

/-!
# Issues of keyed collections

A record or a map reports each key that its schema refuses in one issue, which stands at the key and
holds the issues of the key, and each issue of any other entry under its key. For this a refused key
has to stand in a path. Texts and integers do; of the other keys some are put there as what they are
written as, and some cannot be put there at all, which ends the validation. So the issues are those
that are to be reported just when every refused key is a text or an integer, what the other keys are
accepted as can be keys, and every place has a text.
-/

namespace TypedTables

namespace Value

/-- Texts and integers stand in a path as they are. -/
def IsSegment (value : Value) : Prop :=
  (∃ text, value = .text text) ∨ ∃ number, value = .integer number

end Value

namespace Container

theorem isSegment_of_pathKey {key segment : Value} (placed : pathKey key = .ok segment) :
    segment.IsSegment := by
  unfold pathKey at placed
  simp only at placed
  repeat' split at placed
  all_goals cases placed
  all_goals first | exact .inl ⟨_, rfl⟩ | exact .inr ⟨_, rfl⟩

theorem pathKey_eq_self_iff (key : Value) : pathKey key = .ok key ↔ key.IsSegment := by
  refine ⟨isSegment_of_pathKey, ?_⟩
  rintro (⟨content, rfl⟩ | ⟨number, rfl⟩) <;> rfl

/-- The issue at a refused key. -/
def refusedKey (label : String) (key : Value) (issues : List Issue) : Issue :=
  { Issue.plain .invalidKey s!"Invalid key in {label}" key with
    path := [key], errors := some [issues] }

section Reports

variable (label : String) (keyAnswer itemAnswer : Value × Value → Payload)

def entryIssues (entry : Value × Value) : List Issue :=
  if (keyAnswer entry).isClean then (itemAnswer entry).issues.map (Issue.within entry.1)
  else [refusedKey label entry.1 (keyAnswer entry).issues]

def keyedIssues (entries : List (Value × Value)) : List Issue :=
  entries.flatMap (entryIssues label keyAnswer itemAnswer)

def placedIssues (entry : Value × Value) : Except Fault (List Issue) :=
  if (keyAnswer entry).isClean then .ok ((itemAnswer entry).issues.map (Issue.within entry.1))
  else (invalidKey label entry.1 (keyAnswer entry).issues).map fun issue => [issue]

def keyedResults (entries : List (Value × Value)) : List (Entry Payload) :=
  entries.flatMap fun entry =>
    [⟨entry.1, true, keyAnswer entry⟩, ⟨entry.1, true, itemAnswer entry⟩]

/-- Where the key of an entry is accepted and its item is not absent, what the key is accepted as
can be a key. -/
def KeepsEntry (entry : Value × Value) : Prop :=
  (keyAnswer entry).isClean = true → (itemAnswer entry).value.isUndefined = false →
    (keyAnswer entry).value.unhashableClass? = none

end Reports

variable {label : String} {keyAnswer itemAnswer : Value × Value → Payload}

theorem parts_keyedJobs_of_answers {evaluate : Evaluator} {key value : Schema}
    {entries : List (Value × Value)}
    (keyAnswers : ∀ entry ∈ entries, evaluate key entry.1 = .ok (keyAnswer entry))
    (itemAnswers : ∀ entry ∈ entries, evaluate value entry.2 = .ok (itemAnswer entry)) :
    Evaluation.parts evaluate (keyedJobs key value entries) =
      .ok (keyedResults keyAnswer itemAnswer entries) := by
  induction entries with
  | nil => rfl
  | cons entry rest ih =>
      obtain ⟨ofKey, ofKeys⟩ := List.forall_mem_cons.mp keyAnswers
      obtain ⟨ofItem, ofItems⟩ := List.forall_mem_cons.mp itemAnswers
      exact (Evaluation.parts_keyedJobs_cons_eq_ok_iff _ _ _ _ _).mpr
        ⟨_, _, _, ofKey, ofItem, ih ofKeys ofItems, rfl⟩

def afterEntry (keyAnswer itemAnswer : Value × Value → Payload) (entry : Value × Value)
    (current : Value) : Value :=
  if (keyAnswer entry).isClean && !(itemAnswer entry).value.isUndefined then
    .mapping (Value.put (keyAnswer entry).value (itemAnswer entry).value
      (current.entries?.getD []))
  else current

/-- An entry that is kept adds its issues, unless they cannot be placed. -/
theorem assembleKeyed_cons_of_keeps {entry : Value × Value} (rest : List (Value × Value))
    (start : Payload) (keeps : KeepsEntry keyAnswer itemAnswer entry) :
    assembleKeyed label (keyedResults keyAnswer itemAnswer (entry :: rest)) start =
      (placedIssues label keyAnswer itemAnswer entry).bind fun report =>
        assembleKeyed label (keyedResults keyAnswer itemAnswer rest)
          ⟨afterEntry keyAnswer itemAnswer entry start.value, start.issues ++ report⟩ := by
  change assembleKeyed label (⟨entry.1, true, keyAnswer entry⟩ ::
    ⟨entry.1, true, itemAnswer entry⟩ :: keyedResults keyAnswer itemAnswer rest) start = _
  rw [assembleKeyed, placedIssues, afterEntry]
  cases clean : (keyAnswer entry).isClean with
  | false =>
      simp only [Bool.not_false, if_true, Bool.false_and, Bool.false_eq_true, if_false]
      cases invalidKey label entry.1 (keyAnswer entry).issues <;> rfl
  | true =>
      simp only [Bool.not_true, Bool.false_eq_true, if_false, Bool.true_and, if_true]
      cases absent : (itemAnswer entry).value.isUndefined with
      | true => rfl
      | false =>
          rw [keeps clean absent]
          rfl

theorem assembleKeyed_cons_of_not_keeps {entry : Value × Value} (rest : List (Value × Value))
    (start : Payload) (lost : ¬KeepsEntry keyAnswer itemAnswer entry) :
    ∃ cause, assembleKeyed label (keyedResults keyAnswer itemAnswer (entry :: rest)) start =
      .error cause := by
  obtain ⟨clean, lost⟩ := Classical.not_imp.mp lost
  obtain ⟨present, unhashable⟩ := Classical.not_imp.mp lost
  obtain ⟨className, isClass⟩ := Option.ne_none_iff_exists'.mp unhashable
  change ∃ cause, assembleKeyed label (⟨entry.1, true, keyAnswer entry⟩ ::
    ⟨entry.1, true, itemAnswer entry⟩ :: keyedResults keyAnswer itemAnswer rest) start = _
  rw [assembleKeyed]
  simp only [clean, Bool.not_true, Bool.false_eq_true, if_false, present, isClass]
  exact ⟨_, rfl⟩

/-- A keyed collection is assembled just when each entry is kept and its issues can be placed; then
these are added in the order of the entries. -/
theorem assembleKeyed_eq_ok_iff (entries : List (Value × Value)) (start : Payload)
    (issues : List Issue) :
    (∃ value, assembleKeyed label (keyedResults keyAnswer itemAnswer entries) start =
        .ok ⟨value, issues⟩) ↔
      (∀ entry ∈ entries, KeepsEntry keyAnswer itemAnswer entry) ∧
        ∃ reports : List (List Issue),
          List.Forall₂ (fun entry report =>
            placedIssues label keyAnswer itemAnswer entry = .ok report) entries reports ∧
          issues = start.issues ++ reports.flatten := by
  induction entries generalizing start with
  | nil =>
      constructor
      · rintro ⟨value, assembled⟩
        cases assembled
        exact ⟨by simp, [], .nil, by simp⟩
      · rintro ⟨-, reports, none, rfl⟩
        cases none
        exact ⟨start.value, by simp [keyedResults, assembleKeyed]⟩
  | cons entry rest ih =>
      by_cases keeps : KeepsEntry keyAnswer itemAnswer entry
      · simp only [assembleKeyed_cons_of_keeps rest start keeps, except_bind_eq_ok_iff]
        constructor
        · rintro ⟨value, report, placed, assembled⟩
          obtain ⟨keepsRest, reports, placedRest, rfl⟩ := (ih _).mp ⟨value, assembled⟩
          exact ⟨List.forall_mem_cons.mpr ⟨keeps, keepsRest⟩, report :: reports,
            .cons placed placedRest, by simp⟩
        · rintro ⟨keepsAll, reports, placedAll, rfl⟩
          obtain ⟨report, others, placed, placedRest, rfl⟩ :=
            List.forall₂_cons_left_iff.mp placedAll
          obtain ⟨value, assembled⟩ := (ih ⟨afterEntry keyAnswer itemAnswer entry start.value,
            start.issues ++ report⟩).mpr
              ⟨(List.forall_mem_cons.mp keepsAll).2, others, placedRest, by simp⟩
          exact ⟨value, report, placed, assembled⟩
      · obtain ⟨cause, fails⟩ := assembleKeyed_cons_of_not_keeps rest start keeps
        refine iff_of_false ?_ fun placed => keeps (placed.1 entry (by simp))
        rintro ⟨value, assembled⟩
        cases fails.symm.trans assembled

theorem length_of_placedIssues {entry : Value × Value} {report : List Issue}
    (placed : placedIssues label keyAnswer itemAnswer entry = .ok report) :
    report.length = (entryIssues label keyAnswer itemAnswer entry).length := by
  rw [placedIssues] at placed
  rw [entryIssues]
  split at placed
  · rename_i clean
    cases placed
    rw [if_pos clean]
  · rename_i refused
    obtain ⟨issue, -, rfl⟩ := (except_map_eq_ok_iff _ _ _).mp placed
    rw [if_neg refused]
    rfl

theorem placedIssues_eq_entryIssues_iff (entry : Value × Value) :
    placedIssues label keyAnswer itemAnswer entry =
        .ok (entryIssues label keyAnswer itemAnswer entry) ↔
      ((keyAnswer entry).isClean = false → entry.1.IsSegment) := by
  rw [← pathKey_eq_self_iff, placedIssues, entryIssues]
  cases clean : (keyAnswer entry).isClean with
  | true => simp
  | false =>
      simp only [Bool.false_eq_true, if_false, forall_true_left, invalidKey]
      cases pathKey entry.1 with
      | error cause => simp [Except.map]
      | ok segment => simp [Except.map, refusedKey]

theorem flatten_eq_keyedIssues_iff {entries : List (Value × Value)} {reports : List (List Issue)}
    (placed : List.Forall₂ (fun entry report =>
      placedIssues label keyAnswer itemAnswer entry = .ok report) entries reports) :
    reports.flatten = keyedIssues label keyAnswer itemAnswer entries ↔
      ∀ entry ∈ entries, (keyAnswer entry).isClean = false → entry.1.IsSegment := by
  induction placed with
  | nil => simp [keyedIssues]
  | @cons entry report rest reports placedHere _ ih =>
      rw [List.forall_mem_cons, ← ih, ← placedIssues_eq_entryIssues_iff, placedHere]
      change report ++ reports.flatten = entryIssues label keyAnswer itemAnswer entry ++
        keyedIssues label keyAnswer itemAnswer rest ↔ _
      constructor
      · intro same
        obtain ⟨here, later⟩ := List.append_inj same (length_of_placedIssues placedHere)
        exact ⟨congrArg Except.ok here, later⟩
      · rintro ⟨here, later⟩
        rw [Except.ok.inj here, later]

theorem length_flatten_of_placed {entries : List (Value × Value)} {reports : List (List Issue)}
    (placed : List.Forall₂ (fun entry report =>
      placedIssues label keyAnswer itemAnswer entry = .ok report) entries reports) :
    reports.flatten.length = (keyedIssues label keyAnswer itemAnswer entries).length := by
  induction placed with
  | nil => rfl
  | @cons entry report rest reports placedHere _ ih =>
      rw [List.flatten_cons, List.length_append, ih, length_of_placedIssues placedHere,
        ← List.length_append]
      rfl

end Container

def ParseResult.issues : ParseResult → List Issue
  | .accepted _ => []
  | .rejected issues _ => issues

theorem ParseResult.issues_of_ofPayload {payload : Payload} {result : ParseResult}
    (results : ParseResult.ofPayload payload = .ok result) : result.issues = payload.issues := by
  unfold ofPayload at results
  split at results
  · rename_i clean
    cases results
    exact (List.isEmpty_iff.mp clean).symm
  · obtain ⟨message, -, rfl⟩ := (except_map_eq_ok_iff _ _ _).mp results
    rfl

theorem Evaluation.refine_of_issues {refinements : List Refinement} {payload : Payload}
    (refused : payload.isClean = false) :
    Evaluation.refine refinements payload = .ok payload := by
  simp [Evaluation.refine, refused]

/-- What the checks of a schema add: issues about the value itself. -/
theorem Evaluation.issues_of_refine {refinements : List Refinement} {payload final : Payload}
    (refines : Evaluation.refine refinements payload = .ok final) :
    (payload.isClean = false → final = payload) ∧
      (payload.isClean = true →
        ∀ issue ∈ final.issues, issue.code = .custom ∧ issue.path = []) := by
  unfold Evaluation.refine at refines
  split at refines
  · cases refines
    refine ⟨fun _ => rfl, fun clean issue isIssue => ?_⟩
    rw [List.isEmpty_iff.mp clean] at isIssue
    cases isIssue
  · rename_i checked
    obtain ⟨verdicts, -, rfl⟩ := (except_map_eq_ok_iff _ _ _).mp refines
    refine ⟨fun refused => by simp [refused] at checked, fun _ issue isIssue => ?_⟩
    obtain ⟨⟨refinement, verdict⟩, -, reported⟩ := List.mem_filterMap.mp isIssue
    simp only at reported
    split at reported
    · cases reported
    · cases reported
      exact ⟨rfl, rfl⟩

/-- A result is made of what a form brings and what checks add to it. It holds the wanted issues,
with those of the checks besides, just when the form has brought the wanted issues, their places
have texts, and the checks come to an answer where there are none. -/
theorem Evaluation.returns_issues_iff {refinements : List Refinement} {payload : Payload}
    {wanted : List Issue} (sameLength : payload.issues.length = wanted.length) :
    (∃ result added, (∃ final, Evaluation.refine refinements payload = .ok final ∧
        ParseResult.ofPayload final = .ok result) ∧
      result.issues = wanted ++ added ∧ ∀ issue ∈ added, issue.code = .custom ∧ issue.path = []) ↔
      payload.issues = wanted ∧
        (∀ issue ∈ wanted, ∀ segment ∈ issue.path, ∃ text, segment.plain = .ok text) ∧
        (payload.isClean = true → ∃ final, Evaluation.refine refinements payload = .ok final) := by
  cases clean : payload.isClean with
  | true =>
      have none := List.isEmpty_iff.mp clean
      rw [none] at sameLength
      have noneWanted := List.length_eq_zero_iff.mp sameLength.symm
      constructor
      · rintro ⟨result, added, ⟨final, refines, -⟩, -⟩
        exact ⟨none.trans noneWanted.symm, by simp [noneWanted], fun _ => ⟨final, refines⟩⟩
      · rintro ⟨-, -, checks⟩
        obtain ⟨final, refines⟩ := checks rfl
        have custom := (Evaluation.issues_of_refine refines).2 clean
        obtain ⟨result, results⟩ : ∃ result, ParseResult.ofPayload final = .ok result := by
          refine (ParseResult.exists_ofPayload_iff _).mpr fun issue isIssue segment member => ?_
          rw [(custom issue isIssue).2] at member
          cases member
        refine ⟨result, final.issues, ⟨final, refines, results⟩, ?_, custom⟩
        rw [ParseResult.issues_of_ofPayload results, noneWanted, List.nil_append]
  | false =>
      simp only [Evaluation.refine_of_issues clean, Except.ok.injEq, exists_eq_left']
      constructor
      · rintro ⟨result, added, results, reported, -⟩
        rw [ParseResult.issues_of_ofPayload results] at reported
        obtain ⟨same, -⟩ := List.append_inj ((List.append_nil _).trans reported) sameLength
        exact ⟨same, same ▸ (ParseResult.exists_ofPayload_iff _).mp ⟨result, results⟩, by simp⟩
      · rintro ⟨rfl, located, -⟩
        obtain ⟨result, results⟩ := (ParseResult.exists_ofPayload_iff _).mpr located
        refine ⟨result, [], results, ?_, by simp⟩
        rw [ParseResult.issues_of_ofPayload results, List.append_nil]

open Container

theorem Evaluation.keyed_of_answers {evaluate : Evaluator} {key value : Schema} {label : String}
    {input : Value} {entries : List (Value × Value)}
    {keyAnswer itemAnswer : Value × Value → Payload}
    (mapping : input.entries? = some entries)
    (keyAnswers : ∀ entry ∈ entries, evaluate key entry.1 = .ok (keyAnswer entry))
    (itemAnswers : ∀ entry ∈ entries, evaluate value entry.2 = .ok (itemAnswer entry)) :
    Evaluation.keyed evaluate label key value input =
      assembleKeyed label (keyedResults keyAnswer itemAnswer entries) (.accept (.mapping [])) := by
  rw [Evaluation.keyed, mapping]
  simp only [parts_keyedJobs_of_answers keyAnswers itemAnswers]
  rfl

/-- A record or a map whose schemas come to an answer on every key and item. It returns what is to
be reported, with nothing but the issues of its own checks besides, just when every refused key is a
text or an integer, the other keys are accepted as what can be a key where their items are present,
every place of an issue has a text, and its checks come to an answer on what it assembles without
issues. -/
theorem reports_refused_keys_iff {environment : Environment} {limit : Nat}
    {schema key value : Schema} {label : String} {input : Value} {entries : List (Value × Value)}
    {keyAnswer itemAnswer : Value × Value → Payload}
    (isKeyed : schema.form = .record key value ∧ label = "record" ∨
      schema.form = .map key value ∧ label = "map")
    (mapping : input.entries? = some entries)
    (keyAnswers : ∀ entry ∈ entries,
      Evaluation.within environment limit key entry.1 = .ok (keyAnswer entry))
    (itemAnswers : ∀ entry ∈ entries,
      Evaluation.within environment limit value entry.2 = .ok (itemAnswer entry)) :
    (∃ result added,
      (schema.safeParseWithin (limit + 1) environment input).outcome = .ok result ∧
        result.issues = keyedIssues label keyAnswer itemAnswer entries ++ added ∧
        ∀ issue ∈ added, issue.code = .custom ∧ issue.path = []) ↔
      (∀ entry ∈ entries, (keyAnswer entry).isClean = false → entry.1.IsSegment) ∧
        (∀ entry ∈ entries, KeepsEntry keyAnswer itemAnswer entry) ∧
        (∀ issue ∈ keyedIssues label keyAnswer itemAnswer entries, ∀ segment ∈ issue.path,
          ∃ text, segment.plain = .ok text) ∧
        ∀ output, assembleKeyed label (keyedResults keyAnswer itemAnswer entries)
            (.accept (.mapping [])) = .ok (.accept output) →
          ∃ final, Evaluation.refine schema.refinements (.accept output) = .ok final := by
  have evaluates : Evaluation.within environment (limit + 1) schema input =
      (assembleKeyed label (keyedResults keyAnswer itemAnswer entries)
        (.accept (.mapping []))).bind (Evaluation.refine schema.refinements) := by
    rw [← Evaluation.keyed_of_answers mapping keyAnswers itemAnswers]
    rcases isKeyed with ⟨isRecord, rfl⟩ | ⟨isMap, rfl⟩
    · rw [Evaluation.within, Evaluation.schema, isRecord, Evaluation.form]
    · rw [Evaluation.within, Evaluation.schema, isMap, Evaluation.form]
  rw [outcome_safeParseWithin, evaluates]
  constructor
  · rintro ⟨result, added, results, further⟩
    obtain ⟨final, refined, results⟩ := (except_bind_eq_ok_iff _ _ _).mp results
    obtain ⟨payload, assembled, refines⟩ := (except_bind_eq_ok_iff _ _ _).mp refined
    obtain ⟨keeps, reports, placed, reported⟩ :=
      (assembleKeyed_eq_ok_iff entries _ _).mp ⟨payload.value, assembled⟩
    have sameIssues : payload.issues = reports.flatten := reported
    have sameLength := length_flatten_of_placed placed
    rw [← sameIssues] at sameLength
    obtain ⟨same, located, checks⟩ := (Evaluation.returns_issues_iff sameLength).mp
      ⟨result, added, ⟨final, refines, results⟩, further⟩
    refine ⟨(flatten_eq_keyedIssues_iff placed).mp (sameIssues.symm.trans same), keeps, located,
      fun output accepted => ?_⟩
    cases assembled.symm.trans accepted
    exact checks rfl
  · rintro ⟨segments, keeps, located, checks⟩
    have placed : List.Forall₂ (fun entry report =>
        placedIssues label keyAnswer itemAnswer entry = .ok report) entries
        (entries.map (entryIssues label keyAnswer itemAnswer)) :=
      List.forall₂_map_right_iff.mpr (List.forall₂_same.mpr fun entry member =>
        (placedIssues_eq_entryIssues_iff entry).mpr (segments entry member))
    obtain ⟨value, assembled⟩ := (assembleKeyed_eq_ok_iff entries (.accept (.mapping []))
      (keyedIssues label keyAnswer itemAnswer entries)).mpr ⟨keeps, _, placed, rfl⟩
    have checksHere (clean : (⟨value, keyedIssues label keyAnswer itemAnswer entries⟩ :
        Payload).isClean = true) : ∃ final, Evaluation.refine schema.refinements
          ⟨value, keyedIssues label keyAnswer itemAnswer entries⟩ = .ok final := by
      rw [Payload.eq_accept clean] at assembled ⊢
      exact checks value assembled
    obtain ⟨result, added, ⟨final, refines, results⟩, further⟩ :=
      (Evaluation.returns_issues_iff rfl).mpr ⟨rfl, located, checksHere⟩
    refine ⟨result, added, (except_bind_eq_ok_iff _ _ _).mpr ⟨final, ?_, results⟩, further⟩
    exact (except_bind_eq_ok_iff _ _ _).mpr ⟨_, assembled, refines⟩

def flags : Schema :=
  .anonymous (.record (.anonymous (.text Schema.freeText)) (.anonymous .boolean))

/-- An item of the wrong kind under a text, and a key of the wrong kind. -/
def flagEntries : List (Value × Value) := [(.text "a", .null), (.integer 1, .boolean true)]

/-- The item is reported under its key, and then the other key. -/
theorem reports_refused_keys_flags :
    ∃ result added,
      (flags.safeParseWithin 2 ⟨[], none⟩ (.mapping flagEntries)).outcome = .ok result ∧
        result.issues = [(Issue.wrongKind "boolean" .null).within (.text "a"),
          refusedKey "record" (.integer 1) [Issue.wrongKind "string" (.integer 1)]] ++ added ∧
        ∀ issue ∈ added, issue.code = .custom ∧ issue.path = [] := by
  let keyAnswer (entry : Value × Value) : Payload :=
    if entry.1.isText then .accept entry.1 else .wrongKind "string" entry.1
  let itemAnswer (entry : Value × Value) : Payload :=
    if entry.2.isBoolean then .accept entry.2 else .wrongKind "boolean" entry.2
  have isKeyed : flags.form = .record (.anonymous (.text Schema.freeText)) (.anonymous .boolean) ∧
      "record" = "record" ∨ flags.form = .map (.anonymous (.text Schema.freeText))
        (.anonymous .boolean) ∧ "record" = "map" := .inl ⟨rfl, rfl⟩
  have keyAnswers : ∀ entry ∈ flagEntries, Evaluation.within ⟨[], none⟩ 1
      (.anonymous (.text Schema.freeText)) entry.1 = .ok (keyAnswer entry) := by
    simp only [flagEntries, List.forall_mem_cons]
    exact ⟨rfl, rfl, by simp⟩
  have itemAnswers : ∀ entry ∈ flagEntries, Evaluation.within ⟨[], none⟩ 1
      (.anonymous .boolean) entry.2 = .ok (itemAnswer entry) := by
    simp only [flagEntries, List.forall_mem_cons]
    exact ⟨rfl, rfl, by simp⟩
  refine (reports_refused_keys_iff isKeyed rfl keyAnswers itemAnswers).mpr
    ⟨?_, ?_, ?_, fun output _ => ⟨_, refine_nil _⟩⟩
  · simp only [flagEntries, List.forall_mem_cons]
    exact ⟨fun _ => .inl ⟨"a", rfl⟩, fun _ => .inr ⟨1, rfl⟩, by simp⟩
  · simp only [flagEntries, List.forall_mem_cons]
    exact ⟨fun _ _ => rfl, fun refused => (by cases refused), by simp⟩
  · change ∀ issue ∈ [_, _], _
    simp only [List.forall_mem_cons]
    exact ⟨List.forall_mem_singleton.mpr ⟨"a", rfl⟩, List.forall_mem_singleton.mpr ⟨_, rfl⟩,
      by simp⟩

/-- A record on a mapping with a null key, which its schema of the keys refuses: that schema and the
one of the items come to an answer, and the validation ends in a fault. -/
theorem not_reports_refused_keys :
    Evaluation.within ⟨[], none⟩ 1 (.anonymous (.text Schema.freeText)) .null =
        .ok (.wrongKind "string" .null) ∧
      Evaluation.within ⟨[], none⟩ 1 (.anonymous .any) (.integer 1) = .ok (.accept (.integer 1)) ∧
      ((Schema.anonymous (.record (.anonymous (.text Schema.freeText))
        (.anonymous .any))).safeParseWithin 2 ⟨[], none⟩
          (.mapping [(.null, .integer 1)])).outcome = .error .unlocatableKey :=
  ⟨rfl, rfl, rfl⟩

end TypedTables
