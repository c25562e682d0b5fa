import Mathlib.Data.List.Permutation
import TypedTables.Proofs.Validation.Jobs

/-!
# What objects settle to

The parts of an object are run together, and the answers that are awaited are filled in where they
belong. An object settles exactly when each of its parts does on its own, and then to what its
fields bring, in the order of the shape, followed by what the extra keys bring, in the order of the
input. What one part brings depends on no other part.
-/

namespace TypedTables

/-- An object settles to what evaluating its parts one by one brings, each to what it settles to
on its own, whichever of them are awaited. -/
theorem settled_object_eq_ok_iff {validate : Validator} (shape : List (String × Schema))
    (catchall : Option Schema) (input : Value) (payload : Payload) :
    (Container.object validate shape catchall input).settled = .ok payload ↔
      Evaluation.object validate.alone shape catchall input = .ok payload := by
  unfold Container.object Evaluation.object
  cases input.entries? with
  | none => exact Iff.rfl
  | some entries =>
      refine settled_fanOut_andThen_eq_ok_iff _ (fun results final => ?_) payload
      cases Container.ExtraKeys.ofCatchall catchall with
      | validated schema => exact settled_joinEntries_eq_ok_iff _ _ _
      | dropped =>
          rw [← settled_joinEntries_eq_ok_iff]
          by_cases none : (Container.extraEntries shape entries).isEmpty = true <;>
            simp [none, Except.bind]
      | refused =>
          rw [Traced.settled_andThen, Traced.outcome_ofExcept]
          cases ((Container.extraEntries shape entries).map Prod.fst).mapM Value.plain with
          | error cause => simp [Except.bind, Except.map]
          | ok refused => exact settled_joinEntries_eq_ok_iff _ _ _
      | kept =>
          have there : (Container.extraEntries shape entries).map
              (fun entry => (⟨entry.1, true, .ready (.accept entry.2)⟩ : Entry (Progress Payload))) =
              ((Container.extraEntries shape entries).map fun entry =>
                (⟨entry.1, true, .accept entry.2⟩ : Entry Payload)).map Entry.atOnce := by
            rw [List.map_map]
            rfl
          simp only [there]
          exact settled_joinEntries_append_eq_ok_iff _ _ _ _

namespace Container

/-- What the field of a name is run on: the item under the name, or absence. -/
def inputAt (entries : List (Value × Value)) (name : String) : Value :=
  (Value.find? (.text name) entries).getD .undefined

/-- The entries of the output that fields make: a field whose name is no key of the input makes
one only when it brings a value. -/
def fieldOutputs (entries : List (Value × Value)) (shape : List (String × Schema))
    (result : String × Schema → Payload) : List (Value × Value) :=
  (shape.filter fun field =>
    Value.hasKey (.text field.1) entries || !(result field).value.isUndefined).map fun field =>
      (.text field.1, (result field).value)

def fieldIssues (shape : List (String × Schema)) (result : String × Schema → Payload) :
    List Issue :=
  shape.flatMap fun field => (result field).issues.map (Issue.within (.text field.1))

/-- What the extra entries of an input bring to the output and to the issues of an object, by its
catchall: without one they are dropped, one that never accepts refuses them in a single issue, one
that accepts anything keeps them, and any other is run on each of them. -/
inductive BringsExtras (evaluate : Evaluator) (input : Value) (extra : List (Value × Value)) :
    Option Schema → List (Value × Value) → List Issue → Prop
  | dropped : BringsExtras evaluate input extra none [] []
  | noneRefused {never : Schema} (isNever : never.kind = .never) (absent : extra = []) :
      BringsExtras evaluate input extra (some never) [] []
  | refused {never : Schema} {keys : List String} (isNever : never.kind = .never)
      (present : extra ≠ []) (shown : (extra.map Prod.fst).mapM Value.plain = .ok keys) :
      BringsExtras evaluate input extra (some never) [] [refusedKeys keys input]
  | kept {unknown : Schema} (isUnknown : unknown.kind = .unknown) :
      BringsExtras evaluate input extra (some unknown) extra []
  | validated {catchall : Schema} {result : Value × Value → Payload}
      (isOther : catchall.kind ≠ .never ∧ catchall.kind ≠ .unknown)
      (alone : ∀ entry ∈ extra, evaluate catchall entry.2 = .ok (result entry)) :
      BringsExtras evaluate input extra (some catchall) (extraOutputs extra result)
        (extraIssues extra result)

theorem present_fieldJob (entries : List (Value × Value)) (field : String × Schema) :
    (fieldJob entries field).present = Value.hasKey (.text field.1) entries := by
  have same : (Value.find? (.text field.1) entries).isSome =
      Value.hasKey (.text field.1) entries := by
    rw [Value.find?, Option.isSome_map, List.isSome_find?, Value.hasKey]
  rw [← same, fieldJob]
  cases Value.find? (.text field.1) entries <;> rfl

theorem input_fieldJob_eq (entries : List (Value × Value)) (field : String × Schema) :
    (fieldJob entries field).input = inputAt entries field.1 := by
  unfold fieldJob inputAt
  cases Value.find? (.text field.1) entries <;> rfl

def fieldEntry (entries : List (Value × Value)) (result : String × Schema → Payload)
    (field : String × Schema) : Entry Payload :=
  ⟨.text field.1, Value.hasKey (.text field.1) entries, result field⟩

theorem parts_fieldJobs_eq_ok_iff (evaluate : Evaluator) (shape : List (String × Schema))
    (entries : List (Value × Value)) (done : List (Entry Payload)) :
    Evaluation.parts evaluate (shape.map (fieldJob entries)) = .ok done ↔
      ∃ result : String × Schema → Payload,
        (∀ field ∈ shape, evaluate field.2 (inputAt entries field.1) = .ok (result field)) ∧
        done = shape.map (fieldEntry entries result) := by
  rw [Evaluation.parts_map_eq_ok_iff]
  simp only [schema_fieldJob, input_fieldJob_eq, key_fieldJob, present_fieldJob]
  rfl

theorem outputEntries_cons (entry : Entry Payload) (rest : List (Entry Payload)) :
    outputEntries (entry :: rest) =
      (if entry.present || !entry.result.value.isUndefined then [(entry.key, entry.result.value)]
        else []) ++ outputEntries rest := by
  cases present : entry.present <;> cases absent : entry.result.value.isUndefined <;>
    simp [outputEntries, present, absent]

theorem outputEntries_fieldEntry (entries : List (Value × Value)) (shape : List (String × Schema))
    (result : String × Schema → Payload) :
    outputEntries (shape.map (fieldEntry entries result)) = fieldOutputs entries shape result := by
  induction shape with
  | nil => rfl
  | cons field rest ih =>
      rw [List.map_cons, outputEntries_cons, ih, fieldOutputs, fieldOutputs, List.filter_cons]
      by_cases isOutput :
          (Value.hasKey (.text field.1) entries || !(result field).value.isUndefined) = true <;>
        simp [fieldEntry, isOutput]

theorem issuesUnderKeys_fieldEntry (entries : List (Value × Value))
    (shape : List (String × Schema)) (result : String × Schema → Payload) :
    issuesUnderKeys (shape.map (fieldEntry entries result)) = fieldIssues shape result := by
  rw [issuesUnderKeys, List.flatMap_map]
  rfl

section Catchalls

variable {evaluate : Evaluator} {input : Value} {extra outputs : List (Value × Value)}
  {issues : List Issue} {catchall : Schema}

theorem bringsExtras_none_iff :
    BringsExtras evaluate input extra none outputs issues ↔ outputs = [] ∧ issues = [] := by
  constructor
  · rintro ⟨⟩
    exact ⟨rfl, rfl⟩
  · rintro ⟨rfl, rfl⟩
    exact .dropped

theorem bringsExtras_never_iff (isNever : catchall.kind = .never) :
    BringsExtras evaluate input extra (some catchall) outputs issues ↔
      ∃ keys, (extra.map Prod.fst).mapM Value.plain = .ok keys ∧ outputs = [] ∧
        issues = if keys.isEmpty then [] else [refusedKeys keys input] := by
  constructor
  · intro brings
    cases brings with
    | noneRefused _ absent => exact ⟨[], by rw [absent]; rfl, rfl, rfl⟩
    | @refused _ keys _ present shown =>
        refine ⟨keys, shown, rfl, ?_⟩
        have lengths := congrArg List.length ((mapM_eq_ok_iff _ _ _).mp shown)
        have some : keys ≠ [] := by
          rintro rfl
          exact present (by simpa using lengths)
        simp [some]
    | kept isUnknown => rw [isNever] at isUnknown; cases isUnknown
    | validated isOther => exact absurd isNever isOther.1
  · rintro ⟨keys, shown, rfl, rfl⟩
    have lengths := congrArg List.length ((mapM_eq_ok_iff _ _ _).mp shown)
    cases keys with
    | nil => exact .noneRefused isNever (by simpa using lengths)
    | cons key others =>
        refine .refused isNever ?_ shown
        rintro rfl
        simp at lengths

theorem bringsExtras_unknown_iff (isUnknown : catchall.kind = .unknown) :
    BringsExtras evaluate input extra (some catchall) outputs issues ↔
      outputs = extra ∧ issues = [] := by
  constructor
  · intro brings
    cases brings with
    | kept _ => exact ⟨rfl, rfl⟩
    | noneRefused isNever | refused isNever => rw [isUnknown] at isNever; cases isNever
    | validated isOther => exact absurd isUnknown isOther.2
  · rintro ⟨rfl, rfl⟩
    exact .kept isUnknown

theorem bringsExtras_other_iff (isOther : catchall.kind ≠ .never ∧ catchall.kind ≠ .unknown) :
    BringsExtras evaluate input extra (some catchall) outputs issues ↔
      ∃ result, (∀ entry ∈ extra, evaluate catchall entry.2 = .ok (result entry)) ∧
        outputs = extraOutputs extra result ∧ issues = extraIssues extra result := by
  constructor
  · intro brings
    cases brings with
    | noneRefused isNever | refused isNever => exact absurd isNever isOther.1
    | kept isUnknown => exact absurd isUnknown isOther.2
    | validated _ alone => exact ⟨_, alone, rfl, rfl⟩
  · rintro ⟨result, alone, rfl, rfl⟩
    exact .validated isOther alone

end Catchalls

theorem parts_bind_eq_ok_iff (evaluate : Evaluator) (shape : List (String × Schema))
    (catchall : Schema) (entries extra : List (Value × Value))
    (next : List (Entry Payload) → Except Fault Payload) (payload : Payload) :
    (Evaluation.parts evaluate (shape.map (fieldJob entries) ++ extra.map fun entry =>
        ⟨entry.1, true, catchall, entry.2⟩)).bind next = .ok payload ↔
      ∃ result answer,
        (∀ field ∈ shape, evaluate field.2 (inputAt entries field.1) = .ok (result field)) ∧
        (∀ entry ∈ extra, evaluate catchall entry.2 = .ok (answer entry)) ∧
        next (shape.map (fieldEntry entries result) ++ extra.map (extraEntry answer)) =
          .ok payload := by
  rw [except_bind_eq_ok_iff]
  constructor
  · rintro ⟨done, evaluated, assembled⟩
    obtain ⟨ofFields, ofExtras, rfl, fields, extras⟩ :=
      (Evaluation.parts_append_eq_ok_iff _ _ _).mp evaluated
    obtain ⟨result, alone, rfl⟩ := (parts_fieldJobs_eq_ok_iff _ _ _ _).mp fields
    obtain ⟨answer, answers, rfl⟩ := (Evaluation.parts_map_eq_ok_iff _ _ _).mp extras
    exact ⟨result, answer, alone, answers, assembled⟩
  · rintro ⟨result, answer, alone, answers, assembled⟩
    refine ⟨_, (Evaluation.parts_append_eq_ok_iff _ _ _).mpr ⟨_, _, rfl, ?_, ?_⟩, assembled⟩
    · exact (parts_fieldJobs_eq_ok_iff _ _ _ _).mpr ⟨result, alone, rfl⟩
    · exact (Evaluation.parts_map_eq_ok_iff _ _ _).mpr ⟨answer, answers, rfl⟩

theorem parts_fields_bind_eq_ok_iff (evaluate : Evaluator) (shape : List (String × Schema))
    (entries : List (Value × Value)) (next : List (Entry Payload) → Except Fault Payload)
    (payload : Payload) :
    (Evaluation.parts evaluate (shape.map (fieldJob entries) ++ [])).bind next = .ok payload ↔
      ∃ result,
        (∀ field ∈ shape, evaluate field.2 (inputAt entries field.1) = .ok (result field)) ∧
        next (shape.map (fieldEntry entries result)) = .ok payload := by
  rw [List.append_nil, except_bind_eq_ok_iff]
  constructor
  · rintro ⟨done, evaluated, assembled⟩
    obtain ⟨result, alone, rfl⟩ := (parts_fieldJobs_eq_ok_iff _ _ _ _).mp evaluated
    exact ⟨result, alone, assembled⟩
  · rintro ⟨result, alone, assembled⟩
    exact ⟨_, (parts_fieldJobs_eq_ok_iff _ _ _ _).mpr ⟨result, alone, rfl⟩, assembled⟩

theorem ofCatchall_of_other {catchall : Schema}
    (isOther : catchall.kind ≠ .never ∧ catchall.kind ≠ .unknown) :
    ExtraKeys.ofCatchall (some catchall) = .validated catchall := by
  unfold ExtraKeys.ofCatchall
  cases kind : catchall.kind <;> simp_all

theorem assembleObject_fieldEntry (input : Value) (refused : List String)
    (entries : List (Value × Value)) (shape : List (String × Schema))
    (result : String × Schema → Payload) :
    assembleObject input refused (shape.map (fieldEntry entries result)) =
      ⟨.mapping (fieldOutputs entries shape result), fieldIssues shape result ++
        if refused.isEmpty then [] else [refusedKeys refused input]⟩ := by
  rw [assembleObject, outputEntries_fieldEntry, issuesUnderKeys_fieldEntry]

theorem assembleObject_extraEntry (input : Value) (entries extra : List (Value × Value))
    (shape : List (String × Schema)) (result : String × Schema → Payload)
    (answer : Value × Value → Payload) :
    assembleObject input [] (shape.map (fieldEntry entries result) ++
        extra.map (extraEntry answer)) =
      ⟨.mapping (fieldOutputs entries shape result ++ extraOutputs extra answer),
        fieldIssues shape result ++ extraIssues extra answer⟩ := by
  rw [assembleObject, outputEntries_append_extraEntry, issuesUnderKeys_append_extraEntry,
    outputEntries_fieldEntry, issuesUnderKeys_fieldEntry]
  simp

/-- An evaluated object brings what its fields bring, followed by what its extra entries bring. -/
theorem evaluated_object_eq_ok_iff (evaluate : Evaluator) (shape : List (String × Schema))
    (catchall : Option Schema) {input : Value} {entries : List (Value × Value)}
    (mapping : input.entries? = some entries) (payload : Payload) :
    Evaluation.object evaluate shape catchall input = .ok payload ↔
      ∃ result outputs issues,
        (∀ field ∈ shape, evaluate field.2 (inputAt entries field.1) = .ok (result field)) ∧
        BringsExtras evaluate input (extraEntries shape entries) catchall outputs issues ∧
        payload = ⟨.mapping (fieldOutputs entries shape result ++ outputs),
          fieldIssues shape result ++ issues⟩ := by
  rw [Evaluation.object, mapping]
  simp only
  cases catchall with
  | none =>
      rw [show ExtraKeys.ofCatchall none = .dropped from rfl]
      simp only [objectJobs, parts_fields_bind_eq_ok_iff, bringsExtras_none_iff,
        assembleObject_fieldEntry, Except.ok.injEq]
      constructor
      · rintro ⟨result, alone, rfl⟩
        exact ⟨result, [], [], alone, ⟨rfl, rfl⟩, by simp⟩
      · rintro ⟨result, _, _, alone, ⟨rfl, rfl⟩, rfl⟩
        exact ⟨result, alone, by simp⟩
  | some schema =>
      by_cases isNever : schema.kind = .never
      · have refuses : ExtraKeys.ofCatchall (some schema) = .refused := by
          simp only [ExtraKeys.ofCatchall, isNever]
        simp only [refuses, objectJobs, parts_fields_bind_eq_ok_iff,
          bringsExtras_never_iff isNever, except_map_eq_ok_iff, assembleObject_fieldEntry]
        constructor
        · rintro ⟨result, alone, keys, shown, rfl⟩
          exact ⟨result, [], _, alone, ⟨keys, shown, rfl, rfl⟩, by simp⟩
        · rintro ⟨result, _, _, alone, ⟨keys, shown, rfl, rfl⟩, rfl⟩
          exact ⟨result, alone, keys, shown, by simp⟩
      · by_cases isUnknown : schema.kind = .unknown
        · have keeps : ExtraKeys.ofCatchall (some schema) = .kept := by
            simp only [ExtraKeys.ofCatchall, isUnknown]
          have asRun (done : List (Entry Payload)) :
              done ++ (extraEntries shape entries).map (fun entry => ⟨entry.1, true, .accept entry.2⟩) =
                done ++ (extraEntries shape entries).map (extraEntry copied) := rfl
          simp only [keeps, objectJobs, parts_fields_bind_eq_ok_iff, asRun,
            bringsExtras_unknown_iff isUnknown, assembleObject_extraEntry, extraOutputs_copied,
            extraIssues_copied, Except.ok.injEq]
          constructor
          · rintro ⟨result, alone, rfl⟩
            exact ⟨result, _, _, alone, ⟨rfl, rfl⟩, rfl⟩
          · rintro ⟨result, _, _, alone, ⟨rfl, rfl⟩, rfl⟩
            exact ⟨result, alone, rfl⟩
        · rw [ofCatchall_of_other ⟨isNever, isUnknown⟩]
          simp only [objectJobs, parts_bind_eq_ok_iff, bringsExtras_other_iff ⟨isNever, isUnknown⟩,
            assembleObject_extraEntry, Except.ok.injEq]
          constructor
          · rintro ⟨result, answer, alone, answers, rfl⟩
            exact ⟨result, _, _, alone, ⟨answer, answers, rfl, rfl⟩, rfl⟩
          · rintro ⟨result, _, _, alone, ⟨answer, answers, rfl, rfl⟩, rfl⟩
            exact ⟨result, answer, alone, answers, rfl⟩

/-- An object is validated as specified, whichever answers are awaited. It settles exactly when
each field settles on its own, on the item under its name or on absence, and the extra entries
bring something; then its output and its issues are those of the fields, in the order of the
shape, followed by those of the extra entries, in the order of the input. -/
theorem settled_object_iff_alone (validate : Validator) (shape : List (String × Schema))
    (catchall : Option Schema) {input : Value} {entries : List (Value × Value)}
    (mapping : input.entries? = some entries) (payload : Payload) :
    (object validate shape catchall input).settled = .ok payload ↔
      ∃ (result : String × Schema → Payload) (outputs : List (Value × Value))
          (issues : List Issue),
        (∀ field ∈ shape, validate.alone field.2 (inputAt entries field.1) = .ok (result field)) ∧
        BringsExtras validate.alone input (extraEntries shape entries) catchall outputs issues ∧
        payload = ⟨.mapping (fieldOutputs entries shape result ++ outputs),
          fieldIssues shape result ++ issues⟩ :=
  (settled_object_eq_ok_iff shape catchall input payload).trans
    (evaluated_object_eq_ok_iff validate.alone shape catchall mapping payload)

/-- The fields of a person: an age with an awaited check, a name, and a nickname that may be
absent. -/
def personShape : List (String × Schema) :=
  [("age", ⟨none, [⟨.onValues ⟨.even, true⟩, "odd"⟩], .null, .number Schema.anyNumber⟩),
    ("name", .anonymous (.text Schema.freeText)),
    ("nick", .anonymous (.optional (.anonymous (.text Schema.freeText))))]

/-- A catchall of numbers with an awaited check. -/
def nonzero : Schema :=
  ⟨none, [⟨.onValues ⟨.truthy, true⟩, "zero"⟩], .null, .number Schema.anyNumber⟩

/-- A person of an odd age without a nickname, with a zero under an extra key. -/
def personEntries : List (Value × Value) :=
  [(.text "extra", .integer 0), (.text "name", .text "Ada"), (.text "age", .integer 3)]

/-- Awaited answers beside answers that are there at once, of fields and of an extra key. -/
theorem settled_object_person :
    (object (Validation.run ⟨⟨[], none⟩, .asynchronous⟩ 2) personShape (some nonzero)
        (.mapping personEntries)).settled =
      .ok ⟨.mapping [(.text "age", .integer 3), (.text "name", .text "Ada"),
          (.text "extra", .integer 0)],
        [(Issue.plain .custom "odd" (.integer 3)).within (.text "age"),
          (Issue.plain .custom "zero" (.integer 0)).within (.text "extra")]⟩ := by
  let result (field : String × Schema) : Payload :=
    match field.1 with
    | "age" => .reject (.integer 3) (Issue.plain .custom "odd" (.integer 3))
    | "name" => .accept (.text "Ada")
    | _ => .accept .undefined
  let answer (_ : Value × Value) : Payload :=
    .reject (.integer 0) (Issue.plain .custom "zero" (.integer 0))
  have mapping : (Value.mapping personEntries).entries? = some personEntries := rfl
  have answers : ∀ entry ∈ extraEntries personShape personEntries,
      (Validation.run ⟨⟨[], none⟩, .asynchronous⟩ 2).alone nonzero entry.2 = .ok (answer entry) := by
    intro entry member
    rw [show extraEntries personShape personEntries = [(.text "extra", .integer 0)] from rfl] at member
    rw [List.mem_singleton.mp member]
    rfl
  refine (settled_object_iff_alone _ personShape (some nonzero) mapping _).mpr
    ⟨result, _, _, ?_, .validated (by decide) answers, ?_⟩
  · simp only [personShape, List.forall_mem_cons]
    exact ⟨by cbv, by cbv, by cbv, by simp⟩
  · cbv

end Container

end TypedTables
