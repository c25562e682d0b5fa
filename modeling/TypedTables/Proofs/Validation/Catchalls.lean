import TypedTables.Proofs.Validation.Objects

/-!
# Catchalls that keep everything

A catchall that accepts anything is not run: extra entries are copied as they are. Running it would
bring each value back as well, since refinements report issues and change nothing. Copying and
running therefore differ only where a refinement of the catchall refuses a value or fails on it.
-/

namespace TypedTables

theorem Schema.form_of_unknown {schema : Schema} (isUnknown : schema.kind = .unknown) :
    schema.form = .unknown := by
  rw [Schema.kind] at isUnknown
  cases form : schema.form with
  | unknown => rfl
  | text rules =>
      rw [form, Form.kind] at isUnknown
      cases format : rules.format <;> simp [format] at isUnknown
  | _ =>
      rw [form] at isUnknown
      cases isUnknown

/-- A schema that accepts anything brings back the value it is run on, whatever its refinements
say. -/
theorem value_of_settled_unknown {scope : ParseScope} {limit : Nat} {schema : Schema}
    (isUnknown : schema.kind = .unknown) {input : Value} {answer : Payload}
    (settled : (Validation.run scope limit).alone schema input = .ok answer) :
    answer.value = input := by
  cases limit with
  | zero => cases settled
  | succ limit =>
      obtain ⟨formed, brought, refined⟩ := Validation.exists_formed_of_settled settled
      rw [Schema.form_of_unknown isUnknown] at brought
      cases brought
      exact value_of_settled_refine refined

namespace Container

/-- Copying extra entries agrees with running the catchall exactly where that reports nothing. An
object with a catchall that accepts anything settles exactly when its fields do, and every extra
entry brings what it is, without issues. Where the catchall settles on the value of an entry, this
is what it brings if and only if it reports no issue. -/
theorem settled_object_unknown (scope : ParseScope) (limit : Nat) (shape : List (String × Schema))
    {catchall : Schema} (isUnknown : catchall.kind = .unknown) {input : Value}
    {entries : List (Value × Value)} (mapping : input.entries? = some entries) :
    (∀ payload,
      (object (Validation.run scope limit) shape (some catchall) input).settled = .ok payload ↔
        ∃ result : String × Schema → Payload,
          (∀ field ∈ shape,
            (Validation.run scope limit).alone field.2 (inputAt entries field.1) =
              .ok (result field)) ∧
          payload = ⟨.mapping (fieldOutputs entries shape result ++
              extraOutputs (extraEntries shape entries) copied),
            fieldIssues shape result ++ extraIssues (extraEntries shape entries) copied⟩) ∧
      ∀ entry ∈ extraEntries shape entries, ∀ answer,
        (Validation.run scope limit).alone catchall entry.2 = .ok answer →
          (copied entry = answer ↔ answer.isClean = true) := by
  constructor
  · intro payload
    rw [settled_object_eq_ok_iff, evaluated_object_eq_ok_iff _ _ _ mapping]
    simp only [bringsExtras_unknown_iff isUnknown, extraOutputs_copied, extraIssues_copied]
    constructor
    · rintro ⟨result, _, _, alone, ⟨rfl, rfl⟩, rfl⟩
      exact ⟨result, alone, rfl⟩
    · rintro ⟨result, alone, rfl⟩
      exact ⟨result, _, _, alone, ⟨rfl, rfl⟩, rfl⟩
  · intro entry _ answer settled
    have value := value_of_settled_unknown isUnknown settled
    constructor
    · rintro rfl
      rfl
    · intro clean
      rw [Payload.eq_accept clean, value]
      rfl

def anythingChecked (check : Operation) (message : String) : Schema :=
  ⟨none, [⟨.onValues ⟨check, true⟩, message⟩], .null, .unknown⟩

/-- A value that the check of the catchall approves is copied as running would bring it. -/
theorem settled_object_approved :
    (object (Validation.run ⟨⟨[], none⟩, .asynchronous⟩ 1) []
        (some (anythingChecked .truthy "zero")) (.mapping [(.text "extra", .integer 1)])).settled =
      .ok ⟨.mapping [(.text "extra", .integer 1)], []⟩ ∧
    (Validation.run ⟨⟨[], none⟩, .asynchronous⟩ 1).alone (anythingChecked .truthy "zero")
        (.integer 1) = .ok (copied (.text "extra", .integer 1)) := by
  have isUnknown : (anythingChecked .truthy "zero").kind = .unknown := rfl
  have mapping : (Value.mapping [(.text "extra", .integer 1)]).entries? =
      some [(.text "extra", .integer 1)] := rfl
  obtain ⟨copies, agrees⟩ :=
    settled_object_unknown ⟨⟨[], none⟩, .asynchronous⟩ 1 [] isUnknown mapping
  have runs : (Validation.run ⟨⟨[], none⟩, .asynchronous⟩ 1).alone
      (anythingChecked .truthy "zero") (.integer 1) = .ok (.accept (.integer 1)) := rfl
  refine ⟨(copies _).mpr ⟨fun _ => .accept .undefined, by simp, rfl⟩, ?_⟩
  rw [runs, (agrees (.text "extra", .integer 1) (List.mem_singleton_self _) _ runs).mpr rfl]

/-- A value that the check of the catchall refuses is copied without an issue, where running the
catchall would report one. -/
theorem not_settled_object_as_run :
    ¬∀ (scope : ParseScope) (limit : Nat) (shape : List (String × Schema)) (catchall : Schema)
      (input : Value) (entries : List (Value × Value)) (payload : Payload),
      catchall.kind = .unknown → input.entries? = some entries →
      (object (Validation.run scope limit) shape (some catchall) input).settled = .ok payload →
      ∃ (result : String × Schema → Payload) (answer : Value × Value → Payload),
        (∀ field ∈ shape,
          (Validation.run scope limit).alone field.2 (inputAt entries field.1) =
            .ok (result field)) ∧
        (∀ entry ∈ extraEntries shape entries,
          (Validation.run scope limit).alone catchall entry.2 = .ok (answer entry)) ∧
        payload = ⟨.mapping (fieldOutputs entries shape result ++
            extraOutputs (extraEntries shape entries) answer),
          fieldIssues shape result ++ extraIssues (extraEntries shape entries) answer⟩ := by
  intro asRun
  obtain ⟨result, answer, -, answers, same⟩ := asRun ⟨⟨[], none⟩, .synchronous⟩ 1 []
    ⟨none, [⟨.onValues ⟨.refuse, false⟩, "no"⟩], .null, .unknown⟩ (.mapping [(.text "a", .integer 1)])
    [(.text "a", .integer 1)] ⟨.mapping [(.text "a", .integer 1)], []⟩ rfl rfl rfl
  have refused : Except.ok (.reject (.integer 1) (Issue.plain .custom "no" (.integer 1))) =
      Except.ok (answer (.text "a", .integer 1)) :=
    answers (.text "a", .integer 1) (List.mem_singleton_self _)
  have issues : [] = (answer (.text "a", .integer 1)).issues.map (Issue.within (.text "a")) ++ [] :=
    congrArg Payload.issues same
  rw [← Except.ok.inj refused] at issues
  cases issues

end Container

end TypedTables
