import TypedTables.Proofs.Validation.Plain
import TypedTables.Proofs.Validation.Runs

/-!
# What keeps a validation from ending in a result

Validating with a plain schema reports problems as issues. It ends in a fault only where it comes
upon an obstacle: a promise on an awaitable value, or a value that can stand neither in the
collection nor in the text where the evaluation has to put it.
-/

namespace TypedTables

namespace Evaluation

/-- Evaluating a schema on a value to a depth comes upon a schema and a value with a property,
which may depend on how the parts of that schema are evaluated. -/
def Meets (environment : Environment) (property : Evaluator → Schema → Value → Prop) :
    Nat → Schema → Value → Prop
  | 0, _, _ => False
  | limit + 1, schema, input =>
      property (within environment limit) schema input ∨
        ∃ run ∈ runs environment (within environment limit) schema.form input,
          Meets environment property limit run.1 run.2

end Evaluation

/-- A promise is given an awaitable value. -/
def Form.MustAwait : Form Schema → Value → Prop
  | .promise _, input => input.isAwaitable = true
  | _, _ => False

/-- A key that an object refuses has no text. -/
def Container.RefusesUnwritable (shape : List (String × Schema)) (catchall : Option Schema)
    (input : Value) : Prop :=
  ExtraKeys.ofCatchall catchall = .refused ∧
    ∃ entry ∈ extraEntries shape (input.entries?.getD []), ∃ cause, entry.1.plain = .error cause

/-- An accepted key with an item comes out unhashable, or a refused key cannot stand in a path. -/
def Container.MisplacesKey (evaluate : Evaluator) (key value : Schema) (input : Value) : Prop :=
  ∃ entry ∈ input.entries?.getD [], ∃ keyPayload, evaluate key entry.1 = .ok keyPayload ∧
    if keyPayload.isClean then
      (∃ className, keyPayload.value.unhashableClass? = some className) ∧
        ∃ payload, evaluate value entry.2 = .ok payload ∧ payload.value.isUndefined = false
    else ∃ cause, pathKey entry.1 = .error cause

/-- The evaluation of a form has to put a value where it cannot stand: something unhashable into
a set or under a key, a refused key into a path, or a value without a text into one. -/
def Form.Misplaces (evaluate : Evaluator) : Form Schema → Value → Prop
  | .text rules, input => rules.coerce = true ∧ ∃ cause, input.plain = .error cause
  | .object shape catchall, input => Container.RefusesUnwritable shape catchall input
  | .table described, input =>
      Container.RefusesUnwritable described.shape (some described.catchall) input
  | .set element _ _, input =>
      ∃ member ∈ input.members?.getD [], ∃ payload, evaluate element member = .ok payload ∧
        ∃ className, payload.value.unhashableClass? = some className
  | .record key value, input | .map key value, input =>
      Container.MisplacesKey evaluate key value input
  | _, _ => False

namespace Evaluation

variable {evaluate : Evaluator}

end Evaluation

/-- Issues are reported just when each segment of their paths has a text. -/
theorem ParseResult.exists_ofPayload_iff (payload : Payload) :
    (∃ result, ofPayload payload = .ok result) ↔
      ∀ issue ∈ payload.issues, ∀ segment ∈ issue.path, ∃ text, segment.plain = .ok text := by
  unfold ofPayload
  cases clean : payload.isClean with
  | true =>
      have none : payload.issues = [] := List.isEmpty_iff.mp clean
      simp [none]
  | false =>
      simp only [Bool.false_eq_true, if_false, Issue.report, exists_except_map_eq_ok_iff,
        exists_mapM_eq_ok_iff, Issue.line, Issue.location]

end TypedTables
