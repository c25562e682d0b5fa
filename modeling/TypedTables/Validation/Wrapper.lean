import TypedTables.Validation.Container
import TypedTables.Value.Function

/-!
# Wrappers

Schemas around one or two others, and schemas that call user functions. They change how absence
is treated, or what becomes of the value and its issues.
-/

namespace TypedTables

inductive ParseMode where
  | synchronous
  | asynchronous
  deriving DecidableEq, Repr

namespace ParseMode

def allow (mode : ParseMode) (answer : Value) : Traced Unit :=
  if mode = .synchronous && answer.isAwaitable then .fault .asynchronous else .result ()

end ParseMode

namespace Wrapper

/-- Goes on with an answer of a user function, at once or when it has been awaited. -/
def withAnswer (mode : ParseMode) (answer : Value) (next : Value → Payload) :
    Traced (Progress Payload) :=
  (mode.allow answer).andThen fun _ =>
    if answer.isAwaitable then
      .result (.pending (answer.awaited.map fun result => .result (next result)))
    else .result (.ready (next answer))

/-- Continues with a payload that is there or awaited. -/
def afterwards (result : Traced (Progress Payload)) (next : Payload → Traced Payload) :
    Traced (Progress Payload) :=
  result.andThen fun progress =>
    progress.andThen fun payload => (next payload).andThen fun final => .result (.ready final)

/-- Rejects a value that is still absent. -/
def demandPresent (payload : Payload) : Payload :=
  if payload.isClean && payload.value.isUndefined then .wrongKind "nonoptional" payload.value
  else payload

/-- The value that replaces one with issues: a function is called with the issues. -/
def replaced (replacement : Replacement) (issues : List Issue) : Traced Value :=
  match replacement with
  | .computed function => function.callAs (issueValues issues) issues
  | .value (.function function) =>
      (UserFunction.onIssues function).callAs (issueValues issues) issues
  | .value (.supplier ..) => .fault (.operand "takes 0 positional arguments but 1 was given")
  | .value value => .result value

def recover (replacement : Replacement) (payload : Payload) : Traced Payload :=
  if payload.isClean then .result payload
  else (replaced replacement payload.issues).andThen fun value => .result (.accept value)

/-- The unchangeable kind of a container. -/
def freeze : Value → Value
  | .list items => .tuple items
  | .mapping entries => .frozenMapping entries
  | .set members => .frozenSet members
  | value => value

/-- Makes a value without issues unchangeable. -/
def freezeClean (payload : Payload) : Payload :=
  if payload.isClean then { payload with value := freeze payload.value } else payload

/-- The value that stands for an absent one. -/
def supplied (value : Value) : Traced Value :=
  if value.isCallable then value.supply else .result value

/-- What a reference to a record of a table that is not permitted is told. -/
def foreignTable (permitted : List String) (table : String) (input : Value) : Issue :=
  let expected := match permitted with
    | [only] => only
    | _ => "one of " ++ " | ".intercalate permitted
  { Issue.plain .invalidValue
      s!"Expected RecordId's table to be {expected} but found {table}" input with
    values := some (permitted.map Value.text) }

/-- A record with the outcome of its identifier put in. -/
def rebuildRecord (table : String) (input : Value) (payload : Payload) : Payload :=
  if payload.isClean then .accept (.record table payload.value)
  else ⟨input, payload.issues.map (Issue.within (.text "id"))⟩

def reference (validate : Validator) (tables : Option (List String)) (identifier : Schema)
    (input : Value) : Traced (Progress Payload) :=
  match input with
  | .record table value =>
      let refusal := tables.filter fun permitted => !permitted.contains table
      match refusal with
      | some permitted => .result (.ready (.reject input (foreignTable permitted table input)))
      | none =>
          afterwards (validate identifier value) fun payload =>
            .result (rebuildRecord table input payload)
  | _ => .result (.ready (.wrongKind "RecordId" input))

def refusedByCheck (message : String) (value : Value) : Issue :=
  Issue.plain .custom message value

def custom (mode : ParseMode) (check : Option (UserFunction Value)) (message : String) (input : Value) :
    Traced (Progress Payload) :=
  match check with
  | none => .result (.ready (.accept input))
  | some function =>
      (function.call input).andThen fun answer =>
        withAnswer mode answer fun verdict =>
          if verdict.isTruthy then .accept input
          else .reject input (refusedByCheck message input)

def transform (mode : ParseMode) (function : UserFunction Value) (input : Value) :
    Traced (Progress Payload) :=
  (function.call input).andThen fun answer => withAnswer mode answer Payload.accept

/-- Validates what an awaitable value brings, or any other value itself. -/
def promise (mode : ParseMode) (validate : Validator) (inner : Schema) (input : Value) :
    Traced (Progress Payload) :=
  if input.isAwaitable then
    (mode.allow input).andThen fun _ =>
      (Progress.pending input.awaited).andThen fun value => validate inner value
  else validate inner input

def callChecks (mode : ParseMode) (refinements : List Refinement) (value : Value) :
    Traced (List Value) :=
  Traced.forEach refinements fun refinement =>
    (refinement.check.call value).andThen fun answer =>
      (mode.allow answer).andThen fun _ => .result answer

/-- The payload of a value after the verdicts of its checks. -/
def judge (refinements : List Refinement) (value : Value) (verdicts : List Value) : Payload :=
  { value
    issues := (refinements.zip verdicts).filterMap fun (refinement, verdict) =>
      if verdict.isTruthy then none else some (refusedByCheck refinement.message value) }

/-- Runs the checks of a schema on what its form has accepted; absence is not checked. -/
def refine (mode : ParseMode) (refinements : List Refinement) (payload : Payload) :
    Traced (Progress Payload) :=
  if !payload.isClean || payload.value.isUndefined then .result (.ready payload)
  else
    (callChecks mode refinements payload.value).andThen fun answers =>
      if answers.any Value.isAwaitable then
        .result (.pending ((Deferred.all (Value.awaitedTogether [] answers)).map fun verdicts =>
          .result (judge refinements payload.value verdicts)))
      else .result (.ready (judge refinements payload.value answers))

end Wrapper
end TypedTables
