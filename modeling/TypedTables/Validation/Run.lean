import TypedTables.Table.Registry
import TypedTables.Validation.Combination
import TypedTables.Validation.Wrapper

/-!
# Validation

Running a schema on a value: the form first, then the refinements. Lazy schemas are resolved when
they are reached, so the depth of a run may exceed the depth of a schema; a run is given a limit
on its depth and ends in a fault of its own when it is reached.
-/

namespace TypedTables

structure ParseScope where
  environment : Environment
  mode : ParseMode

namespace Validation

/-- Runs a form on a value, given how its parts are run. -/
def runForm (scope : ParseScope) (validate : Validator) (form : Form Schema) (input : Value) :
    Traced (Progress Payload) :=
  match form with
  | .object shape catchall => Container.object validate shape catchall input
  | .table table => Container.object validate table.shape (some table.catchall) input
  | .array element least most => Container.array validate element least most input
  | .set element least most => Container.set validate element least most input
  | .tuple items rest => Container.tuple validate items rest input
  | .record key value => Container.keyed validate "record" key value input
  | .map key value => Container.keyed validate "map" key value input
  | .union options => Combination.union validate options input
  | .intersection left right => Combination.intersection validate left right input
  | .optional inner =>
      if input.isUndefined then .result (.ready (.accept input)) else validate inner input
  | .nullable inner =>
      if input.isNull then .result (.ready (.accept input)) else validate inner input
  | .nonoptional inner =>
      Wrapper.afterwards (validate inner input) fun payload =>
        .result (Wrapper.demandPresent payload)
  | .default inner value =>
      if input.isUndefined then
        (Wrapper.supplied value).andThen fun answer => .result (.ready (.accept answer))
      else validate inner input
  | .prefault inner value =>
      if input.isUndefined then
        (Wrapper.supplied value).andThen fun answer => validate inner answer
      else validate inner input
  | .fallback inner replacement =>
      Wrapper.afterwards (validate inner input) (Wrapper.recover replacement)
  | .readonly inner =>
      Wrapper.afterwards (validate inner input) fun payload =>
        .result (Wrapper.freezeClean payload)
  | .pipe source target =>
      (validate source input).andThen fun progress =>
        progress.andThen fun payload =>
          if payload.isClean then validate target payload.value else .result (.ready payload)
  | .transform function => Wrapper.transform scope.mode function input
  | .custom check message => Wrapper.custom scope.mode check message input
  | .promise inner => Wrapper.promise scope.mode validate inner input
  | .lazily target =>
      (Traced.ofExcept (scope.environment.resolve target)).andThen fun resolved =>
        validate resolved input
  | .reference tables identifier => Wrapper.reference validate tables identifier input
  | leaf => .ofExcept (((Leaf.payload? leaf input).getD (.ok (.accept input))).map .ready)

/-- Runs a schema on a value, given how its parts are run: the form, then the refinements. -/
def runSchema (scope : ParseScope) (validate : Validator) (schema : Schema) (input : Value) :
    Traced (Progress Payload) :=
  let result := runForm scope validate schema.form input
  if schema.refinements.isEmpty then result
  else result.andThen fun progress => progress.andThen (Wrapper.refine scope.mode schema.refinements)

/-- Runs a schema on a value to a depth of at most `limit`. -/
def run (scope : ParseScope) : Nat → Validator
  | 0 => fun _ _ => .fault .tooDeep
  | limit + 1 => runSchema scope (run scope limit)

end Validation

namespace Schema

/-- The depth that validation is given unless another is asked for. -/
def depthLimit : Nat := 2000

/-- Validates a value without awaiting anything, to a depth of at most `limit`. -/
def safeParseWithin (limit : Nat) (schema : Schema) (environment : Environment)
    (input : Value) : Traced ParseResult :=
  (Validation.run ⟨environment, .synchronous⟩ limit schema input).andThen fun progress =>
    match progress with
    | .ready payload => .ofExcept (ParseResult.ofPayload payload)
    | .pending _ => .fault .asynchronous

/-- Validates a value, awaiting what must be awaited, to a depth of at most `limit`. -/
def safeParseAsyncWithin (limit : Nat) (schema : Schema) (environment : Environment)
    (input : Value) : Traced ParseResult :=
  (Validation.run ⟨environment, .asynchronous⟩ limit schema input).andThen fun progress =>
    match progress with
    | .ready payload => .ofExcept (ParseResult.ofPayload payload)
    | .pending deferred =>
        let finished := deferred.once.map fun payload => .ofExcept (ParseResult.ofPayload payload)
        ⟨finished.seenEvents, finished.outcome⟩

/-- Validates a value without awaiting anything; issues are part of the result. -/
def safeParse (schema : Schema) (environment : Environment) (input : Value) :
    Traced ParseResult :=
  safeParseWithin depthLimit schema environment input

def safeParseAsync (schema : Schema) (environment : Environment) (input : Value) :
    Traced ParseResult :=
  safeParseAsyncWithin depthLimit schema environment input

/-- The value that a schema accepts; issues are a fault. -/
def parse (schema : Schema) (environment : Environment) (input : Value) : Traced Value :=
  (schema.safeParse environment input).andThen fun result => .ofExcept result.demand

/-- The value that a schema accepts after awaiting; issues are a fault. -/
def parseAsync (schema : Schema) (environment : Environment) (input : Value) : Traced Value :=
  (schema.safeParseAsync environment input).andThen fun result => .ofExcept result.demand

end Schema
end TypedTables
