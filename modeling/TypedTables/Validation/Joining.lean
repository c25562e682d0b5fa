import TypedTables.Effect.Deferred
import TypedTables.Schema.Basic
import TypedTables.Validation.Payload

/-!
# Running parts and joining their results

A container runs all its parts before anything is awaited. Their results are entries in the order
of the parts, some there and some to be awaited. The awaited ones wait together; when all are
there, each stands in its own entry, and the entries are assembled.
-/

namespace TypedTables

/-- How a schema is run on a value. -/
abbrev Validator := Schema → Value → Traced (Progress Payload)

/-- A part to run: the key it belongs to, whether the key is in the input, and what to run. -/
structure Job where
  key : Value
  present : Bool
  schema : Schema
  input : Value

/-- The result of a part. -/
structure Entry (ρ : Type) where
  key : Value
  present : Bool
  result : ρ
  deriving Repr

namespace Entry

variable {ρ σ : Type}

def withResult (entry : Entry ρ) (result : σ) : Entry σ := ⟨entry.key, entry.present, result⟩

def ready? (entry : Entry (Progress ρ)) : Option (Entry ρ) :=
  match entry.result with
  | .ready value => some (entry.withResult value)
  | .pending _ => none

/-- The result that an entry waits for. -/
def pending? (entry : Entry (Progress ρ)) : Option (Deferred ρ) :=
  match entry.result with
  | .ready _ => none
  | .pending deferred => some deferred

end Entry

/-- Runs all parts in order; the first fault ends it. -/
def fanOut (validate : Validator) (jobs : List Job) :
    Traced (List (Entry (Progress Payload))) :=
  Traced.forEach jobs fun job =>
    (validate job.schema job.input).andThen fun result =>
      .result ⟨job.key, job.present, result⟩

/-- Puts awaited results, in order, into the entries that wait for them. -/
def fillEntries {ρ : Type} : List (Entry (Progress ρ)) → List ρ → List (Entry ρ)
  | [], _ => []
  | entry :: rest, resolved =>
      match entry.result, resolved with
      | .ready value, _ => entry.withResult value :: fillEntries rest resolved
      | .pending _, value :: others => entry.withResult value :: fillEntries rest others
      | .pending _, [] => fillEntries rest []

/-- Joins the results of parts and assembles them. -/
def joinEntries {ρ : Type} (entries : List (Entry (Progress ρ)))
    (assemble : List (Entry ρ) → Except Fault Payload) : Traced (Progress Payload) :=
  match entries.mapM Entry.ready? with
  | some ready => .ofExcept ((assemble ready).map .ready)
  | none =>
      .result (.pending ((Deferred.all (entries.filterMap Entry.pending?)).map fun resolved =>
        .ofExcept (assemble (fillEntries entries resolved))))

end TypedTables
