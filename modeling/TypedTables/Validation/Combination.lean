import TypedTables.Validation.Joining
import TypedTables.Validation.Merge

/-!
# Unions and intersections

A union takes the first option that accepts the value. An option whose answer must be awaited
keeps its place: the options after it are still run, and the choice is made when all answers are
there. An intersection runs both sides on the same value and merges what they bring.
-/

namespace TypedTables.Combination

/-- The first answer without issues; without one, a single issue with the issues of every
option. -/
def choose (input : Value) (entries : List (Entry Payload)) : Payload :=
  match entries.find? fun entry => entry.result.isClean with
  | some entry => .accept entry.result.value
  | none =>
      .reject input
        { Issue.plain .invalidUnion "Invalid input" input with
          errors := some (entries.map fun entry => entry.result.issues) }

/-- Runs options in order from the one at `index`, with the answers of the earlier ones. An
answer without issues ends it while nothing is awaited. -/
def tryOptions (validate : Validator) (input : Value) :
    List Schema → Nat → List (Entry (Progress Payload)) → Traced (Progress Payload)
  | [], _, answers => joinEntries answers fun done => .ok (choose input done)
  | option :: rest, index, answers =>
      (validate option input).andThen fun answer =>
        let entry : Entry (Progress Payload) := ⟨.integer (Int.ofNat index), true, answer⟩
        let goOn := tryOptions validate input rest (index + 1) (answers ++ [entry])
        match answer with
        | .pending _ => goOn
        | .ready payload =>
            if payload.isClean && !answers.any fun earlier => earlier.result.isPending then
              .result (.ready (.accept payload.value))
            else goOn

def union (validate : Validator) (options : List Schema) (input : Value) :
    Traced (Progress Payload) :=
  tryOptions validate input options 0 []

/-- Merges the answers of the two sides of an intersection. -/
def assembleIntersection (input : Value) (entries : List (Entry Payload)) : Payload :=
  let issues := entries.flatMap fun entry => entry.result.issues
  if !issues.isEmpty then ⟨input, issues⟩
  else
    match entries with
    | [left, right] =>
        match Value.merge left.result.value right.result.value with
        | some merged => .accept merged
        | none =>
            .reject input
              (Issue.plain .invalidType "Intersection results could not be merged" input)
    | _ => .accept input

def intersection (validate : Validator) (left right : Schema) (input : Value) :
    Traced (Progress Payload) :=
  (fanOut validate [⟨.text "left", true, left, input⟩, ⟨.text "right", true, right, input⟩]).andThen
    fun results => joinEntries results fun done => .ok (assembleIntersection input done)

end TypedTables.Combination
