import TypedTables.Value.Basic

/-!
# Validation issues

An issue says what is wrong with which part of a value. Its path is relative to the schema node
that reported it until the containers around that node put their keys and indices in front.
-/

namespace TypedTables

/-- A single validation problem. -/
structure Issue where
  code : IssueCode
  path : List Value
  message : String
  expected : Option String
  values : Option (List Value)
  keys : Option (List String)
  errors : Option (List (List Issue))
  input : Value
  deriving Repr

namespace Issue

/-- An issue about a value itself, with nothing but a message. -/
def plain (code : IssueCode) (message : String) (input : Value) : Issue :=
  { code, path := [], message, expected := none, values := none, keys := none, errors := none
    input }

def wrongKind (expected : String) (input : Value) : Issue :=
  { plain .invalidType s!"Expected {expected}, received {input.kindName}" input with
    expected := some expected }

/-- Puts a key or index in front of the path. -/
def within (segment : Value) (issue : Issue) : Issue :=
  { issue with path := segment :: issue.path }

@[simp] theorem within_path (segment : Value) (issue : Issue) :
    (issue.within segment).path = segment :: issue.path := rfl

@[simp] theorem within_input (segment : Value) (issue : Issue) :
    (issue.within segment).input = issue.input := rfl

@[simp] theorem within_code (segment : Value) (issue : Issue) :
    (issue.within segment).code = issue.code := rfl

end Issue
end TypedTables
