import TypedTables.Fault
import TypedTables.Text.Casing
import TypedTables.Value.Display
import TypedTables.Value.Equality

/-!
# Options of statements

What a statement does about a resource that is there already, or missing, and which of the
optional statements and clauses are written. Options may leave a choice open; overrides come
before options, and defaults decide what is still open.
-/

namespace TypedTables

/-- What a definition does when its resource exists. -/
inductive ExistingPolicy where
  | refuse
  | keep
  | overwrite
  deriving DecidableEq, Repr

namespace ExistingPolicy

def name : ExistingPolicy → String
  | .refuse => "error"
  | .keep => "ignore"
  | .overwrite => "overwrite"

def ofName? (text : String) : Option ExistingPolicy :=
  [refuse, keep, overwrite].find? fun policy => policy.name == text

def ofName (text : String) : Except Fault ExistingPolicy :=
  match ofName? text with
  | some policy => .ok policy
  | none => .error (.unknownChoice (Text.quoted text) "ExistsPolicy")

/-- The policy that a value names. -/
def ofValue (value : Value) : Except Fault ExistingPolicy :=
  match value with
  | .text name => ofName name
  | _ => .error (.unknownChoice value.shown "ExistsPolicy")

end ExistingPolicy

/-- What a removal does when its resource is missing. -/
inductive MissingPolicy where
  | refuse
  | ignore
  deriving DecidableEq, Repr

namespace MissingPolicy

def name : MissingPolicy → String
  | .refuse => "error"
  | .ignore => "ignore"

def ofName? (text : String) : Option MissingPolicy :=
  [refuse, ignore].find? fun policy => policy.name == text

def ofName (text : String) : Except Fault MissingPolicy :=
  match ofName? text with
  | some policy => .ok policy
  | none => .error (.unknownChoice (Text.quoted text) "MissingPolicy")

def ofValue (value : Value) : Except Fault MissingPolicy :=
  match value with
  | .text name => ofName name
  | _ => .error (.unknownChoice value.shown "MissingPolicy")

end MissingPolicy

/-- What decides about choices that options leave open. -/
structure GeneratorDefaults where
  existing : ExistingPolicy
  fields : Bool
  missing : MissingPolicy
  defaults : Bool
  deriving DecidableEq, Repr

def GeneratorDefaults.builtIn : GeneratorDefaults := ⟨.refuse, false, .refuse, true⟩

structure DefineOptions where
  existing : Option ExistingPolicy
  fields : Option Bool
  defaults : Option Bool
  deriving DecidableEq, Repr

structure DefineChoices where
  existing : ExistingPolicy
  fields : Bool
  defaults : Bool
  deriving DecidableEq, Repr

structure RemoveOptions where
  missing : Option MissingPolicy
  deriving DecidableEq, Repr

/-- Options as they are given: names with values. -/
abbrev GivenOptions := List (String × Value)

namespace GivenOptions

def checkNames (known : List String) (given : GivenOptions) : Except Fault Unit :=
  if given.all fun option => known.contains option.1 then .ok () else .error .malformedOptions

/-- Reads an option; one that is not given, or null, leaves the choice open. -/
def read {α : Type} (name : String) (ofValue? : Value → Option α) (given : GivenOptions) :
    Except Fault (Option α) :=
  match given.lookup name with
  | none | some .null => .ok none
  | some value =>
      match ofValue? value with
      | some choice => .ok (some choice)
      | none => .error .malformedOptions

def truthOfWord? (word : String) : Option Bool :=
  let folded := Text.asciiLower word
  if ["1", "on", "t", "true", "y", "yes"].contains folded then some true
  else if ["0", "off", "f", "false", "n", "no"].contains folded then some false
  else none

/-- A choice between yes and no: a truth value, a number that is one or zero, or a word. -/
def truth? (value : Value) : Option Bool :=
  match value with
  | .text word => truthOfWord? word
  | _ =>
      match value.magnitude? with
      | some (.finite number) =>
          if number = 1 then some true else if number = 0 then some false else none
      | _ => none

def named? {α : Type} (ofName? : String → Option α) : Value → Option α
  | .text name => ofName? name
  | _ => none

end GivenOptions

namespace DefineOptions

def unset : DefineOptions := ⟨none, none, none⟩

def ofGiven (given : GivenOptions) : Except Fault DefineOptions := do
  given.checkNames ["exists", "fields", "emit_defaults"]
  let existing ← given.read "exists" (GivenOptions.named? ExistingPolicy.ofName?)
  let fields ← given.read "fields" GivenOptions.truth?
  let defaults ← given.read "emit_defaults" GivenOptions.truth?
  return ⟨existing, fields, defaults⟩

def overridden (overrides options : DefineOptions) : DefineOptions :=
  ⟨overrides.existing <|> options.existing, overrides.fields <|> options.fields,
    overrides.defaults <|> options.defaults⟩

def choices (options : DefineOptions) (defaults : GeneratorDefaults) : DefineChoices :=
  ⟨options.existing.getD defaults.existing, options.fields.getD defaults.fields,
    options.defaults.getD defaults.defaults⟩

end DefineOptions

namespace RemoveOptions

def unset : RemoveOptions := ⟨none⟩

def ofGiven (given : GivenOptions) : Except Fault RemoveOptions := do
  given.checkNames ["missing"]
  let missing ← given.read "missing" (GivenOptions.named? MissingPolicy.ofName?)
  return ⟨missing⟩

def overridden (overrides options : RemoveOptions) : RemoveOptions :=
  ⟨overrides.missing <|> options.missing⟩

def choice (options : RemoveOptions) (defaults : GeneratorDefaults) : MissingPolicy :=
  options.missing.getD defaults.missing

end RemoveOptions

namespace GeneratorDefaults

def ofGiven (given : GivenOptions) : Except Fault GeneratorDefaults := do
  let define ← DefineOptions.ofGiven (given.filter fun option => option.1 != "missing")
  let remove ← RemoveOptions.ofGiven (given.filter fun option => option.1 == "missing")
  let choices := define.choices builtIn
  return ⟨choices.existing, choices.fields, remove.choice builtIn, choices.defaults⟩

end GeneratorDefaults
end TypedTables
