import TypedTables.Table.Shape

/-!
# Building schemas

A builder hands out identities: every schema built with it gets one that no other schema of the
same run has. While none are handed out, as for a template whose uses stand for a new schema each,
the schemas that are built are like no other. Building fails only where a table would have an
unsuitable identifier.
-/

namespace TypedTables

/-- The supply of identities: the next one, and whether they are handed out at all. -/
structure IdentitySupply where
  next : Nat
  isOpen : Bool

/-- A step of building: it draws on the supply of identities and may fail. -/
abbrev Builder (α : Type) := StateT IdentitySupply (Except Fault) α

namespace Builder

/-- The next identity, while they are handed out. -/
def nextIdentity : Builder (Option Nat) := fun supply =>
  if supply.isOpen then .ok (some supply.next, { supply with next := supply.next + 1 })
  else .ok (none, supply)

def fresh (form : Form Schema) : Builder Schema := do
  let identity ← nextIdentity
  return { identity, refinements := [], description := .null, form }

def reshape (schema : Schema) (form : Form Schema) : Builder Schema := do
  let identity ← nextIdentity
  return { schema with identity, form }

def withRefinements (schema : Schema) (refinements : List Refinement) : Builder Schema := do
  let identity ← nextIdentity
  return { schema with identity, refinements }

def withDescription (schema : Schema) (description : Value) : Builder Schema := do
  let identity ← nextIdentity
  return { schema with identity, description }

def withTable (schema : Schema) (table : Table Schema) : Builder Schema := do
  let checked ← table.checked
  reshape schema (.table checked)

/-- A new object with fields, a repeated name keeping its place and its last schema. -/
def object (shape : List (String × Schema)) (catchall : Option Schema) : Builder Schema :=
  fresh (.object (collectFields shape) catchall)

def reference (tables : List String) : Builder Schema :=
  fresh (.reference (if tables.isEmpty then none else some tables) (Schema.anonymous .any))

def table (name : String) (mode : TableMode) : Builder Schema :=
  fresh (.table (Table.named name mode))

def numberOf (format : String) : Builder Schema :=
  fresh (.number { Schema.anyNumber with format := some format })

/-- A new schema of the values of an enum class: a member that equals an earlier one is only
another name for it. -/
def enumMembers (values : List Value) : Builder Schema :=
  fresh (.enumeration (values.foldl (fun kept value =>
    if kept.any fun earlier => Value.equals earlier value then kept else kept ++ [value]) []))

end Builder
end TypedTables
