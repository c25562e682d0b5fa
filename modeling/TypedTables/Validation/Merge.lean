import TypedTables.Value.Equality

/-!
# Merging values

Two views of one value are merged when they agree where they overlap: equal values are merged to
the first, mappings key by key, lists of one length item by item. Anything else cannot be merged.
-/

namespace TypedTables.Value

def entriesOutside (others entries : List (Value × Value)) : List (Value × Value) :=
  entries.filter fun entry => !hasKey entry.1 others

mutual

def merge (left right : Value) : Option Value :=
  if alike left right then some left
  else
    match left with
    | .mapping entries | .frozenMapping entries =>
        match right.entries? with
        | some others =>
            (mergeEntries entries others).map fun merged =>
              .mapping (merged ++ entriesOutside entries others)
        | none => none
    | .list items =>
        match right with
        | .list others => (mergeItems items others).map .list
        | _ => none
    | _ => none

/-- Merges every entry with the item under its key among others, if there is one. -/
def mergeEntries : List (Value × Value) → List (Value × Value) → Option (List (Value × Value))
  | [], _ => some []
  | (key, item) :: rest, others =>
      match find? key others with
      | none => (mergeEntries rest others).map ((key, item) :: ·)
      | some other =>
          (merge item other).bind fun merged =>
            (mergeEntries rest others).map ((key, merged) :: ·)

def mergeItems : List Value → List Value → Option (List Value)
  | [], [] => some []
  | item :: rest, other :: others =>
      (merge item other).bind fun merged => (mergeItems rest others).map (merged :: ·)
  | _, _ => none

end

end TypedTables.Value
