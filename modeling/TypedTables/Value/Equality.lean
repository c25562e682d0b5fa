import TypedTables.Value.Basic

/-!
# Equality of values

Numbers of every kind are equal when their exact values are, truth values counting as one and
zero; a value that is not a number equals nothing. Lists equal lists, tuples equal tuples, and
mappings and sets of either kind are equal whatever their order. Inside containers a value is
also alike to itself, so that a not-a-number is found again where it was put.
-/

namespace TypedTables

inductive Magnitude where
  | finite (value : Rat)
  | infinite (negative : Bool)
  deriving DecidableEq

namespace Magnitude

/-- The order of numbers, with the infinities at its ends. -/
def less : Magnitude → Magnitude → Bool
  | .finite left, .finite right => left < right
  | .infinite true, other => other != .infinite true
  | .infinite false, _ => false
  | .finite _, .infinite negative => !negative

end Magnitude

namespace Value

/-- The exact size of a value that is a number. -/
def magnitude? : Value → Option Magnitude
  | .boolean value => some (.finite (if value then 1 else 0))
  | .integer value => some (.finite (value : Rat))
  | .float (.infinite negative) => some (.infinite negative)
  | .float value => value.toRat?.map .finite
  | .decimal (.infinite negative) => some (.infinite negative)
  | .decimal value => value.toRat?.map .finite
  | _ => none

/-- Two occurrences of the same not-a-number. -/
def sameNotANumber : Value → Value → Bool
  | .notANumber left, .notANumber right => left == right
  | .decimal (.notANumber left), .decimal (.notANumber right) => left == right
  | _, _ => false

/-- The kinds of value that `magnitude?` measures. -/
def sameMagnitude (left right : Value) : Bool :=
  match left.magnitude?, right.magnitude? with
  | some leftSize, some rightSize => leftSize == rightSize
  | _, _ => false

mutual

def equals (left right : Value) : Bool :=
  match left with
  | .null => right.isNull
  | .undefined => right.isUndefined
  | .text value => match right with
      | .text other => value == other
      | _ => false
  | .bytes octets => match right with
      | .bytes others => octets == others
      | _ => false
  | .timestamp value => match right with
      | .timestamp other => value.sameInstant other
      | _ => false
  | .date value => match right with
      | .date other => value == other
      | _ => false
  | .uuid value => match right with
      | .uuid other => value == other
      | _ => false
  | .list items => match right with
      | .list others => alikeLists items others
      | _ => false
  | .tuple items => match right with
      | .tuple others => alikeLists items others
      | _ => false
  | .mapping entries | .frozenMapping entries => match right.entries? with
      | some others => entries.length == others.length && entriesWithin entries others
      | none => false
  | .set members | .frozenSet members => match right.members? with
      | some others => members.length == others.length && membersWithin members others
      | none => false
  | .record table identifier => match right with
      | .record otherTable other => table == otherTable && alike identifier other
      | _ => false
  | .member token _ => match right with
      | .member other _ => token == other
      | _ => false
  | .symbol token _ => match right with
      | .symbol other _ => token == other
      | _ => false
  | .function value => match right with
      | .function other => value == other
      | _ => false
  | .supplier token _ => match right with
      | .supplier other _ => token == other
      | _ => false
  | .awaitable token _ => match right with
      | .awaitable other _ => token == other
      | _ => false
  | .issue code message => match right with
      | .issue otherCode other => code == otherCode && message == other
      | _ => false
  | .boolean _ | .integer _ | .float _ | .notANumber _ | .decimal _ => sameMagnitude left right

/-- Equality inside containers: equal, or the same not-a-number. -/
def alike (left right : Value) : Bool := sameNotANumber left right || equals left right

def alikeLists : List Value → List Value → Bool
  | [], [] => true
  | left :: leftRest, right :: rightRest => alike left right && alikeLists leftRest rightRest
  | _, _ => false

/-- Every entry stands under an alike key with an alike item among the others. -/
def entriesWithin : List (Value × Value) → List (Value × Value) → Bool
  | [], _ => true
  | (key, item) :: rest, others =>
      others.any (fun other => alike key other.1 && alike item other.2) &&
        entriesWithin rest others

def membersWithin : List Value → List Value → Bool
  | [], _ => true
  | left :: rest, others => others.any (fun other => alike left other) && membersWithin rest others

end

/-- Equality for listed values: a truth value equals only a truth value. -/
def sameLiteral (expected value : Value) : Bool :=
  if expected.isBoolean || value.isBoolean then
    expected.isBoolean && value.isBoolean && equals expected value
  else equals expected value

def find? (key : Value) (entries : List (Value × Value)) : Option Value :=
  (entries.find? fun entry => alike key entry.1).map Prod.snd

def hasKey (key : Value) (entries : List (Value × Value)) : Bool :=
  entries.any fun entry => alike key entry.1

/-- Puts an item under a key: an alike key keeps its place and its first form. -/
def put (key item : Value) : List (Value × Value) → List (Value × Value)
  | [] => [(key, item)]
  | (present, old) :: rest =>
      if alike key present then (present, item) :: rest else (present, old) :: put key item rest

def addMember (member : Value) (members : List Value) : List Value :=
  if members.any (alike member) then members else members ++ [member]

/-- The class of the first part of a value that cannot be a key: lists, mappings and plain sets
cannot, and neither can what holds one of them. -/
def unhashableClass? : Value → Option String
  | .list _ => some "list"
  | .mapping _ => some "dict"
  | .frozenMapping _ => some "mappingproxy"
  | .set _ => some "set"
  | .tuple items => firstUnhashable? items
  | .record _ identifier => unhashableClass? identifier
  | .issue .. => some "list"
  | _ => none
where
  /-- The first refusal among several values. -/
  firstUnhashable? : List Value → Option String
    | [] => none
    | value :: rest =>
        match unhashableClass? value with
        | some name => some name
        | none => firstUnhashable? rest

end Value
end TypedTables
