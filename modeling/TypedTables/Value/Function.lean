import TypedTables.Effect.Deferred
import TypedTables.Issue
import TypedTables.Text.Casing
import TypedTables.Value.Template

/-!
# User functions

A user function computes whatever it likes. Calling it is an event; a plain function computes at
once, and a deferred one answers with an awaitable value. The functions among the values are known
by name, and what each of them computes is given here.
-/

namespace TypedTables

/-- A user function; a deferred one answers with an awaitable value and computes when awaited. -/
structure UserFunction (α : Type) where
  label : String
  deferred : Bool
  compute : α → Except Fault Value

namespace UserFunction

variable {α : Type}

def name (function : UserFunction α) : String := functionName function.deferred function.label

/-- Calls a function on an argument that an observer sees as `shown`. -/
def callAs (function : UserFunction α) (shown : Value) (argument : α) : Traced Value :=
  (Traced.emit (.called function.name shown)).andThen fun _ =>
    if function.deferred then .result (.awaitable 0 (function.compute argument))
    else .ofExcept (function.compute argument)

def call (function : UserFunction Value) (argument : Value) : Traced Value :=
  function.callAs argument argument

end UserFunction

/-- Issues as a function known by name is handed them. -/
def issueValues (issues : List Issue) : Value :=
  .list (issues.map fun issue => .issue issue.code issue.message)

namespace Operation

def unsupported (mark left right : String) : Fault :=
  .operand s!"unsupported operand type(s) for {mark}: '{left}' and '{right}'"

/-- A number is even when its remainder by two is zero. -/
def isEven (value : Value) : Except Fault Bool :=
  match value with
  | .boolean truth => .ok !truth
  | .integer number => .ok (number % 2 == 0)
  | .float number =>
      .ok (match number.toInt? with
        | some whole => whole % 2 == 0
        | none => false)
  | .notANumber _ => .ok false
  | .decimal number =>
      .ok (match number.toRat? with
        | some exact => exact.den == 1 && exact.num % 2 == 0
        | none => false)
  | .text template =>
      (Template.format template ⟨[.integer 2], none⟩).map fun _ => false
  | .bytes _ => .error (.operand "not all arguments converted during bytes formatting")
  | _ => .error (unsupported "%" value.qualifiedClassName "int")

def sizeOf (value : Value) : Except Fault Nat :=
  match value.size? with
  | some size => .ok size
  | none => .error (.operand s!"object of type '{value.qualifiedClassName}' has no len()")

def doubled (value : Value) : Except Fault Value :=
  match value with
  | .boolean truth => .ok (.integer (if truth then 2 else 0))
  | .integer number => .ok (.integer (number + number))
  | .float number => .ok (.float number.doubled)
  | .notANumber token => .ok (.notANumber token)
  | .decimal number => .ok (.decimal number.doubled)
  | .text text => .ok (.text (text ++ text))
  | .bytes octets => .ok (.bytes (octets ++ octets))
  | .list items => .ok (.list (items ++ items))
  | .tuple items => .ok (.tuple (items ++ items))
  | _ => .error (unsupported "+" value.qualifiedClassName value.qualifiedClassName)

def upperCase (value : Value) : Except Fault Value :=
  match value with
  | .text text => .ok (.text (String.ofList (Text.upperCase text.toList)))
  | .bytes octets =>
      .ok (.bytes (octets.map fun octet =>
        if 0x61 ≤ octet && octet ≤ 0x7a then octet - 0x20 else octet))
  | _ => .error (.lacking s!"'{value.qualifiedClassName}' object has no attribute 'upper'")

def iterated (value : Value) : Except Fault (List Value) :=
  match value with
  | .list items | .tuple items | .set items | .frozenSet items => .ok items
  | .mapping entries | .frozenMapping entries => .ok (entries.map Prod.fst)
  | .text text => .ok (text.toList.map fun character => .text (String.ofList [character]))
  | .bytes octets => .ok (octets.map fun octet => .integer (Int.ofNat octet.toNat))
  | _ => .error (.operand s!"'{value.qualifiedClassName}' object is not iterable")

/-- One part of every issue of a list. -/
def ofIssues (wanted : String) (part : IssueCode → String → String) (value : Value) :
    Except Fault Value := do
  let items ← iterated value
  let parts ← items.mapM fun item =>
    match item with
    | .issue code message => .ok (Value.text (part code message))
    | other =>
        .error (.lacking s!"'{other.qualifiedClassName}' object has no attribute '{wanted}'")
  return .list parts

def apply (operation : Operation) (value : Value) : Except Fault Value :=
  match operation with
  | .accept => .ok (.boolean true)
  | .refuse => .ok (.boolean false)
  | .truthy => .ok (.boolean value.isTruthy)
  | .even => (isEven value).map .boolean
  | .long => (sizeOf value).map fun size => .boolean (2 < size)
  | .same => .ok value
  | .fail => .error (.userFailure "boom")
  | .upper => upperCase value
  | .length => (sizeOf value).map fun size => .integer (Int.ofNat size)
  | .double => doubled value
  | .wrap => .ok (.list [value])
  | .null => .ok .null
  | .undefined => .ok .undefined
  | .zero => .ok (.integer 0)
  | .codes => ofIssues "code" (fun code _ => code.text) value
  | .messages => ofIssues "message" (fun _ message => message) value

end Operation

namespace UserFunction

def onValues (function : NamedFunction) : UserFunction Value :=
  ⟨function.operation.name, function.deferred, function.operation.apply⟩

def onIssues (function : NamedFunction) : UserFunction (List Issue) :=
  ⟨function.operation.name, function.deferred, fun issues =>
    function.operation.apply (issueValues issues)⟩

end UserFunction

namespace Value

/-- What awaiting a value brings; a value that is not awaitable is there at once. An awaitable value
with the token zero was made for this one use. -/
def awaited : Value → Deferred Value
  | .awaitable token outcome =>
      if token = 0 then .now outcome else ⟨[([], .awaited token 0)], [], outcome⟩
  | value => .now (.ok value)

/-- What is awaited for several values together: one that is there more than once is awaited once for
all its places. -/
def awaitedTogether : List Nat → List Value → List (Deferred Value)
  | _, [] => []
  | spent, .awaitable token outcome :: rest =>
      (if spent.contains token then .now outcome else (awaitable token outcome).awaited) ::
        awaitedTogether (token :: spent) rest
  | spent, value :: rest => value.awaited :: awaitedTogether spent rest

/-- A function that returns a value when it is called; an awaitable one is made anew by every call. -/
def supplying (token : Nat) (value : Value) : Value :=
  .supplier token (.ok (match value with
    | .awaitable _ outcome => .awaitable 0 outcome
    | other => other))

def supply : Value → Traced Value
  | .supplier _ outcome =>
      (Traced.emit (.called "call" (outcome.toOption.getD .null))).andThen fun _ =>
        .ofExcept outcome
  | .function _ => .fault (.operand "missing 1 required positional argument")
  | value => .result value

end Value
end TypedTables
