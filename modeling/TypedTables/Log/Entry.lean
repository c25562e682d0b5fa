import TypedTables.Effect.Event
import TypedTables.Text.Quoted

/-!
# Log entries

An entry is what the log keeps of a notice: its level, its wording, and entries of its own, to
which those of the current context and the name of the component are added. The events of a
computation are turned into log entries by following the blocks they open and close.
-/

namespace TypedTables

namespace Log

/-- The entries of a record: its own, then those of the context, then the component, unless a
component is named already. -/
def attachments (context : LogContext) (component : Option Component)
    (own : List (Datum × Datum)) : Except Fault (List (Datum × Datum)) :=
  context.entries.map fun entries =>
    let merged := Datum.putAll own entries
    match component with
    | some origin =>
        if Datum.hasKey (.ofText "component") merged then merged
        else merged ++ [(.ofText "component", .ofText origin.name)]
    | none => merged

def componentNamed (name : String) : Except Fault Component :=
  match Component.ofName? name with
  | some component => .ok component
  | none => .error (.unknownChoice (Text.quoted name) "ComponentType")

structure Entry where
  component : Component
  level : NoticeLevel
  message : String
  attached : List (Datum × Datum)

def entryOf (context : LogContext) (notice : Notice) : Except Fault Entry :=
  (attachments context (some notice.component) []).map fun attached =>
    ⟨notice.component, notice.level, notice.message, attached⟩

def follow (stack : ContextStack) : Event → ContextStack
  | .entered change => stack.enter change
  | .left => stack.leave
  | _ => stack

def followAll (stack : ContextStack) (events : List Event) : ContextStack :=
  events.foldl follow stack

@[simp] theorem followAll_nil (stack : ContextStack) : followAll stack [] = stack := rfl

theorem followAll_append (stack : ContextStack) (first second : List Event) :
    followAll stack (first ++ second) = followAll (followAll stack first) second := by
  induction first generalizing stack with
  | nil => rfl
  | cons event rest ih => exact ih (follow stack event)

/-- The log entries of events that begin in a stack of contexts. -/
def entries : ContextStack → List Event → Except Fault (List Entry)
  | _, [] => .ok []
  | stack, event :: rest =>
      match event with
      | .noticed notice =>
          (entryOf stack.current notice).bind fun entry =>
            (entries stack rest).map fun others => entry :: others
      | other => entries (follow stack other) rest

end Log
end TypedTables
