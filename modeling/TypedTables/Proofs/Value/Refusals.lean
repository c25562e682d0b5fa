import TypedTables.Proofs.Effect.Settling
import TypedTables.Value.Written

/-!
# Refusals

A value that cannot be written is refused for the class of something in it: it has no literal, or
it cannot be a key. Writing a literal ends in no other fault.
-/

namespace TypedTables

def Fault.IsRefusal : Fault → Prop
  | .noLiteral _ | .unusableKey _ => True
  | _ => False

namespace Written

theorem endsIn_keyText (value : Value) :
    EndsIn Fault.IsRefusal (fun _ => True) (keyText value) := by
  cases value <;> trivial

theorem endsIn_otherText (style : WritingStyle) (value : Value) :
    EndsIn Fault.IsRefusal (fun _ => True) (otherText style value) := by
  cases style with
  | log => trivial
  | literal => cases value <;> trivial

theorem endsIn_recordText (table : String) {identifier : Value}
    (ends : EndsIn Fault.IsRefusal (fun _ => True) (write .literal identifier)) :
    EndsIn Fault.IsRefusal (fun _ => True) (recordText table identifier) := by
  cases identifier with
  | text | integer | null =>
      rw [recordText]
      trivial
  | _ =>
      simp only [recordText]
      exact ends.map fun _ _ => trivial

mutual

theorem endsIn_write (style : WritingStyle) (value : Value) :
    EndsIn Fault.IsRefusal (fun _ => True) (write style value) := by
  cases value with
  | list items | tuple items =>
      rw [write]
      exact (endsIn_writeItems style items).map fun _ _ => trivial
  | mapping entries =>
      rw [write]
      exact (endsIn_writeEntries style entries).map fun _ _ => trivial
  | set members | frozenSet members =>
      cases style with
      | log =>
          rw [write]
          trivial
      | literal =>
          rw [write]
          exact (endsIn_writeItems .literal members).map fun _ _ => trivial
  | record table identifier =>
      rw [write]
      exact (endsIn_recordText table (endsIn_write .literal identifier)).map fun _ _ => trivial
  | null | boolean | integer | float | notANumber | text =>
      rw [write]
      trivial
  | _ =>
      simp only [write]
      exact endsIn_otherText style _
termination_by structural value

theorem endsIn_writeItems (style : WritingStyle) (items : List Value) :
    EndsIn Fault.IsRefusal (fun _ => True) (writeItems style items) := by
  cases items with
  | nil =>
      rw [writeItems]
      trivial
  | cons item rest =>
      rw [writeItems]
      exact (endsIn_write style item).bind fun _ _ _ =>
        (endsIn_writeItems style rest).map fun _ _ => trivial
termination_by structural items

theorem endsIn_writeEntries (style : WritingStyle) (entries : List (Value × Value)) :
    EndsIn Fault.IsRefusal (fun _ => True) (writeEntries style entries) := by
  cases entries with
  | nil =>
      rw [writeEntries]
      trivial
  | cons entry rest =>
      rcases entry with ⟨key, item⟩
      rw [writeEntries]
      exact (endsIn_keyText key).bind fun _ _ _ => (endsIn_write style item).bind fun _ _ _ =>
        (endsIn_writeEntries style rest).map fun _ _ => trivial
termination_by structural entries

end
end Written

namespace Value

theorem endsIn_literal (value : Value) : EndsIn Fault.IsRefusal (fun _ => True) value.literal := by
  unfold literal
  split
  · trivial
  · exact Written.endsIn_write .literal value

theorem isRefusal_of_literal {value : Value} {cause : Fault}
    (fails : value.literal = .error cause) : cause.IsRefusal := by
  have ends := value.endsIn_literal
  rw [fails] at ends
  exact ends

end Value
end TypedTables
