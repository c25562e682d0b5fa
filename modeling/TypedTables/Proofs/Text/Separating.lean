/-!
# Separated texts

Texts with separators between them are known from the joined text where a separator cannot be taken
for part of a text: no text goes on with a separator, nor with the beginning of one.
-/

namespace TypedTables.Text

variable {α : Type} {separator : List α} {kind : List α → Prop}

/-- Texts of a kind are told apart by a separator. -/
structure Separates (separator : List α) (kind : List α → Prop) : Prop where
  /-- No text goes on with a separator. -/
  alone : ∀ text rest, kind text → ¬kind (text ++ (separator ++ rest))
  /-- Where one text goes on after another, a separator does not. -/
  next : ∀ text middle rest others, kind text → kind (text ++ middle) →
    separator ++ rest = middle ++ (separator ++ others) → middle = []

namespace Separates

theorem eq_of_append (separates : Separates separator kind)
    {first second firstRest secondRest : List α} (isFirst : kind first) (isSecond : kind second)
    (same : first ++ (separator ++ firstRest) = second ++ (separator ++ secondRest)) :
    first = second ∧ firstRest = secondRest := by
  rcases List.append_eq_append_iff.mp same with ⟨middle, rfl, remains⟩ | ⟨middle, rfl, remains⟩
  · have none := separates.next first middle firstRest secondRest isFirst isSecond remains
    subst none
    exact ⟨(List.append_nil first).symm, List.append_cancel_left remains⟩
  · have none := separates.next second middle secondRest firstRest isSecond isFirst remains
    subst none
    exact ⟨List.append_nil second, (List.append_cancel_left remains).symm⟩

theorem intercalate_injective (separates : Separates separator kind) {first second : List (List α)}
    (allFirst : ∀ text ∈ first, kind text) (allSecond : ∀ text ∈ second, kind text)
    (someFirst : first ≠ []) (someSecond : second ≠ [])
    (same : separator.intercalate first = separator.intercalate second) : first = second := by
  induction first generalizing second with
  | nil => exact absurd rfl someFirst
  | cons text rest ih =>
      cases second with
      | nil => exact absurd rfl someSecond
      | cons other others =>
          have isText := allFirst text (by simp)
          have isOther := allSecond other (by simp)
          cases rest with
          | nil =>
              cases others with
              | nil => simpa using same
              | cons next more =>
                  rw [List.intercalate_singleton, List.intercalate_cons_cons,
                    List.append_assoc] at same
                  rw [same] at isText
                  exact absurd isText (separates.alone other _ isOther)
          | cons next more =>
              cases others with
              | nil =>
                  rw [List.intercalate_singleton, List.intercalate_cons_cons,
                    List.append_assoc] at same
                  rw [← same] at isOther
                  exact absurd isOther (separates.alone text _ isText)
              | cons otherNext otherMore =>
                  rw [List.intercalate_cons_cons, List.intercalate_cons_cons, List.append_assoc,
                    List.append_assoc] at same
                  obtain ⟨equal, tails⟩ := separates.eq_of_append isText isOther same
                  have remaining := ih (fun item member => allFirst item (by simp [member]))
                    (fun item member => allSecond item (by simp [member])) (by simp) (by simp) tails
                  rw [equal, remaining]

end Separates
end TypedTables.Text
