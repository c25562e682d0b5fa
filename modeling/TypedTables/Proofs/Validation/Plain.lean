import TypedTables.Proofs.Schema.Reach
import TypedTables.Proofs.Validation.Leaves

/-!
# Plain schemas

A schema is plain when it calls no user function, its lazy schemas resolve, and its bounds and
patterns are well formed. A plain leaf always answers, but for a text that is to be made of a value
without one.
-/

namespace TypedTables

/-- A bound that numbers and sizes can be compared with. -/
def Value.IsBound (value : Value) : Prop :=
  value.magnitude?.isSome = true ∨ ∃ token, value = .notANumber token

structure TextRules.WellFormed (rules : TextRules) : Prop where
  least : ∀ limit ∈ rules.least, limit.IsBound
  most : ∀ limit ∈ rules.most, limit.IsBound
  pattern : ∀ written ∈ rules.pattern, ∃ parsed, Pattern.ofText written = .ok parsed

structure NumberRules.WellFormed (rules : NumberRules) : Prop where
  least : ∀ bound ∈ rules.least, bound.limit.IsBound
  most : ∀ bound ∈ rules.most, bound.limit.IsBound

def Replacement.isCallable : Replacement → Bool
  | .value held => held.isCallable
  | .computed _ => true

/-- The form calls no user function, resolves where it is lazy, and its rules are well formed. -/
def Form.IsPlain (environment : Environment) : Form Schema → Prop
  | .text rules => rules.WellFormed
  | .number rules => rules.WellFormed
  | .array _ least most | .set _ least most =>
      (∀ limit ∈ least, limit.IsBound) ∧ ∀ limit ∈ most, limit.IsBound
  | .transform _ => False
  | .custom check _ => check = none
  | .default _ value | .prefault _ value => value.isCallable = false
  | .fallback _ replacement => replacement.isCallable = false
  | .lazily target => ∃ resolved, environment.resolve target = .ok resolved
  | _ => True

structure Schema.IsPlain (environment : Environment) (schema : Schema) : Prop where
  refinements : schema.refinements = []
  form : schema.form.IsPlain environment

namespace Schema

variable {environment : Environment} {element : Schema}

end Schema

namespace Leaf

end Leaf

end TypedTables
