import TypedTables.Proofs.Validation.Intersections

/-!
# Objects in two halves

Picking some fields of an object and omitting the same fields leaves two objects that share no key.
Each field is run by one of them, on what it would be run on in the whole object. What the halves
bring is merged without comparing any values, and so their intersection accepts what the whole
object accepts, with the entries of the one half before those of the other.
-/

namespace TypedTables

namespace Container

/-- What a field that is accepted brings. -/
def fieldAnswer (validate : Validator) (entries : List (Value × Value)) (field : String × Schema) :
    Payload :=
  .accept ((validate.accepted field.2 (inputAt entries field.1)).getD .undefined)

theorem fieldOutputs_append (entries : List (Value × Value)) (first second : List (String × Schema))
    (result : String × Schema → Payload) :
    fieldOutputs entries (first ++ second) result =
      fieldOutputs entries first result ++ fieldOutputs entries second result := by
  simp [fieldOutputs]

theorem fieldOutputs_perm (entries : List (Value × Value)) {first second : List (String × Schema)}
    (reordered : first.Perm second) (result : String × Schema → Payload) :
    (fieldOutputs entries first result).Perm (fieldOutputs entries second result) :=
  (reordered.filter _).map _

theorem exists_field_of_mem_fieldOutputs {entries : List (Value × Value)}
    {shape : List (String × Schema)} {result : String × Schema → Payload} {output : Value × Value}
    (member : output ∈ fieldOutputs entries shape result) :
    ∃ field ∈ shape, output.1 = .text field.1 := by
  obtain ⟨field, isField, rfl⟩ := List.mem_map.mp member
  exact ⟨field, (List.mem_filter.mp isField).1, rfl⟩

theorem fieldOutputs_congr {entries : List (Value × Value)} {shape : List (String × Schema)}
    {result other : String × Schema → Payload}
    (same : ∀ field ∈ shape, (result field).value = (other field).value) :
    fieldOutputs entries shape result = fieldOutputs entries shape other := by
  unfold fieldOutputs
  rw [List.filter_congr fun field member => by rw [same field member]]
  exact List.map_congr_left fun field member => by rw [same field (List.mem_filter.mp member).1]

theorem fieldIssues_eq_nil_iff (shape : List (String × Schema))
    (result : String × Schema → Payload) :
    fieldIssues shape result = [] ↔ ∀ field ∈ shape, (result field).isClean = true := by
  simp [fieldIssues, List.flatMap_eq_nil_iff, Payload.isClean]

end Container

namespace Validation

variable {scope : ParseScope} {limit depth : Nat} {input : Value}

open Container

theorem accepted_object_iff {schema : Schema} {shape : List (String × Schema)}
    (isObject : schema.form = .object shape none) (unrefined : schema.refinements = [])
    (output : Value) :
    (run scope (limit + 1)).accepted schema input = some output ↔
      ∃ entries, input.entries? = some entries ∧
        (∀ field ∈ shape,
          ((run scope limit).accepted field.2 (inputAt entries field.1)).isSome = true) ∧
        output = .mapping (fieldOutputs entries shape (fieldAnswer (run scope limit) entries)) := by
  rw [Validator.accepted_eq_some_iff, alone_of_unrefined unrefined, isObject]
  change (object (run scope limit) shape none input).settled = _ ↔ _
  cases mapping : input.entries? with
  | none =>
      have refused : (object (run scope limit) shape none input).settled =
          .ok (.wrongKind "object" input) := by
        rw [object, mapping]
        rfl
      rw [refused]
      simp [Payload.wrongKind, Payload.reject, Payload.accept]
  | some entries =>
      rw [settled_object_eq_ok_iff,
        evaluated_object_eq_ok_iff (run scope limit).alone shape none mapping]
      constructor
      · rintro ⟨result, outputs, issues, alone, brings, equal⟩
        obtain ⟨rfl, rfl⟩ := bringsExtras_none_iff.mp brings
        simp only [Payload.accept, Payload.mk.injEq, List.append_nil] at equal
        obtain ⟨rfl, none⟩ := equal
        have clean := (fieldIssues_eq_nil_iff shape result).mp none.symm
        have accepted (field : String × Schema) (member : field ∈ shape) :
            (run scope limit).accepted field.2 (inputAt entries field.1) =
              some (result field).value := by
          rw [Validator.accepted_eq_some_iff, alone field member,
            ← Payload.eq_accept (clean field member)]
        refine ⟨entries, rfl, fun field member => by rw [accepted field member]; rfl, ?_⟩
        rw [fieldOutputs_congr fun field member => ?_]
        rw [fieldAnswer, accepted field member]
        rfl
      · rintro ⟨_, isEntries, accepted, rfl⟩
        cases isEntries
        have alone (field : String × Schema) (member : field ∈ shape) :
            (run scope limit).alone field.2 (inputAt entries field.1) =
              .ok (fieldAnswer (run scope limit) entries field) := by
          obtain ⟨value, brings⟩ := Option.isSome_iff_exists.mp (accepted field member)
          rw [fieldAnswer, brings]
          exact (Validator.accepted_eq_some_iff _ _ _ _).mp brings
        refine ⟨_, [], [], alone, bringsExtras_none_iff.mpr ⟨rfl, rfl⟩, ?_⟩
        have none := (fieldIssues_eq_nil_iff shape (fieldAnswer (run scope limit) entries)).mpr
          fun _ _ => rfl
        rw [none]
        simp [Payload.accept]

/-- Mappings with the same entries, in some order. -/
def SameEntries (left right : Value) : Prop :=
  ∃ entries others, left = .mapping entries ∧ right = .mapping others ∧ others.Perm entries

theorem object_of_selected {schema built : Schema} {shape : List (String × Schema)}
    {method : String} {selects : String × Schema → Bool} {supply remaining : IdentitySupply}
    (isObject : schema.form = .object shape none) (unrefined : schema.refinements = [])
    (builds : Method.onObject schema method (fun shape catchall =>
      pure (shape.filter selects, catchall)) supply = .ok (built, remaining)) :
    built.form = .object (shape.filter selects) none ∧ built.refinements = [] := by
  unfold Method.onObject at builds
  rw [isObject] at builds
  have reshapes : Builder.reshape schema (.object (shape.filter selects) none) supply =
      .ok (built, remaining) := builds
  obtain ⟨identity, rfl⟩ := Builder.exists_identity reshapes
  exact ⟨rfl, unrefined⟩

theorem unshared_fieldOutputs {entries : List (Value × Value)}
    {first second : List (String × Schema)}
    {result other : String × Schema → Payload}
    (apart : ∀ field ∈ first, ∀ next ∈ second, field.1 ≠ next.1) :
    ∀ output ∈ fieldOutputs entries first result,
      Value.hasKey output.1 (fieldOutputs entries second other) = false := by
  intro output member
  obtain ⟨field, isField, isName⟩ := exists_field_of_mem_fieldOutputs member
  rw [isName]
  refine List.any_eq_false.mpr fun later isLater => ?_
  obtain ⟨next, isNext, isNextName⟩ := exists_field_of_mem_fieldOutputs isLater
  rw [isNextName, Value.alike_text_iff]
  intro same
  exact apart field isField next isNext (Value.text.inj same).symm

/-- What two objects with different fields accept a mapping as is merged to the outputs of the one,
followed by those of the other. -/
theorem merge_fieldOutputs {entries : List (Value × Value)} {first second : List (String × Schema)}
    (apart : ∀ field ∈ first, ∀ next ∈ second, field.1 ≠ next.1)
    (result : String × Schema → Payload) :
    Value.merge (.mapping (fieldOutputs entries first result))
        (.mapping (fieldOutputs entries second result)) =
      some (.mapping (fieldOutputs entries (first ++ second) result)) := by
  rw [fieldOutputs_append]
  exact Value.merge_of_apart (unshared_fieldOutputs apart) (unshared_fieldOutputs
    fun field isField next isNext same => apart next isNext field isField same.symm)

section Halves

variable {schema picked omitted joined : Schema} {shape : List (String × Schema)}
  {names : List String}

theorem ne_of_mem_halves (names : List String) (shape : List (String × Schema)) :
    ∀ field ∈ shape.filter (fun field => names.contains field.1),
      ∀ next ∈ shape.filter (fun field => !names.contains field.1), field.1 ≠ next.1 := by
  intro field isField next isNext same
  have listed := (List.mem_filter.mp isField).2
  have unlisted := (List.mem_filter.mp isNext).2
  rw [← same, listed] at unlisted
  cases unlisted

theorem forall_of_mem_halves {property : String × Schema → Prop}
    (listed : ∀ field ∈ shape.filter (fun field => names.contains field.1), property field)
    (unlisted : ∀ field ∈ shape.filter (fun field => !names.contains field.1), property field) :
    ∀ field ∈ shape, property field := by
  intro field member
  cases isListed : names.contains field.1 with
  | true => exact listed field (List.mem_filter.mpr ⟨member, isListed⟩)
  | false => exact unlisted field (List.mem_filter.mpr ⟨member, by rw [isListed]; rfl⟩)

theorem accepted_selected {half : Schema} {selects : String × Schema → Bool}
    {entries : List (Value × Value)} (isHalf : half.form = .object (shape.filter selects) none)
    (unrefined : half.refinements = []) (mapping : input.entries? = some entries)
    (fields : ∀ field ∈ shape,
      ((run scope limit).accepted field.2 (inputAt entries field.1)).isSome = true) :
    (run scope (limit + 1)).accepted half input = some (.mapping
      (fieldOutputs entries (shape.filter selects) (fieldAnswer (run scope limit) entries))) :=
  (accepted_object_iff isHalf unrefined _).mpr
    ⟨entries, mapping, fun field member => fields field (List.mem_filter.mp member).1, rfl⟩

/-- The halves accept a value together, one level deeper than the whole. -/
theorem sameEntries_of_halves (isObject : schema.form = .object shape none)
    (unrefined : schema.refinements = []) (picks : (Method.pick names).Makes schema picked)
    (omits : (Method.omit names).Makes schema omitted)
    (joins : (Method.and omitted).Makes picked joined) :
    Option.Rel SameEntries ((run scope (limit + 1)).accepted schema input)
      ((run scope (limit + 2)).accepted joined input) := by
  obtain ⟨_, _, builds⟩ := picks
  obtain ⟨isPicked, pickedUnrefined⟩ := object_of_selected isObject unrefined builds
  obtain ⟨_, _, buildsRest⟩ := omits
  obtain ⟨isOmitted, omittedUnrefined⟩ := object_of_selected isObject unrefined buildsRest
  rw [accepted_intersection (Schema.isIntersection_of_makes joins)]
  cases accepts : (run scope (limit + 1)).accepted schema input with
  | some whole =>
      obtain ⟨entries, mapping, fields, rfl⟩ := (accepted_object_iff isObject unrefined _).mp accepts
      rw [accepted_selected isPicked pickedUnrefined mapping fields,
        accepted_selected isOmitted omittedUnrefined mapping fields, Option.bind_some,
        Option.bind_some, merge_fieldOutputs (ne_of_mem_halves names shape)]
      exact .some ⟨_, _, rfl, rfl, fieldOutputs_perm entries (List.filter_append_perm _ shape) _⟩
  | none =>
      cases halves : ((run scope (limit + 1)).accepted picked input).bind fun left =>
          ((run scope (limit + 1)).accepted omitted input).bind (Value.merge left) with
      | none => exact .none
      | some merged =>
          obtain ⟨left, ofPicked, rest⟩ := Option.bind_eq_some_iff.mp halves
          obtain ⟨right, ofOmitted, -⟩ := Option.bind_eq_some_iff.mp rest
          obtain ⟨entries, mapping, pickedFields, -⟩ :=
            (accepted_object_iff isPicked pickedUnrefined _).mp ofPicked
          obtain ⟨_, again, omittedFields, -⟩ :=
            (accepted_object_iff isOmitted omittedUnrefined _).mp ofOmitted
          cases mapping.symm.trans again
          have whole := (accepted_object_iff isObject unrefined _).mpr
            ⟨entries, mapping, forall_of_mem_halves pickedFields omittedFields, rfl⟩
          rw [accepts] at whole
          cases whole

/-- Splitting an object and intersecting the halves changes nothing but the order of keys. Let an
object drop other keys and have no refinements. Where it settles on a value, and the limit on the
depth leaves room for one more level, what picks some of its fields and what omits them accept the
value together when the object does, with the same entries. -/
theorem halves_accept_alike {payload : Payload}
    (isObject : schema.form = .object shape none) (unrefined : schema.refinements = [])
    (picks : (Method.pick names).Makes schema picked)
    (omits : (Method.omit names).Makes schema omitted)
    (joins : (Method.and omitted).Makes picked joined)
    (settles : (run scope limit).alone schema input = .ok payload) (deep : limit < depth) :
    Option.Rel SameEntries ((run scope depth).accepted schema input)
      ((run scope depth).accepted joined input) := by
  cases limit with
  | zero => cases settles
  | succ below =>
      obtain ⟨extra, rfl⟩ : ∃ extra, depth = below + extra + 2 := ⟨depth - below - 2, by omega⟩
      rw [accepted_of_deeper (by omega : below + 1 ≤ below + extra + 2) settles,
        ← accepted_of_deeper (by omega : below + 1 ≤ below + extra + 1) settles]
      exact sameEntries_of_halves isObject unrefined picks omits joins

/-- A hero with a name, a title of any kind, and an alias that may be missing. -/
def heroShape : List (String × Schema) :=
  [("name", .anonymous (.text Schema.freeText)), ("title", .anonymous .any),
    ("alias", .anonymous (.optional (.anonymous (.text Schema.freeText))))]

/-- A hero without an alias, whose title is there as absence, with a key that is dropped. -/
theorem halves_accept_alike_hero :
    let whole : Schema := .anonymous (.object heroShape none)
    let title : Schema := .anonymous (.object [("title", .anonymous .any)] none)
    let names : Schema := .anonymous (.object [("name", .anonymous (.text Schema.freeText)),
      ("alias", .anonymous (.optional (.anonymous (.text Schema.freeText))))] none)
    let accepted (schema : Schema) : Option Value :=
      (run ⟨⟨[], none⟩, .asynchronous⟩ 4).accepted schema
        (.mapping [(.text "age", .integer 3), (.text "title", .undefined), (.text "name", .text "Ada")])
    Option.Rel SameEntries (accepted whole) (accepted (intersected title names)) := by
  intro whole title names accepted
  have picks : (Method.pick ["title", "crown"]).Makes whole title := ⟨⟨0, false⟩, _, rfl⟩
  have omits : (Method.omit ["title", "crown"]).Makes whole names := ⟨⟨0, false⟩, _, rfl⟩
  have settles : (run ⟨⟨[], none⟩, .asynchronous⟩ 3).alone whole
      (.mapping [(.text "age", .integer 3), (.text "title", .undefined), (.text "name", .text "Ada")]) =
        .ok (.accept (.mapping [(.text "name", .text "Ada"), (.text "title", .undefined)])) := by cbv
  exact halves_accept_alike rfl rfl picks omits (makes_intersected title names) settles (by decide)

end Halves

end Validation
end TypedTables
