import Mathlib.Data.List.Permutation
import TypedTables.Proofs.Schema.Wraps
import TypedTables.Proofs.Validation.Repeating

/-!
# Validating again

Validation brings values into a normal form: numbers and dates read from texts, enum members replaced
by their values, unchangeable kinds of containers. What a schema accepts is in that form, and the
schema accepts it again as it is. A schema that makes its value unchangeable hands a tuple in place
of a list to the schema inside when it is run again, and a prefault its value in place of absence;
there the listed values and the checks of the schemas inside must not tell these apart.
-/

namespace TypedTables

open Wrapper (freeze)

/-! ## Checks -/

namespace UserFunction

/-- The function answers at once, and its answer counts as true. -/
def Approves (function : UserFunction Value) (value : Value) : Prop :=
  ∃ verdict, Evaluation.answer function value = .ok verdict ∧ verdict.isTruthy = true

/-- What the function approves of, it approves of in its unchangeable kind. -/
def IgnoresFreezing (function : UserFunction Value) : Prop :=
  ∀ value, function.Approves value → function.Approves (freeze value)

/-- A function known by name does not tell a value from its unchangeable kind. -/
theorem ignoresFreezing_onValues (function : NamedFunction) :
    (onValues function).IgnoresFreezing := by
  rintro value ⟨verdict, answers, truthy⟩
  unfold Evaluation.answer at answers
  split at answers
  · cases answers
  · rename_i atOnce
    obtain ⟨result, applied, ready⟩ := (except_bind_eq_ok_iff _ _ _).mp answers
    split at ready
    · cases ready
    · rename_i isReady
      cases ready
      obtain ⟨frozen, appliedFrozen, sameTruth, sameReady⟩ := Operation.apply_freeze applied
      have computes : (onValues function).compute (freeze value) = .ok frozen := appliedFrozen
      refine ⟨frozen, ?_, sameTruth.trans truthy⟩
      rw [Evaluation.answer, if_neg atOnce, computes]
      change (if frozen.isAwaitable = true then _ else _) = _
      rw [sameReady, if_neg isReady]

end UserFunction

/-! ## Repeatable forms -/

namespace Form

/-- An enumeration does not list absence. -/
def ListsNoAbsence : Form Schema → Prop
  | .enumeration values => ∀ value ∈ values, value.isUndefined = false
  | _ => True

def ListsNoList (form : Form Schema) : Prop :=
  ∀ value ∈ form.listed, ∀ items, value ≠ .list items

/-- The form brings a container that it accepts in the kind in which it is given. -/
def PassesContainers : Form Schema → Prop
  | .any | .unknown | .custom .. | .enumeration _ | .literal _ => True
  | _ => False

/-- The form takes values apart and puts them together again. -/
def IsContainer : Form Schema → Prop
  | .object .. | .table _ | .array .. | .set .. | .tuple .. | .record .. | .map ..
  | .reference .. => True
  | _ => False

end Form

namespace Schema

/-- The schema passes containers on, itself or in what it wraps. -/
def PassesContainers (environment : Environment) (schema : Schema) : Prop :=
  ∃ target, schema.Wraps environment target ∧ target.form.PassesContainers

section PassesContainers

variable {environment : Environment} {schema : Schema}

theorem PassesContainers.of_form (passes : schema.form.PassesContainers) :
    schema.PassesContainers environment :=
  ⟨schema, .self schema, passes⟩

theorem PassesContainers.of_wrapped {inner : Schema} (member : inner ∈ schema.form.wrapped)
    (passes : inner.PassesContainers environment) : schema.PassesContainers environment := by
  obtain ⟨target, wraps, passes⟩ := passes
  exact ⟨target, .wrapped member wraps, passes⟩

theorem PassesContainers.of_resolved {target : LazyTarget Schema} {resolved : Schema}
    (isLazy : schema.form = .lazily target) (resolves : environment.resolve target = .ok resolved)
    (passes : resolved.PassesContainers environment) : schema.PassesContainers environment := by
  obtain ⟨target, wraps, passes⟩ := passes
  exact ⟨target, .resolved isLazy resolves wraps, passes⟩

end PassesContainers

/-- The schema takes the unchangeable kind of a value where it takes the value: it lists no list, and
no check that is run on a container as it was given tells the two kinds apart. -/
structure TakesFrozen (environment : Environment) (schema : Schema) : Prop where
  listed : schema.form.ListsNoList
  check : ∀ function message, schema.form = .custom (some function) message →
    function.IgnoresFreezing
  refinements : schema.PassesContainers environment →
    ∀ refinement ∈ schema.refinements, refinement.check.IgnoresFreezing

end Schema

namespace Form

/-- The form brings values in a normal form that it brings again. -/
def IsRepeatable (environment : Environment) : Form Schema → Prop
  | .text rules => ∀ protocols, rules.format ≠ .url protocols true
  | .enumeration values => ∀ value ∈ values, ∀ token inner, value ≠ .member token inner
  | .object shape _ => (shape.map Prod.fst).Nodup
  | .table described => (described.shape.map Prod.fst).Nodup
  | .set _ least most => least = none ∧ most = none
  | .prefault inner _ => inner.WrapsOnly environment fun target => target.form.ListsNoAbsence
  | .readonly inner => inner.WrapsOnly environment (Schema.TakesFrozen environment)
  | .promise _ | .union _ | .intersection .. | .default .. | .fallback .. | .transform _
  | .pipe .. => False
  | _ => True

end Form

namespace Evaluator

/-- What the schema brings is accepted by it in its unchangeable kind, and comes out as it was, or in
that kind where containers are passed on. -/
def RepeatsFrozen (evaluate : Evaluator) (passes : Prop) (schema : Schema) : Prop :=
  ∀ input data, evaluate schema input = .ok (.accept data) →
    ∃ again, evaluate schema (freeze data) = .ok (.accept again) ∧
      (again = data ∨ passes ∧ again = freeze data)

theorem RepeatsFrozen.mono {evaluate : Evaluator} {passes passesMore : Prop} {schema : Schema}
    (frozen : evaluate.RepeatsFrozen passes schema) (more : passes → passesMore) :
    evaluate.RepeatsFrozen passesMore schema := by
  intro input data accepted
  obtain ⟨again, comesAgain, same⟩ := frozen input data accepted
  exact ⟨again, comesAgain, same.imp_right (And.imp_left more)⟩

/-- Absence comes from absence only. -/
def KeepsPresence (evaluate : Evaluator) (schema : Schema) : Prop :=
  ∀ input data, evaluate schema input = .ok (.accept data) → data.isUndefined = true →
    input.isUndefined = true

end Evaluator

/-! ## Leaves -/

namespace Leaf

variable {input data : Value}

theorem clean_of_eq_accept {payload : Payload} (accepted : payload = .accept data) :
    payload.isClean = true ∧ payload.value = data := by
  rw [accepted]
  exact ⟨rfl, rfl⟩

theorem text_again {rules : TextRules} (plain : ∀ protocols, rules.format ≠ .url protocols true)
    (accepted : text rules input = .ok (.accept data)) :
    text rules data = .ok (.accept data) := by
  obtain ⟨value, -, remaining⟩ := (except_bind_eq_ok_iff _ _ _).mp accepted
  cases value with
  | text characters =>
      have uncoerced : (if rules.coerce then coerceText (.text characters)
          else .ok (.text characters)) = .ok (.text characters) := by
        split <;> rfl
      have same : data = .text characters := by
        obtain ⟨sizes, -, checked⟩ := (except_bind_eq_ok_iff _ _ _).mp remaining
        obtain ⟨mismatch, -, result⟩ := (except_map_eq_ok_iff _ _ _).mp checked
        split at result
        · unfold checkFormat at result
          split at result
          · exact (Payload.accept_inj result).symm
          · split at result
            · exact (Payload.accept_inj result).symm
            · cases result
          · rename_i protocols normalize format
            split at result
            · cases result
            · split at result
              · cases result
              · cases normalize with
                | true => exact absurd format (plain protocols)
                | false => exact (Payload.accept_inj result).symm
        · exact (congrArg Payload.value result).symm
      rw [same] at remaining ⊢
      rw [text, uncoerced]
      exact remaining
  | _ => cases remaining

theorem coerceNumber_coerceNumber (value : Value) :
    coerceNumber (coerceNumber value) = coerceNumber value := by
  cases value with
  | text written =>
      cases reads : FloatReading.ofText? written with
      | none => simp [coerceNumber, reads]
      | some reading => cases reading <;> simp [coerceNumber, reads]
  | _ => rfl

theorem number_again {rules : NumberRules} (accepted : number rules input = .ok (.accept data)) :
    number rules data = .ok (.accept data) := by
  have value : data = if rules.coerce then coerceNumber input else input := value_number accepted
  have same : (if rules.coerce then coerceNumber data else data) =
      if rules.coerce then coerceNumber input else input := by
    rw [value]
    split
    · exact coerceNumber_coerceNumber input
    · rfl
  rw [number_of_finite, same, ← number_of_finite]
  exact accepted

theorem value_bigint (format : Option String) (value : Value) :
    (bigint format value).value = value := by
  unfold bigint
  cases value with
  | integer number =>
      simp only
      split
      · rfl
      · split
        · rfl
        · split <;> rfl
  | _ => rfl

/-- Layout and version decide whether an identifier is accepted, in whatever kind it was given. -/
theorem checkUuid_eq_accept {format : String} {identifier : Uuid}
    (clean : (checkUuid format identifier input).isClean = true) (value : Value) :
    checkUuid format identifier value = .accept (.uuid identifier) := by
  unfold checkUuid at clean ⊢
  grind [Payload.isClean, Payload.reject, Payload.accept]

theorem uuid_again {format : String} (accepted : uuid format input = .accept data) :
    uuid format data = .accept data := by
  have again (identifier : Uuid) (checked : checkUuid format identifier input = .accept data) :
      uuid format data = .accept data := by
    obtain ⟨clean, value⟩ := clean_of_eq_accept checked
    rw [checkUuid_clean clean] at value
    rw [← value]
    exact checkUuid_eq_accept clean _
  unfold uuid at accepted
  split at accepted
  · exact again _ accepted
  · split at accepted
    · exact again _ accepted
    · cases accepted
  · cases accepted

theorem enumeration_of_listed {values : List Value} {expected value : Value}
    (noMember : ∀ value ∈ values, ∀ token inner, value ≠ .member token inner)
    (member : expected ∈ values) (same : Value.sameLiteral expected value = true) :
    enumeration values value = .accept value := by
  have listed : values.any (fun other => Value.sameLiteral other value) = true :=
    List.any_eq_true.mpr ⟨expected, member, same⟩
  cases value with
  | member token inner =>
      obtain ⟨other, held, isMember⟩ := Value.exists_member_of_sameLiteral same
      exact absurd isMember (noMember expected member other held)
  | _ => exact if_pos listed

theorem literal_of_listed {values : List Value} {expected value : Value}
    (member : expected ∈ values) (same : Value.sameLiteral expected value = true) :
    literal values value = .accept value :=
  if_pos (List.any_eq_true.mpr ⟨expected, member, same⟩)

theorem exists_listed_of_enumeration {values : List Value}
    (accepted : enumeration values input = .accept data) :
    ∃ expected ∈ values, Value.sameLiteral expected data = true := by
  obtain ⟨clean, value⟩ := clean_of_eq_accept accepted
  exact value ▸ enumeration_clean clean

theorem exists_listed_of_literal {values : List Value}
    (accepted : literal values input = .accept data) :
    ∃ expected ∈ values, Value.sameLiteral expected data = true := by
  obtain ⟨clean, value⟩ := clean_of_eq_accept accepted
  exact value ▸ literal_clean clean

theorem ofKind_eq_accept {expected : String} {passes : Value → Bool}
    (accepted : ofKind expected passes input = .accept data) :
    data = input ∧ passes data = true := by
  obtain ⟨clean, value⟩ := clean_of_eq_accept accepted
  obtain ⟨passed, same⟩ := ofKind_clean clean
  have equal : data = input := value.symm.trans same
  exact ⟨equal, equal ▸ passed⟩

theorem payload_again {environment : Environment} {form : Form Schema}
    (repeatable : form.IsRepeatable environment)
    (accepted : payload? form input = some (.ok (.accept data))) :
    payload? form data = some (.ok (.accept data)) := by
  cases form with
  | any | unknown =>
      cases accepted
      rfl
  | never => cases accepted
  | undefined | void | null | boolean | symbol | function =>
      have same := (ofKind_eq_accept (Except.ok.inj (Option.some.inj accepted))).1
      rw [same] at accepted ⊢
      exact accepted
  | text rules => exact congrArg some (text_again repeatable (Option.some.inj accepted))
  | uuid format =>
      have again := uuid_again (Except.ok.inj (Option.some.inj accepted))
      exact congrArg (fun payload => some (Except.ok payload)) again
  | number rules => exact congrArg some (number_again (Option.some.inj accepted))
  | bigint format =>
      have result : bigint format input = .accept data := Except.ok.inj (Option.some.inj accepted)
      have same : data = input := (congrArg Payload.value result).symm.trans (value_bigint _ _)
      rw [same] at accepted ⊢
      exact accepted
  | date coerce =>
      have result : date coerce input = .accept data := Except.ok.inj (Option.some.inj accepted)
      obtain ⟨clean, value⟩ := clean_of_eq_accept result
      obtain ⟨moment, isMoment⟩ := date_clean clean
      rw [← value, isMoment]
      rfl
  | enumeration values =>
      obtain ⟨expected, member, same⟩ :=
        exists_listed_of_enumeration (Except.ok.inj (Option.some.inj accepted))
      exact congrArg (fun payload => some (Except.ok payload))
        (enumeration_of_listed repeatable member same)
  | literal values =>
      obtain ⟨expected, member, same⟩ :=
        exists_listed_of_literal (Except.ok.inj (Option.some.inj accepted))
      exact congrArg (fun payload => some (Except.ok payload)) (literal_of_listed member same)
  | _ => cases accepted

theorem payload_frozen_of_same {environment : Environment} {form : Form Schema}
    (repeatable : form.IsRepeatable environment)
    (accepted : payload? form input = some (.ok (.accept data))) (same : freeze data = data) :
    ∃ again, payload? form (freeze data) = some (.ok (.accept again)) ∧
      (again = data ∨ form.PassesContainers ∧ again = freeze data) := by
  rw [same]
  exact ⟨data, payload_again repeatable accepted, Or.inl rfl⟩

theorem payload_frozen {environment : Environment} {form : Form Schema}
    (repeatable : form.IsRepeatable environment) (noList : form.ListsNoList)
    (accepted : payload? form input = some (.ok (.accept data))) :
    ∃ again, payload? form (freeze data) = some (.ok (.accept again)) ∧
      (again = data ∨ form.PassesContainers ∧ again = freeze data) := by
  have frozen := payload_frozen_of_same repeatable accepted
  cases form with
  | any | unknown => exact ⟨freeze data, rfl, Or.inr ⟨trivial, rfl⟩⟩
  | never => cases accepted
  | undefined | void | null | boolean | symbol | function =>
      have passes := (ofKind_eq_accept (Except.ok.inj (Option.some.inj accepted))).2
      refine frozen ?_
      cases data with
      | list | mapping | set => cases passes
      | _ => rfl
  | text rules =>
      have isText := text_clean (Option.some.inj accepted) rfl
      refine frozen ?_
      cases data with
      | list | mapping | set => cases isText
      | _ => rfl
  | uuid format =>
      obtain ⟨clean, value⟩ := clean_of_eq_accept (Except.ok.inj (Option.some.inj accepted))
      obtain ⟨identifier, isUuid⟩ := uuid_clean clean
      refine frozen ?_
      rw [← value, isUuid]
      rfl
  | number rules =>
      have isFinite := (number_clean (Option.some.inj accepted) rfl).1
      refine frozen ?_
      cases data with
      | list | mapping | set => cases isFinite
      | _ => rfl
  | bigint format =>
      obtain ⟨clean, value⟩ := clean_of_eq_accept (Except.ok.inj (Option.some.inj accepted))
      have isWhole := bigint_clean clean
      rw [value] at isWhole
      refine frozen ?_
      cases data with
      | list | mapping | set => cases isWhole
      | _ => rfl
  | date coerce =>
      obtain ⟨clean, value⟩ := clean_of_eq_accept (Except.ok.inj (Option.some.inj accepted))
      obtain ⟨moment, isMoment⟩ := date_clean clean
      refine frozen ?_
      rw [← value, isMoment]
      rfl
  | enumeration values =>
      obtain ⟨expected, member, same⟩ :=
        exists_listed_of_enumeration (Except.ok.inj (Option.some.inj accepted))
      have sameFrozen := Value.sameLiteral_freeze (noList expected member) same
      exact ⟨freeze data, congrArg (fun payload => some (Except.ok payload))
        (enumeration_of_listed repeatable member sameFrozen), Or.inr ⟨trivial, rfl⟩⟩
  | literal values =>
      obtain ⟨expected, member, same⟩ :=
        exists_listed_of_literal (Except.ok.inj (Option.some.inj accepted))
      have sameFrozen := Value.sameLiteral_freeze (noList expected member) same
      exact ⟨freeze data, congrArg (fun payload => some (Except.ok payload))
        (literal_of_listed member sameFrozen), Or.inr ⟨trivial, rfl⟩⟩
  | _ => cases accepted

theorem payload_present {form : Form Schema} (noAbsence : form.ListsNoAbsence)
    (accepted : payload? form input = some (.ok (.accept data))) (absent : data.isUndefined = true) :
    input.isUndefined = true := by
  cases form with
  | any | unknown =>
      cases accepted
      exact absent
  | never => cases accepted
  | undefined | void | null | boolean | symbol | function =>
      rw [← (ofKind_eq_accept (Except.ok.inj (Option.some.inj accepted))).1]
      exact absent
  | text rules =>
      have isText := text_clean (Option.some.inj accepted) rfl
      cases data with
      | undefined => cases isText
      | _ => cases absent
  | uuid format =>
      obtain ⟨clean, value⟩ := clean_of_eq_accept (Except.ok.inj (Option.some.inj accepted))
      obtain ⟨identifier, isUuid⟩ := uuid_clean clean
      rw [← value, isUuid] at absent
      cases absent
  | number rules =>
      have isFinite := (number_clean (Option.some.inj accepted) rfl).1
      cases data with
      | undefined => cases isFinite
      | _ => cases absent
  | bigint format =>
      have result : bigint format input = .accept data := Except.ok.inj (Option.some.inj accepted)
      have same : data = input := (congrArg Payload.value result).symm.trans (value_bigint _ _)
      rw [← same]
      exact absent
  | date coerce =>
      obtain ⟨clean, value⟩ := clean_of_eq_accept (Except.ok.inj (Option.some.inj accepted))
      obtain ⟨moment, isMoment⟩ := date_clean clean
      rw [← value, isMoment] at absent
      cases absent
  | enumeration values =>
      obtain ⟨expected, member, same⟩ :=
        exists_listed_of_enumeration (Except.ok.inj (Option.some.inj accepted))
      have listed := Value.isUndefined_of_sameLiteral same absent
      rw [noAbsence expected member] at listed
      cases listed
  | literal values =>
      have result : literal values input = .accept data := Except.ok.inj (Option.some.inj accepted)
      unfold literal at result
      split at result
      · rw [Payload.accept_inj result]
        exact absent
      · cases result
  | _ => cases accepted

end Leaf

/-! ## Refinements -/

namespace Evaluation

theorem judge_eq_ok_accept_iff (refinements : List Refinement) (value : Value) :
    (refinements.mapM fun refinement => answer refinement.check value).map
        (Wrapper.judge refinements value) = .ok (.accept value) ↔
      ∀ refinement ∈ refinements, refinement.check.Approves value := by
  induction refinements with
  | nil => exact iff_of_true rfl fun _ member => absurd member List.not_mem_nil
  | cons refinement rest ih =>
      rw [List.forall_mem_cons, ← ih, List.mapM_cons]
      cases answered : answer refinement.check value with
      | error cause => simp [UserFunction.Approves, answered, bind, Except.bind, Except.map]
      | ok verdict =>
          cases others : rest.mapM fun later => answer later.check value with
          | error cause =>
              simp [bind, Except.bind, Except.map]
          | ok verdicts =>
              cases truthy : verdict.isTruthy with
              | true =>
                  simp [UserFunction.Approves, answered, truthy, bind, Except.bind, Except.map,
                    pure, Except.pure, Wrapper.judge, Payload.accept]
              | false =>
                  simp [UserFunction.Approves, answered, truthy, bind, Except.bind, Except.map,
                    pure, Except.pure, Wrapper.judge, Payload.accept]

theorem refine_eq_ok_accept_iff (refinements : List Refinement) (payload : Payload)
    (data : Value) :
    refine refinements payload = .ok (.accept data) ↔
      payload = .accept data ∧ (data.isUndefined = true ∨
        ∀ refinement ∈ refinements, refinement.check.Approves data) := by
  constructor
  · intro refines
    obtain ⟨clean, value⟩ := refine_clean refines rfl
    have same : payload = .accept data := by rw [Payload.eq_accept clean, ← value]; rfl
    refine ⟨same, ?_⟩
    rw [same, refine] at refines
    split at refines
    · rename_i skipped
      exact Or.inl (by simpa [Payload.accept, Payload.isClean] using skipped)
    · exact Or.inr ((judge_eq_ok_accept_iff refinements data).mp refines)
  · rintro ⟨rfl, absent | approves⟩
    · rw [refine, if_pos]
      simpa [Payload.accept] using Or.inr absent
    · rw [refine]
      split
      · rfl
      · exact (judge_eq_ok_accept_iff refinements data).mpr approves

/-! ## Wrappers -/

theorem demandPresent_eq_accept_iff (payload : Payload) (data : Value) :
    Wrapper.demandPresent payload = .accept data ↔
      payload = .accept data ∧ data.isUndefined = false := by
  unfold Wrapper.demandPresent
  constructor
  · intro demanded
    split at demanded
    · cases demanded
    · rename_i present
      rw [demanded] at present
      exact ⟨demanded, by simpa [Payload.accept, Payload.isClean] using present⟩
  · rintro ⟨rfl, present⟩
    rw [if_neg]
    simp [Payload.accept, present]

theorem freezeClean_eq_accept_iff (payload : Payload) (data : Value) :
    Wrapper.freezeClean payload = .accept data ↔
      ∃ thawed, payload = .accept thawed ∧ data = freeze thawed := by
  unfold Wrapper.freezeClean
  constructor
  · intro frozen
    split at frozen
    · rename_i clean
      exact ⟨payload.value, Payload.eq_accept clean, (congrArg Payload.value frozen).symm⟩
    · rename_i refused
      rw [frozen] at refused
      exact absurd rfl refused
  · rintro ⟨thawed, rfl, rfl⟩
    rfl

variable {environment : Environment} {evaluate : Evaluator} {form : Form Schema}
  {input data : Value}

/-- A record comes out as a record of the same table, with what its identifier is accepted as. -/
theorem reference_again {tables : Option (List String)} {identifier : Schema}
    (repeats : evaluate.Repeats identifier)
    (accepted : reference evaluate tables identifier input = .ok (.accept data)) :
    ∃ table value, data = .record table value ∧
      reference evaluate tables identifier data = .ok (.accept data) := by
  unfold reference at accepted
  cases input with
  | record table value =>
      simp only at accepted
      split at accepted
      · cases accepted
      · rename_i permits
        obtain ⟨brought, ofIdentifier, rebuilt⟩ := (except_map_eq_ok_iff _ _ _).mp accepted
        unfold Wrapper.rebuildRecord at rebuilt
        split at rebuilt
        · rename_i clean
          rw [Payload.eq_accept clean] at ofIdentifier
          have keeps := repeats _ _ ofIdentifier
          rw [← Payload.accept_inj rebuilt]
          refine ⟨table, brought.value, rfl, ?_⟩
          rw [reference, permits]
          exact (except_map_eq_ok_iff _ _ _).mpr ⟨_, keeps, rfl⟩
        · rename_i refused
          have none := List.map_eq_nil_iff.mp (congrArg Payload.issues rebuilt)
          exact absurd (List.isEmpty_iff.mpr none) refused
  | _ => cases accepted

theorem custom_eq_ok_accept_iff (function : UserFunction Value) (message : String) :
    Evaluation.form environment evaluate (.custom (some function) message) input =
        .ok (.accept data) ↔ data = input ∧ function.Approves input := by
  constructor
  · intro accepted
    obtain ⟨verdict, answers, judged⟩ := (except_map_eq_ok_iff _ _ _).mp accepted
    split at judged
    · rename_i truthy
      exact ⟨(Payload.accept_inj judged).symm, verdict, answers, truthy⟩
    · cases judged
  · rintro ⟨rfl, verdict, answers, truthy⟩
    exact (except_map_eq_ok_iff _ _ _).mpr ⟨verdict, answers, if_pos truthy⟩

/-! ## Forms that are run again -/

theorem container_again (repeatable : form.IsRepeatable environment)
    (repeats : ∀ part ∈ form.parts, evaluate.Repeats part)
    (accepted : Evaluation.form environment evaluate form input = .ok (.accept data))
    (isContainer : form.IsContainer) :
    data.isUndefined = false ∧
      Evaluation.form environment evaluate form data = .ok (.accept data) ∧
      Evaluation.form environment evaluate form (freeze data) = .ok (.accept data) := by
  cases form with
  | object shape catchall =>
      obtain ⟨outputs, rfl, again⟩ := object_again repeatable repeats accepted
      exact ⟨rfl, again (.mapping outputs) rfl, again (.frozenMapping outputs) rfl⟩
  | table described =>
      obtain ⟨outputs, rfl, again⟩ :=
        object_again repeatable (by simpa [Form.parts] using repeats) accepted
      exact ⟨rfl, again (.mapping outputs) rfl, again (.frozenMapping outputs) rfl⟩
  | array element least most =>
      obtain ⟨items, rfl, again⟩ := array_again (repeats element (by simp [Form.parts])) accepted
      exact ⟨rfl, again (.list items) rfl, again (.tuple items) rfl⟩
  | set element least most =>
      obtain ⟨rfl, rfl⟩ := repeatable
      obtain ⟨members, rfl, again⟩ := set_again (repeats element (by simp [Form.parts])) accepted
      exact ⟨rfl, again (.set members) rfl, again (.frozenSet members) rfl⟩
  | tuple items rest =>
      obtain ⟨values, rfl, again⟩ := tuple_again repeats accepted
      exact ⟨rfl, again (.list values) rfl, again (.tuple values) rfl⟩
  | record key value | map key value =>
      obtain ⟨entries, rfl, again⟩ := keyed_again (repeats key (by simp [Form.parts]))
        (repeats value (by simp [Form.parts])) accepted
      exact ⟨rfl, again (.mapping entries) rfl, again (.frozenMapping entries) rfl⟩
  | reference tables identifier =>
      obtain ⟨table, value, rfl, again⟩ :=
        reference_again (repeats identifier (by simp [Form.parts])) accepted
      exact ⟨rfl, again, again⟩
  | _ => exact isContainer.elim

theorem form_again (repeatable : form.IsRepeatable environment)
    (repeats : ∀ part ∈ form.parts, evaluate.Repeats part)
    (frozen : ∀ inner, form = .readonly inner → evaluate.RepeatsFrozen True inner)
    (present : ∀ inner value, form = .prefault inner value → evaluate.KeepsPresence inner)
    (resolved : ∀ target schema, form = .lazily target → environment.resolve target = .ok schema →
      evaluate.Repeats schema)
    (accepted : Evaluation.form environment evaluate form input = .ok (.accept data)) :
    Evaluation.form environment evaluate form data = .ok (.accept data) := by
  cases form with
  | object | table | array | set | tuple | record | map | reference =>
      exact (container_again repeatable repeats accepted trivial).2.1
  | optional inner =>
      have inside := repeats inner (by simp [Form.parts])
      rw [Evaluation.form] at accepted ⊢
      split
      · rfl
      · rename_i isPresent
        split at accepted
        · rename_i absent
          rw [← Payload.accept_inj (Except.ok.inj accepted)] at isPresent
          exact absurd absent isPresent
        · exact inside _ _ accepted
  | nullable inner =>
      have inside := repeats inner (by simp [Form.parts])
      rw [Evaluation.form] at accepted ⊢
      split
      · rfl
      · rename_i notNull
        split at accepted
        · rename_i null
          rw [← Payload.accept_inj (Except.ok.inj accepted)] at notNull
          exact absurd null notNull
        · exact inside _ _ accepted
  | nonoptional inner =>
      obtain ⟨payload, comes, demanded⟩ := (except_map_eq_ok_iff _ _ _).mp accepted
      obtain ⟨rfl, isPresent⟩ := (demandPresent_eq_accept_iff _ _).mp demanded
      exact (except_map_eq_ok_iff _ _ _).mpr ⟨_, repeats inner (by simp [Form.parts]) _ _ comes,
        (demandPresent_eq_accept_iff _ _).mpr ⟨rfl, isPresent⟩⟩
  | prefault inner value =>
      have inside := repeats inner (by simp [Form.parts])
      rw [Evaluation.form] at accepted ⊢
      cases absent : data.isUndefined with
      | true =>
          split at accepted
          · exact accepted
          · rename_i isPresent
            exact absurd (present inner value rfl _ _ accepted absent) isPresent
      | false =>
          split at accepted
          · obtain ⟨answer, -, comes⟩ := (except_bind_eq_ok_iff _ _ _).mp accepted
            exact inside _ _ comes
          · exact inside _ _ accepted
  | readonly inner =>
      obtain ⟨payload, comes, isFrozen⟩ := (except_map_eq_ok_iff _ _ _).mp accepted
      obtain ⟨thawed, rfl, rfl⟩ := (freezeClean_eq_accept_iff _ _).mp isFrozen
      obtain ⟨again, comesAgain, same⟩ := frozen inner rfl _ _ comes
      refine (except_map_eq_ok_iff _ _ _).mpr ⟨_, comesAgain, ?_⟩
      refine (freezeClean_eq_accept_iff _ _).mpr ⟨again, rfl, ?_⟩
      rcases same with rfl | ⟨-, rfl⟩
      · rfl
      · exact (Value.freeze_freeze thawed).symm
  | lazily target =>
      obtain ⟨schema, resolves, comes⟩ := (except_bind_eq_ok_iff _ _ _).mp accepted
      exact (except_bind_eq_ok_iff _ _ _).mpr
        ⟨schema, resolves, resolved target schema rfl resolves _ _ comes⟩
  | custom check message =>
      cases check with
      | none => rfl
      | some function =>
          obtain ⟨rfl, approves⟩ := (custom_eq_ok_accept_iff _ _).mp accepted
          exact (custom_eq_ok_accept_iff _ _).mpr ⟨rfl, approves⟩
  | promise | union | intersection | default | fallback | transform | pipe =>
      exact repeatable.elim
  | _ => exact Option.some.inj (Leaf.payload_again repeatable (congrArg some accepted))

/-- What a form brings it accepts in its unchangeable kind too, when what it wraps does. -/
theorem form_frozen {passes : Prop} (repeatable : form.IsRepeatable environment)
    (noList : form.ListsNoList) (here : form.PassesContainers → passes)
    (checks : ∀ function message, form = .custom (some function) message →
      function.IgnoresFreezing)
    (repeats : ∀ part ∈ form.parts, evaluate.Repeats part)
    (frozen : ∀ inner ∈ form.wrapped, evaluate.RepeatsFrozen passes inner)
    (resolved : ∀ target schema, form = .lazily target → environment.resolve target = .ok schema →
      evaluate.RepeatsFrozen passes schema)
    (accepted : Evaluation.form environment evaluate form input = .ok (.accept data))
    (kept : Evaluation.form environment evaluate form data = .ok (.accept data)) :
    ∃ again, Evaluation.form environment evaluate form (freeze data) = .ok (.accept again) ∧
      (again = data ∨ passes ∧ again = freeze data) := by
  cases form with
  | object | table | array | set | tuple | record | map | reference =>
      exact ⟨data, (container_again repeatable repeats accepted trivial).2.2, Or.inl rfl⟩
  | optional inner =>
      rw [Evaluation.form] at accepted ⊢
      rw [Value.isUndefined_freeze]
      split
      · rename_i absent
        cases data with
        | undefined => exact ⟨_, rfl, Or.inl rfl⟩
        | _ => cases absent
      · rename_i isPresent
        split at accepted
        · rename_i absent
          rw [← Payload.accept_inj (Except.ok.inj accepted)] at isPresent
          exact absurd absent isPresent
        · exact frozen inner (by simp [Form.wrapped]) _ _ accepted
  | nullable inner =>
      rw [Evaluation.form] at accepted ⊢
      rw [Value.isNull_freeze]
      split
      · rename_i null
        cases data with
        | null => exact ⟨_, rfl, Or.inl rfl⟩
        | _ => cases null
      · rename_i notNull
        split at accepted
        · rename_i null
          rw [← Payload.accept_inj (Except.ok.inj accepted)] at notNull
          exact absurd null notNull
        · exact frozen inner (by simp [Form.wrapped]) _ _ accepted
  | nonoptional inner =>
      obtain ⟨payload, comes, demanded⟩ := (except_map_eq_ok_iff _ _ _).mp accepted
      obtain ⟨rfl, isPresent⟩ := (demandPresent_eq_accept_iff _ _).mp demanded
      obtain ⟨again, comesAgain, same⟩ := frozen inner (by simp [Form.wrapped]) _ _ comes
      have presentAgain : again.isUndefined = false := by
        rcases same with rfl | ⟨-, rfl⟩
        · exact isPresent
        · rw [Value.isUndefined_freeze]
          exact isPresent
      exact ⟨again, (except_map_eq_ok_iff _ _ _).mpr ⟨_, comesAgain,
        (demandPresent_eq_accept_iff _ _).mpr ⟨rfl, presentAgain⟩⟩, same⟩
  | prefault inner value =>
      cases absent : data.isUndefined with
      | true =>
          cases data with
          | undefined => exact ⟨_, kept, Or.inl rfl⟩
          | _ => cases absent
      | false =>
          have inside : ∃ given, evaluate inner given = .ok (.accept data) := by
            rw [Evaluation.form] at accepted
            split at accepted
            · obtain ⟨answer, -, comes⟩ := (except_bind_eq_ok_iff _ _ _).mp accepted
              exact ⟨answer, comes⟩
            · exact ⟨input, accepted⟩
          obtain ⟨given, comes⟩ := inside
          rw [Evaluation.form, Value.isUndefined_freeze, absent]
          exact frozen inner (by simp [Form.wrapped]) _ _ comes
  | readonly inner =>
      obtain ⟨payload, -, isFrozen⟩ := (except_map_eq_ok_iff _ _ _).mp accepted
      obtain ⟨thawed, -, rfl⟩ := (freezeClean_eq_accept_iff _ _).mp isFrozen
      rw [Value.freeze_freeze]
      exact ⟨_, kept, Or.inl rfl⟩
  | lazily target =>
      obtain ⟨schema, resolves, comes⟩ := (except_bind_eq_ok_iff _ _ _).mp accepted
      obtain ⟨again, comesAgain, same⟩ := resolved target schema rfl resolves _ _ comes
      exact ⟨again, (except_bind_eq_ok_iff _ _ _).mpr ⟨schema, resolves, comesAgain⟩, same⟩
  | custom check message =>
      cases check with
      | none => exact ⟨_, rfl, Or.inr ⟨here trivial, rfl⟩⟩
      | some function =>
          obtain ⟨rfl, approves⟩ := (custom_eq_ok_accept_iff _ _).mp accepted
          have approvesFrozen := checks function message rfl _ approves
          exact ⟨_, (custom_eq_ok_accept_iff _ _).mpr ⟨rfl, approvesFrozen⟩,
            Or.inr ⟨here trivial, rfl⟩⟩
  | promise | union | intersection | default | fallback | transform | pipe =>
      exact repeatable.elim
  | _ =>
      obtain ⟨again, brings, same⟩ := Leaf.payload_frozen repeatable noList (congrArg some accepted)
      exact ⟨again, Option.some.inj brings, same.imp_right (And.imp_left here)⟩

theorem form_present (repeatable : form.IsRepeatable environment)
    (noAbsence : form.ListsNoAbsence) (repeats : ∀ part ∈ form.parts, evaluate.Repeats part)
    (present : ∀ inner ∈ form.wrapped, evaluate.KeepsPresence inner)
    (resolved : ∀ target schema, form = .lazily target → environment.resolve target = .ok schema →
      evaluate.KeepsPresence schema)
    (accepted : Evaluation.form environment evaluate form input = .ok (.accept data))
    (absent : data.isUndefined = true) : input.isUndefined = true := by
  cases form with
  | object | table | array | set | tuple | record | map | reference =>
      rw [(container_again repeatable repeats accepted trivial).1] at absent
      cases absent
  | optional inner =>
      rw [Evaluation.form] at accepted
      split at accepted
      · assumption
      · exact present inner (by simp [Form.wrapped]) _ _ accepted absent
  | nullable inner =>
      rw [Evaluation.form] at accepted
      split at accepted
      · rw [Payload.accept_inj (Except.ok.inj accepted)]
        exact absent
      · exact present inner (by simp [Form.wrapped]) _ _ accepted absent
  | nonoptional inner =>
      obtain ⟨payload, -, demanded⟩ := (except_map_eq_ok_iff _ _ _).mp accepted
      have isPresent := ((demandPresent_eq_accept_iff _ _).mp demanded).2
      rw [absent] at isPresent
      cases isPresent
  | prefault inner value =>
      rw [Evaluation.form] at accepted
      split at accepted
      · assumption
      · exact present inner (by simp [Form.wrapped]) _ _ accepted absent
  | readonly inner =>
      obtain ⟨payload, comes, isFrozen⟩ := (except_map_eq_ok_iff _ _ _).mp accepted
      obtain ⟨thawed, rfl, rfl⟩ := (freezeClean_eq_accept_iff _ _).mp isFrozen
      rw [Value.isUndefined_freeze] at absent
      exact present inner (by simp [Form.wrapped]) _ _ comes absent
  | lazily target =>
      obtain ⟨schema, resolves, comes⟩ := (except_bind_eq_ok_iff _ _ _).mp accepted
      exact resolved target schema rfl resolves _ _ comes absent
  | custom check message =>
      cases check with
      | none =>
          cases accepted
          exact absent
      | some function =>
          obtain ⟨rfl, -⟩ := (custom_eq_ok_accept_iff _ _).mp accepted
          exact absent
  | promise | union | intersection | default | fallback | transform | pipe =>
      exact repeatable.elim
  | _ => exact Leaf.payload_present noAbsence (congrArg some accepted) absent

/-! ## Schemas that are run again -/

theorem schema_eq_ok_accept_iff {schema : Schema} :
    Evaluation.schema environment evaluate schema input = .ok (.accept data) ↔
      Evaluation.form environment evaluate schema.form input = .ok (.accept data) ∧
        (data.isUndefined = true ∨
          ∀ refinement ∈ schema.refinements, refinement.check.Approves data) := by
  rw [Evaluation.schema, except_bind_eq_ok_iff]
  constructor
  · rintro ⟨formed, comes, refines⟩
    obtain ⟨rfl, approved⟩ := (refine_eq_ok_accept_iff _ _ _).mp refines
    exact ⟨comes, approved⟩
  · rintro ⟨comes, approved⟩
    exact ⟨_, comes, (refine_eq_ok_accept_iff _ _ _).mpr ⟨rfl, approved⟩⟩

/-- What a schema of repeatable forms brings at some depth it brings again at that depth; in the
unchangeable kind too where what it wraps takes that, and absence from absence only where it wraps no
listed absence. The induction is on the depth, for all three at once: wrappers turn one into
another. -/
theorem within_again {schema : Schema}
    (repeatable : schema.Everywhere environment fun target => target.form.IsRepeatable environment)
    (limit : Nat) :
    (within environment limit).Repeats schema ∧
      (schema.WrapsOnly environment (Schema.TakesFrozen environment) →
        (within environment limit).RepeatsFrozen (schema.PassesContainers environment) schema) ∧
      ((schema.WrapsOnly environment fun target => target.form.ListsNoAbsence) →
        (within environment limit).KeepsPresence schema) := by
  induction limit generalizing schema with
  | zero =>
      refine ⟨?_, fun _ => ?_, fun _ => ?_⟩
      all_goals
        intro input data accepted
        cases accepted
  | succ limit ih =>
      have here := repeatable.here
      have inParts (part : Schema) (member : part ∈ schema.form.parts) :=
        ih (repeatable.part member)
      have inWrapped (inner : Schema) (member : inner ∈ schema.form.wrapped) :=
        inParts inner (Form.mem_parts_of_mem_wrapped member)
      have inResolved (target : LazyTarget Schema) (resolved : Schema)
          (isLazy : schema.form = .lazily target)
          (resolves : environment.resolve target = .ok resolved) :=
        ih (repeatable.resolved isLazy resolves)
      have repeatsParts (part : Schema) (member : part ∈ schema.form.parts) :
          (within environment limit).Repeats part := (inParts part member).1
      have formAgain {input data : Value}
          (comes : Evaluation.form environment (within environment limit) schema.form input =
            .ok (.accept data)) :
          Evaluation.form environment (within environment limit) schema.form data =
            .ok (.accept data) := by
        refine form_again here repeatsParts (fun inner isReadonly => ?_)
          (fun inner value isPrefault => ?_)
          (fun target resolved isLazy resolves => (inResolved target resolved isLazy resolves).1) comes
        · rw [isReadonly] at here
          exact ((inWrapped inner (by rw [isReadonly]; exact List.mem_singleton_self _)).2.1 here).mono
            fun _ => trivial
        · rw [isPrefault] at here
          exact (inWrapped inner (by rw [isPrefault]; exact List.mem_singleton_self _)).2.2 here
      refine ⟨fun input data accepted => ?_, fun takes input data accepted => ?_,
        fun noAbsence input data accepted absent => ?_⟩
      · obtain ⟨comes, approved⟩ := schema_eq_ok_accept_iff.mp accepted
        exact schema_eq_ok_accept_iff.mpr ⟨formAgain comes, approved⟩
      · obtain ⟨comes, approved⟩ := schema_eq_ok_accept_iff.mp accepted
        obtain ⟨again, comesAgain, same⟩ := form_frozen here takes.here.listed
          Schema.PassesContainers.of_form takes.here.check repeatsParts
          (fun inner member => ((inWrapped inner member).2.1 (takes.wrapped member)).mono
            (.of_wrapped member))
          (fun target resolved isLazy resolves =>
            ((inResolved target resolved isLazy resolves).2.1
              (takes.resolved isLazy resolves)).mono (.of_resolved isLazy resolves))
          comes (formAgain comes)
        refine ⟨again, schema_eq_ok_accept_iff.mpr ⟨comesAgain, ?_⟩, same⟩
        rcases same with rfl | ⟨passes, rfl⟩
        · exact approved
        · rw [Value.isUndefined_freeze]
          exact approved.imp_right fun approves refinement member =>
            takes.here.refinements passes refinement member data (approves refinement member)
      · obtain ⟨comes, -⟩ := schema_eq_ok_accept_iff.mp accepted
        exact form_present here noAbsence.here repeatsParts
          (fun inner member => (inWrapped inner member).2.2 (noAbsence.wrapped member))
          (fun target resolved isLazy resolves =>
            (inResolved target resolved isLazy resolves).2.2 (noAbsence.resolved isLazy resolves))
          comes absent

end Evaluation

/-- The data that a value is accepted as is accepted again as it is: for schemas of repeatable forms
with any refinements, to any depth. -/
theorem safeParse_again {limit : Nat} {schema : Schema} {environment : Environment}
    {input data : Value}
    (repeatable : schema.Everywhere environment fun target => target.form.IsRepeatable environment)
    (accepted : (schema.safeParseWithin limit environment input).outcome = .ok (.accepted data)) :
    (schema.safeParseWithin limit environment data).outcome = .ok (.accepted data) := by
  rw [safeParseWithin_eq_accepted_iff] at accepted ⊢
  exact (Evaluation.within_again repeatable limit).1 input data accepted

/-- Tuples in a record come out as lists, and the record as an unchangeable mapping, which is accepted
again. -/
theorem safeParse_again_frozen_record :
    let name : Schema := .anonymous (.text Schema.freeText)
    let names : Schema := .anonymous (.array name none none)
    let grouping : Schema := ⟨none, [⟨.onValues ⟨.truthy, false⟩, "empty"⟩], .null, .record name names⟩
    let groups : Schema := .anonymous (.readonly grouping)
    let grouped : Value := .frozenMapping [(.text "a", .list [.text "b"])]
    (groups.safeParseWithin 4 ⟨[], none⟩ (.mapping [(.text "a", .tuple [.text "b"])])).outcome =
        .ok (.accepted grouped) ∧
      (groups.safeParseWithin 4 ⟨[], none⟩ grouped).outcome = .ok (.accepted grouped) := by
  intro name names grouping groups grouped
  have ofName : name.Everywhere ⟨[], none⟩ fun target => target.form.IsRepeatable ⟨[], none⟩ :=
    .of_leaf (fun protocols isUrl => by cases isUrl) rfl fun target isLazy => by cases isLazy
  have ofNames : names.Everywhere ⟨[], none⟩ fun target => target.form.IsRepeatable ⟨[], none⟩ :=
    .of_single trivial rfl (fun target isLazy => by cases isLazy) ofName
  have repeatable : groups.Everywhere ⟨[], none⟩ fun target =>
      target.form.IsRepeatable ⟨[], none⟩ := by
    have takes : grouping.TakesFrozen ⟨[], none⟩ := by
      refine ⟨fun value member => (by cases member),
        fun function message isCustom => (by cases isCustom), fun _ refinement member => ?_⟩
      rw [List.mem_singleton.mp member]
      exact UserFunction.ignoresFreezing_onValues _
    have bare : grouping.WrapsOnly ⟨[], none⟩ (Schema.TakesFrozen ⟨[], none⟩) :=
      .of_bare takes rfl (fun target isLazy => by cases isLazy)
    refine .of_single bare rfl (fun target isLazy => by cases isLazy) ?_
    refine .of_parts trivial (fun target isLazy => by cases isLazy) fun part isPart => ?_
    rcases List.mem_pair.mp isPart with rfl | rfl
    · exact ofName
    · exact ofNames
  have accepted : (groups.safeParseWithin 4 ⟨[], none⟩
      (.mapping [(.text "a", .tuple [.text "b"])])).outcome = .ok (.accepted grouped) := by cbv
  exact ⟨accepted, safeParse_again repeatable accepted⟩

/-- A listed list that becomes a tuple is refused the second time. -/
theorem not_safeParse_again_frozen_literal :
    ¬∀ (limit : Nat) (schema : Schema) (environment : Environment) (input data : Value),
      (schema.Everywhere environment fun target => match target.form with
        | .readonly _ | .prefault .. => True
        | form => form.IsRepeatable environment) →
      (schema.safeParseWithin limit environment input).outcome = .ok (.accepted data) →
      (schema.safeParseWithin limit environment data).outcome = .ok (.accepted data) := by
  intro again
  let pair : Schema := .anonymous (.literal [.list [.integer 1, .integer 2]])
  let frozen : Schema := .anonymous (.readonly pair)
  have repeatable : frozen.Everywhere ⟨[], none⟩ fun target => match target.form with
      | .readonly _ | .prefault .. => True
      | form => form.IsRepeatable ⟨[], none⟩ :=
    .of_single trivial rfl (fun target isLazy => by cases isLazy)
      (.of_leaf trivial rfl fun target isLazy => by cases isLazy)
  have accepted : (frozen.safeParseWithin 2 ⟨[], none⟩ (.list [.integer 1, .integer 2])).outcome =
      .ok (.accepted (.tuple [.integer 1, .integer 2])) := by cbv
  have acceptedAgain :=
    safeParseWithin_eq_accepted_iff.mp (again 2 frozen ⟨[], none⟩ _ _ repeatable accepted)
  obtain ⟨ofReadonly, -⟩ := Evaluation.schema_eq_ok_accept_iff.mp acceptedAgain
  obtain ⟨payload, ofPair, isFrozen⟩ := (except_map_eq_ok_iff _ _ _).mp ofReadonly
  obtain ⟨thawed, rfl, -⟩ := (Evaluation.freezeClean_eq_accept_iff _ _).mp isFrozen
  obtain ⟨ofLiteral, -⟩ := Evaluation.schema_eq_ok_accept_iff.mp ofPair
  have listed : Leaf.literal [.list [.integer 1, .integer 2]] (.tuple [.integer 1, .integer 2]) =
      .accept thawed := Except.ok.inj ofLiteral
  have differs : ([Value.list [.integer 1, .integer 2]].any fun expected =>
      Value.sameLiteral expected (.tuple [.integer 1, .integer 2])) = false := by cbv
  rw [Leaf.literal, differs] at listed
  cases listed

end TypedTables
