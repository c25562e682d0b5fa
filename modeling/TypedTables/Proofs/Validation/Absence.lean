import Mathlib.Order.Filter.AtTopBot.Basic
import Mathlib.Order.Filter.Finite
import TypedTables.Proofs.FieldType.Capturing
import TypedTables.Proofs.FieldType.Independence
import TypedTables.Proofs.Validation.Idempotence

/-!
# Absence and defaults

The default in the definition of a field is the one that lowering captures; the value for an absent
field is the one that validation puts in its place. The two agree when absence gets to the captured
default and the default gets back out: no schema on the way answers absence itself or changes the
default, and no option of a union before it takes absence.
-/

namespace TypedTables

open Wrapper (freeze)

/-- The form hands absence on to the schema with the default, and the default out again as it is. -/
def Form.Conducts (value : Value) : Form Schema → Prop
  | .optional _ | .prefault .. => False
  | .default _ own => own.isCallable = false ∧ own.isUndefined = false
  | .readonly _ => freeze value = value
  | _ => True

/-- Neither the form nor the refinements of the schema stand between absence and the default. -/
structure Schema.Conducts (value : Value) (schema : Schema) : Prop where
  form : schema.form.Conducts value
  approved : ∀ refinement ∈ schema.refinements, refinement.check.Approves value

/-- From some depth on, validation rejects an absent value. -/
def Schema.RefusesAbsence (environment : Environment) (schema : Schema) : Prop :=
  ∀ᶠ limit in Filter.atTop, ∃ issues message,
    (schema.safeParseWithin limit environment .undefined).outcome = .ok (.rejected issues message)

namespace Evaluation

variable {environment : Environment} {evaluate : Evaluator} {value : Value}

def Refuses (evaluate : Evaluator) (schema : Schema) (input : Value) : Prop :=
  ∃ payload, evaluate schema input = .ok payload ∧ payload.isClean = false

theorem firstAccepting_of_refused {earlier later : List Schema} {option : Schema} {input : Value}
    (refused : ∀ other ∈ earlier, Refuses evaluate other input)
    (accepted : evaluate option input = .ok (.accept value)) (refusals : List (List Issue)) :
    firstAccepting evaluate input (earlier ++ option :: later) refusals = .ok (.accept value) := by
  induction earlier generalizing refusals with
  | nil =>
      rw [List.nil_append, firstAccepting, accepted]
      rfl
  | cons other rest ih =>
      obtain ⟨payload, evaluates, unclean⟩ := refused other (by simp)
      rw [List.cons_append, firstAccepting, evaluates]
      change (if payload.isClean then _ else _) = _
      rw [unclean]
      exact ih (fun option member => refused option (by simp [member])) _

theorem form_of_conducts {form : Form Schema} {inner : Schema} {earlier later : List Schema}
    (none : form.staticDefault? = none) (parts : form.wrapped = earlier ++ inner :: later)
    (conducts : form.Conducts value) (present : value.isUndefined = false)
    (refused : ∀ option ∈ earlier, Refuses evaluate option .undefined)
    (supplied : evaluate inner .undefined = .ok (.accept value)) :
    Evaluation.form environment evaluate form .undefined = .ok (.accept value) := by
  have only {other : Schema} (single : [other] = earlier ++ inner :: later) :
      evaluate other .undefined = .ok (.accept value) := by
    obtain ⟨-, same⟩ : earlier = [] ∧ [other] = inner :: later := by
      cases earlier with
      | nil => exact ⟨rfl, single⟩
      | cons first rest => simp at single
    rw [(List.cons.inj same).1]
    exact supplied
  cases form with
  | optional | prefault => exact conducts.elim
  | default outer own =>
      rw [Form.staticDefault?, conducts.1, conducts.2] at none
      cases none
  | nullable outer => exact only parts
  | nonoptional outer =>
      exact (except_map_eq_ok_iff _ _ _).mpr
        ⟨_, only parts, (demandPresent_eq_accept_iff _ _).mpr ⟨rfl, present⟩⟩
  | fallback outer replacement =>
      rw [Evaluation.form, only parts]
      rfl
  | readonly outer =>
      exact (except_map_eq_ok_iff _ _ _).mpr
        ⟨_, only parts, (freezeClean_eq_accept_iff _ _).mpr ⟨value, rfl, conducts.symm⟩⟩
  | union options =>
      rw [Evaluation.form, show options = earlier ++ inner :: later from parts]
      exact firstAccepting_of_refused refused supplied []
  | _ => cases List.append_eq_nil_iff.mp parts.symm |>.2

end Evaluation

/-- Where nothing stands between absence and the default that a schema leads to, an absent value is
evaluated to that default, to any depth from some depth on. -/
theorem Schema.LeadsTo.supplies {environment : Environment} {value : Value} {schema : Schema}
    {ancestors : List Ancestor} {around before : List Schema}
    (leads : schema.LeadsTo environment value ancestors around before)
    (conducts : ∀ outer ∈ around, outer.Conducts value)
    (refuse : ∀ option ∈ before, option.RefusesAbsence environment) :
    ∀ᶠ limit in Filter.atTop,
      Evaluation.within environment limit schema .undefined = .ok (.accept value) := by
  induction leads with
  | @here _ schema static =>
      obtain ⟨inner, isDefault, given, -⟩ := Form.staticDefault?_eq_some static
      rw [← Filter.map_add_atTop_eq_nat 1, Filter.eventually_map]
      refine .of_forall fun limit => ?_
      refine Evaluation.schema_eq_ok_accept_iff.mpr ⟨?_, Or.inr (conducts schema (by simp)).approved⟩
      rw [isDefault, Evaluation.form, Wrapper.supplied, given]
      rfl
  | @wrapped _ schema inner earlier later around before none parts _ further ih =>
      have inside := ih (fun outer member => conducts outer (by simp [member]))
        fun option member => refuse option (by simp [member])
      have refused : ∀ᶠ limit in Filter.atTop, ∀ option ∈ earlier,
          Evaluation.Refuses (Evaluation.within environment limit) option .undefined := by
        refine (Filter.eventually_all_finite earlier.finite_toSet).mpr fun option member => ?_
        refine (refuse option (List.mem_append_left _ member)).mono fun limit rejects => ?_
        obtain ⟨issues, message, rejected⟩ := rejects
        obtain ⟨payload, evaluates, unclean, -⟩ := exists_within_of_rejected rejected
        exact ⟨payload, evaluates, unclean⟩
      rw [← Filter.map_add_atTop_eq_nat 1, Filter.eventually_map]
      filter_upwards [inside, refused] with limit supplied refuses
      obtain ⟨form, approved⟩ := conducts schema (by simp)
      exact Evaluation.schema_eq_ok_accept_iff.mpr ⟨Evaluation.form_of_conducts none parts form
        further.isUndefined_eq_false refuses supplied, Or.inr approved⟩
  | @resolved _ schema _ _ around before isLazy resolves _ _ ih =>
      have inside := ih (fun outer member => conducts outer (by simp [member])) refuse
      rw [← Filter.map_add_atTop_eq_nat 1, Filter.eventually_map]
      filter_upwards [inside] with limit supplied
      refine Evaluation.schema_eq_ok_accept_iff.mpr
        ⟨?_, Or.inr (conducts schema (by simp)).approved⟩
      rw [isLazy]
      exact (except_bind_eq_ok_iff _ _ _).mpr ⟨_, resolves, supplied⟩

/-- The default that a field is defined with is the value that validation puts in place of an absent
one, where nothing on the way to it stands between: whatever tables are registered or being defined,
and below any ancestors. -/
theorem Schema.accepts_default_of_lowered {schema : Schema} {scope : LoweringScope}
    {ancestors : List Ancestor} {field : LoweredField}
    (unmapped : schema.WrapsOnly scope.environment fun target => target.form.IsUnmapped)
    (lowers : (schema.lowered scope ancestors).outcome = .ok field)
    (hasDefault : field.hasDefault = true)
    (conducts : ∀ around before,
      schema.LeadsTo scope.environment field.default ancestors around before →
        (∀ outer ∈ around, outer.Conducts field.default) ∧
          ∀ option ∈ before, option.RefusesAbsence scope.environment) :
    ∀ᶠ limit in Filter.atTop, (schema.safeParseWithin limit scope.environment .undefined).outcome =
      .ok (.accepted field.default) := by
  obtain ⟨around, before, leads⟩ := Schema.exists_leadsTo_of_lowered unmapped lowers hasDefault
  obtain ⟨through, refuse⟩ := conducts around before leads
  filter_upwards [leads.supplies through refuse] with limit supplied
  exact safeParseWithin_eq_accepted_iff.mpr supplied

/-- A number or a name, which may be null: the number refuses absence, the name has a default. -/
theorem Schema.accepts_default_of_lowered_choice :
    let number : Schema := .anonymous (.number Schema.anyNumber)
    let name : Schema := .anonymous (.default (.anonymous (.text Schema.freeText)) (.text "guest"))
    let choice : Schema := .anonymous (.union [number, .anonymous (.nullable name)])
    let field : LoweredField := ⟨[.number, .string, .null], false, .text "guest", []⟩
    (choice.lowered ⟨⟨[], none⟩, []⟩ []).outcome = .ok field ∧ field.hasDefault = true ∧
      ∀ᶠ limit in Filter.atTop, (choice.safeParseWithin limit ⟨[], none⟩ .undefined).outcome =
        .ok (.accepted (.text "guest")) := by
  intro number name choice field
  let orNull : Schema := .anonymous (.nullable name)
  have unmapped : choice.Everywhere ⟨[], none⟩ fun target => target.form.IsUnmapped := by
    refine .of_parts trivial (fun target isLazy => by cases isLazy) fun part member => ?_
    rcases List.mem_pair.mp member with rfl | rfl
    · exact .of_leaf trivial rfl fun target isLazy => by cases isLazy
    · exact .of_single trivial rfl (fun target isLazy => by cases isLazy)
        (.of_single trivial rfl (fun target isLazy => by cases isLazy)
          (.of_leaf trivial rfl fun target isLazy => by cases isLazy))
  have lowers : (choice.lowered ⟨⟨[], none⟩, []⟩ []).outcome = .ok field := by
    let place : LoweringPlace := ⟨[], [], true⟩
    have start : LoweringState.ofField [] = place.holding .nothing := rfl
    have ends : Lowering.enter ⟨⟨[], none⟩, []⟩ choice (place.holding .nothing) =
        (.ok (), place.holding ⟨[.number, .string, .null], [], .text "guest", false, []⟩) := by
      refine (Lowering.enter_union_eq_ok_iff (by simp [Environment.IsIdentified]) rfl _ _).mpr
        ⟨rfl, [{ Collected.nothing with type := [.number] },
          { Collected.nothing with type := [.string, .null], default := .text "guest" }], ?_, rfl⟩
      exact .cons rfl (.cons rfl .nil)
    rw [Schema.lowered, start, ends]
    rfl
  have refuses : number.RefusesAbsence ⟨[], none⟩ := by
    unfold Schema.RefusesAbsence
    rw [← Filter.map_add_atTop_eq_nat 1, Filter.eventually_map]
    exact .of_forall fun limit => ⟨_, _, rfl⟩
  have leads : choice.LeadsTo ⟨[], none⟩ (.text "guest") [] [choice, orNull, name] [number] := by
    have ofName : name.LeadsTo ⟨[], none⟩ (.text "guest") [none, none] [name] [] := .here rfl
    have ofOrNull : orNull.LeadsTo ⟨[], none⟩ (.text "guest") [none] [orNull, name] [] :=
      .wrapped rfl (show orNull.form.wrapped = [] ++ name :: [] from rfl)
        (fun option member => by cases member) ofName
    refine .wrapped rfl (show choice.form.wrapped = [number] ++ orNull :: [] from rfl)
      (fun option member => ?_) ofOrNull
    rw [List.mem_singleton.mp member]
    exact .of_leaf rfl rfl (by simp [number, Schema.anonymous])
  have conducts (around before : List Schema)
      (leadsAlso : choice.LeadsTo ⟨[], none⟩ (.text "guest") [] around before) :
      (∀ outer ∈ around, outer.Conducts (.text "guest")) ∧
        ∀ option ∈ before, option.RefusesAbsence ⟨[], none⟩ := by
    obtain ⟨-, rfl, rfl⟩ := leads.unique leadsAlso
    have plain (outer : Schema) (form : outer.form.Conducts (.text "guest"))
        (none : outer.refinements = []) : outer.Conducts (.text "guest") :=
      ⟨form, by simp [none]⟩
    refine ⟨fun outer member => ?_, fun option member => ?_⟩
    · rcases List.mem_cons.mp member with rfl | inside
      · exact plain _ trivial rfl
      · rcases List.mem_pair.mp inside with rfl | rfl
        · exact plain _ trivial rfl
        · exact plain _ ⟨rfl, rfl⟩ rfl
    · rw [List.mem_singleton.mp member]
      exact refuses
  exact ⟨lowers, rfl,
    Schema.accepts_default_of_lowered (.of_everywhere unmapped) lowers rfl conducts⟩

/-- A schema that takes absence as it is keeps the default inside of it from an absent value. -/
theorem Schema.not_accepts_default_of_lowered_optional :
    ¬∀ (schema : Schema) (scope : LoweringScope) (field : LoweredField),
      (schema.Everywhere scope.environment fun target => target.form.IsUnmapped) →
      (schema.lowered scope []).outcome = .ok field → field.hasDefault = true →
      ∀ᶠ limit in Filter.atTop,
        (schema.safeParseWithin limit scope.environment .undefined).outcome =
          .ok (.accepted field.default) := by
  intro agrees
  let name : Schema := .anonymous (.default (.anonymous (.text Schema.freeText)) (.text "x"))
  let orAbsent : Schema := .anonymous (.optional name)
  have unmapped : orAbsent.Everywhere ⟨[], none⟩ fun target => target.form.IsUnmapped :=
    .of_single trivial rfl (fun target isLazy => by cases isLazy)
      (.of_single trivial rfl (fun target isLazy => by cases isLazy)
        (.of_leaf trivial rfl fun target isLazy => by cases isLazy))
  have lowers : (orAbsent.lowered ⟨⟨[], none⟩, []⟩ []).outcome =
      .ok ⟨[.string, .none], false, .text "x", []⟩ := rfl
  have agreed := agrees orAbsent ⟨⟨[], none⟩, []⟩ _ unmapped lowers rfl
  obtain ⟨limit, accepted, positive⟩ := (agreed.and (Filter.eventually_ge_atTop 1)).exists
  cases limit with
  | zero => cases positive
  | succ limit =>
      have absent : (orAbsent.safeParseWithin (limit + 1) ⟨[], none⟩ .undefined).outcome =
          .ok (.accepted .undefined) := rfl
      cases absent.symm.trans accepted

end TypedTables
