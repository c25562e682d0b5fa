import Mathlib.Order.Filter.AtTopBot.Basic
import Mathlib.Order.Filter.Finite
import TypedTables.Proofs.Schema.Cycles
import TypedTables.Proofs.Validation.Depth

/-!
# Validation ends

Lazy schemas are resolved whenever they are reached, and nothing keeps a validation from coming back
to where it was. Where every cycle goes down into the value, and none goes through a schema that may
run a part on another value, it ends all the same: from some depth on the limit makes no difference
and is not what ends the validation.
-/

namespace TypedTables

namespace Value

theorem sizeOf_lt_of_mem_entries {input : Value} {entries : List (Value × Value)}
    (holds : input.entries? = some entries) {entry : Value × Value} (member : entry ∈ entries) :
    sizeOf entry.1 < sizeOf input ∧ sizeOf entry.2 < sizeOf input := by
  have inside := List.sizeOf_lt_of_mem member
  rcases entry with ⟨key, item⟩
  simp only [Prod.mk.sizeOf_spec] at inside
  cases input with
  | mapping | frozenMapping =>
      cases holds
      simp only [mapping.sizeOf_spec, frozenMapping.sizeOf_spec]
      omega
  | _ => cases holds

theorem sizeOf_undefined_lt {input : Value} {entries : List (Value × Value)}
    (holds : input.entries? = some entries) : sizeOf Value.undefined < sizeOf input := by
  cases input with
  | mapping entries | frozenMapping entries =>
      cases entries with
      | nil => simp
      | cons entry rest =>
          simp only [mapping.sizeOf_spec, frozenMapping.sizeOf_spec, undefined.sizeOf_spec,
            List.cons.sizeOf_spec]
          omega
  | _ => cases holds

theorem sizeOf_lt_of_mem_items {input item : Value} (member : item ∈ input.items?.getD []) :
    sizeOf item < sizeOf input := by
  cases input with
  | list items | tuple items =>
      have inside := List.sizeOf_lt_of_mem (show item ∈ items from member)
      simp only [list.sizeOf_spec, tuple.sizeOf_spec]
      omega
  | _ => cases member

theorem sizeOf_lt_of_mem_members {input element : Value}
    (member : element ∈ input.members?.getD []) : sizeOf element < sizeOf input := by
  cases input with
  | set members | frozenSet members =>
      have inside := List.sizeOf_lt_of_mem (show element ∈ members from member)
      simp only [set.sizeOf_spec, frozenSet.sizeOf_spec]
      omega
  | _ => cases member

end Value

namespace Evaluation

variable {environment : Environment} {evaluate : Evaluator}

theorem sizeOf_lt_of_mem_objectRuns {shape : List (String × Schema)} {catchall : Option Schema}
    {input : Value} {job : Job} (member : job ∈ objectRuns shape catchall input) :
    sizeOf job.input < sizeOf input := by
  unfold objectRuns at member
  cases found : input.entries? with
  | none => simp [found] at member
  | some entries =>
      rw [found] at member
      rcases Container.mem_objectJobs member with ⟨field, -, rfl⟩ | ⟨extra, entry, -, present, rfl⟩
      · rcases Container.input_fieldJob entries field with absent | ⟨entry, present, same⟩
        · rw [absent]
          exact Value.sizeOf_undefined_lt found
        · rw [← same]
          exact (Value.sizeOf_lt_of_mem_entries found present).2
      · exact (Value.sizeOf_lt_of_mem_entries found present).2

/-- Every value that a form runs something on is one that the form hands on. -/
theorem hands_of_mem_runs {form : Form Schema} {input : Value} {run : Schema × Value}
    (member : run ∈ runs environment evaluate form input) : form.Hands input run.2 := by
  unfold Form.Hands
  cases form with
  | object shape catchall | table described =>
      obtain ⟨job, present, rfl⟩ := List.mem_map.mp member
      exact sizeOf_lt_of_mem_objectRuns present
  | array element least most =>
      obtain ⟨job, present, rfl⟩ := List.mem_map.mp member
      obtain ⟨index, item, found, rfl⟩ := Container.mem_indexedJobs present
      exact Value.sizeOf_lt_of_mem_items (List.mem_of_getElem? found)
  | set element least most =>
      obtain ⟨item, present, rfl⟩ := List.mem_map.mp member
      exact Value.sizeOf_lt_of_mem_members present
  | tuple items rest =>
      simp only [runs] at member
      split at member
      · cases member
      · obtain ⟨job, present, rfl⟩ := List.mem_map.mp member
        obtain ⟨index, item, found, rfl⟩ := Container.mem_indexedJobs present
        exact Value.sizeOf_lt_of_mem_items (List.mem_of_getElem? found)
  | record key value | map key value =>
      obtain ⟨job, present, rfl⟩ := List.mem_map.mp member
      obtain ⟨entry, among, either⟩ := Container.mem_keyedJobs present
      cases found : input.entries? with
      | none => simp [found] at among
      | some entries =>
          rw [found] at among
          have smaller := Value.sizeOf_lt_of_mem_entries found among
          rcases either with rfl | rfl
          · exact smaller.1
          · exact smaller.2
  | union options =>
      obtain ⟨option, -, rfl⟩ := List.mem_map.mp member
      rfl
  | intersection left right =>
      simp only [runs, List.mem_cons, List.not_mem_nil, or_false] at member
      rcases member with rfl | rfl <;> rfl
  | optional inner | default inner value | nullable inner =>
      simp only [runs] at member
      split at member
      · cases member
      · rw [List.mem_singleton.mp member]
        rfl
  | nonoptional inner | readonly inner | fallback inner value =>
      rw [List.mem_singleton.mp member]
      rfl
  | lazily target =>
      cases resolves : environment.resolve target with
      | error cause => simp [runs, resolves] at member
      | ok resolved =>
          simp only [runs, resolves] at member
          rw [List.mem_singleton.mp member]
          rfl
  | reference tables identifier =>
      cases input with
      | record table value =>
          simp only [runs] at member
          split at member
          · cases member
          · rw [List.mem_singleton.mp member]
            simp only [Form.renews, Form.descends, Bool.false_eq_true, if_false, if_true,
              Value.record.sizeOf_spec]
            omega
      | _ => cases member
  | prefault | pipe | promise => trivial
  | _ => cases member

theorem uses_of_mem_runs {schema : Schema} {input : Value} {run : Schema × Value}
    (member : run ∈ runs environment evaluate schema.form input) :
    schema.Uses environment run.1 := by
  rcases part_or_resolved_of_mem_runs member with part | ⟨target, isLazy, resolves⟩
  · exact .part part
  · exact .resolved isLazy resolves

/-- From some depth on a schema is evaluated on a value to one and the same outcome, which is not the
fault of going too deep. -/
def Settles (environment : Environment) (schema : Schema) (input : Value) : Prop :=
  ∃ outcome, InTime outcome ∧
    ∀ᶠ limit in Filter.atTop, within environment limit schema input = outcome

theorem settles_of_runs {schema : Schema} {input : Value} (ends : schema.EndsAlone)
    (evaluate : Evaluator)
    (inside : ∀ run ∈ runs environment evaluate schema.form input,
      InTime (evaluate run.1 run.2) ∧
        ∀ᶠ limit in Filter.atTop,
          within environment limit run.1 run.2 = evaluate run.1 run.2) :
    Settles environment schema input := by
  refine ⟨Evaluation.schema environment evaluate schema input,
    inTime_schema ends fun run member => (inside run member).1, ?_⟩
  have agree : ∀ᶠ limit in Filter.atTop, ∀ run ∈ runs environment evaluate schema.form input,
      within environment limit run.1 run.2 = evaluate run.1 run.2 :=
    (Filter.eventually_all_finite (List.finite_toSet _)).mpr fun run member =>
      (inside run member).2
  rw [← Filter.map_add_atTop_eq_nat 1, Filter.eventually_map]
  filter_upwards [agree] with limit same
  rw [within, Evaluation.schema, Evaluation.schema,
    form_eq_of_runs fun run member => (same run member).symm]

/-- A guarded schema settles on every value. -/
theorem settles_of_isGuarded {schema : Schema} (guarded : schema.IsGuarded environment)
    (ends : schema.Everywhere environment Schema.EndsAlone) (input : Value) :
    Settles environment schema input := by
  classical
  refine Schema.IsGuarded.induction (Settles environment) ?_ guarded input
  intro target reaches input settle
  -- Each run is evaluated to what it settles to; nothing is asked of anything else.
  let settled : Evaluator := fun schema input =>
    if settles : Settles environment schema input then settles.choose else .error .tooDeep
  refine settles_of_runs (ends target reaches) settled fun run member => ?_
  have settles := settle run.1 run.2 (uses_of_mem_runs member) (hands_of_mem_runs member)
  have same : settled run.1 run.2 = settles.choose := dif_pos settles
  rw [same]
  exact settles.choose_spec

end Evaluation

/-- Validating with a guarded schema ends on every value, in a result or in a fault: there is a depth
that it never goes beyond, whatever the limit is, as long as every user function ends and so does
building the target of every lazy schema. -/
theorem safeParse_ends {environment : Environment} {schema : Schema}
    (guarded : schema.IsGuarded environment)
    (ends : schema.Everywhere environment Schema.EndsAlone) (input : Value) :
    ∃ depth outcome, outcome ≠ .error .tooDeep ∧
      ∀ limit, depth ≤ limit →
        (schema.safeParseWithin limit environment input).outcome = outcome := by
  obtain ⟨evaluated, inTime, settles⟩ := Evaluation.settles_of_isGuarded guarded ends input
  obtain ⟨depth, same⟩ := Filter.eventually_atTop.mp settles
  refine ⟨depth, evaluated.bind ParseResult.ofPayload, ?_, fun limit beyond => ?_⟩
  · exact InTime.iff_ne.mp (inTime.bind fun payload _ => ParseResult.inTime_ofPayload payload)
  · rw [outcome_safeParseWithin, same limit beyond]

def Schema.comment : Schema :=
  let replies := anonymous (.array (anonymous (.lazily (.definition "comment"))) none none)
  anonymous (.object [("text", anonymous (.text freeText)), ("replies", replies)] none)

theorem safeParse_comment_ends :
    let environment : Environment := ⟨[("comment", Schema.comment)], none⟩
    let reply : Value := .mapping [(.text "text", .text "second"), (.text "replies", .list [])]
    let comment : Value := .mapping [(.text "text", .text "first"), (.text "replies", .list [reply])]
    Schema.comment.IsGuarded environment ∧
      Schema.comment.Everywhere environment Schema.EndsAlone ∧
      ∃ depth outcome, outcome ≠ .error .tooDeep ∧
        ∀ limit, depth ≤ limit →
          (Schema.comment.safeParseWithin limit environment comment).outcome = outcome := by
  intro environment reply comment
  let text := Schema.anonymous (.text Schema.freeText)
  let again := Schema.anonymous (.lazily (.definition "comment"))
  let replies := Schema.anonymous (.array again none none)
  have ofText (inner : Schema) : ¬text.Uses environment inner := by
    rintro (member | isLazy)
    · cases member
    · cases isLazy
  have ofAgain (inner : Schema) (uses : again.Uses environment inner) : inner = Schema.comment := by
    rcases uses with member | ⟨isLazy, resolves⟩
    · cases member
    · cases isLazy
      cases resolves
      rfl
  have reached : Schema.comment.Everywhere environment fun target =>
      target = Schema.comment ∨ target = text ∨ target = replies ∨ target = again := by
    refine .of_uses (Or.inl rfl) fun outer inner among uses => ?_
    rcases among with rfl | rfl | rfl | rfl
    · rcases uses with member | isLazy
      · rcases List.mem_pair.mp (show inner ∈ [text, replies] from member) with rfl | rfl
        · exact Or.inr (Or.inl rfl)
        · exact Or.inr (Or.inr (Or.inl rfl))
      · cases isLazy
    · exact absurd uses (ofText inner)
    · rcases uses with member | isLazy
      · exact Or.inr (Or.inr (Or.inr (List.mem_singleton.mp member)))
      · cases isLazy
    · exact Or.inl (ofAgain inner uses)
  have guarded : Schema.comment.IsGuarded environment := by
    refine .of_rank (fun target => if target.kind = .lazily then 1 else 0) ?_ ?_
    · intro target reaches inner passes
      rcases reached target reaches with rfl | rfl | rfl | rfl
      · cases passes.1
      · exact absurd passes.2 (ofText inner)
      · cases passes.1
      · rw [ofAgain inner passes.2]
        decide
    · intro target reaches
      rcases reached target reaches with rfl | rfl | rfl | rfl <;> rfl
  have ends : Schema.comment.Everywhere environment Schema.EndsAlone := by
    intro target reaches
    rcases reached target reaches with rfl | rfl | rfl | rfl
    all_goals exact ⟨by simp [Form.EndsAlone, Schema.comment, Schema.anonymous, text, replies, again],
      fun refinement member => by cases member⟩
  exact ⟨guarded, ends, safeParse_ends guarded ends comment⟩

end TypedTables
