import TypedTables.Proofs.Schema.Recolouring
import TypedTables.Proofs.Validation.Runs

/-!
# Evaluating recoloured schemas

A recoloured schema runs the same parts on the same values as the schema itself, each of them
recoloured. So evaluating a recoloured form is evaluating the form with an evaluator that recolours
the parts first, where its own functions compute at once. A schema whose functions all compute at
once is evaluated like its recoloured copy.
-/

namespace TypedTables

def Evaluator.atOnce (evaluate : Evaluator) : Evaluator :=
  fun schema input => evaluate schema.atOnce input

def Job.atOnce (job : Job) : Job := { job with schema := job.schema.atOnce }

/-- The form whose own functions compute at once; its parts stay. -/
def Form.callsAtOnce : Form Schema → Form Schema
  | .custom check message => .custom (check.map UserFunction.atOnce) message
  | .transform mapped => .transform mapped.atOnce
  | form => form

namespace Recolouring

open Evaluation

theorem isFieldName_ofFields (shape : List (String × Schema)) (key : Value) :
    Container.isFieldName (ofFields shape) key = Container.isFieldName shape key := by
  rw [ofFields_eq_map]
  cases key <;> simp [Container.isFieldName, List.any_map, Function.comp_def]

theorem extraEntries_ofFields (shape : List (String × Schema)) (entries : List (Value × Value)) :
    Container.extraEntries (ofFields shape) entries = Container.extraEntries shape entries := by
  simp only [Container.extraEntries, isFieldName_ofFields]

theorem fieldJob_atOnce (entries : List (Value × Value)) (field : String × Schema) :
    Container.fieldJob entries (field.1, ofSchema field.2) =
      (Container.fieldJob entries field).atOnce := by
  unfold Container.fieldJob
  cases Value.find? (.text field.1) entries <;> rfl

def ofExtraKeys : Container.ExtraKeys → Container.ExtraKeys
  | .validated schema => .validated (ofSchema schema)
  | extraKeys => extraKeys

theorem ofCatchall_ofOption (catchall : Option Schema) :
    Container.ExtraKeys.ofCatchall (ofOption catchall) =
      ofExtraKeys (.ofCatchall catchall) := by
  cases catchall with
  | none => simp [ofOption, Container.ExtraKeys.ofCatchall, ofExtraKeys]
  | some schema =>
      simp only [ofOption, Container.ExtraKeys.ofCatchall, kind_ofSchema]
      cases schema.kind <;> rfl

theorem objectJobs_atOnce (shape : List (String × Schema)) (extraKeys : Container.ExtraKeys)
    (entries : List (Value × Value)) :
    Container.objectJobs (ofFields shape) (ofExtraKeys extraKeys) entries =
      (Container.objectJobs shape extraKeys entries).map Job.atOnce := by
  have fields : (ofFields shape).map (Container.fieldJob entries) =
      (shape.map (Container.fieldJob entries)).map Job.atOnce := by
    simp only [ofFields_eq_map, List.map_map]
    exact List.map_congr_left fun field _ => fieldJob_atOnce entries field
  unfold Container.objectJobs
  rw [fields, List.map_append]
  cases extraKeys <;> simp [ofExtraKeys, extraEntries_ofFields, Job.atOnce, Schema.atOnce]

theorem requiredCount_ofSchemas (items : List Schema) :
    Container.requiredCount (ofSchemas items) = Container.requiredCount items := by
  simp only [Container.requiredCount, ofSchemas_eq_map, ← List.map_reverse, List.dropWhile_map,
    List.length_map, Function.comp_def, kind_ofSchema]

theorem schemaAt_atOnce (items : List Schema) (rest : Option Schema) (index : Nat) :
    schemaAt (ofSchemas items) (ofOption rest) index = (schemaAt items rest index).atOnce := by
  simp only [schemaAt, ofSchemas_eq_map, List.getElem?_map, Schema.atOnce]
  cases items[index]? with
  | some schema => rfl
  | none => cases rest <;> simp [ofOption, Schema.anonymous, ofSchema, ofForm]

variable (evaluate : Evaluator)

theorem parts_atOnce (jobs : List Job) :
    parts evaluate (jobs.map Job.atOnce) = parts evaluate.atOnce jobs := by
  induction jobs with
  | nil => rfl
  | cons job rest ih =>
      unfold parts at ih ⊢
      rw [List.map_cons, List.mapM_cons, List.mapM_cons, ih]
      rfl

theorem object_atOnce (shape : List (String × Schema)) (catchall : Option Schema) (input : Value) :
    object evaluate (ofFields shape) (ofOption catchall) input =
      object evaluate.atOnce shape catchall input := by
  unfold object
  cases input.entries? with
  | none => rfl
  | some entries =>
      simp only [ofCatchall_ofOption, objectJobs_atOnce, parts_atOnce, extraEntries_ofFields]
      cases Container.ExtraKeys.ofCatchall catchall <;> rfl

theorem indexedJobs_atOnce (schemaAt : Nat → Schema) (values : List Value) :
    Container.indexedJobs (fun index => (schemaAt index).atOnce) values =
      (Container.indexedJobs schemaAt values).map Job.atOnce := by
  simp [Container.indexedJobs, Job.atOnce]

theorem array_atOnce (element : Schema) (least most : Option Value) (input : Value) :
    array evaluate (ofSchema element) least most input =
      array evaluate.atOnce element least most input := by
  unfold array
  cases input.items? with
  | none => rfl
  | some items =>
      have jobs := indexedJobs_atOnce (fun _ => element) items
      simp only [Schema.atOnce] at jobs
      simp only [jobs, parts_atOnce]

theorem set_atOnce (element : Schema) (least most : Option Value) (input : Value) :
    Evaluation.set evaluate (ofSchema element) least most input =
      Evaluation.set evaluate.atOnce element least most input := by
  unfold Evaluation.set
  cases input.members? with
  | none => rfl
  | some members =>
      have jobs : (members.map fun member => (⟨.null, true, ofSchema element, member⟩ : Job)) =
          (members.map fun member => ⟨.null, true, element, member⟩).map Job.atOnce := by
        simp [Job.atOnce, Schema.atOnce]
      simp only [jobs, parts_atOnce]

theorem tuple_atOnce (items : List Schema) (rest : Option Schema) (input : Value) :
    tuple evaluate (ofSchemas items) (ofOption rest) input =
      tuple evaluate.atOnce items rest input := by
  have places : schemaAt (ofSchemas items) (ofOption rest) =
      fun index => (schemaAt items rest index).atOnce := funext (schemaAt_atOnce items rest)
  have ends : (ofOption rest).isNone = rest.isNone := by
    cases rest <;> simp [ofOption]
  have size : (ofSchemas items).length = items.length := by
    rw [ofSchemas_eq_map, List.length_map]
  unfold tuple
  cases input.items? with
  | none => rfl
  | some values =>
      simp only [requiredCount_ofSchemas, ends, size, places, indexedJobs_atOnce, parts_atOnce]

theorem keyed_atOnce (label : String) (key value : Schema) (input : Value) :
    keyed evaluate label (ofSchema key) (ofSchema value) input =
      keyed evaluate.atOnce label key value input := by
  unfold keyed
  cases input.entries? with
  | none => rfl
  | some entries =>
      have jobs : Container.keyedJobs (ofSchema key) (ofSchema value) entries =
          (Container.keyedJobs key value entries).map Job.atOnce := by
        simp [Container.keyedJobs, List.map_flatMap, Job.atOnce, Schema.atOnce]
      simp only [jobs, parts_atOnce]

theorem firstAccepting_atOnce (input : Value) (options : List Schema)
    (refusals : List (List Issue)) :
    firstAccepting evaluate input (ofSchemas options) refusals =
      firstAccepting evaluate.atOnce input options refusals := by
  induction options generalizing refusals with
  | nil => simp [ofSchemas, firstAccepting]
  | cons option rest ih =>
      simp only [ofSchemas, firstAccepting, ih]
      rfl

theorem intersection_atOnce (left right : Schema) (input : Value) :
    intersection evaluate (ofSchema left) (ofSchema right) input =
      intersection evaluate.atOnce left right input := by
  unfold intersection
  rw [← parts_atOnce]
  rfl

/-- Evaluating a recoloured form: the parts are recoloured, and the functions of the form compute
at once. -/
theorem form_atOnce (environment : Environment) (form : Form Schema) (input : Value) :
    Evaluation.form environment.atOnce evaluate (ofForm form) input =
      Evaluation.form environment evaluate.atOnce form.callsAtOnce input := by
  cases form with
  | object shape catchall =>
      simp only [ofForm]
      exact object_atOnce evaluate shape catchall input
  | table described =>
      have whole := object_atOnce evaluate described.shape (some described.catchall) input
      rw [ofOption] at whole
      simp only [ofForm, Evaluation.form, shape_ofTable, catchall_ofTable, Form.callsAtOnce]
      exact whole
  | array element least most =>
      simp only [ofForm]
      exact array_atOnce evaluate element least most input
  | set element least most =>
      simp only [ofForm]
      exact set_atOnce evaluate element least most input
  | tuple items rest =>
      simp only [ofForm]
      exact tuple_atOnce evaluate items rest input
  | record key value =>
      simp only [ofForm]
      exact keyed_atOnce evaluate "record" key value input
  | map key value =>
      simp only [ofForm]
      exact keyed_atOnce evaluate "map" key value input
  | union options =>
      simp only [ofForm]
      exact firstAccepting_atOnce evaluate input options []
  | intersection left right =>
      simp only [ofForm]
      exact intersection_atOnce evaluate left right input
  | custom check message =>
      cases check <;> simp [ofForm, Form.callsAtOnce, Evaluation.form]
  | lazily target =>
      simp only [ofForm, Evaluation.form, Form.callsAtOnce, resolve_atOnce]
      cases environment.resolve target <;> rfl
  | prefault inner value =>
      simp only [ofForm]
      rfl
  | _ => simp [ofForm, Form.callsAtOnce, Evaluation.form, Evaluator.atOnce, Schema.atOnce, reference]

theorem refine_atOnce (refinements : List Refinement) (payload : Payload)
    (plain : ∀ refinement ∈ refinements, refinement.check.deferred = false) :
    refine (refinements.map Refinement.atOnce) payload = refine refinements payload := by
  have same : refinements.map Refinement.atOnce = refinements.map id := by
    apply List.map_congr_left
    intro refinement member
    have atOnce : refinement.check.atOnce = refinement.check := by
      rw [UserFunction.atOnce, ← plain refinement member]
    rw [Refinement.atOnce, atOnce, id]
  rw [same, List.map_id]

end Recolouring

/-- No refinement, transform or custom check of the schema itself is deferred. -/
structure Schema.ComputesAtOnce (schema : Schema) : Prop where
  refinements : ∀ refinement ∈ schema.refinements, refinement.check.deferred = false
  calls : schema.form.callsAtOnce = schema.form

theorem within_atOnce (environment : Environment) (limit : Nat) (schema : Schema) (input : Value)
    (computes : schema.Everywhere environment Schema.ComputesAtOnce) :
    Evaluation.within environment.atOnce limit schema.atOnce input =
      Evaluation.within environment limit schema input := by
  induction limit generalizing schema input with
  | zero => rfl
  | succ limit ih =>
      have formed : Evaluation.form environment.atOnce (Evaluation.within environment.atOnce limit)
            schema.atOnce.form input =
          Evaluation.form environment (Evaluation.within environment limit) schema.form input := by
        rw [Schema.atOnce, Recolouring.form_ofSchema, Recolouring.form_atOnce,
          computes.here.calls]
        exact Evaluation.form_eq_of_runs fun run member =>
          ih run.1 run.2 (Evaluation.everywhere_of_mem_runs computes member)
      change (Evaluation.form _ _ schema.atOnce.form input).bind _ =
        (Evaluation.form _ _ schema.form input).bind _
      rw [formed]
      congr 1
      funext payload
      rw [Schema.atOnce, Recolouring.refinements_ofSchema,
        Recolouring.refine_atOnce _ _ computes.here.refinements]

end TypedTables
