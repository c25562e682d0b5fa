import TypedTables.Proofs.Validation.Objects
import TypedTables.Proofs.Validation.Unions

/-!
# Deeper limits

A run that settles is not changed by a greater limit on its depth: the same events happen, and the
same is awaited. Everything that it runs settles as well, and so is not changed either.
-/

namespace TypedTables

section Congruence

variable {α β : Type}

theorem Traced.andThen_congr {first : Traced α} {next other : α → Traced β}
    (same : ∀ value, first.outcome = .ok value → next value = other value) :
    first.andThen next = first.andThen other := by
  rcases first with ⟨events, outcome⟩
  cases outcome with
  | error cause => rfl
  | ok value => rw [Traced.andThen_ok, Traced.andThen_ok, same value rfl]

theorem Deferred.map_congr {deferred : Deferred α} {next other : α → Traced β}
    (same : ∀ value, deferred.outcome = .ok value → next value = other value) :
    deferred.map next = deferred.map other := by
  rcases deferred with ⟨events, finish, outcome⟩
  cases outcome with
  | error cause => rfl
  | ok value => simp only [Deferred.map, same value rfl]

theorem Progress.andThen_congr {progress : Progress α} {next other : α → Traced (Progress β)}
    (same : ∀ value, progress.settled = .ok value → next value = other value) :
    progress.andThen next = progress.andThen other := by
  cases progress with
  | ready value => exact same value rfl
  | pending deferred =>
      simp only [Progress.andThen]
      rw [Deferred.map_congr fun value brings => by rw [same value brings]]

theorem Traced.forEach_congr {items : List α} {action other : α → Traced β}
    (same : ∀ item ∈ items, action item = other item) :
    forEach items action = forEach items other := by
  induction items with
  | nil => rfl
  | cons item rest ih =>
      rw [forEach, forEach, same item (by simp), ih fun next member => same next (by simp [member])]

end Congruence

/-- Whatever settles under one way to run schemas runs the same under the other. -/
def Validator.Extends (further validate : Validator) : Prop :=
  ∀ schema input payload, validate.alone schema input = .ok payload →
    further schema input = validate schema input

section Extending

variable {validate further : Validator}

theorem Validator.Extends.fanOut_eq (extending : further.Extends validate) {jobs : List Job}
    {done : List (Entry Payload)} (alone : Evaluation.parts validate.alone jobs = .ok done) :
    fanOut further jobs = fanOut validate jobs := by
  refine Traced.forEach_congr fun job member => ?_
  obtain ⟨entry, brings⟩ := exists_ok_of_mapM_eq_ok alone member
  obtain ⟨payload, settles, -⟩ := (except_map_eq_ok_iff _ _ _).mp brings
  rw [extending job.schema job.input payload settles]

theorem Validator.Extends.fanOut_join_eq (extending : further.Extends validate) {jobs : List Job}
    {assemble : List (Entry Payload) → Except Fault Payload} {payload : Payload}
    (settles : ((fanOut validate jobs).andThen fun results =>
      joinEntries results assemble).settled = .ok payload) :
    fanOut further jobs = fanOut validate jobs := by
  obtain ⟨done, alone, -⟩ := (settled_fanOut_joinEntries_eq_ok_iff jobs assemble payload).mp settles
  exact extending.fanOut_eq alone

namespace Container

variable {input : Value} {payload : Payload}

theorem object_eq_of_extends (extending : further.Extends validate) {shape : List (String × Schema)}
    {catchall : Option Schema}
    (settles : (object validate shape catchall input).settled = .ok payload) :
    object further shape catchall input = object validate shape catchall input := by
  have evaluated := (settled_object_eq_ok_iff shape catchall input payload).mp settles
  unfold object Evaluation.object at *
  cases mapping : input.entries? with
  | none => rfl
  | some entries =>
      simp only [mapping] at evaluated
      obtain ⟨done, alone, -⟩ := (except_bind_eq_ok_iff _ _ _).mp evaluated
      simp only [extending.fanOut_eq alone]

theorem array_eq_of_extends (extending : further.Extends validate) {element : Schema}
    {least most : Option Value}
    (settles : (array validate element least most input).settled = .ok payload) :
    array further element least most input = array validate element least most input := by
  unfold array at *
  cases isItems : input.items? with
  | none => rfl
  | some items =>
      simp only [isItems] at settles
      refine Traced.andThen_congr fun sizes found => ?_
      rw [Traced.settled_andThen, found] at settles
      rw [extending.fanOut_join_eq settles]

theorem tuple_eq_of_extends (extending : further.Extends validate) {items : List Schema}
    {rest : Option Schema} (settles : (tuple validate items rest input).settled = .ok payload) :
    tuple further items rest input = tuple validate items rest input := by
  unfold tuple at *
  cases isItems : input.items? with
  | none => rfl
  | some values =>
      simp only [isItems] at settles
      dsimp only
      split
      · rfl
      · split
        · rfl
        · rename_i enough fits
          rw [if_neg enough, if_neg fits] at settles
          rw [extending.fanOut_join_eq settles]

theorem set_eq_of_extends (extending : further.Extends validate) {element : Schema}
    {least most : Option Value}
    (settles : (set validate element least most input).settled = .ok payload) :
    set further element least most input = set validate element least most input := by
  unfold set at *
  cases isMembers : input.members? with
  | none => rfl
  | some members =>
      simp only [isMembers] at settles
      refine Traced.andThen_congr fun sizes found => ?_
      rw [Traced.settled_andThen, found] at settles
      rw [extending.fanOut_join_eq settles]

theorem keyed_eq_of_extends (extending : further.Extends validate) {label : String}
    {key value : Schema}
    (settles : (keyed validate label key value input).settled = .ok payload) :
    keyed further label key value input = keyed validate label key value input := by
  unfold keyed at *
  cases mapping : input.entries? with
  | none => rfl
  | some entries =>
      simp only [mapping] at settles
      dsimp only
      rw [extending.fanOut_join_eq settles]

end Container

namespace Combination

variable {input : Value}

theorem intersection_eq_of_extends (extending : further.Extends validate) {left right : Schema}
    {payload : Payload} (settles : (intersection validate left right input).settled = .ok payload) :
    intersection further left right input = intersection validate left right input := by
  unfold intersection at *
  rw [extending.fanOut_join_eq settles]

/-- While answers settle, an option that was run settles on its own: it ends the trial, or its
answer is joined with the others in the end. -/
theorem exists_settled_of_tryOptions {option : Schema} {rest : List Schema} {index : Nat}
    {answers : List (Entry (Progress Payload))} {outcome : Payload}
    (settles : (tryOptions validate input (option :: rest) index answers).settled = .ok outcome) :
    ∃ payload, validate.alone option input = .ok payload := by
  by_cases atOnce : AnswersAtOnce validate input option
  · obtain ⟨payload, brought⟩ := atOnce
    exact ⟨payload, (exists_answer_iff option payload).mpr ⟨_, brought, rfl⟩⟩
  · obtain ⟨answer, brought, remaining⟩ :=
      (settled_tryOptions_cons_iff (.inr atOnce) outcome).mp settles
    have waiting : IsWaiting (answers ++ [optionEntry index answer]) := by
      cases answer with
      | ready payload => exact absurd ⟨payload, brought⟩ atOnce
      | pending deferred => simp [IsWaiting, optionEntry, Progress.isPending]
    obtain ⟨done, payloads, settled, -⟩ :=
      (settled_tryOptions_waiting_iff rest (index + 1) waiting outcome).mp remaining
    obtain ⟨-, payload, -, -, last⟩ := settled_append_last settled
    exact ⟨payload, (exists_answer_iff option payload).mpr ⟨answer, brought, last⟩⟩

theorem tryOptions_eq_of_extends (extending : further.Extends validate) {options : List Schema}
    {index : Nat} {answers : List (Entry (Progress Payload))} {outcome : Payload}
    (settles : (tryOptions validate input options index answers).settled = .ok outcome) :
    tryOptions further input options index answers =
      tryOptions validate input options index answers := by
  induction options generalizing index answers with
  | nil => rfl
  | cons option rest ih =>
      obtain ⟨payload, alone⟩ := exists_settled_of_tryOptions settles
      simp only [tryOptions] at settles ⊢
      rw [extending option input payload alone]
      refine Traced.andThen_congr fun answer brought => ?_
      rw [Traced.settled_andThen, brought] at settles
      cases answer with
      | pending deferred => exact ih settles
      | ready result =>
          simp only [Except.bind] at settles ⊢
          split
          · rfl
          · rename_i goesOn
            rw [if_neg goesOn] at settles
            exact ih settles

end Combination

namespace Validation

variable {scope : ParseScope} {input : Value} {payload : Payload}

theorem runForm_eq_of_extends (extending : further.Extends validate) {form : Form Schema}
    (settles : (runForm scope validate form input).settled = .ok payload) :
    runForm scope further form input = runForm scope validate form input := by
  have afterwards {inner : Schema} {next : Payload → Traced Payload}
      (settles : (Wrapper.afterwards (validate inner input) next).settled = .ok payload) :
      further inner input = validate inner input := by
    obtain ⟨result, alone, -⟩ := exists_settled_of_andThen settles
    exact extending inner input result alone
  cases form with
  | object shape catchall => exact Container.object_eq_of_extends extending settles
  | table table => exact Container.object_eq_of_extends extending settles
  | array element least most => exact Container.array_eq_of_extends extending settles
  | set element least most => exact Container.set_eq_of_extends extending settles
  | tuple items rest => exact Container.tuple_eq_of_extends extending settles
  | record key value => exact Container.keyed_eq_of_extends extending settles
  | map key value => exact Container.keyed_eq_of_extends extending settles
  | union options => exact Combination.tryOptions_eq_of_extends extending settles
  | intersection left right => exact Combination.intersection_eq_of_extends extending settles
  | optional inner | default inner value =>
      simp only [runForm] at settles ⊢
      split
      · rfl
      · rename_i present
        rw [if_neg present] at settles
        exact extending inner input payload settles
  | nullable inner =>
      simp only [runForm] at settles ⊢
      split
      · rfl
      · rename_i present
        rw [if_neg present] at settles
        exact extending inner input payload settles
  | nonoptional inner | fallback inner value | readonly inner =>
      simp only [runForm] at settles ⊢
      rw [afterwards settles]
  | prefault inner value =>
      simp only [runForm] at settles ⊢
      split
      · rename_i absent
        rw [if_pos absent] at settles
        refine Traced.andThen_congr fun answer supplied => ?_
        rw [Traced.settled_andThen, supplied] at settles
        exact extending inner answer payload settles
      · rename_i present
        rw [if_neg present] at settles
        exact extending inner input payload settles
  | pipe source target =>
      simp only [runForm] at settles ⊢
      obtain ⟨result, alone, remaining⟩ := exists_settled_of_andThen settles
      rw [extending source input result alone]
      refine Traced.andThen_congr fun progress brought => ?_
      refine Progress.andThen_congr fun middle isMiddle => ?_
      have same : middle = result := by
        rw [Traced.settled, brought] at alone
        exact Except.ok.inj (isMiddle.symm.trans alone)
      rw [same]
      split
      · rename_i clean
        rw [if_pos clean] at remaining
        exact extending target result.value payload remaining
      · rfl
  | promise inner =>
      simp only [runForm, Wrapper.promise] at settles ⊢
      split
      · rename_i awaitable
        rw [if_pos awaitable] at settles
        refine Traced.andThen_congr fun _ allowed => Progress.andThen_congr fun value brings => ?_
        rw [Traced.settled_andThen, allowed] at settles
        have remaining : ((Progress.pending input.awaited).andThen fun value =>
          validate inner value).settled = .ok payload := settles
        rw [Progress.settled_andThen, brings] at remaining
        exact extending inner value payload remaining
      · rename_i present
        rw [if_neg present] at settles
        exact extending inner input payload settles
  | lazily target =>
      simp only [runForm] at settles ⊢
      refine Traced.andThen_congr fun resolved resolves => ?_
      rw [Traced.settled_andThen, resolves] at settles
      exact extending resolved input payload settles
  | reference tables identifier =>
      simp only [runForm, Wrapper.reference] at settles ⊢
      cases input with
      | record table value =>
          simp only at settles ⊢
          cases foreign : tables.filter fun permitted => !permitted.contains table with
          | some permitted => rfl
          | none =>
              simp only [foreign] at settles
              obtain ⟨result, alone, -⟩ := exists_settled_of_andThen settles
              simp only [extending identifier value result alone]
      | _ => rfl
  | _ => rfl

theorem runSchema_eq_of_extends (extending : further.Extends validate) {schema : Schema}
    (settles : (runSchema scope validate schema input).settled = .ok payload) :
    runSchema scope further schema input = runSchema scope validate schema input := by
  unfold runSchema at *
  dsimp only at *
  split
  · rename_i unrefined
    rw [if_pos unrefined] at settles
    exact runForm_eq_of_extends extending settles
  · rename_i refined
    rw [if_neg refined] at settles
    obtain ⟨result, formSettles, -⟩ := exists_settled_of_andThen settles
    rw [runForm_eq_of_extends extending formSettles]

end Validation

end Extending

namespace Validation

/-- One more level of depth changes nothing that settles. -/
theorem run_succ_extends (scope : ParseScope) (limit : Nat) :
    Validator.Extends (run scope (limit + 1)) (run scope limit) := by
  induction limit with
  | zero =>
      intro schema input payload settles
      cases settles
  | succ limit ih =>
      intro schema input payload settles
      exact runSchema_eq_of_extends ih settles

theorem run_extends (scope : ParseScope) {limit depth : Nat} (deeper : limit ≤ depth) :
    Validator.Extends (run scope depth) (run scope limit) := by
  induction deeper with
  | refl => exact fun _ _ _ _ => rfl
  | @step depth _ ih =>
      intro schema input payload settles
      have same := ih schema input payload settles
      have stillSettles : (run scope depth).alone schema input = .ok payload := by
        change (run scope depth schema input).settled = .ok payload
        rw [same]
        exact settles
      rw [run_succ_extends scope depth schema input payload stillSettles, same]

theorem alone_of_deeper {scope : ParseScope} {limit depth : Nat} (deeper : limit ≤ depth)
    {schema : Schema} {input : Value} {payload : Payload}
    (settles : (run scope limit).alone schema input = .ok payload) :
    (run scope depth).alone schema input = .ok payload := by
  change (run scope depth schema input).settled = .ok payload
  rw [run_extends scope deeper schema input payload settles]
  exact settles

end Validation
end TypedTables
