import Mathlib.Data.List.Nodup
import TypedTables.Proofs.Validation.Jobs

/-!
# What unions come to

A union takes the first option that accepts. While its options answer at once, those after the
accepting one are never run. From the first awaited answer on all options are run and awaited
together, and the choice is made when every answer is there: an option that ends in a fault then
ends the union, although it comes after one that accepts, and so does an awaitable value that two of
the options await.
-/

namespace TypedTables.Combination

section Trying

variable {validate : Validator} {input : Value}

/-- The answer of an option is there without being awaited. -/
def AnswersAtOnce (validate : Validator) (input : Value) (option : Schema) : Prop :=
  ∃ payload, (validate option input).outcome = .ok (.ready payload)

/-- An option settles to a result with issues. -/
def Refuses (validate : Validator) (input : Value) (option : Schema) : Prop :=
  ∃ refusal, validate.alone option input = .ok refusal ∧ refusal.isClean = false

/-- An option run alone comes to a result with issues. -/
def Rejects (validate : Validator) (input : Value) (option : Schema) : Prop :=
  ∃ refusal, (validate option input).concluded = .ok refusal ∧ refusal.isClean = false

theorem Rejects.refuses {option : Schema} (rejects : Rejects validate input option) :
    Refuses validate input option :=
  rejects.imp fun _ => And.imp_left Traced.settled_of_concluded

/-- All of these results have issues. -/
def AllRefused (entries : List (Entry Payload)) : Prop :=
  ∀ entry ∈ entries, entry.result.isClean = false

def optionEntry {ρ : Type} (index : Nat) (result : ρ) : Entry ρ :=
  ⟨.integer (Int.ofNat index), true, result⟩

def optionEntries (index : Nat) : List Payload → List (Entry Payload)
  | [] => []
  | payload :: rest => optionEntry index payload :: optionEntries (index + 1) rest

/-! ## Choosing -/

theorem mem_optionEntries {index : Nat} {payloads : List Payload} {entry : Entry Payload}
    (member : entry ∈ optionEntries index payloads) : entry.result ∈ payloads := by
  induction payloads generalizing index with
  | nil => simp [optionEntries] at member
  | cons payload rest ih =>
      rcases List.mem_cons.mp member with rfl | later
      · exact List.mem_cons_self
      · exact List.mem_cons_of_mem _ (ih later)

theorem optionEntries_append (index : Nat) (first second : List Payload) :
    optionEntries index (first ++ second) =
      optionEntries index first ++ optionEntries (index + first.length) second := by
  induction first generalizing index with
  | nil => rfl
  | cons payload rest ih =>
      rw [List.cons_append, optionEntries, optionEntries, ih, List.cons_append, List.length_cons,
        Nat.add_right_comm, Nat.add_assoc]

theorem map_issues_optionEntries (index : Nat) (payloads : List Payload) :
    (optionEntries index payloads).map (fun entry => entry.result.issues) =
      payloads.map Payload.issues := by
  induction payloads generalizing index with
  | nil => rfl
  | cons payload rest ih =>
      rw [optionEntries, List.map_cons, List.map_cons, ih]
      rfl

theorem AllRefused.nil : AllRefused [] := by simp [AllRefused]

theorem AllRefused.append_entries {refused : List (Entry Payload)} {refusals : List Payload}
    (allRefused : AllRefused refused) (allRefusals : ∀ refusal ∈ refusals, refusal.isClean = false)
    (index : Nat) : AllRefused (refused ++ optionEntries index refusals) := by
  intro entry member
  rcases List.mem_append.mp member with earlier | later
  · exact allRefused entry earlier
  · exact allRefusals _ (mem_optionEntries later)

theorem AllRefused.append_entry {refused : List (Entry Payload)} {refusal : Payload}
    (allRefused : AllRefused refused) (isRefused : refusal.isClean = false) (index : Nat) :
    AllRefused (refused ++ [optionEntry index refusal]) :=
  allRefused.append_entries (List.forall_mem_singleton.mpr isRefused) index

theorem choose_of_first {refused : List (Entry Payload)} {winner : Entry Payload}
    (allRefused : AllRefused refused)
    (clean : winner.result.isClean = true) (others : List (Entry Payload)) :
    choose input (refused ++ winner :: others) = .accept winner.result.value := by
  have notFound : refused.find? (fun entry => entry.result.isClean) = none := by
    simpa [AllRefused] using allRefused
  simp [choose, List.find?_append, notFound, clean]

/-- Without an answer without issues the issues of all answers are reported. -/
theorem choose_of_refused {refused : List (Entry Payload)}
    (allRefused : AllRefused refused) :
    choose input refused = .reject input
      { Issue.plain .invalidUnion "Invalid input" input with
        errors := some (refused.map fun entry => entry.result.issues) } := by
  have notFound : refused.find? (fun entry => entry.result.isClean) = none := by
    simpa [AllRefused] using allRefused
  rw [choose, notFound]

/-! ## Trying options -/

theorem exists_answer_iff (option : Schema) (payload : Payload) :
    validate.alone option input = .ok payload ↔
      ∃ answer, (validate option input).outcome = .ok answer ∧ answer.settled = .ok payload :=
  except_bind_eq_ok_iff _ _ _

theorem eq_of_brought {option : Schema} {payload result : Payload}
    (brought : (validate option input).outcome = .ok (.ready payload))
    (settles : validate.alone option input = .ok result) : payload = result := by
  rw [Validator.alone, Traced.settled, brought] at settles
  exact Except.ok.inj settles

/-- Some answer of these is awaited. -/
def IsWaiting (answers : List (Entry (Progress Payload))) : Prop :=
  answers.any (fun earlier => earlier.result.isPending) = true

/-- While an answer is awaited, or when the next one is, the next option does not end the trial. -/
theorem outcome_tryOptions_cons {option : Schema} {answer : Progress Payload}
    {answers : List (Entry (Progress Payload))}
    (brought : (validate option input).outcome = .ok answer)
    (awaited : IsWaiting answers ∨ answer.isPending = true) (rest : List Schema) (index : Nat) :
    (tryOptions validate input (option :: rest) index answers).outcome =
      (tryOptions validate input rest (index + 1)
        (answers ++ [optionEntry index answer])).outcome := by
  rw [tryOptions, Traced.outcome_andThen, brought]
  cases answer with
  | pending deferred => rfl
  | ready payload =>
      have waiting : IsWaiting answers := awaited.resolve_right Bool.false_ne_true
      simp [Except.bind, show answers.any _ = true from waiting, optionEntry]

theorem settled_tryOptions_cons_iff {option : Schema} {rest : List Schema} {index : Nat}
    {answers : List (Entry (Progress Payload))}
    (awaited : IsWaiting answers ∨ ¬AnswersAtOnce validate input option) (outcome : Payload) :
    (tryOptions validate input (option :: rest) index answers).settled = .ok outcome ↔
      ∃ answer, (validate option input).outcome = .ok answer ∧
        (tryOptions validate input rest (index + 1)
          (answers ++ [optionEntry index answer])).settled = .ok outcome := by
  cases brought : (validate option input).outcome with
  | error cause => simp [tryOptions, Traced.settled_andThen, brought, Except.bind]
  | ok answer =>
      have isPending (now : ¬AnswersAtOnce validate input option) : answer.isPending = true := by
        cases answer with
        | ready payload => exact absurd ⟨payload, brought⟩ now
        | pending deferred => rfl
      simp only [Traced.settled, outcome_tryOptions_cons brought (awaited.imp_right isPending),
        Except.ok.injEq, exists_eq_left']

theorem settled_append_last {answers : List (Entry (Progress Payload))} {index : Nat}
    {answer : Progress Payload} {whole : List (Entry Payload)}
    (settled : (answers ++ [optionEntry index answer]).map Entry.settled = whole.map .ok) :
    ∃ done result, whole = done ++ [optionEntry index result] ∧
      answers.map Entry.settled = done.map .ok ∧ answer.settled = .ok result := by
  rw [List.map_append] at settled
  obtain ⟨done, last, rfl, first, second⟩ := List.append_eq_map_iff.mp settled
  cases last with
  | nil => simp at second
  | cons entry others =>
      cases others with
      | cons other more => simp at second
      | nil =>
          simp only [List.map_cons, List.map_nil, List.cons.injEq, and_true] at second
          obtain ⟨result, comes, rfl⟩ := (except_map_eq_ok_iff _ _ _).mp
            (show Except.map _ answer.settled = _ from second.symm)
          exact ⟨done, result, rfl, first.symm, comes⟩

/-- The answer of an option, put behind answers that settle, settles with them when the option does
on its own. -/
theorem exists_append_answer_iff {option : Schema} {rest : List Schema} {index : Nat}
    {answers : List (Entry (Progress Payload))} {outcome : Payload} :
    (∃ answer, (validate option input).outcome = .ok answer ∧
        ∃ done payloads,
          (answers ++ [optionEntry index answer]).map Entry.settled = done.map .ok ∧
          rest.map (validate.alone · input) = payloads.map .ok ∧
          outcome = choose input (done ++ optionEntries (index + 1) payloads)) ↔
      ∃ done payloads, answers.map Entry.settled = done.map .ok ∧
        (option :: rest).map (validate.alone · input) = payloads.map .ok ∧
        outcome = choose input (done ++ optionEntries index payloads) := by
  constructor
  · rintro ⟨answer, brought, whole, payloads, settled, alone, rfl⟩
    obtain ⟨done, result, rfl, first, last⟩ := settled_append_last settled
    have brings := (exists_answer_iff option result).mpr ⟨answer, brought, last⟩
    exact ⟨done, result :: payloads, first, by simp [brings, alone],
      by rw [List.append_assoc]; rfl⟩
  · rintro ⟨done, payloads, settled, alone, rfl⟩
    cases payloads with
    | nil => simp at alone
    | cons result others =>
        simp only [List.map_cons, List.cons.injEq] at alone
        obtain ⟨answer, brought, last⟩ := (exists_answer_iff option result).mp alone.1
        exact ⟨answer, brought, done ++ [optionEntry index result], others,
          by simp [settled, Entry.settled, optionEntry, last, Except.map, Entry.withResult],
          alone.2, by rw [List.append_assoc]; rfl⟩

/-- Once an answer is awaited, all options that are left are run, and the choice is among all
answers. The induction is on the options that are left. -/
theorem settled_tryOptions_waiting_iff (options : List Schema) (index : Nat)
    {answers : List (Entry (Progress Payload))} (waiting : IsWaiting answers) (outcome : Payload) :
    (tryOptions validate input options index answers).settled = .ok outcome ↔
      ∃ done payloads, answers.map Entry.settled = done.map .ok ∧
        options.map (validate.alone · input) = payloads.map .ok ∧
        outcome = choose input (done ++ optionEntries index payloads) := by
  induction options generalizing index answers with
  | nil =>
      rw [tryOptions, settled_joinEntries_eq_ok_iff]
      constructor
      · rintro ⟨done, settled, chosen⟩
        cases chosen
        exact ⟨done, [], settled, rfl, by simp [optionEntries]⟩
      · rintro ⟨done, payloads, settled, none, rfl⟩
        rw [List.map_eq_nil_iff.mp none.symm, optionEntries, List.append_nil]
        exact ⟨done, settled, rfl⟩
  | cons option rest ih =>
      have stillWaiting (answer : Progress Payload) :
          IsWaiting (answers ++ [optionEntry index answer]) := by
        rw [IsWaiting, List.any_append, show answers.any _ = true from waiting, Bool.true_or]
      rw [settled_tryOptions_cons_iff (.inl waiting), ← exists_append_answer_iff]
      exact exists_congr fun answer => and_congr_right fun _ => ih _ (stillWaiting answer)

/-- From an option on whose answer is awaited, all options are run, and the choice is among all
answers. -/
theorem settled_tryOptions_awaited_iff {option : Schema}
    (awaited : ¬AnswersAtOnce validate input option) (rest : List Schema) (index : Nat)
    (refused : List (Entry Payload)) (outcome : Payload) :
    (tryOptions validate input (option :: rest) index (refused.map Entry.atOnce)).settled =
        .ok outcome ↔
      ∃ payloads, (option :: rest).map (validate.alone · input) = payloads.map .ok ∧
        outcome = choose input (refused ++ optionEntries index payloads) := by
  have known : (refused.map Entry.atOnce).map Entry.settled = refused.map .ok := by
    rw [List.map_map]
    rfl
  have waiting (answer : Progress Payload) (brought : (validate option input).outcome = .ok answer) :
      IsWaiting (refused.map Entry.atOnce ++ [optionEntry index answer]) := by
    cases answer with
    | ready payload => exact absurd ⟨payload, brought⟩ awaited
    | pending deferred => simp [IsWaiting, optionEntry, Progress.isPending]
  rw [settled_tryOptions_cons_iff (.inr awaited)]
  refine (exists_congr fun answer => and_congr_right fun brought =>
    settled_tryOptions_waiting_iff rest (index + 1) (waiting answer brought) outcome).trans ?_
  rw [exists_append_answer_iff, known]
  constructor
  · rintro ⟨done, payloads, same, alone, rfl⟩
    exact ⟨payloads, alone, by rw [map_ok_injective same]⟩
  · rintro ⟨payloads, alone, rfl⟩
    exact ⟨refused, payloads, rfl, alone, rfl⟩

/-- An option that answers at once ends the trial when it accepts, and else joins the refused
ones. -/
theorem outcome_tryOptions_atOnce {option : Schema} {payload : Payload}
    (brought : (validate option input).outcome = .ok (.ready payload)) (rest : List Schema)
    (index : Nat) (refused : List (Entry Payload)) :
    (tryOptions validate input (option :: rest) index (refused.map Entry.atOnce)).outcome =
      if payload.isClean then .ok (.ready (.accept payload.value))
      else (tryOptions validate input rest (index + 1)
        ((refused ++ [optionEntry index payload]).map Entry.atOnce)).outcome := by
  have none : ((refused.map Entry.atOnce).any fun earlier => earlier.result.isPending) = false := by
    simp [Entry.atOnce, Entry.withResult, Progress.isPending]
  rw [tryOptions, Traced.outcome_andThen, brought]
  cases clean : payload.isClean <;>
    simp [Except.bind, clean, none, Entry.atOnce, Entry.withResult, optionEntry]

theorem settled_tryOptions_atOnce {option : Schema} {payload : Payload}
    (brought : (validate option input).outcome = .ok (.ready payload)) (rest : List Schema)
    (index : Nat) (refused : List (Entry Payload)) :
    (tryOptions validate input (option :: rest) index (refused.map Entry.atOnce)).settled =
      if payload.isClean then .ok (.accept payload.value)
      else (tryOptions validate input rest (index + 1)
        ((refused ++ [optionEntry index payload]).map Entry.atOnce)).settled := by
  rw [Traced.settled, outcome_tryOptions_atOnce brought]
  split <;> rfl

theorem choose_eq_firstAccepting {evaluate : Evaluator} {options : List Schema}
    {payloads : List Payload}
    (evaluated : options.map (fun option => evaluate option input) = payloads.map .ok)
    (refused : List (Entry Payload))
    (allRefused : AllRefused refused) (index : Nat) :
    Evaluation.firstAccepting evaluate input options (refused.map fun entry => entry.result.issues) =
      .ok (choose input (refused ++ optionEntries index payloads)) := by
  induction options generalizing payloads refused index with
  | nil =>
      cases payloads with
      | cons result others => simp at evaluated
      | nil =>
          rw [optionEntries, List.append_nil, choose_of_refused allRefused]
          rfl
  | cons option rest ih =>
      cases payloads with
      | nil => simp at evaluated
      | cons result others =>
          simp only [List.map_cons, List.cons.injEq] at evaluated
          rw [Evaluation.firstAccepting, evaluated.1]
          cases clean : result.isClean with
          | true =>
              have chosen : choose input
                  (refused ++ optionEntry index result :: optionEntries (index + 1) others) =
                    .accept result.value :=
                choose_of_first allRefused clean _
              rw [optionEntries, chosen]
              simp [Except.bind, clean]
          | false =>
              have further := ih evaluated.2 (refused ++ [optionEntry index result])
                (allRefused.append_entry clean index) (index + 1)
              simpa [Except.bind, clean, optionEntries, optionEntry] using further

/-- A union that settles brings what its options bring when they are run one after the other, up to
the first accepting one. The induction is on the options that are left. -/
theorem firstAccepting_of_settled {options : List Schema} {index : Nat}
    {refused : List (Entry Payload)} {payload : Payload}
    (allRefused : AllRefused refused)
    (comes : (tryOptions validate input options index (refused.map Entry.atOnce)).settled =
      .ok payload) :
    Evaluation.firstAccepting validate.alone input options
      (refused.map fun entry => entry.result.issues) = .ok payload := by
  induction options generalizing index refused with
  | nil =>
      rw [tryOptions, joinEntries_atOnce, choose_of_refused allRefused] at comes
      cases comes
      rfl
  | cons option rest ih =>
      by_cases atOnce : AnswersAtOnce validate input option
      · obtain ⟨result, brought⟩ := atOnce
        have alone := (exists_answer_iff option result).mpr ⟨_, brought, rfl⟩
        rw [settled_tryOptions_atOnce brought] at comes
        rw [Evaluation.firstAccepting, alone]
        cases clean : result.isClean with
        | true =>
            rw [if_pos clean] at comes
            simpa [Except.bind, clean] using comes
        | false =>
            rw [if_neg (by simp [clean])] at comes
            have further := ih (allRefused.append_entry clean index) comes
            simpa [Except.bind, clean, optionEntries, optionEntry] using further
      · obtain ⟨payloads, alone, rfl⟩ :=
          (settled_tryOptions_awaited_iff atOnce rest index refused payload).mp comes
        exact choose_eq_firstAccepting alone refused allRefused index

/-! ## The first accepting option -/

theorem exists_payloads_iff (options : List Schema) :
    (∃ payloads : List Payload, options.map (validate.alone · input) = payloads.map .ok) ↔
      ∀ option ∈ options, ∃ payload, validate.alone option input = .ok payload := by
  simp only [← mapM_eq_ok_iff]
  exact exists_mapM_eq_ok_iff _ _

theorem refused_of_refuses {options : List Schema} {refusals : List Payload}
    (refuses : ∀ option ∈ options, Refuses validate input option)
    (alone : options.map (validate.alone · input) = refusals.map .ok) :
    ∀ refusal ∈ refusals, refusal.isClean = false := by
  intro refusal member
  obtain ⟨option, isOption, settles⟩ :=
    exists_mem_of_mapM_eq_ok ((mapM_eq_ok_iff _ _ _).mpr alone) member
  obtain ⟨other, settlesToo, refused⟩ := refuses option isOption
  rw [settles] at settlesToo
  rw [Except.ok.inj settlesToo]
  exact refused

variable {before : List Schema} {winner : Schema} {value : Value}

/-- Where all options are run, the first accepting one is chosen, as long as those after it
settle. -/
theorem exists_choice_iff (after : List Schema) {refused : List (Entry Payload)}
    (allRefused : AllRefused refused)
    (refuses : ∀ option ∈ before, Refuses validate input option)
    (accepts : validate.alone winner input = .ok (.accept value)) (index : Nat)
    (outcome : Payload) :
    (∃ payloads, (before ++ winner :: after).map (validate.alone · input) = payloads.map .ok ∧
        outcome = choose input (refused ++ optionEntries index payloads)) ↔
      outcome = .accept value ∧
        ∀ option ∈ after, ∃ payload, validate.alone option input = .ok payload := by
  have chosen (refusals others : List Payload)
      (alone : before.map (validate.alone · input) = refusals.map .ok) :
      choose input (refused ++ optionEntries index (refusals ++ .accept value :: others)) =
        .accept value := by
    rw [optionEntries_append, ← List.append_assoc]
    exact choose_of_first
      (allRefused.append_entries (refused_of_refuses refuses alone) index) rfl _
  constructor
  · rintro ⟨payloads, alone, rfl⟩
    rw [List.map_append, List.map_cons, accepts] at alone
    obtain ⟨refusals, rest, rfl, first, second⟩ := List.append_eq_map_iff.mp alone
    cases rest with
    | nil => simp at second
    | cons payload others =>
        simp only [List.map_cons, List.cons.injEq, Except.ok.injEq] at second
        obtain ⟨rfl, last⟩ := second
        exact ⟨chosen refusals others first.symm, (exists_payloads_iff after).mp ⟨others, last.symm⟩⟩
  · rintro ⟨rfl, settles⟩
    obtain ⟨refusals, first⟩ := (exists_payloads_iff before).mpr fun option member =>
      (refuses option member).imp fun _ refused => refused.1
    obtain ⟨others, last⟩ := (exists_payloads_iff after).mpr settles
    exact ⟨refusals ++ .accept value :: others, by simp [first, accepts, last],
      (chosen refusals others first).symm⟩

/-- Options are tried up to the first accepting one. Where an answer up to there is awaited, the
options after it must settle as well. The induction is on the options before the accepting one. -/
theorem settled_tryOptions_first_iff (after : List Schema) {refused : List (Entry Payload)}
    (allRefused : AllRefused refused)
    (refuses : ∀ option ∈ before, Refuses validate input option)
    (accepts : validate.alone winner input = .ok (.accept value)) (index : Nat)
    (outcome : Payload) :
    (tryOptions validate input (before ++ winner :: after) index
        (refused.map Entry.atOnce)).settled = .ok outcome ↔
      outcome = .accept value ∧
        ((∀ option ∈ before ++ [winner], AnswersAtOnce validate input option) ∨
          ∀ option ∈ after, ∃ payload, validate.alone option input = .ok payload) := by
  induction before generalizing refused index with
  | nil =>
      by_cases atOnce : AnswersAtOnce validate input winner
      · obtain ⟨payload, brought⟩ := atOnce
        have same : payload = .accept value := eq_of_brought brought accepts
        rw [List.nil_append, settled_tryOptions_atOnce brought, same,
          if_pos (Payload.isClean_accept value)]
        constructor
        · intro equal
          refine ⟨(Except.ok.inj equal).symm, .inl fun option member => ?_⟩
          rw [List.mem_singleton.mp member]
          exact ⟨payload, brought⟩
        · rintro ⟨rfl, -⟩
          rfl
      · have choice := exists_choice_iff after allRefused refuses accepts index outcome
        rw [List.nil_append, settled_tryOptions_awaited_iff atOnce, ← List.nil_append (_ :: _), choice]
        exact and_congr_right fun _ => (or_iff_right fun all => atOnce (all winner (by simp))).symm
  | cons option rest ih =>
      by_cases atOnce : AnswersAtOnce validate input option
      · obtain ⟨payload, brought⟩ := atOnce
        obtain ⟨refusal, settles, isRefused⟩ := refuses option (by simp)
        have same : payload = refusal := eq_of_brought brought settles
        have further := ih (allRefused.append_entry isRefused index)
          (fun next member => refuses next (by simp [member])) (index + 1)
        rw [List.cons_append, settled_tryOptions_atOnce brought, same, if_neg (by simp [isRefused])]
        refine further.trans (and_congr_right fun _ => or_congr_left ?_)
        rw [List.cons_append, List.forall_mem_cons]
        exact (and_iff_right ⟨payload, brought⟩).symm
      · rw [List.cons_append, settled_tryOptions_awaited_iff atOnce, ← List.cons_append,
          exists_choice_iff after allRefused refuses accepts]
        exact and_congr_right fun _ => (or_iff_right fun all => atOnce (all option (by simp))).symm

theorem settled_tryOptions_of_settled {refused : List (Entry Payload)} {options : List Schema}
    {payloads : List Payload} (allRefused : AllRefused refused)
    (alone : options.map (validate.alone · input) = payloads.map .ok) (index : Nat) :
    (tryOptions validate input options index (refused.map Entry.atOnce)).settled =
      .ok (choose input (refused ++ optionEntries index payloads)) := by
  induction options generalizing refused payloads index with
  | nil =>
      rw [List.map_eq_nil_iff.mp alone.symm, optionEntries, List.append_nil, tryOptions,
        joinEntries_atOnce]
      rfl
  | cons option rest ih =>
      by_cases atOnce : AnswersAtOnce validate input option
      · obtain ⟨answer, brought⟩ := atOnce
        cases payloads with
        | nil => simp at alone
        | cons payload others =>
            simp only [List.map_cons, List.cons.injEq] at alone
            have same : answer = payload := eq_of_brought brought alone.1
            rw [settled_tryOptions_atOnce brought, same, optionEntries]
            cases clean : payload.isClean with
            | true =>
                rw [if_pos rfl, choose_of_first allRefused clean]
                rfl
            | false =>
                have further := ih (allRefused.append_entry clean index) alone.2 (index + 1)
                rw [List.append_assoc] at further
                exact further
      · exact (settled_tryOptions_awaited_iff atOnce rest index refused _).mpr
          ⟨payloads, alone, rfl⟩

/-! ## What options await -/

theorem awaits_eq_nil_of_brought {option : Schema} {payload : Payload}
    (brought : (validate option input).outcome = .ok (.ready payload)) :
    (validate option input).awaits = [] := by
  rw [Traced.awaits, brought]
  rfl

theorem awaits_congr {first second : Traced (Progress Payload)}
    (same : first.outcome = second.outcome) : first.awaits = second.awaits := by
  rw [Traced.awaits, same, Traced.awaits]

theorem awaits_tryOptions_waiting {options : List Schema}
    (answered : ∀ option ∈ options, ∃ answer, (validate option input).outcome = .ok answer)
    (index : Nat) {answers : List (Entry (Progress Payload))} (waiting : IsWaiting answers) :
    (tryOptions validate input options index answers).awaits =
      answers.flatMap (fun entry => entry.result.awaits) ++
        options.flatMap fun option => (validate option input).awaits := by
  induction options generalizing index answers with
  | nil => simp [tryOptions, awaits_joinEntries]
  | cons option rest ih =>
      obtain ⟨answer, brought⟩ := answered option List.mem_cons_self
      have stillWaiting : IsWaiting (answers ++ [optionEntry index answer]) := by
        rw [IsWaiting, List.any_append, show answers.any _ = true from waiting, Bool.true_or]
      have own : (validate option input).awaits = answer.awaits := by rw [Traced.awaits, brought]
      rw [awaits_congr (outcome_tryOptions_cons brought (.inl waiting) rest index),
        ih (fun next member => answered next (List.mem_cons_of_mem _ member)) _ stillWaiting]
      simp [own, optionEntry]

/-- No option that accepts is reached while all answers are there. -/
def GoesOn (validate : Validator) (input : Value) (options : List Schema) : Prop :=
  ∀ before option after, options = before ++ option :: after →
    (∀ earlier ∈ before ++ [option], AnswersAtOnce validate input earlier) →
      Refuses validate input option

theorem awaits_tryOptions {options : List Schema} (goesOn : GoesOn validate input options)
    (answered : ∀ option ∈ options, ∃ answer, (validate option input).outcome = .ok answer)
    (index : Nat) (refused : List (Entry Payload)) :
    (tryOptions validate input options index (refused.map Entry.atOnce)).awaits =
      options.flatMap fun option => (validate option input).awaits := by
  have noneAwaited : (refused.map Entry.atOnce).flatMap (fun entry => entry.result.awaits) = [] := by
    simp [List.flatMap_eq_nil_iff, Entry.atOnce, Entry.withResult, Progress.awaits]
  induction options generalizing index refused with
  | nil => rw [tryOptions, awaits_joinEntries, noneAwaited, List.flatMap_nil]
  | cons option rest ih =>
      obtain ⟨answer, brought⟩ := answered option List.mem_cons_self
      have answeredRest (next : Schema) (member : next ∈ rest) :=
        answered next (List.mem_cons_of_mem _ member)
      rw [List.flatMap_cons]
      cases answer with
      | ready payload =>
          have atOnce : AnswersAtOnce validate input option := ⟨payload, brought⟩
          obtain ⟨refusal, settles, isRefused⟩ := goesOn [] option rest rfl (by simpa using atOnce)
          have same : payload = refusal := eq_of_brought brought settles
          have goesOnRest : GoesOn validate input rest := by
            rintro before next after rfl reached
            refine goesOn (option :: before) next after rfl ?_
            exact List.forall_mem_cons.mpr ⟨atOnce, reached⟩
          have further := ih goesOnRest answeredRest (index + 1)
            (refused ++ [optionEntry index payload])
            (by simp [List.flatMap_eq_nil_iff, Entry.atOnce, Entry.withResult, Progress.awaits])
          rw [awaits_eq_nil_of_brought brought, List.nil_append, ← further]
          refine awaits_congr ?_
          rw [outcome_tryOptions_atOnce brought, same, if_neg (by simp [isRefused])]
      | pending deferred =>
          have waiting : IsWaiting (refused.map Entry.atOnce ++
              [optionEntry index (.pending deferred)]) := by
            simp [IsWaiting, optionEntry, Progress.isPending]
          have own : (validate option input).awaits = deferred.awaits := by
            rw [Traced.awaits, brought]
            rfl
          rw [awaits_congr (outcome_tryOptions_cons brought (.inr rfl) rest index),
            awaits_tryOptions_waiting answeredRest _ waiting, List.flatMap_append, noneAwaited, own]
          simp [optionEntry, Progress.awaits]

/-- Where the options up to the first accepting one answer at once, the trial ends there. -/
theorem outcome_tryOptions_first (after : List Schema) {refused : List (Entry Payload)}
    (refuses : ∀ option ∈ before, Refuses validate input option)
    (accepts : validate.alone winner input = .ok (.accept value))
    (atOnce : ∀ option ∈ before ++ [winner], AnswersAtOnce validate input option) (index : Nat) :
    (tryOptions validate input (before ++ winner :: after) index
      (refused.map Entry.atOnce)).outcome = .ok (.ready (.accept value)) := by
  induction before generalizing refused index with
  | nil =>
      obtain ⟨payload, brought⟩ := atOnce winner (by simp)
      have same : payload = .accept value := eq_of_brought brought accepts
      rw [List.nil_append, outcome_tryOptions_atOnce brought, same,
        if_pos (Payload.isClean_accept value)]
      rfl
  | cons option rest ih =>
      obtain ⟨payload, brought⟩ := atOnce option (by simp)
      obtain ⟨refusal, settles, isRefused⟩ := refuses option (by simp)
      have same : payload = refusal := eq_of_brought brought settles
      rw [List.cons_append, outcome_tryOptions_atOnce brought, same, if_neg (by simp [isRefused])]
      exact ih (fun next member => refuses next (by simp [member]))
        (fun next member => atOnce next (List.mem_cons_of_mem _ member)) (index + 1)

/-- With an awaited answer up to the first accepting option, the trial goes on to the last option. -/
theorem goesOn_of_awaited {after : List Schema}
    (refuses : ∀ option ∈ before, Refuses validate input option)
    (awaited : ¬∀ option ∈ before ++ [winner], AnswersAtOnce validate input option) :
    GoesOn validate input (before ++ winner :: after) := by
  intro reached option others splits atOnce
  have notAll (within : before ++ [winner] ⊆ reached ++ [option]) :
      Refuses validate input option :=
    absurd (fun next member => atOnce next (within member)) awaited
  rcases List.append_eq_append_iff.mp splits with ⟨more, rfl, last⟩ | ⟨more, rfl, last⟩
  · cases more with
    | nil =>
        cases last
        exact notAll (by simp)
    | cons first rest =>
        cases last
        exact notAll fun next member => by
          rcases List.mem_append.mp member with earlier | isWinner
          · simp [earlier]
          · simp [List.mem_singleton.mp isWinner]
  · cases more with
    | nil =>
        cases last
        exact notAll (by simp)
    | cons first rest =>
        cases last
        exact refuses option (by simp)

theorem concludes_iff_of_nodup {options : List Schema}
    (nodup : (options.flatMap fun option => (validate option input).awaits).Nodup)
    {option : Schema} (member : option ∈ options) (payload : Payload) :
    (validate option input).concluded = .ok payload ↔ validate.alone option input = .ok payload :=
  (Traced.concluded_eq_ok_iff _ _).trans (and_iff_left ((List.nodup_flatMap.mp nodup).1 option member))

theorem exists_answer {option : Schema} {payload : Payload}
    (settles : validate.alone option input = .ok payload) :
    ∃ answer, (validate option input).outcome = .ok answer :=
  ((exists_answer_iff option payload).mp settles).imp fun _ => And.left

/-- Options are tried up to the first accepting one. Where an answer up to there is awaited, the
options after it must come to something as well, and no two of all options may await one value. -/
theorem concluded_union_first_iff (after : List Schema)
    (rejects : ∀ option ∈ before, Rejects validate input option)
    (accepts : (validate winner input).concluded = .ok (.accept value)) (outcome : Payload) :
    (union validate (before ++ winner :: after) input).concluded = .ok outcome ↔
      outcome = .accept value ∧
        ((∀ option ∈ before ++ [winner], AnswersAtOnce validate input option) ∨
          (∀ option ∈ after, ∃ payload, (validate option input).concluded = .ok payload) ∧
            ((before ++ winner :: after).flatMap fun option =>
              (validate option input).awaits).Nodup) := by
  have refuses (option : Schema) (member : option ∈ before) := (rejects option member).refuses
  have settles : validate.alone winner input = .ok (.accept value) :=
    Traced.settled_of_concluded accepts
  have first := settled_tryOptions_first_iff after .nil refuses settles 0 outcome
  rw [Traced.concluded_eq_ok_iff, union]
  refine (and_congr_left' first).trans ?_
  rw [and_assoc]
  refine and_congr_right fun _ => ?_
  by_cases atOnce : ∀ option ∈ before ++ [winner], AnswersAtOnce validate input option
  · have ends := @outcome_tryOptions_first _ _ _ _ _ after [] refuses settles atOnce 0
    have none : (tryOptions validate input (before ++ winner :: after) 0 []).awaits = [] := by
      rw [List.map_nil] at ends
      rw [Traced.awaits, ends]
      rfl
    rw [none]
    exact iff_of_true ⟨.inl atOnce, List.nodup_nil⟩ (.inl atOnce)
  · rw [or_iff_right atOnce, or_iff_right atOnce]
    -- Every option is answered, so that the union awaits what its options await.
    have awaitsAll (settlesAfter : ∀ option ∈ after,
        ∃ payload, validate.alone option input = .ok payload) :
        (tryOptions validate input (before ++ winner :: after) 0 []).awaits =
          (before ++ winner :: after).flatMap fun option => (validate option input).awaits := by
      refine awaits_tryOptions (goesOn_of_awaited refuses atOnce) (fun option member => ?_) 0 []
      rcases List.mem_append.mp member with earlier | later
      · obtain ⟨refusal, settled, -⟩ := refuses option earlier
        exact exists_answer settled
      · rcases List.mem_cons.mp later with rfl | further
        · exact exists_answer settles
        · obtain ⟨payload, settled⟩ := settlesAfter option further
          exact exists_answer settled
    constructor
    · rintro ⟨settlesAfter, nodup⟩
      rw [awaitsAll settlesAfter] at nodup
      refine ⟨fun option member => ?_, nodup⟩
      obtain ⟨payload, settled⟩ := settlesAfter option member
      exact ⟨payload, (concludes_iff_of_nodup nodup (by simp [member]) payload).mpr settled⟩
    · rintro ⟨concludes, nodup⟩
      have settlesAfter (option : Schema) (member : option ∈ after) :
          ∃ payload, validate.alone option input = .ok payload :=
        (concludes option member).imp fun _ => Traced.settled_of_concluded
      exact ⟨settlesAfter, awaitsAll settlesAfter ▸ nodup⟩

/-- Where every option rejects, the union reports one issue with the issues of all options in order,
unless two of the options await one value. -/
theorem concluded_union_rejecting_iff {options : List Schema} {refusals : List Payload}
    (comes : options.map (fun option => (validate option input).concluded) = refusals.map .ok)
    (allRefusals : ∀ refusal ∈ refusals, refusal.isClean = false) (outcome : Payload) :
    (union validate options input).concluded = .ok outcome ↔
      outcome = .reject input { Issue.plain .invalidUnion "Invalid input" input with
          errors := some (refusals.map Payload.issues) } ∧
        (options.flatMap fun option => (validate option input).awaits).Nodup := by
  have settled (option : Schema) (member : option ∈ options) :
      ∃ refusal ∈ refusals, (validate option input).concluded = .ok refusal ∧
        validate.alone option input = .ok refusal := by
    have brought := List.mem_map_of_mem
      (f := fun option => (validate option input).concluded) member
    rw [comes] at brought
    obtain ⟨refusal, isRefusal, same⟩ := List.mem_map.mp brought
    exact ⟨refusal, isRefusal, same.symm, Traced.settled_of_concluded same.symm⟩
  have alone : options.map (validate.alone · input) = refusals.map .ok := by
    rw [← comes]
    refine List.map_congr_left fun option member => ?_
    obtain ⟨refusal, -, concludes, settles⟩ := settled option member
    rw [concludes]
    exact settles
  have chosen := settled_tryOptions_of_settled .nil alone 0
  rw [choose_of_refused (AllRefused.nil.append_entries allRefusals 0), List.nil_append,
    map_issues_optionEntries] at chosen
  have goesOn : GoesOn validate input options := by
    rintro before option after rfl -
    obtain ⟨refusal, isRefusal, -, settles⟩ := settled option (by simp)
    exact ⟨refusal, settles, allRefusals refusal isRefusal⟩
  have awaits := awaits_tryOptions goesOn (fun option member => by
    obtain ⟨refusal, -, -, settles⟩ := settled option member
    exact exists_answer settles) 0 []
  rw [Traced.concluded_eq_ok_iff, union]
  rw [List.map_nil] at chosen awaits
  rw [chosen, awaits, Except.ok.injEq, eq_comm]

end Trying

/-! ## Unions -/

theorem answersAtOnce_of_synchronous {scope : ParseScope} (synchronous : scope.mode = .synchronous)
    {limit : Nat} {option : Schema} {input : Value} {payload : Payload}
    (settles : (Validation.run scope limit).alone option input = .ok payload) :
    AnswersAtOnce (Validation.run scope limit) input option := by
  obtain ⟨environment, mode⟩ := scope
  cases synchronous
  have computes := run_computes environment limit option input
  obtain ⟨answer, brought, -⟩ := (exists_answer_iff option payload).mp settles
  rw [brought] at computes
  obtain ⟨result, -, equal⟩ := (except_map_eq_ok_iff _ _ _).mp computes.symm
  exact ⟨result, by rw [brought, equal]⟩

/-- A union is a first match, as far as the options are tried one by one. Let the options before
one that accepts reject. Then the union comes to no other result than what that option brings. It
does so when awaiting is not allowed, or when all options up to the accepting one answer at once,
whatever the later ones would do; and else exactly when every later option comes to some result and
no awaitable value is awaited twice among all options. Where every option rejects, the union comes to
nothing but one issue with the issues of all options in order, and does so exactly when no awaitable
value is awaited twice. -/
theorem concluded_union_iff (scope : ParseScope) (limit : Nat) (input : Value) :
    (∀ (before after : List Schema) (winner : Schema) (value : Value),
      (∀ option ∈ before, Rejects (Validation.run scope limit) input option) →
      (Validation.run scope limit winner input).concluded = .ok (.accept value) →
      ∀ outcome,
        (union (Validation.run scope limit) (before ++ winner :: after) input).concluded =
            .ok outcome ↔
          outcome = .accept value ∧
            (scope.mode = .synchronous ∨
              (∀ option ∈ before ++ [winner],
                AnswersAtOnce (Validation.run scope limit) input option) ∨
              (∀ option ∈ after,
                ∃ payload, (Validation.run scope limit option input).concluded = .ok payload) ∧
                ((before ++ winner :: after).flatMap fun option =>
                  (Validation.run scope limit option input).awaits).Nodup)) ∧
    ∀ (options : List Schema) (refusals : List Payload),
      options.map (fun option => (Validation.run scope limit option input).concluded) =
        refusals.map .ok →
      (∀ refusal ∈ refusals, refusal.isClean = false) →
      ∀ outcome,
        (union (Validation.run scope limit) options input).concluded = .ok outcome ↔
          outcome = .reject input { Issue.plain .invalidUnion "Invalid input" input with
              errors := some (refusals.map Payload.issues) } ∧
            (options.flatMap fun option =>
              (Validation.run scope limit option input).awaits).Nodup := by
  constructor
  · intro before after winner value rejects accepts outcome
    have atOnce (synchronous : scope.mode = .synchronous) (option : Schema)
        (member : option ∈ before ++ [winner]) :
        AnswersAtOnce (Validation.run scope limit) input option := by
      rcases List.mem_append.mp member with earlier | last
      · obtain ⟨refusal, settles, -⟩ := (rejects option earlier).refuses
        exact answersAtOnce_of_synchronous synchronous settles
      · rw [List.mem_singleton.mp last]
        exact answersAtOnce_of_synchronous synchronous (Traced.settled_of_concluded accepts)
    refine (concluded_union_first_iff after rejects accepts outcome).trans
      (and_congr_right fun _ => ⟨Or.inr, ?_⟩)
    rintro (synchronous | either)
    · exact .inl (atOnce synchronous)
    · exact either
  · intro options refusals comes allRefusals
    exact concluded_union_rejecting_iff comes allRefusals

def checkedText (check : Operation) : Schema :=
  ⟨none, [⟨.onValues ⟨check, true⟩, "refused"⟩], .null, .text Schema.freeText⟩

/-- A check that ends in a fault. -/
def failing : Schema := .anonymous (.custom (some (.onValues ⟨.fail, false⟩)) "Invalid input")

def promised (form : Form Schema) : Schema := .anonymous (.promise (.anonymous form))

/-- A text after a number and before a check that fails, a text that is refused by both options, one
of them awaited, and an awaitable value that is promised to two options. -/
theorem concluded_union_texts :
    let number : Schema := .anonymous (.number Schema.anyNumber)
    let text : Schema := .anonymous (.text Schema.freeText)
    let run := Validation.run ⟨⟨[], none⟩, .asynchronous⟩
    (union (run 1) [number, text, failing] (.text "x")).concluded = .ok (.accept (.text "x")) ∧
      (union (run 1) [checkedText .refuse, number] (.text "x")).concluded =
        .ok (.reject (.text "x") { Issue.plain .invalidUnion "Invalid input" (.text "x") with
          errors := some [[Issue.plain .custom "refused" (.text "x")],
            [Issue.wrongKind "number" (.text "x")]] }) ∧
      (∀ outcome, (union (run 2) [promised number.form, promised text.form]
        (.awaitable 1 (.ok (.text "x")))).concluded ≠ .ok outcome) := by
  intro number text run
  have once (limit : Nat) := concluded_union_iff ⟨⟨[], none⟩, .asynchronous⟩ limit
  refine ⟨?_, ?_, fun outcome comes => ?_⟩
  · refine ((once 1 (.text "x")).1 [number] [failing] text (.text "x") ?_ rfl _).mpr
      ⟨rfl, .inr (.inl ?_)⟩
    · simp only [List.forall_mem_singleton]
      exact ⟨_, rfl, rfl⟩
    · simp only [List.cons_append, List.nil_append, List.forall_mem_cons]
      exact ⟨⟨_, rfl⟩, ⟨_, rfl⟩, by simp⟩
  · refine ((once 1 (.text "x")).2 [checkedText .refuse, number]
      [.reject (.text "x") (Issue.plain .custom "refused" (.text "x")),
        .wrongKind "number" (.text "x")] ?_ ?_ _).mpr ⟨rfl, List.nodup_nil⟩
    · have refused : (run 1 (checkedText .refuse) (.text "x")).concluded =
          .ok (.reject (.text "x") (Issue.plain .custom "refused" (.text "x"))) :=
        Traced.concluded_of_settled rfl List.nodup_nil
      rw [List.map_cons, refused]
      rfl
    · simp only [List.forall_mem_cons]
      exact ⟨rfl, rfl, by simp⟩
  · have refused : Rejects (run 2) (.awaitable 1 (.ok (.text "x"))) (promised number.form) :=
      ⟨.wrongKind "number" (.text "x"), Traced.concluded_of_settled rfl (List.nodup_singleton 1), rfl⟩
    obtain ⟨-, synchronous | atOnce | ⟨-, nodup⟩⟩ := ((once 2 _).1 [promised number.form] []
      (promised text.form) (.text "x") (List.forall_mem_singleton.mpr refused)
      (Traced.concluded_of_settled rfl (List.nodup_singleton 1)) outcome).mp comes
    · cases synchronous
    · obtain ⟨payload, brought⟩ := atOnce (promised number.form) List.mem_cons_self
      cases brought
    · exact absurd nodup (show ¬[1, 1].Nodup by decide)

/-- A later option that fails ends a union whose accepting option must be awaited, and so does a second
option that is promised the same awaitable value. -/
theorem not_concluded_union_first :
    (¬∀ (scope : ParseScope) (limit : Nat) (input : Value) (before after : List Schema)
      (winner : Schema) (value : Value),
      (∀ option ∈ before, Rejects (Validation.run scope limit) input option) →
      (Validation.run scope limit winner input).concluded = .ok (.accept value) →
      (union (Validation.run scope limit) (before ++ winner :: after) input).concluded =
        .ok (.accept value)) ∧
    ¬∀ (scope : ParseScope) (limit : Nat) (input : Value) (before : List Schema)
      (winner : Schema) (value : Value),
      (∀ option ∈ before, Rejects (Validation.run scope limit) input option) →
      (Validation.run scope limit winner input).concluded = .ok (.accept value) →
      (union (Validation.run scope limit) (before ++ [winner]) input).concluded =
        .ok (.accept value) := by
  constructor
  · intro firstMatch
    have accepts := firstMatch ⟨⟨[], none⟩, .asynchronous⟩ 1 (.text "x") [] [failing]
      (checkedText .accept) (.text "x") (by simp) (Traced.concluded_of_settled rfl List.nodup_nil)
    have fails : (union (Validation.run ⟨⟨[], none⟩, .asynchronous⟩ 1)
        ([] ++ checkedText .accept :: [failing]) (.text "x")).concluded =
          .error (.userFailure "boom") := rfl
    rw [fails] at accepts
    cases accepts
  · intro firstMatch
    have accepts := firstMatch ⟨⟨[], none⟩, .asynchronous⟩ 2 (.awaitable 1 (.ok (.text "x")))
      [promised (.number Schema.anyNumber)] (promised (.text Schema.freeText)) (.text "x")
      (List.forall_mem_singleton.mpr
        ⟨.wrongKind "number" (.text "x"), Traced.concluded_of_settled rfl (List.nodup_singleton 1), rfl⟩)
      (Traced.concluded_of_settled rfl (List.nodup_singleton 1))
    exact absurd ((Traced.concluded_eq_ok_iff _ _).mp accepts).2 (show ¬[1, 1].Nodup by decide)

end TypedTables.Combination
