import TypedTables.Pattern.Matching

/-!
# What patterns take

A pattern says what it takes at a place of a text, given what stands before the place and after
what is taken. A matcher tries what comes next at one place after another and remembers groups on
the way, but whether it succeeds depends on this alone: whether some part of what follows is taken,
and what comes next succeeds after it. Patterns that look at what groups took, or that settle for
the first of several matches, are left aside.
-/

namespace TypedTables

/-- What is taken: the characters before it, its own, and those after it. -/
abbrev Taking := List Char → List Char → List Char → Prop

namespace Taking

def andThen (first second : Taking) : Taking := fun before taken after =>
  ∃ part rest, taken = part ++ rest ∧ first before part (rest ++ after) ∧
    second (before ++ part) rest after

/-- Nothing, at a place of a kind. -/
def place (kind : List Char → List Char → Prop) : Taking := fun before taken after =>
  taken = [] ∧ kind before after

def rounds (takes : Taking) : Nat → Taking
  | 0 => place fun _ _ => True
  | count + 1 => takes.andThen (rounds takes count)

/-- At most so many rounds. -/
def upTo (takes : Taking) (count : Nat) : Taking := fun before taken after =>
  ∃ fewer ≤ count, takes.rounds fewer before taken after

variable {takes first second third : Taking} {before taken after : List Char}

theorem andThen_assoc :
    (first.andThen second).andThen third = first.andThen (second.andThen third) := by
  funext before taken after
  refine propext ⟨?_, ?_⟩
  · rintro ⟨_, last, rfl, ⟨part, middle, rfl, takesFirst, takesSecond⟩, takesThird⟩
    refine ⟨part, middle ++ last, by simp, by simpa using takesFirst, middle, last, rfl, ?_, ?_⟩
    · exact takesSecond
    · simpa using takesThird
  · rintro ⟨part, _, rfl, takesFirst, middle, last, rfl, takesSecond, takesThird⟩
    exact ⟨part ++ middle, last, by simp, ⟨part, middle, rfl, by simpa using takesFirst,
      takesSecond⟩, by simpa using takesThird⟩

variable {kind : List Char → List Char → Prop}

theorem place_andThen :
    ((place kind).andThen second) before taken after ↔
      kind before (taken ++ after) ∧ second before taken after := by
  constructor
  · rintro ⟨_, rest, rfl, ⟨rfl, isKind⟩, further⟩
    exact ⟨isKind, by simpa using further⟩
  · rintro ⟨isKind, further⟩
    exact ⟨[], taken, rfl, ⟨rfl, isKind⟩, by simpa using further⟩

theorem andThen_place :
    (first.andThen (place kind)) before taken after ↔
      first before taken after ∧ kind (before ++ taken) after := by
  constructor
  · rintro ⟨part, _, rfl, takesPart, rfl, isKind⟩
    exact ⟨by simpa using takesPart, by simpa using isKind⟩
  · rintro ⟨takesAll, isKind⟩
    exact ⟨taken, [], (List.append_nil _).symm, takesAll, rfl, isKind⟩

theorem rounds_add (count more : Nat) :
    takes.rounds (count + more) = (takes.rounds count).andThen (takes.rounds more) := by
  induction count with
  | zero =>
      rw [Nat.zero_add]
      funext before taken after
      exact propext (place_andThen.trans (and_iff_right trivial)).symm
  | succ count ih => rw [Nat.succ_add, rounds, rounds, ih, andThen_assoc]

/-- Rounds that take nothing can be left out. -/
theorem exists_rounds_le_length {count : Nat} (all : takes.rounds count before taken after) :
    ∃ fewer ≤ count, fewer ≤ taken.length ∧ takes.rounds fewer before taken after := by
  induction count generalizing before taken with
  | zero => exact ⟨0, Nat.le_refl _, Nat.zero_le _, all⟩
  | succ count ih =>
      obtain ⟨part, rest, rfl, takesPart, further⟩ := all
      obtain ⟨fewer, isFewer, isShort, enough⟩ := ih further
      cases part with
      | nil => exact ⟨fewer, by omega, by simpa using isShort, by simpa using enough⟩
      | cons character more =>
          refine ⟨fewer + 1, by omega, ?_, _, rest, rfl, takesPart, enough⟩
          simp only [List.length_append, List.length_cons]
          omega

/-- Where something is taken, what comes next succeeds. -/
def leads (takes : Taking) (condition : List Char → List Char → Prop) :
    List Char → List Char → Prop := fun before after =>
  ∃ taken rest, after = taken ++ rest ∧ takes before taken rest ∧ condition (before ++ taken) rest

variable {condition : List Char → List Char → Prop}

theorem leads_place :
    (place kind).leads condition before after ↔ kind before after ∧ condition before after := by
  constructor
  · rintro ⟨_, rest, rfl, ⟨rfl, isKind⟩, further⟩
    exact ⟨isKind, by simpa using further⟩
  · rintro ⟨isKind, further⟩
    exact ⟨[], after, rfl, ⟨rfl, isKind⟩, by simpa using further⟩

theorem leads_andThen :
    (first.andThen second).leads condition before after ↔
      first.leads (second.leads condition) before after := by
  constructor
  · rintro ⟨_, rest, rfl, ⟨part, middle, rfl, takesFirst, takesSecond⟩, further⟩
    exact ⟨part, middle ++ rest, by simp, takesFirst, middle, rest, rfl, takesSecond,
      by simpa using further⟩
  · rintro ⟨part, _, rfl, takesFirst, middle, rest, rfl, takesSecond, further⟩
    exact ⟨part ++ middle, rest, by simp, ⟨part, middle, rfl, takesFirst, takesSecond⟩,
      by simpa using further⟩

theorem leads_upTo_zero : (takes.upTo 0).leads condition before after ↔ condition before after := by
  constructor
  · rintro ⟨_, rest, rfl, ⟨fewer, isFewer, all⟩, further⟩
    obtain rfl := Nat.le_zero.mp isFewer
    obtain ⟨rfl, -⟩ := all
    simpa using further
  · intro further
    exact ⟨[], after, rfl, ⟨0, Nat.le_refl _, rfl, trivial⟩, by simpa using further⟩

/-- Another round is possible: it ends the rounds where it takes nothing. -/
theorem leads_upTo_succ {count : Nat} :
    (takes.upTo (count + 1)).leads condition before after ↔
      condition before after ∨
        takes.leads (fun reached rest =>
          if reached.length = before.length then condition reached rest
          else (takes.upTo count).leads condition reached rest) before after := by
  constructor
  · rintro ⟨taken, rest, rfl, ⟨rounds, isFewer, all⟩, further⟩
    -- Rounds that take nothing are passed over until one takes something.
    induction rounds generalizing taken with
    | zero =>
        obtain ⟨rfl, -⟩ := all
        exact .inl (by simpa using further)
    | succ rounds ih =>
        obtain ⟨part, more, rfl, takesPart, others⟩ := all
        cases part with
        | nil => exact ih more (by simpa using further) (by omega) (by simpa using others)
        | cons character part =>
            refine .inr ⟨character :: part, more ++ rest, by simp, takesPart, ?_⟩
            dsimp only
            rw [if_neg (by simp)]
            exact ⟨more, rest, rfl, ⟨rounds, by omega, others⟩, by simpa using further⟩
  · rintro (further | ⟨part, rest, rfl, takesPart, further⟩)
    · exact ⟨[], after, rfl, ⟨0, Nat.zero_le _, rfl, trivial⟩, by simpa using further⟩
    · split at further
      · rename_i same
        obtain rfl : part = [] := by simpa using same
        exact ⟨[], rest, rfl, ⟨0, Nat.zero_le _, rfl, trivial⟩, further⟩
      · obtain ⟨more, last, rfl, ⟨rounds, isFewer, all⟩, further⟩ := further
        exact ⟨part ++ more, last, by simp,
          ⟨rounds + 1, by omega, part, more, rfl, takesPart, all⟩, by simpa using further⟩

end Taking

/-! ## Matchers -/

theorem isSome_orElse_iff {α : Type} (first second : Option α) :
    (first <|> second).isSome = true ↔ first.isSome = true ∨ second.isSome = true := by
  cases first <;> simp

/-- At every place of the text, what comes next succeeds just where a condition holds. -/
def SucceedsWhere (text : Array Char) (next : MatchState → Option MatchState)
    (condition : List Char → List Char → Prop) : Prop :=
  ∀ state before after, text.toList = before ++ after → state.position = before.length →
    ((next state).isSome ↔ condition before after)

namespace Matcher

variable {text : Array Char} {matcher body : Matcher} {takes first second : Taking}

/-- Whatever comes next, the matcher succeeds where something is taken after which that
succeeds. -/
def Realizes (text : Array Char) (matcher : Matcher) (takes : Taking) : Prop :=
  ∀ next condition, SucceedsWhere text next condition →
    SucceedsWhere text (fun state => matcher state next) (takes.leads condition)

theorem Realizes.andThen {other : Matcher} (realizes : Realizes text matcher first)
    (further : Realizes text other second) :
    Realizes text (fun state next => matcher state fun reached => other reached next)
      (first.andThen second) := by
  intro next condition succeeds state before after splits isHere
  rw [Taking.leads_andThen]
  exact realizes _ _ (further next condition succeeds) state before after splits isHere

theorem Realizes.congr (realizes : Realizes text matcher first)
    (same : ∀ before taken after, text.toList = before ++ (taken ++ after) →
      (first before taken after ↔ second before taken after)) : Realizes text matcher second := by
  intro next condition succeeds state before after splits isHere
  refine (realizes next condition succeeds state before after splits isHere).trans ?_
  refine exists_congr fun taken => exists_congr fun rest => and_congr_right fun isRest => ?_
  rw [same before taken rest (by rw [splits, isRest])]

theorem Realizes.place {holds : MatchState → Prop} [DecidablePred holds]
    {kind : List Char → List Char → Prop}
    (decides : ∀ state before after, text.toList = before ++ after →
      state.position = before.length → (holds state ↔ kind before after)) :
    Realizes text (fun state next => if holds state then next state else none)
      (.place kind) := by
  intro next condition succeeds state before after splits isHere
  rw [Taking.leads_place, ← decides state before after splits isHere,
    ← succeeds state before after splits isHere]
  by_cases isHeld : holds state <;> simp [isHeld]

theorem realizes_nothing :
    Realizes text (fun state next => next state) (.place fun _ _ => True) := by
  intro next condition succeeds state before after splits isHere
  rw [Taking.leads_place, true_and]
  exact succeeds state before after splits isHere

theorem realizes_exactly (realizes : Realizes text body takes) (count : Nat) :
    Realizes text (exactly body count) (takes.rounds count) := by
  induction count with
  | zero => exact realizes_nothing
  | succ count ih => exact realizes.andThen ih

theorem Realizes.choice {other : Matcher} (realizes : Realizes text matcher first)
    (further : Realizes text other second) :
    Realizes text (fun state next => matcher state next <|> other state next)
      fun before taken after => first before taken after ∨ second before taken after := by
  intro next condition succeeds state before after splits isHere
  have byFirst := realizes next condition succeeds state before after splits isHere
  have bySecond := further next condition succeeds state before after splits isHere
  rw [isSome_orElse_iff, byFirst, bySecond]
  constructor
  · rintro (⟨taken, rest, isRest, takes, succeedsNext⟩ | ⟨taken, rest, isRest, takes, succeedsNext⟩)
    · exact ⟨taken, rest, isRest, .inl takes, succeedsNext⟩
    · exact ⟨taken, rest, isRest, .inr takes, succeedsNext⟩
  · rintro ⟨taken, rest, isRest, takes | takes, succeedsNext⟩
    · exact .inl ⟨taken, rest, isRest, takes, succeedsNext⟩
    · exact .inr ⟨taken, rest, isRest, takes, succeedsNext⟩

theorem succeedsWhere_round {next rounds : MatchState → Option MatchState}
    {condition others : List Char → List Char → Prop} (succeeds : SucceedsWhere text next condition)
    (further : SucceedsWhere text rounds others) {state : MatchState} {before : List Char}
    (isHere : state.position = before.length) :
    SucceedsWhere text
      (fun reached => if reached.position = state.position then next reached else rounds reached)
      (fun reached rest =>
        if reached.length = before.length then condition reached rest
        else others reached rest) := by
  intro reached start rest splits isThere
  simp only [isThere, isHere]
  split
  · exact succeeds reached start rest splits isThere
  · exact further reached start rest splits isThere

theorem realizes_greedy (realizes : Realizes text body takes) (count : Nat) :
    Realizes text (greedy body count) (takes.upTo count) := by
  induction count with
  | zero =>
      intro next condition succeeds state before after splits isHere
      rw [Taking.leads_upTo_zero]
      exact succeeds state before after splits isHere
  | succ count ih =>
      intro next condition succeeds state before after splits isHere
      have round := realizes _ _ (succeedsWhere_round succeeds (ih next condition succeeds) isHere)
        state before after splits isHere
      rw [Taking.leads_upTo_succ, ← round, ← succeeds state before after splits isHere]
      dsimp only
      rw [greedy, isSome_orElse_iff, or_comm]

theorem realizes_lazy (realizes : Realizes text body takes) (count : Nat) :
    Realizes text (lazy body count) (takes.upTo count) := by
  induction count with
  | zero =>
      intro next condition succeeds state before after splits isHere
      rw [Taking.leads_upTo_zero]
      exact succeeds state before after splits isHere
  | succ count ih =>
      intro next condition succeeds state before after splits isHere
      have round := realizes _ _ (succeedsWhere_round succeeds (ih next condition succeeds) isHere)
        state before after splits isHere
      rw [Taking.leads_upTo_succ, ← round, ← succeeds state before after splits isHere]
      dsimp only
      rw [lazy, isSome_orElse_iff]

/-- The required rounds, and then as many as a bound leaves; more than the text has characters are
never needed. -/
theorem realizes_rounds {optional : Matcher} {least limit : Nat} {most : Option Nat}
    (realizes : Realizes text body takes) (further : Realizes text optional (takes.upTo limit))
    (limits : limit = match most with
      | some count => min (count - least) (text.size + 1)
      | none => text.size + 1) :
    Realizes text (fun state next => exactly body least state fun reached => optional reached next)
      fun before taken after => ∃ more, (∀ count, most = some count → more ≤ count - least) ∧
        takes.rounds (least + more) before taken after := by
  refine ((realizes_exactly realizes least).andThen further).congr
    fun before taken after splits => ?_
  simp only [Taking.rounds_add]
  constructor
  · rintro ⟨part, rest, isTaken, required, more, isFewer, others⟩
    refine ⟨more, fun count bounded => ?_, part, rest, isTaken, required, others⟩
    rw [limits, bounded] at isFewer
    exact Nat.le_trans isFewer (Nat.min_le_left _ _)
  · rintro ⟨more, bounded, part, rest, rfl, required, others⟩
    obtain ⟨fewer, isFewer, isShort, enough⟩ := Taking.exists_rounds_le_length others
    refine ⟨part, rest, rfl, required, fewer, ?_, enough⟩
    have inText : rest.length ≤ text.size := by
      rw [← Array.length_toList, splits]
      simp only [List.length_append]
      omega
    rw [limits]
    cases most with
    | none => exact Nat.le_succ_of_le (Nat.le_trans isShort inText)
    | some count =>
        have fits := bounded count rfl
        exact Nat.le_min.mpr ⟨by omega, by omega⟩

end Matcher

namespace Pattern

/-! ## Patterns -/

/-- What is taken by a pattern does not depend on groups or on the order of matches. -/
def isPlain : Pattern → Bool
  | .empty | .oneOf _ | .start _ | .finish _ | .absoluteFinish => true
  | .sequence first second | .choice first second => first.isPlain && second.isPlain
  | .repetition preference body _ _ => preference != .possessive && body.isPlain
  | .group _ body | .ahead _ body => body.isPlain
  | .atomic _ | .again .. | .conditional .. | .wordEdge .. | .behind .. => false

/-- What a plain pattern takes. -/
def Takes : Pattern → Taking
  | .empty => .place fun _ _ => True
  | .oneOf set => fun _ taken _ => ∃ character, set.holds character = true ∧ taken = [character]
  | .sequence first second => first.Takes.andThen second.Takes
  | .choice first second => fun before taken after =>
      first.Takes before taken after ∨ second.Takes before taken after
  | .repetition _ body least most => fun before taken after =>
      ∃ more, (∀ count, most = some count → more ≤ count - least) ∧
        body.Takes.rounds (least + more) before taken after
  | .group _ body => body.Takes
  | .start everyLine => .place fun before _ =>
      before = [] ∨ everyLine = true ∧ before.getLast? = some '\n'
  | .finish everyLine => .place fun _ after =>
      after = [] ∨ after = ['\n'] ∨ everyLine = true ∧ after.head? = some '\n'
  | .absoluteFinish => .place fun _ after => after = []
  | .ahead negated body => .place fun before after =>
      (body.Takes.leads (fun _ _ => True) before after ↔ negated = false)
  | .atomic _ | .again .. | .conditional .. | .wordEdge .. | .behind .. => fun _ _ _ => False

variable {text : Array Char}

theorem getElem?_of_splits {before after : List Char} (splits : text.toList = before ++ after) :
    text[before.length]? = after.head? := by
  rw [← Array.getElem?_toList, splits, List.getElem?_append_right (Nat.le_refl _), Nat.sub_self,
    List.head?_eq_getElem?]

theorem size_of_splits {before after : List Char} (splits : text.toList = before ++ after) :
    text.size = before.length + after.length := by
  rw [← Array.length_toList, splits, List.length_append]

theorem atStart_iff {everyLine : Bool} {before after : List Char}
    (splits : text.toList = before ++ after) :
    (decide (before.length = 0) || (everyLine && text[before.length - 1]? == some '\n')) = true ↔
      before = [] ∨ everyLine = true ∧ before.getLast? = some '\n' := by
  rcases List.eq_nil_or_concat before with rfl | ⟨initial, last, rfl⟩
  · simp
  · have isLast : text[initial.length]? = some last :=
      getElem?_of_splits (by simpa using splits : text.toList = initial ++ (last :: after))
    simp [isLast]

theorem atFinish_iff {everyLine : Bool} {before after : List Char}
    (splits : text.toList = before ++ after) :
    (decide (before.length = text.size) ||
        (decide (before.length + 1 = text.size) && text[before.length]? == some '\n') ||
          (everyLine && text[before.length]? == some '\n')) = true ↔
      after = [] ∨ after = ['\n'] ∨ everyLine = true ∧ after.head? = some '\n' := by
  rw [getElem?_of_splits splits, size_of_splits splits]
  cases after with
  | nil => simp
  | cons character rest => simp [and_comm]

open Matcher in
theorem realizes_oneOf (set : CharacterSet) :
    Realizes text (run text (.oneOf set)) (Takes (.oneOf set)) := by
  intro next condition succeeds state before after splits isHere
  dsimp only [run]
  rw [isHere, getElem?_of_splits splits]
  cases after with
  | nil =>
      refine iff_of_false (by simp) ?_
      rintro ⟨_, rest, none, ⟨character, -, rfl⟩, -⟩
      cases none
  | cons character rest =>
      have further := succeeds state.advance (before ++ [character]) rest (by simp [splits])
        (by simp [MatchState.advance, isHere])
      dsimp only [List.head?_cons]
      by_cases holds : set.holds character = true
      · rw [if_pos holds, further]
        constructor
        · intro succeedsNext
          exact ⟨[character], rest, rfl, ⟨character, holds, rfl⟩, succeedsNext⟩
        · rintro ⟨_, remaining, isRest, ⟨other, -, rfl⟩, succeedsNext⟩
          obtain ⟨rfl, rfl⟩ := List.cons.inj isRest
          exact succeedsNext
      · rw [if_neg holds]
        refine iff_of_false (by simp) ?_
        rintro ⟨_, remaining, isRest, ⟨other, holdsOther, rfl⟩, -⟩
        obtain ⟨rfl, -⟩ := List.cons.inj isRest
        exact holds holdsOther

open Matcher in
/-- Running a plain pattern succeeds where it takes something after which what comes next
succeeds. -/
theorem realizes_run {pattern : Pattern} (plain : pattern.isPlain = true) :
    Realizes text (run text pattern) pattern.Takes := by
  induction pattern with
  | empty => exact realizes_nothing
  | oneOf set => exact realizes_oneOf set
  | sequence first second ihFirst ihSecond =>
      obtain ⟨plainFirst, plainSecond⟩ := Bool.and_eq_true_iff.mp plain
      exact (ihFirst plainFirst).andThen (ihSecond plainSecond)
  | choice first second ihFirst ihSecond =>
      obtain ⟨plainFirst, plainSecond⟩ := Bool.and_eq_true_iff.mp plain
      exact (ihFirst plainFirst).choice (ihSecond plainSecond)
  | repetition preference body least most ih =>
      obtain ⟨orderly, plainBody⟩ := Bool.and_eq_true_iff.mp plain
      have realizes := ih plainBody
      cases preference with
      | greedy => exact realizes_rounds realizes (realizes_greedy realizes _) rfl
      | lazy => exact realizes_rounds realizes (realizes_lazy realizes _) rfl
      | possessive => cases orderly
  | group number body ih =>
      cases number with
      | none => exact ih plain
      | some number =>
          intro next condition succeeds state before after splits isHere
          refine ih plain _ condition ?_ (state.openGroup number) before after splits isHere
          exact fun reached start rest splitsThere isThere =>
            succeeds (reached.closeGroup number) start rest splitsThere isThere
  | start everyLine =>
      refine Realizes.place fun state before after splits isHere => ?_
      rw [isHere, atStart_iff splits]
  | finish everyLine =>
      refine Realizes.place fun state before after splits isHere => ?_
      rw [isHere, atFinish_iff splits]
  | absoluteFinish =>
      refine Realizes.place fun state before after splits isHere => ?_
      rw [isHere, size_of_splits splits, ← List.length_eq_zero_iff]
      omega
  | ahead negated body ih =>
      intro next condition succeeds state before after splits isHere
      have looks := ih plain some (fun _ _ => True) (fun _ _ _ _ _ => by simp) state before after
        splits isHere
      rw [Takes, Taking.leads_place, ← looks]
      cases negated with
      | false =>
          dsimp only [run]
          cases run text body state some with
          | none => simp
          | some reached =>
              have further := succeeds { reached with position := state.position } before after
                splits isHere
              simpa using further
      | true =>
          dsimp only [run]
          have further := succeeds state before after splits isHere
          cases run text body state some with
          | none => simpa using further
          | some reached => simp
  | atomic body | again number ignoreCase alphabet | conditional number taken untaken
  | wordEdge negated alphabet | behind negated least most body => cases plain

/-- A plain pattern matches at a place just where it takes something there. -/
theorem isSome_run_iff {pattern : Pattern} (plain : pattern.isPlain = true)
    {before after : List Char} (splits : text.toList = before ++ after) :
    (run text pattern (.startingAt before.length) some).isSome = true ↔
      ∃ taken rest, after = taken ++ rest ∧ pattern.Takes before taken rest := by
  have matched := realizes_run plain some (fun _ _ => True) (fun _ _ _ _ _ => by simp)
    (.startingAt before.length) before after splits rfl
  simpa only [Taking.leads, and_true] using matched

/-! ## Parts that take the same anywhere -/

theorem rounds_iff_pieces {takes : Taking} {kind : List Char → Prop}
    (wherever : ∀ before taken after, takes before taken after ↔ kind taken) {count : Nat}
    {before taken after : List Char} :
    takes.rounds count before taken after ↔
      ∃ pieces : List (List Char), pieces.length = count ∧ (∀ piece ∈ pieces, kind piece) ∧
        taken = pieces.flatten := by
  induction count generalizing before taken with
  | zero =>
      constructor
      · rintro ⟨rfl, -⟩
        exact ⟨[], rfl, by simp, rfl⟩
      · rintro ⟨pieces, none, -, rfl⟩
        rw [List.length_eq_zero_iff.mp none]
        exact ⟨rfl, trivial⟩
  | succ count ih =>
      constructor
      · rintro ⟨part, rest, rfl, takesPart, further⟩
        obtain ⟨pieces, rfl, kinds, rfl⟩ := ih.mp further
        exact ⟨part :: pieces, rfl,
          List.forall_mem_cons.mpr ⟨(wherever _ _ _).mp takesPart, kinds⟩, rfl⟩
      · rintro ⟨pieces, isLong, kinds, rfl⟩
        cases pieces with
        | nil => cases isLong
        | cons part pieces =>
            obtain ⟨isKind, kinds⟩ := List.forall_mem_cons.mp kinds
            exact ⟨part, pieces.flatten, rfl, (wherever _ _ _).mpr isKind,
              ih.mpr ⟨pieces, Nat.succ.inj isLong, kinds, rfl⟩⟩

theorem takes_repetition_iff {preference : Preference} {body : Pattern} {least : Nat}
    {kind : List Char → Prop}
    (wherever : ∀ before taken after, body.Takes before taken after ↔ kind taken)
    {before taken after : List Char} :
    (repetition preference body least none).Takes before taken after ↔
      ∃ pieces : List (List Char), least ≤ pieces.length ∧ (∀ piece ∈ pieces, kind piece) ∧
        taken = pieces.flatten := by
  constructor
  · rintro ⟨more, -, all⟩
    obtain ⟨pieces, isLong, kinds, rfl⟩ := (rounds_iff_pieces wherever).mp all
    exact ⟨pieces, by omega, kinds, rfl⟩
  · rintro ⟨pieces, isLong, kinds, rfl⟩
    exact ⟨pieces.length - least, by simp,
      (rounds_iff_pieces wherever).mpr ⟨pieces, by omega, kinds, rfl⟩⟩

theorem takes_characters_iff {preference : Preference} {set : CharacterSet} {least : Nat}
    {before taken after : List Char} :
    (repetition preference (.oneOf set) least none).Takes before taken after ↔
      least ≤ taken.length ∧ ∀ character ∈ taken, set.holds character = true := by
  have each : ∀ before taken after, (Pattern.oneOf set).Takes before taken after ↔
      ∃ character, set.holds character = true ∧ taken = [character] := fun _ _ _ => Iff.rfl
  rw [takes_repetition_iff each]
  constructor
  · rintro ⟨pieces, isLong, kinds, rfl⟩
    have sameLength : pieces.flatten.length = pieces.length := by
      clear isLong
      induction pieces with
      | nil => rfl
      | cons piece pieces ih =>
          obtain ⟨⟨character, -, rfl⟩, others⟩ := List.forall_mem_cons.mp kinds
          rw [List.flatten_cons, List.length_append, ih others, List.length_cons, Nat.add_comm]
          rfl
    refine ⟨by omega, fun character member => ?_⟩
    obtain ⟨piece, isPiece, inPiece⟩ := List.mem_flatten.mp member
    obtain ⟨only, holds, rfl⟩ := kinds piece isPiece
    rw [List.mem_singleton.mp inPiece]
    exact holds
  · rintro ⟨isLong, holds⟩
    refine ⟨taken.map fun character => [character], by simpa using isLong, ?_,
      (List.flatMap_singleton' taken).symm⟩
    intro piece member
    obtain ⟨character, isTaken, rfl⟩ := List.mem_map.mp member
    exact ⟨character, holds character isTaken, rfl⟩

end Pattern

end TypedTables
