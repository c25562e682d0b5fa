import TypedTables.FieldType.Basic
import TypedTables.Proofs.Text.Separating

/-!
# Sealed texts

Alternatives of a type, and the tables of a record type, are written with bars between them. A
reader that goes through such a text knows at every character whether it is inside a quoted part,
and how many angle brackets are open. A text is sealed when it leaves the reader as it was and
shows no bar outside of quotes and brackets, so sealed texts are told apart by bars.
-/

namespace TypedTables.Text

/-- Whether a reader is inside a quoted part: which mark ends it, and whether the next character is
escaped. -/
inductive QuotingState where
  | outside
  | inside (mark : Char)
  | escaped (mark : Char)
  deriving DecidableEq

/-- Where a reader of types is. -/
structure ReadingState where
  quoting : QuotingState
  depth : Nat
  deriving DecidableEq

namespace ReadingState

def start : ReadingState := ⟨.outside, 0⟩

/-- Reads one character; a bar outside of quotes and brackets ends the reading, and so does a
bracket that closes nothing. -/
def step (state : ReadingState) (character : Char) : Option ReadingState :=
  match state.quoting with
  | .escaped mark => some ⟨.inside mark, state.depth⟩
  | .inside mark =>
      if character = '\x5c' then some ⟨.escaped mark, state.depth⟩
      else if character = mark then some ⟨.outside, state.depth⟩
      else some state
  | .outside =>
      if character = '\x22' || character = '\x60' then some ⟨.inside character, state.depth⟩
      else if character = '<' then some ⟨.outside, state.depth + 1⟩
      else if character = '>' then
        if state.depth = 0 then none else some ⟨.outside, state.depth - 1⟩
      else if character = '|' && state.depth = 0 then none
      else some state

def read (state : ReadingState) (characters : List Char) : Option ReadingState :=
  characters.foldlM step state

@[simp] theorem read_nil (state : ReadingState) : state.read [] = some state := rfl

@[simp] theorem read_cons (state : ReadingState) (character : Char) (rest : List Char) :
    state.read (character :: rest) = (state.step character).bind fun next => next.read rest := rfl

@[simp] theorem read_append (state : ReadingState) (first second : List Char) :
    state.read (first ++ second) = (state.read first).bind fun next => next.read second := by
  simp [read]

/-- What can be read can be read inside one more bracket. -/
theorem step_deeper {state next : ReadingState} {character : Char}
    (steps : state.step character = some next) :
    step ⟨state.quoting, state.depth + 1⟩ character = some ⟨next.quoting, next.depth + 1⟩ := by
  rcases state with ⟨quoting, depth⟩
  cases quoting with
  | escaped mark =>
      cases steps
      rfl
  | inside mark => grind [step]
  | outside => grind [step]

theorem read_deeper {state final : ReadingState} {characters : List Char}
    (reads : state.read characters = some final) :
    read ⟨state.quoting, state.depth + 1⟩ characters =
      some ⟨final.quoting, final.depth + 1⟩ := by
  induction characters generalizing state with
  | nil =>
      cases reads
      rfl
  | cons character rest ih =>
      rw [read_cons] at reads ⊢
      obtain ⟨next, steps, further⟩ := Option.bind_eq_some_iff.mp reads
      rw [step_deeper steps]
      exact ih further

end ReadingState

/-- The text can be read at any place between bars. -/
def IsSealed (characters : List Char) : Prop :=
  ReadingState.start.read characters = some .start

instance (characters : List Char) : Decidable (IsSealed characters) :=
  inferInstanceAs (Decidable (_ = _))

namespace IsSealed

open ReadingState

theorem append {first second : List Char} (sealedFirst : IsSealed first)
    (sealedSecond : IsSealed second) : IsSealed (first ++ second) := by
  rw [IsSealed, read_append, show start.read first = some start from sealedFirst]
  exact sealedSecond

theorem of_brackets {inner : List Char} (reads : read ⟨.outside, 1⟩ inner = some ⟨.outside, 1⟩) :
    IsSealed ('<' :: (inner ++ ['>'])) := by
  have opens : start.step '<' = some ⟨.outside, 1⟩ := rfl
  rw [IsSealed, read_cons, opens]
  simp only [Option.bind_some, read_append, reads]
  rfl

/-- Sealed texts with bars between them can be read inside a bracket. -/
theorem read_joined {texts : List (List Char)} (allSealed : ∀ text ∈ texts, IsSealed text) :
    read ⟨.outside, 1⟩ ([' ', '|', ' '].intercalate texts) = some ⟨.outside, 1⟩ := by
  induction texts with
  | nil => rfl
  | cons text rest ih =>
      have first : read ⟨.outside, 1⟩ text = some ⟨.outside, 1⟩ :=
        read_deeper (allSealed text (by simp))
      have others := ih fun next member => allSealed next (by simp [member])
      cases rest with
      | nil =>
          rw [List.intercalate_singleton]
          exact first
      | cons next more =>
          have bar : read ⟨.outside, 1⟩ [' ', '|', ' '] = some ⟨.outside, 1⟩ := by decide
          rw [List.intercalate_cons_cons, read_append, read_append, first]
          simp only [Option.bind_some, bar]
          exact others

theorem not_append_bar {first : List Char} (sealedFirst : IsSealed first) (rest : List Char) :
    ¬IsSealed (first ++ ' ' :: '|' :: rest) := by
  intro whole
  rw [IsSealed, read_append, show start.read first = some start from sealedFirst] at whole
  cases whole

theorem separates_bar : Separates [' ', '|', ' '] IsSealed where
  alone text rest sealedText := sealedText.not_append_bar (' ' :: rest)
  next text middle rest others sealedText sealedLong remains := by
    match middle, sealedLong, remains with
    | [], _, _ => rfl
    | [_], _, remains => simp at remains
    | blank :: bar :: more, sealedLong, remains =>
        simp only [List.cons_append, List.cons.injEq] at remains
        rw [← remains.1, ← remains.2.1] at sealedLong
        exact absurd sealedLong (sealedText.not_append_bar more)

end IsSealed
end TypedTables.Text
