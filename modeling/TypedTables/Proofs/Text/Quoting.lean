import TypedTables.Identifier
import TypedTables.Proofs.Text.Sealing

/-!
# Quoted parts

A text is read from the left. A quotation mark or a backtick opens a quoted part, which the same
mark closes, and a backslash inside of it takes away the meaning of the next character. A character
is bare where it is read outside of quoted parts.

A text that passes a character leaves the reader where it was and does not show the character bare.
Passing texts can be put one after another; so a text that is made of names and literals shows
nothing of what they hold. Texts that pass a separator are told apart by it.
-/

namespace TypedTables.Text

namespace QuotingState

def step (state : QuotingState) (character : Char) : QuotingState :=
  match state with
  | .escaped mark => .inside mark
  | .inside mark =>
      if character = '\x5c' then .escaped mark
      else if character = mark then .outside
      else .inside mark
  | .outside =>
      if character = '\x22' || character = '\x60' then .inside character else .outside

def read (state : QuotingState) (characters : List Char) : QuotingState :=
  characters.foldl step state

@[simp] theorem read_nil (state : QuotingState) : state.read [] = state := rfl

@[simp] theorem read_cons (state : QuotingState) (character : Char) (rest : List Char) :
    state.read (character :: rest) = (state.step character).read rest := rfl

@[simp] theorem read_append (state : QuotingState) (first second : List Char) :
    state.read (first ++ second) = (state.read first).read second :=
  List.foldl_append

end QuotingState

open QuotingState

def bareAt (wanted : Char) : QuotingState → List Char → List Nat
  | _, [] => []
  | state, character :: rest =>
      (if state = .outside ∧ character = wanted then [0] else []) ++
        (bareAt wanted (state.step character) rest).map (· + 1)

theorem bareAt_append (wanted : Char) (state : QuotingState) (first second : List Char) :
    bareAt wanted state (first ++ second) =
      bareAt wanted state first ++
        (bareAt wanted (state.read first) second).map (· + first.length) := by
  induction first generalizing state with
  | nil => simp [bareAt]
  | cons character rest ih =>
      have shifted : (fun place => place + 1) ∘ (fun place => place + rest.length) =
          fun place => place + (character :: rest).length := by
        funext place
        simp only [Function.comp_apply, List.length_cons]
        omega
      simp only [List.cons_append, bareAt, ih, List.map_append, List.map_map, shifted, read_cons,
        List.append_assoc]

/-- Reading the text leaves the reader as it was and shows the character nowhere bare. -/
def Passes (wanted : Char) (state : QuotingState) (characters : List Char) : Prop :=
  state.read characters = state ∧ bareAt wanted state characters = []

instance (wanted : Char) (state : QuotingState) (characters : List Char) :
    Decidable (Passes wanted state characters) :=
  inferInstanceAs (Decidable (_ ∧ _))

namespace Passes

variable {wanted mark : Char} {state : QuotingState} {first second : List Char}

theorem nil : Passes wanted state [] := ⟨rfl, rfl⟩

theorem append (passesFirst : Passes wanted state first)
    (passesSecond : Passes wanted state second) : Passes wanted state (first ++ second) := by
  obtain ⟨readFirst, bareFirst⟩ := passesFirst
  obtain ⟨readSecond, bareSecond⟩ := passesSecond
  refine ⟨?_, ?_⟩
  · rw [read_append, readFirst, readSecond]
  · rw [bareAt_append, bareFirst, readFirst, bareSecond]
    rfl

theorem cons {character : Char} {rest : List Char} (stays : state.step character = state)
    (hidden : ¬(state = .outside ∧ character = wanted)) (passes : Passes wanted state rest) :
    Passes wanted state (character :: rest) := by
  refine ⟨?_, ?_⟩
  · rw [read_cons, stays, passes.1]
  · rw [bareAt, if_neg hidden, stays, passes.2]
    rfl

theorem flatMap {α : Type} {items : List α} {write : α → List Char}
    (each : ∀ item ∈ items, Passes wanted state (write item)) :
    Passes wanted state (items.flatMap write) := by
  induction items with
  | nil => exact nil
  | cons item rest ih =>
      rw [List.flatMap_cons]
      exact append (each item (by simp)) (ih fun next member => each next (by simp [member]))

theorem of_plain {characters : List Char}
    (plain : ∀ character ∈ characters,
      character ≠ '\x22' ∧ character ≠ '\x60' ∧ character ≠ wanted) :
    Passes wanted .outside characters := by
  induction characters with
  | nil => exact nil
  | cons character rest ih =>
      obtain ⟨quote, backtick, other⟩ := plain character (by simp)
      have stays : QuotingState.outside.step character = .outside := by
        simp [step, quote, backtick]
      exact cons stays (by simp [other]) (ih fun next member => plain next (by simp [member]))

/-- Inside a quoted part, characters are passed that neither close it nor escape the next one. -/
theorem of_unescaped {characters : List Char}
    (plain : ∀ character ∈ characters, character ≠ '\x5c' ∧ character ≠ mark) :
    Passes wanted (.inside mark) characters := by
  induction characters with
  | nil => exact nil
  | cons character rest ih =>
      obtain ⟨backslash, other⟩ := plain character (by simp)
      have stays : (QuotingState.inside mark).step character = .inside mark := by
        simp [step, backslash, other]
      exact cons stays (by simp) (ih fun next member => plain next (by simp [member]))

theorem of_escape (character : Char) : Passes wanted (.inside mark) ['\x5c', character] := by
  have escapes : (QuotingState.inside mark).step '\x5c' = .escaped mark := rfl
  have returns : (QuotingState.escaped mark).step character = .inside mark := rfl
  refine ⟨?_, ?_⟩
  · rw [read_cons, escapes, read_cons, returns, read_nil]
  · simp [bareAt, escapes]

theorem quoted {body : List Char} (isMark : mark = '\x22' ∨ mark = '\x60') (other : mark ≠ wanted)
    (passes : Passes wanted (.inside mark) body) :
    Passes wanted .outside (mark :: (body ++ [mark])) := by
  have opens : QuotingState.outside.step mark = .inside mark := by
    rcases isMark with rfl | rfl <;> rfl
  have closes : (QuotingState.inside mark).step mark = .outside := by
    rcases isMark with rfl | rfl <;> rfl
  refine ⟨?_, ?_⟩
  · rw [read_cons, opens, read_append, passes.1, read_cons, closes, read_nil]
  · simp [bareAt, other, opens, bareAt_append, passes.1, passes.2]

theorem not_append_cons {text rest : List Char} (passes : Passes wanted .outside text) :
    ¬Passes wanted .outside (text ++ wanted :: rest) := by
  intro whole
  have bare := whole.2
  rw [bareAt_append, passes.1] at bare
  simp [bareAt] at bare

theorem separates : Separates [wanted] (Passes wanted .outside) where
  alone text rest passes := passes.not_append_cons
  next text middle rest others passes passesLong remains := by
    cases middle with
    | nil => rfl
    | cons character more =>
        have isWanted : wanted = character := (List.cons.inj remains).1
        rw [← isWanted] at passesLong
        exact absurd passesLong passes.not_append_cons

end Passes
end TypedTables.Text
