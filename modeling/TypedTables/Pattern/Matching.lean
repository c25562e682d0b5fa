import TypedTables.Pattern.Basic

/-!
# Matching

A matcher starts from a state, which is a position in the text and what the groups took, and hands
each state that it can reach to what comes after, in order of preference; the first that succeeds
is the answer. Matching is a recursion on the pattern.
-/

namespace TypedTables

/-- How far a match has come: its position, and where each group was opened and closed, the
latest first. -/
structure MatchState where
  position : Nat
  opened : List (Nat × Nat)
  closed : List (Nat × Nat)
  deriving DecidableEq, Repr

/-- From a state, tries what comes after on every state that can be reached. -/
abbrev Matcher := MatchState → (MatchState → Option MatchState) → Option MatchState

namespace MatchState

def startingAt (position : Nat) : MatchState := ⟨position, [], []⟩

def advance (state : MatchState) : MatchState := { state with position := state.position + 1 }

def openGroup (state : MatchState) (number : Nat) : MatchState :=
  { state with opened := (number, state.position) :: state.opened }

def closeGroup (state : MatchState) (number : Nat) : MatchState :=
  { state with closed := (number, state.position) :: state.closed }

/-- What a group took: from where it was last opened to where it was last closed. -/
def taken? (state : MatchState) (number : Nat) : Option (Nat × Nat) := do
  let first ← state.opened.lookup number
  let last ← state.closed.lookup number
  if first ≤ last then some (first, last) else none

end MatchState

namespace Matcher

def exactly (body : Matcher) : Nat → Matcher
  | 0, state, next => next state
  | count + 1, state, next => body state fun reached => exactly body count reached next

/-- The body up to `count` times, more rather than fewer; a round that takes nothing is the
last. -/
def greedy (body : Matcher) : Nat → Matcher
  | 0, state, next => next state
  | count + 1, state, next =>
      (body state fun reached =>
        if reached.position = state.position then next reached
        else greedy body count reached next) <|> next state

/-- The body up to `count` times, fewer rather than more. -/
def lazy (body : Matcher) : Nat → Matcher
  | 0, state, next => next state
  | count + 1, state, next =>
      next state <|> body state fun reached =>
        if reached.position = state.position then next reached
        else lazy body count reached next

/-- The body `count` times, each round by its first match. -/
def firstExactly (body : Matcher) : Nat → MatchState → Option MatchState
  | 0, state => some state
  | count + 1, state => (body state some).bind (firstExactly body count)

/-- The body as often as it matches, up to `count` times, each round by its first match. -/
def firstGreedy (body : Matcher) : Nat → MatchState → MatchState
  | 0, state => state
  | count + 1, state =>
      match body state some with
      | none => state
      | some reached =>
          if reached.position = state.position then reached
          else firstGreedy body count reached

/-- A repetition: the required rounds, then up to `optional` more. -/
def repeated (preference : Preference) (body : Matcher) (required optional : Nat) : Matcher :=
  fun state next =>
    match preference with
    | .greedy => exactly body required state fun reached => greedy body optional reached next
    | .lazy => exactly body required state fun reached => lazy body optional reached next
    | .possessive =>
        (firstExactly body required state).bind fun reached =>
          next (firstGreedy body optional reached)

end Matcher

namespace Pattern

def wordAt (alphabet : Alphabet) (text : Array Char) (position : Nat) : Bool :=
  match text[position]? with
  | some character => CharacterClass.word.holds alphabet character
  | none => false

/-- Exactly one of the two sides of a position is a word character. -/
def atWordEdge (alphabet : Alphabet) (text : Array Char) (position : Nat) : Bool :=
  (0 < position && wordAt alphabet text (position - 1)) != wordAt alphabet text position

def sameCharacter (ignoreCase : Bool) (alphabet : Alphabet) (left right : Char) : Bool :=
  if ignoreCase then alphabet.lowerPartner left.toNat == alphabet.lowerPartner right.toNat
  else left == right

/-- What stands from `first` to `last` stands at `position` again. -/
def standsAgain (text : Array Char) (same : Char → Char → Bool)
    (first last position : Nat) : Bool :=
  (List.range (last - first)).all fun offset =>
    match text[first + offset]?, text[position + offset]? with
    | some left, some right => same left right
    | _, _ => false

/-- Runs a pattern. Beyond the length of the text no repetition takes anything, so the length
bounds the optional rounds. -/
def run (text : Array Char) : Pattern → Matcher
  | .empty, state, next => next state
  | .oneOf set, state, next =>
      match text[state.position]? with
      | some character => if set.holds character then next state.advance else none
      | none => none
  | .sequence first second, state, next =>
      run text first state fun reached => run text second reached next
  | .choice first second, state, next => run text first state next <|> run text second state next
  | .repetition preference body least most, state, next =>
      let rounds := text.size + 1
      let optional := match most with
        | some count => min (count - least) rounds
        | none => rounds
      Matcher.repeated preference (run text body) least optional state next
  | .group none body, state, next => run text body state next
  | .group (some number) body, state, next =>
      run text body (state.openGroup number) fun reached => next (reached.closeGroup number)
  | .atomic body, state, next => (run text body state some).bind next
  | .again number ignoreCase alphabet, state, next =>
      match state.taken? number with
      | none => none
      | some (first, last) =>
          if standsAgain text (sameCharacter ignoreCase alphabet) first last state.position then
            next { state with position := state.position + (last - first) }
          else none
  | .conditional number taken untaken, state, next =>
      if (state.taken? number).isSome then run text taken state next
      else run text untaken state next
  | .start everyLine, state, next =>
      if state.position = 0 ||
          (everyLine && text[state.position - 1]? == some '\n') then next state
      else none
  | .finish everyLine, state, next =>
      if state.position = text.size ||
          (state.position + 1 = text.size && text[state.position]? == some '\n') ||
          (everyLine && text[state.position]? == some '\n') then next state
      else none
  | .absoluteFinish, state, next => if state.position = text.size then next state else none
  | .wordEdge negated alphabet, state, next =>
      if !text.isEmpty && negated != atWordEdge alphabet text state.position then next state
      else none
  | .ahead false body, state, next =>
      (run text body state some).bind fun reached =>
        next { reached with position := state.position }
  | .ahead true body, state, next =>
      if (run text body state some).isSome then none else next state
  | .behind false least _ body, state, next =>
      if least ≤ state.position then
        (run text body { state with position := state.position - least } some).bind fun reached =>
          next { reached with position := state.position }
      else none
  | .behind true least _ body, state, next =>
      if least ≤ state.position &&
          (run text body { state with position := state.position - least } some).isSome then none
      else next state

@[simp] theorem run_empty (text : Array Char) (state : MatchState)
    (next : MatchState → Option MatchState) : run text .empty state next = next state := rfl

def occursIn (pattern : Pattern) (text : String) : Bool :=
  let characters := text.toList.toArray
  (List.range (characters.size + 1)).any fun position =>
    (pattern.run characters (.startingAt position) some).isSome

end Pattern
end TypedTables
