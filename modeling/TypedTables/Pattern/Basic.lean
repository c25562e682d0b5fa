import TypedTables.Pattern.Characters

/-!
# Patterns

A pattern describes texts by their characters, by repetition and by choice; by what stands around
a place; and by what an earlier group took. The width of a pattern is the least and the most
characters that it can take.
-/

namespace TypedTables

/-- Which of several matches a repetition tries first: the longest, the shortest, or the longest
alone. -/
inductive Preference where
  | greedy
  | lazy
  | possessive
  deriving DecidableEq, Repr

/-- A pattern over texts. -/
inductive Pattern where
  | empty
  | oneOf (set : CharacterSet)
  | sequence (first second : Pattern)
  | choice (first second : Pattern)
  | repetition (preference : Preference) (body : Pattern) (least : Nat) (most : Option Nat)
  /-- A part in parentheses; one with a number leaves what it took to later references. -/
  | group (number : Option Nat) (body : Pattern)
  /-- A part of which only the first match counts. -/
  | atomic (body : Pattern)
  /-- What a group took, once more. -/
  | again (number : Nat) (ignoreCase : Bool) (alphabet : Alphabet)
  /-- One of two parts, by whether a group took anything. -/
  | conditional (number : Nat) (taken untaken : Pattern)
  /-- The start of the text, or of any line. -/
  | start (everyLine : Bool)
  /-- The end of the text or before its final line end; or the end of any line. -/
  | finish (everyLine : Bool)
  /-- The very end of the text. -/
  | absoluteFinish
  /-- A place where a word starts or ends, or any other place. -/
  | wordEdge (negated : Bool) (alphabet : Alphabet)
  /-- A place where the body matches next, or does not. -/
  | ahead (negated : Bool) (body : Pattern)
  /-- A place where a match of the body ends, or does not; with the width of the body. -/
  | behind (negated : Bool) (least most : Nat) (body : Pattern)
  deriving DecidableEq, Repr

namespace Pattern

def sequenceOf : List Pattern → Pattern
  | [] => .empty
  | [part] => part
  | part :: parts => .sequence part (sequenceOf parts)

/-- The pattern asks about a place and takes nothing, so it is not repeated. -/
def isAnchor : Pattern → Bool
  | .start _ | .finish _ | .absoluteFinish | .wordEdge .. => true
  | _ => false

/-- Stands for every width beyond what can be counted. -/
def unboundedWidth : Nat := Nat.pow 2 64

/-- The least and the most characters that a pattern takes, given those of the groups that it
refers to. -/
def width (groups : Nat → Nat × Nat) : Pattern → Nat × Nat
  | .empty | .start _ | .finish _ | .absoluteFinish | .wordEdge .. => (0, 0)
  | .ahead .. | .behind .. => (0, 0)
  | .oneOf _ => (1, 1)
  | .sequence first second =>
      let (least, most) := width groups first
      let (otherLeast, otherMost) := width groups second
      (min (least + otherLeast) unboundedWidth, min (most + otherMost) unboundedWidth)
  | .choice first second =>
      let (least, most) := width groups first
      let (otherLeast, otherMost) := width groups second
      (min least otherLeast, max most otherMost)
  | .repetition _ body fewest greatest =>
      let (least, most) := width groups body
      let upper := match greatest with
        | some count => most * count
        | none => if most = 0 then 0 else unboundedWidth
      (min (least * fewest) unboundedWidth, min upper unboundedWidth)
  | .group _ body | .atomic body => width groups body
  | .again number _ _ => groups number
  | .conditional _ taken untaken =>
      let (least, most) := width groups taken
      let (otherLeast, otherMost) := width groups untaken
      (min least otherLeast, max most otherMost)

end Pattern
end TypedTables
