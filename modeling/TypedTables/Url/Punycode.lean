/-!
# Labels beyond ASCII

A domain label with characters beyond ASCII is written in ASCII: the ASCII characters first, then
the others in increasing order, each as the distance from the one before it, in digits to the
base 36 with thresholds that adapt to the distances seen.
-/

namespace TypedTables.Punycode

/-- `a` to `z` are 0 to 25, `0` to `9` are 26 to 35. -/
def digit (value : Nat) : Char :=
  if value < 26 then Char.ofNat (0x61 + value) else Char.ofNat (0x30 + value - 26)

def threshold (place bias : Nat) : Nat :=
  if place ≤ bias then 1 else if bias + 26 ≤ place then 26 else place - bias

/-- Divides a distance by 35 until it is small, counting 36 for each step. -/
def shrink (distance steps : Nat) : Nat × Nat :=
  if 455 < distance then shrink (distance / 35) (steps + 36) else (distance, steps)
termination_by distance
decreasing_by exact Nat.div_lt_self (by omega) (by omega)

/-- The bias after a distance has been written. -/
def adapt (distance written : Nat) (isFirst : Bool) : Nat :=
  let halved := if isFirst then distance / 700 else distance / 2
  let (small, steps) := shrink (halved + halved / written) 0
  steps + 36 * small / (small + 38)

/-- A distance in digits of varying base; `fuel` bounds the number of digits. -/
def digits : Nat → Nat → Nat → Nat → List Char
  | 0, _, _, _ => []
  | fuel + 1, bias, place, distance =>
      let limit := threshold place bias
      if distance < limit then [digit distance]
      else
        digit (limit + (distance - limit) % (36 - limit)) ::
          digits fuel bias (place + 36) ((distance - limit) / (36 - limit))

structure Progress where
  output : List Char
  distance : Nat
  bias : Nat
  written : Nat

/-- Passes one character of the label while the code point `current` is being written. -/
def pass (basicCount current : Nat) (progress : Progress) (character : Char) : Progress :=
  if character.toNat < current then { progress with distance := progress.distance + 1 }
  else if character.toNat = current then
    { output := progress.output ++ digits 64 progress.bias 36 progress.distance
      distance := 0
      bias := adapt progress.distance (progress.written + 1) (progress.written == basicCount)
      written := progress.written + 1 }
  else progress

/-- Writes the code points of the list, which increases, into the label. -/
def writeAll (label : List Char) (basicCount : Nat) : List Nat → Nat → Progress → Progress
  | [], _, progress => progress
  | current :: rest, reached, progress =>
      let advanced :=
        { progress with
          distance := progress.distance + (current - reached) * (progress.written + 1) }
      let passed := label.foldl (pass basicCount current) advanced
      writeAll label basicCount rest (current + 1)
        { passed with distance := passed.distance + 1 }

/-- The ASCII form of a label with characters beyond ASCII. -/
def encode (label : List Char) : List Char :=
  let basic := label.filter fun character => character.toNat < 0x80
  let others := ((label.map Char.toNat).filter (0x80 ≤ ·)).mergeSort.eraseDups
  let start := if basic.isEmpty then [] else basic ++ ['-']
  (writeAll label basic.length others 0x80 ⟨start, 0, 72, basic.length⟩).output

def digitValue? (character : Char) : Option Nat :=
  if character.isLower then some (character.toNat - 0x61)
  else if character.isUpper then some (character.toNat - 0x41)
  else if character.isDigit then some (character.toNat - 0x30 + 26)
  else none

/-- Splits a distance in digits of varying base from the front; it fits in 32 bits. -/
def distance? (bias : Nat) : Nat → Nat → Nat → List Char → Option (Nat × List Char)
  | _, _, _, [] => none
  | place, weight, sum, character :: rest =>
      match digitValue? character with
      | none => none
      | some value =>
          let sum := sum + value * weight
          if Nat.pow 2 32 ≤ sum then none
          else
            let limit := threshold place bias
            if value < limit then some (sum, rest)
            else distance? bias (place + 36) (weight * (36 - limit)) sum rest

/-- Inserts what the distances say; `fuel` bounds their number. -/
def insertAll? : Nat → Nat → Nat → Nat → List Char → List Char → Option (List Char)
  | _, _, _, _, label, [] => some label
  | 0, _, _, _, _, _ => none
  | fuel + 1, current, place, bias, label, characters =>
      match distance? bias 36 1 0 characters with
      | none => none
      | some (distance, rest) =>
          let count := label.length + 1
          let reached := place + distance
          let code := current + reached / count
          if Nat.isValidChar code then
            insertAll? fuel code (reached % count + 1)
              (adapt distance count (place == 0))
              (label.insertIdx (reached % count) (Char.ofNat code)) rest
          else none

/-- The label that an ASCII form stands for: the characters before the last hyphen, and what the
digits after it insert. -/
def decode? (characters : List Char) : Option (List Char) :=
  let reversed := characters.reverse
  let after := (reversed.takeWhile (· != '-')).reverse
  let basic := ((reversed.dropWhile (· != '-')).drop 1).reverse
  if after.isEmpty then none
  else if basic.isEmpty && characters.contains '-' then none
  else insertAll? after.length 0x80 0 72 basic after

example : encode "bücher".toList = "bcher-kva".toList := by decide +kernel
example : decode? "bcher-kva".toList = some "bücher".toList := by decide +kernel

end TypedTables.Punycode
