import TypedTables.Uuid

/-!
# Ranges of code points

Character properties are stored as closed ranges of code points in increasing order. A character
has the property when one of the ranges covers it. Long tables are written as words between
blanks, with code points in hexadecimal: `41-5a` is a range, `5f` a range of one code point.
-/

namespace TypedTables.Text

/-- Some closed range of the table contains the code point. -/
def covers (ranges : List (Nat × Nat)) (codePoint : Nat) : Bool :=
  ranges.any fun range => range.1 ≤ codePoint && codePoint ≤ range.2

def splitAt (separator : Char) (characters : List Char) : List (List Char) :=
  characters.foldr (fun character parts =>
    if character = separator then [] :: parts
    else
      match parts with
      | part :: others => (character :: part) :: others
      | [] => [[character]]) [[]]

def wordsOf (table : String) : List (List Char) :=
  (splitAt ' ' (table.toList.map fun character =>
    if character = '\n' then ' ' else character)).filter (!·.isEmpty)

def codePointOf (digits : List Char) : Nat := (Uuid.hexValue? digits).getD 0

def rangeOf (word : List Char) : Nat × Nat :=
  match splitAt '-' word with
  | first :: last :: _ => (codePointOf first, codePointOf last)
  | _ => (codePointOf word, codePointOf word)

def rangesOf (table : String) : List (Nat × Nat) := (wordsOf table).map rangeOf

/-- The ranges of a table whose words end in a decimal number, such as `300-314=230`. -/
def gradedRangesOf (table : String) : List ((Nat × Nat) × Nat) :=
  (wordsOf table).map fun word =>
    let sides := splitAt '=' word
    (rangeOf (sides.headD []),
      (sides.getD 1 []).foldl (fun sum digit => sum * 10 + (digit.toNat - 48)) 0)

example : splitAt '.' ['a', '.', 'b', '.'] = [['a'], ['b'], []] := by decide
example : rangeOf ['4', '1', '-', '5', 'a'] = (0x41, 0x5a) := by decide

end TypedTables.Text
