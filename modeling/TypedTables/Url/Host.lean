import TypedTables.Url.Domain
import TypedTables.Url.Percent

/-!
# Hosts

A host is a domain, a numeric address of four octets or of eight 16-bit pieces, or, under a scheme
without rules of its own, any text. A domain whose last label is a number is a numeric address or
nothing. Pieces are written in hexadecimal, the longest run of zeros left out.
-/

namespace TypedTables

inductive Host where
  | domain (name : List Char)
  | address (number : Nat)
  | pieces (values : List Nat)
  | verbatim (name : List Char)
  deriving DecidableEq, Repr

namespace Host

/-- Characters that no host may hold. -/
def isForbidden (character : Char) : Bool :=
  ['\x00', '\t', '\n', '\r', ' ', '#', '/', ':', '<', '>', '?', '@', '[', '\x5c', ']', '^',
    '|'].contains character

/-- A part of a numeric address: decimal, octal after `0`, hexadecimal after `0x`. -/
def addressPart? (characters : List Char) : Option Nat :=
  let read (base : Nat) (digits : List Char) : Option Nat :=
    digits.foldlM (fun value digit =>
      (Uuid.hexDigit? digit).bind fun place =>
        if place < base then some (value * base + place) else none) 0
  match characters with
  | [] => none
  | '0' :: 'x' :: rest => read 16 rest
  | '0' :: 'X' :: rest => read 16 rest
  | '0' :: second :: rest => read 8 (second :: rest)
  | digits => read 10 digits

/-- The labels of a domain, an empty one at the end left out. -/
def labelsOf (name : List Char) : List (List Char) :=
  let labels := Text.splitAt '.' name
  if labels.length > 1 && labels.getLast? == some [] then labels.dropLast else labels

/-- The last label is a number, so the whole must be a numeric address. -/
def endsInNumber (name : List Char) : Bool :=
  match (labelsOf name).getLast? with
  | some last => !last.isEmpty && (last.all Char.isDigit || (addressPart? last).isSome)
  | none => false

/-- A numeric address: up to four parts, the last of which fills the octets that are left. -/
def address? (name : List Char) : Option Nat := do
  let parts ← (labelsOf name).mapM addressPart?
  match parts.reverse with
  | [] => none
  | last :: leading =>
      if parts.length ≤ 4 && leading.all (· ≤ 255) && last < Nat.pow 256 (5 - parts.length) then
        let high := leading.reverse.zipIdx.foldl
          (fun sum (part, place) => sum + part * Nat.pow 256 (3 - place)) 0
        some (high + last)
      else none

/-- Pieces of one to four hexadecimal digits with single colons between them. -/
def pieceList? (parts : List (List Char)) : Option (List Nat) :=
  parts.foldlM (fun pieces part =>
    if part.isEmpty then none
    else if part.contains '.' then
      let octets := (Text.splitAt '.' part).mapM fun octet =>
        if octet.isEmpty || octet.length > 3 || !octet.all Char.isDigit ||
            (octet.length > 1 && octet.head? == some '0') then none
        else
          let value := octet.foldl (fun sum digit => sum * 10 + (digit.toNat - 48)) 0
          if value ≤ 255 then some value else none
      match octets with
      | some [first, second, third, fourth] =>
          some (pieces ++ [first * 256 + second, third * 256 + fourth])
      | _ => none
    else if part.length ≤ 4 then (Uuid.hexValue? part).map fun value => pieces ++ [value]
    else none) []

/-- Only the last part may be written as four octets. -/
def octetsOnlyLast (parts : List (List Char)) : Bool :=
  parts.dropLast.all fun part => !part.contains '.'

def splitPair : List Char → Option (List Char × List Char)
  | ':' :: ':' :: rest => some ([], rest)
  | character :: rest => (splitPair rest).map fun (before, after) => (character :: before, after)
  | [] => none

/-- Eight pieces; one pair of colons stands for the zeros that are missing. -/
def pieces? (characters : List Char) : Option (List Nat) :=
  match splitPair characters with
  | none =>
      let parts := Text.splitAt ':' characters
      if octetsOnlyLast parts then
        (pieceList? parts).bind fun pieces => if pieces.length = 8 then some pieces else none
      else none
  | some (before, after) =>
      let partsOf (side : List Char) : List (List Char) :=
        if side.isEmpty then [] else Text.splitAt ':' side
      let leading := partsOf before
      let trailing := partsOf after
      if leading.all (fun part => !part.contains '.') && octetsOnlyLast trailing then do
        let high ← pieceList? leading
        let low ← pieceList? trailing
        if high.length + low.length ≤ 7 then
          return high ++ List.replicate (8 - high.length - low.length) 0 ++ low
        else none
      else none

/-- The host of a locator under a scheme with rules of its own. -/
def ofSpecial? (characters : List Char) : Option Host :=
  match characters with
  | '[' :: rest =>
      if rest.getLast? == some ']' then (pieces? rest.dropLast).map .pieces else none
  | _ => do
      let name ← Domain.asciiForm? (← Percent.decode? characters)
      if name.isEmpty then none
      else if endsInNumber name then (address? name).map .address
      else some (.domain name)

/-- The host of a locator under any other scheme. -/
def ofGeneral? (characters : List Char) : Option Host :=
  match characters with
  | '[' :: rest =>
      if rest.getLast? == some ']' then (pieces? rest.dropLast).map .pieces else none
  | _ =>
      if characters.any isForbidden then none
      else some (.verbatim (Percent.encode .opaquePart characters))

/-- The lengths of the runs of zeros that start at each place. -/
def zeroRuns : List Nat → List Nat
  | [] => []
  | value :: rest =>
      let runs := zeroRuns rest
      (if value = 0 then runs.headD 0 + 1 else 0) :: runs

/-- Pieces in hexadecimal; the first of the longest runs of two or more zeros becomes a pair of
colons. -/
def piecesText (values : List Nat) : List Char :=
  let write (some_values : List Nat) : List Char :=
    ((some_values.map (Nat.toDigits 16)).intersperse [':']).flatten
  let runs := zeroRuns values
  let longest := runs.foldl max 0
  if longest < 2 then write values
  else
    let place := runs.findIdx (· == longest)
    write (values.take place) ++ [':', ':'] ++ write (values.drop (place + longest))

def text : Host → List Char
  | .domain name => name
  | .verbatim name => name
  | .pieces values => '[' :: (piecesText values ++ [']'])
  | .address number =>
      (([3, 2, 1, 0].map fun place => Nat.toDigits 10 (number / Nat.pow 256 place % 256)).intersperse
        ['.']).flatten

end Host
end TypedTables
