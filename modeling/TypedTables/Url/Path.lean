import TypedTables.Text.Casing
import TypedTables.Text.CodePoints
import TypedTables.Url.Percent

/-!
# Paths

A path is written segment by segment. A segment of one dot is left out, and one of two dots takes
the segment before it away; dots may be percent-encoded. The name of a drive is never taken away:
not by a file path, and before a slash not by any other. A file path that begins with the name of
a drive belongs to no host.
-/

namespace TypedTables.Path

def isDot (segment : List Char) : Bool :=
  [".", "%2e"].contains (Text.asciiLower (String.ofList segment))

def isDoubleDot (segment : List Char) : Bool :=
  ["..", ".%2e", "%2e.", "%2e%2e"].contains (Text.asciiLower (String.ofList segment))

def isDrive : List Char → Bool
  | [letter, mark] => letter.isAlpha && (mark == ':' || mark == '|')
  | _ => false

/-- The name of a drive as it is written. -/
def isWrittenDrive (segment : List Char) : Bool := isDrive segment && segment.contains ':'

/-- The text begins with the name of a drive that ends there or before a separator. -/
def beginsWithDrive : List Char → Bool
  | letter :: mark :: rest =>
      isDrive [letter, mark] && rest.head?.all ['/', '\x5c', '?', '#'].contains
  | _ => false

def endsInSlash (written : List Char) : Bool := written.getLast? == some '/'

/-- Everything up to the last slash, with it. -/
def toLastSlash (written : List Char) : List Char :=
  (written.reverse.dropWhile (· != '/')).reverse

/-- Everything after the last slash. -/
def lastSegment (written : List Char) : List Char :=
  (written.reverse.takeWhile (· != '/')).reverse

def withSlash (written : List Char) : List Char :=
  if endsInSlash written then written else written ++ ['/']

/-- Takes the last slash away, if there is one before it and no name of a drive between them. -/
def withoutLastSlash (written : List Char) : List Char :=
  let before := written.dropLast
  if endsInSlash written && before.contains '/' && !beginsWithDrive (lastSegment before) then before
  else written

/-- Takes the last segment away; a file path keeps the name of a drive. -/
def shorten (isFile : Bool) (written : List Char) : List Char :=
  if isFile && isWrittenDrive (lastSegment written) then written else toLastSlash written

structure Progress where
  written : List Char
  /-- The path belongs to no host. -/
  dropsHost : Bool

/-- Writes one more segment and the slash after it, if there is one. -/
def Progress.add (isFile : Bool) (progress : Progress) (segment : List Char) (isLast : Bool) :
    Progress :=
  let written := progress.written
  let slash := if isLast then [] else ['/']
  if isDoubleDot segment then
    let shortened := shorten isFile (withoutLastSlash written)
    { progress with written := if isLast then shortened else withSlash shortened }
  else if isDot segment then { progress with written := withSlash written }
  else
    let encoded := Percent.encode .path segment
    if isFile && written.length = 1 && isDrive encoded then
      ⟨written ++ encoded.take 1 ++ [':'] ++ slash, true⟩
    else { progress with written := written ++ encoded ++ slash }

/-- Writes the segments that follow what is written; a file path has one slash at its front. -/
def write (isFile : Bool) (start : List Char) (segments : List (List Char)) : Progress :=
  let progress := segments.zipIdx.foldl (fun progress (segment, place) =>
    progress.add isFile segment (place + 1 == segments.length)) ⟨start, false⟩
  if isFile then
    { progress with written := '/' :: progress.written.dropWhile (· == '/') }
  else progress

end TypedTables.Path
