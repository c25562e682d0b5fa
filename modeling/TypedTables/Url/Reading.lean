import TypedTables.Url.Basic
import TypedTables.Url.Path

/-!
# Reading locators

Blanks and control characters around a locator, and line ends and tabs inside it, are dropped. A
scheme comes first. Schemes with rules of their own take any number of slashes before the
authority and backslashes for slashes; other schemes have an authority only after two slashes.
Segments of one or two dots are resolved, and each part is percent-encoded as it requires.
-/

namespace TypedTables.Url

/-- Drops what may surround a locator and the characters it ignores. -/
def cleaned (characters : List Char) : List Char :=
  let isPadding (character : Char) : Bool := character.toNat ≤ 0x20
  let trimmed := ((characters.dropWhile isPadding).reverse.dropWhile isPadding).reverse
  trimmed.filter fun character => character != '\t' && character != '\n' && character != '\r'

/-- The scheme at the front, in lower case, and what follows its colon. -/
def scheme? (characters : List Char) : Option (String × List Char) :=
  let isSchemeTail (character : Char) : Bool :=
    character.isAlphanum || ['+', '-', '.'].contains character
  match characters with
  | first :: _ =>
      if first.isAlpha then
        match characters.dropWhile isSchemeTail with
        | ':' :: rest =>
            some (Text.asciiLower (String.ofList (characters.takeWhile isSchemeTail)), rest)
        | _ => none
      else none
  | [] => none

def isSlash (special : Bool) (character : Char) : Bool :=
  character == '/' || (special && character == '\x5c')

/-- Takes everything up to the characters that end an authority. -/
def splitAuthority (special : Bool) (characters : List Char) : List Char × List Char :=
  let ends (character : Char) : Bool :=
    isSlash special character || character == '?' || character == '#'
  (characters.takeWhile (!ends ·), characters.dropWhile (!ends ·))

/-- Splits at the last at sign. -/
def splitCredentials (authority : List Char) : Option (List Char) × List Char :=
  let reversed := authority.reverse
  match reversed.dropWhile (· != '@') with
  | _ :: before => (some before.reverse, (reversed.takeWhile (· != '@')).reverse)
  | [] => (none, authority)

/-- The written form of a user name and a password. -/
def credentials (written : List Char) : List Char × List Char :=
  (Percent.encode .userinfo (written.takeWhile (· != ':')),
    Percent.encode .userinfo ((written.dropWhile (· != ':')).drop 1))

/-- Splits a host from its port at the first colon outside brackets. -/
def splitPort : Bool → List Char → List Char × Option (List Char)
  | _, [] => ([], none)
  | inside, character :: rest =>
      if character == ':' && !inside then ([], some rest)
      else
        let nowInside := if character == '[' then true else if character == ']' then false
          else inside
        let (host, port) := splitPort nowInside rest
        (character :: host, port)

/-- A port number and what follows it, which a backslash may begin; an empty number and the one
the scheme implies are left unwritten. -/
def port? (scheme : String) (characters : List Char) : Option (Option Nat × List Char) :=
  let digits := characters.takeWhile Char.isDigit
  let rest := characters.dropWhile Char.isDigit
  let number := digits.foldl (fun sum digit => min 70000 (sum * 10 + (digit.toNat - 48))) 0
  if rest.head?.any (· != '\x5c') || 65535 < number then none
  else if digits.isEmpty || defaultPort? scheme == some number then some (none, rest)
  else some (some number, rest)

/-- Splits a path at its slashes. -/
def splitSlashes (special : Bool) (path : List Char) : List (List Char) :=
  Text.splitAt '/' (path.map fun character => if isSlash special character then '/' else character)

/-- The query and fragment that follow a path. -/
def splitTail (special : Bool) (characters : List Char) :
    List Char × Option (List Char) × Option (List Char) :=
  let body := characters.takeWhile (· != '#')
  let fragment := match characters.dropWhile (· != '#') with
    | _ :: rest => some (Percent.encode .fragment rest)
    | [] => none
  let path := body.takeWhile (· != '?')
  let query := match body.dropWhile (· != '?') with
    | _ :: rest => some (Percent.encode (if special then .specialQuery else .query) rest)
    | [] => none
  (path, query, fragment)

/-- The path after an authority: its first slash may be missing, and under a special scheme the
whole of it. -/
def pathAfterAuthority (special : Bool) (path : List Char) : List Char :=
  match path with
  | [] => if special then ['/'] else []
  | first :: rest =>
      (Path.write false ['/']
        (splitSlashes special (if isSlash special first then rest else path))).written

def withAuthority? (scheme : String) (characters : List Char) : Option Url := do
  let special := isSpecialScheme scheme
  let (authority, afterAuthority) := splitAuthority special characters
  let (given, hostAndPort) := splitCredentials authority
  let (username, password) := (given.map credentials).getD ([], [])
  let (hostText, portText) := splitPort false hostAndPort
  let refused :=
    (given == some [] && hostAndPort.isEmpty && !afterAuthority.isEmpty) ||
      (hostText.isEmpty &&
        (special || portText.isSome || !username.isEmpty || !password.isEmpty))
  if refused then none
  else
    let host ←
      if hostText.isEmpty then some none
      else (if special then Host.ofSpecial? hostText else Host.ofGeneral? hostText).map some
    let (port, afterPort) ← portText.elim (some (none, [])) (port? scheme)
    let (path, query, fragment) := splitTail special (afterPort ++ afterAuthority)
    return { scheme, username, password, host := some host, port
             path := pathAfterAuthority special path, query, fragment }

/-- A locator of a file: its host may be missing, the local host counts as missing, and a path
that begins with the name of a drive has none. -/
def file? (characters : List Char) : Option Url := do
  let finish (host : Option Host) (start : List Char) (rest : List Char) : Url :=
    let (path, query, fragment) := splitTail true rest
    let progress := Path.write true start (splitSlashes true path)
    { scheme := "file", username := [], password := []
      host := some (if progress.dropsHost then none else host), port := none
      path := progress.written, query, fragment }
  match characters with
  | first :: second :: rest =>
      if isSlash true first && isSlash true second then
        let (hostText, afterHost) := splitAuthority true rest
        if hostText.isEmpty || Path.isDrive hostText then return finish none ['/'] rest
        else
          let host ← Host.ofSpecial? hostText
          if host = .domain "localhost".toList then return finish none [] afterHost
          else
            return finish host ['/']
              (if afterHost.head?.any (isSlash true) then afterHost.drop 1 else afterHost)
      else if isSlash true first then return finish none [] characters
      else return finish none ['/'] characters
  | [first] => return finish none (if isSlash true first then [] else ['/']) characters
  | [] => return finish none ['/'] characters

def withoutAuthority (scheme : String) (characters : List Char) : Url :=
  let (path, query, fragment) := splitTail false characters
  let written := match path with
    | '/' :: rest => (Path.write false ['/'] (splitSlashes false rest)).written
    | _ => Percent.encode .opaquePart path
  { scheme, username := [], password := [], host := none, port := none
    path := written, query, fragment }

/-- Reads an absolute locator. -/
def ofText? (text : String) : Option Url := do
  let (scheme, rest) ← scheme? (cleaned text.toList)
  if scheme = "file" then file? rest
  else if isSpecialScheme scheme then withAuthority? scheme (rest.dropWhile (isSlash true))
  else
    match rest with
    | '/' :: '/' :: authority => withAuthority? scheme authority
    | _ => return withoutAuthority scheme rest

end TypedTables.Url
