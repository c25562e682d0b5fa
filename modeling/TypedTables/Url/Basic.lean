import TypedTables.Url.Host

/-!
# Locators

A locator has a scheme, an optional authority (credentials, host, port), a path, and an optional
query and fragment. Its written form is unique: everything is stored the way it is written.
-/

namespace TypedTables

/-- A locator with every part in its written form. -/
structure Url where
  scheme : String
  username : List Char
  password : List Char
  host : Option (Option Host)
  port : Option Nat
  path : List Char
  query : Option (List Char)
  fragment : Option (List Char)
  deriving DecidableEq, Repr

namespace Url

/-- Schemes with rules of their own, and the port that each leaves unwritten. -/
def specialSchemes : List (String × Option Nat) :=
  [("http", some 80), ("https", some 443), ("ws", some 80), ("wss", some 443),
    ("ftp", some 21), ("file", none)]

def isSpecialScheme (scheme : String) : Bool := (specialSchemes.lookup scheme).isSome

def defaultPort? (scheme : String) : Option Nat := (specialSchemes.lookup scheme).join

def credentialsText (url : Url) : List Char :=
  if url.username.isEmpty && url.password.isEmpty then []
  else
    url.username ++ (if url.password.isEmpty then [] else ':' :: url.password) ++ ['@']

def authorityText (url : Url) : List Char :=
  match url.host with
  | none => []
  | some host =>
      let port := match url.port with
        | none => []
        | some number => ':' :: Nat.toDigits 10 number
      '/' :: '/' :: (url.credentialsText ++ (host.elim [] Host.text) ++ port)

/-- The path, with a mark in front when it could be taken for an authority. -/
def pathText (url : Url) : List Char :=
  match url.host, url.path with
  | none, '/' :: '/' :: rest => '/' :: '.' :: '/' :: '/' :: rest
  | _, path => path

def text (url : Url) : String :=
  String.ofList (url.scheme.toList ++ ':' :: (url.authorityText ++ url.pathText ++
    url.query.elim [] ('?' :: ·) ++ url.fragment.elim [] ('#' :: ·)))

end Url
end TypedTables
