import BridgeKeeper.Url.Host

/-!
The text of a URL, and the part of it that an HTTP request names.
-/
namespace BridgeKeeper.Url

def loginChars (u : Url) : List Char :=
  if u.username.isEmpty && u.password.isEmpty then []
  else u.username ++ (if u.password.isEmpty then [] else ':' :: u.password) ++ ['@']

def portChars (u : Url) : List Char :=
  match u.port with
  | none => []
  | some p => ':' :: Text.decimal p

def segmentChars (parts : List (List Char)) : List Char :=
  parts.flatMap ('/' :: ·)

def Path.chars : Path → List Char
  | .opaquePath s => s
  | .segments parts => segmentChars parts

def queryChars (u : Url) : List Char :=
  match u.query with
  | none => []
  | some q => '?' :: q

def fragmentChars (u : Url) : List Char :=
  match u.fragment with
  | none => []
  | some f => '#' :: f

/-- Host with login and port. Without a host, a path that begins with two slashes is kept apart
from the scheme by a dot segment. -/
def authorityChars (u : Url) : List Char :=
  match u.host, u.path with
  | some h, _ => '/' :: '/' :: loginChars u ++ h.chars ++ portChars u
  | none, .segments ([] :: _ :: _) => ['/', '.']
  | none, _ => []

def chars (u : Url) : List Char :=
  u.scheme ++ ':' :: authorityChars u ++ u.path.chars ++ queryChars u ++ fragmentChars u

def text (u : Url) : String := String.ofList u.chars

/-- Path and query: what a request for the URL asks the server for. -/
def target (u : Url) : String := String.ofList (u.path.chars ++ queryChars u)

end BridgeKeeper.Url
