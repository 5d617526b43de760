import BridgeKeeper.Url.Parser

/-!
Changing parts of a URL: user name, fragment, and segments appended to the path.
-/
namespace BridgeKeeper.Url

open Text.Percent

/-- A URL with a host can have a login, unless it is a file. -/
def takesLogin (u : Url) : Bool :=
  match u.host with
  | none => false
  | some h => h != .name [] && u.scheme != "file".toList

def setUsername? (u : Url) (name : List Char) : Option Url :=
  if u.takesLogin then some { u with username := encode inUserinfo name } else none

def setFragment (u : Url) (text : List Char) : Url :=
  { u with fragment := some (encode inFragment (unbroken text)) }

/-- The set for segments appended to the path. -/
def segmentSet (k : SchemeKind) : Char → Bool :=
  if k.isSpecial then inSpecialSegment else inSegment

/-- The segments without an empty one at the end, unless it is the only one. -/
def dropEmptyLast (parts : List (List Char)) : List (List Char) :=
  if parts ≠ [[]] ∧ parts.getLast? = some [] then parts.dropLast else parts

/-- Appends one segment given as plain text; the root path has none yet. A text that is a dot
segment as it stands is passed over; one that becomes a dot segment when tabs and line breaks are
dropped is resolved. -/
def appendSegment (k : SchemeKind) (parts : List (List Char)) (text : List Char) :
    List (List Char) :=
  if text = ['.'] || text = ['.', '.'] then parts
  else
    let before := if parts = [[]] then [] else parts
    let x : Trail := { segments := before.reverse }
    (x.add k (segmentSet k) text true).segments.reverse

/-- The URL with the segments appended behind its path, less one empty segment at its end. -/
def appendSegments (u : Url) (texts : List (List Char)) : Url :=
  match u.path with
  | .opaquePath _ => u
  | .segments parts =>
    { u with path := .segments (texts.foldl (appendSegment u.kind) (dropEmptyLast parts)) }

end BridgeKeeper.Url
