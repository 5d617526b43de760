import BridgeKeeper.Url.Host

/-!
The segments of a path. Tabs and line breaks are dropped from them, `.` stays where it is, `..` takes
the segment before it away, and drive letters are kept: no `..` gets behind one, in a file URL or any
other, and at the front of a file path a bar behind one is written as a colon.
-/
namespace BridgeKeeper.Url

open Text.Percent

def isTabOrBreak (c : Char) : Bool :=
  c == '\t' || c == '\n' || c == '\r'

/-- The text without tabs and line breaks. -/
def unbroken (s : List Char) : List Char := s.filter fun c => !isTabOrBreak c

/-- What separates segments. -/
def isSlash (k : SchemeKind) (c : Char) : Bool :=
  c == '/' || (k.isSpecial && c == '\\')

def isSingleDot (s : List Char) : Bool :=
  s == ['.'] || s.map Char.toLower == ['%', '2', 'e']

def isDoubleDot (s : List Char) : Bool :=
  let s := s.map Char.toLower
  s == ['.', '.'] || s == ['.', '%', '2', 'e'] || s == ['%', '2', 'e', '.'] ||
    s == ['%', '2', 'e', '%', '2', 'e']

/-- A letter with a colon or a bar, alone or before a backslash. -/
def beginsWithDrive : List Char → Bool
  | a :: b :: r => a.isAlpha && (b == ':' || b == '|') && r.head?.all (· == '\\')
  | _ => false

/-- A letter with a colon or a bar. -/
def isDrive (s : List Char) : Bool := s.length == 2 && beginsWithDrive s

/-- A letter with a colon whose segment goes on behind a tab or a line break, and the rest of the
segment. -/
def cutDrive (s : List Char) : Option (List Char × List Char) :=
  match s.dropWhile isTabOrBreak with
  | [] => none
  | a :: r =>
    match r.dropWhile isTabOrBreak with
    | ':' :: b :: r =>
      if a.isAlpha && isTabOrBreak b && !(unbroken r).isEmpty then some ([a, ':'], unbroken r) else none
    | _ => none

/-- Takes the last segment away, the newest first; a drive letter stays. -/
def shorten : List (List Char) → List (List Char)
  | [] => []
  | s :: before => if beginsWithDrive s then s :: before else before

/-- A path as far as it is read. -/
structure Trail where
  /-- The segments, the newest first. -/
  segments : List (List Char) := []
  /-- Whether a drive letter begins it, before which no host may stand. -/
  onDrive : Bool := false

/-- Adds a segment, which is encoded by the set. Behind a dot segment at the end of the path an empty
segment stands. The drive letter that begins a file path is a segment of its own. -/
def Trail.add (x : Trail) (k : SchemeKind) (set : Char → Bool) (s : List Char) (isLast : Bool) : Trail :=
  let segment := encode set (unbroken s)
  let close (segments : List (List Char)) := if isLast then [] :: segments else segments
  if k = .file ∧ x.segments = [] ∧ isDrive segment then
    { segments := [segment.take 1 ++ [':']], onDrive := true }
  else
    match if k = .file ∧ x.segments = [] then cutDrive s else none with
    | some (drive, rest) => { x with segments := [encode set rest, drive] }
    | none =>
      if isDoubleDot segment then { x with segments := close (shorten x.segments) }
      else if isSingleDot segment then { x with segments := close x.segments }
      else { x with segments := segment :: x.segments }

/-- Adds segments in order, of which the last one ends the path. -/
def Trail.addAll (x : Trail) (k : SchemeKind) (set : Char → Bool) : List (List Char) → Trail
  | [] => x
  | s :: rest => addAll (x.add k set s rest.isEmpty) k set rest

/-- The segments of a path's text behind its first slash. -/
def readSegments (k : SchemeKind) (s : List Char) : List (List Char) :=
  (Trail.addAll {} k inPath (splitOn (isSlash k) s)).segments.reverse

/-- A path of a file begins with no empty segment unless it is the only one. -/
def dropEmptyFront (parts : List (List Char)) : List (List Char) :=
  match parts.dropWhile List.isEmpty with
  | [] => [[]]
  | xs => xs

end BridgeKeeper.Url
