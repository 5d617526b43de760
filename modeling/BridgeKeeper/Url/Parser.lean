import BridgeKeeper.Url.Segments

/-!
Reading a URL that stands alone. Controls and spaces around it are dropped first; then scheme, login,
host, port, path, query and fragment are cut off in turn. Tabs and line breaks count in none of them.
-/
namespace BridgeKeeper.Url

open Text.Percent

def isControlOrSpace (c : Char) : Bool :=
  c.toNat ≤ 0x20

/-- The text without the controls and spaces around it. -/
def trimmed (s : List Char) : List Char :=
  ((s.dropWhile isControlOrSpace).reverse.dropWhile isControlOrSpace).reverse

def isSchemeChar (c : Char) : Bool :=
  c.isAlphanum || c == '+' || c == '-' || c == '.'

/-- The scheme, in lower case, and what follows its colon. -/
def cutScheme (s : List Char) : Option (List Char × List Char) :=
  let belongs (c : Char) : Bool := isSchemeChar c || isTabOrBreak c
  match s.dropWhile belongs with
  | ':' :: r =>
    let scheme := unbroken (s.takeWhile belongs)
    if (scheme.head?.map Char.isAlpha).getD false then some (scheme.map Char.toLower, r) else none
  | _ => none

/-- Where path, query or fragment begins. -/
def endsAuthority (k : SchemeKind) (c : Char) : Bool :=
  isSlash k c || c == '?' || c == '#'

/-- The text before the last `@`, where there is one, and the text behind it. -/
def cutLogin (s : List Char) : Option (List Char × List Char) :=
  match s.reverse.dropWhile (· != '@') with
  | [] => none
  | _ :: before => some (before.reverse, (s.reverse.takeWhile (· != '@')).reverse)

/-- User name and password of a login, encoded. -/
def readLogin (s : List Char) : List Char × List Char :=
  (encode inUserinfo (s.takeWhile (· != ':')), encode inUserinfo ((s.dropWhile (· != ':')).drop 1))

/-- The host's text, which ends at a colon outside brackets, and what follows it. -/
def cutHost (inside : Bool) : List Char → List Char × List Char
  | [] => ([], [])
  | c :: r =>
    if c == ':' && !inside then ([], c :: r)
    else
      let (h, rest) := cutHost (if c == '[' then true else if c == ']' then false else inside) r
      (c :: h, rest)

/-- The port behind a host; the scheme's own port counts as none. -/
def readPort (scheme : List Char) (s : List Char) : Except ParseError (Option Nat) :=
  match s with
  | [] => .ok none
  | _ :: ds =>
    if !ds.all Char.isDigit || 65535 < Text.decimalValue ds then .error .invalidPort
    else if ds.isEmpty || some (Text.decimalValue ds) = defaultPort? scheme then .ok none
    else .ok (some (Text.decimalValue ds))

/-- Path and what follows it. -/
def cutPath (s : List Char) : List Char × List Char :=
  (s.takeWhile fun c => c != '?' && c != '#', s.dropWhile fun c => c != '?' && c != '#')

/-- Query and fragment. -/
def readEnd (k : SchemeKind) (s : List Char) : Option (List Char) × Option (List Char) :=
  let fragment (s : List Char) : Option (List Char) :=
    match s with
    | [] => none
    | _ :: r => some (encode inFragment r)
  match s with
  | '?' :: r =>
    (some (encode (if k.isSpecial then inSpecialQuery else inQuery) (r.takeWhile (· != '#'))),
      fragment (r.dropWhile (· != '#')))
  | s => (none, fragment s)

/-- What follows the two slashes of a URL that is no file. -/
def parseAuthority (scheme : List Char) (s : List Char) : Except ParseError Url := do
  let k := schemeKind scheme
  let authority := s.takeWhile fun c => !endsAuthority k c
  let rest := s.dropWhile fun c => !endsAuthority k c
  let (username, password, place) ← match cutLogin authority with
    | none => pure ([], [], authority)
    | some (login, place) =>
      if login.isEmpty && place.isEmpty && !rest.isEmpty then throw .emptyHost
      else pure ((readLogin login).1, (readLogin login).2, place)
  let (name, portText) := cutHost false place
  if k = .web && name.isEmpty then throw .emptyHost
  let host ← if k = .web then parseDomain name else parseOpaqueHost name
  if name.isEmpty && !portText.isEmpty then throw .emptyHost
  -- Behind a port a backslash ends the authority of every URL.
  let digits := portText.takeWhile (· != '\\')
  let rest := portText.dropWhile (· != '\\') ++ rest
  let port ← readPort scheme digits
  if name.isEmpty && !(username.isEmpty && password.isEmpty) then throw .emptyHost
  let (path, rest) := cutPath rest
  let segments :=
    if k = .web then readSegments k (path.drop 1)
    else match path with
      | [] => []
      | '/' :: r => readSegments k r
      | r => readSegments k r
  let (query, fragment) := readEnd k rest
  return ⟨scheme, username, password, some host, port, .segments segments, query, fragment⟩

/-- A file URL with a host and the text of its path behind the slash that begins it. A host before a
drive letter is dropped. -/
def fileUrl (host : Host) (s : List Char) : Url :=
  let (path, rest) := cutPath s
  let x := Trail.addAll {} .file inPath (splitOn (isSlash .file) path)
  let (query, fragment) := readEnd .file (unbroken rest)
  { scheme := "file".toList, username := [], password := []
    host := some (if x.onDrive then .name [] else host), port := none
    path := .segments (dropEmptyFront x.segments.reverse), query, fragment }

/-- What follows a slash, where the text begins with one. -/
def behindSlash (s : List Char) : Option (List Char) :=
  match s.dropWhile isTabOrBreak with
  | [] => none
  | c :: r => if isSlash .file c then some r else none

/-- Reads what follows the scheme of a file URL. One slash or none leaves the host empty, and so does
`localhost`; a drive letter in the place of the host belongs to the path. Where the host is left
empty behind two slashes, a slash that follows them is one of the path's own. -/
def parseFile (s : List Char) : Except ParseError Url :=
  match behindSlash s with
  | none => .ok (fileUrl (.name []) s)
  | some r =>
    match behindSlash r with
    | none => .ok (fileUrl (.name []) r)
    | some r => do
      let name := unbroken (r.takeWhile fun c => !endsAuthority .file c)
      let rest := r.dropWhile fun c => !endsAuthority .file c
      if isDrive name then return fileUrl (.name []) r
      if name.isEmpty then return fileUrl (.name []) rest
      let host ← parseDomain name
      if host = .name "localhost".toList then return fileUrl (.name []) rest
      return fileUrl host ((behindSlash rest).getD rest)

/-- A URL of a scheme the standard does not name. Without two slashes it has no host, and without
one its path is opaque. -/
def parseOther (scheme : List Char) (s : List Char) : Except ParseError Url :=
  match s with
  | '/' :: '/' :: r => parseAuthority scheme r
  | s =>
    let (path, rest) := cutPath s
    let (query, fragment) := readEnd .other rest
    let path := match path with
      | '/' :: r => .segments (readSegments .other r)
      | r => .opaquePath (encode isControl r)
    .ok ⟨scheme, [], [], none, none, path, query, fragment⟩

/-- Reads a URL; without a scheme it would need another to stand on, and is refused. -/
def parse (text : List Char) : Except ParseError Url :=
  match cutScheme (trimmed text) with
  | none => .error .relativeWithoutBase
  | some (scheme, r) =>
    match schemeKind scheme with
    | .file => parseFile r
    | .web => parseAuthority scheme ((unbroken r).dropWhile (isSlash .web))
    | .other => parseOther scheme (unbroken r)

end BridgeKeeper.Url
