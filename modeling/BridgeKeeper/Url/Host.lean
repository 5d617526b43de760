import BridgeKeeper.Url.Basic
import BridgeKeeper.Url.Label.Check

/-!
Hosts of URLs: names, IPv4 numbers in any of their notations, and IPv6 addresses with their
shortest text.
-/
namespace BridgeKeeper.Url

/-- The parts between the separators, at least one. -/
def splitOn (isSep : Char → Bool) : List Char → List (List Char)
  | [] => [[]]
  | c :: r =>
    if isSep c then [] :: splitOn isSep r
    else
      match splitOn isSep r with
      | [] => [[c]]
      | p :: ps => (c :: p) :: ps

/-- The number that the digits denote in the base, where all of them belong to it. -/
def digitsIn? (base : Nat) (ds : List Char) : Option Nat :=
  ds.foldlM (fun n c => do
    let d ← Text.hexValue? c
    if d < base then some (n * base + d) else none) 0

/-- A part of an IPv4 address: hexadecimal behind `0x`, octal behind `0`, else decimal. -/
def ipv4Part? : List Char → Option Nat
  | [] => none
  | '0' :: 'x' :: r => digitsIn? 16 r
  | '0' :: 'X' :: r => digitsIn? 16 r
  | '0' :: c :: r => digitsIn? 8 (c :: r)
  | ds => digitsIn? 10 ds

/-- A name whose last label, one trailing dot aside, is a number is read as an IPv4 address. -/
def endsInNumber (s : List Char) : Bool :=
  let isNumber (p : List Char) := (!p.isEmpty && p.all Char.isDigit) || (ipv4Part? p).isSome
  match (splitOn (· == '.') s).reverse with
  | [] :: p :: _ => isNumber p
  | [] :: [] => false
  | p :: _ => isNumber p
  | [] => false

/-- One to four numbers; all but the last are bytes and the last fills the rest. -/
def parseIpv4 (s : List Char) : Except ParseError Nat :=
  let parts := splitOn (· == '.') s
  let parts := if parts.getLast? = some [] then parts.dropLast else parts
  match parts.mapM ipv4Part? with
  | none => .error .invalidIpv4
  | some numbers =>
    match numbers.reverse with
    | [] => .error .invalidIpv4
    | last :: front =>
      if 3 < front.length || front.any (255 < ·) || Nat.pow 256 (4 - front.length) ≤ last then
        .error .invalidIpv4
      else .ok (front.reverse.zipIdx.foldr (fun (n, i) v => n * Nat.pow 256 (3 - i) + v) last)

def ipv4Chars (address : Nat) : List Char :=
  let byte (i : Nat) := Text.decimal (address / Nat.pow 256 i % 256)
  byte 3 ++ '.' :: byte 2 ++ '.' :: byte 1 ++ '.' :: byte 0

/-- The two pieces that a dotted address at the end of an IPv6 address stands for. -/
def embeddedIpv4? (s : List Char) : Option (List Nat) := do
  let byte (p : List Char) : Option Nat :=
    if p.isEmpty || 3 < p.length || !p.all Char.isDigit || (1 < p.length && p.head? == some '0') then
      none
    else (some (Text.decimalValue p)).filter (· ≤ 255)
  match ← (splitOn (· == '.') s).mapM byte with
  | [a, b, c, d] => some [a * 256 + b, c * 256 + d]
  | _ => none

/-- The pieces between colons: one to four hexadecimal digits each. -/
def ipv6Groups? : List (List Char) → Option (List Nat)
  | [] => some []
  | [g] =>
    if g.contains '.' then embeddedIpv4? g
    else if g.isEmpty || 4 < g.length then none
    else (digitsIn? 16 g).map ([·])
  | g :: gs => do
    if g.isEmpty || 4 < g.length then none
    let n ← digitsIn? 16 g
    let rest ← ipv6Groups? gs
    return n :: rest

/-- Cuts the text at the first double colon. -/
def cutAtDoubleColon : List Char → Option (List Char × List Char)
  | [] => none
  | ':' :: ':' :: r => some ([], r)
  | c :: r => (cutAtDoubleColon r).map fun (a, b) => (c :: a, b)

def ipv6Side? (s : List Char) : Option (List Nat) :=
  if s.isEmpty then some [] else ipv6Groups? (splitOn (· == ':') s)

/-- The eight pieces of an address; a double colon stands for one zero piece or more. -/
def parseIpv6? (s : List Char) : Option (List Nat) :=
  match cutAtDoubleColon s with
  | none => (ipv6Groups? (splitOn (· == ':') s)).filter (·.length == 8)
  | some (front, back) => do
    if front.contains '.' then none
    let a ← ipv6Side? front
    let b ← ipv6Side? back
    if 7 < a.length + b.length then none
    return a ++ List.replicate (8 - a.length - b.length) 0 ++ b

/-- How many zeros stand at the front. -/
def zeroRun (ps : List Nat) : Nat :=
  (ps.takeWhile (· == 0)).length

/-- Start and length of the first of the longest runs of two zeros or more. -/
def longestZeroRun (ps : List Nat) : Option (Nat × Nat) :=
  let runs := (List.range ps.length).map fun i => (i, zeroRun (ps.drop i))
  runs.foldl (fun best run =>
    if run.2 < 2 then best
    else match best with
      | none => some run
      | some b => if b.2 < run.2 then some run else some b) none

def joinColons (ps : List Nat) : List Char :=
  List.intercalate [':'] (ps.map Text.hexadecimal)

def ipv6Chars (ps : List Nat) : List Char :=
  match longestZeroRun ps with
  | none => joinColons ps
  | some (i, n) => joinColons (ps.take i) ++ [':', ':'] ++ joinColons (ps.drop (i + n))

def Host.chars : Host → List Char
  | .name s => s
  | .ipv4 a => ipv4Chars a
  | .ipv6 ps => '[' :: ipv6Chars ps ++ [']']

def bracketed? (s : List Char) : Option (Except ParseError Host) :=
  match s with
  | '[' :: r =>
    some <| match r.getLast? with
      | some ']' =>
        match parseIpv6? r.dropLast with
        | some ps => .ok (.ipv6 ps)
        | none => .error .invalidIpv6
      | _ => .error .invalidIpv6
  | _ => none

/-- Characters that no host may hold. -/
def isForbidden (c : Char) : Bool :=
  c == '\x00' || c == '\t' || c == '\n' || c == '\r' || c == ' ' || c == '#' || c == '/' ||
    c == ':' || c == '<' || c == '>' || c == '?' || c == '@' || c == '[' || c == '\\' ||
    c == ']' || c == '^' || c == '|'

/-- The host of a URL whose scheme the standard does not name. -/
def parseOpaqueHost (s : List Char) : Except ParseError Host :=
  match bracketed? s with
  | some h => h
  | none =>
    if s.any isForbidden then .error .invalidDomainCharacter
    else .ok (.name (Text.Percent.encode Text.Percent.isControl s))

/-- The host of a web or file URL. Names are percent-decoded and put in lower case, and those with labels
that may not be used are refused. Only ASCII names are read: a name in another script has to be given as
the ASCII one that the standard maps it to, for the tables of that mapping are left out. -/
def parseDomain (s : List Char) : Except ParseError Host :=
  match bracketed? s with
  | some h => h
  | none =>
    match Text.Utf8.decode? (Text.Percent.decode s) with
    | none => .error .invalidInternationalName
    | some name =>
      if name.any fun c => isForbidden c || Text.Percent.isControl c || c == '%' || 0x7F < c.toNat then
        .error .invalidInternationalName
      else if name.isEmpty then .error .emptyHost
      else
        let name := name.map Char.toLower
        if !Label.areUsable (splitOn (· == '.') name) then .error .invalidInternationalName
        else if endsInNumber name then (parseIpv4 name).map .ipv4 else .ok (.name name)

end BridgeKeeper.Url
