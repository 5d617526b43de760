import BridgeKeeper.Json.Value
import BridgeKeeper.Text.Utf8

/-!
Reading JSON text. The input is a list of characters in which `none` stands where bytes denote no
character, so that such bytes may stand inside a string literal and nowhere else. The reader
accepts the grammar of RFC 8259 and nothing around it; depth and size of numbers are unbounded.
-/
namespace BridgeKeeper.Json

abbrev Input := List (Option Char)

def isSpace : Option Char → Bool
  | some c => c == ' ' || c == '\t' || c == '\n' || c == '\r'
  | none => false

def skipSpace (i : Input) : Input :=
  i.dropWhile isSpace

/-- The decimal digits at the front, and the rest. -/
def takeDigits : Input → List Char × Input
  | some c :: r =>
    if c.isDigit then
      let (ds, r') := takeDigits r
      (c :: ds, r')
    else ([], some c :: r)
  | i => ([], i)

def readFraction : Input → Option (List Char × Input)
  | some '.' :: r =>
    let (ds, r') := takeDigits r
    if ds.isEmpty then none else some (ds, r')
  | i => some ([], i)

def readExponent (i : Input) : Option (Option (Bool × List Char) × Input) :=
  let digits (negative : Bool) (r : Input) :=
    let (ds, r') := takeDigits r
    if ds.isEmpty then none else some (some (negative, ds), r')
  let signed : Input → Option (Option (Bool × List Char) × Input)
    | some '-' :: r => digits true r
    | some '+' :: r => digits false r
    | r => digits false r
  match i with
  | some 'e' :: r => signed r
  | some 'E' :: r => signed r
  | r => some (none, r)

/-- The whole part: one zero, or digits of which the first is not zero. -/
def readWhole (i : Input) : Option (Nat × Input) :=
  match i with
  | some '0' :: r => some (0, r)
  | r =>
    let (ds, r') := takeDigits r
    if ds.isEmpty then none else some (Text.decimalValue ds, r')

def readUnsigned (negative : Bool) (i : Input) : Option (Number × Input) := do
  let (whole, r) ← readWhole i
  let (fraction, r) ← readFraction r
  let (exponent, r) ← readExponent r
  return (⟨negative, whole, fraction, exponent⟩, r)

def readNumber : Input → Option (Number × Input)
  | some '-' :: r => readUnsigned true r
  | r => readUnsigned false r

/-- A part of a string literal: a character, a `\u` escape, or bytes that are no character. -/
inductive Piece where
  | char (c : Char)
  | unit (n : Nat)
  | stray

def escape? : Char → Option Char
  | '"' => some '"'
  | '\\' => some '\\'
  | '/' => some '/'
  | 'b' => some '\x08'
  | 'f' => some '\x0c'
  | 'n' => some '\n'
  | 'r' => some '\r'
  | 't' => some '\t'
  | _ => none

def hexUnit? (a b c d : Char) : Option Nat := do
  let a ← Text.hexValue? a
  let b ← Text.hexValue? b
  let c ← Text.hexValue? c
  let d ← Text.hexValue? d
  return ((a * 16 + b) * 16 + c) * 16 + d

/-- The parts of a string literal up to its closing quotation mark, and the rest. -/
def readPieces : Input → Option (List Piece × Input)
  | [] => none
  | some '"' :: r => some ([], r)
  | some '\\' :: some 'u' :: some a :: some b :: some c :: some d :: r => do
    let n ← hexUnit? a b c d
    let (ps, r) ← readPieces r
    return (.unit n :: ps, r)
  | some '\\' :: some e :: r => do
    let c ← escape? e
    let (ps, r) ← readPieces r
    return (.char c :: ps, r)
  | some c :: r =>
    if c.toNat < 0x20 || c == '\\' then none
    else do
      let (ps, r) ← readPieces r
      return (.char c :: ps, r)
  | none :: r => do
    let (ps, r) ← readPieces r
    return (.stray :: ps, r)

def isHighSurrogate (n : Nat) : Bool := 0xD800 ≤ n && n < 0xDC00

def isLowSurrogate (n : Nat) : Bool := 0xDC00 ≤ n && n < 0xE000

/-- The text of a string literal, where every surrogate has its partner and all bytes denote
characters. -/
def textOf? : List Piece → Option (List Char)
  | [] => some []
  | .char c :: r => (textOf? r).map (c :: ·)
  | .unit h :: .unit l :: r =>
    if isHighSurrogate h then
      if isLowSurrogate l then
        (textOf? r).map (Char.ofNat (0x10000 + (h - 0xD800) * 0x400 + (l - 0xDC00)) :: ·)
      else none
    else if isLowSurrogate h then none
    else (textOf? (.unit l :: r)).map (Char.ofNat h :: ·)
  | .unit n :: r =>
    if isHighSurrogate n || isLowSurrogate n then none else (textOf? r).map (Char.ofNat n :: ·)
  | .stray :: _ => none

/-- A string literal behind its opening quotation mark. -/
def readString (i : Input) : Option (Option String × Input) := do
  let (ps, r) ← readPieces i
  return ((textOf? ps).map String.ofList, r)

mutual

/-- One value and the rest. The number bounds how many nested calls may be made. -/
def readValue : Nat → Input → Option (Value × Input)
  | 0, _ => none
  | n + 1, i =>
    match skipSpace i with
    | some '\x7b' :: r =>
      match skipSpace r with
      | some '\x7d' :: r => some (.object [], r)
      | r => (readMembers n r).map fun (ms, r) => (.object ms, r)
    | some '[' :: r =>
      match skipSpace r with
      | some ']' :: r => some (.array [], r)
      | r => (readItems n r).map fun (vs, r) => (.array vs, r)
    | some '"' :: r => (readString r).map fun (s, r) => (.string s, r)
    | some 't' :: some 'r' :: some 'u' :: some 'e' :: r => some (.bool true, r)
    | some 'f' :: some 'a' :: some 'l' :: some 's' :: some 'e' :: r => some (.bool false, r)
    | some 'n' :: some 'u' :: some 'l' :: some 'l' :: r => some (.null, r)
    | r => (readNumber r).map fun (m, r) => (.number m, r)

/-- The items of an array up to its closing bracket. -/
def readItems : Nat → Input → Option (List Value × Input)
  | 0, _ => none
  | n + 1, i => do
    let (v, r) ← readValue n i
    match skipSpace r with
    | some ',' :: r =>
      let (vs, r) ← readItems n r
      return (v :: vs, r)
    | some ']' :: r => return ([v], r)
    | _ => none

/-- The members of an object up to its closing brace. -/
def readMembers : Nat → Input → Option (List (Option String × Value) × Input)
  | 0, _ => none
  | n + 1, i =>
    match skipSpace i with
    | some '"' :: r => do
      let (k, r) ← readString r
      match skipSpace r with
      | some ':' :: r =>
        let (v, r) ← readValue n r
        match skipSpace r with
        | some ',' :: r =>
          let (ms, r) ← readMembers n r
          return ((k, v) :: ms, r)
        | some '\x7d' :: r => return ([(k, v)], r)
        | _ => none
      | _ => none
    | _ => none

end

/-- The value that the whole input denotes. Each call but one per level takes a character, so
twice the length is bound enough. -/
def read? (i : Input) : Option Value := do
  let (v, r) ← readValue (2 * i.length + 2) i
  if (skipSpace r).isEmpty then some v else none

def ofText? (s : String) : Option Value :=
  read? (s.toList.map some)

def ofBytes? (bytes : List UInt8) : Option Value :=
  read? (Text.Utf8.decode bytes)

end BridgeKeeper.Json
