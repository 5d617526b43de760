import BridgeKeeper.Text.Decimal
import BridgeKeeper.Text.Utf8

/-!
Percent-encoding: a character that is not ASCII or belongs to the set in force is written as `%`
and two hexadecimal digits for each byte of its UTF-8 form. The sets contain one another from
`isControl` up to `inUserinfo`.
-/
namespace BridgeKeeper.Text.Percent

/-- Controls, which every set contains. -/
def isControl (c : Char) : Bool :=
  c.toNat < 0x20 || c.toNat == 0x7F

def inFragment (c : Char) : Bool :=
  isControl c || c == ' ' || c == '"' || c == '<' || c == '>' || c == '\x60'

def inPath (c : Char) : Bool :=
  inFragment c || c == '#' || c == '?' || c == '\x7b' || c == '\x7d'

/-- The set for one path segment given as plain text. -/
def inSegment (c : Char) : Bool :=
  inPath c || c == '/' || c == '%'

/-- The same where a backslash separates segments too. -/
def inSpecialSegment (c : Char) : Bool :=
  inSegment c || c == '\\'

def inUserinfo (c : Char) : Bool :=
  inPath c || c == '/' || c == ':' || c == ';' || c == '=' || c == '@' || c == '[' ||
    c == '\\' || c == ']' || c == '^' || c == '|'

def inQuery (c : Char) : Bool :=
  isControl c || c == ' ' || c == '"' || c == '#' || c == '<' || c == '>'

def inSpecialQuery (c : Char) : Bool :=
  inQuery c || c == '\x27'

def upperHexDigit (n : Nat) : Char :=
  if n < 10 then Char.ofNat (48 + n) else Char.ofNat (55 + n)

def escapeByte (b : UInt8) : List Char :=
  ['%', upperHexDigit (b.toNat / 16), upperHexDigit (b.toNat % 16)]

def encodeChar (set : Char → Bool) (c : Char) : List Char :=
  if c.toNat < 0x80 && !set c then [c] else (Utf8.encodeChar c).flatMap escapeByte

def encode (set : Char → Bool) (s : List Char) : List Char :=
  s.flatMap (encodeChar set)

/-- The bytes of a text in which each `%` before two hexadecimal digits stands for a byte. -/
def decode : List Char → List UInt8
  | [] => []
  | '%' :: a :: b :: r =>
    match hexValue? a, hexValue? b with
    | some h, some l => (h * 16 + l).toUInt8 :: decode r
    | _, _ => Utf8.encodeChar '%' ++ decode (a :: b :: r)
  | c :: r => Utf8.encodeChar c ++ decode r

end BridgeKeeper.Text.Percent
